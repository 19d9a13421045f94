/-!
# Bytes shown as a text

Bytes that are no text can be shown as one. They are read character by character, one to
four bytes each. Where no character begins, or one breaks off, the bytes that have been
read of it are shown as one replacement character, and reading goes on behind them.
-/

namespace TerraLint.Text

/-- What is shown in place of bytes that are no character. -/
def replacement : Char := '\uFFFD'

/-- A character in the course of reading: its value so far, the least and the greatest byte that
can follow, and how many bytes follow that one. -/
structure Pending where
  value : Nat
  least : UInt8
  greatest : UInt8
  further : Nat
  deriving DecidableEq, Repr

/-- A character of more than one byte, behind its first byte. Of the characters that begin with a
byte, those that could be written in fewer bytes and those that are none are left out. -/
def Pending.ofFirst? (byte : UInt8) : Option Pending :=
  if byte < 0xC2 then none
  else if byte < 0xE0 then some ⟨byte.toNat % 32, 0x80, 0xBF, 0⟩
  else if byte < 0xF0 then
    some ⟨byte.toNat % 16, if byte = 0xE0 then 0xA0 else 0x80,
      if byte = 0xED then 0x9F else 0xBF, 1⟩
  else if byte < 0xF5 then
    some ⟨byte.toNat % 8, if byte = 0xF0 then 0x90 else 0x80,
      if byte = 0xF4 then 0x8F else 0xBF, 2⟩
  else none

/-- What is shown at a byte where a character is to begin, and the character that has begun. -/
def beginChar (byte : UInt8) : List Char × Option Pending :=
  if byte < 0x80 then ([Char.ofNat byte.toNat], none)
  else
    match Pending.ofFirst? byte with
    | some p => ([], some p)
    | none => ([replacement], none)

/-- What is shown at a byte, given the character that is being read. -/
def showByte : Option Pending → UInt8 → List Char × Option Pending
  | none, byte => beginChar byte
  | some p, byte =>
    if p.least ≤ byte ∧ byte ≤ p.greatest then
      let value := p.value * 64 + byte.toNat % 64
      if p.further = 0 then ([Char.ofNat value], none)
      else ([], some ⟨value, 0x80, 0xBF, p.further - 1⟩)
    else
      let (shown, next) := beginChar byte
      (replacement :: shown, next)

/-- The characters that bytes are shown as, given the character that is being read. -/
def showBytes : Option Pending → List UInt8 → List Char
  | none, [] => []
  | some _, [] => [replacement]
  | state, byte :: rest =>
    let (shown, next) := showByte state byte
    shown ++ showBytes next rest

/-- The text that bytes are shown as. -/
def lossy (bytes : List UInt8) : String := String.ofList (showBytes none bytes)

end TerraLint.Text
