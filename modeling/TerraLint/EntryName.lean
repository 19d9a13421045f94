import TerraLint.Text.Lossy

/-!
# Names of files and directories

A name in a directory is a sequence of bytes, most often the bytes of a text. Names are told
apart and put in order by their bytes. In paths and messages a name that is no text is
shown as one (`EntryName.lossy`), which is then no name of the entry any more, and may be
the name of another.
-/

namespace TerraLint

/-- The name of an entry of a directory: a text, or bytes that are none. -/
inductive EntryName where
  | text (content : String)
  | bytes (content : ByteArray) (isNoText : String.fromUTF8? content = none)

namespace EntryName

instance : DecidableEq EntryName
  | text a, text b => decidable_of_iff (a = b) ⟨congrArg text, text.inj⟩
  | bytes ⟨a⟩ _, bytes ⟨b⟩ _ =>
    decidable_of_iff (a = b) ⟨fun h => by cases h; rfl, fun h => ByteArray.mk.inj (bytes.inj h)⟩
  | text _, bytes _ _ => isFalse nofun
  | bytes _ _, text _ => isFalse nofun

instance : Coe String EntryName := ⟨text⟩

/-- The text that the name is. -/
def text? : EntryName → Option String
  | text content => some content
  | bytes _ _ => none

/-- The name is a text. -/
def isText (name : EntryName) : Bool := name.text?.isSome

/-- The bytes of the name. -/
def toBytes : EntryName → List UInt8
  | text content => content.toUTF8.data.toList
  | bytes content _ => content.data.toList

/-- The text that the name is shown as. -/
def lossy : EntryName → String
  | text content => content
  | bytes content _ => Text.lossy content.data.toList

/-- The entry is hidden: its name begins with a dot. -/
def isHidden (name : EntryName) : Bool := name.toBytes.head? == some 46

/-- Names are in the order of their bytes. -/
instance : LT EntryName := ⟨fun a b => a.toBytes < b.toBytes⟩

instance : DecidableLT EntryName := fun a b => inferInstanceAs (Decidable (a.toBytes < b.toBytes))

end EntryName

/-- The place of a file or directory: the names that lead to it. -/
abbrev Place := List EntryName

end TerraLint
