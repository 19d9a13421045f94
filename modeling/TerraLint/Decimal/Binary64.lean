/-!
# Binary floating point numbers

A number written in decimal is kept as the nearest number `m · 2 ^ q` with fewer
than 54 binary digits and an exponent of at least `-1074`; a tie goes to the even
`m`, and what would need an exponent above `971` is infinite. All of it is exact
integer arithmetic: a decimal is a quotient of two natural numbers, and rounding a
quotient is `roundQuotient`.

The text of such a number (`Binary64.text`) has the fewest digits that read back
as the number, the nearest of them if there are several, and is written out
without an exponent.
-/

namespace TerraLint

/-- A quotient rounded to the nearest natural number, a half to the even one. -/
def roundQuotient (n d : Nat) : Nat :=
  let quotient := n / d
  let twice := 2 * (n % d)
  if twice < d ∨ (twice = d ∧ quotient % 2 = 0) then quotient else quotient + 1

/-- The nonnegative number `mantissa · 2 ^ exponent`. -/
structure Magnitude where
  mantissa : Nat
  exponent : Int
  deriving DecidableEq, Repr

namespace Magnitude

/-- A power of a base, split into numerator and denominator by the sign of its exponent. -/
def scale (base : Nat) (exponent : Int) : Nat × Nat :=
  if 0 ≤ exponent then (base.pow exponent.toNat, 1) else (1, base.pow (-exponent).toNat)

/-- The magnitude nearest to `n / d`, unless it is too large. -/
def ofQuotient? (n d : Nat) : Option Magnitude :=
  let guess : Int := (Nat.log2 n : Int) - (Nat.log2 d : Int) - 52
  -- with `guess` the quotient has 53 binary digits or one fewer
  let fits (q : Int) : Bool :=
    let (up, down) := scale 2 q
    let product := (d * up) <<< 53
    n < product / down + (if product % down = 0 then 0 else 1)
  let q := max (-1074) (if fits (guess - 1) then guess - 1 else guess)
  let (up, down) := scale 2 q
  let m := roundQuotient (n * down) (d * up)
  let (m, q) := if m = 1 <<< 53 then (1 <<< 52, q + 1) else (m, q)
  if q > 971 then none else some ⟨m, q⟩

/-- The magnitude nearest to `digits · 10 ^ exponent`, unless it is too large. Far out of
range the answer is known without computing the power. -/
def ofDecimal? (digits : Nat) (exponent : Int) : Option Magnitude :=
  let size : Int := (Nat.toDigits 10 digits).length + exponent
  if digits = 0 ∨ size < -400 then some ⟨0, 0⟩
  else if size > 400 then none
  else
    let (up, down) := scale 10 exponent
    ofQuotient? (digits * up) down

/-- The magnitude with the mantissa made odd, so that equal numbers have equal fields. -/
def normalize (x : Magnitude) : Magnitude :=
  go x.mantissa x.mantissa x.exponent
where
  /-- Halves the mantissa while it is even. -/
  go : Nat → Nat → Int → Magnitude
  | _, 0, _ => ⟨0, 0⟩
  | 0, m, q => ⟨m, q⟩
  | fuel + 1, m, q => if m % 2 = 0 then go fuel (m / 2) (q + 1) else ⟨m, q⟩

/-! ### The shortest text -/

/-- The number of decimal digits before the point of `n / d`; not positive for a number
below one, where it counts the zeros behind the point, negated. -/
def decimalSize (n d : Nat) : Int :=
  if d ≤ n then (Nat.toDigits 10 (n / d)).length
  else
    -- the first power of ten that lifts the quotient to one or more
    let power := (List.range 400).find? fun k => d ≤ n * Nat.pow 10 k
    1 - ((power.getD 0 : Nat) : Int)

/-- The best decimal with `count` digits for a nonzero number that is `n / d`: digits and
power of ten, provided that it lies between the bounds. The bounds are numerators
over `d`, and belong to the interval when `closed` holds. -/
def candidate? (n d low high : Nat) (closed : Bool) (count : Nat) : Option (Nat × Int) :=
  let power := decimalSize n d - count
  let (up, down) := scale 10 power
  -- `n / d` in units of the last digit is `n * down / (d * up)`
  let below := n * down / (d * up)
  let inside (k : Nat) : Bool :=
    let value := k * (d * up)
    if closed then low * down ≤ value && value ≤ high * down
    else low * down < value && value < high * down
  let nearer (k : Nat) : Nat :=
    let value := k * (d * up)
    if value ≤ n * down then n * down - value else value - n * down
  -- one more than all nines is a power of ten, which has a single digit
  let above :=
    if below + 1 = Nat.pow 10 count then (Nat.pow 10 (count - 1), power + 1)
    else (below + 1, power)
  match inside below, inside (below + 1) with
  | true, true => some (if nearer below < nearer (below + 1) then (below, power) else above)
  | true, false => some (below, power)
  | false, true => some above
  | false, false => none

/-- The shortest decimal that reads back as the magnitude: digits and power of ten. -/
def shortest (x : Magnitude) : Nat × Int :=
  let (up, down) := scale 2 (x.exponent - 2)
  let n := 4 * x.mantissa * up
  -- below a power of two the neighbours are twice as close as above it
  let step := if x.mantissa = 1 <<< 52 ∧ x.exponent > -1074 then 1 else 2
  let low := (4 * x.mantissa - step) * up
  let high := (4 * x.mantissa + 2) * up
  let closed := x.mantissa % 2 = 0
  ((List.range 17).findSome? fun k => candidate? n down low high closed (k + 1)).getD
    (x.mantissa, 0)

/-- `digits · 10 ^ power` written out, without an exponent. -/
def positional (digits : Nat) (power : Int) : String :=
  let shown := Nat.toDigits 10 digits
  if 0 ≤ power then String.ofList (shown ++ List.replicate power.toNat '0')
  else
    let places := (-power).toNat
    let padded := List.replicate (places + 1 - shown.length) '0' ++ shown
    String.ofList (padded.take (padded.length - places) ++ '.' ::
      padded.drop (padded.length - places))

/-- The shortest text of the magnitude. -/
def text (x : Magnitude) : String :=
  if x.mantissa = 0 then "0" else positional x.shortest.1 x.shortest.2

end Magnitude

/-- A floating point number: finite with a sign, infinite with a sign, or no number. -/
inductive Binary64 where
  | finite (negative : Bool) (magnitude : Magnitude)
  | infinite (negative : Bool)
  | notANumber
  deriving DecidableEq, Repr

/-- The text of a floating point number. -/
def Binary64.text : Binary64 → String
  | finite negative x => (if negative then "-" else "") ++ x.text
  | infinite negative => (if negative then "-" else "") ++ "inf"
  | notANumber => "NaN"

end TerraLint
