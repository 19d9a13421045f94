import TerraLint.Proofs.Following

/-!
# Numbers are read by longest match

The scanner of numbers never goes back. It takes all digits; then, if a point and a digit
follow, the point and all digits behind it; then, if the letter of an exponent, perhaps a
sign, and a digit follow, these and all digits behind them. This file shows that what it
takes is the longest number at the front of the text
(`TerraLint.Lexeme.number_longest`).

The form of a number is a language, put together from smaller ones
(`TerraLint.Lexeme.number`), and `TerraLint.IsLongest` says of a part of a text that it is the
longest one of a form. One lemma is behind the scanner's greed
(`TerraLint.IsLongest.mul_one_add`): where a form goes on with an optional part, the longest
part of the whole form goes on from the longest part of what comes first, as long as the
optional part begins with a character that does not occur there. A number meets this
twice, since a fraction begins with a point, which is no digit, and an exponent with a
letter, which is neither a digit nor a point.
-/

namespace TerraLint

/-! ### Longest parts -/

/-- No part of the form is at the front of the text. -/
def Absent (form : Language Char) (text : List Char) : Prop := ∀ part ∈ form, ¬part <+: text

/-- **The longest part of a form** at the front of a text. -/
structure IsLongest (form : Language Char) (text part : List Char) : Prop where
  mem : part ∈ form
  isPrefix : part <+: text
  length_le : ∀ other ∈ form, other <+: text → other.length ≤ part.length

section Longest

variable {form first second : Language Char} {text left part other : List Char} {c : Char}

theorem Absent.add (h : Absent first text) (h' : Absent second text) :
    Absent (first + second) text := by
  intro part hpart
  rcases (Language.mem_add ..).mp hpart with hpart | hpart
  · exact h part hpart
  · exact h' part hpart

/-- A form whose parts begin with a letter is absent from a text that begins otherwise. -/
theorem absent_mul {letters : Language Char} (hletters : ∀ word ∈ letters, ∃ d, word = [d])
    (htext : ∀ d ∈ text.head?, [d] ∉ letters) : Absent (letters * form) text := by
  rintro part hpart ⟨left, rfl⟩
  obtain ⟨word, hword, body, -, rfl⟩ := Language.mem_mul.mp hpart
  obtain ⟨d, rfl⟩ := hletters word hword
  exact htext d rfl hword

theorem Absent.mul_cons {letters : Language Char} (hletters : ∀ word ∈ letters, ∃ d, word = [d])
    (h : Absent form text) (c : Char) : Absent (letters * form) (c :: text) := by
  rintro part hpart hfront
  obtain ⟨word, hword, body, hbody, rfl⟩ := Language.mem_mul.mp hpart
  obtain ⟨d, rfl⟩ := hletters word hword
  exact h body hbody (List.cons_prefix_cons.mp hfront).2

namespace IsLongest

theorem eq (h : IsLongest form text part) (h' : IsLongest form text other) : part = other := by
  have hlength : part.length = other.length :=
    le_antisymm (h'.length_le part h.mem h.isPrefix) (h.length_le other h'.mem h'.isPrefix)
  exact (List.prefix_of_prefix_length_le h.isPrefix h'.isPrefix hlength.le).eq_of_length hlength

/-- An optional part is taken if it is there. -/
theorem one_add (h : IsLongest form text part) : IsLongest (1 + form) text part := by
  refine ⟨.inr h.mem, h.isPrefix, fun other hother hfront => ?_⟩
  rcases (Language.mem_add ..).mp hother with rfl | hother
  · exact Nat.zero_le _
  · exact h.length_le other hother hfront

/-- An optional part that is not there is empty. -/
theorem one_add_nil (h : Absent form text) : IsLongest (1 + form) text [] := by
  refine ⟨.inl rfl, List.nil_prefix, fun other hother hfront => ?_⟩
  rcases (Language.mem_add ..).mp hother with rfl | hother
  · exact le_rfl
  · exact absurd hfront (h other hother)

theorem add_left (h : IsLongest first text part) (habsent : Absent second text) :
    IsLongest (first + second) text part := by
  refine ⟨.inl h.mem, h.isPrefix, fun other hother hfront => ?_⟩
  rcases (Language.mem_add ..).mp hother with hother | hother
  · exact h.length_le other hother hfront
  · exact absurd hfront (habsent other hother)

theorem add_right (h : IsLongest second text part) (habsent : Absent first text) :
    IsLongest (first + second) text part :=
  add_comm second first ▸ h.add_left habsent

/-- One letter more in front. -/
theorem letter_mul {letters : Language Char} (hletters : ∀ word ∈ letters, ∃ d, word = [d])
    (hc : [c] ∈ letters) (h : IsLongest form text part) :
    IsLongest (letters * form) (c :: text) (c :: part) := by
  refine ⟨Language.append_mem_mul hc h.mem, List.cons_prefix_cons.mpr ⟨rfl, h.isPrefix⟩, ?_⟩
  intro other hother hfront
  obtain ⟨word, hword, body, hbody, rfl⟩ := Language.mem_mul.mp hother
  obtain ⟨d, rfl⟩ := hletters word hword
  have hle := h.length_le body hbody (List.cons_prefix_cons.mp hfront).2
  simpa using hle

/-- **Greed does no harm.** The longest part of a form that goes on with an optional part goes on
from the longest part of what comes first, if the optional part begins with a character that does
not occur there: behind anything shorter stands such a character, and the optional part cannot
begin. -/
theorem mul_one_add (h : IsLongest first (part ++ left) part)
    (hleft : IsLongest (1 + second) left other)
    (hsecond : ∀ word ∈ second, ∃ c rest, word = c :: rest ∧ c ∉ part) :
    IsLongest (first * (1 + second)) (part ++ left) (part ++ other) := by
  refine ⟨Language.append_mem_mul h.mem hleft.mem, ?_, ?_⟩
  · exact (List.prefix_append_right_inj part).mpr hleft.isPrefix
  · intro whole hwhole hfront
    obtain ⟨a, ha, b, hb, rfl⟩ := Language.mem_mul.mp hwhole
    have hle := h.length_le a ha ((List.prefix_append a b).trans hfront)
    rw [List.length_append, List.length_append]
    rcases (Language.mem_add ..).mp hb with rfl | hb
    · exact Nat.add_le_add hle (Nat.zero_le _)
    · obtain ⟨c, rest, rfl, hc⟩ := hsecond b hb
      -- the character behind `a` is none of `part`, so `a` is all of `part`
      have heq : a = part := by
        obtain ⟨behind, hbehind⟩ := hfront
        rw [List.append_assoc, List.cons_append] at hbehind
        rcases List.append_eq_append_iff.mp hbehind with ⟨more, rfl, hmore⟩ | ⟨more, rfl, -⟩
        · cases more with
          | nil => simp
          | cons d more =>
            rw [List.cons_append] at hmore
            obtain ⟨rfl, -⟩ := List.cons.inj hmore
            simp at hc
        · rw [List.length_append] at hle
          have hmore : more = [] := List.length_eq_zero_iff.mp (by omega)
          rw [hmore, List.append_nil]
      subst heq
      have hfront : c :: rest <+: left := (List.prefix_append_right_inj a).mp hfront
      have hrest := hleft.length_le _ (.inr hb) hfront
      omega

end IsLongest

end Longest

namespace Lexeme

/-! ### The form of a number -/

/-- A run of digits, at least one. -/
def digits : Language Char := {run | run ≠ [] ∧ ∀ c ∈ run, Text.isAsciiDigit c = true}

/-- A point and digits. -/
def fraction : Language Char := {['.']} * digits

/-- A sign. -/
def sign : Language Char := {['+'], ['-']}

/-- Digits, perhaps with a sign. -/
def signed : Language Char := (1 + sign) * digits

/-- A letter and digits, perhaps with a sign. -/
def exponent : Language Char := {['e'], ['E']} * signed

/-- Digits, perhaps with a fraction. -/
def decimal : Language Char := digits * (1 + fraction)

/-- A number: digits, perhaps a fraction, perhaps an exponent. -/
def number : Language Char := decimal * (1 + exponent)

theorem exists_of_mem_point : ∀ word ∈ ({['.']} : Language Char), ∃ d, word = [d] := by
  rintro word rfl
  exact ⟨_, rfl⟩

theorem exists_of_mem_letters : ∀ word ∈ ({['e'], ['E']} : Language Char), ∃ d, word = [d] := by
  rintro word (rfl | rfl)
  · exact ⟨_, rfl⟩
  · exact ⟨_, rfl⟩

theorem exists_of_mem_sign : ∀ word ∈ sign, ∃ d, word = [d] := by
  rintro word (rfl | rfl)
  · exact ⟨_, rfl⟩
  · exact ⟨_, rfl⟩

theorem signed_eq : signed = digits + sign * digits := by
  rw [signed, add_mul, one_mul]

/-- The characters of a number without an exponent. -/
theorem eq_point_or_isAsciiDigit {part : List Char} {c : Char} (h : part ∈ decimal)
    (hc : c ∈ part) : c = '.' ∨ Text.isAsciiDigit c = true := by
  obtain ⟨whole, hwhole, behind, hbehind, rfl⟩ := Language.mem_mul.mp h
  rcases List.mem_append.mp hc with hc | hc
  · exact .inr (hwhole.2 c hc)
  · rcases (Language.mem_add ..).mp hbehind with rfl | hbehind
    · cases hc
    · obtain ⟨_, rfl, run, hrun, rfl⟩ := Language.mem_mul.mp hbehind
      rcases List.mem_cons.mp hc with rfl | hc
      · exact .inl rfl
      · exact .inr (hrun.2 c hc)

/-! ### What the scanners take -/

variable {text left part : List Char} {c : Char}

/-- A run of digits is the longest one if no digit follows. -/
theorem isLongest_digits (h : part ∈ digits)
    (hleft : ∀ c ∈ left.head?, Text.isAsciiDigit c = false) :
    IsLongest digits (part ++ left) part := by
  refine ⟨h, List.prefix_append part left, fun other hother hfront => ?_⟩
  by_contra hlt
  obtain ⟨behind, rfl⟩ : part <+: other :=
    List.prefix_of_prefix_length_le (List.prefix_append part left) hfront (by omega)
  have hbehind : behind <+: left := (List.prefix_append_right_inj part).mp hfront
  cases behind with
  | nil => simp at hlt
  | cons c behind =>
    obtain ⟨left, rfl⟩ := hbehind
    have hdigit := hother.2 c (by simp)
    rw [hleft c rfl] at hdigit
    cases hdigit

theorem absent_digits (h : ∀ c ∈ text.head?, Text.isAsciiDigit c = false) : Absent digits text := by
  rintro run hrun ⟨left, rfl⟩
  obtain ⟨c, run, rfl⟩ := List.exists_cons_of_ne_nil hrun.1
  have hdigit := hrun.2 c List.mem_cons_self
  rw [h c rfl] at hdigit
  cases hdigit

theorem digitCount_eq_zero_iff :
    digitCount text = 0 ↔ ∀ c ∈ text.head?, Text.isAsciiDigit c = false := by
  cases text with
  | nil => simp [digitCount]
  | cons c text => cases hc : Text.isAsciiDigit c <;> simp [digitCount, hc]

theorem isLongest_digitCount (h : digitCount text ≠ 0) :
    IsLongest digits text (text.take (digitCount text)) := by
  have hmem : text.takeWhile Text.isAsciiDigit ∈ digits := by
    refine ⟨fun hnil => h ?_, fun c hc => List.mem_takeWhile_imp hc⟩
    rw [digitCount, hnil, List.length_nil]
  have hlongest : IsLongest digits
      (text.takeWhile Text.isAsciiDigit ++ text.dropWhile Text.isAsciiDigit)
      (text.takeWhile Text.isAsciiDigit) := by
    refine isLongest_digits hmem fun c hc => ?_
    simpa [Option.mem_def.mp hc] using List.head?_dropWhile_not Text.isAsciiDigit text
  rw [List.takeWhile_append_dropWhile] at hlongest
  rwa [digitCount, ← List.prefix_iff_eq_take.mp (List.takeWhile_prefix _)]

/-- **The scanner of fractions** takes the longest one, or nothing. -/
theorem isLongest_fraction (text : List Char) :
    IsLongest (1 + fraction) text (text.take (fractionLength text)) := by
  unfold fractionLength
  split
  · next rest =>
    split
    · next hnone =>
      exact .one_add_nil ((absent_digits (digitCount_eq_zero_iff.mp hnone)).mul_cons
        exists_of_mem_point '.')
    · next hsome =>
      rw [Nat.add_comm, List.take_succ_cons]
      exact ((isLongest_digitCount hsome).letter_mul exists_of_mem_point rfl).one_add
  · next hpoint =>
    refine .one_add_nil (absent_mul exists_of_mem_point fun d hd => ?_)
    rintro ⟨⟩
    obtain ⟨rest, rfl⟩ := List.head?_eq_some_iff.mp hd
    exact hpoint rest rfl

theorem not_isAsciiDigit_of_mem_sign (h : [c] ∈ sign) : Text.isAsciiDigit c = false := by
  rcases h with h | h
  all_goals
    cases h
    rfl

/-- A text begins with a sign, or it does not. -/
theorem signLength_cases (text : List Char) :
    (∃ c rest, text = c :: rest ∧ [c] ∈ sign ∧ signLength text = 1) ∨
      signLength text = 0 ∧ ∀ c ∈ text.head?, [c] ∉ sign := by
  unfold signLength
  split
  · exact .inl ⟨_, _, rfl, .inl rfl, rfl⟩
  · exact .inl ⟨_, _, rfl, .inr rfl, rfl⟩
  · next hplus hminus =>
    refine .inr ⟨rfl, fun c hc => ?_⟩
    obtain ⟨rest, rfl⟩ := List.head?_eq_some_iff.mp hc
    rintro (hsign | hsign)
    · exact hplus rest (congrArg (· :: rest) (List.cons.inj hsign).1)
    · exact hminus rest (congrArg (· :: rest) (List.cons.inj hsign).1)

theorem isLongest_signed (h : digitCount (text.drop (signLength text)) ≠ 0) :
    IsLongest signed text
      (text.take (signLength text + digitCount (text.drop (signLength text)))) := by
  rw [signed_eq]
  rcases signLength_cases text with ⟨c, rest, rfl, hc, hlength⟩ | ⟨hlength, hnone⟩
  · rw [hlength, List.drop_one, List.tail_cons] at h ⊢
    rw [Nat.add_comm, List.take_succ_cons]
    refine ((isLongest_digitCount h).letter_mul exists_of_mem_sign hc).add_right ?_
    refine absent_digits fun d hd => ?_
    obtain rfl := Option.some.inj hd
    exact not_isAsciiDigit_of_mem_sign hc
  · rw [hlength, List.drop_zero] at h ⊢
    rw [Nat.zero_add]
    exact (isLongest_digitCount h).add_left (absent_mul exists_of_mem_sign hnone)

theorem absent_signed (h : digitCount (text.drop (signLength text)) = 0) : Absent signed text := by
  rw [signed_eq]
  rcases signLength_cases text with ⟨c, rest, rfl, hc, hlength⟩ | ⟨hlength, hnone⟩
  · rw [hlength, List.drop_one, List.tail_cons] at h
    refine .add (absent_digits fun d hd => ?_) ?_
    · obtain rfl := Option.some.inj hd
      exact not_isAsciiDigit_of_mem_sign hc
    · exact (absent_digits (digitCount_eq_zero_iff.mp h)).mul_cons exists_of_mem_sign c
  · rw [hlength, List.drop_zero] at h
    exact .add (absent_digits (digitCount_eq_zero_iff.mp h)) (absent_mul exists_of_mem_sign hnone)

theorem singleton_mem_letters : [c] ∈ ({['e'], ['E']} : Language Char) ↔ c = 'e' ∨ c = 'E' := by
  change [c] = ['e'] ∨ [c] = ['E'] ↔ _
  simp

/-- **The scanner of exponents** takes the longest one, or nothing. -/
theorem isLongest_exponent (text : List Char) :
    IsLongest (1 + exponent) text (text.take (exponentLength text)) := by
  cases text with
  | nil => exact .one_add_nil (absent_mul exists_of_mem_letters (by simp))
  | cons c rest =>
    simp only [exponentLength]
    split
    · next hletter =>
      split
      · next hnone => exact .one_add_nil ((absent_signed hnone).mul_cons exists_of_mem_letters c)
      · next hsome =>
        rw [Nat.add_assoc, Nat.add_comm, List.take_succ_cons]
        exact ((isLongest_signed hsome).letter_mul exists_of_mem_letters
          (singleton_mem_letters.mpr hletter)).one_add
    · next hletter =>
      refine .one_add_nil (absent_mul exists_of_mem_letters fun d hd => ?_)
      obtain rfl := Option.some.inj hd
      exact mt singleton_mem_letters.mp hletter

/-! ### Numbers from their parts -/

/-- The point of a fraction is no digit. -/
theorem exists_of_mem_fraction {whole : List Char} (h : whole ∈ digits) :
    ∀ word ∈ fraction, ∃ c rest, word = c :: rest ∧ c ∉ whole := by
  intro word hword
  obtain ⟨_, rfl, run, -, rfl⟩ := Language.mem_mul.mp hword
  exact ⟨'.', run, rfl, fun hmem => absurd (h.2 '.' hmem) (by decide)⟩

/-- The letter of an exponent is neither a digit nor a point. -/
theorem exists_of_mem_exponent {plain : List Char} (h : plain ∈ decimal) :
    ∀ word ∈ exponent, ∃ c rest, word = c :: rest ∧ c ∉ plain := by
  intro word hword
  obtain ⟨letter, hletter, power, -, rfl⟩ := Language.mem_mul.mp hword
  obtain ⟨c, rfl⟩ := exists_of_mem_letters letter hletter
  refine ⟨c, power, rfl, fun hmem => ?_⟩
  rcases singleton_mem_letters.mp hletter with rfl | rfl
  all_goals
    rcases eq_point_or_isAsciiDigit h hmem with hpoint | hdigit
    · exact absurd hpoint (by decide)
    · exact absurd hdigit (by decide)

/-- **The longest number** goes on from the longest run of digits to the longest fraction behind
it, and from there to the longest exponent. -/
theorem isLongest_number {whole behind power : List Char}
    (hwhole : IsLongest digits (whole ++ (behind ++ left)) whole)
    (hbehind : IsLongest (1 + fraction) (behind ++ left) behind)
    (hpower : IsLongest (1 + exponent) left power) :
    IsLongest number (whole ++ behind ++ left) (whole ++ behind ++ power) := by
  have hplain : IsLongest decimal (whole ++ behind ++ left) (whole ++ behind) := by
    rw [List.append_assoc]
    exact hwhole.mul_one_add hbehind (exists_of_mem_fraction hwhole.mem)
  exact hplain.mul_one_add hpower (exists_of_mem_exponent hplain.mem)

/-- **The scanner takes the longest number.** -/
theorem isLongest_numberLength (h : Text.isAsciiDigit c = true) (rest : List Char) :
    IsLongest number (c :: rest) (c :: rest.take (numberLength rest)) := by
  have hcount : digitCount (c :: rest) = digitCount rest + 1 := by
    simp [digitCount, h]
  have hwhole : IsLongest digits (c :: rest) ((c :: rest).take (digitCount (c :: rest))) :=
    isLongest_digitCount (by omega)
  rw [hcount, List.take_succ_cons] at hwhole
  have hfraction := isLongest_fraction (rest.drop (digitCount rest))
  set behind := (rest.drop (digitCount rest)).take (fractionLength (rest.drop (digitCount rest)))
    with hbehind
  set left := rest.drop (digitCount rest + fractionLength (rest.drop (digitCount rest)))
    with hleft
  have hdrop : rest.drop (digitCount rest) = behind ++ left := by
    rw [hleft, ← List.drop_drop, hbehind, List.take_append_drop]
  have htext : c :: rest = c :: rest.take (digitCount rest) ++ (behind ++ left) := by
    rw [← hdrop, List.cons_append, List.take_append_drop]
  have hpart : c :: rest.take (numberLength rest) =
      c :: rest.take (digitCount rest) ++ behind ++ left.take (exponentLength left) := by
    simp only [numberLength, List.take_add, List.cons_append, ← hbehind, ← hleft]
  rw [hdrop] at hfraction
  rw [htext] at hwhole
  rw [hpart, htext, ← List.append_assoc]
  exact isLongest_number hwhole hfraction (isLongest_exponent left)

/-- Digits with a point behind them that no digit follows are the longest number. -/
theorem isLongest_of_point {whole behind : List Char} (h : whole ∈ digits)
    (hbehind : Absent digits behind) : IsLongest number (whole ++ '.' :: behind) whole := by
  have hwhole : IsLongest digits (whole ++ '.' :: behind) whole :=
    isLongest_digits h (by rintro _ ⟨⟩; rfl)
  have hfraction : IsLongest (1 + fraction) ('.' :: behind) [] :=
    .one_add_nil (hbehind.mul_cons exists_of_mem_point '.')
  have hexponent : IsLongest (1 + exponent) ('.' :: behind) [] := by
    refine .one_add_nil (absent_mul exists_of_mem_letters ?_)
    rintro _ ⟨⟩
    exact mt singleton_mem_letters.mp (by decide)
  have hnumber : IsLongest number (whole ++ [] ++ '.' :: behind) (whole ++ [] ++ []) :=
    isLongest_number hwhole hfraction hexponent
  simpa only [List.append_nil] using hnumber

/-- What stands in front of the letter of an exponent that no digits follow is the longest
number. -/
theorem isLongest_of_letter {plain behind : List Char} {letter : Char} (h : plain ∈ decimal)
    (hletter : letter = 'e' ∨ letter = 'E') (hbehind : Absent signed behind) :
    IsLongest number (plain ++ letter :: behind) plain := by
  have hdigit : Text.isAsciiDigit letter = false ∧ letter ≠ '.' := by
    rcases hletter with rfl | rfl <;> exact ⟨rfl, by decide⟩
  have hnodigit : ∀ c ∈ (letter :: behind).head?, Text.isAsciiDigit c = false := by
    rintro _ ⟨⟩
    exact hdigit.1
  have hexponent : IsLongest (1 + exponent) (letter :: behind) [] :=
    .one_add_nil (hbehind.mul_cons exists_of_mem_letters letter)
  obtain ⟨whole, hwhole, rest, hrest, rfl⟩ := Language.mem_mul.mp h
  have hfraction : IsLongest (1 + fraction) (rest ++ letter :: behind) rest := by
    rcases (Language.mem_add ..).mp hrest with rfl | hrest
    · refine .one_add_nil (absent_mul exists_of_mem_point ?_)
      rintro _ ⟨⟩ ⟨⟩
      exact hdigit.2 rfl
    · obtain ⟨_, rfl, run, hrun, rfl⟩ := Language.mem_mul.mp hrest
      exact ((isLongest_digits hrun hnodigit).letter_mul exists_of_mem_point rfl).one_add
  have hlongest : IsLongest digits (whole ++ (rest ++ letter :: behind)) whole := by
    refine isLongest_digits hwhole ?_
    rcases (Language.mem_add ..).mp hrest with rfl | hrest
    · exact hnodigit
    · obtain ⟨_, rfl, run, -, rfl⟩ := Language.mem_mul.mp hrest
      rintro _ ⟨⟩
      rfl
  have hnumber := isLongest_number hlongest hfraction hexponent
  rwa [List.append_nil] at hnumber

/-! ### Numbers in a text -/

/-- The first lexeme comes off a text, and then the lexemes of what it leaves. -/
theorem Shape.split_eq_ok_iff {more rest : List Char} {kind : Option Kind}
    (h : Shape c (more ++ rest) kind more.length) {lexemes : List Lexeme} :
    split (c :: (more ++ rest)) = .ok lexemes ↔
      ∃ others, split rest = .ok others ∧ lexemes = ⟨kind, c :: more⟩ :: others := by
  simp only [Lexeme.split_eq_ok_iff]
  constructor
  · intro hcut
    obtain ⟨others, rfl, hothers⟩ := hcut.exists_cons h
    exact ⟨others, hothers, rfl⟩
  · rintro ⟨others, hothers, rfl⟩
    exact .cons h hothers

/-- **Numbers are read by longest match.** From a text that begins with a digit a number is cut off
that is the longest one at its front, and the other lexemes are those of what it leaves. In
particular, a point that no digits follow is left, and so is the letter of an exponent that no
digits follow, with a sign or without. -/
theorem number_longest (h : Text.isAsciiDigit c = true) (rest : List Char) :
    ∃ literal left, c :: rest = literal ++ left ∧ IsLongest number (c :: rest) literal ∧
      first c rest = .ok (some .number, literal.length - 1) ∧
      (∀ lexemes, split (c :: rest) = .ok lexemes ↔
        ∃ others, split left = .ok others ∧ lexemes = ⟨some .number, literal⟩ :: others) ∧
      (∀ whole ∈ digits, ∀ behind, c :: rest = whole ++ '.' :: behind → Absent digits behind →
        literal = whole ∧ left = '.' :: behind) ∧
      ∀ plain ∈ decimal, ∀ letter, letter = 'e' ∨ letter = 'E' → ∀ behind,
        c :: rest = plain ++ letter :: behind → Absent signed behind →
        literal = plain ∧ left = letter :: behind := by
  have hlongest := isLongest_numberLength h rest
  have hshape : Shape c rest (some .number) (numberLength rest) := .number h
  obtain ⟨more, left, rfl, hmore⟩ := hshape.exists_more
  rw [hmore, List.take_left] at hlongest
  rw [hmore] at hshape
  -- what is longest is taken, and then the rest of the text is left
  have hleaves : ∀ part behind, c :: (more ++ left) = part ++ behind →
      IsLongest number (part ++ behind) part → c :: more = part ∧ left = behind := by
    intro part behind htext hpart
    rw [htext] at hlongest
    obtain rfl := hlongest.eq hpart
    rw [← List.cons_append] at htext
    exact ⟨rfl, List.append_cancel_left htext⟩
  refine ⟨c :: more, left, rfl, hlongest, hshape.first_eq, fun lexemes => hshape.split_eq_ok_iff,
    ?_, ?_⟩
  · intro whole hwhole behind htext hbehind
    exact hleaves whole ('.' :: behind) htext (isLongest_of_point hwhole hbehind)
  · intro plain hplain letter hletter behind htext hbehind
    exact hleaves plain (letter :: behind) htext (isLongest_of_letter hplain hletter hbehind)

/-- An exponent is begun and comes to nothing: its letter, its sign and the point behind it are
three lexemes. -/
theorem number_longest_no_digits :
    Text.isAsciiDigit '1' = true ∧
      IsLongest number ['1', '.', '5', 'e', '+', '.'] ['1', '.', '5'] ∧
      split ['1', '.', '5', 'e', '+', '.'] = .ok [⟨some .number, ['1', '.', '5']⟩,
        ⟨some .identifier, ['e']⟩, ⟨some .other, ['+']⟩, ⟨some .other, ['.']⟩] := by
  have hwhole : ['1'] ∈ digits := ⟨by decide, by simp [Text.isAsciiDigit]⟩
  have hfraction : ['.', '5'] ∈ fraction :=
    Language.append_mem_mul (a := ['.']) (b := ['5']) rfl ⟨by decide, by simp [Text.isAsciiDigit]⟩
  have hplain : ['1', '.', '5'] ∈ decimal :=
    Language.append_mem_mul (a := ['1']) (b := ['.', '5']) hwhole (.inr hfraction)
  have hbehind : Absent signed ['+', '.'] := absent_signed (by decide)
  obtain ⟨literal, left, -, hlongest, -, hsplit, -, hletter⟩ :=
    number_longest (c := '1') (by decide) ['.', '5', 'e', '+', '.']
  obtain ⟨rfl, rfl⟩ := hletter _ hplain 'e' (.inl rfl) _ rfl hbehind
  exact ⟨by decide, hlongest, (hsplit _).mpr ⟨_, by decide, rfl⟩⟩

end Lexeme

end TerraLint
