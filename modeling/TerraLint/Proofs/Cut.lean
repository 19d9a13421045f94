import TerraLint.Proofs.Position
import TerraLint.Token.Lexer

/-!
# Cutting lexemes off a text

`TerraLint.Lexeme.split` cuts a text into lexemes by counting the characters that
still belong to the lexeme before. This file gives the same cut as a judgment about
the text itself: `TerraLint.Lexeme.Cut text lexemes left` says that the lexemes,
one after the other, come off the front of the text and leave the rest. Each lexeme
is cut with the whole of the remaining text in view, so that two cuts can be put
end to end (`TerraLint.Lexeme.Cut.trans`) although a lexeme may look ahead.

The bridge is a bound: no scanner counts past the end of the text
(`TerraLint.Lexeme.Shape.le_length`). With it, the function and the judgment agree, both
where the text is cut up (`TerraLint.Lexeme.split_eq_ok_iff`) and where a construct
is left open (`TerraLint.Lexeme.split_eq_error_iff`).
-/

namespace TerraLint

/-! ### No scanner counts past the end of the text -/

namespace Token

/-- The scanner of templates reads at least the closing character, and at most all. -/
theorem closeTemplate_bounds {read : Nat} {frame : Frame} {outer : List Frame}
    {text : List Char} {length : Nat} (h : closeTemplate read frame outer text = .ok length) :
    read < length ∧ length ≤ read + text.length := by
  fun_induction closeTemplate read frame outer text
  all_goals simp_all
  all_goals omega

end Token

namespace Lexeme

theorem lineLength_le (text : List Char) : lineLength text ≤ text.length := by
  have h := (List.takeWhile_prefix (l := text) (· != '\n')).length_le
  simp only [lineLength]
  split <;> omega

theorem lineLength_cons {c : Char} (hc : c ≠ '\n') (text : List Char) :
    lineLength (c :: text) = lineLength text + 1 := by
  have htake : (c :: text).takeWhile (· != '\n') = c :: text.takeWhile (· != '\n') :=
    List.takeWhile_cons_of_pos (by simpa using hc)
  simp only [lineLength, htake, List.length_cons, Nat.add_lt_add_iff_right]
  split <;> rfl

theorem lineLength_of_not_mem {line : List Char} (h : '\n' ∉ line) :
    lineLength line = line.length := by
  have htake : line.takeWhile (· != '\n') = line := by
    refine List.takeWhile_eq_self_iff.mpr fun c hc => ?_
    simp only [bne_iff_ne, ne_eq]
    rintro rfl
    exact h hc
  simp [lineLength, htake]

theorem lineLength_line {line : List Char} (h : '\n' ∉ line) (back : List Char) :
    lineLength (line ++ '\n' :: back) = line.length + 1 := by
  have htake : (line ++ '\n' :: back).takeWhile (· != '\n') = line := by
    rw [List.takeWhile_append_of_pos, List.takeWhile_cons_of_neg (by simp), List.append_nil]
    intro c hc
    simp only [bne_iff_ne, ne_eq]
    rintro rfl
    exact h hc
  simp [lineLength, htake]

/-- A line comment that something follows takes a line feed along. -/
theorem exists_of_lineLength {more rest : List Char} (h : more.length = lineLength (more ++ rest))
    (hrest : rest ≠ []) : ∃ body, '\n' ∉ body ∧ more = body ++ ['\n'] := by
  by_cases hmem : '\n' ∈ more ++ rest
  · obtain ⟨body, after, heq, hbody⟩ := List.eq_append_cons_of_mem hmem
    rw [heq, lineLength_line hbody] at h
    rw [← List.singleton_append, ← List.append_assoc] at heq
    exact ⟨body, hbody, (List.append_inj heq (by simpa using h)).1⟩
  · rw [lineLength_of_not_mem hmem, List.length_append] at h
    have hpos := List.length_pos_iff.mpr hrest
    omega

theorem closeComment_bounds {read : Nat} {text : List Char} {length : Nat}
    (h : closeComment read text = some length) : read < length ∧ length ≤ read + text.length := by
  fun_induction closeComment read text
  all_goals simp_all
  all_goals omega

theorem closeHeredoc_bounds {marker : List Char} {read : Nat} {line text : List Char}
    {length : Nat} (h : closeHeredoc marker read line text = some length) :
    read ≤ length ∧ length ≤ read + text.length := by
  fun_induction closeHeredoc marker read line text
  all_goals simp_all
  all_goals omega

/-- A marker is found behind two angle brackets and perhaps a dash. -/
theorem exists_of_heredocMarker? {text marker : List Char} {before : Nat}
    (h : heredocMarker? text = some (before, marker)) :
    ∃ dash ∈ [[], ['-']], ∃ rest, text = '<' :: (dash ++ rest) ∧ before = 1 + dash.length ∧
      rest.head?.any Text.isIdentifierStart = true ∧
      marker = rest.takeWhile Text.isIdentifierContinue := by
  unfold heredocMarker? at h
  split at h
  · rename_i rest
    split at h
    · cases h
      exact ⟨['-'], by simp, rest, rfl, rfl, ‹_›, rfl⟩
    · simp at h
  · rename_i rest _
    split at h
    · cases h
      exact ⟨[], by simp, rest, rfl, rfl, ‹_›, rfl⟩
    · simp at h
  · simp at h

theorem heredocMarker?_le {text : List Char} {before : Nat} {marker : List Char}
    (h : heredocMarker? text = some (before, marker)) :
    before + marker.length ≤ text.length := by
  obtain ⟨dash, -, rest, rfl, rfl, -, rfl⟩ := exists_of_heredocMarker? h
  have hle := (List.takeWhile_prefix (l := rest) Text.isIdentifierContinue).length_le
  simp only [List.length_cons, List.length_append]
  omega

theorem heredocLength?_le {marker text : List Char} {length : Nat}
    (h : heredocLength? marker text = some length) : length ≤ text.length := by
  simp only [heredocLength?] at h
  split at h
  · have hopening := lineLength_le text
    have hbounds := (closeHeredoc_bounds h).2
    rw [List.length_drop] at hbounds
    omega
  · simp at h

theorem digitCount_le (text : List Char) : digitCount text ≤ text.length :=
  (List.takeWhile_prefix _).length_le

theorem fractionLength_le (text : List Char) : fractionLength text ≤ text.length := by
  unfold fractionLength
  split
  · rename_i rest
    have := digitCount_le rest
    simp only [List.length_cons]
    split <;> omega
  · omega

theorem signLength_le (text : List Char) : signLength text ≤ text.length := by
  unfold signLength
  split <;> simp

theorem exponentLength_le (text : List Char) : exponentLength text ≤ text.length := by
  cases text with
  | nil => simp [exponentLength]
  | cons c rest =>
    have hsign := signLength_le rest
    have hdigits := digitCount_le (rest.drop (signLength rest))
    rw [List.length_drop] at hdigits
    simp only [exponentLength, List.length_cons]
    split
    · split <;> omega
    · omega

theorem numberLength_le (rest : List Char) : numberLength rest ≤ rest.length := by
  have hwhole := digitCount_le rest
  have hfraction := fractionLength_le (rest.drop (digitCount rest))
  have hexponent := exponentLength_le
    (rest.drop (digitCount rest + fractionLength (rest.drop (digitCount rest))))
  simp only [List.length_drop] at hfraction hexponent
  simp only [numberLength]
  omega

/-! ### The shapes of a lexeme -/

/-- The brackets, which are tokens of their own kinds. -/
def brackets : List (Char × Kind) :=
  [('{', .openBrace), ('}', .closeBrace), ('[', .openBracket), (']', .closeBracket),
    ('(', .openParen), (')', .closeParen)]

/-- The characters that decide on the first lexeme whatever class they are of. -/
def deciding : List Char :=
  [' ', '\t', '\r', '\n', '#', '/', '{', '}', '[', ']', '(', ')', '=', '"']

/-- The shapes that the first lexeme of `c :: rest` can have: `Shape c rest kind extra` says
that it is of that kind and takes `extra` characters of `rest`. -/
inductive Shape : Char → List Char → Option Kind → Nat → Prop
  /-- A space or a tab. -/
  | blank {c : Char} {rest : List Char} : c = ' ' ∨ c = '\t' → Shape c rest none 0
  /-- A carriage return that ends no line. -/
  | carriageReturn {rest : List Char} : rest.head? ≠ some '\n' → Shape '\r' rest none 0
  | lineFeed {rest : List Char} : Shape '\n' rest (some .newline) 0
  | lineEnd {rest : List Char} : rest.head? = some '\n' → Shape '\r' rest (some .newline) 1
  | lineComment {c : Char} {rest : List Char} : c = '#' ∨ c = '/' ∧ rest.head? = some '/' →
      Shape c rest (some .comment) (lineLength rest)
  | blockComment {body : List Char} {length : Nat} : closeComment 1 body = some length →
      Shape '/' ('*' :: body) (some .comment) length
  | bracket {c : Char} {rest : List Char} {kind : Kind} : (c, kind) ∈ brackets →
      Shape c rest (some kind) 0
  | equals {rest : List Char} : rest.head? ≠ some '=' → rest.head? ≠ some '>' →
      Shape '=' rest (some .equals) 0
  /-- An equals sign as the first half of an operator. -/
  | operator {rest : List Char} : rest.head? = some '=' ∨ rest.head? = some '>' →
      Shape '=' rest (some .other) 1
  | quoted {rest : List Char} {extra : Nat} :
      Token.closeTemplate 1 (.quote 0) [] rest = .ok (extra + 1) →
      Shape '"' rest (some .quoted) extra
  | heredoc {rest marker : List Char} {before length : Nat} :
      heredocMarker? rest = some (before, marker) →
      heredocLength? marker (rest.drop (before + marker.length)) = some length →
      Shape '<' rest (some .heredoc) (before + marker.length + length)
  | number {c : Char} {rest : List Char} : Text.isAsciiDigit c →
      Shape c rest (some .number) (numberLength rest)
  | identifier {c : Char} {rest : List Char} : Text.isIdentifierStart c →
      Shape c rest (some .identifier) (rest.takeWhile Text.isIdentifierContinue).length
  /-- A slash that opens no comment. -/
  | slash {rest : List Char} : rest.head? ≠ some '/' → rest.head? ≠ some '*' →
      Shape '/' rest (some .other) 0
  /-- A character of no class, and an angle bracket that opens no heredoc. -/
  | other {c : Char} {rest : List Char} : c ∉ deciding → (c = '<' → heredocMarker? rest = none) →
      Text.isAsciiDigit c = false → Text.isIdentifierStart c = false →
      Shape c rest (some .other) 0

theorem not_mem_deciding_of_digit {c : Char} (h : Text.isAsciiDigit c = true) :
    c ∉ deciding ∧ c ≠ '<' := by
  have hnone : deciding.all (fun c => !Text.isAsciiDigit c) = true := by decide
  constructor
  · intro hmem
    have := List.all_eq_true.mp hnone c hmem
    simp [h] at this
  · rintro rfl
    exact absurd h (by decide)

theorem not_mem_deciding_of_identifierStart {c : Char} (h : Text.isIdentifierStart c = true) :
    c ∉ deciding ∧ c ≠ '<' ∧ Text.isAsciiDigit c = false := by
  have hnone : deciding.all (fun c => !Text.isIdentifierStart c) = true := by decide
  refine ⟨fun hmem => ?_, ?_, ?_⟩
  · have := List.all_eq_true.mp hnone c hmem
    simp [h] at this
  · rintro rfl
    exact absurd h (by decide)
  · -- the ASCII digits are ten characters, none of which is a letter
    by_contra hdigit
    have hrange : 48 ≤ c.toNat ∧ c.toNat ≤ 57 := by
      simpa [Text.isAsciiDigit, Char.le_def, UInt32.le_iff_toNat_le] using hdigit
    simp only [Text.isIdentifierStart, Text.isAlphabetic, if_pos (show c.toNat < 128 by omega)] at h
    have hletter : (97 ≤ c.toNat ∧ c.toNat ≤ 122 ∨ 65 ≤ c.toNat ∧ c.toNat ≤ 90) ∨ c = '_' := by
      simpa [Text.isAsciiLetter, Char.le_def, UInt32.le_iff_toNat_le] using h
    rcases hletter with (hletter | hletter) | rfl
    · omega
    · omega
    · simp at hrange

theorem first_of_not_mem_deciding {c : Char} (h : c ∉ deciding) (rest : List Char) :
    first c rest =
      match (if c = '<' then heredocMarker? rest else none) with
      | some (before, marker) =>
        match heredocLength? marker (rest.drop (before + marker.length)) with
        | some length => .ok (some .heredoc, before + marker.length + length)
        | none => .error ⟨.heredoc, 0⟩
      | none =>
        if Text.isAsciiDigit c then .ok (some .number, numberLength rest)
        else if Text.isIdentifierStart c then
          .ok (some .identifier, (rest.takeWhile Text.isIdentifierContinue).length)
        else .ok (some .other, 0) := by
  simp only [deciding, List.mem_cons, List.not_mem_nil, or_false, not_or] at h
  unfold first
  split
  case h_15 => rfl
  all_goals simp at h

theorem Shape.first_eq {c : Char} {rest : List Char} {kind : Option Kind} {extra : Nat}
    (h : Shape c rest kind extra) : first c rest = .ok (kind, extra) := by
  cases h with
  | blank h => rcases h with rfl | rfl <;> rfl
  | carriageReturn h => simp [first, h]
  | lineFeed => rfl
  | lineEnd h => simp [first, h]
  | lineComment h =>
    rcases h with rfl | ⟨rfl, h⟩
    · rfl
    · cases rest with
      | nil => simp at h
      | cons d rest =>
        obtain rfl : d = '/' := by simpa using h
        rfl
  | blockComment h => simp [first, h]
  | bracket h =>
    simp only [brackets, List.mem_cons, Prod.mk.injEq, List.not_mem_nil, or_false] at h
    rcases h with ⟨rfl, rfl⟩ | ⟨rfl, rfl⟩ | ⟨rfl, rfl⟩ | ⟨rfl, rfl⟩ | ⟨rfl, rfl⟩ | ⟨rfl, rfl⟩
    all_goals rfl
  | equals h h' => simp [first, h, h']
  | operator h => simp [first, h]
  | quoted h => simp [first, h]
  | heredoc hmarker hlength =>
    rw [first_of_not_mem_deciding (by decide)]
    simp [hmarker, hlength]
  | number h =>
    obtain ⟨hdeciding, hangle⟩ := not_mem_deciding_of_digit h
    rw [first_of_not_mem_deciding hdeciding]
    simp [hangle, h]
  | identifier h =>
    obtain ⟨hdeciding, hangle, hdigit⟩ := not_mem_deciding_of_identifierStart h
    rw [first_of_not_mem_deciding hdeciding]
    simp [hangle, hdigit, h]
  | slash h h' =>
    cases rest with
    | nil => rfl
    | cons d rest =>
      have hd : d ≠ '/' ∧ d ≠ '*' := ⟨fun hd => h (by simp [hd]), fun hd => h' (by simp [hd])⟩
      unfold first
      split <;> simp_all
  | other hdeciding hangle hdigit hstart =>
    rw [first_of_not_mem_deciding hdeciding]
    by_cases hc : c = '<'
    · subst hc
      simp [hangle rfl, hdigit, hstart]
    · simp [hc, hdigit, hstart]

theorem shape_of_first {c : Char} {rest : List Char} {kind : Option Kind} {extra : Nat}
    (h : first c rest = .ok (kind, extra)) : Shape c rest kind extra := by
  by_cases hdeciding : c ∈ deciding
  · simp only [deciding, List.mem_cons, List.not_mem_nil, or_false] at hdeciding
    rcases hdeciding with rfl | rfl | rfl | rfl | rfl | rfl | rfl | rfl | rfl | rfl | rfl | rfl |
      rfl | rfl
    · cases h
      exact .blank (.inl rfl)
    · cases h
      exact .blank (.inr rfl)
    · simp only [first] at h
      split at h
      · cases h
        exact .lineEnd ‹_›
      · cases h
        exact .carriageReturn ‹_›
    · cases h
      exact .lineFeed
    · cases h
      exact .lineComment (.inl rfl)
    · simp only [first] at h
      split at h
      · cases h
        exact .lineComment (.inr ⟨rfl, rfl⟩)
      · split at h
        · cases h
          exact .blockComment ‹_›
        · simp at h
      · cases h
        rename_i hslash hstar
        refine .slash (fun h => ?_) (fun h => ?_)
        · obtain ⟨rest, rfl⟩ := List.head?_eq_some_iff.mp h
          exact hslash _ rfl
        · obtain ⟨rest, rfl⟩ := List.head?_eq_some_iff.mp h
          exact hstar _ rfl
    · cases h
      exact .bracket (by decide)
    · cases h
      exact .bracket (by decide)
    · cases h
      exact .bracket (by decide)
    · cases h
      exact .bracket (by decide)
    · cases h
      exact .bracket (by decide)
    · cases h
      exact .bracket (by decide)
    · simp only [first] at h
      split at h
      · cases h
        exact .operator ‹_›
      · cases h
        rename_i hpair
        exact .equals (fun h => hpair (.inl h)) (fun h => hpair (.inr h))
    · simp only [first] at h
      split at h
      · rename_i length hclose
        cases h
        have hbounds := Token.closeTemplate_bounds hclose
        refine .quoted ?_
        rwa [Nat.sub_add_cancel (by omega)]
      · simp at h
  · rw [first_of_not_mem_deciding hdeciding] at h
    split at h
    · rename_i before marker hmarker
      split at h
      · rename_i length hlength
        cases h
        split at hmarker
        · rename_i hc
          subst hc
          exact .heredoc hmarker hlength
        · simp at hmarker
      · simp at h
    · rename_i hmarker
      have hangle : c = '<' → heredocMarker? rest = none := fun hc => by simpa [hc] using hmarker
      split at h
      · cases h
        exact .number ‹_›
      · rename_i hdigit
        split at h
        · cases h
          exact .identifier ‹_›
        · rename_i hstart
          cases h
          exact .other hdeciding hangle (by simpa using hdigit) (by simpa using hstart)

/-- **The scanner finds the shape**, and nothing else. -/
theorem first_eq_ok_iff {c : Char} {rest : List Char} {kind : Option Kind} {extra : Nat} :
    first c rest = .ok (kind, extra) ↔ Shape c rest kind extra :=
  ⟨shape_of_first, Shape.first_eq⟩

/-- The ways in which the first lexeme of `c :: rest` can be left open, and what is reported
then. -/
inductive LeftOpen : Char → List Char → Unterminated → Prop
  | blockComment {body : List Char} : closeComment 1 body = none →
      LeftOpen '/' ('*' :: body) ⟨.blockComment, 0⟩
  | quoted {rest : List Char} {u : Unterminated} :
      Token.closeTemplate 1 (.quote 0) [] rest = .error u → LeftOpen '"' rest u
  | heredoc {rest marker : List Char} {before : Nat} :
      heredocMarker? rest = some (before, marker) →
      heredocLength? marker (rest.drop (before + marker.length)) = none →
      LeftOpen '<' rest ⟨.heredoc, 0⟩

/-- **Only what has an end can be left open.** -/
theorem leftOpen_of_first {c : Char} {rest : List Char} {u : Unterminated}
    (h : first c rest = .error u) : LeftOpen c rest u := by
  by_cases hdeciding : c ∈ deciding
  · simp only [first] at h
    split at h
    case h_3 | h_13 => split at h <;> simp at h
    case h_6 =>
      split at h
      · simp at h
      · split at h
        · simp at h
        · rename_i hclose
          cases h
          exact .blockComment hclose
      · simp at h
    case h_14 =>
      split at h
      · simp at h
      · rename_i hclose
        cases h
        exact .quoted hclose
    case h_15 => simp_all [deciding]
    all_goals simp at h
  · rw [first_of_not_mem_deciding hdeciding] at h
    split at h
    · rename_i before marker hmarker
      split at h
      · simp at h
      · rename_i hlength
        cases h
        split at hmarker
        · rename_i hc
          subst hc
          exact .heredoc hmarker hlength
        · simp at hmarker
    · split at h
      · simp at h
      · split at h <;> simp at h

/-- **A lexeme is a piece of the text**: the characters counted to it are there. -/
theorem Shape.le_length {c : Char} {rest : List Char} {kind : Option Kind} {extra : Nat}
    (h : Shape c rest kind extra) : extra ≤ rest.length := by
  cases h with
  | blank | carriageReturn | lineFeed | bracket | equals | slash | other => exact Nat.zero_le _
  | lineEnd h =>
    obtain ⟨rest, rfl⟩ := List.head?_eq_some_iff.mp h
    simp
  | lineComment => exact lineLength_le _
  | blockComment h =>
    have := (closeComment_bounds h).2
    simp only [List.length_cons]
    omega
  | operator h =>
    obtain h | h := h
    all_goals
      obtain ⟨rest, rfl⟩ := List.head?_eq_some_iff.mp h
      simp
  | quoted h =>
    have := (Token.closeTemplate_bounds h).2
    omega
  | heredoc hmarker hlength =>
    have hbefore := heredocMarker?_le hmarker
    have hafter := heredocLength?_le hlength
    rw [List.length_drop] at hafter
    omega
  | number => exact numberLength_le rest
  | identifier => exact (List.takeWhile_prefix _).length_le

/-! ### The cut -/

/-- The text that lexemes are cut from. -/
def written (lexemes : List Lexeme) : List Char := lexemes.flatMap text

@[simp] theorem written_nil : written [] = [] := rfl

@[simp] theorem written_cons (l : Lexeme) (lexemes : List Lexeme) :
    written (l :: lexemes) = l.text ++ written lexemes := rfl

@[simp] theorem written_append (a b : List Lexeme) : written (a ++ b) = written a ++ written b := by
  simp [written]

/-- **Cutting lexemes off a text**: `Cut text lexemes left` says that the lexemes come off
the front of the text, one after the other, and leave `left`. -/
inductive Cut : List Char → List Lexeme → List Char → Prop
  /-- Nothing is cut off. -/
  | done (left : List Char) : Cut left [] left
  /-- The first lexeme comes off, and then the others. -/
  | cons {c : Char} {more rest left : List Char} {kind : Option Kind} {lexemes : List Lexeme} :
      Shape c (more ++ rest) kind more.length → Cut rest lexemes left →
      Cut (c :: (more ++ rest)) (⟨kind, c :: more⟩ :: lexemes) left

namespace Cut

/-- A lexeme of a single character comes off. -/
theorem single {c : Char} {rest left : List Char} {kind : Option Kind} {lexemes : List Lexeme}
    (h : Shape c rest kind 0) (hcut : Cut rest lexemes left) :
    Cut (c :: rest) (⟨kind, [c]⟩ :: lexemes) left :=
  @cons c [] rest left kind lexemes h hcut

/-- **Nothing is lost**: the lexemes and what is left make up the text. -/
theorem eq_written {text left : List Char} {lexemes : List Lexeme} (h : Cut text lexemes left) :
    text = written lexemes ++ left := by
  induction h with
  | done left => rfl
  | cons _ _ ih =>
    rw [ih]
    simp

/-- Two cuts can be put end to end. -/
theorem trans {text middle left : List Char} {a b : List Lexeme} (h : Cut text a middle)
    (h' : Cut middle b left) : Cut text (a ++ b) left := by
  induction h with
  | done => exact h'
  | cons hshape _ ih => exact .cons hshape (ih h')

/-- A cut can be taken apart at any of its lexemes. -/
theorem split_append {a b : List Lexeme} : ∀ {text left : List Char}, Cut text (a ++ b) left →
    ∃ middle, Cut text a middle ∧ Cut middle b left := by
  induction a with
  | nil => exact fun h => ⟨_, .done _, h⟩
  | cons l a ih =>
    intro text left h
    cases h with
    | cons hshape hrest =>
      obtain ⟨middle, ha, hb⟩ := ih hrest
      exact ⟨middle, .cons hshape ha, hb⟩

/-- The lexemes of a cut are not empty. -/
theorem text_ne_nil {text left : List Char} {lexemes : List Lexeme} (h : Cut text lexemes left) :
    ∀ l ∈ lexemes, l.text ≠ [] := by
  induction h with
  | done => simp
  | cons _ _ ih =>
    intro l hl
    obtain rfl | hl := List.mem_cons.mp hl
    · simp
    · exact ih l hl

end Cut

/-! ### The function and the judgment -/

/-- Characters of the lexeme before are passed over. -/
theorem splitFrom_skip (offset : Nat) (more rest : List Char) :
    splitFrom offset more.length (more ++ rest) = splitFrom (offset + more.length) 0 rest := by
  induction more generalizing offset with
  | nil => simp
  | cons c more ih =>
    rw [List.length_cons, List.cons_append, splitFrom, ih]
    congr 1
    omega

/-- The text of a first lexeme, and what is left behind it. -/
theorem Shape.exists_more {c : Char} {rest : List Char} {kind : Option Kind} {extra : Nat}
    (h : Shape c rest kind extra) : ∃ more after, rest = more ++ after ∧ extra = more.length :=
  ⟨rest.take extra, rest.drop extra, (List.take_append_drop extra rest).symm,
    (List.length_take_of_le h.le_length).symm⟩

/-- One step of the cut, as the function makes it. -/
theorem splitFrom_cons {c : Char} {more rest : List Char} {kind : Option Kind}
    (h : Shape c (more ++ rest) kind more.length) (offset : Nat) :
    splitFrom offset 0 (c :: (more ++ rest)) =
      (splitFrom (offset + (more.length + 1)) 0 rest).map (⟨kind, c :: more⟩ :: ·) := by
  rw [splitFrom, h.first_eq]
  simp only [splitFrom_skip, List.take_left']
  rw [show offset + 1 + more.length = offset + (more.length + 1) by omega]
  cases splitFrom (offset + (more.length + 1)) 0 rest <;> rfl

/-- Lexemes that come off the front are found first, and then the function goes on with
what is left. -/
theorem Cut.splitFrom_eq {text left : List Char} {lexemes : List Lexeme}
    (h : Cut text lexemes left) (offset : Nat) :
    splitFrom offset 0 text =
      (splitFrom (offset + (written lexemes).length) 0 left).map (lexemes ++ ·) := by
  induction h generalizing offset with
  | done left =>
    rw [written_nil, List.length_nil, Nat.add_zero]
    cases splitFrom offset 0 left <;> rfl
  | @cons c more rest left kind lexemes hshape _ ih =>
    have hoffset : offset + (written (⟨kind, c :: more⟩ :: lexemes)).length =
        offset + (more.length + 1) + (written lexemes).length := by
      simp only [written_cons, List.length_append, List.length_cons]
      omega
    rw [splitFrom_cons hshape, ih, hoffset]
    cases splitFrom (offset + (more.length + 1) + (written lexemes).length) 0 left <;> rfl

/-- **Every text is cut up, or left open somewhere.** -/
theorem exists_cut (text : List Char) :
    (∃ lexemes, Cut text lexemes []) ∨
      ∃ lexemes c rest u, Cut text lexemes (c :: rest) ∧ first c rest = .error u := by
  induction hn : text.length using Nat.strong_induction_on generalizing text with
  | _ n ih =>
    cases text with
    | nil => exact .inl ⟨[], .done []⟩
    | cons c rest =>
      cases hfirst : first c rest with
      | error u => exact .inr ⟨[], c, rest, u, .done _, hfirst⟩
      | ok found =>
        obtain ⟨kind, extra⟩ := found
        have hshape := shape_of_first hfirst
        obtain ⟨more, after, rfl, rfl⟩ := hshape.exists_more
        have hlt : after.length < n := by
          rw [← hn]
          simp only [List.length_cons, List.length_append]
          omega
        rcases ih _ hlt after rfl with ⟨lexemes, hcut⟩ | ⟨lexemes, d, left, u, hcut, herror⟩
        · exact .inl ⟨_, .cons hshape hcut⟩
        · exact .inr ⟨_, d, left, u, .cons hshape hcut, herror⟩

theorem Cut.split_eq {text : List Char} {lexemes : List Lexeme} (h : Cut text lexemes []) :
    split text = .ok lexemes := by
  rw [split, h.splitFrom_eq]
  simp [splitFrom, Except.map]

theorem Cut.split_eq_error {text rest : List Char} {c : Char} {lexemes : List Lexeme}
    {u : Unterminated} (h : Cut text lexemes (c :: rest)) (hfirst : first c rest = .error u) :
    split text = .error (u.shift (written lexemes).length) := by
  rw [split, h.splitFrom_eq, splitFrom, hfirst]
  simp [Except.map]

/-- **The lexemes found are those that can be cut off.** -/
theorem split_eq_ok_iff {text : List Char} {lexemes : List Lexeme} :
    split text = .ok lexemes ↔ Cut text lexemes [] := by
  refine ⟨fun h => ?_, Cut.split_eq⟩
  rcases exists_cut text with ⟨found, hcut⟩ | ⟨found, c, rest, u, hcut, herror⟩
  · obtain rfl : found = lexemes := by simpa [hcut.split_eq] using h
    exact hcut
  · simp [hcut.split_eq_error herror] at h

/-- **A failure is a lexeme left open**, behind lexemes that can be cut off, and it is
reported as seen from the start of the text. -/
theorem split_eq_error_iff {text : List Char} {u : Unterminated} :
    split text = .error u ↔ ∃ lexemes c rest v, Cut text lexemes (c :: rest) ∧
      first c rest = .error v ∧ u = v.shift (written lexemes).length := by
  constructor
  · intro h
    rcases exists_cut text with ⟨found, hcut⟩ | ⟨found, c, rest, v, hcut, herror⟩
    · simp [hcut.split_eq] at h
    · refine ⟨found, c, rest, v, hcut, herror, ?_⟩
      simpa [hcut.split_eq_error herror] using h.symm
  · rintro ⟨lexemes, c, rest, v, hcut, herror, rfl⟩
    exact hcut.split_eq_error herror

end Lexeme

/-! ### Lexemes in place -/

namespace Token

open Lexeme Position

/-- Lexemes that stand behind a text are placed from the position behind it on. -/
theorem place_cons_some {l : Lexeme} {kind : Kind} (h : l.kind = some kind) (file : String)
    (before : List Char) (lexemes : List Lexeme) :
    place file (behind before) (l :: lexemes) =
      ofEnds file kind (behind before) (behind (before ++ l.text)) ::
        place file (behind (before ++ l.text)) lexemes := by
  simp only [place, h, behind_advance]

theorem place_cons_none {l : Lexeme} (h : l.kind = none) (file : String) (before : List Char)
    (lexemes : List Lexeme) :
    place file (behind before) (l :: lexemes) =
      place file (behind (before ++ l.text)) lexemes := by
  simp only [place, h, behind_advance]

theorem place_ne_nil (file : String) (p : Position) (lexemes : List Lexeme) :
    place file p lexemes ≠ [] := by
  induction lexemes generalizing p with
  | nil => simp [place]
  | cons l lexemes ih =>
    simp only [place]
    split
    · exact ih _
    · simp

/-- The tokens of the later lexemes are among the tokens of all. -/
theorem place_subset (file : String) (before : List Char) (l : Lexeme) (lexemes : List Lexeme) :
    place file (behind (before ++ l.text)) lexemes ⊆ place file (behind before) (l :: lexemes) := by
  cases hkind : l.kind with
  | none =>
    rw [place_cons_none hkind]
    exact List.Subset.refl _
  | some kind =>
    rw [place_cons_some hkind]
    exact List.subset_cons_self _ _

/-- **Where a token stands among others**: it is a lexeme in its place, the tokens in front of
it are of the kinds of the lexemes in front, and those behind it are the later lexemes in their
places. Or it is the end of the file. -/
theorem place_eq_append_cons {file : String} {before : List Char} {lexemes : List Lexeme}
    {front rest : List Token} {t : Token}
    (h : place file (behind before) lexemes = front ++ t :: rest) :
    (∃ passed l left kind, lexemes = passed ++ l :: left ∧ l.kind = some kind ∧
      t = ofEnds file kind (behind (before ++ written passed))
        (behind (before ++ written passed ++ l.text)) ∧
      front.map Token.kind = passed.filterMap Lexeme.kind ∧
      rest = place file (behind (before ++ written passed ++ l.text)) left) ∨
    t = ofEnds file .endOfFile (behind (before ++ written lexemes))
      (behind (before ++ written lexemes)) := by
  induction lexemes generalizing before front with
  | nil =>
    have hmem : t ∈ place file (behind before) [] := by simp [h]
    exact .inr (by simpa [place] using hmem)
  | cons l lexemes ih =>
    -- behind the first lexeme, whether it is a token or not
    have hlater {front : List Token}
        (hrest : place file (behind (before ++ l.text)) lexemes = front ++ t :: rest) := by
      simpa only [List.append_assoc, ← written_cons] using ih hrest
    cases hkind : l.kind with
    | none =>
      rw [place_cons_none hkind] at h
      refine (hlater h).imp_left ?_
      rintro ⟨passed, l', left, kind, rfl, hkind', rfl, hfront, rfl⟩
      exact ⟨l :: passed, l', left, kind, rfl, hkind', by simp, by simp [hkind, hfront], by simp⟩
    | some kind =>
      rw [place_cons_some hkind] at h
      cases front with
      | nil =>
        obtain ⟨rfl, rfl⟩ := List.cons.inj h
        exact .inl ⟨[], l, lexemes, kind, rfl, hkind, by simp, rfl, by simp⟩
      | cons first front =>
        obtain ⟨rfl, hrest⟩ := List.cons.inj h
        refine (hlater hrest).imp_left ?_
        rintro ⟨passed, l', left, kind', rfl, hkind', rfl, hfront, rfl⟩
        exact ⟨l :: passed, l', left, kind', rfl, hkind', by simp,
          by simp [hkind, hfront, ofEnds], by simp⟩

/-- **Every token is a lexeme in its place**, or the end of the file. -/
theorem mem_place {file : String} {before : List Char} {lexemes : List Lexeme} {t : Token}
    (h : t ∈ place file (behind before) lexemes) :
    (∃ front l back kind, lexemes = front ++ l :: back ∧ l.kind = some kind ∧
      t = ofEnds file kind (behind (before ++ written front))
        (behind (before ++ written front ++ l.text))) ∨
    t = ofEnds file .endOfFile (behind (before ++ written lexemes))
      (behind (before ++ written lexemes)) := by
  obtain ⟨front, rest, hplace⟩ := List.append_of_mem h
  refine (place_eq_append_cons hplace).imp_left ?_
  rintro ⟨passed, l, left, kind, hlexemes, hkind, ht, -, -⟩
  exact ⟨passed, l, left, kind, hlexemes, hkind, ht⟩

/-- The tokens of a text that can be cut up. -/
theorem lex_eq_ok_iff {file source : String} {tokens : List Token} :
    lex file source = .ok tokens ↔
      ∃ lexemes, Cut source.toList lexemes [] ∧ tokens = place file (behind []) lexemes := by
  simp only [lex, ← split_eq_ok_iff]
  cases split source.toList with
  | ok lexemes =>
    constructor
    · intro h
      exact ⟨lexemes, rfl, (Except.ok.inj h).symm⟩
    · rintro ⟨found, hfound, rfl⟩
      obtain rfl := Except.ok.inj hfound
      rfl
  | error u => simp

/-- The failure of a text that leaves something open. -/
theorem lex_eq_error_iff {file source : String} {e : LexError} :
    lex file source = .error e ↔ ∃ u, split source.toList = .error u ∧
      e = ⟨file, u.what, behind (source.toList.take u.offset)⟩ := by
  simp only [lex]
  cases split source.toList with
  | ok lexemes => simp
  | error u => simp [advance_start, eq_comm]

/-- **Tokens are in their place**: each names the file, and its ends are places in the source,
in order. -/
theorem isIn_of_mem_lex {file source : String} {tokens : List Token}
    (h : lex file source = .ok tokens) {t : Token} (ht : t ∈ tokens) :
    t.span.file = file ∧ t.span.start.byte ≤ t.span.stop.byte ∧
      t.span.start.IsIn source.toList ∧ t.span.stop.IsIn source.toList := by
  obtain ⟨lexemes, hcut, rfl⟩ := lex_eq_ok_iff.mp h
  have hsource : source.toList = written lexemes := by simpa using hcut.eq_written
  rcases mem_place ht with ⟨front, l, back, kind, rfl, -, rfl⟩ | rfl
  · refine ⟨rfl, ?_, ⟨written front, l.text ++ written back, ?_, rfl⟩,
      ⟨written front ++ l.text, written back, ?_, rfl⟩⟩
    · simp [ofEnds]
    · simpa using hsource
    · simpa using hsource
  · have hend : IsIn source.toList (behind (written lexemes)) :=
      ⟨_, [], by simpa using hsource, rfl⟩
    exact ⟨rfl, le_rfl, hend, hend⟩

end Token

end TerraLint
