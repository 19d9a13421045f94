import TerraLint.Proofs.Concatenation
import TerraLint.Proofs.Tiling

/-!
# Tokens by themselves

A token is cut off a text with all that follows it in view: a slash may open a
comment, an equals sign may be half of an operator, a number may go on with an
exponent, and a heredoc ends where a line ends. This file shows that what follows a
token does not matter once the token has been found: its text, read as a file of its
own, has this one token (`TerraLint.Token.lex_text`). So the kind of a token and how
far it reaches are in its text.

The argument is about scanners on a text that stops where the lexeme ends. A scanner
that has found its end does not miss what comes behind it
(`TerraLint.Token.closeTemplate_take`), one that counts as many characters as it can
counts the same ones (`TerraLint.Lexeme.numberLength_take`), and a heredoc asks no more
than that a line ends behind it (`TerraLint.Lexeme.shape_heredoc_iff`). Together they say
that every shape of a lexeme is kept (`TerraLint.Lexeme.Shape.take`).
-/

namespace TerraLint

/-! ### Scanners that look for an end -/

/-- The first character belongs to a text that is cut off behind it. -/
theorem take_sub_cons {read length : Nat} (h : read < length) (c : Char) (rest : List Char) :
    (c :: rest).take (length - read) = c :: rest.take (length - (read + 1)) := by
  rw [show length - read = length - (read + 1) + 1 by omega, List.take_succ_cons]

namespace Token

/-- A template is closed at the same place in the text that stops there. -/
theorem closeTemplate_take {read : Nat} {frame : Frame} {outer : List Frame} {text : List Char}
    {length : Nat} (h : closeTemplate read frame outer text = .ok length) :
    closeTemplate read frame outer (text.take (length - read)) = .ok length := by
  fun_induction closeTemplate read frame outer text
  case case1 | case2 => simp at h
  case case4 | case14 =>
    obtain rfl := Except.ok.inj h
    rw [Nat.add_sub_cancel_left]
    simp_all [closeTemplate]
  all_goals have hnext := closeTemplate_bounds h
  -- a doubled sign looks one character further, and so does a character that opens nothing;
  -- there is one, since the template closes
  case case10 rest hbrace ih | case11 rest hbrace ih =>
    cases rest with
    | nil => simp [closeTemplate] at h
    | cons d rest =>
      have hd : d ≠ '{' := fun hd => hbrace rest (by rw [hd])
      have ih' := ih h
      rw [take_sub_cons (by omega)] at ih'
      rw [take_sub_cons (by omega), take_sub_cons (by omega), take_sub_cons (by omega),
        closeTemplate]
      · exact ih'
      all_goals simp [hd]
  case case12 rest _ _ _ _ _ _ _ _ _ ih =>
    cases rest with
    | nil => simp [closeTemplate] at h
    | cons d rest =>
      have ih' := ih h
      rw [take_sub_cons (by omega)] at ih'
      rw [take_sub_cons (by omega), take_sub_cons (by omega), closeTemplate]
      · exact ih'
      all_goals simp_all
  case case16 hbraces ih =>
    rw [take_sub_cons (by omega)]
    simp only [closeTemplate, if_neg hbraces]
    exact ih h
  all_goals
    simp (disch := omega) only [take_sub_cons]
    simp_all [closeTemplate]

end Token

namespace Lexeme

theorem closeComment_take {read : Nat} {text : List Char} {length : Nat}
    (h : closeComment read text = some length) :
    closeComment read (text.take (length - read)) = some length := by
  fun_induction closeComment read text with
  | case1 => simp at h
  | case2 read rest =>
    obtain rfl : read + 2 = length := by simpa using h
    rw [Nat.add_sub_cancel_left]
    rfl
  | case3 read c rest hclose ih =>
    have hbounds := closeComment_bounds h
    cases rest with
    | nil => simp [closeComment] at h
    | cons d rest =>
      have ih' := ih h
      rw [take_sub_cons (by omega)] at ih'
      rw [take_sub_cons (by omega), take_sub_cons (by omega), closeComment]
      · exact ih'
      · simpa using hclose

/-! ### Scanners that count as far as they can -/

theorem takeWhile_take (p : Char → Bool) (text : List Char) (n : Nat) :
    (text.take n).takeWhile p = (text.takeWhile p).take n := by
  induction text generalizing n with
  | nil => simp
  | cons c rest ih =>
    cases n with
    | zero => simp
    | succ n =>
      rw [List.take_succ_cons, List.takeWhile_cons, List.takeWhile_cons, ih]
      split <;> simp

theorem lineLength_take (text : List Char) (n : Nat) :
    lineLength (text.take n) = min n (lineLength text) := by
  have hline := (List.takeWhile_prefix (l := text) (· != '\n')).length_le
  simp only [lineLength, takeWhile_take, List.length_take]
  split <;> split <;> omega

theorem lineLength_pos {text : List Char} (h : text ≠ []) : 0 < lineLength text := by
  have hpos := List.length_pos_iff.mpr h
  simp only [lineLength]
  split <;> omega

theorem digitCount_take (text : List Char) (n : Nat) :
    digitCount (text.take n) = min n (digitCount text) := by
  rw [digitCount, takeWhile_take, List.length_take, digitCount]

theorem fractionLength_take {text : List Char} {n : Nat} (h : fractionLength text ≤ n) :
    fractionLength (text.take n) = fractionLength text := by
  cases text with
  | nil => rw [List.take_nil]
  | cons c rest =>
    cases n with
    | zero => rw [List.take_zero, Nat.le_zero.mp h, fractionLength]; simp
    | succ n =>
      by_cases hc : c = '.'
      · subst hc
        simp only [fractionLength] at h
        simp only [List.take_succ_cons, fractionLength, digitCount_take]
        split at h <;> split <;> omega
      · rw [List.take_succ_cons, fractionLength, fractionLength] <;> simpa using hc

theorem signLength_take {n : Nat} (h : 0 < n) (text : List Char) :
    signLength (text.take n) = signLength text := by
  obtain ⟨n, rfl⟩ : ∃ m, n = m + 1 := ⟨n - 1, by omega⟩
  cases text with
  | nil => rw [List.take_nil]
  | cons c rest =>
    rw [List.take_succ_cons]
    unfold signLength
    split <;> simp_all

/-- An exponent is as long in a text that is cut off behind it: where its digits are missing,
they are missing in the shorter text as well. -/
theorem exponentLength_take {text : List Char} {n : Nat} (h : exponentLength text ≤ n) :
    exponentLength (text.take n) = exponentLength text := by
  cases text with
  | nil => rw [List.take_nil]
  | cons c rest =>
    cases n with
    | zero => rw [List.take_zero, Nat.le_zero.mp h, exponentLength]
    | succ n =>
      rw [List.take_succ_cons]
      by_cases hc : c = 'e' ∨ c = 'E'
      · simp only [exponentLength, if_pos hc] at h ⊢
        rcases Nat.eq_zero_or_pos n with rfl | hn
        · have hnone : digitCount ((rest.take 0).drop (signLength (rest.take 0))) = 0 := rfl
          rw [if_pos hnone]
          split at h
          · rw [if_pos ‹_›]
          · omega
        · rw [signLength_take hn, List.drop_take, digitCount_take]
          split at h <;> split <;> omega
      · simp only [exponentLength, if_neg hc]

theorem numberLength_take {rest : List Char} {n : Nat} (h : numberLength rest ≤ n) :
    numberLength (rest.take n) = numberLength rest := by
  simp only [numberLength] at h
  have hwhole : digitCount (rest.take n) = digitCount rest := by
    rw [digitCount_take]
    omega
  have hfraction : fractionLength ((rest.take n).drop (digitCount rest)) =
      fractionLength (rest.drop (digitCount rest)) := by
    rw [List.drop_take]
    exact fractionLength_take (by omega)
  simp only [numberLength, hwhole, hfraction]
  rw [List.drop_take, exponentLength_take (by omega)]

theorem head?_take {n : Nat} (h : 0 < n) (text : List Char) : (text.take n).head? = text.head? := by
  rw [List.head?_take, if_neg (by omega)]

/-- A text that is cut off introduces no heredoc that the whole text does not. -/
theorem heredocMarker?_take_eq_none {text : List Char} (h : heredocMarker? text = none) (n : Nat) :
    heredocMarker? (text.take n) = none := by
  cases htake : heredocMarker? (text.take n) with
  | none => rfl
  | some found =>
    obtain ⟨dash, hdash, named, heq, -, hstart, -⟩ := exists_of_heredocMarker? htake
    have htext : text = '<' :: (dash ++ (named ++ text.drop n)) := by
      rw [← List.append_assoc, ← List.cons_append, ← heq, List.take_append_drop]
    have hnamed : (named ++ text.drop n).head?.any Text.isIdentifierStart = true := by
      rwa [List.head?_append_of_ne_nil _ (by rintro rfl; simp at hstart)]
    rw [htext, heredocMarker?_eq hdash hnamed] at h
    simp at h

/-! ### Lexemes and tokens -/

/-- **A lexeme does not need what follows it**: the first lexeme of a text is also that of the
text that stops behind it, or later. -/
theorem Shape.take {c : Char} {rest : List Char} {kind : Option Kind} {extra : Nat}
    (h : Shape c rest kind extra) {n : Nat} (hn : extra ≤ n) :
    Shape c (rest.take n) kind extra := by
  -- what is not at the front of the text is not at the front of a part of it
  have hfront {d : Char} (hd : rest.head? ≠ some d) : (rest.take n).head? ≠ some d := by
    rw [List.head?_take]
    split
    · simp
    · exact hd
  cases h with
  | blank h => exact .blank h
  | carriageReturn h => exact .carriageReturn (hfront h)
  | lineFeed => exact .lineFeed
  | lineEnd h =>
    refine .lineEnd ?_
    rwa [head?_take hn]
  | lineComment h =>
    have hopening : c = '#' ∨ c = '/' ∧ (rest.take n).head? = some '/' := by
      refine h.imp_right ?_
      rintro ⟨hc, hslash⟩
      have hne : rest ≠ [] := by
        rintro rfl
        simp at hslash
      have hpos := lineLength_pos hne
      exact ⟨hc, by rwa [head?_take (by omega)]⟩
    have hshape := Shape.lineComment hopening
    rwa [lineLength_take, Nat.min_eq_right hn] at hshape
  | blockComment h =>
    have hbounds := closeComment_bounds h
    obtain ⟨m, rfl⟩ : ∃ m, n = extra - 1 + m + 1 := ⟨n - extra, by omega⟩
    rw [List.take_succ_cons, List.take_add]
    exact .blockComment (closeComment_append (closeComment_take h) _)
  | bracket h => exact .bracket h
  | equals h h' => exact .equals (hfront h) (hfront h')
  | operator h =>
    refine .operator ?_
    rwa [head?_take hn]
  | quoted h =>
    obtain ⟨m, rfl⟩ := Nat.exists_eq_add_of_le hn
    rw [List.take_add]
    exact .quoted (Token.closeTemplate_append (Token.closeTemplate_take h) _)
  | heredoc hmarker hlength =>
    obtain ⟨more, after, rfl, hextra⟩ := (Shape.heredoc hmarker hlength).exists_more
    have hshape := Shape.heredoc hmarker hlength
    rw [hextra] at hshape hn ⊢
    obtain ⟨hword, hafter⟩ := shape_heredoc_iff.mp hshape
    rw [List.take_append, List.take_of_length_le hn, shape_heredoc_iff]
    refine ⟨hword, fun d hd => hafter d ?_⟩
    rw [List.head?_take] at hd
    split at hd
    · simp at hd
    · exact hd
  | number h =>
    have hshape : Shape c (rest.take n) (some .number) _ := .number h
    rwa [numberLength_take hn] at hshape
  | identifier h =>
    have hshape : Shape c (rest.take n) (some .identifier) _ := .identifier h
    rwa [takeWhile_take, List.take_of_length_le hn] at hshape
  | slash h h' => exact .slash (hfront h) (hfront h')
  | other hdeciding hangle hdigit hstart =>
    exact .other hdeciding (fun hc => heredocMarker?_take_eq_none (hangle hc) n) hdigit hstart

/-- The text of a lexeme, cut up by itself, is the lexeme. -/
theorem Shape.cut {c : Char} {more rest : List Char} {kind : Option Kind}
    (h : Shape c (more ++ rest) kind more.length) : Cut (c :: more) [⟨kind, c :: more⟩] [] := by
  have hshape : Shape c (more ++ []) kind more.length := by
    simpa [List.take_left] using h.take le_rfl
  have hcut := Cut.cons hshape (.done [])
  rwa [List.append_nil] at hcut

end Lexeme

namespace Token

open Lexeme Position

/-- The tokens of a file that is a single token of a kind. -/
def single (file : String) (kind : Kind) (text : List Char) : List Token :=
  [⟨kind, ⟨0, byteLength text⟩, ⟨file, .start, behind text⟩⟩,
    ⟨.endOfFile, ⟨byteLength text, byteLength text⟩, .point file (behind text)⟩]

/-- The text of a token is a lexeme of its kind, and the token covers its bytes. -/
theorem exists_shape {file source : String} {tokens : List Token} (h : lex file source = .ok tokens)
    {t : Token} (ht : t ∈ tokens) (hend : t.kind ≠ .endOfFile) :
    ∃ c more rest, (t.text source).toList = c :: more ∧
      Shape c (more ++ rest) (some t.kind) more.length ∧
      t.bytes.stop = t.bytes.start + byteLength (c :: more) := by
  obtain ⟨lexemes, hcut, rfl⟩ := lex_eq_ok_iff.mp h
  rcases mem_place ht with ⟨front, l, back, kind, rfl, hkind, rfl⟩ | rfl
  · obtain ⟨middle, hfront, hback⟩ := hcut.split_append
    cases hback with
    | @cons c more rest _ _ _ hshape _ =>
      obtain rfl := hkind
      refine ⟨c, more, rest, ?_, hshape, ?_⟩
      · exact text_ofEnds (written front) (c :: more) rest hfront.eq_written file kind
      · simp only [ofEnds, behind_byte, List.nil_append, byteLength_append]
  · exact absurd rfl hend

/-- A lexeme that is a token is the one token of its text. -/
theorem lex_eq_single {c : Char} {more rest : List Char} {kind : Kind}
    (h : Shape c (more ++ rest) (some kind) more.length) (file : String) {text : String}
    (htext : text.toList = c :: more) : lex file text = .ok (single file kind text.toList) := by
  refine lex_eq_ok_iff.mpr ⟨[⟨some kind, c :: more⟩], htext ▸ h.cut, ?_⟩
  rw [place_cons_some rfl, htext]
  rfl

/-- **Tokens are self-contained.** The text of a token, as a file of its own, has one token, of
the same kind and over the whole text. So two tokens with the same text, wherever they stand,
are of the same kind and cover equally many bytes. -/
theorem lex_text {file source : String} {tokens : List Token} (h : lex file source = .ok tokens)
    {t : Token} (ht : t ∈ tokens) (hend : t.kind ≠ .endOfFile) :
    (∀ file', lex file' (t.text source) = .ok (single file' t.kind (t.text source).toList)) ∧
    ∀ {file' source' tokens' t'}, lex file' source' = .ok tokens' → t' ∈ tokens' →
      t'.kind ≠ .endOfFile → t'.text source' = t.text source →
      t'.kind = t.kind ∧ t'.bytes.stop - t'.bytes.start = t.bytes.stop - t.bytes.start := by
  obtain ⟨c, more, rest, htext, hshape, hbytes⟩ := exists_shape h ht hend
  refine ⟨fun file' => lex_eq_single hshape file' htext, fun h' ht' hend' hsame => ?_⟩
  obtain ⟨c', more', rest', htext', hshape', hbytes'⟩ := exists_shape h' ht' hend'
  obtain ⟨rfl, rfl⟩ : c' = c ∧ more' = more := by simpa [hsame, htext] using htext'.symm
  have hkinds := (lex_eq_single hshape' file htext').symm.trans
    (hsame ▸ lex_eq_single hshape file htext)
  refine ⟨?_, by omega⟩
  simpa [single, hsame] using hkinds

/-- A heredoc with a quote in it and blanks around its closing marker, and a slash on the next
line. -/
theorem lex_text_heredoc :
    let heredoc : Token := ⟨.heredoc, ⟨4, 13⟩, ⟨"m", ⟨1, 5, 4⟩, ⟨3, 4, 13⟩⟩⟩
    heredoc.text "a = <<E\n\"\n E \n/" = "<<E\n\"\n E " ∧
      lex "n" "<<E\n\"\n E " = .ok (single "n" .heredoc "<<E\n\"\n E ".toList) := by
  intro heredoc
  have hlex : lex "m" "a = <<E\n\"\n E \n/" = .ok
      [⟨.identifier, ⟨0, 1⟩, ⟨"m", ⟨1, 1, 0⟩, ⟨1, 2, 1⟩⟩⟩,
        ⟨.equals, ⟨2, 3⟩, ⟨"m", ⟨1, 3, 2⟩, ⟨1, 4, 3⟩⟩⟩, heredoc,
        ⟨.newline, ⟨13, 14⟩, ⟨"m", ⟨3, 4, 13⟩, ⟨4, 1, 14⟩⟩⟩,
        ⟨.other, ⟨14, 15⟩, ⟨"m", ⟨4, 1, 14⟩, ⟨4, 2, 15⟩⟩⟩,
        ⟨.endOfFile, ⟨15, 15⟩, ⟨"m", ⟨4, 2, 15⟩, ⟨4, 2, 15⟩⟩⟩] := by decide +kernel
  have htext : heredoc.text "a = <<E\n\"\n E \n/" = "<<E\n\"\n E " := by decide +kernel
  refine ⟨htext, ?_⟩
  have halone := (lex_text hlex (t := heredoc) (by simp) (by decide)).1 "n"
  rwa [htext] at halone

end Token

end TerraLint
