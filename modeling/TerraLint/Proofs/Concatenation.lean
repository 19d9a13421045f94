import TerraLint.Proofs.Heredocs
import TerraLint.Proofs.Position

/-!
# Tokens of concatenated texts

Lexing composes at line ends: where a text of whole lines has tokens, the tokens of
a longer text that begins with it are those, up to the end of the file, followed by
the tokens of the remainder, moved down by the lines in front
(`TerraLint.Token.lex_append`). A construct that the remainder leaves open is
reported at the place moved in the same way.

Two things carry the argument. No lexeme of the first text looks past its final
line feed (`TerraLint.Lexeme.Shape.append`): what looks ahead stops at a line feed,
and what runs over line feeds (block comments, templates, heredocs) has been closed
before. And the scanner carries no state but its position, so that the cut of the
remainder is the same wherever it stands.
-/

namespace TerraLint

/-! ### Scanners that have closed are not reopened -/

namespace Token

/-- A template that is closed in a text is closed at the same place in a longer one. -/
theorem closeTemplate_append {read : Nat} {frame : Frame} {outer : List Frame}
    {text : List Char} {length : Nat} (h : closeTemplate read frame outer text = .ok length)
    (b : List Char) : closeTemplate read frame outer (text ++ b) = .ok length := by
  fun_induction closeTemplate read frame outer text
  -- a doubled sign looks one character further; there is one, since the template closes
  case case10 rest hbrace ih | case11 rest hbrace ih =>
    cases rest with
    | nil => simp [closeTemplate] at h
    | cons d rest =>
      have hd : d ≠ '{' := fun hd => hbrace rest (by rw [hd])
      rw [List.cons_append, List.cons_append, closeTemplate]
      · exact ih h
      all_goals simp [hd]
  case case12 c _ rest _ _ _ _ _ _ _ _ _ ih =>
    cases rest with
    | nil => simp [closeTemplate] at h
    | cons d rest =>
      rw [List.cons_append, closeTemplate]
      · exact ih h
      all_goals simp_all
  case case16 start braces hbraces ih =>
    simp only [List.cons_append, closeTemplate, if_neg hbraces]
    exact ih h
  all_goals simp_all [closeTemplate]

end Token

namespace Lexeme

theorem closeComment_append {read : Nat} {text : List Char} {length : Nat}
    (h : closeComment read text = some length) (b : List Char) :
    closeComment read (text ++ b) = some length := by
  fun_induction closeComment read text with
  | case1 => simp at h
  | case2 => exact h
  | case3 read c rest hclose ih =>
    cases rest with
    | nil => simp [closeComment] at h
    | cons d rest =>
      rw [List.cons_append, closeComment]
      · exact ih h
      · simpa using hclose

/-! ### Looking ahead -/

/-- The characters at which looking ahead ends: they continue no name, no number and no
operator but a slash, and introduce no heredoc. -/
def stops : List Char := [' ', '\t', '\n', '}', '/']

theorem classes_of_stop {s : Char} (hs : s ∈ stops) : Text.isIdentifierContinue s = false ∧
    Text.isIdentifierStart s = false ∧ Text.isAsciiDigit s = false := by
  have hall : stops.all (fun s => !Text.isIdentifierContinue s && (!Text.isIdentifierStart s &&
      !Text.isAsciiDigit s)) = true := by decide
  simpa using List.all_eq_true.mp hall s hs

theorem ne_of_stop {s d : Char} (hs : s ∈ stops)
    (hd : d ∈ ['.', '+', '-', 'e', 'E', '<', '=', '>', '*']) : s ≠ d := by
  have hall : stops.all (fun s => ['.', '+', '-', 'e', 'E', '<', '=', '>', '*'].all
      (s != ·)) = true := by decide
  simpa using List.all_eq_true.mp (List.all_eq_true.mp hall s hs) d hd

theorem takeWhile_append_cons {p : Char → Bool} {s : Char} (hp : p s = false)
    (text b : List Char) : (text ++ s :: b).takeWhile p = text.takeWhile p := by
  rw [List.takeWhile_append, List.takeWhile_cons_of_neg (by simp [hp]), List.append_nil]
  split
  · rename_i hall
    exact ((List.takeWhile_prefix p).eq_of_length hall).symm
  · rfl

section LookAhead

variable {s : Char} (hs : s ∈ stops) (text b : List Char)

include hs

theorem digitCount_append_cons : digitCount (text ++ s :: b) = digitCount text := by
  rw [digitCount, digitCount, takeWhile_append_cons (classes_of_stop hs).2.2]

theorem fractionLength_append_cons : fractionLength (text ++ s :: b) = fractionLength text := by
  cases text with
  | nil =>
    have hpoint : s ≠ '.' := ne_of_stop hs (by simp)
    simp [fractionLength, hpoint]
  | cons c rest =>
    by_cases hc : c = '.'
    · subst hc
      simp only [List.cons_append, fractionLength, digitCount_append_cons hs]
    · rw [List.cons_append, fractionLength, fractionLength] <;> simpa using hc

theorem signLength_append_cons : signLength (text ++ s :: b) = signLength text := by
  cases text with
  | nil =>
    have hsign : s ≠ '+' ∧ s ≠ '-' := ⟨ne_of_stop hs (by simp), ne_of_stop hs (by simp)⟩
    simp [signLength, hsign]
  | cons c rest =>
    simp only [List.cons_append]
    unfold signLength
    split <;> simp_all

theorem exponentLength_append_cons : exponentLength (text ++ s :: b) = exponentLength text := by
  cases text with
  | nil =>
    have hletter : ¬(s = 'e' ∨ s = 'E') :=
      not_or.mpr ⟨ne_of_stop hs (by simp), ne_of_stop hs (by simp)⟩
    simp only [List.nil_append, exponentLength, if_neg hletter]
  | cons c rest =>
    simp only [List.cons_append, exponentLength, signLength_append_cons hs,
      List.drop_append_of_le_length (signLength_le rest), digitCount_append_cons hs]

theorem numberLength_append_cons : numberLength (text ++ s :: b) = numberLength text := by
  have hwhole := digitCount_le text
  have hfraction := fractionLength_le (text.drop (digitCount text))
  rw [List.length_drop] at hfraction
  have hle : digitCount text + fractionLength (text.drop (digitCount text)) ≤ text.length := by
    omega
  simp only [numberLength, digitCount_append_cons hs, List.drop_append_of_le_length hwhole,
    fractionLength_append_cons hs, List.drop_append_of_le_length hle,
    exponentLength_append_cons hs]

theorem heredocMarker?_append_cons : heredocMarker? (text ++ s :: b) = heredocMarker? text := by
  obtain ⟨hcontinue, hstart, -⟩ := classes_of_stop hs
  have hhead (rest : List Char) :
      (rest ++ s :: b).head?.any Text.isIdentifierStart = rest.head?.any Text.isIdentifierStart := by
    cases rest <;> simp [hstart]
  have hrun := takeWhile_append_cons hcontinue
  have hdash : s ≠ '-' := ne_of_stop hs (by simp)
  cases text with
  | nil =>
    have hangle : s ≠ '<' := ne_of_stop hs (by simp)
    simp [heredocMarker?, hangle]
  | cons c rest =>
    by_cases hc : c = '<'
    · subst hc
      by_cases hd : ∃ rest', rest = '-' :: rest'
      · obtain ⟨rest, rfl⟩ := hd
        simp only [List.cons_append, heredocMarker?, hhead, hrun]
      · have hnot : ∀ rest', rest ++ s :: b = '-' :: rest' → False := by
          intro rest' heq
          cases rest with
          | nil => exact hdash (List.cons.inj heq).1
          | cons d rest => exact hd ⟨rest, by rw [(List.cons.inj heq).1]⟩
        rw [List.cons_append, heredocMarker?, heredocMarker?, hhead, hrun]
        · exact fun rest' heq => hd ⟨rest', heq⟩
        · exact hnot
    · simp [heredocMarker?, hc]

end LookAhead

/-! ### Looking ahead in whole lines -/

/-- A scanner that stops at a character does not see what is put behind a text with it. -/
theorem eq_of_mem_of_stop {α : Type} {scan : List Char → α} {s : Char}
    (hscan : ∀ text b, scan (text ++ s :: b) = scan text) {text : List Char} (hmem : s ∈ text)
    (b : List Char) : scan (text ++ b) = scan text := by
  obtain ⟨front, back, rfl⟩ := List.append_of_mem hmem
  rw [List.append_assoc, List.cons_append, hscan, hscan]

section WholeLines

variable {text : List Char} (hfeed : '\n' ∈ text) (b : List Char)

include hfeed

theorem head?_append_of_mem : (text ++ b).head? = text.head? := by
  rw [List.head?_append_of_ne_nil _ (List.ne_nil_of_mem hfeed)]

theorem lineLength_append : lineLength (text ++ b) = lineLength text := by
  obtain ⟨line, rest, rfl, hline⟩ := List.eq_append_cons_of_mem hfeed
  rw [List.append_assoc, List.cons_append, lineLength_line hline, lineLength_line hline]

theorem numberLength_append : numberLength (text ++ b) = numberLength text :=
  eq_of_mem_of_stop (numberLength_append_cons (by decide)) hfeed b

theorem heredocMarker?_append : heredocMarker? (text ++ b) = heredocMarker? text :=
  eq_of_mem_of_stop (heredocMarker?_append_cons (by decide)) hfeed b

end WholeLines

/-- **No lexeme looks past a final line feed.** -/
theorem Shape.append {c : Char} {rest : List Char} {kind : Option Kind} {extra : Nat}
    (h : Shape c rest kind extra) (hlines : Position.WholeLines (c :: rest)) (b : List Char) :
    Shape c (rest ++ b) kind extra := by
  cases h with
  | blank h => exact .blank h
  | carriageReturn h =>
    refine .carriageReturn ?_
    rwa [head?_append_of_mem (hlines.mem_tail (by decide))]
  | lineFeed => exact .lineFeed
  | lineEnd h =>
    refine .lineEnd ?_
    rwa [head?_append_of_mem (hlines.mem_tail (by decide))]
  | lineComment h =>
    have hfeed : '\n' ∈ rest := hlines.mem_tail (by rcases h with rfl | ⟨rfl, -⟩ <;> decide)
    rw [← lineLength_append hfeed b]
    refine .lineComment ?_
    rwa [head?_append_of_mem hfeed]
  | blockComment h => exact .blockComment (closeComment_append h b)
  | bracket h => exact .bracket h
  | equals h h' =>
    have hhead := head?_append_of_mem (hlines.mem_tail (by decide)) b
    exact .equals (by rwa [hhead]) (by rwa [hhead])
  | operator h =>
    refine .operator ?_
    rwa [head?_append_of_mem (hlines.mem_tail (by decide))]
  | quoted h => exact .quoted (Token.closeTemplate_append h b)
  | heredoc hmarker hlength =>
    obtain ⟨more, after, rfl, hextra⟩ := (Shape.heredoc hmarker hlength).exists_more
    have hshape := Shape.heredoc hmarker hlength
    rw [hextra] at hshape ⊢
    obtain ⟨hword, hafter⟩ := shape_heredoc_iff.mp hshape
    -- the closing line is ended by what follows it, since it does not end by itself
    have hne : after ≠ [] := by
      rintro rfl
      exact hword.not_wholeLines (by simpa using hlines)
    rw [List.append_assoc, shape_heredoc_iff]
    refine ⟨hword, ?_⟩
    rwa [EndsLine, List.head?_append_of_ne_nil _ hne]
  | number h =>
    have hfeed : '\n' ∈ rest := hlines.mem_tail (by rintro rfl; exact absurd h (by decide))
    rw [← numberLength_append hfeed b]
    exact .number h
  | identifier h =>
    have hfeed : '\n' ∈ rest := hlines.mem_tail (by rintro rfl; exact absurd h (by decide))
    rw [← eq_of_mem_of_stop (takeWhile_append_cons (p := Text.isIdentifierContinue) (by decide))
      hfeed b]
    exact .identifier h
  | slash h h' =>
    have hhead := head?_append_of_mem (hlines.mem_tail (by decide)) b
    exact .slash (by rwa [hhead]) (by rwa [hhead])
  | other hdeciding hangle hdigit hstart =>
    refine .other hdeciding (fun hc => ?_) hdigit hstart
    subst hc
    rw [heredocMarker?_append (hlines.mem_tail (by decide))]
    exact hangle rfl

/-- **Whole lines are cut up alike** in front of any other text. -/
theorem Cut.append {a b : List Char} {lexemes : List Lexeme} (h : Cut a lexemes [])
    (hlines : Position.WholeLines a) : Cut (a ++ b) lexemes b := by
  generalize hleft : ([] : List Char) = left at h
  induction h with
  | done => exact hleft ▸ .done b
  | @cons c more rest _ kind lexemes hshape _ ih =>
    have hrest : Position.WholeLines rest := by
      simpa using hlines.drop (more.length + 1)
    have hshape' := hshape.append hlines b
    rw [List.append_assoc] at hshape'
    rw [List.cons_append, List.append_assoc]
    exact .cons hshape' (ih hrest hleft)

end Lexeme

/-! ### Tokens moved down -/

namespace Token

open Lexeme Position

/-- The token as it is when a text of whole lines is put in front of its source. -/
def shift (text : List Char) (t : Token) : Token where
  kind := t.kind
  bytes := ⟨t.bytes.start + byteLength text, t.bytes.stop + byteLength text⟩
  span := ⟨t.span.file, t.span.start.shift text, t.span.stop.shift text⟩

theorem ofEnds_shift {a : List Char} (ha : WholeLines a) (file : String) (kind : Kind)
    (b c : List Char) :
    ofEnds file kind (behind (a ++ b)) (behind (a ++ c)) =
      (ofEnds file kind (behind b) (behind c)).shift a := by
  rw [behind_append ha, behind_append ha]
  rfl

/-- Lexemes placed behind further lines are moved down by these lines. -/
theorem place_shift {a : List Char} (ha : WholeLines a) (file : String) (before : List Char)
    (lexemes : List Lexeme) :
    place file (behind (a ++ before)) lexemes =
      (place file (behind before) lexemes).map (shift a) := by
  induction lexemes generalizing before with
  | nil => simp only [place, ofEnds_shift ha, List.map_cons, List.map_nil]
  | cons l lexemes ih =>
    have ih' := ih (before ++ l.text)
    rw [← List.append_assoc] at ih'
    cases hkind : l.kind with
    | none => rw [place_cons_none hkind, place_cons_none hkind, ih']
    | some kind =>
      rw [place_cons_some hkind, place_cons_some hkind, ih', List.append_assoc, ofEnds_shift ha,
        List.map_cons]

/-- Lexemes are placed one behind the other, and only behind the last is the end of the
file. -/
theorem place_append (file : String) (before : List Char) (a b : List Lexeme) :
    place file (behind before) (a ++ b) =
      (place file (behind before) a).dropLast ++ place file (behind (before ++ written a)) b := by
  induction a generalizing before with
  | nil => simp [place]
  | cons l a ih =>
    have ih' := ih (before ++ l.text)
    rw [List.append_assoc, ← written_cons] at ih'
    cases hkind : l.kind with
    | none => rw [List.cons_append, place_cons_none hkind, place_cons_none hkind, ih']
    | some kind =>
      rw [List.cons_append, place_cons_some hkind, place_cons_some hkind, ih',
        List.dropLast_cons_of_ne_nil (place_ne_nil _ _ _), List.cons_append]

end Token

/-- The failure as it is when a text of whole lines is put in front of its source. -/
def LexError.shift (text : List Char) (e : LexError) : LexError :=
  { e with position := e.position.shift text }

namespace Token

open Lexeme Position

/-- **Lexing composes at line ends.** Where whole lines have tokens, the tokens of a longer
text are these without the end of the file, and then those of the remainder moved down; and
a construct that the remainder leaves open is reported, moved down, for the longer text. -/
theorem lex_append (file : String) {a : String} (b : String) {ta : List Token}
    (ha : WholeLines a.toList) (hta : lex file a = .ok ta) :
    (∀ tb, lex file b = .ok tb → lex file (a ++ b) = .ok (ta.dropLast ++ tb.map (shift a.toList))) ∧
    ∀ e, lex file b = .error e → lex file (a ++ b) = .error (e.shift a.toList) := by
  obtain ⟨la, hcut, rfl⟩ := lex_eq_ok_iff.mp hta
  have hfront : Cut (a ++ b).toList la b.toList := by
    rw [String.toList_append]
    exact hcut.append ha
  have hwritten : a.toList = written la := by simpa using hcut.eq_written
  refine ⟨fun tb htb => ?_, fun e he => ?_⟩
  · obtain ⟨lb, hcut', rfl⟩ := lex_eq_ok_iff.mp htb
    refine lex_eq_ok_iff.mpr ⟨la ++ lb, hfront.trans hcut', ?_⟩
    rw [place_append, List.nil_append, ← hwritten, ← place_shift ha, List.append_nil]
  · obtain ⟨u, hsplit, rfl⟩ := lex_eq_error_iff.mp he
    obtain ⟨lb, c, rest, v, hcut', hfirst, rfl⟩ := split_eq_error_iff.mp hsplit
    refine lex_eq_error_iff.mpr ⟨_, (hfront.trans hcut').split_eq_error hfirst, ?_⟩
    simp only [LexError.shift, Unterminated.shift, written_append, List.length_append, ← hwritten,
      String.toList_append, Nat.add_assoc, ← behind_append ha, List.take_length_add_append]

/-- A line with a heredoc, in front of a line and in front of an open string. -/
theorem lex_append_heredoc :
    (lex "m" "<<E\n E\n" = .ok [⟨.heredoc, ⟨0, 6⟩, ⟨"m", ⟨1, 1, 0⟩, ⟨2, 3, 6⟩⟩⟩,
        ⟨.newline, ⟨6, 7⟩, ⟨"m", ⟨2, 3, 6⟩, ⟨3, 1, 7⟩⟩⟩,
        ⟨.endOfFile, ⟨7, 7⟩, ⟨"m", ⟨3, 1, 7⟩, ⟨3, 1, 7⟩⟩⟩]) ∧
    (lex "m" ("<<E\n E\n" ++ "\"é\"") = .ok [⟨.heredoc, ⟨0, 6⟩, ⟨"m", ⟨1, 1, 0⟩, ⟨2, 3, 6⟩⟩⟩,
        ⟨.newline, ⟨6, 7⟩, ⟨"m", ⟨2, 3, 6⟩, ⟨3, 1, 7⟩⟩⟩,
        ⟨.quoted, ⟨7, 11⟩, ⟨"m", ⟨3, 1, 7⟩, ⟨3, 4, 11⟩⟩⟩,
        ⟨.endOfFile, ⟨11, 11⟩, ⟨"m", ⟨3, 4, 11⟩, ⟨3, 4, 11⟩⟩⟩]) ∧
    lex "m" ("<<E\n E\n" ++ " \"") = .error ⟨"m", .string, ⟨3, 2, 8⟩⟩ := by
  have h : lex "m" "<<E\n E\n" = .ok [⟨.heredoc, ⟨0, 6⟩, ⟨"m", ⟨1, 1, 0⟩, ⟨2, 3, 6⟩⟩⟩,
      ⟨.newline, ⟨6, 7⟩, ⟨"m", ⟨2, 3, 6⟩, ⟨3, 1, 7⟩⟩⟩,
      ⟨.endOfFile, ⟨7, 7⟩, ⟨"m", ⟨3, 1, 7⟩, ⟨3, 1, 7⟩⟩⟩] := by decide +kernel
  have hlines : WholeLines "<<E\n E\n".toList := by decide +kernel
  refine ⟨h, ?_, ?_⟩
  · exact (lex_append "m" "\"é\"" hlines h).1
      [⟨.quoted, ⟨0, 4⟩, ⟨"m", ⟨1, 1, 0⟩, ⟨1, 4, 4⟩⟩⟩,
        ⟨.endOfFile, ⟨4, 4⟩, ⟨"m", ⟨1, 4, 4⟩, ⟨1, 4, 4⟩⟩⟩] (by decide +kernel)
  · exact (lex_append "m" " \"" hlines h).2 ⟨"m", .string, ⟨1, 2, 1⟩⟩ (by decide +kernel)

end Token

end TerraLint
