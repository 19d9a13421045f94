import TerraLint.Proofs.SelfContained

/-!
# What stands behind a lexeme

A lexeme is cut off with the rest of the text in view, but little of the rest can make a
difference. This file says what: where looking ahead comes to a stop character (a blank, a
line feed, a closing brace or a slash), what stands behind that character can be exchanged
(`TerraLint.Lexeme.Shape.replace`), and where a stop character is put directly behind a
lexeme, the lexeme stays as it is if the character *seals* it
(`TerraLint.Lexeme.IsSealed`). Four lexemes are not sealed by every such character: a
carriage return goes together with a line feed, a slash opens a comment with another one, a
line comment that no line feed has ended goes on, and so does the closing line of a heredoc.

The argument has two halves. A lexeme does not need what follows it, so it is also cut off
the text that ends anywhere behind it; and a stop character put behind that text is not
looked past (`TerraLint.Lexeme.Shape.append_cons`).
-/

namespace TerraLint.Lexeme

/-- The text begins as a line comment does. -/
def IsLineComment (text : List Char) : Prop := ['#'] <+: text ∨ ['/', '/'] <+: text

instance (text : List Char) : Decidable (IsLineComment text) :=
  inferInstanceAs (Decidable (_ ∨ _))

theorem isLineComment_cons {c : Char} {text : List Char} :
    IsLineComment (c :: text) ↔ c = '#' ∨ c = '/' ∧ text.head? = some '/' := by
  cases text with
  | nil => simp [IsLineComment, eq_comm]
  | cons d text => simp [IsLineComment, List.cons_prefix_cons, eq_comm]

theorem IsLineComment.append {text : List Char} (h : IsLineComment text) (more : List Char) :
    IsLineComment (text ++ more) :=
  h.imp (·.trans (List.prefix_append text more)) (·.trans (List.prefix_append text more))

/-- **A character seals a lexeme** if it does not become a part of it where it stands behind. -/
structure IsSealed (kind : Option Kind) (text : List Char) (s : Char) : Prop where
  lineEnd : text = ['\r'] → s ≠ '\n'
  slash : text = ['/'] → s ≠ '/'
  lineComment : kind = some .comment → IsLineComment text → text.getLast? = some '\n'
  heredoc : kind = some .heredoc → s = '\n'

variable {c s : Char} {kind : Option Kind}

/-! ### A stop character put behind -/

/-- **No lexeme looks past a stop character** that seals it, or that stands further on. -/
theorem Shape.append_cons {rest : List Char} {extra : Nat} (h : Shape c rest kind extra)
    (hs : s ∈ stops) (hend : extra = rest.length → IsSealed kind (c :: rest) s) (b : List Char) :
    Shape c (rest ++ s :: b) kind extra := by
  -- a character that is looked for in vain is not the stop character either
  have hfront {d : Char} (hd : rest.head? ≠ some d) (hne : rest = [] → s ≠ d) :
      (rest ++ s :: b).head? ≠ some d := by
    cases rest with
    | nil => simpa using hne rfl
    | cons e rest => exact hd
  have hhead {d : Char} (hd : rest.head? = some d) : (rest ++ s :: b).head? = some d := by
    rw [List.head?_append, hd]
    rfl
  cases h with
  | blank h => exact .blank h
  | carriageReturn h =>
    refine .carriageReturn (hfront h ?_)
    rintro rfl
    exact (hend rfl).lineEnd rfl
  | lineFeed => exact .lineFeed
  | lineEnd h => exact .lineEnd (hhead h)
  | lineComment h =>
    by_cases hfeed : '\n' ∈ rest
    · rw [← lineLength_append hfeed (s :: b)]
      exact .lineComment (h.imp_right (And.imp_right hhead))
    · -- the comment goes up to the end of the text, and no line feed has ended it
      have hsealed := hend (lineLength_of_not_mem hfeed)
      have hlast := hsealed.lineComment rfl (isLineComment_cons.mpr h)
      have hmem : '\n' ∈ c :: rest := List.mem_of_getLast? hlast
      refine absurd hmem (List.mem_cons.not.mpr (not_or.mpr ⟨?_, hfeed⟩))
      rcases h with rfl | ⟨rfl, -⟩ <;> decide
  | blockComment h => exact .blockComment (closeComment_append h _)
  | bracket h => exact .bracket h
  | equals h h' =>
    exact .equals (hfront h fun _ => ne_of_stop hs (by simp))
      (hfront h' fun _ => ne_of_stop hs (by simp))
  | operator h => exact .operator (h.imp hhead hhead)
  | quoted h => exact .quoted (Token.closeTemplate_append h _)
  | heredoc hmarker hlength =>
    obtain ⟨more, after, rfl, hextra⟩ := (Shape.heredoc hmarker hlength).exists_more
    have hshape := Shape.heredoc hmarker hlength
    rw [hextra] at hshape hend ⊢
    obtain ⟨hword, hafter⟩ := shape_heredoc_iff.mp hshape
    rw [List.append_assoc, shape_heredoc_iff]
    refine ⟨hword, ?_⟩
    cases after with
    | nil => exact endsLine_cons.mpr ((hend (by simp)).heredoc rfl)
    | cons d after => exact endsLine_cons.mpr (endsLine_cons.mp hafter)
  | number h =>
    rw [← numberLength_append_cons hs rest b]
    exact .number h
  | identifier h =>
    rw [← takeWhile_append_cons (classes_of_stop hs).1 rest b]
    exact .identifier h
  | slash h h' =>
    refine .slash (hfront h ?_) (hfront h' fun _ => ne_of_stop hs (by simp))
    rintro rfl
    exact (hend rfl).slash rfl
  | other hdeciding hangle hdigit hstart =>
    refine .other hdeciding (fun hc => ?_) hdigit hstart
    rw [heredocMarker?_append_cons hs]
    exact hangle hc

/-! ### What is behind a stop character -/

/-- A lexeme comes off the text that ends anywhere behind it. -/
theorem Shape.shorten {more common rest : List Char}
    (h : Shape c (more ++ (common ++ rest)) kind more.length) :
    Shape c (more ++ common) kind more.length := by
  have htake := h.take (n := (more ++ common).length) (by simp)
  rwa [← List.append_assoc, List.take_left] at htake

/-- **What is found behind a lexeme seals it.** -/
theorem Shape.isSealed {more b : List Char} (h : Shape c (more ++ s :: b) kind more.length) :
    IsSealed kind (c :: more) s where
  lineEnd := by
    rintro ⟨⟩ rfl
    have hfirst := h.first_eq
    simp [first] at hfirst
  slash := by
    rintro ⟨⟩ rfl
    have hcomment : Shape '/' ('/' :: b) (some .comment) (lineLength ('/' :: b)) :=
      .lineComment (.inr ⟨rfl, rfl⟩)
    have hfirst := h.first_eq.symm.trans hcomment.first_eq
    simp [lineLength_cons] at hfirst
  lineComment := by
    rintro rfl hcomment
    generalize htext : more ++ s :: b = text at h
    generalize hlength : more.length = length at h
    cases h with
    | lineComment h =>
      subst htext
      obtain ⟨body, -, rfl⟩ := exists_of_lineLength hlength (by simp)
      rw [← List.cons_append, List.getLast?_concat]
    | @blockComment body length h =>
      have hbounds := (closeComment_bounds h).1
      obtain ⟨d, more, rfl⟩ : ∃ d tail, more = d :: tail :=
        List.exists_cons_of_length_pos (by omega)
      obtain rfl : d = '*' := (List.cons.inj htext).1
      simp [IsLineComment] at hcomment
    | bracket h => simp [brackets] at h
  heredoc := by
    rintro rfl
    exact endsLine_cons.mp (shape_heredoc_iff.mp h).2

/-- **What stands behind a stop character can be exchanged.** -/
theorem Shape.replace {more common b : List Char}
    (h : Shape c (more ++ (common ++ s :: b)) kind more.length) (hs : s ∈ stops) (b' : List Char) :
    Shape c (more ++ (common ++ s :: b')) kind more.length := by
  rw [← List.append_assoc]
  refine h.shorten.append_cons hs (fun hlength => ?_) b'
  obtain rfl : common = [] := by simpa using hlength
  simpa using h.isSealed

/-- A text is cut up alike in front of a stop character, whatever stands behind it. -/
theorem Cut.replace {text left b : List Char} {lexemes : List Lexeme} (h : Cut text lexemes left)
    (hleft : left = s :: b) (hs : s ∈ stops) (b' : List Char) :
    Cut (written lexemes ++ s :: b') lexemes (s :: b') := by
  induction h with
  | done => exact .done _
  | @cons c more rest left kind lexemes hshape hcut ih =>
    rw [hcut.eq_written, hleft] at hshape
    rw [written_cons, List.append_assoc]
    exact .cons (hshape.replace hs b') (ih hleft)

/-! ### Cuts that begin alike -/

/-- The first lexeme of a text can be cut off in one way only. -/
theorem Cut.exists_cons {more rest : List Char} {lexemes : List Lexeme}
    (h : Cut (c :: (more ++ rest)) lexemes []) (hshape : Shape c (more ++ rest) kind more.length) :
    ∃ later, lexemes = ⟨kind, c :: more⟩ :: later ∧ Cut rest later [] := by
  generalize htext : more ++ rest = text at h
  cases h with
  | @cons _ more' rest' _ kind' later hshape' hcut =>
    rw [htext] at hshape
    obtain ⟨rfl, hlength⟩ : kind = kind' ∧ more.length = more'.length := by
      simpa [hshape.first_eq] using hshape'.first_eq
    obtain ⟨rfl, rfl⟩ := List.append_inj htext hlength
    exact ⟨later, rfl, hcut⟩

/-- **Lexemes that come off the front of a text** are the first that it is cut into. -/
theorem Cut.exists_append {text middle : List Char} {front lexemes : List Lexeme}
    (hfront : Cut text front middle) (h : Cut text lexemes []) :
    ∃ later, lexemes = front ++ later ∧ Cut middle later [] := by
  induction hfront generalizing lexemes with
  | done => exact ⟨lexemes, rfl, h⟩
  | cons hshape _ ih =>
    obtain ⟨later, rfl, hrest⟩ := h.exists_cons hshape
    obtain ⟨last, rfl, hlast⟩ := ih hrest
    exact ⟨last, rfl, hlast⟩

/-! ### Line comments -/

/-- A line comment that no line feed ends goes up to the end of the text. -/
theorem IsLineComment.shape {more : List Char} (h : IsLineComment (c :: more)) (hmore : '\n' ∉ more) :
    Shape c more (some .comment) more.length := by
  rw [← lineLength_of_not_mem hmore]
  exact .lineComment (isLineComment_cons.mp h)

/-- A line comment comes off a text together with its line feed. -/
theorem IsLineComment.cut {more : List Char} (h : IsLineComment (c :: more)) (hmore : '\n' ∉ more)
    (after : List Char) :
    Cut (c :: (more ++ '\n' :: after)) [⟨some .comment, c :: (more ++ ['\n'])⟩] after := by
  have htext : more ++ '\n' :: after = (more ++ ['\n']) ++ after := by simp
  have hshape : Shape c ((more ++ ['\n']) ++ after) (some .comment) (more ++ ['\n']).length := by
    rw [← htext, List.length_append, List.length_singleton, ← lineLength_line hmore after]
    exact .lineComment (isLineComment_cons.mp (h.append ('\n' :: after)))
  rw [htext]
  exact .cons hshape (.done after)

/-- A line comment that goes up to the end of the text holds a line feed only at its end. -/
theorem Shape.not_mem_of_lineComment {text : List Char}
    (h : Shape c text (some .comment) text.length) (hcomment : IsLineComment (c :: text))
    (hlast : (c :: text).getLast? ≠ some '\n') : '\n' ∉ text := by
  have hlength : lineLength text = text.length := by
    simpa [h.first_eq] using (Shape.lineComment (isLineComment_cons.mp hcomment)).first_eq.symm
  intro hmem
  obtain ⟨line, below, rfl, hline⟩ := List.eq_append_cons_of_mem hmem
  rw [lineLength_line hline, List.length_append, List.length_cons] at hlength
  obtain rfl : below = [] := List.length_eq_zero_iff.mp (by omega)
  rw [← List.cons_append, List.getLast?_concat] at hlast
  exact hlast rfl

/-! ### Blanks -/

/-- A text of spaces and tabs. -/
def IsBlankText (text : List Char) : Prop := ∀ c ∈ text, c = ' ' ∨ c = '\t'

instance (text : List Char) : Decidable (IsBlankText text) :=
  List.decidableBAll _ text

/-- The lexemes of a text of spaces and tabs. -/
def blankLexemes (text : List Char) : List Lexeme := text.map fun c => ⟨none, [c]⟩

theorem IsBlankText.cut {text : List Char} (h : IsBlankText text) (rest : List Char) :
    Cut (text ++ rest) (blankLexemes text) rest := by
  induction text with
  | nil => exact .done rest
  | cons c text ih =>
    obtain ⟨hc, htext⟩ := List.forall_mem_cons.mp h
    exact .single (.blank hc) (ih htext)

end TerraLint.Lexeme

namespace TerraLint.Token

open Lexeme Position

/-- Blanks move what is placed behind them, and are no tokens. -/
theorem place_blankLexemes (file : String) (before blanks : List Char) (lexemes : List Lexeme) :
    place file (behind before) (blankLexemes blanks ++ lexemes) =
      place file (behind (before ++ blanks)) lexemes := by
  induction blanks generalizing before with
  | nil => simp [blankLexemes]
  | cons c blanks ih =>
    have hcons : blankLexemes (c :: blanks) ++ lexemes =
        ⟨none, [c]⟩ :: (blankLexemes blanks ++ lexemes) := rfl
    rw [hcons, place_cons_none rfl, ih, List.append_assoc, List.singleton_append]

end TerraLint.Token
