import TerraLint.Proofs.Templates

/-!
# Where tokens and open constructs stand

Every position that reading a source brings up is a place in that source
(`TerraLint.Token.lex_anchored`). For a token this is so because it is a lexeme in its
place. For a construct that is left open it says more: the text at the reported place is
the opener of the very construct that is reported, be it a comment, a heredoc, or a
template or interpolation however deep inside another template.

The scanner of templates reports what its stack of open constructs remembers, so the
argument is about the stack alone. A frame is *anchored* in a text
(`TerraLint.Token.Frame.AnchoredIn`) if the text has the frame's opener where the frame
says that it was opened. Every frame is anchored when it is put on the stack, the text
never changes, and so the frame to blame is anchored when the text runs out
(`TerraLint.Token.closeAll_anchored`).
-/

namespace TerraLint

open Lexeme Position

/-! ### Openers -/

/-- **The text begins with an opener** of the construct. -/
def Construct.BeginsIn (text : List Char) : Construct → Prop
  | .string => ['"'] <+: text
  | .blockComment => ['/', '*'] <+: text
  | .interpolation => ['$', '{'] <+: text ∨ ['%', '{'] <+: text
  | .heredoc => ∃ dash ∈ [[], ['-']], ∃ c rest,
      text = '<' :: '<' :: (dash ++ c :: rest) ∧ Text.isIdentifierStart c = true

/-- An opener is not empty. -/
theorem Construct.BeginsIn.ne_nil {what : Construct} {text : List Char} (h : what.BeginsIn text) :
    text ≠ [] := by
  rintro rfl
  cases what with
  | string | blockComment => simp [BeginsIn] at h
  | interpolation => simp [BeginsIn] at h
  | heredoc =>
    obtain ⟨dash, -, c, rest, htext, -⟩ := h
    simp at htext

/-- The construct is opened in the text where it is said to be. -/
def Unterminated.AnchoredIn (text : List Char) (u : Unterminated) : Prop :=
  u.what.BeginsIn (text.drop u.offset)

/-- A text put in front moves the anchor along. -/
theorem Unterminated.AnchoredIn.shift {text : List Char} {u : Unterminated}
    (h : u.AnchoredIn text) (front : List Char) :
    (u.shift front.length).AnchoredIn (front ++ text) := by
  simp only [AnchoredIn, Unterminated.shift, List.drop_length_add_append]
  exact h

/-! ### Templates -/

namespace Token

open Template

/-- The frame was opened in the text where it says. -/
def Frame.AnchoredIn (text : List Char) (frame : Frame) : Prop :=
  frame.unterminated.AnchoredIn text

/-- **A step keeps the stack anchored.** A frame that it opens is anchored at its own piece,
which stands behind the characters read. -/
theorem Step.anchored {read : Nat} {rest piece passed : List Char} {stack stack' : List Frame}
    (h : Step read rest stack piece stack') (hread : passed.length = read)
    (hstack : ∀ f ∈ stack, f.AnchoredIn (passed ++ (piece ++ rest))) :
    ∀ f ∈ stack', f.AnchoredIn (passed ++ (piece ++ rest)) := by
  subst hread
  cases h with
  | escape | doubled | doubledBrace | plain | inside => exact hstack
  | closeQuote | closeInterpolation => exact (List.forall_mem_cons.mp hstack).2
  | openInterpolation hs =>
    refine List.forall_mem_cons.mpr ⟨?_, hstack⟩
    rcases List.mem_pair.mp hs with rfl | rfl
    all_goals
      simp [Frame.AnchoredIn, Unterminated.AnchoredIn, Frame.unterminated, Construct.BeginsIn]
  | openQuote =>
    refine List.forall_mem_cons.mpr ⟨?_, hstack⟩
    simp [Frame.AnchoredIn, Unterminated.AnchoredIn, Frame.unterminated, Construct.BeginsIn]
  | openBrace | closeBrace =>
    -- the count of braces says nothing about the opener
    obtain ⟨hframe, houter⟩ := List.forall_mem_cons.mp hstack
    exact List.forall_mem_cons.mpr ⟨hframe, houter⟩

/-- **The construct to blame is anchored**, if all on the stack are. What has been read stays in
view as `passed`, since it is there that the outer constructs were opened. -/
theorem closeAll_anchored (passed : List Char) {read : Nat} {stack : List Frame}
    {text : List Char} {u : Unterminated} (h : closeAll read stack text = .error u)
    (hread : passed.length = read)
    (hstack : ∀ f ∈ stack, f.AnchoredIn (passed ++ text)) : u.AnchoredIn (passed ++ text) := by
  induction read, stack, text using scan_induction generalizing passed with
  | done read text => simp [closeAll] at h
  | stuck read frame outer text herror =>
    obtain rfl : frame.unterminated = u := Except.error.inj (herror.symm.trans h)
    exact hstack frame List.mem_cons_self
  | step read stack piece rest stack' hstep ih =>
    rw [hstep.scans] at h
    have hstack' := hstep.anchored hread hstack
    rw [← List.append_assoc] at hstack' ⊢
    exact ih (passed ++ piece) h (by simp [hread]) hstack'

end Token

/-! ### Sources -/

namespace Lexeme

/-- A heredoc whose marker is found begins with its opener. -/
theorem beginsIn_of_heredocMarker? {rest marker : List Char} {before : Nat}
    (h : heredocMarker? rest = some (before, marker)) :
    Construct.heredoc.BeginsIn ('<' :: rest) := by
  obtain ⟨dash, hdash, rest, rfl, -, hstart, -⟩ := exists_of_heredocMarker? h
  cases rest with
  | nil => simp at hstart
  | cons c rest => exact ⟨dash, hdash, c, rest, rfl, by simpa using hstart⟩

/-- **What is left open has an opener**, and that is where it is reported. -/
theorem LeftOpen.anchoredIn {c : Char} {rest : List Char} {u : Unterminated}
    (h : LeftOpen c rest u) : u.AnchoredIn (c :: rest) := by
  cases h with
  | blockComment => simp [Unterminated.AnchoredIn, Construct.BeginsIn]
  | quoted h =>
    have hframe : (Token.Frame.quote 0).AnchoredIn ('"' :: rest) := by
      simp [Token.Frame.AnchoredIn, Unterminated.AnchoredIn, Token.Frame.unterminated,
        Construct.BeginsIn]
    have hopen : Token.closeAll 1 [.quote 0] rest = .error u := h
    exact Token.closeAll_anchored ['"'] hopen rfl (by simpa using hframe)
  | heredoc hmarker => exact beginsIn_of_heredocMarker? hmarker

end Lexeme

namespace Token

/-- A construct that a source leaves open is opened in the source where it is reported. -/
theorem anchoredIn_of_split_eq_error {source : List Char} {u : Unterminated}
    (h : split source = .error u) : u.AnchoredIn source := by
  obtain ⟨lexemes, c, rest, v, hcut, hfirst, rfl⟩ := split_eq_error_iff.mp h
  rw [hcut.eq_written]
  exact (leftOpen_of_first hfirst).anchoredIn.shift (written lexemes)

/-- **Positions and anchors.** Both ends of every token are places in the source. A failure is
reported at a place in the source, before its end, at which the construct that is reported is
opened. -/
theorem lex_anchored (file source : String) :
    match lex file source with
    | .ok tokens => ∀ t ∈ tokens,
        t.span.start.IsIn source.toList ∧ t.span.stop.IsIn source.toList
    | .error e => ∃ before after, source.toList = before ++ after ∧ e.position = behind before ∧
        e.position.byte < byteLength source.toList ∧ e.what.BeginsIn after := by
  cases hlex : lex file source with
  | ok tokens =>
    intro t ht
    exact (isIn_of_mem_lex hlex ht).2.2
  | error e =>
    obtain ⟨u, hsplit, rfl⟩ := lex_eq_error_iff.mp hlex
    have hanchor := anchoredIn_of_split_eq_error hsplit
    have hcut : source.toList.take u.offset ++ source.toList.drop u.offset = source.toList :=
      List.take_append_drop u.offset source.toList
    refine ⟨_, _, hcut.symm, rfl, ?_, hanchor⟩
    -- the opener is not empty, so that bytes are left behind the place
    have hpos := byteLength_pos hanchor.ne_nil
    rw [← hcut, byteLength_append]
    simpa using hpos

/-- Below a comment, an interpolation in a template in an interpolation in a template: the
innermost is to blame. -/
theorem lex_anchored_nested :
    lex "m" "#é\n\"$\x7b\"%\x7b a" = .error ⟨"m", .interpolation, ⟨2, 5, 8⟩⟩ ∧
    ∃ before after, "#é\n\"$\x7b\"%\x7b a".toList = before ++ after ∧ ⟨2, 5, 8⟩ = behind before ∧
      8 < byteLength "#é\n\"$\x7b\"%\x7b a".toList ∧ Construct.interpolation.BeginsIn after := by
  have hlex : lex "m" "#é\n\"$\x7b\"%\x7b a" = .error ⟨"m", .interpolation, ⟨2, 5, 8⟩⟩ := by
    decide +kernel
  have hanchored := lex_anchored "m" "#é\n\"$\x7b\"%\x7b a"
  rw [hlex] at hanchored
  exact ⟨hlex, hanchored⟩

end Token

end TerraLint
