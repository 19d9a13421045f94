import TerraLint.Proofs.Decoding.Lockstep

/-!
# Trivia and literals in lockstep

Blanks, comments, names and numbers: the parts of a document that hold no template.
For all of them the grammar and the scanner of tokens agree without a condition.
The two find the end of a block comment in the same way. A line comment ends for
the grammar in front of the line end, which is read afterwards or not at all, and
for the scanner behind it; since a line end is blank, an outline that has the line
end apart gives one in which the comment has it.

How trivia are put together from blanks and comments does not depend on what is said of
them, so the rules for trivia are stated for every relation that holds over the pieces
(`TerraLint.Document.CrossesTrivia`).
-/

namespace TerraLint

open Lexeme Position Input

variable {source : List Char} {pre : List Spot}

/-! ### Comments -/

/-- A comment that ends where the scanner ends it. -/
theorem shows_comment {i j : Input} {c : Char} {more : List Char} (h : i.Reads (c :: more) j)
    (hshape : Shape c (more ++ j.text) (some .comment) more.length) : Shows source [] i j := by
  refine ⟨⟨_, h⟩, fun _ _ spots hout => ?_⟩
  obtain ⟨found, houtline, hsub⟩ := hout
  rw [h.2] at houtline
  refine ⟨found, ?_, hsub⟩
  rw [h.1]
  exact .comment hshape houtline

/-- A comment that the scanner ends behind some blanks more. -/
theorem shows_comment_of_blanks {i j : Input} {c : Char} {more blanks back : List Char}
    (h : i.Reads (c :: more) j) (htext : j.text = blanks ++ back)
    (hblanks : ∀ d ∈ blanks, IsBlankChar d)
    (hshape : Shape c (more ++ blanks ++ back) (some .comment) (more ++ blanks).length) :
    Shows source [] i j := by
  refine ⟨⟨_, h⟩, fun _ _ spots hout => ?_⟩
  obtain ⟨found, houtline, hsub⟩ := hout
  rw [htext] at houtline
  obtain ⟨left, hleft, hfound⟩ := houtline.drop_plain fun d hd => (hblanks d hd).plain
  refine ⟨left, ?_, fun s hs => ?_⟩
  · rw [h.1, htext, List.cons_append, ← List.append_assoc]
    refine .comment hshape ?_
    rw [h.2] at hleft
    rwa [← List.cons_append, byteLength_append, ← Nat.add_assoc]
  · -- only blanks have gone over to the comment
    rcases hfound s (hsub hs) with hs | ⟨-, -, -, -, -, d, hd, hblank⟩
    · exact hs
    · exact absurd (hblanks d hd) hblank

namespace Document

open TerraLint.Parser

/-- The line ends of the grammar. -/
theorem exists_lineEnd {text : List Char} (h : lineEndLength text ≠ 0) :
    ∃ blanks back, text = blanks ++ back ∧ lineEndLength text = blanks.length ∧
      (blanks = ['\n'] ∨ blanks = ['\r', '\n']) := by
  unfold lineEndLength at h ⊢
  split at h
  · exact ⟨['\n'], _, rfl, rfl, .inl rfl⟩
  · exact ⟨['\r', '\n'], _, rfl, rfl, .inr rfl⟩
  · exact absurd rfl h

theorem blockCommentLength?_eq (read : Nat) (text : List Char) :
    blockCommentLength? (read + 1) text = (closeComment read text).map (· + 1) := by
  fun_induction closeComment read text with
  | case1 => rfl
  | case2 => rfl
  | case3 read c rest hnot ih =>
    rw [← ih, blockCommentLength?]
    exact hnot

/-- A block comment, in the terms of the grammar. -/
theorem blockComment_shows {i j : Input} {u : Unit} {body : List Char} {length : Nat}
    (htext : i.text = '/' :: '*' :: body) (h : blockCommentLength? 2 body = some length)
    (hrun : skip length i = some (u, j)) : Shows source [] i j := by
  rw [blockCommentLength?_eq, Option.map_eq_some_iff] at h
  obtain ⟨extra, hclose, rfl⟩ := h
  have hshape : Shape '/' ('*' :: body) _ _ := .blockComment hclose
  obtain ⟨more, after, hmore, rfl⟩ := hshape.exists_more
  rw [hmore, ← List.cons_append] at htext
  obtain ⟨hread, rfl⟩ := skip_reads_of_eq htext hrun
  exact shows_comment hread (hmore ▸ hshape)

theorem exists_of_startsLineComment {text : List Char} (h : startsLineComment text = true) :
    ∃ c rest, text = c :: rest ∧ (c = '#' ∨ c = '/' ∧ rest.head? = some '/') := by
  unfold startsLineComment at h
  split at h
  · exact ⟨'#', _, rfl, .inl rfl⟩
  · exact ⟨'/', _, rfl, .inr ⟨rfl, rfl⟩⟩
  · simp at h

theorem lineComment_reads {i j : Input} {u : Unit} (h : lineComment i = some (u, j)) :
    i.Reads (i.text.takeWhile fun c => c != '\n' && c != '\r') j ∧
      (j.text = [] ∨ lineEndLength j.text ≠ 0) := by
  obtain ⟨line, k, htake, hrun⟩ := bind_eq_some.mp h
  obtain ⟨hread, rfl⟩ := takeWhile_reads htake
  obtain ⟨atEnd, _, hatEnd, hrun⟩ := bind_eq_some.mp hrun
  obtain ⟨text, _, hrest, hrun⟩ := bind_eq_some.mp hrun
  obtain ⟨hends, rfl⟩ := require_eq_some.mp hrun
  obtain ⟨rfl, rfl⟩ := atEnd_eq_some.mp hatEnd
  obtain ⟨rfl, rfl⟩ := rest_eq_some.mp hrest
  exact ⟨hread, by simpa using hends⟩

/-- A line comment, in the terms of the grammar. -/
theorem lineComment_shows {i j : Input} {u : Unit} (h : startsLineComment i.text = true)
    (hrun : lineComment i = some (u, j)) : Shows source [] i j := by
  obtain ⟨hread, hends⟩ := lineComment_reads hrun
  obtain ⟨c, rest, htext, hstart⟩ := exists_of_startsLineComment h
  have hc : (c != '\n' && c != '\r') = true := by rcases hstart with rfl | ⟨rfl, -⟩ <;> decide
  rw [htext, List.takeWhile_cons, if_pos hc] at hread
  generalize hmore : rest.takeWhile (fun c => c != '\n' && c != '\r') = more at hread
  have hline : '\n' ∉ more := by
    intro hmem
    rw [← hmore] at hmem
    simpa using List.mem_takeWhile_imp hmem
  obtain rfl : rest = more ++ j.text := by simpa [htext] using hread.1
  rcases hends with hend | hend
  · refine shows_comment hread ?_
    have hlength := lineLength_of_not_mem hline
    rw [hend, List.append_nil] at hstart ⊢
    exact hlength ▸ .lineComment hstart
  · -- the line end is still to be read, but for the scanner it is part of the comment
    obtain ⟨blanks, back, hback, -, hblanks⟩ := exists_lineEnd hend
    refine shows_comment_of_blanks hread hback ?_ ?_
    · rcases hblanks with rfl | rfl <;> simp [IsBlankChar]
    · rw [hback, ← List.append_assoc] at hstart
      have hlength : lineLength (more ++ blanks ++ back) = (more ++ blanks).length := by
        rcases hblanks with rfl | rfl
        · simpa using lineLength_line hline back
        · have hreturn : '\n' ∉ more ++ ['\r'] := by simpa using hline
          simpa using lineLength_line hreturn back
      exact hlength ▸ .lineComment hstart

/-! ### Pieces of trivia

What can be gone over a piece at a time can be gone over as a whole. -/

/-- A relation between inputs that holds over blanks and comments, where no spot is met. -/
class CrossesTrivia (R : List Spot → Input → Input → Prop) : Prop extends Graded R where
  blanks : ∀ {i j read}, i.Reads read j → (∀ c ∈ read, IsBlankChar c) → R [] i j
  blockComment : ∀ {i j u body length}, i.text = '/' :: '*' :: body →
    blockCommentLength? 2 body = some length → skip length i = some (u, j) → R [] i j
  lineComment : ∀ {i j u}, startsLineComment i.text = true → lineComment i = some (u, j) → R [] i j

instance : CrossesTrivia (Shows source) where
  blanks h hblanks := shows_plain h fun c hc => (hblanks c hc).plain
  blockComment := blockComment_shows
  lineComment := lineComment_shows

section Crossing

variable {R : List Spot → Input → Input → Prop} [CrossesTrivia R]

/-- Passing over blanks at the front of the text. -/
theorem marksAt_skip_blanks {i : Input} {front back : List Char} (htext : i.text = front ++ back)
    (hblanks : ∀ c ∈ front, IsBlankChar c) : MarksAt R pre (skip front.length) (fun _ => pre) i :=
  fun _ _ hrun =>
    ⟨[], by simp, CrossesTrivia.blanks (skip_reads_of_eq htext hrun).1 hblanks⟩

theorem marksAt_skip_blank {i : Input} {c : Char} {back : List Char} (htext : i.text = c :: back)
    (hc : IsBlankChar c) : MarksAt R pre (skip 1) (fun _ => pre) i :=
  marksAt_skip_blanks (show i.text = [c] ++ back from htext) (by simpa using hc)

theorem marksAt_lineComment {i : Input} (h : startsLineComment i.text = true) :
    MarksAt R pre lineComment (fun _ => pre) i :=
  fun _ _ hrun => ⟨[], by simp, CrossesTrivia.lineComment h hrun⟩

theorem marksAt_blockComment {i : Input} {body : List Char} {length : Nat}
    (htext : i.text = '/' :: '*' :: body) (h : blockCommentLength? 2 body = some length) :
    MarksAt R pre (skip length) (fun _ => pre) i :=
  fun _ _ hrun => ⟨[], by simp, CrossesTrivia.blockComment htext h hrun⟩

theorem marks_lineEnd : Marks R pre lineEnd fun _ => pre := by
  intro i
  refine MarksAt.rest (MarksAt.require fun hlength => ?_)
  obtain ⟨blanks, back, htext, hlength, hblanks⟩ := exists_lineEnd (bne_iff_ne.mp hlength)
  rw [hlength]
  refine marksAt_skip_blanks htext ?_
  rcases hblanks with rfl | rfl <;> simp [IsBlankChar]

theorem marks_optionalLineComment : Marks R pre optionalLineComment fun _ => pre := by
  intro i
  refine MarksAt.rest ?_
  split
  · exact marksAt_lineComment ‹_›
  · exact marks_pure rfl i

theorem marks_inlinePiece : Marks R pre inlinePiece fun _ => pre := by
  intro i
  refine MarksAt.rest ?_
  split
  · exact (marksAt_skip_blank ‹_› (by simp [IsBlankChar])).andThen fun _ => marks_pure rfl
  · exact (marksAt_skip_blank ‹_› (by simp [IsBlankChar])).andThen fun _ => marks_pure rfl
  · split
    · exact (marksAt_blockComment ‹_› ‹_›).andThen fun _ => marks_pure rfl
    · exact marks_pure rfl i
  · exact marks_pure rfl i

theorem marks_freePiece : Marks R pre freePiece fun _ => pre := by
  intro i
  refine MarksAt.rest ?_
  split
  · exact (marksAt_skip_blank ‹_› (by simp [IsBlankChar])).andThen fun _ => marks_pure rfl
  · exact (marksAt_skip_blank ‹_› (by simp [IsBlankChar])).andThen fun _ => marks_pure rfl
  · split
    · exact (marksAt_lineComment ‹_›).andThen fun _ => marks_pure rfl
    · exact marks_inlinePiece i

theorem marks_inlineTrivia : Marks R pre inlineTrivia fun _ => pre :=
  marks_inlinePiece.collect_still.bind fun _ => marks_pure rfl

theorem marks_freeTrivia : Marks R pre freeTrivia fun _ => pre :=
  marks_freePiece.collect_still.bind fun _ => marks_pure rfl

theorem marks_trivia (lineEnds : Bool) : Marks R pre (trivia lineEnds) fun _ => pre := by
  cases lineEnds
  · exact marks_inlineTrivia
  · exact marks_freeTrivia

end Crossing

/-! ### Names and numbers -/

theorem name_reads {i j : Input} {text : String} (h : name i = some (text, j)) :
    ∃ c more, i.Reads (c :: more) j ∧ ¬IsBlankChar c ∧ PlainText (c :: more) := by
  obtain ⟨c, k, hfirst, hrun⟩ := bind_eq_some.mp h
  obtain ⟨more, l, hmore, hrun⟩ := bind_eq_some.mp hrun
  obtain ⟨-, rfl⟩ := pure_eq_some.mp hrun
  obtain ⟨hread, hstart⟩ := satisfy_reads hfirst
  obtain ⟨hreads, rfl⟩ := takeWhile_reads hmore
  refine ⟨c, _, hread.trans hreads, ?_, ?_⟩
  · simp only [IsBlankChar, List.mem_cons, List.not_mem_nil, or_false]
    rintro (rfl | rfl | rfl | rfl) <;> exact absurd hstart (by decide)
  · intro d hd
    rcases List.mem_cons.mp hd with rfl | hd
    · exact plain_of_class (by decide) hstart
    · exact plain_of_mem_takeWhile (by decide) hd

theorem marks_name : Marks (Shows source) pre name fun _ => pre :=
  marks_of_plain fun _ _ _ hrun => by
    obtain ⟨c, more, hread, -, hplain⟩ := name_reads hrun
    exact ⟨_, hread, hplain⟩

theorem marks_digits : Marks (Shows source) pre digits fun _ => pre := by
  refine (marks_takeWhile (by decide)).bind fun _ => ?_
  exact marks_require.bind fun _ => marks_pure rfl

theorem marks_integer : Marks (Shows source) pre integer fun _ => pre := by
  refine marks_digits.bind fun _ => ?_
  exact marks_require.bind fun _ => marks_pure rfl

theorem marks_exponentLetter : Marks (Shows source) pre exponentLetter fun _ => pre := by
  refine (marks_option (by decide)).bind fun small => ?_
  split
  · exact marks_pure rfl
  · exact marks_option (by decide)

theorem marks_sign : Marks (Shows source) pre sign fun _ => pre := by
  refine (marks_option (by decide)).bind fun negative => ?_
  split
  · exact marks_pure rfl
  · exact (marks_option (by decide)).bind fun _ => marks_pure rfl

theorem marks_exponent : Marks (Shows source) pre exponent fun _ => pre := by
  refine marks_exponentLetter.bind fun found => ?_
  split
  · refine marks_sign.bind fun _ => ?_
    exact marks_digits.bind fun _ => marks_pure rfl
  · exact marks_pure rfl

theorem marks_fraction : Marks (Shows source) pre fraction fun _ => pre := by
  intro i
  refine MarksAt.rest ?_
  split
  · split
    · exact (marksAt_skip_one ‹_› (by decide)).andThen fun _ => marks_digits
    · exact marks_pure rfl i
  · exact marks_pure rfl i

theorem marks_number : Marks (Shows source) pre number fun _ => pre := by
  refine marks_digits.bind fun _ => ?_
  refine marks_fraction.bind fun _ => ?_
  refine marks_exponent.bind fun _ => ?_
  split
  · exact marks_require.bind fun _ => marks_pure rfl
  · exact marks_ofOption.bind fun _ => marks_pure rfl

/-! ### Plain text of templates -/

theorem moves_codePoint {count : Nat} : Marks Moves [] (codePoint count) fun _ => [] := by
  refine marks_rest.bind fun _ => ?_
  refine marks_require.bind fun _ => ?_
  exact moves_skip.bind fun _ => marks_ofOption

theorem moves_escape : Marks Moves [] escape fun _ => [] := by
  refine moves_any.bind fun c => ?_
  split
  case h_9 => exact moves_codePoint
  case h_10 => exact moves_codePoint
  case h_11 => exact marks_fail
  all_goals exact marks_pure rfl

theorem moves_plainPiece {escapes : Bool} : Marks Moves [] (plainPiece escapes) fun _ => [] := by
  refine marks_rest.bind fun text => ?_
  split
  · exact marks_pure rfl
  · exact moves_skip.bind fun _ => marks_pure rfl
  · exact moves_skip.bind fun _ => marks_pure rfl
  · exact marks_pure rfl
  · exact marks_pure rfl
  · split
    · exact marks_pure rfl
    · split
      · refine moves_skip.bind fun _ => ?_
        exact moves_escape.bind fun _ => marks_pure rfl
      · exact moves_skip.bind fun _ => marks_pure rfl

theorem moves_quotedText : Marks Moves [] quotedText fun _ => [] := by
  refine moves_char.bind fun _ => ?_
  refine moves_plainPiece.collect_still.bind fun _ => ?_
  exact moves_char.bind fun _ => marks_pure rfl

end Document

end TerraLint
