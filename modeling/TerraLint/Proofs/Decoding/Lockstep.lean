import TerraLint.Proofs.Decoding.Marking

/-!
# Parsers and outlines in lockstep

The text that a parser has read and the outline of that text are compared from the
back to the front: if the text behind what has been read has an outline, then so
has the text from where the parser started, and it shows the spots that the parser
has met (`TerraLint.Shows`). This direction needs no memory of how the text in
front was cut up. It also takes care of line comments, which for the grammar end
in front of the line feed and for the tokens behind it.

On templates the two need not agree: the grammar may close a template where the
scanner of tokens does not. That they do is the hypothesis under which a template
is shown (`TerraLint.ByteSpan.Closed`). Nothing else that a document is made of
needs a hypothesis.
-/

namespace TerraLint

open Lexeme Position

/-! ### What lies between two inputs -/

namespace Input

/-- From `i` to `j` the text `read` is read. -/
def Reads (i : Input) (read : List Char) (j : Input) : Prop :=
  i.text = read ++ j.text ∧ j.byte = i.byte + byteLength read

/-- `j` is left when something has been read from `i` on. -/
def Advances (i j : Input) : Prop := ∃ read, i.Reads read j

/-- The input is what is left of a source at its byte. -/
def StandsIn (source : List Char) (i : Input) : Prop :=
  ∃ before, source = before ++ i.text ∧ i.byte = byteLength before

/-- What is left to read has an outline that shows the spots. -/
def Outlined (i : Input) (spots : List Spot) : Prop :=
  ∃ found, Outline i.byte i.text found ∧ spots ⊆ found

theorem Reads.refl (i : Input) : i.Reads [] i := ⟨rfl, rfl⟩

theorem Reads.trans {i j k : Input} {a b : List Char} (hij : i.Reads a j) (hjk : j.Reads b k) :
    i.Reads (a ++ b) k :=
  ⟨by rw [hij.1, hjk.1, List.append_assoc], by rw [hjk.2, hij.2, byteLength_append, Nat.add_assoc]⟩

theorem Advances.refl (i : Input) : i.Advances i := ⟨[], .refl i⟩

theorem Advances.trans {i j k : Input} : i.Advances j → j.Advances k → i.Advances k
  | ⟨_, hij⟩, ⟨_, hjk⟩ => ⟨_, hij.trans hjk⟩

instance : Trans Advances Advances Advances := ⟨Advances.trans⟩

theorem StandsIn.advance {source : List Char} {i j : Input} (h : i.StandsIn source)
    (hij : i.Advances j) : j.StandsIn source := by
  obtain ⟨before, rfl, hbyte⟩ := h
  obtain ⟨read, htext, hread⟩ := hij
  exact ⟨before ++ read, by rw [htext, List.append_assoc],
    by rw [hread, hbyte, byteLength_append]⟩

end Input

open Input

/-- **The scanner closes a template where the span ends**: the lexeme that begins at the
span's first byte is a quoted template or a heredoc, and it ends with the span. -/
def ByteSpan.Closed (source : List Char) (span : ByteSpan) : Prop :=
  ∃ before c more after kind, source = before ++ c :: (more ++ after) ∧
    span = ⟨byteLength before, byteLength (before ++ c :: more)⟩ ∧
    first c (more ++ after) = .ok (some kind, more.length) ∧ kind.IsTemplate

theorem ByteSpan.Closed.lt {span : ByteSpan} {source : List Char} (h : span.Closed source) :
    span.start < span.stop := by
  obtain ⟨before, c, more, -, -, -, rfl, -⟩ := h
  have hpos := c.utf8Size_pos
  simp only [byteLength_append, byteLength_cons]
  omega

/-- **Lockstep**: between two inputs of a source the spots are shown. If the templates among
them are closed, an outline of what is left at `j` gives one of what is left at `i`. -/
structure Shows (source : List Char) (spots : List Spot) (i j : Input) : Prop where
  advances : i.Advances j
  outlined : i.StandsIn source → (∀ span, .template span ∈ spots → span.Closed source) →
    ∀ {more}, j.Outlined more → i.Outlined (spots ++ more)

/-- The relation of which only the advance is kept. -/
def Moves (_ : List Spot) (i j : Input) : Prop := i.Advances j

instance : Graded Moves where
  refl := Advances.refl
  trans := Advances.trans

instance {source : List Char} : Graded (Shows source) where
  refl i := ⟨.refl i, fun _ _ _ h => h⟩
  trans {a b _ _ _} hij hjk := by
    refine ⟨hij.advances.trans hjk.advances, fun hin hclosed more h => ?_⟩
    -- from the back: what lies behind `j` is outlined first
    rw [List.append_assoc]
    exact hij.outlined hin (fun span hs => hclosed span (List.mem_append_left b hs))
      (hjk.outlined (hin.advance hij.advances)
        (fun span hs => hclosed span (List.mem_append_right a hs)) h)

/-! ### Characters of code -/

/-- A character with which nothing opens can be put in front of an outline. -/
theorem Outline.cons {b : Nat} {c : Char} {rest : List Char} {spots : List Spot}
    (h : Outline (b + c.utf8Size) rest spots) (hopens : ¬Opens c rest) :
    ∃ found, Outline b (c :: rest) found ∧ spots ⊆ found := by
  by_cases hblank : IsBlankChar c
  · exact ⟨spots, .blank hblank h, List.Subset.refl _⟩
  · exact ⟨_, .code (Nat.lt_succ_self b) hblank hopens h, List.subset_cons_self _ _⟩

variable {source : List Char}

/-- A single character that opens nothing. -/
theorem shows_char {i j : Input} {c : Char} (h : i.Reads [c] j) (hopens : ¬Opens c j.text) :
    Shows source [] i j := by
  refine ⟨⟨_, h⟩, fun _ _ more hout => ?_⟩
  obtain ⟨found, houtline, hmore⟩ := hout
  obtain ⟨htext, hbyte⟩ := h
  rw [hbyte, byteLength_cons, byteLength_nil, Nat.add_zero] at houtline
  obtain ⟨wider, hwider, hsub⟩ := houtline.cons hopens
  exact ⟨wider, by simpa [htext] using hwider, fun s hs => hsub (hmore hs)⟩

/-- A run of plain characters. -/
theorem shows_plain {read : List Char} : ∀ {i j : Input}, i.Reads read j →
    PlainText read → Shows source [] i j := by
  induction read with
  | nil =>
    intro i j h _
    obtain rfl : i = j := by
      cases i
      cases j
      simpa [Reads, eq_comm, and_comm] using h
    exact Graded.refl i
  | cons c read ih =>
    intro i j h hplain
    -- the input behind the first character stands between the two
    have hfirst : i.Reads [c] ⟨i.byte + c.utf8Size, read ++ j.text⟩ := ⟨h.1, by simp⟩
    have hmore : Input.Reads ⟨i.byte + c.utf8Size, read ++ j.text⟩ read j :=
      ⟨rfl, by simp [h.2, Nat.add_assoc]⟩
    exact Graded.trans (shows_char hfirst ((hplain c List.mem_cons_self).not_opens _))
      (ih hmore fun d hd => hplain d (List.mem_cons_of_mem _ hd))

/-- A run of plain characters of which the first is not blank: a stretch of code begins
there. -/
theorem shows_code {i j : Input} {c : Char} {read : List Char} (h : i.Reads (c :: read) j)
    (hblank : ¬IsBlankChar c) (hplain : PlainText (c :: read)) {stop : Nat}
    (hstop : i.byte < stop) : Shows source [.code ⟨i.byte, stop⟩] i j := by
  refine ⟨⟨_, h⟩, fun hin _ more hout => ?_⟩
  have hmore : Input.Reads ⟨i.byte + c.utf8Size, read ++ j.text⟩ read j :=
    ⟨rfl, by simp [h.2, Nat.add_assoc]⟩
  have hmiddle : Shows source [] _ _ :=
    shows_plain hmore fun d hd => hplain d (List.mem_cons_of_mem _ hd)
  have hin' : Input.StandsIn source ⟨i.byte + c.utf8Size, read ++ j.text⟩ :=
    hin.advance ⟨[c], h.1, by simp⟩
  obtain ⟨found, houtline, hsub⟩ := hmiddle.outlined hin' (by simp) hout
  refine ⟨_, ?_, List.cons_subset_cons _ hsub⟩
  rw [h.1]
  exact .code hstop hblank ((hplain c List.mem_cons_self).not_opens _) houtline

/-! ### Templates -/

/-- Whatever is read, it is a template as far as an outline is concerned if the scanner
closes it at the same place. -/
theorem shows_template {i j : Input} (h : i.Advances j) :
    Shows source [.template ⟨i.byte, j.byte⟩] i j := by
  refine ⟨h, fun hin hclosed more hout => ?_⟩
  obtain ⟨before, c, inside, after, kind, hsource, hspan, hfirst, hkind⟩ :=
    hclosed _ (List.mem_singleton_self _)
  obtain ⟨front, hfront, hbyte⟩ := hin
  obtain ⟨read, htext, hread⟩ := h
  obtain ⟨hstart, hstop⟩ := ByteSpan.mk.inj hspan
  rw [byteLength_append] at hstop
  -- what stands before the template, and then the template itself, are cut off at the same byte
  obtain ⟨rfl, hbehind⟩ := eq_of_byteLength_eq (hfront.symm.trans hsource) (by omega)
  obtain ⟨rfl, rfl⟩ : read = c :: inside ∧ j.text = after :=
    eq_of_byteLength_eq (htext.symm.trans hbehind) (by omega)
  obtain ⟨found, houtline, hmore⟩ := hout
  rw [hread] at houtline
  refine ⟨_, ?_, List.cons_subset_cons _ hmore⟩
  rw [htext, hread]
  exact .template (first_eq_ok_iff.mp hfirst) hkind houtline

/-! ### What the primitive parsers read -/

namespace Parser

theorem satisfy_reads {accepts : Char → Bool} {i j : Input} {c : Char}
    (h : satisfy accepts i = some (c, j)) : i.Reads [c] j ∧ accepts c = true := by
  unfold satisfy at h
  split at h
  · rename_i d text htext
    split at h
    · rename_i hd
      obtain ⟨rfl, rfl⟩ : d = c ∧ _ = j := by simpa using h
      exact ⟨⟨htext, by simp⟩, hd⟩
    · simp at h
  · simp at h

theorem char_reads {c : Char} {i j : Input} {u : Unit} (h : char c i = some (u, j)) :
    i.Reads [c] j := by
  obtain ⟨d, k, hd, hpure⟩ := bind_eq_some.mp h
  obtain ⟨-, rfl⟩ := pure_eq_some.mp hpure
  obtain ⟨hreads, heq⟩ := satisfy_reads hd
  rwa [beq_iff_eq.mp heq] at hreads

theorem takeWhile_reads {accepts : Char → Bool} {i j : Input} {found : List Char}
    (h : takeWhile accepts i = some (found, j)) :
    i.Reads found j ∧ found = i.text.takeWhile accepts := by
  simp only [takeWhile, Option.some.injEq, Prod.mk.injEq] at h
  obtain ⟨rfl, rfl⟩ := h
  refine ⟨⟨?_, rfl⟩, rfl⟩
  conv_lhs => rw [← List.take_append_drop (i.text.takeWhile accepts).length i.text]
  rw [take_takeWhile]

theorem skip_reads {n : Nat} : ∀ {i j : Input} {u : Unit}, skip n i = some (u, j) →
    ∃ read, i.Reads read j ∧ read.length = n := by
  induction n with
  | zero =>
    intro i j u h
    obtain ⟨-, rfl⟩ := pure_eq_some.mp h
    exact ⟨[], .refl i, rfl⟩
  | succ n ih =>
    intro i j u h
    obtain ⟨c, k, hc, hmore⟩ := bind_eq_some.mp h
    obtain ⟨read, hread, hlength⟩ := ih hmore
    exact ⟨[c] ++ read, (satisfy_reads hc).1.trans hread, by simp [hlength]⟩

/-- What is passed over is the front of the text. -/
theorem skip_reads_of_eq {i j : Input} {u : Unit} {front back : List Char}
    (htext : i.text = front ++ back) (h : skip front.length i = some (u, j)) :
    i.Reads front j ∧ j.text = back := by
  obtain ⟨read, hread, hlength⟩ := skip_reads h
  obtain ⟨rfl, rfl⟩ := List.append_inj (hread.1.symm.trans htext) hlength
  exact ⟨hread, rfl⟩

theorem startsWith_eq_some {w : String} {i j : Input} {b : Bool}
    (h : startsWith w i = some (b, j)) : b = w.toList.isPrefixOf i.text ∧ i = j := by
  obtain ⟨text, k, hrest, hpure⟩ := bind_eq_some.mp h
  obtain ⟨rfl, rfl⟩ := pure_eq_some.mp hpure
  obtain ⟨rfl, rfl⟩ : i.text = text ∧ i = k := by simpa [rest] using hrest
  exact ⟨rfl, rfl⟩

theorem skip_reads_of_startsWith {w : String} {i j : Input} {u : Unit}
    (hstarts : w.toList.isPrefixOf i.text = true) (h : skip w.length i = some (u, j)) :
    i.Reads w.toList j := by
  obtain ⟨back, hback⟩ := List.isPrefixOf_iff_prefix.mp hstarts
  rw [← String.length_toList] at h
  exact (skip_reads_of_eq hback.symm h).1

theorem word_reads {w : String} {i j : Input} {u : Unit} (h : word w i = some (u, j)) :
    i.Reads w.toList j := by
  obtain ⟨b, k, hstarts, hrest⟩ := bind_eq_some.mp h
  obtain ⟨rfl, rfl⟩ := startsWith_eq_some hstarts
  obtain ⟨_, l, hrequire, hskip⟩ := bind_eq_some.mp hrest
  obtain ⟨hfound, rfl⟩ := require_eq_some.mp hrequire
  exact skip_reads_of_startsWith hfound hskip

theorem option_reads {w : String} {i j : Input} {b : Bool} (h : option w i = some (b, j)) :
    b = true ∧ i.Reads w.toList j ∨ b = false ∧ i = j := by
  obtain ⟨found, k, hstarts, hrest⟩ := bind_eq_some.mp h
  obtain ⟨rfl, rfl⟩ := startsWith_eq_some hstarts
  split at hrest
  · obtain ⟨_, l, hskip, hpure⟩ := bind_eq_some.mp hrest
    obtain ⟨rfl, rfl⟩ := pure_eq_some.mp hpure
    exact .inl ⟨rfl, skip_reads_of_startsWith ‹_› hskip⟩
  · obtain ⟨rfl, rfl⟩ := pure_eq_some.mp hrest
    exact .inr ⟨rfl, rfl⟩

/-! ### Primitive parsers in lockstep -/

variable {α : Type} {pre : List Spot}

/-- A parser that reads plain characters only meets no spot that counts. -/
theorem marks_of_plain {p : Parser α}
    (h : ∀ i a j, p i = some (a, j) → ∃ read, i.Reads read j ∧ PlainText read) :
    Marks (Shows source) pre p fun _ => pre := by
  intro i a j hrun
  obtain ⟨read, hread, hplain⟩ := h i a j hrun
  exact ⟨[], by simp, shows_plain hread hplain⟩

/-- The characters of a class of which none opens anything. -/
theorem marks_takeWhile {accepts : Char → Bool}
    (hclass : openers.all (fun c => !accepts c) = true) :
    Marks (Shows source) pre (takeWhile accepts) fun _ => pre := by
  refine marks_of_plain fun i found j hrun => ?_
  obtain ⟨hread, rfl⟩ := takeWhile_reads hrun
  exact ⟨_, hread, fun c hc => plain_of_mem_takeWhile hclass hc⟩

theorem marks_char {c : Char} (hc : Plain c) : Marks (Shows source) pre (char c) fun _ => pre :=
  marks_of_plain fun _ _ _ hrun => ⟨_, char_reads hrun, by simpa using hc⟩

theorem marks_word {w : String} (hw : PlainText w.toList) :
    Marks (Shows source) pre (word w) fun _ => pre :=
  marks_of_plain fun _ _ _ hrun => ⟨_, word_reads hrun, hw⟩

theorem marks_option {w : String} (hw : PlainText w.toList) :
    Marks (Shows source) pre (option w) fun _ => pre := by
  refine marks_of_plain fun i b j hrun => ?_
  rcases option_reads hrun with ⟨-, hread⟩ | ⟨-, rfl⟩
  · exact ⟨_, hread, hw⟩
  · exact ⟨[], .refl i, by simp⟩

/-- Passing over plain characters at the front of the text. -/
theorem marksAt_skip {i : Input} {front back : List Char} (htext : i.text = front ++ back)
    (hplain : PlainText front) :
    MarksAt (Shows source) pre (skip front.length) (fun _ => pre) i :=
  fun _ _ hrun => ⟨[], by simp, shows_plain (skip_reads_of_eq htext hrun).1 hplain⟩

theorem marksAt_skip_one {i : Input} {c : Char} {back : List Char} (htext : i.text = c :: back)
    (hc : Plain c) : MarksAt (Shows source) pre (skip 1) (fun _ => pre) i :=
  marksAt_skip (show i.text = [c] ++ back from htext) (by simpa using hc)

/-! ### Parsers inside templates

Inside of a template it is enough that a parser goes forward. -/

theorem moves_of_advances {p : Parser α} (h : ∀ i a j, p i = some (a, j) → i.Advances j) :
    Marks Moves [] p fun _ => [] :=
  fun i a j hrun => ⟨[], rfl, h i a j hrun⟩

theorem Marks.moves {p : Parser α} {post : α → List Spot} (h : Marks (Shows []) [] p post) :
    Marks Moves [] p fun _ => [] :=
  moves_of_advances fun _ _ _ hrun => (h.run hrun).advances

theorem moves_skip {n : Nat} : Marks Moves [] (skip n) fun _ => [] :=
  moves_of_advances fun _ _ _ hrun => (skip_reads hrun).imp fun _ h => h.1

theorem moves_any : Marks Moves [] any fun _ => [] :=
  moves_of_advances fun _ _ _ hrun => ⟨_, (satisfy_reads hrun).1⟩

theorem moves_char {c : Char} : Marks Moves [] (char c) fun _ => [] :=
  moves_of_advances fun _ _ _ hrun => ⟨_, char_reads hrun⟩

theorem moves_word {w : String} : Marks Moves [] (word w) fun _ => [] :=
  moves_of_advances fun _ _ _ hrun => ⟨_, word_reads hrun⟩

theorem moves_option {w : String} : Marks Moves [] (option w) fun _ => [] := by
  refine moves_of_advances fun i b j hrun => ?_
  rcases option_reads hrun with ⟨-, hread⟩ | ⟨-, rfl⟩
  · exact ⟨_, hread⟩
  · exact .refl i

end Parser

end TerraLint
