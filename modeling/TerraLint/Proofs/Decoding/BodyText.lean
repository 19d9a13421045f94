import TerraLint.Proofs.Decoding.Agreement

/-!
# The text of a body

The text of a body is a sequence of pieces: blanks, comments, and the structures of the
body (`TerraLint.Laid`). Nothing else stands in it, so a character that is not blank
belongs to a comment or to a structure (`TerraLint.Laid.blank_or_includes`). What is read
between two structures is trivia, and the relation between inputs that says so
(`TerraLint.Passes`) is one that can be carried over trivia piece by piece.

The main result (`TerraLint.Document.exists_laidOut`) says where the body of a block of a
document stands in its source, and that no two attributes in it have the same name. It
comes from an invariant of the loop over a body: the pieces read so far are laid out, and
each block among them has a body that is laid out further in. The same invariant puts the
structures in order: they follow each other, and the parts of a block stand in it
(`TerraLint.Document.inOrder_of_read?`).
-/

namespace TerraLint

open Lexeme Position Input

/-- The byte is one of the span. -/
def ByteSpan.Includes (span : ByteSpan) (byte : Nat) : Prop := span.start ≤ byte ∧ byte < span.stop

/-! ### Comments -/

/-- **The comments of a document**: a line comment does not reach over its line, and a block
comment ends with the first mark that can end it. -/
inductive Document.IsComment : List Char → Prop
  | line {text : List Char} : startsLineComment text = true → '\n' ∉ text → IsComment text
  | block {inside : List Char} : ¬['*', '/'] <:+: inside ++ ['*'] →
      IsComment ('/' :: '*' :: (inside ++ ['*', '/']))

/-- The end of a block comment is the first mark that can end it. -/
theorem Document.exists_of_blockCommentLength? {read length : Nat} {text : List Char}
    (h : blockCommentLength? read text = some length) :
    ∃ inside after, text = inside ++ ['*', '/'] ++ after ∧ length = read + inside.length + 2 ∧
      ¬['*', '/'] <:+: inside ++ ['*'] := by
  fun_induction blockCommentLength? read text with
  | case1 => simp at h
  | case2 read after =>
    obtain rfl := Option.some.inj h
    exact ⟨[], after, rfl, rfl, by decide⟩
  | case3 read c text hnot ih =>
    obtain ⟨inside, after, rfl, rfl, hinside⟩ := ih h
    refine ⟨c :: inside, after, rfl, by simp only [List.length_cons]; omega, ?_⟩
    rw [List.cons_append, List.infix_cons_iff]
    rintro (hfront | hinfix)
    · -- the mark would begin with the character that has been passed over
      obtain ⟨rfl, hslash⟩ := List.cons_prefix_cons.mp hfront
      cases inside with
      | nil => simp at hslash
      | cons d inside =>
        obtain ⟨rfl, -⟩ := List.cons_prefix_cons.mp hslash
        exact hnot _ rfl rfl
    · exact hinside hinfix

/-! ### Texts laid out -/

/-- **A text is laid out**, from a byte on: it consists of blanks, of comments that have the
first spans, and of pieces that have the second spans. -/
inductive Laid : Nat → List Char → List ByteSpan → List ByteSpan → Prop
  | nil {byte : Nat} : Laid byte [] [] []
  | blank {byte : Nat} {c : Char} {rest : List Char} {comments spans : List ByteSpan} :
      IsBlankChar c → Laid (byte + c.utf8Size) rest comments spans →
      Laid byte (c :: rest) comments spans
  | comment {byte : Nat} {text rest : List Char} {comments spans : List ByteSpan} :
      Document.IsComment text → Laid (byte + byteLength text) rest comments spans →
      Laid byte (text ++ rest) (⟨byte, byte + byteLength text⟩ :: comments) spans
  | piece {byte : Nat} {text rest : List Char} {comments spans : List ByteSpan} :
      Laid (byte + byteLength text) rest comments spans →
      Laid byte (text ++ rest) comments (⟨byte, byte + byteLength text⟩ :: spans)

namespace Laid

theorem append {byte : Nat} {text text' : List Char} {comments comments' spans spans' : List ByteSpan}
    (h : Laid byte text comments spans)
    (h' : Laid (byte + byteLength text) text' comments' spans') :
    Laid byte (text ++ text') (comments ++ comments') (spans ++ spans') := by
  induction h with
  | nil => simpa using h'
  | blank hblank _ ih => exact .blank hblank (ih (by simpa [Nat.add_assoc] using h'))
  | comment hcomment _ ih =>
    rw [List.append_assoc]
    exact .comment hcomment (ih (by simpa [Nat.add_assoc] using h'))
  | piece _ ih =>
    rw [List.append_assoc]
    exact .piece (ih (by simpa [Nat.add_assoc] using h'))

theorem of_blanks {byte : Nat} {text : List Char} (h : ∀ c ∈ text, IsBlankChar c) :
    Laid byte text [] [] := by
  induction text generalizing byte with
  | nil => exact .nil
  | cons c text ih =>
    obtain ⟨hc, htext⟩ := List.forall_mem_cons.mp h
    exact .blank hc (ih htext)

theorem of_comment {byte : Nat} {text : List Char} (h : Document.IsComment text) :
    Laid byte text [⟨byte, byte + byteLength text⟩] [] := by
  simpa using Laid.comment h .nil

theorem of_piece (byte : Nat) (text : List Char) :
    Laid byte text [] [⟨byte, byte + byteLength text⟩] := by
  simpa using @Laid.piece byte text [] [] [] .nil

/-- The pieces stand in the text. -/
theorem bounds {byte : Nat} {text : List Char} {comments spans : List ByteSpan}
    (h : Laid byte text comments spans) :
    ∀ span ∈ spans, byte ≤ span.start ∧ span.stop ≤ byte + byteLength text := by
  induction h with
  | nil => simp
  | blank _ _ ih =>
    intro span hspan
    obtain ⟨hstart, hstop⟩ := ih span hspan
    rw [byteLength_cons]
    omega
  | comment _ _ ih =>
    intro span hspan
    obtain ⟨hstart, hstop⟩ := ih span hspan
    rw [byteLength_append]
    omega
  | piece _ ih =>
    rw [byteLength_append]
    refine List.forall_mem_cons.mpr ⟨by simp, fun span hspan => ?_⟩
    obtain ⟨hstart, hstop⟩ := ih span hspan
    omega

/-- The pieces follow each other. -/
theorem pairwise {byte : Nat} {text : List Char} {comments spans : List ByteSpan}
    (h : Laid byte text comments spans) : spans.Pairwise fun a b => a.stop ≤ b.start := by
  induction h with
  | nil => exact .nil
  | blank _ _ ih => exact ih
  | comment _ _ ih => exact ih
  | piece hrest ih =>
    exact List.pairwise_cons.mpr ⟨fun span hspan => (hrest.bounds span hspan).1, ih⟩

/-- **Every character of a text that is laid out** is blank, or it belongs to a comment or to a
piece. -/
theorem blank_or_includes {byte : Nat} {text before after : List Char} {c : Char}
    {comments spans : List ByteSpan} (h : Laid byte text comments spans)
    (htext : text = before ++ c :: after) :
    IsBlankChar c ∨ (∃ span ∈ comments, span.Includes (byte + byteLength before)) ∨
      ∃ span ∈ spans, span.Includes (byte + byteLength before) := by
  have hinside : ∀ {byte : Nat} {front before inside : List Char}, front = before ++ c :: inside →
      ByteSpan.Includes ⟨byte, byte + byteLength front⟩ (byte + byteLength before) := by
    rintro byte front before inside rfl
    have hpos := c.utf8Size_pos
    simp only [ByteSpan.Includes, byteLength_append, byteLength_cons]
    omega
  -- where the character does not stand in the first piece, it stands in the rest
  induction h generalizing before with
  | nil => simp at htext
  | blank hblank _ ih =>
    cases before with
    | nil =>
      obtain ⟨rfl, -⟩ := List.cons.inj htext
      exact .inl hblank
    | cons d before =>
      obtain ⟨rfl, hrest⟩ := List.cons.inj htext
      rw [byteLength_cons, ← Nat.add_assoc]
      exact ih hrest
  | comment _ _ ih =>
    rcases exists_of_append_eq_append_cons htext with ⟨before', rfl, hrest⟩ | ⟨inside, hfront, -⟩
    · rw [byteLength_append, ← Nat.add_assoc]
      refine (ih hrest).imp_right (Or.imp_left ?_)
      rintro ⟨span, hspan, hincludes⟩
      exact ⟨span, List.mem_cons_of_mem _ hspan, hincludes⟩
    · exact .inr (.inl ⟨_, List.mem_cons_self, hinside hfront⟩)
  | piece _ ih =>
    rcases exists_of_append_eq_append_cons htext with ⟨before', rfl, hrest⟩ | ⟨inside, hfront, -⟩
    · rw [byteLength_append, ← Nat.add_assoc]
      refine (ih hrest).imp_right (Or.imp_right ?_)
      rintro ⟨span, hspan, hincludes⟩
      exact ⟨span, List.mem_cons_of_mem _ hspan, hincludes⟩
    · exact .inr (.inr ⟨_, List.mem_cons_self, hinside hfront⟩)

end Laid

/-! ### Inputs between which a text is laid out -/

/-- From `i` to `j` a text is read that is laid out. -/
def Input.Lays (i : Input) (comments spans : List ByteSpan) (j : Input) : Prop :=
  ∃ text, i.Reads text j ∧ Laid i.byte text comments spans

theorem Input.Lays.trans {i j k : Input} {comments comments' spans spans' : List ByteSpan}
    (h : i.Lays comments spans j) (h' : j.Lays comments' spans' k) :
    i.Lays (comments ++ comments') (spans ++ spans') k := by
  obtain ⟨text, hread, hlaid⟩ := h
  obtain ⟨text', hread', hlaid'⟩ := h'
  rw [hread.2] at hlaid'
  exact ⟨text ++ text', hread.trans hread', hlaid.append hlaid'⟩

theorem Input.Lays.advances {i j : Input} {comments spans : List ByteSpan}
    (h : i.Lays comments spans j) : i.Advances j :=
  h.imp fun _ h => h.1

theorem Input.Advances.byte_le {i j : Input} (h : i.Advances j) : i.byte ≤ j.byte := by
  obtain ⟨text, hread⟩ := h
  rw [hread.2]
  omega

/-- Between inputs lies a text, as one piece. -/
theorem Input.Advances.lays {i j : Input} (h : i.Advances j) : i.Lays [] [⟨i.byte, j.byte⟩] j := by
  obtain ⟨text, hread⟩ := h
  refine ⟨text, hread, ?_⟩
  rw [hread.2]
  exact .of_piece i.byte text

/-- Only blanks and comments are read from `i` to `j`. -/
def Passes (_ : List Spot) (i j : Input) : Prop := ∃ comments, i.Lays comments [] j

theorem Passes.advances {spots : List Spot} {i j : Input} (h : Passes spots i j) : i.Advances j :=
  let ⟨_, h⟩ := h
  h.advances

namespace Document

open TerraLint.Parser

/-- **Trivia are blanks and comments.** -/
instance : CrossesTrivia Passes where
  refl i := ⟨[], [], .refl i, .nil⟩
  trans := by
    rintro a b i j k ⟨comments, h⟩ ⟨comments', h'⟩
    exact ⟨comments ++ comments', h.trans h'⟩
  blanks h hblanks := ⟨[], _, h, .of_blanks hblanks⟩
  blockComment := by
    intro i j u body length htext hlength hrun
    obtain ⟨inside, after, rfl, rfl, hinside⟩ := exists_of_blockCommentLength? hlength
    have hfront : i.text = '/' :: '*' :: (inside ++ ['*', '/']) ++ after := by simp [htext]
    have hskip : skip ('/' :: '*' :: (inside ++ ['*', '/'])).length i = some (u, j) := by
      rw [← hrun]
      congr 1
      simp only [List.length_cons, List.length_append, List.length_nil]
      omega
    exact ⟨_, _, (skip_reads_of_eq hfront hskip).1, .of_comment (.block hinside)⟩
  lineComment := by
    intro i j u hstarts hrun
    obtain ⟨hread, -⟩ := lineComment_reads hrun
    refine ⟨_, _, hread, .of_comment (.line ?_ fun hmem => ?_)⟩
    · obtain ⟨c, rest, htext, rfl | ⟨rfl, hslash⟩⟩ := exists_of_startsLineComment hstarts
      · simp [htext, startsLineComment]
      · obtain ⟨rest, rfl⟩ := List.head?_eq_some_iff.mp hslash
        simp [htext, startsLineComment]
    · simpa using List.mem_takeWhile_imp hmem

end Document

/-! ### Bodies -/

/-- The name of an attribute. -/
def Structure.attributeName? : Structure → Option String
  | .attribute name .. => some name
  | .block .. => none

/-- **The parts of a structure are in order**: a label of a block does not begin in front of it,
and the structures in it follow each other inside it. -/
inductive Structure.InOrder : Structure → Prop
  | ofAttribute {name : String} {span : ByteSpan} {templates : List ByteSpan} :
      Structure.InOrder (.attribute name span templates)
  | ofBlock {type : String} {labels : List Label} {span : ByteSpan} {body : List Structure} :
      span.start ≤ span.stop → (∀ l ∈ labels, span.start ≤ l.span.start) →
      (∀ s ∈ body, s.span.Inside span) → (∀ s ∈ body, Structure.InOrder s) →
      Structure.Ordered body → Structure.InOrder (.block type labels span body)

/-- **A body, read from one input to another**: nothing but its structures, blanks and comments is
read, no two attributes have the same name, and the parts of the structures are in order. -/
structure IsBody (comments : List ByteSpan) (structures : List Structure) (i j : Input) : Prop where
  lays : i.Lays comments (structures.map Structure.span) j
  nodup : (structures.filterMap Structure.attributeName?).Nodup
  inOrder : ∀ s ∈ structures, s.InOrder

theorem IsBody.ordered {comments : List ByteSpan} {structures : List Structure} {i j : Input}
    (h : IsBody comments structures i j) : Structure.Ordered structures := by
  obtain ⟨text, -, hlaid⟩ := h.lays
  exact List.pairwise_map.mp hlaid.pairwise

theorem IsBody.bounds {comments : List ByteSpan} {structures : List Structure} {i j : Input}
    (h : IsBody comments structures i j) :
    ∀ s ∈ structures, i.byte ≤ s.span.start ∧ s.span.stop ≤ j.byte := by
  intro s hs
  obtain ⟨text, hread, hlaid⟩ := h.lays
  rw [hread.2]
  exact hlaid.bounds _ (List.mem_map_of_mem hs)

namespace Document

open TerraLint.Parser

theorem hasAttribute_eq_false_iff {key : String} {structures : List Structure} :
    hasAttribute key structures = false ↔
      key ∉ structures.filterMap Structure.attributeName? := by
  simp only [hasAttribute, List.any_eq_false, List.mem_filterMap, not_exists, not_and]
  refine forall₂_congr fun s _ => ?_
  cases s <;> simp [Structure.attributeName?]

/-- Between two inputs a body is read that has the structures. -/
def ReadsBody (structures : List Structure) (i j : Input) : Prop :=
  ∃ comments k l, i.Advances k ∧ IsBody comments structures k l ∧ l.Advances j

theorem ReadsBody.extend {structures : List Structure} {i j k l : Input}
    (h : ReadsBody structures j k) (hij : i.Advances j) (hkl : k.Advances l) :
    ReadsBody structures i l := by
  obtain ⟨comments, m, n, hjm, hbody, hnk⟩ := h
  exact ⟨comments, m, n, hij.trans hjm, hbody, hnk.trans hkl⟩

/-- A block in which a body is read is in order if its labels are. -/
theorem ReadsBody.inOrder {structures : List Structure} {i j : Input} {type : String}
    {labels : List Label} (h : ReadsBody structures i j)
    (hlabels : ∀ l ∈ labels, i.byte ≤ l.span.start) :
    (Structure.block type labels ⟨i.byte, j.byte⟩ structures).InOrder := by
  obtain ⟨comments, k, l, hik, hbody, hlj⟩ := h
  have hfront := hik.byte_le
  have hback := hlj.byte_le
  have hinside := hbody.lays.advances.byte_le
  refine .ofBlock (by dsimp only; omega) hlabels (fun s hs => ?_) hbody.inOrder hbody.ordered
  obtain ⟨hstart, hstop⟩ := hbody.bounds s hs
  exact ⟨hfront.trans hstart, hstop.trans hback⟩

theorem label_start {i j : Input} {l : Label} (h : label i = some (some l, j)) :
    l.span.start = i.byte := by
  obtain ⟨_, _, hstart, hrun⟩ := bind_eq_some.mp h
  obtain ⟨rfl, rfl⟩ := position_eq_some.mp hstart
  obtain ⟨_, _, hfirst, hrun⟩ := bind_eq_some.mp hrun
  obtain ⟨text, k, -, hrun⟩ := bind_eq_some.mp hrun
  obtain ⟨-, rfl⟩ := peek_eq_some.mp hfirst
  cases text with
  | none => simp [pure_eq_some] at hrun
  | some text =>
    obtain ⟨_, _, -, hrun⟩ := bind_eq_some.mp hrun
    obtain ⟨_, _, -, hrun⟩ := bind_eq_some.mp hrun
    obtain ⟨hl, -⟩ := pure_eq_some.mp hrun
    rw [← Option.some.inj hl]

/-- The labels stand where they are read. -/
theorem labels_start {i j : Input} {labels : List Label}
    (h : collect label i = some (labels, j)) : ∀ l ∈ labels, i.byte ≤ l.span.start := by
  refine loop_invariant (fun found k => i.Advances k ∧ ∀ l ∈ found, i.byte ≤ l.span.start)
    (fun labels _ => ∀ l ∈ labels, i.byte ≤ l.span.start) ?_ ⟨.refl i, by simp⟩ h
  rintro found k r l ⟨hadvances, hfound⟩ hrun
  obtain ⟨o, m, hlabel, hrun⟩ := bind_eq_some.mp hrun
  have hnext : Shows [] _ k m := (@marks_label [] []).run hlabel
  cases o with
  | none =>
    obtain ⟨rfl, rfl⟩ := pure_eq_some.mp hrun
    exact fun l hl => hfound l (List.mem_reverse.mp hl)
  | some o =>
    obtain ⟨rfl, rfl⟩ := pure_eq_some.mp hrun
    refine ⟨hadvances.trans hnext.advances, List.forall_mem_cons.mpr ⟨?_, hfound⟩⟩
    rw [label_start hlabel]
    exact hadvances.byte_le

theorem oneLineBody_readsBody {level : Nat} {i j : Input} {structures : List Structure}
    (h : oneLineBody level i = some (structures, j)) : ReadsBody structures i j := by
  rcases oneLineBody_eq_some h with ⟨hclosed, rfl⟩ |
    ⟨i', key, k, l, m, s, n, o, hopen, hname, htrivia, hequals, hattribute, hblanks, hclose, rfl⟩
  · exact ⟨[], i, i, .refl i, ⟨⟨[], .refl i, .nil⟩, by simp, by simp⟩, moves_option.run hclosed⟩
  · obtain ⟨value, hvalue, rfl⟩ := attributeFrom_eq_some hattribute
    have hshows : Shows [] _ k n := Graded.trans (marks_inlineTrivia.run htrivia)
      (Graded.trans ((marks_char (by decide)).run hequals) (marks_attributeValue.run hvalue))
    have hbehind : n.Advances j :=
      (Passes.advances (marks_inlineTrivia.run hblanks)).trans (moves_char.run hclose)
    refine ⟨[], i', n, moves_option.run hopen, ⟨?_, ?_, ?_⟩, hbehind⟩
    · exact (shows_name hname hshows).advances.lays
    · simp [Structure.attributeName?]
    · exact List.forall_mem_singleton.mpr .ofAttribute

theorem blockBody_readsBody {level : Nat} {body : Parser (List Structure)}
    (hbody : ∀ i found j, body i = some (found, j) → ∃ comments, IsBody comments found i j)
    {i j : Input} {structures : List Structure}
    (h : blockBody level body i = some (structures, j)) : ReadsBody structures i j := by
  obtain ⟨_, k, hopen, hrun⟩ := bind_eq_some.mp h
  obtain ⟨_, l, htrivia, hrun⟩ := bind_eq_some.mp hrun
  obtain ⟨_, _, hrest, hrun⟩ := bind_eq_some.mp hrun
  obtain ⟨rfl, rfl⟩ := rest_eq_some.mp hrest
  have hfront : i.Advances l :=
    (moves_char.run hopen).trans (Passes.advances (marks_inlineTrivia.run htrivia))
  split at hrun
  · obtain ⟨_, m, hcomment, hrun⟩ := bind_eq_some.mp hrun
    obtain ⟨_, n, hline, hrun⟩ := bind_eq_some.mp hrun
    obtain ⟨found, o, hfound, hrun⟩ := bind_eq_some.mp hrun
    obtain ⟨_, p, hclose, hrun⟩ := bind_eq_some.mp hrun
    obtain ⟨rfl, rfl⟩ := pure_eq_some.mp hrun
    obtain ⟨comments, hlaid⟩ := hbody n found o hfound
    have hbehind : Passes [] l n :=
      Graded.trans (marks_optionalLineComment.run hcomment) (marks_lineEnd.run hline)
    exact ⟨comments, n, o, hfront.trans hbehind.advances, hlaid, moves_char.run hclose⟩
  · exact (oneLineBody_readsBody hrun).extend hfront (.refl j)

/-- **One structure of a body**: it is read from its first byte to its last with its parts in
order, an attribute has a new name, and a block holds a body. -/
theorem nextStructure_reads {level n : Nat}
    (hbody : ∀ i found j, body n i = some (found, j) → ∃ comments, IsBody comments found i j)
    {found : List Structure} {i j : Input} {s : Structure}
    (h : nextStructure level (body n) found i = some (s, j)) :
    i.Lays [] [s.span] j ∧ s.InOrder ∧
      (∀ key, s.attributeName? = some key → hasAttribute key found = false) ∧
      ∀ type labels span inner, s = .block type labels span inner → ReadsBody inner i j := by
  have hread : Shows [] _ i j := (marks_nextStructure fun _ => marks_body n).run h
  obtain ⟨key, k, l, m, hname, htrivia, ⟨-, hnew, hattribute⟩ | ⟨hequals, hblock⟩⟩ :=
    nextStructure_eq_some h
  · obtain ⟨value, -, rfl⟩ := attributeFrom_eq_some hattribute
    refine ⟨hread.advances.lays, .ofAttribute, ?_, by simp⟩
    rintro _ ⟨⟩
    exact hnew
  · obtain ⟨labels, o, inner, hlabels, hinner, rfl⟩ := blockFrom_eq_some hblock
    have hfront : Shows [] _ k m := Graded.trans (marks_inlineTrivia.run htrivia)
      ((marks_option (by decide)).run hequals)
    have hstart := (shows_name hname hfront).advances
    have hnames : Shows [] _ m o := (Marks.collect fun _ => marks_label).run hlabels
    have hreads : ReadsBody inner i j :=
      (blockBody_readsBody hbody hinner).extend (hstart.trans hnames.advances) (.refl j)
    refine ⟨hread.advances.lays, hreads.inOrder fun l hl => ?_, by simp [Structure.attributeName?],
      ?_⟩
    · exact hstart.byte_le.trans (labels_start hlabels l hl)
    · rintro _ _ _ _ ⟨⟩
      exact hreads

/-- **A body with the bodies in it**: the structures are read from one input to another, and a
block among them holds a body that is read further in. -/
structure IsNested (structures : List Structure) (i j : Input) : Prop where
  isBody : ∃ comments, IsBody comments structures i j
  blocks : ∀ type labels span inner, .block type labels span inner ∈ structures →
    ReadsBody inner i j

theorem IsNested.nil (i : Input) : IsNested [] i i :=
  ⟨⟨[], ⟨[], .refl i, .nil⟩, by simp, by simp⟩, by simp⟩

theorem IsNested.passes {structures : List Structure} {i j k : Input} {spots : List Spot}
    (h : IsNested structures i j) (hpasses : Passes spots j k) : IsNested structures i k := by
  obtain ⟨⟨comments, hlays, hnodup, hinOrder⟩, hblocks⟩ := h
  obtain ⟨passed, hpassed⟩ := hpasses
  refine ⟨⟨comments ++ passed, ?_, hnodup, hinOrder⟩, fun type labels span inner hmem => ?_⟩
  · simpa using hlays.trans hpassed
  · exact (hblocks type labels span inner hmem).extend (.refl i) hpassed.advances

/-- One more structure at the end of a body. -/
theorem IsNested.concat {structures : List Structure} {i j k : Input} {s : Structure}
    (h : IsNested structures i j) (hlays : j.Lays [] [s.span] k) (hs : s.InOrder)
    (hname : ∀ key, s.attributeName? = some key →
      key ∉ structures.filterMap Structure.attributeName?)
    (hblock : ∀ type labels span inner, s = .block type labels span inner → ReadsBody inner j k) :
    IsNested (structures ++ [s]) i k := by
  obtain ⟨⟨comments, hbefore, hnodup, hinOrder⟩, hblocks⟩ := h
  refine ⟨⟨comments, ?_, ?_, ?_⟩, fun type labels span inner hmem => ?_⟩
  · simpa using hbefore.trans hlays
  · rw [List.filterMap_append, List.nodup_append]
    refine ⟨hnodup, ?_, ?_⟩
    · cases hs : s.attributeName? <;> simp [hs]
    · rintro key hkey other hother rfl
      refine hname key ?_ hkey
      simpa using hother
  · exact List.forall_mem_append.mpr ⟨hinOrder, List.forall_mem_singleton.mpr hs⟩
  · rcases List.mem_append.mp hmem with hmem | hmem
    · exact (hblocks type labels span inner hmem).extend (.refl i) hlays.advances
    · have hs := List.mem_singleton.mp hmem
      exact (hblock type labels span inner hs.symm).extend hbefore.advances (.refl k)

/-- **A body is laid out where it is read**, and so are the bodies of the blocks in it. -/
theorem body_isNested (n : Nat) : ∀ {i j : Input} {found : List Structure},
    body n i = some (found, j) → IsNested found i j := by
  induction n with
  | zero =>
    intro i j found h
    simp [body, fail] at h
  | succ n ih =>
    intro i j found h
    unfold body at h
    -- the structures found so far have been read from `i` on, and the last one is the first
    refine loop_invariant (fun found k => IsNested found.reverse i k) (IsNested · i ·) ?_ (.nil i) h
    intro found k r q hfound hrun
    obtain ⟨_, l, htrivia, hrun⟩ := bind_eq_some.mp hrun
    obtain ⟨_, _, hended, hrun⟩ := bind_eq_some.mp hrun
    obtain ⟨-, rfl⟩ := atEnd_eq_some.mp hended
    obtain ⟨_, _, hnext, hrun⟩ := bind_eq_some.mp hrun
    obtain ⟨-, rfl⟩ := peek_eq_some.mp hnext
    have hfront := hfound.passes (marks_freeTrivia.run htrivia)
    split at hrun
    · obtain ⟨rfl, rfl⟩ := pure_eq_some.mp hrun
      exact hfront
    · obtain ⟨s, m, hs, hrun⟩ := bind_eq_some.mp hrun
      obtain ⟨_, o, hend, hrun⟩ := bind_eq_some.mp hrun
      obtain ⟨rfl, rfl⟩ := pure_eq_some.mp hrun
      obtain ⟨hlays, hinOrder, hnew, hblock⟩ :=
        nextStructure_reads (fun _ _ _ h => (ih h).isBody) hs
      have hbehind : IsNested (found.reverse ++ [s]) i m := by
        refine hfront.concat hlays hinOrder (fun key hkey => ?_) hblock
        rw [List.filterMap_reverse, List.mem_reverse]
        exact hasAttribute_eq_false_iff.mp (hnew key hkey)
      simpa using hbehind.passes (marks_structureEnd.run hend)

/-- **The structures of a document are in order**, at every level. -/
theorem inOrder_of_read? {source : String} {structures : List Structure}
    (h : read? source = some structures) :
    Structure.Ordered structures ∧ ∀ s ∈ structures, s.InOrder := by
  obtain ⟨left, -, hbody⟩ := exists_of_read? h
  obtain ⟨comments, hbody⟩ := (body_isNested _ hbody).isBody
  exact ⟨hbody.ordered, hbody.inOrder⟩

/-- **A body in its source**: a stretch of the source is laid out with the structures and the
comments between them, and no two attributes have the same name. -/
structure LaidOut (source : List Char) (comments : List ByteSpan) (structures : List Structure) :
    Prop where
  exists_text : ∃ before text after, source = before ++ (text ++ after) ∧
    Laid (byteLength before) text comments (structures.map Structure.span)
  nodup : (structures.filterMap Structure.attributeName?).Nodup

/-- **The bodies of the blocks of a document are laid out in its source.** -/
theorem exists_laidOut {source : String} {structures : List Structure}
    (h : read? source = some structures) {type : String} {labels : List Label} {span : ByteSpan}
    {inner : List Structure} (hmem : .block type labels span inner ∈ structures) :
    ∃ comments, LaidOut source.toList comments inner := by
  obtain ⟨left, -, hbody⟩ := exists_of_read? h
  obtain ⟨comments, k, l, hadvances, ⟨⟨text, hread, hlaid⟩, hnodup, -⟩, -⟩ :=
    (body_isNested _ hbody).blocks type labels span inner hmem
  have hstart : Input.StandsIn source.toList ⟨0, source.toList⟩ := ⟨[], rfl, rfl⟩
  obtain ⟨before, hsource, hbyte⟩ := hstart.advance hadvances
  refine ⟨comments, ⟨before, text, l.text, ?_, hbyte ▸ hlaid⟩, hnodup⟩
  rw [hsource, hread.1]

end Document

end TerraLint
