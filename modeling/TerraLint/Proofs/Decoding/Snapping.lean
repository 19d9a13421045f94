import TerraLint.Body
import TerraLint.Proofs.Tiling

/-!
# Snapping spans to tokens

The reader of documents gives byte spans, and the tokens give places. Here it is shown
that nothing is lost between the two (`TerraLint.Body.readWith_aligned`), whoever reads the
document, as long as the spans it gives are *aligned* with the tokens
(`TerraLint.Structure.Aligned`): each holds at least one token of content and cuts none,
what belongs to a block lies inside its span, and siblings follow each other.

Then the body in place has the shape of the document, and each of its spans runs from the
first to the last token of content inside the byte span it comes from. That siblings do
not overlap, that a block encloses what is in it, and that a header begins its block is a
consequence: the first token of a span inside another is not before the first token of the
other, and likewise for the last.

## Finding the first and the last

A token is found by passing over those that end too early, or taking those that start
early enough, and then looking for content. It is the right one because tokens stand one
behind the other (`TerraLint.Token.InRow`), so that what is passed over is all that ends
too early.
-/

namespace TerraLint

open Lexeme Position

/-! ### Tokens in a row -/

/-- Tokens stand one behind the other, those of content are not empty, and their bytes are
those of their spans. -/
structure Token.InRow (tokens : List Token) : Prop where
  ordered : tokens.Pairwise fun s t =>
    s.bytes.start < t.bytes.start ∧ s.bytes.stop ≤ t.bytes.start
  le : ∀ t ∈ tokens, t.bytes.start ≤ t.bytes.stop
  content_lt : ∀ t ∈ tokens, t.kind.isTrivia = false → t.bytes.start < t.bytes.stop
  bytes_eq : ∀ t ∈ tokens, t.bytes = ⟨t.span.start.byte, t.span.stop.byte⟩

/-- The tokens of a source stand in a row. -/
theorem Token.inRow_of_lex {file source : String} {tokens : List Token}
    (h : lex file source = .ok tokens) : InRow tokens := by
  obtain ⟨lexemes, hcut, rfl⟩ := lex_eq_ok_iff.mp h
  have hne := hcut.text_ne_nil
  refine ⟨place_pairwise file [] hne, fun t ht => ?_, fun t ht hkind => ?_, fun t ht => ?_⟩
  · rcases mem_place ht with ⟨front, l, back, kind, -, -, rfl⟩ | rfl <;> simp [ofEnds]
  · rcases mem_place ht with ⟨front, l, back, kind, rfl, -, rfl⟩ | rfl
    · have hpos := byteLength_pos (hne l (by simp))
      simpa [ofEnds] using hpos
    · simp [ofEnds, Kind.isTrivia] at hkind
  · rcases mem_place ht with ⟨front, l, back, kind, -, -, rfl⟩ | rfl <;> rfl

/-! ### The first and the last token of content in a byte span -/

/-- The token lies inside the byte span. -/
def ByteSpan.Holds (span : ByteSpan) (t : Token) : Prop :=
  span.start ≤ t.bytes.start ∧ t.bytes.stop ≤ span.stop

instance (span : ByteSpan) (t : Token) : Decidable (span.Holds t) :=
  inferInstanceAs (Decidable (_ ∧ _))

/-- The token is the first of content inside the byte span. -/
structure Token.IsFirstIn (tokens : List Token) (span : ByteSpan) (t : Token) : Prop where
  mem : t ∈ tokens
  content : t.kind.isTrivia = false
  holds : span.Holds t
  le : ∀ s ∈ tokens, s.kind.isTrivia = false → span.Holds s → t.bytes.start ≤ s.bytes.start

/-- The token is the last of content inside the byte span. -/
structure Token.IsLastIn (tokens : List Token) (span : ByteSpan) (t : Token) : Prop where
  mem : t ∈ tokens
  content : t.kind.isTrivia = false
  holds : span.Holds t
  le : ∀ s ∈ tokens, s.kind.isTrivia = false → span.Holds s → s.bytes.stop ≤ t.bytes.stop

/-- **The byte span is aligned**: it holds a token of content, and cuts none. -/
structure ByteSpan.Aligned (tokens : List Token) (span : ByteSpan) : Prop where
  holds : ∃ t ∈ tokens, t.kind.isTrivia = false ∧ span.Holds t
  whole : ∀ t ∈ tokens, t.kind.isTrivia = false →
    span.Holds t ∨ t.bytes.stop ≤ span.start ∨ span.stop ≤ t.bytes.start

instance (tokens : List Token) (span : ByteSpan) : Decidable (span.Aligned tokens) :=
  decidable_of_iff ((∃ t ∈ tokens, t.kind.isTrivia = false ∧ span.Holds t) ∧
      ∀ t ∈ tokens, t.kind.isTrivia = false →
        span.Holds t ∨ t.bytes.stop ≤ span.start ∨ span.stop ≤ t.bytes.start)
    ⟨fun h => ⟨h.1, h.2⟩, fun h => ⟨h.1, h.2⟩⟩

namespace Body

/-- In an ordered list a search finds the first of those that it looks for. -/
theorem eq_or_of_find? {α : Type} {R : α → α → Prop} {p : α → Bool} {l : List α} {a b : α}
    (hl : l.Pairwise R) (ha : l.find? p = some a) (hb : b ∈ l) (hpb : p b = true) :
    b = a ∨ R a b := by
  obtain ⟨-, front, back, rfl, hfront⟩ := List.find?_eq_some_iff_append.mp ha
  rcases List.mem_append.mp hb with hb | hb
  · have := hfront b hb
    simp [hpb] at this
  · rcases List.mem_cons.mp hb with rfl | hb
    · exact .inl rfl
    · exact .inr ((List.pairwise_cons.mp (List.pairwise_append.mp hl).2.1).1 b hb)

variable {tokens : List Token} {byte : Nat} {t : Token}

theorem mem_of_firstAt? (h : firstAt? tokens byte = some t) : t ∈ tokens :=
  (List.dropWhile_sublist _).subset (List.mem_of_find?_eq_some h)

theorem mem_of_lastBefore? (h : lastBefore? tokens byte = some t) : t ∈ tokens :=
  (List.takeWhile_sublist _).subset (List.mem_reverse.mp (List.mem_of_find?_eq_some h))

/-- A token that ends behind a byte is not passed over. -/
theorem mem_dropWhile_stop (ht : t ∈ tokens) (hstop : byte < t.bytes.stop) :
    t ∈ tokens.dropWhile fun t => t.bytes.stop ≤ byte := by
  have hsplit := List.takeWhile_append_dropWhile (p := fun t : Token => t.bytes.stop ≤ byte)
    (l := tokens)
  rw [← hsplit] at ht
  rcases List.mem_append.mp ht with ht | ht
  · have := List.mem_takeWhile_imp ht
    simp only [decide_eq_true_eq] at this
    omega
  · exact ht

/-- The first token of content behind a byte is there if any is. -/
theorem exists_firstAt? (ht : t ∈ tokens) (hkind : t.kind.isTrivia = false)
    (hstop : byte < t.bytes.stop) : ∃ first, firstAt? tokens byte = some first :=
  Option.isSome_iff_exists.mp
    (List.find?_isSome.mpr ⟨t, mem_dropWhile_stop ht hstop, by simp [hkind]⟩)

/-- The tokens in front of a byte are found from the left, as they are in order. -/
theorem mem_takeWhile_start
    (hordered : tokens.Pairwise fun s t => s.bytes.start < t.bytes.start)
    (ht : t ∈ tokens) (hstart : t.bytes.start < byte) :
    t ∈ tokens.takeWhile fun t => t.bytes.start < byte := by
  induction tokens with
  | nil => simp at ht
  | cons s tokens ih =>
    obtain ⟨hfirst, hrest⟩ := List.pairwise_cons.mp hordered
    have hs : s.bytes.start < byte := by
      rcases List.mem_cons.mp ht with rfl | ht
      · exact hstart
      · exact (hfirst t ht).trans hstart
    rw [List.takeWhile_cons, if_pos (by simpa using hs)]
    rcases List.mem_cons.mp ht with rfl | ht
    · exact List.mem_cons_self
    · exact List.mem_cons_of_mem _ (ih hrest ht)

/-- The last token of content before a byte is there if any is. -/
theorem exists_lastBefore?
    (hordered : tokens.Pairwise fun s t => s.bytes.start < t.bytes.start)
    (ht : t ∈ tokens) (hkind : t.kind.isTrivia = false) (hstart : t.bytes.start < byte) :
    ∃ last, lastBefore? tokens byte = some last := by
  refine Option.isSome_iff_exists.mp (List.find?_isSome.mpr ⟨t, ?_, by simp [hkind]⟩)
  exact List.mem_reverse.mpr (mem_takeWhile_start hordered ht hstart)

section InRow

variable (hrow : Token.InRow tokens)

include hrow

/-- What is not passed over ends behind the byte. -/
theorem lt_stop_of_mem_dropWhile
    (ht : t ∈ tokens.dropWhile fun t => t.bytes.stop ≤ byte) : byte < t.bytes.stop := by
  have hsub := List.dropWhile_sublist (l := tokens) fun t => t.bytes.stop ≤ byte
  have hle := hrow.le t (hsub.subset ht)
  have hordered := hrow.ordered.sublist hsub
  have hhead := List.head?_dropWhile_not (fun t : Token => decide (t.bytes.stop ≤ byte)) tokens
  cases hrest : tokens.dropWhile fun t => t.bytes.stop ≤ byte with
  | nil => simp [hrest] at ht
  | cons d rest =>
    rw [hrest] at ht hordered hhead
    have hd : byte < d.bytes.stop := by simpa using hhead
    rcases List.mem_cons.mp ht with rfl | ht
    · exact hd
    · have hdt := (List.pairwise_cons.mp hordered).1 t ht
      omega

/-- **The token found behind a byte** ends behind it, and no other token of content that does
comes earlier. -/
theorem of_firstAt? (h : firstAt? tokens byte = some t) :
    t.kind.isTrivia = false ∧ byte < t.bytes.stop ∧
      ∀ s ∈ tokens, s.kind.isTrivia = false → byte < s.bytes.stop →
        t.bytes.start ≤ s.bytes.start := by
  have hcontent := List.find?_some h
  refine ⟨by simpa using hcontent, ?_, fun s hs hkind hstop => ?_⟩
  · exact lt_stop_of_mem_dropWhile hrow (List.mem_of_find?_eq_some h)
  · have hordered := hrow.ordered.sublist
      (List.dropWhile_sublist fun t : Token => decide (t.bytes.stop ≤ byte))
    rcases eq_or_of_find? hordered h (mem_dropWhile_stop hs hstop) (by simp [hkind]) with rfl | hlt
    · exact le_rfl
    · exact hlt.1.le

/-- **The token found before a byte** starts before it, and no other token of content that does
comes later. -/
theorem of_lastBefore? (h : lastBefore? tokens byte = some t) :
    t.kind.isTrivia = false ∧ t.bytes.start < byte ∧
      ∀ s ∈ tokens, s.kind.isTrivia = false → s.bytes.start < byte →
        s.bytes.stop ≤ t.bytes.stop := by
  have hcontent := List.find?_some h
  refine ⟨by simpa using hcontent, ?_, fun s hs hkind hlt => ?_⟩
  · simpa using List.mem_takeWhile_imp (List.mem_reverse.mp (List.mem_of_find?_eq_some h))
  · -- the search goes from right to left, where earlier tokens come later
    have hordered := (hrow.ordered.sublist
      (List.takeWhile_sublist fun t : Token => decide (t.bytes.start < byte))).reverse
    have hmem := mem_takeWhile_start (hrow.ordered.imp And.left) hs hlt
    have hle := hrow.le t (mem_of_lastBefore? h)
    rcases eq_or_of_find? hordered h (List.mem_reverse.mpr hmem) (by simp [hkind]) with
      rfl | hbefore
    · exact le_rfl
    · omega

/-- In an aligned span the search from the left finds the first token. -/
theorem exists_isFirstIn {span : ByteSpan} (h : span.Aligned tokens) :
    ∃ first, firstAt? tokens span.start = some first ∧ Token.IsFirstIn tokens span first := by
  obtain ⟨t, ht, hkind, hstart, hstop⟩ := h.holds
  have hlt := hrow.content_lt t ht hkind
  obtain ⟨first, hfirst⟩ := exists_firstAt? ht hkind (by omega : span.start < t.bytes.stop)
  obtain ⟨hcontent, hbehind, hle⟩ := of_firstAt? hrow hfirst
  have hmem := mem_of_firstAt? hfirst
  have hfirst_le := hle t ht hkind (by omega)
  refine ⟨first, hfirst, hmem, hcontent, ?_, fun s hs hs' hholds => ?_⟩
  · rcases h.whole first hmem hcontent with hholds | hbefore | hafter
    · exact hholds
    · omega
    · omega
  · have hslt := hrow.content_lt s hs hs'
    exact hle s hs hs' (by have := hholds.1; omega)

/-- In an aligned span the search from the right finds the last token. -/
theorem exists_isLastIn {span : ByteSpan} (h : span.Aligned tokens) :
    ∃ last, lastBefore? tokens span.stop = some last ∧ Token.IsLastIn tokens span last := by
  obtain ⟨t, ht, hkind, hstart, hstop⟩ := h.holds
  have hlt := hrow.content_lt t ht hkind
  obtain ⟨last, hlast⟩ := exists_lastBefore? (hrow.ordered.imp And.left) ht hkind
    (by omega : t.bytes.start < span.stop)
  obtain ⟨hcontent, hbefore, hle⟩ := of_lastBefore? hrow hlast
  have hmem := mem_of_lastBefore? hlast
  have hlast_le := hle t ht hkind (by omega)
  refine ⟨last, hlast, hmem, hcontent, ?_, fun s hs hs' hholds => ?_⟩
  · rcases h.whole last hmem hcontent with hholds | hfront | hafter
    · exact hholds
    · omega
    · omega
  · have hslt := hrow.content_lt s hs hs'
    exact hle s hs hs' (by have := hholds.2; omega)

/-- Of two tokens one comes first, unless they are the same. -/
theorem eq_or_stop_le {s : Token} (hs : s ∈ tokens) (ht : t ∈ tokens)
    (hle : s.bytes.start ≤ t.bytes.start) : s = t ∨ s.bytes.stop ≤ t.bytes.start := by
  obtain ⟨i, hi, rfl⟩ := List.mem_iff_getElem.mp hs
  obtain ⟨j, hj, rfl⟩ := List.mem_iff_getElem.mp ht
  have hordered := List.pairwise_iff_getElem.mp hrow.ordered
  rcases lt_trichotomy i j with hlt | rfl | hlt
  · exact .inr (hordered i j hi hj hlt).2
  · exact .inl rfl
  · have := (hordered j i hj hi hlt).1
    omega

/-- Two tokens in order, the second one of content, span what lies between them. -/
theorem between_eq {s : Token} (hs : s ∈ tokens) (ht : t ∈ tokens)
    (hkind : t.kind.isTrivia = false) (hle : s.bytes.start ≤ t.bytes.start) :
    s.span.between t.span = ⟨s.span.file, s.span.start, t.span.stop⟩ := by
  rcases eq_or_stop_le hrow hs ht hle with rfl | hstop
  · simp [Span.between]
  · have hlt := hrow.content_lt t ht hkind
    rw [hrow.bytes_eq s hs, hrow.bytes_eq t ht] at hle hstop
    rw [hrow.bytes_eq t ht] at hlt
    simp only at hle hstop hlt
    rw [Span.between, if_neg (by omega), if_pos (by omega)]

end InRow

end Body

/-! ### Aligned documents -/

/-- The byte span of a structure. -/
def Structure.span : Structure → ByteSpan
  | .attribute _ span _ => span
  | .block _ _ span _ => span

/-- One byte span lies inside another. -/
def ByteSpan.Inside (inner outer : ByteSpan) : Prop :=
  outer.start ≤ inner.start ∧ inner.stop ≤ outer.stop

instance (inner outer : ByteSpan) : Decidable (inner.Inside outer) :=
  inferInstanceAs (Decidable (_ ∧ _))

theorem ByteSpan.Holds.mono {inner outer : ByteSpan} {t : Token} (h : inner.Holds t)
    (hinside : inner.Inside outer) : outer.Holds t :=
  ⟨hinside.1.trans h.1, h.2.trans hinside.2⟩

/-- Structures follow each other without overlap. -/
def Structure.Ordered (structures : List Structure) : Prop :=
  structures.Pairwise fun s s' => s.span.stop ≤ s'.span.start

/-- **The structure is aligned with the tokens**: its span is, and so are the labels of a block
and what is in it; these lie inside the block, and the latter in order. -/
inductive Structure.Aligned (tokens : List Token) : Structure → Prop
  | ofAttribute {name : String} {span : ByteSpan} {templates : List ByteSpan} :
      span.Aligned tokens → Structure.Aligned tokens (.attribute name span templates)
  | ofBlock {type : String} {labels : List Label} {span : ByteSpan} {body : List Structure} :
      span.Aligned tokens →
      (∀ l ∈ labels, l.span.Aligned tokens ∧ l.span.Inside span) →
      (∀ s ∈ body, s.span.Inside span) → (∀ s ∈ body, Structure.Aligned tokens s) →
      Structure.Ordered body → Structure.Aligned tokens (.block type labels span body)

/-- Induction over the structures of a document, level by level. -/
theorem Structure.induction {P : List Structure → Prop} (nil : P [])
    (ofAttribute : ∀ name span templates rest, P rest →
      P (.attribute name span templates :: rest))
    (ofBlock : ∀ type labels span body rest, P body → P rest →
      P (.block type labels span body :: rest)) : ∀ structures, P structures
  | [] => nil
  | .attribute _ _ _ :: rest => ofAttribute _ _ _ _ (induction nil ofAttribute ofBlock rest)
  | .block _ _ _ body :: rest =>
    ofBlock _ _ _ _ _ (induction nil ofAttribute ofBlock body)
      (induction nil ofAttribute ofBlock rest)

/-! ### Documents in place -/

/-- One span lies inside another. -/
def Span.Inside (inner outer : Span) : Prop :=
  outer.start.byte ≤ inner.start.byte ∧ inner.stop.byte ≤ outer.stop.byte

/-- **The span runs from the first to the last token of content** inside the byte span. -/
def Span.Covers (tokens : List Token) (span : ByteSpan) (place : Span) : Prop :=
  ∃ first last : Token, first.IsFirstIn tokens span ∧ last.IsLastIn tokens span ∧
    place = ⟨first.span.file, first.span.start, last.span.stop⟩

namespace Body

/-- An attribute or a block in place. A body keeps the two apart; as items they keep their
order. -/
inductive Item where
  | attribute (a : Attribute)
  | block (b : Block)

/-- Where the item stands. -/
def Item.span : Item → Span
  | .attribute a => a.span
  | .block b => b.span

def Item.attribute? : Item → Option Attribute
  | .attribute a => some a
  | .block _ => none

def Item.block? : Item → Option Block
  | .attribute _ => none
  | .block b => some b

/-- Items follow each other without overlap. -/
def Item.Ordered (items : List Item) : Prop :=
  items.Pairwise fun i j => i.span.stop.byte ≤ j.span.start.byte

/-- The body that items make up. -/
def ofItems (items : List Item) : Body :=
  ⟨items.filterMap Item.attribute?, items.filterMap Item.block?⟩

/-- Where the token stands with which the header of a block ends: in the last label, or in the
block itself if there is none. -/
def headerEnd (labels : List Label) (span : ByteSpan) : ByteSpan :=
  (labels.getLast?.map Label.span).getD span

/-- **A block in place**, with the items that are in it. -/
structure Fits (tokens : List Token) (labels : List Label) (span : ByteSpan)
    (items : List Item) (b : Block) : Prop where
  labels_eq : b.labels = labels.map Label.text
  covers : b.span.Covers tokens span
  header_start : b.header.start = b.span.start
  header_stop : ∃ t : Token, t.IsFirstIn tokens (headerEnd labels span) ∧
    b.header.stop = t.span.stop
  header_inside : b.header.Inside b.span
  body_eq : b.body = ofItems items
  ordered : Item.Ordered items
  inside : ∀ i ∈ items, i.span.Inside b.span

/-- **Structures and what they become in place**, one by one and level by level. -/
inductive Decodes (tokens : List Token) : List Structure → List Item → Prop
  | nil : Decodes tokens [] []
  | ofAttribute {name : String} {span : ByteSpan} {templates : List ByteSpan} {place : Span}
      {rest : List Structure} {items : List Item} :
      place.Covers tokens span → Decodes tokens rest items →
      Decodes tokens (.attribute name span templates :: rest) (.attribute ⟨name, place⟩ :: items)
  | ofBlock {b : Block} {labels : List Label} {span : ByteSpan} {body rest : List Structure}
      {inner items : List Item} :
      Fits tokens labels span inner b → Decodes tokens body inner → Decodes tokens rest items →
      Decodes tokens (.block b.type labels span body :: rest) (.block b :: items)

/-- An item covers the span of a structure that it comes from. -/
theorem Decodes.exists_covers {tokens : List Token} {structures : List Structure}
    {items : List Item} (h : Decodes tokens structures items) :
    ∀ i ∈ items, ∃ s ∈ structures, i.span.Covers tokens s.span := by
  induction h with
  | nil => simp
  | ofAttribute hcovers _ ih =>
    refine List.forall_mem_cons.mpr ⟨⟨_, List.mem_cons_self, hcovers⟩, fun i hi => ?_⟩
    obtain ⟨s, hs, hcovers⟩ := ih i hi
    exact ⟨s, List.mem_cons_of_mem _ hs, hcovers⟩
  | ofBlock hfits _ _ _ ih =>
    refine List.forall_mem_cons.mpr ⟨⟨_, List.mem_cons_self, hfits.covers⟩, fun i hi => ?_⟩
    obtain ⟨s, hs, hcovers⟩ := ih i hi
    exact ⟨s, List.mem_cons_of_mem _ hs, hcovers⟩

section InRow

variable {tokens : List Token} (hrow : Token.InRow tokens)

include hrow

/-- What covers a byte span lies inside it. -/
theorem covers_bounds {span : ByteSpan} {place : Span} (h : place.Covers tokens span) :
    span.start ≤ place.start.byte ∧ place.stop.byte ≤ span.stop := by
  obtain ⟨first, last, hfirst, hlast, rfl⟩ := h
  have hstart := hfirst.holds.1
  have hstop := hlast.holds.2
  rw [hrow.bytes_eq first hfirst.mem] at hstart
  rw [hrow.bytes_eq last hlast.mem] at hstop
  exact ⟨hstart, hstop⟩

/-- **Covers nest as byte spans do.** -/
theorem covers_inside {inner outer : ByteSpan} {place place' : Span}
    (h : place.Covers tokens inner) (h' : place'.Covers tokens outer)
    (hinside : inner.Inside outer) : place.Inside place' := by
  obtain ⟨first, last, hfirst, hlast, rfl⟩ := h
  obtain ⟨first', last', hfirst', hlast', rfl⟩ := h'
  have hstart := hfirst'.le first hfirst.mem hfirst.content (hfirst.holds.mono hinside)
  have hstop := hlast'.le last hlast.mem hlast.content (hlast.holds.mono hinside)
  rw [hrow.bytes_eq first hfirst.mem, hrow.bytes_eq first' hfirst'.mem] at hstart
  rw [hrow.bytes_eq last hlast.mem, hrow.bytes_eq last' hlast'.mem] at hstop
  exact ⟨hstart, hstop⟩

/-- **Siblings in place follow each other** if the structures do. -/
theorem Decodes.ordered {structures : List Structure} {items : List Item}
    (h : Decodes tokens structures items) (hordered : Structure.Ordered structures) :
    Item.Ordered items := by
  have hfollows : ∀ {span : ByteSpan} {place : Span} {rest : List Structure} {items : List Item},
      place.Covers tokens span → Decodes tokens rest items →
      (∀ s ∈ rest, span.stop ≤ s.span.start) →
        ∀ i ∈ items, place.stop.byte ≤ i.span.start.byte := by
    intro span place rest items hcovers hrest hbefore i hi
    obtain ⟨s, hs, hcovers'⟩ := hrest.exists_covers i hi
    have hstop := (covers_bounds hrow hcovers).2
    have hstart := (covers_bounds hrow hcovers').1
    have hle := hbefore s hs
    omega
  induction h with
  | nil => exact .nil
  | ofAttribute hcovers hrest ih =>
    obtain ⟨hbefore, hordered⟩ := List.pairwise_cons.mp hordered
    exact List.pairwise_cons.mpr ⟨hfollows hcovers hrest hbefore, ih hordered⟩
  | ofBlock hfits _ hrest _ ih =>
    obtain ⟨hbefore, hordered⟩ := List.pairwise_cons.mp hordered
    exact List.pairwise_cons.mpr ⟨hfollows hfits.covers hrest hbefore, ih hordered⟩

/-- **An aligned byte span has a place**, from its first token to its last. -/
theorem exists_snap?_eq {span : ByteSpan} (h : span.Aligned tokens) :
    ∃ first last : Token, first.IsFirstIn tokens span ∧ last.IsLastIn tokens span ∧
      firstAt? tokens span.start = some first ∧
      snap? tokens span = some ⟨first.span.file, first.span.start, last.span.stop⟩ := by
  obtain ⟨first, hfound, hfirst⟩ := exists_isFirstIn hrow h
  obtain ⟨last, hfound', hlast⟩ := exists_isLastIn hrow h
  have hle := hfirst.le last hlast.mem hlast.content hlast.holds
  have hbetween := between_eq hrow hfirst.mem hlast.mem hlast.content hle
  exact ⟨first, last, hfirst, hlast, hfound, by simp [snap?, hfound, hfound', hbetween]⟩

omit hrow in
/-- A header runs from the first token of its block to the token that ends it. -/
theorem header_eq {labels : List Label} {span : ByteSpan} {s t : Token}
    (hs : firstAt? tokens span.start = some s)
    (ht : firstAt? tokens (headerEnd labels span).start = some t) :
    header tokens labels span = .ok (s.span.between t.span) := by
  cases hlast : labels.getLast? with
  | none =>
    obtain rfl : s = t := by simpa [headerEnd, hlast, hs] using ht
    simp [header, hs, hlast]
  | some label =>
    have hlabel : firstAt? tokens label.span.start = some t := by
      simpa [headerEnd, hlast] using ht
    simp [header, hs, hlast, hlabel]

omit hrow in
/-- The token that ends the header of an aligned block lies in an aligned span inside it. -/
theorem headerEnd_aligned {labels : List Label} {span : ByteSpan} (h : span.Aligned tokens)
    (hlabels : ∀ l ∈ labels, l.span.Aligned tokens ∧ l.span.Inside span) :
    (headerEnd labels span).Aligned tokens ∧ (headerEnd labels span).Inside span := by
  cases hlast : labels.getLast? with
  | none => simpa [headerEnd, hlast] using ⟨h, le_rfl, le_rfl⟩
  | some label => simpa [headerEnd, hlast] using hlabels label (List.mem_of_getLast? hlast)

/-- **An aligned block has a place and a header.** The header begins the block and ends with the
last label or, without labels, with the first token. -/
theorem exists_block_eq {labels : List Label} {span : ByteSpan} (h : span.Aligned tokens)
    (hlabels : ∀ l ∈ labels, l.span.Aligned tokens ∧ l.span.Inside span) :
    ∃ place head, snap? tokens span = some place ∧ header tokens labels span = .ok head ∧
      place.Covers tokens span ∧ head.start = place.start ∧
      (∃ t : Token, t.IsFirstIn tokens (headerEnd labels span) ∧ head.stop = t.span.stop) ∧
      head.Inside place := by
  obtain ⟨s, last, hfirst, hlast, hfound, hsnap⟩ := exists_snap?_eq hrow h
  obtain ⟨haligned, hinside⟩ := headerEnd_aligned h hlabels
  obtain ⟨t, hfound', ht⟩ := exists_isFirstIn hrow haligned
  have hholds := ht.holds.mono hinside
  have hbetween := between_eq hrow hfirst.mem ht.mem ht.content
    (hfirst.le t ht.mem ht.content hholds)
  have hstop := hlast.le t ht.mem ht.content hholds
  rw [hrow.bytes_eq t ht.mem, hrow.bytes_eq last hlast.mem] at hstop
  refine ⟨_, ⟨s.span.file, s.span.start, t.span.stop⟩, hsnap, ?_,
    ⟨s, last, hfirst, hlast, rfl⟩, rfl, ⟨t, ht, rfl⟩, le_rfl, hstop⟩
  rw [header_eq hfound hfound', hbetween]

/-- **Aligned structures are put in place.** -/
theorem exists_decodes (structures : List Structure)
    (haligned : ∀ s ∈ structures, s.Aligned tokens) :
    ∃ items, locate tokens structures = .ok (ofItems items) ∧ Decodes tokens structures items := by
  induction structures using Structure.induction with
  | nil => exact ⟨[], by simp [locate, ofItems], .nil⟩
  | ofAttribute name span templates rest ih =>
    obtain ⟨hhead, hrest⟩ := List.forall_mem_cons.mp haligned
    obtain ⟨items, hlocate, hitems⟩ := ih hrest
    cases hhead with
    | ofAttribute hspan =>
      obtain ⟨s, last, hfirst, hlast, -, hsnap⟩ := exists_snap?_eq hrow hspan
      refine ⟨.attribute ⟨name, _⟩ :: items, ?_, .ofAttribute ⟨s, last, hfirst, hlast, rfl⟩ hitems⟩
      simp [locate, hsnap, hlocate, ofItems, List.filterMap_cons, Item.attribute?, Item.block?]
  | ofBlock type labels span body rest ihbody ihrest =>
    obtain ⟨hhead, hrest⟩ := List.forall_mem_cons.mp haligned
    obtain ⟨items, hlocate, hitems⟩ := ihrest hrest
    cases hhead with
    | ofBlock hspan hlabels hinside hbody hordered =>
      obtain ⟨inner, hlocate', hinner⟩ := ihbody hbody
      obtain ⟨place, head, hsnap, hheader, hcovers, hstart, hstop, hin⟩ :=
        exists_block_eq hrow hspan hlabels
      have hfits : Fits tokens labels span inner ⟨type, labels.map Label.text, head, place,
          (ofItems inner).attributes, (ofItems inner).blocks⟩ := by
        refine ⟨rfl, hcovers, hstart, hstop, hin, rfl, hinner.ordered hrow hordered, fun i hi => ?_⟩
        obtain ⟨s, hs, hcovers'⟩ := hinner.exists_covers i hi
        exact covers_inside hrow hcovers' hcovers (hinside s hs)
      refine ⟨.block _ :: items, ?_, .ofBlock hfits hinner hitems⟩
      simp [locate, hsnap, hheader, hlocate, hlocate', ofItems, List.filterMap_cons,
        Item.attribute?, Item.block?]

end InRow

/-- **Snapping is faithful.** Where the byte spans of a document are aligned with the tokens of
its source, it is decoded, whoever has read it: the body in place has the shape of the
document, its spans run from the first to the last token of content of the byte spans, and
they follow and enclose each other as these do. -/
theorem readWith_aligned {file source : String} {tokens : List Token}
    (hlex : Token.lex file source = .ok tokens) {parse : String → Except String (List Structure)}
    {structures : List Structure} (hparse : parse source = .ok structures)
    (haligned : ∀ s ∈ structures, s.Aligned tokens) (hordered : Structure.Ordered structures) :
    ∃ items, readWith parse tokens source = .ok (ofItems items) ∧
      Decodes tokens structures items ∧ Item.Ordered items := by
  have hrow := Token.inRow_of_lex hlex
  obtain ⟨items, hlocate, hitems⟩ := exists_decodes hrow structures haligned
  exact ⟨items, by simp [readWith, hparse, hlocate, Except.mapError], hitems,
    hitems.ordered hrow hordered⟩

/-- A block with a label and an attribute on one line, and a comment behind it. -/
theorem readWith_aligned_one_line :
    ∃ tokens items, Token.lex "m" "b l \x7b a = 1 \x7d # c" = .ok tokens ∧
      Document.read "b l \x7b a = 1 \x7d # c" = .ok [.block "b" [⟨"l", ⟨2, 3⟩, false⟩] ⟨0, 13⟩
        [.attribute "a" ⟨6, 11⟩ []]] ∧
      readWith Document.read tokens "b l \x7b a = 1 \x7d # c" = .ok (ofItems items) ∧
      Decodes tokens [.block "b" [⟨"l", ⟨2, 3⟩, false⟩] ⟨0, 13⟩ [.attribute "a" ⟨6, 11⟩ []]] items ∧
      Item.Ordered items := by
  have hlex : Token.lex "m" "b l \x7b a = 1 \x7d # c" = .ok ([(.identifier, 0, 1),
      (.identifier, 2, 3), (.openBrace, 4, 5), (.identifier, 6, 7), (.equals, 8, 9),
      (.number, 10, 11), (.closeBrace, 12, 13), (.comment, 14, 17), (.endOfFile, 17, 17)].map
        fun t => .ofEnds "m" t.1 ⟨1, t.2.1 + 1, t.2.1⟩ ⟨1, t.2.2 + 1, t.2.2⟩) := by
    decide +kernel
  have hread : Document.read "b l \x7b a = 1 \x7d # c" = .ok [.block "b"
      [⟨"l", ⟨2, 3⟩, false⟩] ⟨0, 13⟩ [.attribute "a" ⟨6, 11⟩ []]] := by cbv
  obtain ⟨items, hitems⟩ := readWith_aligned hlex hread
    (List.forall_mem_singleton.mpr (.ofBlock (by decide)
      (List.forall_mem_singleton.mpr (by decide)) (List.forall_mem_singleton.mpr (by decide))
      (List.forall_mem_singleton.mpr (.ofAttribute (by decide))) (List.pairwise_singleton _ _)))
    (List.pairwise_singleton _ _)
  exact ⟨_, items, hlex, hread, hitems⟩

end Body

end TerraLint
