import TerraLint.Proofs.BlankLines
import TerraLint.Proofs.Decoding.BodyText
import TerraLint.Proofs.FirstArguments
import TerraLint.Proofs.Locality

/-!
# The line below a meta-argument

The rule on meta-arguments counts lines, it does not read them. When it is silent, the line
below a meta-argument is there, and no argument stands on it; but a comment may, and so
may a block (`TerraLint.MetaArguments.silent_not_blank`). The main result
(`TerraLint.MetaArguments.silent_line_clear`) is that nothing else does.

Between two structures of a body in place there are blanks, comments, and other structures
of the body (`TerraLint.Body.includes_of_between`). For this the grammar of documents and the
scanner of tokens need not agree on where templates end. The text of the body is laid out
according to the grammar, and the places come from tokens, so there are two sorts of
comments: a character may be part of a comment for the one and not for the other.
-/

namespace TerraLint

open Lexeme Position

/-! ### Places and bytes -/

/-- The span has the byte. -/
def Span.Includes (s : Span) (byte : Nat) : Prop := s.start.byte ≤ byte ∧ byte < s.stop.byte

theorem Span.between_start_byte (a b : Span) :
    (a.between b).start.byte = min a.start.byte b.start.byte := by
  simp only [Span.between]
  split <;> omega

theorem Span.between_stop_byte (a b : Span) :
    (a.between b).stop.byte = max a.stop.byte b.stop.byte := by
  simp only [Span.between]
  split <;> omega

/-! ### The token over a character -/

namespace Token

theorem IsGapChar.isBlankChar {c : Char} {after : List Char} (h : IsGapChar c after) :
    IsBlankChar c := by
  rcases h with rfl | rfl | ⟨rfl, -⟩ <;> simp [IsBlankChar]

variable {file source : String} {tokens : List Token}

/-- Under a line break there are blanks. -/
theorem isBlankChar_of_newline (h : lex file source = .ok tokens) {t : Token} (ht : t ∈ tokens)
    (hkind : t.kind = .newline) {before after : List Char} {c : Char}
    (hc : source.toList = before ++ c :: after) (hcovers : t.Covers (byteLength before)) :
    IsBlankChar c := by
  obtain ⟨lexemes, hcut, rfl⟩ := lex_eq_ok_iff.mp h
  rcases mem_place ht with ⟨front, l, back, kind, rfl, hl, rfl⟩ | rfl
  · obtain ⟨middle, hfront, hback⟩ := hcut.split_append
    cases hback with
    | @cons d more rest _ _ _ hshape _ =>
      obtain rfl : kind = .newline := hkind
      obtain rfl := hl
      obtain ⟨blank, hblank, htext⟩ := hshape.exists_of_newline
      obtain ⟨passed, left, -, hsplit⟩ : ∃ passed left, _ ∧ d :: more = passed ++ c :: left :=
        exists_of_byteLength_lt hfront.eq_written hc hcovers.1 hcovers.2
      have hmem : c ∈ blank ++ ['\n'] := by
        rw [← htext, hsplit]
        exact List.mem_append_cons_self
      rcases List.mem_append.mp hmem with hmem | hmem
      · have := hblank c hmem
        simp only [Spacing.blanks, List.mem_cons, List.not_mem_nil, or_false] at this
        rcases this with rfl | rfl | rfl <;> simp [IsBlankChar]
      · obtain rfl := List.mem_singleton.mp hmem
        simp [IsBlankChar]
  · simp [ofEnds] at hkind

/-- **Over every character that is not blank** there is a comment or a token of content. -/
theorem exists_covers (h : lex file source = .ok tokens) {before after : List Char} {c : Char}
    (hc : source.toList = before ++ c :: after) (hblank : ¬IsBlankChar c) :
    ∃ t ∈ tokens, t.Covers (byteLength before) ∧ (t.kind = .comment ∨ t.kind.isTrivia = false) := by
  obtain ⟨lexemes, hcut, rfl⟩ := lex_eq_ok_iff.mp h
  obtain ⟨t, ht, hcovers⟩ : ∃ t ∈ place file (behind []) lexemes, t.Covers (byteLength before) := by
    by_contra hnone
    push Not at hnone
    exact hblank (hcut.isGapChar rfl [] hc hnone).isBlankChar
  refine ⟨t, ht, hcovers, ?_⟩
  cases hkind : t.kind with
  | newline => exact absurd (isBlankChar_of_newline h ht hkind hc hcovers) hblank
  | endOfFile =>
    rcases mem_place ht with ⟨front, l, back, kind, rfl, hl, rfl⟩ | rfl
    · obtain rfl : kind = .endOfFile := hkind
      exact absurd hl (hcut.kind_ne_endOfFile l (by simp))
    · -- the end of the file is empty
      exact absurd hcovers.2 (not_lt.mpr hcovers.1)
  | _ => simp [Kind.isTrivia]

end Token

/-! ### Structures in place -/

section Forall₂

variable {α β : Type} {R : α → β → Prop} {xs : List α} {ys : List β}

theorem exists_of_mem_left (h : List.Forall₂ R xs ys) {x : α} (hx : x ∈ xs) : ∃ y ∈ ys, R x y := by
  obtain ⟨n, rfl⟩ := List.get_of_mem hx
  have hn : n < ys.length := h.length_eq ▸ n.isLt
  exact ⟨ys.get ⟨n, hn⟩, List.get_mem ys _, h.get n.isLt hn⟩

theorem exists_of_mem_right (h : List.Forall₂ R xs ys) {y : β} (hy : y ∈ ys) : ∃ x ∈ xs, R x y :=
  exists_of_mem_left h.flip hy

end Forall₂

namespace Body

variable {tokens : List Token}

/-- What a structure becomes in place. -/
inductive Placed (tokens : List Token) : Structure → Item → Prop
  | ofAttribute {name : String} {span : ByteSpan} {templates : List ByteSpan} {place : Span} :
      snap? tokens span = some place →
      Placed tokens (.attribute name span templates) (.attribute ⟨name, place⟩)
  | ofBlock {b : Block} {type : String} {labels : List Label} {span : ByteSpan}
      {structures : List Structure} : b.type = type → b.labels = labels.map Label.text →
      snap? tokens span = some b.span → locate tokens structures = .ok b.body →
      Placed tokens (.block type labels span structures) (.block b)

theorem Placed.snap?_eq {s : Structure} {i : Item} (h : Placed tokens s i) :
    snap? tokens s.span = some i.span := by
  cases h <;> assumption

theorem Placed.exists_of_block {s : Structure} {b : Block} (h : Placed tokens s (.block b)) :
    ∃ type labels span inner, s = .block type labels span inner ∧
      locate tokens inner = .ok b.body := by
  cases h with
  | ofBlock _ _ _ hinner => exact ⟨_, _, _, _, rfl, hinner⟩

/-- **Structures are put in place one by one.** -/
theorem exists_placed {structures : List Structure} {body : Body}
    (h : locate tokens structures = .ok body) :
    ∃ items, body = ofItems items ∧ List.Forall₂ (Placed tokens) structures items := by
  fun_induction locate tokens structures generalizing body with
  | case1 =>
    cases h
    exact ⟨[], rfl, .nil⟩
  | case4 name span _ rest place hplace found hrest ih =>
    cases h
    obtain ⟨items, rfl, hitems⟩ := ih hrest
    exact ⟨.attribute ⟨name, place⟩ :: items, rfl, .cons (.ofAttribute hplace) hitems⟩
  | case9 type labels span structures rest place hplace head hheader inside hinside found hrest
      _ ih =>
    cases h
    obtain ⟨items, rfl, hitems⟩ := ih hrest
    exact ⟨.block ⟨type, labels.map Label.text, head, place, inside.attributes, inside.blocks⟩ ::
      items, rfl, .cons (.ofBlock rfl rfl hplace hinside) hitems⟩
  | _ => simp at h

theorem mem_ofItems_attributes {items : List Item} {a : Attribute} :
    a ∈ (ofItems items).attributes ↔ .attribute a ∈ items := by
  simp only [ofItems, List.mem_filterMap]
  constructor
  · rintro ⟨b | b, hmem, hb⟩
    · obtain rfl := Option.some.inj hb
      exact hmem
    · simp [Item.attribute?] at hb
  · exact fun h => ⟨_, h, rfl⟩

theorem mem_ofItems_blocks {items : List Item} {b : Block} :
    b ∈ (ofItems items).blocks ↔ .block b ∈ items := by
  simp only [ofItems, List.mem_filterMap]
  constructor
  · rintro ⟨c | c, hmem, hc⟩
    · simp [Item.block?] at hc
    · obtain rfl := Option.some.inj hc
      exact hmem
  · exact fun h => ⟨_, h, rfl⟩

/-- The attributes in place have the names of the attributes. -/
theorem map_name_attributes {structures : List Structure} {items : List Item}
    (h : List.Forall₂ (Placed tokens) structures items) :
    (ofItems items).attributes.map Attribute.name =
      structures.filterMap Structure.attributeName? := by
  induction h with
  | nil => rfl
  | cons hplaced _ ih =>
    cases hplaced with
    | ofAttribute _ =>
      simpa [ofItems, List.filterMap_cons, Item.attribute?, Structure.attributeName?] using ih
    | ofBlock _ _ _ _ =>
      simpa [ofItems, List.filterMap_cons, Item.attribute?, Structure.attributeName?] using ih

section InRow

variable (hrow : Token.InRow tokens)

include hrow

/-- **A place has the bytes of content of its byte span**, and it does not lie apart from it. -/
theorem snap?_bounds {span : ByteSpan} {place : Span} (h : snap? tokens span = some place) :
    span.start < place.stop.byte ∧ place.start.byte < span.stop ∧
      ∀ t ∈ tokens, t.kind.isTrivia = false → ∀ byte, t.Covers byte → span.Includes byte →
        place.Includes byte := by
  simp only [snap?, Option.bind_eq_bind, Option.bind_eq_some_iff] at h
  obtain ⟨first, hfirst, last, hlast, hplace⟩ := h
  obtain rfl : first.span.between last.span = place := by simpa using hplace
  obtain ⟨-, hbehind, hfirst_le⟩ := of_firstAt? hrow hfirst
  obtain ⟨-, hbefore, hle_last⟩ := of_lastBefore? hrow hlast
  have hbytes := hrow.bytes_eq first (mem_of_firstAt? hfirst)
  have hbytes' := hrow.bytes_eq last (mem_of_lastBefore? hlast)
  simp only [Span.Includes, Span.between_start_byte, Span.between_stop_byte]
  simp only [hbytes] at hbehind hfirst_le
  simp only [hbytes'] at hbefore hle_last
  refine ⟨by omega, by omega, fun t ht hkind byte hcovers hincludes => ?_⟩
  obtain ⟨hle, hlt⟩ := hcovers
  obtain ⟨hle', hlt'⟩ := hincludes
  have hfirst := hfirst_le t ht hkind (by omega)
  have hlast := hle_last t ht hkind (by omega)
  omega

end InRow

/-- **Between two structures of a body** there are blanks, comments of the grammar or of the
scanner, and structures of the body. -/
theorem includes_of_between {file source : String} (hlex : Token.lex file source = .ok tokens)
    {structures : List Structure} {items : List Item} {comments : List ByteSpan}
    (hlaid : Document.LaidOut source.toList comments structures)
    (hplaced : List.Forall₂ (Placed tokens) structures items) {i j : Item} (hi : i ∈ items)
    (hj : j ∈ items) {before after : List Char} {c : Char}
    (hc : source.toList = before ++ c :: after) (hle : i.span.stop.byte ≤ byteLength before)
    (hlt : byteLength before < j.span.start.byte) :
    IsBlankChar c ∨ (∃ t ∈ tokens, t.kind = .comment ∧ t.Covers (byteLength before)) ∨
      (∃ span ∈ comments, span.Includes (byteLength before)) ∨
      ∃ item ∈ items, item.span.Includes (byteLength before) := by
  have hrow := Token.inRow_of_lex hlex
  by_cases hblank : IsBlankChar c
  · exact .inl hblank
  obtain ⟨t, ht, hcovers, hkind | hkind⟩ := Token.exists_covers hlex hc hblank
  · exact .inr (.inl ⟨t, ht, hkind, hcovers⟩)
  obtain ⟨front, text, back, hsource, hlaid⟩ := hlaid.exists_text
  have hsnap : ∀ item ∈ items, ∃ s ∈ structures, snap? tokens s.span = some item.span := by
    intro item hitem
    obtain ⟨s, hs, hplaced⟩ := exists_of_mem_right hplaced hitem
    exact ⟨s, hs, hplaced.snap?_eq⟩
  -- the character stands in the text of the body, since the two structures do
  have hstart : byteLength front ≤ byteLength before := by
    obtain ⟨s, hs, hsnap⟩ := hsnap i hi
    have hbound := (hlaid.bounds _ (List.mem_map_of_mem hs)).1
    have hsnap := (snap?_bounds hrow hsnap).1
    omega
  have hstop : byteLength before < byteLength (front ++ text) := by
    obtain ⟨s, hs, hsnap⟩ := hsnap j hj
    have hbound := (hlaid.bounds _ (List.mem_map_of_mem hs)).2
    have hsnap := (snap?_bounds hrow hsnap).2.1
    rw [byteLength_append]
    omega
  obtain ⟨passed, left, rfl, htext⟩ := exists_of_byteLength_lt hsource hc hstart hstop
  rw [byteLength_append]
  rcases hlaid.blank_or_includes htext with hblank' | hcomment | ⟨span, hspan, hincludes⟩
  · exact absurd hblank' hblank
  · exact .inr (.inr (.inl hcomment))
  · obtain ⟨s, hs, rfl⟩ := List.mem_map.mp hspan
    obtain ⟨item, hitem, hplaced⟩ := exists_of_mem_left hplaced hs
    rw [byteLength_append] at hcovers
    exact .inr (.inr (.inr ⟨item, hitem,
      (snap?_bounds hrow hplaced.snap?_eq).2.2 t ht hkind _ hcovers hincludes⟩))

end Body

/-! ### Declarations in their files -/

/-- **How a declaration is written**: as a block of a file, the body of which is laid out in the
content of the file with some comments between its structures. -/
structure Declaration.WrittenAs (p : Project) (d : Declaration) (f : SourceFile)
    (tokens : List Token) (b : Block) (comments : List ByteSpan) : Prop where
  file_mem : f ∈ p.files
  lex_eq : Token.lex f.name f.content = .ok tokens
  eq_ofBlock : d = .ofBlock f.name b
  within : b.Within f.Holds
  exists_structure : ∃ structures type labels span inner, p.parse f.content = .ok structures ∧
    .block type labels span inner ∈ structures ∧
    Body.Placed tokens (.block type labels span inner) (.block b) ∧
    Document.LaidOut f.content.toList comments inner

/-- **Every declaration of a module is written in one of its files.** -/
theorem Project.exists_writtenAs {p : Project} (hparse : p.parse = Document.read) {m : Module}
    (hm : p.module = .ok m) {d : Declaration} (hd : d ∈ m.declarations) :
    ∃ f tokens b comments, d.WrittenAs p f tokens b comments := by
  rw [module_declarations hm] at hd
  obtain ⟨f, hf, hd⟩ := List.mem_flatMap.mp hd
  unfold declarationsIn at hd
  split at hd
  · simp at hd
  split at hd
  · rename_i body hbody
    obtain ⟨b, hb, rfl⟩ := List.mem_map.mp hd
    have hwithin := (bodyOf_within hbody).2 b hb
    obtain ⟨tokens, structures, htokens, hstructures, hlocate⟩ := exists_locate_eq hbody
    obtain ⟨items, rfl, hplaced⟩ := Body.exists_placed hlocate
    obtain ⟨s, hs, hb⟩ := exists_of_mem_right hplaced (Body.mem_ofItems_blocks.mp hb)
    obtain ⟨type, labels, span, inner, rfl, -⟩ := hb.exists_of_block
    have hread := Document.read_eq_ok_iff.mp (hparse ▸ hstructures)
    obtain ⟨comments, hlaid⟩ := Document.exists_laidOut hread hs
    exact ⟨f, tokens, b, comments, hf, mapError_eq_ok htokens, rfl, hwithin, structures, type,
      labels, span, inner, hstructures, hs, hb, hlaid⟩
  · simp at hd

/-- **A line clear of attributes**: each character on it is blank, or it is part of a comment, for
the scanner or for the grammar, or of one of the blocks. -/
def IsClearLine (source : List Char) (tokens : List Token) (comments : List ByteSpan)
    (blocks : List Block) (line : Nat) : Prop :=
  ∀ before c after, source = before ++ c :: after → (behind before).line = line →
    Text.isBlank c = true ∨
    (∃ t ∈ tokens, t.kind = .comment ∧ t.Covers (byteLength before)) ∨
    (∃ span ∈ comments, span.Includes (byteLength before)) ∨
    ∃ b ∈ blocks, b.span.Includes (byteLength before)

theorem isBlank_of_isBlankChar {c : Char} (h : IsBlankChar c) : Text.isBlank c = true := by
  simp only [IsBlankChar, List.mem_cons, List.not_mem_nil, or_false] at h
  rcases h with rfl | rfl | rfl | rfl <;> rfl

namespace Declaration.WrittenAs

variable {p : Project} {d : Declaration} {f : SourceFile} {tokens : List Token} {b : Block}
  {comments : List ByteSpan} (h : d.WrittenAs p f tokens b comments)

include h

/-- The body of the block: its structures are laid out, and the items in place are theirs. -/
theorem exists_items :
    ∃ inner items, Document.LaidOut f.content.toList comments inner ∧
      List.Forall₂ (Body.Placed tokens) inner items ∧ b.body = Body.ofItems items := by
  obtain ⟨_, _, _, _, inner, -, -, hplaced, hlaid⟩ := h.exists_structure
  obtain ⟨_, _, _, _, ⟨⟩, hlocate⟩ := hplaced.exists_of_block
  obtain ⟨items, hbody, hitems⟩ := Body.exists_placed hlocate
  exact ⟨inner, items, hlaid, hitems, hbody⟩

theorem attributes_eq : d.attributes = b.body.attributes := by
  rw [h.eq_ofBlock]
  rfl

/-- No two attributes of a declaration have the same name. -/
theorem nodup : (d.attributes.map Attribute.name).Nodup := by
  obtain ⟨inner, items, hlaid, hitems, hbody⟩ := h.exists_items
  rw [h.attributes_eq, hbody, Body.map_name_attributes hitems]
  exact hlaid.nodup

/-- The attributes stand in the file. -/
theorem holds {a : Attribute} (ha : a ∈ d.attributes) : f.Holds a.span := by
  rw [h.attributes_eq] at ha
  obtain ⟨-, -, hattributes, -⟩ := h.within
  exact hattributes a ha

/-- **A line between two attributes is clear** if all attributes keep off it. -/
theorem isClearLine {line : Nat} {upper lower : Attribute} (hupper : upper ∈ d.attributes)
    (hlower : lower ∈ d.attributes) (habove : upper.span.stop.line < line)
    (hbelow : line < lower.span.start.line)
    (hoff : ∀ a ∈ d.attributes, a.span.stop.line < line ∨ line < a.span.start.line) :
    IsClearLine f.content.toList tokens comments b.blocks line := by
  intro before c after hc hline
  have hin := isIn_behind hc
  obtain ⟨inner, items, hlaid, hitems, hbody⟩ := h.exists_items
  have hmem : ∀ a ∈ d.attributes, .attribute a ∈ items := by
    intro a ha
    rw [h.attributes_eq, hbody] at ha
    exact Body.mem_ofItems_attributes.mp ha
  -- lines are in the order of bytes
  have hle : upper.span.stop.byte ≤ byteLength before := by
    by_contra hlt
    have := hin.line_le (h.holds hupper).stop_isIn (not_le.mp hlt).le
    omega
  have hlt : byteLength before < lower.span.start.byte := by
    by_contra hle
    have := (h.holds hlower).start_isIn.line_le hin (not_lt.mp hle)
    omega
  rcases Body.includes_of_between h.lex_eq hlaid hitems (hmem upper hupper) (hmem lower hlower) hc
    hle hlt with hblank | hcomment | hcomment | ⟨a | inside, hitem, hstart, hstop⟩
  · exact .inl (isBlank_of_isBlankChar hblank)
  · exact .inr (.inl hcomment)
  · exact .inr (.inr (.inl hcomment))
  · -- an attribute over the character would stand on the line
    have ha : a ∈ d.attributes := by
      rw [h.attributes_eq, hbody]
      exact Body.mem_ofItems_attributes.mpr hitem
    have hfirst := (h.holds ha).start_isIn.line_le hin hstart
    have hlast := hin.line_le (h.holds ha).stop_isIn (le_of_lt hstop)
    have hkeeps := hoff a ha
    omega
  · have hblock : inside ∈ b.body.blocks := by
      rw [hbody]
      exact Body.mem_ofItems_blocks.mpr hitem
    exact .inr (.inr (.inr ⟨inside, hblock, hstart, hstop⟩))

end Declaration.WrittenAs

namespace MetaArguments

/-! ### The line below a meta-argument -/

/-- **An attribute keeps off the line** below a meta-argument if all meta-arguments are in their
places: it ends above the line or starts below it. -/
theorem InPlace.stop_le_or_lt_start {d : Declaration}
    (hnodup : (d.attributes.map Attribute.name).Nodup)
    (hplaces : ∀ name ∈ names, ∀ argument, d.attribute? name = some argument → InPlace d argument)
    {argument : Attribute} (h : InPlace d argument) (hothers : others d ≠ []) {a : Attribute}
    (ha : a ∈ d.attributes) :
    a.span.stop.line ≤ argument.span.stop.line ∨ argument.span.stop.line + 1 < a.span.start.line := by
  by_cases hname : a.name ∈ names
  · -- the other meta-argument ends on the same line
    obtain ⟨found, hfound⟩ : ∃ found, d.attribute? a.name = some found :=
      Option.isSome_iff_exists.mp (List.find?_isSome.mpr ⟨a, ha, by simp⟩)
    have hmem : found ∈ d.attributes := List.mem_of_find?_eq_some hfound
    have hsame : found.name = a.name := by simpa using List.find?_some hfound
    obtain rfl := List.inj_on_of_nodup_map hnodup hmem ha hsame
    have hline := ((hplaces _ hname _ hfound).delimited hothers).unique (h.delimited hothers)
    omega
  · have hleast := (h.delimited hothers).2 ⟨a, mem_others.mpr ⟨ha, hname⟩, rfl⟩
    omega

/-- **The line below a meta-argument is clear when the rule is silent.** For a resource of a
module with a meta-argument and at least one other argument, if nothing is reported then every
character on the line below the last line of the meta-argument is blank, or it is part of a comment
or of a nested block. -/
theorem silent_line_clear {project : Project} (hparse : project.parse = Document.read) {m : Module}
    (hm : project.module = .ok m) {r : Resource} (hr : r ∈ m.resources) {name : String}
    (hname : name ∈ ["for_each", "count"]) {argument : Attribute}
    (hargument : r.declaration.attribute? name = some argument)
    (hothers : ∃ a ∈ r.declaration.attributes, a.name ∉ ["for_each", "count"])
    (hsilent : (checkResource r.declaration).collect none = ([], none)) :
    ∃ f tokens b comments, r.declaration.WrittenAs project f tokens b comments ∧
      IsClearLine f.content.toList tokens comments b.blocks (argument.span.stop.line + 1) := by
  obtain ⟨d, hd, hres⟩ := List.mem_filterMap.mp hr
  obtain rfl := Declaration.resource?_declaration hres
  have hplaces := (collect_checkResource_eq_nil_iff (resource?_eq_some_iff.mp ⟨r, hres⟩)).mp hsilent
  have hplace := hplaces name hname argument hargument
  have hne : others r.declaration ≠ [] := by
    obtain ⟨a, ha, hother⟩ := hothers
    exact List.ne_nil_of_mem (mem_others.mpr ⟨ha, hother⟩)
  obtain ⟨f, tokens, b, comments, hwritten⟩ := project.exists_writtenAs hparse hm hd
  obtain ⟨next, hnext, hline⟩ := (hplace.delimited hne).1
  refine ⟨f, tokens, b, comments, hwritten, hwritten.isClearLine (List.mem_of_find?_eq_some hargument)
    (mem_others.mp hnext).1 (Nat.lt_succ_self _) (by omega) fun a ha => ?_⟩
  have := hplace.stop_le_or_lt_start hwritten.nodup hplaces hne ha
  omega

/-- A block and a comment on the line below `count`. -/
theorem silent_line_clear_block :
    let project := Project.ofFiles [] [("main.tf",
      "resource \"a\" \"b\" \x7b\n  count = 2\n  c \x7b\x7d # d\n  name = e\n\x7d\n")]
    let span (line start stop byte : Nat) : Span :=
      ⟨"main.tf", ⟨line, start, byte⟩, ⟨line, stop, byte + (stop - start)⟩⟩
    let d : Declaration := ⟨"resource", ["a", "b"], "main.tf", span 1 1 17 0,
      ⟨"main.tf", .start, ⟨5, 2, 54⟩⟩, [⟨"count", span 2 3 12 21⟩, ⟨"name", span 4 3 11 44⟩]⟩
    project.module = .ok ⟨[d], none⟩ ∧ (checkResource d).collect none = ([], none) ∧
      ∃ f tokens b comments, d.WrittenAs project f tokens b comments ∧
        IsClearLine f.content.toList tokens comments b.blocks 3 := by
  intro project span d
  have hm : project.module = .ok ⟨[d], none⟩ := by cbv
  have hsilent : (checkResource d).collect none = ([], none) := by decide +kernel
  have hr : ⟨"a", "b", d⟩ ∈ (⟨[d], none⟩ : Module).resources := by decide +kernel
  have hothers : ∃ a ∈ d.attributes, a.name ∉ ["for_each", "count"] :=
    ⟨⟨"name", span 4 3 11 44⟩, List.mem_cons_of_mem _ List.mem_cons_self, by decide⟩
  have hcount : d.attribute? "count" = some ⟨"count", span 2 3 12 21⟩ := rfl
  exact ⟨hm, hsilent, silent_line_clear rfl hm hr (by decide) hcount hothers hsilent⟩

/-- **The line need not be blank.** The rule has nothing to report, and there is a comment on the
line below `count`. -/
theorem silent_not_blank :
    let source :=
      "resource \"a\" \"b\" \x7b\n  count = 2\n  # note\n  name = \"x\"\n\x7d\n"
    let project := Project.ofFiles [] [("main.tf", source)]
    ∃ d argument line, project.module = .ok ⟨[d], none⟩ ∧ (∃ r, d.resource? = some r) ∧
      d.attribute? "count" = some argument ∧
      (∃ a ∈ d.attributes, a.name ∉ ["for_each", "count"]) ∧ rule.run none project = ([], none) ∧
      (source.toList.splitOn '\n')[argument.span.stop.line]? = some line ∧
      ¬∀ c ∈ line, Text.isBlank c = true := by
  intro source project
  let span (line start stop byte : Nat) : Span :=
    ⟨"main.tf", ⟨line, start, byte⟩, ⟨line, stop, byte + (stop - start)⟩⟩
  refine ⟨⟨"resource", ["a", "b"], "main.tf", span 1 1 17 0, ⟨"main.tf", .start, ⟨5, 2, 54⟩⟩,
    [⟨"count", span 2 3 12 21⟩, ⟨"name", span 4 3 13 42⟩]⟩, ⟨"count", span 2 3 12 21⟩,
    "  # note".toList, by cbv, ⟨_, rfl⟩, rfl, ⟨⟨"name", span 4 3 13 42⟩, ?_, by decide⟩, by cbv,
    by decide +kernel, fun hblank => ?_⟩
  · exact List.mem_cons_of_mem _ List.mem_cons_self
  · exact absurd (hblank '#' (by decide)) (by decide)

end MetaArguments

end TerraLint
