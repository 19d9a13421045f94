import TerraLint.Proofs.EmptyLine

/-!
# The first backend of a module

A module can write several backends: `backend` blocks directly in its top-level `terraform`
blocks. Only the first counts, in the order of the files by name, of the blocks of a file
and of the blocks inside a block; the module takes it (`TerraLint.Module.ofBodies_backend`),
and the rule about its type says nothing about the others.

The list of all the backends (`TerraLint.Module.backendBlocks`) is in the order in which they
are written: a later one is in a later file, or its header does not begin in front of that of
an earlier one (`TerraLint.Project.backendBlocks_pairwise`). A header begins with the first
token of content behind the first byte of its block, and the first bytes are in order because
the structures of a document are.

Two modules that agree up to a backend list the same backends up to that one
(`TerraLint.Module.AgreeUpTo.exists_append`), so the first is the same, whatever comes later.
-/

namespace TerraLint

/-! ### The backends of a module -/

namespace Module

/-- The backends in a top-level block: the `backend` blocks directly in a `terraform` block. -/
def backendsIn (block : Block) : List Block :=
  if block.type = "terraform" then block.blocks.filter fun b => b.type == "backend" else []

/-- **All the backends of a module**, file by file, block by block. -/
def backendBlocks (bodies : List (String × Body)) : List Block :=
  bodies.flatMap fun (_, body) => body.blocks.flatMap backendsIn

theorem mem_backendsIn {block b : Block} :
    b ∈ backendsIn block ↔ block.type = "terraform" ∧ b ∈ block.blocks ∧ b.type = "backend" := by
  unfold backendsIn
  split <;> simp_all

theorem mem_backendBlocks {bodies : List (String × Body)} {b : Block} :
    b ∈ backendBlocks bodies ↔
      ∃ entry ∈ bodies, ∃ block ∈ entry.2.blocks, b ∈ backendsIn block := by
  simp only [backendBlocks, List.mem_flatMap]

theorem backendBlocks_append (bodies bodies' : List (String × Body)) :
    backendBlocks (bodies ++ bodies') = backendBlocks bodies ++ backendBlocks bodies' :=
  List.flatMap_append

theorem blockBackend?_eq (block : Block) :
    blockBackend? block = (backendsIn block).head?.map fun b => ⟨b.labels.headD "", b.header⟩ := by
  unfold blockBackend? backendsIn
  split
  · rw [List.head?_filter]
  · rfl

/-- **The first backend counts.** -/
theorem ofBodies_backend (bodies : List (String × Body)) :
    (ofBodies bodies).backend =
      (backendBlocks bodies).head?.map fun b => ⟨b.labels.headD "", b.header⟩ := by
  simp only [ofBodies, backendBlocks, List.head?_flatMap, List.map_findSome?,
    funext blockBackend?_eq, Function.comp_def]

/-- **Two modules agree up to a block** of a `terraform` block: the files in front of it, the blocks
in front of it in its file and in its own block are the same. What comes later, and all
attributes, may be anything. -/
inductive AgreeUpTo (b : Block) : List (String × Body) → List (String × Body) → Prop
  | intro {front back back' : List (String × Body)} {file : String} {body body' : Body}
      {above below below' : List Block} {outer outer' : Block} {nested later later' : List Block} :
      body.blocks = above ++ outer :: below → body'.blocks = above ++ outer' :: below' →
      outer.type = "terraform" → outer'.type = "terraform" →
      outer.blocks = nested ++ b :: later → outer'.blocks = nested ++ b :: later' →
      AgreeUpTo b (front ++ (file, body) :: back) (front ++ (file, body') :: back')

/-- The backends up to one in a body. -/
theorem backendBlocks_eq_append {front back : List (String × Body)} {file : String} {body : Body}
    {above below : List Block} {outer b : Block} {nested later : List Block}
    (hb : b.type = "backend") (hbody : body.blocks = above ++ outer :: below)
    (htype : outer.type = "terraform") (houter : outer.blocks = nested ++ b :: later) :
    ∃ others, backendBlocks (front ++ (file, body) :: back) =
      (backendBlocks front ++ above.flatMap backendsIn ++
        nested.filter fun b => b.type == "backend") ++ b :: others := by
  have hinside : backendsIn outer = (nested.filter fun b => b.type == "backend") ++
      b :: later.filter fun b => b.type == "backend" := by
    rw [backendsIn, if_pos htype, houter, List.filter_append, List.filter_cons_of_pos (by simpa)]
  refine ⟨(later.filter fun b => b.type == "backend") ++ (below.flatMap backendsIn ++
    backendBlocks back), ?_⟩
  rw [backendBlocks_append]
  simp only [backendBlocks, List.flatMap_cons, hbody, List.flatMap_append, hinside,
    List.append_assoc, List.cons_append]

/-- **Modules that agree up to a backend** have the same backends in front of it. -/
theorem AgreeUpTo.exists_append {b : Block} {bodies bodies' : List (String × Body)}
    (h : AgreeUpTo b bodies bodies') (hb : b.type = "backend") :
    ∃ before others others', backendBlocks bodies = before ++ b :: others ∧
      backendBlocks bodies' = before ++ b :: others' := by
  obtain ⟨hbody, hbody', htype, htype', houter, houter'⟩ := h
  obtain ⟨others, heq⟩ := backendBlocks_eq_append hb hbody htype houter
  obtain ⟨others', heq'⟩ := backendBlocks_eq_append hb hbody' htype' houter'
  exact ⟨_, others, others', heq, heq'⟩

end Module

/-! ### The order in a file -/

/-- One header stands in a file in front of another, or not behind it in the same file. -/
def Block.WrittenBefore (a b : Block) : Prop :=
  a.header.file < b.header.file ∨
    a.header.file = b.header.file ∧ a.header.start.byte ≤ b.header.start.byte

/-- The structure is a block. -/
def Structure.isBlock : Structure → Bool
  | .attribute .. => false
  | .block .. => true

theorem pairwise_of_forall₂ {α β : Type} {R : α → β → Prop} {S : α → α → Prop}
    {T : β → β → Prop} {xs : List α} {ys : List β} (h : List.Forall₂ R xs ys)
    (hxs : xs.Pairwise S) (hT : ∀ x y x' y', R x y → R x' y' → S x x' → T y y') :
    ys.Pairwise T := by
  induction h with
  | nil => exact .nil
  | cons hhead htail ih =>
    obtain ⟨hfirst, hrest⟩ := List.pairwise_cons.mp hxs
    refine List.pairwise_cons.mpr ⟨fun y hy => ?_, ih hrest⟩
    obtain ⟨x, hx, hxy⟩ := exists_of_mem_right htail hy
    exact hT _ _ _ _ hhead hxy (hfirst x hx)

namespace Body

variable {tokens : List Token}

/-- What a block in place takes from a block of a document whose parts are in order. -/
inductive Headed (tokens : List Token) : Structure → Block → Prop
  | intro {b : Block} {type : String} {labels : List Label} {span : ByteSpan}
      {structures : List Structure} :
      (Structure.block type labels span structures).InOrder →
      header tokens labels span = .ok b.header → locate tokens structures = .ok b.body →
      Headed tokens (.block type labels span structures) b

/-- The blocks of a body come from the blocks of the document, one by one. -/
theorem forall₂_headed {structures : List Structure} {body : Body}
    (h : locate tokens structures = .ok body) (hinOrder : ∀ s ∈ structures, s.InOrder) :
    List.Forall₂ (Headed tokens) (structures.filter Structure.isBlock) body.blocks := by
  fun_induction locate tokens structures generalizing body with
  | case1 =>
    cases h
    exact .nil
  | case4 name span _ rest place hplace found hrest ih =>
    cases h
    have hblocks := ih hrest (List.forall_mem_cons.mp hinOrder).2
    exact hblocks
  | case9 type labels span structures rest place hplace head hheader inside hinside found hrest
      _ ih =>
    cases h
    obtain ⟨hblock, hinOrder⟩ := List.forall_mem_cons.mp hinOrder
    exact .cons (.intro hblock hheader hinside) (ih hrest hinOrder)
  | _ => simp at h

section InRow

variable (hrow : Token.InRow tokens)

include hrow

/-- Behind a later byte there is no earlier token. -/
theorem firstAt?_mono {s t : Token} {byte byte' : Nat} (hs : firstAt? tokens byte = some s)
    (ht : firstAt? tokens byte' = some t) (hle : byte ≤ byte') :
    s.span.start.byte ≤ t.span.start.byte := by
  have hmem := mem_of_firstAt? ht
  obtain ⟨hkind, hstop, -⟩ := of_firstAt? hrow ht
  have hstart := (of_firstAt? hrow hs).2.2 t hmem hkind (by omega)
  rwa [hrow.bytes_eq s (mem_of_firstAt? hs), hrow.bytes_eq t hmem] at hstart

/-- **A header begins with the first token of its block**, since no label stands in front of it. -/
theorem header_start {labels : List Label} {span : ByteSpan} {place : Span}
    (h : header tokens labels span = .ok place)
    (hlabels : ∀ l ∈ labels, span.start ≤ l.span.start) :
    ∃ t, firstAt? tokens span.start = some t ∧ place.start.byte = t.span.start.byte := by
  unfold header at h
  split at h
  · simp at h
  rename_i first hfirst
  refine ⟨first, hfirst, ?_⟩
  split at h
  · obtain rfl := Except.ok.inj h
    rw [Span.between_start_byte, min_self]
  · rename_i label hlabel
    split at h
    · simp at h
    rename_i last hlast
    obtain rfl := Except.ok.inj h
    have hle := firstAt?_mono hrow hfirst hlast (hlabels label (List.mem_of_getLast? hlabel))
    rw [Span.between_start_byte, min_eq_left hle]

/-- **Headers are in the order of the blocks of a document.** -/
theorem Headed.start_le {s s' : Structure} {b b' : Block} (h : Headed tokens s b)
    (h' : Headed tokens s' b') (hle : s.span.start ≤ s'.span.start) :
    b.header.start.byte ≤ b'.header.start.byte := by
  obtain ⟨_ | ⟨-, hlabels, -, -, -⟩, hheader, -⟩ := h
  obtain ⟨_ | ⟨-, hlabels', -, -, -⟩, hheader', -⟩ := h'
  obtain ⟨t, ht, hstart⟩ := header_start hrow hheader hlabels
  obtain ⟨t', ht', hstart'⟩ := header_start hrow hheader' hlabels'
  rw [hstart, hstart']
  exact firstAt?_mono hrow ht ht' hle

end InRow

/-- A block inside a block in place comes from a block inside that of the document. -/
theorem Headed.exists_inside {s : Structure} {b inner : Block} (h : Headed tokens s b)
    (hinner : inner ∈ b.blocks) : ∃ s', Headed tokens s' inner ∧ s'.span.Inside s.span := by
  obtain ⟨_ | ⟨-, -, hinside, hinOrder, -⟩, -, hlocate⟩ := h
  obtain ⟨s', hs', hheaded⟩ := exists_of_mem_right (forall₂_headed hlocate hinOrder) hinner
  exact ⟨s', hheaded, hinside s' (List.mem_filter.mp hs').1⟩

theorem Headed.start_le_stop {s : Structure} {b : Block} (h : Headed tokens s b) :
    s.span.start ≤ s.span.stop := by
  obtain ⟨_ | ⟨hle, -, -, -, -⟩, -, -⟩ := h
  exact hle

/-- The headers of the blocks of a body are in order. -/
theorem blocks_pairwise (hrow : Token.InRow tokens) {structures : List Structure} {body : Body}
    (h : locate tokens structures = .ok body) (hordered : Structure.Ordered structures)
    (hinOrder : ∀ s ∈ structures, s.InOrder) :
    body.blocks.Pairwise fun a b => a.header.start.byte ≤ b.header.start.byte := by
  refine pairwise_of_forall₂ (forall₂_headed h hinOrder) (hordered.filter _) ?_
  intro s b s' b' hs hs' hle
  exact hs.start_le hrow hs' (hs.start_le_stop.trans hle)

/-- **The backends of a body are in order**: those of one block are, and those of a later block
stand behind it. -/
theorem backends_pairwise (hrow : Token.InRow tokens) {structures : List Structure} {body : Body}
    (h : locate tokens structures = .ok body) (hordered : Structure.Ordered structures)
    (hinOrder : ∀ s ∈ structures, s.InOrder) :
    (body.blocks.flatMap Module.backendsIn).Pairwise fun a b =>
      a.header.start.byte ≤ b.header.start.byte := by
  have hheaded := forall₂_headed h hinOrder
  refine List.pairwise_flatMap.mpr ⟨fun block hblock => ?_, ?_⟩
  · obtain ⟨s, -, ⟨_ | ⟨-, -, -, hinOrder, hordered⟩, -, hlocate⟩⟩ :=
      exists_of_mem_right hheaded hblock
    have hinside := blocks_pairwise hrow hlocate hordered hinOrder
    unfold Module.backendsIn
    split
    · exact hinside.filter _
    · exact .nil
  · refine pairwise_of_forall₂ hheaded (hordered.filter _) ?_
    intro s block s' block' hs hs' hle a ha b hb
    obtain ⟨t, ht, hinside⟩ := hs.exists_inside (Module.mem_backendsIn.mp ha).2.1
    obtain ⟨t', ht', hinside'⟩ := hs'.exists_inside (Module.mem_backendsIn.mp hb).2.1
    refine ht.start_le hrow ht' ?_
    calc
      t.span.start ≤ t.span.stop := ht.start_le_stop
      _ ≤ s.span.stop := hinside.2
      _ ≤ s'.span.start := hle
      _ ≤ t'.span.start := hinside'.1

end Body

/-! ### The order in a module -/

namespace Project

variable {p : Project}

/-- Bodies come from the files, one by one. -/
theorem bodies_forall₂ {files : List SourceFile} {found : List (String × Body)}
    (h : p.bodies files = .ok found) :
    List.Forall₂ (fun f entry => f.name = entry.1 ∧ p.bodyOf f = .ok entry.2) files found := by
  induction files generalizing found with
  | nil =>
    cases h
    exact .nil
  | cons f files ih =>
    obtain ⟨body, hbody, hrest⟩ := bind_eq_ok h
    obtain ⟨rest, htail, hfound⟩ := bind_eq_ok hrest
    cases hfound
    exact .cons ⟨rfl, hbody⟩ (ih htail)

theorem bodies_names {files : List SourceFile} {found : List (String × Body)}
    (h : p.bodies files = .ok found) : files.map SourceFile.name = found.map Prod.fst := by
  rw [← List.forall₂_eq_eq_eq, List.forall₂_map_left_iff, List.forall₂_map_right_iff]
  exact (bodies_forall₂ h).imp fun _ _ h => h.1

/-- A backend names the file in which it is written. -/
theorem file_of_mem_backends {f : SourceFile} {body : Body} (h : p.bodyOf f = .ok body) {b : Block}
    (hb : b ∈ body.blocks.flatMap Module.backendsIn) : b.header.file = f.name := by
  obtain ⟨block, hblock, hb⟩ := List.mem_flatMap.mp hb
  obtain ⟨-, -, -, hblocks⟩ := (bodyOf_within h).2 block hblock
  obtain ⟨hheader, -, -, -⟩ := hblocks b (Module.mem_backendsIn.mp hb).2.1
  exact hheader.file_eq

/-- **The backends of a module are listed as they are written.** -/
theorem backendBlocks_pairwise (hparse : p.parse = Document.read) {files : List SourceFile}
    (hfiles : files.Pairwise fun f g => f.name < g.name) {found : List (String × Body)}
    (h : p.bodies files = .ok found) :
    (Module.backendBlocks found).Pairwise Block.WrittenBefore := by
  have hforall := bodies_forall₂ h
  refine List.pairwise_flatMap.mpr ⟨fun entry hentry => ?_, ?_⟩
  · obtain ⟨f, -, -, hbody⟩ := exists_of_mem_right hforall hentry
    obtain ⟨tokens, structures, htokens, hstructures, hlocate⟩ := exists_locate_eq hbody
    obtain ⟨hordered, hinOrder⟩ := Document.inOrder_of_read?
      (Document.read_eq_ok_iff.mp (hparse ▸ hstructures))
    have hrow := Token.inRow_of_lex (mapError_eq_ok htokens)
    refine (Body.backends_pairwise hrow hlocate hordered hinOrder).imp_of_mem ?_
    intro a b ha hb hle
    exact .inr ⟨by rw [file_of_mem_backends hbody ha, file_of_mem_backends hbody hb], hle⟩
  · refine pairwise_of_forall₂ hforall hfiles ?_
    rintro f entry g entry' ⟨-, hf⟩ ⟨-, hg⟩ hlt a ha b hb
    left
    rwa [file_of_mem_backends hf ha, file_of_mem_backends hg hb]

/-- The bodies of some files and of further ones. -/
theorem exists_bodies_append {front back : List SourceFile} {found : List (String × Body)}
    (h : p.bodies (front ++ back) = .ok found) :
    ∃ before after, p.bodies front = .ok before ∧ p.bodies back = .ok after ∧
      found = before ++ after := by
  induction front generalizing found with
  | nil => exact ⟨[], found, rfl, h, rfl⟩
  | cons f front ih =>
    obtain ⟨body, hbody, hrest⟩ := bind_eq_ok h
    obtain ⟨rest, htail, hfound⟩ := bind_eq_ok hrest
    cases hfound
    obtain ⟨before, after, hbefore, hafter, rfl⟩ := ih htail
    refine ⟨(f.name, body) :: before, after, ?_, hafter, rfl⟩
    rw [bodies, hbody, hbefore]
    rfl

/-- **Files behind that of the first backend do not matter.** -/
theorem head?_backendBlocks {front back back' : List SourceFile} {f : SourceFile}
    {found found' : List (String × Body)} {first : Block} {others : List Block}
    (hfiles : (front ++ f :: back).Pairwise fun f g => f.name < g.name)
    (h : p.bodies ((front ++ f :: back).filter fun f => !f.isJson) = .ok found)
    (h' : p.bodies ((front ++ f :: back').filter fun f => !f.isJson) = .ok found')
    (hfirst : Module.backendBlocks found = first :: others) (hfile : f.name = first.header.file) :
    (Module.backendBlocks found').head? = some first := by
  rw [List.append_cons, List.filter_append] at h h'
  obtain ⟨before, after, hbefore, hafter, rfl⟩ := exists_bodies_append h
  obtain ⟨before', after', hbefore', -, rfl⟩ := exists_bodies_append h'
  obtain rfl : before' = before := Except.ok.inj (hbefore'.symm.trans hbefore)
  rw [Module.backendBlocks_append] at hfirst ⊢
  cases hlist : Module.backendBlocks before' with
  | nil =>
    -- the first backend would be in a later file
    rw [hlist, List.nil_append] at hfirst
    obtain ⟨entry, hentry, hmem⟩ := List.mem_flatMap.mp (hfirst ▸ List.mem_cons_self)
    obtain ⟨g, hg, -, hbody⟩ := exists_of_mem_right (bodies_forall₂ hafter) hentry
    have hlt := (List.pairwise_cons.mp (List.pairwise_append.mp hfiles).2.1).1 g
      (List.mem_filter.mp hg).1
    rw [hfile, ← file_of_mem_backends hbody hmem] at hlt
    exact absurd hlt (String.lt_irrefl _)
  | cons b rest =>
    rw [hlist, List.cons_append] at hfirst
    rw [List.cons_append, List.head?_cons, (List.cons.inj hfirst).1]

end Project

/-! ### The rule -/

namespace BackendType

/-- What the rule says of the first backend, if there is one. -/
theorem run_of_bodies {p : Project} {bodies : List (String × Body)}
    (h : p.bodies (p.files.filter fun f => !f.isJson) = .ok bodies) (types : List String) :
    (rule types).run none p = ((Module.backendBlocks bodies).head?.elim [] fun b =>
      if b.labels.headD "" ∈ types then []
      else [info.issue ⟨message types (b.labels.headD ""), b.header⟩], none) := by
  have hm : p.module = .ok (.ofBodies bodies) := by
    rw [Project.module, h]
    rfl
  rw [(finds types).run_unlimited, hm]
  simp only [Findings.ofExcept, search, Module.ofBodies_backend]
  cases (Module.backendBlocks bodies).head? with
  | none => rfl
  | some b =>
    simp only [Option.map_some, Option.elim_some, List.contains_iff_mem]
    split <;> rfl

/-- **The backend that is checked is the first one written.** In a module that is decoded the
backends are those of its bodies, files by name and blocks as they are written. Without a backend
nothing is reported; otherwise the module has the first one, and the rule reports it, at its
header, exactly where its type is not allowed. The report stays as it is whatever is
declared behind the first backend, and whatever files come behind its file. -/
theorem run_first {p : Project} {m : Module} (hm : p.module = .ok m) :
    ∃ bodies, p.bodies (p.files.filter fun f => !f.isJson) = .ok bodies ∧
      (bodies.map Prod.fst).Pairwise (· < ·) ∧
      (p.parse = Document.read → (Module.backendBlocks bodies).Pairwise Block.WrittenBefore) ∧
      (Module.backendBlocks bodies = [] ∧ m.backend = none ∧
          (∀ types, (rule types).run none p = ([], none)) ∨
        ∃ first others, Module.backendBlocks bodies = first :: others ∧
          m.backend = some ⟨first.labels.headD "", first.header⟩ ∧
          (∀ types, (rule types).run none p = (if first.labels.headD "" ∈ types then []
            else [info.issue ⟨message types (first.labels.headD ""), first.header⟩], none)) ∧
          (∀ (q : Project) bodies', q.bodies (q.files.filter fun f => !f.isJson) = .ok bodies' →
            Module.AgreeUpTo first bodies bodies' →
            ∀ types, (rule types).run none q = (rule types).run none p) ∧
          ∀ (q : Project) m', q.module = .ok m' → q.parse = p.parse →
            ∀ front f back back', p.files = front ++ f :: back → q.files = front ++ f :: back' →
              f.name = first.header.file →
              ∀ types, (rule types).run none q = (rule types).run none p) := by
  obtain ⟨bodies, hbodies, hm⟩ := bind_eq_ok hm
  cases hm
  have hordered := p.ordered.filter fun f => !f.isJson
  refine ⟨bodies, hbodies, ?_, fun hparse => ?_, ?_⟩
  · rw [← Project.bodies_names hbodies]
    exact List.pairwise_map.mpr hordered
  · exact Project.backendBlocks_pairwise hparse hordered hbodies
  have hrun := run_of_bodies hbodies
  rw [Module.ofBodies_backend]
  cases hlist : Module.backendBlocks bodies with
  | nil =>
    refine .inl ⟨rfl, rfl, fun types => ?_⟩
    rw [hrun, hlist]
    rfl
  | cons first others =>
    -- what is said of another module depends on its first backend
    have hsame : ∀ (q : Project) bodies',
        q.bodies (q.files.filter fun f => !f.isJson) = .ok bodies' →
        (Module.backendBlocks bodies').head? = some first →
        ∀ types, (rule types).run none q = (rule types).run none p := by
      intro q bodies' hbodies' hfirst types
      rw [run_of_bodies hbodies', hrun, hfirst, hlist, List.head?_cons]
    have htype : first.type = "backend" := by
      obtain ⟨_, -, _, -, hmem⟩ := Module.mem_backendBlocks.mp (hlist ▸ List.mem_cons_self)
      exact (Module.mem_backendsIn.mp hmem).2.2
    refine .inr ⟨first, others, rfl, rfl, fun types => ?_, ?_, ?_⟩
    · rw [hrun, hlist]
      rfl
    · intro q bodies' hbodies' hagree
      obtain ⟨before, behind, behind', heq, heq'⟩ := hagree.exists_append htype
      refine hsame q bodies' hbodies' ?_
      rw [hlist] at heq
      rw [heq']
      cases before with
      | nil => rfl
      | cons b before => rw [List.cons_append, List.head?_cons, (List.cons.inj heq).1]
    · intro q m' hm' hparse front f back back' hfiles hfiles' hfile
      obtain ⟨bodies', hbodies', -⟩ := bind_eq_ok hm'
      refine hsame q bodies' hbodies' ?_
      rw [hfiles] at hbodies
      rw [Project.bodies_congr hparse, hfiles'] at hbodies'
      exact Project.head?_backendBlocks (hfiles ▸ p.ordered) hbodies hbodies' hlist hfile

/-- A `terraform` block without a backend in front, and another backend in a later file. -/
theorem run_first_two_files :
    ∃ project : Project, project.files = [⟨"main.tf",
        "terraform \x7b\n\x7d\nterraform \x7b\n  backend \"local\" \x7b\n  \x7d\n\x7d\n"⟩,
      ⟨"other.tf", "terraform \x7b\n  backend \"s3\" \x7b\n  \x7d\n\x7d\n"⟩] ∧
      (∃ m, project.module = .ok m ∧
        m.backend = some ⟨"local", ⟨"main.tf", ⟨4, 3, 28⟩, ⟨4, 18, 43⟩⟩⟩) ∧
      ∀ types, (rule types).run none project = (if "local" ∈ types then []
        else [info.issue ⟨message types "local", ⟨"main.tf", ⟨4, 3, 28⟩, ⟨4, 18, 43⟩⟩⟩], none) := by
  obtain ⟨project, hproject⟩ : ∃ project : Project, project = .ofFiles []
      [("other.tf", "terraform \x7b\n  backend \"s3\" \x7b\n  \x7d\n\x7d\n"), ("main.tf",
        "terraform \x7b\n\x7d\nterraform \x7b\n  backend \"local\" \x7b\n  \x7d\n\x7d\n")] :=
    ⟨_, rfl⟩
  have hbackend : project.module.map Module.backend =
      .ok (some ⟨"local", ⟨"main.tf", ⟨4, 3, 28⟩, ⟨4, 18, 43⟩⟩⟩) := by
    rw [hproject]
    cbv
  obtain ⟨m, hm, hbackend⟩ := bind_eq_ok hbackend
  have hbackend := Except.ok.inj hbackend
  refine ⟨project, by rw [hproject]; decide +kernel, ⟨m, hm, hbackend⟩, ?_⟩
  obtain ⟨bodies, -, -, -, ⟨-, hnone, -⟩ | ⟨first, others, -, hfirst, hrun, -, -⟩⟩ := run_first hm
  · rw [hbackend] at hnone
    cases hnone
  · rw [hbackend] at hfirst
    obtain ⟨htype, hheader⟩ := Backend.mk.inj (Option.some.inj hfirst)
    rwa [← htype, ← hheader] at hrun

end BackendType

end TerraLint
