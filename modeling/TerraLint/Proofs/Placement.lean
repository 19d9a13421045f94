import TerraLint.Proofs.Decoding.Snapping
import TerraLint.Proofs.Findings
import TerraLint.Proofs.Gaps

/-!
# Issues are in their place

Whatever a rule of the linter reports, it reports at a place that exists
(`TerraLint.Rule.run_holds`): the span of an issue names a file of the project, its
ends lie between characters of that file, the first not behind the second, and
line, column and byte of each end are those of one and the same place.

## Where spans come from

* Tokens are lexemes in their place, so their spans are in order
  (`TerraLint.Project.holds_of_mem_tokens`).
* Every span of a body in place runs from one token to another
  (`TerraLint.Body.locate_within`). This is true of any structures, and any byte
  spans in them: it does not depend on who reads the shape of a document, which is
  why the theorem is about projects with any reader.
* The layout of files is checked by counting line feeds and bytes; the count is that
  of the last line's start (`TerraLint.FileContent.isIn_lastLineStart`).
-/

namespace TerraLint

open Lexeme Position

/-! ### Results that are there -/

theorem mapError_eq_ok {ε ε' α : Type} {x : Except ε α} {f : ε → ε'} {a : α}
    (h : x.mapError f = .ok a) : x = .ok a := by
  cases x with
  | error e => simp [Except.mapError] at h
  | ok b => simpa [Except.mapError] using h

theorem eq_ok_of_toOption {ε α : Type} {x : Except ε α} {a : α} (h : x.toOption = some a) :
    x = .ok a := by
  cases x with
  | error e => cases h
  | ok b => exact congrArg Except.ok (Option.some.inj h)

/-- A computation that gives a result has been through all of its steps. -/
theorem bind_eq_ok {ε α β : Type} {x : Except ε α} {f : α → Except ε β} {b : β}
    (h : x >>= f = .ok b) : ∃ a, x = .ok a ∧ f a = .ok b := by
  cases x with
  | error e => simp [bind, Except.bind] at h
  | ok a => exact ⟨a, rfl, h⟩

/-! ### Spans that a file holds -/

/-- **A span in its place**: it names the file, and its ends are places in the content of
the file, in order. -/
structure SourceFile.Holds (f : SourceFile) (s : Span) : Prop where
  file_eq : s.file = f.name
  le : s.start.byte ≤ s.stop.byte
  start_isIn : s.start.IsIn f.content.toList
  stop_isIn : s.stop.IsIn f.content.toList

/-- A span in its place in one of the files of a project. -/
def Project.Holds (p : Project) (s : Span) : Prop := ∃ f ∈ p.files, f.Holds s

theorem SourceFile.holds_point {f : SourceFile} {p : Position} (h : p.IsIn f.content.toList) :
    f.Holds (.point f.name p) :=
  ⟨rfl, le_rfl, h, h⟩

theorem SourceFile.Holds.between {f : SourceFile} {a b : Span} (ha : f.Holds a) (hb : f.Holds b) :
    f.Holds (a.between b) where
  file_eq := ha.file_eq
  le := by
    have hle := ha.le
    have hle' := hb.le
    simp only [Span.between]
    split_ifs <;> omega
  start_isIn := by
    simp only [Span.between]
    split_ifs
    · exact hb.start_isIn
    · exact ha.start_isIn
  stop_isIn := by
    simp only [Span.between]
    split_ifs
    · exact hb.stop_isIn
    · exact ha.stop_isIn

/-- **Tokens are in their place.** -/
theorem Project.holds_of_mem_tokens {f : SourceFile} {tokens : List Token}
    (h : Project.tokensOf f = .ok tokens) {t : Token} (ht : t ∈ tokens) : f.Holds t.span := by
  obtain ⟨hfile, hle, hstart, hstop⟩ := Token.isIn_of_mem_lex (mapError_eq_ok h) ht
  exact ⟨hfile, hle, hstart, hstop⟩

/-! ### Bodies -/

/-- The spans of a block have a property, and so have those of the blocks inside. -/
inductive Block.Within (P : Span → Prop) : Block → Prop
  | mk {b : Block} : P b.header → P b.span → (∀ a ∈ b.attributes, P a.span) →
      (∀ inner ∈ b.blocks, Block.Within P inner) → Block.Within P b

/-- The spans of a body have a property. -/
def Body.Within (P : Span → Prop) (b : Body) : Prop :=
  (∀ a ∈ b.attributes, P a.span) ∧ ∀ inner ∈ b.blocks, inner.Within P

/-- The spans of the declaration that a block makes are spans of the block. -/
theorem Block.Within.of_mem_spans {P : Span → Prop} {block : Block} (h : block.Within P)
    (file : String) : ∀ s ∈ (Declaration.ofBlock file block).spans, P s := by
  obtain ⟨hheader, hspan, hattributes, -⟩ := h
  simp only [Declaration.spans, Declaration.ofBlock, List.forall_mem_cons, List.forall_mem_map]
  exact ⟨hheader, hspan, hattributes⟩

namespace Body

section Locate

variable {tokens : List Token} {P : Span → Prop}
  (hP : ∀ s ∈ tokens, ∀ t ∈ tokens, P (s.span.between t.span))

include hP

theorem snap?_within {span : ByteSpan} {place : Span} (h : snap? tokens span = some place) :
    P place := by
  simp only [snap?, Option.bind_eq_bind, Option.bind_eq_some_iff] at h
  obtain ⟨first, hfirst, last, hlast, hplace⟩ := h
  obtain rfl : first.span.between last.span = place := by simpa using hplace
  exact hP _ (mem_of_firstAt? hfirst) _ (mem_of_lastBefore? hlast)

theorem header_within {labels : List Label} {span : ByteSpan} {place : Span}
    (h : header tokens labels span = .ok place) : P place := by
  unfold header at h
  split at h
  · simp at h
  · rename_i first hfirst
    have hmem := mem_of_firstAt? hfirst
    split at h
    · cases h
      exact hP _ hmem _ hmem
    · split at h
      · simp at h
      · rename_i last hlast
        cases h
        exact hP _ hmem _ (mem_of_firstAt? hlast)

/-- **Every span of a body in place runs from one token to another**, whatever byte spans
the structures have. -/
theorem locate_within {structures : List Structure} {body : Body}
    (h : locate tokens structures = .ok body) : body.Within P := by
  fun_induction locate tokens structures generalizing body with
  | case1 =>
    cases h
    exact ⟨by simp, by simp⟩
  | case4 name span _ rest place hplace found _ ih =>
    cases h
    obtain ⟨hattributes, hblocks⟩ := ih ‹_›
    exact ⟨List.forall_mem_cons.mpr ⟨snap?_within hP hplace, hattributes⟩, hblocks⟩
  | case9 type labels span structures rest place hplace place' hheader inside _ found _ ih ih' =>
    cases h
    obtain ⟨hattributes, hblocks⟩ := ih' ‹_›
    obtain ⟨hinside, hinner⟩ := ih ‹_›
    refine ⟨hattributes, List.forall_mem_cons.mpr ⟨.mk ?_ ?_ hinside hinner, hblocks⟩⟩
    · exact header_within hP hheader
    · exact snap?_within hP hplace
  | _ => simp at h

end Locate

end Body

/-! ### Modules -/

namespace Project

variable {p : Project}

/-- A body is what the structures of a file become in place. -/
theorem exists_locate_eq {f : SourceFile} {body : Body} (h : p.bodyOf f = .ok body) :
    ∃ tokens structures, tokensOf f = .ok tokens ∧ p.parse f.content = .ok structures ∧
      Body.locate tokens structures = .ok body := by
  obtain ⟨tokens, htokens, hbody⟩ := bind_eq_ok h
  have hread := mapError_eq_ok hbody
  simp only [Body.readWith] at hread
  split at hread
  · simp at hread
  · rename_i structures hstructures
    exact ⟨tokens, structures, htokens, hstructures, mapError_eq_ok hread⟩

theorem bodyOf_within {f : SourceFile} {body : Body} (h : p.bodyOf f = .ok body) :
    body.Within f.Holds := by
  obtain ⟨tokens, structures, htokens, -, hlocate⟩ := exists_locate_eq h
  refine Body.locate_within (fun s hs t ht => ?_) hlocate
  exact (holds_of_mem_tokens htokens hs).between (holds_of_mem_tokens htokens ht)

/-- The bodies of files depend on what reads their shape. -/
theorem bodies_congr {q : Project} (h : p.parse = q.parse) (files : List SourceFile) :
    p.bodies files = q.bodies files := by
  induction files with
  | nil => rfl
  | cons f files ih => rw [bodies, bodies, ih, bodyOf, bodyOf, h]

theorem bodies_within {files : List SourceFile} {found : List (String × Body)}
    (h : p.bodies files = .ok found) :
    ∀ entry ∈ found, ∃ f ∈ files, entry.2.Within f.Holds := by
  induction files generalizing found with
  | nil =>
    cases h
    simp
  | cons f files ih =>
    obtain ⟨body, hbody, hrest⟩ := bind_eq_ok h
    obtain ⟨rest, htail, hfound⟩ := bind_eq_ok hrest
    cases hfound
    refine List.forall_mem_cons.mpr ⟨⟨f, List.mem_cons_self, bodyOf_within hbody⟩, ?_⟩
    intro entry hentry
    obtain ⟨f', hf', hwithin⟩ := ih htail entry hentry
    exact ⟨f', List.mem_cons_of_mem _ hf', hwithin⟩

/-- The header of a backend is that of a block inside. -/
theorem within_of_blockBackend? {P : Span → Prop} {block : Block} {b : Backend}
    (hwithin : block.Within P) (h : Module.blockBackend? block = some b) : P b.header := by
  unfold Module.blockBackend? at h
  split at h
  · obtain ⟨inner, hinner, rfl⟩ := Option.map_eq_some_iff.mp h
    obtain ⟨-, -, -, hblocks⟩ := hwithin
    obtain ⟨hheader, -, -, -⟩ := hblocks inner (List.mem_of_find?_eq_some hinner)
    exact hheader
  · simp at h

/-- **The spans of a module are in their place.** -/
theorem module_holds {m : Module} (h : p.module = .ok m) :
    (∀ d ∈ m.declarations, ∀ s ∈ d.spans, p.Holds s) ∧ ∀ b, m.backend = some b → p.Holds b.header := by
  obtain ⟨found, hfound, hm⟩ := bind_eq_ok h
  cases hm
  have hheld : ∀ entry ∈ found, ∃ f ∈ p.files, entry.2.Within f.Holds := by
    intro entry hentry
    obtain ⟨f, hf, hwithin⟩ := bodies_within hfound entry hentry
    exact ⟨f, (List.mem_filter.mp hf).1, hwithin⟩
  constructor
  · intro d hd
    obtain ⟨entry, hentry, hd⟩ := List.mem_flatMap.mp hd
    obtain ⟨block, hblock, rfl⟩ := List.mem_map.mp hd
    obtain ⟨f, hf, -, hblocks⟩ := hheld entry hentry
    intro s hs
    exact ⟨f, hf, (hblocks block hblock).of_mem_spans f.name s hs⟩
  · intro b hb
    obtain ⟨entry, hentry, hb⟩ := List.exists_of_findSome?_eq_some hb
    obtain ⟨block, hblock, hb⟩ := List.exists_of_findSome?_eq_some hb
    obtain ⟨f, hf, -, hblocks⟩ := hheld entry hentry
    exact ⟨f, hf, within_of_blockBackend? (hblocks block hblock) hb⟩

end Project

namespace FileContent

/-- The start of the last line, found by counting all line feeds, is a place in the
text: none of the line feeds stands behind it. -/
theorem isIn_lastLineStart (text : List Char) : Position.IsIn text (lastLineStart text) := by
  set lastLine := text.reverse.takeWhile (· != '\n') with hlast
  set before := (text.reverse.dropWhile (· != '\n')).reverse with hbefore
  have hsplit : text = before ++ lastLine.reverse := by
    rw [hbefore, ← List.reverse_append, hlast, List.takeWhile_append_dropWhile,
      List.reverse_reverse]
  have hnone : lastLine.reverse.count '\n' = 0 := by
    refine List.count_eq_zero.mpr fun hmem => ?_
    have := List.mem_takeWhile_imp (List.mem_reverse.mp hmem)
    simp at this
  have hwhole : Position.WholeLines before := by
    rcases hdrop : text.reverse.dropWhile (· != '\n') with _ | ⟨c, rest⟩
    · left
      rw [hbefore, hdrop, List.reverse_nil]
    · right
      have hc := List.head_dropWhile_not (· != '\n') (l := text.reverse) (by simp [hdrop])
      simp only [hdrop, List.head_cons] at hc
      rw [hbefore, hdrop, List.reverse_cons, List.getLast?_append]
      simpa using hc
  have htake : text.take (text.length - lastLine.length) = before := by
    conv_lhs => rw [hsplit]
    simp
  refine ⟨before, lastLine.reverse, hsplit, ?_⟩
  have hline : text.count '\n' = before.count '\n' := by
    conv_lhs => rw [hsplit]
    rw [List.count_append, hnone, Nat.add_zero]
  simp only [lastLineStart, ← hlast, htake, Position.behind, hline, hwhole.lastLine_eq]
  simp [Nat.add_comm]


end FileContent

/-! ### Findings -/

/-- Every finding has a property. -/
def Findings.All (P : Finding → Prop) (f : Findings) : Prop := ∀ finding ∈ f.found, P finding

namespace Findings

variable {P : Finding → Prop} {α : Type}

theorem all_empty : All P {} := by
  intro finding hfinding
  simp at hfinding

theorem All.andThen {a b : Findings} (ha : All P a) (hb : All P b) : All P (a.andThen b) := by
  intro finding hfinding
  unfold Findings.andThen at hfinding
  split at hfinding
  · exact ha finding hfinding
  · exact (List.mem_append.mp hfinding).elim (ha finding) (hb finding)

theorem all_forEach {items : List α} {search : α → Findings}
    (h : ∀ item ∈ items, All P (search item)) : All P (forEach items search) := by
  induction items with
  | nil => exact all_empty
  | cons item items ih =>
    rw [List.forall_mem_cons] at h
    exact h.1.andThen (ih h.2)

theorem all_ofExcept {value : Except CheckError α} {search : α → Findings}
    (h : ∀ a, value = .ok a → All P (search a)) : All P (ofExcept value search) := by
  cases value with
  | error cause =>
    intro finding hfinding
    simp [ofExcept, stop] at hfinding
  | ok a => exact h a rfl

end Findings

/-! ### The rules -/

/-- The rules made from settings are rules of the linter. -/
theorem Builtin.isRule_of_mem_rules {settings : Settings} {rules : List Rule}
    (h : Builtin.rules settings = .ok rules) : ∀ rule ∈ rules, IsRule rule := by
  obtain ⟨pattern, -, h⟩ := bind_eq_ok h
  obtain ⟨layout, -, h⟩ := bind_eq_ok h
  obtain ⟨types, -, h⟩ := bind_eq_ok h
  cases h
  simp only [List.forall_mem_cons]
  exact ⟨.comments, .fileContent, .resourceName pattern, .moduleStructure layout,
    .backendType types, .metaArguments, .lowercaseName, by simp⟩

section Rules

variable {p : Project}

/-- A finding in its place. -/
def Project.HoldsFinding (p : Project) (finding : Finding) : Prop := p.Holds finding.span

/-- What is found in the comments of a file is in that file. -/
theorem Comments.searchFile_holds (f : SourceFile) :
    (Comments.searchFile f).All fun finding => f.Holds finding.span := by
  unfold Comments.searchFile
  split
  · exact Findings.all_empty
  · refine Findings.all_ofExcept fun tokens htokens finding hfinding => ?_
    obtain ⟨t, ht, hfinding⟩ := List.mem_flatMap.mp hfinding
    split at hfinding
    · obtain rfl := List.mem_singleton.mp hfinding
      exact Project.holds_of_mem_tokens htokens ht
    · simp at hfinding

/-- What is found in the layout of a file is in that file. -/
theorem FileContent.searchFile_holds (f : SourceFile) :
    (FileContent.searchFile f).All fun finding => f.Holds finding.span := by
  refine Findings.All.andThen (fun finding hfinding => ?_) ?_
  · rcases List.mem_append.mp hfinding with hfinding | hfinding
    · simp only [FileContent.firstLine] at hfinding
      split at hfinding
      · obtain rfl := List.mem_singleton.mp hfinding
        exact SourceFile.holds_point (isIn_start _)
      · simp at hfinding
    · simp only [FileContent.lastLine] at hfinding
      split at hfinding
      · simp at hfinding
      · obtain rfl := List.mem_singleton.mp hfinding
        exact SourceFile.holds_point (FileContent.isIn_lastLineStart _)
  · unfold FileContent.blocks
    split
    · exact Findings.all_empty
    · refine Findings.all_ofExcept fun tokens htokens finding hfinding => ?_
      obtain ⟨t, ht, rfl⟩ := List.mem_map.mp hfinding
      exact Project.holds_of_mem_tokens htokens ((Spacing.violationsFrom_sublist _ _).subset ht)

/-- What is found in each file is found in the project. -/
theorem Project.forEach_holds {search : SourceFile → Findings}
    (h : ∀ f, (search f).All fun finding => f.Holds finding.span) :
    (Findings.forEach p.files search).All p.HoldsFinding :=
  Findings.all_forEach fun f hf finding hfinding => ⟨f, hf, h f finding hfinding⟩

theorem BackendType.search_holds (types : List String) :
    (Findings.ofExcept p.module fun m => { found := BackendType.search types m }).All
      p.HoldsFinding := by
  refine Findings.all_ofExcept fun m hm finding hfinding => ?_
  unfold BackendType.search at hfinding
  split at hfinding
  · rename_i backend hbackend
    split at hfinding
    · simp at hfinding
    · obtain rfl := List.mem_singleton.mp hfinding
      exact (Project.module_holds hm).2 backend hbackend
  · simp at hfinding

/-- A search behind a rule, all of whose findings are in their place. -/
def Rule.FindsHeld (rule : Rule) (p : Project) : Prop :=
  ∃ search, rule.Finds search ∧ (search p).All p.HoldsFinding

theorem Rule.Sweeps.findsHeld {rule : Rule} (h : rule.Sweeps) : rule.FindsHeld p := by
  obtain ⟨judgements, hfinds, hspan⟩ := h
  refine ⟨_, hfinds, Findings.all_ofExcept fun m hm finding hfinding => ?_⟩
  obtain ⟨judge, hjudge, hfinding⟩ := List.mem_flatMap.mp hfinding
  obtain ⟨d, hd, hfinding⟩ := List.mem_flatMap.mp hfinding
  exact (Project.module_holds hm).1 d hd _ (hspan judge hjudge d finding hfinding)

theorem Builtin.IsRule.findsHeld {rule : Rule} (h : IsRule rule) : rule.FindsHeld p := by
  rcases h.sweeps_or with hsweeps | ⟨types, rfl⟩ | rfl | rfl
  · exact hsweeps.findsHeld
  · exact ⟨_, BackendType.finds types, BackendType.search_holds types⟩
  · exact ⟨_, Comments.finds, Project.forEach_holds Comments.searchFile_holds⟩
  · exact ⟨_, FileContent.finds, Project.forEach_holds FileContent.searchFile_holds⟩

end Rules

/-- **Issues are in their place.** Whatever the files of a project, whoever reads their shape,
whichever the rule and its options, and however many issues are let through: the span of an
issue is one of a file of the project, with both ends where they say they are. -/
theorem Rule.run_holds (project : Project) {rule : Rule} (hrule : Builtin.IsRule rule)
    (limit : Option Nat) {issue : Issue} (h : issue ∈ (rule.run limit project).1) :
    project.Holds issue.span := by
  obtain ⟨search, hfinds, hall⟩ := hrule.findsHeld (p := project)
  obtain ⟨finding, hfinding, rfl⟩ := hfinds.exists_finding h
  exact hall finding hfinding

/-- A variable with a name of two bytes, on the second line of a file that is not for
variables: the header is reported, from the type to the name. -/
theorem Rule.run_holds_variable :
    let project := Project.ofFiles [] [("main.tf", "\nvariable \"é\" \x7b\x7d\r\n")]
    let issue : Issue := ⟨"tfstyle_module_structure", .error,
      "variable \"é\" should be moved from main.tf to variables.tf file",
      ⟨"main.tf", ⟨2, 1, 1⟩, ⟨2, 13, 14⟩⟩, none⟩
    issue ∈ ((ModuleStructure.rule .default).run (some 1) project).1 ∧ project.Holds issue.span := by
  intro project issue
  have hrun : ((ModuleStructure.rule .default).run (some 1) project).1 = [issue] := by cbv
  have hmem : issue ∈ ((ModuleStructure.rule .default).run (some 1) project).1 := by
    rw [hrun]
    exact List.mem_singleton_self issue
  exact ⟨hmem, Rule.run_holds project (.moduleStructure .default) (some 1) hmem⟩

end TerraLint
