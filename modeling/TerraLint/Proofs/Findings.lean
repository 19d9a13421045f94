import Mathlib
import TerraLint.Builtin

/-!
# What a check finds

A check talks to a collector while it goes on, and what it does next may depend on
the answer. The rules of the linter make little use of that: each of them has a list
of findings and an ending that it would come to if nothing were refused
(`TerraLint.Findings`), and its check reports these findings one by one and then
ends that way (`TerraLint.Rule.Finds`). A refusal ends the check at once, and with
the cause that the collector gives.

## The searches behind the rules

* The comments and the layout of files are looked at file by file.
* Three rules sweep over the declarations of the module once, and one does it twice
  (`TerraLint.Findings.sweep`). What a sweep finds in a declaration is a function of
  the declaration, and it points at a span of it.
* The backend is looked at by itself.

That a rule's check does what its search says is proved rule by rule, along the
structure of the check. What a collector then holds in the end is said once, for all
searches (`TerraLint.Findings.collect_report_unlimited`,
`TerraLint.Findings.collect_report_limited`). The law on limits follows
(`TerraLint.Rule.run_limit`): a limit cuts off the issues of a run and changes nothing
else.
-/

namespace TerraLint

/-! ### Loops -/

section Loops

variable {m : Type → Type} [Monad m] [LawfulMonad m] {α β : Type}

theorem forM_flatMap (l : List α) (g : α → List β) (f : β → m PUnit) :
    forM (l.flatMap g) f = forM l fun a => forM (g a) f := by
  induction l with
  | nil => rfl
  | cons a l ih => simp [ih]

omit [LawfulMonad m] in
theorem forM_congr {l : List α} {f g : α → m PUnit} (h : ∀ a ∈ l, f a = g a) :
    forM l f = forM l g := by
  induction l with
  | nil => rfl
  | cons a l ih =>
    rw [List.forall_mem_cons] at h
    rw [List.forM_cons, List.forM_cons, h.1, ih h.2]

end Loops

/-! ### Collectors -/

theorem Collector.emit_of_room {n : Nat} {held : List Issue} (h : held.length < n) (issue : Issue) :
    (⟨some n, held⟩ : Collector).emit issue = (.ok (), ⟨some n, held ++ [issue]⟩) := by
  simp only [Collector.emit, Collector.refusal?, Nat.not_le.mpr h, if_false]

/-- A collector that has reached its limit refuses an issue, and stays as it is. -/
theorem Collector.emit_of_full {n : Nat} {held : List Issue} (h : n ≤ held.length) (issue : Issue) :
    (⟨some n, held⟩ : Collector).emit issue = (.error (.issueLimit n), ⟨some n, held⟩) := by
  simp only [Collector.emit, Collector.refusal?, h, if_true]

/-! ### Searches -/

/-- The findings of a search, and why it stopped early, if it did. -/
structure Findings where
  found : List Finding := []
  stopped : Option CheckError := none
  deriving DecidableEq, Repr

namespace Findings

/-- A search that stops before it finds anything. -/
def stop (cause : CheckError) : Findings := ⟨[], some cause⟩

/-- One search after the other, unless the first one stops. -/
def andThen (a b : Findings) : Findings :=
  match a.stopped with
  | some _ => a
  | none => ⟨a.found ++ b.found, b.stopped⟩

/-- A search in each of a list of things, in order, up to the first that stops. -/
def forEach {α : Type} (items : List α) (search : α → Findings) : Findings :=
  items.foldr (fun item rest => (search item).andThen rest) {}

/-- A search in something that may be missing. -/
def ofExcept {α : Type} (value : Except CheckError α) (search : α → Findings) : Findings :=
  match value with
  | .ok a => search a
  | .error cause => stop cause

/-- A search in the declarations of a module, once with each of a list of judgements. -/
def sweep (judgements : List (Declaration → List Finding)) (p : Project) : Findings :=
  .ofExcept p.module fun m =>
    { found := judgements.flatMap fun judge => m.declarations.flatMap judge }

theorem andThen_of_none {a b : Findings} (h : a.stopped = none) :
    a.andThen b = ⟨a.found ++ b.found, b.stopped⟩ := by
  simp only [andThen, h]

theorem andThen_of_some {a b : Findings} {cause : CheckError} (h : a.stopped = some cause) :
    a.andThen b = a := by
  simp only [andThen, h]

theorem forEach_cons {α : Type} {search : α → Findings} (item : α) (items : List α) :
    forEach (item :: items) search = (search item).andThen (forEach items search) := rfl

theorem forEach_singleton {α : Type} {search : α → Findings} (item : α) :
    forEach [item] search = search item := by
  rw [forEach_cons]
  cases h : (search item).stopped with
  | none =>
    rw [andThen_of_none h]
    change (⟨(search item).found ++ [], none⟩ : Findings) = search item
    rw [List.append_nil, ← h]
  | some cause => rw [andThen_of_some h]

/-! ### Reporting findings -/

/-- The check that reports findings one after the other, and then ends as the search did. -/
def report (rule : RuleInfo) (f : Findings) : Check Unit := do
  f.found.forM rule.report
  f.stopped.forM throw

variable {rule : RuleInfo} {α : Type}

theorem report_found (found : List Finding) :
    report rule { found } = forM found rule.report := by
  simp [report]

theorem report_andThen (a b : Findings) :
    report rule (a.andThen b) = (do report rule a; report rule b) := by
  obtain ⟨found, _ | cause⟩ := a
  · simp [report, andThen, List.forM_append]
  · -- The first search ends with an error, and what follows an error is not run.
    simp only [report, andThen, bind_assoc]
    rfl

theorem report_forEach (items : List α) (search : α → Findings) :
    report rule (forEach items search) = forM items fun item => report rule (search item) := by
  induction items with
  | nil => rfl
  | cons item items ih =>
    rw [List.forM_cons, ← ih]
    exact report_andThen (search item) (forEach items search)

theorem report_ofExcept (value : Except CheckError α) (search : α → Findings) :
    report rule (ofExcept value search) = (do report rule (search (← value))) := by
  cases value <;> rfl

theorem report_sweep (judgements : List (Declaration → List Finding)) (p : Project) :
    report rule (sweep judgements p) = (do
      let m ← p.module
      forM judgements fun judge => forM m.declarations fun d => forM (judge d) rule.report) := by
  simp only [sweep, report_ofExcept, report_found, forM_flatMap]

/-! ### What a collector holds in the end -/

/-- Reporting an issue, the check goes on with what the collector makes of it. -/
theorem run_emit_bind (issue : Issue) (rest : Check Unit) (c : Collector) :
    (do Check.emit issue; rest : Check Unit).run.run c =
      match c.emit issue with
      | (.ok (), c) => rest.run.run c
      | (.error cause, c) => (.error cause, c) := by
  have hemit : (Check.emit issue).run.run c = c.emit issue := rfl
  simp only [ExceptT.run_bind, StateT.run_bind, hemit]
  rcases c.emit issue with ⟨_ | _, _⟩ <;> rfl

/-- Without a limit every issue is taken. -/
theorem run_emit_unlimited (issues held : List Issue) (rest : Check Unit) :
    (do forM issues Check.emit; rest : Check Unit).run.run ⟨none, held⟩ =
      rest.run.run ⟨none, held ++ issues⟩ := by
  induction issues generalizing held with
  | nil => simp
  | cons issue issues ih =>
    rw [List.forM_cons, bind_assoc, run_emit_bind]
    simpa [Collector.emit, Collector.refusal?] using ih (held ++ [issue])

/-- With a limit the issues are taken up to the limit, and the first one above it ends the
check. -/
theorem run_emit_limited (issues held : List Issue) (rest : Check Unit) {n : Nat}
    (h : held.length ≤ n) :
    (do forM issues Check.emit; rest : Check Unit).run.run ⟨some n, held⟩ =
      if n < (held ++ issues).length then
        (.error (.issueLimit n), ⟨some n, (held ++ issues).take n⟩)
      else rest.run.run ⟨some n, held ++ issues⟩ := by
  induction issues generalizing held with
  | nil => simp [Nat.not_lt.mpr h]
  | cons issue issues ih =>
    rw [List.forM_cons, bind_assoc, run_emit_bind]
    -- What is held stays within the limit: at the limit the next issue is refused, and what comes
    -- after it has no part in the result.
    rcases Nat.eq_or_lt_of_le h with rfl | hroom
    · rw [Collector.emit_of_full (Nat.le_refl _)]
      simp
    · rw [Collector.emit_of_room hroom]
      simpa [List.append_assoc] using ih (held ++ [issue]) (by simpa [Nat.succ_le_iff] using hroom)

theorem run_stopped (stopped : Option CheckError) (c : Collector) :
    (stopped.forM throw : Check Unit).run.run c =
      ((match stopped with | none => .ok () | some cause => .error cause), c) := by
  cases stopped <;> rfl

theorem report_eq (f : Findings) :
    report rule f = (do forM (f.found.map rule.issue) Check.emit; f.stopped.forM throw) := by
  simp only [report, List.forM_map]
  rfl

/-- Whoever refuses nothing gets all findings, and the search ends as it does by itself. -/
theorem collect_report_unlimited (f : Findings) :
    (report rule f).collect none = (f.found.map rule.issue, f.stopped) := by
  rw [report_eq, Check.collect, run_emit_unlimited, run_stopped]
  cases f.stopped <;> rfl

/-- **Findings under a limit.** The first ones are held; the check ends by itself if none is
above the limit. -/
theorem collect_report_limited (f : Findings) (n : Nat) :
    (report rule f).collect (some n) = ((f.found.map rule.issue).take n,
      if n < f.found.length then some (.issueLimit n) else f.stopped) := by
  rw [report_eq, Check.collect, run_emit_limited _ _ _ (Nat.zero_le n), run_stopped]
  simp only [List.nil_append, List.length_map]
  split_ifs with h
  · rfl
  · rw [List.take_of_length_le (by simpa using h)]
    cases f.stopped <;> rfl

end Findings

/-! ### Rules and their searches -/

namespace Rule

variable {rule : Rule}

/-- A rule does what a search says: its check reports the findings of the search. -/
def Finds (rule : Rule) (search : Project → Findings) : Prop :=
  ∀ p, rule.check p = (search p).report rule.toRuleInfo

theorem Finds.run_unlimited {search : Project → Findings} (h : rule.Finds search) (p : Project) :
    rule.run none p = ((search p).found.map rule.issue, (search p).stopped) := by
  rw [run, h p, Findings.collect_report_unlimited]

theorem Finds.run_limited {search : Project → Findings} (h : rule.Finds search) (n : Nat)
    (p : Project) :
    rule.run (some n) p = (((search p).found.map rule.issue).take n,
      if n < (search p).found.length then some (.issueLimit n) else (search p).stopped) := by
  rw [run, h p, Findings.collect_report_limited]

/-- **A rule is silent** on a project, whatever its limit, if its search finds nothing and does
not stop early. -/
theorem Finds.run_eq_nil_iff {search : Project → Findings} (h : rule.Finds search)
    (limit : Option Nat) (p : Project) :
    rule.run limit p = ([], none) ↔ (search p).found = [] ∧ (search p).stopped = none := by
  cases limit with
  | none => simp [h.run_unlimited]
  | some n =>
    rw [h.run_limited, Prod.mk.injEq]
    -- a limit cuts nothing off where it is not the limit that ends the run
    by_cases hlt : n < (search p).found.length
    · have hne : (search p).found ≠ [] := List.ne_nil_of_length_pos (by omega)
      simp [hlt, hne]
    · rw [List.take_of_length_le (by simpa using hlt)]
      simp [hlt]

/-- An issue of a run is a finding of the rule. -/
theorem Finds.exists_finding {search : Project → Findings} (h : rule.Finds search)
    {limit : Option Nat} {p : Project} {issue : Issue} (hissue : issue ∈ (rule.run limit p).1) :
    ∃ finding ∈ (search p).found, issue = rule.issue finding := by
  have hmem : issue ∈ (search p).found.map rule.issue := by
    cases limit with
    | none => simpa only [h.run_unlimited] using hissue
    | some n => exact List.mem_of_mem_take (by simpa only [h.run_limited] using hissue)
  obtain ⟨finding, hfinding, rfl⟩ := List.mem_map.mp hmem
  exact ⟨finding, hfinding, rfl⟩

end Rule

/-! ### Files -/

namespace Project

variable {p : Project} {f : SourceFile}

/-- The files in front of a file have smaller names, and those behind it larger ones. -/
theorem names_of_split {front after : List SourceFile} (h : p.files = front ++ f :: after) :
    (∀ g ∈ front, g.name < f.name) ∧ ∀ g ∈ after, f.name < g.name := by
  obtain ⟨-, hback, hacross⟩ := List.pairwise_append.mp (h ▸ p.ordered)
  exact ⟨fun g hg => hacross g hg f List.mem_cons_self, (List.pairwise_cons.mp hback).1⟩

/-- A name leads to its file. -/
theorem file_name (hf : f ∈ p.files) : p.file f.name = .ok f := by
  obtain ⟨front, after, hfiles⟩ := List.append_of_mem hf
  have hfind : p.files.find? (fun g => g.name == f.name) = some f := by
    refine List.find?_eq_some_iff_append.mpr ⟨beq_self_eq_true _, front, after, hfiles, ?_⟩
    intro g hg
    have hlt := (names_of_split hfiles).1 g hg
    simpa using fun heq => String.lt_irrefl _ (heq ▸ hlt)
  simp only [file, hfind]

theorem tokens_name (hf : f ∈ p.files) : p.tokens f.name = tokensOf f := by
  rw [tokens, file_name hf]
  rfl

theorem tokensOf_of_lex {tokens : List Token} (h : Token.lex f.name f.content = .ok tokens) :
    tokensOf f = .ok tokens := by
  rw [tokensOf, h]
  rfl

end Project

/-- A rule that goes from file to file, on a file by itself. -/
theorem Rule.Finds.run_single {rule : Rule} {search : SourceFile → Findings}
    (h : rule.Finds fun p => .forEach p.files search) (path : List String) (f : SourceFile) :
    rule.run none (.ofFiles path [(f.name, f.content)]) =
      ((search f).found.map rule.issue, (search f).stopped) := by
  have hfiles : (Project.ofFiles path [(f.name, f.content)]).files = [f] := rfl
  rw [h.run_unlimited, hfiles, Findings.forEach_singleton]

namespace Comments

/-- The comments of a file that are in the other notation. -/
def searchFile (file : SourceFile) : Findings :=
  if file.isJson then {}
  else .ofExcept (Project.tokensOf file) fun tokens =>
    { found := tokens.flatMap fun t =>
        if isHashComment file.content t then [⟨message, t.span⟩] else [] }

theorem checkFile_eq {p : Project} {f : SourceFile} (hf : f ∈ p.files) :
    checkFile p f = (searchFile f).report info := by
  unfold checkFile searchFile
  rw [Project.tokens_name hf]
  split
  · rfl
  · simp only [Findings.report_ofExcept, Findings.report_found, forM_flatMap]
    congr! 3 with tokens
    funext t
    split <;> simp

theorem finds : rule.Finds fun p => .forEach p.files searchFile := fun _ =>
  (forM_congr fun _ hf => checkFile_eq hf).trans (Findings.report_forEach _ _).symm

end Comments

namespace FileContent

/-- A blank first line of a file of more than one line. -/
def firstLine (file : SourceFile) : List Finding :=
  let text := file.content.toList
  if text.contains '\n' && (text.takeWhile (· != '\n')).all Text.isBlank then
    [⟨"File \"" ++ file.name ++ "\" starts with an empty line", .point file.name .start⟩]
  else []

/-- A last line that is not ended. -/
def lastLine (file : SourceFile) : List Finding :=
  let text := file.content.toList
  if text.isEmpty || text.getLast? == some '\n' then []
  else [⟨lastLineMessage, .point file.name (lastLineStart text)⟩]

/-- The blocks of a file without exactly one empty line in between. -/
def blocks (file : SourceFile) : Findings :=
  if file.isJson then {}
  else .ofExcept (Project.tokensOf file) fun tokens =>
    { found := (Spacing.violations tokens).map fun t => ⟨spacingMessage, t.span⟩ }

/-- What is wrong with the layout of a file. -/
def searchFile (file : SourceFile) : Findings :=
  .andThen { found := firstLine file ++ lastLine file } (blocks file)

theorem checkFirstLine_eq (f : SourceFile) : checkFirstLine f = forM (firstLine f) info.report := by
  simp only [checkFirstLine, firstLine]
  split <;> simp

theorem checkLastLine_eq (f : SourceFile) : checkLastLine f = forM (lastLine f) info.report := by
  simp only [checkLastLine, lastLine]
  split <;> simp

theorem checkFile_eq {p : Project} {f : SourceFile} (hf : f ∈ p.files) :
    checkFile p f = (searchFile f).report info := by
  have hblocks : (blocks f).report info = (unless f.isJson do
      (Spacing.violations (← Project.tokensOf f)).forM fun t =>
        info.report ⟨spacingMessage, t.span⟩) := by
    unfold blocks
    split
    · rfl
    · simp only [Findings.report_ofExcept, Findings.report_found, List.forM_map]
      rfl
  rw [searchFile, Findings.report_andThen, Findings.report_found, List.forM_append, hblocks,
    bind_assoc, ← checkFirstLine_eq, ← checkLastLine_eq, ← Project.tokens_name hf]
  rfl

theorem finds : rule.Finds fun p => .forEach p.files searchFile := fun _ =>
  (forM_congr fun _ hf => checkFile_eq hf).trans (Findings.report_forEach _ _).symm

end FileContent

/-! ### Sweeps over the declarations -/

namespace Declaration

/-- The spans of a declaration and of what stands directly in it. -/
def spans (d : Declaration) : List Span := d.header :: d.span :: d.attributes.map Attribute.span

/-- A judgement on resources, as one on declarations. -/
def ofResource (judge : Resource → List Finding) (d : Declaration) : List Finding :=
  d.resource?.toList.flatMap judge

theorem resource?_declaration {d : Declaration} {r : Resource} (h : d.resource? = some r) :
    r.declaration = d := by
  unfold resource? at h
  split at h
  · cases h
    rfl
  · simp at h

end Declaration

namespace Rule

variable {rule : Rule}

/-- A rule that sweeps over the declarations of a module, and points at spans of the
declaration that it judges. -/
def Sweeps (rule : Rule) : Prop :=
  ∃ judgements, rule.Finds (.sweep judgements) ∧
    ∀ judge ∈ judgements, ∀ d, ∀ finding ∈ judge d, finding.span ∈ d.spans

/-- A rule that looks at the resources of a module one by one sweeps over the declarations
once. -/
theorem finds_of_resources {check : Resource → Check Unit} (judge : Resource → List Finding)
    (h : ∀ p, rule.check p = do (← p.module).resources.forM check)
    (hcheck : ∀ r, check r = forM (judge r) rule.report) :
    rule.Finds (.sweep [Declaration.ofResource judge]) := by
  obtain rfl : check = fun r => forM (judge r) rule.report := funext hcheck
  intro p
  rw [h, Findings.report_sweep]
  congr! 2 with m
  simp [Module.resources, List.filterMap_eq_flatMap_toList, forM_flatMap, Declaration.ofResource]

theorem sweeps_of_resources {check : Resource → Check Unit} (judge : Resource → List Finding)
    (h : ∀ p, rule.check p = do (← p.module).resources.forM check)
    (hcheck : ∀ r, check r = forM (judge r) rule.report)
    (hspan : ∀ r, ∀ finding ∈ judge r, finding.span ∈ r.declaration.spans) : rule.Sweeps := by
  refine ⟨_, finds_of_resources judge h hcheck, ?_⟩
  intro judge' hjudge d finding hfinding
  obtain rfl := List.mem_singleton.mp hjudge
  obtain ⟨r, hr, hfinding⟩ := List.mem_flatMap.mp hfinding
  rw [← Declaration.resource?_declaration (Option.mem_toList.mp hr)]
  exact hspan r finding hfinding

end Rule

namespace ResourceName

/-- A resource whose name does not match. -/
def judge (pattern : NamePattern) (r : Resource) : List Finding :=
  if pattern.pattern.isMatch r.name then [] else [⟨message r, r.declaration.header⟩]

theorem check_eq (pattern : NamePattern) (r : Resource) :
    (unless pattern.pattern.isMatch r.name do info.report ⟨message r, r.declaration.header⟩) =
      forM (judge pattern r) (rule pattern).report := by
  unfold judge
  split <;> simp [*, rule]

theorem finds (pattern : NamePattern) :
    (rule pattern).Finds (.sweep [Declaration.ofResource (judge pattern)]) :=
  Rule.finds_of_resources (judge pattern) (fun _ => rfl) (check_eq pattern)

theorem sweeps (pattern : NamePattern) : (rule pattern).Sweeps := by
  refine Rule.sweeps_of_resources (judge pattern) (fun _ => rfl) (check_eq pattern) fun r => ?_
  unfold judge
  split <;> simp [Declaration.spans]

end ResourceName

namespace LowercaseName

/-- A resource whose name is not in lower case. -/
def judge (r : Resource) : List Finding :=
  if r.name == Text.lowercase r.name then [] else [⟨message r, r.declaration.header⟩]

theorem check_eq (r : Resource) :
    (unless r.name == Text.lowercase r.name do info.report ⟨message r, r.declaration.header⟩) =
      forM (judge r) rule.report := by
  unfold judge
  split <;> simp [*, rule]

theorem finds : rule.Finds (.sweep [Declaration.ofResource judge]) :=
  Rule.finds_of_resources judge (fun _ => rfl) check_eq

theorem sweeps : rule.Sweeps := by
  refine Rule.sweeps_of_resources judge (fun _ => rfl) check_eq fun r => ?_
  unfold judge
  split <;> simp [Declaration.spans]

end LowercaseName

namespace MetaArguments

/-- What is wrong with the place of a meta-argument. -/
def judgeArgument (resource : Declaration) (argument : Attribute) : List Finding :=
  if argument.span.start.line ≠ resource.header.stop.line + 1 then
    [⟨firstMessage, argument.span⟩]
  else
    match nextArgument? resource with
    | some next =>
      if next.span.start.line ≠ argument.span.stop.line + 2 then [⟨delimitedMessage, next.span⟩]
      else []
    | none => []

/-- What is wrong with the meta-arguments of a resource. -/
def judge (r : Resource) : List Finding :=
  (names.filterMap r.declaration.attribute?).flatMap (judgeArgument r.declaration)

theorem checkArgument_eq (resource : Declaration) (argument : Attribute) :
    checkArgument resource argument = forM (judgeArgument resource argument) info.report := by
  unfold checkArgument judgeArgument
  split
  · simp
  · cases nextArgument? resource with
    | none => rfl
    | some next =>
      dsimp only
      split <;> simp

theorem checkResource_eq (r : Resource) :
    checkResource r.declaration = forM (judge r) info.report := by
  simp only [judge, forM_flatMap, List.filterMap_eq_flatMap_toList]
  refine forM_congr fun name _ => ?_
  cases r.declaration.attribute? name with
  | none => rfl
  | some argument => simpa using checkArgument_eq r.declaration argument

/-- The earliest of some attributes is one of them. -/
theorem mem_of_earliest? {attributes : List Attribute} {a : Attribute}
    (h : earliest? attributes = some a) : a ∈ attributes := by
  induction attributes generalizing a with
  | nil => simp [earliest?] at h
  | cons b attributes ih =>
    unfold earliest? at h
    split at h
    · cases h
      exact List.mem_cons_self
    · rename_i c hc
      split at h
      · cases h
        exact List.mem_cons_of_mem _ (ih hc)
      · cases h
        exact List.mem_cons_self

/-- What is reported is the meta-argument, or the argument behind it. -/
theorem judge_span (r : Resource) {finding : Finding} (h : finding ∈ judge r) :
    finding.span ∈ r.declaration.spans := by
  have hattribute : ∀ a ∈ r.declaration.attributes, a.span ∈ r.declaration.spans := fun a ha =>
    List.mem_cons_of_mem _ (List.mem_cons_of_mem _ (List.mem_map_of_mem ha))
  obtain ⟨argument, hargument, h⟩ := List.mem_flatMap.mp h
  obtain ⟨name, -, hname⟩ := List.mem_filterMap.mp hargument
  unfold judgeArgument at h
  split at h
  · obtain rfl := List.mem_singleton.mp h
    exact hattribute argument (List.mem_of_find?_eq_some hname)
  · split at h
    · rename_i next hnext
      split at h
      · obtain rfl := List.mem_singleton.mp h
        exact hattribute next (List.mem_filter.mp (mem_of_earliest? hnext)).1
      · simp at h
    · simp at h

theorem finds : rule.Finds (.sweep [Declaration.ofResource judge]) :=
  Rule.finds_of_resources judge (fun _ => rfl) checkResource_eq

theorem sweeps : rule.Sweeps :=
  Rule.sweeps_of_resources judge (fun _ => rfl) checkResource_eq fun r _ => judge_span r

end MetaArguments

namespace ModuleStructure

/-- A declaration outside the file for its type. -/
def misplaced (layout : Layout) (d : Declaration) : List Finding :=
  match layout.fileOf? d.type with
  | some file =>
    if baseName d.file = file then []
    else
      [⟨subject d ++ " should be moved from " ++ d.file ++ " to " ++ sibling d.file file ++ " file",
        d.header⟩]
  | none => []

/-- A declaration in a file for another type. -/
def intruding (layout : Layout) (d : Declaration) : List Finding :=
  match layout.typeOf? (baseName d.file) with
  | some type =>
    if type = d.type then []
    else [⟨"There should be no blocks other than " ++ type ++ " in " ++ d.file ++ " file", d.span⟩]
  | none => []

theorem checkPlacement_eq (layout : Layout) (d : Declaration) :
    checkPlacement layout d = forM (misplaced layout d) info.report := by
  unfold checkPlacement misplaced
  cases layout.fileOf? d.type with
  | none => rfl
  | some file =>
    dsimp only
    split <;> simp

theorem checkDedicatedFile_eq (layout : Layout) (d : Declaration) :
    checkDedicatedFile layout d = forM (intruding layout d) info.report := by
  unfold checkDedicatedFile intruding
  cases layout.typeOf? (baseName d.file) with
  | none => rfl
  | some type =>
    dsimp only
    split <;> simp

theorem misplaced_span (layout : Layout) (d : Declaration) {finding : Finding}
    (h : finding ∈ misplaced layout d) : finding.span = d.header := by
  unfold misplaced at h
  split at h
  · split at h
    · simp at h
    · rw [List.mem_singleton.mp h]
  · simp at h

theorem intruding_span (layout : Layout) (d : Declaration) {finding : Finding}
    (h : finding ∈ intruding layout d) : finding.span = d.span := by
  unfold intruding at h
  split at h
  · split at h
    · simp at h
    · rw [List.mem_singleton.mp h]
  · simp at h

/-- The rule sweeps over the declarations twice. -/
theorem finds (layout : Layout) :
    (rule layout).Finds (.sweep [misplaced layout, intruding layout]) := by
  intro p
  rw [Findings.report_sweep]
  simp only [rule, funext (checkPlacement_eq layout), funext (checkDedicatedFile_eq layout)]
  simp

theorem sweeps (layout : Layout) : (rule layout).Sweeps := by
  refine ⟨_, finds layout, ?_⟩
  simp only [List.forall_mem_cons]
  refine ⟨fun d finding h => ?_, fun d finding h => ?_, by simp⟩
  · rw [misplaced_span layout d h]
    exact List.mem_cons_self
  · rw [intruding_span layout d h]
    exact List.mem_cons_of_mem _ List.mem_cons_self

end ModuleStructure

/-! ### The backend -/

namespace BackendType

/-- A backend of another type. -/
def search (types : List String) (m : Module) : List Finding :=
  match m.backend with
  | some backend =>
    if types.contains backend.type then [] else [⟨message types backend.type, backend.header⟩]
  | none => []

theorem finds (types : List String) :
    (rule types).Finds fun p => .ofExcept p.module fun m => { found := search types m } := by
  intro p
  rw [Findings.report_ofExcept]
  simp only [rule, Findings.report_found, search]
  congr! 2 with m
  cases m.backend with
  | none => rfl
  | some backend =>
    dsimp only
    split <;> simp

end BackendType

/-! ### All rules -/

namespace Builtin

/-- A rule of the linter, with any options. -/
inductive IsRule : Rule → Prop
  | comments : IsRule Comments.rule
  | fileContent : IsRule FileContent.rule
  | resourceName (pattern : ResourceName.NamePattern) : IsRule (ResourceName.rule pattern)
  | moduleStructure (layout : ModuleStructure.Layout) : IsRule (ModuleStructure.rule layout)
  | backendType (types : List String) : IsRule (BackendType.rule types)
  | metaArguments : IsRule MetaArguments.rule
  | lowercaseName : IsRule LowercaseName.rule

/-- The four shapes of a search: over the declarations, for the backend, and the two that go
from file to file. -/
theorem IsRule.sweeps_or {rule : Rule} (h : IsRule rule) :
    rule.Sweeps ∨ (∃ types, rule = BackendType.rule types) ∨
      rule = Comments.rule ∨ rule = FileContent.rule := by
  cases h with
  | comments => exact .inr (.inr (.inl rfl))
  | fileContent => exact .inr (.inr (.inr rfl))
  | resourceName pattern => exact .inl (ResourceName.sweeps pattern)
  | moduleStructure layout => exact .inl (ModuleStructure.sweeps layout)
  | backendType types => exact .inr (.inl ⟨types, rfl⟩)
  | metaArguments => exact .inl MetaArguments.sweeps
  | lowercaseName => exact .inl LowercaseName.sweeps

/-- **The rules of the linter do what a search says**, whoever collects their issues. -/
theorem IsRule.exists_finds {rule : Rule} (h : IsRule rule) : ∃ search, rule.Finds search := by
  rcases h.sweeps_or with ⟨_, hfinds, -⟩ | ⟨types, rfl⟩ | rfl | rfl
  · exact ⟨_, hfinds⟩
  · exact ⟨_, BackendType.finds types⟩
  · exact ⟨_, Comments.finds⟩
  · exact ⟨_, FileContent.finds⟩

end Builtin

/-! ### The ceiling -/

/-- Taking or refusing an issue keeps a collector within its limit, and a refusal leaves it
as it is. -/
theorem Collector.emit_within {c : Collector} {n : Nat} (hlimit : c.limit = some n)
    (hwithin : c.issues.length ≤ n) (issue : Issue) :
    (c.emit issue).2.limit = some n ∧ (c.emit issue).2.issues.length ≤ n ∧
      ∀ cause, (c.emit issue).1 = .error cause → (c.emit issue).2 = c := by
  obtain ⟨limit, held⟩ := c
  obtain rfl : limit = some n := hlimit
  rcases Nat.lt_or_ge held.length n with hroom | hfull
  · rw [emit_of_room hroom]
    refine ⟨rfl, ?_, fun cause hcause => ?_⟩
    · simpa [Nat.succ_le_iff] using hroom
    · cases hcause
  · rw [emit_of_full hfull]
    exact ⟨rfl, hwithin, fun _ _ => rfl⟩

/-- **The ceiling.** Under a limit a rule of the linter gives the first issues of its run
without one. It fails by the limit if there are more of them, and otherwise ends as it does
without a limit. On the way no collector gets above its limit. -/
theorem Rule.run_limit (project : Project) {rule : Rule} (hrule : Builtin.IsRule rule) (n : Nat) :
    rule.run (some n) project =
        ((rule.run none project).1.take n,
          if n < (rule.run none project).1.length then some (.issueLimit n)
          else (rule.run none project).2) ∧
      (rule.run (some n) project).1.length ≤ n ∧
      ∀ c : Collector, c.limit = some n → c.issues.length ≤ n → ∀ issue,
        (c.emit issue).2.limit = some n ∧ (c.emit issue).2.issues.length ≤ n ∧
          ∀ cause, (c.emit issue).1 = .error cause → (c.emit issue).2 = c := by
  obtain ⟨search, hfinds⟩ := hrule.exists_finds
  have hlaw : rule.run (some n) project =
      ((rule.run none project).1.take n,
        if n < (rule.run none project).1.length then some (.issueLimit n)
        else (rule.run none project).2) := by
    rw [hfinds.run_limited, hfinds.run_unlimited, List.length_map]
  refine ⟨hlaw, ?_, fun c hlimit hwithin => Collector.emit_within hlimit hwithin⟩
  rw [hlaw]
  exact List.length_take_le n _

/-- Two comments to report, and behind them a file that cannot be read: with a limit of one
the limit ends the run, and the broken file does not come into it. -/
theorem Rule.run_limit_comments :
    let project := Project.ofFiles [] [("a.tf", "# x\n# y\n"), ("b.tf", "\"")]
    let first : Issue := Comments.info.issue ⟨Comments.message, ⟨"a.tf", .start, ⟨2, 1, 4⟩⟩⟩
    (Comments.rule.run none project).1.length = 2 ∧
      (Comments.rule.run none project).2 = some (.unterminated ⟨"b.tf", .string, .start⟩) ∧
      Comments.rule.run (some 1) project = ([first], some (.issueLimit 1)) := by
  intro project first
  have hrun : Comments.rule.run none project =
      ([first, Comments.info.issue ⟨Comments.message, ⟨"a.tf", ⟨2, 1, 4⟩, ⟨3, 1, 8⟩⟩⟩],
        some (.unterminated ⟨"b.tf", .string, .start⟩)) := by cbv
  refine ⟨by rw [hrun]; rfl, by rw [hrun], ?_⟩
  rw [(Rule.run_limit project .comments 1).1, hrun]
  rfl

end TerraLint
