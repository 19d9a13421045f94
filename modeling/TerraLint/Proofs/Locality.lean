import TerraLint.Proofs.Failures
import TerraLint.Proofs.Placement

/-!
# What is reported in a file

The module that rules look at is made of all files of a project, one after the other,
and the rules walk over it in different orders: by file, by declaration, or by
declaration and then once more. Still, what a rule reports in a file depends on that
file alone (`TerraLint.Rule.run_local`), as long as no file is broken: the issues of a
run that are in the file are, in their order, the issues of a run on a project with no
other file. The rule on the backend is the one exception, since the first backend of
the module counts.

## Why

Each of these rules passes over the files of the project a number of times
(`TerraLint.Rule.Local`). What a pass finds in a file is a function of the file, and it
is in the file (`TerraLint.Project.IsPass`); so, to sort out what is in one file, it is
enough to know that names are not used twice. A pass over the declarations of the
module is one over files, because the declarations are those of the files
(`TerraLint.Project.module_declarations`).
-/

namespace TerraLint

namespace Project

variable {p q : Project} {f : SourceFile}

/-! ### The declarations of a module, file by file -/

/-- The declarations of a file that has a body. -/
def declarationsIn (p : Project) (f : SourceFile) : List Declaration :=
  if f.isJson then []
  else
    match p.bodyOf f with
    | .ok body => body.blocks.map (Declaration.ofBlock f.name)
    | .error _ => []

/-- Of the project, only the reader of documents has a part in the body of a file. -/
theorem bodyOf_congr (h : p.parse = q.parse) : p.bodyOf f = q.bodyOf f := by
  unfold bodyOf
  rw [h]

theorem declarationsIn_congr (h : p.parse = q.parse) :
    p.declarationsIn f = q.declarationsIn f := by
  unfold declarationsIn
  rw [bodyOf_congr h]

theorem bodies_declarations {files : List SourceFile} {found : List (String × Body)}
    (hjson : ∀ f ∈ files, f.isJson = false) (h : p.bodies files = .ok found) :
    (Module.ofBodies found).declarations = files.flatMap p.declarationsIn := by
  induction files generalizing found with
  | nil =>
    cases h
    rfl
  | cons f files ih =>
    obtain ⟨body, hbody, hrest⟩ := bind_eq_ok h
    obtain ⟨rest, htail, hfound⟩ := bind_eq_ok hrest
    cases hfound
    rw [List.forall_mem_cons] at hjson
    have hf : p.declarationsIn f = body.blocks.map (Declaration.ofBlock f.name) := by
      simp [declarationsIn, hjson.1, hbody]
    rw [List.flatMap_cons, hf, ← ih hjson.2 htail]
    rfl

/-- Files in the other notation declare nothing. -/
theorem flatMap_declarationsIn_filter (files : List SourceFile) :
    (files.filter fun f => !f.isJson).flatMap p.declarationsIn = files.flatMap p.declarationsIn := by
  induction files with
  | nil => rfl
  | cons f files ih =>
    rw [List.flatMap_cons, ← ih]
    cases hjson : f.isJson with
    | true =>
      rw [List.filter_cons_of_neg (by simp [hjson])]
      simp [declarationsIn, hjson]
    | false => rw [List.filter_cons_of_pos (by simp [hjson]), List.flatMap_cons]

/-- **The declarations of a module are those of its files.** -/
theorem module_declarations {m : Module} (h : p.module = .ok m) :
    m.declarations = p.files.flatMap p.declarationsIn := by
  obtain ⟨found, hfound, hm⟩ := bind_eq_ok h
  cases hm
  have hjson : ∀ f ∈ p.files.filter fun f => !f.isJson, f.isJson = false := fun f hf => by
    simpa using (List.mem_filter.mp hf).2
  rw [bodies_declarations hjson hfound, flatMap_declarationsIn_filter]

/-- The spans of a declaration name the file in which it stands. -/
theorem file_of_mem_spans {d : Declaration} (hd : d ∈ p.declarationsIn f) {s : Span}
    (hs : s ∈ d.spans) : s.file = f.name := by
  unfold declarationsIn at hd
  split at hd
  · simp at hd
  · split at hd
    · rename_i body hbody
      obtain ⟨block, hblock, rfl⟩ := List.mem_map.mp hd
      obtain ⟨-, hblocks⟩ := bodyOf_within hbody
      exact ((hblocks block hblock).of_mem_spans f.name s hs).file_eq
    · simp at hd

/-! ### Passes over files -/

/-- A pass over files: what it finds in a file is in the file, and the other files have no
part in it. -/
structure IsPass (pass : Project → SourceFile → List Finding) : Prop where
  file_eq : ∀ p f, ∀ finding ∈ pass p f, finding.span.file = f.name
  congr : ∀ p q f, p.parse = q.parse → pass p f = pass q f

/-- Of what is found file by file, the part in one file is what is found there. -/
theorem filter_flatMap_files {find : SourceFile → List Finding}
    (hfind : ∀ f, ∀ finding ∈ find f, finding.span.file = f.name) (hf : f ∈ p.files) :
    (p.files.flatMap find).filter (fun finding => finding.span.file = f.name) = find f := by
  obtain ⟨front, after, hfiles⟩ := List.append_of_mem hf
  obtain ⟨hsmaller, hlarger⟩ := names_of_split hfiles
  -- What is found in a file is under its name, and the other files have other names.
  have hothers : ∀ files : List SourceFile, (∀ g ∈ files, g.name ≠ f.name) →
      (files.flatMap find).filter (fun finding => finding.span.file = f.name) = [] := by
    intro files hne
    refine List.filter_eq_nil_iff.mpr fun finding hfinding => ?_
    obtain ⟨g, hg, hfinding⟩ := List.mem_flatMap.mp hfinding
    simpa [hfind g finding hfinding] using hne g hg
  have hfront := hothers front fun g hg heq => String.lt_irrefl _ (heq ▸ hsmaller g hg)
  have hafter := hothers after fun g hg heq => String.lt_irrefl _ (heq ▸ hlarger g hg)
  have hown : (find f).filter (fun finding => finding.span.file = f.name) = find f :=
    List.filter_eq_self.mpr fun finding hfinding => by simpa using hfind f finding hfinding
  rw [hfiles, List.flatMap_append, List.flatMap_cons, List.filter_append, List.filter_append,
    hfront, hafter, hown, List.nil_append, List.append_nil]

end Project

namespace Rule

variable {rule : Rule} {p : Project} {f : SourceFile}

/-- A rule that passes over the files of a project a number of times, if no file is broken. -/
def Local (rule : Rule) : Prop :=
  ∃ passes : List (Project → SourceFile → List Finding), (∀ pass ∈ passes, Project.IsPass pass) ∧
    ∀ p : Project, p.AllRead p.bodyOf →
      (rule.run none p).1 = (passes.flatMap fun pass => p.files.flatMap (pass p)).map rule.issue

/-- A rule that looks at files one by one passes over them once. -/
theorem local_of_forEach {search : SourceFile → Findings}
    (hfinds : rule.Finds fun p => .forEach p.files search)
    (hstopped : ∀ f, (search f).stopped = f.failure?)
    (hholds : ∀ f, (search f).All fun finding => f.Holds finding.span) : rule.Local := by
  refine ⟨[fun _ f => (search f).found], ?_, fun p hp => ?_⟩
  · intro pass hpass
    obtain rfl := List.mem_singleton.mp hpass
    exact ⟨fun _ f finding hfinding => (hholds f finding hfinding).file_eq, fun _ _ _ _ => rfl⟩
  · rw [run_of_allRead hfinds hstopped hp.lex]
    simp only [run_only_eq hfinds, List.flatMap_singleton, List.map_flatMap]

/-- A sweep over the declarations is a pass over the files. -/
theorem Sweeps.local (h : rule.Sweeps) : rule.Local := by
  obtain ⟨judgements, hfinds, hspan⟩ := h
  refine ⟨judgements.map fun judge p f => (p.declarationsIn f).flatMap judge, ?_, fun p hp => ?_⟩
  · intro pass hpass
    obtain ⟨judge, hjudge, rfl⟩ := List.mem_map.mp hpass
    refine ⟨fun p f finding hfinding => ?_, fun p q f hparse => ?_⟩
    · obtain ⟨d, hd, hfinding⟩ := List.mem_flatMap.mp hfinding
      exact Project.file_of_mem_spans hd (hspan judge hjudge d finding hfinding)
    · rw [Project.declarationsIn_congr hparse]
  · obtain ⟨m, hm⟩ := Project.exists_module hp
    rw [hfinds.run_unlimited, Findings.sweep, hm]
    simp only [Findings.ofExcept, Project.module_declarations hm, List.flatMap_map,
      List.flatMap_assoc]

/-- What a rule that passes over files reports in a file. -/
theorem filter_run {passes : List (Project → SourceFile → List Finding)}
    (hpasses : ∀ pass ∈ passes, Project.IsPass pass)
    (hrun : (rule.run none p).1 =
      (passes.flatMap fun pass => p.files.flatMap (pass p)).map rule.issue) (hf : f ∈ p.files) :
    (rule.run none p).1.filter (fun issue => issue.span.file = f.name) =
      (passes.flatMap fun pass => pass p f).map rule.issue := by
  have hfind : ∀ pass ∈ passes,
      (p.files.flatMap (pass p)).filter (fun finding => finding.span.file = f.name) = pass p f :=
    fun pass hpass => Project.filter_flatMap_files ((hpasses pass hpass).file_eq p) hf
  rw [hrun, List.filter_map, List.filter_flatMap]
  congr 1
  exact List.flatMap_congr hfind

end Rule

/-- All rules but the one on the backend pass over files. -/
theorem Builtin.IsRule.local {rule : Rule} (h : IsRule rule) (hname : rule.name ≠ BackendType.name) :
    rule.Local := by
  rcases h.sweeps_or with hsweeps | ⟨types, rfl⟩ | rfl | rfl
  · exact hsweeps.local
  · exact absurd rfl hname
  · exact Rule.local_of_forEach Comments.finds Comments.searchFile_stopped Comments.searchFile_holds
  · exact Rule.local_of_forEach FileContent.finds FileContent.searchFile_stopped
      FileContent.searchFile_holds

/-- **What is reported in a file is the file's own affair.** In a project without broken files,
the issues of a rule in a file are its issues on a project with no other file. So they stay
as they are while other files are changed, added or taken away. -/
theorem Rule.run_local {p : Project} (hp : p.AllRead p.bodyOf) {rule : Rule}
    (hrule : Builtin.IsRule rule) (hname : rule.name ≠ BackendType.name) {f : SourceFile}
    (hf : f ∈ p.files) :
    (rule.run none p).1.filter (fun issue => issue.span.file = f.name) =
        (rule.run none (p.only f)).1 ∧
      ∀ q : Project, q.parse = p.parse → q.AllRead q.bodyOf → f ∈ q.files →
        (rule.run none q).1.filter (fun issue => issue.span.file = f.name) =
          (rule.run none p).1.filter (fun issue => issue.span.file = f.name) := by
  obtain ⟨passes, hpasses, hrun⟩ := hrule.local hname
  -- The passes do not see the other files, so they find the same in `f` wherever it stands.
  have hown : ∀ q : Project, q.parse = p.parse →
      (passes.flatMap fun pass => pass q f) = passes.flatMap fun pass => pass p f := by
    intro q hparse
    exact List.flatMap_congr fun pass hpass => (hpasses pass hpass).congr q p f hparse
  refine ⟨?_, fun q hparse hq hfq => ?_⟩
  · have honly : (p.only f).AllRead (p.only f).bodyOf := by
      intro g hg hjson
      obtain rfl := List.mem_singleton.mp hg
      exact hp g hf hjson
    rw [filter_run hpasses (hrun p hp) hf, hrun (p.only f) honly, ← hown (p.only f) rfl]
    simp only [Project.only, List.flatMap_singleton]
  · rw [filter_run hpasses (hrun p hp) hf, filter_run hpasses (hrun q hq) hfq, hown q hparse]

/-- Two files with blocks in the wrong place. The rule walks over both of them twice, and the
three issues in the second file are found in two walks. -/
theorem Rule.run_local_outputs :
    let f : SourceFile := ⟨"outputs.tf", "locals \x7b\x7d\n\nvariable \"y\" \x7b\x7d\n"⟩
    let p := Project.ofFiles [] [("main.tf", "variable \"x\" \x7b\x7d\n"), (f.name, f.content)]
    p.AllRead p.bodyOf ∧ f ∈ p.files ∧
      ((ModuleStructure.rule .default).run none p).1.length = 4 ∧
      ((ModuleStructure.rule .default).run none (p.only f)).1.length = 3 ∧
      ((ModuleStructure.rule .default).run none p).1.filter (fun issue => issue.span.file = f.name) =
        ((ModuleStructure.rule .default).run none (p.only f)).1 := by
  intro f p
  have hp : p.AllRead p.bodyOf := Project.allRead_iff_isOk.mpr (by cbv)
  have hf : f ∈ p.files := List.mem_of_getElem? (i := 1) (by cbv)
  have hall : ((ModuleStructure.rule .default).run none p).1.length = 4 := by cbv
  have hown : ((ModuleStructure.rule .default).run none (p.only f)).1.length = 3 := by cbv
  have hlocal := Rule.run_local hp (.moduleStructure .default) (by decide) hf
  exact ⟨hp, hf, hall, hown, hlocal.1⟩

end TerraLint
