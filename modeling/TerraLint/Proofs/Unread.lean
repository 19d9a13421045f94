import TerraLint.Proofs.Failures
import TerraLint.Proofs.Placement

/-!
# What is not read

Files whose name ends in `.json` are in the other notation. The linter knows their names
and does not read them: what they hold has no part in the module, and it is seen by one
rule only, the rule on the layout of files, which looks at the first and the last line of
every file. The theorem of this file (`TerraLint.Rule.run_unread`) compares two projects
that differ in the content of such files (`TerraLint.Project.AgreesInNative`).

Where a file is passed over is decided in three places: when the module is put together,
when comments are looked for, and in the middle of the check of a file's layout. In each
of them two files in the same place are compared, the one in the first project and the one
in the second (`TerraLint.Project.Counterpart`): they are the same file, or both are in
the other notation.
-/

namespace TerraLint

theorem SourceFile.eq_of_name_content {f g : SourceFile} (hname : f.name = g.name)
    (hcontent : f.content = g.content) : f = g := by
  obtain ⟨name, content⟩ := f
  exact SourceFile.mk.injEq .. ▸ ⟨hname, hcontent⟩

namespace Project

variable {p q : Project}

/-- Two projects read documents in the same way and have files of the same names, with the same
content unless a file is in the other notation. -/
structure AgreesInNative (p q : Project) : Prop where
  parse_eq : p.parse = q.parse
  names_eq : p.files.map SourceFile.name = q.files.map SourceFile.name
  content_eq : ∀ f ∈ p.files, ∀ g ∈ q.files, f.name = g.name → f.isJson = false →
    f.content = g.content

/-! ### Two files in the same place -/

/-- Files of one name, which are the same file unless they are in the other notation. -/
structure Counterpart (f g : SourceFile) : Prop where
  name_eq : f.name = g.name
  eq_of_native : f.isJson = false → f = g

theorem Counterpart.isJson_eq {f g : SourceFile} (h : Counterpart f g) : f.isJson = g.isJson := by
  rw [SourceFile.isJson, h.name_eq, SourceFile.isJson]

/-- The files of the two projects stand opposite each other. -/
theorem AgreesInNative.counterparts (h : p.AgreesInNative q) :
    List.Forall₂ Counterpart p.files q.files := by
  have hlength : p.files.length = q.files.length := by
    simpa using congrArg List.length h.names_eq
  refine List.forall₂_iff_get.mpr ⟨hlength, fun i hi hi' => ?_⟩
  have hname : (p.files.get ⟨i, hi⟩).name = (q.files.get ⟨i, hi'⟩).name := by
    have hnames := congrArg (fun names => names[i]?) h.names_eq
    simpa [hi, hi'] using hnames
  refine ⟨hname, fun hjson => ?_⟩
  have hcontent := h.content_eq _ (List.get_mem _ _) _ (List.get_mem _ _) hname hjson
  exact SourceFile.eq_of_name_content hname hcontent

theorem filter_native_eq {files others : List SourceFile}
    (h : List.Forall₂ Counterpart files others) :
    (files.filter fun f => !f.isJson) = others.filter fun f => !f.isJson := by
  induction h with
  | nil => rfl
  | @cons f g files others hfg _ ih =>
    rw [List.filter_cons, List.filter_cons, ← hfg.isJson_eq, ih]
    cases hjson : f.isJson with
    | true => rfl
    | false => rw [hfg.eq_of_native hjson]

/-- Files in the other notation have no part in the module. -/
theorem AgreesInNative.module_eq (h : p.AgreesInNative q) : p.module = q.module := by
  rw [module, module, filter_native_eq h.counterparts, bodies_congr h.parse_eq]

end Project

/-! ### Searches file by file -/

namespace Findings

variable {keep : Finding → Bool}

/-- Two searches end in the same way, and find the same of what is to be kept. -/
structure Agree (keep : Finding → Bool) (a b : Findings) : Prop where
  stopped_eq : a.stopped = b.stopped
  filter_eq : a.found.filter keep = b.found.filter keep

theorem Agree.refl (a : Findings) : Agree keep a a := ⟨rfl, rfl⟩

theorem Agree.andThen {a b a' b' : Findings} (h : Agree keep a b) (h' : Agree keep a' b') :
    Agree keep (a.andThen a') (b.andThen b') := by
  cases hstopped : a.stopped with
  | some cause =>
    rw [andThen_of_some hstopped, andThen_of_some (h.stopped_eq ▸ hstopped)]
    exact h
  | none =>
    rw [andThen_of_none hstopped, andThen_of_none (h.stopped_eq ▸ hstopped)]
    refine ⟨h'.stopped_eq, ?_⟩
    rw [List.filter_append, List.filter_append, h.filter_eq, h'.filter_eq]

/-- Two searches that find the same of everything are the same. -/
theorem Agree.eq {a b : Findings} (h : Agree (fun _ => true) a b) : a = b := by
  obtain ⟨found, stopped⟩ := a
  obtain ⟨hstopped, hfound⟩ := h
  rw [List.filter_true, List.filter_true] at hfound
  exact Findings.mk.injEq .. ▸ ⟨hfound, hstopped⟩

/-- Searches through lists agree if they agree on what stands in the same place. -/
theorem agree_forEach {α : Type} {R : α → α → Prop} {items others : List α}
    (h : List.Forall₂ R items others) {search : α → Findings}
    (hsearch : ∀ {a b}, R a b → Agree keep (search a) (search b)) :
    Agree keep (forEach items search) (forEach others search) := by
  induction h with
  | nil => exact .refl _
  | cons hab _ ih => exact (hsearch hab).andThen ih

end Findings

/-- Comments are not looked for in files in the other notation. -/
theorem Comments.searchFile_agree {f g : SourceFile} (h : Project.Counterpart f g) :
    Findings.Agree (fun _ => true) (searchFile f) (searchFile g) := by
  cases hjson : f.isJson with
  | true =>
    rw [searchFile, if_pos hjson, searchFile, if_pos (h.isJson_eq ▸ hjson)]
    exact .refl _
  | false => exact h.eq_of_native hjson ▸ .refl _

namespace FileContent

/-- The finding is in a file that is read. -/
def inNative (finding : Finding) : Bool := !finding.span.file.endsWith ".json"

theorem filter_inNative_of_isJson {f : SourceFile} (h : f.isJson = true) :
    (searchFile f).found.filter inNative = [] := by
  refine List.filter_eq_nil_iff.mpr fun finding hfinding => ?_
  rw [inNative, (searchFile_holds f finding hfinding).file_eq]
  simpa [SourceFile.isJson] using h

/-- What is seen of a file in the other notation is in that file. -/
theorem searchFile_agree {f g : SourceFile} (h : Project.Counterpart f g) :
    Findings.Agree inNative (searchFile f) (searchFile g) := by
  cases hjson : f.isJson with
  | false => exact h.eq_of_native hjson ▸ .refl _
  | true =>
    have hjson' : g.isJson = true := h.isJson_eq ▸ hjson
    refine ⟨?_, by rw [filter_inNative_of_isJson hjson, filter_inNative_of_isJson hjson']⟩
    rw [searchFile_stopped, searchFile_stopped, SourceFile.failure?, if_pos hjson,
      SourceFile.failure?, if_pos hjson']

/-- In a file in the other notation only the first and the last line can be at fault. -/
theorem searchFile_of_isJson {f : SourceFile} (h : f.isJson = true) :
    (searchFile f).found = firstLine f ++ lastLine f := by
  simp [searchFile_eq, blocks, h]

end FileContent

/-! ### The rules -/

namespace Rule

variable {rule : Rule} {p q : Project}

/-- What a rule does depends on what its search comes to. -/
theorem Finds.run_congr {search : Project → Findings} (h : rule.Finds search)
    (hsearch : search p = search q) (limit : Option Nat) : rule.run limit p = rule.run limit q := by
  rw [run, run, h p, h q, hsearch]

end Rule

/-- All rules but the one on the layout of files give the same report. -/
theorem Builtin.IsRule.run_eq_of_agreesInNative {rule : Rule} (h : IsRule rule)
    (hname : rule.name ≠ FileContent.info.name) {p q : Project} (hpq : p.AgreesInNative q)
    (limit : Option Nat) : rule.run limit p = rule.run limit q := by
  rcases h.readsModule_or with ⟨search, hfinds⟩ | rfl | rfl
  · exact hfinds.run_congr (by rw [hpq.module_eq]) limit
  · refine Comments.finds.run_congr ?_ limit
    exact (Findings.agree_forEach hpq.counterparts Comments.searchFile_agree).eq
  · exact absurd rfl hname

/-- Without a limit the rule on the layout of files ends in the same way, and reports the same
in the files that are read. -/
theorem FileContent.run_agree {p q : Project} (h : p.AgreesInNative q) :
    (rule.run none p).2 = (rule.run none q).2 ∧
      (rule.run none p).1.filter (fun issue => !issue.span.file.endsWith ".json") =
        (rule.run none q).1.filter fun issue => !issue.span.file.endsWith ".json" := by
  obtain ⟨hstopped, hfilter⟩ := Findings.agree_forEach h.counterparts searchFile_agree
  have hissue : (fun issue : Issue => !issue.span.file.endsWith ".json") ∘ rule.issue = inNative :=
    rfl
  rw [finds.run_unlimited, finds.run_unlimited]
  refine ⟨hstopped, ?_⟩
  rw [List.filter_map, List.filter_map, hissue, hfilter]

/-- An issue in a file in the other notation is one of its first or its last line. -/
theorem FileContent.exists_line {p : Project} {limit : Option Nat} {issue : Issue}
    (h : issue ∈ (rule.run limit p).1) (hjson : issue.span.file.endsWith ".json" = true) :
    ∃ f ∈ p.files, f.name = issue.span.file ∧
      (issue ∈ ((checkFirstLine f).collect none).1 ∨
        issue ∈ ((checkLastLine f).collect none).1) := by
  obtain ⟨finding, hfinding, rfl⟩ := finds.exists_finding h
  have hfound : (Findings.forEach p.files searchFile).All fun finding =>
      ∃ f ∈ p.files, finding ∈ (searchFile f).found :=
    Findings.all_forEach fun f hf finding hfinding => ⟨f, hf, hfinding⟩
  obtain ⟨f, hf, hfinding⟩ := hfound finding hfinding
  have hfile : finding.span.file = f.name := (searchFile_holds f finding hfinding).file_eq
  have hisJson : f.isJson = true := by
    rw [SourceFile.isJson, ← hfile]
    exact hjson
  have hline : finding ∈ firstLine f ++ lastLine f := by
    rwa [← searchFile_of_isJson hisJson]
  refine ⟨f, hf, hfile.symm, ?_⟩
  rw [checkFirstLine_eq, checkLastLine_eq, Findings.collect_forM, Findings.collect_forM]
  exact (List.mem_append.mp hline).imp List.mem_map_of_mem List.mem_map_of_mem

/-- **What is not read is not seen.** Take two projects that differ in nothing but what their
files in the other notation hold. They have the same module, or none for the same cause. Every
rule but the one on the layout of files gives the same report, under any limit. That rule,
without a limit, ends in the same way and reports the same in the other files; and in a file
in the other notation it never reports anything but its first and its last line. -/
theorem Rule.run_unread {p q : Project} (h : p.AgreesInNative q) :
    p.module = q.module ∧
      (∀ rule, Builtin.IsRule rule → rule.name ≠ FileContent.info.name →
        ∀ limit, rule.run limit p = rule.run limit q) ∧
      (FileContent.rule.run none p).2 = (FileContent.rule.run none q).2 ∧
      (FileContent.rule.run none p).1.filter (fun issue => !issue.span.file.endsWith ".json") =
        (FileContent.rule.run none q).1.filter (fun issue => !issue.span.file.endsWith ".json") ∧
      ∀ limit, ∀ issue ∈ (FileContent.rule.run limit p).1, issue.span.file.endsWith ".json" = true →
        ∃ f ∈ p.files, f.name = issue.span.file ∧
          (issue ∈ ((FileContent.checkFirstLine f).collect none).1 ∨
            issue ∈ ((FileContent.checkLastLine f).collect none).1) := by
  obtain ⟨hstopped, hfilter⟩ := FileContent.run_agree h
  exact ⟨h.module_eq, fun rule hrule hname limit => hrule.run_eq_of_agreesInNative hname h limit,
    hstopped, hfilter, fun limit issue hissue hjson => FileContent.exists_line hissue hjson⟩

/-- A file in the other notation that is in order, and one that is not and could not be read
either. Behind it stands a comment to be reported, and a file that leaves a string open. The
rule on the layout of files has two more issues, and all else is as before. -/
theorem Rule.run_unread_json :
    let p := Project.ofFiles [] [("a.tf.json", "\x7b\x7d\n"), ("b.tf", "# x\n"), ("c.tf", "\"")]
    let q := Project.ofFiles [] [("a.tf.json", "\n\""), ("b.tf", "# x\n"), ("c.tf", "\"")]
    p.AgreesInNative q ∧
      (FileContent.rule.run none p).1.length = 1 ∧ (FileContent.rule.run none q).1.length = 3 ∧
      (Comments.rule.run (some 1) q).1.length = 1 ∧
      p.module = q.module ∧ Comments.rule.run (some 1) p = Comments.rule.run (some 1) q ∧
      (FileContent.rule.run none p).2 = (FileContent.rule.run none q).2 := by
  intro p q
  have hp : p.files = [⟨"a.tf.json", "\x7b\x7d\n"⟩, ⟨"b.tf", "# x\n"⟩, ⟨"c.tf", "\""⟩] := by cbv
  have hq : q.files = [⟨"a.tf.json", "\n\""⟩, ⟨"b.tf", "# x\n"⟩, ⟨"c.tf", "\""⟩] := by cbv
  have hjson : "a.tf.json".endsWith ".json" = true := by cbv
  have hagree : p.AgreesInNative q := by
    refine ⟨rfl, by rw [hp, hq]; rfl, ?_⟩
    rw [hp, hq]
    simp [SourceFile.isJson, hjson]
  have hone : (FileContent.rule.run none p).1.length = 1 := by cbv
  have hthree : (FileContent.rule.run none q).1.length = 3 := by cbv
  have hcomment : (Comments.rule.run (some 1) q).1.length = 1 := by cbv
  obtain ⟨hmodule, hrules, hstopped, -, -⟩ := Rule.run_unread hagree
  exact ⟨hagree, hone, hthree, hcomment, hmodule, hrules _ .comments (by decide) _, hstopped⟩

end TerraLint
