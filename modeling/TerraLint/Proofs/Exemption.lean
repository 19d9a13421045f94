import TerraLint.Proofs.Walk

/-!
# Child modules under a root-only rule set

A rule set that covers the root module alone reports nothing on child modules. So the
search for child modules should make no difference to an analysis with such a rule
set, whatever stands in the directories below the root. This file compares the two
runs, with and without the search (`TerraLint.Analysis.run_rootOnly`).

They agree wherever the child modules can be found and read. But the search comes before
everything else, and a module is read before the rule set sees it. So a directory that
cannot be listed ends the run with the search, even where the run without it ends with an
error of the root module; so does a malformed file above the root that says what is
ignored, and a child module with a file that cannot be read or is no text
(`TerraLint.Analysis.run_unreadable_child`). The exemption is from rules, not from being
found and read.
-/

namespace TerraLint.Analysis

variable {a : Analysis} {tree : FileTree}

theorem run_alone (a : Analysis) (tree : FileTree) :
    { a with recursive := false }.run tree = (a.project tree a.place).map a.reportOn := by
  have hproject : { a with recursive := false }.project tree = a.project tree :=
    project_congr (by rfl) (by rfl) (by rfl) (by rfl) tree
  have hchildren : { a with recursive := false }.childPlaces tree = .ok [] := rfl
  rw [run_eq, projects, hproject, hchildren]
  change (([a.place].mapM (a.project tree)).map a.reportOnAll) = _
  rw [List.mapM_cons, List.mapM_nil]
  cases a.project tree a.place with
  | error e => rfl
  | ok p =>
    have hreport := Report.append_empty (a.reportOn p)
    exact congrArg Except.ok hreport

theorem childPlaces_recursive (a : Analysis) (tree : FileTree) :
    { a with recursive := true }.childPlaces tree =
      (a.children tree).mapError fun e => .unreadable (a.searchError e) := rfl

theorem run_recursive_of_error {e : Discovery.SearchError} (h : a.children tree = .error e) :
    { a with recursive := true }.run tree = .error (.unreadable (a.searchError e)) := by
  rw [run_eq, projects, childPlaces_recursive, h]
  rfl

theorem run_recursive {children : List Place} (h : a.children tree = .ok children) :
    { a with recursive := true }.run tree = (a.project tree a.place).bind fun p =>
      (children.mapM (a.project tree)).map fun ps => a.reportOn p ++ a.reportOnAll ps := by
  have hproject : { a with recursive := true }.project tree = a.project tree :=
    project_congr (by rfl) (by rfl) (by rfl) (by rfl) tree
  rw [run_eq, projects, hproject, childPlaces_recursive, h]
  change ((a.place :: children).mapM (a.project tree)).map a.reportOnAll = _
  rw [List.mapM_cons]
  cases a.project tree a.place with
  | error e => rfl
  | ok p => cases children.mapM (a.project tree) <;> rfl

/-- A root-only rule set reports nothing on child modules. -/
theorem reportOnAll_children (h : a.ruleSet.coverage = .rootOnly) {children : List Place}
    (hchildren : a.children tree = .ok children) {ps : List Project}
    (hps : children.mapM (a.project tree) = .ok ps) : a.reportOnAll ps = {} := by
  have hchild : ∀ p ∈ ps, a.reportOn p = {} := by
    intro p hp
    obtain ⟨place, hplace, hproject⟩ := (mem_of_mapM_eq_ok hps).mp hp
    obtain ⟨dir, hdir, rfl⟩ := Discovery.exists_of_mem_childModules hchildren hplace
    refine reportOn_of_not_covers ?_
    have hpath := path_of_project_eq_ok hproject
    rw [shownNames_append] at hpath
    simp [RuleSet.Covers, h, Project.isRoot, hpath, hdir]
  clear hps
  induction ps with
  | nil => rfl
  | cons p ps ih =>
    rw [reportOnAll_cons, hchild p List.mem_cons_self,
      ih fun q hq => hchild q (List.mem_cons_of_mem _ hq)]
    rfl

/-- **The exemption is from rules, not from being found and read.** Consider an analysis with a
root-only rule set. If the search for child modules fails, the run with the search ends with its
error, and the cause is in the tree. Otherwise it ends as the run without the search: with the same
error, or with the same report, unless a child module cannot be read; then it ends with a cause of
the first that cannot. -/
theorem run_rootOnly (a : Analysis) (tree : FileTree) (h : a.ruleSet.coverage = .rootOnly) :
    (∀ e, a.children tree = .error e → Discovery.Stops tree a.place e ∧
      { a with recursive := true }.run tree = .error (.unreadable (a.searchError e))) ∧
    ∀ children, a.children tree = .ok children →
      (∀ e, { a with recursive := false }.run tree = .error e →
        { a with recursive := true }.run tree = .error e) ∧
      ∀ report, { a with recursive := false }.run tree = .ok report →
        ((∀ child ∈ children, a.IsReadable tree child) →
          { a with recursive := true }.run tree = .ok report) ∧
        ∀ before child after, children = before ++ child :: after →
          (∀ other ∈ before, a.IsReadable tree other) → ¬a.IsReadable tree child →
          ∃ cause, a.Fails tree child cause ∧
            { a with recursive := true }.run tree = .error (.unreadable cause) := by
  refine ⟨fun e he => ⟨?_, run_recursive_of_error he⟩, fun children hchildren => ?_⟩
  · exact Discovery.stops_of_childModules_eq_error he
  rw [run_alone, run_recursive hchildren]
  constructor
  · intro e he
    rw [map_eq_error he]
    rfl
  · intro report hreport
    obtain ⟨p, hp, rfl⟩ := map_eq_ok hreport
    rw [hp]
    refine ⟨fun hread => ?_, fun before child after hsplit hbefore hchild => ?_⟩
    · obtain ⟨ps, hps⟩ := exists_mapM_eq_ok_iff.mpr fun child hchild =>
        exists_project_iff.mpr (hread child hchild)
      have hempty := reportOnAll_children h hchildren hps
      rw [hps]
      simp only [Except.bind, Except.map, hempty, Report.append_empty]
    · cases hfail : a.project tree child with
      | ok q => exact absurd (exists_project_iff.mp ⟨q, hfail⟩) hchild
      | error e =>
        obtain ⟨cause, rfl, hcause⟩ := fails_of_project_eq_error hfail
        refine ⟨cause, hcause, ?_⟩
        rw [hsplit, mapM_append_of_error (fun other hother =>
          exists_project_iff.mpr (hbefore other hother)) hfail]
        rfl

/-- A module whose first file is no text cannot be read. -/
theorem project_eq_notText {place : Place} {entries : List (EntryName × FileTree)}
    {path : String} {content : ByteArray} {rest : List (String × FileTree)}
    (hlisting : listing tree (a.lookupNames (a.shownNames place)) = .ok entries)
    (hkept : a.keptFiles (a.shownNames place) entries = (path, .file content) :: rest)
    (htext : String.fromUTF8? content = none) :
    a.project tree place = .error (.unreadable (.notText (a.pathOf path))) := by
  have hread : a.readFile path (.file content) = .error (.notText (a.pathOf path)) := by
    simp only [readFile, FileTree.content?, htext]
  rw [project, moduleFiles_eq, hlisting]
  simp only [Except.bind, hkept, List.mapM_cons, readNamed, hread]
  rfl

/-! ### A root module and a child module -/

/-- A root module with one file, and something else under the name `vpc`. -/
def pairTree (root : ByteArray) (child : FileTree) : FileTree :=
  .directory [("main.tf", .file root), ("vpc", child)]

/-- A child module with one file. -/
def childDirectory (content : ByteArray) : FileTree := .directory [("x.tf", .file content)]

/-- An analysis from the root of a tree, with the rule on comments for the root module. -/
def commentsAnalysis : Analysis where
  root := "/"
  names := []
  place := []
  ruleSet := { name := rulePrefix, version := Builtin.version, rules := [Comments.rule] }
  exclude := []
  recursive := false
  settings := {}

theorem children_pairTree (root content : ByteArray) :
    commentsAnalysis.children (pairTree root (childDirectory content)) = .ok [["vpc"]] := by
  cbv

theorem run_alone_pairTree (child : FileTree) :
    { commentsAnalysis with recursive := false }.run (pairTree ⟨#[]⟩ child) =
      .ok { filesChecked := 1, modulesChecked := 1 } := by
  cbv

theorem run_alone_pairTree_bytes (child : FileTree) :
    { commentsAnalysis with recursive := false }.run (pairTree ⟨#[255]⟩ child) =
      .error (.unreadable (.notText "/main.tf")) := by
  have hlisting : listing (pairTree ⟨#[255]⟩ child) [] =
      .ok [("main.tf", .file ⟨#[255]⟩), ("vpc", child)] := by
    cbv
  have hpath : commentsAnalysis.pathOf "main.tf" = "/main.tf" := by decide +kernel
  have hkept : commentsAnalysis.keptFiles [] [("main.tf", .file ⟨#[255]⟩), ("vpc", child)] =
      [("main.tf", .file ⟨#[255]⟩)] := by
    cbv
  rw [run_alone, project_eq_notText hlisting hkept (by cbv), hpath]
  rfl

theorem children_pairTree_unlistable (root : ByteArray) :
    commentsAnalysis.children (pairTree root (.unlistable [])) = .error (.unlistable ["vpc"]) := by
  cbv

theorem isReadable_childDirectory (root : ByteArray) :
    commentsAnalysis.IsReadable (pairTree root (childDirectory ⟨#[35]⟩)) ["vpc"] := by
  have hok : (commentsAnalysis.project (pairTree root (childDirectory ⟨#[35]⟩))
      ["vpc"]).isOk = true := by
    cbv
  cases hp : commentsAnalysis.project (pairTree root (childDirectory ⟨#[35]⟩)) ["vpc"] with
  | error e =>
    rw [hp] at hok
    cases hok
  | ok p => exact exists_project_iff.mp ⟨p, hp⟩

/-- A comment in the child module is not reported, and its file does not count. Where the directory
cannot be listed, the run with the search ends there, and not at the file of the root module that
is no text. -/
theorem run_rootOnly_comment :
    commentsAnalysis.ruleSet.coverage = .rootOnly ∧
      { commentsAnalysis with recursive := true }.run
        (pairTree ⟨#[]⟩ (childDirectory ⟨#[35]⟩)) =
          .ok { filesChecked := 1, modulesChecked := 1 } ∧
      { commentsAnalysis with recursive := false }.run (pairTree ⟨#[255]⟩ (.unlistable [])) =
        .error (.unreadable (.notText "/main.tf")) ∧
      { commentsAnalysis with recursive := true }.run (pairTree ⟨#[255]⟩ (.unlistable [])) =
        .error (.unreadable (.search "/vpc")) := by
  refine ⟨rfl, ?_, run_alone_pairTree_bytes _, ?_⟩
  · have hchildren := children_pairTree ⟨#[]⟩ ⟨#[35]⟩
    exact (((run_rootOnly commentsAnalysis _ rfl).2 _ hchildren).2 _ (run_alone_pairTree _)).1
      (List.forall_mem_singleton.mpr (isReadable_childDirectory _))
  · have herror : commentsAnalysis.searchError (.unlistable ["vpc"]) = .search "/vpc" := by
      decide +kernel
    have hstop := children_pairTree_unlistable ⟨#[255]⟩
    rw [((run_rootOnly commentsAnalysis _ rfl).1 _ hstop).2, herror]

/-- A file of the child module that is no text ends the run that searches for child modules, and
that run alone. -/
theorem run_unreadable_child :
    commentsAnalysis.ruleSet.coverage = .rootOnly ∧
      { commentsAnalysis with recursive := false }.run
        (pairTree ⟨#[]⟩ (childDirectory ⟨#[255]⟩)) =
          .ok { filesChecked := 1, modulesChecked := 1 } ∧
      { commentsAnalysis with recursive := true }.run
        (pairTree ⟨#[]⟩ (childDirectory ⟨#[255]⟩)) =
          .error (.unreadable (.notText "/vpc/x.tf")) := by
  have hlisting : listing (pairTree ⟨#[]⟩ (childDirectory ⟨#[255]⟩)) ["vpc"] =
      .ok [("x.tf", .file ⟨#[255]⟩)] := by
    cbv
  have hkept : commentsAnalysis.keptFiles ["vpc"] [("x.tf", .file ⟨#[255]⟩)] =
      [("vpc/x.tf", .file ⟨#[255]⟩)] := by
    cbv
  have hpath : commentsAnalysis.pathOf "vpc/x.tf" = "/vpc/x.tf" := by decide +kernel
  have hchild : commentsAnalysis.project (pairTree ⟨#[]⟩ (childDirectory ⟨#[255]⟩)) ["vpc"] =
      .error (.unreadable (.notText "/vpc/x.tf")) := by
    rw [← hpath]
    exact project_eq_notText hlisting hkept (by cbv)
  have halone := run_alone_pairTree (childDirectory ⟨#[255]⟩)
  refine ⟨rfl, halone, ?_⟩
  rw [run_alone] at halone
  obtain ⟨p, hp, -⟩ := map_eq_ok halone
  rw [run_recursive (children_pairTree _ _), hp, List.mapM_cons, hchild]
  rfl

end TerraLint.Analysis
