import TerraLint.Analysis
import TerraLint.Proofs.Independence

/-!
# What is handed to the rule set

An analysis finds modules, reads their files and checks them, all in one pass. This
file takes the pass apart. `TerraLint.Analysis.projects` are the modules as they are
handed to the rule set, and the report is the sum of what is reported on each
(`TerraLint.Analysis.run_eq`).

* Which files are read is said by `TerraLint.Analysis.Finds`: the configuration files that
  stand directly in the directory that is looked up for the module and are not left out.
  They are read if the directory can be listed and all of them are texts
  (`TerraLint.Analysis.exists_project_iff`), and otherwise a cause is reported
  (`TerraLint.Analysis.fails_of_project_eq_error`).
* What the search for modules finds is in the tree: every child module lies properly
  below the root (`TerraLint.Discovery.exists_of_mem_childModules`), whatever is hidden or
  ignored. The search fails only at a directory that cannot be listed, or for a malformed
  file above the root (`TerraLint.Discovery.stops_of_childModules_eq_error`).
-/

namespace TerraLint

/-! ### Runs over lists that can fail -/

section MapM

variable {α β ε : Type} {f : α → Except ε β}

theorem map_eq_ok {g : α → β} {x : Except ε α} {b : β} (h : x.map g = .ok b) :
    ∃ y, x = .ok y ∧ b = g y := by
  cases x with
  | error e => cases h
  | ok y => exact ⟨y, rfl, (Except.ok.inj h).symm⟩

theorem map_eq_error {g : α → β} {x : Except ε α} {e : ε} (h : x.map g = .error e) :
    x = .error e := by
  cases x with
  | error e' => rw [Except.error.inj h]
  | ok y => cases h

theorem mapError_eq_error {ε' : Type} {g : ε → ε'} {x : Except ε α} {e : ε'}
    (h : x.mapError g = .error e) : ∃ e', x = .error e' ∧ e = g e' := by
  cases x with
  | error e' => exact ⟨e', rfl, (Except.error.inj h).symm⟩
  | ok y => cases h

/-- A run over a list succeeds if every step does. -/
theorem mapM_eq_ok_iff {xs : List α} {ys : List β} :
    xs.mapM f = .ok ys ↔ List.Forall₂ (fun x y => f x = .ok y) xs ys := by
  induction xs generalizing ys with
  | nil =>
    constructor
    · intro h
      obtain rfl := Except.ok.inj h
      exact .nil
    · rintro ⟨⟩
      rfl
  | cons x xs ih =>
    rw [List.mapM_cons]
    constructor
    · intro h
      obtain ⟨y, hy, h⟩ := bind_eq_ok h
      obtain ⟨ys', hys, h⟩ := bind_eq_ok h
      cases h
      exact .cons hy (ih.mp hys)
    · rintro (_ | ⟨hy, hys⟩)
      rw [hy, ih.mpr hys]
      rfl

/-- What comes out of a run over a list is what its steps give. -/
theorem mem_of_mapM_eq_ok {xs : List α} {ys : List β} (h : xs.mapM f = .ok ys) {y : β} :
    y ∈ ys ↔ ∃ x ∈ xs, f x = .ok y := by
  have hsteps := mapM_eq_ok_iff.mp h
  clear h
  induction hsteps with
  | nil => simp
  | cons hy _ ih => simp [ih, hy, eq_comm]

/-- A run over a list fails with the failure of one of its steps. -/
theorem exists_of_mapM_eq_error {xs : List α} {e : ε} (h : xs.mapM f = .error e) :
    ∃ x ∈ xs, f x = .error e := by
  induction xs with
  | nil => cases h
  | cons x xs ih =>
    rw [List.mapM_cons] at h
    cases hx : f x with
    | error e' =>
      rw [hx] at h
      cases h
      exact ⟨x, List.mem_cons_self, hx⟩
    | ok y =>
      cases hxs : xs.mapM f with
      | error e' =>
        rw [hx, hxs] at h
        cases h
        obtain ⟨z, hz, hfail⟩ := ih hxs
        exact ⟨z, List.mem_cons_of_mem _ hz, hfail⟩
      | ok ys =>
        rw [hx, hxs] at h
        cases h

/-- The first step that fails decides. -/
theorem mapM_append_of_error {xs ys : List α} {x : α} {e : ε} (hxs : ∀ z ∈ xs, ∃ y, f z = .ok y)
    (hx : f x = .error e) : (xs ++ x :: ys).mapM f = .error e := by
  induction xs with
  | nil =>
    rw [List.nil_append, List.mapM_cons, hx]
    rfl
  | cons z xs ih =>
    obtain ⟨⟨y, hy⟩, hxs⟩ := List.forall_mem_cons.mp hxs
    rw [List.cons_append, List.mapM_cons, hy, ih hxs]
    rfl

theorem exists_mapM_eq_ok_iff {xs : List α} :
    (∃ ys, xs.mapM f = .ok ys) ↔ ∀ x ∈ xs, ∃ y, f x = .ok y := by
  constructor
  · rintro ⟨ys, hys⟩
    have hsteps := mapM_eq_ok_iff.mp hys
    clear hys
    induction hsteps with
    | nil => simp
    | cons hy _ ih => exact List.forall_mem_cons.mpr ⟨⟨_, hy⟩, ih⟩
  · intro h
    cases hrun : xs.mapM f with
    | ok ys => exact ⟨ys, rfl⟩
    | error e =>
      obtain ⟨x, hx, hfail⟩ := exists_of_mapM_eq_error hrun
      obtain ⟨y, hy⟩ := h x hx
      rw [hy] at hfail
      cases hfail

end MapM

/-! ### The pass, taken apart -/

theorem Discovery.relativeName_append (root dir : Place) :
    relativeName root (root ++ dir) = "/".intercalate (dir.map EntryName.lossy) := by
  rw [relativeName, List.drop_left]

@[simp] theorem Report.append_empty (r : Report) : r ++ ({} : Report) = r := by
  simp [Report.append_eq]

namespace Analysis

variable {a : Analysis} {tree : FileTree}

theorem shownNames_append (a : Analysis) (dir : Place) :
    a.shownNames (a.place ++ dir) = dir.map EntryName.lossy := by
  rw [shownNames, List.drop_left]

/-- What the search for child modules gives: their places, or that of a directory that cannot be
listed. -/
def children (a : Analysis) (tree : FileTree) :
    Except Discovery.SearchError (List Place) :=
  Discovery.childModules a.settings.scan.respectGitignore a.exclude tree a.place

/-- The module in the directory at a place. -/
def project (a : Analysis) (tree : FileTree) (place : Place) : Except AnalysisError Project :=
  ((a.moduleFiles tree place).mapError .unreadable).map (.ofFiles (a.shownNames place))

/-- The modules that are handed to the rule set. -/
def projects (a : Analysis) (tree : FileTree) : Except AnalysisError (List Project) :=
  (a.childPlaces tree).bind fun children => (a.place :: children).mapM (a.project tree)

/-- What is reported on a module. Its files count only if it is looked at. -/
def reportOn (a : Analysis) (p : Project) : Report :=
  let report := a.ruleSet.check a.settings p
  if report.modulesChecked = 0 then report else { filesChecked := p.files.length } ++ report

/-- What is reported on modules, one after the other. -/
def reportOnAll (a : Analysis) (ps : List Project) : Report :=
  ps.foldr (fun p report => a.reportOn p ++ report) {}

theorem checkModule_eq (place : Place) :
    a.checkModule tree place = (a.project tree place).map a.reportOn := by
  unfold checkModule project
  cases a.moduleFiles tree place with
  | error e => rfl
  | ok files =>
    simp only [Except.mapError, Except.map, reportOn, bind, Except.bind]
    split <;> rfl

theorem checkModules_eq (places : List Place) :
    a.checkModules tree places = (places.mapM (a.project tree)).map a.reportOnAll := by
  induction places with
  | nil => rfl
  | cons place places ih =>
    rw [checkModules, checkModule_eq, ih, List.mapM_cons]
    cases a.project tree place with
    | error e => rfl
    | ok p => cases places.mapM (a.project tree) <;> rfl

@[simp] theorem reportOnAll_nil (a : Analysis) : a.reportOnAll [] = {} := rfl

@[simp] theorem reportOnAll_cons (a : Analysis) (p : Project) (ps : List Project) :
    a.reportOnAll (p :: ps) = a.reportOn p ++ a.reportOnAll ps := rfl

/-- **The report is the sum of the reports on the modules handed over.** -/
theorem run_eq (a : Analysis) (tree : FileTree) :
    a.run tree = (a.projects tree).map a.reportOnAll := by
  rw [run, projects]
  cases a.childPlaces tree with
  | error e => rfl
  | ok children => exact checkModules_eq _

theorem reportOn_of_not_covers {p : Project} (h : ¬a.ruleSet.Covers p) : a.reportOn p = {} := by
  rw [reportOn, RuleSet.check_of_not_covers h]
  rfl

theorem reportOn_of_covers {p : Project} (h : a.ruleSet.Covers p) :
    a.reportOn p =
      { a.ruleSet.check a.settings p with
        filesChecked := p.files.length
        modulesChecked := 1 } := by
  rw [reportOn, RuleSet.check_of_covers h]
  simp [Report.append_eq]

theorem path_of_project_eq_ok {place : Place} {p : Project} (h : a.project tree place = .ok p) :
    p.path = a.shownNames place := by
  obtain ⟨files, -, rfl⟩ := map_eq_ok h
  rfl

/-! ### The directory that is looked up -/

/-- What names that are texts lead to from the root of the tree. -/
def named? (tree : FileTree) (names : List String) : Option FileTree :=
  (Workspace.follow tree [] (names.map .text)).bind tree.get?

/-- On the way from a place there is a directory that cannot be listed, and the next name looks
like a pattern. -/
def IsStopped (tree : FileTree) (place : Place) (names : List String) : Prop :=
  ∃ front name back next, names = front ++ name :: back ∧
    Workspace.follow tree place (front.map .text) = some next ∧ isPatternLike name = true ∧
    (tree.get? next).any FileTree.isUnlistable = true

/-- **The directory that names lead to cannot be looked up**: it cannot be listed itself, or the
way there is stopped. -/
def IsDenied (tree : FileTree) (names : List String) : Prop :=
  IsStopped tree [] names ∨ (named? tree names).any FileTree.isUnlistable = true

theorem isStopped_cons {place : Place} {name : String} {names : List String} :
    IsStopped tree place (name :: names) ↔
      (isPatternLike name = true ∧ (tree.get? place).any FileTree.isUnlistable = true) ∨
        ∃ next, Workspace.step? tree place name = some next ∧ IsStopped tree next names := by
  constructor
  · rintro ⟨front, stop, back, last, hnames, hfollow, hstop⟩
    cases front with
    | nil =>
      obtain ⟨rfl, rfl⟩ := List.cons.inj hnames
      obtain rfl := Option.some.inj hfollow
      exact .inl hstop
    | cons first front =>
      obtain ⟨rfl, rfl⟩ := List.cons.inj hnames
      obtain ⟨next, hnext, hfollow⟩ := Option.bind_eq_some_iff.mp hfollow
      exact .inr ⟨next, hnext, front, stop, back, last, rfl, hfollow, hstop⟩
  · rintro (hstop | ⟨next, hnext, front, stop, back, last, rfl, hfollow, hstop⟩)
    · exact ⟨[], name, names, place, rfl, rfl, hstop⟩
    · exact ⟨name :: front, stop, back, last, rfl,
        Option.bind_eq_some_iff.mpr ⟨next, hnext, hfollow⟩, hstop⟩

/-- Names are followed as they are in paths, unless the way is stopped. -/
theorem locate_cases (tree : FileTree) (place : Place) (names : List String) :
    (IsStopped tree place names ∧ locate tree place names = .error .listing) ∨
      ¬IsStopped tree place names ∧
        locate tree place names = .ok (Workspace.follow tree place (names.map .text)) := by
  induction names generalizing place with
  | nil =>
    refine .inr ⟨?_, rfl⟩
    rintro ⟨front, name, back, -, hnames, -⟩
    simp at hnames
  | cons name names ih =>
    rw [isStopped_cons, locate, List.map_cons, Workspace.follow]
    by_cases hstop : isPatternLike name = true ∧
        (tree.get? place).any FileTree.isUnlistable = true
    · exact .inl ⟨.inl hstop, if_pos (Bool.and_eq_true_iff.mpr hstop)⟩
    rw [if_neg (mt Bool.and_eq_true_iff.mp hstop)]
    simp only [hstop, false_or]
    cases Workspace.step? tree place name with
    | none => exact .inr ⟨by simp, rfl⟩
    | some next => simpa using ih next

/-- **What is listed** are the entries of the directory that names lead to, unless it cannot be
looked up. -/
theorem listing_cases (tree : FileTree) (names : List String) :
    (IsDenied tree names ∧ listing tree names = .error .listing) ∨
      ¬IsDenied tree names ∧
        listing tree names = .ok (((named? tree names).map FileTree.entries).getD []) := by
  unfold listing IsDenied
  rcases locate_cases tree [] names with ⟨hstop, hlocate⟩ | ⟨hstop, hlocate⟩
  · exact .inl ⟨.inl hstop, by rw [hlocate]; rfl⟩
  · rw [hlocate]
    have hfound : (Workspace.follow tree [] (names.map .text)).bind tree.get? =
        named? tree names := rfl
    simp only [hstop, false_or, bind, Except.bind, hfound]
    cases (named? tree names).any FileTree.isUnlistable with
    | true => exact .inl ⟨rfl, rfl⟩
    | false => exact .inr ⟨by simp, rfl⟩

/-! ### The files of a module -/

/-- The names under which the directory of a module is looked up. -/
def lookupNames (a : Analysis) (dir : List String) : List String :=
  a.names.map EntryName.lossy ++ dir

/-- The configuration file stands directly in the directory that is looked up for a module, and is
not left out. The module is given by the names from the root, as they are shown. -/
structure Finds (a : Analysis) (tree : FileTree) (dir : List String) (name : String)
    (file : FileTree) : Prop where
  mem : ∃ directory, named? tree (a.lookupNames dir) = some directory ∧
    (.text name, file) ∈ directory.entries
  isFile : file.isDirectory = false
  isConfigurationFile : Discovery.isConfigurationFile name = true
  notExcluded : Discovery.isExcluded a.exclude (a.nameOf ("/".intercalate (dir ++ [name]))) = false

/-- The files among the entries of a directory that are read for its module, by their paths from
the root and in the order of reading. -/
def keptFiles (a : Analysis) (dir : List String) (entries : List (EntryName × FileTree)) :
    List (String × FileTree) :=
  let files := (filesWith ".tf" entries ++ filesWith ".tf.json" entries).map fun (name, file) =>
    ("/".intercalate (dir ++ [name]), file)
  files.filter fun (path, _) => !Discovery.isExcluded a.exclude (a.nameOf path)

theorem mem_filesWith {suffix name : String} {entries : List (EntryName × FileTree)}
    {file : FileTree} :
    (name, file) ∈ filesWith suffix entries ↔
      (.text name, file) ∈ entries ∧ file.isDirectory = false ∧ name.endsWith suffix = true := by
  simp only [filesWith, List.mem_mergeSort, List.mem_filterMap]
  constructor
  · rintro ⟨⟨other, inner⟩, hmem, hfile⟩
    obtain ⟨text, htext, hfile⟩ := Option.bind_eq_some_iff.mp hfile
    cases other with
    | bytes content isNoText => cases htext
    | text other =>
      obtain rfl := Option.some.inj htext
      obtain ⟨⟨hsuffix, hinner⟩, rfl, rfl⟩ :
          (other.endsWith suffix = true ∧ inner.isDirectory = false) ∧ other = name ∧
            inner = file := by
        simpa using hfile
      exact ⟨hmem, hinner, hsuffix⟩
  · rintro ⟨hmem, hfile, hsuffix⟩
    exact ⟨_, hmem, by simp [EntryName.text?, hsuffix, hfile]⟩

theorem isConfigurationFile_text {name : String} :
    Discovery.isConfigurationFile name = true ↔
      name.endsWith ".tf" = true ∨ name.endsWith ".tf.json" = true := by
  simp [Discovery.isConfigurationFile, EntryName.text?]

/-- **What is read is what is found.** -/
theorem mem_keptFiles {dir : List String} {path : String} {file : FileTree} :
    (path, file) ∈ a.keptFiles dir
        (((named? tree (a.lookupNames dir)).map FileTree.entries).getD []) ↔
      ∃ name, a.Finds tree dir name file ∧ path = "/".intercalate (dir ++ [name]) := by
  have hentries : ∀ name file, (.text name, file) ∈
      ((named? tree (a.lookupNames dir)).map FileTree.entries).getD [] ↔
        ∃ directory, named? tree (a.lookupNames dir) = some directory ∧
          (.text name, file) ∈ directory.entries := by
    intro name file
    cases named? tree (a.lookupNames dir) <;> simp
  simp only [keptFiles, List.mem_filter, List.mem_map, List.mem_append, Prod.exists, mem_filesWith,
    hentries, Prod.mk.injEq]
  constructor
  · rintro ⟨⟨name, _, hmem, rfl, rfl⟩, hexcluded⟩
    rcases hmem with ⟨hmem, hfile, hsuffix⟩ | ⟨hmem, hfile, hsuffix⟩
    · exact ⟨name, ⟨hmem, hfile, isConfigurationFile_text.mpr (.inl hsuffix),
        by simpa using hexcluded⟩, rfl⟩
    · exact ⟨name, ⟨hmem, hfile, isConfigurationFile_text.mpr (.inr hsuffix),
        by simpa using hexcluded⟩, rfl⟩
  · rintro ⟨name, hfinds, rfl⟩
    refine ⟨⟨name, file, ?_, rfl, rfl⟩, by simp [hfinds.notExcluded]⟩
    exact (isConfigurationFile_text.mp hfinds.isConfigurationFile).imp
      (⟨hfinds.mem, hfinds.isFile, ·⟩) (⟨hfinds.mem, hfinds.isFile, ·⟩)

/-- Reads a file, given its path from the root, under the name that rules know. -/
def readNamed (a : Analysis) (file : String × FileTree) : Except AccessError (String × String) :=
  (a.readFile file.1 file.2).map fun text => (a.nameOf file.1, text)

theorem readFiles_eq (files : List (String × FileTree)) :
    a.readFiles files = files.mapM a.readNamed := by
  induction files with
  | nil => rfl
  | cons file files ih =>
    rw [readFiles, List.mapM_cons, ih, readNamed]
    cases a.readFile file.1 file.2 <;> rfl

theorem readFile_eq_ok_iff {path text : String} {file : FileTree} :
    a.readFile path file = .ok text ↔ file.text? = some text := by
  unfold readFile FileTree.text?
  cases file.content? with
  | none => simp
  | some content =>
    dsimp only
    rw [Option.bind_some]
    cases String.fromUTF8? content <;> simp

theorem moduleFiles_eq (place : Place) :
    a.moduleFiles tree place = (listing tree (a.lookupNames (a.shownNames place))).bind
      fun entries => (a.keptFiles (a.shownNames place) entries).mapM a.readNamed := by
  unfold moduleFiles
  simp only [readFiles_eq]
  rfl

/-- What is read depends on where the analysis looks and what it leaves out, not on rules and
settings. -/
theorem project_congr {b : Analysis} (hroot : a.root = b.root) (hnames : a.names = b.names)
    (hplace : a.place = b.place) (hexclude : a.exclude = b.exclude) (tree : FileTree) :
    a.project tree = b.project tree := by
  have hname : a.nameOf = b.nameOf := by
    funext path
    rw [nameOf, hnames, nameOf]
  have hkept : a.keptFiles = b.keptFiles := by
    funext dir entries
    rw [keptFiles, hexclude, hname, keptFiles]
  have hread : a.readNamed = b.readNamed := by
    funext file
    rw [readNamed, readFile, pathOf, hroot, hname, readNamed, readFile, pathOf]
  have hshown : a.shownNames = b.shownNames := by
    funext place
    rw [shownNames, hplace, shownNames]
  have hlookup : a.lookupNames = b.lookupNames := by
    funext dir
    rw [lookupNames, hnames, lookupNames]
  funext place
  rw [project, moduleFiles_eq, hkept, hread, hshown, hlookup, project, moduleFiles_eq]

/-- **A module can be read**: its directory can be looked up, and the files there are texts. -/
def IsReadable (a : Analysis) (tree : FileTree) (place : Place) : Prop :=
  ¬IsDenied tree (a.lookupNames (a.shownNames place)) ∧
    ∀ name file, a.Finds tree (a.shownNames place) name file → file.text?.isSome = true

/-- **Why a module cannot be read.** -/
inductive Fails (a : Analysis) (tree : FileTree) (place : Place) : AccessError → Prop
  | listing : IsDenied tree (a.lookupNames (a.shownNames place)) → Fails a tree place .listing
  | denied {name : String} {file : FileTree} : a.Finds tree (a.shownNames place) name file →
      file.content? = none →
      Fails a tree place (.denied (a.pathOf ("/".intercalate (a.shownNames place ++ [name]))))
  | notText {name : String} {file : FileTree} {content : ByteArray} :
      a.Finds tree (a.shownNames place) name file → file.content? = some content →
      String.fromUTF8? content = none →
      Fails a tree place (.notText (a.pathOf ("/".intercalate (a.shownNames place ++ [name]))))

theorem fails_of_moduleFiles_eq_error {place : Place} {e : AccessError}
    (h : a.moduleFiles tree place = .error e) : a.Fails tree place e := by
  rw [moduleFiles_eq] at h
  rcases listing_cases tree (a.lookupNames (a.shownNames place)) with ⟨hdenied, hlist⟩ | ⟨-, hlist⟩
  · rw [hlist] at h
    cases h
    exact .listing hdenied
  · rw [hlist] at h
    obtain ⟨⟨path, file⟩, hfile, hfail⟩ := exists_of_mapM_eq_error h
    obtain ⟨name, hfinds, rfl⟩ := mem_keptFiles.mp hfile
    have hread := map_eq_error hfail
    unfold readFile at hread
    cases hcontent : file.content? with
    | none =>
      simp only [hcontent] at hread
      cases hread
      exact .denied hfinds hcontent
    | some content =>
      simp only [hcontent] at hread
      cases htext : String.fromUTF8? content with
      | some text => simp [htext] at hread
      | none =>
        simp only [htext] at hread
        cases hread
        exact .notText hfinds hcontent htext

/-- A module that is not read has a cause for it, and the cause is reported. -/
theorem fails_of_project_eq_error {place : Place} {e : AnalysisError}
    (h : a.project tree place = .error e) : ∃ cause, e = .unreadable cause ∧
      a.Fails tree place cause := by
  have h := map_eq_error h
  cases hfiles : a.moduleFiles tree place with
  | ok files =>
    rw [hfiles] at h
    cases h
  | error cause =>
    rw [hfiles] at h
    cases h
    exact ⟨cause, rfl, fails_of_moduleFiles_eq_error hfiles⟩

theorem Fails.not_isReadable {place : Place} {e : AccessError} (h : a.Fails tree place e) :
    ¬a.IsReadable tree place := by
  rintro ⟨hlisted, htexts⟩
  cases h with
  | listing hdenied => exact hlisted hdenied
  | denied hfinds hcontent =>
    have htext := htexts _ _ hfinds
    rw [FileTree.text?, hcontent] at htext
    cases htext
  | notText hfinds hcontent hnone =>
    have htext := htexts _ _ hfinds
    rw [FileTree.text?, hcontent, Option.bind_some, hnone] at htext
    cases htext

theorem mem_of_moduleFiles_eq_ok {place : Place} {files : List (String × String)}
    (h : a.moduleFiles tree place = .ok files) {shown text : String} :
    (shown, text) ∈ files ↔ ∃ name file, a.Finds tree (a.shownNames place) name file ∧
      shown = a.nameOf ("/".intercalate (a.shownNames place ++ [name])) ∧
      file.text? = some text := by
  rw [moduleFiles_eq] at h
  rcases listing_cases tree (a.lookupNames (a.shownNames place)) with ⟨-, hlist⟩ | ⟨-, hlist⟩
  · rw [hlist] at h
    cases h
  rw [hlist] at h
  rw [mem_of_mapM_eq_ok h]
  constructor
  · rintro ⟨⟨path, file⟩, hfile, hread⟩
    obtain ⟨name, hfinds, rfl⟩ := mem_keptFiles.mp hfile
    obtain ⟨found, hfound, heq⟩ := map_eq_ok hread
    obtain ⟨rfl, rfl⟩ := Prod.mk.inj heq
    exact ⟨name, file, hfinds, rfl, readFile_eq_ok_iff.mp hfound⟩
  · rintro ⟨name, file, hfinds, rfl, htext⟩
    refine ⟨(_, file), mem_keptFiles.mpr ⟨name, hfinds, rfl⟩, ?_⟩
    rw [readNamed, readFile_eq_ok_iff.mpr htext]
    rfl

/-- **A module is read if it can be**, and otherwise not. -/
theorem exists_project_iff {place : Place} :
    (∃ p, a.project tree place = .ok p) ↔ a.IsReadable tree place := by
  constructor
  · rintro ⟨p, hp⟩
    obtain ⟨files, hfiles, -⟩ := map_eq_ok hp
    have hfiles := mapError_eq_ok hfiles
    have hread := hfiles
    rw [moduleFiles_eq] at hread
    rcases listing_cases tree (a.lookupNames (a.shownNames place)) with
      ⟨-, hlist⟩ | ⟨hlisted, hlist⟩
    · rw [hlist] at hread
      cases hread
    rw [hlist] at hread
    refine ⟨hlisted, fun name file hfinds => ?_⟩
    obtain ⟨read, hread⟩ := exists_mapM_eq_ok_iff.mp ⟨files, hread⟩ (_, file)
      (mem_keptFiles.mpr ⟨name, hfinds, rfl⟩)
    obtain ⟨text, htext, -⟩ := map_eq_ok hread
    exact Option.isSome_iff_exists.mpr ⟨text, readFile_eq_ok_iff.mp htext⟩
  · intro h
    cases hp : a.project tree place with
    | ok p => exact ⟨p, rfl⟩
    | error e =>
      obtain ⟨cause, -, hfails⟩ := fails_of_project_eq_error hp
      exact absurd h hfails.not_isReadable

end Analysis

/-! ### What the search for modules finds -/

namespace FileTree

/-- Induction over the entries of directories. -/
@[elab_as_elim]
theorem induction {motive : FileTree → Prop}
    (step : ∀ tree, (∀ e ∈ tree.entries, motive e.2) → motive tree) (tree : FileTree) :
    motive tree :=
  step tree fun e _ => induction step e.2
decreasing_by
  rename_i hmem
  cases tree with
  | file _ => cases hmem
  | unreadable => cases hmem
  | directory inner | unlistable inner =>
    have hlt : sizeOf e < sizeOf inner := List.sizeOf_lt_of_mem hmem
    obtain ⟨name, found⟩ := e
    simp only [Prod.mk.sizeOf_spec, directory.sizeOf_spec, unlistable.sizeOf_spec] at hlt ⊢
    omega

/-- Something stands in a tree, at the end of some names. -/
inductive Has : FileTree → Place → FileTree → Prop
  | here (tree : FileTree) : Has tree [] tree
  | inside {tree inner found : FileTree} {sub : EntryName} {place : Place} :
      (sub, inner) ∈ tree.entries → Has inner place found → Has tree (sub :: place) found

end FileTree

namespace Discovery

variable {respectGitignore : Bool} {levels : List IgnoreLevel} {place file : Place}

/-- What is found in an entry of a directory at a place. -/
def found (respectGitignore : Bool) (levels : List IgnoreLevel) (place : Place)
    (e : EntryName × FileTree) : Except Place (List Place) :=
  if isSkipped levels (place ++ [e.1]) e.1 e.2.isDirectory then .ok []
  else if e.2.isDirectory then filesBelow respectGitignore levels (place ++ [e.1]) e.2
  else if isConfigurationFile e.1 then .ok [place ++ [e.1]]
  else .ok []

theorem filesAmong_eq (entries : List (EntryName × FileTree)) :
    filesAmong respectGitignore levels place entries =
      (entries.mapM (found respectGitignore levels place)).map List.flatten := by
  induction entries with
  | nil =>
    rw [filesAmong]
    rfl
  | cons e entries ih =>
    have hcons : filesAmong respectGitignore levels place (e :: entries) =
        (found respectGitignore levels place e).bind fun files =>
          (filesAmong respectGitignore levels place entries).map (files ++ ·) := by
      rw [filesAmong]
      rfl
    rw [hcons, ih, List.mapM_cons]
    cases found respectGitignore levels place e with
    | error p => rfl
    | ok files => cases entries.mapM (found respectGitignore levels place) <;> rfl

/-- **The search in a directory** ends there if it cannot be listed, and else goes through its
entries. -/
theorem filesBelow_eq (tree : FileTree) :
    filesBelow respectGitignore levels place tree =
      if tree.isUnlistable then .error place
      else (tree.entries.mapM (found respectGitignore
        (.ofDirectory respectGitignore place tree :: levels) place)).map List.flatten := by
  cases tree with
  | file _ | unreadable | unlistable _ =>
    rw [filesBelow]
    rfl
  | directory entries =>
    rw [filesBelow, filesAmong_eq]
    rfl

theorem mem_of_filesBelow_eq_ok {tree : FileTree} {files : List Place}
    (h : filesBelow respectGitignore levels place tree = .ok files) :
    file ∈ files ↔ ∃ e ∈ tree.entries, ∃ inner, found respectGitignore
      (.ofDirectory respectGitignore place tree :: levels) place e = .ok inner ∧ file ∈ inner := by
  rw [filesBelow_eq] at h
  split at h
  · cases h
  · obtain ⟨parts, hparts, rfl⟩ := map_eq_ok h
    rw [List.mem_flatten]
    constructor
    · rintro ⟨inner, hinner, hfile⟩
      obtain ⟨e, he, hfound⟩ := (mem_of_mapM_eq_ok hparts).mp hinner
      exact ⟨e, he, inner, hfound, hfile⟩
    · rintro ⟨e, he, inner, hfound, hfile⟩
      exact ⟨inner, (mem_of_mapM_eq_ok hparts).mpr ⟨e, he, hfound⟩, hfile⟩

theorem exists_found_of_mem {tree : FileTree} {files : List Place}
    (h : filesBelow respectGitignore levels place tree = .ok files) {e : EntryName × FileTree}
    (he : e ∈ tree.entries) : ∃ inner, found respectGitignore
      (.ofDirectory respectGitignore place tree :: levels) place e = .ok inner := by
  rw [filesBelow_eq] at h
  split at h
  · cases h
  · obtain ⟨parts, hparts, -⟩ := map_eq_ok h
    exact exists_mapM_eq_ok_iff.mp ⟨parts, hparts⟩ e he

/-- What is found in an entry: nothing, if it is passed over; the entry itself, if it is a
configuration file; what is found below it, if it is a directory. -/
theorem mem_of_found_eq_ok {e : EntryName × FileTree} {files : List Place}
    (h : found respectGitignore levels place e = .ok files) :
    file ∈ files ↔ isSkipped levels (place ++ [e.1]) e.1 e.2.isDirectory = false ∧
      (e.2.isDirectory = false ∧ isConfigurationFile e.1 = true ∧ file = place ++ [e.1] ∨
        e.2.isDirectory = true ∧ ∃ inner,
          filesBelow respectGitignore levels (place ++ [e.1]) e.2 = .ok inner ∧ file ∈ inner) := by
  unfold found at h
  split at h
  · rename_i hskipped
    cases h
    simp [hskipped]
  rename_i hskipped
  rw [Bool.not_eq_true] at hskipped
  split at h
  · rename_i hdirectory
    rw [hskipped]
    simp [hdirectory, h]
  rename_i hfile
  rw [Bool.not_eq_true] at hfile
  split at h
  · rename_i hname
    cases h
    rw [hskipped]
    simp [hfile, hname]
  · rename_i hname
    cases h
    simp [hfile, hname]

/-- **What is found is there.** -/
theorem exists_of_mem_filesBelow {tree : FileTree} {files : List Place}
    (h : filesBelow respectGitignore levels place tree = .ok files) (hfile : file ∈ files) :
    ∃ dir name inner, file = place ++ (dir ++ [name]) ∧ tree.Has (dir ++ [name]) inner ∧
      inner.isDirectory = false ∧ isConfigurationFile name = true := by
  induction tree using FileTree.induction generalizing levels place files with
  | step tree ih =>
    obtain ⟨⟨sub, inner⟩, hmem, found, hfound, hin⟩ := (mem_of_filesBelow_eq_ok h).mp hfile
    rcases (mem_of_found_eq_ok hfound).mp hin with
      ⟨-, ⟨hinner, hname, rfl⟩ | ⟨-, below, hbelow, hin⟩⟩
    · exact ⟨[], sub, inner, rfl, .inside hmem (.here inner), hinner, hname⟩
    · obtain ⟨dir, name, last, rfl, hhas, hlast, hname⟩ := ih _ hmem hbelow hin
      exact ⟨sub :: dir, name, last, by simp, .inside hmem hhas, hlast, hname⟩

/-- **The search fails at a directory that cannot be listed.** -/
theorem exists_of_filesBelow_eq_error {tree : FileTree} {stop : Place}
    (h : filesBelow respectGitignore levels place tree = .error stop) :
    ∃ dir inner, stop = place ++ dir ∧ tree.Has dir inner ∧ inner.isUnlistable = true := by
  induction tree using FileTree.induction generalizing levels place with
  | step tree ih =>
    rw [filesBelow_eq] at h
    split at h
    · rename_i hdenied
      cases h
      exact ⟨[], tree, (List.append_nil _).symm, .here tree, hdenied⟩
    · obtain ⟨⟨sub, inner⟩, hmem, hfail⟩ := exists_of_mapM_eq_error (map_eq_error h)
      unfold found at hfail
      split at hfail
      · cases hfail
      split at hfail
      · obtain ⟨dir, last, rfl, hhas, hlast⟩ := ih _ hmem hfail
        exact ⟨sub :: dir, last, by simp, .inside hmem hhas, hlast⟩
      · split at hfail <;> cases hfail

theorem mem_insertPlace {x place : Place} {places : List Place} :
    x ∈ insertPlace place places ↔ x = place ∨ x ∈ places := by
  fun_induction insertPlace place places with
  | case1 => simp
  | case2 => simp
  | case3 => simp
  | case4 other rest _ _ ih => simp [ih, or_left_comm]

theorem mem_foldl_insertPlace {x : Place} {places found : List Place} :
    x ∈ places.foldl (fun found place => insertPlace place found) found ↔
      x ∈ found ∨ x ∈ places := by
  induction places generalizing found with
  | nil => simp
  | cons place places ih =>
    rw [List.foldl_cons, ih, mem_insertPlace, List.mem_cons, or_assoc, or_left_comm]

theorem mem_directoriesOf {root : Place} {files : List Place} :
    place ∈ directoriesOf root files ↔ place ≠ root ∧ ∃ file ∈ files, file.dropLast = place := by
  simp [directoriesOf, mem_foldl_insertPlace, and_comm]

/-- A search that comes to an end has met no malformed file. -/
theorem modulesBelow_of_childModules_eq_ok {exclude : List Glob} {tree : FileTree} {root : Place}
    {places : List Place} (h : childModules respectGitignore exclude tree root = .ok places) :
    modulesBelow respectGitignore exclude tree root = .ok places := by
  unfold childModules at h
  split at h
  · cases h
  · exact mapError_eq_ok h

/-- The directories of child modules are those of files that have been found and are not left
out, apart from the root. -/
theorem mem_of_childModules_eq_ok {exclude : List Glob} {tree : FileTree} {root : Place}
    {places : List Place} (h : childModules respectGitignore exclude tree root = .ok places) :
    place ∈ places ↔ ∃ directory files, tree.get? root = some directory ∧
      filesBelow respectGitignore (levelsAbove respectGitignore tree root) root directory =
        .ok files ∧ place ≠ root ∧ ∃ file ∈ files,
          isExcluded exclude (relativeName root file) = false ∧ file.dropLast = place := by
  have h := modulesBelow_of_childModules_eq_ok h
  unfold modulesBelow at h
  cases htree : tree.get? root with
  | none =>
    rw [htree] at h
    cases h
    simp
  | some directory =>
    rw [htree] at h
    obtain ⟨files, hfiles, rfl⟩ := map_eq_ok h
    simp [mem_directoriesOf, hfiles, and_assoc]

/-- **Child modules lie properly below the root.** -/
theorem exists_of_mem_childModules {exclude : List Glob} {tree : FileTree} {root : Place}
    {places : List Place} (h : childModules respectGitignore exclude tree root = .ok places)
    (hplace : place ∈ places) : ∃ dir, dir ≠ [] ∧ place = root ++ dir := by
  obtain ⟨directory, files, -, hfiles, hne, file, hfile, -, rfl⟩ :=
    (mem_of_childModules_eq_ok h).mp hplace
  obtain ⟨dir, name, inner, rfl, -, -, -⟩ := exists_of_mem_filesBelow hfiles hfile
  rw [← List.append_assoc, List.dropLast_concat] at hne ⊢
  exact ⟨dir, fun hdir => hne (by simp [hdir]), rfl⟩

/-- **Why a search for modules comes to no end**: the root or a directory below it cannot be
listed, or a file above the root that says what is ignored is malformed. -/
inductive Stops (tree : FileTree) (root : Place) : SearchError → Prop
  | unlistable {directory inner : FileTree} {dir : Place} : tree.get? root = some directory →
      directory.Has dir inner → inner.isUnlistable = true →
      Stops tree root (.unlistable (root ++ dir))
  | malformed {depth : Nat} {file : Place} {content : ByteArray} : depth < root.length →
      file ∈ IgnoreLevel.files →
      (tree.get? (root.take depth ++ file)).bind FileTree.content? = some content →
      IgnoreFile.isMalformed content = true →
      Stops tree root (.malformed (root.take depth ++ file))

/-- A malformed file above the root is one that says what is ignored. -/
theorem stops_of_malformedAbove? {tree : FileTree} {root file : Place}
    (h : malformedAbove? respectGitignore tree root = some file) :
    Stops tree root (.malformed file) := by
  obtain ⟨depth, hdepth, hfind⟩ := List.exists_of_findSome?_eq_some h
  obtain ⟨own, hown, rfl⟩ := List.mem_map.mp (List.mem_of_find?_eq_some hfind)
  have hany := List.find?_some hfind
  obtain ⟨content, hcontent, hmalformed⟩ := (Option.any_eq_true _ _).mp hany
  exact .malformed (List.mem_range.mp hdepth) (List.mem_filter.mp hown).1 hcontent hmalformed

theorem stops_of_modulesBelow_eq_error {exclude : List Glob} {tree : FileTree} {root stop : Place}
    (h : modulesBelow respectGitignore exclude tree root = .error stop) :
    Stops tree root (.unlistable stop) := by
  unfold modulesBelow at h
  split at h
  · rename_i directory hroot
    obtain ⟨dir, inner, rfl, hhas, hdenied⟩ := exists_of_filesBelow_eq_error (map_eq_error h)
    exact .unlistable hroot hhas hdenied
  · cases h

/-- **A search that fails has a cause.** -/
theorem stops_of_childModules_eq_error {exclude : List Glob} {tree : FileTree} {root : Place}
    {e : SearchError} (h : childModules respectGitignore exclude tree root = .error e) :
    Stops tree root e := by
  unfold childModules at h
  split at h
  · rename_i file hfile
    cases h
    exact stops_of_malformedAbove? hfile
  · obtain ⟨stop, hstop, rfl⟩ := mapError_eq_error h
    exact stops_of_modulesBelow_eq_error hstop

end Discovery

end TerraLint
