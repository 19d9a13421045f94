import TerraLint.Proofs.Walk

/-!
# No file is lost or counted twice

A recursive analysis looks at a tree twice. It searches the tree for directories with
configuration files, and it looks up each directory that it has found, by its path, to
read its files. Both passes leave files out by the same patterns, but they do so
separately. This file shows that they agree in an orderly tree
(`TerraLint.Analysis.exists_inventory`): the modules handed to the rule set are the root and
the directories below it that hold a file to be read, each such file belongs to the module
of its own directory and to no other, and the two counts of the report are the numbers of
these files and modules.

The passes come apart where the tree is not orderly
(`TerraLint.Analysis.run_loses_file`): the search obeys an ignore file above the root, and
a directory whose name is no text is found by its name and looked up by another.

A file is known to the rule set by its name relative to the root. So it is the names that
have to be told apart, and names are joined by slashes: two files with one name stand in
one place since no part of a name has a slash (`TerraLint.intercalate_slash_inj`).
-/

namespace TerraLint

/-! ### The files of a project -/

namespace Project

/-- Putting a file among others replaces the one of its name, and no other. -/
theorem mem_insert_iff {file g : SourceFile} {files : List SourceFile}
    (h : files.Pairwise fun f g => f.name < g.name) :
    g ∈ insert file files ↔ g = file ∨ g ∈ files ∧ g.name ≠ file.name := by
  fun_induction insert file files with
  | case1 => simp
  | case2 other rest hlt =>
    -- the file comes first, and all others have greater names
    have hne : g ∈ other :: rest → g.name ≠ file.name := by
      intro hg heq
      rcases List.mem_cons.mp hg with rfl | hg
      · exact String.lt_irrefl _ (heq ▸ hlt)
      · have hother := (List.pairwise_cons.mp h).1 g hg
        exact String.lt_irrefl _ (heq ▸ String.lt_trans hlt hother)
    rw [List.mem_cons (a := g) (b := file)]
    exact or_congr_right ⟨fun hg => ⟨hg, hne hg⟩, And.left⟩
  | case3 other rest _ heq =>
    obtain ⟨hother, -⟩ := List.pairwise_cons.mp h
    have hne : g ∈ rest → g.name ≠ other.name := by
      intro hg hname
      exact String.lt_irrefl _ (hname ▸ hother g hg)
    rw [List.mem_cons, List.mem_cons, heq]
    refine or_congr_right ⟨fun hg => ⟨.inr hg, hne hg⟩, ?_⟩
    rintro ⟨rfl | hg, hname⟩
    · exact absurd rfl hname
    · exact hg
  | case4 other rest _ hne ih =>
    rw [List.mem_cons, List.mem_cons, ih (List.pairwise_cons.mp h).2]
    constructor
    · rintro (rfl | rfl | ⟨hg, hname⟩)
      · exact .inr ⟨.inl rfl, Ne.symm hne⟩
      · exact .inl rfl
      · exact .inr ⟨.inr hg, hname⟩
    · rintro (rfl | ⟨rfl | hg, hname⟩)
      · exact .inr (.inl rfl)
      · exact .inl rfl
      · exact .inr (.inr ⟨hg, hname⟩)

/-- **Of two contents under one name the later counts.** -/
theorem mem_arrange {files : List (String × String)} {g : SourceFile} :
    g ∈ arrange files ↔ files.reverse.lookup g.name = some g.content := by
  induction files using List.reverseRecOn with
  | nil => simp [arrange]
  | append_singleton files file ih =>
    have harrange : arrange (files ++ [file]) = insert ⟨file.1, file.2⟩ (arrange files) := by
      simp [arrange]
    rw [harrange, mem_insert_iff (ordered_arrange files), ih, List.reverse_concat, List.lookup_cons]
    obtain ⟨name, content⟩ := g
    by_cases hname : name = file.1
    · subst hname
      simp [eq_comm]
    · simp [hname, beq_false_of_ne hname]

/-- Where every name has one content, the files are those listed. -/
theorem mem_arrange_of_functional {files : List (String × String)}
    (h : ∀ name c d, (name, c) ∈ files → (name, d) ∈ files → c = d) {g : SourceFile} :
    g ∈ arrange files ↔ (g.name, g.content) ∈ files := by
  rw [mem_arrange]
  constructor
  · intro hlookup
    exact List.mem_reverse.mp (mem_of_lookup hlookup)
  · intro hmem
    cases hlookup : files.reverse.lookup g.name with
    | none =>
      have hnone := List.lookup_eq_none_iff.mp hlookup _ (List.mem_reverse.mpr hmem)
      simp at hnone
    | some content =>
      have hfound := List.mem_reverse.mp (mem_of_lookup hlookup)
      rw [h _ _ _ hfound hmem]

end Project

/-! ### Names joined by slashes -/

/-- Names without slashes can be told from the path that they make. -/
theorem intercalate_slash_inj {xs ys : List String} (hxs : ∀ x ∈ xs, '/' ∉ x.toList)
    (hys : ∀ y ∈ ys, '/' ∉ y.toList) (hx : xs ≠ []) (hy : ys ≠ [])
    (h : "/".intercalate xs = "/".intercalate ys) : xs = ys := by
  have hlists : xs.map String.toList = ys.map String.toList := by
    have hjoin := congrArg String.toList h
    rw [String.toList_intercalate, String.toList_intercalate] at hjoin
    have hsplit := congrArg (List.splitOn '/') hjoin
    have hslash : "/".toList = ['/'] := by decide
    rw [hslash, List.splitOn_intercalate _ (by simpa using hxs) (by simpa using hx),
      List.splitOn_intercalate _ (by simpa using hys) (by simpa using hy)] at hsplit
    exact hsplit
  exact List.map_injective_iff.mpr (fun _ _ => String.toList_injective) hlists

/-- A set has as many members as a list of them without repetitions. -/
theorem encard_eq_length {α : Type} {s : Set α} {xs : List α} (hnodup : xs.Nodup)
    (h : ∀ x, x ∈ s ↔ x ∈ xs) : s.encard = xs.length := by
  classical
  have hs : s = xs.toFinset := Set.ext fun x => by simp [h x]
  rw [hs, Set.encard_coe_eq_coe_finsetCard, List.toFinset_card_of_nodup hnodup]

namespace Analysis

variable {a : Analysis} {tree : FileTree}

/-- **A path belongs to one file**, as far as names are texts. -/
theorem Keeps.eq_of_path_eq (h : tree.IsPlain a.place) {dir dir' : Place} {name name' : String}
    {file file' : FileTree} (hkeeps : a.Keeps tree dir name file)
    (hkeeps' : a.Keeps tree dir' name' file') (hdir : ∀ part ∈ dir, part.isText = true)
    (hdir' : ∀ part ∈ dir', part.isText = true)
    (hpath : "/".intercalate (dir.map EntryName.lossy ++ [name]) =
      "/".intercalate (dir'.map EntryName.lossy ++ [name'])) :
    dir = dir' ∧ name = name' ∧ file = file' := by
  obtain ⟨root, hroot, hwell, -⟩ := h.exists_root
  have hslash : ∀ {dir name file}, a.Keeps tree dir name file →
      ∀ part ∈ dir.map EntryName.lossy ++ [name], '/' ∉ part.toList := by
    intro dir name file hkeeps part hpart
    have hall := (hkeeps.has hroot).forall_mem (P := fun entry => '/' ∉ entry.lossy.toList)
      fun place found hhas => (hwell place found hhas).2
    rcases List.mem_append.mp hpart with hpart | hpart
    · obtain ⟨entry, hentry, rfl⟩ := List.mem_map.mp hpart
      exact hall entry (List.mem_append_left _ hentry)
    · obtain rfl := List.mem_singleton.mp hpart
      exact hall (.text part) (List.mem_append_right _ (List.mem_singleton_self _))
  have hparts := intercalate_slash_inj (hslash hkeeps) (hslash hkeeps') (by simp) (by simp) hpath
  obtain ⟨hdirs, rfl⟩ : dir.map EntryName.lossy = dir'.map EntryName.lossy ∧ name = name' := by
    simpa using hparts
  obtain rfl : dir = dir' := by
    rw [← EntryName.map_text_lossy hdir, hdirs, EntryName.map_text_lossy hdir']
  have hfound := (hkeeps.has hroot).get?_eq hwell
  exact ⟨rfl, rfl, Option.some.inj (hfound.symm.trans ((hkeeps'.has hroot).get?_eq hwell))⟩

/-! ### The modules -/

/-- The directories at places below the root, relative to it. -/
def relativeDirs (a : Analysis) (places : List Place) : List Place :=
  places.map (List.drop a.place.length)

section Children

variable {places : List Place} (hplaces : a.children tree = .ok places)

include hplaces

theorem map_relativeDirs : (a.relativeDirs places).map (a.place ++ ·) = places := by
  rw [relativeDirs, List.map_map]
  refine (List.map_congr_left fun place hplace => ?_).trans (List.map_id _)
  obtain ⟨dir, -, rfl⟩ := Discovery.exists_of_mem_childModules hplaces hplace
  simp

theorem projects_eq (h : a.recursive = true) : a.projects tree =
    (([] :: a.relativeDirs places).map (a.place ++ ·)).mapM (a.project tree) := by
  have hchildren : a.childPlaces tree = .ok places := by
    rw [children] at hplaces
    rw [childPlaces, if_pos h, hplaces]
    rfl
  rw [projects, hchildren, List.map_cons, map_relativeDirs hplaces, List.append_nil]
  rfl

theorem nodup_dirs : ([] :: a.relativeDirs places).Nodup := by
  have hchildren : places.Nodup := by
    refine List.Pairwise.imp ?_ (Discovery.pairwise_childModules hplaces)
    rintro place _ hlt rfl
    exact List.lt_irrefl place hlt
  refine List.nodup_cons.mpr ⟨fun hroot => ?_, .of_map _ (map_relativeDirs hplaces ▸ hchildren)⟩
  obtain ⟨place, hplace, hdrop⟩ := List.mem_map.mp hroot
  obtain ⟨dir, hdir, rfl⟩ := Discovery.exists_of_mem_childModules hplaces hplace
  exact hdir (List.drop_left.symm.trans hdrop)

theorem mem_relativeDirs (h : tree.IsPlain a.place) {dir : Place} :
    dir ∈ a.relativeDirs places ↔ dir ≠ [] ∧ ∃ name file, a.Keeps tree dir name file := by
  rw [relativeDirs, List.mem_map]
  constructor
  · rintro ⟨place, hplace, rfl⟩
    obtain ⟨dir, rfl, hchild⟩ := (mem_children_iff h hplaces).mp hplace
    rwa [List.drop_left]
  · intro hchild
    exact ⟨a.place ++ dir, (mem_children_iff h hplaces).mpr ⟨dir, rfl, hchild⟩, List.drop_left⟩

end Children

/-! ### All modules of a recursive analysis -/

/-- **A tree in which the search and the reading meet**: it is plain, and the path of the root and
the names of the directories with files to be read are texts. -/
structure IsOrderly (a : Analysis) (tree : FileTree) : Prop where
  plain : tree.IsPlain a.place
  reached : a.IsReached tree
  names : ∀ dir name file, a.Keeps tree dir name file → ∀ part ∈ dir, part.isText = true

section Projects

variable (h : a.IsOrderly tree)

include h

/-- **The files of a module** are the files that are kept in its directory, where its name is a
text. -/
theorem mem_files_iff {dir : Place} {directory : FileTree}
    (hdirectory : tree.get? (a.place ++ dir) = some directory)
    (hdir : ∀ part ∈ dir, part.isText = true) {p : Project}
    (hp : a.project tree (a.place ++ dir) = .ok p) {file : SourceFile} :
    file ∈ p.files ↔ ∃ name found, a.Keeps tree dir name found ∧
      file.name = "/".intercalate (dir.map EntryName.lossy ++ [name]) ∧
        found.text? = some file.content := by
  obtain ⟨files, hfiles, rfl⟩ := map_eq_ok hp
  have hmem : ∀ {path text}, (path, text) ∈ files ↔ ∃ name found, a.Keeps tree dir name found ∧
      path = "/".intercalate (dir.map EntryName.lossy ++ [name]) ∧ found.text? = some text := by
    intro path text
    rw [mem_of_moduleFiles_eq_ok (mapError_eq_ok hfiles)]
    simp only [shownNames_append, nameOf_of_isReached h.reached,
      finds_iff_keeps h.reached h.plain hdirectory hdir]
  rw [← hmem]
  refine Project.mem_arrange_of_functional fun path c d hc hd => ?_
  obtain ⟨name, found, hkeeps, rfl, htext⟩ := hmem.mp hc
  obtain ⟨name', found', hkeeps', hpath, htext'⟩ := hmem.mp hd
  obtain ⟨-, -, rfl⟩ := hkeeps.eq_of_path_eq h.plain hkeeps' hdir hdir hpath
  exact Option.some.inj (htext.symm.trans htext')

variable {places : List Place} (hplaces : a.children tree = .ok places)

include hplaces

/-- The directory of a module is there, and its name is a text. -/
theorem exists_directory {dir : Place} (hdir : dir ∈ [] :: a.relativeDirs places) :
    (∃ directory, tree.get? (a.place ++ dir) = some directory) ∧
      ∀ part ∈ dir, part.isText = true := by
  rcases List.mem_cons.mp hdir with rfl | hdir
  · obtain ⟨root, hroot, -⟩ := h.plain.exists_root
    exact ⟨⟨root, by rwa [List.append_nil]⟩, by simp⟩
  · obtain ⟨-, name, file, hkeeps⟩ := (mem_relativeDirs hplaces h.plain).mp hdir
    obtain ⟨directory, hdirectory, -⟩ := hkeeps.mem
    exact ⟨⟨directory, hdirectory⟩, h.names _ _ _ hkeeps⟩

variable (hrecursive : a.recursive = true)

include hrecursive

theorem exists_projects
    (htexts : ∀ dir name file, a.Keeps tree dir name file → file.text?.isSome = true) :
    ∃ ps, a.projects tree = .ok ps := by
  rw [projects_eq hplaces hrecursive, exists_mapM_eq_ok_iff]
  intro place hplace
  obtain ⟨dir, hdir, rfl⟩ := List.mem_map.mp hplace
  obtain ⟨⟨directory, hdirectory⟩, hparts⟩ := exists_directory h hplaces hdir
  rw [exists_project_iff, IsReadable, shownNames_append]
  refine ⟨not_isDenied_of_isReached h.reached h.plain hdirectory hparts, fun name file hfinds => ?_⟩
  exact htexts dir name file ((finds_iff_keeps h.reached h.plain hdirectory hparts).mp hfinds)

variable {ps : List Project} {p : Project} (hps : a.projects tree = .ok ps)

include hps

omit h in
theorem paths_of_projects_eq_ok :
    ps.map (·.path) = ([] :: a.relativeDirs places).map (List.map EntryName.lossy) := by
  rw [projects_eq hplaces hrecursive, mapM_eq_ok_iff, List.forall₂_map_left_iff] at hps
  generalize [] :: a.relativeDirs places = dirs at hps
  induction hps with
  | nil => rfl
  | cons hp _ ih => rw [List.map_cons, ih, path_of_project_eq_ok hp, shownNames_append,
      List.map_cons]

/-- A module is that of a directory, and its files are those kept there. -/
theorem exists_dir_of_mem (hp : p ∈ ps) :
    ∃ dir ∈ [] :: a.relativeDirs places, p.path = dir.map EntryName.lossy ∧
      a.project tree (a.place ++ dir) = .ok p ∧
      ∀ file, file ∈ p.files ↔ ∃ name found, a.Keeps tree dir name found ∧
        file.name = "/".intercalate (dir.map EntryName.lossy ++ [name]) ∧
          found.text? = some file.content := by
  rw [projects_eq hplaces hrecursive] at hps
  obtain ⟨place, hplace, hproject⟩ := (mem_of_mapM_eq_ok hps).mp hp
  obtain ⟨dir, hdir, rfl⟩ := List.mem_map.mp hplace
  obtain ⟨⟨directory, hdirectory⟩, hparts⟩ := exists_directory h hplaces hdir
  refine ⟨dir, hdir, ?_, hproject, fun file => ?_⟩
  · rw [path_of_project_eq_ok hproject, shownNames_append]
  · exact mem_files_iff h hdirectory hparts hproject

/-- **No file is lost**: its directory is that of a module. -/
theorem Keeps.exists_project {dir : Place} {name : String} {file : FileTree}
    (hkeeps : a.Keeps tree dir name file) :
    ∃ p ∈ ps, a.project tree (a.place ++ dir) = .ok p := by
  have hdir : dir ∈ [] :: a.relativeDirs places := by
    by_cases hroot : dir = []
    · simp [hroot]
    · have hchild := (mem_relativeDirs hplaces h.plain).mpr ⟨hroot, name, file, hkeeps⟩
      exact List.mem_cons_of_mem _ hchild
  rw [projects_eq hplaces hrecursive] at hps
  obtain ⟨p, hp⟩ := exists_mapM_eq_ok_iff.mp ⟨ps, hps⟩ _ (List.mem_map_of_mem hdir)
  exact ⟨p, (mem_of_mapM_eq_ok hps).mpr ⟨_, List.mem_map_of_mem hdir, hp⟩, hp⟩

/-- **No file is read twice**: a module has no files but those of its own directory. -/
theorem Keeps.project_eq {dir : Place} {name : String} {found : FileTree}
    (hkeeps : a.Keeps tree dir name found) (hp : p ∈ ps) {file : SourceFile}
    (hfile : file ∈ p.files)
    (hname : file.name = "/".intercalate (dir.map EntryName.lossy ++ [name])) :
    a.project tree (a.place ++ dir) = .ok p := by
  obtain ⟨other, -, -, hproject, hfiles⟩ :=
    exists_dir_of_mem h hplaces hrecursive hps hp
  obtain ⟨name', found', hkeeps', hother, -⟩ := (hfiles file).mp hfile
  obtain ⟨rfl, -⟩ := hkeeps'.eq_of_path_eq h.plain hkeeps (h.names _ _ _ hkeeps')
    (h.names _ _ _ hkeeps) (hother.symm.trans hname)
  exact hproject

theorem nodup_paths : (ps.map (·.path)).Nodup := by
  rw [paths_of_projects_eq_ok hplaces hrecursive hps]
  refine (nodup_dirs hplaces).map_on fun dir hdir dir' hdir' heq => ?_
  have hparts := (exists_directory h hplaces hdir).2
  have hparts' := (exists_directory h hplaces hdir').2
  rw [← EntryName.map_text_lossy hparts, heq, EntryName.map_text_lossy hparts']

/-- The names of files, module by module, are different. -/
theorem nodup_names : (ps.flatMap fun p => p.files.map (·.name)).Nodup := by
  refine List.nodup_flatMap.mpr ⟨fun p _ => ?_, ?_⟩
  · refine List.pairwise_map.mpr (p.ordered.imp ?_)
    intro file other hlt heq
    exact String.lt_irrefl _ (heq ▸ hlt)
  · have hpaths := nodup_paths h hplaces hrecursive hps
    refine (List.pairwise_map.mp hpaths).imp_of_mem ?_
    intro p q hp hq hne name hname hname'
    obtain ⟨file, hfile, rfl⟩ := List.mem_map.mp hname
    obtain ⟨other, hother, heq⟩ := List.mem_map.mp hname'
    obtain ⟨dir, -, -, hproject, hfiles⟩ :=
      exists_dir_of_mem h hplaces hrecursive hps hp
    obtain ⟨base, found, hkeeps, hbase, -⟩ := (hfiles file).mp hfile
    have hsame := hkeeps.project_eq h hplaces hrecursive hps hq hother
      (heq.trans hbase)
    rw [hproject] at hsame
    exact hne (congrArg Project.path (Except.ok.inj hsame))

variable (htexts : ∀ dir name file, a.Keeps tree dir name file → file.text?.isSome = true)

include htexts

/-- A file that is kept is in the module of its directory, with its text. -/
theorem Keeps.exists_file {dir : Place} {name : String} {found : FileTree}
    (hkeeps : a.Keeps tree dir name found) :
    ∃ p ∈ ps, p.path = dir.map EntryName.lossy ∧ a.project tree (a.place ++ dir) = .ok p ∧
      ∃ text, found.text? = some text ∧
        ⟨"/".intercalate (dir.map EntryName.lossy ++ [name]), text⟩ ∈ p.files := by
  obtain ⟨p, hp, hproject⟩ := hkeeps.exists_project h hplaces hrecursive hps
  obtain ⟨text, htext⟩ := Option.isSome_iff_exists.mp (htexts _ _ _ hkeeps)
  obtain ⟨directory, hdirectory, -⟩ := hkeeps.mem
  refine ⟨p, hp, ?_, hproject, text, htext, ?_⟩
  · rw [path_of_project_eq_ok hproject, shownNames_append]
  · exact (mem_files_iff h hdirectory (h.names _ _ _ hkeeps) hproject).mpr
      ⟨name, found, hkeeps, rfl, htext⟩

theorem mem_names {path : String} :
    path ∈ (ps.flatMap fun p => p.files.map (·.name)) ↔
      ∃ dir name file, a.Keeps tree dir name file ∧
        path = "/".intercalate (dir.map EntryName.lossy ++ [name]) := by
  simp only [List.mem_flatMap, List.mem_map]
  constructor
  · rintro ⟨p, hp, file, hfile, rfl⟩
    obtain ⟨dir, -, -, -, hfiles⟩ := exists_dir_of_mem h hplaces hrecursive hps hp
    obtain ⟨name, found, hkeeps, hname, -⟩ := (hfiles file).mp hfile
    exact ⟨dir, name, found, hkeeps, hname⟩
  · rintro ⟨dir, name, file, hkeeps, rfl⟩
    obtain ⟨p, hp, -, -, text, -, hfile⟩ :=
      hkeeps.exists_file h hplaces hrecursive hps htexts
    exact ⟨p, hp, _, hfile, rfl⟩

/-- The number of files to be read is that of all names. -/
theorem encard_keeps :
    {file : Place × String | ∃ found, a.Keeps tree file.1 file.2 found}.encard =
      (ps.flatMap fun p => p.files.map (·.name)).length := by
  -- files are counted by their names, and no two of them have one name
  have hinj : Set.InjOn (fun file : Place × String =>
      "/".intercalate (file.1.map EntryName.lossy ++ [file.2]))
      {file | ∃ found, a.Keeps tree file.1 file.2 found} := by
    rintro ⟨dir, name⟩ ⟨found, hkeeps⟩ ⟨dir', name'⟩ ⟨found', hkeeps'⟩ heq
    obtain ⟨hdir, hname, -⟩ := hkeeps.eq_of_path_eq h.plain hkeeps' (h.names _ _ _ hkeeps)
      (h.names _ _ _ hkeeps') heq
    exact Prod.ext hdir hname
  rw [← hinj.encard_image]
  refine encard_eq_length (nodup_names h hplaces hrecursive hps) fun path => ?_
  rw [mem_names h hplaces hrecursive hps htexts]
  constructor
  · rintro ⟨⟨dir, name⟩, ⟨found, hkeeps⟩, rfl⟩
    exact ⟨dir, name, found, hkeeps, rfl⟩
  · rintro ⟨dir, name, found, hkeeps, rfl⟩
    exact ⟨(dir, name), ⟨found, hkeeps⟩, rfl⟩

end Projects

/-! ### The counts -/

theorem modulesChecked_reportOnAll (h : a.ruleSet.coverage = .allModules) (ps : List Project) :
    (a.reportOnAll ps).modulesChecked = ps.length := by
  induction ps with
  | nil => rfl
  | cons p ps ih =>
    rw [reportOnAll_cons, reportOn_of_covers (.inl h), Report.append_eq, ih, List.length_cons]
    exact Nat.add_comm _ _

theorem filesChecked_reportOnAll (h : a.ruleSet.coverage = .allModules) (ps : List Project) :
    (a.reportOnAll ps).filesChecked = (ps.flatMap fun p => p.files.map (·.name)).length := by
  induction ps with
  | nil => rfl
  | cons p ps ih =>
    rw [reportOnAll_cons, reportOn_of_covers (.inl h), Report.append_eq, ih, List.flatMap_cons,
      List.length_append, List.length_map]

/-- **The modules that are handed to the rule set, and the counts of the report.** -/
structure Inventory (a : Analysis) (tree : FileTree) (ps : List Project) (report : Report) :
    Prop where
  /-- The root comes first, then the directories below it that hold a file to be read, each of
  them once. -/
  modules : ∃ dirs : List Place,
    ps.map (·.path) = ([] :: dirs).map (List.map EntryName.lossy) ∧ dirs.Nodup ∧
      ∀ dir, dir ∈ dirs ↔ dir ≠ [] ∧ ∃ name file, a.Keeps tree dir name file
  /-- A file to be read belongs to the module of its directory, under its path from the root and
  with its text, and to no other module. -/
  belongs : ∀ dir name found, a.Keeps tree dir name found →
    ∃ p ∈ ps, p.path = dir.map EntryName.lossy ∧
      (∃ text, found.text? = some text ∧
        ⟨"/".intercalate (dir.map EntryName.lossy ++ [name]), text⟩ ∈ p.files) ∧
      ∀ q ∈ ps, ∀ file ∈ q.files,
        file.name = "/".intercalate (dir.map EntryName.lossy ++ [name]) → q = p
  /-- Modules have no other files, and so none that are left out. -/
  isKept : ∀ p ∈ ps, ∀ file ∈ p.files, ∃ dir name found, p.path = dir.map EntryName.lossy ∧
    a.Keeps tree dir name found ∧
    file.name = "/".intercalate (dir.map EntryName.lossy ++ [name]) ∧
    Discovery.isExcluded a.exclude file.name = false
  filesChecked : {file : Place × String | ∃ found, a.Keeps tree file.1 file.2 found}.encard =
    report.filesChecked
  modulesChecked :
    {dir : Place | dir ≠ [] ∧ ∃ name file, a.Keeps tree dir name file}.encard + 1 =
      report.modulesChecked

/-- A directory that holds a file, a directory with the name of a file, and directories at two
depths. -/
def infraDirectory : FileTree :=
  .directory [
    ("main.tf", .file ⟨#[]⟩),
    ("d.tf", .directory [("x.tf.json", .file ⟨#[]⟩), ("old.tf", .file ⟨#[]⟩)]),
    ("docs", .directory [("old.tf", .file ⟨#[]⟩), ("readme.md", .file ⟨#[255]⟩)]),
    ("lib", .directory [("net", .directory [("a.tf", .file ⟨#[]⟩)])])]

def infraTree : FileTree := .directory [("infra", infraDirectory)]

/-- A recursive analysis of `infra` without rules, which leaves out files named `old.tf`. -/
def infraAnalysis : Analysis where
  root := "/infra"
  names := ["infra"]
  place := ["infra"]
  ruleSet := { name := rulePrefix, version := Builtin.version, chosen := some .allModules }
  exclude := (Glob.ofText "**/old.tf").toOption.toList
  recursive := true
  settings := {}

theorem infraTree_isPlain : infraTree.IsPlain infraAnalysis.place := by
  refine ⟨⟨infraDirectory, rfl, ?_, ?_, ?_⟩, ?_⟩
  · simp only [FileTree.WellFormed, FileTree.everywhere_directory, FileTree.everywhere_file,
      infraDirectory, FileTree.entries, List.forall_mem_cons, List.not_mem_nil, IsEmpty.forall_iff,
      implies_true, and_true]
    decide
  · simp only [FileTree.Visible, FileTree.everywhere_directory, FileTree.everywhere_file,
      infraDirectory, FileTree.entries, List.forall_mem_cons, List.not_mem_nil, IsEmpty.forall_iff,
      implies_true, and_true]
    cbv
  · simp only [FileTree.Listable, FileTree.everywhere_directory, FileTree.everywhere_file,
      infraDirectory, List.forall_mem_cons, List.not_mem_nil, IsEmpty.forall_iff,
      implies_true, and_true]
    decide
  · intro depth hdepth directory hdirectory
    obtain rfl : depth = 0 := by simpa [infraAnalysis] using hdepth
    obtain rfl := Option.some.inj hdirectory
    simp only [IgnoreLevel.files, List.forall_mem_cons, List.not_mem_nil, IsEmpty.forall_iff,
      implies_true, and_true]
    decide

/-- Everything below `infra` has a text for a name, and what is no text is no configuration
file. -/
theorem infraDirectory_texts : infraDirectory.Everywhere fun tree => ∀ e ∈ tree.entries,
    e.1.isText = true ∧
      (e.2.isDirectory || !Discovery.isConfigurationFile e.1 || e.2.text?.isSome) = true := by
  simp only [FileTree.everywhere_directory, FileTree.everywhere_file, infraDirectory,
    FileTree.entries, List.forall_mem_cons, List.not_mem_nil, IsEmpty.forall_iff, implies_true,
    and_true]
  cbv

theorem infraTree_isOrderly : infraAnalysis.IsOrderly infraTree where
  plain := infraTree_isPlain
  reached := ⟨rfl, by decide +kernel⟩
  names dir name file hkeeps part hpart := by
    have hparts := (hkeeps.has rfl).forall_mem (P := fun entry => entry.isText = true)
      fun place found hhas e he => (infraDirectory_texts place found hhas e he).1
    exact hparts part (List.mem_append_left _ hpart)

theorem text?_of_keeps_infra {dir : Place} {name : String} {file : FileTree}
    (h : infraAnalysis.Keeps infraTree dir name file) : file.text?.isSome = true := by
  obtain ⟨directory, hdirectory, hmem⟩ := FileTree.has_concat.mp (h.has rfl)
  have htext := (infraDirectory_texts _ _ hdirectory _ hmem).2
  simpa [h.isFile, h.isConfigurationFile] using htext

/-- A directory `m` with a file, and a directory in it with another. -/
def nestedDirectory (name : EntryName) : FileTree :=
  .directory [("main.tf", .file ⟨#[]⟩), (name, .directory [("x.tf", .file ⟨#[]⟩)])]

/-- A recursive analysis of `m` without rules. -/
def nestedAnalysis : Analysis where
  root := "/m"
  names := ["m"]
  place := ["m"]
  ruleSet := { name := rulePrefix, version := Builtin.version, chosen := some .allModules }
  exclude := []
  recursive := true
  settings := {}

/-- Beside `m` stands an ignore file for a directory in it. -/
def ignoredTree : FileTree :=
  .directory [(".ignore", .file "vpc\n".toUTF8), ("m", nestedDirectory "vpc")]

/-- A name that is no text. -/
def rawName : EntryName := .bytes ⟨#[255]⟩ (by cbv)

def rawTree : FileTree := .directory [("m", nestedDirectory rawName)]

end Analysis

end TerraLint
