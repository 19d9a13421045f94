import TerraLint.Proofs.Modules

/-!
# The search for modules in a plain tree

The search for modules passes over what is hidden and what ignore files name. This file
says what it finds in a tree where nothing is hidden and nothing is ignored and all
directories can be listed: every configuration file, at every depth
(`TerraLint.Discovery.mem_filesBelow`). Hence the child modules are the directories below
the root with a configuration file that is not left out, each of them once and in the order
of their places (`TerraLint.Analysis.mem_children_iff`,
`TerraLint.Discovery.pairwise_childModules`).

A tree is a list of entries under names, and nothing in the type keeps two entries from
having one name. Trees as a file system has them are singled out by
`TerraLint.FileTree.WellFormed`; in these, the names that lead to a file lead to no other.

The search meets directories under their own names, and their files are then looked up under
the names that are shown. Where the names are texts, the two are the same
(`TerraLint.Analysis.finds_iff_keeps`).
-/

namespace TerraLint

section Lookup

variable {κ α : Type} [BEq κ] [LawfulBEq κ] {entries : List (κ × α)} {key : κ} {value : α}

/-- Of entries with different keys, the one under a key is looked up. -/
theorem lookup_of_mem (hkeys : (entries.map Prod.fst).Nodup) (h : (key, value) ∈ entries) :
    entries.lookup key = some value := by
  induction entries with
  | nil => cases h
  | cons e entries ih =>
    obtain ⟨hfresh, hrest⟩ := List.nodup_cons.mp hkeys
    rcases List.mem_cons.mp h with rfl | h
    · simp
    · have hne : key ≠ e.1 := by
        rintro rfl
        exact hfresh (List.mem_map.mpr ⟨_, h, rfl⟩)
      rw [List.lookup_cons, beq_false_of_ne hne]
      exact ih hrest h

theorem mem_of_lookup (h : entries.lookup key = some value) : (key, value) ∈ entries := by
  obtain ⟨before, after, rfl, -⟩ := List.lookup_eq_some_iff.mp h
  simp

end Lookup

/-! ### The order of names -/

namespace EntryName

/-- A name is known by its bytes. -/
theorem toBytes_injective : Function.Injective toBytes := by
  have hbytes : ∀ {x y : ByteArray}, x.data.toList = y.data.toList → x = y := by
    intro x y h
    exact ByteArray.ext (Array.toList_inj.mp h)
  have hutf8 : ∀ s : String, String.fromUTF8? s.toUTF8 = some s := fun s => dif_pos s.isValidUTF8
  rintro (s | ⟨b, hb⟩) (t | ⟨c, hc⟩) h
  · have heq := congrArg String.fromUTF8? (hbytes h)
    rw [hutf8, hutf8] at heq
    rw [Option.some.inj heq]
  · rw [← hbytes h, hutf8] at hc
    cases hc
  · rw [hbytes h, hutf8] at hb
    cases hb
  · obtain rfl := hbytes h
    rfl

instance : Std.Irrefl fun a b : EntryName => a < b := ⟨fun a => List.lt_irrefl a.toBytes⟩

instance : Trans (fun a b : EntryName => a < b) (fun a b => a < b) (fun a b => a < b) :=
  ⟨fun hab hbc => List.lt_trans hab hbc⟩

instance : Std.Antisymm fun a b : EntryName => ¬a < b :=
  ⟨fun _ _ hab hba => toBytes_injective (List.le_antisymm hba hab)⟩

theorem text_lossy {name : EntryName} (h : name.isText = true) : text name.lossy = name := by
  cases name with
  | text content => rfl
  | bytes content isNoText => cases h

theorem map_text_lossy {names : Place} (h : ∀ name ∈ names, name.isText = true) :
    (names.map lossy).map text = names := by
  rw [List.map_map]
  exact (List.map_congr_left fun name hname => text_lossy (h name hname)).trans (List.map_id _)

end EntryName

namespace FileTree

/-! ### Plain trees -/

/-- Everything that stands in a tree has some property. -/
def Everywhere (P : FileTree → Prop) (tree : FileTree) : Prop :=
  ∀ place found, tree.Has place found → P found

/-- A tree as a file system has it: the entries of a directory have different names, and there
is no slash in a name. -/
def WellFormed : FileTree → Prop :=
  Everywhere fun tree =>
    (tree.entries.map Prod.fst).Nodup ∧ ∀ e ∈ tree.entries, '/' ∉ e.1.lossy.toList

/-- A tree without hidden entries. -/
def Visible : FileTree → Prop :=
  Everywhere fun tree => ∀ e ∈ tree.entries, e.1.isHidden = false

/-- A tree with directories that can be listed. -/
def Listable : FileTree → Prop := Everywhere fun tree => tree.isUnlistable = false

section Everywhere

variable {P : FileTree → Prop} {tree inner : FileTree}

theorem Everywhere.self (h : Everywhere P tree) : P tree := h [] tree (.here tree)

theorem Everywhere.entry (h : Everywhere P tree) {name : EntryName}
    (hmem : (name, inner) ∈ tree.entries) : Everywhere P inner :=
  fun _ found hhas => h _ found (.inside hmem hhas)

theorem everywhere_iff : Everywhere P tree ↔ P tree ∧ ∀ e ∈ tree.entries, Everywhere P e.2 := by
  constructor
  · intro h
    exact ⟨h.self, fun e he => h.entry he⟩
  · rintro ⟨hself, hentries⟩ place found (_ | ⟨hmem, hhas⟩)
    · exact hself
    · exact hentries _ hmem _ found hhas

theorem everywhere_directory {entries : List (EntryName × FileTree)} :
    Everywhere P (directory entries) ↔
      P (directory entries) ∧ ∀ e ∈ entries, Everywhere P e.2 :=
  everywhere_iff

theorem everywhere_file {content : ByteArray} : Everywhere P (file content) ↔ P (file content) :=
  everywhere_iff.trans (and_iff_left nofun)

end Everywhere

theorem get?_append (tree : FileTree) (p q : Place) :
    tree.get? (p ++ q) = (tree.get? p).bind fun inner => inner.get? q := by
  induction p generalizing tree with
  | nil => rfl
  | cons name p ih =>
    rw [List.cons_append, get?, get?]
    cases tree.entry? name with
    | none => rfl
    | some inner => exact ih inner

theorem get?_cons {tree inner : FileTree} {name : EntryName} (h : tree.entry? name = some inner)
    (rest : Place) : tree.get? (name :: rest) = inner.get? rest := by
  rw [get?, h]

theorem get?_cons_eq_some {tree found : FileTree} {name : EntryName} {rest : Place}
    (h : tree.get? (name :: rest) = some found) :
    ∃ inner, tree.entry? name = some inner ∧ inner.get? rest = some found := by
  rw [get?] at h
  cases hentry : tree.entry? name with
  | none => simp [hentry] at h
  | some inner => exact ⟨inner, rfl, by simpa [hentry] using h⟩

/-- Only a directory has entries. -/
theorem isDirectory_of_entry {tree inner : FileTree} {name : EntryName}
    (h : tree.entry? name = some inner) : tree.isDirectory = true := by
  cases tree with
  | file _ | unreadable => cases h
  | directory _ | unlistable _ => rfl

section Has

variable {tree found : FileTree} {place : Place}

theorem has_of_get? (h : tree.get? place = some found) : tree.Has place found := by
  induction place generalizing tree with
  | nil =>
    obtain rfl := Option.some.inj h
    exact .here tree
  | cons name place ih =>
    obtain ⟨inner, hentry, h⟩ := get?_cons_eq_some h
    exact .inside (mem_of_lookup hentry) (ih h)

/-- **Names lead to one thing**: what stands in a well-formed tree is found by its names. -/
theorem Has.get?_eq (h : tree.Has place found) (htree : tree.WellFormed) :
    tree.get? place = some found := by
  induction h with
  | here tree => rfl
  | inside hmem _ ih =>
    have hentry : FileTree.entry? _ _ = some _ := lookup_of_mem htree.self.1 hmem
    rw [get?_cons hentry]
    exact ih (htree.entry hmem)

/-- What stands in a tree stands in a directory of it. -/
theorem has_concat {name : EntryName} :
    tree.Has (place ++ [name]) found ↔
      ∃ directory, tree.Has place directory ∧ (name, found) ∈ directory.entries := by
  induction place generalizing tree with
  | nil =>
    constructor
    · rintro (_ | ⟨hmem, ⟨⟩⟩)
      exact ⟨tree, .here tree, hmem⟩
    · rintro ⟨directory, ⟨⟩, hmem⟩
      exact .inside hmem (.here found)
  | cons sub place ih =>
    constructor
    · rintro (_ | ⟨hmem, hhas⟩)
      obtain ⟨directory, hdirectory, hfound⟩ := ih.mp hhas
      exact ⟨directory, .inside hmem hdirectory, hfound⟩
    · rintro ⟨directory, _ | ⟨hmem, hdirectory⟩, hfound⟩
      exact .inside hmem (ih.mpr ⟨directory, hdirectory, hfound⟩)

/-- What has something in it is a directory. -/
theorem Has.isDirectory (h : tree.Has place found) (hplace : place ≠ []) :
    tree.isDirectory = true := by
  cases h with
  | here tree => exact absurd rfl hplace
  | inside hmem _ =>
    cases tree with
    | file _ | unreadable => cases hmem
    | directory _ | unlistable _ => rfl

theorem Has.forall_mem {P : EntryName → Prop} (h : tree.Has place found)
    (htree : tree.Everywhere fun inner => ∀ e ∈ inner.entries, P e.1) :
    ∀ name ∈ place, P name := by
  induction h with
  | here tree => simp
  | inside hmem _ ih =>
    exact List.forall_mem_cons.mpr ⟨htree.self _ hmem, ih (htree.entry hmem)⟩

end Has

end FileTree

/-! ### Nothing is ignored -/

namespace IgnoreLevel

/-- A directory that says nothing about ignored entries. -/
def Silent (level : IgnoreLevel) : Prop :=
  level.plain = [] ∧ level.versioned = [] ∧ level.excluded = []

variable {levels : List IgnoreLevel} {place : Place} {isDirectory : Bool}

theorem nearest_of_silent {rules : IgnoreLevel → List IgnoreRule}
    (h : ∀ level ∈ levels, rules level = []) : nearest levels rules place isDirectory = none := by
  rw [nearest, List.findSome?_eq_none_iff]
  intro level hlevel
  rw [h level hlevel]
  rfl

theorem upToTop_sublist (levels : List IgnoreLevel) : (upToTop levels).Sublist levels := by
  fun_induction upToTop levels with
  | case1 => exact List.Sublist.refl _
  | case2 => exact List.Sublist.cons_cons _ (List.nil_sublist _)
  | case3 _ _ _ ih => exact List.Sublist.cons_cons _ ih

theorem verdict_of_silent (h : ∀ level ∈ levels, level.Silent) :
    verdict levels place isDirectory = none := by
  have hbelow : ∀ level ∈ (if levels.any isTop then upToTop levels else []), level.Silent := by
    intro level hlevel
    split at hlevel
    · exact h level ((upToTop_sublist levels).mem hlevel)
    · cases hlevel
  simp only [verdict]
  rw [nearest_of_silent fun level hlevel => (h level hlevel).1,
    nearest_of_silent fun level hlevel => (hbelow level hlevel).2.1,
    nearest_of_silent fun level hlevel => (hbelow level hlevel).2.2]
  rfl

theorem silent_ofDirectory (respectGitignore : Bool) (place : Place) {tree : FileTree}
    (h : ∀ path ∈ files, (tree.get? path).bind FileTree.content? = none) :
    (ofDirectory respectGitignore place tree).Silent := by
  have hrules : ∀ path ∈ files, rulesIn tree path = [] := by
    intro path hpath
    rw [rulesIn, h path hpath]
  refine ⟨hrules _ (by simp [files]), ?_, hrules _ (by simp [files])⟩
  simp only [ofDirectory]
  split
  · exact hrules _ (by simp [files])
  · rfl

/-- A directory without hidden entries has no ignore files. -/
theorem silent_of_visible (respectGitignore : Bool) (place : Place) {tree : FileTree}
    (h : ∀ e ∈ tree.entries, e.1.isHidden = false) :
    (ofDirectory respectGitignore place tree).Silent := by
  refine silent_ofDirectory respectGitignore place fun path hpath => ?_
  obtain ⟨name, rest, rfl, hname⟩ :
      ∃ name rest, path = name :: rest ∧ name.isHidden = true := by
    simp only [files, List.mem_cons, List.not_mem_nil, or_false] at hpath
    rcases hpath with rfl | rfl | rfl <;> exact ⟨_, _, rfl, by cbv⟩
  cases hentry : tree.entry? name with
  | none =>
    rw [FileTree.get?, hentry]
    rfl
  | some inner =>
    have hvisible := h _ (mem_of_lookup hentry)
    rw [hname] at hvisible
    cases hvisible

end IgnoreLevel

namespace Discovery

variable {respectGitignore : Bool} {levels : List IgnoreLevel} {place file : Place}

theorem isSkipped_of_silent (h : ∀ level ∈ levels, level.Silent) {name : EntryName}
    (hname : name.isHidden = false) (isDirectory : Bool) :
    isSkipped levels place name isDirectory = false := by
  rw [isSkipped, IgnoreLevel.verdict_of_silent h]
  exact hname

/-- What stands in a tree is found, where nothing is ignored or hidden. -/
theorem mem_filesBelow_of_has {tree inner : FileTree} {dir : Place} {name : EntryName}
    {files : List Place} (h : filesBelow respectGitignore levels place tree = .ok files)
    (hlevels : ∀ level ∈ levels, level.Silent) (htree : tree.Visible)
    (hhas : tree.Has (dir ++ [name]) inner) (hinner : inner.isDirectory = false)
    (hname : isConfigurationFile name = true) : place ++ (dir ++ [name]) ∈ files := by
  induction dir generalizing tree levels place files with
  | nil =>
    have hlevels := List.forall_mem_cons.mpr
      ⟨IgnoreLevel.silent_of_visible respectGitignore place htree.self, hlevels⟩
    obtain ⟨directory, ⟨⟩, hmem⟩ := FileTree.has_concat.mp hhas
    obtain ⟨found, hfound⟩ := exists_found_of_mem h hmem
    refine (mem_of_filesBelow_eq_ok h).mpr ⟨_, hmem, found, hfound, ?_⟩
    refine (mem_of_found_eq_ok hfound).mpr ⟨isSkipped_of_silent hlevels (htree.self _ hmem) _, ?_⟩
    exact .inl ⟨hinner, hname, rfl⟩
  | cons sub dir ih =>
    have hlevels := List.forall_mem_cons.mpr
      ⟨IgnoreLevel.silent_of_visible respectGitignore place htree.self, hlevels⟩
    rw [List.cons_append] at hhas
    cases hhas with
    | @inside _ middle _ _ _ hmem hhas =>
      have hdirectory := hhas.isDirectory (by simp)
      have hskipped : isSkipped _ (place ++ [sub]) sub middle.isDirectory = false :=
        isSkipped_of_silent hlevels (htree.self _ hmem) _
      obtain ⟨found, hfound⟩ := exists_found_of_mem h hmem
      have hbelow : filesBelow respectGitignore (.ofDirectory respectGitignore place tree :: levels)
          (place ++ [sub]) middle = .ok found := by
        rwa [Discovery.found, if_neg (Bool.not_eq_true _ ▸ hskipped), if_pos hdirectory] at hfound
      refine (mem_of_filesBelow_eq_ok h).mpr ⟨_, hmem, found, hfound, ?_⟩
      have hfile := ih hbelow hlevels (htree.entry hmem) hhas
      rwa [List.append_assoc] at hfile

/-- **The search finds all configuration files**, and nothing else. -/
theorem mem_filesBelow {tree : FileTree} {files : List Place}
    (h : filesBelow respectGitignore levels place tree = .ok files)
    (hlevels : ∀ level ∈ levels, level.Silent) (htree : tree.Visible) :
    file ∈ files ↔ ∃ dir name inner, file = place ++ (dir ++ [name]) ∧
      tree.Has (dir ++ [name]) inner ∧ inner.isDirectory = false ∧
        isConfigurationFile name = true := by
  constructor
  · exact exists_of_mem_filesBelow h
  · rintro ⟨dir, name, inner, rfl, hhas, hinner, hname⟩
    exact mem_filesBelow_of_has h hlevels htree hhas hinner hname

theorem pairwise_insertPlace {places : List Place} (h : places.Pairwise (· < ·)) (place : Place) :
    (insertPlace place places).Pairwise (· < ·) := by
  fun_induction insertPlace place places with
  | case1 => exact List.pairwise_singleton _ _
  | case2 other rest hlt =>
    refine List.pairwise_cons.mpr ⟨fun x hx => ?_, h⟩
    rcases List.mem_cons.mp hx with rfl | hx
    · exact hlt
    · exact List.lt_trans hlt ((List.pairwise_cons.mp h).1 x hx)
  | case3 => exact h
  | case4 other rest hlt hne ih =>
    obtain ⟨hother, hrest⟩ := List.pairwise_cons.mp h
    refine List.pairwise_cons.mpr ⟨fun x hx => ?_, ih hrest⟩
    rcases mem_insertPlace.mp hx with rfl | hx
    · exact (List.le_iff_lt_or_eq.mp (List.not_lt.mp hlt)).resolve_right (Ne.symm hne)
    · exact hother x hx

/-- **Child modules are in the order of their places**, each of them once. -/
theorem pairwise_childModules {exclude : List Glob} {tree : FileTree} {root : Place}
    {places : List Place} (h : childModules respectGitignore exclude tree root = .ok places) :
    places.Pairwise (· < ·) := by
  have h := modulesBelow_of_childModules_eq_ok h
  unfold modulesBelow at h
  split at h
  · obtain ⟨files, -, rfl⟩ := map_eq_ok h
    exact List.foldlRecOn _ _ List.Pairwise.nil fun _ hfound _ _ => pairwise_insertPlace hfound _
  · cases h
    exact List.Pairwise.nil

theorem silent_levelsAbove {tree : FileTree} {root : Place}
    (h : ∀ depth < root.length, ∀ directory, tree.get? (root.take depth) = some directory →
      ∀ path ∈ IgnoreLevel.files, (directory.get? path).bind FileTree.content? = none) :
    ∀ level ∈ levelsAbove respectGitignore tree root, level.Silent := by
  intro level hlevel
  obtain ⟨depth, hdepth, hmap⟩ := List.mem_filterMap.mp hlevel
  obtain ⟨directory, hdirectory, rfl⟩ := Option.map_eq_some_iff.mp hmap
  have hlt : depth < root.length := by simpa using hdepth
  exact IgnoreLevel.silent_ofDirectory respectGitignore (root.take depth)
    (h depth hlt directory hdirectory)

end Discovery

/-- **A plain tree below a root**: it is well-formed, nothing in it is hidden, its directories can
be listed, and no ignore file stands in a directory above the root. -/
structure FileTree.IsPlain (tree : FileTree) (root : Place) : Prop where
  exists_root : ∃ inner, tree.get? root = some inner ∧ inner.WellFormed ∧ inner.Visible ∧
    inner.Listable
  above : ∀ depth < root.length, ∀ directory, tree.get? (root.take depth) = some directory →
    ∀ path ∈ IgnoreLevel.files, (directory.get? path).bind content? = none

namespace Analysis

variable {a : Analysis} {tree : FileTree}

/-- The configuration file stands directly in the directory at a place relative to the root,
and is not left out. -/
structure Keeps (a : Analysis) (tree : FileTree) (dir : Place) (name : String)
    (file : FileTree) : Prop where
  mem : ∃ directory, tree.get? (a.place ++ dir) = some directory ∧
    (.text name, file) ∈ directory.entries
  isFile : file.isDirectory = false
  isConfigurationFile : Discovery.isConfigurationFile name = true
  notExcluded :
    Discovery.isExcluded a.exclude ("/".intercalate (dir.map EntryName.lossy ++ [name])) = false

/-- The files that are kept stand in the directory of the analysis. -/
theorem Keeps.has {root : FileTree} (hroot : tree.get? a.place = some root) {dir : Place}
    {name : String} {file : FileTree} (h : a.Keeps tree dir name file) :
    root.Has (dir ++ [.text name]) file := by
  obtain ⟨directory, hdirectory, hmem⟩ := h.mem
  rw [FileTree.get?_append, hroot] at hdirectory
  exact FileTree.has_concat.mpr ⟨directory, FileTree.has_of_get? hdirectory, hmem⟩

theorem exists_children (h : tree.IsPlain a.place) : ∃ places, a.children tree = .ok places := by
  cases hchildren : a.children tree with
  | ok places => exact ⟨places, rfl⟩
  | error e =>
    exfalso
    obtain ⟨root, hroot, -, -, hlistable⟩ := h.exists_root
    cases Discovery.stops_of_childModules_eq_error hchildren with
    | unlistable hdirectory hhas hdenied =>
      obtain rfl := Option.some.inj (hroot.symm.trans hdirectory)
      rw [hlistable _ _ hhas] at hdenied
      cases hdenied
    | malformed hdepth hfile hcontent hmalformed =>
      rw [FileTree.get?_append] at hcontent
      obtain ⟨found, hfound, hcontent⟩ := Option.bind_eq_some_iff.mp hcontent
      obtain ⟨directory, hdirectory, hfound⟩ := Option.bind_eq_some_iff.mp hfound
      have hnone := h.above _ hdepth directory hdirectory _ hfile
      rw [hfound, Option.bind_some, hcontent] at hnone
      cases hnone

/-- **The child modules of a plain tree** are the directories below the root with a configuration
file that is not left out. -/
theorem mem_children_iff (h : tree.IsPlain a.place) {places : List Place}
    (hplaces : a.children tree = .ok places) {place : Place} :
    place ∈ places ↔ ∃ dir, place = a.place ++ dir ∧ dir ≠ [] ∧
      ∃ name file, a.Keeps tree dir name file := by
  obtain ⟨root, hroot, hwell, hvisible, -⟩ := h.exists_root
  rw [Discovery.mem_of_childModules_eq_ok hplaces]
  constructor
  · rintro ⟨directory, files, hdirectory, hfiles, hne, file, hfile, hexcluded, rfl⟩
    obtain rfl := Option.some.inj (hroot.symm.trans hdirectory)
    obtain ⟨dir, name, inner, rfl, hhas, hinner, hname⟩ :=
      Discovery.exists_of_mem_filesBelow hfiles hfile
    rw [Discovery.relativeName_append, List.map_append] at hexcluded
    rw [← List.append_assoc, List.dropLast_concat] at hne ⊢
    obtain ⟨holder, hholder, hmem⟩ := FileTree.has_concat.mp hhas
    cases name with
    | bytes content isNoText => cases hname
    | text name =>
      refine ⟨dir, rfl, fun hdir => hne (by simp [hdir]), name, inner, ⟨holder, ?_, hmem⟩, hinner,
        hname, hexcluded⟩
      rw [FileTree.get?_append, hroot]
      exact hholder.get?_eq hwell
  · rintro ⟨dir, rfl, hdir, name, file, hkeeps⟩
    obtain ⟨files, hfiles, -⟩ : ∃ files, Discovery.filesBelow a.settings.scan.respectGitignore
        (Discovery.levelsAbove a.settings.scan.respectGitignore tree a.place) a.place root =
          .ok files ∧ _ := by
      have hbelow := Discovery.modulesBelow_of_childModules_eq_ok hplaces
      rw [Discovery.modulesBelow, hroot] at hbelow
      exact map_eq_ok hbelow
    refine ⟨root, files, hroot, hfiles, by simpa using hdir, a.place ++ (dir ++ [.text name]), ?_,
      ?_, by rw [← List.append_assoc, List.dropLast_concat]⟩
    · exact Discovery.mem_filesBelow_of_has hfiles (Discovery.silent_levelsAbove h.above) hvisible
        (hkeeps.has hroot) hkeeps.isFile hkeeps.isConfigurationFile
    · rw [Discovery.relativeName_append, List.map_append]
      exact hkeeps.notExcluded

/-! ### The directory that is looked up -/

/-- **The root is reached by its path**: the path is a text, and leads to the root. -/
structure IsReached (a : Analysis) (tree : FileTree) : Prop where
  isText : a.names.all EntryName.isText = true
  leads : locate tree [] (a.names.map EntryName.lossy) = .ok (some a.place)

theorem follow_append (tree : FileTree) (place p q : Place) :
    Workspace.follow tree place (p ++ q) =
      (Workspace.follow tree place p).bind fun next => Workspace.follow tree next q := by
  induction p generalizing place with
  | nil => rfl
  | cons name p ih =>
    rw [List.cons_append, Workspace.follow, Workspace.follow]
    cases Workspace.step? tree place name with
    | none => rfl
    | some next => exact ih next

theorem isStopped_append {place : Place} {p q : List String} :
    IsStopped tree place (p ++ q) ↔ IsStopped tree place p ∨
      ∃ next, Workspace.follow tree place (p.map .text) = some next ∧ IsStopped tree next q := by
  induction p generalizing place with
  | nil =>
    have hnil : ¬IsStopped tree place [] := by
      rintro ⟨front, name, back, -, hnames, -⟩
      simp at hnames
    simp [hnil, Workspace.follow]
  | cons name p ih =>
    rw [List.cons_append, isStopped_cons, isStopped_cons, or_assoc]
    refine or_congr_right ?_
    rw [List.map_cons, Workspace.follow]
    cases Workspace.step? tree place name with
    | none => simp
    | some next => simpa using ih

section Plain

variable {root found : FileTree} {place dir : Place}

/-- A name that is not hidden leads down to its entry. -/
theorem step?_of_entry (hroot : tree.get? place = some root) (hvisible : root.Visible)
    {name : EntryName} {inner : FileTree} (hentry : root.entry? name = some inner) :
    Workspace.step? tree place name = some (place ++ [name]) := by
  have hhidden : name.isHidden = false := hvisible.self _ (mem_of_lookup hentry)
  have hdot : name ≠ .text "." := by
    rintro rfl
    exact absurd hhidden (by decide)
  have hdots : name ≠ .text ".." := by
    rintro rfl
    exact absurd hhidden (by decide)
  simp [Workspace.step?, hroot, FileTree.isDirectory_of_entry hentry, hdot, hdots, hentry]

theorem get?_concat (hroot : tree.get? place = some root) {name : EntryName} {inner : FileTree}
    (hentry : root.entry? name = some inner) : tree.get? (place ++ [name]) = some inner := by
  rw [FileTree.get?_append, hroot, Option.bind_some, FileTree.get?_cons hentry]
  rfl

/-- Names lead down to what is there. -/
theorem follow_of_get? (hroot : tree.get? place = some root) (hvisible : root.Visible)
    (hdir : root.get? dir = some found) :
    Workspace.follow tree place dir = some (place ++ dir) := by
  induction dir generalizing place root with
  | nil => rw [Workspace.follow, List.append_nil]
  | cons name dir ih =>
    obtain ⟨inner, hentry, hdir⟩ := FileTree.get?_cons_eq_some hdir
    rw [Workspace.follow, step?_of_entry hroot hvisible hentry, Option.bind_some,
      ih (get?_concat hroot hentry) (hvisible.entry (mem_of_lookup hentry)) hdir,
      List.append_assoc, List.singleton_append]

/-- The way down is free where all directories can be listed. -/
theorem not_isStopped_of_get? (hroot : tree.get? place = some root) (hvisible : root.Visible)
    (hlistable : root.Listable) (hdir : root.get? dir = some found)
    (htext : ∀ name ∈ dir, name.isText = true) :
    ¬IsStopped tree place (dir.map EntryName.lossy) := by
  induction dir generalizing place root with
  | nil =>
    rintro ⟨front, name, back, -, hnames, -⟩
    simp at hnames
  | cons name dir ih =>
    obtain ⟨inner, hentry, hdir⟩ := FileTree.get?_cons_eq_some hdir
    obtain ⟨hname, htext⟩ := List.forall_mem_cons.mp htext
    have hmem := mem_of_lookup hentry
    rw [List.map_cons, isStopped_cons, EntryName.text_lossy hname,
      step?_of_entry hroot hvisible hentry, hroot]
    rintro (⟨-, hdenied⟩ | ⟨next, hnext, hstop⟩)
    · rw [Option.any_some, hlistable.self] at hdenied
      cases hdenied
    · obtain rfl := Option.some.inj hnext
      exact ih (get?_concat hroot hentry) (hvisible.entry hmem) (hlistable.entry hmem) hdir htext
        hstop

end Plain

section Reached

variable (hreached : a.IsReached tree) (h : tree.IsPlain a.place) {dir : Place}
  {directory : FileTree} (hdirectory : tree.get? (a.place ++ dir) = some directory)
  (htext : ∀ name ∈ dir, name.isText = true)

include hreached

theorem IsReached.cases :
    ¬IsStopped tree [] (a.names.map EntryName.lossy) ∧
      Workspace.follow tree [] ((a.names.map EntryName.lossy).map .text) = some a.place := by
  rcases locate_cases tree [] (a.names.map EntryName.lossy) with ⟨-, hlocate⟩ | ⟨hfree, hlocate⟩
  · rw [hreached.leads] at hlocate
    cases hlocate
  · rw [hreached.leads] at hlocate
    exact ⟨hfree, (Except.ok.inj hlocate).symm⟩

theorem nameOf_of_isReached (path : String) : a.nameOf path = path := by
  rw [nameOf, if_pos hreached.isText]

include h hdirectory htext

/-- **A directory is looked up at its own place**, where the names that lead to it are texts. -/
theorem named?_of_isReached :
    named? tree (a.lookupNames (dir.map EntryName.lossy)) = some directory := by
  obtain ⟨root, hroot, -, hvisible, -⟩ := h.exists_root
  have hinside : root.get? dir = some directory := by
    rwa [FileTree.get?_append, hroot] at hdirectory
  rw [named?, lookupNames, List.map_append, follow_append, hreached.cases.2, Option.bind_some,
    EntryName.map_text_lossy htext, follow_of_get? hroot hvisible hinside, Option.bind_some,
    hdirectory]

theorem not_isDenied_of_isReached : ¬IsDenied tree (a.lookupNames (dir.map EntryName.lossy)) := by
  obtain ⟨root, hroot, -, hvisible, hlistable⟩ := h.exists_root
  have hinside : root.get? dir = some directory := by
    rwa [FileTree.get?_append, hroot] at hdirectory
  rw [IsDenied, named?_of_isReached hreached h hdirectory htext, lookupNames, isStopped_append]
  rintro ((hstop | ⟨next, hnext, hstop⟩) | hdenied)
  · exact hreached.cases.1 hstop
  · obtain rfl := Option.some.inj (hreached.cases.2.symm.trans hnext)
    exact not_isStopped_of_get? hroot hvisible hlistable hinside htext hstop
  · rw [Option.any_some, hlistable _ _ (FileTree.has_of_get? hinside)] at hdenied
    cases hdenied

/-- **The two passes meet**: the files that are found for a directory are those that are kept in
it. -/
theorem finds_iff_keeps {name : String} {file : FileTree} :
    a.Finds tree (dir.map EntryName.lossy) name file ↔ a.Keeps tree dir name file := by
  have hnamed := named?_of_isReached hreached h hdirectory htext
  constructor
  · rintro ⟨⟨found, hfound, hmem⟩, hfile, hname, hexcluded⟩
    obtain rfl := Option.some.inj (hnamed.symm.trans hfound)
    rw [nameOf_of_isReached hreached] at hexcluded
    exact ⟨⟨directory, hdirectory, hmem⟩, hfile, hname, hexcluded⟩
  · rintro ⟨⟨found, hfound, hmem⟩, hfile, hname, hexcluded⟩
    obtain rfl := Option.some.inj (hdirectory.symm.trans hfound)
    refine ⟨⟨directory, hnamed, hmem⟩, hfile, hname, ?_⟩
    rwa [nameOf_of_isReached hreached]

end Reached

end Analysis

end TerraLint
