import TerraLint.Proofs.Walk

/-!
# A file that no analysis reads

An analysis reads configuration files and the files that say what is ignored. A file under
any other name can come into a tree, or change its content, and nothing is different for the
analysis (`TerraLint.Analysis.run_of_gains`), nor for what it is asked to look at
(`TerraLint.Analysis.prepare_of_gains`).

That one tree has a file more than another is said along the way to its directory
(`TerraLint.FileTree.Gains`), as the file is put there (`TerraLint.FileTree.gains_put`). The
two trees then have the same directories, and at every place the same content, unless the
place is that of a file under the new name (`TerraLint.FileTree.Gains.get?`).
-/

namespace TerraLint

namespace FileTree

/-! ### Entries that are put into a directory -/

section PutEntry

variable {name other : EntryName} {new : FileTree} {entries : List (EntryName × FileTree)}

@[simp] theorem lookup_putEntry_self : (putEntry name new entries).lookup name = some new := by
  fun_induction putEntry name new entries with
  | case1 => simp
  | case2 => simp
  | case3 other old rest hother ih => simpa [List.lookup_cons, beq_false_of_ne (Ne.symm hother)]

theorem lookup_putEntry_of_ne (h : other ≠ name) :
    (putEntry name new entries).lookup other = entries.lookup other := by
  fun_induction putEntry name new entries with
  | case1 => simp [List.lookup_cons, beq_false_of_ne h]
  | case2 => simp [List.lookup_cons, beq_false_of_ne h]
  | case3 _ old rest hother ih => rw [List.lookup_cons, ih, List.lookup_cons]

/-- What is collected from entries does not change if the new entry contributes what the old one
under its name did, and nothing if there was none. -/
theorem mapM_putEntry {ε α : Type} {f : EntryName × FileTree → Except ε (List α)}
    (h : f (name, new) = ((entries.lookup name).map fun old => f (name, old)).getD (.ok [])) :
    ((putEntry name new entries).mapM f).map List.flatten =
      (entries.mapM f).map List.flatten := by
  fun_induction putEntry name new entries with
  | case1 =>
    have hnew : f (name, new) = .ok [] := h
    rw [List.mapM_cons, hnew]
    rfl
  | case2 old rest =>
    have hnew : f (name, new) = f (name, old) := by simpa using h
    rw [List.mapM_cons, hnew, List.mapM_cons]
  | case3 other old rest hother ih =>
    rw [List.lookup_cons, beq_false_of_ne (Ne.symm hother)] at h
    have hrest := ih h
    rw [List.mapM_cons, List.mapM_cons]
    cases f (other, old) with
    | error e => rfl
    | ok found =>
      -- both sides put what is found in front of what the rest gives
      have hcons : ∀ x : Except ε (List (List α)),
          (x.map (found :: ·)).map List.flatten = (x.map List.flatten).map (found ++ ·) := by
        intro x
        cases x <;> rfl
      exact (hcons _).trans ((congrArg _ hrest).trans (hcons _).symm)

theorem filterMap_putEntry {α : Type} {f : EntryName × FileTree → Option α}
    (h : f (name, new) = (entries.lookup name).bind fun old => f (name, old)) :
    (putEntry name new entries).filterMap f = entries.filterMap f := by
  fun_induction putEntry name new entries with
  | case1 => simpa using h
  | case2 old rest =>
    have hnew : f (name, new) = f (name, old) := by simpa using h
    rw [List.filterMap_cons, hnew, List.filterMap_cons]
  | case3 other old rest hother ih =>
    rw [List.lookup_cons, beq_false_of_ne (Ne.symm hother)] at h
    rw [List.filterMap_cons, ih h, List.filterMap_cons]

end PutEntry

section WithEntries

variable (tree : FileTree) (es : List (EntryName × FileTree))

@[simp] theorem entries_withEntries : (tree.withEntries es).entries = es := by
  cases tree <;> rfl

@[simp] theorem isDirectory_withEntries : (tree.withEntries es).isDirectory = true := by
  cases tree <;> rfl

@[simp] theorem isUnlistable_withEntries :
    (tree.withEntries es).isUnlistable = tree.isUnlistable := by
  cases tree <;> rfl

@[simp] theorem content?_withEntries : (tree.withEntries es).content? = none := by
  cases tree <;> rfl

end WithEntries

theorem content?_of_isDirectory {tree : FileTree} (h : tree.isDirectory = true) :
    tree.content? = none := by
  cases tree with
  | file _ | unreadable => cases h
  | directory _ | unlistable _ => rfl

theorem get?_put (new : FileTree) (place : Place) (tree : FileTree) :
    (put new place tree).get? place = some new := by
  induction place generalizing tree with
  | nil => rfl
  | cons name place ih =>
    have hentry : FileTree.entry? (put new (name :: place) tree) name =
        some (put new place ((tree.entry? name).getD (directory []))) := by
      rw [put, FileTree.entry?, entries_withEntries, lookup_putEntry_self]
    rw [get?_cons hentry]
    exact ih _

theorem get?_singleton (tree : FileTree) (name : EntryName) :
    tree.get? [name] = tree.entry? name := by
  rw [get?]
  cases tree.entry? name <;> rfl

/-- Nothing is below a file. -/
theorem get?_of_file {tree : FileTree} (h : tree.isDirectory = false) {place : Place}
    (hplace : place ≠ []) : tree.get? place = none := by
  obtain ⟨name, rest, rfl⟩ := List.exists_cons_of_ne_nil hplace
  cases tree with
  | file _ | unreadable => rfl
  | directory _ | unlistable _ => cases h

section NoDirectory

variable {found : Option FileTree} (h : found.any isDirectory = false)

include h

theorem any_isUnlistable_of_file : found.any isUnlistable = false := by
  cases found with
  | none => rfl
  | some tree =>
    cases tree with
    | file _ | unreadable | directory _ => rfl
    | unlistable _ => cases h

theorem entries_of_file : (found.map entries).getD [] = [] := by
  cases found with
  | none => rfl
  | some tree =>
    cases tree with
    | file _ | unreadable => rfl
    | directory _ | unlistable _ => cases h

end NoDirectory

/-! ### Trees with a file more -/

/-- **One tree has a file more than another**, under a given name and with a given content, or the
trees are the same. At its place there has been nothing before, or a file. -/
inductive Gains (name : EntryName) (content : ByteArray) : FileTree → FileTree → Prop
  | refl (tree : FileTree) : Gains name content tree tree
  | here {tree : FileTree} : tree.isDirectory = true →
      (tree.entry? name).any isDirectory = false →
      Gains name content tree
        (tree.withEntries (putEntry name (.file content) tree.entries))
  | inside {tree : FileTree} {sub : EntryName} {inner inner' : FileTree} :
      tree.entry? sub = some inner → Gains name content inner inner' →
      Gains name content tree (tree.withEntries (putEntry sub inner' tree.entries))

/-- **Putting a file into a directory** adds it to the tree, unless a directory is in its place. -/
theorem gains_put {name : EntryName} (content : ByteArray) {place : Place} {tree : FileTree}
    (hplace : (tree.get? place).any isDirectory = true)
    (hfree : (tree.get? (place ++ [name])).any isDirectory = false) :
    Gains name content tree (put (.file content) (place ++ [name]) tree) := by
  induction place generalizing tree with
  | nil =>
    rw [List.nil_append, get?_singleton] at hfree
    exact .here (by simpa [FileTree.get?] using hplace) hfree
  | cons sub place ih =>
    rw [get?] at hplace
    cases hsub : tree.entry? sub with
    | none => simp [hsub] at hplace
    | some inner =>
      rw [hsub] at hplace
      rw [List.cons_append, get?_cons hsub] at hfree
      rw [List.cons_append, put, hsub]
      exact .inside hsub (ih hplace hfree)

namespace Gains

variable {name : EntryName} {content : ByteArray} {tree grown : FileTree}

theorem isDirectory_eq (h : Gains name content tree grown) :
    grown.isDirectory = tree.isDirectory := by
  cases h with
  | refl => rfl
  | here hdirectory => rw [isDirectory_withEntries, hdirectory]
  | inside hsub => rw [isDirectory_withEntries, isDirectory_of_entry hsub]

theorem eq_of_file (h : Gains name content tree grown) (hfile : tree.isDirectory = false) :
    grown = tree := by
  cases h with
  | refl => rfl
  | here hdirectory => exact absurd hdirectory (by simp [hfile])
  | inside hsub => exact absurd (isDirectory_of_entry hsub) (by simp [hfile])

theorem isUnlistable_eq (h : Gains name content tree grown) :
    grown.isUnlistable = tree.isUnlistable := by
  cases h with
  | refl => rfl
  | here => exact isUnlistable_withEntries ..
  | inside => exact isUnlistable_withEntries ..

theorem content?_eq (h : Gains name content tree grown) : grown.content? = tree.content? := by
  cases h with
  | refl => rfl
  | here hdirectory => rw [content?_withEntries, content?_of_isDirectory hdirectory]
  | inside hsub =>
    rw [content?_withEntries, content?_of_isDirectory (isDirectory_of_entry hsub)]

/-- The new entries are the old ones with one put among them that is a file under the new name or
corresponds to the old one. -/
theorem entries_cases (h : Gains name content tree grown) :
    grown.entries = tree.entries ∨
      ((tree.entry? name).any isDirectory = false ∧
        grown.entries = putEntry name (.file content) tree.entries) ∨
      ∃ sub inner inner', tree.entry? sub = some inner ∧ Gains name content inner inner' ∧
        grown.entries = putEntry sub inner' tree.entries := by
  cases h with
  | refl => exact .inl rfl
  | here _ hfree => exact .inr (.inl ⟨hfree, entries_withEntries ..⟩)
  | @inside _ sub inner inner' hsub hinner =>
    exact .inr (.inr ⟨sub, inner, inner', hsub, hinner, entries_withEntries ..⟩)

/-- **What stands at one place in the two trees**: things that correspond to each other, or nothing,
or in the second tree the new file, if the place is one for it. -/
def Match (name : EntryName) (content : ByteArray) (isNew : Prop)
    (before after : Option FileTree) : Prop :=
  (∃ u u', before = some u ∧ after = some u' ∧ Gains name content u u') ∨
    (before = none ∧ after = none) ∨
    isNew ∧ before.any isDirectory = false ∧ after = some (.file content)

theorem match_refl (isNew : Prop) (before : Option FileTree) :
    Match name content isNew before before := by
  cases before with
  | none => exact .inr (.inl ⟨rfl, rfl⟩)
  | some u => exact .inl ⟨u, u, rfl, rfl, .refl u⟩

theorem entry? (h : Gains name content tree grown) (other : EntryName) :
    Match name content (other = name) (tree.entry? other) (grown.entry? other) := by
  have hsame : grown.entry? other = tree.entry? other →
      Match name content (other = name) (tree.entry? other) (grown.entry? other) := by
    intro heq
    rw [heq]
    exact match_refl _ _
  rcases h.entries_cases with heq | ⟨hfree, heq⟩ | ⟨sub, inner, inner', hsub, hinner, heq⟩
  · exact hsame (congrArg _ heq)
  · by_cases hother : other = name
    · subst hother
      refine .inr (.inr ⟨rfl, hfree, ?_⟩)
      rw [FileTree.entry?, heq, lookup_putEntry_self]
    · refine hsame ?_
      rw [FileTree.entry?, heq, lookup_putEntry_of_ne hother, FileTree.entry?]
  · by_cases hother : other = sub
    · subst hother
      refine .inl ⟨inner, inner', hsub, ?_, hinner⟩
      rw [FileTree.entry?, heq, lookup_putEntry_self]
    · refine hsame ?_
      rw [FileTree.entry?, heq, lookup_putEntry_of_ne hother, FileTree.entry?]

/-- **Places match**, and the new file can only be at a place with its name. -/
theorem get? (h : Gains name content tree grown) (place : Place) :
    Match name content (place.getLast? = some name) (tree.get? place) (grown.get? place) := by
  induction place generalizing tree grown with
  | nil => exact .inl ⟨tree, grown, rfl, rfl, h⟩
  | cons sub place ih =>
    rcases h.entry? sub with ⟨u, u', hu, hu', hinner⟩ | ⟨hnone, hnone'⟩ | ⟨rfl, hold, hnew⟩
    · rw [get?_cons hu, get?_cons hu']
      rcases ih hinner with hthere | hnone | ⟨hlast, hold, hnew⟩
      · exact .inl hthere
      · exact .inr (.inl hnone)
      · exact .inr (.inr ⟨by rw [List.getLast?_cons, hlast]; rfl, hold, hnew⟩)
    · rw [FileTree.get?, hnone, FileTree.get?, hnone']
      exact .inr (.inl ⟨rfl, rfl⟩)
    · by_cases hplace : place = []
      · subst hplace
        rw [get?_singleton, get?_singleton]
        exact .inr (.inr ⟨rfl, hold, hnew⟩)
      · -- nothing is below the file, nor below the one that has been there before
        refine .inr (.inl ⟨?_, by rw [get?_cons hnew, get?_of_file rfl hplace]⟩)
        cases hentry : tree.entry? sub with
        | none => rw [FileTree.get?, hentry]
        | some old =>
          rw [hentry, Option.any_some] at hold
          rw [get?_cons hentry, get?_of_file hold hplace]

/-- At every place there are directories in both trees, or in neither. -/
theorem get?_directory (h : Gains name content tree grown) (place : Place) :
    (∃ u u', tree.get? place = some u ∧ grown.get? place = some u' ∧ u.isDirectory = true ∧
      Gains name content u u') ∨
      (tree.get? place).any isDirectory = false ∧ (grown.get? place).any isDirectory = false := by
  rcases h.get? place with ⟨u, u', hu, hu', hinner⟩ | ⟨hnone, hnone'⟩ | ⟨-, hold, hnew⟩
  · cases hkind : u.isDirectory with
    | true => exact .inl ⟨u, u', hu, hu', hkind, hinner⟩
    | false => exact .inr ⟨by simp [hu, hkind], by simp [hu', hinner.isDirectory_eq, hkind]⟩
  · exact .inr ⟨by rw [hnone]; rfl, by rw [hnone']; rfl⟩
  · exact .inr ⟨hold, by rw [hnew]; rfl⟩

theorem isUnlistable_get? (h : Gains name content tree grown) (place : Place) :
    (grown.get? place).any isUnlistable = (tree.get? place).any isUnlistable := by
  rcases h.get?_directory place with ⟨u, u', hu, hu', -, hinner⟩ | ⟨ht, ht'⟩
  · simp [hu, hu', hinner.isUnlistable_eq]
  · rw [any_isUnlistable_of_file ht', any_isUnlistable_of_file ht]

theorem content?_get? (h : Gains name content tree grown) {place : Place}
    (hlast : place.getLast? ≠ some name) :
    (grown.get? place).bind content? = (tree.get? place).bind content? := by
  rcases h.get? place with ⟨u, u', hu, hu', hinner⟩ | ⟨hnone, hnone'⟩ | ⟨hname, -⟩
  · rw [hu, hu']
    exact hinner.content?_eq
  · rw [hnone, hnone']
  · exact absurd hname hlast

end Gains

end FileTree

/-! ### Paths -/

namespace Workspace

open FileTree

theorem step?_of_not_directory {tree : FileTree} {place : Place}
    (h : (tree.get? place).any FileTree.isDirectory = false) (name : EntryName) :
    step? tree place name = none := by
  rw [step?]
  cases hplace : tree.get? place with
  | none => rfl
  | some inner =>
    rw [hplace, Option.any_some] at h
    simp [h]

/-- A name other than dots leads down, if there is something. -/
theorem step?_of_directory {tree inner : FileTree} {place : Place}
    (h : tree.get? place = some inner) (hinner : inner.isDirectory = true) (name : EntryName) :
    step? tree place name =
      if name = "." then some place
      else if name = ".." then some place.dropLast
      else if (inner.entry? name).isSome then some (place ++ [name])
      else none := by
  simp [step?, h, hinner]

variable {name : EntryName} {content : ByteArray} {tree grown : FileTree}

/-- **A name leads to the same place in both trees**, unless it has led nowhere and leads to the
new file. -/
theorem step?_of_gains (h : Gains name content tree grown) (place : Place) (next : EntryName) :
    step? grown place next = step? tree place next ∨
      step? tree place next = none ∧
        ∃ p, step? grown place next = some p ∧ grown.get? p = some (.file content) := by
  rcases h.get?_directory place with ⟨u, u', hu, hu', hkind, hinner⟩ | ⟨ht, ht'⟩
  · have hkind' : u'.isDirectory = true := hinner.isDirectory_eq.trans hkind
    rw [step?_of_directory hu hkind, step?_of_directory hu' hkind']
    by_cases hdot : next = "."
    · exact .inl (by rw [if_pos hdot, if_pos hdot])
    by_cases hdots : next = ".."
    · exact .inl (by rw [if_neg hdot, if_pos hdots, if_neg hdot, if_pos hdots])
    rw [if_neg hdot, if_neg hdots, if_neg hdot, if_neg hdots]
    rcases hinner.entry? next with ⟨_, _, hv, hv', -⟩ | ⟨hnone, hnone'⟩ | ⟨-, -, hnew⟩
    · exact .inl (by rw [hv, hv']; rfl)
    · exact .inl (by rw [hnone, hnone'])
    · cases u.entry? next with
      | some old => exact .inl (by rw [hnew]; rfl)
      | none =>
        refine .inr ⟨rfl, place ++ [next], by rw [hnew]; rfl, ?_⟩
        rw [get?_append, hu', Option.bind_some, get?_singleton, hnew]
  · exact .inl (by rw [step?_of_not_directory ht, step?_of_not_directory ht'])

/-- **Names lead to the same place in both trees**, unless they have led nowhere and lead to the
new file. -/
theorem follow_of_gains (h : Gains name content tree grown) (place names : Place) :
    follow grown place names = follow tree place names ∨
      follow tree place names = none ∧
        ∃ p, follow grown place names = some p ∧ grown.get? p = some (.file content) := by
  induction names generalizing place with
  | nil => exact .inl rfl
  | cons next names ih =>
    rw [follow, follow]
    rcases step?_of_gains h place next with hsame | ⟨hnone, p, hp, hfile⟩
    · rw [hsame]
      cases step? tree place next with
      | none => exact .inl rfl
      | some place' => exact ih place'
    · rw [hnone, hp, Option.bind_some]
      cases names with
      | nil => exact .inr ⟨rfl, p, rfl, hfile⟩
      | cons other names =>
        -- names behind the file lead nowhere
        rw [follow, step?_of_not_directory (by rw [hfile]; rfl)]
        exact .inl rfl

variable {w : Workspace}

theorem get?_of_gains (h : Gains name content w.tree grown) (path : String) :
    { w with tree := grown }.place? path = w.place? path ∨
      w.place? path = none ∧ { w with tree := grown }.get? path = some (.file content) := by
  rcases follow_of_gains h (if isAbsolute path then [] else w.current) (pathNames path) with
    hsame | ⟨hnone, p, hp, hfile⟩
  · exact .inl hsame
  · refine .inr ⟨hnone, ?_⟩
    have hplace : { w with tree := grown }.place? path = some p := hp
    rw [get?, hplace]
    exact hfile

/-- No directory comes or goes. -/
theorem isDirectory_of_gains (h : Gains name content w.tree grown) (path : String) :
    { w with tree := grown }.isDirectory path = w.isDirectory path := by
  rcases get?_of_gains h path with hsame | ⟨hnone, hfile⟩
  · rw [isDirectory, get?, hsame, isDirectory, get?]
    cases w.place? path with
    | none => rfl
    | some p =>
      rcases h.get?_directory p with ⟨u, u', hu, hu', -, hinner⟩ | ⟨ht, ht'⟩
      · simp [hu, hu', hinner.isDirectory_eq]
      · simp [ht, ht']
  · rw [isDirectory, hfile, isDirectory, get?, hnone]
    rfl

/-- **A file that has not been there is the new one.** -/
theorem get?_of_isFile (h : Gains name content w.tree grown) {path : String}
    (hfile : { w with tree := grown }.isFile path = true) (hnone : w.isFile path = false) :
    { w with tree := grown }.get? path = some (.file content) := by
  rcases get?_of_gains h path with hsame | ⟨-, hnew⟩
  · rw [isFile, get?, hsame] at hfile
    rw [isFile, get?] at hnone
    rw [get?, hsame]
    cases hplace : w.place? path with
    | none => simp [hplace] at hfile
    | some p =>
      rw [hplace, Option.bind_some] at hfile hnone
      rw [Option.bind_some]
      rcases h.get? p with ⟨u, u', hu, hu', hinner⟩ | ⟨-, hnone'⟩ | ⟨-, -, hnew⟩
      · simp only [hu', Option.any_some, hinner.isDirectory_eq] at hfile
        simp only [hu, Option.any_some, hfile] at hnone
        cases hnone
      · simp only [hnone'] at hfile
        cases hfile
      · exact hnew
  · exact hnew

end Workspace

open FileTree

/-- **What is asked for is answered in the same way** when there is a file more. -/
theorem Analysis.prepare_of_gains {name : EntryName} {content : ByteArray} {w : Workspace}
    {grown : FileTree} (h : Gains name content w.tree grown) (r : Request) :
    prepare { w with tree := grown } r = prepare w r := by
  set path := r.root.getD r.settings.scan.root with hpath
  have hroot : { w with tree := grown }.currentPath = w.currentPath := rfl
  have hnames : { w with tree := grown }.names path = w.names path := rfl
  have hdirectory := Workspace.isDirectory_of_gains h path
  rcases Workspace.get?_of_gains h path with hsame | ⟨hnone, hfile⟩
  · simp only [prepare, hroot, hnames, hsame, hdirectory, ← hpath]
  · -- a path to the new file is no better than one that leads nowhere
    obtain ⟨p, hp, -⟩ := Option.bind_eq_some_iff.mp hfile
    have hno : w.isDirectory path = false := by
      rw [Workspace.isDirectory, Workspace.get?, hnone]
      rfl
    simp only [prepare, hroot, hp, hdirectory, ← hpath, hnone, hno]
    rfl

/-! ### Files that are not read -/

namespace Analysis

variable {name : EntryName} {content : ByteArray} {tree grown : FileTree}

theorem isStopped_of_gains (h : Gains name content tree grown) {place : Place}
    {names : List String} : IsStopped grown place names ↔ IsStopped tree place names := by
  constructor
  · rintro ⟨front, stop, back, next, rfl, hfollow, hlike, hdenied⟩
    rcases Workspace.follow_of_gains h place (front.map .text) with hsame | ⟨-, p, hp, hfile⟩
    · rw [h.isUnlistable_get?] at hdenied
      exact ⟨front, stop, back, next, rfl, hsame.symm.trans hfollow, hlike, hdenied⟩
    · obtain rfl := Option.some.inj (hp.symm.trans hfollow)
      rw [hfile] at hdenied
      cases hdenied
  · rintro ⟨front, stop, back, next, rfl, hfollow, hlike, hdenied⟩
    rcases Workspace.follow_of_gains h place (front.map .text) with hsame | ⟨hnone, -⟩
    · rw [← h.isUnlistable_get?] at hdenied
      exact ⟨front, stop, back, next, rfl, hsame.trans hfollow, hlike, hdenied⟩
    · rw [hnone] at hfollow
      cases hfollow

/-- Names lead to directories in both trees, or in neither. -/
theorem named?_of_gains (h : Gains name content tree grown) (names : List String) :
    (∃ u u', named? tree names = some u ∧ named? grown names = some u' ∧
      Gains name content u u') ∨
      (named? tree names).any FileTree.isDirectory = false ∧
        (named? grown names).any FileTree.isDirectory = false := by
  unfold named?
  rcases Workspace.follow_of_gains h [] (names.map .text) with hsame | ⟨hnone, p, hp, hfile⟩
  · rw [hsame]
    cases Workspace.follow tree [] (names.map .text) with
    | none => exact .inr ⟨rfl, rfl⟩
    | some p =>
      rw [Option.bind_some, Option.bind_some]
      rcases h.get?_directory p with ⟨u, u', hu, hu', -, hinner⟩ | hno
      · exact .inl ⟨u, u', hu, hu', hinner⟩
      · exact .inr hno
  · rw [hnone, hp, Option.bind_some, hfile]
    exact .inr ⟨rfl, rfl⟩

/-- **The directory that names lead to is listed in both trees, or in neither**, and what is made
of its entries is the same if it does not depend on the new file. -/
theorem map_listing_of_gains {α : Type} (h : Gains name content tree grown)
    {f : List (EntryName × FileTree) → α}
    (hf : ∀ u u', Gains name content u u' → f u'.entries = f u.entries) (names : List String) :
    (listing grown names).map f = (listing tree names).map f := by
  have hfound : (named? grown names).any FileTree.isUnlistable =
      (named? tree names).any FileTree.isUnlistable ∧
      f (((named? grown names).map FileTree.entries).getD []) =
        f (((named? tree names).map FileTree.entries).getD []) := by
    rcases named?_of_gains h names with ⟨u, u', hu, hu', hinner⟩ | ⟨hno, hno'⟩
    · simp [hu, hu', hinner.isUnlistable_eq, hf u u' hinner]
    · rw [any_isUnlistable_of_file hno, any_isUnlistable_of_file hno', entries_of_file hno,
        entries_of_file hno']
      exact ⟨rfl, rfl⟩
  have hdenied : IsDenied grown names ↔ IsDenied tree names := by
    rw [IsDenied, isStopped_of_gains h, hfound.1, IsDenied]
  rcases listing_cases tree names with ⟨hyes, hlisting⟩ | ⟨hno, hlisting⟩
  · rcases listing_cases grown names with ⟨-, hlisting'⟩ | ⟨hno', -⟩
    · rw [hlisting, hlisting']
    · exact absurd (hdenied.mpr hyes) hno'
  · rcases listing_cases grown names with ⟨hyes', -⟩ | ⟨-, hlisting'⟩
    · exact absurd (hdenied.mp hyes') hno
    · rw [hlisting, hlisting']
      exact congrArg Except.ok hfound.2

end Analysis

/-- A file under this name is no configuration file and says nothing of what is ignored. -/
structure Discovery.IsUnread (name : EntryName) : Prop where
  isConfigurationFile : isConfigurationFile name = false
  not_mem : name ∉ ([".ignore", ".gitignore", ".git", "exclude"] : List EntryName)

section Unread

variable {name : EntryName} (hname : Discovery.IsUnread name) {content : ByteArray}
  {tree grown : FileTree}

include hname

theorem IgnoreLevel.ofDirectory_of_gains (h : Gains name content tree grown)
    (respectGitignore : Bool) (place : Place) :
    ofDirectory respectGitignore place grown = ofDirectory respectGitignore place tree := by
  have hrules : ∀ path : Place, path.getLast? ≠ some name →
      rulesIn grown path = rulesIn tree path := by
    intro path hlast
    rw [rulesIn, h.content?_get? hlast, rulesIn]
  have hnames := hname.not_mem
  simp only [List.mem_cons, not_or] at hnames
  obtain ⟨hignore, hgitignore, hgit, hexclude, -⟩ := hnames
  have htop : (grown.entry? ".git").isSome = (tree.entry? ".git").isSome := by
    rcases h.entry? ".git" with ⟨u, u', hu, hu', -⟩ | ⟨hnone, hnone'⟩ | ⟨hnew, -⟩
    · rw [hu, hu']
      rfl
    · rw [hnone, hnone']
    · exact absurd hnew.symm hgit
  rw [ofDirectory, hrules [".ignore"] (by simpa using Ne.symm hignore),
    hrules [".gitignore"] (by simpa using Ne.symm hgitignore),
    hrules [".git", "info", "exclude"] (by simpa using Ne.symm hexclude), htop, ofDirectory]

namespace Discovery

theorem found_of_isUnread {inner : FileTree} (hinner : inner.isDirectory = false)
    {respectGitignore : Bool} {levels : List IgnoreLevel} {place : Place} :
    found respectGitignore levels place (name, inner) = .ok [] := by
  simp [found, hinner, hname.isConfigurationFile]

theorem filesBelow_of_gains (h : Gains name content tree grown) (respectGitignore : Bool)
    (levels : List IgnoreLevel) (place : Place) :
    filesBelow respectGitignore levels place grown =
      filesBelow respectGitignore levels place tree := by
  induction h generalizing levels place with
  | refl => rfl
  | @here tree hdirectory hfree =>
    have hgains : Gains name content _ _ := .here hdirectory hfree
    rw [filesBelow_eq, hgains.isUnlistable_eq, IgnoreLevel.ofDirectory_of_gains hname hgains,
      entries_withEntries, filesBelow_eq, mapM_putEntry]
    -- neither the file nor the one that has been there before is found
    rw [found_of_isUnread hname rfl]
    cases hold : tree.entries.lookup name with
    | none => rfl
    | some old =>
      rw [FileTree.entry?, hold, Option.any_some] at hfree
      exact (found_of_isUnread hname hfree).symm
  | @inside tree sub inner inner' hsub hinner ih =>
    have hgains : Gains name content _ _ := .inside hsub hinner
    rw [filesBelow_eq, hgains.isUnlistable_eq, IgnoreLevel.ofDirectory_of_gains hname hgains,
      entries_withEntries, filesBelow_eq, mapM_putEntry]
    rw [FileTree.entry?] at hsub
    rw [hsub, found, hinner.isDirectory_eq, ih]
    rfl

/-- The levels on the way to something that is there. -/
theorem levelsAbove_of_gains (h : Gains name content tree grown) (respectGitignore : Bool)
    {root : Place} (hroot : (grown.get? root).isSome = true) :
    levelsAbove respectGitignore grown root = levelsAbove respectGitignore tree root := by
  refine List.filterMap_congr fun depth hdepth => ?_
  rcases h.get? (root.take depth) with ⟨u, u', hu, hu', hinner⟩ | ⟨hnone, hnone'⟩ | ⟨-, -, hnew⟩
  · rw [hu, hu', Option.map_some, Option.map_some,
      IgnoreLevel.ofDirectory_of_gains hname hinner]
  · rw [hnone, hnone']
  · -- the root is not below the new file
    have hbelow : root.drop depth ≠ [] := by
      rw [List.mem_reverse, List.mem_range] at hdepth
      simpa using hdepth
    rw [← List.take_append_drop depth root, get?_append, hnew, Option.bind_some,
      get?_of_file rfl hbelow] at hroot
    cases hroot

theorem malformedAbove?_of_gains (h : Gains name content tree grown) (respectGitignore : Bool)
    (root : Place) :
    malformedAbove? respectGitignore grown root = malformedAbove? respectGitignore tree root := by
  have hlast : ∀ place : Place, ∀ file ∈ IgnoreLevel.files,
      (place ++ file).getLast? ≠ some name := by
    intro place file hfile heq
    refine hname.not_mem ?_
    simp only [IgnoreLevel.files, List.mem_cons, List.not_mem_nil, or_false] at hfile
    rcases hfile with rfl | rfl | rfl <;>
      simp only [List.getLast?_append, List.getLast?_cons, List.getLast?_nil, Option.getD_none,
        Option.getD_some, Option.some_or, Option.some.injEq] at heq <;>
      simp [← heq]
  unfold malformedAbove?
  dsimp only
  congr 1
  funext depth
  refine List.find?_congr fun file hfile => ?_
  obtain ⟨own, hown, rfl⟩ := List.mem_map.mp hfile
  rw [h.content?_get? (hlast _ own (List.mem_filter.mp hown).1)]

theorem modulesBelow_of_gains (h : Gains name content tree grown) (respectGitignore : Bool)
    (exclude : List Glob) (root : Place) :
    modulesBelow respectGitignore exclude grown root =
      modulesBelow respectGitignore exclude tree root := by
  have hfile : ∀ whole : FileTree, (whole.get? root).any FileTree.isDirectory = false →
      modulesBelow respectGitignore exclude whole root = .ok [] := by
    intro whole hwhole
    rw [modulesBelow]
    cases hroot : whole.get? root with
    | none => rfl
    | some inner =>
      rw [hroot, Option.any_some] at hwhole
      cases inner with
      | file _ | unreadable => simp [filesBelow, Except.map, directoriesOf]
      | directory _ | unlistable _ => cases hwhole
  rcases h.get?_directory root with ⟨u, u', hu, hu', -, hinner⟩ | ⟨ht, ht'⟩
  · have hlevels := levelsAbove_of_gains hname h respectGitignore (by rw [hu']; rfl)
    rw [modulesBelow, hu', hlevels, modulesBelow, hu]
    dsimp only
    rw [filesBelow_of_gains hname hinner]
  · rw [hfile grown ht', hfile tree ht]

theorem childModules_of_gains (h : Gains name content tree grown) (respectGitignore : Bool)
    (exclude : List Glob) (root : Place) :
    childModules respectGitignore exclude grown root =
      childModules respectGitignore exclude tree root := by
  rw [childModules, malformedAbove?_of_gains hname h, modulesBelow_of_gains hname h, childModules]

end Discovery

namespace Analysis

variable {a : Analysis}

omit hname in
theorem filesWith_of_gains (h : Gains name content tree grown) {suffix : String}
    (hsuffix : ∀ text, name.text? = some text → text.endsWith suffix = false) :
    filesWith suffix grown.entries = filesWith suffix tree.entries := by
  unfold filesWith
  dsimp only
  congr 1
  rcases h.entries_cases with heq | ⟨-, heq⟩ | ⟨sub, inner, inner', hsub, hinner, heq⟩
  · rw [heq]
  · rw [heq, filterMap_putEntry]
    cases htext : name.text? with
    | none => cases tree.entries.lookup name <;> simp [htext]
    | some text => cases tree.entries.lookup name <;> simp [htext, hsuffix text htext]
  · rw [FileTree.entry?] at hsub
    rw [heq, filterMap_putEntry]
    rw [hsub, Option.bind_some]
    -- something that has changed is a directory, and not among the files
    cases hkind : inner.isDirectory with
    | true => simp [hinner.isDirectory_eq, hkind]
    | false => rw [hinner.eq_of_file hkind, hkind]

theorem keptFiles_of_gains (h : Gains name content tree grown) (dir : List String) :
    a.keptFiles dir grown.entries = a.keptFiles dir tree.entries := by
  have hsuffix : ∀ text, name.text? = some text →
      text.endsWith ".tf" = false ∧ text.endsWith ".tf.json" = false := by
    intro text htext
    simpa [Discovery.isConfigurationFile, htext] using hname.isConfigurationFile
  rw [keptFiles, filesWith_of_gains h fun text htext => (hsuffix text htext).1,
    filesWith_of_gains h fun text htext => (hsuffix text htext).2, keptFiles]

theorem moduleFiles_of_gains (h : Gains name content tree grown) (place : Place) :
    a.moduleFiles grown place = a.moduleFiles tree place := by
  have hkept := map_listing_of_gains h (f := a.keptFiles (a.shownNames place))
    (fun u u' hinner => keptFiles_of_gains hname hinner _) (a.lookupNames (a.shownNames place))
  have hread : ∀ entries : Except AccessError (List (EntryName × FileTree)),
      (entries.bind fun entries => (a.keptFiles (a.shownNames place) entries).mapM a.readNamed) =
        (entries.map (a.keptFiles (a.shownNames place))).bind (List.mapM a.readNamed) := by
    intro entries
    cases entries <;> rfl
  rw [moduleFiles_eq, hread, hkept, ← hread, ← moduleFiles_eq]

/-- **A file that is not read changes nothing for an analysis.** -/
theorem run_of_gains (h : Gains name content tree grown) : a.run grown = a.run tree := by
  have hchildren : a.childPlaces grown = a.childPlaces tree := by
    rw [childPlaces, Discovery.childModules_of_gains hname h, childPlaces]
  have hproject : a.project grown = a.project tree := by
    funext place
    rw [project, moduleFiles_of_gains hname h, project]
  rw [run_eq, projects, hchildren, hproject, run_eq, projects]

end Analysis

end Unread

end TerraLint
