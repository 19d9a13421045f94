import TerraLint.Proofs.Failures
import TerraLint.Proofs.Inventory

/-!
# Block types and their files

A layout gives some block types a file of their own. It is read in both directions: a
declaration is looked up by its type, to see where it should be, and by its file, to see
what should be there. Both directions are searches through the same table, and each takes
the first entry that it comes to. That they are inverse to each other
(`TerraLint.ModuleStructure.Layout.IsSound.typeOf?_eq_some_iff`) is due to the check that a
table has to pass: no two types share a file.

The table is checked in the order of the types, when a later file for a type has already
replaced an earlier one, so what is accepted does not depend on pairs that were replaced
(`TerraLint.ModuleStructure.Layout.ofList_eq_ok_iff`).

## Main results

* A list of types and files is accepted exactly if the files are plain names and no two
  types have the same one, and a rule with an accepted layout is silent exactly on the
  modules in which each type stands in its file, and nothing else does
  (`TerraLint.ModuleStructure.rule_exact`). The two sweeps of the rule check one direction
  each.
* A declaration that is moved as the rule says is not reported again
  (`TerraLint.ModuleStructure.checkPlacement_advice`). The file it is moved to is put
  together from a split path, and it splits again at the same slash.
-/

namespace TerraLint.ModuleStructure

/-! ### Paths -/

/-- **A path splits** into a directory, if it names one, and a name: the name is what stands
behind the last slash. -/
def Splits (path : String) (directory : Option String) (name : String) : Prop :=
  '/' ∉ name.toList ∧ path = directory.elim name (· ++ "/" ++ name)

/-- Every path splits. -/
theorem exists_splits (path : String) : ∃ directory name, Splits path directory name := by
  by_cases hslash : '/' ∈ path.toList.reverse
  · obtain ⟨name, directory, hpath, hname⟩ := List.eq_append_cons_of_mem hslash
    refine ⟨some (String.ofList directory.reverse), String.ofList name.reverse, by simpa using hname, ?_⟩
    rw [List.reverse_eq_iff] at hpath
    apply String.toList_inj.mp
    simp [hpath]
  · exact ⟨none, path, by simpa using hslash, rfl⟩

namespace Splits

variable {path name name' : String} {directory directory' : Option String}

/-- What a walk from the end of the path finds, and where it stops. -/
theorem walk_eq (h : Splits path directory name) :
    path.toList.reverse.takeWhile (· != '/') = name.toList.reverse ∧
      path.toList.reverse.dropWhile (· != '/') =
        directory.elim [] (fun directory => '/' :: directory.toList.reverse) := by
  obtain ⟨hname, rfl⟩ := h
  have hpass : ∀ c ∈ name.toList.reverse, (c != '/') = true := by
    intro c hc
    rw [bne_iff_ne]
    rintro rfl
    exact hname (List.mem_reverse.mp hc)
  cases directory with
  | none => exact ⟨List.takeWhile_eq_self_iff.mpr hpass, List.dropWhile_eq_nil_iff.mpr hpass⟩
  | some directory =>
    have hpath : (directory ++ "/" ++ name).toList.reverse =
        name.toList.reverse ++ '/' :: directory.toList.reverse := by simp
    simp only [Option.elim_some, hpath]
    rw [List.takeWhile_append_of_pos hpass, List.dropWhile_append_of_pos hpass]
    simp

/-- The name is found as the base name. -/
theorem baseName_eq (h : Splits path directory name) : baseName path = name := by
  rw [baseName, h.walk_eq.1, List.reverse_reverse, String.ofList_toList]

/-- **A sibling stands in the same directory.** -/
theorem sibling (h : Splits path directory name) {file : String} (hfile : '/' ∉ file.toList) :
    Splits (sibling path file) directory file := by
  refine ⟨hfile, ?_⟩
  apply String.toList_inj.mp
  rw [ModuleStructure.sibling, h.walk_eq.2]
  cases directory <;> simp

/-- A path splits in one way only. -/
theorem unique (h : Splits path directory name) (h' : Splits path directory' name') :
    directory = directory' ∧ name = name' := by
  have hstop := h.walk_eq.2.symm.trans h'.walk_eq.2
  refine ⟨?_, h.baseName_eq.symm.trans h'.baseName_eq⟩
  cases directory <;> cases directory' <;> simp_all [String.toList_inj]

end Splits

/-- The base name is the name that a path splits into. -/
theorem baseName_eq_iff {path name : String} :
    baseName path = name ↔ ∃ directory, Splits path directory name := by
  constructor
  · rintro rfl
    obtain ⟨directory, name, h⟩ := exists_splits path
    exact ⟨directory, h.baseName_eq.symm ▸ h⟩
  · rintro ⟨directory, h⟩
    exact h.baseName_eq

namespace Layout

/-! ### Arranging types and files

A table of types and files is arranged in the same way as the named contents of a project:
in order, and with the later of two entries for a type. -/

/-- An entry of the table, as a named content. -/
def named (entry : String × String) : SourceFile := ⟨entry.1, entry.2⟩

theorem named_injective : Function.Injective named := by
  rintro ⟨type, file⟩ ⟨type', file'⟩ h
  simpa [named] using h

/-- The table that a list of types and files describes. -/
def arranged (files : List (String × String)) : List (String × String) :=
  files.foldl (fun sorted (type, file) => insert type file sorted) []

theorem map_named_insert (type file : String) (entries : List (String × String)) :
    (insert type file entries).map named =
      Project.insert (named (type, file)) (entries.map named) := by
  induction entries with
  | nil => rfl
  | cons entry entries ih =>
    simp only [insert, List.map_cons, Project.insert, named]
    split_ifs
    · rfl
    · rfl
    · exact congrArg _ ih

theorem map_named_arranged (files : List (String × String)) :
    (arranged files).map named = Project.arrange files := by
  induction files using List.reverseRecOn with
  | nil => rfl
  | append_singleton files entry ih =>
    have hlast : arranged (files ++ [entry]) = insert entry.1 entry.2 (arranged files) := by
      simp [arranged]
    rw [hlast, map_named_insert, ih, Project.arrange, Project.arrange, List.foldl_append]
    rfl

/-- A type has one entry. -/
theorem arranged_types (files : List (String × String)) :
    (arranged files).Pairwise fun a b => a.1 ≠ b.1 := by
  have hordered := map_named_arranged files ▸ Project.ordered_arrange files
  refine (List.pairwise_map.mp hordered).imp ?_
  rintro ⟨type, file⟩ ⟨other, _⟩ hlt rfl
  exact String.lt_irrefl type hlt

/-- The list gives a type its file: the last pair with the type has it. -/
def Gives (files : List (String × String)) (type file : String) : Prop :=
  ∃ front back, files = front ++ (type, file) :: back ∧ ∀ entry ∈ back, entry.1 ≠ type

theorem gives_iff_lookup {files : List (String × String)} {type file : String} :
    Gives files type file ↔ files.reverse.lookup type = some file := by
  rw [List.lookup_eq_some_iff]
  constructor
  · rintro ⟨front, back, rfl, hback⟩
    refine ⟨back.reverse, front.reverse, by simp, fun entry hentry => ?_⟩
    exact bne_iff_ne.mpr (hback entry (List.mem_reverse.mp hentry)).symm
  · rintro ⟨back, front, hfiles, hback⟩
    rw [List.reverse_eq_iff] at hfiles
    refine ⟨front.reverse, back.reverse, by simp [hfiles], fun entry hentry => ?_⟩
    exact (bne_iff_ne.mp (hback entry (List.mem_reverse.mp hentry))).symm

/-- **Of two files for a type the later counts.** -/
theorem mem_arranged {files : List (String × String)} {type file : String} :
    (type, file) ∈ arranged files ↔ Gives files type file := by
  rw [gives_iff_lookup, ← List.mem_map_of_injective named_injective, map_named_arranged]
  exact Project.mem_arrange

/-! ### Sound layouts -/

/-- A plain name: it is not empty, and names no directory. -/
def IsPlain (file : String) : Prop := file ≠ "" ∧ '/' ∉ file.toList

/-- **A sound layout**: types and files correspond to each other, and the files are plain
names. -/
structure IsSound (layout : Layout) : Prop where
  types : layout.files.Pairwise fun a b => a.1 ≠ b.1
  files : layout.files.Pairwise fun a b => a.2 ≠ b.2
  plain : ∀ entry ∈ layout.files, IsPlain entry.2

/-- What is checked of the entries behind those seen: plain names, different from each other
and from those seen. -/
theorem check_eq_ok_iff {seen entries : List (String × String)} :
    check seen entries = .ok () ↔
      (∀ entry ∈ entries, IsPlain entry.2) ∧ entries.Pairwise (fun a b => a.2 ≠ b.2) ∧
        ∀ a ∈ seen, ∀ b ∈ entries, a.2 ≠ b.2 := by
  induction entries generalizing seen with
  | nil => simp [check]
  | cons entry entries ih =>
    obtain ⟨type, file⟩ := entry
    rw [check, List.forall_mem_cons, List.pairwise_cons]
    by_cases hplain : file = "" ∨ file.toList.contains '/'
    · -- the name is not plain, which ends the check
      have hnot : ¬IsPlain file := by
        rintro ⟨hne, hslash⟩
        rcases hplain with h | h
        · exact hne h
        · exact hslash (List.contains_iff_mem.mp h)
      rw [if_pos hplain]
      simp [hnot]
    · have hyes : IsPlain file := by
        rw [not_or] at hplain
        exact ⟨hplain.1, fun h => hplain.2 (List.contains_iff_mem.mpr h)⟩
      rw [if_neg hplain]
      cases hfind : seen.find? fun entry => entry.2 == file with
      | some other =>
        -- an earlier type has the file
        have hother : other.2 = file := by simpa using List.find?_some hfind
        have hmem := List.mem_of_find?_eq_some hfind
        simp only [reduceCtorEq, false_iff]
        rintro ⟨-, -, hseen⟩
        exact hseen other hmem _ List.mem_cons_self hother
      | none =>
        have hnew : ∀ a ∈ seen, a.2 ≠ file := by simpa using hfind
        simp only [ih, List.forall_mem_append, List.forall_mem_cons]
        constructor
        · rintro ⟨hrest, hapart, hseen, hfile, -⟩
          exact ⟨⟨hyes, hrest⟩, ⟨hfile, hapart⟩, fun a ha => ⟨hnew a ha, hseen a ha⟩⟩
        · rintro ⟨⟨-, hrest⟩, ⟨hfile, hapart⟩, hseen⟩
          exact ⟨hrest, hapart, fun a ha => (hseen a ha).2, hfile, by simp⟩

/-- **A list is accepted if the table that it describes is sound.** -/
theorem ofList_eq_ok_iff {files : List (String × String)} {layout : Layout} :
    ofList files = .ok layout ↔ layout = ⟨arranged files⟩ ∧ layout.IsSound := by
  have hrun : ofList files = (check [] (arranged files) >>= fun _ => pure ⟨arranged files⟩) := rfl
  have hsound : IsSound ⟨arranged files⟩ ↔ check [] (arranged files) = .ok () := by
    rw [check_eq_ok_iff]
    exact ⟨fun h => ⟨h.plain, h.files, by simp⟩, fun h => ⟨arranged_types files, h.2.1, h.1⟩⟩
  constructor
  · intro h
    obtain ⟨_, hcheck, hpure⟩ := bind_eq_ok (hrun ▸ h)
    obtain rfl : ⟨arranged files⟩ = layout := Except.ok.inj hpure
    exact ⟨rfl, hsound.mpr hcheck⟩
  · rintro ⟨rfl, h⟩
    rw [hrun, hsound.mp h]
    rfl

namespace IsSound

variable {layout : Layout} {type file : String}

theorem fileOf?_eq_some_iff (h : layout.IsSound) :
    layout.fileOf? type = some file ↔ (type, file) ∈ layout.files := by
  rw [fileOf?, List.lookup_eq_some_iff]
  constructor
  · rintro ⟨front, back, hfiles, -⟩
    simp [hfiles]
  · intro hmem
    obtain ⟨front, back, hfiles⟩ := List.append_of_mem hmem
    refine ⟨front, back, hfiles, fun entry hentry => ?_⟩
    have hacross := (List.pairwise_append.mp (hfiles ▸ h.types)).2.2
    exact bne_iff_ne.mpr (hacross entry hentry _ List.mem_cons_self).symm

/-- **The two directions of a layout are inverse to each other.** -/
theorem typeOf?_eq_some_iff (h : layout.IsSound) :
    layout.typeOf? file = some type ↔ layout.fileOf? type = some file := by
  rw [h.fileOf?_eq_some_iff, typeOf?, Option.map_eq_some_iff]
  constructor
  · rintro ⟨entry, hfind, rfl⟩
    obtain rfl : entry.2 = file := by simpa using List.find?_some hfind
    exact List.mem_of_find?_eq_some hfind
  · intro hmem
    refine ⟨(type, file), ?_, rfl⟩
    obtain ⟨front, back, hfiles⟩ := List.append_of_mem hmem
    refine List.find?_eq_some_iff_append.mpr ⟨by simp, front, back, hfiles, fun entry hentry => ?_⟩
    have hacross := (List.pairwise_append.mp (hfiles ▸ h.files)).2.2
    simpa using hacross entry hentry _ List.mem_cons_self

/-- The file for a type is a plain name. -/
theorem isPlain (h : layout.IsSound) (hfile : layout.fileOf? type = some file) : IsPlain file :=
  h.plain _ (h.fileOf?_eq_some_iff.mp hfile)

end IsSound

/-- **What is accepted**, in terms of the files that a list gives types. -/
theorem exists_ofList_iff {files : List (String × String)} :
    (∃ layout, ofList files = .ok layout) ↔
      (∀ type file, Gives files type file → IsPlain file) ∧
        ∀ type other file, Gives files type file → Gives files other file → type = other := by
  constructor
  · rintro ⟨layout, h⟩
    obtain ⟨rfl, hsound⟩ := ofList_eq_ok_iff.mp h
    refine ⟨fun type file hgives => hsound.plain _ (mem_arranged.mpr hgives), ?_⟩
    intro type other file htype hother
    rw [← mem_arranged, ← hsound.fileOf?_eq_some_iff, ← hsound.typeOf?_eq_some_iff] at *
    exact Option.some.inj (htype.symm.trans hother)
  · rintro ⟨hplain, hone⟩
    refine ⟨_, ofList_eq_ok_iff.mpr ⟨rfl, arranged_types files, ?_, ?_⟩⟩
    · -- entries with one file are entries of one type, and there is one of these
      refine (arranged_types files).imp_of_mem ?_
      rintro ⟨type, file⟩ ⟨other, _⟩ ha hb hne rfl
      exact hne (hone type other file (mem_arranged.mp ha) (mem_arranged.mp hb))
    · exact fun entry hentry => hplain entry.1 entry.2 (mem_arranged.mp hentry)

theorem fileOf?_eq_some_iff_gives {files : List (String × String)} {layout : Layout}
    (h : ofList files = .ok layout) {type file : String} :
    layout.fileOf? type = some file ↔ Gives files type file := by
  obtain ⟨rfl, hsound⟩ := ofList_eq_ok_iff.mp h
  rw [hsound.fileOf?_eq_some_iff, mem_arranged]

/-! ### Layouts that a rule can have -/

/-- The layouts of rules: the one by default, those made from a list, and those made from
settings. -/
inductive Accepted : Layout → Prop
  | byDefault : Accepted default
  | ofList {files : List (String × String)} {layout : Layout} :
      ofList files = .ok layout → Accepted layout
  | ofSettings {settings : Option RuleSettings} {layout : Layout} :
      ofSettings settings = .ok layout → Accepted layout

theorem isSound_default : IsSound default := by
  have hlist : ofList default.files = .ok default := by decide
  exact (ofList_eq_ok_iff.mp hlist).2

/-- **The layout of a rule is sound**, wherever it comes from. -/
theorem Accepted.isSound {layout : Layout} (h : Accepted layout) : layout.IsSound := by
  cases h with
  | byDefault => exact isSound_default
  | ofList h => exact (ofList_eq_ok_iff.mp h).2
  | ofSettings h =>
    obtain ⟨files, -, h⟩ := bind_eq_ok h
    cases files with
    | none =>
      obtain rfl : default = layout := Except.ok.inj h
      exact isSound_default
    | some files => exact (ofList_eq_ok_iff.mp h).2

/-- **The layout is obeyed** in a module: the declarations of a type with a file of its own are
those that stand in a file of that name. -/
def Obeyed (layout : Layout) (m : Module) : Prop :=
  ∀ d ∈ m.declarations, ∀ type file, layout.fileOf? type = some file →
    (d.type = type ↔ ∃ directory, Splits d.file directory file)

end Layout

/-! ### What the two sweeps find -/

section Sweeps

variable {layout : Layout} {d : Declaration}

theorem misplaced_eq_nil_iff :
    misplaced layout d = [] ↔ ∀ file, layout.fileOf? d.type = some file → baseName d.file = file := by
  unfold misplaced
  cases layout.fileOf? d.type with
  | none => simp
  | some file => simp

theorem intruding_eq_nil_iff : intruding layout d = [] ↔
    ∀ type, layout.typeOf? (baseName d.file) = some type → type = d.type := by
  unfold intruding
  cases layout.typeOf? (baseName d.file) with
  | none => simp
  | some type => simp

/-- **The two sweeps together** find nothing in a declaration if it stands in a file for its
type and in no other file that is for a type. -/
theorem sweeps_eq_nil_iff (h : layout.IsSound) :
    misplaced layout d = [] ∧ intruding layout d = [] ↔
      ∀ type file, layout.fileOf? type = some file →
        (d.type = type ↔ ∃ directory, Splits d.file directory file) := by
  simp only [misplaced_eq_nil_iff, intruding_eq_nil_iff, h.typeOf?_eq_some_iff, ← baseName_eq_iff]
  constructor
  · rintro ⟨hplaced, hown⟩ type file hfile
    constructor
    · rintro rfl
      exact hplaced file hfile
    · rintro rfl
      exact (hown type hfile).symm
  · intro hlaw
    exact ⟨fun file hfile => (hlaw d.type file hfile).mp rfl,
      fun type hfile => ((hlaw type _ hfile).mpr rfl).symm⟩

/-- **What a module is silent about**: the sweeps find nothing exactly if the layout is
obeyed. -/
theorem sweep_found_eq_nil_iff (h : layout.IsSound) {project : Project} {m : Module}
    (hm : project.module = .ok m) :
    (Findings.sweep [misplaced layout, intruding layout] project).found = [] ↔ layout.Obeyed m := by
  simp only [Findings.sweep, hm, Findings.ofExcept, List.flatMap_eq_nil_iff, List.forall_mem_cons,
    List.not_mem_nil, false_imp_iff, implies_true, and_true, ← forall₂_and, sweeps_eq_nil_iff h]
  rfl

/-- What finds nothing is silent towards every collector. -/
theorem collect_eq_nil {check : Check Unit} {found : List Finding}
    (hcheck : check = forM found info.report) (hfound : found = []) (limit : Option Nat) :
    check.collect limit = ([], none) := by
  subst hcheck hfound
  rfl

end Sweeps

/-! ### The rule -/

/-- **Block types and their files.** A list of types and files is accepted if and only if the
files that it gives types in the end are plain names, and different for different types. In a
layout that a rule has, a file is for a type exactly if the type has that file; and on a module
the rule is silent if and only if the layout is obeyed. -/
theorem rule_exact :
    (∀ files : List (String × String),
      ((∃ layout, Layout.ofList files = .ok layout) ↔
        (∀ type file, Layout.Gives files type file → file ≠ "" ∧ '/' ∉ file.toList) ∧
          ∀ type other file, Layout.Gives files type file → Layout.Gives files other file →
            type = other) ∧
      ∀ layout, Layout.ofList files = .ok layout →
        ∀ type file, layout.fileOf? type = some file ↔ Layout.Gives files type file) ∧
    ∀ layout : Layout, layout.Accepted →
      (∀ type file, layout.typeOf? file = some type ↔ layout.fileOf? type = some file) ∧
      ∀ (project : Project) (m : Module), project.module = .ok m →
        (((rule layout).run none project).1 = [] ↔ layout.Obeyed m) ∧
        ∀ limit, (rule layout).run limit project = ([], none) ↔ layout.Obeyed m := by
  refine ⟨fun files => ⟨Layout.exists_ofList_iff, fun layout h type file => ?_⟩,
    fun layout hlayout => ⟨fun type file => ?_, fun project m hm => ⟨?_, fun limit => ?_⟩⟩⟩
  · exact Layout.fileOf?_eq_some_iff_gives h
  · exact hlayout.isSound.typeOf?_eq_some_iff
  · rw [(finds layout).run_unlimited, List.map_eq_nil_iff]
    exact sweep_found_eq_nil_iff hlayout.isSound hm
  · have hstopped : (Findings.sweep [misplaced layout, intruding layout] project).stopped = none := by
      simp only [Findings.sweep, hm, Findings.ofExcept]
    rw [(finds layout).run_eq_nil_iff, sweep_found_eq_nil_iff hlayout.isSound hm]
    exact and_iff_left hstopped

/-- The first file for variables is replaced, and outputs have it instead. Modules have no file
of their own, and the variable stands in a directory. -/
theorem rule_exact_replaced :
    let files := [("variable", "io.tf"), ("output", "io.tf"), ("variable", "vars.tf")]
    let project := Project.ofFiles []
      [("env/vars.tf", "variable \"a\" \x7b\x7d\n"), ("main.tf", "module \"b\" \x7b\x7d\n")]
    ∃ layout m, Layout.ofList files = .ok layout ∧ layout.typeOf? "io.tf" = some "output" ∧
      project.module = .ok m ∧ m.declarations.map Declaration.type = ["variable", "module"] ∧
      layout.Obeyed m := by
  intro files project
  have hlayout : Layout.ofList files = .ok ⟨[("output", "io.tf"), ("variable", "vars.tf")]⟩ := by
    decide
  have htypes : project.module.map (fun m => m.declarations.map Declaration.type) =
      .ok ["variable", "module"] := by cbv
  obtain ⟨m, hm, htypes⟩ := map_eq_ok htypes
  obtain ⟨hinverse, hsilent⟩ := rule_exact.2 _ (.ofList hlayout)
  have hrun : (rule ⟨[("output", "io.tf"), ("variable", "vars.tf")]⟩).run none project = ([], none) := by
    cbv
  exact ⟨_, m, hlayout, (hinverse "output" "io.tf").mpr rfl, hm, htypes.symm,
    ((hsilent project m hm).2 none).mp hrun⟩

/-! ### The advice -/

/-- The message that a declaration should be moved to another file. -/
def advice (d : Declaration) (target : String) : String :=
  subject d ++ " should be moved from " ++ d.file ++ " to " ++ target ++ " file"

/-- The message tells where to move the declaration. -/
theorem advice_inj {d : Declaration} {target other : String} :
    advice d target = advice d other ↔ target = other := by
  simp [advice, ← String.toList_inj]

/-- What is reported of a place is advice, to a file beside the one in which the declaration
stands. -/
theorem exists_of_mem_misplaced {layout : Layout} {d : Declaration} {finding : Finding}
    (h : finding ∈ misplaced layout d) :
    ∃ file, layout.fileOf? d.type = some file ∧
      finding.message = advice d (sibling d.file file) := by
  unfold misplaced at h
  split at h
  · rename_i file hfile
    split at h
    · simp at h
    · obtain rfl := List.mem_singleton.mp h
      exact ⟨file, hfile, rfl⟩
  · simp at h

/-- **The advice works.** Whatever the place of a declaration is found wrong for, the message
names one file. It is in the same directory, and there neither of the two checks has anything to
say about a declaration of that type. -/
theorem checkPlacement_advice {layout : Layout} (hlayout : layout.Accepted) {d : Declaration}
    {issue : Issue} (hissue : issue ∈ ((checkPlacement layout d).collect none).1) :
    ∃ target, (∀ other, issue.message = advice d other ↔ other = target) ∧
      (∀ directory,
        (∃ name, Splits d.file directory name) ↔ ∃ name, Splits target directory name) ∧
      ∀ e : Declaration, e.type = d.type → e.file = target → ∀ limit,
        (checkPlacement layout e).collect limit = ([], none) ∧
          (checkDedicatedFile layout e).collect limit = ([], none) := by
  have hsound := hlayout.isSound
  rw [checkPlacement_eq, Findings.collect_forM] at hissue
  obtain ⟨finding, hfinding, rfl⟩ := List.mem_map.mp hissue
  obtain ⟨file, hfile, hmessage⟩ := exists_of_mem_misplaced hfinding
  have hplain := hsound.isPlain hfile
  obtain ⟨directory, name, hpath⟩ := exists_splits d.file
  have htarget := hpath.sibling hplain.2
  refine ⟨sibling d.file file, fun other => ?_, fun directory' => ?_, fun e htype hplace limit => ?_⟩
  · rw [RuleInfo.issue, hmessage, advice_inj, eq_comm]
  · constructor
    · rintro ⟨_, h⟩
      exact ⟨file, (hpath.unique h).1 ▸ htarget⟩
    · rintro ⟨_, h⟩
      exact ⟨name, (htarget.unique h).1 ▸ hpath⟩
  · -- at the target the type and the base name are those of one entry of the layout
    have hbase : baseName e.file = file := hplace ▸ htarget.baseName_eq
    have hplaced : misplaced layout e = [] := by
      rw [misplaced_eq_nil_iff, hbase, htype]
      exact fun other hother => Option.some.inj (hfile.symm.trans hother)
    have hown : intruding layout e = [] := by
      rw [intruding_eq_nil_iff, hbase, htype]
      intro type hother
      exact Option.some.inj (hother.symm.trans (hsound.typeOf?_eq_some_iff.mpr hfile))
    exact ⟨collect_eq_nil (checkPlacement_eq layout e) hplaced limit,
      collect_eq_nil (checkDedicatedFile_eq layout e) hown limit⟩

/-- An output far from its file, below two directories of one name. -/
theorem checkPlacement_advice_nested :
    let d : Declaration := ⟨"output", ["a"], "x/x/main.tf", .point "x/x/main.tf" .start,
      .point "x/x/main.tf" .start, []⟩
    let issue := info.issue ⟨"output \"a\" should be moved from x/x/main.tf to x/x/outputs.tf file",
      d.header⟩
    issue ∈ ((checkPlacement .default d).collect none).1 ∧
      (∃ name, Splits "x/x/outputs.tf" (some "x/x") name) ∧
      (checkPlacement .default { d with file := "x/x/outputs.tf" }).collect (some 0) = ([], none) ∧
      (checkDedicatedFile .default { d with file := "x/x/outputs.tf" }).collect (some 0) =
        ([], none) := by
  intro d issue
  have hissue : issue ∈ ((checkPlacement .default d).collect none).1 := by
    have hrun : (checkPlacement .default d).collect none = ([issue], none) := by cbv
    rw [hrun]
    exact List.mem_singleton_self issue
  obtain ⟨target, hmessage, hdirectory, hsilent⟩ := checkPlacement_advice .byDefault hissue
  have htext : issue.message = advice d "x/x/outputs.tf" := by decide +kernel
  have htarget := (hmessage _).mp htext
  have hpath : Splits d.file (some "x/x") "main.tf" := ⟨by decide +kernel, by decide +kernel⟩
  refine ⟨hissue, ?_, ?_⟩
  · rw [htarget]
    exact (hdirectory _).mp ⟨_, hpath⟩
  · exact hsilent { d with file := "x/x/outputs.tf" } rfl htarget (some 0)

end TerraLint.ModuleStructure
