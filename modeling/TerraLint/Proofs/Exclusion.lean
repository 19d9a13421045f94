import TerraLint.Proofs.Matching
import TerraLint.Proofs.Modules

/-!
# Leaving out a directory

The pattern `**/D/**`, for the name `D` of a directory, is meant for the files below
directories of this name. As a pattern it matches exactly these: a path matches it if and only
if one of the directories on the path is called `D`. But a path is also left out where the core
of a pattern occurs in it, and the core of `**/D/**` is `D` itself. So the files that an analysis
leaves out for such a pattern are those with `D` in the name of a directory on their path or in
their own name (`TerraLint.Analysis.exclude_directory`), as `prod.terraform.tf` is for the
pattern of the default settings (`TerraLint.Analysis.exclude_terraform_file`).

The proof goes through characters. What the pattern is made of is read off its text
(`TerraLint.Glob.ofText_below`), and what it matches off the meaning of its parts
(`TerraLint.Glob.isWholeMatch_below`): the texts with the name in front of a slash
(`TerraLint.PrecedesSlash`). These, and the texts with the core somewhere in them, are then told
apart by the names between the slashes of a path.
-/

namespace TerraLint

/-! ### Names between slashes -/

/-- A word without a character does not stand across it. -/
theorem infix_append_cons_iff {α : Type} {word xs ys : List α} {x : α} (hx : x ∉ word) :
    word <:+: xs ++ x :: ys ↔ word <:+: xs ∨ word <:+: ys := by
  constructor
  · have hnil : ∀ {w : List α}, x ∉ w → w <+: x :: ys → w = [] := by
      intro w hw hfront
      rcases List.prefix_cons_iff.mp hfront with rfl | ⟨tail, rfl, -⟩
      · rfl
      · exact absurd List.mem_cons_self hw
    intro h
    rcases List.infix_append_iff.mp h with h | h | ⟨first, second, rfl, hfirst, hsecond⟩
    · exact .inl h
    · rcases List.infix_cons_iff.mp h with hfront | h
      · rw [hnil hx hfront]
        exact .inl List.nil_infix
      · exact .inr h
    · -- the part behind the character is empty, since it would begin with it
      rw [hnil (fun hmem => hx (List.mem_append_right _ hmem)) hsecond, List.append_nil]
      exact .inl hfirst.isInfix
  · rintro (h | h)
    · exact h.trans (List.prefix_append _ _).isInfix
    · exact h.trans ((List.suffix_cons _ _).trans (List.suffix_append _ _)).isInfix

theorem toList_slash : "/".toList = ['/'] := by decide

theorem infix_intercalate_iff {word : List Char} (hne : word ≠ []) (hslash : '/' ∉ word)
    (parts : List String) :
    word <:+: ("/".intercalate parts).toList ↔ ∃ part ∈ parts, word <:+: part.toList := by
  induction parts with
  | nil => simp [hne]
  | cons part parts ih =>
    rcases eq_or_ne parts [] with rfl | hparts
    · simp
    · rw [String.intercalate_cons_of_ne_nil hparts, String.toList_append, String.toList_append,
        toList_slash, List.append_assoc, List.singleton_append, infix_append_cons_iff hslash]
      simp only [List.mem_cons, exists_eq_or_imp, ih]

/-- The name is at the front of the text or behind a slash, and a slash follows it. -/
def PrecedesSlash (name text : List Char) : Prop :=
  ∃ before after, text = before ++ (name ++ '/' :: after) ∧
    (before = [] ∨ before.getLast? = some '/')

theorem PrecedesSlash.mem_splitOn {name text : List Char} (hname : '/' ∉ name)
    (h : PrecedesSlash name text) : name ∈ (text.splitOn '/').dropLast := by
  obtain ⟨before, after, rfl, hbefore⟩ := h
  obtain ⟨front, hfront⟩ : ∃ front, (before ++ (name ++ '/' :: after)).splitOn '/' =
      front ++ name :: after.splitOn '/' := by
    rcases hbefore with rfl | hlast
    · exact ⟨[], List.splitOn_append_cons_self_of_not_mem hname after⟩
    · obtain ⟨first, rfl⟩ := List.getLast?_eq_some_iff.mp hlast
      refine ⟨first.splitOn '/', ?_⟩
      rw [List.append_assoc, List.singleton_append, List.splitOn_append_cons_self,
        List.splitOn_append_cons_self_of_not_mem hname]
  -- something follows the slash, so the name is not the last one
  rw [hfront, List.dropLast_append_of_ne_nil (List.cons_ne_nil _ _),
    List.dropLast_cons_of_ne_nil (List.splitOn_ne_nil _ _)]
  exact List.mem_append_right _ List.mem_cons_self

theorem precedesSlash_of_mem {name : String} {dir : List String} (h : name ∈ dir) (file : String) :
    PrecedesSlash name.toList ("/".intercalate (dir ++ [file])).toList := by
  obtain ⟨front, back, rfl⟩ := List.append_of_mem h
  have hback : ("/".intercalate (name :: (back ++ [file]))).toList =
      name.toList ++ '/' :: ("/".intercalate (back ++ [file])).toList := by
    rw [String.intercalate_cons_of_ne_nil (by simp)]
    simp
  rw [List.append_assoc, List.cons_append]
  rcases eq_or_ne front [] with rfl | hfront
  · exact ⟨[], _, hback, .inl rfl⟩
  · refine ⟨("/".intercalate front).toList ++ ['/'], ("/".intercalate (back ++ [file])).toList, ?_,
      .inr List.getLast?_concat⟩
    rw [String.intercalate_append_of_ne_nil hfront (by simp), String.toList_append, hback]
    simp

/-- The names in front of a slash of a path are those of its directories. -/
theorem precedesSlash_iff {name file : String} {dir : List String} (hname : '/' ∉ name.toList)
    (hparts : ∀ part ∈ dir ++ [file], '/' ∉ part.toList) :
    PrecedesSlash name.toList ("/".intercalate (dir ++ [file])).toList ↔ name ∈ dir := by
  refine ⟨fun h => ?_, fun h => precedesSlash_of_mem h file⟩
  have hlists : ∀ l ∈ (dir ++ [file]).map String.toList, '/' ∉ l := List.forall_mem_map.mpr hparts
  have hmem := h.mem_splitOn hname
  rw [String.toList_intercalate, toList_slash, List.splitOn_intercalate _ hlists (by simp),
    List.map_append, List.map_singleton, List.dropLast_concat] at hmem
  obtain ⟨other, hother, heq⟩ := List.mem_map.mp hmem
  exact String.toList_injective heq ▸ hother

/-! ### The pattern for a directory -/

namespace Glob

open Pattern

/-- Any directories: nothing, a text up to a slash, or all that is left. -/
theorem leads_directories {text : Array Char} {i j : Nat} (hi : i ≤ text.size) :
    directories.Leads text i j ↔
      i = j ∨ (∃ k, i ≤ k ∧ text[k]? = some '/' ∧ j = k + 1) ∨ j = text.size := by
  have hslash : (concat anything (just '/')).Leads text i j ↔
      ∃ k, i ≤ k ∧ text[k]? = some '/' ∧ j = k + 1 := by
    simp only [leads_concat, leads_anything hi, leads_just]
    constructor
    · rintro ⟨k, ⟨hik, -⟩, hk⟩
      exact ⟨k, hik, hk⟩
    · rintro ⟨k, hik, hk, hj⟩
      obtain ⟨hlt, -⟩ := Array.getElem?_eq_some_iff.mp hk
      exact ⟨k, ⟨hik, hlt.le⟩, hk, hj⟩
  have hrest : (concat anything (look .textEnd)).Leads text i j ↔ j = text.size := by
    simp only [leads_concat, leads_anything hi]
    constructor
    · rintro ⟨k, ⟨-, hk⟩, hend⟩
      obtain ⟨hsize, rfl⟩ := (leads_textEnd hk).mp hend
      exact hsize
    · rintro rfl
      exact ⟨text.size, ⟨hi, le_rfl⟩, (leads_textEnd le_rfl).mpr ⟨rfl, rfl⟩⟩
  rw [directories, leads_alternate, leads_alternate, hslash, hrest, Leads]

/-- The text of the pattern for what is below directories of a name. -/
def below (name : String) : String := "**/" ++ name ++ "/**"

theorem toList_below (name : String) :
    (below name).toList = '*' :: '*' :: '/' :: (name.toList ++ ['/', '*', '*']) := by
  have hfront : "**/".toList = ['*', '*', '/'] := by decide
  have hback : "/**".toList = ['/', '*', '*'] := by decide
  rw [below, String.toList_append, String.toList_append, hfront, hback]
  simp

/-- The name is one of a directory, and no character of it has a meaning in patterns. -/
structure IsPlain (name : String) : Prop where
  ne_empty : name ≠ ""
  not_mem : ∀ c ∈ name.toList, c ∉ ['/', '*', '?', '[']

namespace IsPlain

variable {name : String}

theorem toList_ne_nil (h : IsPlain name) : name.toList ≠ [] :=
  fun hnil => h.ne_empty (String.toList_eq_nil_iff.mp hnil)

theorem slash_not_mem (h : IsPlain name) : '/' ∉ name.toList :=
  fun hmem => h.not_mem _ hmem (by decide)

theorem star_not_mem (h : IsPlain name) : '*' ∉ name.toList :=
  fun hmem => h.not_mem _ hmem (by decide)

end IsPlain

/-- Characters without a meaning stand for themselves. -/
theorem parts_word {word rest : List Char} {fuel position : Nat} {before : Option Char}
    {ps : List Pattern} (hword : ∀ c ∈ word, c ∉ ['*', '?', '['])
    (h : parts fuel (position + word.length) (word.getLast?.or before) rest = .ok ps) :
    parts (word.length + fuel) position before (word ++ rest) = .ok (word.map just ++ ps) := by
  induction word generalizing position before with
  | nil => simpa using h
  | cons c word ih =>
    have hrest : parts (word.length + fuel) (position + 1) (some c) (word ++ rest) =
        .ok (word.map just ++ ps) := by
      refine ih (fun d hd => hword d (List.mem_cons_of_mem c hd)) ?_
      rw [List.length_cons, ← Nat.add_assoc, Nat.add_right_comm, List.getLast?_cons] at h
      cases hlast : word.getLast? <;> simpa [hlast] using h
    have hc := hword c List.mem_cons_self
    simp only [List.mem_cons, List.not_mem_nil, or_false, not_or] at hc
    rw [List.length_cons, Nat.add_right_comm, List.cons_append, parts]
    · rw [hrest]
      rfl
    · exact hc.2.1
    · exact hc.1
    · exact hc.2.2

/-- The parts of the pattern for a directory. -/
def partsBelow (name : String) : List Pattern :=
  directories :: ((name.toList ++ ['/']).map just ++ [directories])

theorem ofText_below {name : String} (h : IsPlain name) :
    ofText (below name) = .ok ⟨below name, sequence (partsBelow name)⟩ := by
  have hfront : ∀ fuel rest, parts (fuel + 1) 0 none ('*' :: '*' :: '/' :: rest) =
      (do return directories :: (← parts fuel 3 (some '/') rest)) := fun _ _ => rfl
  have hback : ∀ position, parts 4 position (some '/') ['*', '*'] = .ok [directories] :=
    fun _ => rfl
  have hword : ∀ c ∈ name.toList ++ ['/'], c ∉ ['*', '?', '['] := by
    intro c hc
    rcases List.mem_append.mp hc with hc | hc
    · exact fun hmem => h.not_mem c hc (List.mem_cons_of_mem _ hmem)
    · rw [List.mem_singleton.mp hc]
      decide
  have hname : parts ((name.toList ++ ['/']).length + 4) 3 (some '/')
      (name.toList ++ ['/'] ++ ['*', '*']) =
        .ok ((name.toList ++ ['/']).map just ++ [directories]) :=
    parts_word hword (by rw [List.getLast?_concat]; exact hback _)
  have hlength : (below name).length = (name.toList ++ ['/']).length + 4 + 1 := by
    rw [← String.length_toList, toList_below]
    simp
  have hparts : parts (below name).length 0 none (below name).toList = .ok (partsBelow name) := by
    rw [List.append_assoc] at hname
    rw [hlength, toList_below, hfront]
    exact congrArg (fun tail => do return directories :: (← tail)) hname
  rw [ofText, hparts]
  rfl

theorem isWholeMatch_below {name : String} {text : List Char} :
    (sequence (partsBelow name)).isWholeMatch text = true ↔ PrecedesSlash name.toList text := by
  rw [isWholeMatch_iff, partsBelow, leads_sequence_cons]
  simp only [leads_sequence_word, leads_directories (Nat.zero_le _)]
  constructor
  · rintro ⟨k, hk, ⟨after, hafter⟩, -⟩
    refine ⟨text.take k, after, ?_, ?_⟩
    · have htext := (List.take_append_drop k text).symm.trans
        (congrArg (text.take k ++ ·) hafter.symm)
      simpa using htext
    · rcases hk with rfl | ⟨l, -, hl, rfl⟩ | rfl
      · exact .inl rfl
      · right
        simp [List.getLast?_take, List.getElem?_toArray ▸ hl]
      · simp at hafter
  · rintro ⟨before, after, rfl, hbefore⟩
    refine ⟨before.length, ?_, ?_, ?_⟩
    · rcases hbefore with rfl | hlast
      · exact .inl rfl
      · obtain ⟨front, rfl⟩ := List.getLast?_eq_some_iff.mp hlast
        exact .inr (.inl ⟨front.length, Nat.zero_le _, by simp, by simp⟩)
    · simp
    · refine leads_sequence_cons.mpr ⟨_, (leads_directories ?_).mpr (.inr (.inr rfl)), rfl⟩
      simp

/-! ### The core of the pattern -/

theorem without_append {c : Char} {word front : List Char} (h : c ∉ front) (rest : List Char) :
    without (c :: word) 0 (front ++ rest) = front ++ without (c :: word) 0 rest := by
  induction front with
  | nil => rfl
  | cons d front ih =>
    have hne : c ≠ d := List.ne_of_not_mem_cons h
    have hfront : c ∉ front := List.not_mem_of_not_mem_cons h
    have hprefix : (c :: word).isPrefixOf (d :: (front ++ rest)) = false := by
      simp [List.isPrefixOf, hne]
    rw [List.cons_append, without, hprefix, ih hfront]
    simp

theorem core?_below {name : String} (h : IsPlain name) (pattern : Pattern) :
    core? ⟨below name, pattern⟩ = some name.toList := by
  have hfront : without "**/".toList 0 (below name).toList = name.toList ++ ['/', '*', '*'] := by
    rw [toList_below]
    exact without_append h.star_not_mem ['/', '*', '*']
  have hback : without "/**".toList 0 (name.toList ++ ['/', '*', '*']) = name.toList := by
    refine (without_append h.slash_not_mem ['/', '*', '*']).trans ?_
    exact List.append_nil _
  simp only [core?, hfront, hback]
  simp [h.star_not_mem, h.toList_ne_nil]

theorem occurs_iff {word text : List Char} : occurs word text = true ↔ word <:+: text := by
  induction text with
  | nil => simp [occurs]
  | cons c text ih => simp [occurs, ih, List.infix_cons_iff]

end Glob

/-! ### Files that are left out -/

namespace Analysis

theorem globs_singleton {text : String} {glob : Glob} (h : Glob.ofText text = .ok glob) :
    globs [text] = .ok [glob] := by
  rw [globs, h]
  rfl

/-- What an analysis leaves out is given by the patterns of the request, if they are patterns. -/
theorem prepare_of_globs {w : Workspace} {request : Request} {exclude : List Glob}
    (h : globs (request.exclude ++ request.settings.scan.exclude) = .ok exclude) :
    (∀ e, prepare w request ≠ .error (.badPattern e)) ∧
      ∀ a, prepare w request = .ok a → a.exclude = exclude := by
  rw [prepare]
  split
  · exact ⟨fun e he => (nomatch he), fun a ha => (nomatch ha)⟩
  · split
    · exact ⟨fun e he => (nomatch he), fun a ha => (nomatch ha)⟩
    · rw [h]
      refine ⟨fun e he => (nomatch he), fun a ha => ?_⟩
      cases ha
      rfl

/-- **Leaving out a directory.** For the pattern `**/D/**` an analysis leaves out the files with
`D` in a name on their path, among them files whose own name has `D` in it. The pattern alone
matches the files below a directory with the name `D` and no others. -/
theorem exclude_directory {name : String} (hname : Glob.IsPlain name) (w : Workspace)
    (request : Request)
    (hexclude : request.exclude ++ request.settings.scan.exclude = ["**/" ++ name ++ "/**"]) :
    (∀ e, prepare w request ≠ .error (.badPattern e)) ∧
      ∀ a, prepare w request = .ok a →
        ∀ (dir : Place) (file : EntryName),
          let parts := (dir ++ [file]).map EntryName.lossy
          let path := Discovery.relativeName a.place (a.place ++ (dir ++ [file]))
          (∀ part ∈ parts, '/' ∉ part.toList) →
          (Discovery.isExcluded a.exclude path = true ↔
            ∃ part ∈ parts, name.toList <:+: part.toList) ∧
          ((∃ glob ∈ a.exclude, glob.pattern.isWholeMatch path.toList = true) ↔
            name ∈ dir.map EntryName.lossy) := by
  have hglobs : globs (request.exclude ++ request.settings.scan.exclude) =
      .ok [⟨Glob.below name, .sequence (Glob.partsBelow name)⟩] := by
    rw [hexclude]
    exact globs_singleton (Glob.ofText_below hname)
  obtain ⟨haccepted, hprepared⟩ := prepare_of_globs (w := w) hglobs
  refine ⟨haccepted, fun a ha dir file => ?_⟩
  dsimp only
  rw [Discovery.relativeName_append, hprepared a ha, List.map_append, List.map_singleton]
  intro hparts
  have hmatch := Glob.isWholeMatch_below.trans (precedesSlash_iff hname.slash_not_mem hparts)
  have hcore := infix_intercalate_iff hname.toList_ne_nil hname.slash_not_mem
    (dir.map EntryName.lossy ++ [file.lossy])
  constructor
  · simp only [Discovery.isExcluded, List.any_cons, List.any_nil, Bool.or_false, Glob.excludes,
      Glob.core?_below hname, Option.any_some, Bool.or_eq_true, Glob.occurs_iff, hmatch, hcore]
    -- a directory with the name is among the names that have it in them
    refine or_iff_right_of_imp fun hdir => ⟨name, List.mem_append_left _ hdir, ?_⟩
    exact List.infix_rfl
  · simpa using hmatch

/-- A module with one file, which is empty. -/
def terraformWorkspace : Workspace where
  tree := .directory [("prod.terraform.tf", .file ⟨#[]⟩)]
  current := []

theorem exists_terraformAnalysis : ∃ a, prepare terraformWorkspace {} = .ok a := by
  have hok : (prepare terraformWorkspace {}).isOk = true := by decide +kernel
  cases ha : prepare terraformWorkspace {} with
  | error e =>
    rw [ha] at hok
    cases hok
  | ok a => exact ⟨a, rfl⟩

/-- The default settings leave out a file below a directory of modules that were fetched, and
do not leave out a file beside it. -/
theorem exclude_directory_terraform :
    Glob.IsPlain ".terraform" ∧
      ({} : Request).exclude ++ ({} : Request).settings.scan.exclude =
        ["**/" ++ ".terraform" ++ "/**"] ∧
      ∃ a, prepare terraformWorkspace {} = .ok a ∧
        Discovery.isExcluded a.exclude (Discovery.relativeName a.place
          (a.place ++ (["vpc", ".terraform", "modules", "main.tf"] : Place))) = true ∧
        Discovery.isExcluded a.exclude (Discovery.relativeName a.place
          (a.place ++ (["vpc", "main.tf"] : Place))) = false := by
  have hname : Glob.IsPlain ".terraform" := ⟨by decide, by simp⟩
  have hexclude : ({} : Request).exclude ++ ({} : Request).settings.scan.exclude =
      ["**/" ++ ".terraform" ++ "/**"] := by decide +kernel
  obtain ⟨a, ha⟩ := exists_terraformAnalysis
  have hiff := (exclude_directory hname terraformWorkspace {} hexclude).2 a ha
  refine ⟨hname, hexclude, a, ha, ?_, ?_⟩
  · refine (hiff ["vpc", ".terraform", "modules"] "main.tf" (by decide +kernel)).1.mpr ?_
    exact ⟨".terraform", by decide, List.infix_rfl⟩
  · refine Bool.not_eq_true _ ▸ mt (hiff ["vpc"] "main.tf" (by decide +kernel)).1.mp ?_
    decide +kernel

/-- A file with a name like that of the directory is left out too, though there is no directory
on its path. -/
theorem exclude_terraform_file :
    ∃ a, prepare terraformWorkspace {} = .ok a ∧
      Discovery.isExcluded a.exclude (Discovery.relativeName a.place
        (a.place ++ (["prod.terraform.tf"] : Place))) = true ∧
      (a.run terraformWorkspace.tree).toOption.map (·.filesChecked) = some 0 := by
  have hrun : (prepare terraformWorkspace {}).toOption.map (fun a =>
      (Discovery.isExcluded a.exclude (Discovery.relativeName a.place
        (a.place ++ (["prod.terraform.tf"] : Place))),
        (a.run terraformWorkspace.tree).toOption.map (·.filesChecked))) =
      some (true, some 0) := by
    decide +kernel
  obtain ⟨a, ha⟩ := exists_terraformAnalysis
  rw [ha] at hrun
  obtain ⟨hexcluded, hfiles⟩ := Prod.mk.inj (Option.some.inj hrun)
  exact ⟨a, ha, hexcluded, hfiles⟩

end Analysis

end TerraLint
