import TerraLint.Proofs.Defaults
import TerraLint.Proofs.ExtraFile

/-!
# Writing the settings file changes no report

The command `init` writes the settings file to begin with. A check that has found no settings
file before may find this one afterwards, and comes to the same end
(`TerraLint.Command.runCheck_after_runInit`). Two things come together here:

* the settings that are read from the file act like the default ones
  (`TerraLint.Settings.initial_actAlike`), whichever rules are selected;
* the file itself is none that an analysis reads (`TerraLint.Discovery.isUnread_settings`), so
  that there are the same modules with the same files as before.

A check that looks elsewhere than in the working directory may not find the file at all, and
`init` may write none; the default settings are used in these cases.
-/

namespace TerraLint

open FileTree

theorem Discovery.isUnread_settings : IsUnread "tfstyle.toml" :=
  ⟨by cbv, by decide⟩

/-- A text is read from the file that it has been written to. -/
theorem FileTree.text?_toUTF8 (text : String) : (file text.toUTF8).text? = some text :=
  dif_pos text.isValidUTF8

namespace Command

/-- What `init` does: it fails and leaves everything as it is, or it writes the file where there
has been nothing or a file. -/
theorem runInit_cases (w : Workspace) (force : Bool) :
    ((runInit w force).error ≠ none ∧ (runInit w force).tree = w.tree) ∨
      (w.tree.get? (w.current ++ [.text "tfstyle.toml"])).any FileTree.isDirectory = false ∧
        (runInit w force).tree =
          put (.file Settings.template.toUTF8) (w.current ++ [.text "tfstyle.toml"]) w.tree := by
  unfold runInit
  dsimp only
  cases hplace : w.tree.get? (w.current ++ [.text "tfstyle.toml"]) with
  | none => exact .inr ⟨rfl, rfl⟩
  | some old =>
    cases force with
    | false => exact .inl ⟨by simp [failed], rfl⟩
    | true =>
      cases old with
      | directory _ | unlistable _ | unreadable => exact .inl ⟨Option.some_ne_none _, rfl⟩
      | file _ => exact .inr ⟨rfl, rfl⟩

theorem gains_runInit {w : Workspace} (h : (w.tree.get? w.current).any isDirectory = true)
    (force : Bool) :
    Gains "tfstyle.toml" Settings.template.toUTF8 w.tree (runInit w force).tree := by
  rcases runInit_cases w force with ⟨-, htree⟩ | ⟨hfree, htree⟩
  · rw [htree]
    exact .refl w.tree
  · rw [htree]
    exact gains_put _ h hfree

end Command

namespace Settings

/-- The settings that a check finds where it has found none: those of the new file, or none. -/
theorem exists_find_of_gains {name : EntryName} {w : Workspace} {grown : FileTree}
    (h : Gains name template.toUTF8 w.tree grown) {e : Environment} {path : String}
    (hnone : (e.candidates w path).find? (fun file => w.isFile file.path) = none) :
    ∃ s, find e { w with tree := grown } path none = .ok s ∧ s.ActAlike {} := by
  have hcandidates : e.candidates { w with tree := grown } path = e.candidates w path := rfl
  cases hfound : (e.candidates w path).find? fun file =>
      { w with tree := grown }.isFile file.path with
  | none =>
    refine ⟨{}, ?_, .refl {}⟩
    rw [find, hcandidates, hfound]
    rfl
  | some candidate =>
    have hbefore : w.isFile candidate.path = false := by
      simpa using List.find?_eq_none.mp hnone candidate (List.mem_of_find?_eq_some hfound)
    have hafter := List.find?_some hfound
    have hnew := Workspace.get?_of_isFile h hafter hbefore
    refine ⟨initial, ?_, initial_actAlike⟩
    rw [find, hcandidates, hfound, Option.map_none, Option.none_or]
    dsimp only
    rw [load, hnew, Option.bind_some, text?_toUTF8, Option.bind_some, ofText?_template]

end Settings

namespace Command

/-- A check with rules that have been selected does not see a file that is not read. -/
theorem checkSelected_of_gains {name : EntryName} (hname : Discovery.IsUnread name)
    {content : ByteArray} {w : Workspace} {grown : FileTree} (h : Gains name content w.tree grown)
    (options : CheckOptions) (selection : Selection) :
    checkSelected { w with tree := grown } options selection =
      { checkSelected w options selection with tree := grown } := by
  have hreport : report { w with tree := grown } (request options selection) =
      report w (request options selection) := by
    unfold report
    simp only [Analysis.prepare_of_gains h, Analysis.run_of_gains hname h]
  unfold checkSelected
  rw [hreport]
  cases report w (request options selection) <;> rfl

/-- A check that finds no settings file comes to the same end when there is the file to begin with,
under a name that is not read. -/
theorem runCheck_of_gains {name : EntryName} (hname : Discovery.IsUnread name) {w : Workspace}
    {grown : FileTree} (h : Gains name Settings.template.toUTF8 w.tree grown) {e : Environment}
    {options : CheckOptions}
    (hnone : (e.candidates w options.path).find? (fun file => w.isFile file.path) = none) :
    runCheck e { w with tree := grown } none options =
      { runCheck e w none options with tree := grown } := by
  have hfind : Settings.find e w options.path none = .ok {} := by
    rw [Settings.find, Option.map_none, Option.none_or, hnone]
  obtain ⟨s, hs, halike⟩ := Settings.exists_find_of_gains h hnone
  unfold runCheck
  rw [hs, hfind]
  dsimp only
  rw [halike.rules_eq]
  cases hrules : Builtin.rules {} with
  | error cause => rfl
  | ok rules =>
    have hbuiltin := Builtin.isRule_of_mem_rules hrules
    have hselection := halike.selection hbuiltin options.rules
    dsimp only
    rw [hselection.checkSelected_eq (Selection.isRule_of_mem_ofText? hbuiltin),
      checkSelected_of_gains hname h]

/-- **The settings file to begin with changes nothing.** The settings that are read from what
`init` writes make the rule set that the default ones make, it reports the same on every module
under both, and an analysis that is asked for is prepared in the same way. So a check that finds no
settings file comes to the same end before and after `init`. -/
theorem runCheck_after_runInit :
    ∃ (c : Settings) (set : RuleSet),
      (∀ w force, (runInit w force).error = none →
        (((runInit w force).tree.get? (w.current ++ [.text "tfstyle.toml"])).bind
          FileTree.text?).bind Settings.ofText? = some c) ∧
      Builtin.ruleSet c = .ok set ∧ Builtin.ruleSet {} = .ok set ∧
      (∀ project, set.check c project = set.check {} project) ∧
      c.scan = ({} : Settings).scan ∧ c.coverage = ({} : Settings).coverage ∧
      (∀ (w : Workspace) (r : Request), Analysis.prepare w { r with settings := c } =
        (Analysis.prepare w { r with settings := {} }).map fun a => { a with settings := c }) ∧
      ∀ (e : Environment) (w : Workspace) force (options : CheckOptions),
        (w.tree.get? w.current).any FileTree.isDirectory = true →
        (e.candidates w options.path).find? (fun file => w.isFile file.path) = none →
        runCheck e { w with tree := (runInit w force).tree } none options =
          { runCheck e w none options with tree := (runInit w force).tree } := by
  obtain ⟨set, hset⟩ : ∃ set, Builtin.ruleSet {} = .ok set := Builtin.exists_ruleSet (by cbv)
  have hrules := Builtin.isRule_of_mem_rules (Builtin.ruleSet_eq_ok hset).1
  have halike := Settings.initial_actAlike
  refine ⟨.initial, set, fun w force hdone => ?_, halike.ruleSet_eq.trans hset, hset,
    halike.check_eq hrules, halike.scan_eq, halike.coverage_eq, fun w r => ?_,
    fun e w force options hcurrent hnone => ?_⟩
  · rcases runInit_cases w force with ⟨herror, -⟩ | ⟨-, htree⟩
    · exact absurd hdone herror
    · rw [htree, get?_put, Option.bind_some, text?_toUTF8, Option.bind_some,
        Settings.ofText?_template]
  · have hsettings : ({ r with settings := {} } : Request).settings.ActAlike .initial :=
      halike.symm
    exact hsettings.prepare_eq w
  · exact runCheck_of_gains Discovery.isUnread_settings (gains_runInit hcurrent force) hnone

/-- In a module with one comment no settings file is found, and the one that is written is read and
found afterwards. A check for the comment and with a rule that is off by default comes to the same
end both times: the rule is turned on, and the comment is reported. -/
theorem runCheck_after_runInit_comment :
    let w := commentWorkspace
    let w' := { w with tree := (runInit w false).tree }
    let options : CheckOptions := { rules := some "TFS001,tfstyle_resource_name_lowercased" }
    (runInit w false).error = none ∧
      (∃ c, ((w'.tree.get? ["tfstyle.toml"]).bind FileTree.text?).bind Settings.ofText? = some c ∧
        c.scan.exclude = ["**/.terraform/**"]) ∧
      (w.tree.get? w.current).any FileTree.isDirectory = true ∧
      (({} : Environment).candidates w options.path).find? (fun file => w.isFile file.path) =
        none ∧
      (({} : Environment).candidates w' options.path).find? (fun file => w'.isFile file.path) =
        some { path := "./tfstyle.toml" } ∧
      (runCheck {} w none options).exitCode = 1 ∧
      (runCheck {} w none options).notes =
        ["Enabling tfstyle_resource_name_lowercased for this run (selected with --rules)"] ∧
      runCheck {} w' none options = { runCheck {} w none options with tree := w'.tree } := by
  intro w w' options
  have hdone : (runInit w false).error = none := rfl
  have hcurrent : (w.tree.get? w.current).any FileTree.isDirectory = true := by decide +kernel
  have hnone : (({} : Environment).candidates w options.path).find?
      (fun file => w.isFile file.path) = none := by
    decide +kernel
  have hfound : (({} : Environment).candidates w' options.path).find?
      (fun file => w'.isFile file.path) = some { path := "./tfstyle.toml" } := by
    decide +kernel
  have hcode : (runCheck {} w none options).exitCode = 1 := by decide +kernel
  have hnotes : (runCheck {} w none options).notes =
      ["Enabling tfstyle_resource_name_lowercased for this run (selected with --rules)"] := by
    decide +kernel
  obtain ⟨c, set, hread, -, -, -, hscan, -, -, hcheck⟩ := runCheck_after_runInit
  exact ⟨hdone, ⟨c, hread w false hdone, by rw [hscan]⟩, hcurrent, hnone, hfound, hcode, hnotes,
    hcheck {} w false options hcurrent hnone⟩

end Command

end TerraLint
