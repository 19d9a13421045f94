import TerraLint.Proofs.Selection
import TerraLint.Proofs.Toml.Plain
import TerraLint.Proofs.Walk

/-!
# The settings file to begin with says what holds by default

Settings that say different things may still act alike (`TerraLint.Settings.ActAlike`): what
one of them says of a rule may be what the other leaves to the default. Nothing that a run
does tells such settings apart: the same rule set is made from them
(`TerraLint.Settings.ActAlike.ruleSet_eq`), it reports the same on every module
(`TerraLint.Settings.ActAlike.check_eq`), the same rules are selected from it by the same
words (`TerraLint.Settings.ActAlike.selection`), and a check comes to the same end
(`TerraLint.Selection.ActAlike.checkSelected_eq`).

The settings file to begin with is read (`TerraLint.Settings.ofText?_template`), and what it
says acts like nothing being said at all (`TerraLint.Settings.initial_actAlike`).
-/

namespace TerraLint

/-! ### Settings that act alike -/

/-- Settings that look at directories in the same way, make the same rules, and let the same of
them run with the same severities. -/
structure Settings.ActAlike (s t : Settings) : Prop where
  scan_eq : s.scan = t.scan
  rules_eq : Builtin.rules s = Builtin.rules t
  isEnabled_eq : ∀ rule, Builtin.IsRule rule →
    s.isEnabled rule.name rule.enabled = t.isEnabled rule.name rule.enabled
  severity?_eq : ∀ name, s.severity? name = t.severity? name

/-- Selections of the same rules, with settings that act alike. -/
structure Selection.ActAlike (a b : Selection) : Prop where
  rules_eq : a.rules = b.rules
  settings : a.settings.ActAlike b.settings
  notes_eq : a.notes = b.notes

theorem Selection.isRule_of_mem_ofText? {rules : List Rule}
    (hrules : ∀ rule ∈ rules, Builtin.IsRule rule) {s : Settings} {text : Option String} :
    ∀ rule ∈ (ofText? rules s text).rules, Builtin.IsRule rule := by
  intro rule hrule
  cases text with
  | none => exact hrules rule hrule
  | some text => exact hrules rule (List.mem_filter.mp hrule).1

namespace Settings.ActAlike

variable {s t : Settings}

theorem refl (s : Settings) : ActAlike s s :=
  ⟨rfl, rfl, fun _ _ => rfl, fun _ => rfl⟩

theorem symm (h : ActAlike s t) : ActAlike t s :=
  ⟨h.scan_eq.symm, h.rules_eq.symm, fun rule hrule => (h.isEnabled_eq rule hrule).symm,
    fun name => (h.severity?_eq name).symm⟩

theorem coverage_eq (h : ActAlike s t) : s.coverage = t.coverage := by
  rw [coverage, h.scan_eq, coverage]

/-- The same rule set is made from settings that act alike. -/
theorem ruleSet_eq (h : ActAlike s t) : Builtin.ruleSet s = Builtin.ruleSet t := by
  rw [Builtin.ruleSet, h.rules_eq, h.coverage_eq, Builtin.ruleSet]

/-- **A rule set reports the same under settings that act alike.** -/
theorem check_eq (h : ActAlike s t) {set : RuleSet}
    (hrules : ∀ rule ∈ set.rules, Builtin.IsRule rule) (p : Project) :
    set.check s p = set.check t p := by
  by_cases hcovers : set.Covers p
  · have hon : set.enabledRules s = set.enabledRules t :=
      List.filter_congr fun rule hrule => h.isEnabled_eq rule (hrules rule hrule)
    have hissues : RuleSet.ownIssues s p = RuleSet.ownIssues t p := by
      funext rule
      rw [RuleSet.ownIssues, h.scan_eq, h.severity?_eq, RuleSet.ownIssues]
    have hfailure : RuleSet.ownFailure? s p = RuleSet.ownFailure? t p := by
      funext rule
      rw [RuleSet.ownFailure?, h.scan_eq, RuleSet.ownFailure?]
    rw [RuleSet.check_of_covers hcovers, hon, hissues, hfailure, RuleSet.check_of_covers hcovers]
  · rw [RuleSet.check_of_not_covers hcovers, RuleSet.check_of_not_covers hcovers]

/-- Turning a rule on in both keeps settings alike. -/
theorem enable (h : ActAlike s t) (name : String) : ActAlike (s.enable name) (t.enable name) := by
  have hs := s.turnsOn_enable name
  have ht := t.turnsOn_enable name
  refine ⟨?_, ?_, fun rule hrule => ?_, fun other => ?_⟩
  · exact hs.scan_eq.symm.trans (h.scan_eq.trans ht.scan_eq)
  · rw [← Builtin.rules_congr hs.agreeButSwitches, h.rules_eq,
      Builtin.rules_congr ht.agreeButSwitches]
  · by_cases hname : rule.name = name
    · subst hname
      rw [hs.isEnabled, ht.isEnabled]
    · rw [← hs.isEnabled_eq hname, h.isEnabled_eq rule hrule, ht.isEnabled_eq hname]
  · rw [← hs.agreeButSwitches.severity?_eq, h.severity?_eq, ht.agreeButSwitches.severity?_eq]

/-- Rules that are off in one are off in the other, so that the same rules are turned on, with the
same notes. -/
theorem enableAll (h : ActAlike s t) {rules : List Rule}
    (hrules : ∀ rule ∈ rules, Builtin.IsRule rule) :
    ActAlike (Selection.enableAll s rules).1 (Selection.enableAll t rules).1 ∧
      (Selection.enableAll s rules).2 = (Selection.enableAll t rules).2 := by
  induction rules generalizing s t with
  | nil => exact ⟨h, rfl⟩
  | cons rule rules ih =>
    obtain ⟨hrule, hrules⟩ := List.forall_mem_cons.mp hrules
    rw [Selection.enableAll, Selection.enableAll, h.isEnabled_eq rule hrule]
    split
    · exact ih h hrules
    · obtain ⟨halike, hnotes⟩ := ih (h.enable rule.name) hrules
      exact ⟨halike, congrArg (List.cons _) hnotes⟩

/-- **The same words select the same rules.** -/
theorem selection (h : ActAlike s t) {rules : List Rule}
    (hrules : ∀ rule ∈ rules, Builtin.IsRule rule) (text : Option String) :
    (Selection.ofText? rules s text).ActAlike (Selection.ofText? rules t text) := by
  cases text with
  | none => exact ⟨rfl, h, rfl⟩
  | some text =>
    have hselected : ∀ rule ∈ (Selection.ofText rules t text).rules, Builtin.IsRule rule :=
      fun rule hrule => hrules rule (List.mem_filter.mp hrule).1
    obtain ⟨halike, hnotes⟩ := h.enableAll hselected
    exact ⟨rfl, halike, congrArg (List.append _) hnotes⟩

/-- A request under settings that act alike is answered with the same analysis, the settings
apart. -/
theorem prepare_eq (w : Workspace) {r : Request} (h : ActAlike r.settings t) :
    Analysis.prepare w { r with settings := t } =
      (Analysis.prepare w r).map fun a => { a with settings := t } := by
  have hprepare := Analysis.prepare_congr w (q := r) (r := { r with settings := t })
    rfl rfl rfl h.scan_eq
  rw [hprepare]
  cases hanalysis : Analysis.prepare w r with
  | error e => rfl
  | ok a =>
    obtain ⟨hset, -⟩ := Analysis.prepare_eq_ok hanalysis
    simp only [Except.map, hset, h.coverage_eq]

/-- An analysis under settings that act alike comes to the same report. -/
theorem run_eq {a : Analysis} (h : ActAlike a.settings t)
    (hrules : ∀ rule ∈ a.ruleSet.rules, Builtin.IsRule rule) (tree : FileTree) :
    { a with settings := t }.run tree = a.run tree := by
  have hlooks : Analysis.LooksAlike { a with settings := t } a :=
    ⟨rfl, rfl, rfl, rfl, rfl, h.scan_eq.symm, rfl⟩
  have hreport : Analysis.reportOn { a with settings := t } = a.reportOn := by
    funext p
    rw [Analysis.reportOn, Analysis.reportOn, h.check_eq hrules]
  have hall : Analysis.reportOnAll { a with settings := t } = a.reportOnAll := by
    funext ps
    rw [Analysis.reportOnAll, hreport, Analysis.reportOnAll]
  rw [Analysis.run_eq, hlooks.projects_eq, hall, Analysis.run_eq]

end Settings.ActAlike

/-- **Checks with selections that are alike come to the same end.** -/
theorem Selection.ActAlike.checkSelected_eq {a b : Selection} (h : a.ActAlike b)
    (hrules : ∀ rule ∈ a.rules, Builtin.IsRule rule) (w : Workspace) (options : CheckOptions) :
    Command.checkSelected w options a = Command.checkSelected w options b := by
  have hrequest : Command.request options b =
      { Command.request options a with settings := b.settings } := by
    rw [Command.request, ← h.rules_eq, Command.request]
  have hreport : Command.report w (Command.request options a) =
      Command.report w (Command.request options b) := by
    have halike : (Command.request options a).settings.ActAlike b.settings := h.settings
    rw [Command.report, Command.report, hrequest, halike.prepare_eq]
    cases hanalysis : Analysis.prepare w (Command.request options a) with
    | error e => rfl
    | ok analysis =>
      obtain ⟨hset, hsettings⟩ := Analysis.prepare_eq_ok hanalysis
      have hrun := Settings.ActAlike.run_eq (a := analysis) (by rw [hsettings]; exact h.settings)
        (by rw [hset]; exact hrules) w.tree
      exact congrArg (Except.mapError _) hrun.symm
  unfold Command.checkSelected
  rw [hreport, h.notes_eq]

/-! ### The settings file to begin with -/

namespace Settings

open TerraLint.Toml

/-- The settings that the file to begin with describes: every rule is as it is by itself, and its
options are the default ones. -/
def initial : Settings where
  rules := [
    (Comments.info.name, { enabled := some true }),
    (FileContent.info.name, { enabled := some true }),
    (ResourceName.name,
      { enabled := some true
        options := [("pattern", .string "^[a-z0-9_]*$")] }),
    (ModuleStructure.name,
      { enabled := some true
        options := [("files",
          .table [("variable", .string "variables.tf"), ("output", .string "outputs.tf")])] }),
    (BackendType.name,
      { enabled := some true
        options := [("allowed_types", .array [.string "azurerm", .string "s3"])] }),
    (MetaArguments.info.name, { enabled := some true }),
    (LowercaseName.info.name, { enabled := some false })]

set_option maxRecDepth 20000 in
theorem isSound_of_mem_templateLines : ∀ l ∈ templateLines, l.IsSound := by
  refine of_decide_eq_true ?_
  cbv

set_option maxRecDepth 20000 in
/-- What the lines of the file say, put together. -/
theorem apply_templateLines :
    ((templateLines.foldlM PlainLine.apply {}).bind fun p => p.node.toToml.asTable?.bind fun
      entries => entries.foldlM (fun s (key, value) => s.set key value) ({} : Settings)) =
      some initial := by
  cbv

/-- **The settings file to begin with is read.** -/
theorem ofText?_template : ofText? template = some initial := by
  obtain ⟨p, hp, happly⟩ := Option.bind_eq_some_iff.mp apply_templateLines
  have hread : Toml.read? template = some p.node.toToml :=
    read?_writeLines isSound_of_mem_templateLines hp
  rw [ofText?, hread]
  exact happly

theorem severity?_initial (name : String) : initial.severity? name = none := by
  have hnone : ∀ e ∈ initial.rules, e.2.severity = none := by
    simp [initial]
  rw [severity?, Option.bind_eq_none_iff]
  intro own hown
  exact hnone (name, own) (mem_of_lookup hown)

/-- **The settings file to begin with changes nothing**: what it says is what holds by default. -/
theorem initial_actAlike : initial.ActAlike {} := by
  refine ⟨rfl, ?_, fun rule hrule => ?_, severity?_initial⟩
  · -- three rules have options, and the file gives them their default values
    have hpattern : ResourceName.NamePattern.ofSettings (initial.rule? ResourceName.name) =
        ResourceName.NamePattern.ofSettings none := rfl
    have hlayout : ModuleStructure.Layout.ofSettings (initial.rule? ModuleStructure.name) =
        ModuleStructure.Layout.ofSettings none := rfl
    have htypes : BackendType.typesOfSettings (initial.rule? BackendType.name) =
        BackendType.typesOfSettings none := rfl
    rw [Builtin.rules, hpattern, hlayout, htypes]
    rfl
  · cases hrule <;> rfl

end Settings

end TerraLint
