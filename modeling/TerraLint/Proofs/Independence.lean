import TerraLint.Proofs.Placement

/-!
# Rules do not interfere

A rule set runs its rules one after the other and puts what they report into one
report. Settings say of each rule whether it is on, how severe its issues are and, for
some, what its options are. Nothing of this has an effect on another rule
(`TerraLint.RuleSet.check_independent`).

* What a rule set reports on a module that it covers is made of the reports of single
  runs (`TerraLint.RuleSet.check_of_covers`): each rule that is on is run by itself, with
  a limit of its own, and its severity is put to its issues and no others.
* Two settings that differ in what they say of one rule make the same rules, that one
  apart (`TerraLint.Builtin.rules_agree`). Since a rule puts its own name to its issues,
  taking out the issues under one name takes out what can differ.

A module that the rule set does not cover is passed over: nothing is reported on it,
whatever the rules would find (`TerraLint.RuleSet.check_child`).
-/

namespace TerraLint

/-! ### The report of a rule set -/

theorem Report.append_eq (a b : Report) :
    a ++ b = ⟨a.issues ++ b.issues, a.failures ++ b.failures, a.filesChecked + b.filesChecked,
      a.modulesChecked + b.modulesChecked⟩ := rfl

namespace RuleSet

variable {set : RuleSet} {settings : Settings} {p : Project}

/-- The rules are run on the module of a project. -/
def Covers (set : RuleSet) (p : Project) : Prop := set.coverage = .allModules ∨ p.isRoot = true

/-- The rules that settings leave on. -/
def enabledRules (set : RuleSet) (settings : Settings) : List Rule :=
  set.rules.filter fun rule => settings.isEnabled rule.name rule.enabled

/-- The issues of a rule that is run alone, under its limit and with its severity. -/
def ownIssues (settings : Settings) (p : Project) (rule : Rule) : List Issue :=
  (rule.run settings.scan.maxIssues p).1.map fun issue =>
    { issue with severity := (settings.severity? rule.name).getD issue.severity }

/-- The failure of a rule that is run alone, if it fails. -/
def ownFailure? (settings : Settings) (p : Project) (rule : Rule) : Option Failure :=
  (rule.run settings.scan.maxIssues p).2.map fun cause => ⟨rule.name, p.path, cause.message⟩

theorem checkRule_eq (rule : Rule) :
    checkRule settings p rule =
      { issues := ownIssues settings p rule
        failures := (ownFailure? settings p rule).toList } := by
  unfold checkRule ownIssues ownFailure?
  cases settings.severity? rule.name <;> simp [Option.toList_map]

theorem foldl_checkRule (rules : List Rule) (report : Report) :
    rules.foldl (fun report rule => report ++ checkRule settings p rule) report =
      { report with
        issues := report.issues ++ rules.flatMap (ownIssues settings p)
        failures := report.failures ++ rules.filterMap (ownFailure? settings p) } := by
  induction rules generalizing report with
  | nil => simp
  | cons rule rules ih =>
    rw [List.foldl_cons, ih, checkRule_eq, List.flatMap_cons, List.filterMap_cons, Report.append_eq]
    cases ownFailure? settings p rule <;> simp

theorem check_of_covers (h : set.Covers p) :
    set.check settings p =
      { issues := (set.enabledRules settings).flatMap (ownIssues settings p)
        failures := (set.enabledRules settings).filterMap (ownFailure? settings p)
        modulesChecked := 1 } := by
  have hcovers : ¬(set.coverage = .rootOnly ∧ !p.isRoot) := by
    rcases h with h | h <;> simp [h]
  rw [check, if_neg hcovers, foldl_checkRule]
  rfl

theorem check_of_not_covers (h : ¬set.Covers p) : set.check settings p = {} := by
  unfold Covers at h
  push Not at h
  have hroot : set.coverage = .rootOnly := by
    cases hcoverage : set.coverage with
    | rootOnly => rfl
    | allModules => exact absurd hcoverage h.1
  rw [check, if_pos ⟨hroot, by simpa using h.2⟩]

end RuleSet

/-! ### Settings that differ in one rule -/

/-- Two settings agree on everything but what they say of one rule. -/
structure Settings.AgreeOutside (x : String) (s t : Settings) : Prop where
  scan_eq : s.scan = t.scan
  rule?_eq : ∀ name, name ≠ x → s.rule? name = t.rule? name

namespace Settings.AgreeOutside

variable {x name : String} {s t : Settings} {rule : Rule} {p : Project}

theorem isEnabled_eq (h : AgreeOutside x s t) (hname : name ≠ x) (byDefault : Bool) :
    s.isEnabled name byDefault = t.isEnabled name byDefault := by
  rw [isEnabled, h.rule?_eq name hname, isEnabled]

theorem ownIssues_eq (h : AgreeOutside x s t) (hname : rule.name ≠ x) :
    RuleSet.ownIssues s p rule = RuleSet.ownIssues t p rule := by
  rw [RuleSet.ownIssues, severity?, h.scan_eq, h.rule?_eq rule.name hname, RuleSet.ownIssues, severity?]

theorem ownFailure?_eq (h : AgreeOutside x s t) :
    RuleSet.ownFailure? s p rule = RuleSet.ownFailure? t p rule := by
  rw [RuleSet.ownFailure?, h.scan_eq, RuleSet.ownFailure?]

end Settings.AgreeOutside

namespace Builtin

variable {x : String} {s t : Settings}

/-- Rules of the same name, which are the same rule unless the name is a given one. -/
structure Counterpart (x : String) (a b : Rule) : Prop where
  left : IsRule a
  right : IsRule b
  name_eq : a.name = b.name
  eq_of_ne : a.name ≠ x → a = b

theorem IsRule.counterpart {rule : Rule} (h : IsRule rule) : Counterpart x rule rule :=
  ⟨h, h, rfl, fun _ => rfl⟩

/-- **The same rules, one apart.** Each rule is made from what is said of it. -/
theorem rules_agree (h : Settings.AgreeOutside x s t) {left right : List Rule}
    (hs : rules s = .ok left) (ht : rules t = .ok right) :
    List.Forall₂ (Counterpart x) left right := by
  obtain ⟨pattern, hpattern, hs⟩ := bind_eq_ok hs
  obtain ⟨layout, hlayout, hs⟩ := bind_eq_ok hs
  obtain ⟨types, htypes, hs⟩ := bind_eq_ok hs
  obtain ⟨pattern', hpattern', ht⟩ := bind_eq_ok ht
  obtain ⟨layout', hlayout', ht⟩ := bind_eq_ok ht
  obtain ⟨types', htypes', ht⟩ := bind_eq_ok ht
  cases hs
  cases ht
  -- Three rules have options, and each reads them from what is said under its own name.
  have hpatterns : ResourceName.name ≠ x → pattern = pattern' := fun hne =>
    Except.ok.inj (hpattern.symm.trans (h.rule?_eq _ hne ▸ hpattern'))
  have hlayouts : ModuleStructure.name ≠ x → layout = layout' := fun hne =>
    Except.ok.inj (hlayout.symm.trans (h.rule?_eq _ hne ▸ hlayout'))
  have htypess : BackendType.name ≠ x → types = types' := fun hne =>
    Except.ok.inj (htypes.symm.trans (h.rule?_eq _ hne ▸ htypes'))
  refine .cons IsRule.comments.counterpart (.cons IsRule.fileContent.counterpart
    (.cons ?_ (.cons ?_ (.cons ?_ (.cons IsRule.metaArguments.counterpart
      (.cons IsRule.lowercaseName.counterpart .nil))))))
  · exact ⟨.resourceName _, .resourceName _, rfl, fun hne => congrArg _ (hpatterns hne)⟩
  · exact ⟨.moduleStructure _, .moduleStructure _, rfl, fun hne => congrArg _ (hlayouts hne)⟩
  · exact ⟨.backendType _, .backendType _, rfl, fun hne => congrArg _ (htypess hne)⟩

end Builtin

/-! ### Reports without one rule -/

/-- What a report says of all rules but one. -/
def Report.without (x : String) (report : Report) : List Issue × List Failure :=
  (report.issues.filter fun issue => issue.rule ≠ x,
    report.failures.filter fun failure => failure.rule ≠ x)

section Without

open Builtin

variable {x : String} {s t : Settings} {left right : List Rule} {β : Type}

/-- What rules that are on contribute to a report, without one rule. The induction is on the two
lists of rules at once: a rule under the name `x` adds nothing on either side, and any other
rule is the same on both sides and adds the same. -/
theorem filter_enabled_eq (h : Settings.AgreeOutside x s t)
    (hrules : List.Forall₂ (Counterpart x) left right) {own own' : Rule → List β} {key : β → String}
    (hown : ∀ rule, IsRule rule → ∀ b ∈ own rule, key b = rule.name)
    (hown' : ∀ rule, IsRule rule → ∀ b ∈ own' rule, key b = rule.name)
    (heq : ∀ rule : Rule, rule.name ≠ x → own rule = own' rule) :
    ((left.filter fun rule => s.isEnabled rule.name rule.enabled).flatMap own).filter
        (fun b => key b ≠ x) =
      ((right.filter fun rule => t.isEnabled rule.name rule.enabled).flatMap own').filter
        (fun b => key b ≠ x) := by
  have hnone : ∀ (own : Rule → List β) (rule : Rule), (∀ b ∈ own rule, key b = rule.name) →
      rule.name = x → (own rule).filter (fun b => key b ≠ x) = [] := by
    intro own rule hkey hname
    exact List.filter_eq_nil_iff.mpr fun b hb => by simp [hkey b hb, hname]
  induction hrules with
  | nil => rfl
  | @cons a b left right hab _ ih =>
    simp only [List.filter_cons]
    by_cases hx : a.name = x
    · have ha := hnone own a (hown a hab.left) hx
      have hb := hnone own' b (hown' b hab.right) (hab.name_eq ▸ hx)
      split <;> split <;> simp only [List.flatMap_cons, List.filter_append, ha, hb, ih, List.nil_append]
    · obtain rfl := hab.eq_of_ne hx
      rw [h.isEnabled_eq hx]
      split
      · rw [List.flatMap_cons, List.filter_append, ih, heq a hx, List.flatMap_cons, List.filter_append]
      · exact ih

end Without

namespace RuleSet

variable {p : Project} {settings : Settings}

/-- A rule puts its own name to its issues. -/
theorem rule_of_mem_ownIssues {rule : Rule} (hrule : Builtin.IsRule rule) {issue : Issue}
    (h : issue ∈ ownIssues settings p rule) : issue.rule = rule.name := by
  obtain ⟨search, hfinds⟩ := hrule.exists_finds
  obtain ⟨plain, hplain, rfl⟩ := List.mem_map.mp h
  obtain ⟨finding, -, rfl⟩ := hfinds.exists_finding hplain
  rfl

theorem rule_of_mem_ownFailure? {rule : Rule} {failure : Failure}
    (h : failure ∈ (ownFailure? settings p rule).toList) : failure.rule = rule.name := by
  obtain ⟨cause, -, rfl⟩ := Option.map_eq_some_iff.mp (Option.mem_toList.mp h)
  rfl

/-- What the rule set of the linter says of all rules but one, when it covers the module. -/
theorem check_without_of_covers {x : String} {s t : Settings} (h : Settings.AgreeOutside x s t)
    {a b : RuleSet} (hrules : List.Forall₂ (Builtin.Counterpart x) a.rules b.rules)
    (ha : a.Covers p) (hb : b.Covers p) : (a.check s p).without x = (b.check t p).without x := by
  rw [check_of_covers ha, check_of_covers hb]
  simp only [Report.without, List.filterMap_eq_flatMap_toList]
  refine Prod.ext ?_ ?_
  · exact filter_enabled_eq h hrules (fun _ hrule _ => rule_of_mem_ownIssues hrule)
      (fun _ hrule _ => rule_of_mem_ownIssues hrule) fun _ hne => h.ownIssues_eq hne
  · exact filter_enabled_eq h hrules (fun _ _ _ => rule_of_mem_ownFailure?)
      (fun _ _ _ => rule_of_mem_ownFailure?) fun _ _ => by rw [h.ownFailure?_eq]

end RuleSet

/-- The rule set of the linter has the rules that settings make, and covers what they say. -/
theorem Builtin.ruleSet_eq_ok {settings : Settings} {set : RuleSet}
    (h : Builtin.ruleSet settings = .ok set) :
    Builtin.rules settings = .ok set.rules ∧ set.chosen = some settings.coverage := by
  obtain ⟨rules, hrules, hset⟩ := bind_eq_ok h
  cases hset
  exact ⟨hrules, rfl⟩

/-- **Rules do not interfere.** Settings that differ in one rule give reports that differ in
this rule's issues and failures only. And on a module that it covers, a rule set reports, rule
by rule in its order, the issues that each rule that is on has when it is run alone, and one
failure for each of them that fails; on any other module it reports nothing. -/
theorem RuleSet.check_independent (project : Project) :
    (∀ x s t, Settings.AgreeOutside x s t → ∀ a b, Builtin.ruleSet s = .ok a →
      Builtin.ruleSet t = .ok b → (a.check s project).without x = (b.check t project).without x) ∧
    ∀ (set : RuleSet) (settings : Settings),
      (set.Covers project →
        (set.check settings project).issues =
            (set.enabledRules settings).flatMap (ownIssues settings project) ∧
          (set.check settings project).failures =
            (set.enabledRules settings).filterMap (ownFailure? settings project)) ∧
      (¬set.Covers project →
        (set.check settings project).issues = [] ∧ (set.check settings project).failures = []) := by
  refine ⟨fun x s t h a b ha hb => ?_, fun set settings => ⟨fun hcovers => ?_, fun hcovers => ?_⟩⟩
  · obtain ⟨hrules, hchosen⟩ := Builtin.ruleSet_eq_ok ha
    obtain ⟨hrules', hchosen'⟩ := Builtin.ruleSet_eq_ok hb
    -- Which modules are covered is not said rule by rule, so both sets cover the same.
    have hcoverage : a.coverage = b.coverage := by
      rw [coverage, hchosen, coverage, hchosen', Settings.coverage, h.scan_eq, Settings.coverage]
    have hcovers : a.Covers project ↔ b.Covers project := by rw [Covers, hcoverage, Covers]
    by_cases hcover : a.Covers project
    · exact check_without_of_covers h (Builtin.rules_agree h hrules hrules') hcover
        (hcovers.mp hcover)
    · rw [check_of_not_covers hcover, check_of_not_covers (mt hcovers.mpr hcover)]
  · rw [check_of_covers hcovers]
    exact ⟨rfl, rfl⟩
  · rw [check_of_not_covers hcovers]
    exact ⟨rfl, rfl⟩

theorem Builtin.exists_ruleSet {settings : Settings} (h : (Builtin.ruleSet settings).isOk = true) :
    ∃ set, Builtin.ruleSet settings = .ok set := by
  cases hset : Builtin.ruleSet settings with
  | ok set => exact ⟨set, rfl⟩
  | error e =>
    rw [hset] at h
    cases h

set_option maxRecDepth 20000 in
/-- A comment and a last line that is not ended. Settings that turn off the rule on comments take
the first issue out of the report and leave the second. -/
theorem RuleSet.check_independent_comments :
    let s : Settings := {}
    let t : Settings := { rules := [(Comments.info.name, { enabled := some false })] }
    let project := Project.ofFiles [] [("main.tf", "# x")]
    Settings.AgreeOutside Comments.info.name s t ∧
      ∃ a b, Builtin.ruleSet s = .ok a ∧ Builtin.ruleSet t = .ok b ∧
        (a.check s project).issues.length = 2 ∧ (b.check t project).issues.length = 1 ∧
        (a.check s project).without Comments.info.name =
          (b.check t project).without Comments.info.name := by
  intro s t project
  have hagree : Settings.AgreeOutside Comments.info.name s t := by
    refine ⟨rfl, fun name hname => ?_⟩
    simp [s, t, Settings.rule?, List.lookup, beq_false_of_ne hname]
  obtain ⟨a, ha⟩ : ∃ a, Builtin.ruleSet s = .ok a := Builtin.exists_ruleSet (by cbv)
  obtain ⟨b, hb⟩ : ∃ b, Builtin.ruleSet t = .ok b := Builtin.exists_ruleSet (by cbv)
  have hboth : (Builtin.ruleSet s).map (fun a => (a.check s project).issues.length) = .ok 2 := by
    cbv
  have hone : (Builtin.ruleSet t).map (fun b => (b.check t project).issues.length) = .ok 1 := by
    cbv
  rw [ha] at hboth
  rw [hb] at hone
  exact ⟨hagree, a, b, ha, hb, Except.ok.inj hboth, Except.ok.inj hone,
    (RuleSet.check_independent project).1 _ s t hagree a b ha hb⟩

set_option maxRecDepth 20000 in
/-- By default the rule set of the linter does not look at a child module: a comment that one of
its rules has to report there is not in the report. -/
theorem RuleSet.check_child :
    ∃ set, Builtin.ruleSet {} = .ok set ∧
      (set.check {} (.ofFiles ["vpc"] [("main.tf", "# x\n")])).issues ≠
        (set.enabledRules {}).flatMap (ownIssues {} (.ofFiles ["vpc"] [("main.tf", "# x\n")])) := by
  obtain ⟨set, hset⟩ : ∃ set, Builtin.ruleSet {} = .ok set := Builtin.exists_ruleSet (by cbv)
  obtain ⟨hrules, hchosen⟩ := Builtin.ruleSet_eq_ok hset
  refine ⟨set, hset, ?_⟩
  have hcovers : ¬set.Covers (.ofFiles ["vpc"] [("main.tf", "# x\n")]) := by
    rw [Covers, coverage, hchosen]
    decide
  have hcomments : Comments.rule ∈ set.enabledRules {} := by
    obtain ⟨pattern, -, hrules⟩ := bind_eq_ok hrules
    obtain ⟨layout, -, hrules⟩ := bind_eq_ok hrules
    obtain ⟨types, -, hrules⟩ := bind_eq_ok hrules
    refine List.mem_filter.mpr ⟨?_, rfl⟩
    rw [← Except.ok.inj hrules]
    exact List.mem_cons_self
  have hissues : (ownIssues {} (.ofFiles ["vpc"] [("main.tf", "# x\n")]) Comments.rule).length = 1 := by
    cbv
  rw [check_of_not_covers hcovers]
  intro hempty
  rw [List.flatMap_eq_nil_iff.mp hempty.symm _ hcomments] at hissues
  cases hissues

end TerraLint
