import TerraLint.CommandLine.Run
import TerraLint.Proofs.Modules

/-!
# Selecting rules is filtering

A check can be asked to run some rules only, by their names or codes in a text with commas.
Three things have to come together for this. The rules that are named are taken out of all
rules, those of them that are off are turned on in the settings, and an analysis is run with
what is left. This file shows that together they are a filter
(`TerraLint.Command.check_selects`): the rules that are named are run, and each of them
reports what it reports when all rules are run and it is on.

* What a text names is said without the function that reads it
  (`TerraLint.Selection.Lists`): pieces with commas between them, and words that are the
  pieces without blanks at their ends. Every text lists one list of words
  (`TerraLint.Selection.lists_iff`).
* Turning rules on changes neither options nor severities nor how directories are looked at
  (`TerraLint.Settings.AgreeButSwitches`), so that the same rules are made from the settings
  (`TerraLint.Builtin.rules_congr`) and the same files are read.
* What an analysis says of one rule depends on this rule alone
  (`TerraLint.Analysis.AgreesOn.only_run_eq`).

Which modules are covered is chosen in the rule set of the linter, and left to the settings
in the rule set of a check. Both lead to the same choice.
-/

namespace TerraLint

/-! ### The words of a text -/

namespace Text

/-- The word is the text without blanks at its ends. -/
structure Trims (text word : List Char) : Prop where
  exists_blanks : ∃ before after, text = before ++ word ++ after ∧
    (∀ c ∈ before, isBlank c = true) ∧ ∀ c ∈ after, isBlank c = true
  first : ∀ c ∈ word.head?, isBlank c = false
  last : ∀ c ∈ word.getLast?, isBlank c = false

theorem dropWhile_append_of_head {p : Char → Bool} {before rest : List Char}
    (hbefore : ∀ c ∈ before, p c = true) (hrest : ∀ c ∈ rest.head?, p c = false) :
    (before ++ rest).dropWhile p = rest := by
  rw [List.dropWhile_append_of_pos hbefore]
  cases rest with
  | nil => rfl
  | cons c rest => exact List.dropWhile_cons_of_neg (by simp [hrest c rfl])

theorem not_blank_of_head?_dropWhile {p : Char → Bool} {text : List Char} {c : Char}
    (h : c ∈ (text.dropWhile p).head?) : p c = false := by
  have hhead := List.head?_dropWhile_not p text
  rw [h] at hhead
  simpa using hhead

theorem trims_trim (text : List Char) : Trims text (trim text) := by
  -- what is taken off at the end of the text that has been trimmed at its start
  obtain ⟨after, hafter, hblank⟩ : ∃ after, trimStart text = trim text ++ after ∧
      ∀ c ∈ after, isBlank c = true := by
    refine ⟨((trimStart text).reverse.takeWhile isBlank).reverse, ?_, fun c hc => ?_⟩
    · rw [trim, trimEnd, ← List.reverse_append, List.takeWhile_append_dropWhile,
        List.reverse_reverse]
    · exact List.mem_takeWhile_imp (List.mem_reverse.mp hc)
  refine ⟨⟨text.takeWhile isBlank, after, ?_, fun c => List.mem_takeWhile_imp, hblank⟩, ?_, ?_⟩
  · rw [List.append_assoc, ← hafter, trimStart, List.takeWhile_append_dropWhile]
  · intro c hc
    have hhead : c ∈ (trimStart text).head? := by
      rw [hafter, List.head?_append, Option.mem_def.mp hc]
      rfl
    exact not_blank_of_head?_dropWhile hhead
  · intro c hc
    rw [trim, trimEnd, List.getLast?_reverse] at hc
    exact not_blank_of_head?_dropWhile hc

theorem Trims.trim_eq {text word : List Char} (h : Trims text word) : trim text = word := by
  obtain ⟨before, after, rfl, hbefore, hafter⟩ := h.exists_blanks
  by_cases hword : word = []
  · subst hword
    have hstart : trimStart (before ++ [] ++ after) = [] := by
      rw [trimStart, List.dropWhile_eq_nil_iff]
      intro c hc
      rcases List.mem_append.mp (by simpa using hc) with hc | hc
      · exact hbefore c hc
      · exact hafter c hc
    rw [trim, hstart]
    rfl
  · have hstart : trimStart (before ++ word ++ after) = word ++ after := by
      rw [trimStart, List.append_assoc]
      refine dropWhile_append_of_head hbefore ?_
      rw [List.head?_append_of_ne_nil _ hword]
      exact h.first
    have hend : (after.reverse ++ word.reverse).dropWhile isBlank = word.reverse := by
      refine dropWhile_append_of_head (by simpa using hafter) ?_
      rw [List.head?_reverse]
      exact h.last
    rw [trim, hstart, trimEnd, List.reverse_append, hend, List.reverse_reverse]

end Text

theorem splitCommas_eq (text : List Char) : splitCommas text = text.splitOn ',' := by
  unfold List.splitOn
  induction text with
  | nil => rfl
  | cons c rest ih =>
    rw [splitCommas, ih, List.splitOnP_cons_eq_if_modifyHead]
    by_cases hc : c = ','
    · simp [hc]
    · rw [if_neg hc, if_neg (by simpa using hc)]
      cases hpieces : List.splitOnP (· == ',') rest with
      | nil => exact absurd hpieces (List.splitOn_ne_nil ',' rest)
      | cons piece pieces => rfl

theorem not_mem_of_mem_splitCommas {text piece : List Char} (h : piece ∈ splitCommas text) :
    ',' ∉ piece := by
  induction text generalizing piece with
  | nil => simp_all [splitCommas]
  | cons c rest ih =>
    rw [splitCommas] at h
    split at h
    · rcases List.mem_cons.mp h with rfl | h
      · exact List.not_mem_nil
      · exact ih h
    · next hc =>
      split at h
      · simpa [List.mem_singleton.mp h] using Ne.symm hc
      · next first pieces hpieces =>
        rw [hpieces] at ih
        rcases List.mem_cons.mp h with rfl | h
        · simpa [Ne.symm hc] using ih List.mem_cons_self
        · exact ih (List.mem_cons_of_mem _ h)

namespace Selection

/-- The text lists the words: it is made of pieces with commas between them, and the words are
the pieces without blanks at their ends. -/
def Lists (text : String) (words : List String) : Prop :=
  ∃ pieces : List (List Char), text.toList = [','].intercalate pieces ∧ pieces ≠ [] ∧
    (∀ piece ∈ pieces, ',' ∉ piece) ∧
    List.Forall₂ (fun piece word => Text.Trims piece word.toList) pieces words

/-- **A text lists its words**, and no others. -/
theorem lists_iff {text : String} {list : List String} : Lists text list ↔ words text = list := by
  rw [words, splitCommas_eq]
  constructor
  · rintro ⟨pieces, htext, hne, hcommas, htrims⟩
    rw [htext, List.splitOn_intercalate _ hcommas hne]
    clear htext hne hcommas
    induction htrims with
    | nil => rfl
    | cons htrim _ ih => rw [List.map_cons, ih, htrim.trim_eq, String.ofList_toList]
  · rintro rfl
    refine ⟨text.toList.splitOn ',', (List.intercalate_splitOn ',').symm, List.splitOn_ne_nil _ _,
      ?_, ?_⟩
    · intro piece hpiece
      exact not_mem_of_mem_splitCommas (splitCommas_eq _ ▸ hpiece)
    · rw [List.forall₂_map_right_iff, List.forall₂_same]
      intro piece _
      rw [String.toList_ofList]
      exact Text.trims_trim piece

end Selection

/-! ### Rules that are turned on -/

/-- Changing the values of entries by their names does not move them. -/
theorem lookup_map_value {α : Type} (f : String → α → α) (entries : List (String × α))
    (name : String) :
    (entries.map fun (other, value) => (other, f other value)).lookup name =
      (entries.lookup name).map (f name) := by
  induction entries with
  | nil => rfl
  | cons e entries ih =>
    obtain ⟨other, value⟩ := e
    rw [List.map_cons, List.lookup_cons, List.lookup_cons, ih]
    by_cases hname : name = other
    · subst hname
      simp
    · simp [beq_false_of_ne hname]

namespace Settings

variable {s t u : Settings} {name : String}

/-- Settings in which a rule is on, and which are the same otherwise. -/
structure TurnsOn (name : String) (s t : Settings) : Prop extends AgreeOutside name s t where
  rule?_self : t.rule? name = some { (s.rule? name).getD {} with enabled := some true }

/-- Settings that differ at most in which rules are on. -/
structure AgreeButSwitches (s t : Settings) : Prop where
  scan_eq : s.scan = t.scan
  severity?_eq : ∀ name, s.severity? name = t.severity? name
  options_eq : ∀ name,
    ((s.rule? name).getD {}).options = ((t.rule? name).getD {}).options

theorem AgreeButSwitches.refl (s : Settings) : AgreeButSwitches s s :=
  ⟨rfl, fun _ => rfl, fun _ => rfl⟩

theorem AgreeButSwitches.symm (h : AgreeButSwitches s t) : AgreeButSwitches t s :=
  ⟨h.scan_eq.symm, fun name => (h.severity?_eq name).symm, fun name => (h.options_eq name).symm⟩

theorem AgreeButSwitches.trans (h : AgreeButSwitches s t) (h' : AgreeButSwitches t u) :
    AgreeButSwitches s u :=
  ⟨h.scan_eq.trans h'.scan_eq, fun name => (h.severity?_eq name).trans (h'.severity?_eq name),
    fun name => (h.options_eq name).trans (h'.options_eq name)⟩

theorem TurnsOn.agreeButSwitches (h : TurnsOn name s t) : AgreeButSwitches s t := by
  refine ⟨h.scan_eq, fun other => ?_, fun other => ?_⟩
  · by_cases hother : other = name
    · subst hother
      rw [severity?, severity?, h.rule?_self]
      cases s.rule? other <;> rfl
    · rw [severity?, h.rule?_eq other hother, severity?]
  · by_cases hother : other = name
    · subst hother
      rw [h.rule?_self]
      rfl
    · rw [h.rule?_eq other hother]

theorem TurnsOn.isEnabled (h : TurnsOn name s t) (byDefault : Bool) :
    t.isEnabled name byDefault = true := by
  rw [Settings.isEnabled, h.rule?_self]
  rfl

theorem TurnsOn.isEnabled_of_isEnabled (h : TurnsOn name s t) {other : String} {byDefault : Bool}
    (hother : s.isEnabled other byDefault = true) : t.isEnabled other byDefault = true := by
  by_cases hname : other = name
  · subst hname
    exact h.isEnabled byDefault
  · rwa [← h.isEnabled_eq hname]

/-- **A rule is turned on**, whether there are settings for it or not. -/
theorem turnsOn_enable (s : Settings) (name : String) : TurnsOn name s (s.enable name) := by
  cases hrule : s.rule? name with
  | some own =>
    have hrules : ∀ other, (s.enable name).rule? other = (s.rule? other).map fun own =>
        if other = name then { own with enabled := some true } else own := by
      intro other
      rw [enable, hrule, rule?]
      exact lookup_map_value (fun other own =>
        if other = name then { own with enabled := some true } else own) s.rules other
    refine ⟨⟨by rw [enable, hrule], fun other hother => ?_⟩, ?_⟩
    · rw [hrules]
      simp [hother]
    · rw [hrules, hrule]
      simp
  | none =>
    have hrules : ∀ other, (s.enable name).rule? other =
        (s.rule? other).or ([(name, { enabled := some true })].lookup other) := by
      intro other
      rw [enable, hrule, rule?, rule?]
      exact List.lookup_append
    refine ⟨⟨by rw [enable, hrule], fun other hother => ?_⟩, ?_⟩
    · rw [hrules]
      simp [List.lookup_cons, beq_false_of_ne hother]
    · rw [hrules, hrule]
      simp

end Settings

theorem RuleSettings.optionOf_congr {α : Type} {a b : Option RuleSettings}
    (h : (a.getD {}).options = (b.getD {}).options) (rule key : String) (read : Toml → Option α) :
    optionOf a rule key read = optionOf b rule key read := by
  have hempty : ∀ settings : Option RuleSettings, optionOf settings rule key read =
      ((settings.getD {}).option key read).mapError (.wrongForm rule) := by
    intro settings
    cases settings <;> rfl
  rw [hempty, hempty, option, option, h]

/-- **The same rules**, whichever of them are on: rules are made from their options. -/
theorem Builtin.rules_congr {s t : Settings} (h : s.AgreeButSwitches t) : rules s = rules t := by
  have hoption : ∀ {α : Type} (name rule key : String) (read : Toml → Option α),
      RuleSettings.optionOf (s.rule? name) rule key read =
        RuleSettings.optionOf (t.rule? name) rule key read := fun name rule key read =>
    RuleSettings.optionOf_congr (h.options_eq name) rule key read
  simp only [rules, ResourceName.NamePattern.ofSettings, ModuleStructure.Layout.ofSettings,
    BackendType.typesOfSettings, hoption]

/-- Rules of the linter have different names. -/
theorem Builtin.nodup_names {settings : Settings} {rules : List Rule}
    (h : Builtin.rules settings = .ok rules) : (rules.map fun rule => rule.name).Nodup := by
  obtain ⟨pattern, -, h⟩ := bind_eq_ok h
  obtain ⟨layout, -, h⟩ := bind_eq_ok h
  obtain ⟨types, -, h⟩ := bind_eq_ok h
  cases h
  have hnames : [Comments.info.name, FileContent.info.name, ResourceName.name, ModuleStructure.name,
      BackendType.name, MetaArguments.info.name, LowercaseName.info.name].Nodup := by
    decide
  exact hnames

namespace Selection

variable {settings : Settings} {rules : List Rule}

theorem agreeButSwitches_enableAll (settings : Settings) (rules : List Rule) :
    settings.AgreeButSwitches (enableAll settings rules).1 := by
  induction rules generalizing settings with
  | nil => exact .refl _
  | cons rule rules ih =>
    rw [enableAll]
    split
    · exact ih settings
    · exact (settings.turnsOn_enable rule.name).agreeButSwitches.trans (ih _)

/-- No rule is turned off. -/
theorem isEnabled_enableAll_of_isEnabled {name : String} {byDefault : Bool}
    (h : settings.isEnabled name byDefault = true) :
    (enableAll settings rules).1.isEnabled name byDefault = true := by
  induction rules generalizing settings with
  | nil => exact h
  | cons rule rules ih =>
    rw [enableAll]
    split
    · exact ih h
    · exact ih ((settings.turnsOn_enable rule.name).isEnabled_of_isEnabled h)

/-- **All rules of a selection are on.** -/
theorem isEnabled_enableAll {rule : Rule} (h : rule ∈ rules) :
    (enableAll settings rules).1.isEnabled rule.name rule.enabled = true := by
  induction rules generalizing settings with
  | nil => cases h
  | cons first rules ih =>
    rw [enableAll]
    rcases List.mem_cons.mp h with rfl | h
    · split
      · next hon => exact isEnabled_enableAll_of_isEnabled hon
      · exact isEnabled_enableAll_of_isEnabled ((settings.turnsOn_enable rule.name).isEnabled _)
    · split
      · exact ih h
      · exact ih h

theorem ofText_rules (rules : List Rule) (settings : Settings) (text : String) :
    (ofText rules settings text).rules =
      rules.filter fun rule => rule.name ∈ words text ∨ rule.code ∈ words text := by
  refine List.filter_congr fun rule _ => ?_
  rw [Bool.eq_iff_iff, decide_eq_true_iff, List.any_eq_true]
  simp only [names, Bool.or_eq_true, beq_iff_eq]
  constructor
  · rintro ⟨word, hword, rfl | rfl⟩
    · exact .inl hword
    · exact .inr hword
  · rintro (hword | hword)
    · exact ⟨_, hword, .inl rfl⟩
    · exact ⟨_, hword, .inr rfl⟩

theorem ofText_settings (rules : List Rule) (settings : Settings) (text : String) :
    (ofText rules settings text).settings =
      (enableAll settings (ofText rules settings text).rules).1 := rfl

end Selection

/-! ### Reports on one rule -/

/-- What a report says of one rule, with its counts. -/
def Report.only (x : String) (report : Report) : Report :=
  { report with
    issues := report.issues.filter fun issue => issue.rule = x
    failures := report.failures.filter fun failure => failure.rule = x }

theorem Report.only_append (x : String) (a b : Report) :
    (a ++ b).only x = a.only x ++ b.only x := by
  simp [only, append_eq]

theorem filter_filter_of_imp {α : Type} {p q : α → Bool} {xs : List α}
    (h : ∀ x ∈ xs, q x = true → p x = true) : (xs.filter p).filter q = xs.filter q := by
  rw [List.filter_filter]
  refine List.filter_congr fun x hx => ?_
  cases hq : q x with
  | false => rfl
  | true => rw [h x hx hq]; rfl

/-- All that a report says is said by some rules. -/
structure Report.IsBy (rules : List Rule) (report : Report) : Prop where
  issues : ∀ issue ∈ report.issues, ∃ rule ∈ rules, issue.rule = rule.name
  failures : ∀ failure ∈ report.failures, ∃ rule ∈ rules, failure.rule = rule.name

theorem Report.isBy_empty (rules : List Rule) : ({} : Report).IsBy rules :=
  ⟨by simp, by simp⟩

theorem Report.IsBy.append {rules : List Rule} {a b : Report} (ha : a.IsBy rules)
    (hb : b.IsBy rules) : (a ++ b).IsBy rules :=
  ⟨List.forall_mem_append.mpr ⟨ha.issues, hb.issues⟩,
    List.forall_mem_append.mpr ⟨ha.failures, hb.failures⟩⟩

/-- Of what rules contribute under their names, one name leaves what the rules of this name
contribute. -/
theorem filter_flatMap_own {β : Type} {x : String} {rules : List Rule} {own : Rule → List β}
    {key : β → String} (hown : ∀ rule ∈ rules, ∀ b ∈ own rule, key b = rule.name) :
    (rules.flatMap own).filter (fun b => key b = x) =
      (rules.filter fun rule => rule.name = x).flatMap own := by
  induction rules with
  | nil => rfl
  | cons rule rules ih =>
    obtain ⟨hrule, hrules⟩ := List.forall_mem_cons.mp hown
    rw [List.flatMap_cons, List.filter_append, ih hrules, List.filter_cons]
    by_cases hname : rule.name = x
    · have hall : (own rule).filter (fun b => key b = x) = own rule :=
        List.filter_eq_self.mpr fun b hb => by simp [hrule b hb, hname]
      rw [hall, if_pos (by simpa using hname), List.flatMap_cons]
    · have hnone : (own rule).filter (fun b => key b = x) = [] :=
        List.filter_eq_nil_iff.mpr fun b hb => by simp [hrule b hb, hname]
      rw [hnone, if_neg (by simpa using hname), List.nil_append]

namespace RuleSet

variable {a b : RuleSet} {s t : Settings} {p : Project} {x : String}

/-- What a rule set says of one rule depends on the rules of this name that are on, and on what
settings say of them. -/
theorem only_check_of_covers (hrules : ∀ rule ∈ a.rules, Builtin.IsRule rule) (h : a.Covers p) :
    (a.check s p).only x =
      { issues := ((a.enabledRules s).filter fun rule => rule.name = x).flatMap (ownIssues s p)
        failures :=
          ((a.enabledRules s).filter fun rule => rule.name = x).filterMap (ownFailure? s p)
        modulesChecked := 1 } := by
  have hon : ∀ rule ∈ a.enabledRules s, Builtin.IsRule rule := fun rule hrule =>
    hrules rule (List.mem_filter.mp hrule).1
  rw [check_of_covers h]
  simp only [Report.only, List.filterMap_eq_flatMap_toList]
  rw [filter_flatMap_own fun rule hrule _ => rule_of_mem_ownIssues (hon rule hrule),
    filter_flatMap_own fun rule _ _ => rule_of_mem_ownFailure?]

end RuleSet

namespace Analysis

variable {a b : Analysis} {x : String}

/-- Analyses that look at the same modules and cover the same of them. -/
structure LooksAlike (a b : Analysis) : Prop where
  root_eq : a.root = b.root
  names_eq : a.names = b.names
  place_eq : a.place = b.place
  exclude_eq : a.exclude = b.exclude
  recursive_eq : a.recursive = b.recursive
  scan_eq : a.settings.scan = b.settings.scan
  coverage_eq : a.ruleSet.coverage = b.ruleSet.coverage

theorem LooksAlike.projects_eq (h : LooksAlike a b) (tree : FileTree) :
    a.projects tree = b.projects tree := by
  have hsearch : a.searchError = b.searchError := by
    funext e
    cases e with
    | unlistable place =>
      have hpath : a.searchPath place = b.searchPath place := by
        rw [searchPath, h.root_eq, h.place_eq, searchPath]
      exact congrArg AccessError.search hpath
    | malformed place => rfl
  have hchildren : a.childPlaces tree = b.childPlaces tree := by
    rw [childPlaces, h.place_eq, h.recursive_eq, h.scan_eq, h.exclude_eq, hsearch, childPlaces]
  have hproject := project_congr h.root_eq h.names_eq h.place_eq h.exclude_eq tree
  rw [projects, hchildren, h.place_eq, hproject, projects]

/-- Analyses that say the same of one rule. -/
structure AgreesOn (x : String) (a b : Analysis) : Prop extends LooksAlike a b where
  left : ∀ rule ∈ a.ruleSet.rules, Builtin.IsRule rule
  right : ∀ rule ∈ b.ruleSet.rules, Builtin.IsRule rule
  severity?_eq : a.settings.severity? x = b.settings.severity? x
  on_eq : (a.ruleSet.enabledRules a.settings).filter (fun rule => rule.name = x) =
    (b.ruleSet.enabledRules b.settings).filter (fun rule => rule.name = x)

namespace AgreesOn

theorem only_check_eq (h : AgreesOn x a b) {p : Project} (ha : a.ruleSet.Covers p)
    (hb : b.ruleSet.Covers p) :
    (a.ruleSet.check a.settings p).only x = (b.ruleSet.check b.settings p).only x := by
  rw [RuleSet.only_check_of_covers h.left ha, RuleSet.only_check_of_covers h.right hb, h.on_eq]
  have hfailure : RuleSet.ownFailure? a.settings p = RuleSet.ownFailure? b.settings p := by
    funext rule
    rw [RuleSet.ownFailure?, h.scan_eq, RuleSet.ownFailure?]
  have hissues : ∀ rule : Rule, rule.name = x →
      RuleSet.ownIssues a.settings p rule = RuleSet.ownIssues b.settings p rule := by
    intro rule hname
    rw [RuleSet.ownIssues, hname, h.severity?_eq, h.scan_eq, RuleSet.ownIssues, hname]
  rw [hfailure]
  congr 1
  refine List.flatMap_congr fun rule hrule => hissues rule ?_
  simpa using (List.mem_filter.mp hrule).2

theorem only_reportOn_eq (h : AgreesOn x a b) (p : Project) :
    (a.reportOn p).only x = (b.reportOn p).only x := by
  have hcovers : a.ruleSet.Covers p ↔ b.ruleSet.Covers p := by
    rw [RuleSet.Covers, h.coverage_eq, RuleSet.Covers]
  by_cases ha : a.ruleSet.Covers p
  · have hcheck := h.only_check_eq ha (hcovers.mp ha)
    rw [reportOn_of_covers ha, reportOn_of_covers (hcovers.mp ha)]
    exact congrArg
      (fun r : Report => { r with filesChecked := p.files.length, modulesChecked := 1 }) hcheck
  · rw [reportOn_of_not_covers ha, reportOn_of_not_covers (mt hcovers.mpr ha)]

theorem only_reportOnAll_eq (h : AgreesOn x a b) (ps : List Project) :
    (a.reportOnAll ps).only x = (b.reportOnAll ps).only x := by
  induction ps with
  | nil => rfl
  | cons p ps ih =>
    rw [reportOnAll_cons, Report.only_append, h.only_reportOn_eq, ih, reportOnAll_cons,
      Report.only_append]

theorem only_run_eq (h : AgreesOn x a b) (tree : FileTree) :
    (a.run tree).map (Report.only x) = (b.run tree).map (Report.only x) := by
  rw [run_eq, run_eq, h.projects_eq]
  cases b.projects tree with
  | error e => rfl
  | ok ps => exact congrArg Except.ok (h.only_reportOnAll_eq ps)

end AgreesOn

/-- **Nothing is reported but by rules that are on.** -/
theorem isBy_reportOn (hrules : ∀ rule ∈ a.ruleSet.rules, Builtin.IsRule rule) (p : Project) :
    (a.reportOn p).IsBy (a.ruleSet.enabledRules a.settings) := by
  by_cases h : a.ruleSet.Covers p
  · rw [reportOn_of_covers h, RuleSet.check_of_covers h]
    refine ⟨fun issue hissue => ?_, fun failure hfailure => ?_⟩
    · obtain ⟨rule, hrule, hown⟩ := List.mem_flatMap.mp hissue
      have hbuiltin := hrules rule (List.mem_filter.mp hrule).1
      exact ⟨rule, hrule, RuleSet.rule_of_mem_ownIssues hbuiltin hown⟩
    · obtain ⟨rule, hrule, hown⟩ := List.mem_filterMap.mp hfailure
      exact ⟨rule, hrule, RuleSet.rule_of_mem_ownFailure? (Option.mem_toList.mpr hown)⟩
  · rw [reportOn_of_not_covers h]
    exact Report.isBy_empty _

theorem isBy_of_run_eq_ok {tree : FileTree} {report : Report}
    (hrules : ∀ rule ∈ a.ruleSet.rules, Builtin.IsRule rule) (h : a.run tree = .ok report) :
    report.IsBy (a.ruleSet.enabledRules a.settings) := by
  rw [run_eq] at h
  obtain ⟨ps, -, rfl⟩ := map_eq_ok h
  clear h
  induction ps with
  | nil => exact Report.isBy_empty _
  | cons p ps ih => exact (isBy_reportOn hrules p).append ih

/-- Requests that differ in rules and in settings of rules make analyses that differ in these. -/
theorem prepare_congr (w : Workspace) {q r : Request} (hroot : q.root = r.root)
    (hexclude : q.exclude = r.exclude) (hrecursive : q.recursive = r.recursive)
    (hscan : q.settings.scan = r.settings.scan) :
    prepare w r = (prepare w q).map fun a =>
      { a with
        ruleSet := r.ruleSet.coverByDefault r.settings.coverage
        settings := r.settings } := by
  unfold prepare
  dsimp only
  rw [hroot, hexclude, hrecursive, hscan]
  cases w.place? (r.root.getD r.settings.scan.root) with
  | none => rfl
  | some place =>
    dsimp only
    split
    · rfl
    · cases globs (r.exclude ++ r.settings.scan.exclude) <;> rfl

/-- A request that has been checked has the rules and settings that it had before. -/
theorem prepare_eq_ok {w : Workspace} {r : Request} (h : prepare w r = .ok a) :
    a.ruleSet = r.ruleSet.coverByDefault r.settings.coverage ∧ a.settings = r.settings := by
  have hself := prepare_congr w (q := r) (r := r) rfl rfl rfl rfl
  rw [h] at hself
  have ha := Except.ok.inj hself
  rw [ha]
  exact ⟨rfl, rfl⟩

/-- Modules that a rule set leaves to the settings can as well be chosen before. -/
theorem prepare_coverByDefault (w : Workspace) (r : Request) :
    prepare w { r with ruleSet := r.ruleSet.coverByDefault r.settings.coverage } = prepare w r := by
  have htwice : (r.ruleSet.coverByDefault r.settings.coverage).coverByDefault r.settings.coverage =
      r.ruleSet.coverByDefault r.settings.coverage := by
    simp only [RuleSet.coverByDefault]
    cases r.ruleSet.chosen <;> rfl
  have hself := prepare_congr w (q := r) (r := r) rfl rfl rfl rfl
  have hchosen := prepare_congr w (q := r)
    (r := { r with ruleSet := r.ruleSet.coverByDefault r.settings.coverage }) rfl rfl rfl rfl
  simp only [htwice] at hchosen
  exact hchosen.trans hself.symm

end Analysis

/-! ### Checks with selected rules -/

theorem map_mapError {α β ε δ : Type} (f : ε → δ) (g : α → β) (result : Except ε α) :
    (result.mapError f).map g = (result.map g).mapError f := by
  cases result <;> rfl

namespace Command

variable {w : Workspace} {options : CheckOptions} {s t : Selection} {x : String}

/-- Two selections say the same of one rule if the rules of its name that are on are the same, and
have the same severity. -/
theorem only_report_eq (hscan : s.settings.scan = t.settings.scan)
    (hs : ∀ rule ∈ s.rules, Builtin.IsRule rule) (ht : ∀ rule ∈ t.rules, Builtin.IsRule rule)
    (hseverity : s.settings.severity? x = t.settings.severity? x)
    (hon :
      ((request options s).ruleSet.enabledRules s.settings).filter (fun rule => rule.name = x) =
        ((request options t).ruleSet.enabledRules t.settings).filter fun rule => rule.name = x) :
    (report w (request options s)).map (Report.only x) =
      (report w (request options t)).map (Report.only x) := by
  have hprepare := Analysis.prepare_congr w (q := request options s) (r := request options t)
    rfl rfl rfl hscan
  unfold report
  rw [hprepare]
  cases hanalysis : Analysis.prepare w (request options s) with
  | error e => rfl
  | ok a =>
    obtain ⟨hset, hsettings⟩ := Analysis.prepare_eq_ok hanalysis
    have hagrees : Analysis.AgreesOn x a
        { a with
          ruleSet := (request options t).ruleSet.coverByDefault t.settings.coverage
          settings := t.settings } := by
      refine ⟨⟨rfl, rfl, rfl, rfl, rfl, ?_, ?_⟩, ?_, ht, ?_, ?_⟩
      · rw [hsettings]
        exact hscan
      · -- which modules are covered is said with the settings of the scan
        have hcoverage : s.settings.coverage = t.settings.coverage := by
          rw [Settings.coverage, hscan, Settings.coverage]
        rw [hset]
        exact hcoverage
      · rw [hset]
        exact hs
      · rw [hsettings]
        exact hseverity
      · rw [hset, hsettings]
        exact hon
    exact (map_mapError _ _ _).trans
      ((congrArg _ (hagrees.only_run_eq w.tree)).trans (map_mapError _ _ _).symm)

theorem isBy_of_report_eq_ok (hs : ∀ rule ∈ s.rules, Builtin.IsRule rule) {r : Report}
    (h : report w (request options s) = .ok r) :
    r.IsBy ((request options s).ruleSet.enabledRules s.settings) := by
  obtain ⟨a, ha, hrun⟩ := bind_eq_ok h
  obtain ⟨hset, hsettings⟩ := Analysis.prepare_eq_ok (mapError_eq_ok ha)
  have hby := Analysis.isBy_of_run_eq_ok (by rw [hset]; exact hs) (mapError_eq_ok hrun)
  rw [hset, hsettings] at hby
  exact hby

/-- **The check with a selection is a filter**, given the words that select rules. -/
structure Selects (w : Workspace) (options : CheckOptions) (settings : Settings)
    (rules : List Rule) (words : List String) (selection : Selection) : Prop where
  /-- The rules that are run are those with a name or a code among the words, in the order of all
  rules. -/
  uses : (request options selection).ruleSet.enabledRules (request options selection).settings =
    rules.filter fun rule => rule.name ∈ words ∨ rule.code ∈ words
  /-- Each of them reports what it reports in a check of all rules, once it is turned on. -/
  contributes : ∀ rule ∈ rules, rule.name ∈ words ∨ rule.code ∈ words →
    ∀ on, settings.TurnsOn rule.name on → Builtin.rules on = .ok rules ∧
      (report w (request options selection)).map (Report.only rule.name) =
        (report w (request options (.ofText? rules on none))).map (Report.only rule.name)
  /-- No other rule reports anything. -/
  isBy : ∀ r, report w (request options selection) = .ok r →
    r.IsBy (rules.filter fun rule => rule.name ∈ words ∨ rule.code ∈ words)

/-- **What comes of a check** with rules that have been selected. Its report is rendered, and the
exit code says whether there is an issue that is an error or a rule that has failed. Where there is
no report, the outcome is the error. The tree stays as it is, and the notes are those of the
selection. -/
structure Presents (w : Workspace) (options : CheckOptions) (selection : Selection)
    (outcome : Outcome) : Prop where
  done : ∀ r, report w (request options selection) = .ok r →
    outcome.exitCode = (if r.hasErrors || r.hasFailures then 1 else 0) ∧
      outcome.output = r.render options.format ∧ outcome.error = none
  failed : ∀ cause, report w (request options selection) = .error cause →
    outcome.exitCode = 1 ∧ outcome.output = "" ∧ outcome.error = some cause
  notes : outcome.notes = selection.notes
  tree : outcome.tree = w.tree

theorem presents_checkSelected (w : Workspace) (options : CheckOptions) (selection : Selection) :
    Presents w options selection (checkSelected w options selection) := by
  unfold checkSelected
  cases hreport : report w (request options selection) with
  | error cause =>
    refine ⟨fun r hr => ?_, fun cause' hcause => ?_, rfl, rfl⟩
    · rw [hreport] at hr
      cases hr
    · rw [hreport] at hcause
      cases hcause
      exact ⟨rfl, rfl, rfl⟩
  | ok report =>
    refine ⟨fun r hr => ?_, fun cause hcause => ?_, rfl, rfl⟩
    · rw [hreport] at hr
      cases hr
      exact ⟨rfl, rfl, rfl⟩
    · rw [hreport] at hcause
      cases hcause

theorem enabledRules_ofText (options : CheckOptions) (rules : List Rule) (settings : Settings)
    (text : String) :
    (request options (.ofText rules settings text)).ruleSet.enabledRules
        (Selection.ofText rules settings text).settings =
      rules.filter fun rule =>
        rule.name ∈ Selection.words text ∨ rule.code ∈ Selection.words text := by
  rw [← Selection.ofText_rules rules settings text]
  exact List.filter_eq_self.mpr fun rule hrule => Selection.isEnabled_enableAll hrule

theorem selects_ofText (w : Workspace) (options : CheckOptions) {settings : Settings}
    {rules : List Rule} (h : Builtin.rules settings = .ok rules) (text : String) :
    Selects w options settings rules (Selection.words text) (.ofText rules settings text) := by
  have hbuiltin := Builtin.isRule_of_mem_rules h
  have hselected : ∀ rule ∈ (Selection.ofText rules settings text).rules, Builtin.IsRule rule :=
    fun rule hrule => hbuiltin rule (List.mem_filter.mp hrule).1
  have huses := enabledRules_ofText options rules settings text
  refine ⟨huses, fun rule hrule hwords on hon => ⟨?_, ?_⟩, fun r hr => ?_⟩
  · rw [← Builtin.rules_congr hon.agreeButSwitches]
    exact h
  · have hagree : (Selection.ofText rules settings text).settings.AgreeButSwitches on :=
      (Selection.agreeButSwitches_enableAll settings _).symm.trans hon.agreeButSwitches
    refine only_report_eq hagree.scan_eq hselected hbuiltin (hagree.severity?_eq _) ?_
    rw [huses]
    -- no other rule has the name, and this one is on in both checks
    have hname : ∀ other ∈ rules, other.name = rule.name → other = rule := fun other hother =>
      List.inj_on_of_nodup_map (Builtin.nodup_names h) hother hrule
    refine (filter_filter_of_imp ?_).trans (filter_filter_of_imp ?_).symm
    · intro other hother heq
      obtain rfl := hname other hother (of_decide_eq_true heq)
      simpa using hwords
    · intro other hother heq
      obtain rfl := hname other hother (of_decide_eq_true heq)
      exact hon.isEnabled _
  · have hby := isBy_of_report_eq_ok hselected hr
    rwa [huses] at hby

/-- The order of words and their repetition do not count. -/
theorem report_ofText_congr (w : Workspace) (options : CheckOptions) (settings : Settings)
    (rules : List Rule) {text text' : String}
    (h : ∀ word, word ∈ Selection.words text ↔ word ∈ Selection.words text') :
    report w (request options (.ofText rules settings text)) =
      report w (request options (.ofText rules settings text')) := by
  have hrules : (Selection.ofText rules settings text).rules =
      (Selection.ofText rules settings text').rules := by
    simp only [Selection.ofText_rules, h]
  have hsettings : (Selection.ofText rules settings text).settings =
      (Selection.ofText rules settings text').settings := by
    rw [Selection.ofText_settings, hrules, Selection.ofText_settings]
  rw [request, hrules, hsettings, request]

/-- **Selecting rules is filtering them.** The check of a module presents the report on the rules
that the words of a text name, whatever the order, the repetition and the blanks around the words,
and each of them reports what it reports in a check of all rules, once it is turned on. The check
of all rules is an analysis with the rule set of the linter. -/
theorem check_selects (w : Workspace) (options : CheckOptions) (settings : Settings)
    (rules : List Rule) (h : Builtin.rules settings = .ok rules) :
    (∀ e settingsPath, Settings.find e w options.path settingsPath = .ok settings →
      runCheck e w settingsPath options =
        checkSelected w options (.ofText? rules settings options.rules) ∧
      Presents w options (.ofText? rules settings options.rules)
        (runCheck e w settingsPath options)) ∧
    (∀ text, ∃! words, Selection.Lists text words) ∧
    (∀ text words, Selection.Lists text words →
      Selects w options settings rules words (.ofText? rules settings (some text))) ∧
    (∀ name, ∃ on, settings.TurnsOn name on) ∧
    (∀ text text' words words', Selection.Lists text words → Selection.Lists text' words' →
      (∀ word, word ∈ words ↔ word ∈ words') →
      report w (request options (.ofText? rules settings (some text))) =
        report w (request options (.ofText? rules settings (some text')))) ∧
    ∃ set, Builtin.ruleSet settings = .ok set ∧
      report w (request options (.ofText? rules settings none)) =
        report w {
          root := some options.path
          ruleSet := set
          exclude := options.exclude
          recursive := if options.recursive then some true else none
          settings := settings } := by
  refine ⟨fun e settingsPath hfind => ?_, fun text => ?_, ?_, fun name => ?_, ?_, ?_⟩
  · have hcheck : runCheck e w settingsPath options =
        checkSelected w options (.ofText? rules settings options.rules) := by
      rw [runCheck, hfind]
      dsimp only
      rw [h]
    exact ⟨hcheck, hcheck ▸ presents_checkSelected w options _⟩
  · exact ⟨_, Selection.lists_iff.mpr rfl, fun words hwords => (Selection.lists_iff.mp hwords).symm⟩
  · intro text words hwords
    rw [← Selection.lists_iff.mp hwords]
    exact selects_ofText w options h text
  · exact ⟨_, settings.turnsOn_enable name⟩
  · intro text text' words words' hwords hwords' heq
    rw [← Selection.lists_iff.mp hwords, ← Selection.lists_iff.mp hwords'] at heq
    exact report_ofText_congr w options settings rules heq
  · -- the rule set of the linter has chosen what that of a check leaves to the settings
    refine ⟨(request options ⟨rules, settings, []⟩).ruleSet.coverByDefault settings.coverage,
      ?_, ?_⟩
    · rw [Builtin.ruleSet, h]
      rfl
    · have hprepare := Analysis.prepare_coverByDefault w (request options ⟨rules, settings, []⟩)
      rw [report, Selection.ofText?, ← hprepare]
      rfl

/-- A module with one file that is a comment. -/
def commentWorkspace : Workspace where
  tree := .directory [("main.tf", .file ⟨#[35]⟩)]
  current := []

/-- The same module, with a settings file that turns the rule on comments off. -/
def mutedWorkspace : Workspace where
  tree := .directory [
    ("main.tf", .file ⟨#[35]⟩),
    ("tfstyle.toml", .file
      "[rules.tfstyle_comments]\nenabled = false\nseverity = \"warning\"\n".toUTF8)]
  current := []

/-- A check for comments, with a word that names no rule. -/
def commentsCheck : CheckOptions := { rules := some "nope, TFS001 ,tfstyle_comments" }

/-- A rule that is off is named by its code and by its name, beside a word that names none. It is
the only one that is run, and reports the comment with its own severity. -/
theorem check_selects_comments :
    ∃ settings rules, Settings.find {} mutedWorkspace "." none = .ok settings ∧
      settings.isEnabled "tfstyle_comments" true = false ∧
      Builtin.rules settings = .ok rules ∧
      Selection.Lists "nope, TFS001 ,tfstyle_comments" ["nope", "TFS001", "tfstyle_comments"] ∧
      Selects mutedWorkspace commentsCheck settings rules ["nope", "TFS001", "tfstyle_comments"]
        (.ofText? rules settings commentsCheck.rules) ∧
      Presents mutedWorkspace commentsCheck (.ofText? rules settings commentsCheck.rules)
        (runCheck {} mutedWorkspace none commentsCheck) ∧
      (runCheck {} mutedWorkspace none commentsCheck).exitCode = 0 ∧
      (runCheck {} mutedWorkspace none commentsCheck).notes = ["Unknown rule: nope",
        "Enabling tfstyle_comments for this run (selected with --rules)"] ∧
      (report mutedWorkspace (request commentsCheck
        (.ofText? rules settings commentsCheck.rules))).toOption.map
          (fun r => r.issues.map fun issue => (issue.rule, issue.severity)) =
        some [("tfstyle_comments", .warning)] := by
  have hreport : (Settings.find {} mutedWorkspace "." none).toOption.bind (fun settings =>
      (Builtin.rules settings).toOption.bind fun rules =>
        (report mutedWorkspace (request commentsCheck
          (.ofText? rules settings commentsCheck.rules))).toOption.map fun r =>
            (settings.isEnabled "tfstyle_comments" true,
              r.issues.map fun issue => (issue.rule, issue.severity))) =
      some (false, [("tfstyle_comments", .warning)]) := by
    decide +kernel
  have hcode : (runCheck {} mutedWorkspace none commentsCheck).exitCode = 0 := by decide +kernel
  have hnotes : (runCheck {} mutedWorkspace none commentsCheck).notes = ["Unknown rule: nope",
      "Enabling tfstyle_comments for this run (selected with --rules)"] := by
    decide +kernel
  have hwords : Selection.Lists "nope, TFS001 ,tfstyle_comments"
      ["nope", "TFS001", "tfstyle_comments"] :=
    Selection.lists_iff.mpr (by decide +kernel)
  obtain ⟨settings, hfind, hreport⟩ := Option.bind_eq_some_iff.mp hreport
  obtain ⟨rules, hrules, hreport⟩ := Option.bind_eq_some_iff.mp hreport
  obtain ⟨r, hr, heq⟩ := Option.map_eq_some_iff.mp hreport
  obtain ⟨hoff, hissues⟩ := Prod.mk.inj heq
  have hfind := eq_ok_of_toOption hfind
  have hrules := eq_ok_of_toOption hrules
  obtain ⟨hcheck, -, hselects, -⟩ :=
    check_selects mutedWorkspace commentsCheck settings rules hrules
  exact ⟨settings, rules, hfind, hoff, hrules, hwords, hselects _ _ hwords,
    (hcheck {} none hfind).2, hcode, hnotes, by rw [hr]; exact congrArg some hissues⟩

end Command

end TerraLint
