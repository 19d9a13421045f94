import TerraLint.Proofs.Failures

/-!
# Where meta-arguments stand

The rule on meta-arguments looks at each of the two by itself, and it compares lines: the
first line of the meta-argument with the last line of the header, and the first line of
the argument that comes next with the last line of the meta-argument. The argument that
comes next is the first one in the order of lines, not in the order of the list
(`TerraLint.MetaArguments.IsEarliest`), and a second meta-argument is none.

What the rule finds is thus one verdict for each meta-argument of each declaration
(`TerraLint.MetaArguments.verdict`), and the issues of a run are these verdicts in order
(`TerraLint.MetaArguments.rule_verdicts`). A resource with no issue has its
meta-arguments in place (`TerraLint.MetaArguments.InPlace`). Both cannot be in place on
lines of their own, since there is one line below the header.
-/

namespace TerraLint.MetaArguments

/-! ### The earliest of some attributes -/

/-- **The earliest attribute**: no other starts on an earlier line, and none in front of it on
the same line. -/
def IsEarliest (attributes : List Attribute) (a : Attribute) : Prop :=
  ∃ front back, attributes = front ++ a :: back ∧
    (∀ b ∈ front, a.span.start.line < b.span.start.line) ∧
    ∀ b ∈ back, a.span.start.line ≤ b.span.start.line

/-- The lines on which attributes start. -/
def startLines (attributes : List Attribute) : Set Nat :=
  {line | ∃ a ∈ attributes, a.span.start.line = line}

theorem IsEarliest.isLeast {attributes : List Attribute} {a : Attribute}
    (h : IsEarliest attributes a) : IsLeast (startLines attributes) a.span.start.line := by
  obtain ⟨front, back, rfl, hfront, hback⟩ := h
  refine ⟨⟨a, by simp, rfl⟩, ?_⟩
  rintro _ ⟨b, hb, rfl⟩
  rcases List.mem_append.mp hb with hb | hb
  · exact (hfront b hb).le
  · rcases List.mem_cons.mp hb with rfl | hb
    · exact le_rfl
    · exact hback b hb

theorem earliest?_eq_none_iff {attributes : List Attribute} :
    earliest? attributes = none ↔ attributes = [] := by
  cases attributes with
  | nil => simp [earliest?]
  | cons a attributes =>
    unfold earliest?
    split
    · simp
    · split <;> simp

/-- **The search finds the earliest attribute.** -/
theorem isEarliest_of_earliest? {attributes : List Attribute} {a : Attribute}
    (h : earliest? attributes = some a) : IsEarliest attributes a := by
  induction attributes generalizing a with
  | nil => simp [earliest?] at h
  | cons b attributes ih =>
    unfold earliest? at h
    split at h
    · rename_i hnone
      obtain rfl := Option.some.inj h
      obtain rfl := earliest?_eq_none_iff.mp hnone
      exact ⟨[], [], rfl, by simp, by simp⟩
    · rename_i c hc
      obtain ⟨front, back, hsplit, hfront, hback⟩ := ih hc
      split at h
      · -- a later attribute starts on an earlier line
        rename_i hlt
        obtain rfl := Option.some.inj h
        exact ⟨b :: front, back, by simp [hsplit], List.forall_mem_cons.mpr ⟨hlt, hfront⟩, hback⟩
      · rename_i hle
        obtain rfl := Option.some.inj h
        refine ⟨[], attributes, rfl, by simp, fun d hd => ?_⟩
        have hleast := (ih hc).isLeast.2 ⟨d, hd, rfl⟩
        omega

/-! ### One meta-argument -/

/-- The arguments of a declaration that are no meta-arguments, in order. -/
def others (d : Declaration) : List Attribute := d.attributes.filter fun a => !names.contains a.name

theorem mem_others {d : Declaration} {a : Attribute} :
    a ∈ others d ↔ a ∈ d.attributes ∧ a.name ∉ names := by
  simp [others]

/-- **A meta-argument in its place**: it starts on the line below the header, and the first line
on which another argument starts leaves one line free below it. -/
structure InPlace (d : Declaration) (argument : Attribute) : Prop where
  first : argument.span.start.line = d.header.stop.line + 1
  delimited : others d ≠ [] → IsLeast (startLines (others d)) (argument.span.stop.line + 2)

/-- In its place a meta-argument ends above all other arguments. -/
theorem InPlace.stop_lt {d : Declaration} {argument a : Attribute} (h : InPlace d argument)
    (ha : a ∈ others d) : argument.span.stop.line < a.span.start.line := by
  have hleast := (h.delimited (List.ne_nil_of_mem ha)).2 ⟨a, ha, rfl⟩
  omega

/-- **What is said of a meta-argument**, and where: at the meta-argument itself if it starts on
the wrong line, and otherwise at the earliest of the other arguments. -/
inductive Reported (d : Declaration) (argument : Attribute) : Finding → Prop
  | first : argument.span.start.line ≠ d.header.stop.line + 1 →
      Reported d argument ⟨firstMessage, argument.span⟩
  | delimited {next : Attribute} : argument.span.start.line = d.header.stop.line + 1 →
      IsEarliest (others d) next → next.span.start.line ≠ argument.span.stop.line + 2 →
      Reported d argument ⟨delimitedMessage, next.span⟩

theorem Reported.not_inPlace {d : Declaration} {argument : Attribute} {finding : Finding}
    (h : Reported d argument finding) : ¬InPlace d argument := by
  rintro ⟨hfirst, hdelimited⟩
  cases h with
  | first hline => exact hline hfirst
  | delimited _ hnext hline =>
    obtain ⟨a, ha, -⟩ := hnext.isLeast.1
    exact hline (hnext.isLeast.unique (hdelimited (List.ne_nil_of_mem ha)))

/-- **A meta-argument is in its place, or one thing is said of it.** -/
theorem inPlace_or_reported (d : Declaration) (argument : Attribute) :
    judgeArgument d argument = [] ∧ InPlace d argument ∨
      ∃ finding, judgeArgument d argument = [finding] ∧ Reported d argument finding := by
  unfold judgeArgument
  by_cases hfirst : argument.span.start.line = d.header.stop.line + 1
  · rw [if_neg (not_not.mpr hfirst)]
    cases hnext : nextArgument? d with
    | none =>
      have hothers : others d = [] := earliest?_eq_none_iff.mp hnext
      exact .inl ⟨rfl, hfirst, fun hne => absurd hothers hne⟩
    | some next =>
      have hearliest : IsEarliest (others d) next := isEarliest_of_earliest? hnext
      dsimp only
      split
      · exact .inr ⟨_, rfl, .delimited hfirst hearliest ‹_›⟩
      · rename_i hline
        exact .inl ⟨rfl, hfirst, fun _ => not_not.mp hline ▸ hearliest.isLeast⟩
  · rw [if_pos hfirst]
    exact .inr ⟨_, rfl, .first hfirst⟩

theorem judgeArgument_eq_nil_iff {d : Declaration} {argument : Attribute} :
    judgeArgument d argument = [] ↔ InPlace d argument := by
  rcases inPlace_or_reported d argument with ⟨hnil, hplace⟩ | ⟨finding, hfound, hreported⟩
  · exact iff_of_true hnil hplace
  · exact iff_of_false (by simp [hfound]) hreported.not_inPlace

/-! ### Resources -/

/-- A resource that the module manages: it has both labels. -/
def Managed (d : Declaration) : Prop := d.type = "resource" ∧ 2 ≤ d.labels.length

instance (d : Declaration) : Decidable (Managed d) := inferInstanceAs (Decidable (_ ∧ _))

theorem kind_eq_resource_iff {d : Declaration} : d.kind = .resource ↔ d.type = "resource" := by
  unfold Declaration.kind DeclarationKind.ofBlockType
  split <;> simp_all

theorem resource?_eq_some_iff {d : Declaration} : (∃ r, d.resource? = some r) ↔ Managed d := by
  rw [Managed, ← kind_eq_resource_iff]
  unfold Declaration.resource?
  split
  · simp_all
  · rename_i hnot
    refine iff_of_false (by simp) ?_
    rintro ⟨hkind, hlength⟩
    match hlabels : d.labels, hlength with
    | type :: name :: rest, _ => exact hnot type name rest hkind hlabels

/-- **What is found for one meta-argument** of a declaration. -/
def verdict (d : Declaration) (name : String) : Option Finding :=
  if Managed d then (d.attribute? name).bind fun argument => (judgeArgument d argument).head?
  else none

theorem verdict_of_not_managed {d : Declaration} (h : ¬Managed d) (name : String) :
    verdict d name = none :=
  if_neg h

theorem verdict_eq_none_iff {d : Declaration} (h : Managed d) {name : String} :
    verdict d name = none ↔ ∀ argument, d.attribute? name = some argument → InPlace d argument := by
  rw [verdict, if_pos h, Option.bind_eq_none_iff]
  refine forall₂_congr fun argument _ => ?_
  rw [List.head?_eq_none_iff, judgeArgument_eq_nil_iff]

theorem reported_of_verdict {d : Declaration} {name : String} {finding : Finding}
    (h : verdict d name = some finding) :
    ∃ argument, d.attribute? name = some argument ∧ Reported d argument finding := by
  unfold verdict at h
  split at h
  · obtain ⟨argument, hargument, hhead⟩ := Option.bind_eq_some_iff.mp h
    refine ⟨argument, hargument, ?_⟩
    rcases inPlace_or_reported d argument with ⟨hnil, -⟩ | ⟨other, hfound, hreported⟩
    · simp [hnil] at hhead
    · obtain rfl : other = finding := by simpa [hfound] using hhead
      exact hreported
  · simp at h

/-- The findings in a resource are the verdicts on its meta-arguments. -/
theorem judge_eq_verdicts {r : Resource} (h : Managed r.declaration) :
    judge r = names.filterMap (verdict r.declaration) := by
  rw [judge, List.filterMap_eq_flatMap_toList, List.filterMap_eq_flatMap_toList,
    List.flatMap_assoc]
  congr 1
  funext name
  rw [verdict, if_pos h]
  cases r.declaration.attribute? name with
  | none => rfl
  | some argument =>
    rcases inPlace_or_reported r.declaration argument with ⟨hfound, -⟩ | ⟨finding, hfound, -⟩
    all_goals simp [hfound]

theorem ofResource_judge (d : Declaration) :
    Declaration.ofResource judge d = names.filterMap (verdict d) := by
  by_cases h : Managed d
  · obtain ⟨r, hr⟩ := resource?_eq_some_iff.mpr h
    obtain rfl := Declaration.resource?_declaration hr
    simp [Declaration.ofResource, hr, judge_eq_verdicts h]
  · have hnone : d.resource? = none := by
      rw [← not_iff_not.mpr resource?_eq_some_iff] at h
      exact Option.eq_none_iff_forall_ne_some.mpr fun r hr => h ⟨r, hr⟩
    simp [Declaration.ofResource, hnone, verdict_of_not_managed h]

/-- What the check of a resource reports. -/
theorem collect_checkResource {d : Declaration} (h : Managed d) :
    (checkResource d).collect none = ((names.filterMap (verdict d)).map info.issue, none) := by
  obtain ⟨r, hr⟩ := resource?_eq_some_iff.mpr h
  obtain rfl := Declaration.resource?_declaration hr
  rw [checkResource_eq, Findings.collect_forM, judge_eq_verdicts h]

/-- **A resource is passed over in silence if its meta-arguments are in their places.** -/
theorem collect_checkResource_eq_nil_iff {d : Declaration} (h : Managed d) :
    (checkResource d).collect none = ([], none) ↔
      ∀ name ∈ names, ∀ argument, d.attribute? name = some argument → InPlace d argument := by
  rw [collect_checkResource h, Prod.mk.injEq, List.map_eq_nil_iff, List.filterMap_eq_nil_iff,
    and_iff_left rfl]
  exact forall₂_congr fun name _ => verdict_eq_none_iff h

/-- **Meta-arguments first.** The issues of a run are, declaration by declaration, the verdicts
on `for_each` and `count`. Only resources with both labels have any. There the verdict says what
is wrong with the place of the meta-argument, and the resource has no issue if and only if each
meta-argument that it has is in its place. Then it ends above all other arguments, and there is
no second one on another line. -/
theorem rule_verdicts :
    (∀ (project : Project) (m : Module), project.module = .ok m →
      rule.run none project = (m.declarations.flatMap fun d =>
        (["for_each", "count"].filterMap (verdict d)).map info.issue, none)) ∧
    ∀ d : Declaration,
      (¬(d.type = "resource" ∧ 2 ≤ d.labels.length) → ∀ name, verdict d name = none) ∧
      (d.type = "resource" ∧ 2 ≤ d.labels.length →
        (∀ name finding, verdict d name = some finding →
          ∃ argument, d.attribute? name = some argument ∧ Reported d argument finding) ∧
        ((checkResource d).collect none = ([], none) ↔
          ∀ name ∈ ["for_each", "count"], ∀ argument, d.attribute? name = some argument →
            argument.span.start.line = d.header.stop.line + 1 ∧
            (others d ≠ [] → IsLeast (startLines (others d)) (argument.span.stop.line + 2))) ∧
        ((checkResource d).collect none = ([], none) →
          ∀ name ∈ ["for_each", "count"], ∀ argument, d.attribute? name = some argument →
            ∀ a ∈ others d, argument.span.stop.line < a.span.start.line) ∧
        ∀ forEach count, d.attribute? "for_each" = some forEach →
          d.attribute? "count" = some count →
          forEach.span.start.line ≠ count.span.start.line →
          ((checkResource d).collect none).1 ≠ []) := by
  refine ⟨fun project m hm => ?_, fun d => ⟨verdict_of_not_managed, fun hd => ⟨?_, ?_, ?_, ?_⟩⟩⟩
  · rw [finds.run_unlimited]
    simp only [Findings.sweep, hm, Findings.ofExcept, List.flatMap_cons, List.flatMap_nil,
      List.append_nil, List.map_flatMap, ofResource_judge]
    rfl
  · exact fun name finding h => reported_of_verdict h
  · rw [collect_checkResource_eq_nil_iff hd]
    refine forall₂_congr fun name _ => forall₂_congr fun argument _ => ?_
    exact ⟨fun h => ⟨h.first, h.delimited⟩, fun h => ⟨h.1, h.2⟩⟩
  · intro hsilent name hname argument hargument a ha
    exact ((collect_checkResource_eq_nil_iff hd).mp hsilent name hname argument hargument).stop_lt ha
  · intro forEach count hforEach hcount hlines hnil
    have hsilent : (checkResource d).collect none = ([], none) :=
      Prod.ext hnil (by rw [collect_checkResource hd])
    -- both would start on the one line below the header
    have hplaces := (collect_checkResource_eq_nil_iff hd).mp hsilent
    have hfirst := (hplaces "for_each" (by simp [names]) forEach hforEach).first
    have hsecond := (hplaces "count" (by simp [names]) count hcount).first
    exact hlines (hfirst.trans hsecond.symm)

/-- Both meta-arguments, on lines of their own: `for_each` is in the right line but too far from
the other argument, and `count` is in the wrong one. -/
theorem rule_verdicts_both :
    let project := Project.ofFiles [] [("main.tf",
      "resource \"a\" \"b\" \x7b\n  for_each = c\n  count = 2\n\n  name = d\n\x7d\n")]
    let span (line start stop : Nat) (byte : Nat) : Span :=
      ⟨"main.tf", ⟨line, start, byte⟩, ⟨line, stop, byte + (stop - start)⟩⟩
    let d : Declaration := ⟨"resource", ["a", "b"], "main.tf", span 1 1 17 0,
      ⟨"main.tf", .start, ⟨6, 2, 59⟩⟩,
      [⟨"for_each", span 2 3 15 21⟩, ⟨"count", span 3 3 12 36⟩, ⟨"name", span 5 3 11 49⟩]⟩
    project.module = .ok ⟨[d], none⟩ ∧
      rule.run none project = (["for_each", "count"].filterMap (verdict d) |>.map info.issue, none) ∧
      ((checkResource d).collect none).1 ≠ [] := by
  intro project span d
  have hm : project.module = .ok ⟨[d], none⟩ := by cbv
  refine ⟨hm, ?_, ?_⟩
  · simpa using rule_verdicts.1 project _ hm
  · exact ((rule_verdicts.2 d).2 ⟨rfl, by decide⟩).2.2.2 _ _ rfl rfl (by decide)

end TerraLint.MetaArguments
