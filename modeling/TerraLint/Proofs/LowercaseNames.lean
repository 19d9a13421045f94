import TerraLint.Proofs.Failures
import TerraLint.Proofs.Matching

/-!
# Names in lower case

Two rules are about the names of resources. One asks that a name is its own lower-case form,
the other that it matches a pattern. With the default pattern the second asks for more
(`TerraLint.LowercaseName.narrower`).

The default pattern is anchored at both ends and repeats a class in between, so it matches a
text where all of its characters are in the class (`TerraLint.Pattern.isMatch_anchored`). The
class has the lower-case letters of ASCII, the digits and the underscore; the lower-case
form of a text keeps them, whatever it does to other characters.
-/

namespace TerraLint

/-! ### Anchored classes -/

namespace Pattern

/-- A class repeated from the start to the end of a text. -/
def anchored (holds : Char → Bool) : Pattern :=
  concat (concat (look .textStart) (many holds)) (look .textEnd)

theorem leads_anchored {text : Array Char} {holds : Char → Bool} {i j : Nat} (hi : i ≤ text.size) :
    (anchored holds).Leads text i j ↔ i = 0 ∧ j = text.size ∧ ∀ c ∈ text, holds c = true := by
  constructor
  · rintro ⟨k, ⟨l, hstart, hmany⟩, hend⟩
    obtain ⟨rfl, rfl⟩ := (leads_textStart hi).mp hstart
    obtain ⟨n, hsteps⟩ := leads_many.mp hmany
    obtain ⟨rfl, rfl⟩ := (leads_textEnd (staysIn_leads text (many holds) 0 k hi hmany)).mp hend
    obtain ⟨hn, hall⟩ := steps_one.mp hsteps
    refine ⟨rfl, rfl, fun c hc => ?_⟩
    obtain ⟨m, hm, rfl⟩ := Array.mem_iff_getElem.mp hc
    obtain ⟨d, hd, hholds⟩ := hall m (by omega)
    rw [Nat.zero_add, Array.getElem?_eq_getElem hm] at hd
    rwa [← Option.some.inj hd] at hholds
  · rintro ⟨rfl, rfl, hall⟩
    have hsteps : Steps ((one holds).Leads text) text.size 0 text.size := by
      refine steps_one.mpr ⟨by simp, fun k hk => ⟨text[k], ?_, hall _ (Array.getElem_mem hk)⟩⟩
      rw [Nat.zero_add, Array.getElem?_eq_getElem hk]
    refine ⟨text.size, ⟨0, ?_, leads_many.mpr ⟨_, hsteps⟩⟩, ?_⟩
    · exact (leads_textStart hi).mpr ⟨rfl, rfl⟩
    · exact (leads_textEnd le_rfl).mpr ⟨rfl, rfl⟩

/-- **A class repeated from the start to the end of a text** matches if all characters are in
the class. -/
theorem isMatch_anchored (holds : Char → Bool) (text : String) :
    (anchored holds).isMatch text = true ↔ ∀ c ∈ text.toList, holds c = true := by
  rw [isMatch_iff]
  constructor
  · rintro ⟨i, hi, j, hleads⟩
    exact fun c hc => ((leads_anchored hi).mp hleads).2.2 c (List.mem_toArray.mpr hc)
  · intro hall
    refine ⟨0, Nat.zero_le _, _, (leads_anchored (Nat.zero_le _)).mpr ⟨rfl, rfl, fun c hc => ?_⟩⟩
    exact hall c (List.mem_toArray.mp hc)

end Pattern

/-! ### The default pattern -/

namespace ResourceName

/-- The characters of plain names: lower-case letters, digits, and the underscore. -/
def IsPlainChar (c : Char) : Prop := 'a' ≤ c ∧ c ≤ 'z' ∨ '0' ≤ c ∧ c ≤ '9' ∨ c = '_'

instance : DecidablePred IsPlainChar := fun c =>
  inferInstanceAs (Decidable ('a' ≤ c ∧ c ≤ 'z' ∨ '0' ≤ c ∧ c ≤ '9' ∨ c = '_'))

/-- The class in the default pattern. -/
def defaultClass : Pattern.Class :=
  ((Pattern.Class.none.union (.range 'a' 'z')).union (.range '0' '9')).union (.single '_')

theorem defaultClass_holds_iff (c : Char) : defaultClass.holds c = true ↔ IsPlainChar c := by
  have hsingle : c = '_' ↔ '_' ≤ c ∧ c ≤ '_' := by rw [eq_comm, le_antisymm_iff]
  simp only [defaultClass, Pattern.Class.union, Pattern.Class.none, Pattern.Class.range,
    Pattern.Class.single, IsPlainChar, hsingle, Bool.false_or, Bool.or_eq_true, Bool.and_eq_true,
    decide_eq_true_eq, or_assoc]

theorem ofText?_defaultText :
    Pattern.ofText? defaultText = some (.anchored defaultClass.holds) := by
  cbv

/-- **The default pattern asks for plain characters.** -/
theorem exists_default : ∃ pattern, NamePattern.ofText defaultText = .ok pattern ∧
    ∀ name, pattern.pattern.isMatch name = true ↔ ∀ c ∈ name.toList, IsPlainChar c := by
  refine ⟨⟨defaultText, .anchored defaultClass.holds⟩, ?_, fun name => ?_⟩
  · rw [NamePattern.ofText, ofText?_defaultText]
  · simp only [Pattern.isMatch_anchored, defaultClass_holds_iff]

end ResourceName

/-! ### Lower case -/

namespace Text

open ResourceName

theorem lowercaseChar_of_isPlainChar {c : Char} (h : IsPlainChar c) : lowercaseChar c = [c] := by
  have hcode : 97 ≤ c.toNat ∧ c.toNat ≤ 122 ∨ 48 ≤ c.toNat ∧ c.toNat ≤ 57 ∨ c.toNat = 95 :=
    h.imp id (Or.imp id (congrArg Char.toNat))
  have hupper : ¬c.isUpper := by
    intro hupper
    have hletter : 65 ≤ c.toNat ∧ c.toNat ≤ 90 := by
      simpa [Char.isUpper, UInt32.le_iff_toNat_le] using hupper
    omega
  rw [lowercaseChar, if_pos (by omega), Char.toLower_eq_of_not_isUpper hupper]

theorem lowercaseRest_of_isPlainChar {chars : List Char} (h : ∀ c ∈ chars, IsPlainChar c)
    (before : List Char) : lowercaseRest before chars = chars := by
  induction chars generalizing before with
  | nil => rfl
  | cons c chars ih =>
    obtain ⟨hc, hchars⟩ := List.forall_mem_cons.mp h
    have hsigma : c ≠ 'Σ' := by
      rintro rfl
      exact absurd hc (by decide)
    have hform : lowercaseBetween before c chars = [c] := by
      simp [lowercaseBetween, hsigma, lowercaseChar_of_isPlainChar hc]
    rw [lowercaseRest, hform, ih hchars, List.singleton_append]

/-- **Plain names are their own lower-case form.** -/
theorem lowercase_of_isPlainChar {name : String} (h : ∀ c ∈ name.toList, IsPlainChar c) :
    lowercase name = name := by
  rw [lowercase, lowercaseRest_of_isPlainChar h, String.ofList_toList]

end Text

/-! ### The two rules -/

section Resources

variable {p : Project} {m : Module}

theorem flatMap_ite {α β : Type} (accepted : α → Bool) (f : α → β) (xs : List α) :
    (xs.flatMap fun x => if accepted x then [] else [f x]) =
      (xs.filter fun x => !accepted x).map f := by
  induction xs with
  | nil => rfl
  | cons x xs ih => by_cases h : accepted x <;> simp [h, ih]

/-- A rule that accepts a resource or has one finding on it reports the resources that it does not
accept. -/
theorem run_of_resources {rule : Rule} {accepted : Resource → Bool} {finding : Resource → Finding}
    (h : rule.Finds (.sweep [Declaration.ofResource fun r =>
      if accepted r then [] else [finding r]])) (hm : p.module = .ok m) :
    rule.run none p =
      ((m.resources.filter fun r => !accepted r).map fun r => rule.issue (finding r), none) := by
  have hfound : (m.declarations.flatMap (Declaration.ofResource fun r =>
      if accepted r then [] else [finding r])) =
        (m.resources.filter fun r => !accepted r).map finding := by
    rw [← flatMap_ite, Module.resources, List.filterMap_eq_flatMap_toList, List.flatMap_assoc]
    rfl
  rw [h.run_unlimited, Findings.sweep, hm]
  simp only [Findings.ofExcept, List.flatMap_singleton, hfound, List.map_map]
  rfl

/-- A rule with a pattern that asks for plain characters reports the other names. -/
theorem ResourceName.run_eq {pattern : NamePattern}
    (h : ∀ name, pattern.pattern.isMatch name = true ↔ ∀ c ∈ name.toList, IsPlainChar c)
    (hm : p.module = .ok m) : (rule pattern).run none p =
      ((m.resources.filter fun r => r.name.toList.any fun c => ¬IsPlainChar c).map fun r =>
        info.issue ⟨message r, r.declaration.header⟩, none) := by
  have hrejected : ∀ r : Resource, (!pattern.pattern.isMatch r.name) =
      r.name.toList.any fun c => ¬IsPlainChar c := by
    intro r
    rw [Bool.eq_iff_iff, Bool.not_eq_true', ← Bool.not_eq_true, h]
    simp
  simp only [run_of_resources (finds pattern) hm, hrejected]
  rfl

theorem LowercaseName.run_eq (hm : p.module = .ok m) : rule.run none p =
    ((m.resources.filter fun r => r.name ≠ Text.lowercase r.name).map fun r =>
      info.issue ⟨message r, r.declaration.header⟩, none) := by
  simp only [run_of_resources finds hm, ne_eq, decide_not]
  rfl

/-- **A name that is not in lower case is not plain.** -/
theorem LowercaseName.sublist_not_plain (resources : List Resource) :
    (resources.filter fun r => r.name ≠ Text.lowercase r.name).Sublist
      (resources.filter fun r => r.name.toList.any fun c => ¬ResourceName.IsPlainChar c) := by
  refine List.monotone_filter_right resources fun r hr => ?_
  by_contra hplain
  rw [decide_eq_true_eq] at hr
  refine hr (Text.lowercase_of_isPlainChar ?_).symm
  simpa using hplain

end Resources

namespace LowercaseName

open ResourceName (IsPlainChar NamePattern defaultText)

/-- **The rule about lower case is a narrower form of the rule about names.** With the default
pattern a name is accepted exactly if its characters are plain. Each of the two rules reports
the resources that it does not accept, at their headers, and a resource that is not in lower
case is among those with a name that is not plain. -/
theorem narrower :
    ∃ pattern, NamePattern.ofText defaultText = .ok pattern ∧
      NamePattern.ofSettings none = .ok pattern ∧
      (∀ name, pattern.pattern.isMatch name = true ↔ ∀ c ∈ name.toList, IsPlainChar c) ∧
      (∀ (p : Project) (m : Module), p.module = .ok m →
        (ResourceName.rule pattern).run none p =
          ((m.resources.filter fun r => r.name.toList.any fun c => ¬IsPlainChar c).map fun r =>
            ResourceName.info.issue ⟨ResourceName.message r, r.declaration.header⟩, none) ∧
        rule.run none p =
          ((m.resources.filter fun r => r.name ≠ Text.lowercase r.name).map fun r =>
            info.issue ⟨message r, r.declaration.header⟩, none) ∧
        (m.resources.filter fun r => r.name ≠ Text.lowercase r.name).Sublist
          (m.resources.filter fun r => r.name.toList.any fun c => ¬IsPlainChar c)) ∧
      ∀ p : Project, ((rule.run none p).1.map Issue.span).Sublist
        (((ResourceName.rule pattern).run none p).1.map Issue.span) := by
  obtain ⟨pattern, hpattern, hmatch⟩ := ResourceName.exists_default
  refine ⟨pattern, hpattern, hpattern, hmatch, fun p m hm => ?_, fun p => ?_⟩
  · exact ⟨ResourceName.run_eq hmatch hm, run_eq hm, sublist_not_plain m.resources⟩
  · cases hm : p.module with
    | error cause =>
      -- a module that is not decoded is not looked at by either rule
      rw [sweeps.readsModule.run_of_error hm,
        (ResourceName.sweeps pattern).readsModule.run_of_error hm]
    | ok m =>
      rw [ResourceName.run_eq hmatch hm, run_eq hm, List.map_map, List.map_map]
      exact (sublist_not_plain m.resources).map fun r => r.declaration.header

/-- A module with names that have a capital, a hyphen, and neither. -/
def threeResources : Project := .ofFiles [] [("main.tf",
  "resource \"a\" \"Web\" \x7b\x7d\nresource \"a\" \"my-web\" \x7b\x7d\n" ++
    "resource \"a\" \"web\" \x7b\x7d\n")]

/-- The name with a capital is reported by both rules, at the same span, and the one with a hyphen
by the rule about names alone. -/
theorem narrower_three_resources :
    ∃ pattern, NamePattern.ofSettings none = .ok pattern ∧
      pattern.pattern.isMatch "Web" = false ∧ pattern.pattern.isMatch "my-web" = false ∧
      pattern.pattern.isMatch "web" = true ∧
      (rule.run none threeResources).1.map Issue.span = [⟨"main.tf", ⟨1, 1, 0⟩, ⟨1, 19, 18⟩⟩] ∧
      ((ResourceName.rule pattern).run none threeResources).1.map Issue.span =
        [⟨"main.tf", ⟨1, 1, 0⟩, ⟨1, 19, 18⟩⟩, ⟨"main.tf", ⟨2, 1, 22⟩, ⟨2, 22, 43⟩⟩] := by
  obtain ⟨pattern, -, hpattern, hmatch, hruns, -⟩ := narrower
  have hmodule : threeResources.module.map (fun m =>
      m.resources.map fun r => (r.name, r.declaration.header)) =
        .ok [("Web", ⟨"main.tf", ⟨1, 1, 0⟩, ⟨1, 19, 18⟩⟩),
          ("my-web", ⟨"main.tf", ⟨2, 1, 22⟩, ⟨2, 22, 43⟩⟩),
          ("web", ⟨"main.tf", ⟨3, 1, 47⟩, ⟨3, 19, 65⟩⟩)] := by
    cbv
  cases hm : threeResources.module with
  | error cause =>
    rw [hm] at hmodule
    cases hmodule
  | ok m =>
    rw [hm] at hmodule
    have hresources : m.resources.map (fun r => (r.name, r.declaration.header)) = _ :=
      Except.ok.inj hmodule
    obtain ⟨hnames, hlower, -⟩ := hruns threeResources m hm
    -- what is reported depends on the name alone
    have hspans : ∀ reported : String → Bool,
        (m.resources.filter fun r => reported r.name).map (fun r => r.declaration.header) =
          ((m.resources.map fun r => (r.name, r.declaration.header)).filter
            fun r => reported r.1).map Prod.snd := by
      intro reported
      simp [List.filter_map, Function.comp_def]
    refine ⟨pattern, hpattern, ?_, ?_, (hmatch _).mpr (by simp [IsPlainChar]), ?_, ?_⟩
    · exact Bool.eq_false_iff.mpr fun h => absurd ((hmatch _).mp h) (by simp [IsPlainChar])
    · exact Bool.eq_false_iff.mpr fun h => absurd ((hmatch _).mp h) (by simp [IsPlainChar])
    · have hheaders := hspans fun name => name ≠ Text.lowercase name
      rw [hresources] at hheaders
      rw [hlower, List.map_map]
      exact hheaders.trans (by decide +kernel)
    · have hheaders := hspans fun name => name.toList.any fun c => ¬IsPlainChar c
      rw [hresources] at hheaders
      rw [hnames, List.map_map]
      exact hheaders.trans (by decide +kernel)

end LowercaseName

end TerraLint
