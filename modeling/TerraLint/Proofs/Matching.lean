import Mathlib
import TerraLint.Pattern

/-!
# What a pattern matches

The matcher works with sets of places: from some places of a text a pattern leads to the
places at which a match can end (`TerraLint.Pattern.ends`). This file says which places
these are, one pair of places at a time and constructor by constructor
(`TerraLint.Pattern.Leads`), and proves that the matcher finds them and no others
(`TerraLint.Pattern.mem_ends`).

The case with an argument of its own is repetition. The matcher searches in rounds, and
each round steps from the places that the round before has added, so that a round finds
what one step more leads to (`TerraLint.Pattern.mem_reach`). Where a pattern sets no bound,
the number of places does: a place that can be reached at all can be reached in no more
steps than there are places (`TerraLint.Pattern.within_of_steps`).
-/

namespace TerraLint.Pattern

/-! ### Steps -/

/-- A number of steps of a relation lead from one place to another. -/
def Steps (R : Nat → Nat → Prop) : Nat → Nat → Nat → Prop
  | 0, i, j => i = j
  | n + 1, i, j => ∃ k, R i k ∧ Steps R n k j

/-- Some steps, up to a number of them, lead from one place to another. -/
def Within (R : Nat → Nat → Prop) (n i j : Nat) : Prop := ∃ k ≤ n, Steps R k i j

/-- A relation between places does not lead out of a text. -/
def StaysIn (R : Nat → Nat → Prop) (size : Nat) : Prop := ∀ i j, i ≤ size → R i j → j ≤ size

section Steps

variable {R : Nat → Nat → Prop} {m n i j size : Nat}

theorem steps_add : Steps R (m + n) i j ↔ ∃ k, Steps R m i k ∧ Steps R n k j := by
  induction m generalizing i with
  | zero => simp [Steps]
  | succ m ih =>
    rw [Nat.add_right_comm]
    simp only [Steps, ih]
    constructor
    · rintro ⟨k, hk, l, hl, hj⟩
      exact ⟨l, ⟨k, hk, hl⟩, hj⟩
    · rintro ⟨l, ⟨k, hk, hl⟩, hj⟩
      exact ⟨k, hk, l, hl, hj⟩

/-- Steps that stay within a text do so however many they are. -/
theorem Steps.le (hR : StaysIn R size) (hi : i ≤ size) (h : Steps R n i j) :
    j ≤ size := by
  induction n generalizing i with
  | zero => exact h ▸ hi
  | succ n ih =>
    obtain ⟨k, hk, h⟩ := h
    exact ih (hR i k hi hk) h

theorem within_mono (h : m ≤ n) (hj : Within R m i j) : Within R n i j := by
  obtain ⟨k, hk, hj⟩ := hj
  exact ⟨k, hk.trans h, hj⟩

theorem within_succ : Within R (n + 1) i j ↔ Within R n i j ∨ ∃ k, Within R n i k ∧ R k j := by
  constructor
  · rintro ⟨k, hk, hj⟩
    rcases Nat.le_succ_iff.mp hk with hk | hk
    · exact .inl ⟨k, hk, hj⟩
    · rw [hk] at hj
      obtain ⟨l, hl, hj⟩ := (steps_add (n := 1)).mp hj
      exact .inr ⟨l, ⟨n, le_rfl, hl⟩, by simpa [Steps] using hj⟩
  · rintro (hj | ⟨k, ⟨l, hl, hk⟩, hj⟩)
    · exact within_mono n.le_succ hj
    · exact ⟨l + 1, by omega, steps_add.mpr ⟨k, hk, by simpa [Steps] using hj⟩⟩

open Classical in
/-- The places of a text within a number of steps. -/
noncomputable def placesWithin (R : Nat → Nat → Prop) (size i n : Nat) : Finset Nat :=
  (Finset.range (size + 1)).filter (Within R n i)

theorem placesWithin_subset (R : Nat → Nat → Prop) (size i n : Nat) :
    placesWithin R size i n ⊆ Finset.range (size + 1) := by
  classical exact Finset.filter_subset _ _

theorem mem_placesWithin (hR : StaysIn R size) (hi : i ≤ size) :
    j ∈ placesWithin R size i n ↔ Within R n i j := by
  simp only [placesWithin, Finset.mem_filter, Finset.mem_range]
  refine ⟨And.right, fun h => ⟨?_, h⟩⟩
  obtain ⟨k, -, hj⟩ := h
  exact Nat.lt_succ_of_le (hj.le hR hi)

theorem placesWithin_mono (hR : StaysIn R size) (hi : i ≤ size) :
    Monotone (placesWithin R size i) := by
  intro m n h j hj
  rw [mem_placesWithin hR hi] at hj ⊢
  exact within_mono h hj

/-- Where a step more leads to nothing new, two steps more do not either. -/
theorem placesWithin_stable (hR : StaysIn R size) (hi : i ≤ size)
    (h : placesWithin R size i n = placesWithin R size i (n + 1)) :
    placesWithin R size i (n + 1) = placesWithin R size i (n + 2) := by
  have hiff : ∀ j, Within R n i j ↔ Within R (n + 1) i j := fun j => by
    rw [← mem_placesWithin hR hi, h, mem_placesWithin hR hi]
  refine Finset.ext fun j => ?_
  rw [mem_placesWithin hR hi, mem_placesWithin hR hi, within_succ, within_succ (n := n + 1)]
  simp only [hiff]

/-- **No more steps than places.** The places within a number of steps are more with each step,
or stay the same from there on. -/
theorem within_of_steps (hR : StaysIn R size) (hi : i ≤ size)
    (h : Steps R n i j) : Within R (size + 1) i j := by
  rcases Nat.le_total n (size + 1) with hn | hn
  · exact ⟨n, hn, h⟩
  -- the numbers of places stand still at the latest where they are as many as the text has
  have hcard : (placesWithin R size i n).card = (placesWithin R size i (size + 1)).card := by
    refine Nat.stabilises_of_monotone (f := fun n => (placesWithin R size i n).card)
      (fun _ _ hab => Finset.card_le_card (placesWithin_mono hR hi hab))
      (fun m => ?_) (fun m heq => ?_) hn
    · simpa only [Finset.card_range] using Finset.card_le_card (placesWithin_subset R size i m)
    · have hsame := Finset.eq_of_subset_of_card_le (placesWithin_mono hR hi m.le_succ) heq.ge
      exact congrArg Finset.card (placesWithin_stable hR hi hsame)
  have hplaces : placesWithin R size i (size + 1) = placesWithin R size i n :=
    Finset.eq_of_subset_of_card_le (placesWithin_mono hR hi hn) hcard.le
  rw [← mem_placesWithin hR hi, hplaces, mem_placesWithin hR hi]
  exact ⟨n, le_rfl, h⟩

end Steps

/-! ### Repetition -/

section Repetition

variable {R : Nat → Nat → Prop} {step : List Nat → List Nat} {size : Nat}

/-- A step on sets of places follows a relation: from places of the text it finds what the
relation leads to. -/
def Follows (R : Nat → Nat → Prop) (size : Nat) (step : List Nat → List Nat) : Prop :=
  ∀ places, (∀ i ∈ places, i ≤ size) → ∀ j, j ∈ step places ↔ ∃ i ∈ places, R i j

theorem Follows.le (h : Follows R size step) (hR : StaysIn R size)
    {places : List Nat} (hplaces : ∀ i ∈ places, i ≤ size) : ∀ j ∈ step places, j ≤ size := by
  intro j hj
  obtain ⟨i, hi, hij⟩ := (h places hplaces j).mp hj
  exact hR i j (hplaces i hi) hij

theorem iterate_eq (step : List Nat → List Nat) (n : Nat) (places : List Nat) :
    iterate step n places = step^[n] places := by
  induction n generalizing places with
  | zero => rfl
  | succ n ih =>
    rw [iterate, Function.iterate_succ_apply]
    split
    · next hfixed =>
      rw [beq_iff_eq] at hfixed
      rw [hfixed, Function.iterate_fixed hfixed]
    · exact ih _

theorem mem_iterate (h : Follows R size step) (hR : StaysIn R size)
    {places : List Nat} (hplaces : ∀ i ∈ places, i ≤ size) (n j : Nat) :
    j ∈ iterate step n places ↔ ∃ i ∈ places, Steps R n i j := by
  rw [iterate_eq]
  induction n generalizing places with
  | zero => simp [Steps]
  | succ n ih =>
    rw [Function.iterate_succ_apply, ih (h.le hR hplaces)]
    simp only [h places hplaces, Steps]
    constructor
    · rintro ⟨k, ⟨i, hi, hk⟩, hj⟩
      exact ⟨i, hi, k, hk, hj⟩
    · rintro ⟨i, hi, k, hk, hj⟩
      exact ⟨k, ⟨i, hi, hk⟩, hj⟩

/-- What a search has found after some rounds: the places within as many steps of the start.
Only the fresh ones among them can lead to something new. -/
structure Searched (R : Nat → Nat → Prop) (start : List Nat) (rounds : Nat)
    (fresh found : List Nat) : Prop where
  mem_found : ∀ j, j ∈ found ↔ ∃ i ∈ start, Within R rounds i j
  fresh_subset : fresh ⊆ found
  closed : ∀ i ∈ found, i ∈ fresh ∨ ∀ j, R i j → j ∈ found

theorem searched_start (R : Nat → Nat → Prop) (start : List Nat) :
    Searched R start 0 start start where
  mem_found j := by simp [Within, Steps]
  fresh_subset := List.Subset.refl _
  closed i hi := .inl hi

variable {start fresh found : List Nat} {rounds : Nat}

/-- The places within a step more: what was found, and what the fresh places lead to. -/
theorem Searched.within_succ_iff (h : Searched R start rounds fresh found) (j : Nat) :
    (∃ i ∈ start, Within R (rounds + 1) i j) ↔ j ∈ found ∨ ∃ i ∈ fresh, R i j := by
  simp only [within_succ, and_or_left, exists_or, ← h.mem_found]
  constructor
  · rintro (hj | ⟨i, hi, k, hk, hj⟩)
    · exact .inl hj
    · rcases h.closed k ((h.mem_found k).mpr ⟨i, hi, hk⟩) with hfresh | hclosed
      · exact .inr ⟨k, hfresh, hj⟩
      · exact .inl (hclosed j hj)
  · rintro (hj | ⟨k, hk, hj⟩)
    · exact .inl hj
    · obtain ⟨i, hi, hik⟩ := (h.mem_found k).mp (h.fresh_subset hk)
      exact .inr ⟨i, hi, k, hik, hj⟩

/-- A round of the search. -/
theorem Searched.round (h : Searched R start rounds fresh found) {new : List Nat}
    (hnew : ∀ j, j ∈ new ↔ (∃ i ∈ fresh, R i j) ∧ j ∉ found) :
    Searched R start (rounds + 1) new (found ++ new) where
  mem_found j := by
    rw [h.within_succ_iff, List.mem_append, hnew]
    tauto
  fresh_subset := List.subset_append_right _ _
  closed i hi := by
    rcases List.mem_append.mp hi with hi | hi
    · refine .inr fun j hj => ?_
      rcases h.closed i hi with hfresh | hclosed
      · rw [List.mem_append, hnew]
        by_cases hfound : j ∈ found
        · exact .inl hfound
        · exact .inr ⟨⟨i, hfresh, hj⟩, hfound⟩
      · exact List.mem_append_left _ (hclosed j hj)
    · exact .inl hi

/-- Where a round adds nothing, no later one would. -/
theorem Searched.within_of_nothing_new (h : Searched R start rounds fresh found)
    (hnew : ∀ j, (∃ i ∈ fresh, R i j) → j ∈ found) (n : Nat) :
    Searched R start (rounds + n) fresh found := by
  induction n with
  | zero => exact h
  | succ n ih =>
    refine ⟨fun j => ?_, h.fresh_subset, h.closed⟩
    rw [← Nat.add_assoc, ih.within_succ_iff, or_iff_left_of_imp (hnew j)]

theorem mem_reach (hstep : Follows R size step) (hR : StaysIn R size)
    (hstart : ∀ i ∈ start, i ≤ size) (h : Searched R start rounds fresh found) (n j : Nat) :
    j ∈ reach step n fresh found ↔ ∃ i ∈ start, Within R (rounds + n) i j := by
  -- on the rounds that are left; those that are done are in the invariant
  induction n generalizing rounds fresh found with
  | zero => exact h.mem_found j
  | succ n ih =>
    have hfresh : ∀ i ∈ fresh, i ≤ size := fun i hi => by
      obtain ⟨k, hk, n, -, hsteps⟩ := (h.mem_found i).mp (h.fresh_subset hi)
      exact hsteps.le hR (hstart k hk)
    have hnew : ∀ j, j ∈ (step fresh).filter (fun place => !found.contains place) ↔
        (∃ i ∈ fresh, R i j) ∧ j ∉ found := fun j => by
      simp [hstep fresh hfresh j]
    rw [reach]
    split
    · next hempty =>
      rw [List.isEmpty_iff] at hempty
      have hnothing : ∀ j, (∃ i ∈ fresh, R i j) → j ∈ found := fun j hj => by
        by_contra hfound
        have hj := (hnew j).mpr ⟨hj, hfound⟩
        rw [hempty] at hj
        exact List.not_mem_nil hj
      exact (h.within_of_nothing_new hnothing (n + 1)).mem_found j
    · rw [ih (h.round hnew), Nat.add_right_comm, Nat.add_assoc]

end Repetition

/-! ### The meaning of patterns -/

/-- A match of the pattern can go from one place of a text to another. Where fewer repetitions
are allowed than are asked for, exactly as many as are asked for count. -/
def Leads (text : Array Char) : Pattern → Nat → Nat → Prop
  | empty, i, j => i = j
  | one holds, i, j => (∃ c, text[i]? = some c ∧ holds c = true) ∧ j = i + 1
  | look condition, i, j => holdsAt text condition i = true ∧ i = j
  | concat first second, i, j => ∃ k, Leads text first i k ∧ Leads text second k j
  | alternate first second, i, j => Leads text first i j ∨ Leads text second i j
  | repeated body least most, i, j =>
    ∃ n, least ≤ n ∧ (∀ bound ∈ most, n ≤ max least bound) ∧ Steps (Leads text body) n i j

variable {text : Array Char}

theorem staysIn_leads (text : Array Char) (p : Pattern) : StaysIn (p.Leads text) text.size := by
  induction p with
  | empty =>
    rintro i j hi rfl
    exact hi
  | one holds =>
    rintro i j - ⟨⟨c, hc, -⟩, rfl⟩
    obtain ⟨hlt, -⟩ := Array.getElem?_eq_some_iff.mp hc
    exact hlt
  | look condition =>
    rintro i j hi ⟨-, rfl⟩
    exact hi
  | concat first second ihfirst ihsecond =>
    rintro i j hi ⟨k, hk, hj⟩
    exact ihsecond k j (ihfirst i k hi hk) hj
  | alternate first second ihfirst ihsecond =>
    rintro i j hi (hj | hj)
    · exact ihfirst i j hi hj
    · exact ihsecond i j hi hj
  | repeated body least most ih =>
    rintro i j hi ⟨n, -, -, hsteps⟩
    exact hsteps.le ih hi

/-- Repetition in two parts, as the matcher does it: the least number of times, and then no more
often than is allowed and than there are places. -/
theorem leads_repeated_iff {body : Pattern} {least : Nat} {most : Option Nat} {i j : Nat}
    (hi : i ≤ text.size) :
    (repeated body least most).Leads text i j ↔
      ∃ k, Steps (body.Leads text) least i k ∧
        Within (body.Leads text) (match most with
          | some most => min (most - least) (text.size + 1)
          | none => text.size + 1) k j := by
  have hR := staysIn_leads text body
  constructor
  · rintro ⟨n, hleast, hmost, hsteps⟩
    obtain ⟨more, rfl⟩ := Nat.exists_eq_add_of_le hleast
    obtain ⟨k, hk, hj⟩ := steps_add.mp hsteps
    refine ⟨k, hk, ?_⟩
    have hplaces := within_of_steps hR (hk.le hR hi) hj
    cases most with
    | none => exact hplaces
    | some most =>
      have hmore := hmost most rfl
      rcases Nat.le_total (most - least) (text.size + 1) with hle | hle
      · exact ⟨more, by simp only; omega, hj⟩
      · simpa only [Nat.min_eq_right hle] using hplaces
  · rintro ⟨k, hk, more, hmore, hj⟩
    refine ⟨least + more, Nat.le_add_right _ _, ?_, steps_add.mpr ⟨k, hk, hj⟩⟩
    rintro bound hbound
    cases hbound
    simp only at hmore
    omega

/-- **The matcher finds every end of a match and no other place.** -/
theorem mem_ends (p : Pattern) : Follows (p.Leads text) text.size (p.ends text) := by
  induction p with
  | empty => intro places _ j; simp [ends, Leads]
  | one holds =>
    intro places _ j
    simp only [ends, List.mem_map, List.mem_filter, Option.any_eq_true, Leads]
    grind
  | look condition => intro places _ j; simp [ends, Leads]
  | concat first second ihfirst ihsecond =>
    intro places hplaces j
    rw [ends, ihsecond _ (ihfirst.le (staysIn_leads text first) hplaces)]
    simp only [ihfirst places hplaces, Leads]
    grind
  | alternate first second ihfirst ihsecond =>
    intro places hplaces j
    have hunion : j ∈ (alternate first second).ends text places ↔
        j ∈ first.ends text places ∨ j ∈ second.ends text places := by
      simp only [ends, List.mem_append, List.mem_filter, Bool.not_eq_true', List.contains_eq_mem,
        decide_eq_false_iff_not]
      tauto
    rw [hunion, ihfirst places hplaces, ihsecond places hplaces]
    simp only [Leads, and_or_left, exists_or]
  | repeated body least most ih =>
    intro places hplaces j
    have hR := staysIn_leads text body
    -- the search starts behind the repetitions that are asked for
    have hstart : ∀ k ∈ iterate (body.ends text) least places, k ≤ text.size := fun k hk => by
      obtain ⟨i, hi, hsteps⟩ := (mem_iterate ih hR hplaces least k).mp hk
      exact hsteps.le hR (hplaces i hi)
    refine (mem_reach ih hR hstart (searched_start _ _) _ j).trans ?_
    rw [Nat.zero_add]
    simp only [mem_iterate ih hR hplaces]
    constructor
    · rintro ⟨k, ⟨i, hi, hk⟩, hj⟩
      exact ⟨i, hi, (leads_repeated_iff (hplaces i hi)).mpr ⟨k, hk, hj⟩⟩
    · rintro ⟨i, hi, hij⟩
      obtain ⟨k, hk, hj⟩ := (leads_repeated_iff (hplaces i hi)).mp hij
      exact ⟨k, ⟨i, hi, hk⟩, hj⟩

theorem isWholeMatch_iff (p : Pattern) (text : List Char) :
    p.isWholeMatch text = true ↔ p.Leads text.toArray 0 text.length := by
  rw [isWholeMatch, List.contains_iff_mem, mem_ends p [0] (by simp)]
  simp

/-- Some stretch of a text matches where a match leads from one of its places to another. -/
theorem isMatch_iff (p : Pattern) (text : String) :
    p.isMatch text = true ↔
      ∃ i ≤ text.toList.length, ∃ j, p.Leads text.toList.toArray i j := by
  have hplaces : ∀ i ∈ List.range (text.toList.toArray.size + 1), i ≤ text.toList.toArray.size :=
    fun i hi => Nat.lt_succ_iff.mp (List.mem_range.mp hi)
  have hends := mem_ends p _ hplaces
  rw [isMatch, Bool.not_eq_true', List.isEmpty_eq_false_iff_exists_mem]
  constructor
  · rintro ⟨j, hj⟩
    obtain ⟨i, hi, hij⟩ := (hends j).mp hj
    exact ⟨i, hplaces i hi, j, hij⟩
  · rintro ⟨i, hi, j, hij⟩
    exact ⟨j, (hends j).mpr ⟨i, List.mem_range.mpr (Nat.lt_succ_of_le hi), hij⟩⟩

/-! ### Patterns made of others -/

section

variable {i j : Nat}

theorem leads_concat {first second : Pattern} :
    (concat first second).Leads text i j ↔ ∃ k, first.Leads text i k ∧ second.Leads text k j :=
  Iff.rfl

theorem leads_alternate {first second : Pattern} :
    (alternate first second).Leads text i j ↔ first.Leads text i j ∨ second.Leads text i j :=
  Iff.rfl

theorem leads_one {holds : Char → Bool} :
    (one holds).Leads text i j ↔ (∃ c, text[i]? = some c ∧ holds c = true) ∧ j = i + 1 :=
  Iff.rfl

theorem leads_many {holds : Char → Bool} :
    (many holds).Leads text i j ↔ ∃ n, Steps ((one holds).Leads text) n i j := by
  simp [many, Leads]

theorem leads_just {c : Char} : (just c).Leads text i j ↔ text[i]? = some c ∧ j = i + 1 := by
  simp [just, Leads]

theorem leads_sequence_cons {p : Pattern} {ps : List Pattern} :
    (sequence (p :: ps)).Leads text i j ↔ ∃ k, p.Leads text i k ∧ (sequence ps).Leads text k j :=
  Iff.rfl

/-- A word in front of a sequence stands in the text as it is. -/
theorem leads_sequence_word {word : List Char} {ps : List Pattern} :
    (sequence (word.map just ++ ps)).Leads text i j ↔
      word <+: text.toList.drop i ∧ (sequence ps).Leads text (i + word.length) j := by
  induction word generalizing i with
  | nil => simp
  | cons c word ih =>
    have hhead : c :: word <+: text.toList.drop i ↔
        text[i]? = some c ∧ word <+: text.toList.drop (i + 1) := by
      rw [← Array.getElem?_toList, ← List.tail_drop, ← List.head?_drop]
      cases text.toList.drop i <;> simp [List.cons_prefix_cons, eq_comm]
    simp only [List.map_cons, List.cons_append, leads_sequence_cons, leads_just, ih, hhead,
      List.length_cons]
    constructor
    · rintro ⟨k, ⟨hc, rfl⟩, hword, hrest⟩
      exact ⟨⟨hc, hword⟩, by rwa [Nat.add_right_comm] at hrest⟩
    · rintro ⟨⟨hc, hword⟩, hrest⟩
      exact ⟨i + 1, ⟨hc, rfl⟩, hword, by rwa [Nat.add_right_comm]⟩

/-- Characters of a class, one after the other, are all those between two places. -/
theorem steps_one {holds : Char → Bool} {n : Nat} :
    Steps ((one holds).Leads text) n i j ↔
      j = i + n ∧ ∀ k < n, ∃ c, text[i + k]? = some c ∧ holds c = true := by
  induction n generalizing i with
  | zero =>
    refine ⟨fun h => ⟨Eq.symm h, fun k hk => absurd hk (Nat.not_lt_zero k)⟩, fun h => h.1.symm⟩
  | succ n ih =>
    simp only [Steps, leads_one, ih]
    constructor
    · rintro ⟨_, ⟨hfirst, rfl⟩, rfl, hrest⟩
      refine ⟨by omega, fun k hk => ?_⟩
      cases k with
      | zero => exact hfirst
      | succ k =>
        rw [← Nat.add_assoc, Nat.add_right_comm]
        exact hrest k (by omega)
    · rintro ⟨rfl, hall⟩
      refine ⟨i + 1, ⟨hall 0 (by omega), rfl⟩, by omega, fun k hk => ?_⟩
      rw [Nat.add_assoc, Nat.add_comm 1]
      exact hall (k + 1) (by omega)

theorem steps_any {n : Nat} (hi : i ≤ text.size) :
    Steps ((one fun _ => true).Leads text) n i j ↔ j = i + n ∧ j ≤ text.size := by
  rw [steps_one]
  refine and_congr_right fun hj => ⟨fun hall => ?_, fun hle k hk => ?_⟩
  · cases n with
    | zero => omega
    | succ n =>
      obtain ⟨c, hc, -⟩ := hall n (by omega)
      have hlt := (Array.getElem?_eq_some_iff.mp hc).1
      omega
  · exact ⟨text[i + k], Array.getElem?_eq_getElem _, rfl⟩

theorem leads_anything (hi : i ≤ text.size) :
    anything.Leads text i j ↔ i ≤ j ∧ j ≤ text.size := by
  simp only [anything, leads_many, steps_any hi]
  constructor
  · rintro ⟨n, rfl, hj⟩
    exact ⟨Nat.le_add_right i n, hj⟩
  · rintro ⟨hij, hj⟩
    exact ⟨j - i, by omega, hj⟩

theorem leads_textStart (hi : i ≤ text.size) :
    (look .textStart).Leads text i j ↔ i = 0 ∧ i = j := by
  simp only [Leads, holdsAt, Look.holds, Option.isNone_iff_eq_none]
  split
  · simp_all
  · simp only [Array.getElem?_eq_none_iff]
    omega

theorem leads_textEnd (hi : i ≤ text.size) :
    (look .textEnd).Leads text i j ↔ i = text.size ∧ i = j := by
  simp only [Leads, holdsAt, Look.holds, Option.isNone_iff_eq_none, Array.getElem?_eq_none_iff]
  omega

end

end TerraLint.Pattern
