import TerraLint.Proofs.Decoding.Outline

/-!
# Parsers that mark what they read

A parser goes from one input to another. What has to be known about the way it goes
is a relation between the two inputs, graded by the spots that are met on the way
(`TerraLint.Graded`): nothing is met on the empty way, and on two ways, one behind
the other, the spots of both are met.

`TerraLint.Parser.Marks` is a triple in the manner of Hoare for such a relation.
The spots met so far are written in front of the parser, and those met up to now
behind it, as a function of the value that it gives; so a parser is followed step
by step, and the value must tell all the spots in the end. There is one rule for
each way to put parsers together. For a step that depends on what is left to read,
`TerraLint.Parser.MarksAt` is the triple at one input.
-/

namespace TerraLint

/-- A relation between inputs, graded by the spots met between them, that can be put end to
end. -/
class Graded (R : List Spot → Input → Input → Prop) : Prop where
  refl : ∀ i, R [] i i
  trans : ∀ {a b i j k}, R a i j → R b j k → R (a ++ b) i k

namespace Parser

variable {α β σ : Type} {R : List Spot → Input → Input → Prop}

theorem bind_eq_some {p : Parser α} {f : α → Parser β} {i k : Input} {b : β} :
    (p >>= f) i = some (b, k) ↔ ∃ a j, p i = some (a, j) ∧ f a j = some (b, k) := by
  change ((p i).bind fun x => f x.1 x.2) = some (b, k) ↔ _
  simp [Option.bind_eq_some_iff]

theorem pure_eq_some {a b : α} {i j : Input} :
    (pure a : Parser α) i = some (b, j) ↔ a = b ∧ i = j := by
  change some (a, i) = some (b, j) ↔ _
  simp

theorem rest_eq_some {text : List Char} {i j : Input} :
    rest i = some (text, j) ↔ i.text = text ∧ i = j := by
  simp [rest]

theorem position_eq_some {byte : Nat} {i j : Input} :
    position i = some (byte, j) ↔ i.byte = byte ∧ i = j := by
  simp [position]

theorem peek_eq_some {c : Option Char} {i j : Input} :
    peek i = some (c, j) ↔ i.text.head? = c ∧ i = j := by
  simp [peek]

theorem atEnd_eq_some {b : Bool} {i j : Input} :
    atEnd i = some (b, j) ↔ i.text.isEmpty = b ∧ i = j := by
  change some (i.text.isEmpty, i) = some (b, j) ↔ _
  simp

theorem require_eq_some {condition : Bool} {u : Unit} {i j : Input} :
    require condition i = some (u, j) ↔ condition = true ∧ i = j := by
  cases condition <;> simp [require, fail, pure_eq_some]

/-- **An invariant of a loop** holds where the loop ends. -/
theorem loop_invariant {step : σ → Parser (σ ⊕ α)} (invariant : σ → Input → Prop)
    (post : α → Input → Prop)
    (hstep : ∀ s i r j, invariant s i → step s i = some (r, j) →
      Sum.elim (invariant · j) (post · j) r)
    {s : σ} {i j : Input} {a : α} (hs : invariant s i) (h : loop step s i = some (a, j)) :
    post a j := by
  -- the fuel bounds the number of steps; what a step keeps does not depend on it
  have hfor : ∀ (fuel : List Char) (s : σ) (i : Input), invariant s i →
      loopFor step fuel s i = some (a, j) → post a j := by
    intro fuel
    induction fuel with
    | nil =>
      intro s i hs hrun
      unfold loopFor at hrun
      obtain ⟨r, k, hr, hrun⟩ := bind_eq_some.mp hrun
      have hnext := hstep s i r k hs hr
      cases r with
      | inl s => simp [fail] at hrun
      | inr b =>
        obtain ⟨rfl, rfl⟩ := pure_eq_some.mp hrun
        exact hnext
    | cons _ fuel ih =>
      intro s i hs hrun
      unfold loopFor at hrun
      obtain ⟨r, k, hr, hrun⟩ := bind_eq_some.mp hrun
      have hnext := hstep s i r k hs hr
      cases r with
      | inl s => exact ih s k hnext hrun
      | inr b =>
        obtain ⟨rfl, rfl⟩ := pure_eq_some.mp hrun
        exact hnext
  exact hfor i.text s i hs h

/-- **A parser marks spots**: run at `i`, where the spots `pre` have been met, it gives a
value whose spots are `pre` and those met by the parser. -/
def MarksAt (R : List Spot → Input → Input → Prop) (pre : List Spot) (p : Parser α)
    (post : α → List Spot) (i : Input) : Prop :=
  ∀ a j, p i = some (a, j) → ∃ spots, post a = pre ++ spots ∧ R spots i j

/-- The same at every input. -/
def Marks (R : List Spot → Input → Input → Prop) (pre : List Spot) (p : Parser α)
    (post : α → List Spot) : Prop :=
  ∀ i, MarksAt R pre p post i

/-- A parser that is run where nothing has been met yet. -/
theorem Marks.run {p : Parser α} {post : α → List Spot} (h : Marks R [] p post) {i j : Input}
    {a : α} (hrun : p i = some (a, j)) : R (post a) i j := by
  obtain ⟨spots, hpost, hR⟩ := h i a j hrun
  rwa [hpost]

theorem marks_fail {pre : List Spot} {post : α → List Spot} : Marks R pre fail post := by
  intro i a j hrun
  simp [fail] at hrun

/-! At an input, what is left to read can be used as it is. -/

theorem MarksAt.rest {pre : List Spot} {f : List Char → Parser α} {post : α → List Spot}
    {i : Input} (h : MarksAt R pre (f i.text) post i) :
    MarksAt R pre (Parser.rest >>= f) post i := h

theorem MarksAt.peek {pre : List Spot} {f : Option Char → Parser α} {post : α → List Spot}
    {i : Input} (h : MarksAt R pre (f i.text.head?) post i) :
    MarksAt R pre (Parser.peek >>= f) post i := h

section Rules

variable [Graded R] {pre : List Spot} {post : α → List Spot}

theorem MarksAt.bind {p : Parser α} {f : α → Parser β} {mid : α → List Spot}
    {post : β → List Spot} {i : Input} (hp : MarksAt R pre p mid i)
    (hf : ∀ a j, p i = some (a, j) → MarksAt R (mid a) (f a) post j) :
    MarksAt R pre (p >>= f) post i := by
  intro b k hrun
  obtain ⟨a, j, hfirst, hsecond⟩ := bind_eq_some.mp hrun
  obtain ⟨s, hs, hij⟩ := hp a j hfirst
  obtain ⟨t, ht, hjk⟩ := hf a j hfirst b k hsecond
  exact ⟨s ++ t, by rw [ht, hs, List.append_assoc], Graded.trans hij hjk⟩

theorem MarksAt.andThen {p : Parser α} {f : α → Parser β} {mid : α → List Spot}
    {post : β → List Spot} {i : Input} (hp : MarksAt R pre p mid i)
    (hf : ∀ a, Marks R (mid a) (f a) post) : MarksAt R pre (p >>= f) post i :=
  hp.bind fun a j _ => hf a j

theorem Marks.bind {p : Parser α} {f : α → Parser β} {mid : α → List Spot}
    {post : β → List Spot} (hp : Marks R pre p mid)
    (hf : ∀ a, Marks R (mid a) (f a) post) : Marks R pre (p >>= f) post :=
  fun i => (hp i).andThen hf

theorem marks_pure {a : α} (h : post a = pre) : Marks R pre (pure a) post := by
  intro i b j hrun
  obtain ⟨rfl, rfl⟩ := pure_eq_some.mp hrun
  exact ⟨[], by simp [h], Graded.refl i⟩

/-- A parser that reads nothing marks nothing. -/
theorem marks_of_still {p : Parser α} (h : ∀ i a j, p i = some (a, j) → j = i) :
    Marks R pre p fun _ => pre := by
  intro i a j hrun
  obtain rfl := h i a j hrun
  exact ⟨[], by simp, Graded.refl j⟩

theorem marks_rest : Marks R pre rest fun _ => pre :=
  marks_of_still fun _ _ _ h => (rest_eq_some.mp h).2.symm

theorem marks_peek : Marks R pre peek fun _ => pre :=
  marks_of_still fun _ _ _ h => (peek_eq_some.mp h).2.symm

theorem marks_startsWith {w : String} : Marks R pre (startsWith w) fun _ => pre :=
  marks_rest.bind fun _ => marks_pure rfl

theorem marks_atEnd : Marks R pre atEnd fun _ => pre :=
  marks_of_still fun _ _ _ h => (atEnd_eq_some.mp h).2.symm

theorem marks_require {condition : Bool} : Marks R pre (require condition) fun _ => pre :=
  marks_of_still fun _ _ _ h => (require_eq_some.mp h).2.symm

theorem MarksAt.require {condition : Bool} {q : Parser α} {i : Input}
    (h : condition = true → MarksAt R pre q post i) :
    MarksAt R pre (Parser.require condition >>= fun _ => q) post i := by
  refine (marks_require i).bind fun _ j hrun => ?_
  obtain ⟨hcondition, rfl⟩ := require_eq_some.mp hrun
  exact h hcondition

theorem marks_ofOption {o : Option α} : Marks R pre (ofOption o) fun _ => pre := by
  cases o with
  | none => exact marks_fail
  | some a => exact marks_pure rfl

/-- A parser that goes back when it gives nothing has met nothing then. -/
theorem Marks.attempt {p : Parser (Option α)} {post : Option α → List Spot}
    (hp : Marks R pre p post) (hnone : post none = pre) : Marks R pre (attempt p) post := by
  intro i o j hrun
  unfold Parser.attempt at hrun
  split at hrun
  · rename_i a left hfound
    obtain ⟨rfl, rfl⟩ : some a = o ∧ left = j := by simpa using hrun
    exact hp i _ _ hfound
  · obtain ⟨rfl, rfl⟩ : none = o ∧ i = j := by simpa using hrun
    exact ⟨[], by simp [hnone], Graded.refl i⟩
  · simp at hrun

/-- **A loop marks what its steps mark**: the state tells the spots met so far. -/
theorem Marks.loop {step : σ → Parser (σ ⊕ α)} (met : σ → List Spot)
    (h : ∀ s, Marks R (met s) (step s) (Sum.elim met post)) {s : σ} (hs : met s = pre) :
    Marks R pre (loop step s) post := by
  subst hs
  intro i a j hrun
  refine loop_invariant (fun t k => ∃ spots, met t = met s ++ spots ∧ R spots i k)
    (fun a k => ∃ spots, post a = met s ++ spots ∧ R spots i k) ?_ ⟨[], by simp, Graded.refl i⟩ hrun
  rintro t k r l ⟨spots, hmet, hik⟩ hstep
  obtain ⟨more, hmore, hkl⟩ := h t k r l hstep
  have hil := Graded.trans hik hkl
  rw [hmet, List.append_assoc] at hmore
  cases r with
  | inl t => exact ⟨spots ++ more, hmore, hil⟩
  | inr b => exact ⟨spots ++ more, hmore, hil⟩

theorem Marks.collect_still {item : Parser (Option α)} (h : Marks R pre item fun _ => pre) :
    Marks R pre (collect item) fun _ => pre := by
  refine Marks.loop (fun _ => pre) (fun found => h.bind fun o => ?_) rfl
  cases o with
  | none => exact marks_pure rfl
  | some a => exact marks_pure rfl

theorem Marks.collect {item : Parser (Option α)} {spots : α → List Spot}
    (h : ∀ pre, Marks R pre item fun o => pre ++ o.elim [] spots) :
    Marks R pre (collect item) fun as => pre ++ as.flatMap spots := by
  refine Marks.loop (fun found => pre ++ found.reverse.flatMap spots)
    (fun found => (h _).bind fun o => ?_) (by simp)
  cases o with
  | none => exact marks_pure (by simp)
  | some a => exact marks_pure (by simp)

end Rules

/-- A repetition of which not even the first item is there. -/
theorem collect_of_none {item : Parser (Option α)} {i : Input} (h : item i = some (none, i)) :
    collect item i = some ([], i) := by
  rw [collect, loop, loopFor, bind_eq_some]
  exact ⟨.inr [], i, bind_eq_some.mpr ⟨none, i, h, rfl⟩, rfl⟩

end Parser

end TerraLint
