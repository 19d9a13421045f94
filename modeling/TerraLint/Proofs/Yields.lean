import TerraLint.Proofs.Decoding.Marking

/-!
# What parsers yield

Where a parser has to succeed it is followed forwards: `TerraLint.Parser.Yields` says which
value it gives on a text and what it leaves, with one rule for each way to put parsers
together. A loop makes as many steps as the text has characters, so the steps are
followed one by one as long as each leaves less text (`TerraLint.Parser.Loops`).
-/

namespace TerraLint

namespace Parser

variable {α β σ : Type} {text rest left : List Char}

/-- **A parser yields a value**: it reads from the front of a text, wherever that begins, and
leaves the rest. -/
def Yields (p : Parser α) (text : List Char) (a : α) (rest : List Char) : Prop :=
  ∀ byte, ∃ byte', p ⟨byte, text⟩ = some (a, ⟨byte', rest⟩)

theorem yields_pure (a : α) (text : List Char) : Yields (pure a) text a text :=
  fun byte => ⟨byte, rfl⟩

theorem Yields.bind {p : Parser α} {f : α → Parser β} {a : α} {b : β} (hp : Yields p text a rest)
    (hf : Yields (f a) rest b left) : Yields (p >>= f) text b left := by
  intro byte
  obtain ⟨byte', hp⟩ := hp byte
  obtain ⟨byte'', hf⟩ := hf byte'
  exact ⟨byte'', bind_eq_some.mpr ⟨a, _, hp, hf⟩⟩

theorem yields_satisfy {accepts : Char → Bool} {c : Char} (h : accepts c = true)
    (text : List Char) : Yields (satisfy accepts) (c :: text) c text :=
  fun byte => ⟨byte + c.utf8Size, by simp [satisfy, h]⟩

theorem yields_any (c : Char) (text : List Char) : Yields any (c :: text) c text :=
  yields_satisfy rfl text

theorem yields_char (c : Char) (text : List Char) : Yields (char c) (c :: text) () text := by
  unfold char
  exact (yields_satisfy (by simp) text).bind (yields_pure () text)

theorem yields_peek (text : List Char) : Yields peek text text.head? text :=
  fun byte => ⟨byte, rfl⟩

theorem yields_rest (text : List Char) : Yields Parser.rest text text text :=
  fun byte => ⟨byte, rfl⟩

theorem yields_require {condition : Bool} (h : condition = true) (text : List Char) :
    Yields (require condition) text () text := by
  rw [h]
  exact yields_pure () text

theorem yields_ofOption (a : α) (text : List Char) : Yields (ofOption (some a)) text a text :=
  yields_pure a text

theorem yields_skip (front rest : List Char) :
    Yields (skip front.length) (front ++ rest) () rest := by
  induction front with
  | nil => exact yields_pure () rest
  | cons c front ih => exact (yields_any c _).bind ih

theorem yields_startsWith (w : String) (text : List Char) :
    Yields (startsWith w) text (w.toList.isPrefixOf text) text :=
  (yields_rest text).bind (yields_pure _ text)

theorem yields_word (w : String) (rest : List Char) :
    Yields (word w) (w.toList ++ rest) () rest := by
  refine (yields_startsWith w _).bind ((yields_require ?_ _).bind ?_)
  · simp
  · rw [← String.length_toList]
    exact yields_skip w.toList rest

theorem yields_option_true (w : String) (rest : List Char) :
    Yields (option w) (w.toList ++ rest) true rest := by
  refine (yields_startsWith w _).bind ?_
  rw [if_pos (by simp), ← String.length_toList]
  exact (yields_skip w.toList rest).bind (yields_pure true rest)

theorem yields_option_false {w : String} (h : ¬w.toList <+: text) :
    Yields (option w) text false text := by
  refine (yields_startsWith w _).bind ?_
  rw [if_neg (by simpa using h)]
  exact yields_pure false text

theorem yields_takeWhile {accepts : Char → Bool} {front : List Char}
    (hfront : ∀ c ∈ front, accepts c = true) (hrest : ∀ c ∈ rest.head?, accepts c = false) :
    Yields (takeWhile accepts) (front ++ rest) front rest := by
  have htaken : (front ++ rest).takeWhile accepts = front := by
    rw [List.takeWhile_append_of_pos hfront]
    cases rest with
    | nil => simp
    | cons c rest => simp [hrest c rfl]
  intro byte
  exact ⟨byte + byteLength front, by simp [takeWhile, htaken]⟩

/-- **The steps of a loop, one after the other.** A step after which the loop goes on leaves less
text. -/
inductive Loops (step : σ → Parser (σ ⊕ α)) : σ → List Char → α → List Char → Prop
  | done {s : σ} {text rest : List Char} {a : α} :
      Yields (step s) text (.inr a) rest → Loops step s text a rest
  | next {s s' : σ} {text left rest : List Char} {a : α} :
      Yields (step s) text (.inl s') left → left.length < text.length →
      Loops step s' left a rest → Loops step s text a rest

/-- **A loop makes its steps**: the characters of the text are enough for them. -/
theorem Loops.yields {step : σ → Parser (σ ⊕ α)} {s : σ} {a : α} (h : Loops step s text a rest) :
    Yields (loop step s) text a rest := by
  have hfor : ∀ fuel : List Char, text.length ≤ fuel.length →
      Yields (loopFor step fuel s) text a rest := by
    induction h with
    | done hstep =>
      intro fuel _
      rw [loopFor.eq_def]
      exact hstep.bind (yields_pure _ _)
    | next hstep hlt _ ih =>
      intro fuel hfuel
      rw [loopFor.eq_def]
      refine hstep.bind ?_
      cases fuel with
      | nil =>
        rw [List.length_nil] at hfuel
        omega
      | cons c fuel =>
        rw [List.length_cons] at hfuel
        exact ih fuel (by omega)
  intro byte
  exact hfor text le_rfl byte

/-- **What is collected, one after the other.** An item after which more is collected is not
empty. -/
inductive Collects (item : Parser (Option α)) : List Char → List α → List Char → Prop
  | done {text rest : List Char} : Yields item text none rest → Collects item text [] rest
  | next {text left rest : List Char} {a : α} {found : List α} : Yields item text (some a) left →
      left.length < text.length → Collects item left found rest →
      Collects item text (a :: found) rest

/-- A round of a collection, which keeps what has been found so far, the last one first. -/
def collectRound (item : Parser (Option α)) (before : List α) : Parser (List α ⊕ List α) :=
  item >>= fun more => more.elim (pure (.inr before.reverse)) fun a => pure (.inl (a :: before))

theorem collect_eq (item : Parser (Option α)) : collect item = loop (collectRound item) [] := by
  unfold collect
  congr 1
  funext before
  refine congrArg (item >>= ·) ?_
  funext more
  cases more <;> rfl

theorem Collects.yields {item : Parser (Option α)} {found : List α}
    (h : Collects item text found rest) : Yields (collect item) text found rest := by
  have hloops : ∀ before, Loops (collectRound item) before text (before.reverse ++ found) rest := by
    induction h with
    | done hitem =>
      intro before
      rw [List.append_nil]
      exact .done (hitem.bind (yields_pure _ _))
    | next hitem hlt _ ih =>
      intro before
      refine .next (hitem.bind (yields_pure _ _)) hlt ?_
      simpa using ih (_ :: before)
  rw [collect_eq]
  exact (hloops []).yields

end Parser

end TerraLint
