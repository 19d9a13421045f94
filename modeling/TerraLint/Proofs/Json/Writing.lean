import TerraLint.Proofs.Json.Reading

/-!
# Values are written

The text of a value over several lines writes the value in the sense of the grammar
(`TerraLint.Json.IsPlain.isText_pretty`), if the value is one that a text can write: its
numbers are counts, and its strings are texts. Line feeds and the blanks in front of a line
are gaps of the grammar, so the depth at which a value stands does not matter.
-/

namespace TerraLint.Json

/-- **Values that a text can write**: numbers are counts, and strings are texts. -/
inductive IsPlain : Json → Prop
  | null : IsPlain .null
  | bool (value : Bool) : IsPlain (.bool value)
  | nat (n : Nat) : IsPlain (.nat n)
  | string (text : String) : IsPlain (.string text)
  | array {items : List Json} : (∀ v ∈ items, IsPlain v) → IsPlain (.array items)
  | object {fields : List (String × Json)} : (∀ f ∈ fields, IsPlain f.2) → IsPlain (.object fields)

theorem prettyItems_eq (depth : Nat) (items : List Json) :
    prettyItems depth items = items.map (prettyAt (depth + 1)) := by
  induction items with
  | nil => rfl
  | cons v items ih => rw [prettyItems, ih, List.map_cons]

theorem prettyFields_eq (depth : Nat) (fields : List (String × Json)) :
    prettyFields depth fields =
      fields.map fun f => quote f.1 ++ ": " ++ prettyAt (depth + 1) f.2 := by
  induction fields with
  | nil => rfl
  | cons f fields ih => rw [prettyFields, ih, List.map_cons]

theorem Gap.cons {text rest : List Char} (h : Gap text rest) {c : Char} (hc : IsBlank c) :
    Gap (c :: text) rest := by
  obtain ⟨front, hfront, rfl⟩ := h
  exact ⟨c :: front, List.forall_mem_cons.mpr ⟨hc, hfront⟩, rfl⟩

theorem gap_indent (depth : Nat) (rest : List Char) : Gap ((indent depth).toList ++ rest) rest := by
  refine ⟨_, fun c hc => ?_, rfl⟩
  rw [indent, String.toList_ofList] at hc
  exact .inl (List.eq_of_mem_replicate hc)

/-- The text of lines between brackets, behind the first line feed. -/
def linesText (depth : Nat) (lines : List String) (rest : List Char) : List Char :=
  [',', '\n'].intercalate (lines.map fun line => (indent (depth + 1)).toList ++ line.toList) ++
    '\n' :: ((indent depth).toList ++ rest)

theorem toList_bracket_nil (depth : Nat) (opening closing : String) (rest : List Char) :
    (bracket depth opening closing []).toList ++ rest =
      opening.toList ++ (closing.toList ++ rest) := by
  rw [bracket, String.toList_append, List.append_assoc]

theorem toList_bracket_cons (depth : Nat) (opening closing line : String) (lines : List String)
    (rest : List Char) : (bracket depth opening closing (line :: lines)).toList ++ rest =
      opening.toList ++ '\n' :: linesText depth (line :: lines) (closing.toList ++ rest) := by
  rw [bracket]
  · simp only [linesText, String.toList_append, String.toList_intercalate, List.map_map,
      Function.comp_def, String.reduceToList, List.append_assoc, List.cons_append, List.nil_append]
  · simp

theorem linesText_singleton (depth : Nat) (line : String) (rest : List Char) :
    linesText depth [line] rest = (indent (depth + 1)).toList ++ (line.toList ++
      '\n' :: ((indent depth).toList ++ rest)) := by
  simp [linesText]

theorem linesText_cons_cons (depth : Nat) (line line' : String) (lines : List String)
    (rest : List Char) : linesText depth (line :: line' :: lines) rest =
      (indent (depth + 1)).toList ++ (line.toList ++
        ',' :: '\n' :: linesText depth (line' :: lines) rest) := by
  simp [linesText]

/-- **Items over several lines** are written behind the bracket. -/
theorem exists_writesItems {depth : Nat} {items : List Json} (hne : items ≠ [])
    (h : ∀ v ∈ items, ∀ rest, Writes v ((prettyAt (depth + 1) v).toList ++ rest) rest)
    (rest : List Char) :
    ∃ first, Gap (linesText depth (items.map (prettyAt (depth + 1))) (']' :: rest)) first ∧
      WritesItems items first rest := by
  induction items with
  | nil => exact absurd rfl hne
  | cons v items ih =>
    obtain ⟨hv, hitems⟩ := List.forall_mem_cons.mp h
    cases items with
    | nil =>
      rw [List.map_singleton, linesText_singleton]
      exact ⟨_, gap_indent _ _, .last (hv _) ((gap_indent _ _).cons (.inr (.inl rfl)))⟩
    | cons w items =>
      obtain ⟨next, hgap, hmore⟩ := ih (List.cons_ne_nil w items) hitems
      rw [List.map_cons, List.map_cons, linesText_cons_cons]
      rw [List.map_cons] at hgap
      exact ⟨_, gap_indent _ _, .more (hv _) (.refl _) (hgap.cons (.inr (.inl rfl))) hmore⟩

/-- **Fields over several lines** are written behind the brace. -/
theorem exists_writesFields {depth : Nat} {fields : List (String × Json)} (hne : fields ≠ [])
    (h : ∀ f ∈ fields, ∀ rest, Writes f.2 ((prettyAt (depth + 1) f.2).toList ++ rest) rest)
    (rest : List Char) :
    ∃ first, Gap (linesText depth (fields.map fun f =>
        quote f.1 ++ ": " ++ prettyAt (depth + 1) f.2) ('}' :: rest)) first ∧
      WritesFields fields first rest := by
  have hkey : ∀ (f : String × Json) (left : List Char), WritesKey f.1
      ((quote f.1 ++ ": " ++ prettyAt (depth + 1) f.2).toList ++ left)
      (' ' :: ((prettyAt (depth + 1) f.2).toList ++ left)) := by
    intro f left
    refine ⟨_, ?_, .refl _⟩
    simp only [String.toList_append, String.reduceToList, List.append_assoc, List.cons_append,
      List.nil_append]
  induction fields with
  | nil => exact absurd rfl hne
  | cons f fields ih =>
    obtain ⟨hf, hfields⟩ := List.forall_mem_cons.mp h
    have hvalue : ∀ left : List Char, Gap (' ' :: ((prettyAt (depth + 1) f.2).toList ++ left))
        ((prettyAt (depth + 1) f.2).toList ++ left) := fun left => (Gap.refl _).cons (.inl rfl)
    cases fields with
    | nil =>
      rw [List.map_singleton, linesText_singleton]
      exact ⟨_, gap_indent _ _, .last (hkey f _) (hvalue _) (hf _)
        ((gap_indent _ _).cons (.inr (.inl rfl)))⟩
    | cons g fields =>
      obtain ⟨next, hgap, hmore⟩ := ih (List.cons_ne_nil g fields) hfields
      rw [List.map_cons, List.map_cons, linesText_cons_cons]
      rw [List.map_cons] at hgap
      exact ⟨_, gap_indent _ _, .more (hkey f _) (hvalue _) (hf _) (.refl _)
        (hgap.cons (.inr (.inl rfl))) hmore⟩

/-- **A plain value is written** at every depth. -/
theorem IsPlain.writes {v : Json} (h : IsPlain v) : ∀ (depth : Nat) (rest : List Char),
    Writes v ((prettyAt depth v).toList ++ rest) rest := by
  induction h with
  | null => exact fun _ _ => .token .null
  | bool value =>
    cases value with
    | true => exact fun _ _ => .token .ofTrue
    | false => exact fun _ _ => .token .ofFalse
  | nat n => exact fun _ _ => .token (.nat n)
  | string text => exact fun _ _ => .token (.string text)
  | @array items _ ih =>
    intro depth rest
    rw [prettyAt, prettyItems_eq]
    cases items with
    | nil =>
      rw [List.map_nil, toList_bracket_nil]
      exact .emptyArray (.refl _)
    | cons v items =>
      obtain ⟨first, hgap, hitems⟩ := exists_writesItems (List.cons_ne_nil v items)
        (fun w hw => ih w hw (depth + 1)) rest
      rw [List.map_cons, toList_bracket_cons]
      exact .array (hgap.cons (.inr (.inl rfl))) hitems
  | @object fields _ ih =>
    intro depth rest
    rw [prettyAt, prettyFields_eq]
    cases fields with
    | nil =>
      rw [List.map_nil, toList_bracket_nil]
      exact .emptyObject (.refl _)
    | cons f fields =>
      obtain ⟨first, hgap, hfields⟩ := exists_writesFields (List.cons_ne_nil f fields)
        (fun g hg => ih g hg (depth + 1)) rest
      rw [List.map_cons, toList_bracket_cons]
      exact .object (hgap.cons (.inr (.inl rfl))) hfields

theorem IsPlain.isText_pretty {v : Json} (h : IsPlain v) : IsText v (pretty v) := by
  refine ⟨_, [], .refl _, ?_, .refl _⟩
  simpa [pretty] using h.writes 0 []

end TerraLint.Json
