import TerraLint.Proofs.Toml.Reading

/-!
# Settings files in plain style are read

A settings file in plain style is read as what its lines say
(`TerraLint.Toml.read?_writeLines`): a header opens a table, an entry gives a value to a key
of the table that is open, and all else says nothing. What is asked of the lines is that keys
and texts can stand as they are (`TerraLint.Toml.PlainLine.IsSound`).
-/

namespace TerraLint.Toml

open TerraLint.Parser

/-! ### Values -/

namespace PlainValue

/-- Keys and texts can stand as they are, and a key is given once. -/
def IsSound : PlainValue → Prop
  | boolean _ => True
  | string text => IsPlainText text
  | row items => ∀ item ∈ items, IsPlainText item
  | column items => ∀ item ∈ items, IsPlainText item
  | table entries =>
    (∀ e ∈ entries, IsBare e.1 ∧ IsPlainText e.2) ∧ (entries.map Prod.fst).Nodup

instance : DecidablePred IsSound
  | boolean _ => .isTrue trivial
  | string text => inferInstanceAs (Decidable (IsPlainText text))
  | row items => inferInstanceAs (Decidable (∀ item ∈ items, IsPlainText item))
  | column items => inferInstanceAs (Decidable (∀ item ∈ items, IsPlainText item))
  | table entries => inferInstanceAs (Decidable
      ((∀ e ∈ entries, IsBare e.1 ∧ IsPlainText e.2) ∧ (entries.map Prod.fst).Nodup))

/-- **A value in plain style is read**, up to the end of its line. -/
theorem IsSound.yields {v : PlainValue} (h : v.IsSound) (rest : List Char) :
    Yields value (v.write.toList ++ '\n' :: rest) v.toToml ('\n' :: rest) := by
  cases v with
  | boolean b =>
    have hscalar : ∀ text : List Char, ∀ a, text.head? ≠ some '[' → text.head? ≠ some '{' →
        Yields scalar text a ('\n' :: rest) → Yields value text a ('\n' :: rest) := by
      intro text a harray htable hscalar
      exact (yields_option_of_head '[' (by simp) harray).bind
        ((yields_option_of_head '{' (by simp) htable).bind hscalar)
    cases b with
    | true =>
      refine hscalar _ _ (by simp [write]) (by simp [write]) ((yields_rest _).bind ?_)
      exact (yields_word "true" _).bind (yields_pure _ _)
    | false =>
      refine hscalar _ _ (by simp [write]) (by simp [write]) ((yields_rest _).bind ?_)
      exact (yields_word "false" _).bind (yields_pure _ _)
  | string text => exact yields_valueWithin_quote h (by simp) _
  | row items =>
    cases items with
    | nil => simpa [write, toToml] using yields_array_nil isGap_nil ('\n' :: rest)
    | cons item items =>
      have hitems := (isItems_row h).yields isGap_nil ('\n' :: rest)
      simpa [write, toToml] using hitems
  | column items =>
    cases items with
    | nil =>
      have hgap : IsGap ['\n'] := by simp [IsGap]
      simpa [write, toToml] using yields_array_nil hgap ('\n' :: rest)
    | cons item items =>
      have hgap : IsGap ['\n', ' ', ' ', ' ', ' '] := by simp [IsGap, isSpace]
      have hitems := (isItems_column h).yields hgap ('\n' :: rest)
      simpa [write, toToml, itemLine] using hitems
  | table entries =>
    have htext : (write (.table entries)).toList ++ '\n' :: rest =
        '{' :: ' ' :: ((", ".intercalate (entries.map textEntry)).toList ++
          ' ' :: '}' :: '\n' :: rest) := by
      simp [write]
    rw [htext]
    exact yields_table h.1 h.2 _

/-- A value does not begin with a blank. -/
theorem isSpace_head (v : PlainValue) (rest : List Char) :
    ∀ c ∈ (v.write.toList ++ rest).head?, isSpace c = false := by
  cases v with
  | boolean b =>
    cases b
    all_goals
      rintro _ ⟨⟩
      rfl
  | string text => simp [write, toList_quote, isSpace]
  | row | column | table => simp [write, isSpace]

end PlainValue

/-! ### Lines -/

namespace PlainLine

/-- Keys and texts of a line can stand as they are. -/
def IsSound : PlainLine → Prop
  | empty => True
  | remark text => ∀ c ∈ text.toList, isShown c = true
  | header path name => (∀ part ∈ path ++ [name], IsBare part) ∧ path.length + 1 < depthLimit
  | entry key value => IsBare key ∧ value.IsSound

instance : DecidablePred IsSound
  | empty => .isTrue trivial
  | remark text => decidable_of_iff (text.toList.all isShown = true) List.all_eq_true
  | header path name => inferInstanceAs (Decidable
      ((∀ part ∈ path ++ [name], IsBare part) ∧ path.length + 1 < depthLimit))
  | entry key value => inferInstanceAs (Decidable (IsBare key ∧ value.IsSound))

/-- **What a line says**: a header opens a table, and an entry gives a value to a key of the table
that is open. -/
def apply (p : Progress) : PlainLine → Option Progress
  | empty => some p
  | remark _ => some p
  | header path name => (p.node.openTable path name).map fun node => ⟨node, path ++ [name]⟩
  | entry key value =>
    (p.node.assignIn p.current [] key value.toToml).map fun node => { p with node }

theorem yields_header {path : List String} {name : String}
    (h : (header path name).IsSound) {p : Progress} {node : Node}
    (hnode : p.node.openTable path name = some node) (rest : List Char) :
    Yields (line p) ((header path name).write.toList ++ '\n' :: rest)
      (.inl ⟨node, path ++ [name]⟩) rest := by
  set front := (".".intercalate (path ++ [name])).toList with hfront
  have hkey : Yields key (front ++ ']' :: '\n' :: rest) (path, name) (']' :: '\n' :: rest) :=
    yields_key_path h.1 h.2 (by rintro _ ⟨⟩; exact ⟨rfl, by decide⟩)
  have hbracket : Yields (option "[") (front ++ ']' :: '\n' :: rest) false
      (front ++ ']' :: '\n' :: rest) := by
    obtain ⟨c, more, hcons, hc⟩ := exists_cons_path (by simp) h.1
    refine yields_option_of_head '[' (by simp) ?_
    rw [hfront, hcons]
    rintro ⟨⟩
    cases hc
  have hopen : Yields (ofOption (p.node.openTable path name)) rest node rest := by
    rw [hnode]
    exact yields_ofOption node rest
  have htext : (header path name).write.toList ++ '\n' :: rest =
      '[' :: (front ++ ']' :: '\n' :: rest) := by
    simp [write, hfront]
  rw [htext]
  refine (yields_spaces_nil (by rintro _ ⟨⟩; rfl)).bind ((yields_peek _).bind ?_)
  exact (yields_skip ['['] _).bind (hbracket.bind (hkey.bind ((yields_char ']' _).bind
    ((yields_restOfLine (.inl rfl) rest).bind (hopen.bind (yields_pure _ rest))))))

theorem yields_entry {key : String} {value : PlainValue} (h : (entry key value).IsSound)
    {p : Progress} {node : Node}
    (hnode : p.node.assignIn p.current [] key value.toToml = some node) (rest : List Char) :
    Yields (line p) ((entry key value).write.toList ++ '\n' :: rest) (.inl { p with node })
      rest := by
  obtain ⟨hkey, hvalue⟩ := h
  obtain ⟨c, more, hcons, hc⟩ := hkey.exists_cons
  have htext : (entry key value).write.toList ++ '\n' :: rest =
      entryText key (value.write.toList ++ '\n' :: rest) := by
    simp [write, entryText]
  have hhead : (entryText key (value.write.toList ++ '\n' :: rest)).head? = some c := by
    rw [entryText, hcons]
    rfl
  have hassign : Yields (ofOption (p.node.assignIn p.current [] key value.toToml)) rest node
      rest := by
    rw [hnode]
    exact yields_ofOption node rest
  rw [htext]
  refine (yields_spaces_nil ?_).bind ((yields_peek _).bind ?_)
  · rw [hhead]
    rintro _ ⟨⟩
    exact isSpace_of_isKeyChar hc
  · rw [hhead]
    -- a key begins with none of the characters that the other lines begin with
    split
    case h_6 =>
      exact (yields_entryKey hkey isSpaces_nil _).bind ((yields_char '=' _).bind
        ((yields_space (value.isSpace_head _)).bind ((hvalue.yields rest).bind
          ((yields_restOfLine (.inl rfl) rest).bind (hassign.bind (yields_pure _ rest))))))
    case h_1 => next heq => cases heq
    all_goals
      next heq =>
        cases heq
        cases hc

/-- **A line is read as what it says.** -/
theorem IsSound.yields {l : PlainLine} (h : l.IsSound) {p p' : Progress}
    (happly : l.apply p = some p') (rest : List Char) :
    Yields (line p) (l.write.toList ++ '\n' :: rest) (.inl p') rest := by
  cases l with
  | empty =>
    cases happly
    refine (yields_spaces_nil (by rintro _ ⟨⟩; rfl)).bind ((yields_peek _).bind ?_)
    change Yields (do require (← lineBreak); return _) _ _ _
    exact (yields_lineBreak rest).bind ((yields_require rfl rest).bind (yields_pure _ rest))
  | remark text =>
    cases happly
    have hremark : IsRemark ("# ".toList ++ text.toList) := by
      refine .inr ⟨' ' :: text.toList, List.forall_mem_cons.mpr ⟨rfl, h⟩, by simp⟩
    rw [write, String.toList_append]
    refine (yields_spaces_nil (by rintro _ ⟨⟩; rfl)).bind ((yields_peek _).bind ?_)
    exact (yields_restOfLine hremark rest).bind (yields_pure _ rest)
  | header path name =>
    obtain ⟨node, hnode, rfl⟩ := Option.map_eq_some_iff.mp happly
    exact yields_header h hnode rest
  | entry key value =>
    obtain ⟨node, hnode, rfl⟩ := Option.map_eq_some_iff.mp happly
    exact yields_entry h hnode rest

/-- A line in plain style does not begin with a byte order mark. -/
theorem IsSound.head?_ne {l : PlainLine} (h : l.IsSound) (rest : List Char) :
    (l.write.toList ++ '\n' :: rest).head? ≠ some '\uFEFF' := by
  cases l with
  | empty => simp [write]
  | remark | header => simp [write]
  | entry key value =>
    obtain ⟨c, more, hcons, hc⟩ := h.1.exists_cons
    simp only [write, String.toList_append, hcons, List.cons_append]
    rintro ⟨⟩
    cases hc

end PlainLine

theorem toList_writeLines_cons (l : PlainLine) (lines : List PlainLine) :
    (writeLines (l :: lines)).toList = l.write.toList ++ '\n' :: (writeLines lines).toList := by
  simp [writeLines]

/-- **Lines are read one after the other.** -/
theorem loops_lines {lines : List PlainLine} (h : ∀ l ∈ lines, l.IsSound) {p p' : Progress}
    (hlines : lines.foldlM PlainLine.apply p = some p') :
    Loops line p (writeLines lines).toList p'.node [] := by
  induction lines generalizing p with
  | nil =>
    cases hlines
    have hspaces : Yields spaces [] () [] := yields_spaces_nil (by simp)
    exact .done (hspaces.bind ((yields_peek []).bind (yields_pure _ [])))
  | cons l lines ih =>
    obtain ⟨hl, h⟩ := List.forall_mem_cons.mp h
    rw [List.foldlM_cons] at hlines
    obtain ⟨middle, hmiddle, hrest⟩ := Option.bind_eq_some_iff.mp hlines
    rw [toList_writeLines_cons]
    refine .next (hl.yields hmiddle _) ?_ (ih h hrest)
    rw [List.length_append, List.length_cons]
    omega

/-- **A file in plain style is read as what its lines say.** -/
theorem read?_writeLines {lines : List PlainLine} (h : ∀ l ∈ lines, l.IsSound) {p : Progress}
    (hlines : lines.foldlM PlainLine.apply {} = some p) :
    read? (writeLines lines) = some p.node.toToml := by
  have hmark : (writeLines lines).toList.head? ≠ some '\uFEFF' := by
    cases lines with
    | nil => simp [writeLines]
    | cons l lines =>
      rw [toList_writeLines_cons]
      exact (h l List.mem_cons_self).head?_ne _
  obtain ⟨byte, hread⟩ := (loops_lines h hlines).yields 0
  simp only [read?, beq_eq_false_iff_ne.mpr hmark]
  simp [readAll, hread]

end TerraLint.Toml
