import TerraLint.Proofs.Yields
import TerraLint.Toml.Plain
import TerraLint.Toml.Reader

/-!
# The notations of plain style are read

Keys without quotes, texts without escapes, and arrays and tables of texts are read as what
they stand for (`TerraLint.Toml.yields_key_path`, `TerraLint.Toml.yields_valueWithin_quote`,
`TerraLint.Toml.IsItems.yields`, `TerraLint.Toml.yields_table`).

Each reader is followed forwards over the text that it is meant for
(`TerraLint.Parser.Yields`). What is asked of the text behind is only that the reader stops
there.
-/

namespace TerraLint.Toml

open TerraLint.Parser

variable {text rest left front back : List Char} {c : Char}

/-! ### Blanks and ends of lines -/

/-- All characters are blanks inside a line. -/
def IsSpaces (text : List Char) : Prop := ∀ c ∈ text, isSpace c = true

theorem isSpaces_nil : IsSpaces [] := by simp [IsSpaces]

theorem isSpaces_singleton : IsSpaces [' '] := by simp [IsSpaces, isSpace]

theorem yields_spaces (hfront : IsSpaces front) (hrest : ∀ c ∈ rest.head?, isSpace c = false) :
    Yields spaces (front ++ rest) () rest :=
  (yields_takeWhile hfront hrest).bind (yields_pure () rest)

theorem yields_spaces_nil (hrest : ∀ c ∈ rest.head?, isSpace c = false) :
    Yields spaces rest () rest :=
  yields_spaces isSpaces_nil hrest

theorem yields_lineBreak (rest : List Char) : Yields lineBreak ('\n' :: rest) true rest :=
  (yields_option_true "\n" rest).bind (yields_pure true rest)

/-- A word is not there if its first character is not. -/
theorem yields_option_of_head {w : String} (d : Char) (hw : w.toList.head? = some d)
    (hrest : rest.head? ≠ some d) : Yields (option w) rest false rest := by
  refine yields_option_false ?_
  rintro ⟨left, rfl⟩
  rw [List.head?_append, hw] at hrest
  exact hrest rfl

/-- A remark, or nothing. -/
def IsRemark (text : List Char) : Prop :=
  text = [] ∨ ∃ shown, (∀ c ∈ shown, isShown c = true) ∧ text = '#' :: shown

theorem yields_restOfLine (h : IsRemark text) (rest : List Char) :
    Yields restOfLine (text ++ '\n' :: rest) () rest := by
  have hspaces : Yields spaces (text ++ '\n' :: rest) () (text ++ '\n' :: rest) := by
    refine yields_spaces_nil fun c hc => ?_
    rcases h with rfl | ⟨shown, -, rfl⟩
    all_goals
      cases hc
      rfl
  have hcomment : ∃ found, Yields comment (text ++ '\n' :: rest) found ('\n' :: rest) := by
    rcases h with rfl | ⟨shown, hshown, rfl⟩
    · exact ⟨false, (yields_option_of_head '#' (by simp) (by simp)).bind (yields_pure _ _)⟩
    · refine ⟨true, (yields_option_true "#" _).bind ?_⟩
      exact (yields_takeWhile hshown (by rintro _ ⟨⟩; rfl)).bind (yields_pure _ _)
  obtain ⟨found, hcomment⟩ := hcomment
  have hatEnd : Yields atEnd ('\n' :: rest) false ('\n' :: rest) :=
    (yields_rest _).bind (yields_pure _ _)
  exact hspaces.bind (hcomment.bind (hatEnd.bind
    ((yields_lineBreak rest).bind (yields_require rfl rest))))

/-- Blanks and line feeds, as they may stand between the items of an array. -/
def IsGap (text : List Char) : Prop := ∀ c ∈ text, isSpace c = true ∨ c = '\n'

/-- What ends a gap: neither a blank nor a line break nor a remark. -/
def endsGap (c : Char) : Bool := !isSpace c && c != '\n' && c != '\r' && c != '#'

theorem yields_filler_none (h : ∀ c ∈ rest.head?, endsGap c = true) :
    Yields filler rest none rest := by
  refine (yields_peek rest).bind ?_
  cases rest with
  | nil => exact yields_pure none []
  | cons c rest =>
    have hc := h c rfl
    simp only [endsGap, Bool.and_eq_true, Bool.not_eq_true', bne_iff_ne] at hc
    obtain ⟨⟨⟨hspace, hfeed⟩, hreturn⟩, hremark⟩ := hc
    have hbreak : Yields lineBreak (c :: rest) false (c :: rest) :=
      (yields_option_of_head '\n' (by simp) (by simpa using hfeed)).bind
        (yields_option_of_head '\r' (by simp) (by simpa using hreturn))
    simp only [List.head?_cons]
    rw [if_neg (by simp [hspace])]
    exact hbreak.bind (yields_pure none _)

theorem yields_filler_spaces (hc : isSpace c = true) (text : List Char) :
    Yields filler (c :: text) (some ()) (text.dropWhile isSpace) := by
  have hspaces : Yields spaces (c :: text) () (text.dropWhile isSpace) := by
    have hrest : ∀ c ∈ (text.dropWhile isSpace).head?, isSpace c = false := fun d hd => by
      simpa [Option.mem_def.mp hd] using List.head?_dropWhile_not isSpace text
    have htaken : IsSpaces (c :: text.takeWhile isSpace) :=
      List.forall_mem_cons.mpr ⟨hc, fun d => List.mem_takeWhile_imp⟩
    simpa [List.takeWhile_append_dropWhile] using yields_spaces htaken hrest
  refine (yields_peek _).bind ?_
  simp only [List.head?_cons]
  split
  · next heq =>
    obtain rfl := Option.some.inj heq
    cases hc
  · next d _ heq =>
    obtain rfl := Option.some.inj heq
    rw [if_pos hc]
    exact hspaces.bind (yields_pure _ _)
  · next heq => cases heq

theorem yields_filler_lineFeed (rest : List Char) :
    Yields filler ('\n' :: rest) (some ()) rest := by
  refine (yields_peek _).bind ?_
  exact (yields_lineBreak rest).bind (yields_pure _ _)

/-- **A gap is passed over.** -/
theorem yields_fillers {gap : List Char} (hgap : IsGap gap)
    (hrest : ∀ c ∈ rest.head?, endsGap c = true) : Yields fillers (gap ++ rest) () rest := by
  have hspaces : rest.dropWhile isSpace = rest := by
    cases rest with
    | nil => rfl
    | cons c rest =>
      refine List.dropWhile_cons_of_neg ?_
      have hc := hrest c rfl
      simp only [endsGap, Bool.and_eq_true, Bool.not_eq_true'] at hc
      simp [hc]
  have hcollects : ∃ found, Collects filler (gap ++ rest) found rest := by
    -- a filler takes a run of blanks at once, so the induction is on the length of the gap
    induction hn : gap.length using Nat.strong_induction_on generalizing gap with
    | _ n ih =>
      cases gap with
      | nil => exact ⟨[], .done (yields_filler_none hrest)⟩
      | cons c gap =>
        obtain ⟨hc, hbehind⟩ : (isSpace c = true ∨ c = '\n') ∧ IsGap gap :=
          List.forall_mem_cons.mp hgap
        rcases hc with hc | rfl
        · have hdrop : IsGap (gap.dropWhile isSpace) := fun d hd =>
            hbehind d ((List.dropWhile_sublist _).mem hd)
          have hle : (gap.dropWhile isSpace).length ≤ gap.length :=
            (List.dropWhile_sublist _).length_le
          obtain ⟨found, hfound⟩ := ih _ (by rw [← hn, List.length_cons]; omega) hdrop rfl
          have hleft : (gap ++ rest).dropWhile isSpace = gap.dropWhile isSpace ++ rest := by
            rw [List.dropWhile_append]
            split
            · next hnil => rw [List.isEmpty_iff.mp hnil, hspaces, List.nil_append]
            · rfl
          rw [← hleft] at hfound
          refine ⟨() :: found, .next (yields_filler_spaces hc (gap ++ rest)) ?_ hfound⟩
          rw [hleft, List.cons_append, List.length_cons, List.length_append, List.length_append]
          omega
        · obtain ⟨found, hfound⟩ := ih gap.length (by simp [← hn]) hbehind rfl
          exact ⟨_, .next (yields_filler_lineFeed _) (by simp) hfound⟩
  obtain ⟨found, hfound⟩ := hcollects
  exact hfound.yields.bind (yields_pure () rest)

/-! ### Keys -/

/-- A key without quotes. -/
structure IsBare (key : String) : Prop where
  ne_nil : key.toList ≠ []
  isKeyChar : ∀ c ∈ key.toList, isKeyChar c = true

instance (key : String) : Decidable (IsBare key) :=
  decidable_of_iff (key.toList ≠ [] ∧ key.toList.all isKeyChar = true)
    ⟨fun h => ⟨h.1, List.all_eq_true.mp h.2⟩, fun h => ⟨h.1, List.all_eq_true.mpr h.2⟩⟩

theorem IsBare.exists_cons {key : String} (h : IsBare key) :
    ∃ c more, key.toList = c :: more ∧ Toml.isKeyChar c = true := by
  obtain ⟨c, more, hcons⟩ := List.exists_cons_of_ne_nil h.ne_nil
  exact ⟨c, more, hcons, h.isKeyChar c (by simp [hcons])⟩

/-- What ends a key: neither a character of a key nor a blank. -/
def endsKey (c : Char) : Bool := !isKeyChar c && !isSpace c

theorem isKeyChar_of_isSpace (h : isSpace c = true) : isKeyChar c = false := by
  simp only [isSpace, Bool.or_eq_true, beq_iff_eq] at h
  rcases h with rfl | rfl <;> rfl

theorem isSpace_of_isKeyChar (h : isKeyChar c = true) : isSpace c = false := by
  cases hspace : isSpace c with
  | false => rfl
  | true =>
    rw [isKeyChar_of_isSpace hspace] at h
    cases h

/-- **A key without quotes is read**, with the blanks around it. -/
theorem yields_keyPart {key : String} (hkey : IsBare key) (hfront : IsSpaces front)
    (hback : IsSpaces back) (hrest : ∀ c ∈ rest.head?, endsKey c = true) :
    Yields keyPart (front ++ (key.toList ++ (back ++ rest))) key rest := by
  have hfirst : ∀ c ∈ (key.toList ++ (back ++ rest)).head?, Toml.isKeyChar c = true := by
    intro c hc
    rw [List.head?_append_of_ne_nil _ hkey.ne_nil] at hc
    exact hkey.isKeyChar c (List.mem_of_mem_head? hc)
  have hends : ∀ c ∈ rest.head?, Toml.isKeyChar c = false ∧ isSpace c = false := by
    intro c hc
    simpa [endsKey] using hrest c hc
  have hbehind : ∀ c ∈ (back ++ rest).head?, Toml.isKeyChar c = false := by
    intro c hc
    cases back with
    | nil => exact (hends c hc).1
    | cons d back =>
      obtain rfl := Option.some.inj hc
      exact isKeyChar_of_isSpace (hback d List.mem_cons_self)
  have hquote : ∀ w : String, ∀ d, w.toList.head? = some d → Toml.isKeyChar d = false →
      Yields (option w) (key.toList ++ (back ++ rest)) false (key.toList ++ (back ++ rest)) := by
    intro w d hw hd
    refine yields_option_of_head d hw fun hhead => ?_
    rw [hfirst d hhead] at hd
    cases hd
  refine (yields_spaces hfront fun c hc => isSpace_of_isKeyChar (hfirst c hc)).bind ?_
  refine (hquote "\"" '"' (by simp) rfl).bind ((hquote "'" '\'' (by simp) rfl).bind ?_)
  refine (yields_takeWhile hkey.isKeyChar hbehind).bind ((yields_require ?_ _).bind ?_)
  · simpa using hkey.ne_nil
  · rw [String.ofList_toList]
    exact (yields_pure key _).bind
      ((yields_spaces hback fun c hc => (hends c hc).2).bind (yields_pure key rest))

/-- The further parts of a key are collected, each behind its dot. -/
theorem collects_keyParts {others : List String} (hothers : ∀ part ∈ others, IsBare part)
    (hrest : ∀ c ∈ rest.head?, endsKey c = true ∧ c ≠ '.') :
    (∀ c ∈ (others.flatMap (fun part => '.' :: part.toList) ++ rest).head?, endsKey c = true) ∧
      Collects (do if ← option "." then return some (← keyPart) else return none)
        (others.flatMap (fun part => '.' :: part.toList) ++ rest) others rest := by
  induction others with
  | nil =>
    have hnone : Yields (option ".") rest false rest :=
      yields_option_of_head '.' (by simp) fun hhead => (hrest '.' hhead).2 rfl
    exact ⟨fun c hc => (hrest c hc).1, .done (hnone.bind (yields_pure none rest))⟩
  | cons part others ih =>
    obtain ⟨hpart, hothers⟩ := List.forall_mem_cons.mp hothers
    obtain ⟨hends, hcollects⟩ := ih hothers
    rw [List.flatMap_cons, List.append_assoc]
    refine ⟨by rintro _ ⟨⟩; rfl, .next ?_ (by simp) hcollects⟩
    exact (yields_option_true "." _).bind
      ((yields_keyPart hpart isSpaces_nil isSpaces_nil hends).bind (yields_pure _ _))

/-- A key of one part, with blanks around it. -/
theorem yields_key {name : String} (hname : IsBare name) (hfront : IsSpaces front)
    (hback : IsSpaces back) (hrest : ∀ c ∈ rest.head?, endsKey c = true ∧ c ≠ '.') :
    Yields key (front ++ (name.toList ++ (back ++ rest))) ([], name) rest := by
  refine (yields_keyPart hname hfront hback fun c hc => (hrest c hc).1).bind ?_
  have hcollects := (collects_keyParts (List.forall_mem_nil IsBare) hrest).2
  exact hcollects.yields.bind ((yields_require rfl rest).bind (yields_pure _ rest))

/-- A list with separators begins with its first item, and each other one has a separator in front
of it. -/
theorem intercalate_cons (separator first : List Char) (others : List (List Char)) :
    separator.intercalate (first :: others) = first ++ others.flatMap (separator ++ ·) := by
  induction others generalizing first with
  | nil => simp
  | cons next others ih => rw [List.intercalate_cons_cons, ih]; simp

theorem exists_cons_path {parts : List String} (hne : parts ≠ [])
    (hparts : ∀ part ∈ parts, IsBare part) :
    ∃ c more, (".".intercalate parts).toList = c :: more ∧ isKeyChar c = true := by
  obtain ⟨first, others, rfl⟩ := List.exists_cons_of_ne_nil hne
  obtain ⟨c, more, hcons, hc⟩ := (hparts first List.mem_cons_self).exists_cons
  refine ⟨c, more ++ others.flatMap (fun part => '.' :: part.toList), ?_, hc⟩
  simp [String.toList_intercalate, intercalate_cons, hcons, List.flatMap_map]

/-- **A key is read part by part.** -/
theorem yields_key_path {path : List String} {name : String}
    (hparts : ∀ part ∈ path ++ [name], IsBare part) (hlength : path.length + 1 < depthLimit)
    (hrest : ∀ c ∈ rest.head?, endsKey c = true ∧ c ≠ '.') :
    Yields key ((".".intercalate (path ++ [name])).toList ++ rest) (path, name) rest := by
  obtain ⟨first, others, heq⟩ : ∃ first others, path ++ [name] = first :: others :=
    List.exists_cons_of_ne_nil (by simp)
  have hresult : ((first :: others).dropLast, (first :: others).getLastD "") = (path, name) := by
    simp [← heq]
  have hcount : (first :: others).length < depthLimit := by
    rw [← heq, List.length_append]
    exact hlength
  rw [heq] at hparts ⊢
  obtain ⟨hfirst, hothers⟩ := List.forall_mem_cons.mp hparts
  obtain ⟨hends, hcollects⟩ := collects_keyParts hothers hrest
  have htext : (".".intercalate (first :: others)).toList ++ rest =
      first.toList ++ (others.flatMap (fun part => '.' :: part.toList) ++ rest) := by
    simp [String.toList_intercalate, intercalate_cons, List.flatMap_map]
  rw [htext]
  refine (yields_keyPart hfirst isSpaces_nil isSpaces_nil hends).bind (hcollects.yields.bind ?_)
  rw [← hresult]
  exact (yields_require (by simpa using hcount) rest).bind (yields_pure _ rest)

/-! ### Texts -/

/-- A character that stands for itself between double quotes. -/
def isPlainChar (c : Char) : Bool := isShown c && c != '"' && c != '\\'

/-- The text can stand between double quotes as it is. -/
def IsPlainText (text : String) : Prop := ∀ c ∈ text.toList, isPlainChar c = true

instance (text : String) : Decidable (IsPlainText text) :=
  decidable_of_iff (text.toList.all isPlainChar = true) List.all_eq_true

theorem yields_basicStep (hc : isPlainChar c = true) (chars rest : List Char) :
    Yields (basicStep chars) (c :: rest) (.inl (c :: chars)) rest := by
  simp only [isPlainChar, Bool.and_eq_true, bne_iff_ne] at hc
  obtain ⟨⟨hshown, hquote⟩, hslash⟩ := hc
  refine (yields_any c rest).bind ?_
  split
  · exact absurd rfl hquote
  · exact absurd rfl hslash
  · exact (yields_require hshown rest).bind (yields_pure _ rest)

/-- **A text without escapes is read** behind its quote. -/
theorem yields_basicString {text : String} (h : IsPlainText text) (rest : List Char) :
    Yields basicString (text.toList ++ '"' :: rest) text rest := by
  have hloops : ∀ chars after : List Char, (∀ c ∈ after, isPlainChar c = true) →
      Loops basicStep chars (after ++ '"' :: rest) (String.ofList (chars.reverse ++ after))
        rest := by
    intro chars after hafter
    induction after generalizing chars with
    | nil =>
      rw [List.append_nil]
      exact .done ((yields_any '"' rest).bind (yields_pure _ rest))
    | cons c after ih =>
      obtain ⟨hc, hafter⟩ := List.forall_mem_cons.mp hafter
      refine .next (yields_basicStep hc chars _) (by simp) ?_
      simpa using ih (c :: chars) hafter
  have hbody := (hloops [] text.toList h).yields
  rwa [List.reverse_nil, List.nil_append, String.ofList_toList] at hbody

theorem toList_quote (text : String) : (quote text).toList = '"' :: (text.toList ++ ['"']) := by
  simp [quote]

/-- **A text between double quotes is read**, if no third quote can be meant. -/
theorem yields_scalar_quote {text : String} (h : IsPlainText text) (hrest : rest.head? ≠ some '"') :
    Yields scalar ((quote text).toList ++ rest) (.string text) rest := by
  have hlong : ¬"\"\"\"".toList <+: '"' :: (text.toList ++ '"' :: rest) := by
    cases hcons : text.toList with
    | nil =>
      cases rest with
      | nil => simp
      | cons c rest => simpa [eq_comm] using hrest
    | cons c more =>
      have hc := h c (by simp [hcons])
      simp only [isPlainChar, Bool.and_eq_true, bne_iff_ne] at hc
      simp [Ne.symm hc.1.2]
  have hliteral : Yields (option "'''") ('"' :: (text.toList ++ '"' :: rest)) false
      ('"' :: (text.toList ++ '"' :: rest)) :=
    yields_option_of_head '\'' (by simp) (by simp)
  have hvalue : Yields stringValue ('"' :: (text.toList ++ '"' :: rest)) text rest :=
    (yields_option_false hlong).bind (hliteral.bind
      ((yields_option_true "\"" _).bind (yields_basicString h rest)))
  rw [toList_quote, List.cons_append, List.append_assoc, List.singleton_append]
  exact (yields_rest _).bind (hvalue.bind (yields_pure _ rest))

theorem yields_valueWithin_quote {text : String} (h : IsPlainText text)
    (hrest : rest.head? ≠ some '"') (depth : Nat) :
    Yields (valueWithin depth) ((quote text).toList ++ rest) (.string text) rest := by
  have hscalar := yields_scalar_quote h hrest
  cases depth with
  | zero => exact hscalar
  | succ depth =>
    have hhead : ((quote text).toList ++ rest).head? = some '"' := by
      rw [toList_quote]
      rfl
    refine (yields_option_of_head '[' (by simp) (by simp [hhead])).bind ?_
    exact (yields_option_of_head '{' (by simp) (by simp [hhead])).bind hscalar

/-! ### Arrays and tables -/

/-- The items of an array, up to its end. A gap may stand behind a comma. -/
inductive IsItems : List String → List Char → Prop
  | last {item : String} : IsPlainText item → IsItems [item] ((quote item).toList ++ [']'])
  /-- A comma behind the last item. -/
  | trailing {item : String} {gap : List Char} : IsPlainText item → IsGap gap →
      IsItems [item] ((quote item).toList ++ ',' :: (gap ++ [']']))
  | cons {item : String} {items : List String} {gap more : List Char} : IsPlainText item →
      IsGap gap → IsItems items more →
      IsItems (item :: items) ((quote item).toList ++ ',' :: (gap ++ more))

theorem IsItems.head? {items : List String} (h : IsItems items text) (rest : List Char) :
    (text ++ rest).head? = some '"' := by
  cases h <;> rw [toList_quote] <;> rfl

theorem isGap_nil : IsGap [] := by simp [IsGap]

theorem yields_item {item : String} (h : IsPlainText item) (depth : Nat)
    (hc : c = ',' ∨ c = ']') (left : List Char) :
    Yields (valueWithin depth) ((quote item).toList ++ c :: left) (.string item) (c :: left) ∧
      Yields fillers (c :: left) () (c :: left) := by
  rcases hc with rfl | rfl
  all_goals
    exact ⟨yields_valueWithin_quote h (by simp) depth,
      yields_fillers isGap_nil (by rintro _ ⟨⟩; rfl)⟩

/-- **Items are read one after the other.** -/
theorem IsItems.loops {items : List String} (h : IsItems items text) (depth : Nat)
    (before : List Toml) (rest : List Char) :
    Loops (arrayStep (valueWithin depth)) before (text ++ rest)
      (before.reverse ++ items.map .string) rest := by
  induction h generalizing before with
  | last hitem =>
    obtain ⟨hvalue, hfillers⟩ := yields_item hitem depth (.inr rfl) rest
    rw [List.append_assoc, List.singleton_append, List.map_singleton, ← List.reverse_cons]
    exact .done (hvalue.bind (hfillers.bind ((yields_option_of_head ',' (by simp) (by simp)).bind
      ((yields_char ']' rest).bind (yields_pure _ rest)))))
  | @trailing item gap hitem hgap =>
    obtain ⟨hvalue, hfillers⟩ := yields_item hitem depth (.inl rfl) (gap ++ ']' :: rest)
    have hgap : Yields fillers (gap ++ ']' :: rest) () (']' :: rest) :=
      yields_fillers hgap (by rintro _ ⟨⟩; rfl)
    rw [List.append_assoc, List.cons_append, List.append_assoc, List.singleton_append,
      List.map_singleton, ← List.reverse_cons]
    exact .done (hvalue.bind (hfillers.bind ((yields_option_true "," _).bind
      (hgap.bind ((yields_option_true "]" rest).bind (yields_pure _ rest))))))
  | @cons item items gap more hitem hgap hmore ih =>
    have hhead := hmore.head? rest
    obtain ⟨hvalue, hfillers⟩ := yields_item hitem depth (.inl rfl) (gap ++ (more ++ rest))
    have hgap : Yields fillers (gap ++ (more ++ rest)) () (more ++ rest) :=
      yields_fillers hgap (by rw [hhead]; rintro _ ⟨⟩; rfl)
    have hnone : Yields (option "]") (more ++ rest) false (more ++ rest) :=
      yields_option_of_head ']' (by simp) (by simp [hhead])
    have hstep : Yields (arrayStep (valueWithin depth) before)
        ((quote item).toList ++ ',' :: (gap ++ (more ++ rest))) (.inl (.string item :: before))
        (more ++ rest) :=
      hvalue.bind (hfillers.bind ((yields_option_true "," _).bind
        (hgap.bind (hnone.bind (yields_pure _ _)))))
    rw [List.append_assoc, List.cons_append, List.append_assoc]
    refine .next hstep ?_ (by simpa using ih (.string item :: before))
    simp only [List.length_append, List.length_cons]
    omega

/-- **An array is read**, with a gap in front of its first item. -/
theorem IsItems.yields {items : List String} (h : IsItems items text) {gap : List Char}
    (hgap : IsGap gap) (rest : List Char) :
    Yields value ('[' :: (gap ++ (text ++ rest))) (.array (items.map .string)) rest := by
  have hhead := h.head? rest
  have hfillers : Yields fillers (gap ++ (text ++ rest)) () (text ++ rest) :=
    yields_fillers hgap (by rw [hhead]; rintro _ ⟨⟩; rfl)
  have hnone : Yields (option "]") (text ++ rest) false (text ++ rest) :=
    yields_option_of_head ']' (by simp) (by simp [hhead])
  exact (yields_option_true "[" _).bind ((yields_require rfl _).bind
    (hfillers.bind (hnone.bind ((h.loops _ [] rest).yields.bind (yields_pure _ rest)))))

theorem yields_array_nil {gap : List Char} (hgap : IsGap gap) (rest : List Char) :
    Yields value ('[' :: (gap ++ ']' :: rest)) (.array []) rest := by
  have hfillers : Yields fillers (gap ++ ']' :: rest) () (']' :: rest) :=
    yields_fillers hgap (by rintro _ ⟨⟩; rfl)
  exact (yields_option_true "[" _).bind ((yields_require rfl _).bind
    (hfillers.bind ((yields_option_true "]" rest).bind (yields_pure _ rest))))

/-- Texts with commas between them are items. -/
theorem isItems_row {item : String} {items : List String}
    (h : ∀ text ∈ item :: items, IsPlainText text) :
    IsItems (item :: items) ((", ".intercalate ((item :: items).map quote)).toList ++ [']']) := by
  have hgap : IsGap [' '] := by simp [IsGap, isSpace]
  induction items generalizing item with
  | nil => simpa [String.toList_intercalate] using IsItems.last (h item List.mem_cons_self)
  | cons next items ih =>
    obtain ⟨hitem, hitems⟩ := List.forall_mem_cons.mp h
    simpa [String.toList_intercalate, intercalate_cons] using IsItems.cons hitem hgap (ih hitems)

/-- So are texts on lines of their own, behind the blanks in front of the first. -/
theorem isItems_column {item : String} {items : List String}
    (h : ∀ text ∈ item :: items, IsPlainText text) :
    IsItems (item :: items) ((quote item).toList ++ ',' :: '\n' ::
      ((String.join (items.map itemLine)).toList ++ [']'])) := by
  induction items generalizing item with
  | nil =>
    have hgap : IsGap ['\n'] := by simp [IsGap]
    simpa using IsItems.trailing (h item List.mem_cons_self) hgap
  | cons next items ih =>
    obtain ⟨hitem, hitems⟩ := List.forall_mem_cons.mp h
    have hgap : IsGap ['\n', ' ', ' ', ' ', ' '] := by simp [IsGap, isSpace]
    simpa [itemLine] using IsItems.cons hitem hgap (ih hitems)

/-- The text of an entry: its key, and the text of its value. -/
def entryText (name : String) (text : List Char) : List Char :=
  name.toList ++ ' ' :: '=' :: ' ' :: text

theorem entryText_append (name : String) (text rest : List Char) :
    entryText name text ++ rest = entryText name (text ++ rest) := by
  simp [entryText]

theorem yields_entryKey {name : String} (hname : IsBare name) (hfront : IsSpaces front)
    (text : List Char) :
    Yields key (front ++ entryText name text) ([], name) ('=' :: ' ' :: text) := by
  have hends : ∀ c ∈ ('=' :: ' ' :: text).head?, endsKey c = true ∧ c ≠ '.' := by
    rintro _ ⟨⟩
    exact ⟨rfl, by decide⟩
  have hkey := yields_key hname hfront isSpaces_singleton hends
  rwa [List.singleton_append] at hkey

theorem yields_space (htext : ∀ c ∈ text.head?, isSpace c = false) :
    Yields spaces (' ' :: text) () text :=
  yields_spaces isSpaces_singleton htext

/-- The table that has been read with some entries, all of them texts. -/
def textTable (entries : List (String × String)) : Node :=
  .table .header (entries.map fun (name, text) => (name, .value (.string text)))

theorem toToml_textTable (entries : List (String × String)) :
    (textTable entries).toToml = .table (entries.map fun (name, text) => (name, .string text)) := by
  have hentries :
      Node.entriesToToml (entries.map fun (name, text) => (name, .value (.string text))) =
        entries.map fun (name, text) => (name, .string text) := by
    induction entries with
    | nil => rfl
    | cons e entries ih =>
      simp only [List.map_cons, Node.entriesToToml, ih, Node.toToml]
  rw [textTable, Node.toToml, hentries]

/-- A new key goes to the end. -/
theorem put_of_not_mem {entries : List (String × Node)} {name : String}
    (h : name ∉ entries.map Prod.fst) (node : Node) :
    Node.put name node entries = entries ++ [(name, node)] := by
  induction entries with
  | nil => rfl
  | cons e entries ih =>
    simp only [List.map_cons, List.mem_cons, not_or] at h
    rw [Node.put, if_neg (Ne.symm h.1), ih h.2, List.cons_append]

theorem assign_textTable {entries : List (String × String)} {name : String}
    (h : name ∉ entries.map Prod.fst) (text : String) :
    (textTable entries).assign [] name (.string text) =
      some (textTable (entries ++ [(name, text)])) := by
  have hnames : (entries.map fun (name, text) => (name, Node.value (.string text))).map Prod.fst =
      entries.map Prod.fst := by
    simp
  rw [← hnames] at h
  have hlookup : (entries.map fun (name, text) =>
      (name, Node.value (.string text))).lookup name = none := by
    rw [List.lookup_eq_none_iff]
    intro e he
    exact bne_iff_ne.mpr fun heq => h (heq ▸ List.mem_map_of_mem he)
  simp [Node.assign, Node.reach, Node.isDotted, Node.change, textTable, hlookup, put_of_not_mem h]

theorem not_mem_of_nodup {before entries : List (String × String)} {name value : String}
    (h : ((before ++ (name, value) :: entries).map Prod.fst).Nodup) :
    name ∉ before.map Prod.fst := by
  rw [List.map_append, List.nodup_append] at h
  exact fun hmem => h.2.2 name hmem name List.mem_cons_self rfl

/-- One entry is read, up to what stands behind its value. -/
theorem yields_tableStep {entries : List (String × String)} {name value : String}
    (hname : IsBare name) (hnew : name ∉ entries.map Prod.fst) (hvalue : IsPlainText value)
    (hfront : IsSpaces front) (depth : Nat) {result : Node ⊕ Node} (hhead : left.head? ≠ some '"')
    (hleft : Yields (do
      spaces
      if ← option "," then return .inl (textTable (entries ++ [(name, value)]))
      else
        char '}'
        return .inr (textTable (entries ++ [(name, value)]))) left result rest) :
    Yields (tableStep (valueWithin depth) (textTable entries))
      (front ++ entryText name ((quote value).toList ++ left)) result rest := by
  have hspace : ∀ c ∈ ((quote value).toList ++ left).head?, isSpace c = false := by
    rw [toList_quote]
    rintro _ ⟨⟩
    rfl
  refine (yields_entryKey hname hfront _).bind ((yields_char '=' _).bind
    ((yields_space hspace).bind ((yields_valueWithin_quote hvalue hhead depth).bind ?_)))
  rw [assign_textTable hnew]
  exact (yields_ofOption _ left).bind hleft

theorem toList_textEntry (name text : String) :
    (textEntry (name, text)).toList = entryText name (quote text).toList := by
  simp [textEntry, entryText]

/-- **Entries are read one after the other**, each under a new key. -/
theorem loops_entries {name value : String} {entries before : List (String × String)}
    (h : ∀ e ∈ (name, value) :: entries, IsBare e.1 ∧ IsPlainText e.2)
    (hnodup : ((before ++ (name, value) :: entries).map Prod.fst).Nodup) (hfront : IsSpaces front)
    (depth : Nat) (rest : List Char) :
    Loops (tableStep (valueWithin depth)) (textTable before)
      (front ++ ((", ".intercalate (((name, value) :: entries).map textEntry)).toList ++
        ' ' :: '}' :: rest))
      (textTable (before ++ (name, value) :: entries)) rest := by
  induction entries generalizing name value before front with
  | nil =>
    obtain ⟨hname, hvalue⟩ := h (name, value) List.mem_cons_self
    have htext : (", ".intercalate ([(name, value)].map textEntry)).toList ++ ' ' :: '}' :: rest =
        entryText name ((quote value).toList ++ ' ' :: '}' :: rest) := by
      simp [toList_textEntry, entryText_append]
    rw [htext]
    refine .done (yields_tableStep hname (not_mem_of_nodup hnodup) hvalue hfront depth (by simp) ?_)
    exact (yields_space (by rintro _ ⟨⟩; rfl)).bind
      ((yields_option_of_head ',' (by simp) (by simp)).bind
        ((yields_char '}' rest).bind (yields_pure _ rest)))
  | cons next entries ih =>
    obtain ⟨⟨hname, hvalue⟩, hothers⟩ := List.forall_mem_cons.mp h
    have hnext : ((before ++ [(name, value)] ++ next :: entries).map Prod.fst).Nodup := by
      simpa using hnodup
    have hloops := ih hothers hnext isSpaces_singleton
    rw [List.append_assoc, List.singleton_append] at hloops
    set more := (", ".intercalate ((next :: entries).map textEntry)).toList with hmore
    have htext : (", ".intercalate (((name, value) :: next :: entries).map textEntry)).toList ++
        ' ' :: '}' :: rest =
        entryText name ((quote value).toList ++ ',' :: ' ' :: (more ++ ' ' :: '}' :: rest)) := by
      simp [hmore, String.toList_intercalate, intercalate_cons, toList_textEntry, entryText_append]
    have hstep : Yields (tableStep (valueWithin depth) (textTable before))
        (front ++ entryText name
          ((quote value).toList ++ ',' :: ' ' :: (more ++ ' ' :: '}' :: rest)))
        (.inl (textTable (before ++ [(name, value)]))) ([' '] ++ (more ++ ' ' :: '}' :: rest)) :=
      yields_tableStep hname (not_mem_of_nodup hnodup) hvalue hfront depth (by simp)
        ((yields_spaces_nil (by rintro _ ⟨⟩; rfl)).bind
          ((yields_option_true "," _).bind (yields_pure _ _)))
    rw [htext]
    refine .next hstep ?_ hloops
    simp only [entryText, List.length_append, List.length_cons, List.length_nil]
    omega

/-- **A table is read.** -/
theorem yields_table {entries : List (String × String)}
    (h : ∀ e ∈ entries, IsBare e.1 ∧ IsPlainText e.2) (hnodup : (entries.map Prod.fst).Nodup)
    (rest : List Char) :
    Yields value
      ('{' :: ' ' :: ((", ".intercalate (entries.map textEntry)).toList ++ ' ' :: '}' :: rest))
      (.table (entries.map fun (name, text) => (name, .string text))) rest := by
  refine (yields_option_of_head '[' (by simp) (by simp)).bind
    ((yields_option_true "\x7b" _).bind ((yields_require rfl _).bind ?_))
  cases entries with
  | nil =>
    have hspaces : IsSpaces [' ', ' '] := by simp [IsSpaces, isSpace]
    exact (yields_spaces hspaces (by rintro _ ⟨⟩; rfl)).bind
      ((yields_option_true "\x7d" rest).bind (yields_pure _ rest))
  | cons e entries =>
    obtain ⟨name, value⟩ := e
    obtain ⟨c, more, hcons, hc⟩ := (h (name, value) List.mem_cons_self).1.exists_cons
    have hhead : ((", ".intercalate (((name, value) :: entries).map textEntry)).toList ++
        ' ' :: '}' :: rest).head? = some c := by
      simp [String.toList_intercalate, intercalate_cons, toList_textEntry, entryText, hcons]
    rw [← toToml_textTable]
    refine (yields_space ?_).bind ((yields_option_of_head '}' (by simp) ?_).bind (Yields.bind ?_
      (yields_pure _ rest)))
    · rw [hhead]
      rintro _ ⟨⟩
      exact isSpace_of_isKeyChar hc
    · rw [hhead]
      rintro ⟨⟩
      cases hc
    · exact Loops.yields (@loops_entries [] name value entries [] h hnodup isSpaces_nil _ rest)

end TerraLint.Toml
