import TerraLint.Json.Reader
import TerraLint.Proofs.Yields

/-!
# Written values are read

A text writes a value if it is made of the tokens of the value, with any blanks between them
(`TerraLint.Json.IsText`). The main result says that the reader gives such a value back
(`TerraLint.Json.IsText.read?_eq`).

The reader keeps open arrays and objects on a stack. What is shown of a written value is
how the reader gets past it: if, with the value at hand, it comes to a result from the
text behind the value, then it comes to that result from the text in front of it
(`TerraLint.Json.Writes.loops`). The items of an array and the fields of an object are
gone through in the same way, with those found so far on the stack.
-/

namespace TerraLint

namespace Json

open TerraLint.Parser

/-! ### Tokens -/

/-- The blanks that may stand between tokens. -/
def IsBlank (c : Char) : Prop := c = ' ' ∨ c = '\n' ∨ c = '\t' ∨ c = '\r'

/-- The characters that stand between values and around them. -/
def marks : List Char := [' ', '\n', '\t', '\r', ',', ':', '[', ']', '{', '}']

theorem IsBlank.mem_marks {c : Char} (h : IsBlank c) : c ∈ marks := by
  rcases h with rfl | rfl | rfl | rfl <;> decide

theorem isAsciiDigit_of_mem_marks {c : Char} (h : c ∈ marks) :
    Text.isAsciiDigit c = false ∧ (c == 'e' || c == 'E') = false := by
  simp only [marks, List.mem_cons, List.not_mem_nil, or_false] at h
  rcases h with rfl | rfl | rfl | rfl | rfl | rfl | rfl | rfl | rfl | rfl <;> exact ⟨rfl, rfl⟩

/-- Only blanks stand in front of the rest. -/
def Gap (text rest : List Char) : Prop := ∃ front, (∀ c ∈ front, IsBlank c) ∧ text = front ++ rest

theorem Gap.refl (text : List Char) : Gap text text := ⟨[], by simp, rfl⟩

theorem Gap.length_le {text rest : List Char} (h : Gap text rest) : rest.length ≤ text.length := by
  obtain ⟨front, -, rfl⟩ := h
  simp

theorem Gap.length_lt {text rest : List Char} {mark : Char} (h : Gap text (mark :: rest)) :
    rest.length < text.length :=
  h.length_le

theorem yields_blanks {text rest : List Char} (h : Gap text rest)
    (hrest : ∀ c ∈ rest.head?, ¬IsBlank c) : Yields blanks text () rest := by
  obtain ⟨front, hfront, rfl⟩ := h
  refine Yields.bind (yields_takeWhile (fun c hc => ?_) fun c hc => ?_) (yields_pure () rest)
  · simpa [IsBlank, or_assoc] using hfront c hc
  · simpa [IsBlank, not_or, and_assoc] using hrest c hc

/-! ### String literals -/

theorem escapeChar_control {n : Nat} (h : n < 32) :
    ((if n < 16 then "0" else "") ++ Text.hexText n).toList =
      [Nat.digitChar (n / 16), Nat.digitChar (n % 16)] := by
  revert n
  decide +kernel

theorem hexValue?_control {n : Nat} (h : n < 32) :
    Text.hexValue? ['0', '0', Nat.digitChar (n / 16), Nat.digitChar (n % 16)] = some n := by
  revert n
  decide

theorem scalar?_toNat (c : Char) : Text.scalar? c.toNat = some c := by
  rw [Text.scalar?, dif_pos (show c.toNat.isValidChar from c.valid)]
  rfl

theorem yields_unicodeEscape {c : Char} (h : c.toNat < 32) (rest : List Char) :
    Yields unicodeEscape ('0' :: '0' :: Nat.digitChar (c.toNat / 16) ::
      Nat.digitChar (c.toNat % 16) :: rest) (some c) rest := by
  have hunit : Yields codeUnit ('0' :: '0' :: Nat.digitChar (c.toNat / 16) ::
      Nat.digitChar (c.toNat % 16) :: rest) c.toNat rest := by
    refine (yields_rest _).bind ((yields_require rfl _).bind ((yields_skip
      ['0', '0', Nat.digitChar (c.toNat / 16), Nat.digitChar (c.toNat % 16)] rest).bind ?_))
    simp only [List.take_succ_cons, List.take_zero, hexValue?_control h]
    exact yields_ofOption c.toNat rest
  refine hunit.bind ?_
  rw [if_neg (by omega), scalar?_toNat]
  exact yields_pure (some c) rest

/-- **A character is read as it has been escaped.** -/
theorem yields_stringStep (c : Char) (chars rest : List Char) :
    Yields (stringStep (true, chars)) ((escapeChar c).toList ++ rest) (.inl (true, c :: chars))
      rest := by
  unfold escapeChar
  split
  case h_8 hquote hslash _ _ _ _ _ =>
    split
    · next hcontrol =>
      rw [String.append_assoc, String.toList_append, escapeChar_control hcontrol]
      simp only [String.reduceToList, List.cons_append, List.nil_append]
      exact (yields_any _ _).bind ((yields_any _ _).bind
        ((yields_unicodeEscape hcontrol rest).bind (yields_pure _ rest)))
    · next hplain =>
      simp only [Char.toString_eq_singleton, String.toList_singleton, List.cons_append,
        List.nil_append]
      refine (yields_any c rest).bind ?_
      split
      · exact absurd rfl hquote
      · exact absurd rfl hslash
      · exact (yields_require (by simpa using hplain) rest).bind (yields_pure _ rest)
  -- the short escapes: a backslash and a letter
  all_goals
    simp only [String.reduceToList, List.cons_append, List.nil_append]
    exact (yields_any _ _).bind ((yields_any _ _).bind (yields_pure _ rest))

theorem escapeChar_length_pos (c : Char) : 0 < (escapeChar c).toList.length := by
  unfold escapeChar
  split
  case h_8 => split <;> simp
  all_goals simp

/-- **A text is read back from its literal**, behind the opening quote. -/
theorem yields_stringBody (text : String) (rest : List Char) :
    Yields stringBody ((text.toList.flatMap fun c => (escapeChar c).toList) ++ '"' :: rest)
      (some text) rest := by
  have hloops : ∀ chars acc : List Char, Loops stringStep (true, acc)
      ((chars.flatMap fun c => (escapeChar c).toList) ++ '"' :: rest)
      (some (String.ofList (acc.reverse ++ chars))) rest := by
    intro chars
    induction chars with
    | nil =>
      intro acc
      refine .done ((yields_any _ _).bind ?_)
      simpa using yields_pure _ rest
    | cons c chars ih =>
      intro acc
      have hnext := ih (c :: acc)
      rw [List.reverse_cons, List.append_assoc, List.singleton_append] at hnext
      rw [List.flatMap_cons, List.append_assoc]
      refine .next (yields_stringStep c acc _) ?_ hnext
      have hpos := escapeChar_length_pos c
      simp only [List.length_append]
      omega
  have hall := (hloops text.toList []).yields
  rwa [List.reverse_nil, List.nil_append, String.ofList_toList] at hall

theorem toList_quote (text : String) : (quote text).toList =
    '"' :: ((text.toList.flatMap fun c => (escapeChar c).toList) ++ ['"']) := by
  simp [quote, List.flatMap_map]

/-! ### Numbers -/

theorem head?_toDigits {n : Nat} (h : 0 < n) : (Nat.toDigits 10 n).head? ≠ some '0' := by
  induction n using Nat.strongRecOn with
  | ind n ih =>
    rcases Nat.lt_or_ge n 10 with hlt | hge
    · rw [Nat.toDigits_of_lt_base hlt, List.head?_cons]
      simpa using h.ne'
    · rw [Nat.toDigits_of_base_le (by decide) hge,
        List.head?_append_of_ne_nil _ (Nat.toDigits_ne_nil)]
      exact ih (n / 10) (by omega) (by omega)

theorem isAsciiDigit_of_mem_toDigits {n : Nat} {c : Char} (h : c ∈ Nat.toDigits 10 n) :
    Text.isAsciiDigit c = true := by
  exact Nat.isDigit_of_mem_toDigits (by decide) (by decide) h

theorem exists_toDigits_cons (n : Nat) :
    ∃ d more, Nat.toDigits 10 n = d :: more ∧ Text.isAsciiDigit d = true := by
  obtain ⟨d, more, hmore⟩ := List.exists_cons_of_ne_nil (@Nat.toDigits_ne_nil n 10)
  exact ⟨d, more, hmore, isAsciiDigit_of_mem_toDigits (n := n) (by simp [hmore])⟩

/-- What may follow a value: nothing, or one of the marks. -/
def Follows (rest : List Char) : Prop := ∀ c ∈ rest.head?, c ∈ marks

theorem Follows.not_isPrefix {rest : List Char} (h : Follows rest) {c : Char} (hc : c ∉ marks)
    (more : List Char) : ¬c :: more <+: rest := by
  rintro ⟨left, rfl⟩
  exact hc (h c rfl)

/-- **A count is read back from its digits.** -/
theorem yields_numberLiteral (n : Nat) {rest : List Char} (h : Follows rest) :
    Yields numberLiteral ((toString n).toList ++ rest) (toString n) rest := by
  rw [Nat.toString_eq_ofList_toDigits, String.toList_ofList]
  obtain ⟨d, more, hmore, hd⟩ := exists_toDigits_cons n
  have hdigits : Yields digits (Nat.toDigits 10 n ++ rest) (Nat.toDigits 10 n) rest :=
    (yields_takeWhile (fun c hc => isAsciiDigit_of_mem_toDigits hc)
      fun c hc => (isAsciiDigit_of_mem_marks (h c hc)).1).bind
      ((yields_require (by simp [hmore]) rest).bind (yields_pure _ rest))
  have hminus : ¬"-".toList <+: Nat.toDigits 10 n ++ rest := by
    rw [hmore]
    rintro ⟨left, hleft⟩
    obtain rfl : '-' = d := (List.cons.inj hleft).1
    cases hd
  have hzero : ((Nat.toDigits 10 n).length == 1 ||
      (Nat.toDigits 10 n).head? != some '0') = true := by
    rcases Nat.eq_zero_or_pos n with rfl | hpos
    · decide
    · simp [head?_toDigits hpos]
  have hpoint : ¬".".toList <+: rest := h.not_isPrefix (by decide) []
  refine (yields_option_false hminus).bind (hdigits.bind ((yields_require hzero rest).bind
    ((yields_option_false hpoint).bind ((yields_pure [] rest).bind ((yields_peek rest).bind ?_)))))
  have hend : Yields (pure (String.ofList ((if false = true then ['-'] else []) ++
      Nat.toDigits 10 n ++ [] ++ []))) rest (String.ofList (Nat.toDigits 10 n)) rest := by
    simpa using yields_pure _ rest
  cases hhead : rest.head? with
  | none => exact (yields_pure [] rest).bind hend
  | some c =>
    simp only [(isAsciiDigit_of_mem_marks (h c hhead)).2]
    exact (yields_pure [] rest).bind hend

/-! ### The grammar of written values -/

/-- The text of a value that is a single token. -/
inductive IsToken : Json → List Char → Prop
  | null : IsToken .null "null".toList
  | ofTrue : IsToken (.bool true) "true".toList
  | ofFalse : IsToken (.bool false) "false".toList
  | nat (n : Nat) : IsToken (.nat n) (toString n).toList
  | string (text : String) : IsToken (.string text) (quote text).toList

/-- A key with its colon is written in front of a rest. -/
def WritesKey (key : String) (text rest : List Char) : Prop :=
  ∃ left, text = (quote key).toList ++ left ∧ Gap left (':' :: rest)

mutual

/-- **A text writes a value in front of a rest.** Blanks may stand between tokens; a text in a
string literal is escaped only as far as it must be. -/
inductive Writes : Json → List Char → List Char → Prop
  | token {v : Json} {text rest : List Char} : IsToken v text → Writes v (text ++ rest) rest
  | emptyArray {text rest : List Char} :
      Gap text (']' :: rest) → Writes (.array []) ('[' :: text) rest
  | array {items : List Json} {text first rest : List Char} :
      Gap text first → WritesItems items first rest → Writes (.array items) ('[' :: text) rest
  | emptyObject {text rest : List Char} :
      Gap text ('}' :: rest) → Writes (.object []) ('{' :: text) rest
  | object {fields : List (String × Json)} {text first rest : List Char} :
      Gap text first → WritesFields fields first rest → Writes (.object fields) ('{' :: text) rest

/-- A text writes the items of an array, with commas between, and closes it. -/
inductive WritesItems : List Json → List Char → List Char → Prop
  | last {v : Json} {text left rest : List Char} :
      Writes v text left → Gap left (']' :: rest) → WritesItems [v] text rest
  | more {v : Json} {items : List Json} {text left behind next rest : List Char} :
      Writes v text left → Gap left (',' :: behind) → Gap behind next →
      WritesItems items next rest → WritesItems (v :: items) text rest

/-- A text writes the fields of an object, with commas between, and closes it. -/
inductive WritesFields : List (String × Json) → List Char → List Char → Prop
  | last {k : String} {v : Json} {text colon first left rest : List Char} :
      WritesKey k text colon → Gap colon first → Writes v first left → Gap left ('}' :: rest) →
      WritesFields [(k, v)] text rest
  | more {k : String} {v : Json} {fields : List (String × Json)}
      {text colon first left behind next rest : List Char} :
      WritesKey k text colon → Gap colon first → Writes v first left →
      Gap left (',' :: behind) → Gap behind next → WritesFields fields next rest →
      WritesFields ((k, v) :: fields) text rest

end

/-- **The text writes the value**, with blanks around it. -/
def IsText (v : Json) (text : String) : Prop :=
  ∃ first rest, Gap text.toList first ∧ Writes v first rest ∧ Gap rest []

/-! ### Reading what is written -/

/-- A token begins with a character that is not a mark. -/
theorem IsToken.exists_cons {v : Json} {text : List Char} (h : IsToken v text) :
    ∃ c more, text = c :: more ∧ c ∉ marks := by
  cases h with
  | null => exact ⟨'n', _, rfl, by decide⟩
  | ofTrue => exact ⟨'t', _, rfl, by decide⟩
  | ofFalse => exact ⟨'f', _, rfl, by decide⟩
  | nat n =>
    rw [Nat.toString_eq_ofList_toDigits, String.toList_ofList]
    obtain ⟨d, more, hmore, hd⟩ := exists_toDigits_cons n
    refine ⟨d, more, hmore, fun hmark => ?_⟩
    rw [(isAsciiDigit_of_mem_marks hmark).1] at hd
    cases hd
  | string text => exact ⟨'"', _, toList_quote text, by decide⟩

/-- **A token is read back.** -/
theorem IsToken.yields {v : Json} {text rest : List Char} (h : IsToken v text)
    (hrest : Follows rest) : Yields scalarValue (text ++ rest) v rest := by
  cases h with
  | null => exact (yields_peek _).bind ((yields_word "null" rest).bind (yields_pure _ rest))
  | ofTrue => exact (yields_peek _).bind ((yields_word "true" rest).bind (yields_pure _ rest))
  | ofFalse => exact (yields_peek _).bind ((yields_word "false" rest).bind (yields_pure _ rest))
  | nat n =>
    obtain ⟨d, more, hmore, hd⟩ := exists_toDigits_cons n
    have hhead : ((toString n).toList ++ rest).head? = some d := by
      rw [Nat.toString_eq_ofList_toDigits, String.toList_ofList, hmore, List.cons_append,
        List.head?_cons]
    refine (yields_peek _).bind ?_
    rw [hhead]
    split
    case h_5 => exact (yields_numberLiteral n hrest).bind (yields_pure _ rest)
    all_goals
      rename_i heq
      rw [Option.some.inj heq] at hd
      cases hd
  | string text =>
    rw [toList_quote, List.cons_append, List.append_assoc, List.singleton_append]
    refine (yields_peek _).bind ((yields_skip ['"'] _).bind ?_)
    exact (yields_stringBody text rest).bind (yields_pure _ rest)

theorem yields_key {key : String} {text rest : List Char} (h : WritesKey key text rest) :
    Yields Json.key text key rest := by
  obtain ⟨left, rfl, hgap⟩ := h
  rw [toList_quote, List.cons_append, List.append_assoc, List.singleton_append]
  refine (yields_char '"' _).bind ((yields_stringBody key left).bind
    ((yields_ofOption key left).bind ((yields_blanks hgap ?_).bind
      ((yields_char ':' rest).bind (yields_pure key rest)))))
  simp [IsBlank]

/-- A text that begins a value or a key: neither with a blank, nor with a mark that closes. -/
def Begins (text : List Char) : Prop :=
  ∃ c more, text = c :: more ∧ ¬IsBlank c ∧ c ≠ ']' ∧ c ≠ '}'

theorem Begins.of_not_mem_marks {c : Char} (h : c ∉ marks) (more : List Char) :
    Begins (c :: more) := by
  refine ⟨c, more, rfl, fun hblank => h hblank.mem_marks, ?_, ?_⟩ <;>
  · rintro rfl
    exact h (by decide)

theorem Writes.begins {v : Json} {text rest : List Char} (h : Writes v text rest) :
    Begins text := by
  cases h with
  | token htoken =>
    obtain ⟨c, more, rfl, hc⟩ := htoken.exists_cons
    exact .of_not_mem_marks hc _
  | emptyArray | array => exact ⟨'[', _, rfl, by simp [IsBlank], by decide, by decide⟩
  | emptyObject | object => exact ⟨'{', _, rfl, by simp [IsBlank], by decide, by decide⟩

theorem WritesKey.begins {key : String} {text rest : List Char} (h : WritesKey key text rest) :
    Begins text := by
  obtain ⟨left, rfl, -⟩ := h
  rw [toList_quote]
  exact .of_not_mem_marks (by decide) _

theorem WritesKey.length_lt {key : String} {text rest : List Char} (h : WritesKey key text rest) :
    rest.length < text.length := by
  obtain ⟨left, rfl, hgap⟩ := h
  have hleft := hgap.length_lt
  rw [List.length_append]
  omega

theorem WritesItems.begins {items : List Json} {text rest : List Char}
    (h : WritesItems items text rest) : Begins text := by
  cases h with
  | last hv => exact hv.begins
  | more hv => exact hv.begins

theorem yields_blanks_of_begins {text first : List Char} (h : Gap text first)
    (hfirst : Begins first) : Yields blanks text () first := by
  obtain ⟨c, more, rfl, hblank, -⟩ := hfirst
  refine yields_blanks h ?_
  rintro _ ⟨⟩
  exact hblank

/-- A mark is not read in place of another character. -/
theorem yields_mark_false {w : String} {c : Char} (mark : Char) (hw : w.toList = [mark])
    (h : mark ≠ c) (more : List Char) : Yields (option w) (c :: more) false (c :: more) := by
  refine yields_option_false ?_
  rw [hw]
  exact fun hword => h (List.cons_prefix_cons.mp hword).1

section Steps

variable {containers : List Container} {text rest : List Char}

/-! The steps of the reader. -/

theorem yields_token {v : Json} {token : List Char} (h : IsToken v token)
    (hgap : Gap text (token ++ rest)) (hrest : Follows rest) :
    Yields (valueStep containers) text (containers, .next v) rest := by
  obtain ⟨c, more, rfl, hc⟩ := h.exists_cons
  refine (yields_blanks_of_begins hgap (.of_not_mem_marks hc _)).bind
    ((yields_mark_false '[' (by simp) ?_ _).bind
      ((yields_mark_false '{' (by simp) ?_ _).bind
        ((h.yields hrest).bind (yields_pure _ rest))))
  all_goals
    rintro rfl
    exact hc (by decide)

theorem yields_emptyArray {inside : List Char} (hgap : Gap text ('[' :: inside))
    (hclose : Gap inside (']' :: rest)) :
    Yields (valueStep containers) text (containers, .next (.array [])) rest :=
  (yields_blanks hgap (by simp [IsBlank])).bind ((yields_option_true "[" inside).bind
    ((yields_blanks hclose (by simp [IsBlank])).bind ((yields_option_true "]" rest).bind
      (yields_pure _ rest))))

theorem yields_array {inside first : List Char} (hgap : Gap text ('[' :: inside))
    (hinside : Gap inside first) (hfirst : Begins first) :
    Yields (valueStep containers) text (.array [] :: containers, .value) first := by
  have hblanks := yields_blanks_of_begins hinside hfirst
  obtain ⟨c, more, rfl, -, hc, -⟩ := hfirst
  exact (yields_blanks hgap (by simp [IsBlank])).bind ((yields_option_true "[" inside).bind
    (hblanks.bind ((yields_mark_false ']' (by simp) hc.symm more).bind (yields_pure _ _))))

theorem yields_emptyObject {inside : List Char} (hgap : Gap text ('{' :: inside))
    (hclose : Gap inside ('}' :: rest)) :
    Yields (valueStep containers) text (containers, .next (.object [])) rest :=
  (yields_blanks hgap (by simp [IsBlank])).bind
    ((yields_mark_false '[' (by simp) (by decide) inside).bind
      ((yields_option_true "\x7b" inside).bind ((yields_blanks hclose (by simp [IsBlank])).bind
        ((yields_option_true "\x7d" rest).bind (yields_pure _ rest)))))

theorem yields_object {inside first : List Char} {key : String} (hgap : Gap text ('{' :: inside))
    (hinside : Gap inside first) (hkey : WritesKey key first rest) :
    Yields (valueStep containers) text (.object [] key :: containers, .value) rest := by
  have hblanks := yields_blanks_of_begins hinside hkey.begins
  have hread := yields_key hkey
  obtain ⟨c, more, rfl, -, -, hc⟩ := hkey.begins
  exact (yields_blanks hgap (by simp [IsBlank])).bind
    ((yields_mark_false '[' (by simp) (by decide) inside).bind
      ((yields_option_true "\x7b" inside).bind (hblanks.bind
        ((yields_mark_false '}' (by simp) hc.symm more).bind
          (hread.bind (yields_pure _ rest))))))

variable {v : Json}

theorem yields_nextItem {items : List Json} (hgap : Gap text (',' :: rest)) :
    Yields (nextStep v (.array items :: containers)) text
      (.inl (.array (v :: items) :: containers, .value)) rest :=
  (yields_blanks hgap (by simp [IsBlank])).bind ((yields_option_true "," rest).bind
    (yields_pure _ rest))

theorem yields_closeArray {items : List Json} (hgap : Gap text (']' :: rest)) :
    Yields (nextStep v (.array items :: containers)) text
      (.inl (containers, .next (.array (items.reverse ++ [v])))) rest := by
  rw [← List.reverse_cons]
  exact (yields_blanks hgap (by simp [IsBlank])).bind
    ((yields_mark_false ',' (by simp) (by decide) rest).bind ((yields_char ']' rest).bind
      (yields_pure _ rest)))

theorem yields_nextField {fields : List (String × Json)} {key key' : String}
    {behind next : List Char} (hgap : Gap text (',' :: behind)) (hbehind : Gap behind next)
    (hkey : WritesKey key' next rest) :
    Yields (nextStep v (.object fields key :: containers)) text
      (.inl (.object ((key, v) :: fields) key' :: containers, .value)) rest :=
  (yields_blanks hgap (by simp [IsBlank])).bind ((yields_option_true "," behind).bind
    ((yields_blanks_of_begins hbehind hkey.begins).bind ((yields_key hkey).bind
      (yields_pure _ rest))))

theorem yields_closeObject {fields : List (String × Json)} {key : String}
    (hgap : Gap text ('}' :: rest)) :
    Yields (nextStep v (.object fields key :: containers)) text
      (.inl (containers, .next (.object (fields.reverse ++ [(key, v)])))) rest := by
  rw [← List.reverse_cons]
  exact (yields_blanks hgap (by simp [IsBlank])).bind
    ((yields_mark_false ',' (by simp) (by decide) rest).bind ((yields_char '}' rest).bind
      (yields_pure _ rest)))

end Steps

/-! ### Whole values -/

theorem Gap.follows {text rest : List Char} {mark : Char} (h : Gap text (mark :: rest))
    (hmark : mark ∈ marks) : Follows text := by
  obtain ⟨front, hfront, rfl⟩ := h
  cases front with
  | nil =>
    rintro _ ⟨⟩
    exact hmark
  | cons c front =>
    rintro _ ⟨⟩
    exact (hfront c List.mem_cons_self).mem_marks

section Loops

variable {containers : List Container} {text rest final : List Char} {result : Json}

/-- The reader goes on behind a step on a value. -/
theorem loops_value {s : List Container × Awaited} (h : Yields (valueStep containers) text s rest)
    (hlt : rest.length < text.length) (hnext : Loops step s rest result final) :
    Loops step (containers, .value) text result final :=
  .next (h.bind (yields_pure _ rest)) hlt hnext

end Loops

mutual

/-- **A written value is read**: where a value is awaited, the reader goes on with the value from
what follows it. -/
theorem Writes.loops {v : Json} {first rest : List Char} (h : Writes v first rest)
    (hrest : Follows rest) {text final : List Char} (hgap : Gap text first)
    {containers : List Container} {result : Json}
    (hnext : Loops step (containers, .next v) rest result final) :
    Loops step (containers, .value) text result final := by
  match h with
  | .token htoken =>
    refine loops_value (yields_token htoken hgap hrest) ?_ hnext
    obtain ⟨c, more, rfl, -⟩ := htoken.exists_cons
    have hlength := hgap.length_le
    rw [List.length_append, List.length_cons] at hlength
    omega
  | .emptyArray hclose =>
    exact loops_value (yields_emptyArray hgap hclose) (hclose.length_lt.trans hgap.length_lt) hnext
  | .array hinside hitems =>
    exact loops_value (yields_array hgap hinside hitems.begins)
      (hinside.length_le.trans_lt hgap.length_lt) (hitems.loops (.refl _) hnext)
  | .emptyObject hclose =>
    exact loops_value (yields_emptyObject hgap hclose) (hclose.length_lt.trans hgap.length_lt) hnext
  | .object hinside hfields =>
    obtain ⟨key, behind, hkey, hloops⟩ : ∃ key behind, WritesKey key _ behind ∧
        Loops step (.object [] key :: containers, .value) behind result final :=
      hfields.loops hnext
    exact loops_value (yields_object hgap hinside hkey)
      (hkey.length_lt.trans (hinside.length_le.trans_lt hgap.length_lt)) hloops

/-- Items are read into an array that has some already. -/
theorem WritesItems.loops {items : List Json} {first rest : List Char}
    (h : WritesItems items first rest) {text final : List Char} (hgap : Gap text first)
    {containers : List Container} {found : List Json} {result : Json}
    (hnext : Loops step (containers, .next (.array (found.reverse ++ items))) rest result final) :
    Loops step (.array found :: containers, .value) text result final := by
  match h with
  | .last hv hclose =>
    exact hv.loops (hclose.follows (by decide)) hgap
      (.next (yields_closeArray hclose) hclose.length_lt hnext)
  | .more hv hcomma hbehind hitems =>
    refine hv.loops (hcomma.follows (by decide)) hgap
      (.next (yields_nextItem hcomma) hcomma.length_lt (hitems.loops hbehind ?_))
    rwa [List.reverse_cons, List.append_assoc, List.singleton_append]

/-- Fields are read into an object that has some already, from behind the first key on. -/
theorem WritesFields.loops {fields : List (String × Json)} {first rest : List Char}
    (h : WritesFields fields first rest) {final : List Char} {containers : List Container}
    {found : List (String × Json)} {result : Json}
    (hnext : Loops step (containers, .next (.object (found.reverse ++ fields))) rest result final) :
    ∃ key behind, WritesKey key first behind ∧
      Loops step (.object found key :: containers, .value) behind result final := by
  match h with
  | .last hkey hgap hv hclose =>
    exact ⟨_, _, hkey, hv.loops (hclose.follows (by decide)) hgap
      (.next (yields_closeObject hclose) hclose.length_lt hnext)⟩
  | .more (k := k) (v := v) hkey hgap hv hcomma hbehind hfields =>
    obtain ⟨key', behind', hkey', hmore⟩ : ∃ key' behind', WritesKey key' _ behind' ∧
        Loops step (.object ((k, v) :: found) key' :: containers, .value) behind' result final := by
      refine hfields.loops ?_
      rwa [List.reverse_cons, List.append_assoc, List.singleton_append]
    exact ⟨_, _, hkey, hv.loops (hcomma.follows (by decide)) hgap
      (.next (yields_nextField hcomma hbehind hkey')
        (hkey'.length_lt.trans (hbehind.length_le.trans_lt hcomma.length_lt)) hmore)⟩

end

/-- **A text that writes a value is read as that value.** -/
theorem IsText.read?_eq {v : Json} {text : String} (h : IsText v text) : read? text = some v := by
  obtain ⟨first, rest, hgap, hwrites, hend⟩ := h
  have hrest : Follows rest := by
    obtain ⟨front, hfront, rfl⟩ := hend
    intro c hc
    rw [List.append_nil] at hc
    exact (hfront c (List.mem_of_mem_head? hc)).mem_marks
  have hloops : Loops step ([], .value) text.toList v rest :=
    hwrites.loops hrest hgap (.done (yields_pure _ rest))
  have hvalue : Yields value text.toList v [] :=
    hloops.yields.bind ((yields_blanks hend (by simp)).bind (yields_pure v []))
  obtain ⟨byte, hrun⟩ := hvalue 0
  simp [read?, readAll, hrun]

end Json

end TerraLint
