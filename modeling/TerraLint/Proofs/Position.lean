import Mathlib
import TerraLint.Token

/-!
# Positions by counting

A position is found by walking over the text in front of it
(`TerraLint.Position.advance`). This file gives the closed form of that walk: the
line is one more than the number of line feeds passed, the column is one more than
the number of characters behind the last of them, and the byte is the size of the
text passed (`TerraLint.Position.behind`). The walk and the count agree
(`TerraLint.Position.advance_start`), and everything said about positions in the
sequel is said about the count.

## Two facts about cutting

* A text that begins with a given number of bytes begins in one way only
  (`TerraLint.eq_of_byteLength_eq`), so a byte offset names a place.
* Where the text in front ends with a line feed, the count starts afresh behind it
  (`TerraLint.Position.behind_append`): lines and bytes are shifted, columns are not.
-/

namespace TerraLint

/-! ### Sizes in bytes -/

@[simp] theorem byteLength_nil : byteLength [] = 0 := rfl

@[simp] theorem byteLength_cons (c : Char) (text : List Char) :
    byteLength (c :: text) = c.utf8Size + byteLength text := rfl

@[simp] theorem byteLength_append (a b : List Char) :
    byteLength (a ++ b) = byteLength a + byteLength b := by
  induction a with
  | nil => simp
  | cons c a ih => rw [List.cons_append, byteLength_cons, ih, byteLength_cons, Nat.add_assoc]

theorem byteLength_pos {text : List Char} (h : text ≠ []) : 0 < byteLength text := by
  cases text with
  | nil => exact absurd rfl h
  | cons c text =>
    have hc := c.utf8Size_pos
    rw [byteLength_cons]
    omega

/-- **A byte offset names a place**: two ways to cut a text that cut off equally
many bytes are the same. -/
theorem eq_of_byteLength_eq : ∀ {a a' b b' : List Char},
    a ++ b = a' ++ b' → byteLength a = byteLength a' → a = a' ∧ b = b'
  | [], [], _, _, h, _ => ⟨rfl, by simpa using h⟩
  | [], c :: a', _, _, _, hsize => by
    have hc := c.utf8Size_pos
    simp only [byteLength_nil, byteLength_cons] at hsize
    omega
  | c :: a, [], _, _, _, hsize => by
    have hc := c.utf8Size_pos
    simp only [byteLength_nil, byteLength_cons] at hsize
    omega
  | c :: a, c' :: a', b, b', h, hsize => by
    obtain ⟨rfl, htail⟩ : c = c' ∧ a ++ b = a' ++ b' := by simpa using h
    have hsize' : byteLength a = byteLength a' := by simpa using hsize
    obtain ⟨rfl, rfl⟩ := eq_of_byteLength_eq htail hsize'
    exact ⟨rfl, rfl⟩

/-- A character of a text in two parts stands in the second or in the first. -/
theorem exists_of_append_eq_append_cons {front rest before after : List Char} {c : Char}
    (h : front ++ rest = before ++ c :: after) :
    (∃ before', before = front ++ before' ∧ rest = before' ++ c :: after) ∨
      ∃ inside, front = before ++ c :: inside ∧ after = inside ++ rest := by
  rcases List.append_eq_append_iff.mp h with h | ⟨_ | ⟨d, inside⟩, hfront, hafter⟩
  · exact .inl h
  · exact .inl ⟨[], by simpa using hfront.symm, by simpa using hafter.symm⟩
  · obtain ⟨rfl, rfl⟩ : c = d ∧ after = inside ++ rest := by simpa using hafter
    exact .inr ⟨inside, hfront, rfl⟩

/-- The character at a byte stands in the stretch that has the byte. -/
theorem exists_of_byteLength_lt {text a b d before after : List Char} {c : Char}
    (htext : text = a ++ (b ++ d)) (hc : text = before ++ c :: after)
    (hle : byteLength a ≤ byteLength before) (hlt : byteLength before < byteLength (a ++ b)) :
    ∃ front back, before = a ++ front ∧ b = front ++ c :: back := by
  rw [htext] at hc
  rcases exists_of_append_eq_append_cons hc with ⟨front, rfl, hb⟩ | ⟨inside, rfl, -⟩
  · rcases exists_of_append_eq_append_cons hb with ⟨more, rfl, -⟩ | ⟨back, hback, -⟩
    · simp only [byteLength_append] at hlt
      omega
    · exact ⟨front, back, rfl, hback⟩
  · have hpos := c.utf8Size_pos
    simp only [byteLength_append, byteLength_cons] at hle
    omega

/-- The bytes of a stretch of a text, sliced out of the text, are the stretch. -/
theorem sliceBytes?_append : ∀ (a b c : List Char),
    sliceBytes? (a ++ (b ++ c)) (byteLength a) (byteLength a + byteLength b) = some b
  | [], [], c => by cases c <;> simp [sliceBytes?]
  | [], d :: b, c => by
    have hd := d.utf8Size_pos
    have ih := sliceBytes?_append [] b c
    simp only [List.nil_append, byteLength_nil, Nat.zero_add] at ih
    obtain ⟨n, hn⟩ : ∃ n, d.utf8Size + byteLength b = n + 1 := ⟨_, (Nat.succ_pred (by omega)).symm⟩
    simp only [List.nil_append, byteLength_nil, byteLength_cons, Nat.zero_add, List.cons_append]
    rw [hn, sliceBytes?, ← hn, if_pos (by omega), Nat.add_sub_cancel_left, ih]
    · rfl
    · simp
  | d :: a, b, c => by
    have hd := d.utf8Size_pos
    have ih := sliceBytes?_append a b c
    obtain ⟨n, hn⟩ : ∃ n, d.utf8Size + byteLength a = n + 1 := ⟨_, (Nat.succ_pred (by omega)).symm⟩
    simp only [byteLength_cons, List.cons_append]
    rw [hn, sliceBytes?, ← hn, if_pos (by omega), Nat.add_sub_cancel_left,
      show d.utf8Size + byteLength a + byteLength b - d.utf8Size = byteLength a + byteLength b by
        omega, ih]
    · simp
    · simp

theorem sliceBytes?_of_eq {text a b c : List Char} (h : text = a ++ (b ++ c)) :
    sliceBytes? text (byteLength a) (byteLength (a ++ b)) = some b := by
  rw [h, byteLength_append, sliceBytes?_append]

/-! ### Lines -/

/-- **Line by line**: a text is its only line, or a line, a line feed and a text. -/
theorem lines_induction {motive : List Char → Prop} (last : ∀ line, '\n' ∉ line → motive line)
    (feed : ∀ line rest, '\n' ∉ line → motive rest → motive (line ++ '\n' :: rest))
    (text : List Char) : motive text := by
  induction hn : text.length using Nat.strong_induction_on generalizing text with
  | _ n ih =>
    by_cases hmem : '\n' ∈ text
    · obtain ⟨line, rest, rfl, hline⟩ := List.eq_append_cons_of_mem hmem
      refine feed line rest hline (ih rest.length ?_ rest rfl)
      rw [← hn, List.length_append, List.length_cons]
      omega
    · exact last text hmem

namespace Position

/-! ### The count -/

/-- The position behind a text, by counting: line feeds for the line, characters behind
the last of them for the column, bytes for the offset. -/
def behind (text : List Char) : Position where
  line := 1 + text.count '\n'
  column := 1 + (text.reverse.takeWhile (· != '\n')).length
  byte := byteLength text

@[simp] theorem behind_byte (text : List Char) : (behind text).byte = byteLength text := rfl

theorem behind_snoc (text : List Char) (c : Char) :
    behind (text ++ [c]) = (behind text).next c := by
  by_cases h : c = '\n'
  · subst h
    simp [behind, next, Nat.add_assoc]
  · simp [behind, next, h, Nat.add_comm]

/-- **The walk is the count.** -/
theorem advance_start (text : List Char) : start.advance text = behind text := by
  induction text using List.reverseRecOn with
  | nil => rfl
  | append_singleton text c ih => rw [advance_append, ih, behind_snoc]; rfl

theorem behind_advance (a b : List Char) : (behind a).advance b = behind (a ++ b) := by
  rw [← advance_start, ← advance_start, advance_append]

/-! ### Shifting by whole lines -/

/-- The position as seen when a text of whole lines is put in front: further down by
the lines of the text, further on by its bytes, in the same column. -/
def shift (text : List Char) (p : Position) : Position :=
  ⟨p.line + text.count '\n', p.column, p.byte + byteLength text⟩

/-- A text that is empty or ends with a line feed. -/
def WholeLines (text : List Char) : Prop := text = [] ∨ text.getLast? = some '\n'

instance (text : List Char) : Decidable (WholeLines text) :=
  inferInstanceAs (Decidable (_ ∨ _))

namespace WholeLines

theorem tail {c : Char} {rest : List Char} (h : WholeLines (c :: rest)) : WholeLines rest := by
  rcases h with h | h
  · simp at h
  · cases rest with
    | nil => exact .inl rfl
    | cons d rest => exact .inr (by simpa [List.getLast?_cons_cons] using h)

theorem drop {text : List Char} (h : WholeLines text) : ∀ n : Nat, WholeLines (text.drop n) := by
  intro n
  induction n generalizing text with
  | zero => exact h
  | succ n ih =>
    cases text with
    | nil => exact .inl rfl
    | cons c rest => exact ih h.tail

/-- A line that has begun is ended. -/
theorem mem {text : List Char} (h : WholeLines text) (hne : text ≠ []) : '\n' ∈ text :=
  List.mem_of_getLast? (h.resolve_left hne)

theorem mem_tail {c : Char} {rest : List Char} (h : WholeLines (c :: rest)) (hc : c ≠ '\n') :
    '\n' ∈ rest := by
  have := h.mem (by simp)
  simpa [hc.symm] using this

end WholeLines

/-- Behind whole lines the last line is empty. -/
theorem WholeLines.lastLine_eq {text : List Char} (h : WholeLines text) :
    text.reverse.takeWhile (· != '\n') = [] := by
  obtain rfl | h := h
  · rfl
  · obtain ⟨init, rfl⟩ := List.getLast?_eq_some_iff.mp h
    simp

/-- **The count starts afresh behind whole lines.** -/
theorem behind_append {a : List Char} (ha : WholeLines a) (b : List Char) :
    behind (a ++ b) = (behind b).shift a := by
  have hcolumn : (b.reverse ++ a.reverse).takeWhile (· != '\n') =
      b.reverse.takeWhile (· != '\n') := by
    rw [List.takeWhile_append, ha.lastLine_eq]
    split
    · rename_i h
      rw [List.append_nil, (List.takeWhile_prefix _).eq_of_length h]
    · rfl
  simp only [behind, shift, List.count_append, List.reverse_append, hcolumn, byteLength_append,
    mk.injEq, true_and]
  omega

/-! ### Places in a text -/

/-- The position is one in the text: it lies between two characters, or at an end, and
all three of its coordinates are those of that place. -/
def IsIn (text : List Char) (p : Position) : Prop :=
  ∃ before after, text = before ++ after ∧ p = behind before

theorem isIn_start (text : List Char) : IsIn text start := ⟨[], text, rfl, rfl⟩

/-- Of two places in a text the one further on is not on an earlier line. -/
theorem IsIn.line_le {text : List Char} {p q : Position} (hp : p.IsIn text)
    (hq : q.IsIn text) (h : p.byte ≤ q.byte) : p.line ≤ q.line := by
  obtain ⟨a, a', rfl, rfl⟩ := hp
  obtain ⟨b, b', hb, rfl⟩ := hq
  simp only [behind_byte] at h
  rcases List.append_eq_append_iff.mp hb with ⟨more, rfl, -⟩ | ⟨more, rfl, -⟩
  · simp [behind]
  · have hmore : more = [] := by
      by_contra hne
      have hpos := byteLength_pos hne
      rw [byteLength_append] at h
      omega
    simp [hmore]

/-- The place in front of a character. -/
theorem isIn_behind {text before after : List Char} {c : Char}
    (h : text = before ++ c :: after) : (behind before).IsIn text :=
  ⟨before, c :: after, h, rfl⟩

end Position

end TerraLint
