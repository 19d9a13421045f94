import TerraLint.Proofs.Cut

/-!
# The grammar of quoted templates

A quoted template is a word of a grammar: an opening quote, chunks, and a closing quote,
where a chunk may hold an interpolation, and that may hold braces and quoted templates
again (`TerraLint.Template.IsQuoted`). The scanner knows no grammar. It reads the text
once, with the open constructs on a stack and the open braces of an interpolation counted.
The theorem of this file is that it closes a template exactly behind the one word of the
grammar that the text begins with (`TerraLint.Token.closeTemplate_isQuoted`).

## Steps

What the scanner can do is said once (`TerraLint.Token.Step`): in front of a given text it
reads a piece of one to three characters and changes the top of its stack. Every step is
made (`TerraLint.Token.Step.scans`), and where no step is possible the scanner gives
up and blames the innermost construct (`TerraLint.Token.exists_step`). A statement about
whole scans is proved step by step (`TerraLint.Token.scan_induction`).

## Both directions

* A word of the grammar is scanned to its end, whatever follows it
  (`TerraLint.Template.ToQuote.scans`): the induction is over the grammar.
* What has been scanned is a word of the grammar for each construct of the stack, one
  behind the other (`TerraLint.Token.Closes`): here the induction is over the steps, and
  an interpolation with several open braces takes one word for each of them.
-/

namespace TerraLint

/-! ### The grammar -/

/-- The signs that open an interpolation when a brace follows, and that are doubled to stand
for themselves. -/
def Template.sigils : List Char := ['$', '%']

namespace Template

mutual

/-- **The pieces of a template**, each in view of the text behind it. -/
inductive Chunk : List Char → List Char → Prop
  /-- A backslash and any character. -/
  | escape (c : Char) (after : List Char) : Chunk ['\\', c] after
  /-- A doubled sign, when no opening brace follows. -/
  | doubled {s : Char} {after : List Char} : s ∈ sigils → after.head? ≠ some '{' →
      Chunk [s, s] after
  /-- A doubled sign with the opening brace that follows. -/
  | doubledBrace {s : Char} (after : List Char) : s ∈ sigils → Chunk [s, s, '{'] after
  /-- An interpolation. -/
  | interpolation {s : Char} {inside : List Char} (after : List Char) : s ∈ sigils →
      ToBrace inside → Chunk (s :: '{' :: inside) after
  /-- Any other character, which begins none of the pieces above. -/
  | plain {c : Char} {after : List Char} : c ∉ ['"', '\\', '\n'] →
      (c ∈ sigils → after.head? ≠ some '{' ∧ after.head? ≠ some c) → Chunk [c] after

/-- Chunks up to a closing quote: what stands behind the opening quote. -/
inductive ToQuote : List Char → Prop
  | close : ToQuote ['"']
  | chunk {chunk after : List Char} : Chunk chunk after → ToQuote after → ToQuote (chunk ++ after)

/-- The inside of an interpolation or of a group of braces, up to the closing brace. -/
inductive ToBrace : List Char → Prop
  | close : ToBrace ['}']
  | plain {c : Char} {after : List Char} : c ∉ ['"', '{', '}'] → ToBrace after →
      ToBrace (c :: after)
  /-- A quoted template. -/
  | quoted {inner after : List Char} : ToQuote inner → ToBrace after →
      ToBrace ('"' :: (inner ++ after))
  /-- A group of braces. -/
  | group {inner after : List Char} : ToBrace inner → ToBrace after →
      ToBrace ('{' :: (inner ++ after))

end

/-- **Quoted templates**: an opening quote, chunks, and a closing quote. -/
def IsQuoted (word : List Char) : Prop := ∃ inner, word = '"' :: inner ∧ ToQuote inner

end Template

/-! ### The steps of the scanner -/

namespace Token

open Template

/-- The number of characters read when all constructs on a stack have been closed, the
innermost first. -/
def closeAll (read : Nat) : List Frame → List Char → Except Unterminated Nat
  | [], _ => .ok read
  | frame :: outer, text => closeTemplate read frame outer text

/-- **One step of the scanner**: `Step read rest stack piece stack'` says that, behind `read`
characters and in front of `piece ++ rest`, it reads the piece and changes the stack. -/
inductive Step (read : Nat) (rest : List Char) : List Frame → List Char → List Frame → Prop
  | escape {start : Nat} {outer : List Frame} (c : Char) :
      Step read rest (.quote start :: outer) ['\\', c] (.quote start :: outer)
  | doubled {start : Nat} {outer : List Frame} {s : Char} : s ∈ sigils → rest.head? ≠ some '{' →
      Step read rest (.quote start :: outer) [s, s] (.quote start :: outer)
  | doubledBrace {start : Nat} {outer : List Frame} {s : Char} : s ∈ sigils →
      Step read rest (.quote start :: outer) [s, s, '{'] (.quote start :: outer)
  | plain {start : Nat} {outer : List Frame} {c : Char} : c ∉ ['"', '\\', '\n'] →
      (c ∈ sigils → rest.head? ≠ some '{' ∧ rest.head? ≠ some c) →
      Step read rest (.quote start :: outer) [c] (.quote start :: outer)
  | openInterpolation {start : Nat} {outer : List Frame} {s : Char} : s ∈ sigils →
      Step read rest (.quote start :: outer) [s, '{']
        (.interpolation read 1 :: .quote start :: outer)
  | closeQuote {start : Nat} {outer : List Frame} :
      Step read rest (.quote start :: outer) ['"'] outer
  | inside {start braces : Nat} {outer : List Frame} {c : Char} : c ∉ ['"', '{', '}'] →
      Step read rest (.interpolation start braces :: outer) [c]
        (.interpolation start braces :: outer)
  | openQuote {start braces : Nat} {outer : List Frame} :
      Step read rest (.interpolation start braces :: outer) ['"']
        (.quote read :: .interpolation start braces :: outer)
  | openBrace {start braces : Nat} {outer : List Frame} :
      Step read rest (.interpolation start braces :: outer) ['{']
        (.interpolation start (braces + 1) :: outer)
  | closeBrace {start braces : Nat} {outer : List Frame} : 1 < braces →
      Step read rest (.interpolation start braces :: outer) ['}']
        (.interpolation start (braces - 1) :: outer)
  | closeInterpolation {start braces : Nat} {outer : List Frame} : braces ≤ 1 →
      Step read rest (.interpolation start braces :: outer) ['}'] outer

theorem Step.piece_ne_nil {read : Nat} {rest piece : List Char} {stack stack' : List Frame}
    (h : Step read rest stack piece stack') : piece ≠ [] := by
  cases h <;> simp

/-- In front of `rest` the piece is scanned, and the scan goes on with another stack. -/
def Scans (read : Nat) (rest : List Char) (stack : List Frame) (piece : List Char)
    (stack' : List Frame) : Prop :=
  closeAll read stack (piece ++ rest) = closeAll (read + piece.length) stack' rest

/-- Two pieces are scanned one behind the other. -/
theorem Scans.trans {read : Nat} {rest a b : List Char} {stack stack' stack'' : List Frame}
    (ha : Scans read (b ++ rest) stack a stack')
    (hb : Scans (read + a.length) rest stack' b stack'') :
    Scans read rest stack (a ++ b) stack'' := by
  rw [Scans, List.append_assoc, List.length_append, ← Nat.add_assoc]
  exact Eq.trans ha hb

/-- **Every step is made.** -/
theorem Step.scans {read : Nat} {rest piece : List Char} {stack stack' : List Frame}
    (h : Step read rest stack piece stack') : Scans read rest stack piece stack' := by
  unfold Scans
  cases h with
  | escape c => simp [closeAll, closeTemplate]
  | doubled hs hrest =>
    have hbrace : ∀ after, rest = '{' :: after → False := fun after h => hrest (by simp [h])
    rcases List.mem_pair.mp hs with rfl | rfl
    · simp [closeAll, closeTemplate]
    · simp [closeAll, closeTemplate]
  | doubledBrace hs =>
    rcases List.mem_pair.mp hs with rfl | rfl
    · simp [closeAll, closeTemplate]
    · simp [closeAll, closeTemplate]
  | plain hc hrest =>
    simp only [List.mem_cons, List.not_mem_nil, or_false, not_or] at hc
    obtain ⟨hquote, hbackslash, hfeed⟩ := hc
    simp only [closeAll, List.singleton_append, List.length_singleton]
    rw [closeTemplate]
    · exact hfeed
    · exact hquote
    · exact fun _ _ h => absurd h hbackslash
    -- what is left are the pieces that a sign begins
    all_goals
      rintro after rfl rfl
      simp [sigils] at hrest
  | openInterpolation hs =>
    rcases List.mem_pair.mp hs with rfl | rfl
    · simp [closeAll, closeTemplate]
    · simp [closeAll, closeTemplate]
  | closeQuote => cases stack' <;> simp [closeAll, closeTemplate]
  | inside hc =>
    simp only [List.mem_cons, List.not_mem_nil, or_false, not_or] at hc
    simp [closeAll, closeTemplate, hc]
  | openQuote => simp [closeAll, closeTemplate]
  | openBrace => simp [closeAll, closeTemplate]
  | closeBrace h => simp [closeAll, closeTemplate, Nat.not_le.mpr h]
  | closeInterpolation h => cases stack' <;> simp [closeAll, closeTemplate, h]

/-- In a template a sign is read with what it opens or protects. -/
theorem exists_step_of_sigil (read : Nat) {start : Nat} {outer : List Frame} {s : Char}
    (hs : s ∈ sigils) (hplain : s ∉ ['"', '\\', '\n']) (text : List Char) :
    ∃ piece rest stack, s :: text = piece ++ rest ∧
      Step read rest (.quote start :: outer) piece stack := by
  by_cases hbrace : text.head? = some '{'
  · obtain ⟨rest, rfl⟩ := List.head?_eq_some_iff.mp hbrace
    exact ⟨[s, '{'], rest, _, rfl, .openInterpolation hs⟩
  by_cases hdouble : text.head? = some s
  · obtain ⟨rest, rfl⟩ := List.head?_eq_some_iff.mp hdouble
    by_cases hbrace' : rest.head? = some '{'
    · obtain ⟨rest, rfl⟩ := List.head?_eq_some_iff.mp hbrace'
      exact ⟨[s, s, '{'], rest, _, rfl, .doubledBrace hs⟩
    · exact ⟨[s, s], rest, _, rfl, .doubled hs hbrace'⟩
  · exact ⟨[s], text, _, rfl, .plain hplain fun _ => ⟨hbrace, hdouble⟩⟩

/-- **A step is possible, or the scanner gives up** and blames the innermost construct. -/
theorem exists_step (read : Nat) (frame : Frame) (outer : List Frame) (text : List Char) :
    (∃ piece rest stack, text = piece ++ rest ∧ Step read rest (frame :: outer) piece stack) ∨
      closeTemplate read frame outer text = .error frame.unterminated := by
  cases text with
  | nil => exact .inr (by simp [closeTemplate])
  | cons c rest =>
    cases frame with
    | quote start =>
      by_cases hfeed : c = '\n'
      · exact .inr (by simp [hfeed, closeTemplate])
      by_cases hquote : c = '"'
      · subst hquote
        exact .inl ⟨['"'], rest, outer, rfl, .closeQuote⟩
      by_cases hbackslash : c = '\\'
      · subst hbackslash
        cases rest with
        | nil => exact .inr (by simp [closeTemplate])
        | cons d rest => exact .inl ⟨['\\', d], rest, _, rfl, .escape d⟩
      have hc : c ∉ ['"', '\\', '\n'] := by simp [hfeed, hquote, hbackslash]
      by_cases hs : c ∈ sigils
      · exact .inl (exists_step_of_sigil read hs hc rest)
      · exact .inl ⟨[c], rest, _, rfl, .plain hc fun h => absurd h hs⟩
    | interpolation start braces =>
      by_cases hquote : c = '"'
      · subst hquote
        exact .inl ⟨['"'], rest, _, rfl, .openQuote⟩
      by_cases hopen : c = '{'
      · subst hopen
        exact .inl ⟨['{'], rest, _, rfl, .openBrace⟩
      by_cases hclose : c = '}'
      · subst hclose
        by_cases hbraces : braces ≤ 1
        · exact .inl ⟨['}'], rest, _, rfl, .closeInterpolation hbraces⟩
        · exact .inl ⟨['}'], rest, _, rfl, .closeBrace (by omega)⟩
      · exact .inl ⟨[c], rest, _, rfl, .inside (by simp [hquote, hopen, hclose])⟩

/-- **Induction along a scan**: a statement holds if it holds of the empty stack and where the
scanner gives up, and if every step hands it back from what is left. -/
theorem scan_induction {P : Nat → List Frame → List Char → Prop}
    (done : ∀ read text, P read [] text)
    (stuck : ∀ read frame outer text,
      closeTemplate read frame outer text = .error frame.unterminated →
        P read (frame :: outer) text)
    (step : ∀ read stack piece rest stack', Step read rest stack piece stack' →
      P (read + piece.length) stack' rest → P read stack (piece ++ rest))
    (read : Nat) (stack : List Frame) (text : List Char) : P read stack text := by
  induction hn : text.length using Nat.strong_induction_on generalizing read stack text with
  | _ n ih =>
    cases stack with
    | nil => exact done read text
    | cons frame outer =>
      rcases exists_step read frame outer text with ⟨piece, rest, stack', rfl, hstep⟩ | herror
      · have hlt : rest.length < n := by
          have hpos := List.length_pos_of_ne_nil hstep.piece_ne_nil
          rw [← hn, List.length_append]
          omega
        exact step read _ piece rest stack' hstep (ih _ hlt _ stack' rest rfl)
      · exact stuck read frame outer text herror

end Token

/-! ### Words of the grammar are scanned to their end -/

namespace Template

open Token

/-- What is closed is not empty. -/
theorem ToQuote.ne_nil {text : List Char} (h : ToQuote text) : text ≠ [] := by
  cases h with
  | close => simp
  | chunk hchunk _ => cases hchunk <;> simp

/-- Of the text behind it a chunk has only the first character in view. -/
theorem Chunk.congr_head {chunk after after' : List Char} (h : Chunk chunk after)
    (hhead : after.head? = after'.head?) : Chunk chunk after' := by
  cases h with
  | escape c => exact .escape c _
  | doubled hs hbrace => exact .doubled hs (hhead ▸ hbrace)
  | doubledBrace _ hs => exact .doubledBrace _ hs
  | interpolation _ hs hinside => exact .interpolation _ hs hinside
  | plain hc hs => exact .plain hc (hhead ▸ hs)

/-- The stack behind a closing brace, where `braces` are still open behind it. -/
def afterBrace (start braces : Nat) (outer : List Frame) : List Frame :=
  if braces = 0 then outer else .interpolation start braces :: outer

theorem step_close {read start braces : Nat} {outer : List Frame} {rest : List Char} :
    Step read rest (.interpolation start (braces + 1) :: outer) ['}']
      (afterBrace start braces outer) := by
  cases braces with
  | zero => exact .closeInterpolation le_rfl
  | succ braces => exact .closeBrace (by omega)

-- The recursion is over the derivation of the word.
mutual

/-- A chunk is scanned, and the template goes on behind it. -/
theorem Chunk.scans {chunk after : List Char} (h : Chunk chunk after) (hafter : after ≠ [])
    (read start : Nat) (outer : List Frame) (rest : List Char) :
    Scans read (after ++ rest) (.quote start :: outer) chunk (.quote start :: outer) := by
  -- the character that a chunk has in view belongs to the word
  have hhead : after.head? = (after ++ rest).head? := (List.head?_append_of_ne_nil _ hafter).symm
  match h with
  | .escape c _ => exact (Step.escape c).scans
  | .doubled hs hbrace => exact (Step.doubled hs (hhead ▸ hbrace)).scans
  | .doubledBrace _ hs => exact (Step.doubledBrace hs).scans
  | .interpolation _ hs hinside =>
    exact (Step.openInterpolation hs).scans.trans (hinside.scans (read + 2) read 0 _ _)
  | .plain hc hs => exact (Step.plain hc fun h => hhead ▸ hs h).scans

/-- **A word up to a closing quote** closes the innermost template. -/
theorem ToQuote.scans {text : List Char} (h : ToQuote text) (read start : Nat)
    (outer : List Frame) (rest : List Char) :
    Scans read rest (.quote start :: outer) text outer := by
  match h with
  | .close => exact Step.closeQuote.scans
  | .chunk hchunk hafter =>
    exact (hchunk.scans hafter.ne_nil read start outer rest).trans (hafter.scans _ _ _ _)

/-- **A word up to a closing brace** closes one brace of the innermost interpolation. -/
theorem ToBrace.scans {text : List Char} (h : ToBrace text) (read start braces : Nat)
    (outer : List Frame) (rest : List Char) :
    Scans read rest (.interpolation start (braces + 1) :: outer) text
      (afterBrace start braces outer) := by
  match h with
  | .close => exact step_close.scans
  | .plain hc hafter => exact (Step.inside hc).scans.trans (hafter.scans _ _ _ _ _)
  | .quoted hinner hafter =>
    exact Step.openQuote.scans.trans ((hinner.scans _ _ _ _).trans (hafter.scans _ _ _ _ _))
  | .group hinner hafter =>
    exact Step.openBrace.scans.trans ((hinner.scans _ start (braces + 1) outer _).trans
      (hafter.scans _ _ _ _ _))

end

end Template

/-! ### What has been scanned are words of the grammar -/

namespace Token

open Template

/-- **The text closes the stack**: it is made of a word of the grammar for each construct on
it, and of one for each open brace of an interpolation. -/
inductive Closes : List Frame → List Char → Prop
  | nil : Closes [] []
  | quote {start : Nat} {outer : List Frame} {word text : List Char} : ToQuote word →
      Closes outer text → Closes (.quote start :: outer) (word ++ text)
  | brace {start braces : Nat} {outer : List Frame} {word text : List Char} : ToBrace word →
      Closes (afterBrace start braces outer) text →
      Closes (.interpolation start (braces + 1) :: outer) (word ++ text)

/-- A construct that is open: an interpolation has at least one open brace. -/
def Frame.IsOpen : Frame → Prop
  | .quote _ => True
  | .interpolation _ braces => 0 < braces

/-- A text that closes a stack is scanned to its end. -/
theorem Closes.scans {stack : List Frame} {text : List Char} (h : Closes stack text) (read : Nat)
    (rest : List Char) : Scans read rest stack text [] := by
  induction h generalizing read with
  | nil => rfl
  | quote hword _ ih => exact (hword.scans _ _ _ _).trans (ih _)
  | brace hword _ ih => exact (hword.scans _ _ _ _ _).trans (ih _)

/-- Steps keep the constructs of the stack open. -/
theorem Step.isOpen {read : Nat} {rest piece : List Char} {stack stack' : List Frame}
    (h : Step read rest stack piece stack') (hopen : ∀ f ∈ stack, f.IsOpen) :
    ∀ f ∈ stack', f.IsOpen := by
  cases h with
  | escape | doubled | doubledBrace | plain | inside => exact hopen
  | openInterpolation => exact List.forall_mem_cons.mpr ⟨Nat.one_pos, hopen⟩
  | openQuote => exact List.forall_mem_cons.mpr ⟨trivial, hopen⟩
  | closeQuote | closeInterpolation => exact (List.forall_mem_cons.mp hopen).2
  | openBrace =>
    exact List.forall_mem_cons.mpr ⟨Nat.succ_pos _, (List.forall_mem_cons.mp hopen).2⟩
  | closeBrace hlt =>
    exact List.forall_mem_cons.mpr ⟨Nat.sub_pos_of_lt hlt, (List.forall_mem_cons.mp hopen).2⟩

/-- A chunk may be put in front of a text that closes a template first. -/
theorem Closes.chunk {start : Nat} {outer : List Frame} {chunk text : List Char}
    (h : Closes (.quote start :: outer) text) (rest : List Char)
    (hchunk : Chunk chunk (text ++ rest)) :
    Closes (.quote start :: outer) (chunk ++ text) := by
  cases h with
  | @quote _ _ word text hword hrest =>
    -- the word is not empty, so that a chunk has the same character in view
    have hhead : (word ++ text ++ rest).head? = word.head? := by
      rw [List.append_assoc, List.head?_append_of_ne_nil _ hword.ne_nil]
    rw [← List.append_assoc]
    exact .quote (.chunk (hchunk.congr_head hhead) hword) hrest

/-- Inside an interpolation a piece may be put in front if it may be put in front of every
word up to a brace. -/
theorem Closes.inside {start braces : Nat} {outer : List Frame} {text : List Char}
    (h : Closes (.interpolation start braces :: outer) text) (piece : List Char)
    (hpiece : ∀ word, ToBrace word → ToBrace (piece ++ word)) :
    Closes (.interpolation start braces :: outer) (piece ++ text) := by
  cases h with
  | brace hword hrest =>
    rw [← List.append_assoc]
    exact .brace (hpiece _ hword) hrest

/-- **One step back.** Where a text closes the stack behind a step, the piece and the text
close the stack in front of it. -/
theorem Step.closes {read : Nat} {text rest piece : List Char} {stack stack' : List Frame}
    (h : Step read (text ++ rest) stack piece stack') (hopen : ∀ f ∈ stack, f.IsOpen)
    (hclose : Closes stack' text) : Closes stack (piece ++ text) := by
  cases h with
  | escape c => exact hclose.chunk rest (.escape c _)
  | doubled hs hbrace => exact hclose.chunk rest (.doubled hs hbrace)
  | doubledBrace hs => exact hclose.chunk rest (.doubledBrace _ hs)
  | plain hc hs => exact hclose.chunk rest (.plain hc hs)
  | openInterpolation hs =>
    cases hclose with
    | brace hword hrest => exact hrest.chunk rest (.interpolation _ hs hword)
  | closeQuote => exact .quote .close hclose
  | inside hc => exact hclose.inside _ fun _ => .plain hc
  | openQuote =>
    cases hclose with
    | @quote _ _ inner _ hinner hrest =>
      exact hrest.inside ('"' :: inner) fun _ => .quoted hinner
  | @openBrace start braces outer =>
    have hpos : 0 < braces := hopen (.interpolation start braces) List.mem_cons_self
    cases hclose with
    | @brace _ _ _ inner _ hinner hrest =>
      rw [afterBrace, if_neg (by omega)] at hrest
      exact hrest.inside ('{' :: inner) fun _ => .group hinner
  | @closeBrace start braces outer hlt =>
    obtain ⟨braces, rfl⟩ : ∃ n, braces = n + 2 := ⟨braces - 2, by omega⟩
    exact .brace .close hclose
  | @closeInterpolation start braces outer hle =>
    have hpos : 0 < braces := hopen (.interpolation start braces) List.mem_cons_self
    obtain rfl : braces = 1 := by omega
    exact .brace .close hclose

/-- **Only texts that close the stack are scanned.** -/
theorem exists_closes {read length : Nat} {stack : List Frame} {text : List Char}
    (h : closeAll read stack text = .ok length) (hopen : ∀ f ∈ stack, f.IsOpen) :
    ∃ closing rest, text = closing ++ rest ∧ length = read + closing.length ∧
      Closes stack closing := by
  induction read, stack, text using scan_induction with
  | done read text => exact ⟨[], text, rfl, (Except.ok.inj h).symm, .nil⟩
  | stuck read frame outer text herror => cases herror.symm.trans h
  | step read stack piece rest stack' hstep ih =>
    rw [hstep.scans] at h
    obtain ⟨closing, left, rfl, rfl, hcloses⟩ := ih h (hstep.isOpen hopen)
    refine ⟨piece ++ closing, left, by simp, by simp [Nat.add_assoc], ?_⟩
    exact hstep.closes hopen hcloses

/-- **The scanner closes its stack** exactly where the text begins with one that does. -/
theorem closeAll_eq_ok_iff {read length : Nat} {stack : List Frame} {text : List Char}
    (hopen : ∀ f ∈ stack, f.IsOpen) :
    closeAll read stack text = .ok length ↔
      ∃ closing rest, text = closing ++ rest ∧ length = read + closing.length ∧
        Closes stack closing := by
  refine ⟨fun h => exists_closes h hopen, ?_⟩
  rintro ⟨closing, rest, rfl, rfl, hcloses⟩
  rw [hcloses.scans read rest]
  rfl

theorem closes_singleton_quote {start : Nat} {text : List Char} :
    Closes [.quote start] text ↔ ToQuote text := by
  constructor
  · intro h
    cases h with
    | quote hword hrest =>
      cases hrest with
      | nil => simpa using hword
  · intro h
    simpa using Closes.quote h .nil

/-- A quoted template in front of a text is found, with its opening quote counted. -/
theorem closeTemplate_eq_ok_iff {rest : List Char} {length : Nat} :
    closeTemplate 1 (.quote 0) [] rest = .ok length ↔
      ∃ word, word <+: '"' :: rest ∧ IsQuoted word ∧ word.length = length := by
  have hopen : ∀ f ∈ [Frame.quote 0], f.IsOpen := by simp [Frame.IsOpen]
  have hscan : closeAll 1 [.quote 0] rest = .ok length ↔ _ := closeAll_eq_ok_iff hopen
  simp only [closes_singleton_quote] at hscan
  refine hscan.trans ⟨?_, ?_⟩
  · rintro ⟨inner, left, rfl, rfl, hinner⟩
    exact ⟨'"' :: inner, ⟨left, rfl⟩, ⟨inner, rfl, hinner⟩, by simp [Nat.add_comm]⟩
  · rintro ⟨word, ⟨left, hleft⟩, ⟨inner, rfl, hinner⟩, rfl⟩
    exact ⟨inner, left, (List.cons.inj hleft).2.symm, by simp [Nat.add_comm], hinner⟩

/-- **The scanner of quoted templates follows the grammar.** Behind an opening quote it finds
an end exactly if the text begins with a quoted template; that template is the only one with
which the text begins, and its length is what the scanner finds. -/
theorem closeTemplate_isQuoted (rest : List Char) :
    (∀ length, closeTemplate 1 (.quote 0) [] rest = .ok length ↔
      ∃ word, word <+: '"' :: rest ∧ IsQuoted word ∧ word.length = length) ∧
    ∀ word word', word <+: '"' :: rest → word' <+: '"' :: rest →
      IsQuoted word → IsQuoted word' → word = word' := by
  refine ⟨fun length => closeTemplate_eq_ok_iff, ?_⟩
  intro word word' hword hword' hquoted hquoted'
  -- both lengths are the number that the scanner finds
  have hlength := closeTemplate_eq_ok_iff.mpr ⟨word, hword, hquoted, rfl⟩
  have hlength' := closeTemplate_eq_ok_iff.mpr ⟨word', hword', hquoted', rfl⟩
  have heq : word.length = word'.length := Except.ok.inj (hlength.symm.trans hlength')
  exact (List.prefix_of_prefix_length_le hword hword' heq.le).eq_of_length heq

/-- Behind the opening quote an interpolation with a closing brace in quotes, and a doubled
sign with a brace that opens nothing. -/
theorem closeTemplate_isQuoted_nested :
    closeTemplate 1 (.quote 0) [] "$\x7ba[\"\x7d\"]\x7d%%\x7b\" b\"".toList = .ok 14 ∧
    IsQuoted "\"$\x7ba[\"\x7d\"]\x7d%%\x7b\"".toList ∧
    ∀ word, word <+: '"' :: "$\x7ba[\"\x7d\"]\x7d%%\x7b\" b\"".toList → IsQuoted word →
      word = "\"$\x7ba[\"\x7d\"]\x7d%%\x7b\"".toList := by
  have hscan :
      closeTemplate 1 (.quote 0) [] "$\x7ba[\"\x7d\"]\x7d%%\x7b\" b\"".toList = .ok 14 := by
    decide
  obtain ⟨hlength, hunique⟩ := closeTemplate_isQuoted "$\x7ba[\"\x7d\"]\x7d%%\x7b\" b\"".toList
  obtain ⟨found, hfound, hquoted, hlen⟩ := (hlength 14).mp hscan
  obtain rfl : found = "\"$\x7ba[\"\x7d\"]\x7d%%\x7b\"".toList := by
    rw [List.prefix_iff_eq_take.mp hfound, hlen]
    decide
  exact ⟨hscan, hquoted, fun word hword h => hunique word _ hword hfound h hquoted⟩

end Token

end TerraLint
