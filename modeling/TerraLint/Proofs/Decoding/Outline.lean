import TerraLint.Document
import TerraLint.Proofs.Tiling

/-!
# The outline of a text

Where a document's grammar and the tokens of its text meet, most tokens do not
matter: whether `in` and the name behind it are one identifier or two is of no
consequence. What matters is where comments, quoted templates and heredocs begin
and end. The *outline* of a text (`TerraLint.Outline`) is its cut into these three
and, outside of them, into single characters. Unlike a cut into lexemes it can be
made from any character outside of the three, which is what a parser needs that
stops in the middle of a lexeme.

An outline lists the *spots* of the text, its templates and the places where code
stands that is not blank. Each of them is found again among the tokens
(`TerraLint.Outline.exists_cut`): a template is a token, and a character of code
lies in a token of content.
-/

namespace TerraLint

/-- The kinds of the two sorts of templates. -/
def Kind.IsTemplate (kind : Kind) : Prop := kind = .quoted ∨ kind = .heredoc

namespace Lexeme

/-! ### Comments, quoted templates and heredocs -/

/-- A comment, a quoted template or a heredoc begins with `c`, when `rest` follows. -/
def Opens (c : Char) (rest : List Char) : Prop :=
  c = '#' ∨ c = '"' ∨ c = '/' ∧ (rest.head? = some '/' ∨ rest.head? = some '*') ∨
    c = '<' ∧ heredocMarker? rest ≠ none

/-- The characters with which one of them can begin. -/
def openers : List Char := ['#', '"', '/', '<']

/-- A character with which none of them begins, whatever follows. -/
def Plain (c : Char) : Prop := c ∉ openers

instance (c : Char) : Decidable (Plain c) := inferInstanceAs (Decidable (_ ∉ _))

/-- A text of plain characters. -/
def PlainText (text : List Char) : Prop := ∀ c ∈ text, Plain c

instance (text : List Char) : Decidable (PlainText text) := List.decidableBAll Plain text

@[simp] theorem plainText_nil : PlainText [] := by simp [PlainText]

@[simp] theorem plainText_singleton {c : Char} : PlainText [c] ↔ Plain c := by simp [PlainText]

theorem Plain.not_opens {c : Char} (h : Plain c) (rest : List Char) : ¬Opens c rest := by
  simp only [Plain, openers, List.mem_cons, List.not_mem_nil, or_false, not_or] at h
  rintro (rfl | rfl | ⟨rfl, -⟩ | ⟨rfl, -⟩) <;> simp at h

/-- A blank character: it lies in no token of content. -/
def IsBlankChar (c : Char) : Prop := c ∈ [' ', '\t', '\r', '\n']

theorem IsBlankChar.plain {c : Char} (h : IsBlankChar c) : Plain c := by
  simp only [IsBlankChar, List.mem_cons, List.not_mem_nil, or_false] at h
  rcases h with rfl | rfl | rfl | rfl <;> decide

/-- Only what opens can be left open. -/
theorem opens_of_first_error {c : Char} {rest : List Char} {u : Unterminated}
    (h : first c rest = .error u) : Opens c rest := by
  cases leftOpen_of_first h with
  | blockComment => exact .inr (.inr (.inl ⟨rfl, .inr rfl⟩))
  | quoted => exact .inr (.inl rfl)
  | heredoc hmarker => exact .inr (.inr (.inr ⟨rfl, by simp [hmarker]⟩))

theorem Shape.opens_of_comment {c : Char} {rest : List Char} {extra : Nat}
    (h : Shape c rest (some .comment) extra) : Opens c rest := by
  cases h with
  | lineComment h =>
    rcases h with rfl | ⟨rfl, h⟩
    · exact .inl rfl
    · exact .inr (.inr (.inl ⟨rfl, .inl h⟩))
  | blockComment => exact .inr (.inr (.inl ⟨rfl, .inr rfl⟩))
  | bracket h => simp [brackets] at h

theorem Shape.opens_of_template {c : Char} {rest : List Char} {kind : Kind} {extra : Nat}
    (h : Shape c rest (some kind) extra) (hkind : kind.IsTemplate) : Opens c rest := by
  rcases hkind with rfl | rfl
  · cases h with
    | quoted => exact .inr (.inl rfl)
    | bracket h => simp [brackets] at h
  · cases h with
    | heredoc hmarker => exact .inr (.inr (.inr ⟨rfl, by simp [hmarker]⟩))
    | bracket h => simp [brackets] at h

/-! ### What continues a lexeme is plain -/

/-- A class of characters is plain as soon as it holds none of the four that open. -/
theorem plain_of_class {p : Char → Bool} (hp : openers.all (fun c => !p c) = true)
    {c : Char} (hc : p c = true) : Plain c := by
  intro hmem
  have := List.all_eq_true.mp hp c hmem
  simp [hc] at this

theorem plain_of_mem_takeWhile {p : Char → Bool}
    (hp : openers.all (fun c => !p c) = true) {text : List Char} {c : Char}
    (hc : c ∈ text.takeWhile p) : Plain c :=
  plain_of_class hp (List.mem_takeWhile_imp hc)

theorem take_takeWhile (p : Char → Bool) (text : List Char) :
    text.take (text.takeWhile p).length = text.takeWhile p :=
  (List.prefix_iff_eq_take.mp (List.takeWhile_prefix p)).symm

theorem plain_of_mem_digits {text : List Char} {c : Char} (hc : c ∈ text.take (digitCount text)) :
    Plain c := by
  rw [digitCount, take_takeWhile] at hc
  exact plain_of_mem_takeWhile (by decide) hc

theorem plain_of_mem_fraction {text : List Char} {c : Char}
    (hc : c ∈ text.take (fractionLength text)) : Plain c := by
  unfold fractionLength at hc
  split at hc
  · split at hc
    · simp at hc
    · rw [Nat.add_comm, List.take_succ_cons] at hc
      rcases List.mem_cons.mp hc with rfl | hc
      · decide
      · exact plain_of_mem_digits hc
  · simp at hc

theorem plain_of_mem_sign {text : List Char} {c : Char} (hc : c ∈ text.take (signLength text)) :
    Plain c := by
  unfold signLength at hc
  split at hc
  · obtain rfl : c = '+' := by simpa using hc
    decide
  · obtain rfl : c = '-' := by simpa using hc
    decide
  · simp at hc

theorem plain_of_mem_exponent {text : List Char} {c : Char}
    (hc : c ∈ text.take (exponentLength text)) : Plain c := by
  cases text with
  | nil => simp at hc
  | cons d rest =>
    simp only [exponentLength] at hc
    split at hc
    · rename_i hd
      split at hc
      · simp at hc
      · rw [show ∀ n m, 1 + n + m = n + m + 1 by omega, List.take_succ_cons, List.take_add] at hc
        rcases List.mem_cons.mp hc with rfl | hc
        · rcases hd with rfl | rfl <;> decide
        · rcases List.mem_append.mp hc with hc | hc
          · exact plain_of_mem_sign hc
          · exact plain_of_mem_digits hc
    · simp at hc

theorem plain_of_mem_number {text : List Char} {c : Char}
    (hc : c ∈ text.take (numberLength text)) : Plain c := by
  simp only [numberLength, List.take_add] at hc
  rcases List.mem_append.mp hc with hc | hc
  · rcases List.mem_append.mp hc with hc | hc
    · exact plain_of_mem_digits hc
    · exact plain_of_mem_fraction hc
  · exact plain_of_mem_exponent hc

/-- The characters of a lexeme that opens nothing are plain behind the first one, and all of
them are blank if the lexeme is no content. -/
theorem Shape.plain_of_not_opens {c : Char} {rest : List Char} {kind : Option Kind} {extra : Nat}
    (h : Shape c rest kind extra) (hopens : ¬Opens c rest) :
    PlainText (rest.take extra) ∧
      ((∃ k, kind = some k ∧ k.isTrivia = false) ∨ ∀ d ∈ c :: rest.take extra, IsBlankChar d) := by
  cases h with
  | blank h =>
    refine ⟨by simp, .inr ?_⟩
    rcases h with rfl | rfl <;> simp [IsBlankChar]
  | carriageReturn h => exact ⟨by simp, .inr (by simp [IsBlankChar])⟩
  | lineFeed => exact ⟨by simp, .inr (by simp [IsBlankChar])⟩
  | lineEnd h =>
    obtain ⟨rest, rfl⟩ := List.head?_eq_some_iff.mp h
    refine ⟨?_, .inr (by simp [IsBlankChar])⟩
    intro d hd
    obtain rfl : d = '\n' := by simpa using hd
    decide
  | lineComment h =>
    rcases h with rfl | ⟨rfl, h⟩
    · exact absurd (.inl rfl) hopens
    · exact absurd (.inr (.inr (.inl ⟨rfl, .inl h⟩))) hopens
  | blockComment h => exact absurd (.inr (.inr (.inl ⟨rfl, .inr rfl⟩))) hopens
  | @bracket _ _ kind h =>
    refine ⟨by simp, .inl ⟨kind, rfl, ?_⟩⟩
    simp only [brackets, List.mem_cons, Prod.mk.injEq, List.not_mem_nil, or_false] at h
    rcases h with ⟨-, rfl⟩ | ⟨-, rfl⟩ | ⟨-, rfl⟩ | ⟨-, rfl⟩ | ⟨-, rfl⟩ | ⟨-, rfl⟩ <;> rfl
  | equals => exact ⟨by simp, .inl ⟨_, rfl, rfl⟩⟩
  | operator h =>
    refine ⟨?_, .inl ⟨_, rfl, rfl⟩⟩
    intro d hd
    rcases h with h | h
    all_goals
      obtain ⟨rest, rfl⟩ := List.head?_eq_some_iff.mp h
      obtain rfl := List.mem_singleton.mp (by simpa using hd)
      decide
  | quoted => exact absurd (.inr (.inl rfl)) hopens
  | heredoc hmarker => exact absurd (.inr (.inr (.inr ⟨rfl, by simp [hmarker]⟩))) hopens
  | number => exact ⟨fun d hd => plain_of_mem_number hd, .inl ⟨_, rfl, rfl⟩⟩
  | identifier =>
    refine ⟨fun d hd => ?_, .inl ⟨_, rfl, rfl⟩⟩
    rw [take_takeWhile] at hd
    exact plain_of_mem_takeWhile (by decide) hd
  | slash => exact ⟨by simp, .inl ⟨_, rfl, rfl⟩⟩
  | other => exact ⟨by simp, .inl ⟨_, rfl, rfl⟩⟩

end Lexeme

/-! ### Outlines -/

open Lexeme Position

/-- A place that an outline shows. -/
inductive Spot where
  /-- A stretch that begins with a character of code, not a blank. -/
  | code (span : ByteSpan)
  /-- A quoted template or a heredoc. -/
  | template (span : ByteSpan)

/-- The spot is found among the tokens. -/
def Spot.FoundIn (tokens : List Token) : Spot → Prop
  | code span =>
    span.start < span.stop ∧ ∃ t ∈ tokens, t.kind.isTrivia = false ∧ t.Covers span.start
  | template span => ∃ t ∈ tokens, t.kind.IsTemplate ∧ t.bytes = span

theorem Spot.FoundIn.mono {tokens more : List Token} {s : Spot} (h : s.FoundIn tokens)
    (hsub : tokens ⊆ more) : s.FoundIn more := by
  cases s with
  | code span =>
    obtain ⟨hlt, t, ht, hkind, hcovers⟩ := h
    exact ⟨hlt, t, hsub ht, hkind, hcovers⟩
  | template span =>
    obtain ⟨t, ht, hkind, hbytes⟩ := h
    exact ⟨t, hsub ht, hkind, hbytes⟩

/-- **The outline of a text** that begins at some byte: comments and templates as wholes, and
the rest character by character. The last argument lists what is not blank and no
comment; how far a stretch of code reaches is left open. -/
inductive Outline : Nat → List Char → List Spot → Prop
  | nil {b : Nat} : Outline b [] []
  | blank {b : Nat} {c : Char} {rest : List Char} {spots : List Spot} : IsBlankChar c →
      Outline (b + c.utf8Size) rest spots → Outline b (c :: rest) spots
  | code {b stop : Nat} {c : Char} {rest : List Char} {spots : List Spot} : b < stop →
      ¬IsBlankChar c → ¬Opens c rest → Outline (b + c.utf8Size) rest spots →
      Outline b (c :: rest) (.code ⟨b, stop⟩ :: spots)
  | comment {b : Nat} {c : Char} {more rest : List Char} {spots : List Spot} :
      Shape c (more ++ rest) (some .comment) more.length →
      Outline (b + byteLength (c :: more)) rest spots → Outline b (c :: (more ++ rest)) spots
  | template {b : Nat} {c : Char} {more rest : List Char} {kind : Kind} {spots : List Spot} :
      Shape c (more ++ rest) (some kind) more.length → kind.IsTemplate →
      Outline (b + byteLength (c :: more)) rest spots →
      Outline b (c :: (more ++ rest)) (.template ⟨b, b + byteLength (c :: more)⟩ :: spots)

namespace Outline

/-- Behind a character with which nothing opens the outline goes on, and what it loses is at
most that character. -/
theorem tail {b : Nat} {c : Char} {rest : List Char} {spots : List Spot}
    (h : Outline b (c :: rest) spots) (hopens : ¬Opens c rest) :
    ∃ left, Outline (b + c.utf8Size) rest left ∧
      ∀ s ∈ spots, s ∈ left ∨ ∃ stop, s = .code ⟨b, stop⟩ ∧ b < stop ∧ ¬IsBlankChar c := by
  cases h with
  | blank _ hrest => exact ⟨_, hrest, fun s hs => .inl hs⟩
  | code hlt hblank _ hrest =>
    refine ⟨_, hrest, fun s hs => ?_⟩
    rcases List.mem_cons.mp hs with rfl | hs
    · exact .inr ⟨_, rfl, hlt, hblank⟩
    · exact .inl hs
  | comment hshape => exact absurd hshape.opens_of_comment hopens
  | template hshape hkind => exact absurd (hshape.opens_of_template hkind) hopens

/-- The same for a run of plain characters. -/
theorem drop_plain {more rest : List Char} (hplain : PlainText more) :
    ∀ {b : Nat} {spots : List Spot}, Outline b (more ++ rest) spots →
    ∃ left, Outline (b + byteLength more) rest left ∧
      ∀ s ∈ spots, s ∈ left ∨ ∃ span, s = .code span ∧ b ≤ span.start ∧
        span.start < b + byteLength more ∧ span.start < span.stop ∧
        ∃ c ∈ more, ¬IsBlankChar c := by
  induction more with
  | nil => exact fun h => ⟨_, h, fun s hs => .inl hs⟩
  | cons c more ih =>
    intro b spots h
    obtain ⟨middle, hmiddle, hspots⟩ := h.tail ((hplain c List.mem_cons_self).not_opens _)
    obtain ⟨left, hleft, hmore⟩ := ih (fun d hd => hplain d (List.mem_cons_of_mem _ hd)) hmiddle
    refine ⟨left, by rwa [byteLength_cons, ← Nat.add_assoc], fun s hs => ?_⟩
    rw [byteLength_cons]
    have hpos := c.utf8Size_pos
    rcases hspots s hs with hs | ⟨stop, rfl, hstop, hblank⟩
    · rcases hmore s hs with hs | ⟨span, rfl, hle, hlt, hstop, d, hd, hblank⟩
      · exact .inl hs
      · exact .inr ⟨span, rfl, by omega, by omega, hstop, d, List.mem_cons_of_mem _ hd, hblank⟩
    · refine .inr ⟨⟨b, stop⟩, rfl, Nat.le_refl _, ?_, hstop, c, List.mem_cons_self, hblank⟩
      simp only
      omega

/-- The first lexeme of an outlined text: the outline goes on behind it, and what the outline
loses is found in the token that the lexeme is. -/
theorem exists_first (file : String) {before : List Char} {c : Char} {rest : List Char}
    {spots : List Spot} (h : Outline (byteLength before) (c :: rest) spots) :
    ∃ more after kind left, rest = more ++ after ∧ Shape c (more ++ after) kind more.length ∧
      Outline (byteLength (before ++ c :: more)) after left ∧
      ∀ s ∈ spots, s ∈ left ∨ ∃ k, kind = some k ∧
        s.FoundIn [.ofEnds file k (behind before) (behind (before ++ c :: more))] := by
  by_cases hopens : Opens c rest
  · cases h with
    | blank hblank => exact absurd hopens (hblank.plain.not_opens _)
    | code _ _ hclosed => exact absurd hopens hclosed
    | comment hshape hrest =>
      exact ⟨_, _, _, _, rfl, hshape, by simpa using hrest, fun s hs => .inl hs⟩
    | @template _ _ more after kind _ hshape hkind hrest =>
      refine ⟨more, after, some kind, _, rfl, hshape, by simpa using hrest, fun s hs => ?_⟩
      rcases List.mem_cons.mp hs with rfl | hs
      · exact .inr ⟨kind, rfl, _, List.mem_singleton_self _, hkind, by simp [Token.ofEnds]⟩
      · exact .inl hs
  · cases hfirst : first c rest with
    | error u => exact absurd (opens_of_first_error hfirst) hopens
    | ok found =>
      obtain ⟨kind, extra⟩ := found
      have hshape := shape_of_first hfirst
      obtain ⟨more, after, rfl, rfl⟩ := hshape.exists_more
      obtain ⟨hplain, hcontent⟩ := hshape.plain_of_not_opens hopens
      rw [List.take_left] at hplain hcontent
      obtain ⟨middle, hmiddle, hspots⟩ := h.tail hopens
      obtain ⟨left, hleft, hmore⟩ := hmiddle.drop_plain hplain
      refine ⟨more, after, kind, left, rfl, hshape, ?_, fun s hs => ?_⟩
      · rwa [byteLength_append, byteLength_cons, ← Nat.add_assoc]
      -- a character that is lost here is not blank, so the lexeme is one of content
      have hfound : ∀ span : ByteSpan, byteLength before ≤ span.start →
          span.start < byteLength before + byteLength (c :: more) → span.start < span.stop →
          (∃ d ∈ c :: more, ¬IsBlankChar d) → ∃ k, kind = some k ∧ (Spot.code span).FoundIn
            [.ofEnds file k (behind before) (behind (before ++ c :: more))] := by
        rintro span hle hlt hstop ⟨d, hd, hblank⟩
        rcases hcontent with ⟨k, hk, htrivia⟩ | hcontent
        · refine ⟨k, hk, hstop, _, List.mem_singleton_self _, htrivia, ?_⟩
          simpa [Token.Covers, Token.ofEnds] using ⟨hle, hlt⟩
        · exact absurd (hcontent d hd) hblank
      have hpos := c.utf8Size_pos
      rw [byteLength_cons] at hfound
      rcases hspots s hs with hs | ⟨stop, rfl, hstop, hblank⟩
      · rcases hmore s hs with hs | ⟨span, rfl, hle, hlt, hstop, d, hd, hblank⟩
        · exact .inl hs
        · exact .inr (hfound span (by omega) (by omega) hstop
            ⟨d, List.mem_cons_of_mem _ hd, hblank⟩)
      · refine .inr (hfound ⟨_, stop⟩ (Nat.le_refl _) ?_ hstop ⟨c, List.mem_cons_self, hblank⟩)
        simp only
        omega

/-- **An outlined text has tokens**, and its spots are found among them. -/
theorem exists_cut (file : String) (before : List Char) {text : List Char} {spots : List Spot}
    (h : Outline (byteLength before) text spots) :
    ∃ lexemes, Cut text lexemes [] ∧
      ∀ s ∈ spots, s.FoundIn (Token.place file (behind before) lexemes) := by
  induction hn : text.length using Nat.strong_induction_on generalizing before text spots with
  | _ n ih =>
    cases text with
    | nil =>
      cases h
      exact ⟨[], .done [], by simp⟩
    | cons c rest =>
      obtain ⟨more, after, kind, left, rfl, hshape, hleft, hspots⟩ := h.exists_first file
      have hlt : after.length < n := by
        rw [← hn]
        simp only [List.length_cons, List.length_append]
        omega
      obtain ⟨lexemes, hcut, hfound⟩ := ih _ hlt _ hleft rfl
      refine ⟨_, .cons hshape hcut, fun s hs => ?_⟩
      rcases hspots s hs with hs | ⟨k, rfl, hs⟩
      · exact (hfound s hs).mono (Token.place_subset file before ⟨kind, c :: more⟩ lexemes)
      · refine hs.mono ?_
        rw [Token.place_cons_some rfl]
        simp

end Outline

end TerraLint
