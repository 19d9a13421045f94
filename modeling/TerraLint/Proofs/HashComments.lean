import TerraLint.Proofs.Blanks

/-!
# Line comments, put into the one notation

A comment that begins with a hash is reported, and the advice is to begin it with two slashes.
This file shows that the advice can be followed
(`TerraLint.Comments.run_corrected`): with two slashes in place of the first character of each
comment that is reported, a source has tokens of the same kinds, nothing is reported any more,
and the scan for gaps reports the tokens with the same indices.

There is one exception, which the statement leaves out: two slashes directly behind a slash make
a comment of all three. Behind any other lexeme a slash is as good as the hash, since no lexeme
looks past either of them (`TerraLint.Lexeme.Shape.slashesAt`). What is replaced is given by the
bytes at which issues begin (`TerraLint.Comments.corrected`), so that a hash inside a string, a
heredoc or another comment stays because no issue begins there.
-/

namespace TerraLint

open Lexeme Position

namespace Comments

/-! ### Following the advice -/

/-- The text with two slashes in place of the characters at some bytes. The text itself begins at
the byte given. -/
def slashesAt (flagged : Nat → Bool) (byte : Nat) : List Char → List Char
  | [] => []
  | c :: rest =>
    (if flagged byte then ['/', '/'] else [c]) ++ slashesAt flagged (byte + c.utf8Size) rest

/-- Some issue begins at the byte. -/
def isFlagged (issues : List Issue) (byte : Nat) : Bool :=
  issues.any fun issue => issue.span.start.byte == byte

/-- The source with two slashes in place of each character at which an issue begins. -/
def corrected (issues : List Issue) (source : String) : String :=
  String.ofList (slashesAt (isFlagged issues) 0 source.toList)

variable {flagged : Nat → Bool}

theorem slashesAt_cons_of_flagged {byte : Nat} (h : flagged byte = true) (c : Char)
    (rest : List Char) : slashesAt flagged byte (c :: rest) =
      '/' :: '/' :: slashesAt flagged (byte + c.utf8Size) rest := by
  simp [slashesAt, h]

theorem slashesAt_cons_of_not_flagged {byte : Nat} (h : flagged byte = false) (c : Char)
    (rest : List Char) : slashesAt flagged byte (c :: rest) =
      c :: slashesAt flagged (byte + c.utf8Size) rest := by
  simp [slashesAt, h]

/-- A piece of the text in which nothing is replaced stays as it is. -/
theorem slashesAt_append {byte : Nat} {piece : List Char}
    (h : ∀ n, byte ≤ n → n < byte + byteLength piece → flagged n = false) (rest : List Char) :
    slashesAt flagged byte (piece ++ rest) =
      piece ++ slashesAt flagged (byte + byteLength piece) rest := by
  induction piece generalizing byte with
  | nil => rfl
  | cons c piece ih =>
    have hc := c.utf8Size_pos
    rw [byteLength_cons] at h
    rw [List.cons_append, slashesAt_cons_of_not_flagged (h byte (le_refl _) (by omega)), ih,
      byteLength_cons, Nat.add_assoc]
    · rfl
    · exact fun n hle hlt => h n (by omega) (by omega)

/-- A text with slashes put in is the text, or it is the text up to a slash. -/
theorem slashesAt_eq_or (flagged : Nat → Bool) (byte : Nat) (text : List Char) :
    slashesAt flagged byte text = text ∨
      ∃ common d rest after, text = common ++ d :: rest ∧
        slashesAt flagged byte text = common ++ '/' :: after ∧
        (common = [] → flagged byte = true) := by
  induction text generalizing byte with
  | nil => exact .inl rfl
  | cons c text ih =>
    cases hflag : flagged byte with
    | true =>
      exact .inr ⟨[], c, text, _, rfl, slashesAt_cons_of_flagged hflag c text, fun _ => rfl⟩
    | false =>
      rw [slashesAt_cons_of_not_flagged hflag]
      rcases ih (byte + c.utf8Size) with heq | ⟨common, d, rest, after, rfl, heq, -⟩
      · exact .inl (by rw [heq])
      · exact .inr ⟨c :: common, d, rest, after, rfl, by rw [heq]; rfl, by simp⟩

/-! ### What may be replaced -/

/-- **From a byte on, what is flagged are the beginnings of comments in the other notation.** -/
def FlagsHashes (flagged : Nat → Bool) (source : String) (byte : Nat) (tokens : List Token) :
    Prop :=
  ∀ n, byte ≤ n → flagged n = true →
    ∃ t ∈ tokens, t.bytes.start = n ∧ isHashComment source t = true

namespace FlagsHashes

variable {file source : String} {before more rest : List Char} {c : Char} {kind : Option Kind}
  {lexemes : List Lexeme}

theorem tail (h : FlagsHashes flagged source (byteLength before)
      (Token.place file (behind before) (⟨kind, c :: more⟩ :: lexemes))) :
    FlagsHashes flagged source (byteLength (before ++ c :: more))
      (Token.place file (behind (before ++ c :: more)) lexemes) := by
  intro n hle hflag
  have hpos := byteLength_pos (List.cons_ne_nil c more)
  rw [byteLength_append] at hle
  obtain ⟨t, ht, rfl, hhash⟩ := h n (by omega) hflag
  exact ⟨t, Token.mem_place_of_lt ht (by omega), rfl, hhash⟩

/-- Nothing is replaced inside a lexeme. -/
theorem slashesAt_more (h : FlagsHashes flagged source (byteLength before)
      (Token.place file (behind before) (⟨kind, c :: more⟩ :: lexemes))) (rest : List Char) :
    slashesAt flagged (byteLength before + c.utf8Size) (more ++ rest) =
      more ++ slashesAt flagged (byteLength (before ++ c :: more)) rest := by
  have hc := c.utf8Size_pos
  rw [slashesAt_append, byteLength_append, byteLength_cons, Nat.add_assoc]
  intro n hle hlt
  by_contra hflag
  obtain ⟨t, ht, rfl, -⟩ := h n (by omega) (by simpa using hflag)
  have hstart := Token.le_start_of_mem_place (Token.mem_place_of_lt ht (by omega))
  simp only [byteLength_append, byteLength_cons] at hstart
  omega

/-- A lexeme at whose beginning something is replaced is a comment in the other notation. -/
theorem eq_hash (h : FlagsHashes flagged source (byteLength before)
      (Token.place file (behind before) (⟨kind, c :: more⟩ :: lexemes)))
    (hsource : source.toList = before ++ c :: (more ++ rest))
    (hflag : flagged (byteLength before) = true) : kind = some .comment ∧ c = '#' := by
  obtain ⟨t, ht, hstart, hhash⟩ := h _ (le_refl _) hflag
  -- a token further on begins behind the lexeme
  have hlater : t ∉ Token.place file (behind (before ++ c :: more)) lexemes := by
    intro hmem
    have hle := Token.le_start_of_mem_place hmem
    have hpos := byteLength_pos (List.cons_ne_nil c more)
    rw [byteLength_append] at hle
    omega
  cases kind with
  | none =>
    rw [Token.place_cons_none rfl] at ht
    exact absurd ht hlater
  | some kind =>
    rw [Token.place_cons_some rfl] at ht
    obtain rfl := (List.mem_cons.mp ht).resolve_right hlater
    have hsource' : source.toList = before ++ ((c :: more) ++ rest) := hsource
    rw [isHashComment, Token.text_ofEnds _ _ _ hsource'] at hhash
    simpa [Token.ofEnds] using hhash

/-- At the end of the file nothing is replaced, since no comment begins there. -/
theorem not_flagged_end
    (h : FlagsHashes flagged source (byteLength before) (Token.place file (behind before) [])) :
    flagged (byteLength before) = false := by
  by_contra hflag
  obtain ⟨t, ht, -, hhash⟩ := h _ (le_refl _) (by simpa using hflag)
  obtain rfl := List.mem_singleton.mp ht
  simp [isHashComment, Token.ofEnds] at hhash

/-- A text at whose beginning something is replaced begins with a hash. -/
theorem head?_eq {text : List Char}
    (h : FlagsHashes flagged source (byteLength before) (Token.place file (behind before) lexemes))
    (hcut : Cut text lexemes []) (hsource : source.toList = before ++ text)
    (hflag : flagged (byteLength before) = true) : text.head? = some '#' := by
  cases hcut with
  | done => simp [h.not_flagged_end] at hflag
  | cons => simp [(h.eq_hash hsource hflag).2]

end FlagsHashes

end Comments

/-! ### Slashes behind a lexeme -/

namespace Lexeme

open Comments

variable {c : Char} {kind : Option Kind} {more rest : List Char} {flagged : Nat → Bool}

/-- A comment may begin with two slashes in place of its hash. -/
theorem Shape.slashes {text : List Char} {n : Nat} (h : Shape '#' text (some .comment) n) :
    Shape '/' ('/' :: text) (some .comment) (n + 1) := by
  have hhash : Shape '#' text (some .comment) (lineLength text) := .lineComment (.inl rfl)
  obtain rfl : n = lineLength text := by simpa [h.first_eq] using hhash.first_eq
  rw [← lineLength_cons (by decide : '/' ≠ '\n')]
  exact .lineComment (.inr ⟨rfl, rfl⟩)

/-- **A lexeme stays as it is where hashes behind it become slashes**, unless it is a slash with a
hash directly behind it. -/
theorem Shape.slashesAt {byte : Nat} (h : Shape c (more ++ rest) kind more.length)
    (hhash : flagged byte = true → rest.head? = some '#')
    (hslash : c :: more = ['/'] → kind = some .other → flagged byte = false) :
    Shape c (more ++ Comments.slashesAt flagged byte rest) kind more.length := by
  rcases slashesAt_eq_or flagged byte rest with heq | ⟨common, d, tail, after, rfl, heq, hflag⟩
  · rwa [heq]
  · rw [heq, ← List.append_assoc]
    refine h.shorten.append_cons (by decide) (fun hlength => ?_) after
    obtain rfl : common = [] := by simpa using hlength
    obtain rfl : d = '#' := by simpa using hhash (hflag rfl)
    -- the hash seals the lexeme, and the slash does if it is no slash itself
    have hsealed : IsSealed kind (c :: more) '#' := h.isSealed
    rw [List.append_nil]
    refine ⟨by simp, fun htext => ?_, hsealed.lineComment, fun hkind => ?_⟩
    · obtain ⟨rfl, rfl⟩ := List.cons.inj htext
      have hother : Shape '/' ('#' :: tail) (some .other) 0 := .slash (by simp) (by simp)
      have hkind : kind = some .other := by
        simpa using h.first_eq.symm.trans hother.first_eq
      exact absurd (hflag rfl) (by simp [hslash rfl hkind])
    · exact absurd (hsealed.heredoc hkind) (by decide)

end Lexeme

/-! ### Tokens -/

namespace Comments

open Token

/-- **Two tokens are the same but for the notation of comments**: they are of one kind, and they
hold the same text, where a hash at a flagged byte has become two slashes. -/
structure SameButSlashes (flagged : Nat → Bool) (source source' : String) (t t' : Token) :
    Prop where
  kind_eq : t'.kind = t.kind
  replaced : flagged t.bytes.start = true → ∃ text, (t.text source).toList = '#' :: text ∧
    (t'.text source').toList = '/' :: '/' :: text
  kept : flagged t.bytes.start = false → t'.text source' = t.text source

/-- The token is a slash by itself. -/
def IsSlash (source : String) (t : Token) : Prop := t.kind = .other ∧ t.text source = "/"

instance (source : String) (t : Token) : Decidable (IsSlash source t) :=
  inferInstanceAs (Decidable (_ ∧ _))

variable {flagged : Nat → Bool} {file source source' : String} {lexemes : List Lexeme}

/-- **With slashes in place of hashes a text is cut up alike**, unless a slash stands directly in
front of such a hash. -/
theorem exists_cut_slashesAt {text left : List Char} (h : Cut text lexemes left) (hleft : left = [])
    {before before' : List Char} (hsource : source.toList = before ++ text)
    (hsource' : source'.toList = before' ++ slashesAt flagged (byteLength before) text)
    (hflags : FlagsHashes flagged source (byteLength before) (place file (behind before) lexemes))
    (hslash : ∀ t ∈ place file (behind before) lexemes, IsSlash source t →
      flagged t.bytes.stop = false) :
    ∃ lexemes', Cut (slashesAt flagged (byteLength before) text) lexemes' [] ∧
      List.Forall₂ (SameButSlashes flagged source source') (place file (behind before) lexemes)
        (place file (behind before') lexemes') := by
  induction h generalizing before before' with
  | done =>
    subst hleft
    have hfile : source.toList = before ++ ([] ++ []) := hsource
    have hfile' : source'.toList = before' ++ ([] ++ []) := hsource'
    have htext := text_ofEnds _ _ _ hfile file .endOfFile
    have htext' := text_ofEnds _ _ _ hfile' file .endOfFile
    rw [List.append_nil] at htext htext'
    refine ⟨[], .done [], .cons ⟨rfl, fun hflag => ?_, fun _ => ?_⟩ .nil⟩
    · exact absurd hflag (by simp [ofEnds, hflags.not_flagged_end])
    · rw [← String.toList_inj, htext, htext']
  | @cons c more rest left kind lexemes hshape hcut ih =>
    subst hleft
    have hbehind : source.toList = (before ++ c :: more) ++ rest := by simpa using hsource
    -- the lexeme as it is in front of the new rest
    have hshape' := hshape.slashesAt (hflags.tail.head?_eq hcut hbehind) fun htext hkind => by
      subst hkind
      have hsource' : source.toList = before ++ ((c :: more) ++ rest) := hsource
      have hmem : ofEnds file .other (behind before) (behind (before ++ c :: more)) ∈
          place file (behind before) (⟨some .other, c :: more⟩ :: lexemes) := by
        rw [place_cons_some rfl]
        exact List.mem_cons_self
      refine hslash _ hmem ⟨rfl, ?_⟩
      rw [← String.toList_inj, text_ofEnds _ _ _ hsource', htext]
      rfl
    have hslash' : ∀ t ∈ place file (behind (before ++ c :: more)) lexemes, IsSlash source t →
        flagged t.bytes.stop = false := fun t ht =>
      hslash t (place_subset file before ⟨kind, c :: more⟩ lexemes ht)
    cases hflag : flagged (byteLength before) with
    | true =>
      rw [slashesAt_cons_of_flagged hflag, hflags.slashesAt_more] at hsource' ⊢
      obtain ⟨rfl, rfl⟩ := hflags.eq_hash hsource hflag
      have hbehind' : source'.toList = (before' ++ '/' :: '/' :: more) ++
          slashesAt flagged (byteLength (before ++ '#' :: more)) rest := by simpa using hsource'
      obtain ⟨lexemes', hcut', hsame⟩ := ih rfl hbehind hbehind' hflags.tail hslash'
      refine ⟨⟨some .comment, '/' :: '/' :: more⟩ :: lexemes',
        @Cut.cons '/' ('/' :: more) _ _ _ _ hshape'.slashes hcut', ?_⟩
      rw [place_cons_some rfl, place_cons_some rfl]
      refine .cons ⟨rfl, fun _ => ⟨more, ?_, ?_⟩, fun hkept => ?_⟩ hsame
      · exact text_ofEnds before ('#' :: more) rest hsource file .comment
      · exact text_ofEnds before' ('/' :: '/' :: more) _ hsource' file .comment
      · exact absurd hflag (by simpa [ofEnds] using hkept)
    | false =>
      rw [slashesAt_cons_of_not_flagged hflag, hflags.slashesAt_more] at hsource' ⊢
      have hbehind' : source'.toList = (before' ++ c :: more) ++
          slashesAt flagged (byteLength (before ++ c :: more)) rest := by simpa using hsource'
      obtain ⟨lexemes', hcut', hsame⟩ := ih rfl hbehind hbehind' hflags.tail hslash'
      refine ⟨⟨kind, c :: more⟩ :: lexemes', .cons hshape' hcut', ?_⟩
      cases kind with
      | none =>
        rw [place_cons_none rfl, place_cons_none rfl]
        exact hsame
      | some kind =>
        rw [place_cons_some rfl, place_cons_some rfl]
        refine .cons ⟨rfl, fun hflag' => ?_, fun _ => ?_⟩ hsame
        · exact absurd hflag' (by simp [ofEnds, hflag])
        · rw [← String.toList_inj, text_ofEnds before (c :: more) rest hsource,
            text_ofEnds before' (c :: more) _ hsource']

/-- A source in which some comments are put into the other notation. -/
theorem exists_lex_slashesAt {tokens : List Token} (h : lex file source = .ok tokens)
    (hsource' : source'.toList = slashesAt flagged 0 source.toList)
    (hflags : FlagsHashes flagged source 0 tokens)
    (hslash : ∀ t ∈ tokens, IsSlash source t → flagged t.bytes.stop = false) :
    ∃ tokens', lex file source' = .ok tokens' ∧
      List.Forall₂ (SameButSlashes flagged source source') tokens tokens' := by
  obtain ⟨lexemes, hcut, rfl⟩ := lex_eq_ok_iff.mp h
  have hfile : source.toList = [] ++ source.toList := rfl
  have hfile' : source'.toList = [] ++ slashesAt flagged (byteLength []) source.toList := hsource'
  obtain ⟨lexemes', hcut', hsame⟩ := exists_cut_slashesAt hcut rfl hfile hfile' hflags hslash
  exact ⟨_, lex_eq_ok_iff.mpr ⟨lexemes', hsource' ▸ hcut', rfl⟩, hsame⟩

/-- A token begins in no other token. -/
theorem eq_of_covers_start {tokens : List Token} (h : lex file source = .ok tokens) {t u : Token}
    (ht : t ∈ tokens) (hu : u ∈ tokens) (hcovers : u.Covers t.bytes.start) : u = t := by
  obtain ⟨lexemes, hcut, rfl⟩ := lex_eq_ok_iff.mp h
  obtain ⟨front, back, hsplit⟩ := List.append_of_mem ht
  have hordered := place_pairwise file [] hcut.text_ne_nil
  rw [hsplit] at hordered hu
  obtain ⟨-, hback, hacross⟩ := List.pairwise_append.mp hordered
  obtain ⟨hstart, hstop⟩ := hcovers
  rcases List.mem_append.mp hu with hu | hu
  · have hbefore := hacross u hu t List.mem_cons_self
    omega
  · rcases List.mem_cons.mp hu with rfl | hu
    · rfl
    · have hbehind := (List.pairwise_cons.mp hback).1 u hu
      omega

/-- The bytes of a token begin where its span does. -/
theorem start_of_mem_lex {tokens : List Token} (h : lex file source = .ok tokens) {t : Token}
    (ht : t ∈ tokens) : t.span.start.byte = t.bytes.start := by
  obtain ⟨lexemes, -, rfl⟩ := lex_eq_ok_iff.mp h
  rcases mem_place ht with ⟨front, l, back, kind, -, -, rfl⟩ | rfl <;> rfl

/-! ### What is reported -/

/-- **Issues begin where comments in the other notation do**, unless the file is not read. -/
theorem isFlagged_run {tokens : List Token} (h : lex file source = .ok tokens) (path : List String)
    (n : Nat) :
    isFlagged (rule.run none (.ofFiles path [(file, source)])).1 n = true ↔
      file.endsWith ".json" = false ∧
        ∃ t ∈ tokens, t.bytes.start = n ∧ isHashComment source t = true := by
  rw [run_single h, isFlagged]
  cases file.endsWith ".json" with
  | true => simp
  | false =>
    simp only [Bool.false_eq_true, if_false, List.any_map, List.any_filter, List.any_eq_true,
      Function.comp_apply, Bool.and_eq_true, beq_iff_eq, true_and]
    refine exists_congr fun t => and_congr_right fun ht => ?_
    rw [← start_of_mem_lex h ht, and_comm]
    rfl

/-- A comment with two slashes is not in the other notation, and any other token is what it was. -/
theorem SameButSlashes.isHashComment_eq {t t' : Token}
    (h : SameButSlashes flagged source source' t t') :
    isHashComment source' t' = (isHashComment source t && !flagged t.bytes.start) := by
  unfold isHashComment
  rw [h.kind_eq]
  cases hflag : flagged t.bytes.start with
  | true =>
    obtain ⟨text, -, htext'⟩ := h.replaced hflag
    simp [htext']
  | false => simp [h.kept hflag]

/-- Where all comments in the other notation are flagged, none is left. -/
theorem filter_isHashComment_eq_nil {tokens tokens' : List Token}
    (hsame : List.Forall₂ (SameButSlashes flagged source source') tokens tokens')
    (h : ∀ t ∈ tokens, isHashComment source t = true → flagged t.bytes.start = true) :
    tokens'.filter (isHashComment source') = [] := by
  induction hsame with
  | nil => rfl
  | cons hpair _ ih =>
    obtain ⟨hhead, htail⟩ := List.forall_mem_cons.mp h
    refine (List.filter_cons_of_neg ?_).trans (ih htail)
    rw [hpair.isHashComment_eq]
    simpa using hhead

/-- **The advice on comments can be followed.** Let a source be cut up into tokens, no comment in
the other notation directly behind a slash. With two slashes in place of the first character of
each comment that is reported, the source is cut up into as many tokens, of the same kinds and of
the same texts but for these slashes. No comment is reported any more, and the scan for gaps
reports the tokens with the same indices. Every comment that begins with a hash is reported, unless
the file is not read; an issue is about such a comment, and it begins in no other token. -/
theorem run_corrected {tokens : List Token} (h : lex file source = .ok tokens)
    (hslash : ∀ s ∈ tokens, ∀ t ∈ tokens, IsSlash source s → isHashComment source t = true →
      s.bytes.stop ≠ t.bytes.start) (path : List String) :
    ∃ (issues : List Issue) (tokens' : List Token) (hlength : tokens.length = tokens'.length),
      rule.run none (.ofFiles path [(file, source)]) = (issues, none) ∧
      lex file (corrected issues source) = .ok tokens' ∧
      tokens'.map Token.kind = tokens.map Token.kind ∧
      rule.run none (.ofFiles path [(file, corrected issues source)]) = ([], none) ∧
      (∃ reported : List (Fin tokens.length),
        Spacing.violations tokens = reported.map tokens.get ∧
          Spacing.violations tokens' = reported.map fun i => tokens'.get (i.cast hlength)) ∧
      (∀ i, SameButSlashes (isFlagged issues) source (corrected issues source) (tokens.get i)
        (tokens'.get (i.cast hlength))) ∧
      (∀ t ∈ tokens, isHashComment source t = true → file.endsWith ".json" = false →
        ∃ issue ∈ issues, issue.span = t.span) ∧
      ∀ issue ∈ issues, ∃ t ∈ tokens, isHashComment source t = true ∧ issue.span = t.span ∧
        ∀ u ∈ tokens, u.Covers issue.span.start.byte → u = t := by
  have hflagged := isFlagged_run h path
  have hrun := run_single h path
  generalize rule.run none (.ofFiles path [(file, source)]) = run at hflagged hrun
  obtain ⟨issues, stopped⟩ := run
  obtain ⟨hissues, rfl⟩ := Prod.mk.inj hrun
  have hflags : FlagsHashes (isFlagged issues) source 0 tokens := fun n _ hn =>
    ((hflagged n).mp hn).2
  have hkept : ∀ s ∈ tokens, IsSlash source s → isFlagged issues s.bytes.stop = false := by
    intro s hs hone
    by_contra hflag
    obtain ⟨-, t, ht, hstart, hhash⟩ := (hflagged _).mp (by simpa using hflag)
    exact hslash s hs t ht hone hhash hstart.symm
  have hsource' : (corrected issues source).toList = slashesAt (isFlagged issues) 0 source.toList :=
    String.toList_ofList
  obtain ⟨tokens', hlex', hsame⟩ := exists_lex_slashesAt h hsource' hflags hkept
  obtain ⟨hlength, hget⟩ := List.forall₂_iff_get.mp hsame
  have hsame' (i : Fin tokens.length) : SameButSlashes (isFlagged issues) source
      (corrected issues source) (tokens.get i) (tokens'.get (i.cast hlength)) :=
    hget i i.isLt (hlength ▸ i.isLt)
  have hkinds : tokens'.map Token.kind = tokens.map Token.kind := by
    refine List.ext_getElem (by simp [hlength]) fun i _ hi => ?_
    simpa using (hsame' ⟨i, by simpa using hi⟩).kind_eq
  refine ⟨issues, tokens', hlength, rfl, hlex', hkinds, ?_,
    Spacing.exists_violations_get hkinds hlength, hsame', fun t ht hhash hjson => ?_,
    fun issue hissue => ?_⟩
  · rw [run_single hlex']
    split
    · rfl
    · -- a comment that is in the other notation now was so before, and was reported
      rename_i hjson
      rw [filter_isHashComment_eq_nil hsame fun t ht hhash =>
        (hflagged _).mpr ⟨by simpa using hjson, t, ht, rfl, hhash⟩]
      rfl
  · rw [hissues, hjson]
    have hmem : t ∈ tokens.filter (isHashComment source) := List.mem_filter.mpr ⟨ht, hhash⟩
    exact ⟨info.issue ⟨message, t.span⟩, List.mem_map.mpr ⟨t, hmem, rfl⟩, rfl⟩
  · have hreported : issue ∈ (tokens.filter (isHashComment source)).map fun t =>
        info.issue ⟨message, t.span⟩ := by
      rw [hissues] at hissue
      split at hissue
      · simp at hissue
      · exact hissue
    obtain ⟨t, ht, rfl⟩ := List.mem_map.mp hreported
    obtain ⟨ht, hhash⟩ := List.mem_filter.mp ht
    refine ⟨t, ht, hhash, rfl, fun u hu hcovers => eq_of_covers_start h ht hu ?_⟩
    rwa [← start_of_mem_lex h ht]

/-- Hashes in a string and in a block comment are not reported and stay. Those that begin comments
are reported and become slashes, one behind a slash and a blank, one behind a block comment and in
front of a star. -/
theorem run_corrected_block_comment : ∃ issues tokens',
    rule.run none (.ofFiles [] [("m", "\"#\"/ #é\n/*#*/#*b")]) = (issues, none) ∧
      issues.map (·.span) =
        [⟨"m", ⟨1, 6, 5⟩, ⟨2, 1, 9⟩⟩, ⟨"m", ⟨2, 6, 14⟩, ⟨2, 9, 17⟩⟩] ∧
      corrected issues "\"#\"/ #é\n/*#*/#*b" = "\"#\"/ //é\n/*#*///*b" ∧
      lex "m" "\"#\"/ //é\n/*#*///*b" = .ok tokens' ∧
      tokens'.map Token.kind = [.quoted, .other, .comment, .comment, .comment, .endOfFile] ∧
      rule.run none (.ofFiles [] [("m", "\"#\"/ //é\n/*#*///*b")]) = ([], none) := by
  let tokens : List Token :=
    [⟨.quoted, ⟨0, 3⟩, ⟨"m", ⟨1, 1, 0⟩, ⟨1, 4, 3⟩⟩⟩, ⟨.other, ⟨3, 4⟩, ⟨"m", ⟨1, 4, 3⟩, ⟨1, 5, 4⟩⟩⟩,
      ⟨.comment, ⟨5, 9⟩, ⟨"m", ⟨1, 6, 5⟩, ⟨2, 1, 9⟩⟩⟩,
      ⟨.comment, ⟨9, 14⟩, ⟨"m", ⟨2, 1, 9⟩, ⟨2, 6, 14⟩⟩⟩,
      ⟨.comment, ⟨14, 17⟩, ⟨"m", ⟨2, 6, 14⟩, ⟨2, 9, 17⟩⟩⟩,
      ⟨.endOfFile, ⟨17, 17⟩, ⟨"m", ⟨2, 9, 17⟩, ⟨2, 9, 17⟩⟩⟩]
  have hlex : lex "m" "\"#\"/ #é\n/*#*/#*b" = .ok tokens := by decide +kernel
  obtain ⟨issues, tokens', -, hrun, hlex', hkinds, hrun', -⟩ :=
    run_corrected hlex (by decide +kernel) []
  have hissues := hrun
  rw [run_single hlex, Prod.mk.injEq] at hissues
  have hspans : issues.map (·.span) =
      [⟨"m", ⟨1, 6, 5⟩, ⟨2, 1, 9⟩⟩, ⟨"m", ⟨2, 6, 14⟩, ⟨2, 9, 17⟩⟩] := by
    rw [← hissues.1]
    decide +kernel
  have hsource : corrected issues "\"#\"/ #é\n/*#*/#*b" = "\"#\"/ //é\n/*#*///*b" := by
    rw [← hissues.1]
    decide +kernel
  rw [hsource] at hlex' hrun'
  exact ⟨issues, tokens', hrun, hspans, hsource, hlex', hkinds, hrun'⟩

/-- Directly behind a slash, two slashes in place of a hash make one comment with it. -/
example : (lex "m" "/#a").toOption.map (List.map Token.kind) = some [.other, .comment, .endOfFile] ∧
    (lex "m" "///a").toOption.map (List.map Token.kind) = some [.comment, .endOfFile] := by
  decide +kernel

end Comments

end TerraLint
