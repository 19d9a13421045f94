import TerraLint.Proofs.Findings
import TerraLint.Proofs.Following
import TerraLint.Proofs.Gaps
import TerraLint.Proofs.Tiling

/-!
# Blanks between tokens

Spaces and tabs that are put in front of tokens, at any number of places, make no difference
to a source beyond moving the tokens. This file shows that there are as many tokens as before
and of the same kinds, and that they hold the same texts, with two exceptions
(`TerraLint.Token.TakesBlanks`): a heredoc goes on to the end of its closing line and so takes
blanks at the end of that line, and a line comment that the file ends takes blanks at the end
of the file. What looks at kinds and at the beginnings of comments does not see this
(`TerraLint.Token.lex_insertAt`).

The blanks are given by the bytes they are put at (`TerraLint.insertAt`), so that what is asked
of them is that there are tokens at these bytes. One lexeme either stays as it is, with the
blanks as lexemes behind it (`TerraLint.Lexeme.Shape.insertAt_of_not_takesBlanks`), or takes them in
(`TerraLint.Lexeme.Shape.append_of_takesBlanks`).
-/

namespace TerraLint

open Lexeme Position

/-! ### Putting texts in between -/

/-- The text with further texts put in, `inserted n` at the byte `n`. The text itself begins at
the byte given. -/
def insertAt (inserted : Nat → List Char) (byte : Nat) : List Char → List Char
  | [] => inserted byte
  | c :: rest => inserted byte ++ c :: insertAt inserted (byte + c.utf8Size) rest

variable {inserted : Nat → List Char}

theorem exists_insertAt_eq (inserted : Nat → List Char) (byte : Nat) (text : List Char) :
    ∃ text', insertAt inserted byte text = inserted byte ++ text' := by
  cases text with
  | nil => exact ⟨[], by simp [insertAt]⟩
  | cons c text => exact ⟨_, rfl⟩

/-- A piece of the text in which nothing is put stays together. -/
theorem insertAt_append {byte : Nat} {piece : List Char}
    (h : ∀ n, byte ≤ n → n < byte + byteLength piece → inserted n = []) (rest : List Char) :
    insertAt inserted byte (piece ++ rest) =
      piece ++ insertAt inserted (byte + byteLength piece) rest := by
  induction piece generalizing byte with
  | nil => rfl
  | cons c piece ih =>
    have hc := c.utf8Size_pos
    rw [byteLength_cons] at h
    rw [List.cons_append, insertAt, h byte (le_refl _) (by omega), ih, byteLength_cons,
      Nat.add_assoc]
    · rfl
    · exact fun n hle hlt => h n (by omega) (by omega)

/-- A text with blanks put in is the text, or it is the text up to a blank. -/
theorem insertAt_eq_or (hblank : ∀ n, IsBlankText (inserted n)) (byte : Nat) (text : List Char) :
    insertAt inserted byte text = text ∨
      ∃ common rest s after, text = common ++ rest ∧
        insertAt inserted byte text = common ++ s :: after ∧ (s = ' ' ∨ s = '\t') := by
  induction text generalizing byte with
  | nil =>
    rcases hput : inserted byte with _ | ⟨s, after⟩
    · exact .inl (by rw [insertAt, hput])
    · exact .inr ⟨[], [], s, after, rfl, by rw [insertAt, hput]; rfl, hblank byte s (by simp [hput])⟩
  | cons c text ih =>
    rcases hput : inserted byte with _ | ⟨s, after⟩
    · rw [insertAt, hput, List.nil_append]
      rcases ih (byte + c.utf8Size) with heq | ⟨common, rest, s, after, rfl, heq, hs⟩
      · exact .inl (by rw [heq])
      · exact .inr ⟨c :: common, rest, s, after, rfl, by rw [heq]; rfl, hs⟩
    · exact .inr ⟨[], c :: text, s, _, rfl, by rw [insertAt, hput]; rfl,
        hblank byte s (by simp [hput])⟩

/-! ### Blanks at the end of a line -/

namespace Text

theorem trim_append_blanks {blanks : List Char} (h : ∀ c ∈ blanks, isBlank c = true)
    (text : List Char) : trim (text ++ blanks) = trim text := by
  have hreverse : ∀ c ∈ blanks.reverse, isBlank c = true := by simpa using h
  have hdrop : blanks.dropWhile isBlank = [] := List.dropWhile_eq_nil_iff.mpr h
  rw [trim, trim, trimStart, trimStart, List.dropWhile_append, hdrop]
  split
  · rename_i hempty
    rw [List.isEmpty_iff.mp hempty]
  · rw [trimEnd, trimEnd, List.reverse_append, List.dropWhile_append_of_pos hreverse]

end Text

namespace Lexeme

theorem IsBlankText.isBlank {text : List Char} (h : IsBlankText text) :
    ∀ c ∈ text, Text.isBlank c = true := by
  intro c hc
  rcases h c hc with rfl | rfl <;> decide

theorem IsBlankText.not_mem {text : List Char} (h : IsBlankText text) : '\n' ∉ text := by
  intro hmem
  rcases h _ hmem with hc | hc <;> simp at hc

/-- The closing line of a heredoc may go on with blanks. -/
theorem ToMarker.append_blanks {marker body blanks : List Char} (h : ToMarker marker body)
    (hblanks : IsBlankText blanks) : ToMarker marker (body ++ blanks) := by
  induction h with
  | closing hline htrim =>
    refine .closing ?_ ?_
    · simpa using ⟨hline, hblanks.not_mem⟩
    · rw [Text.trim_append_blanks hblanks.isBlank, htrim]
  | feed hline htrim _ ih =>
    rw [List.append_assoc, List.cons_append]
    exact .feed hline htrim ih

theorem IsHeredoc.append_blanks {word blanks : List Char} (h : IsHeredoc word)
    (hblanks : IsBlankText blanks) : IsHeredoc (word ++ blanks) := by
  cases h with
  | mk hdash hmark hhead hopening hbody =>
    have hheredoc := IsHeredoc.mk hdash hmark hhead hopening (hbody.append_blanks hblanks)
    simpa using hheredoc

/-! ### Blanks behind a lexeme -/

/-- **The lexeme takes in the blanks behind it**: it is a heredoc, or a line comment that the file
ends. -/
def TakesBlanks (kind : Option Kind) (text rest : List Char) : Prop :=
  kind = some .heredoc ∨
    kind = some .comment ∧ IsLineComment text ∧ text.getLast? ≠ some '\n' ∧ rest = []

variable {c : Char} {kind : Option Kind} {more rest : List Char}

/-- Any other lexeme is sealed by a blank. -/
theorem Shape.isSealed_of_not_takesBlanks {s : Char} (h : Shape c (more ++ rest) kind more.length)
    (hkeep : ¬TakesBlanks kind (c :: more) rest) (hs : s = ' ' ∨ s = '\t') :
    IsSealed kind (c :: more) s := by
  refine ⟨fun _ => ?_, fun _ => ?_, fun hkind hcomment => ?_,
    fun hkind => absurd (.inl hkind) hkeep⟩
  · rcases hs with rfl | rfl <;> decide
  · rcases hs with rfl | rfl <;> decide
  · cases rest with
    | nil =>
      by_contra hlast
      exact hkeep (.inr ⟨hkind, hcomment, hlast, rfl⟩)
    | cons d rest => exact h.isSealed.lineComment hkind hcomment

/-- **A lexeme that does not take blanks in** stays as it is where blanks are put behind it. -/
theorem Shape.insertAt_of_not_takesBlanks (h : Shape c (more ++ rest) kind more.length)
    (hkeep : ¬TakesBlanks kind (c :: more) rest) (hblank : ∀ n, IsBlankText (inserted n))
    (byte : Nat) : Shape c (more ++ insertAt inserted byte rest) kind more.length := by
  rcases insertAt_eq_or hblank byte rest with heq | ⟨common, after, s, b, rfl, heq, hs⟩
  · rwa [heq]
  · have hstop : s ∈ stops := by rcases hs with rfl | rfl <;> decide
    rw [heq, ← List.append_assoc]
    refine h.shorten.append_cons hstop (fun hlength => ?_) b
    obtain rfl : common = [] := by simpa using hlength
    rw [List.append_nil]
    exact h.isSealed_of_not_takesBlanks hkeep hs

/-- **A lexeme that takes blanks in** goes on to the end of them. -/
theorem Shape.append_of_takesBlanks (h : Shape c (more ++ rest) kind more.length)
    (htakes : TakesBlanks kind (c :: more) rest) {byte : Nat} (hblank : IsBlankText (inserted byte))
    {rest' : List Char} (hrest' : insertAt inserted byte rest = inserted byte ++ rest') :
    Shape c (more ++ inserted byte ++ rest') kind (more ++ inserted byte).length := by
  rcases htakes with rfl | ⟨rfl, hcomment, hlast, rfl⟩
  · obtain ⟨hword, hrest⟩ := shape_heredoc_iff.mp h
    refine shape_heredoc_iff.mpr ⟨hword.append_blanks hblank, ?_⟩
    cases rest with
    | nil =>
      obtain rfl : rest' = [] := by simpa [insertAt] using hrest'
      exact endsLine_nil
    | cons d rest =>
      obtain rfl : _ = rest' := List.append_cancel_left hrest'
      exact endsLine_cons.mpr (endsLine_cons.mp hrest)
  · obtain rfl : rest' = [] := by simpa [insertAt] using hrest'
    rw [List.append_nil] at h ⊢
    have hfeed : '\n' ∉ more ++ inserted byte := by
      simpa using ⟨h.not_mem_of_lineComment hcomment hlast, hblank.not_mem⟩
    exact (hcomment.append (inserted byte)).shape hfeed

/-- **Blanks behind a lexeme** are taken in, or are lexemes of their own. -/
theorem Shape.exists_insertAt (h : Shape c (more ++ rest) kind more.length)
    (hblank : ∀ n, IsBlankText (inserted n)) {byte : Nat} {rest' : List Char}
    (hrest' : insertAt inserted byte rest = inserted byte ++ rest') :
    ∃ more' lead, more' ++ lead = more ++ inserted byte ∧ IsBlankText lead ∧
      Shape c (more' ++ (lead ++ rest')) kind more'.length ∧
      (TakesBlanks kind (c :: more) rest → more' = more ++ inserted byte) ∧
      (¬TakesBlanks kind (c :: more) rest → more' = more) := by
  by_cases htakes : TakesBlanks kind (c :: more) rest
  · have hshape := h.append_of_takesBlanks htakes (hblank byte) hrest'
    exact ⟨more ++ inserted byte, [], by simp, by simp [IsBlankText], hshape, fun _ => rfl,
      fun hkeep => absurd htakes hkeep⟩
  · have hshape := h.insertAt_of_not_takesBlanks htakes hblank byte
    rw [hrest'] at hshape
    exact ⟨more, inserted byte, rfl, hblank byte, hshape, fun h => absurd h htakes, fun _ => rfl⟩

end Lexeme

/-! ### Tokens -/

namespace Token

/-- **The token takes in the blanks behind it**: it is a heredoc, or a line comment that the file
ends. -/
def TakesBlanks (source : String) (t : Token) : Prop :=
  t.kind = .heredoc ∨
    t.kind = .comment ∧ IsLineComment (t.text source).toList ∧
      (t.text source).toList.getLast? ≠ some '\n' ∧ t.bytes.stop = byteLength source.toList

/-- **Two tokens are the same but for blanks**: they are of one kind, and they hold the same text,
where blanks inserted at the end of a token that takes blanks in become a part of it. -/
structure SameButBlanks (inserted : Nat → List Char) (source source' : String) (t t' : Token) :
    Prop where
  kind_eq : t'.kind = t.kind
  takes : t.TakesBlanks source →
    (t'.text source').toList = (t.text source).toList ++ inserted t.bytes.stop
  keeps : ¬t.TakesBlanks source → t'.text source' = t.text source

theorem takesBlanks_ofEnds {source : String} {before text rest : List Char}
    (h : source.toList = before ++ (text ++ rest)) (file : String) (kind : Kind) :
    (ofEnds file kind (behind before) (behind (before ++ text))).TakesBlanks source ↔
      Lexeme.TakesBlanks (some kind) text rest := by
  have hrest : byteLength (before ++ text) = byteLength source.toList ↔ rest = [] := by
    rw [h, ← List.append_assoc, byteLength_append _ rest]
    constructor
    · intro heq
      by_contra hne
      have hpos := byteLength_pos hne
      omega
    · rintro rfl
      rfl
  rw [TakesBlanks, text_ofEnds _ _ _ h, Lexeme.TakesBlanks]
  simp only [ofEnds, behind_byte, hrest, Option.some.injEq]

theorem sameButBlanks_ofEnds {source source' : String} {kind : Kind}
    {before text rest before' text' rest' : List Char} (h : source.toList = before ++ (text ++ rest))
    (h' : source'.toList = before' ++ (text' ++ rest'))
    (htakes : Lexeme.TakesBlanks (some kind) text rest →
      text' = text ++ inserted (byteLength (before ++ text)))
    (hkeeps : ¬Lexeme.TakesBlanks (some kind) text rest → text' = text) (file : String) :
    SameButBlanks inserted source source' (ofEnds file kind (behind before) (behind (before ++ text)))
      (ofEnds file kind (behind before') (behind (before' ++ text'))) := by
  refine ⟨rfl, fun ht => ?_, fun ht => ?_⟩
  · rw [text_ofEnds _ _ _ h, text_ofEnds _ _ _ h']
    exact htakes ((takesBlanks_ofEnds h file kind).mp ht)
  · rw [← String.toList_inj, text_ofEnds _ _ _ h, text_ofEnds _ _ _ h']
    exact hkeeps fun hl => ht ((takesBlanks_ofEnds h file kind).mpr hl)

/-- A token that begins behind the start of the first lexeme is one of those behind the lexeme. -/
theorem mem_place_of_lt {file : String} {before : List Char} {l : Lexeme} {lexemes : List Lexeme}
    {t : Token} (h : t ∈ place file (behind before) (l :: lexemes))
    (hlt : byteLength before < t.bytes.start) :
    t ∈ place file (behind (before ++ l.text)) lexemes := by
  cases hkind : l.kind with
  | none => rwa [place_cons_none hkind] at h
  | some kind =>
    rw [place_cons_some hkind] at h
    rcases List.mem_cons.mp h with rfl | h
    · simp [ofEnds] at hlt
    · exact h

/-- Behind the byte given, there are insertions only where tokens begin. -/
def AtStarts (inserted : Nat → List Char) (byte : Nat) (tokens : List Token) : Prop :=
  ∀ n, byte < n → inserted n ≠ [] → ∃ t ∈ tokens, t.bytes.start = n

theorem AtStarts.tail {file : String} {before : List Char} {l : Lexeme} {lexemes : List Lexeme}
    (h : AtStarts inserted (byteLength before) (place file (behind before) (l :: lexemes))) :
    AtStarts inserted (byteLength (before ++ l.text))
      (place file (behind (before ++ l.text)) lexemes) := by
  intro n hlt hne
  rw [byteLength_append] at hlt
  obtain ⟨t, ht, rfl⟩ := h n (by omega) hne
  exact ⟨t, mem_place_of_lt ht (by omega), rfl⟩

/-- Nothing is put into a lexeme, since no token begins inside it. -/
theorem AtStarts.insertAt_eq {file : String} {before more : List Char} {c : Char}
    {kind : Option Kind} {lexemes : List Lexeme}
    (h : AtStarts inserted (byteLength before)
      (place file (behind before) (⟨kind, c :: more⟩ :: lexemes))) (rest : List Char) :
    insertAt inserted (byteLength before) (c :: (more ++ rest)) =
      inserted (byteLength before) ++
        c :: (more ++ insertAt inserted (byteLength (before ++ c :: more)) rest) := by
  have hc := c.utf8Size_pos
  have hinside : ∀ n, byteLength before + c.utf8Size ≤ n →
      n < byteLength before + c.utf8Size + byteLength more → inserted n = [] := by
    intro n hle hlt
    by_contra hne
    obtain ⟨t, ht, rfl⟩ := h n (by omega) hne
    have hstart := le_start_of_mem_place (mem_place_of_lt ht (by omega))
    simp only [byteLength_append, byteLength_cons] at hstart
    omega
  rw [insertAt, insertAt_append hinside, byteLength_append, byteLength_cons, Nat.add_assoc]

/-- **Blanks put in front of tokens** leave a text cut up alike. -/
theorem exists_cut_insertAt {text left : List Char} {lexemes : List Lexeme}
    (h : Cut text lexemes left) (hleft : left = []) (hblank : ∀ n, IsBlankText (inserted n))
    {file source source' : String} {before before' text' : List Char}
    (hsource : source.toList = before ++ text) (hsource' : source'.toList = before' ++ text')
    (htext' : insertAt inserted (byteLength before) text = inserted (byteLength before) ++ text')
    (hplaces : AtStarts inserted (byteLength before) (place file (behind before) lexemes)) :
    ∃ lexemes', Cut text' lexemes' [] ∧
      List.Forall₂ (SameButBlanks inserted source source') (place file (behind before) lexemes)
        (place file (behind before') lexemes') := by
  induction h generalizing before before' text' with
  | done text =>
    subst hleft
    obtain rfl : text' = [] := by simpa [insertAt] using htext'
    refine ⟨[], .done [], ?_⟩
    have hend : Lexeme.TakesBlanks (some .endOfFile) [] [] →
        [] = [] ++ inserted (byteLength (before ++ [])) := by simp [Lexeme.TakesBlanks]
    have hfile : source.toList = before ++ ([] ++ []) := hsource
    have hfile' : source'.toList = before' ++ ([] ++ []) := hsource'
    have hsame := sameButBlanks_ofEnds hfile hfile' hend (fun _ => rfl) file
    rw [List.append_nil, List.append_nil] at hsame
    exact .cons hsame .nil
  | @cons c more rest left kind lexemes hshape hcut ih =>
    subst hleft
    obtain ⟨rest', hrest'⟩ := exists_insertAt_eq inserted (byteLength (before ++ c :: more)) rest
    rw [hplaces.insertAt_eq, hrest'] at htext'
    obtain rfl : _ = text' := List.append_cancel_left htext'
    obtain ⟨more', lead, hmore, hlead, hshape', htakes, hkeeps⟩ :=
      hshape.exists_insertAt hblank hrest'
    rw [← List.append_assoc, ← hmore, List.append_assoc] at hsource' ⊢
    have hbehind : source.toList = (before ++ c :: more) ++ rest := by simpa using hsource
    have hbehind' : source'.toList = (before' ++ c :: more' ++ lead) ++ rest' := by
      simpa using hsource'
    obtain ⟨lexemes', hcut', hsame⟩ := ih rfl hbehind hbehind' hrest' hplaces.tail
    refine ⟨⟨kind, c :: more'⟩ :: (blankLexemes lead ++ lexemes'),
      .cons hshape' ((hlead.cut rest').trans hcut'), ?_⟩
    cases kind with
    | none =>
      rw [place_cons_none rfl, place_cons_none rfl, place_blankLexemes]
      exact hsame
    | some kind =>
      rw [place_cons_some rfl, place_cons_some rfl, place_blankLexemes]
      refine .cons ?_ hsame
      exact sameButBlanks_ofEnds hsource hsource' (by simpa using htakes) (by simpa using hkeeps) file

/-- A source with blanks put in front of its tokens. -/
theorem exists_lex_insertAt {file source source' : String} {tokens : List Token}
    (h : lex file source = .ok tokens) (hblank : ∀ n, IsBlankText (inserted n))
    (hplaces : ∀ n, inserted n ≠ [] → ∃ t ∈ tokens, t.bytes.start = n)
    (hsource' : source'.toList = insertAt inserted 0 source.toList) :
    ∃ tokens', lex file source' = .ok tokens' ∧
      List.Forall₂ (SameButBlanks inserted source source') tokens tokens' := by
  obtain ⟨lexemes, hcut, rfl⟩ := lex_eq_ok_iff.mp h
  obtain ⟨text', htext'⟩ := exists_insertAt_eq inserted 0 source.toList
  rw [htext'] at hsource'
  have hsource : source.toList = [] ++ source.toList := rfl
  obtain ⟨lexemes', hcut', hsame⟩ := exists_cut_insertAt hcut rfl hblank hsource hsource' htext'
    fun n _ => hplaces n
  refine ⟨_, lex_eq_ok_iff.mpr ⟨blankLexemes (inserted 0) ++ lexemes', ?_, rfl⟩, ?_⟩
  · rw [hsource']
    exact ((hblank 0).cut text').trans hcut'
  · rw [place_blankLexemes]
    exact hsame

end Token

/-! ### What is reported -/

/-- Filtering a list that is given by indices. -/
theorem filter_eq_map {α ι : Type} {l : List α} {indices : List ι} {f : ι → α}
    (h : indices.map f = l) (p : α → Bool) :
    l.filter p = (indices.filter fun i => p (f i)).map f := by
  rw [← h, List.filter_map]
  rfl

theorem Comments.isHashComment_eq {source source' : String} {t t' : Token}
    (h : Token.SameButBlanks inserted source source' t t') :
    isHashComment source' t' = isHashComment source t := by
  unfold isHashComment
  rw [h.kind_eq]
  by_cases htakes : t.TakesBlanks source
  · rw [h.takes htakes]
    rcases htakes with hkind | ⟨-, hcomment, -⟩
    · have hkinds : (Kind.heredoc == Kind.comment) = false := rfl
      rw [hkind, hkinds, Bool.false_and, Bool.false_and]
    · -- the comment is not empty, and its first character stays the first
      cases htext : (t.text source).toList with
      | nil => simp [htext, IsLineComment] at hcomment
      | cons c text => rfl
  · rw [h.keeps htakes]

/-- What the rule on comments reports on a file by itself. -/
theorem Comments.run_single {name content : String} {tokens : List Token}
    (hlex : Token.lex name content = .ok tokens) (path : List String) :
    rule.run none (.ofFiles path [(name, content)]) =
      (if name.endsWith ".json" then []
        else (tokens.filter (isHashComment content)).map fun t => info.issue ⟨message, t.span⟩,
        none) := by
  have htokens : Project.tokensOf ⟨name, content⟩ = .ok tokens := Project.tokensOf_of_lex hlex
  have hfilter : (tokens.flatMap fun t =>
      if isHashComment content t then [Finding.mk message t.span] else []) =
      (tokens.filter (isHashComment content)).map fun t => ⟨message, t.span⟩ := by
    clear hlex htokens
    induction tokens with
    | nil => rfl
    | cons t tokens ih =>
      rw [List.flatMap_cons, ih, List.filter_cons]
      split <;> rfl
  rw [finds.run_single path ⟨name, content⟩, searchFile, htokens, SourceFile.isJson]
  split
  · rfl
  · simp only [Findings.ofExcept, hfilter, List.map_map]
    rfl

namespace Token

open Spacing

/-- **Blanks between tokens make no difference.** Let spaces and tabs be put into a source that can
be cut up, at bytes where tokens begin. Then the new source can be cut up into as many tokens, and
they are the same but for these blanks. The scan for gaps reports the tokens with the same
indices, and so does the rule on comments. -/
theorem lex_insertAt {file source source' : String} {tokens : List Token}
    (h : lex file source = .ok tokens) (hblank : ∀ n, IsBlankText (inserted n))
    (hplaces : ∀ n, inserted n ≠ [] → ∃ t ∈ tokens, t.bytes.start = n)
    (hsource' : source'.toList = insertAt inserted 0 source.toList) (path : List String) :
    ∃ (tokens' : List Token) (hlength : tokens.length = tokens'.length),
      lex file source' = .ok tokens' ∧ tokens'.map kind = tokens.map kind ∧
      (∀ i, SameButBlanks inserted source source' (tokens.get i) (tokens'.get (i.cast hlength))) ∧
      (∃ reported : List (Fin tokens.length), violations tokens = reported.map tokens.get ∧
        violations tokens' = reported.map fun i => tokens'.get (i.cast hlength)) ∧
      ∃ flagged : List (Fin tokens.length),
        Comments.rule.run none (.ofFiles path [(file, source)]) =
          (flagged.map fun i => Comments.info.issue ⟨Comments.message, (tokens.get i).span⟩,
            none) ∧
        Comments.rule.run none (.ofFiles path [(file, source')]) =
          (flagged.map fun i =>
            Comments.info.issue ⟨Comments.message, (tokens'.get (i.cast hlength)).span⟩, none) := by
  obtain ⟨tokens', hlex', hsame⟩ := exists_lex_insertAt h hblank hplaces hsource'
  obtain ⟨hlength, hget⟩ := List.forall₂_iff_get.mp hsame
  have hsame' (i : Fin tokens.length) :
      SameButBlanks inserted source source' (tokens.get i) (tokens'.get (i.cast hlength)) :=
    hget i i.isLt (hlength ▸ i.isLt)
  -- both lists by the indices of the first
  have htokens : (List.finRange tokens.length).map tokens.get = tokens := List.map_get_finRange tokens
  have htokens' : ((List.finRange tokens.length).map fun i => tokens'.get (i.cast hlength)) =
      tokens' := List.ext_getElem (by simp [hlength]) (by simp)
  refine ⟨tokens', hlength, hlex', ?_, hsame', ?_, ?_⟩
  · refine List.ext_getElem (by simp [hlength]) fun i hi' hi => ?_
    rw [List.getElem_map, List.getElem_map]
    exact (hget i (by simpa using hi) (by simpa using hi')).kind_eq
  · obtain ⟨reported, -, hold, hnew⟩ := exists_violationsFrom
      (List.finRange tokens.length) tokens.get (fun i => tokens'.get (i.cast hlength))
      (fun i _ => (hsame' i).kind_eq.symm) (.inside 0)
    rw [htokens] at hold
    rw [htokens'] at hnew
    exact ⟨reported, hold, hnew⟩
  · by_cases hjson : file.endsWith ".json" = true
    · refine ⟨[], ?_, ?_⟩
      · rw [Comments.run_single h, if_pos hjson, List.map_nil]
      · rw [Comments.run_single hlex', if_pos hjson, List.map_nil]
    · refine ⟨(List.finRange tokens.length).filter fun i =>
        Comments.isHashComment source (tokens.get i), ?_, ?_⟩
      · rw [Comments.run_single h, if_neg hjson, filter_eq_map htokens, List.map_map]
        rfl
      · rw [Comments.run_single hlex', if_neg hjson, filter_eq_map htokens', List.map_map]
        simp only [fun i => Comments.isHashComment_eq (hsame' i)]
        rfl

/-- Blanks in front of a token, behind a heredoc and behind a comment at the end of the file: the
kinds of the tokens stay, the heredoc takes in the blank behind it, and the comment is still
reported. -/
theorem lex_insertAt_heredoc : ∃ tokens',
    lex "m" "x =<<E\nE\t\n#é " = .ok tokens' ∧
      tokens'.map kind = [.identifier, .equals, .heredoc, .newline, .comment, .endOfFile] ∧
      (∃ t ∈ tokens', t.kind = .heredoc ∧
        (t.text "x =<<E\nE\t\n#é ").toList = "<<E\nE\t".toList) ∧
      (Comments.rule.run none (.ofFiles [] [("m", "x =<<E\nE\t\n#é ")])).1.length = 1 := by
  let tokens : List Token :=
    [⟨.identifier, ⟨0, 1⟩, ⟨"m", ⟨1, 1, 0⟩, ⟨1, 2, 1⟩⟩⟩,
      ⟨.equals, ⟨1, 2⟩, ⟨"m", ⟨1, 2, 1⟩, ⟨1, 3, 2⟩⟩⟩,
      ⟨.heredoc, ⟨2, 7⟩, ⟨"m", ⟨1, 3, 2⟩, ⟨2, 2, 7⟩⟩⟩,
      ⟨.newline, ⟨7, 8⟩, ⟨"m", ⟨2, 2, 7⟩, ⟨3, 1, 8⟩⟩⟩,
      ⟨.comment, ⟨8, 11⟩, ⟨"m", ⟨3, 1, 8⟩, ⟨3, 3, 11⟩⟩⟩,
      ⟨.endOfFile, ⟨11, 11⟩, ⟨"m", ⟨3, 3, 11⟩, ⟨3, 3, 11⟩⟩⟩]
  have hlex : lex "m" "x=<<E\nE\n#é" = .ok tokens := by decide +kernel
  let inserted (n : Nat) : List Char :=
    if n = 1 ∨ n = 11 then [' '] else if n = 7 then ['\t'] else []
  have hblank (n : Nat) : IsBlankText (inserted n) := by
    simp only [inserted]
    split
    · decide
    · split <;> decide
  have hplaces (n : Nat) (hn : inserted n ≠ []) : ∃ t ∈ tokens, t.bytes.start = n := by
    have hbytes : n = 1 ∨ n = 7 ∨ n = 11 := by
      simp only [inserted] at hn
      split at hn
      · omega
      · split at hn
        · omega
        · exact absurd rfl hn
    rcases hbytes with rfl | rfl | rfl <;> simp [tokens]
  have hsource' : "x =<<E\nE\t\n#é ".toList = insertAt inserted 0 "x=<<E\nE\n#é".toList := by
    decide +kernel
  obtain ⟨tokens', hlength, hlex', hkinds, hsame, -, flagged, hold, hnew⟩ :=
    lex_insertAt hlex hblank hplaces hsource' []
  have hheredoc := hsame (2 : Fin 6)
  refine ⟨tokens', hlex', hkinds, ⟨_, List.get_mem _ _, hheredoc.kind_eq, ?_⟩, ?_⟩
  · rw [hheredoc.takes (.inl rfl)]
    decide +kernel
  · rw [Comments.run_single hlex] at hold
    have hflagged : flagged.length = 1 := by
      have hlengths := congrArg (fun run => run.1.length) hold
      rw [List.length_map] at hlengths
      rw [← hlengths]
      decide +kernel
    rw [hnew, List.length_map, hflagged]

end Token

end TerraLint
