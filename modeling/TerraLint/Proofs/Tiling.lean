import TerraLint.Proofs.Cut

/-!
# Tokens tile their source

Lexing is lossless (`TerraLint.Token.lex_tiles`). The tokens of a source stand in
it one behind the other without overlap, each but the last covers at least one
byte, and the last is the end of the file. What they leave uncovered is blank: a
space, a tab, or a carriage return that ends no line. So the gaps and the texts of
the tokens, written in turn, are the source again.

The tokens come from a cut of the source into lexemes, and the properties are read
off the cut one at a time: a lexeme that is no token is a blank
(`TerraLint.Lexeme.Shape.isGapChar_of_none`), and the tokens of the later lexemes begin
behind those of the earlier ones (`TerraLint.Token.le_start_of_mem_place`).
-/

namespace TerraLint

open Lexeme Position

namespace Token

/-! ### What it is to tile a source -/

/-- A character that stands between tokens, by itself and by what follows it: a space, a
tab, or a carriage return that is not directly followed by a line feed. -/
def IsGapChar (c : Char) (after : List Char) : Prop :=
  c = ' ' ∨ c = '\t' ∨ c = '\r' ∧ after.head? ≠ some '\n'

/-- The token covers the byte. -/
def Covers (t : Token) (byte : Nat) : Prop := t.bytes.start ≤ byte ∧ byte < t.bytes.stop

/-- The texts in front of the tokens, the first from a given byte on and the others from
behind the token before. -/
def gapsFrom (source : List Char) (byte : Nat) : List Token → List (List Char)
  | [] => []
  | t :: rest =>
    (sliceBytes? source byte t.bytes.start).getD [] :: gapsFrom source t.bytes.stop rest

/-- **The tokens tile the source.** -/
structure Tiles (file source : String) (tokens : List Token) : Prop where
  /-- The bytes of a token are those of its span. -/
  bytes_eq : ∀ t ∈ tokens, t.bytes = ⟨t.span.start.byte, t.span.stop.byte⟩
  /-- The tokens are in order and do not overlap. -/
  ordered : tokens.Pairwise fun s t =>
    s.bytes.start < t.bytes.start ∧ s.bytes.stop ≤ t.bytes.start
  /-- The last token, and no other, is the end of the file: the empty span behind the last
  byte. The others are not empty. -/
  last : ∃ front p, tokens = front ++ [⟨.endOfFile, ⟨p.byte, p.byte⟩, .point file p⟩] ∧
    p.byte = byteLength source.toList ∧
    ∀ t ∈ front, t.kind ≠ .endOfFile ∧ t.bytes.start < t.bytes.stop
  /-- What no token covers is blank. -/
  blank : ∀ before c after, source.toList = before ++ c :: after →
    (∀ t ∈ tokens, ¬t.Covers (byteLength before)) → IsGapChar c after
  /-- Gaps and token texts, in turn, make up the source. -/
  source_eq : source.toList = (List.zipWith (fun gap t => gap ++ (t.text source).toList)
    (gapsFrom source.toList 0 tokens) tokens).flatten

/-! ### Order -/

/-- Tokens placed behind a text begin behind it. -/
theorem le_start_of_mem_place {file : String} {before : List Char} {lexemes : List Lexeme}
    {t : Token} (h : t ∈ place file (behind before) lexemes) :
    byteLength before ≤ t.bytes.start := by
  rcases mem_place h with ⟨front, l, back, kind, -, -, rfl⟩ | rfl
  all_goals
    simp only [ofEnds, behind_byte, byteLength_append]
    omega

theorem place_pairwise (file : String) (before : List Char) {lexemes : List Lexeme}
    (hne : ∀ l ∈ lexemes, l.text ≠ []) :
    (place file (behind before) lexemes).Pairwise fun s t =>
      s.bytes.start < t.bytes.start ∧ s.bytes.stop ≤ t.bytes.start := by
  induction lexemes generalizing before with
  | nil => simp [place]
  | cons l lexemes ih =>
    have ih' := ih (before ++ l.text) fun l hl => hne l (List.mem_cons_of_mem _ hl)
    cases hkind : l.kind with
    | none =>
      rw [place_cons_none hkind]
      exact ih'
    | some kind =>
      rw [place_cons_some hkind]
      refine List.pairwise_cons.mpr ⟨fun t ht => ?_, ih'⟩
      have hle := le_start_of_mem_place ht
      have hpos := byteLength_pos (hne l List.mem_cons_self)
      simp only [ofEnds, behind_byte, byteLength_append] at hle ⊢
      omega

/-! ### The end of the file -/

/-- The tokens of lexemes are those of the lexemes, and the end of the file. -/
theorem place_eq_append (file : String) (before : List Char) {lexemes : List Lexeme}
    (hne : ∀ l ∈ lexemes, l.text ≠ [] ∧ l.kind ≠ some .endOfFile) :
    ∃ front, place file (behind before) lexemes =
        front ++ [ofEnds file .endOfFile (behind (before ++ written lexemes))
          (behind (before ++ written lexemes))] ∧
      ∀ t ∈ front, t.kind ≠ .endOfFile ∧ t.bytes.start < t.bytes.stop := by
  induction lexemes generalizing before with
  | nil => exact ⟨[], by simp [place], by simp⟩
  | cons l lexemes ih =>
    obtain ⟨front, hplace, hfront⟩ :=
      ih (before ++ l.text) fun l hl => hne l (List.mem_cons_of_mem _ hl)
    rw [List.append_assoc, ← written_cons] at hplace
    obtain ⟨htext, hend⟩ := hne l List.mem_cons_self
    cases hkind : l.kind with
    | none =>
      refine ⟨front, ?_, hfront⟩
      rw [place_cons_none hkind, hplace]
    | some kind =>
      refine ⟨ofEnds file kind (behind before) (behind (before ++ l.text)) :: front, ?_, ?_⟩
      · rw [place_cons_some hkind, hplace, List.cons_append]
      · intro t ht
        rcases List.mem_cons.mp ht with rfl | ht
        · refine ⟨fun h => hend (hkind.trans (congrArg some h)), ?_⟩
          have hpos := byteLength_pos htext
          simp only [ofEnds, behind_byte, byteLength_append]
          omega
        · exact hfront t ht

end Token

/-! ### Blanks -/

namespace Lexeme

/-- No shape is that of the end of the file. -/
theorem Shape.kind_ne_endOfFile {c : Char} {rest : List Char} {kind : Option Kind} {extra : Nat}
    (h : Shape c rest kind extra) : kind ≠ some .endOfFile := by
  cases h with
  | bracket h =>
    rintro ⟨⟩
    simp [brackets] at h
  | _ => simp

/-- A lexeme that is no token is a single blank. -/
theorem Shape.isGapChar_of_none {c : Char} {rest : List Char} {extra : Nat}
    (h : Shape c rest none extra) : extra = 0 ∧ Token.IsGapChar c rest := by
  cases h with
  | blank h => exact ⟨rfl, h.imp_right .inl⟩
  | carriageReturn h => exact ⟨rfl, .inr (.inr ⟨rfl, h⟩)⟩

theorem Cut.kind_ne_endOfFile {text left : List Char} {lexemes : List Lexeme}
    (h : Cut text lexemes left) : ∀ l ∈ lexemes, l.kind ≠ some .endOfFile := by
  induction h with
  | done => simp
  | cons hshape _ ih =>
    intro l hl
    rcases List.mem_cons.mp hl with rfl | hl
    · exact hshape.kind_ne_endOfFile
    · exact ih l hl

/-- **What no token covers is blank**: a character of a lexeme lies inside the token of that
lexeme, unless the lexeme is a blank. -/
theorem Cut.isGapChar {text left : List Char} {lexemes : List Lexeme} (hcut : Cut text lexemes left)
    (hleft : left = []) {file : String} (read : List Char) {before after : List Char} {c : Char}
    (htext : text = before ++ c :: after)
    (huncovered : ∀ t ∈ Token.place file (behind read) lexemes,
      ¬t.Covers (byteLength (read ++ before))) : Token.IsGapChar c after := by
  induction hcut generalizing read before with
  | done =>
    rw [hleft] at htext
    simp at htext
  | @cons d more rest left kind lexemes hshape _ ih =>
    have hsplit : (d :: more) ++ rest = before ++ c :: after := htext
    rcases exists_of_append_eq_append_cons hsplit with ⟨before', rfl, hrest⟩ | ⟨inside, hd, rfl⟩
    · -- the character lies behind the first lexeme
      refine ih hleft (read ++ (d :: more)) hrest fun t ht => ?_
      rw [List.append_assoc]
      exact huncovered t (Token.place_subset file read ⟨kind, d :: more⟩ lexemes ht)
    · -- the character lies inside the first lexeme
      cases kind with
      | none =>
        obtain ⟨hzero, hgap⟩ := hshape.isGapChar_of_none
        obtain rfl : more = [] := List.length_eq_zero_iff.mp hzero
        cases before with
        | nil =>
          obtain ⟨rfl, rfl⟩ : d = c ∧ [] = inside := by simpa using hd
          exact hgap
        | cons e before => simp at hd
      | some kind =>
        have hmem : Token.ofEnds file kind (behind read) (behind (read ++ d :: more)) ∈
            Token.place file (behind read) (⟨some kind, d :: more⟩ :: lexemes) := by
          rw [Token.place_cons_some rfl]
          exact List.mem_cons_self
        refine absurd ?_ (huncovered _ hmem)
        have hc := c.utf8Size_pos
        simp only [Token.Covers, Token.ofEnds, behind_byte, hd, byteLength_append,
          byteLength_cons]
        omega

end Lexeme

/-! ### The source, written again -/

namespace Token

/-- The text of a token placed on a stretch of the source is the stretch. -/
theorem text_ofEnds {source : String} (a b c : List Char) (h : source.toList = a ++ (b ++ c))
    (file : String) (kind : Kind) :
    ((ofEnds file kind (behind a) (behind (a ++ b))).text source).toList = b := by
  have hslice := sliceBytes?_of_eq h
  simp only [text, ofEnds, behind_byte, hslice]
  simp

/-- **Gaps and tokens, in turn, are the text they were cut from**, where the gap that has been
read and not yet written is put in front. -/
theorem flatten_gaps {source : String} {text left : List Char} {lexemes : List Lexeme}
    (hcut : Cut text lexemes left) (hleft : left = []) (read gap : List Char)
    (hsource : source.toList = read ++ (gap ++ text)) (file : String) :
    (List.zipWith (fun gap t => gap ++ (t.text source).toList)
      (gapsFrom source.toList (byteLength read) (place file (behind (read ++ gap)) lexemes))
      (place file (behind (read ++ gap)) lexemes)).flatten = gap ++ text := by
  induction hcut generalizing read gap with
  | done =>
    subst hleft
    have hgap := sliceBytes?_of_eq hsource
    have hend : ((ofEnds file .endOfFile (behind (read ++ gap)) (behind (read ++ gap))).text
        source).toList = [] := by
      have hsource' : source.toList = (read ++ gap) ++ ([] ++ []) := by simp [hsource]
      have hempty := text_ofEnds _ _ _ hsource' file .endOfFile
      rwa [List.append_nil] at hempty
    simp only [place, gapsFrom, List.zipWith_cons_cons, List.zipWith_nil_left, hend]
    simp only [ofEnds, behind_byte, hgap]
    simp
  | @cons d more rest left kind lexemes hshape _ ih =>
    cases kind with
    | none =>
      rw [place_cons_none rfl, List.append_assoc]
      have hrest := ih hleft read (gap ++ (d :: more)) (by simp [hsource])
      simpa using hrest
    | some kind =>
      have hgap := sliceBytes?_of_eq hsource
      have hsource' : source.toList = (read ++ gap) ++ ((d :: more) ++ rest) := by simp [hsource]
      have htext := text_ofEnds _ _ _ hsource' file kind
      have hrest := ih hleft (read ++ gap ++ (d :: more)) [] (by simp [hsource])
      rw [List.append_nil, List.nil_append] at hrest
      rw [place_cons_some rfl]
      simp only [gapsFrom, List.zipWith_cons_cons, List.flatten_cons, htext]
      simp only [ofEnds, behind_byte, hgap, Option.getD_some, hrest]
      simp

/-- **Lexing is lossless**: the tokens of a source tile it. -/
theorem lex_tiles {file source : String} {tokens : List Token}
    (h : lex file source = .ok tokens) : Tiles file source tokens := by
  obtain ⟨lexemes, hcut, rfl⟩ := lex_eq_ok_iff.mp h
  have hne := hcut.text_ne_nil
  have hsource : source.toList = written lexemes := by simpa using hcut.eq_written
  refine ⟨?_, place_pairwise file [] hne, ?_, ?_, ?_⟩
  · intro t ht
    rcases mem_place ht with ⟨front, l, back, kind, -, -, rfl⟩ | rfl <;> rfl
  · obtain ⟨front, hplace, hfront⟩ := place_eq_append file [] fun l hl =>
      ⟨hne l hl, hcut.kind_ne_endOfFile l hl⟩
    exact ⟨front, behind (written lexemes), hplace, by rw [behind_byte, hsource], hfront⟩
  · intro before c after hbefore huncovered
    exact hcut.isGapChar rfl [] hbefore huncovered
  · exact (flatten_gaps hcut rfl [] [] rfl file).symm

/-- A name, a comment that takes its line feed along, and a carriage return that ends no
line. -/
theorem lex_tiles_comment : lex "m" "a #é\n\r" = .ok
      [⟨.identifier, ⟨0, 1⟩, ⟨"m", ⟨1, 1, 0⟩, ⟨1, 2, 1⟩⟩⟩,
        ⟨.comment, ⟨2, 6⟩, ⟨"m", ⟨1, 3, 2⟩, ⟨2, 1, 6⟩⟩⟩,
        ⟨.endOfFile, ⟨7, 7⟩, ⟨"m", ⟨2, 2, 7⟩, ⟨2, 2, 7⟩⟩⟩] ∧
    Tiles "m" "a #é\n\r"
      [⟨.identifier, ⟨0, 1⟩, ⟨"m", ⟨1, 1, 0⟩, ⟨1, 2, 1⟩⟩⟩,
        ⟨.comment, ⟨2, 6⟩, ⟨"m", ⟨1, 3, 2⟩, ⟨2, 1, 6⟩⟩⟩,
        ⟨.endOfFile, ⟨7, 7⟩, ⟨"m", ⟨2, 2, 7⟩, ⟨2, 2, 7⟩⟩⟩] :=
  ⟨by decide +kernel, lex_tiles (by decide +kernel)⟩

end Token

end TerraLint
