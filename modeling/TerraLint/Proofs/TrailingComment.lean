import TerraLint.Proofs.BlankLines
import TerraLint.Proofs.Following

/-!
# A comment behind the closing brace

The scan for gaps passes over comments, but a line comment takes the line feed of its line
along, and it is line breaks that the scan counts. So a comment put on the line of the brace
that closes a top-level block takes a line break out of the gap below: the next block is in
its place only if *two* empty lines follow, and with the one empty line that is asked for it
is reported (`TerraLint.Spacing.violations_trailing_one_line`). This file says exactly what
such a comment does (`TerraLint.Spacing.violations_trailing`): apart from the one token that
ends the gap, the scan reports the same tokens as before.

The comment changes the text between two stop characters: the brace in front of it, behind
which the lexemes do not matter to those above, and the line feed that ends it. So the tokens
above stay as they are, and those below move by the bytes of the comment.
-/

namespace TerraLint

open Lexeme Position

/-! ### Tokens further on in the file -/

/-- The position further on by a number of bytes, on the same line and in the same column. -/
def Position.later (n : Nat) (p : Position) : Position := { p with byte := p.byte + n }

/-- The token as it is when a line above it gets longer by a number of bytes. -/
def Token.later (n : Nat) (t : Token) : Token where
  kind := t.kind
  bytes := ⟨t.bytes.start + n, t.bytes.stop + n⟩
  span := ⟨t.span.file, t.span.start.later n, t.span.stop.later n⟩

namespace Token

/-- **Below a line that gets longer** the lexemes are further on by as many bytes, and keep their
lines and columns. -/
theorem place_later {more : List Char} (hmore : '\n' ∉ more) (file : String) (a : List Char)
    (lexemes : List Lexeme) :
    place file (behind (a ++ more ++ ['\n'])) lexemes =
      (place file (behind (a ++ ['\n'])) lexemes).map (later (byteLength more)) := by
  have hlines (text : List Char) : WholeLines (text ++ ['\n']) := .inr List.getLast?_concat
  have hshift := place_shift (hlines a) file [] lexemes
  have hshift' := place_shift (hlines (a ++ more)) file [] lexemes
  rw [List.append_nil] at hshift hshift'
  rw [hshift, hshift', List.map_map]
  refine List.map_congr_left fun t _ => ?_
  have hcount : (a ++ more ++ ['\n']).count '\n' = (a ++ ['\n']).count '\n' := by
    simp [List.count_eq_zero_of_not_mem hmore]
  have hbytes (n : Nat) : n + byteLength (a ++ more ++ ['\n']) =
      n + byteLength (a ++ ['\n']) + byteLength more := by
    simp only [byteLength_append]
    omega
  simp only [Function.comp, shift, later, Position.shift, Position.later, hcount, hbytes]

/-- **A comment behind a closing brace** takes the place of the line break there. The tokens above
it stay as they are, and those below are further on by its bytes. -/
theorem lex_trailing {file source : String} {front rest : List Token} {brace : Token}
    {before blanks after comment : List Char}
    (hlex : lex file source = .ok (front ++ brace :: rest)) (hbrace : brace.kind = .closeBrace)
    (hsource : source.toList = before ++ (blanks ++ '\n' :: after))
    (hstop : brace.bytes.stop = byteLength before) (hblanks : IsBlankText blanks)
    (hcomment : '\n' ∉ comment) :
    ∃ newline trailing below, rest = newline :: below ∧ newline.kind = .newline ∧
      trailing.kind = .comment ∧
      lex file (String.ofList (before ++ (blanks ++ ('/' :: '/' :: comment) ++ '\n' :: after))) =
        .ok (front ++ brace :: trailing :: below.map (later (byteLength ('/' :: '/' :: comment)))) := by
  obtain ⟨passed, lexemes, text, hpassed, hlexemes, rfl, rfl, rfl⟩ :=
    Spacing.exists_cut_brace hlex hbrace
  -- the brace is the last character of the text in front
  obtain ⟨rfl, rfl⟩ : before = written passed ++ ['}'] ∧ blanks ++ '\n' :: after = text := by
    refine eq_of_byteLength_eq ?_ hstop.symm
    rw [← hsource, hpassed.eq_written]
    simp
  have hline : Cut (blanks ++ '\n' :: after) (blankLexemes blanks ++ [⟨some .newline, ['\n']⟩])
      after := (hblanks.cut _).trans (.single .lineFeed (.done after))
  obtain ⟨last, rfl, hlast⟩ := hline.exists_append hlexemes
  rw [List.append_assoc, List.singleton_append, place_blankLexemes, place_cons_some rfl]
  refine ⟨_, ofEnds file .comment (behind (written passed ++ ['}'] ++ blanks))
    (behind (written passed ++ ['}'] ++ blanks ++ ('/' :: '/' :: comment) ++ ['\n'])), _, rfl, rfl,
    rfl, ?_⟩
  have hbelow : Cut (blanks ++ ('/' :: '/' :: comment) ++ '\n' :: after)
      (blankLexemes blanks ++ ⟨some .comment, '/' :: '/' :: comment ++ ['\n']⟩ :: last) [] := by
    have hopening : IsLineComment ('/' :: '/' :: comment) := .inr (by simp)
    rw [List.append_assoc]
    exact (hblanks.cut _).trans ((hopening.cut (by simpa using hcomment) after).trans hlast)
  have hcut := (hpassed.replace rfl (by decide) _).trans
    (.single (.bracket (by decide : ('}', .closeBrace) ∈ brackets)) hbelow)
  rw [lex_eq_ok_iff, String.toList_ofList, List.append_assoc (written passed)]
  refine ⟨_, hcut, ?_⟩
  rw [place_append, place_cons_some rfl, place_blankLexemes, place_cons_some rfl,
    ← place_later (by simpa using hcomment)]
  simp

end Token

/-! ### What the scan reports -/

namespace Spacing

/-- **A gap in a scan**: behind a top-level block the token that ends the gap is reported if it is
content and the line breaks are not two. Above and below it the scan does not look at the gap. -/
theorem violations_gap {front gap : List Token} {brace next : Token} (below : List Token)
    (hbrace : brace.kind = .closeBrace) (hdepth : depth front = 1)
    (hgap : ∀ t ∈ gap, t.kind = .newline ∨ t.kind = .comment)
    (hnext : next.kind ≠ .newline ∧ next.kind ≠ .comment) :
    violations (front ++ brace :: (gap ++ next :: below)) =
      violations front ++
        ((if IsContent next ∧ gap.countP (fun t => t.kind == .newline) ≠ 2 then [next] else []) ++
          violationsFrom ((State.gap 0).behind next.kind) below) := by
  have hsplit : front ++ brace :: (gap ++ next :: below) =
      (front ++ [brace]) ++ (gap ++ next :: below) := by simp
  have hsilent : violations (front ++ [brace]) = violations front :=
    violations_append_eq front (by simp [IsContent, hbrace])
  rw [violations, hsplit, violationsFrom_append, after_closing hbrace hdepth, ← violations, hsilent,
    violationsFrom_gap hgap, violationsFrom_gap_cons hnext, Nat.zero_add]

/-- **A comment on the line of the brace** takes a line break out of the gap. Let `next` be the
first token behind the brace of a top-level block and the line break there that is neither a line
break nor a comment. Without the comment it is reported, if it is content, unless one line break
stands between; with the comment, unless there are two. All other tokens are reported as before. -/
theorem violations_trailing {file source : String} {front gap below : List Token}
    {brace newline next : Token} {before blanks after comment : List Char}
    (hlex : Token.lex file source = .ok (front ++ brace :: newline :: (gap ++ next :: below)))
    (hbrace : brace.kind = .closeBrace) (hdepth : depth front = 1)
    (hgap : ∀ t ∈ gap, t.kind = .newline ∨ t.kind = .comment)
    (hnext : next.kind ≠ .newline ∧ next.kind ≠ .comment)
    (hsource : source.toList = before ++ (blanks ++ '\n' :: after))
    (hstop : brace.bytes.stop = byteLength before) (hblanks : IsBlankText blanks)
    (hcomment : '\n' ∉ comment) :
    ∃ trailing above further, newline.kind = .newline ∧ trailing.kind = .comment ∧
      Token.lex file
          (String.ofList (before ++ (blanks ++ ('/' :: '/' :: comment) ++ '\n' :: after))) =
        .ok (front ++ brace :: trailing ::
          (gap ++ next :: below).map (Token.later (byteLength ('/' :: '/' :: comment)))) ∧
      above.Sublist front ∧ further.Sublist below ∧
      violations (front ++ brace :: newline :: (gap ++ next :: below)) =
        above ++ ((if IsContent next ∧ gap.countP (fun t => t.kind == .newline) ≠ 1 then [next]
          else []) ++ further) ∧
      violations (front ++ brace :: trailing ::
          (gap ++ next :: below).map (Token.later (byteLength ('/' :: '/' :: comment)))) =
        above ++ ((if IsContent next ∧ gap.countP (fun t => t.kind == .newline) ≠ 2 then
          [next.later (byteLength ('/' :: '/' :: comment))] else []) ++
            further.map (Token.later (byteLength ('/' :: '/' :: comment)))) := by
  obtain ⟨_, trailing, _, hrest, hnewline, htrailing, hlex'⟩ :=
    Token.lex_trailing hlex hbrace hsource hstop hblanks hcomment
  obtain ⟨rfl, rfl⟩ := List.cons.inj hrest
  generalize byteLength ('/' :: '/' :: comment) = n at hlex' ⊢
  -- below the gap the scan goes on alike, since the tokens there keep their kinds
  obtain ⟨further, hsub, hfurther, hfurther'⟩ := exists_violationsFrom below id
    (Token.later n) (fun _ _ => rfl) ((State.gap 0).behind next.kind)
  rw [List.map_id, List.map_id] at hfurther
  refine ⟨trailing, violations front, further, hnewline, htrailing, hlex',
    violationsFrom_sublist _ _, hsub, ?_, ?_⟩
  · have hold := violations_gap below hbrace hdepth
      (List.forall_mem_cons.mpr ⟨.inl hnewline, hgap⟩) hnext
    rw [List.cons_append] at hold
    rw [hold, hfurther]
    simp [hnewline]
  · have hgap' : ∀ t ∈ trailing :: gap.map (Token.later n),
        t.kind = .newline ∨ t.kind = .comment := by
      refine List.forall_mem_cons.mpr ⟨.inr htrailing, ?_⟩
      simpa [Token.later] using hgap
    have hnext' : (next.later n).kind ≠ .newline ∧ (next.later n).kind ≠ .comment := hnext
    have hnew := violations_gap (below.map (Token.later n)) hbrace hdepth hgap' hnext'
    have hcount : (trailing :: gap.map (Token.later n)).countP (fun t => t.kind == .newline) =
        gap.countP fun t => t.kind == .newline := by
      rw [List.countP_cons, List.countP_map]
      simp [htrailing, Function.comp_def, Token.later]
    rw [hcount, List.cons_append] at hnew
    rw [List.map_append, List.map_cons, hnew]
    exact congrArg _ (congrArg _ hfurther')

/-- With one empty line below its brace a block is reported once the brace has a comment. -/
theorem violations_trailing_one_line : ∃ tokens tokens',
    Token.lex "m" "a\x7b\x7d \n\nb" = .ok tokens ∧ violations tokens = [] ∧
      Token.lex "m" "a\x7b\x7d //é\n\nb" = .ok tokens' ∧
      violations tokens' = [⟨.identifier, ⟨10, 11⟩, ⟨"m", ⟨3, 1, 10⟩, ⟨3, 2, 11⟩⟩⟩] := by
  have hlex : Token.lex "m" "a\x7b\x7d \n\nb" = .ok
      ([⟨.identifier, ⟨0, 1⟩, ⟨"m", ⟨1, 1, 0⟩, ⟨1, 2, 1⟩⟩⟩,
          ⟨.openBrace, ⟨1, 2⟩, ⟨"m", ⟨1, 2, 1⟩, ⟨1, 3, 2⟩⟩⟩] ++
        ⟨.closeBrace, ⟨2, 3⟩, ⟨"m", ⟨1, 3, 2⟩, ⟨1, 4, 3⟩⟩⟩ ::
          ⟨.newline, ⟨4, 5⟩, ⟨"m", ⟨1, 5, 4⟩, ⟨2, 1, 5⟩⟩⟩ ::
            ([⟨.newline, ⟨5, 6⟩, ⟨"m", ⟨2, 1, 5⟩, ⟨3, 1, 6⟩⟩⟩] ++
              ⟨.identifier, ⟨6, 7⟩, ⟨"m", ⟨3, 1, 6⟩, ⟨3, 2, 7⟩⟩⟩ ::
                [⟨.endOfFile, ⟨7, 7⟩, ⟨"m", ⟨3, 2, 7⟩, ⟨3, 2, 7⟩⟩⟩])) := by
    decide +kernel
  have hsource : "a\x7b\x7d \n\nb".toList = "a\x7b\x7d".toList ++ ([' '] ++ '\n' :: "\nb".toList) := by
    decide +kernel
  have hcomment : '\n' ∉ ['é'] := by decide
  obtain ⟨trailing, above, further, -, -, hlex', -, -, hold, hnew⟩ :=
    violations_trailing hlex rfl rfl (by decide) (by decide) hsource (by decide) (by decide) hcomment
  have hempty : above = [] ∧ further = [] := by
    rw [show violations _ = [] by decide +kernel] at hold
    simpa [IsContent] using hold.symm
  refine ⟨_, _, hlex, by decide +kernel, hlex', ?_⟩
  rw [hnew, hempty.1, hempty.2]
  decide +kernel

/-- Comments are not transparent: with a comment behind the brace, a block one empty line below is
reported, and a block two empty lines below is not. -/
theorem not_transparent :
    ((Token.lex "m" "a \x7b\n\x7d\n\nb").map fun tokens => (violations tokens).length) = .ok 0 ∧
    ((Token.lex "m" "a \x7b\n\x7d// x\n\nb").map fun tokens => (violations tokens).length) = .ok 1 ∧
    ((Token.lex "m" "a \x7b\n\x7d\n\n\nb").map fun tokens => (violations tokens).length) = .ok 1 ∧
    ((Token.lex "m" "a \x7b\n\x7d// x\n\n\nb").map fun tokens =>
      (violations tokens).length) = .ok 0 := by
  decide +kernel

end Spacing

end TerraLint
