import TerraLint.Proofs.Concatenation
import TerraLint.Proofs.Gaps
import TerraLint.Proofs.Tiling

/-!
# One blank line between blocks

The scan for gaps counts tokens: a block is in its place if two line breaks stand in the
gap in front of it. This file says what that is in the text. Where the gap is made of
blanks and of comments that have lines of their own, the token behind it is reported if
and only if the number of blank lines between the brace and the token is not one
(`TerraLint.Spacing.mem_violations_iff_blankLines`).

The two counts differ by the line of the brace, whose line feed is a token and which is
not a blank line, and they agree below it: the line feed of a blank line is a token, with
the carriage return in front of it if there is one, while a line comment takes its line
feed along (`TerraLint.Lexeme.Cut.countP_newline`). That no line of the gap is anything
else is what keeps the lexemes in step with the lines.
-/

namespace TerraLint

/-! ### The lines of a text -/

/-- There is one line more than there are line feeds. -/
theorem length_lines (text : List Char) :
    (text.splitOn '\n').length = text.count '\n' + 1 := by
  induction text using lines_induction with
  | last line hline =>
    rw [List.splitOn_eq_singleton hline, List.count_eq_zero_of_not_mem hline, List.length_singleton]
  | feed line rest hline ih =>
    rw [List.splitOn_append_cons_self_of_not_mem hline, List.length_cons, ih, List.count_append,
      List.count_eq_zero_of_not_mem hline, List.count_cons_self, Nat.zero_add]

/-- The lines that end in the first part of a text. -/
theorem take_lines_append (a b : List Char) :
    ((a ++ b).splitOn '\n').take (a.count '\n') = (a.splitOn '\n').dropLast := by
  induction a using lines_induction with
  | last line hline =>
    rw [List.splitOn_eq_singleton hline, List.count_eq_zero_of_not_mem hline]
    rfl
  | feed line rest hline ih =>
    rw [List.append_assoc, List.cons_append, List.splitOn_append_cons_self_of_not_mem hline,
      List.splitOn_append_cons_self_of_not_mem hline, List.count_append,
      List.count_eq_zero_of_not_mem hline, List.count_cons_self, Nat.zero_add,
      List.take_succ_cons, ih, List.dropLast_cons_of_ne_nil (List.splitOn_ne_nil _ _)]

/-- A text begins with the first part of a line. -/
theorem exists_append_mem_lines {a : List Char} (ha : '\n' ∉ a) (b : List Char) :
    ∃ more, a ++ more ∈ (a ++ b).splitOn '\n' := by
  induction b using lines_induction with
  | last line hline =>
    have hnot : '\n' ∉ a ++ line := by simp [ha, hline]
    exact ⟨line, by simp [List.splitOn_eq_singleton hnot]⟩
  | feed line rest hline _ =>
    have hnot : '\n' ∉ a ++ line := by simp [ha, hline]
    refine ⟨line, ?_⟩
    rw [← List.append_assoc, List.splitOn_append_cons_self_of_not_mem hnot]
    exact List.mem_cons_self

/-- The lines strictly between two lines of a text, which are counted from one. -/
def linesBetween (text : List Char) (upper lower : Nat) : List (List Char) :=
  ((text.splitOn '\n').take (lower - 1)).drop upper

/-- **The lines between two places** are those that begin and end in the text between them. -/
theorem linesBetween_eq (before gap after : List Char) :
    linesBetween (before ++ gap ++ after) (Position.behind before).line
      (Position.behind (before ++ gap)).line = (gap.splitOn '\n').dropLast.tail := by
  simp only [linesBetween, Position.behind, Nat.add_sub_cancel_left, take_lines_append]
  by_cases hmem : '\n' ∈ gap
  · obtain ⟨line, rest, rfl, hline⟩ := List.eq_append_cons_of_mem hmem
    have hlength : ((before ++ line).splitOn '\n').length = 1 + before.count '\n' := by
      rw [length_lines, List.count_append, List.count_eq_zero_of_not_mem hline]
      omega
    rw [← List.append_assoc, List.splitOn_append_cons_self,
      List.splitOn_append_cons_self_of_not_mem hline,
      List.dropLast_append_of_ne_nil (List.splitOn_ne_nil _ _), List.drop_left' hlength,
      List.dropLast_cons_of_ne_nil (List.splitOn_ne_nil _ _), List.tail_cons]
  · -- both places are on one line
    rw [List.splitOn_eq_singleton hmem, List.drop_eq_nil_of_le]
    · rfl
    · rw [List.length_dropLast, length_lines, List.count_append,
        List.count_eq_zero_of_not_mem hmem]
      omega

namespace Spacing

/-- The characters of a blank line. -/
def blanks : List Char := [' ', '\t', '\r']

/-- A line of blanks. -/
def IsBlankLine (line : List Char) : Prop := ∀ c ∈ line, c ∈ blanks

instance (line : List Char) : Decidable (IsBlankLine line) :=
  List.decidableBAll _ line

/-- A line on which a line comment stands, and nothing else. -/
def IsCommentLine (line : List Char) : Prop :=
  ['#'] <+: line.dropWhile (· ∈ blanks) ∨ ['/', '/'] <+: line.dropWhile (· ∈ blanks)

instance (line : List Char) : Decidable (IsCommentLine line) :=
  inferInstanceAs (Decidable (_ ∨ _))

/-- A gap without content: blanks up to the end of the line, and below it blank lines and
lines of comments. -/
def IsPlainGap (gap : List Char) : Prop :=
  IsBlankLine ((gap.splitOn '\n').head (List.splitOn_ne_nil _ _)) ∧
    ∀ line ∈ (gap.splitOn '\n').tail, IsBlankLine line ∨ IsCommentLine line

instance (gap : List Char) : Decidable (IsPlainGap gap) :=
  inferInstanceAs (Decidable (_ ∧ _))

theorem IsBlankLine.not_mem {line : List Char} (h : IsBlankLine line) : '\n' ∉ line :=
  fun hmem => absurd (h _ hmem) (by decide)

theorem IsBlankLine.append {a b : List Char} (ha : IsBlankLine a) (hb : IsBlankLine b) :
    IsBlankLine (a ++ b) :=
  List.forall_mem_append.mpr ⟨ha, hb⟩

/-- The number of blank lines among lines. -/
def blankLines (lines : List (List Char)) : Nat := lines.countP fun line => IsBlankLine line

/-- A line that ends in a text counts if it is blank. -/
theorem blankLines_line {line : List Char} (hline : '\n' ∉ line) (rest : List Char) :
    blankLines ((line ++ '\n' :: rest).splitOn '\n').dropLast =
      blankLines (rest.splitOn '\n').dropLast + if IsBlankLine line then 1 else 0 := by
  rw [List.splitOn_append_cons_self_of_not_mem hline,
    List.dropLast_cons_of_ne_nil (List.splitOn_ne_nil _ _)]
  simp [blankLines, List.countP_cons]

end Spacing

namespace Lexeme

open Spacing

/-- A line break is a line feed, perhaps with a carriage return in front of it. -/
theorem Shape.exists_of_newline {c : Char} {more rest : List Char}
    (h : Shape c (more ++ rest) (some .newline) more.length) :
    ∃ blank, IsBlankLine blank ∧ c :: more = blank ++ ['\n'] := by
  generalize htext : more ++ rest = text at h
  generalize hlength : more.length = length at h
  cases h with
  | lineFeed =>
    obtain rfl := List.length_eq_zero_iff.mp hlength
    exact ⟨[], by decide, rfl⟩
  | lineEnd h =>
    obtain ⟨d, rfl⟩ := List.length_eq_one_iff.mp hlength
    obtain rfl : d = '\n' := by simpa [← htext] using h
    exact ⟨['\r'], by decide, rfl⟩
  | bracket h => simp [brackets] at h

/-- A block comment stands on a line that is neither blank nor the line of a line comment. -/
theorem exists_line_of_blockComment {read : List Char} (hread : IsBlankLine read)
    (rest : List Char) : ∃ line ∈ (read ++ '/' :: '*' :: rest).splitOn '\n',
      ¬IsBlankLine line ∧ ¬IsCommentLine line := by
  have hopening : '\n' ∉ read ++ ['/', '*'] := by simp [hread.not_mem]
  obtain ⟨more, hmore⟩ := exists_append_mem_lines hopening rest
  refine ⟨read ++ '/' :: '*' :: more, by simpa using hmore, fun h => ?_, ?_⟩
  · exact absurd (h '/' (by simp)) (by decide)
  · have hdrop : (read ++ '/' :: '*' :: more).dropWhile (· ∈ blanks) = '/' :: '*' :: more := by
      rw [List.dropWhile_append_of_pos fun c hc => decide_eq_true (hread c hc),
        List.dropWhile_cons_of_neg (by decide)]
    simp [IsCommentLine, hdrop]

/-- A comment on a line of its own is a line comment, and ends with the line. -/
theorem Shape.exists_of_comment {c : Char} {more rest read after : List Char}
    (h : Shape c (more ++ rest) (some .comment) more.length) (hrest : rest ≠ [])
    (hread : IsBlankLine read) (hlines : ∀ line ∈ (read ++ (c :: more ++ after)).splitOn '\n',
      IsBlankLine line ∨ IsCommentLine line) :
    c ∉ blanks ∧ ∃ body, '\n' ∉ c :: body ∧ c :: more = c :: body ++ ['\n'] := by
  generalize htext : more ++ rest = text at h
  generalize hlength : more.length = length at h
  cases h with
  | lineComment h =>
    subst htext
    obtain ⟨body, hbody, rfl⟩ := exists_of_lineLength hlength hrest
    have hc : c ∉ blanks ∧ c ≠ '\n' := by
      rcases h with rfl | ⟨rfl, -⟩ <;> decide
    exact ⟨hc.1, body, by simp [hc.2.symm, hbody], rfl⟩
  | @blockComment body length h =>
    have hbounds := (closeComment_bounds h).1
    obtain ⟨d, more, rfl⟩ : ∃ d tail, more = d :: tail :=
      List.exists_cons_of_length_pos (by omega)
    obtain rfl : d = '*' := (List.cons.inj htext).1
    obtain ⟨line, hline, hblank, hcomment⟩ := exists_line_of_blockComment hread (more ++ after)
    exact absurd (hlines line hline) (not_or.mpr ⟨hblank, hcomment⟩)
  | bracket h => simp [brackets] at h

/-- **Line breaks are blank lines.** Behind blanks that have been read of a line, lexemes are
cut off in step with the lines as long as these are blank lines and lines of comments. -/
theorem Cut.countP_newline {text left : List Char} {lexemes : List Lexeme}
    (hcut : Cut text lexemes left) (hleft : left ≠ []) {read : List Char} (hread : IsBlankLine read)
    (hkinds : ∀ l ∈ lexemes, l.kind ∈ [none, some .newline, some .comment])
    (hlines : ∀ line ∈ (read ++ written lexemes).splitOn '\n',
      IsBlankLine line ∨ IsCommentLine line) :
    lexemes.countP (fun l => l.kind == some .newline) =
      blankLines ((read ++ written lexemes).splitOn '\n').dropLast := by
  induction hcut generalizing read with
  | done left =>
    rw [written_nil, List.append_nil, List.splitOn_eq_singleton hread.not_mem]
    rfl
  | @cons c more rest left kind lexemes hshape hcut ih =>
    obtain ⟨hkind, hkinds⟩ := List.forall_mem_cons.mp hkinds
    have ih {read : List Char} (hread : IsBlankLine read) := ih hleft hread hkinds
    -- a lexeme that ends with its line leaves the next one unread
    have hfeed {piece : List Char} (htext : c :: more = piece ++ ['\n']) (hpiece : '\n' ∉ piece) :
        blankLines ((read ++ (c :: more ++ written lexemes)).splitOn '\n').dropLast =
          lexemes.countP (fun l => l.kind == some .newline) +
            if IsBlankLine (read ++ piece) then 1 else 0 := by
      have hline : '\n' ∉ read ++ piece := by simp [hread.not_mem, hpiece]
      have hsplit : read ++ (c :: more ++ written lexemes) =
          (read ++ piece) ++ '\n' :: written lexemes := by
        rw [htext]
        simp
      rw [written_cons, hsplit, List.splitOn_append_cons_self_of_not_mem hline] at hlines
      have hnil : IsBlankLine [] := by decide
      rw [hsplit, blankLines_line hline,
        ih hnil fun line hmem => hlines line (List.mem_cons_of_mem _ hmem), List.nil_append]
    rw [List.countP_cons]
    simp only [List.mem_cons, List.not_mem_nil, or_false] at hkind
    rcases hkind with rfl | rfl | rfl
    · obtain ⟨hzero, hgap⟩ := hshape.isGapChar_of_none
      obtain rfl := List.length_eq_zero_iff.mp hzero
      have hc : IsBlankLine [c] := by
        rcases hgap with rfl | rfl | ⟨rfl, -⟩ <;> decide
      simpa using ih (hread.append hc) (by simpa using hlines)
    · obtain ⟨blank, hblank, htext⟩ := hshape.exists_of_newline
      rw [written_cons, hfeed htext hblank.not_mem, if_pos (hread.append hblank)]
      rfl
    · have hrest : rest ≠ [] := by simp [hcut.eq_written, hleft]
      obtain ⟨hc, body, hbody, htext⟩ := hshape.exists_of_comment hrest hread hlines
      have hline : ¬IsBlankLine (read ++ c :: body) := fun h => hc (h c (by simp))
      rw [written_cons, hfeed htext hbody, if_neg hline]
      rfl

/-- A closing brace is written as one character. -/
theorem Shape.eq_of_closeBrace {c : Char} {rest : List Char} {extra : Nat}
    (h : Shape c rest (some .closeBrace) extra) : c = '}' ∧ extra = 0 := by
  cases h with
  | bracket h =>
    refine ⟨?_, rfl⟩
    simpa [brackets] using h

end Lexeme

namespace Token

open Lexeme Position

/-- No two tokens of a source are the same. -/
theorem nodup_of_lex {file source : String} {tokens : List Token}
    (h : lex file source = .ok tokens) : tokens.Nodup := by
  obtain ⟨lexemes, hcut, rfl⟩ := lex_eq_ok_iff.mp h
  refine (place_pairwise file [] hcut.text_ne_nil).imp ?_
  rintro s _ ⟨hlt, -⟩ rfl
  exact absurd hlt (lt_irrefl _)

end Token

namespace Spacing

open Lexeme Position Token

/-- The line of the brace is blank behind it, and its line feed is the first of the gap. -/
theorem IsPlainGap.blankLines_eq_two_iff {gap : List Char} (h : IsPlainGap gap) :
    blankLines (gap.splitOn '\n').dropLast = 2 ↔
      blankLines (gap.splitOn '\n').dropLast.tail = 1 := by
  cases hlines : gap.splitOn '\n' with
  | nil => exact absurd hlines (List.splitOn_ne_nil _ _)
  | cons line below =>
    have hline : IsBlankLine line := by simpa [hlines] using h.1
    cases below with
    | nil => simp [blankLines]
    | cons next below => simp [blankLines, hline]

theorem IsPlainGap.forall_lines {gap : List Char} (h : IsPlainGap gap) :
    ∀ line ∈ gap.splitOn '\n', IsBlankLine line ∨ IsCommentLine line := by
  intro line hline
  rw [← List.cons_head_tail (List.splitOn_ne_nil '\n' gap)] at hline
  rcases List.mem_cons.mp hline with rfl | hline
  · exact .inl h.1
  · exact h.2 line hline

/-- In a plain gap the line breaks are the line ends of the blank lines, the line of the brace
included. -/
theorem countP_newline_eq {between : List Token} {lexemes : List Lexeme} {after : List Char}
    (hbetween : ∀ t ∈ between, t.kind = .newline ∨ t.kind = .comment)
    (hkinds : between.map Token.kind = lexemes.filterMap Lexeme.kind)
    (hcut : Cut (written lexemes ++ after) lexemes after) (hafter : after ≠ [])
    (hplain : IsPlainGap (written lexemes)) :
    between.countP (fun t => t.kind == .newline) =
      blankLines ((written lexemes).splitOn '\n').dropLast := by
  have htrivia : ∀ l ∈ lexemes, l.kind ∈ [none, some .newline, some .comment] := by
    intro l hl
    cases hkind : l.kind with
    | none => simp
    | some kind =>
      have hmem : kind ∈ between.map Token.kind := by
        rw [hkinds]
        exact List.mem_filterMap.mpr ⟨l, hl, hkind⟩
      obtain ⟨t, ht, rfl⟩ := List.mem_map.mp hmem
      rcases hbetween t ht with h | h <;> simp [h]
  have hnil : IsBlankLine [] := by decide
  calc between.countP (fun t => t.kind == .newline)
      = (between.map Token.kind).countP (· == .newline) := by
        rw [List.countP_map]
        rfl
    _ = lexemes.countP (fun l => l.kind == some .newline) := by
        rw [hkinds, List.countP_filterMap]
        congr 1
        funext l
        cases l.kind <;> simp
    _ = blankLines ((written lexemes).splitOn '\n').dropLast :=
        hcut.countP_newline hafter hnil htrivia hplain.forall_lines

/-- A closing brace among the tokens of a source, as the source is cut there. -/
theorem exists_cut_brace {file source : String} {front rest : List Token} {brace : Token}
    (hlex : lex file source = .ok (front ++ brace :: rest)) (hbrace : brace.kind = .closeBrace) :
    ∃ passed later after, Cut source.toList passed ('}' :: after) ∧ Cut after later [] ∧
      brace = ofEnds file .closeBrace (behind (written passed)) (behind (written passed ++ ['}'])) ∧
      front = (place file (behind []) passed).dropLast ∧
      rest = place file (behind (written passed ++ ['}'])) later := by
  obtain ⟨all, hcut, hall⟩ := lex_eq_ok_iff.mp hlex
  rcases place_eq_append_cons hall.symm with
    ⟨passed, l, later, kind, rfl, hkind, rfl, -, rfl⟩ | rfl
  · obtain rfl : kind = .closeBrace := hbrace
    obtain ⟨middle, hpassed, hcut'⟩ := hcut.split_append
    cases hcut' with
    | @cons c more after _ _ _ hshape hlater =>
      obtain rfl := hkind
      obtain ⟨rfl, hmore⟩ := hshape.eq_of_closeBrace
      obtain rfl := List.length_eq_zero_iff.mp hmore
      refine ⟨passed, later, after, hpassed, hlater, rfl, ?_, rfl⟩
      rw [place_append, place_cons_some rfl] at hall
      exact List.append_cancel_right hall
  · simp [ofEnds] at hbrace

/-- What stands between a closing brace and a later token, in the text and as it is cut. -/
theorem exists_cut_between {file source : String} {front between rest : List Token}
    {brace next : Token}
    (hlex : lex file source = .ok (front ++ brace :: (between ++ next :: rest)))
    (hbrace : brace.kind = .closeBrace) (hnext : next.kind ≠ .endOfFile) :
    ∃ before lexemes after, source.toList = before ++ written lexemes ++ after ∧
      brace.span.start.line = (behind before).line ∧ brace.bytes.stop = byteLength before ∧
      next.span.start = behind (before ++ written lexemes) ∧
      next.bytes.start = byteLength (before ++ written lexemes) ∧
      between.map Token.kind = lexemes.filterMap Lexeme.kind ∧
      Cut (written lexemes ++ after) lexemes after ∧ after ≠ [] := by
  obtain ⟨passed, later, below, hpassed, hlater, rfl, -, hrest⟩ := exists_cut_brace hlex hbrace
  rcases place_eq_append_cons hrest.symm with
    ⟨lexemes, l, last, kind, rfl, hkind, rfl, hmap, -⟩ | rfl
  · obtain ⟨after, hgap, hlast⟩ := hlater.split_append
    have hafter : after ≠ [] := by
      rintro rfl
      cases hlast
    obtain rfl := hgap.eq_written
    refine ⟨written passed ++ ['}'], lexemes, after, by simpa using hpassed.eq_written, ?_,
      rfl, rfl, rfl, hmap, hgap, hafter⟩
    simp [ofEnds, behind]
  · exact absurd rfl hnext

/-- **One blank line between blocks.** Behind the brace that closes a top-level block, and a gap
of blanks and comments on lines of their own, a token is reported if and only if the blank lines
between the line of the brace and its own are not one. -/
theorem mem_violations_iff_blankLines {file source : String} {front between rest : List Token}
    {brace next : Token} {gap : List Char}
    (hlex : lex file source = .ok (front ++ brace :: (between ++ next :: rest)))
    (hbrace : brace.kind = .closeBrace) (hdepth : depth front = 1)
    (hbetween : ∀ t ∈ between, t.kind = .newline ∨ t.kind = .comment) (hnext : IsContent next)
    (hgap : sliceBytes? source.toList brace.bytes.stop next.bytes.start = some gap)
    (hplain : IsPlainGap gap) :
    next ∈ violations (front ++ brace :: (between ++ next :: rest)) ↔
      blankLines (linesBetween source.toList brace.span.start.line next.span.start.line) ≠ 1 := by
  have hend : next.kind ≠ .endOfFile := fun h => hnext (by simp [h])
  obtain ⟨before, lexemes, after, hsource, hupper, hstop, hlower, hstart, hkinds, hcut, hafter⟩ :=
    exists_cut_between hlex hbrace hend
  obtain rfl : gap = written lexemes := by
    rw [hstop, hstart, sliceBytes?_of_eq (hsource.trans (List.append_assoc _ _ _))] at hgap
    exact (Option.some.inj hgap).symm
  rw [mem_violations_iff_countP (nodup_of_lex hlex) hbrace hdepth hbetween hnext,
    countP_newline_eq hbetween hkinds hcut hafter hplain, hupper, hlower, hsource, linesBetween_eq]
  exact not_congr hplain.blankLines_eq_two_iff

/-- A blank line with a tab and a carriage return on it, and a comment below. -/
theorem mem_violations_iff_blankLines_comment : ∃ front brace between next rest,
    lex "m" "a \x7b\x7d\r\n \t\r\n// x\nb \x7b\x7d" =
        .ok (front ++ brace :: (between ++ next :: rest)) ∧
      brace.span.start.line = 1 ∧ next.span.start.line = 4 ∧
      next ∉ violations (front ++ brace :: (between ++ next :: rest)) := by
  have hlex : lex "m" "a \x7b\x7d\r\n \t\r\n// x\nb \x7b\x7d" = .ok
      ([⟨.identifier, ⟨0, 1⟩, ⟨"m", ⟨1, 1, 0⟩, ⟨1, 2, 1⟩⟩⟩,
          ⟨.openBrace, ⟨2, 3⟩, ⟨"m", ⟨1, 3, 2⟩, ⟨1, 4, 3⟩⟩⟩] ++
        ⟨.closeBrace, ⟨3, 4⟩, ⟨"m", ⟨1, 4, 3⟩, ⟨1, 5, 4⟩⟩⟩ ::
          ([⟨.newline, ⟨4, 6⟩, ⟨"m", ⟨1, 5, 4⟩, ⟨2, 1, 6⟩⟩⟩,
              ⟨.newline, ⟨8, 10⟩, ⟨"m", ⟨2, 3, 8⟩, ⟨3, 1, 10⟩⟩⟩,
              ⟨.comment, ⟨10, 15⟩, ⟨"m", ⟨3, 1, 10⟩, ⟨4, 1, 15⟩⟩⟩] ++
            ⟨.identifier, ⟨15, 16⟩, ⟨"m", ⟨4, 1, 15⟩, ⟨4, 2, 16⟩⟩⟩ ::
              [⟨.openBrace, ⟨17, 18⟩, ⟨"m", ⟨4, 3, 17⟩, ⟨4, 4, 18⟩⟩⟩,
                ⟨.closeBrace, ⟨18, 19⟩, ⟨"m", ⟨4, 4, 18⟩, ⟨4, 5, 19⟩⟩⟩,
                ⟨.endOfFile, ⟨19, 19⟩, ⟨"m", ⟨4, 5, 19⟩, ⟨4, 5, 19⟩⟩⟩])) := by
    decide +kernel
  refine ⟨_, _, _, _, _, hlex, rfl, rfl, ?_⟩
  rw [mem_violations_iff_blankLines hlex rfl rfl (by decide) (by simp [IsContent])
    (show _ = some "\r\n \t\r\n// x\n".toList by decide +kernel) (by decide +kernel)]
  decide +kernel

end Spacing

end TerraLint
