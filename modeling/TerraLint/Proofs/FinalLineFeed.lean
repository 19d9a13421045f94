import TerraLint.Proofs.BlankLines
import TerraLint.Proofs.Findings
import TerraLint.Proofs.Following

/-!
# The final line feed

A file that does not end with a line feed is reported for that, and the remedy is to put one
at its end. This file shows that the remedy does what it should and nothing else: the rule on
the layout of files then reports all that it reported before, except the missing line feed
(`TerraLint.FileContent.run_append_lineFeed`).

The line feed can change the last lexeme of the file, in three ways
(`TerraLint.Lexeme.EndsLineWith`): it stands behind it as a line break of its own, it ends a
line comment, or it makes a line break out of a lone carriage return. In none of them does a
token of content change, and the scan for gaps reports only these.
-/

namespace TerraLint

open Lexeme Position

namespace Lexeme

/-- What becomes of the last lexeme of a text when a line feed is put behind it. -/
inductive EndsLineWith : Lexeme → List Lexeme → Prop
  | lineFeed (l : Lexeme) : EndsLineWith l [l, ⟨some .newline, ['\n']⟩]
  | carriageReturn : EndsLineWith ⟨none, ['\r']⟩ [⟨some .newline, ['\r', '\n']⟩]
  | comment (text : List Char) :
      EndsLineWith ⟨some .comment, text⟩ [⟨some .comment, text ++ ['\n']⟩]

/-- A line feed behind a text that is a single lexeme. -/
theorem Shape.exists_endsLineWith {c : Char} {text : List Char} {kind : Option Kind}
    (h : Shape c text kind text.length) :
    ∃ last, EndsLineWith ⟨kind, c :: text⟩ last ∧ Cut (c :: (text ++ ['\n'])) last [] := by
  by_cases hreturn : c :: text = ['\r']
  · obtain ⟨rfl, rfl⟩ := List.cons.inj hreturn
    obtain rfl : kind = none := by simpa [first] using h.first_eq.symm
    exact ⟨_, .carriageReturn, @Cut.cons '\r' ['\n'] [] _ _ _ (.lineEnd rfl) (.done [])⟩
  by_cases hcomment : kind = some .comment ∧ IsLineComment (c :: text) ∧
      (c :: text).getLast? ≠ some '\n'
  · obtain ⟨rfl, hline, hlast⟩ := hcomment
    have hfeed := h.not_mem_of_lineComment hline hlast
    exact ⟨_, .comment _, hline.cut hfeed []⟩
  · -- any other lexeme is sealed by the line feed
    have hsealed : IsSealed kind (c :: text) '\n' := by
      refine ⟨fun htext => absurd htext hreturn, by simp, fun hkind hline => ?_, fun _ => rfl⟩
      by_contra hlast
      exact hcomment ⟨hkind, hline, hlast⟩
    have hshape := h.append_cons (by decide) (fun _ => hsealed) []
    exact ⟨_, .lineFeed _, .cons hshape (.single .lineFeed (.done []))⟩

/-- **A line feed at the end of a text** changes the last lexeme, and no other. -/
theorem Cut.append_lineFeed {text left : List Char} {lexemes : List Lexeme}
    (h : Cut text lexemes left) (hleft : left = []) (hne : text ≠ []) :
    ∃ front l last, lexemes = front ++ [l] ∧ EndsLineWith l last ∧
      Cut (text ++ ['\n']) (front ++ last) [] := by
  induction h with
  | done => exact absurd hleft hne
  | @cons c more rest left kind lexemes hshape hcut ih =>
    subst hleft
    by_cases hrest : rest = []
    · subst hrest
      cases hcut
      rw [List.append_nil] at hshape ⊢
      obtain ⟨last, hends, hlast⟩ := hshape.exists_endsLineWith
      exact ⟨[], _, last, rfl, hends, hlast⟩
    · obtain ⟨front, l, last, rfl, hends, hlast⟩ := ih rfl hrest
      refine ⟨⟨kind, c :: more⟩ :: front, l, last, rfl, hends, ?_⟩
      have hshape' := hshape.append_cons (s := '\n') (by decide)
        (fun hlength => absurd (by simpa using hlength) hrest) []
      rw [List.append_assoc] at hshape'
      rw [List.cons_append, List.append_assoc]
      exact .cons hshape' hlast

end Lexeme

namespace Token

open Spacing

/-- A line feed behind the last lexeme changes no token of content. -/
theorem exists_place_eq {l : Lexeme} {last : List Lexeme} (h : EndsLineWith l last) (file : String)
    (before : List Char) :
    ∃ content trivia trivia', place file (behind before) [l] = content ++ trivia ∧
      place file (behind before) last = content ++ trivia' ∧
      ∀ t ∈ trivia ++ trivia', ¬IsContent t := by
  have hend (p : Position) : ¬IsContent (ofEnds file .endOfFile p p) := by simp [IsContent, ofEnds]
  have hnewline (p q : Position) : ¬IsContent (ofEnds file .newline p q) := by
    simp [IsContent, ofEnds]
  have hcomment (p q : Position) : ¬IsContent (ofEnds file .comment p q) := by
    simp [IsContent, ofEnds]
  cases h with
  | lineFeed =>
    cases hkind : l.kind with
    | none =>
      rw [place_cons_none hkind, place_cons_none hkind, place_cons_some rfl]
      exact ⟨[], _, _, rfl, rfl, by simp [place, hend, hnewline]⟩
    | some kind =>
      rw [place_cons_some hkind, place_cons_some hkind, place_cons_some rfl]
      exact ⟨[_], _, _, rfl, rfl, by simp [place, hend, hnewline]⟩
  | carriageReturn =>
    refine ⟨[], _, _, rfl, rfl, ?_⟩
    simp [place, hend, hnewline]
  | comment =>
    refine ⟨[], _, _, rfl, rfl, ?_⟩
    simp [place, hend, hcomment]

/-- **A final line feed changes nothing in the scan for gaps.** -/
theorem exists_lex_append_lineFeed {file source : String} {tokens : List Token}
    (h : lex file source = .ok tokens) (hne : source.toList ≠ []) :
    ∃ tokens', lex file (source ++ "\n") = .ok tokens' ∧ violations tokens' = violations tokens := by
  obtain ⟨lexemes, hcut, rfl⟩ := lex_eq_ok_iff.mp h
  obtain ⟨front, l, last, rfl, hends, hcut'⟩ := hcut.append_lineFeed rfl hne
  obtain ⟨content, trivia, trivia', hl, hlast, htrivia⟩ := exists_place_eq hends file (written front)
  obtain ⟨hold, hnew⟩ := List.forall_mem_append.mp htrivia
  refine ⟨_, lex_eq_ok_iff.mpr ⟨front ++ last, by simpa using hcut', rfl⟩, ?_⟩
  rw [place_append, place_append, List.nil_append, hl, hlast, ← List.append_assoc,
    ← List.append_assoc, violations_append_eq _ hold, violations_append_eq _ hnew]

end Token

/-! ### The rule on the layout of files -/

namespace FileContent

/-- What the rule reports on a file by itself. -/
theorem run_single {name content : String} {tokens : List Token}
    (hname : name.endsWith ".json" = false) (hlex : Token.lex name content = .ok tokens)
    (path : List String) :
    rule.run none (.ofFiles path [(name, content)]) =
      ((firstLine ⟨name, content⟩ ++ lastLine ⟨name, content⟩ ++
        (Spacing.violations tokens).map fun t => Finding.mk spacingMessage t.span).map info.issue,
        none) := by
  have hjson : (⟨name, content⟩ : SourceFile).isJson = false := hname
  have htokens : Project.tokensOf ⟨name, content⟩ = .ok tokens := Project.tokensOf_of_lex hlex
  rw [finds.run_single path ⟨name, content⟩]
  simp [searchFile, blocks, hjson, htokens, Findings.ofExcept, Findings.andThen, rule]

/-- A line feed at the end leaves the first line as it is, unless the file is one blank line. -/
theorem firstLine_append_lineFeed {name content : String}
    (h : '\n' ∈ content.toList ∨ ∃ c ∈ content.toList, Text.isBlank c = false) :
    firstLine ⟨name, content ++ "\n"⟩ = firstLine ⟨name, content⟩ := by
  have htext : (content ++ "\n").toList = content.toList ++ '\n' :: [] := by simp
  have hline : (content.toList ++ '\n' :: []).takeWhile (· != '\n') =
      content.toList.takeWhile (· != '\n') := takeWhile_append_cons (by decide) _ _
  simp only [firstLine, htext, hline]
  by_cases hfeed : '\n' ∈ content.toList
  · simp [hfeed]
  · -- the file is its first line, which is not blank
    obtain ⟨c, hc, hblank⟩ := h.resolve_left hfeed
    have hwhole : content.toList.takeWhile (· != '\n') = content.toList := by
      refine List.takeWhile_eq_self_iff.mpr fun d hd => ?_
      simp only [bne_iff_ne, ne_eq]
      rintro rfl
      exact hfeed hd
    have hall : content.toList.all Text.isBlank = false := by
      rw [List.all_eq_false]
      exact ⟨c, hc, by simp [hblank]⟩
    simp [hwhole, hall]

/-- What else is reported is not that the line feed is missing. -/
theorem message_ne {file : SourceFile} {finding : Finding} (h : finding ∈ firstLine file) :
    finding.message ≠ lastLineMessage := by
  simp only [firstLine] at h
  split at h
  · obtain rfl := List.mem_singleton.mp h
    intro hmessage
    have hfirst := congrArg (fun message => message.toList.head?) hmessage
    simp [lastLineMessage] at hfirst
  · simp at h

/-- **The missing line feed, put at the end of a file**, takes the one issue that reports it out of
the report, and leaves the others as they are: at the same places and in the same order. -/
theorem run_append_lineFeed {name content : String} (path : List String)
    (hname : name.endsWith ".json" = false) {tokens : List Token}
    (hlex : Token.lex name content = .ok tokens) (hne : content ≠ "")
    (hlast : content.toList.getLast? ≠ some '\n')
    (hcontent : '\n' ∈ content.toList ∨ ∃ c ∈ content.toList, Text.isBlank c = false) :
    ∃ above below,
      rule.run none (.ofFiles path [(name, content)]) =
        (above ++ info.issue ⟨lastLineMessage, .point name (lastLineStart content.toList)⟩ :: below,
          none) ∧
      rule.run none (.ofFiles path [(name, content ++ "\n")]) = (above ++ below, none) ∧
      ∀ issue ∈ above ++ below, issue.message ≠ lastLineMessage := by
  have htext : content.toList ≠ [] := by simpa using hne
  obtain ⟨tokens', hlex', hviolations⟩ := Token.exists_lex_append_lineFeed hlex htext
  have hmissing : lastLine ⟨name, content⟩ =
      [⟨lastLineMessage, .point name (lastLineStart content.toList)⟩] := by
    simp [lastLine, htext, hlast]
  have hended : lastLine ⟨name, content ++ "\n"⟩ = [] := by simp [lastLine]
  refine ⟨(firstLine ⟨name, content⟩).map info.issue,
    ((Spacing.violations tokens).map fun t => Finding.mk spacingMessage t.span).map info.issue,
    ?_, ?_, ?_⟩
  · rw [run_single hname hlex, hmissing]
    simp
  · rw [run_single hname hlex', firstLine_append_lineFeed hcontent, hended, hviolations]
    simp
  · intro issue hissue
    rcases List.mem_append.mp hissue with hissue | hissue
    · obtain ⟨finding, hfinding, rfl⟩ := List.mem_map.mp hissue
      exact message_ne hfinding
    · obtain ⟨finding, hfinding, rfl⟩ := List.mem_map.mp hissue
      obtain ⟨t, -, rfl⟩ := List.mem_map.mp hfinding
      exact (by decide : spacingMessage ≠ lastLineMessage)

/-- A file with a blank first line, two blocks on one line and a comment at its end has three
issues, and two with a line feed behind the comment. -/
theorem run_append_lineFeed_comment :
    (rule.run none (.ofFiles [] [("m.tf", "\na\x7b\x7db\x7b\x7d#é")])).1.length = 3 ∧
      (rule.run none (.ofFiles [] [("m.tf", "\na\x7b\x7db\x7b\x7d#é" ++ "\n")])).1.length = 2 := by
  have hlex : Token.lex "m.tf" "\na\x7b\x7db\x7b\x7d#é" = .ok
      [⟨.newline, ⟨0, 1⟩, ⟨"m.tf", ⟨1, 1, 0⟩, ⟨2, 1, 1⟩⟩⟩,
        ⟨.identifier, ⟨1, 2⟩, ⟨"m.tf", ⟨2, 1, 1⟩, ⟨2, 2, 2⟩⟩⟩,
        ⟨.openBrace, ⟨2, 3⟩, ⟨"m.tf", ⟨2, 2, 2⟩, ⟨2, 3, 3⟩⟩⟩,
        ⟨.closeBrace, ⟨3, 4⟩, ⟨"m.tf", ⟨2, 3, 3⟩, ⟨2, 4, 4⟩⟩⟩,
        ⟨.identifier, ⟨4, 5⟩, ⟨"m.tf", ⟨2, 4, 4⟩, ⟨2, 5, 5⟩⟩⟩,
        ⟨.openBrace, ⟨5, 6⟩, ⟨"m.tf", ⟨2, 5, 5⟩, ⟨2, 6, 6⟩⟩⟩,
        ⟨.closeBrace, ⟨6, 7⟩, ⟨"m.tf", ⟨2, 6, 6⟩, ⟨2, 7, 7⟩⟩⟩,
        ⟨.comment, ⟨7, 10⟩, ⟨"m.tf", ⟨2, 7, 7⟩, ⟨2, 9, 10⟩⟩⟩,
        ⟨.endOfFile, ⟨10, 10⟩, ⟨"m.tf", ⟨2, 9, 10⟩, ⟨2, 9, 10⟩⟩⟩] := by
    decide +kernel
  have hname : "m.tf".endsWith ".json" = false := by decide +kernel
  have hthree : (rule.run none (.ofFiles [] [("m.tf", "\na\x7b\x7db\x7b\x7d#é")])).1.length = 3 := by
    rw [run_single hname hlex]
    decide +kernel
  obtain ⟨above, below, hrun, hrun', -⟩ := run_append_lineFeed [] hname hlex
    (by decide) (by decide +kernel) (.inl (by decide))
  refine ⟨hthree, ?_⟩
  rw [hrun, List.length_append, List.length_cons] at hthree
  rw [hrun', List.length_append]
  omega

end FileContent

end TerraLint
