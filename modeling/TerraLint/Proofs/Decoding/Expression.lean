import TerraLint.Proofs.Decoding.Trivia

/-!
# Expressions in lockstep

Every parser of expressions shows the templates that the expression it gives
remembers (`TerraLint.Document.Inner.Sound`, one statement for all levels of
nesting). The proofs follow the parsers step by step. A template is passed over as
a whole: of what is read inside it, only that it goes forward is needed.

Two operators need care, because the first character of something longer may stand
right behind them. A slash is an operator only where no comment opens. And an angle
bracket is one only where the operand behind it begins with something else, or is
a heredoc; then the scanner sees three angle brackets, and the first of them opens
nothing.
-/

namespace TerraLint.Document

open TerraLint.Parser Lexeme Input

/-! ### The templates of an expression -/

/-- The outermost templates of an expression, as spots. -/
def Expr.spots (e : Expr) : List Spot := e.templates.map .template

@[simp] theorem Expr.spots_leaf (s : Symbol) : (Expr.leaf s).spots = [] := rfl

@[simp] theorem Expr.spots_mark (text : String) : (Expr.mark text).spots = [] := rfl

@[simp] theorem Expr.spots_join (parts : List Expr) :
    (Expr.join parts).spots = parts.flatMap spots :=
  List.map_flatMap

@[simp] theorem Expr.spots_template (span : ByteSpan) (parts : List Expr) :
    (Expr.template span parts).spots = [.template span] := rfl

/-- The templates of an expression in the making. -/
def Chain.spots (chain : Chain) : List Spot := chain.templates.map .template

@[simp] theorem Chain.spots_extend (chain : Chain) (part : Expr) :
    (chain.extend part).spots = chain.spots ++ part.spots := by
  simp [Chain.spots, Chain.extend, Expr.spots]

@[simp] theorem Chain.spots_operate (chain : Chain) (operator : String) (operand : Expr) :
    (chain.operate operator operand).spots = chain.spots ++ operand.spots := by
  simp [Chain.spots, Chain.operate, Expr.spots]

/-- **The parsers of a level show the templates of what they read.** -/
structure Inner.Sound (inner : Inner) : Prop where
  expr : ∀ {source pre} (lineEnds : Bool),
    Marks (Shows source) pre (inner.expr lineEnds) fun e => pre ++ e.spots
  term : ∀ {source pre} (lineEnds : Bool),
    Marks (Shows source) pre (inner.term lineEnds) fun e => pre ++ e.spots

variable {source : List Char} {pre : List Spot} {inner : Inner}

/-! ### Loops -/

theorem marks_loopVariables :
    Marks (Shows source) pre loopVariables fun e => pre ++ e.spots := by
  refine marks_name.bind fun _ => ?_
  refine marks_freeTrivia.bind fun _ => ?_
  refine (marks_option (by decide)).bind fun comma => ?_
  split
  · refine marks_freeTrivia.bind fun _ => ?_
    refine marks_name.bind fun _ => ?_
    exact marks_freeTrivia.bind fun _ => marks_pure (by simp)
  · exact marks_pure (by simp)

theorem marks_loopHead (hinner : inner.Sound) :
    Marks (Shows source) pre (loopHead inner) fun e => pre ++ e.spots := by
  refine marks_freeTrivia.bind fun _ => ?_
  refine marks_loopVariables.bind fun names => ?_
  refine (marks_word (by decide)).bind fun _ => ?_
  refine marks_freeTrivia.bind fun _ => ?_
  exact (hinner.expr false).bind fun collection => marks_pure (by simp)

/-! ### Templates -/

theorem moves_openSequence {sign : String} : Marks Moves [] (openSequence sign) fun _ => [] := by
  refine moves_word.bind fun _ => ?_
  exact moves_option.bind fun _ => marks_pure rfl

theorem moves_closeSequence : Marks Moves [] closeSequence fun _ => [] := by
  refine marks_freeTrivia.moves.bind fun _ => ?_
  refine moves_option.bind fun _ => ?_
  exact moves_char.bind fun _ => marks_pure rfl

theorem moves_interpolation (hinner : inner.Sound) :
    Marks Moves [] (interpolation inner) fun _ => [] := by
  refine moves_openSequence.bind fun _ => ?_
  refine marks_freeTrivia.moves.bind fun _ => ?_
  refine (hinner.expr true).moves.bind fun _ => ?_
  exact moves_closeSequence.bind fun _ => marks_pure rfl

theorem moves_directiveBody (hinner : inner.Sound) {outer : List OpenDirective} :
    Marks Moves [] (directiveBody inner outer) fun _ => [] := by
  refine moves_option.bind fun _ => ?_
  split
  · refine marks_freeTrivia.moves.bind fun _ => ?_
    exact (hinner.expr false).moves.bind fun _ => marks_pure rfl
  refine moves_option.bind fun _ => ?_
  split
  · exact (marks_loopHead hinner).moves.bind fun _ => marks_pure rfl
  refine moves_option.bind fun _ => ?_
  split
  · split
    · exact marks_pure rfl
    · exact marks_fail
  refine moves_option.bind fun _ => ?_
  split
  · split
    · exact marks_pure rfl
    · exact marks_fail
  refine moves_option.bind fun _ => ?_
  split
  · split
    · exact marks_pure rfl
    · exact marks_fail
  · exact marks_fail

theorem moves_directive (hinner : inner.Sound) {outer : List OpenDirective} :
    Marks Moves [] (directive inner outer) fun _ => [] := by
  refine moves_openSequence.bind fun _ => ?_
  refine marks_freeTrivia.moves.bind fun _ => ?_
  refine (moves_directiveBody hinner).bind fun _ => ?_
  exact moves_closeSequence.bind fun _ => marks_pure rfl

theorem moves_sequencePiece (hinner : inner.Sound) {s : TemplateState} :
    Marks Moves [] (sequencePiece inner s) fun _ => [] := by
  refine marks_startsWith.bind fun _ => ?_
  split
  · exact (moves_interpolation hinner).bind fun _ => marks_pure rfl
  · exact (moves_directive hinner).bind fun _ => marks_pure rfl

theorem moves_finish {s : TemplateState} : Marks Moves [] s.finish fun _ => [] :=
  marks_require.bind fun _ => marks_pure rfl

theorem moves_quotedBody (hinner : inner.Sound) :
    Marks Moves [] (quotedBody inner) fun _ => [] := by
  refine Marks.loop (fun _ => []) (fun s => ?_) rfl
  refine moves_plainPiece.bind fun piece => ?_
  cases piece with
  | some text => exact marks_pure rfl
  | none =>
    refine moves_option.bind fun closed => ?_
    split
    · exact moves_finish.bind fun _ => marks_pure rfl
    · exact (moves_sequencePiece hinner).bind fun _ => marks_pure rfl

theorem moves_heredocBody (hinner : inner.Sound) {marker : List Char} :
    Marks Moves [] (heredocBody inner marker) fun _ => [] := by
  refine Marks.loop (fun _ => []) (fun s => ?_) rfl
  refine marks_rest.bind fun text => ?_
  split
  · refine moves_skip.bind fun _ => ?_
    exact moves_finish.bind fun _ => marks_pure rfl
  · refine moves_plainPiece.bind fun piece => ?_
    cases piece with
    | some text => exact marks_pure rfl
    | none => exact (moves_sequencePiece hinner).bind fun _ => marks_pure rfl

/-- **A quoted template is shown as a whole.** -/
theorem marks_quotedTemplate (hinner : inner.Sound) :
    Marks (Shows source) pre (quotedTemplate inner) fun e => pre ++ e.spots := by
  intro i e j hrun
  obtain ⟨start, _, hstart, hrun⟩ := bind_eq_some.mp hrun
  obtain ⟨rfl, rfl⟩ := position_eq_some.mp hstart
  obtain ⟨_, k, hquote, hrun⟩ := bind_eq_some.mp hrun
  obtain ⟨_, l, hbody, hrun⟩ := bind_eq_some.mp hrun
  obtain ⟨stop, _, hstop, hrun⟩ := bind_eq_some.mp hrun
  obtain ⟨rfl, rfl⟩ := position_eq_some.mp hstop
  obtain ⟨rfl, rfl⟩ := pure_eq_some.mp hrun
  have hadvances : i.Advances l :=
    Advances.trans ⟨_, char_reads hquote⟩ ((moves_quotedBody hinner).run hbody)
  exact ⟨_, rfl, shows_template hadvances⟩

/-- **A heredoc is shown as a whole.** -/
theorem marks_heredoc (hinner : inner.Sound) :
    Marks (Shows source) pre (heredoc inner) fun e => pre ++ e.spots := by
  intro i e j hrun
  obtain ⟨start, _, hstart, hrun⟩ := bind_eq_some.mp hrun
  obtain ⟨rfl, rfl⟩ := position_eq_some.mp hstart
  obtain ⟨_, k, hword, hrun⟩ := bind_eq_some.mp hrun
  obtain ⟨_, l, hindented, hrun⟩ := bind_eq_some.mp hrun
  obtain ⟨marker, m, hmarker, hrun⟩ := bind_eq_some.mp hrun
  obtain ⟨_, n, hline, hrun⟩ := bind_eq_some.mp hrun
  obtain ⟨_, o, hbody, hrun⟩ := bind_eq_some.mp hrun
  obtain ⟨stop, _, hstop, hrun⟩ := bind_eq_some.mp hrun
  obtain ⟨rfl, rfl⟩ := position_eq_some.mp hstop
  obtain ⟨rfl, rfl⟩ := pure_eq_some.mp hrun
  have hadvances : i.Advances o :=
    calc i.Advances k := ⟨_, word_reads hword⟩
      k.Advances l := moves_option.run hindented
      l.Advances m := marks_name.moves.run hmarker
      m.Advances n := marks_lineEnd.moves.run hline
      n.Advances o := (moves_heredocBody hinner).run hbody
  exact ⟨_, rfl, shows_template hadvances⟩

/-! ### Terms -/

theorem marks_loopFilter (hinner : inner.Sound) {lineEnds : Bool} :
    Marks (Shows source) pre (loopFilter inner lineEnds) fun e => pre ++ e.spots := by
  refine (marks_option (by decide)).bind fun found => ?_
  split
  · refine marks_freeTrivia.bind fun _ => ?_
    refine (hinner.expr lineEnds).bind fun condition => ?_
    exact marks_freeTrivia.bind fun _ => marks_pure (by simp)
  · exact marks_pure (by simp)

theorem marks_listComprehension (hinner : inner.Sound) :
    Marks (Shows source) pre (listComprehension inner) fun e => pre ++ e.spots := by
  refine (marks_word (by decide)).bind fun _ => ?_
  refine (marks_loopHead hinner).bind fun head => ?_
  refine marks_freeTrivia.bind fun _ => ?_
  refine (marks_char (by decide)).bind fun _ => ?_
  refine marks_freeTrivia.bind fun _ => ?_
  refine (hinner.expr true).bind fun value => ?_
  refine marks_freeTrivia.bind fun _ => ?_
  refine (marks_loopFilter hinner).bind fun filter => ?_
  exact (marks_char (by decide)).bind fun _ => marks_pure (by simp)

theorem marks_objectComprehension (hinner : inner.Sound) :
    Marks (Shows source) pre (objectComprehension inner) fun e => pre ++ e.spots := by
  refine (marks_word (by decide)).bind fun _ => ?_
  refine (marks_loopHead hinner).bind fun head => ?_
  refine marks_freeTrivia.bind fun _ => ?_
  refine (marks_char (by decide)).bind fun _ => ?_
  refine marks_freeTrivia.bind fun _ => ?_
  refine (hinner.expr false).bind fun key => ?_
  refine marks_freeTrivia.bind fun _ => ?_
  refine (marks_word (by decide)).bind fun _ => ?_
  refine marks_freeTrivia.bind fun _ => ?_
  refine (hinner.expr false).bind fun value => ?_
  refine marks_freeTrivia.bind fun _ => ?_
  refine (marks_option (by decide)).bind fun grouped => ?_
  refine marks_freeTrivia.bind fun _ => ?_
  refine (marks_loopFilter hinner).bind fun filter => ?_
  exact (marks_char (by decide)).bind fun _ => marks_pure (by simp)

theorem marks_expansion {allowed : Bool} :
    Marks (Shows source) pre (expansion allowed) fun _ => pre := by
  cases allowed
  · exact marks_pure rfl
  · exact marks_option (by decide)

/-- The closing bracket that is next may be passed over. -/
theorem marksAt_skip_head {i : Input} {c : Char} (hc : Plain c)
    (h : (i.text.head? == some c) = true) :
    MarksAt (Shows source) pre (skip 1) (fun _ => pre) i := by
  obtain ⟨back, htext⟩ := List.head?_eq_some_iff.mp (beq_iff_eq.mp h)
  exact marksAt_skip_one htext hc

theorem marks_sequence (hinner : inner.Sound) {close : Char} (hclose : Plain close)
    {ellipsis : Bool} :
    Marks (Shows source) pre (sequence inner close ellipsis) fun e => pre ++ e.spots := by
  refine Marks.loop (fun items => pre ++ items.reverse.flatMap Expr.spots) (fun items => ?_)
    (by simp)
  refine marks_freeTrivia.bind fun _ => fun i => MarksAt.peek ?_
  split
  · exact (marksAt_skip_head hclose ‹_›).andThen fun _ => marks_pure (by simp)
  · refine (hinner.expr true i).andThen fun item => ?_
    refine marks_freeTrivia.bind fun _ => ?_
    refine (marks_option (by decide)).bind fun comma => ?_
    split
    · exact marks_pure (by simp)
    · refine marks_expansion.bind fun expanded => ?_
      refine marks_freeTrivia.bind fun _ => ?_
      refine (marks_char hclose).bind fun _ => ?_
      cases expanded
      · exact marks_pure (by simp)
      · exact marks_pure (by simp)

theorem marks_list (hinner : inner.Sound) :
    Marks (Shows source) pre (list inner) fun e => pre ++ e.spots := by
  refine (marks_char (by decide)).bind fun _ => ?_
  refine marks_freeTrivia.bind fun _ => ?_
  refine marks_rest.bind fun text => ?_
  split
  · exact marks_listComprehension hinner
  · exact (marks_sequence hinner (by decide)).bind fun items => marks_pure (by simp)

theorem marks_assignment : Marks (Shows source) pre assignment fun _ => pre := by
  refine (marks_option (by decide)).bind fun assigned => ?_
  split
  · exact marks_char (by decide)
  · exact marks_pure rfl

theorem marks_objectItems (hinner : inner.Sound) :
    Marks (Shows source) pre (objectItems inner) fun e => pre ++ e.spots := by
  refine Marks.loop
    (fun (items : List (Expr × Expr)) =>
      pre ++ items.reverse.flatMap fun item => item.1.spots ++ item.2.spots)
    (fun items => ?_) (by simp)
  refine (marks_option (by decide)).bind fun closed => ?_
  split
  · exact marks_pure (by simp [List.flatMap_assoc])
  · refine (hinner.expr false).bind fun key => ?_
    refine marks_require.bind fun _ => ?_
    refine marks_inlineTrivia.bind fun _ => ?_
    refine marks_assignment.bind fun _ => ?_
    refine marks_inlineTrivia.bind fun _ => ?_
    refine (hinner.expr false).bind fun value => ?_
    refine marks_inlineTrivia.bind fun _ => fun i => MarksAt.peek ?_
    split
    · exact marks_pure (by simp) i
    · refine (marksAt_skip_head (c := ',') (by decide) (by simp [*])).andThen fun _ => ?_
      exact marks_freeTrivia.bind fun _ => marks_pure (by simp)
    · refine (marks_optionalLineComment i).andThen fun _ => ?_
      refine marks_lineEnd.bind fun _ => ?_
      exact marks_freeTrivia.bind fun _ => marks_pure (by simp)

theorem marks_object (hinner : inner.Sound) :
    Marks (Shows source) pre (object inner) fun r => pre ++ r.1.spots := by
  refine (marks_char (by decide)).bind fun _ => ?_
  refine marks_freeTrivia.bind fun _ => ?_
  refine marks_rest.bind fun text => ?_
  split
  · exact (marks_objectComprehension hinner).bind fun _ => marks_pure rfl
  · exact (marks_objectItems hinner).bind fun _ => marks_pure (by simp)

theorem marks_nameParts {lineEnds : Bool} :
    Marks (Shows source) pre (nameParts lineEnds) fun _ => pre := by
  refine Marks.loop (fun _ => pre) (fun parts => ?_) rfl
  refine (marks_trivia lineEnds).bind fun _ => ?_
  refine (marks_option (by decide)).bind fun found => ?_
  split
  · refine (marks_trivia lineEnds).bind fun _ => ?_
    exact marks_name.bind fun _ => marks_pure rfl
  · exact marks_pure rfl

theorem marks_call? (hinner : inner.Sound) {lineEnds : Bool} {first : String} :
    Marks (Shows source) pre (call? inner lineEnds first)
      fun call => pre ++ call.elim [] Expr.spots := by
  refine Marks.attempt ?_ (by simp)
  refine marks_nameParts.bind fun parts => ?_
  -- the parts of the function's name hold no template
  have hparts : (parts.flatMap fun part => [Expr.mark "::", .leaf (.name part)]).flatMap
      Expr.spots = [] := by
    induction parts with
    | nil => rfl
    | cons part parts ih => simpa using ih
  refine (marks_option (by decide)).bind fun opened => ?_
  split
  · exact (marks_sequence hinner (by decide)).bind fun _ => marks_pure (by simp [hparts])
  · exact marks_require.bind fun _ => marks_pure (by simp)

theorem marks_variableOrCall (hinner : inner.Sound) {lineEnds : Bool} :
    Marks (Shows source) pre (variableOrCall inner lineEnds) fun r => pre ++ r.1.spots := by
  refine marks_name.bind fun first => ?_
  refine (marks_call? hinner).bind fun call => ?_
  cases call with
  | none => exact marks_pure (by simp)
  | some call => exact marks_pure rfl

theorem marks_parenthesized (hinner : inner.Sound) :
    Marks (Shows source) pre (parenthesized inner) fun e => pre ++ e.spots := by
  refine (marks_char (by decide)).bind fun _ => ?_
  refine marks_freeTrivia.bind fun _ => ?_
  refine (hinner.expr true).bind fun value => ?_
  refine marks_freeTrivia.bind fun _ => ?_
  exact (marks_char (by decide)).bind fun _ => marks_pure (by simp)

theorem marks_termAndFlag (hinner : inner.Sound) {lineEnds : Bool} :
    Marks (Shows source) pre (termAndFlag inner lineEnds) fun r => pre ++ r.1.spots := by
  intro i
  refine MarksAt.rest ?_
  split
  · exact (marks_quotedTemplate hinner i).andThen fun _ => marks_pure rfl
  · exact (marks_list hinner i).andThen fun _ => marks_pure rfl
  · exact (marks_object hinner i).andThen fun _ => marks_pure rfl
  · exact (marks_parenthesized hinner i).andThen fun _ => marks_pure rfl
  · exact (marks_heredoc hinner i).andThen fun _ => marks_pure rfl
  · refine (marksAt_skip_one ‹_› (by decide)).andThen fun _ => ?_
    refine marks_inlineTrivia.bind fun _ => ?_
    exact (hinner.term lineEnds).bind fun _ => marks_pure (by simp)
  · refine (marksAt_skip_one ‹_› (by decide)).andThen fun _ => ?_
    split
    · exact marks_number.bind fun _ => marks_pure (by simp)
    · refine marks_inlineTrivia.bind fun _ => ?_
      exact (hinner.term lineEnds).bind fun _ => marks_pure (by simp)
  · split
    · exact (marks_number i).andThen fun _ => marks_pure (by simp)
    · exact (marks_variableOrCall hinner i).andThen fun _ => marks_pure rfl
  · exact marks_fail i

/-! ### Operators -/

/-- An operator is at the front of the text, and only three of them begin with a character
that can open something. -/
theorem exists_of_binaryOperator? {text : List Char} {operator : String}
    (h : binaryOperator? text = some operator) :
    ∃ back, text = operator.toList ++ back ∧ (PlainText operator.toList ∨
      operator = "<=" ∨ operator = "<" ∨
      operator = "/" ∧ back.head? ≠ some '/' ∧ back.head? ≠ some '*') := by
  unfold binaryOperator? at h
  split at h
  case h_3 => cases h; exact ⟨_, rfl, .inr (.inl rfl)⟩
  case h_7 => cases h; exact ⟨_, rfl, .inr (.inr (.inl rfl))⟩
  case h_15 back hslash hstar =>
    cases h
    refine ⟨back, rfl, .inr (.inr (.inr ⟨rfl, fun h => ?_, fun h => ?_⟩))⟩
    · obtain ⟨rest, rfl⟩ := List.head?_eq_some_iff.mp h
      exact hslash rest rfl
    · obtain ⟨rest, rfl⟩ := List.head?_eq_some_iff.mp h
      exact hstar rest rfl
  case h_13 | h_14 | h_16 => simp at h
  all_goals
    cases h
    exact ⟨_, rfl, .inl (by decide)⟩

/-- In front of an angle bracket there is no trivia to read. -/
theorem trivia_of_angle {lineEnds : Bool} {i j : Input} {u : Unit} {rest : List Char}
    (htext : i.text = '<' :: rest) (h : trivia lineEnds i = some (u, j)) : i = j := by
  have hinline : inlinePiece i = some (none, i) := by
    rw [inlinePiece, bind_eq_some]
    exact ⟨i.text, i, rfl, by rw [htext]; rfl⟩
  have hfree : freePiece i = some (none, i) := by
    rw [freePiece, bind_eq_some]
    refine ⟨i.text, i, rfl, ?_⟩
    rw [htext]
    exact hinline
  have hstill : ∀ item : Parser (Option Unit), item i = some (none, i) →
      (do let _ ← collect item : Parser Unit) i = some (u, j) → i = j := by
    intro item hitem hrun
    obtain ⟨found, k, hcollect, hpure⟩ := bind_eq_some.mp hrun
    rw [collect_of_none hitem] at hcollect
    obtain ⟨-, rfl⟩ := pure_eq_some.mp hpure
    exact (Prod.mk.inj (Option.some.inj hcollect)).2
  cases lineEnds with
  | false => exact hstill _ hinline h
  | true => exact hstill _ hfree h

theorem heredoc_text {i j : Input} {e : Expr} (h : heredoc inner i = some (e, j)) :
    ∃ rest, i.text = '<' :: '<' :: rest := by
  obtain ⟨_, _, hstart, hrun⟩ := bind_eq_some.mp h
  obtain ⟨-, rfl⟩ := position_eq_some.mp hstart
  obtain ⟨_, k, hword, -⟩ := bind_eq_some.mp hrun
  exact ⟨k.text, (word_reads hword).1⟩

/-- **An angle bracket in front of an operand opens nothing.** If the operand is a heredoc,
there are three angle brackets in a row. -/
theorem not_opens_of_operand {lineEnds : Bool} {i j k : Input} {u : Unit} {r : Expr × Bool}
    (htrivia : trivia lineEnds i = some (u, j))
    (hterm : termAndFlag inner lineEnds j = some (r, k)) : ¬Opens '<' i.text := by
  rintro (h | h | ⟨h, -⟩ | ⟨-, hmarker⟩)
  · simp at h
  · simp at h
  · simp at h
  · obtain ⟨rest, htext⟩ : ∃ rest, i.text = '<' :: rest := by
      unfold heredocMarker? at hmarker
      split at hmarker
      · exact ⟨_, ‹_›⟩
      · exact ⟨_, ‹_›⟩
      · exact absurd rfl hmarker
    obtain rfl := trivia_of_angle htext htrivia
    obtain ⟨_, _, hrest, hterm⟩ := bind_eq_some.mp hterm
    obtain ⟨rfl, rfl⟩ := rest_eq_some.mp hrest
    rw [htext] at hterm
    obtain ⟨_, _, hheredoc, -⟩ := bind_eq_some.mp hterm
    obtain ⟨rest, htext⟩ := heredoc_text hheredoc
    have hangle : Text.isIdentifierStart '<' = false := by decide
    simp [htext, heredocMarker?, hangle] at hmarker

theorem marksAt_rightOperand (hinner : inner.Sound) {lineEnds : Bool} {operator : String}
    {i : Input} (h : binaryOperator? i.text = some operator) :
    MarksAt (Shows source) pre (rightOperand inner lineEnds operator) (fun e => pre ++ e.spots)
      i := by
  intro e m hrun
  obtain ⟨back, htext, hoperator⟩ := exists_of_binaryOperator? h
  obtain ⟨_, j, hskip, hoperand⟩ := bind_eq_some.mp hrun
  rw [← String.length_toList] at hskip
  obtain ⟨hread, rfl⟩ := skip_reads_of_eq htext hskip
  have hshows : Shows source [] i j := by
    rcases hoperator with hplain | rfl | rfl | ⟨rfl, hslash, hstar⟩
    · exact shows_plain hread hplain
    · have hfirst : i.Reads ['<'] ⟨i.byte + 1, '=' :: j.text⟩ := ⟨hread.1, rfl⟩
      have hsecond : Input.Reads ⟨i.byte + 1, '=' :: j.text⟩ ['='] j := ⟨rfl, hread.2⟩
      exact Graded.trans (shows_char hfirst (by simp [Opens, heredocMarker?]))
        (shows_char hsecond (by simp [Opens]))
    · -- that no heredoc opens here is known only once the operand has been read
      obtain ⟨_, k, htrivia, hterm⟩ := bind_eq_some.mp hoperand
      obtain ⟨r, l, hterm, -⟩ := bind_eq_some.mp hterm
      exact shows_char hread (not_opens_of_operand htrivia hterm)
    · have hread : i.Reads ['/'] j := hread
      exact shows_char hread (by simp [Opens, hslash, hstar])
  have hbehind : Marks (Shows source) pre
      (do trivia lineEnds; return (← termAndFlag inner lineEnds).1) fun e => pre ++ e.spots :=
    (marks_trivia lineEnds).bind fun _ =>
      (marks_termAndFlag hinner).bind fun _ => marks_pure rfl
  obtain ⟨spots, hspots, hmore⟩ := hbehind j e m hoperand
  exact ⟨spots, hspots, Graded.trans hshows hmore⟩

theorem marks_traversal (hinner : inner.Sound) :
    Marks (Shows source) pre (traversal inner) fun e => pre ++ e.spots := by
  refine (marks_option (by decide)).bind fun point => ?_
  split
  · refine marks_freeTrivia.bind fun _ => fun i => MarksAt.peek ?_
    split
    · refine (marksAt_skip_head (c := '*') (by decide) (by simp [*])).andThen fun _ => ?_
      exact marks_pure (by simp)
    · split
      · exact (marks_integer i).andThen fun _ => marks_pure (by simp)
      · exact (marks_name i).andThen fun _ => marks_pure (by simp)
    · exact marks_fail i
  · refine (marks_char (by decide)).bind fun _ => ?_
    refine marks_freeTrivia.bind fun _ => ?_
    refine (marks_option (by decide)).bind fun star => ?_
    split
    · refine marks_freeTrivia.bind fun _ => ?_
      exact (marks_char (by decide)).bind fun _ => marks_pure (by simp)
    · refine (hinner.expr true).bind fun index => ?_
      refine marks_freeTrivia.bind fun _ => ?_
      exact (marks_char (by decide)).bind fun _ => marks_pure (by simp)

theorem marks_toExpr {chain : Chain} :
    Marks (Shows source) (pre ++ chain.spots) chain.toExpr fun e => pre ++ e.spots :=
  marks_require.bind fun _ => marks_pure rfl

theorem marks_branches (hinner : inner.Sound) {lineEnds : Bool} {condition : Expr} :
    Marks (Shows source) (pre ++ condition.spots) (branches inner lineEnds condition)
      fun e => pre ++ e.spots := by
  refine (marks_trivia lineEnds).bind fun _ => ?_
  refine (hinner.expr lineEnds).bind fun yes => ?_
  refine (marks_trivia lineEnds).bind fun _ => ?_
  refine (marks_char (by decide)).bind fun _ => ?_
  refine (marks_trivia lineEnds).bind fun _ => ?_
  exact (hinner.expr lineEnds).bind fun no => marks_pure (by simp)

theorem marks_continuation (hinner : inner.Sound) {lineEnds : Bool} {chain : Chain} :
    Marks (Shows source) (pre ++ chain.spots) (continuation inner lineEnds chain)
      fun r => pre ++ r.elim chain.spots (Sum.elim Chain.spots Expr.spots) := by
  refine Marks.attempt ?_ rfl
  refine (marks_trivia lineEnds).bind fun _ => fun i => MarksAt.rest ?_
  split
  · exact marks_pure rfl i
  · exact (marks_traversal hinner i).andThen fun _ => marks_pure (by simp)
  · exact (marks_traversal hinner i).andThen fun _ => marks_pure (by simp)
  · refine (marksAt_skip_one ‹_› (by decide)).andThen fun _ => ?_
    refine marks_toExpr.bind fun condition => ?_
    exact (marks_branches hinner).bind fun _ => marks_pure rfl
  · split
    · exact (marksAt_rightOperand hinner ‹_›).andThen fun _ => marks_pure (by simp)
    · exact marks_pure rfl i

theorem marks_expression (hinner : inner.Sound) {lineEnds : Bool} :
    Marks (Shows source) pre (expression inner lineEnds) fun e => pre ++ e.spots := by
  refine (marks_termAndFlag hinner).bind fun (first, lineEnds) => ?_
  refine Marks.loop (fun chain => pre ++ chain.spots) (fun chain => ?_) rfl
  refine (marks_continuation hinner).bind fun r => ?_
  match r with
  | none => exact marks_toExpr.bind fun _ => marks_pure rfl
  | some (.inl chain) => exact marks_pure rfl
  | some (.inr value) => exact marks_pure rfl

/-- **At every level the parsers show the templates that they read.** -/
theorem levels_sound (n : Nat) : (levels n).Sound := by
  induction n with
  | zero => exact ⟨fun _ => marks_fail, fun _ => marks_fail⟩
  | succ n ih =>
    exact ⟨fun _ => marks_expression ih,
      fun _ => (marks_termAndFlag ih).bind fun _ => marks_pure rfl⟩

end TerraLint.Document
