import TerraLint.Proofs.Decoding.Expression
import TerraLint.Proofs.Decoding.Snapping

/-!
# Where a document and its tokens agree

A document is read twice: once by its grammar, and once as tokens, which give its
parts their places. Not every document has tokens, and not every document that has
them can be put in place. For the grammar an interpolation may hold a comment with a
quote in it, and a quoted template a raw line feed; the scanner of tokens knows neither
(`TerraLint.Document.not_decoded`).

Where templates end is all that the two disagree on. If the scanner closes each template
of a document where the grammar closes it, the text has tokens and the document is put in
place (`TerraLint.Document.exists_body_of_closed`). The main result
(`TerraLint.Document.templates_closed_iff`) makes it an equivalence: each template of the
document is a token then, and this is so in no other case. So comments, names, numbers,
operators, line ends and the nesting of bodies are never to blame when a document is not
decoded.
-/

namespace TerraLint

open Lexeme Position Input

/-! ### The spots of a document -/

/-- A label in quotes is a template without interpolations. -/
def Label.spot (label : Label) : Spot :=
  if label.quoted then .template label.span else .code label.span

mutual

/-- The spots of an attribute or a block: it begins with a stretch of code, and inside it
there are the templates of an expression, or labels and further structures. -/
def Structure.spots : Structure → List Spot
  | .attribute _ span templates => .code span :: templates.map .template
  | .block _ labels span body => .code span :: (labels.map Label.spot ++ Structure.spotsOf body)

/-- The spots of a list of structures. -/
def Structure.spotsOf : List Structure → List Spot
  | [] => []
  | s :: rest => s.spots ++ Structure.spotsOf rest

end

@[simp] theorem Structure.spotsOf_append (a b : List Structure) :
    Structure.spotsOf (a ++ b) = Structure.spotsOf a ++ Structure.spotsOf b := by
  induction a with
  | nil => rfl
  | cons s a ih => simp [Structure.spotsOf, ih]

/-- The templates of a document: the outermost ones of each expression, and the labels in
quotes. -/
def Document.templates (structures : List Structure) : List ByteSpan :=
  (Structure.spotsOf structures).filterMap fun
    | .template span => some span
    | .code _ => none

theorem Document.mem_templates {structures : List Structure} {span : ByteSpan} :
    span ∈ templates structures ↔ .template span ∈ Structure.spotsOf structures := by
  rw [templates, List.mem_filterMap]
  constructor
  · rintro ⟨s, hs, hspan⟩
    cases s with
    | code => simp at hspan
    | template other => simpa [← Option.some.inj hspan] using hs
  · exact fun h => ⟨_, h, rfl⟩

/-! ### The steps of the parsers of structures -/

namespace Document

open TerraLint.Parser

theorem attributeFrom_eq_some {level start : Nat} {key : String} {i j : Input} {s : Structure}
    (h : attributeFrom level start key i = some (s, j)) :
    ∃ value, attributeValue level i = some (value, j) ∧
      s = .attribute key ⟨start, j.byte⟩ value.templates := by
  obtain ⟨value, k, hvalue, hrun⟩ := bind_eq_some.mp h
  obtain ⟨stop, _, hstop, hrun⟩ := bind_eq_some.mp hrun
  obtain ⟨rfl, rfl⟩ := position_eq_some.mp hstop
  obtain ⟨rfl, rfl⟩ := pure_eq_some.mp hrun
  exact ⟨value, hvalue, rfl⟩

theorem blockFrom_eq_some {level start : Nat} {type : String} {body : Parser (List Structure)}
    {i j : Input} {s : Structure} (h : blockFrom level start type body i = some (s, j)) :
    ∃ labels k structures, collect label i = some (labels, k) ∧
      blockBody level body k = some (structures, j) ∧
      s = .block type labels ⟨start, j.byte⟩ structures := by
  obtain ⟨labels, k, hlabels, hrun⟩ := bind_eq_some.mp h
  obtain ⟨structures, l, hstructures, hrun⟩ := bind_eq_some.mp hrun
  obtain ⟨stop, _, hstop, hrun⟩ := bind_eq_some.mp hrun
  obtain ⟨rfl, rfl⟩ := position_eq_some.mp hstop
  obtain ⟨rfl, rfl⟩ := pure_eq_some.mp hrun
  exact ⟨labels, k, structures, hlabels, hstructures, rfl⟩

/-- A body on one line is empty, or it is one attribute. -/
theorem oneLineBody_eq_some {level : Nat} {i p : Input} {found : List Structure}
    (h : oneLineBody level i = some (found, p)) :
    option "\x7d" i = some (true, p) ∧ found = [] ∨
    ∃ i' key j k l s m n, option "\x7d" i = some (false, i') ∧ name i' = some (key, j) ∧
      inlineTrivia j = some ((), k) ∧ char '=' k = some ((), l) ∧
      attributeFrom level i'.byte key l = some (s, m) ∧ inlineTrivia m = some ((), n) ∧
      char '}' n = some ((), p) ∧ found = [s] := by
  obtain ⟨closed, i', hclosed, hrun⟩ := bind_eq_some.mp h
  split at hrun
  · obtain ⟨rfl, rfl⟩ := pure_eq_some.mp hrun
    exact .inl ⟨by simp_all, rfl⟩
  · obtain ⟨_, _, hstart, hrun⟩ := bind_eq_some.mp hrun
    obtain ⟨rfl, rfl⟩ := position_eq_some.mp hstart
    obtain ⟨key, j, hname, hrun⟩ := bind_eq_some.mp hrun
    obtain ⟨_, k, htrivia, hrun⟩ := bind_eq_some.mp hrun
    obtain ⟨_, l, hequals, hrun⟩ := bind_eq_some.mp hrun
    obtain ⟨s, m, hattribute, hrun⟩ := bind_eq_some.mp hrun
    obtain ⟨_, n, hblanks, hrun⟩ := bind_eq_some.mp hrun
    obtain ⟨_, o, hclose, hrun⟩ := bind_eq_some.mp hrun
    obtain ⟨rfl, rfl⟩ := pure_eq_some.mp hrun
    exact .inr ⟨i', key, j, k, l, s, m, n, by simp_all, hname, htrivia, hequals, hattribute,
      hblanks, hclose, rfl⟩

/-- A name begins an attribute or a block; behind an equals sign it is an attribute, which has
no namesake. -/
theorem nextStructure_eq_some {level : Nat} {body : Parser (List Structure)}
    {found : List Structure} {i m : Input} {s : Structure}
    (h : nextStructure level body found i = some (s, m)) :
    ∃ key j k l, name i = some (key, j) ∧ inlineTrivia j = some ((), k) ∧
      (option "=" k = some (true, l) ∧ hasAttribute key found = false ∧
          attributeFrom (level + 1) i.byte key l = some (s, m) ∨
        option "=" k = some (false, l) ∧ blockFrom level i.byte key body l = some (s, m)) := by
  obtain ⟨_, _, hstart, hrun⟩ := bind_eq_some.mp h
  obtain ⟨rfl, rfl⟩ := position_eq_some.mp hstart
  obtain ⟨key, j, hname, hrun⟩ := bind_eq_some.mp hrun
  obtain ⟨_, k, htrivia, hrun⟩ := bind_eq_some.mp hrun
  obtain ⟨assigned, l, hequals, hrun⟩ := bind_eq_some.mp hrun
  refine ⟨key, j, k, l, hname, htrivia, ?_⟩
  split at hrun
  · obtain ⟨_, _, hrequire, hrun⟩ := bind_eq_some.mp hrun
    obtain ⟨hnew, rfl⟩ := require_eq_some.mp hrequire
    exact .inl ⟨by simp_all, by simpa using hnew, hrun⟩
  · exact .inr ⟨by simp_all, hrun⟩

/-! ### Documents in lockstep -/

variable {source : List Char} {pre : List Spot}

theorem marks_attributeValue {level : Nat} :
    Marks (Shows source) pre (attributeValue level) fun e => pre ++ e.spots :=
  marks_inlineTrivia.bind fun _ => (levels_sound level).expr false

theorem marks_structureEnd {R : List Spot → Input → Input → Prop} [CrossesTrivia R] :
    Marks R pre structureEnd fun _ => pre := by
  refine marks_inlineTrivia.bind fun _ => ?_
  refine marks_optionalLineComment.bind fun _ => ?_
  refine marks_atEnd.bind fun _ => ?_
  split
  · exact marks_lineEnd
  · exact marks_pure rfl

/-- A name and what is read behind it make up a stretch of code. -/
theorem shows_name {i j k : Input} {key : String} {spots : List Spot}
    (hname : name i = some (key, j)) (h : Shows source spots j k) :
    Shows source (.code ⟨i.byte, k.byte⟩ :: spots) i k := by
  obtain ⟨c, more, hread, hblank, hplain⟩ := name_reads hname
  have hstop : i.byte < k.byte := by
    obtain ⟨read, -, hbyte⟩ := h.advances
    have hpos := c.utf8Size_pos
    rw [hbyte, hread.2, byteLength_cons]
    omega
  exact Graded.trans (shows_code hread hblank hplain hstop) h

theorem labelText_shows {first : Option Char} {i j : Input} {o : Option String}
    (h : labelText first i = some (o, j)) :
    o = none ∧ i = j ∨ (∃ text, o = some text) ∧
      Shows source [if first == some '"' then .template ⟨i.byte, j.byte⟩
        else .code ⟨i.byte, j.byte⟩] i j := by
  unfold labelText at h
  split at h
  · obtain ⟨text, k, hquoted, hrun⟩ := bind_eq_some.mp h
    obtain ⟨rfl, rfl⟩ := pure_eq_some.mp hrun
    exact .inr ⟨⟨text, rfl⟩, shows_template (moves_quotedText.run hquoted)⟩
  · rename_i c hquote
    split at h
    · obtain ⟨text, k, hname, hrun⟩ := bind_eq_some.mp h
      obtain ⟨rfl, rfl⟩ := pure_eq_some.mp hrun
      refine .inr ⟨⟨text, rfl⟩, ?_⟩
      rw [if_neg (by simpa using hquote)]
      exact shows_name hname (Graded.refl k)
    · obtain ⟨rfl, rfl⟩ := pure_eq_some.mp h
      exact .inl ⟨rfl, rfl⟩
  · obtain ⟨rfl, rfl⟩ := pure_eq_some.mp h
    exact .inl ⟨rfl, rfl⟩

/-- **A label is shown**, with or without quotes. -/
theorem marks_label :
    Marks (Shows source) pre label fun o => pre ++ o.elim [] fun label => [label.spot] := by
  intro i o k hrun
  obtain ⟨_, _, hstart, hrun⟩ := bind_eq_some.mp hrun
  obtain ⟨rfl, rfl⟩ := position_eq_some.mp hstart
  obtain ⟨_, _, hfirst, hrun⟩ := bind_eq_some.mp hrun
  obtain ⟨rfl, rfl⟩ := peek_eq_some.mp hfirst
  obtain ⟨text, j, htext, hrun⟩ := bind_eq_some.mp hrun
  rcases labelText_shows htext with ⟨rfl, rfl⟩ | ⟨⟨text, rfl⟩, hshows⟩
  · obtain ⟨rfl, rfl⟩ := pure_eq_some.mp hrun
    exact ⟨[], rfl, Graded.refl i⟩
  · obtain ⟨_, _, hstop, hrun⟩ := bind_eq_some.mp hrun
    obtain ⟨rfl, rfl⟩ := position_eq_some.mp hstop
    obtain ⟨_, l, htrivia, hrun⟩ := bind_eq_some.mp hrun
    obtain ⟨rfl, rfl⟩ := pure_eq_some.mp hrun
    exact ⟨_, rfl, Graded.trans hshows (marks_inlineTrivia.run htrivia)⟩

/-- The rest of an attribute whose name begins at byte `start`. -/
theorem attributeFrom_shows {level start : Nat} {key : String} {i j : Input} {s : Structure}
    (h : attributeFrom level start key i = some (s, j)) :
    ∃ spots, s.spots = .code ⟨start, j.byte⟩ :: spots ∧ Shows source spots i j := by
  obtain ⟨value, hvalue, rfl⟩ := attributeFrom_eq_some h
  exact ⟨value.spots, rfl, marks_attributeValue.run hvalue⟩

theorem marks_oneLineBody {level : Nat} :
    Marks (Shows source) pre (oneLineBody level) fun found => pre ++ Structure.spotsOf found := by
  intro i found p hrun
  rcases oneLineBody_eq_some hrun with ⟨hclosed, rfl⟩ |
    ⟨i', key, j, k, l, s, m, n, hopen, hname, htrivia, hequals, hattribute, hblanks, hclose, rfl⟩
  · exact ⟨[], by simp [Structure.spotsOf], (marks_option (by decide)).run hclosed⟩
  · have hfront : Shows source [] i i' := (marks_option (by decide)).run hopen
    obtain ⟨spots, hspots, hshows⟩ : ∃ spots, _ ∧ Shows source spots l m :=
      attributeFrom_shows hattribute
    have hinside : Shows source spots j m :=
      Graded.trans (marks_inlineTrivia.run htrivia)
        (Graded.trans ((marks_char (by decide)).run hequals) hshows)
    have hbehind : Shows source [] m p :=
      Graded.trans (marks_inlineTrivia.run hblanks) ((marks_char (by decide)).run hclose)
    refine ⟨_, ?_, Graded.trans hfront (Graded.trans (shows_name hname hinside) hbehind)⟩
    simp [Structure.spotsOf, hspots]

theorem marks_blockBody {level : Nat} {body : Parser (List Structure)}
    (hbody : ∀ pre, Marks (Shows source) pre body fun found => pre ++ Structure.spotsOf found) :
    Marks (Shows source) pre (blockBody level body)
      fun found => pre ++ Structure.spotsOf found := by
  refine (marks_char (by decide)).bind fun _ => ?_
  refine marks_inlineTrivia.bind fun _ => ?_
  refine marks_rest.bind fun text => ?_
  split
  · refine marks_optionalLineComment.bind fun _ => ?_
    refine marks_lineEnd.bind fun _ => ?_
    refine (hbody pre).bind fun structures => ?_
    exact (marks_char (by decide)).bind fun _ => marks_pure rfl
  · exact marks_oneLineBody

/-- The rest of a block whose type begins at byte `start`. -/
theorem blockFrom_shows {level start : Nat} {type : String} {body : Parser (List Structure)}
    (hbody : ∀ pre, Marks (Shows source) pre body fun found => pre ++ Structure.spotsOf found)
    {i j : Input} {s : Structure} (h : blockFrom level start type body i = some (s, j)) :
    ∃ spots, s.spots = .code ⟨start, j.byte⟩ :: spots ∧ Shows source spots i j := by
  obtain ⟨labels, k, structures, hlabels, hstructures, rfl⟩ := blockFrom_eq_some h
  have hfirst : Shows source (labels.flatMap fun label => [label.spot]) i k :=
    (Marks.collect fun _ => marks_label).run hlabels
  rw [← List.map_eq_flatMap] at hfirst
  exact ⟨_, rfl, Graded.trans hfirst ((marks_blockBody hbody).run hstructures)⟩

theorem marks_nextStructure {level : Nat} {body : Parser (List Structure)}
    (hbody : ∀ pre, Marks (Shows source) pre body fun found => pre ++ Structure.spotsOf found)
    {found : List Structure} :
    Marks (Shows source) pre (nextStructure level body found) fun s => pre ++ s.spots := by
  intro i s m hrun
  obtain ⟨key, j, k, l, hname, htrivia, hkind⟩ := nextStructure_eq_some hrun
  have hfront : ∀ {assigned}, option "=" k = some (assigned, l) → Shows source [] j l :=
    fun hequals => Graded.trans (marks_inlineTrivia.run htrivia)
      ((marks_option (by decide)).run hequals)
  obtain ⟨spots, hspots, hshows⟩ :
      ∃ spots, s.spots = .code ⟨i.byte, m.byte⟩ :: spots ∧ Shows source spots j m := by
    rcases hkind with ⟨hequals, -, hattribute⟩ | ⟨hequals, hblock⟩
    · obtain ⟨spots, hspots, hshows⟩ : ∃ spots, _ ∧ Shows source spots l m :=
        attributeFrom_shows hattribute
      exact ⟨spots, hspots, Graded.trans (hfront hequals) hshows⟩
    · obtain ⟨spots, hspots, hshows⟩ := blockFrom_shows hbody hblock
      exact ⟨spots, hspots, Graded.trans (hfront hequals) hshows⟩
  refine ⟨_, ?_, shows_name hname hshows⟩
  change pre ++ s.spots = _
  rw [hspots]

/-- **A body shows the spots of its structures.** -/
theorem marks_body (n : Nat) : ∀ {pre : List Spot},
    Marks (Shows source) pre (body n) fun found => pre ++ Structure.spotsOf found := by
  induction n with
  | zero => exact marks_fail
  | succ n ih =>
    intro pre
    unfold body
    -- the structures are collected with the last one first
    refine Marks.loop (fun found => pre ++ Structure.spotsOf found.reverse) (fun found => ?_)
      (by simp [Structure.spotsOf])
    refine marks_freeTrivia.bind fun _ => ?_
    refine marks_atEnd.bind fun _ => ?_
    refine marks_peek.bind fun _ => ?_
    split
    · exact marks_pure rfl
    · refine (marks_nextStructure fun _ => ih).bind fun next => ?_
      exact marks_structureEnd.bind fun _ => marks_pure (by simp [Structure.spotsOf])

end Document

/-! ### Structures in place -/

namespace Body

variable {tokens : List Token}

section Locate

variable (hordered : tokens.Pairwise fun s t => s.bytes.start < t.bytes.start)
  (hproper : ∀ t ∈ tokens, t.kind.IsTemplate → t.bytes.start < t.bytes.stop)

include hordered in
theorem exists_snap? {span : ByteSpan} (h : (Spot.code span).FoundIn tokens) :
    ∃ place, snap? tokens span = some place := by
  obtain ⟨hlt, t, ht, hkind, hle, hstop⟩ := h
  obtain ⟨first, hfirst⟩ := exists_firstAt? ht hkind hstop
  obtain ⟨last, hlast⟩ := exists_lastBefore? hordered ht hkind (Nat.lt_of_le_of_lt hle hlt)
  exact ⟨first.span.between last.span, by simp [snap?, hfirst, hlast]⟩

include hproper in
theorem exists_firstAt?_label {label : Label} (h : label.spot.FoundIn tokens) :
    ∃ first, firstAt? tokens label.span.start = some first := by
  unfold Label.spot at h
  split at h
  · obtain ⟨t, ht, hkind, hspan⟩ := h
    have hstop := hproper t ht hkind
    have hcontent : t.kind.isTrivia = false := by
      rcases hkind with hkind | hkind <;> rw [hkind] <;> rfl
    rw [hspan] at hstop
    exact exists_firstAt? ht hcontent (hspan ▸ hstop)
  · obtain ⟨-, t, ht, hkind, -, hstop⟩ := h
    exact exists_firstAt? ht hkind hstop

include hproper in
theorem exists_header {labels : List Label} {span : ByteSpan}
    (hspan : (Spot.code span).FoundIn tokens) (hlabels : ∀ l ∈ labels, l.spot.FoundIn tokens) :
    ∃ place, header tokens labels span = .ok place := by
  obtain ⟨-, t, ht, hkind, -, hstop⟩ := hspan
  obtain ⟨first, hfirst⟩ := exists_firstAt? ht hkind hstop
  cases hlast : labels.getLast? with
  | none => exact ⟨first.span.between first.span, by simp only [header, hfirst, hlast]⟩
  | some label =>
    have hmem := List.mem_of_getLast? hlast
    obtain ⟨last, hat⟩ := exists_firstAt?_label hproper (hlabels label hmem)
    exact ⟨first.span.between last.span, by simp only [header, hfirst, hlast, hat]⟩

include hordered hproper in
/-- **Structures whose spots are found among the tokens have a place.** -/
theorem exists_locate {structures : List Structure}
    (h : ∀ s ∈ Structure.spotsOf structures, s.FoundIn tokens) :
    ∃ body, locate tokens structures = .ok body := by
  -- each failure of `locate` is a place that is missing, and the spots give it
  fun_induction locate tokens structures with
  | case1 | case4 | case9 => exact ⟨_, rfl⟩
  | case2 name span templates rest hplace =>
    obtain ⟨place, hsome⟩ := exists_snap? hordered (h (.code span)
      (by simp [Structure.spotsOf, Structure.spots]))
    simp [hplace] at hsome
  | case3 name span templates rest place hplace part hrest ih =>
    obtain ⟨body, hbody⟩ := ih fun s hs => h s (by simp [Structure.spotsOf, hs])
    simp [hrest] at hbody
  | case5 type labels span structures rest hplace =>
    obtain ⟨place, hsome⟩ := exists_snap? hordered (h (.code span)
      (by simp [Structure.spotsOf, Structure.spots]))
    simp [hplace] at hsome
  | case6 type labels span structures rest place hplace part hheader =>
    have hlabels : ∀ l ∈ labels, l.spot.FoundIn tokens := fun l hl =>
      h l.spot (by simp [Structure.spotsOf, Structure.spots, List.mem_map_of_mem hl])
    obtain ⟨place, hsome⟩ := exists_header hproper (h (.code span)
      (by simp [Structure.spotsOf, Structure.spots])) hlabels
    simp [hheader] at hsome
  | case7 type labels span structures rest place hplace header hheader part hinside ih =>
    obtain ⟨body, hbody⟩ := ih fun s hs => h s (by simp [Structure.spotsOf, Structure.spots, hs])
    simp [hinside] at hbody
  | case8 type labels span structures rest place hplace header hheader inside hinside part hrest
      _ ih =>
    obtain ⟨body, hbody⟩ := ih fun s hs => h s (by simp [Structure.spotsOf, hs])
    simp [hrest] at hbody

end Locate

end Body

/-! ### Agreement -/

namespace Token

/-- A template that is a token is closed where the token ends. -/
theorem closed_of_mem_place {file : String} {source : List Char} {lexemes : List Lexeme}
    (hcut : Cut source lexemes []) {t : Token} (ht : t ∈ place file (behind []) lexemes)
    (hkind : t.kind.IsTemplate) : t.bytes.Closed source := by
  rcases mem_place ht with ⟨front, l, back, kind, rfl, hl, rfl⟩ | rfl
  · obtain ⟨middle, hfront, hback⟩ := hcut.split_append
    cases hback with
    | @cons c more after _ _ _ hshape hrest =>
      cases hl
      refine ⟨written front, c, more, after, kind, hfront.eq_written, ?_,
        first_eq_ok_iff.mpr hshape, hkind⟩
      simp [ofEnds]
  · rcases hkind with hkind | hkind <;> simp [ofEnds] at hkind

end Token

namespace Document

/-- A document is a body, of which all is read. -/
theorem exists_of_read? {source : String} {structures : List Structure}
    (h : read? source = some structures) : ∃ left : Input, left.text = [] ∧
      body (levelLimit + 1) ⟨0, source.toList⟩ = some (structures, left) := by
  unfold read? Parser.readAll at h
  split at h
  · rename_i found left hrun
    split at h
    · rename_i hempty
      obtain rfl : found = structures := by simpa using h
      exact ⟨left, by simpa using hempty, hrun⟩
    · simp at h
  · simp at h

/-- **Where the scanner closes all templates, the tokens show the document.** -/
theorem exists_cut_of_closed {source : String} {structures : List Structure}
    (h : read? source = some structures)
    (hclosed : ∀ span ∈ templates structures, span.Closed source.toList) (file : String) :
    ∃ lexemes, Cut source.toList lexemes [] ∧
      ∀ s ∈ Structure.spotsOf structures, s.FoundIn (Token.place file (behind []) lexemes) := by
  obtain ⟨left, hleft, hbody⟩ := exists_of_read? h
  have hshows : Shows source.toList (Structure.spotsOf structures) _ left :=
    (marks_body _).run hbody
  have hend : left.Outlined [] := ⟨[], hleft ▸ .nil, List.Subset.refl _⟩
  obtain ⟨found, houtline, hsub⟩ := hshows.outlined ⟨[], rfl, rfl⟩
    (fun span hspan => hclosed span (mem_templates.mpr hspan)) hend
  obtain ⟨lexemes, hcut, hfound⟩ := Outline.exists_cut file [] houtline
  exact ⟨lexemes, hcut, fun s hs => hfound s (hsub (by simpa using hs))⟩

/-- **A document is decoded where the scanner closes its templates**: its text has tokens, they put
the document in place, and each template is one of them. -/
theorem exists_body_of_closed {source : String} {structures : List Structure}
    (h : read? source = some structures)
    (hclosed : ∀ span ∈ templates structures, span.Closed source.toList) (file : String) :
    ∃ tokens body, Token.lex file source = .ok tokens ∧ Body.read tokens source = .ok body ∧
      ∀ span ∈ templates structures, ∃ t ∈ tokens, t.kind.IsTemplate ∧ t.bytes = span := by
  obtain ⟨lexemes, hcut, hfound⟩ := exists_cut_of_closed h hclosed file
  have hordered := Token.place_pairwise file [] hcut.text_ne_nil
  obtain ⟨body, hbody⟩ := Body.exists_locate (hordered.imp fun hst => hst.1)
    (fun t ht hkind => (Token.closed_of_mem_place hcut ht hkind).lt) hfound
  refine ⟨_, body, Token.lex_eq_ok_iff.mpr ⟨lexemes, hcut, rfl⟩, ?_, fun span hspan => ?_⟩
  · simp [Body.read, Body.readWith, read_eq_ok_iff.mpr h, hbody, Except.mapError]
  · exact hfound _ (mem_templates.mp hspan)

/-- The scanner closes a template that is a token where the token ends. -/
theorem closed_of_mem_lex {file source : String} {tokens : List Token}
    (h : Token.lex file source = .ok tokens) {t : Token} (ht : t ∈ tokens)
    (hkind : t.kind.IsTemplate) : t.bytes.Closed source.toList := by
  obtain ⟨lexemes, hcut, rfl⟩ := Token.lex_eq_ok_iff.mp h
  exact Token.closed_of_mem_place hcut ht hkind

/-- **A document is decoded, template by template, exactly where the scanner closes its
templates.** -/
theorem templates_closed_iff {source : String} {structures : List Structure}
    (h : read? source = some structures) (file : String) :
    (∀ span ∈ templates structures, span.Closed source.toList) ↔
      ∃ tokens body, Token.lex file source = .ok tokens ∧ Body.read tokens source = .ok body ∧
        ∀ span ∈ templates structures, ∃ t ∈ tokens, t.kind.IsTemplate ∧ t.bytes = span := by
  constructor
  · intro hclosed
    exact exists_body_of_closed h hclosed file
  · -- that the templates are tokens is enough
    rintro ⟨tokens, body, htokens, -, htemplates⟩ span hspan
    obtain ⟨t, ht, hkind, rfl⟩ := htemplates span hspan
    exact closed_of_mem_lex htokens ht hkind

/-- A block on one line, with a label in quotes, an interpolation, and a quote in the comment
behind it. -/
theorem templates_closed_iff_one_line :
    read? "b \"l\" \x7b a = \"$\x7bc\x7d\" \x7d # \"\n" = some [.block "b" [⟨"l", ⟨2, 5⟩, true⟩]
      ⟨0, 20⟩ [.attribute "a" ⟨8, 18⟩ [⟨12, 18⟩]]] ∧
    ∃ tokens body,
      Token.lex "main.tf" "b \"l\" \x7b a = \"$\x7bc\x7d\" \x7d # \"\n" = .ok tokens ∧
      Body.read tokens "b \"l\" \x7b a = \"$\x7bc\x7d\" \x7d # \"\n" = .ok body ∧
      ∀ span ∈ templates [.block "b" [⟨"l", ⟨2, 5⟩, true⟩] ⟨0, 20⟩
        [.attribute "a" ⟨8, 18⟩ [⟨12, 18⟩]]],
        ∃ t ∈ tokens, t.kind.IsTemplate ∧ t.bytes = span := by
  have h : read? "b \"l\" \x7b a = \"$\x7bc\x7d\" \x7d # \"\n" = some [.block "b"
      [⟨"l", ⟨2, 5⟩, true⟩] ⟨0, 20⟩ [.attribute "a" ⟨8, 18⟩ [⟨12, 18⟩]]] := by cbv
  refine ⟨h, (templates_closed_iff h "main.tf").mp fun span hspan => ?_⟩
  have hspans : span ∈ ([⟨2, 5⟩, ⟨12, 18⟩] : List ByteSpan) := hspan
  simp only [List.mem_cons, List.not_mem_nil, or_false] at hspans
  rcases hspans with rfl | rfl
  · exact ⟨"b ".toList, '"', "l\"".toList, " \x7b a = \"$\x7bc\x7d\" \x7d # \"\n".toList, .quoted,
      by decide, by decide, by decide, .inl rfl⟩
  · exact ⟨"b \"l\" \x7b a = ".toList, '"', "$\x7bc\x7d\"".toList, " \x7d # \"\n".toList, .quoted,
      by decide, by decide, by decide, .inl rfl⟩

/-- **Some documents are not decoded.** A quote inside a comment inside an interpolation opens a
template for the scanner, which nothing closes. Behind a brace it ends the template too early; what
follows begins a comment then, and the second attribute is lost in it. A raw line feed in a quoted
template leaves the template open. -/
theorem not_decoded :
    (read? "x = \"$\x7ba /* \" */\x7d\"\n" = some [.attribute "x" ⟨0, 18⟩ [⟨4, 18⟩]] ∧
      Token.lex "main.tf" "x = \"$\x7ba /* \" */\x7d\"\n" =
        .error ⟨"main.tf", .interpolation, ⟨1, 6, 5⟩⟩) ∧
    (read? "a = \"$\x7b /* \x7d\" */ 1 \x7d /*\"\nb = 1 # */\n" =
        some [.attribute "a" ⟨0, 24⟩ [⟨4, 24⟩], .attribute "b" ⟨25, 30⟩ []] ∧
      (Token.lex "main.tf" "a = \"$\x7b /* \x7d\" */ 1 \x7d /*\"\nb = 1 # */\n").map
        (Body.read · "a = \"$\x7b /* \x7d\" */ 1 \x7d /*\"\nb = 1 # */\n") =
          .ok (.error (.unlocated "main.tf" .attribute))) ∧
    read? "a = \"x\ny\"\n" = some [.attribute "a" ⟨0, 9⟩ [⟨4, 9⟩]] ∧
      Token.lex "main.tf" "a = \"x\ny\"\n" = .error ⟨"main.tf", .string, ⟨1, 5, 4⟩⟩ :=
  ⟨⟨by cbv, by decide +kernel⟩, ⟨by cbv, by cbv⟩, by cbv, by decide +kernel⟩

end Document

end TerraLint
