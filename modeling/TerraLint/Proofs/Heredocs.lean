import TerraLint.Proofs.Cut

/-!
# Where heredocs end

A heredoc opens with two angle brackets, perhaps a dash, and a marker, and it goes on to
the first line below that holds the marker and otherwise only blanks. This file says so
without a scan (`TerraLint.Lexeme.IsHeredoc`), as a condition on the word from the first
angle bracket to the end of the closing line, and shows that the scanner cuts off such
words and no others (`TerraLint.Lexeme.shape_heredoc_iff`). What follows matters only in
that the closing line has to end with the word.

The scanner reads characters and keeps the line in hand, while the condition is about
whole lines. The two meet in `TerraLint.Lexeme.closeHeredoc_eq_some_iff`, which goes over
the text line by line. Said of the lines of a text, the result is
`TerraLint.Lexeme.heredoc_lines`: there is a heredoc if and only if a line below the
opening one closes it, and it ends with the first that does.
-/

namespace TerraLint

namespace Lexeme

/-! ### The form of a heredoc -/

/-- A line ends in front of this text: with a line feed, or with the file. -/
def EndsLine (rest : List Char) : Prop := ∀ c ∈ rest.head?, c = '\n'

theorem endsLine_nil : EndsLine [] := by simp [EndsLine]

theorem endsLine_cons {c : Char} {rest : List Char} : EndsLine (c :: rest) ↔ c = '\n' := by
  simp [EndsLine]

/-- **Up to the marker**: the last line is the marker, and the lines above it are not, blanks
at the ends of a line apart. -/
inductive ToMarker (marker : List Char) : List Char → Prop
  | closing {line : List Char} : '\n' ∉ line → Text.trim line = marker → ToMarker marker line
  | feed {line rest : List Char} : '\n' ∉ line → Text.trim line ≠ marker →
      ToMarker marker rest → ToMarker marker (line ++ '\n' :: rest)

/-- A marker: a run of name characters, the first of which may begin a name. -/
structure IsMarker (marker : List Char) : Prop where
  start : marker.head?.any Text.isIdentifierStart = true
  continued : ∀ c ∈ marker, Text.isIdentifierContinue c = true

/-- **A heredoc**, from the first angle bracket to the end of its closing line. The rest of the
opening line can be anything that does not make the marker longer. -/
inductive IsHeredoc : List Char → Prop
  | mk {dash marker opening body : List Char} : dash ∈ [[], ['-']] → IsMarker marker →
      (∀ c ∈ opening.head?, Text.isIdentifierContinue c = false) → '\n' ∉ opening →
      ToMarker marker body →
      IsHeredoc ('<' :: '<' :: (dash ++ (marker ++ (opening ++ '\n' :: body))))

/-! ### The closing line -/

variable {marker : List Char}

/-- The characters of a line are gathered until the line ends. -/
theorem closeHeredoc_gather {piece : List Char} (hpiece : '\n' ∉ piece) (read : Nat)
    (line rest : List Char) :
    closeHeredoc marker read line (piece ++ rest) =
      closeHeredoc marker (read + piece.length) (piece.reverse ++ line) rest := by
  induction piece generalizing read line with
  | nil => simp
  | cons c piece ih =>
    obtain ⟨hc, hpiece⟩ := not_or.mp (List.mem_cons.not.mp hpiece)
    rw [List.cons_append, closeHeredoc, if_neg (Ne.symm hc), ih hpiece, List.length_cons,
      List.reverse_cons, List.append_assoc, List.singleton_append]
    congr 1
    omega

/-- A whole line closes the heredoc where it is the marker. -/
theorem closeHeredoc_of_trim_eq {line rest : List Char} (hline : '\n' ∉ line)
    (htrim : Text.trim line = marker) (hrest : EndsLine rest) (read : Nat) :
    closeHeredoc marker read [] (line ++ rest) = some (read + line.length) := by
  rw [closeHeredoc_gather hline, List.append_nil]
  cases rest with
  | nil => rw [closeHeredoc, List.reverse_reverse, if_pos htrim]
  | cons c rest =>
    rw [closeHeredoc, if_pos (endsLine_cons.mp hrest), List.reverse_reverse, if_pos htrim]

/-- Any other line is passed over, with its line feed. -/
theorem closeHeredoc_of_trim_ne {line : List Char} (hline : '\n' ∉ line)
    (htrim : Text.trim line ≠ marker) (read : Nat) (rest : List Char) :
    closeHeredoc marker read [] (line ++ '\n' :: rest) =
      closeHeredoc marker (read + line.length + 1) [] rest := by
  rw [closeHeredoc_gather hline, List.append_nil, closeHeredoc, if_pos rfl, List.reverse_reverse,
    if_neg htrim]

theorem ToMarker.closeHeredoc_eq {body rest : List Char} (h : ToMarker marker body)
    (hrest : EndsLine rest) (read : Nat) :
    closeHeredoc marker read [] (body ++ rest) = some (read + body.length) := by
  induction h generalizing read with
  | closing hline htrim => exact closeHeredoc_of_trim_eq hline htrim hrest read
  | @feed line body hline htrim _ ih =>
    rw [List.append_assoc, List.cons_append, closeHeredoc_of_trim_ne hline htrim, ih,
      List.length_append, List.length_cons]
    congr 1
    omega

/-- **The scan stops at the end of the first closing line.** -/
theorem closeHeredoc_eq_some_iff {text : List Char} {read length : Nat} :
    closeHeredoc marker read [] text = some length ↔ ∃ body rest, text = body ++ rest ∧
      ToMarker marker body ∧ EndsLine rest ∧ length = read + body.length := by
  constructor
  · intro h
    induction text using lines_induction generalizing read with
    | last line hline =>
      by_cases htrim : Text.trim line = marker
      · have hclose := closeHeredoc_of_trim_eq hline htrim endsLine_nil read
        rw [List.append_nil, h] at hclose
        exact ⟨line, [], by simp, .closing hline htrim, endsLine_nil, Option.some.inj hclose⟩
      · have hopen : closeHeredoc marker read [] (line ++ []) = none := by
          rw [closeHeredoc_gather hline, List.append_nil, closeHeredoc, List.reverse_reverse,
            if_neg htrim]
        simp [h] at hopen
    | feed line rest hline ih =>
      by_cases htrim : Text.trim line = marker
      · have hrest : EndsLine ('\n' :: rest) := endsLine_cons.mpr rfl
        have hclose := closeHeredoc_of_trim_eq hline htrim hrest read
        rw [h] at hclose
        exact ⟨line, _, rfl, .closing hline htrim, hrest, Option.some.inj hclose⟩
      · rw [closeHeredoc_of_trim_ne hline htrim] at h
        obtain ⟨body, after, rfl, hbody, hafter, rfl⟩ := ih h
        refine ⟨line ++ '\n' :: body, after, by simp, .feed hline htrim hbody, hafter, ?_⟩
        rw [List.length_append, List.length_cons]
        omega
  · rintro ⟨body, rest, rfl, hbody, hrest, rfl⟩
    exact hbody.closeHeredoc_eq hrest read

/-- Behind the marker, a heredoc passes over the rest of a line and goes on to its closing
line. -/
theorem heredocLength?_eq_some_iff {text : List Char} {length : Nat} :
    heredocLength? marker text = some length ↔ ∃ opening body rest,
      text = opening ++ '\n' :: (body ++ rest) ∧ '\n' ∉ opening ∧ ToMarker marker body ∧
        EndsLine rest ∧ length = opening.length + 1 + body.length := by
  -- an opening line that is ended
  have hline {opening : List Char} (hopening : '\n' ∉ opening) (below : List Char) :
      heredocLength? marker (opening ++ '\n' :: below) =
        closeHeredoc marker (opening.length + 1) [] below := by
    have htake : (opening ++ '\n' :: below).take (opening.length + 1) = opening ++ ['\n'] := by
      simp [List.take_append]
    have hdrop : (opening ++ '\n' :: below).drop (opening.length + 1) = below := by
      simp [List.drop_append]
    simp only [heredocLength?, lineLength_line hopening, htake, hdrop, List.getLast?_concat, if_true]
  constructor
  · intro h
    by_cases hmem : '\n' ∈ text
    · obtain ⟨opening, below, rfl, hopening⟩ := List.eq_append_cons_of_mem hmem
      rw [hline hopening] at h
      obtain ⟨body, rest, rfl, hbody, hrest, rfl⟩ := closeHeredoc_eq_some_iff.mp h
      exact ⟨opening, body, rest, rfl, hopening, hbody, hrest, rfl⟩
    · simp only [heredocLength?, lineLength_of_not_mem hmem, List.take_length] at h
      split at h
      · exact absurd (List.mem_of_getLast? ‹_›) hmem
      · simp at h
  · rintro ⟨opening, body, rest, rfl, hopening, hbody, hrest, rfl⟩
    rw [hline hopening]
    exact hbody.closeHeredoc_eq hrest _

/-! ### The marker -/

/-- What may begin an identifier may continue one. -/
theorem isIdentifierContinue_of_start {c : Char} (h : Text.isIdentifierStart c = true) :
    Text.isIdentifierContinue c = true := by
  simp only [Text.isIdentifierStart, Text.isAlphabetic, Bool.or_eq_true] at h
  simp only [Text.isIdentifierContinue, Text.isAlphanumeric, Bool.or_eq_true]
  rcases h with h | h
  · left; left
    split at h
    · simp_all
    · simp_all
  · exact .inl (.inr h)

/-- A run of name characters that begins a name is a marker. -/
theorem isMarker_takeWhile {text : List Char}
    (h : text.head?.any Text.isIdentifierStart = true) :
    IsMarker (text.takeWhile Text.isIdentifierContinue) := by
  refine ⟨?_, fun c hc => List.mem_takeWhile_imp hc⟩
  cases text with
  | nil => simp at h
  | cons c text =>
    have hc := isIdentifierContinue_of_start (by simpa using h)
    simpa [List.takeWhile_cons, hc] using h

theorem IsMarker.start_append (h : IsMarker marker) (tail : List Char) :
    (marker ++ tail).head?.any Text.isIdentifierStart = true := by
  cases marker with
  | nil => exact absurd h.start (by simp)
  | cons c marker => exact h.start

/-- The marker is the whole run of name characters. -/
theorem IsMarker.takeWhile_eq (h : IsMarker marker) {opening below : List Char}
    (hopening : ∀ c ∈ opening.head?, Text.isIdentifierContinue c = false) :
    (marker ++ (opening ++ '\n' :: below)).takeWhile Text.isIdentifierContinue = marker := by
  have hfeed : Text.isIdentifierContinue '\n' = false := by decide
  have hstop : (opening ++ '\n' :: below).takeWhile Text.isIdentifierContinue = [] := by
    cases opening with
    | nil => exact List.takeWhile_cons_of_neg (by simp [hfeed])
    | cons c opening => exact List.takeWhile_cons_of_neg (by simp [hopening c rfl])
  rw [List.takeWhile_append_of_pos h.continued, hstop, List.append_nil]

/-- A dash can be told from a marker, since it begins no name. -/
theorem heredocMarker?_eq {dash text : List Char} (hdash : dash ∈ [[], ['-']])
    (htext : text.head?.any Text.isIdentifierStart = true) :
    heredocMarker? ('<' :: (dash ++ text)) =
      some (1 + dash.length, text.takeWhile Text.isIdentifierContinue) := by
  rcases List.mem_pair.mp hdash with rfl | rfl
  · rw [List.nil_append, heredocMarker?, if_pos htext]
    · rfl
    · rintro rest rfl
      have hhyphen : Text.isIdentifierStart '-' = false := by decide
      simp [hhyphen] at htext
  · rw [List.singleton_append, heredocMarker?, if_pos htext]
    rfl

/-- What stands behind the marker. -/
theorem drop_marker (dash marker tail : List Char) :
    ('<' :: (dash ++ (marker ++ tail))).drop (1 + dash.length + marker.length) = tail := by
  rw [← List.append_assoc, ← List.cons_append]
  refine List.drop_left' ?_
  rw [List.length_cons, List.length_append]
  omega

/-! ### Heredocs as lexemes -/

/-- **Heredocs are cut off as a whole**: a lexeme is a heredoc if and only if its word is one and
a line ends behind it. -/
theorem shape_heredoc_iff {c : Char} {more rest : List Char} :
    Shape c (more ++ rest) (some .heredoc) more.length ↔ IsHeredoc (c :: more) ∧ EndsLine rest := by
  constructor
  · intro h
    generalize htext : more ++ rest = text at h
    generalize hlength : more.length = extra at h
    cases h with
    | bracket h => simp [brackets] at h
    | heredoc hmarker hclose =>
      obtain ⟨dash, hdash, named, rfl, rfl, hstart, rfl⟩ := exists_of_heredocMarker? hmarker
      have hmark := isMarker_takeWhile hstart
      -- behind the marker is what cannot continue it
      have hrun := List.takeWhile_append_dropWhile (p := Text.isIdentifierContinue) (l := named)
      have hhead : ∀ c ∈ (named.dropWhile Text.isIdentifierContinue).head?,
          Text.isIdentifierContinue c = false := by
        intro c hc
        have hnot := List.head?_dropWhile_not Text.isIdentifierContinue named
        rw [hc] at hnot
        simpa using hnot
      generalize named.takeWhile Text.isIdentifierContinue = marker at hrun hmark hclose hlength
      generalize named.dropWhile Text.isIdentifierContinue = tail at hrun hhead
      subst hrun
      rw [drop_marker] at hclose
      obtain ⟨opening, body, back, rfl, hopening, hbody, hback, rfl⟩ :=
        heredocLength?_eq_some_iff.mp hclose
      have hsplit : more ++ rest =
          ('<' :: (dash ++ (marker ++ (opening ++ '\n' :: body)))) ++ back := by
        rw [htext]
        simp
      obtain ⟨rfl, rfl⟩ := List.append_inj hsplit (by simp [hlength]; omega)
      refine ⟨.mk hdash hmark (fun c hc => hhead c ?_) hopening hbody, hback⟩
      rw [List.head?_append, hc]
      rfl
  · rintro ⟨hword, hrest⟩
    generalize hw : c :: more = word at hword
    cases hword with
    | @mk dash marker opening body hdash hmark hhead hopening hbody =>
      obtain ⟨rfl, rfl⟩ := List.cons.inj hw
      have htext : '<' :: (dash ++ (marker ++ (opening ++ '\n' :: body))) ++ rest =
          '<' :: (dash ++ (marker ++ (opening ++ '\n' :: (body ++ rest)))) := by simp
      have hmarker := heredocMarker?_eq hdash
        (hmark.start_append (opening ++ '\n' :: (body ++ rest)))
      rw [hmark.takeWhile_eq hhead] at hmarker
      have hclose : heredocLength? marker (opening ++ '\n' :: (body ++ rest)) = some _ :=
        heredocLength?_eq_some_iff.mpr ⟨opening, body, rest, rfl, hopening, hbody, hrest, rfl⟩
      rw [← drop_marker dash marker (opening ++ '\n' :: (body ++ rest))] at hclose
      have hshape := Shape.heredoc hmarker hclose
      rw [htext]
      convert hshape using 1
      simp only [List.length_cons, List.length_append]
      omega

/-- The closing line holds the marker, so that it does not end with a line feed. -/
theorem ToMarker.getLast?_ne {body : List Char} (h : ToMarker marker body) (hmarker : marker ≠ []) :
    body ≠ [] ∧ body.getLast? ≠ some '\n' := by
  induction h with
  | closing hline htrim =>
    refine ⟨?_, fun hlast => hline (List.mem_of_getLast? hlast)⟩
    rintro rfl
    exact hmarker htrim.symm
  | feed _ _ _ ih =>
    refine ⟨by simp, ?_⟩
    rw [List.getLast?_append_of_ne_nil _ (by simp), List.getLast?_cons_of_ne_nil ih.1]
    exact ih.2

theorem IsHeredoc.not_wholeLines {word : List Char} (h : IsHeredoc word) :
    ¬Position.WholeLines word := by
  cases h with
  | @mk dash marker opening body _ hmark _ _ hbody =>
    have hmarker : marker ≠ [] := by
      rintro rfl
      exact absurd hmark.start (by simp)
    obtain ⟨hne, hlast⟩ := hbody.getLast?_ne hmarker
    have hword : '<' :: '<' :: (dash ++ (marker ++ (opening ++ '\n' :: body))) =
        ('<' :: '<' :: (dash ++ (marker ++ (opening ++ ['\n'])))) ++ body := by simp
    rintro (hnil | hfeed)
    · simp at hnil
    · rw [hword, List.getLast?_append_of_ne_nil _ hne] at hfeed
      exact hlast hfeed

/-! ### Heredocs line by line -/

/-- A line holds no line feed. -/
theorem not_mem_of_mem_lines {text line : List Char} (h : line ∈ text.splitOn '\n') :
    '\n' ∉ line := by
  induction text using lines_induction with
  | last only honly =>
    rw [List.splitOn_eq_singleton honly] at h
    rwa [List.mem_singleton.mp h]
  | feed first rest hfirst ih =>
    rw [List.splitOn_append_cons_self_of_not_mem hfirst] at h
    rcases List.mem_cons.mp h with rfl | h
    · exact hfirst
    · exact ih h

/-- Where a text goes up to the marker, one of its lines closes it. -/
theorem ToMarker.exists_line {body rest : List Char} (h : ToMarker marker body)
    (hrest : EndsLine rest) :
    ∃ line ∈ (body ++ rest).splitOn '\n', Text.trim line = marker := by
  induction h with
  | @closing line hline htrim =>
    refine ⟨line, ?_, htrim⟩
    cases rest with
    | nil => simp [List.splitOn_eq_singleton hline]
    | cons c rest =>
      rw [endsLine_cons.mp hrest, List.splitOn_append_cons_self_of_not_mem hline]
      exact List.mem_cons_self
  | feed hline _ _ ih =>
    obtain ⟨line, hmem, htrim⟩ := ih
    refine ⟨line, ?_, htrim⟩
    rw [List.append_assoc, List.cons_append, List.splitOn_append_cons_self_of_not_mem hline]
    exact List.mem_cons_of_mem _ hmem

/-- Lines up to the first that closes, written one below the other. -/
theorem toMarker_intercalate {between : List (List Char)} {closing : List Char}
    (hbetween : ∀ line ∈ between, '\n' ∉ line ∧ Text.trim line ≠ marker)
    (hclosing : '\n' ∉ closing) (htrim : Text.trim closing = marker) :
    ToMarker marker (['\n'].intercalate (between ++ [closing])) := by
  induction between with
  | nil => simpa using ToMarker.closing hclosing htrim
  | cons line between ih =>
    obtain ⟨hline, hbetween⟩ := List.forall_mem_cons.mp hbetween
    rw [List.cons_append, List.intercalate_cons_of_ne_nil (by simp), List.append_assoc]
    exact .feed hline.1 hline.2 (ih hbetween)

/-- Lines written one below the other, cut behind one of them. -/
theorem exists_intercalate_eq (above : List (List Char)) (line : List Char)
    (below : List (List Char)) : ∃ rest, EndsLine rest ∧
      ['\n'].intercalate (above ++ line :: below) =
        ['\n'].intercalate (above ++ [line]) ++ rest := by
  induction above with
  | nil =>
    cases below with
    | nil => exact ⟨[], endsLine_nil, by simp⟩
    | cons next below =>
      exact ⟨'\n' :: ['\n'].intercalate (next :: below), endsLine_cons.mpr rfl, by
        simp [List.intercalate_cons_cons]⟩
  | cons first above ih =>
    obtain ⟨rest, hrest, heq⟩ := ih
    refine ⟨rest, hrest, ?_⟩
    rw [List.cons_append, List.cons_append, List.intercalate_cons_of_ne_nil (by simp),
      List.intercalate_cons_of_ne_nil (by simp), heq]
    simp

section Opened

variable {dash named : List Char}

/-- What a text that introduces a heredoc begins with. -/
theorem first_opened (hdash : dash ∈ [[], ['-']])
    (hstart : named.head?.any Text.isIdentifierStart = true) :
    first '<' ('<' :: (dash ++ named)) =
      (heredocLength? (named.takeWhile Text.isIdentifierContinue)
          (named.dropWhile Text.isIdentifierContinue)).elim (.error ⟨.heredoc, 0⟩) fun length =>
        .ok (some .heredoc,
          1 + dash.length + (named.takeWhile Text.isIdentifierContinue).length + length) := by
  have hdrop := drop_marker dash (named.takeWhile Text.isIdentifierContinue)
    (named.dropWhile Text.isIdentifierContinue)
  rw [List.takeWhile_append_dropWhile] at hdrop
  rw [first_of_not_mem_deciding (by decide), if_pos rfl, heredocMarker?_eq hdash hstart]
  cases hlength : heredocLength? (named.takeWhile Text.isIdentifierContinue)
      (named.dropWhile Text.isIdentifierContinue) with
  | none => simp only [hdrop, hlength, Option.elim]
  | some length => simp only [hdrop, hlength, Option.elim]

theorem not_mem_opener (hdash : dash ∈ [[], ['-']]) :
    '\n' ∉ '<' :: '<' :: (dash ++ named.takeWhile Text.isIdentifierContinue) := by
  have hfeed : Text.isIdentifierContinue '\n' = false := by decide
  have hmarker : '\n' ∉ named.takeWhile Text.isIdentifierContinue := by
    intro hmem
    simpa [hfeed] using List.mem_takeWhile_imp hmem
  rcases List.mem_pair.mp hdash with rfl | rfl <;> simp [hmarker]

/-- The text is what opens the heredoc, and what stands behind the marker. -/
theorem opener_append (dash named : List Char) :
    '<' :: '<' :: (dash ++ named.takeWhile Text.isIdentifierContinue) ++
      named.dropWhile Text.isIdentifierContinue = '<' :: '<' :: (dash ++ named) := by
  simp

/-- The opening line goes on behind the marker. -/
theorem exists_opening (hdash : dash ∈ [[], ['-']]) {line below : List Char}
    (h : '<' :: '<' :: (dash ++ named) = line ++ '\n' :: below) :
    ∃ opening, line = '<' :: '<' :: (dash ++ named.takeWhile Text.isIdentifierContinue) ++ opening ∧
      named.dropWhile Text.isIdentifierContinue = opening ++ '\n' :: below := by
  rw [← opener_append] at h
  rcases exists_of_append_eq_append_cons h with ⟨opening, hline, hrest⟩ | ⟨inside, hline, -⟩
  · exact ⟨opening, hline, hrest⟩
  · have hmem : '\n' ∈ '<' :: '<' :: (dash ++ named.takeWhile Text.isIdentifierContinue) := by
      rw [hline]
      simp
    exact absurd hmem (not_mem_opener hdash)

/-- **The first closing line ends the heredoc**, whatever stands above it. -/
theorem first_of_lines (hdash : dash ∈ [[], ['-']])
    (hstart : named.head?.any Text.isIdentifierStart = true)
    {line : List Char} {between below : List (List Char)} {closing : List Char}
    (hlines : ('<' :: '<' :: (dash ++ named)).splitOn '\n' = line :: (between ++ closing :: below))
    (hbetween : ∀ l ∈ between, Text.trim l ≠ named.takeWhile Text.isIdentifierContinue)
    (hclosing : Text.trim closing = named.takeWhile Text.isIdentifierContinue) :
    ∃ extra, first '<' ('<' :: (dash ++ named)) = .ok (some .heredoc, extra) ∧
      ('<' :: '<' :: (dash ++ named)).take (extra + 1) =
        ['\n'].intercalate (line :: (between ++ [closing])) := by
  have hfree : ∀ l ∈ line :: (between ++ closing :: below), '\n' ∉ l := fun l hl =>
    not_mem_of_mem_lines (hlines ▸ hl)
  have hbody : ToMarker (named.takeWhile Text.isIdentifierContinue)
      (['\n'].intercalate (between ++ [closing])) :=
    toMarker_intercalate (fun l hl => ⟨hfree l (by simp [hl]), hbetween l hl⟩)
      (hfree closing (by simp)) hclosing
  obtain ⟨rest, hrest, hcut⟩ := exists_intercalate_eq between closing below
  -- the text is its lines, so the opening line and the body are found in it
  have htext : '<' :: '<' :: (dash ++ named) =
      line ++ '\n' :: (['\n'].intercalate (between ++ [closing]) ++ rest) := by
    have hwhole : ['\n'].intercalate (('<' :: '<' :: (dash ++ named)).splitOn '\n') =
        '<' :: '<' :: (dash ++ named) := List.intercalate_splitOn '\n'
    rw [← hcut, ← hwhole, hlines, List.intercalate_cons_of_ne_nil (by simp), List.append_assoc]
    rfl
  obtain ⟨opening, hopening, htail⟩ := exists_opening hdash htext
  have hfeed : '\n' ∉ opening := by
    have hline := hfree line List.mem_cons_self
    rw [hopening] at hline
    exact fun hmem => hline (List.mem_append_right _ hmem)
  have hlength := heredocLength?_eq_some_iff.mpr ⟨opening, _, rest, htail, hfeed, hbody, hrest, rfl⟩
  refine ⟨_, by rw [first_opened hdash hstart, hlength, Option.elim_some], ?_⟩
  have hword : line ++ '\n' :: (['\n'].intercalate (between ++ [closing]) ++ rest) =
      ['\n'].intercalate (line :: (between ++ [closing])) ++ rest := by
    rw [List.intercalate_cons_of_ne_nil (by simp)]
    simp
  rw [htext, hword]
  refine List.take_left' ?_
  rw [List.intercalate_cons_of_ne_nil (by simp)]
  simp only [hopening, List.length_append, List.length_cons, List.length_nil]
  omega

/-- Where there is a heredoc, a line closes it. -/
theorem exists_closing_line (hdash : dash ∈ [[], ['-']])
    (hstart : named.head?.any Text.isIdentifierStart = true) {kind : Option Kind} {extra : Nat}
    (h : first '<' ('<' :: (dash ++ named)) = .ok (kind, extra)) :
    ∃ line ∈ (('<' :: '<' :: (dash ++ named)).splitOn '\n').tail,
      Text.trim line = named.takeWhile Text.isIdentifierContinue := by
  rw [first_opened hdash hstart] at h
  cases hlength : heredocLength? (named.takeWhile Text.isIdentifierContinue)
      (named.dropWhile Text.isIdentifierContinue) with
  | none => simp [hlength] at h
  | some length =>
    obtain ⟨opening, body, rest, htail, hopening, hbody, hrest, -⟩ :=
      heredocLength?_eq_some_iff.mp hlength
    obtain ⟨line, hline, htrim⟩ := hbody.exists_line hrest
    have hfree : '\n' ∉ '<' :: '<' :: (dash ++ named.takeWhile Text.isIdentifierContinue) ++
        opening :=
      List.mem_append.not.mpr (not_or.mpr ⟨not_mem_opener hdash, hopening⟩)
    refine ⟨line, ?_, htrim⟩
    rw [← opener_append, htail, ← List.append_assoc,
      List.splitOn_append_cons_self_of_not_mem hfree, List.tail_cons]
    exact hline

/-- **Heredocs end at the first closing line.** Where a text introduces a heredoc, there is one if
and only if some line below the opening line is the marker but for blanks at its ends. It then
goes up to the end of the first such line, and takes nothing behind. If there is no such line,
reading fails there: a heredoc is left open at the place of the angle brackets. -/
theorem heredoc_lines (hdash : dash ∈ [[], ['-']])
    (hstart : named.head?.any Text.isIdentifierStart = true) :
    let text := '<' :: '<' :: (dash ++ named)
    let marker := named.takeWhile Text.isIdentifierContinue
    ((∃ extra, first '<' text.tail = .ok (some .heredoc, extra)) ↔
        ∃ line ∈ (text.splitOn '\n').tail, Text.trim line = marker) ∧
      (∀ opening between closing below,
        text.splitOn '\n' = opening :: (between ++ closing :: below) →
        (∀ line ∈ between, Text.trim line ≠ marker) → Text.trim closing = marker →
        ∃ extra, first '<' text.tail = .ok (some .heredoc, extra) ∧
          text.take (extra + 1) = ['\n'].intercalate (opening :: (between ++ [closing]))) ∧
      ((∀ line ∈ (text.splitOn '\n').tail, Text.trim line ≠ marker) →
        ∀ (file : String) (before : List Char) (lexemes : List Lexeme),
          Cut (before ++ text) lexemes text →
          Token.lex file (String.ofList (before ++ text)) =
            .error ⟨file, .heredoc, Position.behind before⟩) := by
  intro text marker
  refine ⟨⟨?_, ?_⟩, ?_, ?_⟩
  · rintro ⟨extra, hfirst⟩
    exact exists_closing_line hdash hstart hfirst
  · rintro ⟨line, hline, htrim⟩
    -- of the lines that close, the first
    obtain ⟨closing, hclosing⟩ : ∃ closing,
        (text.splitOn '\n').tail.find? (fun l => Text.trim l = marker) = some closing :=
      Option.isSome_iff_exists.mp (List.find?_isSome.mpr ⟨line, hline, by simpa using htrim⟩)
    obtain ⟨hmatch, between, below, htail, hbetween⟩ := List.find?_eq_some_iff_append.mp hclosing
    have hlines : text.splitOn '\n' =
        (text.splitOn '\n').head (List.splitOn_ne_nil _ _) :: (between ++ closing :: below) := by
      rw [← htail, List.cons_head_tail]
    obtain ⟨extra, hfirst, -⟩ := first_of_lines hdash hstart hlines
      (fun l hl => by simpa using hbetween l hl) (by simpa using hmatch)
    exact ⟨extra, hfirst⟩
  · intro opening between closing below hlines hbetween hclosing
    exact first_of_lines hdash hstart hlines hbetween hclosing
  · intro hnone file before lexemes hcut
    have hopen : first '<' text.tail = .error ⟨.heredoc, 0⟩ := by
      have hopened := first_opened hdash hstart
      cases hlength : heredocLength? (named.takeWhile Text.isIdentifierContinue)
          (named.dropWhile Text.isIdentifierContinue) with
      | none => rwa [hlength, Option.elim_none] at hopened
      | some length =>
        rw [hlength, Option.elim_some] at hopened
        obtain ⟨line, hline, htrim⟩ := exists_closing_line hdash hstart hopened
        exact absurd htrim (hnone line hline)
    have hbefore : before = written lexemes := List.append_cancel_right hcut.eq_written
    rw [Token.lex_eq_error_iff, String.toList_ofList]
    refine ⟨_, hcut.split_eq_error hopen, ?_⟩
    simp [Unterminated.shift, ← hbefore]

end Opened

/-- An interpolation and the marker on the opening line, lines with the marker inside, and a closing
line with blanks around the marker; and, on a second line, a heredoc whose marker only begins the
lines below. -/
theorem heredoc_lines_indented :
    (∃ extra, first '<' "<-E $\x7b E\n\" E \"\n\u00a0E\t\r\n\x7d".toList =
        .ok (some .heredoc, extra) ∧
      "<<-E $\x7b E\n\" E \"\n\u00a0E\t\r\n\x7d".toList.take (extra + 1) =
        "<<-E $\x7b E\n\" E \"\n\u00a0E\t\r".toList) ∧
    Token.lex "m" (String.ofList ("\n".toList ++ "<<E\nEE\n E.\n".toList)) =
      .error ⟨"m", .heredoc, ⟨2, 1, 1⟩⟩ := by
  constructor
  · exact (@heredoc_lines ['-'] "E $\x7b E\n\" E \"\n\u00a0E\t\r\n\x7d".toList
      (by decide) (by decide +kernel)).2.1 "<<-E $\x7b E".toList ["\" E \"".toList]
        "\u00a0E\t\r".toList ["\x7d".toList] (by decide +kernel) (by decide +kernel) (by decide +kernel)
  · exact (@heredoc_lines [] "E\nEE\n E.\n".toList (by decide)
      (by decide +kernel)).2.2 (by decide +kernel) "m" "\n".toList [⟨some .newline, ['\n']⟩]
        (.cons .lineFeed (.done _))

end Lexeme

end TerraLint
