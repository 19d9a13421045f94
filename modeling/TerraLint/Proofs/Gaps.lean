import Mathlib
import TerraLint.Rule.Spacing

/-!
# The blocks that the scan for gaps reports

The scan for gaps goes over the tokens once and remembers one number: how many blocks
are open or, in a gap, how many line breaks it has seen. What it reports can be said
without a scan (`TerraLint.Spacing.IsMisplaced`), by looking at one place of the token
list: a token of content is at fault if nothing but line breaks, comments and closing
braces separates it from a brace that closes a top-level block, and the line breaks
behind the last of the closing braces are not two. The theorem of this file is that these
are the tokens reported, in their order (`TerraLint.Spacing.violations_indices`).

The two sides count braces differently. The scan does not count them inside a gap, where
it passes over closing braces, and it leaves a gap at the end of the file; the depth of
braces (`TerraLint.Spacing.depth`) is counted over all tokens. They agree because a
closing brace without an open one changes nothing, so that the depth is zero all through
a gap (`TerraLint.Spacing.Tracks`).
-/

namespace TerraLint.Spacing

/-! ### Misplaced tokens -/

/-- How many braces are open behind a token, given how many are in front of it. A closing
brace without an open one closes nothing. -/
def depthBehind (depth : Nat) (t : Token) : Nat :=
  match t.kind with
  | .openBrace => depth + 1
  | .closeBrace => depth - 1
  | _ => depth

/-- How many braces are open behind tokens. -/
def depth (tokens : List Token) : Nat := tokens.foldl depthBehind 0

/-- The number of line breaks behind the last closing brace among tokens. -/
def lineBreaks (tokens : List Token) : Nat :=
  (tokens.rtakeWhile fun t => t.kind != .closeBrace).countP fun t => t.kind == .newline

/-- The tokens that a gap is made of. -/
def IsFiller (t : Token) : Prop := t.kind ∈ [Kind.newline, .comment, .closeBrace]

/-- The tokens that can be at fault: those that neither belong to a gap nor end the file. -/
def IsContent (t : Token) : Prop := t.kind ∉ [Kind.newline, .comment, .closeBrace, .endOfFile]

instance (t : Token) : Decidable (IsContent t) := inferInstanceAs (Decidable (_ ∉ _))

/-- At an index stands a brace that takes the depth from one to zero. -/
def ClosesBlock (tokens : List Token) (i : Nat) : Prop :=
  (∃ t, tokens[i]? = some t ∧ t.kind = .closeBrace) ∧
    depth (tokens.take i) = 1 ∧ depth (tokens.take (i + 1)) = 0

/-- The token at an index follows a top-level block without exactly one empty line in
between. -/
structure IsMisplaced (tokens : List Token) (j : Nat) : Prop where
  isContent : ∃ t, tokens[j]? = some t ∧ IsContent t
  behindBlock : ∃ i < j, ClosesBlock tokens i ∧
    ∀ k, i < k → k < j → ∃ t, tokens[k]? = some t ∧ IsFiller t
  lineBreaks_ne : lineBreaks (tokens.take j) ≠ 2

/-! ### One token more -/

variable {tokens front rest : List Token} {t : Token}

theorem depth_concat : depth (tokens ++ [t]) = depthBehind (depth tokens) t := by
  simp [depth]

theorem lineBreaks_concat_of_closeBrace (h : t.kind = .closeBrace) :
    lineBreaks (tokens ++ [t]) = 0 := by
  rw [lineBreaks, List.rtakeWhile_concat_neg _ _ _ (by simp [h]), List.countP_nil]

theorem lineBreaks_concat (h : t.kind ≠ .closeBrace) :
    lineBreaks (tokens ++ [t]) = lineBreaks tokens + if t.kind = .newline then 1 else 0 := by
  rw [lineBreaks, List.rtakeWhile_concat_pos _ _ _ (by simpa using h), List.countP_append,
    ← lineBreaks, List.countP_singleton]
  simp

/-- Behind a closing brace line breaks are counted from the beginning. -/
theorem lineBreaks_append_cons (h : t.kind = .closeBrace) {gap : List Token}
    (hgap : ∀ u ∈ gap, u.kind ≠ .closeBrace) :
    lineBreaks (front ++ t :: gap) = gap.countP fun u => u.kind == .newline := by
  induction gap using List.reverseRecOn with
  | nil => rw [lineBreaks_concat_of_closeBrace h, List.countP_nil]
  | append_singleton gap u ih =>
    rw [← List.cons_append, ← List.append_assoc, lineBreaks_concat (hgap u (by simp)),
      ih fun v hv => hgap v (by simp [hv]), List.countP_append, List.countP_singleton]
    simp

/-- The tokens end in the gap behind a top-level block. -/
def EndsInGap (tokens : List Token) : Prop :=
  ∃ front brace gap, tokens = front ++ brace :: gap ∧ brace.kind = .closeBrace ∧
    depth front = 1 ∧ ∀ t ∈ gap, IsFiller t

theorem not_endsInGap_nil : ¬EndsInGap [] := by
  rintro ⟨front, brace, gap, h, -⟩
  simp at h

/-- A gap begins with the brace that closes a block, and goes on with what gaps are made of. -/
theorem endsInGap_concat :
    EndsInGap (tokens ++ [t]) ↔
      (t.kind = .closeBrace ∧ depth tokens = 1) ∨ (IsFiller t ∧ EndsInGap tokens) := by
  constructor
  · rintro ⟨front, brace, gap, heq, hbrace, hdepth, hgap⟩
    rcases List.eq_nil_or_concat gap with rfl | ⟨gap, last, rfl⟩
    · obtain ⟨rfl, rfl⟩ := List.append_inj' heq rfl |>.imp_right List.singleton_inj.mp
      exact .inl ⟨hbrace, hdepth⟩
    · rw [List.concat_eq_append, ← List.cons_append, ← List.append_assoc] at heq
      obtain ⟨rfl, rfl⟩ := List.append_inj' heq rfl |>.imp_right List.singleton_inj.mp
      refine .inr ⟨hgap t (by simp), front, brace, gap, rfl, hbrace, hdepth, fun u hu => ?_⟩
      exact hgap u (by simp [hu])
  · rintro (⟨hbrace, hdepth⟩ | ⟨ht, front, brace, gap, rfl, hbrace, hdepth, hgap⟩)
    · exact ⟨tokens, t, [], rfl, hbrace, hdepth, by simp⟩
    · refine ⟨front, brace, gap ++ [t], by simp, hbrace, hdepth, fun u hu => ?_⟩
      rcases List.mem_append.mp hu with hu | hu
      · exact hgap u hu
      · rwa [List.mem_singleton.mp hu]

/-- The brace that closes the block is found by its index, or by cutting the tokens there. -/
theorem behindBlock_iff :
    (∃ i < front.length, ClosesBlock (front ++ rest) i ∧
        ∀ k, i < k → k < front.length → ∃ t, (front ++ rest)[k]? = some t ∧ IsFiller t) ↔
      EndsInGap front := by
  constructor
  · rintro ⟨i, hi, ⟨⟨brace, hget, hbrace⟩, hdepth, -⟩, hgap⟩
    rw [List.getElem?_append_left hi] at hget
    rw [List.take_append_of_le_length hi.le] at hdepth
    refine ⟨front.take i, brace, front.drop (i + 1), ?_, hbrace, hdepth, fun t ht => ?_⟩
    · obtain ⟨_, rfl⟩ := List.getElem?_eq_some_iff.mp hget
      rw [← List.drop_eq_getElem_cons hi, List.take_append_drop]
    · obtain ⟨m, hm⟩ := List.mem_iff_getElem?.mp ht
      rw [List.getElem?_drop] at hm
      have hlt : i + 1 + m < front.length := (List.getElem?_eq_some_iff.mp hm).1
      obtain ⟨u, hu, hfiller⟩ := hgap (i + 1 + m) (by omega) hlt
      rw [List.getElem?_append_left hlt, hm] at hu
      rwa [Option.some.inj hu]
  · rintro ⟨before, brace, gap, rfl, hbrace, hdepth, hgap⟩
    refine ⟨before.length, by simp, ⟨⟨brace, by simp, hbrace⟩, by simpa using hdepth, ?_⟩, ?_⟩
    · have htake : (before ++ brace :: gap ++ rest).take (before.length + 1) =
          before ++ [brace] := by
        simp [List.take_append]
      rw [htake, depth_concat, hdepth, depthBehind, hbrace]
    · intro k hk hlt
      obtain ⟨m, rfl⟩ : ∃ m, k = before.length + (m + 1) := ⟨k - before.length - 1, by omega⟩
      have hm : m < gap.length := by simpa using hlt
      refine ⟨gap[m], ?_, hgap _ (List.getElem_mem hm)⟩
      simp [List.getElem?_append_right, List.getElem?_append_left hm]

/-- Whether a token is misplaced is decided by the tokens in front of it. -/
theorem isMisplaced_length :
    IsMisplaced (front ++ t :: rest) front.length ↔
      IsContent t ∧ EndsInGap front ∧ lineBreaks front ≠ 2 := by
  have hget : (front ++ t :: rest)[front.length]? = some t := by simp
  have htake : (front ++ t :: rest).take front.length = front := by simp
  constructor
  · rintro ⟨⟨u, hu, hcontent⟩, hblock, hbreaks⟩
    rw [hget] at hu
    obtain rfl := Option.some.inj hu
    rw [htake] at hbreaks
    exact ⟨hcontent, behindBlock_iff.mp hblock, hbreaks⟩
  · rintro ⟨hcontent, hgap, hbreaks⟩
    exact ⟨⟨t, hget, hcontent⟩, behindBlock_iff.mpr hgap, by rwa [htake]⟩

/-! ### The scan -/

/-- The state behind a token of a kind. -/
def State.behind : State → Kind → State
  | .inside depth, kind => enter depth kind
  | .gap lineBreaks, .newline => .gap (lineBreaks + 1)
  | .gap lineBreaks, .comment => .gap lineBreaks
  | .gap _, .closeBrace => .gap 0
  | .gap _, kind => enter 0 kind

/-- In this state the scan finds fault with a token. -/
def State.Reports (state : State) (t : Token) : Prop :=
  IsContent t ∧ ∃ n, state = .gap n ∧ n ≠ 2

/-- What the scan does at one token. -/
theorem violationsFrom_cons (state : State) (t : Token) (rest : List Token) :
    (state.Reports t ∧
        violationsFrom state (t :: rest) = t :: violationsFrom (state.behind t.kind) rest) ∨
      (¬state.Reports t ∧
        violationsFrom state (t :: rest) = violationsFrom (state.behind t.kind) rest) := by
  cases state with
  | inside depth => exact .inr ⟨by simp [State.Reports], rfl⟩
  | gap n =>
    simp only [State.Reports, IsContent, violationsFrom]
    split
    case h_5 => by_cases hn : n = 2 <;> simp_all [State.behind]
    all_goals exact .inr ⟨by simp_all, by simp_all [State.behind, enter]⟩

/-- The state behind tokens. -/
def State.after (state : State) (tokens : List Token) : State :=
  tokens.foldl (fun state t => state.behind t.kind) state

/-- **A scan in two parts**: the second goes on where the first has come to. -/
theorem violationsFrom_append (state : State) (a b : List Token) :
    violationsFrom state (a ++ b) = violationsFrom state a ++ violationsFrom (state.after a) b := by
  induction a generalizing state with
  | nil => simp [violationsFrom, State.after]
  | cons t a ih =>
    have hafter : state.after (t :: a) = (state.behind t.kind).after a := rfl
    rw [hafter]
    rcases violationsFrom_cons state t (a ++ b) with ⟨h, hlong⟩ | ⟨h, hlong⟩
    all_goals rcases violationsFrom_cons state t a with ⟨h', hshort⟩ | ⟨h', hshort⟩
    · rw [List.cons_append, hlong, hshort, ih, List.cons_append]
    · exact absurd h h'
    · exact absurd h' h
    · rw [List.cons_append, hlong, hshort, ih]

/-- The scan looks at kinds only: on two lists of tokens of the same kinds it reports the tokens
in the same places. -/
theorem exists_violationsFrom {ι : Type} (items : List ι) (a b : ι → Token)
    (h : ∀ i ∈ items, (a i).kind = (b i).kind) (state : State) :
    ∃ found : List ι, found.Sublist items ∧ violationsFrom state (items.map a) = found.map a ∧
      violationsFrom state (items.map b) = found.map b := by
  induction items generalizing state with
  | nil => exact ⟨[], .refl _, rfl, rfl⟩
  | cons i items ih =>
    obtain ⟨hkind, hitems⟩ := List.forall_mem_cons.mp h
    obtain ⟨found, hsub, ha, hb⟩ := ih hitems (state.behind (a i).kind)
    have hreports : state.Reports (a i) ↔ state.Reports (b i) := by
      simp only [State.Reports, IsContent, hkind]
    simp only [List.map_cons]
    rcases violationsFrom_cons state (a i) (items.map a) with ⟨hr, hra⟩ | ⟨hr, hra⟩
    all_goals rcases violationsFrom_cons state (b i) (items.map b) with ⟨hr', hrb⟩ | ⟨hr', hrb⟩
    · refine ⟨i :: found, hsub.cons_cons i, ?_, ?_⟩
      · rw [hra, ha, List.map_cons]
      · rw [hrb, ← hkind, hb, List.map_cons]
    · exact absurd (hreports.mp hr) hr'
    · exact absurd (hreports.mpr hr') hr
    · refine ⟨found, hsub.cons i, ?_, ?_⟩
      · rw [hra, ha]
      · rw [hrb, ← hkind, hb]

/-- On tokens of the same kinds the scan reports the same indices. -/
theorem exists_violations_get {tokens' : List Token}
    (h : tokens'.map Token.kind = tokens.map Token.kind) (hlength : tokens.length = tokens'.length) :
    ∃ reported : List (Fin tokens.length), violations tokens = reported.map tokens.get ∧
      violations tokens' = reported.map fun i => tokens'.get (i.cast hlength) := by
  have hkind (i : Fin tokens.length) : (tokens.get i).kind = (tokens'.get (i.cast hlength)).kind := by
    have hi : i.val < tokens'.length := hlength ▸ i.isLt
    have hkinds := congrArg (fun kinds => kinds[i.val]?) h
    simpa [List.getElem?_eq_getElem hi] using hkinds.symm
  have htokens' : ((List.finRange tokens.length).map fun i => tokens'.get (i.cast hlength)) =
      tokens' := List.ext_getElem (by simp [hlength]) (by simp)
  obtain ⟨reported, -, hold, hnew⟩ := exists_violationsFrom (List.finRange tokens.length) tokens.get
    (fun i => tokens'.get (i.cast hlength)) (fun i _ => hkind i) (.inside 0)
  rw [List.map_get_finRange] at hold
  rw [htokens'] at hnew
  exact ⟨reported, hold, hnew⟩

/-- Without tokens of content there is nothing to report. -/
theorem violationsFrom_eq_nil (state : State) (h : ∀ t ∈ tokens, ¬IsContent t) :
    violationsFrom state tokens = [] := by
  induction tokens generalizing state with
  | nil => simp [violationsFrom]
  | cons t tokens ih =>
    obtain ⟨ht, htokens⟩ := List.forall_mem_cons.mp h
    rcases violationsFrom_cons state t tokens with ⟨hreports, -⟩ | ⟨-, hrest⟩
    · exact absurd hreports.1 ht
    · rw [hrest, ih _ htokens]

/-- What stands behind the last token of content does not matter. -/
theorem violations_append_eq (tokens : List Token) (h : ∀ t ∈ rest, ¬IsContent t) :
    violations (tokens ++ rest) = violations tokens := by
  rw [violations, violationsFrom_append, violationsFrom_eq_nil _ h, List.append_nil, violations]

/-- The tokens that a scan reports are among the tokens scanned, in their order. -/
theorem violationsFrom_sublist (state : State) (tokens : List Token) :
    (violationsFrom state tokens).Sublist tokens := by
  obtain ⟨found, hsub, hfound, -⟩ :=
    exists_violationsFrom tokens id id (fun _ _ => rfl) state
  rw [List.map_id, List.map_id] at hfound
  rwa [hfound]

/-- In a gap the scan passes over line breaks, which it counts, and comments. -/
theorem violationsFrom_gap {gap : List Token}
    (hgap : ∀ t ∈ gap, t.kind = .newline ∨ t.kind = .comment) (n : Nat) (rest : List Token) :
    violationsFrom (.gap n) (gap ++ rest) =
      violationsFrom (.gap (n + gap.countP fun t => t.kind == .newline)) rest := by
  induction gap generalizing n with
  | nil => simp
  | cons t gap ih =>
    obtain ⟨ht, hgap⟩ := List.forall_mem_cons.mp hgap
    rw [List.cons_append, violationsFrom, List.countP_cons]
    rcases ht with ht | ht
    · simp only [ht, ih hgap, beq_self_eq_true, if_true]
      congr 2
      omega
    · simp [ht, ih hgap]

/-- Any other token ends the gap, and is reported there if it is content and the line breaks are
not two. How many there were is then forgotten. -/
theorem violationsFrom_gap_cons (ht : t.kind ≠ .newline ∧ t.kind ≠ .comment) (n : Nat)
    (rest : List Token) :
    violationsFrom (.gap n) (t :: rest) =
      (if IsContent t ∧ n ≠ 2 then [t] else []) ++
        violationsFrom ((State.gap 0).behind t.kind) rest := by
  have hbehind : (State.gap n).behind t.kind = (State.gap 0).behind t.kind := by
    unfold State.behind
    split <;> simp_all
  have hreports : (State.gap n).Reports t ↔ IsContent t ∧ n ≠ 2 := by
    simp [State.Reports]
  rcases violationsFrom_cons (.gap n) t rest with ⟨hr, hrest⟩ | ⟨hr, hrest⟩
  · rw [hrest, if_pos (hreports.mp hr), hbehind, List.singleton_append]
  · rw [hrest, if_neg (hreports.not.mp hr), hbehind, List.nil_append]

/-- What the state of the scan says of the tokens in front of it. In a gap the depth is zero,
and stays so at a closing brace: the scan need not count. -/
def Tracks (front : List Token) : State → Prop
  | .inside n => depth front = n ∧ ¬EndsInGap front
  | .gap n => depth front = 0 ∧ EndsInGap front ∧ lineBreaks front = n

/-- Outside a gap, or at a token that ends it, the scan counts braces. -/
theorem tracks_enter (h : ¬(IsFiller t ∧ EndsInGap front)) :
    Tracks (front ++ [t]) (enter (depth front) t.kind) := by
  have hgap : EndsInGap (front ++ [t]) ↔ t.kind = .closeBrace ∧ depth front = 1 := by
    rw [endsInGap_concat]
    exact or_iff_left h
  unfold enter
  split
  · rename_i hkind
    exact ⟨by simp [depth_concat, depthBehind, hkind], by simp [hgap, hkind]⟩
  · rename_i hkind
    split
    · rename_i hdepth
      exact ⟨by simp [depth_concat, depthBehind, hkind, hdepth], by simp [hgap, hdepth]⟩
    · rename_i hdepth
      exact ⟨by simp [depth_concat, depthBehind, hkind, hdepth], hgap.mpr ⟨hkind, hdepth⟩,
        lineBreaks_concat_of_closeBrace hkind⟩
    · rename_i n hdepth
      exact ⟨by simp [depth_concat, depthBehind, hkind, hdepth], by simp [hgap, hdepth]⟩
  · rename_i hopen hclose
    refine ⟨?_, fun hends => hclose (hgap.mp hends).1⟩
    rw [depth_concat, depthBehind]
    split <;> simp_all

/-- In a gap the scan counts line breaks. -/
theorem tracks_gap (ht : IsFiller t) (hdepth : depth front = 0) (hgap : EndsInGap front) :
    Tracks (front ++ [t]) (.gap (lineBreaks (front ++ [t]))) := by
  refine ⟨?_, endsInGap_concat.mpr (.inr ⟨ht, hgap⟩), rfl⟩
  rw [depth_concat, hdepth, depthBehind]
  split <;> simp_all [IsFiller]

/-- **One token.** The state behind it says of the tokens up to it what the state in front said
of the tokens before. -/
theorem Tracks.step {state : State} (h : Tracks front state) (t : Token) :
    Tracks (front ++ [t]) (state.behind t.kind) := by
  cases state with
  | inside n =>
    obtain ⟨rfl, hgap⟩ := h
    exact tracks_enter fun hfiller => hgap hfiller.2
  | gap n =>
    obtain ⟨hdepth, hgap, rfl⟩ := h
    by_cases ht : IsFiller t
    · have hstate : (State.gap (lineBreaks front)).behind t.kind =
          .gap (lineBreaks (front ++ [t])) := by
        rcases List.mem_cons.mp ht with hkind | ht
        · simp [State.behind, hkind, lineBreaks_concat]
        · rcases List.mem_pair.mp ht with hkind | hkind
          · simp [State.behind, hkind, lineBreaks_concat]
          · simp [State.behind, hkind, lineBreaks_concat_of_closeBrace]
      rw [hstate]
      exact tracks_gap ht hdepth hgap
    · have hstate : (State.gap (lineBreaks front)).behind t.kind = enter (depth front) t.kind := by
        unfold State.behind
        split <;> simp_all [IsFiller]
      rw [hstate]
      exact tracks_enter fun hfiller => ht hfiller.1

theorem Tracks.after {state : State} (h : Tracks front state) (rest : List Token) :
    Tracks (front ++ rest) (state.after rest) := by
  induction rest generalizing front state with
  | nil => simpa [State.after] using h
  | cons t rest ih =>
    have hrest := ih (h.step t)
    rw [List.append_assoc] at hrest
    exact hrest

/-- The state behind the first tokens of a file says how many braces they leave open. -/
theorem tracks_start (front : List Token) : Tracks front ((State.inside 0).after front) := by
  have hstart : Tracks [] (.inside 0) := ⟨rfl, not_endsInGap_nil⟩
  simpa using hstart.after front

/-- Behind the brace that closes a top-level block a gap begins. -/
theorem after_closing (hbrace : t.kind = .closeBrace) (hdepth : depth front = 1) :
    (State.inside 0).after (front ++ [t]) = .gap 0 := by
  have hafter : (State.inside 0).after (front ++ [t]) =
      ((State.inside 0).after front).behind t.kind := by
    simp [State.after]
  have htracks := tracks_start front
  rw [hafter]
  cases hstate : (State.inside 0).after front with
  | inside n =>
    rw [hstate] at htracks
    obtain rfl : n = 1 := htracks.1.symm.trans hdepth
    rw [State.behind, hbrace]
    rfl
  | gap n =>
    rw [hstate] at htracks
    exact absurd (htracks.1.symm.trans hdepth) (by decide)

/-- The scan reports the token that it has reached if it is misplaced. -/
theorem Tracks.reports_iff {state : State} (h : Tracks front state) :
    state.Reports t ↔ IsMisplaced (front ++ t :: rest) front.length := by
  rw [isMisplaced_length, State.Reports]
  refine and_congr_right fun _ => ?_
  cases state with
  | inside n => simp [h.2]
  | gap n => simp [h.2.1, h.2.2]

/-- **The rest of a scan.** The induction is on the tokens that are left; those that the scan has
passed stay in view, since it is by them that a token is judged. -/
theorem violationsFrom_indices {state : State} (h : Tracks front state) (rest : List Token) :
    ∃ indices : List Nat, indices.Pairwise (· < ·) ∧
      (∀ j, j ∈ indices ↔ front.length ≤ j ∧ IsMisplaced (front ++ rest) j) ∧
      (violationsFrom state rest).map some = indices.map fun j => (front ++ rest)[j]? := by
  induction rest generalizing front state with
  | nil =>
    refine ⟨[], .nil, fun j => ?_, by simp [violationsFrom]⟩
    simp only [List.not_mem_nil, List.append_nil, false_iff, not_and]
    rintro hle ⟨⟨t, ht, -⟩, -, -⟩
    have hlt := (List.getElem?_eq_some_iff.mp ht).1
    omega
  | cons t rest ih =>
    obtain ⟨indices, hsorted, hmem, hmap⟩ := ih (h.step t)
    rw [List.append_assoc, List.singleton_append] at hmem hmap
    have hlater : ∀ j ∈ indices, front.length < j := fun j hj => by
      simpa using ((hmem j).mp hj).1
    rcases violationsFrom_cons state t rest with ⟨hreports, hrest⟩ | ⟨hreports, hrest⟩
    · refine ⟨front.length :: indices, List.pairwise_cons.mpr ⟨hlater, hsorted⟩, fun j => ?_, ?_⟩
      · rw [List.mem_cons, hmem, List.length_append, List.length_singleton]
        constructor
        · rintro (rfl | ⟨hle, hj⟩)
          · exact ⟨le_rfl, h.reports_iff.mp hreports⟩
          · exact ⟨by omega, hj⟩
        · rintro ⟨hle, hj⟩
          rcases hle.eq_or_lt with rfl | hlt
          · exact .inl rfl
          · exact .inr ⟨hlt, hj⟩
      · simp [hrest, hmap]
    · refine ⟨indices, hsorted, fun j => ?_, by rw [hrest, hmap]⟩
      rw [hmem, List.length_append, List.length_singleton]
      refine and_congr_left fun hj => ⟨fun hle => by omega, fun hle => ?_⟩
      rcases hle.eq_or_lt with rfl | hlt
      · exact absurd (h.reports_iff.mpr hj) hreports
      · exact hlt

/-- A token that stands in one place only is reported if it is misplaced there. -/
theorem mem_violations_iff (hnodup : (front ++ t :: rest).Nodup) :
    t ∈ violations (front ++ t :: rest) ↔ IsContent t ∧ EndsInGap front ∧ lineBreaks front ≠ 2 := by
  have hstart : Tracks [] (.inside 0) := ⟨rfl, not_endsInGap_nil⟩
  obtain ⟨indices, -, hmem, hmap⟩ := violationsFrom_indices hstart (front ++ t :: rest)
  rw [List.nil_append] at hmem hmap
  have hget : (front ++ t :: rest)[front.length]? = some t := by simp
  calc t ∈ violations (front ++ t :: rest)
      ↔ some t ∈ (violations (front ++ t :: rest)).map some := by simp
    _ ↔ ∃ j ∈ indices, (front ++ t :: rest)[j]? = some t := by
      rw [violations, hmap, List.mem_map]
    _ ↔ front.length ∈ indices := by
      constructor
      · rintro ⟨j, hj, hjget⟩
        have hlt := (List.getElem?_eq_some_iff.mp hjget).1
        rwa [← (List.getElem?_inj hlt hnodup).mp (hjget.trans hget.symm)]
      · exact fun hj => ⟨_, hj, hget⟩
    _ ↔ IsContent t ∧ EndsInGap front ∧ lineBreaks front ≠ 2 := by
      rw [hmem, isMisplaced_length, List.length_nil]
      simp

/-- Behind a top-level block and a gap of line breaks and comments, a token is reported unless
the line breaks are two. -/
theorem mem_violations_iff_countP {brace next : Token} {gap : List Token}
    (hnodup : (front ++ brace :: (gap ++ next :: rest)).Nodup) (hbrace : brace.kind = .closeBrace)
    (hdepth : depth front = 1) (hgap : ∀ u ∈ gap, u.kind = .newline ∨ u.kind = .comment)
    (hnext : IsContent next) :
    next ∈ violations (front ++ brace :: (gap ++ next :: rest)) ↔
      gap.countP (fun u => u.kind == .newline) ≠ 2 := by
  have hfiller : ∀ u ∈ gap, IsFiller u ∧ u.kind ≠ .closeBrace := by
    intro u hu
    rcases hgap u hu with hkind | hkind <;> simp [IsFiller, hkind]
  have hends : EndsInGap (front ++ brace :: gap) :=
    ⟨front, brace, gap, rfl, hbrace, hdepth, fun u hu => (hfiller u hu).1⟩
  rw [← List.cons_append, ← List.append_assoc] at hnodup ⊢
  rw [mem_violations_iff hnodup, lineBreaks_append_cons hbrace fun u hu => (hfiller u hu).2]
  simp [hnext, hends]

/-- **The tokens that are reported** are the misplaced ones, each once and in their order. -/
theorem violations_indices (tokens : List Token) :
    ∃ indices : List Nat, indices.Pairwise (· < ·) ∧
      (∀ j, j ∈ indices ↔ IsMisplaced tokens j) ∧
      (violations tokens).map some = indices.map fun j => tokens[j]? := by
  have hstart : Tracks [] (.inside 0) := ⟨rfl, not_endsInGap_nil⟩
  simpa [violations] using violationsFrom_indices hstart tokens

end TerraLint.Spacing
