import TerraLint.Proofs.Json.Writing
import TerraLint.Report.Exchange

/-!
# Reports are read back

A report that has been written is read back as it was
(`TerraLint.Report.read_back`), if its numbers fit into 64 bits. The way there has
two halves: the text gives back the value that was written, and the value gives back the
report, part by part.
-/

namespace TerraLint

/-! ### Numbers that fit into 64 bits -/

/-- The line, the column and the byte fit into 64 bits. -/
def Position.Fits (p : Position) : Prop := p.line < 2 ^ 64 ∧ p.column < 2 ^ 64 ∧ p.byte < 2 ^ 64

/-- Both ends fit into 64 bits. -/
def Span.Fits (s : Span) : Prop := s.start.Fits ∧ s.stop.Fits

/-- The numbers in a report fit into 64 bits. -/
structure Report.Fits (r : Report) : Prop where
  issues : ∀ issue ∈ r.issues, issue.span.Fits
  filesChecked : r.filesChecked < 2 ^ 64
  modulesChecked : r.modulesChecked < 2 ^ 64

theorem Json.count?_nat {n : Nat} (h : n < 2 ^ 64) : (Json.nat n).count? = some n := by
  have hdigits : (Nat.toDigits 10 n).all Text.isAsciiDigit = true :=
    List.all_eq_true.mpr fun c hc => isAsciiDigit_of_mem_toDigits hc
  have hvalue := @Nat.ofDigitChars_ten_toDigits n
  rw [Nat.ofDigitChars_eq_foldl] at hvalue
  simp only [nat, count?, Nat.toString_eq_ofList_toDigits, String.toList_ofList, hdigits, hvalue]
  simpa using h

/-! ### Parts of reports -/

theorem mapM_map_eq_some {α β : Type} {f : β → Option α} {g : α → β} {xs : List α}
    (h : ∀ x ∈ xs, f (g x) = some x) : (xs.map g).mapM f = some xs := by
  induction xs with
  | nil => rfl
  | cons x xs ih =>
    obtain ⟨hx, hxs⟩ := List.forall_mem_cons.mp h
    rw [List.map_cons, List.mapM_cons, hx, ih hxs]
    rfl

theorem Position.ofJson?_toJson {p : Position} (h : p.Fits) : ofJson? p.toJson = some p := by
  obtain ⟨hline, hcolumn, hbyte⟩ := h
  have hfields : p.toJson.fields? ["line", "column", "byte"] =
      some [some (.nat p.line), some (.nat p.column), some (.nat p.byte)] := by
    simp [toJson, Json.fields?, List.lookup]
  simp [ofJson?, hfields, Json.count?_nat hline, Json.count?_nat hcolumn, Json.count?_nat hbyte]

theorem Span.ofJson?_toJson {s : Span} (h : s.Fits) : ofJson? s.toJson = some s := by
  obtain ⟨hstart, hstop⟩ := h
  have hfields : s.toJson.fields? ["filename", "start", "end"] =
      some [some (.string s.file), some s.start.toJson, some s.stop.toJson] := by
    simp [toJson, Json.fields?, List.lookup]
  simp [ofJson?, hfields, Json.text?, Position.ofJson?_toJson hstart, Position.ofJson?_toJson hstop]

theorem Severity.severity?_describe (s : Severity) :
    (Json.string s.describe).severity? = some s := by
  cases s <;> rfl

theorem Issue.ofJson?_toJson {issue : Issue} (h : issue.span.Fits) :
    ofJson? issue.toJson = some issue := by
  have hfields : issue.toJson.fields? ["rule", "severity", "message", "range", "link"] =
      some [some (.string issue.rule), some (.string issue.severity.describe),
        some (.string issue.message), some issue.span.toJson, issue.link.map .string] := by
    unfold toJson
    cases issue.link with
    | none => simp [Json.fields?, List.lookup]
    | some link => simp [Json.fields?, List.lookup]
  have hspan := Span.ofJson?_toJson h
  have hseverity := Severity.severity?_describe issue.severity
  obtain ⟨rule, severity, message, span, link⟩ := issue
  cases link <;> simp_all [ofJson?, Json.text?]

theorem Failure.ofJson?_toJson (f : Failure) : ofJson? f.toJson = some f := by
  have hfields : f.toJson.fields? ["rule", "module", "message"] = some [some (.string f.rule),
      some (.array (f.module.map .string)), some (.string f.message)] := by
    simp [toJson, Json.fields?, List.lookup]
  have hmodule : (f.module.map Json.string).mapM Json.text? = some f.module :=
    mapM_map_eq_some fun _ _ => rfl
  simp [ofJson?, hfields, Json.text?, Json.items?, hmodule]

theorem Report.ofJson?_toJson {r : Report} (h : r.Fits) : ofJson? r.toJson = some r := by
  have hfields : r.toJson.fields? ["issues", "failures", "files_checked", "modules_checked"] =
      some [some (.array (r.issues.map Issue.toJson)),
        if r.failures.isEmpty then none else some (.array (r.failures.map Failure.toJson)),
        some (.nat r.filesChecked), some (.nat r.modulesChecked)] := by
    unfold toJson
    split <;> simp [Json.fields?, List.lookup]
  have hissues : (r.issues.map Issue.toJson).mapM Issue.ofJson? = some r.issues :=
    mapM_map_eq_some fun issue hissue => Issue.ofJson?_toJson (h.issues issue hissue)
  have hfailures : (r.failures.map Failure.toJson).mapM Failure.ofJson? = some r.failures :=
    mapM_map_eq_some fun f _ => f.ofJson?_toJson
  have hfiles := Json.count?_nat h.filesChecked
  have hmodules := Json.count?_nat h.modulesChecked
  obtain ⟨issues, failures, filesChecked, modulesChecked⟩ := r
  cases failures <;> simp_all [ofJson?, Json.items?]

/-! ### Reports are plain values -/

open Json (IsPlain IsText)

theorem Position.isPlain_toJson (p : Position) : IsPlain p.toJson := by
  refine .object ?_
  simp only [List.forall_mem_cons, List.not_mem_nil]
  exact ⟨.nat _, .nat _, .nat _, by simp⟩

theorem Span.isPlain_toJson (s : Span) : IsPlain s.toJson := by
  refine .object ?_
  simp only [List.forall_mem_cons, List.not_mem_nil]
  exact ⟨.string _, s.start.isPlain_toJson, s.stop.isPlain_toJson, by simp⟩

theorem Issue.isPlain_toJson (issue : Issue) : IsPlain issue.toJson := by
  refine .object (List.forall_mem_append.mpr ⟨?_, ?_⟩)
  · simp only [List.forall_mem_cons, List.not_mem_nil]
    exact ⟨.string _, .string _, .string _, issue.span.isPlain_toJson, by simp⟩
  · split
    · exact List.forall_mem_singleton.mpr (.string _)
    · simp

theorem Failure.isPlain_toJson (f : Failure) : IsPlain f.toJson := by
  refine .object ?_
  simp only [List.forall_mem_cons, List.not_mem_nil]
  exact ⟨.string _, .array (List.forall_mem_map.mpr fun _ _ => .string _), .string _, by simp⟩

theorem Report.isPlain_toJson (r : Report) : IsPlain r.toJson := by
  have hissues : IsPlain (.array (r.issues.map Issue.toJson)) :=
    .array (List.forall_mem_map.mpr fun issue _ => issue.isPlain_toJson)
  have hfailures : IsPlain (.array (r.failures.map Failure.toJson)) :=
    .array (List.forall_mem_map.mpr fun f _ => f.isPlain_toJson)
  refine .object ?_
  split
  · simp only [List.cons_append, List.nil_append, List.forall_mem_cons, List.not_mem_nil]
    exact ⟨hissues, .nat _, .nat _, by simp⟩
  · simp only [List.cons_append, List.nil_append, List.forall_mem_cons, List.not_mem_nil]
    exact ⟨hissues, hfailures, .nat _, .nat _, by simp⟩

/-- The failures are left out exactly if there are none. -/
theorem Report.exists_fields (r : Report) : ∃ fields, r.toJson = .object fields ∧
    ("failures" ∈ fields.map Prod.fst ↔ r.failures ≠ []) := by
  refine ⟨_, rfl, ?_⟩
  cases r.failures <;> simp

/-- The link is left out exactly if there is none. -/
theorem Issue.exists_fields (issue : Issue) : ∃ fields, issue.toJson = .object fields ∧
    ("link" ∈ fields.map Prod.fst ↔ issue.link ≠ none) := by
  refine ⟨_, rfl, ?_⟩
  cases issue.link <;> simp

/-- **Reports survive being written.** A report whose numbers fit into 64 bits is read back as it
was from its text over several lines, and from every other text that writes the same value.
Failures are left out of the value if there are none, and so is the link of an issue
that has none. -/
theorem Report.read_back {r : Report} (h : r.Fits) :
    ofText? r.toJson.pretty = some r ∧
      (∀ text, IsText r.toJson text → ofText? text = some r) ∧
      (∃ fields, r.toJson = .object fields ∧
        ("failures" ∈ fields.map Prod.fst ↔ r.failures ≠ [])) ∧
      ∀ issue ∈ r.issues, ∃ fields, issue.toJson = .object fields ∧
        ("link" ∈ fields.map Prod.fst ↔ issue.link ≠ none) := by
  have hread : ∀ text, IsText r.toJson text → ofText? text = some r := by
    intro text htext
    simp [ofText?, htext.read?_eq, ofJson?_toJson h]
  exact ⟨hread _ r.isPlain_toJson.isText_pretty, hread, r.exists_fields,
    fun issue _ => issue.exists_fields⟩

/-- A message with all kinds of escapes, the largest numbers, and neither failures nor a link. -/
theorem Report.read_back_escapes :
    ∃ r : Report, r.issues = [⟨"r", .notice, "\"\\/\n\t\x01\x1fé", ⟨"m.tf", ⟨1, 1, 0⟩,
        ⟨18446744073709551615, 1, 18446744073709551615⟩⟩, none⟩] ∧ r.failures = [] ∧
      r.filesChecked = 18446744073709551615 ∧ r.Fits ∧ ofText? r.toJson.pretty = some r := by
  have hfits : Report.Fits ⟨[⟨"r", .notice, "\"\\/\n\t\x01\x1fé", ⟨"m.tf", ⟨1, 1, 0⟩,
      ⟨18446744073709551615, 1, 18446744073709551615⟩⟩, none⟩], [], 18446744073709551615, 1⟩ :=
    ⟨by simp [Span.Fits, Position.Fits], by decide, by decide⟩
  exact ⟨_, rfl, rfl, rfl, hfits, (read_back hfits).1⟩

end TerraLint
