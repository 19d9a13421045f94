import TerraLint.Proofs.Findings

/-!
# Failures agree

A file of a project may be broken: it opens something that it never closes, or its
text is no document. The rules meet such a file in different ways. Five of them ask
for the module, which is made of all files at once, so that one broken file stops
them before they have found anything. The other two look at the files one by one and
want only the tokens of a file: they go on to the first file that has none.

The theorem of this module (`TerraLint.Project.failures_agree`) says which file
decides, and what has been reported by then. In both cases it is the first of the
files concerned in the order of names (`TerraLint.Project.FirstFailure`), but these
need not be the same file: a file with tokens can be no document.
-/

namespace TerraLint

/-! ### The first file that cannot be read -/

/-- The tokens of a file, or what it leaves open. -/
def SourceFile.lex (f : SourceFile) : Except LexError (List Token) := Token.lex f.name f.content

namespace Project

variable {p : Project} {f g : SourceFile} {ε α : Type}

/-- The files whose names come before that of a file. -/
def before (p : Project) (f : SourceFile) : List SourceFile :=
  p.files.filter fun g => g.name < f.name

/-- The project with a single file. -/
def only (p : Project) (f : SourceFile) : Project :=
  { p with files := [f], ordered := List.pairwise_singleton _ _ }

/-- Every file can be read, those in the other notation apart. -/
def AllRead (p : Project) (read : SourceFile → Except ε α) : Prop :=
  ∀ f ∈ p.files, f.isJson = false → ∃ a, read f = .ok a

/-- A file is the first one, in the order of names, that cannot be read, those in the other
notation apart. -/
structure FirstFailure (p : Project) (read : SourceFile → Except ε α) (f : SourceFile)
    (cause : ε) : Prop where
  mem : f ∈ p.files
  isJson_eq : f.isJson = false
  read_eq : read f = .error cause
  earlier : ∀ g ∈ p.files, g.name < f.name → g.isJson = false → ∃ a, read g = .ok a

theorem mem_before : g ∈ p.before f ↔ g ∈ p.files ∧ g.name < f.name := by
  simp [before]

/-- The files stand in the order of their names. -/
theorem exists_after (hf : f ∈ p.files) : ∃ after, p.files = p.before f ++ f :: after := by
  obtain ⟨front, after, hfiles⟩ := List.append_of_mem hf
  obtain ⟨hfront, hafter⟩ := names_of_split hfiles
  have hbefore : p.before f = front := by
    rw [before, hfiles, List.filter_append, List.filter_cons_of_neg (by simp),
      List.filter_eq_self.mpr, List.filter_eq_nil_iff.mpr, List.append_nil]
    · intro g hg
      rw [decide_eq_true_iff]
      exact String.lt_asymm (hafter g hg)
    · intro g hg
      exact decide_eq_true (hfront g hg)
  exact ⟨after, by rw [hbefore, hfiles]⟩

/-- Unless all files can be read, there is a first one that cannot. -/
theorem exists_firstFailure {read : SourceFile → Except ε α} (h : ¬p.AllRead read) :
    ∃ f cause, p.FirstFailure read f cause := by
  classical
  cases hfind : p.files.find? fun g => decide (g.isJson = false ∧ ∃ cause, read g = .error cause) with
  | none =>
    refine absurd (fun f hf hjson => ?_) h
    have hread : ∀ cause, read f ≠ .error cause := by
      simpa [hjson] using List.find?_eq_none.mp hfind f hf
    cases hf : read f with
    | error cause => exact absurd hf (hread cause)
    | ok a => exact ⟨a, rfl⟩
  | some f =>
    obtain ⟨hfails, front, after, hfiles, hfront⟩ := List.find?_eq_some_iff_append.mp hfind
    obtain ⟨hjson, cause, hcause⟩ := of_decide_eq_true hfails
    refine ⟨f, cause, ⟨by simp [hfiles], hjson, hcause, fun g hg hlt hgjson => ?_⟩⟩
    -- Only files in front have smaller names, and the search has passed over them.
    have hmem : g ∈ front := by
      rw [hfiles] at hg
      rcases List.mem_append.mp hg with hg | hg
      · exact hg
      · rcases List.mem_cons.mp hg with rfl | hg
        · exact absurd hlt (String.lt_irrefl _)
        · exact absurd hlt (String.lt_asymm ((names_of_split hfiles).2 g hg))
    have hread : ∀ cause, read g ≠ .error cause := by simpa [hgjson] using hfront g hmem
    cases hg : read g with
    | error cause => exact absurd hg (hread cause)
    | ok a => exact ⟨a, rfl⟩

/-! ### The module -/

/-- A file with a body has tokens. -/
theorem exists_lex {body : Body} (h : p.bodyOf f = .ok body) : ∃ tokens, f.lex = .ok tokens := by
  unfold bodyOf tokensOf at h
  unfold SourceFile.lex
  cases hlex : Token.lex f.name f.content with
  | ok tokens => exact ⟨tokens, rfl⟩
  | error e =>
    rw [hlex] at h
    cases h

theorem AllRead.lex (h : p.AllRead p.bodyOf) : p.AllRead SourceFile.lex := by
  intro f hf hjson
  obtain ⟨body, hbody⟩ := h f hf hjson
  exact exists_lex hbody

theorem exists_bodies {files : List SourceFile} (h : ∀ f ∈ files, ∃ body, p.bodyOf f = .ok body) :
    ∃ found, p.bodies files = .ok found := by
  induction files with
  | nil => exact ⟨[], rfl⟩
  | cons f files ih =>
    rw [List.forall_mem_cons] at h
    obtain ⟨⟨body, hbody⟩, hfiles⟩ := h
    obtain ⟨found, hfound⟩ := ih hfiles
    refine ⟨(f.name, body) :: found, ?_⟩
    rw [bodies, hbody, hfound]
    rfl

/-- The first file without a body decides. -/
theorem bodies_eq_error {front after : List SourceFile} {cause : CheckError}
    (h : ∀ g ∈ front, ∃ body, p.bodyOf g = .ok body) (hf : p.bodyOf f = .error cause) :
    p.bodies (front ++ f :: after) = .error cause := by
  induction front with
  | nil =>
    rw [List.nil_append, bodies, hf]
    rfl
  | cons g front ih =>
    rw [List.forall_mem_cons] at h
    obtain ⟨⟨body, hbody⟩, hfront⟩ := h
    rw [List.cons_append, bodies, hbody, ih hfront]
    rfl

theorem exists_module (h : p.AllRead p.bodyOf) : ∃ m, p.module = .ok m := by
  obtain ⟨found, hfound⟩ : ∃ found, p.bodies (p.files.filter fun f => !f.isJson) = .ok found := by
    refine exists_bodies fun f hf => ?_
    obtain ⟨hf, hjson⟩ := List.mem_filter.mp hf
    exact h f hf (by simpa using hjson)
  refine ⟨.ofBodies found, ?_⟩
  rw [module, hfound]
  rfl

theorem FirstFailure.module_eq {cause : CheckError} (h : p.FirstFailure p.bodyOf f cause) :
    p.module = .error cause := by
  obtain ⟨after, hfiles⟩ := exists_after h.mem
  have hbodies : p.bodies (p.files.filter fun f => !f.isJson) = .error cause := by
    -- The file is still the first without a body when those in the other notation are left out.
    rw [hfiles, List.filter_append, List.filter_cons_of_pos (by simp [h.isJson_eq])]
    refine bodies_eq_error (fun g hg => ?_) h.read_eq
    obtain ⟨hg, hjson⟩ := List.mem_filter.mp hg
    obtain ⟨hg, hlt⟩ := mem_before.mp hg
    exact h.earlier g hg hlt (by simpa using hjson)
  rw [module, hbodies]
  rfl

/-- There is a module exactly if all files have bodies. -/
theorem allRead_iff_isOk : p.AllRead p.bodyOf ↔ p.module.isOk = true := by
  constructor
  · intro h
    obtain ⟨m, hm⟩ := exists_module h
    rw [hm]
    rfl
  · intro h
    by_contra hall
    obtain ⟨f, cause, hf⟩ := exists_firstFailure hall
    rw [hf.module_eq] at h
    cases h

end Project

/-! ### Rules that ask for the module -/

namespace Rule

variable {rule : Rule} {p : Project}

/-- All that a rule reads of a project is its module. -/
def ReadsModule (rule : Rule) : Prop :=
  ∃ search : Module → List Finding, rule.Finds fun p => .ofExcept p.module fun m => { found := search m }

theorem ReadsModule.run_of_error (h : rule.ReadsModule) {cause : CheckError}
    (hp : p.module = .error cause) : rule.run none p = ([], some cause) := by
  obtain ⟨search, hfinds⟩ := h
  rw [hfinds.run_unlimited, hp]
  rfl

theorem ReadsModule.run_of_ok (h : rule.ReadsModule) {m : Module} (hp : p.module = .ok m) :
    (rule.run none p).2 = none := by
  obtain ⟨search, hfinds⟩ := h
  rw [hfinds.run_unlimited, hp]
  rfl

theorem Sweeps.readsModule (h : rule.Sweeps) : rule.ReadsModule := by
  obtain ⟨judgements, hfinds, -⟩ := h
  exact ⟨_, hfinds⟩

end Rule

namespace Builtin

/-- The names of the rules that look at files one by one. -/
def fileRules : List String := [Comments.info.name, FileContent.info.name]

theorem IsRule.readsModule_or {rule : Rule} (h : IsRule rule) :
    rule.ReadsModule ∨ rule = Comments.rule ∨ rule = FileContent.rule := by
  rcases h.sweeps_or with hsweeps | ⟨types, rfl⟩ | hfiles
  · exact .inl hsweeps.readsModule
  · exact .inl ⟨_, BackendType.finds types⟩
  · exact .inr hfiles

theorem IsRule.readsModule {rule : Rule} (h : IsRule rule) (hname : rule.name ∉ fileRules) :
    rule.ReadsModule := by
  rcases h.readsModule_or with h | rfl | rfl
  · exact h
  · exact absurd List.mem_cons_self hname
  · exact absurd (List.mem_cons_of_mem _ List.mem_cons_self) hname

end Builtin

/-! ### Rules that look at files one by one -/

namespace Findings

variable {α : Type} {search : α → Findings}

/-- Where nothing stops it, a search finds what it finds in each thing. -/
theorem forEach_of_none {items : List α} (h : ∀ item ∈ items, (search item).stopped = none) :
    forEach items search = { found := items.flatMap fun item => (search item).found } := by
  induction items with
  | nil => rfl
  | cons item items ih =>
    rw [List.forall_mem_cons] at h
    rw [forEach_cons, andThen_of_none h.1, ih h.2, List.flatMap_cons]

/-- The first thing that stops a search decides. -/
theorem forEach_of_some {front rest : List α} {item : α} {cause : CheckError}
    (h : ∀ other ∈ front, (search other).stopped = none) (hitem : (search item).stopped = some cause) :
    forEach (front ++ item :: rest) search =
      ⟨front.flatMap (fun other => (search other).found) ++ (search item).found, some cause⟩ := by
  induction front with
  | nil =>
    rw [List.nil_append, forEach_cons, andThen_of_some hitem, ← hitem]
    rfl
  | cons other front ih =>
    rw [List.forall_mem_cons] at h
    rw [List.cons_append, forEach_cons, andThen_of_none h.1, ih h.2, List.flatMap_cons,
      List.append_assoc]

end Findings

/-- What stops a search for tokens of a file. -/
def SourceFile.failure? (f : SourceFile) : Option CheckError :=
  if f.isJson then none
  else
    match f.lex with
    | .ok _ => none
    | .error e => some (.unterminated e)

namespace SourceFile

variable {f : SourceFile}

theorem failure?_of_ok (h : f.isJson = false → ∃ tokens, f.lex = .ok tokens) : f.failure? = none := by
  unfold failure?
  split
  · rfl
  · rename_i hjson
    obtain ⟨tokens, htokens⟩ := h (by simpa using hjson)
    rw [htokens]

theorem failure?_of_error {e : LexError} (hjson : f.isJson = false) (h : f.lex = .error e) :
    f.failure? = some (.unterminated e) := by
  simp [failure?, hjson, h]

theorem tokensOf_eq : Project.tokensOf f = f.lex.mapError .unterminated := rfl

/-- A search in the tokens of a file stops for want of them, and for nothing else. -/
theorem stopped_tokens (search : List Token → List Finding) :
    (if f.isJson then {}
      else Findings.ofExcept (Project.tokensOf f) fun tokens => { found := search tokens }).stopped =
      f.failure? := by
  rw [failure?, tokensOf_eq]
  split
  · rfl
  · cases f.lex <;> rfl

/-- It then has found nothing. -/
theorem found_tokens_of_error {e : LexError} (hjson : f.isJson = false) (h : f.lex = .error e)
    (search : List Token → List Finding) :
    (if f.isJson then {}
      else Findings.ofExcept (Project.tokensOf f) fun tokens => { found := search tokens }).found =
      [] := by
  rw [tokensOf_eq, h]
  simp [hjson, Except.mapError, Findings.ofExcept, Findings.stop]

end SourceFile

namespace Rule

variable {rule : Rule} {p : Project} {f : SourceFile} {search : SourceFile → Findings}
  (hfinds : rule.Finds fun p => .forEach p.files search)
  (hstopped : ∀ f, (search f).stopped = f.failure?)

include hfinds

theorem run_only_eq (p : Project) (f : SourceFile) :
    (rule.run none (p.only f)).1 = (search f).found.map rule.issue := by
  rw [hfinds.run_unlimited]
  simp only [Project.only, Findings.forEach_singleton]

include hstopped

/-- Without a file that leaves something open, each file has its say. -/
theorem run_of_allRead (h : p.AllRead SourceFile.lex) :
    rule.run none p = (p.files.flatMap fun g => (rule.run none (p.only g)).1, none) := by
  have hforEach : Findings.forEach p.files search =
      { found := p.files.flatMap fun g => (search g).found } := by
    refine Findings.forEach_of_none fun g hg => ?_
    rw [hstopped, SourceFile.failure?_of_ok (h g hg)]
  simp only [run_only_eq hfinds]
  rw [hfinds.run_unlimited, hforEach, List.map_flatMap]

/-- Otherwise the files before the first such file have theirs, and what the search finds in
this file without its tokens comes last. -/
theorem run_of_firstFailure {e : LexError} (h : p.FirstFailure SourceFile.lex f e) :
    rule.run none p =
      ((p.before f).flatMap (fun g => (rule.run none (p.only g)).1) ++ (search f).found.map rule.issue,
        some (.unterminated e)) := by
  have hforEach : Findings.forEach p.files search =
      ⟨(p.before f).flatMap (fun g => (search g).found) ++ (search f).found,
        some (.unterminated e)⟩ := by
    obtain ⟨after, hfiles⟩ := Project.exists_after h.mem
    rw [hfiles]
    refine Findings.forEach_of_some (fun g hg => ?_) ?_
    · obtain ⟨hg, hlt⟩ := Project.mem_before.mp hg
      rw [hstopped, SourceFile.failure?_of_ok (h.earlier g hg hlt)]
    · rw [hstopped, SourceFile.failure?_of_error h.isJson_eq h.read_eq]
  simp only [run_only_eq hfinds]
  rw [hfinds.run_unlimited, hforEach, List.map_append, List.map_flatMap]

/-- Such a rule fails exactly if some file leaves something open. -/
theorem run_fails_iff : (rule.run none p).2 ≠ none ↔ ¬p.AllRead SourceFile.lex := by
  constructor
  · intro hrun hall
    rw [run_of_allRead hfinds hstopped hall] at hrun
    exact hrun rfl
  · intro hall
    obtain ⟨f, e, hf⟩ := Project.exists_firstFailure hall
    rw [run_of_firstFailure hfinds hstopped hf]
    simp

end Rule

namespace Comments

theorem searchFile_stopped (f : SourceFile) : (searchFile f).stopped = f.failure? :=
  SourceFile.stopped_tokens _

/-- Nothing is found in a file without tokens. -/
theorem found_of_error {f : SourceFile} {e : LexError} (hjson : f.isJson = false)
    (h : f.lex = .error e) : (searchFile f).found = [] :=
  SourceFile.found_tokens_of_error hjson h _

end Comments

namespace FileContent

theorem searchFile_eq (f : SourceFile) :
    searchFile f = ⟨firstLine f ++ lastLine f ++ (blocks f).found, (blocks f).stopped⟩ :=
  Findings.andThen_of_none rfl

theorem searchFile_stopped (f : SourceFile) : (searchFile f).stopped = f.failure? := by
  rw [searchFile_eq]
  exact SourceFile.stopped_tokens _

/-- The first and the last line of a file are looked at without its tokens. -/
theorem found_of_error {f : SourceFile} {e : LexError} (hjson : f.isJson = false)
    (h : f.lex = .error e) : (searchFile f).found = firstLine f ++ lastLine f := by
  have hblocks : (blocks f).found = [] := SourceFile.found_tokens_of_error hjson h _
  rw [searchFile_eq, hblocks, List.append_nil]

end FileContent

theorem Findings.collect_forM (rule : RuleInfo) (found : List Finding) :
    (forM found rule.report).collect none = (found.map rule.issue, none) := by
  rw [← report_found, collect_report_unlimited]

/-- **Failures agree.** Either all files have bodies, and there is a module and every rule
goes through; or the first file without one decides how the module fails and how the rules
that ask for it fail, before they find anything. The rules that look at files one by one
fail exactly if some file leaves something open: at the first such file, with the issues of
the files before it and, for the layout of files, those of its first and last line. -/
theorem Project.failures_agree (p : Project) :
    (p.AllRead p.bodyOf →
      (∃ m, p.module = .ok m) ∧ ∀ rule, Builtin.IsRule rule → (rule.run none p).2 = none) ∧
    (¬p.AllRead p.bodyOf → ∃ f cause, p.FirstFailure p.bodyOf f cause ∧
      p.module = .error cause ∧
      ∀ rule, Builtin.IsRule rule → rule.name ∉ Builtin.fileRules →
        rule.run none p = ([], some cause)) ∧
    ((Comments.rule.run none p).2 ≠ none ↔ ¬p.AllRead SourceFile.lex) ∧
    ((FileContent.rule.run none p).2 ≠ none ↔ ¬p.AllRead SourceFile.lex) ∧
    (¬p.AllRead SourceFile.lex → ∃ f e, p.FirstFailure SourceFile.lex f e ∧
      Comments.rule.run none p =
        ((p.before f).flatMap fun g => (Comments.rule.run none (p.only g)).1,
          some (.unterminated e)) ∧
      FileContent.rule.run none p =
        (((p.before f).flatMap fun g => (FileContent.rule.run none (p.only g)).1) ++
            ((FileContent.checkFirstLine f).collect none).1 ++
            ((FileContent.checkLastLine f).collect none).1,
          some (.unterminated e))) := by
  refine ⟨fun hall => ?_, fun hall => ?_, ?_, ?_, fun hall => ?_⟩
  · obtain ⟨m, hm⟩ := exists_module hall
    refine ⟨⟨m, hm⟩, fun rule hrule => ?_⟩
    rcases hrule.readsModule_or with hreads | rfl | rfl
    · exact hreads.run_of_ok hm
    · rw [Rule.run_of_allRead Comments.finds Comments.searchFile_stopped hall.lex]
    · rw [Rule.run_of_allRead FileContent.finds FileContent.searchFile_stopped hall.lex]
  · obtain ⟨f, cause, hf⟩ := exists_firstFailure hall
    have hm := hf.module_eq
    exact ⟨f, cause, hf, hm, fun rule hrule hname => (hrule.readsModule hname).run_of_error hm⟩
  · exact Rule.run_fails_iff Comments.finds Comments.searchFile_stopped
  · exact Rule.run_fails_iff FileContent.finds FileContent.searchFile_stopped
  · obtain ⟨f, e, hf⟩ := exists_firstFailure hall
    refine ⟨f, e, hf, ?_, ?_⟩
    · rw [Rule.run_of_firstFailure Comments.finds Comments.searchFile_stopped hf,
        Comments.found_of_error hf.isJson_eq hf.read_eq, List.map_nil, List.append_nil]
    · rw [Rule.run_of_firstFailure FileContent.finds FileContent.searchFile_stopped hf,
        FileContent.found_of_error hf.isJson_eq hf.read_eq, FileContent.checkFirstLine_eq,
        FileContent.checkLastLine_eq, Findings.collect_forM, Findings.collect_forM, List.map_append,
        List.append_assoc]
      rfl

/-- A file with tokens that is no document, and one that leaves a string open: the module fails at
the first, and the comments are read up to the second. -/
example :
    let p := Project.ofFiles [] [("a.tf", "# x\na b"), ("b.tf", "\"")]
    p.module = .error (.body (.malformed ⟨"a.tf", "syntax error"⟩)) ∧
      Comments.rule.run none p =
        ([Comments.info.issue ⟨Comments.message, ⟨"a.tf", .start, ⟨2, 1, 4⟩⟩⟩],
          some (.unterminated ⟨"b.tf", .string, .start⟩)) := by
  intro p
  constructor <;> cbv

end TerraLint
