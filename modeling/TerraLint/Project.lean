import TerraLint.Module

/-!
# Projects

A project is one module's files together with the path of the module below the
root. The files are kept in the order of their names, and a name occurs once. The
shape of a file is read by the grammar of documents, or by another reader that the
project names.
Files of the configuration language come in two notations; those whose name ends
in `.json` use the other one, and the linter does not read their content.

What rules read of a project can be missing or broken: `CheckError` lists the
causes, and one further cause with which a run of a rule can end.
-/

namespace TerraLint

/-- A file of a module. -/
structure SourceFile where
  name : String
  content : String
  deriving DecidableEq, Repr

/-- The file is written in the other notation. -/
def SourceFile.isJson (f : SourceFile) : Bool := f.name.endsWith ".json"

/-- Why a rule could not be run to its end. -/
inductive CheckError where
  | unterminated (e : LexError)
  | body (e : BodyError)
  | missingFile (name : String)
  | issueLimit (limit : Nat)
  deriving DecidableEq, Repr

/-- The cause as messages show it. -/
def CheckError.message : CheckError → String
  | unterminated e => e.message
  | body e => e.message
  | missingFile name => "file not found in module: " ++ name
  | issueLimit limit => "issue limit of " ++ toString limit ++ " reached"

/-- The files of a module, the path of the module, and what reads the shape of a file. -/
structure Project where
  path : List String
  files : List SourceFile
  /-- The files are in the order of their names, and a name occurs once. -/
  ordered : files.Pairwise fun f g => f.name < g.name
  parse : String → Except String (List Structure) := Document.read

namespace Project

/-- Puts a file among files ordered by name, in the place of one with the same name. -/
def insert (file : SourceFile) : List SourceFile → List SourceFile
  | [] => [file]
  | other :: rest =>
    if file.name < other.name then file :: other :: rest
    else if file.name = other.name then file :: rest
    else other :: insert file rest

theorem mem_insert {file g : SourceFile} {files : List SourceFile} (h : g ∈ insert file files) :
    g = file ∨ g ∈ files := by
  fun_induction insert file files with
  | case1 => exact .inl (List.mem_singleton.mp h)
  | case2 => exact List.mem_cons.mp h
  | case3 => exact (List.mem_cons.mp h).imp_right (List.mem_cons_of_mem _)
  | case4 other rest _ _ ih =>
    rcases List.mem_cons.mp h with rfl | h
    · exact .inr List.mem_cons_self
    · exact (ih h).imp_right (List.mem_cons_of_mem _)

/-- A file is put where the order of names wants it. -/
theorem ordered_insert {file : SourceFile} {files : List SourceFile}
    (h : files.Pairwise fun f g => f.name < g.name) :
    (insert file files).Pairwise fun f g => f.name < g.name := by
  fun_induction insert file files with
  | case1 => exact List.pairwise_singleton _ _
  | case2 other rest hlt =>
    refine List.pairwise_cons.mpr ⟨fun g hg => ?_, h⟩
    rcases List.mem_cons.mp hg with rfl | hg
    · exact hlt
    · exact String.lt_trans hlt ((List.pairwise_cons.mp h).1 g hg)
  | case3 other rest _ heq =>
    obtain ⟨hother, hrest⟩ := List.pairwise_cons.mp h
    exact List.pairwise_cons.mpr ⟨fun g hg => heq ▸ hother g hg, hrest⟩
  | case4 other rest hlt hne ih =>
    obtain ⟨hother, hrest⟩ := List.pairwise_cons.mp h
    refine List.pairwise_cons.mpr ⟨fun g hg => ?_, ih hrest⟩
    rcases mem_insert hg with rfl | hg
    · exact Std.lt_of_le_of_ne (String.not_lt.mp hlt) (Ne.symm hne)
    · exact hother g hg

/-- The files with given names and contents; of two contents under one name the later counts. -/
def arrange (files : List (String × String)) : List SourceFile :=
  files.foldl (fun found (name, content) => insert ⟨name, content⟩ found) []

theorem ordered_arrange (files : List (String × String)) :
    (arrange files).Pairwise fun f g => f.name < g.name :=
  List.foldlRecOn files _ List.Pairwise.nil fun _ h _ _ => ordered_insert h

/-- The project made of named contents; of two contents under one name the later counts. -/
def ofFiles (path : List String) (files : List (String × String)) : Project :=
  { path, files := arrange files, ordered := ordered_arrange files }

/-- The root module has the empty path. -/
def isRoot (p : Project) : Bool := p.path.isEmpty

/-- The file with a given name. -/
def file (p : Project) (name : String) : Except CheckError SourceFile :=
  match p.files.find? fun f => f.name == name with
  | some f => .ok f
  | none => .error (.missingFile name)

/-- The tokens of a file. -/
def tokensOf (f : SourceFile) : Except CheckError (List Token) :=
  (Token.lex f.name f.content).mapError .unterminated

/-- The tokens of the file with a given name. -/
def tokens (p : Project) (name : String) : Except CheckError (List Token) := do
  tokensOf (← p.file name)

/-- The body of a file. -/
def bodyOf (p : Project) (f : SourceFile) : Except CheckError Body := do
  (Body.readWith p.parse (← tokensOf f) f.content).mapError .body

/-- The bodies of files, by name. The first file that has none is reported. -/
def bodies (p : Project) : List SourceFile → Except CheckError (List (String × Body))
  | [] => .ok []
  | f :: rest => do
    let body ← p.bodyOf f
    return (f.name, body) :: (← p.bodies rest)

/-- The module that the files make up. -/
def module (p : Project) : Except CheckError Module := do
  return .ofBodies (← p.bodies (p.files.filter fun f => !f.isJson))

end Project

end TerraLint
