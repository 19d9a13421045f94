import TerraLint.Body

/-!
# Modules

A module is what the files of a directory declare together: the top-level blocks,
file by file, and the backend that keeps the state. Blocks of a type that the
linter knows are told apart by `DeclarationKind`.
-/

namespace TerraLint

/-- What a top-level block declares. -/
inductive DeclarationKind where
  | variable
  | output
  | resource
  | data
  | locals
  | module
  | provider
  | terraform
  | other
  deriving DecidableEq, Repr

/-- The kind of declaration that blocks of a type make. -/
def DeclarationKind.ofBlockType : String → DeclarationKind
  | "variable" => .variable
  | "output" => .output
  | "resource" => .resource
  | "data" => .data
  | "locals" => .locals
  | "module" => .module
  | "provider" => .provider
  | "terraform" => .terraform
  | _ => .other

/-- A top-level block of a module. -/
structure Declaration where
  type : String
  labels : List String
  file : String
  /-- From the type to the last label. -/
  header : Span
  /-- The whole block. -/
  span : Span
  attributes : List Attribute
  deriving DecidableEq, Repr

/-- A resource that the module manages: type and name are the first two labels. -/
structure Resource where
  type : String
  name : String
  declaration : Declaration
  deriving DecidableEq, Repr

/-- The address of a resource in the module. -/
def Resource.address (r : Resource) : String := r.type ++ "." ++ r.name

namespace Declaration

/-- The declaration that a top-level block of a file makes. -/
def ofBlock (file : String) (block : Block) : Declaration :=
  ⟨block.type, block.labels, file, block.header, block.span, block.attributes⟩

/-- What the declaration declares. -/
def kind (d : Declaration) : DeclarationKind := .ofBlockType d.type

/-- The name that is declared: the second label of resources and data sources, whose first
label is a type, and the first label of all others. -/
def name? (d : Declaration) : Option String :=
  match d.kind with
  | .resource | .data => d.labels[1]?
  | _ => d.labels[0]?

/-- The first attribute with a given name, among those directly in the block. -/
def attribute? (d : Declaration) (name : String) : Option Attribute :=
  d.attributes.find? fun a => a.name == name

/-- The resource that is declared, if it is one with both labels. -/
def resource? (d : Declaration) : Option Resource :=
  match d.kind, d.labels with
  | .resource, type :: name :: _ => some ⟨type, name, d⟩
  | _, _ => none

end Declaration

/-- The backend that keeps the state: its type, and the header of its block. -/
structure Backend where
  type : String
  header : Span
  deriving DecidableEq, Repr

/-- The declarations of a module, and its backend. -/
structure Module where
  declarations : List Declaration
  backend : Option Backend
  deriving DecidableEq, Repr

namespace Module

/-- The backend that a top-level block declares: the first `backend` block inside a
`terraform` block. -/
def blockBackend? (block : Block) : Option Backend :=
  if block.type = "terraform" then
    (block.blocks.find? fun b => b.type == "backend").map fun b =>
      ⟨b.labels.headD "", b.header⟩
  else none

/-- The module that the bodies of named files make up. The first backend counts. -/
def ofBodies (files : List (String × Body)) : Module where
  declarations := files.flatMap fun (file, body) => body.blocks.map (Declaration.ofBlock file)
  backend := files.findSome? fun (_, body) => body.blocks.findSome? blockBackend?

/-- The declarations made by blocks of a type. -/
def declarationsOf (m : Module) (type : String) : List Declaration :=
  m.declarations.filter fun d => d.type == type

/-- The resources that the module manages. -/
def resources (m : Module) : List Resource :=
  m.declarations.filterMap Declaration.resource?

end Module

end TerraLint
