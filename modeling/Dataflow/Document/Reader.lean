import Dataflow.Document.Basic
import Dataflow.Json.Reader
/-!
Reading documents from JSON text.

Members that a document does not know are passed over, and all but a few of those it knows may be missing.
-/

namespace Dataflow.Document

open Json Json.Reader

/-! ## Roles -/

def roleOfName (name : String) : Except Fault Role :=
  match [Role.source, .transform, .sink].find? (·.name == name) with
  | some role => .ok role
  | none => .error (.unknownVariant name (List.map Role.name [.source, .transform, .sink]))

/-- A role by its name, or as an object whose one member has that name and the value null. What is no name in such
an object is a fault of the text and not of a type, since no member can begin with it. -/
def role : Reader Role := do
  match ← next with
  | .string (some name) => roleOfName name
  | .beginObject =>
    match ← next with
    | .string (some name) =>
      let found ← roleOfName name
      expect .colon
      match ← next with
      | .null => expect .endObject; pure found
      | token => throw (wrongType token "unit")
    | _ => throw .malformed
  | _ => throw .malformed

def role? : Reader (Option Role) := do
  match ← peek with
  | .null => let _ ← next; pure none
  | _ => some <$> role

/-! ## Parts -/

/-- The field of an array of fields that must be there. -/
def requiredField {α : Type} (index : Nat) (expected : String) (read : Reader α) : Reader α := do
  match ← positional index read with
  | some x => pure x
  | none => throw (.wrongLength index expected)

/-- The value of a member that must be there. -/
def requiredMember {α : Type} (name : String) : Option α → Except Fault α
  | some x => .ok x
  | none => .error (.missingField name)

/-- Members found so far; the same for the parts below. -/
structure ConnectionMembers where
  id : Option String := none
  origin : Option String := none
  target : Option String := none

def connection : Reader Connection :=
  let fields := "struct EditorConnection with 3 elements"
  record "struct EditorConnection" ({} : ConnectionMembers)
    (fun name found => match name with
      | "id" => return { found with id := ← once name found.id string }
      | "from" => return { found with origin := ← once name found.origin string }
      | "to" => return { found with target := ← once name found.target string }
      | _ => do ignored; return found)
    (fun found => do
      return ⟨← requiredMember "id" found.id, ← requiredMember "from" found.origin,
        ← requiredMember "to" found.target⟩)
    (do
      let id ← requiredField 0 fields string
      let origin ← requiredField 1 fields string
      let target ← requiredField 2 fields string
      return ⟨id, origin, target⟩)

structure NodeMembers where
  id : Option String := none
  kind : Option String := none
  role : Option (Option Role) := none
  data : Option (Dict Json) := none

/-- How many levels of containers there may be below the data of a node. -/
def dataDepth : Nat := depthLimit - 4

def node : Reader DocumentNode :=
  let fields := "struct EditorNode with 4 elements"
  record "struct EditorNode" ({} : NodeMembers)
    (fun name found => match name with
      | "id" => return { found with id := ← once name found.id string }
      | "type" => return { found with kind := ← once name found.kind string }
      | "role" => return { found with role := ← once name found.role role? }
      | "data" => return { found with data := ← once name found.data (dict dataDepth) }
      | _ => do ignored; return found)
    (fun found => do
      return ⟨← requiredMember "id" found.id, ← requiredMember "type" found.kind, found.role.join,
        found.data.getD .empty⟩)
    (do
      let id ← requiredField 0 fields string
      let kind ← requiredField 1 fields string
      let role ← positional 2 role?
      let data ← positional 3 (dict dataDepth)
      return ⟨id, kind, role.join, data.getD .empty⟩)

/-! ## Documents -/

structure DocumentMembers where
  name : Option String := none
  description : Option String := none
  version : Option (Option String) := none
  nodes : Option (List DocumentNode) := none
  connections : Option (List Connection) := none

def document : Reader Document :=
  record "struct EditorWorkflow" ({} : DocumentMembers)
    (fun name found => match name with
      | "name" => return { found with name := ← once name found.name string }
      | "description" => return { found with description := ← once name found.description string }
      | "version" => return { found with version := ← once name found.version string? }
      | "nodes" => return { found with nodes := ← once name found.nodes (array node) }
      | "connections" => return { found with connections := ← once name found.connections (array connection) }
      | _ => do ignored; return found)
    (fun found => do
      return ⟨found.name.getD "", found.description.getD "", found.version.join,
        ← requiredMember "nodes" found.nodes, found.connections.getD []⟩)
    (do
      let name ← positional 0 string
      let description ← positional 1 string
      let version ← positional 2 string?
      let nodes ← requiredField 3 "struct EditorWorkflow with 5 elements" (array node)
      let connections ← positional 4 (array connection)
      return ⟨name.getD "", description.getD "", version.join, nodes, connections.getD []⟩)

/-- Reads a document. -/
def ofText (text : String) : Except Fault Document := readAll document text

end Dataflow.Document
