import Dataflow.Document.Basic
import Dataflow.Json.Printer
/-!
Writing documents as JSON text. The members of each part come in a fixed order, those of a node's data by name.
-/

namespace Dataflow

def Connection.toJson (c : Connection) : Json :=
  .object [("id", .string c.id), ("from", .string c.origin), ("to", .string c.target)]

def DocumentNode.toJson (n : DocumentNode) : Json :=
  let role := n.role.toList.map fun role => ("role", Json.string role.name)
  .object ([("id", .string n.id), ("type", .string n.kind)] ++ role ++ [("data", .object n.data.entries)])

namespace Document

def toJson (d : Document) : Json :=
  let version := d.version.toList.map fun version => ("version", Json.string version)
  .object ([("name", .string d.name), ("description", .string d.description)] ++ version
    ++ [("nodes", .array (d.nodes.map DocumentNode.toJson)),
      ("connections", .array (d.connections.map Connection.toJson))])

/-- The text that an editor saves. -/
def text (d : Document) : String := d.toJson.pretty

end Document

end Dataflow
