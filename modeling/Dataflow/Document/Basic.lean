import Dataflow.Graph.Basic
import Dataflow.Json.Basic
/-!
Documents: workflows as a visual editor saves them.

A document says less and more than a workflow. The role of a node is left out where its kind implies it, and the
data of a node has the editor's names in it, with JSON values that nobody has interpreted.
-/

namespace Dataflow

structure DocumentNode where
  id : String
  kind : String
  /-- The role, where it is not the one that the kind implies. -/
  role : Option Role := none
  data : Dict Json := .empty

structure Document where
  name : String := ""
  description : String := ""
  version : Option String := none
  nodes : List DocumentNode
  connections : List Connection := []

end Dataflow
