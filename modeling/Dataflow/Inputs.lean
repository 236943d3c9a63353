import Dataflow.Json.Reader
import Dataflow.Value.Json
/-!
The inputs of a run as a JSON document: an object with a member for each source that takes one.
-/

namespace Dataflow

/-- Values under the names of sources. -/
abbrev Inputs := Dict Value

namespace Inputs

/-- The inputs in the members of a document. -/
def ofMembers (members : Dict Json) : Inputs := members.mapValues Value.ofJson

/-- The members of the document; numbers that are not finite become null. -/
def toMembers (inputs : Inputs) : Dict Json := inputs.mapValues Value.toJson

/-- Reads the document. Of two members with one name the later one stays. -/
def ofJsonText (text : String) : Except Json.Fault Inputs :=
  (Json.readAll (Json.Reader.dict (Json.depthLimit - 1)) text).map ofMembers

/-- The document. -/
def toJson (inputs : Inputs) : Json := .object inputs.toMembers.entries

end Inputs

end Dataflow
