import Dataflow.Bytes.Run
import Dataflow.Bytes.Workflow
/-!
Stores: bytes under keys, and workflows and runs in them.

A store in memory takes every key. One in a folder keeps each entry in a file of its own, so its keys are limited
to what is a plain file name everywhere, and what else there is in the folder can get in the way.
-/

namespace Dataflow

/-! ## Errors -/

/-- Why a store does not do what it is asked. -/
inductive StorageError where
  | io (key detail : String)
  | encode (key detail : String)
  | decode (key detail : String)
  | invalidKey (key : String)
  /-- A fault of the store itself. -/
  | backend (detail : String)
deriving DecidableEq

def StorageError.message : StorageError → String
  | .io key detail => "Storage I/O failed for key '" ++ key ++ "': " ++ detail
  | .encode key detail => "Failed to encode value for key '" ++ key ++ "': " ++ detail
  | .decode key detail => "Failed to decode value for key '" ++ key ++ "': " ++ detail
  | .invalidKey key => "Invalid storage key '" ++ key ++ "'"
  | .backend detail => "Storage backend failure: " ++ detail

/-! ## Stores -/

/-- What can be done with a store. -/
class ByteStore (σ : Type) where
  save : σ → String → Bytes → Except StorageError σ
  /-- The bytes under a key, or `none` if there are none. -/
  load : σ → String → Except StorageError (Option Bytes)
  /-- Takes the bytes away, and tells whether there were any. -/
  remove : σ → String → Except StorageError (Bool × σ)

/-- A store in memory. -/
structure MemoryStore where
  entries : Dict Bytes := .empty

instance : ByteStore MemoryStore where
  save s key bytes := .ok ⟨s.entries.insert key bytes⟩
  load s key := .ok (s.entries.get? key)
  remove s key := .ok (s.entries.contains key, ⟨s.entries.erase key⟩)

/-- What stands in a folder under a name. -/
inductive FolderEntry where
  | file (content : Bytes)
  | folder
deriving DecidableEq

/-- A store in a folder. -/
structure Folder where
  entries : Dict FolderEntry := .empty
  /-- The length of the longest name for a file, if there is such a limit. -/
  nameLimit : Option Nat := some 255

namespace Folder

/-- A new folder at a path below something; there is none below a file. -/
def createBelow (place : FolderEntry) (path : String) : Except StorageError Folder :=
  match place with
  | .folder => .ok {}
  | .file _ => .error (.io path "not a folder")

/-- The characters of keys: ASCII letters, digits and a few marks. -/
def isKeyChar (c : Char) : Bool := c.isAlphanum || c == '-' || c == '_' || c == '.'

def isKey (key : String) : Bool :=
  !key.toList.isEmpty && key.toList.head? != some '.' && key.toList.all isKeyChar

/-- The name of the file of a key. -/
def fileName (key : String) : String := key ++ ".bin"

/-- The name of the file of a key, if the key is one and the file may have that name. -/
def fileName? (f : Folder) (key : String) : Except StorageError String :=
  if !isKey key then .error (.invalidKey key)
  else if f.nameLimit.any (· < (fileName key).toList.length) then .error (.io key "file name too long")
  else .ok (fileName key)

/-- Makes a folder where the file of a key would be. -/
def block (f : Folder) (key : String) : Folder :=
  { f with entries := f.entries.insert (fileName key) .folder }

/-- The names of everything in the folder. -/
def names (f : Folder) : List String := f.entries.keys

def isFolder (key : String) : StorageError := .io key "is a folder"

instance : ByteStore Folder where
  save f key bytes := do
    let name ← f.fileName? key
    match f.entries.get? name with
    | some .folder => .error (isFolder key)
    | _ => .ok { f with entries := f.entries.insert name (.file bytes) }
  load f key := do
    let name ← f.fileName? key
    match f.entries.get? name with
    | some .folder => .error (isFolder key)
    | some (.file bytes) => .ok (some bytes)
    | none => .ok none
  remove f key := do
    let name ← f.fileName? key
    match f.entries.get? name with
    | some .folder => .error (isFolder key)
    | some (.file _) => .ok (true, { f with entries := f.entries.erase name })
    | none => .ok (false, f)

end Folder

/-! ## Workflows and runs -/

namespace ByteStore

variable {σ : Type} [ByteStore σ]

/-- What a decoder makes of the bytes under a key. -/
def loadAs {α : Type} (d : Decoder α) (s : σ) (key : String) : Except StorageError (Option α) := do
  match ← load s key with
  | none => .ok none
  | some bytes => match d.decode? bytes with
    | some x => .ok (some x)
    | none => .error (.decode key "the bytes hold something else")

def saveWorkflow (s : σ) (key : String) (w : Workflow) : Except StorageError σ := save s key w.toBytes

def loadWorkflow (s : σ) (key : String) : Except StorageError (Option Workflow) := loadAs Decoder.workflow s key

def saveRun (s : σ) (key : String) (r : RunResult) : Except StorageError σ := save s key r.toBytes

def loadRun (s : σ) (key : String) : Except StorageError (Option RunResult) := loadAs Decoder.runResult s key

end ByteStore

end Dataflow
