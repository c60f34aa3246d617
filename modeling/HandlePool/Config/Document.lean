import HandlePool.Config
import HandlePool.IoError
import HandlePool.Json.Record

/-!
# Configurations as documents

A configuration is an object of up to five members.  What a document leaves out
has its default; what it says must still be valid.
-/

namespace HandlePool

/-- The causes by name. -/
def RemovalCause.choices : Json.Choices RemovalCause :=
  all.map fun cause => (cause.name, cause)

/-- The policies by name. -/
def ReplacePolicy.choices : Json.Choices ReplacePolicy :=
  all.map fun policy => (policy.name, policy)

namespace PoolConfig

/-- The fields of a pool configuration read so far. -/
structure Draft where
  maxSize : Option UInt64 := none
  idle : Option Duration := none
  policy : Option ReplacePolicy := none

/-- A pool configuration as a record; only the policy has a default. -/
def record : Json.Record Draft PoolConfig where
  title := "struct HandleCacheConfig"
  slots :=
    [.field "max_size" true Draft.maxSize
       (fun draft value => { draft with maxSize := some value }) Json.readCount,
     .field "idle_expiration" true Draft.idle
       (fun draft value => { draft with idle := some value }) Json.readDuration,
     .field "replace_policy" false Draft.policy
       (fun draft value => { draft with policy := some value })
       (Json.readChoice ReplacePolicy.choices)]
  blank := {}
  build := fun draft =>
    ⟨draft.maxSize.getD 0, draft.idle.getD .zero, draft.policy.getD .close⟩

/-- The document of a pool configuration. -/
def document (config : PoolConfig) : String :=
  Json.object
    [("max_size", toString config.maxSize),
     ("idle_expiration", Json.written config.idle.spell),
     ("replace_policy", Json.written config.policy.name)]

/-- Read the document of a pool configuration. -/
def ofDocument (document : List UInt8) : Except Json.Refusal PoolConfig :=
  Json.readDocument record.read document

end PoolConfig

/-- Why no configuration could be loaded. -/
inductive LoadError where
  /-- The configuration is not valid. -/
  | invalid (error : ConfigError)
  /-- The document could not be read from its file. -/
  | unreadable (error : IoError)
  /-- The document says no configuration. -/
  | malformed (error : Json.DocumentError)
  /-- Loading stopped outright. -/
  | aborted (reason : Abort)
  deriving DecidableEq

/-- The text of a load error. -/
def LoadError.message : LoadError → String
  | .invalid error => error.message
  | .unreadable error => "IO error: " ++ error.message
  | .malformed error => "JSON error: " ++ error.message
  | .aborted reason => reason.message

/-- A refused document as a load error. -/
def LoadError.ofRefusal : Json.Refusal → LoadError
  | .document error => .malformed error
  | .aborted reason => .aborted reason

/-- Where a document is to be loaded from. -/
inductive Source where
  /-- There is no such file. -/
  | missing
  /-- The path names a directory. -/
  | directory
  /-- A file with these bytes. -/
  | file (bytes : List UInt8)
  deriving DecidableEq

/-- The bytes of a text file. -/
def Source.read : Source → Except IoError (List UInt8)
  | .missing => .error (.system Errno.noEntry)
  | .directory => .error (.system Errno.isDirectory)
  | .file bytes =>
    if (Utf8.decode? bytes).isSome then .ok bytes else .error .notText

namespace FacadeConfig

/-- The fields of a façade configuration read so far. -/
structure Draft where
  readMaxSize : Option UInt64 := none
  writeMaxSize : Option UInt64 := none
  readIdle : Option Duration := none
  writeIdle : Option Duration := none
  policy : Option ReplacePolicy := none

/-- A draft as a configuration, with the defaults for what is missing. -/
def Draft.build (draft : Draft) : FacadeConfig :=
  let standard : FacadeConfig := {}
  { readMaxSize := draft.readMaxSize.getD standard.readMaxSize
    writeMaxSize := draft.writeMaxSize.getD standard.writeMaxSize
    readIdle := draft.readIdle.getD standard.readIdle
    writeIdle := draft.writeIdle.getD standard.writeIdle
    policy := draft.policy.getD standard.policy }

/-- A façade configuration as a record; every field has a default. -/
def record : Json.Record Draft FacadeConfig where
  title := "struct FileSystemConfig"
  slots :=
    [.field "read_cache_max_size" false Draft.readMaxSize
       (fun draft value => { draft with readMaxSize := some value })
         Json.readCount,
     .field "write_cache_max_size" false Draft.writeMaxSize
       (fun draft value => { draft with writeMaxSize := some value })
         Json.readCount,
     .field "read_idle_expiration" false Draft.readIdle
       (fun draft value => { draft with readIdle := some value })
         Json.readDuration,
     .field "write_idle_expiration" false Draft.writeIdle
       (fun draft value => { draft with writeIdle := some value })
         Json.readDuration,
     .field "replace_policy" false Draft.policy
       (fun draft value => { draft with policy := some value })
       (Json.readChoice ReplacePolicy.choices)]
  blank := {}
  build := Draft.build

/-- The document of a façade configuration. -/
def document (config : FacadeConfig) : String :=
  Json.object
    [("read_cache_max_size", toString config.readMaxSize),
     ("write_cache_max_size", toString config.writeMaxSize),
     ("read_idle_expiration", Json.written config.readIdle.spell),
     ("write_idle_expiration", Json.written config.writeIdle.spell),
     ("replace_policy", Json.written config.policy.name)]

/-- Read the document of a façade configuration, whether valid or not. -/
def ofDocument (document : List UInt8) : Except Json.Refusal FacadeConfig :=
  Json.readDocument record.read document

/-- Load a valid configuration from a document. -/
def load (document : List UInt8) : Except LoadError FacadeConfig :=
  match ofDocument document with
  | .error refusal => .error (.ofRefusal refusal)
  | .ok config =>
    match config.validate with
    | .error error => .error (.invalid error)
    | .ok () => .ok config

/-- Load a valid configuration from a file. -/
def loadFile (source : Source) : Except LoadError FacadeConfig :=
  match source.read with
  | .error error => .error (.unreadable error)
  | .ok bytes => load bytes

end FacadeConfig
end HandlePool
