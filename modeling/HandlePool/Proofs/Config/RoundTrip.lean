import HandlePool.Config.Document
import HandlePool.Counters.Document
import HandlePool.Proofs.Json.Objects

/-!
# Documents are read back

Configurations of one pool and of a façade and snapshots of either are written
as objects with all their fields, and read back from any layout of these.  So
loading what was written of a façade configuration gives this configuration, or
says why it is not valid.
-/

namespace HandlePool

/-! ## Configurations -/

theorem ReplacePolicy.reads_name
    (policy : ReplacePolicy) :
    Json.Reads (Json.readChoice choices)
      (Json.exactly (Json.written policy.name)) policy := by
  apply Json.reads_choice
  · cases policy <;> decide
  · cases policy <;> decide

namespace PoolConfig

/-- The members of the compact document. -/
def members (config : PoolConfig) : List Json.Member :=
  [("max_size", toString config.maxSize),
   ("idle_expiration", Json.written config.idle.spell),
   ("replace_policy", Json.written config.policy.name)]

/-- All layouts of the document. -/
def layouts (config : PoolConfig) : Set (List UInt8) :=
  Json.layouts (Json.fieldsOf config.members)

theorem reads_layouts
    (config : PoolConfig) :
    Json.Reads record.read config.layouts config := by
  have plainNames : record.HasPlainNames := by
    decide
  have fills : record.Fills record.blank (Json.fieldsOf config.members)
      ⟨some config.maxSize, some config.idle, some config.policy⟩ := by
    refine .field rfl rfl (Json.Record.reads_field (Json.reads_count _) _) ?_
    refine .field rfl rfl (Json.Record.reads_field (Json.reads_duration _) _) ?_
    refine .field rfl rfl
      (Json.Record.reads_field config.policy.reads_name _) ?_
    exact .done
  exact Json.Record.reads_layouts plainNames fills rfl

theorem document_mem_layouts
    (config : PoolConfig) :
    Utf8.encode config.document.toList ∈ config.layouts :=
  Json.object_mem_layouts_fieldsOf (List.cons_ne_nil _ _)

end PoolConfig

namespace FacadeConfig

/-- The members of the compact document. -/
def members (config : FacadeConfig) : List Json.Member :=
  [("read_cache_max_size", toString config.readMaxSize),
   ("write_cache_max_size", toString config.writeMaxSize),
   ("read_idle_expiration", Json.written config.readIdle.spell),
   ("write_idle_expiration", Json.written config.writeIdle.spell),
   ("replace_policy", Json.written config.policy.name)]

/-- All layouts of the document. -/
def layouts (config : FacadeConfig) : Set (List UInt8) :=
  Json.layouts (Json.fieldsOf config.members)

theorem reads_layouts
    (config : FacadeConfig) :
    Json.Reads record.read config.layouts config := by
  have plainNames : record.HasPlainNames := by
    decide
  have fills : record.Fills record.blank (Json.fieldsOf config.members)
      ⟨some config.readMaxSize, some config.writeMaxSize, some config.readIdle,
        some config.writeIdle, some config.policy⟩ := by
    refine .field rfl rfl (Json.Record.reads_field (Json.reads_count _) _) ?_
    refine .field rfl rfl (Json.Record.reads_field (Json.reads_count _) _) ?_
    refine .field rfl rfl (Json.Record.reads_field (Json.reads_duration _) _) ?_
    refine .field rfl rfl (Json.Record.reads_field (Json.reads_duration _) _) ?_
    refine .field rfl rfl
      (Json.Record.reads_field config.policy.reads_name _) ?_
    exact .done
  exact Json.Record.reads_layouts plainNames fills rfl

theorem document_mem_layouts
    (config : FacadeConfig) :
    Utf8.encode config.document.toList ∈ config.layouts :=
  Json.object_mem_layouts_fieldsOf (List.cons_ne_nil _ _)

end FacadeConfig

/-! ## Snapshots -/

namespace Snapshot

/-- The members of the compact document. -/
def members (snapshot : Snapshot) : List Json.Member :=
  [("hits", toString snapshot.hits),
   ("misses", toString snapshot.misses),
   ("opens", toString snapshot.opens),
   ("open_failures", toString snapshot.openFailures),
   ("closes", toString snapshot.closes),
   ("close_failures", toString snapshot.closeFailures),
   ("invalidated", toString snapshot.invalidated),
   ("size_evicted", toString snapshot.sizeEvicted),
   ("expired", toString snapshot.expired),
   ("replaced", toString snapshot.replaced)]

/-- All layouts of the document. -/
def layouts (snapshot : Snapshot) : Set (List UInt8) :=
  Json.layouts (Json.fieldsOf (members snapshot))

theorem reads_layouts
    (snapshot : Snapshot) :
    Json.Reads record.read (layouts snapshot) snapshot := by
  have plainNames : record.HasPlainNames := by
    decide
  have reads (count : UInt64) := Json.reads_count count
  have fills : record.Fills record.blank (Json.fieldsOf (members snapshot))
      (snapshot.map some) := by
    refine .field rfl rfl (Json.Record.reads_field (reads _) _) ?_
    refine .field rfl rfl (Json.Record.reads_field (reads _) _) ?_
    refine .field rfl rfl (Json.Record.reads_field (reads _) _) ?_
    refine .field rfl rfl (Json.Record.reads_field (reads _) _) ?_
    refine .field rfl rfl (Json.Record.reads_field (reads _) _) ?_
    refine .field rfl rfl (Json.Record.reads_field (reads _) _) ?_
    refine .field rfl rfl (Json.Record.reads_field (reads _) _) ?_
    refine .field rfl rfl (Json.Record.reads_field (reads _) _) ?_
    refine .field rfl rfl (Json.Record.reads_field (reads _) _) ?_
    refine .field rfl rfl (Json.Record.reads_field (reads _) _) ?_
    exact .done
  exact Json.Record.reads_layouts plainNames fills rfl

theorem document_mem_layouts
    (snapshot : Snapshot) :
    Utf8.encode (document snapshot).toList ∈ layouts snapshot :=
  Json.object_mem_layouts_fieldsOf (List.cons_ne_nil _ _)

end Snapshot

namespace FacadeSnapshot

/-- The fields of the document. -/
def fields (snapshot : FacadeSnapshot) : List Json.Field :=
  [("read", Snapshot.layouts snapshot.read),
    ("write", Snapshot.layouts snapshot.write)]

/-- All layouts of the document. -/
def layouts (snapshot : FacadeSnapshot) : Set (List UInt8) :=
  Json.layouts snapshot.fields

theorem reads_layouts
    (snapshot : FacadeSnapshot) :
    Json.Reads record.read snapshot.layouts snapshot := by
  have plainNames : record.HasPlainNames := by
    decide
  have fills : record.Fills record.blank snapshot.fields
      ⟨some snapshot.read, some snapshot.write⟩ := by
    refine .field rfl rfl
      (Json.Record.reads_field (Snapshot.reads_layouts _) _) ?_
    refine .field rfl rfl
      (Json.Record.reads_field (Snapshot.reads_layouts _) _) ?_
    exact .done
  exact Json.Record.reads_layouts plainNames fills rfl

theorem document_mem_layouts
    (snapshot : FacadeSnapshot) :
    Utf8.encode snapshot.document.toList ∈ snapshot.layouts := by
  apply Json.object_mem_layouts (List.cons_ne_nil _ _)
  refine .cons ⟨rfl, ?_⟩ (.cons ⟨rfl, ?_⟩ .nil)
  · exact Snapshot.document_mem_layouts snapshot.read
  · exact Snapshot.document_mem_layouts snapshot.write

end FacadeSnapshot

/-! ## Round trips -/

/-- What is written of a value is read back, and so is every
other layout of it. -/
def RoundTrips {α : Type} (write : α → String) (layouts : α → Set (List UInt8))
    (read : List UInt8 → Except Json.Refusal α) : Prop :=
  ∀ value, read (Utf8.encode (write value).toList) = .ok value ∧
    Utf8.encode (write value).toList ∈ layouts value ∧
    ∀ document ∈ layouts value, read document = .ok value

theorem RoundTrips.of_reads
    {α : Type}
    {write : α → String}
    {layouts : α → Set (List UInt8)}
    {reader : Json.Reader α}
    (written : ∀ value, Utf8.encode (write value).toList ∈ layouts value)
    (reads : ∀ value, Json.Reads reader (layouts value) value) :
    RoundTrips write layouts (Json.readDocument reader) := by
  intro value
  have readBack : ∀ document ∈ layouts value,
      Json.readDocument reader document = .ok value :=
    fun _ => Json.readDocument_of_reads (reads value)
  exact ⟨readBack _ (written value), written value, readBack⟩

/-- What was written of a configuration is loaded as this configuration, or
refused for what is not valid in it. -/
theorem FacadeConfig.load_document
    (config : FacadeConfig) :
    load (Utf8.encode config.document.toList) =
      match config.validate with
      | .ok () => .ok config
      | .error error => .error (.invalid error) := by
  have said : ofDocument (Utf8.encode config.document.toList) = .ok config :=
    Json.readDocument_of_reads config.reads_layouts config.document_mem_layouts
  cases valid : config.validate with
  | error error => simp only [load, said, valid]
  | ok _ => simp only [load, said, valid]

theorem FacadeConfig.load_document_of_valid
    {config : FacadeConfig}
    (valid : config.validate = .ok ()) :
    load (Utf8.encode config.document.toList) = .ok config := by
  rw [load_document, valid]

/-- All configurations and snapshots are read back from what is written of them,
however blanks are placed, and a façade configuration that was written is loaded
if it is valid. -/
theorem documents_round_trip :
    RoundTrips PoolConfig.document PoolConfig.layouts PoolConfig.ofDocument ∧
    RoundTrips FacadeConfig.document FacadeConfig.layouts
      FacadeConfig.ofDocument ∧
    RoundTrips Snapshot.document Snapshot.layouts Snapshot.ofDocument ∧
    RoundTrips FacadeSnapshot.document FacadeSnapshot.layouts
      FacadeSnapshot.ofDocument ∧
    ∀ config : FacadeConfig,
      FacadeConfig.load (Utf8.encode config.document.toList) =
      match config.validate with
      | .ok () => .ok config
      | .error error => .error (.invalid error) := by
  refine ⟨?_, ?_, ?_, ?_, FacadeConfig.load_document⟩
  · exact .of_reads PoolConfig.document_mem_layouts PoolConfig.reads_layouts
  · exact .of_reads FacadeConfig.document_mem_layouts FacadeConfig.reads_layouts
  · exact .of_reads Snapshot.document_mem_layouts Snapshot.reads_layouts
  · exact .of_reads FacadeSnapshot.document_mem_layouts
      FacadeSnapshot.reads_layouts

end HandlePool
