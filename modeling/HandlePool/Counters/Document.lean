import HandlePool.Counters
import HandlePool.Json.Record

/-!
# Snapshots as documents

A snapshot is an object with all ten counters, none of which may be missing.
-/

namespace HandlePool
namespace Snapshot

/-- The counters read so far. -/
abbrev Draft := Tally (Option UInt64)

/-- A draft without any counter. -/
def Draft.blank : Draft :=
  ⟨none, none, none, none, none, none, none, none, none, none⟩

/-- A snapshot as a record. -/
def record : Json.Record Draft Snapshot where
  title := "struct HandleCacheStatsSnapshot"
  slots :=
    [.field "hits" true Tally.hits
       (fun draft value => { draft with hits := some value }) Json.readCount,
     .field "misses" true Tally.misses
       (fun draft value => { draft with misses := some value }) Json.readCount,
     .field "opens" true Tally.opens
       (fun draft value => { draft with opens := some value }) Json.readCount,
     .field "open_failures" true Tally.openFailures
       (fun draft value => { draft with openFailures := some value })
         Json.readCount,
     .field "closes" true Tally.closes
       (fun draft value => { draft with closes := some value }) Json.readCount,
     .field "close_failures" true Tally.closeFailures
       (fun draft value => { draft with closeFailures := some value })
         Json.readCount,
     .field "invalidated" true Tally.invalidated
       (fun draft value => { draft with invalidated := some value })
         Json.readCount,
     .field "size_evicted" true Tally.sizeEvicted
       (fun draft value => { draft with sizeEvicted := some value })
         Json.readCount,
     .field "expired" true Tally.expired
       (fun draft value => { draft with expired := some value }) Json.readCount,
     .field "replaced" true Tally.replaced
       (fun draft value => { draft with replaced := some value })
         Json.readCount]
  blank := Draft.blank
  build := fun draft => draft.map fun value => value.getD 0

/-- The document of a snapshot. -/
def document (snapshot : Snapshot) : String :=
  Json.object
    [("hits", toString snapshot.hits),
     ("misses", toString snapshot.misses),
     ("opens", toString snapshot.opens),
     ("open_failures", toString snapshot.openFailures),
     ("closes", toString snapshot.closes),
     ("close_failures", toString snapshot.closeFailures),
     ("invalidated", toString snapshot.invalidated),
     ("size_evicted", toString snapshot.sizeEvicted),
     ("expired", toString snapshot.expired),
     ("replaced", toString snapshot.replaced)]

/-- Read the document of a snapshot. -/
def ofDocument (document : List UInt8) : Except Json.Refusal Snapshot :=
  Json.readDocument record.read document

end Snapshot

namespace FacadeSnapshot

/-- The readings read so far. -/
structure Draft where
  read : Option Snapshot := none
  write : Option Snapshot := none

/-- A reading of both pools as a record. -/
def record : Json.Record Draft FacadeSnapshot where
  title := "struct FileSystemStatsSnapshot"
  slots :=
    [.field "read" true Draft.read
       (fun draft value => { draft with read := some value })
         Snapshot.record.read,
     .field "write" true Draft.write
       (fun draft value => { draft with write := some value })
         Snapshot.record.read]
  blank := {}
  build := fun draft =>
    ⟨draft.read.getD (Counters.zero.snapshot),
     draft.write.getD (Counters.zero.snapshot)⟩

/-- The document of a reading of both pools. -/
def document (snapshot : FacadeSnapshot) : String :=
  Json.object
    [("read", Snapshot.document snapshot.read),
     ("write", Snapshot.document snapshot.write)]

/-- Read the document of a reading of both pools. -/
def ofDocument (document : List UInt8) : Except Json.Refusal FacadeSnapshot :=
  Json.readDocument record.read document

end FacadeSnapshot
end HandlePool
