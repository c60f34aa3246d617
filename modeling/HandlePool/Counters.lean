import HandlePool.Abort
import HandlePool.Removal

/-!
# Counters of a pool

A pool counts ten kinds of events.  The counters themselves never overflow; a
snapshot shows each of them in 64 bits.  Sums over a snapshot are checked.
-/

namespace HandlePool

/-- One value for each kind of event. -/
structure Tally (α : Type) where
  hits : α
  misses : α
  opens : α
  openFailures : α
  closes : α
  closeFailures : α
  invalidated : α
  sizeEvicted : α
  expired : α
  replaced : α
  deriving DecidableEq, Repr

namespace Tally

variable {α β : Type}

/-- The values in order. -/
def toList (tally : Tally α) : List α :=
  [tally.hits, tally.misses, tally.opens, tally.openFailures, tally.closes,
   tally.closeFailures, tally.invalidated, tally.sizeEvicted, tally.expired,
   tally.replaced]

/-- Apply a function to every value. -/
def map (function : α → β) (tally : Tally α) : Tally β :=
  { hits := function tally.hits
    misses := function tally.misses
    opens := function tally.opens
    openFailures := function tally.openFailures
    closes := function tally.closes
    closeFailures := function tally.closeFailures
    invalidated := function tally.invalidated
    sizeEvicted := function tally.sizeEvicted
    expired := function tally.expired
    replaced := function tally.replaced }

end Tally

/-- The counters of a pool. -/
abbrev Counters := Tally Nat

/-- What a reading of the counters shows. -/
abbrev Snapshot := Tally UInt64

/-- An event that is counted. -/
inductive CountedEvent where
  | hit
  | miss
  | opened
  | openFailure
  | close
  | closeFailure
  | removal (cause : RemovalCause)
  deriving DecidableEq, Repr

namespace Counters

/-- No event yet. -/
def zero : Counters := ⟨0, 0, 0, 0, 0, 0, 0, 0, 0, 0⟩

/-- Count an event some times over. -/
def record (counters : Counters) (event : CountedEvent) (times : Nat := 1) :
    Counters :=
  match event with
  | .hit => { counters with hits := counters.hits + times }
  | .miss => { counters with misses := counters.misses + times }
  | .opened => { counters with opens := counters.opens + times }
  | .openFailure =>
      { counters with openFailures := counters.openFailures + times }
  | .close => { counters with closes := counters.closes + times }
  | .closeFailure =>
    { counters with closeFailures := counters.closeFailures + times }
  | .removal .invalidated =>
    { counters with invalidated := counters.invalidated + times }
  | .removal .sizeEvicted =>
    { counters with sizeEvicted := counters.sizeEvicted + times }
  | .removal .expired => { counters with expired := counters.expired + times }
  | .removal .replaced =>
      { counters with replaced := counters.replaced + times }

/-- The counters as they are read. -/
def snapshot (counters : Counters) : Snapshot := counters.map Nat.toUInt64

/-- Removals of any cause. -/
def removals (counters : Counters) : Nat :=
  counters.invalidated + counters.sizeEvicted + counters.expired +
    counters.replaced

/-- Handles that were opened and have not left again, read off the counters. -/
def resident (counters : Counters) : Nat := counters.opens - counters.removals

end Counters

/-! ## Sums over a snapshot -/

/-- A sum that must fit in 64 bits. -/
def checkedAdd (left right : UInt64) : Except Abort UInt64 :=
  if left.toNat + right.toNat < UInt64.size then .ok (left + right)
  else .error .sumOverflow

namespace Snapshot

/-- Removals of any cause. -/
def removals (snapshot : Snapshot) : Except Abort UInt64 := do
  let sum ← checkedAdd snapshot.invalidated snapshot.sizeEvicted
  let sum ← checkedAdd sum snapshot.expired
  checkedAdd sum snapshot.replaced

/-- Lookups of either outcome. -/
def lookups (snapshot : Snapshot) : Except Abort UInt64 :=
  checkedAdd snapshot.hits snapshot.misses

/-- The share of lookups that were hits; nothing looked up counts as zero. -/
def hitRate (snapshot : Snapshot) : Except Abort Float := do
  let lookups ← snapshot.lookups
  if lookups = 0 then .ok 0.0
  else .ok (snapshot.hits.toFloat / lookups.toFloat)

end Snapshot

/-- A reading of both pools of a façade. -/
structure FacadeSnapshot where
  read : Snapshot
  write : Snapshot
  deriving DecidableEq, Repr

namespace FacadeSnapshot

/-- Handles opened by either pool. -/
def totalOpens (snapshot : FacadeSnapshot) : Except Abort UInt64 :=
  checkedAdd snapshot.read.opens snapshot.write.opens

/-- Handles closed by either pool. -/
def totalCloses (snapshot : FacadeSnapshot) : Except Abort UInt64 :=
  checkedAdd snapshot.read.closes snapshot.write.closes

end FacadeSnapshot
end HandlePool
