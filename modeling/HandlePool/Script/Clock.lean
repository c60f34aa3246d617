import HandlePool.Pool

/-!
# The clock of a script

Scripts run against a clock of their own.  Every call takes a few nanoseconds,
so an idle time of one nanosecond has always passed when a call settles its
pool; apart from that only pauses move the clock.
-/

namespace HandlePool

/-- Nanoseconds between the start of a call and the moment it settles. -/
def callNanos : Nat := 2

/-- Nanoseconds in a millisecond. -/
def nanosPerMilli : Nat := 1000000

/-- The times of a call that starts now. -/
def CallTime.startingAt (now : Instant) : CallTime :=
  .lasting now 0 callNanos

/-- Lines in an order that does not depend on which entry went first. -/
def sortLines (lines : List String) : List String :=
  lines.mergeSort fun left right => left ≤ right

end HandlePool
