/-!
# Failed checks

Some calls stop outright: a checked sum leaves its range, or a pool is asked to
keep idle handles longer than it can measure.  Nothing is answered but the
reason.
-/

namespace HandlePool

/-- Why a call stopped without an answer. -/
inductive Abort where
  /-- A sum of counters does not fit in 64 bits. -/
  | sumOverflow
  /-- Carrying a full second leaves the range of durations. -/
  | durationOverflow
  /-- The idle time is longer than a pool can measure. -/
  | idleTooLong
  /-- An expectation was not met. -/
  | unmet (message : String)
  deriving DecidableEq, Repr

/-- The text of the reason. -/
def Abort.message : Abort → String
  | .sumOverflow => "attempt to add with overflow"
  | .durationOverflow => "overflow in Duration::new"
  | .idleTooLong => "time_to_idle is longer than 1000 years"
  | .unmet message => message

end HandlePool
