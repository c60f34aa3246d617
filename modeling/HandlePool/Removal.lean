/-!
# Why entries leave, and what becomes of their handles
-/

namespace HandlePool

/-- Why an entry left a pool. -/
inductive RemovalCause where
  /-- Its removal was asked for. -/
  | invalidated
  /-- The pool held more entries than it may. -/
  | sizeEvicted
  /-- It had not been used for the idle time. -/
  | expired
  /-- Another entry took its key. -/
  | replaced
  deriving DecidableEq, Repr

namespace RemovalCause

/-- The short name used in messages and documents. -/
def name : RemovalCause → String
  | .invalidated => "invalidated"
  | .sizeEvicted => "size_evicted"
  | .expired => "expired"
  | .replaced => "replaced"

/-- The name used in dumps. -/
def label : RemovalCause → String
  | .invalidated => "Invalidated"
  | .sizeEvicted => "SizeEvicted"
  | .expired => "Expired"
  | .replaced => "Replaced"

/-- All causes, in order. -/
def all : List RemovalCause := [.invalidated, .sizeEvicted, .expired, .replaced]

end RemovalCause

/-- What to do with a handle whose key another entry took. -/
inductive ReplacePolicy where
  /-- Close it like any other. -/
  | close
  /-- Leave it open; it belongs to whoever replaced it. -/
  | retain
  deriving DecidableEq, Repr

namespace ReplacePolicy

/-- The short name used in documents. -/
def name : ReplacePolicy → String
  | .close => "close"
  | .retain => "retain"

/-- The name used in dumps. -/
def label : ReplacePolicy → String
  | .close => "Close"
  | .retain => "Retain"

/-- Both policies, in order. -/
def all : List ReplacePolicy := [.close, .retain]

end ReplacePolicy

/-- What became of a removed handle. -/
inductive RemovalOutcome where
  /-- It was closed. -/
  | closed
  /-- Closing it failed. -/
  | closeFailed
  /-- It was left open. -/
  | retained
  deriving DecidableEq, Repr

/-- The name used in dumps. -/
def RemovalOutcome.label : RemovalOutcome → String
  | .closed => "Closed"
  | .closeFailed => "CloseFailed"
  | .retained => "Retained"

end HandlePool
