import HandlePool.Counters
import HandlePool.Handle

/-!
# The guard of a pool

Every handle that leaves a pool passes its guard, and nothing else closes
handles of a pool.  The guard counts the removal by its cause, closes the handle
unless it was replaced and is to be retained, and notes what happened.
-/

namespace HandlePool

/-- Something that happened in a pool and is worth a line. -/
inductive PoolEvent where
  /-- A replaced handle was left to its new owner. -/
  | leftOpen (key : String)
  /-- A handle was closed. -/
  | closed (key : String) (cause : RemovalCause)
  /-- A handle could not be closed properly. -/
  | closeFailed (key : String) (cause : RemovalCause) (error : IoError)
  /-- An entry is gone from the pool. -/
  | departed (key : String) (outcome : RemovalOutcome)
  /-- A key has no entry any more. -/
  | invalidated (key : String)
  /-- So many live entries were removed together. -/
  | invalidatedAll (count : Nat)
  deriving DecidableEq, Repr

/-- The line of an event in the pool of that name. -/
def PoolEvent.line (pool : String) : PoolEvent → String
  | .leftOpen key =>
    "WARN Replaced file handle left open; ownership moved to the replacing caller" ++
      " cache=" ++ pool ++ " path=" ++ key
  | .closed key cause =>
    "INFO Closed cached file handle cache=" ++ pool ++ " path=" ++ key ++
      " cause=" ++ cause.name
  | .closeFailed key cause error =>
    "WARN Error while closing cached file handle cache=" ++ pool ++ " path=" ++
      key ++ " cause=" ++ cause.name ++ " error=" ++ error.message
  | .departed key outcome =>
    "DEBUG Handle left cache cache=" ++ pool ++ " path=" ++ key ++
      " outcome=" ++ outcome.label
  | .invalidated key =>
    "DEBUG Invalidated cached handle cache=" ++ pool ++ " path=" ++ key
  | .invalidatedAll count =>
    "DEBUG Invalidated all cached handles cache=" ++ pool ++ " removed=" ++
      toString count

/-- What the guard made of a handle. -/
structure Release (η : Type) where
  handle : η
  outcome : RemovalOutcome
  counters : Counters
  event : PoolEvent

/-- Release a handle that leaves a pool for some cause. -/
def release {η : Type} [Handle η] (policy : ReplacePolicy) (counters : Counters)
    (key : String) (cause : RemovalCause) (handle : η) : Release η :=
  let counters := counters.record (.removal cause)
  if cause = .replaced ∧ policy = .retain then
    ⟨handle, .retained, counters, .leftOpen key⟩
  else
    let counters := counters.record .close
    match Handle.close handle with
    | (.ok (), handle) => ⟨handle, .closed, counters, .closed key cause⟩
    | (.error error, handle) =>
      ⟨handle, .closeFailed, counters.record .closeFailure,
        .closeFailed key cause error⟩

/-- A handle is left to its new owner only when it was replaced and the policy
is to retain it. -/
theorem outcome_release_eq_retained_iff {η : Type} [Handle η]
    {policy : ReplacePolicy}
    {counters : Counters} {key : String} {cause : RemovalCause} {handle : η} :
    (release policy counters key cause handle).outcome = .retained ↔
      cause = .replaced ∧ policy = .retain := by
  unfold release
  split
  · next retained => simp [retained]
  · next released =>
    split <;> simp [released]

/-- In every other case the handle has been closed. -/
theorem handle_release_of_not_retained {η : Type} [Handle η]
    {policy : ReplacePolicy} {cause : RemovalCause}
    (released : ¬(cause = .replaced ∧ policy = .retain)) (counters : Counters)
    (key : String) (handle : η) :
    (release policy counters key cause handle).handle =
      (Handle.close handle).2 := by
  unfold release
  rw [if_neg released]
  split <;> simp_all

end HandlePool
