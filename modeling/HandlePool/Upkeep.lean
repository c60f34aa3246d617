import HandlePool.Instant

/-!
# When a pool is put in order

Expired entries of a pool go when the pool is put in order, which takes time and
is put off.  It is due at a lookup once enough lookups were made since it was
last done, and at a removal by key once enough of those were; some time after it
was last done a single call of either kind is enough.

Expired entries are taken in rounds.  An entry that is just being removed still
has its place among them, and the round that comes upon it is the last one.
-/

namespace HandlePool

/-- The calls that may find a pool due to be put in order. -/
inductive Occasion where
  /-- A key was looked up, found or not. -/
  | lookup
  /-- The entry of a key was removed on request. -/
  | removal
  deriving DecidableEq, Repr

/-- What was put off since a pool was last in order. -/
structure Upkeep where
  lookups : Nat
  removals : Nat
  /-- From here on a single call is enough. -/
  deadline : Instant
  deriving DecidableEq, Repr

namespace Upkeep

/-- How many calls of one kind may be put off. -/
def patience : Nat := 64

/-- Nanoseconds from putting a pool in order to the deadline. -/
def interval : Nat := 300000000

/-- How many entries a round takes. -/
def round : Nat := 384

/-- How many entries are taken up to the end of the round that comes upon a
position. -/
def reach (position : Nat) : Nat := (position / round + 1) * round

/-- Nothing has been put off yet. -/
def startingAt (now : Instant) : Upkeep := ⟨0, 0, now + interval⟩

/-- The calls of a kind that were put off. -/
def calls (upkeep : Upkeep) : Occasion → Nat
  | .lookup => upkeep.lookups
  | .removal => upkeep.removals

/-- A call of a kind finds the pool due. -/
def isDue (upkeep : Upkeep) (occasion : Occasion) (now : Instant) : Bool :=
  patience ≤ upkeep.calls occasion || upkeep.deadline ≤ now

/-- Put off one more call. -/
def record (upkeep : Upkeep) : Occasion → Upkeep
  | .lookup => { upkeep with lookups := upkeep.lookups + 1 }
  | .removal => { upkeep with removals := upkeep.removals + 1 }

/-- The round that comes upon a position takes it. -/
theorem lt_reach (position : Nat) : position < reach position := by
  have whole : 0 < round := by decide
  exact Nat.lt_mul_of_div_lt (Nat.lt_succ_self (position / round)) whole

@[simp] theorem calls_startingAt (now : Instant) (occasion : Occasion) :
    (startingAt now).calls occasion = 0 := by
  cases occasion <;> rfl

@[simp] theorem calls_record_self (upkeep : Upkeep) (occasion : Occasion) :
    (upkeep.record occasion).calls occasion = upkeep.calls occasion + 1 := by
  cases occasion <;> rfl

@[simp] theorem deadline_record (upkeep : Upkeep) (occasion : Occasion) :
    (upkeep.record occasion).deadline = upkeep.deadline := by
  cases occasion <;> rfl

/-- Nothing is due right after a pool was put in order, until the interval is
over. -/
theorem isDue_startingAt_iff (start now : Instant) (occasion : Occasion) :
    (startingAt start).isDue occasion now = true ↔ start + interval ≤ now := by
  have inTime : ¬ patience ≤ 0 := by decide
  rw [isDue, calls_startingAt, Bool.or_eq_true, decide_eq_true_iff,
    decide_eq_true_iff]
  exact or_iff_right inTime

end Upkeep
end HandlePool
