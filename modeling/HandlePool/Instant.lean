/-!
# Points in time

Time is read by the caller and passed in, so that nothing
here depends on a clock.
-/

namespace HandlePool

/-- A point in time, in nanoseconds since the caller's clock started. -/
abbrev Instant := Nat

/-- When a call that may open a handle looks for the key, when it keeps the
handle that was opened, and when it puts the pool in order again. -/
structure CallTime where
  starts : Instant
  inserts : Instant
  settles : Instant
  starts_le_inserts : starts ≤ inserts := by omega
  inserts_le_settles : inserts ≤ settles := by omega

namespace CallTime

/-- The times of a call that starts now, takes some time until a handle is
opened, and some more until it puts the pool in order. -/
def lasting (now : Instant) (opening settling : Nat) : CallTime :=
  ⟨now, now + opening, now + opening + settling, Nat.le_add_right _ _,
    Nat.le_add_right _ _⟩

/-- The times of a call that takes no time. -/
def instantly (now : Instant) : CallTime :=
  ⟨now, now, now, Nat.le_refl now, Nat.le_refl now⟩

theorem inOrder (time : CallTime) : time.starts ≤ time.settles :=
  Nat.le_trans time.starts_le_inserts time.inserts_le_settles

end CallTime
end HandlePool
