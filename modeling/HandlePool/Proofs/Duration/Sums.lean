import HandlePool.Duration.Spelling
import Mathlib.Tactic.SplitIfs

/-!
# Sums of durations

A duration is told by how many nanoseconds it lasts, and every number of
nanoseconds below the number of 64-bit seconds is the length of one.  Adding to
a duration is adding these numbers as long as the sum is the length of a
duration.  Beyond that it fails, except that it stops outright where one full
second is carried over the last countable one.
-/

namespace HandlePool
namespace Duration

theorem totalNanos_lt
    (duration : Duration) :
    duration.totalNanos < UInt64.size * nanosPerSecond := by
  have seconds := duration.seconds.toNat_lt
  have nanos := duration.nanos_lt
  simp only [totalNanos, nanosPerSecond, UInt64.size] at *
  omega

/-- A duration is told by how long it lasts. -/
theorem eq_of_totalNanos_eq
    {left right : Duration}
    (same : left.totalNanos = right.totalNanos) :
    left = right := by
  obtain ⟨seconds, nanos, nanosSmall⟩ := left
  obtain ⟨seconds', nanos', nanosSmall'⟩ := right
  simp only [totalNanos, nanosPerSecond] at same nanosSmall nanosSmall'
  have sameSeconds : seconds = seconds' := by
    apply UInt64.toNat_inj.mp
    omega
  have sameNanos : nanos = nanos' := by
    omega
  subst sameSeconds sameNanos
  rfl

theorem exists_totalNanos_eq
    {nanos : Nat}
    (small : nanos < UInt64.size * nanosPerSecond) :
    ∃ duration : Duration, duration.totalNanos = nanos := by
  have secondsSmall : nanos / nanosPerSecond < UInt64.size :=
    Nat.div_lt_of_lt_mul (by rwa [Nat.mul_comm] at small)
  refine ⟨⟨(nanos / nanosPerSecond).toUInt64, nanos % nanosPerSecond,
    Nat.mod_lt _ (by decide)⟩, ?_⟩
  rw [totalNanos, Nat.toUInt64, UInt64.toNat_ofNat_of_lt' secondsSmall]
  exact Nat.div_add_mod' nanos nanosPerSecond

theorem isZero_iff
    {duration : Duration} :
    duration.isZero = true ↔ duration = .zero := by
  constructor
  · intro isZero
    rw [Duration.isZero, Bool.and_eq_true, beq_iff_eq, beq_iff_eq] at isZero
    apply eq_of_totalNanos_eq
    rw [totalNanos, isZero.1, isZero.2]
    rfl
  · rintro rfl
    rfl

end Duration

namespace Spelling

/-! ## Adding -/

theorem fit_bind
    {α : Type}
    (count : Nat)
    (next : Nat → Except Failure α) :
    (fit count >>= next) = if count < wordSize then next count
      else .error .malformed := by
  unfold fit
  split <;> rfl

theorem fit_fit_bind
    {α : Type}
    (count more : Nat)
    (next : Nat → Except Failure α) :
    (fit count >>= fun count => fit (more + count) >>= next) =
      if more + count < wordSize then next (more + count)
        else .error .malformed := by
  simp only [fit_bind]
  by_cases fits : more + count < wordSize
  · rw [if_pos (by omega)]
  · rw [if_neg fits, ite_self]

section Add

variable {total : Duration} {seconds nanos : Nat}

theorem add_of_below
    (below : total.nanos + nanos < nanosPerSecond) :
    add total seconds nanos =
      if total.seconds.toNat + seconds < wordSize then
        .ok ⟨(total.seconds.toNat + seconds).toUInt64,
          total.nanos + nanos, below⟩
      else .error .malformed := by
  have fits : total.nanos + nanos < wordSize := Nat.lt_trans below (by decide)
  have uncarried : ¬nanosPerSecond < total.nanos + nanos := Nat.lt_asymm below
  rw [add, fit_bind, if_pos fits]
  simp only [uncarried, if_false, Nat.add_zero, fit_fit_bind, below, dif_pos]

theorem add_of_full
    (full : total.nanos + nanos = nanosPerSecond) :
    add total seconds nanos =
      if total.seconds.toNat + seconds < wordSize then
        if total.seconds.toNat + seconds + 1 < wordSize then
          .ok (.ofSeconds (total.seconds.toNat + seconds + 1).toUInt64)
        else .error (.aborted .durationOverflow)
      else .error .malformed := by
  have fits : nanosPerSecond < wordSize := by decide
  rw [add, full, fit_bind, if_pos fits]
  simp only [Nat.lt_irrefl, if_false, Nat.add_zero, fit_fit_bind, dif_neg,
    not_false_eq_true]

theorem add_of_above
    (above : nanosPerSecond < total.nanos + nanos) :
    add total seconds nanos =
      if total.nanos + nanos < wordSize then
        if total.seconds.toNat +
          (seconds + (total.nanos + nanos) / nanosPerSecond) < wordSize then
          .ok ⟨(total.seconds.toNat +
            (seconds + (total.nanos + nanos) / nanosPerSecond)).toUInt64,
            (total.nanos + nanos) % nanosPerSecond, Nat.mod_lt _ (by decide)⟩
        else .error .malformed
      else .error .malformed := by
  have below : (total.nanos + nanos) % nanosPerSecond < nanosPerSecond :=
    Nat.mod_lt _ (by decide)
  rw [add, fit_bind]
  simp only [above, if_true, fit_fit_bind, below, dif_pos]

theorem ok_eq_ok_iff
    {count rest : Nat}
    (fits : count < wordSize)
    (restSmall : rest < nanosPerSecond)
    {sum : Duration} :
    (.ok ⟨count.toUInt64, rest, restSmall⟩ : Except Failure Duration) =
      .ok sum ↔ sum.totalNanos = count * nanosPerSecond + rest := by
  have counted : count.toUInt64.toNat = count := UInt64.toNat_ofNat_of_lt' fits
  rw [Except.ok.injEq]
  constructor
  · rintro rfl
    rw [Duration.totalNanos, counted]
  · intro same
    apply Duration.eq_of_totalNanos_eq
    rw [same, Duration.totalNanos, counted]

/-- A sum is a duration if some duration lasts as long, unless its nanoseconds
cannot be counted. -/
theorem add_eq_ok_iff
    {sum : Duration} :
    add total seconds nanos = .ok sum ↔
      sum.totalNanos = total.totalNanos + seconds * nanosPerSecond + nanos ∧
        total.nanos + nanos < wordSize := by
  have sumSmall := sum.totalNanos_lt
  have fullSmall : nanosPerSecond < wordSize := by decide
  have positive : 0 < nanosPerSecond := by decide
  obtain below | full | above :=
    Nat.lt_trichotomy (total.nanos + nanos) nanosPerSecond
  · rw [add_of_below below]
    split_ifs with fits
    · rw [ok_eq_ok_iff fits, Duration.totalNanos,
        Duration.totalNanos, Nat.add_mul]
      omega
    · simp only [false_iff, Duration.totalNanos, wordSize, UInt64.size,
        nanosPerSecond] at *
      omega
  · rw [add_of_full full]
    split_ifs with fits carryFits
    · rw [Duration.ofSeconds, ok_eq_ok_iff carryFits, Duration.totalNanos,
        Duration.totalNanos]
      simp only [Nat.add_mul]
      omega
    · simp only [false_iff, Duration.totalNanos, wordSize, UInt64.size,
        nanosPerSecond] at *
      omega
    · simp only [false_iff, Duration.totalNanos, wordSize, UInt64.size,
        nanosPerSecond] at *
      omega
  · rw [add_of_above above]
    split_ifs with nanosFit fits
    · rw [ok_eq_ok_iff fits, Duration.totalNanos, Duration.totalNanos]
      simp only [Nat.add_mul, nanosPerSecond]
      omega
    · simp only [false_iff, Duration.totalNanos, wordSize, UInt64.size,
        nanosPerSecond] at *
      omega
    · simp only [nanosFit, and_false]

/-- Adding stops outright where exactly one full second is carried over the last
second that a duration can count. -/
theorem add_eq_aborted_iff
    {reason : Abort} :
    add total seconds nanos = .error (.aborted reason) ↔
      reason = .durationOverflow ∧
      total.seconds.toNat + seconds + 1 = wordSize ∧
        total.nanos + nanos = nanosPerSecond := by
  obtain below | full | above :=
    Nat.lt_trichotomy (total.nanos + nanos) nanosPerSecond
  · rw [add_of_below below]
    split_ifs <;> simp [Nat.ne_of_lt below]
  · rw [add_of_full full]
    split_ifs with fits carryFits
    · simp [Nat.ne_of_lt carryFits]
    · rw [Except.error.injEq, Failure.aborted.injEq, eq_comm]
      have last : total.seconds.toNat + seconds + 1 = wordSize := by omega
      simp only [last, full, and_self, and_true]
    · have beyond : total.seconds.toNat + seconds + 1 ≠ wordSize := by omega
      simp [beyond]
  · rw [add_of_above above]
    split_ifs <;> simp [Nat.ne_of_gt above]

end Add

end Spelling
end HandlePool
