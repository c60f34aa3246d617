import HandlePool.Counters

/-!
# What a snapshot shows

A snapshot shows the counters themselves as long as these fit in 64 bits.  Each
of its figures is made of the exact sum of some counters, or stops because that
sum does not fit.
-/

namespace HandlePool

/-! ## Checked sums -/

/-- An answer that needs a sum is made of exactly this sum, or stops as the sum
does not fit in 64 bits. -/
inductive FigureOf {α : Type} (sum : Nat) (figure : UInt64 → α) :
    Except Abort α → Prop
  | exact {total : UInt64} :
      total.toNat = sum → FigureOf sum figure (.ok (figure total))
  | overflow : UInt64.size ≤ sum → FigureOf sum figure (.error .sumOverflow)

theorem figureOf_checkedAdd
    (left right : UInt64) :
    FigureOf (left.toNat + right.toNat) id (checkedAdd left right) := by
  unfold checkedAdd
  split
  · next fits =>
    have isSum : (left + right).toNat = left.toNat + right.toNat := by
      rw [UInt64.toNat_add, Nat.mod_eq_of_lt fits]
    exact .exact isSum
  · next tooLarge => exact .overflow (Nat.not_lt.mp tooLarge)

namespace FigureOf

variable {α : Type} {sum : Nat} {figure : UInt64 → α} {answer : Except Abort α}

/-- One more summand, added to a sum that was checked before: the whole sum
overflows as soon as a part of it does. -/
theorem add
    {partial? : Except Abort UInt64}
    (isPart : FigureOf sum id partial?)
    (value : UInt64) :
    FigureOf (sum + value.toNat) id
      (partial? >>= fun part => checkedAdd part value) := by
  cases isPart with
  | exact isSum =>
      rw [← isSum]
      exact figureOf_checkedAdd _ value
  | overflow tooLarge => exact .overflow (Nat.le_add_right_of_le tooLarge)

theorem map
    {total? : Except Abort UInt64}
    (isTotal : FigureOf sum id total?)
    (figure : UInt64 → α) :
    FigureOf sum figure (total?.map figure) := by
  cases isTotal with
  | exact isSum => exact .exact isSum
  | overflow tooLarge => exact .overflow tooLarge

/-- The exact sum in 64 bits, if there is one, is the one that
the answer is made of. -/
theorem eq_ok
    (isFigure : FigureOf sum figure answer)
    {total : UInt64}
    (isSum : total.toNat = sum) :
    answer = .ok (figure total) := by
  cases isFigure with
  | exact sameSum => rw [UInt64.toNat_inj.mp (sameSum.trans isSum.symm)]
  | overflow tooLarge =>
      exact absurd (isSum ▸ total.toNat_lt) (Nat.not_lt.mpr tooLarge)

/-- What fits is answered. -/
theorem exists_of_lt
    (isFigure : FigureOf sum figure answer)
    (fits : sum < UInt64.size) :
    ∃ total, answer = .ok (figure total) ∧ total.toNat = sum := by
  have isSum : sum.toUInt64.toNat = sum := UInt64.toNat_ofNat_of_lt' fits
  exact ⟨_, isFigure.eq_ok isSum, isSum⟩

/-- What does not fit is not. -/
theorem eq_error_of_le
    (isFigure : FigureOf sum figure answer)
    (tooLarge : UInt64.size ≤ sum) :
    answer = .error .sumOverflow := by
  cases isFigure with
  | exact isSum =>
      exact absurd (isSum ▸ UInt64.toNat_lt _) (Nat.not_lt.mpr tooLarge)
  | overflow _ => rfl

end FigureOf

/-! ## Figures of snapshots -/

/-- Lookups of either outcome. -/
def Counters.lookups (counters : Counters) : Nat :=
  counters.hits + counters.misses

namespace Snapshot

/-- The counters that a snapshot shows. -/
def counts (snapshot : Snapshot) : Counters := snapshot.map UInt64.toNat

/-- The share of hits among that many lookups. -/
def share (snapshot : Snapshot) (lookups : UInt64) : Float :=
  if lookups = 0 then 0.0 else snapshot.hits.toFloat / lookups.toFloat

/-- Every figure of a snapshot is made of the exact sum of its counters. -/
structure Figures (snapshot : Snapshot) : Prop where
  removals : FigureOf snapshot.counts.removals id snapshot.removals
  hitRate : FigureOf snapshot.counts.lookups snapshot.share snapshot.hitRate

/-- No figure of a snapshot stops. -/
def Answered (snapshot : Snapshot) : Prop :=
  (∃ removals, snapshot.removals = .ok removals) ∧
  ∃ rate, snapshot.hitRate = .ok rate

theorem hitRate_eq
    (snapshot : Snapshot) :
    snapshot.hitRate = snapshot.lookups.map snapshot.share := by
  unfold hitRate
  cases snapshot.lookups with
  | error abort => rfl
  | ok lookups =>
      simp only [bind, Except.bind, Except.map, share]
      split <;> rfl

theorem figures
    (snapshot : Snapshot) :
    Figures snapshot where
  removals := by
    rw [removals, ← bind_assoc]
    exact ((figureOf_checkedAdd snapshot.invalidated snapshot.sizeEvicted).add
      snapshot.expired).add snapshot.replaced
  hitRate := by
    rw [hitRate_eq]
    exact (figureOf_checkedAdd snapshot.hits snapshot.misses).map snapshot.share

theorem answered_of_lt
    {snapshot : Snapshot}
    (removalsFit : snapshot.counts.removals < UInt64.size)
    (lookupsFit : snapshot.counts.lookups < UInt64.size) :
    Answered snapshot := by
  obtain ⟨removals, answer, -⟩ :=
    (figures snapshot).removals.exists_of_lt removalsFit
  obtain ⟨lookups, rate, -⟩ :=
    (figures snapshot).hitRate.exists_of_lt lookupsFit
  exact ⟨⟨_, answer⟩, _, rate⟩

end Snapshot

namespace FacadeSnapshot

/-- Every figure of a reading of both pools is made of the
exact sum of its counters. -/
structure Figures (snapshot : FacadeSnapshot) : Prop where
  read : Snapshot.Figures snapshot.read
  write : Snapshot.Figures snapshot.write
  totalOpens :
    FigureOf (snapshot.read.counts.opens + snapshot.write.counts.opens) id
    snapshot.totalOpens
  totalCloses :
    FigureOf (snapshot.read.counts.closes + snapshot.write.counts.closes) id
    snapshot.totalCloses

/-- No figure of a reading of both pools stops. -/
def Answered (snapshot : FacadeSnapshot) : Prop :=
  (Snapshot.Answered snapshot.read ∧ Snapshot.Answered snapshot.write) ∧
    (∃ opens, snapshot.totalOpens = .ok opens) ∧
    ∃ closes, snapshot.totalCloses = .ok closes

theorem figures
    (snapshot : FacadeSnapshot) :
    snapshot.Figures where
  read := Snapshot.figures snapshot.read
  write := Snapshot.figures snapshot.write
  totalOpens := figureOf_checkedAdd snapshot.read.opens snapshot.write.opens
  totalCloses := figureOf_checkedAdd snapshot.read.closes snapshot.write.closes

theorem answered_of_lt
    {snapshot : FacadeSnapshot}
    (read : Snapshot.Answered snapshot.read)
    (write : Snapshot.Answered snapshot.write)
    (opensFit : snapshot.read.counts.opens + snapshot.write.counts.opens <
      UInt64.size)
    (closesFit : snapshot.read.counts.closes + snapshot.write.counts.closes <
      UInt64.size) :
    snapshot.Answered := by
  obtain ⟨opens, opensAnswered, -⟩ :=
    snapshot.figures.totalOpens.exists_of_lt opensFit
  obtain ⟨closes, closesAnswered, -⟩ :=
    snapshot.figures.totalCloses.exists_of_lt closesFit
  exact ⟨⟨read, write⟩, ⟨_, opensAnswered⟩, _, closesAnswered⟩

end FacadeSnapshot

/-! ## Snapshots of counters -/

namespace Counters

theorem toNat_toUInt64
    {value : Nat}
    (fits : value < UInt64.size) :
    value.toUInt64.toNat = value :=
  UInt64.toNat_ofNat_of_lt' fits

/-- Counters that fit are shown. -/
theorem map_toNat_snapshot
    {counters : Counters}
    (fits : ∀ value ∈ counters.toList, value < UInt64.size) :
    counters.snapshot.map UInt64.toNat = counters := by
  simp only [Tally.toList, List.forall_mem_cons, List.not_mem_nil,
    false_implies, implies_true, and_true] at fits
  obtain ⟨hits, misses, opens, openFailures, closes, closeFailures,
    invalidated, sizeEvicted, expired, replaced⟩ := fits
  simp only [snapshot, Tally.map, toNat_toUInt64 hits, toNat_toUInt64 misses,
    toNat_toUInt64 opens, toNat_toUInt64 openFailures, toNat_toUInt64 closes,
    toNat_toUInt64 closeFailures, toNat_toUInt64 invalidated,
    toNat_toUInt64 sizeEvicted, toNat_toUInt64 expired, toNat_toUInt64 replaced]

/-- So is the number of removals. -/
theorem removals_snapshot
    {counters : Counters}
    (fits : counters.removals < UInt64.size) :
    ∃ sum, counters.snapshot.removals = .ok sum ∧
      sum.toNat = counters.removals := by
  have shown : counters.snapshot.counts.removals = counters.removals := by
    unfold removals at fits
    simp (disch := omega)
      only [Snapshot.counts, snapshot, Tally.map, removals, toNat_toUInt64]
  rw [← shown] at fits ⊢
  exact (Snapshot.figures counters.snapshot).removals.exists_of_lt fits

end Counters

/-- Handles that were opened and have not left again, in 64 bits: the sum of the
removals must fit, and the difference stops at zero. -/
def Snapshot.resident (snapshot : Snapshot) : Except Abort UInt64 :=
  snapshot.removals.map fun removed =>
    if removed ≤ snapshot.opens then snapshot.opens - removed else 0

/-- Counters that fit are subtracted in 64 bits as they are otherwise. -/
theorem Counters.resident_snapshot
    {counters : Counters}
    (opensFit : counters.opens < UInt64.size)
    (removalsFit : counters.removals < UInt64.size) :
    ∃ resident, counters.snapshot.resident = .ok resident ∧
      resident.toNat = counters.resident := by
  obtain ⟨removed, isSum, removed_eq⟩ := counters.removals_snapshot removalsFit
  have opens_eq : counters.snapshot.opens.toNat = counters.opens :=
    toNat_toUInt64 opensFit
  refine ⟨_, by rw [Snapshot.resident, isSum]; rfl, ?_⟩
  rw [resident, ← removed_eq, ← opens_eq]
  dsimp only
  split
  · next fewer => exact UInt64.toNat_sub_of_le _ _ fewer
  · next more =>
    rw [UInt64.le_iff_toNat_le, Nat.not_le] at more
    exact (Nat.sub_eq_zero_of_le (Nat.le_of_lt more)).symm

end HandlePool
