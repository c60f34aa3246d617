import HandlePool.Pool

/-!
# Nobody reads the journal

Pools that differ in nothing but what they noted give the same answers, and
differ in nothing else afterwards.
-/

namespace HandlePool
namespace Pool

variable {η σ : Type}

/-- The pools differ in their journals at most. -/
def Same (left right : Pool η) : Prop :=
  ∃ journal, right = { left with journal := journal }

namespace Same

variable {left middle right : Pool η} {now : Instant} {key : String}

theorem trans
    (first : Same left middle)
    (second : Same middle right) :
    Same left right := by
  obtain ⟨journal, rfl⟩ := first
  obtain ⟨later, rfl⟩ := second
  exact ⟨later, rfl⟩

theorem entries_eq
    (same : Same left right) :
    right.entries = left.entries := by
  obtain ⟨journal, rfl⟩ := same
  rfl

theorem handles_eq
    (same : Same left right) :
    right.handles = left.handles := by
  obtain ⟨journal, rfl⟩ := same
  rfl

theorem entryOf?_eq
    (same : Same left right)
    (key : String) :
    right.entryOf? key = left.entryOf? key := by
  obtain ⟨journal, rfl⟩ := same
  rfl

theorem live?_eq
    (same : Same left right)
    (now : Instant)
    (key : String) :
    right.live? now key = left.live? now key := by
  obtain ⟨journal, rfl⟩ := same
  rfl

theorem count
    (same : Same left right)
    (event : CountedEvent) :
    Same (left.count event) (right.count event) := by
  obtain ⟨journal, rfl⟩ := same
  exact ⟨journal, rfl⟩

theorem note
    (same : Same left right)
    (event : PoolEvent) :
    Same (left.note event) (right.note event) := by
  obtain ⟨journal, rfl⟩ := same
  exact ⟨_, rfl⟩

theorem enroll
    (same : Same left right)
    (handle : η) :
    (left.enroll handle).1 = (right.enroll handle).1 ∧
      Same (left.enroll handle).2 (right.enroll handle).2 := by
  obtain ⟨journal, rfl⟩ := same
  exact ⟨rfl, journal, rfl⟩

variable [Handle η]

/-! ## Removing -/

theorem dismiss
    (same : Same left right)
    (entry : Entry)
    (cause : RemovalCause) :
    Same (left.dismiss entry cause) (right.dismiss entry cause) := by
  obtain ⟨journal, rfl⟩ := same
  simp only [Pool.dismiss]
  split
  · exact ⟨journal, rfl⟩
  · exact ⟨_, rfl⟩

theorem remove
    (same : Same left right)
    (entry : Entry)
    (cause : RemovalCause) :
    Same (left.remove entry cause) (right.remove entry cause) := by
  obtain ⟨journal, rfl⟩ := same
  exact dismiss ⟨journal, rfl⟩ entry cause

theorem removeAll
    (same : Same left right)
    (entries : List Entry)
    (cause : RemovalCause) :
    Same (left.removeAll entries cause) (right.removeAll entries cause) := by
  induction entries generalizing left right with
  | nil => exact same
  | cons entry entries inductionHypothesis =>
      exact inductionHypothesis (same.remove entry cause)

theorem expire
    (same : Same left right)
    (now : Instant)
    (limit : Nat) :
    Same (left.expire now limit) (right.expire now limit) := by
  obtain ⟨journal, rfl⟩ := same
  exact removeAll ⟨journal, rfl⟩ _ .expired

theorem evict
    (same : Same left right) :
    Same left.evict right.evict := by
  obtain ⟨journal, rfl⟩ := same
  exact removeAll ⟨journal, rfl⟩ _ .sizeEvicted

theorem settleWithin
    (same : Same left right)
    (now : Instant)
    (limit : Nat) :
    Same (left.settleWithin now limit) (right.settleWithin now limit) := by
  obtain ⟨journal, evicted⟩ := (same.expire now limit).evict
  refine ⟨journal, ?_⟩
  rw [Pool.settleWithin, evicted, Pool.settleWithin]

theorem settle
    (same : Same left right)
    (now : Instant) :
    Same (left.settle now) (right.settle now) := by
  have settled := same.settleWithin now left.entries.length
  obtain ⟨journal, rfl⟩ := same
  exact settled

theorem tend
    (same : Same left right)
    (now : Instant)
    (occasion : Occasion)
    (limit : Nat) :
    Same (left.tend now occasion limit) (right.tend now occasion limit) := by
  have settled := same.settleWithin now limit
  obtain ⟨journal, rfl⟩ := same
  simp only [Pool.tend]
  split
  · obtain ⟨later, settled⟩ := settled
    rw [settled]
    exact ⟨later, rfl⟩
  · exact ⟨journal, rfl⟩

/-! ## Looking up and opening -/

theorem lookup
    (same : Same left right)
    (now : Instant)
    (key : String) :
    (left.lookup now key).1 = (right.lookup now key).1 ∧
      Same (left.lookup now key).2 (right.lookup now key).2 := by
  have agree := same.live?_eq now key
  obtain ⟨journal, rfl⟩ := same
  simp only [Pool.lookup, agree]
  cases left.live? now key with
  | none => exact ⟨rfl, tend ⟨journal, rfl⟩ now .lookup _⟩
  | some entry => exact ⟨rfl, tend ⟨journal, rfl⟩ now .lookup _⟩

theorem seek
    (same : Same left right)
    (now : Instant)
    (key : String) :
    (left.seek now key).1 = (right.seek now key).1 ∧
      Same (left.seek now key).2 (right.seek now key).2 := by
  have looked := same.lookup now key
  rcases leftLooked : left.lookup now key with ⟨found, leftAfter⟩
  rcases rightLooked : right.lookup now key with ⟨otherFound, rightAfter⟩
  rw [leftLooked, rightLooked] at looked
  obtain ⟨rfl, sameAfter⟩ := looked
  simp only [Pool.seek, leftLooked, rightLooked]
  cases found with
  | some number => exact ⟨rfl, sameAfter.count .hit⟩
  | none =>
      have tended := sameAfter.tend now .lookup leftAfter.entries.length
      obtain ⟨journal, rfl⟩ := sameAfter
      exact ⟨rfl, tended.count .miss⟩

theorem insert
    (same : Same left right)
    (now : Instant)
    (key : String)
    (number : Nat) :
    Same (left.insert now key number) (right.insert now key number) := by
  have agree := same.entryOf?_eq key
  have removes := fun displaced =>
    same.remove displaced (left.causeAt now displaced .replaced)
  obtain ⟨journal, rfl⟩ := same
  by_cases holdsNone : left.config.maxSize = 0
  · simp only [Pool.insert, holdsNone, if_true]
    exact ⟨journal, rfl⟩
  · simp only [Pool.insert, holdsNone, if_false, agree]
    cases left.entryOf? key with
    | none => exact ⟨journal, rfl⟩
    | some displaced =>
        obtain ⟨later, removed⟩ := removes displaced
        refine ⟨later, ?_⟩
        exact congrArg (fun pool : Pool η =>
          { pool with entries := pool.entries ++ [Entry.mk key number now] })
            removed

theorem openMissing
    (same : Same left right)
    (time : CallTime)
    (key : String)
    (opener : σ → Except IoError η × σ)
    (world : σ) :
    (left.openMissing time key opener world).1 =
      (right.openMissing time key opener world).1 ∧
      Same (left.openMissing time key opener world).2.1
        (right.openMissing time key opener world).2.1 ∧
      (left.openMissing time key opener world).2.2 =
        (right.openMissing time key opener world).2.2 := by
  obtain ⟨journal, rfl⟩ := same
  have noted : Same left { left with journal := journal } := ⟨journal, rfl⟩
  unfold Pool.openMissing
  split
  · exact ⟨rfl, noted.count .openFailure, rfl⟩
  · next handle world opened =>
    have enrolled := ((noted.count .opened).enroll handle).2
    exact ⟨rfl, (enrolled.insert time.inserts key _).settle time.settles, rfl⟩

theorem getOrOpen
    (same : Same left right)
    (time : CallTime)
    (key : String)
    (opener : σ → Except IoError η × σ)
    (world : σ) :
    (left.getOrOpen time key opener world).1 =
      (right.getOrOpen time key opener world).1 ∧
      Same (left.getOrOpen time key opener world).2.1
        (right.getOrOpen time key opener world).2.1 ∧
      (left.getOrOpen time key opener world).2.2 =
        (right.getOrOpen time key opener world).2.2 := by
  have sought := same.seek time.starts key
  rcases leftSought : left.seek time.starts key with ⟨found, leftAfter⟩
  rcases rightSought : right.seek time.starts key with ⟨otherFound, rightAfter⟩
  rw [leftSought, rightSought] at sought
  obtain ⟨rfl, sameAfter⟩ := sought
  simp only [Pool.getOrOpen, leftSought, rightSought]
  cases found with
  | some number => exact ⟨rfl, sameAfter, rfl⟩
  | none =>
      obtain ⟨sameResult, opened⟩ := sameAfter.openMissing time key opener world
      exact ⟨congrArg (fun result => Answer.mk result true) sameResult, opened⟩

/-! ## Removing keys -/

theorem drop
    (same : Same left right)
    (now : Instant)
    (key : String) :
    Same (left.drop now key) (right.drop now key) := by
  have agree := same.entryOf?_eq key
  obtain ⟨journal, rfl⟩ := same
  simp only [Pool.drop, agree]
  cases left.entryOf? key with
  | none => exact ⟨journal, rfl⟩
  | some entry => exact (remove ⟨journal, rfl⟩ _ _).tend now .removal _

theorem invalidate
    (same : Same left right)
    (now : Instant)
    (key : String) :
    Same (left.invalidate now key) (right.invalidate now key) :=
  (same.drop now key).note (.invalidated key)

theorem dropKeys
    (same : Same left right)
    (now : Instant)
    (keys : List String) :
    Same (left.dropKeys now keys) (right.dropKeys now keys) := by
  induction keys generalizing left right with
  | nil => exact same
  | cons key keys inductionHypothesis =>
      exact inductionHypothesis (same.drop now key)

theorem invalidateAll
    (same : Same left right)
    (now : Instant) :
    Same (left.invalidateAll now) (right.invalidateAll now) := by
  have dropped := same.dropKeys now (left.liveKeys now)
  obtain ⟨journal, rfl⟩ := same
  exact (dropped.settle now).note _

end Same
end Pool
end HandlePool
