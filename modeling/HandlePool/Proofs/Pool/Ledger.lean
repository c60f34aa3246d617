import HandlePool.Proofs.Pool.Accounts
import HandlePool.Proofs.Pool.Fitness

/-!
# The ledger of a pool

A pool that nobody else closes handles of holds open handles, has closed once
whatever else was opened for it, and has counted all that.  Whatever is done to
the pool keeps it so.  A pool that holds nothing any more has closed every
handle, and each of them once.
-/

namespace HandlePool
namespace Pool

variable {η : Type} [TrackedHandle η]

open TrackedHandle

/-- The pool is sound, its counters agree with its handles, and at least `given`
handles were opened for it. -/
structure Ledger (config : PoolConfig) (given : Nat)
    (pool : Pool η) : Prop where
  sound : Sound config (fun _ _ => True) pool
  balance : InBalance 0 pool
  accounts : Accounts pool
  given_le : given ≤ pool.handles.length

/-- The pool holds nothing, and every handle that was opened
for it was closed once. -/
structure Shut (pool : Pool η) : Prop where
  entries_eq : pool.entries = []
  opens_eq : pool.counters.opens = pool.handles.length
  closes_eq : pool.counters.closes = pool.counters.opens
  isSpent : ∀ handle ∈ pool.handles, IsSpent handle

variable
  {config : PoolConfig}
  {given : Nat}
  {pool final : Pool η}

theorem ledger_create
    (config : PoolConfig)
    (name : String) :
    Ledger config 0 ({ name := name, config := config } : Pool η) where
  sound := sound_create config _ name
  balance := inBalance_create name config
  accounts := accounts_create name config
  given_le := Nat.zero_le _

/-- A handle that is as open as before leaves the number of open handles. -/
theorem openCount_withHandle
    {number : Nat}
    {handle other : η}
    (found : pool.handles[number]? = some handle)
    (sameOpen : Handle.isOpen other = Handle.isOpen handle) :
    (pool.withHandle number other).openCount = pool.openCount := by
  obtain ⟨bounded, located⟩ := List.getElem?_eq_some_iff.mp found
  rw [openCount, withHandle, List.countP_set bounded, located,
    sameOpen, openCount]
  split
  · next isOpen =>
    have positive : 0 < pool.handles.countP Handle.isOpen :=
      List.countP_pos_iff.mpr ⟨handle, List.mem_of_getElem? found, isOpen⟩
    omega
  · rfl

theorem Shut.same
    (shut : Shut pool)
    (same : Same pool final) :
    Shut final := by
  obtain ⟨journal, rfl⟩ := same
  exact ⟨shut.entries_eq, shut.opens_eq, shut.closes_eq, shut.isSpent⟩

namespace Ledger

theorem mono
    (ledger : Ledger config given pool)
    {fewer : Nat}
    (atMost : fewer ≤ pool.handles.length) :
    Ledger config fewer pool :=
  { ledger with given_le := atMost }

theorem same
    (ledger : Ledger config given pool)
    (same : Same pool final) :
    Ledger config given final := by
  obtain ⟨journal, rfl⟩ := same
  exact ⟨ledger.sound.same ⟨journal, rfl⟩,
    ⟨ledger.balance.opens_eq, ledger.balance.openCount_eq⟩,
    ledger.accounts.congr rfl rfl, ledger.given_le⟩

theorem evolves
    (ledger : Ledger config given pool)
    {now : Instant}
    (evolves : Evolves now pool final) :
    Ledger config given final where
  sound := ledger.sound.evolves evolves
  balance := ledger.balance.evolves ledger.sound.custody evolves
  accounts := ledger.accounts.evolves ledger.sound.custody evolves
  given_le := evolves.length_handles_eq ▸ ledger.given_le

/-- A handle that was opened for a missing key is the next one. -/
theorem adopt
    (ledger : Ledger config given pool)
    (holdsSome : config.maxSize ≠ 0)
    {time : CallTime}
    {key : String}
    (missing : pool.live? time.starts key = none)
    {handle : η}
    (fresh : IsFresh handle) :
    Ledger config (pool.handles.length + 1) (pool.adopt time key handle) := by
  have custody := ledger.sound.custody
  have sound := ledger.sound.adopt holdsSome missing fresh trivial
  rw [← ledger.sound.config_eq] at holdsSome
  exact ⟨sound, ledger.balance.adopt custody holdsSome missing fresh,
    ledger.accounts.adopt custody holdsSome missing fresh,
    Nat.le_of_eq
      (length_handles_adopt custody.keysDiffer holdsSome missing handle).symm⟩

/-- Whatever call is made to a pool keeps its ledger. -/
theorem perform
    (ledger : Ledger config given pool)
    (holdsSome : config.maxSize ≠ 0)
    (time : CallTime)
    {call : PoolCall η}
    (opensFresh : call.OpensFresh) :
    Ledger config given (pool.perform time call).2 := by
  have differ := ledger.sound.custody.keysDiffer
  have performed := performed_perform differ time call
  generalize pool.perform time call = gave at performed ⊢
  obtain ⟨reply, final⟩ := gave
  cases performed with
  | evolved _ evolves => exact ledger.evolves evolves
  | @opened sought _ key handle missing evolves adopted =>
      subst adopted
      have evolved := ledger.evolves evolves
      have soughtMissing := evolves.live?_eq_none differ missing
      have adopts := evolved.adopt holdsSome soughtMissing opensFresh
      exact adopts.mono (Nat.le_trans evolved.given_le
        (Nat.le_trans (Nat.le_succ _) adopts.given_le))

/-- A handle may be used in any way that neither opens nor closes it. -/
theorem withHandle
    (ledger : Ledger config given pool)
    {number : Nat}
    {handle other : η}
    (found : pool.handles[number]? = some handle)
    (sameOpen : Handle.isOpen other = Handle.isOpen handle)
    (sameCloses : closeCalls other = closeCalls handle) :
    Ledger config given (pool.withHandle number other) := by
  have sameCount := openCount_withHandle found sameOpen
  have sameLength : (pool.withHandle number other).handles.length =
      pool.handles.length :=
    List.length_set
  refine ⟨ledger.sound.withHandle found sameOpen sameCloses fun _ =>
    id, ⟨?_, ?_⟩,
    ledger.accounts.congr rfl sameLength, sameLength ▸ ledger.given_le⟩
  · rw [sameCount]
    exact ledger.balance.opens_eq
  · rw [sameCount]
    exact ledger.balance.openCount_eq

theorem shut
    (ledger : Ledger config given pool)
    (empty : pool.entries = []) :
    Shut pool where
  entries_eq := empty
  opens_eq := ledger.accounts.opens_eq
  closes_eq := ledger.accounts.closes_eq_opens ledger.balance empty
  isSpent handle present := by
    obtain ⟨number, found⟩ := List.mem_iff_getElem?.mp present
    refine ledger.sound.custody.isSpent number handle found ?_ not_false
    rintro ⟨entry, held, -⟩
    rw [empty] at held
    cases held

/-- Removing every entry at any time leaves nothing open. -/
theorem shut_invalidateAll
    (ledger : Ledger config given pool)
    (now : Instant) :
    Shut (pool.invalidateAll now) := by
  have differ := ledger.sound.custody.keysDiffer
  exact (ledger.evolves (evolves_invalidateAll now differ)).shut
    (entries_invalidateAll differ ledger.sound.inBounds now)

end Ledger

end Pool
end HandlePool
