import HandlePool.Proofs.Clients.Atomicity
import HandlePool.Proofs.Pool.Balance
import Mathlib.Data.Set.Card

/-!
# How many handles clients have open

A client that has opened a handle has it kept before the pool is put in
order, so for a while the pool holds one entry more than it may.  It never
holds more of them than there are such clients: whoever keeps a handle goes
on to put the pool in order, and once anyone has done that, the pool holds
no more than it may.  With the handles that were opened and are not kept
yet, no more handles are open than the pool may hold and clients are waiting
for an answer to a request.
-/

namespace HandlePool

variable {ι σ η : Type}

/-- The reply to the client's call is known to be that of a
request, or not known yet. -/
def Stage.IsRequest : Stage σ η → Prop
  | .recheck _ | .opening .. | .opened _ | .kept _
  | .leaving (.handle _) => True
  | .removal _ | .leaving (.found _) | .leaving (.done _) => False

/-- The client has asked the pool for the handle of a key,
and has no answer yet. -/
def Client.Requests (place : ι) : Client ι σ η → Prop
  | .busy (.request asked _ _) _ => asked = place
  | .queued asked _ _ _ => asked = place
  | .inside asked _ stage _ => asked = place ∧ stage.IsRequest
  | .idle _ | .busy _ _ => False

namespace System

/-- The client makes a call. -/
def Calls (system : System ι σ η) (name : Nat) : Prop :=
  ∀ reply, system.clients name ≠ .idle reply

/-- Clients with a handle that was opened and will be kept. -/
def bringers (system : System ι σ η) (place : ι) : Set Nat :=
  {name | ∃ key number, system.Brings name place key number}

/-- Clients that have kept a handle, and will put the pool in order. -/
def keepers (system : System ι σ η) (place : ι) : Set Nat :=
  {name | ∃ key number, system.At name place key (.kept number)}

section Setting

variable {system : System ι σ η} {place : ι} {name : Nat}

theorem At.calls
    {key : String}
    {stage : Stage σ η}
    (located : system.At name place key stage) :
    system.Calls name := by
  obtain ⟨rest, located⟩ := located
  intro reply idle
  cases located.symm.trans idle

theorem calls_of_mem_bringers
    (brings : name ∈ system.bringers place) :
    system.Calls name := by
  obtain ⟨key, number, brings⟩ := brings
  exact At.calls brings

theorem calls_of_mem_keepers
    (keeps : name ∈ system.keepers place) :
    system.Calls name := by
  obtain ⟨key, number, keeps⟩ := keeps
  exact keeps.calls

theorem requests_of_mem_bringers
    (brings : name ∈ system.bringers place) :
    (system.clients name).Requests place := by
  obtain ⟨key, number, rest, located⟩ := brings
  rw [located]
  exact ⟨rfl, trivial⟩

theorem requests_of_mem_keepers
    (keeps : name ∈ system.keepers place) :
    (system.clients name).Requests place := by
  obtain ⟨key, number, rest, located⟩ := keeps
  rw [located]
  exact ⟨rfl, trivial⟩

theorem calls_of_requests
    (requests : (system.clients name).Requests place) :
    system.Calls name := by
  intro reply idle
  rw [idle] at requests
  exact requests

/-- Nobody both brings a handle and has kept one. -/
theorem notMem_keepers_of_mem_bringers
    {system : System ι σ η}
    {place : ι}
    {name : Nat}
    (brings : name ∈ system.bringers place) :
    name ∉ system.keepers place := by
  obtain ⟨key, number, isBrought⟩ := brings
  rintro ⟨otherKey, otherNumber, isKept⟩
  cases (At.unique isBrought isKept).2.2

end Setting

variable [DecidableEq ι] {stripe : ι → String → Nat}
    {system final : System ι σ η}

/-! ## One move -/

section Step

variable [Handle η]

/-- A move concerns one client at most. -/
theorem Step.exists_clients_eq
    {move : Move ι σ η}
    (step : Step stripe system move final) :
    ∃ mover, ∀ other, other ≠ mover →
      final.clients other = system.clients other := by
  cases step with
  | elapses nanos => exact ⟨0, fun _ _ => rfl⟩
  | _ => exact ⟨_, fun other different => Function.update_of_ne different ..⟩

theorem Step.finite_calls
    {move : Move ι σ η}
    (step : Step stripe system move final)
    (finite : {name | system.Calls name}.Finite) :
    {name | final.Calls name}.Finite := by
  obtain ⟨mover, same⟩ := step.exists_clients_eq
  refine (finite.insert mover).subset ?_
  intro name calls
  by_cases isMover : name = mover
  · exact .inl isMover
  · refine .inr fun reply idle => calls reply ?_
    rw [same name isMover, idle]

/-- Whoever has kept a handle stays where it is, or has just
put the pool in order. -/
theorem keepers_subset_or_inBounds
    (differ : ∀ place, (system.pools place).KeysDiffer)
    {move : Move ι σ η}
    (moved : system.move? stripe move = some final)
    (place : ι) :
    system.keepers place ⊆ final.keepers place ∨
    (final.pools place).InBounds := by
  by_cases settles : ∃ name ∈ system.keepers place, move = .advances name
  · obtain ⟨name, ⟨key, number, rest, located⟩, rfl⟩ := settles
    rw [move?_of_inside located, Option.some.injEq] at moved
    subst moved
    right
    change Pool.InBounds (Function.update system.pools place
      ((system.pools place).settle system.now) place)
    rw [Function.update_self]
    exact Pool.inBounds_settleWithin (differ place) system.now _
  · left
    rintro name keeps
    have notMover : move ≠ .advances name :=
      fun same => settles ⟨name, keeps, same⟩
    have stays := (step_of_move? differ moved).clients_eq notMover
      (calls_of_mem_keepers keeps)
    obtain ⟨key, number, rest, located⟩ := keeps
    exact ⟨key, number, rest, stays.trans located⟩

end Step

/-! ## Counting -/

/-- What is open is held or brought, and what is held beyond the bound was kept
by clients that will put the pool in order. -/
structure Bounded
    [Handle η]
    (configs : ι → PoolConfig)
    (system : System ι σ η)
    (place : ι) : Prop where
  finite : {name | system.Calls name}.Finite
  balance : (system.pools place).InBalance (system.bringers place).ncard
  bound : (system.pools place).entries.length ≤
    (configs place).maxSize.toNat + (system.keepers place).ncard

section Bounded

variable [Handle η] {configs : ι → PoolConfig} {place : ι}

omit [DecidableEq ι] in
theorem Bounded.finite_keepers
    (bounded : Bounded configs system place) :
    (system.keepers place).Finite :=
  bounded.finite.subset fun _ => calls_of_mem_keepers

omit [DecidableEq ι] in
theorem Bounded.finite_bringers
    (bounded : Bounded configs system place) :
    (system.bringers place).Finite :=
  bounded.finite.subset fun _ => calls_of_mem_bringers

omit [DecidableEq ι] in
theorem bounded_start
    (names : ι → String)
    (configs : ι → PoolConfig)
    (world : σ)
    (place : ι) :
    Bounded configs (start names configs world : System ι σ η) place := by
  have outside := @not_at_start ι σ η names configs world
  have noBringers :
      (start names configs world : System ι σ η).bringers place = ∅ := by
    refine Set.eq_empty_of_forall_notMem ?_
    rintro name ⟨key, number, brings⟩
    exact outside name place key _ brings
  have idle : {name | (start names configs world : System ι σ η).Calls name} =
      ∅ := by
    refine Set.eq_empty_of_forall_notMem ?_
    exact fun name calls => calls none rfl
  constructor
  · rw [idle]
    exact Set.finite_empty
  · rw [noBringers, Set.ncard_empty]
    exact Pool.inBalance_create _ _
  · exact Nat.zero_le _

omit [Handle η] in
/-- The handle that an opener returned is brought by its client. -/
theorem Enrolls.bringers_eq
    {name : Nat}
    {key : String}
    {serial : Nat}
    {handle : η}
    (enrolls : Enrolls system final name place key serial handle) :
    final.bringers place = insert name (system.bringers place) := by
  ext other
  simp only [bringers, Set.mem_ofPred_eq, Set.mem_insert_iff,
    enrolls.brings_iff]
  constructor
  · rintro ⟨otherKey, number, before | ⟨rfl, -⟩⟩
    · exact .inr ⟨otherKey, number, before⟩
    · exact .inl rfl
  · rintro (rfl | ⟨otherKey, number, before⟩)
    · exact ⟨key, _, .inr ⟨rfl, trivial, rfl, rfl⟩⟩
    · exact ⟨otherKey, number, .inl before⟩

omit [Handle η] in
theorem Enrolls.bringers_eq_of_ne
    {name : Nat}
    {changed : ι}
    {key : String}
    {serial : Nat}
    {handle : η}
    (enrolls : Enrolls system final name changed key serial handle)
    (different : place ≠ changed) :
    final.bringers place = system.bringers place := by
  simp only [bringers, enrolls.brings_iff, different, false_and,
    and_false, or_false]

/-- The client whose handle is kept brings it no more. -/
theorem Keeps.bringers_eq
    {name : Nat}
    {key : String}
    {number : Nat}
    (keeps : Keeps system final name place key number) :
    final.bringers place = system.bringers place \ {name} := by
  ext other
  simp only [bringers, Set.mem_ofPred_eq, Set.mem_sdiff, Set.mem_singleton_iff,
    keeps.brings_iff, exists_and_right]

theorem Keeps.bringers_eq_of_ne
    {name : Nat}
    {changed : ι}
    {key : String}
    {number : Nat}
    (brings : system.Brings name changed key number)
    (keeps : Keeps system final name changed key number)
    (different : place ≠ changed) :
    final.bringers place = system.bringers place := by
  ext other
  simp only [bringers, Set.mem_ofPred_eq, keeps.brings_iff]
  constructor
  · rintro ⟨otherKey, otherNumber, before, -⟩
    exact ⟨otherKey, otherNumber, before⟩
  · rintro ⟨otherKey, otherNumber, before⟩
    refine ⟨otherKey, otherNumber, before, ?_⟩
    rintro rfl
    exact different (At.unique before brings).1

end Bounded

section Tracked

open TrackedHandle

variable [TrackedHandle η]
variable {configs : ι → PoolConfig} {conduct : Conduct σ η} {place : ι}

theorem Bounded.balance_step
    {move : Move ι σ η}
    (fresh : conduct.OpensFresh)
    (holdsSome : (configs place).maxSize ≠ 0)
    (orderly : Orderly stripe configs conduct system)
    (bounded : Bounded configs system place)
    (step : Step stripe system move final) :
    (final.pools place).InBalance (final.bringers place).ncard := by
  have custody := orderly.custody place
  obtain quiet |
      ⟨name, changed, key, serial, opener, handle, located, opened, enrolls⟩ |
    ⟨name, changed, key, number, brings, keeps⟩ := step.quiet_or
  · have same : final.bringers place = system.bringers place := by
      simp only [bringers, quiet.brings_iff]
    rw [same]
    exact bounded.balance.evolves custody (quiet.evolves place)
  · by_cases same : place = changed
    · subst same
      obtain ⟨rest, inside⟩ := located
      have mine := orderly.within name
      rw [inside] at mine
      have new : name ∉ system.bringers place := by
        rintro ⟨otherKey, number, brings⟩
        cases (At.unique ⟨rest, inside⟩ brings).2.2
      rw [enrolls.bringers_eq,
        Set.ncard_insert_of_notMem new bounded.finite_bringers,
        enrolls.pool_eq]
      exact bounded.balance.enroll (fresh _ mine.1 _ _ opened).1
    · rw [enrolls.bringers_eq_of_ne same, enrolls.pool_eq_of_ne same]
      exact bounded.balance
  · by_cases same : place = changed
    · subst same
      have brought : name ∈ system.bringers place := ⟨key, number, brings⟩
      have balance := bounded.balance
      rw [← Set.ncard_sdiff_singleton_add_one brought bounded.finite_bringers,
        ← keeps.bringers_eq] at balance
      rw [keeps.pool_eq]
      refine balance.insert custody ?_
        (orderly.missing name place key (.inr ⟨_, brings⟩)) _
      rwa [orderly.config_eq]
    · rw [keeps.bringers_eq_of_ne brings same, keeps.pool_eq_of_ne same]
      exact bounded.balance

theorem Bounded.bound_move?
    {move : Move ι σ η}
    (fresh : conduct.OpensFresh)
    (orderly : Orderly stripe configs conduct system)
    (allowed : move.Within conduct)
    (bounded : Bounded configs system place)
    (moved : system.move? stripe move = some final) :
    (final.pools place).entries.length ≤
      (configs place).maxSize.toNat + (final.keepers place).ncard := by
  have step := step_of_move? orderly.keysDiffer moved
  have bound := bounded.bound
  have finite : (final.keepers place).Finite :=
    (step.finite_calls bounded.finite).subset fun _ => calls_of_mem_keepers
  obtain stays | settled :=
    keepers_subset_or_inBounds orderly.keysDiffer moved place
  · have keepers_le := Set.ncard_le_ncard stays finite
    obtain quiet | ⟨_, changed, _, _, _, _, _, _, enrolls⟩ |
      ⟨name, changed, key, number, brings, keeps⟩ := step.quiet_or
    · have := (quiet.evolves place).length_entries_le (orderly.keysDiffer place)
      omega
    · have sameEntries : (final.pools place).entries =
          (system.pools place).entries := by
        by_cases same : place = changed
        · rw [same, enrolls.pool_eq]
          rfl
        · rw [enrolls.pool_eq_of_ne same]
      rw [sameEntries]
      omega
    · by_cases same : place = changed
      · subst same
        -- The new entry is that of one more client that will put the pool in
        -- order.
        have new : name ∉ system.keepers place := by
          rintro ⟨otherKey, otherNumber, kept⟩
          cases (At.unique brings kept).2.2
        have grown : insert name (system.keepers place) ⊆ final.keepers place :=
          Set.insert_subset ⟨key, number, keeps.kept⟩ stays
        have more := Set.ncard_le_ncard grown finite
        rw [Set.ncard_insert_of_notMem new bounded.finite_keepers] at more
        have missing := orderly.missing name place key (.inr ⟨_, brings⟩)
        have := Pool.length_entries_insert_le (orderly.keysDiffer place)
            missing number
        rw [keeps.pool_eq]
        omega
      · rw [keeps.pool_eq_of_ne same]
        omega
  · have inBounds : (final.pools place).entries.length ≤ _ := settled
    rw [(orderly.step fresh allowed step).config_eq] at inBounds
    omega

theorem bounded_of_reaches
    {names : ι → String}
    {world : σ}
    (fresh : conduct.OpensFresh)
    (reached : (start names configs world).Reaches stripe
      (Move.Within conduct) system)
    (holdsSome : (configs place).maxSize ≠ 0) :
    Bounded configs system place := by
  refine ((orderly_start stripe names configs conduct world).reaches fresh
    (fun _ => id) reached (fun reached => Bounded configs reached place)
    (bounded_start names configs world place) ?_).2
  intro before after move orderly allowed moved bounded
  have step := step_of_move? orderly.keysDiffer moved
  exact ⟨step.finite_calls bounded.finite,
    bounded.balance_step fresh holdsSome orderly step,
    bounded.bound_move? fresh orderly allowed moved⟩

/-- In every system that clients can reach, no more handles of a pool
are open than the pool may hold and clients wait for an answer to a
request.  While nobody makes a call, no more are open than it may hold,
and they are its entries, and all handles that it counted as opened and
has not counted as closed. -/
theorem openCount_le
    {names : ι → String}
    {world : σ}
    (fresh : conduct.OpensFresh)
    (reached : (start names configs world).Reaches stripe
      (Move.Within conduct) system)
    (place : ι)
    (holdsSome : (configs place).maxSize ≠ 0) :
    (∃ requesting : Finset Nat,
      (∀ name, name ∈ requesting ↔ (system.clients name).Requests place) ∧
      (system.pools place).openCount ≤
        (configs place).maxSize.toNat + requesting.card) ∧
    ((∀ name, ∃ reply, system.clients name = .idle reply) →
      (system.pools place).openCount ≤ (configs place).maxSize.toNat ∧
        (system.pools place).openCount = (system.pools place).entries.length ∧
        (system.pools place).counters.opens =
          (system.pools place).counters.closes +
            (system.pools place).openCount) := by
  have bounded := bounded_of_reaches fresh reached holdsSome
  have finite : {name | (system.clients name).Requests place}.Finite :=
    bounded.finite.subset fun _ => calls_of_requests
  have waiting : system.bringers place ∪ system.keepers place ⊆
      {name | (system.clients name).Requests place} :=
    Set.union_subset (fun _ => requests_of_mem_bringers) fun _ =>
      requests_of_mem_keepers
  have few := Set.ncard_le_ncard waiting finite
  have apart : Disjoint (system.bringers place) (system.keepers place) :=
    Set.disjoint_left.mpr fun _ => notMem_keepers_of_mem_bringers
  rw [Set.ncard_union_eq apart bounded.finite_bringers bounded.finite_keepers]
    at few
  obtain ⟨-, ⟨opens_eq, openCount_eq⟩, bound⟩ := bounded
  refine ⟨⟨finite.toFinset, fun name => finite.mem_toFinset, ?_⟩,
    fun idle => ?_⟩
  · rw [← Set.ncard_eq_toFinset_card _ finite]
    omega
  · have nobody : {name | (system.clients name).Requests place} = ∅ := by
      refine Set.eq_empty_of_forall_notMem fun name requests => ?_
      obtain ⟨reply, isIdle⟩ := idle name
      exact calls_of_requests requests reply isIdle
    rw [nobody, Set.ncard_empty] at few
    omega

end Tracked

/-! ### A pool with two handles and room for one -/

/-- A client has its handle, and another one that missed another key has kept
its own, but not put the pool in order. -/
def crowdingMoves : List (Move Unit Nat TrialHandle) :=
  .begins 0 (.request () "a" tagOpener) [] :: List.replicate 7 (.advances 0) ++
    .begins 1 (.request () "b" tagOpener) [] :: List.replicate 5 (.advances 1)

theorem openCount_le_of_crowded :
    tagging.OpensFresh ∧ ∃ crowded calm,
      (trialStart 1).Reaches (fun _ _ => 0) (Move.Within tagging) crowded ∧
      (crowded.pools ()).openCount = 2 ∧
      (∃ requesting : Finset Nat,
        (∀ name, name ∈ requesting ↔ (crowded.clients name).Requests ()) ∧
        (crowded.pools ()).openCount ≤ 1 + requesting.card) ∧
      (trialStart 1).Reaches (fun _ _ => 0) (Move.Within tagging) calm ∧
      (∀ name, ∃ reply, calm.clients name = .idle reply) ∧
      (calm.pools ()).counters.opens = 2 ∧
      (calm.pools ()).openCount ≤ 1 := by
  have played : ∃ crowded, (trialStart 1).play (fun _ _ => 0) crowdingMoves =
      some crowded ∧
      ∃ calm, crowded.play (fun _ _ => 0) (List.replicate 2 (.advances 1)) =
        some calm ∧
        (crowded.pools ()).openCount = 2 ∧ (calm.pools ()).counters.opens = 2 ∧
        ∀ name, ∃ reply, calm.clients name = .idle reply :=
    ⟨_, rfl, _, rfl, rfl, rfl, fun
      | 0 => ⟨_, rfl⟩
      | 1 => ⟨_, rfl⟩
      | _ + 2 => ⟨_, rfl⟩⟩
  obtain ⟨crowded, crowding, calm, settling, two, opened, idle⟩ := played
  have reached :
      (trialStart 1).Reaches (fun _ _ => 0) (Move.Within tagging) crowded := by
    refine ⟨crowdingMoves, ?_, crowding⟩
    simp [crowdingMoves, Move.Within, Task.Within, tagging]
  have reaches : crowded.Reaches (fun _ _ => 0) (Move.Within tagging) calm := by
    refine ⟨_, ?_, settling⟩
    simp [Move.Within]
  have few := (openCount_le opensFresh_tagging reached () (by decide)).1
  have none :=
    (openCount_le opensFresh_tagging (reached.trans reaches) () (by decide)).2
  exact ⟨opensFresh_tagging, crowded, calm, reached, two, few,
    reached.trans reaches, idle, opened, (none idle).1⟩

end System
end HandlePool
