import HandlePool.Proofs.Clients.System
import HandlePool.Proofs.Pool.LiveEntries

/-!
# What one move can do

A move of a system is one of a few kinds, and `System.Step` tells them apart.
Outside any lock a client makes at most one pool evolve, or changes the world by
a query.  A client enters the lock of a key when nobody holds it, makes the pool
evolve, runs an opener or keeps a handle while it holds the lock, and leaves it.

A conduct says which openers and queries clients use.  Clients keep to it
because every task of theirs was given to them when their call began.
-/

namespace HandlePool

variable {ι σ η : Type}

/-- Which openers and queries are used. -/
structure Conduct (σ η : Type) where
  opens : (σ → Except IoError η × σ) → Prop
  consults : (σ → Except IoError Unit × σ) → Prop

def Task.Within (conduct : Conduct σ η) : Task ι σ η → Prop
  | .request _ _ opener => conduct.opens opener
  | .consult query => conduct.consults query
  | _ => True

def Stage.Within (conduct : Conduct σ η) : Stage σ η → Prop
  | .recheck opener | .opening _ opener => conduct.opens opener
  | _ => True

/-- The client uses only such openers and queries until its call ends. -/
def Client.Within (conduct : Conduct σ η) : Client ι σ η → Prop
  | .idle _ => True
  | .busy task rest => task.Within conduct ∧ ∀ task ∈ rest, task.Within conduct
  | .queued _ _ opener rest =>
      conduct.opens opener ∧ ∀ task ∈ rest, task.Within conduct
  | .inside _ _ stage rest =>
      stage.Within conduct ∧ ∀ task ∈ rest, task.Within conduct

def Move.Within (conduct : Conduct σ η) : Move ι σ η → Prop
  | .begins _ task rest =>
      task.Within conduct ∧ ∀ task ∈ rest, task.Within conduct
  | _ => True

/-- The client holds no lock. -/
def Client.Outside : Client ι σ η → Prop
  | .inside .. => False
  | _ => True

theorem Pool.evolves_takeOut
    [Handle η]
    (now : Instant)
    {pool : Pool η}
    (differ : pool.KeysDiffer)
    (key : String)
    (noted : Bool) :
    Evolves now pool (pool.takeOut now key noted) := by
  unfold takeOut
  split
  · exact evolves_invalidate now differ key
  · exact evolves_drop now differ key

/-- A key that was taken out is not kept. -/
theorem Pool.not_keeps_takeOut
    [Handle η]
    (now : Instant)
    {pool : Pool η}
    (differ : pool.KeysDiffer)
    (key : String)
    (noted : Bool)
    (number : Nat) :
    ¬(pool.takeOut now key noted).Keeps key number := by
  unfold takeOut
  split
  · exact not_keeps_drop now differ key number
  · exact not_keeps_drop now differ key number

theorem Client.outside_next
    (reply : Reply)
    (rest : List (Task ι σ η)) :
    (Client.next reply rest).Outside := by
  cases rest <;> trivial

theorem Client.within_next
    {conduct : Conduct σ η}
    (reply : Reply)
    {rest : List (Task ι σ η)}
    (within : ∀ task ∈ rest, task.Within conduct) :
    (Client.next reply rest).Within conduct := by
  cases rest with
  | nil => trivial
  | cons task rest =>
      refine ⟨within task List.mem_cons_self, fun other present => ?_⟩
      exact within other (List.mem_cons_of_mem _ present)

/-- A client that keeps to a conduct goes on keeping to it. -/
def Client.Leads (before after : Client ι σ η) : Prop :=
  ∀ conduct, before.Within conduct → after.Within conduct

namespace System

variable [DecidableEq ι] [Handle η]

/-- What a move does, by its kind. -/
inductive Step (stripe : ι → String → Nat) (system : System ι σ η) :
    Move ι σ η → System ι σ η → Prop
  | begins {name : Nat} {reply : Option Reply} (task : Task ι σ η)
      (rest : List (Task ι σ η)) :
      system.clients name = .idle reply →
      Step stripe system (.begins name task rest)
        (system.setClient name (.busy task rest))
  | elapses (nanos : Nat) :
      Step stripe system (.elapses nanos)
        { system with now := system.now + nanos }
  /-- A client that holds no lock makes a pool evolve. -/
  | visits {name : Nat} {client : Client ι σ η} {place : ι} {pool : Pool η} :
      (system.clients name).Outside → client.Outside →
      (system.clients name).Leads client →
      Pool.Evolves system.now (system.pools place) pool →
      Step stripe system (.advances name)
        ((system.setPool place pool).setClient name client)
  /-- A client makes a query. -/
  | consults {name : Nat} {client : Client ι σ η}
      (query : σ → Except IoError Unit × σ) (rest : List (Task ι σ η)) :
      system.clients name = .busy (.consult query) rest →
      client = .next (.done (.ok ())) rest ∧ (query system.world).1 = .ok () ∨
        (∃ error, client = .idle (some (.done (.error error)))) →
      Step stripe system (.advances name)
        ({ system with world := (query system.world).2 }.setClient name client)
  /-- A client takes the lock of a key. -/
  | enters {name : Nat} {place : ι} {key : String} {stage : Stage σ η}
      {rest : List (Task ι σ η)} :
      (system.clients name).Outside →
      (system.clients name).Leads (.inside place key stage rest) →
      system.locks (place, stripe place key) = none →
      (∃ opener, stage = .recheck opener) ∨ (∃ noted, stage = .removal noted) →
      Step stripe system (.advances name)
        ((system.setLock (place, stripe place key) (some name)).setClient name
          (.inside place key stage rest))
  /-- A client that holds a lock makes the pool evolve, and
  then knows its reply. -/
  | acts {name : Nat} {place : ι} {key : String} {stage : Stage σ η}
      {rest : List (Task ι σ η)} {pool : Pool η} (reply : Reply) :
      system.clients name = .inside place key stage rest →
      (∃ opener, stage = .recheck opener) ∨ (∃ number, stage = .kept number) ∨
        (∃ noted, stage = .removal noted) →
      Pool.Evolves system.now (system.pools place) pool →
      Step stripe system (.advances name)
        ((system.setPool place pool).setClient name
          (.inside place key (.leaving reply) rest))
  /-- A key is still missing, and the opener starts. -/
  | starts {name : Nat} {place : ι} {key : String} {rest : List (Task ι σ η)}
      {pool : Pool η} (opener : σ → Except IoError η × σ) :
      system.clients name = .inside place key (.recheck opener) rest →
      (system.pools place).live? system.now key = none →
      Pool.Evolves system.now (system.pools place) pool →
      Step stripe system (.advances name)
        { (system.setPool place pool).setClient name
            (.inside place key (.opening system.started opener) rest) with
          started := system.started + 1 }
  /-- The opener fails. -/
  | fails {name : Nat} {place : ι} {key : String} {serial : Nat}
      {opener : σ → Except IoError η × σ} {rest : List (Task ι σ η)} {world : σ}
      (error : IoError) :
      system.clients name = .inside place key (.opening serial opener) rest →
      opener system.world = (.error error, world) →
      Step stripe system (.advances name)
        (({ system with world := world }.setPool place
            ((system.pools place).count .openFailure)).record
              ⟨serial, place, key, .error error⟩ |>.setClient name
          (.inside place key (.leaving (.handle (.error error))) rest))
  /-- The opener returns a handle. -/
  | opens {name : Nat} {place : ι} {key : String} {serial : Nat}
      {opener : σ → Except IoError η × σ} {rest : List (Task ι σ η)} {world : σ}
      (handle : η) :
      system.clients name = .inside place key (.opening serial opener) rest →
      opener system.world = (.ok handle, world) →
      Step stripe system (.advances name)
        (({ system with world := world }.setPool place
            (((system.pools place).count .opened).enroll handle).2).record
              ⟨serial, place, key,
                .ok (system.pools place).handles.length⟩ |>.setClient name
          (.inside place key
            (.opened (system.pools place).handles.length) rest))
  /-- The handle is kept. -/
  | keeps {name : Nat} {place : ι} {key : String} {rest : List (Task ι σ η)}
      (number : Nat) :
      system.clients name = .inside place key (.opened number) rest →
      Step stripe system (.advances name)
        ((system.setPool place
            ((system.pools place).insert system.now key number)).setClient name
          (.inside place key (.kept number) rest))
  /-- A client gives a lock back. -/
  | leaves {name : Nat} {place : ι} {key : String} {reply : Reply}
      {rest : List (Task ι σ η)} :
      system.clients name = .inside place key (.leaving reply) rest →
      Step stripe system (.advances name)
        ((system.setLock (place, stripe place key) none).setClient name
          (.next reply rest))

variable {stripe : ι → String → Nat} {system final : System ι σ η}

/-- A client that is let in takes the lock. -/
theorem step_of_enter
    {name : Nat}
    {place : ι}
    {key : String}
    {stage : Stage σ η}
    {rest : List (Task ι σ η)}
    (outside : (system.clients name).Outside)
    (leads : (system.clients name).Leads (.inside place key stage rest))
    (stages : (∃ opener, stage = .recheck opener) ∨
      ∃ noted, stage = .removal noted)
    (entered : system.enter stripe name place key stage rest = some final) :
    Step stripe system (.advances name) final := by
  unfold enter at entered
  split at entered
  · cases entered
  · next free =>
    cases entered
    exact .enters outside leads free stages

/-- A client outside any lock makes one of the steps for that. -/
theorem step_of_attend
    (differ : ∀ place, (system.pools place).KeysDiffer)
    {name : Nat}
    {task : Task ι σ η}
    {rest : List (Task ι σ η)}
    (attending : system.clients name = .busy task rest)
    (attended : system.attend stripe name rest task = some final) :
    Step stripe system (.advances name) final := by
  have outside : (system.clients name).Outside := by
    rw [attending]
    trivial
  have leadsNext : ∀ reply, (system.clients name).Leads (.next reply rest) := by
    intro reply conduct within
    rw [attending] at within
    exact Client.within_next reply within.2
  have outsideNext := fun reply => Client.outside_next reply rest
  cases task with
  | request place key opener =>
      have evolves := Pool.evolves_lookup system.now (differ place) key
      simp only [attend] at attended
      split at attended
      · next number pool looked =>
        cases attended
        rw [looked] at evolves
        exact .visits outside (outsideNext _) (leadsNext _)
          (evolves.trans (.count .hit (.inl rfl) (.done _)))
      · next pool looked =>
        cases attended
        rw [looked] at evolves
        refine .visits outside trivial ?_ evolves
        intro conduct within
        rw [attending] at within
        exact within
  | lookup place key =>
      cases attended
      exact .visits outside (outsideNext _) (leadsNext _)
        (Pool.evolves_lookup system.now (differ place) key)
  | invalidate place key =>
      refine step_of_enter outside ?_ (.inr ⟨true, rfl⟩) attended
      intro conduct within
      rw [attending] at within
      exact ⟨trivial, within.2⟩
  | remove place key =>
      refine step_of_enter outside ?_ (.inr ⟨false, rfl⟩) attended
      intro conduct within
      rw [attending] at within
      exact ⟨trivial, within.2⟩
  | conclude place count =>
      cases attended
      exact .visits outside (outsideNext _) (leadsNext _)
        ((Pool.evolves_settle system.now (differ place)).trans
          (.note (.invalidatedAll count) (.done _)))
  | invalidateAll place =>
      cases attended
      have same : system.setPool place (system.pools place) = system := by
        simp [setPool]
      have leads : (system.clients name).Leads (.next (.done (.ok ()))
          (((system.pools place).liveKeys system.now).map (.remove place) ++
            .conclude place ((system.pools place).liveKeys system.now).length ::
              rest)) := by
        intro conduct within
        rw [attending] at within
        refine Client.within_next _ fun task present => ?_
        rw [List.mem_append, List.mem_map, List.mem_cons] at present
        obtain ⟨key, -, rfl⟩ | rfl | later := present
        · trivial
        · trivial
        · exact within.2 task later
      have visited : Step stripe system (.advances name)
          ((system.setPool place (system.pools place)).setClient name _) :=
        .visits outside (Client.outside_next _ _) leads (.done _)
      rwa [same] at visited
  | settle place =>
      cases attended
      exact .visits outside (outsideNext _) (leadsNext _)
        (Pool.evolves_settle system.now (differ place))
  | consult query =>
      simp only [attend] at attended
      split at attended
      · next world asked =>
        cases attended
        have step : Step stripe system (.advances name) _ :=
          .consults query rest attending (.inl ⟨rfl, congrArg Prod.fst asked⟩)
        rwa [asked] at step
      · next error world asked =>
        cases attended
        have step : Step stripe system (.advances name) _ :=
          .consults query rest attending (.inr ⟨error, rfl⟩)
        rwa [asked] at step

/-- A client that holds a lock never has to wait. -/
theorem move?_of_inside
    {name : Nat}
    {place : ι}
    {key : String}
    {stage : Stage σ η}
    {rest : List (Task ι σ η)}
    (inside : system.clients name = .inside place key stage rest) :
    system.move? stripe (.advances name) =
      some (system.proceed stripe name place key rest stage) := by
  simp only [move?, advance, inside]

/-- A client that holds a lock makes one of the steps for that. -/
theorem step_of_proceed
    (differ : ∀ place, (system.pools place).KeysDiffer)
    {name : Nat}
    {place : ι}
    {key : String}
    {stage : Stage σ η}
    {rest : List (Task ι σ η)}
    (inside : system.clients name = .inside place key stage rest) :
    Step stripe system (.advances name)
      (system.proceed stripe name place key rest stage) := by
  cases stage with
  | recheck opener =>
      have evolves := Pool.evolves_lookup system.now (differ place) key
      have found := (system.pools place).fst_lookup system.now key
      simp only [proceed]
      split
      · next number pool looked =>
        rw [looked] at evolves
        exact .acts _ inside (.inl ⟨opener, rfl⟩)
          (evolves.trans (.count .hit (.inl rfl) (.done _)))
      · next pool looked =>
        rw [looked] at evolves found
        have missing := Option.map_eq_none_iff.mp found.symm
        exact .starts opener inside missing
          (evolves.trans (.count .miss (.inr (.inl rfl)) (.done _)))
  | opening serial opener =>
      simp only [proceed]
      split
      · next error world opened => exact .fails error inside opened
      · next handle world opened => exact .opens handle inside opened
  | opened number => exact .keeps number inside
  | kept number =>
      exact .acts _ inside (.inr (.inl ⟨number, rfl⟩))
        (Pool.evolves_settle system.now (differ place))
  | removal noted =>
      exact .acts _ inside (.inr (.inr ⟨noted, rfl⟩))
        (Pool.evolves_takeOut system.now (differ place) key noted)
  | leaving reply => exact .leaves inside

/-- Every move is of one of the kinds. -/
theorem step_of_move?
    (differ : ∀ place, (system.pools place).KeysDiffer)
    {move : Move ι σ η}
    (moved : system.move? stripe move = some final) :
    Step stripe system move final := by
  cases move with
  | begins name task rest =>
      simp only [move?] at moved
      split at moved
      · next reply idle =>
        cases moved
        exact .begins task rest idle
      · cases moved
  | elapses nanos =>
      cases moved
      exact .elapses nanos
  | advances name =>
      simp only [move?, advance] at moved
      split at moved
      · cases moved
      · next task rest attending => exact step_of_attend differ attending moved
      · next place key opener rest waiting =>
        refine step_of_enter (by rw [waiting]; trivial) ?_
          (.inl ⟨opener, rfl⟩) moved
        intro conduct within
        rwa [waiting] at within
      · next place key stage rest inside =>
        cases moved
        exact step_of_proceed differ inside

/-- The moves of others, and calls that begin, leave a busy client as it is. -/
theorem Step.clients_eq
    {move : Move ι σ η}
    (step : Step stripe system move final)
    {name : Nat}
    (notMine : move ≠ .advances name)
    (notIdle : ∀ reply, system.clients name ≠ .idle reply) :
    final.clients name = system.clients name := by
  cases step with
  | begins task rest idle =>
      refine Function.update_of_ne ?_ ..
      rintro rfl
      exact notIdle _ idle
  | elapses nanos => rfl
  | _ =>
      refine Function.update_of_ne ?_ ..
      rintro rfl
      exact notMine rfl

/-- Clients that keep to a conduct go on keeping to it. -/
theorem Step.within
    {conduct : Conduct σ η}
    {move : Move ι σ η}
    (step : Step stripe system move final)
    (allowed : move.Within conduct)
    (within : ∀ name, (system.clients name).Within conduct)
    (name : Nat) :
    (final.clients name).Within conduct := by
  have setClient : ∀ mover client, Client.Within conduct client →
      (Function.update system.clients mover client name).Within conduct := by
    intro mover client mine
    rw [Function.update_apply]
    split
    · exact mine
    · exact within name
  cases step with
  | begins task rest idle => exact setClient _ _ allowed
  | elapses nanos => exact within name
  | visits before after leads evolves =>
      exact setClient _ _ (leads conduct (within _))
  | @consults mover client query rest attending after =>
      have mine := within mover
      rw [attending] at mine
      refine setClient _ _ ?_
      obtain ⟨rfl, -⟩ | ⟨error, rfl⟩ := after
      · exact Client.within_next _ mine.2
      · trivial
  | enters outside leads free stages =>
      exact setClient _ _ (leads conduct (within _))
  | @acts mover _ _ _ _ _ reply inside stages evolves =>
      have mine := within mover
      rw [inside] at mine
      exact setClient _ _ ⟨trivial, mine.2⟩
  | @starts mover _ _ _ _ opener inside missing evolves =>
      have mine := within mover
      rw [inside] at mine
      exact setClient _ _ mine
  | @fails mover _ _ _ _ _ _ error inside opened
  | @opens mover _ _ _ _ _ _ handle inside opened =>
      have mine := within mover
      rw [inside] at mine
      exact setClient _ _ ⟨trivial, mine.2⟩
  | @keeps mover _ _ _ number inside =>
      have mine := within mover
      rw [inside] at mine
      exact setClient _ _ ⟨trivial, mine.2⟩
  | @leaves mover _ _ reply _ inside =>
      have mine := within mover
      rw [inside] at mine
      exact setClient _ _ (Client.within_next _ mine.2)

end System
end HandlePool
