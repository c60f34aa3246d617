import HandlePool.Proofs.Clients.Steps

/-!
# Where clients are

A client is inside the lock of a key, at some stage, or it is outside of all
locks.  A client is found at a stage because it was there before the last move,
or because the move was its own and led there from the stage before.  Whoever is
inside the lock of a key holds it, so that nobody else is.
-/

namespace HandlePool

variable {ι σ η : Type}

namespace System

/-- The client is inside the lock of a key, so far. -/
def At (system : System ι σ η) (name : Nat) (place : ι) (key : String)
    (stage : Stage σ η) : Prop :=
  ∃ rest, system.clients name = .inside place key stage rest

/-- The client is inside the lock of a key. -/
def Inside (system : System ι σ η) (name : Nat) (place : ι)
    (key : String) : Prop :=
  ∃ stage, system.At name place key stage

/-- The opener of that serial number runs for a key. -/
def Runs (system : System ι σ η) (name : Nat) (place : ι) (key : String)
    (serial : Nat) : Prop :=
  ∃ opener, system.At name place key (.opening serial opener)

/-- The client has a handle for a key that was opened and will be kept. -/
def Brings (system : System ι σ η) (name : Nat) (place : ι) (key : String)
    (number : Nat) : Prop :=
  system.At name place key (.opened number)

/-- An opener runs for the client, or has returned a handle
that is not kept yet. -/
def Awaits (system : System ι σ η) (name : Nat) (place : ι)
    (key : String) : Prop :=
  (∃ serial, system.Runs name place key serial) ∨
    ∃ number, system.Brings name place key number

theorem At.inside
    {system : System ι σ η}
    {name : Nat}
    {place : ι}
    {key : String}
    {stage : Stage σ η}
    (at_ : system.At name place key stage) :
    system.Inside name place key :=
  ⟨stage, at_⟩

theorem Brings.inside
    {system : System ι σ η}
    {name : Nat}
    {place : ι}
    {key : String}
    {number : Nat}
    (brings : system.Brings name place key number) :
    system.Inside name place key :=
  At.inside brings

theorem Awaits.inside
    {system : System ι σ η}
    {name : Nat}
    {place : ι}
    {key : String}
    (awaits : system.Awaits name place key) :
    system.Inside name place key := by
  obtain ⟨serial, opener, running⟩ | ⟨number, brings⟩ := awaits
  · exact running.inside
  · exact brings.inside

/-- A client is at one stage of one call. -/
theorem At.unique
    {system : System ι σ η}
    {name : Nat}
    {place other : ι}
    {key otherKey : String}
    {stage otherStage : Stage σ η}
    (left : system.At name place key stage)
    (right : system.At name other otherKey otherStage) :
    place = other ∧ key = otherKey ∧ stage = otherStage := by
  obtain ⟨rest, left⟩ := left
  obtain ⟨otherRest, right⟩ := right
  have same := left.symm.trans right
  simp only [Client.inside.injEq] at same
  exact ⟨same.1, same.2.1, same.2.2.1⟩

/-- Setting one client leaves the others where they are. -/
theorem At.of_setClient
    {system : System ι σ η}
    {name other : Nat}
    {client : Client ι σ η}
    {place : ι}
    {key : String}
    {stage : Stage σ η}
    (located : (system.setClient name client).At other place key stage) :
    (other = name ∧ ∃ rest, client = .inside place key stage rest) ∨
      (other ≠ name ∧ system.At other place key stage) := by
  obtain ⟨rest, located⟩ := located
  change Function.update system.clients name client other = _ at located
  rw [Function.update_apply] at located
  split at located
  · next same => exact .inl ⟨same, rest, located⟩
  · next different => exact .inr ⟨different, rest, located⟩

/-- Nobody gets inside a lock when a client gets outside. -/
theorem At.of_setClient_of_outside
    {system : System ι σ η}
    {name other : Nat}
    {client : Client ι σ η}
    (outside : client.Outside)
    {place : ι}
    {key : String}
    {stage : Stage σ η}
    (located : (system.setClient name client).At other place key stage) :
    other ≠ name ∧ system.At other place key stage := by
  obtain ⟨-, rest, rfl⟩ | unchanged := located.of_setClient
  · exact absurd outside id
  · exact unchanged

/-- A client that goes on inside its lock leaves everyone where they are. -/
theorem Inside.of_setClient
    {system : System ι σ η}
    {name other : Nat}
    {place otherPlace : ι}
    {key otherKey : String}
    {before after : Stage σ η}
    {rest : List (Task ι σ η)}
    (wasInside : system.At name place key before)
    (located : (system.setClient name (.inside place key after rest)).Inside
      other otherPlace otherKey) :
    system.Inside other otherPlace otherKey := by
  obtain ⟨stage, located⟩ := located
  obtain ⟨rfl, rest, isInside⟩ | ⟨-, located⟩ := located.of_setClient
  · cases isInside
    exact wasInside.inside
  · exact located.inside

theorem not_at_of_outside
    {system : System ι σ η}
    {name : Nat}
    (outside : (system.clients name).Outside)
    (place : ι)
    (key : String)
    (stage : Stage σ η) :
    ¬system.At name place key stage := by
  rintro ⟨rest, located⟩
  rw [located] at outside
  exact outside

/-- Nobody is inside a lock before the first call. -/
theorem not_at_start
    (names : ι → String)
    (configs : ι → PoolConfig)
    (world : σ)
    (name : Nat)
    (place : ι)
    (key : String)
    (stage : Stage σ η) :
    ¬(start names configs world).At name place key stage := by
  apply not_at_of_outside
  trivial

section Setting

variable {stripe : ι → String → Nat} {system : System ι σ η}

/-- Whoever is inside the lock of a key holds it. -/
def Locked (stripe : ι → String → Nat) (system : System ι σ η) : Prop :=
  ∀ name place key, system.Inside name place key →
    system.locks (place, stripe place key) = some name

/-- Nobody else is inside a lock. -/
theorem Locked.unique
    (locked : Locked stripe system)
    {left right : Nat}
    {place : ι}
    {key otherKey : String}
    (leftInside : system.Inside left place key)
    (rightInside : system.Inside right place otherKey)
    (sameStripe : stripe place key = stripe place otherKey) :
    left = right := by
  have leftHolds := locked left place key leftInside
  have rightHolds := locked right place otherKey rightInside
  rw [sameStripe, rightHolds, Option.some.injEq] at leftHolds
  exact leftHolds.symm

/-- Where a client goes that has nothing to bring, and gets nothing, the others
bring what they brought. -/
theorem brings_setClient_iff
    {name : Nat}
    {client : Client ι σ η}
    (before : ∀ place key number, ¬system.Brings name place key number)
    (after : ∀ place key number rest,
      client ≠ .inside place key (.opened number) rest)
    (other : Nat)
    (place : ι)
    (key : String)
    (number : Nat) :
    (system.setClient name client).Brings other place key number ↔
      system.Brings other place key number := by
  constructor
  · intro brings
    obtain ⟨-, rest, isInside⟩ | ⟨-, brings⟩ := At.of_setClient brings
    · exact absurd isInside (after place key number rest)
    · exact brings
  · rintro ⟨rest, brings⟩
    refine ⟨rest, ?_⟩
    change Function.update system.clients name client other = _
    rw [Function.update_of_ne, brings]
    rintro rfl
    exact before place key number ⟨rest, brings⟩

/-- What a client brings is what it has at that stage. -/
theorem brings_setClient_opened_iff
    {name : Nat}
    {place : ι}
    {key : String}
    {number : Nat}
    {rest : List (Task ι σ η)}
    (before : ∀ place key number, ¬system.Brings name place key number)
    (other : Nat)
    (otherPlace : ι)
    (otherKey : String)
    (otherNumber : Nat) :
    (system.setClient name (.inside place key (.opened number) rest)).Brings
        other otherPlace otherKey otherNumber ↔
      system.Brings other otherPlace otherKey otherNumber ∨
        other = name ∧ otherPlace = place ∧ otherKey = key ∧
        otherNumber = number := by
  constructor
  · intro brings
    obtain ⟨rfl, rest, isInside⟩ | ⟨-, brings⟩ := At.of_setClient brings
    · cases isInside
      exact .inr ⟨rfl, rfl, rfl, rfl⟩
    · exact .inl brings
  · rintro (⟨otherRest, brings⟩ | ⟨rfl, rfl, rfl, rfl⟩)
    · refine ⟨otherRest, ?_⟩
      change Function.update system.clients name _ other = _
      rw [Function.update_of_ne, brings]
      rintro rfl
      exact before otherPlace otherKey otherNumber ⟨otherRest, brings⟩
    · exact ⟨rest, Function.update_self ..⟩

theorem brings_setClient_kept_iff
    {name : Nat}
    {client : Client ι σ η}
    (after : ∀ place key number rest,
      client ≠ .inside place key (.opened number) rest)
    (other : Nat)
    (place : ι)
    (key : String)
    (number : Nat) :
    (system.setClient name client).Brings other place key number ↔
      system.Brings other place key number ∧ other ≠ name := by
  constructor
  · intro brings
    obtain ⟨-, rest, isInside⟩ | ⟨different, brings⟩ := At.of_setClient brings
    · exact absurd isInside (after place key number rest)
    · exact ⟨brings, different⟩
  · rintro ⟨⟨rest, brings⟩, different⟩
    refine ⟨rest, ?_⟩
    change Function.update system.clients name client other = _
    rw [Function.update_of_ne different, brings]

/-- A client at another stage brings nothing. -/
theorem not_brings_of_at
    {name : Nat}
    {place : ι}
    {key : String}
    {stage : Stage σ η}
    (located : system.At name place key stage)
    (different : ∀ number, stage ≠ .opened number)
    (otherPlace : ι)
    (otherKey : String)
    (number : Nat) :
    ¬system.Brings name otherPlace otherKey number :=
  fun brings => different number (located.unique brings).2.2

end Setting

variable [DecidableEq ι] [Handle η]
variable {stripe : ι → String → Nat} {system final : System ι σ η}

/-! ## Where clients come from -/

/-- What a client did last that is now at a stage inside a lock. -/
inductive Arrives (stripe : ι → String → Nat)
    (system final : System ι σ η) (name : Nat)
    (place : ι) (key : String) : Stage σ η → Prop
  | entered {stage : Stage σ η} :
      system.locks (place, stripe place key) = none →
      (∃ opener, stage = .recheck opener) ∨ (∃ noted, stage = .removal noted) →
      Arrives stripe system final name place key stage
  | acted (reply : Reply) :
      system.Inside name place key →
      Arrives stripe system final name place key (.leaving reply)
  | started (opener : σ → Except IoError η × σ) :
      system.At name place key (.recheck opener) →
      (system.pools place).live? system.now key = none →
      final.started = system.started + 1 →
      Arrives stripe system final name place key
        (.opening system.started opener)
  | opened {serial : Nat} :
      system.Runs name place key serial →
      Arrives stripe system final name place key
        (.opened (system.pools place).handles.length)
  | kept (number : Nat) :
      system.Brings name place key number →
      Arrives stripe system final name place key (.kept number)

/-- A client that is inside a lock after a move was there
before, or just arrived. -/
theorem Step.at_cases
    {move : Move ι σ η}
    (step : Step stripe system move final)
    {other : Nat}
    {place : ι}
    {key : String}
    {stage : Stage σ η}
    (located : final.At other place key stage) :
    system.At other place key stage ∨
      move = .advances other ∧
      Arrives stripe system final other place key stage := by
  cases step with
  | begins task rest idle =>
      exact .inl (At.of_setClient_of_outside (by trivial) located).2
  | elapses nanos => exact .inl located
  | visits _ outside _ _ =>
      exact .inl (located.of_setClient_of_outside outside).2
  | consults query tasks attending after =>
      refine .inl (located.of_setClient_of_outside ?_).2
      obtain ⟨rfl, -⟩ | ⟨error, rfl⟩ := after
      · exact Client.outside_next _ _
      · trivial
  | enters outside leads free stages =>
      obtain ⟨rfl, rest, isInside⟩ | ⟨-, located⟩ := located.of_setClient
      · cases isInside
        exact .inr ⟨rfl, .entered free stages⟩
      · exact .inl located
  | acts reply inside stages evolves =>
      obtain ⟨rfl, rest, isInside⟩ | ⟨-, located⟩ := located.of_setClient
      · cases isInside
        exact .inr ⟨rfl, .acted reply ⟨_, _, inside⟩⟩
      · exact .inl located
  | starts opener inside missing evolves =>
      obtain ⟨rest, located⟩ := located
      obtain ⟨rfl, rest, isInside⟩ | ⟨-, located⟩ :=
        At.of_setClient ⟨rest, located⟩
      · cases isInside
        exact .inr ⟨rfl, .started opener ⟨_, inside⟩ missing rfl⟩
      · exact .inl located
  | fails error inside opened =>
      obtain ⟨rfl, rest, isInside⟩ | ⟨-, located⟩ := located.of_setClient
      · cases isInside
        exact .inr ⟨rfl, .acted _ ⟨_, _, inside⟩⟩
      · exact .inl located
  | opens handle inside opened =>
      obtain ⟨rfl, rest, isInside⟩ | ⟨-, located⟩ := located.of_setClient
      · cases isInside
        exact .inr ⟨rfl, .opened ⟨_, _, inside⟩⟩
      · exact .inl located
  | keeps number inside =>
      obtain ⟨rfl, rest, isInside⟩ | ⟨-, located⟩ := located.of_setClient
      · cases isInside
        exact .inr ⟨rfl, .kept number ⟨_, inside⟩⟩
      · exact .inl located
  | leaves inside =>
      exact .inl (located.of_setClient_of_outside (Client.outside_next _ _)).2

/-! ## Locks -/

theorem Step.locked
    {move : Move ι σ η}
    (step : Step stripe system move final)
    (locked : Locked stripe system) :
    Locked stripe final := by
  rintro other place key ⟨stage, located⟩
  cases step with
  | begins task rest idle =>
      exact locked other place key
        (At.of_setClient_of_outside (by trivial) located).2.inside
  | elapses nanos => exact locked other place key located.inside
  | visits _ outside _ _ =>
      exact locked other place key
        (located.of_setClient_of_outside outside).2.inside
  | consults query tasks attending after =>
      refine locked other place key
        (located.of_setClient_of_outside ?_).2.inside
      obtain ⟨rfl, -⟩ | ⟨error, rfl⟩ := after
      · exact Client.outside_next _ _
      · trivial
  | @enters name enteredPlace enteredKey _ _ outside leads free stages =>
      change Function.update system.locks _ _ _ = _
      obtain ⟨rfl, rest, isInside⟩ | ⟨-, located⟩ := located.of_setClient
      · cases isInside
        exact Function.update_self ..
      · have held := locked other place key ⟨stage, located⟩
        rw [Function.update_apply, if_neg, held]
        intro same
        rw [same, free] at held
        cases held
  | acts reply inside stages evolves | keeps number inside =>
      exact locked other place key
        (Inside.of_setClient ⟨_, inside⟩ ⟨_, located⟩)
  | starts opener inside missing evolves =>
      exact locked other place key
        (Inside.of_setClient ⟨_, inside⟩ ⟨_, located⟩)
  | fails error inside opened | opens handle inside opened =>
      exact locked other place key
        (Inside.of_setClient ⟨_, inside⟩ ⟨_, located⟩)
  | @leaves name leftPlace leftKey reply rest inside =>
      change Function.update system.locks _ _ _ = _
      obtain ⟨different, located⟩ :=
        located.of_setClient_of_outside (Client.outside_next _ _)
      have held := locked other place key ⟨stage, located⟩
      rw [Function.update_apply, if_neg, held]
      intro same
      have leftHeld := locked name leftPlace leftKey ⟨_, _, inside⟩
      rw [same, leftHeld, Option.some.injEq] at held
      exact different held.symm

/-- A client that awaits a handle did so before, or found its key missing. -/
theorem Step.awaits_cases
    {move : Move ι σ η}
    (step : Step stripe system move final)
    {other : Nat}
    {place : ι}
    {key : String}
    (awaits : final.Awaits other place key) :
    system.Awaits other place key ∨
      (system.pools place).live? system.now key = none := by
  obtain ⟨serial, opener, running⟩ | ⟨number, brings⟩ := awaits
  · obtain before | ⟨-, arrives⟩ := step.at_cases running
    · exact .inl (.inl ⟨serial, opener, before⟩)
    · cases arrives with
      | entered _ stages =>
          obtain ⟨_, isRecheck⟩ | ⟨_, isRemoval⟩ := stages
          · cases isRecheck
          · cases isRemoval
      | started _ _ missing _ => exact .inr missing
  · obtain before | ⟨-, arrives⟩ := step.at_cases brings
    · exact .inl (.inr ⟨number, before⟩)
    · cases arrives with
      | entered _ stages =>
          obtain ⟨_, isRecheck⟩ | ⟨_, isRemoval⟩ := stages
          · cases isRecheck
          · cases isRemoval
      | opened running => exact .inl (.inl ⟨_, running⟩)

end System
end HandlePool
