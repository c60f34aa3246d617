import HandlePool.Proofs.Clients.Whereabouts
import HandlePool.Proofs.Pool.Custody

/-!
# Order among clients

A key for which an opener runs has no live entry until the handle is kept.  A
handle that was opened and will be kept is in the hands of one client.  Custody
of the handles follows: those in the hands of a client are the loose ones, apart
from pools that can keep nothing, which leave every handle to their callers.
-/

namespace HandlePool

variable {ι σ η : Type}

namespace System

/-- A handle that a pool does not have to close: some client will have it kept,
or the pool can keep none. -/
def Loose (configs : ι → PoolConfig) (system : System ι σ η) (place : ι)
    (number : Nat) : Prop :=
  (configs place).maxSize = 0 ∨ ∃ name key, system.Brings name place key number

variable [DecidableEq ι]
variable {stripe : ι → String → Nat} {system final : System ι σ η}

/-! ## What happens to pools -/

/-- An opener returned a handle to its client. -/
structure Enrolls (system final : System ι σ η) (name : Nat) (place : ι)
    (key : String) (serial : Nat) (handle : η) : Prop where
  runs : system.Runs name place key serial
  openings_eq : final.openings = system.openings ++
    [⟨serial, place, key, .ok (system.pools place).handles.length⟩]
  pools_eq : final.pools = Function.update system.pools place
    (((system.pools place).count .opened).enroll handle).2
  now_eq : final.now = system.now
  brings_iff : ∀ other otherPlace otherKey number,
    final.Brings other otherPlace otherKey number ↔
      system.Brings other otherPlace otherKey number ∨
        other = name ∧ otherPlace = place ∧ otherKey = key ∧
          number = (system.pools place).handles.length

section Enrolls

variable {name : Nat} {place : ι} {key : String} {serial : Nat} {handle : η}

theorem Enrolls.pool_eq_of_ne
    (enrolls : Enrolls system final name place key serial handle)
    {other : ι}
    (different : other ≠ place) :
    final.pools other = system.pools other := by
  rw [enrolls.pools_eq, Function.update_of_ne different]

theorem Enrolls.pool_eq
    (enrolls : Enrolls system final name place key serial handle) :
    final.pools place =
      (((system.pools place).count .opened).enroll handle).2 := by
  rw [enrolls.pools_eq, Function.update_self]

theorem Enrolls.length_handles
    (enrolls : Enrolls system final name place key serial handle) :
    (final.pools place).handles.length =
      (system.pools place).handles.length + 1 := by
  rw [enrolls.pool_eq]
  exact List.length_append

theorem Enrolls.length_handles_le
    (enrolls : Enrolls system final name place key serial handle)
    (other : ι) :
    (system.pools other).handles.length ≤
      (final.pools other).handles.length := by
  by_cases same : other = place
  · rw [same, enrolls.length_handles]
    exact Nat.le_succ _
  · have unchanged := enrolls.pool_eq_of_ne same
    exact Nat.le_of_eq
      (congrArg (fun pool => pool.handles.length) unchanged.symm)

theorem Enrolls.live?_eq
    (enrolls : Enrolls system final name place key serial handle)
    (other : ι)
    (otherKey : String) :
    (final.pools other).live? final.now otherKey =
      (system.pools other).live? system.now otherKey := by
  rw [enrolls.now_eq]
  by_cases same : other = place
  · rw [same, enrolls.pool_eq]
    rfl
  · rw [enrolls.pool_eq_of_ne same]

end Enrolls

variable [Handle η]

/-- Pools evolve, and no client gets or gives away a handle
that will be kept. -/
structure Quiet (system final : System ι σ η) : Prop where
  evolves : ∀ place, Pool.Evolves system.now (system.pools place)
    (final.pools place)
  brings_iff : ∀ name place key number,
    final.Brings name place key number ↔ system.Brings name place key number
  /-- At most a failure is noted. -/
  openings : final.openings = system.openings ∨
    ∃ name place key serial error, system.Runs name place key serial ∧
      final.openings = system.openings ++ [⟨serial, place, key, .error error⟩]

/-- A pool took over the handle that a client brought. -/
structure Keeps (system final : System ι σ η) (name : Nat) (place : ι)
    (key : String) (number : Nat) : Prop where
  pools_eq : final.pools = Function.update system.pools place
    ((system.pools place).insert system.now key number)
  now_eq : final.now = system.now
  openings_eq : final.openings = system.openings
  kept : final.At name place key (.kept number)
  brings_iff : ∀ other otherPlace otherKey otherNumber,
    final.Brings other otherPlace otherKey otherNumber ↔
      system.Brings other otherPlace otherKey otherNumber ∧ other ≠ name
  runs : ∀ other otherPlace otherKey serial,
    final.Runs other otherPlace otherKey serial →
    system.Runs other otherPlace otherKey serial

theorem evolves_update
    {changed : ι}
    {pool : Pool η}
    (evolves : Pool.Evolves system.now (system.pools changed) pool)
    (place : ι) :
    Pool.Evolves system.now (system.pools place)
      (Function.update system.pools changed pool place) := by
  by_cases same : place = changed
  · subst same
    rwa [Function.update_self]
  · rw [Function.update_of_ne same]
    exact .done _

/-- A move is quiet, or an opener returned a handle, or a pool took one over. -/
theorem Step.quiet_or
    {move : Move ι σ η}
    (step : Step stripe system move final) :
    Quiet system final ∨
      (∃ name place key serial opener handle,
        system.At name place key (.opening serial opener) ∧
          (opener system.world).1 = .ok handle ∧
          Enrolls system final name place key serial handle) ∨
      ∃ name place key number, system.Brings name place key number ∧
        Keeps system final name place key number := by
  have notOutside : ∀ {client : Client ι σ η}, client.Outside →
      ∀ place key number rest,
      client ≠ .inside place key (.opened number) rest := by
    rintro client outside place key number rest rfl
    exact outside
  cases step with
  | @begins name reply task rest idle =>
      have before : ∀ place key stage, ¬system.At name place key stage :=
        not_at_of_outside (by rw [idle]; trivial)
      refine .inl ⟨fun place =>
        .done _, brings_setClient_iff ?_ (notOutside trivial),
        .inl rfl⟩
      exact fun place key number => before place key (.opened number)
  | elapses nanos =>
      exact .inl ⟨fun place => .done _, fun _ _ _ _ => Iff.rfl, .inl rfl⟩
  | visits before after leads evolves =>
      refine .inl ⟨evolves_update evolves,
        brings_setClient_iff ?_ (notOutside after), .inl rfl⟩
      exact fun place key number =>
        not_at_of_outside before place key (.opened number)
  | consults query rest attending after =>
      have before := not_at_of_outside (by rw [attending]; trivial)
      refine .inl ⟨fun place =>
        .done _, brings_setClient_iff ?_ (notOutside ?_),
        .inl rfl⟩
      · exact fun place key number => before place key (.opened number)
      · obtain ⟨rfl, -⟩ | ⟨error, rfl⟩ := after
        · exact Client.outside_next _ _
        · trivial
  | enters outside leads free stages =>
      refine .inl ⟨fun place => .done _, brings_setClient_iff ?_ ?_, .inl rfl⟩
      · exact fun place key number =>
          not_at_of_outside outside place key (.opened number)
      · rintro place key number rest isInside
        cases isInside
        obtain ⟨opener, isRecheck⟩ | ⟨noted, isRemoval⟩ := stages
        · cases isRecheck
        · cases isRemoval
  | acts reply inside stages evolves =>
      refine .inl ⟨evolves_update evolves,
        brings_setClient_iff ?_ (by simp), .inl rfl⟩
      refine not_brings_of_at ⟨_, inside⟩ ?_
      rintro number rfl
      obtain ⟨opener, isRecheck⟩ | ⟨other, isKept⟩ |
          ⟨noted, isRemoval⟩ := stages
      · cases isRecheck
      · cases isKept
      · cases isRemoval
  | starts opener inside missing evolves =>
      refine .inl ⟨evolves_update evolves,
        brings_setClient_iff ?_ (by simp), .inl rfl⟩
      exact not_brings_of_at ⟨_, inside⟩ (by simp)
  | fails error inside opened =>
      refine .inl ⟨evolves_update
        (.count .openFailure (.inr (.inr rfl)) (.done _)),
        brings_setClient_iff ?_ (by simp),
        .inr ⟨_, _, _, _, error, ⟨_, _, inside⟩, rfl⟩⟩
      exact not_brings_of_at ⟨_, inside⟩ (by simp)
  | opens handle inside opened =>
      refine .inr
        (.inl ⟨_, _, _, _, _, handle, ⟨_, inside⟩, congrArg Prod.fst opened,
        ⟨_, _, inside⟩, rfl, rfl, rfl, brings_setClient_opened_iff ?_⟩)
      exact not_brings_of_at ⟨_, inside⟩ (by simp)
  | keeps number inside =>
      refine .inr (.inr ⟨_, _, _, number, ⟨_, inside⟩, rfl, rfl, rfl,
        ⟨_, Function.update_self ..⟩, brings_setClient_kept_iff (by simp), ?_⟩)
      rintro other place key serial ⟨opener, running⟩
      obtain ⟨-, rest, isInside⟩ | ⟨-, running⟩ := running.of_setClient
      · cases isInside
      · exact ⟨opener, running⟩
  | leaves inside =>
      refine .inl ⟨fun place => .done _,
        brings_setClient_iff ?_ (notOutside (Client.outside_next _ _)),
        .inl rfl⟩
      exact not_brings_of_at ⟨_, inside⟩ (by simp)

theorem Step.now_le
    {move : Move ι σ η}
    (step : Step stripe system move final) :
    system.now ≤ final.now := by
  cases step with
  | elapses nanos => exact Nat.le_add_right _ _
  | _ => exact Nat.le_refl _

section Keeps

variable {name : Nat} {place : ι} {key : String} {number : Nat}

theorem Keeps.pool_eq_of_ne
    (keeps : Keeps system final name place key number)
    {other : ι}
    (different : other ≠ place) :
    final.pools other = system.pools other := by
  rw [keeps.pools_eq, Function.update_of_ne different]

theorem Keeps.pool_eq
    (keeps : Keeps system final name place key number) :
    final.pools place = (system.pools place).insert system.now key number := by
  rw [keeps.pools_eq, Function.update_self]

theorem Keeps.length_handles
    (keeps : Keeps system final name place key number)
    (other : ι) :
    (final.pools other).handles.length =
      (system.pools other).handles.length := by
  by_cases same : other = place
  · rw [same, keeps.pool_eq, Pool.length_handles_insert]
  · rw [keeps.pool_eq_of_ne same]

/-- The client that had its handle kept awaits no more. -/
theorem Keeps.awaits
    (keeps : Keeps system final name place key number)
    {other : Nat}
    {otherPlace : ι}
    {otherKey : String}
    (awaits : final.Awaits other otherPlace otherKey) :
    other ≠ name ∧ system.Awaits other otherPlace otherKey := by
  obtain ⟨serial, running⟩ | ⟨otherNumber, brings⟩ := awaits
  · refine ⟨?_, .inl ⟨serial, keeps.runs _ _ _ _ running⟩⟩
    rintro rfl
    obtain ⟨opener, running⟩ := running
    cases (running.unique keeps.kept).2.2
  · obtain ⟨before, different⟩ := (keeps.brings_iff ..).mp brings
    exact ⟨different, .inr ⟨otherNumber, before⟩⟩

end Keeps

end System

/-! ## Keeping order -/

open TrackedHandle

/-- Openers return fresh handles. -/
def Conduct.OpensFresh [TrackedHandle η] (conduct : Conduct σ η) : Prop :=
  ∀ opener, conduct.opens opener → ∀ world handle,
    (opener world).1 = .ok handle → IsFresh handle

namespace System

section Order

variable [TrackedHandle η]

/-- Clients keep to their locks, and every handle is in one pair of hands. -/
structure Orderly (stripe : ι → String → Nat) (configs : ι → PoolConfig)
    (conduct : Conduct σ η) (system : System ι σ η) : Prop where
  config_eq : ∀ place, (system.pools place).config = configs place
  within : ∀ name, (system.clients name).Within conduct
  locked : Locked stripe system
  /-- A key has no live entry while somebody opens a handle for it. -/
  missing : ∀ name place key, system.Awaits name place key →
    (system.pools place).live? system.now key = none
  given : ∀ name place key number, system.Brings name place key number →
    number < (system.pools place).handles.length
  /-- No two clients bring the same handle. -/
  apart : ∀ left right place key otherKey number,
    system.Brings left place key number →
    system.Brings right place otherKey number → left = right
  custody : ∀ place, (system.pools place).Custody (Loose configs system place)

variable
  {stripe : ι → String → Nat}
  {configs : ι → PoolConfig}
  {conduct : Conduct σ η}
  {system final : System ι σ η}

theorem Orderly.keysDiffer
    (orderly : Orderly stripe configs conduct system)
    (place : ι) :
    (system.pools place).KeysDiffer :=
  (orderly.custody place).keysDiffer

/-- A system that nobody has used is in order. -/
theorem orderly_start
    (stripe : ι → String → Nat)
    (names : ι → String)
    (configs : ι → PoolConfig)
    (conduct : Conduct σ η)
    (world : σ) :
    Orderly stripe configs conduct (start names configs world) := by
  have outside := @not_at_start ι σ η names configs world
  constructor
  · exact fun place => rfl
  · exact fun name => trivial
  · rintro name place key ⟨stage, located⟩
    exact absurd located (outside name place key stage)
  · rintro name place key (⟨serial, opener, located⟩ | ⟨number, located⟩)
    · exact absurd located (outside name place key _)
    · exact absurd located (outside name place key _)
  · exact fun name place key number located =>
      absurd located (outside name place key _)
  · exact fun left _ place key _ _ located =>
      absurd located (outside left place key _)
  · exact fun place => Pool.custody_create _ _ _

theorem Quiet.loose_iff
    (quiet : Quiet system final)
    (place : ι)
    (number : Nat) :
    Loose configs final place number ↔ Loose configs system place number := by
  simp only [Loose, quiet.brings_iff]

theorem Quiet.missing
    (quiet : Quiet system final)
    (inOrder : system.now ≤ final.now)
    {place : ι}
    (differ : (system.pools place).KeysDiffer)
    {key : String}
    (missing : (system.pools place).live? system.now key = none) :
    (final.pools place).live? final.now key = none := by
  have evolves := quiet.evolves place
  exact (evolves.keysDiffer differ).live?_eq_none_of_le inOrder
    (evolves.live?_eq_none differ missing)

variable [DecidableEq ι]

section Enrolls

variable {name : Nat} {place : ι} {key : String} {serial : Nat} {handle : η}

theorem Enrolls.custody
    (enrolls : Enrolls system final name place key serial handle)
    (fresh : IsFresh handle)
    (custody : ∀ place,
      (system.pools place).Custody (Loose configs system place))
    (other : ι) :
    (final.pools other).Custody (Loose configs final other) := by
  by_cases same : other = place
  · subst same
    have counted : ((system.pools other).count .opened).Custody
        (Loose configs system other) := (custody other).congr rfl rfl
    rw [enrolls.pool_eq]
    refine (counted.enroll fresh).mono_loose fun number _ => ?_
    simp only [Loose, enrolls.brings_iff, true_and]
    change (_ ∨ number = (system.pools other).handles.length) ↔ _
    constructor
    · rintro ((holdsNone | ⟨bringer, otherKey, brings⟩) | newest)
      · exact .inl holdsNone
      · exact .inr ⟨bringer, otherKey, .inl brings⟩
      · exact .inr ⟨name, key, .inr ⟨rfl, rfl, newest⟩⟩
    · rintro (holdsNone | ⟨bringer, otherKey, brings | ⟨-, -, newest⟩⟩)
      · exact .inl (.inl holdsNone)
      · exact .inl (.inr ⟨bringer, otherKey, brings⟩)
      · exact .inr newest
  · rw [enrolls.pool_eq_of_ne same]
    refine (custody other).mono_loose fun number _ => ?_
    simp only [Loose, enrolls.brings_iff, same, false_and, and_false, or_false]

end Enrolls

section Keeps

variable {name : Nat} {place : ι} {key : String} {number : Nat}

theorem Keeps.custody
    (orderly : Orderly stripe configs conduct system)
    (brings : system.Brings name place key number)
    (keeps : Keeps system final name place key number)
    (other : ι) :
    (final.pools other).Custody (Loose configs final other) := by
  by_cases same : other = place
  · subst same
    rw [keeps.pool_eq]
    by_cases holdsSome : (configs other).maxSize = 0
    · rw [Pool.insert_of_eq_zero (by rw [orderly.config_eq, holdsSome])]
      refine (orderly.custody other).mono_loose fun number _ => ?_
      exact iff_of_true (.inl holdsSome) (.inl holdsSome)
    · have poolHolds : (system.pools other).config.maxSize ≠ 0 := by
        rwa [orderly.config_eq]
      have missing := orderly.missing name other key (.inr ⟨number, brings⟩)
      have given := orderly.given name other key number brings
      have inserted := (orderly.custody other).insert poolHolds missing given
        (.inr ⟨name, key, brings⟩)
      refine inserted.mono_loose fun otherNumber _ => ?_
      simp only [Loose, keeps.brings_iff, holdsSome, false_or]
      constructor
      · rintro ⟨⟨bringer, otherKey, otherBrings⟩, different⟩
        refine ⟨bringer, otherKey, otherBrings, ?_⟩
        rintro rfl
        cases (otherBrings.unique brings).2.2
        exact different rfl
      · rintro ⟨bringer, otherKey, otherBrings, different⟩
        refine ⟨⟨bringer, otherKey, otherBrings⟩, ?_⟩
        rintro rfl
        exact different (orderly.apart _ _ _ _ _ _ otherBrings brings)
  · rw [keeps.pool_eq_of_ne same]
    refine (orderly.custody other).mono_loose fun otherNumber _ => ?_
    simp only [Loose, keeps.brings_iff]
    refine or_congr_right ?_
    constructor
    · rintro ⟨bringer, otherKey, otherBrings⟩
      refine ⟨bringer, otherKey, otherBrings, ?_⟩
      rintro rfl
      exact same (otherBrings.unique brings).1
    · rintro ⟨bringer, otherKey, otherBrings, -⟩
      exact ⟨bringer, otherKey, otherBrings⟩

end Keeps

/-! ## Moves and runs -/

theorem Step.missing
    {move : Move ι σ η}
    (orderly : Orderly stripe configs conduct system)
    (step : Step stripe system move final)
    (name : Nat)
    (place : ι)
    (key : String)
    (awaits : final.Awaits name place key) :
    (final.pools place).live? final.now key = none := by
  have before : (system.pools place).live? system.now key = none := by
    obtain earlier | missing := step.awaits_cases awaits
    · exact orderly.missing name place key earlier
    · exact missing
  obtain quiet | ⟨_, _, _, _, _, _, _, _, enrolls⟩ |
      ⟨other, otherPlace, otherKey, number,
    brings, keeps⟩ := step.quiet_or
  · exact quiet.missing step.now_le (orderly.keysDiffer place) before
  · rw [enrolls.live?_eq, before]
  · obtain ⟨different, earlier⟩ := keeps.awaits awaits
    rw [keeps.now_eq]
    by_cases samePlace : place = otherPlace
    · subst samePlace
      -- Both clients are inside locks, so their keys differ.
      have keysDiffer : key ≠ otherKey := by
        rintro rfl
        exact different (orderly.locked.unique earlier.inside brings.inside rfl)
      rw [keeps.pool_eq,
        Pool.live?_insert_of_ne (orderly.keysDiffer place) _ _ keysDiffer,
        before]
      exact orderly.missing other place otherKey (.inr ⟨number, brings⟩)
    · rw [keeps.pool_eq_of_ne samePlace, before]

theorem Step.given
    {move : Move ι σ η}
    (orderly : Orderly stripe configs conduct system)
    (step : Step stripe system move final)
    (name : Nat)
    (place : ι)
    (key : String)
    (number : Nat)
    (brings : final.Brings name place key number) :
    number < (final.pools place).handles.length := by
  obtain quiet | ⟨_, _, _, _, _, _, _, _, enrolls⟩ | ⟨_, _, _, _, _, keeps⟩ :=
    step.quiet_or
  · rw [(quiet.evolves place).length_handles_eq]
    exact orderly.given name place key number ((quiet.brings_iff ..).mp brings)
  · obtain earlier | ⟨-, rfl, -, rfl⟩ := (enrolls.brings_iff ..).mp brings
    · exact Nat.lt_of_lt_of_le (orderly.given name place key number earlier)
        (enrolls.length_handles_le place)
    · rw [enrolls.length_handles]
      exact Nat.lt_succ_self _
  · rw [keeps.length_handles]
    exact orderly.given name place key number
      ((keeps.brings_iff ..).mp brings).1

theorem Step.apart
    {move : Move ι σ η}
    (orderly : Orderly stripe configs conduct system)
    (step : Step stripe system move final)
    (left right : Nat)
    (place : ι)
    (key otherKey : String)
    (number : Nat)
    (leftBrings : final.Brings left place key number)
    (rightBrings : final.Brings right place otherKey number) :
    left = right := by
  obtain quiet | ⟨_, _, _, _, _, _, _, _, enrolls⟩ | ⟨_, _, _, _, _, keeps⟩ :=
    step.quiet_or
  · rw [quiet.brings_iff] at leftBrings rightBrings
    exact orderly.apart _ _ _ _ _ _ leftBrings rightBrings
  · -- A new handle has a number that nobody had before.
    rw [enrolls.brings_iff] at leftBrings rightBrings
    obtain leftBefore | ⟨rfl, rfl, -, rfl⟩ := leftBrings
    · obtain rightBefore | ⟨rfl, rfl, -, rfl⟩ := rightBrings
      · exact orderly.apart _ _ _ _ _ _ leftBefore rightBefore
      · exact absurd (orderly.given _ _ _ _ leftBefore) (Nat.lt_irrefl _)
    · obtain rightBefore | ⟨rfl, -⟩ := rightBrings
      · exact absurd (orderly.given _ _ _ _ rightBefore) (Nat.lt_irrefl _)
      · rfl
  · rw [keeps.brings_iff] at leftBrings rightBrings
    exact orderly.apart _ _ _ _ _ _ leftBrings.1 rightBrings.1

/-- Every move of clients that keep to their conduct keeps order. -/
theorem Orderly.step
    {move : Move ι σ η}
    (fresh : conduct.OpensFresh)
    (orderly : Orderly stripe configs conduct system)
    (allowed : move.Within conduct)
    (step : Step stripe system move final) :
    Orderly stripe configs conduct final := by
  constructor
  · intro place
    rw [← orderly.config_eq place]
    obtain quiet | ⟨_, changed, _, _, _, _, _, _, enrolls⟩ |
        ⟨_, changed, _, _, _, keeps⟩ :=
      step.quiet_or
    · exact (quiet.evolves place).config_eq
    · by_cases same : place = changed
      · rw [same, enrolls.pool_eq]
        rfl
      · rw [enrolls.pool_eq_of_ne same]
    · by_cases same : place = changed
      · rw [same, keeps.pool_eq, Pool.config_insert]
      · rw [keeps.pool_eq_of_ne same]
  · exact step.within allowed orderly.within
  · exact step.locked orderly.locked
  · exact step.missing orderly
  · exact step.given orderly
  · exact step.apart orderly
  · intro place
    obtain quiet | ⟨name, _, _, _, _, _, located, opened, enrolls⟩ |
      ⟨_, _, _, _, brings, keeps⟩ := step.quiet_or
    · refine ((orderly.custody place).evolves (quiet.evolves place)).mono_loose
        ?_
      exact fun number _ => (quiet.loose_iff place number).symm
    · obtain ⟨rest, located⟩ := located
      have mine := orderly.within name
      rw [located] at mine
      exact enrolls.custody (fresh _ mine.1 _ _ opened) orderly.custody place
    · exact keeps.custody orderly brings place

/-- What every move of clients in order keeps holds as long
as they make moves. -/
theorem Orderly.reaches
    (fresh : conduct.OpensFresh)
    {allowed : Move ι σ η → Prop}
    (conforms : ∀ move, allowed move → move.Within conduct)
    (orderly : Orderly stripe configs conduct system)
    (reaches : system.Reaches stripe allowed final)
    (property : System ι σ η → Prop)
    (holds : property system)
    (kept : ∀ {before after : System ι σ η} {move : Move ι σ η},
      Orderly stripe configs conduct before → allowed move →
        before.move? stripe move = some after → property before →
        property after) :
    Orderly stripe configs conduct final ∧ property final := by
  obtain ⟨moves, allAllowed, played⟩ := reaches
  induction moves generalizing system with
  | nil =>
      cases played
      exact ⟨orderly, holds⟩
  | cons move moves inductionHypothesis =>
      simp only [System.play, List.foldlM_cons, Option.bind_eq_bind,
        Option.bind_eq_some_iff] at played
      obtain ⟨middle, moved, played⟩ := played
      have step := step_of_move? orderly.keysDiffer moved
      have allowedNow := allAllowed move List.mem_cons_self
      have middleOrderly := orderly.step fresh (conforms move allowedNow) step
      refine inductionHypothesis middleOrderly
        (kept orderly allowedNow moved holds) ?_ played
      exact fun later present =>
        allAllowed later (List.mem_cons_of_mem _ present)

end Order

end System
end HandlePool
