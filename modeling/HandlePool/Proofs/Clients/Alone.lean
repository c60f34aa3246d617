import HandlePool.Proofs.Clients.Steps

/-!
# A client alone

The steps of a call that no other client comes between make up the call of the
pool: the same answer, and the same pool and world afterwards.  That is so
however much time passes until a handle is opened and kept, and until the pool
is put in order.
-/

namespace HandlePool

variable {ι σ η : Type}

namespace System

variable [DecidableEq ι] [Handle η]

/-- The client takes some steps, and nothing else happens
but that time passes. -/
def Proceeds (stripe : ι → String → Nat) (name : Nat)
    (system final : System ι σ η) : Prop :=
  system.Reaches stripe
    (fun move => move = .advances name ∨ ∃ nanos, move = .elapses nanos)
    final

/-- The client went on alone until some moment and is where the last argument
says; pools and world are like this now, and nothing else has changed but the
record of openers. -/
structure Alone (stripe : ι → String → Nat) (name : Nat)
    (system final : System ι σ η) (now : Instant) (pools : ι → Pool η)
    (world : σ) (client : Client ι σ η) : Prop where
  proceeds : Proceeds stripe name system final
  pools_eq : final.pools = pools
  world_eq : final.world = world
  now_eq : final.now = now
  locks_eq : final.locks = system.locks
  clients_eq : final.clients = Function.update system.clients name client

variable
  {stripe : ι → String → Nat}
  {system middle final : System ι σ η}
  {name : Nat}
  {place : ι}
  {key : String}
  {rest : List (Task ι σ η)}

theorem proceeds_of_advance
    (advanced : system.advance stripe name = some final) :
    Proceeds stripe name system final :=
  reaches_of_move? (.inl rfl) advanced

/-- The client lets time pass until some later moment. -/
theorem exists_alone_at
    (stripe : ι → String → Nat)
    (name : Nat)
    {later : Instant}
    (inOrder : system.now ≤ later) :
    ∃ final, Alone stripe name system final later system.pools system.world
      (system.clients name) := by
  refine ⟨_, reaches_of_move? (.inr ⟨later - system.now, rfl⟩) rfl, rfl,
    rfl, ?_, rfl, ?_⟩
  · exact Nat.add_sub_of_le inOrder
  · exact (Function.update_eq_self ..).symm

/-- A client does one thing alone, and then the next. -/
theorem Alone.trans
    {now later : Instant}
    {pools laterPools : ι → Pool η}
    {world laterWorld : σ}
    {client laterClient : Client ι σ η}
    (first : Alone stripe name system middle now pools world client)
    (second : Alone stripe name middle final later laterPools laterWorld
      laterClient) :
    Alone stripe name system final later laterPools laterWorld laterClient := by
  constructor
  · exact first.proceeds.trans second.proceeds
  · exact second.pools_eq
  · exact second.world_eq
  · exact second.now_eq
  · exact second.locks_eq.trans first.locks_eq
  · rw [second.clients_eq, first.clients_eq, Function.update_idem]

/-! ## Outside of locks -/

theorem alone_lookup
    (attending : system.clients name = .busy (.lookup place key) rest) :
    ∃ final, Alone stripe name system final system.now
      (Function.update system.pools place
        ((system.pools place).lookup system.now key).2)
      system.world
      (.next (.found ((system.pools place).lookup system.now key).1) rest) := by
  have advanced : system.advance stripe name =
      some ((system.setPool place
        ((system.pools place).lookup system.now key).2).setClient
        name (.next (.found ((system.pools place).lookup system.now key).1)
          rest)) := by
    simp only [advance, attending, attend]
  exact ⟨_, proceeds_of_advance advanced, rfl, rfl, rfl, rfl, rfl⟩

theorem alone_settle
    (attending : system.clients name = .busy (.settle place) rest) :
    ∃ final, Alone stripe name system final system.now
      (Function.update system.pools place
        ((system.pools place).settle system.now))
      system.world (.next (.done (.ok ())) rest) := by
  have advanced : system.advance stripe name =
      some ((system.setPool place
        ((system.pools place).settle system.now)).setClient name
        (.next (.done (.ok ())) rest)) := by
    simp only [advance, attending, attend]
  exact ⟨_, proceeds_of_advance advanced, rfl, rfl, rfl, rfl, rfl⟩

theorem alone_conclude
    {count : Nat}
    (attending : system.clients name = .busy (.conclude place count) rest) :
    ∃ final, Alone stripe name system final system.now
      (Function.update system.pools place
        (((system.pools place).settle system.now).note (.invalidatedAll count)))
      system.world (.next (.done (.ok ())) rest) := by
  have advanced : system.advance stripe name =
      some ((system.setPool place
        (((system.pools place).settle system.now).note
          (.invalidatedAll count))).setClient
          name (.next (.done (.ok ())) rest)) := by
    simp only [advance, attending, attend]
  exact ⟨_, proceeds_of_advance advanced, rfl, rfl, rfl, rfl, rfl⟩

/-- A query that fails ends the call. -/
theorem alone_consult
    (stripe : ι → String → Nat)
    {query : σ → Except IoError Unit × σ}
    (attending : system.clients name = .busy (.consult query) []) :
    ∃ final, Alone stripe name system final system.now system.pools
      (query system.world).2 (.idle (some (.done (query system.world).1))) := by
  cases asked : query system.world with
  | mk result world =>
      have advanced : system.advance stripe name =
          some ({ system with world := world }.setClient name
            (.idle (some (.done result)))) := by
        simp only [advance, attending, attend, asked]
        cases result <;> rfl
      exact ⟨_, proceeds_of_advance advanced, rfl, rfl, rfl, rfl, rfl⟩

/-! ## Under a lock -/

/-- What a client does between taking the lock of a key and giving it back. -/
theorem alone_of_enters
    (free : system.locks (place, stripe place key) = none)
    {stage : Stage σ η}
    (enters : system.advance stripe name =
      system.enter stripe name place key stage rest)
    {reply : Reply}
    {now : Instant}
    {pools : ι → Pool η}
    {world : σ}
    (inside : ∀ entered : System ι σ η, entered.pools = system.pools →
      entered.world = system.world → entered.now = system.now →
      entered.clients name = .inside place key stage rest →
        ∃ middle, Alone stripe name entered middle now pools world
          (.inside place key (.leaving reply) rest)) :
    ∃ final, Alone stripe name system final now pools world
      (.next reply rest) := by
  have entered : system.advance stripe name =
      some ((system.setLock (place, stripe place key) (some name)).setClient
        name (.inside place key stage rest)) := by
    rw [enters, enter, free]
  obtain ⟨middle, alone⟩ := inside
    ((system.setLock (place, stripe place key) (some name)).setClient name
      (.inside place key stage rest)) rfl rfl rfl (Function.update_self ..)
  have leaving :
      middle.clients name = .inside place key (.leaving reply) rest := by
    rw [alone.clients_eq, Function.update_self]
  refine ⟨middle.proceed stripe name place key rest (.leaving reply), ?_,
    alone.pools_eq, alone.world_eq, alone.now_eq, ?_, ?_⟩
  · exact (proceeds_of_advance entered).trans
      (alone.proceeds.trans
        (reaches_of_move? (.inl rfl) (move?_of_inside leaving)))
  · change Function.update middle.locks _ none = system.locks
    rw [alone.locks_eq]
    change Function.update (Function.update system.locks _ _) _ none =
        system.locks
    rw [Function.update_idem, ← free, Function.update_eq_self]
  · change Function.update middle.clients name _ = _
    rw [alone.clients_eq]
    change Function.update
        (Function.update (Function.update system.clients name _) _ _) _ _ = _
    rw [Function.update_idem, Function.update_idem]

theorem alone_takeOut
    {noted : Bool}
    (free : system.locks (place, stripe place key) = none)
    (enters : system.advance stripe name =
      system.enter stripe name place key (.removal noted) rest) :
    ∃ final, Alone stripe name system final system.now
      (Function.update system.pools place
        ((system.pools place).takeOut system.now key noted))
      system.world (.next (.done (.ok ())) rest) := by
  apply alone_of_enters free enters
  intro entered samePools sameWorld sameTime inside
  rw [← samePools, ← sameWorld, ← sameTime]
  exact ⟨_, reaches_of_move? (.inl rfl) (move?_of_inside inside), rfl, rfl,
    rfl, rfl, rfl⟩

/-- Removing a key alone is the pool's removal. -/
theorem alone_invalidate
    (free : system.locks (place, stripe place key) = none)
    (attending : system.clients name = .busy (.invalidate place key) rest) :
    ∃ final, Alone stripe name system final system.now
      (Function.update system.pools place
        ((system.pools place).invalidate system.now key))
      system.world (.next (.done (.ok ())) rest) := by
  have enters : system.advance stripe name =
      system.enter stripe name place key (.removal true) rest := by
    simp only [advance, attending, attend]
  exact alone_takeOut free enters

theorem alone_remove
    (free : system.locks (place, stripe place key) = none)
    (attending : system.clients name = .busy (.remove place key) rest) :
    ∃ final, Alone stripe name system final system.now
      (Function.update system.pools place
        ((system.pools place).drop system.now key))
      system.world (.next (.done (.ok ())) rest) := by
  have enters : system.advance stripe name =
      system.enter stripe name place key (.removal false) rest := by
    simp only [advance, attending, attend]
  exact alone_takeOut free enters

theorem alone_removeKeys
    (free : ∀ key, system.locks (place, stripe place key) = none)
    {keys : List String}
    {count : Nat}
    {reply : Reply}
    (attending : system.clients name =
      .next reply (keys.map (.remove place) ++ .conclude place count :: rest)) :
    ∃ final, Alone stripe name system final system.now
      (Function.update system.pools place
        ((((system.pools place).dropKeys system.now keys).settle
          system.now).note (.invalidatedAll count)))
      system.world (.next (.done (.ok ())) rest) := by
  induction keys generalizing system reply with
  | nil => exact alone_conclude attending
  | cons key keys inductionHypothesis =>
      obtain ⟨middle, removed⟩ := alone_remove (free key) attending
      have next : middle.clients name = .next (.done (.ok ()))
          (keys.map (.remove place) ++ .conclude place count :: rest) :=
        (congrFun removed.clients_eq name).trans (Function.update_self ..)
      have stillFree : ∀ key,
          middle.locks (place, stripe place key) = none := by
        rwa [removed.locks_eq]
      obtain ⟨final, concluded⟩ := inductionHypothesis stillFree next
      rw [removed.pools_eq, removed.world_eq, removed.now_eq,
        Function.update_self, Function.update_idem] at concluded
      exact ⟨final, removed.trans concluded⟩

/-- Removing all keys alone is what the pool does. -/
theorem alone_invalidateAll
    (free : ∀ key, system.locks (place, stripe place key) = none)
    (attending : system.clients name = .busy (.invalidateAll place) rest) :
    ∃ final, Alone stripe name system final system.now
      (Function.update system.pools place
        ((system.pools place).invalidateAll system.now))
      system.world (.next (.done (.ok ())) rest) := by
  generalize counted : (system.pools place).liveKeys system.now = keys
  obtain ⟨begun, alone⟩ :
      ∃ begun, Alone stripe name system begun system.now system.pools
      system.world (.next (.done (.ok ()))
        (keys.map (.remove place) ++ .conclude place keys.length :: rest)) := by
    have advanced : system.advance stripe name =
        some (system.setClient name (.next (.done (.ok ()))
          (keys.map (.remove place) ++
            .conclude place keys.length :: rest))) := by
      simp only [advance, attending, attend, counted]
    exact ⟨_, proceeds_of_advance advanced, rfl, rfl, rfl, rfl, rfl⟩
  have next := (congrFun alone.clients_eq name).trans (Function.update_self ..)
  have stillFree : ∀ key, begun.locks (place, stripe place key) = none := by
    rwa [alone.locks_eq]
  obtain ⟨final, removed⟩ := alone_removeKeys stillFree next
  rw [alone.pools_eq, alone.world_eq, alone.now_eq, ← counted] at removed
  exact ⟨final, alone.trans removed⟩

/-! ## Asking for a handle -/

theorem alone_recheck
    (stripe : ι → String → Nat)
    {opener : σ → Except IoError η × σ}
    (missing : (system.pools place).live? system.now key = none)
    (inside : system.clients name = .inside place key (.recheck opener) rest) :
    ∃ final, Alone stripe name system final system.now
      (Function.update system.pools place
        (((system.pools place).tend system.now .lookup
          (system.pools place).entries.length).count .miss))
      system.world
        (.inside place key (.opening system.started opener) rest) := by
  have advanced : system.advance stripe name =
      some { (system.setPool place
        (((system.pools place).tend system.now .lookup
          (system.pools place).entries.length).count .miss)).setClient name
            (.inside place key (.opening system.started opener) rest) with
          started := system.started + 1 } := by
    simp only [advance, inside, proceed, Pool.lookup_of_none missing]
  exact ⟨_, proceeds_of_advance advanced, rfl, rfl, rfl, rfl, rfl⟩

/-- A client keeps what was opened, and puts the pool in
order some time later. -/
theorem alone_opened
    (stripe : ι → String → Nat)
    {number : Nat}
    {later : Instant}
    (inOrder : system.now ≤ later)
    (inside : system.clients name = .inside place key (.opened number) rest) :
    ∃ final, Alone stripe name system final later
      (Function.update system.pools place
        (((system.pools place).insert system.now key number).settle later))
      system.world
        (.inside place key (.leaving (.handle (.ok number))) rest) := by
  obtain ⟨middle, kept⟩ : ∃ middle, Alone stripe name system middle system.now
      (Function.update system.pools place
        ((system.pools place).insert system.now key number))
      system.world (.inside place key (.kept number) rest) :=
    ⟨_, reaches_of_move? (.inl rfl) (move?_of_inside inside), rfl, rfl,
      rfl, rfl, rfl⟩
  obtain ⟨waiting, waits⟩ := exists_alone_at stripe name
    (show middle.now ≤ later by rwa [kept.now_eq])
  have keeping :
      waiting.clients name = .inside place key (.kept number) rest := by
    rw [waits.clients_eq, Function.update_self, kept.clients_eq,
      Function.update_self]
  obtain ⟨final, settled⟩ : ∃ final, Alone stripe name waiting final waiting.now
      (Function.update waiting.pools place
        ((waiting.pools place).settle waiting.now))
      waiting.world
        (.inside place key (.leaving (.handle (.ok number))) rest) :=
    ⟨_, reaches_of_move? (.inl rfl) (move?_of_inside keeping), rfl, rfl,
      rfl, rfl, rfl⟩
  rw [waits.pools_eq, waits.world_eq, waits.now_eq, kept.pools_eq,
    kept.world_eq, Function.update_self, Function.update_idem] at settled
  exact ⟨final, (kept.trans waits).trans settled⟩

/-- When an opener returns, the client does what the pool does to
open a missing handle. -/
theorem alone_returning
    (stripe : ι → String → Nat)
    {serial : Nat}
    {opener : σ → Except IoError η × σ}
    {time : CallTime}
    (isNow : system.now = time.inserts)
    (inside : system.clients name =
      .inside place key (.opening serial opener) rest) :
    ∃ final, Alone stripe name system final time.settles
      (Function.update system.pools place
        ((system.pools place).openMissing time key opener system.world).2.1)
      ((system.pools place).openMissing time key opener system.world).2.2
      (.inside place key (.leaving
        (.handle ((system.pools place).openMissing time key opener
          system.world).1))
        rest) := by
  have inOrder : system.now ≤ time.settles := by
    rw [isNow]
    exact time.inserts_le_settles
  unfold Pool.openMissing
  split
  · next error world opened =>
    have advanced : system.advance stripe name =
        some (({ system with world := world }.setPool place
            ((system.pools place).count .openFailure)).record
            ⟨serial, place, key, .error error⟩ |>.setClient name
          (.inside place key (.leaving (.handle (.error error))) rest)) := by
      simp only [advance, inside, proceed, opened]
    obtain ⟨failed, fails⟩ :
        ∃ failed, Alone stripe name system failed system.now
        (Function.update system.pools place
          ((system.pools place).count .openFailure)) world
        (.inside place key (.leaving (.handle (.error error))) rest) :=
      ⟨_, proceeds_of_advance advanced, rfl, rfl, rfl, rfl, rfl⟩
    obtain ⟨final, waits⟩ := exists_alone_at stripe name
      (show failed.now ≤ time.settles by rwa [fails.now_eq])
    rw [fails.pools_eq, fails.world_eq, fails.clients_eq, Function.update_self]
      at waits
    exact ⟨final, fails.trans waits⟩
  · next handle world opened =>
    have advanced : system.advance stripe name =
        some (({ system with world := world }.setPool place
            (((system.pools place).count .opened).enroll handle).2).record
            ⟨serial, place, key,
              .ok (system.pools place).handles.length⟩ |>.setClient name
          (.inside place key (.opened (system.pools place).handles.length)
            rest)) := by
      simp only [advance, inside, proceed, opened]
      rfl
    obtain ⟨middle, enrolled⟩ :
        ∃ middle, Alone stripe name system middle system.now
        (Function.update system.pools place
          (((system.pools place).count .opened).enroll handle).2) world
        (.inside place key (.opened (system.pools place).handles.length)
          rest) :=
      ⟨_, proceeds_of_advance advanced, rfl, rfl, rfl, rfl, rfl⟩
    obtain ⟨final, kept⟩ := alone_opened stripe
      (show middle.now ≤ time.settles by rwa [enrolled.now_eq])
      ((congrFun enrolled.clients_eq name).trans (Function.update_self ..))
    rw [enrolled.pools_eq, enrolled.world_eq, enrolled.now_eq,
      Function.update_self, Function.update_idem, isNow] at kept
    exact ⟨final, enrolled.trans kept⟩

/-- A client that finds the key missing at its re-check opens a handle, which
may take any time. -/
theorem alone_missing
    (stripe : ι → String → Nat)
    {opener : σ → Except IoError η × σ}
    {time : CallTime}
    (isNow : system.now = time.starts)
    (missing : (system.pools place).live? time.starts key = none)
    (inside : system.clients name = .inside place key (.recheck opener) rest)
    {opened : Except IoError Nat × Pool η × σ}
    (opens : opened = (((system.pools place).tend time.starts .lookup
      (system.pools place).entries.length).count .miss).openMissing
        time key opener system.world) :
    ∃ final, Alone stripe name system final time.settles
      (Function.update system.pools place opened.2.1) opened.2.2
      (.inside place key (.leaving (.handle opened.1)) rest) := by
  rw [← isNow] at missing
  obtain ⟨middle, checked⟩ := alone_recheck stripe missing inside
  have inOrder : middle.now ≤ time.inserts := by
    rw [checked.now_eq, isNow]
    exact time.starts_le_inserts
  obtain ⟨returning, runs⟩ := exists_alone_at stripe name inOrder
  have opening :=
    (congrFun runs.clients_eq name).trans (Function.update_self ..)
  rw [checked.clients_eq, Function.update_self] at opening
  obtain ⟨final, done⟩ := alone_returning stripe runs.now_eq opening
  rw [runs.pools_eq, runs.world_eq, checked.pools_eq, checked.world_eq,
    Function.update_self, Function.update_idem, isNow, ← opens] at done
  exact ⟨final, (checked.trans runs).trans done⟩

/-- Asking for a handle alone is the pool's call, however long it takes. -/
theorem alone_request
    {opener : σ → Except IoError η × σ}
    {time : CallTime}
    (isNow : system.now = time.starts)
    (differ : (system.pools place).KeysDiffer)
    (free : system.locks (place, stripe place key) = none)
    (attending : system.clients name = .busy (.request place key opener) rest)
    {given : Answer × Pool η × σ}
    (gives : given = (system.pools place).getOrOpen time key opener
      system.world) :
    ∃ final, Alone stripe name system final time.settles
      (Function.update system.pools place given.2.1) given.2.2
      (.next (.handle given.1.result) rest) := by
  cases found : (system.pools place).live? time.starts key with
  | some entry =>
      rw [Pool.getOrOpen_of_some found, Pool.seek_of_some found] at gives
      subst gives
      have advanced : system.advance stripe name =
          some ((system.setPool place
            (((system.pools place).lookup time.starts key).2.count
              .hit)).setClient name
              (.next (.handle (.ok entry.handle)) rest)) := by
        simp only [advance, attending, attend, isNow, Pool.lookup_of_some found]
      obtain ⟨answered, answers⟩ :
          ∃ answered, Alone stripe name system answered system.now
          (Function.update system.pools place
            (((system.pools place).lookup time.starts key).2.count .hit))
              system.world
          (.next (.handle (.ok entry.handle)) rest) :=
        ⟨_, proceeds_of_advance advanced, rfl, rfl, rfl, rfl, rfl⟩
      have inOrder : answered.now ≤ time.settles := by
        rw [answers.now_eq, isNow]
        exact time.inOrder
      obtain ⟨final, waits⟩ := exists_alone_at stripe name inOrder
      rw [answers.pools_eq, answers.world_eq, answers.clients_eq,
        Function.update_self] at waits
      exact ⟨final, answers.trans waits⟩
  | none =>
      rw [Pool.getOrOpen_of_none found, Pool.seek_of_none found] at gives
      subst gives
      have advanced : system.advance stripe name =
          some ((system.setPool place
            ((system.pools place).lookup time.starts key).2).setClient name
              (.queued place key opener rest)) := by
        simp only [advance, attending, attend, isNow, Pool.lookup_of_none found]
      obtain ⟨queued, looked⟩ :
          ∃ queued, Alone stripe name system queued system.now
          (Function.update system.pools place
            ((system.pools place).lookup time.starts key).2) system.world
          (.queued place key opener rest) :=
        ⟨_, proceeds_of_advance advanced, rfl, rfl, rfl, rfl, rfl⟩
      have pool : queued.pools place =
          ((system.pools place).lookup time.starts key).2 := by
        rw [looked.pools_eq, Function.update_self]
      have waiting :=
        (congrFun looked.clients_eq name).trans (Function.update_self ..)
      have enters : queued.advance stripe name =
          queued.enter stripe name place key (.recheck opener) rest := by
        simp only [advance, waiting]
      have stillMissing :=
        (Pool.evolves_lookup time.starts differ key).live?_eq_none differ
        found
      have stillFree : queued.locks (place, stripe place key) = none := by
        rw [looked.locks_eq, free]
      obtain ⟨final, opened⟩ := alone_of_enters stillFree enters
        (fun entered samePools sameWorld sameTime inside => by
          have missing :
              (entered.pools place).live? time.starts key = none := by
            rw [samePools, pool, stillMissing]
          have stillNow : entered.now = time.starts := by
            rw [sameTime, looked.now_eq, isNow]
          have opened := alone_missing stripe stillNow missing inside rfl
          rw [samePools, pool, sameWorld, looked.world_eq] at opened
          exact opened)
      rw [looked.pools_eq, Function.update_idem] at opened
      exact ⟨final, looked.trans opened⟩

end System
end HandlePool
