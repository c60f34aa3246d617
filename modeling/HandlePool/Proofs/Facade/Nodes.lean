import HandlePool.Proofs.Facade.Calls

/-!
# The files of handles

A handle refers to one node as long as it is open.  Once a node has
lost its last name, no call of a client gives it a name again, and no
handle is opened on it.
-/

namespace HandlePool

namespace Pool

/-- The node that an open handle of the pool refers to. -/
def nodeOf? (pool : Pool FileHandle) (number : Nat) : Option NodeId :=
  (pool.handles[number]?.bind FileHandle.descriptor).map Descriptor.node

variable {pool final : Pool FileHandle} {number : Nat} {node : NodeId}

theorem nodeOf?_eq_some_iff :
    pool.nodeOf? number = some node ↔
      ∃ handle descriptor, pool.handles[number]? = some handle ∧
        handle.descriptor = some descriptor ∧ descriptor.node = node := by
  simp only [nodeOf?, Option.map_eq_some_iff, Option.bind_eq_some_iff]
  constructor
  · rintro ⟨descriptor, ⟨handle, found, held⟩, refers⟩
    exact ⟨handle, descriptor, found, held, refers⟩
  · rintro ⟨handle, descriptor, found, held, refers⟩
    exact ⟨descriptor, ⟨handle, found, held⟩, refers⟩

theorem nodeOf?_of_length_le
    (beyond : pool.handles.length ≤ number) :
    pool.nodeOf? number ≠ some node := by
  rw [Ne, nodeOf?_eq_some_iff]
  rintro ⟨handle, descriptor, found, -⟩
  rw [List.getElem?_eq_none beyond] at found
  cases found

/-- A handle that refers to a node did so before, as far as open
handles stay as they were. -/
theorem nodeOf?_of_isOpen
    (same : ∀ handle, final.handles[number]? = some handle →
      Handle.isOpen handle = true → pool.handles[number]? = some handle)
    (refers : final.nodeOf? number = some node) :
    pool.nodeOf? number = some node := by
  rw [nodeOf?_eq_some_iff] at refers ⊢
  obtain ⟨handle, descriptor, found, held, refers⟩ := refers
  have isOpen : Handle.isOpen handle = true :=
    Option.isSome_iff_exists.mpr ⟨_, held⟩
  exact ⟨handle, descriptor, same handle found isOpen, held, refers⟩

theorem nodeOf?_enroll
    {handle : FileHandle}
    (refers : (pool.enroll handle).2.nodeOf? number = some node) :
    pool.nodeOf? number = some node ∨
      number = pool.handles.length ∧
        ∃ descriptor, handle.descriptor = some descriptor ∧
          descriptor.node = node := by
  rw [nodeOf?_eq_some_iff] at refers ⊢
  obtain ⟨found, descriptor, located, held, refers⟩ := refers
  obtain ⟨before, -⟩ | ⟨newest, rfl⟩ := handle?_enroll located
  · exact .inl ⟨found, descriptor, before, held, refers⟩
  · exact .inr ⟨newest, descriptor, held, refers⟩

end Pool

namespace System

variable
  {stripe : Side → String → Nat}
  {configs : Side → PoolConfig}
  {system final : System Side Tree FileHandle}
  {name : Nat}
  {side : Side}
  {key : String}
  {number : Nat}
  {node : NodeId}

/-- Nothing that clients of a store do gives a lost node a name. -/
theorem Step.lost
    {move : Move Side Tree FileHandle}
    (orderly : Orderly stripe configs storeConduct system)
    (step : Step stripe system move final)
    (lost : system.world.Lost node) :
    final.world.Lost node := by
  have within := orderly.within
  cases step with
  | @consults name _ query rest attending _ =>
      have mine := within name
      rw [attending] at mine
      obtain ⟨path, permissions, rfl⟩ | ⟨path, rfl⟩ := mine.1
      · exact lost.createFile path permissions
      · exact lost.delete path
  | @fails name _ _ _ opener _ world error inside opened =>
      have mine := within name
      rw [inside] at mine
      obtain ⟨path, mode, rfl⟩ := mine.1
      have kept := lost.openFile path mode
      rwa [opened] at kept
  | @opens name _ _ _ opener _ world handle inside opened =>
      have mine := within name
      rw [inside] at mine
      obtain ⟨path, mode, rfl⟩ := mine.1
      have kept := lost.openFile path mode
      rwa [opened] at kept
  | _ => exact lost

/-- A handle refers to a node if it did so before, or was just opened on it. -/
theorem Step.nodeOf?_cases
    {move : Move Side Tree FileHandle}
    (orderly : Orderly stripe configs storeConduct system)
    (step : Step stripe system move final)
    (refers : (final.pools side).nodeOf? number = some node) :
    (system.pools side).nodeOf? number = some node ∨
      number = (system.pools side).handles.length ∧
      ¬system.world.Lost node := by
  obtain quiet |
      ⟨name, changed, _, _, opener, handle, located, opened, enrolls⟩ |
    ⟨name, changed, keptKey, kept, brings, keeps⟩ := step.quiet_or
  · refine .inl (Pool.nodeOf?_of_isOpen ?_ refers)
    exact fun handle found isOpen =>
      (quiet.evolves side).handle?_of_isOpen found isOpen
  · by_cases same : side = changed
    · subst same
      rw [enrolls.pool_eq] at refers
      obtain before | ⟨newest, descriptor, held, refers⟩ :=
        Pool.nodeOf?_enroll refers
      · exact .inl before
      · refine .inr ⟨newest, fun lost => ?_⟩
        obtain ⟨rest, located⟩ := located
        have mine := orderly.within name
        rw [located] at mine
        obtain ⟨path, mode, rfl⟩ := mine.1
        exact lost.node_ne_of_openFile opened held refers
    · rw [enrolls.pool_eq_of_ne same] at refers
      exact .inl refers
  · by_cases same : side = changed
    · subst same
      rw [keeps.pool_eq] at refers
      have missing := orderly.missing name side keptKey (.inr ⟨kept, brings⟩)
      refine .inl (Pool.nodeOf?_of_isOpen ?_ refers)
      exact fun handle =>
        Pool.handle?_insert_of_isOpen (orderly.keysDiffer side) missing
    · rw [keeps.pool_eq_of_ne same] at refers
      exact .inl refers

/-- A handle refers to a node only if it did before, or was opened since. -/
theorem Orderly.nodeOf?_of_reaches
    (orderly : Orderly stripe configs storeConduct system)
    (reaches : system.Reaches stripe (Move.Within storeConduct) final)
    (refers : (final.pools side).nodeOf? number = some node) :
    (system.pools side).nodeOf? number = some node ∨
      (system.pools side).handles.length ≤ number := by
  refine orderly.of_reaches opensFresh_tree reaches side
    (fun reached number => (reached.pools side).nodeOf? number = some node)
      ?_ refers
  intro before after move beforeOrderly _ step number refersAfter
  obtain refersBefore | ⟨newest, -⟩ :=
    step.nodeOf?_cases beforeOrderly refersAfter
  · exact .inl refersBefore
  · exact .inr (Nat.le_of_eq newest.symm)

/-- A handle that a pool holds refers to the node that it referred to. -/
theorem Orderly.nodeOf?_of_holds
    (orderly : Orderly stripe configs storeConduct system)
    (finalOrderly : Orderly stripe configs storeConduct final)
    (reaches : system.Reaches stripe (Move.Within storeConduct) final)
    (holds : (final.pools side).Holds number)
    (referred : (system.pools side).nodeOf? number = some node) :
    (final.pools side).nodeOf? number = some node := by
  have custody := finalOrderly.custody side
  obtain ⟨entry, present, rfl⟩ := id holds
  have found := List.getElem?_eq_getElem (custody.opened entry present)
  have fresh := custody.isFresh _ _ found (.inl holds)
  obtain ⟨descriptor, held⟩ := Option.isSome_iff_exists.mp fresh.1
  have refers := Pool.nodeOf?_eq_some_iff.mpr ⟨_, descriptor, found, held, rfl⟩
  obtain referredBefore | beyond := orderly.nodeOf?_of_reaches reaches refers
  · rw [referred, Option.some.injEq] at referredBefore
    rw [refers, referredBefore]
  · exact absurd referred (Pool.nodeOf?_of_length_le beyond)

/-- No handle that is opened after a node was lost refers to it. -/
theorem Orderly.nodeOf?_ne_of_lost
    (orderly : Orderly stripe configs storeConduct system)
    (reaches : system.Reaches stripe (Move.Within storeConduct) final)
    (lost : system.world.Lost node)
    (later : (system.pools side).handles.length ≤ number) :
    (final.pools side).nodeOf? number ≠ some node := by
  have run := orderly.reaches opensFresh_tree (fun _ => id) reaches
    (fun reached => reached.world.Lost node ∧
      ∀ number, (system.pools side).handles.length ≤ number →
        (reached.pools side).nodeOf? number ≠ some node)
    ⟨lost, fun number => Pool.nodeOf?_of_length_le⟩ ?_
  · exact run.2.2 number later
  · rintro before after move beforeOrderly _ moved ⟨lostBefore, unreferred⟩
    have step := step_of_move? beforeOrderly.keysDiffer moved
    refine ⟨step.lost beforeOrderly lostBefore, fun number new refers => ?_⟩
    obtain refersBefore | ⟨-, notLost⟩ :=
      step.nodeOf?_cases beforeOrderly refers
    · exact unreferred number new refersBefore
    · exact notLost lostBefore

end System
end HandlePool
