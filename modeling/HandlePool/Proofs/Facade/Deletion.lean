import HandlePool.Proofs.Facade.Nodes

/-!
# Deleting a path that others open

A call that deletes a path removes its key from both pools before it asks the
store.  A client that opens the path in between gets a handle on the file that
is about to go, and the pool keeps it.  Nothing else can go wrong: a handle that
outlives the file in a pool was opened by such a client.
-/

namespace HandlePool

namespace System

/-! ## Removing a key from both pools -/

section Emptying

variable {σ : Type} [FileStore σ]
variable
  {stripe : Side → String → Nat}
  {configs : Side → PoolConfig}
  {before system final : System Side σ FileHandle}
  {name : Nat}
  {key : String}
  {query : σ → Except IoError Unit × σ}
  {side : Side}

/-- On the way from `before`, the client has removed the key from a pool. -/
def Emptied (stripe : Side → String → Nat) (name : Nat) (key : String)
    (before system : System Side σ FileHandle) (side : Side) : Prop :=
  ∃ removing emptied rest, before.Reaches stripe Move.CallsFacade removing ∧
    removing.clients name = .inside side key (.removal true) rest ∧
    removing.move? stripe (.advances name) = some emptied ∧
    emptied.Reaches stripe Move.CallsFacade system

/-- How far a client is that removes a key from both pools
and then makes a query. -/
def Empties (stripe : Side → String → Nat) (name : Nat) (key : String)
    (query : σ → Except IoError Unit × σ)
      (before system : System Side σ FileHandle) : Prop :=
  system.Removing name .read key [.invalidate .write key, .consult query] ∨
    Emptied stripe name key before system .read ∧
      (system.clients name = .inside .read key (.leaving (.done (.ok ())))
          [.invalidate .write key, .consult query] ∨
        system.Removing name .write key [.consult query] ∨
        Emptied stripe name key before system .write)

theorem Emptied.move?
    {move : Move Side σ FileHandle}
    (emptied : Emptied stripe name key before system side)
    (calls : move.CallsFacade)
    (moved : system.move? stripe move = some final) :
    Emptied stripe name key before final side := by
  obtain ⟨removing, emptied, rest, reached, inside, removed, reaches⟩ := emptied
  exact ⟨removing, emptied, rest, reached, inside, removed,
    reaches.trans (reaches_of_move? calls moved)⟩

/-- What the others do does not keep the client from going on. -/
theorem Empties.move?
    {move : Move Side σ FileHandle}
    (differ : ∀ side, (system.pools side).KeysDiffer)
    (reached : before.Reaches stripe Move.CallsFacade system)
    (calls : move.CallsFacade)
    (moved : system.move? stripe move = some final)
    (empties : Empties stripe name key query before system) :
    Empties stripe name key query before final := by
  have step := step_of_move? differ moved
  obtain removing | ⟨readEmptied, leaving | removing | writeEmptied⟩ := empties
  · obtain still | ⟨rfl, inside, leaving⟩ := removing.move? differ moved
    · exact .inl still
    · refine .inr ⟨⟨system, final, _, reached, inside, moved, ?_⟩, .inl leaving⟩
      exact reaches_self stripe Move.CallsFacade final
  · refine .inr ⟨readEmptied.move? calls moved, ?_⟩
    by_cases mine : move = .advances name
    · subst mine
      rw [move?_of_inside leaving, Option.some.injEq] at moved
      subst moved
      exact .inr (.inl (.inl (Function.update_self ..)))
    · exact .inl ((step.clients_eq mine (by simp [leaving])).trans leaving)
  · refine .inr ⟨readEmptied.move? calls moved, .inr ?_⟩
    obtain still | ⟨rfl, inside, -⟩ := removing.move? differ moved
    · exact .inl still
    · refine .inr ⟨system, final, _, reached, inside, moved, ?_⟩
      exact reaches_self stripe Move.CallsFacade final
  · exact .inr ⟨readEmptied.move? calls moved,
      .inr (.inr (writeEmptied.move? calls moved))⟩

/-- A client that has come to its query has removed the key from both pools. -/
theorem Empties.emptied
    (empties : Empties stripe name key query before system)
    {rest : List (Task Side σ FileHandle)}
    (asks : system.clients name = .busy (.consult query) rest)
    (side : Side) :
    Emptied stripe name key before system side := by
  obtain (attending | inside) |
      ⟨readEmptied, leaving | (attending | inside) | writeEmptied⟩ :=
    empties
  · rw [asks] at attending
    cases attending
  · rw [asks] at inside
    cases inside
  · rw [asks] at leaving
    cases leaving
  · rw [asks] at attending
    cases attending
  · rw [asks] at inside
    cases inside
  · cases side with
    | read => exact readEmptied
    | write => exact writeEmptied

/-- What is tied to the key since then was opened after the removal. -/
theorem Emptied.opened_since
    (fresh : (storeConduct : Conduct σ FileHandle).OpensFresh)
    (orderly : Orderly stripe configs storeConduct before)
    (emptied : Emptied stripe name key before system side) :
    ∃ removing, before.Reaches stripe Move.CallsFacade removing ∧
      removing.At name side key (.removal true) ∧
      removing.Reaches stripe Move.CallsFacade system ∧
      ∀ number, system.Tied side key number →
        (removing.pools side).handles.length ≤ number := by
  obtain ⟨removing, emptied, rest, reached, inside, removed, reaches⟩ := emptied
  have conforms : ∀ move : Move Side σ FileHandle, move.CallsFacade →
      move.Within storeConduct := fun _ calls => calls.within
  have removingOrderly :=
    (orderly.reaches fresh conforms reached (fun _ => True) trivial
    fun _ _ _ _ => trivial).1
  have step := step_of_move? removingOrderly.keysDiffer removed
  have emptiedOrderly :=
    removingOrderly.step fresh (callsFacade_advances name).within step
  have onward : removing.Reaches stripe Move.CallsFacade emptied :=
    reaches_of_move? (callsFacade_advances name) removed
  refine ⟨removing, reached, ⟨rest, inside⟩, onward.trans reaches,
    fun number tied => ?_⟩
  obtain ⟨untied, -⟩ :=
    untied_of_removal removingOrderly emptiedOrderly inside removed
  obtain tiedBefore | new :=
    emptiedOrderly.tied_of_reaches fresh (reaches.mono conforms) tied
  · exact absurd tiedBefore (untied number)
  · exact Nat.le_trans (step.length_handles_le side) new

end Emptying

/-! ## Deleting -/

variable
  {stripe : Side → String → Nat}
  {name : Nat}
  {path : Path}
  {resolved : Resolved}
  {before asked after : System Side Tree FileHandle}

/-- A client deletes a path while others make calls.  It begins in the first
system, has come to ask the store in the second, and is told in the third that
the path is gone. -/
structure Deletes (stripe : Side → String → Nat) (name : Nat) (path : Path)
    (resolved : Resolved)
      (before asked after : System Side Tree FileHandle) : Prop where
  resolves : Resolved.ofPath before.world.workingDirectory path = .ok resolved
  begins : ∃ task rest begun,
    (FacadeCall.delete path).tasks before.world.workingDirectory =
      .ok (task :: rest) ∧
    before.move? stripe (.begins name task rest) = some begun ∧
    begun.Reaches stripe Move.CallsFacade asked
  asks : asked.clients name =
    .busy (.consult (FileStore.delete resolved.path)) []
  returns : asked.move? stripe (.advances name) = some after
  succeeds : after.clients name = .idle (some (.done (.ok ())))

/-- The query changes nothing but the tree. -/
theorem Deletes.unchanged
    (deletes : Deletes stripe name path resolved before asked after) :
    after.pools = asked.pools ∧ after.now = asked.now ∧
      ∀ other, other ≠ name → after.clients other = asked.clients other := by
  have returns := deletes.returns
  simp only [System.move?, advance, deletes.asks, attend] at returns
  split at returns
  · cases returns
    exact ⟨rfl, rfl, fun other different => Function.update_of_ne different ..⟩
  · cases returns
    exact ⟨rfl, rfl, fun other different => Function.update_of_ne different ..⟩

theorem Deletes.brings
    (deletes : Deletes stripe name path resolved before asked after)
    {other : Nat}
    {side : Side}
    {key : String}
    {number : Nat}
    (brings : asked.Brings other side key number) :
    after.Brings other side key number := by
  obtain ⟨rest, located⟩ := brings
  refine ⟨rest, (deletes.unchanged.2.2 other ?_).trans located⟩
  rintro rfl
  rw [deletes.asks] at located
  cases located

theorem Deletes.tied
    (deletes : Deletes stripe name path resolved before asked after)
    {side : Side}
    {key : String}
    {number : Nat}
    (tied : asked.Tied side key number) :
    after.Tied side key number := by
  obtain keeps | ⟨other, brings⟩ := tied
  · left
    rwa [deletes.unchanged.1]
  · exact .inr ⟨other, deletes.brings brings⟩

theorem Deletes.shows
    (deletes : Deletes stripe name path resolved before asked after)
    {side : Side}
    {key : String}
    {number : Nat}
    (shows : asked.Shows side key number) :
    after.Shows side key number := by
  obtain found | ⟨other, brings⟩ := shows
  · left
    rwa [deletes.unchanged.1, deletes.unchanged.2.1]
  · exact .inr ⟨other, deletes.brings brings⟩

theorem Deletes.reaches
    (deletes : Deletes stripe name path resolved before asked after) :
    before.Reaches stripe Move.CallsFacade asked ∧
      asked.Reaches stripe Move.CallsFacade after := by
  obtain ⟨task, rest, begun, called, began, reaches⟩ := deletes.begins
  have calls : (Move.begins name task rest).CallsFacade := ⟨_, _, called⟩
  refine ⟨(reaches_of_move? calls began).trans reaches, ?_⟩
  exact reaches_of_move? (callsFacade_advances name) deletes.returns

/-- By the time it asks the store, the client has removed the
key from both pools. -/
theorem Deletes.emptied
    {configs : Side → PoolConfig}
    (orderly : Orderly stripe configs storeConduct before)
    (deletes : Deletes stripe name path resolved before asked after)
    (side : Side) :
    Emptied stripe name resolved.key before asked side := by
  obtain ⟨task, rest, begun, called, began, reaches⟩ := deletes.begins
  have calls : (Move.begins name task rest).CallsFacade := ⟨_, _, called⟩
  have step := step_of_move? orderly.keysDiffer began
  have begunOrderly := orderly.step opensFresh_tree calls.within step
  rw [FacadeCall.tasks, deletes.resolves] at called
  cases called
  have attending : begun.clients name = .busy (.invalidate .read resolved.key)
      [.invalidate .write resolved.key,
        .consult (FileStore.delete resolved.path)] := by
    cases step
    exact Function.update_self ..
  have run := begunOrderly.reaches opensFresh_tree
      (fun _ calls => calls.within) reaches
    (fun reached => before.Reaches stripe Move.CallsFacade reached ∧
      Empties stripe name resolved.key (FileStore.delete resolved.path)
        before reached)
    ⟨reaches_of_move? calls began, .inl (.inl attending)⟩ ?_
  · exact run.2.2.emptied deletes.asks side
  · rintro middle next move middleOrderly nextCalls moved ⟨reached, empties⟩
    exact ⟨reached.trans (reaches_of_move? nextCalls moved),
      empties.move? middleOrderly.keysDiffer reached nextCalls moved⟩

section Stale

variable {configs : Side → PoolConfig} {side : Side} {node : NodeId}

/-- Moves of façade calls keep order. -/
theorem Orderly.of_callsFacade
    {system final : System Side Tree FileHandle}
    (orderly : Orderly stripe configs storeConduct system)
    (reaches : system.Reaches stripe Move.CallsFacade final) :
    Orderly stripe configs storeConduct final :=
  (orderly.reaches opensFresh_tree (fun _ calls => calls.within) reaches
    (fun _ => True) trivial fun _ _ _ _ => trivial).1

theorem reaches_of_eq_or_move?
    {system later : System Side Tree FileHandle}
    (moved : later = system ∨
      ∃ name, system.move? stripe (.advances name) = some later) :
    system.Reaches stripe Move.CallsFacade later := by
  obtain rfl | ⟨name, moved⟩ := moved
  · exact reaches_self ..
  · exact reaches_of_move? (callsFacade_advances name) moved

/-- A handle that is tied to the key when the store is asked
goes on to be kept. -/
theorem Deletes.stale_of_tied
    (orderly : Orderly stripe configs storeConduct after)
    (roomy : (configs side).maxSize ≠ 0)
    (deletes : Deletes stripe name path resolved before asked after)
    {number : Nat}
    (tied : asked.Tied side resolved.key number)
    (refers : (asked.pools side).nodeOf? number = some node) :
    ∃ later, after.Reaches stripe Move.CallsFacade later ∧
      (later.pools side).Keeps resolved.key number ∧
      (later.pools side).nodeOf? number = some node := by
  obtain ⟨later, moved, keeps⟩ :=
    orderly.keeps_of_tied roomy (deletes.tied tied)
  have reaches := reaches_of_eq_or_move? moved
  refine ⟨later, reaches, keeps, ?_⟩
  apply orderly.nodeOf?_of_holds (orderly.of_callsFacade reaches)
    (reaches.mono fun _ calls => calls.within) keeps.holds
  rwa [deletes.unchanged.1]

/-- A handle on a lost file that is kept for the key was tied to it when the
store was asked. -/
theorem Deletes.tied_of_stale
    (orderly : Orderly stripe configs storeConduct asked)
    (deletes : Deletes stripe name path resolved before asked after)
    (lost : after.world.Lost node)
    {later : System Side Tree FileHandle}
    (reaches : after.Reaches stripe Move.CallsFacade later)
    {number : Nat}
    (keeps : (later.pools side).Keeps resolved.key number)
    (refers : (later.pools side).nodeOf? number = some node) :
    asked.Tied side resolved.key number ∧
    (asked.pools side).nodeOf? number = some node := by
  have conforms : ∀ move : Move Side Tree FileHandle, move.CallsFacade →
      move.Within storeConduct := fun _ calls => calls.within
  have onward := (deletes.reaches.2.trans reaches).mono conforms
  have afterOrderly := orderly.of_callsFacade deletes.reaches.2
  have old : ¬(asked.pools side).handles.length ≤ number := by
    intro new
    apply afterOrderly.nodeOf?_ne_of_lost (reaches.mono conforms) lost _ refers
    rwa [deletes.unchanged.1]
  constructor
  · exact (orderly.tied_of_reaches opensFresh_tree onward
      (.inl keeps)).resolve_right old
  · exact (orderly.nodeOf?_of_reaches onward refers).resolve_right old

/-- A handle that is shown under the key when the store is
asked goes on to be found. -/
theorem Deletes.found_of_shows
    (orderly : Orderly stripe configs storeConduct after)
    (roomy : (configs side).maxSize ≠ 0)
    (lasts : 0 < (configs side).idle.totalNanos)
    (deletes : Deletes stripe name path resolved before asked after)
    {number : Nat}
    (shows : asked.Shows side resolved.key number) :
    ∃ later, after.Reaches stripe Move.CallsFacade later ∧
      ((later.pools side).lookup later.now resolved.key).1 = some number ∧
      number < (after.pools side).handles.length := by
  obtain ⟨later, moved, found⟩ :=
    orderly.found_of_shows roomy lasts (deletes.shows shows)
  exact ⟨later, reaches_of_eq_or_move? moved, found,
    orderly.lt_of_shows (deletes.shows shows)⟩

/-- A handle that is found under the key was shown when the store was
asked, or opened later. -/
theorem Deletes.shows_of_found
    (orderly : Orderly stripe configs storeConduct asked)
    (deletes : Deletes stripe name path resolved before asked after)
    {later : System Side Tree FileHandle}
    (reaches : after.Reaches stripe Move.CallsFacade later)
    {number : Nat}
    (found : ((later.pools side).lookup later.now resolved.key).1 =
      some number) :
    asked.Shows side resolved.key number ∨
    (after.pools side).handles.length ≤ number := by
  rw [Pool.fst_lookup, Option.map_eq_some_iff] at found
  rw [deletes.unchanged.1]
  apply orderly.shows_of_reaches opensFresh_tree _ (.inl found)
  exact (deletes.reaches.2.trans reaches).mono fun _ calls => calls.within

end Stale

/-- What a deletion leaves in the pools of a façade, in every run of its
clients.

Whatever is kept for the key when the store is asked, or will be, was
opened after the call had removed the key from that pool.  A handle of the
key refers to a file without a name, at any later time, exactly if such a
handle does when the store is asked.  A later client is served with a
handle from before the deletion exactly if one can be found, or will be
kept, when the store is asked. -/
theorem stale_after_deletion_iff
    {config : FacadeConfig}
    {world : Tree}
    (valid : config.validate = .ok ())
    (reached : (ofFacade config world).Reaches stripe Move.CallsFacade before)
    (deletes : Deletes stripe name path resolved before asked after)
    {node : NodeId}
    (lost : after.world.Lost node)
    (side : Side) :
    (∃ removing, before.Reaches stripe Move.CallsFacade removing ∧
      removing.At name side resolved.key (.removal true) ∧
      removing.Reaches stripe Move.CallsFacade asked ∧
      ∀ number, asked.Tied side resolved.key number →
        (removing.pools side).handles.length ≤ number) ∧
    ((∀ later, after.Reaches stripe Move.CallsFacade later →
        ∀ number, (later.pools side).Keeps resolved.key number →
          (later.pools side).nodeOf? number ≠ some node) ↔
      ∀ number, asked.Tied side resolved.key number →
        (asked.pools side).nodeOf? number ≠ some node) ∧
    ((∀ later, after.Reaches stripe Move.CallsFacade later →
        ∀ number, ((later.pools side).lookup later.now resolved.key).1 =
          some number → (after.pools side).handles.length ≤ number) ↔
      ∀ number, ¬asked.Shows side resolved.key number) := by
  have startOrderly :
      Orderly stripe config.pool storeConduct (ofFacade config world) :=
    orderly_start ..
  have beforeOrderly := startOrderly.of_callsFacade reached
  have askedOrderly := beforeOrderly.of_callsFacade deletes.reaches.1
  have afterOrderly := askedOrderly.of_callsFacade deletes.reaches.2
  obtain ⟨roomy, lasts⟩ := config.roomy_of_validate valid side
  refine ⟨(deletes.emptied beforeOrderly side).opened_since opensFresh_tree
    beforeOrderly, ⟨?_, ?_⟩, ⟨?_, ?_⟩⟩
  · intro noneStale number tied refers
    obtain ⟨later, reaches, keeps, stale⟩ :=
      deletes.stale_of_tied afterOrderly roomy tied refers
    exact noneStale later reaches number keeps stale
  · intro noneTied later reaches number keeps refers
    obtain ⟨tied, referred⟩ :=
      deletes.tied_of_stale askedOrderly lost reaches keeps refers
    exact noneTied number tied referred
  · intro noneOld number shows
    obtain ⟨later, reaches, found, old⟩ :=
      deletes.found_of_shows afterOrderly roomy lasts shows
    exact Nat.not_lt_of_le (noneOld later reaches number found) old
  · intro noneShown later reaches number found
    exact (deletes.shows_of_found askedOrderly reaches found).resolve_left
      (noneShown number)

/-! ### One file and two clients -/

/-- The path of a file in the root. -/
def trialPath : Path := ⟨[0x2F, 0x66]⟩

theorem ofPath_trialPath
    (base : AbsolutePath) :
    Resolved.ofPath base trialPath = .ok ⟨trialPath, "/f"⟩ := by
  have shown : trialPath.display = "/f" := by decide +kernel
  rw [← shown]
  rfl

/-- A tree with one empty file. -/
def trialTree : Tree := (Tree.empty.add [[0x66]] (.file Tree.fileMode [])).2

/-- Clients share a façade with that file, and one lock. -/
def trialFacade : System Side Tree FileHandle := ofFacade {} trialTree

/-- A client asks for a handle to read the file. -/
def askToRead (name : Nat) : Move Side Tree FileHandle :=
  .begins name (.request .read "/f" (FileStore.openFile trialPath .read)) []

/-- Client 0 begins to delete the file. -/
def askToDelete : Move Side Tree FileHandle :=
  .begins 0 (.invalidate .read "/f")
    [.invalidate .write "/f", .consult (FileStore.delete trialPath)]

/-- Client 1 opens the file, and is told so. -/
def openingRun : List (Move Side Tree FileHandle) :=
  askToRead 1 :: List.replicate 7 (.advances 1)

/-- Client 0 removes the key from both pools. -/
def removalRun : List (Move Side Tree FileHandle) :=
  List.replicate 6 (.advances 0)

theorem tasks_delete_trialPath
    (base : AbsolutePath) :
    (FacadeCall.delete trialPath).tasks base =
      .ok (FacadeCall.afterRemoval "/f"
        (FileStore.delete trialPath : Tree → _)) := by
  rw [FacadeCall.tasks, ofPath_trialPath]
  rfl

theorem callsFacade_openingRun : ∀ move ∈ openingRun, move.CallsFacade := by
  simp only [openingRun, List.mem_cons, List.mem_replicate]
  rintro move (rfl | ⟨-, rfl⟩)
  · refine ⟨.openForRead trialPath, trialTree.workingDirectory, ?_⟩
    rw [FacadeCall.tasks, ofPath_trialPath]
    rfl
  · trivial

theorem callsFacade_removalRun : ∀ move ∈ removalRun, move.CallsFacade := by
  simp only [removalRun, List.mem_replicate]
  rintro move ⟨-, rfl⟩
  trivial

/-- Client 0 deletes the file after client 1 has opened it:
nothing stale is left. -/
theorem none_stale_after_trial_deletion :
    FacadeConfig.validate {} = .ok () ∧ ∃ before asked after,
      trialFacade.Reaches (fun _ _ => 0) Move.CallsFacade before ∧
      Deletes (fun _ _ => 0) 0 trialPath ⟨trialPath, "/f"⟩ before asked after ∧
      (before.pools .read).nodeOf? 0 = some 1 ∧ after.world.Lost 1 ∧
      ∀ later, after.Reaches (fun _ _ => 0) Move.CallsFacade later →
        ∀ number, (later.pools .read).Keeps "/f" number →
          (later.pools .read).nodeOf? number ≠ some 1 := by
  have played : ∃ before,
      trialFacade.play (fun _ _ => 0) openingRun = some before ∧
      (before.pools .read).nodeOf? 0 = some 1 ∧
      ∃ begun, before.move? (fun _ _ => 0) askToDelete = some begun ∧
      ∃ asked, begun.play (fun _ _ => 0) removalRun = some asked ∧
      (asked.clients 0 = .busy (.consult (FileStore.delete trialPath)) [] ∧
        (asked.pools .read).handles = [⟨trialPath, .read, none, 1⟩]) ∧
      ∃ after, asked.move? (fun _ _ => 0) (.advances 0) = some after ∧
        after.clients 0 = .idle (some (.done (.ok ()))) ∧
        after.world.nodes.length = 2 ∧ after.world.names = [([], 0)] :=
    ⟨_, rfl, rfl, _, rfl, _, rfl, ⟨rfl, rfl⟩, _, rfl, rfl, rfl, rfl⟩
  obtain ⟨before, opened, refers, begun, began, asked, removed,
    ⟨asks, closed⟩, after, returns, succeeds, nodes, names⟩ := played
  have reached : trialFacade.Reaches (fun _ _ => 0) Move.CallsFacade before :=
    ⟨openingRun, callsFacade_openingRun, opened⟩
  have deletes :
      Deletes (fun _ _ => 0) 0 trialPath ⟨trialPath, "/f"⟩ before asked after :=
    ⟨ofPath_trialPath _,
      ⟨_, _, begun, tasks_delete_trialPath _, began, removalRun,
      callsFacade_removalRun, removed⟩, asks, returns, succeeds⟩
  have lost : after.world.Lost 1 := by
    constructor
    · rw [nodes]
      exact Nat.one_lt_two
    · apply Tree.not_names_of_forall_ne
      simp [names]
  have valid : FacadeConfig.validate {} = .ok () := by decide +kernel
  refine ⟨valid, before, asked, after, reached, deletes, refers, lost, ?_⟩
  refine (stale_after_deletion_iff valid reached deletes lost .read).2.1.mpr ?_
  intro number _ referred
  obtain ⟨handle, descriptor, found, held, -⟩ :=
    Pool.nodeOf?_eq_some_iff.mp referred
  have isClosed := List.mem_of_getElem? found
  rw [closed, List.mem_singleton] at isClosed
  rw [isClosed] at held
  cases held

/-- Client 1 opens the file after client 0 has removed its key, and before
client 0 asks the store.  The file is deleted, and the next client is served
with that handle. -/
theorem served_after_trial_deletion :
    ∃ asked after later,
      Deletes (fun _ _ => 0) 0 trialPath ⟨trialPath, "/f"⟩
        trialFacade asked after ∧
      asked.world.Names 1 ∧ after.world.Lost 1 ∧
      (after.pools .read).Keeps "/f" 0 ∧
      (after.pools .read).nodeOf? 0 = some 1 ∧
      after.play (fun _ _ => 0) [askToRead 2, .advances 2] = some later ∧
      later.clients 2 = .idle (some (.handle (.ok 0))) ∧
      (later.pools .read).nodeOf? 0 = some 1 := by
  have calls : ∀ move ∈ removalRun ++ openingRun, move.CallsFacade := by
    intro move present
    rw [List.mem_append] at present
    exact present.elim (callsFacade_removalRun move)
      (callsFacade_openingRun move)
  refine ⟨_, _, _, ⟨ofPath_trialPath _, ⟨_, _, _, tasks_delete_trialPath _, rfl,
    removalRun ++ openingRun, calls, rfl⟩, rfl, rfl, rfl⟩,
    ⟨[[0x66]], rfl⟩, ⟨?_, ?_⟩,
    ⟨_, List.mem_singleton_self _, rfl, rfl⟩, rfl, rfl, rfl, rfl⟩
  · decide
  · apply Tree.not_names_of_forall_ne
    decide

end System
end HandlePool
