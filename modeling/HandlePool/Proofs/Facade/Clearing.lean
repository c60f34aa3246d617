import HandlePool.Proofs.Facade.Keys
import HandlePool.Proofs.Facade.Visits
import HandlePool.Proofs.Path.Resolution
import HandlePool.Proofs.Pool.Clearing
import HandlePool.Proofs.Pool.Openness

/-!
# Creating and deleting a path that is open

Before a path is created or deleted its key is taken out of both pools, and that
is done whatever the store then answers.  In every state that a façade may come
to, this closes the handles of the key and, on the way, handles that had
expired; all other entries stay.  The journal shows the order: the store is
given its command when all of these are closed.  A path that cannot be resolved
has no key, and nothing happens at all.
-/

namespace HandlePool

variable {σ : Type}

/-- The store opens open handles. -/
def FileStore.OpensOpen (σ : Type) [FileStore σ] : Prop :=
  ∀ path mode (store : σ) handle later,
    FileStore.openFile path mode store = (.ok handle, later) →
    handle.isOpen = true

theorem opensOpen_tree : FileStore.OpensOpen Tree := by
  intro path mode tree handle later opened
  obtain ⟨node, -, rfl⟩ := Tree.openFile_eq_ok_iff.mp opened
  rfl

/-- What the operation opens is open, whatever it asks the store for. -/
def Operation.OpensOpen : Operation σ → Prop
  | .inside _ call => call.OpensOpen
  | _ => True

/-- The event is a command to the store. -/
def FacadeEvent.isCommand : FacadeEvent → Bool
  | .commanded _ => true
  | _ => false

/-- What the guard of the pool on a side was told when it noted the event. -/
def FacadeEvent.report? (side : Side) :
    FacadeEvent → Option (String × RemovalCause)
  | .inPool other event => if other = side then event.report? else none
  | _ => none

theorem FacadeEvent.report?_inPool_self
    (side : Side) :
    FacadeEvent.report? side ∘ FacadeEvent.inPool side = PoolEvent.report? :=
  funext fun _ => if_pos rfl

theorem FacadeEvent.report?_inPool_of_ne
    {side other : Side}
    (different : other ≠ side) :
    FacadeEvent.report? side ∘ FacadeEvent.inPool other = fun _ => none :=
  funext fun _ => if_neg different

namespace Facade

open Pool

/-! ## Whose notes are taken over -/

/-- The façade has taken over whatever its pools noted. -/
def TookNotes (facade : Facade σ) : Prop :=
  ∀ side, (facade.pool side).journal = []

namespace TookNotes

variable {facade after : Facade σ}

theorem restore
    (took : facade.TookNotes)
    (side : Side)
    (pool : Pool FileHandle) :
    (facade.restore side pool).TookNotes := by
  intro other
  by_cases same : other = side
  · rw [same, pool_restore_self]
  · rw [pool_restore_of_ne same]
    exact took other

theorem changeBoth
    (took : facade.TookNotes)
    (function : Pool FileHandle → Pool FileHandle) :
    (facade.changeBoth function).TookNotes :=
  (took.restore .read _).restore .write _

theorem of_pools
    (took : facade.TookNotes)
    (samePools : ∀ side, after.pool side = facade.pool side) :
    after.TookNotes := by
  intro side
  rw [samePools]
  exact took side

theorem transfer
    (took : facade.TookNotes)
    (issued : Issued)
    (transfer : Transfer σ) :
    (facade.transfer issued transfer).TookNotes := by
  unfold Facade.transfer
  split
  · exact took
  · exact (took.of_pools (facade.pool_atStore _)).restore issued.side _

variable [FileStore σ]

theorem mutates
    (took : facade.TookNotes)
    {now : Instant}
    {path : Path}
    (mutates : facade.Mutates now path after) :
    after.TookNotes := by
  cases mutates with
  | refused error _ => exact took
  | commanded resolved command _ =>
      exact (took.changeBoth _).of_pools (pool_command _ _)

theorem openOn
    (took : facade.TookNotes)
    (side : Side)
    (time : CallTime)
    (resolved : Resolved)
    (mode : OpenMode)
    (event : FacadeEvent) :
    (facade.openOn side time resolved mode event).2.TookNotes := by
  unfold Facade.openOn
  split
  · exact took.restore side _
  · next pool _ =>
    refine TookNotes.restore ?_ side _
    exact (took.restore side pool).of_pools fun other => by
      rw [pool_atStore, pool_note, pool_note]

theorem request
    (took : facade.TookNotes)
    (time : CallTime)
    (request : FileRequest) :
    (facade.request time request).2.TookNotes := by
  have opens := facade.opening_request time request
  generalize facade.request time request = gave at opens ⊢
  generalize facade.opening request = opening at opens
  cases opens with
  | refused error alike => exact took.of_pools alike.pools
  | asked resolved event noted answered =>
      have opened :=
        (took.of_pools noted.pools).openOn request.side time
          resolved request.mode
        event
      exact opened.of_pools answered.pools

theorem operate
    (took : facade.TookNotes)
    (time : CallTime)
    (operation : Operation σ) :
    (facade.operate time operation).2.TookNotes := by
  cases operation with
  | request request => exact took.request time request
  | createFile path permissions =>
      exact took.mutates
        (facade.mutates_createFile time.starts path permissions)
  | delete path => exact took.mutates (facade.mutates_delete time.starts path)
  | createDirectories path => exact took.of_pools (pool_command _ _)
  | setPermissions path permissions => exact took.of_pools (pool_command _ _)
  | closeAll => exact (took.changeBoth _).of_pools (pool_note _ _)
  | settle => exact took.changeBoth _
  | inside side call => exact took.restore side _
  | transfer issued transfer => exact took.transfer issued transfer

end TookNotes

/-! ## What a façade may come to -/

section Reachable

variable [FileStore σ]

/-- A new façade may come to this one.  Anything may be done with the store
between visits, and callers may do anything to handles that they were given;
honest callers open only open handles, and close none. -/
inductive Reachable (honest : Prop) : Facade σ → Prop
  | created {config : FacadeConfig} {store : σ} {facade : Facade σ} :
      create config store = .ok facade →
      Reachable honest facade
  | visited {facade : Facade σ} (visit : Visit σ) :
      Reachable honest facade →
      (honest → visit.operation.OpensOpen) →
      Reachable honest (facade.visit visit).2
  | used {facade : Facade σ} (issued : Issued) {before after : FileHandle} :
      Reachable honest facade →
      facade.handle? issued = some before →
      (honest → before.isOpen = true → after.isOpen = true) →
      Reachable honest (facade.replace issued after)

omit [FileStore σ] in
/-- Trust lasts as long as honest callers get open handles. -/
theorem lasting_trusted
    (honest : Prop) :
    Lasting (fun handle => honest → handle.isOpen = true)
      (fun _ pool => pool.Trusted honest) where
  keysDiffer trusted := trusted.keysDiffer
  same trusted same := trusted.same same
  evolves trusted evolves := trusted.evolves evolves
  adopt trusted missing isOpen := trusted.adopt missing isOpen
  withHandle trusted found sameOpen _ :=
    trusted.withHandle found fun _ isOpen =>
    sameOpen.trans isOpen

theorem Reachable.trusted
    {honest : Prop}
    (opensOpen : honest → FileStore.OpensOpen σ)
    {facade : Facade σ}
    (reachable : facade.Reachable honest) :
    ∀ side, (facade.pool side).Trusted honest := by
  have lasting := lasting_trusted honest
  induction reachable with
  | created created =>
      rw [eq_of_create created]
      intro side
      cases side with
      | read => exact trusted_create honest _ _
      | write => exact trusted_create honest _ _
  | visited visit _ opensInside inductionHypothesis =>
      refine lasting.visit ?_ inductionHypothesis ?_
      · exact fun path mode store handle later opened isHonest =>
          opensOpen isHonest path mode store handle later opened
      · intro side key handle isInside isHonest
        have opens := opensInside isHonest
        rw [isInside] at opens
        exact opens
  | @used facade issued before after _ found staysOpen inductionHypothesis =>
      refine lasting.of_pool inductionHypothesis issued.side ?_ fun other
        different => ?_
      · have used :=
          (inductionHypothesis issued.side).withHandle found staysOpen
        rw [replace, change, pool_restore_self]
        exact used.same ⟨[], rfl⟩
      · rw [replace, change, pool_restore_of_ne different]
        exact same_refl _

theorem Reachable.tookNotes
    {honest : Prop}
    {facade : Facade σ}
    (reachable : facade.Reachable honest) :
    facade.TookNotes := by
  induction reachable with
  | created created =>
      rw [eq_of_create created]
      intro side
      cases side <;> rfl
  | @visited facade visit _ _ inductionHypothesis =>
      have found :=
        inductionHypothesis.of_pools (facade.pool_atStore visit.found)
      exact found.operate visit.time visit.operation
  | used issued _ _ _ inductionHypothesis =>
      exact inductionHypothesis.restore issued.side _

/-- The façade after some visits. -/
def afterVisits (facade : Facade σ) (visits : List (Visit σ)) : Facade σ :=
  visits.foldl (fun facade visit => (facade.visit visit).2) facade

theorem Reachable.afterVisits
    {honest : Prop}
    {facade : Facade σ}
    (reachable : facade.Reachable honest)
    {visits : List (Visit σ)}
    (opens : honest → ∀ visit ∈ visits, visit.operation.OpensOpen) :
    (facade.afterVisits visits).Reachable honest :=
  List.foldlRecOn visits _ (motive := Reachable honest) reachable
    fun _ reached visit present =>
      .visited visit reached fun isHonest => opens isHonest visit present

end Reachable

/-! ## Both pools -/

/-- What is noted while a key is taken out of both pools. -/
def notesOfInvalidate (facade : Facade σ) (now : Instant) (key : String) :
    List FacadeEvent :=
  (facade.read.invalidate now key).journal.map (.inPool .read) ++
    (facade.write.invalidate now key).journal.map (.inPool .write)

theorem journal_invalidate
    (facade : Facade σ)
    (now : Instant)
    (key : String) :
    (facade.invalidate now key).journal =
      facade.journal ++ facade.notesOfInvalidate now key :=
  List.append_assoc ..

theorem isCommand_of_mem_notesOfInvalidate
    {facade : Facade σ}
    {now : Instant}
    {key : String}
    {event : FacadeEvent}
    (noted : event ∈ facade.notesOfInvalidate now key) :
    event.isCommand = false := by
  rw [notesOfInvalidate, List.mem_append, List.mem_map, List.mem_map] at noted
  obtain ⟨event, -, rfl⟩ | ⟨event, -, rfl⟩ := noted <;> rfl

/-- The guard of the pool on a side was told of what went from that pool. -/
theorem reports_notesOfInvalidate
    (facade : Facade σ)
    (now : Instant)
    (key : String)
    (side : Side) :
    (facade.notesOfInvalidate now key).filterMap (FacadeEvent.report? side) =
      ((facade.pool side).invalidate now key).reports := by
  rw [notesOfInvalidate, List.filterMap_append, List.filterMap_map,
    List.filterMap_map]
  cases side with
  | read =>
      rw [FacadeEvent.report?_inPool_self,
        FacadeEvent.report?_inPool_of_ne (by decide)]
      simp [reports, pool]
  | write =>
      rw [FacadeEvent.report?_inPool_self,
        FacadeEvent.report?_inPool_of_ne (by decide)]
      simp [reports, pool]

theorem exists_clears_invalidate
    {facade : Facade σ}
    {side : Side}
    (coherent : (facade.pool side).Coherent)
    (took : facade.TookNotes)
    (now : Instant)
    (key : String) :
    ∃ gone, Clears now key (facade.pool side) gone
      ((facade.invalidate now key).pool side) ∧
      (facade.notesOfInvalidate now key).filterMap (FacadeEvent.report? side) =
        gone.map fun entry =>
          (entry.key, (facade.pool side).causeAt now entry .invalidated) := by
  obtain ⟨gone, clears, told⟩ := coherent.clears_invalidate now key
  refine ⟨gone, clears.same (facade.same_pool_changeBoth _ side), ?_⟩
  rw [reports_notesOfInvalidate, told, reports, took side]
  rfl

variable [FileStore σ]

theorem resolve_eq_ok
    {facade : Facade σ}
    {path normal : Path}
    (normalized : Path.normalize (FileStore.workingDirectory facade.store)
      path = .ok normal) :
    facade.resolve path = .ok ⟨normal, normal.display⟩ := by
  rw [resolve, Resolved.ofPath, normalized]
  rfl

/-- A command is noted, and changes nothing else but the store. -/
theorem command_eq
    (facade : Facade σ)
    (command : StoreCommand) :
    facade.command command = ((command.run facade.store).1,
      { facade.note (.commanded command) with
        store := (command.run facade.store).2 }) := rfl

/-- The key is taken out of both pools, and then the store is
asked for the normal form. -/
theorem createFile_of_normalize
    {facade : Facade σ}
    {path normal : Path}
    (normalized : Path.normalize (FileStore.workingDirectory facade.store)
      path = .ok normal)
    (now : Instant)
    (permissions : Permissions) :
    facade.createFile now path permissions =
      ((FileStore.createFile normal permissions facade.store).1,
        { (facade.invalidate now normal.display).note
            (.commanded (.createFile normal permissions)) with
          store := (FileStore.createFile normal permissions facade.store).2
            }) := by
  simp only [createFile, resolve_eq_ok normalized, command_eq, invalidate,
    store_changeBoth, StoreCommand.run]

theorem delete_of_normalize
    {facade : Facade σ}
    {path normal : Path}
    (normalized : Path.normalize (FileStore.workingDirectory facade.store)
      path = .ok normal)
    (now : Instant) :
    facade.delete now path =
      ((FileStore.delete normal facade.store).1,
        { (facade.invalidate now normal.display).note
          (.commanded (.delete normal)) with
          store := (FileStore.delete normal facade.store).2 }) := by
  simp only [delete, resolve_eq_ok normalized, command_eq, invalidate,
    store_changeBoth, StoreCommand.run]

/-- Creating or deleting a path takes its key out of both pools and then gives
the store one command, for the path in its normal form; the answer of the store
is returned, and changes nothing but the store.

On either side the key has no entry afterwards.  What has gone is the entry that
it had, if it had one, and expired entries: their handles were closed once more,
and no other handle was touched.  The guards were told of all of them, and of
nothing else, before the command was given to the store: in the journal what
they noted comes first, and the command last.  What is left is in the same order
with the same handles, which are open if callers are honest.  An empty path is
refused, and changes nothing. -/
theorem mutation_clears_key
    {honest : Prop}
    (opensOpen : honest → FileStore.OpensOpen σ)
    {facade : Facade σ}
    (reachable : facade.Reachable honest)
    (now : Instant)
    (path : Path) :
    (path.bytes = [] →
      (∀ permissions,
        facade.createFile now path permissions = (.error .emptyPath, facade)) ∧
      facade.delete now path = (.error .emptyPath, facade)) ∧
    (path.bytes ≠ [] → ∃ normal key,
      Path.normalize (FileStore.workingDirectory facade.store) path =
        .ok normal ∧
      Path.key (FileStore.workingDirectory facade.store) path = .ok key ∧
      let cleared := facade.invalidate now key
      let deleted := FileStore.delete normal facade.store
      (∀ permissions,
        let created := FileStore.createFile normal permissions facade.store
        facade.createFile now path permissions = (created.1,
          { cleared.note (.commanded (.createFile normal permissions)) with
            store := created.2 })) ∧
      facade.delete now path = (deleted.1,
        { cleared.note (.commanded (.delete normal)) with
          store := deleted.2 }) ∧
      ∃ notes : List FacadeEvent,
        (∀ event ∈ notes, event.isCommand = false) ∧
        (∀ permissions, (facade.createFile now path permissions).2.journal =
          facade.journal ++ notes ++
            [.commanded (.createFile normal permissions)]) ∧
        (facade.delete now path).2.journal =
          facade.journal ++ notes ++ [.commanded (.delete normal)] ∧
        ∀ side (store : σ), ∃ gone : List Entry,
          let pool := facade.pool side
          let after := { cleared with store := store }.pool side
          after.entryOf? key = none ∧
          (∀ entry, pool.entryOf? key = some entry → entry ∈ gone) ∧
          (∀ entry ∈ gone, entry ∈ pool.entries ∧
            (entry.key = key ∨ pool.isExpired now entry = true)) ∧
          gone.Nodup ∧
          (notes.filterMap (FacadeEvent.report? side) = gone.map fun entry =>
            (entry.key, pool.causeAt now entry .invalidated)) ∧
          (∀ entry ∈ gone, ∃ handle, pool.handles[entry.handle]? = some handle ∧
            after.handles[entry.handle]? = some handle.close.2 ∧
            (honest → handle.isOpen = true ∧
              handle.close.2.releases = handle.releases + 1)) ∧
          after.counters.closes = pool.counters.closes + gone.length ∧
          (∀ number, number ∉ gone.map Entry.handle →
            after.handles[number]? = pool.handles[number]?) ∧
          after.entries = pool.entries.filter (fun entry => entry ∉ gone) ∧
          (∀ entry ∈ after.entries, ∃ handle,
            pool.handles[entry.handle]? = some handle ∧
            after.handles[entry.handle]? = some handle ∧
            (honest → handle.isOpen = true)) ∧
          ∀ later, now ≤ later →
            after.liveEntries later =
              Entry.without key (pool.liveEntries later)) := by
  constructor
  · intro empty
    have refused : facade.resolve path = .error .emptyPath := by
      rw [resolve, Resolved.ofPath,
        Path.normalize_eq_error_iff.mpr ⟨rfl, empty⟩]
      rfl
    exact ⟨fun permissions => by rw [createFile, refused],
      by rw [delete, refused]⟩
  · intro nonempty
    obtain ⟨normal, normalized⟩ : ∃ normal,
        Path.normalize (FileStore.workingDirectory facade.store) path =
          .ok normal :=
      ⟨_, Path.normalize_eq (FileStore.workingDirectory facade.store).property
        nonempty⟩
    have creates := createFile_of_normalize normalized now
    have deletes := delete_of_normalize normalized now
    refine ⟨normal, normal.display, normalized,
      by rw [Path.key, normalized]; rfl, creates,
      deletes, facade.notesOfInvalidate now normal.display,
      fun event => isCommand_of_mem_notesOfInvalidate, ?_, ?_, ?_⟩
    · intro permissions
      rw [creates, ← journal_invalidate]
      rfl
    · rw [deletes, ← journal_invalidate]
      rfl
    · intro side store
      have trusted := reachable.trusted opensOpen side
      have coherent := trusted.toCoherent
      obtain ⟨gone, clears, told⟩ :=
        exists_clears_invalidate coherent reachable.tookNotes now normal.display
      rw [← pool_atStore (facade.invalidate now normal.display) store] at clears
      have wasOpen : ∀ entry ∈ (facade.pool side).entries, ∀ handle,
          (facade.pool side).handles[entry.handle]? = some handle →
            honest → handle.isOpen = true :=
        fun entry present handle found isHonest =>
          trusted.allOpen isHonest entry present handle found
      refine ⟨gone, clears.entryOf?_eq_none, ?_, clears.justified,
        clears.nodup, told, ?_,
        clears.closes_eq, clears.untouched, clears.entries_eq, ?_,
        fun later => clears.liveEntries_eq⟩
      · intro entry found
        obtain ⟨present, keyed⟩ :=
          coherent.keysDiffer.entryOf?_eq_some_iff.mp found
        exact clears.mem_of_key entry present keyed
      · intro entry isGone
        obtain ⟨handle, found, closed⟩ := clears.closed entry isGone
        have isOpen :=
          wasOpen entry (clears.justified entry isGone).1 handle found
        exact ⟨handle, found, closed, fun isHonest =>
          ⟨isOpen isHonest, FileHandle.releases_close (isOpen isHonest)⟩⟩
      · intro entry left
        obtain ⟨handle, found, kept⟩ := clears.exists_handle coherent left
        rw [clears.entries_eq, List.mem_filter] at left
        exact ⟨handle, found, kept, wasOpen entry left.1 handle found⟩

/-- Two empty files in the root. -/
def pairTree : Tree :=
  ((Tree.empty.add [[0x66]] (.file Tree.fileMode [])).2.add [[0x67]]
    (.file Tree.fileMode [])).2

/-- The first file is opened to read and to append, the second one to read. -/
def pairVisits : List (Visit Tree) :=
  [⟨.instantly 0, pairTree, .request (.toRead plainSpelling)⟩,
    ⟨.instantly 0, pairTree, .request (.toWrite plainSpelling .append)⟩,
    ⟨.instantly 0, pairTree, .request (.toRead ⟨[0x2F, 0x67]⟩)⟩]

/-- Creating the first file again fails.  Both of its handles
are closed before that. -/
theorem mutation_clears_key_of_existing :
    ∃ start, create {} pairTree = .ok start ∧
      let facade := start.afterVisits pairVisits
      let answered := facade.createFile 1 plainSpelling ⟨0o644⟩
      let since := answered.2.journal.drop facade.journal.length
      FileStore.OpensOpen Tree ∧ facade.Reachable True ∧
      facade.read.entries.map Entry.key = ["/f", "/g"] ∧
      facade.write.entries.map Entry.key = ["/f"] ∧
      answered.1 = .error (.system Errno.entryExists) ∧
      (∀ side, (answered.2.pool side).entryOf? "/f" = none) ∧
      answered.2.read.entries.map Entry.key = ["/g"] ∧
      answered.2.read.handles.map FileHandle.isOpen = [false, true] ∧
      answered.2.write.handles.map FileHandle.releases = [1] ∧
      since.map FacadeEvent.isCommand =
        [false, false, false, false, false, false, true] ∧
      ∀ side, since.filterMap (FacadeEvent.report? side) =
        [("/f", .invalidated)] := by
  obtain ⟨start, created⟩ : ∃ start, create {} pairTree = .ok start := ⟨_, rfl⟩
  refine ⟨start, created, ?_⟩
  intro facade answered since
  have reachable : facade.Reachable True := by
    refine (Reachable.created created).afterVisits fun _ => ?_
    simp [pairVisits, Operation.OpensOpen]
  obtain ⟨normal, key, normalized, isKey, creates, -, notes, -, -, -, pools⟩ :=
    (mutation_clears_key (fun _ => opensOpen_tree) reachable 1 plainSpelling).2
      (by decide)
  have isNormal :
      Path.normalize (FileStore.workingDirectory facade.store) plainSpelling =
      .ok plainSpelling := by
    rw [Path.normalize_of_isAbsolute rfl _ ⟨[Path.slash]⟩]
    decide +kernel
  obtain rfl : normal = plainSpelling :=
    Except.ok.inj (normalized.symm.trans isNormal)
  obtain rfl : key = "/f" := by
    rw [Path.key, isNormal] at isKey
    exact (Except.ok.inj isKey).symm.trans (by decide +kernel)
  have missing : ∀ side, (answered.2.pool side).entryOf? "/f" = none := by
    intro side
    obtain ⟨gone, missing, -⟩ := pools side facade.store
    have samePool : answered.2.pool side =
        { facade.invalidate 1 "/f" with store := facade.store }.pool side := by
      rw [show answered = _ from creates ⟨0o644⟩, pool_atStore, pool_note]
      exact (pool_atStore _ facade.store side).symm
    rw [samePool]
    exact missing
  refine ⟨opensOpen_tree, reachable, ?_, ?_, ?_, missing, ?_, ?_, ?_, ?_,
    fun side => ?_⟩
  case refine_8 =>
    cases created
    cases side <;> decide +kernel
  all_goals
    cases created
    decide +kernel

end Facade
end HandlePool
