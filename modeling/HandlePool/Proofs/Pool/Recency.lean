import HandlePool.Proofs.Pool.LiveEntries
import HandlePool.Proofs.Pool.Release

/-!
# A pool behaves like a list in the order of use

The list has one entry for every key that was opened and not let go, least
recently used first, and nothing about it is put off.  A call uses an entry,
adds one, or takes some away; after an opening the expired entries go, and one
more when there is one too many.  Every sequence of calls is answered by a pool
as it is by the list.
-/

namespace HandlePool

/-- Entries in the order of use, and how many handles were opened. -/
structure Recency where
  entries : List Entry := []
  opened : Nat := 0

namespace Recency

variable {η : Type}

/-- The entry of a key, unless it has been idle for too long. -/
def find? (recency : Recency) (config : PoolConfig) (now : Instant)
    (key : String) :
    Option Entry :=
  (Entry.live config.idle now recency.entries).find? fun entry =>
    entry.key == key

/-- Use an entry. -/
def use (recency : Recency) (now : Instant) (entry : Entry) : Recency :=
  { recency with
    entries := Entry.without entry.key recency.entries ++
      [{ entry with lastUse := now }] }

/-- Add an entry for a handle that was just opened.  Expired entries go, and
when more are left than there may be, the least recently used one goes too. -/
def add (recency : Recency) (config : PoolConfig) (time : CallTime)
    (key : String) :
    Recency :=
  let left := Entry.live config.idle time.settles
    (Entry.without key recency.entries ++ [⟨key, recency.opened, time.inserts⟩])
  { entries := if config.maxSize.toNat < left.length then left.tail else left
    opened := recency.opened + 1 }

/-- Answer a call. -/
def answer (recency : Recency) (config : PoolConfig) (time : CallTime) :
    PoolCall η → PoolReply × Recency
  | .request key opened =>
      match recency.find? config time.starts key, opened with
      | some entry, _ =>
          (.answer ⟨.ok entry.handle, false⟩, recency.use time.starts entry)
      | none, .error error => (.answer ⟨.error error, true⟩, recency)
      | none, .ok _ =>
          (.answer ⟨.ok recency.opened, true⟩, recency.add config time key)
  | .lookup key =>
      match recency.find? config time.starts key with
      | some entry =>
          (.found (some entry.handle), recency.use time.starts entry)
      | none => (.found none, recency)
  | .contains key =>
      (.truth (recency.find? config time.starts key).isSome, recency)
  | .invalidate key =>
      (.done, { recency with entries := Entry.without key recency.entries })
  | .invalidateAll => (.done, { recency with entries := [] })
  | .settle =>
      (.done, { recency with
        entries := Entry.live config.idle time.starts recency.entries })

/-- An opener ran only for a key that was not found. -/
theorem answer_of_ran
    {recency : Recency}
    {config : PoolConfig}
    {time : CallTime}
    {key : String}
    {handle : η}
    {number : Nat}
    (ran : (recency.answer config time (.request key (.ok handle))).1 =
      .answer ⟨.ok number, true⟩) :
    recency.find? config time.starts key = none ∧ number = recency.opened ∧
      (recency.answer config time (.request key (.ok handle))).2 =
        recency.add config time key := by
  simp only [answer] at ran ⊢
  cases found : recency.find? config time.starts key with
  | some entry => simp [found] at ran
  | none =>
      simp only [found, PoolReply.answer.injEq, Answer.mk.injEq,
        Except.ok.injEq, and_true] at ran
      exact ⟨rfl, ran.symm, rfl⟩

/-- The entry that was just added stays, unless it has expired meanwhile. -/
theorem getLast?_entries_add
    (recency : Recency)
    {config : PoolConfig}
    (holdsSome : config.maxSize ≠ 0)
    {time : CallTime}
    (inTime : time.settles < time.inserts + config.idle.totalNanos)
    (key : String) :
    (recency.add config time key).entries.getLast? =
      some ⟨key, recency.opened, time.inserts⟩ := by
  have bound : 0 < config.maxSize.toNat := by
    rw [Nat.pos_iff_ne_zero]
    intro isZero
    exact holdsSome (UInt64.toNat_inj.mp isZero)
  have stays : Entry.live config.idle time.settles
      [⟨key, recency.opened, time.inserts⟩] =
        [⟨key, recency.opened, time.inserts⟩] := by
    simp [Entry.live, Entry.isExpired, inTime]
  simp only [add, Entry.live_append, stays]
  split
  · next tooMany =>
    rw [List.length_append, List.length_singleton] at tooMany
    rw [List.tail_append_of_ne_nil, List.getLast?_concat]
    refine List.ne_nil_of_length_pos ?_
    omega
  · rw [List.getLast?_concat]

end Recency

/-- A list in the order of use under a sequence of calls. -/
structure RecencySession (η : Type) where
  recency : Recency := {}
  now : Instant := 0
  history : List (PoolCall η × PoolReply) := []

namespace RecencySession

variable {η : Type}

/-- Make the next call. -/
def take (config : PoolConfig) (session : RecencySession η) (turn : Turn η) :
    RecencySession η :=
  let time : CallTime :=
    .lasting (session.now + turn.pause) turn.opening turn.settling
  let (reply, recency) := session.recency.answer config time turn.call
  { recency := recency
    now := time.settles
    history := session.history ++ [(turn.call, reply)] }

/-- The session after some calls to an empty list. -/
def run (config : PoolConfig) (turns : List (Turn η)) : RecencySession η :=
  turns.foldl (take config) {}

theorem run_append_singleton
    (config : PoolConfig)
    (turns : List (Turn η))
    (turn : Turn η) :
    run config (turns ++ [turn]) = (run config turns).take config turn := by
  simp [run]

end RecencySession

/-! ## Pools and lists -/

namespace Pool

variable {η : Type}

/-- A pool does what a list says: what is live in one is live in the other. -/
structure Follows
    (config : PoolConfig)
    (now : Instant)
    (recency : Recency)
    (pool : Pool η) : Prop where
  config_eq : pool.config = config
  keysDiffer : pool.KeysDiffer
  inBounds : pool.InBounds
  opened : recency.opened = pool.handles.length
  live : pool.liveEntries now = Entry.live config.idle now recency.entries

namespace Follows

variable
  {config : PoolConfig}
  {now : Instant}
  {recency : Recency}
  {pool : Pool η}

/-- Nothing but time passes. -/
theorem later
    {later : Instant}
    (follows : Follows config now recency pool)
    (inOrder : now ≤ later) :
    Follows config later recency pool where
  config_eq := follows.config_eq
  keysDiffer := follows.keysDiffer
  inBounds := follows.inBounds
  opened := follows.opened
  live := by
    rw [pool.liveEntries_of_le inOrder, follows.live, follows.config_eq]
    exact Entry.live_live _ inOrder _

/-- The pool and the list find the same entries. -/
theorem live?_eq
    (follows : Follows config now recency pool)
    (key : String) :
    pool.live? now key = recency.find? config now key := by
  rw [follows.keysDiffer.live?_eq_find?, follows.live, Recency.find?]

variable [Handle η]

/-- Whatever evolves the pool without a new handle has to agree on
the live entries only. -/
theorem evolves
    {final : Pool η}
    {entries : List Entry}
    (follows : Follows config now recency pool)
    (evolves : Evolves now pool final)
    (inBounds : final.InBounds)
    (live : final.liveEntries now = Entry.live config.idle now entries) :
    Follows config now { recency with entries := entries } final where
  config_eq := evolves.config_eq.trans follows.config_eq
  keysDiffer := evolves.keysDiffer follows.keysDiffer
  inBounds := inBounds
  opened := follows.opened.trans evolves.length_handles_eq.symm
  live := live

/-- A use is a use in both. -/
theorem use
    {entry : Entry}
    {final : Pool η}
    (follows : Follows config now recency pool)
    (evolves : Evolves now pool final)
    (inBounds : final.InBounds)
    (used : final.liveEntries now = (pool.touch now entry).liveEntries now) :
    Follows config now (recency.use now entry) final := by
  refine follows.evolves evolves inBounds ?_
  rw [used, liveEntries_touch, follows.live, follows.config_eq,
    Entry.live_append,
    Entry.live_append, Entry.live_without, Entry.live_without,
    Entry.live_live _ (Nat.le_refl now)]

/-- Adopting a handle leaves in the pool what adding it leaves in the list. -/
theorem entries_adopt
    (holdsSome : config.maxSize ≠ 0)
    {time : CallTime}
    (follows : Follows config time.starts recency pool)
    {key : String}
    (missing : recency.find? config time.starts key = none)
    (handle : η) :
    (pool.adopt time key handle).entries =
      (recency.add config time key).entries := by
  obtain ⟨rfl, differ, inBounds, opened, live⟩ := follows
  rw [← Follows.live?_eq ⟨rfl, differ, inBounds, opened, live⟩] at missing
  let left := Entry.live pool.config.idle time.settles
    (Entry.without key (pool.liveEntries time.starts) ++
      [⟨key, pool.handles.length, time.inserts⟩])
  have sameLeft : Entry.live pool.config.idle time.settles
      (Entry.without key recency.entries ++
        [⟨key, recency.opened, time.inserts⟩]) = left := by
    rw [opened, Entry.live_append,
      Entry.live_without, ← Entry.live_live _ time.inOrder,
      ← live, ← Entry.live_without, ← Entry.live_append]
  have oneMore : left.length ≤ pool.config.maxSize.toNat + 1 := by
    have shown : left.length ≤
        (Entry.without key (pool.liveEntries time.starts)).length + 1 :=
      Nat.le_trans (List.length_filter_le _ _) (Nat.le_of_eq List.length_append)
    have others : (Entry.without key (pool.liveEntries time.starts)).length ≤
        (pool.liveEntries time.starts).length := List.length_filter_le _ _
    have known := length_liveEntries_le pool time.starts
    have bound : pool.entries.length ≤ pool.config.maxSize.toNat := inBounds
    omega
  rw [Pool.entries_adopt differ holdsSome missing handle, Recency.add]
  simp only [sameLeft]
  change left.drop (left.length - pool.config.maxSize.toNat) = _
  split
  · next tooMany =>
    have single : left.length - pool.config.maxSize.toNat = 1 := by omega
    rw [single, List.drop_one]
  · next few =>
    have noSurplus : left.length - pool.config.maxSize.toNat = 0 := by omega
    rw [noSurplus, List.drop_zero]

theorem adopt
    (holdsSome : config.maxSize ≠ 0)
    {time : CallTime}
    (follows : Follows config time.starts recency pool)
    {key : String}
    (missing : recency.find? config time.starts key = none)
    (handle : η) :
    Follows config time.settles (recency.add config time key)
      (pool.adopt time key handle) := by
  have left := follows.entries_adopt holdsSome missing handle
  obtain ⟨rfl, differ, inBounds, opened, live⟩ := follows
  rw [← Follows.live?_eq ⟨rfl, differ, inBounds, opened, live⟩] at missing
  obtain ⟨cleared, kept, evolves, -, rfl, keptDiffer, adopted⟩ :=
    adopt_eq differ holdsSome missing handle
  have settles := evolves_settle time.settles keptDiffer
  have config_eq := config_adopt differ holdsSome missing handle
  constructor
  · exact config_eq
  · rw [adopted]
    exact settles.keysDiffer keptDiffer
  · rw [adopted]
    exact inBounds_settleWithin keptDiffer time.settles _
  · rw [length_handles_adopt differ holdsSome missing, ← opened]
    rfl
  · rw [liveEntries, config_eq, left]

/-- Seeking a missing key changes nothing that the list knows of. -/
theorem seek
    (follows : Follows config now recency pool)
    {key : String}
    (missing : recency.find? config now key = none) :
    Follows config now recency (pool.seek now key).2 := by
  have differ := follows.keysDiffer
  have poolMissing := (follows.live?_eq key).trans missing
  refine follows.evolves (evolves_seek now differ key)
    (follows.inBounds.seek differ now key) ?_
  exact (liveEntries_seek_of_none differ follows.inBounds poolMissing).trans
    follows.live

/-- The pool answers a request for a handle as the list does. -/
theorem request
    (holdsSome : config.maxSize ≠ 0)
    {time : CallTime}
    (follows : Follows config time.starts recency pool)
    (key : String)
    (opened : Except IoError η) :
    (pool.perform time (.request key opened)).1 =
        (recency.answer config time (.request key opened)).1 ∧
      Follows config time.settles
        (recency.answer config time (.request key opened)).2
        (pool.perform time (.request key opened)).2 := by
  have differ := follows.keysDiffer
  have agree := follows.live?_eq key
  simp only [perform, Recency.answer]
  cases found : recency.find? config time.starts key with
  | some entry =>
      rw [found] at agree
      rw [getOrOpen_of_some agree]
      have used := follows.use (evolves_seek time.starts differ key)
        (follows.inBounds.seek differ time.starts key)
        (liveEntries_seek_of_some differ follows.inBounds agree)
      exact ⟨rfl, used.later time.inOrder⟩
  | none =>
      rw [found] at agree
      rw [getOrOpen_of_none agree]
      have sought := follows.seek found
      cases opened with
      | error error =>
          exact ⟨rfl,
            (sought.evolves (.count .openFailure (.inr (.inr rfl)) (.done _))
            sought.inBounds sought.live).later time.inOrder⟩
      | ok handle =>
          simp only [openMissing_of_ok _ time key rfl]
          exact ⟨by rw [sought.opened], sought.adopt holdsSome found handle⟩

/-- A request that opened a handle left in the pool what it left in the list. -/
theorem entries_request
    (holdsSome : config.maxSize ≠ 0)
    {time : CallTime}
    (follows : Follows config time.starts recency pool)
    {key : String}
    (missing : recency.find? config time.starts key = none)
    (handle : η) :
    (pool.perform time (.request key (.ok handle))).2.entries =
      (recency.add config time key).entries := by
  have agree := (follows.live?_eq key).trans missing
  simp only [perform, getOrOpen_of_none agree, openMissing_of_ok _ time key rfl]
  exact (follows.seek missing).entries_adopt holdsSome missing handle

theorem lookup
    {time : CallTime}
    (follows : Follows config time.starts recency pool)
    (key : String) :
    (pool.perform time (.lookup key)).1 =
        (recency.answer config time (.lookup key : PoolCall η)).1 ∧
      Follows config time.starts
        (recency.answer config time (.lookup key : PoolCall η)).2
        (pool.perform time (.lookup key)).2 := by
  have differ := follows.keysDiffer
  have evolves := evolves_lookup time.starts differ key
  have lookedBounds := follows.inBounds.lookup differ time.starts key
  have replies := pool.fst_lookup time.starts key
  have agree := follows.live?_eq key
  simp only [perform, Recency.answer, replies]
  cases found : pool.live? time.starts key with
  | some entry =>
      rw [← agree, found]
      have used := liveEntries_lookup_of_some differ follows.inBounds found
      exact ⟨rfl, follows.use evolves lookedBounds used⟩
  | none =>
      rw [← agree, found]
      have left := liveEntries_lookup_of_none differ follows.inBounds found
      exact ⟨rfl, follows.evolves evolves lookedBounds
        (left.trans follows.live)⟩

/-- The pool answers every call as the list does. -/
theorem perform
    (holdsSome : config.maxSize ≠ 0)
    {time : CallTime}
    (follows : Follows config time.starts recency pool)
    (call : PoolCall η) :
    (pool.perform time call).1 = (recency.answer config time call).1 ∧
      Follows config time.settles (recency.answer config time call).2
        (pool.perform time call).2 := by
  have differ := follows.keysDiffer
  cases call with
  | request key opened => exact follows.request holdsSome key opened
  | lookup key =>
      obtain ⟨sameReply, after⟩ := follows.lookup key
      exact ⟨sameReply, after.later time.inOrder⟩
  | contains key =>
      refine ⟨?_, follows.later time.inOrder⟩
      simp only [Pool.perform, contains, Recency.answer, follows.live?_eq key]
  | invalidate key =>
      have evolves := evolves_invalidate time.starts differ key
      have inBounds : (pool.invalidate time.starts key).InBounds :=
        follows.inBounds.drop differ time.starts key
      have left : (pool.invalidate time.starts key).liveEntries time.starts =
          Entry.live config.idle time.starts
            (Entry.without key recency.entries) := by
        rw [Entry.live_without, ← follows.live]
        exact liveEntries_drop differ follows.inBounds time.starts key
      exact ⟨rfl, (follows.evolves evolves inBounds left).later time.inOrder⟩
  | invalidateAll =>
      have evolves := evolves_invalidateAll time.starts differ
      have empty := entries_invalidateAll differ follows.inBounds time.starts
      have inBounds : (pool.invalidateAll time.starts).InBounds := by
        rw [InBounds, empty]
        exact Nat.zero_le _
      have left : (pool.invalidateAll time.starts).liveEntries time.starts =
          Entry.live config.idle time.starts [] := by
        rw [liveEntries, empty, Entry.live, Entry.live, List.filter_nil,
          List.filter_nil]
      exact ⟨rfl, (follows.evolves evolves inBounds left).later time.inOrder⟩
  | settle =>
      have evolves := evolves_settle time.starts differ
      have inBounds : (pool.settle time.starts).InBounds :=
        inBounds_settleWithin differ time.starts _
      have left : (pool.settle time.starts).liveEntries time.starts =
          Entry.live config.idle
          time.starts (Entry.live config.idle time.starts recency.entries) := by
        rw [Entry.live_live _ (Nat.le_refl _)]
        exact (liveEntries_settleWithin differ follows.inBounds
          time.starts _).trans follows.live
      exact ⟨rfl, (follows.evolves evolves inBounds left).later time.inOrder⟩

end Follows

end Pool

/-! ## Sessions -/

namespace Session

open Pool

section

variable {η : Type} [Handle η]

/-- A session with a pool is at the same point as one with a list. -/
structure Matches
    (config : PoolConfig)
    (listed : RecencySession η)
    (session : Session η) : Prop where
  now_eq : session.now = listed.now
  history_eq : session.history = listed.history
  follows : Follows config session.now listed.recency session.pool

theorem Matches.take
    {config : PoolConfig}
    (holdsSome : config.maxSize ≠ 0)
    {listed : RecencySession η}
    {session : Session η}
    (same : Matches config listed session)
    (turn : Turn η) :
    Matches config (listed.take config turn) (session.take turn) := by
  obtain ⟨now_eq, history_eq, follows⟩ := same
  have arrived :
      Follows config (session.timeOf turn).starts listed.recency session.pool :=
    follows.later (Nat.le_add_right _ _)
  have step := arrived.perform holdsSome turn.call
  simp only [timeOf, now_eq] at step
  constructor
  · simp only [Session.take, timeOf, RecencySession.take, now_eq]
  · simp only [Session.take, timeOf, RecencySession.take, now_eq,
      history_eq, step.1]
  · simp only [Session.take, timeOf, RecencySession.take, now_eq]
    exact step.2

theorem matches_run
    (name : String)
    {config : PoolConfig}
    (holdsSome : config.maxSize ≠ 0)
    (turns : List (Turn η)) :
    Matches config (RecencySession.run config turns)
      (run name config turns) := by
  induction turns using List.reverseRecOn with
  | nil =>
      exact ⟨rfl, rfl, rfl, List.nodup_nil, Nat.zero_le _, rfl, rfl⟩
  | append_singleton turns turn inductionHypothesis =>
      rw [run_append_singleton, RecencySession.run_append_singleton]
      exact inductionHypothesis.take holdsSome turn

/-- A call that opened a handle left in the pool what it left in the list. -/
theorem Matches.opened
    {config : PoolConfig}
    (holdsSome : config.maxSize ≠ 0)
    {listed : RecencySession η}
    {session : Session η}
    (same : Matches config listed session)
    {turn : Turn η}
    {key : String}
    {handle : η}
    (requested : turn.call = .request key (.ok handle))
    {number : Nat}
    (answered : (session.take turn).history.getLast? =
      some (turn.call, .answer ⟨.ok number, true⟩)) :
    (session.take turn).pool.entries =
      (listed.take config turn).recency.entries ∧
      (turn.settling < config.idle.totalNanos →
        (session.take turn).pool.entries.getLast? =
          some ⟨key, number, session.now + turn.pause + turn.opening⟩) := by
  obtain ⟨pause, call, opening, settling⟩ := turn
  subst requested
  let turn : Turn η := ⟨pause, .request key (.ok handle), opening, settling⟩
  let time := session.timeOf turn
  have arrived : Follows config time.starts listed.recency session.pool :=
    same.follows.later (Nat.le_add_right _ _)
  have sameTime : (listed.take config turn).recency =
      (listed.recency.answer config time turn.call).2 := by
    simp only [RecencySession.take, ← same.now_eq]
    rfl
  have replied : (session.pool.perform time turn.call).1 =
      .answer ⟨.ok number, true⟩ := by
    simpa [Session.take] using answered
  rw [(arrived.perform holdsSome turn.call).1] at replied
  obtain ⟨missing, rfl, added⟩ := Recency.answer_of_ran replied
  have left : (session.take turn).pool.entries =
      (listed.recency.add config time key).entries :=
    arrived.entries_request holdsSome missing handle
  refine ⟨by rw [sameTime, left, added], fun inTime => ?_⟩
  rw [left]
  exact listed.recency.getLast?_entries_add holdsSome
    (Nat.add_lt_add_left inTime _) key

end

variable {η : Type} [TrackedHandle η]

/-- A pool that may hold something answers every sequence of calls as the list
does, and finds the same keys at any later time.  When the last call opened a
handle, the pool holds what the list says: the new entry comes last, dated by
when it was kept, unless it took the idle time from then on to settle; what the
list holds is open, and everything else has been closed. -/
theorem answers_like_recency
    (name : String)
    (config : PoolConfig)
    (holdsSome : config.maxSize ≠ 0)
    (turns : List (Turn η))
    (newHandles : ∀ turn ∈ turns, turn.call.OpensFresh) :
    let session := run name config turns
    let listed := RecencySession.run config turns
    session.history = listed.history ∧
      (∀ later key, session.now ≤ later → session.pool.contains later key =
        (listed.recency.find? config later key).isSome) ∧
      ∀ earlier turn key handle number, turns = earlier ++ [turn] →
        turn.call = .request key (.ok handle) →
        session.history.getLast? =
          some (turn.call, .answer ⟨.ok number, true⟩) →
        session.pool.entries = listed.recency.entries ∧
          (turn.settling < config.idle.totalNanos →
            session.pool.entries.getLast? = some
            ⟨key, number,
              (run name config earlier).now + turn.pause + turn.opening⟩) ∧
          ∀ other found, session.pool.handles[other]? = some found →
            (∃ entry ∈ listed.recency.entries, entry.handle = other) ∧
                TrackedHandle.IsFresh found ∨
              (∀ entry ∈ listed.recency.entries, entry.handle ≠ other) ∧
                TrackedHandle.IsSpent found := by
  intro session listed
  have same := matches_run name holdsSome turns
  have custody := (agrees_run name holdsSome newHandles).custody
  refine ⟨same.history_eq, ?_, ?_⟩
  · intro later key inOrder
    rw [contains, (same.follows.later inOrder).live?_eq]
  · rintro earlier turn key handle number rfl requested answered
    have before := matches_run name holdsSome earlier
    have stepped : session = (run name config earlier).take turn :=
      run_append_singleton ..
    have listedStepped :
        listed = (RecencySession.run config earlier).take config turn :=
      RecencySession.run_append_singleton ..
    rw [stepped] at answered
    obtain ⟨left, last⟩ := before.opened holdsSome requested answered
    rw [← stepped] at left last
    rw [← listedStepped] at left
    refine ⟨left, last, ?_⟩
    intro other found located
    rw [← left]
    by_cases held : session.pool.Holds other
    · exact .inl ⟨held, custody.isFresh other found located (.inl held)⟩
    · refine .inr ⟨?_, custody.isSpent other found located held id⟩
      intro entry present numbered
      exact held ⟨entry, present, numbered⟩

/-- Two keys are opened and the older one is used again,
before a third one comes. -/
def earlierTurns : List (Turn TrialHandle) :=
  [ ⟨0, .request "a" (.ok { tag := 1 }), 0, 1⟩,
    ⟨2, .request "b" (.ok { tag := 2 }), 0, 1⟩,
    ⟨3, .lookup "a", 0, 0⟩ ]

/-- The third key takes the place of the second one. -/
def lastTurn : Turn TrialHandle := ⟨4, .request "c" (.ok { tag := 3 }), 0, 1⟩

theorem answers_like_recency_of_third_key :
    let turns := earlierTurns ++ [lastTurn]
    let config : PoolConfig := ⟨2, .ofSeconds 60, .close⟩
    let session := run "third" config turns
    let listed := RecencySession.run config turns
    session.history = listed.history ∧
      session.pool.entries = [⟨"a", 0, 7⟩, ⟨"c", 2, 11⟩] ∧
      session.pool.entries = listed.recency.entries ∧
      ∀ other found, session.pool.handles[other]? = some found →
        (∃ entry ∈ listed.recency.entries, entry.handle = other) ∧
            TrackedHandle.IsFresh found ∨
          (∀ entry ∈ listed.recency.entries, entry.handle ≠ other) ∧
            TrackedHandle.IsSpent found := by
  have newHandles : ∀ turn ∈ earlierTurns ++ [lastTurn],
      turn.call.OpensFresh := by
    simp [earlierTurns, lastTurn, PoolCall.OpensFresh, TrackedHandle.IsFresh,
      Handle.isOpen, TrackedHandle.closeCalls]
  have holds :=
    answers_like_recency "third" ⟨2, .ofSeconds 60, .close⟩ (by decide)
    (earlierTurns ++ [lastTurn]) newHandles
  obtain ⟨left, -, apart⟩ :=
    holds.2.2 earlierTurns lastTurn "c" { tag := 3 } 2 rfl rfl rfl
  exact ⟨holds.1, by decide, left, apart⟩

end Session
end HandlePool
