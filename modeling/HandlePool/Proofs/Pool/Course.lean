import HandlePool.Proofs.Pool.Recency
import HandlePool.Proofs.Pool.Removals

/-!
# The course of a call

A call to a pool takes one of three courses.  It uses the live entry of a key;
or it uses none, whether it looks for one or not; or it opens a handle for a key
that is missing and keeps it.  `Pool.Course` says which, with every removal in
its place and with all that is counted besides.  What a call counts apart from
removals can be read off its reply.
-/

namespace HandlePool

variable {η : Type}

/-- The keys whose entries a call asks to remove. -/
def PoolCall.Asks : PoolCall η → String → Prop
  | .invalidate key, other => other = key
  | .invalidateAll, _ => True
  | _, _ => False

/-- The key that a call looks up. -/
def PoolCall.sought? : PoolCall η → Option String
  | .request key _ | .lookup key => some key
  | _ => none

/-- The number of the handle that a reply gives. -/
def PoolReply.given? : PoolReply → Option Nat
  | .answer ⟨result, _⟩ => result.toOption
  | .found number => number
  | .truth _ | .done => none

/-- The call ran an opener. -/
def PoolReply.ran : PoolReply → Bool
  | .answer ⟨_, ran⟩ => ran
  | .found _ | .truth _ | .done => false

/-- When a call uses the handle that it gives: one that was opened is used when
it is kept, and any other one when it is looked for. -/
def PoolReply.usedAt (time : CallTime) (reply : PoolReply) : Instant :=
  if reply.ran then time.inserts else time.starts

/-- What a call with that reply counts, apart from removals. -/
def PoolReply.counted : PoolReply → List CountedEvent
  | .answer ⟨.ok _, false⟩ => [.hit]
  | .answer ⟨.ok _, true⟩ => [.miss, .opened]
  | .answer ⟨.error _, _⟩ => [.miss, .openFailure]
  | .found _ | .truth _ | .done => []

namespace Pool

/-- Count some events. -/
def countAll (pool : Pool η) (events : List CountedEvent) : Pool η :=
  events.foldl count pool

variable [Handle η]

/-- What a call does to a pool. -/
inductive Course (pool : Pool η) (time : CallTime) (call : PoolCall η)
    (reply : PoolReply) : List Removal → Pool η → Prop
  /-- A live entry was used. -/
  | used {key : String} {entry : Entry} {removals : List Removal}
      {swept : Pool η} :
      call.sought? = some key →
      pool.live? time.starts key = some entry →
      reply.given? = some entry.handle →
      reply.ran = false →
      Sheds call.Asks time.starts (pool.touch time.starts entry)
        removals swept →
      Course pool time call reply removals (swept.countAll reply.counted)
  /-- No entry was used. -/
  | swept {removals : List Removal} {swept : Pool η} :
      reply.given? = none →
      Sheds call.Asks time.starts pool removals swept →
      Course pool time call reply removals (swept.countAll reply.counted)
  /-- A handle was opened for a missing key, and kept; what its entry displaces
  goes before, and what is then too much goes afterwards. -/
  | opened {key : String} {handle : η} {before displaced after : List Removal}
      {swept cleared final : Pool η} :
      call = .request key (.ok handle) →
      pool.live? time.starts key = none →
      Sheds call.Asks time.starts pool before swept →
      reply = .answer ⟨.ok swept.handles.length, true⟩ →
      Sheds call.Asks time.inserts
        ((swept.countAll reply.counted).enroll handle).2
        displaced cleared →
      cleared.entries = swept.others key →
      Sheds call.Asks time.settles { cleared with
        entries := cleared.entries ++
          [⟨key, swept.handles.length, time.inserts⟩] }
        after final →
      Course pool time call reply (before ++ displaced ++ after) final

/-! ## Every call takes a course -/

section Lookups

variable
  (asked : String → Prop)
  {now : Instant}
  {pool : Pool η}
  {key : String}

theorem sheds_lookup_of_some
    (differ : pool.KeysDiffer)
    (inBounds : pool.InBounds)
    {entry : Entry}
    (found : pool.live? now key = some entry) :
    ∃ removals, Sheds asked now (pool.touch now entry) removals
      (pool.lookup now key).2 := by
  have present := (differ.live?_eq_some_iff.mp found).1
  rw [lookup_of_some found]
  exact sheds_tend asked now (differ.touch now entry)
    (inBounds.touch now present) .lookup _

theorem sheds_lookup_of_none
    (differ : pool.KeysDiffer)
    (inBounds : pool.InBounds)
    (missing : pool.live? now key = none) :
    ∃ removals, Sheds asked now pool removals (pool.lookup now key).2 := by
  rw [lookup_of_none missing]
  exact sheds_tend asked now differ inBounds .lookup _

/-- A missing key is looked up twice before a handle is opened for it. -/
theorem sheds_seek_of_none
    (differ : pool.KeysDiffer)
    (inBounds : pool.InBounds)
    (missing : pool.live? now key = none) :
    ∃ removals swept, Sheds asked now pool removals swept ∧
      (pool.seek now key).2 = swept.count .miss := by
  obtain ⟨first, looks⟩ := sheds_lookup_of_none asked differ inBounds missing
  obtain ⟨second, looksAgain⟩ :=
    sheds_tend asked now (looks.evolves.keysDiffer differ)
    (inBounds.lookup differ now key) .lookup
      (pool.lookup now key).2.entries.length
  refine ⟨_, _, looks.trans looksAgain, ?_⟩
  rw [seek_of_none missing]

end Lookups

theorem course_request
    {pool : Pool η}
    (differ : pool.KeysDiffer)
    (inBounds : pool.InBounds)
    (holdsSome : pool.config.maxSize ≠ 0)
    (time : CallTime)
    (key : String)
    (opened : Except IoError η) :
    ∃ removals, Course pool time (.request key opened)
      (pool.perform time (.request key opened)).1 removals
      (pool.perform time (.request key opened)).2 := by
  let asked := PoolCall.Asks (.request key opened)
  simp only [perform]
  cases found : pool.live? time.starts key with
  | some entry =>
      obtain ⟨removals, sheds⟩ :=
        sheds_lookup_of_some asked differ inBounds found
      rw [getOrOpen_of_some found, seek_of_some found]
      exact ⟨_, .used rfl found rfl rfl sheds⟩
  | none =>
      obtain ⟨before, swept, sheds, sought⟩ :=
        sheds_seek_of_none asked differ inBounds found
      rw [getOrOpen_of_none found, sought]
      cases opened with
      | error error => exact ⟨_, .swept rfl sheds⟩
      | ok handle =>
          have sweptDiffer :
              KeysDiffer (((swept.count .miss).count .opened).enroll
                handle).2 :=
            sheds.evolves.keysDiffer differ
          have sweptMissing :=
            (sheds.evolves.keysDiffer differ).live?_eq_none_of_le
            time.starts_le_inserts (sheds.evolves.live?_eq_none differ found)
          rw [← sheds.evolves.config_eq] at holdsSome
          obtain ⟨displaced, cleared, clears, left, inserted⟩ :=
            sheds_insert asked
            time.inserts sweptDiffer holdsSome sweptMissing swept.handles.length
          have keptDiffer : KeysDiffer { cleared with
              entries := cleared.entries ++
                [⟨key, swept.handles.length, time.inserts⟩] } := by
            refine (clears.evolves.keysDiffer sweptDiffer).concat ?_ rfl
            intro earlier present
            rw [left, mem_others] at present
            exact present.2
          obtain ⟨after, settles⟩ := sheds_settle asked time.settles keptDiffer
          have adopted := congrArg (settle · time.settles) inserted
          change (swept.count .miss).adopt time key handle = _ at adopted
          simp only [openMissing_of_ok _ time key rfl, adopted]
          exact ⟨_, .opened rfl found sheds rfl clears left settles⟩

/-- Every call to a pool that may hold something takes its course. -/
theorem course_perform
    {pool : Pool η}
    (differ : pool.KeysDiffer)
    (inBounds : pool.InBounds)
    (holdsSome : pool.config.maxSize ≠ 0)
    (time : CallTime)
    (call : PoolCall η) :
    ∃ removals, Course pool time call (pool.perform time call).1 removals
      (pool.perform time call).2 := by
  cases call with
  | request key opened =>
      exact course_request differ inBounds holdsSome time key opened
  | lookup key =>
      have replies := pool.fst_lookup time.starts key
      simp only [perform]
      cases found : pool.live? time.starts key with
      | some entry =>
          obtain ⟨removals, sheds⟩ := sheds_lookup_of_some
            (PoolCall.Asks (.lookup key : PoolCall η)) differ inBounds found
          rw [found] at replies
          exact ⟨_, .used rfl found replies rfl sheds⟩
      | none =>
          obtain ⟨removals, sheds⟩ := sheds_lookup_of_none
            (PoolCall.Asks (.lookup key : PoolCall η)) differ inBounds found
          rw [found] at replies
          exact ⟨_, .swept replies sheds⟩
  | contains key => exact ⟨[], .swept rfl (.done pool)⟩
  | invalidate key =>
      obtain ⟨removals, sheds⟩ := sheds_drop
        (PoolCall.Asks (.invalidate key : PoolCall η)) time.starts
          differ inBounds rfl
      exact ⟨_, .swept rfl (sheds.trans (.note _ rfl id (.done _)))⟩
  | invalidateAll =>
      obtain ⟨removals, sheds⟩ := sheds_invalidateAll
        (PoolCall.Asks (.invalidateAll : PoolCall η)) time.starts
          differ inBounds
        fun _ => trivial
      exact ⟨_, .swept rfl sheds⟩
  | settle =>
      obtain ⟨removals, sheds⟩ := sheds_settle
        (PoolCall.Asks (.settle : PoolCall η)) time.starts differ
      exact ⟨_, .swept rfl sheds⟩

/-! ## What a course leaves -/

omit [Handle η] in
/-- Counting changes nothing but the counters. -/
theorem countAll_eq
    (pool : Pool η)
    (events : List CountedEvent) :
    pool.countAll events =
      { pool with
        counters := events.foldl (fun counters event => counters.record event)
          pool.counters } := by
  induction events generalizing pool with
  | nil => rfl
  | cons event events inductionHypothesis =>
      exact inductionHypothesis (pool.count event)

theorem AgreeOnCalls.record
    {left right : Counters}
    (agree : AgreeOnCalls left right)
    (event : CountedEvent) :
    AgreeOnCalls (left.record event) (right.record event) := by
  obtain ⟨hits_eq, misses_eq, opens_eq, openFailures_eq, replaced_eq⟩ := agree
  cases event with
  | removal cause =>
      cases cause <;> constructor <;> simp [Counters.record, *]
  | _ => constructor <;> simp [Counters.record, *]

theorem AgreeOnCalls.recordAll
    {left right : Counters}
    (agree : AgreeOnCalls left right)
    (events : List CountedEvent) :
    AgreeOnCalls
      (events.foldl (fun counters event => counters.record event) left)
      (events.foldl (fun counters event => counters.record event) right) := by
  induction events generalizing left right with
  | nil => exact agree
  | cons event events inductionHypothesis =>
      exact inductionHypothesis (agree.record event)

omit [Handle η] in
theorem Opened.touch
    {pool : Pool η}
    (opened : pool.Opened)
    (now : Instant)
    {entry : Entry}
    (present : entry ∈ pool.entries) :
    (pool.touch now entry).Opened := by
  intro other otherPresent
  rw [Pool.touch, List.mem_append, mem_others, List.mem_singleton]
    at otherPresent
  obtain before | rfl := otherPresent
  · exact opened other before.1
  · exact opened entry present

namespace Course

variable
  {pool final : Pool η}
  {time : CallTime}
  {call : PoolCall η}
  {reply : PoolReply}
  {removals : List Removal}

/-- Every cause that the guard is told is the right one. -/
theorem isTruthful
    (course : Course pool time call reply removals final)
    {removal : Removal}
    (removed : removal ∈ removals) :
    removal.IsTruthful pool.config call.Asks ∧
      (removal.moment = time.starts ∨ removal.moment = time.inserts ∨
        removal.moment = time.settles) := by
  cases course with
  | used sought found gives ranNot sheds =>
      obtain ⟨truthful, atStart⟩ := sheds.isTruthful removed
      exact ⟨truthful, .inl atStart⟩
  | swept gives sheds =>
      obtain ⟨truthful, atStart⟩ := sheds.isTruthful removed
      exact ⟨truthful, .inl atStart⟩
  | opened requested missing sweeps replied clears left settles =>
      rw [List.mem_append, List.mem_append] at removed
      have sweptConfig := sweeps.evolves.config_eq
      have clearedConfig := clears.evolves.config_eq
      rw [countAll_eq] at clearedConfig
      obtain (earlier | displaced) | later := removed
      · obtain ⟨truthful, atStart⟩ := sweeps.isTruthful earlier
        exact ⟨truthful, .inl atStart⟩
      · obtain ⟨truthful, whenKept⟩ := clears.isTruthful displaced
        rw [countAll_eq] at truthful
        exact ⟨sweptConfig ▸ truthful, .inr (.inl whenKept)⟩
      · obtain ⟨truthful, atEnd⟩ := settles.isTruthful later
        rw [clearedConfig.trans sweptConfig] at truthful
        exact ⟨truthful, .inr (.inr atEnd)⟩

/-- Apart from removals, what is counted is read off the reply. -/
theorem agreeOnCalls
    (course : Course pool time call reply removals final) :
    AgreeOnCalls
      (reply.counted.foldl (fun counters event => counters.record event)
        pool.counters)
      final.counters := by
  cases course with
  | used sought found gives ranNot sheds =>
      rw [countAll_eq]
      exact sheds.agreeOnCalls.recordAll _
  | swept gives sheds =>
      rw [countAll_eq]
      exact sheds.agreeOnCalls.recordAll _
  | opened requested missing sweeps replied clears left settles =>
      have counted := sweeps.agreeOnCalls.recordAll reply.counted
      rw [countAll_eq] at clears
      exact (counted.trans clears.agreeOnCalls).trans settles.agreeOnCalls

/-- The guard is told of every removal, and leaves nothing open. -/
theorem reports_eq
    (course : Course pool time call reply removals final)
    (opened : pool.Opened)
    (differ : pool.KeysDiffer) :
    final.reports = pool.reports ++ removals.map Removal.report ∧
      ∀ event ∈ final.journal, event ∈ pool.journal ∨ ¬event.LeavesOpen := by
  cases course with
  | used sought found gives ranNot sheds =>
      rw [countAll_eq]
      exact sheds.reports_eq
        (opened.touch _ (differ.live?_eq_some_iff.mp found).1)
  | swept gives sheds =>
      rw [countAll_eq]
      exact sheds.reports_eq opened
  | @opened key handle before displaced after swept cleared final requested
      missing sweeps replied clears left settles =>
      have sweptOpened := sweeps.opened opened
      have enrolledOpened :
          ((swept.countAll reply.counted).enroll handle).2.Opened := by
        intro entry present
        rw [countAll_eq] at present ⊢
        exact List.length_append ▸ Nat.lt_succ_of_lt (sweptOpened entry present)
      have grown : cleared.handles.length = swept.handles.length + 1 := by
        rw [clears.evolves.length_handles_eq, countAll_eq]
        exact List.length_append
      have keptOpened : Opened { cleared with
          entries := cleared.entries ++
            [⟨key, swept.handles.length, time.inserts⟩] } := by
        intro entry present
        rw [List.mem_append, List.mem_singleton] at present
        obtain stays | rfl := present
        · exact clears.opened enrolledOpened entry stays
        · exact grown ▸ Nat.lt_succ_self _
      obtain ⟨swept_reports, swept_events⟩ := sweeps.reports_eq opened
      obtain ⟨cleared_reports, cleared_events⟩ :=
        clears.reports_eq enrolledOpened
      obtain ⟨reports, events⟩ := settles.reports_eq keptOpened
      rw [countAll_eq] at cleared_reports cleared_events
      constructor
      · rw [reports, List.map_append, List.map_append, ← List.append_assoc,
          ← List.append_assoc, ← swept_reports]
        exact congrArg (· ++ _) cleared_reports
      · intro event noted
        exact ((events event noted).elim (cleared_events event) .inr).elim
          (swept_events event) .inr

end Course
end Pool

/-- The next call of a session takes its course. -/
theorem Session.course_run
    [TrackedHandle η]
    (name : String)
    {config : PoolConfig}
    (holdsSome : config.maxSize ≠ 0)
    {turns : List (Turn η)}
    (newHandles : ∀ turn ∈ turns, turn.call.OpensFresh)
    (time : CallTime)
    (call : PoolCall η) :
    ∃ removals, Pool.Course (run name config turns).pool time call
      ((run name config turns).pool.perform time call).1 removals
      ((run name config turns).pool.perform time call).2 := by
  have agrees := agrees_run name holdsSome newHandles
  refine Pool.course_perform agrees.custody.keysDiffer
    (matches_run name holdsSome turns).follows.inBounds ?_ time call
  rwa [agrees.config_eq]

end HandlePool
