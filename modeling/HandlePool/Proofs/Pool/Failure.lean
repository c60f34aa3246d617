import HandlePool.Proofs.Pool.Reaping

/-!
# Failed opens

A request for a missing key whose opener fails is answered with the opener's
error, and that is all that comes of it: nothing is kept for the key, the live
entries stay as they are and in their order, and two events are counted.  What
was put off may be done on the occasion, so that entries go that had expired
already.  No later request is answered with the failure.
-/

namespace HandlePool

variable {η σ : Type}

/-- The call asks for a handle of the key. -/
def PoolCall.Requests (key : String) : PoolCall η → Prop
  | .request other _ => other = key
  | _ => False

namespace Pool

variable [Handle η]

/-! ## Missing keys stay missing -/

/-- A handle that is kept for one key is not found under another one. -/
theorem KeysDiffer.live?_adopt_of_ne
    {pool : Pool η}
    (differ : pool.KeysDiffer)
    {time : CallTime}
    {key other : String}
    (missing : pool.live? time.starts key = none)
    (otherMissing : pool.live? time.starts other = none)
    (different : other ≠ key)
    (handle : η) :
    (pool.adopt time key handle).live? time.settles other = none := by
  let enrolled := ((pool.count .opened).enroll handle).2
  have enrolledDiffer : enrolled.KeysDiffer := differ
  have enrolledMissing : enrolled.live? time.inserts key = none :=
    differ.live?_eq_none_of_le time.starts_le_inserts missing
  have inserted :=
    live?_insert_of_ne enrolledDiffer enrolledMissing
      pool.handles.length different
  have insertedDiffer :=
    enrolledDiffer.insert enrolledMissing pool.handles.length
  have missingAfter :=
    insertedDiffer.live?_eq_none_of_le time.inserts_le_settles
    (inserted.trans
      (differ.live?_eq_none_of_le time.starts_le_inserts otherMissing))
  exact (evolves_settle time.settles insertedDiffer).live?_eq_none
    insertedDiffer missingAfter

/-- Only a request for a key makes it have a live entry. -/
theorem KeysDiffer.live?_perform_eq_none
    {pool : Pool η}
    (differ : pool.KeysDiffer)
    {time : CallTime}
    {key : String}
    (missing : pool.live? time.starts key = none)
    {call : PoolCall η}
    (requestsOther : ¬call.Requests key) :
    (pool.perform time call).2.live? time.settles key = none := by
  have performed := performed_perform differ time call
  generalize pool.perform time call = gave at performed ⊢
  obtain ⟨reply, final⟩ := gave
  cases performed with
  | evolved _ evolves =>
      exact (evolves.keysDiffer differ).live?_eq_none_of_le time.inOrder
        (evolves.live?_eq_none differ missing)
  | opened requested handle requestedMissing evolves adopted =>
      rw [adopted]
      have different : key ≠ requested := fun same => requestsOther same.symm
      exact (evolves.keysDiffer differ).live?_adopt_of_ne
        (evolves.live?_eq_none differ requestedMissing)
          (evolves.live?_eq_none differ missing)
        different handle

/-- A key that is missing stays so until it is requested. -/
theorem Coherent.live?_leadsTo_eq_none
    {start moment : Instant}
    {pool final : Pool η}
    (coherent : pool.Coherent)
    {key : String}
    (missing : pool.live? start key = none)
    (leads : LeadsTo (fun call => ¬call.Requests key) start pool moment final) :
    final.live? moment key = none := by
  induction leads with
  | nothing => exact missing
  | called time call leads later requestsOther inductionHypothesis =>
      have differ := (coherent.leadsTo leads).keysDiffer
      exact differ.live?_perform_eq_none
        (differ.live?_eq_none_of_le later inductionHypothesis) requestsOther
  | left _ _ _ inductionHypothesis => exact inductionHypothesis

/-! ## Answers for a missing key -/

/-- A request for a missing key is answered with what its own opener gives. -/
theorem Coherent.getOrOpen_of_missing
    {pool : Pool η}
    (coherent : pool.Coherent)
    {time : CallTime}
    {key : String}
    (missing : pool.live? time.starts key = none)
    (opener : σ → Except IoError η × σ)
    (world : σ) :
    let gave := pool.getOrOpen time key opener world
    gave.1 = ⟨(opener world).1.map fun _ => pool.handles.length, true⟩ ∧
      gave.2.2 = (opener world).2 := by
  intro gave
  have sameLength :=
    (evolves_seek time.starts coherent.keysDiffer key).length_handles_eq
  simp only [gave, getOrOpen_of_none missing]
  rcases opened : opener world with ⟨result, later⟩
  cases result with
  | error error =>
      simp only [openMissing, opened]
      exact ⟨rfl, trivial⟩
  | ok handle =>
      rw [openMissing_of_ok _ time key opened, sameLength]
      exact ⟨rfl, rfl⟩

/-- When the opener fails, expired entries may go and two events are counted. -/
theorem Coherent.getOrOpen_of_error
    {pool : Pool η}
    (coherent : pool.Coherent)
    {time : CallTime}
    {key : String}
    (missing : pool.live? time.starts key = none)
    {opener : σ → Except IoError η × σ}
    {world after : σ}
    {error : IoError}
    (fails : opener world = (.error error, after)) :
    ∃ gone swept, Reaped time.starts pool gone swept ∧
      pool.getOrOpen time key opener world =
        (⟨.error error, true⟩,
          (swept.count .miss).count .openFailure, after) := by
  obtain ⟨removals, swept, sheds, sought⟩ := sheds_seek_of_none (fun _ => False)
    coherent.keysDiffer coherent.inBounds missing
  obtain ⟨gone, reaped⟩ := sheds.reaped coherent
  refine ⟨gone, swept, reaped, ?_⟩
  simp only [getOrOpen_of_none missing, sought, openMissing, fails]

omit [Handle η] in
theorem contains_eq_false_iff
    {pool : Pool η}
    {now : Instant}
    {key : String} :
    pool.contains now key = false ↔ pool.live? now key = none := by
  rw [contains, Option.isSome_eq_false_iff, Option.isNone_iff_eq_none]

/-- A request for a key without a live entry whose opener fails is answered with
the opener's error; a copy of it would show the same.  The key has no live entry
afterwards.  The live entries are the same at every later moment, in the same
order, with the same handles as they were.  Nothing else goes but entries that
had expired, whose handles are closed; and besides those, one miss and one
failed opening are counted.  Until the key is requested again it stays missing,
whatever else happens to the pool, and the next request for it is answered by
its own opener. -/
theorem failed_open_leaves_pool
    {moment : Instant}
    {pool : Pool η}
    (reachable : pool.Reachable moment)
    {time : CallTime}
    {key : String}
    (missing : pool.contains time.starts key = false)
    {opener : σ → Except IoError η × σ}
    {world after : σ}
    {error : IoError}
    (fails : opener world = (.error error, after)) :
    ∃ (gone : List Entry) (final : Pool η),
      pool.getOrOpen time key opener world =
        (⟨.error error, true⟩, final, after) ∧
      (∀ shown, shown = error ∨ shown = error.copied →
        shown.kind = error.kind ∧ shown.code? = error.code? ∧
          shown.message = error.message) ∧
      (∀ later, time.starts ≤ later → final.contains later key = false ∧
        final.liveEntries later = pool.liveEntries later) ∧
      (∀ entry ∈ pool.liveEntries time.starts,
        final.handles[entry.handle]? = pool.handles[entry.handle]?) ∧
      (∀ entry ∈ gone, entry ∈ pool.entries ∧
        pool.isExpired time.starts entry = true) ∧
      final.entries = pool.entries.filter (fun entry => entry ∉ gone) ∧
      (∀ number, final.handles[number]? =
        (pool.handles[number]?).map fun handle =>
        if number ∈ gone.map Entry.handle then (Handle.close handle).2
          else handle) ∧
      final.counters =
        { pool.counters with
          misses := pool.counters.misses + 1
          openFailures := pool.counters.openFailures + 1
          expired := pool.counters.expired + gone.length
          closes := pool.counters.closes + gone.length
          closeFailures :=
            pool.counters.closeFailures + gone.countP pool.failsToClose } ∧
      ∀ later following,
        LeadsTo (fun call => ¬call.Requests key) time.settles final
          later following →
        ∀ next : CallTime, later ≤ next.starts →
        ∀ (ρ : Type) (nextOpener : ρ → Except IoError η × ρ) (nextWorld : ρ),
          let gave := following.getOrOpen next key nextOpener nextWorld
          gave.1 = ⟨(nextOpener nextWorld).1.map fun _ =>
            following.handles.length, true⟩ ∧
            gave.2.2 = (nextOpener nextWorld).2 := by
  have coherent := reachable.coherent
  rw [contains_eq_false_iff] at missing
  obtain ⟨gone, swept, reaped, answered⟩ :=
    coherent.getOrOpen_of_error missing fails
  have sweptCoherent := coherent.evolves reaped.evolves
  have sweptMissing : ∀ {later}, time.starts ≤ later →
      swept.live? later key = none :=
    fun inTime => sweptCoherent.keysDiffer.live?_eq_none_of_le inTime
      (reaped.evolves.live?_eq_none coherent.keysDiffer missing)
  refine ⟨gone, _, answered, ?_, ?_, ?_, ?_, reaped.entries_eq,
    reaped.handle?_eq, ?_, ?_⟩
  · rintro shown (rfl | rfl)
    · exact ⟨rfl, rfl, rfl⟩
    · exact ⟨IoError.kind_copied _, IoError.code?_copied _,
        IoError.message_copied _⟩
  · intro later inTime
    exact ⟨contains_eq_false_iff.mpr (sweptMissing inTime),
      reaped.liveEntries_eq inTime⟩
  · intro entry isLive
    exact reaped.handle?_eq_of_live coherent isLive
  · intro entry isGone
    exact ⟨reaped.present entry isGone, reaped.expired entry isGone⟩
  · change ((swept.counters.record .miss).record .openFailure) = _
    rw [reaped.counters_eq]
    rfl
  · intro later following leads next inTime ρ nextOpener nextWorld
    have finalCoherent : ((swept.count .miss).count .openFailure).Coherent :=
      sweptCoherent.congr rfl rfl (Nat.le_refl _)
    have following_coherent := finalCoherent.leadsTo leads
    have stillMissing :=
      finalCoherent.live?_leadsTo_eq_none (sweptMissing time.inOrder) leads
    exact following_coherent.getOrOpen_of_missing
      (following_coherent.keysDiffer.live?_eq_none_of_le inTime stillMissing)
        nextOpener
      nextWorld

/-- The first entry has expired when the second one was used,
and is still there. -/
def staleTurns : List (Turn TrialHandle) :=
  [ ⟨0, .request "a" (.ok { tag := 1, failsToClose := true }), 0, 0⟩,
    ⟨900000000, .request "b" (.ok { tag := 2 }), 0, 0⟩ ]

/-- The key is requested again, and cannot be opened; its entry goes, and its
handle fails to close. -/
theorem failed_open_leaves_pool_of_stale :
    let pool := (Session.run "stale" ⟨2, .ofSeconds 1, .close⟩ staleTurns).pool
    let time : CallTime := .instantly 1200000000
    let opener : Nat → Except IoError TrialHandle × Nat := fun tries =>
      (.error (.system 24), tries + 1)
    let gave := pool.getOrOpen time "a" opener 0
    pool.entries.length = 2 ∧ pool.contains time.starts "a" = false ∧
      gave.1.ran = true ∧ gave.2.2 = 1 ∧
      gave.2.1.entries = [⟨"b", 1, 900000000⟩] ∧
      gave.2.1.liveEntries time.settles = pool.liveEntries time.settles ∧
      gave.2.1.counters = ⟨0, 3, 2, 1, 1, 1, 0, 0, 1, 0⟩ := by
  intro pool time opener gave
  have missing : pool.contains time.starts "a" = false := by decide
  have fails : opener 0 = (.error (.system 24), 1) := rfl
  obtain ⟨gone, final, answered, -, visible, -⟩ :=
    failed_open_leaves_pool (reachable_run "stale" _ staleTurns) missing fails
  have isFinal : gave = (⟨.error (.system 24), true⟩, final, 1) := answered
  refine ⟨by decide, missing, by rw [isFinal], by rw [isFinal],
    by decide +kernel, ?_, by decide +kernel⟩
  rw [isFinal]
  exact (visible time.settles time.inOrder).2

end Pool
end HandlePool
