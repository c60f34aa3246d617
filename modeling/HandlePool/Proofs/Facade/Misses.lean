import HandlePool.Proofs.Facade.Apart
import HandlePool.Proofs.Facade.Transparency
import HandlePool.Proofs.Pool.Conservation
import HandlePool.Proofs.Pool.Failure

/-!
# Requests that miss

A request misses if its key has no live entry in the pool on its side.
Then the store of the façade is asked to open the path, whatever the store
is, and not otherwise.  A pool counts just these requests as misses, and
each of them as an opening or a failed one; nothing else that is done with
a façade counts as either.
-/

namespace HandlePool

/-! ## What a pool counts -/

namespace Pool

variable {η : Type} [Handle η]

/-- A request is the call that is given what its opener would give; the opener
runs if the key has no live entry. -/
theorem getOrOpen_eq_perform
    {σ : Type}
    (pool : Pool η)
    (time : CallTime)
    (key : String)
    (opener : σ → Except IoError η × σ)
    (world : σ) :
    let gave := pool.getOrOpen time key opener world
    pool.perform time (.request key (opener world).1) =
      (.answer gave.1, gave.2.1) ∧
      gave.2.2 = if pool.contains time.starts key then world
        else (opener world).2 := by
  intro gave
  simp only [gave, perform]
  cases found : pool.live? time.starts key with
  | some entry =>
      simp only [getOrOpen_of_some found, contains, found]
      exact ⟨trivial, rfl⟩
  | none =>
      simp only [getOrOpen_of_none found, contains, found]
      rcases opened : opener world with ⟨result, later⟩
      cases result <;> simp [openMissing, opened]

/-- That many requests found no live entry, and each of them opened
a handle or failed to. -/
structure Missed (times : Nat) (counters : Counters) : Prop where
  misses_eq : counters.misses = times
  opened_eq : counters.misses = counters.opens + counters.openFailures

theorem Missed.agree
    {times : Nat}
    {left right : Counters}
    (missed : Missed times left)
    (agree : AgreeOnCalls left right) :
    Missed times right where
  misses_eq := agree.misses_eq.trans missed.misses_eq
  opened_eq := by
    rw [agree.misses_eq, agree.opens_eq, agree.openFailures_eq,
      missed.opened_eq]

/-- A request counts as a miss exactly if the key has no live entry. -/
theorem Missed.getOrOpen
    {σ : Type}
    {times : Nat}
    {pool : Pool η}
    (missed : Missed times pool.counters)
    (coherent : pool.Coherent)
    (holdsSome : pool.config.maxSize ≠ 0)
    (time : CallTime)
    (key : String)
    (opener : σ → Except IoError η × σ)
    (world : σ) :
    Missed (if pool.contains time.starts key then times else times + 1)
      (pool.getOrOpen time key opener world).2.1.counters := by
  obtain ⟨removals, course⟩ :=
    course_request coherent.keysDiffer coherent.inBounds holdsSome
    time key (opener world).1
  rw [(getOrOpen_eq_perform pool time key opener world).1] at course
  refine Missed.agree ?_ course.agreeOnCalls
  obtain ⟨misses_eq, opened_eq⟩ := missed
  cases found : pool.live? time.starts key with
  | some entry =>
      rw [getOrOpen_of_some found, contains, found]
      exact ⟨misses_eq, opened_eq⟩
  | none =>
      rw [(coherent.getOrOpen_of_missing found opener world).1, contains, found]
      cases (opener world).1 <;>
        constructor <;>
        simp only [Except.map, PoolReply.counted, List.foldl_cons,
          List.foldl_nil,
          Counters.record, Option.isSome_none, Bool.false_eq_true, if_false] <;>
        omega

/-- Calls that ask for no handle count nothing but removals. -/
theorem Coherent.agreeOnCalls_perform
    {pool : Pool η}
    (coherent : pool.Coherent)
    (holdsSome : pool.config.maxSize ≠ 0)
    (time : CallTime)
    {call : PoolCall η}
    (asksNothing : call.isRequest = false) :
    AgreeOnCalls pool.counters (pool.perform time call).2.counters := by
  obtain ⟨removals, course⟩ :=
    course_perform coherent.keysDiffer coherent.inBounds holdsSome
    time call
  have agree := course.agreeOnCalls
  cases call with
  | request key opened => cases asksNothing
  | _ => exact agree

theorem agreeOnCalls_refl
    (counters : Counters) :
    AgreeOnCalls counters counters :=
  ⟨rfl, rfl, rfl, rfl, rfl⟩

end Pool

/-- The operation asks a pool for a handle, through the façade or past it. -/
def Operation.asksForHandle {σ : Type} : Operation σ → Bool
  | .request _ => true
  | .inside _ call => call.isRequest
  | _ => false

/-- What a request opens is what its path comes to. -/
theorem FileRequest.ofPath_of_opening
    {base : AbsolutePath}
    {request : FileRequest}
    {resolved : Resolved}
    {event : FacadeEvent}
    (opening : request.opening base = .ok (resolved, event)) :
    Resolved.ofPath base request.path = .ok resolved := by
  cases request with
  | toRead path =>
      obtain ⟨_, isResolved, same⟩ := map_eq_ok_iff.mp opening
      cases same
      exact isResolved
  | toWrite path mode =>
      rw [FileRequest.opening] at opening
      split at opening
      · cases opening
      · obtain ⟨_, isResolved, same⟩ := map_eq_ok_iff.mp opening
        cases same
        exact isResolved
  | byMode path mode =>
      obtain ⟨_, isResolved, same⟩ := map_eq_ok_iff.mp opening
      cases same
      exact isResolved

/-! ## Requests over any store -/

namespace Facade

open Pool

section AnyStore

variable
  {σ : Type}
  [FileStore σ]
  {facade : Facade σ}
  {time : CallTime}
  {request : FileRequest}

/-- The side and the path of a request that finds no live entry of its key. -/
def misses (facade : Facade σ) (time : CallTime) (request : FileRequest) :
    Option (Side × Path) :=
  match facade.opening request with
  | .error _ => none
  | .ok (resolved, _) =>
      if (facade.pool request.side).contains time.starts resolved.key then none
      else some (request.side, resolved.path)

theorem misses_of_refused
    {error : IoError}
    (refused : facade.opening request = .error error)
    (time : CallTime) :
    facade.misses time request = none := by
  rw [misses, refused]

theorem misses_of_contains
    {resolved : Resolved}
    {event : FacadeEvent}
    (opening : facade.opening request = .ok (resolved, event))
    (hit : (facade.pool request.side).contains time.starts
      resolved.key = true) :
    facade.misses time request = none := by
  rw [misses, opening]
  exact if_pos hit

theorem misses_of_not_contains
    {resolved : Resolved}
    {event : FacadeEvent}
    (opening : facade.opening request = .ok (resolved, event))
    (missed : (facade.pool request.side).contains time.starts resolved.key =
      false) :
    facade.misses time request = some (request.side, resolved.path) := by
  rw [misses, opening]
  exact if_neg (ne_true_of_eq_false missed)

theorem of_misses
    {side : Side}
    {path : Path}
    (missed : facade.misses time request = some (side, path)) :
    ∃ resolved event, facade.opening request = .ok (resolved, event) ∧
      (facade.pool request.side).contains time.starts resolved.key = false ∧
      request.side = side ∧ resolved.path = path := by
  cases opening : facade.opening request with
  | error error => simp [misses_of_refused opening] at missed
  | ok opened =>
      obtain ⟨resolved, event⟩ := opened
      cases found :
        (facade.pool request.side).contains time.starts resolved.key with
      | true => simp [misses_of_contains opening found] at missed
      | false =>
          rw [misses_of_not_contains opening found] at missed
          cases missed
          exact ⟨resolved, event, rfl, found, rfl, rfl⟩

/-- What is missed is in normal form. -/
theorem isNormal_of_misses
    {side : Side}
    {path : Path}
    (missed : facade.misses time request = some (side, path)) :
    path.IsNormal := by
  obtain ⟨resolved, event, opening, -, -, rfl⟩ := of_misses missed
  exact Resolved.isNormal (FileRequest.ofPath_of_opening opening)

theorem request_of_refused
    {error : IoError}
    (refused : facade.opening request = .error error)
    (time : CallTime) :
    (facade.request time request).1 = .error error ∧
      Alike (facade.request time request).2 facade := by
  have opens := facade.opening_request time request
  rw [refused] at opens
  generalize facade.request time request = gave at opens ⊢
  cases opens with
  | refused _ alike => exact ⟨rfl, alike⟩

/-- A request that is not refused is a call to the pool on its side. -/
theorem request_of_opening
    {resolved : Resolved}
    {event : FacadeEvent}
    (opening : facade.opening request = .ok (resolved, event))
    (time : CallTime)
    {given : Answer × Pool FileHandle × σ}
    (gives : given = (facade.pool request.side).getOrOpen time resolved.key
      (FileStore.openFile resolved.path request.mode) facade.store) :
    (facade.request time request).1 =
        given.1.result.map (fun number => ⟨request.side, number⟩) ∧
      Same given.2.1 ((facade.request time request).2.pool request.side) ∧
      (facade.request time request).2.store = given.2.2 := by
  have opens := facade.opening_request time request
  rw [opening] at opens
  generalize facade.request time request = gave at opens ⊢
  cases opens with
  | asked _ _ noted answered =>
      rw [← noted.pools, ← noted.store_eq] at gives
      obtain ⟨result, pool, -, store⟩ :=
        openOn_eq _ request.side time resolved request.mode
        event gives
      rw [answered.pools, answered.store_eq]
      exact ⟨result, pool, store⟩

/-- A request changes the store only by opening what it misses. -/
theorem store_request
    (facade : Facade σ)
    (time : CallTime)
    (request : FileRequest) :
    (facade.request time request).2.store = facade.store ∧
        facade.misses time request = none ∨
      ∃ path, facade.misses time request = some (request.side, path) ∧
        (facade.request time request).2.store =
          (FileStore.openFile path request.mode facade.store).2 := by
  cases opening : facade.opening request with
  | error error =>
      exact .inl ⟨(request_of_refused opening time).2.store_eq,
        misses_of_refused opening time⟩
  | ok opened =>
      obtain ⟨resolved, event⟩ := opened
      obtain ⟨-, -, store⟩ := request_of_opening opening time rfl
      rw [store, (getOrOpen_eq_perform ..).2]
      cases found :
        (facade.pool request.side).contains time.starts resolved.key with
      | true => exact .inl ⟨rfl, misses_of_contains opening found⟩
      | false =>
          exact .inr ⟨resolved.path, misses_of_not_contains opening found, rfl⟩

/-- A request that misses is refused with the error of the
store, if it gives one. -/
theorem fst_request_of_misses
    {side : Side}
    {path : Path}
    {error : IoError}
    (coherent : (facade.pool request.side).Coherent)
    (missed : facade.misses time request = some (side, path))
    (fails : (FileStore.openFile path request.mode facade.store).1 =
      .error error) :
    (facade.request time request).1 = .error error := by
  obtain ⟨resolved, event, opening, missing, -, rfl⟩ := of_misses missed
  obtain ⟨answer, -, -⟩ := request_of_opening opening time rfl
  rw [answer, (coherent.getOrOpen_of_missing (contains_eq_false_iff.mp missing)
    _ _).1, fails]
  rfl

/-- A request that hits is answered with a handle, and the
store is not asked. -/
theorem request_of_hits
    (hit : facade.hits time (.request request) = true) :
    ∃ number, (facade.request time request).1 = .ok ⟨request.side, number⟩ ∧
      (facade.request time request).2.store = facade.store := by
  rw [hits] at hit
  split at hit
  · next resolved event opening =>
    obtain ⟨entry, live⟩ := Option.isSome_iff_exists.mp hit
    obtain ⟨answer, -, store⟩ := request_of_opening opening time rfl
    rw [answer, store, getOrOpen_of_some live]
    exact ⟨entry.handle, rfl, rfl⟩
  · cases hit

/-- Each pool goes on counting what misses it. -/
theorem missed_request
    {config : FacadeConfig}
    (holdsSome : ∀ side, (config.pool side).maxSize ≠ 0)
    (kept : ∀ side, (facade.pool side).Coherent ∧
      (facade.pool side).config = config.pool side)
    {missed : List (Side × Path)}
    (counts : ∀ side, Missed (missed.countP fun miss => miss.1 = side)
      (facade.pool side).counters)
    (time : CallTime)
    (request : FileRequest)
    (side : Side) :
    Missed ((missed ++ (facade.misses time request).toList).countP fun miss =>
      miss.1 = side)
      ((facade.request time request).2.pool side).counters := by
  rw [List.countP_append]
  cases opening : facade.opening request with
  | error error =>
      rw [(request_of_refused opening time).2.pools, misses_of_refused opening]
      exact counts side
  | ok opened =>
      obtain ⟨resolved, event⟩ := opened
      by_cases asked : side = request.side
      · subst asked
        obtain ⟨-, ⟨journal, same⟩, -⟩ := request_of_opening opening time rfl
        have poolHoldsSome : (facade.pool request.side).config.maxSize ≠ 0 := by
          rw [(kept request.side).2]
          exact holdsSome request.side
        have requested :=
          (counts request.side).getOrOpen (kept request.side).1
            poolHoldsSome time
          resolved.key (FileStore.openFile resolved.path request.mode)
            facade.store
        rw [same]
        cases found :
          (facade.pool request.side).contains time.starts resolved.key with
        | true =>
            rw [misses_of_contains opening found]
            rwa [found] at requested
        | false =>
            rw [misses_of_not_contains opening found, Option.toList_some,
              List.countP_singleton]
            rw [found] at requested
            simpa using requested
      · rw [pool_request_of_ne asked]
        have elsewhere : (facade.misses time request).toList.countP
            (fun miss => miss.1 = side) = 0 := by
          cases found :
            (facade.pool request.side).contains time.starts resolved.key with
          | true => rw [misses_of_contains opening found]; rfl
          | false => simp [misses_of_not_contains opening found, Ne.symm asked]
        rw [elsewhere]
        exact counts side

end AnyStore

/-! ## Other operations -/

section Operations

variable
  {σ : Type}
  [FileStore σ]
  {facade : Facade σ}
  {config : FacadeConfig}

/-- Pools stay coherent and as large as they were
configured, whatever is done. -/
theorem lasting_coherent
    (holdsSome : ∀ side, (config.pool side).maxSize ≠ 0) :
    Lasting (fun _ => True) fun side pool =>
      pool.Coherent ∧ pool.config = config.pool side where
  keysDiffer kept := kept.1.keysDiffer
  same kept same := by
    obtain ⟨coherent, config_eq⟩ := kept
    refine ⟨coherent.same same, ?_⟩
    obtain ⟨journal, rfl⟩ := same
    exact config_eq
  evolves kept evolves :=
    ⟨kept.1.evolves evolves, evolves.config_eq.trans kept.2⟩
  adopt kept missing _ :=
    ⟨kept.1.adopt missing _,
      (config_adopt kept.1.keysDiffer (by rw [kept.2]; exact holdsSome _)
      missing _).trans kept.2⟩
  withHandle kept _ _ _ := ⟨kept.1.withHandle _ _, kept.2⟩

omit [FileStore σ] in
/-- Whatever becomes of a handle that was given out, nothing is counted. -/
theorem counters_replace
    (facade : Facade σ)
    (issued : Issued)
    (handle : FileHandle)
    (side : Side) :
    ((facade.replace issued handle).pool side).counters =
      (facade.pool side).counters := by
  unfold replace change
  by_cases same : side = issued.side
  · subst same
    rw [pool_restore_self]
    rfl
  · rw [pool_restore_of_ne same]

/-- Operations that ask for no handle count nothing in the
pools but removals. -/
theorem agreeOnCalls_operate
    (holdsSome : ∀ side, (config.pool side).maxSize ≠ 0)
    (kept : ∀ side, (facade.pool side).Coherent ∧
      (facade.pool side).config = config.pool side)
    (time : CallTime)
    {operation : Operation σ}
    (asksNothing : operation.asksForHandle = false)
    (side : Side) :
    AgreeOnCalls (facade.pool side).counters
      ((facade.operate time operation).2.pool side).counters := by
  -- What an operation does to a pool is one call to it, or nothing.
  have called : ∀ call : PoolCall FileHandle, call.isRequest = false →
      AgreeOnCalls (facade.pool side).counters
        ((facade.pool side).perform time call).2.counters := fun _ quiet =>
    (kept side).1.agreeOnCalls_perform
      (by rw [(kept side).2]; exact holdsSome side) time quiet
  have mutated : ∀ {path after}, facade.Mutates time.starts path after →
      AgreeOnCalls (facade.pool side).counters (after.pool side).counters := by
    rintro path after (⟨error, _⟩ | ⟨resolved, command, _⟩)
    · exact agreeOnCalls_refl _
    · rw [pool_command, invalidate, pool_changeBoth]
      simpa only [Pool.perform] using called (.invalidate resolved.key) rfl
  cases operation with
  | request request => cases asksNothing
  | createFile path permissions =>
      exact mutated (facade.mutates_createFile time.starts path permissions)
  | delete path => exact mutated (facade.mutates_delete time.starts path)
  | createDirectories path => exact agreeOnCalls_refl _
  | setPermissions path permissions => exact agreeOnCalls_refl _
  | closeAll =>
      simp only [operate, closeAll]
      rw [pool_note, pool_changeBoth]
      simpa only [Pool.perform] using called .invalidateAll rfl
  | settle =>
      simp only [operate, settle]
      rw [pool_changeBoth]
      simpa only [Pool.perform] using called .settle rfl
  | inside asked call =>
      simp only [operate, callInside]
      by_cases same : side = asked
      · subst same
        rw [pool_restore_self]
        exact called call asksNothing
      · rw [pool_restore_of_ne same]
        exact agreeOnCalls_refl _
  | transfer issued transfer =>
      simp only [operate, Facade.transfer]
      split
      · exact agreeOnCalls_refl _
      · rw [counters_replace, pool_atStore]
        exact agreeOnCalls_refl _

end Operations

end Facade
end HandlePool
