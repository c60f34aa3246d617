import HandlePool.Proofs.Counters
import HandlePool.Proofs.Tracked
import HandlePool.Script.Guard
import Mathlib.Data.List.Induction

/-!
# The books of a guard

A script passes handles to a guard, in any order and any number of times, and
closes some of them directly in between.  From what a single call does follows
what a whole script does: the removals that were counted are the passages, those
of the passages that did not leave their handle open closed it, and no handle
fails to close twice.
-/

namespace HandlePool

/-- The counter of a cause. -/
def Counters.ofCause (counters : Counters) : RemovalCause → Nat
  | .invalidated => counters.invalidated
  | .sizeEvicted => counters.sizeEvicted
  | .expired => counters.expired
  | .replaced => counters.replaced

theorem Counters.ofCause_record
    (counters : Counters)
    (cause other : RemovalCause) :
    (counters.record (.removal cause)).ofCause other =
      counters.ofCause other + if other = cause then 1 else 0 := by
  cases cause <;> cases other <;> rfl

theorem Counters.removals_record
    (counters : Counters)
    (cause : RemovalCause) :
    (counters.record (.removal cause)).removals = counters.removals + 1 := by
  cases cause <;> simp only [record, removals] <;> omega

/-- What becomes of a handle that is to be closed: it fails if it is a failing
one that is still open. -/
def TrialHandle.outcome (handle : TrialHandle) : RemovalOutcome :=
  if handle.failsToClose = true ∧ handle.isOpen = true
    then .closeFailed else .closed

namespace TrialHandle

theorem outcome_ne_retained
    (handle : TrialHandle) :
    handle.outcome ≠ .retained := by
  unfold outcome
  split <;> nofun

theorem outcome_eq_closeFailed_iff
    (handle : TrialHandle) :
    handle.outcome = .closeFailed ↔ handle.failsToClose = true ∧
    handle.isOpen = true := by
  unfold outcome
  split
  · next fails => exact iff_of_true rfl fails
  · next fails => exact iff_of_false nofun fails

/-- The guard closes a handle that it is not to retain. -/
theorem release_eq
    {policy : ReplacePolicy}
    {cause : RemovalCause}
    (released : ¬(cause = .replaced ∧ policy = .retain))
    (counters : Counters)
    (key : String)
    (handle : TrialHandle) :
    (release policy counters key cause handle).handle = handle.close.2 ∧
      (release policy counters key cause handle).outcome = handle.outcome ∧
      (release policy counters key cause handle).counters =
        ((counters.record (.removal cause)).record .close).record .closeFailure
          (if handle.outcome = .closeFailed then 1 else 0) := by
  have closes : Handle.close handle = handle.close := rfl
  unfold release outcome
  rw [if_neg released, closes]
  by_cases fails : handle.failsToClose = true ∧ handle.isOpen = true
  · simp only [close, fails, and_self, Bool.and_self, if_true]
  · have closing : (handle.failsToClose && handle.isOpen) = false := by
      rwa [← Bool.and_eq_true, Bool.not_eq_true] at fails
    simp only [close, closing, fails, Bool.false_eq_true, if_false,
      reduceCtorEq, true_and]
    rfl

end TrialHandle

namespace GuardScript

variable {state final : State} {next : Step} {reply : Reply}

/-! ## One call -/

/-- The handle that a call is about, if it is about one
that was there before. -/
def Step.handle? : Step → Option Nat
  | .make _ => none
  | .remove number _ _ => some number
  | .close number => some number

/-- What a call makes of a state, and what it replies. -/
inductive Does (state : State) : Step → Reply → State → Prop
  | makes (handle : TrialHandle) :
      Does state (.make handle) (.made state.handles.length)
        { state with handles := state.handles ++ [handle] }
  | closes {number : Nat} {handle : TrialHandle} :
      state.handles[number]? = some handle →
      Does state (.close number) (.closed handle.close.1 handle.close.2)
        { state with handles := state.handles.set number handle.close.2 }
  | retains {number : Nat} {handle : TrialHandle} {key : String}
      {cause : RemovalCause} :
      state.handles[number]? = some handle →
      cause = .replaced ∧ state.policy = .retain →
      Does state (.remove number key cause) (.removed .retained handle)
        { state with counters := state.counters.record (.removal cause) }
  | releases {number : Nat} {handle : TrialHandle} {key : String}
      {cause : RemovalCause} :
      state.handles[number]? = some handle →
      ¬(cause = .replaced ∧ state.policy = .retain) →
      Does state (.remove number key cause)
        (.removed handle.outcome handle.close.2) { state with
          handles := state.handles.set number handle.close.2
          counters :=
            ((state.counters.record (.removal cause)).record .close).record
            .closeFailure (if handle.outcome = .closeFailed then 1 else 0) }
  | misses {number : Nat} {step : Step} :
      step.handle? = some number →
      state.handles[number]? = none →
      Does state step .nothing state

theorem does_step
    (state : State)
    (next : Step) :
    Does state next (step state next).1.reply (step state next).2 := by
  cases next with
  | make handle => exact .makes handle
  | close number =>
      cases present : state.handles[number]? with
      | none =>
          simp only [step, present]
          exact .misses rfl present
      | some handle =>
          simp only [step, present]
          exact .closes present
  | remove number key cause =>
      cases present : state.handles[number]? with
      | none =>
          simp only [step, present]
          exact .misses rfl present
      | some handle =>
          simp only [step, present]
          by_cases retained : cause = .replaced ∧ state.policy = .retain
          · obtain ⟨bounded, same⟩ := List.getElem?_eq_some_iff.mp present
            have unset : state.handles.set number handle = state.handles := by
              rw [← same]
              exact List.set_getElem_self bounded
            simp only [release, if_pos retained, unset]
            exact .retains present retained
          · obtain ⟨closed, became, counted⟩ :=
              TrialHandle.release_eq retained state.counters key handle
            rw [closed, became, counted]
            exact .releases present retained

theorem snapshot_step
    (state : State)
    (next : Step) :
    (step state next).1.snapshot = (step state next).2.counters.snapshot := by
  cases next with
  | make handle => rfl
  | close number =>
      simp only [step]
      split <;> rfl
  | remove number key cause =>
      simp only [step]
      split <;> rfl

/-- Handles that a call is not about stay as they are. -/
theorem Does.handle?_eq
    (does : Does state next reply final)
    {other : Nat}
    (made : other < state.handles.length)
    (apart : next.handle? ≠ some other) :
    final.handles[other]? = state.handles[other]? := by
  cases does with
  | makes handle => exact List.getElem?_append_left made
  | closes _ | releases _ _ =>
      exact List.getElem?_set_ne fun same => apart (congrArg some same)
  | retains _ _ => rfl
  | misses _ _ => rfl

/-- Only removals are counted. -/
theorem Does.counters_eq
    (does : Does state next reply final)
    (otherCall : ∀ number key cause, next ≠ .remove number key cause) :
    final.counters = state.counters := by
  cases does with
  | makes _ | closes _ | misses _ _ => rfl
  | retains _ _ | releases _ _ => exact absurd rfl (otherCall _ _ _)

/-- What removing a handle does: its cause is counted once, and no other cause;
it stays open where it is to be retained, else it is closed once, which fails
exactly if it is a failing one that was open. -/
structure Removes (state : State) (number : Nat) (handle : TrialHandle)
    (cause : RemovalCause) (outcome : RemovalOutcome)
      (final : State) : Prop where
  ofCause_eq : ∀ other, final.counters.ofCause other =
    state.counters.ofCause other + if other = cause then 1 else 0
  calls_eq : final.counters.hits = state.counters.hits ∧
    final.counters.misses = state.counters.misses ∧
    final.counters.opens = state.counters.opens ∧
    final.counters.openFailures = state.counters.openFailures
  retained_iff : outcome = .retained ↔
    cause = .replaced ∧ state.policy = .retain
  of_retained : outcome = .retained → final.handles = state.handles ∧
    final.counters.closes = state.counters.closes ∧
    final.counters.closeFailures = state.counters.closeFailures
  of_closed : outcome ≠ .retained →
    final.handles[number]? =
      some { handle with isOpen := false, closeCalls :=
        handle.closeCalls + 1 } ∧
    final.counters.closes = state.counters.closes + 1 ∧
    (outcome = .closeFailed ↔ handle.failsToClose = true ∧
      handle.isOpen = true) ∧
    final.counters.closeFailures =
      state.counters.closeFailures + if outcome = .closeFailed then 1 else 0

theorem Does.removes
    {number : Nat}
    {key : String}
    {cause : RemovalCause}
    {handle : TrialHandle}
    (does : Does state (.remove number key cause) reply final)
    (present : state.handles[number]? = some handle) :
    ∃ outcome left, reply = .removed outcome left ∧
      Removes state number handle cause outcome final := by
  cases does with
  | retains found retained =>
      refine ⟨_, _, rfl, ?_, ?_, iff_of_true rfl retained, fun _ => ?_,
        fun closed => absurd rfl closed⟩
      · exact state.counters.ofCause_record cause
      · cases cause <;> exact ⟨rfl, rfl, rfl, rfl⟩
      · cases cause <;> exact ⟨rfl, rfl, rfl⟩
  | @releases _ found _ _ isFound released =>
      obtain rfl : handle = found :=
        Option.some.inj (present.symm.trans isFound)
      have bounded : number < state.handles.length :=
        (List.getElem?_eq_some_iff.mp present).1
      have closed := handle.outcome_ne_retained
      refine ⟨_, _, rfl, fun other => ?_, ?_, iff_of_false closed released,
        fun retained => absurd retained closed, fun _ => ?_⟩
      · rw [← state.counters.ofCause_record cause other]
        cases other <;> rfl
      · cases cause <;> exact ⟨rfl, rfl, rfl, rfl⟩
      · refine ⟨List.getElem?_set_self bounded, ?_,
          handle.outcome_eq_closeFailed_iff, ?_⟩
        · cases cause <;> rfl
        · cases cause <;> rfl
  | misses named absent =>
      cases named
      rw [present] at absent
      cases absent

/-! ## Whole scripts -/

/-- The state after some calls. -/
def after (state : State) (steps : List Step) : State :=
  steps.foldl (fun state next => (step state next).2) state

/-- The handle that a call passed to the guard, and what became of it. -/
def passage? : Step → Reply → Option (Nat × RemovalOutcome)
  | .remove number _ _, .removed outcome _ => some (number, outcome)
  | _, _ => none

/-- What was passed to the guard in a script, and what
became of it, in order. -/
def passages (state : State) (steps : List Step) :
    List (Nat × RemovalOutcome) :=
  (steps.zip (runFrom state steps)).filterMap fun call =>
    passage? call.1 call.2.reply

theorem runFrom_append
    (state : State)
    (past later : List Step) :
    runFrom state (past ++ later) =
      runFrom state past ++ runFrom (after state past) later := by
  induction past generalizing state with
  | nil => rfl
  | cons next past inductionHypothesis =>
      have passed := inductionHypothesis (step state next).2
      exact congrArg ((step state next).1 :: ·) passed

theorem length_runFrom
    (state : State)
    (steps : List Step) :
    (runFrom state steps).length = steps.length := by
  induction steps generalizing state with
  | nil => rfl
  | cons next later inductionHypothesis =>
      exact congrArg (· + 1) (inductionHypothesis (step state next).2)

theorem after_concat
    (state : State)
    (past : List Step)
    (next : Step) :
    after state (past ++ [next]) = (step (after state past) next).2 := by
  rw [after, List.foldl_append]
  rfl

theorem passages_concat
    (state : State)
    (past : List Step)
    (next : Step) :
    passages state (past ++ [next]) =
      passages state past ++
        (passage? next (step (after state past) next).1.reply).toList := by
  rw [passages, runFrom_append,
    List.zip_append (length_runFrom state past).symm,
    List.filterMap_append]
  rfl

/-- The counters agree with what was passed to the guard, and a handle
that could not be closed is a failing one, was open that one time
only, and is closed now. -/
structure Balanced (passages : List (Nat × RemovalOutcome))
    (state : State) : Prop where
  removals_eq : state.counters.removals = passages.length
  closes_eq : state.counters.closes + passages.countP (·.2 = .retained) =
    passages.length
  closeFailures_eq : state.counters.closeFailures =
    passages.countP (·.2 = .closeFailed)
  failed : ∀ number, (number, RemovalOutcome.closeFailed) ∈ passages →
    passages.count (number, .closeFailed) = 1 ∧
    ∃ handle, state.handles[number]? = some handle ∧
      handle.failsToClose = true ∧ handle.isOpen = false

/-- Handles stay what they are, and closed ones stay closed. -/
theorem Does.exists_handle
    (does : Does state next reply final)
    {number : Nat}
    {handle : TrialHandle}
    (present : state.handles[number]? = some handle) :
    ∃ kept, final.handles[number]? = some kept ∧
      kept.failsToClose = handle.failsToClose ∧
      (handle.isOpen = false → kept.isOpen = false) := by
  have bounded : number < state.handles.length :=
    (List.getElem?_eq_some_iff.mp present).1
  by_cases about : next.handle? = some number
  · cases does with
    | makes _ => cases about
    | closes isFound | releases isFound _ =>
        cases about
        obtain rfl := Option.some.inj (present.symm.trans isFound)
        exact ⟨handle.close.2, List.getElem?_set_self bounded,
          rfl, fun _ => rfl⟩
    | retains _ _ => exact ⟨handle, present, rfl, id⟩
    | misses _ _ => exact ⟨handle, present, rfl, id⟩
  · exact ⟨handle, (does.handle?_eq bounded about).trans present, rfl, id⟩

/-- Only a failing handle that is open cannot be closed, and
is closed by that. -/
theorem Does.of_failed
    (does : Does state next reply final)
    {number : Nat}
    (isFailed : passage? next reply = some (number, .closeFailed)) :
    ∃ handle, state.handles[number]? = some handle ∧ handle.isOpen = true ∧
      ∃ closed, final.handles[number]? = some closed ∧
        closed.failsToClose = true ∧ closed.isOpen = false := by
  cases does with
  | @releases _ handle _ _ isFound _ =>
      simp only [passage?, Option.some.injEq, Prod.mk.injEq] at isFailed
      obtain ⟨rfl, fails⟩ := isFailed
      obtain ⟨failing, isOpen⟩ := handle.outcome_eq_closeFailed_iff.mp fails
      have bounded := (List.getElem?_eq_some_iff.mp isFound).1
      exact ⟨handle, isFound, isOpen, handle.close.2,
        List.getElem?_set_self bounded, failing, rfl⟩
  | misses _ _ => cases next <;> cases isFailed
  | _ => cases isFailed

/-- Removals are counted with what becomes of the handle. -/
theorem Does.counts
    (does : Does state next reply final) :
    let passed := (passage? next reply).toList
    final.counters.removals = state.counters.removals + passed.length ∧
      final.counters.closes + passed.countP (·.2 = .retained) =
        state.counters.closes + passed.length ∧
      final.counters.closeFailures =
        state.counters.closeFailures + passed.countP (·.2 = .closeFailed) := by
  cases does with
  | makes _ | closes _ => exact ⟨rfl, rfl, rfl⟩
  | misses _ _ => cases next <;> exact ⟨rfl, rfl, rfl⟩
  | @retains _ _ _ cause _ _ =>
      refine ⟨state.counters.removals_record cause, ?_, ?_⟩
      · cases cause <;> rfl
      · cases cause <;> rfl
  | @releases _ handle _ cause _ _ =>
      have closed := handle.outcome_ne_retained
      refine ⟨state.counters.removals_record cause, ?_, ?_⟩
      · cases cause <;> simp [passage?, Counters.record, closed]
      · cases cause <;> simp [passage?, Counters.record]

theorem Balanced.does
    {passages : List (Nat × RemovalOutcome)}
    (balanced : Balanced passages state)
    (does : Does state next reply final) :
    Balanced (passages ++ (passage? next reply).toList) final := by
  obtain ⟨removals, closes, closeFailures⟩ := does.counts
  refine ⟨?_, ?_, ?_, fun number isFailed => ?_⟩
  · rw [removals, balanced.removals_eq, List.length_append]
  · rw [List.countP_append, List.length_append, ← balanced.closes_eq]
    omega
  · rw [closeFailures, balanced.closeFailures_eq, List.countP_append]
  rw [List.count_append]
  obtain before | now := List.mem_append.mp isFailed
  · obtain ⟨once, handle, present, failing, isClosed⟩ :=
      balanced.failed number before
    obtain ⟨kept, isKept, same, staysClosed⟩ := does.exists_handle present
    have notAgain : (number, RemovalOutcome.closeFailed) ∉
        (passage? next reply).toList := by
      intro again
      obtain ⟨found, isFound, isOpen, -⟩ :=
        does.of_failed (Option.mem_toList.mp again)
      obtain rfl := Option.some.inj (present.symm.trans isFound)
      rw [isClosed] at isOpen
      cases isOpen
    rw [once, List.count_eq_zero.mpr notAgain]
    exact ⟨rfl, kept, isKept, same.trans failing, staysClosed isClosed⟩
  · have isNow := Option.mem_toList.mp now
    obtain ⟨handle, present, isOpen, closed⟩ := does.of_failed isNow
    have notBefore : (number, RemovalOutcome.closeFailed) ∉ passages := by
      intro before
      obtain ⟨-, found, isFound, -, isClosed⟩ := balanced.failed number before
      obtain rfl := Option.some.inj (present.symm.trans isFound)
      rw [isClosed] at isOpen
      cases isOpen
    rw [List.count_eq_zero.mpr notBefore, isNow, Option.toList_some,
      List.count_singleton_self]
    exact ⟨rfl, closed⟩

/-- A guard that has not been called yet. -/
def start (name : String) (policy : ReplacePolicy) : State :=
  { name := name, policy := policy }

theorem balanced_passages
    (name : String)
    (policy : ReplacePolicy)
    (steps : List Step) :
    Balanced (passages (start name policy) steps)
      (after (start name policy) steps) := by
  induction steps using List.reverseRecOn with
  | nil => exact ⟨rfl, rfl, rfl, nofun⟩
  | append_singleton past next inductionHypothesis =>
      rw [passages_concat, after_concat]
      exact inductionHypothesis.does (does_step _ next)

/-- Counters that agree with less than 2 ^ 64 passages are shown in 64 bits. -/
theorem Balanced.snapshot
    {passages : List (Nat × RemovalOutcome)}
    (balanced : Balanced passages state)
    (fits : passages.length < UInt64.size) :
    (∃ sum, state.counters.snapshot.removals = .ok sum ∧
      sum.toNat = passages.length) ∧
      state.counters.snapshot.closes.toNat = state.counters.closes ∧
      state.counters.snapshot.closeFailures.toNat =
        state.counters.closeFailures := by
  have closes := balanced.closes_eq
  have closeFailures := balanced.closeFailures_eq
  have failed : passages.countP (·.2 = .closeFailed) ≤ passages.length :=
    List.countP_le_length
  rw [← balanced.removals_eq] at fits ⊢
  rw [← balanced.removals_eq] at closes failed
  refine ⟨state.counters.removals_snapshot fits, ?_, ?_⟩
  · exact Counters.toNat_toUInt64 (by omega)
  · exact Counters.toNat_toUInt64 (by omega)

/-- At every point of every script, the counters of the guard agree with what
was passed to it so far, and no handle has failed to close twice.  The next
call changes no handle but the one it is about, and no counter unless it is a
removal; a removal counts its cause once, leaves the handle open exactly if
it was replaced and is to be retained, and closes it once in every other
case, which fails exactly if it is a failing handle that was open.  The
counters are shown after the call, in 64 bits as long as less than 2 ^ 64
handles were passed to the guard. -/
theorem every_removal_booked
    (name : String)
    (policy : ReplacePolicy)
    (past : List Step)
    (next : Step)
    (later : List Step) :
    let state := after (start name policy) past
    let answer := step state next
    let passed := passages (start name policy) (past ++ [next])
    (run name policy (past ++ next :: later))[past.length]? = some answer.1 ∧
      after (start name policy) (past ++ [next]) = answer.2 ∧
      Balanced (passages (start name policy) past) state ∧
      (∀ other, other < state.handles.length → next.handle? ≠ some other →
        answer.2.handles[other]? = state.handles[other]?) ∧
      ((∀ number key cause, next ≠ .remove number key cause) →
        answer.2.counters = state.counters) ∧
      (∀ number key cause handle, next = .remove number key cause →
        state.handles[number]? = some handle →
        ∃ outcome left, answer.1.reply = .removed outcome left ∧
          passed = passages (start name policy) past ++ [(number, outcome)] ∧
          Removes state number handle cause outcome answer.2) ∧
      (passed.length < UInt64.size →
        (∃ sum, answer.1.snapshot.removals = .ok sum ∧
          sum.toNat = passed.length) ∧
        answer.1.snapshot.closes.toNat = answer.2.counters.closes ∧
        answer.1.snapshot.closeFailures.toNat =
          answer.2.counters.closeFailures) := by
  intro state answer passed
  have does : Does state next answer.1.reply answer.2 := does_step state next
  have isNext : after (start name policy) (past ++ [next]) = answer.2 :=
    after_concat _ past next
  refine ⟨?_, isNext, balanced_passages name policy past, ?_, does.counters_eq,
    ?_, fun fits => ?_⟩
  · have front := length_runFrom (start name policy) past
    rw [run, ← start, runFrom_append,
      List.getElem?_append_right (Nat.le_of_eq front), front,
      Nat.sub_self]
    rfl
  · exact fun other made apart => does.handle?_eq made apart
  · rintro number key cause handle rfl present
    obtain ⟨outcome, left, replied, removes⟩ := does.removes present
    refine ⟨outcome, left, replied, ?_, removes⟩
    change passages (start name policy) (past ++ [_]) = _
    rw [passages_concat]
    change passages (start name policy) past ++
        (passage? _ answer.1.reply).toList = _
    rw [replied]
    rfl
  · have balanced := balanced_passages name policy (past ++ [next])
    rw [isNext] at balanced
    have shown : answer.1.snapshot = answer.2.counters.snapshot :=
      snapshot_step state next
    rw [shown]
    exact balanced.snapshot fits

/-- A failing handle is retained when it is replaced, and fails to close when it
is removed for its size; another one is closed directly. -/
def failingCalls : List Step :=
  [ .make { tag := 7, failsToClose := true }, .make { tag := 8 },
    .remove 0 "/a" .replaced, .remove 0 "/a" .sizeEvicted, .close 1 ]

/-- The failing handle is removed once more, which does not fail again. -/
theorem every_removal_booked_of_failing :
    let state := after (start "trial" .retain) failingCalls
    let next : Step := .remove 0 "/a" .expired
    let answer := step state next
    let passed := passages (start "trial" .retain) (failingCalls ++ [next])
    1 < state.handles.length ∧ next.handle? ≠ some 1 ∧
      answer.2.handles[1]? = some ⟨8, false, false, 1⟩ ∧
      state.handles[0]? = some ⟨7, true, false, 1⟩ ∧
      answer.2.handles[0]? = some ⟨7, true, false, 2⟩ ∧
      passed = [(0, .retained), (0, .closeFailed), (0, .closed)] ∧
      answer.2.counters.ofCause .expired = state.counters.ofCause .expired + 1 ∧
      ∃ sum, answer.1.snapshot.removals = .ok sum ∧ sum.toNat = 3 := by
  intro state next answer passed
  have made : 1 < state.handles.length := by decide
  have apart : next.handle? ≠ some 1 := by decide
  have present : state.handles[0]? = some ⟨7, true, false, 1⟩ := by decide
  have all : passed = [(0, .retained), (0, .closeFailed), (0, .closed)] := by
    decide
  obtain ⟨-, -, -, others, -, removal, shown⟩ :=
    every_removal_booked "trial" .retain failingCalls next []
  obtain ⟨outcome, left, replied, added, removes⟩ :=
    removal 0 "/a" .expired _ rfl present
  have isClosed : outcome = .closed := by
    cases replied
    rfl
  have closed := (removes.of_closed (by rw [isClosed]; nofun)).1
  have fits : passed.length < UInt64.size := by
    rw [all]
    decide
  obtain ⟨sum, isSum, sum_eq⟩ := (shown fits).1
  refine ⟨made, apart, (others 1 made apart).trans (by decide),
    present, closed, all, removes.ofCause_eq .expired, sum, isSum, ?_⟩
  change sum.toNat = passed.length at sum_eq
  rw [sum_eq, all]
  rfl

end GuardScript
end HandlePool
