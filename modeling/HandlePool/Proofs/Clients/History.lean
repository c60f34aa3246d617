import HandlePool.Proofs.Clients.Order

/-!
# What openers did

Every handle that is kept under a key, or will be, was opened for that key, and
noted.  No number is given out twice.  What a client finds under a key is the
handle of the opening that returned last, since nobody opens a handle for a key
that has a live entry.

A handle that is not tied to a key any more will never be again.
-/

namespace HandlePool

variable {ι σ η : Type}

namespace System

/-- The handle is kept under the key, or some client brings it to be kept. -/
def Tied (system : System ι σ η) (place : ι) (key : String)
    (number : Nat) : Prop :=
  (system.pools place).Keeps key number ∨
    ∃ name, system.Brings name place key number

/-- The handle can be found under the key, or some client
brings it to be kept. -/
def Shows (system : System ι σ η) (place : ι) (key : String)
    (number : Nat) : Prop :=
  (∃ entry, (system.pools place).live? system.now key = some entry ∧
      entry.handle = number) ∨
    ∃ name, system.Brings name place key number

variable [DecidableEq ι]

/-- The opening for a key that returned last. -/
def latest? (system : System ι σ η) (place : ι) (key : String) :
    Option (Opening ι) :=
  (system.openings.filter fun opening =>
    decide (opening.place = place ∧ opening.key = key)).getLast?

variable {stripe : ι → String → Nat} {system final : System ι σ η}

theorem latest?_of_concat_self
    {opening : Opening ι}
    (noted : final.openings = system.openings ++ [opening]) :
    final.latest? opening.place opening.key = some opening := by
  rw [latest?, noted, List.filter_append, List.filter_singleton]
  simp

theorem latest?_of_concat_of_ne
    {opening : Opening ι}
    (noted : final.openings = system.openings ++ [opening])
    {place : ι}
    {key : String}
    (different : ¬(opening.place = place ∧ opening.key = key)) :
    final.latest? place key = system.latest? place key := by
  rw [latest?, noted, List.filter_append, List.filter_singleton, latest?]
  simp [different]

theorem latest?_congr
    (same : final.openings = system.openings)
    (place : ι)
    (key : String) :
    final.latest? place key = system.latest? place key := by
  rw [latest?, same, latest?]

section Tied

variable [TrackedHandle η]
variable {configs : ι → PoolConfig} {conduct : Conduct σ η}

/-- No handle is tied to a key again, but new ones may be. -/
theorem Step.tied
    {move : Move ι σ η}
    (orderly : Orderly stripe configs conduct system)
    (step : Step stripe system move final)
    {place : ι}
    {key : String}
    {number : Nat}
    (tied : final.Tied place key number) :
    system.Tied place key number ∨
      (system.pools place).handles.length = number ∧
        ∃ name serial, system.Runs name place key serial ∧
          final.openings = system.openings ++
            [⟨serial, place, key, .ok number⟩] := by
  obtain quiet | ⟨_, changed, _, _, _, _, _, _, enrolls⟩ |
    ⟨name, changed, keptKey, kept, brings, keeps⟩ := step.quiet_or
  · left
    obtain keeps | ⟨name, brings⟩ := tied
    · exact .inl ((quiet.evolves place).keeps keeps)
    · exact .inr ⟨name, (quiet.brings_iff ..).mp brings⟩
  · obtain keeps | ⟨name, brings⟩ := tied
    · refine .inl (.inl ?_)
      by_cases same : place = changed
      · subst same
        rwa [enrolls.pool_eq] at keeps
      · rwa [enrolls.pool_eq_of_ne same] at keeps
    · obtain before | ⟨rfl, rfl, rfl, rfl⟩ := (enrolls.brings_iff ..).mp brings
      · exact .inl (.inr ⟨name, before⟩)
      · exact .inr ⟨rfl, name, _, enrolls.runs, enrolls.openings_eq⟩
  · left
    obtain keepsAfter | ⟨other, otherBrings⟩ := tied
    · by_cases same : place = changed
      · subst same
        rw [keeps.pool_eq] at keepsAfter
        have missing := orderly.missing name place keptKey (.inr ⟨kept, brings⟩)
        obtain before | ⟨rfl, rfl⟩ :=
          Pool.keeps_insert (orderly.keysDiffer place) missing keepsAfter
        · exact .inl before
        · exact .inr ⟨name, brings⟩
      · rw [keeps.pool_eq_of_ne same] at keepsAfter
        exact .inl keepsAfter
    · exact .inr ⟨other, ((keeps.brings_iff ..).mp otherBrings).1⟩

theorem Step.length_handles_le
    {move : Move ι σ η}
    (step : Step stripe system move final)
    (place : ι) :
    (system.pools place).handles.length ≤
      (final.pools place).handles.length := by
  obtain quiet | ⟨_, _, _, _, _, _, _, _, enrolls⟩ | ⟨_, _, _, _, _, keeps⟩ :=
    step.quiet_or
  · exact Nat.le_of_eq (quiet.evolves place).length_handles_eq.symm
  · exact enrolls.length_handles_le place
  · exact Nat.le_of_eq (keeps.length_handles place).symm

theorem Step.started_le
    {move : Move ι σ η}
    (step : Step stripe system move final) :
    system.started ≤ final.started := by
  cases step with
  | starts _ _ _ _ => exact Nat.le_succ _
  | _ => exact Nat.le_refl _

/-- An opener that runs did so before, or was started by the move. -/
theorem Step.runs_cases
    {move : Move ι σ η}
    (step : Step stripe system move final)
    {name : Nat}
    {place : ι}
    {key : String}
    {serial : Nat}
    (runs : final.Runs name place key serial) :
    system.Runs name place key serial ∨
      serial = system.started ∧ final.started = system.started + 1 := by
  obtain ⟨opener, located⟩ := runs
  obtain before | ⟨-, arrives⟩ := step.at_cases located
  · exact .inl ⟨opener, before⟩
  · cases arrives with
    | entered _ stages =>
        obtain ⟨_, isRecheck⟩ | ⟨_, isRemoval⟩ := stages
        · cases isRecheck
        · cases isRemoval
    | started _ _ _ counted => exact .inr ⟨rfl, counted⟩

/-- A move notes at most what one opener did, and gives a new
number to its handle. -/
theorem Step.openings_cases
    {move : Move ι σ η}
    (step : Step stripe system move final) :
    final.openings = system.openings ∨
      ∃ name opening, system.Runs name opening.place opening.key
        opening.serial ∧ final.openings = system.openings ++ [opening] ∧
        ∀ number, opening.result = .ok number →
          number = (system.pools opening.place).handles.length ∧
            number < (final.pools opening.place).handles.length := by
  obtain quiet | ⟨name, place, key, serial, _, _, _, _, enrolls⟩ |
      ⟨_, _, _, _, _, keeps⟩ :=
    step.quiet_or
  · obtain same | ⟨name, place, key, serial, error, running, noted⟩ :=
      quiet.openings
    · exact .inl same
    · refine .inr ⟨name, ⟨serial, place, key, .error error⟩, running, noted, ?_⟩
      rintro number ⟨⟩
  · refine .inr ⟨name, _, enrolls.runs, enrolls.openings_eq, ?_⟩
    rintro number ⟨⟩
    refine ⟨rfl, ?_⟩
    rw [enrolls.length_handles]
    exact Nat.lt_succ_self _
  · exact .inl keeps.openings_eq

omit [DecidableEq ι] in
/-- No handle is found under a key for which an opener runs. -/
theorem Orderly.not_shows
    (orderly : Orderly stripe configs conduct system)
    {name : Nat}
    {place : ι}
    {key : String}
    {serial : Nat}
    (running : system.Runs name place key serial)
    (number : Nat) :
    ¬system.Shows place key number := by
  rintro (⟨entry, found, -⟩ | ⟨other, brings⟩)
  · rw [orderly.missing name place key (.inl ⟨serial, running⟩)] at found
    cases found
  · obtain ⟨opener, located⟩ := running
    obtain rfl := orderly.locked.unique located.inside brings.inside rfl
    cases (located.unique brings).2.2

end Tied

/-! ## The record of openings -/

section Logged

variable [TrackedHandle η]
variable {configs : ι → PoolConfig} {conduct : Conduct σ η}

/-- The record of openings agrees with what is kept and what clients do. -/
structure Logged (system : System ι σ η) : Prop where
  numbered : ∀ opening ∈ system.openings, ∀ number,
    opening.result = .ok number →
    number < (system.pools opening.place).handles.length
  /-- A handle was opened for one key. -/
  keyed : ∀ left ∈ system.openings, ∀ right ∈ system.openings, ∀ number,
    left.place = right.place → left.result = .ok number →
    right.result = .ok number →
      left.key = right.key
  tied : ∀ place key number, system.Tied place key number →
    ∃ opening ∈ system.openings, opening.place = place ∧ opening.key = key ∧
      opening.result = .ok number
  latest : ∀ place key number, system.Shows place key number →
    ∃ opening, system.latest? place key = some opening ∧
      opening.result = .ok number
  runs : ∀ name place key serial, system.Runs name place key serial →
    serial < system.started
  noted : ∀ opening ∈ system.openings, opening.serial < system.started

omit [DecidableEq ι] in
theorem Quiet.shows
    (orderly : Orderly stripe configs conduct system)
    (quiet : Quiet system final)
    (inOrder : system.now ≤ final.now)
    {place : ι}
    {key : String}
    {number : Nat}
    (shows : final.Shows place key number) :
    system.Shows place key number := by
  obtain ⟨entry, found, numbered⟩ | ⟨name, brings⟩ := shows
  · have evolves := quiet.evolves place
    have differ := orderly.keysDiffer place
    have foundBefore :=
      (evolves.keysDiffer differ).live?_eq_some_of_le inOrder found
    obtain ⟨earlier, live, sameHandle⟩ :=
      evolves.live?_origin differ foundBefore
    exact .inl ⟨earlier, live, sameHandle.trans numbered⟩
  · exact .inr ⟨name, (quiet.brings_iff ..).mp brings⟩

theorem Keeps.shows
    (orderly : Orderly stripe configs conduct system)
    {name : Nat}
    {changed : ι}
    {keptKey : String}
    {kept : Nat}
    (brings : system.Brings name changed keptKey kept)
    (keeps : Keeps system final name changed keptKey kept)
    {place : ι}
    {key : String}
    {number : Nat}
    (shows : final.Shows place key number) :
    system.Shows place key number := by
  obtain ⟨entry, found, numbered⟩ | ⟨other, otherBrings⟩ := shows
  · rw [keeps.now_eq] at found
    by_cases samePlace : place = changed
    · subst samePlace
      have differ := orderly.keysDiffer place
      have missing := orderly.missing name place keptKey (.inr ⟨kept, brings⟩)
      rw [keeps.pool_eq] at found
      by_cases sameKey : key = keptKey
      · subst sameKey
        have isKept := Pool.handle_eq_of_live?_insert differ missing found
        rw [← numbered, isKept]
        exact .inr ⟨name, brings⟩
      · rw [Pool.live?_insert_of_ne differ missing _ sameKey] at found
        exact .inl ⟨entry, found, numbered⟩
    · rw [keeps.pool_eq_of_ne samePlace] at found
      exact .inl ⟨entry, found, numbered⟩
  · exact .inr ⟨other, ((keeps.brings_iff ..).mp otherBrings).1⟩

omit [TrackedHandle η] in
theorem Enrolls.shows
    {name : Nat}
    {changed : ι}
    {openedKey : String}
    {serial : Nat}
    {handle : η}
    (enrolls : Enrolls system final name changed openedKey serial handle)
    {place : ι}
    {key : String}
    {number : Nat}
    (shows : final.Shows place key number) :
    system.Shows place key number ∨
      place = changed ∧ key = openedKey ∧
        number = (system.pools changed).handles.length := by
  obtain ⟨entry, found, numbered⟩ | ⟨other, brings⟩ := shows
  · rw [enrolls.live?_eq] at found
    exact .inl (.inl ⟨entry, found, numbered⟩)
  · obtain before | ⟨-, same⟩ := (enrolls.brings_iff ..).mp brings
    · exact .inl (.inr ⟨other, before⟩)
    · exact .inr same

/-- What is shown was shown before, or has just got the next number. -/
theorem Step.shows
    {move : Move ι σ η}
    (orderly : Orderly stripe configs conduct system)
    (step : Step stripe system move final)
    {place : ι}
    {key : String}
    {number : Nat}
    (shows : final.Shows place key number) :
    system.Shows place key number ∨
    (system.pools place).handles.length = number := by
  obtain quiet | ⟨_, _, _, _, _, _, _, _, enrolls⟩ |
      ⟨_, _, _, _, brings, keeps⟩ :=
    step.quiet_or
  · exact .inl (quiet.shows orderly step.now_le shows)
  · obtain before | ⟨rfl, -, rfl⟩ := enrolls.shows shows
    · exact .inl before
    · exact .inr rfl
  · exact .inl (keeps.shows orderly brings shows)

theorem Step.latest
    {move : Move ι σ η}
    (orderly : Orderly stripe configs conduct system)
    (logged : Logged system)
    (step : Step stripe system move final)
    (place : ι)
    (key : String)
    (number : Nat)
    (shows : final.Shows place key number) :
    ∃ opening, final.latest? place key = some opening ∧
      opening.result = .ok number := by
  obtain quiet | ⟨name, changed, openedKey, serial, _, _, _, _, enrolls⟩ |
    ⟨_, _, _, _, brings, keeps⟩ := step.quiet_or
  · have before := quiet.shows orderly step.now_le shows
    obtain same | ⟨name, changed, failedKey, serial, error, running, noted⟩ :=
      quiet.openings
    · rw [latest?_congr same]
      exact logged.latest place key number before
    · rw [latest?_of_concat_of_ne noted]
      · exact logged.latest place key number before
      · rintro ⟨rfl, rfl⟩
        exact orderly.not_shows running number before
  · obtain before | ⟨rfl, rfl, rfl⟩ := enrolls.shows shows
    · rw [latest?_of_concat_of_ne enrolls.openings_eq]
      · exact logged.latest place key number before
      · rintro ⟨rfl, rfl⟩
        exact orderly.not_shows enrolls.runs number before
    · exact ⟨_, latest?_of_concat_self enrolls.openings_eq, rfl⟩
  · rw [latest?_congr keeps.openings_eq]
    exact logged.latest place key number (keeps.shows orderly brings shows)

/-- Every move keeps the record in agreement. -/
theorem Logged.step
    {move : Move ι σ η}
    (orderly : Orderly stripe configs conduct system)
    (logged : Logged system)
    (step : Step stripe system move final) :
    Logged final := by
  have kept : ∀ opening ∈ system.openings, opening ∈ final.openings := by
    obtain same | ⟨_, _, _, noted, _⟩ := step.openings_cases
    · simp [same]
    · simp only [noted, List.mem_append]
      exact fun _ present => .inl present
  constructor
  · intro opening present number opened
    obtain same | ⟨_, newest, _, noted, new⟩ := step.openings_cases
    · rw [same] at present
      exact Nat.lt_of_lt_of_le (logged.numbered opening present number opened)
        (step.length_handles_le _)
    · rw [noted, List.mem_append, List.mem_singleton] at present
      obtain before | rfl := present
      · exact Nat.lt_of_lt_of_le (logged.numbered opening before number opened)
          (step.length_handles_le _)
      · exact (new number opened).2
  · intro left leftPresent right rightPresent number samePlace
      leftOpened rightOpened
    obtain same | ⟨_, newest, _, noted, new⟩ := step.openings_cases
    · rw [same] at leftPresent rightPresent
      exact logged.keyed left leftPresent right rightPresent number
        samePlace leftOpened rightOpened
    · rw [noted, List.mem_append, List.mem_singleton]
        at leftPresent rightPresent
      obtain leftBefore | rfl := leftPresent
      · obtain rightBefore | rfl := rightPresent
        · exact logged.keyed left leftBefore right rightBefore number
            samePlace leftOpened rightOpened
        · have small := logged.numbered left leftBefore number leftOpened
          rw [samePlace, (new number rightOpened).1] at small
          exact absurd small (Nat.lt_irrefl _)
      · obtain rightBefore | rfl := rightPresent
        · have small := logged.numbered right rightBefore number rightOpened
          rw [← samePlace, (new number leftOpened).1] at small
          exact absurd small (Nat.lt_irrefl _)
        · rfl
  · intro place key number tied
    obtain before | ⟨-, name, serial, -, noted⟩ := step.tied orderly tied
    · obtain ⟨opening, present, made⟩ := logged.tied place key number before
      exact ⟨opening, kept opening present, made⟩
    · refine ⟨⟨serial, place, key, .ok number⟩, ?_, rfl, rfl, rfl⟩
      rw [noted]
      exact List.mem_append_right _ (List.mem_singleton_self _)
  · exact step.latest orderly logged
  · intro name place key serial runs
    obtain before | ⟨rfl, counted⟩ := step.runs_cases runs
    · exact Nat.lt_of_lt_of_le (logged.runs name place key serial before)
        step.started_le
    · rw [counted]
      exact Nat.lt_succ_self _
  · intro opening present
    refine Nat.lt_of_lt_of_le ?_ step.started_le
    obtain same | ⟨name, newest, running, noted, -⟩ := step.openings_cases
    · rw [same] at present
      exact logged.noted opening present
    · rw [noted, List.mem_append, List.mem_singleton] at present
      obtain before | rfl := present
      · exact logged.noted opening before
      · exact logged.runs name _ _ _ running

omit [TrackedHandle η] in
theorem logged_start
    (names : ι → String)
    (configs : ι → PoolConfig)
    (world : σ) :
    Logged (start names configs world : System ι σ η) := by
  have outside := @not_at_start ι σ η names configs world
  constructor
  · simp [start]
  · simp [start]
  · rintro place key number (⟨entry, present, -⟩ | ⟨name, brings⟩)
    · cases present
    · exact absurd brings (outside name place key _)
  · rintro place key number (⟨entry, found, -⟩ | ⟨name, brings⟩)
    · cases found
    · exact absurd brings (outside name place key _)
  · rintro name place key serial ⟨opener, running⟩
    exact absurd running (outside name place key _)
  · simp [start]

/-! ## Reachable systems -/

theorem orderly_logged_of_reaches
    {names : ι → String}
    {world : σ}
    (fresh : conduct.OpensFresh)
    (reached : (start names configs world).Reaches stripe
      (Move.Within conduct) system) :
    Orderly stripe configs conduct system ∧ Logged system := by
  refine (orderly_start stripe names configs conduct world).reaches
    fresh (fun _ => id) reached Logged (logged_start names configs world) ?_
  intro before after move orderly _ moved logged
  exact logged.step orderly (step_of_move? orderly.keysDiffer moved)

end Logged

/-! ## Where numbers come from -/

section Origin

variable [TrackedHandle η]
variable {configs : ι → PoolConfig} {conduct : Conduct σ η}

/-- If a move brings about a fact on a handle only when the handle is
new, then all moves do. -/
theorem Orderly.of_reaches
    (fresh : conduct.OpensFresh)
    (orderly : Orderly stripe configs conduct system)
    (reaches : system.Reaches stripe (Move.Within conduct) final)
    (place : ι)
    (fact : System ι σ η → Nat → Prop)
    (stepped : ∀ {before after : System ι σ η} {move : Move ι σ η},
      Orderly stripe configs conduct before → move.Within conduct →
        Step stripe before move after → ∀ number, fact after number →
          fact before number ∨ (before.pools place).handles.length ≤ number)
    {number : Nat}
    (holds : fact final number) :
    fact system number ∨ (system.pools place).handles.length ≤ number := by
  have run := orderly.reaches fresh (fun _ => id) reaches
    (fun reached => (system.pools place).handles.length ≤
      (reached.pools place).handles.length ∧ ∀ number, fact reached number →
        fact system number ∨ (system.pools place).handles.length ≤ number)
    ⟨Nat.le_refl _, fun number => .inl⟩ ?_
  · exact run.2.2 number holds
  · rintro before after move beforeOrderly allowed moved ⟨grown, origin⟩
    have step := step_of_move? beforeOrderly.keysDiffer moved
    refine ⟨Nat.le_trans grown (step.length_handles_le place),
      fun number holdsAfter => ?_⟩
    obtain holdsBefore | new :=
      stepped beforeOrderly allowed step number holdsAfter
    · exact origin number holdsBefore
    · exact .inr (Nat.le_trans grown new)

/-- A handle is tied to a key only if it was before, or was opened since. -/
theorem Orderly.tied_of_reaches
    (fresh : conduct.OpensFresh)
    (orderly : Orderly stripe configs conduct system)
    (reaches : system.Reaches stripe (Move.Within conduct) final)
    {place : ι}
    {key : String}
    {number : Nat}
    (tied : final.Tied place key number) :
    system.Tied place key number ∨
    (system.pools place).handles.length ≤ number := by
  refine orderly.of_reaches fresh reaches place
    (fun reached => reached.Tied place key) ?_ tied
  intro before after move beforeOrderly _ step number tiedAfter
  exact (step.tied beforeOrderly tiedAfter).imp_right fun new =>
    Nat.le_of_eq new.1

/-- A handle is shown only if it was before, or was opened since. -/
theorem Orderly.shows_of_reaches
    (fresh : conduct.OpensFresh)
    (orderly : Orderly stripe configs conduct system)
    (reaches : system.Reaches stripe (Move.Within conduct) final)
    {place : ι}
    {key : String}
    {number : Nat}
    (shows : final.Shows place key number) :
    system.Shows place key number ∨
    (system.pools place).handles.length ≤ number := by
  refine orderly.of_reaches fresh reaches place
    (fun reached => reached.Shows place key) ?_ shows
  intro before after move beforeOrderly _ step number showsAfter
  exact (step.shows beforeOrderly showsAfter).imp_right Nat.le_of_eq

end Origin

/-! ## What becomes of handles that clients bring -/

section Brings

variable [TrackedHandle η]
variable
  {configs : ι → PoolConfig}
  {conduct : Conduct σ η}
  {place : ι}
  {key : String}
  {number : Nat}

omit [DecidableEq ι] in
/-- Handles that are shown have been given their numbers. -/
theorem Orderly.lt_of_shows
    (orderly : Orderly stripe configs conduct system)
    (shows : system.Shows place key number) :
    number < (system.pools place).handles.length := by
  obtain ⟨entry, found, rfl⟩ | ⟨name, brings⟩ := shows
  · have present := ((orderly.keysDiffer place).live?_eq_some_iff.mp found).1
    exact (orderly.custody place).opened entry present
  · exact orderly.given name place key number brings

/-- A client that brings a handle has it kept next. -/
theorem move?_of_brings
    (stripe : ι → String → Nat)
    {name : Nat}
    (brings : system.Brings name place key number) :
    ∃ later, system.move? stripe (.advances name) = some later ∧
      later.now = system.now ∧
      later.pools place = (system.pools place).insert system.now
        key number := by
  obtain ⟨rest, located⟩ := brings
  exact ⟨_, move?_of_inside located, rfl, Function.update_self ..⟩

/-- A handle that is tied to a key can be kept under it. -/
theorem Orderly.keeps_of_tied
    (orderly : Orderly stripe configs conduct system)
    (roomy : (configs place).maxSize ≠ 0)
    (tied : system.Tied place key number) :
    ∃ later, (later = system ∨
      ∃ name, system.move? stripe (.advances name) = some later) ∧
      (later.pools place).Keeps key number := by
  obtain keeps | ⟨name, brings⟩ := tied
  · exact ⟨system, .inl rfl, keeps⟩
  · have missing := orderly.missing name place key (.inr ⟨number, brings⟩)
    obtain ⟨later, moved, -, inserted⟩ := move?_of_brings stripe brings
    refine ⟨later, .inr ⟨name, moved⟩, ?_⟩
    rw [inserted]
    apply Pool.keeps_insert_self (orderly.keysDiffer place) _ missing
    rwa [orderly.config_eq]

/-- A handle that is shown under a key can be found under it. -/
theorem Orderly.found_of_shows
    (orderly : Orderly stripe configs conduct system)
    (roomy : (configs place).maxSize ≠ 0)
    (lasts : 0 < (configs place).idle.totalNanos)
    (shows : system.Shows place key number) :
    ∃ later, (later = system ∨
      ∃ name, system.move? stripe (.advances name) = some later) ∧
      ((later.pools place).lookup later.now key).1 = some number := by
  obtain ⟨entry, found, rfl⟩ | ⟨name, brings⟩ := shows
  · refine ⟨system, .inl rfl, ?_⟩
    rw [Pool.fst_lookup, found, Option.map_some]
  · have missing := orderly.missing name place key (.inr ⟨number, brings⟩)
    obtain ⟨later, moved, sameTime, inserted⟩ := move?_of_brings stripe brings
    refine ⟨later, .inr ⟨name, moved⟩, ?_⟩
    rw [Pool.fst_lookup, sameTime, inserted,
      Pool.live?_insert_self (orderly.keysDiffer place) _ _ missing,
      Option.map_some]
    · rwa [orderly.config_eq]
    · rwa [orderly.config_eq]

end Brings

end System
end HandlePool
