import HandlePool.Proofs.Pool.Failure

/-!
# Failures that several callers hold

A failed opening may be waited for by several callers.  Where one of them holds
the error alone it gets the error itself, else a copy, which is made from the
number of the system or from kind and text.  What a caller can see of the error
is the same either way.
-/

namespace HandlePool

variable {η σ : Type} [Handle η]

/-- Callers see no difference between these errors. -/
structure IoError.SeenAlike (left right : IoError) : Prop where
  kind_eq : left.kind = right.kind
  code?_eq : left.code? = right.code?
  message_eq : left.message = right.message

namespace IoError

variable {left middle right : IoError}

theorem SeenAlike.refl
    (error : IoError) :
    error.SeenAlike error :=
  ⟨rfl, rfl, rfl⟩

theorem SeenAlike.symm
    (alike : left.SeenAlike right) :
    right.SeenAlike left :=
  ⟨alike.kind_eq.symm, alike.code?_eq.symm, alike.message_eq.symm⟩

theorem SeenAlike.trans
    (first : left.SeenAlike middle)
    (second : middle.SeenAlike right) :
    left.SeenAlike right where
  kind_eq := first.kind_eq.trans second.kind_eq
  code?_eq := first.code?_eq.trans second.code?_eq
  message_eq := first.message_eq.trans second.message_eq

theorem seenAlike_copied
    (error : IoError) :
    error.copied.SeenAlike error :=
  ⟨kind_copied error, code?_copied error, message_copied error⟩

theorem seenAlike_handedOver
    (error : IoError)
    (others : Nat) :
    (error.handedOver others).SeenAlike error := by
  unfold handedOver
  split
  · exact .refl error
  · exact seenAlike_copied error

end IoError

/-! ## Requests -/

namespace Pool

/-- Whoever holds the failure, the pool and what the opener works on are left
the same, and so is the handle of a request that succeeds. -/
theorem getOrOpenAmong_eq
    (others : Nat)
    (pool : Pool η)
    (time : CallTime)
    (key : String)
    (opener : σ → Except IoError η × σ)
    (world : σ) :
    pool.getOrOpenAmong others time key opener world =
      let alone := pool.getOrOpen time key opener world
      (⟨alone.1.result.mapError fun error =>
        error.handedOver others, alone.1.ran⟩, alone.2) :=
  rfl

theorem getOrOpen_of_error
    {pool : Pool η}
    {time : CallTime}
    {key : String}
    (missing : pool.live? time.starts key = none)
    {opener : σ → Except IoError η × σ}
    {world after : σ}
    {error : IoError}
    (fails : opener world = (.error error, after)) :
    ∃ final, pool.getOrOpen time key opener world =
      (⟨.error error, true⟩, final, after) := by
  refine ⟨(pool.seek time.starts key).2.count .openFailure, ?_⟩
  simp only [getOrOpen_of_none missing, openMissing, fails]

/-- Every error is seen alike by all who hold it, however many they are.  So the
caller of a request that had to open the key, and could not, sees the error of
the opener: its kind, its number if it has one, and its text.  Nothing else
depends on how many hold the failure. -/
theorem failure_seen_alike
    {pool : Pool η}
    {time : CallTime}
    {key : String}
    (missing : pool.contains time.starts key = false)
    {opener : σ → Except IoError η × σ}
    {world after : σ}
    {error : IoError}
    (fails : opener world = (.error error, after)) :
    (∀ (held : IoError) (others more : Nat),
      (held.handedOver others).SeenAlike (held.handedOver more)) ∧
    ∃ final, pool.getOrOpen time key opener world =
      (⟨.error error, true⟩, final, after) ∧ ∀ others, ∃ shown,
        pool.getOrOpenAmong others time key opener world =
          (⟨.error shown, true⟩, final, after) ∧
        shown.SeenAlike error := by
  refine ⟨fun held others more => ?_, ?_⟩
  · exact (held.seenAlike_handedOver others).trans
      (held.seenAlike_handedOver more).symm
  · obtain ⟨final, alone⟩ :=
      getOrOpen_of_error (contains_eq_false_iff.mp missing) fails
    refine ⟨final, alone, fun others => ⟨error.handedOver others, ?_, ?_⟩⟩
    · rw [getOrOpenAmong_eq, alone]
      rfl
    · exact error.seenAlike_handedOver others

/-- Two others wait for a failure that carries one of the system. -/
theorem failure_seen_alike_of_wrapped :
    let pool : Pool TrialHandle :=
      { name := "shared", config := ⟨1, .ofSeconds 1, .close⟩ }
    let time : CallTime := .instantly 0
    let error : IoError := .wrapped .other (.system 9999)
    let opener : Nat → Except IoError TrialHandle × Nat :=
      fun tries => (.error error, tries + 1)
    let gave := pool.getOrOpenAmong 2 time "a" opener 0
    pool.contains time.starts "a" = false ∧ opener 0 = (.error error, 1) ∧
      gave.1.result =
        .error (.described .other "Unknown error 9999 (os error 9999)") ∧
      gave.1.ran = true ∧ gave.2.2 = 1 ∧
      ∀ shown, gave.1.result = .error shown → shown.SeenAlike error := by
  intro pool time error opener gave
  have missing : pool.contains time.starts "a" = false := rfl
  have fails : opener 0 = (.error error, 1) := rfl
  obtain ⟨-, final, -, answered⟩ := failure_seen_alike missing fails
  obtain ⟨shown, isAnswer, alike⟩ := answered 2
  have isGiven : gave = (⟨.error shown, true⟩, final, 1) := isAnswer
  refine ⟨missing, fails, by cbv, by rw [isGiven], by rw [isGiven], ?_⟩
  rw [isGiven]
  rintro other same
  cases same
  exact alike

end Pool
end HandlePool
