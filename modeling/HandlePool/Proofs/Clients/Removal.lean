import HandlePool.Proofs.Clients.History

/-!
# Removals among clients

A client that removes a key waits for its lock, and then removes the entry.  At
that moment no handle is tied to the key, since whoever opens one for it holds
the lock.  A handle that is tied to the key later was opened after the removal.
-/

namespace HandlePool

variable {ι σ η : Type}

namespace System

variable [DecidableEq ι] [TrackedHandle η]
variable
  {stripe : ι → String → Nat}
  {configs : ι → PoolConfig}
  {conduct : Conduct σ η}
  {system final : System ι σ η}
  {name : Nat}
  {place : ι}
  {key : String}
  {rest : List (Task ι σ η)}

omit [DecidableEq ι] [TrackedHandle η] in
/-- The client removes the key, and has not done so yet. -/
def Removing (system : System ι σ η) (name : Nat) (place : ι) (key : String)
    (rest : List (Task ι σ η)) : Prop :=
  system.clients name = .busy (.invalidate place key) rest ∨
    system.clients name = .inside place key (.removal true) rest

/-- A client that has to remove a key still has to, or does so now. -/
theorem Removing.move?
    {move : Move ι σ η}
    (differ : ∀ place, (system.pools place).KeysDiffer)
    (moved : system.move? stripe move = some final)
    (removing : system.Removing name place key rest) :
    final.Removing name place key rest ∨
      move = .advances name ∧
        system.clients name = .inside place key (.removal true) rest ∧
        final.clients name =
          .inside place key (.leaving (.done (.ok ()))) rest := by
  by_cases mine : move = .advances name
  · subst mine
    obtain attending | inside := removing
    · simp only [System.move?, advance, attending, attend, enter] at moved
      split at moved
      · cases moved
      · cases moved
        exact .inl (.inr (Function.update_self ..))
    · rw [move?_of_inside inside, Option.some.injEq] at moved
      subst moved
      exact .inr ⟨rfl, inside, Function.update_self ..⟩
  · have step := step_of_move? differ moved
    obtain attending | inside := removing
    · exact .inl
        (.inl ((step.clients_eq mine (by simp [attending])).trans attending))
    · exact .inl (.inr ((step.clients_eq mine (by simp [inside])).trans inside))

/-- Right after a removal nothing is tied to the key, and no
opener runs for it. -/
theorem untied_of_removal
    (orderly : Orderly stripe configs conduct system)
    (finalOrderly : Orderly stripe configs conduct final)
    {noted : Bool}
    (inside : system.clients name = .inside place key (.removal noted) rest)
    (removed : system.move? stripe (.advances name) = some final) :
    (∀ number, ¬final.Tied place key number) ∧
      ∀ other serial, ¬final.Runs other place key serial := by
  rw [move?_of_inside inside, Option.some.injEq] at removed
  subst removed
  have leaving :
      (system.proceed stripe name place key rest (.removal noted)).At name place
      key (.leaving (.done (.ok ()))) := ⟨rest, Function.update_self ..⟩
  constructor
  · rintro number (keeps | ⟨other, brings⟩)
    · change (Function.update system.pools place
        ((system.pools place).takeOut system.now key noted) place).Keeps key
          number at keeps
      rw [Function.update_self] at keeps
      exact Pool.not_keeps_takeOut system.now (orderly.keysDiffer place)
        key noted number keeps
    · obtain rfl := finalOrderly.locked.unique brings.inside leaving.inside rfl
      cases (brings.unique leaving).2.2
  · rintro other serial ⟨opener, running⟩
    obtain rfl := finalOrderly.locked.unique running.inside leaving.inside rfl
    cases (running.unique leaving).2.2

end System
end HandlePool
