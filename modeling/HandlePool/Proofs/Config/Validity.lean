import HandlePool.Config.Document
import HandlePool.Proofs.Duration.Sums
import HandlePool.Proofs.Outcome

/-!
# Valid configurations

A configuration is valid if its pools may hold an entry and keep it for some
time.  What is loaded is valid.
-/

namespace HandlePool

theorem PoolConfig.validate_eq_ok_iff
    {config : PoolConfig}
    {pool : String} :
    config.validate pool = .ok () ↔
      config.maxSize ≠ 0 ∧ config.idle ≠ .zero := by
  unfold validate
  rw [ne_eq, ne_eq, ← Duration.isZero_iff]
  split_ifs <;> simp [*]

theorem FacadeConfig.validate_eq_ok_iff
    {config : FacadeConfig} :
    config.validate = .ok () ↔
      (config.readMaxSize ≠ 0 ∧ config.readIdle ≠ .zero) ∧
        (config.writeMaxSize ≠ 0 ∧ config.writeIdle ≠ .zero) := by
  rw [validate, bind_eq_ok_iff]
  constructor
  · rintro ⟨⟨⟩, readValid, writeValid⟩
    exact ⟨PoolConfig.validate_eq_ok_iff.mp readValid,
      PoolConfig.validate_eq_ok_iff.mp writeValid⟩
  · rintro ⟨read, write⟩
    exact ⟨(), PoolConfig.validate_eq_ok_iff.mpr read,
      PoolConfig.validate_eq_ok_iff.mpr write⟩

theorem FacadeConfig.validate_of_load
    {document : List UInt8}
    {config : FacadeConfig}
    (loaded : load document = .ok config) :
    config.validate = .ok () := by
  unfold load at loaded
  split at loaded
  · cases loaded
  · split at loaded
    · cases loaded
    · next valid =>
      cases loaded
      exact valid

end HandlePool
