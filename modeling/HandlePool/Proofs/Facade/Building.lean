import HandlePool.Facade
import HandlePool.Proofs.Config.RoundTrip
import HandlePool.Proofs.Config.Validity

/-!
# Building façades

A façade is built with two empty pools if its configuration is valid and no
pool is to keep idle handles longer than it can measure.  A configuration
that is not valid is refused with the reason; a valid one with a longer idle
time stops the builder outright, and so there are configurations that are
loaded but cannot be built.
-/

namespace HandlePool

/-- Both pools can measure their idle time. -/
def FacadeConfig.IsMeasurable (config : FacadeConfig) : Prop :=
  config.readIdle.totalNanos ≤ PoolConfig.longestIdle ∧
    config.writeIdle.totalNanos ≤ PoolConfig.longestIdle

instance : DecidablePred FacadeConfig.IsMeasurable := fun _ =>
  inferInstanceAs (Decidable (_ ∧ _))

theorem FacadeConfig.isMeasurable_iff
    {config : FacadeConfig} :
    config.IsMeasurable ↔
      config.readPool.isBuildable = true ∧
      config.writePool.isBuildable = true :=
  and_congr (decide_eq_true_iff).symm (decide_eq_true_iff).symm

namespace Pool

variable {η : Type} {config : PoolConfig}

theorem create_of_isBuildable
    (buildable : config.isBuildable = true)
    (name : String) :
    (create name config : Except Abort (Pool η)) =
      .ok { name := name, config := config } :=
  if_pos buildable

theorem create_of_not_isBuildable
    (unbuildable : config.isBuildable = false)
    (name : String) :
    (create name config : Except Abort (Pool η)) = .error .idleTooLong :=
  if_neg (ne_true_of_eq_false unbuildable)

end Pool

namespace Facade

variable {σ : Type}

/-- A façade that was not used yet. -/
def fresh (config : FacadeConfig) (store : σ) : Facade σ where
  config := config
  read := { name := Side.read.name, config := config.readPool }
  write := { name := Side.write.name, config := config.writePool }
  store := store
  journal := [.created config]

theorem create_of_invalid
    {config : FacadeConfig}
    {error : ConfigError}
    (invalid : config.validate = .error error)
    (store : σ) :
    create config store = .error (.invalid error) := by
  rw [create, invalid]

theorem create_of_measurable
    {config : FacadeConfig}
    (valid : config.validate = .ok ())
    (measurable : config.IsMeasurable)
    (store : σ) :
    create config store = .ok (fresh config store) := by
  obtain ⟨read, write⟩ := FacadeConfig.isMeasurable_iff.mp measurable
  rw [create, valid, Pool.create_of_isBuildable read,
    Pool.create_of_isBuildable write]
  rfl

theorem create_of_not_measurable
    {config : FacadeConfig}
    (valid : config.validate = .ok ())
    (unmeasurable : ¬config.IsMeasurable)
    (store : σ) :
    create config store = .error (.aborted .idleTooLong) := by
  rw [FacadeConfig.isMeasurable_iff] at unmeasurable
  cases read : config.readPool.isBuildable with
  | false => rw [create, valid, Pool.create_of_not_isBuildable read]
  | true =>
      cases write : config.writePool.isBuildable with
      | true => exact absurd ⟨read, write⟩ unmeasurable
      | false =>
          rw [create, valid, Pool.create_of_isBuildable read,
            Pool.create_of_not_isBuildable write]

/-- A façade is built exactly for the valid configurations whose idle times can
be measured, refused for what is not valid, and else stops its builder; being
loaded makes no difference. -/
theorem create_outcome
    (config : FacadeConfig)
    (store : σ) :
    (∀ error, create config store = .error (.invalid error) ↔
      config.validate = .error error) ∧
    (∀ facade, create config store = .ok facade ↔
      config.validate = .ok () ∧ config.IsMeasurable ∧
      facade = fresh config store) ∧
    (∀ reason, create config store = .error (.aborted reason) ↔
      reason = .idleTooLong ∧ config.validate = .ok () ∧ ¬config.IsMeasurable) ∧
    (∀ document, FacadeConfig.load document = .ok config →
      (create config store = .ok (fresh config store) ↔
        config.IsMeasurable)) := by
  cases valid : config.validate with
  | error error =>
      have refused := create_of_invalid valid store
      refine ⟨fun other => ?_, fun facade => ?_, fun reason =>
        ?_, fun document loaded => ?_⟩
      · simp [refused]
      · simp [refused]
      · simp [refused]
      · rw [FacadeConfig.validate_of_load loaded] at valid
        cases valid
  | ok _ =>
      by_cases measurable : config.IsMeasurable
      · have built := create_of_measurable valid measurable store
        refine ⟨fun other => ?_, fun facade => ?_, fun reason =>
          ?_, fun document _ => ?_⟩
        · simp [built]
        · simp [built, measurable, eq_comm]
        · simp [built, measurable]
        · simp [built, measurable]
      · have stopped := create_of_not_measurable valid measurable store
        refine ⟨fun other => ?_, fun facade => ?_, fun reason =>
          ?_, fun document _ => ?_⟩
        · simp [stopped]
        · simp [stopped, measurable]
        · simp [stopped, measurable, eq_comm]
        · simp [stopped, measurable]

/-- A configuration that keeps idle handles for reading as
long as can be measured. -/
def longestConfig : FacadeConfig := { readIdle := .ofSeconds 31536000000 }

/-- A configuration that keeps idle handles for reading a second
longer than can be measured. -/
def tooLongConfig : FacadeConfig := { readIdle := .ofSeconds 31536000001 }

/-- The longest idle time that can be measured is loaded from a
document and built. -/
theorem create_outcome_of_longest :
    let document := Utf8.encode longestConfig.document.toList
    FacadeConfig.load document = .ok longestConfig ∧
      create longestConfig () = .ok (fresh longestConfig ()) := by
  have valid : longestConfig.validate = .ok () := by
    decide
  have measurable : longestConfig.IsMeasurable := by
    decide +kernel
  have loaded :
      FacadeConfig.load (Utf8.encode longestConfig.document.toList) = _ :=
    FacadeConfig.load_document_of_valid valid
  obtain ⟨-, -, -, ofLoaded⟩ := create_outcome longestConfig ()
  exact ⟨loaded, (ofLoaded _ loaded).mpr measurable⟩

/-- One second more is valid and loaded from a document, but
stops the builder. -/
theorem create_tooLong :
    tooLongConfig.validate = .ok () ∧
      FacadeConfig.load (Utf8.encode tooLongConfig.document.toList) =
        .ok tooLongConfig ∧
      create tooLongConfig () = .error (.aborted .idleTooLong) := by
  have valid : tooLongConfig.validate = .ok () := by
    decide
  have unmeasurable : ¬tooLongConfig.IsMeasurable := by
    decide +kernel
  have stopped := create_of_not_measurable valid unmeasurable ()
  exact ⟨valid, FacadeConfig.load_document_of_valid valid, stopped⟩

end Facade
end HandlePool
