import HandlePool.Proofs.Duration.Sums
import HandlePool.Proofs.Outcome
import Mathlib.Algebra.Ring.Nat

/-!
# What a spelled duration adds up

Reading a spelled duration is listing the amounts of seconds and
nanoseconds that it asks for, and adding them up in this order.  Listing
them looks at no sum, so it is only the adding up that can stop outright:
an amount of nanoseconds completes one full second behind the last second
that a duration can count.
-/

namespace HandlePool
namespace Spelling

/-! ## Amounts -/

/-- A count of seconds, or else of nanoseconds. -/
structure Amount where
  inSeconds : Bool
  count : Nat
  deriving DecidableEq, Repr

/-- How many nanoseconds it lasts. -/
def Amount.nanos (amount : Amount) : Nat :=
  if amount.inSeconds then amount.count * nanosPerSecond else amount.count

theorem Amount.nanos_of_nanos
    (count : Nat) :
    Amount.nanos ⟨false, count⟩ = count :=
  if_neg Bool.false_ne_true

theorem Amount.nanos_of_seconds
    (count : Nat) :
    Amount.nanos ⟨true, count⟩ = count * nanosPerSecond :=
  if_pos rfl

/-- Add amounts one after another. -/
def addAll (total : Duration) (amounts : List Amount) :
    Except Failure Duration :=
  amounts.foldlM
    (fun total amount => addScaled total amount.inSeconds amount.count) total

theorem addScaled_eq_ok_iff
    {total sum : Duration}
    {amount : Amount} :
    addScaled total amount.inSeconds amount.count = .ok sum ↔
      sum.totalNanos = total.totalNanos + amount.nanos ∧
        (amount.inSeconds = false → total.nanos + amount.count < wordSize) := by
  obtain ⟨inSeconds, count⟩ := amount
  cases inSeconds with
  | false =>
      rw [addScaled, if_neg Bool.false_ne_true, add_eq_ok_iff,
        Nat.zero_mul, Nat.add_zero, Amount.nanos_of_nanos]
      exact and_congr Iff.rfl ⟨fun fits _ => fits, fun fits => fits rfl⟩
  | true =>
      have fullSmall : nanosPerSecond < wordSize := by decide
      have small : total.nanos + 0 < wordSize :=
        Nat.lt_trans total.nanos_lt fullSmall
      rw [addScaled, if_pos rfl, add_eq_ok_iff, Nat.add_zero,
        Amount.nanos_of_seconds]
      exact and_congr Iff.rfl
        ⟨fun _ inNanos => (nomatch inNanos), fun _ => small⟩

/-- An amount completes one full second behind the last second
that a duration can count. -/
def Amount.Overruns (amount : Amount) (total : Duration) : Prop :=
  amount.inSeconds = false ∧ total.seconds.toNat + 1 = wordSize ∧
    total.nanos + amount.count = nanosPerSecond

theorem addScaled_eq_aborted_iff
    {total : Duration}
    {amount : Amount}
    {reason : Abort} :
    addScaled total amount.inSeconds amount.count = .error (.aborted reason) ↔
      reason = .durationOverflow ∧ amount.Overruns total := by
  cases inSeconds : amount.inSeconds with
  | false =>
      simp only [addScaled, Amount.Overruns, inSeconds,
        Bool.false_eq_true, if_false,
        add_eq_aborted_iff, Nat.add_zero, true_and]
  | true =>
      have unfilled : total.nanos ≠ nanosPerSecond :=
        Nat.ne_of_lt total.nanos_lt
      simp only [addScaled, Amount.Overruns, inSeconds, if_true,
        add_eq_aborted_iff, Nat.add_zero,
        unfilled, and_false, Bool.true_eq_false, false_and]

/-- Amounts whose nanoseconds stay below one second are added up if some
duration lasts as long as all of them. -/
theorem addAll_eq_ok
    {total sum : Duration}
    {amounts : List Amount}
    (short : ∀ amount ∈ amounts, amount.inSeconds = false →
      amount.count < nanosPerSecond)
    (same : sum.totalNanos =
      total.totalNanos + (amounts.map Amount.nanos).sum) :
    addAll total amounts = .ok sum := by
  induction amounts generalizing total with
  | nil =>
      rw [List.map_nil, List.sum_nil, Nat.add_zero] at same
      exact congrArg Except.ok (Duration.eq_of_totalNanos_eq same.symm)
  | cons amount amounts inductionHypothesis =>
      rw [List.map_cons, List.sum_cons, ← Nat.add_assoc] at same
      have bound := sum.totalNanos_lt
      have reachedSmall : total.totalNanos + amount.nanos ≤ sum.totalNanos := by
        rw [same]
        apply Nat.le_add_right
      obtain ⟨next, nextNanos⟩ :=
        Duration.exists_totalNanos_eq (Nat.lt_of_le_of_lt reachedSmall bound)
      have nextAdded : addScaled total amount.inSeconds amount.count =
          .ok next := by
        refine addScaled_eq_ok_iff.mpr ⟨nextNanos, fun inNanos => ?_⟩
        have countSmall := short amount List.mem_cons_self inNanos
        have totalSmall := total.nanos_lt
        simp only [nanosPerSecond, wordSize, UInt64.size] at *
        omega
      rw [← nextNanos] at same
      have added := inductionHypothesis (fun amount present =>
        short amount (List.mem_cons_of_mem _ present)) same
      rw [addAll, List.foldlM_cons, nextAdded]
      exact added

/-- The amounts some text asks for, as far as it is well formed. -/
structure Listing where
  amounts : List Amount
  /-- The text is well formed to its end. -/
  wellFormed : Bool
  deriving DecidableEq, Repr

namespace Listing

/-- A text that is malformed before it asks for anything. -/
def malformed : Listing := ⟨[], false⟩

/-- A listing, and another one behind it if it is well formed. -/
def followedBy (first later : Listing) : Listing :=
  if first.wellFormed then ⟨first.amounts ++ later.amounts, later.wellFormed⟩
    else first

/-- Add up what is listed. -/
def sum (listing : Listing) (total : Duration) : Except Failure Duration :=
  addAll total listing.amounts >>= fun total =>
    if listing.wellFormed then .ok total else .error .malformed

@[simp] theorem sum_malformed
    (total : Duration) :
    malformed.sum total = .error .malformed := rfl

theorem sum_singleton
    (amount : Amount)
    (total : Duration) :
    sum ⟨[amount], true⟩ total =
      addScaled total amount.inSeconds amount.count := by
  simp only [sum, addAll, List.foldlM_cons, List.foldlM_nil, bind_pure, if_true]
  exact bind_pure (addScaled total amount.inSeconds amount.count)

theorem sum_followedBy
    (first later : Listing)
    (total : Duration) :
    (first.followedBy later).sum total = first.sum total >>= later.sum := by
  cases wellFormed : first.wellFormed with
  | false =>
      simp only [followedBy, sum, wellFormed, Bool.false_eq_true,
        if_false, bind_assoc]
      rfl
  | true =>
      simp only [followedBy, sum, wellFormed, if_true, addAll,
        List.foldlM_append, bind_assoc]
      rfl

end Listing

/-! ## Listing what a text asks for -/

/-- What one span asks for. -/
def spanListing (whole : Nat) (fraction? : Option Fraction)
    (spelling : String) : Listing :=
  match unit? spelling with
  | none => .malformed
  | some timeUnit =>
    if whole * timeUnit.scale < wordSize then
      Listing.followedBy
        ⟨[⟨timeUnit.inSeconds, whole * timeUnit.scale⟩], true⟩ <|
        match fraction? with
        | none => ⟨[], true⟩
        | some fraction =>
          match timeUnit.fraction? with
          | none => .malformed
          | some (inSeconds, scale) =>
            if fraction.numerator * scale < wordSize ∧
                fraction.numerator * scale % fraction.denominator = 0 then
              ⟨[⟨inSeconds, fraction.numerator * scale / fraction.denominator⟩],
                true⟩
            else .malformed
    else .malformed

/-- What a text asks for from a phase on. -/
def listFrom : Phase → List Char → Listing
  | .between spanRead, [] => ⟨[], spanRead⟩
  | .whole _, [] => .malformed
  | .fraction _ _, [] => .malformed
  | .unit value places? letters, [] =>
      spanListing value places? (spelling letters)
  | .between spanRead, character :: rest =>
    match digit? character with
    | some value => listFrom (.whole value) rest
    | none =>
      if isBlank character then listFrom (.between spanRead) rest
        else .malformed
  | .whole value, character :: rest =>
    match digit? character with
    | some next =>
      if value * 10 + next < wordSize
        then listFrom (.whole (value * 10 + next)) rest
      else .malformed
    | none =>
      if isBlank character then listFrom (.whole value) rest
      else if isUnitLetter character
        then listFrom (.unit value none [character]) rest
      else if character = '.' then listFrom (.fraction value ⟨0, 1⟩) rest
      else .malformed
  | .fraction value places, character :: rest =>
    match digit? character with
    | some next =>
      if places.denominator * 10 < wordSize ∧
        places.numerator * 10 + next < wordSize then
        listFrom (.fraction value
          ⟨places.numerator * 10 + next, places.denominator * 10⟩) rest
      else .malformed
    | none =>
      if isBlank character then listFrom (.fraction value places) rest
      else if isUnitLetter character ∧ places.denominator ≠ 1 then
        listFrom (.unit value (some places) [character]) rest
      else .malformed
  | .unit value places? letters, character :: rest =>
    match digit? character with
    | some next =>
      (spanListing value places? (spelling letters)).followedBy
        (listFrom (.whole next) rest)
    | none =>
      if isBlank character then
        (spanListing value places? (spelling letters)).followedBy
          (listFrom (.between true) rest)
      else if isUnitLetter character then
        listFrom (.unit value places? (character :: letters)) rest
      else .malformed

theorem addSpan_eq
    (total : Duration)
    (whole : Nat)
    (fraction? : Option Fraction)
    (spelling : String) :
    addSpan total whole fraction? spelling =
      (spanListing whole fraction? spelling).sum total := by
  unfold addSpan spanListing
  cases unit? spelling with
  | none => rfl
  | some timeUnit =>
      simp only [fit_bind]
      split
      · rw [Listing.sum_followedBy, Listing.sum_singleton]
        congr 1
        funext total
        cases fraction? with
        | none => rfl
        | some fraction =>
            cases timeUnit.fraction? with
            | none => rfl
            | some scaled =>
                by_cases fits : fraction.numerator * scaled.2 < wordSize
                · by_cases exact :
                    fraction.numerator * scaled.2 % fraction.denominator = 0
                  · simp only [fits, exact, and_self, if_true,
                      Listing.sum_singleton]
                  · simp only [fits, exact, and_false, if_true, if_false,
                      Listing.sum_malformed]
                · simp only [fits, false_and, if_false, Listing.sum_malformed]
      · rfl

/-- Reading a text is listing what it asks for and adding it up. -/
theorem readFrom_eq
    (phase : Phase)
    (total : Duration)
    (text : List Char) :
    readFrom phase total text = (listFrom phase text).sum total := by
  induction text generalizing phase total with
  | nil =>
      cases phase with
      | between spanRead => cases spanRead <;> rfl
      | whole value => rfl
      | fraction value places => rfl
      | unit value places? letters => exact addSpan_eq total value places? _
  | cons character rest inductionHypothesis =>
      cases phase with
      | between spanRead =>
          cases isDigit : digit? character with
          | some value =>
              simp only [readFrom, listFrom, isDigit]
              apply inductionHypothesis
          | none =>
              simp only [readFrom, listFrom, isDigit]
              split_ifs
              · apply inductionHypothesis
              · rfl
      | whole value =>
          cases isDigit : digit? character with
          | some next =>
              simp only [readFrom, listFrom, isDigit, fit_bind]
              split_ifs
              · apply inductionHypothesis
              · rfl
          | none =>
              simp only [readFrom, listFrom, isDigit]
              split_ifs
              · apply inductionHypothesis
              · apply inductionHypothesis
              · apply inductionHypothesis
              · rfl
      | fraction value places =>
          cases isDigit : digit? character with
          | some next =>
              simp only [readFrom, listFrom, isDigit, fit_bind]
              by_cases denominatorFits : places.denominator * 10 < wordSize
              · simp only [denominatorFits, true_and, if_true]
                split_ifs
                · apply inductionHypothesis
                · rfl
              · simp only [denominatorFits, false_and, if_false,
                  Listing.sum_malformed]
          | none =>
              simp only [readFrom, listFrom, isDigit]
              split_ifs
              · apply inductionHypothesis
              · apply inductionHypothesis
              · rfl
      | unit value places? letters =>
          cases isDigit : digit? character with
          | some next =>
              simp only [readFrom, listFrom, isDigit,
                Listing.sum_followedBy, addSpan_eq]
              congr 1
              funext total
              apply inductionHypothesis
          | none =>
              simp only [readFrom, listFrom, isDigit]
              split_ifs
              · rw [Listing.sum_followedBy, addSpan_eq]
                congr 1
                funext total
                apply inductionHypothesis
              · apply inductionHypothesis
              · rfl

/-! ## Stopping outright -/

/-- The amounts of a text reach exactly the end of what a duration can count, by
nanoseconds that complete the last second. -/
def Overruns (text : String) : Prop :=
  ∃ before amount after reached,
    (listFrom (.between false) text.toList).amounts =
      before ++ amount :: after ∧
      addAll .zero before = .ok reached ∧ amount.Overruns reached

theorem sum_eq_aborted_iff
    {listing : Listing}
    {total : Duration}
    {reason : Abort} :
    listing.sum total = .error (.aborted reason) ↔
      addAll total listing.amounts = .error (.aborted reason) := by
  rw [Listing.sum, bind_eq_error_iff]
  constructor
  · rintro (failed | ⟨sum, -, failed⟩)
    · exact failed
    · split at failed <;> cases failed
  · exact .inl

/-- Reading stops outright on exactly the texts that overrun. -/
theorem read_eq_aborted_iff
    {text : String}
    {reason : Abort} :
    read text = .error (.aborted reason) ↔ reason = .durationOverflow ∧
    Overruns text := by
  unfold read
  split_ifs with isZero
  · refine ⟨fun stopped => (nomatch stopped), ?_⟩
    rintro ⟨-, before, amount, after, reached, listed, -⟩
    have unlisted : (listFrom (.between false) "0".toList).amounts =
        [] := by decide
    rw [isZero, unlisted] at listed
    exact absurd listed (by simp)
  · rw [readFrom_eq, sum_eq_aborted_iff, addAll, foldlM_eq_error_iff]
    constructor
    · rintro ⟨before, amount, after, reached, listed, added, stopped⟩
      obtain ⟨sameReason, overruns⟩ := addScaled_eq_aborted_iff.mp stopped
      exact ⟨sameReason, before, amount, after, reached, listed,
        added, overruns⟩
    · rintro ⟨sameReason, before, amount, after, reached, listed,
        added, overruns⟩
      have stopped := addScaled_eq_aborted_iff.mpr ⟨sameReason, overruns⟩
      exact ⟨before, amount, after, reached, listed, added, stopped⟩

end Spelling
end HandlePool
