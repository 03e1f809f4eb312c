/-
Module: Attestation.Proofs.Requirements
Purpose: What the validation of a task's parameters is good for. It reports the first violated rule, and of
  that rule the earliest offender; and where it reports none, each listed quorum has the percentage in its
  own place, no other quorum has one, and the thresholds are met exactly if they are in every place.
Main exports: firstRepeat_eq_some_iff, TaskParameters.Violates, TaskParameters.validate_eq_error_iff,
  TaskParameters.contains_thresholds, TaskParameters.meetsThresholds_iff_places,
  TaskParameters.validated_requirements
-/
import Attestation.Proofs.Stakes
import Attestation.Task.Parameters

namespace Attestation

/-- The element that is found repeats one before it or one seen before, and is the earliest that does. -/
theorem firstRepeat_eq_some_iff {α : Type} [DecidableEq α] {xs : List α} {a : α} :
    ∀ {seen : List α}, firstRepeat seen xs = some a ↔ ∃ before after, xs = before ++ a :: after ∧
      (a ∈ before ∨ a ∈ seen) ∧ before.Nodup ∧ ∀ b ∈ before, b ∉ seen := by
  induction xs with
  | nil => simp [firstRepeat]
  | cons x rest ih =>
    intro seen
    rw [firstRepeat]
    split
    next repeated =>
      constructor
      · intro first
        cases first
        exact ⟨[], rest, rfl, .inr repeated, .nil, by simp⟩
      · rintro ⟨before, after, split, -, -, unseen⟩
        cases before with
        | nil => exact congrArg some (List.cons.inj split).1
        | cons b before =>
          cases (List.cons.inj split).1
          exact absurd repeated (unseen x List.mem_cons_self)
    next new =>
      rw [ih]
      constructor
      · rintro ⟨before, after, rfl, again, distinct, unseen⟩
        have fresh : x ∉ before := fun listed => unseen x listed List.mem_cons_self
        exact ⟨x :: before, after, rfl, by grind, List.nodup_cons.2 ⟨fresh, distinct⟩, by grind⟩
      · rintro ⟨before, after, split, again, distinct, unseen⟩
        cases before with
        | nil =>
          cases (List.cons.inj split).1
          exact absurd (again.resolve_left List.not_mem_nil) new
        | cons b before =>
          obtain ⟨rfl, rfl⟩ := List.cons.inj split
          obtain ⟨fresh, distinct⟩ := List.nodup_cons.1 distinct
          exact ⟨before, after, rfl, by grind, distinct, by grind⟩

namespace TaskParameters

/-- The first rule that the parameters violate, and the earliest offender. The rules before it hold. -/
inductive Violates (t : TaskParameters) : ParameterError → Prop where
  | emptyQuorums (empty : t.quorums = []) : Violates t .emptyQuorums
  | lengthMismatch (listed : t.quorums ≠ []) (different : t.quorums.length ≠ t.percentages.length) :
      Violates t (.lengthMismatch t.quorums.length t.percentages.length)
  | duplicateQuorum {before after : List QuorumNum} {q : QuorumNum} (listed : t.quorums ≠ [])
      (same : t.quorums.length = t.percentages.length) (place : t.quorums = before ++ q :: after)
      (distinct : before.Nodup) (again : q ∈ before) : Violates t (.duplicateQuorum q)
  | thresholdAbove100 {before after : List UInt8} {p : UInt8} (listed : t.quorums ≠ [])
      (same : t.quorums.length = t.percentages.length) (distinct : t.quorums.Nodup)
      (place : t.percentages = before ++ p :: after) (small : ∀ p' ∈ before, p' ≤ 100)
      (large : 100 < p) : Violates t (.thresholdAbove100 p)

variable {t : TaskParameters}

theorem firstRepeat_quorums {q : QuorumNum} : firstRepeat [] t.quorums = some q ↔
    ∃ before after, t.quorums = before ++ q :: after ∧ before.Nodup ∧ q ∈ before := by
  simp [firstRepeat_eq_some_iff, and_comm]

theorem find?_percentages {p : UInt8} : t.percentages.find? (100 < ·) = some p ↔
    ∃ before after, t.percentages = before ++ p :: after ∧ (∀ p' ∈ before, p' ≤ 100) ∧ 100 < p := by
  rw [List.find?_eq_some_iff_append]
  constructor
  · rintro ⟨large, before, after, place, small⟩
    exact ⟨before, after, place, by simpa using small, by simpa using large⟩
  · rintro ⟨before, after, place, small, large⟩
    exact ⟨by simpa using large, before, after, place, by simpa using small⟩

/-- Validation reports the first violated rule and nothing else. -/
theorem validate_eq_error_iff {e : ParameterError} : t.validate = .error e ↔ t.Violates e := by
  have distinct : firstRepeat [] t.quorums = none ↔ t.quorums.Nodup := by simp [firstRepeat_eq_none_iff]
  constructor
  · intro refused
    unfold validate at refused
    split at refused
    next empty =>
      cases refused
      exact .emptyQuorums (List.isEmpty_iff.1 empty)
    next listed =>
      have listed : t.quorums ≠ [] := by simpa using listed
      split at refused
      next different =>
        cases refused
        exact .lengthMismatch listed different
      next same =>
        have same : t.quorums.length = t.percentages.length := by simpa using same
        split at refused
        next q repeated =>
          cases refused
          obtain ⟨before, after, place, once, again⟩ := firstRepeat_quorums.1 repeated
          exact .duplicateQuorum listed same place once again
        next single =>
          split at refused
          next p found =>
            cases refused
            obtain ⟨before, after, place, small, large⟩ := find?_percentages.1 found
            exact .thresholdAbove100 listed same (distinct.1 single) place small large
          next => cases refused
  · intro violates
    unfold validate
    cases violates with
    | emptyQuorums empty => simp [empty]
    | lengthMismatch listed different => simp [listed, different]
    | duplicateQuorum listed same place once again =>
      have repeated := firstRepeat_quorums.2 ⟨_, _, place, once, again⟩
      simp [listed, same, repeated]
    | thresholdAbove100 listed same once place small large =>
      have found := find?_percentages.2 ⟨_, _, place, small, large⟩
      simp [listed, same, distinct.2 once, found]

/-- The quorums of a valid task are those that have a percentage. -/
theorem contains_thresholds (valid : t.validate = .ok ()) (q : QuorumNum) :
    t.thresholds.contains q = true ↔ q ∈ t.quorums := by
  obtain ⟨-, same, -⟩ := validate_eq_ok_iff.1 valid
  rw [thresholds, SortedMap.contains_ofList, List.map_fst_zip (Nat.le_of_eq same)]

/-- Each place of a valid task has a quorum and a percentage. -/
theorem exists_of_place (valid : t.validate = .ok ()) {i : Nat} (place : i < t.quorums.length) :
    ∃ q p, t.quorums[i]? = some q ∧ t.percentages[i]? = some p ∧ t.thresholds.get? q = some p := by
  obtain ⟨-, same, -⟩ := validate_eq_ok_iff.1 valid
  have listed := List.getElem?_eq_getElem place
  have required := List.getElem?_eq_getElem (same ▸ place)
  exact ⟨_, _, listed, required, get?_thresholds valid listed required⟩

/-- The thresholds of a valid task are met exactly if in every place the signed stake that is recorded for
the quorum reaches the percentage of the total that is recorded for it. -/
theorem meetsThresholds_iff_places (valid : t.validate = .ok ()) {signed total : Stakes} :
    meetsThresholds signed total t.thresholds = true ↔ ∀ i < t.quorums.length, ∃ q p s n,
      t.quorums[i]? = some q ∧ t.percentages[i]? = some p ∧ signed.get? q = some s ∧
        total.get? q = some n ∧ n.val * p.toNat ≤ s.val * 100 := by
  rw [meetsThresholds_iff]
  constructor
  · intro met i place
    obtain ⟨q, p, listed, required, threshold⟩ := exists_of_place valid place
    obtain ⟨present, known, enough⟩ := met q p threshold
    obtain ⟨s, stake⟩ := SortedMap.contains_iff_exists.1 present
    obtain ⟨n, whole⟩ := SortedMap.contains_iff_exists.1 known
    rw [Stakes.amount_of_get? stake, Stakes.amount_of_get? whole] at enough
    exact ⟨q, p, s, n, listed, required, stake, whole, enough⟩
  · intro met q p threshold
    obtain ⟨i, listed, required⟩ := exists_of_get?_thresholds threshold
    obtain ⟨q', p', s, n, listed', required', stake, whole, enough⟩ :=
      met i (List.getElem?_eq_some_iff.1 listed).1
    cases Option.some.inj (listed.symm.trans listed')
    cases Option.some.inj (required.symm.trans required')
    rw [Stakes.amount_of_get? stake, Stakes.amount_of_get? whole]
    exact ⟨SortedMap.contains_iff_exists.2 ⟨s, stake⟩, SortedMap.contains_iff_exists.2 ⟨n, whole⟩, enough⟩

/-- What validation reports, and what it guarantees: no requirement of a valid task goes unevaluated. -/
theorem validated_requirements (t : TaskParameters) :
    (t.validate = .ok () ↔ t.quorums ≠ [] ∧ t.quorums.length = t.percentages.length ∧ t.quorums.Nodup ∧
      ∀ p ∈ t.percentages, p ≤ 100) ∧
    (∀ e, t.validate = .error e ↔ t.Violates e) ∧
    (t.validate = .ok () →
      (∀ i < t.quorums.length, ∃ q p, t.quorums[i]? = some q ∧ t.percentages[i]? = some p ∧
        t.thresholds.get? q = some p) ∧
      (∀ q, t.thresholds.contains q = true ↔ q ∈ t.quorums) ∧
      ∀ signed total : Stakes, meetsThresholds signed total t.thresholds = true ↔
        ∀ i < t.quorums.length, ∃ q p s n, t.quorums[i]? = some q ∧ t.percentages[i]? = some p ∧
          signed.get? q = some s ∧ total.get? q = some n ∧ n.val * p.toNat ≤ s.val * 100) := by
  refine ⟨validate_eq_ok_iff, fun e => validate_eq_error_iff, fun valid => ⟨?_, ?_, ?_⟩⟩
  · intro i place
    exact exists_of_place valid place
  · exact contains_thresholds valid
  · intro signed total
    exact meetsThresholds_iff_places valid

/-- The two quorums of a task are listed in descending order, so that their percentages are found in the
other order. -/
theorem validated_requirements_sample :
    let t : TaskParameters := ⟨1, 1, [⟨7⟩, ⟨2⟩], [60, 100], 100, 0⟩
    let signed : Stakes := .ofList [(⟨2⟩, .clamp 50), (⟨7⟩, .clamp 59)]
    let total : Stakes := .ofList [(⟨2⟩, .clamp 50), (⟨7⟩, .clamp 100)]
    t.validate = .ok () ∧ t.thresholds.contains ⟨2⟩ = true ∧
    (∃ q p, t.quorums[1]? = some q ∧ t.percentages[1]? = some p ∧ t.thresholds.get? q = some p) ∧
    ¬ ∀ i < t.quorums.length, ∃ q p s n, t.quorums[i]? = some q ∧ t.percentages[i]? = some p ∧
      signed.get? q = some s ∧ total.get? q = some n ∧ n.val * p.toNat ≤ s.val * 100 := by
  intro t signed total
  have valid : t.validate = .ok () := rfl
  obtain ⟨-, -, guarantees⟩ := validated_requirements t
  obtain ⟨places, keys, met⟩ := guarantees valid
  refine ⟨valid, (keys ⟨2⟩).2 (by decide), places 1 (by decide), ?_⟩
  rw [← met signed total]
  decide

end TaskParameters

end Attestation
