/-
Module: Attestation.Task.Parameters
Purpose: What a task is started with, and when that makes sense: at least one quorum, as many
  percentages as quorums, no quorum twice, no percentage above 100. The first violated rule is reported.
Main exports: TaskParameters, TaskParameters.thresholds, TaskParameters.validate, ParameterError,
  TaskParameters.validate_eq_ok_iff, TaskParameters.get?_thresholds,
  TaskParameters.exists_of_get?_thresholds
-/
import Attestation.Identifier
import Attestation.SortedMap

namespace Attestation

/-- Why the parameters of a task are refused. -/
inductive ParameterError where
  | emptyQuorums
  | lengthMismatch (quorums thresholds : Nat)
  | duplicateQuorum (quorum : QuorumNum)
  | thresholdAbove100 (percentage : UInt8)
deriving DecidableEq

def ParameterError.message : ParameterError → String
  | emptyQuorums => "task requires at least one quorum"
  | lengthMismatch quorums thresholds =>
    s!"{quorums} quorum numbers but {thresholds} threshold percentages"
  | duplicateQuorum quorum => s!"quorum {quorum.text} listed more than once"
  | thresholdAbove100 percentage => s!"threshold percentage {percentage.toNat} exceeds 100"

/-- The parameters of a task. Spans of time are whole milliseconds, as finely as the timer tells instants
apart: it rounds a remainder below a millisecond up, so that only a window of no length at all is zero. -/
structure TaskParameters where
  index : TaskIndex
  block : BlockNumber
  quorums : List QuorumNum
  /-- The percentage of each quorum's stake that has to sign, in the order of the quorums. -/
  percentages : List UInt8
  timeToExpiry : Nat
  /-- How long signatures are still collected after the thresholds are met. -/
  window : Nat
deriving DecidableEq

/-- The first element that equals an earlier one. -/
def firstRepeat {α : Type} [DecidableEq α] (seen : List α) : List α → Option α
  | [] => none
  | a :: rest => if a ∈ seen then some a else firstRepeat (a :: seen) rest

/-- Nothing is repeated exactly if no element equals an earlier one or one seen before. -/
theorem firstRepeat_eq_none_iff {α : Type} [DecidableEq α] {xs : List α} :
    ∀ {seen : List α}, firstRepeat seen xs = none ↔ xs.Nodup ∧ ∀ a ∈ xs, a ∉ seen := by
  induction xs with
  | nil => simp [firstRepeat]
  | cons x rest ih =>
    intro seen
    unfold firstRepeat
    split
    next repeated => simp [repeated]
    next new =>
      rw [ih, List.nodup_cons]
      constructor
      · rintro ⟨distinct, later⟩
        refine ⟨⟨fun again => later x again List.mem_cons_self, distinct⟩, fun a member => ?_⟩
        rcases List.mem_cons.1 member with rfl | member
        · exact new
        · exact fun old => later a member (List.mem_cons_of_mem x old)
      · rintro ⟨⟨once, distinct⟩, unseen⟩
        refine ⟨distinct, fun a member old => ?_⟩
        rcases List.mem_cons.1 old with rfl | old
        · exact once member
        · exact unseen a (List.mem_cons_of_mem x member) old

namespace TaskParameters

/-- The percentage of each quorum. Of equal quorums the last counts, and what has no counterpart in the
other list is left out. -/
def thresholds (t : TaskParameters) : SortedMap QuorumNum UInt8 :=
  SortedMap.ofList (t.quorums.zip t.percentages)

/-- Accepts the parameters or reports the first violated rule. -/
def validate (t : TaskParameters) : Except ParameterError Unit :=
  if t.quorums.isEmpty then .error .emptyQuorums
  else if t.quorums.length ≠ t.percentages.length then
    .error (.lengthMismatch t.quorums.length t.percentages.length)
  else match firstRepeat [] t.quorums with
    | some quorum => .error (.duplicateQuorum quorum)
    | none => match t.percentages.find? (100 < ·) with
      | some percentage => .error (.thresholdAbove100 percentage)
      | none => .ok ()

variable {t : TaskParameters}

/-- What the parameters of a valid task are. -/
theorem validate_eq_ok_iff : t.validate = .ok () ↔ t.quorums ≠ [] ∧
    t.quorums.length = t.percentages.length ∧ t.quorums.Nodup ∧ ∀ p ∈ t.percentages, p ≤ 100 := by
  have distinct : firstRepeat [] t.quorums = none ↔ t.quorums.Nodup := by simp [firstRepeat_eq_none_iff]
  have small : t.percentages.find? (100 < ·) = none ↔ ∀ p ∈ t.percentages, p ≤ 100 := by simp
  rw [← distinct, ← small]
  unfold validate
  split
  next empty => simp_all
  next listed =>
    split
    next different => simp [different]
    next same => cases firstRepeat [] t.quorums <;> cases t.percentages.find? (100 < ·) <;> simp_all

/-- Each quorum of a valid task has the percentage in its own place. -/
theorem get?_thresholds (valid : t.validate = .ok ()) {i : Nat} {q : QuorumNum} {p : UInt8}
    (listed : t.quorums[i]? = some q) (required : t.percentages[i]? = some p) :
    t.thresholds.get? q = some p := by
  obtain ⟨-, same, distinct, -⟩ := validate_eq_ok_iff.1 valid
  apply SortedMap.get?_ofList
  · rw [List.map_fst_zip (Nat.le_of_eq same)]
    exact distinct
  · apply List.mem_of_getElem? (i := i)
    rw [List.getElem?_zip_eq_some]
    exact ⟨listed, required⟩

/-- Every percentage is listed at a place of its quorum. -/
theorem exists_of_get?_thresholds {q : QuorumNum} {p : UInt8} (found : t.thresholds.get? q = some p) :
    ∃ i : Nat, t.quorums[i]? = some q ∧ t.percentages[i]? = some p := by
  obtain ⟨i, place⟩ := List.mem_iff_getElem?.1 (SortedMap.mem_of_get?_ofList found)
  rw [List.getElem?_zip_eq_some] at place
  exact ⟨i, place⟩

end TaskParameters

end Attestation
