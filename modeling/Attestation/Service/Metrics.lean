/-
Module: Attestation.Service.Metrics
Purpose: The counters of the service and the text in which they are exposed: families in the order of
  their names, samples in the order of their labels. A labelled family without a sample is left out.
Main exports: Metrics, Metrics.zero, Metrics.exposition
-/
import Attestation.Service.Error

namespace Attestation

/-- What is counted. -/
structure Metrics where
  initialized : Nat
  active : Int
  completed : Outcome → Nat
  accepted : Nat
  rejected : RejectionReason → Nat

namespace Metrics

/-- Nothing counted yet. -/
def zero : Metrics := ⟨0, 0, fun _ => 0, 0, fun _ => 0⟩

/-- A task was started. -/
def taskInitialized (m : Metrics) : Metrics :=
  { m with initialized := m.initialized + 1, active := m.active + 1 }

/-- A task ended. -/
def taskCompleted (m : Metrics) (outcome : Outcome) : Metrics :=
  { m with
    completed := fun o => if o = outcome then m.completed o + 1 else m.completed o
    active := m.active - 1 }

/-- A signature was merged. -/
def signatureAccepted (m : Metrics) : Metrics := { m with accepted := m.accepted + 1 }

/-- A signature was rejected. -/
def signatureRejected (m : Metrics) (reason : RejectionReason) : Metrics :=
  { m with rejected := fun r => if r = reason then m.rejected r + 1 else m.rejected r }

/-- A family of samples; a sample has a label, or none, and a value. -/
structure Family where
  name : String
  help : String
  kind : String
  samples : List (Option (String × String) × Int)

/-- The line of one sample. -/
def sampleLine (name : String) (label : Option (String × String)) (value : Int) : String :=
  match label with
  | none => s!"{name} {value}"
  | some (key, text) => name ++ "\x7b" ++ key ++ "=\"" ++ text ++ "\"\x7d " ++ toString value

/-- The lines of a family, none if it has no sample. -/
def Family.lines (f : Family) : List String :=
  if f.samples.isEmpty then []
  else s!"# HELP {f.name} {f.help}" :: s!"# TYPE {f.name} {f.kind}" ::
    f.samples.map fun (label, value) => sampleLine f.name label value

/-- The samples of a labelled family: of each label that was counted. -/
def labelled {α : Type} (key : String) (label : α → String) (count : α → Nat) (all : List α) :
    List (Option (String × String) × Int) :=
  (all.filter fun a => count a ≠ 0).map fun a => (some (key, label a), (count a : Int))

/-- All families, in the order of their names. -/
def families (m : Metrics) : List Family :=
  [ ⟨"avs_aggregation_active_tasks", "Number of aggregation tasks currently running", "gauge",
      [(none, m.active)]⟩,
    ⟨"avs_aggregation_signatures_accepted_total", "Total number of operator signatures accepted",
      "counter", [(none, m.accepted)]⟩,
    ⟨"avs_aggregation_signatures_rejected_total", "Total number of operator signatures rejected",
      "counter", labelled "reason" RejectionReason.label m.rejected RejectionReason.all⟩,
    ⟨"avs_aggregation_tasks_completed_total", "Total number of aggregation tasks finished",
      "counter", labelled "outcome" Outcome.label m.completed Outcome.all⟩,
    ⟨"avs_aggregation_tasks_initialized_total", "Total number of aggregation tasks initialized",
      "counter", [(none, m.initialized)]⟩ ]

/-- The lines that expose the counters. -/
def exposition (m : Metrics) : List String := m.families.flatMap Family.lines

end Metrics

end Attestation
