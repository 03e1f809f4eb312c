/-
Module: Attestation.Service.Error
Purpose: The errors of the service, and the outcomes under which finished tasks are counted.
Main exports: Outcome, AggregationError
-/
import Attestation.Task.State

namespace Attestation

/-- How a task ended. -/
inductive Outcome where
  | aborted
  | completed
  | expired
  | indicesRetrievalFailed
  | rejected
  | stateRetrievalFailed
deriving DecidableEq

namespace Outcome

/-- The label under which tasks with an outcome are counted. -/
def label : Outcome → String
  | aborted => "aborted"
  | completed => "completed"
  | expired => "expired"
  | indicesRetrievalFailed => "indices_retrieval_failed"
  | rejected => "rejected"
  | stateRetrievalFailed => "state_retrieval_failed"

/-- All outcomes, in the order of their labels. -/
def all : List Outcome :=
  [aborted, completed, expired, indicesRetrievalFailed, rejected, stateRetrievalFailed]

end Outcome

/-- Why a call to the service fails, or a task ends without a result. -/
inductive AggregationError where
  | alreadyInitialized (task : TaskIndex)
  | invalidTaskParameters (task : TaskIndex) (reason : ParameterError)
  | tooManyActiveTasks (task : TaskIndex) (limit : UInt64)
  | runtimeUnavailable (task : TaskIndex)
  | taskNotFound (task : TaskIndex)
  | cancelled (task : TaskIndex)
  | signature (task : TaskIndex) (source : SignatureError)
  | operatorsStateRetrieval (task : TaskIndex) (reason : String)
  | quorumsStateRetrieval (task : TaskIndex) (reason : String)
  | indicesRetrieval (task : TaskIndex) (reason : String)
  | taskExpired (task : TaskIndex)
deriving DecidableEq

namespace AggregationError

def message : AggregationError → String
  | alreadyInitialized task => s!"Task {task.toNat} is already initialized"
  | invalidTaskParameters task reason => s!"Invalid parameters for task {task.toNat}: {reason.message}"
  | tooManyActiveTasks task limit =>
    s!"Cannot start task {task.toNat}: {limit.toNat} tasks already active"
  | runtimeUnavailable task => s!"Cannot start task {task.toNat}: no Tokio runtime available"
  | taskNotFound task => s!"Task {task.toNat} not found"
  | cancelled task => s!"Signature submission for task {task.toNat} was cancelled"
  | signature task source => s!"Signature rejected for task {task.toNat}: {source.message}"
  | operatorsStateRetrieval task reason =>
    s!"Failed to fetch operator state for task {task.toNat}: {reason}"
  | quorumsStateRetrieval task reason => s!"Failed to fetch quorum state for task {task.toNat}: {reason}"
  | indicesRetrieval task reason =>
    s!"Failed to fetch check-signature indices for task {task.toNat}: {reason}"
  | taskExpired task => s!"Task {task.toNat} expired before reaching quorum"

/-- The outcome of a task that ends with the error. -/
def outcome : AggregationError → Outcome
  | taskExpired _ => .expired
  | operatorsStateRetrieval .. => .stateRetrievalFailed
  | quorumsStateRetrieval .. => .stateRetrievalFailed
  | indicesRetrieval .. => .indicesRetrievalFailed
  | _ => .rejected

/-- The message of the error that caused this one. -/
def source? : AggregationError → Option String
  | invalidTaskParameters _ reason => some reason.message
  | signature _ source => some source.message
  | _ => none

end AggregationError

end Attestation
