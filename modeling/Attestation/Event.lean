/-
Module: Attestation.Event
Purpose: What the service reports while it runs. Each event has a level, a message and named values.
Main exports: Event, Event.level, Event.message, Event.values, EventValue
-/
import Attestation.Task.State

namespace Attestation

/-- A value reported with an event. -/
inductive EventValue where
  | number (n : Nat)
  | text (s : String)
deriving DecidableEq

/-- What can be reported. -/
inductive Event where
  | taskInitialized (parameters : TaskParameters)
  | servedOperators (block : BlockNumber) (operators : Nat)
  | operatorsUnavailable (task : TaskIndex) (block : BlockNumber) (error : ProviderError)
  | quorumsUnavailable (task : TaskIndex) (block : BlockNumber) (error : ProviderError)
  | quorumMissing (task : TaskIndex) (quorum : QuorumNum)
  | snapshotFetched (task : TaskIndex) (operators : Nat)
  | signatureAccepted (task : TaskIndex) (operator : OperatorId)
  | signatureRejected (task : TaskIndex) (operator : OperatorId) (error : SignatureError)
  | thresholdsMet (task : TaskIndex)
  | windowOpened (task : TaskIndex) (window : Nat)
  | windowClosed (task : TaskIndex)
  | expiredWithWinner (task : TaskIndex)
  | expired (task : TaskIndex)
  | indicesUnavailable (task : TaskIndex) (error : ProviderError)
  | aggregated (task : TaskIndex) (nonSigners : Nat)
  | routeRemoved (task : TaskIndex)
  | receiverDropped (task : TaskIndex)
  | submitterGone (task : TaskIndex) (operator : OperatorId)
  | submissionCancelled (task : TaskIndex) (operator : OperatorId)
deriving DecidableEq

namespace Event

def level : Event → String
  | taskInitialized _ | thresholdsMet _ | windowOpened .. | windowClosed _ | expiredWithWinner _
  | aggregated .. => "INFO"
  | operatorsUnavailable .. | quorumsUnavailable .. | quorumMissing .. | indicesUnavailable .. => "ERROR"
  | expired _ => "WARN"
  | _ => "DEBUG"

def message : Event → String
  | taskInitialized _ => "Task initialized"
  | servedOperators .. => "Served operator state"
  | operatorsUnavailable .. => "Failed to fetch operator state"
  | quorumsUnavailable .. => "Failed to fetch quorum state"
  | quorumMissing .. => "Quorum state incomplete"
  | snapshotFetched .. => "Fetched registry snapshot"
  | signatureAccepted .. => "Signature accepted"
  | signatureRejected .. => "Signature rejected"
  | thresholdsMet _ => "Stake thresholds met"
  | windowOpened .. => "Stake thresholds met, window opened"
  | windowClosed _ => "Window closed, finalizing"
  | expiredWithWinner _ => "Task expired with thresholds met, finalizing"
  | expired _ => "Task expired before reaching quorum"
  | indicesUnavailable .. => "Failed to fetch check-signature indices"
  | aggregated .. => "Task aggregated"
  | routeRemoved _ => "Task route removed"
  | receiverDropped _ => "Response receiver dropped, discarding result"
  | submitterGone .. => "Submitter went away before the verdict"
  | submissionCancelled .. => "Signature submission cancelled"

/-- Quorum numbers between brackets, each with the name of its type. -/
def quorumsText (quorums : List QuorumNum) : String :=
  "[" ++ ", ".intercalate (quorums.map fun q => s!"QuorumNum({q.text})") ++ "]"

/-- The task that an event is about. -/
def taskValue (task : TaskIndex) : String × EventValue := ("task_index", .number task.toNat)

/-- A span of time in milliseconds, reported modulo the range of 64 bits. -/
def spanValue (name : String) (span : Nat) : String × EventValue := (name, .number (span % (1 <<< 64)))

def blockValue (name : String) (block : BlockNumber) : String × EventValue := (name, .number block.toNat)

def operatorValue (operator : OperatorId) : String × EventValue := ("operator_id", .text operator.text)

def errorValue (message : String) : String × EventValue := ("error", .text message)

/-- The named values of an event. -/
def values : Event → List (String × EventValue)
  | taskInitialized t =>
    [taskValue t.index, blockValue "created_at_block" t.block, ("quorums", .text (quorumsText t.quorums)),
      spanValue "expiry_ms" t.timeToExpiry, spanValue "window_ms" t.window]
  | servedOperators block n => [blockValue "block_number" block, ("operators", .number n)]
  | operatorsUnavailable task block e | quorumsUnavailable task block e =>
    [taskValue task, blockValue "block_number" block, errorValue e.message]
  | quorumMissing task q => [taskValue task, ("quorum", .text q.text)]
  | snapshotFetched task n => [taskValue task, ("operators", .number n)]
  | signatureAccepted task o => [taskValue task, operatorValue o]
  | signatureRejected task o e => [taskValue task, operatorValue o, errorValue e.message]
  | windowOpened task window => [taskValue task, spanValue "window_ms" window]
  | indicesUnavailable task e => [taskValue task, errorValue e.message]
  | aggregated task n => [taskValue task, ("non_signers", .number n)]
  | submitterGone task o | submissionCancelled task o => [taskValue task, operatorValue o]
  | thresholdsMet task | windowClosed task | expiredWithWinner task | expired task | routeRemoved task
  | receiverDropped task => [taskValue task]

end Event

end Attestation
