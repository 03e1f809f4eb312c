/-
Module: Attestation.Service.State
Purpose: The aggregation service. It starts one worker for each task, finds the worker to which a
  submitted signature goes, and keeps the responses for a single receiver. Everything that happens is
  one of a few actions, each a total function on the state: here a task is started, a call begins, a
  worker ends, the clock moves, the receiver is claimed, read or dropped.
Main exports: WorkerId, Stage, Call, Receiver, Service, Service.create, Service.startTask,
  Service.submit, Service.retire, Service.respond, Service.advance, Service.claimStream,
  Service.dropStream, Service.receive, Service.receiveAll, Service.shutdown
-/
import Attestation.Service.Config
import Attestation.Service.Metrics
import Attestation.Service.Worker

namespace Attestation

/-- The number of a worker. No number is used twice. -/
abbrev WorkerId := Nat

/-- How far a submission has come. -/
inductive Stage where
  /-- The call has done nothing yet. -/
  | begun
  /-- It waits for room in the inbox, at some place in the line. -/
  | waiting (place : Nat)
  /-- Room in the inbox is kept for it. -/
  | admitted
  /-- It is in the inbox or with the worker. -/
  | sent
  /-- The worker has answered; a rejected submission with the reason. -/
  | answered (rejection : Option SignatureError)
deriving DecidableEq

def Stage.isWaiting : Stage → Bool
  | .waiting _ => true
  | _ => false

/-- The place in the line; a call that does not wait has none. -/
def Stage.place : Stage → Nat
  | .waiting place => place
  | _ => 0

/-- A call that submits a signature to the worker whose route it found. -/
structure Call (ρ : Type) where
  task : TaskIndex
  worker : WorkerId
  submission : Submission ρ
  /-- Whether its token has fired. -/
  cancelled : Bool
  stage : Stage
  /-- Whether the call has looked at its token, which had not fired, and is about to go on. What it does
  then it does without another look. -/
  cleared : Bool

/-- Who holds the receiving end of the responses. -/
inductive Receiver where
  | unclaimed
  | claimed
  | dropped
deriving DecidableEq

/-- The state of a service over responses of type `ρ` and a registry with states of type `σ`. -/
structure Service (ρ σ : Type) where
  config : Config
  /-- The clock, in milliseconds. -/
  now : Nat
  registry : σ
  /-- The worker of each active task. -/
  routes : SortedMap TaskIndex WorkerId
  /-- The workers that are running. -/
  workers : SortedMap WorkerId (Worker ρ)
  /-- How many workers were ever started. -/
  started : WorkerId
  /-- The calls that have not returned. -/
  calls : SortedMap CallId (Call ρ)
  /-- How many calls were ever made. -/
  made : CallId
  /-- All responses with the workers that gave them, the earliest first. -/
  responses : List (WorkerId × TaskResponse ρ)
  /-- How many responses were received. -/
  received : Nat
  receiver : Receiver
  metrics : Metrics
  /-- All events, the earliest first. -/
  journal : List Event

def TaskResponse.outcome {ρ : Type} : TaskResponse ρ → Outcome
  | .ok _ => .completed
  | .error e => e.outcome

namespace Service

variable {ρ σ : Type}

/-- A service without tasks, at time zero. -/
def create (config : Config) (registry : σ) : Except ConfigError (Service ρ σ) := do
  config.validate
  return {
    config := config
    now := 0
    registry := registry
    routes := ∅
    workers := ∅
    started := 0
    calls := ∅
    made := 0
    responses := []
    received := 0
    receiver := .unclaimed
    metrics := .zero
    journal := [] }

def report (s : Service ρ σ) (events : List Event) : Service ρ σ :=
  { s with journal := s.journal ++ events }

def isTaskActive (s : Service ρ σ) (task : TaskIndex) : Bool := s.routes.contains task

def activeTaskCount (s : Service ρ σ) : Nat := s.routes.size

/-- The largest inbox that can be made. -/
def largestInbox : Nat := (1 <<< 61) - 1

/-- Adds the route and the worker of a task. -/
def launch (s : Service ρ σ) (t : TaskParameters) : Service ρ σ :=
  { s with
    routes := s.routes.insert t.index s.started
    workers := s.workers.insert s.started ⟨t, [], .starting⟩
    started := s.started + 1
    metrics := s.metrics.taskInitialized }.report [.taskInitialized t]

/-- Starts a task, or reports the first reason not to: bad parameters, no runtime to run a worker on, an
active task of the same index, too many active tasks. Asking for an inbox that cannot be made is a
crash. -/
def startTask (s : Service ρ σ) (runtime : Bool) (t : TaskParameters) :
    Except (Failure AggregationError) (Service ρ σ) :=
  match t.validate with
  | .error reason => .error (.error (.invalidTaskParameters t.index reason))
  | .ok () =>
    if !runtime then .error (.error (.runtimeUnavailable t.index))
    else if largestInbox < s.config.inboxCapacity.toNat then .error .crash
    else if s.routes.contains t.index then .error (.error (.alreadyInitialized t.index))
    else if s.config.maxActiveTasks.toNat ≤ s.routes.size then
      .error (.error (.tooManyActiveTasks t.index s.config.maxActiveTasks))
    else .ok (s.launch t)

/-- Begins a call that submits a signature, if the task has a route. -/
def submit (s : Service ρ σ) (task : TaskIndex) (operator : OperatorId) (response : ρ)
    (signature : Signature) (cancelled : Bool) : Except AggregationError (Service ρ σ) :=
  match s.routes.get? task with
  | none => .error (.taskNotFound task)
  | some worker =>
    let call := ⟨task, worker, ⟨s.made, operator, response, signature⟩, cancelled, .begun, false⟩
    .ok { s with calls := s.calls.insert s.made call, made := s.made + 1 }

/-- Removes a worker that has ended, and with it the route of its task. -/
def retire (s : Service ρ σ) (id : WorkerId) (task : TaskIndex) (outcome : Outcome) : Service ρ σ :=
  { s with
    workers := s.workers.erase id
    routes := s.routes.erase task
    metrics := s.metrics.taskCompleted outcome }.report [.routeRemoved task]

/-- Keeps a response for the receiver, unless that was dropped. -/
def respond (s : Service ρ σ) (id : WorkerId) (task : TaskIndex) (response : TaskResponse ρ) :
    Service ρ σ :=
  if s.receiver = .dropped then s.report [.receiverDropped task]
  else { s with responses := s.responses ++ [(id, response)] }

def advance (s : Service ρ σ) (now : Nat) : Service ρ σ := { s with now := max s.now now }

/-- Claims the receiving end of the responses; only the first claim succeeds. -/
def claimStream (s : Service ρ σ) : Bool × Service ρ σ :=
  if s.receiver = .unclaimed then (true, { s with receiver := .claimed }) else (false, s)

/-- Drops the receiving end, if it was claimed. -/
def dropStream (s : Service ρ σ) : Service ρ σ :=
  if s.receiver = .claimed then { s with receiver := .dropped } else s

/-- The next response that is there already. -/
def receive (s : Service ρ σ) : Option (TaskResponse ρ) × Service ρ σ :=
  match s.responses[s.received]? with
  | some (_, response) => (some response, { s with received := s.received + 1 })
  | none => (none, s)

/-- All responses that are there already and were not received. -/
def receiveAll (s : Service ρ σ) : List (TaskResponse ρ) × Service ρ σ :=
  ((s.responses.drop s.received).map (·.2), { s with received := s.responses.length })

/-- Ends the service; the workers that still run are aborted. -/
def shutdown (s : Service ρ σ) : Service ρ σ :=
  s.workers.toList.foldl (fun s (id, worker) => s.retire id worker.task .aborted) s

end Service

end Attestation
