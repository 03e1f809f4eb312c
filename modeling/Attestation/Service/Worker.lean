/-
Module: Attestation.Service.Worker
Purpose: The life of one task. A worker asks the registry for the operators and the quorums of its task,
  collects signatures against what it was told, asks for the indices of those that did not sign the
  winning digest, and ends with one response. It runs in turns: a turn goes on until there is nothing to
  do before the clock moves or a submission arrives, or until the worker has had its share.
Main exports: TaskResponse, Setting, Phase, Worker, Fate, Turn, Worker.run
-/
import Attestation.Registry.Provider
import Attestation.Service.Collection
import Attestation.Service.Error

namespace Attestation

/-- How a task is answered. -/
abbrev TaskResponse (ρ : Type) := Except AggregationError (TaskResult ρ)

/-- What the workers of a service work with. -/
structure Setting (ρ σ : Type) where
  judge : Judge ρ
  provider : Provider σ

/-- What a worker is doing. An awaited answer is given when it is due. -/
inductive Phase (ρ : Type) where
  | starting
  | awaitingOperators (due : Nat)
  | awaitingQuorums (operators : OperatorStates) (due : Nat)
  | collecting (c : Collection ρ)
  | awaitingIndices (state : TaskState ρ) (nonSigners : List OperatorId) (due : Nat)

/-- A running worker with the submissions that wait for it. -/
structure Worker (ρ : Type) where
  parameters : TaskParameters
  inbox : List (Submission ρ)
  phase : Phase ρ

/-- What becomes of a worker after a turn. -/
inductive Fate (ρ : Type) where
  | waiting (phase : Phase ρ)
  | finished (response : TaskResponse ρ)
  | crashed

/-- What a turn leaves behind. -/
structure Turn (ρ σ : Type) where
  registry : σ
  signals : List Signal
  unread : List (Submission ρ)
  fate : Fate ρ

/-- The turn with earlier signals in front. -/
def Turn.after {ρ σ : Type} (t : Turn ρ σ) (signals : List Signal) : Turn ρ σ :=
  { t with signals := signals ++ t.signals }

section After

variable {ρ σ : Type} (t : Turn ρ σ) (signals : List Signal)

@[simp] theorem Turn.after_registry : (t.after signals).registry = t.registry := rfl

@[simp] theorem Turn.after_unread : (t.after signals).unread = t.unread := rfl

@[simp] theorem Turn.after_fate : (t.after signals).fate = t.fate := rfl

end After

/-- Whether the worker has had its share while submissions wait. -/
def Turn.isCutShort {ρ σ : Type} (t : Turn ρ σ) : Bool :=
  match t.fate with
  | .waiting (.collecting _) => !t.unread.isEmpty
  | _ => false

/-- The events of a reply as signals. -/
def Reply.signals {σ α : Type} (r : Reply σ α) : List Signal := r.events.map .report

namespace Worker

variable {ρ σ : Type} (E : Setting ρ σ)

/-- The task that the worker works for. -/
def task (w : Worker ρ) : TaskIndex := w.parameters.index

/-- A turn that ends here. -/
def stop (w : Worker ρ) (registry : σ) (signals : List Signal) (fate : Fate ρ) : Turn ρ σ :=
  ⟨registry, signals, w.inbox, fate⟩

/-- A turn that ends with an error after it was reported. -/
def fail (w : Worker ρ) (registry : σ) (event : Event) (e : AggregationError) : Turn ρ σ :=
  w.stop registry [.report event] (.finished (.error e))

/-- Goes on at once if a query takes no time, and otherwise waits for its answer. -/
def ask (w : Worker ρ) (now : Nat) (registry : σ) (phase : Nat → Phase ρ) (next : Unit → Turn ρ σ) :
    Turn ρ σ :=
  let latency := E.provider.latency registry
  if latency = 0 then next ()
  else
    let due := sleepUntil now latency
    w.stop registry [.alarm due] (.waiting (phase due))

/-- The indices are answered. -/
def conclude (w : Worker ρ) (registry : σ) (state : TaskState ρ) (nonSigners : List OperatorId) :
    Turn ρ σ :=
  let reply := E.provider.indices registry w.parameters.block w.parameters.quorums nonSigners
  let turn := match reply.answer with
    | .error .crash => w.stop reply.registry [] .crashed
    | .error (.error e) =>
      w.fail reply.registry (.indicesUnavailable w.task e) (.indicesRetrieval w.task e.message)
    | .ok indices =>
      match state.result? indices with
      | none => w.stop reply.registry [] (.finished (.error (.taskExpired w.task)))
      | some result =>
        w.stop reply.registry [.report (.aggregated w.task result.nonSigners.length)]
          (.finished (.ok result))
  turn.after reply.signals

/-- The collection is over: asks for the indices of the operators that did not sign the winning digest.
-/
def finalize (w : Worker ρ) (now : Nat) (registry : σ) (state : TaskState ρ) : Turn ρ σ :=
  match state.winningNonSigners? with
  | none => w.stop registry [] (.finished (.error (.taskExpired w.task)))
  | some nonSigners =>
    let ids := nonSigners.map (·.1)
    w.ask E now registry (.awaitingIndices state ids) fun _ => w.conclude E registry state ids

/-- How much a worker does in one turn: so many submissions it takes, or one less if the turn begins with
an answer of the registry that it waited for. -/
def share : Nat := 128

/-- Takes submissions from the inbox. -/
def collect (w : Worker ρ) (now : Nat) (registry : σ) (share : Nat) (c : Collection ρ) : Turn ρ σ :=
  let (progress, unread) := c.poll E.judge now share w.inbox
  let w := { w with inbox := unread }
  let turn := match progress.course with
    | .collecting c => w.stop registry [] (.waiting (.collecting c))
    | .closed state => w.finalize E now registry state
    | .expired => w.stop registry [] (.finished (.error (.taskExpired w.task)))
    | .crashed => w.stop registry [] .crashed
  turn.after progress.signals

/-- The collection as it begins. -/
def collection (w : Worker ρ) (now : Nat) (snapshot : Snapshot) : Collection ρ :=
  ⟨.start w.parameters snapshot, sleepUntil now w.parameters.timeToExpiry, none⟩

/-- The quorums are answered. The time to expiry starts when both answers are there and fit together. -/
def receiveQuorums (w : Worker ρ) (now : Nat) (registry : σ) (share : Nat) (operators : OperatorStates) :
    Turn ρ σ :=
  let reply := E.provider.quorums registry w.parameters.quorums w.parameters.block
  let turn := match reply.answer with
    | .error .crash => w.stop reply.registry [] .crashed
    | .error (.error e) =>
      w.fail reply.registry (.quorumsUnavailable w.task w.parameters.block e)
        (.quorumsStateRetrieval w.task e.message)
    | .ok states =>
      match Snapshot.ofStates w.parameters.quorums operators states with
      | .error q =>
        w.fail reply.registry (.quorumMissing w.task q)
          (.quorumsStateRetrieval w.task s!"no state returned for quorum {q.text}")
      | .ok snapshot =>
        let c := w.collection now snapshot
        (w.collect E now reply.registry share c).after
          [.report (.snapshotFetched w.task snapshot.operators.size), .alarm c.expiry]
  turn.after reply.signals

/-- The operators are answered: asks for the quorums. -/
def receiveOperators (w : Worker ρ) (now : Nat) (registry : σ) (share : Nat) : Turn ρ σ :=
  let reply := E.provider.operators registry w.parameters.quorums w.parameters.block
  let turn := match reply.answer with
    | .error .crash => w.stop reply.registry [] .crashed
    | .error (.error e) =>
      w.fail reply.registry (.operatorsUnavailable w.task w.parameters.block e)
        (.operatorsStateRetrieval w.task e.message)
    | .ok operators =>
      w.ask E now reply.registry (.awaitingQuorums operators) fun _ =>
        w.receiveQuorums E now reply.registry share operators
  turn.after reply.signals

/-- One turn. A worker that waits for an answer which is not due yet does nothing. -/
def run (w : Worker ρ) (now : Nat) (registry : σ) : Turn ρ σ :=
  match w.phase with
  | .starting =>
    w.ask E now registry .awaitingOperators fun _ => w.receiveOperators E now registry share
  | .awaitingOperators due =>
    if due ≤ now then w.receiveOperators E now registry (share - 1)
    else w.stop registry [] (.waiting w.phase)
  | .awaitingQuorums operators due =>
    if due ≤ now then w.receiveQuorums E now registry (share - 1) operators
    else w.stop registry [] (.waiting w.phase)
  | .collecting c => w.collect E now registry share c
  | .awaitingIndices state nonSigners due =>
    if due ≤ now then w.conclude E registry state nonSigners else w.stop registry [] (.waiting w.phase)

end Worker

end Attestation
