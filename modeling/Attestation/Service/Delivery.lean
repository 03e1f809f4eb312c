/-
Module: Attestation.Service.Delivery
Purpose: How submissions come to the workers and verdicts back to the calls. A call that is woken looks at
  its token first, then puts its submission into the inbox, then looks for an answer; between two of these
  steps anything else can happen. An inbox has room for a fixed number of submissions. Calls that find none
  wait in line: whenever a worker takes a submission, room is kept for the first of them, and a call that
  does not use its room leaves it to the next. Every action tells whom it wakes, in order.
Main exports: Polled, Ran, Service.keepRoom, Service.mem_callsAt, Service.place_le_of_firstInLine?,
  Service.firstInLine?_eq_none_iff, Service.place_le_lastPlace, Service.cancel, Service.poll, Service.visit,
  Service.run
-/
import Attestation.Service.State

namespace Attestation

/-- What a step of a call shows. -/
structure Polled (ρ σ : Type) where
  service : Service ρ σ
  /-- What the call returns, if it returns. -/
  answer : Option (Except AggregationError Unit)
  /-- The worker whose inbox has received the submission just now. -/
  woken : Option WorkerId
  /-- The call that may use the room which this call has left. -/
  admitted : Option CallId

/-- What a turn of a worker shows. -/
structure Ran (ρ σ : Type) where
  service : Service ρ σ
  signals : List Signal
  /-- The calls that are woken. -/
  woken : List CallId
  /-- Whether the worker is to take another turn after others. -/
  again : Bool

namespace Service

variable {ρ σ : Type}

/-- Puts a call that has not returned into another stage. -/
def setStage (s : Service ρ σ) (id : CallId) (call : Call ρ) (stage : Stage) : Service ρ σ :=
  { s with calls := s.calls.insert id { call with stage := stage } }

/-- The calls at some stages that concern a worker, in the order in which they were made. -/
def callsAt (s : Service ρ σ) (worker : WorkerId) (stages : Stage → Bool) : List (CallId × Call ρ) :=
  s.calls.toList.filter fun (_, call) => call.worker = worker && stages call.stage

/-- The last place in the line for a worker's inbox. -/
def lastPlace (s : Service ρ σ) (worker : WorkerId) : Nat :=
  (s.callsAt worker Stage.isWaiting).foldr (fun (_, call) last => max call.stage.place last) 0

/-- The call that has waited longest for room in a worker's inbox. -/
def firstInLine? (s : Service ρ σ) (worker : WorkerId) : Option (CallId × Call ρ) :=
  let line := s.callsAt worker Stage.isWaiting
  line.find? fun (_, call) => line.all fun (_, other) => call.stage.place ≤ other.stage.place

/-- Keeps room in a worker's inbox for the call that has waited longest. -/
def keepRoom (s : Service ρ σ) (worker : WorkerId) : Service ρ σ × Option CallId :=
  match s.firstInLine? worker with
  | some (id, call) => (s.setStage id call .admitted, some id)
  | none => (s, none)

section Line

variable {s : Service ρ σ} {worker : WorkerId} {id k : CallId} {call other : Call ρ}

theorem mem_callsAt {stages : Stage → Bool} : (id, call) ∈ s.callsAt worker stages ↔
    s.calls.get? id = some call ∧ call.worker = worker ∧ stages call.stage = true := by
  unfold callsAt
  rw [List.mem_filter, SortedMap.get?_eq_some_iff, Bool.and_eq_true, decide_eq_true_eq]

theorem mem_of_firstInLine? (first : s.firstInLine? worker = some (id, call)) :
    (id, call) ∈ s.callsAt worker Stage.isWaiting := List.mem_of_find?_eq_some first

/-- No call that waits has waited longer than the first in line. -/
theorem place_le_of_firstInLine? (first : s.firstInLine? worker = some (id, call))
    (waits : (k, other) ∈ s.callsAt worker Stage.isWaiting) : call.stage.place ≤ other.stage.place := by
  have least := List.find?_some first
  exact of_decide_eq_true (List.all_eq_true.1 least _ waits)

/-- Somebody is first in line if anybody waits. -/
theorem firstInLine?_eq_none_iff :
    s.firstInLine? worker = none ↔ s.callsAt worker Stage.isWaiting = [] := by
  have least : ∀ line : List (CallId × Call ρ), line ≠ [] →
      ∃ e ∈ line, ∀ other ∈ line, e.2.stage.place ≤ other.2.stage.place := by
    intro line
    induction line with
    | nil => exact fun none => absurd rfl none
    | cons e rest ih =>
      intro _
      by_cases alone : rest = []
      · subst alone
        exact ⟨e, List.mem_cons_self, by simp⟩
      · obtain ⟨first, member, smallest⟩ := ih alone
        rcases Nat.le_total e.2.stage.place first.2.stage.place with before | after
        · refine ⟨e, List.mem_cons_self, List.forall_mem_cons.2 ⟨Nat.le_refl _, fun other later => ?_⟩⟩
          exact Nat.le_trans before (smallest other later)
        · exact ⟨first, List.mem_cons_of_mem e member, List.forall_mem_cons.2 ⟨after, smallest⟩⟩
  constructor
  · intro nobody
    refine Decidable.byContradiction fun some => ?_
    obtain ⟨e, member, smallest⟩ := least _ some
    have other := List.find?_eq_none.1 nobody e member
    exact other (List.all_eq_true.2 fun o waits => decide_eq_true (smallest o waits))
  · intro empty
    unfold firstInLine?
    rw [empty]
    rfl

/-- Who gets in line gets in behind all that wait. -/
theorem place_le_lastPlace (waits : (id, call) ∈ s.callsAt worker Stage.isWaiting) :
    call.stage.place ≤ s.lastPlace worker := by
  unfold lastPlace
  generalize s.callsAt worker Stage.isWaiting = line at waits
  induction line with
  | nil => cases waits
  | cons e rest ih =>
    rcases List.mem_cons.1 waits with rfl | later
    · exact Nat.le_max_left _ _
    · exact Nat.le_trans (ih later) (Nat.le_max_right _ _)

end Line

/-- Cancels the token of a call. Tells whether the call was still running. -/
def cancel (s : Service ρ σ) (id : CallId) : Service ρ σ × Bool :=
  match s.calls.get? id with
  | some call => ({ s with calls := s.calls.insert id { call with cancelled := true } }, true)
  | none => (s, false)

def idle (s : Service ρ σ) : Polled ρ σ := ⟨s, none, none, none⟩

/-- The call returns. -/
def finishCall (s : Service ρ σ) (id : CallId) (answer : Except AggregationError Unit) : Polled ρ σ :=
  ⟨{ s with calls := s.calls.erase id }, some answer, none, none⟩

/-- The call returns since its token was cancelled. Room that was kept for it goes to the next. -/
def abandon (s : Service ρ σ) (id : CallId) (call : Call ρ) : Polled ρ σ :=
  let polled := (s.report [.submissionCancelled call.task call.submission.operator]).finishCall id
    (.error (.cancelled call.task))
  if call.stage = .admitted then
    let (service, next) := polled.service.keepRoom call.worker
    { polled with service := service, admitted := next }
  else polled

/-- Puts the submission of a call into the worker's inbox. -/
def send (s : Service ρ σ) (id : CallId) (call : Call ρ) (worker : Worker ρ) : Polled ρ σ :=
  let worker := { worker with inbox := worker.inbox ++ [call.submission] }
  ⟨{ s with workers := s.workers.insert call.worker worker }.setStage id call .sent, none,
    some call.worker, none⟩

/-- Whether an inbox has room that is kept for nobody. -/
def hasRoom (s : Service ρ σ) (id : WorkerId) (worker : Worker ρ) : Bool :=
  worker.inbox.length + (s.callsAt id (· = .admitted)).length < s.config.inboxCapacity.toNat

/-- The call has looked at its token and is about to go on. -/
def clear (s : Service ρ σ) (id : CallId) (call : Call ρ) : Service ρ σ :=
  { s with calls := s.calls.insert id { call with cleared := true } }

/-- The call rests at a stage until it is woken. -/
def rest (s : Service ρ σ) (id : CallId) (call : Call ρ) (stage : Stage) : Service ρ σ :=
  s.setStage id { call with cleared := false } stage

/-- One step of a call. It looks at its token; if that has not fired, it goes on in the next step, whether
or not the token fires in between: it returns the answer that is there, or that there is no worker any
more, or puts its submission into the inbox, or gets in line, or rests until it is woken. -/
def poll (s : Service ρ σ) (id : CallId) : Polled ρ σ :=
  match s.calls.get? id with
  | none => s.idle
  | some call =>
    if call.cleared then
      match call.stage, s.workers.get? call.worker with
      | .answered none, _ => s.finishCall id (.ok ())
      | .answered (some e), _ => s.finishCall id (.error (.signature call.task e))
      | _, none => s.finishCall id (.error (.taskNotFound call.task))
      | .begun, some worker =>
        if s.hasRoom call.worker worker then s.send id call worker
        else (s.rest id call (.waiting (s.lastPlace call.worker + 1))).idle
      | .admitted, some worker => s.send id call worker
      | .waiting _, some _ | .sent, some _ => (s.rest id call call.stage).idle
    else if call.cancelled then s.abandon id call
    else (s.clear id call).idle

/-- The call has looked at its token and is about to go on. -/
def isCleared (s : Service ρ σ) (id : CallId) : Bool := (s.calls.get? id).any (·.cleared)

/-- The step after another one, if the call is about to go on. -/
def goOn (id : CallId) (p : Polled ρ σ) : Polled ρ σ :=
  if p.service.isCleared id then
    let next := p.service.poll id
    ⟨next.service, next.answer, p.woken.or next.woken, p.admitted.or next.admitted⟩
  else p

/-- All the steps that a call takes when nothing comes between them: it looks at its token, puts its
submission into the inbox and looks for an answer. -/
def visit (s : Service ρ σ) (id : CallId) : Polled ρ σ := goOn id (goOn id (s.poll id))

/-- Passes a signal of a worker on. A verdict whose call has returned is only reported. -/
def note (s : Service ρ σ) (worker : WorkerId) : Signal → Service ρ σ × Option CallId
  | .report event => (s.report [event], none)
  | .taken _ => s.keepRoom worker
  | .accepted _ => ({ s with metrics := s.metrics.signatureAccepted }, none)
  | .rejected _ reason => ({ s with metrics := s.metrics.signatureRejected reason }, none)
  | .verdict id task operator rejection =>
    match s.calls.get? id with
    | some call => (s.setStage id call (.answered rejection), some id)
    | none => (s.report [.submitterGone task operator], none)
  | .alarm _ => (s, none)

def noteAll (s : Service ρ σ) (worker : WorkerId) : List Signal → Service ρ σ × List CallId
  | [] => (s, [])
  | signal :: rest =>
    let (s, woken) := s.note worker signal
    let (s, others) := s.noteAll worker rest
    (s, woken.toList ++ others)

/-- The calls that learn from the end of a worker that they get no answer: the one whose submission the
worker had at hand, those that wait for room, and those whose submissions are still in the inbox. -/
def stranded (s : Service ρ σ) (worker : WorkerId) (unread : List (Submission ρ)) : List CallId :=
  let queued := (unread.map (·.call)).filter s.calls.contains
  let sent := (s.callsAt worker (· = .sent)).map (·.1)
  sent.filter (· ∉ queued) ++ (s.callsAt worker Stage.isWaiting).map (·.1) ++ queued

/-- Takes over what a turn of a worker leaves behind. The route is removed before the response is sent,
so who reads a response finds its task inactive. -/
def settle (s : Service ρ σ) (id : WorkerId) (worker : Worker ρ) (turn : Turn ρ σ) : Ran ρ σ :=
  let (s, woken) := { s with registry := turn.registry }.noteAll id turn.signals
  match turn.fate with
  | .waiting phase =>
    ⟨{ s with workers := s.workers.insert id { worker with inbox := turn.unread, phase := phase } },
      turn.signals, woken, turn.isCutShort⟩
  | .finished response =>
    ⟨(s.retire id worker.task response.outcome).respond id worker.task response, turn.signals,
      woken ++ s.stranded id turn.unread, false⟩
  | .crashed =>
    ⟨s.retire id worker.task .aborted, turn.signals, woken ++ s.stranded id turn.unread, false⟩

def run (E : Setting ρ σ) (s : Service ρ σ) (id : WorkerId) : Ran ρ σ :=
  match s.workers.get? id with
  | none => ⟨s, [], [], false⟩
  | some worker => s.settle id worker (worker.run E s.now s.registry)

end Service

end Attestation
