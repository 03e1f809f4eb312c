/-
Module: Attestation.Service.Schedule
Purpose: The order in which things happen to a service on a single thread with a virtual clock. Workers,
  calls and tokens take their turns in the order in which they were woken; who is woken again before its
  turn keeps its place. Only when nobody is left does the clock move, straight to the next alarm.
Main exports: Agent, Schedule, Schedule.begin, Schedule.settle, Schedule.catchUp, Schedule.finish,
  Schedule.pause, Schedule.waitForResponse
-/
import Attestation.Service.Delivery

namespace Attestation

/-- Who takes turns. The token of a call is cancelled in its turn, if it is time. -/
inductive Agent where
  | worker (id : WorkerId)
  | call (id : CallId)
  | token (id : CallId) (due : Nat)
deriving DecidableEq

/-- A service with what is going to happen to it. -/
structure Schedule (ρ σ : Type) where
  service : Service ρ σ
  /-- Who was woken, the earliest first. -/
  ready : List Agent
  /-- Who is to be woken when, in the order in which the alarms were set. -/
  alarms : List (Nat × Agent)
  /-- What calls have returned. -/
  returned : List (CallId × Except AggregationError Unit)

namespace Schedule

variable {ρ σ : Type}

def begin (service : Service ρ σ) : Schedule ρ σ := ⟨service, [], [], []⟩

def wake (s : Schedule ρ σ) (a : Agent) : Schedule ρ σ :=
  if a ∈ s.ready then s else { s with ready := s.ready ++ [a] }

def wakeAll (s : Schedule ρ σ) (agents : List Agent) : Schedule ρ σ := agents.foldl wake s

/-- The alarm that a signal of a worker sets. -/
def alarmOf? (id : WorkerId) : Signal → Option (Nat × Agent)
  | .alarm due => some (due, .worker id)
  | _ => none

/-- Whether somebody can still be woken: a worker that has ended cannot. -/
def isThere (service : Service ρ σ) : Agent → Bool
  | .worker id => service.workers.contains id
  | _ => true

/-- A worker takes a turn. The alarms of a worker that has ended are taken back. -/
def runWorker (E : Setting ρ σ) (s : Schedule ρ σ) (id : WorkerId) : Schedule ρ σ :=
  let ran := s.service.run E id
  let alarms := s.alarms ++ ran.signals.filterMap (alarmOf? id)
  { s with
    service := ran.service
    alarms := alarms.filter fun (_, a) => isThere ran.service a }.wakeAll
      (ran.woken.map Agent.call ++ if ran.again then [Agent.worker id] else [])

def runCall (s : Schedule ρ σ) (id : CallId) : Schedule ρ σ :=
  let polled := s.service.visit id
  let returned := polled.answer.toList.map (id, ·)
  { s with service := polled.service, returned := s.returned ++ returned }.wakeAll
    (polled.woken.toList.map Agent.worker ++ polled.admitted.toList.map Agent.call)

/-- A token is cancelled, or sets its alarm. -/
def runToken (s : Schedule ρ σ) (id : CallId) (due : Nat) : Schedule ρ σ :=
  if due ≤ s.service.now then
    let (service, running) := s.service.cancel id
    let s := { s with service := service }
    if running then s.wake (.call id) else s
  else { s with alarms := s.alarms ++ [(due, .token id due)] }

def runAgent (E : Setting ρ σ) (s : Schedule ρ σ) : Agent → Schedule ρ σ
  | .worker id => s.runWorker E id
  | .call id => s.runCall id
  | .token id due => s.runToken id due

/-- Lets those that were woken take their turns, at most a given number of turns. -/
def settleWithin (E : Setting ρ σ) : Nat → Schedule ρ σ → Schedule ρ σ
  | 0, s => s
  | turns + 1, s =>
    match s.ready with
    | [] => s
    | a :: rest => ({ s with ready := rest }.runAgent E a).settleWithin E turns

/-- Does everything that can be done now. A call wakes a worker once, when its submission enters the
inbox, and is woken at most four times: when it finds room, when it is answered, when its token is
cancelled and when its worker ends. A worker that takes another turn has taken submissions in the last. -/
def settle (E : Setting ρ σ) (s : Schedule ρ σ) : Schedule ρ σ :=
  let unread := s.service.workers.toList.foldr (fun (_, w) unread => w.inbox.length + unread) 0
  s.settleWithin E (s.ready.length + 5 * s.service.calls.size + unread)

/-- Wakes those whose alarms are due. -/
def fire (s : Schedule ρ σ) : Schedule ρ σ :=
  let (due, alarms) := s.alarms.partition fun (at', _) => at' ≤ s.service.now
  { s with alarms := alarms }.wakeAll (due.map Prod.snd)

/-- The next instant at which an alarm is due. -/
def next? (s : Schedule ρ σ) : Option Nat := (s.alarms.map (·.1)).min?

def advance (s : Schedule ρ σ) (now : Nat) : Schedule ρ σ := { s with service := s.service.advance now }

/-- Does everything that is due now. -/
def catchUp (E : Setting ρ σ) (s : Schedule ρ σ) : Schedule ρ σ := s.fire.settle E

/-- A bound on the number of instants at which something is due before the next command: a worker sets
at most five alarms, and a token one. -/
def instants (s : Schedule ρ σ) : Nat :=
  s.alarms.length + s.ready.length + 5 * s.service.workers.size + 1

/-- What calls have returned, if all of them have; a call may have been refused at once. -/
def results? (s : Schedule ρ σ) (calls : List (Except AggregationError CallId)) :
    Option (List (Except AggregationError Unit)) :=
  calls.mapM fun
    | .ok id => s.returned.lookup id
    | .error e => some (.error e)

/-- Lets time pass until all calls have returned, for at most a given number of instants. -/
def finishWithin (E : Setting ρ σ) (calls : List (Except AggregationError CallId)) :
    Nat → Schedule ρ σ → Schedule ρ σ × List (Except AggregationError Unit)
  | 0, s => (s, (s.results? calls).getD [])
  | instants + 1, s =>
    let s := s.catchUp E
    match s.results? calls, s.next? with
    | some results, _ => (s, results)
    | none, some due => (s.advance due).finishWithin E calls instants
    | none, none => (s, [])

/-- Lets time pass until all calls have returned. -/
def finish (E : Setting ρ σ) (s : Schedule ρ σ) (calls : List (Except AggregationError CallId)) :
    Schedule ρ σ × List (Except AggregationError Unit) :=
  let (s, results) := s.finishWithin E calls s.instants
  ({ s with returned := [] }, results)

/-- Lets time pass until an instant, for at most a given number of instants in between. What is due at
the end is left to do. -/
def pauseWithin (E : Setting ρ σ) (ending : Nat) : Nat → Schedule ρ σ → Schedule ρ σ
  | 0, s => s.advance ending
  | instants + 1, s =>
    match s.next? with
    | some due =>
      if due < ending then ((s.advance due).catchUp E).pauseWithin E ending instants else s.advance ending
    | none => s.advance ending

def pause (E : Setting ρ σ) (s : Schedule ρ σ) (span : Nat) : Schedule ρ σ :=
  s.pauseWithin E (sleepUntil s.service.now span) s.instants

/-- Lets time pass until there is a response, or else until an instant. What is due then is left to do.
-/
def waitForResponseWithin (E : Setting ρ σ) (ending : Nat) : Nat → Schedule ρ σ →
    Schedule ρ σ × Option (TaskResponse ρ)
  | 0, s => (s.advance ending, none)
  | instants + 1, s =>
    match s.service.receive, s.next? with
    | (some response, service), _ => ({ s with service := service }, some response)
    | (none, _), some due =>
      if due < ending then ((s.advance due).catchUp E).waitForResponseWithin E ending instants
      else (s.advance ending, none)
    | (none, _), none => (s.advance ending, none)

/-- Waits for the next response, for at most a span of time. -/
def waitForResponse (E : Setting ρ σ) (s : Schedule ρ σ) (timeout : Nat) :
    Schedule ρ σ × Option (TaskResponse ρ) :=
  s.waitForResponseWithin E (deadline s.service.now timeout) s.instants

end Schedule

end Attestation
