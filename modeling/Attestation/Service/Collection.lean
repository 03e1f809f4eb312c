/-
Module: Attestation.Service.Collection
Purpose: How a task collects signatures. Submissions are taken from an inbox in order until the task
  expires, or until the window closes that opens when the thresholds are first met; a task without a
  window is closed by the submission that meets them. A deadline that has been reached comes before a
  submission that is ready, and expiry before the window.
Main exports: CallId, Submission, Signal, Collection, Course, Collection.receive, Collection.poll
-/
import Attestation.Time
import Attestation.Event

namespace Attestation

/-- The number of a call that submits a signature. -/
abbrev CallId := Nat

/-- A signed response on its way to the worker of a task. -/
structure Submission (ρ : Type) where
  call : CallId
  operator : OperatorId
  response : ρ
  signature : Signature

/-- What a worker does that others notice. -/
inductive Signal where
  | report (event : Event)
  /-- A submission was taken from the inbox. -/
  | taken (call : CallId)
  | accepted (call : CallId)
  | rejected (call : CallId) (reason : RejectionReason)
  /-- A call is answered; a rejected submission with the reason. -/
  | verdict (call : CallId) (task : TaskIndex) (operator : OperatorId) (rejection : Option SignatureError)
  | alarm (due : Nat)

/-- A task while it collects signatures. -/
structure Collection (ρ : Type) where
  state : TaskState ρ
  /-- When the task expires. -/
  expiry : Nat
  /-- When the window closes; absent until the thresholds are met. -/
  windowEnd : Option Nat

/-- How it goes on with a collection. -/
inductive Course (ρ : Type) where
  | collecting (c : Collection ρ)
  /-- The result for the winning digest is due. -/
  | closed (state : TaskState ρ)
  | expired
  | crashed

/-- Signals in the order in which they were given, and how it goes on. -/
structure Progress (ρ : Type) where
  signals : List Signal
  course : Course ρ

namespace Collection

variable {ρ : Type}

/-- The task that is collected for. -/
def task (c : Collection ρ) : TaskIndex := c.state.parameters.index

/-- Goes on after an accepted submission that meets the thresholds for the first time. The window is
measured from now; if the clock cannot express its end, the worker crashes before it answers. -/
def close (c : Collection ρ) (now : Nat) (state : TaskState ρ) (verdict : Signal) : Progress ρ :=
  let window := state.parameters.window
  if window = 0 then ⟨[.report (.thresholdsMet c.task), verdict], .closed state⟩
  else
    let opened := Signal.report (.windowOpened c.task window)
    match later? now window with
    | some due =>
      ⟨[opened, .alarm due, verdict], .collecting { c with state := state, windowEnd := some due }⟩
    | none => ⟨[opened], .crashed⟩

/-- Decides on one submission. -/
def receive (J : Judge ρ) (c : Collection ρ) (now : Nat) (s : Submission ρ) : Progress ρ :=
  match c.state.submit J s.operator s.response s.signature with
  | .error .crash => ⟨[], .crashed⟩
  | .error (.error e) =>
    ⟨[.rejected s.call e.reason, .report (.signatureRejected c.task s.operator e),
      .verdict s.call c.task s.operator (some e)], .collecting c⟩
  | .ok (accepted, state) =>
    let counted := [.accepted s.call, .report (.signatureAccepted c.task s.operator)]
    let verdict := .verdict s.call c.task s.operator none
    if accepted.thresholdsMet && c.windowEnd.isNone then
      let rest := c.close now state verdict
      ⟨counted ++ rest.signals, rest.course⟩
    else ⟨counted ++ [verdict], .collecting { c with state := state }⟩

/-- The end of a collection whose deadline has been reached. -/
def overdue? (c : Collection ρ) (now : Nat) : Option (Progress ρ) :=
  if c.expiry ≤ now then
    if c.state.hasWinner then some ⟨[.report (.expiredWithWinner c.task)], .closed c.state⟩
    else some ⟨[.report (.expired c.task)], .expired⟩
  else if c.windowEnd.any (· ≤ now) then some ⟨[.report (.windowClosed c.task)], .closed c.state⟩
  else none

/-- Decides on the submissions of an inbox until it is empty or the collection ends, but takes no more
than a given number. Also returns the submissions that were not taken. -/
def poll (J : Judge ρ) (c : Collection ρ) (now : Nat) :
    Nat → List (Submission ρ) → Progress ρ × List (Submission ρ)
  | 0, inbox => (⟨[], .collecting c⟩, inbox)
  | share + 1, inbox =>
    match c.overdue? now with
    | some progress => (progress, inbox)
    | none =>
      match inbox with
      | [] => (⟨[], .collecting c⟩, [])
      | s :: unread =>
        let first := c.receive J now s
        match first.course with
        | .collecting c =>
          let (rest, unread) := c.poll J now share unread
          (⟨.taken s.call :: first.signals ++ rest.signals, rest.course⟩, unread)
        | course => (⟨.taken s.call :: first.signals, course⟩, unread)

end Collection

end Attestation
