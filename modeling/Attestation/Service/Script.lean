/-
Module: Attestation.Service.Script
Purpose: A service on a registry kept in memory, driven by a list of commands. A command ends as soon as
  its answer is known; what else is due at that instant is done before the next command.
Main exports: Attempt, Command, Answer, Step, Schedule.perform, Schedule.performAll
-/
import Attestation.Registry.Command
import Attestation.Service.Schedule

namespace Attestation

/-- A signature to submit, and what happens to the token of the call. -/
structure Attempt (ρ : Type) where
  task : TaskIndex
  operator : OperatorId
  response : ρ
  signature : Signature
  /-- Whether the token is cancelled before the call. -/
  cancelled : Bool
  /-- How long after the call the token is cancelled. -/
  cancelAfter : Option Nat

/-- What can be ordered. -/
inductive Command (ρ : Type) where
  | startTask (runtime : Bool) (parameters : TaskParameters)
  /-- Submits signatures concurrently. -/
  | submit (attempts : List (Attempt ρ))
  /-- Waits for the next response. -/
  | next (timeout : Nat)
  /-- Reads all responses that are there. -/
  | drain
  | claimStream
  | dropStream
  | sleep (span : Nat)
  | isActive (task : TaskIndex)
  | metrics
  | registry (command : RegistryCommand)

/-- What a command answers. -/
inductive Answer (ρ : Type) where
  | done
  | started (result : Except (Failure AggregationError) Unit)
  | submitted (results : List (Except AggregationError Unit))
  | response (response : TaskResponse ρ)
  | responses (responses : List (TaskResponse ρ))
  | timeout
  | noStream
  | truth (value : Bool)
  | exposition (lines : List String)
  | registry (answer : RegistryAnswer)

/-- An answer, when it was given, and how many tasks were active when all was done. -/
structure Step (ρ : Type) where
  answer : Answer ρ
  time : Nat
  active : Nat

namespace Schedule

variable {ρ : Type}

/-- Begins a call and looks at it for the first time. If its token is going to be cancelled, that is
arranged first. -/
def attempt {σ : Type} (s : Schedule ρ σ) (a : Attempt ρ) :
    Schedule ρ σ × Except AggregationError CallId :=
  match s.service.submit a.task a.operator a.response a.signature a.cancelled with
  | .error e => (s, .error e)
  | .ok service =>
    let id := s.service.made
    let token := a.cancelAfter.map fun span => Agent.token id (sleepUntil service.now span)
    (({ s with service := service }.wakeAll token.toList).runCall id, .ok id)

/-- Begins all calls, in order. -/
def attemptAll {σ : Type} (s : Schedule ρ σ) :
    List (Attempt ρ) → Schedule ρ σ × List (Except AggregationError CallId)
  | [] => (s, [])
  | a :: rest =>
    let (s, call) := s.attempt a
    let (s, calls) := s.attemptAll rest
    (s, call :: calls)

/-- Claims the stream for a command that reads it; absent if it was dropped. -/
def holding? {σ : Type} (s : Schedule ρ σ) : Option (Schedule ρ σ) :=
  if s.service.receiver = .dropped then none else some { s with service := s.service.claimStream.2 }

/-- Carries out a command until its answer is known. -/
def perform (C : PairingCurve) (E : Setting ρ Registry) (s : Schedule ρ Registry) :
    Command ρ → Answer ρ × Schedule ρ Registry
  | .startTask runtime parameters =>
    match s.service.startTask runtime parameters with
    | .ok service => (.started (.ok ()), { s with service := service }.wake (.worker s.service.started))
    | .error e => (.started (.error e), s)
  | .submit attempts =>
    let (s, calls) := s.attemptAll attempts
    let (s, results) := s.finish E calls
    (.submitted results, s)
  | .next timeout =>
    match s.holding? with
    | none => (.noStream, s)
    | some s =>
      let (s, response) := s.waitForResponse E timeout
      ((response.map Answer.response).getD .timeout, s)
  | .drain =>
    match s.holding? with
    | none => (.noStream, s)
    | some s =>
      let (responses, service) := s.service.receiveAll
      (.responses responses, { s with service := service })
  | .claimStream =>
    let (claimed, service) := s.service.claimStream
    (.truth claimed, { s with service := service })
  | .dropStream => (.done, { s with service := s.service.dropStream })
  | .sleep span => (.done, s.pause E span)
  | .isActive task => (.truth (s.service.isTaskActive task), s)
  | .metrics => (.exposition s.service.metrics.exposition, s)
  | .registry command =>
    let s := s.pause E (s.service.registry.delay command)
    let p := s.service.registry.perform C command
    (.registry p.answer, { s with service := { s.service with registry := p.registry }.report p.events })

/-- Carries out commands in order. Before the next one begins, all that is due at the same instant is
done. -/
def performAll (C : PairingCurve) (E : Setting ρ Registry) (s : Schedule ρ Registry) :
    List (Command ρ) → List (Step ρ) × Schedule ρ Registry
  | [] => ([], s)
  | command :: rest =>
    let (answer, s) := s.perform C E command
    let time := s.service.now
    let s := s.catchUp E
    let (steps, last) := s.performAll C E rest
    (⟨answer, time, s.service.activeTaskCount⟩ :: steps, last)

end Schedule

end Attestation
