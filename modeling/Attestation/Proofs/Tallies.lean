/-
Module: Attestation.Proofs.Tallies
Purpose: What a worker counts. Every submission that it decides on is counted once, as accepted or under
  the reason of its rejection, and nothing else that it does is counted.
Main exports: Signal.tally?, Turn.tallies, TaskState.tally, Worker.rejects?, Collection.tallies_receive,
  Worker.tallies_stride, Worker.tallies_eq
-/
import Attestation.Proofs.Endings

namespace Attestation

/-- What a signal has counted: the submission of a call as accepted, or as rejected for a reason. -/
def Signal.tally? : Signal → Option (CallId × Option RejectionReason)
  | .accepted call => some (call, none)
  | .rejected call reason => some (call, some reason)
  | _ => none

/-- What is counted in a turn, in order. -/
def Turn.tallies {ρ σ : Type} (turn : Turn ρ σ) : List (CallId × Option RejectionReason) :=
  turn.signals.filterMap Signal.tally?

/-- How a submission counts; one on which the hasher or the verifier crashes does not. -/
def TaskState.tally {ρ : Type} (J : Judge ρ) (s : TaskState ρ) (x : Submission ρ) :
    List (CallId × Option RejectionReason) :=
  match s.submit J x.operator x.response x.signature with
  | .ok _ => [(x.call, none)]
  | .error (.error e) => [(x.call, some e.reason)]
  | .error .crash => []

/-- The submission that the next stride rejects, with the error. -/
def Worker.rejects? {ρ : Type} (J : Judge ρ) (w : Worker ρ) (now : Nat) :
    Option (Submission ρ × SignatureError) :=
  (w.takes? now).bind fun (c, x) =>
    match c.state.submit J x.operator x.response x.signature with
    | .error (.error e) => some (x, e)
    | _ => none

/-- What is silent counts nothing. -/
theorem tallies_of_silent {signals : List Signal} (silent : ∀ signal ∈ signals, signal.IsSilent) :
    signals.filterMap Signal.tally? = [] := by
  rw [List.filterMap_eq_nil_iff]
  intro signal member
  have quiet := silent signal member
  cases signal <;> first | rfl | exact quiet.elim

theorem Turn.tallies_after {ρ σ : Type} (turn : Turn ρ σ) (signals : List Signal) :
    (turn.after signals).tallies = signals.filterMap Signal.tally? ++ turn.tallies := List.filterMap_append

/-- A submission that is received is counted once, whatever follows from it. -/
theorem Collection.tallies_receive {ρ : Type} (J : Judge ρ) (c : Collection ρ) (now : Nat)
    (x : Submission ρ) : (c.receive J now x).signals.filterMap Signal.tally? = c.state.tally J x := by
  unfold receive TaskState.tally
  cases c.state.submit J x.operator x.response x.signature with
  | error e => cases e <;> rfl
  | ok result =>
    dsimp only
    split
    next =>
      unfold close
      dsimp only
      split
      next => rfl
      next => cases later? now result.2.parameters.window <;> rfl
    next => rfl

namespace Worker

variable {ρ σ : Type} {E : Setting ρ σ} {w : Worker ρ} {now : Nat} {registry : σ}

/-- What comes after a look at a collection counts nothing. -/
theorem tallies_proceed (p : Progress ρ) :
    (w.proceed E now registry p).tallies = p.signals.filterMap Signal.tally? := by
  have idles : w.Idles (w.proceed E now registry ⟨[], p.course⟩) := idles_proceed nofun
  have split : w.proceed E now registry p = (w.proceed E now registry ⟨[], p.course⟩).after p.signals := rfl
  rw [split, Turn.tallies_after, Turn.tallies, tallies_of_silent idles.silent, List.append_nil]

/-- A stride counts the submission that it takes. -/
theorem tallies_stride (E : Setting ρ σ) (w : Worker ρ) (now : Nat) (registry : σ) :
    (w.stride E now registry).tallies =
      (w.takes? now).elim [] fun e => e.1.state.tally E.judge e.2 := by
  rcases stride_cases E w now registry with ⟨untaken, idles⟩ | ⟨c, x, unread, -, -, takes, same⟩
  · rw [untaken]
    exact tallies_of_silent idles.silent
  · rw [takes, same, tallies_proceed]
    exact Collection.tallies_receive E.judge c now x

/-- A stride counts what it merges as accepted and what it rejects under the reason. -/
theorem tallies_eq (E : Setting ρ σ) (w : Worker ρ) (now : Nat) (registry : σ) :
    (w.stride E now registry).tallies =
      (w.merges? E.judge now).toList.map (fun a => (a.call, none)) ++
        (w.rejects? E.judge now).toList.map fun e => (e.1.call, some e.2.reason) := by
  rw [tallies_stride]
  unfold merges? rejects?
  cases w.takes? now with
  | none => rfl
  | some e =>
    obtain ⟨c, x⟩ := e
    simp only [Option.bind_some, Option.elim_some]
    unfold TaskState.tally TaskState.acceptance?
    cases c.state.submit E.judge x.operator x.response x.signature with
    | error e => cases e <;> rfl
    | ok result => rfl

end Worker

end Attestation
