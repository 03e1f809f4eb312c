/-
Module: Attestation.Proofs.Deadlines
Purpose: The loop of a worker between its deadlines, where nothing crashes: a submission is decided on if
  it is ready before the expiry and before the end of the window, and only the first that meets the
  thresholds sets that end.
Main exports: Judge.Steady, Setting.Steady, TaskState.meets, TaskState.firstMet?, Collection.deadline,
  Collection.overdue_eq_none_iff, Collection.course_decided, Collection.course_receive,
  Collection.poll_early
-/
import Attestation.Proofs.Finalization

namespace Attestation

/-- Hasher and verifier may report errors but do not crash. -/
structure Judge.Steady {ρ : Type} (J : Judge ρ) : Prop where
  hash : ∀ r, J.hash r ≠ .error .crash
  verify : ∀ d signature key, J.verify d signature key ≠ .error .crash

/-- Neither does the registry when it is asked for indices. -/
structure Setting.Steady {ρ σ : Type} (E : Setting ρ σ) : Prop where
  judge : E.judge.Steady
  indices : ∀ registry block quorums ids,
    (E.provider.indices registry block quorums ids).answer ≠ .error .crash

namespace TaskState

variable {ρ : Type} (J : Judge ρ)

/-- Whether a submission is accepted and its digest meets the thresholds with it. -/
def meets (s : TaskState ρ) (x : Submission ρ) : Bool := (s.acceptance? J x).any (·.thresholdsMet)

/-- When the first of some submissions is accepted that meets the thresholds. -/
def firstMet? (s : TaskState ρ) : List (Nat × Submission ρ) → Option Nat
  | [] => none
  | (now, x) :: rest => if s.meets J x then some now else (s.step J x).firstMet? rest

variable {J}

/-- A submission is decided on if it can be hashed and verified. -/
theorem submit_ne_crash (steady : J.Steady) (s : TaskState ρ) (x : Submission ρ) :
    s.submit J x.operator x.response x.signature ≠ .error .crash := by
  intro crashed
  rcases crash_of_submit crashed with hashing | ⟨d, key, -, -, verifying⟩
  · exact steady.hash _ hashing
  · exact steady.verify d _ key verifying

/-- A submission sets a winner if it meets the thresholds, and otherwise there is one if there was. -/
theorem hasWinner_step (s : TaskState ρ) (x : Submission ρ) :
    (s.step J x).hasWinner = (s.meets J x || s.hasWinner) := by
  unfold step meets acceptance?
  cases decided : s.submit J x.operator x.response x.signature with
  | error e => rfl
  | ok result => exact hasWinner_submit decided

theorem Reached.step {t : TaskParameters} {s : TaskState ρ} (reached : s.Reached J t)
    (x : Submission ρ) : (s.step J x).Reached J t := by
  obtain ⟨n, xs, rfl⟩ := reached
  exact ⟨n, xs ++ [x], by rw [after_append, after_cons, after_nil]⟩

/-- The instant is one of a submission. -/
theorem exists_of_firstMet? {T : Nat} : ∀ {timeline : List (Nat × Submission ρ)} {s : TaskState ρ},
    s.firstMet? J timeline = some T → ∃ x, (T, x) ∈ timeline := by
  intro timeline
  induction timeline with
  | nil => exact nofun
  | cons e rest ih =>
    intro s first
    unfold firstMet? at first
    split at first
    next =>
      cases first
      exact ⟨e.2, List.mem_cons_self⟩
    next =>
      obtain ⟨x, member⟩ := ih first
      exact ⟨x, List.mem_cons_of_mem e member⟩

end TaskState

namespace Collection

variable {ρ : Type} {J : Judge ρ} {t : TaskParameters} {c : Collection ρ} {now : Nat}

/-- When the collection ends at the latest. -/
def deadline (c : Collection ρ) : Nat := c.windowEnd.elim c.expiry (min c.expiry)

theorem deadline_of_closed (c : Collection ρ) (window : c.windowEnd = none) : c.deadline = c.expiry := by
  rw [deadline, window, Option.elim_none]

/-- A collection goes on exactly until its deadline. -/
theorem overdue_eq_none_iff : c.overdue? now = none ↔ now < c.deadline := by
  -- The expiry is looked at first, and the end of the window only before it.
  have going : c.overdue? now = none ↔ now < c.expiry ∧ c.windowEnd.any (· ≤ now) = false := by
    unfold overdue?
    split
    next late =>
      constructor
      · intro none
        split at none <;> cases none
      · rintro ⟨early, -⟩
        exact absurd late (Nat.not_le_of_lt early)
    next early =>
      have early := Nat.lt_of_not_le early
      cases closing : c.windowEnd.any (· ≤ now) <;> simp [early]
  rw [going, deadline]
  cases c.windowEnd with
  | none => simp
  | some d =>
    rw [Option.any_some, decide_eq_false_iff_not, Nat.not_le, Option.elim_some, Nat.lt_min]

theorem exists_overdue (late : c.deadline ≤ now) : ∃ p, c.overdue? now = some p := by
  rw [← Option.ne_none_iff_exists', Ne, overdue_eq_none_iff]
  exact Nat.not_lt_of_le late

/-- A collection that is over is closed if it has a winner, and expires otherwise. -/
theorem course_of_overdue {p : Progress ρ} (sound : c.Sound J t) (overdue : c.overdue? now = some p) :
    p.course = if c.state.hasWinner = true then .closed c.state else .expired := by
  rcases overdue_cases overdue with ⟨-, won, rfl⟩ | ⟨-, lost, rfl⟩ | ⟨-, closing, rfl⟩
  · rw [if_pos won]
  · rw [if_neg (Bool.not_eq_true _ ▸ lost)]
  · rw [if_pos (sound.window.symm.trans (Option.isSome_of_any closing))]

/-- How it goes on after a submission. -/
def opened (c : Collection ρ) (now : Nat) (s : TaskState ρ) : Course ρ :=
  if s.parameters.window = 0 then .closed s
  else match later? now s.parameters.window with
    | some due => .collecting { c with state := s, windowEnd := some due }
    | none => .crashed

theorem course_close (c : Collection ρ) (now : Nat) (s : TaskState ρ) (verdict : Signal) :
    (c.close now s verdict).course = c.opened now s := by
  unfold close opened
  dsimp only
  split
  next => rfl
  next => cases later? now s.parameters.window <;> rfl

/-- A submission that is decided on opens the window if it is the first to meet the thresholds, and
otherwise the collection goes on with the state after it. -/
theorem course_decided {c : Collection ρ} {x : Submission ρ}
    (decides : c.state.submit J x.operator x.response x.signature ≠ .error .crash) :
    (c.receive J now x).course =
      if c.state.meets J x && c.windowEnd.isNone then c.opened now (c.state.step J x)
      else .collecting { c with state := c.state.step J x } := by
  unfold receive TaskState.meets TaskState.acceptance? TaskState.step
  cases decided : c.state.submit J x.operator x.response x.signature with
  | error e =>
    cases e with
    | error e => rfl
    | crash => exact absurd decided decides
  | ok result =>
    obtain ⟨report, next⟩ := result
    dsimp only [Option.any_some]
    split
    next => exact course_close c now next _
    next => rfl

/-- Where nothing crashes, every submission is decided on. -/
theorem course_receive (steady : J.Steady) (c : Collection ρ) (now : Nat) (x : Submission ρ) :
    (c.receive J now x).course =
      if c.state.meets J x && c.windowEnd.isNone then c.opened now (c.state.step J x)
      else .collecting { c with state := c.state.step J x } :=
  course_decided (TaskState.submit_ne_crash steady _ x)

/-- A submission that leaves the collection going was decided on. -/
theorem decides_of_going {x : Submission ρ} {c' : Collection ρ}
    (going : (c.receive J now x).course = .collecting c') :
    c.state.submit J x.operator x.response x.signature ≠ .error .crash := by
  intro crashed
  unfold receive at going
  rw [crashed] at going
  cases going

/-- The collection goes on if the submission does not meet the thresholds or the window is open. -/
theorem course_going (steady : J.Steady) (c : Collection ρ) (now : Nat) (x : Submission ρ)
    (either : c.state.meets J x = false ∨ c.windowEnd.isSome = true) :
    (c.receive J now x).course = .collecting { c with state := c.state.step J x } := by
  rw [course_receive steady, if_neg]
  rcases either with unmet | window
  · rw [unmet]
    exact nofun
  · rw [Option.isNone_eq_false_iff.2 window, Bool.and_false]
    exact nofun

/-- The end of a window is later than its beginning. -/
theorem early_of_opened {s : TaskState ρ} {c' : Collection ρ} (early : now < c.expiry)
    (opening : c.opened now s = .collecting c') : now < c'.deadline := by
  unfold opened at opening
  split at opening
  next => cases opening
  next window =>
    unfold later? at opening
    split at opening
    next due later =>
      cases opening
      split at later <;> cases later
      show now < min c.expiry (now + s.parameters.window)
      omega
    next => cases opening

/-- A submission does not make a deadline pass. -/
theorem early_of_receive (early : now < c.deadline) {x : Submission ρ} {c' : Collection ρ}
    (going : (c.receive J now x).course = .collecting c') : now < c'.deadline := by
  rw [course_decided (decides_of_going going)] at going
  split at going
  next first =>
    rw [Bool.and_eq_true, Option.isNone_iff_eq_none] at first
    -- The window was closed until now, so the deadline was the expiry.
    rw [deadline, first.2] at early
    exact early_of_opened early going
  next =>
    cases going
    exact early

/-- A single submission before every deadline is taken. -/
theorem poll_early (early : now < c.deadline) (share : Nat) (x : Submission ρ) :
    c.poll J now (share + 2) [x] =
      (⟨.taken x.call :: (c.receive J now x).signals, (c.receive J now x).course⟩, []) := by
  rw [poll, overdue_eq_none_iff.2 early]
  dsimp only
  cases going : (c.receive J now x).course with
  | collecting c' =>
    dsimp only
    unfold poll
    rw [overdue_eq_none_iff.2 (early_of_receive early going)]
    dsimp only
    rw [List.append_nil]
  | _ => rfl

end Collection

end Attestation
