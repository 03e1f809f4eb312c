/-
Module: Attestation.Proofs.Finalization
Purpose: A worker that closes its collection has a winner. The window is open exactly while there is one,
  so a collection that is closed can name its non-signers and give its result, and a task expires only
  because its time ran out before the thresholds were met.
Main exports: Collection.Rounds, Collection.Rounds.window_eq, Collection.sound_poll, Phase.Sound,
  Turn.Sound, Worker.sound_run, Worker.Reachable, Winning, Worker.winner_finalizes
-/
import Attestation.Fixture.SampleTask
import Attestation.Proofs.Winner
import Attestation.Service.Worker

namespace Attestation

/-- A state of a task after some run of submissions. -/
def TaskState.Reached {ρ : Type} (J : Judge ρ) (t : TaskParameters) (s : TaskState ρ) : Prop :=
  ∃ n xs, s = (start t n).after J xs

namespace TaskState.Reached

variable {ρ : Type} {J : Judge ρ} {t : TaskParameters} {s : TaskState ρ}

/-! ### States and winners -/

/-- Submissions leave the parameters as they are. -/
theorem parameters (reached : s.Reached J t) : s.parameters = t := by
  obtain ⟨n, xs, rfl⟩ := reached
  exact (prevails_after J t n xs).parameters

/-- A state after one more submission is one after a run. -/
theorem submit (reached : s.Reached J t) {x : Submission ρ} {report : Accepted} {next : TaskState ρ}
    (decided : s.submit J x.operator x.response x.signature = .ok (report, next)) :
    next.Reached J t := by
  obtain ⟨n, xs, rfl⟩ := reached
  refine ⟨n, xs ++ [x], ?_⟩
  rw [after_append, after_cons, after_nil, step, decided]

/-- Where there is a winner, those who did not sign it can be named. -/
theorem isSome_winningNonSigners? (reached : s.Reached J t) :
    s.winningNonSigners?.isSome = s.hasWinner := by
  obtain ⟨n, xs, rfl⟩ := reached
  exact TaskState.isSome_winningNonSigners?

/-- Where there is a winner, there is a result for any indices. -/
theorem isSome_result? (reached : s.Reached J t) (indices : SignatureCheckIndices) :
    (s.result? indices).isSome = s.hasWinner := by
  obtain ⟨n, xs, rfl⟩ := reached
  exact TaskState.isSome_result? indices

end TaskState.Reached

namespace TaskState

variable {ρ : Type} {J : Judge ρ} {s next : TaskState ρ} {x : Submission ρ} {report : Accepted}

/-- A submission that meets the thresholds sets a winner; one that does not leaves the winner. -/
theorem hasWinner_submit
    (decided : s.submit J x.operator x.response x.signature = .ok (report, next)) :
    next.hasWinner = (report.thresholdsMet || s.hasWinner) := by
  obtain ⟨_, _, _, admits⟩ := submit_eq_ok_iff.1 decided
  rw [admits.result]
  unfold hasWinner
  cases report.thresholdsMet <;> rfl

end TaskState

namespace Collection

variable {ρ : Type} (J : Judge ρ)

/-! ### The loop

The invariant of the loop: a window is open exactly if there is a winner. So a collection closes with a
winner only, and expires without one. -/

/-- The collections with which a loop that starts with a given one goes round. -/
inductive Rounds (begun : Collection ρ) : Collection ρ → Prop where
  | first : Rounds begun begun
  | next {c c' : Collection ρ} (now : Nat) (x : Submission ρ) : Rounds begun c → c.overdue? now = none →
      (c.receive J now x).course = .collecting c' → Rounds begun c'

/-- The invariant of the loop. -/
structure Sound (t : TaskParameters) (c : Collection ρ) : Prop where
  reached : c.state.Reached J t
  window : c.windowEnd.isSome = c.state.hasWinner

/-- How it may go on after some signals: a closed collection has a winner, and an expiry was reported. -/
def SoundCourse (t : TaskParameters) (signals : List Signal) : Course ρ → Prop
  | .collecting c => c.Sound J t
  | .closed s => s.Reached J t ∧ s.hasWinner = true
  | .expired => .report (.expired t.index) ∈ signals
  | .crashed => True

variable {J} {t : TaskParameters} {c : Collection ρ} {course : Course ρ} {signals : List Signal}

theorem SoundCourse.append (sound : SoundCourse J t signals course) (before : List Signal) :
    SoundCourse J t (before ++ signals) course := by
  cases course with
  | expired => exact List.mem_append_right before sound
  | _ => exact sound

theorem sound_close {now : Nat} {state : TaskState ρ} {verdict : Signal} (reached : state.Reached J t)
    (won : state.hasWinner = true) :
    SoundCourse J t (c.close now state verdict).signals (c.close now state verdict).course := by
  unfold close
  dsimp only
  split
  next => exact ⟨reached, won⟩
  next =>
    cases later? now state.parameters.window with
    | none => trivial
    | some due => exact ⟨reached, won.symm⟩

/-- A submission keeps the invariant or ends the loop soundly. -/
theorem sound_receive (sound : c.Sound J t) (now : Nat) (x : Submission ρ) :
    SoundCourse J t (c.receive J now x).signals (c.receive J now x).course := by
  unfold receive
  cases decided : c.state.submit J x.operator x.response x.signature with
  | error e =>
    cases e with
    | error e => exact sound
    | crash => trivial
  | ok result =>
    obtain ⟨report, next⟩ := result
    have reached := sound.reached.submit decided
    have won := TaskState.hasWinner_submit decided
    dsimp only
    split
    next first =>
      rw [Bool.and_eq_true] at first
      rw [first.1, Bool.true_or] at won
      exact (sound_close reached won).append _
    next again =>
      refine ⟨reached, ?_⟩
      show c.windowEnd.isSome = next.hasWinner
      rw [won, sound.window]
      have window := sound.window
      cases crossed : report.thresholdsMet with
      | false => rfl
      | true =>
        -- The window is open already, so there was a winner before.
        rw [crossed, Bool.true_and, Bool.not_eq_true, Option.isNone_eq_false_iff] at again
        rw [← window, again, Bool.true_or]

/-- The three ways in which a deadline ends the loop. -/
theorem overdue_cases {now : Nat} {p : Progress ρ} (overdue : c.overdue? now = some p) :
    (c.expiry ≤ now ∧ c.state.hasWinner = true ∧
      p = ⟨[.report (.expiredWithWinner c.task)], .closed c.state⟩) ∨
    (c.expiry ≤ now ∧ c.state.hasWinner = false ∧ p = ⟨[.report (.expired c.task)], .expired⟩) ∨
    (now < c.expiry ∧ c.windowEnd.any (· ≤ now) = true ∧
      p = ⟨[.report (.windowClosed c.task)], .closed c.state⟩) := by
  unfold overdue? at overdue
  split at overdue
  next late =>
    split at overdue
    next won => exact .inl ⟨late, won, (Option.some.inj overdue).symm⟩
    next none => exact .inr (.inl ⟨late, Bool.eq_false_iff.2 none, (Option.some.inj overdue).symm⟩)
  next early =>
    split at overdue
    next closing => exact .inr (.inr ⟨Nat.lt_of_not_le early, closing, (Option.some.inj overdue).symm⟩)
    next => cases overdue

/-- Nothing is taken after a deadline. -/
theorem poll_overdue {now : Nat} {p : Progress ρ} (overdue : c.overdue? now = some p) (share : Nat)
    (inbox : List (Submission ρ)) : c.poll J now (share + 1) inbox = (p, inbox) := by
  unfold poll
  rw [overdue]

theorem sound_overdue {now : Nat} {p : Progress ρ} (sound : c.Sound J t)
    (overdue : c.overdue? now = some p) : SoundCourse J t p.signals p.course := by
  rcases overdue_cases overdue with ⟨-, won, rfl⟩ | ⟨-, -, rfl⟩ | ⟨-, closing, rfl⟩
  · exact ⟨sound.reached, won⟩
  · show _ ∈ [Signal.report (.expired c.task)]
    rw [task, sound.reached.parameters]
    exact List.mem_singleton_self _
  · exact ⟨sound.reached, sound.window.symm.trans (Option.isSome_of_any closing)⟩

/-- All the submissions of a poll keep the invariant, until one of them or a deadline ends the loop. -/
theorem sound_poll (now : Nat) : ∀ (share : Nat) {c : Collection ρ} (inbox : List (Submission ρ)),
    c.Sound J t → SoundCourse J t (c.poll J now share inbox).1.signals
      (c.poll J now share inbox).1.course := by
  intro share
  induction share with
  | zero => exact fun _ sound => sound
  | succ share ih =>
    intro c inbox sound
    unfold poll
    cases overdue : c.overdue? now with
    | some p => exact sound_overdue sound overdue
    | none =>
      cases inbox with
      | nil => exact sound
      | cons x unread =>
        have received := sound_receive sound now x
        dsimp only
        split
        next c' going =>
          rw [going] at received
          exact (ih unread received).append _
        next => exact received.append [_]

namespace Rounds

variable {begun : Collection ρ}

/-- The invariant holds in every round. -/
theorem sound (rounds : Rounds J begun c) (start : begun.Sound J t) : c.Sound J t := by
  induction rounds with
  | first => exact start
  | next now x _ _ going ih =>
    have received := sound_receive ih now x
    rw [going] at received
    exact received

/-- A poll goes round with the loop. -/
theorem poll (now : Nat) : ∀ (share : Nat) {c c' : Collection ρ} (inbox : List (Submission ρ)),
    Rounds J begun c → (c.poll J now share inbox).1.course = .collecting c' → Rounds J begun c' := by
  intro share
  induction share with
  | zero =>
    rintro c c' inbox rounds ⟨⟩
    exact rounds
  | succ share ih =>
    intro c c' inbox rounds going
    unfold Collection.poll at going
    cases overdue : c.overdue? now with
    | some p =>
      rw [overdue] at going
      rcases overdue_cases overdue with ⟨-, -, rfl⟩ | ⟨-, -, rfl⟩ | ⟨-, -, rfl⟩ <;> cases going
    | none =>
      rw [overdue] at going
      cases inbox with
      | nil =>
        cases going
        exact rounds
      | cons x unread =>
        dsimp only at going
        split at going
        next next received => exact ih unread (rounds.next now x overdue received) going
        next other => exact absurd going (other _)

end Rounds

end Collection

/-! ### Workers

A worker that asks for indices has a winner, since it has come from a collection that closed. -/

/-- A worker for the task that waits with this has a winner where it needs one. -/
def Phase.Sound {ρ : Type} (J : Judge ρ) (t : TaskParameters) : Phase ρ → Prop
  | .collecting c => ∃ (w : Worker ρ) (now : Nat) (n : Snapshot), w.parameters = t ∧
      Collection.Rounds J (w.collection now n) c
  | .awaitingIndices s _ _ => s.Reached J t ∧ s.hasWinner = true
  | _ => True

/-- A turn leaves the worker sound, and a task that expires was reported to have run out of time. -/
structure Turn.Sound {ρ σ : Type} (J : Judge ρ) (t : TaskParameters) (turn : Turn ρ σ) : Prop where
  waiting : ∀ phase, turn.fate = .waiting phase → phase.Sound J t
  expired : ∀ i, turn.fate = .finished (.error (.taskExpired i)) →
    .report (.expired t.index) ∈ turn.signals

theorem Turn.Sound.after {ρ σ : Type} {J : Judge ρ} {t : TaskParameters} {turn : Turn ρ σ}
    (sound : turn.Sound J t) (signals : List Signal) : (turn.after signals).Sound J t where
  waiting := sound.waiting
  expired i ending := List.mem_append_right signals (sound.expired i ending)

namespace Worker

variable {ρ σ : Type} (E : Setting ρ σ) {w : Worker ρ} (now : Nat) (registry : σ)

theorem sound_collection (J : Judge ρ) (w : Worker ρ) (n : Snapshot) :
    (w.collection now n).Sound J w.parameters :=
  ⟨⟨n, [], rfl⟩, rfl⟩

variable {J : Judge ρ} {t : TaskParameters}

theorem sound_crashed (signals : List Signal) : (w.stop registry signals .crashed).Sound J t :=
  ⟨nofun, nofun⟩

theorem sound_waiting {phase : Phase ρ} (sound : phase.Sound J t) (signals : List Signal) :
    (w.stop registry signals (.waiting phase)).Sound J t := by
  refine ⟨?_, nofun⟩
  rintro _ ⟨⟩
  exact sound

/-- An error that is not an expiry. -/
theorem sound_fail {event : Event} {e : AggregationError} (other : ∀ i, e ≠ .taskExpired i) :
    (w.fail registry event e).Sound J t := by
  refine ⟨nofun, ?_⟩
  rintro i ⟨⟩
  exact absurd rfl (other i)

theorem sound_ask {phase : Nat → Phase ρ} {next : Unit → Turn ρ σ}
    (waiting : ∀ due, (phase due).Sound J t) (going : (next ()).Sound J t) :
    (w.ask E now registry phase next).Sound J t := by
  unfold ask
  dsimp only
  split
  · exact going
  · exact sound_waiting registry (waiting _) _

/-- Where there is a winner, there is a result for the indices. -/
theorem sound_conclude {s : TaskState ρ} {ids : List OperatorId} (reached : s.Reached E.judge t)
    (won : s.hasWinner = true) : (w.conclude E registry s ids).Sound E.judge t := by
  unfold conclude
  dsimp only
  apply Turn.Sound.after
  split
  next => exact sound_crashed _ _
  next => exact sound_fail _ nofun
  next indices _ =>
    obtain ⟨result, found⟩ := Option.isSome_iff_exists.1 ((reached.isSome_result? indices).trans won)
    rw [found]
    exact ⟨nofun, nofun⟩

/-- Where there is a winner, its non-signers are named. -/
theorem sound_finalize {s : TaskState ρ} (reached : s.Reached E.judge t) (won : s.hasWinner = true) :
    (w.finalize E now registry s).Sound E.judge t := by
  -- The winner excludes the fallback for a task without one.
  obtain ⟨nonSigners, found⟩ := Option.isSome_iff_exists.1 (reached.isSome_winningNonSigners?.trans won)
  unfold finalize
  rw [found]
  exact sound_ask E now registry (fun _ => ⟨reached, won⟩) (sound_conclude E registry reached won)

/-- Whatever is in the inbox, the loop leaves the worker sound. -/
theorem sound_collect {c : Collection ρ} (share : Nat) (waiting : (Phase.collecting c).Sound E.judge t) :
    (w.collect E now registry share c).Sound E.judge t := by
  obtain ⟨v, began, n, same, rounds⟩ := waiting
  have sound : c.Sound E.judge t := same ▸ rounds.sound (sound_collection began E.judge v n)
  have polled := Collection.sound_poll now share w.inbox sound
  unfold collect
  dsimp only
  split
  next c' going =>
    have waiting : (Phase.collecting c').Sound E.judge t :=
      ⟨v, began, n, same, rounds.poll now share w.inbox going⟩
    exact (sound_waiting registry waiting []).after _
  next s closed =>
    rw [closed] at polled
    exact (sound_finalize E now registry polled.1 polled.2).after _
  next expired =>
    rw [expired] at polled
    exact ⟨nofun, fun _ _ => List.mem_append_left _ polled⟩
  next => exact (sound_crashed registry []).after _

theorem sound_receiveQuorums (share : Nat) (operators : OperatorStates) :
    (w.receiveQuorums E now registry share operators).Sound E.judge w.parameters := by
  unfold receiveQuorums
  dsimp only
  apply Turn.Sound.after
  split
  next => exact sound_crashed _ _
  next => exact sound_fail _ nofun
  next states _ =>
    cases Snapshot.ofStates w.parameters.quorums operators states with
    | error q => exact sound_fail _ nofun
    | ok n => exact (sound_collect E now _ share ⟨w, now, n, rfl, .first⟩).after _

theorem sound_receiveOperators (share : Nat) :
    (w.receiveOperators E now registry share).Sound E.judge w.parameters := by
  unfold receiveOperators
  dsimp only
  apply Turn.Sound.after
  split
  next => exact sound_crashed _ _
  next => exact sound_fail _ nofun
  next operators _ =>
    exact sound_ask E now _ (fun _ => trivial) (sound_receiveQuorums E now _ share operators)

/-- A turn of a sound worker is sound. -/
theorem sound_run (sound : w.phase.Sound E.judge w.parameters) :
    (w.run E now registry).Sound E.judge w.parameters := by
  unfold run
  cases phase : w.phase with
  | starting =>
    exact sound_ask E now registry (fun _ => trivial) (sound_receiveOperators E now registry share)
  | awaitingOperators due =>
    rw [phase] at sound
    dsimp only
    split
    · exact sound_receiveOperators E now registry _
    · exact sound_waiting registry sound []
  | awaitingQuorums operators due =>
    rw [phase] at sound
    dsimp only
    split
    · exact sound_receiveQuorums E now registry _ operators
    · exact sound_waiting registry sound []
  | collecting c =>
    rw [phase] at sound
    exact sound_collect E now registry share sound
  | awaitingIndices s ids due =>
    rw [phase] at sound
    dsimp only
    split
    · exact sound_conclude E registry sound.1 sound.2
    · exact sound_waiting registry sound []

variable {now registry}

/-- The workers of a task: submissions come into the inbox and the worker takes turns, whenever that is
and whatever the registry is then. -/
inductive Reachable (t : TaskParameters) : Worker ρ → Prop where
  | started : Reachable t ⟨t, [], .starting⟩
  | delivered {w : Worker ρ} (x : Submission ρ) : Reachable t w →
      Reachable t { w with inbox := w.inbox ++ [x] }
  | turned {w : Worker ρ} {phase : Phase ρ} (now : Nat) (registry : σ) : Reachable t w →
      (w.run E now registry).fate = .waiting phase →
      Reachable t { w with inbox := (w.run E now registry).unread, phase := phase }

/-- Every worker of a task is sound. -/
theorem Reachable.sound {E : Setting ρ σ} (reachable : Reachable E t w) :
    w.parameters = t ∧ w.phase.Sound E.judge t := by
  induction reachable with
  | started => exact ⟨rfl, trivial⟩
  | delivered x _ ih => exact ih
  | turned now registry _ waiting ih =>
    obtain ⟨rfl, sound⟩ := ih
    exact ⟨rfl, (sound_run E now registry sound).waiting _ waiting⟩

end Worker

/-- What holds of the winner after a run of submissions. -/
structure Winning {ρ : Type} (J : Judge ρ) (accepted : List (Acceptance ρ)) (s : TaskState ρ) :
    Prop where
  iff_met : s.hasWinner = true ↔ ∃ a ∈ accepted, a.thresholdsMet = true
  latest : s.winner = (latestMet accepted).map fun a => (a.digest, a.response)
  /-- The response has the digest, whose aggregate meets the thresholds in this very state. -/
  stands : ∀ d r, s.winner = some (d, r) → J.hash r = .ok d ∧ ∃ g, s.aggregates.get? d = some g ∧
    meetsThresholds g.stakes s.snapshot.totals s.parameters.thresholds = true
  /-- Whatever is submitted later, there is a winner. -/
  kept : s.hasWinner = true → ∀ ys, (s.after J ys).hasWinner = true
  nonSigners : s.winningNonSigners?.isSome = s.hasWinner
  result : ∀ indices, (s.result? indices).isSome = s.hasWinner

/-- The winner is the digest that met the thresholds last. -/
theorem TaskState.winning_after {ρ : Type} (J : Judge ρ) (t : TaskParameters) (n : Snapshot)
    (xs : List (Submission ρ)) : Winning J ((start t n).accepted J xs) ((start t n).after J xs) where
  iff_met := hasWinner_iff
  latest := (prevails_after J t n xs).winner
  stands d r won := by
    rw [(prevails_after J t n xs).snapshot, (prevails_after J t n xs).parameters]
    exact winner_stands won
  kept := hasWinner_after
  nonSigners := isSome_winningNonSigners?
  result := isSome_result?

/-- After any run the winner is the latest digest to have met the thresholds and still meets them; so in
every round of a worker's loop the window is open exactly if there is a winner, a closed collection can
name its non-signers and give its result, and a worker that ends with an expiry has reported it. -/
theorem Worker.winner_finalizes {ρ σ : Type} (E : Setting ρ σ) (t : TaskParameters) :
    (∀ n xs, Winning E.judge ((TaskState.start t n).accepted E.judge xs)
      ((TaskState.start t n).after E.judge xs)) ∧
    (∀ (w : Worker ρ) now n c, w.parameters = t → Collection.Rounds E.judge (w.collection now n) c →
      c.state.Reached E.judge t ∧ c.windowEnd.isSome = c.state.hasWinner ∧
      ∀ now share inbox s, (c.poll E.judge now share inbox).1.course = .closed s →
        s.winningNonSigners?.isSome = true ∧ ∀ indices, (s.result? indices).isSome = true) ∧
    ∀ w, Reachable E t w →
      (∀ c, w.phase = .collecting c → ∃ (v : Worker ρ) (now : Nat) (n : Snapshot), v.parameters = t ∧
        Collection.Rounds E.judge (v.collection now n) c) ∧
      (∀ s ids due, w.phase = .awaitingIndices s ids due →
        ∀ indices, (s.result? indices).isSome = true) ∧
      ∀ now registry i, (w.run E now registry).fate = .finished (.error (.taskExpired i)) →
        .report (.expired t.index) ∈ (w.run E now registry).signals := by
  refine ⟨TaskState.winning_after E.judge t, ?_, ?_⟩
  · rintro w now n c rfl rounds
    have sound := rounds.sound (sound_collection now E.judge w n)
    refine ⟨sound.reached, sound.window, fun now share inbox s closed => ?_⟩
    have polled := Collection.sound_poll now share inbox sound
    rw [closed] at polled
    exact ⟨polled.1.isSome_winningNonSigners?.trans polled.2,
      fun indices => (polled.1.isSome_result? indices).trans polled.2⟩
  · intro w reachable
    obtain ⟨rfl, sound⟩ := reachable.sound
    refine ⟨fun c collecting => ?_, fun s ids due waiting indices => ?_, fun now registry => ?_⟩
    · rw [collecting] at sound
      exact sound
    · rw [waiting] at sound
      exact (sound.1.isSome_result? indices).trans sound.2
    · exact (sound_run E now registry sound).expired

/-- A worker that has met the thresholds can name those who did not sign when its window closes, and one
that has received nothing reports that it expires. -/
theorem Worker.winner_finalizes_sample_run :
    (∃ c : Collection Nat,
      Reachable SampleTask.setting (SampleTask.parameters 10)
        { SampleTask.worker [] with phase := .collecting c } ∧
      c.state.hasWinner = true ∧ c.windowEnd.isSome = c.state.hasWinner ∧
      (c.poll SampleTask.judge 10 1 []).1.course = .closed c.state ∧
      c.state.winningNonSigners?.isSome = true) ∧
    ∃ w : Worker Nat, Reachable SampleTask.setting (SampleTask.parameters 10) w ∧
      (w.run SampleTask.setting 100 0).fate = .finished (.error (.taskExpired 1)) ∧
      .report (.expired 1) ∈ (w.run SampleTask.setting 100 0).signals := by
  obtain ⟨-, loop, turns⟩ := winner_finalizes SampleTask.setting (SampleTask.parameters 10)
  have fresh : Reachable SampleTask.setting (SampleTask.parameters 10) (SampleTask.worker []) := .started
  constructor
  · have delivered : Reachable SampleTask.setting (SampleTask.parameters 10)
        (SampleTask.worker SampleTask.run) :=
      (((fresh.delivered _).delivered _).delivered _).delivered _
    have waiting : ∃ c, ((SampleTask.worker SampleTask.run).run SampleTask.setting 0 0).fate =
        .waiting (.collecting c) ∧ c.state.hasWinner = true ∧
        (c.poll SampleTask.judge 10 1 []).1.course = .closed c.state := ⟨_, rfl, rfl, rfl⟩
    obtain ⟨c, going, won, closed⟩ := waiting
    have reachable := delivered.turned 0 0 going
    obtain ⟨v, now, n, same, rounds⟩ := (turns _ reachable).1 c rfl
    obtain ⟨-, window, closing⟩ := loop v now n c same rounds
    exact ⟨c, reachable, won, window, closed, (closing 10 1 [] _ closed).1⟩
  · have waiting : ∃ c,
        ((SampleTask.worker []).run SampleTask.setting 0 0).fate = .waiting (.collecting c) ∧
        ({ SampleTask.worker [] with phase := .collecting c }.run SampleTask.setting 100 0).fate =
          .finished (.error (.taskExpired 1)) := ⟨_, rfl, rfl⟩
    obtain ⟨c, going, expiring⟩ := waiting
    have reachable := fresh.turned 0 0 going
    exact ⟨_, reachable, expiring, (turns _ reachable).2.2 100 0 1 expiring⟩

end Attestation
