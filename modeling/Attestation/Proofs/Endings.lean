/-
Module: Attestation.Proofs.Endings
Purpose: What a stride can do. It takes the next submission or none, and receives it in one of four ways;
  the phase that it leaves tells what the submissions so far have made of the snapshot; and a worker that
  ends has the result of what it has taken, an error for its task, or a reason to crash.
Main exports: Signal.IsQuiet, Signal.IsSilent, Collection.Receipt, Collection.receipt_receive, Worker.takes?,
  Worker.merges?, Worker.stride_cases, Setting.Yields, TaskState.Arises, Phase.Holds,
  AggregationError.Terminal, Setting.Crashes, Worker.Overruns, Turn.Holds, Worker.holds_stride
-/
import Attestation.Proofs.Strides

namespace Attestation

/-- A signal that changes no call. -/
def Signal.IsQuiet : Signal → Prop
  | .report _ | .accepted _ | .rejected _ _ | .alarm _ => True
  | .taken _ | .verdict _ _ _ _ => False

/-- A signal that is not about a submission. -/
def Signal.IsSilent : Signal → Prop
  | .report _ | .alarm _ => True
  | _ => False

theorem Signal.IsSilent.isQuiet {signal : Signal} (silent : signal.IsSilent) : signal.IsQuiet := by
  cases signal <;> trivial

namespace Collection

variable {ρ : Type} {J : Judge ρ}

/-- The four ways in which a submission can be received: the hasher or the verifier crashes, it is
rejected, it is accepted and answered, or it is accepted but opens a window whose end the clock cannot
express. -/
inductive Receipt (J : Judge ρ) (c : Collection ρ) (now : Nat) (x : Submission ρ) : Progress ρ → Prop where
  | crashed : c.state.submit J x.operator x.response x.signature = .error .crash →
    Receipt J c now x ⟨[], .crashed⟩
  | rejected (quiet : List Signal) {e : SignatureError} :
    c.state.submit J x.operator x.response x.signature = .error (.error e) →
    (∀ signal ∈ quiet, signal.IsQuiet) →
    Receipt J c now x ⟨quiet ++ [.verdict x.call c.task x.operator (some e)], .collecting c⟩
  | accepted (quiet : List Signal) {report : Accepted} {next : TaskState ρ} {course : Course ρ} :
    c.state.submit J x.operator x.response x.signature = .ok (report, next) →
    (∀ signal ∈ quiet, signal.IsQuiet) →
    ((∃ c', course = .collecting c' ∧ c'.state = next) ∨ course = .closed next) →
    Receipt J c now x ⟨quiet ++ [.verdict x.call c.task x.operator none], course⟩
  | overrun (quiet : List Signal) {report : Accepted} {next : TaskState ρ} :
    c.state.submit J x.operator x.response x.signature = .ok (report, next) →
    report.thresholdsMet = true → c.windowEnd = none → next.parameters.window ≠ 0 →
    later? now next.parameters.window = none → (∀ signal ∈ quiet, signal.IsQuiet) →
    Receipt J c now x ⟨quiet, .crashed⟩

/-- A submission that is taken meets one of four ends. -/
theorem receipt_receive (c : Collection ρ) (now : Nat) (x : Submission ρ) :
    Receipt J c now x (c.receive J now x) := by
  unfold receive
  cases decided : c.state.submit J x.operator x.response x.signature with
  | error e =>
    cases e with
    | crash => exact .crashed decided
    | error e =>
      exact .rejected [_, _] decided (by simp [Signal.IsQuiet])
  | ok result =>
    obtain ⟨report, next⟩ := result
    dsimp only
    split
    next first =>
      rw [Bool.and_eq_true, Option.isNone_iff_eq_none] at first
      unfold close
      dsimp only
      split
      next => exact .accepted [_, _, _] decided (by simp [Signal.IsQuiet]) (.inr rfl)
      next window =>
        cases inTime : later? now next.parameters.window with
        | some due =>
          exact .accepted [_, _, _, _] decided (by simp [Signal.IsQuiet]) (.inl ⟨_, rfl, rfl⟩)
        | none =>
          exact .overrun _ decided first.1 first.2 window inTime (by simp [Signal.IsQuiet])
    next =>
      exact .accepted [_, _] decided (by simp [Signal.IsQuiet]) (.inl ⟨_, rfl, rfl⟩)

end Collection

namespace Worker

variable {ρ σ : Type}

/-! ### What a stride takes and merges -/

/-- The submission that the next stride takes. -/
def takes? (w : Worker ρ) (now : Nat) : Option (Collection ρ × Submission ρ) :=
  match w.phase with
  | .collecting c => if (c.overdue? now).isNone then w.inbox.head?.map (c, ·) else none
  | _ => none

/-- The submission that the next stride merges. -/
def merges? (J : Judge ρ) (w : Worker ρ) (now : Nat) : Option (Acceptance ρ) :=
  (w.takes? now).bind fun (c, x) => c.state.acceptance? J x

/-- A turn that takes no submission. -/
structure Idles (w : Worker ρ) (turn : Turn ρ σ) : Prop where
  unread : turn.unread = w.inbox
  silent : ∀ signal ∈ turn.signals, signal.IsSilent

variable {E : Setting ρ σ} {w : Worker ρ} {now : Nat} {registry : σ}

theorem Idles.quiet {turn : Turn ρ σ} (idles : w.Idles turn) : ∀ signal ∈ turn.signals, signal.IsQuiet :=
  fun signal member => (idles.silent signal member).isQuiet

/-- Silent signals in front leave a turn idle. -/
theorem Idles.after {turn : Turn ρ σ} {signals : List Signal} (idles : w.Idles turn)
    (silent : ∀ signal ∈ signals, signal.IsSilent) : w.Idles (turn.after signals) :=
  ⟨idles.unread, fun signal member => (List.mem_append.1 member).elim (silent signal) (idles.silent signal)⟩

/-- What the registry reports with a reply is silent. -/
theorem silent_events {α : Type} (r : Reply σ α) : ∀ signal ∈ r.signals, signal.IsSilent := by
  intro signal member
  obtain ⟨event, -, rfl⟩ := List.mem_map.1 member
  trivial

theorem idles_stop {signals : List Signal} {fate : Fate ρ}
    (silent : ∀ signal ∈ signals, signal.IsSilent) : w.Idles (w.stop registry signals fate) := ⟨rfl, silent⟩

/-- To wait for an answer takes nothing from the inbox and judges nothing. -/
theorem idles_await (phase : Nat → Phase ρ) : w.Idles (w.await E now registry phase) := by
  unfold await ask
  dsimp only
  split
  · exact idles_stop nofun
  · exact idles_stop (List.forall_mem_singleton.2 trivial)

/-- Nor does the step that sets out to ask for the indices. -/
theorem idles_request (s : TaskState ρ) : w.Idles (w.request E now registry s) := by
  unfold request
  split
  · exact idles_stop nofun
  · exact idles_await _

/-- What follows on a look at the inbox takes nothing more, and is silent if the look was. -/
theorem idles_proceed {p : Progress ρ} (silent : ∀ signal ∈ p.signals, signal.IsSilent) :
    w.Idles (w.proceed E now registry p) := by
  unfold proceed
  dsimp only
  refine Idles.after ?_ silent
  split
  · exact idles_stop nofun
  · exact idles_request _
  · exact idles_stop nofun
  · exact idles_stop nofun

/-- The end of a worker takes nothing from the inbox. -/
theorem idles_conclude (s : TaskState ρ) (ids : List OperatorId) :
    w.Idles (w.conclude E registry s ids) := by
  unfold conclude
  dsimp only
  refine Idles.after ?_ (silent_events _)
  split
  · exact idles_stop nofun
  · exact idles_stop (List.forall_mem_singleton.2 trivial)
  · split
    · exact idles_stop nofun
    · exact idles_stop (List.forall_mem_singleton.2 trivial)

theorem idles_finalize (w : Worker ρ) (now : Nat) (asked : σ) (s : TaskState ρ) :
    w.Idles (w.finalize E now asked s) := by
  unfold finalize
  cases s.winningNonSigners? with
  | none => exact idles_stop nofun
  | some nonSigners =>
    unfold ask
    dsimp only
    split
    · exact idles_conclude s _
    · exact idles_stop (List.forall_mem_singleton.2 trivial)

/-- Nothing is taken from the inbox before the snapshot is there. -/
theorem idles_takeOperators : w.Idles (w.takeOperators E now registry) := by
  unfold takeOperators
  dsimp only
  refine Idles.after ?_ (silent_events _)
  split
  · exact idles_stop nofun
  · exact idles_stop (List.forall_mem_singleton.2 trivial)
  · exact idles_await _

theorem idles_receiveQuorums (operators : OperatorStates) :
    w.Idles (w.receiveQuorums E now registry 0 operators) := by
  unfold receiveQuorums
  dsimp only
  refine Idles.after ?_ (silent_events _)
  split
  · exact idles_stop nofun
  · exact idles_stop (List.forall_mem_singleton.2 trivial)
  · split
    · exact idles_stop (List.forall_mem_singleton.2 trivial)
    · refine Idles.after ⟨rfl, ?_⟩ (by simp [Signal.IsSilent])
      exact fun signal member => absurd member List.not_mem_nil

/-- A stride takes the submission that comes next, or none. -/
theorem stride_cases (E : Setting ρ σ) (w : Worker ρ) (now : Nat) (registry : σ) :
    (w.takes? now = none ∧ w.Idles (w.stride E now registry)) ∨
    ∃ c x unread, w.phase = .collecting c ∧ w.inbox = x :: unread ∧ w.takes? now = some (c, x) ∧
      w.stride E now registry =
        { w with inbox := unread }.proceed E now registry (c.take E.judge now x) := by
  unfold takes?
  cases phase : w.phase with
  | collecting c =>
    dsimp only
    cases early : c.overdue? now with
    | some p =>
      refine .inl ⟨rfl, ?_⟩
      rw [stride_overdue phase early]
      apply idles_proceed
      rcases Collection.overdue_cases early with ⟨-, -, rfl⟩ | ⟨-, -, rfl⟩ | ⟨-, -, rfl⟩ <;>
        exact List.forall_mem_singleton.2 trivial
    | none =>
      cases inbox : w.inbox with
      | nil =>
        rw [stride_idle phase early inbox]
        exact .inl ⟨rfl, idles_stop nofun⟩
      | cons x unread =>
        exact .inr ⟨c, x, unread, rfl, rfl, rfl, stride_take phase early inbox⟩
  | starting =>
    refine .inl ⟨rfl, ?_⟩
    unfold stride
    rw [phase]
    exact idles_await _
  | awaitingOperators due =>
    refine .inl ⟨rfl, ?_⟩
    unfold stride
    rw [phase]
    exact iteInduction (fun _ => idles_takeOperators) fun _ => idles_stop nofun
  | awaitingQuorums operators due =>
    refine .inl ⟨rfl, ?_⟩
    unfold stride
    rw [phase]
    exact iteInduction (fun _ => idles_receiveQuorums operators) fun _ => idles_stop nofun
  | awaitingIndices s ids due =>
    refine .inl ⟨rfl, ?_⟩
    unfold stride
    rw [phase]
    exact iteInduction (fun _ => idles_conclude s ids) fun _ => idles_stop nofun

end Worker

/-! ### What holds of a worker

The phase of a worker is what its snapshot and the submissions that it has taken make of it. A turn leaves
that for the phase in which it ends, or accounts for the end. -/

/-- How a worker has ended, if it has: with a response or with a crash. -/
def Fate.ending? {ρ : Type} : Fate ρ → Option (Option (TaskResponse ρ))
  | .waiting _ => none
  | .finished response => some (some response)
  | .crashed => some none

/-- A turn leaves the worker waiting or ends it. -/
theorem Fate.waiting_or_ending {ρ : Type} (fate : Fate ρ) :
    (∃ phase, fate = .waiting phase) ∨ ∃ ending, fate.ending? = some ending := by
  cases fate with
  | waiting phase => exact .inl ⟨phase, rfl⟩
  | finished response => exact .inr ⟨some response, rfl⟩
  | crashed => exact .inr ⟨none, rfl⟩

/-- Only a crash ends a worker without a response. -/
theorem crashed_of_ending? {ρ : Type} {fate : Fate ρ} (ceased : fate.ending? = some none) :
    fate = .crashed := by
  cases fate with
  | crashed => rfl
  | _ => cases ceased

/-- The registry can be asked such that a worker for the task decides against this snapshot. -/
def Setting.Yields {ρ σ : Type} (E : Setting ρ σ) (t : TaskParameters) (n : Snapshot) : Prop :=
  ∃ first second states, (E.provider.operators first t.quorums t.block).answer = .ok n.operators ∧
    (E.provider.quorums second t.quorums t.block).answer = .ok states ∧
    Snapshot.ofStates t.quorums n.operators states = .ok n

/-- The state to which the submissions taken lead from the snapshot, and those of them that it has
merged. -/
structure TaskState.Arises {ρ : Type} (J : Judge ρ) (t : TaskParameters) (n : Snapshot)
    (taken : List (Submission ρ)) (merged : List (Acceptance ρ)) (s : TaskState ρ) : Prop where
  state : s = (TaskState.start t n).after J taken
  merged : merged = (TaskState.start t n).accepted J taken

/-- A submission that is taken is the last of what the state has arisen from. -/
theorem TaskState.Arises.snoc {ρ : Type} {J : Judge ρ} {t : TaskParameters} {n : Snapshot}
    {taken : List (Submission ρ)} {merged : List (Acceptance ρ)} {s : TaskState ρ}
    (arises : s.Arises J t n taken merged) (x : Submission ρ) :
    (s.step J x).Arises J t n (taken ++ [x]) (merged ++ (s.acceptance? J x).toList) where
  state := by
    rw [after_append, arises.state]
    rfl
  merged := by
    rw [accepted_append, arises.merged, arises.state]
    exact congrArg _ (List.append_nil _).symm

/-- Submissions leave the parameters of a state as they are. -/
theorem TaskState.Arises.parameters {ρ : Type} {J : Judge ρ} {t : TaskParameters} {n : Snapshot}
    {taken : List (Submission ρ)} {merged : List (Acceptance ρ)} {s : TaskState ρ}
    (arises : s.Arises J t n taken merged) : s.parameters = t := by
  rw [arises.state]
  exact (prevails_after _ _ _ _).parameters

/-- So they do its snapshot. -/
theorem TaskState.Arises.snapshot {ρ : Type} {J : Judge ρ} {t : TaskParameters} {n : Snapshot}
    {taken : List (Submission ρ)} {merged : List (Acceptance ρ)} {s : TaskState ρ}
    (arises : s.Arises J t n taken merged) : s.snapshot = n := by
  rw [arises.state]
  exact (prevails_after _ _ _ _).snapshot

/-- What a worker's phase tells of the submissions that it has taken and of those that it has merged: its
state is what they have made of the snapshot. -/
def Phase.Holds {ρ σ : Type} (E : Setting ρ σ) (t : TaskParameters) (taken : List (Submission ρ))
    (merged : List (Acceptance ρ)) : Phase ρ → Prop
  | .starting | .awaitingOperators _ => taken = [] ∧ merged = []
  | .awaitingQuorums operators _ => (taken = [] ∧ merged = []) ∧
    ∃ registry, (E.provider.operators registry t.quorums t.block).answer = .ok operators
  | .collecting c => ∃ n, E.Yields t n ∧ c.state.Arises E.judge t n taken merged
  | .awaitingIndices s _ _ => ∃ n, E.Yields t n ∧ s.Arises E.judge t n taken merged

/-- The errors with which a worker for the task may end. -/
def AggregationError.Terminal (task : TaskIndex) : AggregationError → Prop
  | .operatorsStateRetrieval i _ | .quorumsStateRetrieval i _ | .indicesRetrieval i _ | .taskExpired i =>
    i = task
  | _ => False

/-- What a worker relies on crashes: the registry when the worker takes over the answer to its query, or
the hasher or the verifier on its next submission. -/
def Setting.Crashes {ρ σ : Type} (E : Setting ρ σ) (w : Worker ρ) (registry : σ) : Prop :=
  match w.phase with
  | .starting => False
  | .awaitingOperators _ =>
    (E.provider.operators registry w.parameters.quorums w.parameters.block).answer = .error .crash
  | .awaitingQuorums _ _ =>
    (E.provider.quorums registry w.parameters.quorums w.parameters.block).answer = .error .crash
  | .collecting c => ∃ x ∈ w.inbox.head?, E.judge.hash x.response = .error .crash ∨
    ∃ d key, E.judge.hash x.response = .ok d ∧
      (c.state.snapshot.operators.get? x.operator).bind (·.pubkeys.g2) = some key ∧
      E.judge.verify d x.signature key = .error .crash
  | .awaitingIndices _ ids _ =>
    (E.provider.indices registry w.parameters.block w.parameters.quorums ids).answer = .error .crash

/-- The next submission is merged and opens a window whose end the clock cannot express. -/
def Worker.Overruns {ρ : Type} (J : Judge ρ) (w : Worker ρ) (now : Nat) : Prop :=
  (w.merges? J now).isSome = true ∧ w.parameters.window ≠ 0 ∧ later? now w.parameters.window = none

/-- What a turn of a worker for the task leaves, after it has taken some submissions in all. -/
structure Turn.Holds {ρ σ : Type} (E : Setting ρ σ) (t : TaskParameters) (taken : List (Submission ρ))
    (merged : List (Acceptance ρ)) (cause : Prop) (turn : Turn ρ σ) : Prop where
  waiting : ∀ phase, turn.fate = .waiting phase → phase.Holds E t taken merged
  answered : ∀ result, turn.fate = .finished (.ok result) → ∃ n indices,
    ∃ s : TaskState ρ, E.Yields t n ∧ s.Arises E.judge t n taken merged ∧ s.result? indices = some result
  refused : ∀ e, turn.fate = .finished (.error e) → e.Terminal t.index
  crashed : turn.fate = .crashed → cause

/-- Signals in front change nothing of what a turn leaves. -/
theorem Turn.Holds.after {ρ σ : Type} {E : Setting ρ σ} {t : TaskParameters}
    {taken : List (Submission ρ)} {merged : List (Acceptance ρ)} {cause : Prop} {turn : Turn ρ σ}
    (holds : turn.Holds E t taken merged cause) (signals : List Signal) :
    (turn.after signals).Holds E t taken merged cause := { holds with }

/-- A snapshot has the operators that it was made from. -/
theorem Snapshot.operators_ofStates {quorums : List QuorumNum} {operators : OperatorStates}
    {states : QuorumStates} {n : Snapshot} (built : ofStates quorums operators states = .ok n) :
    n.operators = operators := by
  obtain ⟨found, -, built⟩ := bind_eq_ok_iff.1 built
  cases built
  rfl

theorem Turn.Holds.mono {ρ σ : Type} {E : Setting ρ σ} {t : TaskParameters}
    {taken : List (Submission ρ)} {merged : List (Acceptance ρ)} {cause weaker : Prop} {turn : Turn ρ σ}
    (holds : turn.Holds E t taken merged cause) (imp : cause → weaker) :
    turn.Holds E t taken merged weaker :=
  { holds with crashed := fun crashed => imp (holds.crashed crashed) }

namespace Worker

variable {ρ σ : Type} {E : Setting ρ σ} {w : Worker ρ} {now : Nat} {registry : σ} {t : TaskParameters}
  {taken : List (Submission ρ)} {merged : List (Acceptance ρ)} {cause : Prop}

/-! ### Strides keep it

One lemma for each way in which a turn can end, then one for each part of a stride. -/

/-- A turn that ends in a phase leaves what holds of the phase. -/
theorem holds_waiting {phase : Phase ρ} (holds : phase.Holds E t taken merged) (signals : List Signal) :
    (w.stop registry signals (.waiting phase)).Holds E t taken merged cause := by
  refine ⟨?_, nofun, nofun, nofun⟩
  rintro _ ⟨⟩
  exact holds

/-- A worker ends with an error only if the error may end its task. -/
theorem holds_refused {e : AggregationError} (terminal : e.Terminal t.index) (signals : List Signal) :
    (w.stop registry signals (.finished (.error e))).Holds E t taken merged cause := by
  refine ⟨nofun, nofun, ?_, nofun⟩
  rintro _ ⟨⟩
  exact terminal

/-- A worker that crashes has a cause. -/
theorem holds_crashed (reason : cause) (signals : List Signal) :
    (w.stop registry signals .crashed).Holds E t taken merged cause := ⟨nofun, nofun, nofun, fun _ => reason⟩

/-- What holds of the phase holds of every time at which the answer may come. -/
theorem holds_await {phase : Nat → Phase ρ} (holds : ∀ due, (phase due).Holds E t taken merged) :
    (w.await E now registry phase).Holds E t taken merged cause := by
  unfold await ask
  dsimp only
  split
  · exact holds_waiting (holds _) _
  · exact holds_waiting (holds _) _

/-- A collection that closes leaves its state to the last phase, or there is no winner to ask for. -/
theorem holds_request {n : Snapshot} {s : TaskState ρ} (yields : E.Yields w.parameters n)
    (arises : s.Arises E.judge w.parameters n taken merged) :
    (w.request E now registry s).Holds E w.parameters taken merged cause := by
  unfold request
  split
  · exact holds_refused (e := .taskExpired w.task) rfl _
  · refine holds_await fun due => ?_
    exact ⟨n, yields, arises⟩

/-- What the course of a collection tells carries over to the turn. -/
theorem holds_proceed {n : Snapshot} {p : Progress ρ} (yields : E.Yields w.parameters n)
    (collecting : ∀ c, p.course = .collecting c →
      c.state.Arises E.judge w.parameters n taken merged)
    (closed : ∀ s, p.course = .closed s → s.Arises E.judge w.parameters n taken merged)
    (crashed : p.course = .crashed → cause) :
    (w.proceed E now registry p).Holds E w.parameters taken merged cause := by
  unfold proceed
  dsimp only
  apply Turn.Holds.after
  split
  next c course =>
    refine holds_waiting ?_ _
    exact ⟨n, yields, collecting c course⟩
  next s course => exact holds_request yields (closed s course)
  next => exact holds_refused (e := .taskExpired w.task) rfl _
  next course => exact holds_crashed (crashed course) _

/-- A deadline takes nothing and merges nothing. -/
theorem holds_overdue {n : Snapshot} {c : Collection ρ} {p : Progress ρ}
    (yields : E.Yields w.parameters n)
    (arises : c.state.Arises E.judge w.parameters n taken merged)
    (overdue : c.overdue? now = some p) :
    (w.proceed E now registry p).Holds E w.parameters taken merged cause := by
  rcases Collection.overdue_cases overdue with ⟨-, -, rfl⟩ | ⟨-, -, rfl⟩ | ⟨-, -, rfl⟩
  · refine holds_proceed yields nofun ?_ nofun
    rintro _ ⟨⟩
    exact arises
  · exact holds_proceed yields nofun nofun nofun
  · refine holds_proceed yields nofun ?_ nofun
    rintro _ ⟨⟩
    exact arises

/-- A submission that is taken is one more of those that have made the state. -/
theorem holds_take {n : Snapshot} {c : Collection ρ} {x : Submission ρ} {unread : List (Submission ρ)}
    (yields : E.Yields w.parameters n)
    (arises : c.state.Arises E.judge w.parameters n taken merged) (phase : w.phase = .collecting c)
    (takes : w.takes? now = some (c, x)) (ready : w.inbox = x :: unread) :
    ({ w with inbox := unread }.proceed E now registry (c.take E.judge now x)).Holds E w.parameters
      (taken ++ [x]) (merged ++ (w.merges? E.judge now).toList)
      (E.Crashes w registry ∨ w.Overruns E.judge now) := by
  have further := arises.snoc x
  have merges : w.merges? E.judge now = c.state.acceptance? E.judge x := by
    rw [merges?, takes, Option.bind_some]
  rw [← merges] at further
  unfold TaskState.step at further
  have receipt := Collection.receipt_receive (J := E.judge) c now x
  unfold Collection.take
  generalize c.receive E.judge now x = p at receipt
  cases receipt with
  | crashed decided =>
    refine holds_proceed (w := { w with inbox := unread }) yields nofun nofun fun _ => .inl ?_
    rw [Setting.Crashes, phase, ready]
    exact ⟨x, rfl, TaskState.crash_of_submit decided⟩
  | rejected _ decided =>
    rw [decided] at further
    refine holds_proceed (w := { w with inbox := unread }) yields ?_ nofun nofun
    rintro _ ⟨⟩
    exact further
  | accepted _ decided _ going =>
    rw [decided] at further
    rcases going with ⟨c', rfl, same⟩ | rfl
    · subst same
      refine holds_proceed (w := { w with inbox := unread }) yields ?_ nofun nofun
      rintro _ ⟨⟩
      exact further
    · refine holds_proceed (w := { w with inbox := unread }) yields nofun ?_ nofun
      rintro _ ⟨⟩
      exact further
  | @overrun _ _ next decided _ _ window late =>
    rw [decided] at further
    have parameters : next.parameters = w.parameters := further.parameters
    rw [parameters] at window late
    refine holds_proceed (w := { w with inbox := unread }) yields nofun nofun fun _ => .inr ⟨?_, window, late⟩
    rw [merges?, takes, Option.bind_some]
    dsimp only [TaskState.acceptance?]
    rw [decided]
    rfl

/-- The answer for the operators is what the next phase keeps, unless it is a crash. -/
theorem holds_takeOperators (unstarted : taken = [] ∧ merged = []) :
    (w.takeOperators E now registry).Holds E w.parameters taken merged
      ((E.provider.operators registry w.parameters.quorums w.parameters.block).answer = .error .crash) := by
  unfold takeOperators
  dsimp only
  apply Turn.Holds.after
  split
  next answer => exact holds_crashed answer _
  next => exact holds_refused (e := .operatorsStateRetrieval w.task _) rfl _
  next operators answer =>
    refine holds_await fun due => ?_
    exact ⟨unstarted, registry, answer⟩

/-- The answers make a snapshot, and the collection begins from it with nothing taken. -/
theorem holds_receiveQuorums {operators : OperatorStates} (unstarted : taken = [] ∧ merged = [])
    (asked : ∃ registry, (E.provider.operators registry w.parameters.quorums w.parameters.block).answer =
      .ok operators) :
    (w.receiveQuorums E now registry 0 operators).Holds E w.parameters taken merged
      ((E.provider.quorums registry w.parameters.quorums w.parameters.block).answer = .error .crash) := by
  obtain ⟨first, operatorsAnswer⟩ := asked
  unfold receiveQuorums
  dsimp only
  apply Turn.Holds.after
  split
  next answer => exact holds_crashed answer _
  next => exact holds_refused (e := .quorumsStateRetrieval w.task _) rfl _
  next states answer =>
    split
    next => exact holds_refused (e := .quorumsStateRetrieval w.task _) rfl _
    next n snapshot =>
      have same := Snapshot.operators_ofStates snapshot
      refine Turn.Holds.after (holds_waiting ?_ []) _
      exact ⟨n, ⟨first, registry, states, same ▸ operatorsAnswer, answer, same ▸ snapshot⟩,
        unstarted.1 ▸ rfl, unstarted.1 ▸ unstarted.2⟩

/-- The answer for the indices ends the worker, with the result of its state if there is one. -/
theorem holds_conclude {n : Snapshot} {s : TaskState ρ} {ids : List OperatorId}
    (yields : E.Yields w.parameters n)
    (arises : s.Arises E.judge w.parameters n taken merged) :
    (w.conclude E registry s ids).Holds E w.parameters taken merged
      ((E.provider.indices registry w.parameters.block w.parameters.quorums ids).answer = .error .crash) := by
  unfold conclude
  dsimp only
  apply Turn.Holds.after
  split
  next answer => exact holds_crashed answer _
  next => exact holds_refused (e := .indicesRetrieval w.task _) rfl _
  next indices _ =>
    split
    next => exact holds_refused (e := .taskExpired w.task) rfl _
    next result found =>
      refine ⟨nofun, ?_, nofun, nofun⟩
      rintro _ ⟨⟩
      exact ⟨n, indices, s, yields, arises, found⟩

/-- A turn that takes no submission merges none either. -/
theorem holds_untaken {turn : Turn ρ σ} (takes : w.takes? now = none)
    (holds : turn.Holds E t taken merged cause) :
    turn.Holds E t (taken ++ ((w.takes? now).map (·.2)).toList) (merged ++ (w.merges? E.judge now).toList)
      cause := by
  have merges : w.merges? E.judge now = none := by
    rw [merges?, takes, Option.bind_none]
  rw [takes, merges]
  simpa using holds

/-- After a stride the phase tells of one more submission, if one was taken; and a worker that ends has
the result of what it has taken, an error for its task, or a reason to crash. -/
theorem holds_stride (now : Nat) (registry : σ) (holds : w.phase.Holds E w.parameters taken merged) :
    (w.stride E now registry).Holds E w.parameters (taken ++ ((w.takes? now).map (·.2)).toList)
      (merged ++ (w.merges? E.judge now).toList) (E.Crashes w registry ∨ w.Overruns E.judge now) := by
  cases phase : w.phase with
  | collecting c =>
    rw [phase] at holds
    obtain ⟨n, yields, arises⟩ := holds
    cases early : c.overdue? now with
    | some p =>
      refine holds_untaken (by simp [takes?, phase, early]) ?_
      rw [stride_overdue phase early]
      exact holds_overdue yields arises early
    | none =>
      cases ready : w.inbox with
      | nil =>
        refine holds_untaken (by simp [takes?, phase, early, ready]) ?_
        rw [stride_idle phase early ready]
        refine holds_waiting ?_ _
        exact ⟨n, yields, arises⟩
      | cons x unread =>
        have takes : w.takes? now = some (c, x) := by simp [takes?, phase, early, ready]
        rw [stride_take phase early ready, takes, Option.map_some, Option.toList_some]
        exact holds_take yields arises phase takes ready
  | starting =>
    refine holds_untaken (by simp [takes?, phase]) ?_
    unfold stride
    rw [phase] at holds ⊢
    exact holds_await fun due => holds
  | awaitingOperators due =>
    refine holds_untaken (by simp [takes?, phase]) ?_
    unfold stride Setting.Crashes
    rw [phase] at holds ⊢
    exact iteInduction (fun _ => (holds_takeOperators holds).mono .inl) fun _ => holds_waiting holds _
  | awaitingQuorums operators due =>
    refine holds_untaken (by simp [takes?, phase]) ?_
    unfold stride Setting.Crashes
    rw [phase] at holds ⊢
    exact iteInduction (fun _ => (holds_receiveQuorums holds.1 holds.2).mono .inl) fun _ =>
      holds_waiting holds _
  | awaitingIndices s ids due =>
    refine holds_untaken (by simp [takes?, phase]) ?_
    unfold stride Setting.Crashes
    rw [phase] at holds ⊢
    obtain ⟨n, yields, arises⟩ := id holds
    exact iteInduction (fun _ => (holds_conclude yields arises).mono .inl) fun _ => holds_waiting holds _

end Worker

end Attestation
