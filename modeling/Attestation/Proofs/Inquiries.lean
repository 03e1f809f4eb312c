/-
Module: Attestation.Proofs.Inquiries
Purpose: What workers ask the registry. A registry that keeps a record of the queries that it is asked
  shows them stride by stride: a worker asks for the operators, then for the quorums, and after the
  collection for the indices of those that did not sign the winning digest, each time for its own task
  and at most once.
Main exports: Inquiry, Provider.recording, Worker.inquiries, Worker.registry_stride,
  Worker.inquiries_stride, Worker.stride_recording, Setting.Fetches, Snapshot.Fetched, Phase.Informed,
  Resolves, Service.inquiries, Inquires, Service.inquires_after
-/
import Attestation.Proofs.Tenures

namespace Attestation

/-- A query and the state of the registry from which it is answered. -/
inductive Inquiry (σ : Type) where
  | operators (registry : σ) (quorums : List QuorumNum) (block : BlockNumber)
  | quorums (registry : σ) (quorums : List QuorumNum) (block : BlockNumber)
  | indices (registry : σ) (block : BlockNumber) (quorums : List QuorumNum) (ids : List OperatorId)

/-- The state from which the query is answered. -/
def Inquiry.registry {σ : Type} : Inquiry σ → σ
  | .operators registry _ _ | .quorums registry _ _ | .indices registry _ _ _ => registry

/-- The reply of a registry that keeps a record. -/
def Reply.recorded {σ α : Type} (reply : Reply σ α) (record : List (Inquiry σ)) :
    Reply (σ × List (Inquiry σ)) α :=
  ⟨reply.answer, (reply.registry, record), reply.events⟩

/-- The same registry with a record of the queries that it was asked. -/
def Provider.recording {σ : Type} (P : Provider σ) : Provider (σ × List (Inquiry σ)) where
  latency r := P.latency r.1
  operators r quorums block :=
    (P.operators r.1 quorums block).recorded (r.2 ++ [.operators r.1 quorums block])
  quorums r quorums block :=
    (P.quorums r.1 quorums block).recorded (r.2 ++ [.quorums r.1 quorums block])
  indices r block quorums ids :=
    (P.indices r.1 block quorums ids).recorded (r.2 ++ [.indices r.1 block quorums ids])

/-- The same setting with a record of queries. -/
def Setting.recording {ρ σ : Type} (E : Setting ρ σ) : Setting ρ (σ × List (Inquiry σ)) :=
  ⟨E.judge, E.provider.recording⟩

/-- A turn beside a record. -/
def Turn.recorded {ρ σ : Type} (turn : Turn ρ σ) (record : List (Inquiry σ)) :
    Turn ρ (σ × List (Inquiry σ)) :=
  ⟨(turn.registry, record), turn.signals, turn.unread, turn.fate⟩

namespace Worker

variable {ρ σ : Type}

/-- The queries of a stride. -/
def inquiries (E : Setting ρ σ) (w : Worker ρ) (now : Nat) (registry : σ) : List (Inquiry σ) :=
  (w.stride E.recording now (registry, [])).registry.2

section Registries

variable {E : Setting ρ σ} {w : Worker ρ} {now : Nat} {registry : σ}

/-! ### What a stride asks

A stride changes the registry only by a query, and each phase has at most one. So the state after a stride,
asked of the registry that keeps a record, says what the stride has asked. -/

/-- To wait for an answer is not to ask: the registry stays as it is. -/
theorem registry_await (phase : Nat → Phase ρ) : (w.await E now registry phase).registry = registry := by
  unfold await ask
  dsimp only
  split <;> rfl

/-- A worker that sets out to ask for the indices has not asked yet. -/
theorem registry_request (s : TaskState ρ) : (w.request E now registry s).registry = registry := by
  unfold request
  split
  · rfl
  · exact registry_await _

theorem registry_proceed (p : Progress ρ) : (w.proceed E now registry p).registry = registry := by
  unfold proceed
  rw [Turn.after_registry]
  split
  · rfl
  · exact registry_request _
  · rfl
  · rfl

theorem registry_takeNext (c : Collection ρ) : (w.takeNext E now registry c).registry = registry := by
  unfold takeNext
  split
  · exact registry_proceed _
  · rfl
  · exact registry_proceed _

/-- The registry is left as the reply to the query for the operators has it, whatever the answer. -/
theorem registry_takeOperators : (w.takeOperators E now registry).registry =
    (E.provider.operators registry w.parameters.quorums w.parameters.block).registry := by
  unfold takeOperators
  rw [Turn.after_registry]
  split
  · rfl
  · rfl
  · exact registry_await _

/-- So it is with the query for the quorums. -/
theorem registry_receiveQuorums (operators : OperatorStates) :
    (w.receiveQuorums E now registry 0 operators).registry =
      (E.provider.quorums registry w.parameters.quorums w.parameters.block).registry := by
  unfold receiveQuorums
  rw [Turn.after_registry]
  split
  · rfl
  · rfl
  · split <;> rfl

/-- So it is with the query for the indices. -/
theorem registry_conclude (s : TaskState ρ) (ids : List OperatorId) :
    (w.conclude E registry s ids).registry =
      (E.provider.indices registry w.parameters.block w.parameters.quorums ids).registry := by
  unfold conclude
  rw [Turn.after_registry]
  split
  · rfl
  · rfl
  · split <;> rfl

/-- The registry after a stride is as the last reply has left it. -/
theorem registry_stride (E : Setting ρ σ) (w : Worker ρ) (now : Nat) (registry : σ) :
    (w.stride E now registry).registry =
      match w.phase with
      | .starting | .collecting _ => registry
      | .awaitingOperators due =>
        if due ≤ now then (E.provider.operators registry w.parameters.quorums w.parameters.block).registry
        else registry
      | .awaitingQuorums _ due =>
        if due ≤ now then (E.provider.quorums registry w.parameters.quorums w.parameters.block).registry
        else registry
      | .awaitingIndices _ ids due =>
        if due ≤ now then
          (E.provider.indices registry w.parameters.block w.parameters.quorums ids).registry
        else registry := by
  unfold stride
  cases w.phase with
  | starting => exact registry_await _
  | collecting c => exact registry_takeNext c
  | awaitingOperators due =>
    dsimp only
    rw [apply_ite Turn.registry, registry_takeOperators]
    rfl
  | awaitingQuorums operators due =>
    dsimp only
    rw [apply_ite Turn.registry, registry_receiveQuorums]
    rfl
  | awaitingIndices s ids due =>
    dsimp only
    rw [apply_ite Turn.registry, registry_conclude]
    rfl

/-- A worker asks when an answer that it waits for is due, and only then. -/
theorem inquiries_stride (E : Setting ρ σ) (w : Worker ρ) (now : Nat) (registry : σ) :
    w.inquiries E now registry =
      match w.phase with
      | .starting | .collecting _ => []
      | .awaitingOperators due =>
        if due ≤ now then [.operators registry w.parameters.quorums w.parameters.block] else []
      | .awaitingQuorums _ due =>
        if due ≤ now then [.quorums registry w.parameters.quorums w.parameters.block] else []
      | .awaitingIndices _ ids due =>
        if due ≤ now then [.indices registry w.parameters.block w.parameters.quorums ids] else [] := by
  unfold inquiries
  rw [registry_stride]
  cases w.phase with
  | starting => rfl
  | collecting c => rfl
  | _ =>
    dsimp only
    split <;> rfl

end Registries

section Recording

variable {E : Setting ρ σ} {w : Worker ρ} {now : Nat} {registry : σ} {record : List (Inquiry σ)}

/-! ### A record changes nothing else

Step by step the worker does the same before the registry with a record as before the registry without one.
That is why the queries of a stride may be read off the record. -/

/-- Waiting adds nothing to the record. -/
theorem await_recording (phase : Nat → Phase ρ) : w.await E.recording now (registry, record) phase =
    (w.await E now registry phase).recorded record := by
  unfold await ask
  dsimp only [Setting.recording, Provider.recording]
  split <;> rfl

theorem request_recording (s : TaskState ρ) : w.request E.recording now (registry, record) s =
    (w.request E now registry s).recorded record := by
  unfold request
  cases s.winningNonSigners? with
  | none => rfl
  | some nonSigners => exact await_recording _

/-- What follows from a submission or from the end of the collection adds nothing either. -/
theorem proceed_recording (p : Progress ρ) : w.proceed E.recording now (registry, record) p =
    (w.proceed E now registry p).recorded record := by
  unfold proceed
  cases p.course with
  | closed s => exact congrArg (Turn.after · p.signals) (request_recording s)
  | _ => rfl

theorem takeNext_recording (c : Collection ρ) : w.takeNext E.recording now (registry, record) c =
    (w.takeNext E now registry c).recorded record := by
  unfold takeNext
  cases c.overdue? now with
  | some p => exact proceed_recording p
  | none =>
    cases w.inbox with
    | nil => rfl
    | cons x unread => exact proceed_recording _

/-- The query for the operators is recorded once, with the state of the registry at that time. -/
theorem takeOperators_recording : w.takeOperators E.recording now (registry, record) =
    (w.takeOperators E now registry).recorded
      (record ++ [.operators registry w.parameters.quorums w.parameters.block]) := by
  unfold takeOperators
  dsimp only [Setting.recording, Provider.recording, Reply.recorded]
  cases (E.provider.operators registry w.parameters.quorums w.parameters.block).answer with
  | error e => cases e <;> rfl
  | ok operators => exact congrArg (Turn.after · _) (await_recording _)

/-- So is the query for the quorums. -/
theorem receiveQuorums_recording (operators : OperatorStates) :
    w.receiveQuorums E.recording now (registry, record) 0 operators =
      (w.receiveQuorums E now registry 0 operators).recorded
        (record ++ [.quorums registry w.parameters.quorums w.parameters.block]) := by
  unfold receiveQuorums
  dsimp only [Setting.recording, Provider.recording, Reply.recorded]
  cases (E.provider.quorums registry w.parameters.quorums w.parameters.block).answer with
  | error e => cases e <;> rfl
  | ok states =>
    dsimp only
    cases Snapshot.ofStates w.parameters.quorums operators states <;> rfl

/-- So is the query for the indices. -/
theorem conclude_recording (s : TaskState ρ) (ids : List OperatorId) :
    w.conclude E.recording (registry, record) s ids = (w.conclude E registry s ids).recorded
      (record ++ [.indices registry w.parameters.block w.parameters.quorums ids]) := by
  unfold conclude
  dsimp only [Setting.recording, Provider.recording, Reply.recorded]
  cases (E.provider.indices registry w.parameters.block w.parameters.quorums ids).answer with
  | error e => cases e <;> rfl
  | ok indices =>
    dsimp only
    cases s.result? indices <;> rfl

/-- A worker behaves alike whether a record is kept or not, and its queries are put at the end of it. -/
theorem stride_recording (E : Setting ρ σ) (w : Worker ρ) (now : Nat) (registry : σ)
    (record : List (Inquiry σ)) : w.stride E.recording now (registry, record) =
      (w.stride E now registry).recorded (record ++ w.inquiries E now registry) := by
  rw [inquiries_stride]
  unfold stride
  cases w.phase with
  | starting =>
    rw [List.append_nil]
    exact await_recording _
  | collecting c =>
    rw [List.append_nil]
    exact takeNext_recording c
  | awaitingOperators due =>
    dsimp only
    split
    · exact takeOperators_recording
    · rw [List.append_nil]
      rfl
  | awaitingQuorums operators due =>
    dsimp only
    split
    · exact receiveQuorums_recording operators
    · rw [List.append_nil]
      rfl
  | awaitingIndices s ids due =>
    dsimp only
    split
    · exact conclude_recording s ids
    · rw [List.append_nil]
      rfl

end Recording

end Worker

section Answers

variable {ρ σ : Type}

/-! ### What a phase knows

The invariant of a worker: its phase says which queries it has made, and the snapshot in it is made of
their answers. -/

/-- The registry is asked for the operators and then for the quorums of the task, and the answers make the
snapshot. -/
structure Setting.Fetches (E : Setting ρ σ) (t : TaskParameters) (first second : σ)
    (states : QuorumStates) (n : Snapshot) : Prop where
  operators : (E.provider.operators first t.quorums t.block).answer = .ok n.operators
  quorums : (E.provider.quorums second t.quorums t.block).answer = .ok states
  snapshot : Snapshot.ofStates t.quorums n.operators states = .ok n

/-- All that was asked for the task are the two queries that make the snapshot. -/
def Snapshot.Fetched (E : Setting ρ σ) (t : TaskParameters) (asked : List (Inquiry σ)) (n : Snapshot) :
    Prop :=
  ∃ first second states, E.Fetches t first second states n ∧
    asked = [.operators first t.quorums t.block, .quorums second t.quorums t.block]

/-- What a worker's phase tells of its queries so far. -/
def Phase.Informed (E : Setting ρ σ) (t : TaskParameters) (asked : List (Inquiry σ)) : Phase ρ → Prop
  | .starting | .awaitingOperators _ => asked = []
  | .awaitingQuorums operators _ => ∃ first, asked = [.operators first t.quorums t.block] ∧
    (E.provider.operators first t.quorums t.block).answer = .ok operators
  | .collecting c => c.state.snapshot.Fetched E t asked
  | .awaitingIndices s ids _ => s.snapshot.Fetched E t asked ∧
    ∃ nonSigners, s.winningNonSigners? = some nonSigners ∧ ids = nonSigners.map (·.1)

/-- A result was made of the answers to three queries and of what the worker has taken. -/
structure Resolves (E : Setting ρ σ) (t : TaskParameters) (taken : List (Submission ρ))
    (merged : List (Acceptance ρ)) (asked : List (Inquiry σ)) (states : QuorumStates) (n : Snapshot)
    (result : TaskResult ρ) : Prop where
  inquiries : ∃ first second third, E.Fetches t first second states n ∧
    (E.provider.indices third t.block t.quorums result.nonSigners).answer = .ok result.indices ∧
    asked = [.operators first t.quorums t.block, .quorums second t.quorums t.block,
      .indices third t.block t.quorums result.nonSigners]
  merged : merged = (TaskState.start t n).accepted E.judge taken
  built : ((TaskState.start t n).after E.judge taken).result? result.indices = some result

/-- What a turn of a worker for the task leaves after its queries, if it is not the last. -/
structure Turn.Informs (E : Setting ρ σ) (t : TaskParameters) (asked : List (Inquiry σ))
    (turn : Turn ρ σ) : Prop where
  waiting : ∀ phase, turn.fate = .waiting phase → phase.Informed E t asked
  unanswered : ∀ result, turn.fate ≠ .finished (.ok result)

/-- What a turn leaves does not depend on the signals before it. -/
theorem Turn.Informs.after {E : Setting ρ σ} {t : TaskParameters} {asked : List (Inquiry σ)}
    {turn : Turn ρ σ} (informs : turn.Informs E t asked) (signals : List Signal) :
    (turn.after signals).Informs E t asked := ⟨informs.waiting, informs.unanswered⟩

/-- A submission leaves the snapshot of a collection as it is. -/
theorem Collection.snapshot_receive (J : Judge ρ) (c : Collection ρ) (now : Nat) (x : Submission ρ) :
    (∀ c', (c.receive J now x).course = .collecting c' → c'.state.snapshot = c.state.snapshot) ∧
      ∀ s, (c.receive J now x).course = .closed s → s.snapshot = c.state.snapshot := by
  have receipt := receipt_receive (J := J) c now x
  generalize c.receive J now x = p at receipt
  cases receipt with
  | crashed => exact ⟨nofun, nofun⟩
  | rejected =>
    refine ⟨?_, nofun⟩
    rintro _ ⟨⟩
    rfl
  | accepted _ decided _ going =>
    obtain ⟨_, _, _, admits⟩ := TaskState.submit_eq_ok_iff.1 decided
    rcases going with ⟨c', rfl, same⟩ | rfl
    · refine ⟨?_, nofun⟩
      rintro _ ⟨⟩
      rw [same, admits.result]
    · refine ⟨nofun, ?_⟩
      rintro _ ⟨⟩
      rw [admits.result]
  | overrun => exact ⟨nofun, nofun⟩

namespace TaskState

/-- A result lists those that the winning digest leaves out. -/
theorem nonSigners_of_result? {s : TaskState ρ} {indices : SignatureCheckIndices} {result : TaskResult ρ}
    (built : s.result? indices = some result) : result.indices = indices ∧
      ∃ nonSigners, s.winningNonSigners? = some nonSigners ∧ result.nonSigners = nonSigners.map (·.1) ∧
        result.nonSignerKeys = nonSigners.map (·.2) := by
  unfold result? at built
  obtain ⟨⟨d, r⟩, won, built⟩ := Option.bind_eq_some_iff.1 built
  obtain ⟨g, found, built⟩ := Option.bind_eq_some_iff.1 built
  cases built
  refine ⟨rfl, _, ?_, rfl, rfl⟩
  simp [winningNonSigners?, won, found]

end TaskState

end Answers

namespace Worker

variable {ρ σ : Type} {E : Setting ρ σ} {w : Worker ρ} {now : Nat} {registry : σ} {t : TaskParameters}
  {asked : List (Inquiry σ)}

/-! ### Strides keep the invariant

One lemma for each way in which a turn can end. The last phase is left to the next section, since from
there a worker can have a result. -/

/-- A turn that ends in a phase leaves what the phase tells. -/
theorem informs_waiting {phase : Phase ρ} (informed : phase.Informed E t asked) (signals : List Signal) :
    (w.stop registry signals (.waiting phase)).Informs E t asked := by
  refine ⟨?_, nofun⟩
  rintro _ ⟨⟩
  exact informed

/-- A worker that ends with an error has no result to account for. -/
theorem informs_refused (e : AggregationError) (signals : List Signal) :
    (w.stop registry signals (.finished (.error e))).Informs E t asked := ⟨nofun, nofun⟩

/-- Nor has one that crashes. -/
theorem informs_crashed (signals : List Signal) :
    (w.stop registry signals .crashed).Informs E t asked := ⟨nofun, nofun⟩

/-- A worker that waits for an answer knows what it knew when it set out to wait. -/
theorem informs_await {phase : Nat → Phase ρ} (informed : ∀ due, (phase due).Informed E t asked) :
    (w.await E now registry phase).Informs E t asked := by
  unfold await ask
  dsimp only
  split
  · exact informs_waiting (informed _) _
  · exact informs_waiting (informed _) _

/-- Before the query for the indices the worker knows whom it will ask about. -/
theorem informs_request {s : TaskState ρ} (fetched : s.snapshot.Fetched E t asked) :
    (w.request E now registry s).Informs E t asked := by
  unfold request
  split
  · exact informs_refused _ _
  next nonSigners winning =>
    apply informs_await
    intro due
    exact ⟨fetched, nonSigners, winning, rfl⟩

/-- A collection that goes on or closes with the snapshot that was fetched leaves it fetched. -/
theorem informs_proceed {p : Progress ρ}
    (collecting : ∀ c, p.course = .collecting c → c.state.snapshot.Fetched E t asked)
    (closed : ∀ s, p.course = .closed s → s.snapshot.Fetched E t asked) :
    (w.proceed E now registry p).Informs E t asked := by
  unfold proceed
  dsimp only
  apply Turn.Informs.after
  split
  next c course =>
    apply informs_waiting
    exact collecting c course
  next s course => exact informs_request (closed s course)
  next => exact informs_refused _ _
  next => exact informs_crashed _

/-- No submission and no deadline changes the snapshot that was fetched. -/
theorem informs_takeNext {c : Collection ρ} (fetched : c.state.snapshot.Fetched E t asked) :
    (w.takeNext E now registry c).Informs E t asked := by
  unfold takeNext
  split
  next p _ overdue =>
    rcases Collection.overdue_cases overdue with ⟨-, -, rfl⟩ | ⟨-, -, rfl⟩ | ⟨-, -, rfl⟩
    · refine informs_proceed nofun ?_
      rintro _ ⟨⟩
      exact fetched
    · exact informs_proceed nofun nofun
    · refine informs_proceed nofun ?_
      rintro _ ⟨⟩
      exact fetched
  next =>
    apply informs_waiting
    exact fetched
  next x _ _ _ =>
    obtain ⟨collecting, closed⟩ := Collection.snapshot_receive E.judge c now x
    apply informs_proceed
    · intro c' going
      rw [collecting c' going]
      exact fetched
    · intro s ended
      rw [closed s ended]
      exact fetched

/-- The operators that the phase keeps are those of the answer. -/
theorem informs_takeOperators : (w.takeOperators E now registry).Informs E w.parameters
    [.operators registry w.parameters.quorums w.parameters.block] := by
  unfold takeOperators
  dsimp only
  apply Turn.Informs.after
  split
  next => exact informs_crashed _
  next => exact informs_refused _ _
  next operators answer =>
    apply informs_await
    intro due
    exact ⟨registry, rfl, answer⟩

/-- The snapshot is made of the two answers. -/
theorem informs_receiveQuorums {operators : OperatorStates} {first : σ}
    (answered : (E.provider.operators first w.parameters.quorums w.parameters.block).answer =
      .ok operators) :
    (w.receiveQuorums E now registry 0 operators).Informs E w.parameters
      [.operators first w.parameters.quorums w.parameters.block,
        .quorums registry w.parameters.quorums w.parameters.block] := by
  unfold receiveQuorums
  dsimp only
  apply Turn.Informs.after
  split
  next => exact informs_crashed _
  next => exact informs_refused _ _
  next states answer =>
    split
    next => exact informs_refused _ _
    next n snapshot =>
      have same := Snapshot.operators_ofStates snapshot
      apply Turn.Informs.after
      refine informs_waiting ?_ []
      exact ⟨first, registry, states, ⟨same ▸ answered, answer, same ▸ snapshot⟩, rfl⟩

/-- After a stride the phase tells of one more query, if one was due, unless the stride takes over the
indices. -/
theorem informs_stride (now : Nat) (registry : σ) (informed : w.phase.Informed E w.parameters asked) :
    (w.stride E now registry).Informs E w.parameters (asked ++ w.inquiries E now registry) ∨
      ∃ s ids due, w.phase = .awaitingIndices s ids due ∧ due ≤ now := by
  rw [inquiries_stride]
  unfold stride
  cases phase : w.phase with
  | starting =>
    rw [phase] at informed
    rw [List.append_nil]
    exact .inl (informs_await fun due => informed)
  | collecting c =>
    rw [phase] at informed
    rw [List.append_nil]
    exact .inl (informs_takeNext informed)
  | awaitingOperators due =>
    rw [phase] at informed
    cases informed
    dsimp only
    split
    · exact .inl informs_takeOperators
    · refine .inl (informs_waiting ?_ _)
      rfl
  | awaitingQuorums operators due =>
    rw [phase] at informed
    obtain ⟨first, rfl, answered⟩ := informed
    dsimp only
    split
    · exact .inl (informs_receiveQuorums answered)
    · refine .inl (informs_waiting ?_ _)
      exact ⟨first, rfl, answered⟩
  | awaitingIndices s ids due =>
    rw [phase] at informed
    dsimp only
    split
    next ready => exact .inr ⟨s, ids, due, rfl, ready⟩
    next =>
      rw [List.append_nil]
      exact .inl (informs_waiting informed _)

/-! ### The end of a worker -/

/-- With the indices a worker ends, and if it has a result then from what was answered. -/
theorem conclude_cases (E : Setting ρ σ) (w : Worker ρ) (registry : σ) (s : TaskState ρ)
    (ids : List OperatorId) : (∀ phase, (w.conclude E registry s ids).fate ≠ .waiting phase) ∧
      ∀ result, (w.conclude E registry s ids).fate = .finished (.ok result) → ∃ indices,
        (E.provider.indices registry w.parameters.block w.parameters.quorums ids).answer = .ok indices ∧
          s.result? indices = some result := by
  unfold conclude
  dsimp only [Turn.after_fate]
  split
  next => exact ⟨nofun, nofun⟩
  next => exact ⟨nofun, nofun⟩
  next indices answer =>
    split
    next => exact ⟨nofun, nofun⟩
    next result built =>
      refine ⟨nofun, ?_⟩
      rintro _ ⟨⟩
      exact ⟨indices, answer, built⟩

/-- When the answer for the indices is due, the stride is the end of the worker. -/
theorem stride_conclude {s : TaskState ρ} {ids : List OperatorId} {due : Nat}
    (phase : w.phase = .awaitingIndices s ids due) (ready : due ≤ now) :
    w.stride E now registry = w.conclude E registry s ids ∧ w.inquiries E now registry =
      [.indices registry w.parameters.block w.parameters.quorums ids] := by
  rw [inquiries_stride]
  unfold stride
  rw [phase]
  exact ⟨if_pos ready, if_pos ready⟩

/-- A worker that goes on knows what it has asked. -/
theorem informed_stride {phase : Phase ρ} (informed : w.phase.Informed E w.parameters asked)
    (going : (w.stride E now registry).fate = .waiting phase) :
    phase.Informed E w.parameters (asked ++ w.inquiries E now registry) := by
  rcases informs_stride now registry informed with informs | ⟨s, ids, due, awaiting, ready⟩
  · exact informs.waiting phase going
  · rw [(stride_conclude awaiting ready).1] at going
    exact absurd going ((conclude_cases E w registry s ids).1 phase)

/-- A worker that ends with a result has it from its three queries and from what it has taken. -/
theorem resolves_stride {taken : List (Submission ρ)} {merged : List (Acceptance ρ)}
    {result : TaskResult ρ} (informed : w.phase.Informed E w.parameters asked)
    (holds : w.phase.Holds E w.parameters taken merged)
    (answered : (w.stride E now registry).fate = .finished (.ok result)) :
    ∃ states n, Resolves E w.parameters (taken ++ ((w.takes? now).map (·.2)).toList)
      (merged ++ (w.merges? E.judge now).toList) (asked ++ w.inquiries E now registry) states n result := by
  rcases informs_stride now registry informed with informs | ⟨s, ids, due, awaiting, ready⟩
  · exact absurd answered (informs.unanswered result)
  · obtain ⟨stride, inquiries⟩ := stride_conclude (E := E) awaiting ready
    rw [stride] at answered
    obtain ⟨indices, answer, built⟩ := (conclude_cases E w registry s ids).2 result answered
    have takes : w.takes? now = none := by
      unfold takes?
      rw [awaiting]
    have merges : w.merges? E.judge now = none := by
      rw [merges?, takes, Option.bind_none]
    rw [takes, merges, Option.map_none, Option.toList_none, Option.toList_none, List.append_nil,
      List.append_nil]
    rw [awaiting] at informed holds
    obtain ⟨⟨first, second, states, fetches, rfl⟩, nonSigners, winning, rfl⟩ := informed
    obtain ⟨n, -, arises⟩ := holds
    obtain ⟨rfl, nonSigners', winning', same, -⟩ := TaskState.nonSigners_of_result? built
    cases winning.symm.trans winning'
    cases arises.snapshot
    refine ⟨states, s.snapshot, ⟨first, second, registry, fetches, same ▸ answer, ?_⟩, arises.merged, ?_⟩
    · rw [inquiries, same]
      rfl
    · rw [← arises.state]
      exact built

end Worker

namespace Service

variable {ρ σ : Type}

/-! ### The queries of a service

The queries of all workers in one list, beside the other lists of what has happened. Only strides add to
it, each under the number of its worker. -/

/-- The queries of an action, with the worker that makes them. -/
def inquiries (E : Setting ρ σ) (s : Service ρ σ) : Action ρ σ → List (WorkerId × Inquiry σ)
  | .work id =>
    ((s.workers.get? id).toList.flatMap fun w => w.inquiries E s.now s.registry).map (id, ·)
  | _ => []

variable {E : Setting ρ σ} {s : Service ρ σ} {id : WorkerId} {w : Worker ρ}

/-- What a worker asks is put down under its own number. -/
theorem inquiries_work (found : s.workers.get? id = some w) :
    s.inquiries E (.work id) = (w.inquiries E s.now s.registry).map (id, ·) := by
  rw [inquiries, found, Option.toList_some, List.flatMap_singleton]

/-- Only workers ask. -/
theorem inquiries_of_idle {a : Action ρ σ} (idle : ∀ id w, a = .work id → s.workers.get? id ≠ some w) :
    s.inquiries E a = [] := by
  cases a with
  | work id =>
    have gone : s.workers.get? id = none := by
      rw [Option.eq_none_iff_forall_ne_some]
      exact fun w => idle id w rfl
    rw [inquiries, gone]
    rfl
  | _ => rfl

/-- A stride starts no task. -/
theorem started_work (E : Setting ρ σ) (s : Service ρ σ) (id : WorkerId) :
    (s.work E id).started = s.started := by
  cases found : s.workers.get? id with
  | none =>
    unfold work
    rw [found]
  | some w =>
    obtain ⟨calls, metrics, journal, noted⟩ := s.noted_frame id (w.stride E s.now s.registry)
    rcases (w.stride E s.now s.registry).fate.waiting_or_ending with ⟨phase, going⟩ | ⟨ending, ceased⟩
    · rw [work_waiting found going, noted]
      rfl
    · obtain ⟨metrics', journal', same⟩ := work_ended found ceased
      rw [same, noted]

end Service

/-- The queries of a service's workers beside the other lists of what has happened. -/
structure Inquires {ρ σ : Type} (E : Setting ρ σ) (started : List (WorkerId × TaskParameters))
    (ended : List (WorkerId × Option (TaskResponse ρ))) (taken : List (WorkerId × Submission ρ))
    (merged : List (WorkerId × Acceptance ρ)) (asked : List (WorkerId × Inquiry σ)) (s : Service ρ σ) :
    Prop where
  untouched : ∀ id, s.started ≤ id → valuesAt id asked = []
  working : ∀ id t phase, s.tenure id = some (t, phase) → phase.Informed E t (valuesAt id asked)
  resolved : ∀ id result, (id, some (.ok result)) ∈ ended → ∃ t states n, (id, t) ∈ started ∧
    Resolves E t (valuesAt id taken) (valuesAt id merged) (valuesAt id asked) states n result

namespace Inquires

open Service

variable {ρ σ : Type} {E : Setting ρ σ} {started : List (WorkerId × TaskParameters)}
  {ended : List (WorkerId × Option (TaskResponse ρ))} {taken : List (WorkerId × Submission ρ)}
  {merged : List (WorkerId × Acceptance ρ)} {asked : List (WorkerId × Inquiry σ)} {s s' : Service ρ σ}

/-- Where no worker takes part, the record of the queries stays right. -/
theorem keep (inquires : Inquires E started ended taken merged asked s) (keeps : Keeps s s') :
    Inquires E started ended taken merged asked s' where
  untouched id fresh := inquires.untouched id (keeps.started ▸ fresh)
  working id := by rw [keeps.tenure]; exact inquires.working id
  resolved := inquires.resolved

/-- A task that is started has asked nothing. -/
theorem launch (inquires : Inquires E started ended taken merged asked s) (t : TaskParameters) :
    Inquires E (started ++ [(s.started, t)]) ended taken merged asked (s.launch t) where
  untouched id fresh := inquires.untouched id (Nat.le_of_succ_le fresh)
  working id t' phase works := by
    rw [tenure_launch] at works
    split at works
    next new =>
      cases works
      exact inquires.untouched id (Nat.le_of_eq new.symm)
    next => exact inquires.working id t' phase works
  resolved id result member := by
    obtain ⟨t', states, n, began, resolves⟩ := inquires.resolved id result member
    exact ⟨t', states, n, List.mem_append_left _ began, resolves⟩

/-- A stride adds to what its own worker has asked. -/
theorem work (inquires : Inquires E started ended taken merged asked s)
    (lives : Lives E started ended taken merged s) {id : WorkerId} {w : Worker ρ}
    (found : s.workers.get? id = some w) :
    Inquires E started (ended ++ s.endings E (.work id)) (taken ++ s.takes (.work id))
      (merged ++ s.merges E (.work id)) (asked ++ s.inquiries E (.work id)) (s.work E id) := by
  have works := tenure_of_get? found
  obtain ⟨began, open', holds⟩ := lives.working id _ _ works
  have informed := inquires.working id _ _ works
  have own : valuesAt id (asked ++ s.inquiries E (.work id)) =
      valuesAt id asked ++ w.inquiries E s.now s.registry := by
    rw [inquiries_work found, valuesAt_append, valuesAt_map_self]
  have others : ∀ other, other ≠ id →
      valuesAt other (asked ++ s.inquiries E (.work id)) = valuesAt other asked := by
    intro other different
    rw [inquiries_work found, valuesAt_append, valuesAt_map_other (Ne.symm different), List.append_nil]
  refine ⟨fun other fresh => ?_, fun other t phase works' => ?_, fun other result member => ?_⟩
  · rw [started_work] at fresh
    have different : other ≠ id := by
      rintro rfl
      exact Nat.not_lt.2 fresh (lives.lt_of_tenure works)
    rw [others other different]
    exact inquires.untouched other fresh
  · rcases (w.stride E s.now s.registry).fate.waiting_or_ending with ⟨phase', going⟩ | ⟨ending, ceased⟩
    · rw [tenure_waiting found going] at works'
      split at works'
      next same =>
        cases works'
        rw [same, own]
        exact Worker.informed_stride informed going
      next different =>
        rw [others other different]
        exact inquires.working other t phase works'
    · rw [tenure_ended found ceased] at works'
      split at works'
      next => cases works'
      next different =>
        rw [others other different]
        exact inquires.working other t phase works'
  · rcases List.mem_append.1 member with earlier | last
    · have different : other ≠ id := by
        rintro rfl
        exact open' (List.mem_map_of_mem earlier)
      rw [others other different, (Lives.values_other E taken merged found different).1,
        (Lives.values_other E taken merged found different).2]
      exact inquires.resolved other result earlier
    · obtain ⟨w', act, found', ceased⟩ := work_of_ending last
      cases act
      cases found.symm.trans found'
      have answered : (w.stride E s.now s.registry).fate = .finished (.ok result) := by
        cases fate : (w.stride E s.now s.registry).fate with
        | finished response =>
          rw [fate] at ceased
          cases ceased
          rfl
        | _ =>
          rw [fate] at ceased
          cases ceased
      rw [own, (Lives.values_own E taken merged found).1, (Lives.values_own E taken merged found).2]
      obtain ⟨states, n, resolves⟩ := Worker.resolves_stride informed holds answered
      exact ⟨_, states, n, began, resolves⟩

/-- Every action keeps the record of the queries. -/
theorem act (inquires : Inquires E started ended taken merged asked s)
    (lives : Lives E started ended taken merged s) (a : Action ρ σ) :
    Inquires E (started ++ s.starts a) (ended ++ s.endings E a) (taken ++ s.takes a)
      (merged ++ s.merges E a) (asked ++ s.inquiries E a) (s.act E a) := by
  by_cases strides : ∃ id w, a = .work id ∧ s.workers.get? id = some w
  · obtain ⟨id, w, rfl, found⟩ := strides
    show Inquires E (started ++ []) _ _ _ _ (s.work E id)
    rw [List.append_nil]
    exact inquires.work lives found
  · have idle : s.inquiries E a = [] := by
      apply inquiries_of_idle
      intro id w same found
      exact strides ⟨id, w, same, found⟩
    rcases act_cases E s a with ⟨t, starts, idles, -, same⟩ | strides' | ⟨starts, idles, keeps⟩
    · rw [starts, idles.endings, idles.takes, idles.merges, idle, same, List.append_nil, List.append_nil,
        List.append_nil, List.append_nil]
      exact inquires.launch t
    · exact absurd strides' strides
    · rw [starts, idles.endings, idles.takes, idles.merges, idle, List.append_nil, List.append_nil,
        List.append_nil, List.append_nil, List.append_nil]
      exact inquires.keep keeps

end Inquires

namespace Service

variable {ρ σ : Type}

/-- The record of the queries is right after every list of actions. -/
theorem inquires_after (E : Setting ρ σ) {config : Config} {registry : σ} {s : Service ρ σ}
    (created : create config registry = .ok s) (actions : List (Action ρ σ)) :
    Inquires E (s.along E starts actions) (s.along E (endings E) actions) (s.along E takes actions)
      (s.along E (merges E) actions) (s.along E (inquiries E) actions) (s.after E actions) := by
  induction actions using List.reverseRecOn with
  | nil =>
    obtain ⟨_, -, same⟩ := bind_eq_ok_iff.1 created
    cases same
    refine ⟨fun _ _ => rfl, ?_, nofun⟩
    rintro id t phase works
    cases works
  | append_singleton actions a ih =>
    rw [along_snoc, along_snoc, along_snoc, along_snoc, along_snoc, after_snoc]
    exact ih.act (lives_after E created actions) a

end Service

end Attestation
