/-
Module: Attestation.Proofs.Renumbering
Purpose: A worker under other numbers. The numbers of the calls are names: a worker whose submissions
  carry other ones does the same with them. And a worker learns of the registry what it is answered, so
  two registries that answer its query alike are the same to it.
Main exports: Submission.renumber, Signal.renumber, Worker.renumber, Turn.deeds, Turn.verdicts,
  Setting.AnswersAlike, Turn.Echoes, Worker.takes?_renumber, Worker.echoes_stride
-/
import Attestation.Proofs.Endings

namespace Attestation

/-! ### Other numbers for the calls -/

def Submission.renumber {ρ : Type} (f : CallId → CallId) (x : Submission ρ) : Submission ρ :=
  { x with call := f x.call }

def Signal.renumber (f : CallId → CallId) : Signal → Signal
  | .report event => .report event
  | .taken call => .taken (f call)
  | .accepted call => .accepted (f call)
  | .rejected call reason => .rejected (f call) reason
  | .verdict call task operator rejection => .verdict (f call) task operator rejection
  | .alarm due => .alarm due

def Worker.renumber {ρ : Type} (f : CallId → CallId) (w : Worker ρ) : Worker ρ :=
  { w with inbox := w.inbox.map (·.renumber f) }

def Signal.isReport : Signal → Bool
  | .report _ => true
  | _ => false

/-- What a worker does in a turn beside reporting. -/
def Turn.deeds {ρ σ : Type} (turn : Turn ρ σ) : List Signal := turn.signals.filter (!·.isReport)

/-- The verdict that a signal gives on the submission of a call: none, or the reason of a rejection. -/
def Signal.verdict? : Signal → Option (CallId × Option SignatureError)
  | .verdict call _ _ rejection => some (call, rejection)
  | _ => none

def Turn.verdicts {ρ σ : Type} (turn : Turn ρ σ) : List (CallId × Option SignatureError) :=
  turn.signals.filterMap Signal.verdict?

/-- Two registries give the same answer to the query that the worker makes or waits for in its next
stride, and take the same time for it. -/
def Setting.AnswersAlike {ρ σ : Type} (E : Setting ρ σ) (w : Worker ρ) (now : Nat) (g g' : σ) : Prop :=
  match w.phase with
  | .starting => E.provider.latency g' = E.provider.latency g
  | .awaitingOperators due => due ≤ now →
    let reply := E.provider.operators g w.parameters.quorums w.parameters.block
    let reply' := E.provider.operators g' w.parameters.quorums w.parameters.block
    reply'.answer = reply.answer ∧ ((∃ operators, reply.answer = .ok operators) →
      E.provider.latency reply'.registry = E.provider.latency reply.registry)
  | .awaitingQuorums _ due => due ≤ now →
    (E.provider.quorums g' w.parameters.quorums w.parameters.block).answer =
      (E.provider.quorums g w.parameters.quorums w.parameters.block).answer
  | .collecting _ =>
    (∃ state ids due, (w.stride E now g).fate = .waiting (.awaitingIndices state ids due)) →
      E.provider.latency g' = E.provider.latency g
  | .awaitingIndices _ ids due => due ≤ now →
    (E.provider.indices g' w.parameters.block w.parameters.quorums ids).answer =
      (E.provider.indices g w.parameters.block w.parameters.quorums ids).answer

/-- A turn is another one under other numbers, whatever was reported in either. -/
structure Turn.Echoes {ρ σ : Type} (f : CallId → CallId) (turn turn' : Turn ρ σ) : Prop where
  fate : turn'.fate = turn.fate
  unread : turn'.unread = turn.unread.map (·.renumber f)
  deeds : turn'.deeds = turn.deeds.map (Signal.renumber f)

variable {ρ σ : Type} {f : CallId → CallId}

/-- A signal stays of its kind under other numbers. -/
theorem Signal.isReport_renumber (signal : Signal) : (signal.renumber f).isReport = signal.isReport := by
  cases signal <;> rfl

/-- Signals in front that differ in their numbers only keep one turn the echo of another. -/
theorem Turn.Echoes.after {turn turn' : Turn ρ σ} {signals signals' : List Signal}
    (echoes : turn.Echoes f turn')
    (same : signals'.filter (!·.isReport) = (signals.filter (!·.isReport)).map (Signal.renumber f)) :
    (turn.after signals).Echoes f (turn'.after signals') where
  fate := echoes.fate
  unread := echoes.unread
  deeds := by
    have deeds := echoes.deeds
    unfold Turn.deeds at deeds ⊢
    unfold Turn.after
    rw [List.filter_append, List.filter_append, List.map_append, same, deeds]

/-- What a reply reports is no deed. -/
theorem Reply.deeds_signals {α : Type} (r : Reply σ α) : r.signals.filter (!·.isReport) = [] := by
  rw [List.filter_eq_nil_iff]
  intro signal member
  obtain ⟨event, -, rfl⟩ := List.mem_map.1 member
  exact Bool.false_ne_true

/-- Replies of two registries may report different events. -/
theorem Turn.Echoes.after_reply {α : Type} {turn turn' : Turn ρ σ} (echoes : turn.Echoes f turn')
    (r r' : Reply σ α) : (turn.after r.signals).Echoes f (turn'.after r'.signals) :=
  echoes.after (by rw [r.deeds_signals, r'.deeds_signals]; rfl)

/-- What is reported holds no verdicts. -/
theorem Turn.verdicts_deeds (turn : Turn ρ σ) : turn.verdicts = turn.deeds.filterMap Signal.verdict? := by
  unfold verdicts deeds
  rw [List.filterMap_filter]
  refine List.filterMap_congr fun signal _ => ?_
  cases signal <;> rfl

/-- An echo gives the same verdicts under the other numbers. -/
theorem Turn.Echoes.verdicts {turn turn' : Turn ρ σ} (echoes : turn.Echoes f turn') :
    turn'.verdicts = turn.verdicts.map (Prod.map f id) := by
  rw [Turn.verdicts_deeds, Turn.verdicts_deeds, echoes.deeds, List.filterMap_map, List.map_filterMap]
  refine List.filterMap_congr fun signal _ => ?_
  cases signal <;> rfl

namespace Collection

variable {J : Judge ρ}

/-! ### Collections under other numbers -/

/-- Whether a collection closes does not depend on the numbers of calls. -/
theorem close_renumber (c : Collection ρ) (now : Nat) (state : TaskState ρ) (verdict : Signal) :
    c.close now state (verdict.renumber f) = ⟨(c.close now state verdict).signals.map (Signal.renumber f),
      (c.close now state verdict).course⟩ := by
  unfold close
  dsimp only
  split
  next => rfl
  next => cases later? now state.parameters.window <;> rfl

/-- The number of the call decides nothing. -/
theorem receive_renumber (c : Collection ρ) (now : Nat) (x : Submission ρ) :
    c.receive J now (x.renumber f) = ⟨(c.receive J now x).signals.map (Signal.renumber f),
      (c.receive J now x).course⟩ := by
  have submit : c.state.submit J (x.renumber f).operator (x.renumber f).response (x.renumber f).signature =
      c.state.submit J x.operator x.response x.signature := rfl
  unfold receive
  rw [submit]
  cases c.state.submit J x.operator x.response x.signature with
  | error e => cases e <;> rfl
  | ok result =>
    have close := c.close_renumber (f := f) now result.2 (.verdict x.call c.task x.operator none)
    dsimp only
    split
    next =>
      show Progress.mk (_ ++ (c.close now result.2
        (Signal.renumber f (.verdict x.call c.task x.operator none))).signals)
          (c.close now result.2 (Signal.renumber f (.verdict x.call c.task x.operator none))).course = _
      rw [close, List.map_append]
      rfl
    next => rfl

end Collection

namespace Worker

variable {E : Setting ρ σ} {w : Worker ρ} {now : Nat} {g g' : σ}

/-! ### Strides under other numbers

A worker under other numbers need not stand before the same registry. It is enough that the queries that
fall due are answered alike. -/

@[simp] theorem renumber_parameters : (w.renumber f).parameters = w.parameters := rfl

@[simp] theorem renumber_phase : (w.renumber f).phase = w.phase := rfl

@[simp] theorem renumber_inbox : (w.renumber f).inbox = w.inbox.map (·.renumber f) := rfl

/-- The next stride takes the same submission under its other number. -/
theorem takes?_renumber (w : Worker ρ) (now : Nat) :
    (w.renumber f).takes? now = (w.takes? now).map (Prod.map id (·.renumber f)) := by
  unfold takes?
  rw [renumber_phase, renumber_inbox]
  cases w.phase with
  | collecting c =>
    dsimp only
    split
    · cases w.inbox <;> rfl
    · rfl
  | _ => rfl

theorem echoes_stop {signals signals' : List Signal} {fate : Fate ρ}
    (same : signals'.filter (!·.isReport) = (signals.filter (!·.isReport)).map (Signal.renumber f)) :
    (w.stop g signals fate).Echoes f ((w.renumber f).stop g' signals' fate) := ⟨rfl, rfl, same⟩

/-- The worker waits as long if the registry is as slow. -/
theorem echoes_await (phase : Nat → Phase ρ) (latency : E.provider.latency g' = E.provider.latency g) :
    (w.await E now g phase).Echoes f ((w.renumber f).await E now g' phase) := by
  unfold await ask
  rw [latency]
  dsimp only
  split
  · exact echoes_stop rfl
  · exact echoes_stop rfl

/-- To wait for an answer is to go on. -/
theorem fate_await (E : Setting ρ σ) (w : Worker ρ) (now : Nat) (g : σ) (phase : Nat → Phase ρ) :
    ∃ due, (w.await E now g phase).fate = .waiting (phase due) := by
  unfold await ask
  dsimp only
  split <;> exact ⟨_, rfl⟩

theorem echoes_request {state : TaskState ρ}
    (latency : (∃ s ids due, (w.request E now g state).fate = .waiting (.awaitingIndices s ids due)) →
      E.provider.latency g' = E.provider.latency g) :
    (w.request E now g state).Echoes f ((w.renumber f).request E now g' state) := by
  unfold request at latency ⊢
  split
  next => exact echoes_stop rfl
  next nonSigners winning =>
    rw [winning] at latency
    obtain ⟨due, waits⟩ := w.fate_await E now g (.awaitingIndices state (nonSigners.map (·.1)))
    exact echoes_await _ (latency ⟨_, _, due, waits⟩)

/-- What follows from a submission is the same under other numbers. -/
theorem echoes_proceed {p : Progress ρ}
    (latency : (∃ s ids due, (w.proceed E now g p).fate = .waiting (.awaitingIndices s ids due)) →
      E.provider.latency g' = E.provider.latency g) :
    (w.proceed E now g p).Echoes f
      ((w.renumber f).proceed E now g' ⟨p.signals.map (Signal.renumber f), p.course⟩) := by
  obtain ⟨signals, course⟩ := p
  refine Turn.Echoes.after ?_ ?_
  · cases course with
    | closed state => exact echoes_request latency
    | _ => exact echoes_stop rfl
  · rw [List.filter_map]
    congr 1
    refine List.filter_congr fun signal _ => ?_
    rw [Function.comp_apply, signal.isReport_renumber]

/-- Where the operators are answered alike, the same is made of them. -/
theorem echoes_takeOperators
    (alike : (E.provider.operators g' w.parameters.quorums w.parameters.block).answer =
      (E.provider.operators g w.parameters.quorums w.parameters.block).answer)
    (latency : (∃ operators,
        (E.provider.operators g w.parameters.quorums w.parameters.block).answer = .ok operators) →
      E.provider.latency (E.provider.operators g' w.parameters.quorums w.parameters.block).registry =
        E.provider.latency (E.provider.operators g w.parameters.quorums w.parameters.block).registry) :
    (w.takeOperators E now g).Echoes f ((w.renumber f).takeOperators E now g') := by
  unfold takeOperators
  refine Turn.Echoes.after_reply ?_ _ _
  rw [renumber_parameters, alike]
  split
  next => exact echoes_stop rfl
  next => exact echoes_stop rfl
  next operators answer => exact echoes_await _ (latency ⟨operators, answer⟩)

/-- So it is with the quorums. -/
theorem echoes_receiveQuorums {operators : OperatorStates}
    (alike : (E.provider.quorums g' w.parameters.quorums w.parameters.block).answer =
      (E.provider.quorums g w.parameters.quorums w.parameters.block).answer) :
    (w.receiveQuorums E now g 0 operators).Echoes f ((w.renumber f).receiveQuorums E now g' 0 operators) := by
  unfold receiveQuorums
  refine Turn.Echoes.after_reply ?_ _ _
  rw [renumber_parameters, alike]
  split
  next => exact echoes_stop rfl
  next => exact echoes_stop rfl
  next states answer =>
    split
    next => exact echoes_stop rfl
    next snapshot fits => exact Turn.Echoes.after ⟨rfl, rfl, rfl⟩ rfl

/-- So it is with the indices. -/
theorem echoes_conclude {state : TaskState ρ} {ids : List OperatorId}
    (alike : (E.provider.indices g' w.parameters.block w.parameters.quorums ids).answer =
      (E.provider.indices g w.parameters.block w.parameters.quorums ids).answer) :
    (w.conclude E g state ids).Echoes f ((w.renumber f).conclude E g' state ids) := by
  unfold conclude
  refine Turn.Echoes.after_reply ?_ _ _
  rw [renumber_parameters, alike]
  split
  next => exact echoes_stop rfl
  next => exact echoes_stop rfl
  next indices answer => split <;> exact echoes_stop rfl

/-- The next submission is taken alike, since no check looks at the number of its call. -/
theorem echoes_takeNext {c : Collection ρ}
    (latency : (∃ s ids due, (w.takeNext E now g c).fate = .waiting (.awaitingIndices s ids due)) →
      E.provider.latency g' = E.provider.latency g) :
    (w.takeNext E now g c).Echoes f ((w.renumber f).takeNext E now g' c) := by
  unfold takeNext at latency ⊢
  rw [renumber_inbox]
  cases overdue : c.overdue? now with
  | some p =>
    rw [overdue] at latency
    have unnumbered : p.signals.map (Signal.renumber f) = p.signals := by
      rcases Collection.overdue_cases overdue with ⟨-, -, rfl⟩ | ⟨-, -, rfl⟩ | ⟨-, -, rfl⟩ <;> rfl
    have echoes := echoes_proceed (f := f) latency
    rw [unnumbered] at echoes
    exact echoes
  | none =>
    cases inbox : w.inbox with
    | nil => exact echoes_stop rfl
    | cons x unread =>
      rw [overdue, inbox] at latency
      have echoes := echoes_proceed (f := f) (w := { w with inbox := unread }) latency
      have take : c.take E.judge now (x.renumber f) =
          ⟨(c.take E.judge now x).signals.map (Signal.renumber f), (c.take E.judge now x).course⟩ := by
        unfold Collection.take
        rw [Collection.receive_renumber]
        rfl
      rw [← take] at echoes
      exact echoes

/-- Under other numbers, and with a registry that answers its query alike, a worker takes the same stride.
-/
theorem echoes_stride (alike : E.AnswersAlike w now g g') :
    (w.stride E now g).Echoes f ((w.renumber f).stride E now g') := by
  unfold Setting.AnswersAlike at alike
  unfold stride at alike ⊢
  rw [renumber_phase]
  cases phase : w.phase with
  | starting =>
    rw [phase] at alike
    exact echoes_await _ alike
  | awaitingOperators due =>
    rw [phase] at alike
    dsimp only at alike ⊢
    split
    next ready => exact echoes_takeOperators (alike ready).1 (alike ready).2
    next => exact echoes_stop rfl
  | awaitingQuorums operators due =>
    rw [phase] at alike
    dsimp only at alike ⊢
    split
    next ready => exact echoes_receiveQuorums (alike ready)
    next => exact echoes_stop rfl
  | collecting c =>
    rw [phase] at alike
    exact echoes_takeNext alike
  | awaitingIndices state ids due =>
    rw [phase] at alike
    dsimp only at alike ⊢
    split
    next ready => exact echoes_conclude (alike ready)
    next => exact echoes_stop rfl

end Worker

end Attestation
