/-
Module: Attestation.Proofs.Strides
Purpose: A worker step by step. A stride is what a worker does between two points at which it waits: it
  asks the registry, takes over an answer, takes one submission, or ends the collection. The turns in
  which a worker runs are made of strides that follow on one another, so what every stride keeps, every
  turn keeps.
Main exports: Collection.take, Worker.stride, Worker.Strides, Worker.stride_overdue, Worker.stride_idle,
  Worker.stride_take, Worker.strides_run
-/
import Attestation.Proofs.Finalization

namespace Attestation

namespace Collection

variable {ρ : Type} {J : Judge ρ} {c c' : Collection ρ} {now : Nat} {x : Submission ρ}

/-- Takes one submission. -/
def take (J : Judge ρ) (c : Collection ρ) (now : Nat) (x : Submission ρ) : Progress ρ :=
  ⟨.taken x.call :: (c.receive J now x).signals, (c.receive J now x).course⟩

/-- Before the deadlines a collection with an empty inbox goes on as it is. -/
theorem poll_nil (early : c.overdue? now = none) (share : Nat) :
    c.poll J now (share + 1) [] = (⟨[], .collecting c⟩, []) := by
  rw [poll.eq_def]
  dsimp only
  rw [early]

/-- If a submission leaves the collection going, the poll goes on with the others. -/
theorem poll_cons_going (early : c.overdue? now = none)
    (going : (c.take J now x).course = .collecting c') (share : Nat) (unread : List (Submission ρ)) :
    c.poll J now (share + 1) (x :: unread) =
      (⟨(c.take J now x).signals ++ (c'.poll J now share unread).1.signals,
        (c'.poll J now share unread).1.course⟩, (c'.poll J now share unread).2) := by
  rw [poll.eq_def]
  dsimp only
  rw [early]
  change (c.receive J now x).course = _ at going
  dsimp only
  rw [going]
  rfl

/-- A collection that is over takes no more. -/
theorem poll_cons_over (early : c.overdue? now = none)
    (ceased : ∀ c', (c.take J now x).course ≠ .collecting c') (share : Nat)
    (unread : List (Submission ρ)) :
    c.poll J now (share + 1) (x :: unread) = (c.take J now x, unread) := by
  rw [poll.eq_def]
  dsimp only
  rw [early]
  dsimp only
  split
  next c' going => exact absurd going (ceased c')
  next => rfl

end Collection

namespace Worker

variable {ρ σ : Type} (E : Setting ρ σ)

/-- Waits for the answer of a query, even if the query takes no time. -/
def await (w : Worker ρ) (now : Nat) (registry : σ) (phase : Nat → Phase ρ) : Turn ρ σ :=
  w.ask E now registry phase fun _ => w.stop registry [] (.waiting (phase now))

/-- Takes over the operators and asks for the quorums. -/
def takeOperators (w : Worker ρ) (now : Nat) (registry : σ) : Turn ρ σ :=
  let reply := E.provider.operators registry w.parameters.quorums w.parameters.block
  let turn := match reply.answer with
    | .error .crash => w.stop reply.registry [] .crashed
    | .error (.error e) =>
      w.fail reply.registry (.operatorsUnavailable w.task w.parameters.block e)
        (.operatorsStateRetrieval w.task e.message)
    | .ok operators => w.await E now reply.registry (.awaitingQuorums operators)
  turn.after reply.signals

/-- The collection is over: asks for the indices. -/
def request (w : Worker ρ) (now : Nat) (registry : σ) (state : TaskState ρ) : Turn ρ σ :=
  match state.winningNonSigners? with
  | none => w.stop registry [] (.finished (.error (.taskExpired w.task)))
  | some nonSigners => w.await E now registry (.awaitingIndices state (nonSigners.map (·.1)))

/-- How it goes on after a collection has been looked at. -/
def proceed (w : Worker ρ) (now : Nat) (registry : σ) (p : Progress ρ) : Turn ρ σ :=
  let turn := match p.course with
    | .collecting c => w.stop registry [] (.waiting (.collecting c))
    | .closed state => w.request E now registry state
    | .expired => w.stop registry [] (.finished (.error (.taskExpired w.task)))
    | .crashed => w.stop registry [] .crashed
  turn.after p.signals

/-- Takes the next submission, if there is one and no deadline has been reached. -/
def takeNext (w : Worker ρ) (now : Nat) (registry : σ) (c : Collection ρ) : Turn ρ σ :=
  match c.overdue? now, w.inbox with
  | some progress, _ => w.proceed E now registry progress
  | none, [] => w.stop registry [] (.waiting (.collecting c))
  | none, x :: unread => { w with inbox := unread }.proceed E now registry (c.take E.judge now x)

/-! ### Strides

A turn of the program takes what is in the inbox and goes on through phases while answers come at once. A
stride is the least part of it: one submission, or one answer. -/

/-- What a worker does until it waits again. -/
def stride (w : Worker ρ) (now : Nat) (registry : σ) : Turn ρ σ :=
  match w.phase with
  | .starting => w.await E now registry .awaitingOperators
  | .awaitingOperators due =>
    if due ≤ now then w.takeOperators E now registry else w.stop registry [] (.waiting w.phase)
  | .awaitingQuorums operators due =>
    if due ≤ now then w.receiveQuorums E now registry 0 operators
    else w.stop registry [] (.waiting w.phase)
  | .collecting c => w.takeNext E now registry c
  | .awaitingIndices state nonSigners due =>
    if due ≤ now then w.conclude E registry state nonSigners else w.stop registry [] (.waiting w.phase)

/-- The worker after a turn that leaves it waiting. -/
def rested (w : Worker ρ) (turn : Turn ρ σ) (phase : Phase ρ) : Worker ρ :=
  { w with inbox := turn.unread, phase := phase }

/-- Turns that are made of strides at one instant, each of which finds what the one before has left. -/
inductive Strides (now : Nat) : Worker ρ → σ → Turn ρ σ → Prop where
  | none (w : Worker ρ) (registry : σ) : Strides now w registry (w.stop registry [] (.waiting w.phase))
  | last (w : Worker ρ) (registry : σ) : Strides now w registry (w.stride E now registry)
  | more {w : Worker ρ} {registry : σ} {phase : Phase ρ} {turn : Turn ρ σ} :
    (w.stride E now registry).fate = .waiting phase →
    Strides now (w.rested (w.stride E now registry) phase) (w.stride E now registry).registry turn →
    Strides now w registry (turn.after (w.stride E now registry).signals)

end Worker

/-- Signals in front of signals in front are all of them in front. -/
theorem Turn.after_after {ρ σ : Type} (t : Turn ρ σ) (first second : List Signal) :
    (t.after second).after first = t.after (first ++ second) := by
  unfold Turn.after
  rw [List.append_assoc]

@[simp] theorem Turn.after_nil {ρ σ : Type} (t : Turn ρ σ) : t.after [] = t := rfl

namespace Worker

variable {ρ σ : Type} {E : Setting ρ σ} {now : Nat} {w : Worker ρ} {registry : σ}

/-- A turn that stops without signals has those that are put in front of it. -/
theorem signals_stop_after (w : Worker ρ) (registry : σ) (fate : Fate ρ) (signals : List Signal) :
    ((w.stop registry [] fate).after signals).signals = signals := List.append_nil signals

/-! ### A turn is a run of strides -/

/-- A stride that leaves the worker waiting is followed by others. -/
theorem strides_then {asked : σ} {signals : List Signal} {phase : Phase ρ} {turn : Turn ρ σ}
    {v : Worker ρ} (parameters : v.parameters = w.parameters)
    (stride : w.stride E now registry = (v.stop asked [] (.waiting phase)).after signals)
    (going : Strides E now { v with phase := phase } asked turn) :
    Strides E now w registry (turn.after signals) := by
  have fate : (w.stride E now registry).fate = .waiting phase := by rw [stride]; rfl
  have rested : w.rested (w.stride E now registry) phase = { v with phase := phase } := by
    unfold Worker.rested
    rw [stride, ← parameters]
    rfl
  have chain : Strides E now w registry (turn.after (w.stride E now registry).signals) :=
    .more fate (by rw [rested, stride]; exact going)
  rw [stride, signals_stop_after] at chain
  exact chain

/-- Where a stride ends with a query, the turn goes on with the answer if that is there at once. -/
theorem strides_ask {asked : σ} {signals : List Signal} {phase : Nat → Phase ρ}
    (next : Unit → Turn ρ σ) {v : Worker ρ} (parameters : v.parameters = w.parameters)
    (stride : w.stride E now registry = (v.await E now asked phase).after signals)
    (going : Strides E now { v with phase := phase now } asked (next ())) :
    Strides E now w registry ((v.ask E now asked phase next).after signals) := by
  unfold await ask at stride
  unfold ask
  dsimp only at stride ⊢
  split
  next instant =>
    rw [if_pos instant] at stride
    exact strides_then parameters stride going
  next later =>
    rw [if_neg later] at stride
    exact stride ▸ .last w registry

/-- A stride that closes the collection is followed by the query for the indices. -/
theorem strides_finalize {signals : List Signal} {v : Worker ρ} {s : TaskState ρ}
    (parameters : v.parameters = w.parameters)
    (stride : w.stride E now registry = (v.request E now registry s).after signals) :
    Strides E now w registry ((v.finalize E now registry s).after signals) := by
  cases winner : s.winningNonSigners? with
  | none =>
    have same : v.finalize E now registry s = v.request E now registry s := by
      unfold finalize request
      rw [winner]
    rw [same, ← stride]
    exact .last w registry
  | some nonSigners =>
    unfold request at stride
    unfold finalize
    rw [winner] at stride ⊢
    refine strides_ask _ parameters stride ?_
    -- The indices are there at once, and one more stride concludes with them.
    have last : Strides E now _ _ _ :=
      .last { v with phase := .awaitingIndices s (nonSigners.map (·.1)) now } registry
    unfold Worker.stride at last
    dsimp only at last
    rw [if_pos (Nat.le_refl now)] at last
    exact last

/-- How a turn goes on after a collection has been looked at. -/
def resolve (E : Setting ρ σ) (w : Worker ρ) (now : Nat) (registry : σ) (p : Progress ρ) : Turn ρ σ :=
  let turn := match p.course with
    | .collecting c => w.stop registry [] (.waiting (.collecting c))
    | .closed state => w.finalize E now registry state
    | .expired => w.stop registry [] (.finished (.error (.taskExpired w.task)))
    | .crashed => w.stop registry [] .crashed
  turn.after p.signals

/-- A turn on an inbox is what the collection makes of it and what follows from that. -/
theorem collect_eq (share : Nat) (c : Collection ρ) : w.collect E now registry share c =
    { w with inbox := (c.poll E.judge now share w.inbox).2 }.resolve E now registry
      (c.poll E.judge now share w.inbox).1 := rfl

/-- What follows from a collection takes one stride, and one more if it closes and the answer is there at
once. -/
theorem strides_resolve {v : Worker ρ} {p : Progress ρ} (parameters : v.parameters = w.parameters)
    (stride : w.stride E now registry = v.proceed E now registry p) :
    Strides E now w registry (v.resolve E now registry p) := by
  unfold proceed at stride
  unfold resolve
  dsimp only at stride ⊢
  cases course : p.course with
  | closed s =>
    rw [course] at stride
    exact strides_finalize parameters stride
  | _ =>
    rw [course] at stride
    dsimp only at stride ⊢
    rw [← stride]
    exact .last w registry

/-- A collection that goes on is waited for. -/
theorem proceed_going {v : Worker ρ} {p : Progress ρ} {c : Collection ρ}
    (going : p.course = .collecting c) : v.proceed E now registry p =
      (v.stop registry [] (.waiting (.collecting c))).after p.signals := by
  unfold proceed
  rw [going]

theorem resolve_append (v : Worker ρ) (signals : List Signal) (p : Progress ρ) :
    v.resolve E now registry ⟨signals ++ p.signals, p.course⟩ =
      (v.resolve E now registry p).after signals :=
  (Turn.after_after _ _ _).symm

section Collecting

variable {c : Collection ρ} {x : Submission ρ} {unread : List (Submission ρ)}

/-- A deadline that has passed comes before the inbox. -/
theorem stride_overdue {p : Progress ρ} (phase : w.phase = .collecting c)
    (overdue : c.overdue? now = some p) :
    w.stride E now registry = w.proceed E now registry p := by
  unfold Worker.stride takeNext
  rw [phase]
  dsimp only
  rw [overdue]

/-- Before the deadlines a stride on an empty inbox does nothing. -/
theorem stride_idle (phase : w.phase = .collecting c) (early : c.overdue? now = none)
    (empty : w.inbox = []) :
    w.stride E now registry = w.stop registry [] (.waiting (.collecting c)) := by
  unfold Worker.stride takeNext
  rw [phase]
  dsimp only
  rw [early, empty]

/-- Before the deadlines a stride takes the first submission in the inbox. -/
theorem stride_take (phase : w.phase = .collecting c) (early : c.overdue? now = none)
    (ready : w.inbox = x :: unread) : w.stride E now registry =
      { w with inbox := unread }.proceed E now registry (c.take E.judge now x) := by
  unfold Worker.stride takeNext
  rw [phase]
  dsimp only
  rw [early, ready]

end Collecting

/-- Collecting is a stride for every submission that is taken. -/
theorem strides_collect (share : Nat) : ∀ {w : Worker ρ} {c : Collection ρ} (registry : σ),
    w.phase = .collecting c → Strides E now w registry (w.collect E now registry share c) := by
  induction share with
  | zero =>
    intro w c registry phase
    have none : Strides E now w registry _ := .none w registry
    rw [phase] at none
    exact none
  | succ share ih =>
    intro w c registry phase
    rw [collect_eq]
    cases early : c.overdue? now with
    | some p =>
      rw [Collection.poll_overdue early]
      exact strides_resolve rfl (stride_overdue phase early)
    | none =>
      cases inbox : w.inbox with
      | nil =>
        rw [Collection.poll_nil early]
        refine strides_resolve rfl ((stride_idle phase early inbox).trans ?_)
        rw [proceed_going rfl, stop, inbox]
        rfl
      | cons x unread =>
        have stride : w.stride E now registry = _ := stride_take phase early inbox
        by_cases going : ∃ c', (c.take E.judge now x).course = .collecting c'
        · obtain ⟨c', going⟩ := going
          rw [proceed_going going] at stride
          rw [Collection.poll_cons_going early going, resolve_append]
          exact strides_then (v := { w with inbox := unread }) rfl stride (ih registry rfl)
        · rw [Collection.poll_cons_over early (not_exists.1 going)]
          exact strides_resolve rfl stride

/-- From the answer for the quorums on, a turn goes into the collection. -/
theorem strides_receiveQuorums {share due : Nat} {operators : OperatorStates}
    (phase : w.phase = .awaitingQuorums operators due) (ready : due ≤ now) :
    Strides E now w registry (w.receiveQuorums E now registry share operators) := by
  have stride : w.stride E now registry = w.receiveQuorums E now registry 0 operators := by
    unfold Worker.stride
    rw [phase]
    exact if_pos ready
  unfold receiveQuorums at stride ⊢
  dsimp only at stride ⊢
  cases answer : (E.provider.quorums registry w.parameters.quorums w.parameters.block).answer with
  | error e =>
    rw [answer] at stride
    cases e <;> exact stride ▸ .last w registry
  | ok states =>
    rw [answer] at stride
    dsimp only at stride ⊢
    cases snapshot : Snapshot.ofStates w.parameters.quorums operators states with
    | error q =>
      rw [snapshot] at stride
      exact stride ▸ .last w registry
    | ok n =>
      rw [snapshot] at stride
      dsimp only at stride ⊢
      rw [Turn.after_after] at stride ⊢
      exact strides_then rfl stride (strides_collect share _ rfl)

/-- From the answer for the operators on, a turn goes on to the quorums if they are answered at once. -/
theorem strides_receiveOperators {share due : Nat} (phase : w.phase = .awaitingOperators due)
    (ready : due ≤ now) :
    Strides E now w registry (w.receiveOperators E now registry share) := by
  have stride : w.stride E now registry = w.takeOperators E now registry := by
    unfold Worker.stride
    rw [phase]
    exact if_pos ready
  unfold takeOperators at stride
  unfold receiveOperators
  dsimp only at stride ⊢
  cases answer : (E.provider.operators registry w.parameters.quorums w.parameters.block).answer with
  | error e =>
    rw [answer] at stride
    cases e <;> exact stride ▸ .last w registry
  | ok operators =>
    rw [answer] at stride
    exact strides_ask _ rfl stride (strides_receiveQuorums rfl (Nat.le_refl now))

/-- A turn from the start goes as far as the answers come at once. -/
theorem strides_starting {share : Nat} (phase : w.phase = .starting) :
    Strides E now w registry (w.ask E now registry .awaitingOperators fun _ =>
      w.receiveOperators E now registry share) := by
  have stride : w.stride E now registry = (w.await E now registry .awaitingOperators).after [] := by
    unfold Worker.stride
    rw [phase]
    rfl
  exact strides_ask (fun _ => w.receiveOperators E now registry share) rfl stride
    (strides_receiveOperators (w := { w with phase := .awaitingOperators now }) rfl (Nat.le_refl now))

/-- Every turn is made of strides. -/
theorem strides_run (w : Worker ρ) (now : Nat) (registry : σ) :
    Strides E now w registry (w.run E now registry) := by
  have none : Strides E now w registry _ := .none w registry
  unfold run
  cases phase : w.phase with
  | starting =>
    exact strides_starting phase
  | collecting c => exact strides_collect share registry phase
  | awaitingOperators due =>
    dsimp only
    split
    next ready => exact strides_receiveOperators phase ready
    next early => exact phase ▸ none
  | awaitingQuorums operators due =>
    dsimp only
    split
    next ready => exact strides_receiveQuorums phase ready
    next early => exact phase ▸ none
  | awaitingIndices s ids due =>
    have last : Strides E now w registry _ := .last w registry
    unfold stride at last
    rw [phase] at last
    exact last

end Worker

end Attestation
