/-
Module: Attestation.Proofs.Pruning
Purpose: Rejected submissions leave no trace. A run without them comes to the same state and decides the
  others alike; and a worker whose inbox never had them lets others know the same of the rest at the same
  instants, stops collecting at the same instant and ends in the same way.
Main exports: TaskState.decision, TaskState.decisions, withoutRejections, TaskState.spared,
  TaskState.Passes, TaskState.Pruned, TaskState.pruned, Signal.isSpared, Life.heard, Life.Pruned,
  Worker.prunes, rejections_untraced
-/
import Attestation.Proofs.Arrivals
import Attestation.Proofs.Independence

namespace Attestation

/-- The computation ends with an error of its own, not with a crash. -/
def isRejection {ε β : Type} : Except (Failure ε) β → Bool
  | .error (.error _) => true
  | _ => false

/-- Some decisions without those that are rejections. -/
def withoutRejections {α ε β : Type} (decisions : List (α × Except (Failure ε) β)) :
    List (α × Except (Failure ε) β) :=
  decisions.filter (!isRejection ·.2)

namespace TaskState

variable {α ρ : Type} (J : Judge ρ) (of : α → Submission ρ)

/-! ### Runs of a task

A rejected submission leaves the state as it is, so the submissions after it are decided as if it had never
come. -/

/-- How a submission is decided: with its digest and whether the thresholds are met, or with an error. -/
def decision (s : TaskState ρ) (x : Submission ρ) : Except (Failure SignatureError) Accepted :=
  (s.submit J x.operator x.response x.signature).map (·.1)

/-- How the submissions of a run are decided, each after those before it. -/
def decisions (s : TaskState ρ) : List α → List (α × Except (Failure SignatureError) Accepted)
  | [] => []
  | a :: rest => (a, s.decision J (of a)) :: (s.step J (of a)).decisions rest

/-- A run without the submissions that are rejected in it. -/
def spared (s : TaskState ρ) (xs : List α) : List α :=
  (withoutRejections (s.decisions J of xs)).map (·.1)

/-- A submission passes every check that is not about what its operator signed before, and its digest is
the one given. -/
def Passes (s : TaskState ρ) (x : Submission ρ) (d : Digest) : Prop :=
  ∃ operator key g, s.snapshot.operators.get? x.operator = some operator ∧ J.hash x.response = .ok d ∧
    operator.pubkeys.g2 = some key ∧ J.verify d x.signature key = .ok true ∧
    s.merge J d operator key x.signature = .ok g

/-- A run is worth what it is worth without its rejected submissions; and as long as an operator's
submissions are not accepted, its next one is accepted if it passes the other checks. -/
structure Pruned (s : TaskState ρ) (xs : List (Submission ρ)) : Prop where
  decisions : s.decisions J id (s.spared J id xs) = withoutRejections (s.decisions J id xs)
  state : s.after J (s.spared J id xs) = s.after J xs
  unrecorded : ∀ o, (∀ e ∈ s.decisions J id xs, e.1.operator = o → e.2.isOk = false) →
    (s.after J xs).signed.get? o = s.signed.get? o
  acceptable : ∀ o, s.signed.get? o = none →
    (∀ e ∈ s.decisions J id xs, e.1.operator = o → e.2.isOk = false) →
    ∀ x d, x.operator = o →
      ((∃ met, (s.after J xs).decision J x = .ok ⟨d, met⟩) ↔ (s.after J xs).Passes J x d)

variable {J} {of}

/-- Only an accepted submission changes the state. -/
theorem step_of_error {s : TaskState ρ} {x : Submission ρ} {e : Failure SignatureError}
    (refused : s.decision J x = .error e) : s.step J x = s := by
  unfold decision at refused
  unfold step
  cases decided : s.submit J x.operator x.response x.signature with
  | error _ => rfl
  | ok _ =>
    rw [decided] at refused
    cases refused

/-- A rejected submission leaves the state as it was. -/
theorem step_of_rejection {s : TaskState ρ} {x : Submission ρ}
    (rejected : isRejection (s.decision J x) = true) : s.step J x = s := by
  cases refused : s.decision J x with
  | error e => exact step_of_error refused
  | ok report =>
    rw [refused] at rejected
    cases rejected

/-- A rejected submission is not spared, and the others are as from the same state. -/
theorem spared_cons_rejected {s : TaskState ρ} {a : α} (rejected : isRejection (s.decision J (of a)) = true)
    (rest : List α) : s.spared J of (a :: rest) = s.spared J of rest := by
  unfold spared withoutRejections
  rw [decisions, step_of_rejection rejected, List.filter_cons_of_neg (by simpa using rejected)]

theorem spared_cons_kept {s : TaskState ρ} {a : α} (kept : isRejection (s.decision J (of a)) = false)
    (rest : List α) : s.spared J of (a :: rest) = a :: (s.step J (of a)).spared J of rest := by
  unfold spared withoutRejections
  rw [decisions, List.filter_cons_of_pos (by simpa using kept), List.map_cons]

theorem decisions_spared (xs : List α) : ∀ s : TaskState ρ,
    s.decisions J of (s.spared J of xs) = withoutRejections (s.decisions J of xs) := by
  induction xs with
  | nil => exact fun _ => rfl
  | cons a rest ih =>
    intro s
    unfold withoutRejections at ih ⊢
    cases kind : isRejection (s.decision J (of a)) with
    | true =>
      rw [spared_cons_rejected kind, ih, decisions, step_of_rejection kind,
        List.filter_cons_of_neg (by simpa using kind)]
    | false =>
      rw [spared_cons_kept kind, decisions, ih, decisions, List.filter_cons_of_pos (by simpa using kind)]

variable (of) in
/-- A run and what is spared of it lead to the same state. -/
theorem after_spared (xs : List α) : ∀ s : TaskState ρ,
    s.after J ((s.spared J of xs).map of) = s.after J (xs.map of) := by
  induction xs with
  | nil => exact fun _ => rfl
  | cons a rest ih =>
    intro s
    rw [List.map_cons, after_cons]
    cases kind : isRejection (s.decision J (of a)) with
    | true => rw [spared_cons_rejected kind, ih, step_of_rejection kind]
    | false => rw [spared_cons_kept kind, List.map_cons, after_cons, ih]

theorem verdict_eq (s : TaskState ρ) (x : Submission ρ) :
    s.verdict J x = (s.decision J x).map (·.digest) := by
  unfold verdict decision
  cases s.submit J x.operator x.response x.signature <;> rfl

/-- What is recorded of an operator stays as it is while none of its submissions is accepted. -/
theorem get?_signed_of_unaccepted {o : OperatorId} (xs : List (Submission ρ)) : ∀ s : TaskState ρ,
    (∀ e ∈ s.decisions J id xs, e.1.operator = o → e.2.isOk = false) →
    (s.after J xs).signed.get? o = s.signed.get? o := by
  induction xs with
  | nil => exact fun _ _ => rfl
  | cons x rest ih =>
    intro s unaccepted
    obtain ⟨first, later⟩ := List.forall_mem_cons.1 unaccepted
    rw [after_cons]
    refine (ih _ later).trans ?_
    show (s.step J x).signed.get? o = _
    cases decided : s.decision J x with
    | error e => rw [step_of_error decided]
    | ok report =>
      have other : o ≠ x.operator := by
        rintro rfl
        exact absurd (first rfl) (by simp [decided, Except.isOk, Except.toBool])
      rw [get?_signed_step, verdict_eq, decided]
      exact if_neg other

/-- A submission of an operator that has signed nothing is accepted when it passes the other checks. -/
theorem accepts_iff_passes {s : TaskState ρ} {x : Submission ρ} {d : Digest}
    (unsigned : s.signed.get? x.operator = none) :
    (∃ met, s.decision J x = .ok ⟨d, met⟩) ↔ s.Passes J x d := by
  constructor
  · rintro ⟨met, accepted⟩
    unfold decision at accepted
    cases decided : s.submit J x.operator x.response x.signature with
    | error e =>
      rw [decided] at accepted
      cases accepted
    | ok result =>
      rw [decided] at accepted
      obtain ⟨report, next⟩ := result
      obtain rfl : report = ⟨d, met⟩ := Except.ok.inj accepted
      obtain ⟨operator, key, g, admits⟩ := submit_eq_ok_iff.1 decided
      exact ⟨operator, key, g, admits.member, admits.hashed, admits.keyed, admits.verified, admits.merged⟩
  · rintro ⟨operator, key, g, member, hashed, keyed, verified, merged⟩
    have decided : s.submit J x.operator x.response x.signature =
        .ok (⟨d, meetsThresholds g.stakes s.snapshot.totals s.parameters.thresholds⟩, _) :=
      submit_eq_ok_iff.2 ⟨operator, key, g, member, hashed, unsigned, keyed, verified, merged, rfl, rfl⟩
    unfold decision
    exact ⟨_, congrArg (·.map (·.1)) decided⟩

/-- A run from any state is worth what is spared of it. -/
theorem pruned (s : TaskState ρ) (xs : List (Submission ρ)) : s.Pruned J xs where
  decisions := decisions_spared xs s
  state := by
    have same := after_spared id xs s (J := J)
    rwa [List.map_id, List.map_id] at same
  unrecorded o unaccepted := get?_signed_of_unaccepted xs s unaccepted
  acceptable o unsigned unaccepted x d own := by
    refine accepts_iff_passes ?_
    rw [own, get?_signed_of_unaccepted xs s unaccepted, unsigned]

end TaskState

/-! ### Lives without rejected submissions

A worker that rejects a submission has had one turn more than a worker that never got it. Everything else of
the two lives is the same: when others are taken, what is signalled, and the response. -/

/-- Whether a signal is about a submission that is not rejected, or about none. That a submission was taken
from the inbox says nothing of how it was decided. -/
def Signal.isSpared : Signal → Bool
  | .taken _ | .rejected _ _ | .report (.signatureRejected _ _ _) | .verdict _ _ _ (some _) => false
  | _ => true

/-- What the worker lets others know of the submissions that it does not reject, and when. -/
def Life.heard {ρ σ : Type} (life : Life ρ σ) : List (Nat × Signal) := life.signals.filter (·.2.isSpared)

/-- Beside a life from a state, the life of a worker whose inbox never had what is rejected in it: the
same submissions but for these are taken and decided alike, and the same is heard of them at the same
instants; the collection ends at the same instant; and so does the worker, with the same response. -/
structure Life.Pruned {ρ σ : Type} (J : Judge ρ) (s : TaskState ρ) (life other : Life ρ σ) : Prop where
  taken : other.taken = s.spared J (·.2) life.taken
  decisions : s.decisions J (·.2) other.taken = withoutRejections (s.decisions J (·.2) life.taken)
  heard : other.heard = life.heard
  stopped : other.stopped = life.stopped
  ended : other.ended = life.ended
  asked : other.last.registry = life.last.registry
  fate : other.last.fate = life.last.fate

namespace Life

variable {ρ σ : Type} {J : Judge ρ} {s s' : TaskState ρ} {life other : Life ρ σ} {now : Nat}
  {x : Submission ρ} {turn : Turn ρ σ}

theorem taken_precede (life : Life ρ σ) (now : Nat) (x : Submission ρ) (turn : Turn ρ σ) :
    (life.precede [(now, x)] (now, turn)).taken = (now, x) :: life.taken := rfl

theorem heard_precede (life : Life ρ σ) (taken : List (Nat × Submission ρ)) (now : Nat) (turn : Turn ρ σ) :
    (life.precede taken (now, turn)).heard =
      (turn.signals.map (now, ·)).filter (·.2.isSpared) ++ life.heard := by
  unfold heard
  rw [signals_precede, List.filter_append]

theorem pruned_refl (keeps : s.spared J (·.2) life.taken = life.taken) : life.Pruned J s life where
  taken := keeps.symm
  decisions := by
    have spared : s.decisions J (·.2) (s.spared J (·.2) life.taken) = _ :=
      TaskState.decisions_spared life.taken s
    rwa [keeps] at spared
  heard := rfl
  stopped := rfl
  ended := rfl
  asked := rfl
  fate := rfl

/-- A turn that does no more than reject a submission is left out of the other life. -/
theorem Pruned.precede_rejected (pruned : life.Pruned J s other)
    (rejected : isRejection (s.decision J x) = true)
    (unheard : ∀ signal ∈ turn.signals, signal.isSpared = false) :
    (life.precede [(now, x)] (now, turn)).Pruned J s other where
  taken := by rw [taken_precede, TaskState.spared_cons_rejected rejected, pruned.taken]
  decisions := by
    rw [taken_precede, TaskState.decisions, TaskState.step_of_rejection rejected, pruned.decisions]
    exact (List.filter_cons_of_neg (by simpa using rejected)).symm
  heard := by
    have none : (turn.signals.map (now, ·)).filter (·.2.isSpared) = [] := by
      simpa [List.filter_eq_nil_iff] using unheard
    rw [heard_precede, none, pruned.heard]
    rfl
  stopped := pruned.stopped
  ended := pruned.ended
  asked := pruned.asked
  fate := pruned.fate

/-- A turn that takes a submission and does not reject it is in either life. -/
theorem Pruned.precede_kept (pruned : life.Pruned J (s.step J x) other)
    (kept : isRejection (s.decision J x) = false) :
    (life.precede [(now, x)] (now, turn)).Pruned J s (other.precede [(now, x)] (now, turn)) where
  taken := by rw [taken_precede, taken_precede, TaskState.spared_cons_kept kept, pruned.taken]
  decisions := by
    rw [taken_precede, taken_precede, TaskState.decisions, TaskState.decisions, pruned.decisions]
    exact (List.filter_cons_of_pos (by simpa using kept)).symm
  heard := by rw [heard_precede, heard_precede, pruned.heard]
  stopped := pruned.stopped
  ended := pruned.ended
  asked := pruned.asked
  fate := pruned.fate

/-- Lives that agree with such lives are related as they are. -/
theorem Pruned.congr {registry : Nat → σ} {life' other' : Life ρ σ} (pruned : life.Pruned J s other)
    (agrees : life'.Agrees registry life) (agrees' : other'.Agrees registry other) :
    life'.Pruned J s other' where
  taken := by rw [agrees'.taken, agrees.taken, pruned.taken]
  decisions := by rw [agrees'.taken, agrees.taken, pruned.decisions]
  heard := calc other'.heard
    _ = other.heard := congrArg (List.filter _) agrees'.signals
    _ = life.heard := pruned.heard
    _ = life'.heard := congrArg (List.filter _) agrees.signals.symm
  stopped := by rw [agrees'.stopped, agrees.stopped, pruned.stopped]
  ended := by rw [agrees'.ended, agrees.ended, pruned.ended]
  asked := by rw [agrees'.asked, agrees.asked, pruned.asked]
  fate := by rw [agrees'.fate, agrees.fate, pruned.fate]

end Life

namespace Collection

variable {ρ : Type} {J : Judge ρ} {c c' : Collection ρ} {now : Nat} {x : Submission ρ}

/-! ### Collections -/

/-- A rejected submission leaves the collection as it was. -/
theorem course_rejected (rejected : isRejection (c.state.decision J x) = true) :
    (c.receive J now x).course = .collecting c := by
  unfold TaskState.decision at rejected
  unfold receive
  cases decided : c.state.submit J x.operator x.response x.signature with
  | ok result =>
    rw [decided] at rejected
    cases rejected
  | error e =>
    cases e with
    | error e => rfl
    | crash =>
      rw [decided] at rejected
      cases rejected

/-- Nothing is heard of a rejected submission. -/
theorem heard_rejected (rejected : isRejection (c.state.decision J x) = true) :
    ∀ signal ∈ (c.take J now x).signals, signal.isSpared = false := by
  unfold TaskState.decision at rejected
  unfold take receive
  cases decided : c.state.submit J x.operator x.response x.signature with
  | ok result =>
    rw [decided] at rejected
    cases rejected
  | error e =>
    cases e with
    | error e => simp [Signal.isSpared]
    | crash =>
      rw [decided] at rejected
      cases rejected

/-- A collection that goes on after a submission goes on with the state after it. -/
theorem state_of_going (going : (c.receive J now x).course = .collecting c') :
    c'.state = c.state.step J x := by
  rw [course_decided (decides_of_going going)] at going
  split at going
  next =>
    unfold opened at going
    split at going
    next => cases going
    next =>
      split at going <;> cases going
      rfl
  next =>
    cases going
    rfl

end Collection

namespace Worker

variable {ρ σ : Type} {E : Setting ρ σ} {w : Worker ρ} {c : Collection ρ} {now : Nat}

section Living

variable (E) (registry : Nat → σ) (w)

/-- Beside the life of a worker that is handed submissions one by one is the life of one that is not handed
those that are rejected. -/
def Prunes (c : Collection ρ) (timeline : List (Nat × Submission ρ)) : Prop :=
  let life := w.paced E registry c timeline
  ∃ unread, timeline = life.taken ++ unread ∧ life.Pruned E.judge c.state
    (w.paced E registry c (c.state.spared E.judge (·.2) life.taken ++ unread))

theorem taken_leave (taken : List (Nat × Submission ρ)) (turn : Turn ρ σ) :
    (w.leave E registry taken now turn).taken = taken := by
  unfold leave
  split <;> rfl

variable {E} {w} {registry}

/-- Where nothing that is taken is rejected, the two lives are one. -/
theorem prunes_of_spared {timeline : List (Nat × Submission ρ)} (unread : List (Nat × Submission ρ))
    (split : timeline = (w.paced E registry c timeline).taken ++ unread)
    (keeps : c.state.spared E.judge (·.2) (w.paced E registry c timeline).taken =
      (w.paced E registry c timeline).taken) : w.Prunes E registry c timeline := by
  refine ⟨unread, split, ?_⟩
  rw [keeps, ← split]
  exact Life.pruned_refl keeps

/-- Where the deadline comes next, nothing is taken. -/
theorem prunes_late {timeline : List (Nat × Submission ρ)}
    (late : ∀ e ∈ timeline.head?, c.deadline ≤ e.1) : w.Prunes E registry c timeline := by
  obtain ⟨inbox, living⟩ := paced_late E registry w timeline late
  have taken : (w.paced E registry c timeline).taken = [] := by rw [living, taken_leave]
  exact prunes_of_spared timeline (by rw [taken]; rfl) (by rw [taken]; rfl)

section Early

variable {rest : List (Nat × Submission ρ)} {x : Submission ρ} (early : now < c.deadline)
include early

/-- A rejected submission leaves the collection as it was, and with it the rest of the life. -/
theorem prunes_rejected (rejected : isRejection (c.state.decision E.judge x) = true)
    (later : w.Prunes E registry c rest) : w.Prunes E registry c ((now, x) :: rest) := by
  have going : (c.receive E.judge now x).course = .collecting c := Collection.course_rejected rejected
  have turn := run_alone w (registry now) early going
  obtain ⟨unread, split, pruned⟩ := later
  unfold Prunes
  dsimp only
  rw [paced_cons_going registry w rest early going, turn]
  refine ⟨unread, congrArg ((now, x) :: ·) split, ?_⟩
  rw [Life.taken_precede, TaskState.spared_cons_rejected rejected]
  exact pruned.precede_rejected rejected (Collection.heard_rejected rejected)

/-- A submission that is not rejected is taken in either life, and the rest goes on from what it leaves. -/
theorem prunes_going (kept : isRejection (c.state.decision E.judge x) = false) {c' : Collection ρ}
    (going : (c.receive E.judge now x).course = .collecting c') (later : w.Prunes E registry c' rest) :
    w.Prunes E registry c ((now, x) :: rest) := by
  have same := Collection.state_of_going going
  obtain ⟨unread, split, pruned⟩ := later
  unfold Prunes
  dsimp only
  rw [paced_cons_going registry w rest early going]
  refine ⟨unread, congrArg ((now, x) :: ·) split, ?_⟩
  rw [Life.taken_precede, TaskState.spared_cons_kept kept, List.cons_append,
    paced_cons_going registry w _ early going]
  rw [same] at pruned
  exact pruned.precede_kept kept

/-- The last submission that is taken is not rejected. -/
theorem prunes_over (ceased : ∀ c', (c.receive E.judge now x).course ≠ .collecting c') :
    w.Prunes E registry c ((now, x) :: rest) := by
  have kept : isRejection (c.state.decision E.judge x) = false :=
    Bool.eq_false_iff.2 fun rejected => ceased c (Collection.course_rejected rejected)
  have taken : (w.paced E registry c ((now, x) :: rest)).taken = [(now, x)] := by
    rw [paced_cons_over registry w rest early ceased, taken_leave]
  refine prunes_of_spared rest (by rw [taken]; rfl) ?_
  rw [taken]
  exact TaskState.spared_cons_kept kept []

end Early

/-- Beside every life stands the one without the rejected submissions. -/
theorem prunes (timeline : List (Nat × Submission ρ)) :
    ∀ c : Collection ρ, w.Prunes E registry c timeline := by
  induction timeline with
  | nil => exact fun c => prunes_late nofun
  | cons e rest ih =>
    intro c
    obtain ⟨now, x⟩ := e
    by_cases early : now < c.deadline
    · cases kind : isRejection (c.state.decision E.judge x) with
      | true => exact prunes_rejected early kind (ih c)
      | false =>
        by_cases going : ∃ c', (c.receive E.judge now x).course = .collecting c'
        · obtain ⟨c', going⟩ := going
          exact prunes_going early kind going (ih c')
        · exact prunes_over early fun c' course => going ⟨c', course⟩
    · refine prunes_late ?_
      rintro _ ⟨⟩
      exact Nat.le_of_not_lt early

end Living

end Worker

/-- Rejected submissions leave no trace, whatever the snapshot, the hasher and the verifier. Without them,
a run from any state leads to the same state and decides the others alike, and an operator that had no
submission accepted may still have one. Without them in what arrives in its inbox, a worker takes and
decides the others at the same instants, stops collecting at the same instant and gives the same response.
-/
theorem rejections_untraced {ρ σ : Type} (E : Setting ρ σ) :
    (∀ (s : TaskState ρ) (xs : List (Submission ρ)), s.Pruned E.judge xs) ∧
    ∀ (w : Worker ρ) (registry : Nat → σ) (c : Collection ρ) (arrivals : List (Nat × List (Submission ρ))),
      arrivals.Pairwise (·.1 ≤ ·.1) →
      let life := w.live E registry c [] arrivals
      ∃ unread, moments arrivals = life.taken ++ unread ∧
        ∀ others : List (Nat × List (Submission ρ)), others.Pairwise (·.1 ≤ ·.1) →
          moments others = c.state.spared E.judge (·.2) life.taken ++ unread →
          life.Pruned E.judge c.state (w.live E registry c [] others) := by
  refine ⟨fun s xs => TaskState.pruned s xs, fun w registry c arrivals sorted => ?_⟩
  have agrees := Worker.live_agrees E registry w arrivals c sorted
  have prunes : w.Prunes E registry c (moments arrivals) := Worker.prunes (moments arrivals) c
  obtain ⟨unread, split, pruned⟩ := prunes
  dsimp only
  rw [agrees.taken]
  refine ⟨unread, split, fun others sorted' same => ?_⟩
  have agrees' := Worker.live_agrees E registry w others c sorted'
  rw [same] at agrees'
  exact pruned.congr agrees agrees'

/-- A forged signature of the third operator and a second one of the first are rejected. The third is
accepted then, and the window closes when it would without them. -/
theorem rejections_untraced_sample_run :
    let E : Setting Nat Nat := ⟨SampleTask.strictJudge, SampleTask.provider⟩
    let w := SampleTask.worker []
    let c := w.collection 0 SampleTask.snapshot
    let live := w.live E (fun _ => 0) c []
    let arrivals := [(4, [SampleTask.forgery 3 7]), (5, [SampleTask.submission 1 7, SampleTask.submission 1 7]),
      (6, [SampleTask.submission 3 7]), (16, [SampleTask.submission 2 7])]
    let others := [(5, [SampleTask.submission 1 7]), (6, [SampleTask.submission 3 7]),
      (16, [SampleTask.submission 2 7])]
    arrivals.Pairwise (·.1 ≤ ·.1) ∧ others.Pairwise (·.1 ≤ ·.1) ∧
    (live arrivals).taken.length = 4 ∧ (live arrivals).Pruned E.judge c.state (live others) ∧
    ∃ met, (c.state.after E.judge [SampleTask.forgery 3 7]).decision E.judge
      (SampleTask.submission 3 7) = .ok ⟨.ofNat 32 7, met⟩ := by
  intro E w c live arrivals others
  obtain ⟨tasks, workers⟩ := rejections_untraced E
  have sorted : arrivals.Pairwise (·.1 ≤ ·.1) := by decide
  have sorted' : others.Pairwise (·.1 ≤ ·.1) := by decide
  have length : (live arrivals).taken.length = 4 := by decide +kernel
  refine ⟨sorted, sorted', length, ?_, ?_⟩
  · obtain ⟨unread, split, pruned⟩ := workers w (fun _ => 0) c arrivals sorted
    have cut : (moments arrivals).take 4 ++ (moments arrivals).drop 4 = (live arrivals).taken ++ unread := split
    have four : ((moments arrivals).take 4).length = 4 := rfl
    obtain ⟨taken, rest⟩ := List.append_inj cut (four.trans length.symm)
    have spared : c.state.spared E.judge (·.2) ((moments arrivals).take 4) =
        [(5, SampleTask.submission 1 7), (6, SampleTask.submission 3 7)] := by
      show c.state.spared E.judge (·.2) [(4, SampleTask.forgery 3 7), (5, SampleTask.submission 1 7),
        (5, SampleTask.submission 1 7), (6, SampleTask.submission 3 7)] = _
      rw [TaskState.spared_cons_rejected (by decide +kernel), TaskState.spared_cons_kept (by decide +kernel),
        TaskState.spared_cons_rejected (by decide +kernel), TaskState.spared_cons_kept (by decide +kernel)]
      rfl
    have same : moments others = c.state.spared E.judge (·.2) (live arrivals).taken ++ unread := by
      rw [← taken, ← rest, spared]
      rfl
    exact pruned others sorted' same
  · refine ((tasks c.state [SampleTask.forgery 3 7]).acceptable (SampleTask.operatorId 3) rfl ?_ _ _ rfl).2 ?_
    · decide +kernel
    · have same : c.state.after E.judge [SampleTask.forgery 3 7] = c.state := by
        rw [TaskState.after_cons, TaskState.after_nil, TaskState.step_of_rejection (by decide +kernel)]
      rw [same]
      have own : (Bytes.ofNat 48 3).toNat == (Bytes.ofNat 96 3).toNat := by decide +kernel
      exact ⟨_, _, _, rfl, rfl, rfl, congrArg Except.ok own, rfl⟩

end Attestation
