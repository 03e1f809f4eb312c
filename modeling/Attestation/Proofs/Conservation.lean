/-
Module: Attestation.Proofs.Conservation
Purpose: The counters agree with what has happened. Each task is counted when it is started and once more
  when its worker ends, under the outcome of its response or as aborted if it gave none; each submission
  is counted when it is decided on, whether or not its call is still there to hear of it.
Main exports: Metrics.count, Service.rejections, outcomeOf, Service.metrics_work, Conserved,
  Conserved.act, Service.conserved_after, Service.Balanced, Service.metrics_conserved,
  Service.metrics_shutdown
-/
import Attestation.Proofs.Initialization
import Attestation.Proofs.Tallies
import Mathlib.Algebra.Ring.Nat

namespace Attestation

/-! ### Counters -/

/-- Counts a submission that was decided on. -/
def Metrics.count (m : Metrics) (tally : CallId × Option RejectionReason) : Metrics :=
  match tally.2 with
  | none => m.signatureAccepted
  | some reason => m.signatureRejected reason

/-- What is decided on changes no counter of tasks. -/
theorem Metrics.count_all (tallies : List (CallId × Option RejectionReason)) : ∀ m : Metrics,
    let counted := tallies.foldl Metrics.count m
    counted.initialized = m.initialized ∧ counted.active = m.active ∧ counted.completed = m.completed ∧
    counted.accepted = m.accepted + tallies.countP (·.2 = none) ∧
    ∀ r, counted.rejected r = m.rejected r + tallies.countP (·.2 = some r) := by
  induction tallies with
  | nil => exact fun m => ⟨rfl, rfl, rfl, rfl, fun _ => rfl⟩
  | cons tally rest ih =>
    intro m
    obtain ⟨initialized, active, completed, accepted, rejected⟩ := ih (m.count tally)
    obtain ⟨call, _ | reason⟩ := tally
    · refine ⟨initialized, active, completed, ?_, fun r => ?_⟩
      · rw [List.foldl_cons, accepted, List.countP_cons_of_pos (by simp)]
        show m.accepted + 1 + _ = _
        omega
      · rw [List.foldl_cons, rejected, List.countP_cons_of_neg (by simp)]
        rfl
    · refine ⟨initialized, active, completed, ?_, fun r => ?_⟩
      · rw [List.foldl_cons, accepted, List.countP_cons_of_neg (by simp)]
        rfl
      · rw [List.foldl_cons, rejected, List.countP_cons]
        show (if r = reason then m.rejected r + 1 else m.rejected r) + _ = _
        by_cases same : r = reason
        · simp [same]
          omega
        · simp [same, Ne.symm same]

/-- The outcome under which the end of a worker is counted. -/
def outcomeOf {ρ : Type} (ending : Option (TaskResponse ρ)) : Outcome :=
  ending.elim .aborted TaskResponse.outcome

section Outcomes

variable {α : Type} (f : α → Outcome)

/-- Every outcome is listed once, so what is counted by outcome is counted once. -/
theorem sum_outcomes (l : List α) :
    (Outcome.all.map fun o => l.countP fun x => decide (f x = o)).sum = l.length := by
  induction l with
  | nil => rfl
  | cons x rest ih =>
    rw [List.length_cons, ← ih]
    unfold Outcome.all
    simp only [List.countP_cons, List.map_cons, List.map_nil, List.sum_cons, List.sum_nil]
    cases f x <;> simp <;> omega

end Outcomes

namespace Service

variable {ρ σ : Type}

/-! ### What a stride counts -/

/-- The submission that an action rejects, with the worker that rejects it and the error. -/
def rejections (E : Setting ρ σ) (s : Service ρ σ) : Action ρ σ →
    List (WorkerId × Submission ρ × SignatureError)
  | .work id => ((s.workers.get? id).bind fun w => w.rejects? E.judge s.now).toList.map (id, ·)
  | _ => []

section Counting

variable {E : Setting ρ σ} {s : Service ρ σ} {id : WorkerId} {w : Worker ρ}

theorem rejections_work (found : s.workers.get? id = some w) :
    s.rejections E (.work id) = (w.rejects? E.judge s.now).toList.map (id, ·) := by
  rw [rejections, found, Option.bind_some]

/-- Passing on signals counts what they have counted. -/
theorem metrics_noteAll (id : WorkerId) (signals : List Signal) : ∀ s : Service ρ σ,
    (s.noteAll id signals).1.metrics = (signals.filterMap Signal.tally?).foldl Metrics.count s.metrics := by
  induction signals with
  | nil => exact fun _ => rfl
  | cons signal rest ih =>
    intro s
    rw [noteAll_cons, ih]
    cases signal with
    | taken call =>
      obtain ⟨calls, same⟩ := keepRoom_frame s id
      show List.foldl _ (s.keepRoom id).1.metrics _ = _
      rw [same]
      rfl
    | verdict call task operator rejection =>
      unfold note
      dsimp only
      split <;> rfl
    | _ => rfl

/-- A turn counts what its signals have counted. -/
theorem metrics_noted (s : Service ρ σ) (id : WorkerId) (turn : Turn ρ σ) :
    (s.noted id turn).metrics = turn.tallies.foldl Metrics.count s.metrics :=
  metrics_noteAll id turn.signals s

/-- To give a response counts nothing: its outcome is counted when the worker ends. -/
theorem metrics_respond (s : Service ρ σ) (id : WorkerId) (task : TaskIndex) (response : TaskResponse ρ) :
    (s.respond id task response).metrics = s.metrics := by
  unfold respond
  split <;> rfl

/-- A stride counts the submission that it decides on, and the end of its worker. -/
theorem metrics_work (found : s.workers.get? id = some w) :
    let counted := (w.stride E s.now s.registry).tallies.foldl Metrics.count s.metrics
    (s.work E id).metrics = ((w.stride E s.now s.registry).fate.ending?).elim counted
      fun ending => counted.taskCompleted (outcomeOf ending) := by
  intro counted
  have noted := s.metrics_noted id (w.stride E s.now s.registry)
  cases fate : (w.stride E s.now s.registry).fate with
  | waiting phase =>
    rw [work_waiting found fate]
    exact noted
  | finished response =>
    rw [work, found]
    dsimp only
    rw [settle_finished fate, metrics_respond]
    exact congrArg (·.taskCompleted response.outcome) noted
  | crashed =>
    rw [work, found]
    dsimp only
    rw [settle_crashed fate]
    exact congrArg (·.taskCompleted .aborted) noted

theorem rejections_of_untaken {a : Action ρ σ} (untaken : s.takes a = []) : s.rejections E a = [] := by
  cases a with
  | work id =>
    cases found : s.workers.get? id with
    | none =>
      rw [rejections, found]
      rfl
    | some w =>
      rw [takes_work found, List.map_eq_nil_iff, Option.toList_eq_nil_iff, Option.map_eq_none_iff] at untaken
      rw [rejections_work found, Worker.rejects?, untaken]
      rfl
  | _ => rfl

/-- A stride counts in the list of what it merges and in that of what it rejects. -/
theorem count_stride (found : s.workers.get? id = some w) :
    let tallies := (w.stride E s.now s.registry).tallies
    tallies.countP (·.2 = none) = (s.merges E (.work id)).length ∧
    ∀ r, tallies.countP (·.2 = some r) = (s.rejections E (.work id)).countP (·.2.2.reason = r) := by
  rw [merges_work found, rejections_work found, Worker.tallies_eq]
  refine ⟨?_, fun r => ?_⟩ <;>
    cases w.merges? E.judge s.now <;> cases w.rejects? E.judge s.now <;> simp

end Counting

end Service

/-! ### The balance

The invariant, action by action. A task is active from its start to the end of its worker, and its outcome
is counted at that end. -/

/-- Counters beside the lists of the tasks that were started, of the workers that have ended and of the
submissions that were merged and rejected, and the number of tasks that are active. -/
structure Conserved {ρ : Type} (started : List (WorkerId × TaskParameters))
    (ended : List (WorkerId × Option (TaskResponse ρ))) (merged : List (WorkerId × Acceptance ρ))
    (rejected : List (WorkerId × Submission ρ × SignatureError)) (m : Metrics) (routes : Nat) : Prop where
  initialized : m.initialized = started.length
  active : m.active = routes
  balance : started.length = ended.length + routes
  completed : ∀ o, m.completed o = ended.countP (outcomeOf ·.2 = o)
  accepted : m.accepted = merged.length
  rejected : ∀ r, m.rejected r = rejected.countP (·.2.2.reason = r)

namespace Conserved

open Service

variable {ρ σ : Type} {E : Setting ρ σ} {started : List (WorkerId × TaskParameters)}
  {ended : List (WorkerId × Option (TaskResponse ρ))} {taken : List (WorkerId × Submission ρ)}
  {merged : List (WorkerId × Acceptance ρ)} {rejected : List (WorkerId × Submission ρ × SignatureError)}
  {m : Metrics} {routes : Nat} {s : Service ρ σ}

/-- A task that is started is counted and is one more that is active. -/
theorem launch (conserved : Conserved started ended merged rejected m routes)
    (new : WorkerId × TaskParameters) :
    Conserved (started ++ [new]) ended merged rejected m.taskInitialized (routes + 1) where
  initialized := by
    rw [List.length_append, ← conserved.initialized]
    rfl
  active := by
    show m.active + 1 = _
    rw [conserved.active]
    rfl
  balance := by
    rw [List.length_append, conserved.balance]
    rfl
  completed := conserved.completed
  accepted := conserved.accepted
  rejected := conserved.rejected

/-- A worker that ends is counted under its outcome, and its task is no more active. -/
theorem cease (conserved : Conserved started ended merged rejected m (routes + 1)) (id : WorkerId)
    (ending : Option (TaskResponse ρ)) :
    Conserved started (ended ++ [(id, ending)]) merged rejected (m.taskCompleted (outcomeOf ending)) routes where
  initialized := conserved.initialized
  active := by
    show m.active - 1 = _
    rw [conserved.active]
    omega
  balance := by
    rw [List.length_append, conserved.balance]
    show _ = ended.length + 1 + routes
    omega
  completed o := by
    show (if o = outcomeOf ending then m.completed o + 1 else m.completed o) = _
    rw [List.countP_append, ← conserved.completed]
    by_cases same : o = outcomeOf ending
    · simp [same]
    · simp [same, Ne.symm same]
  accepted := conserved.accepted
  rejected := conserved.rejected

/-- A stride counts the submission that it decides on. -/
theorem tally (conserved : Conserved started ended merged rejected m routes) {id : WorkerId}
    {w : Worker ρ} (found : s.workers.get? id = some w) :
    Conserved started ended (merged ++ s.merges E (.work id)) (rejected ++ s.rejections E (.work id))
      ((w.stride E s.now s.registry).tallies.foldl Metrics.count m) routes := by
  obtain ⟨accepts, rejects⟩ := count_stride (E := E) found
  obtain ⟨initialized, active, completed, accepted, refused⟩ :=
    Metrics.count_all (w.stride E s.now s.registry).tallies m
  refine ⟨?_, ?_, conserved.balance, ?_, ?_, fun r => ?_⟩
  · rw [initialized, conserved.initialized]
  · rw [active, conserved.active]
  · rw [completed]
    exact conserved.completed
  · rw [accepted, accepts, conserved.accepted, List.length_append]
  · rw [refused, rejects, conserved.rejected, List.countP_append]

/-- Every action keeps the counters in balance. -/
theorem act (conserved : Conserved started ended merged rejected s.metrics s.routes.size)
    (lives : Lives E started ended taken merged s) (a : Action ρ σ) :
    Conserved (started ++ s.starts a) (ended ++ s.endings E a) (merged ++ s.merges E a)
      (rejected ++ s.rejections E a) (s.act E a).metrics (s.act E a).routes.size := by
  rcases act_cases E s a with ⟨t, starts, idles, free, same⟩ | ⟨id, w, rfl, found⟩ | ⟨starts, idles, keeps⟩
  · have size : (s.launch t).routes.size = s.routes.size + 1 := SortedMap.size_insert free
    rw [starts, idles.endings, idles.merges, rejections_of_untaken idles.takes, List.append_nil,
      List.append_nil, List.append_nil, same, size]
    exact conserved.launch (s.started, t)
  · have decided := conserved.tally (E := E) found
    have metrics := metrics_work (E := E) found
    have routes := routes_work (E := E) found
    rw [endings_work found]
    show Conserved (started ++ []) _ _ _ (s.work E id).metrics (s.work E id).routes.size
    rw [metrics, routes, List.append_nil]
    cases (w.stride E s.now s.registry).fate.ending? with
    | none =>
      show Conserved started (ended ++ []) _ _ _ s.routes.size
      rw [List.append_nil]
      exact decided
    | some ending =>
      have route := (own_route lives w.task id).2 ⟨w, found, rfl⟩
      rw [← SortedMap.size_erase route] at decided
      exact decided.cease id ending
  · rw [starts, idles.endings, idles.merges, rejections_of_untaken idles.takes, List.append_nil,
      List.append_nil, List.append_nil, List.append_nil, keeps.metrics, keeps.routes]
    exact conserved

end Conserved

namespace Service

variable {ρ σ : Type}

/-- The counters are in balance after every list of actions. -/
theorem conserved_after (E : Setting ρ σ) {config : Config} {registry : σ} {s : Service ρ σ}
    (created : create config registry = .ok s) (actions : List (Action ρ σ)) :
    Conserved (s.along E starts actions) (s.along E (endings E) actions) (s.along E (merges E) actions)
      (s.along E (rejections E) actions) (s.after E actions).metrics (s.after E actions).routes.size := by
  induction actions using List.reverseRecOn with
  | nil =>
    obtain ⟨_, -, same⟩ := bind_eq_ok_iff.1 created
    cases same
    exact ⟨rfl, rfl, rfl, fun _ => rfl, rfl, fun _ => rfl⟩
  | append_singleton actions a ih =>
    rw [along_snoc, along_snoc, along_snoc, along_snoc, after_snoc]
    exact ih.act (lives_after E created actions) a

end Service

/-! ### Outcomes and responses -/

/-- The response is that the task has expired. -/
def TaskResponse.isExpiry {ρ : Type} : TaskResponse ρ → Bool
  | .error (.taskExpired _) => true
  | _ => false

/-- The response is that the operators or the quorums could not be told. -/
def TaskResponse.isStateFailure {ρ : Type} : TaskResponse ρ → Bool
  | .error (.operatorsStateRetrieval _ _) | .error (.quorumsStateRetrieval _ _) => true
  | _ => false

/-- The response is that the indices could not be told. -/
def TaskResponse.isIndicesFailure {ρ : Type} : TaskResponse ρ → Bool
  | .error (.indicesRetrieval _ _) => true
  | _ => false

section Kinds

variable {ρ : Type} {response : TaskResponse ρ}

theorem outcome_completed_iff : response.outcome = .completed ↔ response.isOk = true := by
  cases response with
  | ok result => exact ⟨fun _ => rfl, fun _ => rfl⟩
  | error e =>
    refine ⟨fun same => ?_, nofun⟩
    cases e <;> cases same

theorem outcome_expired_iff : response.outcome = .expired ↔ response.isExpiry = true := by
  cases response with
  | ok result => exact ⟨nofun, nofun⟩
  | error e => cases e <;> simp [TaskResponse.outcome, AggregationError.outcome, TaskResponse.isExpiry]

theorem outcome_stateRetrievalFailed_iff :
    response.outcome = .stateRetrievalFailed ↔ response.isStateFailure = true := by
  cases response with
  | ok result => exact ⟨nofun, nofun⟩
  | error e => cases e <;> simp [TaskResponse.outcome, AggregationError.outcome, TaskResponse.isStateFailure]

theorem outcome_indicesRetrievalFailed_iff :
    response.outcome = .indicesRetrievalFailed ↔ response.isIndicesFailure = true := by
  cases response with
  | ok result => exact ⟨nofun, nofun⟩
  | error e =>
    cases e <;> simp [TaskResponse.outcome, AggregationError.outcome, TaskResponse.isIndicesFailure]

/-- No response is counted as aborted. -/
theorem outcome_ne_aborted : response.outcome ≠ .aborted := by
  cases response with
  | ok result => exact nofun
  | error e => cases e <;> exact nofun

/-- A response that a worker gives is never counted as rejected. -/
theorem outcome_ne_rejected {task : TaskIndex} (own : response.IsFor task) :
    response.outcome ≠ .rejected := by
  cases response with
  | ok result => exact nofun
  | error e =>
    intro same
    cases e <;> first | exact own.elim | cases same

/-- What is counted under an outcome are the responses of its kind. -/
theorem count_answers (o : Outcome) {kind : TaskResponse ρ → Bool} (other : o ≠ .aborted)
    (kinds : ∀ response : TaskResponse ρ, response.outcome = o ↔ kind response = true)
    (ended : List (WorkerId × Option (TaskResponse ρ))) :
    ended.countP (outcomeOf ·.2 = o) = (answersOf ended).countP (kind ·.2) := by
  unfold answersOf
  rw [List.countP_filterMap]
  refine List.countP_congr fun e _ => ?_
  obtain ⟨id, _ | response⟩ := e
  · simp [outcomeOf, other.symm]
  · simp [outcomeOf, kinds]

end Kinds

namespace Service

variable {ρ σ : Type}

/-! ### Every run -/

/-- The counters of a service after some actions, beside the responses that its workers have pushed, the
submissions that they have merged and those that they have rejected. -/
structure Balanced (E : Setting ρ σ) (s : Service ρ σ) (actions : List (Action ρ σ))
    (m : Metrics) (pushed : List (WorkerId × TaskResponse ρ)) : Prop where
  balance : (m.initialized : Int) = ((Outcome.all.map m.completed).sum : Nat) + m.active
  active : m.active = (s.after E actions).routes.size
  completed : m.completed .completed = pushed.countP (·.2.isOk)
  expired : m.completed .expired = pushed.countP (·.2.isExpiry)
  stateRetrievalFailed : m.completed .stateRetrievalFailed = pushed.countP (·.2.isStateFailure)
  indicesRetrievalFailed : m.completed .indicesRetrievalFailed = pushed.countP (·.2.isIndicesFailure)
  /-- Workers that end without a response have crashed. -/
  aborted : m.completed .aborted = (s.along E (endings E) actions).countP (·.2.isNone)
  unrejected : m.completed .rejected = 0
  accepted : m.accepted = (s.along E (merges E) actions).length
  rejected : ∀ r, m.rejected r = (s.along E (rejections E) actions).countP (·.2.2.reason = r)
  /-- What was pushed is on the stream, as long as its receiving end is not dropped. -/
  streamed : (s.after E actions).receiver ≠ .dropped → (s.after E actions).responses = pushed

/-- In every order of calls, cancellations, strides and crashes: the tasks that were started are those
that have ended, by outcome, and those that are active; outcomes are counted as often as there are
responses of their kind or workers that have crashed; and submissions are counted as often as they were
merged, or rejected for a reason, whoever still waits for the answer. -/
theorem metrics_conserved (E : Setting ρ σ) {config : Config} {registry : σ} {s : Service ρ σ}
    (created : create config registry = .ok s) (actions : List (Action ρ σ)) :
    s.Balanced E actions (s.after E actions).metrics (answersOf (s.along E (endings E) actions)) := by
  have conserved := conserved_after E created actions
  have lives := lives_after E created actions
  refine ⟨?_, conserved.active, ?_, ?_, ?_, ?_, ?_, ?_, conserved.accepted, conserved.rejected,
    (stream_after E created actions).complete⟩
  · have sum := sum_outcomes (fun e => outcomeOf e.2) (s.along E (endings E) actions)
    rw [funext conserved.completed, sum, conserved.initialized, conserved.active, conserved.balance]
    exact Int.natCast_add _ _
  · rw [conserved.completed]
    exact count_answers .completed nofun (fun _ => outcome_completed_iff) _
  · rw [conserved.completed]
    exact count_answers .expired nofun (fun _ => outcome_expired_iff) _
  · rw [conserved.completed]
    exact count_answers .stateRetrievalFailed nofun (fun _ => outcome_stateRetrievalFailed_iff) _
  · rw [conserved.completed]
    exact count_answers .indicesRetrievalFailed nofun (fun _ => outcome_indicesRetrievalFailed_iff) _
  · rw [conserved.completed]
    refine List.countP_congr fun e _ => ?_
    obtain ⟨id, _ | response⟩ := e
    · simp [outcomeOf]
    · simp [outcomeOf, outcome_ne_aborted]
  · rw [conserved.completed, List.countP_eq_zero]
    rintro ⟨id, _ | response⟩ member
    · simp [outcomeOf]
    · obtain ⟨t, -, fits⟩ := lives.fitting _ member
      simp [outcomeOf, outcome_ne_rejected (fits response rfl).isFor]

/-- A task that gives its response after an operator has signed twice, the second time in a call that is
cancelled before it is answered; and one whose worker crashes. -/
theorem metrics_conserved_sample_run :
    let submit (task : TaskIndex) (operator response : Nat) : Action Nat Nat :=
      .submit task (SampleTask.operatorId operator) response ⟨.ofNat 48 operator⟩ false
    let small := SampleTask.parameters 0
    let wide := { SampleTask.parameters longestSpan with index := 2 }
    let actions := [.startTask true small, .work 0, .work 0, .work 0, submit 1 1 7, submit 1 1 8,
      submit 1 3 7, .poll 0, .poll 0, .poll 1, .poll 1, .poll 2, .poll 2, .cancel 1, .poll 1, .poll 1,
      .work 0, .work 0, .work 0, .work 0, .startTask true wide, .work 1, .work 1, .work 1, submit 2 1 7,
      submit 2 3 7, .poll 3, .poll 3, .poll 4, .poll 4, .work 1, .work 1, .startTask true small]
    ∃ s : Service Nat Nat, create .default 0 = .ok s ∧
      let m := (s.after SampleTask.setting actions).metrics
      (m.initialized, m.active, m.completed .completed, m.completed .aborted) = (3, 1, 1, 1) ∧
      (m.accepted, m.rejected .conflictingSignature) = (4, 1) ∧
      s.Balanced SampleTask.setting actions m
        (answersOf (s.along SampleTask.setting (endings SampleTask.setting) actions)) := by
  intro submit small wide actions
  have created : create Config.default 0 = .ok (_ : Service Nat Nat) := rfl
  exact ⟨_, created, by decide +kernel, by decide +kernel, metrics_conserved SampleTask.setting created actions⟩

/-- When a service is shut down, each worker that still runs is counted as aborted. -/
theorem metrics_shutdown (s : Service ρ σ) : s.shutdown.metrics =
    { s.metrics with
      completed := fun o => if o = .aborted then s.metrics.completed o + s.workers.size
        else s.metrics.completed o
      active := s.metrics.active - s.workers.size } := by
  unfold shutdown SortedMap.size
  generalize s.workers.toList = entries
  induction entries generalizing s with
  | nil => simp
  | cons e rest ih =>
    rw [List.foldl_cons, ih, List.length_cons]
    show Metrics.mk _ _ _ _ _ = Metrics.mk _ _ _ _ _
    congr 1
    · show s.metrics.active - 1 - _ = _
      omega
    · funext o
      show (if o = .aborted then (if o = .aborted then _ else _) + _ else if o = .aborted then _ else _) = _
      split <;> omega

end Service

end Attestation
