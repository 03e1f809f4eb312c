/-
Module: Attestation.Proofs.Tenures
Purpose: Which tasks a service works on. Beside the lists of the tasks that were started and of the
  workers that have ended stands one invariant: a worker runs exactly if it was started and has not
  ended, the routes are those of the running workers, and what ended workers have given fits their tasks.
  A worker that ends takes its own route with it, since no other worker has one under the same index.
Main exports: valuesAt, Service.tenure, Service.starts, Service.endings, Service.takes, Service.merges,
  Service.Keeps, Service.act_cases, TaskResponse.Fits, Lives, Lives.act, Service.lives_after
-/
import Attestation.Proofs.Interleaving
import Mathlib.Data.List.Nodup

namespace Attestation

/-! ### Lists under keys -/

/-- The values that are listed under a key, in order. -/
def valuesAt {κ α : Type} [DecidableEq κ] (k : κ) (l : List (κ × α)) : List α :=
  (l.filter (·.1 = k)).map (·.2)

section Values

variable {κ α : Type} [DecidableEq κ] {k : κ}

@[simp] theorem valuesAt_nil : valuesAt k ([] : List (κ × α)) = [] := rfl

@[simp] theorem valuesAt_append (l l' : List (κ × α)) :
    valuesAt k (l ++ l') = valuesAt k l ++ valuesAt k l' := by
  rw [valuesAt, List.filter_append, List.map_append]
  rfl

/-- All values that are put down under a key are listed under it. -/
theorem valuesAt_map_self (xs : List α) : valuesAt k (xs.map (k, ·)) = xs := by
  induction xs with
  | nil => rfl
  | cons x rest ih =>
    rw [List.map_cons, valuesAt, List.filter_cons_of_pos (by simp), List.map_cons]
    exact congrArg _ ih

/-- None of them is listed under another key. -/
theorem valuesAt_map_other {other : κ} (different : other ≠ k) (xs : List α) :
    valuesAt k (xs.map (other, ·)) = [] := by
  induction xs with
  | nil => rfl
  | cons x rest ih =>
    rw [List.map_cons, valuesAt, List.filter_cons_of_neg (by simpa using different)]
    exact ih

/-- A value is listed under a key if it was put down under it. -/
theorem mem_valuesAt {l : List (κ × α)} {v : α} : v ∈ valuesAt k l ↔ (k, v) ∈ l := by
  unfold valuesAt
  simp

end Values

/-- In a list in which no key comes twice a key has one value. -/
theorem value_unique {κ α : Type} {l : List (κ × α)} {k : κ} {v w : α} (once : (l.map (·.1)).Nodup)
    (one : (k, v) ∈ l) (two : (k, w) ∈ l) : v = w :=
  congrArg Prod.snd (List.inj_on_of_nodup_map once one two rfl)

namespace Service

variable {ρ σ : Type}

/-! ### What actions do to tasks

The lists of what was started, ended, taken and merged are read off the run, action by action. The service
itself keeps no such lists. -/

/-- What a worker works on and how far it has come; absent if there is no such worker. -/
def tenure (s : Service ρ σ) (id : WorkerId) : Option (TaskParameters × Phase ρ) :=
  (s.workers.get? id).map fun w => (w.parameters, w.phase)

/-- The task that an action starts, with its worker. -/
def starts (s : Service ρ σ) : Action ρ σ → List (WorkerId × TaskParameters)
  | .startTask runtime t =>
    match s.startTask runtime t with
    | .ok _ => [(s.started, t)]
    | .error _ => []
  | _ => []

/-- The worker that an action ends, with its response or, if it crashes, without one. -/
def endings (E : Setting ρ σ) (s : Service ρ σ) : Action ρ σ → List (WorkerId × Option (TaskResponse ρ))
  | .work id =>
    ((s.workers.get? id).bind fun w => (w.stride E s.now s.registry).fate.ending?).toList.map (id, ·)
  | _ => []

/-- The submission that an action takes from an inbox, with the worker that takes it. -/
def takes (s : Service ρ σ) : Action ρ σ → List (WorkerId × Submission ρ)
  | .work id => ((s.workers.get? id).bind fun w => (w.takes? s.now).map (·.2)).toList.map (id, ·)
  | _ => []

/-- The submission that an action merges, with the worker that merges it. -/
def merges (E : Setting ρ σ) (s : Service ρ σ) : Action ρ σ → List (WorkerId × Acceptance ρ)
  | .work id => ((s.workers.get? id).bind fun w => w.merges? E.judge s.now).toList.map (id, ·)
  | _ => []

/-- An action in which no worker takes part. -/
structure Idles (E : Setting ρ σ) (s : Service ρ σ) (a : Action ρ σ) : Prop where
  endings : s.endings E a = []
  takes : s.takes a = []
  merges : s.merges E a = []

/-! ### Actions in which no worker takes part -/

/-- The tasks go on in another service as they were, no response has come and nothing was counted. -/
structure Keeps (s s' : Service ρ σ) : Prop where
  config : s'.config = s.config
  metrics : s'.metrics = s.metrics
  routes : s'.routes = s.routes
  started : s'.started = s.started
  tenure : ∀ id, s'.tenure id = s.tenure id
  responses : s'.responses = s.responses

theorem keeps_refl (s : Service ρ σ) : Keeps s s := ⟨rfl, rfl, rfl, rfl, fun _ => rfl, rfl⟩

section Keeping

variable {s : Service ρ σ}

/-- To keep room for a call changes the calls only. -/
theorem keepRoom_frame (s : Service ρ σ) (w : WorkerId) :
    ∃ calls, (s.keepRoom w).1 = { s with calls := calls } := by
  unfold keepRoom
  split <;> exact ⟨_, rfl⟩

/-- To abandon a call changes the calls and the journal only. -/
theorem abandon_frame (s : Service ρ σ) (id : CallId) (call : Call ρ) :
    ∃ calls journal, (s.abandon id call).service = { s with calls := calls, journal := journal } := by
  unfold abandon
  dsimp only
  split
  · obtain ⟨calls, same⟩ := keepRoom_frame ((s.report [.submissionCancelled call.task
      call.submission.operator]).finishCall id (.error (.cancelled call.task))).service call.worker
    exact ⟨calls, _, same⟩
  · exact ⟨_, _, rfl⟩

/-- A step of a call leaves all tasks as they are; a submission that enters an inbox is no part of a tenure.
-/
theorem keeps_poll (id : CallId) : Keeps s (s.poll id).service := by
  have look := s.look_poll id
  generalize s.poll id = polled at look
  cases look with
  | @abandoned call found cancelled =>
    obtain ⟨calls, journal, same⟩ := s.abandon_frame id call
    rw [same]
    exact ⟨rfl, rfl, rfl, rfl, fun _ => rfl, rfl⟩
  | @sent call worker _ _ _ found =>
    refine ⟨rfl, rfl, rfl, rfl, fun w => ?_, rfl⟩
    unfold tenure send setStage
    dsimp only
    rw [SortedMap.get?_insert]
    split
    next same =>
      rw [same, found]
      rfl
    next => rfl
  | _ => exact ⟨rfl, rfl, rfl, rfl, fun _ => rfl, rfl⟩

/-- So does what is done to the clock, the registry or the stream. -/
theorem keeps_outward {E : Setting ρ σ} {a : Action ρ σ} (outward : a.IsOutward) : Keeps s (s.act E a) := by
  obtain ⟨now, registry, received, receiver, journal, same⟩ := act_outward E s outward
  rw [same]
  exact ⟨rfl, rfl, rfl, rfl, fun _ => rfl, rfl⟩

/-- A worker that is not there does nothing. -/
theorem idles_of_gone {E : Setting ρ σ} {id : WorkerId} (gone : s.workers.get? id = none) :
    s.Idles E (.work id) := by
  refine ⟨?_, ?_, ?_⟩
  · rw [endings, gone]
    rfl
  · rw [takes, gone]
    rfl
  · rw [merges, gone]
    rfl

/-- An action starts a task, lets a worker stride, or leaves all tasks as they are. -/
theorem act_cases (E : Setting ρ σ) (s : Service ρ σ) (a : Action ρ σ) :
    (∃ t, s.starts a = [(s.started, t)] ∧ s.Idles E a ∧ s.routes.get? t.index = none ∧
      s.act E a = s.launch t) ∨
    (∃ id w, a = .work id ∧ s.workers.get? id = some w) ∨
    (s.starts a = [] ∧ s.Idles E a ∧ Keeps s (s.act E a)) := by
  cases a with
  | startTask runtime t =>
    rcases act_startTask E s runtime t with ⟨done, free, same⟩ | ⟨⟨e, refused⟩, same⟩
    · exact .inl ⟨t, by rw [starts, done], ⟨rfl, rfl, rfl⟩, free, same⟩
    · exact .inr (.inr ⟨by rw [starts, refused], ⟨rfl, rfl, rfl⟩, by rw [same]; exact keeps_refl s⟩)
  | submit task operator response signature cancelled =>
    refine .inr (.inr ⟨rfl, ⟨rfl, rfl, rfl⟩, ?_⟩)
    cases routed : s.routes.get? task with
    | none =>
      rw [act_submit_unrouted routed]
      exact keeps_refl s
    | some worker =>
      rw [act_submit_routed routed]
      exact ⟨rfl, rfl, rfl, rfl, fun _ => rfl, rfl⟩
  | poll id => exact .inr (.inr ⟨rfl, ⟨rfl, rfl, rfl⟩, keeps_poll id⟩)
  | cancel id =>
    refine .inr (.inr ⟨rfl, ⟨rfl, rfl, rfl⟩, ?_⟩)
    rw [act, cancel]
    split <;> exact ⟨rfl, rfl, rfl, rfl, fun _ => rfl, rfl⟩
  | work id =>
    cases found : s.workers.get? id with
    | some w => exact .inr (.inl ⟨id, w, rfl, found⟩)
    | none =>
      refine .inr (.inr ⟨rfl, idles_of_gone found, ?_⟩)
      rw [work_of_gone found]
      exact keeps_refl s
  | _ => exact .inr (.inr ⟨rfl, ⟨rfl, rfl, rfl⟩, keeps_outward trivial⟩)

end Keeping

section Tenures

variable {s : Service ρ σ}

/-! ### Tenures after an action -/

/-- A worker that runs has a tenure. -/
theorem tenure_of_get? {id : WorkerId} {w : Worker ρ} (found : s.workers.get? id = some w) :
    s.tenure id = some (w.parameters, w.phase) := by
  rw [tenure, found]
  rfl

/-- A new worker begins at the start, and the others go on as they were. -/
theorem tenure_launch (t : TaskParameters) (id : WorkerId) :
    (s.launch t).tenure id = if id = s.started then some (t, .starting) else s.tenure id := by
  unfold tenure
  show Option.map _ ((s.workers.insert _ _).get? id) = _
  rw [SortedMap.get?_insert]
  split <;> rfl

variable {E : Setting ρ σ} {id : WorkerId} {w : Worker ρ}

/-- A stride that leaves its worker waiting changes the phase of that worker only. -/
theorem tenure_waiting {phase : Phase ρ} (found : s.workers.get? id = some w)
    (going : (w.stride E s.now s.registry).fate = .waiting phase) (other : WorkerId) :
    (s.work E id).tenure other = if other = id then some (w.parameters, phase) else s.tenure other := by
  rw [work_waiting found going]
  unfold tenure
  show Option.map _ ((s.workers.insert _ _).get? other) = _
  rw [SortedMap.get?_insert]
  split <;> rfl

/-- A stride that ends its worker ends that tenure only. -/
theorem tenure_ended {ending : Option (TaskResponse ρ)} (found : s.workers.get? id = some w)
    (ended : (w.stride E s.now s.registry).fate.ending? = some ending) (other : WorkerId) :
    (s.work E id).tenure other = if other = id then none else s.tenure other := by
  obtain ⟨metrics, journal, same⟩ := work_ended found ended
  rw [same]
  unfold tenure
  show Option.map _ ((s.workers.erase _).get? other) = _
  rw [SortedMap.get?_erase]
  split <;> rfl

theorem endings_work (found : s.workers.get? id = some w) : s.endings E (.work id) =
    ((w.stride E s.now s.registry).fate.ending?).toList.map (id, ·) := by
  show List.map _ ((s.workers.get? id).bind _).toList = _
  rw [found]
  rfl

theorem takes_work (found : s.workers.get? id = some w) :
    s.takes (.work id) = ((w.takes? s.now).map (·.2)).toList.map (id, ·) := by
  rw [takes, found, Option.bind_some]

theorem merges_work (found : s.workers.get? id = some w) :
    s.merges E (.work id) = (w.merges? E.judge s.now).toList.map (id, ·) := by
  rw [merges, found, Option.bind_some]

/-- Only a worker that strides ends. -/
theorem work_of_ending {a : Action ρ σ} {ending : Option (TaskResponse ρ)}
    (ends : (id, ending) ∈ s.endings E a) : ∃ w, a = .work id ∧ s.workers.get? id = some w ∧
      (w.stride E s.now s.registry).fate.ending? = some ending := by
  cases a with
  | work other =>
    obtain ⟨ending', ceased, same⟩ := List.mem_map.1 ends
    cases same
    obtain ⟨w, found, ceased⟩ := Option.bind_eq_some_iff.1 (Option.mem_toList.1 ceased)
    exact ⟨w, rfl, found, ceased⟩
  | _ => cases ends

end Tenures

end Service

/-! ### The books of the tasks

The invariant, and one lemma for each of the three things that an action can do: leave the tasks as they
are, start one, or let a worker stride. -/

/-- A response that a worker for the task may give: the result for what it has taken, or one of the errors
with which it may end. -/
def TaskResponse.Fits {ρ σ : Type} (E : Setting ρ σ) (t : TaskParameters) (taken : List (Submission ρ))
    (merged : List (Acceptance ρ)) : TaskResponse ρ → Prop
  | .ok result => ∃ n indices, ∃ s : TaskState ρ, E.Yields t n ∧ s.Arises E.judge t n taken merged ∧
    s.result? indices = some result
  | .error e => e.Terminal t.index

/-- The tasks of a service beside the lists of those that were started, of those that have ended, and of
the submissions that were taken and merged. -/
structure Lives {ρ σ : Type} (E : Setting ρ σ) (started : List (WorkerId × TaskParameters))
    (ended : List (WorkerId × Option (TaskResponse ρ))) (taken : List (WorkerId × Submission ρ))
    (merged : List (WorkerId × Acceptance ρ)) (s : Service ρ σ) : Prop where
  numbered : started.map (·.1) = List.range s.started
  untouched : ∀ id, s.started ≤ id → valuesAt id taken = [] ∧ valuesAt id merged = []
  working : ∀ id t phase, s.tenure id = some (t, phase) →
    (id, t) ∈ started ∧ id ∉ ended.map (·.1) ∧ phase.Holds E t (valuesAt id taken) (valuesAt id merged)
  running : ∀ id t, (id, t) ∈ started → id ∉ ended.map (·.1) → ∃ phase, s.tenure id = some (t, phase)
  routes : ∀ i id, s.routes.get? i = some id ↔ ∃ t phase, s.tenure id = some (t, phase) ∧ t.index = i
  once : (ended.map (·.1)).Nodup
  fitting : ∀ e ∈ ended, ∃ t, (e.1, t) ∈ started ∧ ∀ response, e.2 = some response →
    response.Fits E t (valuesAt e.1 taken) (valuesAt e.1 merged)

namespace Lives

open Service

variable {ρ σ : Type} {E : Setting ρ σ} {started : List (WorkerId × TaskParameters)}
  {ended : List (WorkerId × Option (TaskResponse ρ))} {taken : List (WorkerId × Submission ρ)}
  {merged : List (WorkerId × Acceptance ρ)} {s s' : Service ρ σ}

/-- A worker works on one task. -/
theorem parameters_unique (lives : Lives E started ended taken merged s) {id : WorkerId}
    {t t' : TaskParameters} (one : (id, t) ∈ started) (two : (id, t') ∈ started) : t = t' := by
  have once : (started.map (·.1)).Nodup := by
    rw [lives.numbered]
    exact List.nodup_range
  exact value_unique once one two

/-- Only workers that were started have ended. -/
theorem lt_of_ended (lives : Lives E started ended taken merged s) {id : WorkerId}
    (ceased : id ∈ ended.map (·.1)) : id < s.started := by
  obtain ⟨e, member, rfl⟩ := List.mem_map.1 ceased
  obtain ⟨t, began, -⟩ := lives.fitting e member
  rw [← List.mem_range, ← lives.numbered]
  exact List.mem_map_of_mem began

/-- Only workers that were started run. -/
theorem lt_of_tenure (lives : Lives E started ended taken merged s) {id : WorkerId} {t : TaskParameters}
    {phase : Phase ρ} (works : s.tenure id = some (t, phase)) : id < s.started := by
  rw [← List.mem_range, ← lives.numbered]
  exact List.mem_map_of_mem (lives.working id t phase works).1

/-- Where no worker takes part, the books stay right. -/
theorem keep (lives : Lives E started ended taken merged s) (keeps : Keeps s s') :
    Lives E started ended taken merged s' where
  numbered := by rw [keeps.started, lives.numbered]
  untouched id fresh := lives.untouched id (keeps.started ▸ fresh)
  working id := by rw [keeps.tenure]; exact lives.working id
  running id := by rw [keeps.tenure]; exact lives.running id
  routes i id := by rw [keeps.routes, keeps.tenure]; exact lives.routes i id
  once := lives.once
  fitting := lives.fitting

/-- A task that is started gets a worker of its own, under an index that no running worker has. -/
theorem launch (lives : Lives E started ended taken merged s) {t : TaskParameters}
    (free : s.routes.get? t.index = none) :
    Lives E (started ++ [(s.started, t)]) ended taken merged (s.launch t) where
  numbered := by
    rw [List.map_append, lives.numbered]
    exact List.range_succ.symm
  untouched id fresh := lives.untouched id (Nat.le_of_succ_le fresh)
  working id t' phase works := by
    rw [tenure_launch] at works
    split at works
    next new =>
      cases works
      subst new
      refine ⟨List.mem_append_right _ (List.mem_singleton_self _), ?_, lives.untouched _ (Nat.le_refl _)⟩
      exact fun ceased => Nat.lt_irrefl _ (lives.lt_of_ended ceased)
    next =>
      obtain ⟨member, going, holds⟩ := lives.working id t' phase works
      exact ⟨List.mem_append_left _ member, going, holds⟩
  running id t' member going := by
    rw [tenure_launch]
    rcases List.mem_append.1 member with earlier | last
    · obtain ⟨phase, works⟩ := lives.running id t' earlier going
      rw [if_neg (Nat.ne_of_lt (lives.lt_of_tenure works))]
      exact ⟨phase, works⟩
    · cases List.mem_singleton.1 last
      exact ⟨.starting, if_pos rfl⟩
  routes i id := by
    show (s.routes.insert t.index s.started).get? i = some id ↔ _
    rw [SortedMap.get?_insert, tenure_launch]
    constructor
    · intro found
      split at found
      next same =>
        cases found
        exact ⟨t, .starting, if_pos rfl, same.symm⟩
      next =>
        obtain ⟨t', phase, works, index⟩ := (lives.routes i id).1 found
        exact ⟨t', phase, (if_neg (Nat.ne_of_lt (lives.lt_of_tenure works))).trans works, index⟩
    · rintro ⟨t', phase, works, index⟩
      split at works
      next new =>
        cases works
        rw [if_pos index.symm, new]
      next =>
        have found := (lives.routes i id).2 ⟨t', phase, works, index⟩
        have other : i ≠ t.index := by
          rintro rfl
          rw [free] at found
          cases found
        rw [if_neg other, found]
  once := lives.once
  fitting e member := by
    obtain ⟨t', began, fits⟩ := lives.fitting e member
    exact ⟨t', List.mem_append_left _ began, fits⟩

section Values

variable (E : Setting ρ σ) (taken : List (WorkerId × Submission ρ)) (merged : List (WorkerId × Acceptance ρ))
  {id other : WorkerId} {w : Worker ρ}

/-! ### Strides -/

/-- What a worker takes is listed under it. -/
theorem values_own (found : s.workers.get? id = some w) :
    valuesAt id (taken ++ s.takes (.work id)) =
        valuesAt id taken ++ ((w.takes? s.now).map (·.2)).toList ∧
      valuesAt id (merged ++ s.merges E (.work id)) =
        valuesAt id merged ++ (w.merges? E.judge s.now).toList := by
  rw [takes_work found, merges_work found, valuesAt_append, valuesAt_append, valuesAt_map_self,
    valuesAt_map_self]
  exact ⟨rfl, rfl⟩

/-- What a worker takes is listed under no other. -/
theorem values_other (found : s.workers.get? id = some w) (different : other ≠ id) :
    valuesAt other (taken ++ s.takes (.work id)) = valuesAt other taken ∧
      valuesAt other (merged ++ s.merges E (.work id)) = valuesAt other merged := by
  rw [takes_work found, merges_work found, valuesAt_append, valuesAt_append,
    valuesAt_map_other (Ne.symm different), valuesAt_map_other (Ne.symm different), List.append_nil,
    List.append_nil]
  exact ⟨rfl, rfl⟩

end Values

/-- A stride lists nothing for workers that were not started. -/
theorem untouched_work (lives : Lives E started ended taken merged s) {id : WorkerId} {w : Worker ρ}
    (found : s.workers.get? id = some w) (other : WorkerId) (fresh : s.started ≤ other) :
    valuesAt other (taken ++ s.takes (.work id)) = [] ∧
      valuesAt other (merged ++ s.merges E (.work id)) = [] := by
  have different : other ≠ id := by
    rintro rfl
    exact Nat.not_lt.2 fresh (lives.lt_of_tenure (tenure_of_get? found))
  rw [(values_other E taken merged found different).1, (values_other E taken merged found different).2]
  exact lives.untouched other fresh

/-- A stride lists nothing for workers that have ended. -/
theorem fitting_work (lives : Lives E started ended taken merged s) {id : WorkerId} {w : Worker ρ}
    (found : s.workers.get? id = some w) :
    ∀ e ∈ ended, ∃ t, (e.1, t) ∈ started ∧ ∀ response, e.2 = some response →
      response.Fits E t (valuesAt e.1 (taken ++ s.takes (.work id)))
        (valuesAt e.1 (merged ++ s.merges E (.work id))) := by
  intro e member
  have different : e.1 ≠ id := by
    rintro rfl
    exact (lives.working _ _ _ (tenure_of_get? found)).2.1 (List.mem_map_of_mem member)
  rw [(values_other E taken merged found different).1, (values_other E taken merged found different).2]
  exact lives.fitting e member

/-- A stride that leaves its worker waiting keeps the worker where it is. -/
theorem waiting (lives : Lives E started ended taken merged s) {id : WorkerId} {w : Worker ρ}
    {phase : Phase ρ} (found : s.workers.get? id = some w)
    (going : (w.stride E s.now s.registry).fate = .waiting phase) :
    Lives E started ended (taken ++ s.takes (.work id)) (merged ++ s.merges E (.work id)) (s.work E id) := by
  have works := tenure_of_get? found
  obtain ⟨began, open', holds⟩ := lives.working id _ _ works
  obtain ⟨calls, metrics, journal, same⟩ := s.noted_frame id (w.stride E s.now s.registry)
  have tenures := tenure_waiting found going
  rw [work_waiting found going, same] at tenures ⊢
  refine ⟨lives.numbered, lives.untouched_work found, fun other t phase' => ?_,
    fun other t member going => ?_, fun i other => ?_, lives.once, lives.fitting_work found⟩
  · rw [tenures]
    split
    next same =>
      rintro ⟨⟩
      subst same
      refine ⟨began, open', ?_⟩
      rw [(values_own E taken merged found).1, (values_own E taken merged found).2]
      exact (Worker.holds_stride _ _ holds).waiting phase going
    next another =>
      rw [(values_other E taken merged found another).1, (values_other E taken merged found another).2]
      exact lives.working other t phase'
  · rw [tenures]
    obtain ⟨phase', works'⟩ := lives.running other t member going
    split
    next same =>
      rw [same, works] at works'
      cases works'
      exact ⟨phase, rfl⟩
    next => exact ⟨phase', works'⟩
  · rw [tenures]
    refine (lives.routes i other).trans ?_
    split
    next same =>
      rw [same, works]
      constructor
      · rintro ⟨_, _, ⟨⟩, index⟩
        exact ⟨_, _, rfl, index⟩
      · rintro ⟨_, _, ⟨⟩, index⟩
        exact ⟨_, _, rfl, index⟩
    next => rfl

/-- What a worker that ends gives fits its task. -/
theorem fits_of_stride {w : Worker ρ} {now : Nat} {registry : σ} {taken : List (Submission ρ)}
    {merged : List (Acceptance ρ)} {ending : Option (TaskResponse ρ)}
    (holds : w.phase.Holds E w.parameters taken merged)
    (ceased : (w.stride E now registry).fate.ending? = some ending) :
    ∀ response, ending = some response → response.Fits E w.parameters
      (taken ++ ((w.takes? now).map (·.2)).toList) (merged ++ (w.merges? E.judge now).toList) := by
  rintro response rfl
  have held := Worker.holds_stride now registry holds
  cases fate : (w.stride E now registry).fate with
  | waiting phase =>
    rw [fate] at ceased
    cases ceased
  | crashed =>
    rw [fate] at ceased
    cases ceased
  | finished given =>
    rw [fate] at ceased
    cases ceased
    cases response with
    | ok result => exact held.answered result fate
    | error e => exact held.refused e fate

/-- A worker that ends takes its own route with it and leaves all others. -/
theorem ceased (lives : Lives E started ended taken merged s) {id : WorkerId} {w : Worker ρ}
    {ending : Option (TaskResponse ρ)} (found : s.workers.get? id = some w)
    (ceased : (w.stride E s.now s.registry).fate.ending? = some ending) :
    Lives E started (ended ++ [(id, ending)]) (taken ++ s.takes (.work id))
      (merged ++ s.merges E (.work id)) (s.work E id) := by
  have works := tenure_of_get? found
  obtain ⟨began, open', holds⟩ := lives.working id _ _ works
  have tenures := tenure_ended found ceased
  obtain ⟨calls, metrics, journal, noted⟩ := s.noted_frame id (w.stride E s.now s.registry)
  obtain ⟨metrics', journal', same⟩ := work_ended found ceased
  rw [noted] at same
  have route := (lives.routes w.task id).2 ⟨_, _, works, rfl⟩
  refine ⟨?_, fun other fresh => ?_, fun other t phase => ?_, fun other t member going => ?_,
    fun i other => ?_, ?_, fun e member => ?_⟩
  · rw [same]
    exact lives.numbered
  · rw [same] at fresh
    exact lives.untouched_work found other fresh
  · rw [tenures]
    split
    next => nofun
    next another =>
      intro works'
      obtain ⟨member, going, holds⟩ := lives.working other t phase works'
      rw [(values_other E taken merged found another).1, (values_other E taken merged found another).2]
      refine ⟨member, ?_, holds⟩
      simpa [another] using going
  · rw [List.map_append, List.mem_append, not_or] at going
    rw [tenures, if_neg (by simpa using going.2)]
    exact lives.running other t member going.1
  · rw [tenures, same]
    show (s.routes.erase w.task).get? i = some other ↔ _
    rw [SortedMap.get?_erase]
    -- The route of the task leads to this worker, so no other worker loses its route.
    by_cases task : i = w.task
    · subst task
      rw [if_pos rfl]
      refine ⟨nofun, ?_⟩
      rintro ⟨t, phase, works', index⟩
      split at works'
      next => cases works'
      next another =>
        have found' := (lives.routes w.task other).2 ⟨t, phase, works', index⟩
        rw [route] at found'
        exact absurd (Option.some.inj found').symm another
    · rw [if_neg task, lives.routes i other]
      split
      next same =>
        rw [same, works]
        constructor
        · rintro ⟨_, _, ⟨⟩, index⟩
          exact absurd index.symm task
        · nofun
      next => rfl
  · rw [List.map_append]
    refine List.nodup_append.2 ⟨lives.once, List.pairwise_singleton _ id, ?_⟩
    rintro a earlier b last rfl
    cases List.mem_singleton.1 last
    exact open' earlier
  · rcases List.mem_append.1 member with earlier | last
    · exact lives.fitting_work found e earlier
    · cases List.mem_singleton.1 last
      rw [(values_own E taken merged found).1, (values_own E taken merged found).2]
      exact ⟨_, began, fits_of_stride holds ceased⟩

/-- Every action keeps the books of the tasks. -/
theorem act (lives : Lives E started ended taken merged s) (a : Action ρ σ) :
    Lives E (started ++ s.starts a) (ended ++ s.endings E a) (taken ++ s.takes a) (merged ++ s.merges E a)
      (s.act E a) := by
  rcases act_cases E s a with ⟨t, starts, idles, free, same⟩ | ⟨id, w, rfl, found⟩ | ⟨starts, idles, keeps⟩
  · rw [starts, idles.endings, idles.takes, idles.merges, same, List.append_nil, List.append_nil,
      List.append_nil]
    exact lives.launch free
  · rw [endings_work found]
    show Lives E (started ++ []) _ _ _ (s.work E id)
    rw [List.append_nil]
    rcases (w.stride E s.now s.registry).fate.waiting_or_ending with ⟨phase, going⟩ | ⟨ending, ceased⟩
    · rw [going]
      show Lives E started (ended ++ []) _ _ _
      rw [List.append_nil]
      exact lives.waiting found going
    · rw [ceased]
      exact lives.ceased found ceased
  · rw [starts, idles.endings, idles.takes, idles.merges, List.append_nil, List.append_nil, List.append_nil,
      List.append_nil]
    exact lives.keep keeps

end Lives

namespace Service

variable {ρ σ : Type}

/-! ### Every run -/

/-- The books of a new service are empty. -/
theorem lives_create {E : Setting ρ σ} {config : Config} {registry : σ} {s : Service ρ σ}
    (created : create config registry = .ok s) : Lives E [] [] [] [] s := by
  obtain ⟨_, -, same⟩ := bind_eq_ok_iff.1 created
  cases same
  refine ⟨rfl, fun _ _ => ⟨rfl, rfl⟩, nofun, nofun, fun i id => ⟨nofun, ?_⟩, List.nodup_nil, nofun⟩
  rintro ⟨t, phase, works, -⟩
  cases works

/-- The books of the tasks are right after every list of actions. -/
theorem lives_after (E : Setting ρ σ) {config : Config} {registry : σ} {s : Service ρ σ}
    (created : create config registry = .ok s) (actions : List (Action ρ σ)) :
    Lives E (s.along E starts actions) (s.along E (endings E) actions) (s.along E takes actions)
      (s.along E (merges E) actions) (s.after E actions) := by
  induction actions using List.reverseRecOn with
  | nil => exact lives_create created
  | append_singleton actions a ih =>
    rw [along_snoc, along_snoc, along_snoc, along_snoc, after_snoc]
    exact ih.act a

end Service

end Attestation
