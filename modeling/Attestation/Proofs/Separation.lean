/-
Module: Attestation.Proofs.Separation
Purpose: Tasks do not interfere. Whatever else a service is asked to do, one of its tasks goes as it would
  go alone: its submissions enter its inbox, are decided on and answered at the same instants and alike, and
  it ends with the same response. A submission is only ever taken by the worker whose route its call has
  found, and every worker begins with nothing signed.
Main exports: Service.ownCalls, Service.alone, Service.Unlimited, Service.AnsweredAlike, Service.Isolated,
  Service.Separated, Service.numbered_makes, Service.tracks_after, Service.tasks_isolated
-/
import Attestation.Fixture.SampleTask
import Attestation.Proofs.Isolation
import Attestation.Proofs.Receipts

namespace Attestation

namespace Service

variable {ρ σ : Type}

/-! ### A task alone

What remains of a run when one task is left alone: the actions on its worker and on its calls, under new
numbers, and what is done to the clock, the registry and the stream. -/

/-- The calls that were made for a worker. -/
def ownCalls (E : Setting ρ σ) (s : Service ρ σ) (actions : List (Action ρ σ)) (v : WorkerId) : List CallId :=
  callsFor v (s.along E makes actions)

/-- What remains of a run when the task of a worker is left alone. -/
def alone (E : Setting ρ σ) (s : Service ρ σ) (actions : List (Action ρ σ)) (v : WorkerId)
    (t : TaskParameters) : List (Action ρ σ) :=
  s.along E (isolate v t.index (s.ownCalls E actions v)) actions

/-- No task is refused for the number of those that are active. -/
def Unlimited (E : Setting ρ σ) (s : Service ρ σ) (actions : List (Action ρ σ)) : Prop :=
  ∀ before rest runtime t task limit, actions = before ++ .startTask runtime t :: rest →
    (s.after E before).startTask runtime t ≠ .error (.error (.tooManyActiveTasks task limit))

/-- The registry answers the queries of a worker as it does when the worker's task is left alone. -/
def AnsweredAlike (E : Setting ρ σ) (s : Service ρ σ) (actions : List (Action ρ σ)) (v : WorkerId)
    (t : TaskParameters) : Prop :=
  ∀ before rest w, actions = before ++ .work v :: rest → (s.after E before).workers.get? v = some w →
    E.AnswersAlike w (s.after E before).now (s.after E before).registry
      (s.after E (s.along E (isolate v t.index (s.ownCalls E actions v)) before)).registry

/-- A task goes as it goes when it is left alone. -/
structure Isolated (E : Setting ρ σ) (s : Service ρ σ) (actions : List (Action ρ σ)) (v : WorkerId)
    (t : TaskParameters) : Prop where
  starts : s.along E starts (s.alone E actions v t) = [(0, t)]
  seen : Reflects E v (s.ownCalls E actions v) s s actions (s.alone E actions v t)
  /-- On the stream its response is the same. -/
  responses : (s.after E (s.alone E actions v t)).responses =
    (valuesAt v (s.after E actions).responses).map (0, ·)
  /-- If it has not ended, it has come as far. -/
  worker : (s.after E (s.alone E actions v t)).workers.get? 0 =
    ((s.after E actions).workers.get? v).map (·.renumber (s.ownCalls E actions v).idxOf)

/-- Workers share nothing, also those that follow on one another under one index. -/
structure Separated (E : Setting ρ σ) (s : Service ρ σ) (actions : List (Action ρ σ)) : Prop where
  /-- A submission is taken by the worker whose route its call has found, and by no other. -/
  routed : ∀ u x, (u, x) ∈ s.along E takes actions → ∃ call : Call ρ,
    valuesAt x.call (s.along E makes actions) = [call] ∧ call.submission = x ∧ call.worker = u
  /-- A task that is started next gets a new worker, whose inbox is empty. -/
  begins : ∀ a u t, (u, t) ∈ (s.after E actions).starts a →
    (∀ e ∈ s.along E starts actions, e.1 ≠ u) ∧ valuesAt u (s.along E takes actions) = [] ∧
    ((s.after E actions).act E a).routes.get? t.index = some u ∧
    ((s.after E actions).act E a).workers.get? u = some ⟨t, [], .starting⟩
  /-- The state of a worker is what its own submissions have made of its snapshot. -/
  own : ∀ u w c, (s.after E actions).workers.get? u = some w → w.phase = .collecting c →
    ∃ n, E.Yields w.parameters n ∧
      c.state = (TaskState.start w.parameters n).after E.judge (valuesAt u (s.along E takes actions))
  /-- Before it has taken a submission there is no signer, no digest and no winner. -/
  blank : ∀ u w c, (s.after E actions).workers.get? u = some w → w.phase = .collecting c →
    valuesAt u (s.along E takes actions) = [] →
    c.state.signed = ∅ ∧ c.state.aggregates = ∅ ∧ c.state.winner = none

section Run

variable {E : Setting ρ σ} {s : Service ρ σ}

/-! ### The numbers of calls -/

/-- Only calls that are made are counted. -/
theorem made_act (E : Setting ρ σ) (s : Service ρ σ) (a : Action ρ σ) :
    (s.act E a).made = s.made + (s.makes a).length := by
  have outward : a.IsOutward → (s.act E a).made = s.made := by
    intro outward
    obtain ⟨_, _, _, _, _, same⟩ := act_outward E s outward
    rw [same]
  cases a with
  | startTask runtime t =>
    rcases act_startTask E s runtime t with ⟨-, -, same⟩ | ⟨-, same⟩ <;> rw [same] <;> rfl
  | submit task operator response signature cancelled =>
    unfold makes
    dsimp only
    cases found : s.routes.get? task with
    | none => rw [act_submit_unrouted found]; rfl
    | some u => rw [act_submit_routed found]; rfl
  | poll id =>
    show (s.poll id).service.made = s.made
    have look := s.look_poll id
    generalize s.poll id = polled at look
    cases look with
    | @abandoned call =>
      obtain ⟨calls, journal, same⟩ := s.abandon_frame id call
      rw [same]
    | _ => rfl
  | cancel id =>
    rw [act, cancel]
    split <;> rfl
  | work u =>
    cases found : s.workers.get? u with
    | none => rw [work_of_gone found]; rfl
    | some w => exact (afterTurn_work found).made
  | _ => exact outward trivial

/-- Calls are numbered in the order in which they are made. -/
theorem numbered_makes (E : Setting ρ σ) {config : Config} {registry : σ}
    (created : create config registry = .ok s) (actions : List (Action ρ σ)) :
    (s.along E makes actions).map (·.1) = List.range (s.after E actions).made := by
  induction actions using List.reverseRecOn with
  | nil =>
    obtain ⟨_, -, same⟩ := bind_eq_ok_iff.1 created
    cases same
    rfl
  | append_singleton actions a ih =>
    rw [along_snoc, after_snoc, List.map_append, ih, made_act]
    cases a with
    | submit task operator response signature cancelled =>
      unfold makes
      dsimp only
      cases (s.after E actions).routes.get? task with
      | none => exact List.append_nil _
      | some u => exact List.range_succ.symm
    | _ => exact List.append_nil _

section Reached

variable {config : Config} {registry : σ} {v : WorkerId} {t : TaskParameters} {before rest : List (Action ρ σ)}

/-- No call is made twice. -/
theorem nodup_makes (created : create config registry = .ok s) (actions : List (Action ρ σ)) :
    ((s.along E makes actions).map (·.1)).Nodup := by
  rw [numbered_makes E created]
  exact List.nodup_range

/-- The calls of a worker are those that were made for it. -/
theorem mem_ownCalls (created : create config registry = .ok s) {actions : List (Action ρ σ)} {id : CallId}
    {call : Call ρ} (made : (id, call) ∈ s.along E makes actions) :
    id ∈ s.ownCalls E actions v ↔ call.worker = v := by
  unfold ownCalls callsFor
  rw [List.mem_map]
  constructor
  · rintro ⟨⟨id', call'⟩, member, rfl⟩
    obtain ⟨made', worker⟩ := List.mem_filter.1 member
    rw [value_unique (nodup_makes created actions) made made']
    exact of_decide_eq_true worker
  · intro worker
    exact ⟨_, List.mem_filter.2 ⟨made, decide_eq_true worker⟩, rfl⟩

/-- The calls of a worker are listed in the order of their numbers. -/
theorem ascending_ownCalls (created : create config registry = .ok s) (actions : List (Action ρ σ)) :
    (s.ownCalls E actions v).Pairwise (· < ·) := by
  have sublist : (s.ownCalls E actions v).Sublist ((s.along E makes actions).map (·.1)) :=
    List.filter_sublist.map _
  rw [numbered_makes E created] at sublist
  exact List.pairwise_lt_range.sublist sublist

theorem mem_makes_of_values {actions : List (Action ρ σ)} {id : CallId} {call : Call ρ}
    (made : valuesAt id (s.along E makes actions) = [call]) : (id, call) ∈ s.along E makes actions := by
  rw [← mem_valuesAt, made]
  exact List.mem_singleton_self call

/-- A submission in an inbox is that of a call for the worker. -/
theorem made_of_queued (created : create config registry = .ok s) {actions : List (Action ρ σ)} {u : WorkerId}
    {w : Worker ρ} {x : Submission ρ} (found : (s.after E actions).workers.get? u = some w)
    (queued : x ∈ w.inbox) : ∃ call : Call ρ, valuesAt x.call (s.along E makes actions) = [call] ∧
      call.submission = x ∧ call.worker = u := by
  have listed : x ∈ (s.after E actions).copies x.call u := by
    unfold copies inbox
    rw [found]
    exact List.mem_filter.2 ⟨queued, decide_eq_true rfl⟩
  obtain ⟨call, -, -, -, -, made, worker, one, -⟩ :=
    (standing_after E created actions x.call).queued (List.ne_nil_of_mem listed)
  rw [one] at listed
  exact ⟨call, made, (List.mem_singleton.1 listed).symm, worker⟩

theorem mem_inbox_of_takes {w : Worker ρ} {now : Nat} {c : Collection ρ} {x : Submission ρ}
    (takes : w.takes? now = some (c, x)) : x ∈ w.inbox := by
  unfold Worker.takes? at takes
  split at takes
  · split at takes
    · obtain ⟨_, head, same⟩ := Option.map_eq_some_iff.1 takes
      cases same
      exact List.mem_of_head? head
    · cases takes
  · cases takes

/-! ### Two runs -/

theorem grounds_after (created : create config registry = .ok s)
    (began : (v, t) ∈ s.along E starts (before ++ rest)) :
    Grounds v t.index (s.ownCalls E (before ++ rest) v) (s.after E before) where
  addressed id call found := by
    obtain ⟨made, place, -, -, -, -, known, -, follows, -⟩ := (standing_after E created before id).pending found
    rw [follows.worker]
    refine mem_ownCalls created ?_
    rw [along_append]
    exact List.mem_append_left _ (mem_makes_of_values known)
  foreign u w x found queued mine := by
    obtain ⟨call, made, -, worker⟩ := made_of_queued created found queued
    rw [← worker]
    refine (mem_ownCalls created ?_).1 mine
    rw [along_append]
    exact List.mem_append_left _ (mem_makes_of_values made)
  route j route := by
    have lives := lives_after E created before
    obtain ⟨t', phase, works, rfl⟩ := (lives.routes j v).1 route
    have earlier := (lives.working v t' phase works).1
    rw [(lives_after E created (before ++ rest)).parameters_unique began
      (by rw [along_append]; exact List.mem_append_left _ earlier)]

theorem mirrors_create (created : create config registry = .ok s) (v : WorkerId) (own : List CallId) :
    Mirrors v own [] s s := by
  obtain ⟨_, -, same⟩ := bind_eq_ok_iff.1 created
  cases same
  refine ⟨rfl, rfl, rfl, rfl, fun _ => rfl, fun _ => (ite_self _).symm, rfl, fun k => ?_, rfl⟩
  cases own[k]? <;> rfl

/-- Whatever the next action is, the two runs go on alike. -/
theorem tracks_act {past future : List CallId} {r : Service ρ σ} {a : Action ρ σ}
    (created : create config registry = .ok s) (began : (v, t) ∈ s.along E starts (before ++ a :: rest))
    (mirrors : Mirrors v (s.ownCalls E (before ++ a :: rest) v) past (s.after E before) r)
    (next : s.ownCalls E (before ++ a :: rest) v =
      past ++ callsFor v ((s.after E before).makes a) ++ future)
    (unlimited : s.Unlimited E (before ++ a :: rest))
    (alike : a = .work v → ∀ w, (s.after E before).workers.get? v = some w →
      E.AnswersAlike w (s.after E before).now (s.after E before).registry r.registry) :
    Tracks E v t.index (s.ownCalls E (before ++ a :: rest) v) past (s.after E before) r a := by
  have grounds := grounds_after created began
  have lives := lives_after E created before
  have ascending := ascending_ownCalls (E := E) (v := v) created (before ++ a :: rest)
  have once := ascending.imp (S := (· ≠ ·)) Nat.ne_of_lt
  cases a with
  | startTask runtime p =>
    refine tracks_startTask mirrors ?_ runtime p fun task limit => ?_
    · rintro rfl j route
      obtain ⟨_, _, works, -⟩ := (lives.routes j _).1 route
      exact Nat.lt_irrefl _ (lives.lt_of_tenure works)
    · exact unlimited before rest runtime p task limit rfl
  | submit task operator response signature cancelled =>
    refine tracks_submit mirrors grounds once task operator response signature cancelled ?_ next
    rintro ⟨id, call⟩ made
    refine mem_ownCalls created ?_
    rw [along_append, along]
    exact List.mem_append_right _ (List.mem_append_left _ made)
  | poll id => exact tracks_poll mirrors grounds.addressed ascending id
  | cancel id => exact tracks_cancel mirrors grounds.addressed once id
  | work u => exact tracks_work mirrors grounds lives ascending u fun same => alike (same ▸ rfl)
  | _ => exact tracks_outward mirrors trivial

/-- From the first action on, the two runs go alike. -/
theorem tracks_after (created : create config registry = .ok s) {actions : List (Action ρ σ)}
    (began : (v, t) ∈ s.along E starts actions) (unlimited : s.Unlimited E actions)
    (answered : s.AnsweredAlike E actions v t) : ∀ rest, actions = before ++ rest →
      Mirrors v (s.ownCalls E actions v) (callsFor v (s.along E makes before)) (s.after E before)
        (s.after E (s.along E (isolate v t.index (s.ownCalls E actions v)) before)) ∧
      Reflects E v (s.ownCalls E actions v) s s before
        (s.along E (isolate v t.index (s.ownCalls E actions v)) before) := by
  induction before using List.reverseRecOn with
  | nil => exact fun _ _ => ⟨mirrors_create created v _, rfl, rfl, rfl, rfl, rfl, fun _ _ => rfl⟩
  | append_singleton before a ih =>
    intro rest split
    rw [List.append_assoc] at split
    obtain ⟨mirrors, reflects⟩ := ih (a :: rest) split
    subst split
    have next : s.ownCalls E (before ++ a :: rest) v = callsFor v (s.along E makes before) ++
        callsFor v ((s.after E before).makes a) ++
          callsFor v (((s.after E before).act E a).along E makes rest) := by
      unfold ownCalls
      rw [along_append, along, callsFor_append, callsFor_append, List.append_assoc]
    have tracks := tracks_act created began mirrors next unlimited fun work w found => by
      subst work
      exact answered before rest w rfl found
    rw [along_snoc, along_snoc, callsFor_append, after_snoc, after_append]
    exact ⟨tracks.mirrors, reflects.append tracks.reflects⟩

/-- A task goes as it goes alone, as long as the registry answers it alike. -/
theorem isolated_after (created : create config registry = .ok s) {actions : List (Action ρ σ)}
    (began : (v, t) ∈ s.along E starts actions) (unlimited : s.Unlimited E actions)
    (answered : s.AnsweredAlike E actions v t) : s.Isolated E actions v t := by
  obtain ⟨mirrors, reflects⟩ :=
    tracks_after created began unlimited answered [] (List.append_nil actions).symm
  refine ⟨?_, reflects, mirrors.responses, (mirrors.workers 0).trans (if_pos rfl)⟩
  have once : ((s.along E starts actions).map (·.1)).Nodup := by
    rw [(lives_after E created actions).numbered]
    exact List.nodup_range
  have one : valuesAt v (s.along E starts actions) = [t] := by
    unfold valuesAt
    rw [filter_eq_singleton once began]
    rfl
  exact reflects.starts.trans (by rw [one]; rfl)

/-- Workers share nothing after every list of actions. -/
theorem separated_after (created : create config registry = .ok s) (actions : List (Action ρ σ)) :
    s.Separated E actions := by
  have lives := lives_after E created actions
  have holds : ∀ u w c, (s.after E actions).workers.get? u = some w → w.phase = .collecting c →
      ∃ n, E.Yields w.parameters n ∧ c.state = (TaskState.start w.parameters n).after E.judge
        (valuesAt u (s.along E takes actions)) := by
    intro u w c found phase
    have holds := (lives.working u _ _ (tenure_of_get? found)).2.2
    rw [phase] at holds
    obtain ⟨n, yields, arises⟩ := holds
    exact ⟨n, yields, arises.state⟩
  refine ⟨fun u x taken => ?_, fun a u p starts => ?_, holds, fun u w c found phase untaken => ?_⟩
  · obtain ⟨before, a, rest, rfl, takes⟩ := mem_along.1 taken
    cases a with
    | work v =>
      obtain ⟨x', taken, same⟩ := List.mem_map.1 takes
      cases same
      obtain ⟨w, found, taken⟩ := Option.bind_eq_some_iff.1 (Option.mem_toList.1 taken)
      obtain ⟨⟨c, x⟩, next, rfl⟩ := Option.map_eq_some_iff.1 taken
      obtain ⟨call, made, own⟩ := made_of_queued created found (mem_inbox_of_takes next)
      refine ⟨call, ?_, own⟩
      have later : (x.call, call) ∈ s.along E makes (before ++ .work u :: rest) := by
        rw [along_append]
        exact List.mem_append_left _ (mem_makes_of_values made)
      unfold valuesAt
      rw [filter_eq_singleton (nodup_makes created _) later]
      rfl
    | _ => cases takes
  · rcases act_cases E (s.after E actions) a with ⟨p', begins, -, -, same⟩ | ⟨_, _, rfl, -⟩ | ⟨none, -, -⟩
    · rw [begins] at starts
      cases List.mem_singleton.1 starts
      rw [same]
      refine ⟨fun e member => Nat.ne_of_lt ?_, (lives.untouched _ (Nat.le_refl _)).1,
        (SortedMap.get?_insert _ _ _ _).trans (if_pos rfl), (SortedMap.get?_insert _ _ _ _).trans (if_pos rfl)⟩
      rw [← List.mem_range, ← lives.numbered]
      exact List.mem_map_of_mem member
    · cases starts
    · rw [none] at starts
      cases starts
  · obtain ⟨n, -, state⟩ := holds u w c found phase
    rw [untaken] at state
    rw [state]
    exact ⟨rfl, rfl, rfl⟩

end Reached

/-! ### Room for tasks -/

/-- An action adds no more than one route. -/
theorem size_routes_act (E : Setting ρ σ) (s : Service ρ σ) (a : Action ρ σ) :
    (s.act E a).routes.size ≤ s.routes.size + 1 := by
  rcases act_cases E s a with ⟨t, -, -, free, same⟩ | ⟨u, w, rfl, found⟩ | ⟨-, -, keeps⟩
  · rw [same]
    exact Nat.le_of_eq (SortedMap.size_insert free)
  · show (s.work E u).routes.size ≤ _
    rw [routes_work found]
    split
    · exact Nat.le_succ_of_le (SortedMap.size_erase_le _ _)
    · exact Nat.le_succ _
  · rw [keeps.routes]
    exact Nat.le_succ _

/-- A run adds no more routes than it has actions. -/
theorem size_routes_after (E : Setting ρ σ) (actions : List (Action ρ σ)) : ∀ s : Service ρ σ,
    (s.after E actions).routes.size ≤ s.routes.size + actions.length := by
  induction actions with
  | nil => exact fun s => Nat.le_refl _
  | cons a rest ih =>
    intro s
    calc ((s.act E a).after E rest).routes.size
        ≤ (s.act E a).routes.size + rest.length := ih _
      _ ≤ s.routes.size + 1 + rest.length := Nat.add_le_add_right (size_routes_act E s a) _
      _ = s.routes.size + (a :: rest).length := by rw [List.length_cons]; omega

/-- In a run that is shorter than the limit no task is refused for it. -/
theorem unlimited_of_length {config : Config} {registry : σ} (created : create config registry = .ok s)
    {actions : List (Action ρ σ)} (short : actions.length ≤ config.maxActiveTasks.toNat) :
    s.Unlimited E actions := by
  rintro before rest runtime t task limit rfl refused
  have size := size_routes_after E before s
  have none : s.routes.size = 0 := by
    obtain ⟨_, -, same⟩ := bind_eq_ok_iff.1 created
    cases same
    rfl
  rcases startTask_cases (s.after E before).config runtime t with ⟨e, otherwise, refused'⟩ | decided
  · rw [refused' _ rfl] at refused
    exact otherwise task limit (Except.error.inj refused)
  · rw [decided _ rfl] at refused
    split at refused
    · cases refused
    · split at refused
      next full =>
        rw [config_after, config_of_create created] at full
        rw [List.length_append, List.length_cons] at short
        omega
      next => cases refused

/-- The registry of the sample task answers every query always alike. -/
theorem answersAlike_sample (w : Worker Nat) (now registry registry' : Nat) :
    SampleTask.setting.AnswersAlike w now registry registry' := by
  unfold Setting.AnswersAlike
  cases w.phase with
  | starting => rfl
  | awaitingOperators due => exact fun _ => ⟨rfl, fun _ => rfl⟩
  | collecting c => exact fun _ => rfl
  | awaitingQuorums operators due => exact fun _ => rfl
  | awaitingIndices state ids due => exact fun _ => rfl

/-- Tasks do not interfere. In every run of a service each submission is decided on by the worker whose
route its call has found, and each worker begins with nothing signed. And a task goes as if all calls for
other tasks were not made, those under its own index before and after it included, whether the others
finish, fail, expire or crash: as long as no task is refused for the number of active ones, and the registry
gives the worker the same answers, its submissions enter its inbox at the same instants in the same order,
the same verdicts are given on them, and the response is the same. -/
theorem tasks_isolated (E : Setting ρ σ) {config : Config} {registry : σ} {s : Service ρ σ}
    (created : create config registry = .ok s) (actions : List (Action ρ σ)) :
    s.Separated E actions ∧ ∀ v t, (v, t) ∈ s.along E starts actions → s.Unlimited E actions →
      s.AnsweredAlike E actions v t → s.Isolated E actions v t :=
  ⟨separated_after created actions, fun _ _ began unlimited answered =>
    isolated_after created began unlimited answered⟩

/-- The third worker has the index of the first one, which has given its response, while the second one
has crashed and a call that would have started a task under an index in use was refused. -/
theorem tasks_isolated_sample_run :
    let submit (task : TaskIndex) (operator response : Nat) : Action Nat Nat :=
      .submit task (SampleTask.operatorId operator) response ⟨.ofNat 48 operator⟩ false
    let small := SampleTask.parameters 0
    let wide := { SampleTask.parameters longestSpan with index := 2 }
    let actions := [.startTask true small, .startTask true wide, .startTask true small, .work 0, .work 1,
      .work 0, .work 1, .work 0, .work 1, submit 1 1 7, submit 2 1 7, submit 1 3 7, submit 2 3 7, .poll 0,
      .poll 0, .poll 1, .poll 1, .poll 2, .poll 2, .poll 3, .poll 3, .work 1, .work 0, .work 1, .work 0, .work 0,
      .poll 0, .startTask true small, .work 2, submit 1 2 8, .work 2, .poll 4, .poll 4, .work 2, submit 1 1 7,
      submit 1 3 7, .poll 5, .poll 5, .poll 6, .poll 6, .poll 1, .work 2, .work 2, .work 2, .work 2, .poll 4,
      .poll 5, .poll 6]
    ∃ s : Service Nat Nat, create .default 0 = .ok s ∧
      s.along SampleTask.setting starts actions = [(0, small), (1, wide), (2, small)] ∧
      (s.along SampleTask.setting (endings SampleTask.setting) actions).map
        (fun e => (e.1, e.2.isSome)) = [(1, false), (0, true), (2, true)] ∧
      s.ownCalls SampleTask.setting actions 2 = [4, 5, 6] ∧
      (s.alone SampleTask.setting actions 2 small).length = 20 ∧
      s.Separated SampleTask.setting actions ∧ s.Unlimited SampleTask.setting actions ∧
      s.AnsweredAlike SampleTask.setting actions 2 small ∧ s.Isolated SampleTask.setting actions 2 small := by
  intro submit small wide actions
  have created : create Config.default 0 = .ok (_ : Service Nat Nat) := rfl
  obtain ⟨separated, isolated⟩ := tasks_isolated SampleTask.setting created actions
  have short : actions.length ≤ Config.default.maxActiveTasks.toNat := by decide +kernel
  have unlimited := unlimited_of_length (E := SampleTask.setting) created short
  refine ⟨_, created, by decide +kernel, by decide +kernel, by decide +kernel, by decide +kernel, separated,
    unlimited, ?_, isolated 2 small ?_ unlimited ?_⟩
  · exact fun _ _ _ _ _ => answersAlike_sample _ _ _ _
  · decide +kernel
  · exact fun _ _ _ _ _ => answersAlike_sample _ _ _ _

end Run

end Service

end Attestation
