/-
Module: Attestation.Proofs.Initialization
Purpose: A call that starts a task starts it or changes nothing, and the first check that fails says why.
  The table of routes has one entry for each running worker, never more than the limit, and a worker that
  ends, in whatever way, leaves its place to another.
Main exports: SortedMap.size_insert, SortedMap.size_erase, Service.refusals, Service.refusal?,
  Service.CannotMakeInbox, Service.startTask_eq, Service.Initializes, Service.Tabled, Service.Frees,
  Service.tabled_after, Service.initialization
-/
import Attestation.Proofs.Lifecycle

namespace Attestation

namespace SortedMap

variable {κ ν : Type} [Ord κ] {m : SortedMap κ ν} {k : κ} {v : ν}

/-- An erased key makes a map no larger. -/
theorem size_erase_le (m : SortedMap κ ν) (k : κ) : (m.erase k).size ≤ m.size := List.length_filter_le _ _

theorem size_eq_keys (m : SortedMap κ ν) : m.size = m.keys.length := (List.length_map _).symm

theorem contains_eq_false (absent : m.get? k = none) : m.contains k = false := by
  unfold contains
  rw [absent]
  rfl

variable [Std.TransOrd κ] [Std.LawfulEqOrd κ] [DecidableEq κ]

/-- A new key is one more. -/
theorem keys_insert_perm (absent : m.get? k = none) : (m.insert k v).keys.Perm (k :: m.keys) := by
  have fresh : k ∉ m.keys := by
    rw [mem_keys_iff, contains_eq_false absent]
    exact Bool.false_ne_true
  refine (List.perm_ext_iff_of_nodup (m.insert k v).nodup_keys (List.nodup_cons.2 ⟨fresh, m.nodup_keys⟩)).2 ?_
  intro k'
  rw [mem_keys_iff, contains_insert, List.mem_cons, mem_keys_iff]
  simp

/-- A new key makes a map larger by one. -/
theorem size_insert (absent : m.get? k = none) : (m.insert k v).size = m.size + 1 := by
  rw [size_eq_keys, size_eq_keys, (keys_insert_perm absent).length_eq, List.length_cons]

/-- A key that was there is one less. -/
theorem size_erase (present : m.get? k = some v) : (m.erase k).size + 1 = m.size := by
  have absent : (m.erase k).get? k = none := by rw [get?_erase, if_pos rfl]
  have same : (m.erase k).insert k v = m := by
    apply ext_get?
    intro k'
    rw [get?_insert, get?_erase]
    split
    next own => rw [own, present]
    next => rfl
  rw [← size_insert (v := v) absent, same]

end SortedMap

namespace Service

variable {ρ σ : Type}

/-! ### Calls that start tasks -/

/-- The checks that a call for a task has to pass, in their order: each is passed or gives its error. -/
def refusals (s : Service ρ σ) (runtime : Bool) (t : TaskParameters) : List (Option AggregationError) :=
  [ match t.validate with
      | .error reason => some (.invalidTaskParameters t.index reason)
      | .ok () => none,
    if runtime then none else some (.runtimeUnavailable t.index),
    if s.isTaskActive t.index then some (.alreadyInitialized t.index) else none,
    if s.activeTaskCount < s.config.maxActiveTasks.toNat then none
      else some (.tooManyActiveTasks t.index s.config.maxActiveTasks) ]

/-- The error of the first check that is not passed. -/
def refusal? (s : Service ρ σ) (runtime : Bool) (t : TaskParameters) : Option AggregationError :=
  (s.refusals runtime t).findSome? id

/-- The call comes to the point where the inbox is made, and an inbox of the configured capacity cannot
be. -/
def CannotMakeInbox (s : Service ρ σ) (runtime : Bool) (t : TaskParameters) : Prop :=
  t.validate = .ok () ∧ runtime = true ∧ largestInbox < s.config.inboxCapacity.toNat

/-- What a call that starts a task does. -/
structure Initializes (E : Setting ρ σ) (s : Service ρ σ) (runtime : Bool) (t : TaskParameters) : Prop where
  /-- The first check that fails is reported; the task is started if none does. -/
  result : ¬ s.CannotMakeInbox runtime t → s.startTask runtime t =
    match s.refusal? runtime t with
    | some e => .error (.error e)
    | none => .ok (s.launch t)
  crash : s.CannotMakeInbox runtime t → s.startTask runtime t = .error .crash
  /-- A call that fails is as if it had not been made, for the state and for all that is read later. -/
  refused : ∀ e, s.startTask runtime t = .error e → ∀ later,
    s.after E (.startTask runtime t :: later) = s.after E later ∧
    s.along E deliveries (.startTask runtime t :: later) = s.along E deliveries later
  /-- A call that succeeds adds one route, for an index that had none, and one worker. -/
  started : ∀ next, s.startTask runtime t = .ok next → s.act E (.startTask runtime t) = next ∧
    s.routes.get? t.index = none ∧ next.routes = s.routes.insert t.index s.started ∧
    next.routes.size = s.routes.size + 1 ∧
    s.workers.get? s.started = none ∧ next.workers = s.workers.insert s.started ⟨t, [], .starting⟩ ∧
    next.workers.size = s.workers.size + 1

/-- The end of a worker, with a response or by a crash, frees its place: only its route is removed, and a
task of its index can be started again. -/
structure Frees (E : Setting ρ σ) (s : Service ρ σ) (a : Action ρ σ) (id : WorkerId) (w : Worker ρ) :
    Prop where
  routes : (s.act E a).routes = s.routes.erase w.task
  workers : (s.act E a).workers = s.workers.erase id
  count : (s.act E a).activeTaskCount + 1 = s.activeTaskCount
  inactive : (s.act E a).isTaskActive w.task = false
  reusable : ∀ t, t.validate = .ok () → t.index = w.task → (s.act E a).refusal? true t = none

/-- The table of a service in a state that can be reached. -/
structure Tabled (E : Setting ρ σ) (limit : Nat) (s : Service ρ σ) : Prop where
  bounded : s.routes.size ≤ limit
  /-- The routes lead to the running workers, one to each. -/
  routed : s.routes.values.Perm s.workers.keys
  own : ∀ i id, s.routes.get? i = some id ↔ ∃ w, s.workers.get? id = some w ∧ w.task = i
  active : ∀ i, s.isTaskActive i = true ↔ ∃ id w, s.workers.get? id = some w ∧ w.task = i
  count : s.activeTaskCount = s.workers.size
  freed : ∀ a id ending, (id, ending) ∈ s.endings E a → ∃ w, s.workers.get? id = some w ∧ s.Frees E a id w

section Starting

variable {s : Service ρ σ} {runtime : Bool} {t : TaskParameters}

/-- Where inboxes can be made, the first check that fails decides. -/
theorem startTask_eq (makes : ¬ s.CannotMakeInbox runtime t) : s.startTask runtime t =
    match s.refusal? runtime t with
    | some e => .error (.error e)
    | none => .ok (s.launch t) := by
  unfold CannotMakeInbox at makes
  unfold startTask refusal? refusals isTaskActive activeTaskCount
  cases valid : t.validate with
  | error reason => rfl
  | ok _ =>
    cases runtime with
    | false => rfl
    | true =>
      have fits : ¬ largestInbox < s.config.inboxCapacity.toNat := fun large => makes ⟨valid, rfl, large⟩
      dsimp only
      rw [if_neg (by simp), if_neg fits]
      cases s.routes.contains t.index with
      | true => rfl
      | false =>
        by_cases room : s.routes.size < s.config.maxActiveTasks.toNat
        · rw [if_neg (Nat.not_le.2 room), if_pos room]
          rfl
        · rw [if_pos (Nat.not_lt.1 room), if_neg room]
          rfl

/-- Where the inbox cannot be made, to start the task crashes. -/
theorem startTask_crash (cannot : s.CannotMakeInbox runtime t) : s.startTask runtime t = .error .crash := by
  obtain ⟨valid, rfl, large⟩ := cannot
  unfold startTask
  rw [valid]
  dsimp only
  rw [if_neg (by simp), if_pos large]

/-- A task is started only while there is room for one more. -/
theorem room_of_startTask {next : Service ρ σ} (done : s.startTask runtime t = .ok next) :
    s.routes.size < s.config.maxActiveTasks.toNat := by
  by_cases cannot : s.CannotMakeInbox runtime t
  · rw [startTask_crash cannot] at done
    cases done
  · rw [startTask_eq cannot] at done
    split at done
    next => cases done
    next passed =>
      have last := List.findSome?_eq_none_iff.1 passed _
        (List.mem_cons_of_mem _ (List.mem_cons_of_mem _ (List.mem_cons_of_mem _ List.mem_cons_self)))
      by_contra full
      unfold activeTaskCount at last
      rw [if_neg full] at last
      cases last

theorem initializes (E : Setting ρ σ) (s : Service ρ σ) (fresh : s.workers.get? s.started = none)
    (runtime : Bool) (t : TaskParameters) : s.Initializes E runtime t where
  result := startTask_eq
  crash := startTask_crash
  refused e refusal later := by
    have same : s.act E (.startTask runtime t) = s := by
      rw [act, refusal]
      rfl
    refine ⟨?_, ?_⟩
    · show (s.act E _).after E later = _
      rw [same]
    · show [] ++ (s.act E _).along E deliveries later = _
      rw [same, List.nil_append]
  started next done := by
    obtain ⟨free, rfl⟩ := startTask_eq_ok done
    refine ⟨?_, free, rfl, SortedMap.size_insert free, fresh, rfl, SortedMap.size_insert fresh⟩
    rw [act, done]
    rfl

end Starting

section Table

variable {E : Setting ρ σ} {started : List (WorkerId × TaskParameters)}
  {ended : List (WorkerId × Option (TaskResponse ρ))} {taken : List (WorkerId × Submission ρ)}
  {merged : List (WorkerId × Acceptance ρ)} {s : Service ρ σ}

/-! ### The table of routes

Routes and running workers go together one to one, so the size of the table is the number of running tasks,
and an end makes room for one more. -/

/-- The route of a task leads to the worker that runs it. -/
theorem own_route (lives : Lives E started ended taken merged s) (i : TaskIndex) (id : WorkerId) :
    s.routes.get? i = some id ↔ ∃ w, s.workers.get? id = some w ∧ w.task = i := by
  rw [lives.routes]
  constructor
  · rintro ⟨t, phase, works, rfl⟩
    obtain ⟨w, found, same⟩ := Option.map_eq_some_iff.1 works
    exact ⟨w, found, congrArg (·.1.index) same⟩
  · rintro ⟨w, found, rfl⟩
    exact ⟨_, _, tenure_of_get? found, rfl⟩

/-- The routes lead to the running workers, one to each. -/
theorem routed_workers (lives : Lives E started ended taken merged s) :
    s.routes.values.Perm s.workers.keys := by
  have once : s.routes.values.Nodup := by
    refine List.Nodup.map_on ?_ (s.routes.nodup_keys.of_map _)
    rintro ⟨i, id⟩ one ⟨i', id'⟩ two rfl
    -- A worker works on one task, so two routes that lead to it are the same.
    obtain ⟨w, found, rfl⟩ := (own_route lives i id).1 (SortedMap.get?_eq_some_iff.2 one)
    obtain ⟨w', found', rfl⟩ := (own_route lives i' id).1 (SortedMap.get?_eq_some_iff.2 two)
    rw [found] at found'
    cases found'
    rfl
  refine (List.perm_ext_iff_of_nodup once s.workers.nodup_keys).2 fun id => ?_
  rw [SortedMap.mem_keys_iff, SortedMap.contains_iff_exists]
  unfold SortedMap.values
  rw [List.mem_map]
  constructor
  · rintro ⟨⟨i, id⟩, member, rfl⟩
    obtain ⟨w, found, -⟩ := (own_route lives i id).1 (SortedMap.get?_eq_some_iff.2 member)
    exact ⟨w, found⟩
  · rintro ⟨w, found⟩
    exact ⟨(w.task, id), SortedMap.get?_eq_some_iff.1 ((own_route lives w.task id).2 ⟨w, found, rfl⟩), rfl⟩

/-- A worker that ends takes its route and nothing else from the table, so its place is free. -/
theorem frees_of_ending (lives : Lives E started ended taken merged s)
    (bounded : s.routes.size ≤ s.config.maxActiveTasks.toNat) {a : Action ρ σ} {id : WorkerId}
    {ending : Option (TaskResponse ρ)} (ends : (id, ending) ∈ s.endings E a) :
    ∃ w, s.workers.get? id = some w ∧ s.Frees E a id w := by
  obtain ⟨w, rfl, found, ceased⟩ := work_of_ending ends
  obtain ⟨calls, metrics, journal, noted⟩ := s.noted_frame id (w.stride E s.now s.registry)
  obtain ⟨metrics', journal', same⟩ := work_ended found ceased
  rw [noted] at same
  have route := (own_route lives w.task id).2 ⟨w, found, rfl⟩
  have count : (s.work E id).activeTaskCount + 1 = s.activeTaskCount := by
    rw [same]
    exact SortedMap.size_erase route
  have inactive : (s.work E id).isTaskActive w.task = false := by
    rw [same]
    exact SortedMap.contains_eq_false ((SortedMap.get?_erase _ _ _).trans (if_pos rfl))
  refine ⟨w, found, ?_, ?_, count, inactive, fun t valid index => ?_⟩
  · show (s.work E id).routes = _
    rw [same]
  · show (s.work E id).workers = _
    rw [same]
  · have config : (s.work E id).config = s.config := by rw [same]
    have room : (s.work E id).activeTaskCount < (s.work E id).config.maxActiveTasks.toNat := by
      rw [config]
      refine Nat.lt_of_lt_of_le ?_ bounded
      rw [← Nat.add_one_le_iff, count]
      exact Nat.le_refl _
    show ((s.work E id).refusals true t).findSome? _ = none
    unfold refusals
    rw [valid, index, inactive, if_pos room]
    rfl

end Table

/-- The limits of a service do not change. -/
theorem config_act (E : Setting ρ σ) (s : Service ρ σ) (a : Action ρ σ) : (s.act E a).config = s.config := by
  rcases act_cases E s a with ⟨t, -, -, -, same⟩ | ⟨id, w, rfl, found⟩ | ⟨-, -, keeps⟩
  · rw [same]
    rfl
  · show (s.work E id).config = s.config
    obtain ⟨calls, metrics, journal, noted⟩ := s.noted_frame id (w.stride E s.now s.registry)
    rcases (w.stride E s.now s.registry).fate.waiting_or_ending with ⟨phase, going⟩ | ⟨ending, ceased⟩
    · rw [work_waiting found going, noted]
      rfl
    · obtain ⟨metrics', journal', same⟩ := work_ended found ceased
      rw [same, noted]
  · exact keeps.config

/-- The configuration never changes. -/
theorem config_after (E : Setting ρ σ) (actions : List (Action ρ σ)) : ∀ s : Service ρ σ,
    (s.after E actions).config = s.config := by
  induction actions with
  | nil => exact fun _ => rfl
  | cons a rest ih => exact fun s => (ih (s.act E a)).trans (config_act E s a)

/-- An action that starts a task finds room for its route. -/
theorem room_of_starts {s : Service ρ σ} {a : Action ρ σ} {id : WorkerId} {t : TaskParameters}
    (starts : (id, t) ∈ s.starts a) : s.routes.size < s.config.maxActiveTasks.toNat := by
  cases a with
  | startTask runtime t' =>
    unfold Service.starts at starts
    dsimp only at starts
    split at starts
    next done => exact room_of_startTask done
    next => cases starts
  | _ => cases starts

/-- An action does not make more routes than the limit allows. -/
theorem bounded_act {E : Setting ρ σ} {s : Service ρ σ}
    (bounded : s.routes.size ≤ s.config.maxActiveTasks.toNat) (a : Action ρ σ) :
    (s.act E a).routes.size ≤ (s.act E a).config.maxActiveTasks.toNat := by
  rw [config_act]
  rcases act_cases E s a with ⟨t, starts, -, free, same⟩ | ⟨id, w, rfl, found⟩ | ⟨-, -, keeps⟩
  · have room := room_of_starts (starts ▸ List.mem_singleton_self _)
    rw [same]
    show (s.routes.insert t.index s.started).size ≤ _
    rw [SortedMap.size_insert free]
    exact room
  · show (s.work E id).routes.size ≤ _
    rw [routes_work found]
    split
    · exact Nat.le_trans (SortedMap.size_erase_le _ _) bounded
    · exact bounded
  · rw [keeps.routes]
    exact bounded

/-- There are never more routes than the limit allows. -/
theorem bounded_after (E : Setting ρ σ) {config : Config} {registry : σ} {s : Service ρ σ}
    (created : create config registry = .ok s) (actions : List (Action ρ σ)) :
    (s.after E actions).routes.size ≤ (s.after E actions).config.maxActiveTasks.toNat := by
  induction actions using List.reverseRecOn with
  | nil =>
    obtain ⟨_, -, same⟩ := bind_eq_ok_iff.1 created
    cases same
    exact Nat.zero_le _
  | append_singleton actions a ih =>
    rw [after_snoc]
    exact bounded_act ih a

theorem config_of_create {config : Config} {registry : σ} {s : Service ρ σ}
    (created : create config registry = .ok s) : s.config = config := by
  obtain ⟨_, -, same⟩ := bind_eq_ok_iff.1 created
  cases same
  rfl

/-- The table of routes is right after every list of actions. -/
theorem tabled_after (E : Setting ρ σ) {config : Config} {registry : σ} {s : Service ρ σ}
    (created : create config registry = .ok s) (actions : List (Action ρ σ)) :
    (s.after E actions).Tabled E config.maxActiveTasks.toNat := by
  have lives := lives_after E created actions
  have bounded := bounded_after E created actions
  have routed := routed_workers lives
  have count : (s.after E actions).activeTaskCount = (s.after E actions).workers.size := by
    rw [SortedMap.size_eq_keys, ← routed.length_eq]
    exact (List.length_map _).symm
  refine ⟨?_, routed, own_route lives, fun i => ?_, count, fun _ _ _ ends => frees_of_ending lives bounded ends⟩
  · rw [config_after, config_of_create created] at bounded
    exact bounded
  · unfold isTaskActive
    rw [SortedMap.contains_iff_exists]
    exact exists_congr fun id => own_route lives i id

/-- In every state that can be reached, whatever tasks were started, have ended or have crashed: a call
that starts a task reports the first check that fails and changes nothing, or starts one worker with one
route; the routes are those of the running workers, within the limit; and who ends leaves its place. Only
where the inbox cannot be made the call crashes, and changes nothing either. -/
theorem initialization (E : Setting ρ σ) {config : Config} {registry : σ} {s : Service ρ σ}
    (created : create config registry = .ok s) (actions : List (Action ρ σ)) :
    (s.after E actions).Tabled E config.maxActiveTasks.toNat ∧
    ∀ runtime t, (s.after E actions).Initializes E runtime t := by
  refine ⟨tabled_after E created actions, initializes E _ ?_⟩
  have lives := lives_after E created actions
  rw [Option.eq_none_iff_forall_ne_some]
  intro w found
  exact Nat.lt_irrefl _ (lives.lt_of_tenure (tenure_of_get? found))

/-- With room for one task: a second one is refused, and so is the first again, until its worker has ended
without having been sent anything; then the second may be started. -/
theorem initialization_sample_run :
    let first := SampleTask.parameters 0
    let second := { first with index := 2 }
    let actions := [.startTask true first, .startTask true second, .work 0, .work 0, .work 0]
    let later := actions ++ [.advance 100, .work 0]
    ∃ s : Service Nat Nat, create ⟨1024, 1⟩ 0 = .ok s ∧
      (s.after SampleTask.setting actions).refusal? true second = some (.tooManyActiveTasks 2 1) ∧
      (s.after SampleTask.setting actions).refusal? true first = some (.alreadyInitialized 1) ∧
      (s.after SampleTask.setting actions).activeTaskCount = 1 ∧
      (s.after SampleTask.setting actions).Initializes SampleTask.setting true second ∧
      (s.after SampleTask.setting later).refusal? true second = none ∧
      (s.after SampleTask.setting later).Initializes SampleTask.setting true second ∧
      (s.after SampleTask.setting later).Tabled SampleTask.setting 1 := by
  intro first second actions later
  have created : create ⟨1024, 1⟩ 0 = .ok (_ : Service Nat Nat) := rfl
  obtain ⟨-, calls⟩ := initialization SampleTask.setting created actions
  obtain ⟨tabled, later_calls⟩ := initialization SampleTask.setting created later
  exact ⟨_, created, by decide +kernel, by decide +kernel, by decide +kernel, calls true second,
    by decide +kernel, later_calls true second, tabled⟩

/-- Nothing is wrong with the limits and every check is passed, and yet the call crashes: the inbox is
larger than any that can be made. -/
theorem crash_of_large_inbox :
    let config : Config := ⟨2305843009213693952, 1⟩
    let t := SampleTask.parameters 0
    config.validate = .ok () ∧ ∃ s : Service Nat Nat, create config 0 = .ok s ∧
      s.refusal? true t = none ∧ s.startTask true t = .error .crash :=
  ⟨rfl, _, rfl, rfl, rfl⟩

end Service

end Attestation
