/-
Module: Attestation.Proofs.Lifecycle
Purpose: From the start of a task to its end. Every task that was ever started has a worker that runs and
  is found under the task's index, or has given one response, or has crashed. The responses are what
  workers gave, in the order in which their routes were removed, whenever somebody comes to read them,
  and from its response on a task is inactive until one is started under the same index.
Main exports: answersOf, Service.deliveries, Stream, Service.stream_after, TaskResponse.IsFor,
  Service.removals, Service.Running, Service.Finished, Service.Crashed, Service.Lifecycle,
  Service.lifecycle
-/
import Attestation.Proofs.Tenures

namespace Attestation

/-! ### The stream

Responses come in the order in which workers end. The receiver has had the first of them; those that came
after it was dropped are discarded. -/

/-- The responses among the ends of workers. -/
def answersOf {ρ : Type} (ended : List (WorkerId × Option (TaskResponse ρ))) :
    List (WorkerId × TaskResponse ρ) :=
  ended.filterMap fun e => e.2.map (e.1, ·)

/-- The response that an action reads. -/
def Service.deliveries {ρ σ : Type} (s : Service ρ σ) : Service.Action ρ σ → List (TaskResponse ρ)
  | .receive => if s.receiver = .claimed then s.receive.1.toList else []
  | _ => []

namespace Service

variable {ρ σ : Type} {E : Setting ρ σ} {s : Service ρ σ}

/-- Nothing was put on the stream or read, and it is open if it is open now. -/
structure SameStream (s s' : Service ρ σ) : Prop where
  responses : s'.responses = s.responses
  received : s'.received = s.received
  receiver : s'.receiver ≠ .dropped → s.receiver ≠ .dropped

theorem sameStream_refl (s : Service ρ σ) : SameStream s s := ⟨rfl, rfl, fun kept => kept⟩

/-- A step of a call has nothing to do with the stream. -/
theorem sameStream_poll (id : CallId) : SameStream s (s.poll id).service := by
  have look := s.look_poll id
  generalize s.poll id = polled at look
  cases look with
  | @abandoned call _ _ =>
    obtain ⟨calls, journal, same⟩ := s.abandon_frame id call
    rw [same]
    exact ⟨rfl, rfl, fun kept => kept⟩
  | _ => exact ⟨rfl, rfl, fun kept => kept⟩

/-- Only workers put responses on the stream, and only reading takes them from it. -/
theorem sameStream_act {a : Action ρ σ} (idle : ∀ id, a ≠ .work id) (unread : a ≠ .receive) :
    SameStream s (s.act E a) := by
  cases a with
  | work id => exact absurd rfl (idle id)
  | receive => exact absurd rfl unread
  | poll id => exact sameStream_poll id
  | startTask runtime t =>
    rcases act_startTask E s runtime t with ⟨-, -, same⟩ | ⟨-, same⟩ <;> rw [same]
    · exact ⟨rfl, rfl, fun kept => kept⟩
    · exact sameStream_refl s
  | submit task operator response signature cancelled =>
    rw [act, submit]
    split <;> exact ⟨rfl, rfl, fun kept => kept⟩
  | cancel id =>
    rw [act, cancel]
    split <;> exact ⟨rfl, rfl, fun kept => kept⟩
  | claimStream =>
    unfold act claimStream
    dsimp only
    split
    next unclaimed => exact ⟨rfl, rfl, fun _ => by simp [unclaimed]⟩
    next => exact ⟨rfl, rfl, fun kept => kept⟩
  | dropStream =>
    unfold act dropStream
    dsimp only
    split
    next => exact ⟨rfl, rfl, fun kept => absurd rfl kept⟩
    next => exact ⟨rfl, rfl, fun kept => kept⟩
  | _ => exact ⟨rfl, rfl, fun kept => kept⟩

end Service

/-- The responses of a service beside the ends of its workers and what was read. -/
structure Stream {ρ σ : Type} (ended : List (WorkerId × Option (TaskResponse ρ)))
    (delivered : List (TaskResponse ρ)) (s : Service ρ σ) : Prop where
  sent : s.responses <+: answersOf ended
  complete : s.receiver ≠ .dropped → s.responses = answersOf ended
  bounded : s.received ≤ s.responses.length
  delivered : delivered = (s.responses.take s.received).map (·.2)

namespace Stream

open Service

variable {ρ σ : Type} {E : Setting ρ σ} {ended : List (WorkerId × Option (TaskResponse ρ))}
  {delivered : List (TaskResponse ρ)} {s s' : Service ρ σ}

/-- Where the stream is the same, it holds what was answered. -/
theorem keep (stream : Stream ended delivered s) (same : SameStream s s') : Stream ended delivered s' where
  sent := by rw [same.responses]; exact stream.sent
  complete kept := by rw [same.responses]; exact stream.complete (same.receiver kept)
  bounded := by rw [same.responses, same.received]; exact stream.bounded
  delivered := by rw [same.responses, same.received]; exact stream.delivered

/-- A worker that ends puts its response at the end of the stream, unless the receiver is gone. -/
theorem work (stream : Stream ended delivered s) {id : WorkerId} {w : Worker ρ}
    (found : s.workers.get? id = some w) :
    Stream (ended ++ s.endings E (.work id)) delivered (s.work E id) := by
  obtain ⟨calls, metrics, journal, noted⟩ := s.noted_frame id (w.stride E s.now s.registry)
  rw [endings_work found]
  rcases (w.stride E s.now s.registry).fate.waiting_or_ending with ⟨phase, going⟩ | ⟨ending, ceased⟩
  · rw [going, work_waiting found going, noted]
    show Stream (ended ++ []) delivered _
    rw [List.append_nil]
    exact stream.keep ⟨rfl, rfl, fun kept => kept⟩
  · rw [ceased]
    obtain ⟨metrics', journal', same⟩ := work_ended found ceased
    rw [noted] at same
    have answers : answersOf (ended ++ [(id, ending)]) =
        answersOf ended ++ (ending.map (id, ·)).toList := by
      unfold answersOf
      rw [List.filterMap_append]
      cases ending <;> rfl
    rw [Option.toList_some, List.map_singleton]
    by_cases dropped : s.receiver = .dropped
    · rw [if_pos dropped, List.append_nil] at same
      rw [same]
      refine ⟨?_, fun kept => absurd dropped kept, stream.bounded, stream.delivered⟩
      rw [answers]
      exact stream.sent.trans (List.prefix_append _ _)
    · rw [if_neg dropped] at same
      have all := stream.complete dropped
      rw [same]
      refine ⟨?_, fun _ => ?_, ?_, ?_⟩
      · exact ⟨[], by rw [answers, ← all, List.append_nil]⟩
      · rw [answers, ← all]
      · rw [List.length_append]
        exact Nat.le_add_right_of_le stream.bounded
      · rw [List.take_append_of_le_length stream.bounded]
        exact stream.delivered

/-- The receiver takes the first response that it has not had. -/
theorem receive (stream : Stream ended delivered s) :
    Stream ended (delivered ++ s.receive.1.toList) s.receive.2 := by
  unfold Service.receive
  cases next : s.responses[s.received]? with
  | none =>
    rw [Option.toList_none, List.append_nil]
    exact stream
  | some e =>
    obtain ⟨inside, rfl⟩ := List.getElem?_eq_some_iff.1 next
    refine ⟨stream.sent, stream.complete, inside, ?_⟩
    rw [stream.delivered]
    show _ = (s.responses.take (s.received + 1)).map (·.2)
    rw [List.take_succ_eq_append_getElem inside, List.map_append]
    rfl

/-- Every action keeps the stream in order. -/
theorem act (stream : Stream ended delivered s) (a : Action ρ σ) :
    Stream (ended ++ s.endings E a) (delivered ++ s.deliveries a) (s.act E a) := by
  have others : (s.endings E a = [] ∧ s.deliveries a = [] ∧ SameStream s (s.act E a)) →
      Stream (ended ++ s.endings E a) (delivered ++ s.deliveries a) (s.act E a) := by
    rintro ⟨endings, deliveries, same⟩
    rw [endings, deliveries, List.append_nil, List.append_nil]
    exact stream.keep same
  cases a with
  | work id =>
    cases found : s.workers.get? id with
    | some w =>
      show Stream _ (delivered ++ []) _
      rw [List.append_nil]
      exact stream.work found
    | none =>
      refine others ⟨(idles_of_gone found).endings, rfl, ?_⟩
      rw [work_of_gone found]
      exact sameStream_refl s
  | receive =>
    by_cases claimed : s.receiver = .claimed
    · have delivered : s.deliveries .receive = s.receive.1.toList := if_pos claimed
      have same : s.act E .receive = s.receive.2 := if_pos claimed
      rw [delivered, same]
      show Stream (ended ++ []) _ _
      rw [List.append_nil]
      exact stream.receive
    · have same : s.act E .receive = s := if_neg claimed
      exact others ⟨rfl, if_neg claimed, by rw [same]; exact sameStream_refl s⟩
  | _ => exact others ⟨rfl, rfl, sameStream_act nofun nofun⟩

end Stream

/-- The stream is in order after every list of actions. -/
theorem Service.stream_after {ρ σ : Type} (E : Setting ρ σ) {config : Config} {registry : σ}
    {s : Service ρ σ} (created : create config registry = .ok s) (actions : List (Action ρ σ)) :
    Stream (s.along E (endings E) actions) (s.along E deliveries actions) (s.after E actions) := by
  induction actions using List.reverseRecOn with
  | nil =>
    obtain ⟨_, -, same⟩ := bind_eq_ok_iff.1 created
    cases same
    exact ⟨List.nil_prefix, fun _ => rfl, Nat.le_refl 0, rfl⟩
  | append_singleton actions a ih =>
    rw [along_snoc, along_snoc, after_snoc]
    exact ih.act a

/-! ### Workers and their responses -/

theorem mem_of_filter {α : Type} {l : List α} {keep : α → Bool} {x : α} (alone : l.filter keep = [x]) :
    x ∈ l :=
  List.mem_of_mem_filter (p := keep) (alone ▸ List.mem_singleton_self x)

/-- In a list in which no key comes twice the entries under a key are one. -/
theorem filter_eq_singleton {κ α : Type} [DecidableEq κ] {l : List (κ × α)} {k : κ} {v : α}
    (once : (l.map (·.1)).Nodup) (member : (k, v) ∈ l) : l.filter (·.1 = k) = [(k, v)] := by
  induction l with
  | nil => cases member
  | cons e rest ih =>
    rw [List.map_cons, List.nodup_cons] at once
    have absent : e.1 = k → rest.filter (·.1 = k) = [] := by
      rintro rfl
      refine List.filter_eq_nil_iff.2 fun x inside same => once.1 ?_
      rw [← of_decide_eq_true same]
      exact List.mem_map_of_mem inside
    rcases List.mem_cons.1 member with rfl | later
    · rw [List.filter_cons_of_pos (by simp), absent rfl]
    · have other : e.1 ≠ k := fun same => once.1 (same ▸ List.mem_map_of_mem later)
      rw [List.filter_cons_of_neg (by simpa using other), ih once.2 later]

/-- Answers are the responses of workers that have not crashed. -/
theorem mem_answersOf {ρ : Type} {ended : List (WorkerId × Option (TaskResponse ρ))} {id : WorkerId}
    {response : TaskResponse ρ} : (id, response) ∈ answersOf ended ↔ (id, some response) ∈ ended := by
  unfold answersOf
  rw [List.mem_filterMap]
  constructor
  · rintro ⟨⟨id', given⟩, member, same⟩
    obtain ⟨response', rfl, same⟩ := Option.map_eq_some_iff.1 same
    cases same
    exact member
  · intro member
    exact ⟨_, member, rfl⟩

theorem nodup_answersOf {ρ : Type} {ended : List (WorkerId × Option (TaskResponse ρ))}
    (once : (ended.map (·.1)).Nodup) : ((answersOf ended).map (·.1)).Nodup := by
  refine once.sublist ?_
  clear once
  induction ended with
  | nil => exact .slnil
  | cons e rest ih =>
    obtain ⟨id, _ | response⟩ := e
    · exact ih.cons id
    · exact ih.cons_cons id

/-- A response names the task; an error is one of those with which the task may end. -/
def TaskResponse.IsFor {ρ : Type} (task : TaskIndex) : TaskResponse ρ → Prop
  | .ok result => result.task = task
  | .error e => e.Terminal task

/-- A response that fits a task names it. -/
theorem TaskResponse.Fits.isFor {ρ σ : Type} {E : Setting ρ σ} {t : TaskParameters}
    {taken : List (Submission ρ)} {merged : List (Acceptance ρ)} {response : TaskResponse ρ}
    (fits : response.Fits E t taken merged) : response.IsFor t.index := by
  cases response with
  | error e => exact fits
  | ok result =>
    obtain ⟨n, indices, s, -, arises, built⟩ := fits
    have prevails := TaskState.prevails_after E.judge t n taken
    rw [← arises.state] at prevails
    unfold TaskState.result? at built
    obtain ⟨⟨d, r⟩, -, built⟩ := Option.bind_eq_some_iff.1 built
    obtain ⟨g, -, built⟩ := Option.bind_eq_some_iff.1 built
    cases built
    exact congrArg TaskParameters.index prevails.parameters

namespace Service

variable {ρ σ : Type}

/-! ### The ends of a worker -/

/-- The routes that an action removes. -/
def removals (E : Setting ρ σ) (s : Service ρ σ) (a : Action ρ σ) : List (TaskIndex × WorkerId) :=
  s.routes.toList.filter fun e => !(s.act E a).routes.contains e.1

/-- The worker is not there any more, nor a route to it. -/
structure Gone (s : Service ρ σ) (id : WorkerId) : Prop where
  idle : s.workers.get? id = none
  unrouted : ∀ task, s.routes.get? task ≠ some id

/-- The task has a worker, which is found under its index and has given no response. -/
structure Running (s : Service ρ σ) (id : WorkerId) (t : TaskParameters) : Prop where
  works : ∃ w, s.workers.get? id = some w ∧ w.parameters = t
  routed : s.routes.get? t.index = some id
  silent : ∀ response, (id, response) ∉ s.responses

/-- The worker has given one response for the task, which is on the stream if that is open. -/
structure Finished (ended : List (WorkerId × Option (TaskResponse ρ))) (s : Service ρ σ) (id : WorkerId)
    (t : TaskParameters) : Prop where
  gone : s.Gone id
  response : ∃ response : TaskResponse ρ, response.IsFor t.index ∧
    ended.filter (·.1 = id) = [(id, some response)] ∧
    (s.receiver ≠ .dropped → s.responses.filter (·.1 = id) = [(id, response)])

/-- The worker has crashed for a reason, and no response of it ever comes. -/
structure Crashed (E : Setting ρ σ) (s : Service ρ σ) (actions : List (Action ρ σ)) (id : WorkerId) :
    Prop where
  gone : (s.after E actions).Gone id
  ended : (s.along E (endings E) actions).filter (·.1 = id) = [(id, none)]
  silent : ∀ later response, (id, response) ∉ (s.after E (actions ++ later)).responses
  cause : ∃ before rest w, actions = before ++ .work id :: rest ∧
    (s.after E before).workers.get? id = some w ∧
    (E.Crashes w (s.after E before).registry ∨ w.Overruns E.judge (s.after E before).now)

/-- What becomes of the tasks of a service in the course of some actions. -/
structure Lifecycle (E : Setting ρ σ) (s : Service ρ σ) (actions : List (Action ρ σ)) : Prop where
  /-- Every task that was ever started runs, has finished or has crashed, and one of these only. -/
  stages : ∀ id t, (id, t) ∈ s.along E starts actions →
    let running := (s.after E actions).Running id t
    let finished := Finished (s.along E (endings E) actions) (s.after E actions) id t
    let crashed := s.Crashed E actions id
    (running ∧ ¬ finished ∧ ¬ crashed) ∨ (¬ running ∧ finished ∧ ¬ crashed) ∨
      (¬ running ∧ ¬ finished ∧ crashed)
  /-- Workers end when their routes are removed. -/
  order : (s.along E (removals E) actions).map (·.2) = (s.along E (endings E) actions).map (·.1)
  /-- The responses are those of the workers that have ended, in that order; none is missing unless the
  receiving end was dropped. -/
  sent : (s.after E actions).responses <+: answersOf (s.along E (endings E) actions)
  complete : (s.after E actions).receiver ≠ .dropped →
    (s.after E actions).responses = answersOf (s.along E (endings E) actions)
  /-- What was read are the first of the responses. -/
  delivered : s.along E deliveries actions =
    ((s.after E actions).responses.take (s.after E actions).received).map (·.2)
  /-- From its response on a task is inactive until one is started under the same index. -/
  inactive : ∀ before a rest id t response, actions = before ++ a :: rest →
    (id, t) ∈ s.along E starts before → (id, some response) ∈ (s.after E before).endings E a →
    (∀ e ∈ ((s.after E before).act E a).along E starts rest, e.2.index ≠ t.index) →
    (s.after E actions).isTaskActive t.index = false ∧
    ∀ operator submitted signature cancelled,
      (s.after E actions).submit t.index operator submitted signature cancelled =
        .error (.taskNotFound t.index)

variable {E : Setting ρ σ} {started : List (WorkerId × TaskParameters)}
  {ended : List (WorkerId × Option (TaskResponse ρ))} {taken : List (WorkerId × Submission ρ)}
  {merged : List (WorkerId × Acceptance ρ)} {s : Service ρ σ}

/-- A worker that has ended is gone. -/
theorem gone_of_ended (lives : Lives E started ended taken merged s) {id : WorkerId}
    (ceased : id ∈ ended.map (·.1)) : s.Gone id := by
  have absent : s.tenure id = none := by
    rw [Option.eq_none_iff_forall_ne_some]
    rintro ⟨t, phase⟩ works
    exact (lives.working id t phase works).2.1 ceased
  refine ⟨Option.map_eq_none_iff.1 absent, fun task found => ?_⟩
  obtain ⟨t, phase, works, -⟩ := (lives.routes task id).1 found
  rw [absent] at works
  cases works

/-- A worker that was started and has not ended runs, and nothing was answered for it. -/
theorem running_of_open (lives : Lives E started ended taken merged s) {delivered : List (TaskResponse ρ)}
    (stream : Stream ended delivered s) {id : WorkerId} {t : TaskParameters} (began : (id, t) ∈ started)
    (going : id ∉ ended.map (·.1)) : s.Running id t := by
  obtain ⟨phase, works⟩ := lives.running id t began going
  obtain ⟨w, found, same⟩ := Option.map_eq_some_iff.1 works
  refine ⟨⟨w, found, congrArg Prod.fst same⟩, (lives.routes t.index id).2 ⟨t, phase, works, rfl⟩, ?_⟩
  intro response member
  exact going (List.mem_map_of_mem (mem_answersOf.1 (stream.sent.subset member)))

/-- A worker that has ended with a response has one in the stream. -/
theorem finished_of_response (lives : Lives E started ended taken merged s)
    {delivered : List (TaskResponse ρ)} (stream : Stream ended delivered s) {id : WorkerId}
    {t : TaskParameters} (began : (id, t) ∈ started) {response : TaskResponse ρ}
    (ceased : (id, some response) ∈ ended) : Finished ended s id t := by
  obtain ⟨t', began', fits⟩ := lives.fitting _ ceased
  cases lives.parameters_unique began began'
  refine ⟨gone_of_ended lives (List.mem_map_of_mem ceased), response, (fits response rfl).isFor,
    filter_eq_singleton lives.once ceased, fun kept => ?_⟩
  rw [stream.complete kept]
  exact filter_eq_singleton (nodup_answersOf lives.once) (mem_answersOf.2 ceased)

/-- A worker that has ended without a response has crashed, for one of two causes. -/
theorem crashed_of_ending {config : Config} {registry : σ} (created : create config registry = .ok s)
    {actions : List (Action ρ σ)} {id : WorkerId}
    (ceased : (id, none) ∈ s.along E (endings E) actions) : s.Crashed E actions id := by
  have lives := lives_after E created actions
  refine ⟨gone_of_ended lives (List.mem_map_of_mem ceased), filter_eq_singleton lives.once ceased,
    fun later response member => ?_, ?_⟩
  · have later' := (stream_after E created (actions ++ later)).sent.subset member
    have two := mem_answersOf.1 later'
    have one : (id, none) ∈ s.along E (endings E) (actions ++ later) := by
      rw [along_append]
      exact List.mem_append_left _ ceased
    cases value_unique (lives_after E created (actions ++ later)).once one two
  · obtain ⟨before, a, rest, split, ends⟩ := mem_along.1 ceased
    obtain ⟨w, rfl, found, ended⟩ := work_of_ending ends
    obtain ⟨-, -, holds⟩ := (lives_after E created before).working _ _ _ (tenure_of_get? found)
    refine ⟨before, rest, w, split, found, (Worker.holds_stride _ _ holds).crashed ?_⟩
    exact crashed_of_ending? ended

/-! ### Routes -/

/-- A stride removes the route of its worker if the worker ends, and no other. -/
theorem routes_work {id : WorkerId} {w : Worker ρ} (found : s.workers.get? id = some w) :
    (s.work E id).routes = if (w.stride E s.now s.registry).fate.ending?.isSome
      then s.routes.erase w.task else s.routes := by
  obtain ⟨calls, metrics, journal, noted⟩ := s.noted_frame id (w.stride E s.now s.registry)
  rcases (w.stride E s.now s.registry).fate.waiting_or_ending with ⟨phase, going⟩ | ⟨ending, ceased⟩
  · rw [work_waiting found going, noted, going]
    rfl
  · obtain ⟨metrics', journal', same⟩ := work_ended found ceased
    rw [same, ceased]
    rfl

/-- A route that is not there only comes with a task of its index. -/
theorem unrouted_act {task : TaskIndex} (absent : s.routes.get? task = none) {a : Action ρ σ}
    (others : ∀ e ∈ s.starts a, e.2.index ≠ task) : (s.act E a).routes.get? task = none := by
  rcases act_cases E s a with ⟨t, starts, -, -, same⟩ | ⟨id, w, rfl, found⟩ | ⟨-, -, keeps⟩
  · rw [starts, List.forall_mem_singleton] at others
    rw [same]
    show (s.routes.insert t.index s.started).get? task = none
    rw [SortedMap.get?_insert, if_neg (Ne.symm others), absent]
  · show (s.work E id).routes.get? task = none
    rw [routes_work found]
    split
    · rw [SortedMap.get?_erase, absent, ite_self]
    · exact absent
  · rw [keeps.routes, absent]

/-- A task without a route gets none unless it is started again. -/
theorem unrouted_after {task : TaskIndex} {actions : List (Action ρ σ)} :
    ∀ {s : Service ρ σ}, s.routes.get? task = none →
      (∀ e ∈ s.along E starts actions, e.2.index ≠ task) →
      (s.after E actions).routes.get? task = none := by
  induction actions with
  | nil => exact fun absent _ => absent
  | cons a rest ih =>
    intro s absent others
    refine ih (unrouted_act absent fun e started => ?_) fun e started => ?_
    · exact others e (List.mem_append_left _ started)
    · exact others e (List.mem_append_right _ started)

/-- The routes that an action removes are those of the workers that it ends. -/
theorem removals_eq (lives : Lives E started ended taken merged s) (a : Action ρ σ) :
    (s.removals E a).map (·.2) = (s.endings E a).map (·.1) := by
  have kept : (∀ task, s.routes.contains task = true → (s.act E a).routes.contains task = true) →
      s.removals E a = [] := by
    intro same
    unfold removals
    rw [List.filter_eq_nil_iff]
    rintro ⟨task, id⟩ member
    simp [same task (SortedMap.contains_iff_exists.2 ⟨id, SortedMap.get?_eq_some_iff.2 member⟩)]
  rcases act_cases E s a with ⟨t, -, idles, -, same⟩ | ⟨id, w, rfl, found⟩ | ⟨-, idles, keeps⟩
  · rw [idles.endings, kept fun task present => ?_]
    · rfl
    · rw [same]
      show (s.routes.insert t.index s.started).contains task = true
      rw [SortedMap.contains_insert, present, Bool.or_true]
  · have routes := routes_work (E := E) found
    rw [endings_work found]
    cases ceased : (w.stride E s.now s.registry).fate.ending? with
    | none =>
      rw [ceased] at routes
      rw [kept fun task present => ?_]
      · rfl
      · show (s.work E id).routes.contains task = true
        rw [routes]
        exact present
    | some ending =>
      rw [ceased] at routes
      change _ = s.routes.erase w.task at routes
      -- Every other index keeps its route, so one entry is left: that of the worker.
      have route := (lives.routes w.task id).2 ⟨_, _, tenure_of_get? found, rfl⟩
      have alone : s.removals E (.work id) = s.routes.toList.filter (·.1 = w.task) := by
        refine List.filter_congr fun e member => ?_
        have present := SortedMap.get?_eq_some_iff.2 member
        show (!(s.work E id).routes.contains e.1) = _
        rw [routes]
        unfold SortedMap.contains
        rw [SortedMap.get?_erase, present]
        by_cases same : e.1 = w.task <;> simp [same]
      rw [alone, filter_eq_singleton s.routes.nodup_keys (SortedMap.get?_eq_some_iff.1 route)]
      rfl
  · rw [idles.endings, kept fun task present => by rw [keeps.routes]; exact present]
    rfl

/-- Routes are removed one by one, each when its worker ends. -/
theorem removals_after (E : Setting ρ σ) {config : Config} {registry : σ}
    (created : create config registry = .ok s) (actions : List (Action ρ σ)) :
    (s.along E (removals E) actions).map (·.2) = (s.along E (endings E) actions).map (·.1) := by
  induction actions using List.reverseRecOn with
  | nil => rfl
  | append_singleton actions a ih =>
    rw [along_snoc, along_snoc, List.map_append, List.map_append, ih,
      removals_eq (lives_after E created actions)]

/-- From its response on a task has no route until one is started under the same index. -/
theorem unrouted_of_ending (E : Setting ρ σ) {config : Config} {registry : σ}
    (created : create config registry = .ok s) {before rest : List (Action ρ σ)} {a : Action ρ σ}
    {id : WorkerId} {t : TaskParameters} {ending : Option (TaskResponse ρ)}
    (began : (id, t) ∈ s.along E starts before)
    (ceased : (id, ending) ∈ (s.after E before).endings E a)
    (others : ∀ e ∈ ((s.after E before).act E a).along E starts rest, e.2.index ≠ t.index) :
    (s.after E (before ++ a :: rest)).routes.get? t.index = none := by
  have lives := lives_after E created before
  obtain ⟨w, rfl, found, ceased⟩ := work_of_ending ceased
  cases lives.parameters_unique began (lives.working id _ _ (tenure_of_get? found)).1
  rw [after_append]
  show (((s.after E before).work E id).after E rest).routes.get? w.task = none
  refine unrouted_after ?_ others
  rw [routes_work found, ceased]
  exact (SortedMap.get?_erase _ _ _).trans (if_pos rfl)

/-! ### Every run -/

/-- In every order in which tasks are started, signatures submitted, calls looked at and cancelled,
workers run and responses read, each task runs until it gives one response or crashes. -/
theorem lifecycle (E : Setting ρ σ) {config : Config} {registry : σ}
    (created : create config registry = .ok s) (actions : List (Action ρ σ)) :
    s.Lifecycle E actions := by
  have lives := lives_after E created actions
  have stream := stream_after E created actions
  refine ⟨fun id t began => ?_, ?_, stream.sent, stream.complete, stream.delivered, ?_⟩
  · by_cases ceased : id ∈ (s.along E (endings E) actions).map (·.1)
    · obtain ⟨⟨id, ending⟩, member, rfl⟩ := List.mem_map.1 ceased
      have idle : ¬ (s.after E actions).Running id t := by
        rintro ⟨⟨w, found, -⟩, -, -⟩
        rw [(gone_of_ended lives ceased).idle] at found
        cases found
      cases ending with
      | some response =>
        refine .inr (.inl ⟨idle, finished_of_response lives stream began member, fun crashed => ?_⟩)
        cases value_unique lives.once member (mem_of_filter crashed.ended)
      | none =>
        refine .inr (.inr ⟨idle, ?_, crashed_of_ending created member⟩)
        rintro ⟨-, response, -, alone, -⟩
        cases value_unique lives.once member (mem_of_filter alone)
    · refine .inl ⟨running_of_open lives stream began ceased, ?_, ?_⟩
      · rintro ⟨-, response, -, alone, -⟩
        exact ceased (List.mem_map_of_mem (mem_of_filter alone))
      · rintro ⟨-, alone, -, -⟩
        exact ceased (List.mem_map_of_mem (mem_of_filter alone))
  · exact removals_after E created actions
  · rintro before a rest id t response rfl began ceased others
    have unrouted := unrouted_of_ending E created began ceased others
    refine ⟨?_, fun operator submitted signature cancelled => ?_⟩
    · unfold isTaskActive SortedMap.contains
      rw [unrouted]
      rfl
    · unfold submit
      rw [unrouted]

/-- A task that gives its response, one under the same index that runs, and one that crashes. -/
theorem lifecycle_sample_run :
    let submit (task : TaskIndex) (operator response : Nat) : Action Nat Nat :=
      .submit task (SampleTask.operatorId operator) response ⟨.ofNat 48 operator⟩ false
    let small := SampleTask.parameters 0
    let wide := { SampleTask.parameters longestSpan with index := 2 }
    let actions := [.startTask true small, .work 0, .work 0, .work 0, submit 1 1 7, submit 1 3 7, .poll 0,
      .poll 0, .poll 1, .poll 1, .work 0, .work 0, .work 0, .poll 0, .poll 1, .startTask true wide,
      .startTask true small, .claimStream, .receive, .work 1, .work 1, .work 1, submit 2 1 7, submit 2 3 7,
      .poll 2, .poll 2, .poll 3, .poll 3, .work 1, .work 1]
    ∃ s : Service Nat Nat, create .default 0 = .ok s ∧
      (s.along SampleTask.setting starts actions).map (fun e => (e.1, e.2.index)) =
        [(0, 1), (1, 2), (2, 1)] ∧
      (s.along SampleTask.setting (endings SampleTask.setting) actions).map
        (fun e => (e.1, e.2.isSome)) = [(0, true), (1, false)] ∧
      s.Lifecycle SampleTask.setting actions := by
  intro submit small wide actions
  have created : create Config.default 0 = .ok (_ : Service Nat Nat) := rfl
  exact ⟨_, created, by decide +kernel, by decide +kernel, lifecycle SampleTask.setting created actions⟩

/-- Neither the hasher nor the verifier nor the registry can crash here, and yet the worker of a task ends
without a response: the window that its thresholds open has no end that the clock can express. -/
theorem silent_end_of_wide_window :
    let submit (operator response : Nat) : Action Nat Nat :=
      .submit 1 (SampleTask.operatorId operator) response ⟨.ofNat 48 operator⟩ false
    let wide := SampleTask.parameters longestSpan
    let actions := [.startTask true wide, .work 0, .work 0, .work 0, submit 1 7, submit 3 7, .poll 0,
      .poll 0, .poll 1, .poll 1, .work 0, .work 0]
    (∀ w registry, ¬ SampleTask.setting.Crashes w registry) ∧
    ∃ s : Service Nat Nat, create .default 0 = .ok s ∧
      (s.along SampleTask.setting starts actions).map (fun e => (e.1, e.2.index)) = [(0, 1)] ∧
      (s.after SampleTask.setting actions).isTaskActive 1 = false ∧
      (s.after SampleTask.setting actions).responses = [] ∧
      (s.along SampleTask.setting (endings SampleTask.setting) actions).map
        (fun e => (e.1, e.2.isSome)) = [(0, false)] := by
  refine ⟨?_, _, rfl, rfl, rfl, rfl, rfl⟩
  rintro ⟨parameters, inbox, phase⟩ registry crash
  cases phase with
  | starting => exact crash
  | collecting c =>
    obtain ⟨x, -, hashing | ⟨d, key, -, -, verifying⟩⟩ := crash
    · cases hashing
    · cases verifying
  | _ => cases crash

end Service

end Attestation
