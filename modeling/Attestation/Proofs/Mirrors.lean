/-
Module: Attestation.Proofs.Mirrors
Purpose: A service beside another in which one of its workers is alone. What is done to the worker and its
  calls is done on both sides, with the same answers; what is done to others is done on one side only and
  leaves the two as they stand.
Main exports: Mirrors, Spares, Mirrors.spare, Mirrors.launch, Mirrors.submit, Mirrors.poll, Mirrors.cancel,
  Mirrors.work, Mirrors.outward
-/
import Attestation.Proofs.Initialization
import Attestation.Proofs.Shadows
import Mathlib.Data.List.Perm.Subperm

namespace Attestation

open Service

variable {ρ σ : Type} {E : Setting ρ σ}

/-- The second service has of the first one worker, under the number 0, its route, its calls and its
responses, and the same limits, clock and receiver. Of the calls of the worker `past` were made so far. -/
structure Mirrors (v : WorkerId) (own past : List CallId) (s r : Service ρ σ) : Prop where
  config : r.config = s.config
  now : r.now = s.now
  receiver : r.receiver = s.receiver
  started : r.started = if v < s.started then 1 else 0
  routes : ∀ j, r.routes.get? j = ((s.routes.get? j).filter (· = v)).map fun _ => 0
  workers : ∀ u, r.workers.get? u = if u = 0 then (s.workers.get? v).map (·.renumber own.idxOf) else none
  made : r.made = past.length
  calls : ∀ k, r.calls.get? k = own[k]?.bind fun id => (s.calls.get? id).map (·.isolate own.idxOf)
  responses : r.responses = (valuesAt v s.responses).map (0, ·)

/-- A look at a call shows the same on both sides. -/
structure MirrorsLook (v : WorkerId) (own past : List CallId) (polled polled' : Polled ρ σ) : Prop where
  service : Mirrors v own past polled.service polled'.service
  answer : polled'.answer = polled.answer
  woken : polled'.woken = polled.woken.map fun _ => 0

/-- The listed calls are those of the worker. -/
def Addressed (v : WorkerId) (own : List CallId) (s : Service ρ σ) : Prop :=
  ∀ id call, s.calls.get? id = some call → (id ∈ own ↔ call.worker = v)

/-- What happens in an action to a worker and to calls that it does not concern: nothing. -/
structure Spares (v : WorkerId) (own : List CallId) (s s' : Service ρ σ) : Prop where
  config : s'.config = s.config
  now : s'.now = s.now
  receiver : s'.receiver = s.receiver
  started : v < s'.started ↔ v < s.started
  routes : ∀ j, s'.routes.get? j = some v ↔ s.routes.get? j = some v
  worker : s'.workers.get? v = s.workers.get? v
  calls : ∀ id ∈ own, s'.calls.get? id = s.calls.get? id
  responses : valuesAt v s'.responses = valuesAt v s.responses

namespace Mirrors

variable {v : WorkerId} {own past : List CallId} {s s' r : Service ρ σ}

/-! ### The service alone

What the worker at hand and its calls do is done in both services. The calls keep their order and get new
numbers. -/

/-- The calls to the worker at hand are those of the service alone. -/
theorem shadows (mirrors : Mirrors v own past s r) (addressed : Addressed v own s) :
    Shadows v own s.calls r.calls := ⟨mirrors.calls, addressed⟩

/-- A route to the worker at hand is one to the worker of the service alone. -/
theorem route (mirrors : Mirrors v own past s r) {j : TaskIndex} (route : s.routes.get? j = some v) :
    r.routes.get? j = some 0 := by
  rw [mirrors.routes, route, Option.filter_some, if_pos (decide_eq_true rfl)]
  rfl

/-- A route that leads elsewhere has nothing beside it. -/
theorem elsewhere {route : Option WorkerId} (other : route ≠ some v) :
    ((route.filter (· = v)).map fun _ => (0 : WorkerId)) = none := by
  cases route with
  | none => rfl
  | some u =>
    rw [Option.filter_some, if_neg (by simpa using other)]
    rfl

/-- Any other route is none there. -/
theorem unrouted (mirrors : Mirrors v own past s r) {j : TaskIndex} (unrouted : s.routes.get? j ≠ some v) :
    r.routes.get? j = none := by
  rw [mirrors.routes]
  exact elsewhere unrouted

/-- What concerns others is done on one side only. -/
theorem spare (mirrors : Mirrors v own past s r) (spares : Spares v own s s') : Mirrors v own past s' r where
  config := mirrors.config.trans spares.config.symm
  now := mirrors.now.trans spares.now.symm
  receiver := mirrors.receiver.trans spares.receiver.symm
  started := by rw [mirrors.started]; simp only [spares.started]
  routes j := by
    by_cases route : s.routes.get? j = some v
    · rw [mirrors.route route, (spares.routes j).2 route, Option.filter_some, if_pos (decide_eq_true rfl)]
      rfl
    · rw [mirrors.unrouted route]
      exact (elsewhere (mt (spares.routes j).1 route)).symm
  workers u := by rw [mirrors.workers, spares.worker]
  made := mirrors.made
  calls k := by
    rw [mirrors.calls]
    cases listed : own[k]? with
    | none => rfl
    | some id => rw [Option.bind_some, Option.bind_some, spares.calls id (List.mem_of_getElem? listed)]
  responses := by rw [mirrors.responses, spares.responses]

/-- Calls that go on alike keep the services so. -/
theorem withCalls (mirrors : Mirrors v own past s r) {c c' : SortedMap CallId (Call ρ)}
    (shadows : Shadows v own c c') (journal journal' : List Event) :
    Mirrors v own past { s with calls := c, journal := journal } { r with calls := c', journal := journal' } :=
  { mirrors with calls := shadows.calls }

section Starting

/-- The task of the worker is started on both sides. -/
theorem launch {t : TaskParameters} (mirrors : Mirrors s.started own past s r) :
    Mirrors s.started own past (s.launch t) (r.launch t) := by
  have first : r.started = 0 := by rw [mirrors.started, if_neg (Nat.lt_irrefl _)]
  refine { mirrors with
    started := ?_
    routes := fun j => ?_
    workers := fun u => ?_ }
  · show r.started + 1 = if s.started < s.started + 1 then 1 else 0
    rw [first, if_pos (Nat.lt_succ_self _)]
  · show (r.routes.insert t.index r.started).get? j =
      (((s.routes.insert t.index s.started).get? j).filter (· = s.started)).map fun _ => 0
    rw [SortedMap.get?_insert, SortedMap.get?_insert, first]
    split
    · rw [Option.filter_some, if_pos (decide_eq_true rfl)]
      rfl
    · exact mirrors.routes j
  · show (r.workers.insert r.started _).get? u =
      if u = 0 then ((s.workers.insert s.started _).get? s.started).map (·.renumber own.idxOf) else none
    rw [SortedMap.get?_insert, SortedMap.get?_insert, if_pos rfl, first, mirrors.workers]
    split <;> rfl

/-- The worker who is alone has no more routes. -/
theorem fewer (mirrors : Mirrors v own past s r) : r.routes.size ≤ s.routes.size := by
  rw [SortedMap.size_eq_keys, SortedMap.size_eq_keys]
  refine (List.subperm_of_subset r.routes.nodup_keys fun j member => ?_).length_le
  rw [SortedMap.mem_keys_iff, SortedMap.contains_iff_exists] at member ⊢
  obtain ⟨u, found⟩ := member
  by_cases route : s.routes.get? j = some v
  · exact ⟨v, route⟩
  · rw [mirrors.unrouted route] at found
    cases found

end Starting

section Calling

/-- A call for the worker is made on both sides. -/
theorem submit (mirrors : Mirrors v own past s r) (addressed : Addressed v own s)
    {future : List CallId} (next : own = past ++ s.made :: future) (once : own.Nodup) {task : TaskIndex}
    (route : s.routes.get? task = some v) (operator : OperatorId) (response : ρ) (signature : Signature)
    (cancelled : Bool) : Mirrors v own (past ++ [s.made])
      (s.act E (.submit task operator response signature cancelled))
      (r.act E (.submit task operator response signature cancelled)) := by
  have place : own.idxOf s.made = r.made := by
    refine idxOf_of_getElem? once ?_
    rw [next, mirrors.made, List.getElem?_append_right (Nat.le_refl _), Nat.sub_self]
    rfl
  have mine : s.made ∈ own := by
    rw [next]
    exact List.mem_append_right _ List.mem_cons_self
  rw [act_submit_routed route, act_submit_routed (mirrors.route route)]
  refine { mirrors with
    made := ?_
    calls := ?_ }
  · show r.made + 1 = (past ++ [s.made]).length
    rw [mirrors.made, List.length_append, List.length_singleton]
  · have both := ((mirrors.shadows addressed).insert once mine
      ⟨task, v, ⟨s.made, operator, response, signature⟩, cancelled, .begun, false⟩ rfl).calls
    unfold Call.isolate Submission.renumber at both
    dsimp only at both
    rw [place] at both
    exact both

/-- The inbox has room in both services or in neither. -/
theorem hasRoom (mirrors : Mirrors v own past s r) (addressed : Addressed v own s)
    (ascending : own.Pairwise (· < ·)) (w : Worker ρ) :
    r.hasRoom 0 (w.renumber own.idxOf) = s.hasRoom v w := by
  unfold Service.hasRoom
  rw [(mirrors.shadows addressed).callsAt ascending, mirrors.config, List.length_map, Worker.renumber_inbox,
    List.length_map]

/-- A call that is abandoned leaves its room to the same call. -/
theorem abandon (mirrors : Mirrors v own past s r) (addressed : Addressed v own s)
    (ascending : own.Pairwise (· < ·)) (id : CallId) {call : Call ρ} (worker : call.worker = v) :
    MirrorsLook v own past (s.abandon id call)
      (r.abandon (own.idxOf id) (call.isolate own.idxOf)) := by
  subst worker
  have left := (mirrors.shadows addressed).erase (ascending.imp Nat.ne_of_lt) id
  have both : Shadows call.worker own (s.abandon id call).service.calls
      (r.abandon (own.idxOf id) (call.isolate own.idxOf)).service.calls := by
    unfold Service.abandon
    by_cases kept : call.stage = .admitted
    · have kept' : (call.isolate own.idxOf).stage = .admitted := kept
      rw [if_pos kept, if_pos kept']
      exact Shadows.keepRoom (s := (finishCall _ id _).service) (r := (finishCall _ _ _).service) left
        ascending
    · have kept' : ¬ (call.isolate own.idxOf).stage = .admitted := kept
      rw [if_neg kept, if_neg kept']
      exact left
  have shows : ∀ (s : Service ρ σ) (id : CallId) (call : Call ρ),
      (s.abandon id call).answer = some (.error (.cancelled call.task)) ∧ (s.abandon id call).woken = none := by
    intro s id call
    unfold Service.abandon
    dsimp only
    split <;> exact ⟨rfl, rfl⟩
  refine ⟨?_, ?_, ?_⟩
  · obtain ⟨calls, journal, same⟩ := s.abandon_frame id call
    obtain ⟨calls', journal', same'⟩ := r.abandon_frame (own.idxOf id) (call.isolate own.idxOf)
    rw [same, same'] at both ⊢
    exact mirrors.withCalls both _ _
  · rw [(shows _ _ _).1, (shows _ _ _).1]
    rfl
  · rw [(shows _ _ _).2, (shows _ _ _).2]
    rfl

/-- A submission enters both inboxes at the same place. -/
theorem send (mirrors : Mirrors v own past s r) (addressed : Addressed v own s) (once : own.Nodup)
    {id : CallId} (mine : id ∈ own) {call : Call ρ} (worker : call.worker = v) (w : Worker ρ) :
    MirrorsLook v own past (s.send id call w)
      (r.send (own.idxOf id) (call.isolate own.idxOf) (w.renumber own.idxOf)) := by
  subst worker
  have both := (mirrors.shadows addressed).insert once mine { call with stage := .sent } rfl
  refine ⟨{ mirrors with
    calls := both.calls
    workers := fun u => ?_ }, rfl, rfl⟩
  show (r.workers.insert 0 _).get? u =
    if u = 0 then ((s.workers.insert call.worker _).get? call.worker).map (·.renumber own.idxOf) else none
  rw [SortedMap.get?_insert, mirrors.workers, SortedMap.get?_insert, if_pos rfl]
  split
  · unfold Worker.renumber
    rw [Option.map_some, List.map_append]
    rfl
  · rfl

/-- A call of the worker goes on in the same way on both sides. -/
theorem poll (mirrors : Mirrors v own past s r) (addressed : Addressed v own s)
    (ascending : own.Pairwise (· < ·)) {id : CallId} (mine : id ∈ own) :
    MirrorsLook v own past (s.poll id) (r.poll (own.idxOf id)) := by
  have shadows := mirrors.shadows addressed
  have once := ascending.imp (S := (· ≠ ·)) Nat.ne_of_lt
  unfold Service.poll
  rw [shadows.get?_idxOf mine]
  cases found : s.calls.get? id with
  | none => exact ⟨mirrors, rfl, rfl⟩
  | some call =>
    have worker := (addressed id call found).1 mine
    have finish : ∀ answer, MirrorsLook v own past (s.finishCall id answer)
        (r.finishCall (own.idxOf id) answer) := fun answer =>
      ⟨mirrors.withCalls (shadows.erase once id) _ _, rfl, rfl⟩
    have works : r.workers.get? (call.isolate own.idxOf).worker =
        (s.workers.get? call.worker).map (·.renumber own.idxOf) := by
      rw [worker]
      exact (mirrors.workers 0).trans (if_pos rfl)
    have moves : ∀ call' : Call ρ, call'.worker = v →
        MirrorsLook v own past { s with calls := s.calls.insert id call' }.idle
          { r with calls := r.calls.insert (own.idxOf id) (call'.isolate own.idxOf) }.idle := fun call' own' =>
      ⟨mirrors.withCalls (shadows.insert once mine call' own') _ _, rfl, rfl⟩
    have stays : (call.isolate own.idxOf).stage = call.stage := rfl
    have fired : (call.isolate own.idxOf).cancelled = call.cancelled := rfl
    have looked : (call.isolate own.idxOf).cleared = call.cleared := rfl
    rw [Option.map_some]
    dsimp only
    rw [works, stays, fired, looked]
    cases cleared : call.cleared with
    | false =>
      rw [if_neg Bool.false_ne_true, if_neg Bool.false_ne_true]
      split
      · exact mirrors.abandon addressed ascending id worker
      · exact moves { call with cleared := true } worker
    | true =>
      rw [if_pos rfl, if_pos rfl]
      cases stage : call.stage with
      | answered rejection => cases rejection <;> exact finish _
      | begun =>
        cases s.workers.get? call.worker with
        | none => exact finish _
        | some w =>
          subst worker
          have room : r.hasRoom (call.isolate own.idxOf).worker (w.renumber own.idxOf) =
            s.hasRoom call.worker w := mirrors.hasRoom addressed ascending w
          have line : r.lastPlace (call.isolate own.idxOf).worker = s.lastPlace call.worker :=
            shadows.lastPlace ascending
          rw [Option.map_some]
          dsimp only
          rw [room, line]
          split
          · exact mirrors.send addressed once mine rfl w
          · exact moves { call with cleared := false, stage := .waiting _ } rfl
      | admitted =>
        cases s.workers.get? call.worker with
        | none => exact finish _
        | some w => exact mirrors.send addressed once mine worker w
      | waiting | sent =>
        cases s.workers.get? call.worker with
        | none => exact finish _
        | some w => exact moves { call with cleared := false, stage := _ } worker

/-- The token of a call of the worker fires on both sides. -/
theorem cancel (mirrors : Mirrors v own past s r) (addressed : Addressed v own s) (once : own.Nodup)
    {id : CallId} (mine : id ∈ own) :
    Mirrors v own past (s.cancel id).1 (r.cancel (own.idxOf id)).1 := by
  have shadows := mirrors.shadows addressed
  unfold Service.cancel
  rw [shadows.get?_idxOf mine]
  cases found : s.calls.get? id with
  | none => exact mirrors
  | some call =>
    have worker := (addressed id call found).1 mine
    exact mirrors.withCalls (shadows.insert once mine { call with cancelled := true } worker) _ _

end Calling

section Working

variable {w : Worker ρ}

/-- The worker at hand is there in both services, with the calls under their other numbers. -/
theorem worker (mirrors : Mirrors v own past s r) (found : s.workers.get? v = some w) :
    r.workers.get? 0 = some (w.renumber own.idxOf) := by
  rw [mirrors.workers, if_pos rfl, found]
  rfl

/-- Its stride there is an echo of its stride here. -/
theorem echoes (mirrors : Mirrors v own past s r) (alike : E.AnswersAlike w s.now s.registry r.registry) :
    (w.stride E s.now s.registry).Echoes own.idxOf
      ((w.renumber own.idxOf).stride E r.now r.registry) := by
  rw [mirrors.now]
  exact Worker.echoes_stride alike

/-- The worker takes the same stride on both sides, if the registries answer it alike. -/
theorem work (mirrors : Mirrors v own past s r) (addressed : Addressed v own s)
    (ascending : own.Pairwise (· < ·)) (found : s.workers.get? v = some w)
    (alike : E.AnswersAlike w s.now s.registry r.registry) :
    Mirrors v own past (s.work E v) (r.work E 0) := by
  have found' := mirrors.worker found
  have echoes := mirrors.echoes alike
  have noted := ((mirrors.shadows addressed).noted ascending echoes).calls
  obtain ⟨c, metrics, journal, same⟩ := s.noted_frame v (w.stride E s.now s.registry)
  obtain ⟨c', metrics', journal', same'⟩ :=
    r.noted_frame 0 ((w.renumber own.idxOf).stride E r.now r.registry)
  rw [same, same'] at noted
  rcases (w.stride E s.now s.registry).fate.waiting_or_ending with ⟨phase, going⟩ | ⟨ending, ceased⟩
  · rw [work_waiting found going, work_waiting found' (echoes.fate.trans going), same, same']
    refine { mirrors with
      calls := noted
      workers := fun u => ?_ }
    show (r.workers.insert 0 _).get? u =
      if u = 0 then ((s.workers.insert v _).get? v).map (·.renumber own.idxOf) else none
    rw [SortedMap.get?_insert, SortedMap.get?_insert, if_pos rfl, mirrors.workers]
    unfold Worker.rested
    rw [echoes.unread]
    split <;> rfl
  · obtain ⟨_, _, ended⟩ := work_ended found ceased
    obtain ⟨_, _, ended'⟩ := work_ended found' ((congrArg Fate.ending? echoes.fate).trans ceased)
    rw [ended, ended', same, same']
    refine { mirrors with
      calls := noted
      routes := fun j => ?_
      workers := fun u => ?_
      responses := ?_ }
    · show (r.routes.erase w.task).get? j = (((s.routes.erase w.task).get? j).filter (· = v)).map fun _ => 0
      rw [SortedMap.get?_erase, SortedMap.get?_erase]
      split
      · rfl
      · exact mirrors.routes j
    · show (r.workers.erase 0).get? u =
        if u = 0 then ((s.workers.erase v).get? v).map (·.renumber own.idxOf) else none
      rw [SortedMap.get?_erase, SortedMap.get?_erase, if_pos rfl, mirrors.workers]
      split <;> rfl
    · show r.responses ++ (if r.receiver = .dropped then [] else (ending.map (0, ·)).toList) =
        (valuesAt v (s.responses ++ if s.receiver = .dropped then [] else (ending.map (v, ·)).toList)).map (0, ·)
      rw [mirrors.responses, mirrors.receiver, valuesAt_append, List.map_append]
      split
      · rfl
      · rw [Option.toList_map, Option.toList_map, valuesAt_map_self]

end Working

section Outward

/-- The clock, the registry and the receiver change on both sides. -/
theorem outward (mirrors : Mirrors v own past s r) {a : Action ρ σ} (outward : a.IsOutward) :
    Mirrors v own past (s.act E a) (r.act E a) := by
  have receiver := mirrors.receiver
  cases a with
  | advance now =>
    refine { mirrors with now := ?_ }
    show max r.now now = max s.now now
    rw [mirrors.now]
  | registry registry events => exact { mirrors with }
  | claimStream =>
    unfold act claimStream
    dsimp only
    rw [receiver]
    split
    · exact { mirrors with receiver := rfl }
    · exact mirrors
  | dropStream =>
    unfold act dropStream
    dsimp only
    rw [receiver]
    split
    · exact { mirrors with receiver := rfl }
    · exact mirrors
  | receive =>
    have read : ∀ s : Service ρ σ, ∃ received, s.act E .receive = { s with received := received } := by
      intro s
      unfold act receive
      dsimp only
      split
      · split <;> exact ⟨_, rfl⟩
      · exact ⟨_, rfl⟩
    obtain ⟨received, same⟩ := read s
    obtain ⟨received', same'⟩ := read r
    rw [same, same']
    exact { mirrors with }
  | _ => exact outward.elim

end Outward

end Mirrors

namespace Spares

variable {v u : WorkerId} {own : List CallId} {s : Service ρ σ} {id : CallId}

/-! ### What others do

Other workers and their calls leave the worker at hand, its inbox and its calls as they are. -/

theorem refl (v : WorkerId) (own : List CallId) (s : Service ρ σ) : Spares v own s s :=
  ⟨rfl, rfl, rfl, Iff.rfl, fun _ => Iff.rfl, rfl, fun _ _ => rfl, rfl⟩

theorem withCalls {c : SortedMap CallId (Call ρ)} (same : ∀ id ∈ own, c.get? id = s.calls.get? id)
    (journal : List Event) : Spares v own s { s with calls := c, journal := journal } :=
  { refl v own s with calls := same }

/-- Another task is started. -/
theorem launch (other : s.started ≠ v) {t : TaskParameters} (free : s.routes.get? t.index = none) :
    Spares v own s (s.launch t) := by
  refine { refl v own s with
    started := ?_
    routes := fun j => ?_
    worker := ?_ }
  · show v < s.started + 1 ↔ v < s.started
    rw [Nat.lt_succ_iff, Nat.le_iff_lt_or_eq]
    exact or_iff_left (Ne.symm other)
  · show (s.routes.insert t.index s.started).get? j = some v ↔ _
    rw [SortedMap.get?_insert]
    split
    next same =>
      rw [same, free]
      exact iff_of_false (fun new => other (Option.some.inj new)) nofun
    next => exact Iff.rfl
  · show (s.workers.insert s.started _).get? v = _
    rw [SortedMap.get?_insert, if_neg (Ne.symm other)]

/-- A call for another worker is made. -/
theorem submit (fresh : s.made ∉ own) {task : TaskIndex} (route : s.routes.get? task = some u)
    (operator : OperatorId) (response : ρ) (signature : Signature) (cancelled : Bool) :
    Spares v own s (s.act E (.submit task operator response signature cancelled)) := by
  rw [act_submit_routed route]
  refine { refl v own s with calls := fun id mine => ?_ }
  show (s.calls.insert s.made _).get? id = _
  rw [SortedMap.get?_insert, if_neg]
  rintro rfl
  exact fresh mine

/-- What is put in place of a call to another worker spares the calls at hand. -/
theorem calls_insert (foreign : id ∉ own) (call : Call ρ) :
    ∀ k ∈ own, (s.calls.insert id call).get? k = s.calls.get? k := by
  intro k mine
  rw [SortedMap.get?_insert, if_neg]
  rintro rfl
  exact foreign mine

/-- So does the return of such a call. -/
theorem calls_erase (foreign : id ∉ own) : ∀ k ∈ own, (s.calls.erase id).get? k = s.calls.get? k := by
  intro k mine
  rw [SortedMap.get?_erase, if_neg]
  rintro rfl
  exact foreign mine

/-- Room in another inbox is kept for a call of another worker. -/
theorem calls_keepRoom (addressed : Addressed v own s) (other : u ≠ v) :
    ∀ k ∈ own, (s.keepRoom u).1.calls.get? k = s.calls.get? k := by
  unfold keepRoom
  split
  next id call first =>
    obtain ⟨found, worker, -⟩ := mem_callsAt.1 (mem_of_firstInLine? first)
    refine calls_insert (fun mine => other ?_) _
    rw [← worker]
    exact (addressed id call found).1 mine
  next => exact fun _ _ => rfl

/-- A call of another worker goes on. -/
theorem poll (addressed : Addressed v own s) (foreign : id ∉ own) : Spares v own s (s.poll id).service := by
  have look := s.look_poll id
  generalize s.poll id = polled at look
  cases look with
  | absent => exact refl v own s
  | answered | stranded => exact withCalls (calls_erase foreign) _
  | cleared | queued | rests => exact withCalls (calls_insert foreign _) _
  | @sent call w found _ _ running =>
    refine { refl v own s with
      calls := calls_insert foreign _
      worker := ?_ }
    show (s.workers.insert call.worker _).get? v = _
    rw [SortedMap.get?_insert, if_neg]
    exact fun same => foreign ((addressed id call found).2 same.symm)
  | @abandoned call found =>
    have other : call.worker ≠ v := fun same => foreign ((addressed id call found).2 same)
    have calls : ∀ k ∈ own, (s.abandon id call).service.calls.get? k = s.calls.get? k := by
      obtain ⟨left, erased, same⟩ := abandon_service s id call
      have kept : ∀ k ∈ own, left.calls.get? k = s.calls.get? k := by
        rw [erased]
        exact calls_erase foreign
      rcases same with same | same <;> rw [same]
      · exact kept
      · have addressed' : Addressed v own left := by
          intro k call' pending
          rw [erased, SortedMap.get?_erase] at pending
          split at pending
          · cases pending
          · exact addressed k call' pending
        exact fun k mine => (calls_keepRoom addressed' other k mine).trans (kept k mine)
    obtain ⟨c, journal, same⟩ := s.abandon_frame id call
    rw [same] at calls ⊢
    exact withCalls calls journal

/-- So does its token. -/
theorem cancel (foreign : id ∉ own) : Spares v own s (s.cancel id).1 := by
  unfold Service.cancel
  split
  · exact withCalls (calls_insert foreign _) _
  · exact refl v own s

section Working

variable {w : Worker ρ} {taken : List (Submission ρ)} {merged : List (Acceptance ρ)}

/-- What another worker does to calls it does to its own. -/
theorem calls_noted (addressed : Addressed v own s) (other : u ≠ v)
    (holds : w.phase.Holds E w.parameters taken merged) (foreign : ∀ x ∈ w.inbox, x.call ∉ own) :
    ∀ k ∈ own, (s.noted u (w.stride E s.now s.registry)).calls.get? k = s.calls.get? k := by
  rcases w.stride_cases E s.now s.registry with ⟨-, idles⟩ | ⟨c, x, -, -, -, takes, -⟩
  · rw [calls_noted_quiet idles.quiet]
    exact fun _ _ => rfl
  · obtain ⟨unread, ready, -, handles⟩ := w.handles_stride s.registry holds takes
    have away : x.call ∉ own := foreign x (ready ▸ List.mem_cons_self)
    cases handles with
    | answered before later signals quiet quiet' =>
      intro k mine
      rw [calls_noted_answered signals quiet quiet', if_neg]
      · exact calls_keepRoom addressed other k mine
      · rintro rfl
        exact away mine
    | crashed before signals quiet =>
      rw [calls_noted_crashed signals quiet]
      exact calls_keepRoom addressed other

/-- Another worker takes a stride. -/
theorem work (addressed : Addressed v own s) (other : u ≠ v) (found : s.workers.get? u = some w)
    (holds : w.phase.Holds E w.parameters taken merged) (foreign : ∀ x ∈ w.inbox, x.call ∉ own)
    (elsewhere : s.routes.get? w.task ≠ some v) : Spares v own s (s.work E u) := by
  have calls := calls_noted (s := s) addressed other holds foreign
  obtain ⟨c, metrics, journal, same⟩ := s.noted_frame u (w.stride E s.now s.registry)
  rw [same] at calls
  rcases (w.stride E s.now s.registry).fate.waiting_or_ending with ⟨phase, going⟩ | ⟨ending, ceased⟩
  · rw [work_waiting found going, same]
    refine { refl v own s with
      calls := calls
      worker := ?_ }
    exact (SortedMap.get?_insert _ _ _ _).trans (if_neg (Ne.symm other))
  · obtain ⟨_, _, ended⟩ := work_ended found ceased
    rw [ended, same]
    refine { refl v own s with
      calls := calls
      worker := (SortedMap.get?_erase _ _ _).trans (if_neg (Ne.symm other))
      routes := fun j => ?_
      responses := ?_ }
    · show (s.routes.erase w.task).get? j = some v ↔ _
      rw [SortedMap.get?_erase]
      split
      next same =>
        rw [same]
        exact iff_of_false nofun elsewhere
      next => exact Iff.rfl
    · show valuesAt v (s.responses ++ if s.receiver = .dropped then [] else (ending.map (u, ·)).toList) = _
      rw [valuesAt_append]
      split
      · exact List.append_nil _
      · rw [Option.toList_map, valuesAt_map_other other, List.append_nil]

end Working

end Spares

end Attestation
