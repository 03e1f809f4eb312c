/-
Module: Attestation.Proofs.Withdrawal
Purpose: A call whose submission is in the inbox can be withdrawn without a trace. Two services that differ
  in such a call alone do the same: the same submissions are taken and merged, the other calls get the
  same answers, the tasks end alike. So it makes no difference whether and when its token fires.
Main exports: Service.Action.Concerns, Service.Alike, Service.Alike.act, Service.SeenAlike,
  Service.Alike.after, Service.alike_of_entered, Service.Receipts, Service.receipts
-/
import Attestation.Proofs.Firing

namespace Attestation

namespace Service

variable {ρ σ : Type}

/-! ### Services that differ in one call

The difference is confined to a call whose submission is inside. Such a call is not in line and no room is
kept for it, so nothing that the service decides for others depends on it. -/

/-- The action looks at the call or fires its token. -/
def Action.Concerns (id : CallId) : Action ρ σ → Bool
  | .poll k | .cancel k => k = id
  | _ => false

/-- Two services differ in one call at most, and in what they have reported. -/
structure SameBut (id : CallId) (s s' : Service ρ σ) : Prop where
  frame : s' = { s with calls := s'.calls, journal := s'.journal }
  calls : ∀ k, k ≠ id → s'.calls.get? k = s.calls.get? k

/-- The submission of a call that was made is not outside the inbox. -/
def Entered (id : CallId) (s : Service ρ σ) : Prop :=
  id < s.made ∧ ∀ call, s.calls.get? id = some call → ¬ call.stage.IsOutside

/-- Two services differ in one call at most, whose submission has entered the inbox in both. -/
structure Alike (id : CallId) (s s' : Service ρ σ) : Prop extends SameBut id s s' where
  entered : Entered id s
  entered' : Entered id s'

variable {E : Setting ρ σ} {s s' : Service ρ σ} {id k : CallId}

theorem SameBut.workers (same : SameBut id s s') : s'.workers = s.workers := by rw [same.frame]

theorem SameBut.now (same : SameBut id s s') : s'.now = s.now := by rw [same.frame]

theorem SameBut.registry (same : SameBut id s s') : s'.registry = s.registry := by rw [same.frame]

/-- The calls that concern a worker at stages outside the inbox are the same. -/
theorem Alike.callsAt (alike : Alike id s s') (w : WorkerId) {stages : Stage → Bool}
    (outside : ∀ stage, stages stage = true → stage.IsOutside) :
    s'.callsAt w stages = s.callsAt w stages := by
  -- Without the call in which they differ the services have the same calls, and it is at no such stage.
  have without : ∀ s : Service ρ σ, Entered id s → s.callsAt w stages =
      (s.calls.erase id).toList.filter fun e => e.2.worker = w && stages e.2.stage := by
    intro s entered
    unfold Service.callsAt SortedMap.erase SortedMap.filter
    rw [List.filter_filter]
    refine List.filter_congr ?_
    rintro ⟨k, call⟩ member
    by_cases own : k = id
    · subst own
      have inside := entered.2 call (SortedMap.get?_eq_some_iff.2 member)
      have other : stages call.stage = false :=
        Bool.eq_false_iff.2 fun waits => inside (outside _ waits)
      simp [other]
    · simp [Ne.symm own]
  have erased : s'.calls.erase id = s.calls.erase id := by
    apply SortedMap.ext_get?
    intro k
    rw [SortedMap.get?_erase, SortedMap.get?_erase]
    split
    next => rfl
    next other => exact alike.calls k other
  rw [without s alike.entered, without s' alike.entered', erased]

/-- The call in which they differ is not in line, so those who wait are the same. -/
theorem Alike.waiting (alike : Alike id s s') (w : WorkerId) :
    s'.callsAt w Stage.isWaiting = s.callsAt w Stage.isWaiting :=
  alike.callsAt w fun _ => Stage.outside_of_isWaiting

/-- The line for the inbox of a worker is the same. -/
theorem Alike.firstInLine? (alike : Alike id s s') (w : WorkerId) :
    s'.firstInLine? w = s.firstInLine? w := by
  unfold Service.firstInLine?
  rw [alike.waiting w]

theorem Alike.lastPlace (alike : Alike id s s') (w : WorkerId) : s'.lastPlace w = s.lastPlace w := by
  unfold Service.lastPlace
  rw [alike.waiting w]

/-- Room is there in both services or in neither, since no room is kept for the call in which they differ.
-/
theorem Alike.hasRoom (alike : Alike id s s') (v : WorkerId) (w : Worker ρ) :
    s'.hasRoom v w = s.hasRoom v w := by
  have admitted : ∀ stage : Stage, decide (stage = .admitted) = true → stage.IsOutside := by
    intro stage same
    rw [of_decide_eq_true same]
    trivial
  unfold Service.hasRoom
  rw [alike.callsAt v admitted, alike.frame]

/-! ### The same is done in both

One lemma for each part of an action: whatever does not concern the call is done in both services and keeps
them alike. -/

/-- The services stay alike when their calls change alike. -/
theorem Alike.withCalls (alike : Alike id s s') {c c' : SortedMap CallId (Call ρ)}
    (same : ∀ k, k ≠ id → c'.get? k = c.get? k)
    (inside : ∀ call, c.get? id = some call → ¬ call.stage.IsOutside)
    (inside' : ∀ call, c'.get? id = some call → ¬ call.stage.IsOutside) :
    Alike id { s with calls := c } { s' with calls := c' } where
  frame := by rw [alike.frame]
  calls := same
  entered := ⟨alike.entered.1, inside⟩
  entered' := ⟨alike.entered'.1, inside'⟩

/-- The same is done to another call in both services. -/
theorem Alike.insert (alike : Alike id s s') (other : k ≠ id) (call : Call ρ) :
    Alike id { s with calls := s.calls.insert k call } { s' with calls := s'.calls.insert k call } := by
  refine alike.withCalls (fun l different => ?_) (fun call' found => alike.entered.2 call' ?_)
    fun call' found => alike.entered'.2 call' ?_
  · rw [SortedMap.get?_insert, SortedMap.get?_insert, alike.calls l different]
  · rwa [SortedMap.get?_insert, if_neg (Ne.symm other)] at found
  · rwa [SortedMap.get?_insert, if_neg (Ne.symm other)] at found

/-- A call may return in both services. -/
theorem Alike.erase (alike : Alike id s s') (k : CallId) :
    Alike id { s with calls := s.calls.erase k } { s' with calls := s'.calls.erase k } := by
  have kept : ∀ (s : Service ρ σ) call, (s.calls.erase k).get? id = some call →
      s.calls.get? id = some call := by
    intro s call found
    rw [SortedMap.get?_erase] at found
    split at found
    · cases found
    · exact found
  refine alike.withCalls (fun l different => ?_) (fun call found => alike.entered.2 call (kept s call found))
    fun call found => alike.entered'.2 call (kept s' call found)
  rw [SortedMap.get?_erase, SortedMap.get?_erase, alike.calls l different]

/-- What is reported may differ. -/
theorem Alike.report (alike : Alike id s s') (events events' : List Event) :
    Alike id (s.report events) (s'.report events') where
  frame := by rw [alike.frame]; rfl
  calls := alike.calls
  entered := alike.entered
  entered' := alike.entered'

/-- The call in which the services differ waits for no room. -/
theorem Alike.keepRoom (alike : Alike id s s') (v : WorkerId) :
    Alike id (s.keepRoom v).1 (s'.keepRoom v).1 := by
  unfold Service.keepRoom
  rw [alike.firstInLine?]
  split
  next k call first =>
    obtain ⟨found, -, waits⟩ := mem_callsAt.1 (mem_of_firstInLine? first)
    have other : k ≠ id := by
      rintro rfl
      exact alike.entered.2 call found (Stage.outside_of_isWaiting waits)
    exact alike.insert other _
  next => exact alike

/-- A verdict keeps a call inside. -/
theorem inside_of_verdict (entered : Entered id s) (v : WorkerId) (k : CallId) (task : TaskIndex)
    (operator : OperatorId) (rejection : Option SignatureError) :
    ∀ call, (s.note v (.verdict k task operator rejection)).1.calls.get? id = some call →
      ¬ call.stage.IsOutside := by
  intro call found
  rw [calls_note_verdict] at found
  split at found
  · obtain ⟨_, -, rfl⟩ := Option.map_eq_some_iff.1 found
    exact fun outside => outside
  · exact entered.2 call found

/-- A verdict on the call in which the services differ is a difference in that call alone. -/
theorem Alike.verdict (alike : Alike id s s') (v : WorkerId) (k : CallId) (task : TaskIndex)
    (operator : OperatorId) (rejection : Option SignatureError) :
    Alike id (s.note v (.verdict k task operator rejection)).1
      (s'.note v (.verdict k task operator rejection)).1 := by
  have frame : ∀ s : Service ρ σ, ∃ calls journal, (s.note v (.verdict k task operator rejection)).1 =
      { s with calls := calls, journal := journal } := by
    intro s
    unfold Service.note
    dsimp only
    split <;> exact ⟨_, _, rfl⟩
  obtain ⟨c, j, first⟩ := frame s
  obtain ⟨c', j', second⟩ := frame s'
  refine ⟨⟨?_, fun l other => ?_⟩, ⟨?_, inside_of_verdict alike.entered v k task operator rejection⟩,
    ⟨?_, inside_of_verdict alike.entered' v k task operator rejection⟩⟩
  · rw [first, second, alike.frame]
  · rw [calls_note_verdict, calls_note_verdict, alike.calls l other]
    split
    next same => rw [← same, alike.calls l other]
    next => rfl
  · rw [first]
    exact alike.entered.1
  · rw [second]
    exact alike.entered'.1

/-- A signal of a worker does the same in both services. -/
theorem Alike.note (alike : Alike id s s') (v : WorkerId) (signal : Signal) :
    Alike id (s.note v signal).1 (s'.note v signal).1 := by
  cases signal with
  | report event => exact alike.report _ _
  | taken call => exact alike.keepRoom v
  | verdict k task operator rejection => exact alike.verdict v k task operator rejection
  | accepted | rejected =>
    refine ⟨⟨?_, alike.calls⟩, alike.entered, alike.entered'⟩
    unfold Service.note
    rw [alike.frame]
  | alarm => exact alike

/-- So do all signals of a turn, one after the other. -/
theorem Alike.noteAll (v : WorkerId) (signals : List Signal) : ∀ {s s' : Service ρ σ}, Alike id s s' →
    Alike id (s.noteAll v signals).1 (s'.noteAll v signals).1 := by
  induction signals with
  | nil => exact fun alike => alike
  | cons signal rest ih => exact fun alike => ih (alike.note v signal)

/-- A turn that is noted in both services keeps them alike. -/
theorem Alike.noted (alike : Alike id s s') (v : WorkerId) (turn : Turn ρ σ) :
    Alike id (s.noted v turn) (s'.noted v turn) := by
  have noted := alike.noteAll v turn.signals
  refine ⟨⟨?_, noted.calls⟩, noted.entered, noted.entered'⟩
  unfold Service.noted
  rw [alike.workers, noted.frame]
  rfl

/-- The end of a worker takes the same route away and counts the same. -/
theorem Alike.retire (alike : Alike id s s') (v : WorkerId) (task : TaskIndex) (outcome : Outcome) :
    Alike id (s.retire v task outcome) (s'.retire v task outcome) := by
  refine ⟨⟨?_, alike.calls⟩, alike.entered, alike.entered'⟩
  unfold Service.retire Service.report
  rw [alike.frame]

/-- A response goes to the receiver in both services or is discarded in both. -/
theorem Alike.respond (alike : Alike id s s') (v : WorkerId) (task : TaskIndex) (response : TaskResponse ρ) :
    Alike id (s.respond v task response) (s'.respond v task response) := by
  have receiver : s'.receiver = s.receiver := by rw [alike.frame]
  unfold Service.respond
  rw [receiver]
  split
  · exact alike.report _ _
  · refine ⟨⟨?_, alike.calls⟩, alike.entered, alike.entered'⟩
    rw [alike.frame]

/-- A worker does in both services the same. -/
theorem Alike.work (alike : Alike id s s') (v : WorkerId) : Alike id (s.work E v) (s'.work E v) := by
  unfold Service.work
  rw [alike.workers, alike.now, alike.registry]
  split
  next => exact alike
  next w found =>
    have noted := alike.noted v (w.stride E s.now s.registry)
    cases fate : (w.stride E s.now s.registry).fate with
    | waiting phase =>
      rw [settle_waiting fate, settle_waiting fate, alike.workers]
      refine ⟨⟨?_, noted.calls⟩, noted.entered, noted.entered'⟩
      rw [noted.frame]
      rfl
    | finished response =>
      rw [settle_finished fate, settle_finished fate]
      exact (noted.retire v w.task _).respond v w.task response
    | crashed =>
      rw [settle_crashed fate, settle_crashed fate]
      exact noted.retire v w.task _

/-- A call that is abandoned leaves its room to the same call in both services. -/
theorem Alike.abandon (alike : Alike id s s') (k : CallId) (call : Call ρ) :
    Alike id (s.abandon k call).service (s'.abandon k call).service := by
  have left := (alike.report [.submissionCancelled call.task call.submission.operator]
    [.submissionCancelled call.task call.submission.operator]).erase k
  unfold Service.abandon
  dsimp only
  split
  · exact left.keepRoom call.worker
  · exact left

/-- A submission of another call enters the same inbox at the same place. -/
theorem Alike.send (alike : Alike id s s') (other : k ≠ id) (call : Call ρ) (worker : Worker ρ) :
    Alike id (s.send k call worker).service (s'.send k call worker).service := by
  have stage := alike.insert other { call with stage := .sent }
  refine ⟨⟨?_, stage.calls⟩, stage.entered, stage.entered'⟩
  unfold Service.send setStage
  rw [alike.frame]

/-- Another call is answered in both services the same. -/
theorem Alike.poll (alike : Alike id s s') (other : k ≠ id) :
    Alike id (s.poll k).service (s'.poll k).service ∧ (s'.poll k).answer = (s.poll k).answer ∧
      (s'.poll k).woken = (s.poll k).woken := by
  unfold Service.poll
  rw [alike.calls k other]
  cases found : s.calls.get? k with
  | none => exact ⟨alike, rfl, rfl⟩
  | some call =>
    dsimp only
    rw [alike.workers]
    cases cleared : call.cleared with
    | false =>
      rw [if_neg Bool.false_ne_true, if_neg Bool.false_ne_true]
      cases cancelled : call.cancelled with
      | true =>
        rw [if_pos rfl, if_pos rfl]
        refine ⟨alike.abandon k call, ?_, ?_⟩ <;>
        · unfold Service.abandon
          dsimp only
          split <;> rfl
      | false =>
        rw [if_neg Bool.false_ne_true, if_neg Bool.false_ne_true]
        exact ⟨alike.insert other _, rfl, rfl⟩
    | true =>
      rw [if_pos rfl, if_pos rfl]
      cases stage : call.stage with
      | answered rejection =>
        cases rejection <;> exact ⟨alike.erase k, rfl, rfl⟩
      | begun =>
        cases running : s.workers.get? call.worker with
        | none => exact ⟨alike.erase k, rfl, rfl⟩
        | some worker =>
          dsimp only
          rw [alike.hasRoom, alike.lastPlace]
          split
          · exact ⟨alike.send other call worker, rfl, rfl⟩
          · exact ⟨alike.insert other _, rfl, rfl⟩
      | admitted =>
        cases running : s.workers.get? call.worker with
        | none => exact ⟨alike.erase k, rfl, rfl⟩
        | some worker => exact ⟨alike.send other call worker, rfl, rfl⟩
      | waiting | sent =>
        cases running : s.workers.get? call.worker with
        | none => exact ⟨alike.erase k, rfl, rfl⟩
        | some worker => exact ⟨alike.insert other _, rfl, rfl⟩

/-- The token of another call fires in both services. -/
theorem Alike.cancel (alike : Alike id s s') (other : k ≠ id) : Alike id (s.cancel k).1 (s'.cancel k).1 := by
  unfold Service.cancel
  rw [alike.calls k other]
  split
  · exact alike.insert other _
  · exact alike

/-- A call finds the same route in both services and gets the same number. -/
theorem Alike.submit (alike : Alike id s s') (task : TaskIndex) (operator : OperatorId) (response : ρ)
    (signature : Signature) (cancelled : Bool) :
    Alike id (s.act E (.submit task operator response signature cancelled))
      (s'.act E (.submit task operator response signature cancelled)) := by
  have routes : s'.routes.get? task = s.routes.get? task := by rw [alike.frame]
  have made : s'.made = s.made := by rw [alike.frame]
  cases routed : s.routes.get? task with
  | none =>
    rw [act_submit_unrouted routed, act_submit_unrouted (routes.trans routed)]
    exact alike
  | some worker =>
    rw [act_submit_routed routed, act_submit_routed (routes.trans routed), made]
    have new := alike.insert (k := s.made) (Nat.ne_of_gt alike.entered.1)
      ⟨task, worker, ⟨s.made, operator, response, signature⟩, cancelled, .begun, false⟩
    refine ⟨⟨?_, new.calls⟩, ⟨Nat.lt_succ_of_lt alike.entered.1, new.entered.2⟩,
      ⟨Nat.lt_succ_of_lt alike.entered.1, new.entered'.2⟩⟩
    rw [alike.frame]

/-- A task is started in both services or in neither. -/
theorem Alike.startTask (alike : Alike id s s') (runtime : Bool) (t : TaskParameters) :
    Alike id (s.act E (.startTask runtime t)) (s'.act E (.startTask runtime t)) := by
  have launched : Alike id (s.launch t) (s'.launch t) := by
    refine ⟨⟨?_, alike.calls⟩, alike.entered, alike.entered'⟩
    unfold launch Service.report
    rw [alike.frame]
  have routes : s'.routes = s.routes := by rw [alike.frame]
  have config : s'.config = s.config := by rw [alike.frame]
  unfold act Service.startTask
  dsimp only
  rw [routes, config]
  split
  next => exact alike
  next =>
    split
    next => exact alike
    next =>
      split
      next => exact alike
      next =>
        split
        next => exact alike
        next =>
          split
          next => exact alike
          next => exact launched

/-- An action that does not concern the call does in both services the same. -/
theorem Alike.act (alike : Alike id s s') {a : Action ρ σ} (other : a.Concerns id = false) :
    Alike id (s.act E a) (s'.act E a) := by
  have receiver : s'.receiver = s.receiver := by rw [alike.frame]
  cases a with
  | startTask runtime t => exact alike.startTask runtime t
  | submit task operator response signature cancelled =>
    exact alike.submit task operator response signature cancelled
  | poll k => exact (alike.poll (of_decide_eq_false other)).1
  | cancel k => exact alike.cancel (of_decide_eq_false other)
  | work v => exact alike.work v
  | advance now =>
    refine ⟨⟨?_, alike.calls⟩, alike.entered, alike.entered'⟩
    show s'.advance now = { s.advance now with calls := s'.calls, journal := s'.journal }
    rw [alike.frame]
    rfl
  | registry registry events =>
    have changed : Alike id { s with registry := registry } { s' with registry := registry } := by
      refine ⟨⟨?_, alike.calls⟩, alike.entered, alike.entered'⟩
      rw [alike.frame]
    exact changed.report _ _
  | claimStream =>
    unfold Service.act claimStream
    dsimp only
    rw [receiver]
    split
    · refine ⟨⟨?_, alike.calls⟩, alike.entered, alike.entered'⟩
      rw [alike.frame]
    · exact alike
  | dropStream =>
    unfold Service.act dropStream
    dsimp only
    rw [receiver]
    split
    · refine ⟨⟨?_, alike.calls⟩, alike.entered, alike.entered'⟩
      rw [alike.frame]
    · exact alike
  | receive =>
    have next : s'.responses[s'.received]? = s.responses[s.received]? := by rw [alike.frame]
    unfold Service.act receive
    dsimp only
    rw [receiver, next]
    split
    · split
      · refine ⟨⟨?_, alike.calls⟩, alike.entered, alike.entered'⟩
        rw [alike.frame]
      · exact alike
    · exact alike

/-! ### What is seen of both -/

/-- What is seen of two services while actions are carried out is the same, but for one call. -/
structure SeenAlike (E : Setting ρ σ) (id : CallId) (s s' : Service ρ σ) (as as' : List (Action ρ σ)) :
    Prop where
  takes : s'.along E takes as' = s.along E takes as
  merges : s'.along E (merges E) as' = s.along E (merges E) as
  endings : s'.along E (endings E) as' = s.along E (endings E) as
  entries : ∀ k, k ≠ id → valuesAt k (s'.along E entries as') = valuesAt k (s.along E entries as)
  answers : ∀ k, k ≠ id → valuesAt k (s'.along E answers as') = valuesAt k (s.along E answers as)

/-- Of an action that does not concern the call the same is seen in both services. -/
theorem Alike.sees (alike : Alike id s s') {a : Action ρ σ} (other : a.Concerns id = false) :
    SeenAlike E id s s' [a] [a] := by
  have entries : s'.entries a = s.entries a := by
    cases a with
    | poll k =>
      show (s'.poll k).woken.toList.map _ = (s.poll k).woken.toList.map _
      rw [(alike.poll (of_decide_eq_false other)).2.2]
    | _ => rfl
  have answers : s'.answers a = s.answers a := by
    cases a with
    | poll k =>
      show (s'.poll k).answer.toList.map _ = (s.poll k).answer.toList.map _
      rw [(alike.poll (of_decide_eq_false other)).2.1]
    | _ => rfl
  refine ⟨?_, ?_, ?_, fun k _ => ?_, fun k _ => ?_⟩ <;> rw [along, along, along, along]
  · rw [alike.frame]
    cases a <;> rfl
  · rw [alike.frame]
    cases a <;> rfl
  · rw [alike.frame]
    cases a <;> rfl
  · rw [entries]
  · rw [answers]

/-! ### What concerns the call

An action that concerns the call is carried out in one service only. It changes the call, and takes it out
of the service at most. -/

/-- What happens to the call in which the services differ changes nothing but that call. -/
theorem Alike.alter (alike : Alike id s s') {calls : SortedMap CallId (Call ρ)} {journal : List Event}
    (others : ∀ k, k ≠ id → calls.get? k = s.calls.get? k)
    (inside : ∀ call, calls.get? id = some call → ¬ call.stage.IsOutside) :
    Alike id { s with calls := calls, journal := journal } s' where
  frame := by
    show s' = { s with calls := s'.calls, journal := s'.journal }
    exact alike.frame
  calls k other := (alike.calls k other).trans (others k other).symm
  entered := ⟨alike.entered.1, inside⟩
  entered' := alike.entered'

/-- The call itself may return. -/
theorem Alike.alter_erase (alike : Alike id s s') {journal : List Event} :
    Alike id { s with calls := s.calls.erase id, journal := journal } s' := by
  refine alike.alter (fun k other => ?_) fun call found => ?_
  · rw [SortedMap.get?_erase, if_neg other]
  · rw [SortedMap.get?_erase, if_pos rfl] at found
    cases found

/-- The call itself may change, if it stays inside. -/
theorem Alike.alter_insert (alike : Alike id s s') {call : Call ρ} (inside : ¬ call.stage.IsOutside) :
    Alike id { s with calls := s.calls.insert id call } s' := by
  refine alike.alter (fun k other => ?_) fun call' found => ?_
  · rw [SortedMap.get?_insert, if_neg other]
  · rw [SortedMap.get?_insert, if_pos rfl] at found
    cases found
    exact inside

/-- An action that concerns the call in which the services differ makes no other difference. -/
theorem Alike.silent (alike : Alike id s s') {a : Action ρ σ} (own : a.Concerns id = true) :
    Alike id (s.act E a) s' := by
  cases a with
  | poll k =>
    cases of_decide_eq_true own
    have look := s.look_poll id
    show Alike id (s.poll id).service s'
    generalize s.poll id = polled at look
    cases look with
    | absent => exact alike
    | @cleared call found | @rests call found =>
      have inside := alike.entered.2 call found
      exact alike.alter_insert inside
    | @abandoned call found =>
      have inside := alike.entered.2 call found
      have same : (s.abandon id call).service = { s with
          calls := s.calls.erase id
          journal := s.journal ++ [.submissionCancelled call.task call.submission.operator] } := by
        unfold Service.abandon
        dsimp only
        rw [if_neg]
        · rfl
        · intro admitted
          rw [admitted] at inside
          exact inside trivial
      rw [same]
      exact alike.alter_erase
    | answered | stranded => exact alike.alter_erase
    | @queued call _ found begun =>
      exact absurd (by rw [begun]; trivial) (alike.entered.2 call found)
    | @sent call _ found _ stage =>
      refine absurd ?_ (alike.entered.2 call found)
      rcases stage with stage | stage <;>
      · rw [stage]
        trivial
  | cancel k =>
    cases of_decide_eq_true own
    unfold Service.act Service.cancel
    dsimp only
    split
    next call found =>
      have inside := alike.entered.2 call found
      exact alike.alter_insert inside
    next => exact alike
  | _ => cases own

/-- Of an action that concerns the call nothing is seen but what becomes of that call. -/
theorem seenAlike_of_concerns (s s' : Service ρ σ) {a : Action ρ σ} (own : a.Concerns id = true) :
    SeenAlike E id s s' [a] [] := by
  cases a with
  | poll k =>
    cases of_decide_eq_true own
    refine ⟨rfl, rfl, rfl, fun k other => ?_, fun k other => ?_⟩
    · rw [along, along, along, List.append_nil]
      exact (valuesAt_map_other (Ne.symm other) _).symm
    · rw [along, along, along, List.append_nil]
      exact (valuesAt_map_other (Ne.symm other) _).symm
  | cancel k => exact ⟨rfl, rfl, rfl, fun _ _ => rfl, fun _ _ => rfl⟩
  | _ => cases own

/-- What is seen alike in two stretches is seen alike in both together. -/
theorem SeenAlike.append {as as' bs bs' : List (Action ρ σ)} (first : SeenAlike E id s s' as as')
    (second : SeenAlike E id (s.after E as) (s'.after E as') bs bs') :
    SeenAlike E id s s' (as ++ bs) (as' ++ bs') where
  takes := by rw [along_append, along_append, first.takes, second.takes]
  merges := by rw [along_append, along_append, first.merges, second.merges]
  endings := by rw [along_append, along_append, first.endings, second.endings]
  entries k other := by
    rw [along_append, along_append, valuesAt_append, valuesAt_append, first.entries k other,
      second.entries k other]
  answers k other := by
    rw [along_append, along_append, valuesAt_append, valuesAt_append, first.answers k other,
      second.answers k other]

/-! ### Runs with and without it -/

/-- Whatever happens to the call in which the services differ may as well not happen. -/
theorem Alike.after (as : List (Action ρ σ)) : ∀ {s s' : Service ρ σ}, Alike id s s' →
    Alike id (s.after E as) (s'.after E (as.filter fun a => !a.Concerns id)) ∧
      SeenAlike E id s s' as (as.filter fun a => !a.Concerns id) := by
  induction as with
  | nil => exact fun alike => ⟨alike, rfl, rfl, rfl, fun _ _ => rfl, fun _ _ => rfl⟩
  | cons a rest ih =>
    intro s s' alike
    cases own : a.Concerns id with
    | true =>
      obtain ⟨later, sees⟩ := ih (alike.silent (E := E) own)
      rw [List.filter_cons_of_neg (by simp [own])]
      exact ⟨later, (seenAlike_of_concerns s s' own).append sees⟩
    | false =>
      obtain ⟨later, sees⟩ := ih (alike.act (E := E) own)
      rw [List.filter_cons_of_pos (by simp [own])]
      exact ⟨later, (alike.sees own).append sees⟩

theorem SameBut.symm (same : SameBut id s s') : SameBut id s' s where
  frame := by rw [same.frame]
  calls k other := (same.calls k other).symm

theorem SameBut.trans {s'' : Service ρ σ} (first : SameBut id s s') (second : SameBut id s' s'') :
    SameBut id s s'' where
  frame := by rw [second.frame, first.frame]
  calls k other := (second.calls k other).trans (first.calls k other)

theorem SeenAlike.symm {as as' : List (Action ρ σ)} (seen : SeenAlike E id s s' as as') :
    SeenAlike E id s' s as' as where
  takes := seen.takes.symm
  merges := seen.merges.symm
  endings := seen.endings.symm
  entries k other := (seen.entries k other).symm
  answers k other := (seen.answers k other).symm

theorem SeenAlike.trans {s'' : Service ρ σ} {as as' as'' : List (Action ρ σ)}
    (first : SeenAlike E id s s' as as') (second : SeenAlike E id s' s'' as' as'') :
    SeenAlike E id s s'' as as'' where
  takes := second.takes.trans first.takes
  merges := second.merges.trans first.merges
  endings := second.endings.trans first.endings
  entries k other := (second.entries k other).trans (first.entries k other)
  answers k other := (second.answers k other).trans (first.answers k other)

/-- From the time at which a submission has entered the inbox it makes no difference to anything else what
becomes of its call. -/
theorem alike_of_entered (entered : Entered id s) {as as' : List (Action ρ σ)}
    (same : (as.filter fun a => !a.Concerns id) = as'.filter fun a => !a.Concerns id) :
    SameBut id (s.after E as) (s.after E as') ∧ SeenAlike E id s s as as' := by
  have refl : Alike id s s := ⟨⟨rfl, fun _ _ => rfl⟩, entered, entered⟩
  obtain ⟨one, seen⟩ := refl.after (E := E) as
  obtain ⟨two, seen'⟩ := refl.after (E := E) as'
  rw [← same] at two seen'
  exact ⟨one.toSameBut.trans two.toSameBut.symm, seen.trans seen'.symm⟩

/-! ### What calls are told

The clauses come from the standing of each call, from the books of the tasks and from the runs of two
services that differ in one call. -/

/-- What calls are told agrees with what their workers do in the course of some actions. -/
structure Receipts (E : Setting ρ σ) (s : Service ρ σ) (actions : List (Action ρ σ)) : Prop where
  /-- What a call has returned fits what was merged of it. -/
  accord : ∀ id call, (s.trail E actions id).made = [call] → Accord (s.trail E actions id) call
  /-- Nothing is merged or answered but calls that were made. -/
  strangers : ∀ id, (s.trail E actions id).made = [] → s.trail E actions id = ⟨[], [], [], [], []⟩
  /-- The worker of a call is the one whose route the call has found, for a task of the index asked for. -/
  routed : ∀ id call, (s.trail E actions id).made = [call] → ∃ before a rest t,
    actions = before ++ a :: rest ∧ (s.after E before).routes.get? call.task = some call.worker ∧
    (call.worker, t) ∈ s.along E starts before ∧ t.index = call.task
  /-- A worker that crashes while it merges has opened a window whose end the clock cannot express. -/
  overruns : ∀ id, ∀ e ∈ (s.trail E actions id).overruns, ∃ before rest w,
    actions = before ++ .work e.1 :: rest ∧ (s.after E before).workers.get? e.1 = some w ∧
    w.Overruns E.judge (s.after E before).now
  /-- Nothing is merged of a call whose token has fired before its submission has entered the inbox, unless
  the token has fired between a look of the call at it and the next step of the call, and that step has put
  the submission into the inbox. -/
  cancelled : ∀ before rest id call, actions = before ++ .cancel id :: rest →
    (s.trail E before id).made = [call] → (s.trail E before id).entries = [] →
    (s.trail E actions id).merges = [] ∨ s.Outruns E before rest id
  /-- The state of a running worker is what the submissions that it has taken make of its snapshot, and the
  accepted ones are those that it has merged. -/
  running : ∀ v t phase, (s.after E actions).tenure v = some (t, phase) →
    phase.Holds E t (valuesAt v (s.along E takes actions)) (valuesAt v (s.along E (merges E) actions))
  /-- So is the response of a worker that has finished. -/
  finished : ∀ v response, (v, some response) ∈ s.along E (endings E) actions → ∃ t,
    (v, t) ∈ s.along E starts actions ∧
    response.Fits E t (valuesAt v (s.along E takes actions)) (valuesAt v (s.along E (merges E) actions))
  /-- Once a submission has entered the inbox, it makes no difference to anything else whether and when the
  token of its call fires and what the call returns. -/
  withdrawn : ∀ before rest rest' id, actions = before ++ rest → (s.trail E before id).entries ≠ [] →
    (rest.filter fun a => !a.Concerns id) = (rest'.filter fun a => !a.Concerns id) →
    SameBut id (s.after E actions) (s.after E (before ++ rest')) ∧
      SeenAlike E id s s actions (before ++ rest')

/-- A call whose submission has entered an inbox on record is not at a stage outside it. -/
theorem entered_of_standing {t : Trail ρ} (standing : Standing s id t) (entered : t.entries ≠ []) :
    Entered id s := by
  cases standing with
  | unmade => exact absurd rfl entered
  | @made made place t old own worker early known located settled =>
    refine ⟨old, fun call found outside => entered ?_⟩
    generalize t.answers = answers at settled
    cases settled with
    | returned absent =>
      rw [found] at absent
      cases absent
    | pending found' _ fits =>
      rw [found] at found'
      cases found'
      cases fits.outside outside
      exact located.of_outside.1

/-- In every order in which calls are made, looked at and cancelled and workers run, crash and finish, a
call is told what became of its submission; but it may be told that its task was not found after a
worker has merged its submission and crashed. -/
theorem receipts (E : Setting ρ σ) {config : Config} {registry : σ} (created : create config registry = .ok s)
    (actions : List (Action ρ σ)) : s.Receipts E actions := by
  have lives := lives_after E created actions
  have making : ∀ id call, (s.trail E actions id).made = [call] → (id, call) ∈ s.along E makes actions := by
    intro id call made
    have alone : valuesAt id (s.along E makes actions) = [call] := made
    rw [← mem_valuesAt, alone]
    exact List.mem_singleton_self call
  refine ⟨fun id call made => ?_, fun id none => ?_, fun id call made => ?_, fun id e member => ?_, ?_,
    fun v t phase works => (lives.working v t phase works).2.2,
    fun v response ended => ?_, ?_⟩
  · obtain ⟨before, a, rest, -, makes⟩ := mem_along.1 (making id call made)
    exact (standing_after E created actions id).accord made (uncleared_of_makes makes)
  · have standing := standing_after E created actions id
    generalize s.trail E actions id = t at standing none
    cases standing with
    | unmade => rfl
    | made _ _ _ _ known =>
      rw [known] at none
      cases none
  · obtain ⟨before, a, rest, split, makes⟩ := mem_along.1 (making id call made)
    have earlier := lives_after E created before
    have routed := routed_of_makes makes
    obtain ⟨t, phase, works, index⟩ := (earlier.routes _ _).1 routed
    exact ⟨before, a, rest, t, split, routed, (earlier.working _ _ _ works).1, index⟩
  · obtain ⟨before, a, rest, split, overrun⟩ := mem_along.1 (List.mem_filter.1 member).1
    obtain ⟨w, rfl, found, overruns⟩ := overruns_cause (lives_after E created before) overrun
    exact ⟨before, rest, w, split, found, overruns⟩
  · rintro before rest id call rfl made outside
    exact merges_of_cancel created before rest made outside
  · obtain ⟨t, began, fits⟩ := lives.fitting _ ended
    exact ⟨t, began, fits response rfl⟩
  · rintro before rest rest' id rfl entered same
    have inside := entered_of_standing (standing_after E created before id) entered
    obtain ⟨alike, seen⟩ := alike_of_entered (E := E) inside same
    rw [after_append, after_append]
    have start : SeenAlike E id s s before before :=
      ⟨rfl, rfl, rfl, fun _ _ => rfl, fun _ _ => rfl⟩
    exact ⟨alike, start.append seen⟩

/-- An inbox with room for one. The token of call 0 fires between the look of the call at it and its next
step, and the submission is merged all the same; so is that of call 1, whose token fires while it is in the
inbox. Call 2 repeats call 1 and is rejected; call 3 meets the thresholds; call 4 comes too late; the token
of call 5 has fired before. -/
theorem receipts_sample_run :
    let submit (operator response : Nat) (cancelled : Bool) : Action Nat Nat :=
      .submit 1 (SampleTask.operatorId operator) response ⟨.ofNat 48 operator⟩ cancelled
    let actions := [.startTask true (SampleTask.parameters 0), .work 0, .work 0, .work 0, submit 2 8 false,
      .poll 0, .cancel 0, .poll 0, .poll 0, .work 0, .poll 0, submit 1 7 false, submit 1 7 false,
      submit 3 7 false, submit 2 7 false, submit 2 7 true, .poll 1, .poll 1, .poll 2, .poll 2, .poll 3,
      .poll 3, .poll 5, .cancel 1, .poll 1, .poll 1, .work 0, .poll 2, .poll 2, .work 0, .poll 2, .poll 3,
      .poll 3, .work 0, .work 0, .poll 3, .poll 4, .poll 4]
    ∃ s : Service Nat Nat, create ⟨1, 10⟩ 0 = .ok s ∧
      (s.along SampleTask.setting answers actions).map (fun e => (e.1, e.2.toOption.isSome)) =
        [(0, false), (5, false), (1, false), (2, false), (3, true), (4, false)] ∧
      (s.along SampleTask.setting (merges SampleTask.setting) actions).map (·.2.call) = [0, 1, 3] ∧
      s.Receipts SampleTask.setting actions := by
  intro submit actions
  have created : create ⟨1, 10⟩ 0 = .ok (_ : Service Nat Nat) := rfl
  exact ⟨_, created, by decide +kernel, by decide +kernel, receipts SampleTask.setting created actions⟩

/-- In the first run the second call meets the thresholds and is merged. The window that it opens has no end
that the clock can express, and the call is told that there is no such task. In the second run the token of
a call fires after the call has looked at it, and before anything is in the inbox; the submission then enters
the inbox and is merged. -/
theorem merged_unfound_or_outrun :
    let submit (operator response : Nat) : Action Nat Nat :=
      .submit 1 (SampleTask.operatorId operator) response ⟨.ofNat 48 operator⟩ false
    let start (window : Nat) : List (Action Nat Nat) :=
      [.startTask true (SampleTask.parameters window), .work 0, .work 0, .work 0]
    let unfound := start longestSpan ++ [submit 1 7, submit 3 7, .poll 0, .poll 0, .poll 1, .poll 1, .work 0,
      .work 0, .poll 1]
    let before := start 0 ++ [submit 1 7, .poll 0]
    let outrun := before ++ [.cancel 0, .poll 0, .poll 0, .work 0, .poll 0]
    ∃ s : Service Nat Nat, create .default 0 = .ok s ∧
      (s.trail SampleTask.setting unfound 1).answers = [.error (.taskNotFound 1)] ∧
      (s.trail SampleTask.setting unfound 1).merges.map (fun e => (e.1, e.2.call)) = [(0, 1)] ∧
      (s.trail SampleTask.setting before 0).entries = [] ∧
      (s.trail SampleTask.setting outrun 0).answers = [.error (.cancelled 1)] ∧
      (s.trail SampleTask.setting outrun 0).merges.map (fun e => (e.1, e.2.call)) = [(0, 0)] :=
  ⟨_, rfl, by decide +kernel, by decide +kernel, by decide +kernel, by decide +kernel, by decide +kernel⟩

end Service

end Attestation
