/-
Module: Attestation.Proofs.Interleaving
Purpose: All that can happen to a service, in any order. An action is a call of a client, one step of a call
  that has not returned, or one stride of a worker; the state after a list of actions is reached by
  carrying them out one by one, and what happened on the way is read off step by step. The turns in which
  a schedule lets workers and calls run are lists of such actions.
Main exports: Service.work, Service.Action, Service.act, Service.act_startTask, Service.act_outward,
  Service.after, Service.along, Service.mem_along, Service.noted_frame, Service.work_waiting,
  Service.work_ended, Service.Look, Service.look_poll, Service.run_eq_works, Service.visit_eq_polls
-/
import Attestation.Proofs.Endings
import Attestation.Service.Delivery

namespace Attestation

namespace SortedMap

variable {κ ν : Type} [Ord κ] [Std.TransOrd κ] [Std.LawfulEqOrd κ] [DecidableEq κ]

/-- Of two values that are set at a key the second counts. -/
theorem insert_insert (m : SortedMap κ ν) (k : κ) (v w : ν) : (m.insert k v).insert k w = m.insert k w := by
  apply ext_get?
  intro k'
  rw [get?_insert, get?_insert, get?_insert]
  split <;> rfl

/-- A value that is erased may as well not have been put there. -/
theorem erase_insert (m : SortedMap κ ν) (k : κ) (v : ν) : (m.insert k v).erase k = m.erase k := by
  apply ext_get?
  intro k'
  rw [get?_erase, get?_erase, get?_insert]
  split <;> rfl

/-- To put a value where it is already changes nothing. -/
theorem insert_of_get? {m : SortedMap κ ν} {k : κ} {v : ν} (found : m.get? k = some v) :
    m.insert k v = m := by
  apply ext_get?
  intro k'
  rw [get?_insert]
  split
  next same => rw [same, found]
  next => rfl

end SortedMap

namespace Service

variable {ρ σ : Type}

/-! ### Actions

Whatever a service does is a list of these actions. A worker takes its turn stride by stride, so that other
actions can come between any two submissions that it takes. -/

/-- A worker takes one stride. -/
def work (E : Setting ρ σ) (s : Service ρ σ) (id : WorkerId) : Service ρ σ :=
  match s.workers.get? id with
  | none => s
  | some w => (s.settle id w (w.stride E s.now s.registry)).service

/-- What can happen to a service while its runtime lasts. The end of the runtime, which aborts the workers
that still run, is no action: what it does is `Service.shutdown`. -/
inductive Action (ρ σ : Type) where
  | startTask (runtime : Bool) (parameters : TaskParameters)
  | submit (task : TaskIndex) (operator : OperatorId) (response : ρ) (signature : Signature)
    (cancelled : Bool)
  /-- A call that has not returned takes a step. -/
  | poll (id : CallId)
  /-- The token of a call fires. -/
  | cancel (id : CallId)
  | work (id : WorkerId)
  | advance (now : Nat)
  /-- The registry changes and reports. -/
  | registry (registry : σ) (events : List Event)
  | claimStream
  | dropStream
  | receive

/-- The state after an action. What is refused changes nothing, and only a receiving end that was claimed
can be read. -/
def act (E : Setting ρ σ) (s : Service ρ σ) : Action ρ σ → Service ρ σ
  | .startTask runtime t => (s.startTask runtime t).toOption.getD s
  | .submit task operator response signature cancelled =>
    (s.submit task operator response signature cancelled).toOption.getD s
  | .poll id => (s.poll id).service
  | .cancel id => (s.cancel id).1
  | .work id => s.work E id
  | .advance now => s.advance now
  | .registry registry events => { s with registry := registry }.report events
  | .claimStream => s.claimStream.2
  | .dropStream => s.dropStream
  | .receive => if s.receiver = .claimed then s.receive.2 else s

section Starting

/-- A task is started only under a free index, and then its worker is launched. -/
theorem startTask_eq_ok {s next : Service ρ σ} {runtime : Bool} {t : TaskParameters}
    (done : s.startTask runtime t = .ok next) : s.routes.get? t.index = none ∧ next = s.launch t := by
  unfold startTask at done
  split at done
  next => cases done
  next =>
    split at done
    next => cases done
    next =>
      split at done
      next => cases done
      next =>
        split at done
        next => cases done
        next free =>
          split at done
          next => cases done
          next =>
            cases done
            unfold SortedMap.contains at free
            rw [Option.isSome_iff_ne_none, not_not] at free
            exact ⟨free, rfl⟩

/-- A task is started, or nothing changes. -/
theorem act_startTask (E : Setting ρ σ) (s : Service ρ σ) (runtime : Bool) (t : TaskParameters) :
    (s.startTask runtime t = .ok (s.launch t) ∧ s.routes.get? t.index = none ∧
      s.act E (.startTask runtime t) = s.launch t) ∨
    (∃ e, s.startTask runtime t = .error e) ∧ s.act E (.startTask runtime t) = s := by
  rw [act]
  cases done : s.startTask runtime t with
  | ok next =>
    obtain ⟨free, rfl⟩ := startTask_eq_ok done
    exact .inl ⟨rfl, free, rfl⟩
  | error e => exact .inr ⟨⟨e, rfl⟩, rfl⟩

end Starting

theorem work_of_gone {E : Setting ρ σ} {s : Service ρ σ} {id : WorkerId}
    (gone : s.workers.get? id = none) : s.act E (.work id) = s := by
  rw [act, work, gone]

section Submitting

variable {E : Setting ρ σ} {s : Service ρ σ} {task : TaskIndex} {operator : OperatorId} {response : ρ}
  {signature : Signature} {cancelled : Bool}

/-- A call that finds no route is refused at once and leaves no trace. -/
theorem act_submit_unrouted (unrouted : s.routes.get? task = none) :
    s.act E (.submit task operator response signature cancelled) = s := by
  rw [act, submit, unrouted]
  rfl

/-- A call that finds a route is on its way to the worker there. -/
theorem act_submit_routed {worker : WorkerId} (routed : s.routes.get? task = some worker) :
    s.act E (.submit task operator response signature cancelled) =
      { s with
        calls := s.calls.insert s.made
          ⟨task, worker, ⟨s.made, operator, response, signature⟩, cancelled, .begun, false⟩
        made := s.made + 1 } := by
  rw [act, submit, routed]
  rfl

end Submitting

/-- The action is about the clock, the registry or the stream. -/
def Action.IsOutward : Action ρ σ → Prop
  | .advance _ | .registry _ _ | .claimStream | .dropStream | .receive => True
  | _ => False

/-- Of such an action the tasks and the calls see nothing. -/
theorem act_outward (E : Setting ρ σ) (s : Service ρ σ) {a : Action ρ σ} (outward : a.IsOutward) :
    ∃ now registry received receiver journal, s.act E a =
      { s with
        now := now
        registry := registry
        received := received
        receiver := receiver
        journal := journal } := by
  cases a with
  | advance now => exact ⟨_, _, _, _, _, rfl⟩
  | registry registry events => exact ⟨_, _, _, _, _, rfl⟩
  | claimStream =>
    rw [act, claimStream]
    split <;> exact ⟨_, _, _, _, _, rfl⟩
  | dropStream =>
    rw [act, dropStream]
    split <;> exact ⟨_, _, _, _, _, rfl⟩
  | receive =>
    rw [act, receive]
    split
    · split <;> exact ⟨_, _, _, _, _, rfl⟩
    · exact ⟨_, _, _, _, _, rfl⟩
  | _ => exact outward.elim

/-! ### Runs -/

/-- The state after a list of actions. -/
def after (E : Setting ρ σ) (s : Service ρ σ) (actions : List (Action ρ σ)) : Service ρ σ :=
  actions.foldl (act E) s

/-- What is observed of a list of actions, in order. -/
def along {α : Type} (E : Setting ρ σ) (observe : Service ρ σ → Action ρ σ → List α) (s : Service ρ σ) :
    List (Action ρ σ) → List α
  | [] => []
  | a :: rest => observe s a ++ (s.act E a).along E observe rest

section Histories

variable {α : Type} {E : Setting ρ σ} {observe : Service ρ σ → Action ρ σ → List α}

@[simp] theorem after_nil (s : Service ρ σ) : s.after E [] = s := rfl

@[simp] theorem along_nil (s : Service ρ σ) : s.along E observe [] = [] := rfl

theorem along_single (s : Service ρ σ) (a : Action ρ σ) : s.along E observe [a] = observe s a :=
  List.append_nil _

/-- A run is carried out part by part. -/
theorem after_append (s : Service ρ σ) (as bs : List (Action ρ σ)) :
    s.after E (as ++ bs) = (s.after E as).after E bs := List.foldl_append

theorem after_snoc (s : Service ρ σ) (as : List (Action ρ σ)) (a : Action ρ σ) :
    s.after E (as ++ [a]) = (s.after E as).act E a := after_append s as [a]

/-- What is observed in a run is observed part by part. -/
theorem along_append (s : Service ρ σ) (as bs : List (Action ρ σ)) :
    s.along E observe (as ++ bs) = s.along E observe as ++ (s.after E as).along E observe bs := by
  induction as generalizing s with
  | nil => rfl
  | cons a rest ih =>
    rw [List.cons_append, along, along, ih, List.append_assoc]
    rfl

theorem along_snoc (s : Service ρ σ) (as : List (Action ρ σ)) (a : Action ρ σ) :
    s.along E observe (as ++ [a]) = s.along E observe as ++ observe (s.after E as) a := by
  rw [along_append, along, along_nil, List.append_nil]

/-- What is observed is observed of one of the actions. -/
theorem mem_along {x : α} {actions : List (Action ρ σ)} : ∀ {s : Service ρ σ},
    x ∈ s.along E observe actions ↔
      ∃ before a rest, actions = before ++ a :: rest ∧ x ∈ observe (s.after E before) a := by
  induction actions with
  | nil => simp
  | cons a rest ih =>
    intro s
    rw [along, List.mem_append, ih]
    constructor
    · rintro (first | ⟨before, a', rest', rfl, later⟩)
      · exact ⟨[], a, rest, rfl, first⟩
      · exact ⟨a :: before, a', rest', rfl, later⟩
    · rintro ⟨_ | ⟨b, before⟩, a', rest', split, observed⟩
      · cases split
        exact .inl observed
      · cases split
        exact .inr ⟨before, a', rest', rfl, observed⟩

end Histories

section Notes

/-! ### What workers signal -/

/-- Passing on signals changes the calls, the counters and the journal and nothing else. -/
theorem noteAll_frame (w : WorkerId) : ∀ (signals : List Signal) (s : Service ρ σ),
    ∃ calls metrics journal, (s.noteAll w signals).1 =
      { s with calls := calls, metrics := metrics, journal := journal } := by
  have note : ∀ (s : Service ρ σ) (signal : Signal), ∃ calls metrics journal, (s.note w signal).1 =
      { s with calls := calls, metrics := metrics, journal := journal } := by
    intro s signal
    cases signal with
    | taken call =>
      unfold Service.note keepRoom
      dsimp only
      split <;> exact ⟨_, _, _, rfl⟩
    | verdict call task operator rejection =>
      unfold Service.note
      dsimp only
      split <;> exact ⟨_, _, _, rfl⟩
    | _ => exact ⟨_, _, _, rfl⟩
  intro signals
  induction signals with
  | nil => exact fun s => ⟨_, _, _, rfl⟩
  | cons signal rest ih =>
    intro s
    obtain ⟨calls, metrics, journal, later⟩ := ih (s.note w signal).1
    obtain ⟨_, _, _, first⟩ := note s signal
    refine ⟨calls, metrics, journal, later.trans ?_⟩
    rw [first]

theorem noteAll_cons (w : WorkerId) (signal : Signal) (rest : List Signal) (s : Service ρ σ) :
    (s.noteAll w (signal :: rest)).1 = ((s.note w signal).1.noteAll w rest).1 := rfl

/-- Signals are noted one after the other. -/
theorem noteAll_append (w : WorkerId) (first second : List Signal) (s : Service ρ σ) :
    (s.noteAll w (first ++ second)).1 = ((s.noteAll w first).1.noteAll w second).1 := by
  induction first generalizing s with
  | nil => rfl
  | cons signal rest ih => exact ih (s.note w signal).1

/-- The service with another registry and other workers. -/
def under (s : Service ρ σ) (registry : σ) (workers : SortedMap WorkerId (Worker ρ)) : Service ρ σ :=
  { s with registry := registry, workers := workers }

/-- Passing on signals does not depend on the registry and the workers. -/
theorem noteAll_under (w : WorkerId) (registry : σ) (workers : SortedMap WorkerId (Worker ρ)) :
    ∀ (signals : List Signal) (s : Service ρ σ), ((s.under registry workers).noteAll w signals).1 =
      (s.noteAll w signals).1.under registry workers := by
  have note : ∀ (s : Service ρ σ) (signal : Signal),
      ((s.under registry workers).note w signal).1 = (s.note w signal).1.under registry workers := by
    intro s signal
    cases signal with
    | taken call =>
      unfold Service.note keepRoom firstInLine? callsAt under
      dsimp only
      split <;> rfl
    | verdict call task operator rejection =>
      unfold Service.note under
      dsimp only
      split <;> rfl
    | _ => rfl
  intro signals
  induction signals with
  | nil => exact fun s => rfl
  | cons signal rest ih =>
    intro s
    rw [noteAll_cons, noteAll_cons, note, ih]

/-- The service after the signals of a turn were passed on, before anything is done about its fate. -/
def noted (s : Service ρ σ) (id : WorkerId) (turn : Turn ρ σ) : Service ρ σ :=
  (s.noteAll id turn.signals).1.under turn.registry s.workers

/-- Of the service only the calls, the counters, the journal and the registry change. -/
theorem noted_frame (s : Service ρ σ) (id : WorkerId) (turn : Turn ρ σ) :
    ∃ calls metrics journal, s.noted id turn =
      { s with calls := calls, metrics := metrics, journal := journal, registry := turn.registry } := by
  obtain ⟨calls, metrics, journal, same⟩ := noteAll_frame id turn.signals s
  refine ⟨calls, metrics, journal, ?_⟩
  unfold noted
  rw [same]
  rfl

/-- Signals may be noted before or after the registry is taken over from the turn. -/
theorem noteAll_registry (s : Service ρ σ) (id : WorkerId) (turn : Turn ρ σ) :
    ({ s with registry := turn.registry }.noteAll id turn.signals).1 = s.noted id turn :=
  noteAll_under id turn.registry s.workers turn.signals s

end Notes

section Turns

variable {E : Setting ρ σ} {s : Service ρ σ} {id : WorkerId} {w : Worker ρ} {turn : Turn ρ σ}

/-! ### Turns

What the program does in one turn of a worker is the effect of its strides, one after the other. -/

/-- A worker that waits is put back in its new phase. -/
theorem settle_waiting {phase : Phase ρ} (going : turn.fate = .waiting phase) :
    (s.settle id w turn).service =
      (s.noted id turn).under turn.registry (s.workers.insert id (w.rested turn phase)) := by
  unfold settle
  rw [going, ← noteAll_registry]
  dsimp only
  rw [noteAll_registry]
  rfl

/-- A worker that has finished leaves and gives its response. -/
theorem settle_finished {response : TaskResponse ρ} (finished : turn.fate = .finished response) :
    (s.settle id w turn).service =
      ((s.noted id turn).retire id w.task response.outcome).respond id w.task response := by
  unfold settle
  rw [finished, ← noteAll_registry]

/-- A worker that has crashed leaves without a response. -/
theorem settle_crashed (crashed : turn.fate = .crashed) :
    (s.settle id w turn).service = (s.noted id turn).retire id w.task .aborted := by
  unfold settle
  rw [crashed, ← noteAll_registry]

/-- A worker that ends is removed, whatever it was. -/
theorem retire_insert (s : Service ρ σ) (registry : σ) (workers : SortedMap WorkerId (Worker ρ))
    (id : WorkerId) (w : Worker ρ) (task : TaskIndex) (outcome : Outcome) :
    (s.under registry (workers.insert id w)).retire id task outcome =
      (s.under registry workers).retire id task outcome := by
  unfold retire under
  rw [SortedMap.erase_insert]

/-- A turn that follows another at the same instant may as well be taken over with it. -/
theorem settle_after {first second : Turn ρ σ} {phase : Phase ρ} (going : first.fate = .waiting phase) :
    (s.settle id w (second.after first.signals)).service =
      ((s.settle id w first).service.settle id (w.rested first phase) second).service := by
  have workers : (s.settle id w first).service.workers = s.workers.insert id (w.rested first phase) := by
    rw [settle_waiting going]
    rfl
  have noted : (s.settle id w first).service.noted id second =
      (s.noted id (second.after first.signals)).under second.registry
        (s.workers.insert id (w.rested first phase)) := by
    unfold Service.noted
    rw [workers, settle_waiting going, noteAll_under]
    unfold Service.noted
    rw [noteAll_under, ← noteAll_append]
    rfl
  cases fate : second.fate with
  | waiting next =>
    have both : (second.after first.signals).fate = .waiting next := fate
    rw [settle_waiting both, settle_waiting fate, noted, workers, SortedMap.insert_insert]
    rfl
  | finished response =>
    have both : (second.after first.signals).fate = .finished response := fate
    rw [settle_finished both, settle_finished fate, noted, retire_insert]
    rfl
  | crashed =>
    have both : (second.after first.signals).fate = .crashed := fate
    rw [settle_crashed both, settle_crashed fate, noted, retire_insert]
    rfl

/-- Strides that follow on one another are actions. -/
theorem settle_strides {now : Nat} {registry : σ} {turn : Turn ρ σ}
    (strides : Worker.Strides E now w registry turn) : ∀ s : Service ρ σ, s.now = now →
    s.registry = registry → s.workers.get? id = some w →
    ∃ k, (s.settle id w turn).service = s.after E (List.replicate k (.work id)) := by
  induction strides with
  | none w registry =>
    rintro s - rfl found
    refine ⟨0, ?_⟩
    show { s with workers := s.workers.insert id w } = s
    rw [SortedMap.insert_of_get? found]
  | last w registry =>
    rintro s rfl rfl found
    refine ⟨1, ?_⟩
    show _ = s.work E id
    rw [work, found]
  | @more w registry phase turn going _ ih =>
    rintro s rfl rfl found
    have strode : s.work E id = (s.settle id w (w.stride E s.now s.registry)).service := by
      rw [work, found]
    have rested : s.work E id = (s.noted id (w.stride E s.now s.registry)).under _ _ :=
      strode.trans (settle_waiting going)
    obtain ⟨_, _, _, same⟩ := s.noted_frame id (w.stride E s.now s.registry)
    obtain ⟨k, rest⟩ := ih (s.work E id) (by rw [rested, same]; rfl) (by rw [rested]; rfl)
      (by rw [rested, under, SortedMap.get?_insert, if_pos rfl])
    refine ⟨k + 1, ?_⟩
    rw [settle_after going, List.replicate_succ, ← strode, rest]
    rfl

/-- A worker's turn in a schedule is made of strides. -/
theorem run_eq_works (E : Setting ρ σ) (s : Service ρ σ) (id : WorkerId) :
    ∃ k, (s.run E id).service = s.after E (List.replicate k (.work id)) := by
  unfold run
  cases found : s.workers.get? id with
  | none => exact ⟨0, rfl⟩
  | some w => exact settle_strides (Worker.strides_run w s.now s.registry) s rfl rfl found

end Turns

section Ending

variable {E : Setting ρ σ} {s : Service ρ σ} {id : WorkerId} {w : Worker ρ}

/-- After a stride that leaves the worker waiting its signals are noted, and it is put back in its new
phase. -/
theorem work_waiting {phase : Phase ρ} (found : s.workers.get? id = some w)
    (going : (w.stride E s.now s.registry).fate = .waiting phase) :
    s.work E id = (s.noted id (w.stride E s.now s.registry)).under
      (w.stride E s.now s.registry).registry
      (s.workers.insert id (w.rested (w.stride E s.now s.registry) phase)) := by
  rw [work, found]
  exact settle_waiting going

/-- What the end of a worker does to the tasks and the responses. -/
theorem work_ended {ending : Option (TaskResponse ρ)} (found : s.workers.get? id = some w)
    (ended : (w.stride E s.now s.registry).fate.ending? = some ending) :
    ∃ metrics journal, s.work E id =
      { s.noted id (w.stride E s.now s.registry) with
        workers := s.workers.erase id
        routes := s.routes.erase w.task
        responses := s.responses ++
          if s.receiver = .dropped then [] else (ending.map (id, ·)).toList
        metrics := metrics
        journal := journal } := by
  obtain ⟨calls, metrics, journal, same⟩ := s.noted_frame id (w.stride E s.now s.registry)
  rw [work, found]
  dsimp only
  cases fate : (w.stride E s.now s.registry).fate with
  | waiting phase =>
    rw [fate] at ended
    cases ended
  | finished response =>
    rw [fate] at ended
    cases ended
    rw [settle_finished fate, same]
    unfold respond retire report
    dsimp only
    by_cases dropped : s.receiver = .dropped
    · rw [if_pos dropped, if_pos dropped, List.append_nil]
      exact ⟨_, _, rfl⟩
    · rw [if_neg dropped, if_neg dropped]
      exact ⟨_, _, rfl⟩
  | crashed =>
    rw [fate] at ended
    cases ended
    rw [settle_crashed fate, same]
    unfold retire report
    rw [Option.map_none, Option.toList_none, ite_self, List.append_nil]
    exact ⟨_, _, rfl⟩

end Ending

/-! ### Steps of a call -/

/-- What a step of a call does. -/
inductive Look (s : Service ρ σ) (id : CallId) : Polled ρ σ → Prop where
  | absent : s.calls.get? id = none → Look s id s.idle
  | abandoned {call : Call ρ} : s.calls.get? id = some call → call.cleared = false →
    call.cancelled = true → Look s id (s.abandon id call)
  | cleared {call : Call ρ} : s.calls.get? id = some call → call.cancelled = false →
    Look s id (s.clear id call).idle
  | answered {call : Call ρ} {rejection : Option SignatureError} : s.calls.get? id = some call →
    call.cleared = true → call.stage = .answered rejection →
    Look s id (s.finishCall id (match rejection with
      | none => .ok ()
      | some e => .error (.signature call.task e)))
  | stranded {call : Call ρ} : s.calls.get? id = some call → call.cleared = true →
    (∀ rejection, call.stage ≠ .answered rejection) → s.workers.get? call.worker = none →
    Look s id (s.finishCall id (.error (.taskNotFound call.task)))
  | queued {call : Call ρ} (place : Nat) : s.calls.get? id = some call → call.stage = .begun →
    Look s id (s.rest id call (.waiting place)).idle
  | sent {call : Call ρ} {worker : Worker ρ} : s.calls.get? id = some call → call.cleared = true →
    call.stage = .begun ∨ call.stage = .admitted → s.workers.get? call.worker = some worker →
    Look s id (s.send id call worker)
  | rests {call : Call ρ} : s.calls.get? id = some call → Look s id (s.rest id call call.stage).idle

/-- A step of a call is one of eight things. -/
theorem look_poll (s : Service ρ σ) (id : CallId) : Look s id (s.poll id) := by
  unfold poll
  cases found : s.calls.get? id with
  | none => exact .absent found
  | some call =>
    dsimp only
    split
    next cleared =>
      split
      next stage => exact .answered found cleared stage
      next e stage => exact .answered found cleared stage
      next none unanswered others =>
        refine .stranded found cleared ?_ none
        rintro (_ | e) stage
        · exact unanswered stage
        · exact others e stage
      next worker stage some =>
        split
        · exact .sent found cleared (.inl stage) some
        · exact .queued _ found stage
      next worker stage some => exact .sent found cleared (.inr stage) some
      next => exact .rests found
      next => exact .rests found
    next uncleared =>
      rw [Bool.not_eq_true] at uncleared
      split
      next cancelled => exact .abandoned found uncleared cancelled
      next running => exact .cleared found (Bool.eq_false_iff.2 running)

/-- All the steps that a call takes at once are steps. -/
theorem visit_eq_polls (E : Setting ρ σ) (s : Service ρ σ) (id : CallId) :
    ∃ k, (s.visit id).service = s.after E (List.replicate k (.poll id)) := by
  have further : ∀ (p : Polled ρ σ) (k : Nat), p.service = s.after E (List.replicate k (.poll id)) →
      ∃ k', (goOn id p).service = s.after E (List.replicate k' (.poll id)) := by
    intro p k reached
    unfold goOn
    split
    · refine ⟨k + 1, ?_⟩
      rw [List.replicate_succ', after_snoc, ← reached]
      rfl
    · exact ⟨k, reached⟩
  obtain ⟨k, second⟩ := further (s.poll id) 1 rfl
  exact further _ k second

end Service

end Attestation
