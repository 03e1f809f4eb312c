/-
Module: Attestation.Proofs.Scripts
Purpose: A schedule does nothing but actions. Turns of workers and of calls, time that passes and commands
  that are carried out only ever lead to states that some list of actions reaches, so what holds after
  every list of actions holds of every service that a script has driven.
Main exports: Schedule.Driven, Schedule.Driven.settle, Schedule.Driven.finish, Schedule.Driven.pause,
  Schedule.Driven.waitForResponse, Schedule.Driven.perform, Schedule.driven_performAll
-/
import Attestation.Proofs.Lifecycle
import Attestation.Service.Script

namespace Attestation

namespace Service

variable {ρ σ : Type} {E : Setting ρ σ} {s : Service ρ σ}

/-- A worker has no hold of the receiving end. -/
theorem receiver_work (id : WorkerId) : (s.work E id).receiver = s.receiver := by
  cases found : s.workers.get? id with
  | none => rw [work, found]
  | some w =>
    obtain ⟨calls, metrics, journal, noted⟩ := s.noted_frame id (w.stride E s.now s.registry)
    rcases (w.stride E s.now s.registry).fate.waiting_or_ending with ⟨phase, going⟩ | ⟨ending, ceased⟩
    · rw [work_waiting found going, noted]
      rfl
    · obtain ⟨metrics', journal', same⟩ := work_ended found ceased
      rw [same, noted]

/-- So it is with many strides of a worker. -/
theorem receiver_works (id : WorkerId) (k : Nat) :
    (s.after E (List.replicate k (.work id))).receiver = s.receiver := by
  induction k generalizing s with
  | zero => rfl
  | succ k ih => exact ih.trans (receiver_work id)

/-- A step of a call leaves the receiver as it is. -/
theorem receiver_poll (id : CallId) : (s.poll id).service.receiver = s.receiver := by
  have look := s.look_poll id
  generalize s.poll id = polled at look
  cases look with
  | @abandoned call =>
    obtain ⟨calls, journal, same⟩ := s.abandon_frame id call
    rw [same]
  | _ => rfl

theorem receiver_polls (id : CallId) (k : Nat) :
    (s.after E (List.replicate k (.poll id))).receiver = s.receiver := by
  induction k generalizing s with
  | zero => rfl
  | succ k ih => exact ih.trans (receiver_poll id)

theorem receiver_cancel (id : CallId) : (s.cancel id).1.receiver = s.receiver := by
  unfold cancel
  split <;> rfl

/-- Responses that are there can be read one by one. -/
theorem after_receives (claimed : s.receiver = .claimed) : ∀ {n : Nat},
    s.received + n ≤ s.responses.length →
      s.after E (List.replicate n .receive) = { s with received := s.received + n } := by
  intro n
  induction n generalizing s with
  | zero => exact fun _ => rfl
  | succ n ih =>
    intro inside
    have next : s.received < s.responses.length := by omega
    have first : s.act E .receive = { s with received := s.received + 1 } := by
      rw [act, if_pos claimed, receive, List.getElem?_eq_getElem next]
    have later := ih (s := { s with received := s.received + 1 }) claimed (by dsimp only; omega)
    rw [List.replicate_succ]
    show (s.act E .receive).after E _ = _
    rw [first, later]
    dsimp only
    rw [Nat.add_right_comm]
    rfl

end Service

namespace Schedule

open Service

variable {ρ σ : Type}

/-! ### Schedules and actions

A schedule decides who has a turn and when time goes on. Whatever it decides, the service in it is one that
actions lead to. The induction is on the number of turns or instants that a step of the script is given. -/

/-- Some actions lead from a service to that of the schedule, whose receiving end is in this state. -/
structure Driven (E : Setting ρ σ) (origin : Service ρ σ) (receiver : Receiver) (s : Schedule ρ σ) :
    Prop where
  reached : ∃ actions, s.service = origin.after E actions
  receiver : s.service.receiver = receiver

/-- To wake an agent changes the order of turns only. -/
@[simp] theorem service_wake (s : Schedule ρ σ) (a : Agent) : (s.wake a).service = s.service := by
  unfold wake
  split <;> rfl

@[simp] theorem service_wakeAll (s : Schedule ρ σ) (agents : List Agent) :
    (s.wakeAll agents).service = s.service := by
  induction agents generalizing s with
  | nil => rfl
  | cons a rest ih => exact (ih (s.wake a)).trans (s.service_wake a)

namespace Driven

variable {E : Setting ρ σ} {origin : Service ρ σ} {receiver : Receiver} {s s' : Schedule ρ σ}

/-- Whom the schedule is going to wake makes no difference to the service. -/
theorem congr (driven : Driven E origin receiver s) (same : s'.service = s.service) :
    Driven E origin receiver s' where
  reached := same ▸ driven.reached
  receiver := same ▸ driven.receiver

/-- Actions that leave the receiver alone lead on from where the actions so far have led. -/
theorem acts (driven : Driven E origin receiver s) (actions : List (Action ρ σ))
    (same : s'.service = s.service.after E actions) (kept : s'.service.receiver = s.service.receiver) :
    Driven E origin receiver s' where
  reached := by
    obtain ⟨earlier, reached⟩ := driven.reached
    exact ⟨earlier ++ actions, by rw [after_append, ← reached, same]⟩
  receiver := kept.trans driven.receiver

theorem act (driven : Driven E origin receiver s) (a : Action ρ σ)
    (same : s'.service = s.service.act E a) (kept : s'.service.receiver = s.service.receiver) :
    Driven E origin receiver s' := driven.acts [a] same kept

/-! ### Turns -/

/-- A turn of a worker is as many strides as it takes. -/
theorem runWorker (driven : Driven E origin receiver s) (id : WorkerId) :
    Driven E origin receiver (s.runWorker E id) := by
  obtain ⟨k, strides⟩ := s.service.run_eq_works E id
  have same : (s.runWorker E id).service = s.service.after E (List.replicate k (.work id)) := by
    unfold Schedule.runWorker
    rw [service_wakeAll]
    exact strides
  exact driven.acts _ same (by rw [same, receiver_works])

/-- A turn of a call is two steps: it looks at its token and goes on. -/
theorem runCall (driven : Driven E origin receiver s) (id : CallId) :
    Driven E origin receiver (s.runCall id) := by
  obtain ⟨k, steps⟩ := s.service.visit_eq_polls E id
  have same : (s.runCall id).service = s.service.after E (List.replicate k (.poll id)) := by
    unfold Schedule.runCall
    rw [service_wakeAll]
    exact steps
  exact driven.acts _ same (by rw [same, receiver_polls])

/-- A turn of a token fires it, or sets its alarm. -/
theorem runToken (driven : Driven E origin receiver s) (id : CallId) (due : Nat) :
    Driven E origin receiver (s.runToken id due) := by
  unfold Schedule.runToken
  split
  · have fired : Driven E origin receiver { s with service := (s.service.cancel id).1 } :=
      driven.act (.cancel id) rfl (receiver_cancel id)
    dsimp only
    split
    · exact fired.congr (service_wake _ _)
    · exact fired
  · exact driven.congr rfl

/-- Every turn is a list of actions. -/
theorem runAgent (driven : Driven E origin receiver s) (a : Agent) :
    Driven E origin receiver (s.runAgent E a) := by
  cases a with
  | worker id => exact driven.runWorker id
  | call id => exact driven.runCall id
  | token id due => exact driven.runToken id due

/-- So are all turns up to a time at which nobody is awake. -/
theorem settleWithin (turns : Nat) : ∀ {s : Schedule ρ σ}, Driven E origin receiver s →
    Driven E origin receiver (s.settleWithin E turns) := by
  induction turns with
  | zero => exact fun driven => driven
  | succ turns ih =>
    intro s driven
    unfold Schedule.settleWithin
    split
    · exact driven
    · next a rest _ =>
      have popped : Driven E origin receiver { s with ready := rest } := driven.congr rfl
      exact ih (popped.runAgent a)

theorem settle (driven : Driven E origin receiver s) : Driven E origin receiver (s.settle E) :=
  driven.settleWithin _

/-- An alarm that goes off wakes agents and does nothing to the service. -/
theorem fire (driven : Driven E origin receiver s) : Driven E origin receiver s.fire := by
  refine driven.congr ?_
  unfold Schedule.fire
  exact service_wakeAll _ _

theorem catchUp (driven : Driven E origin receiver s) : Driven E origin receiver (s.catchUp E) :=
  driven.fire.settle

/-- The clock goes on by an action. -/
theorem advance (driven : Driven E origin receiver s) (now : Nat) :
    Driven E origin receiver (s.advance now) := driven.act (.advance now) rfl rfl

/-! ### Waiting -/

/-- Whatever calls are waited for, the service goes from instant to instant by actions. -/
theorem finishWithin (calls : List (Except AggregationError CallId)) (instants : Nat) :
    ∀ {s : Schedule ρ σ}, Driven E origin receiver s →
      Driven E origin receiver (s.finishWithin E calls instants).1 := by
  induction instants with
  | zero => exact fun driven => driven
  | succ instants ih =>
    intro s driven
    have settled := driven.catchUp
    unfold Schedule.finishWithin
    dsimp only
    split
    · exact settled
    · exact ih (settled.advance _)
    · exact settled

theorem finish (driven : Driven E origin receiver s) (calls : List (Except AggregationError CallId)) :
    Driven E origin receiver (s.finish E calls).1 := (driven.finishWithin calls s.instants).congr rfl

/-- So it does while a script sleeps. -/
theorem pauseWithin (ending instants : Nat) : ∀ {s : Schedule ρ σ}, Driven E origin receiver s →
    Driven E origin receiver (s.pauseWithin E ending instants) := by
  induction instants with
  | zero => exact fun driven => driven.advance ending
  | succ instants ih =>
    intro s driven
    unfold Schedule.pauseWithin
    split
    · split
      · exact ih (driven.advance _).catchUp
      · exact driven.advance ending
    · exact driven.advance ending

theorem pause (driven : Driven E origin receiver s) (span : Nat) :
    Driven E origin receiver (s.pause E span) := driven.pauseWithin _ _

/-! ### Steps of a script -/

/-- The next response is read from a receiving end that was claimed. -/
theorem receive (driven : Driven E origin .claimed s) :
    Driven E origin .claimed { s with service := s.service.receive.2 } := by
  refine driven.act .receive (if_pos driven.receiver).symm ?_
  unfold Service.receive
  split <;> rfl

/-- While a script waits for a response the service goes on by actions. -/
theorem waitForResponseWithin (ending instants : Nat) : ∀ {s : Schedule ρ σ},
    Driven E origin .claimed s →
      Driven E origin .claimed (s.waitForResponseWithin E ending instants).1 := by
  induction instants with
  | zero => exact fun driven => driven.advance ending
  | succ instants ih =>
    intro s driven
    unfold Schedule.waitForResponseWithin
    split
    next response service there =>
      have read := driven.receive
      rw [there] at read
      exact read
    next =>
      split
      · exact ih (driven.advance _).catchUp
      · exact driven.advance ending
    next => exact driven.advance ending

theorem waitForResponse (driven : Driven E origin .claimed s) (timeout : Nat) :
    Driven E origin .claimed (s.waitForResponse E timeout).1 := driven.waitForResponseWithin _ _

/-- All responses that are there are read. -/
theorem receiveAll {config : Config} {registry : σ} (created : create config registry = .ok origin)
    (driven : Driven E origin .claimed s) :
    Driven E origin .claimed { s with service := s.service.receiveAll.2 } := by
  obtain ⟨actions, reached⟩ := driven.reached
  have bounded := (stream_after E created actions).bounded
  rw [← reached] at bounded
  have all : s.service.received + (s.service.responses.length - s.service.received) =
      s.service.responses.length := Nat.add_sub_of_le bounded
  refine driven.acts (List.replicate (s.service.responses.length - s.service.received) .receive) ?_ rfl
  rw [after_receives driven.receiver (Nat.le_of_eq all), all]
  rfl

/-- Who reads the stream has claimed it. -/
theorem holding (driven : Driven E origin receiver s) (held : s.holding? = some s') :
    Driven E origin .claimed s' := by
  unfold holding? at held
  split at held
  · cases held
  · next kept =>
    cases held
    obtain ⟨actions, reached⟩ := driven.reached
    refine ⟨⟨actions ++ [.claimStream], by rw [after_snoc, ← reached]; rfl⟩, ?_⟩
    show s.service.claimStream.2.receiver = .claimed
    unfold claimStream
    cases receiver : s.service.receiver with
    | unclaimed => rfl
    | claimed => exact receiver
    | dropped => exact absurd receiver kept

/-- To call a service is an action, perhaps with a token that has fired already. -/
theorem attempt (driven : Driven E origin receiver s) (a : Attempt ρ) :
    Driven E origin receiver (s.attempt a).1 := by
  unfold Schedule.attempt
  cases begun : s.service.submit a.task a.operator a.response a.signature a.cancelled with
  | error e => exact driven
  | ok service =>
    have submitted : Driven E origin receiver { s with service := service } := by
      refine driven.act (.submit a.task a.operator a.response a.signature a.cancelled) ?_ ?_
      · rw [Service.act, begun]
        rfl
      · unfold submit at begun
        split at begun <;> cases begun
        rfl
    exact (submitted.congr (service_wakeAll _ _)).runCall _

/-- Calls that are made together are made one after the other. -/
theorem attemptAll (attempts : List (Attempt ρ)) : ∀ {s : Schedule ρ σ}, Driven E origin receiver s →
    Driven E origin receiver (s.attemptAll attempts).1 := by
  induction attempts with
  | nil => exact fun driven => driven
  | cons a rest ih => exact fun driven => ih (driven.attempt a)

/-- A command leads to a state that actions reach. -/
theorem perform {C : PairingCurve} {E : Setting ρ Registry} {origin : Service ρ Registry}
    {s : Schedule ρ Registry} {config : Config} {registry : Registry}
    (created : create config registry = .ok origin) (driven : Driven E origin receiver s)
    (command : Command ρ) : ∃ receiver', Driven E origin receiver' (s.perform C E command).2 := by
  have moved : ∀ (a : Action ρ Registry) {s' : Schedule ρ Registry}, s'.service = s.service.act E a →
      ∃ receiver', Driven E origin receiver' s' := by
    intro a s' same
    obtain ⟨actions, reached⟩ := driven.reached
    exact ⟨_, ⟨actions ++ [a], by rw [after_snoc, ← reached, same]⟩, rfl⟩
  cases command with
  | startTask runtime parameters =>
    unfold Schedule.perform
    dsimp only
    cases started : s.service.startTask runtime parameters with
    | ok service =>
      refine moved (.startTask runtime parameters) ?_
      rw [Service.act, started]
      exact service_wake _ _
    | error e => exact ⟨receiver, driven⟩
  | submit attempts => exact ⟨receiver, (driven.attemptAll attempts).finish _⟩
  | next timeout =>
    unfold Schedule.perform
    dsimp only
    cases held : s.holding? with
    | none => exact ⟨receiver, driven⟩
    | some s' => exact ⟨.claimed, (driven.holding held).waitForResponse timeout⟩
  | drain =>
    unfold Schedule.perform
    dsimp only
    cases held : s.holding? with
    | none => exact ⟨receiver, driven⟩
    | some s' => exact ⟨.claimed, (driven.holding held).receiveAll created⟩
  | claimStream => exact moved .claimStream rfl
  | dropStream => exact moved .dropStream rfl
  | sleep span => exact ⟨receiver, driven.pause span⟩
  | isActive | metrics => exact ⟨receiver, driven⟩
  | registry command =>
    exact ⟨receiver, (driven.pause _).act (.registry _ _) rfl rfl⟩

end Driven

/-- Every script drives a service only to states that actions reach. -/
theorem driven_performAll (C : PairingCurve) (E : Setting ρ Registry) {config : Config}
    {registry : Registry} {origin : Service ρ Registry} (created : create config registry = .ok origin)
    (commands : List (Command ρ)) : ∀ {receiver : Receiver} {s : Schedule ρ Registry},
      Driven E origin receiver s → ∃ receiver', Driven E origin receiver' (s.performAll C E commands).2 := by
  induction commands with
  | nil => exact fun driven => ⟨_, driven⟩
  | cons command rest ih =>
    intro receiver s driven
    obtain ⟨receiver', performed⟩ := driven.perform (C := C) created command
    exact ih performed.catchUp

/-- What a script leaves of a service is what some actions leave of it. -/
theorem exists_actions_of_script (C : PairingCurve) (E : Setting ρ Registry) {config : Config}
    {registry : Registry} {origin : Service ρ Registry} (created : create config registry = .ok origin)
    (commands : List (Command ρ)) : ∃ actions,
      ((begin origin).performAll C E commands).2.service = origin.after E actions := by
  have driven : Driven E origin origin.receiver (begin origin) := ⟨⟨[], rfl⟩, rfl⟩
  obtain ⟨_, last⟩ := driven_performAll C E created commands driven
  exact last.reached

end Schedule

end Attestation
