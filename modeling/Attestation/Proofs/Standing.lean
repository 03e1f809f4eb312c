/-
Module: Attestation.Proofs.Standing
Purpose: A call and its submission. Beside the record of a call (that it was made, which inbox it has
  entered, what was merged of it, what it was answered) stands where its submission is now: outside or in
  an inbox, merged or lost. Looking at a call moves the two together, and whatever is done to other calls
  leaves them as they are, unless the submission is lost with its worker.
Main exports: Trail, Service.makes, Service.entries, Service.overruns, Service.answers, Service.traces,
  Service.trail, Place, Located, Verdict, Standing, Undisturbed, Standing.keep, Standing.look
-/
import Attestation.Proofs.Tenures

namespace Attestation

/-- Whether a submission has yet to enter the inbox. -/
def Stage.IsOutside : Stage → Prop
  | .begun | .waiting _ | .admitted => True
  | .sent | .answered _ => False

/-- A call that waits in line has its submission outside. -/
theorem Stage.outside_of_isWaiting {stage : Stage} (waits : stage.isWaiting = true) : stage.IsOutside := by
  cases stage with
  | waiting place => trivial
  | _ => cases waits

/-! ### The record of a call

Everything is read off the run: each action says what it makes, puts into an inbox, merges or answers, and
the record of a call is what concerns it among all that. -/

/-- What is on record of a call: that it was made, which inboxes its submission has entered, who has merged
it, who has crashed while merging it, and what the call has returned. -/
structure Trail (ρ : Type) where
  made : List (Call ρ)
  entries : List WorkerId
  merges : List (WorkerId × Acceptance ρ)
  overruns : List (WorkerId × Acceptance ρ)
  answers : List (Except AggregationError Unit)

def Trail.append {ρ : Type} (t t' : Trail ρ) : Trail ρ :=
  ⟨t.made ++ t'.made, t.entries ++ t'.entries, t.merges ++ t'.merges, t.overruns ++ t'.overruns,
    t.answers ++ t'.answers⟩

theorem Trail.append_assoc {ρ : Type} (t t' t'' : Trail ρ) :
    (t.append t').append t'' = t.append (t'.append t'') := by
  simp only [append, List.append_assoc]

/-- The submissions of a call among those that were merged. -/
def mergesOf {ρ : Type} (id : CallId) (merged : List (WorkerId × Acceptance ρ)) :
    List (WorkerId × Acceptance ρ) :=
  merged.filter (·.2.call = id)

@[simp] theorem mergesOf_nil {ρ : Type} (id : CallId) :
    mergesOf id ([] : List (WorkerId × Acceptance ρ)) = [] := rfl

namespace Service

variable {ρ σ : Type}

/-- The call that an action makes, with the worker whose route it finds. -/
def makes (s : Service ρ σ) : Action ρ σ → List (CallId × Call ρ)
  | .submit task operator response signature cancelled =>
    (s.routes.get? task).toList.map fun worker =>
      (s.made, ⟨task, worker, ⟨s.made, operator, response, signature⟩, cancelled, .begun, false⟩)
  | _ => []

/-- A call goes to the worker whose route it finds. -/
theorem routed_of_makes {s : Service ρ σ} {a : Action ρ σ} {id : CallId} {call : Call ρ}
    (makes : (id, call) ∈ s.makes a) : s.routes.get? call.task = some call.worker := by
  cases a with
  | submit task operator response signature cancelled =>
    obtain ⟨worker, routed, same⟩ := List.mem_map.1 makes
    cases same
    exact Option.mem_toList.1 routed
  | _ => cases makes

/-- A call that is made has not looked at its token. -/
theorem uncleared_of_makes {s : Service ρ σ} {a : Action ρ σ} {id : CallId} {call : Call ρ}
    (makes : (id, call) ∈ s.makes a) : call.cleared = false := by
  cases a with
  | submit task operator response signature cancelled =>
    obtain ⟨worker, -, same⟩ := List.mem_map.1 makes
    cases same
    rfl
  | _ => cases makes

/-- The call whose submission an action puts into an inbox, with the worker whose inbox it is. -/
def entries (s : Service ρ σ) : Action ρ σ → List (CallId × WorkerId)
  | .poll id => (s.poll id).woken.toList.map (id, ·)
  | _ => []

/-- The submission that an action merges while its worker crashes. -/
def overruns (E : Setting ρ σ) (s : Service ρ σ) (a : Action ρ σ) : List (WorkerId × Acceptance ρ) :=
  if ∃ e ∈ s.endings E a, e.2.isNone then s.merges E a else []

/-- Where nothing is merged, nothing is merged by a worker that crashes. -/
theorem overruns_nil {E : Setting ρ σ} {s : Service ρ σ} {a : Action ρ σ} (none : s.merges E a = []) :
    s.overruns E a = [] := by
  rw [overruns, none, ite_self]

/-- What an action makes a call return. -/
def answers (s : Service ρ σ) : Action ρ σ → List (CallId × Except AggregationError Unit)
  | .poll id => (s.poll id).answer.toList.map (id, ·)
  | _ => []

/-- What an action adds to the record of a call. -/
def traces (E : Setting ρ σ) (s : Service ρ σ) (a : Action ρ σ) (id : CallId) : Trail ρ where
  made := valuesAt id (s.makes a)
  entries := valuesAt id (s.entries a)
  merges := mergesOf id (s.merges E a)
  overruns := mergesOf id (s.overruns E a)
  answers := valuesAt id (s.answers a)

/-- The record of a call after some actions. -/
def trail (E : Setting ρ σ) (s : Service ρ σ) (actions : List (Action ρ σ)) (id : CallId) : Trail ρ where
  made := valuesAt id (s.along E makes actions)
  entries := valuesAt id (s.along E entries actions)
  merges := mergesOf id (s.along E (merges E) actions)
  overruns := mergesOf id (s.along E (overruns E) actions)
  answers := valuesAt id (s.along E answers actions)

/-- The record grows action by action. -/
theorem trail_cons (E : Setting ρ σ) (s : Service ρ σ) (a : Action ρ σ) (rest : List (Action ρ σ))
    (id : CallId) : s.trail E (a :: rest) id = (s.traces E a id).append ((s.act E a).trail E rest id) := by
  unfold trail traces Trail.append mergesOf
  simp only [along, valuesAt_append, List.filter_append]

/-- The record of a longer run is that of its first part and then that of the rest. -/
theorem trail_append (E : Setting ρ σ) (s : Service ρ σ) (as bs : List (Action ρ σ)) (id : CallId) :
    s.trail E (as ++ bs) id = (s.trail E as id).append ((s.after E as).trail E bs id) := by
  unfold trail Trail.append mergesOf
  simp only [along_append, valuesAt_append, List.filter_append]

def inbox (s : Service ρ σ) (w : WorkerId) : List (Submission ρ) :=
  ((s.workers.get? w).map (·.inbox)).getD []

/-- The submissions of a call in the inbox of a worker. -/
def copies (s : Service ρ σ) (id : CallId) (w : WorkerId) : List (Submission ρ) :=
  (s.inbox w).filter (·.call = id)

end Service

/-! ### Where a submission is

The place of a submission is no part of the service. It ties the three sides together: what the inboxes
hold, what is on record, and the stage of the call or the answer it was given. -/

/-- Where the submission of a call is. -/
inductive Place where
  /-- It has not entered an inbox. -/
  | outside
  /-- It is in the inbox of its worker. -/
  | queued
  /-- It was merged. -/
  | merged
  /-- It was merged by a worker that has crashed right then. -/
  | overrun
  /-- It was rejected, or its worker has ended before it was merged. -/
  | dropped

section Standing

variable {ρ σ : Type}

/-- What the place of a submission means for the inboxes and for the record of its call. -/
inductive Located (s : Service ρ σ) (id : CallId) (made : Call ρ) : Place → List WorkerId →
    List (WorkerId × Acceptance ρ) → List (WorkerId × Acceptance ρ) → Prop where
  | outside : (∀ w, s.copies id w = []) → Located s id made .outside [] [] []
  | queued : (∀ w, s.copies id w = if w = made.worker then [made.submission] else []) →
    Located s id made .queued [made.worker] [] []
  | merged {a : Acceptance ρ} : (∀ w, s.copies id w = []) → a.toSubmission = made.submission →
    Located s id made .merged [made.worker] [(made.worker, a)] []
  | overrun {a : Acceptance ρ} : (∀ w, s.copies id w = []) → a.toSubmission = made.submission →
    Located s id made .overrun [made.worker] [(made.worker, a)] [(made.worker, a)]
  | dropped : (∀ w, s.copies id w = []) → Located s id made .dropped [made.worker] [] []

/-- The stage of a call that has not returned fits the place of its submission. -/
def Stage.Fits (s : Service ρ σ) (made : Call ρ) (place : Place) : Stage → Prop
  | .begun | .waiting _ | .admitted => place = .outside
  | .sent => place = .queued ∨
    (place = .overrun ∨ place = .dropped) ∧ s.workers.get? made.worker = none
  | .answered none => place = .merged
  | .answered (some _) => place = .dropped

/-- What a call has returned fits the place of its submission. -/
def Verdict (made : Call ρ) (place : Place) : Except AggregationError Unit → Prop
  | .ok () => place = .merged
  | .error (.signature task _) => task = made.task ∧ place = .dropped
  | .error (.taskNotFound task) =>
    task = made.task ∧ (place = .outside ∨ place = .overrun ∨ place = .dropped)
  | .error (.cancelled task) => task = made.task
  | .error _ => False

/-- A call as it was made, perhaps at a later stage or cancelled since. Once its token has fired it does
not go on from a look at it. -/
structure Call.Follows (call made : Call ρ) : Prop where
  task : call.task = made.task
  worker : call.worker = made.worker
  submission : call.submission = made.submission
  cancelled : made.cancelled = true → call.cancelled = true
  uncleared : made.cancelled = true → made.cleared = false → call.cleared = false

/-- A call has not returned, or has returned once. -/
inductive Settled (s : Service ρ σ) (id : CallId) (made : Call ρ) (place : Place) :
    List (Except AggregationError Unit) → Prop where
  | pending {call : Call ρ} : s.calls.get? id = some call → call.Follows made →
    call.stage.Fits s made place → Settled s id made place []
  | returned {answer : Except AggregationError Unit} : s.calls.get? id = none →
    Verdict made place answer → Settled s id made place [answer]

/-- How a call and its submission stand beside the record of the call. -/
inductive Standing (s : Service ρ σ) (id : CallId) : Trail ρ → Prop where
  | unmade : s.made ≤ id → s.calls.get? id = none → (∀ w, s.copies id w = []) →
    Standing s id ⟨[], [], [], [], []⟩
  | made {made : Call ρ} {place : Place} {t : Trail ρ} : id < s.made → made.submission.call = id →
    made.worker < s.started → (made.cancelled = true → made.cleared = false → place = .outside) →
    t.made = [made] → Located s id made place t.entries t.merges t.overruns →
    Settled s id made place t.answers → Standing s id t

/-! ### What is done to other calls

Most actions are not about the call at hand. It is enough that they leave its record, do not bring it back
and put nothing of it into an inbox; that a worker ends is the one thing through which they can change its
place. -/

/-- A call that has gone on without an answer: at the same stage, or still outside the inbox. -/
structure Call.Advances (call call' : Call ρ) : Prop where
  follows : call'.Follows call
  stage : call'.stage = call.stage ∨ call.stage.IsOutside ∧ call'.stage.IsOutside

/-- A call that has not returned goes on, and one that has does not come back. -/
inductive Moves : Option (Call ρ) → Option (Call ρ) → Prop where
  | absent : Moves none none
  | present {call call' : Call ρ} : call.Advances call' → Moves (some call) (some call')

/-- A call that follows from one that follows from the call made follows from the call made. -/
theorem Call.Follows.trans {call call' made : Call ρ} (later : call'.Follows call)
    (follows : call.Follows made) : call'.Follows made where
  task := later.task.trans follows.task
  worker := later.worker.trans follows.worker
  submission := later.submission.trans follows.submission
  cancelled early := later.cancelled (follows.cancelled early)
  uncleared early still := later.uncleared (follows.cancelled early) (follows.uncleared early still)

theorem Call.follows_refl (call : Call ρ) : call.Follows call := ⟨rfl, rfl, rfl, id, fun _ still => still⟩

/-- Only the stage of the call is another. -/
theorem Call.follows_stage (call : Call ρ) (stage : Stage) : { call with stage := stage }.Follows call :=
  ⟨rfl, rfl, rfl, id, fun _ still => still⟩

theorem moves_refl (call : Option (Call ρ)) : Moves call call := by
  cases call with
  | none => exact .absent
  | some call => exact .present ⟨call.follows_refl, .inl rfl⟩

/-- What happens in an action to the calls that it does not answer: their submissions stay where they are
unless the worker ends that has them. -/
structure Undisturbed (s s' : Service ρ σ) (id : CallId) : Prop where
  made : s.made ≤ s'.made
  unmade : s.made ≤ id → s'.made ≤ id
  started : s.started ≤ s'.started
  gone : ∀ w < s.started, s.workers.get? w = none → s'.workers.get? w = none
  call : Moves (s.calls.get? id) (s'.calls.get? id)
  copies : ∀ w, s'.copies id w = s.copies id w ∨ s'.workers.get? w = none

/-- A worker that is not there has no inbox, and so no submission in it. -/
theorem Service.copies_gone {s : Service ρ σ} {w : WorkerId} (gone : s.workers.get? w = none) (id : CallId) :
    s.copies id w = [] := by
  rw [copies, inbox, gone]
  rfl

/-- A submission does not come into an inbox by an action that is not about its call. -/
theorem Undisturbed.copies_nil {s s' : Service ρ σ} {id : CallId} (undisturbed : Undisturbed s s' id)
    {w : WorkerId} (none : s.copies id w = []) : s'.copies id w = [] := by
  rcases undisturbed.copies w with same | gone
  · rw [same, none]
  · exact Service.copies_gone gone id

/-- A submission stays where it is or is lost with its worker. -/
theorem Undisturbed.located {s s' : Service ρ σ} {id : CallId} {made : Call ρ} {place : Place}
    {entries : List WorkerId} {merges overruns : List (WorkerId × Acceptance ρ)}
    (undisturbed : Undisturbed s s' id) (located : Located s id made place entries merges overruns) :
    Located s' id made place entries merges overruns ∨
    (place = .queued ∧ s'.workers.get? made.worker = none ∧
      Located s' id made .dropped entries merges overruns) := by
  cases located with
  | outside none => exact .inl (.outside fun w => undisturbed.copies_nil (none w))
  | merged none own => exact .inl (.merged (fun w => undisturbed.copies_nil (none w)) own)
  | overrun none own => exact .inl (.overrun (fun w => undisturbed.copies_nil (none w)) own)
  | dropped none => exact .inl (.dropped fun w => undisturbed.copies_nil (none w))
  | queued one =>
    have others : ∀ w, w ≠ made.worker → s'.copies id w = [] := fun w other =>
      undisturbed.copies_nil ((one w).trans (if_neg other))
    rcases undisturbed.copies made.worker with same | gone
    · refine .inl (.queued fun w => ?_)
      split
      next own => rw [own, same, one, if_pos rfl]
      next other => exact others w other
    · refine .inr ⟨rfl, gone, .dropped fun w => ?_⟩
      by_cases own : w = made.worker
      · rw [own]
        exact Service.copies_gone gone id
      · exact others w own

/-- A submission is outside while its call has yet to put it into the inbox. -/
theorem Stage.Fits.outside {s : Service ρ σ} {made : Call ρ} {place : Place} {stage : Stage}
    (fits : stage.Fits s made place) (outside : stage.IsOutside) : place = .outside := by
  cases stage with
  | sent => exact outside.elim
  | answered => exact outside.elim
  | _ => exact fits

/-- The stage of a call still fits after an action that does not answer it. -/
theorem Undisturbed.fits {s s' : Service ρ σ} {id : CallId} {made call call' : Call ρ} {place : Place}
    (undisturbed : Undisturbed s s' id) (old : made.worker < s.started) (advances : call.Advances call')
    (fits : call.stage.Fits s made place) : call'.stage.Fits s' made place := by
  rcases advances.stage with same | ⟨before, after⟩
  · rw [same]
    cases stage : call.stage with
    | sent =>
      rw [stage] at fits
      exact fits.imp_right fun ⟨lost, gone⟩ => ⟨lost, undisturbed.gone _ old gone⟩
    | answered rejection =>
      rw [stage] at fits
      cases rejection <;> exact fits
    | _ =>
      rw [stage] at fits
      exact fits
  · have outside := fits.outside before
    cases stage : call'.stage with
    | sent => rw [stage] at after; exact after.elim
    | answered => rw [stage] at after; exact after.elim
    | _ => exact outside

/-- Of a submission in an inbox only a call whose token has fired can have returned. -/
theorem verdict_of_queued {made : Call ρ} {answer : Except AggregationError Unit} (place : Place)
    (verdict : Verdict made .queued answer) : Verdict made place answer := by
  cases answer with
  | ok => cases verdict
  | error e =>
    cases e with
    | cancelled task => exact verdict
    | signature task e => cases verdict.2
    | taskNotFound task => rcases verdict.2 with place | place | place <;> cases place
    | _ => exact verdict.elim

/-- While the submission is in the inbox, its call has sent it and waits for the verdict. -/
theorem stage_of_queued {s : Service ρ σ} {made : Call ρ} {stage : Stage} (fits : stage.Fits s made .queued) :
    stage = .sent := by
  cases stage with
  | sent => rfl
  | answered rejection => cases rejection <;> cases fits
  | _ => cases fits

/-- A call that has returned does not come back. -/
theorem Moves.eq_none {call : Option (Call ρ)} (moves : Moves none call) : call = none := by
  cases moves
  rfl

/-- A call that has not returned is still there. -/
theorem Moves.exists_some {call : Call ρ} {after : Option (Call ρ)} (moves : Moves (some call) after) :
    ∃ call', after = some call' ∧ call.Advances call' := by
  cases moves with
  | present advances => exact ⟨_, rfl, advances⟩

/-- A call that an action does not answer is as settled as before. -/
theorem Undisturbed.settled {s s' : Service ρ σ} {id : CallId} {made : Call ρ} {place : Place}
    {answers : List (Except AggregationError Unit)} (undisturbed : Undisturbed s s' id)
    (old : made.worker < s.started) (settled : Settled s id made place answers) :
    Settled s' id made place answers := by
  have moves := undisturbed.call
  cases settled with
  | pending found follows fits =>
    rw [found] at moves
    obtain ⟨call', found', advances⟩ := moves.exists_some
    exact .pending found' (advances.follows.trans follows) (undisturbed.fits old advances fits)
  | returned absent verdict =>
    rw [absent] at moves
    exact .returned moves.eq_none verdict

/-- With the worker the submission in its inbox is lost. -/
theorem Undisturbed.lost {s s' : Service ρ σ} {id : CallId} {made : Call ρ}
    {answers : List (Except AggregationError Unit)} (undisturbed : Undisturbed s s' id)
    (gone : s'.workers.get? made.worker = none) (settled : Settled s id made .queued answers) :
    Settled s' id made .dropped answers := by
  have moves := undisturbed.call
  cases settled with
  | @pending call found follows fits =>
    rw [found] at moves
    obtain ⟨call', found', advances⟩ := moves.exists_some
    have sent := stage_of_queued fits
    have sent' : call'.stage = .sent := by
      rcases advances.stage with same | ⟨outside, -⟩
      · exact same.trans sent
      · rw [sent] at outside
        exact outside.elim
    refine .pending found' (advances.follows.trans follows) ?_
    rw [sent']
    exact .inr ⟨.inr rfl, gone⟩
  | returned absent verdict =>
    rw [absent] at moves
    exact .returned moves.eq_none (verdict_of_queued .dropped verdict)

/-- A call that an action does not answer stands as before, or its submission is lost. -/
theorem Standing.keep {s s' : Service ρ σ} {id : CallId} {t : Trail ρ} (undisturbed : Undisturbed s s' id)
    (standing : Standing s id t) : Standing s' id t := by
  cases standing with
  | unmade fresh absent none =>
    have moves := undisturbed.call
    rw [absent] at moves
    exact .unmade (undisturbed.unmade fresh) moves.eq_none fun w => undisturbed.copies_nil (none w)
  | made old own worker early known located settled =>
    have old' := Nat.lt_of_lt_of_le old undisturbed.made
    have worker' := Nat.lt_of_lt_of_le worker undisturbed.started
    rcases undisturbed.located located with located' | ⟨rfl, gone, located'⟩
    · exact .made old' own worker' early known located' (undisturbed.settled worker settled)
    · refine .made old' own worker' (fun cancelled still => ?_) known located'
        (undisturbed.lost gone settled)
      cases early cancelled still

end Standing

section Moving

open Service

variable {ρ σ : Type} {s : Service ρ σ} {id k : CallId} {call : Call ρ}

/-! ### Actions that disturb no call -/

/-- A step of one call moves that call on and leaves the others. -/
theorem moves_insert {call' : Call ρ} (found : s.calls.get? k = some call) (advances : call.Advances call') :
    Moves (s.calls.get? id) ((s.calls.insert k call').get? id) := by
  rw [SortedMap.get?_insert]
  split
  next same =>
    rw [same, found]
    exact .present advances
  next => exact moves_refl _

/-- To keep room for a call is to move it on while its submission is outside. -/
theorem moves_keepRoom (s : Service ρ σ) (w : WorkerId) (id : CallId) :
    Moves (s.calls.get? id) ((s.keepRoom w).1.calls.get? id) := by
  unfold keepRoom
  split
  next k call first =>
    obtain ⟨found, -, waits⟩ := mem_callsAt.1 (mem_of_firstInLine? first)
    exact moves_insert found ⟨call.follows_stage _, .inr ⟨Stage.outside_of_isWaiting waits, trivial⟩⟩
  next => exact moves_refl _

/-- An action that leaves all inboxes as they are disturbs no call that it does not answer. -/
theorem undisturbed_of_workers {s' : Service ρ σ} (made : s'.made = s.made) (started : s'.started = s.started)
    (workers : s'.workers = s.workers) (moves : Moves (s.calls.get? id) (s'.calls.get? id)) :
    Undisturbed s s' id where
  made := Nat.le_of_eq made.symm
  unmade fresh := made ▸ fresh
  started := Nat.le_of_eq started.symm
  gone _ _ none := workers ▸ none
  call := moves
  copies w := .inl (by rw [copies, inbox, workers]; rfl)

theorem undisturbed_refl (s : Service ρ σ) (id : CallId) : Undisturbed s s id :=
  undisturbed_of_workers rfl rfl rfl (moves_refl _)

/-- What is done to the clock, the registry or the stream disturbs no call. -/
theorem undisturbed_outward {E : Setting ρ σ} {a : Action ρ σ} (outward : a.IsOutward) :
    Undisturbed s (s.act E a) id := by
  obtain ⟨now, registry, received, receiver, journal, same⟩ := act_outward E s outward
  rw [same]
  exact undisturbed_of_workers rfl rfl rfl (moves_refl _)

/-- A worker that is started has an empty inbox, so it disturbs no call. -/
theorem undisturbed_launch {E : Setting ρ σ} {started : List (WorkerId × TaskParameters)}
    {ended : List (WorkerId × Option (TaskResponse ρ))} {taken : List (WorkerId × Submission ρ)}
    {merged : List (WorkerId × Acceptance ρ)} (lives : Lives E started ended taken merged s)
    (t : TaskParameters) : Undisturbed s (s.launch t) id where
  made := Nat.le_refl _
  unmade fresh := fresh
  started := Nat.le_succ _
  gone w old none := by
    show (s.workers.insert s.started _).get? w = Option.none
    rw [SortedMap.get?_insert, if_neg (Nat.ne_of_lt old), none]
  call := moves_refl _
  copies w := by
    refine .inl ?_
    unfold copies inbox launch report
    dsimp only
    rw [SortedMap.get?_insert]
    split
    next new =>
      cases found : s.workers.get? w with
      | none => rfl
      | some worker => exact absurd (lives.lt_of_tenure (tenure_of_get? found)) (by simp [new])
    next => rfl

/-! ### Steps of the call itself

A step of a call is one of the cases of `Look`. Each moves the record and the place on together. -/

/-- A call is pending when it is looked up. -/
theorem Standing.pending {t : Trail ρ} (standing : Standing s id t) (found : s.calls.get? id = some call) :
    ∃ made place, id < s.made ∧ made.submission.call = id ∧ made.worker < s.started ∧
      (made.cancelled = true → made.cleared = false → place = .outside) ∧ t.made = [made] ∧
      Located s id made place t.entries t.merges t.overruns ∧ call.Follows made ∧
      call.stage.Fits s made place ∧ t.answers = [] := by
  cases standing with
  | unmade fresh absent none =>
    rw [found] at absent
    cases absent
  | @made made place _ old own worker early known located settled =>
    generalize answers : t.answers = returned at settled
    cases settled with
    | pending found' follows fits =>
      rw [found] at found'
      cases found'
      exact ⟨made, place, old, own, worker, early, known, located, follows, fits, rfl⟩
    | returned absent _ =>
      rw [found] at absent
      cases absent

/-- A call that is abandoned is gone, and room that was kept for it goes to another. -/
theorem abandon_service (s : Service ρ σ) (k : CallId) (call : Call ρ) : ∃ left : Service ρ σ,
    left.calls = s.calls.erase k ∧
      ((s.abandon k call).service = left ∨ (s.abandon k call).service = (left.keepRoom call.worker).1) := by
  refine ⟨((s.report [.submissionCancelled call.task call.submission.operator]).finishCall k
    (.error (.cancelled call.task))).service, rfl, ?_⟩
  unfold abandon
  dsimp only
  split
  · exact .inr rfl
  · exact .inl rfl

/-- A call that is abandoned leaves its room to another and so may move that one on. -/
theorem moves_abandon (s : Service ρ σ) (call : Call ρ) (other : id ≠ k) :
    Moves (s.calls.get? id) ((s.abandon k call).service.calls.get? id) := by
  obtain ⟨left, calls, same⟩ := abandon_service s k call
  have kept : left.calls.get? id = s.calls.get? id := by
    rw [calls, SortedMap.get?_erase, if_neg other]
  rw [← kept]
  rcases same with same | same <;> rw [same]
  · exact moves_refl _
  · exact moves_keepRoom _ _ _

/-- A call that is abandoned does not come back by the room that it leaves. -/
theorem get?_abandon (s : Service ρ σ) (k : CallId) (call : Call ρ) :
    (s.abandon k call).service.calls.get? k = none := by
  obtain ⟨left, calls, same⟩ := abandon_service s k call
  have gone : left.calls.get? k = none := by
    rw [calls, SortedMap.get?_erase, if_pos rfl]
  rcases same with same | same <;> rw [same]
  · exact gone
  · have moves := moves_keepRoom left call.worker k
    rw [gone] at moves
    exact moves.eq_none

/-- A submission that is sent is the last in the inbox of its worker. -/
theorem copies_send {worker : Worker ρ} (running : s.workers.get? call.worker = some worker)
    (id : CallId) (w : WorkerId) : (s.send k call worker).service.copies id w =
      s.copies id w ++ if w = call.worker then [call.submission].filter (·.call = id) else [] := by
  unfold copies inbox send setStage
  dsimp only
  rw [SortedMap.get?_insert]
  split
  next same =>
    rw [same, running]
    exact List.filter_append _ _
  next => exact (List.append_nil _).symm

/-- A submission goes to a worker that runs, so no worker that has gone comes back by it. -/
theorem get?_send {worker : Worker ρ} (running : s.workers.get? call.worker = some worker) {w : WorkerId}
    (none : s.workers.get? w = none) : (s.send k call worker).service.workers.get? w = Option.none := by
  show (s.workers.insert call.worker _).get? w = Option.none
  rw [SortedMap.get?_insert, if_neg, none]
  rintro rfl
  rw [running] at none
  cases none

/-- A call that rests goes on without an answer. -/
theorem advances_rest (call : Call ρ) {stage : Stage}
    (moved : stage = call.stage ∨ call.stage.IsOutside ∧ stage.IsOutside) :
    call.Advances { call with cleared := false, stage := stage } :=
  ⟨⟨rfl, rfl, rfl, id, fun _ _ => rfl⟩, moved⟩

/-- So does one that has looked at its token, if that has not fired. -/
theorem advances_clear {call : Call ρ} (running : call.cancelled = false) :
    call.Advances { call with cleared := true } where
  follows := ⟨rfl, rfl, rfl, id, fun fired => by rw [running] at fired; cases fired⟩
  stage := .inl rfl

/-- A step that only gets a call on, without an answer, disturbs no call. -/
theorem undisturbed_insert {call' : Call ρ} (found : s.calls.get? k = some call)
    (advances : call.Advances call') : Undisturbed s { s with calls := s.calls.insert k call' } id :=
  undisturbed_of_workers rfl rfl rfl (moves_insert found advances)

theorem undisturbed_queue (found : s.calls.get? k = some call) (begun : call.stage = .begun) (place : Nat) :
    Undisturbed s (s.rest k call (.waiting place)) id :=
  undisturbed_insert found (advances_rest call (.inr ⟨by rw [begun]; trivial, trivial⟩))

/-- Looking at another call disturbs a call no more than any action. -/
theorem undisturbed_look {polled : Polled ρ σ} (look : Look s k polled) (other : id ≠ k)
    (own : ∀ call, s.calls.get? k = some call → call.submission.call = k) :
    Undisturbed s polled.service id := by
  have erased : (s.calls.erase k).get? id = s.calls.get? id := by
    rw [SortedMap.get?_erase, if_neg other]
  cases look with
  | absent => exact undisturbed_refl s id
  | cleared found running => exact undisturbed_insert found (advances_clear running)
  | rests found => exact undisturbed_insert found (advances_rest _ (.inl rfl))
  | @abandoned call found =>
    have moves := moves_abandon s call other
    obtain ⟨calls, journal, same⟩ := s.abandon_frame k call
    rw [same] at moves ⊢
    exact undisturbed_of_workers rfl rfl rfl moves
  | answered | stranded =>
    refine undisturbed_of_workers rfl rfl rfl ?_
    show Moves _ ((s.calls.erase k).get? id)
    rw [erased]
    exact moves_refl _
  | queued place found begun => exact undisturbed_queue found begun place
  | @sent call worker found _ _ running =>
    refine ⟨Nat.le_refl _, fun fresh => fresh, Nat.le_refl _, fun w _ none => get?_send running none, ?_,
      fun w => .inl ?_⟩
    · show Moves _ ((s.calls.insert k _).get? id)
      rw [SortedMap.get?_insert, if_neg other]
      exact moves_refl _
    · have foreign : [call.submission].filter (·.call = id) = [] := by
        simp [own call found, Ne.symm other]
      rw [copies_send running, foreign, ite_self, List.append_nil]

/-- What looking at a call adds to its record. -/
def Polled.traces (polled : Polled ρ σ) : Trail ρ :=
  ⟨[], polled.woken.toList, [], [], polled.answer.toList⟩

/-- An action that is not about a call adds nothing to its record. -/
@[simp] theorem Trail.append_nil (t : Trail ρ) : t.append ⟨[], [], [], [], []⟩ = t := by
  simp [Trail.append]

/-- An action that adds nothing to the record of a call may lose its submission. -/
theorem Standing.pass {E : Setting ρ σ} {a : Action ρ σ} {t : Trail ρ} (standing : Standing s id t)
    (undisturbed : Undisturbed s (s.act E a) id) (makes : valuesAt id (s.makes a) = [])
    (entries : valuesAt id (s.entries a) = []) (merges : mergesOf id (s.merges E a) = [])
    (answers : valuesAt id (s.answers a) = []) :
    Standing (s.act E a) id (t.append (s.traces E a id)) := by
  have overruns : mergesOf id (s.overruns E a) = [] := by
    unfold Service.overruns
    split
    · exact merges
    · rfl
  rw [traces, makes, entries, merges, overruns, answers, Trail.append_nil]
  exact standing.keep undisturbed

theorem Located.congr {s' : Service ρ σ} {made : Call ρ} {place : Place} {entries : List WorkerId}
    {merges overruns : List (WorkerId × Acceptance ρ)} (same : ∀ w, s'.copies id w = s.copies id w)
    (located : Located s id made place entries merges overruns) :
    Located s' id made place entries merges overruns := by
  cases located with
  | outside none => exact .outside fun w => (same w).trans (none w)
  | queued one => exact .queued fun w => (same w).trans (one w)
  | merged none own => exact .merged (fun w => (same w).trans (none w)) own
  | overrun none own => exact .overrun (fun w => (same w).trans (none w)) own
  | dropped none => exact .dropped fun w => (same w).trans (none w)

/-- Nothing is on record of a submission that is outside. -/
theorem Located.of_outside {made : Call ρ} {entries : List WorkerId}
    {merges overruns : List (WorkerId × Acceptance ρ)}
    (located : Located s id made .outside entries merges overruns) :
    entries = [] ∧ merges = [] ∧ overruns = [] ∧ ∀ w, s.copies id w = [] := by
  cases located with
  | outside none => exact ⟨rfl, rfl, rfl, none⟩

/-- Of a submission in the inbox it is on record that it has entered, and nothing else. -/
theorem Located.of_queued {made : Call ρ} {entries : List WorkerId}
    {merges overruns : List (WorkerId × Acceptance ρ)}
    (located : Located s id made .queued entries merges overruns) :
    entries = [made.worker] ∧ merges = [] ∧ overruns = [] ∧
      ∀ w, s.copies id w = if w = made.worker then [made.submission] else [] := by
  cases located with
  | queued one => exact ⟨rfl, rfl, rfl, one⟩

/-- A submission that is found in an inbox is in the place called so. -/
theorem Located.queued_of_copies {made : Call ρ} {place : Place} {entries : List WorkerId}
    {merges overruns : List (WorkerId × Acceptance ρ)} {w : WorkerId}
    (located : Located s id made place entries merges overruns) (present : s.copies id w ≠ []) :
    place = .queued := by
  cases located with
  | queued => rfl
  | outside none => exact absurd (none w) present
  | merged none _ => exact absurd (none w) present
  | overrun none _ => exact absurd (none w) present
  | dropped none => exact absurd (none w) present

/-- A submission that has entered no inbox is outside. -/
theorem Located.outside_of_entries {made : Call ρ} {place : Place} {entries : List WorkerId}
    {merges overruns : List (WorkerId × Acceptance ρ)}
    (located : Located s id made place entries merges overruns) (none : entries = []) : place = .outside := by
  cases located with
  | outside => rfl
  | _ => cases none

theorem copies_of_workers {s' : Service ρ σ} (workers : s'.workers = s.workers) (id : CallId) (w : WorkerId) :
    s'.copies id w = s.copies id w := by
  rw [copies, inbox, workers]
  rfl

/-- A call returns with an answer that fits the place of its submission. -/
theorem Standing.finish {s' : Service ρ σ} {t : Trail ρ} {answer : Except AggregationError Unit}
    (standing : Standing s id t) (found : s.calls.get? id = some call) (made : s'.made = s.made)
    (started : s'.started = s.started) (workers : s'.workers = s.workers)
    (gone : s'.calls.get? id = none)
    (fits : ∀ made place entries merges overruns, call.Follows made → call.stage.Fits s made place →
      Located s id made place entries merges overruns → Verdict made place answer) :
    Standing s' id (t.append ⟨[], [], [], [], [answer]⟩) := by
  obtain ⟨first, place, old, own, worker, early, known, located, follows, stage, unanswered⟩ :=
    standing.pending found
  have located' := located.congr (copies_of_workers workers id)
  have verdict := fits first place _ _ _ follows stage located
  refine .made (made.symm ▸ old) own (started.symm ▸ worker) early ?_ ?_ ?_
  · simp [Trail.append, known]
  · simpa [Trail.append] using located'
  · simpa [Trail.append, unanswered] using Settled.returned gone verdict

/-- The call has no answer from its worker and will get none. -/
theorem verdict_of_stranded {made : Call ρ} {place : Place} {entries : List WorkerId}
    {merges overruns : List (WorkerId × Acceptance ρ)} (follows : call.Follows made)
    (gone : s.workers.get? call.worker = none) (unanswered : ∀ rejection, call.stage ≠ .answered rejection)
    (fits : call.stage.Fits s made place)
    (located : Located s id made place entries merges overruns) :
    Verdict made place (.error (.taskNotFound call.task)) := by
  refine ⟨follows.task, ?_⟩
  cases stage : call.stage with
  | answered rejection => exact absurd stage (unanswered rejection)
  | sent =>
    rw [stage] at fits
    rcases fits with rfl | ⟨lost, -⟩
    · cases located with
      | queued one =>
        have copy := one made.worker
        rw [if_pos rfl, copies_gone (follows.worker ▸ gone)] at copy
        cases copy
    · exact .inr lost
  | _ =>
    rw [stage] at fits
    exact .inl fits

/-- A call puts its submission into the inbox of its worker. -/
theorem Standing.send {t : Trail ρ} {worker : Worker ρ} (standing : Standing s id t)
    (found : s.calls.get? id = some call) (cleared : call.cleared = true)
    (stage : call.stage = .begun ∨ call.stage = .admitted)
    (works : s.workers.get? call.worker = some worker) :
    Standing (s.send id call worker).service id (t.append ⟨[], [call.worker], [], [], []⟩) := by
  obtain ⟨made, place, old, own, known, early, first, located, follows, fits, unanswered⟩ :=
    standing.pending found
  have outside : place = .outside := by
    rcases stage with stage | stage <;>
    · rw [stage] at fits
      exact fits
  subst outside
  obtain ⟨entries, merges, overruns, none⟩ := located.of_outside
  have early' : made.cancelled = true → made.cleared = false → Place.queued = .outside := by
    intro cancelled still
    rw [follows.uncleared cancelled still] at cleared
    cases cleared
  refine .made old own known early' ?_ ?_ ?_
  · simp [Trail.append, first]
  · have located' : Located (s.send id call worker).service id made .queued [made.worker] [] [] := by
      refine .queued fun w => ?_
      have alone : [made.submission].filter (·.call = id) = [made.submission] := by simp [own]
      rw [copies_send works, none, List.nil_append, follows.submission, follows.worker, alone]
    simpa [Trail.append, entries, merges, overruns, follows.worker] using located'
  · have sent : (s.send id call worker).service.calls.get? id = some { call with stage := .sent } := by
      show (s.calls.insert id _).get? id = _
      rw [SortedMap.get?_insert, if_pos rfl]
    have settled : Settled (s.send id call worker).service id made .queued [] :=
      .pending sent ((call.follows_stage .sent).trans follows) (.inl rfl)
    simpa [Trail.append, unanswered] using settled

/-- A call that is abandoned returns that it was cancelled, and nothing else is put down. -/
theorem abandon_traces (s : Service ρ σ) (k : CallId) (call : Call ρ) :
    (s.abandon k call).traces = ⟨[], [], [], [], [.error (.cancelled call.task)]⟩ := by
  unfold abandon
  dsimp only
  split <;> rfl

/-- A step of a call moves it on beside its record. -/
theorem Standing.look {t : Trail ρ} {polled : Polled ρ σ} (standing : Standing s id t)
    (look : Look s id polled) : Standing polled.service id (t.append polled.traces) := by
  have quiet : ∀ s' : Service ρ σ, Undisturbed s s' id →
      Standing s'.idle.service id (t.append s'.idle.traces) := by
    intro s' undisturbed
    show Standing s' id (t.append ⟨[], [], [], [], []⟩)
    rw [Trail.append_nil]
    exact standing.keep undisturbed
  cases look with
  | absent => exact quiet s (undisturbed_refl s id)
  | cleared found running => exact quiet _ (undisturbed_insert found (advances_clear running))
  | queued place found begun => exact quiet _ (undisturbed_queue found begun place)
  | rests found => exact quiet _ (undisturbed_insert found (advances_rest _ (.inl rfl)))
  | @abandoned call found =>
    have gone := get?_abandon s id call
    rw [abandon_traces]
    obtain ⟨calls, journal, same⟩ := s.abandon_frame id call
    rw [same] at gone ⊢
    exact standing.finish found rfl rfl rfl gone fun made place _ _ _ follows _ _ => follows.task
  | @answered call rejection found _ stage =>
    refine standing.finish found rfl rfl rfl (by simp [finishCall, SortedMap.get?_erase]) ?_
    intro made place _ _ _ follows fits _
    rw [stage] at fits
    cases rejection with
    | none => exact fits
    | some e => exact ⟨follows.task, fits⟩
  | stranded found _ unanswered gone =>
    refine standing.finish found rfl rfl rfl (by simp [finishCall, SortedMap.get?_erase]) ?_
    intro made place _ _ _ follows fits located
    exact verdict_of_stranded follows gone unanswered fits located
  | sent found cleared stage works => exact standing.send found cleared stage works

end Moving

end Attestation
