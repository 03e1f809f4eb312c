/-
Module: Attestation.Proofs.Firing
Purpose: Tokens that fire before the submissions of their calls have entered the inbox. Such a call is as
  good as cancelled from the start, and nothing is merged of it, with one exception: it may have looked at
  its token right before, and then takes its next step without another look. That step, and no later one,
  can put the submission into the inbox.
Main exports: Service.isCleared_act, Service.looked_of_isCleared, Standing.cancel_outside,
  merges_of_fired, Service.Outruns, merges_of_cancel
-/
import Attestation.Proofs.Receipts

namespace Attestation

open Service

variable {ρ σ : Type} {E : Setting ρ σ} {s : Service ρ σ} {id k : CallId} {t : Trail ρ} {call : Call ρ}

/-! ### Calls that are about to go on

Only a step of the call itself makes it about to go on, and it does so by a look at a token that has not
fired. -/

namespace Service

/-- Whether a call is about to go on is seen from the call alone. -/
theorem isCleared_congr {s' : Service ρ σ} (same : s'.calls.get? id = s.calls.get? id) :
    s'.isCleared id = s.isCleared id := by
  unfold isCleared
  rw [same]

/-- A call that is changed in other things is about to go on as before. -/
theorem isCleared_insert {call' : Call ρ} (found : s.calls.get? k = some call)
    (same : call'.cleared = call.cleared) :
    { s with calls := s.calls.insert k call' }.isCleared id = s.isCleared id := by
  unfold isCleared
  rw [SortedMap.get?_insert]
  split
  next own =>
    rw [own, found]
    exact same
  next => rfl

theorem isCleared_keepRoom (s : Service ρ σ) (v : WorkerId) (id : CallId) :
    (s.keepRoom v).1.isCleared id = s.isCleared id := by
  unfold keepRoom
  split
  next k call first => exact isCleared_insert (mem_callsAt.1 (mem_of_firstInLine? first)).1 rfl
  next => rfl

theorem isCleared_noteAll (v : WorkerId) (id : CallId) (signals : List Signal) :
    ∀ s : Service ρ σ, (s.noteAll v signals).1.isCleared id = s.isCleared id := by
  have note : ∀ (s : Service ρ σ) (signal : Signal),
      (s.note v signal).1.isCleared id = s.isCleared id := by
    intro s signal
    cases signal with
    | taken => exact isCleared_keepRoom s v id
    | verdict k task operator rejection =>
      unfold Service.note
      dsimp only
      split
      next call found => exact isCleared_insert found rfl
      next => rfl
    | _ => rfl
  induction signals with
  | nil => exact fun _ => rfl
  | cons signal rest ih =>
    intro s
    rw [noteAll_cons, ih, note]

theorem isCleared_work (v : WorkerId) : (s.work E v).isCleared id = s.isCleared id := by
  cases found : s.workers.get? v with
  | none =>
    unfold work
    rw [found]
  | some w =>
    rw [isCleared_congr (congrArg (·.get? id) (afterTurn_work (E := E) found).calls)]
    exact isCleared_noteAll v id _ s

/-- A step of another call. -/
theorem isCleared_poll_other (other : k ≠ id) : (s.poll k).service.isCleared id = s.isCleared id := by
  have look := s.look_poll k
  generalize s.poll k = polled at look
  cases look with
  | absent => rfl
  | cleared | rests | queued | sent =>
    exact isCleared_congr ((SortedMap.get?_insert _ _ _ _).trans (if_neg (Ne.symm other)))
  | answered | stranded =>
    exact isCleared_congr ((SortedMap.get?_erase _ _ _).trans (if_neg (Ne.symm other)))
  | @abandoned call _ =>
    obtain ⟨left, calls, same⟩ := abandon_service s k call
    have kept : left.isCleared id = s.isCleared id := by
      refine isCleared_congr ?_
      rw [calls, SortedMap.get?_erase, if_neg (Ne.symm other)]
    rcases same with same | same <;> rw [same]
    · exact kept
    · exact (isCleared_keepRoom left call.worker id).trans kept

theorem isCleared_outward {a : Action ρ σ} (outward : a.IsOutward) :
    (s.act E a).isCleared id = s.isCleared id := by
  obtain ⟨_, _, _, _, _, same⟩ := act_outward E s outward
  rw [same]
  rfl

theorem isCleared_cancel (s : Service ρ σ) (k id : CallId) : (s.cancel k).1.isCleared id = s.isCleared id := by
  unfold cancel
  split
  next call found => exact isCleared_insert found rfl
  next => rfl

/-- No action but a step of the call makes it about to go on. -/
theorem isCleared_act {a : Action ρ σ} (other : a ≠ .poll id) (cleared : (s.act E a).isCleared id = true) :
    s.isCleared id = true := by
  cases a with
  | startTask runtime p =>
    rcases act_startTask E s runtime p with ⟨-, -, same⟩ | ⟨-, same⟩ <;>
    · rw [same] at cleared
      exact cleared
  | submit task operator response signature cancelled =>
    cases routed : s.routes.get? task with
    | none => rwa [act_submit_unrouted routed] at cleared
    | some worker =>
      rw [act_submit_routed routed] at cleared
      unfold isCleared at cleared
      rw [SortedMap.get?_insert] at cleared
      split at cleared
      · cases cleared
      · exact cleared
  | poll k => rwa [act, isCleared_poll_other (fun same => other (by rw [same]))] at cleared
  | cancel k => rwa [act, isCleared_cancel] at cleared
  | work v => rwa [act, isCleared_work] at cleared
  | _ => rwa [isCleared_outward (by trivial)] at cleared

/-- A step after which the call is about to go on is a look at a token that has not fired, unless it puts
the submission into the inbox. -/
theorem isCleared_poll (cleared : (s.poll id).service.isCleared id = true)
    (outside : (s.poll id).woken = none) :
    ∃ call, s.calls.get? id = some call ∧ call.cancelled = false := by
  have look := s.look_poll id
  generalize s.poll id = polled at look cleared outside
  have gone : ∀ s' : Service ρ σ, s'.calls.get? id = none → s'.isCleared id ≠ true := by
    intro s' absent
    unfold isCleared
    rw [absent]
    exact nofun
  have resting : ∀ (call : Call ρ) (stage : Stage), (s.rest id call stage).isCleared id ≠ true := by
    intro call stage
    unfold isCleared rest setStage
    rw [SortedMap.get?_insert, if_pos rfl]
    exact nofun
  cases look with
  | cleared found running => exact ⟨_, found, running⟩
  | absent found => exact absurd cleared (gone s found)
  | @abandoned call _ => exact absurd cleared (gone _ (get?_abandon s id call))
  | answered | stranded =>
    exact absurd cleared (gone _ ((SortedMap.get?_erase _ _ _).trans (if_pos rfl)))
  | @queued call place _ _ => exact absurd cleared (resting call _)
  | @rests call _ => exact absurd cleared (resting call _)
  | sent => cases outside

theorem entries_poll (s : Service ρ σ) (id : CallId) :
    s.entries (.poll id) = (s.poll id).woken.toList.map (id, ·) := rfl

/-- The last step of a call that is about to go on was a look at its token, which had not fired. -/
theorem looked_of_isCleared (start : s.isCleared id = false) (actions : List (Action ρ σ))
    (outside : valuesAt id (s.along E entries actions) = [])
    (cleared : (s.after E actions).isCleared id = true) :
    ∃ first between call, actions = first ++ .poll id :: between ∧ .poll id ∉ between ∧
      (s.after E first).calls.get? id = some call ∧ call.cancelled = false := by
  induction actions using List.reverseRecOn with
  | nil =>
    rw [after_nil, start] at cleared
    cases cleared
  | append_singleton before a ih =>
    rw [along_snoc, valuesAt_append, List.append_eq_nil_iff] at outside
    rw [after_snoc] at cleared
    by_cases own : a = .poll id
    · subst own
      have idle : ((s.after E before).poll id).woken = none := by
        have none := outside.2
        rwa [entries_poll, valuesAt_map_self, Option.toList_eq_nil_iff] at none
      obtain ⟨call, found, running⟩ := isCleared_poll cleared idle
      exact ⟨before, [], call, rfl, List.not_mem_nil, found, running⟩
    · obtain ⟨first, between, call, rfl, unpolled, found, running⟩ := ih outside.1 (isCleared_act own cleared)
      refine ⟨first, between ++ [a], call, by simp, ?_, found, running⟩
      simp [unpolled, Ne.symm own]

end Service

/-! ### Tokens that fire outside the inbox -/

/-- A call whose token has fired while its submission is outside may stand on record as one that was made
so. -/
theorem Standing.cancel_outside (standing : Standing s id t) (made : t.made = [call])
    (entries : t.entries = []) (cleared : Bool)
    (fired : ∀ current, s.calls.get? id = some current → current.cancelled = true ∧
      (cleared = false → current.cleared = false)) :
    Standing s id { t with made := [{ call with cancelled := true, cleared := cleared }] } := by
  cases standing with
  | unmade => cases made
  | @made made' place t old own worker early known located settled =>
    cases known.symm.trans made
    cases located.outside_of_entries entries
    obtain ⟨-, merges, overruns, none⟩ := located.of_outside
    have located' : Located s id { call with cancelled := true, cleared := cleared } .outside t.entries
        t.merges t.overruns := by
      rw [entries, merges, overruns]
      exact .outside none
    have own' : { call with cancelled := true, cleared := cleared }.submission.call = id := own
    refine .made old own' worker (fun _ _ => rfl) rfl located' ?_
    generalize t.answers = answers at settled
    cases settled with
    | pending found follows fits =>
      obtain ⟨cancelled, uncleared⟩ := fired _ found
      exact .pending found ⟨follows.task, follows.worker, follows.submission, fun _ => cancelled,
        fun _ => uncleared⟩ fits
    | returned absent verdict => exact .returned absent verdict

variable {config : Config} {registry : σ}

/-- Nothing is merged of a call whose token has fired while its submission was outside, if it was not about
to go on from a look at the token. -/
theorem merges_of_fired (created : create config registry = .ok s) (before rest : List (Action ρ σ))
    (made : (s.trail E before id).made = [call]) (outside : (s.trail E before id).entries = [])
    (fired : ∀ current, (s.after E before).calls.get? id = some current →
      current.cancelled = true ∧ current.cleared = false) :
    (s.trail E (before ++ rest) id).merges = [] := by
  have standing := standing_after E created before
  have lives := lives_after E created before
  have changed := (standing id).cancel_outside made outside false
    fun current found => ⟨(fired current found).1, fun _ => (fired current found).2⟩
  have later := Standing.run (fun k => ⟨_, standing k⟩) changed lives rest
  obtain ⟨call', alone⟩ := later.exists_made (List.cons_ne_nil _ _)
  obtain ⟨rfl, -⟩ := List.cons_eq_cons.1 alone
  rw [trail_append]
  exact (later.accord alone rfl).early rfl

/-- A token that has fired stays so. -/
theorem cancelled_of_cancel (created : create config registry = .ok s) (before rest : List (Action ρ σ))
    (made : (s.trail E before id).made = [call]) (outside : (s.trail E before id).entries = [])
    {current : Call ρ} (found : (s.after E (before ++ .cancel id :: rest)).calls.get? id = some current) :
    current.cancelled = true := by
  have standing := standing_after E created (before ++ [.cancel id])
  have lives := lives_after E created (before ++ [.cancel id])
  have same : s.trail E (before ++ [.cancel id]) id = s.trail E before id := by
    rw [trail_append]
    exact Trail.append_nil _
  have own := standing id
  rw [same] at own
  have fired : ∀ current, (s.after E (before ++ [.cancel id])).calls.get? id = some current →
      current.cancelled = true := by
    intro current
    rw [after_snoc]
    unfold Service.act cancel
    dsimp only
    split
    next call' _ =>
      dsimp only
      rw [SortedMap.get?_insert, if_pos rfl]
      rintro ⟨⟩
      rfl
    next absent =>
      intro found'
      rw [absent] at found'
      cases found'
  have changed := own.cancel_outside made outside true fun current found =>
    ⟨fired current found, nofun⟩
  have later := Standing.run (fun k => ⟨_, standing k⟩) changed lives rest
  rw [← after_append, List.append_assoc, List.singleton_append] at later
  obtain ⟨first, place, -, -, -, -, known, -, follows, -⟩ := later.pending found
  obtain ⟨call', alone⟩ := later.exists_made (List.cons_ne_nil _ _)
  obtain ⟨rfl, -⟩ := List.cons_eq_cons.1 alone
  cases known.symm.trans alone
  exact follows.cancelled rfl

/-- The token of a call fires after some actions and before others, between a look of the call at it and the
next step of the call, which puts the submission into the inbox. -/
def Service.Outruns (E : Setting ρ σ) (s : Service ρ σ) (before rest : List (Action ρ σ)) (id : CallId) :
    Prop :=
  ∃ first between mid later call v, before = first ++ .poll id :: between ∧
    rest = mid ++ .poll id :: later ∧ .poll id ∉ between ∧ .poll id ∉ mid ∧
    (s.after E first).calls.get? id = some call ∧ call.cancelled = false ∧
    (s.after E (before ++ .cancel id :: mid)).entries (.poll id) = [(id, v)]

/-- What a call has put into inboxes by the end of a run. -/
theorem entries_append (E : Setting ρ σ) (s : Service ρ σ) (as bs : List (Action ρ σ)) (id : CallId) :
    (s.trail E (as ++ bs) id).entries =
      (s.trail E as id).entries ++ ((s.after E as).trail E bs id).entries :=
  congrArg Trail.entries (trail_append E s as bs id)

theorem entries_single (E : Setting ρ σ) (s : Service ρ σ) (a : Action ρ σ) (id : CallId) :
    (s.trail E [a] id).entries = valuesAt id (s.entries a) :=
  congrArg (valuesAt id) (along_single s a)

/-- A call that takes no step puts nothing into an inbox. -/
theorem entries_of_unpolled {actions : List (Action ρ σ)} (unpolled : .poll id ∉ actions) :
    ∀ s : Service ρ σ, (s.trail E actions id).entries = [] := by
  induction actions with
  | nil => exact fun _ => rfl
  | cons a rest ih =>
    intro s
    rw [List.mem_cons, not_or] at unpolled
    have none : valuesAt id (s.entries a) = [] := by
      cases a with
      | poll k => exact valuesAt_map_other (fun same => unpolled.1 (by rw [same])) _
      | _ => rfl
    rw [← List.singleton_append, entries_append, entries_single, none, ih unpolled.2, List.append_nil]

/-- A call is made once. -/
theorem made_append (created : create config registry = .ok s) (before rest : List (Action ρ σ))
    (made : (s.trail E before id).made = [call]) : (s.trail E (before ++ rest) id).made = [call] := by
  have extended : (s.trail E (before ++ rest) id).made =
      call :: ((s.after E before).trail E rest id).made := by
    rw [trail_append, Trail.append, made]
    rfl
  have standing := standing_after E created (before ++ rest) id
  obtain ⟨call', alone⟩ := standing.exists_made (by rw [extended]; exact List.cons_ne_nil _ _)
  rw [extended] at alone
  rw [extended, (List.cons_eq_cons.1 alone).2]

/-- Nothing enters an inbox while the call takes no step. -/
theorem entries_of_cancel (before : List (Action ρ σ)) {mid : List (Action ρ σ)}
    (outside : (s.trail E before id).entries = []) (unpolled : .poll id ∉ mid) :
    (s.trail E (before ++ .cancel id :: mid) id).entries = [] := by
  rw [entries_append, outside, List.nil_append]
  exact entries_of_unpolled (by simp [unpolled]) _

/-- A call whose first step after its token has fired puts nothing into the inbox is not merged. -/
theorem merges_of_idle (created : create config registry = .ok s) (before mid later : List (Action ρ σ))
    (made : (s.trail E before id).made = [call]) (outside : (s.trail E before id).entries = [])
    (unpolled : .poll id ∉ mid)
    (idle : ((s.after E (before ++ .cancel id :: mid)).poll id).woken = none) :
    (s.trail E (before ++ .cancel id :: (mid ++ .poll id :: later)) id).merges = [] := by
  have split : before ++ .cancel id :: (mid ++ .poll id :: later) =
      before ++ .cancel id :: (mid ++ [.poll id]) ++ later := by simp
  have outside' : (s.trail E (before ++ .cancel id :: (mid ++ [.poll id])) id).entries = [] := by
    rw [← List.cons_append, ← List.append_assoc, entries_append,
      entries_of_cancel before outside unpolled, List.nil_append, entries_single, entries_poll, idle]
    rfl
  rw [split]
  refine merges_of_fired created _ later (made_append created before _ made) outside' fun current found => ?_
  refine ⟨cancelled_of_cancel created before _ made outside found, Bool.eq_false_iff.2 fun cleared => ?_⟩
  rw [← List.cons_append, ← List.append_assoc, after_snoc] at found
  have goes : ((s.after E (before ++ .cancel id :: mid)).poll id).service.isCleared id = true := by
    have found' : ((s.after E (before ++ .cancel id :: mid)).poll id).service.calls.get? id =
        some current := found
    rw [isCleared, found']
    exact cleared
  obtain ⟨call', earlier, running⟩ := isCleared_poll goes idle
  rw [cancelled_of_cancel created before mid made outside earlier] at running
  cases running

/-- The submission of a call whose token fires before it enters the inbox is never merged, unless the call
outruns the token. -/
theorem merges_of_cancel (created : create config registry = .ok s) (before rest : List (Action ρ σ))
    (made : (s.trail E before id).made = [call]) (outside : (s.trail E before id).entries = []) :
    (s.trail E (before ++ .cancel id :: rest) id).merges = [] ∨ s.Outruns E before rest id := by
  have start : s.isCleared id = false := by
    obtain ⟨_, -, same⟩ := bind_eq_ok_iff.1 created
    cases same
    rfl
  cases cleared : (s.after E (before ++ [.cancel id])).isCleared id with
  | false =>
    left
    have unmerged := merges_of_fired created (before ++ [.cancel id]) rest
      (made_append created before _ made) (entries_of_cancel before outside List.not_mem_nil)
      fun current found => ⟨cancelled_of_cancel created before [] made outside found, ?_⟩
    · rwa [List.append_assoc] at unmerged
    · unfold isCleared at cleared
      rwa [found] at cleared
  | true =>
    rw [after_snoc] at cleared
    obtain ⟨first, between, looked, rfl, unpolled, found, running⟩ :=
      looked_of_isCleared start before outside (isCleared_act (a := .cancel id) nofun cleared)
    by_cases polled : .poll id ∈ rest
    · obtain ⟨mid, later, rfl, unpolled'⟩ := List.eq_append_cons_of_mem polled
      cases woken : ((s.after E (first ++ .poll id :: between ++ .cancel id :: mid)).poll id).woken with
      | some v =>
        refine .inr ⟨first, between, mid, later, looked, v, rfl, rfl, unpolled, unpolled', found, running, ?_⟩
        rw [entries_poll, woken]
        rfl
      | none => exact .inl (merges_of_idle created _ mid later made outside unpolled' woken)
    · exact .inl ((standing_after E created _ id).unmerged (entries_of_cancel _ outside polled))

end Attestation
