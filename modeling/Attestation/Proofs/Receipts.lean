/-
Module: Attestation.Proofs.Receipts
Purpose: What a call is told agrees with what was merged of it, in every order in which workers end,
  tokens fire and inboxes fill up. Every action moves every call on beside its record, so what a call has
  returned and what was merged of it fit the one place where its submission is.
Main exports: Standing.act, Standing.run, standing_after, Accord, Standing.accord, merges_of_cancel,
  overruns_cause
-/
import Attestation.Proofs.Handling

namespace Attestation

section Acting

open Service

variable {ρ σ : Type} {E : Setting ρ σ} {s : Service ρ σ} {id : CallId} {t : Trail ρ}
  {started : List (WorkerId × TaskParameters)} {ended : List (WorkerId × Option (TaskResponse ρ))}
  {taken : List (WorkerId × Submission ρ)} {merged : List (WorkerId × Acceptance ρ)}

/-- A call that is made begins its record. -/
theorem Standing.submit (standing : Standing s id t) (lives : Lives E started ended taken merged s)
    (task : TaskIndex) (operator : OperatorId) (response : ρ) (signature : Signature) (cancelled : Bool) :
    Standing (s.act E (.submit task operator response signature cancelled)) id
      (t.append (s.traces E (.submit task operator response signature cancelled) id)) := by
  generalize submits : Action.submit task operator response signature cancelled = a
  cases routed : s.routes.get? task with
  | none =>
    have same : s.act E a = s := submits ▸ act_submit_unrouted routed
    have makes : s.makes a = [] := by
      rw [← submits, Service.makes, routed]
      rfl
    refine standing.pass ?_ (by rw [makes]; rfl) (submits ▸ rfl) (submits ▸ rfl) (submits ▸ rfl)
    rw [same]
    exact undisturbed_refl s id
  | some worker =>
    generalize made :
      (⟨task, worker, ⟨s.made, operator, response, signature⟩, cancelled, .begun, false⟩ : Call ρ) = call
    have same : s.act E a = { s with calls := s.calls.insert s.made call, made := s.made + 1 } :=
      submits ▸ made ▸ act_submit_routed routed
    have makes : s.makes a = [(s.made, call)] := by
      rw [← submits, ← made, Service.makes, routed]
      rfl
    have found : ∀ k, (s.act E a).calls.get? k = if k = s.made then some call else s.calls.get? k := by
      intro k
      rw [same]
      exact SortedMap.get?_insert _ _ _ _
    by_cases new : id = s.made
    · subst new
      have traces : s.traces E a s.made = ⟨[call], [], [], [], []⟩ := by
        rw [Service.traces, makes, overruns_nil (submits ▸ rfl), ← submits]
        simp [valuesAt, Service.entries, Service.merges, Service.answers]
      cases standing with
      | made old => exact absurd old (Nat.lt_irrefl _)
      | unmade fresh absent none =>
        obtain ⟨p, phase, works, -⟩ := (lives.routes task worker).1 routed
        have known : call.worker < (s.act E a).started := by
          rw [← made, same]
          exact lives.lt_of_tenure works
        have located : Located (s.act E a) s.made call .outside [] [] [] := by
          refine .outside fun w => ?_
          rw [same]
          exact none w
        have pending : Settled (s.act E a) s.made call .outside [] :=
          .pending ((found s.made).trans (if_pos rfl)) call.follows_refl (by rw [← made]; rfl)
        rw [traces]
        exact .made (by rw [same]; exact Nat.lt_succ_self _) (by rw [← made]) known (fun _ _ => rfl) rfl
          located pending
    · refine standing.pass ?_ ?_ (submits ▸ rfl) (submits ▸ rfl) (submits ▸ rfl)
      · refine ⟨by rw [same]; exact Nat.le_succ _, fun fresh => ?_,
          Nat.le_of_eq (by rw [same]), fun w _ none => ?_, ?_, fun w => .inl ?_⟩
        · rw [same]
          exact Nat.lt_of_le_of_ne fresh (Ne.symm new)
        · rw [same]
          exact none
        · rw [found, if_neg new]
          exact moves_refl _
        · rw [same]
          rfl
      · rw [makes]
        simp [valuesAt, Ne.symm new]

/-- Every action moves every call on beside its record. -/
theorem Standing.act (standings : ∀ k, ∃ t, Standing s k t) (standing : Standing s id t)
    (lives : Lives E started ended taken merged s) (a : Action ρ σ) :
    Standing (s.act E a) id (t.append (s.traces E a id)) := by
  cases a with
  | submit task operator response signature cancelled =>
    exact standing.submit lives task operator response signature cancelled
  | startTask runtime p =>
    refine standing.pass ?_ rfl rfl rfl rfl
    rcases act_startTask E s runtime p with ⟨-, -, same⟩ | ⟨-, same⟩ <;> rw [same]
    · exact undisturbed_launch lives p
    · exact undisturbed_refl s id
  | poll k =>
    have look := s.look_poll k
    show Standing (s.poll k).service id (t.append ⟨[], valuesAt id ((s.poll k).woken.toList.map (k, ·)), [],
      mergesOf id (s.overruns E (.poll k)), valuesAt id ((s.poll k).answer.toList.map (k, ·))⟩)
    rw [overruns_nil rfl, mergesOf_nil]
    by_cases own : k = id
    · subst own
      rw [valuesAt_map_self, valuesAt_map_self]
      exact standing.look look
    · rw [valuesAt_map_other own, valuesAt_map_other own, Trail.append_nil]
      refine standing.keep (undisturbed_look look (Ne.symm own) fun call found => ?_)
      obtain ⟨t', other⟩ := standings k
      obtain ⟨made, place, -, same, -, -, -, -, follows, -⟩ := other.pending found
      rw [follows.submission, same]
  | cancel k =>
    refine standing.pass ?_ rfl rfl rfl rfl
    rw [Service.act, cancel]
    split
    next call found =>
      exact undisturbed_of_workers rfl rfl rfl (moves_insert found
        ⟨⟨rfl, rfl, rfl, fun _ => rfl, fun _ still => still⟩, .inl rfl⟩)
    next => exact undisturbed_refl s id
  | work v =>
    cases found : s.workers.get? v with
    | some w => exact standing.work found (lives.working v _ _ (tenure_of_get? found)).2.2
    | none =>
      refine standing.pass ?_ rfl rfl ?_ rfl
      · rw [work_of_gone found]
        exact undisturbed_refl s id
      · rw [(idles_of_gone found).merges]
        rfl
  | _ => exact standing.pass (undisturbed_outward trivial) rfl rfl rfl rfl

/-- A run of actions moves every call on beside its record. -/
theorem Standing.run (standings : ∀ k, ∃ t, Standing s k t) (standing : Standing s id t)
    (lives : Lives E started ended taken merged s) (actions : List (Action ρ σ)) :
    Standing (s.after E actions) id (t.append (s.trail E actions id)) := by
  induction actions generalizing s t started ended taken merged with
  | nil =>
    show Standing s id (t.append ⟨[], [], [], [], []⟩)
    rw [Trail.append_nil]
    exact standing
  | cons a rest ih =>
    rw [trail_cons, ← Trail.append_assoc]
    refine ih (fun k => ?_) (standing.act standings lives a) (lives.act a)
    obtain ⟨t', other⟩ := standings k
    exact ⟨_, other.act standings lives a⟩

/-- Every call stands beside its record after every list of actions. -/
theorem standing_after (E : Setting ρ σ) {config : Config} {registry : σ}
    (created : create config registry = .ok s) (actions : List (Action ρ σ)) (id : CallId) :
    Standing (s.after E actions) id (s.trail E actions id) := by
  have unmade : ∀ k, Standing s k ⟨[], [], [], [], []⟩ := by
    intro k
    obtain ⟨_, -, same⟩ := bind_eq_ok_iff.1 created
    cases same
    exact .unmade (Nat.zero_le k) rfl fun w => rfl
  exact Standing.run (fun k => ⟨_, unmade k⟩) (unmade id) (lives_create created) actions

end Acting

section Accord

open Service

variable {ρ σ : Type} {s : Service ρ σ} {id : CallId} {t : Trail ρ} {call : Call ρ}

/-- What a call is told agrees with what was merged of it. -/
structure Accord (t : Trail ρ) (call : Call ρ) : Prop where
  /-- The submission of the call is merged at most once, and by the worker whose route the call has found. -/
  own : t.merges = [] ∨ ∃ a : Acceptance ρ, a.toSubmission = call.submission ∧ t.merges = [(call.worker, a)]
  once : t.answers.length ≤ 1
  accepted : .ok () ∈ t.answers →
    ∃ a : Acceptance ρ, a.toSubmission = call.submission ∧ t.merges = [(call.worker, a)]
  rejected : ∀ task e, .error (.signature task e) ∈ t.answers → task = call.task ∧ t.merges = []
  /-- Only a worker that crashes right then can have merged it. -/
  unanswered : ∀ task, .error (.taskNotFound task) ∈ t.answers → task = call.task ∧ t.merges = t.overruns
  cancelled : ∀ task, .error (.cancelled task) ∈ t.answers → task = call.task
  early : call.cancelled = true → t.merges = []
  kinds : ∀ answer ∈ t.answers, answer = .ok () ∨ (∃ e, answer = .error (.signature call.task e)) ∨
    answer = .error (.taskNotFound call.task) ∨ answer = .error (.cancelled call.task)

/-- What the place of a submission tells of the record of its call. -/
structure Place.Tells (made : Call ρ) (merges overruns : List (WorkerId × Acceptance ρ)) (place : Place) :
    Prop where
  own : merges = [] ∨ ∃ a : Acceptance ρ, a.toSubmission = made.submission ∧ merges = [(made.worker, a)]
  merged : place = .merged →
    ∃ a : Acceptance ρ, a.toSubmission = made.submission ∧ merges = [(made.worker, a)]
  unmerged : place = .outside ∨ place = .dropped → merges = []
  overrun : place ≠ .merged → merges = overruns

theorem Located.tells {made : Call ρ} {place : Place} {entries : List WorkerId}
    {merges overruns : List (WorkerId × Acceptance ρ)}
    (located : Located s id made place entries merges overruns) : place.Tells made merges overruns := by
  cases located with
  | @merged a _ same =>
    refine ⟨.inr ⟨a, same, rfl⟩, fun _ => ⟨a, same, rfl⟩, ?_, fun other => absurd rfl other⟩
    rintro (place | place) <;> cases place
  | @overrun a _ same =>
    refine ⟨.inr ⟨a, same, rfl⟩, nofun, ?_, fun _ => rfl⟩
    rintro (place | place) <;> cases place
  | _ => exact ⟨.inl rfl, nofun, fun _ => rfl, fun _ => rfl⟩

theorem Settled.verdict {made : Call ρ} {place : Place} {answers : List (Except AggregationError Unit)}
    (settled : Settled s id made place answers) :
    answers.length ≤ 1 ∧ ∀ answer ∈ answers, Verdict made place answer := by
  cases settled with
  | pending => exact ⟨Nat.zero_le 1, nofun⟩
  | returned _ verdict => exact ⟨Nat.le_refl 1, List.forall_mem_singleton.2 verdict⟩

theorem Standing.accord (standing : Standing s id t) (made : t.made = [call])
    (uncleared : call.cleared = false) : Accord t call := by
  cases standing with
  | unmade => cases made
  | @made made' place t old own worker early known located settled =>
    cases known.symm.trans made
    have tells := located.tells
    obtain ⟨once, verdicts⟩ := settled.verdict
    refine ⟨tells.own, once, fun answer => tells.merged (verdicts _ answer), fun task e answer => ?_,
      fun task answer => ?_, fun task answer => verdicts _ answer,
      fun cancelled => tells.unmerged (.inl (early cancelled uncleared)), fun answer member => ?_⟩
    · obtain ⟨same, dropped⟩ := verdicts _ answer
      exact ⟨same, tells.unmerged (.inr dropped)⟩
    · obtain ⟨same, place⟩ := verdicts _ answer
      refine ⟨same, tells.overrun ?_⟩
      rintro rfl
      rcases place with place | place | place <;> cases place
    · have verdict := verdicts answer member
      cases answer with
      | ok => exact .inl rfl
      | error e =>
        cases e with
        | signature task e => exact .inr (.inl ⟨e, by rw [verdict.1]⟩)
        | taskNotFound task => exact .inr (.inr (.inl (by rw [verdict.1])))
        | cancelled task => exact .inr (.inr (.inr (congrArg _ (congrArg _ verdict))))
        | _ => exact verdict.elim

theorem Standing.exists_made (standing : Standing s id t) (begun : t.made ≠ []) :
    ∃ call, t.made = [call] := by
  cases standing with
  | unmade => exact absurd rfl begun
  | made _ _ _ _ known => exact ⟨_, known⟩

/-- A call whose submission has not entered an inbox has nothing merged. -/
theorem Standing.unmerged (standing : Standing s id t) (outside : t.entries = []) : t.merges = [] := by
  cases standing with
  | unmade => rfl
  | made _ _ _ _ _ located =>
    cases located.outside_of_entries outside
    exact located.of_outside.2.1

/-- A worker that crashes while it merges has opened a window whose end the clock cannot express. -/
theorem overruns_cause {E : Setting ρ σ} {started : List (WorkerId × TaskParameters)}
    {ended : List (WorkerId × Option (TaskResponse ρ))} {taken : List (WorkerId × Submission ρ)}
    {merged : List (WorkerId × Acceptance ρ)} (lives : Lives E started ended taken merged s)
    {a : Action ρ σ} {v : WorkerId} {acceptance : Acceptance ρ}
    (overrun : (v, acceptance) ∈ s.overruns E a) :
    ∃ w, a = .work v ∧ s.workers.get? v = some w ∧ w.Overruns E.judge s.now := by
  unfold Service.overruns at overrun
  split at overrun
  next ends =>
    cases a with
    | work u =>
      obtain ⟨_, merges, same⟩ := List.mem_map.1 overrun
      cases same
      obtain ⟨w, found, merges⟩ := Option.bind_eq_some_iff.1 (Option.mem_toList.1 merges)
      obtain ⟨⟨c, x⟩, takes, -⟩ := Option.bind_eq_some_iff.1 merges
      obtain ⟨e, member, silent⟩ := ends
      rw [endings_work found] at member
      obtain ⟨ending, ceased, rfl⟩ := List.mem_map.1 member
      rw [Option.isNone_iff_eq_none] at silent
      subst silent
      have crashed := crashed_of_ending? (Option.mem_toList.1 ceased)
      obtain ⟨_, -, -, handles⟩ :=
        w.handles_stride s.registry (lives.working v _ _ (tenure_of_get? found)).2.2 takes
      refine ⟨w, rfl, found, ?_⟩
      cases handles with
      | answered _ _ _ _ _ going => exact absurd crashed going
      | crashed _ _ _ _ overruns => exact overruns (by rw [merges]; rfl)
    | _ => cases overrun
  next => cases overrun

end Accord

end Attestation
