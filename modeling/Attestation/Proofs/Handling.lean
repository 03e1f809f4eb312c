/-
Module: Attestation.Proofs.Handling
Purpose: A worker and the submission that it takes. The worker answers it or crashes on it; either way the
  call whose submission it is moves on beside its record, and every other call stays where it is.
Main exports: Worker.Handles, Worker.handles_stride, AfterTurn, afterTurn_work, Standing.take,
  Standing.handle, undisturbed_handle, Standing.work
-/
import Attestation.Proofs.Standing

namespace Attestation

namespace Worker

variable {ρ σ : Type} {E : Setting ρ σ} {w : Worker ρ} {now : Nat} {registry : σ} {turn : Turn ρ σ}

/-! ### What becomes of a submission that is taken -/

/-- What a turn does to the submission that it takes: it answers the call, which was merged exactly if it
is not rejected, or the worker crashes without an answer. -/
inductive Handles (J : Judge ρ) (w : Worker ρ) (now : Nat) (x : Submission ρ) : Turn ρ σ → Prop where
  | answered (before later : List Signal) {turn : Turn ρ σ} {task : TaskIndex}
    {rejection : Option SignatureError} :
    turn.signals = .taken x.call :: before ++ .verdict x.call task x.operator rejection :: later →
    (∀ signal ∈ before, signal.IsQuiet) → (∀ signal ∈ later, signal.IsQuiet) → turn.fate ≠ .crashed →
    (rejection = none ↔ (w.merges? J now).isSome = true) → Handles J w now x turn
  | crashed (before : List Signal) {turn : Turn ρ σ} :
    turn.signals = .taken x.call :: before → (∀ signal ∈ before, signal.IsQuiet) →
    turn.fate = .crashed → ((w.merges? J now).isSome = true → w.Overruns J now) → Handles J w now x turn

theorem proceed_eq (p : Progress ρ) : w.proceed E now registry p =
    (w.proceed E now registry ⟨[], p.course⟩).after p.signals := rfl

/-- Only a collection that has crashed crashes its worker. -/
theorem crashed_proceed_iff {p : Progress ρ} :
    (w.proceed E now registry p).fate = .crashed ↔ p.course = .crashed := by
  obtain ⟨signals, course⟩ := p
  cases course with
  | closed s =>
    refine ⟨fun crashed => ?_, nofun⟩
    change (w.request E now registry s).fate = .crashed at crashed
    unfold request await ask at crashed
    dsimp only at crashed
    split at crashed
    · cases crashed
    · split at crashed <;> cases crashed
  | crashed => exact ⟨fun _ => rfl, fun _ => rfl⟩
  | _ => exact ⟨nofun, nofun⟩

/-- A submission that is received is answered, or the worker crashes on it. -/
theorem handles_receipt {n : Snapshot} {taken : List (Submission ρ)} {merged : List (Acceptance ρ)}
    {c : Collection ρ} {x : Submission ρ} {p : Progress ρ}
    (arises : c.state.Arises E.judge w.parameters n taken merged) (takes : w.takes? now = some (c, x))
    (receipt : Collection.Receipt E.judge c now x p) (quiet : ∀ signal ∈ turn.signals, signal.IsQuiet)
    (crashes : turn.fate = .crashed ↔ p.course = .crashed) :
    Handles E.judge w now x (turn.after (.taken x.call :: p.signals)) := by
  have merges : w.merges? E.judge now = c.state.acceptance? E.judge x := by
    rw [merges?, takes, Option.bind_some]
  unfold TaskState.acceptance? at merges
  cases receipt with
  | crashed decided =>
    rw [decided] at merges
    refine .crashed turn.signals rfl quiet (crashes.2 rfl) fun merged => ?_
    rw [merges] at merged
    cases merged
  | @rejected before e decided all =>
    rw [decided] at merges
    have signals :
        (turn.after (.taken x.call :: (before ++ [.verdict x.call c.task x.operator (some e)]))).signals =
          .taken x.call :: before ++ .verdict x.call c.task x.operator (some e) :: turn.signals := by
      simp [Turn.after]
    refine .answered before turn.signals signals all quiet (fun crashed => ?_) ?_
    · cases crashes.1 crashed
    · rw [merges]
      constructor
      · intro accepted
        cases accepted
      · intro merged
        cases merged
  | @accepted before report next course decided all going =>
    rw [decided] at merges
    have signals :
        (turn.after (.taken x.call :: (before ++ [.verdict x.call c.task x.operator none]))).signals =
          .taken x.call :: before ++ .verdict x.call c.task x.operator none :: turn.signals := by
      simp [Turn.after]
    refine .answered before turn.signals signals all quiet (fun crashed => ?_) ?_
    · have ceased := crashes.1 crashed
      rcases going with ⟨c', rfl, -⟩ | rfl <;> cases ceased
    · rw [merges]
      constructor
      · intro _
        rfl
      · intro _
        rfl
  | @overrun before report next decided _ _ window late all =>
    rw [decided] at merges
    have further := arises.snoc x
    unfold TaskState.step at further
    rw [decided] at further
    have parameters : next.parameters = w.parameters := further.parameters
    rw [parameters] at window late
    refine .crashed (before ++ turn.signals) rfl (fun signal member => ?_) (crashes.2 rfl) fun merged => ?_
    · exact (List.mem_append.1 member).elim (all signal) (quiet signal)
    · exact ⟨merged, window, late⟩

/-- A submission that is taken is answered, or the worker crashes on it. -/
theorem handles_stride {taken : List (Submission ρ)} {merged : List (Acceptance ρ)} {c : Collection ρ}
    {x : Submission ρ} (registry : σ) (holds : w.phase.Holds E w.parameters taken merged)
    (takes : w.takes? now = some (c, x)) : ∃ unread, w.inbox = x :: unread ∧
      (w.stride E now registry).unread = unread ∧ Handles E.judge w now x (w.stride E now registry) := by
  rcases w.stride_cases E now registry with ⟨none, -⟩ | ⟨c', x', unread, phase, ready, takes', strode⟩
  · rw [takes] at none
    cases none
  · rw [takes] at takes'
    cases takes'
    rw [phase] at holds
    obtain ⟨n, -, arises⟩ := holds
    have idles : { w with inbox := unread }.Idles
        ({ w with inbox := unread }.proceed E now registry ⟨[], (c.take E.judge now x).course⟩) :=
      idles_proceed nofun
    rw [proceed_eq] at strode
    rw [strode]
    exact ⟨unread, ready, idles.unread, handles_receipt arises takes (c.receipt_receive now x) idles.quiet
      crashed_proceed_iff⟩

end Worker

section Working

open Service

variable {ρ σ : Type} {E : Setting ρ σ} {s : Service ρ σ} {id : CallId} {v : WorkerId} {w : Worker ρ}

/-! ### Calls after a turn

Of the signals of a turn the calls notice two: room is kept for one of them when a submission is taken, and
one of them is answered. -/

/-- Signals that change no call leave the calls as they are. -/
theorem calls_noteAll_quiet {signals : List Signal} (quiet : ∀ signal ∈ signals, signal.IsQuiet) :
    ∀ s : Service ρ σ, (s.noteAll v signals).1.calls = s.calls := by
  induction signals with
  | nil => exact fun _ => rfl
  | cons signal rest ih =>
    intro s
    have first := quiet signal List.mem_cons_self
    rw [noteAll_cons, ih fun other member => quiet other (List.mem_cons_of_mem signal member)]
    cases signal with
    | taken => exact first.elim
    | verdict => exact first.elim
    | _ => rfl

/-- The verdict on a call puts it into its last stage, if it has not returned. -/
theorem calls_note_verdict (s : Service ρ σ) (k : CallId) (task : TaskIndex) (operator : OperatorId)
    (rejection : Option SignatureError) :
    (s.note v (.verdict k task operator rejection)).1.calls.get? id =
      if id = k then (s.calls.get? k).map ({ · with stage := .answered rejection }) else s.calls.get? id := by
  unfold note
  dsimp only
  cases found : s.calls.get? k with
  | some call =>
    show (s.calls.insert k _).get? id = _
    rw [SortedMap.get?_insert]
    rfl
  | none =>
    show s.calls.get? id = _
    split
    next same => rw [same, found]; rfl
    next => rfl

/-- The calls after a turn that has answered one of them. -/
theorem calls_noted_answered {x : Submission ρ} {turn : Turn ρ σ} {before later : List Signal}
    {task : TaskIndex} {rejection : Option SignatureError}
    (signals : turn.signals = .taken x.call :: before ++ .verdict x.call task x.operator rejection :: later)
    (quiet : ∀ signal ∈ before, signal.IsQuiet) (quiet' : ∀ signal ∈ later, signal.IsQuiet) :
    (s.noted v turn).calls.get? id =
      if id = x.call then
        ((s.keepRoom v).1.calls.get? x.call).map ({ · with stage := .answered rejection })
      else (s.keepRoom v).1.calls.get? id := by
  unfold noted
  rw [signals, noteAll_append, noteAll_cons, noteAll_cons]
  show ((Service.noteAll _ v later).1.calls).get? id = _
  rw [calls_noteAll_quiet quiet', calls_note_verdict, calls_noteAll_quiet quiet]
  rfl

/-- The calls after a turn that has crashed. -/
theorem calls_noted_crashed {k : CallId} {turn : Turn ρ σ} {before : List Signal}
    (signals : turn.signals = .taken k :: before) (quiet : ∀ signal ∈ before, signal.IsQuiet) :
    (s.noted v turn).calls = (s.keepRoom v).1.calls := by
  unfold noted
  rw [signals, noteAll_cons]
  exact calls_noteAll_quiet quiet _

/-- A turn with quiet signals only leaves the calls as they are. -/
theorem calls_noted_quiet {turn : Turn ρ σ} (quiet : ∀ signal ∈ turn.signals, signal.IsQuiet) :
    (s.noted v turn).calls = s.calls := calls_noteAll_quiet quiet s

/-- A service after a turn of a worker, as far as calls and inboxes are concerned. -/
structure AfterTurn (s s' : Service ρ σ) (v : WorkerId) (w : Worker ρ) (turn : Turn ρ σ) : Prop where
  made : s'.made = s.made
  started : s'.started = s.started
  calls : s'.calls = (s.noted v turn).calls
  others : ∀ u, u ≠ v → s'.workers.get? u = s.workers.get? u
  own : (∃ phase, turn.fate = .waiting phase ∧ s'.workers.get? v = some (w.rested turn phase)) ∨
    turn.fate.ending?.isSome = true ∧ s'.workers.get? v = none

theorem afterTurn_work (found : s.workers.get? v = some w) :
    AfterTurn s (s.work E v) v w (w.stride E s.now s.registry) := by
  obtain ⟨calls, metrics, journal, noted⟩ := s.noted_frame v (w.stride E s.now s.registry)
  rcases (w.stride E s.now s.registry).fate.waiting_or_ending with ⟨phase, going⟩ | ⟨ending, ceased⟩
  · rw [work_waiting found going, noted]
    refine ⟨rfl, rfl, by rw [noted]; rfl, fun u other => ?_, .inl ⟨phase, going, ?_⟩⟩
    · exact (SortedMap.get?_insert _ _ _ _).trans (if_neg other)
    · exact (SortedMap.get?_insert _ _ _ _).trans (if_pos rfl)
  · obtain ⟨metrics', journal', same⟩ := work_ended found ceased
    rw [same, noted]
    refine ⟨rfl, rfl, by rw [noted], fun u other => ?_, .inr ⟨by rw [ceased]; rfl, ?_⟩⟩
    · exact (SortedMap.get?_erase _ _ _).trans (if_neg other)
    · exact (SortedMap.get?_erase _ _ _).trans (if_pos rfl)

namespace AfterTurn

variable {s' : Service ρ σ} {turn : Turn ρ σ}

/-- A turn leaves all other inboxes as they are. -/
theorem copies_other (after : AfterTurn s s' v w turn) {u : WorkerId} (other : u ≠ v) (id : CallId) :
    s'.copies id u = s.copies id u := by
  rw [copies, inbox, after.others u other]
  rfl

/-- The submissions that a turn has not taken are still in the inbox, unless the worker has ended. -/
theorem copies_own (after : AfterTurn s s' v w turn) (id : CallId) :
    s'.copies id v = turn.unread.filter (·.call = id) ∨ s'.workers.get? v = none := by
  rcases after.own with ⟨phase, -, found⟩ | ⟨-, gone⟩
  · left
    rw [copies, inbox, found]
    rfl
  · exact .inr gone

/-- A turn that does not take the submission of a call leaves the call where it is. -/
theorem undisturbed (after : AfterTurn s s' v w turn) (found : s.workers.get? v = some w)
    (moves : Moves (s.calls.get? id) (s'.calls.get? id))
    (spared : turn.unread.filter (·.call = id) = w.inbox.filter (·.call = id)) : Undisturbed s s' id where
  made := Nat.le_of_eq after.made.symm
  unmade fresh := after.made ▸ fresh
  started := Nat.le_of_eq after.started.symm
  gone u _ none := by
    have other : u ≠ v := by
      rintro rfl
      rw [found] at none
      cases none
    rw [after.others u other, none]
  call := moves
  copies u := by
    by_cases own : u = v
    · subst own
      refine (after.copies_own id).imp_left fun same => ?_
      rw [same, spared, copies, inbox, found]
      rfl
    · exact .inl (after.copies_other own id)

/-- After a turn that has taken the one copy of a submission there is none. -/
theorem copies_nil (after : AfterTurn s s' v w turn) (taken : turn.unread.filter (·.call = id) = [])
    (others : ∀ u, u ≠ v → s.copies id u = []) (u : WorkerId) : s'.copies id u = [] := by
  by_cases own : u = v
  · subst own
    rcases after.copies_own id with same | gone
    · rw [same, taken]
    · exact copies_gone gone id
  · rw [after.copies_other own, others u own]

end AfterTurn

/-! ### The record of a call after a turn -/

/-- A call whose submission is in an inbox. -/
theorem Standing.queued {t : Trail ρ} (standing : Standing s id t) (present : s.copies id v ≠ []) :
    ∃ made, id < s.made ∧ made.submission.call = id ∧ v < s.started ∧
      ¬ (made.cancelled = true ∧ made.cleared = false) ∧ t.made = [made] ∧ made.worker = v ∧
      s.copies id v = [made.submission] ∧ (∀ u, u ≠ v → s.copies id u = []) ∧ t.entries = [v] ∧
      t.merges = [] ∧ t.overruns = [] ∧ Settled s id made .queued t.answers := by
  cases standing with
  | unmade _ _ none => exact absurd (none v) present
  | @made made place t old own worker early known located settled =>
    cases located.queued_of_copies present
    obtain ⟨entries, merges, overruns, one⟩ := located.of_queued
    have here : v = made.worker := by
      by_contra other
      exact present ((one v).trans (if_neg other))
    subst here
    refine ⟨made, old, own, worker, fun ⟨cancelled, uncleared⟩ => ?_, known, rfl, ?_, fun u other => ?_,
      entries, merges, overruns, settled⟩
    · cases early cancelled uncleared
    · rw [one, if_pos rfl]
    · rw [one, if_neg other]

/-- What a worker merges is the submission that it takes. -/
theorem merges_of_takes {J : Judge ρ} {now : Nat} {c : Collection ρ} {x : Submission ρ} {a : Acceptance ρ}
    (takes : w.takes? now = some (c, x)) (merges : w.merges? J now = some a) : a.toSubmission = x := by
  rw [Worker.merges?, takes, Option.bind_some] at merges
  dsimp only [TaskState.acceptance?] at merges
  split at merges
  · cases merges
    rfl
  · cases merges

theorem mergesOf_work (found : s.workers.get? v = some w) (id : CallId) :
    mergesOf id (s.merges E (.work v)) =
      ((w.merges? E.judge s.now).toList.filter (·.call = id)).map (v, ·) := by
  unfold mergesOf
  rw [merges_work found, List.filter_map]
  rfl

theorem overruns_going (found : s.workers.get? v = some w)
    (going : (w.stride E s.now s.registry).fate ≠ .crashed) : s.overruns E (.work v) = [] := by
  unfold overruns
  rw [endings_work found, if_neg]
  rintro ⟨e, member, silent⟩
  obtain ⟨ending, ceased, rfl⟩ := List.mem_map.1 member
  rw [Option.isNone_iff_eq_none] at silent
  subst silent
  exact going (crashed_of_ending? (Option.mem_toList.1 ceased))

theorem overruns_crashed (found : s.workers.get? v = some w)
    (crashed : (w.stride E s.now s.registry).fate = .crashed) :
    s.overruns E (.work v) = s.merges E (.work v) := by
  unfold overruns
  rw [endings_work found, crashed, if_pos]
  exact ⟨(v, none), List.mem_singleton_self _, rfl⟩

/-- A call whose submission is in an inbox is either sent and waits for its answer, or has returned. -/
theorem Settled.of_queued {made : Call ρ} {answers : List (Except AggregationError Unit)}
    (settled : Settled s id made .queued answers) :
    (∃ call, s.calls.get? id = some call ∧ call.Follows made ∧ call.stage = .sent ∧ answers = []) ∨
    (s.calls.get? id = none ∧ ∃ answer, answers = [answer] ∧ ∀ place, Verdict made place answer) := by
  cases settled with
  | pending found follows fits => exact .inl ⟨_, found, follows, stage_of_queued fits, rfl⟩
  | returned absent verdict =>
    exact .inr ⟨absent, _, rfl, fun place => verdict_of_queued place verdict⟩

/-- A call whose submission is in an inbox is not admitted again. -/
theorem sent_keepRoom {made call : Call ρ} (found : s.calls.get? id = some call) (follows : call.Follows made)
    (sent : call.stage = .sent) : ∃ call', (s.keepRoom v).1.calls.get? id = some call' ∧
      call'.Follows made ∧ call'.stage = .sent := by
  have moves := moves_keepRoom s v id
  rw [found] at moves
  obtain ⟨call', found', advances⟩ := moves.exists_some
  refine ⟨call', found', advances.follows.trans follows, ?_⟩
  rcases advances.stage with same | ⟨outside, -⟩
  · exact same.trans sent
  · rw [sent] at outside
    exact outside.elim

theorem absent_keepRoom (absent : s.calls.get? id = none) : (s.keepRoom v).1.calls.get? id = none := by
  have moves := moves_keepRoom s v id
  rw [absent] at moves
  exact moves.eq_none

section Taking

variable {t : Trail ρ} {s' : Service ρ σ} {turn : Turn ρ σ} {x : Submission ρ} {made : Call ρ}
  {answers : List (Except AggregationError Unit)} {before later : List Signal}

/-! ### Submissions that are taken

A call whose submission is taken was in the place `queued` and comes to be `merged`, `dropped` or `overrun`.
All other calls are undisturbed. -/

/-- The submission that a worker takes is that of the call, and it comes to another place. -/
theorem Standing.take (standing : Standing s x.call t) (found : s.workers.get? v = some w)
    (after : AfterTurn s s' v w turn) (ready : w.inbox = x :: turn.unread) {place : Place}
    {merges overruns : List (WorkerId × Acceptance ρ)}
    (located : ∀ made : Call ρ, made.submission = x → made.worker = v →
      (∀ u, s'.copies x.call u = []) → Located s' x.call made place [v] merges overruns)
    (settled : ∀ made answers, made.worker = v → Settled s x.call made .queued answers →
      Settled s' x.call made place answers) :
    Standing s' x.call (t.append ⟨[], [], merges, overruns, []⟩) := by
  have copies : s.copies x.call v = x :: turn.unread.filter (·.call = x.call) := by
    rw [Service.copies, Service.inbox, found]
    show w.inbox.filter _ = _
    rw [ready, List.filter_cons_of_pos (by simp)]
  obtain ⟨made, old, own, worker, going, known, here, one, others, entries, unmerged, fine, waiting⟩ :=
    standing.queued (by rw [copies]; exact List.cons_ne_nil _ _)
  obtain ⟨submission, taken⟩ := List.cons_eq_cons.1 (copies.symm.trans one)
  have located' := located made submission.symm here (after.copies_nil taken others)
  have settled' := settled made _ here waiting
  refine .made (after.made.symm ▸ old) own ?_
    (fun cancelled uncleared => absurd ⟨cancelled, uncleared⟩ going) ?_
    (by simpa [Trail.append, entries, unmerged, fine] using located')
    (by simpa [Trail.append] using settled')
  · rw [here, after.started]
    exact worker
  · simp [Trail.append, known]

/-- A call that is answered is in its last stage, unless it has returned. -/
theorem Settled.answer {task : TaskIndex} {rejection : Option SignatureError} {place : Place}
    (settled : Settled s x.call made .queued answers) (after : AfterTurn s s' v w turn)
    (signals : turn.signals = .taken x.call :: before ++ .verdict x.call task x.operator rejection :: later)
    (quiet : ∀ signal ∈ before, signal.IsQuiet) (quiet' : ∀ signal ∈ later, signal.IsQuiet)
    (fits : (Stage.answered rejection).Fits s' made place) : Settled s' x.call made place answers := by
  have calls : s'.calls.get? x.call =
      ((s.keepRoom v).1.calls.get? x.call).map ({ · with stage := .answered rejection }) := by
    rw [after.calls, calls_noted_answered signals quiet quiet', if_pos rfl]
  rcases settled.of_queued with ⟨call, pending, follows, sent, rfl⟩ | ⟨gone, answer, rfl, verdict⟩
  · obtain ⟨call', kept, follows', -⟩ := sent_keepRoom (v := v) pending follows sent
    rw [kept] at calls
    exact .pending calls ((call'.follows_stage _).trans follows') fits
  · rw [absent_keepRoom gone] at calls
    exact .returned calls (verdict place)

/-- A call on whose submission the worker has crashed waits for an answer that does not come, unless it
has returned. -/
theorem Settled.strand {place : Place} (settled : Settled s x.call made .queued answers)
    (after : AfterTurn s s' v w turn) (signals : turn.signals = .taken x.call :: before)
    (quiet : ∀ signal ∈ before, signal.IsQuiet) (gone : s'.workers.get? made.worker = none)
    (lost : place = .overrun ∨ place = .dropped) : Settled s' x.call made place answers := by
  have calls : s'.calls.get? x.call = (s.keepRoom v).1.calls.get? x.call := by
    rw [after.calls, calls_noted_crashed signals quiet]
  rcases settled.of_queued with ⟨call, pending, follows, sent, rfl⟩ | ⟨returned, answer, rfl, verdict⟩
  · obtain ⟨call', kept, follows', sent'⟩ := sent_keepRoom (v := v) pending follows sent
    rw [kept] at calls
    refine .pending calls follows' ?_
    rw [sent']
    exact .inr ⟨lost, gone⟩
  · rw [absent_keepRoom returned] at calls
    exact .returned calls (verdict place)

/-- The call whose submission a worker takes stands as the worker has handled it. -/
theorem Standing.handle (standing : Standing s x.call t) (found : s.workers.get? v = some w)
    (after : AfterTurn s (s.work E v) v w (w.stride E s.now s.registry)) {c : Collection ρ}
    (takes : w.takes? s.now = some (c, x)) (ready : w.inbox = x :: (w.stride E s.now s.registry).unread)
    (handles : w.Handles E.judge s.now x (w.stride E s.now s.registry)) :
    Standing (s.work E v) x.call (t.append (s.traces E (.work v) x.call)) := by
  show Standing _ _ (t.append ⟨[], [], mergesOf x.call (s.merges E (.work v)),
    mergesOf x.call (s.overruns E (.work v)), []⟩)
  have own : ∀ a, w.merges? E.judge s.now = some a →
      mergesOf x.call (s.merges E (.work v)) = [(v, a)] := by
    intro a merges
    rw [mergesOf_work found, merges, Option.toList_some, List.filter_cons_of_pos]
    · rfl
    · rw [merges_of_takes takes merges]
      exact decide_eq_true rfl
  have none : w.merges? E.judge s.now = Option.none → mergesOf x.call (s.merges E (.work v)) = [] := by
    intro merges
    rw [mergesOf_work found, merges]
    rfl
  cases handles with
  | @answered before later _ task rejection signals quiet quiet' going verdict =>
    rw [overruns_going found going, mergesOf_nil]
    cases merges : w.merges? E.judge s.now with
    | some a =>
      have accepted : rejection = Option.none := verdict.2 (by rw [merges]; rfl)
      subst accepted
      rw [own a merges]
      refine standing.take found after ready ?_ fun made answers _ settled =>
        settled.answer after signals quiet quiet' rfl
      rintro made submission rfl gone
      exact .merged gone ((merges_of_takes takes merges).trans submission.symm)
    | none =>
      rw [none merges]
      cases rejection with
      | none => rw [merges] at verdict; cases verdict.1 rfl
      | some e =>
        refine standing.take found after ready ?_ fun made answers _ settled =>
          settled.answer after signals quiet quiet' rfl
        rintro made submission rfl gone
        exact .dropped gone
  | @crashed before _ signals quiet crashed _ =>
    rw [overruns_crashed found crashed]
    have gone : (s.work E v).workers.get? v = Option.none := by
      rcases after.own with ⟨phase, going, -⟩ | ⟨-, gone⟩
      · rw [crashed] at going
        cases going
      · exact gone
    cases merges : w.merges? E.judge s.now with
    | some a =>
      rw [own a merges]
      refine standing.take found after ready ?_ fun made answers here settled =>
        settled.strand after signals quiet (here ▸ gone) (.inl rfl)
      rintro made submission rfl gone
      exact .overrun gone ((merges_of_takes takes merges).trans submission.symm)
    | none =>
      rw [none merges]
      refine standing.take found after ready ?_ fun made answers here settled =>
        settled.strand after signals quiet (here ▸ gone) (.inr rfl)
      rintro made submission rfl gone
      exact .dropped gone

end Taking

/-- A turn that takes the submission of another call leaves a call where it is. -/
theorem undisturbed_handle {s' : Service ρ σ} {turn : Turn ρ σ} {x : Submission ρ} {now : Nat} {J : Judge ρ}
    (found : s.workers.get? v = some w) (after : AfterTurn s s' v w turn)
    (ready : w.inbox = x :: turn.unread) (handles : w.Handles J now x turn) (other : x.call ≠ id) :
    Undisturbed s s' id := by
  refine after.undisturbed found ?_ (by rw [ready, List.filter_cons_of_neg (by simpa using other)])
  rw [after.calls]
  cases handles with
  | answered before later signals quiet quiet' =>
    rw [calls_noted_answered signals quiet quiet', if_neg (Ne.symm other)]
    exact moves_keepRoom s v id
  | crashed before signals quiet =>
    rw [calls_noted_crashed signals quiet]
    exact moves_keepRoom s v id

/-- A stride moves every call on beside its record. -/
theorem Standing.work {t : Trail ρ} {taken : List (Submission ρ)} {merged : List (Acceptance ρ)}
    (standing : Standing s id t) (found : s.workers.get? v = some w)
    (holds : w.phase.Holds E w.parameters taken merged) :
    Standing (s.work E v) id (t.append (s.traces E (.work v) id)) := by
  have after := afterTurn_work (E := E) found
  rcases w.stride_cases E s.now s.registry with ⟨idle, idles⟩ | ⟨c, x, _, -, -, takes, -⟩
  · refine standing.pass (a := .work v) (after.undisturbed found ?_ (by rw [idles.unread])) rfl rfl ?_ rfl
    · rw [after.calls, calls_noted_quiet idles.quiet]
      exact moves_refl _
    · rw [mergesOf_work found, Worker.merges?, idle]
      rfl
  · obtain ⟨unread, ready, rfl, handles⟩ := w.handles_stride s.registry holds takes
    by_cases own : x.call = id
    · subst own
      exact standing.handle found after takes ready handles
    · refine standing.pass (a := .work v) (undisturbed_handle found after ready handles own) rfl rfl ?_ rfl
      rw [mergesOf_work found]
      cases merges : w.merges? E.judge s.now with
      | none => rfl
      | some a =>
        rw [Option.toList_some, List.filter_cons_of_neg, List.filter_nil, List.map_nil]
        rw [merges_of_takes takes merges]
        simpa using own

end Working

end Attestation
