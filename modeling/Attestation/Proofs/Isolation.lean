/-
Module: Attestation.Proofs.Isolation
Purpose: A run and what remains of it when one task is left alone. Calls that concern other tasks are
  dropped, the task's own calls get new numbers, and everything else is kept. Whatever the next action is,
  the two runs stand alike after it, and of the task the same is seen.
Main exports: Service.callsFor, Service.isolate, Service.watch, Service.arrivals, Service.verdicts,
  Service.Reflects, Service.Tracks, Service.startTask_cases, Service.tracks_startTask,
  Service.tracks_submit, Service.tracks_poll, Service.tracks_cancel, Service.tracks_work,
  Service.tracks_outward
-/
import Attestation.Proofs.Mirrors

namespace Attestation

namespace Service

variable {ρ σ : Type}

/-! ### The part of a run that concerns one task -/

/-- The calls for a worker among those that were made. -/
def callsFor (v : WorkerId) (made : List (CallId × Call ρ)) : List CallId :=
  (made.filter (·.2.worker = v)).map (·.1)

/-- The calls to a worker come in the order in which they were made. -/
theorem callsFor_append (v : WorkerId) (made made' : List (CallId × Call ρ)) :
    callsFor v (made ++ made') = callsFor v made ++ callsFor v made' := by
  unfold callsFor
  rw [List.filter_append, List.map_append]

/-- What remains of an action when a task is left alone with its worker. Calls that concern other indices
are dropped, and so are those that start, or meet, another worker under the index of the task; the task's
own calls get the numbers that they have among themselves. -/
def isolate (v : WorkerId) (i : TaskIndex) (own : List CallId) (s : Service ρ σ) :
    Action ρ σ → List (Action ρ σ)
  | .startTask runtime t =>
    match s.startTask runtime t with
    | .ok _ => if s.started = v then [.startTask runtime t] else []
    | .error (.error (.alreadyInitialized _)) =>
      if s.routes.get? t.index = some v then [.startTask runtime t] else []
    | .error _ => if t.index = i then [.startTask runtime t] else []
  | .submit task operator response signature cancelled =>
    if task = i ∧ (s.routes.get? task).all (· = v) then [.submit task operator response signature cancelled]
    else []
  | .poll id => if id ∈ own then [.poll (own.idxOf id)] else []
  | .cancel id => if id ∈ own then [.cancel (own.idxOf id)] else []
  | .work u => if u = v then [.work 0] else []
  | a => [a]

/-- What an observer lists under a key, each time with the instant. -/
def watch {κ α : Type} [DecidableEq κ] (k : κ) (observe : Service ρ σ → Action ρ σ → List (κ × α))
    (s : Service ρ σ) (a : Action ρ σ) : List (Nat × α) :=
  (valuesAt k (observe s a)).map (s.now, ·)

/-- The submission that an action puts into an inbox, with the worker whose inbox it is. -/
def arrivals (s : Service ρ σ) : Action ρ σ → List (WorkerId × Submission ρ)
  | .poll id => (((s.poll id).woken.bind fun _ => s.calls.get? id).map fun call =>
      (call.worker, call.submission)).toList
  | _ => []

/-- The verdicts that an action gives, with the worker that gives them. -/
def verdicts (E : Setting ρ σ) (s : Service ρ σ) :
    Action ρ σ → List (WorkerId × (CallId × Option SignatureError))
  | .work id => (((s.workers.get? id).map fun w =>
      (w.stride E s.now s.registry).verdicts).getD []).map (id, ·)
  | _ => []

/-- In the second run the worker is alone and has the number 0; of it the same is seen as in the first run,
at the same instants. -/
structure Reflects (E : Setting ρ σ) (v : WorkerId) (own : List CallId) (s r : Service ρ σ)
    (as as' : List (Action ρ σ)) : Prop where
  /-- Its task is started, and no other one. -/
  starts : r.along E starts as' = (valuesAt v (s.along E starts as)).map (0, ·)
  /-- Its submissions enter its inbox, and are taken from it, in the same order. -/
  arrivals : r.along E (watch 0 arrivals) as' =
    (s.along E (watch v arrivals) as).map (Prod.map id (·.renumber own.idxOf))
  takes : r.along E (watch 0 takes) as' =
    (s.along E (watch v takes) as).map (Prod.map id (·.renumber own.idxOf))
  verdicts : r.along E (watch 0 (verdicts E)) as' =
    (s.along E (watch v (verdicts E)) as).map (Prod.map id (Prod.map own.idxOf id))
  /-- It ends alike: with the same response, or with a crash. -/
  endings : r.along E (watch 0 (endings E)) as' = s.along E (watch v (endings E)) as
  /-- Its calls return the same. -/
  answers : ∀ id ∈ own, r.along E (watch (own.idxOf id) answers) as' = s.along E (watch id answers) as

namespace Reflects

variable {E : Setting ρ σ} {v : WorkerId} {own : List CallId} {s r : Service ρ σ}
  {as as' bs bs' : List (Action ρ σ)}

/-- One run reflects another part by part. -/
theorem append (first : Reflects E v own s r as as')
    (second : Reflects E v own (s.after E as) (r.after E as') bs bs') :
    Reflects E v own s r (as ++ bs) (as' ++ bs') where
  starts := by
    rw [along_append, along_append, first.starts, second.starts, valuesAt_append, List.map_append]
  arrivals := by
    rw [along_append, along_append, first.arrivals, second.arrivals, List.map_append]
  takes := by
    rw [along_append, along_append, first.takes, second.takes, List.map_append]
  verdicts := by
    rw [along_append, along_append, first.verdicts, second.verdicts, List.map_append]
  endings := by
    rw [along_append, along_append, first.endings, second.endings]
  answers id mine := by
    rw [along_append, along_append, first.answers id mine, second.answers id mine]

end Reflects

section Step

variable {E : Setting ρ σ} {v : WorkerId} {i : TaskIndex} {own past future : List CallId} {s r : Service ρ σ}
  {started : List (WorkerId × TaskParameters)} {ended : List (WorkerId × Option (TaskResponse ρ))}
  {taken : List (WorkerId × Submission ρ)} {merged : List (WorkerId × Acceptance ρ)}

/-! ### Starting tasks -/

/-- A call that starts a task is refused whatever tasks are active, or the table of routes decides. -/
theorem startTask_cases (c : Config) (runtime : Bool) (t : TaskParameters) :
    (∃ e, (∀ task limit, e ≠ .error (.tooManyActiveTasks task limit)) ∧
      ∀ s : Service ρ σ, s.config = c → s.startTask runtime t = .error e) ∨
    ∀ s : Service ρ σ, s.config = c → s.startTask runtime t =
      if s.routes.contains t.index then .error (.error (.alreadyInitialized t.index))
      else if c.maxActiveTasks.toNat ≤ s.routes.size then
        .error (.error (.tooManyActiveTasks t.index c.maxActiveTasks))
      else .ok (s.launch t) := by
  unfold startTask
  cases t.validate with
  | error reason => exact .inl ⟨.error (.invalidTaskParameters t.index reason), nofun, fun _ _ => rfl⟩
  | ok _ =>
    cases runtime with
    | false => exact .inl ⟨.error (.runtimeUnavailable t.index), nofun, fun _ _ => rfl⟩
    | true =>
      by_cases large : largestInbox < c.inboxCapacity.toNat
      · refine .inl ⟨.crash, nofun, fun s config => ?_⟩
        dsimp only
        rw [config, if_neg (by simp), if_pos large]
      · refine .inr fun s config => ?_
        dsimp only
        rw [config, if_neg (by simp), if_neg large]

/-! ### One action

An action is followed in three ways: the service alone does the same, it does nothing and nothing is noticed
of the action, or the task comes to an end. -/

/-- The books of a reachable state, as far as a worker and its calls are concerned. -/
structure Grounds (v : WorkerId) (i : TaskIndex) (own : List CallId) (s : Service ρ σ) : Prop where
  addressed : Addressed v own s
  foreign : ∀ u w x, s.workers.get? u = some w → x ∈ w.inbox → x.call ∈ own → u = v
  route : ∀ j, s.routes.get? j = some v → j = i

/-- Of the worker and its calls the same is seen in two actions. -/
structure Matches (E : Setting ρ σ) (v : WorkerId) (own : List CallId) (s r : Service ρ σ)
    (a a' : Action ρ σ) : Prop where
  starts : r.starts a' = (valuesAt v (s.starts a)).map (0, ·)
  arrivals : valuesAt 0 (r.arrivals a') = (valuesAt v (s.arrivals a)).map (·.renumber own.idxOf)
  takes : valuesAt 0 (r.takes a') = (valuesAt v (s.takes a)).map (·.renumber own.idxOf)
  verdicts : valuesAt 0 (r.verdicts E a') = (valuesAt v (s.verdicts E a)).map (Prod.map own.idxOf id)
  endings : valuesAt 0 (r.endings E a') = valuesAt v (s.endings E a)
  answers : ∀ id ∈ own, valuesAt (own.idxOf id) (r.answers a') = valuesAt id (s.answers a)

/-- Of the worker and its calls nothing is seen in an action. -/
structure Unnoticed (E : Setting ρ σ) (v : WorkerId) (own : List CallId) (s : Service ρ σ)
    (a : Action ρ σ) : Prop where
  starts : valuesAt v (s.starts a) = []
  arrivals : valuesAt v (s.arrivals a) = []
  takes : valuesAt v (s.takes a) = []
  verdicts : valuesAt v (s.verdicts E a) = []
  endings : valuesAt v (s.endings E a) = []
  answers : ∀ id ∈ own, valuesAt id (s.answers a) = []

/-- The two runs agree after an action, and in what is seen of it. -/
structure Tracks (E : Setting ρ σ) (v : WorkerId) (i : TaskIndex) (own past : List CallId)
    (s r : Service ρ σ) (a : Action ρ σ) : Prop where
  mirrors : Mirrors v own (past ++ callsFor v (s.makes a)) (s.act E a) (r.after E (s.isolate v i own a))
  reflects : Reflects E v own s r [a] (s.isolate v i own a)

/-- An action that is dropped concerns others. -/
theorem tracks_dropped (mirrors : Mirrors v own past s r) {a : Action ρ σ}
    (dropped : s.isolate v i own a = []) (unmade : callsFor v (s.makes a) = [])
    (spares : Spares v own s (s.act E a)) (unnoticed : Unnoticed E v own s a) :
    Tracks E v i own past s r a := by
  refine ⟨?_, ?_⟩
  · rw [dropped, unmade, List.append_nil]
    exact mirrors.spare spares
  · rw [dropped]
    refine ⟨?_, ?_, ?_, ?_, ?_, fun id mine => ?_⟩ <;> rw [along_nil, along_single]
    · rw [unnoticed.starts]
      rfl
    · rw [watch, unnoticed.arrivals]
      rfl
    · rw [watch, unnoticed.takes]
      rfl
    · rw [watch, unnoticed.verdicts]
      rfl
    · rw [watch, unnoticed.endings]
      rfl
    · rw [watch, unnoticed.answers id mine]
      rfl

/-- An action that is kept does the same in both runs. -/
theorem tracks_of_matches {a a' : Action ρ σ} (now : r.now = s.now) (kept : s.isolate v i own a = [a'])
    (mirrors : Mirrors v own (past ++ callsFor v (s.makes a)) (s.act E a) (r.act E a'))
    (matched : Matches E v own s r a a') : Tracks E v i own past s r a := by
  refine ⟨by rw [kept]; exact mirrors, ?_⟩
  rw [kept]
  refine ⟨?_, ?_, ?_, ?_, ?_, fun id mine => ?_⟩ <;> rw [along_single, along_single]
  · exact matched.starts
  · rw [watch, watch, matched.arrivals, now, List.map_map, List.map_map]
    rfl
  · rw [watch, watch, matched.takes, now, List.map_map, List.map_map]
    rfl
  · rw [watch, watch, matched.verdicts, now, List.map_map, List.map_map]
    rfl
  · rw [watch, watch, matched.endings, now]
  · rw [watch, watch, matched.answers id mine, now]

/-- An action that makes no call leaves those that were made so far. -/
theorem tracks_kept {a a' : Action ρ σ} (now : r.now = s.now) (kept : s.isolate v i own a = [a'])
    (unmade : callsFor v (s.makes a) = []) (mirrors : Mirrors v own past (s.act E a) (r.act E a'))
    (matched : Matches E v own s r a a') : Tracks E v i own past s r a := by
  refine tracks_of_matches now kept ?_ matched
  rw [unmade, List.append_nil]
  exact mirrors

/-- Where nothing happens, nothing happens in the second run either. -/
theorem tracks_still (mirrors : Mirrors v own past s r) {a : Action ρ σ} (still : s.act E a = s)
    (unmade : callsFor v (s.makes a) = []) (unnoticed : Unnoticed E v own s a)
    (isolated : s.isolate v i own a = [] ∨
      ∃ a', s.isolate v i own a = [a'] ∧ r.act E a' = r ∧ Matches E v own s r a a') :
    Tracks E v i own past s r a := by
  rcases isolated with dropped | ⟨a', kept, still', matched⟩
  · exact tracks_dropped mirrors dropped unmade (by rw [still]; exact .refl v own s) unnoticed
  · exact tracks_kept mirrors.now kept unmade (by rw [still, still']; exact mirrors) matched

section Starting

/-- To start a task is left out or kept as it is. -/
theorem isolate_startTask (runtime : Bool) (t : TaskParameters) :
    s.isolate v i own (.startTask runtime t) = [] ∨
      s.isolate v i own (.startTask runtime t) = [.startTask runtime t] := by
  unfold isolate
  dsimp only
  split <;> split <;> simp

/-- A task that is refused changes nothing. -/
theorem act_refused {runtime : Bool} {t : TaskParameters} {e : Failure AggregationError}
    (refused : s.startTask runtime t = .error e) :
    s.act E (.startTask runtime t) = s ∧ s.starts (.startTask runtime t) = [] := by
  unfold act starts
  dsimp only
  rw [refused]
  exact ⟨rfl, rfl⟩

/-- A refused call is dropped, or refused in the second run as well. -/
theorem tracks_refused (mirrors : Mirrors v own past s r) {runtime : Bool} {t : TaskParameters}
    {e : Failure AggregationError} (refused : s.startTask runtime t = .error e)
    (also : s.isolate v i own (.startTask runtime t) = [] ∨ ∃ e', r.startTask runtime t = .error e') :
    Tracks E v i own past s r (.startTask runtime t) := by
  obtain ⟨still, unstarted⟩ := act_refused (E := E) refused
  refine tracks_still mirrors still rfl ⟨by rw [unstarted]; rfl, rfl, rfl, rfl, rfl, fun _ _ => rfl⟩ ?_
  rcases also with dropped | ⟨e', refused'⟩
  · exact .inl dropped
  · obtain ⟨still', unstarted'⟩ := act_refused (E := E) refused'
    refine (isolate_startTask runtime t).imp_right fun kept => ⟨_, kept, still', ?_⟩
    exact ⟨by rw [unstarted, unstarted']; rfl, rfl, rfl, rfl, rfl, fun _ _ => rfl⟩

/-- A task that is started is that of the worker, or another. -/
theorem tracks_launch (mirrors : Mirrors v own past s r) {runtime : Bool} {t : TaskParameters}
    (done : s.startTask runtime t = .ok (s.launch t)) (free : s.routes.get? t.index = none)
    (also : s.started = v → r.startTask runtime t = .ok (r.launch t)) :
    Tracks E v i own past s r (.startTask runtime t) := by
  have launched : ∀ {s : Service ρ σ}, s.startTask runtime t = .ok (s.launch t) →
      s.act E (.startTask runtime t) = s.launch t ∧ s.starts (.startTask runtime t) = [(s.started, t)] := by
    intro s done
    unfold act starts
    dsimp only
    rw [done]
    exact ⟨rfl, rfl⟩
  have isolated : s.isolate v i own (.startTask runtime t) =
      if s.started = v then [.startTask runtime t] else [] := by
    unfold isolate
    dsimp only
    rw [done]
  have here := launched done
  by_cases same : s.started = v
  · subst same
    have there := launched (also rfl)
    have first : r.started = 0 := by rw [mirrors.started, if_neg (Nat.lt_irrefl _)]
    refine tracks_kept mirrors.now (isolated.trans (if_pos rfl)) rfl ?_
      ⟨?_, rfl, rfl, rfl, rfl, fun _ _ => rfl⟩
    · rw [here.1, there.1]
      exact mirrors.launch
    · rw [here.2, there.2, first]
      show _ = (valuesAt s.started ([t].map (s.started, ·))).map _
      rw [valuesAt_map_self]
      rfl
  · refine tracks_dropped mirrors (isolated.trans (if_neg same)) rfl ?_
      ⟨?_, rfl, rfl, rfl, rfl, fun _ _ => rfl⟩
    · rw [here.1]
      exact .launch same free
    · rw [here.2]
      exact valuesAt_map_other same [t]

/-- A task that is started is the one at hand, or nothing to it. -/
theorem tracks_startTask (mirrors : Mirrors v own past s r)
    (unstarted : s.started = v → ∀ j, s.routes.get? j ≠ some v) (runtime : Bool) (t : TaskParameters)
    (unlimited : ∀ task limit, s.startTask runtime t ≠ .error (.error (.tooManyActiveTasks task limit))) :
    Tracks E v i own past s r (.startTask runtime t) := by
  rcases startTask_cases s.config runtime t with ⟨e, -, refused⟩ | decided
  · exact tracks_refused mirrors (refused s rfl) (.inr ⟨e, refused r mirrors.config⟩)
  · have here := decided s rfl
    have there := decided r mirrors.config
    by_cases active : s.routes.contains t.index = true
    · rw [if_pos active] at here
      refine tracks_refused mirrors here ?_
      by_cases route : s.routes.get? t.index = some v
      · right
        have active' : r.routes.contains t.index = true :=
          SortedMap.contains_iff_exists.2 ⟨0, mirrors.route route⟩
        rw [if_pos active'] at there
        exact ⟨_, there⟩
      · left
        unfold isolate
        dsimp only
        rw [here]
        exact if_neg route
    · rw [if_neg active] at here
      have room : ¬ s.config.maxActiveTasks.toNat ≤ s.routes.size := by
        intro full
        rw [if_pos full] at here
        exact unlimited _ _ here
      rw [if_neg room] at here
      refine tracks_launch mirrors here (startTask_eq_ok here).1 fun same => ?_
      have inactive : ¬ r.routes.contains t.index = true := by
        rw [SortedMap.contains_eq_false (mirrors.unrouted (unstarted same t.index))]
        exact Bool.false_ne_true
      have room' : ¬ s.config.maxActiveTasks.toNat ≤ r.routes.size := fun full =>
        room (Nat.le_trans full mirrors.fewer)
      rw [there, if_neg inactive, if_neg room']

end Starting

section Calling

theorem valuesAt_singleton {κ α : Type} [DecidableEq κ] {k : κ} (x : α) : valuesAt k [(k, x)] = [x] :=
  valuesAt_map_self [x]

theorem valuesAt_other {κ α : Type} [DecidableEq κ] {k other : κ} (different : other ≠ k) (x : α) :
    valuesAt k [(other, x)] = [] := valuesAt_map_other different [x]

/-! ### Calls -/

/-- A submission finds the route of the worker, that of another, or none. -/
theorem tracks_submit (mirrors : Mirrors v own past s r) (grounds : Grounds v i own s)
    (once : own.Nodup) (task : TaskIndex) (operator : OperatorId) (response : ρ) (signature : Signature)
    (cancelled : Bool)
    (listed : ∀ e ∈ s.makes (.submit task operator response signature cancelled), (e.1 ∈ own ↔ e.2.worker = v))
    (next : own = past ++ callsFor v (s.makes (.submit task operator response signature cancelled)) ++ future) :
    Tracks E v i own past s r (.submit task operator response signature cancelled) := by
  have isolated : s.isolate v i own (.submit task operator response signature cancelled) =
    if task = i ∧ (s.routes.get? task).all (· = v) then [.submit task operator response signature cancelled]
    else [] := rfl
  have makes : s.makes (.submit task operator response signature cancelled) =
    (s.routes.get? task).toList.map fun worker =>
      (s.made, ⟨task, worker, ⟨s.made, operator, response, signature⟩, cancelled, .begun, false⟩) := rfl
  cases found : s.routes.get? task with
  | none =>
    rw [found] at makes isolated
    refine tracks_still mirrors (act_submit_unrouted found) (by rw [makes]; rfl)
      ⟨rfl, rfl, rfl, rfl, rfl, fun _ _ => rfl⟩ ?_
    rw [isolated]
    split
    · refine .inr ⟨_, rfl, act_submit_unrouted (mirrors.unrouted ?_), rfl, rfl, rfl, rfl, rfl, fun _ _ => rfl⟩
      rw [found]
      nofun
    · exact .inl rfl
  | some u =>
    rw [found] at makes isolated
    rw [makes] at listed next
    by_cases same : u = v
    · subst same
      have made : callsFor u (s.makes (.submit task operator response signature cancelled)) = [s.made] := by
        rw [makes]
        simp [callsFor]
      rw [← makes, made, List.append_assoc] at next
      refine tracks_of_matches mirrors.now (isolated.trans (if_pos ⟨grounds.route task found, by simp⟩)) ?_
        ⟨rfl, rfl, rfl, rfl, rfl, fun _ _ => rfl⟩
      rw [made]
      exact mirrors.submit grounds.addressed next once found operator response signature cancelled
    · have unmade : callsFor v (s.makes (.submit task operator response signature cancelled)) = [] := by
        rw [makes]
        simp [callsFor, same]
      refine tracks_dropped mirrors (isolated.trans (if_neg (by simp [same]))) unmade ?_
        ⟨rfl, rfl, rfl, rfl, rfl, fun _ _ => rfl⟩
      exact .submit (fun mine => same ((listed _ (List.mem_singleton_self _)).1 mine)) found _ _ _ _

/-- A call of the worker goes on in both runs. -/
theorem matches_poll (mirrors : Mirrors v own past s r) (addressed : Addressed v own s)
    (ascending : own.Pairwise (· < ·)) {id : CallId} (mine : id ∈ own) :
    Matches E v own s r (.poll id) (.poll (own.idxOf id)) := by
  have look := mirrors.poll addressed ascending mine
  refine ⟨rfl, ?_, rfl, rfl, rfl, fun id' mine' => ?_⟩
  · unfold Service.arrivals
    dsimp only
    rw [look.woken, (mirrors.shadows addressed).get?_idxOf mine]
    cases (s.poll id).woken with
    | none => rfl
    | some u =>
      cases found : s.calls.get? id with
      | none => rfl
      | some call =>
        have worker := (addressed id call found).1 mine
        show valuesAt 0 [(0, call.submission.renumber own.idxOf)] =
          (valuesAt v [(call.worker, call.submission)]).map _
        rw [worker, valuesAt_singleton, valuesAt_singleton]
        rfl
  · show valuesAt _ ((r.poll (own.idxOf id)).answer.toList.map (own.idxOf id, ·)) =
      valuesAt _ ((s.poll id).answer.toList.map (id, ·))
    by_cases same : id = id'
    · rw [same, valuesAt_map_self, valuesAt_map_self, ← same, look.answer]
    · have apart : own.idxOf id ≠ own.idxOf id' := fun equal => same ((List.idxOf_inj mine).1 equal)
      rw [valuesAt_map_other apart, valuesAt_map_other same]

/-- A step of a call to the worker at hand is taken in both runs; other calls are not there when the task is
left alone. -/
theorem tracks_poll (mirrors : Mirrors v own past s r) (addressed : Addressed v own s)
    (ascending : own.Pairwise (· < ·)) (id : CallId) : Tracks E v i own past s r (.poll id) := by
  by_cases mine : id ∈ own
  · exact tracks_kept mirrors.now (if_pos mine) rfl (mirrors.poll addressed ascending mine).service
      (matches_poll mirrors addressed ascending mine)
  · refine tracks_dropped mirrors (if_neg mine) rfl (.poll addressed mine)
      ⟨rfl, ?_, rfl, rfl, rfl, fun id' mine' => ?_⟩
    · unfold Service.arrivals
      dsimp only
      cases (s.poll id).woken with
      | none => rfl
      | some u =>
        cases found : s.calls.get? id with
        | none => rfl
        | some call => exact valuesAt_other (fun same => mine ((addressed id call found).2 same)) _
    · refine valuesAt_map_other ?_ _
      rintro rfl
      exact mine mine'

/-- So it is with a token. -/
theorem tracks_cancel (mirrors : Mirrors v own past s r) (addressed : Addressed v own s)
    (once : own.Nodup) (id : CallId) : Tracks E v i own past s r (.cancel id) := by
  by_cases mine : id ∈ own
  · exact tracks_kept mirrors.now (if_pos mine) rfl (mirrors.cancel addressed once mine)
      ⟨rfl, rfl, rfl, rfl, rfl, fun _ _ => rfl⟩
  · exact tracks_dropped mirrors (if_neg mine) rfl (.cancel mine) ⟨rfl, rfl, rfl, rfl, rfl, fun _ _ => rfl⟩

end Calling

section Working

/-! ### Workers -/

/-- Verdicts are put down under the worker that gives them. -/
theorem verdicts_work {u : WorkerId} {w : Worker ρ} (found : s.workers.get? u = some w) :
    s.verdicts E (.work u) = (w.stride E s.now s.registry).verdicts.map (u, ·) := by
  rw [verdicts, found]
  rfl

/-- The worker takes the same stride in both runs. -/
theorem matches_work (mirrors : Mirrors v own past s r) {w : Worker ρ} (found : s.workers.get? v = some w)
    (alike : E.AnswersAlike w s.now s.registry r.registry) : Matches E v own s r (.work v) (.work 0) := by
  have found' := mirrors.worker found
  have echoes := mirrors.echoes alike
  refine ⟨rfl, rfl, ?_, ?_, ?_, fun _ _ => rfl⟩
  · rw [takes_work found, takes_work found', mirrors.now, Worker.takes?_renumber, valuesAt_map_self,
      valuesAt_map_self]
    cases w.takes? s.now <;> rfl
  · rw [verdicts_work found, verdicts_work found', valuesAt_map_self, valuesAt_map_self, echoes.verdicts]
  · rw [endings_work found, endings_work found', valuesAt_map_self, valuesAt_map_self, echoes.fate]

/-- A worker that has gone does nothing that others notice. -/
theorem unnoticed_gone {u : WorkerId} (gone : s.workers.get? u = none) :
    s.Unnoticed E v own (.work u) := by
  have idles := idles_of_gone (E := E) gone
  refine ⟨rfl, rfl, by rw [idles.takes]; rfl, ?_, by rw [idles.endings]; rfl, fun _ _ => rfl⟩
  rw [verdicts, gone]
  rfl

/-- Nor does another worker. -/
theorem unnoticed_other {u : WorkerId} {w : Worker ρ} (found : s.workers.get? u = some w) (other : u ≠ v) :
    s.Unnoticed E v own (.work u) := by
  refine ⟨rfl, rfl, ?_, ?_, ?_, fun _ _ => rfl⟩
  · rw [takes_work found]
    exact valuesAt_map_other other _
  · rw [verdicts_work found]
    exact valuesAt_map_other other _
  · rw [endings_work found]
    exact valuesAt_map_other other _

/-- Strides of the worker at hand are its strides in the service alone, if the registry answers alike. -/
theorem tracks_work (mirrors : Mirrors v own past s r) (grounds : Grounds v i own s)
    (lives : Lives E started ended taken merged s) (ascending : own.Pairwise (· < ·)) (u : WorkerId)
    (alike : u = v → ∀ w, s.workers.get? v = some w → E.AnswersAlike w s.now s.registry r.registry) :
    Tracks E v i own past s r (.work u) := by
  have isolated : s.isolate v i own (.work u) = if u = v then [.work 0] else [] := rfl
  cases found : s.workers.get? u with
  | none =>
    refine tracks_still mirrors (work_of_gone found) rfl (unnoticed_gone found) ?_
    by_cases same : u = v
    · subst same
      have found' : r.workers.get? 0 = none := by
        rw [mirrors.workers, if_pos rfl, found]
        rfl
      refine .inr ⟨_, isolated.trans (if_pos rfl), work_of_gone found', ?_⟩
      have here : s.Unnoticed E u own (.work u) := unnoticed_gone found
      have there : r.Unnoticed E 0 own (.work 0) := unnoticed_gone found'
      exact ⟨rfl, rfl, by rw [here.takes, there.takes]; rfl, by rw [here.verdicts, there.verdicts]; rfl,
        by rw [here.endings, there.endings], fun _ _ => rfl⟩
    · exact .inl (isolated.trans (if_neg same))
  | some w =>
    by_cases same : u = v
    · subst same
      have answered := alike rfl w found
      exact tracks_kept mirrors.now (isolated.trans (if_pos rfl)) rfl
        (mirrors.work grounds.addressed ascending found answered) (matches_work mirrors found answered)
    · have route := (own_route lives w.task u).2 ⟨w, found, rfl⟩
      refine tracks_dropped mirrors (isolated.trans (if_neg same)) rfl ?_ (unnoticed_other found same)
      refine .work grounds.addressed same found (lives.working u _ _ (tenure_of_get? found)).2.2
        (fun x queued mine => same (grounds.foreign u w x found queued mine)) ?_
      rw [route]
      exact fun equal => same (Option.some.inj equal)

end Working

/-- What is done to the clock, the registry or the stream is done in both services. -/
theorem tracks_outward (mirrors : Mirrors v own past s r) {a : Action ρ σ} (outward : a.IsOutward) :
    Tracks E v i own past s r a := by
  have seen : s.isolate v i own a = [a] ∧ callsFor v (s.makes a) = [] ∧ Matches E v own s r a a := by
    cases a with
    | advance | registry | claimStream | dropStream | receive =>
      exact ⟨rfl, rfl, rfl, rfl, rfl, rfl, rfl, fun _ _ => rfl⟩
    | _ => exact outward.elim
  exact tracks_kept mirrors.now seen.1 seen.2.1 (mirrors.outward outward) seen.2.2

end Step

end Service

end Attestation
