/-
Module: Attestation.Proofs.Arrivals
Purpose: How a worker ends as a function of what reaches its inbox and when, however much arrives at once.
  At every instant it goes through its whole inbox. It makes no difference if it is handed the same
  submissions one by one, so it ends where such a worker does.
Main exports: moments, Worker.follow, Worker.live, Life.signals, Life.Agrees, Worker.live_agrees,
  Worker.outcome_of_timeline
-/
import Attestation.Proofs.Sittings

namespace Attestation

/-- Submissions that arrive together, one by one. -/
def moments {ρ : Type} (arrivals : List (Nat × List (Submission ρ))) : List (Nat × Submission ρ) :=
  arrivals.flatMap fun e => e.2.map (e.1, ·)

namespace Worker

variable {ρ σ : Type} (E : Setting ρ σ) (registry : Nat → σ)

/-- How a life goes on after a turn on an inbox: with what the turn leaves, or to its end. -/
def follow (w : Worker ρ) (now : Nat) (inbox : List (Submission ρ)) (turn : Turn ρ σ)
    (next : Collection ρ → List (Submission ρ) → Life ρ σ) : Life ρ σ :=
  let taken := (inbox.take turn.takes).map (now, ·)
  match turn.fate with
  | .waiting (.collecting c) => (next c turn.unread).precede taken (now, turn)
  | _ => w.leave E registry taken now turn

/-- The life of a worker that collects, as a function of what arrives in its inbox and when, and of what the
registry is when the worker takes its turns. Turns are taken when submissions arrive or when a deadline is
reached, whichever is first; what has arrived by then is in the inbox when they begin. -/
def live (w : Worker ρ) (c : Collection ρ) (inbox : List (Submission ρ)) :
    List (Nat × List (Submission ρ)) → Life ρ σ
  | [] => w.leave E registry [] c.deadline ((w.resume c inbox).run E c.deadline (registry c.deadline))
  | (now, arrived) :: rest =>
    if c.deadline < now then
      w.leave E registry [] c.deadline ((w.resume c inbox).run E c.deadline (registry c.deadline))
    else
      let inbox := inbox ++ arrived
      w.follow E registry now inbox ((w.resume c inbox).sitting E now (registry now) inbox.length)
        fun c' unread => w.live c' unread rest

end Worker

/-- What the worker lets others know, and when. -/
def Life.signals {ρ σ : Type} (life : Life ρ σ) : List (Nat × Signal) :=
  (life.earlier ++ [(life.ended, life.last)]).flatMap fun e => e.2.signals.map (e.1, ·)

/-- Two lives take the same submissions and give the same signals at the same instants, and end in the same
way. The registry is not asked for anything before the first of them ends. -/
structure Life.Agrees {ρ σ : Type} (registry : Nat → σ) (life other : Life ρ σ) : Prop where
  taken : life.taken = other.taken
  signals : life.signals = other.signals
  undisturbed : ∀ e ∈ life.earlier, e.2.registry = registry e.1
  stopped : life.stopped = other.stopped
  ended : life.ended = other.ended
  asked : life.last.registry = other.last.registry
  fate : life.last.fate = other.last.fate

namespace Life

variable {ρ σ : Type} {E : Setting ρ σ} {registry : Nat → σ} {life other : Life ρ σ} {now : Nat}
  {turn : Turn ρ σ}

theorem signals_precede (life : Life ρ σ) (taken : List (Nat × Submission ρ)) (e : Nat × Turn ρ σ) :
    (life.precede taken e).signals = e.2.signals.map (e.1, ·) ++ life.signals := rfl

/-- A turn in which nothing happens makes no difference. -/
theorem Agrees.idle (agrees : life.Agrees registry other) (silent : turn.signals = [])
    (same : turn.registry = registry now) : (life.precede [] (now, turn)).Agrees registry other :=
  { agrees with
    signals := by rw [signals_precede, silent]; exact agrees.signals
    undisturbed := List.forall_mem_cons.2 ⟨same, agrees.undisturbed⟩ }

/-- A turn may as well be two, of which the first takes a submission. -/
theorem Agrees.split {x : Submission ρ} {first : Turn ρ σ} {taken : List (Nat × Submission ρ)}
    (agrees : (life.precede taken (now, turn)).Agrees registry other) :
    (life.precede ((now, x) :: taken) (now, turn.after first.signals)).Agrees registry
      (other.precede [(now, x)] (now, first)) :=
  { agrees with
    taken := congrArg ((now, x) :: ·) agrees.taken
    signals := by
      rw [signals_precede, signals_precede, ← agrees.signals, signals_precede, Turn.after, List.map_append,
        List.append_assoc]
    undisturbed :=
      have ⟨same, undisturbed⟩ := List.forall_mem_cons.1 agrees.undisturbed
      List.forall_mem_cons.2 ⟨same, undisturbed⟩ }

theorem Agrees.concluded {s : TaskState ρ} (agrees : life.Agrees registry other)
    (concluded : other.Concluded E registry s) : life.Concluded E registry s where
  undisturbed := agrees.undisturbed
  ended := by
    rw [agrees.ended, agrees.stopped]
    exact concluded.ended
  answered := by
    obtain ⟨nonSigners, found, answers⟩ := concluded.answered
    refine ⟨nonSigners, found, ?_⟩
    rw [agrees.ended]
    exact Worker.answers_congr answers agrees.fate agrees.asked

theorem Agrees.expired {task : TaskIndex} (agrees : life.Agrees registry other)
    (expired : other.Expired registry task) : life.Expired registry task where
  undisturbed := agrees.undisturbed
  ended := by
    rw [agrees.ended, agrees.stopped]
    exact expired.ended
  untouched := by
    rw [agrees.asked, agrees.ended]
    exact expired.untouched
  fate := agrees.fate.trans expired.fate

end Life

namespace Worker

variable {ρ σ : Type} {E : Setting ρ σ} {registry : Nat → σ} {w : Worker ρ} {c : Collection ρ} {now : Nat}

/-! ### One inbox against one submission at a time -/

/-- While the indices are awaited the registry has not been asked. -/
theorem registry_of_awaiting {asked : σ} {p : Progress ρ} {s : TaskState ρ} {ids : List OperatorId}
    {due : Nat} (fate : (w.resolve E now asked p).fate = .waiting (.awaitingIndices s ids due)) :
    (w.resolve E now asked p).registry = asked := by
  unfold resolve at fate ⊢
  dsimp only [Turn.after_fate, Turn.after_registry] at fate ⊢
  cases course : p.course with
  | closed won =>
    rw [course] at fate
    dsimp only at fate ⊢
    unfold finalize ask at fate ⊢
    cases found : won.winningNonSigners? with
    | none => rfl
    | some nonSigners =>
      rw [found] at fate
      dsimp only at fate ⊢
      by_cases instant : E.provider.latency asked = 0
      · -- The indices are answered in the same turn, and nothing is awaited.
        rw [if_pos instant] at fate
        unfold conclude at fate
        dsimp only [Turn.after_fate] at fate
        split at fate
        next => cases fate
        next => cases fate
        next indices _ => cases given : won.result? indices <;> rw [given] at fate <;> cases fate
      · rw [if_neg instant]
        rfl
  | _ => rfl

/-- What is left in the inbox makes no difference to the end of a life. -/
theorem leave_agrees (p : Progress ρ) (taken : List (Nat × Submission ρ)) (one two : List (Submission ρ)) :
    (w.leave E registry taken now ((w.resolve E now (registry now) p).leaving one)).Agrees registry
      (w.leave E registry taken now ((w.resolve E now (registry now) p).leaving two)) := by
  unfold leave
  dsimp only [Turn.leaving]
  split
  next s ids due fate =>
    have last : ∀ unread, run E { w with inbox := unread, phase := .awaitingIndices s ids due } due
        (registry due) = (w.conclude E (registry due) s ids).leaving unread := by
      intro unread
      unfold run
      dsimp only
      rw [if_pos (Nat.le_refl due)]
      exact conclude_inbox ..
    rw [last, last]
    exact ⟨rfl, rfl, List.forall_mem_singleton.2 (registry_of_awaiting fate), rfl, rfl, rfl, rfl⟩
  next => exact ⟨rfl, rfl, nofun, rfl, rfl, rfl, rfl⟩

/-- Nothing is taken after the inbox has been looked at. -/
theorem takes_resolve (w : Worker ρ) (asked : σ) (p : Progress ρ) (unread : List (Submission ρ)) :
    ((w.resolve E now asked p).leaving unread).takes = p.signals.countP Signal.isTaken := by
  unfold Turn.takes resolve
  dsimp only [Turn.after, Turn.leaving]
  rw [List.countP_append, Nat.add_eq_left]
  split
  next => rfl
  next s _ =>
    rw [List.countP_eq_zero]
    intro signal member taken
    have silent := (idles_finalize w now asked s).silent signal member
    cases signal with
    | taken call => exact silent
    | _ => cases taken
  next => rfl
  next => rfl

section Following

variable {inbox : List (Submission ρ)} {turn : Turn ρ σ} {next : Collection ρ → List (Submission ρ) → Life ρ σ}

theorem follow_going {c' : Collection ρ} (going : turn.fate = .waiting (.collecting c')) :
    w.follow E registry now inbox turn next =
      (next c' turn.unread).precede ((inbox.take turn.takes).map (now, ·)) (now, turn) := by
  unfold follow
  rw [going]

theorem follow_over (ceased : ∀ c', turn.fate ≠ .waiting (.collecting c')) :
    w.follow E registry now inbox turn next =
      w.leave E registry ((inbox.take turn.takes).map (now, ·)) now turn := by
  unfold follow
  split
  next c' going => exact absurd going (ceased c')
  next => rfl

end Following

theorem takes_after (turn : Turn ρ σ) (signals : List Signal) :
    (turn.after signals).takes = signals.countP Signal.isTaken + turn.takes := List.countP_append

/-- A life that ends with a turn may as well end with two, of which the first takes a submission. -/
theorem leave_split {x : Submission ρ} {taken : List (Nat × Submission ρ)} {turn first : Turn ρ σ}
    {other : Life ρ σ} (agrees : (w.leave E registry taken now turn).Agrees registry other) :
    (w.leave E registry ((now, x) :: taken) now (turn.after first.signals)).Agrees registry
      (other.precede [(now, x)] (now, first)) := by
  have signals : ∀ rest, turn.signals.map (now, ·) ++ rest = other.signals →
      (turn.after first.signals).signals.map (now, ·) ++ rest =
        (other.precede [(now, x)] (now, first)).signals := by
    rintro rest same
    rw [Life.signals_precede, ← same, Turn.after, List.map_append, List.append_assoc]
  unfold leave at agrees ⊢
  dsimp only [Turn.after_fate, Turn.after_unread]
  split at agrees
  next =>
    have same : turn.registry = registry now := agrees.undisturbed _ (List.mem_singleton_self (now, turn))
    exact { agrees with
      taken := congrArg ((now, x) :: ·) agrees.taken
      signals := signals _ agrees.signals
      undisturbed := List.forall_mem_cons.2 ⟨same, nofun⟩ }
  next =>
    exact { agrees with
      taken := congrArg ((now, x) :: ·) agrees.taken
      signals := signals [] agrees.signals }

/-- A submission that is taken before the others may as well be taken in a turn of its own. -/
theorem follow_cons {x : Submission ρ} {inbox : List (Submission ρ)} {turn first : Turn ρ σ}
    {next : Collection ρ → List (Submission ρ) → Life ρ σ} {other : Life ρ σ} {signals : List Signal}
    (same : first.signals = signals) (once : signals.countP Signal.isTaken = 1)
    (agrees : (w.follow E registry now inbox turn next).Agrees registry other) :
    (w.follow E registry now (x :: inbox) (turn.after signals) next).Agrees registry
      (other.precede [(now, x)] (now, first)) := by
  subst same
  have takes : (turn.after first.signals).takes = turn.takes + 1 := by
    rw [takes_after, once, Nat.add_comm]
  unfold follow at agrees ⊢
  rw [takes, List.take_succ_cons, List.map_cons]
  dsimp only [Turn.after_fate] at agrees ⊢
  split
  next c' going =>
    rw [going] at agrees
    exact agrees.split
  next ceased =>
    split at agrees
    next c' going => exact absurd going (ceased c')
    next => exact leave_split agrees

/-- Going through an inbox at one instant comes to the same as taking the submissions in it one by one. -/
theorem follow_agrees {next : Collection ρ → List (Submission ρ) → Life ρ σ}
    {rest : List (Nat × Submission ρ)}
    (agrees : ∀ c' : Collection ρ, now < c'.deadline →
      (next c' []).Agrees registry (w.paced E registry c' rest)) (inbox : List (Submission ρ)) :
    ∀ {c : Collection ρ}, now < c.deadline →
      (w.follow E registry now inbox
        ((w.resume c inbox).collect E now (registry now) (inbox.length + 1) c) next).Agrees registry
        (w.paced E registry c (inbox.map (now, ·) ++ rest)) := by
  induction inbox with
  | nil =>
    intro c early
    rw [collect_nil (Collection.overdue_eq_none_iff.2 early), follow_going rfl]
    exact (agrees c early).idle rfl rfl
  | cons x inbox ih =>
    intro c early
    have ahead := Collection.overdue_eq_none_iff.2 early
    rw [List.map_cons, List.cons_append, List.length_cons]
    by_cases going : ∃ c', (c.take E.judge now x).course = .collecting c'
    · obtain ⟨c', going⟩ := going
      rw [paced_cons_going registry w _ early going, collect_cons_going ahead going,
        run_alone w (registry now) early going]
      exact follow_cons rfl (Collection.countP_take c now x)
        (ih (Collection.early_of_receive early going))
    · have ceased := not_exists.1 going
      have turn : (w.resume c [x]).run E now (registry now) = _ := collect_cons_over ahead ceased 127
      have stopped : ∀ c', ((w.resolve E now (registry now) (c.take E.judge now x)).leaving inbox).fate ≠
          .waiting (.collecting c') := fate_resolve_ne ceased
      rw [paced_cons_over registry w _ early ceased, collect_cons_over ahead ceased, turn,
        follow_over stopped, takes_resolve, Collection.countP_take]
      exact leave_agrees _ _ _ _

/-! ### Whole lives -/

/-- What is in the inbox when a deadline has been reached makes no difference. -/
theorem late_agrees (late : c.deadline ≤ now) (one two : List (Submission ρ)) :
    (w.leave E registry [] now ((w.resume c one).run E now (registry now))).Agrees registry
      (w.leave E registry [] now ((w.resume c two).run E now (registry now))) := by
  obtain ⟨p, overdue⟩ := Collection.exists_overdue late
  have turn : ∀ inbox, (w.resume c inbox).run E now (registry now) =
      (w.resolve E now (registry now) p).leaving inbox := fun _ => collect_overdue overdue 127
  rw [turn, turn]
  exact leave_agrees _ _ _ _

/-- So it is if submissions arrive right then. -/
theorem follow_late (late : c.deadline ≤ now) (inbox : List (Submission ρ)) (share : Nat)
    (next : Collection ρ → List (Submission ρ) → Life ρ σ) :
    w.follow E registry now inbox ((w.resume c inbox).collect E now (registry now) (share + 1) c) next =
      w.leave E registry [] now ((w.resume c inbox).run E now (registry now)) := by
  obtain ⟨p, overdue⟩ := Collection.exists_overdue late
  have turn : (w.resume c inbox).run E now (registry now) = _ := collect_overdue overdue 127
  have stopped : ∀ c', ((w.resolve E now (registry now) p).leaving inbox).fate ≠ .waiting (.collecting c') :=
    fate_resolve_ne (Collection.ceased_of_overdue overdue)
  have silent : p.signals.countP Signal.isTaken = 0 := by
    rcases Collection.overdue_cases overdue with ⟨-, -, rfl⟩ | ⟨-, -, rfl⟩ | ⟨-, -, rfl⟩ <;> rfl
  rw [collect_overdue overdue, turn, follow_over stopped, takes_resolve, silent]
  rfl

theorem moments_cons (now : Nat) (arrived : List (Submission ρ)) (rest : List (Nat × List (Submission ρ))) :
    moments ((now, arrived) :: rest) = arrived.map (now, ·) ++ moments rest := List.flatMap_cons

theorem le_of_mem_moments {arrived : List (Submission ρ)} {rest : List (Nat × List (Submission ρ))}
    (sorted : ((now, arrived) :: rest).Pairwise (·.1 ≤ ·.1)) :
    ∀ e ∈ moments ((now, arrived) :: rest), now ≤ e.1 := by
  intro e member
  obtain ⟨a, among, own⟩ := List.mem_flatMap.1 member
  obtain ⟨x, -, rfl⟩ := List.mem_map.1 own
  rcases List.mem_cons.1 among with rfl | later
  · exact Nat.le_refl now
  · exact (List.pairwise_cons.1 sorted).1 a later

theorem sorted_moments {arrivals : List (Nat × List (Submission ρ))}
    (sorted : arrivals.Pairwise (·.1 ≤ ·.1)) : (moments arrivals).Pairwise (·.1 ≤ ·.1) := by
  refine List.pairwise_flatMap.2 ⟨fun a _ => ?_, sorted.imp fun {a b} ordered x first y second => ?_⟩
  · exact List.pairwise_map.2 (List.pairwise_of_forall fun _ _ => Nat.le_refl a.1)
  · obtain ⟨_, -, rfl⟩ := List.mem_map.1 first
    obtain ⟨_, -, rfl⟩ := List.mem_map.1 second
    exact ordered

/-- A worker that goes through its whole inbox whenever something arrives has the same life as one that is
handed the same submissions one by one. -/
theorem live_agrees (E : Setting ρ σ) (registry : Nat → σ) (w : Worker ρ)
    (arrivals : List (Nat × List (Submission ρ))) : ∀ c : Collection ρ, arrivals.Pairwise (·.1 ≤ ·.1) →
      (w.live E registry c [] arrivals).Agrees registry (w.paced E registry c (moments arrivals)) := by
  induction arrivals with
  | nil => exact fun c _ => late_agrees (Nat.le_refl _) [] []
  | cons e rest ih =>
    intro c sorted
    obtain ⟨now, arrived⟩ := e
    by_cases early : now < c.deadline
    · rw [live, if_neg (Nat.not_lt_of_gt early), List.nil_append]
      dsimp only
      rw [sitting_eq _ (Nat.le_refl _), moments_cons]
      exact follow_agrees (fun c' _ => ih c' (List.pairwise_cons.1 sorted).2) arrived early
    · have reached : c.deadline ≤ now := Nat.le_of_not_lt early
      have late : ∀ e ∈ (moments ((now, arrived) :: rest)).head?, c.deadline ≤ e.1 := fun e head =>
        Nat.le_trans reached (le_of_mem_moments sorted e (List.mem_of_head? head))
      obtain ⟨inbox, pacing⟩ := paced_late E registry w _ late
      rw [pacing, live]
      split
      · exact late_agrees (Nat.le_refl _) _ _
      next unpassed =>
        obtain rfl : c.deadline = now := Nat.le_antisymm reached (Nat.le_of_not_lt unpassed)
        rw [List.nil_append]
        dsimp only
        rw [sitting_eq _ (Nat.le_refl _), follow_late reached]
        exact late_agrees reached _ _

end Worker

/-- How a worker ends that collects from some instant on, whatever arrives in its inbox and when. The task
expires at its expiry if nothing that comes before meets the thresholds. Otherwise the collection ends with
the first submission that does, if there is no window, or with the window that this submission opens, or
with the expiry if that is earlier; and then the worker ends with the answer for the digest that met the
thresholds last. -/
theorem Worker.outcome_of_timeline {ρ σ : Type} (E : Setting ρ σ) (steady : E.Steady)
    (registry : Nat → σ) (t : TaskParameters) (n : Snapshot) (fetched : Nat)
    (arrivals : List (Nat × List (Submission ρ))) (sorted : arrivals.Pairwise (·.1 ≤ ·.1)) :
    let w : Worker ρ := ⟨t, [], .starting⟩
    let life := w.live E registry (w.collection fetched n) [] arrivals
    let timeline := moments arrivals
    let expiry := sleepUntil fetched t.timeToExpiry
    let ready := timeline.takeWhile (·.1 < expiry)
    let s := TaskState.start t n
    (s.firstMet? E.judge ready = none →
      life.taken = ready ∧ life.stopped = expiry ∧ life.Expired registry t.index) ∧
    ∀ T, s.firstMet? E.judge ready = some T →
      (t.window = 0 →
        (∃ before x, life.taken = before ++ [(T, x)] ∧ s.firstMet? E.judge before = none) ∧
        life.taken <+: timeline ∧ life.stopped = T) ∧
      (0 < t.window → (later? T t.window).isSome = true →
        life.taken = timeline.takeWhile (·.1 < min expiry (T + t.window)) ∧
        life.stopped = min expiry (T + t.window)) ∧
      (t.window = 0 ∨ (later? T t.window).isSome = true →
        life.Concluded E registry (s.after E.judge (life.taken.map (·.2))) ∧
        ∃ a, latestMet (s.accepted E.judge (life.taken.map (·.2))) = some a ∧
          ∀ result, life.last.fate = .finished (.ok result) →
            result.digest = a.digest ∧ result.response = a.response) := by
  intro w life timeline expiry ready s
  have agrees := live_agrees E registry w arrivals (w.collection fetched n) sorted
  have sound := sound_collection fetched E.judge w n
  have ordered : timeline.Pairwise (·.1 ≤ ·.1) := sorted_moments sorted
  -- Everything is proved of the life in which the submissions come one by one.
  have taken : life.taken = (w.paced E registry (w.collection fetched n) timeline).taken := agrees.taken
  have stopped : life.stopped = (w.paced E registry (w.collection fetched n) timeline).stopped :=
    agrees.stopped
  rw [taken, stopped]
  refine ⟨fun unmet => ?_, fun T met => ⟨fun shut => ?_, fun window expressible => ?_, fun ending => ?_⟩⟩
  · obtain ⟨all, at_, expired⟩ := paced_expires registry w steady timeline sound rfl unmet
    exact ⟨all, at_, agrees.expired expired⟩
  · obtain ⟨last, within, stopped, -⟩ :=
      paced_closes registry w steady shut timeline sound rfl met
    exact ⟨last, within, stopped⟩
  · obtain ⟨taken, stopped, -⟩ :=
      paced_window registry w steady window expressible timeline sound rfl ordered met
    exact ⟨taken, stopped⟩
  · have concluded : (w.paced E registry (w.collection fetched n) timeline).Concluded E registry
        (s.after E.judge ((w.paced E registry (w.collection fetched n) timeline).taken.map (·.2))) := by
      rcases Nat.eq_zero_or_pos t.window with shut | window
      · exact (paced_closes registry w steady shut timeline sound rfl met).2.2.2
      · have expressible := ending.resolve_left (Nat.ne_of_gt window)
        exact (paced_window registry w steady window expressible timeline sound rfl ordered met).2.2
    have whole := agrees.concluded concluded
    exact ⟨whole, whole.latest⟩

theorem SampleTask.steady : SampleTask.setting.Steady where
  judge := ⟨nofun, nofun⟩
  indices := nofun

/-- The thresholds are met at 6, so the window closes at 16: what arrives then is not taken. -/
theorem Worker.outcome_of_timeline_sample_run :
    let w := SampleTask.worker []
    let life := w.live SampleTask.setting (fun _ => 0) (w.collection 0 SampleTask.snapshot) []
      SampleTask.arrivals
    SampleTask.arrivals.Pairwise (·.1 ≤ ·.1) ∧ SampleTask.setting.Steady ∧
    (later? 6 w.parameters.window).isSome = true ∧
    life.taken = (moments SampleTask.arrivals).take 3 ∧ life.stopped = 16 ∧
    ∃ result, life.last.fate = .finished (.ok result) ∧ result.response = 7 ∧
      ∃ a, latestMet ((TaskState.start w.parameters SampleTask.snapshot).accepted SampleTask.judge
        (life.taken.map (·.2))) = some a ∧ result.digest = a.digest := by
  have sorted : SampleTask.arrivals.Pairwise (·.1 ≤ ·.1) := by decide
  obtain ⟨-, closing, ending⟩ := (outcome_of_timeline SampleTask.setting SampleTask.steady (fun _ => 0)
    (SampleTask.parameters 10) SampleTask.snapshot 0 _ sorted).2 6 rfl
  obtain ⟨taken, stopped⟩ := closing (by decide) rfl
  obtain ⟨-, a, latest, same⟩ := ending (.inr rfl)
  exact ⟨sorted, SampleTask.steady, rfl, taken, stopped, _, rfl, rfl, a, latest, (same _ rfl).1⟩

/-- Where spans are too long: a task expires no later than after the longest sleep, and a window whose
end the clock does not express crashes the worker. -/
theorem Worker.outcome_of_long_spans :
    let worker t : Worker Nat := ⟨t, [], .starting⟩
    let live t := (worker t).live SampleTask.setting (fun _ => 0)
      ((worker t).collection 0 SampleTask.snapshot) []
    let late := { SampleTask.parameters 0 with timeToExpiry := longestSleep + 1 }
    let wide := SampleTask.parameters longestSpan
    SampleTask.setting.Steady ∧ late.validate = .ok () ∧ wide.validate = .ok () ∧
    (live late []).last.fate = .finished (.error (.taskExpired 1)) ∧
    (live late []).ended < 0 + late.timeToExpiry ∧
    (live wide [(0, [SampleTask.submission 1 7, SampleTask.submission 3 7])]).last.fate = .crashed :=
  ⟨SampleTask.steady, rfl, rfl, rfl, by decide, rfl⟩

end Attestation
