/-
Module: Attestation.Proofs.Timeline
Purpose: How a worker ends that is handed its submissions one by one. Until the thresholds are first met
  only the expiry counts; from then on also the end of the window, which is fixed by that instant, or
  nothing at all if there is no window. What is ready when a deadline is reached is left in the inbox.
Main exports: Life, Worker.leave, Worker.paced, Turn.Answers, Life.Concluded, Life.Expired,
  Worker.paced_expires, Worker.paced_closes, Worker.paced_open, Worker.paced_window, Life.Concluded.latest
-/
import Attestation.Proofs.Deadlines
import Attestation.Proofs.Endings

namespace Attestation

/-! ### Lives

A worker that collects is woken for a submission that is ready or for a deadline, whichever comes first. Its
life is given for submissions that are handed to it one by one; whole inboxes come to the same, as
`Worker.live_agrees` says. -/

/-- The life of a worker from the beginning of its collection. -/
structure Life (ρ σ : Type) where
  /-- The submissions that were taken, and when. -/
  taken : List (Nat × Submission ρ)
  /-- The turns that left the worker waiting, and when they were. -/
  earlier : List (Nat × Turn ρ σ)
  /-- When the collection ended. -/
  stopped : Nat
  /-- When the worker ended. -/
  ended : Nat
  last : Turn ρ σ

/-- The life with an earlier turn and what was taken in it. -/
def Life.precede {ρ σ : Type} (life : Life ρ σ) (taken : List (Nat × Submission ρ))
    (turn : Nat × Turn ρ σ) : Life ρ σ :=
  { life with taken := taken ++ life.taken, earlier := turn :: life.earlier }

namespace Worker

variable {ρ σ : Type} (E : Setting ρ σ) (registry : Nat → σ)

/-- The worker while it collects, with what is in its inbox. -/
def resume (w : Worker ρ) (c : Collection ρ) (inbox : List (Submission ρ)) : Worker ρ :=
  { w with inbox := inbox, phase := .collecting c }

/-- The rest of a life after the turn that ends the collection: if indices were asked for, their answer
is awaited. -/
def leave (w : Worker ρ) (taken : List (Nat × Submission ρ)) (now : Nat) (turn : Turn ρ σ) : Life ρ σ :=
  match turn.fate with
  | .waiting (.awaitingIndices s ids due) =>
    ⟨taken, [(now, turn)], now, due,
      { w with inbox := turn.unread, phase := .awaitingIndices s ids due }.run E due (registry due)⟩
  | _ => ⟨taken, [], now, now, turn⟩

/-- The life of a worker that collects and is handed one submission at a time, as a function of when they
are ready and of what the registry is when the worker takes its turns. A turn is taken when a submission
is ready or when a deadline is reached, whichever is first. -/
def paced (w : Worker ρ) (c : Collection ρ) : List (Nat × Submission ρ) → Life ρ σ
  | [] => w.leave E registry [] c.deadline ((w.resume c []).run E c.deadline (registry c.deadline))
  | (now, x) :: rest =>
    if c.deadline < now then
      w.leave E registry [] c.deadline ((w.resume c []).run E c.deadline (registry c.deadline))
    else
      let turn := (w.resume c [x]).run E now (registry now)
      let taken := if turn.unread.isEmpty then [(now, x)] else []
      match turn.fate with
      | .waiting (.collecting c') => (w.paced c' rest).precede taken (now, turn)
      | _ => w.leave E registry taken now turn

end Worker

/-- The indices of some operators were asked for, and the turn ends with the result for them or with the
error that came instead. -/
def Turn.Answers {ρ σ : Type} (E : Setting ρ σ) (registry : σ) (s : TaskState ρ) (ids : List OperatorId)
    (turn : Turn ρ σ) : Prop :=
  let reply := E.provider.indices registry s.parameters.block s.parameters.quorums ids
  turn.registry = reply.registry ∧
    ((∃ e, reply.answer = .error (.error e) ∧
      turn.fate = .finished (.error (.indicesRetrieval s.parameters.index e.message))) ∨
    ∃ indices result, reply.answer = .ok indices ∧ s.result? indices = some result ∧
      turn.fate = .finished (.ok result))

/-- The life ends with the answer for the winner of a state, and the registry was not asked for anything
else. -/
structure Life.Concluded {ρ σ : Type} (E : Setting ρ σ) (registry : Nat → σ) (s : TaskState ρ)
    (life : Life ρ σ) : Prop where
  undisturbed : ∀ e ∈ life.earlier, e.2.registry = registry e.1
  ended : life.ended = if E.provider.latency (registry life.stopped) = 0 then life.stopped
    else sleepUntil life.stopped (E.provider.latency (registry life.stopped))
  answered : ∃ nonSigners, s.winningNonSigners? = some nonSigners ∧
    life.last.Answers E (registry life.ended) s (nonSigners.map (·.1))

/-- The life ends with an expiry, and the registry was not asked for anything. -/
structure Life.Expired {ρ σ : Type} (registry : Nat → σ) (task : TaskIndex) (life : Life ρ σ) :
    Prop where
  undisturbed : ∀ e ∈ life.earlier, e.2.registry = registry e.1
  ended : life.ended = life.stopped
  untouched : life.last.registry = registry life.ended
  fate : life.last.fate = .finished (.error (.taskExpired task))

namespace Life

variable {ρ σ : Type} {E : Setting ρ σ} {registry : Nat → σ} {life : Life ρ σ} {now : Nat}
  {turn : Turn ρ σ}

/-! ### How a collection is concluded -/

theorem Concluded.precede {s : TaskState ρ} (concluded : life.Concluded E registry s)
    (same : turn.registry = registry now) (taken : List (Nat × Submission ρ)) :
    (life.precede taken (now, turn)).Concluded E registry s :=
  { concluded with undisturbed := List.forall_mem_cons.2 ⟨same, concluded.undisturbed⟩ }

theorem Expired.precede {task : TaskIndex} (expired : life.Expired registry task)
    (same : turn.registry = registry now) (taken : List (Nat × Submission ρ)) :
    (life.precede taken (now, turn)).Expired registry task :=
  { expired with undisturbed := List.forall_mem_cons.2 ⟨same, expired.undisturbed⟩ }

end Life

namespace Worker

variable {ρ σ : Type} {E : Setting ρ σ} {registry : Nat → σ} {t : TaskParameters} {w : Worker ρ}
  {c : Collection ρ} {s : TaskState ρ} {now : Nat}

/-- Where the registry does not crash, the indices are answered one way or the other. -/
theorem answers_conclude (steady : E.Steady) (reached : s.Reached E.judge w.parameters)
    (won : s.hasWinner = true) (asked : σ) (ids : List OperatorId) :
    (w.conclude E asked s ids).Answers E asked s ids := by
  unfold conclude Turn.Answers
  rw [reached.parameters]
  dsimp only [Turn.after_registry, Turn.after_fate]
  cases answer : (E.provider.indices asked w.parameters.block w.parameters.quorums ids).answer with
  | error e =>
    cases e with
    | error e => exact ⟨rfl, .inl ⟨e, rfl, rfl⟩⟩
    | crash => exact absurd answer (steady.indices _ _ _ _)
  | ok indices =>
    obtain ⟨result, found⟩ := Option.isSome_iff_exists.1 ((reached.isSome_result? indices).trans won)
    dsimp only
    rw [found]
    exact ⟨rfl, .inr ⟨indices, result, rfl, found, rfl⟩⟩

/-- Only what a turn leaves of the registry and of the worker counts for its answer. -/
theorem answers_congr {turn other : Turn ρ σ} {asked : σ} {ids : List OperatorId}
    (answers : other.Answers E asked s ids) (fate : turn.fate = other.fate)
    (same : turn.registry = other.registry) : turn.Answers E asked s ids := by
  unfold Turn.Answers at answers ⊢
  rw [fate, same]
  exact answers

/-- A turn with a response is the end. -/
theorem leave_of_finished {turn : Turn ρ σ} {response : TaskResponse ρ}
    (taken : List (Nat × Submission ρ)) (fate : turn.fate = .finished response) :
    w.leave E registry taken now turn = ⟨taken, [], now, now, turn⟩ := by
  unfold leave
  rw [fate]

/-- A turn that asks for indices is followed by the turn in which their answer is due. -/
theorem leave_of_awaiting {turn : Turn ρ σ} {ids : List OperatorId} {due : Nat}
    (taken : List (Nat × Submission ρ)) (fate : turn.fate = .waiting (.awaitingIndices s ids due)) :
    w.leave E registry taken now turn = ⟨taken, [(now, turn)], now, due,
      { w with inbox := turn.unread, phase := .awaitingIndices s ids due }.run E due
        (registry due)⟩ := by
  unfold leave
  rw [fate]

/-- A collection that is closed with a winner leads to the answer for it. -/
theorem concluded_leave (steady : E.Steady) {v : Worker ρ} (parameters : v.parameters = w.parameters)
    (reached : s.Reached E.judge w.parameters) (won : s.hasWinner = true)
    (taken : List (Nat × Submission ρ)) {turn : Turn ρ σ}
    (fate : turn.fate = (v.finalize E now (registry now) s).fate)
    (same : turn.registry = (v.finalize E now (registry now) s).registry) :
    (w.leave E registry taken now turn).Concluded E registry s ∧
    (w.leave E registry taken now turn).stopped = now ∧
    (w.leave E registry taken now turn).taken = taken := by
  obtain ⟨nonSigners, found⟩ := Option.isSome_iff_exists.1 (reached.isSome_winningNonSigners?.trans won)
  unfold finalize ask at fate same
  rw [found] at fate same
  dsimp only at fate same
  -- Without latency the indices are there in the same turn; otherwise they are awaited in another.
  by_cases instant : E.provider.latency (registry now) = 0
  · rw [if_pos instant] at fate same
    have answers :=
      answers_conclude steady (parameters ▸ reached) won (registry now) (nonSigners.map (·.1))
    have finished : ∃ response, turn.fate = .finished response := by
      rcases answers.2 with ⟨e, -, ending⟩ | ⟨_, _, -, -, ending⟩ <;> exact ⟨_, fate.trans ending⟩
    obtain ⟨response, finished⟩ := finished
    rw [leave_of_finished taken finished]
    exact ⟨⟨nofun, (if_pos instant).symm, nonSigners, found, answers_congr answers fate same⟩, rfl, rfl⟩
  · rw [if_neg instant] at fate same
    rw [leave_of_awaiting taken fate]
    refine ⟨⟨List.forall_mem_cons.2 ⟨same, nofun⟩, (if_neg instant).symm, nonSigners, found, ?_⟩,
      rfl, rfl⟩
    show (run E _ _ _).Answers E _ s _
    unfold run
    dsimp only
    rw [if_pos (Nat.le_refl _)]
    refine answers_conclude steady ?_ won _ _
    exact reached

section Turns

variable {inbox : List (Submission ρ)} (w) (asked : σ)

/-! ### What a poll leads to -/

/-- The turn leaves in the inbox what the poll does. -/
theorem unread_resume : ((w.resume c inbox).run E now asked).unread =
    (c.poll E.judge now share inbox).2 := by
  show (collect ..).unread = _
  unfold collect
  dsimp only [Turn.after_unread]
  split
  next => rfl
  next => exact (idles_finalize _ now asked _).unread
  next => rfl
  next => rfl

theorem resume_collecting {c' : Collection ρ}
    (course : (c.poll E.judge now share inbox).1.course = .collecting c') :
    ((w.resume c inbox).run E now asked).fate = .waiting (.collecting c') ∧
    ((w.resume c inbox).run E now asked).registry = asked := by
  show (collect ..).fate = _ ∧ (collect ..).registry = _
  unfold collect resume
  dsimp only [Turn.after_fate, Turn.after_registry]
  rw [course]
  exact ⟨rfl, rfl⟩

/-- A collection that closes leads to the query for the indices. -/
theorem resume_closed (course : (c.poll E.judge now share inbox).1.course = .closed s) :
    ∃ v : Worker ρ, v.parameters = w.parameters ∧
      ((w.resume c inbox).run E now asked).fate = (v.finalize E now asked s).fate ∧
      ((w.resume c inbox).run E now asked).registry = (v.finalize E now asked s).registry := by
  show ∃ v : Worker ρ, _ ∧ (collect ..).fate = _ ∧ (collect ..).registry = _
  unfold collect resume
  dsimp only [Turn.after_fate, Turn.after_registry]
  rw [course]
  exact ⟨{ w with inbox := (c.poll E.judge now share inbox).2, phase := .collecting c }, rfl, rfl, rfl⟩

/-- A collection that expires ends the worker with that error, and the registry is not asked. -/
theorem resume_expired (course : (c.poll E.judge now share inbox).1.course = .expired) :
    ((w.resume c inbox).run E now asked).fate = .finished (.error (.taskExpired w.task)) ∧
    ((w.resume c inbox).run E now asked).registry = asked := by
  show (collect ..).fate = _ ∧ (collect ..).registry = _
  unfold collect resume
  dsimp only [Turn.after_fate, Turn.after_registry]
  rw [course]
  exact ⟨rfl, rfl⟩

theorem resume_crashed (course : (c.poll E.judge now share inbox).1.course = .crashed) :
    ((w.resume c inbox).run E now asked).fate = .crashed := by
  show (collect ..).fate = _
  unfold collect resume
  dsimp only [Turn.after_fate]
  rw [course]
  rfl

end Turns

/-- A worker that has closed its collection does not collect again. -/
theorem not_collecting_finalize {c' : Collection ρ} (w : Worker ρ) (now : Nat) (asked : σ)
    (s : TaskState ρ) : (w.finalize E now asked s).fate ≠ .waiting (.collecting c') := by
  unfold finalize
  cases s.winningNonSigners? with
  | none => exact nofun
  | some nonSigners =>
    unfold ask
    dsimp only
    split
    next =>
      unfold conclude
      dsimp only [Turn.after_fate]
      split
      next => exact nofun
      next => exact nofun
      next indices _ => cases s.result? indices <;> exact nofun
    next => exact nofun

/-- A turn that leaves the collection going has polled no submission that ends it. -/
theorem course_of_resume {inbox : List (Submission ρ)} {c' : Collection ρ} (w : Worker ρ) (asked : σ)
    (going : ((w.resume c inbox).run E now asked).fate = .waiting (.collecting c')) :
    (c.poll E.judge now share inbox).1.course = .collecting c' := by
  cases course : (c.poll E.judge now share inbox).1.course with
  | collecting c'' =>
    obtain ⟨fate, -⟩ := resume_collecting w asked course
    rw [fate] at going
    cases going
    rfl
  | closed s =>
    obtain ⟨v, -, fate, -⟩ := resume_closed w asked course
    exact absurd (fate.symm.trans going) (not_collecting_finalize v now asked s)
  | expired =>
    obtain ⟨fate, -⟩ := resume_expired w asked course
    rw [fate] at going
    cases going
  | crashed =>
    have fate := resume_crashed w asked course
    rw [fate] at going
    cases going

section Late

variable (E) (registry) (w) (timeline : List (Nat × Submission ρ))

/-! ### Deadlines -/

/-- A turn that begins when a deadline has been reached takes nothing from the inbox and ends the
collection. -/
theorem resume_late (late : c.deadline ≤ now) (inbox : List (Submission ρ)) (asked : σ) :
    ((w.resume c inbox).run E now asked).unread = inbox ∧
    ∀ c', ((w.resume c inbox).run E now asked).fate ≠ .waiting (.collecting c') := by
  obtain ⟨p, overdue⟩ := Collection.exists_overdue late
  have polled := Collection.poll_overdue (J := E.judge) overdue 127 inbox
  refine ⟨by rw [unread_resume, share, polled], fun c' => ?_⟩
  rcases Collection.overdue_cases overdue with ⟨-, -, rfl⟩ | ⟨-, -, rfl⟩ | ⟨-, -, rfl⟩
  · obtain ⟨v, -, fate, -⟩ := resume_closed w asked (congrArg (·.1.course) polled)
    rw [fate]
    exact not_collecting_finalize v now asked c.state
  · rw [(resume_expired w asked (congrArg (·.1.course) polled)).1]
    exact nofun
  · obtain ⟨v, -, fate, -⟩ := resume_closed w asked (congrArg (·.1.course) polled)
    rw [fate]
    exact not_collecting_finalize v now asked c.state

/-- The turn that is taken when a deadline has been reached is the last one of the collection. -/
theorem paced_late (late : ∀ e ∈ timeline.head?, c.deadline ≤ e.1) : ∃ inbox,
    w.paced E registry c timeline =
      w.leave E registry [] c.deadline ((w.resume c inbox).run E c.deadline (registry c.deadline)) := by
  cases timeline with
  | nil => exact ⟨[], rfl⟩
  | cons e rest =>
    obtain ⟨now, x⟩ := e
    have reached : c.deadline ≤ now := late _ rfl
    unfold paced
    by_cases past : c.deadline < now
    · rw [if_pos past]
      exact ⟨[], rfl⟩
    -- A submission that is ready at the deadline itself is in the inbox when the turn begins.
    · rw [if_neg past]
      obtain rfl : c.deadline = now := Nat.le_antisymm reached (Nat.le_of_not_lt past)
      obtain ⟨unread, ending⟩ := resume_late E w reached [x] (registry c.deadline)
      refine ⟨[x], ?_⟩
      dsimp only
      rw [unread]
      split
      next c' going => exact absurd going (ending c')
      next => rfl

/-- A collection with a winner whose deadline comes before the next submission is concluded then. -/
theorem concluded_late (steady : E.Steady) (sound : c.Sound E.judge w.parameters)
    (won : c.state.hasWinner = true) (late : ∀ e ∈ timeline.head?, c.deadline ≤ e.1) :
    (w.paced E registry c timeline).Concluded E registry c.state ∧
    (w.paced E registry c timeline).stopped = c.deadline ∧ (w.paced E registry c timeline).taken = [] := by
  obtain ⟨inbox, living⟩ := paced_late E registry w timeline late
  obtain ⟨p, overdue⟩ := Collection.exists_overdue (Nat.le_refl c.deadline)
  have course := Collection.course_of_overdue sound overdue
  rw [if_pos won,
    ← congrArg (·.1.course) (Collection.poll_overdue (J := E.judge) overdue 127 inbox)] at course
  obtain ⟨v, parameters, fate, same⟩ := resume_closed w (registry c.deadline) course
  rw [living]
  exact concluded_leave steady parameters sound.reached won _ fate same

/-- A collection without a winner whose deadline comes before the next submission expires then. -/
theorem expired_late (sound : c.Sound E.judge w.parameters) (lost : c.state.hasWinner = false)
    (late : ∀ e ∈ timeline.head?, c.deadline ≤ e.1) :
    (w.paced E registry c timeline).Expired registry w.task ∧
    (w.paced E registry c timeline).stopped = c.deadline ∧ (w.paced E registry c timeline).taken = [] := by
  obtain ⟨inbox, living⟩ := paced_late E registry w timeline late
  obtain ⟨p, overdue⟩ := Collection.exists_overdue (Nat.le_refl c.deadline)
  have course := Collection.course_of_overdue sound overdue
  rw [if_neg (Bool.eq_false_iff.1 lost),
    ← congrArg (·.1.course) (Collection.poll_overdue (J := E.judge) overdue 127 inbox)] at course
  obtain ⟨fate, same⟩ := resume_expired w (registry c.deadline) course
  rw [living, leave_of_finished _ fate]
  exact ⟨⟨nofun, rfl, same, fate⟩, rfl, rfl⟩

end Late

section Living

variable (registry) (w) (rest : List (Nat × Submission ρ)) {x : Submission ρ}

/-! ### Submissions one after the other

The induction is on the submissions that are to come. Each turn takes one, or the deadline that comes before
it. -/

/-- A submission that keeps the collection going is taken, and the life goes on. -/
theorem paced_cons_going (early : now < c.deadline) {c' : Collection ρ}
    (going : (c.receive E.judge now x).course = .collecting c') :
    w.paced E registry c ((now, x) :: rest) =
      (w.paced E registry c' rest).precede [(now, x)]
        (now, (w.resume c [x]).run E now (registry now)) := by
  have polled := Collection.poll_early (J := E.judge) early 126 x
  obtain ⟨fate, -⟩ := resume_collecting w (registry now) ((congrArg (·.1.course) polled).trans going)
  rw [paced, if_neg (Nat.not_lt_of_gt early)]
  dsimp only
  rw [fate, unread_resume, share, polled]
  rfl

/-- A submission that ends the collection is the last that is taken. -/
theorem paced_cons_over (early : now < c.deadline)
    (ceased : ∀ c', (c.receive E.judge now x).course ≠ .collecting c') :
    w.paced E registry c ((now, x) :: rest) =
      w.leave E registry [(now, x)] now ((w.resume c [x]).run E now (registry now)) := by
  have polled := Collection.poll_early (J := E.judge) early 126 x
  rw [paced, if_neg (Nat.not_lt_of_gt early)]
  dsimp only
  rw [unread_resume, share, polled]
  split
  next c' going =>
    refine absurd ?_ (ceased c')
    rw [← course_of_resume w (registry now) going, share, polled]
  next => rfl

theorem paced_going (early : now < c.deadline) {c' : Collection ρ}
    (going : (c.receive E.judge now x).course = .collecting c') : ∃ turn : Turn ρ σ,
      turn.registry = registry now ∧
      w.paced E registry c ((now, x) :: rest) =
        (w.paced E registry c' rest).precede [(now, x)] (now, turn) := by
  have polled := Collection.poll_early (J := E.judge) early 126 x
  obtain ⟨-, same⟩ := resume_collecting w (registry now) ((congrArg (·.1.course) polled).trans going)
  exact ⟨_, same, paced_cons_going registry w rest early going⟩

/-- A submission is taken and leaves the window as it is, if it does not meet the thresholds or the
window is open already. -/
theorem paced_step (steady : E.Steady) (sound : c.Sound E.judge w.parameters) (early : now < c.deadline)
    (either : c.state.meets E.judge x = false ∨ c.windowEnd.isSome = true) :
    Collection.Sound E.judge w.parameters { c with state := c.state.step E.judge x } ∧
    ∃ turn : Turn ρ σ, turn.registry = registry now ∧
      w.paced E registry c ((now, x) :: rest) =
        (w.paced E registry { c with state := c.state.step E.judge x } rest).precede [(now, x)]
          (now, turn) := by
  have going := Collection.course_going steady.judge c now x either
  have next := Collection.sound_receive sound now x
  rw [going] at next
  exact ⟨next, paced_going registry w rest early going⟩

/-- A submission that closes the collection is the last that is taken. -/
theorem paced_closing (steady : E.Steady) (early : now < c.deadline)
    (closing : (c.receive E.judge now x).course = .closed s) (reached : s.Reached E.judge w.parameters)
    (won : s.hasWinner = true) :
    (w.paced E registry c ((now, x) :: rest)).Concluded E registry s ∧
    (w.paced E registry c ((now, x) :: rest)).stopped = now ∧
    (w.paced E registry c ((now, x) :: rest)).taken = [(now, x)] := by
  have polled := Collection.poll_early (J := E.judge) early 126 x
  obtain ⟨v, parameters, fate, same⟩ :=
    resume_closed w (registry now) ((congrArg (·.1.course) polled).trans closing)
  have ceased : ∀ c', (c.receive E.judge now x).course ≠ .collecting c' := by
    rw [closing]
    exact nofun
  rw [paced_cons_over registry w rest early ceased]
  exact concluded_leave steady parameters reached won _ fate same

/-- While the window is open, everything is taken that comes before its end and before the expiry, and
then the collection is concluded. -/
theorem paced_open (steady : E.Steady) (timeline : List (Nat × Submission ρ)) :
    ∀ {c : Collection ρ}, c.Sound E.judge w.parameters → c.windowEnd.isSome = true →
      (w.paced E registry c timeline).taken = timeline.takeWhile (·.1 < c.deadline) ∧
      (w.paced E registry c timeline).stopped = c.deadline ∧
      (w.paced E registry c timeline).Concluded E registry
        (c.state.after E.judge ((w.paced E registry c timeline).taken.map (·.2))) := by
  induction timeline with
  | nil =>
    intro c sound window
    obtain ⟨concluded, stopped, taken⟩ :=
      concluded_late E registry w [] steady sound (sound.window.symm.trans window) nofun
    rw [taken]
    exact ⟨rfl, stopped, concluded⟩
  | cons e rest ih =>
    intro c sound window
    obtain ⟨now, x⟩ := e
    by_cases early : now < c.deadline
    · obtain ⟨next, turn, same, living⟩ :=
        paced_step registry w rest (x := x) steady sound early (.inr window)
      -- The submission leaves the end of the window as it is, and with it the deadline.
      obtain ⟨taken, stopped, concluded⟩ := ih next window
      rw [living]
      refine ⟨?_, stopped, concluded.precede same _⟩
      show (now, x) :: (w.paced E registry _ rest).taken = _
      rw [List.takeWhile_cons_of_pos (by simpa using early), taken]
      rfl
    · have late : ∀ e ∈ ((now, x) :: rest).head?, c.deadline ≤ e.1 := by simpa using early
      obtain ⟨concluded, stopped, taken⟩ :=
        concluded_late E registry w _ steady sound (sound.window.symm.trans window) late
      rw [taken]
      refine ⟨?_, stopped, concluded⟩
      rw [List.takeWhile_cons_of_neg (by simpa using early)]

/-- Where no submission before the expiry meets the thresholds, all of them are taken and the task
expires. -/
theorem paced_expires (steady : E.Steady) (timeline : List (Nat × Submission ρ)) :
    ∀ {c : Collection ρ}, c.Sound E.judge w.parameters → c.windowEnd = none →
      c.state.firstMet? E.judge (timeline.takeWhile (·.1 < c.expiry)) = none →
      (w.paced E registry c timeline).taken = timeline.takeWhile (·.1 < c.expiry) ∧
      (w.paced E registry c timeline).stopped = c.expiry ∧
      (w.paced E registry c timeline).Expired registry w.task := by
  induction timeline with
  | nil =>
    intro c sound window unmet
    have lost : c.state.hasWinner = false := by rw [← sound.window, window, Option.isSome_none]
    obtain ⟨expired, stopped, taken⟩ :=
      expired_late E registry w [] sound lost nofun
    rw [c.deadline_of_closed window] at stopped
    rw [taken]
    exact ⟨rfl, stopped, expired⟩
  | cons e rest ih =>
    intro c sound window unmet
    obtain ⟨now, x⟩ := e
    have lost : c.state.hasWinner = false := by rw [← sound.window, window, Option.isSome_none]
    by_cases early : now < c.expiry
    · rw [List.takeWhile_cons_of_pos (by simpa using early), TaskState.firstMet?] at unmet
      split at unmet
      next => cases unmet
      next fails =>
        obtain ⟨next, turn, same, living⟩ := paced_step registry w rest steady sound
          (by rwa [c.deadline_of_closed window]) (.inl (Bool.eq_false_iff.2 fails))
        obtain ⟨taken, stopped, expired⟩ := ih next window unmet
        rw [living]
        refine ⟨?_, stopped, expired.precede same _⟩
        show (now, x) :: (w.paced E registry _ rest).taken = _
        rw [List.takeWhile_cons_of_pos (by simpa using early), taken]
    · have late : ∀ e ∈ ((now, x) :: rest).head?, c.deadline ≤ e.1 := by
        simpa [c.deadline_of_closed window] using early
      obtain ⟨expired, stopped, taken⟩ := expired_late E registry w _ sound lost late
      rw [c.deadline_of_closed window] at stopped
      rw [taken]
      refine ⟨?_, stopped, expired⟩
      rw [List.takeWhile_cons_of_neg (by simpa using early)]

/-- Without a window, the first submission that meets the thresholds is the last that is taken. -/
theorem paced_closes (steady : E.Steady) (shut : w.parameters.window = 0) {T : Nat}
    (timeline : List (Nat × Submission ρ)) :
    ∀ {c : Collection ρ}, c.Sound E.judge w.parameters → c.windowEnd = none →
      c.state.firstMet? E.judge (timeline.takeWhile (·.1 < c.expiry)) = some T →
      (∃ before x, (w.paced E registry c timeline).taken = before ++ [(T, x)] ∧
        c.state.firstMet? E.judge before = none) ∧
      (w.paced E registry c timeline).taken <+: timeline ∧
      (w.paced E registry c timeline).stopped = T ∧
      (w.paced E registry c timeline).Concluded E registry
        (c.state.after E.judge ((w.paced E registry c timeline).taken.map (·.2))) := by
  induction timeline with
  | nil =>
    intro c _ _ met
    cases met
  | cons e rest ih =>
    intro c sound window met
    obtain ⟨now, x⟩ := e
    by_cases early : now < c.expiry
    · have before : now < c.deadline := by rwa [c.deadline_of_closed window]
      rw [List.takeWhile_cons_of_pos (by simpa using early), TaskState.firstMet?] at met
      split at met
      -- Nothing is taken after this submission.
      next meets =>
        cases met
        have reached := sound.reached.step x
        have won : (c.state.step E.judge x).hasWinner = true := by
          rw [TaskState.hasWinner_step, meets, Bool.true_or]
        have closing : (c.receive E.judge T x).course = .closed (c.state.step E.judge x) := by
          rw [Collection.course_receive steady.judge, meets, window, Option.isNone_none, Bool.true_and,
            if_pos rfl, Collection.opened, reached.parameters, if_pos shut]
        obtain ⟨concluded, stopped, taken⟩ :=
          paced_closing registry w rest steady before closing reached won
        rw [taken]
        exact ⟨⟨[], x, rfl, rfl⟩, ⟨rest, rfl⟩, stopped, concluded⟩
      next fails =>
        obtain ⟨next, turn, same, living⟩ := paced_step registry w rest steady sound
          before (.inl (Bool.eq_false_iff.2 fails))
        obtain ⟨⟨earlier, y, taken, unmet⟩, within, stopped, concluded⟩ := ih next window met
        rw [living]
        refine ⟨⟨(now, x) :: earlier, y, congrArg ((now, x) :: ·) taken, ?_⟩, ?_, stopped,
          concluded.precede same _⟩
        · rw [TaskState.firstMet?, if_neg fails]
          exact unmet
        · exact List.cons_prefix_cons.2 ⟨rfl, within⟩
    · rw [List.takeWhile_cons_of_neg (by simpa using early)] at met
      cases met

/-- With a window, everything is taken that comes before the expiry and before the end of the window,
which is measured from the first submission that meets the thresholds. -/
theorem paced_window (steady : E.Steady) (window : 0 < w.parameters.window) {T : Nat}
    (expressible : (later? T w.parameters.window).isSome = true) (timeline : List (Nat × Submission ρ)) :
    ∀ {c : Collection ρ}, c.Sound E.judge w.parameters → c.windowEnd = none →
      timeline.Pairwise (·.1 ≤ ·.1) →
      c.state.firstMet? E.judge (timeline.takeWhile (·.1 < c.expiry)) = some T →
      (w.paced E registry c timeline).taken =
        timeline.takeWhile (·.1 < min c.expiry (T + w.parameters.window)) ∧
      (w.paced E registry c timeline).stopped = min c.expiry (T + w.parameters.window) ∧
      (w.paced E registry c timeline).Concluded E registry
        (c.state.after E.judge ((w.paced E registry c timeline).taken.map (·.2))) := by
  induction timeline with
  | nil =>
    intro c _ _ _ met
    cases met
  | cons e rest ih =>
    intro c sound closed sorted met
    obtain ⟨now, x⟩ := e
    obtain ⟨first, sorted⟩ := List.pairwise_cons.1 sorted
    by_cases early : now < c.expiry
    · have before : now < c.deadline := by rwa [c.deadline_of_closed closed]
      rw [List.takeWhile_cons_of_pos (by simpa using early), TaskState.firstMet?] at met
      split at met
      -- The window is opened by this submission, and `paced_open` has the rest.
      next meets =>
        cases met
        have opening : (c.receive E.judge T x).course = .collecting { c with
            state := c.state.step E.judge x
            windowEnd := some (T + w.parameters.window) } := by
          rw [Collection.course_receive steady.judge, meets, closed, Option.isNone_none, Bool.true_and,
            if_pos rfl, Collection.opened, (sound.reached.step x).parameters,
            if_neg (Nat.ne_of_gt window), later?_eq_some expressible]
        obtain ⟨turn, same, living⟩ :=
          paced_going registry w rest before opening
        have next := Collection.sound_receive sound T x
        rw [opening] at next
        obtain ⟨taken, stopped, concluded⟩ := paced_open registry w steady rest next rfl
        rw [living]
        refine ⟨?_, stopped, concluded.precede same _⟩
        show (T, x) :: (w.paced E registry _ rest).taken = _
        rw [List.takeWhile_cons_of_pos (by simp; omega), taken]
        rfl
      next fails =>
        obtain ⟨next, turn, same, living⟩ := paced_step registry w rest steady sound
          before (.inl (Bool.eq_false_iff.2 fails))
        obtain ⟨taken, stopped, concluded⟩ := ih next closed sorted met
        obtain ⟨y, member⟩ := TaskState.exists_of_firstMet? met
        -- The window will end later than this submission, which comes no later than its opening.
        have ordered : now ≤ T := first _ ((List.takeWhile_sublist _).subset member)
        rw [living]
        refine ⟨?_, stopped, concluded.precede same _⟩
        show (now, x) :: (w.paced E registry _ rest).taken = _
        rw [List.takeWhile_cons_of_pos (by simp; omega), taken]
    · rw [List.takeWhile_cons_of_neg (by simpa using early)] at met
      cases met

end Living

end Worker

/-- A result is given for the winner. -/
theorem TaskState.winner_of_result? {ρ : Type} {s : TaskState ρ} {indices : SignatureCheckIndices}
    {result : TaskResult ρ} (given : s.result? indices = some result) :
    s.winner = some (result.digest, result.response) := by
  unfold result? at given
  obtain ⟨⟨d, r⟩, won, given⟩ := Option.bind_eq_some_iff.1 given
  obtain ⟨g, -, given⟩ := Option.bind_eq_some_iff.1 given
  cases given
  exact won

/-- A life that is concluded after some submissions gives the response that met the thresholds last. -/
theorem Life.Concluded.latest {ρ σ : Type} {E : Setting ρ σ} {registry : Nat → σ} {t : TaskParameters}
    {n : Snapshot} {xs : List (Submission ρ)} {life : Life ρ σ}
    (concluded : life.Concluded E registry ((TaskState.start t n).after E.judge xs)) :
    ∃ a, latestMet ((TaskState.start t n).accepted E.judge xs) = some a ∧
      ∀ result, life.last.fate = .finished (.ok result) →
        result.digest = a.digest ∧ result.response = a.response := by
  obtain ⟨nonSigners, found, -, answer⟩ := concluded.answered
  have winner := (TaskState.prevails_after E.judge t n xs).winner
  have won : _ = ((TaskState.start t n).after E.judge xs).hasWinner :=
    TaskState.isSome_winningNonSigners?
  rw [found, Option.isSome_some, TaskState.hasWinner, winner, Option.isSome_map] at won
  obtain ⟨a, latest⟩ := Option.isSome_iff_exists.1 won.symm
  refine ⟨a, latest, fun result given => ?_⟩
  rcases answer with ⟨e, -, failing⟩ | ⟨indices, other, -, built, giving⟩
  · rw [failing] at given
    cases given
  · rw [giving] at given
    cases given
    have same := TaskState.winner_of_result? built
    rw [winner, latest, Option.map_some, Option.some_inj, Prod.mk.injEq] at same
    exact ⟨same.1.symm, same.2.symm⟩

end Attestation
