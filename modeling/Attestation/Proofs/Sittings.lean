/-
Module: Attestation.Proofs.Sittings
Purpose: What a worker does with a whole inbox at one instant. It takes as many turns as it needs, since
  each ends when the worker has had its share; together they take one submission after another, until the
  inbox is empty or the collection ends.
Main exports: Signal.isTaken, Turn.takes, Worker.sitting, Collection.poll_split_going,
  Collection.poll_split_over, Worker.sitting_eq, Worker.collect_cons_going, Worker.collect_cons_over,
  Worker.resolve_inbox
-/
import Attestation.Proofs.Timeline

namespace Attestation

def Signal.isTaken : Signal → Bool
  | .taken _ => true
  | _ => false

/-- How many submissions are taken from the inbox in the turn. -/
def Turn.takes {ρ σ : Type} (turn : Turn ρ σ) : Nat := turn.signals.countP Signal.isTaken

/-- The turn with other submissions left in the inbox. -/
def Turn.leaving {ρ σ : Type} (turn : Turn ρ σ) (unread : List (Submission ρ)) : Turn ρ σ :=
  { turn with unread := unread }

/-- The turns that a worker takes at one instant, as one turn. A worker that has had its share while
submissions wait takes another turn; the number bounds how many, and as each of them takes submissions,
there are no more than submissions. -/
def Worker.sitting {ρ σ : Type} (E : Setting ρ σ) (w : Worker ρ) (now : Nat) (registry : σ) :
    Nat → Turn ρ σ
  | 0 => w.run E now registry
  | more + 1 =>
    let turn := w.run E now registry
    match turn.fate with
    | .waiting phase =>
      if turn.isCutShort then
        ((w.rested turn phase).sitting E now turn.registry more).after turn.signals
      else turn
    | _ => turn

/-! ### A poll in parts -/

namespace Collection

variable {ρ : Type} {J : Judge ρ} {c c' : Collection ρ} {now : Nat}

theorem ceased_of_overdue {p : Progress ρ} (overdue : c.overdue? now = some p) (c' : Collection ρ) :
    p.course ≠ .collecting c' := by
  rcases overdue_cases overdue with ⟨-, -, rfl⟩ | ⟨-, -, rfl⟩ | ⟨-, -, rfl⟩ <;> exact nofun

/-- A share that is larger than the inbox sets no limit. -/
theorem poll_enough (inbox : List (Submission ρ)) : ∀ {c : Collection ρ} {m n : Nat}, inbox.length < m →
    inbox.length < n → c.poll J now m inbox = c.poll J now n inbox := by
  induction inbox with
  | nil =>
    intro c m n first second
    obtain ⟨m, rfl⟩ := Nat.exists_eq_add_one.2 first
    obtain ⟨n, rfl⟩ := Nat.exists_eq_add_one.2 second
    cases early : c.overdue? now with
    | some p => rw [poll_overdue early, poll_overdue early]
    | none => rw [poll_nil early, poll_nil early]
  | cons x unread ih =>
    intro c m n first second
    obtain ⟨m, rfl⟩ := Nat.exists_eq_add_one.2 (Nat.zero_lt_of_lt first)
    obtain ⟨n, rfl⟩ := Nat.exists_eq_add_one.2 (Nat.zero_lt_of_lt second)
    cases early : c.overdue? now with
    | some p => rw [poll_overdue early, poll_overdue early]
    | none =>
      by_cases going : ∃ c', (c.take J now x).course = .collecting c'
      · obtain ⟨c', going⟩ := going
        rw [poll_cons_going early going, poll_cons_going early going,
          ih (Nat.lt_of_succ_lt_succ first) (Nat.lt_of_succ_lt_succ second)]
      · rw [poll_cons_over early (not_exists.1 going), poll_cons_over early (not_exists.1 going)]

/-- What a poll leaves of the inbox while the collection goes on is what is beyond the share. -/
theorem unread_of_going (share : Nat) : ∀ {c : Collection ρ} {inbox : List (Submission ρ)},
    (c.poll J now share inbox).1.course = .collecting c' →
      (c.poll J now share inbox).2 = inbox.drop share := by
  induction share with
  | zero => exact fun _ => rfl
  | succ share ih =>
    intro c inbox going
    cases early : c.overdue? now with
    | some p =>
      rw [poll_overdue early] at going
      exact absurd going (ceased_of_overdue early c')
    | none =>
      cases inbox with
      | nil => rw [poll_nil early, List.drop_nil]
      | cons x unread =>
        by_cases next : ∃ c', (c.take J now x).course = .collecting c'
        · obtain ⟨c'', next⟩ := next
          rw [poll_cons_going early next] at going ⊢
          exact ih going
        · rw [poll_cons_over early (not_exists.1 next)] at going
          exact absurd ⟨_, going⟩ next

/-- A poll does not make a deadline pass. -/
theorem early_of_poll (share : Nat) : ∀ {c : Collection ρ} {inbox : List (Submission ρ)},
    now < c.deadline → (c.poll J now share inbox).1.course = .collecting c' → now < c'.deadline := by
  induction share with
  | zero =>
    intro c inbox early going
    cases going
    exact early
  | succ share ih =>
    intro c inbox early going
    have ahead := overdue_eq_none_iff.2 early
    cases inbox with
    | nil =>
      rw [poll_nil ahead] at going
      cases going
      exact early
    | cons x unread =>
      by_cases next : ∃ c', (c.take J now x).course = .collecting c'
      · obtain ⟨c'', next⟩ := next
        rw [poll_cons_going ahead next] at going
        exact ih (early_of_receive early next) going
      · rw [poll_cons_over ahead (not_exists.1 next)] at going
        exact absurd ⟨_, going⟩ next

theorem early_of_going {share : Nat} {inbox : List (Submission ρ)}
    (going : (c.poll J now (share + 1) inbox).1.course = .collecting c') : now < c'.deadline := by
  cases early : c.overdue? now with
  | some p =>
    rw [poll_overdue early] at going
    exact absurd going (ceased_of_overdue early c')
  | none => exact early_of_poll _ (overdue_eq_none_iff.1 early) going

/-- Where a poll ends the collection, no larger share changes anything. -/
theorem poll_split_over (m : Nat) : ∀ {c : Collection ρ} {inbox : List (Submission ρ)} {n : Nat},
    inbox.length < n → (∀ c', (c.poll J now m inbox).1.course ≠ .collecting c') →
      c.poll J now n inbox = c.poll J now m inbox := by
  induction m with
  | zero => exact fun _ ceased => absurd rfl (ceased _)
  | succ m ih =>
    intro c inbox n larger ceased
    obtain ⟨n, rfl⟩ := Nat.exists_eq_add_one.2 (Nat.zero_lt_of_lt larger)
    cases early : c.overdue? now with
    | some p => rw [poll_overdue early, poll_overdue early]
    | none =>
      cases inbox with
      | nil => rw [poll_nil early, poll_nil early]
      | cons x unread =>
        by_cases next : ∃ c', (c.take J now x).course = .collecting c'
        · obtain ⟨c', next⟩ := next
          rw [poll_cons_going early next] at ceased
          rw [poll_cons_going early next, poll_cons_going early next,
            ih (Nat.lt_of_succ_lt_succ larger) ceased]
        · rw [poll_cons_over early (not_exists.1 next), poll_cons_over early (not_exists.1 next)]

/-- Where a poll leaves the collection going, a larger share goes on with what was not taken. -/
theorem poll_split_going (m : Nat) : ∀ {c : Collection ρ} {inbox : List (Submission ρ)} {n : Nat},
    inbox.length < n → (c.poll J now m inbox).1.course = .collecting c' →
      let unread := (c.poll J now m inbox).2
      let rest := c'.poll J now (unread.length + 1) unread
      c.poll J now n inbox =
        (⟨(c.poll J now m inbox).1.signals ++ rest.1.signals, rest.1.course⟩, rest.2) := by
  induction m with
  | zero =>
    intro c inbox n larger going
    cases going
    exact poll_enough inbox larger (Nat.lt_succ_self _)
  | succ m ih =>
    intro c inbox n larger going
    obtain ⟨n, rfl⟩ := Nat.exists_eq_add_one.2 (Nat.zero_lt_of_lt larger)
    cases early : c.overdue? now with
    | some p =>
      rw [poll_overdue early] at going
      exact absurd going (ceased_of_overdue early c')
    | none =>
      cases inbox with
      | nil =>
        rw [poll_nil early] at going
        cases going
        rw [poll_nil early, poll_nil early]
        dsimp only
        rw [List.length_nil, poll_nil early]
        rfl
      | cons x unread =>
        by_cases next : ∃ c', (c.take J now x).course = .collecting c'
        · obtain ⟨c'', next⟩ := next
          rw [poll_cons_going early next] at going
          rw [poll_cons_going early next, poll_cons_going early next,
            ih (Nat.lt_of_succ_lt_succ larger) going]
          dsimp only
          rw [List.append_assoc]
        · rw [poll_cons_over early (not_exists.1 next)] at going
          exact absurd ⟨_, going⟩ next

/-- Taking one submission is signalled once. -/
theorem countP_take (c : Collection ρ) (now : Nat) (x : Submission ρ) :
    (c.take J now x).signals.countP Signal.isTaken = 1 := by
  have none : (c.receive J now x).signals.countP Signal.isTaken = 0 := by
    have receipt := receipt_receive (J := J) c now x
    generalize c.receive J now x = p at receipt
    have quiet : ∀ signals : List Signal, (∀ signal ∈ signals, signal.IsQuiet) →
        signals.countP Signal.isTaken = 0 := by
      intro signals still
      rw [List.countP_eq_zero]
      intro signal member taken
      have calm := still signal member
      cases signal with
      | taken call => exact calm
      | _ => cases taken
    cases receipt with
    | crashed => rfl
    | rejected signals _ still => rw [List.countP_append, quiet signals still]; rfl
    | accepted signals _ still => rw [List.countP_append, quiet signals still]; rfl
    | overrun signals _ _ _ _ _ still => exact quiet signals still
  show (Signal.taken x.call :: (c.receive J now x).signals).countP Signal.isTaken = 1
  rw [List.countP_cons, none]
  rfl

end Collection

/-! ### Turns at one instant -/

namespace Worker

variable {ρ σ : Type} {E : Setting ρ σ} {w : Worker ρ} {c c' : Collection ρ} {now : Nat} {asked : σ}

theorem conclude_inbox (w : Worker ρ) (asked : σ) (s : TaskState ρ) (ids : List OperatorId)
    (inbox : List (Submission ρ)) (phase : Phase ρ) :
    { w with inbox := inbox, phase := phase }.conclude E asked s ids =
      (w.conclude E asked s ids).leaving inbox := by
  unfold conclude
  dsimp only
  cases (E.provider.indices asked w.parameters.block w.parameters.quorums ids).answer with
  | error e => cases e <;> rfl
  | ok indices =>
    dsimp only
    cases s.result? indices <;> rfl

/-- How it goes on does not depend on what is in the inbox. -/
theorem resolve_inbox (w : Worker ρ) (asked : σ) (p : Progress ρ) (inbox : List (Submission ρ))
    (phase : Phase ρ) : { w with inbox := inbox, phase := phase }.resolve E now asked p =
      (w.resolve E now asked p).leaving inbox := by
  unfold resolve
  dsimp only
  cases p.course with
  | closed s =>
    dsimp only
    unfold finalize ask
    cases s.winningNonSigners? with
    | none => rfl
    | some nonSigners =>
      dsimp only
      split
      next =>
        rw [conclude_inbox]
        rfl
      next => rfl
  | _ => rfl

theorem collect_resume (share : Nat) (inbox : List (Submission ρ)) :
    (w.resume c inbox).collect E now asked share c =
      (w.resolve E now asked (c.poll E.judge now share inbox).1).leaving
        (c.poll E.judge now share inbox).2 := by
  rw [← resolve_inbox w asked _ _ (.collecting c)]
  rfl

theorem resolve_going {p : Progress ρ} (going : p.course = .collecting c') :
    w.resolve E now asked p = ⟨asked, p.signals, w.inbox, .waiting (.collecting c')⟩ := by
  unfold resolve
  rw [going]
  dsimp only [stop, Turn.after]
  rw [List.append_nil]

theorem fate_resolve_ne {p : Progress ρ} (ceased : ∀ c', p.course ≠ .collecting c') (c' : Collection ρ) :
    (w.resolve E now asked p).fate ≠ .waiting (.collecting c') := by
  unfold resolve
  dsimp only [Turn.after_fate]
  cases course : p.course with
  | collecting c' => exact absurd course (ceased c')
  | closed s => exact not_collecting_finalize w now asked s
  | _ => exact nofun

theorem not_cutShort_resolve {p : Progress ρ} {unread : List (Submission ρ)}
    (ceased : ∀ c', p.course ≠ .collecting c') :
    ((w.resolve E now asked p).leaving unread).isCutShort = false := by
  unfold Turn.isCutShort
  split
  next c' going => exact absurd going (fate_resolve_ne ceased c')
  next => rfl

/-- A turn that leaves the collection going ends when the inbox is empty or the share is used up. -/
theorem run_going {inbox : List (Submission ρ)} (w : Worker ρ) (asked : σ)
    (going : (c.poll E.judge now share inbox).1.course = .collecting c') :
    (w.resume c inbox).run E now asked =
      ⟨asked, (c.poll E.judge now share inbox).1.signals, (c.poll E.judge now share inbox).2,
        .waiting (.collecting c')⟩ := by
  show (w.resume c inbox).collect E now asked share c = _
  rw [collect_resume, resolve_going going]
  rfl

/-- So does the turn for a single submission. -/
theorem run_alone {x : Submission ρ} (w : Worker ρ) (asked : σ) (early : now < c.deadline)
    (going : (c.receive E.judge now x).course = .collecting c') : (w.resume c [x]).run E now asked =
      ⟨asked, (c.take E.judge now x).signals, [], .waiting (.collecting c')⟩ := by
  have alone := Collection.poll_early (J := E.judge) early 126 x
  rw [run_going w asked ((congrArg (·.1.course) alone).trans going), share, alone]
  rfl

/-- A worker that has had its share while submissions wait takes another turn. -/
theorem sitting_cutShort {phase : Phase ρ} {more : Nat} (fate : (w.run E now asked).fate = .waiting phase)
    (cut : (w.run E now asked).isCutShort = true) : w.sitting E now asked (more + 1) =
      ((w.rested (w.run E now asked) phase).sitting E now (w.run E now asked).registry more).after
        (w.run E now asked).signals := by
  rw [sitting, fate]
  exact if_pos cut

theorem sitting_whole {more : Nat} (whole : (w.run E now asked).isCutShort = false) :
    w.sitting E now asked (more + 1) = w.run E now asked := by
  rw [sitting]
  split
  · exact if_neg (by rw [whole]; exact Bool.false_ne_true)
  · rfl

/-- All the turns at one instant, as one: the inbox is gone through as if the worker had no share. -/
theorem sitting_eq (more : Nat) : ∀ {c : Collection ρ} {inbox : List (Submission ρ)},
    inbox.length ≤ more → (w.resume c inbox).sitting E now asked more =
      (w.resume c inbox).collect E now asked (inbox.length + 1) c := by
  induction more with
  | zero =>
    intro c inbox bounded
    obtain rfl := List.eq_nil_of_length_eq_zero (Nat.le_zero.1 bounded)
    show (w.resume c []).collect E now asked share c = _
    have same : c.poll E.judge now share [] = c.poll E.judge now 1 [] :=
      Collection.poll_enough [] (Nat.zero_lt_succ 127) Nat.zero_lt_one
    rw [collect_resume, collect_resume, same]
    rfl
  | succ more ih =>
    intro c inbox bounded
    by_cases going : ∃ c', (c.poll E.judge now share inbox).1.course = .collecting c'
    · obtain ⟨c', going⟩ := going
      have turn := run_going w asked going
      have whole := Collection.poll_split_going share (Nat.lt_succ_self inbox.length) going
      have rest := Collection.unread_of_going share going
      rw [collect_resume, whole]
      dsimp only
      rw [resolve_append]
      generalize (c.poll E.judge now share inbox).2 = unread at turn rest
      cases unread with
      | nil =>
        have early : now < c'.deadline := Collection.early_of_going going
        rw [sitting_whole (by rw [turn]; rfl), turn, List.length_nil,
          Collection.poll_nil (Collection.overdue_eq_none_iff.2 early), resolve_going rfl]
        dsimp only [Turn.after, Turn.leaving]
        rw [List.append_nil]
      | cons y later =>
        have fewer : (y :: later).length ≤ more := by
          rw [rest, List.length_drop, share]
          omega
        rw [sitting_cutShort (by rw [turn]) (by rw [turn]; rfl), turn]
        show (Worker.sitting E (w.resume c' (y :: later)) now asked more).after _ = _
        rw [ih fewer, collect_resume]
        rfl
    · have ceased := not_exists.1 going
      have turn : (w.resume c inbox).run E now asked = _ := collect_resume share inbox
      rw [sitting_whole (by rw [turn]; exact not_cutShort_resolve ceased), turn, collect_resume,
        Collection.poll_split_over share (Nat.lt_succ_self inbox.length) ceased]

section Inbox

variable {x : Submission ρ} {inbox : List (Submission ρ)}

theorem collect_overdue {p : Progress ρ} (overdue : c.overdue? now = some p) (share : Nat) :
    (w.resume c inbox).collect E now asked (share + 1) c =
      (w.resolve E now asked p).leaving inbox := by
  rw [collect_resume, Collection.poll_overdue overdue]

theorem collect_nil (early : c.overdue? now = none) (share : Nat) :
    (w.resume c []).collect E now asked (share + 1) c =
      ⟨asked, [], [], .waiting (.collecting c)⟩ := by
  rw [collect_resume, Collection.poll_nil early, resolve_going rfl]
  rfl

/-- A submission that leaves the collection going is followed by the others. -/
theorem collect_cons_going (early : c.overdue? now = none)
    (going : (c.take E.judge now x).course = .collecting c') (share : Nat) :
    (w.resume c (x :: inbox)).collect E now asked (share + 1) c =
      ((w.resume c' inbox).collect E now asked share c').after (c.take E.judge now x).signals := by
  rw [collect_resume, Collection.poll_cons_going early going, resolve_append, collect_resume]
  rfl

/-- A submission that ends the collection is the last that is taken. -/
theorem collect_cons_over (early : c.overdue? now = none)
    (ceased : ∀ c', (c.take E.judge now x).course ≠ .collecting c') (share : Nat) :
    (w.resume c (x :: inbox)).collect E now asked (share + 1) c =
      (w.resolve E now asked (c.take E.judge now x)).leaving inbox := by
  rw [collect_resume, Collection.poll_cons_over early ceased]

end Inbox

end Worker

end Attestation
