/-
Module: Attestation.Proofs.Winner
Purpose: The winner of a task. It is the digest of the latest accepted submission that met the
  thresholds, and its aggregate meets them in every later state: stake is only added, so what was found
  when the winner was set needs no second look when the result is built.
Main exports: latestMet, Prevails, TaskState.prevails_after, TaskState.hasWinner_iff,
  TaskState.winner_stands, TaskState.hasWinner_after, TaskState.isSome_winningNonSigners?,
  TaskState.isSome_result?
-/
import Attestation.Proofs.Acceptance

namespace Attestation

/-- The latest accepted submission whose digest met the thresholds with it. -/
def latestMet {ρ : Type} (accepted : List (Acceptance ρ)) : Option (Acceptance ρ) :=
  (accepted.filter (·.thresholdsMet)).getLast?

section LatestMet

variable {ρ : Type} {accepted : List (Acceptance ρ)} {a : Acceptance ρ}

theorem latestMet_snoc (accepted : List (Acceptance ρ)) (a : Acceptance ρ) :
    latestMet (accepted ++ [a]) = if a.thresholdsMet = true then some a else latestMet accepted := by
  unfold latestMet
  rw [List.filter_append]
  cases met : a.thresholdsMet <;> simp [met]

theorem mem_of_latestMet (latest : latestMet accepted = some a) :
    a ∈ accepted ∧ a.thresholdsMet = true :=
  List.mem_filter.1 (List.mem_of_getLast? latest)

theorem isSome_latestMet :
    (latestMet accepted).isSome = true ↔ ∃ a ∈ accepted, a.thresholdsMet = true := by
  rw [latestMet, List.getLast?_isSome, Ne, List.filter_eq_nil_iff]
  simp

end LatestMet

namespace TaskState

variable {ρ : Type} {J : Judge ρ}

/-- The aggregate that a merge leaves has at least the stake of the one before. -/
theorem merge_grows {s : TaskState ρ} {d : Digest} {operator : OperatorState} {key : G2PublicKey}
    {signature : Signature} {old merged : Aggregate} (found : s.aggregates.get? d = some old)
    (done : s.merge J d operator key signature = .ok merged) : old.stakes.AtMost merged.stakes := by
  rcases merge_eq_ok_iff.1 done with ⟨none, -⟩ | ⟨g, some, added⟩
  · rw [found] at none
    cases none
  · rw [found] at some
    cases some
    obtain ⟨signatures, keys, -, -, rfl⟩ := Aggregate.addSigner_eq_ok_iff.1 added
    exact Stakes.atMost_add _ _

end TaskState

/-- What holds of the winner beside the list of what a task has accepted: every digest that has ever met
the thresholds still does. -/
structure Prevails {ρ : Type} (J : Judge ρ) (t : TaskParameters) (n : Snapshot)
    (accepted : List (Acceptance ρ)) (s : TaskState ρ) : Prop where
  parameters : s.parameters = t
  snapshot : s.snapshot = n
  winner : s.winner = (latestMet accepted).map fun a => (a.digest, a.response)
  hashed : ∀ a ∈ accepted, J.hash a.response = .ok a.digest
  standing : ∀ a ∈ accepted, a.thresholdsMet = true → ∃ g, s.aggregates.get? a.digest = some g ∧
    meetsThresholds g.stakes n.totals t.thresholds = true

namespace Prevails

variable {ρ : Type} {J : Judge ρ} {t : TaskParameters} {n : Snapshot} {accepted : List (Acceptance ρ)}
  {s next : TaskState ρ} {x : Submission ρ} {report : Accepted}

theorem start : Prevails J t n [] (.start t n) where
  parameters := rfl
  snapshot := rfl
  winner := rfl
  hashed := by simp
  standing := by simp

/-- An accepted submission sets the winner if it meets the thresholds, and unseats no digest. -/
theorem step (prevails : Prevails J t n accepted s)
    (decided : s.submit J x.operator x.response x.signature = .ok (report, next)) :
    Prevails J t n (accepted ++ [⟨x, report⟩]) next := by
  obtain ⟨operator, key, aggregate, -, hashed, -, -, -, merged, met, rfl⟩ :=
    TaskState.submit_eq_ok_iff.1 decided
  rw [prevails.parameters, prevails.snapshot] at met
  refine ⟨prevails.parameters, prevails.snapshot, ?_, fun a member => ?_, fun a member crossed => ?_⟩
  · rw [latestMet_snoc]
    cases crossed : report.thresholdsMet with
    | true => simp
    | false => simpa using prevails.winner
  · rcases List.mem_append.1 member with earlier | last
    · exact prevails.hashed a earlier
    · rw [List.mem_singleton.1 last]
      exact hashed
  · show ∃ g, (s.aggregates.insert report.digest aggregate).get? a.digest = some g ∧ _
    rw [SortedMap.get?_insert]
    rcases List.mem_append.1 member with earlier | last
    -- If its digest is this one, its aggregate was replaced, but by one with at least the stake.
    · obtain ⟨g, found, enough⟩ := prevails.standing a earlier crossed
      split
      next same =>
        rw [same] at found
        exact ⟨aggregate, rfl, meetsThresholds_mono (TaskState.merge_grows found merged) enough⟩
      next => exact ⟨g, found, enough⟩
    · rw [List.mem_singleton.1 last] at crossed ⊢
      exact ⟨aggregate, if_pos rfl, met.symm.trans crossed⟩

end Prevails

namespace TaskState

variable {ρ : Type} (J : Judge ρ) (t : TaskParameters) (n : Snapshot) (xs : List (Submission ρ))

/-- The invariant of the winner holds after every run. -/
theorem prevails_after :
    Prevails J t n ((start t n).accepted J xs) ((start t n).after J xs) :=
  run_induction Prevails.start (fun _ _ _ _ _ prevails decided => prevails.step decided) xs

variable {J t n xs}

/-- There is a winner exactly if some accepted submission has met the thresholds. -/
theorem hasWinner_iff : ((start t n).after J xs).hasWinner = true ↔
    ∃ a ∈ (start t n).accepted J xs, a.thresholdsMet = true := by
  rw [hasWinner, (prevails_after J t n xs).winner, Option.isSome_map, isSome_latestMet]

/-- The winner's response has the winning digest, whose aggregate meets the thresholds now. -/
theorem winner_stands {d : Digest} {r : ρ} (won : ((start t n).after J xs).winner = some (d, r)) :
    J.hash r = .ok d ∧ ∃ g, ((start t n).after J xs).aggregates.get? d = some g ∧
      meetsThresholds g.stakes n.totals t.thresholds = true := by
  have prevails := prevails_after J t n xs
  rw [prevails.winner, Option.map_eq_some_iff] at won
  obtain ⟨a, latest, same⟩ := won
  cases same
  obtain ⟨member, crossed⟩ := mem_of_latestMet latest
  exact ⟨prevails.hashed a member, prevails.standing a member crossed⟩

/-- Once there is a winner there is one for good. -/
theorem hasWinner_after (won : ((start t n).after J xs).hasWinner = true) (ys : List (Submission ρ)) :
    (((start t n).after J xs).after J ys).hasWinner = true := by
  rw [← after_append, hasWinner_iff, accepted_append]
  obtain ⟨a, member, crossed⟩ := hasWinner_iff.1 won
  exact ⟨a, List.mem_append_left _ member, crossed⟩

/-- A winner has an aggregate. -/
theorem exists_of_hasWinner (won : ((start t n).after J xs).hasWinner = true) :
    ∃ d r g, ((start t n).after J xs).winner = some (d, r) ∧
      ((start t n).after J xs).aggregates.get? d = some g := by
  obtain ⟨⟨d, r⟩, same⟩ := Option.isSome_iff_exists.1 won
  obtain ⟨-, g, found, -⟩ := winner_stands same
  exact ⟨d, r, g, same, found⟩

/-- Non-signers can be named exactly when there is a winner. -/
theorem isSome_winningNonSigners? : ((start t n).after J xs).winningNonSigners?.isSome =
    ((start t n).after J xs).hasWinner := by
  cases won : ((start t n).after J xs).hasWinner with
  | true =>
    obtain ⟨d, r, g, same, found⟩ := exists_of_hasWinner won
    simp [winningNonSigners?, same, found]
  | false =>
    rw [hasWinner, Option.isSome_eq_false_iff, Option.isNone_iff_eq_none] at won
    simp [winningNonSigners?, won]

/-- A result can be built exactly when there is a winner. -/
theorem isSome_result? (indices : SignatureCheckIndices) :
    (((start t n).after J xs).result? indices).isSome = ((start t n).after J xs).hasWinner := by
  cases won : ((start t n).after J xs).hasWinner with
  | true =>
    obtain ⟨d, r, g, same, found⟩ := exists_of_hasWinner won
    simp [result?, same, found]
  | false =>
    rw [hasWinner, Option.isSome_eq_false_iff, Option.isNone_iff_eq_none] at won
    simp [result?, won]

end TaskState

end Attestation
