/-
Module: Attestation.Proofs.Registrations
Purpose: What a history of commands leaves in a registry kept in memory, and what of it is seen at a block.
  The only entry that is kept of an operator is its last registration, with the end that the last
  deregistration since then has given it. A change after a block is not seen at the block, unless it
  replaces an entry that was.
Main exports: Registry.after, Leaves, Registry.get?_after, Membership.seenAt_register,
  Membership.seenAt_deregister, Registry.Spares, Registry.agreesAt_after, Registry.past_kept,
  Registry.past_changed
-/
import Attestation.Proofs.Listings
import Attestation.Registry.Command

namespace Attestation

namespace RegistryCommand

/-- Whether the command registers an operator. -/
def registers (id : OperatorId) : RegistryCommand → Bool
  | .register id' .. => id' = id
  | _ => false

/-- The block at which the command ends the registration of an operator. -/
def end? (id : OperatorId) : RegistryCommand → Option BlockNumber
  | .deregister id' block => if id' = id then some block else none
  | _ => none

end RegistryCommand

namespace Registration

/-- The registration with another end, if there is one. -/
def endedBy (e : Registration) (ended : Option BlockNumber) : Registration :=
  { e with deregisteredAt := ended.or e.deregisteredAt }

@[simp] theorem endedBy_none (e : Registration) : e.endedBy none = e := rfl

/-- A registration is active from its block on, and before its end if it has one. -/
theorem activeAt_iff {e : Registration} {block : BlockNumber} : e.activeAt block = true ↔
    e.registeredAt ≤ block ∧ ∀ ended, e.deregisteredAt = some ended → block < ended := by
  cases ended : e.deregisteredAt <;> simp [activeAt, ended]

end Registration

/-- What a history leaves of an operator: its last registration, ended by the last deregistration since
then. -/
def Leaves (history : List RegistryCommand) (id : OperatorId) (e : Registration) : Prop :=
  ∃ before since, history = before ++ .register id e.pubkeys e.stakes e.registeredAt :: since ∧
    (∀ c ∈ since, c.registers id = false) ∧ e.deregisteredAt = (since.filterMap (·.end? id)).getLast?

/-- Where a list with one more element is split at an element, this is the new one or an earlier one. -/
theorem split_snoc {α : Type} {xs before after : List α} {x y : α} (split : xs ++ [x] = before ++ y :: after) :
    (xs = before ∧ x = y ∧ after = []) ∨ ∃ rest, after = rest ++ [x] ∧ xs = before ++ y :: rest := by
  rcases List.eq_nil_or_concat after with rfl | ⟨rest, z, rfl⟩
  · obtain ⟨same, last⟩ := List.append_inj' split rfl
    exact .inl ⟨same, List.singleton_inj.1 last, rfl⟩
  · have longer : xs ++ [x] = (before ++ y :: rest) ++ [z] := by simpa using split
    obtain ⟨same, last⟩ := List.append_inj' longer rfl
    cases List.singleton_inj.1 last
    exact .inr ⟨rest, List.concat_eq_append, same⟩

section Histories

variable {history : List RegistryCommand} {c : RegistryCommand} {id : OperatorId} {e : Registration}

theorem not_leaves_nil : ¬ Leaves [] id e := by
  rintro ⟨before, since, split, -⟩
  simp at split

/-- A registration leaves nothing of what was before. -/
theorem leaves_register {pubkeys : OperatorPubkeys} {stakes : Stakes} {block : BlockNumber} :
    Leaves (history ++ [.register id pubkeys stakes block]) id e ↔ e = ⟨pubkeys, stakes, block, none⟩ := by
  constructor
  · rintro ⟨before, since, split, last, ended⟩
    rcases split_snoc split with ⟨-, same, rfl⟩ | ⟨rest, rfl, -⟩
    · cases same
      exact congrArg (Registration.mk _ _ _) ended
    · have other := last _ (List.mem_append_right rest (List.mem_singleton_self _))
      simp [RegistryCommand.registers] at other
  · rintro rfl
    exact ⟨history, [], rfl, nofun, rfl⟩

/-- Any other command leaves what there was, and may end it. -/
theorem leaves_other (other : c.registers id = false) : Leaves (history ++ [c]) id e ↔
    ∃ earlier, Leaves history id earlier ∧ e = earlier.endedBy (c.end? id) := by
  have ends (rest : List RegistryCommand) : ((rest ++ [c]).filterMap (·.end? id)).getLast? =
      (c.end? id).or (rest.filterMap (·.end? id)).getLast? := by
    cases ended : c.end? id <;> simp [ended]
  constructor
  · rintro ⟨before, since, split, last, ended⟩
    rcases split_snoc split with ⟨-, rfl, -⟩ | ⟨rest, rfl, rfl⟩
    · simp [RegistryCommand.registers] at other
    · rw [ends] at ended
      let earlier : Registration := { e with deregisteredAt := (rest.filterMap (·.end? id)).getLast? }
      have left : Leaves (before ++ .register id e.pubkeys e.stakes e.registeredAt :: rest) id earlier :=
        ⟨before, rest, rfl, fun c listed => last c (List.mem_append_left _ listed), rfl⟩
      exact ⟨earlier, left, congrArg (Registration.mk _ _ _) ended⟩
  · rintro ⟨earlier, ⟨before, rest, rfl, last, ended⟩, rfl⟩
    refine ⟨before, rest ++ [c], ?_, ?_, ?_⟩
    · rw [List.append_assoc]
      rfl
    · simpa [or_imp, forall_and] using ⟨last, other⟩
    · rw [ends, ← ended]
      rfl

end Histories

namespace Registry

/-- The registry after commands that are carried out one after another. -/
def after (C : PairingCurve) (r : Registry) (history : List RegistryCommand) : Registry :=
  history.foldl (fun r c => (r.perform C c).registry) r

variable {C : PairingCurve} {r : Registry} {history : List RegistryCommand} {c : RegistryCommand}
  {id : OperatorId} {e : Registration}

theorem after_snoc : r.after C (history ++ [c]) = ((r.after C history).perform C c).registry := by
  simp [after]

/-- A command that registers an operator puts an entry in place of the one that there was. -/
theorem get?_perform_register {pubkeys : OperatorPubkeys} {stakes : Stakes} {block : BlockNumber} :
    (r.perform C (.register id pubkeys stakes block)).registry.membership.get? id =
      some ⟨pubkeys, stakes, block, none⟩ := by
  simp [perform, Membership.register, SortedMap.get?_insert]

/-- Any other command leaves the entry of an operator as it is, but for its end. -/
theorem get?_perform_other (other : c.registers id = false) :
    (r.perform C c).registry.membership.get? id =
      (r.membership.get? id).map (·.endedBy (c.end? id)) := by
  have kept : (r.membership.get? id).map (·.endedBy none) = r.membership.get? id := by simp
  cases c with
  | register id' pubkeys stakes block =>
    have apart : id ≠ id' := by simpa [RegistryCommand.registers, eq_comm] using other
    simp [perform, Membership.register, SortedMap.get?_insert, apart, RegistryCommand.end?]
  | deregister id' block =>
    by_cases own : id' = id
    · subst own
      cases found : r.membership.get? id' <;>
        simp [perform, Membership.deregister, found, SortedMap.get?_insert, RegistryCommand.end?,
          Registration.endedBy]
    · have apart : id ≠ id' := fun h => own h.symm
      cases found : r.membership.get? id' <;>
        simp [perform, Membership.deregister, found, SortedMap.get?_insert, RegistryCommand.end?, own,
          apart]
  | _ => exact kept.symm

/-- The entries of a registry are what its history leaves. -/
theorem get?_after : (empty.after C history).membership.get? id = some e ↔ Leaves history id e := by
  induction history using List.reverseRecOn generalizing e with
  | nil => simpa [after, empty] using not_leaves_nil
  | append_singleton history c ih =>
    rw [after_snoc]
    cases kind : c.registers id with
    | false =>
      rw [get?_perform_other kind, leaves_other kind, Option.map_eq_some_iff]
      simp only [ih, eq_comm]
    | true =>
      cases c <;> simp [RegistryCommand.registers] at kind
      subst kind
      rw [get?_perform_register, leaves_register, Option.some_inj, eq_comm]

end Registry

namespace Membership

variable {m : Membership} {block : BlockNumber} {id : OperatorId}

variable {pubkeys : OperatorPubkeys} {stakes : Stakes} {later : BlockNumber}

/-- A registration after a block takes the operator out of what is seen at the block. -/
theorem seenAt_register (after : block < later) :
    (m.register id pubkeys stakes later).seenAt block = seenAt (m.erase id) block := by
  have inactive : (⟨pubkeys, stakes, later, none⟩ : Registration).activeAt block = false := by
    simpa [Registration.activeAt] using UInt32.not_le.2 after
  apply SortedMap.ext_get?
  intro id'
  rw [get?_seenAt, get?_seenAt, register, SortedMap.get?_insert, SortedMap.get?_erase]
  by_cases same : id' = id <;> simp [same, Option.filter, inactive]

/-- Who is not active at a block may as well have no entry. -/
theorem seenAt_erase (inactive : ∀ e, m.get? id = some e → e.activeAt block = false) :
    seenAt (m.erase id) block = m.seenAt block := by
  apply SortedMap.ext_get?
  intro id'
  rw [get?_seenAt, get?_seenAt, SortedMap.get?_erase]
  by_cases same : id' = id
  · subst same
    cases found : m.get? id' with
    | none => simp
    | some e => simp [Option.filter, inactive e found]
  · simp [same]

/-- A deregistration after a block is not seen at the block, if the registration had not ended by then. -/
theorem seenAt_deregister (after : block < later)
    (standing : ∀ e, m.get? id = some e → e.registeredAt ≤ block → e.activeAt block = true) :
    (m.deregister id later).seenAt block = m.seenAt block := by
  cases found : m.get? id with
  | none => simp [deregister, found]
  | some e =>
    have same : ({ e with deregisteredAt := some later } : Registration).activeAt block =
        e.activeAt block := by
      rw [Bool.eq_iff_iff, Registration.activeAt_iff]
      constructor
      · rintro ⟨started, -⟩
        exact standing e found started
      · intro active
        refine ⟨(Registration.activeAt_iff.1 active).1, ?_⟩
        rintro _ ⟨⟩
        exact after
    apply SortedMap.ext_get?
    intro id'
    rw [get?_seenAt, get?_seenAt]
    by_cases own : id' = id
    · subst own
      cases active : e.activeAt block <;>
        simp [deregister, found, SortedMap.get?_insert, Option.filter, same, active]
    · simp [deregister, found, SortedMap.get?_insert, own]

end Membership

namespace Registry

variable {C : PairingCurve} {r : Registry} {block : BlockNumber} {c : RegistryCommand}

/-- The command comes after the block and spares what is seen at it: it neither replaces an entry that is
active at the block, nor moves an end that has come by then. -/
def Spares (r : Registry) (block : BlockNumber) : RegistryCommand → Prop
  | .register id _ _ later =>
    block < later ∧ ∀ e, r.membership.get? id = some e → e.activeAt block = false
  | .deregister id later => block < later ∧
    ∀ e, r.membership.get? id = some e → e.registeredAt ≤ block → e.activeAt block = true
  | _ => True

/-- Commands each of which spares what is seen at a block. -/
inductive Spared (C : PairingCurve) (block : BlockNumber) : Registry → List RegistryCommand → Prop where
  | nil {r : Registry} : Spared C block r []
  | cons {r : Registry} {c : RegistryCommand} {rest : List RegistryCommand} (first : r.Spares block c)
      (others : Spared C block (r.perform C c).registry rest) : Spared C block r (c :: rest)

theorem seenAt_perform (spares : r.Spares block c) :
    (r.perform C c).registry.membership.seenAt block = r.membership.seenAt block := by
  cases c with
  | register id pubkeys stakes later =>
    obtain ⟨after, inactive⟩ := spares
    exact (Membership.seenAt_register after).trans (Membership.seenAt_erase inactive)
  | deregister id later =>
    obtain ⟨after, standing⟩ := spares
    exact Membership.seenAt_deregister after standing
  | _ => rfl

/-- However many commands spare a block, all answers about it stay what they were. -/
theorem agreesAt_after {changes : List RegistryCommand} (spared : Spared C block r changes) :
    (r.after C changes).membership.AgreesAt C block r.membership := by
  apply Membership.agreesAt_of_seenAt
  induction spared with
  | nil => rfl
  | cons first _ ih => exact ih.trans (seenAt_perform first)

/-- What a change after a block does to the answers about the block. A registration replaces the entry of
its operator, so that they are those without it; they are the same if that entry was not active at the
block. A deregistration leaves them as they are, unless the entry had ended by then. -/
theorem past_kept (C : PairingCurve) (history : List RegistryCommand) (block later : BlockNumber)
    (after : block < later) (id : OperatorId) :
    let r := empty.after C history
    (∀ pubkeys stakes,
      let registered := (r.perform C (.register id pubkeys stakes later)).registry.membership
      registered.AgreesAt C block (r.membership.erase id) ∧
      ((∀ e, Leaves history id e → e.activeAt block = false) →
        registered.AgreesAt C block r.membership)) ∧
    ((∀ e, Leaves history id e → e.registeredAt ≤ block → e.activeAt block = true) →
      (r.perform C (.deregister id later)).registry.membership.AgreesAt C block r.membership) := by
  intro r
  refine ⟨fun pubkeys stakes => ⟨?_, ?_⟩, ?_⟩
  · exact Membership.agreesAt_of_seenAt C (Membership.seenAt_register after)
  · intro inactive
    have spares : r.Spares block (.register id pubkeys stakes later) :=
      ⟨after, fun e found => inactive e (get?_after.1 found)⟩
    exact agreesAt_after (.cons spares .nil)
  · intro standing
    have spares : r.Spares block (.deregister id later) :=
      ⟨after, fun e found => standing e (get?_after.1 found)⟩
    exact agreesAt_after (.cons spares .nil)

/-- At block seven the first operator is active and the second has been deregistered. Neither the end of the
first at block ten nor the return of the second is seen there, in whatever order the registry then goes
through its entries. -/
theorem past_kept_sample :
    let C := SampleCurve.curve
    let operator := SampleCurve.operatorId
    let keys (secret : Nat) : OperatorPubkeys := ⟨⟨.ofNat 48 (2 * secret)⟩, some (SampleCurve.key secret)⟩
    let stakes : Stakes := .ofList [(SampleCurve.quorum, .clamp 100)]
    let history := [.register (operator 1) (keys 1) stakes 0, .register (operator 2) (keys 2) stakes 0,
      .deregister (operator 2) 5]
    let r := empty.after C history
    let registered := (r.perform C (.register (operator 2) (keys 2) stakes 10)).registry.membership
    let states : QuorumStates :=
      .ofList [(SampleCurve.quorum, ⟨SampleCurve.quorum, .clamp 100, (keys 1).g1, 7⟩)]
    (7 : BlockNumber) < 10 ∧ (∀ e, Leaves history (operator 2) e → e.activeAt 7 = false) ∧
    (∀ e, Leaves history (operator 1) e → e.registeredAt ≤ 7 → e.activeAt 7 = true) ∧ C.G1.Abelian ∧
    registered.AgreesAt C 7 r.membership ∧
    (∀ o : registered.Listing, Membership.quorumsIn C o.entries [SampleCurve.quorum] 7 = .ok states) ∧
    (r.perform C (.deregister (operator 1) 10)).registry.membership.AgreesAt C 7 r.membership := by
  intro C operator keys stakes history r registered states
  have past : (7 : BlockNumber) < 10 := by decide
  have inactive : ∀ e, Leaves history (operator 2) e → e.activeAt 7 = false := by
    intro e left
    have entry : r.membership.get? (operator 2) = some ⟨keys 2, stakes, 0, some 5⟩ := by decide +kernel
    cases (get?_after (C := C).2 left).symm.trans entry
    decide
  have standing : ∀ e, Leaves history (operator 1) e → e.registeredAt ≤ 7 → e.activeAt 7 = true := by
    intro e left _
    have entry : r.membership.get? (operator 1) = some ⟨keys 1, stakes, 0, none⟩ := by decide +kernel
    cases (get?_after (C := C).2 left).symm.trans entry
    decide
  have agrees := ((past_kept C history 7 10 past (operator 2)).1 (keys 2) stakes).2 inactive
  have before : Membership.quorumsIn C r.membership.ascending.entries [SampleCurve.quorum] 7 = .ok states := by
    decide +kernel
  refine ⟨past, inactive, standing, SampleCurve.abelian_signatures, agrees, fun o => ?_,
    (past_kept C history 7 10 past (operator 1)).2 standing⟩
  have alike := agrees.quorums SampleCurve.abelian_signatures o r.membership.ascending [SampleCurve.quorum]
  rw [before] at alike
  exact alike.symm.eq_of_ok

/-- A registration at block ten takes its operator, who was active at block seven, out of what is told of block
seven. And an operator that was deregistered at block five is told of there, once it is deregistered again
at block ten. And the registration of a third operator can change the order of two others, so that the key
of another is refused: one is infinity, the other outside the subgroup. -/
theorem past_changed :
    let C := SampleCurve.curve
    let operator := SampleCurve.operatorId
    let keys (n : Nat) : OperatorPubkeys := ⟨⟨.ofNat 48 n⟩, some (SampleCurve.key 1)⟩
    let stakes : Stakes := .ofList [(SampleCurve.quorum, .clamp 100)]
    let active := empty.after C [.register (operator 1) (keys 2) stakes 0]
    let ended := empty.after C [.register (operator 1) (keys 2) stakes 0, .deregister (operator 1) 5]
    let mixed := empty.after C
      [.register (operator 1) (keys 0) stakes 0, .register (operator 2) (keys 1) stakes 0]
    let third := (mixed.perform C (.register (operator 3) (keys 2) stakes 10)).registry.membership
    (7 : BlockNumber) < 10 ∧
    ¬ (active.perform C (.register (operator 1) (keys 2) stakes 10)).registry.membership.AgreesAt C 7
      active.membership ∧
    ¬ (ended.perform C (.deregister (operator 1) 10)).registry.membership.AgreesAt C 7 ended.membership ∧
    ∃ (o : mixed.membership.Listing) (o' : third.Listing),
      Membership.quorumsIn C o.entries [SampleCurve.quorum] 7 ≠
        Membership.quorumsIn C o'.entries [SampleCurve.quorum] 7 := by
  intro C operator keys stakes active ended mixed third
  refine ⟨by decide, fun agrees => ?_, fun agrees => ?_, mixed.membership.ascending,
    ⟨third.toList.reverse, List.reverse_perm _⟩, ?_⟩
  · exact absurd (agrees.operators [SampleCurve.quorum]) (by decide +kernel)
  · exact absurd (agrees.operators [SampleCurve.quorum]) (by decide +kernel)
  · decide +kernel

end Registry

end Attestation
