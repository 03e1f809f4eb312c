/-
Module: Attestation.Registry.Membership
Purpose: A registry of operators with the blocks between which each is registered, and what it says
  about a block. An operator is a member from its registration up to, and not including, its
  deregistration.
Main exports: Registration, Membership, Membership.register, Membership.deregister,
  Membership.operatorsAt, Membership.quorumsIn, Membership.quorumsAt, Membership.indicesAt
-/
import Attestation.Registry.State

namespace Attestation

/-- One operator's entry. Only its latest registration is kept. -/
structure Registration where
  pubkeys : OperatorPubkeys
  stakes : Stakes
  registeredAt : BlockNumber
  deregisteredAt : Option BlockNumber
deriving DecidableEq

/-- Whether the operator is registered at a block. -/
def Registration.activeAt (r : Registration) (block : BlockNumber) : Bool :=
  r.registeredAt ≤ block && r.deregisteredAt.all (block < ·)

/-- The registrations by operator. -/
abbrev Membership := SortedMap OperatorId Registration

namespace Membership

/-- Registers an operator, in place of an earlier registration. -/
def register (m : Membership) (id : OperatorId) (pubkeys : OperatorPubkeys) (stakes : Stakes)
    (block : BlockNumber) : Membership :=
  m.insert id ⟨pubkeys, stakes, block, none⟩

/-- Ends an operator's registration at a block; an unknown operator is ignored. -/
def deregister (m : Membership) (id : OperatorId) (block : BlockNumber) : Membership :=
  match m.get? id with
  | some r => m.insert id { r with deregisteredAt := some block }
  | none => m

/-- The registrations that are active at a block. -/
def activeAt (m : Membership) (block : BlockNumber) : Membership := m.filter fun _ r => r.activeAt block

/-- The operators active at a block that hold stake in a listed quorum, each with its stakes in the
listed quorums only. -/
def operatorsAt (m : Membership) (quorums : List QuorumNum) (block : BlockNumber) : OperatorStates :=
  ((m.activeAt block).mapValues fun id r =>
      (⟨id, r.pubkeys, r.stakes.filter fun q _ => q ∈ quorums, block⟩ : OperatorState)).filter
    fun _ state => !state.stakes.isEmpty

/-- The keys and stakes of the operators active at a block that hold stake in a quorum, in the order in which
the entries are gone through. -/
def membersIn (entries : List (OperatorId × Registration)) (quorum : QuorumNum) (block : BlockNumber) :
    List (G1PublicKey × U256) :=
  (entries.filter fun e => e.2.activeAt block).filterMap fun e =>
    (e.2.stakes.get? quorum).map fun stake => (e.2.pubkeys.g1, stake)

/-- The state of one quorum, which must have a member. Of several keys that are none the order of the
entries decides which is reported. -/
def quorumIn (C : PairingCurve) (entries : List (OperatorId × Registration)) (quorum : QuorumNum)
    (block : BlockNumber) : Except ProviderError QuorumState :=
  let members := membersIn entries quorum block
  if members.isEmpty then .error (.unknownQuorum quorum)
  else match Bls.aggregateG1 C (members.map (·.1)) with
    | .error e => .error (.communication e.message)
    | .ok key => .ok ⟨quorum, (members.map (·.2)).foldl U256.saturatingAdd 0, key, block⟩

/-- The states of the listed quorums, or the failure of the first that has none. -/
def quorumsIn (C : PairingCurve) (entries : List (OperatorId × Registration)) (quorums : List QuorumNum)
    (block : BlockNumber) : Except ProviderError QuorumStates := do
  let states ← quorums.mapM fun q => quorumIn C entries q block
  return SortedMap.ofList (states.map fun s => (s.quorum, s))

def membersOf (m : Membership) (quorum : QuorumNum) (block : BlockNumber) : List (G1PublicKey × U256) :=
  membersIn m.toList quorum block

def quorumAt (C : PairingCurve) (m : Membership) (quorum : QuorumNum) (block : BlockNumber) :
    Except ProviderError QuorumState :=
  quorumIn C m.toList quorum block

/-- The states of the listed quorums, where the registry goes through its entries by ascending id. It may as
well go through them in any other order. -/
def quorumsAt (C : PairingCurve) (m : Membership) (quorums : List QuorumNum) (block : BlockNumber) :
    Except ProviderError QuorumStates :=
  quorumsIn C m.toList quorums block

/-- The indices for a list of operators that did not sign. This registry keeps no history, so every
index is zero; an operator has a stake index in the quorums of which it is a member. -/
def indicesAt (m : Membership) (block : BlockNumber) (quorums : List QuorumNum) (ids : List OperatorId) :
    SignatureCheckIndices where
  nonSignerBitmaps := ids.map fun _ => 0
  quorumKeys := quorums.map fun _ => 0
  totalStakes := quorums.map fun _ => 0
  nonSignerStakes := quorums.map fun q =>
    (ids.filter fun id =>
      (m.get? id).any fun r => r.activeAt block && r.stakes.contains q).map fun _ => 0

end Membership

end Attestation
