/-
Module: Attestation.Binary.Records
Purpose: The binary forms of the registry's records: their fields in declared order.
Main exports: BinaryFormat.operatorId, BinaryFormat.quorumNum, BinaryFormat.signature,
  BinaryFormat.g1PublicKey, BinaryFormat.g2PublicKey, BinaryFormat.operatorPubkeys, BinaryFormat.stakes,
  BinaryFormat.operatorState, BinaryFormat.quorumState, BinaryFormat.indices
-/
import Attestation.Binary.Format
import Attestation.Registry.State

namespace Attestation.BinaryFormat

def operatorId : BinaryFormat OperatorId := (bytes 32).convert OperatorId.bytes OperatorId.mk

def quorumNum : BinaryFormat QuorumNum := u8.convert QuorumNum.number QuorumNum.mk

def signature : BinaryFormat Signature := (sizedBytes 48).convert Signature.bytes Signature.mk

def g1PublicKey : BinaryFormat G1PublicKey := (sizedBytes 48).convert G1PublicKey.bytes G1PublicKey.mk

def g2PublicKey : BinaryFormat G2PublicKey := (sizedBytes 96).convert G2PublicKey.bytes G2PublicKey.mk

def operatorPubkeys : BinaryFormat OperatorPubkeys :=
  (g1PublicKey.pair (option g2PublicKey)).convert (fun p => (p.g1, p.g2)) (fun (g1, g2) => ⟨g1, g2⟩)

/-- Stakes are a list of entries, here ascending by quorum. Entries are read in any order, and of
entries for the same quorum the last counts. -/
def stakes : BinaryFormat Stakes := (list (quorumNum.pair u256)).convert SortedMap.toList SortedMap.ofList

def operatorState : BinaryFormat OperatorState :=
  (operatorId.pair (operatorPubkeys.pair (stakes.pair u32))).convert
    (fun o => (o.id, o.pubkeys, o.stakes, o.block))
    (fun (id, pubkeys, stakes, block) => ⟨id, pubkeys, stakes, block⟩)

def quorumState : BinaryFormat QuorumState :=
  (quorumNum.pair (u256.pair (g1PublicKey.pair u32))).convert
    (fun s => (s.quorum, s.totalStake, s.aggregateKey, s.block))
    (fun (quorum, total, key, block) => ⟨quorum, total, key, block⟩)

def indices : BinaryFormat SignatureCheckIndices :=
  ((list u32).pair ((list u32).pair ((list u32).pair (list (list u32))))).convert
    (fun x => (x.nonSignerBitmaps, x.quorumKeys, x.totalStakes, x.nonSignerStakes))
    (fun (bitmaps, keys, totals, stakes) => ⟨bitmaps, keys, totals, stakes⟩)

end Attestation.BinaryFormat
