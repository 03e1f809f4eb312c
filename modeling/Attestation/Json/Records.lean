/-
Module: Attestation.Json.Records
Purpose: The JSON forms of the registry's records and of the service's configuration.
Main exports: JsonFormat.operatorId, JsonFormat.quorumNum, JsonFormat.signature, JsonFormat.g1PublicKey,
  JsonFormat.g2PublicKey, JsonFormat.operatorPubkeys, JsonFormat.stakes, JsonFormat.operatorState,
  JsonFormat.quorumState, JsonFormat.indices, JsonFormat.config
-/
import Attestation.Json.Format
import Attestation.Registry.State
import Attestation.Service.Config

namespace Attestation.JsonFormat

/-- An operator id is an array of 32 numbers. -/
def operatorId : JsonFormat OperatorId where
  write id := (array 32).write id.bytes
  read? j := ((array 32).read? j).map OperatorId.mk

/-- A quorum number is a number. -/
def quorumNum : JsonFormat QuorumNum where
  write q := u8.write q.number
  read? j := (u8.read? j).map QuorumNum.mk

/-- A record with the one field `bytes`. -/
def bytesRecord (n : Nat) : JsonFormat (Bytes n) where
  write b := recordObject [("bytes", (bytes n).write b)]
  read? j := do
    match ← recordFields? ["bytes"] 0 j with
    | [some b] => (bytes n).read? b
    | _ => none

def signature : JsonFormat Signature where
  write s := (bytesRecord 48).write s.bytes
  read? j := ((bytesRecord 48).read? j).map Signature.mk

def g1PublicKey : JsonFormat G1PublicKey where
  write k := (bytesRecord 48).write k.bytes
  read? j := ((bytesRecord 48).read? j).map G1PublicKey.mk

def g2PublicKey : JsonFormat G2PublicKey where
  write k := (bytesRecord 96).write k.bytes
  read? j := ((bytesRecord 96).read? j).map G2PublicKey.mk

/-- The second key may be left out of an object. -/
def operatorPubkeys : JsonFormat OperatorPubkeys where
  write p := recordObject [("g1", g1PublicKey.write p.g1), ("g2", (option g2PublicKey).write p.g2)]
  read? j := do
    match ← recordFields? ["g1", "g2"] 0 j with
    | [some a, b] => return ⟨← g1PublicKey.read? a, ← (option g2PublicKey).read? (b.getD .null)⟩
    | _ => none

/-- The characters of a string without escapes. -/
def plainText? (parts : List StringPart) : Option (List Char) :=
  parts.mapM fun
    | .plain c => some c
    | _ => none

/-- A stake with its quorum, which is a member's name in decimal digits. -/
def stakeMember? (member : List StringPart × JsonValue) : Option (QuorumNum × U256) := do
  let digits ← plainText? member.1
  let q ← (canonicalNatural? digits).filter (· < 1 <<< 8)
  let amount ← u256.read? member.2
  return (⟨UInt8.ofNat q⟩, amount)

/-- Stakes are an object with a member per quorum. Of members for the same quorum the last counts. -/
def stakes : JsonFormat Stakes where
  write s := .object (s.toList.map fun (q, amount) =>
    (StringPart.ofText (Nat.toDigits 10 q.number.toNat), u256.write amount))
  read?
    | .object members => (members.mapM stakeMember?).map SortedMap.ofList
    | _ => none

def operatorState : JsonFormat OperatorState where
  write o := recordObject [("operator_id", operatorId.write o.id),
    ("pubkeys", operatorPubkeys.write o.pubkeys), ("stake_per_quorum", stakes.write o.stakes),
    ("block_number", u32.write o.block)]
  read? j := do
    match ← recordFields? ["operator_id", "pubkeys", "stake_per_quorum", "block_number"] 0 j with
    | [some i, some p, some s, some b] =>
      return ⟨← operatorId.read? i, ← operatorPubkeys.read? p, ← stakes.read? s, ← u32.read? b⟩
    | _ => none

def quorumState : JsonFormat QuorumState where
  write s := recordObject [("quorum_number", quorumNum.write s.quorum),
    ("total_stake", u256.write s.totalStake), ("agg_pubkey_g1", g1PublicKey.write s.aggregateKey),
    ("block_number", u32.write s.block)]
  read? j := do
    match ← recordFields? ["quorum_number", "total_stake", "agg_pubkey_g1", "block_number"] 0 j with
    | [some q, some t, some k, some b] =>
      return ⟨← quorumNum.read? q, ← u256.read? t, ← g1PublicKey.read? k, ← u32.read? b⟩
    | _ => none

def indices : JsonFormat SignatureCheckIndices where
  write x := recordObject [("non_signer_quorum_bitmap_indices", (list u32).write x.nonSignerBitmaps),
    ("quorum_apk_indices", (list u32).write x.quorumKeys),
    ("total_stake_indices", (list u32).write x.totalStakes),
    ("non_signer_stake_indices", (list (list u32)).write x.nonSignerStakes)]
  read? j := do
    match ← recordFields? ["non_signer_quorum_bitmap_indices", "quorum_apk_indices", "total_stake_indices",
      "non_signer_stake_indices"] 0 j with
    | [some n, some q, some t, some s] =>
      return ⟨← (list u32).read? n, ← (list u32).read? q, ← (list u32).read? t,
        ← (list (list u32)).read? s⟩
    | _ => none

/-- A field that is left out has its default. -/
def config : JsonFormat Config where
  write c := recordObject [("signature_channel_capacity", u64.write c.inboxCapacity),
    ("max_active_tasks", u64.write c.maxActiveTasks)]
  read? j := do
    match ← recordFields? ["signature_channel_capacity", "max_active_tasks"] 2 j with
    | [c, m] =>
      let capacity ← match c with
        | some v => u64.read? v
        | none => some Config.default.inboxCapacity
      let limit ← match m with
        | some v => u64.read? v
        | none => some Config.default.maxActiveTasks
      return ⟨capacity, limit⟩
    | _ => none

end Attestation.JsonFormat
