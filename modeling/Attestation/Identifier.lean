/-
Module: Attestation.Identifier
Purpose: The names of things: quorums, operators, tasks and blocks. Operator ids are 32 bytes whose
  order, byte by byte from the first, is the order of the numbers that they write in big-endian form.
Main exports: QuorumNum, OperatorId, OperatorId.compare_eq_lt_iff, OperatorId.text, TaskIndex,
  BlockNumber
-/
import Attestation.U256

namespace Attestation

/-- The number a caller gives a task. -/
abbrev TaskIndex := UInt32

/-- A block of the chain at which registry state is read. -/
abbrev BlockNumber := UInt32

/-- The number of a quorum as registered on chain. -/
@[ext] structure QuorumNum where
  number : UInt8
deriving DecidableEq

namespace QuorumNum

instance : Ord QuorumNum := ⟨fun a b => compare a.number b.number⟩

instance : Std.TransOrd QuorumNum where
  eq_swap {a b} := Std.OrientedOrd.eq_swap (a := a.number) (b := b.number)
  isLE_trans {a b c} := Std.TransOrd.isLE_trans (a := a.number) (b := b.number) (c := c.number)

instance : Std.LawfulEqOrd QuorumNum where
  compare_self {a} := Std.ReflOrd.compare_self (a := a.number)
  eq_of_compare h := QuorumNum.ext (Std.LawfulEqOrd.eq_of_compare h)

/-- The decimal number. -/
def text (q : QuorumNum) : String := toString q.number.toNat

end QuorumNum

/-- An operator's identifier. -/
@[ext] structure OperatorId where
  bytes : Bytes 32
deriving DecidableEq

namespace OperatorId

instance : Ord OperatorId := ⟨fun a b => compare a.bytes b.bytes⟩

instance : Std.TransOrd OperatorId where
  eq_swap {a b} := Std.OrientedOrd.eq_swap (a := a.bytes) (b := b.bytes)
  isLE_trans {a b c} := Std.TransOrd.isLE_trans (a := a.bytes) (b := b.bytes) (c := c.bytes)

instance : Std.LawfulEqOrd OperatorId where
  compare_self {a} := Std.ReflOrd.compare_self (a := a.bytes)
  eq_of_compare h := OperatorId.ext (Std.LawfulEqOrd.eq_of_compare h)

/-- The number that the bytes write. -/
def toU256 (id : OperatorId) : U256 := U256.ofBytes id.bytes

/-- Identifiers are ordered by their numbers. -/
theorem compare_eq_lt_iff {a b : OperatorId} : compare a b = .lt ↔ a.toU256.val < b.toU256.val := by
  rw [← Nat.compare_eq_lt]
  show compare a.bytes b.bytes = .lt ↔ compare a.bytes.toNat b.bytes.toNat = .lt
  rw [Bytes.compare_toNat]

/-- The identifier that writes a number. -/
def ofU256 (n : U256) : OperatorId := ⟨n.toBytes⟩

/-- `0x` and 64 lower-case hex digits. -/
def text (id : OperatorId) : String := "0x" ++ id.bytes.hex

/-- The text with the name of its type around it. -/
def debugText (id : OperatorId) : String := s!"OperatorId({id.text})"

end OperatorId

end Attestation
