/-
Module: Attestation.Bytes
Purpose: Byte strings of a known length, the two byte orders of a natural number, and hex text. Keys,
  signatures, digests and operator ids are all byte strings of a fixed length, so the length is part of
  the type and a decoder is the only place where a length can be wrong.
Main exports: Bytes, Bytes.ofList?, LittleEndian.encode, LittleEndian.value, LittleEndian.bound,
  BigEndian.encode, BigEndian.value, Bytes.compare_toNat, Hex.encode, Hex.decode?
-/

namespace Attestation

/-! ### Byte orders -/

namespace LittleEndian

/-- The low `n` bytes of `v`, the least significant first. -/
def encode : Nat → Nat → List UInt8
  | 0, _ => []
  | n + 1, v => UInt8.ofNat v :: encode n (v / 256)

/-- The number that a byte string stands for when its first byte is the least significant. -/
def value : List UInt8 → Nat
  | [] => 0
  | b :: rest => b.toNat + 256 * value rest

/-- The least number that does not fit in `n` bytes. -/
def bound (n : Nat) : Nat := 1 <<< (8 * n)

@[simp] theorem length_encode (n v : Nat) : (encode n v).length = n := by
  induction n generalizing v with
  | zero => rfl
  | succ n ih => simp [encode, ih]

theorem bound_succ (n : Nat) : bound (n + 1) = 256 * bound n := by
  rw [bound, Nat.mul_succ, Nat.shiftLeft_add, Nat.shiftLeft_eq, Nat.mul_comm, bound]

theorem value_lt (bytes : List UInt8) : value bytes < bound bytes.length := by
  induction bytes with
  | nil => decide
  | cons b rest ih =>
    have := b.toNat_lt
    simp only [value, List.length_cons, bound_succ]
    omega

/-- What does not fit in `n` bytes is lost. -/
theorem value_encode (n v : Nat) : value (encode n v) = v % bound n := by
  induction n generalizing v with
  | zero => exact (Nat.mod_one v).symm
  | succ n ih =>
    have byte : (UInt8.ofNat v).toNat = v % 256 := UInt8.toNat_ofNat'
    rw [encode, value, ih, byte, bound_succ, Nat.mod_mul]

theorem encode_value (bytes : List UInt8) : encode bytes.length (value bytes) = bytes := by
  induction bytes with
  | nil => rfl
  | cons b rest ih =>
    have lt := b.toNat_lt
    have low : UInt8.ofNat (b.toNat + 256 * value rest) = b := by
      apply UInt8.toNat_inj.mp
      rw [UInt8.toNat_ofNat']
      omega
    have high : (b.toNat + 256 * value rest) / 256 = value rest := by omega
    rw [List.length_cons, value, encode, low, high, ih]

end LittleEndian

namespace BigEndian

/-- The low `n` bytes of `v`, the most significant first. -/
def encode (n v : Nat) : List UInt8 := (LittleEndian.encode n v).reverse

/-- The number that a byte string stands for when its first byte is the most significant. -/
def value (bytes : List UInt8) : Nat := bytes.foldl (fun v b => v * 256 + b.toNat) 0

@[simp] theorem length_encode (n v : Nat) : (encode n v).length = n := by simp [encode]

theorem value_eq (bytes : List UInt8) : value bytes = LittleEndian.value bytes.reverse := by
  suffices h : ∀ (rev : List UInt8), value rev.reverse = LittleEndian.value rev by
    simpa using h bytes.reverse
  intro rev
  induction rev with
  | nil => rfl
  | cons b rest ih =>
    have step : value (rest.reverse ++ [b]) = value rest.reverse * 256 + b.toNat := by
      simp [value, List.foldl_append]
    rw [List.reverse_cons, step, ih, LittleEndian.value]
    omega

theorem compare_step (v w : Nat) (x y : UInt8) : compare (v * 256 + x.toNat) (w * 256 + y.toNat) =
    (compare v w).then (compare x y) := by
  have small := x.toNat_lt
  have small' := y.toNat_lt
  have bytes : compare x y = compare x.toNat y.toNat := by
    simp [compare, compareOfLessAndEq, UInt8.lt_iff_toNat_lt, UInt8.toNat_inj]
  rw [bytes, Nat.compare_eq_ite_lt, Nat.compare_eq_ite_lt, Nat.compare_eq_ite_lt]
  rcases Nat.lt_trichotomy v w with less | rfl | greater
  · rw [if_pos less, if_pos (by omega)]
    rfl
  · simp
  · rw [if_neg (by omega), if_pos (by omega), if_neg (by omega), if_pos greater]
    rfl

/-- Of byte strings of one length the order is that of the numbers. -/
theorem compare_value {xs ys : List UInt8} (same : xs.length = ys.length) :
    compare (value xs) (value ys) = compare xs ys := by
  suffices further : ∀ {xs ys : List UInt8}, xs.length = ys.length → ∀ v w : Nat,
      compare (xs.foldl (fun v b => v * 256 + b.toNat) v) (ys.foldl (fun v b => v * 256 + b.toNat) w) =
        (compare v w).then (compare xs ys) from further same 0 0
  intro xs
  induction xs with
  | nil =>
    intro ys same v w
    rw [List.length_nil, eq_comm, List.length_eq_zero_iff] at same
    subst same
    show compare v w = (compare v w).then .eq
    cases compare v w <;> rfl
  | cons x rest ih =>
    intro ys same v w
    match ys, same with
    | y :: rest', same =>
      have first : compare (x :: rest) (y :: rest') = (compare x y).then (compare rest rest') := by
        simp [List.compare_eq_compareLex]
      rw [List.foldl_cons, List.foldl_cons, ih (Nat.succ.inj same), compare_step, first]
      cases compare v w <;> rfl

end BigEndian

/-! ### Fixed lengths -/

/-- A byte string of exactly `n` bytes. -/
@[ext] structure Bytes (n : Nat) where
  toList : List UInt8
  length_toList : toList.length = n
deriving DecidableEq

namespace Bytes

variable {n : Nat}

/-- Reads a byte string of the right length and refuses every other. -/
def ofList? (bytes : List UInt8) : Option (Bytes n) :=
  if h : bytes.length = n then some ⟨bytes, h⟩ else none

/-- The byte string of zeros. -/
def zero (n : Nat) : Bytes n := ⟨List.replicate n 0, by simp⟩

/-- The low `n` bytes of a number, the most significant first. -/
def ofNat (n v : Nat) : Bytes n := ⟨BigEndian.encode n v, by simp⟩

/-- The number whose big-endian form the bytes are. -/
def toNat (b : Bytes n) : Nat := BigEndian.value b.toList

theorem toNat_lt (b : Bytes n) : b.toNat < LittleEndian.bound n := by
  have h := LittleEndian.value_lt b.toList.reverse
  rwa [List.length_reverse, b.length_toList, ← BigEndian.value_eq] at h

theorem toNat_ofNat (n v : Nat) : (ofNat n v).toNat = v % LittleEndian.bound n := by
  rw [toNat, BigEndian.value_eq, ← LittleEndian.value_encode]
  simp [ofNat, BigEndian.encode]

@[simp] theorem ofNat_toNat (b : Bytes n) : ofNat n b.toNat = b := by
  have h := LittleEndian.encode_value b.toList.reverse
  rw [List.length_reverse, b.length_toList] at h
  apply Bytes.ext
  simp [ofNat, toNat, BigEndian.value_eq, BigEndian.encode, h]

@[simp] theorem ofList?_toList (b : Bytes n) : ofList? b.toList = some b := by
  simp [ofList?, b.length_toList]

/-- Byte strings are ordered lexicographically, first byte first. -/
instance : Ord (Bytes n) := ⟨fun a b => compare a.toList b.toList⟩

/-- Byte strings are ordered as the numbers that they write. -/
theorem compare_toNat (a b : Bytes n) : compare a.toNat b.toNat = compare a b :=
  BigEndian.compare_value (a.length_toList.trans b.length_toList.symm)

instance : Std.TransOrd (Bytes n) where
  eq_swap {a b} := Std.OrientedOrd.eq_swap (a := a.toList) (b := b.toList)
  isLE_trans {a b c} := Std.TransOrd.isLE_trans (a := a.toList) (b := b.toList) (c := c.toList)

instance : Std.LawfulEqOrd (Bytes n) where
  compare_self {a} := Std.ReflOrd.compare_self (a := a.toList)
  eq_of_compare h := Bytes.ext (Std.LawfulEqOrd.eq_of_compare h)

end Bytes

/-! ### Hex text -/

namespace Hex

/-- The lower-case digit of a number below sixteen. -/
def digit (d : Nat) : Char :=
  if d < 10 then Char.ofNat ('0'.toNat + d) else Char.ofNat ('a'.toNat + (d - 10))

/-- The value of a hex digit of either case. -/
def digitValue? (c : Char) : Option Nat :=
  if '0' ≤ c ∧ c ≤ '9' then some (c.toNat - '0'.toNat)
  else if 'a' ≤ c ∧ c ≤ 'f' then some (c.toNat - 'a'.toNat + 10)
  else if 'A' ≤ c ∧ c ≤ 'F' then some (c.toNat - 'A'.toNat + 10)
  else none

/-- Two lower-case digits for every byte. -/
def encode (bytes : List UInt8) : List Char :=
  bytes.flatMap fun b => [digit (b.toNat / 16), digit (b.toNat % 16)]

/-- Reads pairs of digits and refuses a lone digit or any other character. -/
def decode? : List Char → Option (List UInt8)
  | [] => some []
  | [_] => none
  | hi :: lo :: rest => do
    let h ← digitValue? hi
    let l ← digitValue? lo
    let bytes ← decode? rest
    return UInt8.ofNat (h * 16 + l) :: bytes

/-- The digits of a number without leading zeros; zero has the one digit `0`. -/
def ofNat (v : Nat) : List Char := Nat.toDigits 16 v

end Hex

/-- The hex text of a byte string. -/
def Bytes.hex {n : Nat} (b : Bytes n) : String := String.ofList (Hex.encode b.toList)

end Attestation
