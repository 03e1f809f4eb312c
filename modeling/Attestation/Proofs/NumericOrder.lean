/-
Module: Attestation.Proofs.NumericOrder
Purpose: An operator's identifier as 32 bytes, as a number and as a text. Each of the three determines the
  other two, and all are ordered alike, since the bytes are in big-endian form and the text is the hex
  numeral of the number, filled up with zeros to one width.
Main exports: compare_eq_lt_iff_lt, Hex.encode_lt_encode_iff, Hex.encode_eq_leftpad,
  OperatorId.text_lt_text_iff, OperatorId.text_inj, OperatorId.ordered_as_numbers
-/
import Attestation.Identifier
import Mathlib.Data.List.Induction
import Mathlib.Data.Nat.Digits.Defs

namespace Attestation

/-- What decides between two byte strings is the first place where they differ. -/
theorem compare_eq_lt_iff_lt {xs ys : List UInt8} : compare xs ys = .lt ↔ xs < ys := by
  induction xs generalizing ys with
  | nil => cases ys <;> simp
  | cons x xs ih =>
    cases ys with
    | nil => simp
    | cons y ys =>
      rw [List.compare_cons_cons, Ordering.then_eq_lt, List.cons_lt_cons_iff, ih, Std.compare_eq_lt,
        Std.LawfulEqOrd.compare_eq_iff_eq]

namespace Hex

section Digits

variable {d e : Nat}

theorem digit_eq_digitChar (small : d < 16) : digit d = d.digitChar := by
  have each : ∀ d < 16, digit d = d.digitChar := by decide
  exact each d small

theorem digit_mem (small : d < 16) : digit d ∈ "0123456789abcdef".toList := by
  have each : ∀ d < 16, digit d ∈ "0123456789abcdef".toList := by decide
  exact each d small

/-- The letters come after the decimal digits. -/
theorem digit_lt_digit_iff (left : d < 16) (right : e < 16) : digit d < digit e ↔ d < e := by
  have each : ∀ d < 16, ∀ e < 16, digit d < digit e ↔ d < e := by decide
  exact each d left e right

theorem digit_inj (left : d < 16) (right : e < 16) : digit d = digit e ↔ d = e := by
  constructor
  · intro same
    have notLess : ¬ d < e := (digit_lt_digit_iff left right).not.1 (same ▸ Char.lt_irrefl _)
    have notMore : ¬ e < d := (digit_lt_digit_iff right left).not.1 (same ▸ Char.lt_irrefl _)
    omega
  · exact congrArg digit

end Digits

theorem encode_cons (b : UInt8) (rest : List UInt8) :
    encode (b :: rest) = digit (b.toNat / 16) :: digit (b.toNat % 16) :: encode rest := rfl

theorem length_encode (bytes : List UInt8) : (encode bytes).length = 2 * bytes.length := by
  induction bytes with
  | nil => rfl
  | cons b rest ih =>
    simp only [encode_cons, List.length_cons, ih]
    omega

/-- Only decimal digits and small letters are written. -/
theorem encode_subset (bytes : List UInt8) : encode bytes ⊆ "0123456789abcdef".toList := by
  induction bytes with
  | nil => exact List.nil_subset _
  | cons b rest ih =>
    have byte := b.toNat_lt
    rw [encode_cons, List.cons_subset, List.cons_subset]
    exact ⟨digit_mem (by omega), digit_mem (by omega), ih⟩

/-- Hex texts are ordered as the bytes that they write. -/
theorem encode_lt_encode_iff {xs ys : List UInt8} : encode xs < encode ys ↔ xs < ys := by
  induction xs generalizing ys with
  | nil => cases ys <;> simp [encode]
  | cons x xs ih =>
    cases ys with
    | nil => simp [encode]
    | cons y ys =>
      have left := x.toNat_lt
      have right := y.toNat_lt
      -- A byte is decided by its upper digit, and only then by its lower one.
      have less : x < y ↔ x.toNat / 16 < y.toNat / 16 ∨
          x.toNat / 16 = y.toNat / 16 ∧ x.toNat % 16 < y.toNat % 16 := by
        rw [UInt8.lt_iff_toNat_lt]
        omega
      have same : x = y ↔ x.toNat / 16 = y.toNat / 16 ∧ x.toNat % 16 = y.toNat % 16 := by
        rw [← UInt8.toNat_inj]
        omega
      rw [encode_cons, encode_cons, List.cons_lt_cons_iff, List.cons_lt_cons_iff, List.cons_lt_cons_iff,
        digit_lt_digit_iff (by omega) (by omega), digit_lt_digit_iff (by omega) (by omega),
        digit_inj (by omega) (by omega), digit_inj (by omega) (by omega), ih, less, same]
      tauto

/-- A numeral that is filled up with zeros grows by its last digit. The width must be positive, because the
numeral of zero is not empty. -/
theorem leftpad_ofNat {width q d : Nat} (wide : 0 < width) (small : d < 16) :
    (ofNat (q * 16 + d)).leftpad (width + 1) '0' = (ofNat q).leftpad width '0' ++ [d.digitChar] := by
  obtain ⟨width, rfl⟩ := Nat.exists_eq_add_one.2 wide
  unfold ofNat
  by_cases single : q = 0
  · subst single
    rw [Nat.zero_mul, Nat.zero_add, Nat.toDigits_of_lt_base small]
    simp [List.leftpad, List.replicate_succ']
  · have large : 16 ≤ q * 16 + d := by omega
    have front : (q * 16 + d) / 16 = q := by omega
    have last : (q * 16 + d) % 16 = d := by omega
    rw [Nat.toDigits_of_base_le (by decide) large, front, last]
    simp [List.leftpad]

/-- Hex text is the numeral of the number that the bytes write, filled up with zeros. -/
theorem encode_eq_leftpad {bytes : List UInt8} (nonempty : bytes ≠ []) :
    encode bytes = (ofNat (BigEndian.value bytes)).leftpad (2 * bytes.length) '0' := by
  -- The last byte has the lowest digits, so the induction takes bytes off the end.
  induction bytes using List.reverseRecOn with
  | nil => exact absurd rfl nonempty
  | append_singleton rest b ih =>
    have byte := b.toNat_lt
    have high : b.toNat / 16 < 16 := by omega
    have low : b.toNat % 16 < 16 := by omega
    have value : BigEndian.value (rest ++ [b]) =
        (BigEndian.value rest * 16 + b.toNat / 16) * 16 + b.toNat % 16 := by
      simp only [BigEndian.value, List.foldl_append, List.foldl_cons, List.foldl_nil]
      omega
    have digits : encode (rest ++ [b]) =
        encode rest ++ [(b.toNat / 16).digitChar] ++ [(b.toNat % 16).digitChar] := by
      rw [← digit_eq_digitChar high, ← digit_eq_digitChar low]
      simp [encode]
    have upper : encode rest ++ [(b.toNat / 16).digitChar] =
        (ofNat (BigEndian.value rest * 16 + b.toNat / 16)).leftpad (2 * rest.length + 1) '0' := by
      by_cases first : rest = []
      · subst first
        simp [encode, BigEndian.value, ofNat, List.leftpad, Nat.toDigits_of_lt_base high]
      · have wide : 0 < 2 * rest.length := Nat.mul_pos (by decide) (List.length_pos_iff.2 first)
        rw [ih first, leftpad_ofNat wide high]
    rw [value, digits, upper, ← leftpad_ofNat (Nat.succ_pos _) low, List.length_append]
    rfl

end Hex

namespace OperatorId

variable {a b : OperatorId}

theorem compare_eq_lt_iff_bytes_lt : compare a b = .lt ↔ a.bytes.toList < b.bytes.toList :=
  compare_eq_lt_iff_lt

theorem toList_text (id : OperatorId) : id.text.toList = '0' :: 'x' :: Hex.encode id.bytes.toList := by
  simp [text, Bytes.hex]

/-- The digits of an identifier are those of its number, filled up to 64. -/
theorem encode_bytes_eq_leftpad (id : OperatorId) :
    Hex.encode id.bytes.toList = (Hex.ofNat id.toU256.val).leftpad 64 '0' := by
  have width := id.bytes.length_toList
  have written : id.bytes.toList ≠ [] := List.ne_nil_of_length_pos (by omega)
  rw [Hex.encode_eq_leftpad written, width]
  rfl

/-- Texts are ordered as the identifiers. -/
theorem text_lt_text_iff : a.text < b.text ↔ compare a b = .lt := by
  rw [String.lt_iff, toList_text, toList_text, List.cons_lt_cons_iff, List.cons_lt_cons_iff,
    Hex.encode_lt_encode_iff, compare_eq_lt_iff_bytes_lt]
  simp

theorem text_ne_of_compare_eq_lt (less : compare a b = .lt) : a.text ≠ b.text := by
  intro same
  have before := text_lt_text_iff.2 less
  rw [same] at before
  exact String.lt_irrefl _ before

/-- Different identifiers have different texts, since one of the texts comes before the other. -/
theorem text_inj : a.text = b.text ↔ a = b := by
  constructor
  · intro same
    apply Std.LawfulEqOrd.eq_of_compare
    cases order : compare a b with
    | lt => exact absurd same (text_ne_of_compare_eq_lt order)
    | eq => rfl
    | gt => exact absurd same.symm (text_ne_of_compare_eq_lt (Std.OrientedCmp.gt_iff_lt.1 order))
  · exact congrArg text

/-- Identifiers are ordered as their bytes, as their numbers and as their texts, and each of the three
determines the identifier. -/
theorem ordered_as_numbers (a b : OperatorId) (n : U256) :
    (compare a b = .lt ↔ a.bytes.toList < b.bytes.toList) ∧
    (compare a b = .lt ↔ a.toU256.val < b.toU256.val) ∧
    ofU256 a.toU256 = a ∧ (ofU256 n).toU256 = n ∧
    (∃ digits : List Char, a.text = "0x" ++ String.ofList digits ∧ digits.length = 64 ∧
      digits ⊆ "0123456789abcdef".toList ∧ digits = (Hex.ofNat a.toU256.val).leftpad 64 '0') ∧
    (a.text = b.text ↔ a = b) ∧ (a.text < b.text ↔ compare a b = .lt) := by
  refine ⟨compare_eq_lt_iff_bytes_lt, compare_eq_lt_iff, ?_, ?_, ?_, text_inj, text_lt_text_iff⟩
  · exact OperatorId.ext (U256.toBytes_ofBytes a.bytes)
  · exact U256.ofBytes_toBytes n
  · refine ⟨Hex.encode a.bytes.toList, rfl, ?_, Hex.encode_subset _, encode_bytes_eq_leftpad a⟩
    rw [Hex.length_encode, a.bytes.length_toList]

-- Read from the last byte, 256 would come before 2.
example : compare (ofU256 ⟨2, by decide⟩) (ofU256 ⟨256, by decide⟩) = .lt ∧
    (ofU256 ⟨256, by decide⟩).text = "0x" ++ String.ofList (List.replicate 61 '0') ++ "100" := by decide

end OperatorId

end Attestation
