/-
Module: Attestation.Proofs.Numerals
Purpose: Numbers survive being written in digits. A numeral is a list of digits below its base, and the
  number is what they add up to; decimal numerals are canonical, and a hex numeral of an amount is read
  back byte by byte, whether its number of digits is even or odd.
Main exports: exists_digits, canonicalNatural?_toDigits, U256.digitBytes?_digits, U256.ofHexText?_hexText
-/
import Attestation.Json.Format
import Mathlib.Data.Nat.Digits.Defs

namespace Attestation

/-- The number that digits stand for, the most significant first. -/
def digitsValue (base : Nat) (ds : List Nat) : Nat := ds.foldl (fun v d => v * base + d) 0

/-- A numeral consists of digits below its base that add up to the number. -/
theorem exists_digits {base : Nat} (proper : 1 < base) (n : Nat) :
    ∃ ds : List Nat, Nat.toDigits base n = ds.map Nat.digitChar ∧ (∀ d ∈ ds, d < base) ∧
      digitsValue base ds = n := by
  induction n using Nat.strongRecOn with
  | ind n ih =>
    by_cases small : n < base
    · exact ⟨[n], by simp [Nat.toDigits_of_lt_base small], by simpa using small, by simp [digitsValue]⟩
    · have large : base ≤ n := Nat.le_of_not_lt small
      rcases ih (n / base) (Nat.div_lt_self (by omega) proper) with ⟨ds, written, below, value⟩
      refine ⟨ds ++ [n % base], ?_, ?_, ?_⟩
      · rw [Nat.toDigits_of_base_le proper large, written, List.map_append, List.map_singleton]
      · intro d listed
        rcases List.mem_append.1 listed with earlier | last
        · exact below d earlier
        · rw [List.mem_singleton.1 last]
          exact Nat.mod_lt n (by omega)
      · unfold digitsValue at value ⊢
        rw [List.foldl_append, value, List.foldl_cons, List.foldl_nil]
        exact Nat.div_add_mod' n base

/-! ### Decimal numerals -/

theorem isDigit_digitChar {d : Nat} (small : d < 10) : JsonValue.isDigit d.digitChar = true := by
  have each : ∀ d < 10, JsonValue.isDigit d.digitChar = true := by decide
  exact each d small

theorem all_isDigit_toDigits (n : Nat) : (Nat.toDigits 10 n).all JsonValue.isDigit = true := by
  rcases exists_digits (by decide : 1 < 10) n with ⟨ds, written, below, -⟩
  simpa [written] using fun d listed => isDigit_digitChar (below d listed)

/-- Only the numeral of zero begins with a zero. -/
theorem head?_toDigits_eq_zero_iff (n : Nat) : (Nat.toDigits 10 n).head? = some '0' ↔ n = 0 := by
  have nonzero : ∀ d < 10, d.digitChar = '0' → d = 0 := by decide
  induction n using Nat.strongRecOn with
  | ind n ih =>
    by_cases small : n < 10
    · simp only [Nat.toDigits_of_lt_base small, List.head?_cons, Option.some.injEq]
      constructor
      · exact nonzero n small
      · rintro rfl
        rfl
    · have large : 10 ≤ n := Nat.le_of_not_lt small
      have earlier : (Nat.toDigits 10 (n / 10)).head? = some '0' ↔ n / 10 = 0 := ih (n / 10) (by omega)
      have first : (Nat.toDigits 10 (n / 10)).head?.isSome = true := by simp [Nat.toDigits_ne_nil]
      rw [Nat.toDigits_of_base_le (by decide) large, List.head?_append, Option.or_of_isSome first, earlier]
      omega

theorem decimalValue_toDigits (n : Nat) : decimalValue (Nat.toDigits 10 n) = n := by
  have digit : ∀ d < 10, d.digitChar.toNat - '0'.toNat = d := by decide
  rcases exists_digits (by decide : 1 < 10) n with ⟨ds, written, below, value⟩
  have same : ∀ v, (ds.map Nat.digitChar).foldl (fun v c => v * 10 + (c.toNat - '0'.toNat)) v =
      ds.foldl (fun v d => v * 10 + d) v := by
    clear written value
    induction ds with
    | nil => exact fun _ => rfl
    | cons d rest ih =>
      rcases List.forall_mem_cons.1 below with ⟨first, below⟩
      intro v
      rw [List.map_cons, List.foldl_cons, List.foldl_cons, digit d first, ih below]
  rw [decimalValue, written, same]
  exact value

/-- The decimal numeral of a number is its canonical one. -/
theorem canonicalNatural?_toDigits (n : Nat) : canonicalNatural? (Nat.toDigits 10 n) = some n := by
  have nonempty : (Nat.toDigits 10 n).isEmpty = false := by simp [Nat.toDigits_ne_nil]
  have unpadded : 1 < (Nat.toDigits 10 n).length → (Nat.toDigits 10 n).head? ≠ some '0' := by
    rw [Ne, head?_toDigits_eq_zero_iff]
    rintro long rfl
    simp at long
  unfold canonicalNatural?
  rw [nonempty, all_isDigit_toDigits, decimalValue_toDigits]
  simpa using unpadded

/-! ### Hex numerals of amounts -/

namespace U256

variable {buffer held d : Nat} {ds : List Nat} {cs : List Char}

/-- What a digit does to the buffer. -/
theorem digitBytes?_cons (small : d < 16) : digitBytes? buffer held (d.digitChar :: cs) =
    if held = 1 then (digitBytes? ((buffer * 16 + d) % 256) 0 cs).map
      (UInt8.ofNat ((buffer * 16 + d) % 256) :: ·)
    else digitBytes? ((buffer * 16 + d) % 256) 1 cs := by
  have value : ∀ d < 16, Hex.digitValue? d.digitChar = some d := by decide
  have dark : ∀ d < 16, (d.digitChar = ' ' || d.digitChar = '\n' || d.digitChar = '\t' ||
      d.digitChar = '\x0d') = false := by decide
  rw [digitBytes?, dark d small, value d small]
  simp only [Bool.false_eq_true, if_false, Option.bind_eq_bind, Option.bind_some]
  split
  · cases digitBytes? ((buffer * 16 + d) % 256) 0 cs <;> rfl
  · rfl

/-- An even number of digits fills bytes two by two, whatever was in the buffer before. -/
theorem digitBytes?_even : ∀ {ds : List Nat} (buffer : Nat), (∀ d ∈ ds, d < 16) → ds.length % 2 = 0 →
    ∃ bytes, digitBytes? buffer 0 (ds.map Nat.digitChar) = some bytes ∧
      ∀ v, bytes.foldl (fun v b => v * 256 + b.toNat) v = ds.foldl (fun v d => v * 16 + d) v
  | [], _, _, _ => ⟨[], rfl, fun _ => rfl⟩
  | [_], _, _, even => by simp at even
  | hi :: lo :: rest, buffer, small, even => by
    simp only [List.forall_mem_cons] at small
    rcases small with ⟨high, low, small⟩
    rcases digitBytes?_even (((buffer * 16 + hi) % 256 * 16 + lo) % 256) small
      (by simp only [List.length_cons] at even; omega) with ⟨bytes, filled, value⟩
    have byte : ((buffer * 16 + hi) % 256 * 16 + lo) % 256 = hi * 16 + lo := by omega
    refine ⟨UInt8.ofNat (hi * 16 + lo) :: bytes, ?_, ?_⟩
    · rw [List.map_cons, List.map_cons, digitBytes?_cons high, if_neg (by decide),
        digitBytes?_cons low, if_pos rfl, filled, byte]
      rfl
    · intro v
      have whole : (UInt8.ofNat (hi * 16 + lo)).toNat = hi * 16 + lo := by
        rw [UInt8.toNat_ofNat']
        omega
      simp only [List.foldl_cons, value, whole]
      congr 1
      omega

/-- Digits are read as bytes of the same value; if their number is odd, the first fills a byte alone. -/
theorem digitBytes?_digits (small : ∀ d ∈ ds, d < 16) : ∃ bytes,
    digitBytes? 0 (ds.length % 2) (ds.map Nat.digitChar) = some bytes ∧
      BigEndian.value bytes = digitsValue 16 ds := by
  rcases Nat.mod_two_eq_zero_or_one ds.length with even | odd
  · rcases digitBytes?_even 0 small even with ⟨bytes, filled, value⟩
    exact ⟨bytes, by rw [even, filled], value 0⟩
  · cases ds with
    | nil => cases odd
    | cons d rest =>
      rcases List.forall_mem_cons.1 small with ⟨first, small⟩
      have even : rest.length % 2 = 0 := by
        rw [List.length_cons] at odd
        omega
      have byte : (0 * 16 + d) % 256 = d := by omega
      rcases digitBytes?_even d small even with ⟨bytes, filled, value⟩
      refine ⟨UInt8.ofNat d :: bytes, ?_, ?_⟩
      · rw [odd, List.map_cons, digitBytes?_cons first, if_pos rfl, byte, filled]
        rfl
      · have whole : (UInt8.ofNat d).toNat = d := by
          rw [UInt8.toNat_ofNat']
          omega
        simpa [BigEndian.value, digitsValue, whole] using value d

/-- An amount is read back from its hex text. -/
theorem ofHexText?_hexText (a : U256) : ofHexText? a.hexText = some a := by
  have fits : (Nat.toDigits 16 a.val).length ≤ 64 := by
    rw [Nat.length_toDigits_le_iff (by decide) (by decide)]
    exact Nat.lt_of_lt_of_eq a.isLt (by decide)
  rcases exists_digits (by decide : 1 < 16) a.val with ⟨ds, written, below, value⟩
  rcases digitBytes?_digits below with ⟨bytes, filled, same⟩
  have length : (ds.map Nat.digitChar).length = ds.length := List.length_map _
  have nonempty : (ds.map Nat.digitChar).isEmpty = false := by
    simp [← written, Nat.toDigits_ne_nil]
  rw [written, length] at fits
  simp only [ofHexText?, hexText, dropMark, Hex.ofNat, written, length, nonempty, filled]
  have below : BigEndian.value bytes < 1 <<< 256 := by rw [same, value]; exact a.isLt
  simp only [ofNat?, dif_pos below, Nat.not_lt.2 fits, decide_false, Bool.or_false, Bool.false_eq_true,
    if_false, Option.bind_eq_bind, Option.bind_some]
  exact congrArg some (U256.ext (same.trans value))

end U256

end Attestation
