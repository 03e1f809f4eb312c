/-
Module: Attestation.Proofs.Encodings
Purpose: Different responses have different binary forms. Forms of parts follow one another without
  separators, and some carry no length, so more is shown: of two values of one type, neither form is the
  beginning of the other. Whoever knows the type can therefore tell where a form ends. Equal digests of
  different responses are then collisions of the hash function.
Main exports: ResponseType, Response.HasType, Response.HasType.exists_encode, Response.Delimits,
  Response.HasType.delimits, Response.encodings_distinct
-/
import Attestation.Proofs.Acceptance
import Attestation.Hasher

namespace Attestation

/-- A type of task responses. A record is a tuple of its fields. -/
inductive ResponseType where
  | unsigned (width : Width)
  | signed (width : Width)
  | bool
  | char
  | text
  | bytes
  | unit
  | option (content : ResponseType)
  | sequence (item : ResponseType)
  | tuple (items : List ResponseType)
  | map (key value : ResponseType)
  /-- The index of a variant tells what it carries, if anything. -/
  | variant (payload : UInt32 → Option ResponseType)

namespace Response

/-- The values of a type. Lengths and counts are those that eight bytes can hold; numbers are those of
their width, signed ones in two's complement. -/
inductive HasType : Response → ResponseType → Prop where
  | unsigned {width : Width} {value : Nat} (fits : value < LittleEndian.bound width.bytes) :
      HasType (.unsigned width value) (.unsigned width)
  | signed {width : Width} {value : Int} (above : -(LittleEndian.bound width.bytes : Int) ≤ 2 * value)
      (below : 2 * value < LittleEndian.bound width.bytes) :
      HasType (.signed width value) (.signed width)
  | bool {value : Bool} : HasType (.bool value) .bool
  | char {value : Char} : HasType (.char value) .char
  | text {value : String} (fits : value.utf8ByteSize < 1 <<< 64) : HasType (.text value) .text
  | bytes {value : List UInt8} (fits : value.length < 1 <<< 64) : HasType (.bytes value) .bytes
  | unit : HasType .unit .unit
  | none {content : ResponseType} : HasType .none (.option content)
  | some {content : ResponseType} {value : Response} (typed : HasType value content) :
      HasType (.some value) (.option content)
  | sequence {item : ResponseType} {items : List Response} (fits : items.length < 1 <<< 64)
      (typed : ∀ r ∈ items, HasType r item) : HasType (.sequence items) (.sequence item)
  | tuple {types : List ResponseType} {items : List Response} (same : types.length = items.length)
      (typed : ∀ type r, (type, r) ∈ types.zip items → HasType r type) :
      HasType (.tuple items) (.tuple types)
  | map {key value : ResponseType} {entries : List (Response × Response)} (fits : entries.length < 1 <<< 64)
      (keys : ∀ e ∈ entries, HasType e.1 key) (values : ∀ e ∈ entries, HasType e.2 value) :
      HasType (.map entries) (.map key value)
  | variant {payload : UInt32 → Option ResponseType} {index : UInt32}
      (empty : payload index = Option.none) : HasType (.variant index Option.none) (.variant payload)
  | variantOf {payload : UInt32 → Option ResponseType} {index : UInt32} {content : ResponseType}
      {value : Response} (carries : payload index = Option.some content)
      (typed : HasType value content) : HasType (.variant index (Option.some value)) (.variant payload)

/-! ### Forms of parts -/

variable {r a b : Response} {x y s s' : List UInt8} {n n' : Nat}

/-- The form of a present value is a byte and its own form. -/
theorem encode_some_eq_ok_iff :
    (Response.some r).encode = .ok x ↔ ∃ body, r.encode = .ok body ∧ 1 :: body = x := by
  simp [encode, bind_eq_ok_iff, pure, Except.pure]

/-- The form of a sequence is the number of its items and then their forms. -/
theorem encode_sequence_eq_ok_iff {items : List Response} :
    (sequence items).encode = .ok x ↔
      ∃ body, encodeAll items = .ok body ∧ count items.length ++ body = x := by
  simp [encode, bind_eq_ok_iff, pure, Except.pure]

/-- The form of a map is the number of its entries and then their forms. -/
theorem encode_map_eq_ok_iff {entries : List (Response × Response)} :
    (map entries).encode = .ok x ↔
      ∃ body, encodeEntries entries = .ok body ∧ count entries.length ++ body = x := by
  simp [encode, bind_eq_ok_iff, pure, Except.pure]

theorem encode_variant_eq_ok_iff {index : UInt32} :
    (variant index Option.none).encode = .ok x ↔ LittleEndian.encode 4 index.toNat = x := by
  simp [encode, pure, Except.pure, ok_bind]

/-- The form of a variant with content is its index and the form of the content. -/
theorem encode_variantOf_eq_ok_iff {index : UInt32} :
    (variant index (Option.some r)).encode = .ok x ↔
      ∃ body, r.encode = .ok body ∧ LittleEndian.encode 4 index.toNat ++ body = x := by
  simp [encode, bind_eq_ok_iff, pure, Except.pure]

theorem encodeAll_cons_eq_ok_iff {rest : List Response} :
    encodeAll (r :: rest) = .ok x ↔
      ∃ head, r.encode = .ok head ∧ ∃ tail, encodeAll rest = .ok tail ∧ head ++ tail = x := by
  simp [encodeAll, bind_eq_ok_iff, pure, Except.pure]

theorem encodeEntries_cons_eq_ok_iff {e : Response × Response} {rest : List (Response × Response)} :
    encodeEntries (e :: rest) = .ok x ↔ ∃ key, e.1.encode = .ok key ∧ ∃ value, e.2.encode = .ok value ∧
      ∃ tail, encodeEntries rest = .ok tail ∧ key ++ value ++ tail = x := by
  simp [encodeEntries, bind_eq_ok_iff, pure, Except.pure]

/-! ### Every value of a type has a form -/

/-- Items that all have forms have one together. -/
theorem exists_encodeAll {items : List Response} (each : ∀ r ∈ items, ∃ x, r.encode = .ok x) :
    ∃ x, encodeAll items = .ok x := by
  induction items with
  | nil => exact ⟨[], by simp [encodeAll]⟩
  | cons r rest ih =>
    rcases List.forall_mem_cons.1 each with ⟨⟨head, first⟩, each⟩
    rcases ih each with ⟨tail, later⟩
    exact ⟨head ++ tail, encodeAll_cons_eq_ok_iff.2 ⟨head, first, tail, later, rfl⟩⟩

/-- So have entries. -/
theorem exists_encodeEntries {entries : List (Response × Response)}
    (keys : ∀ e ∈ entries, ∃ x, e.1.encode = .ok x) (values : ∀ e ∈ entries, ∃ x, e.2.encode = .ok x) :
    ∃ x, encodeEntries entries = .ok x := by
  induction entries with
  | nil => exact ⟨[], by simp [encodeEntries]⟩
  | cons e rest ih =>
    rcases List.forall_mem_cons.1 keys with ⟨⟨key, first⟩, keys⟩
    rcases List.forall_mem_cons.1 values with ⟨⟨value, second⟩, values⟩
    rcases ih keys values with ⟨tail, later⟩
    exact ⟨_, encodeEntries_cons_eq_ok_iff.2 ⟨key, first, value, second, tail, later, rfl⟩⟩

/-- Every value of a type has a form: those of unknown length and those that refuse to be written are of no
type. -/
theorem HasType.exists_encode {type : ResponseType} (typed : r.HasType type) : ∃ x, r.encode = .ok x := by
  induction typed with
  | unsigned | signed | bool | char | text | bytes | unit | none => exact ⟨_, by rw [encode]⟩
  | some _ ih =>
    rcases ih with ⟨body, written⟩
    exact ⟨_, encode_some_eq_ok_iff.2 ⟨body, written, rfl⟩⟩
  | sequence _ _ ih =>
    rcases exists_encodeAll ih with ⟨body, written⟩
    exact ⟨_, encode_sequence_eq_ok_iff.2 ⟨body, written, rfl⟩⟩
  | @tuple types items same _ ih =>
    have each : ∀ r ∈ items, ∃ x, r.encode = .ok x := by
      intro r listed
      rcases List.mem_iff_getElem.1 listed with ⟨i, inside, rfl⟩
      apply ih types[i]
      exact List.mem_iff_getElem.2 ⟨i, by simpa [same] using inside, by simp⟩
    simpa [encode] using exists_encodeAll each
  | map _ _ _ keys values =>
    rcases exists_encodeEntries keys values with ⟨body, written⟩
    exact ⟨_, encode_map_eq_ok_iff.2 ⟨body, written, rfl⟩⟩
  | variant => exact ⟨_, encode_variant_eq_ok_iff.2 rfl⟩
  | variantOf _ _ ih =>
    rcases ih with ⟨body, written⟩
    exact ⟨_, encode_variantOf_eq_ok_iff.2 ⟨body, written, rfl⟩⟩

/-! ### Where a form ends -/

/-- Numbers of equally many bytes end at the same place. -/
theorem encode_append_inj {v v' : Nat}
    (same : LittleEndian.encode n v ++ s = LittleEndian.encode n v' ++ s') :
    v % LittleEndian.bound n = v' % LittleEndian.bound n ∧ s = s' := by
  rcases List.append_inj same (by simp) with ⟨words, rest⟩
  refine ⟨?_, rest⟩
  simpa [LittleEndian.value_encode] using congrArg LittleEndian.value words

/-- A length tells where it ends, and which one it is. -/
theorem count_append_inj (fits : n < 1 <<< 64) (fits' : n' < 1 <<< 64)
    (same : count n ++ s = count n' ++ s') : n = n' ∧ s = s' := by
  rcases encode_append_inj same with ⟨counts, rest⟩
  have whole : n < LittleEndian.bound 8 := fits
  have whole' : n' < LittleEndian.bound 8 := fits'
  rw [Nat.mod_eq_of_lt whole, Nat.mod_eq_of_lt whole'] at counts
  exact ⟨counts, rest⟩

/-- Numbers of a width are equal if their two's complements are. -/
theorem complement_inj {m : Nat} {v w : Int} (above : -(m : Int) ≤ 2 * v) (below : 2 * v < m)
    (above' : -(m : Int) ≤ 2 * w) (below' : 2 * w < m)
    (same : (v % m).toNat % m = (w % m).toNat % m) : v = w := by
  have positive : (0 : Int) < m := by omega
  have reduced : ∀ u : Int, ((u % m).toNat % m : Nat) = u % m := by
    intro u
    have := Int.emod_nonneg u (Int.ne_of_gt positive)
    have := Int.emod_lt_of_pos u positive
    rw [Nat.mod_eq_of_lt (by omega)]
    omega
  have residues : v % m = w % m := by rw [← reduced v, ← reduced w, same]
  have divides := Int.dvd_of_emod_eq_zero (Int.emod_eq_emod_iff_emod_sub_eq_zero.1 residues)
  have := Int.eq_zero_of_dvd_of_natAbs_lt_natAbs divides (by omega)
  omega

/-- The first byte of a character tells how many more there are. -/
theorem utf8EncodeChar_append_inj {c c' : Char}
    (same : String.utf8EncodeChar c ++ s = String.utf8EncodeChar c' ++ s') : c = c' ∧ s = s' := by
  have first : ∀ (c : Char) (s : List UInt8),
      ByteArray.utf8DecodeChar? (String.utf8EncodeChar c ++ s).toByteArray 0 = Option.some c := by
    intro c s
    rw [List.toByteArray_append]
    exact ByteArray.utf8DecodeChar?_utf8EncodeChar_append
  have chars : c = c' := Option.some.inj ((first c s).symm.trans (same ▸ first c' s'))
  subst chars
  exact ⟨rfl, List.append_cancel_left same⟩

/-- Texts of equally many bytes end at the same place. -/
theorem text_append_inj {t t' : String} (size : t.utf8ByteSize = t'.utf8ByteSize)
    (same : t.toUTF8.data.toList ++ s = t'.toUTF8.data.toList ++ s') : t = t' ∧ s = s' := by
  rcases List.append_inj same size with ⟨chars, rest⟩
  refine ⟨String.toByteArray_inj.1 ?_, rest⟩
  exact ByteArray.ext (Array.toList_inj.1 chars)

theorem index_append_inj {i i' : UInt32}
    (same : LittleEndian.encode 4 i.toNat ++ s = LittleEndian.encode 4 i'.toNat ++ s') :
    i = i' ∧ s = s' := by
  rcases encode_append_inj same with ⟨numbers, rest⟩
  refine ⟨UInt32.toNat_inj.1 ?_, rest⟩
  have fits : ∀ j : UInt32, j.toNat % LittleEndian.bound 4 = j.toNat :=
    fun j => Nat.mod_eq_of_lt j.toNat_lt
  rwa [fits, fits] at numbers

/-! ### Values that show where they end

One lemma for each rule of the typing. A rule about parts takes that the parts show where they end. -/

/-- Whatever follows the form of a value and that of another value of the type, if the bytes are the same,
then so are the values and what follows. -/
def Delimits (type : ResponseType) (a : Response) : Prop :=
  ∀ {b x y s s'}, b.HasType type → a.encode = .ok x → b.encode = .ok y → x ++ s = y ++ s' →
    a = b ∧ s = s'

theorem forall₂_replicate {α β : Type} {R : α → β → Prop} {n : Nat} {t : α} {xs : List β}
    (length : xs.length = n) (each : ∀ x ∈ xs, R t x) : List.Forall₂ R (List.replicate n t) xs := by
  subst length
  induction xs with
  | nil => exact .nil
  | cons x rest ih =>
    rcases List.forall_mem_cons.1 each with ⟨first, each⟩
    exact .cons first (ih each)

/-- If each item shows where it ends, so do the items of a sequence together. -/
theorem encodeAll_append_inj {types : List ResponseType} {items : List Response}
    (each : List.Forall₂ Delimits types items) : ∀ {items' : List Response} {x y : List UInt8},
    List.Forall₂ (fun type b => b.HasType type) types items' → encodeAll items = .ok x →
      encodeAll items' = .ok y → x ++ s = y ++ s' → items = items' ∧ s = s' := by
  induction each with
  | nil =>
    intro items' x y typed written written' same
    cases typed
    simp [encodeAll] at written written'
    subst written written'
    exact ⟨rfl, same⟩
  | cons first _ ih =>
    intro items' x y typed written written' same
    cases typed with
    | cons typed others =>
      rcases encodeAll_cons_eq_ok_iff.1 written with ⟨head, hr, tail, later, rfl⟩
      rcases encodeAll_cons_eq_ok_iff.1 written' with ⟨head', hr', tail', later', rfl⟩
      rw [List.append_assoc, List.append_assoc] at same
      rcases first typed hr hr' same with ⟨rfl, same⟩
      rcases ih others later later' same with ⟨rfl, same⟩
      exact ⟨rfl, same⟩

/-- So do the entries of a map. -/
theorem encodeEntries_append_inj {key value : ResponseType} {entries : List (Response × Response)}
    (keys : ∀ e ∈ entries, Delimits key e.1) (values : ∀ e ∈ entries, Delimits value e.2) :
    ∀ {entries' : List (Response × Response)} {x y : List UInt8}, entries.length = entries'.length →
      (∀ e ∈ entries', e.1.HasType key) → (∀ e ∈ entries', e.2.HasType value) →
      encodeEntries entries = .ok x → encodeEntries entries' = .ok y → x ++ s = y ++ s' →
      entries = entries' ∧ s = s' := by
  induction entries with
  | nil =>
    intro entries' x y length _ _ written written' same
    obtain rfl := List.length_eq_zero_iff.1 length.symm
    simp [encodeEntries] at written written'
    subst written written'
    exact ⟨rfl, same⟩
  | cons e rest ih =>
    intro entries' x y length typed typed' written written' same
    cases entries' with
    | nil => cases length
    | cons e' rest' =>
      rcases List.forall_mem_cons.1 keys with ⟨firstKey, keys⟩
      rcases List.forall_mem_cons.1 values with ⟨firstValue, values⟩
      rcases List.forall_mem_cons.1 typed with ⟨typedKey, typed⟩
      rcases List.forall_mem_cons.1 typed' with ⟨typedValue, typed'⟩
      rcases encodeEntries_cons_eq_ok_iff.1 written with ⟨k, hk, v, hv, tail, later, rfl⟩
      rcases encodeEntries_cons_eq_ok_iff.1 written' with ⟨k', hk', v', hv', tail', later', rfl⟩
      simp only [List.append_assoc] at same
      rcases firstKey typedKey hk hk' same with ⟨sameKey, same⟩
      rcases firstValue typedValue hv hv' same with ⟨sameValue, same⟩
      rcases ih keys values (Nat.succ.inj length) typed typed' later later' same with ⟨rfl, same⟩
      exact ⟨by rw [Prod.ext sameKey sameValue], same⟩

theorem delimits_unsigned {width : Width} {v : Nat} (fits : v < LittleEndian.bound width.bytes) :
    Delimits (.unsigned width) (.unsigned width v) := by
  intro b x y s s' typed' written written' same
  cases typed' with
  | unsigned fits' =>
    simp only [encode, Except.ok.injEq] at written written'
    subst written written'
    rcases encode_append_inj same with ⟨words, rest⟩
    rw [Nat.mod_eq_of_lt fits, Nat.mod_eq_of_lt fits'] at words
    exact ⟨by rw [words], rest⟩

/-- A number with a sign shows by its complement which one it is. -/
theorem delimits_signed {width : Width} {v : Int}
    (above : -(LittleEndian.bound width.bytes : Int) ≤ 2 * v)
    (below : 2 * v < LittleEndian.bound width.bytes) : Delimits (.signed width) (.signed width v) := by
  intro b x y s s' typed' written written' same
  cases typed' with
  | signed above' below' =>
    simp only [encode, Except.ok.injEq] at written written'
    subst written written'
    rcases encode_append_inj same with ⟨words, rest⟩
    exact ⟨by rw [complement_inj above below above' below' words], rest⟩

theorem delimits_bool {value : Bool} : Delimits .bool (.bool value) := by
  intro b x y s s' typed' written written' same
  cases typed' with
  | @bool value' =>
    simp only [encode, Except.ok.injEq] at written written'
    subst written written'
    cases value <;> cases value' <;> simp at same ⊢ <;> exact same

theorem delimits_char {value : Char} : Delimits .char (.char value) := by
  intro b x y s s' typed' written written' same
  cases typed' with
  | char =>
    simp only [encode, Except.ok.injEq] at written written'
    subst written written'
    simpa using utf8EncodeChar_append_inj same

theorem delimits_text {value : String} (fits : value.utf8ByteSize < 1 <<< 64) :
    Delimits .text (.text value) := by
  intro b x y s s' typed' written written' same
  cases typed' with
  | text fits' =>
    simp only [encode, Except.ok.injEq] at written written'
    subst written written'
    rw [List.append_assoc, List.append_assoc] at same
    rcases count_append_inj fits fits' same with ⟨size, same⟩
    simpa using text_append_inj size same

theorem delimits_bytes {value : List UInt8} (fits : value.length < 1 <<< 64) :
    Delimits .bytes (.bytes value) := by
  intro b x y s s' typed' written written' same
  cases typed' with
  | bytes fits' =>
    simp only [encode, Except.ok.injEq] at written written'
    subst written written'
    rw [List.append_assoc, List.append_assoc] at same
    rcases count_append_inj fits fits' same with ⟨length, same⟩
    simpa using List.append_inj same length

theorem delimits_unit : Delimits .unit .unit := by
  intro b x y s s' typed' written written' same
  cases typed' with
  | unit =>
    simp only [encode, Except.ok.injEq] at written written'
    subst written written'
    exact ⟨rfl, same⟩

/-- An absent value shows by its byte that none follows. -/
theorem delimits_none {content : ResponseType} : Delimits (.option content) .none := by
  intro b x y s s' typed' written written' same
  simp only [encode, Except.ok.injEq] at written
  subst written
  cases typed' with
  | none =>
    simp only [encode, Except.ok.injEq] at written'
    subst written'
    simpa using same
  | some =>
    rcases encode_some_eq_ok_iff.1 written' with ⟨body, -, rfl⟩
    simp at same

/-- A present value ends where its content ends. -/
theorem delimits_some {content : ResponseType} (inner : Delimits content r) :
    Delimits (.option content) (.some r) := by
  intro b x y s s' typed' written written' same
  rcases encode_some_eq_ok_iff.1 written with ⟨body, carried, rfl⟩
  cases typed' with
  | none =>
    simp only [encode, Except.ok.injEq] at written'
    subst written'
    simp at same
  | some typed' =>
    rcases encode_some_eq_ok_iff.1 written' with ⟨body', carried', rfl⟩
    rcases inner typed' carried carried' (List.cons.inj same).2 with ⟨rfl, rest⟩
    exact ⟨rfl, rest⟩

/-- A sequence ends after as many items as its length says. -/
theorem delimits_sequence {item : ResponseType} {items : List Response} (fits : items.length < 1 <<< 64)
    (each : ∀ r ∈ items, Delimits item r) : Delimits (.sequence item) (.sequence items) := by
  intro b x y s s' typed' written written' same
  cases typed' with
  | sequence fits' typed' =>
    rcases encode_sequence_eq_ok_iff.1 written with ⟨body, listed, rfl⟩
    rcases encode_sequence_eq_ok_iff.1 written' with ⟨body', listed', rfl⟩
    rw [List.append_assoc, List.append_assoc] at same
    rcases count_append_inj fits fits' same with ⟨length, same⟩
    rcases encodeAll_append_inj (forall₂_replicate rfl each) (forall₂_replicate length.symm typed')
      listed listed' same with ⟨rfl, rest⟩
    exact ⟨rfl, rest⟩

/-- A tuple ends after as many items as its type says. -/
theorem delimits_tuple {types : List ResponseType} {items : List Response}
    (each : List.Forall₂ Delimits types items) : Delimits (.tuple types) (.tuple items) := by
  intro b x y s s' typed' written written' same
  cases typed' with
  | tuple length typed' =>
    rw [encode] at written written'
    rcases encodeAll_append_inj each (List.forall₂_iff_zip.2 ⟨length, typed' _ _⟩) written written' same
      with ⟨rfl, rest⟩
    exact ⟨rfl, rest⟩

/-- A map ends after as many entries as its length says. -/
theorem delimits_map {key value : ResponseType} {entries : List (Response × Response)}
    (fits : entries.length < 1 <<< 64) (keys : ∀ e ∈ entries, Delimits key e.1)
    (values : ∀ e ∈ entries, Delimits value e.2) : Delimits (.map key value) (.map entries) := by
  intro b x y s s' typed' written written' same
  cases typed' with
  | map fits' typedKeys typedValues =>
    rcases encode_map_eq_ok_iff.1 written with ⟨body, entries, rfl⟩
    rcases encode_map_eq_ok_iff.1 written' with ⟨body', entries', rfl⟩
    rw [List.append_assoc, List.append_assoc] at same
    rcases count_append_inj fits fits' same with ⟨length, same⟩
    rcases encodeEntries_append_inj keys values length typedKeys typedValues entries entries' same
      with ⟨rfl, rest⟩
    exact ⟨rfl, rest⟩

/-- The index shows that a variant has no content. -/
theorem delimits_variant {payload : UInt32 → Option ResponseType} {index : UInt32}
    (empty : payload index = Option.none) : Delimits (.variant payload) (.variant index Option.none) := by
  intro b x y s s' typed' written written' same
  rw [encode_variant_eq_ok_iff] at written
  subst written
  cases typed' with
  | variant =>
    rw [encode_variant_eq_ok_iff] at written'
    subst written'
    rcases index_append_inj same with ⟨rfl, rest⟩
    exact ⟨rfl, rest⟩
  | variantOf carries' =>
    rcases encode_variantOf_eq_ok_iff.1 written' with ⟨body', -, rfl⟩
    rw [List.append_assoc] at same
    rcases index_append_inj same with ⟨rfl, -⟩
    simp [empty] at carries'

/-- The index shows which type the content of a variant has. -/
theorem delimits_variantOf {payload : UInt32 → Option ResponseType} {index : UInt32}
    {content : ResponseType} (carries : payload index = Option.some content)
    (inner : Delimits content r) : Delimits (.variant payload) (.variant index (Option.some r)) := by
  intro b x y s s' typed' written written' same
  rcases encode_variantOf_eq_ok_iff.1 written with ⟨body, carried, rfl⟩
  rw [List.append_assoc] at same
  cases typed' with
  | variant empty' =>
    rw [encode_variant_eq_ok_iff] at written'
    subst written'
    rcases index_append_inj same with ⟨rfl, -⟩
    simp [carries] at empty'
  | variantOf carries' typed' =>
    rcases encode_variantOf_eq_ok_iff.1 written' with ⟨body', carried', rfl⟩
    rw [List.append_assoc] at same
    rcases index_append_inj same with ⟨rfl, contents⟩
    obtain rfl := Option.some.inj (carries.symm.trans carries')
    rcases inner typed' carried carried' contents with ⟨rfl, rest⟩
    exact ⟨rfl, rest⟩

/-- The form of a value of a type tells where it ends. -/
theorem HasType.delimits {type : ResponseType} (typed : a.HasType type) : Delimits type a := by
  induction typed with
  | unsigned fits => exact delimits_unsigned fits
  | signed above below => exact delimits_signed above below
  | bool => exact delimits_bool
  | char => exact delimits_char
  | text fits => exact delimits_text fits
  | bytes fits => exact delimits_bytes fits
  | unit => exact delimits_unit
  | none => exact delimits_none
  | some _ ih => exact delimits_some ih
  | sequence fits _ ih => exact delimits_sequence fits ih
  | tuple same _ ih => exact delimits_tuple (List.forall₂_iff_zip.2 ⟨same, ih _ _⟩)
  | map fits _ _ keys values => exact delimits_map fits keys values
  | variant empty => exact delimits_variant empty
  | variantOf carries _ ih => exact delimits_variantOf carries ih

/-- Every value of a type has a binary form, and the forms of different values differ: neither is the
beginning of the other. So the standard hasher gives both the same digest only if the hash function takes
two different byte strings to it. -/
theorem encodings_distinct (type : ResponseType) (a b : Response) (typed : a.HasType type)
    (typed' : b.HasType type) :
    (∃ x, a.encode = .ok x) ∧
    (∀ x y, a.encode = .ok x → b.encode = .ok y → x <+: y → a = b) ∧
    ∀ d, keccakHasher a = .ok d → keccakHasher b = .ok d → a = b ∨
      ∃ x y, a.encode = .ok x ∧ b.encode = .ok y ∧ x ≠ y ∧ Keccak.hash256 x = Keccak.hash256 y := by
  have prefixFree : ∀ x y, a.encode = .ok x → b.encode = .ok y → x <+: y → a = b := by
    rintro x _ written written' ⟨rest, rfl⟩
    exact (typed.delimits typed' written written' (List.append_nil (x ++ rest)).symm).1
  refine ⟨typed.exists_encode, prefixFree, ?_⟩
  intro d hashed hashed'
  rcases typed.exists_encode with ⟨x, written⟩
  rcases typed'.exists_encode with ⟨y, written'⟩
  simp [keccakHasher, keccakDigest, written] at hashed
  simp [keccakHasher, keccakDigest, written'] at hashed'
  by_cases same : x = y
  · exact .inl (prefixFree x y written written' (same ▸ List.prefix_rfl))
  · exact .inr ⟨x, y, written, written', same, hashed.trans hashed'.symm⟩

/-- Two responses of a character, a list of optional numbers, a map and a variant. Both lists have the
same items, in another order. -/
theorem encodings_distinct_sample_pair :
    let payload : UInt32 → Option ResponseType := fun i => if i = 1 then Option.some .bytes else Option.none
    let type := ResponseType.tuple
      [.char, .sequence (.option (.signed .w16)), .map .text .bool, .variant payload]
    let response (items : List Response) := Response.tuple [.char 'é', .sequence items,
      .map [(.text "up", .bool true)], .variant 1 (Option.some (.bytes [7]))]
    let a := response [.some (.signed .w16 (-2)), .none]
    let b := response [.none, .some (.signed .w16 (-2))]
    a.HasType type ∧ b.HasType type ∧ (∃ x y, a.encode = .ok x ∧ b.encode = .ok y ∧ ¬ x <+: y) ∧
    ∀ d, keccakHasher a = .ok d → keccakHasher b = .ok d →
      ∃ x y, x ≠ y ∧ Keccak.hash256 x = Keccak.hash256 y := by
  intro payload type response a b
  have number : HasType (.some (.signed .w16 (-2))) (.option (.signed .w16)) :=
    .some (.signed (by decide) (by decide))
  have typed : ∀ items : List Response, items.length < 1 <<< 64 →
      (∀ r ∈ items, r.HasType (.option (.signed .w16))) → (response items).HasType type := by
    intro items fits each
    apply HasType.tuple rfl
    intro t r listed
    simp only [List.zip_cons_cons, List.zip_nil_left, List.mem_cons, Prod.mk.injEq, List.not_mem_nil,
      or_false] at listed
    rcases listed with ⟨rfl, rfl⟩ | ⟨rfl, rfl⟩ | ⟨rfl, rfl⟩ | ⟨rfl, rfl⟩
    · exact .char
    · exact .sequence fits each
    · exact .map (by decide) (by simpa using .text (by decide)) (by simpa using .bool)
    · exact .variantOf rfl (.bytes (by decide))
  have first : a.HasType type := typed _ (by decide) (by simpa using ⟨number, .none⟩)
  have second : b.HasType type := typed _ (by decide) (by simpa using ⟨.none, number⟩)
  have different : a ≠ b := by simp [a, b, response]
  rcases encodings_distinct type a b first second with ⟨⟨x, written⟩, prefixFree, digests⟩
  rcases encodings_distinct type b a second first with ⟨⟨y, written'⟩, -⟩
  refine ⟨first, second, ⟨x, y, written, written', ?_⟩, ?_⟩
  · intro begins
    exact different (prefixFree x y written written' begins)
  · intro d hashed hashed'
    rcases digests d hashed hashed' with same | ⟨x, y, -, -, collision⟩
    · exact absurd same different
    · exact ⟨x, y, collision⟩

end Response

end Attestation
