/-
Module: Attestation.SortedMap
Purpose: Finite maps as lists of entries with strictly ascending keys. Two maps with the same entries
  are equal, a listing is ascending by key, and neither depends on the order in which entries arrived.
Main exports: SortedMap, SortedMap.get?, SortedMap.insert, SortedMap.erase, SortedMap.ofList,
  SortedMap.filter, SortedMap.mapValues, SortedMap.get?_insert, SortedMap.get?_erase,
  SortedMap.get?_eq_some_iff, SortedMap.contains_insert, SortedMap.mem_keys_iff, SortedMap.nodup_keys,
  SortedMap.get?_ofList, SortedMap.mem_of_get?_ofList, SortedMap.contains_ofList,
  SortedMap.get?_ofList_map, SortedMap.get?_filter, SortedMap.get?_mapValues, SortedMap.ext_get?,
  SortedMap.ofList_of_perm, SortedMap.lookup_of_perm
-/

namespace Attestation

/-- A finite map from `κ` to `ν`, kept as a list of entries with strictly ascending keys. -/
@[ext] structure SortedMap (κ ν : Type) [Ord κ] where
  toList : List (κ × ν)
  ascending : toList.Pairwise fun a b => compare a.1 b.1 = .lt

namespace SortedMap

variable {κ ν μ : Type} [Ord κ]

instance [DecidableEq κ] [DecidableEq ν] : DecidableEq (SortedMap κ ν) := fun a b =>
  decidable_of_iff (a.toList = b.toList) SortedMap.ext_iff.symm

/-- The map without entries. -/
def empty : SortedMap κ ν := ⟨[], .nil⟩

instance : EmptyCollection (SortedMap κ ν) := ⟨empty⟩

instance : Inhabited (SortedMap κ ν) := ⟨∅⟩

/-- The value of the first entry with the given key. -/
def lookup (k : κ) : List (κ × ν) → Option ν
  | [] => none
  | (k', v) :: rest => if compare k k' = .eq then some v else lookup k rest

/-- The value at a key. -/
def get? (m : SortedMap κ ν) (k : κ) : Option ν := lookup k m.toList

/-- Whether the map has the key. -/
def contains (m : SortedMap κ ν) (k : κ) : Bool := (m.get? k).isSome

/-- Puts an entry at its place in an ascending list, where it replaces an entry of the same key. -/
def place (k : κ) (v : ν) : List (κ × ν) → List (κ × ν)
  | [] => [(k, v)]
  | (k', v') :: rest =>
    match compare k k' with
    | .lt => (k, v) :: (k', v') :: rest
    | .eq => (k, v) :: rest
    | .gt => (k', v') :: place k v rest

theorem mem_place {k : κ} {v : ν} {entries : List (κ × ν)} {e : κ × ν}
    (h : e ∈ place k v entries) : e = (k, v) ∨ e ∈ entries := by
  induction entries with
  | nil => simpa [place] using h
  | cons hd tl ih =>
    rw [place] at h
    split at h
    · simpa using h
    · rcases List.mem_cons.1 h with h | h
      · exact .inl h
      · exact .inr (List.mem_cons_of_mem _ h)
    · rcases List.mem_cons.1 h with h | h
      · exact .inr (h ▸ List.mem_cons_self)
      · exact (ih h).imp id (List.mem_cons_of_mem _)

variable [Std.TransOrd κ] [Std.LawfulEqOrd κ]

theorem place_ascending (k : κ) (v : ν) {entries : List (κ × ν)}
    (h : entries.Pairwise fun a b => compare a.1 b.1 = .lt) :
    (place k v entries).Pairwise fun a b => compare a.1 b.1 = .lt := by
  induction entries with
  | nil => simp [place]
  | cons hd tl ih =>
    obtain ⟨hhd, htl⟩ := List.pairwise_cons.1 h
    rw [place]
    split
    next hlt =>
      refine List.pairwise_cons.2 ⟨fun e he => ?_, h⟩
      rcases List.mem_cons.1 he with rfl | he
      · exact hlt
      · exact Std.TransCmp.lt_trans hlt (hhd e he)
    next heq =>
      have hk : k = hd.1 := Std.LawfulEqCmp.eq_of_compare heq
      exact List.pairwise_cons.2 ⟨fun e he => hk ▸ hhd e he, htl⟩
    next hgt =>
      refine List.pairwise_cons.2 ⟨fun e he => ?_, ih htl⟩
      rcases mem_place he with rfl | he
      · exact Std.OrientedCmp.lt_of_gt hgt
      · exact hhd e he

/-- Sets the value at a key. -/
def insert (m : SortedMap κ ν) (k : κ) (v : ν) : SortedMap κ ν :=
  ⟨place k v m.toList, place_ascending k v m.ascending⟩

/-- The map of a list of entries; of entries with the same key the last one counts. -/
def ofList (entries : List (κ × ν)) : SortedMap κ ν :=
  entries.foldl (fun m e => m.insert e.1 e.2) ∅

omit [Std.TransOrd κ] [Std.LawfulEqOrd κ]

/-- Keeps the entries that pass a test. -/
def filter (m : SortedMap κ ν) (keep : κ → ν → Bool) : SortedMap κ ν :=
  ⟨m.toList.filter fun e => keep e.1 e.2, m.ascending.filter _⟩

/-- Removes the entry of a key. -/
def erase (m : SortedMap κ ν) (k : κ) : SortedMap κ ν := m.filter fun k' _ => compare k k' != .eq

/-- Replaces every value, with its key in view. -/
def mapValues (m : SortedMap κ ν) (f : κ → ν → μ) : SortedMap κ μ :=
  ⟨m.toList.map fun e => (e.1, f e.1 e.2), m.ascending.map _ fun _ _ h => h⟩

/-- The keys in ascending order. -/
def keys (m : SortedMap κ ν) : List κ := m.toList.map Prod.fst

/-- The values in the order of their keys. -/
def values (m : SortedMap κ ν) : List ν := m.toList.map Prod.snd

/-- The number of entries. -/
def size (m : SortedMap κ ν) : Nat := m.toList.length

/-- Whether there is no entry. -/
def isEmpty (m : SortedMap κ ν) : Bool := m.toList.isEmpty

/-! ### Looking up -/

@[simp] theorem get?_empty (k : κ) : (∅ : SortedMap κ ν).get? k = none := rfl

variable [Std.LawfulEqOrd κ]

theorem lookup_place [DecidableEq κ] (k k' : κ) (v : ν) (entries : List (κ × ν)) :
    lookup k' (place k v entries) = if k' = k then some v else lookup k' entries := by
  induction entries with
  | nil => simp [place, lookup]
  | cons hd tl ih =>
    obtain ⟨h, w⟩ := hd
    rw [place]
    split
    next => simp [lookup]
    next heq =>
      have hk : k = h := Std.LawfulEqCmp.eq_of_compare heq
      subst hk
      by_cases same : k' = k <;> simp [lookup, same]
    next hgt =>
      have apart : h ≠ k := by
        intro same
        subst same
        simp at hgt
      by_cases first : k' = h
      · subst first
        simp [lookup, apart]
      · simp [lookup, first, ih]

/-- Setting a value changes what is found at its key and nowhere else. -/
theorem get?_insert [DecidableEq κ] [Std.TransOrd κ] (m : SortedMap κ ν) (k k' : κ) (v : ν) :
    (m.insert k v).get? k' = if k' = k then some v else m.get? k' :=
  lookup_place k k' v m.toList

/-- Ascending keys are distinct. -/
theorem nodup_of_ascending {entries : List (κ × ν)}
    (sorted : entries.Pairwise fun a b => compare a.1 b.1 = .lt) : (entries.map Prod.fst).Nodup := by
  refine List.pairwise_map.2 (sorted.imp ?_)
  intro x y less same
  simp [same] at less

/-- In a list in which no key comes twice, what is found at a key is its entry. -/
theorem lookup_eq_some_iff_of_nodup {entries : List (κ × ν)} (distinct : (entries.map Prod.fst).Nodup)
    {k : κ} {v : ν} : lookup k entries = some v ↔ (k, v) ∈ entries := by
  induction entries with
  | nil => simp [lookup]
  | cons e rest ih =>
    obtain ⟨h, w⟩ := e
    obtain ⟨fresh, distinct⟩ := List.nodup_cons.1 distinct
    by_cases first : k = h
    · subst first
      have absent : (k, v) ∉ rest := fun later => fresh (List.mem_map.2 ⟨_, later, rfl⟩)
      simp [lookup, absent, eq_comm]
    · simp [lookup, first, ih distinct]

theorem lookup_eq_some_iff {entries : List (κ × ν)}
    (sorted : entries.Pairwise fun a b => compare a.1 b.1 = .lt) {k : κ} {v : ν} :
    lookup k entries = some v ↔ (k, v) ∈ entries :=
  lookup_eq_some_iff_of_nodup (nodup_of_ascending sorted)

/-- What is found at a key is its entry in the listing. -/
theorem get?_eq_some_iff {m : SortedMap κ ν} {k : κ} {v : ν} :
    m.get? k = some v ↔ (k, v) ∈ m.toList :=
  lookup_eq_some_iff m.ascending

/-- Setting a value adds its key to those that a map has. -/
theorem contains_insert [DecidableEq κ] [Std.TransOrd κ] (m : SortedMap κ ν) (k k' : κ) (v : ν) :
    (m.insert k v).contains k' = (decide (k' = k) || m.contains k') := by
  unfold contains
  rw [get?_insert]
  by_cases same : k' = k <;> simp [same]

omit [Std.LawfulEqOrd κ] in
theorem contains_iff_exists {m : SortedMap κ ν} {k : κ} : m.contains k = true ↔ ∃ v, m.get? k = some v := by
  rw [contains, Option.isSome_iff_exists]

/-- The listed keys are those that the map has. -/
theorem mem_keys_iff {m : SortedMap κ ν} {k : κ} : k ∈ m.keys ↔ m.contains k = true := by
  rw [contains_iff_exists, keys, List.mem_map]
  constructor
  · rintro ⟨e, member, rfl⟩
    exact ⟨e.2, get?_eq_some_iff.2 member⟩
  · rintro ⟨v, found⟩
    exact ⟨(k, v), get?_eq_some_iff.1 found, rfl⟩

/-- No key is listed twice. -/
theorem nodup_keys (m : SortedMap κ ν) : m.keys.Nodup := nodup_of_ascending m.ascending

theorem get?_foldl_insert [DecidableEq κ] [Std.TransOrd κ] {entries : List (κ × ν)} {k : κ} {v : ν}
    (distinct : (entries.map Prod.fst).Nodup) :
    ∀ m : SortedMap κ ν, (k, v) ∈ entries ∨ k ∉ entries.map Prod.fst ∧ m.get? k = some v →
      (entries.foldl (fun m e => m.insert e.1 e.2) m).get? k = some v := by
  induction entries with
  | nil => simp
  | cons e rest ih =>
    intro m place
    obtain ⟨fresh, distinct⟩ := List.nodup_cons.1 distinct
    refine ih distinct _ ?_
    rw [get?_insert]
    rcases place with member | ⟨absent, found⟩
    · rcases List.mem_cons.1 member with rfl | later
      · exact .inr ⟨fresh, if_pos rfl⟩
      · exact .inl later
    · obtain ⟨other, absent⟩ := not_or.1 (mt List.mem_cons.2 absent)
      exact .inr ⟨absent, by rw [if_neg other]; exact found⟩

/-- Where no key comes twice, every entry of a list is found in its map. -/
theorem get?_ofList [DecidableEq κ] [Std.TransOrd κ] {entries : List (κ × ν)} {k : κ} {v : ν}
    (distinct : (entries.map Prod.fst).Nodup) (member : (k, v) ∈ entries) :
    (ofList entries).get? k = some v :=
  get?_foldl_insert distinct ∅ (.inl member)

/-- What is found in the map of a list is one of its entries. -/
theorem mem_of_get?_ofList [DecidableEq κ] [Std.TransOrd κ] {entries : List (κ × ν)} {k : κ} {v : ν}
    (found : (ofList entries).get? k = some v) : (k, v) ∈ entries := by
  suffices larger : ∀ m : SortedMap κ ν,
      (entries.foldl (fun m e => m.insert e.1 e.2) m).get? k = some v →
        (k, v) ∈ entries ∨ m.get? k = some v by
    rcases larger ∅ found with listed | nothing
    · exact listed
    · cases nothing
  clear found
  induction entries with
  | nil => exact fun _ found => .inr found
  | cons e rest ih =>
    intro m found
    rcases ih _ found with later | first
    · exact .inl (List.mem_cons_of_mem e later)
    · rw [get?_insert] at first
      split at first
      next same =>
        cases first
        exact .inl (same ▸ List.mem_cons_self)
      next => exact .inr first

/-- The map of a list has the keys that come in it. -/
theorem contains_ofList [DecidableEq κ] [Std.TransOrd κ] (entries : List (κ × ν)) (k : κ) :
    (ofList entries).contains k = true ↔ k ∈ entries.map Prod.fst := by
  suffices larger : ∀ m : SortedMap κ ν,
      (entries.foldl (fun m e => m.insert e.1 e.2) m).contains k = true ↔
        k ∈ entries.map Prod.fst ∨ m.contains k = true by
    apply (larger ∅).trans
    simp [contains]
  induction entries with
  | nil => simp
  | cons e rest ih =>
    intro m
    rw [List.foldl_cons, ih, contains_insert, List.map_cons, List.mem_cons, Bool.or_eq_true,
      decide_eq_true_eq, or_left_comm, or_assoc]

/-- In a map of keys with their values under a function, the value of every listed key is found. -/
theorem get?_ofList_map [DecidableEq κ] [Std.TransOrd κ] (keys : List κ) (f : κ → ν) (k : κ) :
    (ofList (keys.map fun k => (k, f k))).get? k = if k ∈ keys then some (f k) else none := by
  suffices larger : ∀ m : SortedMap κ ν,
      ((keys.map fun k => (k, f k)).foldl (fun m e => m.insert e.1 e.2) m).get? k =
        if k ∈ keys then some (f k) else m.get? k from larger ∅
  induction keys with
  | nil => exact fun _ => rfl
  | cons k' rest ih =>
    intro m
    rw [List.map_cons, List.foldl_cons, ih, get?_insert]
    by_cases later : k ∈ rest
    · simp [later]
    · by_cases same : k = k' <;> simp [later, same]

/-- A value is kept if it passes the test. -/
theorem get?_filter (m : SortedMap κ ν) (keep : κ → ν → Bool) (k : κ) :
    (m.filter keep).get? k = (m.get? k).filter (keep k) := by
  apply Option.ext
  intro v
  rw [get?_eq_some_iff, Option.filter_eq_some_iff, get?_eq_some_iff]
  exact List.mem_filter

theorem get?_mapValues (m : SortedMap κ ν) (f : κ → ν → μ) (k : κ) :
    (m.mapValues f).get? k = (m.get? k).map (f k) := by
  apply Option.ext
  intro v
  rw [get?_eq_some_iff, Option.map_eq_some_iff]
  simp only [get?_eq_some_iff]
  constructor
  · intro listed
    obtain ⟨⟨k', w⟩, member, same⟩ := List.mem_map.1 listed
    cases same
    exact ⟨w, member, rfl⟩
  · rintro ⟨w, member, rfl⟩
    exact List.mem_map.2 ⟨_, member, rfl⟩

/-- Removing a key removes what is found there and nothing else. -/
theorem get?_erase [DecidableEq κ] (m : SortedMap κ ν) (k k' : κ) :
    (m.erase k).get? k' = if k' = k then none else m.get? k' := by
  apply Option.ext
  intro v
  rw [get?_eq_some_iff]
  by_cases same : k' = k
  · subst same
    simp [erase, filter]
  · have other : k ≠ k' := fun h => same h.symm
    simp [erase, filter, same, other, get?_eq_some_iff]

/-- Maps in which the same is found at every key are equal. -/
theorem ext_get? [Std.TransOrd κ] {a b : SortedMap κ ν} (h : ∀ k, a.get? k = b.get? k) : a = b := by
  have members : ∀ e, e ∈ a.toList ↔ e ∈ b.toList := by
    intro e
    rw [← get?_eq_some_iff, ← get?_eq_some_iff, h]
  apply SortedMap.ext
  have distinct : ∀ m : SortedMap κ ν, m.toList.Nodup := by
    intro m
    refine m.ascending.imp ?_
    intro x y less same
    subst same
    simp at less
  refine ((List.perm_ext_iff_of_nodup (distinct a) (distinct b)).2 members).eq_of_pairwise ?_
    a.ascending b.ascending
  intro x y _ _ less greater
  have := Std.OrientedCmp.gt_of_lt less
  rw [greater] at this
  cases this

/-- The map of a listing is the map itself, in whatever order the entries come. -/
theorem ofList_of_perm [DecidableEq κ] [Std.TransOrd κ] {entries : List (κ × ν)} {m : SortedMap κ ν}
    (same : entries.Perm m.toList) : ofList entries = m := by
  have distinct : (entries.map Prod.fst).Nodup := (same.map Prod.fst).nodup_iff.2 m.nodup_keys
  apply ext_get?
  intro k
  apply Option.ext
  intro v
  rw [get?_eq_some_iff (m := m), ← same.mem_iff]
  exact ⟨mem_of_get?_ofList, get?_ofList distinct⟩

/-- What is found in the listing of a map does not depend on the order in which the entries come. -/
theorem lookup_of_perm {entries : List (κ × ν)} {m : SortedMap κ ν} (same : entries.Perm m.toList)
    (k : κ) : lookup k entries = m.get? k := by
  have distinct : (entries.map Prod.fst).Nodup := (same.map Prod.fst).nodup_iff.2 m.nodup_keys
  apply Option.ext
  intro v
  rw [lookup_eq_some_iff_of_nodup distinct, get?_eq_some_iff, same.mem_iff]

end SortedMap

end Attestation
