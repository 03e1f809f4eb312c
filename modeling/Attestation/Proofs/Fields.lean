/-
Module: Attestation.Proofs.Fields
Purpose: Records as JSON objects. An object stands for a record when it holds each field once, wherever
  it is, and whatever members of other names stand between; it is refused when a field stands twice in
  it, or in the record that one of its fields holds.
Main exports: JsonForms, JsonForms.record, JsonForms.RecordStands, JsonForms.RecordRepeats,
  recordFields?_of_stands, knownMembers?_of_repeats, JsonFormat.Follows, spells_recordObject,
  recordObject_stands
-/
import Attestation.Json.Format
import Attestation.Proofs.Documents
import Mathlib.Data.List.Forall2
import Mathlib.Data.List.Nodup

namespace Attestation

/-! ### Documents of a type -/

/-- The documents that stand for a value of a type, and those in which a field of a record is repeated. -/
structure JsonForms (α : Type) where
  stands : JsonValue → α → Prop
  repeats : JsonValue → Prop

/-- A field of a record: its name, and the documents of its value. -/
structure RecordField (α : Type) extends JsonForms α where
  name : String

namespace JsonForms

variable {α β : Type}

/-- Only the written document stands for a value, and it has no fields. -/
def exact (f : JsonFormat α) : JsonForms α := ⟨fun j a => j = f.write a, fun _ => False⟩

/-- The documents of a part stand for the whole. -/
def of (forms : JsonForms β) (part : α → β) : JsonForms α :=
  ⟨fun j a => forms.stands j (part a), forms.repeats⟩

/-- The field of the given name that holds a part. -/
def field (forms : JsonForms β) (name : String) (part : α → β) : RecordField α := ⟨forms.of part, name⟩

@[simp] theorem not_repeats_exact (f : JsonFormat α) (j : JsonValue) : ¬ (exact f).repeats j := id

@[simp] theorem repeats_field (forms : JsonForms β) (name : String) (part : α → β) (j : JsonValue) :
    (forms.field name part).repeats j ↔ forms.repeats j := Iff.rfl

/-- A document of the value, or `null` where there is none. -/
def option (forms : JsonForms α) : JsonForms (Option α) where
  stands j
    | none => j = .null
    | some a => forms.stands j a
  repeats := forms.repeats

/-- An object that holds each field once, in any order, among members of other names. -/
inductive RecordStands (fields : List (RecordField α)) : JsonValue → α → Prop where
  | object {members known others a} : members.Perm (known ++ others) →
      List.Forall₂ (fun m field => StringPart.text? m.1 = some field.name.toList ∧ field.stands m.2 a)
        known fields →
      (∀ m ∈ others, ∃ name, StringPart.text? m.1 = some name ∧ ∀ field ∈ fields, name ≠ field.name.toList) →
      RecordStands fields (.object members) a

/-- An object in which a field stands twice, or in which the value of a field has a field that does. -/
inductive RecordRepeats (fields : List (RecordField α)) : JsonValue → Prop where
  | twice {members m m' field} : field ∈ fields → [m, m'].Sublist members →
      StringPart.text? m.1 = some field.name.toList → StringPart.text? m'.1 = some field.name.toList →
      RecordRepeats fields (.object members)
  | within {members m field} : field ∈ fields → m ∈ members →
      StringPart.text? m.1 = some field.name.toList → field.repeats m.2 →
      RecordRepeats fields (.object members)

/-- The documents of a record. -/
def record (fields : List (RecordField α)) : JsonForms α := ⟨RecordStands fields, RecordRepeats fields⟩

end JsonForms

/-! ### Members of known names -/

section

variable {α : Type} {fields : List (RecordField α)} {names : List (List Char)} {name : List Char}
  {members : List (List StringPart × JsonValue)} {m m' : List StringPart × JsonValue}
  {known : List (List Char × JsonValue)} {j v : JsonValue} {a : α}

/-- A member with its name as text, if it has one of the given names. -/
def namedMember? (names : List (List Char)) (m : List StringPart × JsonValue) :
    Option (List Char × JsonValue) :=
  (StringPart.text? m.1).bind fun name => if names.any (· = name) then some (name, m.2) else none

theorem skippableMembers_iff : JsonValue.skippableMembers members = true ↔
    ∀ m ∈ members, StringPart.noControl m.1 = true ∧ m.2.skippable = true := by
  induction members with
  | nil => simp [JsonValue.skippableMembers]
  | cons m rest ih => simp [JsonValue.skippableMembers, ih]

/-- The members of the known names are found if all names are texts and no known one occurs twice. -/
theorem knownMembers?_eq (texts : ∀ m ∈ members, (StringPart.text? m.1).isSome)
    (skippable : ∀ m ∈ members, m.2.skippable = true)
    (distinct : ((members.filterMap (namedMember? names)).map (·.1)).Nodup) :
    knownMembers? names members = some (members.filterMap (namedMember? names)) := by
  induction members with
  | nil => rfl
  | cons m rest ih =>
    rcases List.forall_mem_cons.1 texts with ⟨named, texts⟩
    rcases List.forall_mem_cons.1 skippable with ⟨first, skippable⟩
    rcases Option.isSome_iff_exists.1 named with ⟨name, named⟩
    by_cases listed : name ∈ names
    · have here : namedMember? names m = some (name, m.2) := by simp [namedMember?, named, listed]
      rw [List.filterMap_cons_some here, List.map_cons, List.nodup_cons] at distinct
      have fresh : ((rest.filterMap (namedMember? names)).any (·.1 = name)) = false := by
        rw [List.any_eq_false]
        rintro earlier listed same
        exact distinct.1 (List.mem_map.2 ⟨earlier, listed, of_decide_eq_true same⟩)
      rw [List.filterMap_cons_some here]
      simp [knownMembers?, named, ih texts skippable distinct.2, listed, fresh]
    · have here : namedMember? names m = none := by simp [namedMember?, named, listed]
      rw [List.filterMap_cons_none here] at distinct ⊢
      simp [knownMembers?, named, ih texts skippable distinct, listed, first]

/-- What is found are the members of the known names, none of which occurs twice. -/
theorem knownMembers?_inv (found : knownMembers? names members = some known) :
    known = members.filterMap (namedMember? names) ∧ (known.map (·.1)).Nodup := by
  induction members generalizing known with
  | nil =>
    cases found
    exact ⟨rfl, List.nodup_nil⟩
  | cons m rest ih =>
    simp only [knownMembers?, Option.bind_eq_bind, Option.bind_eq_some_iff] at found
    rcases found with ⟨name, named, later, found, same⟩
    rcases ih found with ⟨rfl, distinct⟩
    split at same
    · next listed =>
      have here : namedMember? names m = some (name, m.2) := by simp [namedMember?, named, listed]
      split at same
      · cases same
      · next fresh =>
        cases same
        refine ⟨(List.filterMap_cons_some here).symm, List.nodup_cons.2 ⟨?_, distinct⟩⟩
        intro again
        rcases List.mem_map.1 again with ⟨earlier, listed, same⟩
        exact fresh (List.any_eq_true.2 ⟨earlier, listed, decide_eq_true same⟩)
    · next unlisted =>
      have here : namedMember? names m = none := by simp [namedMember?, named, unlisted]
      split at same
      · cases same
        exact ⟨(List.filterMap_cons_none here).symm, distinct⟩
      · cases same

/-- A name leads to its value where no name occurs twice. -/
theorem find?_of_mem (distinct : (known.map (·.1)).Nodup) (listed : (name, v) ∈ known) :
    (known.find? (·.1 = name)).map (·.2) = some v := by
  induction known with
  | nil => cases listed
  | cons first rest ih =>
    rw [List.map_cons, List.nodup_cons] at distinct
    rcases List.mem_cons.1 listed with rfl | listed
    · simp
    · have other : first.1 ≠ name := by
        rintro rfl
        exact distinct.1 (List.mem_map.2 ⟨_, listed, rfl⟩)
      simp [other, ih distinct.2 listed]

/-- The value under a name. -/
def valueOf (known : List (List Char × JsonValue)) (name : String) : Option JsonValue :=
  (known.find? (·.1 = name.toList)).map (·.2)

theorem recordFields?_object (names : List String) (spare : Nat) :
    recordFields? names spare (.object members) =
      (knownMembers? (names.map String.toList) members).map fun known => names.map (valueOf known) := by
  cases found : knownMembers? (names.map String.toList) members with
  | none => simp [recordFields?, found]
  | some known => simp [recordFields?, found, valueOf]

/-- The names of a record's fields as text. -/
def fieldNames (fields : List (RecordField α)) : List (List Char) :=
  (fields.map (·.name)).map String.toList

theorem namedMember?_of_field {field : RecordField α} (listed : field ∈ fields)
    (named : StringPart.text? m.1 = some field.name.toList) :
    namedMember? (fieldNames fields) m = some (field.name.toList, m.2) := by
  have known : field.name.toList ∈ fieldNames fields :=
    List.mem_map_of_mem (List.mem_map_of_mem listed)
  simp [namedMember?, named, known]

theorem namedMember?_of_other (named : StringPart.text? m.1 = some name)
    (other : ∀ field ∈ fields, name ≠ field.name.toList) : namedMember? (fieldNames fields) m = none := by
  have unknown : name ∉ fieldNames fields := by simpa [fieldNames, eq_comm] using other
  simp [namedMember?, named, unknown]

/-- Members that have the names of fields, one by one, are found under those names. -/
theorem map_filterMap_namedMember? {found : List (List StringPart × JsonValue)}
    {others : List (RecordField α)}
    (each : List.Forall₂ (fun m field => namedMember? names m = some (field.name.toList, m.2)) found others) :
    (found.filterMap (namedMember? names)).map (·.1) = fieldNames others := by
  induction each with
  | nil => rfl
  | cons first _ ih =>
    rw [List.filterMap_cons_some first, List.map_cons, ih]
    rfl

/-- What an object that stands for a record holds under the names of its fields. -/
theorem knownMembers?_of_stands (distinct : (fieldNames fields).Nodup)
    (stands : JsonForms.RecordStands fields (.object members) a)
    (skippable : ∀ m ∈ members, m.2.skippable = true) :
    ∃ known vs, knownMembers? (fieldNames fields) members = some known ∧
      List.Forall₂ (fun v field => valueOf known field.name = some v ∧ field.stands v a ∧ v.skippable = true)
        vs fields := by
  cases stands with
  | @object _ own others _ perm each apart =>
    -- the object's members are those of the fields and others, in some order
    have ours : List.Forall₂ (fun m field => m ∈ members ∧ field.stands m.2 a ∧
        namedMember? (fieldNames fields) m = some (field.name.toList, m.2)) own fields := by
      rcases List.forall₂_iff_zip.1 each with ⟨length, each⟩
      refine List.forall₂_iff_zip.2 ⟨length, fun {m field} zipped => ?_⟩
      rcases List.of_mem_zip zipped with ⟨own, listed⟩
      rcases each zipped with ⟨named, stands⟩
      exact ⟨perm.mem_iff.2 (List.mem_append_left _ own), stands, namedMember?_of_field listed named⟩
    have theirs : others.filterMap (namedMember? (fieldNames fields)) = [] := by
      rw [List.filterMap_eq_nil_iff]
      intro m listed
      rcases apart m listed with ⟨name, named, other⟩
      exact namedMember?_of_other named other
    have texts : ∀ m ∈ members, (StringPart.text? m.1).isSome := by
      intro m listed
      rcases List.mem_append.1 (perm.mem_iff.1 listed) with listed | listed
      · have named : List.Forall₂ (fun m _ => (StringPart.text? m.1).isSome ∧ True) own fields :=
          each.imp fun _ _ h => ⟨Option.isSome_of_mem h.1, trivial⟩
        exact ((List.forall₂_and_left _ _).1 named).1 m listed
      · rcases apart m listed with ⟨name, named, -⟩
        exact Option.isSome_of_mem named
    -- up to their order the names that are found are those of the fields
    have once : ((members.filterMap (namedMember? (fieldNames fields))).map (·.1)).Nodup := by
      have same := (perm.filterMap (namedMember? (fieldNames fields))).map (·.1)
      rw [List.filterMap_append, theirs, List.append_nil,
        map_filterMap_namedMember? (ours.imp fun _ _ h => h.2.2)] at same
      exact same.nodup_iff.2 distinct
    refine ⟨_, own.map (·.2), knownMembers?_eq texts skippable once, ?_⟩
    rw [List.forall₂_map_left_iff]
    apply ours.imp
    rintro m field ⟨listed, stands, named⟩
    exact ⟨find?_of_mem once (List.mem_filterMap.2 ⟨m, listed, named⟩), stands, skippable m listed⟩

/-- An object that stands for a record yields its fields. -/
theorem recordFields?_of_stands (names : List String) (same : fields.map (·.name) = names)
    (distinct : names.Nodup) (stands : JsonForms.RecordStands fields j a) (skippable : j.skippable = true)
    (spare : Nat) : ∃ vs, recordFields? names spare j = some (vs.map some) ∧
      List.Forall₂ (fun v field => field.stands v a ∧ v.skippable = true) vs fields := by
  subst same
  have object : ∃ members, j = .object members := by
    cases stands
    exact ⟨_, rfl⟩
  rcases object with ⟨members, rfl⟩
  have distinct : (fieldNames fields).Nodup := List.Nodup.map (fun _ _ => String.toList_inj.1) distinct
  rcases knownMembers?_of_stands distinct stands fun m listed =>
    (skippableMembers_iff.1 skippable m listed).2 with ⟨known, vs, found, each⟩
  refine ⟨vs, ?_, each.imp fun _ _ h => h.2⟩
  have values : (fields.map (·.name)).map (valueOf known) = vs.map some := by
    rw [List.map_map, ← List.forall₂_eq_eq_eq, List.forall₂_map_left_iff, List.forall₂_map_right_iff]
    exact (each.imp fun _ _ h => h.1).flip
  rw [recordFields?_object, ← values]
  exact Option.map_eq_some_iff.2 ⟨known, found, rfl⟩

/-- If an object in which a field is repeated yields fields at all, then one of them is itself such an
object. -/
theorem recordFields?_of_repeats (names : List String) (same : fields.map (·.name) = names)
    (repeats : JsonForms.RecordRepeats fields j) (spare : Nat) : recordFields? names spare j = none ∨
      ∃ value : String → Option JsonValue, recordFields? names spare j = some (names.map value) ∧
        ∃ field ∈ fields, ∃ v, value field.name = some v ∧ field.repeats v := by
  subst same
  have object : ∃ members, j = .object members := by
    cases repeats <;> exact ⟨_, rfl⟩
  rcases object with ⟨members, rfl⟩
  rw [recordFields?_object]
  cases found : knownMembers? (fieldNames fields) members with
  | none => exact .inl (Option.map_eq_none_iff.2 found)
  | some known =>
    refine .inr ⟨valueOf known, Option.map_eq_some_iff.2 ⟨known, found, rfl⟩, ?_⟩
    rcases knownMembers?_inv found with ⟨rfl, distinct⟩
    cases repeats with
    | @twice _ m m' field listed both first second =>
      have pair := (both.filterMap (namedMember? (fieldNames fields))).map (·.1)
      rw [List.filterMap_cons_some (namedMember?_of_field listed first),
        List.filterMap_cons_some (namedMember?_of_field listed second)] at pair
      have apart := distinct.sublist pair
      simp at apart
    | @within _ m field listed member named repeats =>
      exact ⟨field, listed, m.2, find?_of_mem distinct
        (List.mem_filterMap.2 ⟨m, member, namedMember?_of_field listed named⟩), repeats⟩

/-- If no field is a record itself, then an object in which a field is repeated yields nothing. -/
theorem recordFields?_of_repeats_flat (names : List String) (same : fields.map (·.name) = names)
    (flat : ∀ field ∈ fields, ∀ v, ¬ field.repeats v) (repeats : JsonForms.RecordRepeats fields j)
    (spare : Nat) : recordFields? names spare j = none := by
  rcases recordFields?_of_repeats names same repeats spare with unread | ⟨_, _, field, listed, v, _, repeats⟩
  · exact unread
  · exact absurd repeats (flat field listed v)

/-- An object with a member whose name is no text yields nothing, whatever the name. -/
theorem recordFields?_of_nameless (names : List String) (spare : Nat) (listed : m ∈ members)
    (nameless : StringPart.text? m.1 = none) : recordFields? names spare (.object members) = none := by
  have unknown : knownMembers? (names.map String.toList) members = none := by
    induction members with
    | nil => cases listed
    | cons first rest ih =>
      rcases List.mem_cons.1 listed with rfl | listed
      · simp [knownMembers?, nameless]
      · simp [knownMembers?, ih listed]
  rw [recordFields?_object, unknown, Option.map_none]

/-! ### Written records -/

/-- A name that is written without escapes. -/
def PlainName (name : String) : Prop := ∀ c ∈ name.toList, 0x20 ≤ c.toNat ∧ c ≠ '"' ∧ c ≠ '\\'

theorem PlainName.of {cs : List Char}
    (plain : (cs.all fun c => 0x20 ≤ c.toNat && c != '"' && c != '\\') = true) :
    PlainName (String.ofList cs) := by
  simpa [PlainName, and_assoc] using plain

theorem PlainName.pieces {name : String} (plain : PlainName name) :
    ∀ p ∈ StringPart.ofText name.toList, JsonValue.Piece p := by
  apply JsonValue.pieces_ofText
  intro c listed
  rcases plain c listed with ⟨visible, quote, backslash⟩
  exact .plain visible quote backslash

/-- Values that are read back one by one are read back as a list. -/
theorem mapM_map_of_reads {β γ : Type} {write : β → γ} {read? : γ → Option β}
    (reads : ∀ b, read? (write b) = some b) (bs : List β) : (bs.map write).mapM read? = some bs := by
  have one : read? ∘ write = fun b => pure (id b) := funext reads
  rw [List.mapM_map, one, List.mapM_pure, List.map_id]
  rfl

/-- A text that is written without escapes is read back. -/
theorem text?_ofText {text : List Char} (visible : ∀ c ∈ text, 0x20 ≤ c.toNat) :
    StringPart.text? (StringPart.ofText text) = some text := by
  have bare : StringPart.noControl (StringPart.ofText text) = true := by
    simpa [StringPart.noControl, StringPart.ofText] using visible
  have points : StringPart.codePoints (StringPart.ofText text) = text.map Char.toNat := by
    clear visible bare
    induction text with
    | nil => rfl
    | cons c rest ih =>
      rw [StringPart.ofText, List.map_cons, StringPart.codePoints, List.map_cons]
      exact congrArg _ ih
  rw [StringPart.text?, bare, if_pos rfl, points]
  apply mapM_map_of_reads
  intro c
  have valid : c.toNat.isValidChar := c.valid
  have same := Char.ofNat_toNat c
  rw [Char.ofNat, dif_pos valid] at same
  rw [dif_pos valid, same]

theorem PlainName.text? {name : String} (plain : PlainName name) :
    StringPart.text? (StringPart.ofText name.toList) = some name.toList :=
  text?_ofText fun c listed => (plain c listed).1

variable {written : List (String × JsonValue)}

theorem spells_recordObject (plain : ∀ m ∈ written, PlainName m.1)
    (each : ∀ m ∈ written, JsonValue.SpellsValue m.2.write m.2) :
    JsonValue.SpellsValue (recordObject written).write (recordObject written) := by
  apply JsonValue.spells_object
  intro m member
  rcases List.mem_map.1 member with ⟨⟨name, v⟩, listed, rfl⟩
  exact ⟨(plain (name, v) listed).pieces, each (name, v) listed⟩

theorem recordObject_stands (plain : ∀ m ∈ written, PlainName m.1)
    (each : List.Forall₂ (fun m field => m.1 = field.name ∧ field.stands m.2 a) written fields) :
    JsonForms.RecordStands fields (recordObject written) a := by
  have perm := List.Perm.of_eq
    (List.append_nil (written.map fun m => (StringPart.ofText m.1.toList, m.2))).symm
  refine .object perm ?_ (fun _ listed => absurd listed List.not_mem_nil)
  rw [List.forall₂_map_left_iff]
  refine ((List.forall₂_and_left _ _).2 ⟨plain, each⟩).imp ?_
  rintro ⟨_, v⟩ field ⟨plain, rfl, stands⟩
  exact ⟨plain.text?, stands⟩

/-- An object of all fields in their order stands for the record. -/
theorem recordObject_writes (each : List.Forall₂ (fun m field => m.1 = field.name ∧ PlainName m.1 ∧
      JsonValue.SpellsValue m.2.write m.2 ∧ field.stands m.2 a) written fields) :
    JsonValue.SpellsValue (recordObject written).write (recordObject written) ∧
      JsonForms.RecordStands fields (recordObject written) a := by
  have spelled : List.Forall₂ (fun m _ => (PlainName m.1 ∧ JsonValue.SpellsValue m.2.write m.2) ∧ True)
      written fields := each.imp fun _ _ h => ⟨⟨h.2.1, h.2.2.1⟩, trivial⟩
  have all := ((List.forall₂_and_left _ _).1 spelled).1
  exact ⟨spells_recordObject (fun m listed => (all m listed).1) (fun m listed => (all m listed).2),
    recordObject_stands (fun m listed => (all m listed).1) (each.imp fun _ _ h => ⟨h.1, h.2.2.2⟩)⟩

end

/-! ### Formats -/

/-- A format writes a document that stands for the value, reads every such document, and refuses those in
which a field is repeated. -/
structure JsonFormat.Follows {α : Type} (f : JsonFormat α) (forms : JsonForms α) : Prop where
  writes : ∀ a, JsonValue.SpellsValue (f.write a).write (f.write a) ∧ forms.stands (f.write a) a
  reads : ∀ j a, forms.stands j a → j.skippable = true → f.read? j = some a
  refuses : ∀ j, forms.repeats j → f.read? j = none

namespace JsonFormat

variable {α β : Type} {f : JsonFormat α} {forms : JsonForms α}

theorem Follows.reads_write (follows : f.Follows forms) (a : α) : f.read? (f.write a) = some a := by
  rcases follows.writes a with ⟨spells, stands⟩
  exact follows.reads _ a stands (JsonValue.skippable_of_spellsValue spells)

theorem follows_exact (spells : ∀ a, JsonValue.SpellsValue (f.write a).write (f.write a))
    (reads : ∀ a, f.read? (f.write a) = some a) : f.Follows (.exact f) where
  writes a := ⟨spells a, rfl⟩
  reads j a stands _ := by
    rw [stands]
    exact reads a
  refuses _ repeats := repeats.elim

/-- A value that is written as one of its parts, from which it is rebuilt. -/
theorem Follows.of (follows : f.Follows forms) (part : β → α) (whole : α → β)
    (rebuilt : ∀ b, whole (part b) = b) :
    (JsonFormat.mk (fun b => f.write (part b)) (fun j => (f.read? j).map whole)).Follows
      (forms.of part) where
  writes b := follows.writes (part b)
  reads j b stands skippable := by
    simp [follows.reads j (part b) stands skippable, rebuilt]
  refuses j repeats := by simp [follows.refuses j repeats]

theorem Follows.option (follows : f.Follows forms) (unread : f.read? .null = none)
    (whole : ¬ forms.repeats .null) : (option f).Follows forms.option where
  writes
    | none => ⟨.null, rfl⟩
    | some a => follows.writes a
  reads
    | j, none, stands, _ => by
      have null : j = .null := stands
      rw [null]
      rfl
    | j, some a, stands, skippable => by
      have read := follows.reads j a stands skippable
      cases j with
      | null => simp [unread] at read
      | _ => simp [JsonFormat.option, read]
  refuses j repeats := by
    have refused := follows.refuses j repeats
    cases j with
    | null => exact absurd repeats whole
    | _ => simp [JsonFormat.option, refused]

end JsonFormat

end Attestation
