/-
Module: Attestation.Proofs.Documents
Purpose: The grammar of JSON texts, and that the parser reads every text of it. The grammar says which
  texts spell a document, with blanks wherever they may stand; documents keep their numbers and strings
  as they are written, so a text spells at most one. The text that is written for a document is one of
  those that spell it.
Main exports: JsonValue.Numeral, JsonValue.Piece, JsonValue.SpellsValue, JsonValue.Spells,
  JsonValue.parse?_of_spells, JsonValue.skippable_of_spells, JsonValue.spells_array,
  JsonValue.spells_object
-/
import Attestation.Json.Parser
import Mathlib.Data.List.DropRight

namespace Attestation.JsonValue

/-! ### The grammar -/

/-- Blanks that may stand between the parts of a document. -/
def Blank (cs : List Char) : Prop := ∀ c ∈ cs, isBlank c = true

/-- One or more decimal digits. -/
structure Digits (ds : List Char) : Prop where
  nonempty : ds ≠ []
  digit : ∀ d ∈ ds, isDigit d = true

/-- The whole part of a number. -/
inductive Whole : List Char → Prop where
  | zero : Whole ['0']
  | digits {ds} : Digits ds → ds.head? ≠ some '0' → Whole ds

/-- The part of a number after a point. -/
inductive Fraction : List Char → Prop where
  | absent : Fraction []
  | present {ds} : Digits ds → Fraction ('.' :: ds)

/-- The power of ten of a number. -/
inductive Exponent : List Char → Prop where
  | absent : Exponent []
  | unsigned {e ds} : e = 'e' ∨ e = 'E' → Digits ds → Exponent (e :: ds)
  | signed {e s ds} : e = 'e' ∨ e = 'E' → s = '+' ∨ s = '-' → Digits ds → Exponent (e :: s :: ds)

/-- A number. -/
inductive Numeral : List Char → Prop where
  | positive {w f e} : Whole w → Fraction f → Exponent e → Numeral (w ++ (f ++ e))
  | negative {w f e} : Whole w → Fraction f → Exponent e → Numeral ('-' :: (w ++ (f ++ e)))

/-- A piece of a string: a character that is neither a control character, a quote nor a backslash; one of
the one-letter escapes; or a code unit of four hex digits. -/
inductive Piece : StringPart → Prop where
  | plain {c} : 0x20 ≤ c.toNat → c ≠ '"' → c ≠ '\\' → Piece (.plain c)
  | escaped {c n} : StringPart.escapeValue? c = some n → Piece (.escaped c)
  | unit {a b c d va vb vc vd} : Hex.digitValue? a = some va → Hex.digitValue? b = some vb →
      Hex.digitValue? c = some vc → Hex.digitValue? d = some vd →
      Piece (.unit [a, b, c, d] (va * 4096 + vb * 256 + vc * 16 + vd))

mutual

/-- The texts of a document without blanks around it. -/
inductive SpellsValue : List Char → JsonValue → Prop where
  | null : SpellsValue ['n', 'u', 'l', 'l'] null
  | boolTrue : SpellsValue ['t', 'r', 'u', 'e'] (bool true)
  | boolFalse : SpellsValue ['f', 'a', 'l', 's', 'e'] (bool false)
  | number {lexeme} : Numeral lexeme → SpellsValue lexeme (number lexeme)
  | string {parts} : (∀ p ∈ parts, Piece p) → SpellsValue (writeParts parts) (string parts)
  | noItems {gap} : Blank gap → SpellsValue ('[' :: (gap ++ [']'])) (array [])
  | items {text items} : SpellsItems text items → SpellsValue ('[' :: (text ++ [']'])) (array items)
  | noMembers {gap} : Blank gap → SpellsValue ('\x7b' :: (gap ++ ['\x7d'])) (object [])
  | members {text members} : SpellsMembers text members →
      SpellsValue ('\x7b' :: (text ++ ['\x7d'])) (object members)

/-- The texts of a document. -/
inductive Spells : List Char → JsonValue → Prop where
  | padded {before text after j} : Blank before → SpellsValue text j → Blank after →
      Spells (before ++ (text ++ after)) j

/-- The texts of one item or more, with commas between them. -/
inductive SpellsItems : List Char → List JsonValue → Prop where
  | last {text j} : Spells text j → SpellsItems text [j]
  | more {text j texts js} : Spells text j → SpellsItems texts js →
      SpellsItems (text ++ ',' :: texts) (j :: js)

/-- The texts of one member or more, with commas between them. -/
inductive SpellsMembers : List Char → List (List StringPart × JsonValue) → Prop where
  | last {before k gap text j} : Blank before → (∀ p ∈ k, Piece p) → Blank gap → Spells text j →
      SpellsMembers (before ++ (writeParts k ++ (gap ++ ':' :: text))) [(k, j)]
  | more {before k gap text j texts ms} : Blank before → (∀ p ∈ k, Piece p) → Blank gap → Spells text j →
      SpellsMembers texts ms →
      SpellsMembers (before ++ (writeParts k ++ (gap ++ ':' :: (text ++ ',' :: texts)))) ((k, j) :: ms)

end

variable {cs ds w f e text rest before after lexeme : List Char} {c : Char} {j : JsonValue}
  {parts k : List StringPart} {items : List JsonValue} {members : List (List StringPart × JsonValue)}
  {fuel : Nat}

/-! ### Blanks -/

theorem blank_nil : Blank [] := fun _ listed => absurd listed List.not_mem_nil

/-- Blanks in front are skipped whole. -/
theorem skipBlanks_append (blank : Blank before) : skipBlanks (before ++ rest) = skipBlanks rest :=
  List.dropWhile_append_of_pos blank

theorem skipBlanks_cons (visible : isBlank c = false) : skipBlanks (c :: cs) = c :: cs := by
  simp [skipBlanks, visible]

theorem skipBlanks_skipBlanks (cs : List Char) : skipBlanks (skipBlanks cs) = skipBlanks cs :=
  List.dropWhile_idempotent isBlank cs

/-- A reader skips the blanks in front of a document itself. -/
theorem value?_skipBlanks (fuel : Nat) (cs : List Char) : value? fuel (skipBlanks cs) = value? fuel cs := by
  cases fuel <;> simp only [value?, skipBlanks_skipBlanks]

theorem items?_skipBlanks (fuel : Nat) (cs : List Char) : items? fuel (skipBlanks cs) = items? fuel cs := by
  cases fuel <;> simp only [items?, value?_skipBlanks]

theorem members?_skipBlanks (fuel : Nat) (cs : List Char) :
    members? fuel (skipBlanks cs) = members? fuel cs := by
  cases fuel <;> simp only [members?, skipBlanks_skipBlanks]

/-! ### Numbers -/

/-- Whether a number could go on with a character. -/
def isNumeric (c : Char) : Bool := isDigit c || c = '.' || c = 'e' || c = 'E'

/-- What follows a number does not prolong it. -/
def Stops (rest : List Char) : Prop := ∀ c ∈ rest.head?, isNumeric c = false

theorem stops_nil : Stops [] := fun _ first => nomatch first

theorem stops_cons (apart : isNumeric c = false) : Stops (c :: cs) := by
  intro d first
  cases first
  exact apart

/-- Blanks prolong no number, whatever follows them. -/
theorem Stops.append (stops : Stops rest) (blank : Blank before) : Stops (before ++ rest) := by
  have apart : ∀ c, isBlank c = true → isNumeric c = false := by
    intro c
    simp only [isBlank, Bool.or_eq_true, decide_eq_true_eq]
    rintro (((rfl | rfl) | rfl) | rfl) <;> decide
  cases before with
  | nil => exact stops
  | cons b before => exact stops_cons (apart b (blank b List.mem_cons_self))

/-- Digits end where the next character is none. -/
theorem digits?_append (digits : Digits ds) (ends : ∀ c ∈ rest.head?, isDigit c = false) :
    digits? (ds ++ rest) = some (ds, rest) := by
  have taken : (ds ++ rest).takeWhile isDigit = ds := by
    rw [List.takeWhile_append_of_pos digits.digit]
    cases rest with
    | nil => simp
    | cons c rest => simp [ends c rfl]
  have left : (ds ++ rest).dropWhile isDigit = rest := by
    rw [List.dropWhile_append_of_pos digits.digit]
    cases rest with
    | nil => rfl
    | cons c rest => simp [ends c rfl]
  unfold digits?
  rw [taken, left]
  cases ds with
  | nil => exact absurd rfl digits.nonempty
  | cons d ds => rfl

/-- What ends a number is no digit. -/
theorem Stops.noDigit (stops : Stops rest) : ∀ c ∈ rest.head?, isDigit c = false := by
  intro c first
  have apart := stops c first
  simp only [isNumeric, Bool.or_eq_false_iff] at apart
  exact apart.1.1.1

/-- An exponent is read to its end. -/
theorem exponent?_append (exponent : Exponent e) (stops : Stops rest) :
    exponent? (e ++ rest) = some (e, rest) := by
  cases exponent with
  | absent =>
    cases rest with
    | nil => rfl
    | cons c rest =>
      have apart := stops c rfl
      simp only [isNumeric, Bool.or_eq_false_iff, decide_eq_false_iff_not] at apart
      simp [exponent?, apart.1.2, apart.2]
  | @unsigned mark ds marked digits =>
    have read := digits?_append digits stops.noDigit
    cases ds with
    | nil => exact absurd rfl digits.nonempty
    | cons d ds =>
      have plus : d ≠ '+' := by
        rintro rfl
        exact absurd (digits.digit '+' List.mem_cons_self) (by decide)
      have minus : d ≠ '-' := by
        rintro rfl
        exact absurd (digits.digit '-' List.mem_cons_self) (by decide)
      simp only [List.cons_append] at read
      simp [exponent?, marked, read, plus, minus]
  | @signed mark s ds marked sign digits =>
    have read := digits?_append digits stops.noDigit
    rcases sign with rfl | rfl <;> simp [exponent?, marked, read]

/-- What follows a fraction, with an exponent or without one, prolongs neither the fraction nor the whole
part. -/
theorem Exponent.head? (exponent : Exponent e) (stops : Stops rest) :
    ∀ c ∈ (e ++ rest).head?, isDigit c = false ∧ c ≠ '.' := by
  intro c first
  cases exponent with
  | absent =>
    have apart := stops c first
    simp only [isNumeric, Bool.or_eq_false_iff, decide_eq_false_iff_not] at apart
    exact ⟨apart.1.1.1, apart.1.1.2⟩
  | unsigned marked =>
    cases first
    rcases marked with rfl | rfl <;> decide
  | signed marked =>
    cases first
    rcases marked with rfl | rfl <;> decide

/-- A fraction is read to its end. -/
theorem fraction?_append (fraction : Fraction f) (ends : ∀ c ∈ rest.head?, isDigit c = false ∧ c ≠ '.') :
    fraction? (f ++ rest) = some (f, rest) := by
  cases fraction with
  | absent =>
    cases rest with
    | nil => rfl
    | cons c rest => simp [fraction?, (ends c rfl).2]
  | present digits => simp [fraction?, digits?_append digits fun c first => (ends c first).1]

/-- So is the whole part, which has no zero in front of other digits. -/
theorem whole?_append (whole : Whole w) (ends : ∀ c ∈ rest.head?, isDigit c = false) :
    whole? (w ++ rest) = some (w, rest) := by
  cases whole with
  | zero => rfl
  | digits digits unpadded =>
    have read := digits?_append digits ends
    cases w with
    | nil => exact absurd rfl digits.nonempty
    | cons d ds =>
      have nonzero : d ≠ '0' := fun zero => unpadded (congrArg some zero)
      simp only [List.cons_append] at read
      simp [whole?, nonzero, read]

theorem Fraction.head? (fraction : Fraction f) (ends : ∀ c ∈ rest.head?, isDigit c = false ∧ c ≠ '.') :
    ∀ c ∈ (f ++ rest).head?, isDigit c = false := by
  intro c first
  cases fraction with
  | absent => exact (ends c first).1
  | present =>
    cases first
    decide

/-- The whole part has a first digit. -/
theorem Whole.head? (whole : Whole w) : ∃ d ds, w = d :: ds ∧ isDigit d = true := by
  cases whole with
  | zero => exact ⟨'0', [], rfl, by decide⟩
  | digits digits =>
    cases w with
    | nil => exact absurd rfl digits.nonempty
    | cons d ds => exact ⟨d, ds, rfl, digits.digit d List.mem_cons_self⟩

/-- A number begins with a digit or a minus, and so neither with a blank nor like anything else. -/
theorem Numeral.head? (numeral : Numeral lexeme) : ∃ c cs, lexeme = c :: cs ∧ isBlank c = false ∧
    ∀ d ∈ ['n', 't', 'f', '"', '[', ']', '\x7b', '\x7d'], c ≠ d := by
  cases numeral with
  | negative => exact ⟨'-', _, rfl, rfl, by simp⟩
  | positive whole =>
    rcases whole.head? with ⟨c, cs, rfl, digit⟩
    refine ⟨c, _, rfl, ?_, ?_⟩
    · simp only [isBlank, Bool.or_eq_false_iff, decide_eq_false_iff_not]
      refine ⟨⟨⟨?_, ?_⟩, ?_⟩, ?_⟩ <;> (rintro rfl; cases digit)
    · rintro d other rfl
      simp only [List.mem_cons, List.not_mem_nil, or_false] at other
      rcases other with rfl | rfl | rfl | rfl | rfl | rfl | rfl | rfl <;> cases digit

/-- A number is read to its end, and its text is kept as it is. -/
theorem number?_append (numeral : Numeral lexeme) (stops : Stops rest) :
    number? (lexeme ++ rest) = some (lexeme, rest) := by
  have parts : ∀ {w f e}, Whole w → Fraction f → Exponent e →
      whole? (w ++ (f ++ (e ++ rest))) = some (w, f ++ (e ++ rest)) ∧
      fraction? (f ++ (e ++ rest)) = some (f, e ++ rest) ∧ exponent? (e ++ rest) = some (e, rest) :=
    fun whole fraction exponent =>
      have ends := exponent.head? stops
      ⟨whole?_append whole (fraction.head? ends), fraction?_append fraction ends,
        exponent?_append exponent stops⟩
  cases numeral with
  | @positive w f e whole fraction exponent =>
    rcases parts whole fraction exponent with ⟨readWhole, readFraction, readExponent⟩
    rcases whole.head? with ⟨d, ds, rfl, digit⟩
    have unsigned : d ≠ '-' := by
      rintro rfl
      cases digit
    simp only [List.cons_append] at readWhole
    simp [number?, unsigned, readWhole, readFraction, readExponent]
  | negative whole fraction exponent =>
    rcases parts whole fraction exponent with ⟨readWhole, readFraction, readExponent⟩
    simp [number?, readWhole, readFraction, readExponent]

/-! ### Strings -/

/-- The parts of a string are read up to the closing quote. -/
theorem parts?_append (pieces : ∀ p ∈ parts, Piece p) :
    parts? (parts.flatMap StringPart.write ++ '"' :: rest) = some (parts, rest) := by
  induction parts with
  | nil => rfl
  | cons p parts ih =>
    rcases List.forall_mem_cons.1 pieces with ⟨first, pieces⟩
    have later := ih pieces
    cases first with
    | plain visible quote backslash =>
      simp [StringPart.write, parts?, backslash, later]
    | @escaped c n named =>
      have letter : c ≠ 'u' := by
        rintro rfl
        cases named
      simp [StringPart.write, parts?, letter, named, later]
    | unit a b c d => simp [StringPart.write, parts?, a, b, c, d, later]

/-- A name is read behind blanks. -/
theorem string?_append (blank : Blank before) (pieces : ∀ p ∈ parts, Piece p) :
    string? (skipBlanks (before ++ (writeParts parts ++ rest))) = some (parts, rest) := by
  have visible : isBlank '"' = false := by decide
  simp [skipBlanks_append blank, writeParts, skipBlanks_cons visible, string?, parts?_append pieces]

/-! ### Documents -/

/-- No document begins with a blank or with what ends an array or an object. -/
theorem SpellsValue.head? (spells : SpellsValue text j) :
    ∃ c cs, text = c :: cs ∧ isBlank c = false ∧ c ≠ ']' ∧ c ≠ '\x7d' := by
  cases spells with
  | number numeral =>
    rcases numeral.head? with ⟨c, cs, rfl, visible, apart⟩
    exact ⟨c, cs, rfl, visible, apart ']' (by decide), apart '\x7d' (by decide)⟩
  | _ => exact ⟨_, _, rfl, by decide⟩

/-- Behind its blanks no document begins with what ends an array or an object. -/
theorem Spells.head? (spells : Spells text j) (rest : List Char) :
    ∃ c cs, skipBlanks (text ++ rest) = c :: cs ∧ c ≠ ']' ∧ c ≠ '\x7d' := by
  cases spells with
  | padded blank value =>
    rcases value.head? with ⟨c, cs, rfl, visible, bracket, brace⟩
    rw [List.append_assoc, skipBlanks_append blank]
    exact ⟨c, _, skipBlanks_cons visible, bracket, brace⟩

/-- A list of items does not begin with the end of the array. -/
theorem SpellsItems.head? (spells : SpellsItems text items) (rest : List Char) :
    ∃ c cs, skipBlanks (text ++ rest) = c :: cs ∧ c ≠ ']' := by
  cases spells with
  | last item =>
    rcases item.head? rest with ⟨c, cs, found, bracket, -⟩
    exact ⟨c, cs, found, bracket⟩
  | @more text j texts js item =>
    rcases item.head? (',' :: texts ++ rest) with ⟨c, cs, found, bracket, -⟩
    exact ⟨c, cs, by rwa [List.append_assoc], bracket⟩

/-- Members begin with the quote of a name. -/
theorem SpellsMembers.head? (spells : SpellsMembers text members) (rest : List Char) :
    ∃ cs, skipBlanks (text ++ rest) = '"' :: cs := by
  cases spells with
  | last blank => exact ⟨_, by rw [List.append_assoc, skipBlanks_append blank]; rfl⟩
  | more blank => exact ⟨_, by rw [List.append_assoc, skipBlanks_append blank]; rfl⟩

/-- A number is what remains when no other beginning of a document fits. -/
theorem value?_number (fuel : Nat) (numeral : Numeral lexeme) (stops : Stops rest) :
    value? (fuel + 1) (lexeme ++ rest) = some (number lexeme, rest) := by
  have read := number?_append numeral stops
  rcases numeral.head? with ⟨c, cs, rfl, visible, apart⟩
  simp only [List.mem_cons, List.not_mem_nil, or_false, forall_eq_or_imp, forall_eq] at apart
  simp only [List.cons_append] at read
  simp [value?, skipBlanks_cons visible, apart, read]

-- The recursion is on the derivation. Steps suffice if there are more than twice as many as characters:
-- a bracket pays for the call that it leads to, and a comma for the next item and its value.
mutual

/-- Every text of a document is read from the front, whatever follows that does not prolong a number. -/
theorem value?_of_spellsValue : ∀ {text j}, SpellsValue text j → ∀ fuel rest, 2 * text.length < fuel →
    Stops rest → value? fuel (text ++ rest) = some (j, rest)
  | _, _, .null, fuel + 1, rest, _, _ => by simp [value?, skipBlanks, isBlank, word?]
  | _, _, .boolTrue, fuel + 1, rest, _, _ => by simp [value?, skipBlanks, isBlank, word?]
  | _, _, .boolFalse, fuel + 1, rest, _, _ => by simp [value?, skipBlanks, isBlank, word?]
  | _, _, .number numeral, fuel + 1, rest, _, stops => value?_number fuel numeral stops
  | _, _, .string pieces, fuel + 1, rest, _, _ => by
    simp [value?, skipBlanks, isBlank, writeParts, parts?_append pieces]
  | _, _, .noItems blank, fuel + 1, rest, _, _ => by
    have visible : isBlank '[' = false ∧ isBlank ']' = false := by decide
    simp [value?, skipBlanks_cons visible.1, skipBlanks_append blank, skipBlanks_cons visible.2]
  | _, _, .items items, fuel + 1, rest, enough, _ => by
    have visible : isBlank '[' = false := by decide
    have read := items?_of_spells items fuel rest (by simp at enough; omega)
    rcases items.head? (']' :: rest) with ⟨c, cs, found, bracket⟩
    rw [← items?_skipBlanks, found] at read
    simp [value?, skipBlanks_cons visible, found, bracket, read]
  | _, _, .noMembers blank, fuel + 1, rest, _, _ => by
    have visible : isBlank '\x7b' = false ∧ isBlank '\x7d' = false := by decide
    simp [value?, skipBlanks_cons visible.1, skipBlanks_append blank, skipBlanks_cons visible.2]
  | _, _, .members members, fuel + 1, rest, enough, _ => by
    have visible : isBlank '\x7b' = false := by decide
    have read := members?_of_spells members fuel rest (by simp at enough; omega)
    rcases members.head? ('\x7d' :: rest) with ⟨cs, found⟩
    rw [← members?_skipBlanks, found] at read
    simp [value?, skipBlanks_cons visible, found, read]

/-- The parser stops at the end of a document or at blanks that follow it. -/
theorem value?_of_spells : ∀ {text j}, Spells text j → ∀ fuel rest, 2 * text.length < fuel →
    Stops rest → ∃ left, value? fuel (text ++ rest) = some (j, left) ∧ skipBlanks left = skipBlanks rest
  | _, _, .padded before value after, fuel, rest, enough, stops => by
    have read := value?_of_spellsValue value fuel _ (by simp at enough; omega) (stops.append after)
    refine ⟨_, ?_, skipBlanks_append after⟩
    rw [← value?_skipBlanks, List.append_assoc, skipBlanks_append before, value?_skipBlanks,
      List.append_assoc, read]

/-- Items are read up to the end of the array. -/
theorem items?_of_spells : ∀ {text items}, SpellsItems text items → ∀ fuel rest,
    2 * text.length + 1 < fuel → items? fuel (text ++ ']' :: rest) = some (items, rest)
  | _, _, .last item, fuel + 1, rest, enough => by
    have visible : isBlank ']' = false := by decide
    rcases value?_of_spells item fuel (']' :: rest) (by omega) (stops_cons (by decide)) with
      ⟨left, read, same⟩
    rw [skipBlanks_cons visible] at same
    simp [items?, read, same]
  | _, _, @SpellsItems.more _ _ texts _ item items, fuel + 1, rest, enough => by
    have visible : isBlank ',' = false := by decide
    simp only [List.length_append, List.length_cons] at enough
    have later := items?_of_spells items fuel rest (by omega)
    rcases value?_of_spells item fuel (',' :: (texts ++ ']' :: rest)) (by omega) (stops_cons (by decide))
      with ⟨left, read, same⟩
    rw [skipBlanks_cons visible] at same
    simp [items?, read, same, later]

/-- Members are read up to the end of the object. -/
theorem members?_of_spells : ∀ {text members}, SpellsMembers text members → ∀ fuel rest,
    2 * text.length + 1 < fuel → members? fuel (text ++ '\x7d' :: rest) = some (members, rest)
  | _, _, .last before pieces gap value, fuel + 1, rest, enough => by
    have visible : isBlank ':' = false ∧ isBlank '\x7d' = false := by decide
    simp only [List.length_append, List.length_cons] at enough
    rcases value?_of_spells value fuel ('\x7d' :: rest) (by omega) (stops_cons (by decide)) with
      ⟨left, read, same⟩
    rw [skipBlanks_cons visible.2] at same
    simp [members?, string?_append before pieces, skipBlanks_append gap, skipBlanks_cons visible.1, read,
      same]
  | _, _, @SpellsMembers.more _ _ _ _ _ texts _ before pieces gap value members, fuel + 1, rest, enough => by
    have visible : isBlank ':' = false ∧ isBlank ',' = false := by decide
    simp only [List.length_append, List.length_cons] at enough
    have later := members?_of_spells members fuel rest (by omega)
    rcases value?_of_spells value fuel (',' :: (texts ++ '\x7d' :: rest)) (by omega)
      (stops_cons (by decide)) with ⟨left, read, same⟩
    rw [skipBlanks_cons visible.2] at same
    simp [members?, string?_append before pieces, skipBlanks_append gap, skipBlanks_cons visible.1, read,
      same, later]

end

/-- Every text of the grammar is read as the document that it spells. -/
theorem parse?_of_spells (spells : Spells text j) : parse? text = some j := by
  rcases value?_of_spells spells (2 * text.length + 1) [] (by omega) stops_nil with ⟨left, read, same⟩
  rw [List.append_nil] at read
  simp only [parse?, read, same, Option.bind_eq_bind, Option.bind_some]
  rfl

/-! ### Documents that nobody reads -/

/-- No part of a string in the grammar is a control character. -/
theorem noControl_of_pieces (pieces : ∀ p ∈ parts, Piece p) : StringPart.noControl parts = true := by
  rw [StringPart.noControl, List.all_eq_true]
  intro p listed
  cases pieces p listed with
  | plain visible => exact decide_eq_true visible
  | escaped => rfl
  | unit => rfl

mutual

/-- Nothing that the grammar spells is refused where nobody reads it. -/
theorem skippable_of_spellsValue : ∀ {text j}, SpellsValue text j → j.skippable = true
  | _, _, .null => rfl
  | _, _, .boolTrue => rfl
  | _, _, .boolFalse => rfl
  | _, _, .number _ => rfl
  | _, _, .string pieces => noControl_of_pieces pieces
  | _, _, .noItems _ => rfl
  | _, _, .items items => skippableItems_of_spells items
  | _, _, .noMembers _ => rfl
  | _, _, .members members => skippableMembers_of_spells members

/-- What a text of the grammar spells may stand where nobody reads it. -/
theorem skippable_of_spells : ∀ {text j}, Spells text j → j.skippable = true
  | _, _, .padded _ value _ => skippable_of_spellsValue value

theorem skippableItems_of_spells : ∀ {text items}, SpellsItems text items → skippableItems items = true
  | _, _, .last item => by simp [skippableItems, skippable_of_spells item]
  | _, _, .more item items => by
    simp [skippableItems, skippable_of_spells item, skippableItems_of_spells items]

theorem skippableMembers_of_spells : ∀ {text members}, SpellsMembers text members →
    skippableMembers members = true
  | _, _, .last _ pieces _ value => by
    simp [skippableMembers, noControl_of_pieces pieces, skippable_of_spells value]
  | _, _, .more _ pieces _ value members => by
    simp [skippableMembers, noControl_of_pieces pieces, skippable_of_spells value,
      skippableMembers_of_spells members]

end

/-! ### Texts without blanks -/

/-- A document may stand without blanks around it. -/
theorem SpellsValue.spells (spells : SpellsValue text j) : Spells text j := by
  have padded := Spells.padded blank_nil spells blank_nil
  rwa [List.nil_append, List.append_nil] at padded

/-- A text without characters that need an escape is written as it is. -/
theorem pieces_ofText {text : List Char} (plain : ∀ c ∈ text, Piece (.plain c)) :
    ∀ p ∈ StringPart.ofText text, Piece p := by
  intro p piece
  rcases List.mem_map.1 piece with ⟨c, listed, rfl⟩
  exact plain c listed

theorem spells_ofText {text : List Char} (plain : ∀ c ∈ text, Piece (.plain c)) :
    SpellsValue (ofText text).write (ofText text) :=
  .string (pieces_ofText plain)

theorem spellsItems_write : ∀ {items : List JsonValue}, items ≠ [] →
    (∀ j ∈ items, SpellsValue j.write j) → SpellsItems (writeItems items) items
  | [], nonempty, _ => absurd rfl nonempty
  | [j], _, each => .last (each j List.mem_cons_self).spells
  | j :: _ :: _, _, each =>
    .more (each j List.mem_cons_self).spells
      (spellsItems_write (List.cons_ne_nil _ _) fun _ listed => each _ (List.mem_cons_of_mem _ listed))

/-- An array that is written without blanks is in the grammar if its items are. -/
theorem spells_array (each : ∀ j ∈ items, SpellsValue j.write j) :
    SpellsValue (array items).write (array items) := by
  cases items with
  | nil => exact .noItems blank_nil
  | cons j rest => exact .items (spellsItems_write (List.cons_ne_nil _ _) each)

theorem spellsMembers_write : ∀ {members : List (List StringPart × JsonValue)}, members ≠ [] →
    (∀ m ∈ members, (∀ p ∈ m.1, Piece p) ∧ SpellsValue m.2.write m.2) →
    SpellsMembers (writeMembers members) members
  | [], nonempty, _ => absurd rfl nonempty
  | [(k, j)], _, each => by
    rcases each (k, j) List.mem_cons_self with ⟨pieces, value⟩
    exact .last blank_nil pieces blank_nil value.spells
  | (k, j) :: _ :: _, _, each => by
    rcases each (k, j) List.mem_cons_self with ⟨pieces, value⟩
    exact .more blank_nil pieces blank_nil value.spells
      (spellsMembers_write (List.cons_ne_nil _ _) fun _ listed => each _ (List.mem_cons_of_mem _ listed))

/-- So is an object, if its members are. -/
theorem spells_object (each : ∀ m ∈ members, (∀ p ∈ m.1, Piece p) ∧ SpellsValue m.2.write m.2) :
    SpellsValue (object members).write (object members) := by
  cases members with
  | nil => exact .noMembers blank_nil
  | cons m rest => exact .members (spellsMembers_write (List.cons_ne_nil _ _) each)

end Attestation.JsonValue
