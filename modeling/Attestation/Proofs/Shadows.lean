/-
Module: Attestation.Proofs.Shadows
Purpose: The calls of one worker beside a service in which they are alone. There they are numbered in the
  order in which they were made, and their worker is the only one. Room is kept for the same calls, the
  same verdicts come to them, and they return the same.
Main exports: Call.isolate, Shadows, Shadows.callsAt, Shadows.keepRoom, Shadows.noteAll
-/
import Attestation.Proofs.Handling
import Attestation.Proofs.Renumbering

namespace Attestation

/-- A call in a service in which its worker is the only one. -/
def Call.isolate {ρ : Type} (f : CallId → CallId) (call : Call ρ) : Call ρ :=
  { call with worker := 0, submission := call.submission.renumber f }

/-- Of the calls in one map those of a worker are listed, and they alone are in the other map, each under
its place in the list. -/
structure Shadows {ρ : Type} (v : WorkerId) (own : List CallId) (c c' : SortedMap CallId (Call ρ)) :
    Prop where
  calls : ∀ k, c'.get? k = own[k]?.bind fun id => (c.get? id).map (·.isolate own.idxOf)
  addressed : ∀ id call, c.get? id = some call → (id ∈ own ↔ call.worker = v)

theorem idxOf_of_getElem? {α : Type} [DecidableEq α] {l : List α} (once : l.Nodup) {k : Nat} {x : α}
    (listed : l[k]? = some x) : l.idxOf x = k := by
  obtain ⟨inside, rfl⟩ := List.getElem?_eq_some_iff.1 listed
  exact once.idxOf_getElem k inside

theorem eq_idxOf_iff {α : Type} [DecidableEq α] {l : List α} (once : l.Nodup) {k : Nat} {x y : α}
    (listed : l[k]? = some x) : k = l.idxOf y ↔ x = y := by
  constructor
  · rintro rfl
    obtain ⟨inside, found⟩ := List.getElem?_eq_some_iff.1 listed
    rw [List.getElem_idxOf] at found
    exact found.symm
  · rintro rfl
    exact (idxOf_of_getElem? once listed).symm

/-- In an ascending list the greater one comes later. -/
theorem idxOf_lt_idxOf {l : List Nat} (ascending : l.Pairwise (· < ·)) {x y : Nat} (first : x ∈ l)
    (second : y ∈ l) (less : x < y) : l.idxOf x < l.idxOf y := by
  have here := List.idxOf_lt_length_of_mem first
  have there := List.idxOf_lt_length_of_mem second
  by_contra order
  rcases Nat.lt_or_eq_of_le (Nat.not_lt.1 order) with later | same
  · have greater := List.pairwise_iff_getElem.1 ascending _ _ there here later
    rw [List.getElem_idxOf, List.getElem_idxOf] at greater
    exact Nat.lt_asymm less greater
  · have equal : l[l.idxOf y] = l[l.idxOf x] := by simp only [same]
    rw [List.getElem_idxOf, List.getElem_idxOf] at equal
    exact Nat.ne_of_gt less equal

namespace Service

variable {ρ σ : Type} {s r : Service ρ σ} {v : WorkerId}

/-- What a signal does to the calls depends on nothing else. -/
theorem calls_note_congr (same : s.calls = r.calls) (signal : Signal) :
    (s.note v signal).1.calls = (r.note v signal).1.calls := by
  cases signal with
  | taken =>
    show (s.keepRoom v).1.calls = (r.keepRoom v).1.calls
    unfold keepRoom firstInLine? callsAt
    rw [same]
    split
    · show s.calls.insert _ _ = r.calls.insert _ _
      rw [same]
    · exact same
  | verdict id task operator rejection =>
    apply SortedMap.ext_get?
    intro k
    rw [calls_note_verdict, calls_note_verdict, same]
  | _ => exact same

/-- Reports do nothing to the calls. -/
theorem calls_noteAll_deeds (signals : List Signal) : ∀ {s r : Service ρ σ}, s.calls = r.calls →
    (s.noteAll v signals).1.calls = (r.noteAll v (signals.filter (!·.isReport))).1.calls := by
  induction signals with
  | nil => exact fun same => same
  | cons signal rest ih =>
    intro s r same
    rw [noteAll_cons, List.filter_cons]
    split
    next =>
      rw [noteAll_cons]
      exact ih (calls_note_congr same signal)
    next report =>
      cases signal with
      | report event => exact ih same
      | _ => exact absurd rfl report

end Service

namespace Shadows

open Service

variable {ρ σ : Type} {v : WorkerId} {own : List CallId} {c c' : SortedMap CallId (Call ρ)} {id : CallId}

/-- The call of the worker is found under its place. -/
theorem get?_idxOf (shadows : Shadows v own c c') (mine : id ∈ own) :
    c'.get? (own.idxOf id) = (c.get? id).map (·.isolate own.idxOf) := by
  rw [shadows.calls, List.getElem?_idxOf mine]
  rfl

/-- What is found under any number is the call of the worker at that place. -/
theorem exists_of_get? (shadows : Shadows v own c c') (once : own.Nodup) {k : CallId} {call' : Call ρ}
    (found : c'.get? k = some call') : ∃ id call, id ∈ own ∧ own.idxOf id = k ∧ c.get? id = some call ∧
      call.worker = v ∧ call.isolate own.idxOf = call' := by
  rw [shadows.calls] at found
  obtain ⟨id, listed, found⟩ := Option.bind_eq_some_iff.1 found
  obtain ⟨call, found, same⟩ := Option.map_eq_some_iff.1 found
  have mine := List.mem_of_getElem? listed
  exact ⟨id, call, mine, idxOf_of_getElem? once listed, found, (shadows.addressed id call found).1 mine, same⟩

/-- The same is done to a call of the worker on both sides. -/
theorem insert (shadows : Shadows v own c c') (once : own.Nodup) (mine : id ∈ own) (call : Call ρ)
    (worker : call.worker = v) :
    Shadows v own (c.insert id call) (c'.insert (own.idxOf id) (call.isolate own.idxOf)) where
  calls k := by
    rw [SortedMap.get?_insert, shadows.calls]
    cases listed : own[k]? with
    | none =>
      have other : k ≠ own.idxOf id := by
        rintro rfl
        rw [List.getElem?_idxOf mine] at listed
        cases listed
      rw [if_neg other]
      rfl
    | some id' =>
      have place := eq_idxOf_iff once listed (y := id)
      rw [Option.bind_some, Option.bind_some, SortedMap.get?_insert]
      by_cases same : id' = id
      · rw [if_pos (place.2 same), if_pos same]
        rfl
      · rw [if_neg (mt place.1 same), if_neg same]
  addressed id' call' found := by
    rw [SortedMap.get?_insert] at found
    split at found
    next same =>
      cases found
      subst same
      exact iff_of_true mine worker
    next => exact shadows.addressed id' call' found

theorem erase (shadows : Shadows v own c c') (once : own.Nodup) (id : CallId) :
    Shadows v own (c.erase id) (c'.erase (own.idxOf id)) where
  calls k := by
    rw [SortedMap.get?_erase, shadows.calls]
    cases listed : own[k]? with
    | none => exact ite_self _
    | some id' =>
      have place := eq_idxOf_iff once listed (y := id)
      rw [Option.bind_some, Option.bind_some, SortedMap.get?_erase]
      by_cases same : id' = id
      · rw [if_pos (place.2 same), if_pos same]
        rfl
      · rw [if_neg (mt place.1 same), if_neg same]
  addressed id' call' found := by
    rw [SortedMap.get?_erase] at found
    split at found
    next => cases found
    next => exact shadows.addressed id' call' found

section Rooms

variable {s r : Service ρ σ}

/-- The calls at some stages are the same, in the same order. -/
theorem callsAt (shadows : Shadows v own s.calls r.calls) (ascending : own.Pairwise (· < ·))
    (stages : Stage → Bool) : r.callsAt 0 stages =
      (s.callsAt v stages).map fun e => (own.idxOf e.1, e.2.isolate own.idxOf) := by
  have once := ascending.imp (S := (· ≠ ·)) Nat.ne_of_lt
  have mine : ∀ e ∈ s.callsAt v stages, e.1 ∈ own := by
    rintro ⟨id, call⟩ listed
    obtain ⟨found, worker, -⟩ := mem_callsAt.1 listed
    exact (shadows.addressed id call found).2 worker
  have members : ∀ e, e ∈ r.callsAt 0 stages ↔
      e ∈ (s.callsAt v stages).map fun e => (own.idxOf e.1, e.2.isolate own.idxOf) := by
    rintro ⟨k, call'⟩
    rw [mem_callsAt, List.mem_map]
    constructor
    · rintro ⟨found, -, at'⟩
      obtain ⟨id, call, -, rfl, made, worker, rfl⟩ := shadows.exists_of_get? once found
      exact ⟨(id, call), mem_callsAt.2 ⟨made, worker, at'⟩, rfl⟩
    · rintro ⟨⟨id, call⟩, listed, same⟩
      cases same
      obtain ⟨found, -, at'⟩ := mem_callsAt.1 listed
      exact ⟨by rw [shadows.get?_idxOf (mine _ listed), found]; rfl, rfl, at'⟩
  -- Both lists ascend in the numbers, so they are equal when they have the same members.
  have before : ((r.callsAt 0 stages).Pairwise fun a b => a.1 < b.1) := by
    refine (r.calls.ascending.sublist List.filter_sublist).imp fun less => ?_
    exact Nat.compare_eq_lt.1 less
  have after : (((s.callsAt v stages).map fun e => (own.idxOf e.1, e.2.isolate own.idxOf)).Pairwise
      fun a b => a.1 < b.1) := by
    refine List.pairwise_map.2 ?_
    refine ((s.calls.ascending.sublist List.filter_sublist).imp_of_mem ?_)
    intro a b first second less
    exact idxOf_lt_idxOf ascending (mine a first) (mine b second) (Nat.compare_eq_lt.1 less)
  have distinct : ∀ l : List (CallId × Call ρ), (l.Pairwise fun a b => a.1 < b.1) → l.Nodup := fun l ordered =>
    ordered.imp fun less same => Nat.ne_of_lt less (congrArg Prod.fst same)
  refine ((List.perm_ext_iff_of_nodup (distinct _ before) (distinct _ after)).2 members).eq_of_pairwise ?_
    before after
  intro a b _ _ less greater
  exact absurd greater (Nat.lt_asymm less)

/-- The same call is first in line. -/
theorem firstInLine? (shadows : Shadows v own s.calls r.calls) (ascending : own.Pairwise (· < ·)) :
    r.firstInLine? 0 = (s.firstInLine? v).map fun e => (own.idxOf e.1, e.2.isolate own.idxOf) := by
  unfold Service.firstInLine?
  rw [shadows.callsAt ascending]
  dsimp only
  rw [List.find?_map]
  refine congrArg _ (congrArg (List.find? · _) (funext fun e => ?_))
  exact List.all_map

theorem lastPlace (shadows : Shadows v own s.calls r.calls) (ascending : own.Pairwise (· < ·)) :
    r.lastPlace 0 = s.lastPlace v := by
  unfold Service.lastPlace
  rw [shadows.callsAt ascending, List.foldr_map]
  rfl

/-- Room is kept for the same call. -/
theorem keepRoom (shadows : Shadows v own s.calls r.calls) (ascending : own.Pairwise (· < ·)) :
    Shadows v own (s.keepRoom v).1.calls (r.keepRoom 0).1.calls := by
  unfold Service.keepRoom
  rw [shadows.firstInLine? ascending]
  cases first : s.firstInLine? v with
  | none => exact shadows
  | some e =>
    obtain ⟨id, call⟩ := e
    obtain ⟨found, worker, -⟩ := mem_callsAt.1 (mem_of_firstInLine? first)
    have mine := (shadows.addressed id call found).2 worker
    exact shadows.insert (ascending.imp Nat.ne_of_lt) mine { call with stage := .admitted } worker

theorem verdict (shadows : Shadows v own s.calls r.calls) (once : own.Nodup) (id : CallId) (task : TaskIndex)
    (operator : OperatorId) (rejection : Option SignatureError) :
    Shadows v own (s.note v (.verdict id task operator rejection)).1.calls
      (r.note 0 (.verdict (own.idxOf id) task operator rejection)).1.calls where
  calls k := by
    rw [calls_note_verdict, shadows.calls k]
    cases listed : own[k]? with
    | none =>
      split
      next same => rw [← same, shadows.calls, listed]; rfl
      next => rfl
    | some id' =>
      have place := eq_idxOf_iff once listed (y := id)
      rw [Option.bind_some, Option.bind_some, calls_note_verdict]
      by_cases same : id' = id
      · subst same
        rw [if_pos (place.2 rfl), if_pos rfl, shadows.get?_idxOf (List.mem_of_getElem? listed), Option.map_map,
          Option.map_map]
        rfl
      · rw [if_neg (mt place.1 same), if_neg same]
  addressed id' call' found := by
    rw [calls_note_verdict] at found
    split at found
    next same =>
      obtain ⟨call, pending, rfl⟩ := Option.map_eq_some_iff.1 found
      rw [same]
      exact shadows.addressed id call pending
    next => exact shadows.addressed id' call' found

/-- A signal of the worker does the same to its calls, which have other numbers. -/
theorem note (shadows : Shadows v own s.calls r.calls) (ascending : own.Pairwise (· < ·)) (signal : Signal) :
    Shadows v own (s.note v signal).1.calls (r.note 0 (signal.renumber own.idxOf)).1.calls := by
  cases signal with
  | taken => exact shadows.keepRoom ascending
  | verdict id task operator rejection =>
    exact shadows.verdict (ascending.imp Nat.ne_of_lt) id task operator rejection
  | _ => exact shadows

theorem noteAll_renumber (ascending : own.Pairwise (· < ·)) (signals : List Signal) : ∀ {s r : Service ρ σ},
    Shadows v own s.calls r.calls → Shadows v own (s.noteAll v signals).1.calls
      (r.noteAll 0 (signals.map (Signal.renumber own.idxOf))).1.calls := by
  induction signals with
  | nil => exact fun shadows => shadows
  | cons signal rest ih => exact fun shadows => ih (shadows.note ascending signal)

/-- After turns that are the same under other numbers the calls are the same. -/
theorem noted (shadows : Shadows v own s.calls r.calls) (ascending : own.Pairwise (· < ·))
    {turn turn' : Turn ρ σ} (echoes : turn.Echoes own.idxOf turn') :
    Shadows v own (s.noted v turn).calls (r.noted 0 turn').calls := by
  have deeds := echoes.deeds
  unfold Turn.deeds at deeds
  have both := noteAll_renumber ascending (turn.signals.filter (!·.isReport)) shadows
  rw [← deeds, ← calls_noteAll_deeds turn.signals rfl, ← calls_noteAll_deeds turn'.signals rfl] at both
  exact both

end Rooms

end Shadows

end Attestation
