/-
Module: Attestation.Time
Purpose: Instants and spans of time, both in milliseconds. The clock does not express every instant, and
  no sleep is longer than thirty years.
Main exports: longestSpan, later?, later?_eq_some, longestSleep, sleepUntil, deadline
-/

namespace Attestation

/-- The longest span of time: all seconds that 64 bits can count and the milliseconds of one more. -/
def longestSpan : Nat := (1 <<< 64) * 1000 - 1

/-- The instant a span after another, if the clock expresses it: it counts seconds in 63 bits. -/
def later? (now span : Nat) : Option Nat :=
  if now + span < (1 <<< 63) * 1000 then some (now + span) else none

theorem later?_eq_some {now span : Nat} (expressible : (later? now span).isSome = true) :
    later? now span = some (now + span) := by
  unfold later? at expressible ⊢
  split
  next => rfl
  next late =>
    rw [if_neg late] at expressible
    cases expressible

/-- The longest sleep: thirty years of 365 days. -/
def longestSleep : Nat := 30 * 365 * 24 * 60 * 60 * 1000

/-- When a sleep ends that begins now. One that would be too long ends after the longest sleep. -/
def sleepUntil (now span : Nat) : Nat := now + min span longestSleep

/-- Until when something is waited for. An end that the clock does not express is as far away as the end
of the longest sleep. -/
def deadline (now span : Nat) : Nat := (later? now span).getD (now + longestSleep)

end Attestation
