/-
Module: Attestation.Telemetry.Environment
Purpose: The variables of the environment in which a process runs, and switches written in them. The
  value of a variable is any sequence of bytes; one that is not UTF-8 counts as absent.
Main exports: Environment, Environment.get?, Environment.flag?
-/

namespace Attestation

/-- The variables with their values; of variables with the same name the first counts. -/
abbrev Environment := List (String × List UInt8)

namespace Environment

/-- The text of a variable. -/
def get? (env : Environment) (name : String) : Option String := do
  let value ← env.lookup name
  String.fromUTF8? ⟨value.toArray⟩

/-- Whether a text switches something on; case does not matter. -/
def isOn (text : String) : Bool := text.toLower ∈ ["true", "1", "yes"]

/-- The switch in a variable. -/
def flag? (env : Environment) (name : String) : Option Bool := (env.get? name).map isOn

end Environment

end Attestation
