/-
Module: Attestation.Service.Config
Purpose: The limits of the service: how many submissions an inbox holds and how many tasks run at once.
  Neither may be zero.
Main exports: Config, Config.default, Config.validate, ConfigError
-/

namespace Attestation

/-- Why a configuration is refused. -/
inductive ConfigError where
  | invalidLimit (reason : String)
deriving DecidableEq

def ConfigError.message : ConfigError → String
  | invalidLimit reason => s!"Invalid limit: {reason}"

/-- The limits of a service. -/
structure Config where
  /-- How many submissions the inbox of a task holds before submitters wait. -/
  inboxCapacity : UInt64
  /-- How many tasks may be active at the same time. -/
  maxActiveTasks : UInt64
deriving DecidableEq

namespace Config

/-- The limits unless others are given. -/
def default : Config := ⟨1024, 10000⟩

/-- Accepts the limits, or reports the first that is zero. -/
def validate (c : Config) : Except ConfigError Unit :=
  if c.inboxCapacity = 0 then .error (.invalidLimit "signature_channel_capacity cannot be 0")
  else if c.maxActiveTasks = 0 then .error (.invalidLimit "max_active_tasks cannot be 0")
  else .ok ()

end Config

end Attestation
