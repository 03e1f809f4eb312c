/-
Module: Attestation.Telemetry.Config
Purpose: What the log looks like: the name of the service, which messages are kept, where they go and in
  which format. Inside a container the format is JSON unless the environment says otherwise.
Main exports: TelemetryConfig, TelemetryConfig.default, TelemetryConfig.ofEnvironment
-/
import Attestation.Telemetry.Environment

namespace Attestation

/-- The configuration of the log. -/
structure TelemetryConfig where
  serviceName : String
  /-- The filter, unless the environment has one. -/
  logLevel : String
  consoleOutput : Bool
  jsonLogs : Bool
deriving DecidableEq

namespace TelemetryConfig

/-- The configuration unless something else is said. -/
def default : TelemetryConfig := ⟨"avs-aggregator", "info", true, false⟩

/-- Whether the process runs inside a container. -/
def inContainer (env : Environment) : Bool :=
  (env.get? "KUBERNETES_SERVICE_HOST").isSome || (env.get? "DOCKER_CONTAINER").isSome

/-- The configuration that an environment asks for. -/
def ofEnvironment (env : Environment) : TelemetryConfig where
  serviceName := (env.get? "AVS_SERVICE_NAME").getD default.serviceName
  logLevel := (env.get? "AVS_LOG_LEVEL" <|> env.get? "RUST_LOG").getD default.logLevel
  consoleOutput := (env.flag? "AVS_CONSOLE_OUTPUT").getD default.consoleOutput
  jsonLogs := (env.flag? "AVS_JSON_LOGS").getD (inContainer env)

end TelemetryConfig

end Attestation
