/-
Module: Attestation.Telemetry.Subscriber
Purpose: Setting up the log of a process. The log can be set up once; the filter is read before that.
  What is set up for the console says so in its first line.
Main exports: TelemetryError, LogField, LogLine, LogLine.text, Telemetry, Telemetry.setUp,
  Telemetry.setUpForTests
-/
import Attestation.Failure
import Attestation.Telemetry.Config
import Attestation.Telemetry.Filter

namespace Attestation

/-- Why telemetry fails. -/
inductive TelemetryError where
  | tracerInit (reason : String)
  | metricsInit (reason : String)
deriving DecidableEq

def TelemetryError.message : TelemetryError → String
  | tracerInit reason => s!"Failed to initialize tracing subscriber: {reason}"
  | metricsInit reason => s!"Failed to encode Prometheus metrics: {reason}"

/-- A value in a line of the log. -/
inductive LogField where
  | text (s : String)
  | flag (b : Bool)
deriving DecidableEq

/-- The value as it is shown in a line of text. -/
def LogField.show : LogField → String
  | text s => s
  | flag b => toString b

/-- A line of the log. -/
structure LogLine where
  json : Bool
  level : String
  target : String
  message : String
  fields : List (String × LogField)
deriving DecidableEq

namespace LogLine

/-- Text in a style of the terminal, which has a number. -/
def styled (style : Nat) (text : String) : String := s!"\x1b[{style}m{text}\x1b[0m"

/-- The line in colours, without its time. -/
def coloured (l : LogLine) : String :=
  let field := fun ((name, value) : String × LogField) =>
    " " ++ styled 3 name ++ styled 2 "=" ++ value.show
  styled 32 l.level ++ " " ++ styled 2 l.target ++ styled 2 ":" ++ " " ++ l.message ++
    String.join (l.fields.map field)

/-- Text without the marks that set styles. A mark goes from an escape character to the next letter m; the
first argument tells whether the text begins inside of one. -/
def withoutStyles : Bool → List Char → List Char
  | _, [] => []
  | true, c :: cs => withoutStyles (c ≠ 'm') cs
  | false, c :: cs => if c = '\x1b' then withoutStyles true cs else c :: withoutStyles false cs

/-- The line as text, without its time and its colours. -/
def text (l : LogLine) : String := String.ofList (withoutStyles false l.coloured.toList)

/-- The names in a line that is a JSON object, in order. -/
def objectKeys : List String :=
  ["fields", "filename", "level", "line_number", "target", "threadId", "timestamp"]

end LogLine

/-- A process and the state of its log. -/
structure Telemetry where
  environment : Environment
  installed : Bool
  /-- The lines written so far. -/
  lines : List LogLine

namespace Telemetry

/-- A process that has just begun. -/
def begin (env : Environment) : Telemetry := ⟨env, false, []⟩

/-- The filter: that of the environment if there is one that can be read, else another. -/
def filter (t : Telemetry) (other : Except (Failure FilterError) Filter) :
    Except (Failure FilterError) Filter :=
  match (t.environment.get? "RUST_LOG").map Filter.parse with
  | some (.ok f) => .ok f
  | some (.error .crash) => .error .crash
  | _ => other

/-- The target of the line that tells of the set-up. -/
def setUpTarget : String := "avs_telemetry::tracing_setup"

/-- The line that tells of the set-up. -/
def firstLine (c : TelemetryConfig) : LogLine where
  json := c.jsonLogs
  level := "INFO"
  target := setUpTarget
  message := "Tracing initialized"
  fields := [("service", .text c.serviceName), ("json_logs", .flag c.jsonLogs)]

/-- Sets up the log. -/
def setUp (t : Telemetry) (c : TelemetryConfig) : Except (Failure TelemetryError) Telemetry :=
  match t.filter (Filter.parse c.logLevel) with
  | .error e => .error (e.map fun e => .tracerInit e.message)
  | .ok f =>
    if t.installed then
      .error (.error (.tracerInit "a global default trace dispatcher has already been set"))
    else
      let line := firstLine c
      let kept := c.consoleOutput && f.keeps .info line.target ("message" :: line.fields.map (·.1))
      .ok { t with installed := true, lines := t.lines ++ if kept then [line] else [] }

/-- Sets up the log for tests, unless it is set up already. Only reading the filter of the environment
can fail, and only by a crash. -/
def setUpForTests (t : Telemetry) : Except (Failure TelemetryError) Telemetry :=
  match t.filter (.ok []) with
  | .error .crash => .error .crash
  | _ => .ok { t with installed := true }

end Telemetry

end Attestation
