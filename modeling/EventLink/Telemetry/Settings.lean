import EventLink.Client.Error
import EventLink.Environment
import EventLink.Telemetry.LogFilter
/-!
What a program reports about itself: under which name, where to, and how much of it.
-/
namespace EventLink

def logFilterVariable : String := "RUST_LOG"

def collectorVariable : String := "OTEL_EXPORTER_OTLP_ENDPOINT"

/-- Settings of the reports. -/
structure TelemetrySettings where
  serviceName : String
  serviceVersion : String
  collector : String
  traces : Bool
  metrics : Bool
  logs : Bool
  logFilter : String
  deriving DecidableEq, Repr

namespace TelemetrySettings

def ofEnvironment (env : Environment) : TelemetrySettings where
  serviceName := "eventsock"
  serviceVersion := "0.1.0"
  collector := (env.get? collectorVariable).getD "http://localhost:4317"
  traces := true
  metrics := true
  logs := true
  logFilter := (env.get? logFilterVariable).getD "info"

/-- The settings that an environment asks for, under a name of one's own. -/
def named (env : Environment) (serviceName : String) : TelemetrySettings :=
  { ofEnvironment env with serviceName := serviceName }

/-- Starts the reports.  The filter of the environment is tried first, and the configured one if
that is absent or not well formed. -/
def start (settings : TelemetrySettings) (env : Environment) : Except ClientError Unit :=
  let preferred : Bool :=
    match env.get? logFilterVariable with
    | some filter => (LogFilter.check filter).toBool
    | none => false
  if preferred then .ok ()
  else
    match LogFilter.check settings.logFilter with
    | .ok () => .ok ()
    | .error fault =>
      .error (.runtime ("Failed to initialize observability: " ++ fault.message))

end TelemetrySettings

end EventLink
