import EventLink.Client.Endpoint
import EventLink.Loop.State
import EventLink.Telemetry.Settings
/-!
What a client is made with, and the client that results.
-/
namespace EventLink

def urlVariable : String := "EVENTSOCK_URL"

def originVariable : String := "EVENTSOCK_ORIGIN"

/-- Settings of a client. -/
structure ClientSettings where
  url : Option String
  origin : Option Origin
  backoff : Backoff
  heartbeat : Duration
  replyLifetime : Option Duration
  requestTimeout : Option Duration
  source : IdSource
  telemetry : Option TelemetrySettings
  serviceName : Option String

/-- A client: where it connects to, how long its requests wait for a reply, what its loop is started
with, and the name under which it is measured, if it is. -/
structure Client where
  endpoint : String
  requestTimeout : Option Duration
  config : LoopConfig
  service : Option String

namespace ClientSettings

/-- Settings with a url and everything else left open.  An empty url is no url. -/
def ofUrl (url : String) : ClientSettings where
  url := if url.isEmpty then none else some url
  origin := none
  backoff := Backoff.standard
  heartbeat := standardHeartbeat
  replyLifetime := none
  requestTimeout := none
  source := IdSource.decimals
  telemetry := none
  serviceName := none

/-- Settings with the url and the origin that an environment gives. -/
def ofEnvironment (env : Environment) : Except ClientError ClientSettings :=
  let settings := ofUrl ((env.get? urlVariable).getD "")
  match env.get? originVariable with
  | none => .ok settings
  | some text =>
    match Origin.parse text with
    | .error e => .error e
    | .ok origin => .ok { settings with origin := some origin }

def endpoint (settings : ClientSettings) : Except ClientError String :=
  resolve settings.url settings.origin

/-- Starts the measurements, if they are wanted, and gives the name they go under. -/
def startTelemetry (settings : ClientSettings) (env : Environment) :
    Except ClientError (Option String) :=
  match settings.telemetry with
  | none => .ok none
  | some telemetry =>
    let named := { telemetry with serviceName := settings.serviceName.getD telemetry.serviceName }
    match named.start env with
    | .error e => .error e
    | .ok () => .ok (some named.serviceName)

/-- Makes a client.  The endpoint is looked at first; then there must be a runtime for the event
loop to run on. -/
def connect (settings : ClientSettings) (env : Environment) (runtimePresent : Bool) :
    Except ClientError Client :=
  match settings.endpoint with
  | .error e => .error e
  | .ok endpoint =>
    if !runtimePresent then
      .error (.runtime
        "there is no reactor running, must be called from the context of a Tokio 1.x runtime")
    else
      match settings.startTelemetry env with
      | .error e => .error e
      | .ok service =>
        .ok
          { endpoint := endpoint
            requestTimeout := settings.requestTimeout
            config := ⟨settings.backoff, settings.heartbeat, settings.source, settings.replyLifetime⟩
            service := service }

end ClientSettings

/-- A client for diagnostics. -/
def Client.diagnostic (client : Client) : String :=
  let timeout :=
    match client.requestTimeout with
    | some d => "Some(" ++ d.text ++ ")"
    | none => "None"
  "EventClient \x7b url: " ++ Text.quoted client.endpoint ++ ", request_timeout: " ++ timeout ++
    " \x7d"

end EventLink
