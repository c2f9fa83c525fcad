import EventLink.Text.Quoted
/-!
The errors that a user of the client can see.  Failures of the connection are not among the results
of its calls; they have a kind of their own for the places that report them.
-/
namespace EventLink

/-- An error with what there is to say about it. -/
inductive ClientError where
  | parse (reason : String)
  | malformedFrame (reason : String)
  | serialization (reason : String)
  | webSocket (reason : String)
  | invalidUrl (reason : String)
  | timeout
  | clientClosed
  | runtime (reason : String)
  deriving DecidableEq, Repr

namespace ClientError

def kind : ClientError → String
  | parse _ => "Parse"
  | malformedFrame _ => "MalformedFrame"
  | serialization _ => "Serialization"
  | webSocket _ => "WebSocket"
  | invalidUrl _ => "InvalidUrl"
  | timeout => "Timeout"
  | clientClosed => "ClientClosed"
  | runtime _ => "Runtime"

/-- What an error says beyond its kind. -/
def reason? : ClientError → Option String
  | parse reason => some reason
  | malformedFrame reason => some reason
  | serialization reason => some reason
  | webSocket reason => some reason
  | invalidUrl reason => some reason
  | timeout => none
  | clientClosed => none
  | runtime reason => some reason

def message : ClientError → String
  | parse reason => "Parse error: " ++ reason
  | malformedFrame reason => "Malformed frame: " ++ reason
  | serialization reason => "Serialization error: " ++ reason
  | webSocket reason => "WebSocket error: " ++ reason
  | invalidUrl reason => "Invalid endpoint url: " ++ reason
  | timeout => "Request timeout"
  | clientClosed => "Client closed"
  | runtime reason => "Runtime error: " ++ reason

/-- An error for diagnostics: its kind, and the reason in quotes. -/
def diagnostic (e : ClientError) : String :=
  match e.reason? with
  | some reason => e.kind ++ "(" ++ Text.quoted reason ++ ")"
  | none => e.kind

end ClientError

end EventLink
