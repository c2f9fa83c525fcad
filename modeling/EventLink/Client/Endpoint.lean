import EventLink.Client.Error
import EventLink.Text.Blank
/-!
Where the client connects to.

An endpoint is given as a url of its own, or it follows from the origin that the client is part of:
a secure origin has a secure endpoint, and the path is always the same.
-/
namespace EventLink

def endpointPath : String := "/ws/events"

/-- An origin: whether it is secure, and its host with the port if it has one. -/
structure Origin where
  secure : Bool
  host : String
  deriving DecidableEq, Repr

/-- Cuts a text at the first colon with two slashes after it. -/
def splitScheme : List Char → Option (List Char × List Char)
  | [] => none
  | ':' :: '/' :: '/' :: rest => some ([], rest)
  | c :: rest =>
    (splitScheme rest).map fun (parts : List Char × List Char) => (c :: parts.1, parts.2)

/-- Whether a scheme, in whatever case, is one of the secure ones; none if it is no scheme at all
that an origin can have. -/
def secureScheme? (scheme : List Char) : Option Bool :=
  let lower := String.ofList (scheme.map Char.toLower)
  if lower = "https" ∨ lower = "wss" then some true
  else if lower = "http" ∨ lower = "ws" then some false
  else none

/-- Characters that end a host. -/
def endsHost (c : Char) : Bool :=
  c == '/' || c == '?' || c == '#'

namespace Origin

def parse (text : String) : Except ClientError Origin :=
  match splitScheme text.toList with
  | none => .error (.invalidUrl text)
  | some (scheme, rest) =>
    match secureScheme? scheme with
    | none => .error (.invalidUrl text)
    | some secure =>
      let host := rest.takeWhile fun (c : Char) => !endsHost c
      if host.isEmpty then .error (.invalidUrl text) else .ok ⟨secure, String.ofList host⟩

def endpoint (origin : Origin) : String :=
  (if origin.secure then "wss" else "ws") ++ "://" ++ origin.host ++ endpointPath

end Origin

/-- Whether a text starts like an endpoint, in whatever case. -/
def startsLikeEndpoint (cs : List Char) : Bool :=
  let lower := cs.map Char.toLower
  "ws://".toList.isPrefixOf lower || "wss://".toList.isPrefixOf lower

/-- The endpoint of a client.  A blank url counts as no url. -/
def resolve (url : Option String) (origin : Option Origin) : Except ClientError String :=
  match (url.map Text.trim).filter (fun (u : String) => !u.isEmpty), origin with
  | some u, _ => if startsLikeEndpoint u.toList then .ok u else .error (.invalidUrl u)
  | none, some o => .ok o.endpoint
  | none, none => .error (.invalidUrl "no url and no origin to derive one from")

end EventLink
