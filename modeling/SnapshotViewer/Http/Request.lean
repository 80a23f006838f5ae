import SnapshotViewer.Feed.Basic
import SnapshotViewer.Http.Url
import SnapshotViewer.Identity
import SnapshotViewer.Text.Base64

/-!
# Requests

What the program asks a server for.  A request for anything but the server's demands carries the
credential of the session, if there is one.

## Main definitions

* `Request`, `Credential.header?`.
* `Session.authConfigRequest`, `Session.schemaRequest`, `Session.snapshotRequest`,
  `Session.streamRequest`.
-/

namespace SnapshotViewer

/-- A request. -/
structure Request where
  url : Url
  /-- The headers that prove who asks, in order. -/
  authorizations : List String := []
  accept : String := "*/*"
deriving DecidableEq, Repr

namespace Request

/-- The header that proves who asks; of several ones the first. -/
def authorization (r : Request) : Option String := r.authorizations.head?

/-- How the program introduces itself. -/
def userAgent : String := programName ++ "/" ++ programVersion

/-- The first line of a request. -/
def line (r : Request) : String := "GET " ++ r.url.target ++ " HTTP/1.1"

end Request

/-- Whether a character cannot be part of a header. -/
def forbiddenInHeader (c : Char) : Bool := (c.toNat < 0x20 && c != '\t') || c.toNat == 0x7F

/-- The header that a name and a password are written in. -/
def basicHeader (user password : String) : String :=
  "Basic " ++ String.ofList (Text.base64 (Text.encode (user ++ ":" ++ password)))

/-- The header that a credential is written in, if it can be written. -/
def Credential.header? : Credential → Option String
  | .bearer token =>
    if token.toList.any forbiddenInHeader then none else some ("Bearer " ++ token)
  | .basic user password => some (basicHeader user password)

/-- The headers that a web address asks for: its name and password make one. -/
def Url.authorizations (u : Url) : List String := (u.user.map fun p => basicHeader p.1 p.2).toList

/-- The error of a request that cannot be made. -/
def builderError (url : Option String) : ProviderError :=
  .transport <| "builder error" ++ match url with
    | some u => " for url (" ++ u ++ ")"
    | none => ""

/-- The error of a request that was not answered. -/
def Request.unanswered (r : Request) : ProviderError :=
  .transport ("error sending request for url (" ++ r.url.text ++ ")")

namespace Session

/-- The address of a path on the server. -/
def url (s : Session) (path : String) : Except ProviderError Url :=
  match Url.read (s.endpoint path) with
  | .ok u => .ok u
  | .error .unreadable => .error (builderError none)
  | .error (.unsuitable u) => .error (builderError (some u))

/-- A request that proves nothing, except what the address itself holds. -/
def openRequest (s : Session) (path : String) : Except ProviderError Request := do
  let url ← s.url path
  return { url, authorizations := url.authorizations }

/-- A request that carries the credential, behind what the address itself holds. -/
def request (s : Session) (path : String) : Except ProviderError Request := do
  let r ← s.openRequest path
  match s.credential with
  | none => return r
  | some c =>
    match c.header? with
    | some h => return { r with authorizations := r.authorizations ++ [h] }
    | none => .error (builderError none)

/-- Asks what the server demands of its clients. -/
def authConfigRequest (s : Session) : Except ProviderError Request :=
  s.openRequest "/api/v1/auth/config"

/-- Asks the server to describe itself. -/
def schemaRequest (s : Session) : Except ProviderError Request := s.request "/api/v1/schema"

/-- Asks for a snapshot. -/
def snapshotRequest (s : Session) (q : Query) : Except ProviderError Request := do
  let r ← s.request "/api/v1/snapshot"
  let pairs := (q.timestamp.map fun t => ("timestamp", toString t)).toList
    ++ (q.direction.map fun d => ("direction", d.name)).toList
  return { r with url := r.url.withPairs pairs }

/-- Asks for the stream. -/
def streamRequest (s : Session) : Except ProviderError Request := do
  let r ← s.request "/api/v1/stream"
  return { r with accept := "text/event-stream" }

/-- The request that something a feed wants done leads to. -/
def effectRequest? (s : Session) : Effect → Option (Except ProviderError Request)
  | .fetch _ q => some (s.snapshotRequest q)
  | .connect _ => some s.streamRequest
  | .send .. | .sleep .. | .close _ | .yield _ => none

end Session

end SnapshotViewer
