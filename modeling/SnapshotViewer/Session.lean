import SnapshotViewer.Json.Decoder

/-!
# Sessions

Where the server is, what it asks of its clients, and what this client has to show for itself;
and the ways in which talking to a server fails.

## Main definitions

* `Credential`, `AuthConfig`, `Session`.
* `ProviderError` and `Session.reaction` — whether a broken stream can be taken up again.
-/

namespace SnapshotViewer

/-- What proves the identity of the user. -/
inductive Credential where
  /-- A token that stands for the user. -/
  | bearer (token : String)
  /-- A name and a password. -/
  | basic (user password : String)
deriving DecidableEq, Repr

/-- The text that may be shown or logged: it holds no secret. -/
def Credential.redacted : Credential → String
  | .bearer _ => "Bearer(***)"
  | .basic user _ => "Basic(" ++ user ++ ":***)"

/-- What the server asks of its clients. -/
structure AuthConfig where
  /-- Set when a token is asked for. -/
  ssoProxyUrl : Option String := none
  /-- Set when a name and a password are asked for. -/
  authUser : Option String := none
deriving DecidableEq, Repr

namespace AuthConfig

open Json

/-- Whether clients have to prove who they are. -/
def requiresAuth (a : AuthConfig) : Bool := a.ssoProxyUrl.isSome || a.authUser.isSome

/-- Reads what the server asks of its clients. -/
def decoder : Decoder AuthConfig :=
  let optionalText := Decoder.optional Decoder.text
  Decoder.record
    [.defaulted "sso_proxy_url" optionalText fun s a => { a with ssoProxyUrl := s },
     .defaulted "auth_user" optionalText fun s a => { a with authUser := s }]
    {}

end AuthConfig

/-- The server and the user's standing with it. -/
structure Session where
  baseUrl : String
  credential : Option Credential := none
  auth : AuthConfig := {}
deriving DecidableEq, Repr

/-- Why a snapshot or a stream could not be had. -/
inductive ProviderError where
  /-- The server refused with this status. -/
  | http (status : Nat)
  /-- The server refused the credential, or there was none. -/
  | unauthorized
  /-- There was no connection, or it broke. -/
  | transport (message : String)
  /-- The answer could not be read. -/
  | parse (message : String)
deriving DecidableEq, Repr

/-- The text shown for an error. -/
def ProviderError.message : ProviderError → String
  | .http status => "HTTP error: status " ++ toString status
  | .unauthorized => "Unauthorized"
  | .transport m => "Transport error: " ++ m
  | .parse m => "Parse error: " ++ m

/-- What to do about a broken stream. -/
inductive Reaction where
  | reauthenticate
  | awaitReconnect
deriving DecidableEq, Repr

namespace Session

/-- The session with a server, its address without slashes at the end. -/
def start (url : String) (credential : Option Credential) : Session :=
  let bare := (url.toList.reverse.dropWhile (· == '/')).reverse
  { baseUrl := String.ofList bare, credential }

/-- Whether the server asks for a credential and there is none. -/
def needsReauth (s : Session) : Bool := s.auth.requiresAuth && s.credential.isNone

/-- The full address of a path on the server. -/
def endpoint (s : Session) (path : String) : String :=
  if path.toList.head? = some '/' then s.baseUrl ++ path else s.baseUrl ++ "/" ++ path

/-- The name of the user, if it is known. -/
def username (s : Session) : Option String :=
  match s.credential with
  | some (.basic user _) => some user
  | _ => s.auth.authUser

/-- What to do about a broken stream: waiting does not help a user whom the server refuses. -/
def reaction (s : Session) (e : ProviderError) : Reaction :=
  if e = .unauthorized ∨ s.needsReauth then .reauthenticate else .awaitReconnect

end Session

end SnapshotViewer
