import SnapshotViewer.Http.Answer

/-!
# Exchanges

One question to a server and its answer.  A server can lead on to another address, also to one on
another server; then the question is asked there, and again, until an answer leads no further.
Who asks is only proved to the server that was asked at first.

## Main definitions

* `Server` — how a server answers.
* `follow` — sends a request and all that it is led on to.
* `exchange` — asks a question and reads the answer.
-/

namespace SnapshotViewer

/-- How a server answers: by the requests so far, the newest last, also those to other servers that
it leads on to.  `none` means that the connection is refused or closed. -/
abbrev Server := List Request → Option Answer

/-- The request that an answer to `r` leads on to.  What proves who asks stays behind when the
connection goes elsewhere. -/
def Request.redirected (r : Request) (next : Url) : Request :=
  { r with
    url := next
    authorizations := if next.place = r.url.place then r.authorizations else [] }

/-- The error of a request that was led on too often. -/
def Request.astray (r : Request) : ProviderError :=
  .transport ("error following redirect for url (" ++ r.url.text ++ ")")

/-- How often a question is led on. -/
def redirectLimit : Nat := 10

/-- Sends a request and what it is led on to, at most `left` times; `before` was sent already.
Returns the requests, and the last one of them with its answer. -/
def follow (server : Server) (before : List Request) (r : Request) (left : Nat) :
    List Request × Except ProviderError (Request × Option Answer) :=
  let answer := server (before ++ [r])
  match answer.bind (Answer.onward? r), left with
  | none, _ => ([r], .ok (r, answer))
  | some _, 0 => ([r], .error r.astray)
  | some (.error e), _ + 1 => ([r], .error e)
  | some (.ok next), left + 1 =>
    let (rest, result) := follow server (before ++ [r]) (r.redirected next) left
    (r :: rest, result)

/-- Asks a question if the request for it can be made; returns all requests so far and what the
answer says. -/
def exchange {α : Type} (server : Server) (before : List Request)
    (request : Except ProviderError Request)
    (read : Request → Option Answer → Except ProviderError α) :
    List Request × Except ProviderError α :=
  match request with
  | .error e => (before, .error e)
  | .ok r =>
    let (sent, result) := follow server before r redirectLimit
    (before ++ sent, do
      let (last, answer) ← result
      read last answer)

end SnapshotViewer
