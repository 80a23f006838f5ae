import SnapshotViewer.Http.Request
import SnapshotViewer.Proofs.Http.Url
import SnapshotViewer.Proofs.Outcome

/-!
# What requests carry

All requests of a session go to one server.  The request for the server's demands carries nothing
but what the web address itself holds, and every other one the credential of the session behind it.
A credential that cannot be written in a header is not left out: then no request can be made.

## Main definitions

* `Request.Carries` — a request carries a credential, or none.
* `Session.server?` — the server of a session.

## Main statements

* `Session.server_url` — every path of the interface leads to the server of the session.
* `Session.carries_openRequest`, `Session.carries_request`, `Session.carries_effectRequest` — what
  the requests of a session carry.
-/

namespace SnapshotViewer

/-- A request carries a credential, or none, and else only what its web address holds. -/
def Request.Carries (r : Request) (c : Option Credential) : Prop :=
  r.authorizations.map some = r.url.authorizations.map some ++ c.toList.map Credential.header?

/-- Where the web address holds no name, the credential is all that a request proves. -/
theorem Request.Carries.authorization_eq {r : Request} {c : Option Credential} (h : r.Carries c)
    (huser : r.url.user = none) : r.authorization = c.bind Credential.header? := by
  have hheaders : r.authorizations.map some = c.toList.map Credential.header? := by
    rw [h, Url.authorizations, huser]
    rfl
  calc r.authorization
    _ = ((r.authorizations.map some).head?).join := by
      rw [List.head?_map, Request.authorization]
      cases r.authorizations.head? <;> rfl
    _ = ((c.toList.map Credential.header?).head?).join := by rw [hheaders]
    _ = c.bind Credential.header? := by cases c <;> rfl

namespace Url

@[simp] theorem server_withPairs (u : Url) (pairs : List (String × String)) :
    (u.withPairs pairs).server = u.server := by
  unfold withPairs
  split
  · rfl
  · dsimp only
    split <;> rfl

@[simp] theorem authorizations_server (u : Url) : u.server.authorizations = u.authorizations := rfl

/-- What a web address holds does not depend on what is asked for. -/
theorem authorizations_withPairs (u : Url) (pairs : List (String × String)) :
    (u.withPairs pairs).authorizations = u.authorizations := by
  rw [← authorizations_server, server_withPairs, authorizations_server]

end Url

namespace Session
variable {s : Session} {path : String} {r : Request} {e : Effect}

/-- The server of a session, if its address can be read. -/
def server? (s : Session) : Option Url := (s.url "/api/").toOption.map Url.server

/-! ## Where requests go -/

theorem endpoint_of_inApi (s : Session) (h : Url.inApi path = true) :
    s.endpoint path = s.baseUrl ++ path := by
  obtain ⟨rest, hpath⟩ := Url.exists_of_inApi h
  rw [endpoint, if_pos (by simp [hpath])]

theorem toOption_url (s : Session) (path : String) :
    (s.url path).toOption = (Url.read (s.endpoint path)).toOption := by
  unfold url
  split <;> simp_all [Except.toOption]

/-- Every path of the interface leads to the server of the session. -/
theorem server_url (s : Session) (h : Url.inApi path = true) :
    (s.url path).toOption.map Url.server = s.server? := by
  have hroot : Url.inApi "/api/" = true := by decide +kernel
  rw [server?, toOption_url, toOption_url, endpoint_of_inApi s h, endpoint_of_inApi s hroot]
  exact Url.server_read_append s.baseUrl h hroot

theorem server_of_url {u : Url} (h : Url.inApi path = true) (hu : s.url path = .ok u) :
    s.server? = some u.server := by
  rw [← server_url s h, hu]
  rfl

/-! ## What requests carry -/

/-- A request that proves nothing carries what its web address holds. -/
theorem carries_openRequest (h : s.openRequest path = .ok r) :
    s.url path = .ok r.url ∧ r.Carries none := by
  obtain ⟨u, hu, hr⟩ := exists_of_bind_eq_ok h
  cases hr
  exact ⟨hu, by simp [Request.Carries]⟩

/-- Any other request carries the credential of the session as well. -/
theorem carries_request (h : s.request path = .ok r) :
    s.url path = .ok r.url ∧ r.Carries s.credential := by
  obtain ⟨bare, hbare, hr⟩ := exists_of_bind_eq_ok h
  obtain ⟨hurl, hopen⟩ := carries_openRequest hbare
  cases hc : s.credential with
  | none =>
    rw [hc] at hr
    cases hr
    exact ⟨hurl, hopen⟩
  | some c =>
    cases hheader : c.header? with
    | none => simp [hc, hheader] at hr
    | some header =>
      simp only [hc, hheader] at hr
      cases hr
      refine ⟨hurl, ?_⟩
      simp only [Request.Carries, Option.toList_none, List.map_nil, List.append_nil] at hopen
      simp [Request.Carries, hopen, hheader]

/-- Where one question can be asked, another one can be asked without a credential. -/
theorem exists_openRequest {q : String} (hp : Url.inApi path = true)
    (hq : Url.inApi q = true) (h : s.request path = .ok r) : ∃ bare, s.openRequest q = .ok bare := by
  have hserver := server_url s hq
  rw [server_of_url hp (carries_request h).1] at hserver
  cases hurl : s.url q with
  | error e => simp [hurl, Except.toOption] at hserver
  | ok u => exact ⟨_, by rw [openRequest, hurl]; rfl⟩

/-- What the server demands makes no difference to where a request goes, -/
theorem server?_auth (s : Session) (auth : AuthConfig) :
    ({ s with auth } : Session).server? = s.server? := by
  simp only [server?, url, endpoint]

/-- nor to the request. -/
theorem request_auth (s : Session) (auth : AuthConfig) (path : String) :
    ({ s with auth } : Session).request path = s.request path := by
  simp only [request, openRequest, url, endpoint]

/-- Whatever a feed wants to have from the server is asked of the server of the session, with its
credential. -/
theorem carries_effectRequest (h : s.effectRequest? e = some (.ok r)) :
    s.server? = some r.url.server ∧ r.Carries s.credential := by
  cases e with
  | fetch n q =>
    obtain ⟨bare, hbare, hr⟩ := exists_of_bind_eq_ok (Option.some.inj h)
    cases hr
    obtain ⟨hurl, hcarries⟩ := carries_request hbare
    have hapi : Url.inApi "/api/v1/snapshot" = true := by decide +kernel
    refine ⟨?_, ?_⟩
    · rw [Url.server_withPairs]
      exact server_of_url hapi hurl
    · rw [Request.Carries, Url.authorizations_withPairs]
      exact hcarries
  | connect n =>
    obtain ⟨bare, hbare, hr⟩ := exists_of_bind_eq_ok (Option.some.inj h)
    cases hr
    obtain ⟨hurl, hcarries⟩ := carries_request hbare
    have hapi : Url.inApi "/api/v1/stream" = true := by decide +kernel
    exact ⟨server_of_url hapi hurl, hcarries⟩
  | _ => cases h

end Session

end SnapshotViewer
