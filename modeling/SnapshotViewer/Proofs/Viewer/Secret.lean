import SnapshotViewer.Proofs.Viewer.Connection
import SnapshotViewer.Screen.Render

/-!
# Secrets are neither shown nor stored

A viewer carries the session with the server, and in it the token or the password of the user.  What
it does with the session while it runs is to decide whether waiting helps when a stream breaks, and
to show the user and the server in the header.  For that it needs no secret: a viewer from which the
secret is taken away goes through the same run without it.

## Main definitions

* `Session.withoutSecret`, `Viewer.withoutSecret` — the token or the password left out.
* `Viewer.LooksLike` — what two viewers hold, what is shown of them and what is written about them
  is the same.

## Main statements

* `Viewer.apply_withoutSecret`, `Viewer.run_withoutSecret` — without the secret everything happens
  as with it.
* `Viewer.looksLike_run` — two viewers whose sessions differ in the secret look the same, whatever
  happens, and leave the same files.
-/

namespace SnapshotViewer

/-! ## Sessions -/

/-- The credential with an empty token or password. -/
def Credential.withoutSecret : Credential → Credential
  | .bearer _ => .bearer ""
  | .basic user _ => .basic user ""

@[simp] theorem Credential.redacted_withoutSecret (c : Credential) :
    c.withoutSecret.redacted = c.redacted := by
  cases c <;> rfl

namespace Session

/-- The session with an empty token or password. -/
def withoutSecret (s : Session) : Session :=
  { s with credential := s.credential.map Credential.withoutSecret }

/-- The text of the credential that may be shown or logged. -/
def redacted (s : Session) : Option String := s.credential.map Credential.redacted

variable (s : Session)

@[simp] theorem redacted_withoutSecret : s.withoutSecret.redacted = s.redacted := by
  simp [redacted, withoutSecret, Function.comp_def]

@[simp] theorem endpoint_withoutSecret (path : String) :
    s.withoutSecret.endpoint path = s.endpoint path := rfl

@[simp] theorem username_withoutSecret : s.withoutSecret.username = s.username := by
  unfold username withoutSecret
  cases s.credential with
  | none => rfl
  | some c => cases c <;> rfl

@[simp] theorem needsReauth_withoutSecret : s.withoutSecret.needsReauth = s.needsReauth := by
  simp [needsReauth, withoutSecret]

@[simp] theorem reaction_withoutSecret (e : ProviderError) :
    s.withoutSecret.reaction e = s.reaction e := by
  simp [reaction]

end Session

/-! ## Handlers -/

/-- The viewer with an empty token or password. -/
def Viewer.withoutSecret (v : Viewer) : Viewer := { v with session := v.session.withoutSecret }

/-- What is left behind, with an empty token or password. -/
def Handled.withoutSecret (h : Handled) : Handled := { h with viewer := h.viewer.withoutSecret }

namespace Viewer

@[simp] theorem nav_withoutSecret (v : Viewer) : v.withoutSecret.nav = v.nav := rfl

@[simp] theorem store_withoutSecret (v : Viewer) : v.withoutSecret.store = v.store := rfl

@[simp] theorem source_withoutSecret (v : Viewer) : v.withoutSecret.source = v.source := rfl

@[simp] theorem session_withoutSecret (v : Viewer) :
    v.withoutSecret.session = v.session.withoutSecret := rfl

@[simp] theorem addressFile_withoutSecret (v : Viewer) :
    v.withoutSecret.addressFile = v.addressFile := rfl

@[simp] theorem connection_withoutSecret (v : Viewer) :
    v.withoutSecret.connection = v.connection := rfl

variable (v : Viewer) (fs : Files)

theorem persist_withoutSecret : v.withoutSecret.persist fs = (v.persist fs).withoutSecret := by
  simp only [persist, nav_withoutSecret, addressFile_withoutSecret]
  split
  · rfl
  · split <;> rfl

theorem reached_withoutSecret (c : Connection) :
    v.withoutSecret.reached c = (v.reached c).withoutSecret := by
  rw [reached, reached, apply_ite withoutSecret]
  rfl

theorem accept_withoutSecret (s : Snapshot) :
    v.withoutSecret.accept s = (v.accept s).withoutSecret := by
  rw [accept, accept, apply_ite withoutSecret, ← reached_withoutSecret]
  rfl

theorem requireReauth_withoutSecret : v.withoutSecret.requireReauth =
    (v.requireReauth.1.withoutSecret, v.requireReauth.2) := by
  by_cases h : v.connection = .reauthRequired
  · simp [requireReauth, h]
  · simp [requireReauth, h]
    rfl

theorem onTransient_withoutSecret (e : ProviderError) : v.withoutSecret.onTransient e =
    ((v.onTransient e).1.withoutSecret, (v.onTransient e).2) := by
  simp only [onTransient, session_withoutSecret, Session.reaction_withoutSecret]
  split
  · exact requireReauth_withoutSecret v
  · rw [reached_withoutSecret]

theorem onFailure_withoutSecret (e : ProviderError) : v.withoutSecret.onFailure e =
    ((v.onFailure e).1.withoutSecret, (v.onFailure e).2) := by
  simp only [onFailure]
  split
  · exact requireReauth_withoutSecret v
  · rfl

theorem handled_withoutSecret (effects : List Effect) :
    handled (v.withoutSecret, effects) fs = (handled (v, effects) fs).withoutSecret := by
  rw [handled, persist_withoutSecret]
  rfl

theorem onEvent_withoutSecret (e : FeedEvent) :
    v.withoutSecret.onEvent fs e = (v.onEvent fs e).withoutSecret := by
  cases e with
  | snapshot s =>
    simp only [onEvent, source_withoutSecret]
    split
    · rfl
    · rw [← handled_withoutSecret, ← accept_withoutSecret]
      rfl
  | transient e =>
    rw [onEvent, onTransient_withoutSecret, handled_withoutSecret]
    rfl
  | failed e =>
    rw [onEvent, onFailure_withoutSecret, handled_withoutSecret]
    rfl

theorem togglePause_withoutSecret : v.withoutSecret.togglePause = v.togglePause.withoutSecret := by
  simp only [togglePause, source_withoutSecret]
  split
  · rfl
  · split <;> rfl

theorem moveInTime_withoutSecret (step : HistoryStep) : v.withoutSecret.moveInTime step =
    (v.moveInTime step).map (Prod.map withoutSecret id) := by
  simp only [moveInTime, source_withoutSecret, store_withoutSecret]
  split
  · next f s _ _ =>
    cases f.step? s step with
    | error crash => rfl
    | ok move? => cases move? <;> rfl
  · rfl

theorem jumpTo_withoutSecret (timestamp : Int) : v.withoutSecret.jumpTo timestamp =
    ((v.jumpTo timestamp).1.withoutSecret, (v.jumpTo timestamp).2) := by
  simp only [jumpTo, source_withoutSecret]
  split <;> rfl

theorem perform_withoutSecret (a : KeyAction) : v.withoutSecret.perform a =
    (v.perform a).map (Prod.map withoutSecret id) := by
  cases a with
  | none => rfl
  | quit => rfl
  | togglePause =>
    rw [perform, togglePause_withoutSecret, perform]
    rfl
  | historyStep step => exact moveInTime_withoutSecret v step
  | jumpTo timestamp =>
    rw [perform, jumpTo_withoutSecret, perform]
    rfl

theorem onKey_withoutSecret (now : Int) (k : Key) :
    onKey now v.withoutSecret fs k = (onKey now v fs k).withoutSecret := by
  have hperform : (pressed now v.withoutSecret k).perform
      (v.withoutSecret.input.handleKey now v.withoutSecret.nav k).action = _ :=
    perform_withoutSecret (pressed now v k) (v.input.handleKey now v.nav k).action
  rw [onKey, hperform, onKey]
  cases (pressed now v k).perform (v.input.handleKey now v.nav k).action with
  | error crash => rfl
  | ok result => exact handled_withoutSecret result.1 fs result.2

theorem shutdown_withoutSecret :
    v.withoutSecret.shutdown fs = (v.shutdown fs).withoutSecret := by
  rw [shutdown, persist_withoutSecret]
  rfl

/-! ## Runs -/

/-- Without the secret everything happens as with it. -/
theorem apply_withoutSecret (op : ViewerOp) : apply (v.withoutSecret, fs) op =
    ((apply (v, fs) op).1.withoutSecret, (apply (v, fs) op).2) := by
  cases op with
  | event e =>
    simp only [apply, onEvent_withoutSecret]
    rfl
  | key now k =>
    simp only [apply, onKey_withoutSecret]
    rfl
  | report n s => rfl
  | rearrange change => rfl

theorem saved?_withoutSecret (op : ViewerOp) :
    saved? (v.withoutSecret, fs) op = saved? (v, fs) op := by
  cases op with
  | event e =>
    simp only [saved?, onEvent_withoutSecret]
    rfl
  | key now k =>
    simp only [saved?, onKey_withoutSecret]
    rfl
  | report n s => rfl
  | rearrange change => rfl

theorem crash?_withoutSecret (op : ViewerOp) :
    crash? (v.withoutSecret, fs) op = crash? (v, fs) op := by
  cases op with
  | event e =>
    simp only [crash?, onEvent_withoutSecret]
    rfl
  | key now k =>
    simp only [crash?, onKey_withoutSecret]
    rfl
  | report n s => rfl
  | rearrange change => rfl

/-- Without the secret a run goes as with it. -/
theorem run_withoutSecret (ops : List ViewerOp) : run (v.withoutSecret, fs) ops =
    ((run (v, fs) ops).1.withoutSecret, (run (v, fs) ops).2) := by
  induction ops generalizing v fs with
  | nil => rfl
  | cons op ops ih => rw [run_cons, run_cons, apply_withoutSecret, ih]

end Viewer

/-! ## What can be seen -/

namespace Screen
variable (v : Viewer)

theorem connectionText_withoutSecret : connectionText v.withoutSecret = connectionText v := by
  simp only [connectionText, Viewer.connection_withoutSecret, Viewer.session_withoutSecret,
    Session.username_withoutSecret]
  rfl

/-- The screen shows no secret. -/
theorem render_withoutSecret (width height : Nat) :
    render v.withoutSecret width height = render v width height := by
  have hheader : ∀ c a, drawHeader c a v.withoutSecret = drawHeader c a v := by
    intro c a
    rw [drawHeader, drawHeader, connectionText_withoutSecret]
    rfl
  simp only [render, hheader]
  rfl

end Screen

namespace Viewer

/-- What is shown of two viewers, kept by them and written about them is the same. -/
structure LooksLike (v w : Viewer) : Prop where
  nav : v.nav = w.nav
  store : v.store = w.store
  input : v.input = w.input
  source : v.source = w.source
  connection : v.connection = w.connection
  addressFile : v.addressFile = w.addressFile
  quitting : v.quitting = w.quitting
  endpoint : ∀ path, v.session.endpoint path = w.session.endpoint path
  credential : v.session.redacted = w.session.redacted
  screen : ∀ width height, Screen.render v width height = Screen.render w width height

theorem looksLike_withoutSecret (v : Viewer) : LooksLike v.withoutSecret v where
  nav := rfl
  store := rfl
  input := rfl
  source := rfl
  connection := rfl
  addressFile := rfl
  quitting := rfl
  endpoint := v.session.endpoint_withoutSecret
  credential := v.session.redacted_withoutSecret
  screen := Screen.render_withoutSecret v

/-- Viewers that are the same without their secrets look the same. -/
theorem looksLike_of_withoutSecret {v w : Viewer} (h : v.withoutSecret = w.withoutSecret) :
    LooksLike v w := by
  have hv := looksLike_withoutSecret v
  have hw := looksLike_withoutSecret w
  rw [h] at hv
  exact ⟨hv.nav.symm.trans hw.nav, hv.store.symm.trans hw.store, hv.input.symm.trans hw.input,
    hv.source.symm.trans hw.source, hv.connection.symm.trans hw.connection,
    hv.addressFile.symm.trans hw.addressFile, hv.quitting.symm.trans hw.quitting,
    fun path => (hv.endpoint path).symm.trans (hw.endpoint path),
    hv.credential.symm.trans hw.credential,
    fun width height => (hv.screen width height).symm.trans (hw.screen width height)⟩

/-- Two viewers whose sessions differ in the token or in the password at most look the same and have
left the same files, whatever has happened to both of them; and whether the address can be saved
then, or at the end, does not depend on the secret either, nor does whether the program breaks
off. -/
theorem looksLike_run {s t : Session} (h : s.withoutSecret = t.withoutSecret) (v : Viewer)
    (fs : Files) (ops : List ViewerOp) :
    let x := run ({ v with session := s }, fs) ops
    let y := run ({ v with session := t }, fs) ops
    LooksLike x.1 y.1 ∧ x.2 = y.2 ∧
      (∀ op, saved? x op = saved? y op ∧ crash? x op = crash? y op) ∧
      (x.1.shutdown x.2).files = (y.1.shutdown y.2).files := by
  intro x y
  have hstart : withoutSecret { v with session := s } = withoutSecret { v with session := t } :=
    congrArg (fun u => { v with session := u }) h
  have hx := run_withoutSecret { v with session := s } fs ops
  have hy := run_withoutSecret { v with session := t } fs ops
  obtain ⟨hviewer, hfiles⟩ := Prod.mk.inj (hx.symm.trans (hstart ▸ hy))
  refine ⟨looksLike_of_withoutSecret hviewer, hfiles, fun op => ⟨?_, ?_⟩, ?_⟩
  · rw [← saved?_withoutSecret x.1, ← saved?_withoutSecret y.1, hviewer, hfiles]
  · rw [← crash?_withoutSecret x.1, ← crash?_withoutSecret y.1, hviewer, hfiles]
  · have hx := congrArg Handled.files (shutdown_withoutSecret x.1 x.2)
    have hy := congrArg Handled.files (shutdown_withoutSecret y.1 y.2)
    rw [← hviewer, ← hfiles] at hy
    rw [← hfiles]
    exact hx.symm.trans hy

/-- A password and a token are exchanged.  A snapshot is shown, its text is filtered and the address
is saved; then the server refuses the credential. -/
theorem looksLike_run_of_other_secret :
    let ann : Session := { baseUrl := "http://db1", credential := some (.basic "ann" "one") }
    let ann' : Session := { baseUrl := "http://db1", credential := some (.basic "ann" "two") }
    let token : Session := { baseUrl := "http://db1", credential := some (.bearer "a.b.c") }
    let token' : Session := { baseUrl := "http://db1", credential := some (.bearer "d.e.f") }
    let nav := Navigator.start { mode := .live } {}
    let v := start nav (.live ({} : LiveFeed).start.1) ann (some ["address"])
    let ops : List ViewerOp := [.event (.snapshot { timestamp := 100 }),
      .key 0 { code := .char '2' }, .event (.transient .unauthorized)]
    let x := run ({ v with session := ann }, {}) ops
    let y := run ({ v with session := ann' }, {}) ops
    let z := run ({ v with session := token }, {}) ops
    let z' := run ({ v with session := token' }, {}) ops
    ann ≠ ann' ∧ token ≠ token' ∧ x.1.connection = .reauthRequired ∧ x.2 ≠ {} ∧
      LooksLike x.1 y.1 ∧ x.2 = y.2 ∧ LooksLike z.1 z'.1 ∧ z.2 = z'.2 := by
  intro ann ann' token token' nav v ops x y z z'
  have hann : ann.withoutSecret = ann'.withoutSecret := rfl
  have htoken : token.withoutSecret = token'.withoutSecret := rfl
  obtain ⟨hlook, hfiles, -⟩ := looksLike_run hann v {} ops
  obtain ⟨hlook', hfiles', -⟩ := looksLike_run htoken v {} ops
  exact ⟨by decide, by decide, by decide +kernel, by decide +kernel, hlook, hfiles, hlook', hfiles'⟩

end Viewer

end SnapshotViewer
