import SnapshotViewer.Proofs.Run
import SnapshotViewer.Proofs.Viewer.Step

/-!
# How things stand with the server

The connection that a viewer names is a summary of what it has heard so far.  Snapshots that are
shown and errors of the stream are news: the last of them says whether the server is within reach.
A demand for a credential is final: news that come behind it change nothing, and the stream is
closed and never opened again.

Keys, reports and changes of the files say nothing about the server, but a pause keeps snapshots
from being news.

## Main definitions

* `ViewerOp.demands` — the server demands a credential.
* `heard?` — what else is heard of the server.
* `Turn` — what can become of the standing with the server.

## Main statements

* `turn_apply` — whatever happens is such a turn.
* `connection_run` — the connection behind a run.
* `connection_of_events` — the connection as a function of what has happened.
-/

namespace SnapshotViewer

/-- The server demands a credential: by an error of the stream after which waiting does not help, or
by the final failure of a request. -/
def ViewerOp.demands (session : Session) : ViewerOp → Bool
  | .event (.transient e) => session.reaction e = .reauthenticate
  | .event (.failed e) => e = .unauthorized
  | _ => false

/-- Whether there is a live stream that has not been cancelled. -/
def Source.isSubscribed : Source → Bool
  | live f => f.subscribed
  | history _ => false

namespace Viewer

/-- What is heard of the server, demands apart: a snapshot that is shown, or an error of the
stream. -/
def heard? (v : Viewer) : ViewerOp → Option Connection
  | .event (.transient _) => some .reconnecting
  | op => (v.shows? op).map fun _ => .connected

variable {v w : Viewer} {op : ViewerOp}

/-! ## Turns -/

/-- Things stand with the server as before, and the user is told the same about it. -/
structure SameStanding (v w : Viewer) : Prop where
  session : w.session = v.session
  connection : w.connection = v.connection
  error : w.store.error = v.store.error
  subscribed : w.source.isSubscribed = v.source.isSubscribed

theorem SameStanding.refl (v : Viewer) : SameStanding v v := ⟨rfl, rfl, rfl, rfl⟩

theorem SameStanding.trans {u : Viewer} (h : SameStanding u v) (h' : SameStanding v w) :
    SameStanding u w where
  session := h'.session.trans h.session
  connection := h'.connection.trans h.connection
  error := h'.error.trans h.error
  subscribed := h'.subscribed.trans h.subscribed

theorem demands_eq_false (h : ∀ e, op = .event e → ∃ s, e = .snapshot s) (session : Session) :
    op.demands session = false := by
  cases op with
  | event e =>
    obtain ⟨s, rfl⟩ := h e rfl
    rfl
  | _ => rfl

theorem heard?_eq_none (h : ∀ e, op = .event e → ∃ s, e = .snapshot s)
    (hshows : v.shows? op = none) : v.heard? op = none := by
  cases op with
  | event e =>
    obtain ⟨s, rfl⟩ := h e rfl
    simp [heard?, hshows]
  | _ => rfl

/-- What can become of the standing with the server. -/
inductive Turn (v : Viewer) : ViewerOp → Viewer → Prop
  /-- Nothing is learnt of the server. -/
  | aside {op : ViewerOp} {w : Viewer} (hevent : ∀ e, op = .event e → ∃ s, e = .snapshot s)
    (hshows : v.shows? op = none) (h : SameStanding v w) : Turn v op w
  /-- A snapshot is shown. -/
  | shown {s : Snapshot} {w : Viewer} (hshows : v.shows? (.event (.snapshot s)) = some s)
    (h : SameStanding ({ v with store := v.store.replace s }.reached .connected) w) :
    Turn v (.event (.snapshot s)) w
  /-- The stream has broken and will be opened anew. -/
  | broken {e : ProviderError} {w : Viewer} (hreaction : v.session.reaction e = .awaitReconnect)
    (h : SameStanding (v.reached .reconnecting) w) : Turn v (.event (.transient e)) w
  /-- The server demands a credential. -/
  | demanded {op : ViewerOp} {w : Viewer} (hdemands : op.demands v.session = true)
    (h : SameStanding v.requireReauth.1 w) : Turn v op w
  /-- A request has failed for another reason. -/
  | failed {e : ProviderError} {w : Viewer} (hother : e ≠ .unauthorized)
    (h : SameStanding { v with store := v.store.setError e.message } w) :
    Turn v (.event (.failed e)) w

/-- What leaves the standing alone may come behind a turn. -/
theorem Turn.behind {u : Viewer} (h : Turn v op w) (h' : SameStanding w u) : Turn v op u := by
  cases h with
  | aside hevent hshows h => exact .aside hevent hshows (h.trans h')
  | shown hshows h => exact .shown hshows (h.trans h')
  | broken hreaction h => exact .broken hreaction (h.trans h')
  | demanded hdemands h => exact .demanded hdemands (h.trans h')
  | failed hother h => exact .failed hother (h.trans h')

theorem sameStanding_togglePause (v : Viewer) : SameStanding v v.togglePause := by
  cases hsource : v.source with
  | history f =>
    have htoggle : v.togglePause = v := by simp [togglePause, hsource]
    rw [htoggle]
    exact .refl v
  | live f =>
    cases hp : f.valve.paused with
    | false =>
      rw [togglePause_of_open hsource hp]
      exact ⟨rfl, rfl, rfl, by rw [hsource]; rfl⟩
    | true =>
      rw [togglePause_of_paused hsource hp]
      exact ⟨rfl, rfl, rfl, by rw [hsource]; rfl⟩

theorem SameFeed.isSubscribed {x y : Source} (h : SameFeed x y) :
    y.isSubscribed = x.isSubscribed := by
  rcases h with rfl | ⟨f, g, rfl, rfl⟩
  · rfl
  · rfl

/-- What a key asks for leaves the standing with the server alone. -/
theorem sameStanding_performed (v : Viewer) (a : KeyAction) : SameStanding v (v.performed a) := by
  by_cases ha : a = .togglePause
  · rw [ha]
    exact sameStanding_togglePause v
  · obtain ⟨source, status, quitting, hsource, hperformed⟩ := exists_performed v ha
    rw [hperformed]
    exact ⟨rfl, rfl, rfl, hsource.isSubscribed⟩

theorem sameStanding_receive (v : Viewer) (n : Nat) (signal : Signal) :
    SameStanding v (v.receive n signal).1 := by
  refine ⟨rfl, rfl, rfl, ?_⟩
  show (v.source.receive n signal).1.isSubscribed = v.source.isSubscribed
  cases v.source with
  | live f => exact (f.settled_receive n signal).subscribed
  | history f => rfl

/-- News touch the connection only, and that only as long as no credential is demanded. -/
theorem reached_eq (v : Viewer) (c : Connection) : v.reached c =
    { v with connection := if v.connection = .reauthRequired then .reauthRequired else c } := by
  by_cases h : v.connection = .reauthRequired
  · rw [reached, if_pos h, if_pos h, ← h]
  · rw [reached, if_neg h, if_neg h]

theorem turn_snapshot (v : Viewer) (s : Snapshot) :
    Turn v (.event (.snapshot s)) (v.work (.event (.snapshot s))) := by
  cases hp : v.isPaused with
  | true =>
    rw [work_of_paused hp]
    refine .aside (by simp) (shows?_of_paused hp _) ⟨rfl, rfl, rfl, ?_⟩
    show (v.source.pass s).1.isSubscribed = v.source.isSubscribed
    cases v.source <;> rfl
  | false =>
    rw [work_of_open hp]
    cases hclosed : v.store.closed with
    | true =>
      have hrefused : v.accept s = v := by simp [accept, Store.accepts, hclosed]
      rw [hrefused]
      exact .aside (by simp) (shows?_of_closed hclosed _) (.refl v)
    | false =>
      refine .shown (shows?_of_open hp hclosed) ?_
      rw [accept, if_pos (by simp [Store.accepts, hclosed]), reached_eq, reached_eq]
      exact ⟨rfl, rfl, rfl, rfl⟩

/-- All work is a turn. -/
theorem turn_work (v : Viewer) (op : ViewerOp) : Turn v op (v.work op) := by
  cases op with
  | event e =>
    cases e with
    | snapshot s => exact turn_snapshot v s
    | transient e =>
      show Turn v (.event (.transient e)) (v.onTransient e).1
      unfold onTransient
      cases hreaction : v.session.reaction e with
      | reauthenticate => exact .demanded (by simp [ViewerOp.demands, hreaction]) (.refl _)
      | awaitReconnect => exact .broken hreaction (.refl _)
    | failed e =>
      show Turn v (.event (.failed e)) (v.onFailure e).1
      unfold onFailure
      by_cases he : e = .unauthorized
      · rw [if_pos he]
        exact .demanded (by simp [ViewerOp.demands, he]) (.refl _)
      · rw [if_neg he]
        exact .failed he (.refl _)
  | key now k =>
    have hinput : SameStanding v
        { v with
          input := (v.input.handleKey now v.nav k).input
          nav := (v.input.handleKey now v.nav k).nav } := ⟨rfl, rfl, rfl, rfl⟩
    exact .aside (by simp) rfl (hinput.trans (sameStanding_performed _ _))
  | report n signal => exact .aside (by simp) rfl (sameStanding_receive v n signal)
  | rearrange change => exact .aside (by simp) rfl (.refl v)

/-- Whatever happens is a turn. -/
theorem turn_apply (v : Viewer) (fs : Files) (op : ViewerOp) :
    Turn v op (apply (v, fs) op).1 := by
  cases hs : v.saves op with
  | false =>
    rw [(apply_of_not_saves hs).1]
    exact turn_work v op
  | true =>
    rw [(apply_of_saves hs).1, viewer_persist]
    exact (turn_work v op).behind ⟨rfl, rfl, rfl, rfl⟩

/-! ## What a turn does to the connection and to the stream -/

theorem requireReauth_of_required (h : v.connection = .reauthRequired) :
    v.requireReauth.1 = v := by
  simp [requireReauth, h]

theorem requireReauth_of_unrequired (h : v.connection ≠ .reauthRequired) :
    v.requireReauth.1 =
      { v with
        source := v.source.stopStream.1
        connection := .reauthRequired
        store := v.store.setError reauthNotice } := by
  simp [requireReauth, h]

theorem isSubscribed_stopStream (x : Source) : x.stopStream.1.isSubscribed = false := by
  cases x with
  | live f => rfl
  | history f => rfl

/-- Only a demand makes a viewer ask for a credential. -/
theorem heard?_ne (v : Viewer) (op : ViewerOp) : v.heard? op ≠ some .reauthRequired := by
  unfold heard?
  split
  · simp
  · simp

namespace Turn
variable (h : Turn v op w)
include h

theorem session : w.session = v.session := by
  cases h with
  | aside hevent hshows h => exact h.session
  | shown hshows h => rw [h.session, reached_eq]
  | broken hreaction h => rw [h.session, reached_eq]
  | demanded hdemands h =>
    rw [h.session]
    by_cases hc : v.connection = .reauthRequired
    · rw [requireReauth_of_required hc]
    · rw [requireReauth_of_unrequired hc]
  | failed hother h => exact h.session

/-- A demand decides the connection for good; before it, what is heard does. -/
theorem connection : w.connection =
    if v.connection = .reauthRequired ∨ op.demands v.session = true then .reauthRequired
    else (v.heard? op).getD v.connection := by
  by_cases hc : v.connection = .reauthRequired
  · rw [if_pos (.inl hc)]
    cases h with
    | aside hevent hshows h => exact h.connection.trans hc
    | shown hshows h => rw [h.connection, reached_eq, if_pos hc]
    | broken hreaction h => rw [h.connection, reached_eq, if_pos hc]
    | demanded hdemands h => rw [h.connection, requireReauth_of_required hc, hc]
    | failed hother h => exact h.connection.trans hc
  · cases h with
    | aside hevent hshows h =>
      simp [h.connection, hc, demands_eq_false hevent, heard?_eq_none hevent hshows]
    | shown hshows h => simp [h.connection, reached_eq, hc, ViewerOp.demands, heard?, hshows]
    | broken hreaction h =>
      simp [h.connection, reached_eq, hc, ViewerOp.demands, heard?, hreaction]
    | demanded hdemands h => simp [h.connection, requireReauth_of_unrequired hc, hdemands]
    | failed hother h => simp [h.connection, hc, ViewerOp.demands, heard?, hother, shows?]

/-- A viewer that asks for a credential has closed the stream. -/
theorem unsubscribed (hv : v.connection = .reauthRequired → v.source.isSubscribed = false)
    (hw : w.connection = .reauthRequired) : w.source.isSubscribed = false := by
  by_cases hc : v.connection = .reauthRequired
  · have hsubscribed : w.source.isSubscribed = v.source.isSubscribed := by
      cases h with
      | aside hevent hshows h => exact h.subscribed
      | shown hshows h => rw [h.subscribed, reached_eq]
      | broken hreaction h => rw [h.subscribed, reached_eq]
      | demanded hdemands h => rw [h.subscribed, requireReauth_of_required hc]
      | failed hother h => exact h.subscribed
    rw [hsubscribed, hv hc]
  · cases h with
    | aside hevent hshows h => exact absurd (h.connection.symm.trans hw) hc
    | shown hshows h => simp [h.connection, reached_eq, hc] at hw
    | broken hreaction h => simp [h.connection, reached_eq, hc] at hw
    | demanded hdemands h =>
      rw [h.subscribed, requireReauth_of_unrequired hc]
      exact isSubscribed_stopStream v.source
    | failed hother h => exact absurd (h.connection.symm.trans hw) hc

end Turn

/-! ## Runs -/

theorem run_cons (state : Viewer × Files) (op : ViewerOp) (ops : List ViewerOp) :
    run state (op :: ops) = run (apply state op) ops := rfl

theorem session_run (state : Viewer × Files) (ops : List ViewerOp) :
    (run state ops).1.session = state.1.session := by
  induction ops generalizing state with
  | nil => rfl
  | cons op ops ih => exact (ih (apply state op)).trans (turn_apply state.1 state.2 op).session

/-- The connection behind a run: a credential is asked for if that was so before or if one of the
things that happened demands it, and else what was heard last decides. -/
theorem connection_run (state : Viewer × Files) (ops : List ViewerOp) :
    (run state ops).1.connection =
      if state.1.connection = .reauthRequired ∨ ∃ op ∈ ops, op.demands state.1.session = true then
        .reauthRequired
      else (gather apply (fun s => s.1.heard?) state ops).getLast?.getD state.1.connection := by
  induction ops generalizing state with
  | nil => simp [run]
  | cons op ops ih =>
    have hturn := turn_apply state.1 state.2 op
    rw [run_cons, ih, hturn.session, hturn.connection, last_gather_cons]
    simp only [List.mem_cons, exists_eq_or_imp, ← or_assoc]
    by_cases hnow : state.1.connection = .reauthRequired ∨ op.demands state.1.session = true
    · rw [if_pos hnow, if_pos (.inl rfl), if_pos (.inl hnow)]
    · obtain ⟨hc, hop⟩ := not_or.1 hnow
      have hnew : (state.1.heard? op).getD state.1.connection ≠ .reauthRequired := by
        have hheard := heard?_ne state.1 op
        cases hnews : state.1.heard? op with
        | none => exact hc
        | some c => simpa [hnews] using hheard
      rw [if_neg hnow]
      simp only [hnew, hc, hop, false_or, Bool.false_eq_true]

/-- What was heard last does not make a viewer ask for a credential. -/
theorem lastHeard_ne {c : Connection} (hc : c ≠ .reauthRequired) (state : Viewer × Files)
    (ops : List ViewerOp) :
    (gather apply (fun s => s.1.heard?) state ops).getLast?.getD c ≠ .reauthRequired := by
  cases hlast : (gather apply (fun s => s.1.heard?) state ops).getLast? with
  | none => exact hc
  | some d =>
    obtain ⟨s, op, hd⟩ := exists_of_mem_gather (List.mem_of_getLast? hlast)
    rintro rfl
    exact heard?_ne s.1 op hd

theorem unsubscribed_run {state : Viewer × Files}
    (h : state.1.connection = .reauthRequired → state.1.source.isSubscribed = false)
    (ops : List ViewerOp) (hrun : (run state ops).1.connection = .reauthRequired) :
    (run state ops).1.source.isSubscribed = false := by
  induction ops generalizing state with
  | nil => exact h hrun
  | cons op ops ih => exact ih ((turn_apply state.1 state.2 op).unsubscribed h) hrun

/-- Behind every run, a credential is asked for exactly if one of the things that happened demands
it; otherwise the last snapshot that was shown or error of the stream decides the connection.  Once
a credential is asked for it is asked for ever after, and there is no subscription any more. -/
theorem connection_of_events (nav : Navigator) (source : Source) (session : Session)
    (addressFile : Option Path) (fs : Files) (ops : List ViewerOp) :
    let begin := (start nav source session addressFile, fs)
    let heard := gather apply (fun state => state.1.heard?) begin ops
    let state := run begin ops
    (state.1.connection = .reauthRequired ↔ ∃ op ∈ ops, op.demands session = true) ∧
      (state.1.connection ≠ .reauthRequired →
        state.1.connection = heard.getLast?.getD .connecting) ∧
      (state.1.connection = .reauthRequired → ∀ later,
        (run state later).1.connection = .reauthRequired ∧
          ∀ f, (run state later).1.source = .live f → f.subscribed = false) := by
  intro begin heard state
  have hconnection : state.1.connection =
      if ∃ op ∈ ops, op.demands session = true then .reauthRequired
      else heard.getLast?.getD .connecting := by
    have hstart : ¬begin.1.connection = .reauthRequired := by simp [begin, start]
    have hrun := connection_run begin ops
    simp only [hstart, false_or] at hrun
    exact hrun
  have hheard : heard.getLast?.getD .connecting ≠ .reauthRequired :=
    lastHeard_ne (by simp) begin ops
  refine ⟨?_, ?_, ?_⟩
  · by_cases hdemanded : ∃ op ∈ ops, op.demands session = true
    · rw [hconnection, if_pos hdemanded]
      exact ⟨fun _ => hdemanded, fun _ => rfl⟩
    · rw [hconnection, if_neg hdemanded]
      exact ⟨fun h => absurd h hheard, fun h => absurd h hdemanded⟩
  · intro hc
    by_cases hdemanded : ∃ op ∈ ops, op.demands session = true
    · rw [hconnection, if_pos hdemanded] at hc
      exact absurd rfl hc
    · rw [hconnection, if_neg hdemanded]
  · intro hc later
    have hstill : (run state later).1.connection = .reauthRequired := by
      rw [connection_run, if_pos (.inl hc)]
    refine ⟨hstill, fun f hf => ?_⟩
    have hclosed : state.1.source.isSubscribed = false :=
      unsubscribed_run (by simp [begin, start]) ops hc
    have hunsubscribed := unsubscribed_run (fun _ => hclosed) later hstill
    rwa [hf] at hunsubscribed

end Viewer

end SnapshotViewer
