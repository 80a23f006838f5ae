import Mathlib.Data.List.TakeWhile
import SnapshotViewer.Http.Url

/-!
# The server that a web address leads to

A web address is read from the left, and where it leads is settled by the first slash behind the
host.  What a base address is continued with cannot change that: whatever is asked for, it is asked
of the same server and in the same name, or nothing can be asked for at all.

A base address may also end in its scheme.  Then the continuation supplies the host, so it has to be
fixed as far as its own first part goes.

## Main definitions

* `Url.server` — a web address without what is asked for.
* `Url.authority`, `Url.server?` — the part that leads to the server, and its reading.
* `Url.inApi` — whether a path belongs to the interface.

## Main statements

* `Url.server_read` — where a web address leads.
* `Url.server_read_append` — all paths of the interface lead to the same server.
-/

namespace SnapshotViewer.Url

/-- A web address without what is asked for: the server, and a name and a password. -/
def server (u : Url) : Url := { u with path := "/", query := none, fragment := none }

/-- The part of a web address behind its scheme that leads to the server. -/
def authority (cs : List Char) : List Char :=
  (cs.dropWhile fun c => c == '/' || c == '\\').takeWhile fun c => !"/\\?#".toList.contains c

/-- The server that such a part leads to. -/
def server? (scheme : String) (authority : List Char) : Option Url := do
  let (user, rest) := splitUser authority
  let host ← readHost? (splitSocket rest).1
  let socket ← readSocket? scheme (splitSocket rest).2
  return { scheme, user, host, socket }

/-- A base address without what does not count in it when it is continued. -/
def bareBase (base : String) : List Char :=
  (base.toList.dropWhile isOuter).filter fun c => !(c == '\t' || c == '\n' || c == '\r')

/-- Whether a path belongs to the interface that servers offer and is written without characters
that do not count. -/
def inApi (path : String) : Bool :=
  "/api/".toList.isPrefixOf path.toList && path.toList.all fun c => !isOuter c

/-! ## Texts with something behind them -/

section Append
variable {α : Type} {p : α → Bool} {x : α}

/-- What is taken from the front ends before what does not belong to it. -/
theorem takeWhile_append_cons (h : p x = false) (xs ys : List α) :
    (xs ++ x :: ys).takeWhile p = xs.takeWhile p := by
  induction xs with
  | nil => simp [h]
  | cons y xs ih => simp [List.takeWhile_cons, ih]

theorem dropWhile_append_cons (h : p x = false) (xs ys : List α) :
    (xs ++ x :: ys).dropWhile p = xs.dropWhile p ++ x :: ys := by
  induction xs with
  | nil => simp [h]
  | cons y xs ih => by_cases hy : p y <;> simp [hy, ih]

end Append

/-! ## Reading -/

theorem server_readRest? (scheme : String) (cs : List Char) :
    (readRest? scheme (cs.dropWhile fun c => c == '/' || c == '\\')).map server =
      server? scheme (authority cs) := by
  unfold readRest? server? authority splitBefore
  simp only
  cases readHost? _ with
  | none => rfl
  | some host =>
    cases readSocket? _ _ with
    | none => rfl
    | some socket => rfl

/-- Where a web address leads, if it can be read. -/
theorem server_read (s : String) :
    (read s).toOption.map server = (readScheme? (bareText s)).bind fun p =>
      if p.1 = "http" ∨ p.1 = "https" then server? p.1 (authority p.2) else none := by
  cases hread : readScheme? (bareText s) with
  | none =>
    simp only [read, hread]
    rfl
  | some p =>
    obtain ⟨scheme, rest⟩ := p
    simp only [read, hread, Option.bind_some, ← server_readRest?]
    by_cases hscheme : scheme = "http" ∨ scheme = "https"
    · have husual : (usualSockets.lookup scheme).isSome := by
        rcases hscheme with rfl | rfl <;> decide
      simp only [husual, if_pos hscheme, if_true]
      cases readRest? scheme _ <;> rfl
    · simp only [if_neg hscheme]
      split
      · cases readRest? scheme _ <;> rfl
      · rfl

/-! ## Base addresses and what they are continued with -/

theorem exists_of_inApi {path : String} (h : inApi path = true) :
    ∃ rest, path.toList = "/api".toList ++ '/' :: rest := by
  obtain ⟨rest, hrest⟩ := List.isPrefixOf_iff_prefix.1 (Bool.and_eq_true_iff.1 h).1
  exact ⟨rest, hrest.symm⟩

theorem isOuter_of_inApi {path : String} (h : inApi path = true) {c : Char} (hc : c ∈ path.toList) :
    isOuter c = false := by
  have hbare := List.all_eq_true.1 (Bool.and_eq_true_iff.1 h).2 c hc
  simpa using hbare

/-- The base is read without what does not count in it, and the path as it stands. -/
theorem bareText_append (base : String) {path : String} (h : inApi path = true) :
    bareText (base ++ path) = bareBase base ++ path.toList := by
  obtain ⟨rest, hpath⟩ := exists_of_inApi h
  have hfront : (base ++ path).toList.dropWhile isOuter =
      base.toList.dropWhile isOuter ++ path.toList := by
    rw [String.toList_append, hpath]
    exact dropWhile_append_cons (by decide) _ _
  -- the path ends with a character that counts, so nothing is taken away behind it
  have hback : path.toList.reverse.dropWhile isOuter = path.toList.reverse := by
    refine List.dropWhile_eq_self_iff.2 fun hlength => ?_
    have hmem : path.toList.reverse[0] ∈ path.toList := List.mem_reverse.1 (List.getElem_mem _)
    exact ne_true_of_eq_false (isOuter_of_inApi h hmem)
  have hkept : (path.toList.filter fun c => !(c == '\t' || c == '\n' || c == '\r')) =
      path.toList := by
    refine List.filter_eq_self.2 fun c hc => ?_
    have hother : ∀ d, isOuter d = true → (c == d) = false := by
      intro d hd
      refine beq_false_of_ne ?_
      rintro rfl
      exact absurd hd (ne_true_of_eq_false (isOuter_of_inApi h hc))
    simp [hother '\t' (by decide), hother '\n' (by decide), hother '\r' (by decide)]
  have hne : ¬path.toList.reverse.isEmpty := by simp [hpath]
  rw [bareText, hfront, List.reverse_append, List.dropWhile_append, hback, if_neg hne,
    List.reverse_append, List.reverse_reverse, List.reverse_reverse, List.filter_append, hkept,
    bareBase]

/-- The scheme is part of the base. -/
theorem readScheme?_append (cs rest : List Char) :
    readScheme? (cs ++ '/' :: rest) =
      (readScheme? cs).map fun p => (p.1, p.2 ++ '/' :: rest) := by
  unfold readScheme?
  simp only
  rw [takeWhile_append_cons (by decide),
    List.drop_append_of_le_length (List.takeWhile_prefix _).length_le]
  cases List.takeWhile _ cs with
  | nil => rfl
  | cons c name =>
    cases cs.drop (c :: name).length with
    | nil => rfl
    | cons colon behind =>
      by_cases hcolon : colon = ':'
      · subst hcolon
        simp only [List.cons_append]
        by_cases hc : c.isAlpha <;> simp [hc]
      · simp [hcolon]

/-- So is the host, or it is the first part of the path. -/
theorem authority_append (cs rest : List Char) :
    authority (cs ++ ("/api".toList ++ '/' :: rest)) = authority (cs ++ "/api".toList) := by
  -- the slashes in front end within the base or with the first slash of the path
  have hends : ¬((cs ++ "/api".toList).dropWhile fun c => c == '/' || c == '\\').isEmpty := by
    rw [List.isEmpty_iff, List.dropWhile_eq_nil_iff]
    exact fun h => absurd (h 'a' (by simp)) (by decide)
  rw [authority, authority, ← List.append_assoc, List.dropWhile_append, if_neg hends]
  exact takeWhile_append_cons (by decide) _ _

/-- Where a base address leads, whatever it is continued with. -/
theorem server_read_base (base : String) {path : String} (h : inApi path = true) :
    (read (base ++ path)).toOption.map server = (readScheme? (bareBase base)).bind fun p =>
      if p.1 = "http" ∨ p.1 = "https" then server? p.1 (authority (p.2 ++ "/api".toList))
      else none := by
  obtain ⟨rest, hpath⟩ := exists_of_inApi h
  have hscheme : readScheme? (bareBase base ++ path.toList) =
      (readScheme? (bareBase base)).map fun p => (p.1, p.2 ++ path.toList) := by
    rw [hpath]
    exact readScheme?_append _ _
  rw [server_read, bareText_append base h, hscheme, Option.bind_map]
  simp only [Function.comp_def, hpath, authority_append]

/-- All paths of the interface lead to the same server, or none of them can be asked for. -/
theorem server_read_append (base : String) {p q : String} (hp : inApi p = true)
    (hq : inApi q = true) :
    (read (base ++ p)).toOption.map server = (read (base ++ q)).toOption.map server := by
  rw [server_read_base base hp, server_read_base base hq]

end SnapshotViewer.Url
