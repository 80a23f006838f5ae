import SnapshotViewer.Proofs.Json.Reorder
import SnapshotViewer.Proofs.Json.Scan
import SnapshotViewer.Snapshot.Document

/-!
# The order of members in a snapshot

A snapshot document treats its members in three ways.  The timestamps and the lists of rows are
fields of a kind of their own, other members of the document are passed over, and a row takes any
members as its fields besides the one that identifies it.  In none of them the order matters.

## Main statements

* `Row.orderFree_decoder`, `Snapshot.orderFree_decoder` — rows and snapshots are read as the same
  when members are reordered.
* `Snapshot.ofText_reordered` — the texts of reordered documents are read as the same snapshot, or
  neither of them is read.
-/

namespace SnapshotViewer

open Json

variable {k l : Collection} {m n : Quoted × Doc}

namespace Row

/-- What a member of a row adds to the identity and the fields that were found before. -/
def memberStep (k : Collection) (depth : Nat) (found : Option EntityId × Fields)
    (m : Quoted × Doc) : Option (Option EntityId × Fields) :=
  m.1.read.toOption.bind fun name =>
    if name = k.idField then
      if found.1.isSome then none
      else (Decoder.int k.idBounds.1 k.idBounds.2 depth m.2).toOption.map fun n =>
        (some (EntityId.ofInt n), found.2)
    else (Scalar.decoder depth m.2).toOption.map fun v =>
      (found.1, Keyed.insert name v found.2)

theorem decodeMembers_eq (k : Collection) (depth : Nat) (fault : Option Fault)
    (ms : List (Quoted × Doc)) (id : Option EntityId) (fields : Fields) :
    (decodeMembers k depth fault ms id fields).toOption =
      (ms.foldlM (memberStep k depth) (id, fields)).bind fun found =>
        (ended fault).toOption.bind fun _ => found.1.map fun id => ⟨id, found.2⟩ := by
  induction ms generalizing id fields with
  | nil =>
    simp only [decodeMembers, toOption_bind]
    cases id <;> rfl
  | cons m ms ih =>
    obtain ⟨q, d⟩ := m
    rw [decodeMembers, toOption_bind, List.foldlM_cons, memberStep]
    cases q.read.toOption with
    | none => rfl
    | some name =>
      simp only [Option.bind_some]
      by_cases hname : name = k.idField
      · rw [if_pos hname, if_pos hname]
        cases id with
        | some _ => rfl
        | none =>
          simp only [Option.isSome_none, Bool.false_eq_true, if_false, toOption_bind, ih]
          cases (Decoder.int k.idBounds.1 k.idBounds.2 depth d).toOption <;> rfl
      · rw [if_neg hname, if_neg hname]
        simp only [toOption_bind, ih]
        cases (Scalar.decoder depth d).toOption <;> rfl

theorem orderFree_scalar : Scalar.decoder.OrderFree := Decoder.orderFree_value.map Scalar.ofValue

theorem memberStep_congr (k : Collection) (depth : Nat) (found : Option EntityId × Fields)
    (h : SameMember m n) : memberStep k depth found m = memberStep k depth found n := by
  simp only [memberStep, h.1, Decoder.orderFree_int _ _ depth _ _ h.2,
    orderFree_scalar depth _ _ h.2]

theorem memberStep_comm (k : Collection) (depth : Nat) (h : sameName m n = false)
    (found : Option EntityId × Fields) :
    (memberStep k depth found m).bind (memberStep k depth · n) =
      (memberStep k depth found n).bind (memberStep k depth · m) := by
  unfold memberStep
  cases ha : m.1.read.toOption with
  | none => simp
  | some a =>
    cases hb : n.1.read.toOption with
    | none => simp
    | some b =>
      have hne := ne_of_sameName h ha hb
      simp only [Option.bind_some]
      by_cases hak : a = k.idField
      · have hbk : b ≠ k.idField := fun hbk => hne (hak.trans hbk.symm)
        simp only [if_pos hak, if_neg hbk]
        cases found.1 <;> cases (Scalar.decoder depth n.2).toOption <;>
          cases (Decoder.int k.idBounds.1 k.idBounds.2 depth m.2).toOption <;> simp
      · by_cases hbk : b = k.idField
        · simp only [if_neg hak, if_pos hbk]
          cases found.1 <;> cases (Scalar.decoder depth m.2).toOption <;>
            cases (Decoder.int k.idBounds.1 k.idBounds.2 depth n.2).toOption <;> simp
        · simp only [if_neg hak, if_neg hbk]
          cases (Scalar.decoder depth m.2).toOption <;>
            cases (Scalar.decoder depth n.2).toOption <;> simp [Keyed.insert_comm hne]

/-- The members of a row may be given in any order. -/
theorem orderFree_decoder (k : Collection) : (decoder k).OrderFree := by
  intro depth d d' hd
  cases d with
  | array items fault =>
    obtain ⟨items', rfl, -⟩ := hd.array_cases
    rfl
  | object ms fault =>
    obtain ⟨ns, ms', rfl, hvalues, hperm, hapart⟩ := hd.object_cases
    cases depth with
    | zero => rfl
    | succ depth =>
      simp only [decoder, decodeMembers_eq]
      rw [foldlM_reordered (fun found m n => memberStep_congr k depth found)
        (fun m n => memberStep_comm k depth) hvalues hperm hapart]
  | _ => rw [hd.eq (by simp) (by simp)]

end Row

namespace Tables

theorem put_comm (h : k ≠ l) (t : Tables) (rows rows' : List Row) :
    (t.put rows k).put rows' l = (t.put rows' l).put rows k := by
  cases k <;> cases l <;> first | rfl | exact absurd rfl h

end Tables

namespace Snapshot

/-- A field puts what its reader reads into the snapshot. -/
theorem commutes_of_put {α β : Type} {name name' : String} {required required' : Bool}
    {d : Decoder α} {d' : Decoder β} {put : α → Snapshot → Snapshot}
    {put' : β → Snapshot → Snapshot} (h : ∀ x y s, put' y (put x s) = put x (put' y s)) :
    (Member.mk name required (d.map put)).Commutes ⟨name', required', d'.map put'⟩ := by
  intro depth doc doc' f g hf hg s
  obtain ⟨x, -, rfl⟩ := exists_of_map_eq_ok hf
  obtain ⟨y, -, rfl⟩ := exists_of_map_eq_ok hg
  exact h x y s

theorem fieldsFree : Decoder.FieldsFree documentFields where
  read f hf := by
    rcases List.mem_append.1 hf with hf | hf
    · simp only [List.mem_cons, List.not_mem_nil, or_false] at hf
      rcases hf with rfl | rfl | rfl
      · exact (Decoder.orderFree_int _ _).map _
      · exact (Decoder.orderFree_int _ _).optional.map _
      · exact (Decoder.orderFree_int _ _).optional.map _
    · obtain ⟨k, -, rfl⟩ := List.mem_map.1 hf
      exact (Row.orderFree_decoder k).list.map _
  comm f hf g hg hne := by
    simp only [documentFields, List.mem_append, List.mem_cons, List.not_mem_nil, or_false,
      List.mem_map] at hf hg
    rcases hf with (rfl | rfl | rfl) | ⟨k, -, rfl⟩ <;>
      rcases hg with (rfl | rfl | rfl) | ⟨l, -, rfl⟩
    -- the fields of two collections are the only two of one kind
    case inr.inr =>
      have hkl : k ≠ l := fun h => hne (congrArg Collection.name h)
      exact commutes_of_put fun rows rows' s => by rw [Tables.put_comm hkl]
    all_goals first | exact absurd rfl hne | exact commutes_of_put fun _ _ _ => rfl

/-- The members of a snapshot document may be given in any order. -/
theorem orderFree_decoder : decoder.OrderFree := Decoder.OrderFree.record fieldsFree _

/-- From the texts of two documents that differ in the order of members only, the same snapshot is
read, or none is read from either. -/
theorem ofText_reordered {d d' : Doc} {s t : String} (hs : SpellsText d s.toList)
    (ht : SpellsText d' t.toList) (hapart : d.NamesApart) (h : d.Reordered d') :
    (∃ x, ofText s = .ok x ∧ ofText t = .ok x) ∨
      ∃ c c', ofText s = .error c ∧ ofText t = .error c' := by
  have hread : (ofText s).toOption = (ofText t).toOption := by
    rw [ofText, ofText, hs.decodeText, ht.decodeText]
    exact orderFree_decoder maxDepth d d' ⟨h, hapart⟩
  cases hs : ofText s with
  | error c =>
    cases ht : ofText t with
    | error c' => exact .inr ⟨c, c', rfl, rfl⟩
    | ok y =>
      rw [hs, ht] at hread
      cases hread
  | ok x =>
    rw [hs] at hread
    exact .inl ⟨x, rfl, toOption_eq_some_iff.1 hread.symm⟩

/-- Members change places in the document, in its only row and in the record that a field of the row
holds. -/
theorem ofText_reordered_session :
    let number (c : Char) : Doc := .number ⟨false, [c], [], false, none⟩
    let d : Doc := .object [(.plain "timestamp", number '9'), (.plain "pga", .array [.object
      [(.plain "pid", number '7'), (.plain "q", .object
        [(.plain "b", number '1'), (.plain "a", number '2')] none)] none] none)] none
    let d' : Doc := .object [(.plain "pga", .array [.object [(.plain "q", .object
      [(.plain "a", number '2'), (.plain "b", number '1')] none), (.plain "pid", number '7')]
        none] none), (.plain "timestamp", number '9')] none
    let s := "\x7b\"timestamp\":9,\"pga\":[\x7b\"pid\":7,\"q\":\x7b\"b\":1,\"a\":2\x7d\x7d]\x7d"
    let t := "\x7b\"pga\":[\x7b\"q\":\x7b\"a\":2,\"b\":1\x7d,\"pid\":7\x7d],\"timestamp\":9\x7d"
    SpellsText d s.toList ∧ SpellsText d' t.toList ∧ d.NamesApart ∧ d.Reordered d' ∧
      ((∃ x, ofText s = .ok x ∧ ofText t = .ok x) ∨
        ∃ c c', ofText s = .error c ∧ ofText t = .error c') := by
  intro number d d' s t
  have hnumber : ∀ c, c.isDigit = true → SpellsValue (number c) [c] := fun c hc =>
    .number (.plain (.mk ⟨by simpa using hc, by simp⟩ (by simp) .none .none))
  have hpair : ∀ {m n : Quoted × Doc} {cs ds : List Char}, SpellsMember m cs → SpellsMember n ds →
      SpellsValue (.object [m, n] none) ('\x7b' :: (cs ++ ',' :: (ds ++ ['\x7d']))) := by
    intro m n cs ds hm hn
    simpa using SpellsValue.object isBlank_nil
      (.cons hm isBlank_nil isBlank_nil (.last hn isBlank_nil))
  have hone : ∀ {d : Doc} {cs : List Char}, SpellsValue d cs →
      SpellsValue (.array [d] none) ('[' :: (cs ++ [']'])) := by
    intro d cs hd
    simpa using SpellsValue.array isBlank_nil (.last hd isBlank_nil)
  have htext : ∀ {d : Doc} {cs text : List Char}, SpellsValue d cs → cs = text →
      SpellsText d text := by
    rintro d cs text hd rfl
    simpa using SpellsText.mk isBlank_nil hd isBlank_nil
  have htime := SpellsMember.plain "timestamp" (by decide) (hnumber '9' rfl)
  have hpid := SpellsMember.plain "pid" (by decide) (hnumber '7' rfl)
  have ha := SpellsMember.plain "a" (by decide) (hnumber '2' rfl)
  have hb := SpellsMember.plain "b" (by decide) (hnumber '1' rfl)
  have hs : SpellsText d s.toList := htext (hpair htime (.plain "pga" (by decide)
    (hone (hpair hpid (.plain "q" (by decide) (hpair hb ha)))))) (by decide +kernel)
  have ht : SpellsText d' t.toList := htext (hpair (.plain "pga" (by decide)
    (hone (hpair (.plain "q" (by decide) (hpair ha hb)) hpid))) htime) (by decide +kernel)
  have hapart : d.NamesApart := by
    refine .object (by decide +kernel) (List.forall_mem_cons.2 ⟨.number _, ?_⟩)
    refine List.forall_mem_singleton.2 (.array (List.forall_mem_singleton.2 ?_))
    refine .object (by decide +kernel) (List.forall_mem_cons.2 ⟨.number _, ?_⟩)
    refine List.forall_mem_singleton.2 (.object (by decide +kernel) ?_)
    exact List.forall_mem_cons.2 ⟨.number _, List.forall_mem_singleton.2 (.number _)⟩
  have hswap : ∀ {p q : Quoted} {d e d' e' : Doc}, d.Reordered d' → e.Reordered e' →
      (Doc.object [(p, d), (q, e)] none).Reordered (.object [(q, e'), (p, d')] none) := by
    intro p q d e d' e' hd he
    refine .object ?_ ?_ ?_ (.swap (q, e') (p, d') [])
    · rfl
    · simp
    · exact List.forall_mem_cons.2 ⟨hd, List.forall_mem_singleton.2 he⟩
  have h : d.Reordered d' := by
    refine hswap (.refl _) (.array rfl (List.forall_mem_singleton.2 ?_))
    exact hswap (.refl _) (hswap (.refl _) (.refl _))
  exact ⟨hs, ht, hapart, h, ofText_reordered hs ht hapart h⟩

end Snapshot

end SnapshotViewer
