import Mathlib.Data.Finset.Insert
import Mathlib.Data.Finset.Dedup
import Mathlib.Data.List.Forall2
import SnapshotViewer.Proofs.Json.Decoder
import SnapshotViewer.Proofs.Keyed

/-!
# The order of members

The members of a record may be given in any order.  A reader goes through them one after another and
stops at the first problem, so in another order it may stop at another one.  But if no two members
have one name, the steps that it takes for them commute: what is read is the same, or in both orders
nothing is.

That is stated for readers: a reader is free of order if reordered documents have the same result.
Readers that are put together from such readers are free of order again.

## Main definitions

* `Doc.Reordered` — two documents differ in the order of members, at any depth.
* `Doc.NamesApart` — no record has two members with one name.
* `Decoder.OrderFree` — reordered documents are read as the same.
* `Decoder.FieldsFree` — the fields of a record allow for any order.

## Main statements

* `foldlM_reordered` — what commuting steps over the members of a record lead to.
* `Decoder.orderFree_value`, `Doc.Reordered.skim_eq_ok_iff` — values, and what is passed over.
* `Decoder.OrderFree.list`, `Decoder.OrderFree.optional`, `Decoder.OrderFree.record` — lists, values
  that may be null, and records.
-/

namespace SnapshotViewer.Json

/-- The two documents differ only in the order of the members of records, at any depth. -/
inductive Doc.Reordered : Doc → Doc → Prop
  | refl (d : Doc) : Reordered d d
  /-- Members are reordered within the items of a list. -/
  | array {items items' : List Doc} {fault : Option Fault} (hlength : items.length = items'.length)
    (hitems : ∀ x ∈ items.zip items', Reordered x.1 x.2) :
    Reordered (.array items fault) (.array items' fault)
  /-- Members are reordered within the values of a record, and then its own members. -/
  | object {ms ns ms' : List (Quoted × Doc)} {fault : Option Fault}
    (hlength : ms.length = ns.length) (hnames : ∀ x ∈ ms.zip ns, x.1.1 = x.2.1)
    (hvalues : ∀ x ∈ ms.zip ns, Reordered x.1.2 x.2.2) (hperm : ns.Perm ms') :
    Reordered (.object ms fault) (.object ms' fault)

/-- No record of the document has two members with one name. -/
inductive Doc.NamesApart : Doc → Prop
  | null : NamesApart .null
  | bool (b : Bool) : NamesApart (.bool b)
  | number (l : Literal) : NamesApart (.number l)
  | string (q : Quoted) : NamesApart (.string q)
  | broken (f : Fault) : NamesApart (.broken f)
  | array {items : List Doc} {fault : Option Fault} (hitems : ∀ d ∈ items, NamesApart d) :
    NamesApart (.array items fault)
  | object {ms : List (Quoted × Doc)} {fault : Option Fault}
    (hnames : ms.Pairwise fun m n => sameName m n = false) (hvalues : ∀ m ∈ ms, NamesApart m.2) :
    NamesApart (.object ms fault)

/-- The second document is the first one reordered, and no two members of a record that could have
changed places have one name. -/
structure Doc.Alike (d d' : Doc) : Prop where
  reordered : d.Reordered d'
  apart : d.NamesApart

/-- Two members have one name and alike values. -/
def SameMember (m n : Quoted × Doc) : Prop := m.1 = n.1 ∧ m.2.Alike n.2

variable {α β σ : Type} {ms ns ms' : List (Quoted × Doc)} {items : List Doc}
  {fault : Option Fault} {d d' : Doc}

/-! ## What is reordered -/

/-- A list is reordered within its items. -/
theorem Doc.Alike.array_cases (h : Alike (.array items fault) d) : ∃ items',
    d = .array items' fault ∧ List.Forall₂ Alike items items' := by
  obtain ⟨h, hapart⟩ := h
  have hitem : ∀ d ∈ items, d.NamesApart := by
    cases hapart with
    | array hitems => exact hitems
  cases h with
  | refl => exact ⟨items, rfl, List.forall₂_same.2 fun d hd => ⟨.refl d, hitem d hd⟩⟩
  | array hlength hitems =>
    exact ⟨_, rfl, List.forall₂_iff_zip.2
      ⟨hlength, fun hx => ⟨hitems _ hx, hitem _ (List.of_mem_zip hx).1⟩⟩⟩

/-- A record is reordered within its values, and then its members are. -/
theorem Doc.Alike.object_cases (h : Alike (.object ms fault) d) : ∃ ns ms',
    d = .object ms' fault ∧ List.Forall₂ SameMember ms ns ∧ ns.Perm ms' ∧
      ms.Pairwise fun m n => sameName m n = false := by
  obtain ⟨h, hapart⟩ := h
  obtain ⟨hnames, hvalue⟩ : (ms.Pairwise fun m n => sameName m n = false) ∧
      ∀ m ∈ ms, m.2.NamesApart := by
    cases hapart with
    | object hnames hvalues => exact ⟨hnames, hvalues⟩
  cases h with
  | refl =>
    exact ⟨ms, ms, rfl, List.forall₂_same.2 fun m hm => ⟨rfl, .refl m.2, hvalue m hm⟩, .refl ms,
      hnames⟩
  | object hlength hsame hvalues hperm =>
    exact ⟨_, _, rfl, List.forall₂_iff_zip.2 ⟨hlength, fun hx =>
      ⟨hsame _ hx, hvalues _ hx, hvalue _ (List.of_mem_zip hx).1⟩⟩, hperm, hnames⟩

/-- What is no list and no record is not reordered. -/
theorem Doc.Alike.eq (h : d.Alike d') (harray : ∀ items fault, d ≠ .array items fault)
    (hobject : ∀ ms fault, d ≠ .object ms fault) : d' = d := by
  cases h.reordered with
  | refl => rfl
  | array => exact absurd rfl (harray _ _)
  | object => exact absurd rfl (hobject _ _)

/-! ## Steps over the members of a record -/

/-- Steps over a list that commute lead to the same in every order. -/
theorem foldlM_perm {step : σ → α → Option σ} {R : α → α → Prop} (hsymm : ∀ {a b}, R a b → R b a)
    (hcomm : ∀ a b, R a b → ∀ s, (step s a).bind (step · b) = (step s b).bind (step · a))
    {xs ys : List α} (hperm : xs.Perm ys) (hpair : xs.Pairwise R) (s : σ) :
    xs.foldlM step s = ys.foldlM step s := by
  induction hperm generalizing s with
  | nil => rfl
  | cons a _ ih =>
    simp only [List.foldlM_cons]
    exact bind_congr fun t => ih hpair.of_cons t
  | swap a b xs =>
    have hab := (List.pairwise_cons.1 hpair).1 a List.mem_cons_self
    simp only [List.foldlM_cons, ← bind_assoc]
    exact congrArg (· >>= fun t => xs.foldlM step t) (hcomm b a hab s)
  | trans h _ ih ih' => rw [ih hpair, ih' ((h.pairwise_iff hsymm).1 hpair)]

theorem sameName_comm (m n : Quoted × Doc) : sameName m n = sameName n m := by
  unfold sameName
  cases m.1.read <;> cases n.1.read <;> simp [Bool.beq_comm]

/-- Members with the same names have them apart if the others do. -/
theorem pairwise_of_sameMember (h : List.Forall₂ SameMember ms ns)
    (hapart : ms.Pairwise fun m n => sameName m n = false) :
    ns.Pairwise fun m n => sameName m n = false := by
  have hnames : ns.map (·.1) = ms.map (·.1) := by
    induction h with
    | nil => rfl
    | cons hm _ ih => rw [List.map_cons, List.map_cons, ih hapart.of_cons, hm.1]
  have hmap : ∀ xs : List (Quoted × Doc), (xs.Pairwise fun m n => sameName m n = false) ↔
      (xs.map (·.1)).Pairwise fun p q => sameName (p, .null) (q, .null) = false := fun xs => by
    rw [List.pairwise_map]
    rfl
  rwa [hmap, hnames, ← hmap]

/-- Steps over the members of a record lead to the same when it is reordered, if those for members
with different names commute and each is free of the order within its value. -/
theorem foldlM_reordered {step : σ → Quoted × Doc → Option σ}
    (hvalue : ∀ s m n, SameMember m n → step s m = step s n)
    (hcomm : ∀ m n, sameName m n = false →
      ∀ s, (step s m).bind (step · n) = (step s n).bind (step · m))
    (hvalues : List.Forall₂ SameMember ms ns) (hperm : ns.Perm ms')
    (hapart : ms.Pairwise fun m n => sameName m n = false) (s : σ) :
    ms.foldlM step s = ms'.foldlM step s := by
  have hpair := pairwise_of_sameMember hvalues hapart
  calc ms.foldlM step s = ns.foldlM step s := by
        clear hapart hperm hpair
        induction hvalues generalizing s with
        | nil => rfl
        | cons hm _ ih =>
          rw [List.foldlM_cons, List.foldlM_cons, hvalue s _ _ hm]
          exact bind_congr ih
    _ = ms'.foldlM step s := foldlM_perm (fun h => (sameName_comm _ _).trans h) hcomm hperm hpair s

/-- Names that are read and are not the same are different texts. -/
theorem ne_of_sameName {m n : Quoted × Doc} (h : sameName m n = false) {a b : String}
    (ha : m.1.read.toOption = some a) (hb : n.1.read.toOption = some b) : a ≠ b := by
  rintro rfl
  rw [toOption_eq_some_iff] at ha hb
  simp [sameName, ha, hb] at h

/-! ## Values -/

/-- What a member of a record of values adds to those that were found before. -/
def valueStep (depth : Nat) (found : List (String × Value)) (m : Quoted × Doc) :
    Option (List (String × Value)) :=
  m.1.read.toOption.bind fun name =>
    (m.2.value depth).toOption.map fun v => Keyed.insert name v found

theorem memberValues_eq (depth : Nat) (ms : List (Quoted × Doc)) (found : List (String × Value)) :
    (memberValues depth ms found).toOption = ms.foldlM (valueStep depth) found := by
  induction ms generalizing found with
  | nil => rfl
  | cons m ms ih =>
    obtain ⟨q, d⟩ := m
    simp only [memberValues, toOption_bind, List.foldlM_cons, valueStep, ih]
    cases q.read.toOption <;> cases (d.value depth).toOption <;> rfl

theorem valueStep_comm (depth : Nat) {m n : Quoted × Doc} (h : sameName m n = false)
    (found : List (String × Value)) :
    (valueStep depth found m).bind (valueStep depth · n) =
      (valueStep depth found n).bind (valueStep depth · m) := by
  unfold valueStep
  cases ha : m.1.read.toOption with
  | none => simp
  | some a =>
    cases hb : n.1.read.toOption with
    | none => simp
    | some b =>
      have hne := ne_of_sameName h ha hb
      cases (m.2.value depth).toOption <;> cases (n.2.value depth).toOption <;>
        simp [Keyed.insert_comm hne]

theorem itemValues_eq (depth : Nat) (items : List Doc) :
    itemValues depth items = items.mapM (Doc.value depth) := by
  induction items with
  | nil => rfl
  | cons d items ih => simp only [itemValues, ih, List.mapM_cons]

/-- What is done to the items of a list comes to the same when they are reordered, if that is so for
each of them. -/
theorem mapM_reordered {f : Doc → Except Cause α} {items' : List Doc}
    (hf : ∀ d d', Doc.Alike d d' → (f d).toOption = (f d').toOption)
    (h : List.Forall₂ Doc.Alike items items') :
    (items.mapM f).toOption = (items'.mapM f).toOption := by
  induction h with
  | nil => rfl
  | cons hd _ ih => simp only [List.mapM_cons, toOption_bind, hf _ _ hd, ih]

/-- Reordered documents have the same value. -/
theorem Doc.Alike.value (h : d.Alike d') (depth : Nat) :
    (d.value depth).toOption = (d'.value depth).toOption := by
  induction depth generalizing d d' with
  | zero =>
    cases d with
    | array items fault =>
      obtain ⟨items', rfl, -⟩ := h.array_cases
      rfl
    | object ms fault =>
      obtain ⟨ns, ms', rfl, -⟩ := h.object_cases
      rfl
    | _ => rw [h.eq (by simp) (by simp)]
  | succ depth ih =>
    cases d with
    | array items fault =>
      obtain ⟨items', rfl, hitems⟩ := h.array_cases
      have hvalues := mapM_reordered (f := Doc.value depth) (fun d d' hd => ih hd) hitems
      simp only [Doc.value, toOption_bind, itemValues_eq, hvalues]
    | object ms fault =>
      obtain ⟨ns, ms', rfl, hvalues, hperm, hapart⟩ := h.object_cases
      have hstep : ∀ found m n, SameMember m n →
          valueStep depth found m = valueStep depth found n :=
        fun found m n hm => by simp only [valueStep, hm.1, ih hm.2]
      have hmembers := foldlM_reordered hstep (fun m n => valueStep_comm depth) hvalues hperm
        hapart []
      simp only [Doc.value, toOption_bind, memberValues_eq, hmembers]
    | _ => rw [h.eq (by simp) (by simp)]

/-! ## What is passed over -/

theorem skimItems_eq_ok_iff : skimItems items = .ok () ↔ ∀ d ∈ items, d.skim = .ok () := by
  induction items with
  | nil => simp [skimItems]
  | cons d items ih =>
    rw [List.forall_mem_cons, ← ih, skimItems, seq_eq_ok_iff]

theorem skimMembers_eq_ok_iff :
    skimMembers ms = .ok () ↔ ∀ m ∈ ms, m.1.skim = .ok () ∧ m.2.skim = .ok () := by
  induction ms with
  | nil => simp [skimMembers]
  | cons m ms ih =>
    obtain ⟨q, d⟩ := m
    rw [List.forall_mem_cons, ← ih, skimMembers, seq_eq_ok_iff, seq_eq_ok_iff, and_assoc]

/-- What holds of all items of a list holds of all items of another one, if it does so item by
item. -/
theorem forall_mem_iff_of_forall₂ {P Q : α → Prop} {xs ys : List α}
    (h : List.Forall₂ (fun x y => P x ↔ Q y) xs ys) : (∀ x ∈ xs, P x) ↔ ∀ y ∈ ys, Q y := by
  induction h with
  | nil => simp
  | cons hxy _ ih => rw [List.forall_mem_cons, List.forall_mem_cons, hxy, ih]

/-- Reordered documents are both passed over, or neither is. -/
theorem Doc.Reordered.skim_eq_ok_iff (h : d.Reordered d') :
    d.skim = .ok () ↔ d'.skim = .ok () := by
  induction h with
  | refl => exact Iff.rfl
  | @array items items' fault hlength _ ih =>
    have hitems : skimItems items = .ok () ↔ skimItems items' = .ok () := by
      rw [skimItems_eq_ok_iff, skimItems_eq_ok_iff]
      exact forall_mem_iff_of_forall₂ (List.forall₂_iff_zip.2 ⟨hlength, fun hx => ih _ hx⟩)
    rw [Doc.skim, Doc.skim, seq_eq_ok_iff, seq_eq_ok_iff, hitems]
  | @object ms ns ms' fault hlength hnames _ hperm ih =>
    have hmembers : skimMembers ms = .ok () ↔ skimMembers ms' = .ok () := by
      rw [skimMembers_eq_ok_iff, skimMembers_eq_ok_iff]
      refine (forall_mem_iff_of_forall₂ (List.forall₂_iff_zip.2 ⟨hlength, fun hx => ?_⟩)).trans
        ⟨fun h m hm => h m (hperm.mem_iff.2 hm), fun h m hm => h m (hperm.mem_iff.1 hm)⟩
      exact and_congr (by rw [hnames _ hx]) (ih _ hx)
    rw [Doc.skim, Doc.skim, seq_eq_ok_iff, seq_eq_ok_iff, hmembers]

/-- What is read for the two fields may be put into a record in any order. -/
def Member.Commutes (f g : Member σ) : Prop :=
  ∀ depth d e p q, f.read depth d = .ok p → g.read depth e = .ok q → ∀ r, q (p r) = p (q r)

namespace Decoder

/-- Reordered documents are read as the same, or none of them is read. -/
def OrderFree (dec : Decoder α) : Prop :=
  ∀ depth d d', Doc.Alike d d' → (dec depth d).toOption = (dec depth d').toOption

theorem orderFree_value : value.OrderFree := fun depth _ _ h => h.value depth

theorem OrderFree.map {dec : Decoder α} (h : dec.OrderFree) (f : α → β) :
    (dec.map f).OrderFree := by
  intro depth d d' hd
  simp only [Decoder.map, toOption_map, h depth d d' hd]

/-- A reader is free of order if it refuses lists and records. -/
theorem orderFree_of_mismatch {dec : Decoder α}
    (harray : ∀ depth items fault, (dec depth (.array items fault)).toOption = none)
    (hobject : ∀ depth ms fault, (dec depth (.object ms fault)).toOption = none) :
    dec.OrderFree := by
  intro depth d d' h
  cases d with
  | array items fault =>
    obtain ⟨items', rfl, -⟩ := h.array_cases
    rw [harray, harray]
  | object ms fault =>
    obtain ⟨ns, ms', rfl, -⟩ := h.object_cases
    rw [hobject, hobject]
  | _ => rw [h.eq (by simp) (by simp)]

theorem orderFree_int (low high : Int) : (int low high).OrderFree :=
  orderFree_of_mismatch (fun _ _ _ => rfl) fun _ _ _ => rfl

theorem OrderFree.optional {dec : Decoder α} (h : dec.OrderFree) : (optional dec).OrderFree := by
  intro depth d d' hd
  cases d with
  | array items fault =>
    obtain ⟨items', rfl, -⟩ := hd.array_cases
    simp only [Decoder.optional, toOption_map, h depth _ _ hd]
  | object ms fault =>
    obtain ⟨ns, ms', rfl, -⟩ := hd.object_cases
    simp only [Decoder.optional, toOption_map, h depth _ _ hd]
  | _ => rw [hd.eq (by simp) (by simp)]

theorem OrderFree.list {dec : Decoder α} (h : dec.OrderFree) : (list dec).OrderFree := by
  intro depth d d' hd
  cases d with
  | array items fault =>
    obtain ⟨items', rfl, hitems⟩ := hd.array_cases
    cases depth with
    | zero => rfl
    | succ depth => simp only [Decoder.list, toOption_bind, mapM_reordered (h depth) hitems]
  | object ms fault =>
    obtain ⟨ns, ms', rfl, -⟩ := hd.object_cases
    rfl
  | _ => rw [hd.eq (by simp) (by simp)]

/-! ## Records -/

section Record
variable {fields : List (Member σ)} {start : σ} {m n : Quoted × Doc}

/-- What the value of a field adds to the names that were given before and to what was read for
them. -/
def fieldStep (depth : Nat) (f : Member σ) (d : Doc) (found : Finset String × σ) :
    Option (Finset String × σ) :=
  if f.name ∈ found.1 then none
  else (f.read depth d).toOption.map fun put => (insert f.name found.1, put found.2)

theorem fieldStep_comm {f g : Member σ} (hcomm : f.Commutes g) (hne : f.name ≠ g.name)
    (depth : Nat) (d e : Doc) (found : Finset String × σ) :
    (fieldStep depth f d found).bind (fieldStep depth g e) =
      (fieldStep depth g e found).bind (fieldStep depth f d) := by
  unfold fieldStep
  cases hp : (f.read depth d).toOption with
  | none => by_cases hg : g.name ∈ found.1 <;> simp [hg]
  | some p =>
    cases hq : (g.read depth e).toOption with
    | none => by_cases hf : f.name ∈ found.1 <;> simp [hf]
    | some q =>
      have hpq := hcomm depth d e p q (toOption_eq_some_iff.1 hp) (toOption_eq_some_iff.1 hq)
      have hinsert := Finset.insert_comm f.name g.name found.1
      by_cases hf : f.name ∈ found.1 <;> by_cases hg : g.name ∈ found.1 <;>
        simp [hf, hg, hne, hne.symm, hpq, hinsert]

/-- What a member of a record adds to the names that were given before and to what was read for
them. -/
def recordStep (fields : List (Member σ)) (depth : Nat) (found : Finset String × σ)
    (m : Quoted × Doc) : Option (Finset String × σ) :=
  m.1.read.toOption.bind fun name =>
    match fields.find? (·.name == name) with
    | none => m.2.skim.toOption.map fun _ => found
    | some f => fieldStep depth f m.2 found

/-- What is read of a record, from what was found behind its last member. -/
def recordEnd (fields : List (Member σ)) (fault : Option Fault) (found : Finset String × σ) :
    Option σ :=
  (ended fault).toOption.bind fun _ =>
    if ∀ f ∈ fields, f.required → f.name ∈ found.1 then some found.2 else none

theorem members_eq (fields : List (Member σ)) (depth : Nat) (fault : Option Fault)
    (ms : List (Quoted × Doc)) (seen : List String) (r : σ) :
    (members fields depth fault ms seen r).toOption =
      (ms.foldlM (recordStep fields depth) (seen.toFinset, r)).bind (recordEnd fields fault) := by
  induction ms generalizing seen r with
  | nil =>
    have hall : (fields.all fun f => !f.required || seen.contains f.name) = true ↔
        ∀ f ∈ fields, f.required → f.name ∈ seen.toFinset := by
      simp [imp_iff_not_or]
    rw [members, toOption_bind, apply_ite Except.toOption, List.foldlM_nil]
    simp only [hall]
    rfl
  | cons m ms ih =>
    obtain ⟨q, d⟩ := m
    rw [members, toOption_bind, List.foldlM_cons, recordStep]
    cases q.read.toOption with
    | none => rfl
    | some name =>
      simp only [Option.bind_some]
      cases hfind : fields.find? (·.name == name) with
      | none =>
        simp only [toOption_bind, ih]
        cases d.skim.toOption <;> rfl
      | some f =>
        obtain rfl : f.name = name := by simpa using List.find?_some hfind
        unfold fieldStep
        by_cases hseen : f.name ∈ seen
        · simp only [List.contains_iff_mem, hseen, List.mem_toFinset, if_true]
          rfl
        · simp only [List.contains_iff_mem, hseen, List.mem_toFinset, if_false, toOption_bind, ih,
            List.toFinset_cons]
          cases (f.read depth d).toOption <;> rfl

/-- What the fields put into a record may be put in in any order, and no value of a field depends
on the order within it. -/
structure FieldsFree (fields : List (Member σ)) : Prop where
  read : ∀ f ∈ fields, f.read.OrderFree
  comm : ∀ f ∈ fields, ∀ g ∈ fields, f.name ≠ g.name → f.Commutes g

theorem FieldsFree.recordStep_congr (hfields : FieldsFree fields) (depth : Nat)
    (found : Finset String × σ) (m n : Quoted × Doc) (h : SameMember m n) :
    recordStep fields depth found m = recordStep fields depth found n := by
  unfold recordStep
  rw [h.1]
  refine congrArg _ (funext fun name => ?_)
  cases hf : fields.find? (·.name == name) with
  | none =>
    have hskim : m.2.skim.toOption = n.2.skim.toOption := by
      refine Option.ext fun _ => ?_
      rw [toOption_eq_some_iff, toOption_eq_some_iff, h.2.reordered.skim_eq_ok_iff]
    simp only [hskim]
  | some f => simp only [fieldStep, hfields.read f (List.mem_of_find?_eq_some hf) depth _ _ h.2]

theorem FieldsFree.recordStep_comm (hfields : FieldsFree fields) (depth : Nat)
    (h : sameName m n = false) (found : Finset String × σ) :
    (recordStep fields depth found m).bind (recordStep fields depth · n) =
      (recordStep fields depth found n).bind (recordStep fields depth · m) := by
  unfold recordStep
  cases ha : m.1.read.toOption with
  | none => simp
  | some a =>
    cases hb : n.1.read.toOption with
    | none => simp
    | some b =>
      have hne := ne_of_sameName h ha hb
      simp only [Option.bind_some]
      cases hf : fields.find? (·.name == a) with
      | none =>
        cases fields.find? (·.name == b) <;> cases m.2.skim.toOption <;> simp
      | some f =>
        cases hg : fields.find? (·.name == b) with
        | none => cases n.2.skim.toOption <;> simp
        | some g =>
          obtain rfl : f.name = a := by simpa using List.find?_some hf
          obtain rfl : g.name = b := by simpa using List.find?_some hg
          exact fieldStep_comm (hfields.comm f (List.mem_of_find?_eq_some hf) g
            (List.mem_of_find?_eq_some hg) hne) hne depth m.2 n.2 found

theorem items_reordered (hfields : ∀ f ∈ fields, f.read.OrderFree) (depth : Nat)
    (fault : Option Fault) {docs docs' : List Doc} (h : List.Forall₂ Doc.Alike docs docs') (r : σ) :
    (Decoder.items depth fault fields docs r).toOption =
      (Decoder.items depth fault fields docs' r).toOption := by
  induction h generalizing fields r with
  | nil => rfl
  | cons hd _ ih =>
    cases fields with
    | nil => rfl
    | cons f fields =>
      rw [Decoder.items, Decoder.items, toOption_bind, toOption_bind,
        hfields f List.mem_cons_self depth _ _ hd]
      exact congrArg _ (funext fun put =>
        ih (fun g hg => hfields g (List.mem_cons_of_mem f hg)) (put r))

/-- The members of a record may be given in any order. -/
theorem OrderFree.record (hfields : FieldsFree fields) (start : σ) :
    (record fields start).OrderFree := by
  intro depth d d' hd
  cases d with
  | array docs fault =>
    obtain ⟨docs', rfl, hdocs⟩ := hd.array_cases
    cases depth with
    | zero => rfl
    | succ depth => exact items_reordered hfields.read depth fault hdocs start
  | object ms fault =>
    obtain ⟨ns, ms', rfl, hvalues, hperm, hapart⟩ := hd.object_cases
    cases depth with
    | zero => rfl
    | succ depth =>
      simp only [Decoder.record, members_eq]
      rw [foldlM_reordered (hfields.recordStep_congr depth)
        (fun m n => hfields.recordStep_comm depth) hvalues hperm hapart]
  | _ => rw [hd.eq (by simp) (by simp)]

end Record

end Decoder

end SnapshotViewer.Json
