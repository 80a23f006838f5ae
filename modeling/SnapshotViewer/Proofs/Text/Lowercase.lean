import SnapshotViewer.Text.Lowercase

/-!
# The lower case of a part of a text

Lower case is taken letter by letter, except that what becomes of a capital sigma depends on whether
it ends its word, and so on the letters around it.  The lower case of a part of a text is therefore
found in that of the whole if each capital sigma of the part ends its word in the whole exactly if
it does so in the part alone.  That is the case in every text for those parts that settle the form
of their sigmas themselves, and for no other ones.

## Main definitions

* `lowerWithin` — the lower case of a part of a text.
* `SameSigmas` — the neighbours of a part leave its capital sigmas as they are.
* `Settled` — all neighbours do.

## Main statements

* `containsChars_iff` — what the search for a part finds.
* `lowerChars_infix` — a part with the same sigmas is found in lower case.
* `settled_iff_infix` — the parts that are found in every text around them.
-/

namespace SnapshotViewer.Text

/-- Whether a capital sigma ends its word, given the characters before it, the nearest first, and
those behind it. -/
def endsWord (before after : List Char) : Bool := startsCased before && !startsCased after

/-- The small letters of a character between others. -/
def lowerAt (before : List Char) (c : Char) (after : List Char) : List Char :=
  if c = 'Σ' then (if endsWord before after then ['ς'] else ['σ']) else lowerChar c

/-- Lower-cases a part of a text, given the characters before it, the nearest first, and those
behind it. -/
def lowerWithin : List Char → List Char → List Char → List Char
  | _, [], _ => []
  | before, c :: rest, after =>
    lowerAt before c (rest ++ after) ++ lowerWithin (c :: before) rest after

/-- Between these neighbours each capital sigma of `cs` ends its word exactly if it does so in `cs`
alone. -/
def SameSigmas (before cs after : List Char) : Prop :=
  ∀ u w, cs = u ++ 'Σ' :: w →
    endsWord (u.reverse ++ before) (w ++ after) = endsWord u.reverse w

/-- Whether a capital sigma of `cs` ends its word does not depend on what is around `cs`. -/
def Settled (cs : List Char) : Prop := ∀ before after, SameSigmas before cs after

variable {before before' after after' cs xs ys needle : List Char}

/-! ## Parts of a text -/

theorem containsChars_iff : containsChars needle cs = true ↔ needle <:+: cs := by
  induction cs with
  | nil => simp [containsChars]
  | cons c cs ih => simp [containsChars, ih, List.infix_cons_iff]

theorem lowerAfter_eq (before cs : List Char) :
    lowerAfter before cs = lowerWithin before cs [] := by
  induction cs generalizing before with
  | nil => rfl
  | cons c cs ih => simp [lowerAfter, lowerWithin, lowerAt, endsWord, ih]

theorem lowerChars_eq (cs : List Char) : lowerChars cs = lowerWithin [] cs [] :=
  lowerAfter_eq [] cs

theorem lowerWithin_append (before xs ys after : List Char) :
    lowerWithin before (xs ++ ys) after =
      lowerWithin before xs (ys ++ after) ++ lowerWithin (xs.reverse ++ before) ys after := by
  induction xs generalizing before with
  | nil => rfl
  | cons c xs ih => simp [lowerWithin, ih]

/-- The neighbours of a part matter for its capital sigmas only. -/
theorem lowerWithin_congr (h : ∀ u w, cs = u ++ 'Σ' :: w →
      endsWord (u.reverse ++ before) (w ++ after) = endsWord (u.reverse ++ before') (w ++ after')) :
    lowerWithin before cs after = lowerWithin before' cs after' := by
  induction cs generalizing before before' with
  | nil => rfl
  | cons c cs ih =>
    have hhead : lowerAt before c (cs ++ after) = lowerAt before' c (cs ++ after') := by
      by_cases hc : c = 'Σ'
      · have hsame := h [] cs (by simp [hc])
        simp only [List.reverse_nil, List.nil_append] at hsame
        simp [lowerAt, hc, hsame]
      · simp [lowerAt, hc]
    have hrest : lowerWithin (c :: before) cs after = lowerWithin (c :: before') cs after' := by
      refine ih fun u w hcs => ?_
      simpa using h (c :: u) w (by simp [hcs])
    rw [lowerWithin, lowerWithin, hhead, hrest]

theorem lowerWithin_of_sameSigmas (h : SameSigmas before cs after) :
    lowerWithin before cs after = lowerChars cs := by
  rw [lowerChars_eq]
  exact lowerWithin_congr fun u w hcs => by simpa using h u w hcs

/-- Where its capital sigmas keep their form, the lower case of a part is found in that of the
whole. -/
theorem lowerChars_infix (h : SameSigmas xs.reverse cs ys) :
    lowerChars cs <:+: lowerChars (xs ++ cs ++ ys) := by
  refine ⟨lowerWithin [] xs (cs ++ ys), lowerWithin (xs ++ cs).reverse ys [], ?_⟩
  rw [lowerChars_eq (xs ++ cs ++ ys), lowerWithin_append, lowerWithin_append]
  simp [lowerWithin_of_sameSigmas h]

/-- Characters that are their own small letters stay. -/
theorem lowerWithin_eq_self (h : ∀ c ∈ cs, c ≠ 'Σ' ∧ lowerChar c = [c]) :
    lowerWithin before cs after = cs := by
  induction cs generalizing before with
  | nil => rfl
  | cons c cs ih =>
    obtain ⟨hsigma, hsmall⟩ := h c List.mem_cons_self
    rw [lowerWithin, lowerAt, if_neg hsigma, hsmall,
      ih fun d hd => h d (List.mem_cons_of_mem c hd), List.singleton_append]

/-- Digits, and what stands in front of them in the order of characters, are their own small
letters. -/
theorem lowerChar_of_le {c : Char} (h : c.toNat ≤ '9'.toNat) : lowerChar c = [c] := by
  have hdigit : c.toNat ≤ 57 := h
  have hsmall : c.toLower = c := by
    refine dif_neg ?_
    rintro ⟨hlow, -⟩
    have hcapital : 65 ≤ c.toNat := UInt32.le_iff_toNat_le.1 hlow
    omega
  rw [lowerChar, if_pos (by omega), hsmall]

/-- Without a capital sigma there is nothing to settle. -/
theorem settled_of_notMem (h : 'Σ' ∉ cs) : Settled cs := by
  intro before after u w hcs
  simp [hcs] at h

/-! ## Parts that settle their sigmas -/

/-- Characters that leave open whether the word goes on leave that to those behind them. -/
theorem startsCased_append (xs ys : List Char) : startsCased (xs ++ ys) =
    if xs.all isTransparent then startsCased ys else startsCased xs := by
  induction xs with
  | nil => rfl
  | cons c xs ih =>
    by_cases hc : isTransparent c = true
    · simpa [startsCased, hc] using ih
    · simp [startsCased, hc]

theorem startsCased_of_all (h : cs.all isTransparent = true) : startsCased cs = false := by
  have hnil := startsCased_append cs []
  rw [List.append_nil, if_pos h] at hnil
  exact hnil

/-- A sigma hides what is behind it. -/
theorem startsCased_append_sigma (xs ys ys' : List Char) :
    startsCased (xs ++ 'Σ' :: ys) = startsCased (xs ++ 'Σ' :: ys') := by
  have hsigma : isTransparent 'Σ' = false := by decide +kernel
  rw [startsCased_append, startsCased_append]
  simp [startsCased, hsigma]

/-- Characters that leave open whether the word goes on have the same small letters everywhere. -/
theorem lowerWithin_of_all (h : cs.all isTransparent = true) :
    lowerWithin before cs after = lowerChars cs := by
  have hsigma : isTransparent 'Σ' = false := by decide +kernel
  rw [lowerChars_eq]
  refine lowerWithin_congr fun u w hcs => ?_
  simp [hcs, hsigma] at h

/-- A sigma keeps what is in front of it and what is behind it apart. -/
theorem lowerWithin_sigma (before u w after : List Char) :
    lowerWithin before (u ++ 'Σ' :: w) after =
      lowerWithin before u ['Σ'] ++ lowerAt (u.reverse ++ before) 'Σ' (w ++ after) ++
        lowerWithin ['Σ'] w after := by
  have hfront : lowerWithin before u ('Σ' :: w ++ after) = lowerWithin before u ['Σ'] :=
    lowerWithin_congr fun v v' _ => by
      rw [endsWord, endsWord, List.cons_append, startsCased_append_sigma v' (w ++ after) []]
  have hbehind : lowerWithin ('Σ' :: (u.reverse ++ before)) w after = lowerWithin ['Σ'] w after :=
    lowerWithin_congr fun v v' _ => by
      rw [endsWord, endsWord, startsCased_append_sigma v.reverse (u.reverse ++ before) []]
  rw [lowerWithin_append, hfront, lowerWithin, hbehind, List.append_assoc]

theorem not_infix_of_count_lt {c : Char} (h : ys.count c < xs.count c) : ¬ xs <:+: ys :=
  fun hpart => absurd (hpart.sublist.count_le c) (Nat.not_le.2 h)

theorem lowerWithin_letter (before after : List Char) :
    lowerWithin before ['a'] after = ['a'] := by
  simp [lowerWithin, lowerAt, lowerChar]

/-- A sigma that ends a word at the end of a part loses its form to a letter behind the part. -/
theorem not_infix_of_letter_behind {u w : List Char} (hu : startsCased u.reverse = true)
    (hw : w.all isTransparent = true) :
    ¬ lowerChars (u ++ 'Σ' :: w) <:+: lowerChars (u ++ 'Σ' :: w ++ ['a']) := by
  have hletter : startsCased ['a'] = true := by decide +kernel
  have halone : endsWord u.reverse w = true := by simp [endsWord, hu, startsCased_of_all hw]
  have hfollowed : endsWord u.reverse (w ++ ['a']) = false := by
    simp [endsWord, startsCased_append, hw, hletter]
  refine not_infix_of_count_lt (c := 'ς') ?_
  rw [lowerChars_eq, lowerChars_eq, lowerWithin_append, lowerWithin_letter, lowerWithin_sigma,
    lowerWithin_sigma]
  simp [lowerAt, halone, hfollowed, lowerWithin_of_all hw]

/-- A sigma that a part begins with loses its form to a letter in front of the part, unless a letter
of the part follows. -/
theorem not_infix_of_letter_in_front {u w : List Char} (hu : u.all isTransparent = true)
    (hw : startsCased w = false) :
    ¬ lowerChars (u ++ 'Σ' :: w) <:+: lowerChars (['a'] ++ (u ++ 'Σ' :: w)) := by
  have hletter : startsCased ['a'] = true := by decide +kernel
  have hu' : u.reverse.all isTransparent = true := by simpa using hu
  have halone : endsWord u.reverse w = false := by simp [endsWord, startsCased_of_all hu']
  have hpreceded : endsWord (u.reverse ++ ['a']) w = true := by
    rw [endsWord, startsCased_append, if_pos hu', hletter, hw]
    rfl
  refine not_infix_of_count_lt (c := 'σ') ?_
  rw [lowerChars_eq, lowerChars_eq, lowerWithin_append, lowerWithin_letter, lowerWithin_sigma,
    lowerWithin_sigma]
  simp [lowerAt, halone, hpreceded, lowerWithin_of_all hu]

/-- A sigma that is not settled ends its word at the end of the part, or it is what the part begins
with and no letter follows it. -/
theorem exposed_of_endsWord_ne {u w : List Char}
    (h : endsWord (u.reverse ++ before) (w ++ after) ≠ endsWord u.reverse w) :
    startsCased u.reverse = true ∧ w.all isTransparent = true ∨
      u.all isTransparent = true ∧ startsCased w = false := by
  have hu : u.reverse.all isTransparent = u.all isTransparent := by simp
  have hcased : u.all isTransparent = true → startsCased u.reverse = false := fun hall =>
    startsCased_of_all (hu.trans hall)
  have hcased' : w.all isTransparent = true → startsCased w = false := startsCased_of_all
  simp only [endsWord, startsCased_append, hu] at h
  grind

/-- The parts whose lower case is found in that of every text around them. -/
theorem settled_iff_infix :
    Settled cs ↔ ∀ xs ys, lowerChars cs <:+: lowerChars (xs ++ cs ++ ys) := by
  constructor
  · intro h xs ys
    exact lowerChars_infix (h xs.reverse ys)
  · intro h before after u w hcs
    subst hcs
    refine Classical.byContradiction fun hne => ?_
    rcases exposed_of_endsWord_ne hne with ⟨hu, hw⟩ | ⟨hu, hw⟩
    · exact not_infix_of_letter_behind hu hw (h [] ['a'])
    · exact not_infix_of_letter_in_front hu hw (by simpa using h ['a'] [])

end SnapshotViewer.Text
