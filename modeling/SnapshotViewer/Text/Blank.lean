/-!
# White space

The characters with the white-space property, and the cutting of text at its ends.
-/

namespace SnapshotViewer.Text

/-- Whether a character has the white-space property. -/
def isBlank (c : Char) : Bool :=
  let n := c.toNat
  (9 ≤ n && n ≤ 13) || n == 0x20 || n == 0x85 || n == 0xA0 || n == 0x1680
    || (0x2000 ≤ n && n ≤ 0x200A) || n == 0x2028 || n == 0x2029 || n == 0x202F || n == 0x205F
    || n == 0x3000

/-- Every character that core counts as white space is blank. -/
theorem isBlank_of_isWhitespace {c : Char} (h : c.isWhitespace = true) : isBlank c = true := by
  simp only [Char.isWhitespace, Bool.or_eq_true, decide_eq_true_eq] at h
  rcases h with ((h | h) | h) | h <;> subst h <;> decide

/-- Removes the characters at the end that satisfy `p`. -/
def dropEnd (p : Char → Bool) (cs : List Char) : List Char :=
  (cs.reverse.dropWhile p).reverse

/-- Removes blanks from both ends. -/
def trimChars (cs : List Char) : List Char := dropEnd isBlank (cs.dropWhile isBlank)

theorem dropWhile_blank_eq_self {cs : List Char} (h : ∀ c ∈ cs, isBlank c = false) :
    cs.dropWhile isBlank = cs := by
  cases cs with
  | nil => rfl
  | cons c cs => simp [h c List.mem_cons_self]

/-- Without a blank there is nothing to remove. -/
theorem trimChars_eq_self {cs : List Char} (h : ∀ c ∈ cs, isBlank c = false) :
    trimChars cs = cs := by
  have hreverse : ∀ c ∈ cs.reverse, isBlank c = false := fun c hc => h c (List.mem_reverse.1 hc)
  rw [trimChars, dropWhile_blank_eq_self h, dropEnd, dropWhile_blank_eq_self hreverse,
    List.reverse_reverse]

/-- Removes blanks from both ends. -/
def trim (s : String) : String := String.ofList (trimChars s.toList)

end SnapshotViewer.Text
