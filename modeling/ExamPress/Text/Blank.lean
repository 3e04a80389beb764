/-!
# Blanks

A text is worked on as its list of characters.  This file fixes which characters count as blank,
once for the whole project, and cuts blanks off the two ends of a text.

## What is here

* `Text.isBlank` — the Unicode property *White_Space*;
* `Text.allBlank` — nothing but blanks, the empty text included;
* `Text.trimStart`, `Text.trimEnd`, `Text.trim` — the text without the blanks at its ends.
-/

set_option autoImplicit false

namespace ExamPress.Text

/-- **The blanks** are the characters with the Unicode property White_Space: tab to carriage
return, the space, the next-line control, the no-break space, the ogham space, the typographic
spaces U+2000 to U+200A, the line and paragraph separators, the narrow no-break and the
mathematical space, and the ideographic space. -/
def isBlank (c : Char) : Bool :=
  let n := c.toNat
  (0x09 ≤ n && n ≤ 0x0D) || n == 0x20 || n == 0x85 || n == 0xA0 || n == 0x1680 ||
    (0x2000 ≤ n && n ≤ 0x200A) || n == 0x2028 || n == 0x2029 || n == 0x202F || n == 0x205F ||
    n == 0x3000

/-- A text of blanks only. -/
def allBlank (s : List Char) : Bool := s.all isBlank

/-- The text from its first character that is not blank. -/
def trimStart (s : List Char) : List Char := s.dropWhile isBlank

/-- The text up to its last character that is not blank. -/
def trimEnd (s : List Char) : List Char := (s.reverse.dropWhile isBlank).reverse

/-- The text between its first and its last character that is not blank. -/
def trim (s : List Char) : List Char := trimEnd (trimStart s)

/-- A digit is not blank. -/
theorem isBlank_of_isDigit {c : Char} (h : c.isDigit = true) : isBlank c = false := by
  simp only [Char.isDigit, Bool.and_eq_true, decide_eq_true_eq, UInt32.le_iff_toNat_le] at h
  have hlow : 48 ≤ c.toNat := h.1
  have hhigh : c.toNat ≤ 57 := h.2
  simp only [isBlank, Bool.or_eq_false_iff, Bool.and_eq_false_iff, decide_eq_false_iff_not,
    beq_eq_false_iff_ne]
  omega

/-! ## What trimming leaves -/

@[simp] theorem allBlank_nil : allBlank [] = true := rfl

@[simp] theorem allBlank_cons (c : Char) (s : List Char) :
    allBlank (c :: s) = (isBlank c && allBlank s) := rfl

@[simp] theorem allBlank_append (s t : List Char) :
    allBlank (s ++ t) = (allBlank s && allBlank t) := by
  simp [allBlank]

@[simp] theorem trimStart_nil : trimStart [] = [] := rfl

theorem trimStart_eq_nil_iff (s : List Char) : trimStart s = [] ↔ allBlank s = true := by
  induction s with
  | nil => simp
  | cons c s ih =>
    by_cases h : isBlank c = true
    · simp only [trimStart, List.dropWhile_cons, h, if_true, allBlank_cons, Bool.true_and]
      exact ih
    · simp [trimStart, h]

theorem trimEnd_eq_nil_iff (s : List Char) : trimEnd s = [] ↔ allBlank s = true := by
  have h : trimEnd s = (trimStart s.reverse).reverse := rfl
  rw [h, List.reverse_eq_nil_iff, trimStart_eq_nil_iff]
  simp [allBlank]

/-- What `trimStart` takes away is blank. -/
theorem exists_eq_append_trimStart (s : List Char) :
    ∃ b, s = b ++ trimStart s ∧ allBlank b = true := by
  refine ⟨s.takeWhile isBlank, List.takeWhile_append_dropWhile.symm, ?_⟩
  simp [allBlank]

/-- **Trimming leaves nothing exactly of a blank text.** -/
theorem trim_eq_nil_iff (s : List Char) : trim s = [] ↔ allBlank s = true := by
  rw [trim, trimEnd_eq_nil_iff]
  obtain ⟨b, hb, hblank⟩ := exists_eq_append_trimStart s
  conv => rhs; rw [hb]
  simp [hblank]

end ExamPress.Text
