import ExamPress.Json.Reader
import ExamPress.Proofs.Success

/-!
# Strings as they are spelled

A string is spelled by its characters, each by itself or by an escape.  Where it ends is written in
it, so that it can be told without what comes after it.

## What is here

* `SpellsEscape`, `SpellsChars` — how the characters of a string are spelled;
* `readString_eq_ok` — a string is read exactly when it is spelled.
-/

set_option autoImplicit false

namespace ExamPress.Json

/-- The characters that have an escape of two characters, after its second one. -/
def shortEscapes : List (Char × Char) :=
  [('"', '"'), ('\\', '\\'), ('/', '/'), ('b', '\x08'), ('f', '\x0c'), ('n', '\n'), ('r', '\r'),
    ('t', '\t')]

/-- **`SpellsEscape s c r`** — after a backslash, `s` goes on with an escape of `c`, and `r` is
left. -/
inductive SpellsEscape : List Char → Char → List Char → Prop
  | short {e c : Char} {r : List Char} (h : (e, c) ∈ shortEscapes) : SpellsEscape (e :: r) c r
  /-- The number of a character that is no half of a surrogate pair. -/
  | unicode {a b c d : Char} {n : Nat} {r : List Char} (h : hexValue4? a b c d = some n)
      (hlow : ¬ (0xDC00 ≤ n ∧ n ≤ 0xDFFF)) (hhigh : ¬ (0xD800 ≤ n ∧ n ≤ 0xDBFF)) :
      SpellsEscape ('u' :: a :: b :: c :: d :: r) (Char.ofNat n) r
  /-- The two halves of a surrogate pair. -/
  | pair {a b c d a' b' c' d' : Char} {high low : Nat} {r : List Char}
      (h : hexValue4? a b c d = some high) (hhigh : 0xD800 ≤ high ∧ high ≤ 0xDBFF)
      (h' : hexValue4? a' b' c' d' = some low) (hlow : 0xDC00 ≤ low ∧ low ≤ 0xDFFF) :
      SpellsEscape
        ('u' :: a :: b :: c :: d :: '\\' :: 'u' :: a' :: b' :: c' :: d' :: r)
        (Char.ofNat (0x10000 + (high - 0xD800) * 0x400 + (low - 0xDC00))) r

/-- **`SpellsChars s cs r`** — inside a string, `s` goes on with the characters `cs` and the
closing quotation mark, and `r` is left. -/
inductive SpellsChars : List Char → List Char → List Char → Prop
  | close {r : List Char} : SpellsChars ('"' :: r) [] r
  | plain {c : Char} {s cs r : List Char} (quote : c ≠ '"') (slash : c ≠ '\\')
      (control : ¬ c.toNat < 0x20) (more : SpellsChars s cs r) : SpellsChars (c :: s) (c :: cs) r
  | escape {c : Char} {s s' cs r : List Char} (first : SpellsEscape s c s')
      (more : SpellsChars s' cs r) : SpellsChars ('\\' :: s) (c :: cs) r

theorem readHex4_eq_ok {s r : List Char} {n : Nat} :
    readHex4 s = .ok (n, r) ↔
      ∃ a b c d, s = a :: b :: c :: d :: r ∧ hexValue4? a b c d = some n := by
  constructor
  · intro h
    rw [readHex4.eq_def] at h
    split at h
    · next a b c d rest =>
      cases hn : hexValue4? a b c d with
      | none => rw [hn] at h; cases h
      | some m =>
        rw [hn] at h
        cases h
        exact ⟨a, b, c, d, rfl, hn⟩
    · cases h
  · rintro ⟨a, b, c, d, rfl, h⟩
    rw [readHex4]
    simp only [h]

theorem readTrailing_eq_ok {high : Nat} {s r : List Char} {x : Char} :
    readTrailing high s = .ok (x, r) ↔
      ∃ a b c d low, s = '\\' :: 'u' :: a :: b :: c :: d :: r ∧ hexValue4? a b c d = some low ∧
        (0xDC00 ≤ low ∧ low ≤ 0xDFFF) ∧
        Char.ofNat (0x10000 + (high - 0xD800) * 0x400 + (low - 0xDC00)) = x := by
  constructor
  · intro h
    match s with
    | [] => cases h
    | [c] =>
      obtain ⟨-, h⟩ := iteError_eq_ok_iff.mp h
      cases h
    | c :: d :: s =>
      obtain ⟨hc, hafter⟩ := iteError_eq_ok_iff.mp h
      obtain ⟨hd, hdigits⟩ := iteError_eq_ok_iff.mp hafter
      obtain ⟨⟨low, s'⟩, hhex, hend⟩ := bind_eq_ok_iff.mp hdigits
      obtain ⟨a, b, c', d', rfl, hlow⟩ := readHex4_eq_ok.mp hhex
      by_cases hrange : 0xDC00 ≤ low ∧ low ≤ 0xDFFF
      · obtain ⟨hx, rfl⟩ := Prod.mk.inj (Except.ok.inj ((if_pos hrange).symm.trans hend))
        exact ⟨a, b, c', d', low, by rw [not_not.mp hc, not_not.mp hd], hlow, hrange, hx⟩
      · cases (if_neg hrange).symm.trans hend
  · rintro ⟨a, b, c, d, low, rfl, hlow, hrange, rfl⟩
    have hhex : readHex4 (a :: b :: c :: d :: r) = .ok (low, r) :=
      readHex4_eq_ok.mpr ⟨a, b, c, d, rfl, hlow⟩
    rw [readTrailing, if_neg (not_not.mpr rfl)]
    simp only
    rw [if_neg (not_not.mpr rfl), hhex]
    exact if_pos hrange

/-- A character given by its number is one that is no half of a surrogate pair, or both halves. -/
theorem readUnicode_eq_ok {s r : List Char} {x : Char} :
    readUnicode s = .ok (x, r) ↔ SpellsEscape ('u' :: s) x r := by
  constructor
  · intro h
    obtain ⟨⟨n, s'⟩, hhex, hafter⟩ := bind_eq_ok_iff.mp h
    obtain ⟨hlow, hend⟩ := iteError_eq_ok_iff.mp hafter
    obtain ⟨a, b, c, d, rfl, hn⟩ := readHex4_eq_ok.mp hhex
    by_cases hhigh : 0xD800 ≤ n ∧ n ≤ 0xDBFF
    · obtain ⟨a', b', c', d', low, rfl, hlow', hrange, rfl⟩ :=
        readTrailing_eq_ok.mp ((if_pos hhigh).symm.trans hend)
      exact .pair hn hhigh hlow' hrange
    · obtain ⟨rfl, rfl⟩ := Prod.mk.inj (Except.ok.inj ((if_neg hhigh).symm.trans hend))
      exact .unicode hn hlow hhigh
  · intro h
    cases h with
    | short h => revert h; simp [shortEscapes]
    | @unicode a b c d n r h hlow hhigh =>
      have hhex : readHex4 (a :: b :: c :: d :: r) = .ok (n, r) :=
        readHex4_eq_ok.mpr ⟨a, b, c, d, rfl, h⟩
      rw [readUnicode, hhex]
      exact (if_neg hlow).trans (if_neg hhigh)
    | @pair a b c d a' b' c' d' high low r h hhigh h' hrange =>
      have hhex : readHex4 (a :: b :: c :: d :: '\\' :: 'u' :: a' :: b' :: c' :: d' :: r) =
          .ok (high, '\\' :: 'u' :: a' :: b' :: c' :: d' :: r) :=
        readHex4_eq_ok.mpr ⟨a, b, c, d, rfl, h⟩
      have hlow : ¬ (0xDC00 ≤ high ∧ high ≤ 0xDFFF) := by omega
      rw [readUnicode, hhex]
      refine (if_neg hlow).trans ((if_pos hhigh).trans ?_)
      exact readTrailing_eq_ok.mpr ⟨a', b', c', d', low, rfl, h', hrange, rfl⟩

/-- **What is read after a backslash is an escape.** -/
theorem readEscape_eq_ok {s r : List Char} {x : Char} :
    readEscape s = .ok (x, r) ↔ SpellsEscape s x r := by
  cases s with
  | nil => exact ⟨fun h => (by cases h), fun h => (by cases h)⟩
  | cons e s =>
    by_cases hu : e = 'u'
    · subst hu
      exact readUnicode_eq_ok
    constructor
    · intro h
      rw [readEscape] at h
      split_ifs at h
      all_goals
        cases h
        exact .short (by simp [shortEscapes, *])
    · intro h
      cases h with
      | short h =>
        simp only [shortEscapes, List.mem_cons, Prod.mk.injEq, List.not_mem_nil, or_false] at h
        rcases h with ⟨rfl, rfl⟩ | ⟨rfl, rfl⟩ | ⟨rfl, rfl⟩ | ⟨rfl, rfl⟩ | ⟨rfl, rfl⟩ | ⟨rfl, rfl⟩ |
          ⟨rfl, rfl⟩ | ⟨rfl, rfl⟩ <;> rfl
      | unicode => exact absurd rfl hu
      | pair => exact absurd rfl hu

theorem SpellsEscape.length_lt {s r : List Char} {c : Char} (h : SpellsEscape s c r) :
    r.length < s.length := by
  cases h <;> simp only [List.length_cons] <;> omega

/-- Characters are read up to the closing quotation mark. -/
theorem readChars_eq_ok {fuel : Nat} {s r cs : List Char} (hfuel : s.length < fuel) :
    readChars fuel s = .ok (cs, r) ↔ SpellsChars s cs r := by
  induction fuel generalizing s cs with
  | zero => exact absurd hfuel (Nat.not_lt_zero _)
  | succ fuel ih =>
    cases s with
    | nil => exact ⟨fun h => (by cases h), fun h => (by cases h)⟩
    | cons c s =>
      have hless : s.length < fuel := Nat.lt_of_succ_lt_succ hfuel
      rw [readChars]
      constructor
      · intro h
        by_cases hquote : c = '"'
        · subst hquote
          cases h
          exact .close
        rw [if_neg hquote] at h
        by_cases hslash : c = '\\'
        · subst hslash
          obtain ⟨⟨d, s'⟩, hescape, hafter⟩ := bind_eq_ok_iff.mp ((if_pos rfl).symm.trans h)
          obtain ⟨⟨ds, r'⟩, hmore, hend⟩ := bind_eq_ok_iff.mp hafter
          cases hend
          have hfirst := readEscape_eq_ok.mp hescape
          exact .escape hfirst ((ih (Nat.lt_trans hfirst.length_lt hless)).mp hmore)
        rw [if_neg hslash] at h
        obtain ⟨hcontrol, hafter⟩ := iteError_eq_ok_iff.mp h
        obtain ⟨⟨ds, r'⟩, hmore, hend⟩ := bind_eq_ok_iff.mp hafter
        cases hend
        exact .plain hquote hslash hcontrol ((ih hless).mp hmore)
      · intro h
        cases h with
        | close => exact if_pos rfl
        | plain quote slash control more =>
          rw [if_neg quote, if_neg slash, if_neg control, (ih hless).mpr more]
          rfl
        | escape first more =>
          rw [if_neg (by decide), if_pos rfl, readEscape_eq_ok.mpr first]
          simp only [ok_bind]
          rw [(ih (Nat.lt_trans first.length_lt hless)).mpr more]
          rfl

/-- **A string is read as the characters that it spells.** -/
theorem readString_eq_ok {s r : List Char} {str : String} :
    readString s = .ok (str, r) ↔ SpellsChars s str.toList r := by
  rw [← readChars_eq_ok (Nat.lt_succ_self s.length), readString]
  constructor
  · intro h
    obtain ⟨⟨cs, r'⟩, hchars, hend⟩ := bind_eq_ok_iff.mp h
    cases hend
    rw [hchars, String.toList_ofList]
  · intro h
    rw [h]
    simp only [ok_bind, String.ofList_toList]

/-- What is left of a string is shorter than it was. -/
theorem SpellsChars.length_le {s cs r : List Char} (h : SpellsChars s cs r) :
    r.length ≤ s.length := by
  induction h with
  | close => exact Nat.le_succ _
  | plain _ _ _ _ ih => exact Nat.le_succ_of_le ih
  | escape first _ ih => exact Nat.le_succ_of_le (Nat.le_trans ih (Nat.le_of_lt first.length_lt))

end ExamPress.Json
