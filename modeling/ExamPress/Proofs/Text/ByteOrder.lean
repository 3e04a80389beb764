import Mathlib.Data.List.Lex
import Mathlib.Data.String.Basic

/-!
# The order of bytes

File names are compared by their bytes.  Texts are compared by their characters.  In UTF-8 this is
the same order: the first byte of a character grows with the number of bytes that follow it, and
what follows are the digits of the character in base 64, the highest first.

## What is here

* `Text.trail` — the bytes that follow the first byte of a character;
* `Text.utf8EncodeChar_append_lt` — the encodings of two characters are in the order of the
  characters, whatever comes behind them;
* `Text.lt_iff_bytes_lt` — two texts are in the order of their bytes.
-/

set_option autoImplicit false

namespace ExamPress.Text

/-! ## One character -/

/-- The lowest digits of a number in base 64, each as a byte that goes on with a character. -/
def trail : Nat → Nat → List UInt8
  | 0, _ => []
  | k + 1, n => trail k (n / 64) ++ [UInt8.ofNat (n % 64 + 128)]

/-- The first byte of a character that has so many more, when it has no bits of the character. -/
def lead : Nat → Nat
  | 0 => 0
  | k + 1 => 256 - 64 / 2 ^ k

theorem ofNat_lt_ofNat {m n : Nat} (hn : n < 256) (h : m < n) : UInt8.ofNat m < UInt8.ofNat n :=
  (UInt8.ofNat_lt_iff_lt (Nat.lt_trans h hn) hn).mpr h

/-- Numbers are in the order of what is left without the lowest digits, then of these digits. -/
theorem div_lt_or_trail_lt (k : Nat) {m n : Nat} (h : m < n) :
    m / 64 ^ k < n / 64 ^ k ∨
      m / 64 ^ k = n / 64 ^ k ∧ ∀ x y, trail k m ++ x < trail k n ++ y := by
  induction k generalizing m n with
  | zero => exact .inl (by simpa using h)
  | succ k ih =>
    have hdiv : ∀ i, i / 64 ^ (k + 1) = i / 64 / 64 ^ k := fun i => by
      rw [Nat.pow_succ', Nat.div_div_eq_div_mul]
    rw [hdiv, hdiv]
    rcases (by omega : m / 64 < n / 64 ∨ m / 64 = n / 64 ∧ m % 64 < n % 64) with hq | ⟨hq, hr⟩
    · refine (ih hq).imp id fun ⟨heq, hlt⟩ => ⟨heq, fun x y => ?_⟩
      rw [trail, trail, List.append_assoc, List.append_assoc]
      exact hlt _ _
    · refine .inr ⟨by rw [hq], fun x y => ?_⟩
      rw [trail, trail, hq, List.append_assoc, List.append_assoc]
      refine List.append_left_lt ?_
      exact List.cons_lt_cons_iff.mpr (.inl (ofNat_lt_ofNat (by omega) (by omega)))

/-- The number below which a character has at most so many bytes behind the first. -/
def sizeBound : Nat → Nat
  | 0 => 0x80
  | 1 => 0x800
  | 2 => 0x10000
  | _ => 0x110000

/-- The encoding of a character, by the number of the bytes behind the first. -/
theorem exists_trail (c : Char) : ∃ k ≤ 3, c.toNat < sizeBound k ∧
    (∀ j < k, sizeBound j ≤ c.toNat) ∧
    String.utf8EncodeChar c = UInt8.ofNat (lead k + c.toNat / 64 ^ k) :: trail k c.toNat := by
  have hc : c.val.toNat < 0x110000 := c.valid.elim (fun h => Nat.lt_trans h (by decide)) (·.2)
  simp only [String.utf8EncodeChar, Char.toNat]
  generalize c.val.toNat = n at hc ⊢
  split
  · refine ⟨0, by decide, by simp only [sizeBound]; omega, nofun, ?_⟩
    simp only [lead, trail, Nat.pow_zero, Nat.div_one, Nat.zero_add]
  split
  · refine ⟨1, by decide, by simp only [sizeBound]; omega, fun j hj => ?_, ?_⟩
    · obtain rfl : j = 0 := by omega
      simp only [sizeBound]; omega
    · rw [(by simp only [lead]; omega : lead 1 + n / 64 ^ 1 = n / 64 % 32 + 192)]
      rfl
  split
  · refine ⟨2, by decide, by simp only [sizeBound]; omega, fun j hj => ?_, ?_⟩
    · obtain rfl | rfl : j = 0 ∨ j = 1 := by omega
      all_goals simp only [sizeBound]; omega
    · rw [(by simp only [lead]; omega : lead 2 + n / 64 ^ 2 = n / 4096 % 16 + 224)]
      rfl
  · refine ⟨3, by decide, hc, fun j hj => ?_, ?_⟩
    · obtain rfl | rfl | rfl : j = 0 ∨ j = 1 ∨ j = 2 := by omega
      all_goals simp only [sizeBound]; omega
    · rw [(by simp only [lead]; omega : lead 3 + n / 64 ^ 3 = n / 262144 % 8 + 240),
        (Nat.div_div_eq_div_mul n 64 64).symm]
      rfl

/-- A first byte keeps below the first bytes of longer characters. -/
theorem lead_add_lt {k n : Nat} (hk : k ≤ 3) (hn : n < sizeBound k) :
    lead k + n / 64 ^ k < 256 ∧ ∀ l ≤ 3, k < l → lead k + n / 64 ^ k < lead l := by
  have hlead : lead 0 = 0 ∧ lead 1 = 192 ∧ lead 2 = 224 ∧ lead 3 = 240 := by decide
  obtain ⟨h0, h1, h2, h3⟩ := hlead
  obtain rfl | rfl | rfl | rfl : k = 0 ∨ k = 1 ∨ k = 2 ∨ k = 3 := by omega
  all_goals
    simp only [sizeBound] at hn
    refine ⟨by omega, fun l hl hkl => ?_⟩
    obtain rfl | rfl | rfl : l = 1 ∨ l = 2 ∨ l = 3 := by omega
    all_goals omega

/-- **The encodings of two characters are in the order of the characters**, whatever comes behind
them. -/
theorem utf8EncodeChar_append_lt {c d : Char} (h : c < d) (x y : List UInt8) :
    String.utf8EncodeChar c ++ x < String.utf8EncodeChar d ++ y := by
  have hlt : c.toNat < d.toNat := h
  obtain ⟨k, hk, hck, hkc, hc⟩ := exists_trail c
  obtain ⟨l, hl, hdl, -, hd⟩ := exists_trail d
  have hbyte := (lead_add_lt hl hdl).1
  rw [hc, hd, List.cons_append, List.cons_append, List.cons_lt_cons_iff]
  rcases Nat.lt_trichotomy k l with hkl | rfl | hlk
  · have hlead := (lead_add_lt hk hck).2 l hl hkl
    exact .inl (ofNat_lt_ofNat hbyte (Nat.lt_add_right _ hlead))
  · rcases div_lt_or_trail_lt k hlt with hq | ⟨hq, ht⟩
    · exact .inl (ofNat_lt_ofNat hbyte (by omega))
    · exact .inr ⟨by rw [hq], ht x y⟩
  · -- a longer character would be the greater one
    have := hkc l hlk
    omega

/-! ## Texts -/

theorem flatMap_utf8EncodeChar_lt {cs ds : List Char} (h : cs < ds) :
    cs.flatMap String.utf8EncodeChar < ds.flatMap String.utf8EncodeChar := by
  induction h with
  | nil =>
    rw [List.flatMap_nil, List.flatMap_cons]
    cases h : String.utf8EncodeChar _ with
    | nil => exact absurd h String.utf8EncodeChar_ne_nil
    | cons => exact List.nil_lt_cons _ _
  | rel h => exact utf8EncodeChar_append_lt h _ _
  | cons _ ih =>
    rw [List.flatMap_cons, List.flatMap_cons]
    exact List.append_left_lt ih

/-- The bytes of a text. -/
def bytes (s : String) : List UInt8 := s.toUTF8.data.toList

theorem bytes_eq (s : String) : bytes s = s.toList.flatMap String.utf8EncodeChar := by
  obtain ⟨cs, rfl⟩ : ∃ cs, s = String.ofList cs := ⟨s.toList, String.ofList_toList.symm⟩
  rw [bytes, String.toUTF8_eq_toByteArray, String.toByteArray_ofList, List.utf8Encode,
    List.data_toByteArray, String.toList_ofList]

/-- **Two texts are in the order of their bytes.** -/
theorem lt_iff_bytes_lt (s t : String) : s < t ↔ bytes s < bytes t := by
  rw [String.lt_iff_toList_lt, bytes_eq, bytes_eq]
  refine ⟨flatMap_utf8EncodeChar_lt, fun h => ?_⟩
  rcases lt_trichotomy s.toList t.toList with hst | hst | hst
  · exact hst
  · exact absurd h (hst ▸ List.lt_irrefl _)
  · exact absurd (List.lt_trans h (flatMap_utf8EncodeChar_lt hst)) (List.lt_irrefl _)

end ExamPress.Text
