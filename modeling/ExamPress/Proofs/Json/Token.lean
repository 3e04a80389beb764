import ExamPress.Json.Reader
import ExamPress.Json.Writer

/-!
# Strings and numbers are read back

The text of a string or of a natural number, with more text after it, is read back as the string or
the number, and the text after it is left.  A string ends with its quotation mark, whatever follows;
a number ends because what follows a value is no part of a number.

## What is here

* `Follows` — what may follow a value in a text;
* `readString_flatMap` — strings are read back;
* `readNumber_natText` — numbers of one word are read back.
-/

set_option autoImplicit false

namespace ExamPress.Json

/-- **What may follow a value**: nothing, a comma, or the end of a list or of an object. -/
inductive Follows : List Char → Prop
  | nil : Follows []
  | comma (s : List Char) : Follows (',' :: s)
  | bracket (s : List Char) : Follows (']' :: s)
  | brace (s : List Char) : Follows ('\x7d' :: s)

/-! ## Strings -/

theorem hexValue?_hexDigit {n : Nat} (h : n < 16) : hexValue? (hexDigit n) = some n := by
  revert n
  decide

/-- A control character is read back from its four digits. -/
theorem readUnicode_hexDigits {c : Char} (h : c.toNat < 0x20) (s : List Char) :
    readUnicode ('0' :: '0' :: hexDigit (c.toNat / 16) :: hexDigit (c.toNat % 16) :: s) =
      .ok (c, s) := by
  have hzero : hexValue? '0' = some 0 := by decide
  have hhigh := hexValue?_hexDigit (n := c.toNat / 16) (by omega)
  have hlow := hexValue?_hexDigit (n := c.toNat % 16) (by omega)
  have hvalue : ((0 * 16 + 0) * 16 + c.toNat / 16) * 16 + c.toNat % 16 = c.toNat := by omega
  have hhex : readHex4
      ('0' :: '0' :: hexDigit (c.toNat / 16) :: hexDigit (c.toNat % 16) :: s) =
      .ok (c.toNat, s) := by
    simp only [readHex4, hexValue4?, hzero, hhigh, hlow, Option.bind_eq_bind, Option.bind_some,
      hvalue]
  rw [readUnicode, hhex]
  have htrail : ¬ (0xDC00 ≤ c.toNat ∧ c.toNat ≤ 0xDFFF) := by omega
  have hlead : ¬ (0xD800 ≤ c.toNat ∧ c.toNat ≤ 0xDBFF) := by omega
  simp only [bind, Except.bind, if_neg htrail, if_neg hlead, Char.ofNat_toNat]

/-- **A character inside a string** stands for itself, or is an escape that is read back. -/
theorem escapedChar_cases (c : Char) :
    (escapedChar c = [c] ∧ c ≠ '"' ∧ c ≠ '\\' ∧ ¬ c.toNat < 0x20) ∨
      ∃ e, escapedChar c = '\\' :: e ∧ ∀ s, readEscape (e ++ s) = .ok (c, s) := by
  rw [escapedChar]
  by_cases hquote : c = '"'
  · subst hquote
    exact .inr ⟨_, rfl, fun _ => rfl⟩
  rw [if_neg hquote]
  by_cases hslash : c = '\\'
  · subst hslash
    exact .inr ⟨_, rfl, fun _ => rfl⟩
  rw [if_neg hslash]
  by_cases hb : c = '\x08'
  · subst hb
    exact .inr ⟨_, rfl, fun _ => rfl⟩
  rw [if_neg hb]
  by_cases hf : c = '\x0c'
  · subst hf
    exact .inr ⟨_, rfl, fun _ => rfl⟩
  rw [if_neg hf]
  by_cases hn : c = '\n'
  · subst hn
    exact .inr ⟨_, rfl, fun _ => rfl⟩
  rw [if_neg hn]
  by_cases hr : c = '\r'
  · subst hr
    exact .inr ⟨_, rfl, fun _ => rfl⟩
  rw [if_neg hr]
  by_cases ht : c = '\t'
  · subst ht
    exact .inr ⟨_, rfl, fun _ => rfl⟩
  rw [if_neg ht]
  by_cases hcontrol : c.toNat < 0x20
  · rw [if_pos hcontrol]
    exact .inr ⟨_, rfl, fun s => readUnicode_hexDigits hcontrol s⟩
  · rw [if_neg hcontrol]
    exact .inl ⟨rfl, hquote, hslash, hcontrol⟩

/-- Characters are read back up to the quotation mark. -/
theorem readChars_flatMap (cs rest : List Char) (fuel : Nat)
    (h : (cs.flatMap escapedChar).length < fuel) :
    readChars fuel (cs.flatMap escapedChar ++ '"' :: rest) = .ok (cs, rest) := by
  induction cs generalizing fuel with
  | nil =>
    obtain ⟨fuel, rfl⟩ : ∃ k, fuel = k + 1 := ⟨fuel - 1, by omega⟩
    rfl
  | cons c cs ih =>
    obtain ⟨fuel, rfl⟩ : ∃ k, fuel = k + 1 := ⟨fuel - 1, by omega⟩
    rw [List.flatMap_cons, List.length_append] at h
    rw [List.flatMap_cons, List.append_assoc]
    rcases escapedChar_cases c with ⟨hc, hquote, hslash, hcontrol⟩ | ⟨e, hc, he⟩
    · rw [hc, List.length_singleton] at h
      rw [hc, List.singleton_append, readChars, if_neg hquote, if_neg hslash, if_neg hcontrol,
        ih fuel (by omega)]
      rfl
    · rw [hc, List.length_cons] at h
      rw [hc, List.cons_append, readChars, if_neg (by decide), if_pos rfl, he]
      simp only [bind, Except.bind]
      rw [ih fuel (by omega)]

/-- **A string is read back**, from after its opening quotation mark. -/
theorem readString_flatMap (s : String) (rest : List Char) :
    readString (s.toList.flatMap escapedChar ++ '"' :: rest) = .ok (s, rest) := by
  have h := readChars_flatMap s.toList rest
    ((s.toList.flatMap escapedChar ++ '"' :: rest).length + 1)
    (by rw [List.length_append]; omega)
  rw [readString, h]
  simp only [bind, Except.bind, String.ofList_toList]

theorem stringText_append (s : String) (rest : List Char) :
    stringText s ++ rest = '"' :: (s.toList.flatMap escapedChar ++ '"' :: rest) := by
  simp [stringText]

/-! ## Numbers -/

/-- A text that does not begin with a digit. -/
def NoDigit (s : List Char) : Prop := ∀ c, s.head? = some c → c.isDigit = false

theorem Follows.noDigit {rest : List Char} (h : Follows rest) : NoDigit rest := by
  intro c hc
  cases h <;> cases hc <;> rfl

/-- The digits of a number end where no digit follows. -/
theorem span_digits {digits r : List Char} (hall : ∀ c ∈ digits, c.isDigit = true)
    (hr : NoDigit r) :
    (digits ++ r).takeWhile Char.isDigit = digits ∧
      (digits ++ r).dropWhile Char.isDigit = r := by
  rw [List.takeWhile_append_of_pos hall, List.dropWhile_append_of_pos hall]
  cases r with
  | nil => exact ⟨List.append_nil digits, rfl⟩
  | cons c r =>
    rw [List.takeWhile_cons, List.dropWhile_cons, hr c rfl]
    exact ⟨List.append_nil digits, rfl⟩

/-- Digits only make a number greater. -/
theorem le_ofDigitChars (digits : List Char) (n : Nat) : n ≤ Nat.ofDigitChars 10 digits n := by
  induction digits generalizing n with
  | nil => exact Nat.le_of_eq Nat.ofDigitChars_nil.symm
  | cons c digits ih =>
    rw [Nat.ofDigitChars_cons]
    have h := ih (10 * n + (c.toNat - '0'.toNat))
    omega

/-- All digits of a number of one word get in. -/
theorem absorb_eq (digits : List Char) (n : Nat) (h : Nat.ofDigitChars 10 digits n < UInt64.size) :
    absorb n digits = (Nat.ofDigitChars 10 digits n, []) := by
  induction digits generalizing n with
  | nil => rw [absorb, Nat.ofDigitChars_nil]
  | cons c digits ih =>
    rw [Nat.ofDigitChars_cons] at h ⊢
    rw [absorb, if_pos (Nat.lt_of_le_of_lt (le_ofDigitChars digits _) h), ih _ h]

/-- The digits of a number that is not zero do not begin with a zero. -/
theorem natText_eq_cons {n : Nat} (h : 0 < n) :
    ∃ c digits, Number.natText n = c :: digits ∧ c ≠ '0' := by
  induction n using Nat.strongRecOn with
  | ind n ih =>
    rw [Number.natText]
    rcases Nat.lt_or_ge n 10 with hlt | hge
    · refine ⟨_, [], Nat.toDigits_of_lt_base hlt, ?_⟩
      clear ih
      revert h
      revert n
      decide
    · obtain ⟨c, digits, hdigits, hc⟩ := ih (n / 10) (by omega) (by omega)
      rw [Number.natText] at hdigits
      exact ⟨c, digits ++ [Nat.digitChar (n % 10)],
        by rw [Nat.toDigits_of_base_le (by decide) hge, hdigits, List.cons_append], hc⟩

theorem readWhole_natText {n : Nat} (h : n < UInt64.size) {rest : List Char}
    (hrest : Follows rest) :
    readWhole false (Number.natText n) rest = .ok (.integer n, rest) := by
  have hvalue : Nat.ofDigitChars 10 (Number.natText n) 0 = n := Nat.ofDigitChars_ten_toDigits
  have habsorb := absorb_eq (Number.natText n) 0 (by rwa [hvalue])
  rw [hvalue] at habsorb
  rw [readWhole, habsorb]
  cases hrest <;> rfl

/-- **A natural number of one word is read back**, with what follows a value after it. -/
theorem readNumber_natText {n : Nat} (h : n < UInt64.size) {rest : List Char}
    (hrest : Follows rest) :
    readNumber false (Number.natText n ++ rest) = .ok (.integer n, rest) := by
  have hwhole := readWhole_natText h hrest
  rcases Nat.eq_zero_or_pos n with rfl | hpos
  · have hzero : Number.natText 0 = ['0'] := Nat.toDigits_zero 10
    rw [hzero] at hwhole
    rw [hzero, List.singleton_append, ← hwhole]
    cases hrest <;> rfl
  · obtain ⟨c, digits, hdigits, hc⟩ := natText_eq_cons hpos
    have hall : ∀ d ∈ c :: digits, d.isDigit = true := fun d hd =>
      Number.isDigit_of_mem_natText (hdigits ▸ hd)
    obtain ⟨htake, hdrop⟩ := span_digits (fun d hd => hall d (List.mem_cons_of_mem c hd)) hrest.noDigit
    rw [hdigits] at hwhole
    rw [hdigits, List.cons_append, readNumber, if_pos (hall c List.mem_cons_self), htake, hdrop,
      hwhole]
    exact hc

end ExamPress.Json
