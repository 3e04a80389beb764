import ExamPress.Proofs.Json.Token
import ExamPress.Proofs.Success

/-!
# Numbers as they are spelled

The grammar of JSON has a number as digits, then a fraction, then an exponent, where the last two
may be missing and the digits do not begin with a zero unless it is the only one.  A token of this
shape is a number unless its value is out of the range of doubles, and that is the only thing that
keeps it from being one.

Where a number ends is not written in it, and shows only in what comes after it.  The reader takes a
number apart in many steps, and each of them reads the tokens of a relation of its own: what it
takes is a token with the value that it finds, and a token is taken whole where what follows would
not go on with it.

## What is here

* `Exponent`, `Tail`, `AfterWhole`, `NumberToken` — the tokens of the grammar, with their values;
* `EndsNumber`, `ReadsTokens` — what may follow a number, and what it is to read tokens;
* `readsTokens_readNumber` — the reader reads the numbers of the grammar.
-/

set_option autoImplicit false

namespace ExamPress.Json

/-! ## The grammar -/

/-- Digits and nothing else, at least one. -/
def Digits (s : List Char) : Prop := s ≠ [] ∧ ∀ c ∈ s, c.isDigit = true

/-- The float with a significand and a decimal exponent, if it is in range. -/
def float? (negative : Bool) (n : Nat) (e : Int) : Option Number :=
  (Binary64.ofDecimal? negative n e).map .float

/-- The float whose exponent is moved up or down.  What does not fit a word of 32 bits takes it out
of range, or makes it zero. -/
def movedFloat? (negative down : Bool) (n : Nat) (start : Int) (e : Nat) : Option Number :=
  if e < 2147483648 then float? negative n (if down then start - e else start + e)
  else if n ≠ 0 ∧ !down then none
  else some (.float ⟨negative, 0⟩)

/-- **An exponent**, from after its letter, with the number that it makes. -/
inductive Exponent (negative : Bool) (n : Nat) (start : Int) : List Char → Number → Prop
  | unsigned {digits : List Char} {m : Number} (h : Digits digits)
      (hm : movedFloat? negative false n start (Nat.ofDigitChars 10 digits 0) = some m) :
      Exponent negative n start digits m
  | plus {digits : List Char} {m : Number} (h : Digits digits)
      (hm : movedFloat? negative false n start (Nat.ofDigitChars 10 digits 0) = some m) :
      Exponent negative n start ('+' :: digits) m
  | minus {digits : List Char} {m : Number} (h : Digits digits)
      (hm : movedFloat? negative true n start (Nat.ofDigitChars 10 digits 0) = some m) :
      Exponent negative n start ('-' :: digits) m

/-- **What may come after the digits of a number**: nothing, which makes the number that is given,
or an exponent. -/
inductive Tail (negative : Bool) (plain? : Option Number) (n : Nat) (e : Int) :
    List Char → Number → Prop
  | none {m : Number} (hm : plain? = some m) : Tail negative plain? n e [] m
  | small {s : List Char} {m : Number} (h : Exponent negative n e s m) :
      Tail negative plain? n e ('e' :: s) m
  | big {s : List Char} {m : Number} (h : Exponent negative n e s m) :
      Tail negative plain? n e ('E' :: s) m

/-- What may come after the digits of a float. -/
abbrev FloatTail (negative : Bool) (n : Nat) (e : Int) : List Char → Number → Prop :=
  Tail negative (float? negative n e) n e

/-- The number of which there are only the digits before the point: it is whole if all of them fit
a word. -/
def plainWhole? (negative : Bool) (digits : List Char) : Option Number :=
  if (absorb 0 digits).2 = [] then some (wholeNumber negative (absorb 0 digits).1)
  else float? negative (absorb 0 digits).1 (absorb 0 digits).2.length

/-- The exponent after the digits of a fraction, of which those that do not fit do not count. -/
def exponentAfter (n : Nat) (e : Int) (digits : List Char) : Int :=
  e - ((digits.length - (absorb n digits).2.length : Nat) : Int)

/-- **A fraction**, from after its point. -/
inductive Fraction (negative : Bool) (n : Nat) (e : Int) : List Char → Number → Prop
  | mk {digits s : List Char} {m : Number} (hdigits : Digits digits)
      (h : FloatTail negative (absorb n digits).1 (exponentAfter n e digits) s m) :
      Fraction negative n e (digits ++ s) m

/-- **What may come after the digits before the point.** -/
inductive AfterWhole (negative : Bool) (digits : List Char) : List Char → Number → Prop
  | tail {s : List Char} {m : Number}
      (h : Tail negative (plainWhole? negative digits) (absorb 0 digits).1
        (absorb 0 digits).2.length s m) :
      AfterWhole negative digits s m
  | fraction {s : List Char} {m : Number}
      (h : Fraction negative (absorb 0 digits).1 (absorb 0 digits).2.length s m) :
      AfterWhole negative digits ('.' :: s) m

/-- **The numbers of the grammar of JSON**, without their sign: no zero before other digits. -/
inductive NumberToken (negative : Bool) : List Char → Number → Prop
  | zero {s : List Char} {m : Number} (h : AfterWhole negative ['0'] s m) :
      NumberToken negative ('0' :: s) m
  | whole {c : Char} {digits s : List Char} {m : Number} (hc : c.isDigit = true) (hzero : c ≠ '0')
      (hdigits : ∀ d ∈ digits, d.isDigit = true) (h : AfterWhole negative (c :: digits) s m) :
      NumberToken negative (c :: (digits ++ s)) m

/-- A number begins with a digit. -/
theorem NumberToken.eq_cons {negative : Bool} {t : List Char} {m : Number}
    (h : NumberToken negative t m) : ∃ c t', t = c :: t' ∧ c.isDigit = true := by
  cases h with
  | zero => exact ⟨'0', _, rfl, by decide⟩
  | whole hc => exact ⟨_, _, rfl, hc⟩

/-! ## Reading tokens -/

/-- **What may come right after a number**: nothing that would go on with it. -/
inductive EndsNumber : List Char → Prop
  | nil : EndsNumber []
  | cons {c : Char} {s : List Char} (digit : c.isDigit = false) (point : c ≠ '.') (small : c ≠ 'e')
      (big : c ≠ 'E') : EndsNumber (c :: s)

theorem noDigit_cons {c : Char} (h : c.isDigit = false) (s : List Char) : NoDigit (c :: s) := by
  intro d hd
  exact Option.some.inj hd ▸ h

theorem EndsNumber.noDigit {s : List Char} (h : EndsNumber s) : NoDigit s := by
  cases h with
  | nil =>
    intro c hc
    cases hc
  | cons digit => exact noDigit_cons digit _

/-- **A reader of numbers reads the tokens of a grammar**: it takes nothing else, and it takes each
of them where what follows would not go on with it. -/
structure ReadsTokens (f : Reader Number) (Token : List Char → Number → Prop) : Prop where
  sound : ∀ {s : List Char} {m : Number} {r : List Char}, f s = .ok (m, r) →
    ∃ t, s = t ++ r ∧ Token t m
  complete : ∀ {t : List Char} {m : Number} {r : List Char}, Token t m → EndsNumber r →
    f (t ++ r) = .ok (m, r)

theorem noDigit_dropWhile (s : List Char) : NoDigit (s.dropWhile Char.isDigit) := by
  intro c hc
  have h := List.head?_dropWhile_not Char.isDigit s
  rw [hc] at h
  simpa using h

theorem isDigit_of_mem_takeWhile {s : List Char} {c : Char}
    (h : c ∈ s.takeWhile Char.isDigit) : c.isDigit = true :=
  List.all_eq_true.mp List.all_takeWhile c h

variable (negative : Bool)

/-- Finishing a number reads nothing more. -/
theorem finishFloat_eq_ok_iff {n : Nat} {e : Int} {s r : List Char} {m : Number} :
    finishFloat negative n e s = .ok (m, r) ↔ r = s ∧ float? negative n e = some m := by
  rw [finishFloat, float?]
  cases Binary64.ofDecimal? negative n e with
  | none => simp
  | some x => simp [eq_comm, and_comm]

/-! ## Exponents -/

section

variable (down : Bool) (n : Nat) (start : Int)

/-- **The digits of an exponent are read as their value.**  Once it is too great, the digits that
are left do not matter. -/
theorem readExponentDigits_eq_ok_iff {digits r r' : List Char} {m : Number} {e : Nat}
    (hall : ∀ c ∈ digits, c.isDigit = true) (hr : NoDigit r) (he : e < 2147483648) :
    readExponentDigits negative down n start e (digits ++ r) = .ok (m, r') ↔
      r' = r ∧ movedFloat? negative down n start (Nat.ofDigitChars 10 digits e) = some m := by
  induction digits generalizing e with
  | nil =>
    have hend : readExponentDigits negative down n start e r =
        finishFloat negative n (if down then start - e else start + e) r := by
      cases r with
      | nil => rfl
      | cons c r => exact if_neg (by rw [hr c rfl]; decide)
    rw [List.nil_append, hend, finishFloat_eq_ok_iff, Nat.ofDigitChars_nil, movedFloat?, if_pos he]
  | cons c digits ih =>
    obtain ⟨hc, hdigits⟩ := List.forall_mem_cons.mp hall
    rw [List.cons_append, Nat.ofDigitChars_cons]
    by_cases hfit : 10 * e + (c.toNat - '0'.toNat) < 2147483648
    · have hgo : readExponentDigits negative down n start e (c :: (digits ++ r)) =
          readExponentDigits negative down n start (10 * e + (c.toNat - '0'.toNat))
            (digits ++ r) := (if_pos hc).trans (if_pos hfit)
      rw [hgo, ih hdigits hfit]
    · have hgreat : ¬Nat.ofDigitChars 10 digits (10 * e + (c.toNat - '0'.toNat)) < 2147483648 :=
        Nat.not_lt.mpr (Nat.le_trans (Nat.not_lt.mp hfit) (le_ofDigitChars _ _))
      have hstop : readExponentDigits negative down n start e (c :: (digits ++ r)) =
          if n ≠ 0 ∧ !down then .error (.here .numberOutOfRange (digits ++ r))
          else .ok (.float ⟨negative, 0⟩, (digits ++ r).dropWhile Char.isDigit) :=
        (if_pos hc).trans (if_neg hfit)
      rw [hstop, movedFloat?, if_neg hgreat, (span_digits hdigits hr).2]
      split
      · simp
      · simp [eq_comm, and_comm]

/-- Is a text the digits of an exponent that makes a number? -/
def ExponentDigits (s : List Char) (m : Number) : Prop :=
  Digits s ∧ movedFloat? negative down n start (Nat.ofDigitChars 10 s 0) = some m

theorem readsTokens_readExponentFrom :
    ReadsTokens (readExponentFrom negative down n start)
      (ExponentDigits negative down n start) := by
  have hfirst {c : Char} {digits r r' : List Char} {m : Number} (hc : c.isDigit = true)
      (hall : ∀ d ∈ digits, d.isDigit = true) (hr : NoDigit r) :
      readExponentFrom negative down n start (c :: (digits ++ r)) = .ok (m, r') ↔
        r' = r ∧ movedFloat? negative down n start (Nat.ofDigitChars 10 (c :: digits) 0) =
          some m := by
    have hnine : c.toNat ≤ 57 := by
      simp only [Char.isDigit, Bool.and_eq_true, decide_eq_true_eq, UInt32.le_iff_toNat_le] at hc
      exact hc.2
    have hsmall : c.toNat - '0'.toNat < 2147483648 := by omega
    rw [readExponentFrom, if_pos hc, readExponentDigits_eq_ok_iff _ _ _ _ hall hr hsmall,
      Nat.ofDigitChars_cons, Nat.mul_zero, Nat.zero_add]
  constructor
  · intro s m r h
    cases s with
    | nil => cases h
    | cons c s =>
      by_cases hc : c.isDigit = true
      · rw [← List.takeWhile_append_dropWhile (p := Char.isDigit) (l := s),
          hfirst hc (fun _ => isDigit_of_mem_takeWhile) (noDigit_dropWhile s)] at h
        obtain ⟨rfl, hm⟩ := h
        refine ⟨c :: s.takeWhile Char.isDigit, ?_, ⟨List.cons_ne_nil _ _, ?_⟩, hm⟩
        · rw [List.cons_append, List.takeWhile_append_dropWhile]
        · exact List.forall_mem_cons.mpr ⟨hc, fun _ => isDigit_of_mem_takeWhile⟩
      · rw [readExponentFrom, if_neg hc] at h
        cases h
  · rintro (_ | ⟨c, digits⟩) m r ⟨⟨hne, hall⟩, hm⟩ hr
    · exact absurd rfl hne
    · obtain ⟨hc, hdigits⟩ := List.forall_mem_cons.mp hall
      exact (hfirst hc hdigits hr.noDigit).mpr ⟨rfl, hm⟩

end

theorem readsTokens_readExponent (n : Nat) (start : Int) :
    ReadsTokens (readExponent negative n start) (Exponent negative n start) := by
  have hfrom := fun down => readsTokens_readExponentFrom negative down n start
  constructor
  · intro s m r h
    rw [readExponent.eq_def] at h
    split at h
    · obtain ⟨t, rfl, hdigits, hm⟩ := (hfrom false).sound h
      exact ⟨'+' :: t, rfl, .plus hdigits hm⟩
    · obtain ⟨t, rfl, hdigits, hm⟩ := (hfrom true).sound h
      exact ⟨'-' :: t, rfl, .minus hdigits hm⟩
    · obtain ⟨t, rfl, hdigits, hm⟩ := (hfrom false).sound h
      exact ⟨t, rfl, .unsigned hdigits hm⟩
  · intro t m r h hr
    cases h with
    | plus h hm => exact (hfrom false).complete ⟨h, hm⟩ hr
    | minus h hm => exact (hfrom true).complete ⟨h, hm⟩ hr
    | unsigned h hm =>
      have hread := (hfrom false).complete ⟨h, hm⟩ hr
      obtain ⟨hne, hall⟩ := h
      cases t with
      | nil => exact absurd rfl hne
      | cons c t =>
        have hc := hall c List.mem_cons_self
        rw [List.cons_append] at hread ⊢
        rw [readExponent, hread]
        · rintro s' he
          rw [(List.cons.inj he).1] at hc
          exact absurd hc (by decide)
        · rintro s' he
          rw [(List.cons.inj he).1] at hc
          exact absurd hc (by decide)

/-! ## What comes after the digits -/

theorem EndsNumber.ne {s : List Char} (h : EndsNumber s) {c : Char} (hc : c ∈ ['.', 'e', 'E']) :
    ∀ s', s ≠ c :: s' := by
  rintro s' rfl
  cases h with
  | cons digit point small big =>
    simp only [List.mem_cons, List.not_mem_nil, or_false] at hc
    exact hc.elim point (fun h => h.elim small big)

theorem readsTokens_readTail (n : Nat) (e : Int) :
    ReadsTokens (readTail negative n e) (FloatTail negative n e) := by
  have hexponent := readsTokens_readExponent negative n e
  constructor
  · intro s m r h
    rw [readTail.eq_def] at h
    split at h
    · obtain ⟨t, rfl, ht⟩ := hexponent.sound h
      exact ⟨'e' :: t, rfl, .small ht⟩
    · obtain ⟨t, rfl, ht⟩ := hexponent.sound h
      exact ⟨'E' :: t, rfl, .big ht⟩
    · obtain ⟨rfl, hm⟩ := (finishFloat_eq_ok_iff negative).mp h
      exact ⟨[], rfl, .none hm⟩
  · intro t m r h hr
    cases h with
    | none hm =>
      have hend : readTail negative n e r = finishFloat negative n e r := by
        rw [readTail]
        · exact hr.ne (by simp)
        · exact hr.ne (by simp)
      rw [List.nil_append, hend]
      exact (finishFloat_eq_ok_iff negative).mpr ⟨rfl, hm⟩
    | small h => exact hexponent.complete h hr
    | big h => exact hexponent.complete h hr

/-- What comes after digits does not go on with them. -/
theorem Tail.noDigit {plain? : Option Number} {n : Nat} {e : Int} {t r : List Char} {m : Number}
    (h : Tail negative plain? n e t m) (hr : NoDigit r) : NoDigit (t ++ r) := by
  cases h with
  | none => exact hr
  | small | big => exact noDigit_cons rfl _

theorem readsTokens_readFraction (n : Nat) (e : Int) :
    ReadsTokens (readFraction negative n e) (Fraction negative n e) := by
  have htail := fun digits =>
    readsTokens_readTail negative (absorb n digits).1 (exponentAfter n e digits)
  constructor
  · intro s m r h
    rw [readFraction] at h
    simp only [iteError_eq_ok_iff] at h
    obtain ⟨hsome, h⟩ := h
    obtain ⟨t, hrest, ht⟩ := (htail _).sound h
    refine ⟨s.takeWhile Char.isDigit ++ t, ?_, .mk ⟨hsome, fun _ => isDigit_of_mem_takeWhile⟩ ht⟩
    rw [List.append_assoc, ← hrest, List.takeWhile_append_dropWhile]
  · intro t m r h hr
    cases h with
    | mk hdigits h =>
      obtain ⟨htake, hdrop⟩ := span_digits hdigits.2 (h.noDigit negative hr.noDigit)
      rw [List.append_assoc, readFraction]
      simp only [htake, hdrop, if_neg hdigits.1]
      exact (htail _).complete h hr

section

variable (digits : List Char)

theorem readWhole_point (s : List Char) : readWhole negative digits ('.' :: s) =
    readFraction negative (absorb 0 digits).1 (absorb 0 digits).2.length s := rfl

/-- An exponent is read in one way, whether or not all digits before it fit a word. -/
theorem readWhole_exponent {letter : Char} (h : letter = 'e' ∨ letter = 'E') (s : List Char) :
    readWhole negative digits (letter :: s) =
      readExponent negative (absorb 0 digits).1 (absorb 0 digits).2.length s := by
  by_cases hall : (absorb 0 digits).2 = []
  · rcases h with rfl | rfl <;> simp [readWhole, hall]
  · rcases h with rfl | rfl <;> simp [readWhole, hall, readTail]

theorem readWhole_plain {s r : List Char} {m : Number}
    (h : ∀ c ∈ ['.', 'e', 'E'], ∀ s', s ≠ c :: s') :
    readWhole negative digits s = .ok (m, r) ↔ r = s ∧ plainWhole? negative digits = some m := by
  have hpoint := h '.' (by simp)
  have hsmall := h 'e' (by simp)
  have hbig := h 'E' (by simp)
  by_cases hall : (absorb 0 digits).2 = []
  · simp [readWhole, plainWhole?, hall, eq_comm, and_comm]
  · have hend : readWhole negative digits s =
        finishFloat negative (absorb 0 digits).1 (absorb 0 digits).2.length s := by
      simp [readWhole, hall, readTail]
    rw [hend, finishFloat_eq_ok_iff, plainWhole?, if_neg hall]

theorem readsTokens_readWhole :
    ReadsTokens (readWhole negative digits) (AfterWhole negative digits) := by
  have hfraction :=
    readsTokens_readFraction negative (absorb 0 digits).1 (absorb 0 digits).2.length
  have hexponent :=
    readsTokens_readExponent negative (absorb 0 digits).1 (absorb 0 digits).2.length
  constructor
  · intro s m r h
    by_cases hplain : ∀ c ∈ ['.', 'e', 'E'], ∀ s', s ≠ c :: s'
    · obtain ⟨rfl, hm⟩ := (readWhole_plain negative digits hplain).mp h
      exact ⟨[], rfl, .tail (.none hm)⟩
    push Not at hplain
    obtain ⟨c, hc, s', rfl⟩ := hplain
    simp only [List.mem_cons, List.not_mem_nil, or_false] at hc
    rcases hc with rfl | rfl | rfl
    · rw [readWhole_point] at h
      obtain ⟨t, rfl, ht⟩ := hfraction.sound h
      exact ⟨'.' :: t, rfl, .fraction ht⟩
    · rw [readWhole_exponent negative digits (.inl rfl)] at h
      obtain ⟨t, rfl, ht⟩ := hexponent.sound h
      exact ⟨'e' :: t, rfl, .tail (.small ht)⟩
    · rw [readWhole_exponent negative digits (.inr rfl)] at h
      obtain ⟨t, rfl, ht⟩ := hexponent.sound h
      exact ⟨'E' :: t, rfl, .tail (.big ht)⟩
  · intro t m r h hr
    cases h with
    | fraction h => exact hfraction.complete h hr
    | tail h =>
      cases h with
      | none hm => exact (readWhole_plain negative digits fun c hc => hr.ne hc).mpr ⟨rfl, hm⟩
      | small h =>
        exact (readWhole_exponent negative digits (.inl rfl) _).trans (hexponent.complete h hr)
      | big h =>
        exact (readWhole_exponent negative digits (.inr rfl) _).trans (hexponent.complete h hr)

end

/-- A zero is not followed by a digit. -/
theorem readNumber_zero {s : List Char} (h : NoDigit s) :
    readNumber negative ('0' :: s) = readWhole negative ['0'] s := by
  cases s with
  | nil => rfl
  | cons c s => simp [readNumber, h c rfl]

theorem AfterWhole.noDigit {digits t r : List Char} {m : Number}
    (h : AfterWhole negative digits t m) (hr : NoDigit r) : NoDigit (t ++ r) := by
  cases h with
  | tail h => exact h.noDigit negative hr
  | fraction => exact noDigit_cons rfl _

/-- **The reader reads the numbers of the grammar.** -/
theorem readsTokens_readNumber : ReadsTokens (readNumber negative) (NumberToken negative) := by
  have hwhole := readsTokens_readWhole negative
  constructor
  · intro s m r h
    cases s with
    | nil => cases h
    | cons c s =>
      by_cases hzero : c = '0'
      · subst hzero
        have hnext : NoDigit s := by
          intro c hc
          obtain ⟨s, rfl⟩ := List.head?_eq_some_iff.mp hc
          rw [readNumber, iteError_eq_ok_iff] at h
          exact Bool.eq_false_iff.mpr h.1
        rw [readNumber_zero negative hnext] at h
        obtain ⟨t, rfl, ht⟩ := (hwhole _).sound h
        exact ⟨'0' :: t, rfl, .zero ht⟩
      · have hdigit : c.isDigit = true := by
          by_contra hc
          rw [readNumber, if_neg hc] at h
          · cases h
          · exact hzero
        rw [readNumber, if_pos hdigit] at h
        · obtain ⟨t, hrest, ht⟩ := (hwhole _).sound h
          refine ⟨c :: (s.takeWhile Char.isDigit ++ t), ?_,
            .whole hdigit hzero (fun _ => isDigit_of_mem_takeWhile) ht⟩
          rw [List.cons_append, List.append_assoc, ← hrest, List.takeWhile_append_dropWhile]
        · exact hzero
  · intro t m r h hr
    cases h with
    | zero h =>
      rw [List.cons_append, readNumber_zero negative (h.noDigit negative hr.noDigit)]
      exact (hwhole _).complete h hr
    | whole hc hzero hdigits h =>
      obtain ⟨htake, hdrop⟩ := span_digits hdigits (h.noDigit negative hr.noDigit)
      rw [List.cons_append, List.append_assoc, readNumber, if_pos hc, htake, hdrop]
      · exact (hwhole _).complete h hr
      · exact hzero

end ExamPress.Json
