import ExamPress.Proofs.Json.Token

/-!
# Values are read back as deep as the reader goes

The compact text of a value is read back as the value when lists and objects are nested in it no
deeper than the reader goes, and refused as too deep otherwise; there is no third outcome.  Both
halves are one statement, `UpTo`, and so they are proved by one induction: what the readers do one
after another is good together exactly when each of them is, and the first that is not stops them.

Numbers are natural numbers of one word here, which are the only ones that are ever written.

## What is here

* `UpTo` — a result that is good under a condition, and bad otherwise;
* `Plain` — the values whose numbers are natural numbers of one word;
* `readItems_compactItems`, `readMembers_compactEntries` — lists and objects are read back if
  their items and entries are;
* `readValue_compact` — the theorem.
-/

set_option autoImplicit false

namespace ExamPress.Json

/-! ## Good under a condition -/

/-- **`UpTo bad p r x`** says that the result `r` is `x` if `p` holds, and a bad error otherwise. -/
structure UpTo {ε α : Type} (bad : ε → Prop) (p : Prop) (r : Except ε α) (x : α) : Prop where
  /-- Under the condition the result is as wanted. -/
  within : p → r = .ok x
  /-- Otherwise there is a bad error. -/
  beyond : ¬ p → ∃ e, r = .error e ∧ bad e

namespace UpTo

variable {ε ε' α β : Type} {bad : ε → Prop} {p q : Prop} {r : Except ε α} {x : α}

theorem of_eq (hp : p) (h : r = .ok x) : UpTo bad p r x :=
  ⟨fun _ => h, fun hn => absurd hp hn⟩

theorem congr (hpq : p ↔ q) (h : UpTo bad p r x) : UpTo bad q r x :=
  ⟨fun hq => h.within (hpq.mpr hq), fun hn => h.beyond fun hp => hn (hpq.mp hp)⟩

/-- One reader after another. -/
theorem bind {f : α → Except ε β} {y : β} (h : UpTo bad p r x) (hf : UpTo bad q (f x) y) :
    UpTo bad (p ∧ q) (r >>= f) y := by
  refine ⟨fun ⟨hp, hq⟩ => ?_, fun hn => ?_⟩
  · rw [h.within hp]
    exact hf.within hq
  · by_cases hp : p
    · rw [h.within hp]
      exact hf.beyond fun hq => hn ⟨hp, hq⟩
    · obtain ⟨e, he, hbad⟩ := h.beyond hp
      exact ⟨e, by rw [he]; rfl, hbad⟩

/-- A last step that cannot fail. -/
theorem bind_ok {f : α → Except ε β} {y : β} (h : UpTo bad p r x) (hf : f x = .ok y) :
    UpTo bad p (r >>= f) y :=
  (h.bind (of_eq trivial hf)).congr (and_iff_left trivial)

theorem map (g : α → β) (h : UpTo bad p r x) : UpTo bad p (r.map g) (g x) := by
  refine ⟨fun hp => by rw [h.within hp]; rfl, fun hn => ?_⟩
  obtain ⟨e, he, hbad⟩ := h.beyond hn
  exact ⟨e, by rw [he]; rfl, hbad⟩

theorem mapError {bad' : ε' → Prop} {g : ε → ε'} (hg : ∀ e, bad e → bad' (g e))
    (h : UpTo bad p r x) : UpTo bad' p (r.mapError g) x := by
  refine ⟨fun hp => by rw [h.within hp]; rfl, fun hn => ?_⟩
  obtain ⟨e, he, hbad⟩ := h.beyond hn
  exact ⟨g e, by rw [he]; rfl, hg e hbad⟩

end UpTo

/-- A fault noticed because the nesting must not go deeper. -/
def Fault.IsTooDeep (f : Fault) : Prop := f.cause = .tooDeep

/-! ## The text of a value -/

/-- **Values whose numbers are natural numbers of one word.** -/
inductive Plain : Value → Prop
  | null : Plain .null
  | bool (b : Bool) : Plain (.bool b)
  | natural {n : Nat} (h : n < UInt64.size) : Plain (.number (.integer n))
  | string (s : String) : Plain (.string s)
  | array {items : List Value} (h : ∀ v ∈ items, Plain v) : Plain (.array items)
  | object {entries : List (String × Value)} (h : ∀ e ∈ entries, Plain e.2) :
      Plain (.object entries)

theorem skipBlanks_cons {c : Char} (h : isSpace c = false) (s : List Char) :
    skipBlanks (c :: s) = c :: s := by
  rw [skipBlanks, List.dropWhile_cons, h]
  rfl

theorem isSpace_of_isDigit {c : Char} (h : c.isDigit = true) : isSpace c = false := by
  have hne {d : Char} (hd : d.isDigit = false) : c ≠ d := fun he => by simp [← he, h] at hd
  simp [isSpace, hne]

/-- The text of a value begins at once, and not like the end of a list. -/
theorem Plain.compact_eq_cons {v : Value} (h : Plain v) :
    ∃ c s, v.compact = c :: s ∧ isSpace c = false ∧ c ≠ ']' := by
  cases h with
  | null => exact ⟨'n', _, rfl, by decide, by decide⟩
  | bool b => cases b <;> exact ⟨_, _, rfl, by decide, by decide⟩
  | @natural n hn =>
    cases hdigits : Number.natText n with
    | nil => exact absurd hdigits Nat.toDigits_ne_nil
    | cons c digits =>
      have hc : c.isDigit = true := Number.isDigit_of_mem_natText (hdigits ▸ List.mem_cons_self)
      exact ⟨c, digits, hdigits, isSpace_of_isDigit hc, fun he => by subst he; simp at hc⟩
  | string s => exact ⟨'"', _, rfl, by decide, by decide⟩
  | array h => exact ⟨'[', _, rfl, by decide, by decide⟩
  | object h => exact ⟨'\x7b', _, rfl, by decide, by decide⟩

namespace Value

theorem compact_array (items : List Value) :
    (array items).compact = '[' :: compactItems items ++ [']'] := rfl

theorem compact_object (entries : List (String × Value)) :
    (object entries).compact = '\x7b' :: compactEntries entries ++ ['\x7d'] := rfl

/-- The text of an entry. -/
def entryText (e : String × Value) : List Char := stringText e.1 ++ ':' :: e.2.compact

theorem entryText_append (e : String × Value) (s : List Char) :
    entryText e ++ s = stringText e.1 ++ ':' :: (e.2.compact ++ s) := by
  rw [entryText, List.append_assoc, List.cons_append]

/-- After the first item, each one comes with a comma before it. -/
theorem compactItems_cons (v : Value) (items : List Value) :
    compactItems (v :: items) = v.compact ++ items.flatMap fun w => ',' :: w.compact := by
  induction items generalizing v with
  | nil => rw [compactItems, List.flatMap_nil, List.append_nil]
  | cons w items ih => rw [compactItems, ih, List.flatMap_cons, List.cons_append]

theorem compactEntries_cons (e : String × Value) (entries : List (String × Value)) :
    compactEntries (e :: entries) = entryText e ++ entries.flatMap fun e => ',' :: entryText e := by
  induction entries generalizing e with
  | nil => rw [compactEntries, List.flatMap_nil, List.append_nil, entryText]
  | cons f entries ih =>
    rw [compactEntries, ih, List.flatMap_cons]
    simp only [entryText, List.append_assoc, List.cons_append]

theorem depthOfItems_le {items : List Value} {d : Nat} :
    depthOfItems items ≤ d ↔ ∀ v ∈ items, v.depth ≤ d := by
  induction items with
  | nil => simp [depthOfItems]
  | cons v items ih => rw [depthOfItems, Nat.max_le, ih, List.forall_mem_cons]

theorem depthOfEntries_le {entries : List (String × Value)} {d : Nat} :
    depthOfEntries entries ≤ d ↔ ∀ e ∈ entries, e.2.depth ≤ d := by
  induction entries with
  | nil => simp [depthOfEntries]
  | cons e entries ih => rw [depthOfEntries, Nat.max_le, ih, List.forall_mem_cons]

theorem depth_array_le {items : List Value} {d : Nat} :
    (array items).depth ≤ d + 1 ↔ ∀ v ∈ items, v.depth ≤ d :=
  Nat.succ_le_succ_iff.trans depthOfItems_le

theorem depth_object_le {entries : List (String × Value)} {d : Nat} :
    (object entries).depth ≤ d + 1 ↔ ∀ e ∈ entries, e.2.depth ≤ d :=
  Nat.succ_le_succ_iff.trans depthOfEntries_le

end Value

/-- What comes with a comma before it may follow a value. -/
theorem Follows.flatMap {α : Type} (f : α → List Char) {rest : List Char} (h : Follows rest) :
    ∀ xs : List α, Follows (xs.flatMap (fun x => ',' :: f x) ++ rest)
  | [] => h
  | _ :: _ => .comma _

theorem length_le_length_flatMap {α : Type} (f : α → List Char) (xs : List α) :
    xs.length ≤ (xs.flatMap fun x => ',' :: f x).length := by
  induction xs with
  | nil => exact Nat.le_refl _
  | cons x xs ih =>
    rw [List.flatMap_cons, List.length_append, List.length_cons, List.length_cons]
    omega

/-! ## Lists -/

section

variable {p : Value → Prop} {item : Reader Value} {items : List Value}

/-- A reader of what comes after the first item skips the comma. -/
theorem readMoreItems_comma (item : Reader Value) (fuel : Nat) {c : Char} {s : List Char}
    (hspace : isSpace c = false) (hc : c ≠ ']') :
    readMoreItems item (fuel + 1) (',' :: c :: s) = (do
      let (x, s) ← item (c :: s)
      let (xs, s) ← readMoreItems item fuel s
      .ok (x :: xs, s)) := by
  have hcomma : skipBlanks (',' :: c :: s) = ',' :: c :: s := skipBlanks_cons (by decide) _
  rw [readMoreItems, hcomma]
  simp only [skipBlanks_cons hspace]
  split
  · next h => exact absurd h (List.cons_ne_nil c s)
  · next h => exact absurd (List.cons.inj h).1 hc
  · rfl

theorem readItems_cons (item : Reader Value) {c : Char} {s : List Char}
    (hspace : isSpace c = false) (hc : c ≠ ']') :
    readItems item (c :: s) = (do
      let (x, s) ← item (c :: s)
      let (xs, s) ← readMoreItems item (s.length + 1) s
      .ok (x :: xs, s)) := by
  rw [readItems, skipBlanks_cons hspace]
  split
  · next h => exact absurd h (List.cons_ne_nil c s)
  · next h => exact absurd (List.cons.inj h).1 hc
  · rfl

/-- Items after the first are read back if each of them is. -/
theorem readMoreItems_flatMap (hplain : ∀ v ∈ items, Plain v)
    (hitem : ∀ v ∈ items, ∀ rest, Follows rest →
      UpTo Fault.IsTooDeep (p v) (item (v.compact ++ rest)) (v, rest))
    (fuel : Nat) (hfuel : items.length < fuel) (rest : List Char) :
    UpTo Fault.IsTooDeep (∀ v ∈ items, p v)
      (readMoreItems item fuel ((items.flatMap fun v => ',' :: v.compact) ++ ']' :: rest))
      (items, rest) := by
  induction items generalizing fuel with
  | nil =>
    obtain ⟨fuel, rfl⟩ : ∃ k, fuel = k + 1 := ⟨fuel - 1, by omega⟩
    exact .of_eq (by simp) rfl
  | cons v items ih =>
    obtain ⟨fuel, rfl⟩ : ∃ k, fuel = k + 1 := ⟨fuel - 1, by omega⟩
    rw [List.length_cons] at hfuel
    have hmore := ih (fun w hw => hplain w (List.mem_cons_of_mem v hw))
      (fun w hw => hitem w (List.mem_cons_of_mem v hw)) fuel (by omega)
    obtain ⟨c, s, hv, hspace, hc⟩ := (hplain v List.mem_cons_self).compact_eq_cons
    have hfirst := hitem v List.mem_cons_self _ ((Follows.bracket rest).flatMap Value.compact items)
    rw [hv, List.cons_append] at hfirst
    rw [List.flatMap_cons, hv, List.append_assoc, List.cons_append, List.cons_append,
      readMoreItems_comma item fuel hspace hc]
    refine (hfirst.bind (q := ∀ w ∈ items, p w) ?_).congr List.forall_mem_cons.symm
    exact hmore.bind_ok rfl

/-- **A list is read back if its items are.** -/
theorem readItems_compactItems (hplain : ∀ v ∈ items, Plain v)
    (hitem : ∀ v ∈ items, ∀ rest, Follows rest →
      UpTo Fault.IsTooDeep (p v) (item (v.compact ++ rest)) (v, rest))
    (rest : List Char) :
    UpTo Fault.IsTooDeep (∀ v ∈ items, p v)
      (readItems item (Value.compactItems items ++ ']' :: rest)) (items, rest) := by
  cases items with
  | nil => exact .of_eq (by simp) rfl
  | cons v items =>
    obtain ⟨c, s, hv, hspace, hc⟩ := (hplain v List.mem_cons_self).compact_eq_cons
    have hfirst := hitem v List.mem_cons_self _ ((Follows.bracket rest).flatMap Value.compact items)
    have hlength := length_le_length_flatMap Value.compact items
    have hmore := readMoreItems_flatMap (fun w hw => hplain w (List.mem_cons_of_mem v hw))
      (fun w hw => hitem w (List.mem_cons_of_mem v hw))
      (((items.flatMap fun v => ',' :: v.compact) ++ ']' :: rest).length + 1)
      (by rw [List.length_append]; omega) rest
    rw [hv, List.cons_append] at hfirst
    rw [Value.compactItems_cons, List.append_assoc, hv, List.cons_append,
      readItems_cons item hspace hc]
    refine (hfirst.bind (q := ∀ w ∈ items, p w) ?_).congr List.forall_mem_cons.symm
    exact hmore.bind_ok rfl

end

/-! ## Objects -/

section

variable {σ ε : Type} {bad : ε → Prop} {p : String × Value → Prop}
  {entry : σ → String → List Char → Except ε (σ × List Char)} {step : σ → String × Value → σ}
  {entries : List (String × Value)}

/-- A reader of what comes after the first entry skips the comma and reads the key. -/
theorem readMoreMembers_comma (fault : Fault → ε)
    (entry : σ → String → List Char → Except ε (σ × List Char)) (fuel : Nat) (acc : σ)
    (key : String) (s : List Char) :
    readMoreMembers fault entry (fuel + 1) acc (',' :: (stringText key ++ s)) = (do
      let (acc, s) ← entry acc key s
      readMoreMembers fault entry fuel acc s) := by
  have hcomma (s : List Char) : skipBlanks (',' :: s) = ',' :: s := skipBlanks_cons (by decide) s
  have hquote (s : List Char) : skipBlanks ('"' :: s) = '"' :: s := skipBlanks_cons (by decide) s
  rw [stringText_append, readMoreMembers, hcomma]
  simp only [hquote, readString_flatMap]
  rfl

theorem readMembers_key (fault : Fault → ε)
    (entry : σ → String → List Char → Except ε (σ × List Char)) (start : σ) (key : String)
    (s : List Char) :
    readMembers fault entry start (stringText key ++ s) = (do
      let (acc, s) ← entry start key s
      readMoreMembers fault entry (s.length + 1) acc s) := by
  have hquote (s : List Char) : skipBlanks ('"' :: s) = '"' :: s := skipBlanks_cons (by decide) s
  rw [stringText_append, readMembers, hquote]
  simp only [readString_flatMap]
  rfl

/-- Entries after the first are read back if each of them is, whatever was read before. -/
theorem readMoreMembers_flatMap (fault : Fault → ε)
    (hentry : ∀ e ∈ entries, ∀ acc rest, Follows rest →
      UpTo bad (p e) (entry acc e.1 (':' :: (e.2.compact ++ rest))) (step acc e, rest))
    (fuel : Nat) (hfuel : entries.length < fuel) (acc : σ) (rest : List Char) :
    UpTo bad (∀ e ∈ entries, p e)
      (readMoreMembers fault entry fuel acc
        ((entries.flatMap fun e => ',' :: Value.entryText e) ++ '\x7d' :: rest))
      (entries.foldl step acc, rest) := by
  induction entries generalizing fuel acc with
  | nil =>
    obtain ⟨fuel, rfl⟩ : ∃ k, fuel = k + 1 := ⟨fuel - 1, by omega⟩
    exact .of_eq (by simp) rfl
  | cons e entries ih =>
    obtain ⟨fuel, rfl⟩ : ∃ k, fuel = k + 1 := ⟨fuel - 1, by omega⟩
    rw [List.length_cons] at hfuel
    have hmore := ih (fun f hf => hentry f (List.mem_cons_of_mem e hf)) fuel (by omega)
      (step acc e)
    have hfirst := hentry e List.mem_cons_self acc _
      ((Follows.brace rest).flatMap Value.entryText entries)
    rw [List.flatMap_cons, List.append_assoc, List.cons_append, Value.entryText_append,
      readMoreMembers_comma]
    refine (hfirst.bind (q := ∀ f ∈ entries, p f) ?_).congr List.forall_mem_cons.symm
    exact hmore

/-- **An object is read back if its entries are**: the first one from the start, the others from
whatever was read before. -/
theorem readMembers_compactEntries (fault : Fault → ε) {e : String × Value} {start acc : σ}
    (hfirst : ∀ rest, Follows rest →
      UpTo bad (p e) (entry start e.1 (':' :: (e.2.compact ++ rest))) (acc, rest))
    (hentry : ∀ e ∈ entries, ∀ acc rest, Follows rest →
      UpTo bad (p e) (entry acc e.1 (':' :: (e.2.compact ++ rest))) (step acc e, rest))
    (rest : List Char) :
    UpTo bad (∀ f ∈ e :: entries, p f)
      (readMembers fault entry start (Value.compactEntries (e :: entries) ++ '\x7d' :: rest))
      (entries.foldl step acc, rest) := by
  have hlength := length_le_length_flatMap Value.entryText entries
  have hmore := readMoreMembers_flatMap fault hentry
    (((entries.flatMap fun e => ',' :: Value.entryText e) ++ '\x7d' :: rest).length + 1)
    (by rw [List.length_append]; omega) acc rest
  rw [Value.compactEntries_cons, List.append_assoc, Value.entryText_append, readMembers_key]
  refine ((hfirst _ ((Follows.brace rest).flatMap Value.entryText entries)).bind
    (q := ∀ f ∈ entries, p f) ?_).congr List.forall_mem_cons.symm
  exact hmore

theorem foldl_concat (acc entries : List (String × Value)) :
    entries.foldl (fun acc e => acc ++ [(e.1, e.2)]) acc = acc ++ entries := by
  induction entries generalizing acc with
  | nil => exact (List.append_nil acc).symm
  | cons e entries ih =>
    rw [List.foldl_cons, ih, List.append_assoc]
    rfl

/-- An entry as it is. -/
theorem readEntry_compact {p : Prop} {bad : Fault → Prop} {value : Reader Value} {v : Value}
    {rest : List Char} (h : UpTo bad p (value (v.compact ++ rest)) (v, rest))
    (acc : List (String × Value)) (key : String) :
    UpTo bad p (readEntry value acc key (':' :: (v.compact ++ rest)))
      (acc ++ [(key, v)], rest) := by
  have hcolon : readColon (':' :: (v.compact ++ rest)) = .ok ((), v.compact ++ rest) := rfl
  rw [readEntry, hcolon]
  exact h.bind_ok rfl

/-- The entries of an object as they are. -/
theorem readMembers_readEntry {p : String × Value → Prop} {bad : Fault → Prop}
    {value : Reader Value}
    (hvalue : ∀ e ∈ entries, ∀ rest, Follows rest →
      UpTo bad (p e) (value (e.2.compact ++ rest)) (e.2, rest))
    (rest : List Char) :
    UpTo bad (∀ e ∈ entries, p e)
      (readMembers id (readEntry value) [] (Value.compactEntries entries ++ '\x7d' :: rest))
      (entries, rest) := by
  cases entries with
  | nil => exact .of_eq (by simp) rfl
  | cons e entries =>
    have hentry (f : String × Value) (hf : f ∈ e :: entries) (acc : List (String × Value))
        (rest : List Char) (hrest : Follows rest) :=
      readEntry_compact (hvalue f hf rest hrest) acc f.1
    have hall := readMembers_compactEntries id (hentry e List.mem_cons_self [])
      (fun f hf => hentry f (List.mem_cons_of_mem e hf)) rest
    rwa [foldl_concat] at hall

end

/-! ## Values -/

/-- A digit begins a number. -/
theorem readNested_digit (inner : Option (Reader Value)) {c : Char} (hc : c.isDigit = true)
    (s : List Char) :
    readNested inner (c :: s) = (readNumber false (c :: s)).map fun r => (.number r.1, r.2) := by
  have hne {d : Char} (hd : d.isDigit = false) : c ≠ d := fun he => by simp [← he, hc] at hd
  rw [readNested, skipBlanks_cons (isSpace_of_isDigit hc)]
  simp only [if_neg (hne (d := 'n') (by decide)), if_neg (hne (d := 't') (by decide)),
    if_neg (hne (d := 'f') (by decide)), if_neg (hne (d := '-') (by decide)), if_pos hc]

theorem readNested_natText (inner : Option (Reader Value)) {n : Nat} (h : n < UInt64.size)
    {rest : List Char} (hrest : Follows rest) :
    readNested inner (Number.natText n ++ rest) = .ok (.number (.integer n), rest) := by
  have hnumber := readNumber_natText h hrest
  cases hdigits : Number.natText n with
  | nil => exact absurd hdigits Nat.toDigits_ne_nil
  | cons c digits =>
    have hc : c.isDigit = true := Number.isDigit_of_mem_natText (hdigits ▸ List.mem_cons_self)
    rw [hdigits, List.cons_append] at hnumber
    rw [List.cons_append, readNested_digit inner hc, hnumber]
    rfl

theorem readNested_string (inner : Option (Reader Value)) (s : String) (rest : List Char) :
    readNested inner (stringText s ++ rest) = .ok (.string s, rest) := by
  have hquote : readNested inner (stringText s ++ rest) =
      (readString (s.toList.flatMap escapedChar ++ '"' :: rest)).map
        fun r => (.string r.1, r.2) := by
    rw [stringText_append]
    rfl
  rw [hquote, readString_flatMap]
  rfl

theorem readNested_bracket (inner : Reader Value) (s : List Char) :
    readNested (some inner) ('[' :: s) = (readItems inner s).map fun r => (.array r.1, r.2) := rfl

theorem readNested_brace (inner : Reader Value) (s : List Char) :
    readNested (some inner) ('\x7b' :: s) =
      (readMembers id (readEntry inner) [] s).map fun r => (.object r.1, r.2) := rfl

/-- A value that is neither a list nor an object is read back at any depth. -/
theorem readValue_flat {v : Value} (hv : v.depth = 0) {rest : List Char}
    (h : ∀ inner, readNested inner (v.compact ++ rest) = .ok (v, rest)) (d : Nat) :
    UpTo Fault.IsTooDeep (v.depth ≤ d) (readValue d (v.compact ++ rest)) (v, rest) := by
  refine .of_eq (hv ▸ Nat.zero_le d) ?_
  cases d <;> exact h _

theorem readValue_array {items : List Value} (hplain : ∀ v ∈ items, Plain v)
    (hitem : ∀ v ∈ items, ∀ d rest, Follows rest →
      UpTo Fault.IsTooDeep (v.depth ≤ d) (readValue d (v.compact ++ rest)) (v, rest))
    (d : Nat) (rest : List Char) :
    UpTo Fault.IsTooDeep ((Value.array items).depth ≤ d)
      (readValue d ((Value.array items).compact ++ rest)) (.array items, rest) := by
  cases d with
  | zero => exact ⟨fun h => absurd h (Nat.not_succ_le_zero _), fun _ => ⟨_, rfl, rfl⟩⟩
  | succ d =>
    have hitems := readItems_compactItems hplain (fun v hv => hitem v hv d) rest
    rw [Value.compact_array, List.append_assoc, List.singleton_append, List.cons_append,
      readValue, readNested_bracket]
    exact (hitems.map fun r => (Value.array r.1, r.2)).congr Value.depth_array_le.symm

theorem readValue_object {entries : List (String × Value)}
    (hentry : ∀ e ∈ entries, ∀ d rest, Follows rest →
      UpTo Fault.IsTooDeep (e.2.depth ≤ d) (readValue d (e.2.compact ++ rest)) (e.2, rest))
    (d : Nat) (rest : List Char) :
    UpTo Fault.IsTooDeep ((Value.object entries).depth ≤ d)
      (readValue d ((Value.object entries).compact ++ rest)) (.object entries, rest) := by
  cases d with
  | zero => exact ⟨fun h => absurd h (Nat.not_succ_le_zero _), fun _ => ⟨_, rfl, rfl⟩⟩
  | succ d =>
    have hentries := readMembers_readEntry (fun e he => hentry e he d) rest
    rw [Value.compact_object, List.append_assoc, List.singleton_append, List.cons_append,
      readValue, readNested_brace]
    exact (hentries.map fun r => (Value.object r.1, r.2)).congr Value.depth_object_le.symm

/-- **A value is read back as deep as the reader goes**, and beyond that it is too deep. -/
theorem readValue_compact {v : Value} (hv : Plain v) (d : Nat) (rest : List Char)
    (hrest : Follows rest) :
    UpTo Fault.IsTooDeep (v.depth ≤ d) (readValue d (v.compact ++ rest)) (v, rest) := by
  induction hv generalizing d rest with
  | null => exact readValue_flat rfl (fun _ => rfl) d
  | bool b => exact readValue_flat rfl (fun _ => by cases b <;> rfl) d
  | natural h => exact readValue_flat rfl (fun inner => readNested_natText inner h hrest) d
  | string s => exact readValue_flat rfl (fun inner => readNested_string inner s rest) d
  | array hplain ih => exact readValue_array hplain ih d rest
  | object _ ih => exact readValue_object ih d rest

end ExamPress.Json
