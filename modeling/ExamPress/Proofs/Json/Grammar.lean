import ExamPress.Proofs.Json.NumberToken
import ExamPress.Proofs.Json.Steps
import ExamPress.Proofs.Json.StringToken

/-!
# The grammar of JSON

What a text spells is told here without a reader: by what stands in it, with spaces wherever they
may be.  Each relation of the grammar has the text before and the text that is left after, so that
no text has to be cut.  The reader reads a text exactly when the grammar spells it and the nesting
goes no deeper than the reader does; there is nothing else that it refuses and nothing else that it
takes.

Two things are settled below the grammar.  A token of digits is a number only with a value in range,
so that `1e999` is none.  And a lone half of a surrogate pair is no character, so that no string is
spelled with it.

## What is here

* `SpellsNumber`, `Spells`, `SpellsText` — the grammar;
* `spells_of_readValue` — what is read is spelled, and is no deeper than the reader goes;
* `Spells.readValue` — what is spelled is read, if it is no deeper;
* `parse_eq_ok_iff` — the reader and the grammar agree.
-/

set_option autoImplicit false

namespace ExamPress.Json

/-! ## The grammar -/

/-- **A number is spelled** by a token of digits, with its sign before it. -/
inductive SpellsNumber : List Char → Number → List Char → Prop
  | plus {t : List Char} {n : Number} {r : List Char} (h : NumberToken false t n) :
      SpellsNumber (t ++ r) n r
  | minus {t : List Char} {n : Number} {r : List Char} (h : NumberToken true t n) :
      SpellsNumber ('-' :: (t ++ r)) n r

mutual

/-- **`Spells s v r`** — `s` begins with a text that spells `v`, and `r` is left. -/
inductive Spells : List Char → Value → List Char → Prop
  | null {r : List Char} : Spells ('n' :: 'u' :: 'l' :: 'l' :: r) .null r
  | trueWord {r : List Char} : Spells ('t' :: 'r' :: 'u' :: 'e' :: r) (.bool true) r
  | falseWord {r : List Char} : Spells ('f' :: 'a' :: 'l' :: 's' :: 'e' :: r) (.bool false) r
  | number {s : List Char} {n : Number} {r : List Char} (h : SpellsNumber s n r) :
      Spells s (.number n) r
  | string {s : List Char} {str : String} {r : List Char} (h : SpellsChars s str.toList r) :
      Spells ('"' :: s) (.string str) r
  | emptyList {s r : List Char} (close : Spaces s (']' :: r)) : Spells ('[' :: s) (.array []) r
  | list {s s₁ s₂ : List Char} {v : Value} {items : List Value} {r : List Char}
      (space : Spaces s s₁) (first : Spells s₁ v s₂) (more : SpellsItems s₂ items r) :
      Spells ('[' :: s) (.array (v :: items)) r
  | emptyObject {s r : List Char} (close : Spaces s ('\x7d' :: r)) :
      Spells ('\x7b' :: s) (.object []) r
  | object {s s₁ : List Char} {e : String × Value} {entries : List (String × Value)}
      {r : List Char} (first : SpellsEntry s e s₁) (more : SpellsEntries s₁ entries r) :
      Spells ('\x7b' :: s) (.object (e :: entries)) r

/-- What follows an item of a list, up to the closing bracket. -/
inductive SpellsItems : List Char → List Value → List Char → Prop
  | close {s r : List Char} (h : Spaces s (']' :: r)) : SpellsItems s [] r
  | comma {s s₁ s₂ s₃ : List Char} {v : Value} {items : List Value} {r : List Char}
      (comma : Spaces s (',' :: s₁)) (space : Spaces s₁ s₂) (next : Spells s₂ v s₃)
      (more : SpellsItems s₃ items r) : SpellsItems s (v :: items) r

/-- A key with its value. -/
inductive SpellsEntry : List Char → String × Value → List Char → Prop
  | mk {s s₁ s₂ s₃ s₄ : List Char} {key : String} {v : Value} {r : List Char}
      (quote : Spaces s ('"' :: s₁)) (chars : SpellsChars s₁ key.toList s₂)
      (colon : Spaces s₂ (':' :: s₃)) (space : Spaces s₃ s₄) (value : Spells s₄ v r) :
      SpellsEntry s (key, v) r

/-- What follows an entry of an object, up to the closing brace. -/
inductive SpellsEntries : List Char → List (String × Value) → List Char → Prop
  | close {s r : List Char} (h : Spaces s ('\x7d' :: r)) : SpellsEntries s [] r
  | comma {s s₁ s₂ : List Char} {e : String × Value} {entries : List (String × Value)}
      {r : List Char} (comma : Spaces s (',' :: s₁)) (next : SpellsEntry s₁ e s₂)
      (more : SpellsEntries s₂ entries r) : SpellsEntries s (e :: entries) r

end

/-- **A text that spells a value** has nothing but spaces around it. -/
def SpellsText (s : List Char) (v : Value) : Prop :=
  ∃ s₁ s₂, Spaces s s₁ ∧ Spells s₁ v s₂ ∧ Spaces s₂ []

/-! ## What is read is spelled -/

section

variable {item : Reader Value} {d : Nat}

/-- **A reader reads what is spelled**, and nothing that is deeper than `d`. -/
def ReadsSpelled (item : Reader Value) (d : Nat) : Prop :=
  ∀ ⦃s : List Char⦄ ⦃v : Value⦄ ⦃r : List Char⦄, item s = .ok (v, r) →
    v.depth ≤ d ∧ ∃ s', Spaces s s' ∧ Spells s' v r

theorem spells_of_readMoreItems (hitem : ReadsSpelled item d) {fuel : Nat} {s : List Char}
    {items : List Value} {r : List Char} (h : readMoreItems item fuel s = .ok (items, r)) :
    Value.depthOfItems items ≤ d ∧ SpellsItems s items r := by
  induction fuel generalizing s items with
  | zero => cases h
  | succ fuel ih =>
    cases readMoreItems_eq_ok.mp h with
    | close h => exact ⟨Nat.zero_le d, .close h⟩
    | next comma space _ _ next more =>
      obtain ⟨hdepth, s₂, hspace, hspells⟩ := hitem next
      obtain ⟨hdepths, hmore⟩ := ih more
      exact ⟨Nat.max_le.mpr ⟨hdepth, hdepths⟩, .comma comma (space.trans hspace) hspells hmore⟩

/-- **A list is spelled by what is read of it.** -/
theorem spells_of_readItems (hitem : ReadsSpelled item d) {s : List Char} {items : List Value}
    {r : List Char} (h : readItems item s = .ok (items, r)) :
    (Value.array items).depth ≤ d + 1 ∧ Spells ('[' :: s) (.array items) r := by
  cases readItems_eq_ok.mp h with
  | close h => exact ⟨Nat.succ_le_succ (Nat.zero_le d), .emptyList h⟩
  | first space _ _ next more =>
    obtain ⟨hdepth, s₂, hspace, hspells⟩ := hitem next
    obtain ⟨hdepths, hmore⟩ := spells_of_readMoreItems hitem more
    exact ⟨Nat.succ_le_succ (Nat.max_le.mpr ⟨hdepth, hdepths⟩),
      .list (space.trans hspace) hspells hmore⟩

/-- An entry is spelled by its key, which is read before, and what is read of it. -/
theorem spells_of_readEntry (hitem : ReadsSpelled item d) {acc acc' : List (String × Value)}
    {key : String} {s s₁ s₂ r : List Char} (hquote : Spaces s ('"' :: s₁))
    (hkey : readString s₁ = .ok (key, s₂)) (h : readEntry item acc key s₂ = .ok (acc', r)) :
    ∃ v, acc' = acc ++ [(key, v)] ∧ v.depth ≤ d ∧ SpellsEntry s (key, v) r := by
  obtain ⟨s₃, v, hcolon, hv, rfl⟩ := readEntry_eq_ok.mp h
  obtain ⟨hdepth, s₄, hspace, hspells⟩ := hitem hv
  exact ⟨v, rfl, hdepth, .mk hquote (readString_eq_ok.mp hkey) hcolon hspace hspells⟩

theorem spells_of_readMoreMembers (hitem : ReadsSpelled item d) {fuel : Nat} {s : List Char}
    {acc entries : List (String × Value)} {r : List Char}
    (h : readMoreMembers id (readEntry item) fuel acc s = .ok (entries, r)) :
    ∃ more, entries = acc ++ more ∧ Value.depthOfEntries more ≤ d ∧ SpellsEntries s more r := by
  induction fuel generalizing s acc with
  | zero => cases h
  | succ fuel ih =>
    cases readMoreMembers_eq_ok.mp h with
    | close h => exact ⟨[], (List.append_nil _).symm, Nat.zero_le d, .close h⟩
    | next comma quote chars next more =>
      obtain ⟨v, rfl, hdepth, hspells⟩ := spells_of_readEntry hitem quote chars next
      obtain ⟨rest, rfl, hdepths, hmore⟩ := ih more
      exact ⟨(_, v) :: rest, by rw [List.append_assoc, List.singleton_append],
        Nat.max_le.mpr ⟨hdepth, hdepths⟩, .comma comma hspells hmore⟩

/-- **An object is spelled by what is read of it.** -/
theorem spells_of_readMembers (hitem : ReadsSpelled item d) {s : List Char}
    {entries : List (String × Value)} {r : List Char}
    (h : readMembers id (readEntry item) [] s = .ok (entries, r)) :
    (Value.object entries).depth ≤ d + 1 ∧ Spells ('\x7b' :: s) (.object entries) r := by
  cases readMembers_eq_ok.mp h with
  | close h => exact ⟨Nat.succ_le_succ (Nat.zero_le d), .emptyObject h⟩
  | first quote chars next more =>
    obtain ⟨v, rfl, hdepth, hspells⟩ := spells_of_readEntry hitem quote chars next
    obtain ⟨rest, rfl, hdepths, hmore⟩ := spells_of_readMoreMembers hitem more
    exact ⟨Nat.succ_le_succ (Nat.max_le.mpr ⟨hdepth, hdepths⟩), .object hspells hmore⟩

end

/-- What is read is spelled if what is read inside it is. -/
theorem spells_of_readNested {inner : Option (Reader Value)} {d : Nat}
    (hinner : ∀ item ∈ inner, ∃ k, d = k + 1 ∧ ReadsSpelled item k) :
    ReadsSpelled (readNested inner) d := by
  intro s v r h
  have hspace := spaces_skipBlanks s
  rw [readNested] at h
  generalize skipBlanks s = s' at h hspace
  have hflat {v : Value} (hv : v.depth = 0) (hspells : Spells s' v r) :
      v.depth ≤ d ∧ ∃ s', Spaces s s' ∧ Spells s' v r :=
    ⟨hv ▸ Nat.zero_le d, s', hspace, hspells⟩
  split at h
  · cases h
  next c s' =>
  split_ifs at h with hn ht hf hminus hdigit hquote hbracket hbrace
  · subst hn
    obtain ⟨rfl, rfl⟩ := readWord_eq_ok.mp h
    exact hflat rfl .null
  · subst ht
    obtain ⟨rfl, rfl⟩ := readWord_eq_ok.mp h
    exact hflat rfl .trueWord
  · subst hf
    obtain ⟨rfl, rfl⟩ := readWord_eq_ok.mp h
    exact hflat rfl .falseWord
  · subst hminus
    obtain ⟨⟨n, r'⟩, hnumber, hend⟩ := map_eq_ok_iff.mp h
    cases hend
    obtain ⟨t, rfl, ht⟩ := (readsTokens_readNumber true).sound hnumber
    exact hflat rfl (.number (.minus ht))
  · obtain ⟨⟨n, r'⟩, hnumber, hend⟩ := map_eq_ok_iff.mp h
    cases hend
    obtain ⟨t, hc, ht⟩ := (readsTokens_readNumber false).sound hnumber
    exact hflat rfl (.number (hc ▸ .plus ht))
  · subst hquote
    obtain ⟨⟨str, r'⟩, hstring, hend⟩ := map_eq_ok_iff.mp h
    cases hend
    exact hflat rfl (.string (readString_eq_ok.mp hstring))
  · subst hbracket
    cases inner with
    | none => cases h
    | some item =>
      obtain ⟨k, rfl, hitem⟩ := hinner item rfl
      obtain ⟨⟨items, r'⟩, hitems, hend⟩ := map_eq_ok_iff.mp h
      cases hend
      obtain ⟨hdepth, hspells⟩ := spells_of_readItems hitem hitems
      exact ⟨hdepth, _, hspace, hspells⟩
  · subst hbrace
    cases inner with
    | none => cases h
    | some item =>
      obtain ⟨k, rfl, hitem⟩ := hinner item rfl
      obtain ⟨⟨entries, r'⟩, hentries, hend⟩ := map_eq_ok_iff.mp h
      cases hend
      obtain ⟨hdepth, hspells⟩ := spells_of_readMembers hitem hentries
      exact ⟨hdepth, _, hspace, hspells⟩

/-- **A value that is read is spelled**, and is no deeper than the reader goes. -/
theorem spells_of_readValue (d : Nat) : ReadsSpelled (readValue d) d := by
  induction d with
  | zero => exact spells_of_readNested fun _ h => by cases h
  | succ d ih =>
    refine spells_of_readNested fun item h => ⟨d, rfl, ?_⟩
    cases h
    exact ih

/-! ## What is spelled is read -/

theorem SpellsNumber.length_le {s r : List Char} {n : Number} (h : SpellsNumber s n r) :
    r.length ≤ s.length := by
  cases h <;> simp only [List.length_cons, List.length_append] <;> omega

mutual

/-- What is left of a text is no longer than the text. -/
theorem Spells.length_le {s r : List Char} {v : Value} : Spells s v r → r.length ≤ s.length
  | .null | .trueWord | .falseWord => by simp only [List.length_cons]; omega
  | .number h => h.length_le
  | .string h => Nat.le_succ_of_le h.length_le
  | .emptyList close | .emptyObject close => by
    have h := close.length_le
    simp only [List.length_cons] at h ⊢
    omega
  | .list space first more => by
    have hspace := space.length_le
    have hfirst := first.length_le
    have hmore := more.length_lt
    rw [List.length_cons]
    omega
  | .object first more => by
    have hfirst := first.length_le
    have hmore := more.length_lt
    rw [List.length_cons]
    omega

/-- Each item takes a comma, so that there are no more items than characters. -/
theorem SpellsItems.length_lt {s r : List Char} {items : List Value} :
    SpellsItems s items r → r.length + items.length < s.length
  | .close h => h.length_le
  | .comma comma space next more => by
    have hcomma := comma.length_le
    have hspace := space.length_le
    have hnext := next.length_le
    have hmore := more.length_lt
    simp only [List.length_cons] at hcomma ⊢
    omega

theorem SpellsEntry.length_le {s r : List Char} {e : String × Value} :
    SpellsEntry s e r → r.length ≤ s.length
  | .mk quote chars colon space value => by
    have hquote := quote.length_le
    have hchars := chars.length_le
    have hcolon := colon.length_le
    have hspace := space.length_le
    have hvalue := value.length_le
    simp only [List.length_cons] at hquote hcolon
    omega

theorem SpellsEntries.length_lt {s r : List Char} {entries : List (String × Value)} :
    SpellsEntries s entries r → r.length + entries.length < s.length
  | .close h => h.length_le
  | .comma comma next more => by
    have hcomma := comma.length_le
    have hnext := next.length_le
    have hmore := more.length_lt
    simp only [List.length_cons] at hcomma ⊢
    omega

end

theorem SpellsItems.lt_fuel {s r : List Char} {items : List Value} (h : SpellsItems s items r) :
    items.length < s.length + 1 :=
  Nat.lt_succ_of_lt (Nat.lt_of_le_of_lt (Nat.le_add_left _ _) h.length_lt)

theorem SpellsEntries.lt_fuel {s r : List Char} {entries : List (String × Value)}
    (h : SpellsEntries s entries r) : entries.length < s.length + 1 :=
  Nat.lt_succ_of_lt (Nat.lt_of_le_of_lt (Nat.le_add_left _ _) h.length_lt)

theorem Spaces.endsNumber {s r : List Char} (h : Spaces s r) (hr : EndsNumber r) :
    EndsNumber s := by
  cases h with
  | nil => exact hr
  | @cons c s r hc more =>
    simp only [isSpace, Bool.or_eq_true, decide_eq_true_eq] at hc
    rcases hc with ((rfl | rfl) | rfl) | rfl <;>
      exact .cons (by decide) (by decide) (by decide) (by decide)

theorem endsNumber_of_mem {c : Char} (h : c ∈ [',', ']', '\x7d']) (s : List Char) :
    EndsNumber (c :: s) := by
  revert c
  simp only [List.forall_mem_cons, List.not_mem_nil, false_imp_iff, implies_true, and_true]
  exact ⟨.cons (by decide) (by decide) (by decide) (by decide),
    .cons (by decide) (by decide) (by decide) (by decide),
    .cons (by decide) (by decide) (by decide) (by decide)⟩

/-- What follows an item ends it if it is a number. -/
theorem SpellsItems.endsNumber {s r : List Char} {items : List Value} (h : SpellsItems s items r) :
    EndsNumber s := by
  cases h with
  | close h => exact h.endsNumber (endsNumber_of_mem (by simp) _)
  | comma comma => exact comma.endsNumber (endsNumber_of_mem (by simp) _)

theorem SpellsEntries.endsNumber {s r : List Char} {entries : List (String × Value)}
    (h : SpellsEntries s entries r) : EndsNumber s := by
  cases h with
  | close h => exact h.endsNumber (endsNumber_of_mem (by simp) _)
  | comma comma => exact comma.endsNumber (endsNumber_of_mem (by simp) _)

/-- A number begins with a digit or with its sign. -/
theorem SpellsNumber.eq_cons {s r : List Char} {n : Number} (h : SpellsNumber s n r) :
    ∃ c s', s = c :: s' ∧ (c = '-' ∨ c.isDigit = true) := by
  cases h with
  | minus h => exact ⟨'-', _, rfl, .inl rfl⟩
  | @plus t n r h =>
    obtain ⟨c, t, rfl, hc⟩ := h.eq_cons
    exact ⟨c, t ++ r, rfl, .inr hc⟩

/-- A value begins at once, and not like the end of a list. -/
theorem Spells.eq_cons {s r : List Char} {v : Value} (h : Spells s v r) :
    ∃ c s', s = c :: s' ∧ isSpace c = false ∧ c ≠ ']' := by
  cases h with
  | number h =>
    obtain ⟨c, s', rfl, rfl | hc⟩ := h.eq_cons
    · exact ⟨'-', s', rfl, by decide, by decide⟩
    · exact ⟨c, s', rfl, isSpace_of_isDigit hc, fun he => by subst he; simp at hc⟩
  | _ => exact ⟨_, _, rfl, by decide, by decide⟩

/-- A number is read at any depth. -/
theorem SpellsNumber.readNested {s r : List Char} {n : Number} (h : SpellsNumber s n r)
    (hr : EndsNumber r) (inner : Option (Reader Value)) :
    readNested inner s = .ok (.number n, r) := by
  cases h with
  | @minus t n r h =>
    have hminus : Json.readNested inner ('-' :: (t ++ r)) =
        (readNumber true (t ++ r)).map fun r => (.number r.1, r.2) := rfl
    rw [hminus, (readsTokens_readNumber true).complete h hr]
    rfl
  | @plus t n r h =>
    have hread := (readsTokens_readNumber false).complete h hr
    obtain ⟨c, t, rfl, hc⟩ := h.eq_cons
    rw [List.cons_append] at hread ⊢
    rw [readNested_digit inner hc, hread]
    rfl

theorem readNested_quote {s r : List Char} {str : String} (h : SpellsChars s str.toList r)
    (inner : Option (Reader Value)) : readNested inner ('"' :: s) = .ok (.string str, r) := by
  have hquote : readNested inner ('"' :: s) =
      (readString s).map fun r => (.string r.1, r.2) := rfl
  rw [hquote, readString_eq_ok.mpr h]
  rfl

mutual

/-- **A value that is spelled is read**, as long as it is no deeper than the reader goes. -/
theorem Spells.readValue {s r : List Char} {v : Value} :
    Spells s v r → ∀ {d : Nat}, v.depth ≤ d → EndsNumber r → readValue d s = .ok (v, r)
  | .null, d, _, _ | .trueWord, d, _, _ | .falseWord, d, _, _ => by cases d <;> rfl
  | .number h, d, _, hr => by cases d <;> exact h.readNested hr _
  | .string h, d, _, _ => by cases d <;> exact readNested_quote h _
  | .emptyList close, d + 1, _, _ => by
    rw [Json.readValue, readNested_bracket, readItems_eq_ok.mpr (.close close)]
    rfl
  | .list space first more, d + 1, hd, _ => by
    obtain ⟨hv, hitems⟩ := Nat.max_le.mp (Nat.le_of_succ_le_succ hd)
    obtain ⟨c, s₁, rfl, hc, hbracket⟩ := first.eq_cons
    rw [Json.readValue, readNested_bracket, readItems_eq_ok.mpr (.first space hc hbracket
      (first.readValue hv more.endsNumber) (more.readMoreItems hitems more.lt_fuel))]
    rfl
  | .emptyObject close, d + 1, _, _ => by
    rw [Json.readValue, readNested_brace, readMembers_eq_ok.mpr (.close close)]
    rfl
  | .object first more, d + 1, hd, _ => by
    obtain ⟨hv, hentries⟩ := Nat.max_le.mp (Nat.le_of_succ_le_succ hd)
    obtain ⟨s₁, s₂, hquote, hkey, hentry⟩ := first.readEntry hv more.endsNumber
    rw [Json.readValue, readNested_brace, readMembers_eq_ok.mpr (.first hquote hkey (hentry [])
      (more.readMoreMembers hentries _ more.lt_fuel))]
    rfl

/-- The items after the first are read. -/
theorem SpellsItems.readMoreItems {s r : List Char} {items : List Value} :
    SpellsItems s items r → ∀ {d : Nat}, Value.depthOfItems items ≤ d →
      ∀ {fuel : Nat}, items.length < fuel → readMoreItems (readValue d) fuel s = .ok (items, r)
  | .close h, d, _, fuel + 1, _ => readMoreItems_eq_ok.mpr (.close h)
  | .comma comma space next more, d, hd, fuel + 1, hfuel => by
    obtain ⟨hv, hitems⟩ := Nat.max_le.mp hd
    obtain ⟨c, s₂, rfl, hc, hbracket⟩ := next.eq_cons
    exact readMoreItems_eq_ok.mpr (.next comma space hc hbracket
      (next.readValue hv more.endsNumber)
      (more.readMoreItems hitems (Nat.lt_of_succ_lt_succ hfuel)))

/-- An entry is read: its key first, then its value. -/
theorem SpellsEntry.readEntry {s r : List Char} {e : String × Value} :
    SpellsEntry s e r → ∀ {d : Nat}, e.2.depth ≤ d → EndsNumber r →
      ∃ s₁ s₂, Spaces s ('"' :: s₁) ∧ readString s₁ = .ok (e.1, s₂) ∧
        ∀ acc, readEntry (readValue d) acc e.1 s₂ = .ok (acc ++ [e], r)
  | .mk quote chars colon space value, d, hd, hr => by
    refine ⟨_, _, quote, readString_eq_ok.mpr chars, fun acc => ?_⟩
    exact readEntry_eq_ok.mpr
      ⟨_, _, colon, (space.readValue d).trans (value.readValue hd hr), rfl⟩

/-- The entries after the first are read. -/
theorem SpellsEntries.readMoreMembers {s r : List Char} {entries : List (String × Value)} :
    SpellsEntries s entries r → ∀ {d : Nat}, Value.depthOfEntries entries ≤ d →
      ∀ {fuel : Nat} (acc : List (String × Value)), entries.length < fuel →
        readMoreMembers id (readEntry (readValue d)) fuel acc s = .ok (acc ++ entries, r)
  | .close h, d, _, fuel + 1, acc, _ => by
    rw [List.append_nil]
    exact readMoreMembers_eq_ok.mpr (.close h)
  | .comma comma next more, d, hd, fuel + 1, acc, hfuel => by
    obtain ⟨hv, hentries⟩ := Nat.max_le.mp hd
    obtain ⟨s₁, s₂, hquote, hkey, hentry⟩ := next.readEntry hv more.endsNumber
    have hmore acc := more.readMoreMembers hentries acc (Nat.lt_of_succ_lt_succ hfuel)
    rw [List.append_cons]
    exact readMoreMembers_eq_ok.mpr (.next comma hquote hkey (hentry acc) (hmore _))

end

/-- A text spells one value: what it spells is read, as long as the reader goes deep enough. -/
theorem SpellsText.unique {s : List Char} {v w : Value} (hv : SpellsText s v)
    (hw : SpellsText s w) : v = w := by
  obtain ⟨s₁, r, hspace, hspells, hend⟩ := hv
  obtain ⟨s₁', r', hspace', hspells', hend'⟩ := hw
  have hread := hspells.readValue (Nat.le_max_left v.depth w.depth) (hend.endsNumber .nil)
  have hread' := hspells'.readValue (Nat.le_max_right v.depth w.depth) (hend'.endsNumber .nil)
  rw [← hspace.readValue] at hread
  rw [← hspace'.readValue, hread] at hread'
  exact (Prod.mk.inj (Except.ok.inj hread')).1

/-- **The reader reads what the grammar spells, and nothing else**, as deep as it goes. -/
theorem parse_eq_ok_iff {s : List Char} {v : Value} :
    parse s = .ok v ↔ SpellsText s v ∧ v.depth ≤ depthLimit := by
  constructor
  · intro h
    obtain ⟨⟨v', r⟩, hv, hafter⟩ := bind_eq_ok_iff.mp h
    obtain ⟨u, hend, hresult⟩ := bind_eq_ok_iff.mp hafter
    cases hresult
    obtain ⟨hdepth, s', hspace, hspells⟩ := spells_of_readValue depthLimit hv
    exact ⟨⟨s', r, hspace, hspells, expectEnd_eq_ok.mp hend⟩, hdepth⟩
  · rintro ⟨⟨s', r, hspace, hspells, hend⟩, hdepth⟩
    rw [parse, hspace.readValue, hspells.readValue hdepth (hend.endsNumber .nil)]
    simp only [ok_bind]
    rw [expectEnd_eq_ok.mpr hend]
    rfl

end ExamPress.Json
