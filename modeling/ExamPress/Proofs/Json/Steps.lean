import ExamPress.Json.Reader
import ExamPress.Proofs.Json.RoundTrip
import ExamPress.Proofs.Success

/-!
# What the loops over lists and objects can do

A reader that went well took spaces, and then one of a few ways.  For the loops over the items of a
list and the entries of an object those ways are told here, once for each loop and for any reader of
items or entries, so that no proof about them has to walk through their matches again.  Everything
that is said of a loop is an equivalence: the loop goes that way, and what goes that way is taken.

## What is here

* `Spaces` — nothing but spaces before what comes next;
* `MoreItems`, `Items`, `MoreMembers`, `Members` — the ways the loops can go;
* `readMoreItems_eq_ok`, `readItems_eq_ok`, `readMoreMembers_eq_ok`, `readMembers_eq_ok` — the
  loops go these ways and no others;
* `readColon_eq_ok`, `readEntry_eq_ok`, `readWord_eq_ok`, `expectEnd_eq_ok` — the same for what has
  one way only;
* `readMembers_foldlM` — an object read into a result is read entry for entry.
-/

set_option autoImplicit false

namespace ExamPress.Json

/-! ## Spaces -/

/-- **`Spaces s r`** — there is nothing but spaces in `s` before `r`. -/
inductive Spaces : List Char → List Char → Prop
  | nil {s : List Char} : Spaces s s
  | cons {c : Char} {s r : List Char} (h : isSpace c = true) (more : Spaces s r) : Spaces (c :: s) r

theorem spaces_skipBlanks (s : List Char) : Spaces s (skipBlanks s) := by
  induction s with
  | nil => exact .nil
  | cons c s ih =>
    cases h : isSpace c with
    | true =>
      rw [skipBlanks, List.dropWhile_cons_of_pos h]
      exact .cons h ih
    | false =>
      rw [skipBlanks_cons h]
      exact .nil

theorem isSpace_of_skipBlanks {s r : List Char} {c : Char} (h : skipBlanks s = c :: r) :
    isSpace c = false := by
  have hhead := List.head?_dropWhile_not isSpace s
  rw [← skipBlanks, h] at hhead
  simpa using hhead

theorem Spaces.skipBlanks_eq {s r : List Char} (h : Spaces s r) : skipBlanks s = skipBlanks r := by
  induction h with
  | nil => rfl
  | cons hc _ ih => rw [← ih, skipBlanks, List.dropWhile_cons_of_pos hc, skipBlanks]

/-- Spaces end where something else begins. -/
theorem Spaces.skipBlanks_cons {s r : List Char} {c : Char} (h : Spaces s (c :: r))
    (hc : isSpace c = false) : skipBlanks s = c :: r :=
  h.skipBlanks_eq.trans (Json.skipBlanks_cons hc r)

theorem Spaces.trans {s s' r : List Char} (h : Spaces s s') (h' : Spaces s' r) : Spaces s r := by
  induction h with
  | nil => exact h'
  | cons hc _ ih => exact .cons hc (ih h')

theorem Spaces.length_le {s r : List Char} (h : Spaces s r) : r.length ≤ s.length := by
  induction h with
  | nil => exact Nat.le_refl _
  | cons _ _ ih => exact Nat.le_succ_of_le ih

/-- A value begins after the spaces. -/
theorem Spaces.readNested {s s' : List Char} (h : Spaces s s') (inner : Option (Reader Value)) :
    readNested inner s = readNested inner s' := by
  rw [Json.readNested, Json.readNested, h.skipBlanks_eq]

theorem Spaces.readValue {s s' : List Char} (h : Spaces s s') (d : Nat) :
    readValue d s = readValue d s' := by
  cases d <;> exact h.readNested _

/-! ## Lists -/

section

variable {α : Type} {item : Reader α} {s r : List Char} {xs : List α}

/-- **The ways after an item**: the list ends, or a comma and another item follow. -/
inductive MoreItems (item : Reader α) (fuel : Nat) : List Char → List α → List Char → Prop
  | close {s r : List Char} (h : Spaces s (']' :: r)) : MoreItems item fuel s [] r
  | next {s s₁ s₂ s₃ r : List Char} {c : Char} {x : α} {xs : List α}
      (comma : Spaces s (',' :: s₁)) (space : Spaces s₁ (c :: s₂)) (first : isSpace c = false)
      (bracket : c ≠ ']') (next : item (c :: s₂) = .ok (x, s₃))
      (more : readMoreItems item fuel s₃ = .ok (xs, r)) : MoreItems item fuel s (x :: xs) r

theorem readMoreItems_eq_ok {fuel : Nat} :
    readMoreItems item (fuel + 1) s = .ok (xs, r) ↔ MoreItems item fuel s xs r := by
  constructor
  · intro h
    have hspace := spaces_skipBlanks s
    rw [readMoreItems] at h
    generalize skipBlanks s = s' at h hspace
    split at h
    · cases h
    · cases h
      exact .close hspace
    · next s' =>
      have hinner := spaces_skipBlanks s'
      have hfirst {c : Char} {t : List Char} := isSpace_of_skipBlanks (s := s') (c := c) (r := t)
      generalize skipBlanks s' = s'' at h hinner hfirst
      split at h
      · cases h
      · cases h
      · next hnil hbracket =>
        obtain ⟨⟨x, s₃⟩, hx, hafter⟩ := bind_eq_ok_iff.mp h
        obtain ⟨⟨xs', r'⟩, hmore, hend⟩ := bind_eq_ok_iff.mp hafter
        cases hend
        cases s'' with
        | nil => exact absurd rfl hnil
        | cons c s₂ =>
          exact .next hspace hinner (hfirst rfl) (fun hc => hbracket s₂ (by rw [hc])) hx hmore
    · cases h
  · intro h
    cases h with
    | close h => rw [readMoreItems, h.skipBlanks_cons (by decide)]; rfl
    | next comma space first bracket next more =>
      rw [readMoreItems, comma.skipBlanks_cons (by decide)]
      simp only [space.skipBlanks_cons first]
      split
      · next he => exact absurd he (List.cons_ne_nil _ _)
      · next he => exact absurd (List.cons.inj he).1 bracket
      · simp only [next, ok_bind, more]

/-- **The ways after an opening bracket**: the list is empty, or an item follows. -/
inductive Items (item : Reader α) : List Char → List α → List Char → Prop
  | close {s r : List Char} (h : Spaces s (']' :: r)) : Items item s [] r
  | first {s s₁ s₂ r : List Char} {c : Char} {x : α} {xs : List α} (space : Spaces s (c :: s₁))
      (first : isSpace c = false) (bracket : c ≠ ']') (next : item (c :: s₁) = .ok (x, s₂))
      (more : readMoreItems item (s₂.length + 1) s₂ = .ok (xs, r)) : Items item s (x :: xs) r

theorem readItems_eq_ok : readItems item s = .ok (xs, r) ↔ Items item s xs r := by
  constructor
  · intro h
    have hspace := spaces_skipBlanks s
    have hfirst {c : Char} {t : List Char} := isSpace_of_skipBlanks (s := s) (c := c) (r := t)
    rw [readItems] at h
    generalize skipBlanks s = s' at h hspace hfirst
    split at h
    · cases h
    · cases h
      exact .close hspace
    · next hnil hbracket =>
      obtain ⟨⟨x, s₂⟩, hx, hafter⟩ := bind_eq_ok_iff.mp h
      obtain ⟨⟨xs', r'⟩, hmore, hend⟩ := bind_eq_ok_iff.mp hafter
      cases hend
      cases s' with
      | nil => exact absurd rfl hnil
      | cons c s₁ =>
        exact .first hspace (hfirst rfl) (fun hc => hbracket s₁ (by rw [hc])) hx hmore
  · intro h
    cases h with
    | close h => rw [readItems, h.skipBlanks_cons (by decide)]; rfl
    | first space first bracket next more =>
      rw [readItems, space.skipBlanks_cons first]
      split
      · next he => exact absurd he (List.cons_ne_nil _ _)
      · next he => exact absurd (List.cons.inj he).1 bracket
      · simp only [next, ok_bind, more]

end

/-! ## Objects -/

section

variable {σ ε : Type} {fault : Fault → ε}
  {entry : σ → String → List Char → Except ε (σ × List Char)} {start acc : σ} {s r : List Char}

/-- **The ways after an entry**: the object ends, or a comma and another entry follow. -/
inductive MoreMembers (fault : Fault → ε)
    (entry : σ → String → List Char → Except ε (σ × List Char)) (fuel : Nat) (start : σ) :
    List Char → σ → List Char → Prop
  | close {s r : List Char} (h : Spaces s ('\x7d' :: r)) :
      MoreMembers fault entry fuel start s start r
  | next {s s₁ s₂ s₃ s₄ r : List Char} {key : String} {now acc : σ} (comma : Spaces s (',' :: s₁))
      (quote : Spaces s₁ ('"' :: s₂)) (chars : readString s₂ = .ok (key, s₃))
      (next : entry start key s₃ = .ok (now, s₄))
      (more : readMoreMembers fault entry fuel now s₄ = .ok (acc, r)) :
      MoreMembers fault entry fuel start s acc r

theorem readMoreMembers_eq_ok {fuel : Nat} :
    readMoreMembers fault entry (fuel + 1) start s = .ok (acc, r) ↔
      MoreMembers fault entry fuel start s acc r := by
  constructor
  · intro h
    have hspace := spaces_skipBlanks s
    rw [readMoreMembers] at h
    generalize skipBlanks s = s' at h hspace
    split at h
    · cases h
    · cases h
      exact .close hspace
    · next s' =>
      have hinner := spaces_skipBlanks s'
      generalize skipBlanks s' = s'' at h hinner
      split at h
      · cases h
      · cases h
      · obtain ⟨⟨key, s₃⟩, hkey, hafter⟩ := bind_eq_ok_iff.mp h
        obtain ⟨⟨now, s₄⟩, hentry, hmore⟩ := bind_eq_ok_iff.mp hafter
        exact .next hspace hinner (mapError_eq_ok_iff.mp hkey) hentry hmore
      · cases h
    · cases h
  · intro h
    cases h with
    | close h => rw [readMoreMembers, h.skipBlanks_cons (by decide)]; rfl
    | next comma quote chars next more =>
      rw [readMoreMembers, comma.skipBlanks_cons (by decide)]
      simp only [quote.skipBlanks_cons (by decide), chars]
      exact bind_eq_ok_iff.mpr ⟨_, rfl, bind_eq_ok_iff.mpr ⟨_, next, more⟩⟩

/-- **The ways after an opening brace**: the object is empty, or an entry follows. -/
inductive Members (fault : Fault → ε)
    (entry : σ → String → List Char → Except ε (σ × List Char)) (start : σ) :
    List Char → σ → List Char → Prop
  | close {s r : List Char} (h : Spaces s ('\x7d' :: r)) : Members fault entry start s start r
  | first {s s₁ s₂ s₃ r : List Char} {key : String} {now acc : σ} (quote : Spaces s ('"' :: s₁))
      (chars : readString s₁ = .ok (key, s₂)) (next : entry start key s₂ = .ok (now, s₃))
      (more : readMoreMembers fault entry (s₃.length + 1) now s₃ = .ok (acc, r)) :
      Members fault entry start s acc r

theorem readMembers_eq_ok :
    readMembers fault entry start s = .ok (acc, r) ↔ Members fault entry start s acc r := by
  constructor
  · intro h
    have hspace := spaces_skipBlanks s
    rw [readMembers] at h
    generalize skipBlanks s = s' at h hspace
    split at h
    · cases h
    · cases h
      exact .close hspace
    · obtain ⟨⟨key, s₂⟩, hkey, hafter⟩ := bind_eq_ok_iff.mp h
      obtain ⟨⟨now, s₃⟩, hentry, hmore⟩ := bind_eq_ok_iff.mp hafter
      exact .first hspace (mapError_eq_ok_iff.mp hkey) hentry hmore
    · cases h
  · intro h
    cases h with
    | close h => rw [readMembers, h.skipBlanks_cons (by decide)]; rfl
    | first quote chars next more =>
      rw [readMembers, quote.skipBlanks_cons (by decide)]
      simp only [chars]
      exact bind_eq_ok_iff.mpr ⟨_, rfl, bind_eq_ok_iff.mpr ⟨_, next, more⟩⟩

end

/-! ## What has one way only -/

theorem readColon_eq_ok {s r : List Char} : readColon s = .ok ((), r) ↔ Spaces s (':' :: r) := by
  constructor
  · intro h
    have hspace := spaces_skipBlanks s
    rw [readColon] at h
    generalize skipBlanks s = s' at h hspace
    split at h
    · cases h
    · cases h
      exact hspace
    · cases h
  · intro h
    rw [readColon, h.skipBlanks_cons (by decide)]; rfl

/-- An entry is added at the end. -/
theorem readEntry_eq_ok {value : Reader Value} {acc acc' : List (String × Value)} {key : String}
    {s r : List Char} :
    readEntry value acc key s = .ok (acc', r) ↔
      ∃ s₁ v, Spaces s (':' :: s₁) ∧ value s₁ = .ok (v, r) ∧ acc ++ [(key, v)] = acc' := by
  rw [readEntry, bind_eq_ok_iff]
  constructor
  · rintro ⟨⟨u, s₁⟩, hcolon, hafter⟩
    obtain ⟨⟨v, r'⟩, hv, hend⟩ := bind_eq_ok_iff.mp hafter
    cases hend
    exact ⟨s₁, v, readColon_eq_ok.mp hcolon, hv, rfl⟩
  · rintro ⟨s₁, v, hcolon, hv, rfl⟩
    exact ⟨((), s₁), readColon_eq_ok.mpr hcolon, bind_eq_ok_iff.mpr ⟨(v, r), hv, rfl⟩⟩

/-! ## Entry by entry -/

/-- What is read of an object is added at the end. -/
theorem prefix_of_readMoreMembers {value : Reader Value} {fuel : Nat}
    {acc acc' : List (String × Value)} {s r : List Char}
    (h : readMoreMembers id (readEntry value) fuel acc s = .ok (acc', r)) : acc <+: acc' := by
  induction fuel generalizing acc s with
  | zero => cases h
  | succ fuel ih =>
    cases readMoreMembers_eq_ok.mp h with
    | close => exact List.prefix_rfl
    | next _ _ _ next more =>
      obtain ⟨_, v, -, -, rfl⟩ := readEntry_eq_ok.mp next
      exact (List.prefix_append acc [_]).trans (ih more)

section

variable {σ ε : Type} {fault : Fault → ε}
  {entry : σ → String → List Char → Except ε (σ × List Char)} {value : Reader Value}
  {step : σ → String × Value → Option σ}

/-- **`ReadsThen entry value step`** — an entry is read as its value is, and then taken by a step
that looks at nothing but the key and the value. -/
def ReadsThen (entry : σ → String → List Char → Except ε (σ × List Char)) (value : Reader Value)
    (step : σ → String × Value → Option σ) : Prop :=
  ∀ ⦃start : σ⦄ ⦃key : String⦄ ⦃s : List Char⦄ ⦃acc : σ⦄ ⦃r : List Char⦄,
    entry start key s = .ok (acc, r) ↔
      ∃ s₁ v, Spaces s (':' :: s₁) ∧ value s₁ = .ok (v, r) ∧ step start (key, v) = some acc

/-- Reading entries into a result is reading them all and then taking them one after another. -/
theorem readMoreMembers_foldlM (hentry : ReadsThen entry value step) {fuel : Nat} {start acc : σ}
    {before : List (String × Value)} {s r : List Char} :
    readMoreMembers fault entry fuel start s = .ok (acc, r) ↔
      ∃ entries, readMoreMembers id (readEntry value) fuel before s = .ok (before ++ entries, r) ∧
        entries.foldlM step start = some acc := by
  induction fuel generalizing start before s with
  | zero => exact ⟨fun h => (by cases h), fun ⟨_, h, _⟩ => (by cases h)⟩
  | succ fuel ih =>
    constructor
    · intro h
      cases readMoreMembers_eq_ok.mp h with
      | close h =>
        exact ⟨[], by rw [List.append_nil]; exact readMoreMembers_eq_ok.mpr (.close h), rfl⟩
      | next comma quote chars next more =>
        obtain ⟨s₁, v, hcolon, hv, hstep⟩ := hentry.mp next
        obtain ⟨entries, hmore, hfold⟩ := ih.mp more
        refine ⟨(_, v) :: entries, ?_, by rw [List.foldlM_cons, hstep]; exact hfold⟩
        rw [List.append_cons]
        exact readMoreMembers_eq_ok.mpr
          (.next comma quote chars (readEntry_eq_ok.mpr ⟨s₁, v, hcolon, hv, rfl⟩) hmore)
    · rintro ⟨entries, h, hfold⟩
      generalize hall : before ++ entries = all at h
      cases readMoreMembers_eq_ok.mp h with
      | close h =>
        rw [List.append_right_eq_self.mp hall] at hfold
        cases hfold
        exact readMoreMembers_eq_ok.mpr (.close h)
      | next comma quote chars next more =>
        obtain ⟨s₁, v, hcolon, hv, rfl⟩ := readEntry_eq_ok.mp next
        obtain ⟨rest, rfl⟩ := prefix_of_readMoreMembers more
        rw [List.append_assoc, List.append_cancel_left_eq] at hall
        subst hall
        obtain ⟨now, hstep, hfold⟩ := Option.bind_eq_some_iff.mp hfold
        exact readMoreMembers_eq_ok.mpr (.next comma quote chars
          (hentry.mpr ⟨s₁, v, hcolon, hv, hstep⟩) (ih.mpr ⟨rest, more, hfold⟩))

/-- **An object is read into a result** as it is read entry for entry, and the entries are taken
one after another. -/
theorem readMembers_foldlM (hentry : ReadsThen entry value step) {start acc : σ}
    {s r : List Char} :
    readMembers fault entry start s = .ok (acc, r) ↔
      ∃ entries, readMembers id (readEntry value) [] s = .ok (entries, r) ∧
        entries.foldlM step start = some acc := by
  constructor
  · intro h
    cases readMembers_eq_ok.mp h with
    | close h => exact ⟨[], readMembers_eq_ok.mpr (.close h), rfl⟩
    | first quote chars next more =>
      obtain ⟨s₁, v, hcolon, hv, hstep⟩ := hentry.mp next
      obtain ⟨entries, hmore, hfold⟩ := (readMoreMembers_foldlM hentry).mp more
      exact ⟨(_, v) :: entries, readMembers_eq_ok.mpr
        (.first quote chars (readEntry_eq_ok.mpr ⟨s₁, v, hcolon, hv, rfl⟩) hmore),
        by rw [List.foldlM_cons, hstep]; exact hfold⟩
  · rintro ⟨entries, h, hfold⟩
    cases readMembers_eq_ok.mp h with
    | close h =>
      cases hfold
      exact readMembers_eq_ok.mpr (.close h)
    | first quote chars next more =>
      obtain ⟨s₁, v, hcolon, hv, rfl⟩ := readEntry_eq_ok.mp next
      obtain ⟨rest, rfl⟩ := prefix_of_readMoreMembers more
      obtain ⟨now, hstep, hfold⟩ := Option.bind_eq_some_iff.mp hfold
      exact readMembers_eq_ok.mpr (.first quote chars (hentry.mpr ⟨s₁, v, hcolon, hv, hstep⟩)
        ((readMoreMembers_foldlM hentry).mpr ⟨rest, more, hfold⟩))

end

/-! ## Words and the end -/

theorem readWord_eq_ok {α : Type} {x y : α} {word s r : List Char} :
    readWord x word s = .ok (y, r) ↔ s = word ++ r ∧ x = y := by
  induction word generalizing s with
  | nil => simp [readWord, and_comm]
  | cons w word ih =>
    cases s with
    | nil => simp [readWord]
    | cons c s =>
      rw [readWord]
      by_cases hc : c = w
      · rw [if_pos hc, ih, hc, List.cons_append, List.cons.injEq, eq_self, true_and]
      · simp [hc]

theorem expectEnd_eq_ok {s : List Char} : expectEnd s = .ok () ↔ Spaces s [] := by
  have hspace := spaces_skipBlanks s
  rw [expectEnd]
  constructor
  · intro h
    generalize skipBlanks s = s' at h hspace
    split at h
    · exact hspace
    · cases h
  · intro h
    rw [h.skipBlanks_eq]
    rfl

end ExamPress.Json
