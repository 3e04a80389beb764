import ExamPress.Proofs.Text.Trimmed
import ExamPress.Selection
import Mathlib.Data.List.Forall2
import Mathlib.Data.List.ReduceOption
import Mathlib.Data.Nat.Init

/-!
# Reading a selection

A selection is read from a text of ids between commas.  What such a text may be is said here part
by part, with no reader: a part is blank, or it holds a numeral with blanks around it; a numeral is
decimal digits behind at most one sign, and its value has to be an id.  Any other part spoils the
whole text.  The ids of the parts, one after the other, make the selection, and an id counts where
it comes first, however it is spelled.

Writing is the same with one numeral for each id.  So the ids of a selection, written between
commas, are read back as the selection, whatever blanks and blank parts are added.

## What is here

* `Number.Numeral`, `Number.readInt?_eq_some_iff` — the numerals, and that just these are read;
* `Selection.IdPart`, `Selection.Reads`, `Selection.Writes` — a part between commas, as it is read
  and as it is written;
* `Selection.mapM_readInt64?_iff` — the ids of a list of parts;
* `firstOccurrences_eq_eraseDups` — each id where it comes first;
* `Selection.parse_readsIds` — the theorem.
-/

set_option autoImplicit false

namespace ExamPress

open Text (allBlank Around IsTrimmed)

/-! ## Numerals -/

namespace Number

/-- One or more decimal digits. -/
def IsDigits (s : List Char) : Prop := s ≠ [] ∧ s.all Char.isDigit = true

/-- **A numeral and its value**: digits, behind at most one sign. -/
inductive Numeral : List Char → Int → Prop
  | plain {digits : List Char} (h : IsDigits digits) :
    Numeral digits (Nat.ofDigitChars 10 digits 0)
  | plus {digits : List Char} (h : IsDigits digits) :
    Numeral ('+' :: digits) (Nat.ofDigitChars 10 digits 0)
  | minus {digits : List Char} (h : IsDigits digits) :
    Numeral ('-' :: digits) (-(Nat.ofDigitChars 10 digits 0 : Nat))

theorem digitsValue?_eq_some_iff {s : List Char} {n : Nat} :
    digitsValue? s = some n ↔ IsDigits s ∧ Nat.ofDigitChars 10 s 0 = n := by
  rw [digitsValue?, Option.ite_none_right_eq_some, Option.some.injEq, IsDigits]

theorem readInt?_plus (s : List Char) : readInt? ('+' :: s) = (digitsValue? s).map Int.ofNat := rfl

theorem readInt?_minus (s : List Char) :
    readInt? ('-' :: s) = (digitsValue? s).map fun n : Nat => -(n : Int) := by
  rw [readInt?]
  cases digitsValue? s <;> rfl

/-- **Just the numerals are read**, each as its value. -/
theorem readInt?_eq_some_iff {w : List Char} {n : Int} :
    readInt? w = some n ↔ Numeral w n := by
  constructor
  · intro h
    rw [readInt?.eq_def] at h
    split at h
    · obtain ⟨m, hm, rfl⟩ := Option.map_eq_some_iff.mp h
      obtain ⟨hdigits, rfl⟩ := digitsValue?_eq_some_iff.mp hm
      exact .plus hdigits
    · next s =>
      obtain ⟨m, hm, rfl⟩ := Option.map_eq_some_iff.mp ((readInt?_minus s).symm.trans h)
      obtain ⟨hdigits, rfl⟩ := digitsValue?_eq_some_iff.mp hm
      exact .minus hdigits
    · obtain ⟨m, hm, rfl⟩ := Option.map_eq_some_iff.mp h
      obtain ⟨hdigits, rfl⟩ := digitsValue?_eq_some_iff.mp hm
      exact .plain hdigits
  · intro h
    cases h with
    | plain h => exact readInt?_of_digitsValue? (digitsValue?_eq_some_iff.mpr ⟨h, rfl⟩)
    | plus h =>
      rw [readInt?_plus, digitsValue?_eq_some_iff.mpr ⟨h, rfl⟩]
      rfl
    | minus h =>
      rw [readInt?_minus, digitsValue?_eq_some_iff.mpr ⟨h, rfl⟩]
      rfl

/-- What is in the range is the value of an id. -/
theorem toInt_ofInt_of_mem_range {n : Int}
    (h : Int64.minValue.toInt ≤ n ∧ n ≤ Int64.maxValue.toInt) : (Int64.ofInt n).toInt = n := by
  rw [Int64.toInt_minValue, Int64.toInt_maxValue] at h
  exact Int64.toInt_ofInt_of_le h.1 (by omega)

/-- A numeral is read as an id if its value is one. -/
theorem readInt64?_eq_some_iff {w : List Char} {id : QuestionId} :
    readInt64? w = some id ↔ Numeral w id.toInt := by
  rw [← readInt?_eq_some_iff, readInt64?, Option.bind_eq_some_iff]
  constructor
  · rintro ⟨n, hread, h⟩
    obtain ⟨hrange, hid⟩ := Option.ite_none_right_eq_some.mp h
    rw [hread, ← Option.some.inj hid, toInt_ofInt_of_mem_range hrange]
  · intro hread
    exact ⟨_, hread, by rw [if_pos ⟨id.minValue_le_toInt, id.toInt_le⟩, Int64.ofInt_toInt]⟩

namespace Numeral

variable {w : List Char} {n : Int}

theorem ne_nil (h : Numeral w n) : w ≠ [] := by
  cases h with
  | plain h => exact h.1
  | plus h | minus h => exact List.cons_ne_nil _ _

/-- There is no blank in a numeral. -/
theorem isTrimmed (h : Numeral w n) : IsTrimmed w := by
  have hdigits {s : List Char} (hs : IsDigits s) : ∀ c ∈ s, Text.isBlank c = false :=
    fun c hc => Text.isBlank_of_isDigit (List.all_eq_true.mp hs.2 c hc)
  refine .of_forall ?_
  cases h with
  | plain h => exact hdigits h
  | plus h | minus h => exact List.forall_mem_cons.mpr ⟨by decide, hdigits h⟩

end Numeral

end Number

open Number (Numeral)

/-! ## Each id where it comes first -/

theorem firstOccurrences_filter (p : QuestionId → Bool) (ids : List QuestionId) :
    firstOccurrences (ids.filter p) = (firstOccurrences ids).filter p := by
  induction ids with
  | nil => rfl
  | cons id ids ih =>
    by_cases h : p id = true
    · rw [List.filter_cons_of_pos h, firstOccurrences, firstOccurrences, ih,
        List.filter_cons_of_pos h, List.filter_filter, List.filter_filter]
      exact congrArg _ (List.filter_congr fun i _ => Bool.and_comm _ _)
    · rw [List.filter_cons_of_neg h, firstOccurrences, ih, List.filter_cons_of_neg h,
        List.filter_filter]
      refine List.filter_congr fun i _ => ?_
      by_cases hi : i = id <;> simp [hi, h]

/-- **Each id where it comes first** is what the library leaves when it erases duplicates. -/
theorem firstOccurrences_eq_eraseDups (ids : List QuestionId) :
    firstOccurrences ids = ids.eraseDups := by
  -- the library looks for duplicates in a list from which the first id is gone already
  induction hn : ids.length using Nat.strong_induction_on generalizing ids with
  | _ n ih =>
    cases ids with
    | nil => rfl
    | cons id ids =>
      have hothers : (ids.filter fun i => !i == id) = ids.filter (· ≠ id) :=
        List.filter_congr fun i _ => by by_cases hi : i = id <;> simp [hi]
      have hshorter : (ids.filter (· ≠ id)).length < n :=
        hn ▸ Nat.lt_succ_of_le (List.length_filter_le _ _)
      rw [firstOccurrences, List.eraseDups_cons, hothers, ← ih _ hshorter _ rfl,
        firstOccurrences_filter]

theorem firstOccurrences_eq_self {ids : List QuestionId} (h : ids.Nodup) :
    firstOccurrences ids = ids := by
  induction ids with
  | nil => rfl
  | cons id ids ih =>
    obtain ⟨hnot, hrest⟩ := List.nodup_cons.mp h
    have hothers : ids.filter (· ≠ id) = ids :=
      List.filter_eq_self.mpr fun i hi => by simpa using fun heq : i = id => hnot (heq ▸ hi)
    rw [firstOccurrences, ih hrest, hothers]

/-! ## Parts between commas -/

/-- Each of some things can be given a partner when all of them can at once. -/
theorem exists_forall₂_iff {α β : Type} {r : α → β → Prop} {as : List α} :
    (∃ bs, List.Forall₂ r as bs) ↔ ∀ a ∈ as, ∃ b, r a b := by
  induction as with
  | nil => exact iff_of_true ⟨[], .nil⟩ nofun
  | cons a as ih =>
    rw [List.forall_mem_cons, ← ih]
    constructor
    · rintro ⟨_, _ | ⟨hb, hbs⟩⟩
      exact ⟨⟨_, hb⟩, ⟨_, hbs⟩⟩
    · rintro ⟨⟨b, hb⟩, ⟨bs, hbs⟩⟩
      exact ⟨b :: bs, .cons hb hbs⟩

namespace Selection

/-- **A part between commas**, and the id that is in it, where it is given how ids are spelled: the
part is blank, or an id is spelled in it with blanks around. -/
inductive IdPart (Spells : List Char → QuestionId → Prop) : List Char → Option QuestionId → Prop
  | blank {part : List Char} (h : allBlank part = true) : IdPart Spells part none
  | id {part w : List Char} {id : QuestionId} (hw : Spells w id) (h : Around w part) :
    IdPart Spells part (some id)

/-- An id is read from any numeral whose value it is. -/
def Reads (w : List Char) (id : QuestionId) : Prop := Numeral w id.toInt

/-- An id is written in decimal, with a sign only if it is negative. -/
def Writes (w : List Char) (id : QuestionId) : Prop := w = Number.intText id.toInt

/-- What is written is read. -/
theorem Writes.reads {w : List Char} {id : QuestionId} (h : Writes w id) : Reads w id :=
  Number.readInt?_eq_some_iff.mp (h ▸ Number.readInt?_intText id.toInt)

variable {part : List Char} {said : Option QuestionId}

theorem IdPart.reads (h : IdPart Writes part said) : IdPart Reads part said := by
  cases h with
  | blank h => exact .blank h
  | id hw h => exact .id hw.reads h

/-- There is no comma in a part that is written. -/
theorem IdPart.comma_not_mem (h : IdPart Writes part said) : ',' ∉ part := by
  have hblanks {s : List Char} (hs : allBlank s = true) : ',' ∉ s := fun hmem =>
    absurd (List.all_eq_true.mp hs _ hmem) (by decide)
  cases h with
  | blank h => exact hblanks h
  | id hw haround =>
    obtain ⟨before, after, hbefore, hafter, rfl⟩ := haround
    obtain rfl := hw
    simp only [List.mem_append, not_or]
    exact ⟨⟨hblanks hbefore, Number.not_mem_intText (by decide) (by decide) _⟩, hblanks hafter⟩

/-- Nothing is read from a blank part. -/
theorem idPart_reads_iff_of_blank (h : Text.trim part = []) :
    IdPart Reads part said ↔ said = none := by
  constructor
  · rintro (_ | ⟨hw, haround⟩)
    · rfl
    · exact absurd (haround.trim_eq hw.isTrimmed ▸ h) hw.ne_nil
  · rintro rfl
    exact .blank ((Text.trim_eq_nil_iff part).mp h)

/-- From any other part an id is read, if there is a numeral of one in it. -/
theorem idPart_reads_iff_of_not_blank (h : Text.trim part ≠ []) :
    IdPart Reads part said ↔
      ∃ id, said = some id ∧ Number.readInt64? (Text.trim part) = some id := by
  constructor
  · rintro (hblank | ⟨hw, haround⟩)
    · exact absurd ((Text.trim_eq_nil_iff part).mpr hblank) h
    · refine ⟨_, rfl, Number.readInt64?_eq_some_iff.mpr ?_⟩
      rwa [haround.trim_eq hw.isTrimmed]
  · rintro ⟨id, rfl, hread⟩
    exact .id (Number.readInt64?_eq_some_iff.mp hread) (Text.around_trim part)

/-- **When a part can be read**: it is blank, or it holds a numeral in the range of the ids. -/
theorem exists_idPart_reads_iff : (∃ said, IdPart Reads part said) ↔
    allBlank part = true ∨
      ∃ w n, Around w part ∧ Numeral w n ∧
        Int64.minValue.toInt ≤ n ∧ n ≤ Int64.maxValue.toInt := by
  constructor
  · rintro ⟨_, hblank | ⟨hw, haround⟩⟩
    · exact .inl hblank
    · exact .inr ⟨_, _, haround, hw, Int64.minValue_le_toInt _, Int64.toInt_le _⟩
  · rintro (hblank | ⟨w, n, haround, hw, hrange⟩)
    · exact ⟨none, .blank hblank⟩
    · refine ⟨some (Int64.ofInt n), .id (w := w) ?_ haround⟩
      rwa [Reads, Number.toInt_ofInt_of_mem_range hrange]

/-- **The ids of a list of parts** are those that are read from the parts that are not blank. -/
theorem mapM_readInt64?_iff {parts : List (List Char)} {ids : List QuestionId} :
    ((parts.map Text.trim).filter (· ≠ [])).mapM Number.readInt64? = some ids ↔
      ∃ found, List.Forall₂ (IdPart Reads) parts found ∧ found.reduceOption = ids := by
  induction parts generalizing ids with
  | nil => simp [List.forall₂_nil_left_iff, eq_comm]
  | cons part parts ih =>
    rw [List.map_cons]
    by_cases h : Text.trim part = []
    · rw [List.filter_cons_of_neg (by simpa using h), ih]
      simp only [List.forall₂_cons_left_iff, idPart_reads_iff_of_blank h]
      constructor
      · rintro ⟨found, hfound, rfl⟩
        exact ⟨_, ⟨none, found, rfl, hfound, rfl⟩, rfl⟩
      · rintro ⟨_, ⟨_, found, rfl, hfound, rfl⟩, rfl⟩
        exact ⟨found, hfound, rfl⟩
    · rw [List.filter_cons_of_pos (by simpa using h), List.mapM_cons]
      simp only [List.forall₂_cons_left_iff, idPart_reads_iff_of_not_blank h]
      constructor
      · intro hread
        obtain ⟨id, hid, hread⟩ := Option.bind_eq_some_iff.mp hread
        obtain ⟨rest, hrest, hread⟩ := Option.bind_eq_some_iff.mp hread
        obtain ⟨found, hfound, rfl⟩ := ih.mp hrest
        obtain rfl := Option.some.inj hread
        exact ⟨_, ⟨some id, found, ⟨id, rfl, hid⟩, hfound, rfl⟩, rfl⟩
      · rintro ⟨_, ⟨_, found, ⟨id, rfl, hid⟩, hfound, rfl⟩, rfl⟩
        rw [hid, ih.mpr ⟨found, hfound, rfl⟩]
        rfl

/-! ## The theorem -/

/-- **Which selection is read from a text.** -/
theorem parse_eq_ok_iff {text : String} {s : Selection} :
    parse text = .ok s ↔
      ∃ found, List.Forall₂ (IdPart Reads) (text.toList.splitOn ',') found ∧
        s = ofIds found.reduceOption := by
  rw [parse, idTexts, Text.pieces_eq_splitOn]
  cases hread : (((text.toList.splitOn ',').map Text.trim).filter (· ≠ [])).mapM
      Number.readInt64? with
  | none =>
    refine iff_of_false (by simp) ?_
    rintro ⟨found, hfound, -⟩
    have hsome := mapM_readInt64?_iff.mpr ⟨found, hfound, rfl⟩
    cases hread.symm.trans hsome
  | some ids =>
    constructor
    · intro h
      obtain ⟨found, hfound, rfl⟩ := mapM_readInt64?_iff.mp hread
      exact ⟨found, hfound, (Except.ok.inj h).symm⟩
    · rintro ⟨found, hfound, rfl⟩
      have hsome := mapM_readInt64?_iff.mpr ⟨found, hfound, rfl⟩
      obtain rfl := Option.some.inj (hread.symm.trans hsome)
      rfl

theorem eq_of_parse_eq_error {text : String} {e : Unreadable} (h : parse text = .error e) :
    e = ⟨text⟩ := by
  rw [parse] at h
  split at h
  · cases h
  · exact (Except.error.inj h).symm

/-- A selection is that of some ids if its own are these, each where it comes first. -/
theorem eq_ofIds_iff {s : Selection} {ids : List QuestionId} :
    s = ofIds ids ↔ s.ids = ids.eraseDups := by
  obtain ⟨selected, hnodup⟩ := s
  rw [ofIds, mk.injEq, firstOccurrences_eq_eraseDups]

theorem ofIds_ids (s : Selection) : ofIds s.ids = s := by
  obtain ⟨ids, hnodup⟩ := s
  rw [ofIds, mk.injEq, firstOccurrences_eq_self hnodup]

/-- **Written parts are read back.** -/
theorem parse_intercalate {parts : List (List Char)} {found : List (Option QuestionId)}
    (h : List.Forall₂ (IdPart Writes) parts found) :
    parse (String.ofList ([','].intercalate parts)) = .ok (ofIds found.reduceOption) := by
  have hreads : List.Forall₂ (IdPart Reads) parts found := h.imp fun _ _ => IdPart.reads
  have hcomma : ∀ part ∈ parts, ',' ∉ part := fun part hpart =>
    let ⟨_, hsaid⟩ := exists_forall₂_iff.mp ⟨found, h⟩ part hpart
    hsaid.comma_not_mem
  rw [parse_eq_ok_iff, String.toList_ofList]
  cases parts with
  | nil =>
    -- the text without parts is cut into one part, which is blank
    obtain rfl := List.forall₂_nil_left_iff.mp h
    exact ⟨[none], .cons (.blank rfl) .nil, rfl⟩
  | cons part parts =>
    rw [List.splitOn_intercalate ',' hcomma (List.cons_ne_nil part parts)]
    exact ⟨found, hreads, rfl⟩

/-- **How a selection is read.**  A text can be read exactly when each part between its commas is
blank, or is a numeral in the range of the ids with blanks around it.  Then the ids are those of the
parts in order, each where it comes first; and if it cannot be read, the fault tells the whole text.
The ids of any selection, written in decimal between commas, are read back as the selection,
whatever blanks are put around them and blank parts between them. -/
theorem parse_readsIds (text : String) :
    ((∃ s, parse text = .ok s) ↔ ∀ part ∈ text.toList.splitOn ',',
      allBlank part = true ∨
        ∃ w n, Around w part ∧ Numeral w n ∧
          Int64.minValue.toInt ≤ n ∧ n ≤ Int64.maxValue.toInt) ∧
    (∀ s, parse text = .ok s ↔ ∃ found,
      List.Forall₂ (IdPart Reads) (text.toList.splitOn ',') found ∧
        s.ids = found.reduceOption.eraseDups) ∧
    (∀ e, parse text = .error e → e = ⟨text⟩) ∧
    ∀ (s : Selection) (parts : List (List Char)) (found : List (Option QuestionId)),
      List.Forall₂ (IdPart Writes) parts found → found.reduceOption = s.ids →
        parse (String.ofList ([','].intercalate parts)) = .ok s := by
  refine ⟨?_, fun s => ?_, fun e => eq_of_parse_eq_error, fun s parts found hparts hids => ?_⟩
  · simp only [← exists_idPart_reads_iff, ← exists_forall₂_iff, parse_eq_ok_iff]
    constructor
    · rintro ⟨s, found, hfound, -⟩
      exact ⟨found, hfound⟩
    · rintro ⟨found, hfound⟩
      exact ⟨_, found, hfound, rfl⟩
  · simp only [parse_eq_ok_iff, eq_ofIds_iff]
  · rw [parse_intercalate hparts, hids, ofIds_ids]

/-- The least id and another, written with a blank before, a blank behind, and a blank part
between. -/
theorem parse_readsIds_spaced :
    let parts := [" 5".toList, [], "-9223372036854775808 ".toList]
    let found := [some 5, none, some Int64.minValue]
    List.Forall₂ (IdPart Writes) parts found ∧
      found.reduceOption = (ofIds [5, Int64.minValue]).ids ∧
      parse (String.ofList ([','].intercalate parts)) = .ok (ofIds [5, Int64.minValue]) := by
  intro parts found
  have hparts : List.Forall₂ (IdPart Writes) parts found :=
    .cons (.id rfl ⟨[' '], [], rfl, rfl, by decide⟩) <| .cons (.blank rfl) <|
      .cons (.id rfl ⟨[], [' '], rfl, rfl, by decide⟩) .nil
  have hids : found.reduceOption = (ofIds [5, Int64.minValue]).ids := by decide
  obtain ⟨-, -, -, hwritten⟩ := parse_readsIds (String.ofList ([','].intercalate parts))
  exact ⟨hparts, hids, hwritten _ parts found hparts hids⟩

end Selection

end ExamPress
