import ExamPress.Document.Decode
import ExamPress.Proofs.Success

/-!
# Decoding by what is stored under a key

The decoders walk along the entries of an object and keep what they have met.  Here the same is told
without a walk: what an object decodes to depends only on the values that it stores under each of
its keys, where a key that is not stored takes its default and a key that is stored twice is
refused.  So neither the order of the entries matters, nor an entry under any other key.

A list stands for the object that stores its items under the keys of the fields in their order, as
far as the list goes.

## What is here

* `stored`, `Filled`, `fieldValue` — the values under a key, and what they make of a field;
* `decodeFormulaAttrs_object`, `decodeListAttrs_object`, `decodeNode_object` — attributes and nodes
  from objects, by what is stored under their keys;
* `decodeFormulaAttrs_array`, `decodeListAttrs_array`, `decodeNode_array` — the same from lists.
-/

set_option autoImplicit false

namespace ExamPress.Document

open ExamPress.Json (Value)

/-! ## What is stored under a key -/

/-- The values stored under a key. -/
def stored (key : String) (entries : List (String × Value)) : List Value :=
  (entries.filter (·.1 = key)).map (·.2)

@[simp] theorem stored_nil (key : String) : stored key [] = [] := rfl

theorem stored_cons_self (key : String) (v : Value) (entries : List (String × Value)) :
    stored key ((key, v) :: entries) = v :: stored key entries := by
  simp [stored]

theorem stored_cons_of_ne {key key' : String} (h : key' ≠ key) (v : Value)
    (entries : List (String × Value)) : stored key ((key', v) :: entries) = stored key entries := by
  simp [stored, h]

theorem stored_eq_nil {key : String} {entries : List (String × Value)}
    (h : key ∉ entries.map Prod.fst) : stored key entries = [] := by
  simp only [stored, List.map_eq_nil_iff, List.filter_eq_nil_iff, decide_eq_true_eq]
  rintro e he rfl
  exact h (List.mem_map_of_mem he)

theorem mem_stored {key : String} {v : Value} {entries : List (String × Value)} :
    v ∈ stored key entries ↔ (key, v) ∈ entries := by
  simp [stored]

theorem stored_perm {entries entries' : List (String × Value)} (h : entries.Perm entries')
    (key : String) : (stored key entries).Perm (stored key entries') :=
  (h.filter _).map _

/-! ## What a field makes of the values under its key -/

section

variable {α : Type} {decode : Value → Except Problem α} {values values' : List Value}

/-- **`Filled decode old values new`** — the field that was `old` is `new` after it met the values
one after another: each must decode, and none may come when there is one already. -/
def Filled (decode : Value → Except Problem α) (old : Option α) :
    List Value → Option α → Prop
  | [], new => new = old
  | v :: values, new => old = none ∧ ∃ x, decode v = .ok x ∧ Filled decode (some x) values new

/-- **The value of a field**: its default if nothing is stored, and what the only value stored
decodes to. -/
def fieldValue (decode : Value → Except Problem α) (default : α) : List Value → Option α
  | [] => some default
  | [v] => (decode v).toOption
  | _ => none

theorem filled_none_iff {new : Option α} :
    Filled decode none values new ↔
      (values = [] ∧ new = none) ∨ ∃ v x, values = [v] ∧ decode v = .ok x ∧ new = some x := by
  match values with
  | [] => simp [Filled]
  | [v] => simp [Filled]
  | v :: w :: values => simp [Filled]

theorem fieldValue_eq_some {default x : α} :
    fieldValue decode default values = some x ↔
      ∃ new, Filled decode none values new ∧ new.getD default = x := by
  match values with
  | [] => simp [fieldValue, Filled]
  | [v] =>
    rw [fieldValue, toOption_eq_some_iff]
    simp [Filled]
  | v :: w :: values => simp [fieldValue, Filled]

/-- A single value, or none, is in no order. -/
theorem fieldValue_perm (h : values.Perm values') (decode : Value → Except Problem α)
    (default : α) : fieldValue decode default values = fieldValue decode default values' := by
  match values, values' with
  | [], values' => rw [List.nil_perm.mp h]
  | [v], values' => rw [List.singleton_perm.mp h]
  | v :: w :: values, values' =>
    have hlength := h.length_eq
    match values' with
    | [] | [_] => simp at hlength
    | _ :: _ :: _ => rfl

theorem setOnce_eq_ok {name : String} {old new : Option α} {value : Except Problem α} :
    setOnce name old value = .ok new ↔ old = none ∧ ∃ x, value = .ok x ∧ new = some x := by
  cases old with
  | some x => simp [setOnce]
  | none =>
    rw [setOnce, map_eq_ok_iff]
    simp [eq_comm]

/-- One value more is met as the decoders meet it. -/
theorem filled_cons {old new : Option α} (name : String) (v : Value) :
    Filled decode old (v :: values) new ↔
      ∃ now, setOnce name old (decode v) = .ok now ∧ Filled decode now values new := by
  simp only [Filled, setOnce_eq_ok]
  constructor
  · rintro ⟨hold, x, hx, hmore⟩
    exact ⟨some x, ⟨hold, x, hx, rfl⟩, hmore⟩
  · rintro ⟨now, ⟨hold, x, hx, rfl⟩, hmore⟩
    exact ⟨hold, x, hx, hmore⟩

end

/-! ## Attributes -/

/-- The walk along the entries fills each attribute with what is stored under its key. -/
theorem decodeFormulaEntries_eq_ok {d d' : FormulaDraft} {entries : List (String × Value)} :
    decodeFormulaEntries d entries = .ok d' ↔
      Filled decodeCode d.code (stored "code" entries) d'.code ∧
        Filled decodeBool d.display (stored "display" entries) d'.display ∧
        Filled decodeBool d.formOpen (stored "formOpen" entries) d'.formOpen := by
  induction entries generalizing d with
  | nil =>
    obtain ⟨code, display, formOpen⟩ := d
    obtain ⟨code', display', formOpen'⟩ := d'
    simp only [decodeFormulaEntries, stored_nil, Filled, Except.ok.injEq, FormulaDraft.mk.injEq,
      eq_comm]
  | cons e entries ih =>
    obtain ⟨key, v⟩ := e
    rw [decodeFormulaEntries]
    by_cases hcode : key = "code"
    · subst hcode
      rw [if_pos rfl, stored_cons_self, stored_cons_of_ne (by decide),
        stored_cons_of_ne (by decide), filled_cons "code"]
      simp only [bind_eq_ok_iff, ih]
      exact ⟨fun ⟨now, h, hc, hd, ho⟩ => ⟨⟨now, h, hc⟩, hd, ho⟩,
        fun ⟨⟨now, h, hc⟩, hd, ho⟩ => ⟨now, h, hc, hd, ho⟩⟩
    by_cases hdisplay : key = "display"
    · subst hdisplay
      rw [if_neg (by decide), if_pos rfl, stored_cons_of_ne (by decide), stored_cons_self,
        stored_cons_of_ne (by decide), filled_cons "display"]
      simp only [bind_eq_ok_iff, ih]
      exact ⟨fun ⟨now, h, hc, hd, ho⟩ => ⟨hc, ⟨now, h, hd⟩, ho⟩,
        fun ⟨hc, ⟨now, h, hd⟩, ho⟩ => ⟨now, h, hc, hd, ho⟩⟩
    by_cases hopen : key = "formOpen"
    · subst hopen
      rw [if_neg (by decide), if_neg (by decide), if_pos rfl, stored_cons_of_ne (by decide),
        stored_cons_of_ne (by decide), stored_cons_self, filled_cons "formOpen"]
      simp only [bind_eq_ok_iff, ih]
      exact ⟨fun ⟨now, h, hc, hd, ho⟩ => ⟨hc, hd, now, h, ho⟩,
        fun ⟨hc, hd, now, h, ho⟩ => ⟨now, h, hc, hd, ho⟩⟩
    rw [if_neg hcode, if_neg hdisplay, if_neg hopen, ih, stored_cons_of_ne hcode,
      stored_cons_of_ne hdisplay, stored_cons_of_ne hopen]

theorem decodeListEntries_eq_ok {d d' : ListDraft} {entries : List (String × Value)} :
    decodeListEntries d entries = .ok d' ↔
      Filled decodeOrientation d.orientation (stored "orientation" entries) d'.orientation ∧
        Filled decodeColumns d.gridCols (stored "gridCols" entries) d'.gridCols := by
  induction entries generalizing d with
  | nil =>
    obtain ⟨orientation, gridCols⟩ := d
    obtain ⟨orientation', gridCols'⟩ := d'
    simp only [decodeListEntries, stored_nil, Filled, Except.ok.injEq, ListDraft.mk.injEq, eq_comm]
  | cons e entries ih =>
    obtain ⟨key, v⟩ := e
    rw [decodeListEntries]
    by_cases horientation : key = "orientation"
    · subst horientation
      rw [if_pos rfl, stored_cons_self, stored_cons_of_ne (by decide), filled_cons "orientation"]
      simp only [bind_eq_ok_iff, ih]
      exact ⟨fun ⟨now, h, ho, hg⟩ => ⟨⟨now, h, ho⟩, hg⟩, fun ⟨⟨now, h, ho⟩, hg⟩ => ⟨now, h, ho, hg⟩⟩
    by_cases hcols : key = "gridCols"
    · subst hcols
      rw [if_neg (by decide), if_pos rfl, stored_cons_of_ne (by decide), stored_cons_self,
        filled_cons "gridCols"]
      simp only [bind_eq_ok_iff, ih]
      exact ⟨fun ⟨now, h, ho, hg⟩ => ⟨ho, now, h, hg⟩, fun ⟨ho, now, h, hg⟩ => ⟨now, h, ho, hg⟩⟩
    rw [if_neg horientation, if_neg hcols, ih, stored_cons_of_ne horientation,
      stored_cons_of_ne hcols]

/-- **The attributes of a formula from an object.** -/
theorem decodeFormulaAttrs_object (entries : List (String × Value)) :
    (decodeFormulaAttrs (.object entries)).toOption = (do
      let code ← fieldValue decodeCode none (stored "code" entries)
      let display ← fieldValue decodeBool false (stored "display" entries)
      let formOpen ← fieldValue decodeBool false (stored "formOpen" entries)
      some ⟨code, display, formOpen⟩) := by
  ext attrs
  simp only [toOption_eq_some_iff, decodeFormulaAttrs, bind_eq_ok_iff, decodeFormulaEntries_eq_ok,
    Option.bind_eq_bind, Option.bind_eq_some_iff, fieldValue_eq_some, Except.ok.injEq,
    Option.some.injEq]
  constructor
  · rintro ⟨d, ⟨hcode, hdisplay, hopen⟩, rfl⟩
    exact ⟨_, ⟨_, hcode, rfl⟩, _, ⟨_, hdisplay, rfl⟩, _, ⟨_, hopen, rfl⟩, rfl⟩
  · rintro ⟨_, ⟨code, hcode, rfl⟩, _, ⟨display, hdisplay, rfl⟩, _, ⟨formOpen, hopen, rfl⟩, rfl⟩
    exact ⟨⟨code, display, formOpen⟩, ⟨hcode, hdisplay, hopen⟩, rfl⟩

/-- **The attributes of a list from an object.** -/
theorem decodeListAttrs_object (entries : List (String × Value)) :
    (decodeListAttrs (.object entries)).toOption = (do
      let orientation ← fieldValue decodeOrientation .horizontal (stored "orientation" entries)
      let gridCols ← fieldValue decodeColumns 2 (stored "gridCols" entries)
      some ⟨orientation, gridCols⟩) := by
  ext attrs
  simp only [toOption_eq_some_iff, decodeListAttrs, bind_eq_ok_iff, decodeListEntries_eq_ok,
    Option.bind_eq_bind, Option.bind_eq_some_iff, fieldValue_eq_some, Except.ok.injEq,
    Option.some.injEq]
  constructor
  · rintro ⟨d, ⟨horientation, hcols⟩, rfl⟩
    exact ⟨_, ⟨_, horientation, rfl⟩, _, ⟨_, hcols, rfl⟩, rfl⟩
  · rintro ⟨_, ⟨orientation, horientation, rfl⟩, _, ⟨gridCols, hcols, rfl⟩, rfl⟩
    exact ⟨⟨orientation, gridCols⟩, ⟨horientation, hcols⟩, rfl⟩

/-- **The attributes of a formula from a list** are those from the object. -/
theorem decodeFormulaAttrs_array {items : List Value} (h : items.length ≤ 3) :
    (decodeFormulaAttrs (.array items)).toOption =
      (decodeFormulaAttrs (.object (["code", "display", "formOpen"].zip items))).toOption := by
  rw [decodeFormulaAttrs_object]
  match items, h with
  | [], _ => rfl
  | [code], _ =>
    cases hcode : decodeCode code <;>
      simp [decodeFormulaAttrs, decodeFormulaItems, stored, fieldValue, hcode, bind, Except.bind,
        Except.toOption]
  | [code, display], _ =>
    cases hcode : decodeCode code <;> cases hdisplay : decodeBool display <;>
      simp [decodeFormulaAttrs, decodeFormulaItems, stored, fieldValue, hcode, hdisplay, bind,
        Except.bind, Except.toOption]
  | [code, display, formOpen], _ =>
    cases hcode : decodeCode code <;> cases hdisplay : decodeBool display <;>
      cases hopen : decodeBool formOpen <;>
      simp [decodeFormulaAttrs, decodeFormulaItems, noMoreItems, stored, fieldValue, hcode,
        hdisplay, hopen, bind, Except.bind, Except.toOption]

/-- **The attributes of a list from a list** are those from the object. -/
theorem decodeListAttrs_array {items : List Value} (h : items.length ≤ 2) :
    (decodeListAttrs (.array items)).toOption =
      (decodeListAttrs (.object (["orientation", "gridCols"].zip items))).toOption := by
  rw [decodeListAttrs_object]
  match items, h with
  | [], _ => rfl
  | [orientation], _ =>
    cases horientation : decodeOrientation orientation <;>
      simp [decodeListAttrs, decodeListItems, stored, fieldValue, horientation, bind, Except.bind,
        Except.toOption]
  | [orientation, gridCols], _ =>
    cases horientation : decodeOrientation orientation <;> cases hcols : decodeColumns gridCols <;>
      simp [decodeListAttrs, decodeListItems, noMoreItems, stored, fieldValue, horientation, hcols,
        bind, Except.bind, Except.toOption]

/-! ## Nodes -/

/-- The list of nodes that is the content of a node. -/
def decodeContent : Value → Except Problem (List Node)
  | .array values => decodeNodes values
  | v => refuse v .sequence

/-- The values stored for a field of a kind of nodes: those under its key, if the kind has it. -/
def Kind.stored (kind : Kind) (field : Field) (entries : List (String × Value)) : List Value :=
  if field ∈ kind.fields then Document.stored field.key entries else []

/-- An entry whose key is of no field of the kind. -/
theorem Kind.stored_cons_of_none {kind : Kind} {key : String}
    (h : kind.fields.find? (·.key = key) = none) (field : Field) (v : Value)
    (entries : List (String × Value)) :
    kind.stored field ((key, v) :: entries) = kind.stored field entries := by
  unfold Kind.stored
  split
  · next hmem =>
    have hne : field.key ≠ key := by simpa using List.find?_eq_none.mp h field hmem
    rw [stored_cons_of_ne hne.symm]
  · rfl

theorem Kind.stored_cons_self {kind : Kind} {key : String} {field : Field}
    (h : kind.fields.find? (·.key = key) = some field) (v : Value)
    (entries : List (String × Value)) :
    kind.stored field ((key, v) :: entries) = v :: kind.stored field entries := by
  have hmem : field ∈ kind.fields := List.mem_of_find?_eq_some h
  have hkey : field.key = key := by simpa using List.find?_some h
  rw [Kind.stored, Kind.stored, if_pos hmem, if_pos hmem, hkey, Document.stored_cons_self]

/-- No two fields of a kind go by one key. -/
theorem Kind.key_injective (kind : Kind) :
    ∀ f ∈ kind.fields, ∀ g ∈ kind.fields, f.key = g.key → f = g := by
  cases kind <;> decide

theorem Kind.stored_cons_of_ne {kind : Kind} {key : String} {field other : Field}
    (h : kind.fields.find? (·.key = key) = some field) (hne : other ≠ field) (v : Value)
    (entries : List (String × Value)) :
    kind.stored other ((key, v) :: entries) = kind.stored other entries := by
  have hmem : field ∈ kind.fields := List.mem_of_find?_eq_some h
  have hkey : field.key = key := by simpa using List.find?_some h
  unfold Kind.stored
  split
  · next hother =>
    have hkeys : key ≠ other.key := fun he =>
      hne (kind.key_injective other hother field hmem (hkey.trans he).symm)
    rw [Document.stored_cons_of_ne hkeys]
  · rfl

section

variable {d d' : Draft} {v : Value}

theorem decodeField_content :
    decodeField d .content v = .ok d' ↔
      ∃ x, decodeContent v = .ok x ∧ { d with content := some x } = d' := by
  cases v with
  | array values =>
    rw [decodeField, decodeContent, bind_eq_ok_iff]
    simp only [Except.ok.injEq]
  | _ =>
    rw [decodeField, decodeContent]
    · simp [refuse]
    all_goals exact fun _ => nofun

theorem decodeField_text :
    decodeField d .text v = .ok d' ↔
      ∃ x, decodeString v = .ok x ∧ { d with text := some x } = d' := by
  rw [decodeField, bind_eq_ok_iff]
  simp only [Except.ok.injEq]

theorem decodeField_formulaAttrs :
    decodeField d .formulaAttrs v = .ok d' ↔
      ∃ x, decodeFormulaAttrs v = .ok x ∧ { d with formula := some x } = d' := by
  rw [decodeField, bind_eq_ok_iff]
  simp only [Except.ok.injEq]

theorem decodeField_listAttrs :
    decodeField d .listAttrs v = .ok d' ↔
      ∃ x, decodeListAttrs v = .ok x ∧ { d with list := some x } = d' := by
  rw [decodeField, bind_eq_ok_iff]
  simp only [Except.ok.injEq]

end

/-- The walk along the entries of a node fills each field with what is stored for it. -/
theorem decodeEntries_eq_ok {kind : Kind} {d d' : Draft} {entries : List (String × Value)} :
    decodeEntries kind d entries = .ok d' ↔
      Filled decodeContent d.content (kind.stored .content entries) d'.content ∧
        Filled decodeString d.text (kind.stored .text entries) d'.text ∧
        Filled decodeFormulaAttrs d.formula (kind.stored .formulaAttrs entries) d'.formula ∧
        Filled decodeListAttrs d.list (kind.stored .listAttrs entries) d'.list := by
  induction entries generalizing d with
  | nil =>
    obtain ⟨content, text, formula, list⟩ := d
    obtain ⟨content', text', formula', list'⟩ := d'
    have hnone (field : Field) : kind.stored field [] = [] := ite_self []
    simp only [decodeEntries, hnone, Filled, Except.ok.injEq, Draft.mk.injEq, eq_comm]
  | cons e entries ih =>
    obtain ⟨key, v⟩ := e
    rw [decodeEntries]
    cases hfield : kind.fields.find? (·.key = key) with
    | none =>
      simp only [Kind.stored_cons_of_none hfield]
      exact ih
    | some field =>
      have hself := Kind.stored_cons_self hfield v entries
      have hother (other : Field) (hne : other ≠ field) :=
        Kind.stored_cons_of_ne hfield hne v entries
      simp only
      rw [iteError_eq_ok_iff]
      simp only [bind_eq_ok_iff, ih]
      cases field with
      | content =>
        rw [hself, hother .text (by decide), hother .formulaAttrs (by decide),
          hother .listAttrs (by decide)]
        simp only [Filled, Draft.has, Option.not_isSome_iff_eq_none, decodeField_content]
        constructor
        · rintro ⟨hnew, _, ⟨x, hx, rfl⟩, hc, ht, hf, hl⟩
          exact ⟨⟨hnew, x, hx, hc⟩, ht, hf, hl⟩
        · rintro ⟨⟨hnew, x, hx, hc⟩, ht, hf, hl⟩
          exact ⟨hnew, _, ⟨x, hx, rfl⟩, hc, ht, hf, hl⟩
      | text =>
        rw [hself, hother .content (by decide), hother .formulaAttrs (by decide),
          hother .listAttrs (by decide)]
        simp only [Filled, Draft.has, Option.not_isSome_iff_eq_none, decodeField_text]
        constructor
        · rintro ⟨hnew, _, ⟨x, hx, rfl⟩, hc, ht, hf, hl⟩
          exact ⟨hc, ⟨hnew, x, hx, ht⟩, hf, hl⟩
        · rintro ⟨hc, ⟨hnew, x, hx, ht⟩, hf, hl⟩
          exact ⟨hnew, _, ⟨x, hx, rfl⟩, hc, ht, hf, hl⟩
      | formulaAttrs =>
        rw [hself, hother .content (by decide), hother .text (by decide),
          hother .listAttrs (by decide)]
        simp only [Filled, Draft.has, Option.not_isSome_iff_eq_none, decodeField_formulaAttrs]
        constructor
        · rintro ⟨hnew, _, ⟨x, hx, rfl⟩, hc, ht, hf, hl⟩
          exact ⟨hc, ht, ⟨hnew, x, hx, hf⟩, hl⟩
        · rintro ⟨hc, ht, ⟨hnew, x, hx, hf⟩, hl⟩
          exact ⟨hnew, _, ⟨x, hx, rfl⟩, hc, ht, hf, hl⟩
      | listAttrs =>
        rw [hself, hother .content (by decide), hother .text (by decide),
          hother .formulaAttrs (by decide)]
        simp only [Filled, Draft.has, Option.not_isSome_iff_eq_none, decodeField_listAttrs]
        constructor
        · rintro ⟨hnew, _, ⟨x, hx, rfl⟩, hc, ht, hf, hl⟩
          exact ⟨hc, ht, hf, hnew, x, hx, hl⟩
        · rintro ⟨hc, ht, hf, hnew, x, hx, hl⟩
          exact ⟨hnew, _, ⟨x, hx, rfl⟩, hc, ht, hf, hl⟩

/-- The kind is found as the value of one more field, which must be there. -/
theorem kindOfEntries_eq_ok {seen : Option Kind} {kind : Kind} {entries : List (String × Value)} :
    kindOfEntries seen entries = .ok kind ↔
      Filled decodeTag seen (stored tagKey entries) (some kind) := by
  induction entries generalizing seen with
  | nil => cases seen <;> simp [kindOfEntries, Filled, eq_comm]
  | cons e entries ih =>
    obtain ⟨key, v⟩ := e
    rw [kindOfEntries]
    by_cases hkey : key = tagKey
    · subst hkey
      rw [if_pos rfl, stored_cons_self, filled_cons tagKey]
      simp only [bind_eq_ok_iff, ih]
    · rw [if_neg hkey, stored_cons_of_ne hkey, ih]

/-- The node of a kind with all of its fields. -/
def Kind.make (kind : Kind) (content : List Node) (text : String) (formula : FormulaAttrs)
    (list : ListAttrs) : Node :=
  kind.build ⟨some content, some text, some formula, some list⟩

theorem Kind.build_eq_make (kind : Kind) (d : Draft) :
    kind.build d =
      kind.make (d.content.getD []) (d.text.getD "") (d.formula.getD {}) (d.list.getD {}) := by
  cases kind <;> rfl

/-- The fields of a node of a kind, each by what is stored for it. -/
def Kind.assemble (kind : Kind) (entries : List (String × Value)) : Option Node := do
  let content ← fieldValue decodeContent [] (kind.stored .content entries)
  let text ← fieldValue decodeString "" (kind.stored .text entries)
  let formula ← fieldValue decodeFormulaAttrs {} (kind.stored .formulaAttrs entries)
  let list ← fieldValue decodeListAttrs {} (kind.stored .listAttrs entries)
  some (kind.make content text formula list)

theorem Kind.assemble_eq_some {kind : Kind} {n : Node} {entries : List (String × Value)} :
    kind.assemble entries = some n ↔
      ∃ d, decodeEntries kind {} entries = .ok d ∧ kind.build d = n := by
  simp only [Kind.assemble, Option.bind_eq_bind, Option.bind_eq_some_iff, fieldValue_eq_some,
    Option.some.injEq, decodeEntries_eq_ok, Kind.build_eq_make]
  constructor
  · rintro ⟨_, ⟨content, hc, rfl⟩, _, ⟨text, ht, rfl⟩, _, ⟨formula, hf, rfl⟩, _, ⟨list, hl, rfl⟩,
      rfl⟩
    exact ⟨⟨content, text, formula, list⟩, ⟨hc, ht, hf, hl⟩, rfl⟩
  · rintro ⟨d, ⟨hc, ht, hf, hl⟩, rfl⟩
    exact ⟨_, ⟨_, hc, rfl⟩, _, ⟨_, ht, rfl⟩, _, ⟨_, hf, rfl⟩, _, ⟨_, hl, rfl⟩, rfl⟩

/-- The kind of a node from the values stored as its tag: there must be one. -/
def kindOfTags : List Value → Option Kind
  | [tag] => (decodeTag tag).toOption
  | _ => none

theorem kindOfTags_eq_some {kind : Kind} {tags : List Value} :
    kindOfTags tags = some kind ↔ Filled decodeTag none tags (some kind) := by
  rw [filled_none_iff]
  match tags with
  | [] => simp [kindOfTags]
  | [tag] => simp [kindOfTags, toOption_eq_some_iff]
  | _ :: _ :: _ => simp [kindOfTags]

/-- **A node from an object.** -/
theorem decodeNode_object (entries : List (String × Value)) :
    (decodeNode (.object entries)).toOption =
      (kindOfTags (stored tagKey entries)).bind fun kind => kind.assemble entries := by
  ext n
  rw [decodeNode]
  simp only [toOption_eq_some_iff, bind_eq_ok_iff, kindOfEntries_eq_ok, Option.bind_eq_some_iff,
    Kind.assemble_eq_some, kindOfTags_eq_some, Except.ok.injEq]

/-- The tag is no field. -/
theorem Kind.find?_tagKey (kind : Kind) : kind.fields.find? (·.key = tagKey) = none := by
  cases kind <;> decide

/-- Items are stored under the keys of the fields in their order. -/
def Kind.itemEntries (kind : Kind) (items : List Value) : List (String × Value) :=
  (kind.fields.map Field.key).zip items

theorem Field.key_ne_tagKey (f : Field) : f.key ≠ tagKey := by
  cases f <;> decide

theorem Kind.tagKey_notMem_itemEntries (kind : Kind) (items : List Value) :
    tagKey ∉ (kind.itemEntries items).map Prod.fst := by
  intro h
  obtain ⟨e, he, hkey⟩ := List.mem_map.mp h
  obtain ⟨f, -, hf⟩ := List.mem_map.mp (List.of_mem_zip he).1
  exact f.key_ne_tagKey (hf.trans hkey)

theorem Kind.find?_key (kind : Kind) : ∀ f ∈ kind.fields,
    kind.fields.find? (·.key = f.key) = some f := by
  cases kind <;> decide

theorem Kind.nodup_fields (kind : Kind) : kind.fields.Nodup := by
  cases kind <;> decide

/-- Decoding a field leaves the others as they are. -/
theorem has_of_decodeField {d d' : Draft} {f g : Field} {v : Value}
    (h : decodeField d f v = .ok d') (hne : g ≠ f) : d'.has g = d.has g := by
  cases f with
  | content =>
    obtain ⟨x, -, rfl⟩ := decodeField_content.mp h
    cases g <;> first | rfl | exact absurd rfl hne
  | text =>
    obtain ⟨x, -, rfl⟩ := decodeField_text.mp h
    cases g <;> first | rfl | exact absurd rfl hne
  | formulaAttrs =>
    obtain ⟨x, -, rfl⟩ := decodeField_formulaAttrs.mp h
    cases g <;> first | rfl | exact absurd rfl hne
  | listAttrs =>
    obtain ⟨x, -, rfl⟩ := decodeField_listAttrs.mp h
    cases g <;> first | rfl | exact absurd rfl hne

/-- The fields that are left are decoded from the items that are left as from their entries. -/
theorem decodeItems_eq (kind : Kind) {fields : List Field} {items : List Value} {d : Draft}
    (hfields : ∀ f ∈ fields, f ∈ kind.fields ∧ d.has f = false) (hnodup : fields.Nodup)
    (h : items.length ≤ fields.length) :
    decodeItems kind fields d items = decodeEntries kind d ((fields.map Field.key).zip items) := by
  induction items generalizing fields d with
  | nil => rw [List.zip_nil_right, decodeItems, decodeEntries]
  | cons v items ih =>
    cases fields with
    | nil => exact absurd h (Nat.not_succ_le_zero _)
    | cons f fields =>
      obtain ⟨⟨hmem, hnew⟩, hrest⟩ := List.forall_mem_cons.mp hfields
      obtain ⟨hnot, hnodup⟩ := List.nodup_cons.mp hnodup
      rw [List.map_cons, List.zip_cons_cons, decodeItems, decodeEntries, kind.find?_key f hmem]
      simp only [hnew, Bool.false_eq_true, if_false]
      cases hd : decodeField d f v with
      | error p => rfl
      | ok d' =>
        refine ih (fun g hg => ⟨(hrest g hg).1, ?_⟩) hnodup (Nat.le_of_succ_le_succ h)
        rw [has_of_decodeField hd fun he => hnot (he ▸ hg), (hrest g hg).2]

/-- **A node from a list** is the node from the object, as far as the list goes. -/
theorem decodeNode_array {tag : Value} {kind : Kind} (htag : decodeTag tag = .ok kind)
    {items : List Value} (h : items.length ≤ kind.fields.length) :
    decodeNode (.array (tag :: items)) =
      decodeNode (.object ((tagKey, tag) :: kind.itemEntries items)) := by
  have hitems : decodeItems kind kind.fields {} items =
      decodeEntries kind {} ((tagKey, tag) :: kind.itemEntries items) := by
    have hnone : decodeEntries kind {} ((tagKey, tag) :: kind.itemEntries items) =
        decodeEntries kind {} (kind.itemEntries items) := by
      rw [decodeEntries, kind.find?_tagKey]
    rw [hnone, Kind.itemEntries]
    exact decodeItems_eq kind (fun f hf => ⟨hf, by cases f <;> rfl⟩) kind.nodup_fields h
  have hkind : kindOfEntries none ((tagKey, tag) :: kind.itemEntries items) = .ok kind := by
    have hstored : stored tagKey (kind.itemEntries items) = [] :=
      stored_eq_nil (kind.tagKey_notMem_itemEntries items)
    rw [kindOfEntries_eq_ok, ← kindOfTags_eq_some, stored_cons_self, hstored, kindOfTags, htag]
    rfl
  rw [decodeNode, decodeNode, hkind, htag]
  simp only [ok_bind, hitems]

end ExamPress.Document
