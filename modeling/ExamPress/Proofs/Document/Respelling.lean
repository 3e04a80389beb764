import ExamPress.Proofs.Document.Outermost
import Mathlib.Logic.Relation

/-!
# Equivalent spellings of a document decode alike

One document is stored in many ways: its entries may come in any order, three of its kinds have a
second tag, what is absent stands for a default, and an object may be written as a list.  A step
from one spelling to another is told here for one place in one node; the equivalence that the steps
generate has them in any number, in either direction and at any node.

Every step is told for an object and at its head.  That is no restriction: reordering is a step, and
so is writing an object as a list, or a list that is a node as an object.  So a step in the middle
of an object, or in a node that is written as a list, is a few of the steps below.

## What is here

* `Attributes`, `AttrsStep` — the two sorts of attributes, and the ways to spell them;
* `NodeStep`, `Respelled` — the ways to spell a node, and the equivalence they generate;
* `NodeStep.decodeNode_eq`, `NodeStep.wordTagged_iff` — what a step keeps;
* `ofJson_respelled` — the theorem.
-/

set_option autoImplicit false

namespace ExamPress.Document

open ExamPress.Json (Value SpellsText)

/-! ## Spellings of attributes -/

/-- The two sorts of attributes. -/
inductive Attributes
  | formula
  | list

namespace Attributes

/-- The field that holds them. -/
def field : Attributes → Field
  | formula => .formulaAttrs
  | list => .listAttrs

/-- The names of the attributes, in order. -/
def keys : Attributes → List String
  | formula => ["code", "display", "formOpen"]
  | list => ["orientation", "gridCols"]

/-- The attributes that may be null. -/
def nullable : Attributes → List String
  | formula => ["code"]
  | list => ["orientation", "gridCols"]

end Attributes

/-- **A step between two spellings of attributes.** -/
inductive AttrsStep : Attributes → Value → Value → Prop
  /-- The entries in another order. -/
  | reorder {attrs : Attributes} {entries entries' : List (String × Value)}
      (h : entries.Perm entries') : AttrsStep attrs (.object entries) (.object entries')
  /-- An entry more, with a key that is not known. -/
  | unknownKey {attrs : Attributes} {key : String} {v : Value} {entries : List (String × Value)}
      (h : key ∉ attrs.keys) : AttrsStep attrs (.object entries) (.object ((key, v) :: entries))
  /-- Null for an attribute that is absent. -/
  | absent {attrs : Attributes} {key : String} {entries : List (String × Value)}
      (hkey : key ∈ attrs.nullable) (habsent : key ∉ entries.map Prod.fst) :
      AttrsStep attrs (.object entries) (.object ((key, .null) :: entries))
  /-- Another name for the usual orientation. -/
  | orientation {name name' : String} {entries : List (String × Value)} (h : name ≠ "vertical")
      (h' : name' ≠ "vertical") :
      AttrsStep .list (.object (("orientation", .string name) :: entries))
        (.object (("orientation", .string name') :: entries))
  /-- A list of the attributes in their order, as far as it goes. -/
  | positional {attrs : Attributes} {items : List Value} (h : items.length ≤ attrs.keys.length) :
      AttrsStep attrs (.object (attrs.keys.zip items)) (.array items)

/-! ## Spellings of nodes -/

/-- What a field is when it is absent, as it would be stored. -/
def Field.blank : Field → Value
  | .content => .array []
  | .text => .string ""
  | .formulaAttrs | .listAttrs => .null

/-- The object with these entries has a tag that names the kind. -/
def TagNames (entries : List (String × Value)) (kind : Kind) : Prop :=
  ∃ tag, (tagKey, tag) ∈ entries ∧ decodeTag tag = .ok kind

/-- **A step between two spellings of a node.** -/
inductive NodeStep : Value → Value → Prop
  /-- The entries in another order. -/
  | reorder {entries entries' : List (String × Value)} (h : entries.Perm entries') :
      NodeStep (.object entries) (.object entries')
  /-- The other tag of the kind. -/
  | otherTag {kind : Kind} {other : String} {entries : List (String × Value)}
      (h : kind.otherTag? = some other) :
      NodeStep (.object ((tagKey, .string kind.tag) :: entries))
        (.object ((tagKey, .string other) :: entries))
  /-- An entry more, with a key that is not known to the kind. -/
  | unknownKey {kind : Kind} {key : String} {v : Value} {entries : List (String × Value)}
      (hkind : TagNames entries kind) (htag : key ≠ tagKey) (h : key ∉ kind.fields.map Field.key) :
      NodeStep (.object entries) (.object ((key, v) :: entries))
  /-- An entry for a field that is absent. -/
  | absent {kind : Kind} {field : Field} {entries : List (String × Value)}
      (hkind : TagNames entries kind) (hfield : field ∈ kind.fields)
      (habsent : field.key ∉ entries.map Prod.fst) :
      NodeStep (.object entries) (.object ((field.key, field.blank) :: entries))
  /-- A list of the tag and the fields in their order, as far as it goes. -/
  | positional {kind : Kind} {tag : Value} {items : List Value} (hkind : decodeTag tag = .ok kind)
      (h : items.length ≤ kind.fields.length) :
      NodeStep (.object ((tagKey, tag) :: kind.itemEntries items)) (.array (tag :: items))
  /-- Another spelling of the attributes. -/
  | attrs {kind : Kind} {attrs : Attributes} {v w : Value} {entries : List (String × Value)}
      (hkind : TagNames entries kind) (hfield : attrs.field ∈ kind.fields)
      (h : AttrsStep attrs v w) :
      NodeStep (.object (("attrs", v) :: entries)) (.object (("attrs", w) :: entries))
  /-- Another spelling of a node in the content. -/
  | content {v w : Value} {before after : List Value} {entries : List (String × Value)}
      (h : NodeStep v w) :
      NodeStep (.object (("content", .array (before ++ v :: after)) :: entries))
        (.object (("content", .array (before ++ w :: after)) :: entries))

/-- **Two values spell the same node**: steps lead from one to the other. -/
def Respelled : Value → Value → Prop := Relation.EqvGen NodeStep

/-! ## What a step keeps of attributes -/

theorem fieldValue_cons_congr {α : Type} {decode : Value → Except Problem α} {v w : Value}
    (h : (decode v).toOption = (decode w).toOption) (default : α) (values : List Value) :
    fieldValue decode default (v :: values) = fieldValue decode default (w :: values) := by
  cases values with
  | nil => exact h
  | cons => rfl

theorem decodeOrientation_of_ne {name : String} (h : name ≠ "vertical") :
    decodeOrientation (.string name) = .ok .horizontal := by
  rw [decodeOrientation, Orientation.ofName, if_neg h]

theorem AttrsStep.decodeFormulaAttrs_eq {v w : Value} (h : AttrsStep .formula v w) :
    (decodeFormulaAttrs v).toOption = (decodeFormulaAttrs w).toOption := by
  cases h with
  | reorder h =>
    rw [decodeFormulaAttrs_object, decodeFormulaAttrs_object,
      fieldValue_perm (stored_perm h "code"), fieldValue_perm (stored_perm h "display"),
      fieldValue_perm (stored_perm h "formOpen")]
  | unknownKey h =>
    simp only [Attributes.keys, List.mem_cons, List.not_mem_nil, or_false, not_or] at h
    obtain ⟨hcode, hdisplay, hopen⟩ := h
    rw [decodeFormulaAttrs_object, decodeFormulaAttrs_object, stored_cons_of_ne hcode,
      stored_cons_of_ne hdisplay, stored_cons_of_ne hopen]
  | absent hkey habsent =>
    rw [Attributes.nullable, List.mem_singleton] at hkey
    subst hkey
    rw [decodeFormulaAttrs_object, decodeFormulaAttrs_object, stored_cons_self,
      stored_eq_nil habsent, stored_cons_of_ne (by decide), stored_cons_of_ne (by decide)]
    rfl
  | positional h => exact (decodeFormulaAttrs_array h).symm

theorem AttrsStep.decodeListAttrs_eq {v w : Value} (h : AttrsStep .list v w) :
    (decodeListAttrs v).toOption = (decodeListAttrs w).toOption := by
  cases h with
  | reorder h =>
    rw [decodeListAttrs_object, decodeListAttrs_object,
      fieldValue_perm (stored_perm h "orientation"), fieldValue_perm (stored_perm h "gridCols")]
  | unknownKey h =>
    simp only [Attributes.keys, List.mem_cons, List.not_mem_nil, or_false, not_or] at h
    obtain ⟨horientation, hcols⟩ := h
    rw [decodeListAttrs_object, decodeListAttrs_object, stored_cons_of_ne horientation,
      stored_cons_of_ne hcols]
  | absent hkey habsent =>
    simp only [Attributes.nullable, List.mem_cons, List.not_mem_nil, or_false] at hkey
    rcases hkey with rfl | rfl
    · rw [decodeListAttrs_object, decodeListAttrs_object, stored_cons_self, stored_eq_nil habsent,
        stored_cons_of_ne (by decide)]
      rfl
    · rw [decodeListAttrs_object, decodeListAttrs_object, stored_cons_self, stored_eq_nil habsent,
        stored_cons_of_ne (by decide)]
      rfl
  | @orientation name name' entries h h' =>
    have hname : (decodeOrientation (.string name)).toOption =
        (decodeOrientation (.string name')).toOption := by
      rw [decodeOrientation_of_ne h, decodeOrientation_of_ne h']
    rw [decodeListAttrs_object, decodeListAttrs_object, stored_cons_self, stored_cons_self,
      stored_cons_of_ne (by decide), stored_cons_of_ne (by decide), fieldValue_cons_congr hname]
  | positional h => exact (decodeListAttrs_array h).symm

/-! ## What a step keeps of a node -/

/-- **The values make the same of a field**, one list of them and the other. -/
def Field.SameStored (values values' : List Value) : Field → Prop
  | .content => fieldValue decodeContent [] values = fieldValue decodeContent [] values'
  | .text => fieldValue decodeString "" values = fieldValue decodeString "" values'
  | .formulaAttrs =>
    fieldValue decodeFormulaAttrs {} values = fieldValue decodeFormulaAttrs {} values'
  | .listAttrs => fieldValue decodeListAttrs {} values = fieldValue decodeListAttrs {} values'

namespace Field

variable (field : Field)

theorem sameStored_perm {values values' : List Value} (h : values.Perm values') :
    field.SameStored values values' := by
  cases field <;> exact fieldValue_perm h _ _

theorem sameStored_refl (values : List Value) : field.SameStored values values :=
  field.sameStored_perm (.refl values)

/-- Being absent is being stored as what is absent. -/
theorem sameStored_blank : field.SameStored [] [field.blank] := by
  cases field with
  | content =>
    have hnone : decodeContent (.array []) = .ok [] := by rw [decodeContent, decodeNodes]
    simp only [SameStored, blank, fieldValue, hnone]
    rfl
  | text | formulaAttrs | listAttrs => rfl

end Field

theorem Attributes.sameStored (attrs : Attributes) {v w : Value} (h : AttrsStep attrs v w)
    (values : List Value) : attrs.field.SameStored (v :: values) (w :: values) := by
  cases attrs with
  | formula => exact fieldValue_cons_congr h.decodeFormulaAttrs_eq _ _
  | list => exact fieldValue_cons_congr h.decodeListAttrs_eq _ _

/-- A node in a list may be any value that decodes to the same. -/
theorem decodeNodes_congr {v w : Value} (h : (decodeNode v).toOption = (decodeNode w).toOption)
    (before after : List Value) :
    (decodeNodes (before ++ v :: after)).toOption =
      (decodeNodes (before ++ w :: after)).toOption := by
  induction before with
  | nil =>
    rw [List.nil_append, List.nil_append, decodeNodes, decodeNodes, toOption_bind, toOption_bind, h]
  | cons u before ih =>
    rw [List.cons_append, List.cons_append, decodeNodes, decodeNodes, toOption_bind, toOption_bind]
    simp only [toOption_bind, ih]

theorem sameStored_content {v w : Value} (h : (decodeNode v).toOption = (decodeNode w).toOption)
    (before after values : List Value) :
    Field.content.SameStored (.array (before ++ v :: after) :: values)
      (.array (before ++ w :: after) :: values) := by
  refine fieldValue_cons_congr ?_ _ _
  rw [decodeContent, decodeContent, decodeNodes_congr h]

/-- An object stays the same node as long as every field does. -/
theorem Kind.assemble_congr {kind : Kind} {entries entries' : List (String × Value)}
    (h : ∀ field ∈ kind.fields,
      field.SameStored (Document.stored field.key entries) (Document.stored field.key entries')) :
    kind.assemble entries = kind.assemble entries' := by
  have hstored (field : Field) :
      field.SameStored (kind.stored field entries) (kind.stored field entries') := by
    unfold Kind.stored
    split
    · next hfield => exact h field hfield
    · exact field.sameStored_refl []
  have hcontent : fieldValue decodeContent _ _ = _ := hstored .content
  have htext : fieldValue decodeString _ _ = _ := hstored .text
  have hformula : fieldValue decodeFormulaAttrs _ _ = _ := hstored .formulaAttrs
  have hlist : fieldValue decodeListAttrs _ _ = _ := hstored .listAttrs
  simp only [Kind.assemble]
  rw [hcontent, htext, hformula, hlist]

theorem decodeNode_object_congr {entries entries' : List (String × Value)}
    (htags : kindOfTags (stored tagKey entries) = kindOfTags (stored tagKey entries'))
    (hfields : ∀ kind, kindOfTags (stored tagKey entries) = some kind → ∀ field ∈ kind.fields,
      field.SameStored (stored field.key entries) (stored field.key entries')) :
    (decodeNode (.object entries)).toOption = (decodeNode (.object entries')).toOption := by
  rw [decodeNode_object, decodeNode_object, ← htags]
  cases hkind : kindOfTags (stored tagKey entries) with
  | none => rfl
  | some kind => exact Kind.assemble_congr (hfields kind hkind)

theorem kindOfTags_perm {tags tags' : List Value} (h : tags.Perm tags') :
    kindOfTags tags = kindOfTags tags' := by
  match tags, tags' with
  | [], tags' => rw [List.nil_perm.mp h]
  | [tag], tags' => rw [List.singleton_perm.mp h]
  | _ :: _ :: _, tags' =>
    have hlength := h.length_eq
    match tags' with
    | [] | [_] => simp at hlength
    | _ :: _ :: _ => rfl

/-- Both tags of a kind name it. -/
theorem Kind.ofTag_otherTag? {kind : Kind} {other : String} (h : kind.otherTag? = some other) :
    ofTag other = kind := by
  revert h
  cases kind <;> intro h <;> cases h <;> decide

theorem kindOfTags_cons_congr {tag tag' : Value} (h : decodeTag tag = decodeTag tag')
    (tags : List Value) : kindOfTags (tag :: tags) = kindOfTags (tag' :: tags) := by
  cases tags with
  | nil => rw [kindOfTags, kindOfTags, h]
  | cons => rfl

/-- The kind that a tag names is the kind of the node, if it has one. -/
theorem TagNames.eq_of_kindOfTags {entries : List (String × Value)} {kind kind' : Kind}
    (h : TagNames entries kind) (hkind : kindOfTags (stored tagKey entries) = some kind') :
    kind' = kind := by
  obtain ⟨tag, hmem, htag⟩ := h
  rw [kindOfTags_eq_some, filled_none_iff] at hkind
  obtain ⟨-, hnone⟩ | ⟨tag', kind'', htags, htag', hkind'⟩ := hkind
  · cases hnone
  · rw [← mem_stored, htags, List.mem_singleton] at hmem
    subst hmem
    cases hkind'
    exact Except.ok.inj (htag'.symm.trans htag)

/-- **A step keeps what a node decodes to.** -/
theorem NodeStep.decodeNode_eq {v w : Value} (h : NodeStep v w) :
    (decodeNode v).toOption = (decodeNode w).toOption := by
  induction h with
  | reorder h =>
    exact decodeNode_object_congr (kindOfTags_perm (stored_perm h tagKey))
      fun kind _ field _ => field.sameStored_perm (stored_perm h field.key)
  | @otherTag kind other entries h =>
    have htag : decodeTag (.string kind.tag) = decodeTag (.string other) := by
      rw [decodeTag, decodeTag, Kind.ofTag_tag, Kind.ofTag_otherTag? h]
    refine decodeNode_object_congr ?_ fun _ _ field _ => ?_
    · rw [stored_cons_self, stored_cons_self, kindOfTags_cons_congr htag]
    · rw [stored_cons_of_ne field.key_ne_tagKey.symm, stored_cons_of_ne field.key_ne_tagKey.symm]
      exact field.sameStored_refl _
  | @unknownKey kind key v entries hkind htag h =>
    refine decodeNode_object_congr (by rw [stored_cons_of_ne htag])
      fun kind' hkind' field hfield => ?_
    rw [hkind.eq_of_kindOfTags hkind'] at hfield
    have hkey : key ≠ field.key := fun he => h (he ▸ List.mem_map_of_mem hfield)
    rw [stored_cons_of_ne hkey]
    exact field.sameStored_refl _
  | @absent kind field entries hkind hfield habsent =>
    refine decodeNode_object_congr (by rw [stored_cons_of_ne field.key_ne_tagKey])
      fun kind' hkind' other hother => ?_
    rw [hkind.eq_of_kindOfTags hkind'] at hother
    by_cases hkey : field.key = other.key
    · obtain rfl := kind.key_injective field hfield other hother hkey
      rw [stored_cons_self, stored_eq_nil habsent]
      exact field.sameStored_blank
    · rw [stored_cons_of_ne hkey]
      exact other.sameStored_refl _
  | positional hkind h => rw [decodeNode_array hkind h]
  | @attrs kind attrs v w entries hkind hfield h =>
    have hattrs : attrs.field.key = "attrs" := by cases attrs <;> rfl
    have htag : "attrs" ≠ tagKey := by decide
    refine decodeNode_object_congr (by rw [stored_cons_of_ne htag, stored_cons_of_ne htag])
      fun kind' hkind' field hfield' => ?_
    obtain rfl := TagNames.eq_of_kindOfTags hkind (by rwa [stored_cons_of_ne htag] at hkind')
    by_cases hkey : attrs.field.key = field.key
    · obtain rfl := kind'.key_injective _ hfield _ hfield' hkey
      rw [hattrs, stored_cons_self, stored_cons_self]
      exact attrs.sameStored h _
    · rw [hattrs] at hkey
      rw [stored_cons_of_ne hkey, stored_cons_of_ne hkey]
      exact field.sameStored_refl _
  | @content v w before after entries h ih =>
    have htag : "content" ≠ tagKey := by decide
    refine decodeNode_object_congr (by rw [stored_cons_of_ne htag, stored_cons_of_ne htag])
      fun _ _ field _ => ?_
    by_cases hkey : "content" = field.key
    · obtain rfl : field = .content := by
        cases field <;> first | rfl | exact absurd hkey (by decide)
      rw [← hkey, stored_cons_self, stored_cons_self]
      exact sameStored_content ih before after _
    · rw [stored_cons_of_ne hkey, stored_cons_of_ne hkey]
      exact field.sameStored_refl _

/-- **A step keeps whether the tag is a word.** -/
theorem NodeStep.wordTagged_iff {v w : Value} (h : NodeStep v w) :
    WordTagged v ↔ WordTagged w := by
  cases h with
  | reorder h =>
    have hmem (tag : Value) := (stored_perm h tagKey).mem_iff (a := tag)
    simp only [WordTagged, hmem]
  | otherTag =>
    simp only [WordTagged, stored_cons_self, List.forall_mem_cons]
    exact and_congr_left' ⟨fun _ => ⟨_, rfl⟩, fun _ => ⟨_, rfl⟩⟩
  | unknownKey _ htag => simp only [WordTagged, stored_cons_of_ne htag]
  | absent => simp only [WordTagged, stored_cons_of_ne (Field.key_ne_tagKey _)]
  | positional =>
    simp only [WordTagged, stored_cons_self,
      stored_eq_nil (Kind.tagKey_notMem_itemEntries _ _), List.forall_mem_singleton]
  | attrs =>
    have htag : "attrs" ≠ tagKey := by decide
    simp only [WordTagged, stored_cons_of_ne htag]
  | content =>
    have htag : "content" ≠ tagKey := by decide
    simp only [WordTagged, stored_cons_of_ne htag]

/-! ## The theorem -/

namespace Respelled

variable {u v w : Value}

theorem of_step (h : NodeStep v w) : Respelled v w := Relation.EqvGen.rel _ _ h

theorem symm (h : Respelled v w) : Respelled w v := Relation.EqvGen.symm _ _ h

theorem trans (h : Respelled u v) (h' : Respelled v w) : Respelled u w :=
  Relation.EqvGen.trans _ _ _ h h'

theorem reorder {entries entries' : List (String × Value)} (h : entries.Perm entries') :
    Respelled (.object entries) (.object entries') :=
  of_step (.reorder h)

/-- A node in the content may be spelled in any other way. -/
theorem content (h : Respelled v w) (before after : List Value)
    (entries : List (String × Value)) :
    Respelled (.object (("content", .array (before ++ v :: after)) :: entries))
      (.object (("content", .array (before ++ w :: after)) :: entries)) := by
  induction h with
  | rel _ _ h => exact of_step (.content h)
  | refl => exact Relation.EqvGen.refl _
  | symm _ _ _ ih => exact ih.symm
  | trans _ _ _ _ _ ih ih' => exact ih.trans ih'

/-- **Two spellings of a node decode alike.** -/
theorem decodeNode_eq (h : Respelled v w) :
    (decodeNode v).toOption = (decodeNode w).toOption := by
  induction h with
  | rel _ _ h => exact h.decodeNode_eq
  | refl => rfl
  | symm _ _ _ ih => exact ih.symm
  | trans _ _ _ _ _ ih ih' => exact ih.trans ih'

theorem wordTagged_iff (h : Respelled v w) : WordTagged v ↔ WordTagged w := by
  induction h with
  | rel _ _ h => exact h.wordTagged_iff
  | refl => exact Iff.rfl
  | symm _ _ _ ih => exact ih.symm
  | trans _ _ _ _ _ ih ih' => exact ih.trans ih'

end Respelled

/-- **Equivalent spellings of a document decode alike.**  A text that is a document spells a value,
and any text that spells the same node, nested at most 127 levels deep, is the same document. -/
theorem ofJson_respelled {text : String} {n : Node} (h : Node.ofJson text = .ok n) :
    (∃ v, SpellsText text.toList v) ∧
      ∀ (v w : Value) (text' : String), SpellsText text.toList v → Respelled v w →
        SpellsText text'.toList w → w.depth ≤ 127 → Node.ofJson text' = .ok n := by
  obtain ⟨u, hparse, hword, hnode⟩ := readDocument_eq_ok_iff.mp h
  obtain ⟨hspelled, -⟩ := Json.parse_eq_ok_iff.mp hparse
  refine ⟨⟨u, hspelled⟩, fun v w text' hv hvw hw hdepth => ?_⟩
  obtain rfl := hspelled.unique hv
  refine readDocument_eq_ok_iff.mpr
    ⟨w, Json.parse_eq_ok_iff.mpr ⟨hw, hdepth⟩, hvw.wordTagged_iff.mp hword, ?_⟩
  rw [← toOption_eq_some_iff, ← hvw.decodeNode_eq, toOption_eq_some_iff, hnode]

/-- The empty text in a document, written as lists and with the other tag. -/
theorem ofJson_respelled_lists :
    Node.ofJson "\x7b\"type\":\"doc\",\"content\":[\x7b\"type\":\"text\"\x7d]\x7d" =
        .ok (.document [.text ""]) ∧
      Node.ofJson "[\"document\",[[\"text\",\"\"]]]" = .ok (.document [.text ""]) := by
  have htext : Node.ofJson "\x7b\"type\":\"doc\",\"content\":[\x7b\"type\":\"text\"\x7d]\x7d" =
      .ok (.document [.text ""]) := by decide +kernel
  have hinner : Respelled (.object [(tagKey, .string "text")])
      (.array [.string "text", .string ""]) := by
    have hkind : TagNames [(tagKey, .string "text")] .text := ⟨_, .head _, rfl⟩
    have hblank := NodeStep.absent hkind (.head _) (by decide)
    have hlist := @NodeStep.positional .text (.string "text") [.string ""] rfl (by decide)
    exact (Respelled.of_step hblank).trans
      ((Respelled.reorder (.swap _ _ _)).trans (.of_step hlist))
  have houter : Respelled
      (.object [(tagKey, .string "doc"),
        ("content", .array [.object [(tagKey, .string "text")]])])
      (.array [.string "document", .array [.array [.string "text", .string ""]]]) := by
    have hcontent := hinner.content [] [] [(tagKey, .string "doc")]
    have htag := @NodeStep.otherTag .document "doc"
      [("content", .array [.array [.string "text", .string ""]])] rfl
    have hlist := @NodeStep.positional .document (.string "document")
      [.array [.array [.string "text", .string ""]]] rfl (by decide)
    exact (Respelled.reorder (.swap _ _ _)).trans (hcontent.trans
      ((Respelled.reorder (.swap _ _ _)).trans ((Respelled.of_step htag).symm.trans
        (.of_step hlist))))
  have hspells {text : String} {v : Value} (h : (Json.parse text.toList).toOption = some v) :
      SpellsText text.toList v :=
    (Json.parse_eq_ok_iff.mp (toOption_eq_some_iff.mp h)).1
  exact ⟨htext, (ofJson_respelled htext).2 _ _ _ (hspells (by decide +kernel)) houter
    (hspells (by decide +kernel)) (by decide +kernel)⟩

/-- An entry whose key is not known still has to be read: one with a number that is too large for a
double stops the reader. -/
theorem ofJson_unreadableEntry :
    Node.ofJson "\x7b\"type\":\"doc\"\x7d" = .ok (.document []) ∧
      Node.ofJson "\x7b\"type\":\"doc\",\"x\":1e999\x7d" =
        .error (.text .numberOutOfRange ⟨1, 23⟩) := by
  decide +kernel

end ExamPress.Document
