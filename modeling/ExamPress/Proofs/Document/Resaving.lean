import ExamPress.Proofs.Document.Outermost
import ExamPress.Proofs.Document.RoundTrip

/-!
# A document that is stored again

A text that is read as a document can be spelled in many ways, and the text under which the document
is stored again is only one of them: it has every field, also those that the first text left to
their defaults.  So it need not be nested as the first text is.  What stays is that it is nested at
most one level deeper: a child of a node is decoded from a value inside the value of the node, two
levels below it, and the only thing that is written below a node without being there before is the
list of no children, or the attributes of a formula.

That one level can be one too many.  In a text that is nested as deep as can be read, a node on the
last level has no list and no attributes; stored again it has, and the text can no longer be read.

## What is here

* `FromItems` — the content of a node was decoded from the values inside its value;
* `children_of_decodeNode` — the children of a node that was decoded from a value;
* `jsonDepth_le_of_decodeNode` — a node is stored at most one level deeper than it was;
* `ofJson_compact_eq_ok_iff`, `ofJson_toJson_eq_ok_iff` — when the compact text of a value is a
  document, and when a stored document is read back;
* `ofJson_resaved` — the theorem.
-/

set_option autoImplicit false

namespace ExamPress.Document

open ExamPress.Json (Value Plain SpellsText)

/-! ## Where the children of a node come from -/

/-- **The content met so far was decoded from one of some values**, if any was met. -/
def FromItems (values : List Value) (d : Draft) : Prop :=
  ∀ nodes, d.content = some nodes →
    ∃ items, .array items ∈ values ∧ decodeNodes items = .ok nodes

theorem decodeContent_eq_ok {v : Value} {nodes : List Node} :
    decodeContent v = .ok nodes ↔ ∃ items, v = .array items ∧ decodeNodes items = .ok nodes := by
  cases v <;> simp [decodeContent, refuse]

section

variable {values : List Value} {d d' : Draft} {v : Value}

theorem FromItems.decodeField {field : Field} (h : FromItems values d) (hv : v ∈ values)
    (hd : decodeField d field v = .ok d') : FromItems values d' := by
  cases field with
  | content =>
    obtain ⟨nodes, hnodes, rfl⟩ := decodeField_content.mp hd
    obtain ⟨items, rfl, hitems⟩ := decodeContent_eq_ok.mp hnodes
    rintro _ ⟨⟩
    exact ⟨items, hv, hitems⟩
  | text =>
    obtain ⟨_, -, rfl⟩ := decodeField_text.mp hd
    exact h
  | formulaAttrs =>
    obtain ⟨_, -, rfl⟩ := decodeField_formulaAttrs.mp hd
    exact h
  | listAttrs =>
    obtain ⟨_, -, rfl⟩ := decodeField_listAttrs.mp hd
    exact h

/-- Walking along the entries of an object. -/
theorem FromItems.decodeEntries {kind : Kind} {entries : List (String × Value)}
    (h : FromItems values d) (hentries : ∀ e ∈ entries, e.2 ∈ values)
    (hd : decodeEntries kind d entries = .ok d') : FromItems values d' := by
  induction entries generalizing d with
  | nil =>
    rw [Document.decodeEntries] at hd
    exact Except.ok.inj hd ▸ h
  | cons e entries ih =>
    obtain ⟨he, hrest⟩ := List.forall_mem_cons.mp hentries
    rw [Document.decodeEntries] at hd
    cases hfield : kind.fields.find? (·.key = e.1) with
    | none =>
      simp only [hfield] at hd
      exact ih h hrest hd
    | some field =>
      simp only [hfield, iteError_eq_ok_iff, bind_eq_ok_iff] at hd
      obtain ⟨-, d₁, hd₁, hd⟩ := hd
      exact ih (h.decodeField he hd₁) hrest hd

/-- Walking along the items of a list. -/
theorem FromItems.decodeItems {kind : Kind} {fields : List Field} {items : List Value}
    (h : FromItems values d) (hitems : ∀ v ∈ items, v ∈ values)
    (hd : decodeItems kind fields d items = .ok d') : FromItems values d' := by
  induction items generalizing fields d with
  | nil =>
    rw [Document.decodeItems] at hd
    exact Except.ok.inj hd ▸ h
  | cons v items ih =>
    obtain ⟨hv, hrest⟩ := List.forall_mem_cons.mp hitems
    cases fields with
    | nil =>
      rw [Document.decodeItems, noMoreItems] at hd
      · cases hd
      · exact List.cons_ne_nil v items
    | cons field fields =>
      rw [Document.decodeItems, bind_eq_ok_iff] at hd
      obtain ⟨d₁, hd₁, hd⟩ := hd
      exact ih (h.decodeField hv hd₁) hrest hd

end

/-- A node is built with the content that was met, or it has none. -/
theorem children_build (kind : Kind) (d : Draft) :
    (kind.build d).children = [] ∨ d.content = some (kind.build d).children := by
  cases kind <;> cases h : d.content <;> simp [Kind.build, Node.children, h]

/-- Nothing was met yet. -/
theorem FromItems.start (values : List Value) : FromItems values {} :=
  fun _ hnone => by cases hnone

/-- The children of the node that is built come from two levels inside a value, if the values that
were walked along stand one level inside it. -/
theorem FromItems.children {values : List Value} {d : Draft} (h : FromItems values d) (kind : Kind)
    {v : Value} (hdepth : ∀ w ∈ values, w.depth + 1 ≤ v.depth) :
    (kind.build d).children = [] ∨
      ∃ items, decodeNodes items = .ok (kind.build d).children ∧
        Value.depthOfItems items + 2 ≤ v.depth := by
  refine (children_build kind d).imp_right fun hcontent => ?_
  obtain ⟨items, hmem, hitems⟩ := h _ hcontent
  exact ⟨items, hitems, hdepth _ hmem⟩

/-- **The children of a node that was decoded from a value** were decoded from values two levels
inside it. -/
theorem children_of_decodeNode {v : Value} {n : Node} (h : decodeNode v = .ok n) :
    n.children = [] ∨
      ∃ items, decodeNodes items = .ok n.children ∧ Value.depthOfItems items + 2 ≤ v.depth := by
  cases v with
  | object entries =>
    rw [decodeNode] at h
    simp only [bind_eq_ok_iff, Except.ok.injEq] at h
    obtain ⟨kind, -, d, hd, rfl⟩ := h
    have hmem : ∀ e ∈ entries, e.2 ∈ entries.map Prod.snd := fun e he => List.mem_map_of_mem he
    refine ((FromItems.start _).decodeEntries hmem hd).children kind fun w hw => ?_
    obtain ⟨e, he, rfl⟩ := List.mem_map.mp hw
    exact Nat.succ_le_succ (Value.depthOfEntries_le.mp (Nat.le_refl _) e he)
  | array items =>
    cases items with
    | nil =>
      rw [decodeNode] at h
      cases h
    | cons tag items =>
      rw [decodeNode] at h
      simp only [bind_eq_ok_iff, Except.ok.injEq] at h
      obtain ⟨kind, -, d, hd, rfl⟩ := h
      refine ((FromItems.start items).decodeItems (fun _ hw => hw) hd).children kind fun w hw => ?_
      exact Nat.succ_le_succ (Value.depthOfItems_le.mp (Nat.le_refl _) w
        (List.mem_cons_of_mem tag hw))
  | _ => exact absurd h (decodeNode_ne_ok_of_depth rfl)

/-- Each node of a list was decoded from one of the values. -/
theorem exists_of_mem_decodeNodes {items : List Value} {nodes : List Node}
    (h : decodeNodes items = .ok nodes) :
    ∀ m ∈ nodes, ∃ w ∈ items, decodeNode w = .ok m := by
  induction items generalizing nodes with
  | nil =>
    rw [decodeNodes] at h
    cases h
    exact fun m hm => absurd hm List.not_mem_nil
  | cons v items ih =>
    rw [decodeNodes] at h
    simp only [bind_eq_ok_iff, Except.ok.injEq] at h
    obtain ⟨n, hn, rest, hrest, rfl⟩ := h
    refine List.forall_mem_cons.mpr ⟨⟨v, List.mem_cons_self, hn⟩, fun m hm => ?_⟩
    obtain ⟨w, hw, hm⟩ := ih hrest m hm
    exact ⟨w, List.mem_cons_of_mem v hw, hm⟩

/-! ## How deep a document is stored -/

theorem Node.greatestJsonDepth_le {nodes : List Node} {d : Nat} :
    greatestJsonDepth nodes ≤ d ↔ ∀ n ∈ nodes, n.jsonDepth ≤ d := by
  induction nodes with
  | nil => simp [greatestJsonDepth]
  | cons n nodes ih => rw [greatestJsonDepth, Nat.max_le, ih, List.forall_mem_cons]

/-- Below a node there are at most its attributes, or the list of its children. -/
theorem Node.jsonDepth_le (n : Node) : n.jsonDepth ≤ 2 + greatestJsonDepth n.children := by
  cases n <;> rw [jsonDepth, children] <;> omega

/-- **A node is stored at most one level deeper than it was.** -/
theorem jsonDepth_le_of_decodeNode {v : Value} {n : Node} (h : decodeNode v = .ok n) :
    n.jsonDepth ≤ v.depth + 1 := by
  induction n using Node.induction_below generalizing v with
  | step n ih =>
    have hn := n.jsonDepth_le
    obtain hnone | ⟨items, hitems, hdepth⟩ := children_of_decodeNode h
    · -- a node without children is stored two levels deep, and was one level deep at least
      have hpositive : v.depth ≠ 0 := fun hflat => decodeNode_ne_ok_of_depth hflat h
      rw [hnone, Node.greatestJsonDepth] at hn
      omega
    · have hchildren : Node.greatestJsonDepth n.children ≤ Value.depthOfItems items + 1 := by
        refine Node.greatestJsonDepth_le.mpr fun m hm => ?_
        obtain ⟨w, hw, hmw⟩ := exists_of_mem_decodeNodes hitems m hm
        have hm := ih m (.of_mem hm) hmw
        have hw := Value.depthOfItems_le.mp (Nat.le_refl _) w hw
        omega
      omega

/-! ## Reading a compact text -/

/-- The compact text of a value spells the value. -/
theorem spellsText_compact {v : Value} (hv : Plain v) : SpellsText v.compact v := by
  have hread := (Json.readValue_compact hv v.depth [] .nil).within (Nat.le_refl _)
  rw [List.append_nil] at hread
  obtain ⟨-, s, hspace, hspells⟩ := Json.spells_of_readValue v.depth hread
  exact ⟨s, [], hspace, hspells, .nil⟩

/-- **When the compact text of a value is a document**: it is not nested too deep, its tag is a
word, and it decodes. -/
theorem ofJson_compact_eq_ok_iff {v : Value} (hv : Plain v) {n : Node} :
    Node.ofJson (String.ofList v.compact) = .ok n ↔
      v.depth ≤ 127 ∧ WordTagged v ∧ decodeNode v = .ok n := by
  have hspells := spellsText_compact hv
  rw [Node.ofJson, String.toList_ofList, readDocument_eq_ok_iff]
  simp only [Json.parse_eq_ok_iff, Json.depthLimit]
  constructor
  · rintro ⟨w, ⟨hw, hdepth⟩, hword, hn⟩
    obtain rfl := hspells.unique hw
    exact ⟨hdepth, hword, hn⟩
  · rintro ⟨hdepth, hword, hn⟩
    exact ⟨v, ⟨hspells, hdepth⟩, hword, hn⟩

theorem wordTagged_toValue (n : Node) : WordTagged n.toValue := by
  have hnone : tagKey ∉ n.fieldEntries.map Prod.fst := fun hmem => by
    obtain ⟨e, he, hkey⟩ := List.mem_map.mp hmem
    exact key_ne_tagKey n e he hkey
  rw [Node.toValue_eq, WordTagged, Node.tagEntry, stored_cons_self, stored_eq_nil hnone]
  exact List.forall_mem_singleton.mpr ⟨_, rfl⟩

/-- **A stored document is read back exactly up to 127 levels**, and never as another one. -/
theorem ofJson_toJson_eq_ok_iff {n m : Node} :
    Node.ofJson n.toJson = .ok m ↔ n.toValue.depth ≤ 127 ∧ m = n := by
  rw [Node.toJson, ofJson_compact_eq_ok_iff (plain_toValue n), decodeNode_toValue]
  simp only [wordTagged_toValue, true_and, Except.ok.injEq, eq_comm]

/-- What is nested deeper is refused for that reason. -/
theorem ofJson_toJson_of_lt {n : Node} (h : 127 < n.toValue.depth) :
    ∃ place, Node.ofJson n.toJson = .error (.text .tooDeep place) := by
  rw [Node.depth_toValue] at h
  obtain ⟨e, he, hdeep⟩ := (readRoot_toValue n).beyond (Nat.not_le_of_lt h)
  cases e with
  | problem => exact hdeep.elim
  | fault f =>
    have hcause : f.cause = .tooDeep := hdeep
    rw [Node.toJson, Node.ofJson, String.toList_ofList, readDocument, he, ← hcause]
    exact ⟨_, rfl⟩

/-! ## The theorem -/

/-- **A document can be read again after it was stored again**, unless its text is then nested more
than 127 levels deep.  That text is at most one level deeper than the text that was read, so there
is no danger as long as that one is nested at most 126 levels deep; and what is read again is always
the same document, so that reading and storing change nothing any more. -/
theorem ofJson_resaved {text : String} {n : Node} (h : Node.ofJson text = .ok n) :
    ∃ v, SpellsText text.toList v ∧ v.depth ≤ 127 ∧
      SpellsText n.toJson.toList n.toValue ∧ n.toValue.depth ≤ v.depth + 1 ∧
      (∀ m, Node.ofJson n.toJson = .ok m ↔ n.toValue.depth ≤ 127 ∧ m = n) ∧
      (127 < n.toValue.depth → ∃ place, Node.ofJson n.toJson = .error (.text .tooDeep place)) := by
  obtain ⟨v, hparse, -, hnode⟩ := readDocument_eq_ok_iff.mp h
  obtain ⟨hspells, hdepth⟩ := Json.parse_eq_ok_iff.mp hparse
  refine ⟨v, hspells, hdepth, ?_, ?_, fun m => ofJson_toJson_eq_ok_iff, ofJson_toJson_of_lt⟩
  · rw [Node.toJson, String.toList_ofList]
    exact spellsText_compact (plain_toValue n)
  · rw [Node.depth_toValue]
    exact jsonDepth_le_of_decodeNode hnode

/-- A list of one formula, with all fields left out, and the formula as a list. -/
theorem ofJson_resaved_short :
    Node.ofJson "\x7b\"type\":\"orderedList\",\"content\":[[\"inlineLatex\"]]\x7d" =
        .ok (.list [.inlineFormula {}]) ∧
      Node.ofJson (Node.list [.inlineFormula {}]).toJson = .ok (.list [.inlineFormula {}]) := by
  have htext : Node.ofJson "\x7b\"type\":\"orderedList\",\"content\":[[\"inlineLatex\"]]\x7d" =
      .ok (.list [.inlineFormula {}]) := by decide +kernel
  obtain ⟨v, -, -, -, -, hiff, -⟩ := ofJson_resaved htext
  exact ⟨htext, (hiff _).mpr ⟨by decide, rfl⟩⟩

/-- A list item without content, in a number of list items. -/
def bareItemIn : Nat → Value
  | 0 => .object [Node.tagEntry .listItem]
  | k + 1 => .object [Node.tagEntry .listItem, ("content", .array [bareItemIn k])]

theorem plain_bareItemIn (k : Nat) : Plain (bareItemIn k) := by
  have htag : ∀ e ∈ [Node.tagEntry .listItem], Plain e.2 :=
    List.forall_mem_singleton.mpr (.string _)
  induction k with
  | zero => exact .object htag
  | succ k ih =>
    exact .object (List.forall_mem_cons.mpr ⟨.string _,
      List.forall_mem_singleton.mpr (.array (List.forall_mem_singleton.mpr ih))⟩)

theorem depth_bareItemIn (k : Nat) : (bareItemIn k).depth = 2 * k + 1 := by
  induction k with
  | zero => rfl
  | succ k ih =>
    simp only [bareItemIn, Node.tagEntry, Value.depth, Value.depthOfEntries, Value.depthOfItems, ih]
    omega

theorem decodeNode_bareItemIn (k : Nat) :
    decodeNode (bareItemIn k) = .ok (nestedIn (.listItem []) k) := by
  induction k with
  | zero => rfl
  | succ k ih =>
    have hcontent : decodeNodes [bareItemIn k] = .ok [nestedIn (.listItem []) k] := by
      rw [decodeNodes, ih, decodeNodes]
      rfl
    rw [bareItemIn, decodeNode, kindOfEntries_tagEntry _ (by simp [tagKey])]
    simp only [ok_bind, decodeEntries_tagEntry]
    rw [decodeEntries_cons .content (by decide) rfl, decodeField, hcontent]
    rfl

/-- In 63 items an item without content is still read, but not when it was stored again. -/
theorem ofJson_resaved_tooDeep :
    Node.ofJson (String.ofList (bareItemIn 63).compact) = .ok (nestedIn (.listItem []) 63) ∧
      ∀ m, Node.ofJson (nestedIn (.listItem []) 63).toJson ≠ .ok m := by
  constructor
  · have hword : WordTagged (bareItemIn 63) := by
      rw [bareItemIn, WordTagged, Node.tagEntry, stored_cons_self, stored_eq_nil (by decide)]
      exact List.forall_mem_singleton.mpr ⟨_, rfl⟩
    exact (ofJson_compact_eq_ok_iff (plain_bareItemIn 63)).mpr
      ⟨Nat.le_of_eq (depth_bareItemIn 63), hword, decodeNode_bareItemIn 63⟩
  · intro m hm
    have hdepth := (ofJson_toJson_eq_ok_iff.mp hm).1
    rw [Node.depth_toValue, jsonDepth_nestedIn] at hdepth
    exact absurd hdepth (by decide)

end ExamPress.Document
