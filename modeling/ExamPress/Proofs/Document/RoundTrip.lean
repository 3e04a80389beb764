import ExamPress.Document.Printer
import ExamPress.Document.Reader
import ExamPress.Proofs.Document.Within
import ExamPress.Proofs.Json.RoundTrip

/-!
# A stored document is read back

Every document can be stored, but not every stored document can be read: the reader of JSON stops
at a fixed depth, and each level of a document takes two levels of JSON, one for the node and one
for the list of its children.  Up to that depth a document is read back as it was, whatever its
payloads; beyond it the text is refused because the nesting is too deep, and for no other reason.

The outermost node is read by rules of its own, straight from the text, so the round trip is stated
twice: of values, where there is no limit (`decodeNode_toValue`), and of texts.

## What is here

* `Node.jsonDepth` — the depth of the JSON text of a document;
* `Node.fieldEntries` — what is stored of a node besides its tag;
* `decodeNode_toValue` — a document is decoded from its JSON value;
* `ofJson_toJson` — the theorem.
-/

set_option autoImplicit false

namespace ExamPress.Document

open ExamPress.Json (Value UpTo Plain Follows Fault)

/-! ## The depth of a stored document -/

namespace Node

mutual

/-- **The depth of the JSON text of a document.**  A formula has its attributes inside it, and any
node that can have children has the list of them inside it. -/
def jsonDepth : Node → Nat
  | text _ | unknown => 1
  | inlineFormula _ | displayFormula _ => 2
  | document content | paragraph content | orderedList _ content | listItem content
  | listItemIntro content => 2 + greatestJsonDepth content

/-- The greatest depth of several documents. -/
def greatestJsonDepth : List Node → Nat
  | [] => 0
  | n :: nodes => max (jsonDepth n) (greatestJsonDepth nodes)

end

/-- What is stored of a node besides its tag. -/
def fieldEntries : Node → List (String × Value)
  | document content | paragraph content | listItem content | listItemIntro content =>
    [("content", .array (toValues content))]
  | text t => [("text", .string t)]
  | inlineFormula attrs | displayFormula attrs => [("attrs", attrs.toValue)]
  | orderedList attrs content =>
    [("attrs", attrs.toValue), ("content", .array (toValues content))]
  | unknown => []

theorem toValue_eq (n : Node) : n.toValue = .object (tagEntry n.kind :: n.fieldEntries) := by
  cases n <;> rfl

theorem mem_toValues {v : Value} {nodes : List Node} :
    v ∈ toValues nodes ↔ ∃ n ∈ nodes, v = n.toValue := by
  induction nodes with
  | nil => simp [toValues]
  | cons n nodes ih => simp [toValues, ih]

theorem depth_formulaAttrs (attrs : FormulaAttrs) : attrs.toValue.depth = 1 := by
  obtain ⟨code, display, formOpen⟩ := attrs
  cases code <;> rfl

/-- The values of several nodes are as deep as these, when each of them is. -/
theorem depthOfItems_toValues {nodes : List Node}
    (h : ∀ m ∈ nodes, m.toValue.depth = m.jsonDepth) :
    Value.depthOfItems (toValues nodes) = greatestJsonDepth nodes := by
  induction nodes with
  | nil => rfl
  | cons m nodes ih =>
    obtain ⟨hm, hnodes⟩ := List.forall_mem_cons.mp h
    rw [toValues, Value.depthOfItems, greatestJsonDepth, hm, ih hnodes]

/-- The values of nodes are as deep as the nodes. -/
theorem depth_toValue (n : Node) : n.toValue.depth = n.jsonDepth := by
  induction n using induction_below with
  | step n ih =>
    have hall : Value.depthOfItems (toValues n.children) = greatestJsonDepth n.children :=
      depthOfItems_toValues fun m hm => ih m (.of_mem hm)
    cases n with
    | document content | paragraph content | listItem content | listItemIntro content =>
      rw [children] at hall
      simp only [toValue, tagEntry, Value.depth, Value.depthOfEntries, jsonDepth, hall]
      omega
    | orderedList attrs content =>
      rw [children] at hall
      simp only [toValue, tagEntry, ListAttrs.toValue, Value.depth, Value.depthOfEntries,
        jsonDepth, hall]
      omega
    | inlineFormula attrs | displayFormula attrs =>
      simp only [toValue, tagEntry, Value.depth, Value.depthOfEntries, depth_formulaAttrs,
        jsonDepth]
      omega
    | text | unknown => rfl

end Node

/-! ## Stored values are plain -/

theorem plain_formulaAttrs (attrs : FormulaAttrs) : Plain attrs.toValue := by
  obtain ⟨code, display, formOpen⟩ := attrs
  refine .object (List.forall_mem_cons.mpr ⟨?_, List.forall_mem_cons.mpr
    ⟨.bool display, List.forall_mem_singleton.mpr (.bool formOpen)⟩⟩)
  cases code with
  | none => exact .null
  | some code => exact .string code

theorem plain_listAttrs (attrs : ListAttrs) : Plain attrs.toValue := by
  have hword : attrs.gridCols.toNat < UInt64.size :=
    Nat.lt_trans attrs.gridCols.toNat_lt (by decide)
  exact .object (List.forall_mem_cons.mpr
    ⟨.string _, List.forall_mem_singleton.mpr (.natural hword)⟩)

/-- What is stored of a node besides its tag is plain if its children are. -/
theorem plain_fieldEntries {n : Node} (h : ∀ m ∈ n.children, Plain m.toValue) :
    ∀ e ∈ n.fieldEntries, Plain e.2 := by
  have hlist (nodes : List Node) (h : ∀ m ∈ nodes, Plain m.toValue) :
      Plain (.array (Node.toValues nodes)) := by
    refine .array fun v hv => ?_
    obtain ⟨m, hm, rfl⟩ := Node.mem_toValues.mp hv
    exact h m hm
  cases n with
  | document content | paragraph content | listItem content | listItemIntro content =>
    exact List.forall_mem_singleton.mpr (hlist content h)
  | text t => exact List.forall_mem_singleton.mpr (.string t)
  | inlineFormula attrs | displayFormula attrs =>
    exact List.forall_mem_singleton.mpr (plain_formulaAttrs attrs)
  | orderedList attrs content =>
    exact List.forall_mem_cons.mpr
      ⟨plain_listAttrs attrs, List.forall_mem_singleton.mpr (hlist content h)⟩
  | unknown => exact fun e he => absurd he List.not_mem_nil

/-- Nothing but natural numbers of one word is ever written. -/
theorem plain_toValue (n : Node) : Plain n.toValue := by
  induction n using Node.induction_below with
  | step n ih =>
    rw [Node.toValue_eq]
    exact .object (List.forall_mem_cons.mpr
      ⟨.string _, plain_fieldEntries fun m hm => ih m (.of_mem hm)⟩)

/-! ## Decoding -/

theorem decodeFormulaAttrs_toValue (attrs : FormulaAttrs) :
    decodeFormulaAttrs attrs.toValue = .ok attrs := by
  obtain ⟨code, display, formOpen⟩ := attrs
  cases code <;> rfl

theorem decodeOrientation_name (orientation : Orientation) :
    decodeOrientation (.string orientation.name) = .ok orientation := by
  cases orientation <;> rfl

theorem decodeColumns_toNat (n : UInt32) :
    decodeColumns (.number (.integer n.toNat)) = .ok n := by
  have hrange : 0 ≤ (n.toNat : Int) ∧ (n.toNat : Int) < (UInt32.size : Nat) :=
    ⟨Int.natCast_nonneg _, Int.ofNat_lt.mpr n.toNat_lt⟩
  rw [decodeColumns, if_pos hrange, Int.toNat_natCast, UInt32.ofNat_toNat]

theorem decodeListEntries_eq {o c : Value} {orientation : Orientation} {n : UInt32}
    (ho : decodeOrientation o = .ok orientation) (hc : decodeColumns c = .ok n) :
    decodeListEntries {} [("orientation", o), ("gridCols", c)] =
      .ok ⟨some orientation, some n⟩ := by
  rw [decodeListEntries, if_pos rfl, ho]
  simp only [setOnce, Except.map, bind, Except.bind]
  rw [decodeListEntries, if_neg (by decide), if_pos rfl, hc]
  rfl

theorem decodeListAttrs_toValue (attrs : ListAttrs) :
    decodeListAttrs attrs.toValue = .ok attrs := by
  rw [ListAttrs.toValue, decodeListAttrs, decodeListEntries_eq
    (decodeOrientation_name attrs.orientation) (decodeColumns_toNat attrs.gridCols)]
  rfl

/-- Nodes are decoded if each of them is. -/
theorem decodeNodes_toValues {nodes : List Node}
    (h : ∀ n ∈ nodes, decodeNode n.toValue = .ok n) :
    decodeNodes (Node.toValues nodes) = .ok nodes := by
  induction nodes with
  | nil => rw [Node.toValues, decodeNodes]
  | cons n nodes ih =>
    rw [Node.toValues, decodeNodes, h n List.mem_cons_self,
      ih fun m hm => h m (List.mem_cons_of_mem n hm)]
    rfl

/-- An entry of a field that was not met before. -/
theorem decodeEntries_cons {kind : Kind} {d : Draft} {key : String} (field : Field)
    (hfield : kind.fields.find? (·.key = key) = some field) (hnew : d.has field = false)
    (v : Value) (entries : List (String × Value)) :
    decodeEntries kind d ((key, v) :: entries) = (do
      let d ← decodeField d field v
      decodeEntries kind d entries) := by
  rw [decodeEntries, hfield]
  simp only [hnew, Bool.false_eq_true, if_false]

/-- The tag is no field. -/
theorem decodeEntries_tagEntry (kind k : Kind) (d : Draft) (entries : List (String × Value)) :
    decodeEntries kind d (Node.tagEntry k :: entries) = decodeEntries kind d entries := by
  have hnone : kind.fields.find? (·.key = tagKey) = none := by cases kind <;> decide
  rw [Node.tagEntry, decodeEntries, hnone]

/-- **The fields of a node are decoded** if its children are, and make the node. -/
theorem decodeEntries_fieldEntries {n : Node}
    (h : ∀ m ∈ n.children, decodeNode m.toValue = .ok m) :
    ∃ d, decodeEntries n.kind {} n.fieldEntries = .ok d ∧ n.kind.build d = n := by
  have hnone (kind : Kind) (d : Draft) : decodeEntries kind d [] = .ok d := by rw [decodeEntries]
  have hchildren : decodeNodes (Node.toValues n.children) = .ok n.children :=
    decodeNodes_toValues h
  cases n with
  | document content | paragraph content | listItem content | listItemIntro content =>
    refine ⟨{ content := some content }, ?_, rfl⟩
    rw [Node.children] at hchildren
    rw [Node.fieldEntries, Node.kind, decodeEntries_cons .content (by decide) rfl, decodeField,
      hchildren]
    simp only [bind, Except.bind, hnone]
  | text t =>
    refine ⟨{ text := some t }, ?_, rfl⟩
    rw [Node.fieldEntries, Node.kind, decodeEntries_cons .text (by decide) rfl, decodeField]
    simp only [decodeString, bind, Except.bind, hnone]
  | inlineFormula attrs | displayFormula attrs =>
    refine ⟨{ formula := some attrs }, ?_, rfl⟩
    rw [Node.fieldEntries, Node.kind, decodeEntries_cons .formulaAttrs (by decide) rfl,
      decodeField, decodeFormulaAttrs_toValue]
    simp only [bind, Except.bind, hnone]
  | orderedList attrs content =>
    refine ⟨{ list := some attrs, content := some content }, ?_, rfl⟩
    rw [Node.children] at hchildren
    rw [Node.fieldEntries, Node.kind, decodeEntries_cons .listAttrs (by decide) rfl, decodeField,
      decodeListAttrs_toValue]
    simp only [bind, Except.bind]
    rw [decodeEntries_cons .content (by decide) rfl, decodeField, hchildren]
    simp only [bind, Except.bind, hnone]
  | unknown => exact ⟨{}, hnone _ _, rfl⟩

/-- No field goes by the name of the tag. -/
theorem key_ne_tagKey (n : Node) : ∀ e ∈ n.fieldEntries, e.1 ≠ tagKey := by
  cases n <;> simp [Node.fieldEntries, tagKey]

/-- The kind of a node is found in its tag, and nowhere else. -/
theorem kindOfEntries_tagEntry (k : Kind) {entries : List (String × Value)}
    (h : ∀ e ∈ entries, e.1 ≠ tagKey) :
    kindOfEntries none (Node.tagEntry k :: entries) = .ok k := by
  have hrest : kindOfEntries (some k) entries = .ok k := by
    induction entries with
    | nil => rw [kindOfEntries]
    | cons e entries ih =>
      obtain ⟨hkey, hmore⟩ := List.forall_mem_cons.mp h
      rw [kindOfEntries, if_neg hkey, ih hmore]
  rw [Node.tagEntry, kindOfEntries, if_pos rfl, decodeTag, Kind.ofTag_tag]
  exact hrest

/-- **A document is decoded from its JSON value**, however deep it is. -/
theorem decodeNode_toValue (n : Node) : decodeNode n.toValue = .ok n := by
  induction n using Node.induction_below with
  | step n ih =>
    obtain ⟨d, hd, hbuild⟩ := decodeEntries_fieldEntries fun m hm => ih m (.of_mem hm)
    rw [Node.toValue_eq, decodeNode, kindOfEntries_tagEntry n.kind (key_ne_tagKey n)]
    simp only [bind, Except.bind, decodeEntries_tagEntry, hd, hbuild]

/-! ## Reading -/

/-- The outermost node cannot be read because its text is nested too deeply. -/
def RootFault.IsTooDeep : RootFault → Prop
  | .fault f => f.IsTooDeep
  | .problem _ _ => False

/-- The tag of a stored node is a string. -/
theorem readTag_stringText (s : String) (rest : List Char) :
    readTag (Json.stringText s ++ rest) = .ok (.ofTag s, rest) := by
  have hstring := Json.readNested_string none s rest
  rw [Json.stringText_append] at hstring ⊢
  rw [readTag, Json.skipBlanks_cons (by decide)]
  split
  · next h => exact absurd h (List.cons_ne_nil _ _)
  · next h => exact absurd (List.cons.inj h).1 (by decide)
  · next h => exact absurd (List.cons.inj h).1 (by decide)
  · rw [hstring]
    rfl

/-- The tag of a stored node is read before anything else. -/
theorem readRootEntry_tag (k : Kind) (rest : List Char) :
    readRootEntry {} tagKey (':' :: ((Value.string k.tag).compact ++ rest)) =
      .ok ({ kind := some k }, rest) := by
  have htag := readTag_stringText k.tag rest
  rw [Kind.ofTag_tag] at htag
  rw [readRootEntry, if_pos rfl]
  change (readTag (Json.stringText k.tag ++ rest) >>= fun r =>
    .ok (({ kind := some r.1 } : RootDraft), r.2)) = _
  rw [htag]
  rfl

/-- A field of a stored node is read up to the depth that is read inside the node. -/
theorem readRootEntry_field {d : RootDraft} {e : String × Value} (hkey : e.1 ≠ tagKey)
    (hv : Plain e.2) {rest : List Char} (hrest : Follows rest) :
    UpTo RootFault.IsTooDeep (e.2.depth ≤ innerDepth)
      (readRootEntry d e.1 (':' :: (e.2.compact ++ rest)))
      ({ d with entries := d.entries ++ [(e.1, e.2)] }, rest) := by
  have hvalue := Json.readValue_compact hv innerDepth rest hrest
  have hentry := Json.readEntry_compact hvalue d.entries e.1
  have hroot : UpTo RootFault.IsTooDeep (e.2.depth ≤ innerDepth)
      ((Json.readEntry (Json.readValue innerDepth) d.entries e.1
        (':' :: (e.2.compact ++ rest))).mapError .fault) (d.entries ++ [(e.1, e.2)], rest) :=
    hentry.mapError fun f hf => hf
  rw [readRootEntry, if_neg hkey]
  exact hroot.bind_ok rfl

theorem foldl_entries (d : RootDraft) (entries : List (String × Value)) :
    entries.foldl (fun d e => { d with entries := d.entries ++ [(e.1, e.2)] }) d =
      { d with entries := d.entries ++ entries } := by
  induction entries generalizing d with
  | nil => rw [List.foldl_nil, List.append_nil]
  | cons e entries ih =>
    rw [List.foldl_cons, ih, List.append_assoc]
    rfl

/-- **The outermost node is read** up to the depth that is read inside it. -/
theorem readRoot_toValue (n : Node) :
    UpTo RootFault.IsTooDeep (n.jsonDepth ≤ 127) (readRoot n.toValue.compact)
      (n.kind, .entries n.fieldEntries, []) := by
  have hplain : ∀ e ∈ n.fieldEntries, Plain e.2 := plain_fieldEntries fun m _ => plain_toValue m
  have hmembers : UpTo RootFault.IsTooDeep
      (∀ e ∈ Node.tagEntry n.kind :: n.fieldEntries, e.2.depth ≤ innerDepth)
      (Json.readMembers .fault readRootEntry {}
        (Value.compactEntries (Node.tagEntry n.kind :: n.fieldEntries) ++ ['\x7d']))
      (n.fieldEntries.foldl (fun d e => { d with entries := d.entries ++ [(e.1, e.2)] })
        { kind := some n.kind }, []) :=
    Json.readMembers_compactEntries .fault
      (fun rest _ => .of_eq (Nat.zero_le innerDepth) (readRootEntry_tag n.kind rest))
      (fun e he d rest hrest => readRootEntry_field (key_ne_tagKey n e he) (hplain e he) hrest) []
  have hdepth : (∀ e ∈ Node.tagEntry n.kind :: n.fieldEntries, e.2.depth ≤ innerDepth) ↔
      n.jsonDepth ≤ 127 := by
    rw [← Node.depth_toValue, Node.toValue_eq]
    exact Value.depth_object_le.symm
  rw [foldl_entries] at hmembers
  rw [Node.toValue_eq, Value.compact_object, List.cons_append, readRoot,
    Json.skipBlanks_cons (by decide)]
  refine .congr hdepth ?_
  exact hmembers.bind_ok rfl

/-- **The parts of the outermost node are decoded.** -/
theorem decodeParts_fieldEntries (n : Node) :
    decodeParts n.kind (.entries n.fieldEntries) = .ok n := by
  obtain ⟨d, hd, hbuild⟩ := decodeEntries_fieldEntries (n := n) fun m _ => decodeNode_toValue m
  simp only [decodeParts, bind, Except.bind, hd, hbuild]

/-! ## The theorem -/

/-- **A stored document is read back** when its text is at most 127 levels deep, and otherwise it
is refused because the nesting is too deep. -/
theorem ofJson_toJson (n : Node) :
    n.toValue.depth = n.jsonDepth ∧
      (n.jsonDepth ≤ 127 → Node.ofJson n.toJson = .ok n) ∧
      (127 < n.jsonDepth → ∃ place, Node.ofJson n.toJson = .error (.text .tooDeep place) ∧
        (ReadError.text .tooDeep place).message =
          ReadError.located "recursion limit exceeded" place) := by
  have hroot : UpTo (fun e => ∃ place, e = ReadError.text .tooDeep place) (n.jsonDepth ≤ 127)
      ((readRoot n.toValue.compact).mapError (.ofRoot n.toValue.compact))
      (n.kind, .entries n.fieldEntries, []) := by
    refine (readRoot_toValue n).mapError fun e he => ?_
    cases e with
    | fault f => exact ⟨_, congrArg (ReadError.text · _) he⟩
    | problem => exact he.elim
  have hdocument : UpTo (fun e => ∃ place, e = ReadError.text .tooDeep place) (n.jsonDepth ≤ 127)
      (readDocument n.toValue.compact) n := by
    refine hroot.bind_ok ?_
    simp only [decodeParts_fieldEntries]
    rfl
  rw [Node.toJson, Node.ofJson, String.toList_ofList]
  refine ⟨n.depth_toValue, hdocument.within, fun h => ?_⟩
  obtain ⟨e, he, place, rfl⟩ := hdocument.beyond (Nat.not_le_of_lt h)
  exact ⟨place, he, rfl⟩

/-- A node in a number of items, one inside the other. -/
def nestedIn (n : Node) : Nat → Node
  | 0 => n
  | k + 1 => .listItem [nestedIn n k]

theorem jsonDepth_nestedIn (n : Node) (k : Nat) :
    (nestedIn n k).jsonDepth = n.jsonDepth + 2 * k := by
  induction k with
  | zero => rfl
  | succ k ih =>
    rw [nestedIn, Node.jsonDepth, Node.greatestJsonDepth, Node.greatestJsonDepth, ih]
    omega

/-- In 63 items a text is still read back, and a formula is not. -/
theorem ofJson_toJson_nestedIn :
    Node.ofJson (nestedIn (.text "\"\\") 63).toJson = .ok (nestedIn (.text "\"\\") 63) ∧
      ∃ place, Node.ofJson (nestedIn (.inline "x") 63).toJson = .error (.text .tooDeep place) := by
  have htext : (nestedIn (.text "\"\\") 63).jsonDepth ≤ 127 := by
    rw [jsonDepth_nestedIn]
    decide
  have hformula : 127 < (nestedIn (.inline "x") 63).jsonDepth := by
    rw [jsonDepth_nestedIn]
    decide
  obtain ⟨place, hplace, -⟩ := (ofJson_toJson (nestedIn (.inline "x") 63)).2.2 hformula
  exact ⟨(ofJson_toJson (nestedIn (.text "\"\\") 63)).2.1 htext, place, hplace⟩

end ExamPress.Document
