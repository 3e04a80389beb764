import ExamPress.Proofs.Markup.Blank

/-!
# What the markup keeps

Setting a document loses nothing that can be seen.  The markup of a node is made of the payloads
of its visible leaves, those that are not blank, in the order of the document, each once and as it
stands; and of filler between them, which is blanks and the words of the markup itself.

Four kinds of nodes are left away when they are blank, and an introduction is left away with its
item, or when it stands anywhere but in front of one.  That nothing visible is lost with them comes
down to `shown_eq_nil_of_isBlank`: in a blank node there is nothing to show.

## What is here

* `Leaf`, `leaves` — the leaves of a document in their order, and which of them are seen;
* `shown` — the payloads of the visible leaves that are not blank;
* `Filler` — blanks and the words of the markup;
* `Woven ps s` — the text `s` is the payloads `ps` in their order with filler around them;
* `woven_render` — the theorem.
-/

set_option autoImplicit false

namespace ExamPress.Markup

open Document (Node ListAttrs)

/-! ## The leaves of a document -/

/-- A leaf as it stands in a document. -/
structure Leaf where
  /-- What the leaf holds. -/
  payload : List Char
  /-- Is the leaf seen?  It is when every introduction around it is the first thing in an item
  that is not blank otherwise. -/
  seen : Bool

mutual

/-- **The leaves of a node**, in their order, where `seen` says whether all introductions around
the node are seen. -/
def leaves (seen : Bool) : Node → List Leaf
  | .text t => [⟨t.toList, seen⟩]
  | .inlineFormula attrs | .displayFormula attrs => [⟨attrs.source.toList, seen⟩]
  | .document content | .paragraph content | .orderedList _ content => leavesOf seen content
  | .listItem (.listItemIntro intro :: content) =>
    leavesOf (seen && !content.all fun n => Text.allBlank (node {} n)) intro ++
      leavesOf seen content
  | .listItem content => leavesOf seen content
  | .listItemIntro content => leavesOf false content
  | .unknown => []

/-- The leaves of several nodes. -/
def leavesOf (seen : Bool) : List Node → List Leaf
  | [] => []
  | n :: nodes => leaves seen n ++ leavesOf seen nodes

end

/-- A leaf leaves a trace in the markup when it is seen and not blank. -/
def Leaf.isShown (l : Leaf) : Bool := l.seen && !Text.allBlank l.payload

/-- The payloads of the leaves that are shown. -/
def payloads (ls : List Leaf) : List (List Char) := (ls.filter Leaf.isShown).map Leaf.payload

/-- **What a node shows**: the payloads of its visible leaves that are not blank, in their order. -/
def shown (n : Node) : List (List Char) := payloads (leaves true n)

theorem payloads_append (ls ks : List Leaf) : payloads (ls ++ ks) = payloads ls ++ payloads ks := by
  simp [payloads]

theorem payloads_leaf (s : List Char) :
    payloads [⟨s, true⟩] = if Text.allBlank s then [] else [s] := by
  cases h : Text.allBlank s <;> simp [payloads, Leaf.isShown, h]

/-- Several nodes show what each of them shows. -/
theorem payloads_leavesOf (nodes : List Node) :
    payloads (leavesOf true nodes) = nodes.flatMap shown := by
  induction nodes with
  | nil => rfl
  | cons n nodes ih => rw [leavesOf, payloads_append, ih, List.flatMap_cons, shown]

/-- The leaves of an item, from its two parts. -/
theorem leaves_listItem (seen : Bool) (content : List Node) :
    leaves seen (.listItem content) =
      leavesOf (seen && !(Node.bodyOf content).all fun n => Text.allBlank (node {} n))
          (Node.introOf content) ++
        leavesOf seen (Node.bodyOf content) := by
  rcases Node.item_cases content with ⟨intro, rest, rfl, hintro, hbody⟩ | ⟨hne, hintro, hbody⟩
  · rw [hintro, hbody, leaves]
  · rw [hintro, hbody, leaves]
    · rfl
    · exact hne

/-- Nodes of which none shows anything show nothing together. -/
theorem payloads_leavesOf_false {nodes : List Node}
    (h : ∀ m ∈ nodes, payloads (leaves false m) = []) : payloads (leavesOf false nodes) = [] := by
  induction nodes with
  | nil => rfl
  | cons m nodes ih =>
    obtain ⟨hm, hnodes⟩ := List.forall_mem_cons.mp h
    rw [leavesOf, payloads_append, hm, ih hnodes]
    rfl

/-- Where the introductions around it are not seen, a node shows nothing. -/
theorem payloads_leaves_false (n : Node) : payloads (leaves false n) = [] := by
  induction n using Node.induction_below with
  | step n ih =>
    cases n with
    | document content | paragraph content | orderedList attrs content | listItemIntro content =>
      rw [leaves]
      exact payloads_leavesOf_false fun m hm => ih m (.of_mem hm)
    | listItem content =>
      rw [leaves_listItem, Bool.false_and, payloads_append,
        payloads_leavesOf_false fun m hm => ih m (Node.below_of_mem_introOf hm),
        payloads_leavesOf_false fun m hm => ih m (Node.below_of_mem_bodyOf hm)]
      rfl
    | text | inlineFormula | displayFormula | unknown => rfl

/-! ## What the nodes show -/

theorem shown_document (content : List Node) :
    shown (.document content) = content.flatMap shown := by
  rw [shown, leaves, payloads_leavesOf]

theorem shown_paragraph (content : List Node) :
    shown (.paragraph content) = content.flatMap shown := by
  rw [shown, leaves, payloads_leavesOf]

theorem shown_orderedList (attrs : ListAttrs) (content : List Node) :
    shown (.orderedList attrs content) = content.flatMap shown := by
  rw [shown, leaves, payloads_leavesOf]

/-- An introduction is shown when the item has anything else to show. -/
theorem shown_listItem (content : List Node) :
    shown (.listItem content) =
      (if (Node.listItem content).isBlank then [] else (Node.introOf content).flatMap shown) ++
        (Node.bodyOf content).flatMap shown := by
  have hblank : ((Node.bodyOf content).all fun n => Text.allBlank (node {} n)) =
      (Node.listItem content).isBlank := by
    rw [Node.isBlank_listItem, Bool.eq_iff_iff, Node.areBlank_iff]
    simp [allBlank_node]
  rw [shown, leaves_listItem, payloads_append, payloads_leavesOf, hblank]
  cases (Node.listItem content).isBlank with
  | true =>
    have hnone : payloads (leavesOf false (Node.introOf content)) = [] :=
      payloads_leaves_false (.listItemIntro (Node.introOf content))
    simp [hnone]
  | false => simp [payloads_leavesOf]

/-- **In a blank node there is nothing to show.** -/
theorem shown_eq_nil_of_isBlank (n : Node) (h : n.isBlank = true) : shown n = [] := by
  induction n using Node.induction_below with
  | step n ih =>
    have hsub {nodes : List Node} (hbelow : ∀ m ∈ nodes, m.Below n)
        (hblank : Node.areBlank nodes = true) : nodes.flatMap shown = [] :=
      List.flatMap_eq_nil_iff.mpr fun m hm =>
        ih m (hbelow m hm) ((Node.areBlank_iff nodes).mp hblank m hm)
    cases n with
    | document content => exact absurd h (by simp [Node.isBlank])
    | paragraph content =>
      rw [Node.isBlank] at h
      rw [shown_paragraph]
      exact hsub (fun m hm => .of_mem hm) h
    | text t =>
      rw [Node.isBlank] at h
      rw [shown, leaves, payloads_leaf, if_pos h]
    | inlineFormula attrs | displayFormula attrs =>
      rw [Node.isBlank] at h
      rw [shown, leaves, payloads_leaf, if_pos h]
    | orderedList attrs content =>
      rw [Node.isBlank] at h
      rw [shown_orderedList]
      exact hsub (fun m hm => .of_mem hm) h
    | listItem content =>
      rw [shown_listItem, if_pos h]
      rw [Node.isBlank_listItem] at h
      exact hsub (fun m hm => Node.below_of_mem_bodyOf hm) h
    | listItemIntro content => exact payloads_leaves_false (.listItemIntro content)
    | unknown => rfl

/-! ## Filler -/

/-- **The words of the markup** between the payloads. -/
inductive MarkupWord : List Char → Prop
  | question : MarkupWord "\\question".toList
  | dollar : MarkupWord ['$']
  | beginEquation : MarkupWord (beginEnv "equation".toList)
  | endEquation : MarkupWord (endEnv "equation".toList)
  | beginLevel (level : PartLevel) : MarkupWord (beginEnv level.environment)
  | endLevel (level : PartLevel) : MarkupWord (endEnv level.environment)
  | beginColumns (n : UInt32) :
      MarkupWord (beginEnv "multicols".toList ++ ['\x7b'] ++ Number.natText n.toNat ++ ['\x7d'])
  | endColumns : MarkupWord (endEnv "multicols".toList)
  | part (level : PartLevel) : MarkupWord level.command
  | uplevel : MarkupWord "\\uplevel\x7b".toList
  | closing : MarkupWord ['\x7d']

/-- **Filler**: blanks and words of the markup, in any order. -/
inductive Filler : List Char → Prop
  | nil : Filler []
  | blank {c : Char} {s : List Char} (hc : Text.isBlank c = true) (hs : Filler s) : Filler (c :: s)
  | word {w s : List Char} (hw : MarkupWord w) (hs : Filler s) : Filler (w ++ s)

namespace Filler

theorem append {s t : List Char} (hs : Filler s) (ht : Filler t) : Filler (s ++ t) := by
  induction hs with
  | nil => exact ht
  | blank hc _ ih => exact .blank hc ih
  | word hw _ ih =>
    rw [List.append_assoc]
    exact .word hw ih

theorem of_allBlank {s : List Char} (h : Text.allBlank s = true) : Filler s := by
  induction s with
  | nil => exact .nil
  | cons c s ih =>
    rw [Text.allBlank_cons, Bool.and_eq_true] at h
    exact .blank h.1 (ih h.2)

theorem of_word {w : List Char} (hw : MarkupWord w) : Filler w := by
  have h := word hw nil
  rwa [List.append_nil] at h

end Filler

/-! ## Payloads with filler around them -/

/-- **`Woven ps s`** says that the text `s` is the payloads `ps`, in their order, each once and
unaltered, with filler before, between, and after them. -/
inductive Woven : List (List Char) → List Char → Prop
  | filler {m : List Char} (hm : Filler m) : Woven [] m
  | payload {ps : List (List Char)} {m s : List Char} (p : List Char) (hm : Filler m)
      (hs : Woven ps s) : Woven (p :: ps) (m ++ p ++ s)

namespace Woven

variable {ps qs : List (List Char)} {s t m : List Char}

theorem before (hm : Filler m) (hs : Woven ps s) : Woven ps (m ++ s) := by
  cases hs with
  | filler hs => exact .filler (hm.append hs)
  | payload p hn hs =>
    rw [← List.append_assoc, ← List.append_assoc]
    exact .payload p (hm.append hn) hs

theorem append (hs : Woven ps s) (ht : Woven qs t) : Woven (ps ++ qs) (s ++ t) := by
  induction hs with
  | filler hm => exact ht.before hm
  | payload p hm _ ih =>
    rw [List.append_assoc]
    exact .payload p hm ih

theorem after (hs : Woven ps s) (hm : Filler m) : Woven ps (s ++ m) := by
  have h := hs.append (.filler hm)
  rwa [List.append_nil] at h

/-- A payload by itself. -/
theorem single (p : List Char) : Woven [p] p := by
  have h := payload p .nil (.filler .nil)
  rwa [List.nil_append, List.append_nil] at h

/-- Texts joined with blanks between them. -/
theorem join {sep : List Char} (hsep : Text.allBlank sep = true) {nodes : List Node}
    {parts : List (List Char)} (h : List.Forall₂ (fun n s => Woven (shown n) s) nodes parts) :
    Woven (nodes.flatMap shown) (Text.join sep parts) := by
  induction h with
  | nil => exact .filler .nil
  | cons hn htail ih =>
    cases htail with
    | nil => simpa [Text.join] using hn
    | cons hm h =>
      rw [List.flatMap_cons, Text.join]
      exact (hn.after (.of_allBlank hsep)).append ih

end Woven

/-! ## The markup of one node -/

section

variable {ps qs : List (List Char)}

/-- A payload of a leaf: it is shown unless it is blank. -/
theorem woven_leaf (s : List Char) : Woven (payloads [⟨s, true⟩]) s := by
  rw [payloads_leaf]
  split
  · next h => exact .filler (.of_allBlank h)
  · exact .single s

theorem woven_inlineFormula (code : List Char) :
    Woven (payloads [⟨code, true⟩]) (inlineFormula code) := by
  rw [payloads_leaf, inlineFormula]
  split
  · exact .filler .nil
  · exact ((Woven.single code).before (.of_word .dollar)).after (.of_word .dollar)

theorem woven_displayFormula (code : List Char) :
    Woven (payloads [⟨code, true⟩]) (displayFormula code) := by
  have hline : Filler ['\n'] := .of_allBlank (by decide)
  rw [payloads_leaf, displayFormula]
  split
  · exact .filler .nil
  · split
    · exact .single code
    · exact (((Woven.single code).before ((Filler.of_word .beginEquation).append hline)).after
        hline).after (.of_word .endEquation)

theorem woven_paragraph (next : Bool) {parts : List (List Char)}
    (h : Woven ps (Text.join [' '] parts))
    (hblank : parts.all Text.allBlank = true → ps = []) : Woven ps (paragraph next parts) := by
  have hsep : Text.allBlank [' '] = true := by decide
  rw [← allBlank_join hsep] at hblank
  rw [paragraph]
  split
  · next hb =>
    rw [hblank hb]
    exact .filler .nil
  · split
    · exact h.after (.of_allBlank (by decide))
    · exact h

theorem woven_columns (n : UInt32) {items : List Char} (h : Woven ps items) :
    Woven ps (columns n items) := by
  have hline : Filler ['\n'] := .of_allBlank (by decide)
  have hbegin : Filler (beginEnv "multicols".toList ++ ['\x7b'] ++ Number.natText n.toNat ++
      ['\x7d', '\n']) := by
    have hwords := (Filler.of_word (.beginColumns n)).append hline
    rwa [List.append_assoc] at hwords
  exact ((h.before hbegin).after hline).after (.of_word .endColumns)

theorem woven_list (attrs : ListAttrs) (level : PartLevel) {items : List (List Char)}
    (h : Woven ps (Text.join ['\n'] (items.map ([' ', ' '] ++ ·))))
    (hblank : items.all Text.allBlank = true → ps = []) : Woven ps (list attrs level items) := by
  have hline : Filler ['\n'] := .of_allBlank (by decide)
  rw [← allBlank_indented] at hblank
  rw [list]
  split
  · next hb =>
    rw [hblank hb]
    exact .filler .nil
  · refine ((Woven.before ((Filler.of_word (.beginLevel level)).append hline) ?_).after
      hline).after (.of_word (.endLevel level))
    cases attrs.orientation with
    | vertical => exact woven_columns attrs.gridCols h
    | horizontal => exact h

/-- An item shows its introduction only together with its body. -/
theorem woven_item (level : PartLevel) {intro body : List Char} (hintro : Woven ps intro)
    (hnone : Text.allBlank intro = true → ps = []) (hbody : Woven qs body)
    (hblank : Text.allBlank body = true → qs = []) :
    Woven ((if Text.allBlank body then [] else ps) ++ qs) (item level intro body) := by
  have hblanks : Filler [' '] := .of_allBlank (by decide)
  have hpart : Woven qs (level.command ++ [' '] ++ body) :=
    hbody.before ((Filler.of_word (.part level)).append hblanks)
  rw [item]
  split
  · next hb =>
    rw [hblank hb]
    exact .filler .nil
  · split
    · next hempty =>
      rw [hnone (by rw [hempty]; rfl)]
      exact hpart
    · have hline : Filler ['\n'] := .of_allBlank (by decide)
      have hopening := hintro.before (.of_word .uplevel)
      exact (hopening.after ((Filler.of_word .closing).append hline)).append hpart

end

/-! ## The theorem -/

/-- Nodes whose markups are all blank show nothing. -/
theorem SetAt.flatMap_shown_eq_nil {level : PartLevel} {nodes : List Node}
    {parts : List (List Char)} (hset : SetAt level nodes parts)
    (hblank : parts.all Text.allBlank = true) : nodes.flatMap shown = [] := by
  have hnodes := all_allBlank_eq_areBlank (hset.forall₂ fun m _ ctx _ => allBlank_node m ctx)
  rw [hblank, eq_comm, Node.areBlank_iff] at hnodes
  exact List.flatMap_eq_nil_iff.mpr fun m hm => shown_eq_nil_of_isBlank m (hnodes m hm)

/-- **The markup of a node keeps what the node shows**, in every context. -/
theorem woven_node (n : Node) (ctx : Context) : Woven (shown n) (node ctx n) := by
  induction n using Node.induction_below generalizing ctx with
  | step n ih =>
    have hline : Text.allBlank ['\n'] = true := by decide
    have hspace : Text.allBlank [' '] = true := by decide
    have hsub {level : PartLevel} {nodes : List Node} {parts : List (List Char)}
        (hset : SetAt level nodes parts) (hbelow : ∀ m ∈ nodes, m.Below n) :
        List.Forall₂ (fun n s => Woven (shown n) s) nodes parts :=
      hset.forall₂ fun m hm ctx _ => ih m (hbelow m hm) ctx
    cases n with
    | document content =>
      have hmark : Filler questionMark := .append (.of_word .question) (.of_allBlank hspace)
      rw [node, shown_document]
      exact (Woven.join hline (hsub (setAt_stream _ content) fun m hm => .of_mem hm)).before hmark
    | paragraph content =>
      have hset := setAt_apart .parts content
      rw [node, shown_paragraph]
      exact woven_paragraph _ (.join hspace (hsub hset fun m hm => .of_mem hm))
        hset.flatMap_shown_eq_nil
    | text t =>
      rw [node]
      exact woven_leaf t.toList
    | inlineFormula attrs =>
      rw [node]
      exact woven_inlineFormula attrs.source.toList
    | displayFormula attrs =>
      rw [node]
      exact woven_displayFormula attrs.source.toList
    | orderedList attrs content =>
      have hset := setAt_apart ctx.level content
      have hindented : List.Forall₂ (fun n s => Woven (shown n) s) content
          ((apart ctx.level content).map ([' ', ' '] ++ ·)) :=
        List.forall₂_map_right_iff.mpr ((hsub hset fun m hm => .of_mem hm).imp fun _ _ h =>
          h.before (.of_allBlank (by decide)))
      rw [node, shown_orderedList]
      exact woven_list attrs _ (.join hline hindented) hset.flatMap_shown_eq_nil
    | listItem content =>
      have hintro := setAt_apart .parts (Node.introOf content)
      have hbody := setAt_stream ctx.level.inside (Node.bodyOf content)
      have hblank := allBlank_node (.listItem content) ctx
      rw [node_listItem, allBlank_item] at hblank
      rw [node_listItem, shown_listItem, ← hblank]
      refine woven_item ctx.level (woven_paragraph false
          (.join hspace (hsub hintro fun m hm => Node.below_of_mem_introOf hm))
          hintro.flatMap_shown_eq_nil) ?_
        (.join hline (hsub hbody fun m hm => Node.below_of_mem_bodyOf hm)) ?_
      · rw [allBlank_paragraph]
        exact hintro.flatMap_shown_eq_nil
      · rw [allBlank_join hline]
        exact hbody.flatMap_shown_eq_nil
    | listItemIntro content =>
      rw [node, shown_eq_nil_of_isBlank (.listItemIntro content) rfl]
      exact .filler .nil
    | unknown =>
      rw [node]
      exact .filler .nil

/-- **Setting a document loses, alters, repeats and reorders nothing.**  The markup is the payloads
of the visible leaves that are not blank, in the order of the document, with filler around them. -/
theorem woven_render (n : Node) : Woven (shown n) (render n).toList := by
  rw [render, String.toList_ofList]
  exact woven_node n {}

/-- The introduction of an item that is blank otherwise is not seen. -/
example :
    shown (.listItem [.listItemIntro [.text "Given"], .list
        [.listItem [.listItemIntro [.text "Alone"], .text " "], .listItem [.inline "x"]]]) =
      ["Given".toList, "x".toList] := by decide

end ExamPress.Markup
