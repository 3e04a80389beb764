import ExamPress.Proofs.Markup.Label
import Mathlib.Data.List.TakeWhile

/-!
# Carriage returns in a name

A name is pressed into one line by cutting the markup of its nodes into lines, and a line is ended
by a line feed only.  So no line feed gets into a name, whatever its payloads hold.  A carriage
return by itself is an ordinary character to this, although it ends a line for the typesetter.  It
gets lost where it stands at the edge of a line, since the blanks there are taken off, and stays
where something stands on both sides of it.

What is around a payload in the markup is not known beforehand, so a carriage return is only sure to
get lost if the line feed at the edge of its line stands in the same payload.

## What is here

* `Text.ReturnsAtEdges` — every carriage return is at an edge of its line;
* `Text.return_not_mem_trim` — then there is none in a line without the blanks at its ends;
* `ReturnSafe` — nodes whose payloads are such texts, and `returnsAtEdges_node` that their markup
  is one;
* `return_not_mem_label` — no carriage return gets into the name made of such a node.
-/

set_option autoImplicit false

namespace ExamPress

open Document (Node ListAttrs)

namespace Text

/-! ## The edges of lines -/

variable {s t u v : List Char}

/-- **Every carriage return is at an edge of its line**: only blanks stand between it and a line
feed, before it or after it. -/
def ReturnsAtEdges (s : List Char) : Prop :=
  ∀ u v, s = u ++ '\r' :: v → '\n' ∈ v.takeWhile isBlank ∨ '\n' ∈ u.reverse.takeWhile isBlank

theorem returnsAtEdges_iff :
    ReturnsAtEdges s ↔ ∀ i < s.length, s[i]? = some '\r' →
      '\n' ∈ (s.drop (i + 1)).takeWhile isBlank ∨ '\n' ∈ (s.take i).reverse.takeWhile isBlank := by
  constructor
  · intro h i hi hreturn
    obtain ⟨_, hget⟩ := List.getElem?_eq_some_iff.mp hreturn
    refine h _ _ ?_
    rw [← hget, List.getElem_cons_drop, List.take_append_drop]
  · rintro h u v rfl
    simpa using h u.length (by simp) (by simp)

instance (s : List Char) : Decidable (ReturnsAtEdges s) :=
  decidable_of_iff _ returnsAtEdges_iff.symm

theorem mem_takeWhile_append {c : Char} (h : c ∈ s.takeWhile isBlank) (t : List Char) :
    c ∈ (s ++ t).takeWhile isBlank := by
  rw [List.takeWhile_append]
  split
  · next hall =>
    rw [(List.takeWhile_prefix isBlank).eq_of_length hall] at h
    exact List.mem_append_left _ h
  · exact h

namespace ReturnsAtEdges

theorem of_not_mem (h : '\r' ∉ s) : ReturnsAtEdges s := by
  rintro u v rfl
  exact absurd (List.mem_append_right u List.mem_cons_self) h

/-- What is put before or after a text does not move the edges of its lines away. -/
theorem append (hs : ReturnsAtEdges s) (ht : ReturnsAtEdges t) : ReturnsAtEdges (s ++ t) := by
  intro u v h
  rcases List.append_eq_append_iff.mp h with ⟨w, rfl, rfl⟩ | ⟨w, rfl, hw⟩
  · refine (ht w v rfl).imp_right fun hbefore => ?_
    rw [List.reverse_append]
    exact mem_takeWhile_append hbefore _
  · cases w with
    | nil => exact .inl ((ht [] v hw.symm).resolve_right List.not_mem_nil)
    | cons c w =>
      obtain ⟨rfl, rfl⟩ := List.cons.inj hw
      exact (hs u w rfl).imp_left fun hafter => mem_takeWhile_append hafter _

/-- Texts put together with something between each two that holds no carriage return. -/
theorem join {sep : List Char} (hsep : '\r' ∉ sep) {parts : List (List Char)}
    (h : ∀ p ∈ parts, ReturnsAtEdges p) : ReturnsAtEdges (join sep parts) := by
  fun_induction Text.join sep parts with
  | case1 => exact .of_not_mem List.not_mem_nil
  | case2 p => exact h p (List.mem_singleton_self p)
  | case3 p q parts ih =>
    rw [List.forall_mem_cons] at h
    exact (h.1.append (.of_not_mem hsep)).append (ih h.2)

end ReturnsAtEdges

theorem allBlank_eq_false_of_trimStart {c : Char} (h : trimStart s = u ++ c :: v)
    (hc : isBlank c = true) : allBlank u = false := by
  have hhead := List.head?_dropWhile_not isBlank s
  rw [← trimStart, h] at hhead
  cases u with
  | nil => exact absurd hc (by simpa using hhead)
  | cons d u =>
    have hd : isBlank d = false := by simpa using hhead
    rw [allBlank_cons, hd, Bool.false_and]

/-- A blank inside a trimmed text has something on both sides. -/
theorem allBlank_eq_false_of_trim {c : Char} (h : trim s = u ++ c :: v) (hc : isBlank c = true) :
    allBlank u = false ∧ allBlank v = false := by
  constructor
  · obtain ⟨b, hb⟩ := prefix_trim s
    rw [h, List.append_assoc, List.cons_append] at hb
    exact allBlank_eq_false_of_trimStart hb.symm hc
  · have hreverse : trimStart (trimStart s).reverse = v.reverse ++ c :: u.reverse := by
      rw [← List.reverse_reverse (trimStart _)]
      exact (congrArg List.reverse h).trans (by simp)
    have hv := allBlank_eq_false_of_trimStart hreverse hc
    rwa [allBlank, List.all_reverse] at hv

/-- Blanks that a text starts with do not go beyond what is not blank. -/
theorem takeWhile_append_of_allBlank_eq_false (h : allBlank s = false) (t : List Char) :
    (s ++ t).takeWhile isBlank = s.takeWhile isBlank := by
  rw [List.takeWhile_append, if_neg]
  intro hall
  have hself := (List.takeWhile_prefix isBlank).eq_of_length hall
  rw [List.takeWhile_eq_self_iff] at hself
  rw [allBlank, List.all_eq_true.mpr hself] at h
  cases h

/-- **There is no carriage return in a trimmed line** of a text in which they all are at the edges
of lines. -/
theorem return_not_mem_trim (hs : ReturnsAtEdges s) {line : List Char} (hin : line <:+: s)
    (hline : '\n' ∉ line) : '\r' ∉ trim line := by
  intro hmem
  obtain ⟨u, v, hsplit⟩ := List.append_of_mem hmem
  obtain ⟨hu, hv⟩ := allBlank_eq_false_of_trim hsplit (by decide)
  have hnone : '\n' ∉ u ++ '\r' :: v := hsplit ▸ fun h => hline ((infix_trim line).subset h)
  obtain ⟨before, after, rfl⟩ := hsplit ▸ (infix_trim line).trans hin
  have hedge := hs (before ++ u) (v ++ after) (by simp)
  rw [List.reverse_append, takeWhile_append_of_allBlank_eq_false hv,
    takeWhile_append_of_allBlank_eq_false (by rwa [allBlank, List.all_reverse])] at hedge
  rcases hedge with h | h
  · exact hnone (List.mem_append_right u (List.mem_cons_of_mem _ ((List.takeWhile_subset _) h)))
  · exact hnone (List.mem_append_left _ (List.mem_reverse.mp ((List.takeWhile_subset _) h)))

end Text

namespace Markup

open Text (ReturnsAtEdges)

/-! ## The markup of one node -/

variable {parts : List (List Char)} {code : List Char}

theorem returnsAtEdges_inlineFormula (h : ReturnsAtEdges code) :
    ReturnsAtEdges (inlineFormula code) := by
  rw [inlineFormula]
  split
  · exact .of_not_mem List.not_mem_nil
  · have hdollar : ReturnsAtEdges ['$'] := .of_not_mem (by decide)
    exact (hdollar.append h).append hdollar

/-- What stands in an environment, on lines of its own. -/
theorem returnsAtEdges_inEnv {name : List Char} (hname : '\r' ∉ name) (h : ReturnsAtEdges code) :
    ReturnsAtEdges (beginEnv name ++ ['\n'] ++ code ++ ['\n'] ++ endEnv name) := by
  have hopen : ReturnsAtEdges "\\begin\x7b".toList := .of_not_mem (by decide)
  have hclose : ReturnsAtEdges "\\end\x7b".toList := .of_not_mem (by decide)
  have hbrace : ReturnsAtEdges ['\x7d'] := .of_not_mem (by decide)
  have hline : ReturnsAtEdges ['\n'] := .of_not_mem (by decide)
  have hword : ReturnsAtEdges name := .of_not_mem hname
  exact ((((hopen.append hword).append hbrace).append hline |>.append h).append hline).append
    ((hclose.append hword).append hbrace)

theorem returnsAtEdges_displayFormula (h : ReturnsAtEdges code) :
    ReturnsAtEdges (displayFormula code) := by
  rw [displayFormula]
  split
  · exact .of_not_mem List.not_mem_nil
  · split
    · exact h
    · exact returnsAtEdges_inEnv (by decide) h

theorem returnsAtEdges_paragraph (next : Bool) (h : ∀ p ∈ parts, ReturnsAtEdges p) :
    ReturnsAtEdges (paragraph next parts) := by
  have htext : ReturnsAtEdges (Text.join [' '] parts) := .join (by decide) h
  rw [paragraph]
  split
  · exact .of_not_mem List.not_mem_nil
  · split
    · exact htext.append (.of_not_mem (by decide))
    · exact htext

theorem returnsAtEdges_columns (n : UInt32) (h : ReturnsAtEdges code) :
    ReturnsAtEdges (columns n code) := by
  have hbegin : ReturnsAtEdges (beginEnv "multicols".toList ++ ['\x7b']) := .of_not_mem (by decide)
  have hdigits : ReturnsAtEdges (Number.natText n.toNat) := .of_not_mem fun hmem =>
    absurd (Number.isDigit_of_mem_natText hmem) (by decide)
  have hbrace : ReturnsAtEdges ['\x7d', '\n'] := .of_not_mem (by decide)
  have hline : ReturnsAtEdges ['\n'] := .of_not_mem (by decide)
  have hend : ReturnsAtEdges (endEnv "multicols".toList) := .of_not_mem (by decide)
  exact ((((hbegin.append hdigits).append hbrace).append h).append hline).append hend

theorem returnsAtEdges_list (attrs : ListAttrs) (level : PartLevel)
    (h : ∀ p ∈ parts, ReturnsAtEdges p) : ReturnsAtEdges (list attrs level parts) := by
  have hitems : ReturnsAtEdges (Text.join ['\n'] (parts.map ([' ', ' '] ++ ·))) := by
    refine .join (by decide) fun p hp => ?_
    obtain ⟨q, hq, rfl⟩ := List.mem_map.mp hp
    exact (ReturnsAtEdges.of_not_mem (by decide)).append (h q hq)
  rw [list]
  split
  · exact .of_not_mem List.not_mem_nil
  · refine returnsAtEdges_inEnv (by cases level <;> decide) ?_
    cases attrs.orientation with
    | vertical => exact returnsAtEdges_columns _ hitems
    | horizontal => exact hitems

theorem returnsAtEdges_item (level : PartLevel) {intro body : List Char}
    (hintro : ReturnsAtEdges intro) (hbody : ReturnsAtEdges body) :
    ReturnsAtEdges (item level intro body) := by
  have hcommand : '\r' ∉ level.command ++ [' '] := by cases level <;> decide
  have hpart := (ReturnsAtEdges.of_not_mem hcommand).append hbody
  rw [item]
  split
  · exact .of_not_mem List.not_mem_nil
  · split
    · exact hpart
    · exact (((ReturnsAtEdges.of_not_mem (by decide)).append hintro).append
        (.of_not_mem (by decide))).append hpart

/-! ## Trees -/

/-- The payloads of a node and of all that stands in it have their carriage returns at the edges of
lines. -/
def ReturnSafe (n : Node) : Prop :=
  ∀ m : Node, m.Within n → ∀ p ∈ m.payload?, ReturnsAtEdges p

instance (n : Node) : Decidable (ReturnSafe n) :=
  inferInstanceAs (Decidable (∀ m : Node, m.Within n → ∀ p ∈ m.payload?, ReturnsAtEdges p))

theorem ReturnSafe.of_below {m n : Node} (h : ReturnSafe n) (hm : m.Below n) : ReturnSafe m :=
  fun k hk => h k (hk.trans hm.within)

/-- **In the markup of a node every carriage return is at an edge of its line**, if it is in each
payload. -/
theorem returnsAtEdges_node {n : Node} (h : ReturnSafe n) (ctx : Context) :
    ReturnsAtEdges (node ctx n) := by
  induction n using Node.induction_below generalizing ctx with
  | step n ih =>
    have hparts {level : PartLevel} {nodes : List Node} {parts : List (List Char)}
        (hset : SetAt level nodes parts) (hsub : ∀ m ∈ nodes, m.Below n) :
        ∀ p ∈ parts, ReturnsAtEdges p :=
      hset.forall_mem fun m hm ctx _ => ih m (hsub m hm) (h.of_below (hsub m hm)) ctx
    cases n with
    | document content =>
      exact (ReturnsAtEdges.of_not_mem (by decide)).append
        (.join (by decide) (hparts (setAt_stream .parts content) fun m hm => .of_mem hm))
    | paragraph content =>
      exact returnsAtEdges_paragraph _ (hparts (setAt_apart .parts content) fun m hm => .of_mem hm)
    | text t => exact h _ .self _ rfl
    | inlineFormula attrs => exact returnsAtEdges_inlineFormula (h _ .self _ rfl)
    | displayFormula attrs => exact returnsAtEdges_displayFormula (h _ .self _ rfl)
    | orderedList attrs content =>
      exact returnsAtEdges_list attrs _
        (hparts (setAt_apart ctx.level content) fun m hm => .of_mem hm)
    | listItem content =>
      have hintro := hparts (setAt_apart .parts (Node.introOf content))
        fun m hm => Node.below_of_mem_introOf hm
      have hbody := hparts (setAt_stream ctx.level.inside (Node.bodyOf content))
        fun m hm => Node.below_of_mem_bodyOf hm
      rw [node_listItem]
      exact returnsAtEdges_item _ (returnsAtEdges_paragraph false hintro) (.join (by decide) hbody)
    | listItemIntro content | unknown => exact .of_not_mem List.not_mem_nil

/-! ## The name of a source -/

/-- **No carriage return gets into a name** in whose payloads every one is at an edge of its
line. -/
theorem return_not_mem_label {n : Node} (h : ReturnSafe n) : '\r' ∉ (label n).toList := by
  have hparts : ∀ part ∈ apart .parts n.children, ReturnsAtEdges part :=
    (setAt_apart .parts n.children).forall_mem fun m hm ctx _ =>
      returnsAtEdges_node (h.of_below (.of_mem hm)) ctx
  rw [label, String.toList_ofList]
  intro hmem
  rcases Text.mem_join hmem with hsep | ⟨line, hline, hreturn⟩
  · exact absurd hsep (by decide)
  · obtain ⟨-, part, hpart, whole, hwhole, rfl⟩ := mem_labelLines_iff.mp hline
    obtain ⟨hin, hnone⟩ := Text.mem_lines hwhole
    exact Text.return_not_mem_trim (hparts part hpart) hin hnone hreturn

end Markup

end ExamPress
