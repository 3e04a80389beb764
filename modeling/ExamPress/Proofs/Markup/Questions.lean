import ExamPress.Proofs.Markup.Label
import ExamPress.Proofs.Markup.Mark
import ExamPress.Proofs.Text.Occurrences
import Mathlib.Algebra.GroupWithZero.Nat

/-!
# The questions in the markup

The command that begins a question is set by documents and by nothing else, and a document may
stand anywhere: by itself, where it is set as a question, but also in a paragraph or in an item.
So how many questions are typeset can be read off the tree, when no payload holds the command:
it is the number of the documents in it that are set at all.

Two words are counted together, the command and the command with the blank after it.  The blank may
part two texts and also end the command, so of the longer word it is only plain that texts put
together hold no fewer; that they hold no more comes from the shorter one.

## What is here

* `Node.questionsSet` — how many documents are set with a node;
* `HasQuestions` — the questions in a text, with `HasQuestions.append` for texts that are parted;
* `hasQuestions_paragraph`, `hasQuestions_list`, `hasQuestions_item` — those in the markup of one
  node;
* `hasQuestions_node` — the theorem;
* `newline_not_mem_label`, `hasQuestions_label` — the name of a source is one line, and it holds no
  question when no document is set in it.
-/

set_option autoImplicit false

namespace ExamPress

open Document (Node ListAttrs)
open Text (occurrences Parted)

/-! ## Documents that are set -/

namespace Document.Node

mutual

/-- **How many documents are set with a node.**  An introduction is set with its item, unless that
is blank otherwise. -/
def questionsSet : Node → Nat
  | document content => 1 + questionsSetOf content
  | paragraph content | orderedList _ content => questionsSetOf content
  | listItem (listItemIntro intro :: content) =>
    (if areBlank content then 0 else questionsSetOf intro) + questionsSetOf content
  | listItem content => questionsSetOf content
  | text _ | inlineFormula _ | displayFormula _ | listItemIntro _ | unknown => 0

/-- How many documents are set with several nodes. -/
def questionsSetOf : List Node → Nat
  | [] => 0
  | n :: nodes => questionsSet n + questionsSetOf nodes

end

theorem questionsSet_listItem (content : List Node) :
    questionsSet (listItem content) =
      (if areBlank (bodyOf content) then 0 else questionsSetOf (introOf content)) +
        questionsSetOf (bodyOf content) := by
  rcases item_cases content with ⟨intro, rest, rfl, hintro, hbody⟩ | ⟨hne, hintro, hbody⟩
  · rw [hintro, hbody, questionsSet]
  · rw [hintro, hbody, questionsSet]
    · simp [questionsSetOf]
    · exact hne

theorem questionsSetOf_eq_zero_iff {nodes : List Node} :
    questionsSetOf nodes = 0 ↔ ∀ n ∈ nodes, questionsSet n = 0 := by
  induction nodes with
  | nil => simp [questionsSetOf]
  | cons n nodes ih => simp [questionsSetOf, ih]

end Document.Node

namespace Markup

/-! ## The questions in a text -/

/-- The command that begins a question, without the blank after it. -/
def questionWord : List Char := "\\question".toList

/-- **The questions in a text**: so often the command stands there, each time with the blank after
it. -/
structure HasQuestions (s : List Char) (n : Nat) : Prop where
  word : occurrences questionWord s = n
  mark : occurrences questionMark s = n

theorem questionWord_ne_nil : questionWord ≠ [] := by decide

theorem prefix_questionMark : questionWord <+: questionMark := by decide

namespace HasQuestions

variable {s v : List Char} {m n : Nat}

/-- The longer word does not occur more often than the shorter one. -/
theorem of_le (hword : occurrences questionWord s = n) (hmark : n ≤ occurrences questionMark s) :
    HasQuestions s n :=
  ⟨hword, Nat.le_antisymm (hword ▸ Text.occurrences_le_of_prefix prefix_questionMark s) hmark⟩

theorem of_lacks (h : ¬questionWord <:+: s) : HasQuestions s 0 :=
  of_le ((Text.occurrences_eq_zero_iff questionWord_ne_nil).mpr h) (Nat.zero_le _)

theorem lacks (h : HasQuestions s 0) : ¬questionWord <:+: s :=
  (Text.occurrences_eq_zero_iff questionWord_ne_nil).mp h.word

/-- There is no question in a text without a backslash. -/
theorem of_not_mem (h : '\\' ∉ s) : HasQuestions s 0 :=
  of_lacks fun hin => h (hin.subset (by decide))

/-- **Texts that are parted have the questions of both.** -/
theorem append (hs : HasQuestions s m) (hv : HasQuestions v n) (h : Parted questionWord s v) :
    HasQuestions (s ++ v) (m + n) := by
  refine of_le ?_ ?_
  · rw [Text.occurrences_append questionWord_ne_nil h, hs.word, hv.word]
  · have hle := Text.le_occurrences_append questionMark s v
    rwa [hs.mark, hv.mark] at hle

end HasQuestions

theorem hasQuestions_nil : HasQuestions [] 0 := .of_not_mem (by simp)

theorem hasQuestions_questionMark : HasQuestions questionMark 1 := ⟨by decide, by decide⟩

/-- A blank text has no question. -/
theorem eq_zero_of_allBlank {s : List Char} {n : Nat} (h : HasQuestions s n)
    (hblank : Text.allBlank s = true) : n = 0 := by
  have hslash : '\\' ∉ s := by
    intro hmem
    exact absurd (List.all_eq_true.mp hblank '\\' hmem) (by decide)
  rw [← h.word, (HasQuestions.of_not_mem hslash).word]

/-! ## The questions in the markup of one node -/

variable {parts : List (List Char)} {ns : List Nat}

/-- Texts side by side. -/
theorem hasQuestions_join (sep : Char) (hsep : sep ∉ questionWord)
    (h : List.Forall₂ HasQuestions parts ns) : HasQuestions (Text.join [sep] parts) ns.sum := by
  have hslash : '\\' ≠ sep := fun heq => hsep (heq ▸ by decide)
  have hone : HasQuestions [sep] 0 := .of_not_mem (by simpa using hslash)
  fun_induction Text.join [sep] parts generalizing ns with
  | case1 =>
    cases h
    exact hasQuestions_nil
  | case2 p =>
    obtain ⟨n, ms, hp, hrest, rfl⟩ := List.forall₂_cons_left_iff.mp h
    cases hrest
    simpa using hp
  | case3 p q ps ih =>
    obtain ⟨n, ms, hp, hrest, rfl⟩ := List.forall₂_cons_left_iff.mp h
    rw [List.sum_cons]
    exact (hp.append hone (.of_head rfl hsep)).append (ih hrest) (.of_last (by simp) hsep)

theorem hasQuestions_paragraph (next : Bool) (h : List.Forall₂ HasQuestions parts ns) :
    HasQuestions (paragraph next parts) ns.sum := by
  have htext := hasQuestions_join ' ' (by decide) h
  rw [paragraph]
  split
  · next hblank =>
    rw [eq_zero_of_allBlank htext hblank]
    exact hasQuestions_nil
  · split
    · exact htext.append (.of_not_mem (s := ['\n']) (by decide)) (.of_head rfl (by decide))
    · exact htext

variable {code : List Char} {n : Nat}

theorem hasQuestions_inlineFormula (h : HasQuestions code n) :
    HasQuestions (inlineFormula code) n := by
  rw [inlineFormula]
  split
  · next hblank =>
    rw [eq_zero_of_allBlank h hblank]
    exact hasQuestions_nil
  · have hdollar : HasQuestions ['$'] 0 := .of_not_mem (by decide)
    have hopen := hdollar.append h (.of_last (by rfl) (by decide))
    rw [Nat.zero_add] at hopen
    exact hopen.append hdollar (.of_head rfl (by decide))

/-- What stands in an environment, on lines of its own. -/
theorem hasQuestions_inEnv {name : List Char} (hbegin : ¬questionWord <:+: beginEnv name)
    (hend : ¬questionWord <:+: endEnv name) (h : HasQuestions code n) :
    HasQuestions (beginEnv name ++ ['\n'] ++ code ++ ['\n'] ++ endEnv name) n := by
  have hline : HasQuestions ['\n'] 0 := .of_not_mem (by decide)
  have hfirst := (HasQuestions.of_lacks hbegin).append hline (.of_head rfl (by decide))
  have hopen := hfirst.append h (.of_last List.getLast?_concat (by decide))
  have hlast := hopen.append hline (.of_head rfl (by decide))
  simpa using hlast.append (.of_lacks hend) (.of_last List.getLast?_concat (by decide))

theorem hasQuestions_displayFormula (h : HasQuestions code n) :
    HasQuestions (displayFormula code) n := by
  rw [displayFormula]
  split
  · next hblank =>
    rw [eq_zero_of_allBlank h hblank]
    exact hasQuestions_nil
  · split
    · exact h
    · exact hasQuestions_inEnv (by decide) (by decide) h

theorem getLast?_closing (s : List Char) : (s ++ ['\x7d', '\n']).getLast? = some '\n' := by
  rw [List.getLast?_append]
  rfl

theorem hasQuestions_columns (k : UInt32) (h : HasQuestions code n) :
    HasQuestions (columns k code) n := by
  have hdigits : HasQuestions (Number.natText k.toNat) 0 := .of_not_mem (not_mem_natText _)
  have hbegin : HasQuestions (beginEnv "multicols".toList ++ ['\x7b']) 0 :=
    .of_lacks (by decide)
  have hbrace : HasQuestions ['\x7d', '\n'] 0 := .of_not_mem (by decide)
  have hline : HasQuestions ['\n'] 0 := .of_not_mem (by decide)
  have hend : HasQuestions (endEnv "multicols".toList) 0 := .of_lacks (by decide)
  have hcount := (hbegin.append hdigits (.of_last List.getLast?_concat (by decide))).append hbrace
    (.of_head rfl (by decide))
  have hitems := (hcount.append h (.of_last (getLast?_closing _) (by decide))).append hline
    (.of_head rfl (by decide))
  rw [columns]
  simpa using hitems.append hend (.of_last List.getLast?_concat (by decide))

theorem hasQuestions_list (attrs : ListAttrs) (level : PartLevel)
    (h : List.Forall₂ HasQuestions parts ns) : HasQuestions (list attrs level parts) ns.sum := by
  have hindented : List.Forall₂ HasQuestions (parts.map ([' ', ' '] ++ ·)) ns := by
    rw [List.forall₂_map_left_iff]
    refine h.imp fun s n hs => ?_
    have hblanks : HasQuestions [' ', ' '] 0 := .of_not_mem (by decide)
    simpa using hblanks.append hs (.of_last (by rfl) (by decide))
  have hitems := hasQuestions_join '\n' (by decide) hindented
  rw [list]
  split
  · next hblank =>
    rw [eq_zero_of_allBlank hitems hblank]
    exact hasQuestions_nil
  · refine hasQuestions_inEnv ?_ ?_ ?_
    · cases level <;> decide
    · cases level <;> decide
    · cases attrs.orientation with
      | vertical => exact hasQuestions_columns _ hitems
      | horizontal => exact hitems

theorem hasQuestions_item (level : PartLevel) {intro body : List Char} {m n : Nat}
    (hintro : HasQuestions intro m) (hbody : HasQuestions body n) :
    HasQuestions (item level intro body) ((if Text.allBlank body then 0 else m) + n) := by
  rw [item]
  split
  · next hblank =>
    rw [eq_zero_of_allBlank hbody hblank]
    exact hasQuestions_nil
  · next hnot =>
    have hcommand : HasQuestions (level.command ++ [' ']) 0 := by
      cases level <;> exact .of_lacks (by decide)
    have hpart := hcommand.append hbody (.of_last List.getLast?_concat (by decide))
    rw [Nat.zero_add] at hpart
    split
    · next hempty =>
      obtain rfl : 0 = m := by
        rw [hempty] at hintro
        exact hintro.word
      rwa [Nat.zero_add]
    · have hbegin : HasQuestions "\\uplevel\x7b".toList 0 := .of_lacks (by decide)
      have hend : HasQuestions ['\x7d', '\n'] 0 := .of_not_mem (by decide)
      have hwords := (hbegin.append hintro
        (.of_last (by rfl) (by decide))).append hend (.of_head rfl (by decide))
      simpa using hwords.append hpart (.of_last (getLast?_closing _) (by decide))

/-! ## The theorem -/

/-- The payloads of a node and of all that stands in it do not hold the command. -/
def QuestionFree (n : Node) : Prop :=
  ∀ m : Node, m.Within n → ∀ s ∈ m.payload?, ¬questionWord <:+: s

instance (n : Node) : Decidable (QuestionFree n) :=
  inferInstanceAs (Decidable (∀ m : Node, m.Within n → ∀ s ∈ m.payload?, ¬questionWord <:+: s))

theorem QuestionFree.of_below {m n : Node} (h : QuestionFree n) (hm : m.Below n) :
    QuestionFree m := fun k hk => h k (hk.trans hm.within)

/-- Nodes that are set one by one, with the questions of each. -/
theorem sum_questionsSet {nodes : List Node} {parts : List (List Char)}
    (h : List.Forall₂ (fun n s => HasQuestions s n.questionsSet) nodes parts) :
    ∃ ns, List.Forall₂ HasQuestions parts ns ∧ ns.sum = Node.questionsSetOf nodes := by
  induction h with
  | nil => exact ⟨[], .nil, rfl⟩
  | @cons n s nodes parts hs _ ih =>
    obtain ⟨ns, hns, hsum⟩ := ih
    exact ⟨n.questionsSet :: ns, .cons hs hns, by rw [List.sum_cons, hsum, Node.questionsSetOf]⟩

/-- **The questions in the markup of a node** are the documents that are set with it, in every
context. -/
theorem hasQuestions_node (n : Node) (hfree : QuestionFree n) (ctx : Context) :
    HasQuestions (node ctx n) n.questionsSet := by
  induction n using Node.induction_below generalizing ctx with
  | step n ih =>
    have hparts {level : PartLevel} {nodes : List Node} {parts : List (List Char)}
        (hset : SetAt level nodes parts) (hsub : ∀ m ∈ nodes, m.Below n) :
        ∃ ns, List.Forall₂ HasQuestions parts ns ∧ ns.sum = Node.questionsSetOf nodes :=
      sum_questionsSet (hset.forall₂ fun m hm ctx _ =>
        ih m (hsub m hm) (hfree.of_below (hsub m hm)) ctx)
    have hleaf : ∀ s ∈ n.payload?, HasQuestions s 0 :=
      fun s hs => .of_lacks (hfree n .self s hs)
    cases n with
    | document content =>
      obtain ⟨ns, hns, hsum⟩ := hparts (setAt_stream .parts content) fun m hm => .of_mem hm
      rw [node, Node.questionsSet, ← hsum]
      exact hasQuestions_questionMark.append (hasQuestions_join '\n' (by decide) hns)
        (.of_last (by rfl) (by decide))
    | paragraph content =>
      obtain ⟨ns, hns, hsum⟩ := hparts (setAt_apart .parts content) fun m hm => .of_mem hm
      rw [node, Node.questionsSet, ← hsum]
      exact hasQuestions_paragraph _ hns
    | text t => exact hleaf _ rfl
    | inlineFormula attrs => exact hasQuestions_inlineFormula (hleaf _ rfl)
    | displayFormula attrs => exact hasQuestions_displayFormula (hleaf _ rfl)
    | orderedList attrs content =>
      obtain ⟨ns, hns, hsum⟩ := hparts (setAt_apart ctx.level content) fun m hm => .of_mem hm
      rw [node, Node.questionsSet, ← hsum]
      exact hasQuestions_list attrs _ hns
    | listItem content =>
      obtain ⟨ms, hms, hsumIntro⟩ := hparts (setAt_apart .parts (Node.introOf content))
        fun m hm => Node.below_of_mem_introOf hm
      obtain ⟨ns, hns, hsumBody⟩ := hparts (setAt_stream ctx.level.inside (Node.bodyOf content))
        fun m hm => Node.below_of_mem_bodyOf hm
      have hblank :
          Text.allBlank (Text.join ['\n'] (stream ctx.level.inside (Node.bodyOf content))) =
            Node.areBlank (Node.bodyOf content) := by
        rw [← Node.isBlank_listItem, ← allBlank_node _ ctx, node_listItem, allBlank_item]
      rw [node_listItem, Node.questionsSet_listItem, ← hsumIntro, ← hsumBody, ← hblank]
      exact hasQuestions_item _ (hasQuestions_paragraph false hms)
        (hasQuestions_join '\n' (by decide) hns)
    | listItemIntro content => exact hasQuestions_nil
    | unknown => exact hasQuestions_nil

/-! ## The name of a source -/

/-- A line of a name stands in the markup of one of its nodes, and does not hold the end of a
line. -/
theorem mem_labelLines {n : Node} {line : List Char} (h : line ∈ labelLines n) :
    (∃ part ∈ apart .parts n.children, line <:+: part) ∧ '\n' ∉ line := by
  obtain ⟨-, part, hpart, whole, hwhole, rfl⟩ := mem_labelLines_iff.mp h
  obtain ⟨hin, hnewline⟩ := Text.mem_lines hwhole
  have htrim := Text.infix_trim whole
  exact ⟨⟨part, hpart, htrim.trans hin⟩, fun hc => hnewline (htrim.subset hc)⟩

/-- **The name of a source is one line.** -/
theorem newline_not_mem_label (n : Node) : '\n' ∉ (label n).toList := by
  rw [label, String.toList_ofList]
  intro hmem
  rcases Text.mem_join hmem with hsep | ⟨line, hline, hc⟩
  · exact absurd hsep (by decide)
  · exact (mem_labelLines hline).2 hc

/-- **The name of a source holds no question** when no document is set in it. -/
theorem hasQuestions_label {n : Node} (hfree : QuestionFree n)
    (hnone : Node.questionsSetOf n.children = 0) : HasQuestions (label n).toList 0 := by
  have hparts : ∀ part ∈ apart .parts n.children, ¬questionWord <:+: part :=
    (setAt_apart .parts n.children).forall_mem fun m hm ctx _ => by
      have hquestions := hasQuestions_node m (hfree.of_below (.of_mem hm)) ctx
      rw [Node.questionsSetOf_eq_zero_iff.mp hnone m hm] at hquestions
      exact hquestions.lacks
  have hlines : List.Forall₂ HasQuestions (labelLines n) ((labelLines n).map fun _ => 0) := by
    rw [List.forall₂_map_right_iff, List.forall₂_same]
    intro line hline
    obtain ⟨⟨part, hpart, hin⟩, -⟩ := mem_labelLines hline
    exact .of_lacks fun hword => hparts part hpart (hword.trans hin)
  have hjoin := hasQuestions_join ' ' (by decide) hlines
  rw [label, String.toList_ofList]
  simpa using hjoin

end Markup

end ExamPress
