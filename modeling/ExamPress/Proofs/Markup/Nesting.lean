import ExamPress.Proofs.Markup.Mark
import Mathlib.Data.List.DropRight

/-!
# Environments are nested

Every environment that the markup of a document opens is closed again, in the right order and
under the same name.  The markup itself opens and closes environments in pairs around what is in a
node, so the only thing that could go wrong is a payload that opens or closes one on its own
account; those are excluded, with the exception of a formula that is one aligned environment, which
is set as it is.

## What is here

* `openAfter` — the environments that are open after some marks, as long as each one that ends is
  the innermost;
* `WellNested` — marks that leave no environment open;
* `EnvSafe` — documents whose payloads do not interfere;
* `wellNested_render` — the markup of such a document is well nested, and so is that of each node
  by itself in any context.
-/

set_option autoImplicit false

namespace ExamPress.Markup

open Document (Node)

/-! ## Marks that are nested -/

/-- The environments that are open after a mark, innermost first.  An environment can only end
when it is the innermost one. -/
def openStep (envs : List (List Char)) : Mark → Option (List (List Char))
  | .opens name => some (name :: envs)
  | .closes name =>
    match envs with
    | [] => none
    | env :: envs => if env = name then some envs else none
  | .part _ => some envs

/-- The environments that are open after some marks, if every one that ends was the innermost. -/
def openAfter (envs : List (List Char)) (ms : List Mark) : Option (List (List Char)) :=
  ms.foldlM openStep envs

theorem openAfter_append {a b : List (List Char)} {ms : List Mark} (h : openAfter a ms = some b)
    (ns : List Mark) : openAfter a (ms ++ ns) = openAfter b ns := by
  rw [openAfter, List.foldlM_append]
  exact congrArg (· >>= fun c => openAfter c ns) h

/-- An environment that is ended right where it was opened leaves the others as they were. -/
theorem openAfter_env {envs : List (List Char)} {name : List Char} {ms : List Mark}
    (h : openAfter (name :: envs) ms = some (name :: envs)) :
    openAfter envs (.opens name :: (ms ++ [.closes name])) = some envs := by
  calc openAfter envs (.opens name :: (ms ++ [.closes name]))
      = openAfter (name :: envs) (ms ++ [.closes name]) := rfl
    _ = openAfter (name :: envs) [.closes name] := openAfter_append h _
    _ = some envs := by simp [openAfter, openStep]

/-- **Well nested marks**: each environment that ends is the one that was opened last and is still
open, and in the end none is open. -/
def WellNested (ms : List Mark) : Prop := openAfter [] ms = some []

/-- Marks that leave the open environments as they are. -/
def Neutral (ms : List Mark) : Prop := ∀ envs, openAfter envs ms = some envs

namespace Neutral

variable {ms ns : List Mark}

theorem nil : Neutral [] := fun _ => rfl

theorem append (hm : Neutral ms) (hn : Neutral ns) : Neutral (ms ++ ns) := fun envs =>
  (openAfter_append (hm envs) ns).trans (hn envs)

theorem flatMap {α : Type} {f : α → List Mark} :
    ∀ {xs : List α}, (∀ x ∈ xs, Neutral (f x)) → Neutral (xs.flatMap f)
  | [], _ => nil
  | x :: _, h =>
    (h x List.mem_cons_self).append (flatMap fun y hy => h y (List.mem_cons_of_mem x hy))

theorem inEnv (name : List Char) (hm : Neutral ms) : Neutral (inEnv Mark.isEnv name ms) :=
  fun envs => openAfter_env (hm (name :: envs))

theorem listMarks (attrs : Document.ListAttrs) (level : PartLevel) (hm : Neutral ms) :
    Neutral (listMarks Mark.isEnv attrs level ms) := by
  rw [Markup.listMarks]
  cases attrs.orientation with
  | vertical => exact (hm.inEnv _).inEnv _
  | horizontal => exact hm.inEnv _

end Neutral

/-! ## Payloads that do not interfere -/

/-- A formula that is one aligned environment, with no environment beginning or ending in it. -/
def IsAlignEnv (code : List Char) : Prop :=
  ∃ name ∈ ["align".toList, "align*".toList], ∃ body,
    FreeOf envWords body ∧ code = beginEnv name ++ body ++ endEnv name

/-- A leaf whose payload neither begins nor ends an environment; a formula on a line of its own may
also be one aligned environment. -/
def LeafSafe : Node → Prop
  | .text t => FreeOf envWords t.toList
  | .inlineFormula attrs => FreeOf envWords attrs.source.toList
  | .displayFormula attrs =>
    FreeOf envWords attrs.source.toList ∨ IsAlignEnv attrs.source.toList
  | _ => True

/-- **Documents whose payloads keep out of the way**, at every depth. -/
def EnvSafe (n : Node) : Prop := ∀ m : Node, m.Within n → LeafSafe m

/-- What stands between the two ends of an environment can be cut out. -/
theorem isAlignEnv_iff (code : List Char) :
    IsAlignEnv code ↔ ∃ name ∈ ["align".toList, "align*".toList],
      FreeOf envWords ((code.drop (beginEnv name).length).rdrop (endEnv name).length) ∧
        code = beginEnv name ++ (code.drop (beginEnv name).length).rdrop (endEnv name).length ++
          endEnv name := by
  refine exists_congr fun name => and_congr_right fun _ => ?_
  constructor
  · rintro ⟨body, hbody, rfl⟩
    rw [List.append_assoc, List.drop_left, List.rdrop_append_length]
    exact ⟨hbody, (List.append_assoc _ _ _).symm⟩
  · rintro ⟨hbody, hcode⟩
    exact ⟨_, hbody, hcode⟩

instance (code : List Char) : Decidable (IsAlignEnv code) :=
  decidable_of_iff' _ (isAlignEnv_iff code)

instance : DecidablePred LeafSafe
  | .text t => inferInstanceAs (Decidable (FreeOf envWords t.toList))
  | .inlineFormula attrs => inferInstanceAs (Decidable (FreeOf envWords attrs.source.toList))
  | .displayFormula attrs => inferInstanceAs (Decidable
      (FreeOf envWords attrs.source.toList ∨ IsAlignEnv attrs.source.toList))
  | .document _ | .paragraph _ | .orderedList _ _ | .listItem _ | .listItemIntro _ | .unknown =>
    inferInstanceAs (Decidable True)

instance (n : Node) : Decidable (EnvSafe n) :=
  inferInstanceAs (Decidable (∀ m, Node.Within m n → LeafSafe m))

theorem isAligned_of_isAlignEnv {code : List Char} (h : IsAlignEnv code) :
    isAligned code = true := by
  obtain ⟨name, hname, body, -, rfl⟩ := h
  have hin : occursIn (beginEnv name) (beginEnv name ++ body ++ endEnv name) = true := by
    rw [occursIn_iff, List.append_assoc]
    exact (List.prefix_append _ _).isInfix
  rw [isAligned, Bool.or_eq_true]
  simp only [List.mem_cons, List.not_mem_nil, or_false] at hname
  rcases hname with rfl | rfl
  · exact .inl hin
  · exact .inr hin

theorem hasMarks_of_isAlignEnv {code : List Char} (h : IsAlignEnv code) :
    ∃ ms, HasMarks Mark.isEnv (displayFormula code) ms ∧ Neutral ms := by
  have haligned := isAligned_of_isAlignEnv h
  obtain ⟨name, hname, body, hbody, rfl⟩ := h
  have hplain : PlainName name := by
    simp only [List.mem_cons, List.not_mem_nil, or_false] at hname
    rcases hname with rfl | rfl <;> decide
  have hblank : Text.allBlank (beginEnv name ++ body ++ endEnv name) = false := by
    rw [Text.allBlank_append, Text.allBlank_append, allBlank_beginEnv, Bool.false_and,
      Bool.false_and]
  have hmarks := ((HasMarks.of_freeOf spelledBy_envWords hbody).append_endEnv
    hplain).beginEnv_append hplain
  refine ⟨_, ?_, Neutral.nil.inEnv name⟩
  rw [displayFormula, hblank, haligned]
  simpa [inEnv, List.append_assoc] using hmarks

/-! ## The theorem -/

theorem neutral_leaf {m : Node} (h : EnvSafe m) (hp : m.payload?.isSome = true) (ctx : Context) :
    ∃ ms, HasMarks Mark.isEnv (node ctx m) ms ∧ Neutral ms := by
  have hm := h m .self
  cases m with
  | text t =>
    rw [node]
    exact ⟨[], .of_freeOf spelledBy_envWords hm, .nil⟩
  | inlineFormula attrs =>
    rw [node]
    exact ⟨[], hasMarks_inlineFormula (.of_freeOf spelledBy_envWords hm), .nil⟩
  | displayFormula attrs =>
    rw [node]
    rcases hm with hfree | halign
    · refine ⟨_, hasMarks_displayFormula (.of_freeOf spelledBy_envWords hfree)
        (isAligned_of_freeOf (by simp [envWords]) hfree), ?_⟩
      split
      · exact .nil
      · exact Neutral.nil.inEnv _
    · exact hasMarks_of_isAlignEnv halign
  | document | paragraph | orderedList | listItem | listItemIntro | unknown =>
    exact absurd hp (by simp [Node.payload?])

theorem EnvSafe.of_within {m n : Node} (h : EnvSafe n) (hm : m.Within n) : EnvSafe m :=
  fun k hk => h k (hk.trans hm)

theorem EnvSafe.closed {n : Node} (h : EnvSafe n) (ctx : Context) :
    Closed Mark.isEnv (node ctx n) :=
  closed_node (fun m hm hp ctx => by
    obtain ⟨ms, hms, -⟩ := neutral_leaf (h.of_within hm) hp ctx
    exact hms.closed) ctx

/-- The markup of a node leaves the environments as they were: by induction on the document, as
what a node puts around the markup of its children is an environment or no environment at all. -/
theorem neutral_node {n : Node} (h : EnvSafe n) (ctx : Context) :
    Neutral (marks Mark.isEnv (node ctx n)) := by
  induction n using Node.induction_below generalizing ctx with
  | step n ih =>
    have hparts {level : PartLevel} {nodes : List Node} {parts : List (List Char)}
        (hset : SetAt level nodes parts) (hsub : ∀ m ∈ nodes, m.Below n) :
        (∀ s ∈ parts, Closed Mark.isEnv s) ∧ Neutral (parts.flatMap (marks Mark.isEnv)) := by
      have hsafe (m : Node) (hm : m ∈ nodes) : EnvSafe m := h.of_within (hsub m hm).within
      exact ⟨hset.forall_mem fun m hm ctx _ => (hsafe m hm).closed ctx,
        .flatMap (hset.forall_mem fun m hm ctx _ => ih m (hsub m hm) (hsafe m hm) ctx)⟩
    cases n with
    | document content =>
      obtain ⟨hclosed, hneutral⟩ := hparts (setAt_stream .parts content) fun m hm => .of_mem hm
      rw [node, (hasMarks_document hclosed).marks_eq]
      exact hneutral
    | paragraph content =>
      obtain ⟨hclosed, hneutral⟩ := hparts (setAt_apart .parts content) fun m hm => .of_mem hm
      rw [node, (hasMarks_paragraph _ hclosed).marks_eq]
      exact hneutral
    | orderedList attrs content =>
      obtain ⟨hclosed, hneutral⟩ := hparts (setAt_apart ctx.level content) fun m hm => .of_mem hm
      rw [node, (hasMarks_list _ _ hclosed).marks_eq]
      split
      · exact .nil
      · exact hneutral.listMarks _ _
    | listItem content =>
      obtain ⟨hintro, hintroN⟩ := hparts (setAt_apart .parts (Node.introOf content)) fun m hm =>
        Node.below_of_mem_introOf hm
      obtain ⟨hbody, hbodyN⟩ := hparts (setAt_stream ctx.level.inside (Node.bodyOf content))
        fun m hm => Node.below_of_mem_bodyOf hm
      have hlabel := hasMarks_paragraph false hintro
      rw [node_listItem, (hasMarks_item _ hlabel.closed (.join (.inr rfl) hbody)).marks_eq,
        hlabel.marks_eq]
      split
      · exact .nil
      · exact (hintroN.append .nil).append hbodyN
    | text | inlineFormula | displayFormula =>
      obtain ⟨ms, hms, hneutral⟩ := neutral_leaf h rfl ctx
      rw [hms.marks_eq]
      exact hneutral
    | listItemIntro | unknown =>
      rw [node]
      exact .nil

/-- **The markup of a document is well nested**, and so is that of any node in any context. -/
theorem wellNested_render (n : Node) (h : EnvSafe n) :
    WellNested (marks Mark.isEnv (render n).toList) ∧
      ∀ ctx : Context, WellNested (marks Mark.isEnv (node ctx n)) := by
  have hnode (ctx : Context) : WellNested (marks Mark.isEnv (node ctx n)) :=
    neutral_node h ctx []
  rw [render, String.toList_ofList]
  exact ⟨hnode {}, hnode⟩

/-- A question with a list in a paragraph, a document in an item, an item outside a list, columns,
and an aligned formula. -/
def mixedQuestion : Node :=
  .document
    [.paragraph [.list [.listItem [.listItemIntro [.text "Given"], .document [.text "x"]]]],
      .listItem
        [.display "\\begin\x7balign*\x7d a &= b \\end\x7balign*\x7d",
          .grid 3 [.listItem [.paragraph [.inline "y"]]]]]

theorem wellNested_render_mixedQuestion :
    EnvSafe mixedQuestion ∧ WellNested (marks Mark.isEnv (render mixedQuestion).toList) :=
  have hsafe : EnvSafe mixedQuestion := by decide
  ⟨hsafe, (wellNested_render mixedQuestion hsafe).1⟩

end ExamPress.Markup
