import ExamPress.Proofs.Success
import ExamPress.Template.Fill
import Mathlib.Data.List.Forall2

/-!
# What elements show

The text of an element depends on its setting and on what is known from the elements before it; but
an element that neither is a part nor defines one shows the same whatever is known.  For such
elements the text is told here as a relation, put together along the elements: texts and values show
themselves, a condition shows its body or nothing, and a loop shows its body once for each item.
What is shown of a value is not looked at again, whatever is in it.

## What is here

* `Element.Shows`, `AllShow` — what an element shows, and what a list of them does;
* `shows_showing`, `shows_ifBlock`, `shows_eachBlock` — a value, a condition and a loop;
* `fill_eq_ok` — the text of a template;
* `stepDown_item` — the way to an item of a list.
-/

set_option autoImplicit false

namespace ExamPress.Template

open ExamPress.Json (Value)

variable {filler : Filler} {s : Setting} {text more : List Char}

/-! ## The relation -/

/-- **An element shows a text**, whatever is known from the elements before. -/
def Element.Shows (filler : Filler) (s : Setting) (e : Element) (text : List Char) : Prop :=
  ∀ p, ∃ q, fillElement filler s p e = .ok (text, q)

/-- **Elements show a text** together. -/
def AllShow (filler : Filler) (s : Setting) (es : List Element) (text : List Char) : Prop :=
  ∀ p, ∃ q, fillEach filler s p es = .ok (text, q)

theorem allShow_nil : AllShow filler s [] [] := fun p => ⟨p, by rw [fillEach]⟩

theorem Element.Shows.cons {e : Element} {es : List Element} (h : e.Shows filler s text)
    (hes : AllShow filler s es more) : AllShow filler s (e :: es) (text ++ more) := by
  intro p
  obtain ⟨q, hq⟩ := h p
  obtain ⟨r, hr⟩ := hes q
  refine ⟨r, ?_⟩
  rw [fillEach, hq]
  simp [hr]

theorem AllShow.congr {es : List Element} (h : AllShow filler s es text) (heq : text = more) :
    AllShow filler s es more := heq ▸ h

theorem shows_text (text : List Char) : (Element.text text).Shows filler s text :=
  fun p => ⟨p, by rw [fillElement]⟩

/-- The place of an element does not matter to what it shows. -/
theorem Element.Shows.marked {e : Element} (h : e.Shows filler s text) (mark : Mark) :
    (Element.marked mark e).Shows filler s text := by
  intro p
  obtain ⟨q, hq⟩ := h p
  refine ⟨q, ?_⟩
  rw [fillElement, hq]
  rfl

/-! ## Values -/

/-- The reference by a name alone. -/
def Reference.named (name : String) : Reference := ⟨name, .relative 0 [name]⟩

/-- A tag that shows what a name stands for. -/
def Element.showing (name : String) : Element := .print (.reference (.named name))

/-- The name of a thing, as the argument of a helper. -/
def Argument.named (name : String) : Argument := .reference (.named name)

@[simp] theorem shown_string (s : String) : shown (.string s) = s.toList := rfl

@[simp] theorem shown_integer (n : Int) : shown (.number (.integer n)) = Number.intText n := rfl

/-- **A value shows its text**, unless its name is that of a helper. -/
theorem shows_showing {name : String} {o : Operand} {v : Value}
    (hhelper : Helper.ofName? name = none) (h : s.resolve (.named name) = .ok o)
    (hfound : o.found = some v) : (Element.showing name).Shows filler s (shown v) := by
  intro p
  refine ⟨p, ?_⟩
  have htext : headText s.toSurroundings (.reference (.named name)) = .ok (shown v) := by
    simp only [headText, Reference.named, hhelper]
    rw [← Reference.named, h]
    simp only [ok_bind, operandText, hfound]
  rw [Element.showing, fillElement, htext]
  rfl

/-! ## Blocks -/

/-- A helper of a block with one name as its argument. -/
def Call.naming (helper name : String) : Call := { name := helper, args := [.named name] }

/-- The effect of a helper that works with one name. -/
theorem callEffect_naming {helper name : String} {h : Helper} {o : Operand}
    (hhelper : Helper.ofName? helper = some h) (ho : s.resolve (.named name) = .ok o)
    (hasBody hasOtherwise : Bool) :
    callEffect s.toSurroundings (.naming helper name) [] hasBody hasOtherwise =
      h.effect { args := [o], hasBody, hasOtherwise } := by
  simp [callEffect, Call.naming, Argument.named, evaluateAll, evaluateOptions, evaluate, ho,
    hhelper]

@[simp] theorem placeless_ok {α : Type} (a : α) : placeless (.ok a) = .ok a := rfl

/-- A block that shows its body when a thing counts as true. -/
def Element.ifBlock (name : String) (body : List Element) : Element :=
  .block (.naming "if" name) [] body none

/-- **A condition shows its body or nothing.** -/
theorem shows_ifBlock {name : String} {o : Operand} {body : List Element}
    (ho : s.resolve (.named name) = .ok o) (hbody : AllShow filler s body text) :
    (Element.ifBlock name body).Shows filler s (if truthy o.value then text else []) := by
  intro p
  have heffect : callEffect s.toSurroundings (.naming "if" name) [] true false =
      .ok (if truthy o.value then .body else .otherwise) := by
    rw [callEffect_naming (h := .condition true) (by decide) ho]
    simp [Helper.effect, conditionEffect, Inputs.arg]
  obtain ⟨q, hq⟩ := hbody p.inBody
  rw [Element.ifBlock, fillElement, heffect]
  cases truthy o.value with
  | true => exact ⟨q, by simpa using hq⟩
  | false => exact ⟨p, by simp⟩

/-- A block that shows its body for each item of a thing. -/
def Element.eachBlock (name : String) (body : List Element) : Element :=
  .block (.naming "each" name) [] body none

/-- Rounds show one text after the other. -/
theorem fillRounds_eq_ok {body : List Element} {scopes : List Scope} {texts : List (List Char)}
    (h : List.Forall₂ (fun scope text => AllShow filler (s.enter scope) body text) scopes texts)
    (p : Progress) :
    ∃ q, fillRounds (fun s p => fillEach filler s p.inBody body) s p scopes =
      .ok (texts.flatten, q) := by
  induction h generalizing p with
  | nil => exact ⟨p, by simp [fillRounds]⟩
  | cons hround _ ih =>
    obtain ⟨q, hq⟩ := hround p.inBody
    obtain ⟨r, hr⟩ := ih q
    exact ⟨r, by simp [fillRounds, hq, hr]⟩

/-- **A loop shows its body once for each item**, one after the other. -/
theorem shows_eachBlock {name : String} {o : Operand} {items : List Value}
    {body : List Element} {texts : List (List Char)} (ho : s.resolve (.named name) = .ok o)
    (hitems : o.found = some (.array items))
    (h : List.Forall₂ (fun scope text => AllShow filler (s.enter scope) body text)
      (itemScopes o [] items) texts) :
    (Element.eachBlock name body).Shows filler s texts.flatten := by
  intro p
  have heffect : callEffect s.toSurroundings (.naming "each" name) [] true false =
      .ok (.rounds (itemScopes o [] items)) := by
    rw [callEffect_naming (h := .each) (by decide) ho]
    simp [Helper.effect, eachEffect, Inputs.arg, Operand.value, hitems]
  obtain ⟨q, hq⟩ := fillRounds_eq_ok h p
  refine ⟨q.leave p, ?_⟩
  rw [Element.eachBlock, fillElement, heffect]
  simp [hq]

/-! ## Templates -/

/-- **The text of a template** is what its elements show at the top of the data, where they show the
same by whatever means parts are filled. -/
theorem fill_eq_ok {elements : List Element} {data : Value}
    (h : ∀ filler, AllShow filler
      { data, scopes := [{ subject := .place [] }], whole := elements } elements text) :
    fill elements data = .ok text := by
  obtain ⟨q, hq⟩ := h (fillNested 999) { beginning := true }
  have hfilled : fillNested partLimit
      { data, scopes := [{ subject := .place [] }], whole := elements } { beginning := true }
      elements = .ok (text, q) := hq
  rw [fill, hfilled]
  rfl

/-! ## Ways into the data -/

/-- The number of an item leads to it. -/
theorem stepDown_item {items : List Value} {i : Nat} (h : i < items.length) :
    stepDown (some (.array items)) (String.ofList (Number.natText i)) = .ok (some items[i]) := by
  have hnumber : itemNumber? items (String.ofList (Number.natText i)) = some i := by
    rw [itemNumber?, String.toList_ofList, Number.readNat?_natText]
    simp [h]
  simp [stepDown, hnumber, h]

/-- Where no scope gives names, a name is looked up in what the innermost scope is about. -/
theorem resolve_named {way : List String} {name : String} {v : Option Value}
    (hnames : ∀ scope ∈ s.scopes, scope.names = []) (hsubject : s.subject 0 = .place way)
    (hwalk : walk s.data (way ++ [name]) = .ok v) :
    s.resolve (.named name) =
      .ok { found := v, place := v.map fun _ => way ++ [name], raw := some name } := by
  have hgiven : s.given? name = none := by
    rw [Surroundings.given?, List.findSome?_eq_none_iff]
    intro scope hscope
    rw [hnames scope hscope]
    rfl
  simp [Surroundings.resolve, Reference.named, hgiven, hsubject, Surroundings.follow, hwalk]

end ExamPress.Template
