import ExamPress.Proofs.Question.Order
import Mathlib.Logic.Relation

/-!
# What the order of a selection depends on

Put into the order of a selection, a list falls into its groups: the things with the first id, those
with the second, and so on, and at the end all things whose ids are not selected.  Within a group
nothing moves.  So the groups are all that the result depends on, and all that can be got back from
it: two lists come out the same exactly when their groups are the same.

That things of two different selected ids change places, with nothing of either id between them,
touches no group.  Two lists that can be made into each other in this way, one exchange after the
other, therefore come out the same.

## What is here

* `Selection.SameGroups` — lists with the same groups; `Selection.sortBy_eq_sortBy_iff` that these
  are the lists that come out the same;
* `Selection.Exchange` — two things change places; `Selection.Exchange.sameGroups`;
* `Selection.sortBy_groups` — the theorem.
-/

set_option autoImplicit false

namespace ExamPress

variable {α : Type}

/-- Two things of which only one passes a test may change places, if nothing between them passes
it. -/
theorem filter_exchange {p : α → Bool} {a b : α} {between : List α} (before after : List α)
    (ha : p a = true → p b = false ∧ ∀ c ∈ between, p c = false)
    (hb : p b = true → p a = false ∧ ∀ c ∈ between, p c = false) :
    (before ++ a :: (between ++ b :: after)).filter p =
      (before ++ b :: (between ++ a :: after)).filter p := by
  have hnone (h : ∀ c ∈ between, p c = false) : between.filter p = [] :=
    List.filter_eq_nil_iff.mpr fun c hc => by simp [h c hc]
  cases hpa : p a with
  | true =>
    obtain ⟨hpb, hbetween⟩ := ha hpa
    simp [hpa, hpb, hnone hbetween]
  | false =>
    cases hpb : p b with
    | true => simp [hpa, hpb, hnone (hb hpb).2]
    | false => simp [hpa, hpb]

namespace Selection

variable (s : Selection) (idOf : α → QuestionId)

/-- **Lists with the same groups**: they hold the same things with each selected id, and the same
things with ids that are not selected, in the same order. -/
structure SameGroups (items others : List α) : Prop where
  selected : ∀ id ∈ s.ids, items.filter (idOf · = id) = others.filter (idOf · = id)
  unselected : items.filter (fun a => !s.contains (idOf a)) =
    others.filter fun a => !s.contains (idOf a)

variable {s idOf} {items others more : List α}

namespace SameGroups

theorem symm (h : s.SameGroups idOf items others) : s.SameGroups idOf others items :=
  ⟨fun id hid => (h.selected id hid).symm, h.unselected.symm⟩

theorem trans (h : s.SameGroups idOf items others) (h' : s.SameGroups idOf others more) :
    s.SameGroups idOf items more :=
  ⟨fun id hid => (h.selected id hid).trans (h'.selected id hid), h.unselected.trans h'.unselected⟩

/-- Lists with the same groups come out the same. -/
theorem sortBy_eq_sortBy (h : s.SameGroups idOf items others) :
    s.sortBy idOf items = s.sortBy idOf others := by
  rw [sortBy_eq, sortBy_eq, List.flatMap_congr h.selected, h.unselected]

end SameGroups

/-- A list that has been put into order has the groups that it had. -/
theorem sameGroups_sortBy (s : Selection) (idOf : α → QuestionId) (items : List α) :
    s.SameGroups idOf (s.sortBy idOf items) items :=
  ⟨fun _ => s.filter_sortBy_of_mem idOf items, s.filter_sortBy_not_contains idOf items⟩

/-- **Lists come out the same exactly when they have the same groups.** -/
theorem sortBy_eq_sortBy_iff :
    s.sortBy idOf items = s.sortBy idOf others ↔ s.SameGroups idOf items others := by
  refine ⟨fun h => ?_, SameGroups.sortBy_eq_sortBy⟩
  have hitems := sameGroups_sortBy s idOf items
  rw [h] at hitems
  exact hitems.symm.trans (sameGroups_sortBy s idOf others)

/-! ## Things that change places -/

/-- **Two things of different selected ids change places**, and nothing with one of their ids stands
between them. -/
inductive Exchange (s : Selection) (idOf : α → QuestionId) : List α → List α → Prop
  | swap {a b : α} {between : List α} (before after : List α)
      (ha : idOf a ∈ s.ids) (hb : idOf b ∈ s.ids) (hne : idOf a ≠ idOf b)
      (hbetween : ∀ c ∈ between, idOf c ≠ idOf a ∧ idOf c ≠ idOf b) :
    Exchange s idOf (before ++ a :: (between ++ b :: after))
      (before ++ b :: (between ++ a :: after))

/-- **The step**: an exchange touches no group. -/
theorem Exchange.sameGroups (h : s.Exchange idOf items others) :
    s.SameGroups idOf items others := by
  cases h with
  | @swap a b between before after ha hb hne hbetween =>
    constructor
    · intro id _
      refine filter_exchange before after (fun hid => ?_) fun hid => ?_
      all_goals
        obtain rfl := of_decide_eq_true hid
      · exact ⟨decide_eq_false hne.symm, fun c hc => decide_eq_false (hbetween c hc).1⟩
      · exact ⟨decide_eq_false hne, fun c hc => decide_eq_false (hbetween c hc).2⟩
    · exact filter_exchange before after (fun h => absurd h (by simp [contains, ha]))
        fun h => absurd h (by simp [contains, hb])

/-- **The run**: lists that can be made into each other by exchanges have the same groups. -/
theorem sameGroups_of_eqvGen (h : Relation.EqvGen (s.Exchange idOf) items others) :
    s.SameGroups idOf items others := by
  induction h with
  | rel _ _ h => exact h.sameGroups
  | refl _ => exact ⟨fun _ _ => rfl, rfl⟩
  | symm _ _ _ ih => exact ih.symm
  | trans _ _ _ _ _ ih ih' => exact ih.trans ih'

/-! ## The theorem -/

/-- **Things in the order of a selection.**  First come, for each selected id in turn, the things
with that id, and then those whose ids are not selected, each of these groups as it was.  So no
thing is lost or doubled, and what is in order stays as it is.  Lists that differ in exchanges of
things of different selected ids come out the same; and, in all, two lists do so exactly when they
have the same groups. -/
theorem sortBy_groups (s : Selection) (idOf : α → QuestionId) (items : List α) :
    s.sortBy idOf items =
        s.ids.flatMap (fun id => items.filter fun a => idOf a = id) ++
          items.filter (fun a => idOf a ∉ s.ids) ∧
      (s.sortBy idOf items).Perm items ∧
      s.sortBy idOf (s.sortBy idOf items) = s.sortBy idOf items ∧
      ∀ others, (Relation.EqvGen (s.Exchange idOf) items others →
          s.sortBy idOf items = s.sortBy idOf others) ∧
        (s.sortBy idOf items = s.sortBy idOf others ↔ s.SameGroups idOf items others) := by
  have hothers : items.filter (fun a => !s.contains (idOf a)) =
      items.filter fun a => idOf a ∉ s.ids :=
    List.filter_congr fun a _ => by simp [contains]
  refine ⟨?_, List.mergeSort_perm _ _, (sameGroups_sortBy s idOf items).sortBy_eq_sortBy,
    fun others => ⟨fun h => (sameGroups_of_eqvGen h).sortBy_eq_sortBy, sortBy_eq_sortBy_iff⟩⟩
  rw [sortBy_eq, hothers]

/-- Things of two selected ids change places, with one between them whose id is not selected. -/
theorem sortBy_groups_exchanged :
    let s := ofIds [1, 2]
    let items : List (QuestionId × Char) := [(2, 'a'), (9, 'x'), (1, 'b'), (2, 'c')]
    let others : List (QuestionId × Char) := [(1, 'b'), (9, 'x'), (2, 'a'), (2, 'c')]
    Relation.EqvGen (s.Exchange Prod.fst) items others ∧
      s.sortBy Prod.fst items = [(1, 'b'), (2, 'a'), (2, 'c'), (9, 'x')] ∧
      s.sortBy Prod.fst others = [(1, 'b'), (2, 'a'), (2, 'c'), (9, 'x')] := by
  intro s items others
  have hexchange : Relation.EqvGen (s.Exchange Prod.fst) items others :=
    .rel _ _ (.swap [] [(2, 'c')] (by decide) (by decide) (by decide)
      (List.forall_mem_singleton.mpr (by decide)))
  obtain ⟨hsorted, -, -, hothers⟩ := sortBy_groups s Prod.fst items
  have hitems : s.sortBy Prod.fst items = [(1, 'b'), (2, 'a'), (2, 'c'), (9, 'x')] :=
    hsorted.trans (by decide)
  exact ⟨hexchange, hitems, ((hothers others).1 hexchange).symm.trans hitems⟩

end Selection

end ExamPress
