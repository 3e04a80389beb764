import ExamPress.Proofs.Question.Order
import ExamPress.Text.Blank

/-!
# What the order clause of a selection says

The order of a selection is kept twice: as the place of each id, by which things in memory are
sorted, and as the text of an expression, by which a database sorts its rows.  Here that text is
read the way a database reads it, and turns out to have the same value in every row.

Nothing about selections goes into the reading.  An expression is a number, or a `CASE` between
parentheses; its words are what stands between blanks, its numbers are decimal, and each branch
names the column that it looks at.  The first branch whose column holds the wanted number decides.

A name without blanks stays one word, whatever else is in it, so that it comes back from the text as
it was; and as each number is read back as the number that was written, the branches that are read
are the ids of the selection with their places.

## What is here

* `CaseExpression`, `CaseExpression.value` — an expression, and its value in a row;
* `CaseExpression.order` — rows in the order of an expression;
* `CaseExpression.read?` — an expression from its text;
* `CaseExpression.read?_text_constant`, `CaseExpression.read?_text_cases` — any clause is read back
  from its text;
* `CaseExpression.firstMatch_branchOf` — what is read has the value of the clause;
* `Selection.eval_orderClause` — the value of the clause of a selection;
* `Selection.orderClause_orders` — the theorem.
-/

set_option autoImplicit false

namespace ExamPress

/-! ## Expressions -/

/-- A row of a table, as the whole numbers in its columns. -/
abbrev Row := String → Int

/-- One branch: the result where a column holds a number. -/
structure CaseBranch where
  column : String
  wanted : Int
  result : Int
  deriving DecidableEq

/-- **An expression by which rows are ordered.** -/
inductive CaseExpression
  | constant (n : Int)
  | cases (branches : List CaseBranch) (otherwise : Int)
  deriving DecidableEq

namespace CaseExpression

/-- The result of the first branch whose column holds the wanted number. -/
def firstMatch (row : Row) (otherwise : Int) : List CaseBranch → Int
  | [] => otherwise
  | b :: branches =>
    if row b.column = b.wanted then b.result else firstMatch row otherwise branches

/-- **The value of an expression in a row.** -/
def value (row : Row) : CaseExpression → Int
  | constant n => n
  | cases branches otherwise => firstMatch row otherwise branches

/-- Rows in the order of an expression.  Rows with the same value stay as they were. -/
def order {α : Type} (e : CaseExpression) (row : α → Row) (rows : List α) : List α :=
  rows.mergeSort fun a b => e.value (row a) ≤ e.value (row b)

/-! ## Reading an expression -/

/-- The words of a text: what stands between its blanks. -/
def words (s : List Char) : List (List Char) := s.splitOnP Text.isBlank

/-- The branches of an expression and the number after them, from their words. -/
def readBranches : List (List Char) → Option (List CaseBranch × Int)
  | [word, n, last] =>
    if word = "ELSE".toList ∧ last = "END".toList then (Number.readInt? n).map ([], ·) else none
  | first :: column :: second :: wanted :: third :: result :: words =>
    if first = "WHEN".toList ∧ second = "=".toList ∧ third = "THEN".toList then do
      let wanted ← Number.readInt? wanted
      let result ← Number.readInt? result
      let rest ← readBranches words
      some (⟨String.ofList column, wanted, result⟩ :: rest.1, rest.2)
    else none
  | _ => none

/-- What stands between the parentheses around a text. -/
def inParentheses? : List Char → Option (List Char)
  | '(' :: s => if s.getLast? = some ')' then some s.dropLast else none
  | _ => none

theorem inParentheses?_append (s : List Char) : inParentheses? ('(' :: (s ++ [')'])) = some s := by
  rw [inParentheses?, if_pos List.getLast?_concat, List.dropLast_concat]

/-- **An expression from its text.** -/
def read? (text : String) : Option CaseExpression :=
  match inParentheses? text.toList with
  | none => (Number.readInt? text.toList).map constant
  | some inner =>
    match words inner with
    | [] => none
    | word :: words =>
      if word = "CASE".toList then (readBranches words).map fun r => cases r.1 r.2 else none

/-! ## The words of a clause -/

/-- A word has no blank in it. -/
def IsWord (w : List Char) : Prop := ∀ c ∈ w, Text.isBlank c = false

instance (w : List Char) : Decidable (IsWord w) :=
  decidable_of_iff (w.all (!Text.isBlank ·) = true) (by simp [IsWord])

theorem IsWord.words_eq {w : List Char} (hw : IsWord w) : words w = [w] :=
  List.splitOnP_eq_singleton hw

/-- A word ends at a blank. -/
theorem IsWord.words_append {w : List Char} (hw : IsWord w) (s : List Char) :
    words (w ++ ' ' :: s) = w :: words s :=
  List.splitOnP_append_cons_of_forall_mem hw ' ' (by decide) s

theorem isWord_natText (n : Nat) : IsWord (Number.natText n) :=
  fun _ hc => Text.isBlank_of_isDigit (Number.isDigit_of_mem_natText hc)

theorem isWord_intText (n : Int) : IsWord (Number.intText n) := by
  cases n with
  | ofNat n => exact isWord_natText n
  | negSucc n => exact List.forall_mem_cons.mpr ⟨by decide, isWord_natText (n + 1)⟩

/-- The words of a branch. -/
def branchWords (column : String) (branch : QuestionId × Nat) : List (List Char) :=
  ["WHEN".toList, column.toList, "=".toList, Number.intText branch.1.toInt, "THEN".toList,
    Number.natText branch.2]

variable {column : String}

theorem toList_branchText (branch : QuestionId × Nat) :
    (Selection.branchText column branch).toList =
      ' ' :: ("WHEN".toList ++ ' ' :: (column.toList ++ ' ' :: ("=".toList ++ ' ' ::
        (Number.intText branch.1.toInt ++ ' ' :: ("THEN".toList ++ ' ' ::
          Number.natText branch.2))))) := by
  simp [Selection.branchText, Selection.idString, Selection.natString]

/-- **The words of the branches of a clause**, after the word before them and up to the end. -/
theorem words_branchText (hcolumn : IsWord column.toList) (branches : List (QuestionId × Nat))
    (n : Nat) {w : List Char} (hw : IsWord w) :
    words (w ++ branches.flatMap (fun b => (Selection.branchText column b).toList) ++
        ' ' :: ("ELSE".toList ++ ' ' :: (Number.natText n ++ ' ' :: "END".toList))) =
      w :: (branches.flatMap (branchWords column) ++
        ["ELSE".toList, Number.natText n, "END".toList]) := by
  have hend : IsWord "END".toList := by decide
  have helse : IsWord "ELSE".toList := by decide
  have hwhen : IsWord "WHEN".toList := by decide
  have hequal : IsWord "=".toList := by decide
  have hthen : IsWord "THEN".toList := by decide
  induction branches generalizing w with
  | nil =>
    rw [List.flatMap_nil, List.append_nil, hw.words_append, helse.words_append,
      (isWord_natText n).words_append, hend.words_eq]
    rfl
  | cons b branches ih =>
    rw [List.flatMap_cons, toList_branchText]
    simp only [List.append_assoc, List.cons_append]
    rw [hw.words_append, hwhen.words_append, hcolumn.words_append, hequal.words_append,
      (isWord_intText _).words_append, hthen.words_append, ← List.append_assoc,
      ih (isWord_natText b.2)]
    rfl

/-! ## What is read from a clause -/

/-- A branch with its column. -/
def branchOf (column : String) (branch : QuestionId × Nat) : CaseBranch :=
  ⟨column, branch.1.toInt, branch.2⟩

/-- The expression that a clause stands for, in which each branch names the column. -/
def ofClause : Selection.OrderClause → CaseExpression
  | .constant n => .constant n
  | .cases column branches otherwise => .cases (branches.map (branchOf column)) otherwise

/-- **The branches are read back** from their words. -/
theorem readBranches_branchWords (branches : List (QuestionId × Nat)) (n : Nat) :
    readBranches (branches.flatMap (branchWords column) ++
        ["ELSE".toList, Number.natText n, "END".toList]) =
      some (branches.map (branchOf column), (n : Int)) := by
  induction branches with
  | nil =>
    rw [List.flatMap_nil, List.nil_append, readBranches, if_pos ⟨rfl, rfl⟩,
      Number.readInt?_natText]
    rfl
  | cons b branches ih =>
    simp only [List.flatMap_cons, branchWords, List.cons_append, List.nil_append]
    rw [readBranches, if_pos ⟨rfl, rfl, rfl⟩, Number.readInt?_intText, Number.readInt?_natText]
    change (readBranches (branches.flatMap (branchWords column) ++ _) >>= _) = _
    rw [ih, String.ofList_toList]
    rfl

/-- A number is read back from a clause that is always the same. -/
theorem read?_text_constant (n : Nat) :
    read? (Selection.OrderClause.constant n).text = some (.constant n) := by
  have hbare : inParentheses? (Number.natText n) = none := by
    rw [inParentheses?]
    intro s hs
    have hdigit := Number.isDigit_of_mem_natText (hs ▸ List.mem_cons_self)
    exact absurd hdigit (by decide)
  rw [Selection.OrderClause.text, Selection.natString, read?, String.toList_ofList, hbare]
  simp only [Number.readInt?_natText, Option.map_some]

/-- **The branches are read back from a clause** whose column is a word. -/
theorem read?_text_cases (hcolumn : IsWord column.toList) (branches : List (QuestionId × Nat))
    (n : Nat) :
    read? (Selection.OrderClause.cases column branches n).text =
      some (.cases (branches.map (branchOf column)) n) := by
  have htext : (Selection.OrderClause.cases column branches n).text.toList =
      '(' :: ("CASE".toList ++ branches.flatMap (fun b => (Selection.branchText column b).toList) ++
        ' ' :: ("ELSE".toList ++ ' ' :: (Number.natText n ++ ' ' :: "END".toList)) ++ [')']) := by
    simp [Selection.OrderClause.text, Selection.natString, List.flatMap_map]
  have hcase : IsWord "CASE".toList := by decide
  rw [read?, htext, inParentheses?_append]
  simp only [words_branchText hcolumn _ _ hcase, if_true, readBranches_branchWords]
  rfl

/-- In a row that holds an id, the first branch that fits is the branch of the id. -/
theorem firstMatch_branchOf {row : Row} {id : QuestionId} (hrow : row column = id.toInt)
    (branches : List (QuestionId × Nat)) (n : Nat) :
    firstMatch row n (branches.map (branchOf column)) = ((branches.lookup id).getD n : Nat) := by
  induction branches with
  | nil => rfl
  | cons b branches ih =>
    obtain ⟨i, place⟩ := b
    rw [List.map_cons, firstMatch, List.lookup_cons]
    simp only [branchOf, hrow, Int64.toInt_inj]
    by_cases hi : id = i
    · rw [if_pos hi, beq_iff_eq.mpr hi]
      rfl
    · rw [if_neg hi, beq_eq_false_iff_ne.mpr hi]
      exact ih

end CaseExpression

/-! ## The theorem -/

namespace Selection

open CaseExpression

variable (s : Selection) {column : String}

/-- **The clause of a selection is read back** from its text. -/
theorem read?_text_orderClause (h : IsWord column.toList) :
    read? (s.orderClause column).text = some (ofClause (s.orderClause column)) := by
  rw [orderClause]
  split
  · exact read?_text_constant 0
  · exact read?_text_cases h s.ids.zipIdx s.size

/-- What is read has the value of the clause, in a row that holds an id in the column. -/
theorem value_ofClause_orderClause {row : Row} {id : QuestionId} (hrow : row column = id.toInt) :
    (ofClause (s.orderClause column)).value row = (s.orderClause column).eval id := by
  rw [orderClause]
  split
  · rfl
  · exact firstMatch_branchOf hrow s.ids.zipIdx s.size

/-- Each id is looked up as its place. -/
theorem lookup_zipIdx (id : QuestionId) (ids : List QuestionId) (k : Nat) :
    (ids.zipIdx k).lookup id = (ids.idxOf? id).map (· + k) := by
  induction ids generalizing k with
  | nil => rfl
  | cons i ids ih =>
    rw [List.zipIdx_cons, List.lookup_cons, List.idxOf?_cons]
    by_cases hi : i = id
    · rw [if_pos (beq_iff_eq.mpr hi), beq_iff_eq.mpr hi.symm, Option.map_some, Nat.zero_add]
    · rw [if_neg (by simpa using hi), beq_eq_false_iff_ne.mpr (Ne.symm hi), Option.map_map]
      refine (ih (k + 1)).trans (congrArg (Option.map · _) (funext fun place => ?_))
      exact (Nat.succ_add_eq_add_succ place k).symm

/-- **The clause of a selection has the place of an id as its value.** -/
theorem eval_orderClause (column : String) (id : QuestionId) :
    (s.orderClause column).eval id = s.sortKey id := by
  rw [orderClause, sortKey, rank?]
  split
  · next hempty =>
    have hids : s.ids = [] := List.isEmpty_iff.mp hempty
    rw [OrderClause.eval, size, hids]
    rfl
  · rw [OrderClause.eval, lookup_zipIdx]
    simp

/-- **The clause of a selection orders like the selection.**  Whatever the name of the column is, as
long as no blank is in it, the text of the clause is read as an expression whose value, in a row
that holds an id in that column, is the place of the id in the selection; and so rows ordered by the
clause are in the order of the selection. -/
theorem orderClause_orders (h : IsWord column.toList) :
    ∃ e, read? (s.orderClause column).text = some e ∧
      (∀ (row : Row) (id : QuestionId), row column = id.toInt → e.value row = s.sortKey id) ∧
      ∀ {α : Type} (row : α → Row) (idOf : α → QuestionId),
        (∀ a, row a column = (idOf a).toInt) → ∀ rows, e.order row rows = s.sortBy idOf rows := by
  refine ⟨_, s.read?_text_orderClause h, ?_⟩
  have hvalue (row : Row) (id : QuestionId) (hrow : row column = id.toInt) :
      (ofClause (s.orderClause column)).value row = s.sortKey id := by
    rw [s.value_ofClause_orderClause hrow, s.eval_orderClause]
  refine ⟨hvalue, fun row idOf hrow rows => ?_⟩
  simp only [order, sortBy, hvalue _ _ (hrow _), Int.ofNat_le]

/-- The least id is read back from the clause with its sign, and an id that is not selected has the
place after the last. -/
theorem orderClause_orders_extremes :
    IsWord "question.id".toList ∧
      ∃ e, read? ((ofIds [5, Int64.minValue]).orderClause "question.id").text = some e ∧
        e.value (fun _ => Int64.minValue.toInt) = 1 ∧ e.value (fun _ => 7) = 2 := by
  have hcolumn : IsWord "question.id".toList := by decide
  obtain ⟨e, hread, hvalue, -⟩ := (ofIds [5, Int64.minValue]).orderClause_orders hcolumn
  have hleast := hvalue (fun _ => Int64.minValue.toInt) Int64.minValue rfl
  have hother := hvalue (fun _ => 7) 7 rfl
  exact ⟨hcolumn, e, hread, hleast.trans (by decide), hother.trans (by decide)⟩

end Selection

end ExamPress
