import ExamPress.Number.Decimal
import ExamPress.Text.Lines

/-!
# Selections

Which questions go into an exam, and in which order: a list of ids without repetitions.

## What is here

* `Selection` — the ids; `Selection.ofIds` keeps the first of each;
* `Selection.rank?`, `Selection.sortKey`, `Selection.sortBy` — ordering things by their ids, the
  ids that are not selected last;
* `Selection.OrderClause` — the same order as an expression for a database;
* `Selection.parse` — ids between commas.
-/

set_option autoImplicit false

namespace ExamPress

/-- The id of a question. -/
abbrev QuestionId := Int64

/-- The members of a list of ids, each in the place where it stands first. -/
def firstOccurrences : List QuestionId → List QuestionId
  | [] => []
  | id :: ids => id :: (firstOccurrences ids).filter (· ≠ id)

theorem firstOccurrences_nodup (ids : List QuestionId) : (firstOccurrences ids).Nodup := by
  induction ids with
  | nil => exact .nil
  | cons id ids ih =>
    refine List.nodup_cons.mpr ⟨by simp, ?_⟩
    exact List.Pairwise.filter _ ih

/-- **A selection**: ids in order, none of them twice. -/
structure Selection where
  ids : List QuestionId
  nodup : ids.Nodup

namespace Selection

/-- The selection of a list of ids, where a repeated id counts in its first place. -/
def ofIds (ids : List QuestionId) : Selection := ⟨firstOccurrences ids, firstOccurrences_nodup ids⟩

/-- The number of ids. -/
def size (s : Selection) : Nat := s.ids.length

/-- Is nothing selected? -/
def isEmpty (s : Selection) : Bool := s.ids.isEmpty

/-- Is an id selected? -/
def contains (s : Selection) (id : QuestionId) : Bool := s.ids.contains id

/-! ## Order -/

/-- The place of an id, counted from zero. -/
def rank? (s : Selection) (id : QuestionId) : Option Nat := s.ids.idxOf? id

/-- The place of an id; all ids that are not selected share the place after the last. -/
def sortKey (s : Selection) (id : QuestionId) : Nat := (s.rank? id).getD s.size

/-- **Things in the order of their ids.**  Things with the same place stay as they were. -/
def sortBy {α : Type} (s : Selection) (idOf : α → QuestionId) (items : List α) : List α :=
  items.mergeSort fun a b => s.sortKey (idOf a) ≤ s.sortKey (idOf b)

/-! ## Order as an expression -/

/-- An expression that a database orders its rows by. -/
inductive OrderClause
  /-- The same for every row. -/
  | constant (n : Nat)
  /-- The number beside the first id that a column equals, or else the last number. -/
  | cases (column : String) (branches : List (QuestionId × Nat)) (otherwise : Nat)
  deriving DecidableEq

/-- The value of an expression for a row with the given id. -/
def OrderClause.eval (id : QuestionId) : OrderClause → Nat
  | constant n => n
  | cases _ branches otherwise => (branches.lookup id).getD otherwise

/-- The text of a number of a branch. -/
def natString (n : Nat) : String := String.ofList (Number.natText n)

/-- The text of an id. -/
def idString (id : QuestionId) : String := String.ofList (Number.intText id.toInt)

/-- One branch of an expression. -/
def branchText (column : String) (branch : QuestionId × Nat) : String :=
  " WHEN " ++ column ++ " = " ++ idString branch.1 ++ " THEN " ++ natString branch.2

/-- The text of an expression. -/
def OrderClause.text : OrderClause → String
  | constant n => natString n
  | cases column branches otherwise =>
    "(CASE" ++ String.join (branches.map (branchText column)) ++ " ELSE " ++
      natString otherwise ++ " END)"

/-- **The expression that orders rows like a selection.** -/
def orderClause (s : Selection) (column : String) : OrderClause :=
  if s.isEmpty then .constant 0
  else .cases column s.ids.zipIdx s.size

/-! ## Reading a selection -/

/-- A text that is not a list of ids. -/
structure Unreadable where
  text : String
  deriving DecidableEq

/-- The name of the setting that holds a selection. -/
def settingName : String := "EXAM_SELECTION"

/-- The wording of what is wrong. -/
def Unreadable.message (e : Unreadable) : String :=
  "环境变量 " ++ settingName ++ " 解析失败: 值 '" ++ e.text ++ "' 无法转换为 逗号分隔的题目ID"

/-- The parts of a text between commas that are not blank, without the blanks at their ends. -/
def idTexts (text : String) : List (List Char) :=
  ((Text.pieces ',' text.toList).map Text.trim).filter (· ≠ [])

/-- **A selection from its text**: ids between commas, blanks and empty parts allowed. -/
def parse (text : String) : Except Unreadable Selection :=
  match (idTexts text).mapM Number.readInt64? with
  | some ids => .ok (ofIds ids)
  | none => .error ⟨text⟩

end Selection

end ExamPress
