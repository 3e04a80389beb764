import ExamPress.Text.Blank

/-!
# Lines

Cutting a text at a separator, and the one rule for what a line is: a line ends at a line feed, a
carriage return right before that line feed belongs to the ending, and the end of the text ends
the last line if anything stands on it.  A carriage return anywhere else is an ordinary character.

## What is here

* `Text.pieces sep s` — the parts of `s` between the separators, one more than there are
  separators; `Text.pieces_eq_splitOn` that the library cuts in the same way;
* `Text.join sep parts` — the parts with a text between each two;
* `Text.lines s` — the lines of `s` without their endings.
-/

set_option autoImplicit false

namespace ExamPress.Text

/-- The parts of a text between the occurrences of `sep`.  There is always at least one. -/
def pieces (sep : Char) : List Char → List (List Char)
  | [] => [[]]
  | c :: s =>
    if c = sep then [] :: pieces sep s
    else
      match pieces sep s with
      | [] => [[c]]
      | p :: ps => (c :: p) :: ps

theorem pieces_ne_nil (sep : Char) (s : List Char) : pieces sep s ≠ [] := by
  cases s with
  | nil => simp [pieces]
  | cons c s =>
    rw [pieces]
    split
    · simp
    · split <;> simp

/-- **Cutting at a separator** is what the library does with a list. -/
theorem pieces_eq_splitOn (sep : Char) (s : List Char) : pieces sep s = s.splitOn sep := by
  induction s with
  | nil => rw [List.splitOn_nil, pieces]
  | cons c s ih =>
    rw [pieces, List.splitOn_cons_eq_if_modifyHead, ← ih]
    by_cases h : c = sep
    · simp [h]
    · cases hp : pieces sep s with
      | nil => exact absurd hp (pieces_ne_nil sep s)
      | cons p ps => simp [h]

/-- There is no separator in a piece. -/
theorem not_mem_of_mem_pieces {sep : Char} {s p : List Char} (h : p ∈ pieces sep s) : sep ∉ p := by
  induction s generalizing p with
  | nil =>
    rw [pieces, List.mem_singleton] at h
    simp [h]
  | cons c s ih =>
    rw [pieces] at h
    split at h
    · rcases List.mem_cons.mp h with rfl | h
      · simp
      · exact ih h
    · next hc =>
      cases hp : pieces sep s with
      | nil => exact absurd hp (pieces_ne_nil sep s)
      | cons q qs =>
        rw [hp] at h ih
        rcases List.mem_cons.mp h with rfl | h
        · rw [List.mem_cons, not_or]
          exact ⟨Ne.symm hc, ih List.mem_cons_self⟩
        · exact ih (List.mem_cons_of_mem _ h)

/-- The parts one after the other, with `sep` between each two. -/
def join (sep : List Char) : List (List Char) → List Char
  | [] => []
  | [p] => p
  | p :: q :: ps => p ++ sep ++ join sep (q :: ps)

/-- **Joining undoes cutting.** -/
theorem join_pieces (sep : Char) (s : List Char) : join [sep] (pieces sep s) = s := by
  induction s with
  | nil => rfl
  | cons c s ih =>
    rw [pieces]
    cases hp : pieces sep s with
    | nil => exact absurd hp (pieces_ne_nil sep s)
    | cons p ps =>
      rw [hp] at ih
      split
      · next h => subst h; simp [join, ih]
      · cases ps with
        | nil => simpa [join] using ih
        | cons q qs => simpa [join] using ih

/-- A line without the carriage return that belongs to its ending. -/
def dropReturn (line : List Char) : List Char :=
  if line.getLast? = some '\r' then line.dropLast else line

/-- **The lines of a text.**  All but the last piece are ended by a line feed; the last one is a
line of its own only if it holds something. -/
def lines (s : List Char) : List (List Char) :=
  let ps := pieces '\n' s
  let ended := ps.dropLast.map dropReturn
  match ps.getLast? with
  | none => ended
  | some last => if last = [] then ended else ended ++ [last]

end ExamPress.Text
