import ExamPress.Proofs.Files.Listing
import Mathlib.Data.List.Induction

/-!
# The beginnings of a path

A path is its pieces with a separator behind each but the last.  The beginnings that the folders on
the way are made from are texts again, and each of them is cut into pieces anew; what comes out are
the first pieces of the whole path.  So a walk along a beginning is the first part of the walk along
the path, and it can be followed on the pieces alone.

## What is here

* `Path.fore` — pieces as they stand before another piece;
* `Path.pieces_fore_append`, `Path.eq_fore_append` — cutting, and putting together again;
* `Path.beginningsAfter_concat` — the beginnings, one piece after the other;
* `Path.mem_beginningsAfter` — each beginning is the text of some first pieces;
* `Path.parent_cases` — the folder that a path lies in, and its own beginnings.
-/

set_option autoImplicit false

namespace ExamPress.Files

namespace Path

/-- No piece of a path has a separator in it. -/
theorem not_mem_of_mem_pieces {path p : String} (h : p ∈ pieces path) : '/' ∉ p.toList := by
  rw [pieces, List.mem_map] at h
  obtain ⟨q, hq, rfl⟩ := h
  rw [String.toList_ofList]
  exact Text.not_mem_of_mem_pieces hq

/-! ## The text of pieces -/

/-- The text of pieces that stand before another piece. -/
def fore : List String → String
  | [] => ""
  | p :: ps => p ++ "/" ++ fore ps

theorem fore_append (ps qs : List String) : fore (ps ++ qs) = fore ps ++ fore qs := by
  induction ps with
  | nil => simp [fore]
  | cons p ps ih => simp only [List.cons_append, fore, ih, String.append_assoc]

/-- **A text that was put together is cut into the same pieces.** -/
theorem pieces_fore_append {ps : List String} {p : String}
    (h : ∀ q ∈ ps ++ [p], '/' ∉ q.toList) : pieces (fore ps ++ p) = ps ++ [p] := by
  induction ps with
  | nil => simpa [fore] using pieces_of_not_mem (h p (by simp))
  | cons q ps ih =>
    obtain ⟨hq, hrest⟩ := List.forall_mem_cons.mp h
    rw [fore, String.append_assoc, pieces_append_sep, pieces_of_not_mem hq, ih hrest]
    rfl

/-- What is put together from pieces is their text with a separator between each two. -/
theorem toList_fore_append (ps : List String) (p : String) :
    (fore ps ++ p).toList = Text.join ['/'] ((ps ++ [p]).map String.toList) := by
  induction ps with
  | nil => simp [fore, Text.join]
  | cons q ps ih =>
    cases ps with
    | nil => simp [fore, Text.join]
    | cons r ps =>
      rw [fore, String.append_assoc, String.toList_append, ih]
      simp [Text.join]

/-- **A path is the text of its pieces.** -/
theorem eq_fore_append {path p : String} {ps : List String} (h : pieces path = ps ++ [p]) :
    path = fore ps ++ p := by
  refine String.toList_inj.mp ?_
  have hpieces : (pieces path).map String.toList = Text.pieces '/' path.toList := by
    simp [pieces, Function.comp_def]
  rw [toList_fore_append, ← h, hpieces, Text.join_pieces]

/-- The names of a path whose last piece is not empty are its pieces. -/
theorem names_of_pieces {path p : String} {ps : List String} (h : pieces path = ps ++ [p])
    (hp : p ≠ "") : names path = ps ++ [p] := by
  simp [names, h, hp]

theorem endsInSeparator_of_pieces {path p : String} {ps : List String}
    (h : pieces path = ps ++ [p]) (hp : p ≠ "") : endsInSeparator path = false := by
  have hlast : '/' ∉ p.toList := not_mem_of_mem_pieces (show p ∈ pieces path by simp [h])
  rw [endsInSeparator, decide_eq_false_iff_not, eq_fore_append h, String.toList_append,
    List.getLast?_append_of_ne_nil _ (mt String.toList_eq_nil_iff.mp hp)]
  exact fun hsep => hlast (List.mem_of_getLast? hsep)

/-! ## Beginnings -/

theorem ne_empty_of_isStep {before piece : String} (h : isStep before piece = true) :
    piece ≠ "" := by
  rintro rfl
  simp [isStep] at h

/-- A piece that is no step stays where it is. -/
theorem eq_empty_or_dot_of_not_isStep {before piece : String} (h : ¬isStep before piece = true) :
    piece = "" ∨ piece = "." := by
  by_contra hmoves
  rw [not_or] at hmoves
  simp [isStep, hmoves.1, hmoves.2] at h

theorem beginningsAfter_append (before : String) (ps qs : List String) :
    beginningsAfter before (ps ++ qs) =
      beginningsAfter before ps ++ beginningsAfter (before ++ fore ps) qs := by
  induction ps generalizing before with
  | nil => simp [beginningsAfter, fore]
  | cons p ps ih =>
    simp only [List.cons_append, beginningsAfter, ih, fore, String.append_assoc]
    split <;> simp

/-- **The beginnings, one piece after the other.** -/
theorem beginningsAfter_concat (before : String) (ps : List String) (p : String) :
    beginningsAfter before (ps ++ [p]) = beginningsAfter before ps ++
      if isStep (before ++ fore ps) p then [before ++ fore ps ++ p] else [] := by
  rw [beginningsAfter_append]
  rfl

/-- The text of some first pieces is a beginning, if the last of them is a step. -/
theorem mem_beginningsAfter_of_isStep {ps qs : List String} {q : String} (h : qs ++ [q] <+: ps)
    (hstep : isStep (fore qs) q = true) : fore qs ++ q ∈ beginningsAfter "" ps := by
  obtain ⟨more, rfl⟩ := h
  rw [beginningsAfter_append, beginningsAfter_concat, String.empty_append, if_pos hstep]
  simp

/-- Each beginning is the text of some first pieces, the last of which is not empty. -/
theorem mem_beginningsAfter {ps : List String} {b : String} (h : b ∈ beginningsAfter "" ps) :
    ∃ qs q, qs ++ [q] <+: ps ∧ q ≠ "" ∧ b = fore qs ++ q := by
  induction ps using List.reverseRecOn with
  | nil => simp [beginningsAfter] at h
  | append_singleton ps p ih =>
    rw [beginningsAfter_concat, List.mem_append] at h
    rcases h with h | h
    · obtain ⟨qs, q, hinit, hq, rfl⟩ := ih h
      exact ⟨qs, q, hinit.trans (List.prefix_append _ _), hq, rfl⟩
    · split at h
      · next hstep =>
        rw [List.mem_singleton] at h
        exact ⟨ps, p, List.prefix_rfl, ne_empty_of_isStep hstep, by simpa using h⟩
      · simp at h

/-- The last of the beginnings has the others as its own. -/
theorem beginnings_of_concat {ps : List String} (hsep : ∀ p ∈ ps, '/' ∉ p.toList)
    {bs : List String} {b : String} (h : beginningsAfter "" ps = bs ++ [b]) :
    beginnings b = beginningsAfter "" ps := by
  induction ps using List.reverseRecOn with
  | nil => simp [beginningsAfter] at h
  | append_singleton ps p ih =>
    rw [beginningsAfter_concat] at h ⊢
    split at h
    · next hstep =>
      obtain rfl := (List.cons.inj (List.append_inj' h rfl).2).1
      rw [if_pos hstep, beginnings, String.empty_append, pieces_fore_append hsep,
        beginningsAfter_concat, String.empty_append, if_pos (by simpa using hstep)]
    · next hstep =>
      rw [if_neg hstep, List.append_nil] at *
      exact ih (fun q hq => hsep q (by simp [hq])) h

/-- **The folder that a path lies in** has the beginnings of all pieces but the last.  Where there
is none to be made, there are no such beginnings. -/
theorem parent_cases {path name : String} {folders : List String}
    (h : pieces path = folders ++ [name]) (hempty : name ≠ "") (hdot : name ≠ ".") :
    (parent? path).filter (· ≠ "") = none ∧ beginningsAfter "" folders = [] ∨
      ∃ parent, (parent? path).filter (· ≠ "") = some parent ∧
        beginnings parent = beginningsAfter "" folders := by
  have hstep : isStep ("" ++ fore folders) name = true := by simp [isStep, hempty, hdot]
  have hall : beginnings path = beginningsAfter "" folders ++ [path] := by
    rw [beginnings, h, beginningsAfter_concat, if_pos hstep, String.empty_append,
      ← eq_fore_append h]
  rw [parent?, hall, List.reverse_append]
  rcases List.eq_nil_or_concat (beginningsAfter "" folders) with hnil | ⟨bs, b, hconcat⟩
  · rw [hnil]
    cases isAbsolute path with
    | false => exact .inl ⟨rfl, rfl⟩
    | true => exact .inr ⟨"/", rfl, rfl⟩
  · right
    obtain ⟨qs, q, -, hq, hb⟩ := mem_beginningsAfter
      (show b ∈ beginningsAfter "" folders by simp [hconcat])
    have hne : b ≠ "" := by
      rw [hb, ne_eq, String.append_eq_empty_iff]
      exact fun h => hq h.2
    have hsep : ∀ p ∈ folders, '/' ∉ p.toList :=
      fun p hp => not_mem_of_mem_pieces (show p ∈ pieces path by simp [h, hp])
    refine ⟨b, by simp [hconcat, hne], beginnings_of_concat hsep (by simpa using hconcat)⟩

end Path

end ExamPress.Files
