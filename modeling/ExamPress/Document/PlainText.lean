import ExamPress.Document.Node
import ExamPress.Text.Blank

/-!
# The words of a document

The text of all leaves in order, formulas by their source.  A space is put before a block unless
the words so far are empty or already end with a space.

## What is here

* `Document.Node.wordsAfter` — the words so far with those of a node added;
* `Document.Node.plainText` — the words of a node, without blanks at the ends.
-/

set_option autoImplicit false

namespace ExamPress.Document.Node

/-- The words so far, with a space at the end when a block follows and there is something to keep
apart. -/
def spaced (words : List Char) (next : Node) : List Char :=
  if words ≠ [] ∧ words.getLast? ≠ some ' ' ∧ next.isBlock then words ++ [' '] else words

mutual

/-- The words so far followed by the words of a node. -/
def wordsAfter (words : List Char) : Node → List Char
  | text t => words ++ t.toList
  | inlineFormula attrs | displayFormula attrs => words ++ attrs.source.toList
  | document content | paragraph content | orderedList _ content | listItem content
  | listItemIntro content => wordsAfterAll words content
  | unknown => words

/-- The words so far followed by the words of several nodes. -/
def wordsAfterAll (words : List Char) : List Node → List Char
  | [] => words
  | n :: nodes => wordsAfterAll (wordsAfter (spaced words n) n) nodes

end

/-- **The words of a document.** -/
def plainText (n : Node) : String := String.ofList (Text.trim (wordsAfter [] n))

end ExamPress.Document.Node
