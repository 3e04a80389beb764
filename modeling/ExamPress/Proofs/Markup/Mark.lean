import ExamPress.Proofs.Markup.Blank
import Mathlib.Data.List.Infix

/-!
# The marks of a typeset text

What gives a typeset text its structure are a few words in it: the beginnings and ends of
environments, and the commands that begin the parts of a question.  Here they are read off the
characters of the text, at every place where one of them stands, whoever put it there.

Statements about the markup of a document come in two steps.  The first is the one taken here:
which marks are in the markup of a node, given those in the markup of what is in it.  Nothing
about it is obvious, because the payloads of a document go into the markup as they are, and a word
could be put together from the end of one text and the beginning of the next.  It never is: what
follows a payload begins with a blank, a dollar sign, a closing brace or a backslash, and no word
goes on with any of these (`HasMarks.of_freeOf`).  The second step, what the marks say, is then a
matter of lists of marks only.

## What is here

* `Mark` and `marks` — the marks of a text, of those kinds that are asked for;
* `Mark.word` — how a mark is written, and `markAt?_eq_some_iff` that it is read just there;
* `HasMarks` — the marks of a text that is followed by something else, and `Closed` for a text
  whose marks do not depend on what follows;
* `SpelledBy`, `FreeOf` — the words that marks begin with, and texts in which none of them occurs;
* `hasMarks_paragraph`, `hasMarks_list`, `hasMarks_item` and so on — the marks in the markup of one
  node.
-/

set_option autoImplicit false

namespace ExamPress.Markup

open Document (Node ListAttrs)

/-! ## Reading the marks -/

/-- A mark of a typeset text. -/
inductive Mark
  /-- An environment begins. -/
  | opens (env : List Char)
  /-- An environment ends. -/
  | closes (env : List Char)
  /-- A part of a level begins. -/
  | part (level : PartLevel)
  deriving DecidableEq

/-- What the beginning of an environment starts with. -/
def openWord : List Char := "\\begin\x7b".toList

/-- What the end of an environment starts with. -/
def closeWord : List Char := "\\end\x7b".toList

/-- The command that begins a part of a level, with the blank after it. -/
def partWord : PartLevel → List Char
  | .parts => "\\part ".toList
  | .subparts => "\\subpart ".toList

/-- The name of an environment, from after its opening brace: all up to the next closing one. -/
def envName? (s : List Char) : Option (List Char) :=
  if '\x7d' ∈ s then some (s.takeWhile (· ≠ '\x7d')) else none

/-- The mark that a text starts with. -/
def markAt? (s : List Char) : Option Mark :=
  if openWord <+: s then (envName? (s.drop openWord.length)).map .opens
  else if closeWord <+: s then (envName? (s.drop closeWord.length)).map .closes
  else if partWord .parts <+: s then some (.part .parts)
  else if partWord .subparts <+: s then some (.part .subparts)
  else none

/-- **The marks of a text**, from left to right, of those kinds that `keep` asks for. -/
def marks (keep : Mark → Bool) : List Char → List Mark
  | [] => []
  | c :: s => (markAt? (c :: s)).toList.filter keep ++ marks keep s

variable {keep : Mark → Bool}

theorem openWord_eq : openWord = ['\\', 'b', 'e', 'g', 'i', 'n', '\x7b'] := rfl

theorem closeWord_eq : closeWord = ['\\', 'e', 'n', 'd', '\x7b'] := rfl

theorem partWord_parts_eq : partWord .parts = ['\\', 'p', 'a', 'r', 't', ' '] := rfl

theorem partWord_subparts_eq :
    partWord .subparts = ['\\', 's', 'u', 'b', 'p', 'a', 'r', 't', ' '] := rfl

theorem markAt?_of_ne {c : Char} (hc : c ≠ '\\') (s : List Char) : markAt? (c :: s) = none := by
  have h (w : List Char) : ¬ ('\\' :: w) <+: c :: s := by
    rw [List.cons_prefix_cons]
    exact fun h => hc h.1.symm
  rw [markAt?, openWord_eq, closeWord_eq, partWord_parts_eq, partWord_subparts_eq,
    if_neg (h _), if_neg (h _), if_neg (h _), if_neg (h _)]

theorem marks_cons_of_ne {c : Char} (hc : c ≠ '\\') (s : List Char) :
    marks keep (c :: s) = marks keep s := by
  rw [marks, markAt?_of_ne hc]
  rfl

/-- There is no mark in a text without a backslash. -/
theorem marks_append_of_not_mem {t : List Char} (ht : '\\' ∉ t) (s : List Char) :
    marks keep (t ++ s) = marks keep s := by
  induction t with
  | nil => rfl
  | cons c t ih =>
    rw [List.mem_cons, not_or] at ht
    rw [List.cons_append, marks_cons_of_ne (Ne.symm ht.1), ih ht.2]

/-- A word that begins with its only backslash holds no other mark than the one it begins. -/
theorem marks_word {t : List Char} (ht : '\\' ∉ t) (s : List Char) :
    marks keep ('\\' :: t ++ s) =
      (markAt? ('\\' :: t ++ s)).toList.filter keep ++ marks keep s := by
  rw [List.cons_append, marks, marks_append_of_not_mem ht]

/-! ## The marks of the words that are set -/

/-- A name that can be read back from the word in which it stands. -/
def PlainName (name : List Char) : Prop := '\\' ∉ name ∧ '\x7d' ∉ name

instance (name : List Char) : Decidable (PlainName name) :=
  inferInstanceAs (Decidable (_ ∧ _))

theorem envName?_append {name : List Char} (h : '\x7d' ∉ name) (s : List Char) :
    envName? (name ++ ['\x7d'] ++ s) = some name := by
  have hall : ∀ c ∈ name, decide (c ≠ '\x7d') = true := fun c hc =>
    decide_eq_true fun he => h (he ▸ hc)
  rw [envName?, if_pos (by simp), List.append_assoc, List.takeWhile_append_of_pos hall]
  simp

theorem prefix_of_envName? {name s : List Char} (h : envName? s = some name) :
    name ++ ['\x7d'] <+: s := by
  have hbrace : '\x7d' ∈ s := by
    rw [envName?] at h
    split at h
    · assumption
    · cases h
  obtain ⟨first, rest, rfl, hfirst⟩ := List.eq_append_cons_of_mem hbrace
  have hsplit : first ++ '\x7d' :: rest = first ++ ['\x7d'] ++ rest := by simp
  rw [hsplit, envName?_append hfirst] at h
  obtain rfl := Option.some.inj h
  exact ⟨rest, hsplit.symm⟩

theorem beginEnv_append (name s : List Char) :
    beginEnv name ++ s = openWord ++ (name ++ ['\x7d'] ++ s) := by
  rw [← List.append_assoc, ← List.append_assoc]
  rfl

theorem endEnv_append (name s : List Char) :
    endEnv name ++ s = closeWord ++ (name ++ ['\x7d'] ++ s) := by
  rw [← List.append_assoc, ← List.append_assoc]
  rfl

/-- How a mark is written. -/
def Mark.word : Mark → List Char
  | .opens env => beginEnv env
  | .closes env => endEnv env
  | .part level => partWord level

/-- A mark that can be read back: there is no closing brace in the name of its environment. -/
def Mark.IsNamed : Mark → Prop
  | .opens env | .closes env => '\x7d' ∉ env
  | .part _ => True

/-- **A text that starts with the word of a mark starts with the mark.** -/
theorem markAt?_word {m : Mark} (hm : m.IsNamed) (s : List Char) :
    markAt? (m.word ++ s) = some m := by
  cases m with
  | opens env =>
    rw [Mark.word, beginEnv_append, markAt?, if_pos (List.prefix_append _ _), List.drop_left,
      envName?_append hm, Option.map_some]
  | closes env =>
    have hopen : ¬ openWord <+: closeWord ++ (env ++ ['\x7d'] ++ s) := by
      simp [openWord_eq, closeWord_eq]
    rw [Mark.word, endEnv_append, markAt?, if_neg hopen, if_pos (List.prefix_append _ _),
      List.drop_left, envName?_append hm, Option.map_some]
  | part level =>
    cases level <;>
      simp [Mark.word, markAt?, openWord_eq, closeWord_eq, partWord_parts_eq,
        partWord_subparts_eq]

/-- A mark is written where it is read. -/
theorem prefix_of_markAt? {m : Mark} {s : List Char} (h : markAt? s = some m) : m.word <+: s := by
  have hnamed {w : List Char} (hw : w <+: s) {name : List Char}
      (hname : envName? (s.drop w.length) = some name) : w ++ (name ++ ['\x7d']) <+: s := by
    obtain ⟨rest, rfl⟩ := hw
    rw [List.drop_left] at hname
    exact (List.prefix_append_right_inj w).mpr (prefix_of_envName? hname)
  rw [markAt?] at h
  split at h
  · next hw =>
    obtain ⟨name, hname, rfl⟩ := Option.map_eq_some_iff.mp h
    rw [Mark.word, ← List.append_nil (beginEnv name), beginEnv_append, List.append_nil]
    exact hnamed hw hname
  split at h
  · next hw =>
    obtain ⟨name, hname, rfl⟩ := Option.map_eq_some_iff.mp h
    rw [Mark.word, ← List.append_nil (endEnv name), endEnv_append, List.append_nil]
    exact hnamed hw hname
  split at h
  · next hw =>
    obtain rfl := Option.some.inj h
    exact hw
  split at h
  · next hw =>
    obtain rfl := Option.some.inj h
    exact hw
  · cases h

/-- **The mark that a text starts with** is the one whose word it starts with. -/
theorem markAt?_eq_some_iff {m : Mark} (hm : m.IsNamed) {s : List Char} :
    markAt? s = some m ↔ m.word <+: s := by
  refine ⟨prefix_of_markAt?, ?_⟩
  rintro ⟨rest, rfl⟩
  exact markAt?_word hm rest

theorem marks_beginEnv {name : List Char} (h : PlainName name) (s : List Char) :
    marks keep (beginEnv name ++ s) = [Mark.opens name].filter keep ++ marks keep s := by
  have hmark := markAt?_word (m := .opens name) h.2 s
  have hslash : '\\' ∉ 'b' :: 'e' :: 'g' :: 'i' :: 'n' :: '\x7b' :: (name ++ ['\x7d']) := by
    simp [h.1]
  rw [Mark.word, beginEnv_eq] at hmark
  rw [beginEnv_eq, marks_word hslash, hmark, Option.toList_some]

theorem endEnv_eq (name : List Char) :
    endEnv name = '\\' :: 'e' :: 'n' :: 'd' :: '\x7b' :: (name ++ ['\x7d']) := rfl

theorem marks_endEnv {name : List Char} (h : PlainName name) (s : List Char) :
    marks keep (endEnv name ++ s) = [Mark.closes name].filter keep ++ marks keep s := by
  have hmark := markAt?_word (m := .closes name) h.2 s
  have hslash : '\\' ∉ 'e' :: 'n' :: 'd' :: '\x7b' :: (name ++ ['\x7d']) := by
    simp [h.1]
  rw [Mark.word, endEnv_eq] at hmark
  rw [endEnv_eq, marks_word hslash, hmark, Option.toList_some]

theorem command_append_blank (level : PartLevel) : level.command ++ [' '] = partWord level := by
  cases level <;> rfl

theorem marks_command (level : PartLevel) (s : List Char) :
    marks keep (level.command ++ [' '] ++ s) = [Mark.part level].filter keep ++ marks keep s := by
  have hmark := markAt?_word (m := .part level) trivial s
  rw [Mark.word] at hmark
  rw [command_append_blank]
  cases level with
  | parts =>
    rw [partWord_parts_eq] at hmark ⊢
    rw [marks_word (by decide), hmark, Option.toList_some]
  | subparts =>
    rw [partWord_subparts_eq] at hmark ⊢
    rw [marks_word (by decide), hmark, Option.toList_some]

/-- A command with another first letter than those of the marks is no mark. -/
theorem marks_other {c : Char} {t : List Char} (hc : c ∉ ['b', 'e', 'p', 's'])
    (ht : '\\' ∉ c :: t) (s : List Char) : marks keep ('\\' :: c :: t ++ s) = marks keep s := by
  have hmark : markAt? ('\\' :: c :: t ++ s) = none := by
    simp only [List.mem_cons, List.not_mem_nil, or_false, not_or] at hc
    simp [markAt?, openWord_eq, closeWord_eq, partWord_parts_eq, partWord_subparts_eq,
      Ne.symm hc.1, Ne.symm hc.2.1, Ne.symm hc.2.2.1, Ne.symm hc.2.2.2]
  rw [marks_word ht, hmark]
  rfl

/-! ## Marks of a text that goes on -/

/-- What follows a payload begins with one of these characters, and none of the words that marks
begin with goes on with one of them. -/
def breakers : List Char := [' ', '\n', '$', '\x7d', '\\']

/-- A text that no word can go on into: it begins with a breaker, or is empty. -/
def Breaks (s : List Char) : Prop := ∀ c ∈ s.head?, c ∈ breakers

theorem breaks_nil : Breaks [] := fun _ h => absurd h (by simp)

theorem breaks_cons {c : Char} (hc : c ∈ breakers) (s : List Char) : Breaks (c :: s) := by
  intro d hd
  rw [List.head?_cons, Option.mem_some_iff] at hd
  exact hd ▸ hc

theorem Breaks.append {s v : List Char} (hs : Breaks s) (hv : Breaks v) : Breaks (s ++ v) := by
  cases s with
  | nil => exact hv
  | cons c s => exact breaks_cons (hs c rfl) _

/-- The text has the marks `ms` and does not go on into what follows it. -/
def HasMarks (keep : Mark → Bool) (s : List Char) (ms : List Mark) : Prop :=
  ∀ v, Breaks v → marks keep (s ++ v) = ms ++ marks keep v

/-- A text whose marks do not depend on what follows it. -/
def Closed (keep : Mark → Bool) (s : List Char) : Prop := HasMarks keep s (marks keep s)

namespace HasMarks

variable {s t : List Char} {ms ns : List Mark}

theorem marks_eq (h : HasMarks keep s ms) : marks keep s = ms := by
  simpa [marks] using h [] breaks_nil

theorem closed (h : HasMarks keep s ms) : Closed keep s := by
  rw [Closed, h.marks_eq]
  exact h

theorem nil : HasMarks keep [] [] := fun _ _ => rfl

theorem of_not_mem (hs : '\\' ∉ s) : HasMarks keep s [] := fun v _ =>
  marks_append_of_not_mem hs v

theorem append (hs : HasMarks keep s ms) (ht : HasMarks keep t ns) (hb : Breaks t) :
    HasMarks keep (s ++ t) (ms ++ ns) := by
  intro v hv
  rw [List.append_assoc, hs _ (hb.append hv), ht v hv, List.append_assoc]

theorem plain_append (ht : '\\' ∉ t) (hs : HasMarks keep s ms) : HasMarks keep (t ++ s) ms := by
  intro v hv
  rw [List.append_assoc, marks_append_of_not_mem ht, hs v hv]

theorem append_plain (hs : HasMarks keep s ms) (ht : '\\' ∉ t) (hb : Breaks t) :
    HasMarks keep (s ++ t) ms := by
  simpa using hs.append (of_not_mem ht) hb

theorem beginEnv_append {name : List Char} (hn : PlainName name) (hs : HasMarks keep s ms) :
    HasMarks keep (beginEnv name ++ s) ([Mark.opens name].filter keep ++ ms) := by
  intro v hv
  rw [List.append_assoc, marks_beginEnv hn, hs v hv, List.append_assoc]

theorem append_endEnv {name : List Char} (hn : PlainName name) (hs : HasMarks keep s ms) :
    HasMarks keep (s ++ endEnv name) (ms ++ [Mark.closes name].filter keep) := by
  refine hs.append (fun v _ => marks_endEnv hn v) ?_
  rw [endEnv_eq]
  exact breaks_cons (by decide) _

theorem command_append (level : PartLevel) (hs : HasMarks keep s ms) :
    HasMarks keep (level.command ++ [' '] ++ s) ([Mark.part level].filter keep ++ ms) := by
  intro v hv
  rw [List.append_assoc, marks_command, hs v hv, List.append_assoc]

theorem other_append {c : Char} (hc : c ∉ ['b', 'e', 'p', 's']) (ht : '\\' ∉ c :: t)
    (hs : HasMarks keep s ms) : HasMarks keep ('\\' :: c :: t ++ s) ms := by
  intro v hv
  rw [List.append_assoc, marks_other hc ht, hs v hv]

end HasMarks

/-! ## Texts in which no word of a mark occurs -/

/-- The marks that are kept all begin with one of the words, and no word goes on with a breaker
after its first character. -/
structure SpelledBy (keep : Mark → Bool) (words : List (List Char)) : Prop where
  /-- A mark that is kept begins with a word. -/
  starts : ∀ {s m}, markAt? s = some m → keep m = true → ∃ w ∈ words, w <+: s
  /-- No breaker stands inside a word. -/
  goesOn : ∀ w ∈ words, w.tail.all (· ∉ breakers) = true

/-- A text in which none of the words occurs. -/
def FreeOf (words : List (List Char)) (s : List Char) : Prop := ∀ w ∈ words, ¬ w <:+: s

instance (words : List (List Char)) (s : List Char) : Decidable (FreeOf words s) :=
  inferInstanceAs (Decidable (∀ w ∈ words, ¬ w <:+: s))

/-- A text in front of a word that begins in it and ends behind it. -/
theorem exists_mem_tail_of_prefix {w p v : List Char} (hp : p ≠ []) (h : w <+: p ++ v)
    (hw : ¬ w <+: p) : ∃ c ∈ v.head?, c ∈ w.tail := by
  rcases List.prefix_or_prefix_of_prefix h (List.prefix_append p v) with hwp | ⟨t, rfl⟩
  · exact absurd hwp hw
  · rw [List.prefix_append_right_inj] at h
    obtain ⟨a, p, rfl⟩ := List.exists_cons_of_ne_nil hp
    cases t with
    | nil => exact absurd (by simp) hw
    | cons c t =>
      obtain ⟨u, rfl⟩ := h
      exact ⟨c, rfl, by simp⟩

/-- **No mark comes about where texts meet.**  If no word occurs in a text, then neither is there a
mark in it nor does one begin in it and end behind it. -/
theorem HasMarks.of_freeOf {words : List (List Char)} (hk : SpelledBy keep words)
    {p : List Char} (hp : FreeOf words p) : HasMarks keep p [] := by
  intro v hv
  induction p with
  | nil => rfl
  | cons c p ih =>
    have htail : FreeOf words p := fun w hw h => hp w hw (List.infix_cons_iff.mpr (.inr h))
    have hnone : (markAt? (c :: (p ++ v))).toList.filter keep = [] := by
      rw [List.filter_eq_nil_iff]
      intro m hm hkm
      obtain ⟨w, hw, hpre⟩ := hk.starts (Option.mem_toList.mp hm) hkm
      have hnot : ¬ w <+: c :: p := fun h => hp w hw h.isInfix
      obtain ⟨d, hd, hdw⟩ := exists_mem_tail_of_prefix (List.cons_ne_nil c p) hpre hnot
      exact of_decide_eq_true (List.all_eq_true.mp (hk.goesOn w hw) d hdw) (hv d hd)
    rw [List.cons_append, marks, hnone, ih htail]
    rfl

/-- The beginnings and ends of environments, not the parts. -/
def Mark.isEnv : Mark → Bool
  | .opens _ | .closes _ => true
  | .part _ => false

/-- Every mark. -/
def Mark.any (_ : Mark) : Bool := true

/-- The words that the beginnings and ends of environments begin with. -/
def envWords : List (List Char) := [openWord, closeWord]

/-- The words that all marks begin with.  For a part this is its command without the blank. -/
def markWords : List (List Char) :=
  [openWord, closeWord, "\\part".toList, "\\subpart".toList]

theorem starts_of_markAt? {s : List Char} {m : Mark} (h : markAt? s = some m) :
    (m.isEnv = true ∧ (openWord <+: s ∨ closeWord <+: s)) ∨
      (m.isEnv = false ∧ ("\\part".toList <+: s ∨ "\\subpart".toList <+: s)) := by
  rw [markAt?] at h
  split at h
  · next hw =>
    obtain ⟨name, -, rfl⟩ := Option.map_eq_some_iff.mp h
    exact .inl ⟨rfl, .inl hw⟩
  split at h
  · next hw =>
    obtain ⟨name, -, rfl⟩ := Option.map_eq_some_iff.mp h
    exact .inl ⟨rfl, .inr hw⟩
  split at h
  · next hw =>
    obtain rfl := Option.some.inj h
    exact .inr ⟨rfl, .inl (.trans (by decide) hw)⟩
  split at h
  · next hw =>
    obtain rfl := Option.some.inj h
    exact .inr ⟨rfl, .inr (.trans (by decide) hw)⟩
  · exact absurd h (by simp)

theorem spelledBy_envWords : SpelledBy Mark.isEnv envWords where
  starts h hk := by
    rcases starts_of_markAt? h with ⟨-, hw | hw⟩ | ⟨hne, -⟩
    · exact ⟨openWord, by simp [envWords], hw⟩
    · exact ⟨closeWord, by simp [envWords], hw⟩
    · exact absurd hk (by simp [hne])
  goesOn := by decide

theorem spelledBy_markWords : SpelledBy Mark.any markWords where
  starts h _ := by
    rcases starts_of_markAt? h with ⟨-, hw | hw⟩ | ⟨-, hw | hw⟩
    · exact ⟨_, by simp [markWords], hw⟩
    · exact ⟨_, by simp [markWords], hw⟩
    · exact ⟨_, by simp [markWords], hw⟩
    · exact ⟨_, by simp [markWords], hw⟩
  goesOn := by decide

theorem occursIn_iff {t s : List Char} : occursIn t s = true ↔ t <:+: s := by
  induction s with
  | nil => simp [occursIn]
  | cons c s ih => simp [occursIn, List.infix_cons_iff, ih]

/-- A formula that begins no environment brings no alignment. -/
theorem isAligned_of_freeOf {words : List (List Char)} (hw : openWord ∈ words)
    {code : List Char} (h : FreeOf words code) : isAligned code = false := by
  have hnot (name : List Char) : occursIn (beginEnv name) code = false := by
    rw [Bool.eq_false_iff, Ne, occursIn_iff]
    intro hin
    have hword : openWord <:+: beginEnv name :=
      ⟨[], name ++ ['\x7d'], by simp [openWord_eq, beginEnv_eq]⟩
    exact h openWord hw (hword.trans hin)
  rw [isAligned, hnot, hnot, Bool.false_or]

/-! ## The marks of one node

What is in the markup of a node is taken as `Closed` here, and its marks as they are. -/

theorem HasMarks.join {c : Char} (hc : c = ' ' ∨ c = '\n') :
    ∀ {parts : List (List Char)}, (∀ s ∈ parts, Closed keep s) →
      HasMarks keep (Text.join [c] parts) (parts.flatMap (marks keep))
  | [], _ => .nil
  | [s], h => by
    rw [List.flatMap_singleton]
    exact h s List.mem_cons_self
  | s :: t :: parts, h => by
    have hrest := HasMarks.join hc fun u hu => h u (List.mem_cons_of_mem s hu)
    have hslash : '\\' ∉ [c] := by rcases hc with rfl | rfl <;> decide
    have hbreak : c ∈ breakers := by rcases hc with rfl | rfl <;> decide
    rw [Text.join, List.append_assoc, List.flatMap_cons]
    exact (h s List.mem_cons_self).append (hrest.plain_append hslash) (breaks_cons hbreak _)

/-- A blank text has no marks. -/
theorem marks_eq_nil_of_allBlank {s : List Char} (h : Text.allBlank s = true) :
    marks keep s = [] := by
  have hslash : '\\' ∉ s := fun hmem => by
    have hblank := List.all_eq_true.mp h _ hmem
    exact absurd hblank (by decide)
  have h : marks keep (s ++ []) = marks keep [] := marks_append_of_not_mem hslash []
  rwa [List.append_nil] at h

theorem hasMarks_paragraph (next : Bool) {parts : List (List Char)}
    (h : ∀ s ∈ parts, Closed keep s) :
    HasMarks keep (paragraph next parts) (parts.flatMap (marks keep)) := by
  have htext := HasMarks.join (.inl rfl) h
  simp only [paragraph]
  split
  · next hblank =>
    rw [← htext.marks_eq, marks_eq_nil_of_allBlank hblank]
    exact .nil
  · split
    · exact htext.append_plain (by decide) (breaks_cons (by decide) _)
    · exact htext

/-- The marks of an environment with other marks in it. -/
def inEnv (keep : Mark → Bool) (name : List Char) (ms : List Mark) : List Mark :=
  [Mark.opens name].filter keep ++ ms ++ [Mark.closes name].filter keep

theorem hasMarks_env {name s : List Char} {ms : List Mark} (hn : PlainName name)
    (h : HasMarks keep s ms) :
    HasMarks keep (beginEnv name ++ ['\n'] ++ s ++ ['\n'] ++ endEnv name)
      (inEnv keep name ms) := by
  have hline := (h.plain_append (t := ['\n']) (by decide)).append_plain
    (t := ['\n']) (by decide) (breaks_cons (by decide) _)
  have henv := (hline.beginEnv_append hn).append_endEnv hn
  simpa only [inEnv, List.append_assoc] using henv

/-- The marks of a list around those of its items. -/
def listMarks (keep : Mark → Bool) (attrs : ListAttrs) (level : PartLevel) (ms : List Mark) :
    List Mark :=
  inEnv keep level.environment <|
    match attrs.orientation with
    | .vertical => inEnv keep "multicols".toList ms
    | .horizontal => ms

theorem not_mem_natText (n : Nat) : '\\' ∉ Number.natText n := fun hmem =>
  absurd (Number.isDigit_of_mem_natText hmem) (by decide)

theorem hasMarks_columns (n : UInt32) {items : List Char} {ms : List Mark}
    (h : HasMarks keep items ms) :
    HasMarks keep (columns n items) (inEnv keep "multicols".toList ms) := by
  have hname : PlainName "multicols".toList := by decide
  have hcount : '\\' ∉ ['\x7b'] ++ Number.natText n.toNat ++ ['\x7d', '\n'] := by
    simp [not_mem_natText]
  have hline := (h.plain_append hcount).append_plain (t := ['\n']) (by decide)
    (breaks_cons (by decide) _)
  have henv := (hline.beginEnv_append hname).append_endEnv hname
  simpa only [columns, inEnv, List.append_assoc] using henv

theorem plainName_environment (level : PartLevel) : PlainName level.environment := by
  cases level <;> decide

theorem hasMarks_list (attrs : ListAttrs) (level : PartLevel) {items : List (List Char)}
    (h : ∀ s ∈ items, Closed keep s) :
    HasMarks keep (list attrs level items)
      (if items.all Text.allBlank then []
        else listMarks keep attrs level (items.flatMap (marks keep))) := by
  have hindent (s : List Char) : marks keep ([' ', ' '] ++ s) = marks keep s :=
    marks_append_of_not_mem (by decide) s
  have hclosed : ∀ t ∈ items.map ([' ', ' '] ++ ·), Closed keep t := by
    intro t ht
    obtain ⟨s, hs, rfl⟩ := List.mem_map.mp ht
    exact ((h s hs).plain_append (by decide)).closed
  have hitems := HasMarks.join (.inr rfl) hclosed
  simp only [List.flatMap_map, hindent] at hitems
  simp only [list, allBlank_indented]
  split
  · exact .nil
  · cases ho : attrs.orientation with
    | vertical =>
      simpa only [listMarks, ho] using
        hasMarks_env (plainName_environment level) (hasMarks_columns attrs.gridCols hitems)
    | horizontal =>
      simpa only [listMarks, ho] using hasMarks_env (plainName_environment level) hitems

theorem hasMarks_item (level : PartLevel) {intro body : List Char} {ms : List Mark}
    (hintro : Closed keep intro) (hbody : HasMarks keep body ms) :
    HasMarks keep (item level intro body)
      (if Text.allBlank body then []
        else marks keep intro ++ [Mark.part level].filter keep ++ ms) := by
  have hpart := hbody.command_append level
  simp only [item]
  split
  · exact .nil
  · split
    · next hnil => simpa [hnil, marks] using hpart
    · have hbreak : Breaks (level.command ++ [' '] ++ body) := by
        cases level <;> exact breaks_cons (by decide) _
      have hline := (hintro.append_plain (t := ['\x7d', '\n']) (by decide)
        (breaks_cons (by decide) _)).append hpart hbreak
      have hword : "\\uplevel\x7b".toList = '\\' :: 'u' :: "plevel\x7b".toList := rfl
      rw [hword]
      simpa only [List.append_assoc] using hline.other_append (c := 'u') (by decide) (by decide)

theorem hasMarks_displayFormula {code : List Char} (h : HasMarks keep code [])
    (haligned : isAligned code = false) :
    HasMarks keep (displayFormula code)
      (if Text.allBlank code then [] else inEnv keep "equation".toList []) := by
  have hname : PlainName "equation".toList := by decide
  rw [displayFormula, haligned]
  split
  · exact .nil
  · exact hasMarks_env hname h

theorem hasMarks_inlineFormula {code : List Char} (h : HasMarks keep code []) :
    HasMarks keep (inlineFormula code) [] := by
  rw [inlineFormula]
  split
  · exact .nil
  · exact (h.plain_append (by decide)).append_plain (by decide) (breaks_cons (by decide) _)

theorem hasMarks_document {parts : List (List Char)} (h : ∀ s ∈ parts, Closed keep s) :
    HasMarks keep (questionMark ++ Text.join ['\n'] parts) (parts.flatMap (marks keep)) := by
  have hword : questionMark = '\\' :: 'q' :: "uestion ".toList := rfl
  rw [hword]
  exact (HasMarks.join (.inr rfl) h).other_append (by decide) (by decide)

/-! ## The marks of a document -/

/-- **The markup of a document is closed** when that of its leaves is: no mark comes about where
the markups of its nodes meet. -/
theorem closed_node {n : Node}
    (h : ∀ m, m.Within n → m.payload?.isSome = true → ∀ ctx, Closed keep (node ctx m))
    (ctx : Context) : Closed keep (node ctx n) := by
  induction n using Node.induction_below generalizing ctx with
  | step n ih =>
    have hclosed {level : PartLevel} {nodes : List Node} {parts : List (List Char)}
        (hset : SetAt level nodes parts) (hsub : ∀ m ∈ nodes, m.Below n) :
        ∀ s ∈ parts, Closed keep s :=
      hset.forall_mem fun m hm ctx _ =>
        ih m (hsub m hm) (fun k hk => h k (hk.trans (hsub m hm).within)) ctx
    cases n with
    | document content =>
      rw [node]
      exact (hasMarks_document (hclosed (setAt_stream _ _) fun m hm => .of_mem hm)).closed
    | paragraph content =>
      rw [node]
      exact (hasMarks_paragraph _ (hclosed (setAt_apart _ _) fun m hm => .of_mem hm)).closed
    | orderedList attrs content =>
      rw [node]
      exact (hasMarks_list _ _ (hclosed (setAt_apart _ _) fun m hm => .of_mem hm)).closed
    | listItem content =>
      have hintro := hclosed (setAt_apart .parts _) fun m hm => Node.below_of_mem_introOf hm
      have hbody := hclosed (setAt_stream ctx.level.inside _) fun m hm =>
        Node.below_of_mem_bodyOf hm
      rw [node_listItem]
      exact (hasMarks_item _ (hasMarks_paragraph _ hintro).closed
        (HasMarks.join (.inr rfl) hbody)).closed
    | text | inlineFormula | displayFormula => exact h _ .self rfl ctx
    | listItemIntro | unknown =>
      rw [node]
      exact HasMarks.nil.closed

end ExamPress.Markup
