import ExamPress.Proofs.Text.ByteOrder

/-!
# Lines of bytes

Who reads a file has its bytes, and cuts it into lines by the byte of the line feed.  In UTF-8 a
character below 128 is one byte, and there is no such byte in the encoding of another.  So a file
that a text was written to is cut just where the text is, and what a line starts with can be seen
from its bytes as well.

A file has whole lines when there is nothing in it behind its last line feed.  Then the lines of what
is put at its end are lines of the file, and its own lines stay as they are.

## What is here

* `Text.encode` — the bytes of a text;
* `Text.mem_of_mem_encode`, `Text.prefix_of_encode` — characters below 128, told from the bytes;
* `Text.fileLines`, `Text.WholeLines` — the lines of a file;
* `Text.fileLines_append`, `Text.fileLines_encode` — the lines of what was put at its end.
-/

set_option autoImplicit false

namespace ExamPress.Text

/-! ## Bytes and characters -/

/-- The bytes of a text. -/
def encode (s : List Char) : List UInt8 := s.flatMap String.utf8EncodeChar

theorem bytes_ofList (s : List Char) : bytes (String.ofList s) = encode s := by
  rw [bytes_eq, String.toList_ofList, encode]

@[simp] theorem encode_append (s t : List Char) : encode (s ++ t) = encode s ++ encode t :=
  List.flatMap_append

/-- What goes on with a character is never a character by itself. -/
theorem le_of_mem_trail {b : UInt8} {k n : Nat} (h : b ∈ trail k n) : 128 ≤ b.toNat := by
  induction k generalizing n with
  | zero => exact absurd h List.not_mem_nil
  | succ k ih =>
    rcases List.mem_append.mp h with h | h
    · exact ih h
    · rw [List.mem_singleton.mp h, UInt8.toNat_ofNat']
      omega

variable {a c : Char} {s t : List Char}

/-- **A byte below 128 stands for its character only.** -/
theorem eq_of_mem_utf8EncodeChar (ha : a.toNat < 128)
    (h : UInt8.ofNat a.toNat ∈ String.utf8EncodeChar c) : c = a := by
  have hbyte : (UInt8.ofNat a.toNat).toNat = a.toNat := by
    rw [UInt8.toNat_ofNat']
    omega
  obtain ⟨k, hk, hbound, -, hbytes⟩ := exists_trail c
  have hlead := (lead_add_lt hk hbound).1
  rw [hbytes, List.mem_cons] at h
  rcases h with h | h
  · have hnat := congrArg UInt8.toNat h
    rw [hbyte, UInt8.toNat_ofNat', Nat.mod_eq_of_lt hlead] at hnat
    obtain rfl : k = 0 := by
      have hvalues : lead 1 = 192 ∧ lead 2 = 224 ∧ lead 3 = 240 := by decide
      obtain rfl | rfl | rfl | rfl : k = 0 ∨ k = 1 ∨ k = 2 ∨ k = 3 := by omega
      all_goals omega
    rw [lead, Nat.zero_add, Nat.pow_zero, Nat.div_one] at hnat
    exact Char.toNat_inj.mp hnat.symm
  · have hhigh := le_of_mem_trail h
    omega

/-- A character below 128 is one byte. -/
theorem utf8EncodeChar_eq (ha : a.toNat < 128) :
    String.utf8EncodeChar a = [UInt8.ofNat a.toNat] := by
  obtain ⟨k, -, -, hshort, hbytes⟩ := exists_trail a
  cases k with
  | zero =>
    rw [hbytes, lead, Nat.zero_add, Nat.pow_zero, Nat.div_one]
    rfl
  | succ k =>
    have hlong := hshort 0 (Nat.succ_pos k)
    rw [sizeBound] at hlong
    omega

theorem mem_of_mem_encode (ha : a.toNat < 128) (h : UInt8.ofNat a.toNat ∈ encode s) : a ∈ s := by
  obtain ⟨c, hc, hmem⟩ := List.mem_flatMap.mp h
  rwa [← eq_of_mem_utf8EncodeChar ha hmem]

/-- **What a text starts with** is told by what its bytes start with. -/
theorem prefix_of_encode (hs : (s.all fun a => a.toNat < 128) = true)
    (h : encode s <+: encode t) : s <+: t := by
  induction s generalizing t with
  | nil => exact List.nil_prefix
  | cons a s ih =>
    rw [List.all_cons, Bool.and_eq_true, decide_eq_true_iff] at hs
    have hone := utf8EncodeChar_eq hs.1
    rw [encode, List.flatMap_cons, hone] at h
    cases t with
    | nil => exact absurd (List.prefix_nil.mp h) (by simp)
    | cons c t =>
      obtain ⟨b, rest, hbytes⟩ := List.exists_cons_of_ne_nil (String.utf8EncodeChar_ne_nil (c := c))
      rw [encode, List.flatMap_cons, hbytes, List.cons_append, List.nil_append,
        List.cons_append, List.cons_prefix_cons] at h
      obtain ⟨rfl, hrest⟩ := h
      have hmem : UInt8.ofNat a.toNat ∈ String.utf8EncodeChar c := hbytes ▸ List.mem_cons_self
      obtain rfl := eq_of_mem_utf8EncodeChar hs.1 hmem
      obtain rfl : rest = [] := (List.cons.inj (hbytes.symm.trans hone)).2
      exact List.cons_prefix_cons.mpr ⟨rfl, ih hs.2 hrest⟩

/-! ## The lines of a file -/

/-- **The lines of a file**: what stands before each of its line feeds. -/
def fileLines (file : List UInt8) : List (List UInt8) := (file.splitOn 10).dropLast

/-- There is nothing behind the last line feed of a file. -/
def WholeLines (file : List UInt8) : Prop := file = [] ∨ file.getLast? = some 10

instance (file : List UInt8) : Decidable (WholeLines file) :=
  inferInstanceAs (Decidable (_ ∨ _))

/-- **What is put at the end of whole lines** are lines of its own. -/
theorem fileLines_append {file : List UInt8} (h : WholeLines file) (more : List UInt8) :
    fileLines (file ++ more) = fileLines file ++ fileLines more := by
  rcases h with rfl | h
  · rfl
  · obtain ⟨before, rfl⟩ := List.getLast?_eq_some_iff.mp h
    have hne := List.splitOn_ne_nil (10 : UInt8) more
    rw [fileLines, fileLines, List.append_assoc, List.cons_append, List.nil_append,
      List.splitOn_append_cons_self, List.splitOn_append_cons_self, List.splitOn_nil,
      List.dropLast_append_of_ne_nil hne, List.dropLast_concat, fileLines]

/-- **A text of lines is cut into its lines again.** -/
theorem fileLines_encode {lines : List (List Char)} (h : ∀ line ∈ lines, '\n' ∉ line) :
    fileLines (encode (lines.flatMap fun line => line ++ ['\n'])) = lines.map encode := by
  induction lines with
  | nil => rfl
  | cons line lines ih =>
    rw [List.forall_mem_cons] at h
    have hline : (10 : UInt8) ∉ encode line := fun hmem => h.1 (mem_of_mem_encode (by decide) hmem)
    have hend : encode ['\n'] = [10] := by decide
    rw [List.flatMap_cons, encode_append, encode_append, hend, fileLines_append]
    · rw [ih h.2, fileLines, List.splitOn_append_cons_self_of_not_mem hline, List.splitOn_nil]
      rfl
    · exact .inr List.getLast?_concat

end ExamPress.Text
