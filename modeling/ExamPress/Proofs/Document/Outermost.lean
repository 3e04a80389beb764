import ExamPress.Document.Reader
import ExamPress.Proofs.Document.Fields
import ExamPress.Proofs.Json.Grammar

/-!
# The outermost node is decoded like any other

The outermost node of a document is read straight from the text, and its parts are decoded after
that; every other node is read as a JSON value first.  Both ways come to the same: a text is a
document exactly when it is JSON, its tag is a word, and its value decodes to the document.  The one
difference that is left is the tag, which inside a document may also be the number of a kind.

## What is here

* `WordTagged` — a value whose tag is a word;
* `readsThen_readRootEntry`, `foldlM_add` — the outermost entries are read as values and then taken;
* `readDocument_eq_ok_iff` — the theorem.
-/

set_option autoImplicit false

namespace ExamPress.Document

open ExamPress.Json (Value Spaces readValue readNested readMembers readEntry skipBlanks
  spaces_skipBlanks isSpace)

/-- The kind that a word names. -/
def decodeWord : Value → Except Problem Kind
  | .string name => .ok (.ofTag name)
  | v => refuse v .tag

theorem decodeWord_eq_ok {v : Value} {kind : Kind} :
    decodeWord v = .ok kind ↔ (∃ name, v = .string name) ∧ decodeTag v = .ok kind := by
  cases v <;> simp [decodeWord, decodeTag, refuse]

/-- **A value whose tag is a word**, as the outermost tag of a document must be. -/
def WordTagged : Value → Prop
  | .object entries => ∀ tag ∈ stored tagKey entries, ∃ name, tag = .string name
  | .array (tag :: _) => ∃ name, tag = .string name
  | _ => True

/-! ## The tag -/

/-- Whatever may be inside a list or an object, it does not begin like one. -/
theorem readNested_eq_of_ne {s s' : List Char} {c : Char} (hs : skipBlanks s = c :: s')
    (hbracket : c ≠ '[') (hbrace : c ≠ '\x7b') (inner inner' : Option (Json.Reader Value)) :
    readNested inner s = readNested inner' s := by
  simp only [readNested, hs, if_neg hbracket, if_neg hbrace]

/-- **The outermost tag** is read as a value, and must be a word. -/
theorem readTag_eq_ok {s r : List Char} {kind : Kind} {d : Nat} :
    readTag s = .ok (kind, r) ↔
      ∃ v, readValue (d + 1) s = .ok (v, r) ∧ decodeWord v = .ok kind := by
  have hspace := spaces_skipBlanks s
  rw [hspace.readValue, readTag]
  have hfirst {c : Char} {t : List Char} := Json.isSpace_of_skipBlanks (s := s) (c := c) (r := t)
  generalize skipBlanks s = s' at hfirst
  split
  · exact ⟨fun h => (by cases h), fun ⟨_, h, _⟩ => (by cases h)⟩
  · next t =>
    -- A list is read as a value, but it is no word.
    refine ⟨fun h => (by cases h), fun ⟨v, h, hword⟩ => ?_⟩
    rw [readValue, Json.readNested_bracket, map_eq_ok_iff] at h
    obtain ⟨_, -, he⟩ := h
    cases he
    cases hword
  · next t =>
    refine ⟨fun h => (by cases h), fun ⟨v, h, hword⟩ => ?_⟩
    rw [readValue, Json.readNested_brace, map_eq_ok_iff] at h
    obtain ⟨_, -, he⟩ := h
    cases he
    cases hword
  · next hnil hbracket hbrace =>
    cases s' with
    | nil => exact absurd rfl hnil
    | cons c t =>
      have hsame : readNested none (c :: t) = readValue (d + 1) (c :: t) :=
        readNested_eq_of_ne (Json.skipBlanks_cons (hfirst rfl) t)
          (fun hc => hbracket t (by rw [hc])) (fun hc => hbrace t (by rw [hc])) _ _
      rw [hsame, bind_eq_ok_iff]
      constructor
      · rintro ⟨⟨v, r'⟩, hv, hafter⟩
        cases v with
        | string name =>
          cases hafter
          exact ⟨.string name, mapError_eq_ok_iff.mp hv, rfl⟩
        | _ => cases hafter
      · rintro ⟨v, hv, hword⟩
        refine ⟨(v, r), mapError_eq_ok_iff.mpr hv, ?_⟩
        cases v with
        | string name =>
          cases hword
          rfl
        | _ => cases hword

/-! ## The entries -/

/-- What an entry adds to the outermost node. -/
def RootDraft.add (d : RootDraft) (e : String × Value) : Option RootDraft :=
  if e.1 = tagKey then
    (setOnce tagKey d.kind (decodeWord e.2)).toOption.map fun kind => { d with kind }
  else some { d with entries := d.entries ++ [e] }

/-- **The outermost entries are read as values**, and then taken. -/
theorem readsThen_readRootEntry :
    Json.ReadsThen readRootEntry (readValue innerDepth) RootDraft.add := by
  intro d key s d' r
  rw [readRootEntry]
  by_cases hkey : key = tagKey
  · subst hkey
    rw [if_pos rfl, iteError_eq_ok_iff, bind_eq_ok_iff, Option.not_isSome_iff_eq_none]
    simp only [RootDraft.add, if_true, Option.map_eq_some_iff, toOption_eq_some_iff, setOnce_eq_ok]
    constructor
    · rintro ⟨hnew, ⟨u, s₁⟩, hcolon, hafter⟩
      obtain ⟨⟨kind, r'⟩, htag, hend⟩ := bind_eq_ok_iff.mp hafter
      cases hend
      obtain ⟨v, hv, hword⟩ := readTag_eq_ok.mp htag
      exact ⟨s₁, v, Json.readColon_eq_ok.mp (mapError_eq_ok_iff.mp hcolon), hv, some kind,
        ⟨hnew, kind, hword, rfl⟩, rfl⟩
    · rintro ⟨s₁, v, hcolon, hv, _, ⟨hnew, kind, hword, rfl⟩, rfl⟩
      exact ⟨hnew, ((), s₁), mapError_eq_ok_iff.mpr (Json.readColon_eq_ok.mpr hcolon),
        bind_eq_ok_iff.mpr ⟨(kind, r), readTag_eq_ok.mpr ⟨v, hv, hword⟩, rfl⟩⟩
  · rw [if_neg hkey, bind_eq_ok_iff]
    simp only [RootDraft.add, if_neg hkey, Option.some.injEq]
    constructor
    · rintro ⟨⟨entries, r'⟩, hentry, hend⟩
      obtain ⟨s₁, v, hcolon, hv, rfl⟩ := Json.readEntry_eq_ok.mp (mapError_eq_ok_iff.mp hentry)
      cases hend
      exact ⟨s₁, v, hcolon, hv, rfl⟩
    · rintro ⟨s₁, v, hcolon, hv, rfl⟩
      exact ⟨(d.entries ++ [(key, v)], r),
        mapError_eq_ok_iff.mpr (Json.readEntry_eq_ok.mpr ⟨s₁, v, hcolon, hv, rfl⟩), rfl⟩

/-- What the entries add up to: the tag, and all that is no tag. -/
theorem foldlM_add {d d' : RootDraft} {entries : List (String × Value)} :
    entries.foldlM RootDraft.add d = some d' ↔
      Filled decodeWord d.kind (stored tagKey entries) d'.kind ∧
        d'.entries = d.entries ++ entries.filter (·.1 ≠ tagKey) := by
  induction entries generalizing d with
  | nil =>
    obtain ⟨kind, entries⟩ := d
    obtain ⟨kind', entries'⟩ := d'
    simp [Filled, eq_comm]
  | cons e entries ih =>
    obtain ⟨key, v⟩ := e
    rw [List.foldlM_cons, Option.bind_eq_bind, Option.bind_eq_some_iff]
    by_cases hkey : key = tagKey
    · subst hkey
      rw [stored_cons_self, filled_cons tagKey]
      simp only [RootDraft.add, if_true, Option.map_eq_some_iff, toOption_eq_some_iff, ih]
      constructor
      · rintro ⟨_, ⟨now, hnow, rfl⟩, hmore, hentries⟩
        exact ⟨⟨now, hnow, hmore⟩, by simpa using hentries⟩
      · rintro ⟨⟨now, hnow, hmore⟩, hentries⟩
        exact ⟨_, ⟨now, hnow, rfl⟩, hmore, by simpa using hentries⟩
    · rw [stored_cons_of_ne hkey, List.filter_cons_of_pos (by simpa using hkey)]
      simp only [RootDraft.add, if_neg hkey, Option.some.injEq, ih, exists_eq_left',
        List.append_assoc, List.singleton_append]

theorem stored_filter_of_ne {key other : String} (h : key ≠ other)
    (entries : List (String × Value)) :
    stored key (entries.filter (·.1 ≠ other)) = stored key entries := by
  have hkey (e : String × Value) : (e.1 = key ∧ e.1 ≠ other) ↔ e.1 = key :=
    and_iff_left_of_imp fun he => he ▸ h
  simp only [stored, List.filter_filter, ← Bool.decide_and, hkey]

/-- The tag is no field, so that it makes no difference whether it is there. -/
theorem Kind.assemble_filter (kind : Kind) (entries : List (String × Value)) :
    kind.assemble (entries.filter (·.1 ≠ tagKey)) = kind.assemble entries := by
  simp only [Kind.assemble, Kind.stored, stored_filter_of_ne (Field.key_ne_tagKey _)]

theorem filled_decodeWord_iff {tags : List Value} {kind : Kind} :
    Filled decodeWord none tags (some kind) ↔
      (∀ tag ∈ tags, ∃ name, tag = .string name) ∧ kindOfTags tags = some kind := by
  rw [kindOfTags_eq_some]
  match tags with
  | [] => simp [Filled]
  | [tag] =>
    simp only [Filled, decodeWord_eq_ok, List.mem_singleton, forall_eq, true_and,
      Option.some.injEq]
    constructor
    · rintro ⟨x, ⟨hword, htag⟩, hx⟩
      exact ⟨hword, x, htag, hx⟩
    · rintro ⟨hword, x, htag, hx⟩
      exact ⟨x, ⟨hword, htag⟩, hx⟩
  | _ :: _ :: _ => simp [Filled]

/-! ## The node -/

section

variable {s r : List Char} {n : Node}

theorem decodeParts_entries_eq_ok {kind : Kind} {entries : List (String × Value)} :
    decodeParts kind (.entries entries) = .ok n ↔ kind.assemble entries = some n := by
  rw [Kind.assemble_eq_some, decodeParts, bind_eq_ok_iff]
  simp only [Except.ok.injEq]

/-- What is neither a list nor an object is no node. -/
theorem decodeNode_ne_ok_of_depth {v : Value} (h : v.depth = 0) : decodeNode v ≠ .ok n := by
  cases v with
  | array items => exact absurd h (Nat.succ_ne_zero _)
  | object entries => exact absurd h (Nat.succ_ne_zero _)
  | _ =>
    rw [decodeNode]
    · simp [refuse]
    all_goals simp

/-- **The outermost node from an object.** -/
theorem readRoot_brace {t : List Char} :
    (∃ kind parts, readRoot ('\x7b' :: t) = .ok (kind, parts, r) ∧ decodeParts kind parts = .ok n) ↔
      ∃ entries, readMembers id (readEntry (readValue innerDepth)) [] t = .ok (entries, r) ∧
        WordTagged (.object entries) ∧ decodeNode (.object entries) = .ok n := by
  have hbrace : skipBlanks ('\x7b' :: t) = '\x7b' :: t := Json.skipBlanks_cons (by decide) t
  rw [readRoot, hbrace]
  simp only [bind_eq_ok_iff, ← toOption_eq_some_iff (x := decodeNode _), decodeNode_object,
    Option.bind_eq_some_iff, WordTagged]
  constructor
  · rintro ⟨kind, parts, ⟨⟨d, r'⟩, hread, hafter⟩, hparts⟩
    obtain ⟨entries, hentries, hfold⟩ := (Json.readMembers_foldlM readsThen_readRootEntry).mp hread
    obtain ⟨htags, hrest⟩ := foldlM_add.mp hfold
    cases hkind : d.kind with
    | none => rw [hkind] at hafter; cases hafter
    | some kind' =>
      rw [hkind] at hafter htags
      cases hafter
      obtain ⟨hwords, htag⟩ := filled_decodeWord_iff.mp htags
      rw [decodeParts_entries_eq_ok, hrest, List.nil_append, Kind.assemble_filter] at hparts
      exact ⟨entries, hentries, hwords, kind, htag, hparts⟩
  · rintro ⟨entries, hentries, hwords, kind, htag, hnode⟩
    refine ⟨kind, .entries (entries.filter (·.1 ≠ tagKey)), ⟨(⟨some kind, _⟩, r), ?_, rfl⟩, ?_⟩
    · exact (Json.readMembers_foldlM readsThen_readRootEntry).mpr ⟨entries, hentries,
        foldlM_add.mpr ⟨filled_decodeWord_iff.mpr ⟨hwords, htag⟩, rfl⟩⟩
    · rw [decodeParts_entries_eq_ok, Kind.assemble_filter, hnode]

/-- **The outermost node from a list.** -/
theorem readRoot_bracket {t : List Char} :
    (∃ kind parts, readRoot ('[' :: t) = .ok (kind, parts, r) ∧ decodeParts kind parts = .ok n) ↔
      ∃ items, Json.readItems (readValue innerDepth) t = .ok (items, r) ∧
        WordTagged (.array items) ∧ decodeNode (.array items) = .ok n := by
  have hlist : skipBlanks ('[' :: t) = '[' :: t := Json.skipBlanks_cons (by decide) t
  constructor
  · rintro ⟨kind, parts, hread, hparts⟩
    rw [readRoot, hlist] at hread
    split at hread
    · next he => exact absurd (List.cons.inj he).1 (by decide)
    · next t he =>
      obtain rfl := (List.cons.inj he).2
      have hspace := spaces_skipBlanks t
      have hfirst {c : Char} {u : List Char} :=
        Json.isSpace_of_skipBlanks (s := t) (c := c) (r := u)
      generalize skipBlanks t = t' at hread hspace hfirst
      split at hread
      · cases hread
      · cases hread
      · next hnil hbracket =>
        obtain ⟨⟨kind', s₁⟩, htag, hafter⟩ := bind_eq_ok_iff.mp hread
        obtain ⟨⟨items, r'⟩, hmore, hend⟩ := bind_eq_ok_iff.mp hafter
        cases hend
        obtain ⟨tag, hv, hword⟩ := readTag_eq_ok.mp htag
        obtain ⟨hname, hkind⟩ := decodeWord_eq_ok.mp hword
        cases t' with
        | nil => exact absurd rfl hnil
        | cons c t' =>
          refine ⟨tag :: items, Json.readItems_eq_ok.mpr (.first hspace (hfirst rfl)
            (fun hc => hbracket t' (by rw [hc])) hv (mapError_eq_ok_iff.mp hmore)), hname, ?_⟩
          rw [decodeNode, hkind]
          exact hparts
    · next hother => exact absurd rfl (hother t)
  · rintro ⟨items, hread, hword, hnode⟩
    cases Json.readItems_eq_ok.mp hread with
    | close =>
      rw [decodeNode] at hnode
      cases hnode
    | first space first bracket next more =>
      rw [decodeNode, bind_eq_ok_iff] at hnode
      obtain ⟨kind, htag, hparts⟩ := hnode
      refine ⟨kind, .items _, ?_, hparts⟩
      rw [readRoot, hlist]
      split
      · next he => exact absurd (List.cons.inj he).1 (by decide)
      · next t he =>
        obtain rfl := (List.cons.inj he).2
        rw [space.skipBlanks_cons first]
        split
        · next he => cases he
        · next he => exact absurd (List.cons.inj he).1 bracket
        · rw [readTag_eq_ok.mpr ⟨_, next, decodeWord_eq_ok.mpr ⟨hword, htag⟩⟩]
          simp only [ok_bind, more]
          rfl
      · next hother => exact absurd rfl (hother t)

/-- **The outermost node is decoded like any other**, as long as its tag is a word. -/
theorem readRoot_eq_ok :
    (∃ kind parts, readRoot s = .ok (kind, parts, r) ∧ decodeParts kind parts = .ok n) ↔
      ∃ v, readValue Json.depthLimit s = .ok (v, r) ∧ WordTagged v ∧ decodeNode v = .ok n := by
  have hspace := spaces_skipBlanks s
  have hroot : readRoot s = readRoot (skipBlanks s) := by
    rw [readRoot, readRoot, ← hspace.skipBlanks_eq]
  have hfirst {c : Char} {t : List Char} := Json.isSpace_of_skipBlanks (s := s) (c := c) (r := t)
  rw [hroot, hspace.readValue]
  generalize skipBlanks s = s' at hfirst
  match s' with
  | [] => exact ⟨fun ⟨_, _, h, _⟩ => (by cases h), fun ⟨_, h, _⟩ => (by cases h)⟩
  | c :: t =>
    have hc : skipBlanks (c :: t) = c :: t := Json.skipBlanks_cons (hfirst rfl) t
    have hdepth : readValue Json.depthLimit = readNested (some (readValue innerDepth)) := rfl
    rw [hdepth]
    by_cases hbrace : c = '\x7b'
    · subst hbrace
      rw [readRoot_brace, Json.readNested_brace]
      simp only [map_eq_ok_iff]
      constructor
      · rintro ⟨entries, hread, hword, hnode⟩
        exact ⟨.object entries, ⟨(entries, r), hread, rfl⟩, hword, hnode⟩
      · rintro ⟨_, ⟨⟨entries, r'⟩, hread, he⟩, hword, hnode⟩
        cases he
        exact ⟨entries, hread, hword, hnode⟩
    by_cases hbracket : c = '['
    · subst hbracket
      rw [readRoot_bracket, Json.readNested_bracket]
      simp only [map_eq_ok_iff]
      constructor
      · rintro ⟨items, hread, hword, hnode⟩
        exact ⟨.array items, ⟨(items, r), hread, rfl⟩, hword, hnode⟩
      · rintro ⟨_, ⟨⟨items, r'⟩, hread, he⟩, hword, hnode⟩
        cases he
        exact ⟨items, hread, hword, hnode⟩
    -- Anything else is read as a value without parts, and is no node.
    constructor
    · rintro ⟨kind, parts, hread, -⟩
      rw [readRoot, hc] at hread
      split at hread
      · next he => exact absurd (List.cons.inj he).1 hbrace
      · next he => exact absurd (List.cons.inj he).1 hbracket
      · obtain ⟨_, -, herror⟩ := bind_eq_ok_iff.mp hread
        cases herror
    · rintro ⟨v, hv, -, hnode⟩
      rw [readNested_eq_of_ne hc hbracket hbrace _ none] at hv
      obtain ⟨hflat, -⟩ := Json.spells_of_readValue 0 hv
      exact absurd hnode (decodeNode_ne_ok_of_depth (Nat.le_zero.mp hflat))

end

/-- **A text is a document exactly when it is JSON, its tag is a word, and its value decodes.** -/
theorem readDocument_eq_ok_iff {s : List Char} {n : Node} :
    readDocument s = .ok n ↔
      ∃ v, Json.parse s = .ok v ∧ WordTagged v ∧ decodeNode v = .ok n := by
  rw [readDocument, bind_eq_ok_iff]
  constructor
  · rintro ⟨⟨kind, parts, r⟩, hroot, hafter⟩
    obtain ⟨n', hparts, hafter⟩ := bind_eq_ok_iff.mp hafter
    obtain ⟨u, hend, hresult⟩ := bind_eq_ok_iff.mp hafter
    cases hresult
    obtain ⟨v, hv, hword, hnode⟩ := readRoot_eq_ok.mp
      ⟨kind, parts, mapError_eq_ok_iff.mp hroot, mapError_eq_ok_iff.mp hparts⟩
    refine ⟨v, ?_, hword, hnode⟩
    exact bind_eq_ok_iff.mpr ⟨(v, r), hv, bind_eq_ok_iff.mpr ⟨u, mapError_eq_ok_iff.mp hend, rfl⟩⟩
  · rintro ⟨v, hparse, hword, hnode⟩
    obtain ⟨⟨v', r⟩, hv, hafter⟩ := bind_eq_ok_iff.mp hparse
    obtain ⟨u, hend, hresult⟩ := bind_eq_ok_iff.mp hafter
    cases hresult
    obtain ⟨kind, parts, hroot, hparts⟩ := readRoot_eq_ok.mpr ⟨v, hv, hword, hnode⟩
    refine ⟨(kind, parts, r), mapError_eq_ok_iff.mpr hroot, ?_⟩
    exact bind_eq_ok_iff.mpr ⟨n, mapError_eq_ok_iff.mpr hparts,
      bind_eq_ok_iff.mpr ⟨u, mapError_eq_ok_iff.mpr hend, rfl⟩⟩

end ExamPress.Document
