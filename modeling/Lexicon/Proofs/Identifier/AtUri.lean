import Lexicon.Identifier.RecordKey
import Lexicon.Proofs.Identifier.Account
import Lexicon.Proofs.Identifier.Nsid
import Lexicon.Proofs.Text.Sequence

namespace Lexicon.AtUri

open Lexicon.Text
open scoped Computability

/-!
# The parts of addresses

An address is an account, maybe a collection, maybe a record key in it, and maybe a pointer.  The
marks between the parts occur in none of them, but for the slashes of the pointer, which comes last;
so an address is taken apart in one way only, and the parts may then be looked at one by one.

* `Parts`, `Parts.text` — the parts, and the text that they make;
* `Parts.HasShape` — what the characters of the parts are, whatever the parts may mean;
* `Parts.IsWellFormed`, `Parts.IsWellFormed.hasShape` — the parts that an address may have;
* `Parts.eq_of_text_eq` — texts of that shape are taken apart in one way;
* `pattern`, `mem_pattern` — the texts of that shape are those of a pattern;
* `isValid_iff`, `addresses_are_taken_apart` — addresses are the texts of well-formed parts.
-/

/-- The parts of an address. -/
structure Parts where
  account : String
  /-- A collection, and maybe the key of a record in it. -/
  collection : Option (String × Option String)
  /-- A pointer into the record, after `#/`. -/
  pointer : Option String

/-- The characters that a record key may have within an address. -/
def IsKeyChar (c : Char) : Prop :=
  c.isAlphanum = true ∨
    c ∈ ['.', '_', '~', ':', '@', '!', '$', '&', '%', '\'', '(', ')', '*', '+', ',', ';', '=', '-']

/-- The characters that a pointer may have. -/
def IsPointerChar (c : Char) : Prop :=
  IsKeyChar c ∨ c ∈ ['[', ']', '/', '\\']

namespace Parts

/-- The address that has the parts. -/
def text (parts : Parts) : String :=
  "at://" ++ parts.account ++
    (match parts.collection with
      | none => ""
      | some (collection, none) => "/" ++ collection
      | some (collection, some key) => "/" ++ collection ++ "/" ++ key) ++
    (match parts.pointer with
      | none => ""
      | some pointer => "#/" ++ pointer)

/-- The characters that may be used for the parts, whether the parts have a meaning or not. -/
structure HasShape (parts : Parts) : Prop where
  account : parts.account ≠ "" ∧ ∀ c ∈ parts.account.toList,
    c.isAlphanum = true ∨ c ∈ ['.', '_', ':', '%', '-']
  collection : ∀ collection key, parts.collection = some (collection, key) →
    collection ≠ "" ∧ ∀ c ∈ collection.toList, c.isAlphanum = true ∨ c ∈ ['.', '-']
  key : ∀ collection key, parts.collection = some (collection, some key) →
    key ≠ "" ∧ ∀ c ∈ key.toList, IsKeyChar c
  pointer : ∀ pointer, parts.pointer = some pointer → ∀ c ∈ pointer.toList, IsPointerChar c

/-- The parts that an address may have: a handle or a decentralized identifier, a namespaced
    identifier, and a key and a pointer of the right characters. -/
structure IsWellFormed (parts : Parts) : Prop where
  account : Handle.isValid parts.account = true ∨ Did.isValid parts.account = true
  collection : ∀ collection key, parts.collection = some (collection, key) →
    Nsid.isValid collection = true
  key : ∀ collection key, parts.collection = some (collection, some key) →
    key ≠ "" ∧ ∀ c ∈ key.toList, IsKeyChar c
  pointer : ∀ pointer, parts.pointer = some pointer → ∀ c ∈ pointer.toList, IsPointerChar c

/-! ### From text to pieces -/

/-- The parts in front of the pointer, which have slashes between them. -/
def pieces (parts : Parts) : List (List Char) :=
  match parts.collection with
  | none => [parts.account.toList]
  | some (collection, none) => [parts.account.toList, collection.toList]
  | some (collection, some key) => [parts.account.toList, collection.toList, key.toList]

/-- The pointer, with its marks. -/
def tail (parts : Parts) : List Char :=
  match parts.pointer with
  | none => []
  | some pointer => '#' :: '/' :: pointer.toList

/-- The text of an address is the scheme, the pieces with slashes between them, and the pointer. -/
theorem toList_text (parts : Parts) :
    parts.text.toList = scheme ++ (['/'].intercalate parts.pieces ++ parts.tail) := by
  obtain ⟨account, collection, pointer⟩ := parts
  have hscheme : "at://".toList = scheme := by decide
  have hslash : "/".toList = ['/'] := by decide
  have hpointer : "#/".toList = ['#', '/'] := by decide
  rcases collection with _ | ⟨collection, _ | key⟩ <;> rcases pointer with _ | pointer <;>
    simp [text, pieces, tail, hscheme, hslash, hpointer, List.intercalate_cons_cons]

variable {parts parts' : Parts}

/-- The pieces of a text of the right shape have no marks in them. -/
theorem HasShape.not_mem_piece (h : parts.HasShape) {mark : Char} (hmark : mark = '/' ∨ mark = '#') :
    ∀ piece ∈ parts.pieces, mark ∉ piece := by
  obtain ⟨account, collection, pointer⟩ := parts
  obtain ⟨⟨-, haccount⟩, hcollection, hkey, -⟩ := h
  -- Neither mark is one of the characters of a piece.
  have hmarks : ¬ (mark.isAlphanum = true ∨ mark ∈ ['.', '_', ':', '%', '-']) ∧
      ¬ (mark.isAlphanum = true ∨ mark ∈ ['.', '-']) ∧ ¬ IsKeyChar mark := by
    unfold IsKeyChar
    rcases hmark with rfl | rfl <;> decide
  have haccountFree : mark ∉ account.toList := fun hmem => hmarks.1 (haccount mark hmem)
  rcases collection with _ | ⟨collection, key⟩
  · exact List.forall_mem_singleton.2 haccountFree
  have hcollectionFree : mark ∉ collection.toList := fun hmem =>
    hmarks.2.1 ((hcollection collection key rfl).2 mark hmem)
  rcases key with _ | key
  · exact List.forall_mem_cons.2 ⟨haccountFree, List.forall_mem_singleton.2 hcollectionFree⟩
  · have hkeyFree : mark ∉ key.toList := fun hmem =>
      hmarks.2.2 ((hkey collection key rfl).2 mark hmem)
    exact List.forall_mem_cons.2 ⟨haccountFree,
      List.forall_mem_cons.2 ⟨hcollectionFree, List.forall_mem_singleton.2 hkeyFree⟩⟩

/-- Cutting at slashes gives the pieces back. -/
theorem HasShape.splitOn_intercalate (h : parts.HasShape) :
    splitOn '/' (['/'].intercalate parts.pieces) = parts.pieces := by
  have hne : parts.pieces ≠ [] := by
    obtain ⟨account, _ | ⟨collection, _ | key⟩, pointer⟩ := parts <;> simp [pieces]
  rw [splitOn_eq_splitOn, List.splitOn_intercalate '/' (h.not_mem_piece (.inl rfl)) hne]

/-- No hash comes before the pointer. -/
theorem HasShape.hash_not_mem (h : parts.HasShape) : '#' ∉ ['/'].intercalate parts.pieces := by
  intro hmem
  have hcases : '#' = '/' ∨ ∃ piece ∈ splitOn '/' _, '#' ∈ piece := eq_sep_or_mem_piece hmem
  rw [h.splitOn_intercalate] at hcases
  obtain ⟨piece, hpiece, hhash⟩ := hcases.resolve_left (by decide)
  exact h.not_mem_piece (.inr rfl) piece hpiece hhash

/-- Cutting at the first `#` gives the pointer back. -/
theorem HasShape.cutAt?_body (h : parts.HasShape) :
    cutAt? '#' (['/'].intercalate parts.pieces ++ parts.tail) =
      parts.pointer.map fun pointer => (['/'].intercalate parts.pieces, '/' :: pointer.toList) := by
  unfold tail
  cases parts.pointer with
  | none =>
    rw [List.append_nil, cutAt?_of_not_mem h.hash_not_mem]
    rfl
  | some pointer => exact cutAt?_append_cons h.hash_not_mem _

/-- Parts are the same if their pieces and their pointers are. -/
theorem eq_of_pieces_eq (hpieces : parts.pieces = parts'.pieces)
    (hpointer : parts.pointer = parts'.pointer) : parts = parts' := by
  obtain ⟨account, collection, pointer⟩ := parts
  obtain ⟨account', collection', pointer'⟩ := parts'
  dsimp only at hpointer
  subst hpointer
  rcases collection with _ | ⟨collection, _ | key⟩ <;>
    rcases collection' with _ | ⟨collection', _ | key'⟩ <;>
    simp_all [pieces, String.toList_inj]

/-- **Texts are taken apart in one way.**  The first `#` ends the pieces, and every slash before it
    stands between two of them. -/
theorem eq_of_text_eq (h : parts.HasShape) (h' : parts'.HasShape) (htext : parts.text = parts'.text) :
    parts = parts' := by
  have hbody := congrArg String.toList htext
  rw [toList_text, toList_text, List.append_cancel_left_eq] at hbody
  have hcut := h.cutAt?_body
  rw [hbody, h'.cutAt?_body] at hcut
  have hpath : parts.pointer = parts'.pointer ∧
      ['/'].intercalate parts.pieces = ['/'].intercalate parts'.pieces := by
    unfold tail at hbody
    cases hpointer : parts.pointer with
    | none =>
      cases hpointer' : parts'.pointer with
      | none =>
        -- Nothing is cut off, so the bodies themselves are the paths.
        rw [hpointer, hpointer', List.append_nil, List.append_nil] at hbody
        exact ⟨rfl, hbody⟩
      | some pointer' => simp [hpointer, hpointer'] at hcut
    | some pointer =>
      cases hpointer' : parts'.pointer with
      | none => simp [hpointer, hpointer'] at hcut
      | some pointer' =>
        simp only [hpointer, hpointer', Option.map_some, Option.some.injEq, Prod.mk.injEq,
          List.cons.injEq, true_and, String.toList_inj] at hcut
        exact ⟨congrArg some hcut.2.symm, hcut.1.symm⟩
  refine eq_of_pieces_eq ?_ hpath.1
  rw [← h.splitOn_intercalate, hpath.2, h'.splitOn_intercalate]

end Parts

/-! ### The characters of parts -/

theorem isKeyChar_iff {c : Char} : isKeyChar c = true ↔ IsKeyChar c := by
  have hmarks : keyMarks.Perm ['.', '_', '~', ':', '@', '!', '$', '&', '%', '\'', '(', ')', '*', '+',
      ',', ';', '=', '-'] := by decide
  rw [isKeyChar, IsKeyChar, Bool.or_eq_true, List.contains_iff_mem, hmarks.mem_iff]

theorem isPointerChar_iff {c : Char} : isPointerChar c = true ↔ IsPointerChar c := by
  simp only [isPointerChar, IsPointerChar, isKeyChar_iff, Bool.or_eq_true, beq_iff_eq, List.mem_cons,
    List.not_mem_nil, or_false, or_assoc]

/-- A key has some characters, all of which may stand in a key. -/
theorem isKey_iff {key : String} :
    isKey key.toList = true ↔ key ≠ "" ∧ ∀ c ∈ key.toList, IsKeyChar c := by
  simp only [isKey, Bool.and_eq_true, Bool.not_eq_true', List.isEmpty_eq_false_iff, List.all_eq_true,
    isKeyChar_iff, ne_eq, String.toList_eq_nil_iff]

namespace Parts

variable {parts : Parts}

/-- The pieces of well-formed parts are what is looked for in an address. -/
theorem arePieces_iff : arePieces parts.pieces = true ↔
    (Handle.isValid parts.account = true ∨ Did.isValid parts.account = true) ∧
    (∀ collection key, parts.collection = some (collection, key) →
      Nsid.isValid collection = true) ∧
    ∀ collection key, parts.collection = some (collection, some key) →
      key ≠ "" ∧ ∀ c ∈ key.toList, IsKeyChar c := by
  obtain ⟨account, collection, pointer⟩ := parts
  rcases collection with _ | ⟨collection, _ | key⟩
  · simp [pieces, arePieces, isAuthority]
  · simp [pieces, arePieces, isAuthority]
  · simp [pieces, arePieces, isAuthority, isKey_iff, and_assoc]

/-- Pieces that are looked for in an address are those of well-formed parts, with any pointer of the
    right characters. -/
theorem exists_of_arePieces {pieces : List (List Char)} (h : arePieces pieces = true)
    {pointer : Option String} (hpointer : ∀ text, pointer = some text → ∀ c ∈ text.toList,
      IsPointerChar c) :
    ∃ parts : Parts, parts.pieces = pieces ∧ parts.pointer = pointer ∧ parts.IsWellFormed := by
  have hparts : ∃ parts : Parts, parts.pieces = pieces ∧ parts.pointer = pointer := by
    -- There are up to three pieces, in one order.
    match pieces, h with
    | [account], _ => exact ⟨⟨.ofList account, none, pointer⟩, by simp [Parts.pieces], rfl⟩
    | [account, collection], _ =>
      exact ⟨⟨.ofList account, some (.ofList collection, none), pointer⟩, by simp [Parts.pieces],
        rfl⟩
    | [account, collection, key], _ =>
      exact ⟨⟨.ofList account, some (.ofList collection, some (.ofList key)), pointer⟩,
        by simp [Parts.pieces], rfl⟩
  obtain ⟨parts, rfl, rfl⟩ := hparts
  obtain ⟨haccount, hcollection, hkey⟩ := arePieces_iff.1 h
  exact ⟨parts, rfl, rfl, haccount, hcollection, hkey, hpointer⟩

/-! ### What well-formed parts are made of -/

/-- Labels and the dots between them. -/
theorem dotted_chars {c : Char} (h : c = '.' ∨ Label.isLabelChar c = true) :
    c.isAlphanum = true ∨ c ∈ ['.', '-'] := by
  rcases h with rfl | hlabel
  · decide
  · rcases Label.isLabelChar_iff.1 hlabel with halphanum | rfl
    · exact .inl halphanum
    · decide

/-- Both kinds of accounts are made of letters, digits and a few marks. -/
theorem account_chars {account : String}
    (h : Handle.isValid account = true ∨ Did.isValid account = true) {c : Char}
    (hc : c ∈ account.toList) : c.isAlphanum = true ∨ c ∈ ['.', '_', ':', '%', '-'] := by
  rcases h with hhandle | hdid
  · have hmarks : ['.', '-'] ⊆ ['.', '_', ':', '%', '-'] := by decide
    exact (dotted_chars (Handle.eq_dot_or_isLabelChar hhandle hc)).imp_right (@hmarks c)
  · obtain ⟨method, specific, rfl, -, hlower, -, hspecific, -⟩ := (Did.isValid_iff.1 hdid).parts
    rw [Did.toList_parts, List.mem_append, List.mem_append, List.mem_cons] at hc
    rcases hc with hscheme | hmethod | rfl | hrest
    · have hmark : Did.scheme.all Did.isSpecificChar = true := by decide
      exact Did.isSpecificChar_iff.1 (List.all_eq_true.1 hmark c hscheme)
    · have halpha : c.isAlpha = true := Bool.or_eq_true_iff.2 (.inr (hlower c hmethod))
      exact .inl (Bool.or_eq_true_iff.2 (.inl halpha))
    · decide
    · exact hspecific c hrest

/-- No account is empty. -/
theorem account_ne_empty {account : String}
    (h : Handle.isValid account = true ∨ Did.isValid account = true) : account ≠ "" := by
  rintro rfl
  revert h
  decide

/-- The parts that an address may have do not hold its marks. -/
theorem IsWellFormed.hasShape (h : parts.IsWellFormed) : parts.HasShape := by
  refine ⟨⟨account_ne_empty h.account, fun c hc => account_chars h.account hc⟩, ?_, h.key, h.pointer⟩
  intro collection key hcollection
  have hvalid := h.collection collection key hcollection
  exact ⟨(Nsid.isReferencePart hvalid).1,
    fun c hc => dotted_chars (Nsid.eq_dot_or_isLabelChar hvalid hc)⟩

end Parts

/-! ### Addresses -/

/-- A pointer starts with a slash. -/
theorem isPointer_iff {cs : List Char} : isPointer cs = true ↔
    ∃ pointer : String, cs = '/' :: pointer.toList ∧ ∀ c ∈ pointer.toList, IsPointerChar c := by
  fun_cases isPointer cs with
  | case1 rest =>
    simp only [List.all_eq_true, isPointerChar_iff]
    constructor
    · intro hchars
      exact ⟨.ofList rest, by rw [String.toList_ofList], by rwa [String.toList_ofList]⟩
    · rintro ⟨pointer, hrest, hchars⟩
      rw [List.cons_inj_right] at hrest
      exact hrest ▸ hchars
  | case2 _ hother =>
    refine iff_of_false Bool.false_ne_true ?_
    rintro ⟨pointer, hcs, -⟩
    exact hother _ hcs

/-- What follows the mark of an address are the pieces of well-formed parts and their pointer. -/
theorem isBody_iff {cs : List Char} : isBody cs = true ↔
    ∃ parts : Parts, cs = ['/'].intercalate parts.pieces ++ parts.tail ∧ parts.IsWellFormed := by
  constructor
  · intro h
    unfold isBody at h
    cases hcut : cutAt? '#' cs with
    | none =>
      rw [hcut] at h
      have hnone : ∀ text, (none : Option String) = some text →
          ∀ c ∈ text.toList, IsPointerChar c := by
        rintro _ ⟨⟩
      obtain ⟨parts, hpieces, hpointer, hparts⟩ := Parts.exists_of_arePieces h hnone
      refine ⟨parts, ?_, hparts⟩
      rw [hpieces, intercalate_splitOn, Parts.tail, hpointer, List.append_nil]
    | some cut =>
      obtain ⟨path, mark⟩ := cut
      rw [hcut] at h
      obtain ⟨hpath, hmark⟩ := Bool.and_eq_true_iff.1 h
      obtain ⟨pointer, rfl, hchars⟩ := isPointer_iff.1 hmark
      have hsome : ∀ text, some pointer = some text → ∀ c ∈ text.toList, IsPointerChar c := by
        rintro _ ⟨⟩
        exact hchars
      obtain ⟨parts, hpieces, hpointer, hparts⟩ := Parts.exists_of_arePieces hpath hsome
      refine ⟨parts, ?_, hparts⟩
      rw [hpieces, intercalate_splitOn, Parts.tail, hpointer, eq_append_of_cutAt? hcut]
  · rintro ⟨parts, rfl, hparts⟩
    have hpieces : arePieces (splitOn '/' (['/'].intercalate parts.pieces)) = true := by
      rw [hparts.hasShape.splitOn_intercalate]
      exact Parts.arePieces_iff.2 ⟨hparts.account, hparts.collection, hparts.key⟩
    unfold isBody
    -- The shape of the parts is what makes the cuts fall between them.
    rw [hparts.hasShape.cutAt?_body]
    cases hpointer : parts.pointer with
    | none =>
      rw [Parts.tail, hpointer, Option.map_none, List.append_nil]
      exact hpieces
    | some pointer =>
      rw [Option.map_some]
      exact Bool.and_eq_true_iff.2
        ⟨hpieces, isPointer_iff.2 ⟨pointer, rfl, hparts.pointer pointer hpointer⟩⟩

/-- Addresses are the texts of well-formed parts that are short enough. -/
theorem isValid_iff {s : String} : isValid s = true ↔
    s.utf8ByteSize ≤ 8192 ∧ ∃ parts : Parts, parts.text = s ∧ parts.IsWellFormed := by
  unfold isValid maxBytes
  rw [Bool.and_eq_true, decide_eq_true_eq, any_dropStart?_iff]
  refine and_congr_right fun _ => ?_
  simp only [isBody_iff, ← String.toList_inj, Parts.toList_text]
  constructor
  · rintro ⟨_, hs, parts, rfl, hparts⟩
    exact ⟨parts, hs.symm, hparts⟩
  · rintro ⟨parts, hs, hparts⟩
    exact ⟨_, hs.symm, parts, rfl, hparts⟩

/-! ### The pattern of addresses -/

/-- The characters that an account may have within an address. -/
def isAccountChar (c : Char) : Bool :=
  c.isAlphanum || ['.', '_', ':', '%', '-'].contains c

/-- The characters that a collection may have within an address. -/
def isCollectionChar (c : Char) : Bool :=
  c.isAlphanum || ['.', '-'].contains c

/-- The pattern of a collection and a record key behind an account. -/
def collectionPattern : Language Char :=
  maybe ({['/']} * (atLeastOnce (one isCollectionChar) *
    maybe ({['/']} * atLeastOnce (one isKeyChar))))

/-- The pattern of a pointer. -/
def pointerPattern : Language Char :=
  maybe ({['#']} * ({['/']} * (one isPointerChar)∗))

/-- The pattern of addresses: the characters that the parts may have, and the marks between them. -/
def pattern : Language Char :=
  {scheme} * (atLeastOnce (one isAccountChar) * (collectionPattern * pointerPattern))

/-- A string that is not empty, of the characters of a class. -/
theorem mem_atLeastOnce_string {p : Char → Bool} {P : Char → Prop} (hp : ∀ c, p c = true ↔ P c)
    {text : String} :
    text.toList ∈ atLeastOnce (one p) ↔ text ≠ "" ∧ ∀ c ∈ text.toList, P c := by
  simp only [mem_atLeastOnce_one, hp, ne_eq, String.toList_eq_nil_iff]

theorem isAccountChar_iff {c : Char} :
    isAccountChar c = true ↔ c.isAlphanum = true ∨ c ∈ ['.', '_', ':', '%', '-'] := by
  rw [isAccountChar, Bool.or_eq_true, List.contains_iff_mem]

theorem isCollectionChar_iff {c : Char} :
    isCollectionChar c = true ↔ c.isAlphanum = true ∨ c ∈ ['.', '-'] := by
  rw [isCollectionChar, Bool.or_eq_true, List.contains_iff_mem]

/-- The pieces behind the account. -/
def collectionPieces : Option (String × Option String) → List (List Char)
  | none => []
  | some (collection, none) => [collection.toList]
  | some (collection, some key) => [collection.toList, key.toList]

theorem Parts.pieces_eq (parts : Parts) :
    parts.pieces = parts.account.toList :: collectionPieces parts.collection := by
  obtain ⟨account, _ | ⟨collection, _ | key⟩, pointer⟩ := parts <;> rfl

/-- Behind the account there is nothing, a collection, or a collection and a record key. -/
theorem mem_collectionPattern {cs : List Char} : cs ∈ collectionPattern ↔
    ∃ collection : Option (String × Option String),
      (∀ name key, collection = some (name, key) →
        name ≠ "" ∧ ∀ c ∈ name.toList, c.isAlphanum = true ∨ c ∈ ['.', '-']) ∧
      (∀ name key, collection = some (name, some key) →
        key ≠ "" ∧ ∀ c ∈ key.toList, IsKeyChar c) ∧
      cs = behind '/' (collectionPieces collection) := by
  unfold collectionPattern
  rw [mem_maybe_behind]
  constructor
  · rintro ⟨_ | text, htext, rfl⟩
    · exact ⟨none, by simp, by simp, rfl⟩
    · obtain ⟨name, hname, rest, hrest, rfl⟩ := Language.mem_mul.1 (htext text rfl)
      -- A key comes only behind a collection.
      obtain ⟨key, hkey, rfl⟩ := mem_maybe_behind.1 hrest
      obtain ⟨name, rfl⟩ : ∃ name' : String, name'.toList = name := ⟨.ofList name, by simp⟩
      have hname := (mem_atLeastOnce_string fun _ => isCollectionChar_iff).1 hname
      cases key with
      | none =>
        refine ⟨some (name, none), ?_, by simp, by simp [collectionPieces]⟩
        rintro _ _ ⟨⟩
        exact hname
      | some key =>
        obtain ⟨key, rfl⟩ : ∃ key' : String, key'.toList = key := ⟨.ofList key, by simp⟩
        have hkey := (mem_atLeastOnce_string fun _ => isKeyChar_iff).1 (hkey _ rfl)
        refine ⟨some (name, some key), ?_, ?_, by simp [collectionPieces]⟩
        · rintro _ _ ⟨⟩
          exact hname
        · rintro _ _ ⟨⟩
          exact hkey
  · rintro ⟨_ | ⟨name, key⟩, hname, hkey, rfl⟩
    · exact ⟨none, by simp, rfl⟩
    have hname := (mem_atLeastOnce_string fun _ => isCollectionChar_iff).2 (hname name key rfl)
    refine ⟨some (name.toList ++ behind '/' (key.map String.toList).toList), ?_, ?_⟩
    · rintro _ ⟨⟩
      refine Language.append_mem_mul hname (mem_maybe_behind.2 ⟨_, ?_, rfl⟩)
      intro text hmem
      obtain ⟨key, rfl, rfl⟩ := Option.map_eq_some_iff.1 hmem
      exact (mem_atLeastOnce_string fun _ => isKeyChar_iff).2 (hkey name key rfl)
    · cases key <;> simp [collectionPieces]

/-- At the end there is nothing, or a pointer behind its marks. -/
theorem mem_pointerPattern {cs : List Char} : cs ∈ pointerPattern ↔
    ∃ pointer : Option String,
      (∀ text, pointer = some text → ∀ c ∈ text.toList, IsPointerChar c) ∧
      cs = behind '#' (pointer.map fun text => '/' :: text.toList).toList := by
  unfold pointerPattern
  rw [mem_maybe_behind]
  constructor
  · rintro ⟨_ | text, htext, rfl⟩
    · exact ⟨none, by simp, rfl⟩
    · obtain ⟨_, rfl, chars, hchars, rfl⟩ := Language.mem_mul.1 (htext text rfl)
      refine ⟨some (.ofList chars), ?_, by simp⟩
      rintro _ ⟨⟩ c hc
      rw [String.toList_ofList] at hc
      exact isPointerChar_iff.1 (mem_kstar_one.1 hchars c hc)
  · rintro ⟨pointer, hpointer, rfl⟩
    refine ⟨_, ?_, rfl⟩
    intro text hmem
    obtain ⟨pointer, rfl, rfl⟩ := Option.map_eq_some_iff.1 hmem
    refine Language.mem_mul.2 ⟨['/'], rfl, pointer.toList, mem_kstar_one.2 fun c hc => ?_, rfl⟩
    exact isPointerChar_iff.2 (hpointer pointer rfl c hc)

/-- **The pattern says what the characters of the parts are, and nothing more.**  It does not ask
    whether an account or a collection is one. -/
theorem mem_pattern {cs : List Char} : cs ∈ pattern ↔
    ∃ parts : Parts, parts.HasShape ∧ cs = parts.text.toList := by
  have htail (parts : Parts) : parts.tail =
      behind '#' (parts.pointer.map fun text => '/' :: text.toList).toList := by
    unfold Parts.tail
    cases parts.pointer <;> simp
  -- A text of parts has a slash in front of each piece behind the account.
  simp only [Parts.toList_text, Parts.pieces_eq, intercalate_cons, htail, List.append_assoc]
  unfold pattern
  constructor
  · intro h
    obtain ⟨_, rfl, body, hbody, rfl⟩ := Language.mem_mul.1 h
    obtain ⟨account, haccount, rest, hrest, rfl⟩ := Language.mem_mul.1 hbody
    obtain ⟨path, hpath, mark, hmark, rfl⟩ := Language.mem_mul.1 hrest
    obtain ⟨account, rfl⟩ : ∃ text : String, text.toList = account := ⟨.ofList account, by simp⟩
    obtain ⟨collection, hcollection, hkey, rfl⟩ := mem_collectionPattern.1 hpath
    obtain ⟨pointer, hpointer, rfl⟩ := mem_pointerPattern.1 hmark
    have haccount := (mem_atLeastOnce_string fun _ => isAccountChar_iff).1 haccount
    exact ⟨⟨account, collection, pointer⟩, ⟨haccount, hcollection, hkey, hpointer⟩, rfl⟩
  · rintro ⟨⟨account, collection, pointer⟩, ⟨haccount, hcollection, hkey, hpointer⟩, rfl⟩
    have haccount := (mem_atLeastOnce_string fun _ => isAccountChar_iff).2 haccount
    have hpath := mem_collectionPattern.2 ⟨collection, hcollection, hkey, rfl⟩
    have hmark := mem_pointerPattern.2 ⟨pointer, hpointer, rfl⟩
    exact Language.append_mem_mul rfl
      (Language.append_mem_mul haccount (Language.append_mem_mul hpath hmark))

/-! ### Accounts and record keys -/

/-- Without marks behind it, an account is all there is. -/
theorem isBody_account {account : String} (hslash : '/' ∉ account.toList)
    (hhash : '#' ∉ account.toList) :
    isBody account.toList = true ↔ AtIdentifier.isValid account = true := by
  rw [isBody, cutAt?_of_not_mem hhash, splitOn_of_not_mem hslash, arePieces, isAuthority,
    String.ofList_toList, Bool.or_eq_true, AtIdentifier.isValid_iff]

/-- Any key that a record is stored under may be in an address. -/
theorem isKeyChar_of_recordKey {key : String} (h : RecordKey.isValid key = true) :
    key ≠ "" ∧ ∀ c ∈ key.toList, IsKeyChar c := by
  unfold RecordKey.isValid at h
  simp only [Bool.and_eq_true, Bool.not_eq_true', List.isEmpty_eq_false_iff, List.all_eq_true] at h
  obtain ⟨⟨⟨-, hne⟩, -⟩, hchars⟩ := h
  refine ⟨mt String.toList_eq_nil_iff.2 hne, fun c hc => ?_⟩
  have hkey := hchars c hc
  simp only [RecordKey.isKeyChar, Bool.or_eq_true, beq_iff_eq, or_assoc] at hkey
  rcases hkey with halphanum | rfl | rfl | rfl | rfl | rfl
  · exact .inl halphanum
  all_goals exact .inr (by decide)

/-- **Addresses are taken apart in one way.**  A text is an address iff it is short enough and made
    of well-formed parts; no text can be cut into parts of the right characters in two ways, and
    well-formed parts are of the right characters.  The pattern of addresses takes the texts of parts
    of the right characters.  So a text with no slash and no `#` behind `at://` is an address iff
    that is an account, and an account, a collection and a record key may be put together to an
    address if it does not get too long. -/
theorem addresses_are_taken_apart :
    (∀ s, isValid s = true ↔
      s.utf8ByteSize ≤ 8192 ∧ ∃ parts : Parts, parts.text = s ∧ parts.IsWellFormed) ∧
    (∀ parts parts' : Parts, parts.HasShape → parts'.HasShape → parts.text = parts'.text →
      parts = parts') ∧
    (∀ parts : Parts, parts.IsWellFormed → parts.HasShape) ∧
    (∀ s : String, s.toList ∈ pattern ↔ ∃ parts : Parts, parts.HasShape ∧ parts.text = s) ∧
    (∀ account : String, '/' ∉ account.toList → '#' ∉ account.toList →
      (isValid ("at://" ++ account) = true ↔
        AtIdentifier.isValid account = true ∧ ("at://" ++ account).utf8ByteSize ≤ 8192)) ∧
    ∀ account collection key : String, AtIdentifier.isValid account = true →
      Nsid.isValid collection = true → RecordKey.isValid key = true →
      ("at://" ++ account ++ "/" ++ collection ++ "/" ++ key).utf8ByteSize ≤ 8192 →
      isValid ("at://" ++ account ++ "/" ++ collection ++ "/" ++ key) = true := by
  refine ⟨fun _ => isValid_iff, fun _ _ => Parts.eq_of_text_eq, fun _ => Parts.IsWellFormed.hasShape,
    ?_, ?_, ?_⟩
  · intro s
    simp only [mem_pattern, String.toList_inj, eq_comm]
  · intro account hslash hhash
    have hscheme : ("at://" ++ account).toList = scheme ++ account.toList := String.toList_append
    rw [isValid, maxBytes, hscheme, dropStart?_append, Option.any_some, Bool.and_eq_true,
      decide_eq_true_eq, isBody_account hslash hhash, and_comm]
  · -- The only thing left to ask of the parts together is that they are short enough.
    intro account collection key haccount hcollection hkey hsize
    refine isValid_iff.2 ⟨hsize, ⟨account, some (collection, some key), none⟩, ?_, ?_⟩
    · simp only [Parts.text, String.append_assoc, String.append_empty]
    · refine ⟨AtIdentifier.isValid_iff.1 haccount, ?_, ?_, ?_⟩
      · rintro _ _ ⟨⟩
        exact hcollection
      · rintro _ _ ⟨⟩
        exact isKeyChar_of_recordKey hkey
      · rintro _ ⟨⟩

/-- A text of a post that stands in a repository, and how it is found there. -/
theorem addresses_are_taken_apart_post :
    isValid "at://did:web:example.com/com.example.post/3jui7kd54zh2y#/text" = true ∧
    (∀ parts : Parts, parts.HasShape →
      parts.text = "at://did:web:example.com/com.example.post/3jui7kd54zh2y#/text" →
      parts = ⟨"did:web:example.com", some ("com.example.post", some "3jui7kd54zh2y"),
        some "text"⟩) ∧
    isValid "at://alice.example.com" = true ∧
    isValid "at://alice.example.com/com.example.post/self" = true := by
  obtain ⟨hvalid, hunique, hshape, -, haccount, hrecord⟩ := addresses_are_taken_apart
  have hpost : Parts.IsWellFormed ⟨"did:web:example.com",
      some ("com.example.post", some "3jui7kd54zh2y"), some "text"⟩ := by
    refine ⟨.inr (by decide), ?_, ?_, ?_⟩
    · rintro _ _ ⟨⟩
      decide
    · rintro _ _ ⟨⟩
      exact isKey_iff.1 (by decide)
    · rintro _ ⟨⟩ c hc
      have hchars : "text".toList.all isPointerChar = true := by decide
      exact isPointerChar_iff.1 (List.all_eq_true.1 hchars c hc)
  refine ⟨(hvalid _).2 ⟨by decide, _, rfl, hpost⟩,
    fun parts hparts htext => hunique _ _ hparts (hshape _ hpost) htext, ?_, ?_⟩
  · exact (haccount "alice.example.com" (by decide) (by decide)).2 ⟨by decide, by decide⟩
  · exact hrecord "alice.example.com" "com.example.post" "self" (by decide) (by decide) (by decide)
      (by decide)

end Lexicon.AtUri
