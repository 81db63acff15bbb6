import Lexicon.Proofs.ContentId.Binary
import Lexicon.Proofs.Text.Split
import Mathlib.Data.List.Infix

namespace Lexicon.ContentId

open Lexicon.Text

/-!
# Bare content identifiers

A text is read as a content identifier from its first character on, unless there is a mark such as
the addresses of gateways have, behind which reading starts.

* `Denotes`, `IsBare`, `any_bytes?_iff` — texts that are nothing but a content identifier;
* `afterMark?_eq_none`, `afterMark?_eq_some` — the text behind the first mark;
* `bare_identifiers_are_recognised` — what is recognised are bare identifiers, and whatever has one
  behind its first mark.
-/

variable {cs text : List Char} {c : Char} {bytes : List UInt8} {s : String}

/-! ### Texts that denote bytes -/

/-- The bytes that a text denotes: in base 58 if it has 46 characters and starts with `Qm`, and
    otherwise as its first character tells. -/
def Denotes (cs : List Char) (bytes : List UInt8) : Prop :=
  if cs.length = 46 ∧ ['Q', 'm'] <+: cs then ofRadix? base58 cs = some bytes
  else multibase? cs = some bytes

/-- The text is a content identifier: it denotes bytes that start with one. -/
def IsBare (cs : List Char) : Prop :=
  ∃ bytes, Denotes cs bytes ∧ StartsWithIdentifier bytes

/-- A text over ASCII has as many bytes as characters. -/
theorem utf8ByteSize_ofList (h : ∀ c ∈ cs, c.toNat < 128) :
    (String.ofList cs).utf8ByteSize = cs.length := by
  induction cs with
  | nil => rfl
  | cons c rest ih =>
    obtain ⟨hc, hrest⟩ := List.forall_mem_cons.1 h
    have hsize : c.utf8Size = 1 := Char.utf8Size_eq_one_iff.2 (Nat.le_of_lt_succ hc)
    rw [String.ofList_cons, String.utf8ByteSize_append, String.utf8ByteSize_singleton, ih hrest,
      hsize, List.length_cons, Nat.add_comm]

/-- A text has no more characters than bytes. -/
theorem length_le_utf8ByteSize (cs : List Char) : cs.length ≤ (String.ofList cs).utf8ByteSize := by
  induction cs with
  | nil => exact Nat.zero_le _
  | cons c rest ih =>
    have hsize := c.utf8Size_pos
    rw [String.ofList_cons, String.utf8ByteSize_append, String.utf8ByteSize_singleton,
      List.length_cons]
    omega

/-- The characters of a text that digits are read from are digits. -/
theorem mem_of_digits? {alphabet : List Char} {digits : List Nat}
    (h : digits? alphabet cs = some digits) (hc : c ∈ cs) : c ∈ alphabet := by
  induction cs generalizing digits with
  | nil => cases hc
  | cons first rest ih =>
    simp only [digits?, List.mapM_cons, Option.bind_eq_bind, Option.bind_eq_some_iff] at h
    obtain ⟨_, hfirst, _, hrest, -⟩ := h
    rcases List.mem_cons.1 hc with rfl | hc
    · have hsome : (alphabet.findIdx? (· == c)).isSome = alphabet.any (· == c) :=
        List.findIdx?_isSome
      rw [hfirst] at hsome
      simpa using hsome
    · exact ih hrest hc

/-- A text in base 58 is ASCII. -/
theorem utf8ByteSize_of_ofRadix? (h : ofRadix? base58 cs = some bytes) :
    (String.ofList cs).utf8ByteSize = cs.length := by
  have hascii : base58.all (fun c => c.toNat < 128) = true := by decide
  simp only [ofRadix?, Option.bind_eq_bind, Option.bind_eq_some_iff] at h
  obtain ⟨digits, hdigits, -⟩ := h
  refine utf8ByteSize_ofList fun c hc => ?_
  exact of_decide_eq_true (List.all_eq_true.1 hascii c (mem_of_digits? hdigits hc))

/-- Texts without a mark of their encoding start with `Qm` and have 46 bytes. -/
theorem isUnmarked_iff : isUnmarked cs = true ↔
    ['Q', 'm'] <+: cs ∧ (String.ofList cs).utf8ByteSize = 46 := by
  unfold isUnmarked
  split
  · simp
  · rename_i hstart
    simp only [Bool.false_eq_true, false_iff, not_and]
    rintro ⟨rest, rfl⟩
    exact absurd rfl (hstart rest)

/-- It does not matter that the reader counts bytes in place of characters. -/
theorem denotes_iff : Denotes cs bytes ↔
    (if isUnmarked cs then ofRadix? base58 cs else multibase? cs) = some bytes := by
  unfold Denotes
  by_cases hstart : ['Q', 'm'] <+: cs
  · -- The two counts differ only in texts that are not ASCII.  These denote nothing, since `Q` is
    -- the code of no encoding and base 58 is ASCII.
    have hmark : multibase? cs = none := by
      obtain ⟨rest, rfl⟩ := hstart
      rfl
    by_cases hradix : ofRadix? base58 cs = some bytes
    · simp only [isUnmarked_iff, hstart, utf8ByteSize_of_ofRadix? hradix, and_true, true_and]
      split_ifs <;> rfl
    · split_ifs <;> simp [hmark, hradix]
  · simp only [isUnmarked_iff, hstart, and_false, false_and, if_false]

/-! ### Short texts -/

/-- In any encoding the empty text denotes no bytes. -/
theorem eq_nil_of_decode?_nil {encoding : Encoding} (h : encoding.decode? [] = some bytes) :
    bytes = [] := by
  induction encoding with
  | identity =>
    have hempty : (String.ofList []).toUTF8.toList = [] := by decide +kernel
    rw [Encoding.decode?, hempty] at h
    exact (Option.some.inj h).symm
  | bits width alphabet =>
    simp [Encoding.decode?, ofBits?, digits?, bytesOf] at h
    exact h.2
  | paddedBits width size alphabet =>
    rw [Encoding.decode?, ofPaddedBits?] at h
    exact (Option.some.inj h).symm
  | radix alphabet =>
    simpa [Encoding.decode?, ofRadix?, digits?, numberOf, byteCount, bytesOf] using h
  | triples alphabet => simpa [Encoding.decode?, digits?, ofTriples?] using h
  | anyCase encoding ih => exact ih h

/-- A text of one character is no identifier. -/
theorem two_le_length_of_isBare (h : IsBare cs) : 2 ≤ cs.length := by
  obtain ⟨bytes, hdenotes, hstarts⟩ := h
  rw [← startsBytes_iff] at hstarts
  match cs with
  | [] => simp [denotes_iff, isUnmarked, multibase?] at hdenotes
  | [code] =>
    -- The character is the code of an encoding, and no text is left to read in it.
    simp only [denotes_iff, isUnmarked, multibase?, Bool.false_eq_true, if_false,
      Option.bind_eq_some_iff] at hdenotes
    obtain ⟨encoding, -, hempty⟩ := hdenotes
    rw [eq_nil_of_decode?_nil hempty] at hstarts
    cases hstarts
  | _ :: _ :: _ => simp

/-- **The reader of bare texts finds the identifiers.** -/
theorem any_bytes?_iff : (bytes? cs).any startsBytes = true ↔ IsBare cs := by
  unfold bytes?
  split
  · rename_i hshort
    have hlength := length_le_utf8ByteSize cs
    simp only [Option.any_none, Bool.false_eq_true, false_iff]
    intro hbare
    have := two_le_length_of_isBare hbare
    omega
  · simp only [IsBare, denotes_iff, ← startsBytes_iff, Option.any_eq_true]

/-! ### The mark -/

/-- The text behind the first mark: no mark starts earlier. -/
def IsBehindMark (cs text : List Char) : Prop :=
  ∃ front, cs = front ++ pathMark ++ text ∧
    ∀ front' text', cs = front' ++ pathMark ++ text' → front.length ≤ front'.length

/-- Nothing is behind the mark if there is no mark. -/
theorem afterMark?_eq_none : afterMark? cs = none ↔ ¬ pathMark <:+: cs := by
  induction cs with
  | nil => decide
  | cons c rest ih =>
    rw [List.infix_cons_iff, afterMark?]
    cases hmark : dropStart? pathMark (c :: rest) with
    | none =>
      have hstart : ¬ pathMark <+: c :: rest := by
        rintro ⟨text, htext⟩
        rw [dropStart?_eq_some.2 htext.symm] at hmark
        cases hmark
      simp only [ih, hstart, false_or]
    | some text =>
      have hstart : pathMark <+: c :: rest := ⟨text, (dropStart?_eq_some.1 hmark).symm⟩
      simp [hstart]

/-- What is found behind a mark is behind the first one. -/
theorem IsBehindMark.of_afterMark? (h : afterMark? cs = some text) : IsBehindMark cs text := by
  induction cs with
  | nil => cases h
  | cons c rest ih =>
    rw [afterMark?] at h
    cases hmark : dropStart? pathMark (c :: rest) with
    | some behind =>
      rw [hmark] at h
      cases h
      exact ⟨[], dropStart?_eq_some.1 hmark, fun _ _ _ => Nat.zero_le _⟩
    | none =>
      rw [hmark] at h
      obtain ⟨front, rfl, hfirst⟩ := ih h
      refine ⟨c :: front, rfl, fun front' text' hcs => ?_⟩
      -- No mark starts at the first character, and those behind it are left to the induction.
      cases front' with
      | nil =>
        rw [List.nil_append] at hcs
        rw [dropStart?_eq_some.2 hcs] at hmark
        cases hmark
      | cons c' front' => exact Nat.succ_le_succ (hfirst front' text' (List.cons.inj hcs).2)

/-- There is one first mark at most. -/
theorem IsBehindMark.unique {text' : List Char} (h : IsBehindMark cs text)
    (h' : IsBehindMark cs text') : text = text' := by
  obtain ⟨front, hcs, hfirst⟩ := h
  obtain ⟨front', hcs', hfirst'⟩ := h'
  have hlength : front.length = front'.length :=
    Nat.le_antisymm (hfirst front' text' hcs') (hfirst' front text hcs)
  have hsame := hcs.symm.trans hcs'
  rw [List.append_assoc, List.append_assoc] at hsame
  exact List.append_cancel_left (List.append_inj hsame hlength).2

/-- **Behind the first mark** is what the reader takes for the text behind it. -/
theorem afterMark?_eq_some : afterMark? cs = some text ↔ IsBehindMark cs text := by
  refine ⟨.of_afterMark?, fun h => ?_⟩
  cases hmark : afterMark? cs with
  | some behind => rw [h.unique (.of_afterMark? hmark)]
  | none =>
    obtain ⟨front, rfl, -⟩ := h
    exact absurd (List.infix_append front pathMark text) (afterMark?_eq_none.1 hmark)

/-! ### What is recognised -/

/-- Without the mark of a gateway, the whole text has to be a bare identifier. -/
theorem isValid_iff_of_no_mark (h : ¬ pathMark <:+: s.toList) :
    isValid s = true ↔ IsBare s.toList := by
  rw [isValid, afterMark?_eq_none.2 h, Option.getD_none, any_bytes?_iff]

/-- With the mark of a gateway, the text behind the first one has to be. -/
theorem isValid_iff_of_mark (h : IsBehindMark s.toList text) :
    isValid s = true ↔ IsBare text := by
  rw [isValid, afterMark?_eq_some.2 h, Option.getD_some, any_bytes?_iff]

/-- **Bare identifiers are recognised, and so is whatever has one behind its first mark.**  A text
    without the mark of a gateway is recognised iff the whole of it denotes bytes that start with a
    content identifier.  Of a text with such a mark nothing counts but what is behind the first
    one. -/
theorem bare_identifiers_are_recognised (s : String) :
    (¬ pathMark <:+: s.toList → (isValid s = true ↔ IsBare s.toList)) ∧
    ∀ text, IsBehindMark s.toList text → (isValid s = true ↔ IsBare text) :=
  ⟨isValid_iff_of_no_mark, fun _ => isValid_iff_of_mark⟩

/-- An identifier of version 1 in base 32, and the same behind a mark. -/
theorem bare_identifiers_are_recognised_base32 :
    let s := "bafyreidfayvfuwqa7qlnopdjiqrxzs6blmoeu4rujcjtnci5beludirz2a"
    ¬ pathMark <:+: s.toList ∧ IsBare s.toList ∧
      IsBehindMark ("/ipfs/" ++ s).toList s.toList ∧ isValid ("/ipfs/" ++ s) = true := by
  intro s
  have hnone : ¬ pathMark <:+: s.toList := by decide
  have hbare : IsBare s.toList :=
    ((bare_identifiers_are_recognised s).1 hnone).1 (by decide +kernel)
  have hbehind : IsBehindMark ("/ipfs/" ++ s).toList s.toList := afterMark?_eq_some.1 (by decide)
  exact ⟨hnone, hbare, hbehind, ((bare_identifiers_are_recognised _).2 _ hbehind).2 hbare⟩

/-- An address with an identifier in its path is recognised, though no encoding makes bytes of the
    whole of it. -/
theorem address_of_identifier :
    let s := "https://example.com/ipfs/bafyreidfayvfuwqa7qlnopdjiqrxzs6blmoeu4rujcjtnci5beludirz2a"
    isValid s = true ∧ ¬ IsBare s.toList := by
  intro s
  refine ⟨by decide +kernel, ?_⟩
  rintro ⟨bytes, hdenotes, -⟩
  have hmarked : isUnmarked s.toList = false := by decide
  have hnone : multibase? s.toList = none := by decide +kernel
  simp [denotes_iff, hmarked, hnone] at hdenotes

end Lexicon.ContentId
