import Lexicon.ContentId.Basic
import Mathlib.Data.Nat.Digits.Defs

namespace Lexicon.ContentId

/-!
# The bytes of content identifiers

* `IsNumeral`, `number?_eq_some` — numbers in groups of seven bits, and the bytes that start with
  one;
* `IsIdentifier`, `startsBytes_iff` — content identifiers, and the bytes that start with one.
-/

variable {bytes rest : List UInt8} {count n : Nat}

/-! ### Numbers -/

/-- The bytes write a number: seven bits each, the lowest first.  All bytes but the last have their
    high bit set, there are at most ten, and the last one is not empty unless it stands alone.  Bits
    beyond the 64th do not count. -/
def IsNumeral (bytes : List UInt8) (n : Nat) : Prop :=
  ∃ front last, bytes = front ++ [last] ∧ front.length < 10 ∧ (∀ b ∈ front, 128 ≤ b.toNat) ∧
    last.toNat < 128 ∧ (front ≠ [] → last.toNat ≠ 0) ∧
    n = Nat.ofDigits 128 (bytes.map fun b => b.toNat % 128) % 2 ^ 64

/-- Groups of seven bits are digits to the base 128. -/
theorem ofGroups_eq_ofDigits (groups : List Nat) : ofGroups groups = Nat.ofDigits 128 groups := by
  induction groups with
  | nil => rfl
  | cons group groups ih => rw [ofGroups, ih, Nat.ofDigits_cons]

/-- The low bits of a byte whose high bit is set. -/
theorem sub_high_bit {b : UInt8} (h : 128 ≤ b.toNat) : b.toNat - 128 = b.toNat % 128 := by
  have := b.toNat_lt
  omega

/-- The groups at the start of some bytes end with the first byte whose high bit is not set. -/
theorem groups?_eq_some {groups : List Nat} : groups? count bytes = some (groups, rest) ↔
    ∃ front last, bytes = front ++ last :: rest ∧ front.length < count ∧
      (∀ b ∈ front, 128 ≤ b.toNat) ∧ last.toNat < 128 ∧
      groups = (front ++ [last]).map fun b => b.toNat % 128 := by
  induction count generalizing bytes groups with
  | zero => simp [groups?]
  | succ count ih =>
    cases bytes with
    | nil => simp [groups?]
    | cons b bytes =>
      rw [groups?]
      constructor
      · intro h
        -- The first byte ends the groups, or the induction is about the bytes behind it.
        split at h
        · rename_i hlast
          cases h
          exact ⟨[], b, rfl, Nat.succ_pos count, by simp, hlast, by simp [Nat.mod_eq_of_lt hlast]⟩
        · rename_i hhigh
          have hb : 128 ≤ b.toNat := Nat.le_of_not_lt hhigh
          obtain ⟨⟨groups, rest⟩, hgroups, hpair⟩ := Option.map_eq_some_iff.1 h
          cases hpair
          obtain ⟨front, last, rfl, hlength, hfront, hlast, rfl⟩ := ih.1 hgroups
          refine ⟨b :: front, last, rfl, Nat.succ_lt_succ hlength,
            List.forall_mem_cons.2 ⟨hb, hfront⟩, hlast, ?_⟩
          rw [List.cons_append, List.map_cons, sub_high_bit hb]
      · rintro ⟨front, last, hbytes, hlength, hfront, hlast, rfl⟩
        cases front with
        | nil =>
          cases hbytes
          rw [if_pos hlast]
          simp [Nat.mod_eq_of_lt hlast]
        | cons first front =>
          rw [List.cons_append, List.cons.injEq] at hbytes
          obtain ⟨rfl, rfl⟩ := hbytes
          obtain ⟨hb, hfront⟩ := List.forall_mem_cons.1 hfront
          have hgroups := ih.2 ⟨front, last, rfl, Nat.lt_of_succ_lt_succ hlength, hfront, hlast, rfl⟩
          rw [if_neg (Nat.not_lt.2 hb), hgroups, Option.map_some, sub_high_bit hb]
          rfl

/-- The number at the start of some bytes. -/
theorem number?_eq_some : number? bytes = some (n, rest) ↔
    ∃ numeral, bytes = numeral ++ rest ∧ IsNumeral numeral n := by
  -- The reader tells an empty last byte by its group.
  have hempty (front : List UInt8) (last : UInt8) (hlast : last.toNat < 128) :
      (1 < ((front ++ [last]).map fun b => b.toNat % 128).length ∧
        ((front ++ [last]).map fun b => b.toNat % 128).getLast? = some 0) ↔
        ¬ (front ≠ [] → last.toNat ≠ 0) := by
    simp [Nat.mod_eq_of_lt hlast, List.length_pos_iff]
  unfold number?
  simp only [Option.bind_eq_bind, Option.bind_eq_some_iff, Prod.exists]
  constructor
  · rintro ⟨groups, behind, hgroups, h⟩
    obtain ⟨front, last, rfl, hlength, hfront, hlast, rfl⟩ := groups?_eq_some.1 hgroups
    split at h
    · cases h
    · rename_i hminimal
      rw [hempty front last hlast, not_not] at hminimal
      cases h
      exact ⟨front ++ [last], by simp, front, last, rfl, hlength, hfront, hlast, hminimal,
        by rw [ofGroups_eq_ofDigits]; rfl⟩
  · rintro ⟨_, rfl, front, last, rfl, hlength, hfront, hlast, hminimal, rfl⟩
    refine ⟨_, rest, groups?_eq_some.2 ⟨front, last, by simp, hlength, hfront, hlast, rfl⟩, ?_⟩
    rw [if_neg (by rwa [hempty front last hlast, not_not]), ofGroups_eq_ofDigits]
    rfl

/-! ### Identifiers -/

/-- The bytes of a content identifier: a bare SHA-256 digest, or version 1 with the format of the
    data, the hash function and a digest of at most 64 bytes.  The length stands in front of a
    digest. -/
inductive IsIdentifier : List UInt8 → Prop where
  | bare {hash size digest : List UInt8} : IsNumeral hash 0x12 → IsNumeral size digest.length →
      digest.length = 32 → IsIdentifier (hash ++ size ++ digest)
  | versioned {version format hash size digest : List UInt8} {code function : Nat} :
      IsNumeral version 1 → IsNumeral format code → IsNumeral hash function →
      IsNumeral size digest.length → digest.length ≤ 64 →
      IsIdentifier (version ++ format ++ hash ++ size ++ digest)

/-- The bytes start with a content identifier. -/
def StartsWithIdentifier (bytes : List UInt8) : Prop :=
  ∃ identifier rest, bytes = identifier ++ rest ∧ IsIdentifier identifier

/-- Bytes start with a digest if they name a hash function and a length of 64 at most, and have as
    many bytes left. -/
theorem startsDigest_iff : startsDigest bytes = true ↔
    ∃ hash size digest rest function, bytes = hash ++ size ++ digest ++ rest ∧
      IsNumeral hash function ∧ IsNumeral size digest.length ∧ digest.length ≤ 64 := by
  unfold startsDigest maxDigest
  simp only [Option.any_eq_true, Option.bind_eq_bind, Option.bind_eq_some_iff, Option.pure_def,
    Option.some.injEq, Prod.exists, Prod.mk.injEq, Bool.and_eq_true, decide_eq_true_eq]
  constructor
  · rintro ⟨_, _, ⟨function, behindHash, hfirst, n, behindSize, hsecond, rfl, rfl⟩, hmax,
      hlength⟩
    obtain ⟨hash, rfl, hhash⟩ := number?_eq_some.1 hfirst
    obtain ⟨size, rfl, hsize⟩ := number?_eq_some.1 hsecond
    -- The digest is what the length says of the bytes that are left.
    have htake : (behindSize.take n).length = n := List.length_take_of_le hlength
    refine ⟨hash, size, behindSize.take n, behindSize.drop n, function, ?_, hhash, ?_, ?_⟩
    · simp only [List.append_assoc, List.take_append_drop]
    · rwa [htake]
    · rwa [htake]
  · rintro ⟨hash, size, digest, rest, function, rfl, hhash, hsize, hmax⟩
    refine ⟨digest.length, _, ⟨function, size ++ digest ++ rest, ?_, digest.length, digest ++ rest,
      ?_, rfl, rfl⟩, hmax, ?_⟩
    · exact number?_eq_some.2 ⟨hash, by simp only [List.append_assoc], hhash⟩
    · exact number?_eq_some.2 ⟨size, List.append_assoc size digest rest, hsize⟩
    · rw [List.length_append]
      exact Nat.le_add_right _ _

/-- **The reader finds the identifiers that bytes start with.** -/
theorem startsBytes_iff : startsBytes bytes = true ↔ StartsWithIdentifier bytes := by
  unfold startsBytes
  constructor
  · intro h
    split at h
    · cases h
    rename_i first behindFirst hfirst
    split at h
    · cases h
    rename_i second behindSecond hsecond
    -- The two numbers in front are the hash and the size, or the version and the format.
    obtain ⟨numeral, rfl, hnumeral⟩ := number?_eq_some.1 hfirst
    obtain ⟨numeral', rfl, hnumeral'⟩ := number?_eq_some.1 hsecond
    split at h
    · rename_i hbare
      cases hbare
      have htake : (behindSecond.take 32).length = 32 :=
        List.length_take_of_le (of_decide_eq_true h)
      refine ⟨numeral ++ numeral' ++ behindSecond.take 32, behindSecond.drop 32, ?_,
        .bare hnumeral (by rwa [htake]) htake⟩
      simp only [List.append_assoc, List.take_append_drop]
    · rw [Bool.and_eq_true, beq_iff_eq, startsDigest_iff] at h
      obtain ⟨rfl, hash, size, digest, rest, function, rfl, hhash, hsize, hmax⟩ := h
      exact ⟨_, rest, by simp only [List.append_assoc],
        .versioned hnumeral hnumeral' hhash hsize hmax⟩
  · rintro ⟨_, rest, rfl, h⟩
    cases h with
    | @bare hash size digest hhash hsize hdigest =>
      rw [hdigest] at hsize
      have hfirst : number? (hash ++ size ++ digest ++ rest) =
          some (0x12, size ++ digest ++ rest) :=
        number?_eq_some.2 ⟨hash, by simp only [List.append_assoc], hhash⟩
      have hsecond : number? (size ++ digest ++ rest) = some (32, digest ++ rest) :=
        number?_eq_some.2 ⟨size, List.append_assoc size digest rest, hsize⟩
      rw [hfirst]
      simp only [hsecond]
      have hbare : ((0x12 : Nat), 32) = sha256 := rfl
      rw [if_pos hbare, decide_eq_true_eq, List.length_append, hdigest]
      exact Nat.le_add_right _ _
    | @versioned version format hash size digest code function hversion hformat hhash hsize hmax =>
      have hfirst : number? (version ++ format ++ hash ++ size ++ digest ++ rest) =
          some (1, format ++ hash ++ size ++ digest ++ rest) :=
        number?_eq_some.2 ⟨version, by simp only [List.append_assoc], hversion⟩
      have hsecond : number? (format ++ hash ++ size ++ digest ++ rest) =
          some (code, hash ++ size ++ digest ++ rest) :=
        number?_eq_some.2 ⟨format, by simp only [List.append_assoc], hformat⟩
      have hbehind := startsDigest_iff.2 ⟨hash, size, digest, rest, function, rfl, hhash, hsize, hmax⟩
      rw [hfirst]
      simp only [hsecond]
      -- No hash function has the number of the version.
      rw [if_neg (by simp [sha256]), hbehind]
      rfl

end Lexicon.ContentId
