import Mathlib.Data.Fintype.Prod
import Wakeup.Proofs.Identifier.Spelling
import Wakeup.Proofs.Text.Utf8

/-! The identifier of a key keeps all bits of the digest but the six that mark it, and what is
hashed tells the key and the seed. -/
namespace Wakeup.Identifier

open Text

variable {a b bytes : Vector UInt8 16} {i : Fin 16} {j : Fin 8} {key key' : String}
  {seed seed' : UInt64}

/-- The bits that are kept: all but the upper four of byte 6 and the upper two of byte 8. -/
def keptBits : Finset (Fin 16 × Fin 8) :=
  Finset.univ.filter fun p => (p.1.val = 6 → p.2.val < 4) ∧ (p.1.val = 8 → p.2.val < 6)

theorem card_keptBits : keptBits.card = 122 := by decide +kernel

theorem mem_keptBits :
    (i, j) ∈ keptBits ↔ (i.val = 6 → j.val < 4) ∧ (i.val = 8 → j.val < 6) := by
  simp [keptBits]

theorem testBit_mask (x m v : UInt8) (k : Nat) : (x &&& m ||| v).toNat.testBit k =
    (x.toNat.testBit k && m.toNat.testBit k || v.toNat.testBit k) := by
  rw [UInt8.toNat_or, UInt8.toNat_and, Nat.testBit_or, Nat.testBit_and]

/-- A bit that is not kept is that of the mark. -/
def markBit (i : Fin 16) (j : Fin 8) : Bool :=
  i.val = 6 ∧ j.val = 6 ∨ i.val = 8 ∧ j.val = 7

theorem get_mark (bytes : Vector UInt8 16) (i : Fin 16) : (mark bytes).get i =
    if i.val = 6 then bytes.get i &&& 0x0f ||| 0x40
    else if i.val = 8 then bytes.get i &&& 0x3f ||| 0x80 else bytes.get i := by
  change (mark bytes)[i.val] = _
  rw [mark, Vector.getElem_ofFn]

theorem testBit_mark (bytes : Vector UInt8 16) (i : Fin 16) (j : Fin 8) :
    ((mark bytes).get i).toNat.testBit j =
      if (i, j) ∈ keptBits then (bytes.get i).toNat.testBit j else markBit i j := by
  have hsix : ∀ t : Bool, ∀ j : Fin 8, (t && Nat.testBit 0x0f j || Nat.testBit 0x40 j) =
      if (6, j) ∈ keptBits then t else markBit 6 j := by
    simp only [mem_keptBits]
    decide
  have height : ∀ t : Bool, ∀ j : Fin 8, (t && Nat.testBit 0x3f j || Nat.testBit 0x80 j) =
      if (8, j) ∈ keptBits then t else markBit 8 j := by
    simp only [mem_keptBits]
    decide
  rw [get_mark]
  split
  · next h =>
    obtain rfl : i = 6 := Fin.ext h
    rw [testBit_mask]
    exact hsix _ j
  · next h6 =>
    split
    · next h =>
      obtain rfl : i = 8 := Fin.ext h
      rw [testBit_mask]
      exact height _ j
    · next h8 =>
      have hkept : (i, j) ∈ keptBits :=
        mem_keptBits.mpr ⟨fun h => absurd h h6, fun h => absurd h h8⟩
      rw [if_pos hkept]

/-- Bytes with the same bits are the same. -/
theorem eq_of_testBit (h : ∀ i : Fin 16, ∀ j : Fin 8,
    (a.get i).toNat.testBit j = (b.get i).toNat.testBit j) : a = b := by
  refine Vector.ext fun i hi => UInt8.toNat_inj.mp (Nat.eq_of_testBit_eq fun j => ?_)
  by_cases hj : j < 8
  · exact h ⟨i, hi⟩ ⟨j, hj⟩
  · have hnone : ∀ x : UInt8, x.toNat.testBit j = false := by
      intro x
      apply Nat.testBit_lt_two_pow
      exact Nat.lt_of_lt_of_le x.toNat_lt (Nat.pow_le_pow_right (by decide) (by omega))
    rw [hnone, hnone]

theorem mark_eq_iff : mark a = mark b ↔
    ∀ p ∈ keptBits, (a.get p.1).toNat.testBit p.2 = (b.get p.1).toNat.testBit p.2 := by
  constructor
  · intro h p hp
    have ha := testBit_mark a p.1 p.2
    have hb := testBit_mark b p.1 p.2
    rw [if_pos hp] at ha hb
    rw [← ha, ← hb, h]
  · intro h
    apply eq_of_testBit
    intro i j
    rw [testBit_mark, testBit_mark]
    split
    · next hp => exact h (i, j) hp
    · rfl

theorem spell_mark_eq_iff : spell (mark a) = spell (mark b) ↔
    ∀ p ∈ keptBits, (a.get p.1).toNat.testBit p.2 = (b.get p.1).toNat.testBit p.2 :=
  ⟨fun h => mark_eq_iff.mp (spell_inj h), fun h => congrArg spell (mark_eq_iff.mpr h)⟩

theorem toNat_byte (n : UInt64) {k : Nat} (hk : k < 8) :
    (n >>> .ofNat (8 * k)).toUInt8.toNat = n.toNat / 256 ^ k % 256 := by
  have hword : 8 * k < UInt64.size := Nat.lt_trans (show 8 * k < 64 by omega) (by decide)
  rw [UInt64.toNat_toUInt8, UInt64.toNat_shiftRight, UInt64.toNat_ofNat_of_lt' hword,
    Nat.mod_eq_of_lt (show 8 * k < 64 by omega), Nat.shiftRight_eq_div_pow, Nat.pow_mul]

theorem mod_pow_eq_of_digits {m n k : Nat}
    (h : ∀ i < k, m / 256 ^ i % 256 = n / 256 ^ i % 256) : m % 256 ^ k = n % 256 ^ k := by
  induction k with
  | zero => rw [Nat.pow_zero, Nat.mod_one, Nat.mod_one]
  | succ k ih =>
    rw [Nat.mod_pow_succ, Nat.mod_pow_succ, h k (Nat.lt_succ_self k),
      ih fun i hi => h i (Nat.lt_succ_of_lt hi)]

theorem length_littleEndian (n : UInt64) : (littleEndian n).length = 8 := by
  rw [littleEndian, List.length_map, List.length_range]

theorem littleEndian_inj (h : littleEndian seed = littleEndian seed') : seed = seed' := by
  have hdigits : seed.toNat % 256 ^ 8 = seed'.toNat % 256 ^ 8 :=
    mod_pow_eq_of_digits fun k hk => by
      rw [← toNat_byte seed hk, ← toNat_byte seed' hk,
        List.map_inj_left.mp h k (List.mem_range.mpr hk)]
  have hword : ∀ n : UInt64, n.toNat % 256 ^ 8 = n.toNat := fun n => Nat.mod_eq_of_lt n.toNat_lt
  rw [hword, hword] at hdigits
  exact UInt64.toNat_inj.mp hdigits

theorem message_eq_iff :
    message key seed = message key' seed' ↔ key = key' ∧ seed = seed' := by
  constructor
  · intro h
    have hlength : (littleEndian seed).length = (littleEndian seed').length := by
      rw [length_littleEndian, length_littleEndian]
    obtain ⟨hkey, hseed⟩ := List.append_inj' h hlength
    rw [Utf8.toList_toUTF8, Utf8.toList_toUTF8] at hkey
    exact ⟨Utf8.bytes_inj hkey, littleEndian_inj hseed⟩
  · rintro ⟨rfl, rfl⟩
    rfl

theorem upperHalf_mask (x m v : UInt8) : (x &&& m ||| v).toNat / 16 =
    x.toNat / 16 &&& m.toNat / 16 ||| v.toNat / 16 := by
  change _ / 2 ^ 4 = _ / 2 ^ 4 &&& _ / 2 ^ 4 ||| _ / 2 ^ 4
  simp only [← Nat.shiftRight_eq_div_pow, UInt8.toNat_or, UInt8.toNat_and,
    Nat.shiftRight_or_distrib, Nat.shiftRight_and_distrib]

/-- Version 4. -/
theorem upperHalf_mark_six (bytes : Vector UInt8 16) : ((mark bytes).get 6).toNat / 16 = 4 := by
  rw [get_mark, if_pos (by decide), upperHalf_mask]
  exact (congrArg (· ||| 4) (Nat.and_zero _)).trans (Nat.zero_or 4)

/-- The standard variant: two bits of the half are left. -/
theorem upperHalf_mark_eight (bytes : Vector UInt8 16) :
    ∃ k < 4, ((mark bytes).get 8).toNat / 16 = k ||| 8 := by
  refine ⟨(bytes.get 8).toNat / 16 &&& 3, Nat.and_lt_two_pow _ (show 3 < 2 ^ 2 by decide), ?_⟩
  rw [get_mark, if_neg (by decide), if_pos (by decide), upperHalf_mask]
  rfl

/-- The bytes of a digest that an identifier is made of. -/
def firstBytes (digest : Vector UInt8 64) : Vector UInt8 16 :=
  Vector.ofFn fun i => digest.get (i.castAdd 48)

/-- Two identifiers are the same just if the digests agree on the 122 bits that are kept, and two
messages are the same just if key and seed are. An identifier has the grouping, in lowercase, and
the version and the variant in their places. -/
theorem ofKey_eq_iff (key key' : String) (seed seed' : UInt64) :
    (ofKey key seed = ofKey key' seed' ↔ ∀ p ∈ keptBits,
      ((firstBytes (Blake2b.digest (message key seed))).get p.1).toNat.testBit p.2 =
        ((firstBytes (Blake2b.digest (message key' seed'))).get p.1).toNat.testBit p.2) ∧
    keptBits.card = 122 ∧
    (message key seed = message key' seed' ↔ key = key' ∧ seed = seed') ∧
    (ofKey key seed).length = 36 ∧ isCanonical (ofKey key seed) ∧
    (∀ c ∈ (ofKey key seed).toList, c = '-' ∨ IsLowerHex c) ∧
    (ofKey key seed).toList[14]? = some '4' ∧
    ∃ c ∈ ['8', '9', 'a', 'b'], (ofKey key seed).toList[19]? = some c := by
  refine ⟨spell_mark_eq_iff, card_keptBits, message_eq_iff, length_spell _, isCanonical_spell _,
    fun c => isLowerHex_of_mem_spell, ?_, ?_⟩
  · rw [ofKey, getElem?_spell_six, upperHalf_mark_six]
    rfl
  · obtain ⟨k, hk, hhalf⟩ := upperHalf_mark_eight (firstBytes (Blake2b.digest (message key seed)))
    have hchar : ∀ k < 4, Nat.digitChar (k ||| 8) ∈ ['8', '9', 'a', 'b'] := by decide
    refine ⟨_, hchar k hk, ?_⟩
    rw [← hhalf]
    exact getElem?_spell_eight _

end Wakeup.Identifier
