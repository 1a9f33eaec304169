import Mathlib.Data.BitVec
import Mathlib.Tactic.IntervalCases

/-!
# Words of an IPv4 network

The byte order of the network on a little-endian host, and netmasks as words of 32 bits.

* `htonl_htonl`, `htonl_or` : the order of the bytes is turned back by turning it again,
  and bitwise operations do not see it;
* `or_mask_eq_iff` : a word has no bit outside the mask of `p` ones exactly if it is a
  multiple of the size of the network;
* `two_pow_sub_le_or_not` : the complement of a mask, taken in a wider word, has every bit
  of the upper half.
-/

namespace InetWords

/-- `htonl` and `ntohl` : the four bytes, the other way round. -/
def htonl (x : BitVec 32) : BitVec 32 :=
  x.extractLsb' 0 8 ++ x.extractLsb' 8 8 ++ x.extractLsb' 16 8 ++ x.extractLsb' 24 8

/-- The mask of `p` ones. -/
def mask (p : ℕ) : BitVec 32 := BitVec.allOnes 32 <<< (32 - p)

variable {p : ℕ}

/-! ## Byte order -/

theorem getLsbD_htonl (x : BitVec 32) (i : ℕ) :
    (htonl x).getLsbD i = (decide (i < 32) && x.getLsbD (24 - i / 8 * 8 + i % 8)) := by
  by_cases h : i < 32
  · simp only [htonl, BitVec.getLsbD_append, BitVec.getLsbD_extractLsb']
    interval_cases i <;> simp
  · rw [BitVec.getLsbD_of_ge _ i (by omega), decide_eq_false h, Bool.false_and]

@[simp] theorem htonl_htonl (x : BitVec 32) : htonl (htonl x) = x := by
  refine BitVec.eq_of_getLsbD_eq fun i hi => ?_
  have h : 24 - i / 8 * 8 + i % 8 < 32 := by omega
  rw [getLsbD_htonl, getLsbD_htonl, decide_eq_true hi, decide_eq_true h, Bool.true_and,
    Bool.true_and]
  congr 1
  omega

theorem htonl_or (x y : BitVec 32) : htonl (x ||| y) = htonl x ||| htonl y := by
  refine BitVec.eq_of_getLsbD_eq fun i _ => ?_
  simp only [getLsbD_htonl, BitVec.getLsbD_or, Bool.and_or_distrib_left]

@[simp] theorem htonl_inj {x y : BitVec 32} : htonl x = htonl y ↔ x = y :=
  ⟨fun h => by rw [← htonl_htonl x, h, htonl_htonl], congrArg htonl⟩

/-! ## Netmasks -/

theorem getLsbD_mask {i : ℕ} (hi : i < 32) : (mask p).getLsbD i = decide (32 - p ≤ i) := by
  rw [mask, BitVec.getLsbD_shiftLeft, BitVec.getLsbD_allOnes, decide_eq_true hi,
    decide_eq_true (by omega : i - (32 - p) < 32), Bool.true_and, Bool.and_true]
  by_cases h : 32 - p ≤ i
  · rw [decide_eq_true h, decide_eq_false (by omega : ¬i < 32 - p), Bool.not_false]
  · rw [decide_eq_false h, decide_eq_true (by omega : i < 32 - p), Bool.not_true]

theorem toNat_mask (hp : p ≤ 32) : (mask p).toNat = 2 ^ 32 - 2 ^ (32 - p) := by
  interval_cases p <;> rfl

theorem or_mask_eq_iff (x : BitVec 32) (p : ℕ) :
    mask p ||| x = mask p ↔ 2 ^ (32 - p) ∣ x.toNat := by
  constructor
  · intro h
    refine Nat.dvd_of_mod_eq_zero (Nat.eq_of_testBit_eq fun i => ?_)
    rw [Nat.testBit_mod_two_pow, Nat.zero_testBit, Bool.and_eq_false_iff, decide_eq_false_iff_not]
    refine or_iff_not_imp_left.mpr fun hi => ?_
    have hm : (mask p).getLsbD i = false := by
      rw [getLsbD_mask (by omega), decide_eq_false (by omega)]
    have hbit := congrArg (BitVec.getLsbD · i) h
    simp only [BitVec.getLsbD_or, hm, Bool.false_or] at hbit
    exact hbit
  · intro h
    refine BitVec.eq_of_getLsbD_eq fun i hi => ?_
    rw [BitVec.getLsbD_or]
    by_cases hip : 32 - p ≤ i
    · rw [getLsbD_mask hi, decide_eq_true hip, Bool.true_or]
    · have hx := congrArg (Nat.testBit · i) (Nat.mod_eq_zero_of_dvd h)
      simp only [Nat.testBit_mod_two_pow, Nat.zero_testBit] at hx
      rw [decide_eq_true (by omega), Bool.true_and] at hx
      rw [show x.getLsbD i = false from hx, Bool.or_false]

/-- The complement of a word of 32 bits, taken in 64, has all of the upper 32. -/
theorem two_pow_sub_le_or_not (x : BitVec 64) (m : BitVec 32) :
    2 ^ 64 - 2 ^ 32 ≤ (x ||| ~~~m.setWidth 64).toNat := by
  have hm := m.isLt
  calc 2 ^ 64 - 2 ^ 32 ≤ (~~~m.setWidth 64).toNat := by
        rw [BitVec.toNat_not, BitVec.toNat_setWidth]
        omega
    _ ≤ (x ||| ~~~m.setWidth 64).toNat := by
        rw [BitVec.toNat_or]
        exact Nat.right_le_or

end InetWords
