import TrimRouter.Net

/-!
# Subnet masks

`mask_to_prefix_len` and `prefix_len_to_mask` of `services/utils.rs`.  The first one adds up the
leading ones and the trailing zeros of the mask; bit by bit, a sum of 32 leaves no room for a gap.
-/

namespace TrimRouter

variable {mask : Ipv4Addr} {n i : Nat}

/-- The bits of the mask from the most significant one on: so many ones, and then zeros. -/
def HasPrefix (mask : Ipv4Addr) (n : Nat) : Prop := ∀ i < 32, mask.getMsbD i = decide (i < n)

theorem getLsbD_prefixLenToMask (le : n ≤ 32) (inside : i < 32) :
    (prefixLenToMask n).getLsbD i = decide (32 - n ≤ i) := by
  unfold prefixLenToMask
  split
  · have none' : ¬ 32 - n ≤ i := by omega
    simp [Ipv4Addr.unspecified, none']
  · rw [BitVec.getLsbD_shiftLeft, BitVec.getLsbD_allOnes, Bool.eq_iff_iff]
    simp only [Bool.and_eq_true, Bool.not_eq_true', decide_eq_true_eq, decide_eq_false_iff_not]
    omega

theorem hasPrefix_prefixLenToMask (le : n ≤ 32) : HasPrefix (prefixLenToMask n) n := by
  intro i inside
  have low : 32 - 1 - i < 32 := by omega
  rw [BitVec.getMsbD_eq_getLsbD, getLsbD_prefixLenToMask le low, decide_eq_true inside,
    Bool.true_and, decide_eq_decide]
  omega

theorem HasPrefix.eq {other : Ipv4Addr} (has : HasPrefix mask n) (same : HasPrefix other n) :
    mask = other := by
  refine BitVec.eq_of_getMsbD_eq fun i inside => ?_
  rw [has i inside, same i inside]

theorem maskToPrefixLen_prefixLenToMask (le : n ≤ 32) :
    maskToPrefixLen (prefixLenToMask n) = some n := by
  have all : ∀ i : Fin 33, maskToPrefixLen (prefixLenToMask i.val) = some i.val := by
    decide +kernel
  exact all ⟨n, by omega⟩

/-- The trailing zeros are zeros, and the leading ones are ones. -/
theorem hasPrefix_of_maskToPrefixLen (found : maskToPrefixLen mask = some n) :
    n ≤ 32 ∧ HasPrefix mask n := by
  obtain ⟨whole, same⟩ := Option.ite_none_right_eq_some.mp found
  cases same
  refine ⟨by omega, fun i inside => ?_⟩
  rw [BitVec.getMsbD_eq_getLsbD, decide_eq_true inside, Bool.true_and]
  by_cases leading : i < leadingOnes mask
  · have zero : (~~~mask).getLsbD (32 - 1 - i) = false := by
      refine Nat.testBit_lt_two_pow (Nat.lt_of_lt_of_le BitVec.toNat_lt_two_pow_sub_clz ?_)
      refine Nat.pow_le_pow_right (by decide) ?_
      unfold leadingOnes at leading
      omega
    have low : 32 - 1 - i < 32 := by omega
    rw [BitVec.getLsbD_not, decide_eq_true low, Bool.true_and, Bool.not_eq_false'] at zero
    rw [zero, decide_eq_true leading]
  · have low : 32 - 1 - i < trailingZeros mask := by omega
    rw [BitVec.getLsbD_false_of_lt_ctz low, decide_eq_false leading]

/-- A mask has a length exactly if it is a run of ones followed by zeros, and that length gives the
mask again; and every length up to 32 is that of its mask. -/
theorem mask_conversions_inverse :
    (∀ mask : Ipv4Addr,
      ((maskToPrefixLen mask).isSome = true ↔ ∃ n ≤ 32, HasPrefix mask n) ∧
        ∀ n ∈ maskToPrefixLen mask, prefixLenToMask n = mask) ∧
      ∀ n ≤ 32, maskToPrefixLen (prefixLenToMask n) = some n := by
  refine ⟨fun mask => ⟨⟨fun has => ?_, fun has => ?_⟩, fun n found => ?_⟩,
    fun n le => maskToPrefixLen_prefixLenToMask le⟩
  · obtain ⟨n, found⟩ := Option.isSome_iff_exists.mp has
    exact ⟨n, hasPrefix_of_maskToPrefixLen found⟩
  · obtain ⟨n, le, ones⟩ := has
    rw [ones.eq (hasPrefix_prefixLenToMask le), maskToPrefixLen_prefixLenToMask le]
    rfl
  · obtain ⟨le, ones⟩ := hasPrefix_of_maskToPrefixLen found
    exact (hasPrefix_prefixLenToMask le).eq ones

end TrimRouter
