import Mathlib.Algebra.BigOperators.Ring.List
import Mathlib.Algebra.Order.BigOperators.Group.List
import Mathlib.Data.Rat.Lemmas
import Mathlib.Algebra.Order.Field.Rat

namespace Shares

/-- The share of each weight in their sum. -/
def shares (weights : List Rat) : List Rat := weights.map (· / weights.sum)

variable {weights : List Rat}

theorem sum_shares (positive : 0 < weights.sum) : (shares weights).sum = 1 := by
  have scaled : shares weights = weights.map fun weight => weight * (weights.sum)⁻¹ := by
    simp only [shares, div_eq_mul_inv]
  rw [scaled, List.sum_map_mul_right, List.map_id', mul_inv_cancel₀ positive.ne']

theorem shares_nonneg (nonneg : ∀ weight ∈ weights, 0 ≤ weight) : ∀ share ∈ shares weights, 0 ≤ share := by
  intro share member
  obtain ⟨weight, inWeights, rfl⟩ := List.mem_map.mp member
  exact div_nonneg (nonneg weight inWeights) (List.sum_nonneg nonneg)

theorem shares_le_one (nonneg : ∀ weight ∈ weights, 0 ≤ weight) (positive : 0 < weights.sum) :
    ∀ share ∈ shares weights, share ≤ 1 := by
  intro share member
  rw [← sum_shares positive]
  exact List.single_le_sum (shares_nonneg nonneg) share member

/-- Some of the shares together are no more than all of them. -/
theorem sum_sublist_shares {part : List Rat} (sub : part.Sublist (shares weights))
    (nonneg : ∀ weight ∈ weights, 0 ≤ weight) (positive : 0 < weights.sum) : 0 ≤ part.sum ∧ part.sum ≤ 1 := by
  have all := shares_nonneg nonneg
  refine ⟨List.sum_nonneg fun share member => all share (sub.subset member), ?_⟩
  rw [← sum_shares positive]
  exact sub.sum_le_sum all

theorem sum_pos_iff (nonneg : ∀ weight ∈ weights, 0 ≤ weight) : 0 < weights.sum ↔ ∃ weight ∈ weights, 0 < weight := by
  constructor
  · intro positive
    by_contra none
    have zero : ∀ weight ∈ weights, weight = 0 := by
      intro weight member
      by_contra other
      exact none ⟨weight, member, lt_of_le_of_ne (nonneg weight member) (Ne.symm other)⟩
    rw [List.sum_eq_zero zero] at positive
    exact lt_irrefl 0 positive
  · rintro ⟨weight, member, positive⟩
    exact lt_of_lt_of_le positive (List.single_le_sum nonneg weight member)

end Shares
