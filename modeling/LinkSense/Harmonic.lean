import Mathlib.Algebra.Order.BigOperators.Group.List
import Mathlib.Algebra.Order.Field.Basic
import Mathlib.Tactic.FieldSimp
import Mathlib.Tactic.Linarith
import Mathlib.Tactic.Ring

/-!
# Harmonic means

Of a list of positive elements of an ordered field: periods, or resistances, or speeds.

    xs has positive elements → 0 < mean xs                                       (mean_pos)
    and none of them is above `M` → mean xs ≤ M                                  (mean_le)
    a share of the mean, less often than there are elements, stays below it      (mul_share_lt)
-/

namespace Harmonic

variable {K : Type*} [Field K] [LinearOrder K] [IsStrictOrderedRing K] {xs : List K} {M : K}

def mean (xs : List K) : K := xs.length / (xs.map fun x => x⁻¹).sum

/-- The share of one element. -/
def share (xs : List K) : K := mean xs / xs.length

theorem sum_inv_pos (hne : xs ≠ []) (hpos : ∀ x ∈ xs, 0 < x) :
    0 < (xs.map fun x => x⁻¹).sum := by
  refine List.sum_pos _ ?_ (by simpa using hne)
  intro y hy
  obtain ⟨x, hx, rfl⟩ := List.mem_map.1 hy
  exact inv_pos.2 (hpos x hx)

theorem length_pos (hne : xs ≠ []) : 0 < (xs.length : K) :=
  Nat.cast_pos.2 (List.length_pos_iff.2 hne)

theorem mean_pos (hne : xs ≠ []) (hpos : ∀ x ∈ xs, 0 < x) : 0 < mean xs :=
  div_pos (length_pos hne) (sum_inv_pos hne hpos)

/-- The sum of the reciprocals is at least as many times the least of them. -/
theorem mean_le (hne : xs ≠ []) (hpos : ∀ x ∈ xs, 0 < x) (hM : ∀ x ∈ xs, x ≤ M) :
    mean xs ≤ M := by
  obtain ⟨x₀, hx₀⟩ := List.exists_mem_of_ne_nil xs hne
  have hMpos : 0 < M := (hpos x₀ hx₀).trans_le (hM x₀ hx₀)
  have hsum : xs.length * M⁻¹ ≤ (xs.map fun x => x⁻¹).sum := by
    have h := List.card_nsmul_le_sum (xs.map fun x => x⁻¹) M⁻¹ fun y hy => by
      obtain ⟨x, hx, rfl⟩ := List.mem_map.1 hy
      exact inv_anti₀ (hpos x hx) (hM x hx)
    rwa [List.length_map, nsmul_eq_mul] at h
  unfold mean
  rw [div_le_iff₀ (sum_inv_pos hne hpos)]
  calc (xs.length : K) = M * (xs.length * M⁻¹) := by field_simp
    _ ≤ M * (xs.map fun x => x⁻¹).sum := by gcongr

theorem share_eq (xs : List K) (hne : xs ≠ []) :
    share xs = ((xs.map fun x => x⁻¹).sum)⁻¹ := by
  have hlen : (xs.length : K) ≠ 0 := (length_pos hne).ne'
  unfold share mean
  rw [div_div, mul_comm, ← div_div, div_self hlen, one_div]

theorem mul_share_lt (hne : xs ≠ []) (hpos : ∀ x ∈ xs, 0 < x) {i : ℕ} (hi : i < xs.length) :
    i * share xs < mean xs := by
  have hlt : (i : K) < xs.length := Nat.cast_lt.2 hi
  unfold share
  rw [mul_div_assoc', div_lt_iff₀ (length_pos hne), mul_comm (mean xs)]
  exact mul_lt_mul_of_pos_right hlt (mean_pos hne hpos)

end Harmonic
