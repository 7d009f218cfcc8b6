import Mathlib
import Hypertensor.Math
import Hypertensor.Base.Apportion

/-!
# Hypertensor.Percentages — what the percentage helpers compute

`percent_mul` and `percent_div` are quotients cut off at the largest `u128`, for the guard of
the first never fires. From that follow their order and what splits of an amount rely on:
shares of a sum are at most the whole.

* `percentMul_eq_min`, `percentDiv_eq_min`: the quotients.
* `percentMul_mono`, `percentDiv_mono`: they grow with the value.
* `sum_percentDiv_le`, `sum_percentMul_le`: the shares of a list.
-/

namespace Hypertensor

open Base

variable {x x' y y' : ℕ}

/-- `saturating_add` of amounts. -/
theorem u128_add (x y : ℕ) : u128.add x y = min (x + y) u128Max := rfl

/-! ## The quotients -/

/-- The guard of `percent_mul` lets every `u128` pass. -/
theorem percentMul_guard (hx : x ≤ u128Max) (hy : y ≤ u128Max) (hpos : 0 < y) :
    x ≤ (uMax 256 - halfPercent) / y := by
  rw [Nat.le_div_iff_mul_le hpos]
  calc x * y ≤ u128Max * u128Max := Nat.mul_le_mul hx hy
    _ ≤ uMax 256 - halfPercent := by decide

theorem percentMul_eq_min (hx : x ≤ u128Max) (hy : y ≤ u128Max) :
    percentMul x y = min (x * y / percentageFactor) u128Max := by
  unfold percentMul quot
  split
  · next h =>
      rcases h with rfl | rfl
      · rw [Nat.zero_mul, Nat.zero_div, Nat.zero_min]
      · rw [Nat.mul_zero, Nat.zero_div, Nat.zero_min]
  · next h =>
      have hpos : 0 < y := Nat.pos_of_ne_zero fun h0 => h (Or.inr h0)
      rw [if_neg (not_lt.mpr (percentMul_guard hx hy hpos))]
      dsimp only
      split <;> omega

theorem percentDiv_eq_min (hy : 0 < y) :
    percentDiv x y = min (x * percentageFactor / y) u128Max := by
  unfold percentDiv quot
  split
  · next h =>
      rcases h with rfl | rfl
      · rw [Nat.zero_mul, Nat.zero_div, Nat.zero_min]
      · exact absurd hy (lt_irrefl 0)
  · dsimp only
    split <;> omega

/-! ## Their order -/

theorem percentMul_mono (hx : x ≤ x') (hy : y ≤ y') (hx' : x' ≤ u128Max) (hy' : y' ≤ u128Max) :
    percentMul x y ≤ percentMul x' y' := by
  rw [percentMul_eq_min (hx.trans hx') (hy.trans hy'), percentMul_eq_min hx' hy']
  exact min_le_min_right _ (Nat.div_le_div_right (Nat.mul_le_mul hx hy))

theorem percentDiv_mono (hx : x ≤ x') : percentDiv x y ≤ percentDiv x' y := by
  rcases Nat.eq_zero_or_pos y with rfl | hy
  · unfold percentDiv
    rw [dif_pos (Or.inr rfl), dif_pos (Or.inr rfl)]
  · rw [percentDiv_eq_min hy, percentDiv_eq_min hy]
    exact min_le_min_right _ (Nat.div_le_div_right (Nat.mul_le_mul_right _ hx))

/-- A part of a whole is at most `1.0` of it. -/
theorem percentDiv_le_factor (h : x ≤ y) : percentDiv x y ≤ percentageFactor := by
  refine (percentDiv_le_div x y).trans ?_
  rcases Nat.eq_zero_or_pos y with rfl | hy
  · rw [Nat.div_zero]
    exact Nat.zero_le _
  · calc x * percentageFactor / y ≤ y * percentageFactor / y :=
          Nat.div_le_div_right (Nat.mul_le_mul_right _ h)
      _ = percentageFactor := Nat.mul_div_cancel_left _ hy

theorem percentMul_le_max (x y : ℕ) : percentMul x y ≤ u128Max := by
  unfold percentMul
  split
  · exact Nat.zero_le _
  · split
    · exact Nat.zero_le _
    · dsimp only
      split <;> omega

/-! ## Shares -/

/-- The shares of a list in its sum are at most the whole. -/
theorem sum_percentDiv_le (xs : List ℕ) :
    (xs.map fun x => percentDiv x xs.sum).sum ≤ percentageFactor := by
  rcases Nat.eq_zero_or_pos xs.sum with hzero | hpos
  · have hall : ∀ x, percentDiv x xs.sum = 0 := by
      intro x
      unfold percentDiv
      rw [dif_pos (Or.inr hzero)]
    rw [List.sum_eq_zero]
    · exact Nat.zero_le _
    · intro n hn
      obtain ⟨x, _, rfl⟩ := List.mem_map.mp hn
      exact hall x
  · refine sum_shares_le (w := id) hpos (le_of_eq (by rw [List.map_id])) ?_
    intro x _
    exact (Nat.mul_le_mul_right _ (percentDiv_le_div x _)).trans (Nat.div_mul_le_self ..)

/-- An amount that is split by these shares is not exceeded. -/
theorem sum_percentMul_le (xs : List ℕ) (R : ℕ) :
    (xs.map fun x => percentMul (percentDiv x xs.sum) R).sum ≤ R := by
  refine sum_shares_le (w := fun x => percentDiv x xs.sum) (by decide : 0 < percentageFactor)
    (sum_percentDiv_le xs) ?_
  intro x _
  exact (Nat.mul_le_mul_right _ (percentMul_le_div _ R)).trans (Nat.div_mul_le_self ..)

/-- For all `u128` values the helpers are the exact quotients, cut off at the largest `u128`, and
no product on the way exceeds a `U256`. The shares of any values in their sum are at most the
whole, and split no amount into more than it is. -/
theorem percentages_exact (x y : ℕ) (hx : x ≤ u128Max) (hy : y ≤ u128Max) (xs : List ℕ)
    (R : ℕ) :
    (0 < y → x ≤ (uMax 256 - halfPercent) / y) ∧
      x * y ≤ uMax 256 ∧ x * percentageFactor ≤ uMax 256 ∧
      percentMul x y = min (x * y / percentageFactor) u128Max ∧
      (0 < y → percentDiv x y = min (x * percentageFactor / y) u128Max) ∧
      (xs.map fun x => percentDiv x xs.sum).sum ≤ percentageFactor ∧
      (xs.map fun x => percentMul (percentDiv x xs.sum) R).sum ≤ R := by
  refine ⟨percentMul_guard hx hy, ?_, ?_, percentMul_eq_min hx hy, percentDiv_eq_min,
    sum_percentDiv_le xs, sum_percentMul_le xs R⟩
  · calc x * y ≤ u128Max * u128Max := Nat.mul_le_mul hx hy
      _ ≤ uMax 256 := by decide
  · calc x * percentageFactor ≤ u128Max * percentageFactor := Nat.mul_le_mul_right _ hx
      _ ≤ uMax 256 := by decide

/-- A third of three equal parts, and a split of 100 by these thirds. -/
theorem percentages_exact_thirds :
    percentDiv 1 3 = 333333333333333333 ∧ percentMul 1 3 = 0 ∧
      ([1, 1, 1].map fun x => percentMul (percentDiv x 3) 100).sum = 99 ∧
      ([1, 1, 1].map fun x => percentMul (percentDiv x 3) 100).sum ≤ 100 := by
  obtain ⟨_, _, _, hmul, hdiv, _, hsum⟩ :=
    percentages_exact 1 3 (by decide) (by decide) [1, 1, 1] 100
  exact ⟨(hdiv (by decide)).trans (by decide), hmul.trans (by decide), by decide, hsum⟩

end Hypertensor
