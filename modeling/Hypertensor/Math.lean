import Mathlib
import Hypertensor.Base.Arith
import Hypertensor.Base.Vault

/-!
# Hypertensor.Math — percentages and share conversions

The fixed-point helpers of `utilities/math.rs` and the share conversions of
`stake/staking_utils.rs`. A percentage is a `u128` with `1e18` standing for
`1.0`.
-/

namespace Hypertensor

open Base

/-- `PERCENTAGE_FACTOR`: `1e18` as `1.0`. -/
def percentageFactor : ℕ := 1000000000000000000

/-- `HALF_PERCENT`: `0.5e18` as `0.5`. -/
def halfPercent : ℕ := 500000000000000000

/-- `percent_mul`: `x` is the value, `y` the percentage; rounds down. -/
def percentMul (x y : ℕ) : ℕ :=
  if h : x = 0 ∨ y = 0 then 0
  else if x > quot (uMax 256 - halfPercent) y (fun hy => h (Or.inr hy)) then 0
  else
    let result := quot (x * y) percentageFactor (by decide)
    if result > u128Max then u128Max else result

/-- `percent_div`: `x` as a percentage of `y`; rounds down, `0` when `y` is. -/
def percentDiv (x y : ℕ) : ℕ :=
  if h : x = 0 ∨ y = 0 then 0
  else
    let result := quot (x * percentageFactor) y (fun hy => h (Or.inr hy))
    if result ≤ u128Max then result else u128Max

/-- `MIN_LIQUIDITY`: the dead shares minted on the first deposit. -/
def minLiquidity : ℕ := 1000

/-- `convert_to_shares`: balance to shares, with ten virtual shares and one
virtual unit of balance. -/
def convertToShares (ar : Arith) (balance totalShares totalBalance : ℕ) : ℕ :=
  if totalShares = 0 then balance
  else ar.mulDiv 256 balance (totalShares + 10) (totalBalance + 1)

/-- `convert_to_balance`: shares to balance, with the same offsets. -/
def convertToBalance (ar : Arith) (shares totalShares totalBalance : ℕ) : ℕ :=
  if totalShares = 0 then shares
  else ar.mulDiv 256 shares (totalBalance + 1) (totalShares + 10)

/-! ## Percentages -/

theorem percentMul_le_div (x y : ℕ) : percentMul x y ≤ x * y / percentageFactor := by
  unfold percentMul quot
  split
  · exact Nat.zero_le _
  · split
    · exact Nat.zero_le _
    · dsimp only
      split <;> omega

/-- A percentage of at most `1.0` never gives more than the value. -/
theorem percentMul_le_left {x y : ℕ} (hy : y ≤ percentageFactor) : percentMul x y ≤ x := by
  refine (percentMul_le_div x y).trans ?_
  calc x * y / percentageFactor ≤ x * percentageFactor / percentageFactor :=
        Nat.div_le_div_right (Nat.mul_le_mul_left x hy)
    _ = x := Nat.mul_div_cancel x (by decide)

/-- On `u128` values the overflow guard never fires, so a percentage of at most
`1.0` is the exact quotient. -/
theorem percentMul_eq {x y : ℕ} (hx : x ≤ u128Max) (hy : y ≤ percentageFactor) :
    percentMul x y = x * y / percentageFactor := by
  by_cases h : x = 0 ∨ y = 0
  · rcases h with h | h <;> simp [h, percentMul]
  · have hy0 : 0 < y := by omega
    have hguard : ¬ x > (uMax 256 - halfPercent) / y := by
      rw [not_lt, Nat.le_div_iff_mul_le hy0]
      calc x * y ≤ u128Max * percentageFactor := Nat.mul_le_mul hx hy
        _ ≤ uMax 256 - halfPercent := by decide
    have hfit : ¬ x * y / percentageFactor > u128Max := by
      have hle : x * y / percentageFactor ≤ x :=
        calc x * y / percentageFactor ≤ x * percentageFactor / percentageFactor :=
              Nat.div_le_div_right (Nat.mul_le_mul_left x hy)
          _ = x := Nat.mul_div_cancel x (by decide)
      omega
    unfold percentMul quot
    rw [dif_neg h, if_neg hguard]
    exact if_neg hfit

theorem percentDiv_le_div (x y : ℕ) : percentDiv x y ≤ x * percentageFactor / y := by
  unfold percentDiv quot
  split
  · exact Nat.zero_le _
  · dsimp only
    split <;> omega

/-! ## Conversions

Without saturation the conversions are those of a vault with ten virtual
shares. -/

theorem convertToShares_unbounded (x S B : ℕ) :
    convertToShares .unbounded x S B = toShares 10 x S B := rfl

theorem convertToBalance_unbounded (n S B : ℕ) :
    convertToBalance .unbounded n S B = toAssets 10 n S B := rfl

/-- Converting part of the shares of a `u128` pool to balance never saturates. -/
theorem convertToBalance_u128 {n S B : ℕ} (hn : n ≤ S) (hS : S ≤ u128Max) (hB : B ≤ u128Max) :
    convertToBalance u128 n S B = convertToBalance .unbounded n S B := by
  unfold convertToBalance
  split
  · rfl
  · have hfit : n * (B + 1) ≤ uMax 256 := by
      calc n * (B + 1) ≤ u128Max * (u128Max + 1) :=
            Nat.mul_le_mul (hn.trans hS) (Nat.succ_le_succ hB)
        _ ≤ uMax 256 := by decide
    have hle : n * (B + 1) / (S + 10) ≤ u128Max := by
      have h := Vault.toAssets_le (B := B) (show 0 < 10 by decide) hn
      simp only [toAssets] at h
      split at h
      · next h0 => exact absurd h0 ‹_›
      · exact h.trans hB
    have h10 : ¬ S + 10 = 0 := by omega
    simp only [Arith.mulDiv, checkedMulDiv, h10, hfit, if_true, if_false, hle]

end Hypertensor
