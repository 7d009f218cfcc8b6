import Mathlib

/-!
# Hypertensor.Base.Apportion — dividing an amount by weights

An amount `R` is divided among claimants by their weights, and every share is
rounded down somehow: `x i * W ≤ w i * R`, where `W` is the sum of all weights.
Then the shares of any selection of claimants stay within `R`.

The claimants are found by key in a list of weighted entries; `sum_find_le` says
that looking every key up at most once never counts an entry twice.
-/

namespace Hypertensor.Base

variable {α κ : Type} [DecidableEq κ]

/-- Overriding `g` at one key of a duplicate-free list adds at most the new
value. -/
theorem sum_override_le {ks : List κ} (hks : ks.Nodup) (k₀ : κ) (v : ℕ) (g : κ → ℕ) :
    (ks.map fun k => if k₀ = k then v else g k).sum ≤ v + (ks.map g).sum := by
  induction ks with
  | nil => simp
  | cons k ks ih =>
      rw [List.nodup_cons] at hks
      simp only [List.map_cons, List.sum_cons]
      by_cases hk : k₀ = k
      · -- the override happens here, and nowhere later
        subst hk
        have hrest : (ks.map fun k => if k₀ = k then v else g k) = ks.map g := by
          apply List.map_congr_left
          intro k hmem
          rw [if_neg]
          rintro rfl
          exact hks.1 hmem
        rw [hrest, if_pos rfl]
        omega
      · rw [if_neg hk]
        have := ih hks.2
        omega

/-- The values found under distinct keys add up to at most all values. -/
theorem sum_find_le {ks : List κ} (hks : ks.Nodup) (key : α → κ) (f : α → ℕ) (l : List α) :
    (ks.map fun k => (l.find? fun a => key a = k).elim 0 f).sum ≤ (l.map f).sum := by
  induction l with
  | nil => simp
  | cons a l ih =>
      have hcons : (ks.map fun k => ((a :: l).find? fun a => key a = k).elim 0 f) =
          ks.map fun k => if key a = k then f a else (l.find? fun a => key a = k).elim 0 f := by
        apply List.map_congr_left
        intro k _
        by_cases hk : key a = k
        · rw [List.find?_cons_of_pos (by simpa using hk), if_pos hk]
          rfl
        · rw [List.find?_cons_of_neg (by simpa using hk), if_neg hk]
      rw [hcons]
      refine (sum_override_le hks (key a) (f a) _).trans ?_
      simp only [List.map_cons, List.sum_cons]
      omega

/-- Shares that are rounded down stay within the amount. -/
theorem sum_shares_le {l : List α} {x w : α → ℕ} {R W : ℕ} (hW : 0 < W)
    (hsum : (l.map w).sum ≤ W) (hshare : ∀ a ∈ l, x a * W ≤ w a * R) : (l.map x).sum ≤ R := by
  have hscaled : (l.map x).sum * W ≤ (l.map w).sum * R := by
    clear hsum
    induction l with
    | nil => simp
    | cons a l ih =>
        have hhead := hshare a List.mem_cons_self
        have htail := ih fun b hb => hshare b (List.mem_cons_of_mem a hb)
        simp only [List.map_cons, List.sum_cons, Nat.add_mul]
        omega
  have hle : (l.map x).sum * W ≤ R * W := by
    calc (l.map x).sum * W ≤ (l.map w).sum * R := hscaled
      _ ≤ W * R := Nat.mul_le_mul_right R hsum
      _ = R * W := Nat.mul_comm W R
  exact Nat.le_of_mul_le_mul_right hle hW

/-! ## What a remainder hides -/

/-- Adding `b` does not change a quotient exactly when it fits the remainder. -/
theorem add_div_eq_iff {a b P : ℕ} (hP : 0 < P) : (a + b) / P = a / P ↔ a % P + b < P := by
  have ha := Nat.div_add_mod a P
  have hcomm : a / P * P = P * (a / P) := Nat.mul_comm _ _
  rw [Nat.div_eq_iff hP]
  omega

/-- A part of `c` raises a quotient by all of `c` exactly when the rest of `c` fits
the remainder. -/
theorem add_mul_div_eq_iff {a c w P : ℕ} (hP : 0 < P) (hw : w ≤ P) :
    (a + c * w) / P = a / P + c ↔ c * (P - w) ≤ a % P := by
  have ha := Nat.div_add_mod a P
  have hmod := Nat.mod_lt a hP
  have hsplit : c * (P - w) + c * w = c * P := by rw [← Nat.mul_add, Nat.sub_add_cancel hw]
  have hcomm : (a / P + c) * P = P * (a / P) + c * P := by ring
  rw [Nat.div_eq_iff hP, hcomm]
  omega

end Hypertensor.Base
