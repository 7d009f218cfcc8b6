import Mathlib

/-!
# Hypertensor.Base.Radix — from one radix to another

A string of digits, highest first, read in one radix and written in another, with its
leading zeros put back. Because of these a string is more than its number, and the way
back gives the string again.
-/

namespace Hypertensor.Base

/-- Leading zeros. -/
def leadingZeros (ds : List ℕ) : ℕ := (ds.takeWhile (· == 0)).length

/-- The digits behind them. -/
def significant (ds : List ℕ) : List ℕ := ds.dropWhile (· == 0)

/-- The digits `ds` of radix `b` in radix `c`. -/
def rebase (b c : ℕ) (ds : List ℕ) : List ℕ :=
  List.replicate (leadingZeros ds) 0 ++ (Nat.digits c (Nat.ofDigits b (significant ds).reverse)).reverse

section Rebase

variable {b c : ℕ} {ds : List ℕ}

/-- No zero leads the string. -/
def Leads (ds : List ℕ) : Prop := ∀ h : ds ≠ [], ds.head h ≠ 0

theorem replicate_append_significant (ds : List ℕ) :
    List.replicate (leadingZeros ds) 0 ++ significant ds = ds := by
  have hzeros : ds.takeWhile (· == 0) = List.replicate (leadingZeros ds) 0 := by
    apply List.eq_replicate_of_mem
    intro d hd
    have hzero := List.mem_takeWhile_imp hd
    exact beq_iff_eq.mp hzero
  rw [← hzeros]
  exact List.takeWhile_append_dropWhile

theorem leads_significant (ds : List ℕ) : Leads (significant ds) := by
  intro h hzero
  have hhead := List.head_dropWhile_not (fun d : ℕ => d == 0) h
  rw [show (ds.dropWhile (· == 0)).head h = 0 from hzero] at hhead
  cases hhead

/-- Zeros in front of a string that none leads are its leading zeros. -/
theorem split_replicate_append (n : ℕ) (hds : Leads ds) :
    leadingZeros (List.replicate n 0 ++ ds) = n ∧ significant (List.replicate n 0 ++ ds) = ds := by
  have hnone : ds.takeWhile (· == 0) = [] ∧ ds.dropWhile (· == 0) = ds := by
    rcases ds with _ | ⟨d, rest⟩
    · exact ⟨rfl, rfl⟩
    · have hd : d ≠ 0 := hds (List.cons_ne_nil _ _)
      have hbeq : (d == 0) = false := beq_eq_false_iff_ne.mpr hd
      simp [hbeq]
  constructor
  · rw [leadingZeros, List.takeWhile_append_of_pos (by simp), hnone.1, List.append_nil,
      List.length_replicate]
  · rw [significant, List.dropWhile_append_of_pos (by simp), hnone.2]

/-- A number written without padding has no leading zero. -/
theorem leads_digits (c n : ℕ) : Leads (Nat.digits c n).reverse := by
  intro h
  rw [List.head_reverse]
  by_cases hn : n = 0
  · rw [hn, Nat.digits_zero] at h
    exact absurd rfl h
  · exact Nat.getLast_digit_ne_zero c hn

/-- A string that no zero leads is what its number is written as. -/
theorem digits_ofDigits_reverse (hb : 1 < b) (hds : Leads ds) (hlt : ∀ d ∈ ds, d < b) :
    (Nat.digits b (Nat.ofDigits b ds.reverse)).reverse = ds := by
  rw [Nat.digits_ofDigits b hb ds.reverse, List.reverse_reverse]
  · intro d hd
    exact hlt d (List.mem_reverse.mp hd)
  · intro h
    rw [List.getLast_reverse]
    exact hds _

/-- To another radix and back. -/
theorem rebase_rebase (hb : 1 < b) (hlt : ∀ d ∈ ds, d < b) : rebase c b (rebase b c ds) = ds := by
  have hsplit := split_replicate_append (leadingZeros ds)
    (leads_digits c (Nat.ofDigits b (significant ds).reverse))
  have hsig : ∀ d ∈ significant ds, d < b := by
    intro d hd
    exact hlt d ((List.dropWhile_sublist _).subset hd)
  rw [rebase, show rebase b c ds = List.replicate (leadingZeros ds) 0 ++
    (Nat.digits c (Nat.ofDigits b (significant ds).reverse)).reverse from rfl, hsplit.1, hsplit.2,
    List.reverse_reverse, Nat.ofDigits_digits, digits_ofDigits_reverse hb (leads_significant ds) hsig,
    replicate_append_significant]

theorem rebase_lt (hc : 1 < c) : ∀ d ∈ rebase b c ds, d < c := by
  intro d hd
  rcases List.mem_append.mp hd with hzero | hdigit
  · rw [List.eq_of_mem_replicate hzero]
    omega
  · exact Nat.digits_lt_base hc (List.mem_reverse.mp hdigit)

/-- Only the empty string becomes the empty string. -/
theorem rebase_ne_nil (hb : 1 < b) (hlt : ∀ d ∈ ds, d < b) (hne : ds ≠ []) : rebase b c ds ≠ [] := by
  intro hnil
  have hback := rebase_rebase (c := c) hb hlt
  rw [hnil] at hback
  apply hne
  rw [← hback]
  simp [rebase, leadingZeros, significant]

end Rebase

end Hypertensor.Base
