import Mathlib
import Hypertensor.Staking.System
import Hypertensor.Staking.Solvency

/-!
# Hypertensor.Staking.Transfer — moving shares between accounts

A transfer is a saturating decrease followed by a saturating increase. It checks
that the shares are worth the minimum deposit, not that the sender has them.
`transfer_exact_iff` says when the two halves cancel.
-/

namespace Hypertensor

open Base

variable {A : Type} [DecidableEq A]

/-- Every counter of a family of pools is a `u128`. -/
structure Pools.IsU128 (p : Pools A) : Prop where
  accountShares : ∀ x, p.accountShares.val x ≤ u128Max
  poolShares : ∀ id, p.poolShares.val id ≤ u128Max
  poolBalance : ∀ id, p.poolBalance.val id ≤ u128Max
  totalBalance : p.totalBalance ≤ u128Max

/-- `q` is `p` with `n` shares of pool `id` moved from `who` to `dest`, and
nothing else changed. -/
structure Pools.Moved (p q : Pools A) (who dest : A) (id n : ℕ) : Prop where
  sender : q.accountShares.val (who, id) + n = p.accountShares.val (who, id)
  receiver : q.accountShares.val (dest, id) = p.accountShares.val (dest, id) + n
  others : ∀ a j, (a, j) ≠ (who, id) → (a, j) ≠ (dest, id) →
    q.accountShares.val (a, j) = p.accountShares.val (a, j)
  poolShares : ∀ j, q.poolShares.val j = p.poolShares.val j
  poolBalance : ∀ j, q.poolBalance.val j = p.poolBalance.val j
  totalBalance : q.totalBalance = p.totalBalance
  sharesHeld : q.sharesHeld id = p.sharesHeld id

namespace Pools

variable {p : Pools A} {who dest : A} {id n : ℕ}

/-- The pools after a transfer of the source. -/
def afterTransfer (p : Pools A) (who dest : A) (id n : ℕ) : Pools A :=
  (p.decreaseAccount who id 0 n).increaseAccount u128 dest id 0 n

theorem afterTransfer_accountShares (hne : who ≠ dest) (x : A × ℕ) :
    (p.afterTransfer who dest id n).accountShares.val x =
      if x = (dest, id) then min (p.accountShares.val (dest, id) + n) u128Max
      else if x = (who, id) then p.accountShares.val (who, id) - n
      else p.accountShares.val x := by
  have hne' : (dest, id) ≠ (who, id) := fun h => hne (Prod.mk.inj h).1.symm
  simp only [afterTransfer, increaseAccount, decreaseAccount, StorageMap.val_set, hne', if_false,
    Arith.add]

theorem afterTransfer_poolShares (j : ℕ) :
    (p.afterTransfer who dest id n).poolShares.val j =
      if j = id then min (p.poolShares.val id - n + n) u128Max else p.poolShares.val j := by
  simp only [afterTransfer, increaseAccount, decreaseAccount, StorageMap.val_set, Arith.add]
  split <;> simp_all

theorem afterTransfer_poolBalance (hu : p.IsU128) (j : ℕ) :
    (p.afterTransfer who dest id n).poolBalance.val j = p.poolBalance.val j := by
  have hfit := hu.poolBalance id
  simp only [afterTransfer, increaseAccount, decreaseAccount, StorageMap.val_set, Arith.add]
  split
  · next hj =>
      subst hj
      simp [hfit]
  · rfl

theorem afterTransfer_totalBalance (hu : p.IsU128) :
    (p.afterTransfer who dest id n).totalBalance = p.totalBalance := by
  have hfit := hu.totalBalance
  simp [afterTransfer, increaseAccount, decreaseAccount, Arith.add, hfit]

/-- With the shares at hand and room for them, a transfer is exact. -/
theorem moved_of_le (hu : p.IsU128) (hne : who ≠ dest)
    (hown : n ≤ p.accountShares.val (who, id)) (hpool : n ≤ p.poolShares.val id)
    (hroom : p.accountShares.val (dest, id) + n ≤ u128Max) :
    p.Moved (p.afterTransfer who dest id n) who dest id n := by
  have hne' : (who, id) ≠ (dest, id) := fun h => hne (Prod.mk.inj h).1
  have hsender : (p.afterTransfer who dest id n).accountShares.val (who, id) =
      p.accountShares.val (who, id) - n := by
    rw [afterTransfer_accountShares hne, if_neg hne', if_pos rfl]
  have hreceiver : (p.afterTransfer who dest id n).accountShares.val (dest, id) =
      p.accountShares.val (dest, id) + n := by
    rw [afterTransfer_accountShares hne, if_pos rfl]
    exact Nat.min_eq_left hroom
  refine ⟨by omega, hreceiver, ?_, ?_, afterTransfer_poolBalance hu,
    afterTransfer_totalBalance hu, ?_⟩
  · intro a j ha hd
    rw [afterTransfer_accountShares hne, if_neg hd, if_neg ha]
  · intro j
    rw [afterTransfer_poolShares]
    split
    · next hj =>
        subst hj
        rw [Nat.sub_add_cancel hpool]
        exact Nat.min_eq_left (hu.poolShares j)
    · rfl
  · -- the decrease and the increase of the sum cancel
    have hdec := sharesHeld_of_set (p := p) (q := p.decreaseAccount who id 0 n) id rfl
    have hinc := sharesHeld_of_set (p := p.decreaseAccount who id 0 n)
      (q := p.afterTransfer who dest id n) id rfl
    have hstay : (p.decreaseAccount who id 0 n).accountShares.val (dest, id) =
        p.accountShares.val (dest, id) := by
      simp [decreaseAccount, hne'.symm]
    have hadd : u128.add ((p.decreaseAccount who id 0 n).accountShares.val (dest, id)) n =
        p.accountShares.val (dest, id) + n := by
      rw [hstay]
      exact Nat.min_eq_left hroom
    rw [hadd, hstay] at hinc
    omega

/-- An exact transfer had the shares at hand and room for them. -/
theorem le_of_moved (hu : p.IsU128) (hne : who ≠ dest)
    (h : p.Moved (p.afterTransfer who dest id n) who dest id n) :
    n ≤ p.accountShares.val (who, id) ∧ n ≤ p.poolShares.val id ∧
      p.accountShares.val (dest, id) + n ≤ u128Max := by
  refine ⟨?_, ?_, ?_⟩
  · have := h.sender
    omega
  · have hp := h.poolShares id
    rw [afterTransfer_poolShares, if_pos rfl] at hp
    by_contra hlt
    -- a larger amount would leave `n` shares, or the maximum, behind
    have hmax := hu.poolShares id
    have hown := h.sender
    have hfit := hu.accountShares (who, id)
    omega
  · have hr := h.receiver
    rw [afterTransfer_accountShares hne, if_pos rfl] at hr
    omega

end Pools

/-- A transfer to another account either fails, or moves exactly `n` shares and
changes nothing else, if and only if a guard of the call rejects it or the
sender owns the shares, the pool counts them and the receiver has room. -/
theorem transfer_exact_iff (s : State A) (k : PoolKind) (who dest : A) (id n : ℕ)
    (hu : (s.pools k).IsU128) (hne : who ≠ dest) :
    (∀ s', s.doTransferDelegateStake u128 k who dest id n = .ok s' →
      (s.pools k).Moved (s'.pools k) who dest id n) ↔
    (n = 0 ∨ (s.pools k).sharesToBalance u128 id n < s.params.minDelegateStakeDeposit ∨
      (n ≤ (s.pools k).accountShares.val (who, id) ∧ n ≤ (s.pools k).poolShares.val id ∧
        (s.pools k).accountShares.val (dest, id) + n ≤ u128Max)) := by
  constructor
  · intro h
    by_cases hn : n = 0
    · exact Or.inl hn
    by_cases hmin : (s.pools k).sharesToBalance u128 id n < s.params.minDelegateStakeDeposit
    · exact Or.inr (Or.inl hmin)
    -- every guard passes, so the call succeeds
    have hok : s.doTransferDelegateStake u128 k who dest id n =
        .ok ((s.decreaseAccountStake k who id 0 n).increaseAccountStake u128 k dest id 0 n) := by
      simp [State.doTransferDelegateStake, ensure, hne, hn, Nat.le_of_not_lt hmin, bind,
        Except.bind]
    have hmoved := h _ hok
    rw [State.increaseAccountStake_pools, State.decreaseAccountStake_pools] at hmoved
    exact Or.inr (Or.inr (Pools.le_of_moved hu hne hmoved))
  · intro hcond s' hs'
    rcases State.doTransferDelegateStake_ok hs' with ⟨_, hn, hmin, rfl⟩
    rcases hcond with h0 | hlt | ⟨hown, hpool, hroom⟩
    · exact absurd h0 hn
    · exact absurd hmin (Nat.not_le.mpr hlt)
    · rw [State.increaseAccountStake_pools, State.decreaseAccountStake_pools]
      exact Pools.moved_of_le hu hne hown hpool hroom

/-- Account `1` owns no shares, yet hands `2000` to account `2`: the pool's total
stays, and the accounts now own more shares than the pool has. -/
theorem transfer_of_unowned_shares :
    let s := run (Op.step (.runtime ℕ) u128) (.genesis demoEnv)
      [.call (.addDelegateStake .subnet 0 7 5000)]
    (s.pools .subnet).accountShares.val (1, 7) = 0 ∧
    ∃ s', s.doTransferDelegateStake u128 .subnet 1 2 7 2000 = .ok s' ∧
      ¬ (s.pools .subnet).Moved (s'.pools .subnet) 1 2 7 2000 ∧
      (s'.pools .subnet).accountShares.val (2, 7) = 2000 ∧
      (s.pools .subnet).sharesHeld 7 < (s'.pools .subnet).sharesHeld 7 := by
  intro s
  have hdec := Pools.sharesHeld_of_set (p := s.pools .subnet)
    (q := (s.pools .subnet).decreaseAccount 1 7 0 2000) 7 rfl
  have hinc := Pools.sharesHeld_of_set (p := (s.pools .subnet).decreaseAccount 1 7 0 2000)
    (q := (s.pools .subnet).afterTransfer 1 2 7 2000) 7 rfl
  have h1 : (s.pools .subnet).accountShares.val (1, 7) = 0 := by decide +kernel
  have h2 : ((s.pools .subnet).decreaseAccount 1 7 0 2000).accountShares.val (2, 7) = 0 := by
    decide +kernel
  have h3 : u128.add (((s.pools .subnet).decreaseAccount 1 7 0 2000).accountShares.val (2, 7))
      2000 = 2000 := by decide +kernel
  rw [h1] at hdec
  rw [h2] at hinc h3
  rw [h3] at hinc
  refine ⟨h1, (s.decreaseAccountStake .subnet 1 7 0 2000).increaseAccountStake u128 .subnet 2 7 0
    2000, by decide +kernel, ?_, by decide +kernel, ?_⟩
  · intro hmoved
    have hsender := hmoved.sender
    rw [h1] at hsender
    omega
  · show (s.pools .subnet).sharesHeld 7 <
      ((s.pools .subnet).afterTransfer 1 2 7 2000).sharesHeld 7
    omega

/-- The owner of shares moves them exactly. -/
theorem transfer_exact_of_owner :
    let s := run (Op.step (.runtime ℕ) u128) (.genesis demoEnv)
      [.call (.addDelegateStake .subnet 0 7 5000)]
    ∃ s', s.doTransferDelegateStake u128 .subnet 0 2 7 2000 = .ok s' ∧
      (s.pools .subnet).Moved (s'.pools .subnet) 0 2 7 2000 := by
  intro s
  have hu : (s.pools .subnet).IsU128 :=
    ⟨StorageMap.val_le_of_keys (by decide +kernel), StorageMap.val_le_of_keys (by decide +kernel),
      StorageMap.val_le_of_keys (by decide +kernel), by decide +kernel⟩
  have hok : s.doTransferDelegateStake u128 .subnet 0 2 7 2000 =
      .ok ((s.decreaseAccountStake .subnet 0 7 0 2000).increaseAccountStake u128 .subnet 2 7 0
        2000) := by decide +kernel
  exact ⟨_, hok, (transfer_exact_iff s .subnet 0 2 7 2000 hu (by decide)).mpr
    (Or.inr (Or.inr (by decide +kernel))) _ hok⟩

end Hypertensor
