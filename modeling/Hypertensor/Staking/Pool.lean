import Mathlib
import Hypertensor.Base.Run
import Hypertensor.Base.Vault
import Hypertensor.Math
import Hypertensor.State

/-!
# Hypertensor.Staking.Pool — delegate-stake pools

The pool arithmetic of `stake/delegate_staking.rs` and
`stake/validator_delegate_staking.rs`. The two files perform the same
operations on two families of pools, so the operations are stated once, on
`Pools`.

* `PoolOp` lists what the pallet can do to a pool; `PoolOp.apply` does it.
* `vault` reads one pool as a share vault. In exact arithmetic every pool
  operation is a vault step (`stepAt_apply`), so soundness, solvency and
  non-dilution come from `Base.Vault`.
-/

namespace Hypertensor

open Base

variable {A : Type} [DecidableEq A]

namespace Pools

/-! ## Operations -/

/-- `increase_account_delegate_stake` and its validator twin: credit shares to
an account and balance to its pool. -/
def increaseAccount (ar : Arith) (p : Pools A) (who : A) (id amount shares : ℕ) : Pools A where
  accountShares := p.accountShares.set (who, id) (ar.add (p.accountShares.val (who, id)) shares)
  poolBalance := p.poolBalance.set id (ar.add (p.poolBalance.val id) amount)
  poolShares := p.poolShares.set id (ar.add (p.poolShares.val id) shares)
  totalBalance := ar.add p.totalBalance amount

/-- `decrease_account_delegate_stake` and its validator twin: every reduction
saturates at zero. -/
def decreaseAccount (p : Pools A) (who : A) (id amount shares : ℕ) : Pools A where
  accountShares := p.accountShares.set (who, id) (p.accountShares.val (who, id) - shares)
  poolBalance := p.poolBalance.set id (p.poolBalance.val id - amount)
  poolShares := p.poolShares.set id (p.poolShares.val id - shares)
  totalBalance := p.totalBalance - amount

/-- Mint `MIN_LIQUIDITY` dead shares. -/
def mintMinLiquidity (ar : Arith) (p : Pools A) (id : ℕ) : Pools A :=
  { p with poolShares := p.poolShares.set id (ar.add (p.poolShares.val id) minLiquidity) }

/-- `handle_increase_account_delegate_stake` and its validator twin: the pools
after the call, and the shares minted unless the conversion rounds to zero. The
dead shares of a first deposit are minted before the conversion is checked. -/
def handleIncrease (ar : Arith) (p : Pools A) (who : A) (id amount : ℕ) : Pools A × Option ℕ :=
  let totalShares := p.poolShares.val id
  -- Mitigate inflation attack
  let p₁ := if totalShares = 0 then p.mintMinLiquidity ar id else p
  let shares := convertToShares ar amount totalShares (p₁.poolBalance.val id)
  -- Check rounding errors, mitigates donation attacks that round to zero
  if shares = 0 then (p₁, none)
  else (p₁.increaseAccount ar who id amount shares, some shares)

/-- `do_increase_delegate_stake` and its validator twin: rewards and donations. -/
def doIncrease (ar : Arith) (p : Pools A) (id amount : ℕ) : Pools A :=
  let p₁ := if p.poolBalance.val id = 0 ∨ p.poolShares.val id = 0
    then p.mintMinLiquidity ar id else p
  { p₁ with
    poolBalance := p₁.poolBalance.set id (ar.add (p₁.poolBalance.val id) amount)
    totalBalance := ar.add p₁.totalBalance amount }

/-- What `shares` of a pool convert to. -/
def sharesToBalance (ar : Arith) (p : Pools A) (id shares : ℕ) : ℕ :=
  convertToBalance ar shares (p.poolShares.val id) (p.poolBalance.val id)

omit [DecidableEq A] in
/-- Rewards and donations add to the balance, whether or not dead shares are
minted. -/
theorem doIncrease_poolBalance (ar : Arith) (p : Pools A) (id x : ℕ) :
    (p.doIncrease ar id x).poolBalance =
      p.poolBalance.set id (ar.add (p.poolBalance.val id) x) := by
  unfold doIncrease
  split <;> rfl

end Pools

/-- What can happen to a family of pools. -/
inductive PoolOp (A : Type) where
  | increase (who : A) (id amount : ℕ)
  | remove (who : A) (id shares : ℕ)
  | transfer (who dest : A) (id shares : ℕ)
  | donate (id amount : ℕ)

namespace PoolOp

/-- Perform a pool operation. -/
def apply (ar : Arith) (p : Pools A) : PoolOp A → Pools A
  | increase who id amount => (p.handleIncrease ar who id amount).1
  | remove who id shares => p.decreaseAccount who id (p.sharesToBalance ar id shares) shares
  | transfer who dest id shares =>
      -- the balance is not mutated: the shares stay in the same pool
      (p.decreaseAccount who id 0 shares).increaseAccount ar dest id 0 shares
  | donate id amount => p.doIncrease ar id amount

/-- Shares are given up only by an account that owns them. -/
def Allowed (p : Pools A) : PoolOp A → Prop
  | increase _ _ _ => True
  | remove who id shares => shares ≤ p.accountShares.val (who, id)
  | transfer who dest id shares => who ≠ dest ∧ shares ≤ p.accountShares.val (who, id)
  | donate _ _ => True

/-- The account giving shares of pool `id` up, if one does. -/
def loser (id : ℕ) : PoolOp A → Option A
  | increase _ _ _ => none
  | remove who j _ => if j = id then some who else none
  | transfer who _ j _ => if j = id then some who else none
  | donate _ _ => none

/-- The pool the operation is on. -/
def target : PoolOp A → ℕ
  | increase _ id _ => id
  | remove _ id _ => id
  | transfer _ _ id _ => id
  | donate id _ => id

end PoolOp

namespace Pools

/-! ## One pool as a vault -/

/-- The shares of each account in pool `id`. -/
noncomputable def holdings (p : Pools A) (id : ℕ) : A →₀ ℕ :=
  Finsupp.onFinset (p.accountShares.keys.image Prod.fst)
    (fun a => p.accountShares.val (a, id)) (by
      intro a ha
      rw [Finset.mem_image]
      refine ⟨(a, id), ?_, rfl⟩
      rw [StorageMap.mem_keys]
      cases h : p.accountShares.find? (a, id) with
      | none => exact absurd (by simp [StorageMap.val, StorageMap.getD, h]) ha
      | some v => exact ⟨v, rfl⟩)

/-- The sum of all account shares in pool `id`. -/
noncomputable def sharesHeld (p : Pools A) (id : ℕ) : ℕ := (p.holdings id).sum fun _ n => n

/-- Pool `id` read as a vault; what no account holds is dead. -/
noncomputable def vault (p : Pools A) (id : ℕ) : Vault A where
  holdings := p.holdings id
  dead := p.poolShares.val id - p.sharesHeld id
  assets := p.poolBalance.val id

/-- The accounts of a pool own no more than its shares, and the vault it is
read as is sound. -/
structure PoolInv (p : Pools A) (id : ℕ) : Prop where
  held_le : p.sharesHeld id ≤ p.poolShares.val id
  sound : (p.vault id).Sound minLiquidity

/-- The holding of an account is what is stored for it. -/
@[simp] theorem holdings_apply (p : Pools A) (id : ℕ) (a : A) :
    p.holdings id a = p.accountShares.val (a, id) := rfl

/-- The holdings of a pool are read from its own accounts only. -/
theorem holdings_congr {p q : Pools A} {id : ℕ}
    (h : ∀ a, p.accountShares.val (a, id) = q.accountShares.val (a, id)) :
    p.holdings id = q.holdings id := by
  ext a
  exact h a

/-- Writing the shares of one account updates its holding. -/
theorem holdings_of_set {p q : Pools A} {id n : ℕ} {who : A}
    (h : q.accountShares = p.accountShares.set (who, id) n) :
    q.holdings id = (p.holdings id).update who n := by
  classical
  ext a
  rw [holdings_apply, h, StorageMap.val_set, Finsupp.coe_update, Function.update_apply]
  simp only [Prod.mk.injEq, and_true, holdings_apply]

/-- The sum of the holdings goes with the one that is written. -/
theorem sharesHeld_of_set {p q : Pools A} (id : ℕ) {n : ℕ} {who : A}
    (h : q.accountShares = p.accountShares.set (who, id) n) :
    q.sharesHeld id + p.accountShares.val (who, id) = p.sharesHeld id + n := by
  unfold sharesHeld
  rw [holdings_of_set h]
  exact Finsupp.sum_update_add (p.holdings id) who n (fun _ k => k) (fun _ => rfl)
    (fun _ _ _ => rfl)

/-- The supply of the vault is the stored total, as long as that covers the accounts. -/
theorem vault_supply {p : Pools A} {id : ℕ} (h : p.sharesHeld id ≤ p.poolShares.val id) :
    (p.vault id).supply = p.poolShares.val id := by
  show p.sharesHeld id + (p.poolShares.val id - p.sharesHeld id) = _
  omega

/-- One account owns no more than all of them. -/
theorem accountShares_le_held (p : Pools A) (id : ℕ) (a : A) :
    p.accountShares.val (a, id) ≤ p.sharesHeld id :=
  Vault.holdings_le_held (p.vault id) a

/-- An empty pool satisfies the invariant. -/
theorem poolInv_of_empty {p : Pools A} {id : ℕ} (hheld : ∀ a, p.accountShares.val (a, id) = 0)
    (hshares : p.poolShares.val id = 0) (hbalance : p.poolBalance.val id = 0) :
    p.PoolInv id := by
  have hzero : p.holdings id = 0 := by
    ext a
    exact hheld a
  have hsum : p.sharesHeld id = 0 := by
    unfold sharesHeld
    rw [hzero]
    exact Finsupp.sum_zero_index
  have hle : p.sharesHeld id ≤ p.poolShares.val id := by omega
  refine ⟨hle, ?_, ?_, ?_⟩
  · intro _
    exact hbalance
  · show minLiquidity ∣ p.poolShares.val id - p.sharesHeld id
    rw [hshares, Nat.zero_sub]
    exact dvd_zero _
  · intro hne
    rw [vault_supply hle] at hne
    exact absurd hshares hne

/-! ## Each operation is a vault step -/

omit [DecidableEq A] in
/-- Two vaults are equal when they agree on holdings, supply and assets. -/
private theorem vault_eq {v w : Vault A} (hh : v.holdings = w.holdings)
    (hs : v.supply = w.supply) (ha : v.assets = w.assets) : v = w := by
  cases v
  cases w
  simp only [Vault.supply, Vault.held] at hh hs ha ⊢
  subst hh ha
  simp only [Vault.mk.injEq, true_and, and_true]
  omega

/-- Pool `id` of `q` is that of `p` after at most one vault step, by which only
`a` gives shares up. -/
structure StepAt (a : Option A) (id : ℕ) (p q : Pools A) : Prop where
  held_le : q.sharesHeld id ≤ q.poolShares.val id
  step : q.vault id = p.vault id ∨ Vault.Step 10 minLiquidity a (p.vault id) (q.vault id)

/-- A pool that is not written does not step. -/
theorem stepAt_of_frame {a : Option A} {id : ℕ} {p q : Pools A} (h : p.PoolInv id)
    (hacc : ∀ b, q.accountShares.val (b, id) = p.accountShares.val (b, id))
    (hS : q.poolShares.val id = p.poolShares.val id)
    (hB : q.poolBalance.val id = p.poolBalance.val id) : StepAt a id p q := by
  have hh : q.holdings id = p.holdings id := holdings_congr hacc
  have hheld : q.sharesHeld id = p.sharesHeld id := by
    unfold sharesHeld
    rw [hh]
  refine ⟨?_, Or.inl ?_⟩
  · rw [hheld, hS]
    exact h.held_le
  · simp only [vault, hh, hheld, hS, hB]

/-- Pool `id` of `q` is a vault that comes from the one of `p`. -/
structure VaultAt (id : ℕ) (q : Pools A) (v : Vault A) : Prop where
  held_le : q.sharesHeld id ≤ q.poolShares.val id
  vault : q.vault id = v

/-- A pool that is read as the vault after a step has made that step. -/
theorem VaultAt.stepAt {a : Option A} {id : ℕ} {p q : Pools A} {v : Vault A}
    (h : q.VaultAt id v) (hstep : Vault.Step 10 minLiquidity a (p.vault id) v) :
    StepAt a id p q := by
  refine ⟨h.held_le, Or.inr ?_⟩
  rw [h.vault]
  exact hstep

/-- Writes that mint shares for an amount are a deposit. -/
theorem vaultAt_deposit {id x : ℕ} (who : A) {p q : Pools A} (h : p.PoolInv id)
    (hacc : q.accountShares = p.accountShares.set (who, id) (p.accountShares.val (who, id) +
      toShares 10 x (p.poolShares.val id) (p.poolBalance.val id)))
    (hS : q.poolShares.val id = p.poolShares.val id +
      toShares 10 x (p.poolShares.val id) (p.poolBalance.val id) +
      if p.poolShares.val id = 0 then minLiquidity else 0)
    (hB : q.poolBalance.val id = p.poolBalance.val id + x) :
    q.VaultAt id ((p.vault id).deposit 10 minLiquidity who x) := by
  have hsup := vault_supply h.held_le
  have hheld := sharesHeld_of_set id hacc
  have hle : q.sharesHeld id ≤ q.poolShares.val id := by
    have := h.held_le
    omega
  have hshares : toShares 10 x (p.vault id).supply (p.vault id).assets =
      toShares 10 x (p.poolShares.val id) (p.poolBalance.val id) := by
    rw [hsup]
    rfl
  refine ⟨hle, vault_eq ?_ ?_ hB⟩
  · show q.holdings id = (p.holdings id).update who _
    rw [hshares]
    exact holdings_of_set hacc
  · rw [vault_supply hle, Vault.supply_deposit, hshares, hsup, hS]

/-- Writes that only mint dead shares touch the vault. -/
theorem vaultAt_touch {id : ℕ} {p q : Pools A} (h : p.PoolInv id)
    (hacc : q.accountShares = p.accountShares) (h0 : p.poolShares.val id = 0)
    (hS : q.poolShares.val id = minLiquidity)
    (hB : q.poolBalance.val id = p.poolBalance.val id) :
    q.VaultAt id ((p.vault id).touch minLiquidity) := by
  have hsup := vault_supply h.held_le
  have hh : q.holdings id = p.holdings id := holdings_congr (by rw [hacc]; exact fun _ => rfl)
  have hle : q.sharesHeld id ≤ q.poolShares.val id := by
    have := h.held_le
    unfold sharesHeld at this ⊢
    rw [hh]
    omega
  refine ⟨hle, vault_eq hh ?_ hB⟩
  rw [vault_supply hle, Vault.supply_touch, hsup, hS, h0, Nat.zero_add]

/-- Writes that burn shares and pay their price are a withdrawal. -/
theorem vaultAt_withdraw {id n : ℕ} {who : A} {p q : Pools A} (h : p.PoolInv id)
    (hn : n ≤ p.accountShares.val (who, id))
    (hacc : q.accountShares = p.accountShares.set (who, id) (p.accountShares.val (who, id) - n))
    (hS : q.poolShares.val id = p.poolShares.val id - n)
    (hB : q.poolBalance.val id = p.poolBalance.val id -
      toAssets 10 n (p.poolShares.val id) (p.poolBalance.val id)) :
    q.VaultAt id ((p.vault id).withdraw 10 who n) := by
  have hsup := vault_supply h.held_le
  have hheld := sharesHeld_of_set id hacc
  have hown := accountShares_le_held p id who
  have hle : q.sharesHeld id ≤ q.poolShares.val id := by
    have := h.held_le
    omega
  have hw := Vault.supply_withdraw 10 (p.vault id) (i := who) (n := n) hn
  refine ⟨hle, vault_eq (holdings_of_set hacc) ?_ ?_⟩
  · rw [vault_supply hle]
    omega
  · show q.poolBalance.val id = p.poolBalance.val id -
      toAssets 10 n (p.vault id).supply (p.poolBalance.val id)
    rw [hsup, hB]

/-- Writes that move shares between accounts are a transfer. -/
theorem stepAt_transfer {id n : ℕ} {who dest : A} {p q : Pools A} (h : p.PoolInv id)
    (hne : who ≠ dest) (hn : n ≤ p.accountShares.val (who, id))
    (hacc : q.accountShares = (p.accountShares.set (who, id) (p.accountShares.val (who, id) - n)).set
      (dest, id) (p.accountShares.val (dest, id) + n))
    (hS : q.poolShares.val id = p.poolShares.val id)
    (hB : q.poolBalance.val id = p.poolBalance.val id) : StepAt (some who) id p q := by
  classical
  have hsup := vault_supply h.held_le
  have hh : q.holdings id =
      ((p.holdings id).update who (p.holdings id who - n)).update dest (p.holdings id dest + n) := by
    ext a
    rw [holdings_apply, hacc]
    simp only [StorageMap.val_set, Finsupp.coe_update, Function.update_apply, Prod.mk.injEq,
      and_true, holdings_apply]
  have hvsup : ((p.vault id).transfer who dest n).supply = (p.vault id).supply :=
    Vault.supply_transfer (p.vault id) hne hn
  -- what one account loses the other one gains
  have hheld : q.sharesHeld id = p.sharesHeld id := by
    have : ((p.vault id).transfer who dest n).held + (p.vault id).dead =
        p.sharesHeld id + (p.vault id).dead := hvsup
    unfold sharesHeld
    rw [hh]
    exact Nat.add_right_cancel this
  have hle : q.sharesHeld id ≤ q.poolShares.val id := by
    rw [hheld, hS]
    exact h.held_le
  have hv : q.VaultAt id ((p.vault id).transfer who dest n) := by
    refine ⟨hle, vault_eq hh ?_ hB⟩
    rw [vault_supply hle, hvsup, hsup, hS]
  exact hv.stepAt (.transfer _ who dest n hne hn)

/-- Writes that add to the balance are a donation, with dead shares in an empty pool. -/
theorem vaultAt_donate {id x : ℕ} {p q : Pools A} (h : p.PoolInv id)
    (hacc : q.accountShares = p.accountShares)
    (hS : q.poolShares.val id = p.poolShares.val id +
      if p.poolBalance.val id = 0 ∨ p.poolShares.val id = 0 then minLiquidity else 0)
    (hB : q.poolBalance.val id = p.poolBalance.val id + x) :
    q.VaultAt id ((p.vault id).donate minLiquidity x) := by
  have hsup := vault_supply h.held_le
  have hh : q.holdings id = p.holdings id := holdings_congr (by rw [hacc]; exact fun _ => rfl)
  have hle : q.sharesHeld id ≤ q.poolShares.val id := by
    have := h.held_le
    unfold sharesHeld at this ⊢
    rw [hh]
    omega
  refine ⟨hle, vault_eq hh ?_ hB⟩
  rw [vault_supply hle, Vault.supply_donate, hsup, hS]
  rfl

/-! ### Deposits -/

/-- A deposit whose conversion is not zero: shares to the account, balance to
the pool, dead shares when the pool had none. -/
theorem handleIncrease_of_ne {ar : Arith} {p : Pools A} (who : A) {id x : ℕ}
    (h : convertToShares ar x (p.poolShares.val id) (p.poolBalance.val id) ≠ 0) :
    p.handleIncrease ar who id x =
      ((if p.poolShares.val id = 0 then p.mintMinLiquidity ar id else p).increaseAccount ar who id x
        (convertToShares ar x (p.poolShares.val id) (p.poolBalance.val id)),
       some (convertToShares ar x (p.poolShares.val id) (p.poolBalance.val id))) := by
  have hB : (if p.poolShares.val id = 0 then p.mintMinLiquidity ar id else p).poolBalance =
      p.poolBalance := by
    split <;> rfl
  simp only [handleIncrease, hB, h, if_false]

/-- A deposit whose conversion is zero credits nobody. -/
theorem handleIncrease_of_eq {ar : Arith} {p : Pools A} (who : A) {id x : ℕ}
    (h : convertToShares ar x (p.poolShares.val id) (p.poolBalance.val id) = 0) :
    p.handleIncrease ar who id x =
      (if p.poolShares.val id = 0 then p.mintMinLiquidity ar id else p, none) := by
  have hB : (if p.poolShares.val id = 0 then p.mintMinLiquidity ar id else p).poolBalance =
      p.poolBalance := by
    split <;> rfl
  simp only [handleIncrease, hB, h, if_true]

/-- The pools after a credited deposit. -/
theorem handleIncrease_some {ar : Arith} {p : Pools A} {who : A} {id x n : ℕ}
    (h : (p.handleIncrease ar who id x).2 = some n) :
    n = convertToShares ar x (p.poolShares.val id) (p.poolBalance.val id) ∧ n ≠ 0 ∧
    (p.handleIncrease ar who id x).1 =
      (if p.poolShares.val id = 0 then p.mintMinLiquidity ar id else p).increaseAccount ar who id x
        n := by
  by_cases hx : convertToShares ar x (p.poolShares.val id) (p.poolBalance.val id) = 0
  · rw [handleIncrease_of_eq who hx] at h
    cases h
  · rw [handleIncrease_of_ne who hx] at h ⊢
    cases h
    exact ⟨rfl, hx, rfl⟩

/-- The pools after a deposit that was not credited. -/
theorem handleIncrease_none {ar : Arith} {p : Pools A} {who : A} {id x : ℕ}
    (h : (p.handleIncrease ar who id x).2 = none) :
    convertToShares ar x (p.poolShares.val id) (p.poolBalance.val id) = 0 ∧
    (p.handleIncrease ar who id x).1 =
      if p.poolShares.val id = 0 then p.mintMinLiquidity ar id else p := by
  by_cases hx : convertToShares ar x (p.poolShares.val id) (p.poolBalance.val id) = 0
  · rw [handleIncrease_of_eq who hx]
    exact ⟨hx, rfl⟩
  · rw [handleIncrease_of_ne who hx] at h
    cases h

/-- A credited deposit is one of the vault. -/
theorem vaultAt_handleIncrease {p : Pools A} {who : A} {id x n : ℕ} (h : p.PoolInv id)
    (hn : (p.handleIncrease .unbounded who id x).2 = some n) :
    (p.handleIncrease .unbounded who id x).1.VaultAt id
      ((p.vault id).deposit 10 minLiquidity who x) := by
  rcases handleIncrease_some hn with ⟨hshares, _, heq⟩
  rw [convertToShares_unbounded] at hshares
  rw [heq, hshares]
  by_cases hS : p.poolShares.val id = 0
  · simp only [hS, if_true]
    refine vaultAt_deposit who h ?_ ?_ ?_
    · simp [increaseAccount, mintMinLiquidity, hS]
    · simp only [increaseAccount, mintMinLiquidity, StorageMap.val_set_self,
        Arith.add_unbounded, hS, if_true]
      omega
    · simp [increaseAccount, mintMinLiquidity]
  · simp only [hS, if_false]
    refine vaultAt_deposit who h ?_ ?_ ?_
    · simp [increaseAccount]
    · simp [increaseAccount, hS]
    · simp [increaseAccount]

/-- A deposit that is not credited leaves the vault alone, but for the dead shares of a first
one. -/
theorem vaultAt_handleIncrease_none {p : Pools A} {who : A} {id x : ℕ} (h : p.PoolInv id)
    (hn : (p.handleIncrease .unbounded who id x).2 = none) :
    (p.poolShares.val id = 0 ∧ (p.handleIncrease .unbounded who id x).1.VaultAt id
      ((p.vault id).touch minLiquidity)) ∨ (p.handleIncrease .unbounded who id x).1 = p := by
  rw [(handleIncrease_none hn).2]
  by_cases hS : p.poolShares.val id = 0
  · left
    simp only [hS, if_true]
    refine ⟨trivial, vaultAt_touch h rfl hS ?_ rfl⟩
    simp [mintMinLiquidity, hS]
  · right
    simp only [hS, if_false]

/-- The deposit of the pallet, with or without dead shares, is one step of the vault. -/
theorem stepAt_handleIncrease {p : Pools A} {who : A} {id x : ℕ} (h : p.PoolInv id) :
    StepAt none id p (p.handleIncrease .unbounded who id x).1 := by
  cases hn : (p.handleIncrease .unbounded who id x).2 with
  | none =>
      rcases vaultAt_handleIncrease_none h hn with ⟨hS, hv⟩ | heq
      · exact hv.stepAt (.touch _ ((vault_supply h.held_le).trans hS))
      · rw [heq]
        exact ⟨h.held_le, Or.inl rfl⟩
  | some n => exact (vaultAt_handleIncrease h hn).stepAt (.deposit _ who x)

/-- A redemption is one of the vault. -/
theorem vaultAt_decreaseAccount {p : Pools A} {who : A} {id n : ℕ} (h : p.PoolInv id)
    (hn : n ≤ p.accountShares.val (who, id)) :
    (p.decreaseAccount who id (p.sharesToBalance .unbounded id n) n).VaultAt id
      ((p.vault id).withdraw 10 who n) := by
  refine vaultAt_withdraw h hn rfl ?_ ?_
  · simp [decreaseAccount]
  · simp [decreaseAccount, sharesToBalance, convertToBalance_unbounded]

/-- A donation is one of the vault. -/
theorem vaultAt_doIncrease {p : Pools A} {id : ℕ} (h : p.PoolInv id) (x : ℕ) :
    (p.doIncrease .unbounded id x).VaultAt id ((p.vault id).donate minLiquidity x) := by
  refine vaultAt_donate h ?_ ?_ ?_
  · simp only [doIncrease]
    split <;> rfl
  · simp only [doIncrease]
    split <;> simp [mintMinLiquidity]
  · simp only [doIncrease]
    split <;> simp [mintMinLiquidity]

/-! ### Every operation, at every pool -/

/-- An operation writes no pool but its own. -/
theorem apply_frame (ar : Arith) (p : Pools A) (op : PoolOp A) {id : ℕ} (hid : op.target ≠ id) :
    (∀ b, (op.apply ar p).accountShares.val (b, id) = p.accountShares.val (b, id)) ∧
    (op.apply ar p).poolShares.val id = p.poolShares.val id ∧
    (op.apply ar p).poolBalance.val id = p.poolBalance.val id := by
  have hne : id ≠ op.target := fun h => hid h.symm
  cases op with
  | increase who j x =>
      simp only [PoolOp.target] at hne
      simp only [PoolOp.apply, handleIncrease]
      split <;> split <;> simp [increaseAccount, mintMinLiquidity, hne]
  | remove who j n =>
      simp only [PoolOp.target] at hne
      simp [PoolOp.apply, decreaseAccount, hne]
  | transfer who dest j n =>
      simp only [PoolOp.target] at hne
      simp [PoolOp.apply, decreaseAccount, increaseAccount, hne]
  | donate j x =>
      simp only [PoolOp.target] at hne
      simp only [PoolOp.apply, doIncrease]
      split <;> simp [mintMinLiquidity, hne]

/-- In exact arithmetic an allowed operation is a vault step of its own pool,
by which only the account giving shares up can lose. -/
theorem stepAt_apply {p : Pools A} {op : PoolOp A} (hop : op.Allowed p) (id : ℕ)
    (h : p.PoolInv id) : StepAt (op.loser id) id p (op.apply .unbounded p) := by
  by_cases hid : op.target = id
  · subst hid
    cases op with
    | increase who j x => exact stepAt_handleIncrease h
    | remove who j n =>
        simp only [PoolOp.loser, PoolOp.target, if_true]
        exact (vaultAt_decreaseAccount h hop).stepAt (.withdraw _ who n hop)
    | transfer who dest j n =>
        simp only [PoolOp.loser, PoolOp.target, if_true]
        have hne : dest ≠ who := fun heq => hop.1 heq.symm
        refine stepAt_transfer (n := n) h hop.1 hop.2 ?_ ?_ ?_
        · simp [PoolOp.apply, decreaseAccount, increaseAccount, hne]
        · -- what is given up is part of the pool's shares, so it comes back
          have hle : n ≤ p.poolShares.val j :=
            hop.2.trans ((accountShares_le_held p j who).trans h.held_le)
          simp only [PoolOp.apply, decreaseAccount, increaseAccount, StorageMap.val_set_self,
            Arith.add_unbounded]
          omega
        · simp [PoolOp.apply, decreaseAccount, increaseAccount]
    | donate j x => exact (vaultAt_doIncrease h x).stepAt (.donate _ x)
  · rcases apply_frame .unbounded p op hid with ⟨hacc, hS, hB⟩
    exact stepAt_of_frame h hacc hS hB

/-! ## Invariant and prices along pool operations -/

/-- The invariant is kept by every step. -/
theorem poolInv_of_stepAt {a : Option A} {id : ℕ} {p q : Pools A} (h : p.PoolInv id)
    (hs : StepAt a id p q) : q.PoolInv id := by
  refine ⟨hs.held_le, ?_⟩
  rcases hs.step with heq | hstep
  · rw [heq]
    exact h.sound
  · exact Vault.sound_of_step (by decide) h.sound hstep

/-- A touched pool stays touched. -/
theorem poolShares_ne_zero_of_stepAt {a : Option A} {id : ℕ} {p q : Pools A} (h : p.PoolInv id)
    (hs : StepAt a id p q) (hne : p.poolShares.val id ≠ 0) : q.poolShares.val id ≠ 0 := by
  rw [← vault_supply h.held_le] at hne
  rw [← vault_supply hs.held_le]
  rcases hs.step with heq | hstep
  · rw [heq]
    exact hne
  · exact Vault.supply_ne_zero_of_step (by decide) h.sound hstep hne

/-- What an account's shares of a pool convert to. -/
def accountValue (ar : Arith) (p : Pools A) (id : ℕ) (a : A) : ℕ :=
  p.sharesToBalance ar id (p.accountShares.val (a, id))

/-- The price of an account's shares is what its holding is worth in the vault. -/
theorem accountValue_eq_worth {id : ℕ} {p : Pools A} (h : p.sharesHeld id ≤ p.poolShares.val id)
    (a : A) : p.accountValue .unbounded id a = (p.vault id).worth 10 a := by
  unfold accountValue sharesToBalance Vault.worth
  rw [convertToBalance_unbounded, vault_supply h]
  rfl

/-- Only the account giving shares up can lose value. -/
theorem accountValue_le_of_stepAt {a : Option A} {id : ℕ} {p q : Pools A} (h : p.PoolInv id)
    (hs : StepAt a id p q) {b : A} (hb : a ≠ some b) :
    p.accountValue .unbounded id b ≤ q.accountValue .unbounded id b := by
  rw [accountValue_eq_worth h.held_le, accountValue_eq_worth hs.held_le]
  rcases hs.step with heq | hstep
  · rw [heq]
  · exact Vault.worth_le_of_step (by decide) (by decide) h.sound hstep hb

omit [DecidableEq A] in
/-- A pool covers whatever part of its shares is redeemed. -/
theorem sharesToBalance_le {id n : ℕ} {p : Pools A} (hn : n ≤ p.poolShares.val id) :
    p.sharesToBalance .unbounded id n ≤ p.poolBalance.val id := by
  unfold sharesToBalance
  rw [convertToBalance_unbounded]
  exact Vault.toAssets_le (by decide) hn

/-- All account shares together convert to no more than the pool's balance. -/
theorem total_accountValue_le {id : ℕ} {p : Pools A} (h : p.PoolInv id) (as : Finset A) :
    ∑ a ∈ as, p.accountValue .unbounded id a ≤ p.poolBalance.val id := by
  have hsub : ∑ a ∈ as, p.accountValue .unbounded id a ≤
      (p.holdings id).sum fun _ n => toAssets 10 n (p.vault id).supply (p.vault id).assets := by
    simp only [accountValue_eq_worth h.held_le]
    apply Finset.sum_le_sum_of_ne_zero
    intro a _ hne
    rw [Finsupp.mem_support_iff]
    intro h0
    apply hne
    unfold Vault.worth
    rw [show (p.vault id).holdings a = 0 from h0, Vault.toAssets_zero]
  refine hsub.trans ?_
  exact Vault.total_worth_le_assets (by decide) (p.vault id)

/-! ## Several operations in a row -/

/-- `q` comes from `p` by allowed operations in which only `who` gives shares
up. -/
inductive Reach (ar : Arith) (who : Option A) : Pools A → Pools A → Prop
  | refl (p : Pools A) : Reach ar who p p
  | head {p q : Pools A} (op : PoolOp A) (hop : op.Allowed p)
      (hwho : ∀ id a, op.loser id = some a → who = some a)
      (hrest : Reach ar who (op.apply ar p) q) : Reach ar who p q

/-- One operation. -/
theorem Reach.single {ar : Arith} {who : Option A} {p : Pools A} (op : PoolOp A)
    (hop : op.Allowed p) (hwho : ∀ id a, op.loser id = some a → who = some a) :
    Reach ar who p (op.apply ar p) :=
  .head op hop hwho (.refl _)

/-- Two sequences of operations make one. -/
theorem Reach.trans {ar : Arith} {who : Option A} {p q r : Pools A} (h₁ : Reach ar who p q)
    (h₂ : Reach ar who q r) : Reach ar who p r := by
  induction h₁ with
  | refl _ => exact h₂
  | head op hop hwho _ ih => exact .head op hop hwho (ih h₂)

/-- The invariant is kept by every sequence of operations. -/
theorem poolInv_of_reach {who : Option A} {id : ℕ} {p q : Pools A}
    (hr : Reach .unbounded who p q) (h : p.PoolInv id) : q.PoolInv id := by
  induction hr with
  | refl _ => exact h
  | head op hop _ _ ih => exact ih (poolInv_of_stepAt h (stepAt_apply hop id h))

/-- A pool that has shares keeps some: the dead ones stay. -/
theorem poolShares_ne_zero_of_reach {who : Option A} {id : ℕ} {p q : Pools A}
    (hr : Reach .unbounded who p q) (h : p.PoolInv id) (hne : p.poolShares.val id ≠ 0) :
    q.poolShares.val id ≠ 0 := by
  induction hr with
  | refl _ => exact hne
  | head op hop _ _ ih =>
      have hs := stepAt_apply hop id h
      exact ih (poolInv_of_stepAt h hs) (poolShares_ne_zero_of_stepAt h hs hne)

/-- No other account loses value along a sequence of operations. -/
theorem accountValue_le_of_reach {who : Option A} {id : ℕ} {p q : Pools A}
    (hr : Reach .unbounded who p q) (h : p.PoolInv id) {b : A} (hb : who ≠ some b) :
    p.accountValue .unbounded id b ≤ q.accountValue .unbounded id b := by
  induction hr with
  | refl _ => exact le_rfl
  | head op hop hwho _ ih =>
      have hs := stepAt_apply hop id h
      have hlose : op.loser id ≠ some b := fun heq => hb (hwho id b heq)
      exact (accountValue_le_of_stepAt h hs hlose).trans (ih (poolInv_of_stepAt h hs))

/-! ## Machine values -/

/-- The counters of a pool fit `u128`. -/
def Fits (p : Pools A) (id : ℕ) : Prop :=
  p.poolShares.val id ≤ u128Max ∧ p.poolBalance.val id ≤ u128Max

/-- A sum that saturates fits. -/
theorem add_u128_le (a b : ℕ) : u128.add a b ≤ u128Max := Nat.min_le_right _ _

omit [DecidableEq A] in
/-- Dead shares saturate too. -/
theorem mintMinLiquidity_fits {p : Pools A} {id j : ℕ} (h : p.Fits id) :
    (p.mintMinLiquidity u128 j).Fits id := by
  refine ⟨?_, h.2⟩
  simp only [mintMinLiquidity, StorageMap.val_set]
  split
  · exact add_u128_le _ _
  · exact h.1

/-- What is added to an account and to the totals fits. -/
theorem increaseAccount_fits {p : Pools A} {id j x n : ℕ} {who : A} (h : p.Fits id) :
    (p.increaseAccount u128 who j x n).Fits id := by
  constructor <;> simp only [increaseAccount, StorageMap.val_set] <;> split
  · exact add_u128_le _ _
  · exact h.1
  · exact add_u128_le _ _
  · exact h.2

/-- What is taken away leaves less than before. -/
theorem decreaseAccount_fits {p : Pools A} {id j x n : ℕ} {who : A} (h : p.Fits id) :
    (p.decreaseAccount who j x n).Fits id := by
  constructor <;> simp only [decreaseAccount, StorageMap.val_set] <;> split
  · next hj => exact (Nat.sub_le _ _).trans (hj ▸ h.1)
  · exact h.1
  · next hj => exact (Nat.sub_le _ _).trans (hj ▸ h.2)
  · exact h.2

/-- Machine arithmetic keeps the counters in range. -/
theorem apply_fits {p : Pools A} {op : PoolOp A} {id : ℕ} (h : p.Fits id) :
    (op.apply u128 p).Fits id := by
  cases op with
  | increase who j x =>
      simp only [PoolOp.apply, handleIncrease]
      split <;> split
      · exact mintMinLiquidity_fits h
      · exact increaseAccount_fits (mintMinLiquidity_fits h)
      · exact h
      · exact increaseAccount_fits h
  | remove who j n => exact decreaseAccount_fits h
  | transfer who dest j n => exact increaseAccount_fits (decreaseAccount_fits h)
  | donate j x =>
      have hp : (if p.poolBalance.val j = 0 ∨ p.poolShares.val j = 0
          then p.mintMinLiquidity u128 j else p).Fits id := by
        split
        · exact mintMinLiquidity_fits h
        · exact h
      refine ⟨hp.1, ?_⟩
      simp only [PoolOp.apply, doIncrease, StorageMap.val_set]
      split
      · exact add_u128_le _ _
      · exact hp.2

/-- Every sequence of operations keeps the counters in range. -/
theorem fits_of_reach {who : Option A} {id : ℕ} {p q : Pools A} (hr : Reach u128 who p q)
    (h : p.Fits id) : q.Fits id := by
  induction hr with
  | refl _ => exact h
  | head op _ _ _ ih => exact ih (apply_fits h)

omit [DecidableEq A] in
/-- On a pool that fits, the machine prices its shares exactly. -/
theorem sharesToBalance_u128 {p : Pools A} {id n : ℕ} (h : p.Fits id)
    (hn : n ≤ p.poolShares.val id) :
    p.sharesToBalance u128 id n = p.sharesToBalance .unbounded id n :=
  convertToBalance_u128 hn h.1 h.2

/-- An account's shares are priced without saturation in a pool that fits. -/
theorem accountValue_u128 {p : Pools A} {id : ℕ} (h : p.Fits id)
    (hheld : p.sharesHeld id ≤ p.poolShares.val id) (a : A) :
    p.accountValue u128 id a = p.accountValue .unbounded id a :=
  sharesToBalance_u128 h ((accountShares_le_held p id a).trans hheld)

end Pools

namespace State

/-! ## The pools in the chain state

The subnet family also counts what accounts move in and out of a subnet
(`SubnetNetFlow`); rewards and donations are not counted. -/

/-- Add to `SubnetNetFlow`, a saturating `i128`; validators have none. -/
def addNetFlow (s : State A) (k : PoolKind) (id : ℕ) (amount : ℤ) : State A :=
  match k with
  | .subnet => { s with subnets := { s.subnets with
      subnetNetFlow := s.subnets.subnetNetFlow.set id
        (clampSigned 128 (s.subnets.subnetNetFlow.getD id 0 + amount)) } }
  | .validator => s

/-- `increase_account_delegate_stake` and its validator twin. -/
def increaseAccountStake (ar : Arith) (s : State A) (k : PoolKind) (who : A)
    (id amount shares : ℕ) : State A :=
  (s.setPools k ((s.pools k).increaseAccount ar who id amount shares)).addNetFlow k id
    (asSigned 128 amount)

/-- `decrease_account_delegate_stake` and its validator twin. -/
def decreaseAccountStake (s : State A) (k : PoolKind) (who : A) (id amount shares : ℕ) : State A :=
  (s.setPools k ((s.pools k).decreaseAccount who id amount shares)).addNetFlow k id
    (-asSigned 128 amount)

/-- `handle_increase_account_delegate_stake` and its validator twin: the state,
and the shares minted unless the conversion rounds to zero. -/
def handleIncreaseAccountStake (ar : Arith) (s : State A) (k : PoolKind) (who : A)
    (id amount : ℕ) : State A × Option ℕ :=
  let r := (s.pools k).handleIncrease ar who id amount
  match r.2 with
  | none => (s.setPools k r.1, none)
  | some shares => ((s.setPools k r.1).addNetFlow k id (asSigned 128 amount), some shares)

/-- `do_increase_delegate_stake` and its validator twin. -/
def doIncreaseStake (ar : Arith) (s : State A) (k : PoolKind) (id amount : ℕ) : State A :=
  s.setPools k ((s.pools k).doIncrease ar id amount)

omit [DecidableEq A] in
@[simp] theorem addNetFlow_pools (s : State A) (k l : PoolKind) (id : ℕ) (x : ℤ) :
    (s.addNetFlow k id x).pools l = s.pools l := by
  cases k <;> cases l <;> rfl

omit [DecidableEq A] in
@[simp] theorem addNetFlow_stake (s : State A) (k : PoolKind) (id : ℕ) (x : ℤ) :
    (s.addNetFlow k id x).stake = s.stake := by
  cases k <;> rfl

omit [DecidableEq A] in
@[simp] theorem addNetFlow_swaps (s : State A) (k : PoolKind) (id : ℕ) (x : ℤ) :
    (s.addNetFlow k id x).swaps = s.swaps := by
  cases k <;> rfl

/-- A delegation is a deposit in the pool. -/
@[simp] theorem handleIncreaseAccountStake_pools (ar : Arith) (s : State A) (k : PoolKind)
    (who : A) (id x : ℕ) :
    (s.handleIncreaseAccountStake ar k who id x).1.pools k =
      ((s.pools k).handleIncrease ar who id x).1 := by
  simp only [handleIncreaseAccountStake]
  split <;> simp

/-- A delegation returns the shares that the pool gives for it. -/
@[simp] theorem handleIncreaseAccountStake_snd (ar : Arith) (s : State A) (k : PoolKind)
    (who : A) (id x : ℕ) :
    (s.handleIncreaseAccountStake ar k who id x).2 =
      ((s.pools k).handleIncrease ar who id x).2 := by
  simp only [handleIncreaseAccountStake]
  split <;> simp_all

/-- A delegation leaves the other family of pools alone. -/
theorem handleIncreaseAccountStake_pools_ne (ar : Arith) (s : State A) {k l : PoolKind}
    (who : A) (id x : ℕ) (h : l ≠ k) :
    (s.handleIncreaseAccountStake ar k who id x).1.pools l = s.pools l := by
  simp only [handleIncreaseAccountStake]
  split <;> simp [pools_setPools_ne _ h]

@[simp] theorem handleIncreaseAccountStake_stake (ar : Arith) (s : State A) (k : PoolKind)
    (who : A) (id x : ℕ) :
    (s.handleIncreaseAccountStake ar k who id x).1.stake = s.stake := by
  simp only [handleIncreaseAccountStake]
  split <;> simp

@[simp] theorem handleIncreaseAccountStake_swaps (ar : Arith) (s : State A) (k : PoolKind)
    (who : A) (id x : ℕ) :
    (s.handleIncreaseAccountStake ar k who id x).1.swaps = s.swaps := by
  simp only [handleIncreaseAccountStake]
  split <;> simp

/-- Shares are taken from one account of the pool. -/
@[simp] theorem decreaseAccountStake_pools (s : State A) (k : PoolKind) (who : A) (id x n : ℕ) :
    (s.decreaseAccountStake k who id x n).pools k = (s.pools k).decreaseAccount who id x n := by
  simp [decreaseAccountStake]

theorem decreaseAccountStake_pools_ne (s : State A) {k l : PoolKind} (who : A) (id x n : ℕ)
    (h : l ≠ k) : (s.decreaseAccountStake k who id x n).pools l = s.pools l := by
  simp [decreaseAccountStake, pools_setPools_ne _ h]

@[simp] theorem decreaseAccountStake_stake (s : State A) (k : PoolKind) (who : A) (id x n : ℕ) :
    (s.decreaseAccountStake k who id x n).stake = s.stake := by
  simp [decreaseAccountStake]

@[simp] theorem decreaseAccountStake_swaps (s : State A) (k : PoolKind) (who : A) (id x n : ℕ) :
    (s.decreaseAccountStake k who id x n).swaps = s.swaps := by
  simp [decreaseAccountStake]

/-- Shares are given to one account of the pool. -/
@[simp] theorem increaseAccountStake_pools (ar : Arith) (s : State A) (k : PoolKind) (who : A)
    (id x n : ℕ) :
    (s.increaseAccountStake ar k who id x n).pools k =
      (s.pools k).increaseAccount ar who id x n := by
  simp [increaseAccountStake]

theorem increaseAccountStake_pools_ne (ar : Arith) (s : State A) {k l : PoolKind} (who : A)
    (id x n : ℕ) (h : l ≠ k) : (s.increaseAccountStake ar k who id x n).pools l = s.pools l := by
  simp [increaseAccountStake, pools_setPools_ne _ h]

@[simp] theorem increaseAccountStake_stake (ar : Arith) (s : State A) (k : PoolKind) (who : A)
    (id x n : ℕ) : (s.increaseAccountStake ar k who id x n).stake = s.stake := by
  simp [increaseAccountStake]

@[simp] theorem increaseAccountStake_swaps (ar : Arith) (s : State A) (k : PoolKind) (who : A)
    (id x n : ℕ) : (s.increaseAccountStake ar k who id x n).swaps = s.swaps := by
  simp [increaseAccountStake]

omit [DecidableEq A] in
/-- A reward or a donation adds to the balance of a pool. -/
@[simp] theorem doIncreaseStake_pools (ar : Arith) (s : State A) (k : PoolKind) (id x : ℕ) :
    (s.doIncreaseStake ar k id x).pools k = (s.pools k).doIncrease ar id x := by
  simp [doIncreaseStake]

omit [DecidableEq A] in
theorem doIncreaseStake_pools_ne (ar : Arith) (s : State A) {k l : PoolKind} (id x : ℕ)
    (h : l ≠ k) : (s.doIncreaseStake ar k id x).pools l = s.pools l := by
  simp [doIncreaseStake, pools_setPools_ne _ h]

end State

end Hypertensor
