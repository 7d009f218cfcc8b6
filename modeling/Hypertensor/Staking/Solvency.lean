import Mathlib
import Hypertensor.Base.Run
import Hypertensor.Staking.System

/-!
# Hypertensor.Staking.Solvency — pools over whole runs

A delegate-stake pool that starts empty stays solvent whatever the accounts, the
hooks and the rest of the chain do, share transfers apart, and nobody loses value
by a step of somebody else.
-/

namespace Hypertensor

open Base

variable {A : Type} [DecidableEq A]

/-- A label that may occur in a solvent run of family `k`: nothing saturates,
and shares are not transferred. -/
def Op.Plain (cfg : Config A) (k : PoolKind) (s : State A) (op : Op A) : Prop :=
  op.NoSaturation cfg s ∧ op.transfers ≠ some k

instance (cfg : Config A) (k : PoolKind) (s : State A) (op : Op A) :
    Decidable (op.Plain cfg k s) :=
  inferInstanceAs (Decidable (_ ∧ _))

/-- Nothing was ever put into pool `id`. -/
structure Pools.Empty (p : Pools A) (id : ℕ) : Prop where
  accounts : ∀ a, p.accountShares.val (a, id) = 0
  shares : p.poolShares.val id = 0
  balance : p.poolBalance.val id = 0

/-! ## Run lemmas -/

section Run

variable {cfg : Config A} {k : PoolKind} {id : ℕ} {s : State A} {op : Op A} {ops : List (Op A)}

theorem poolOk_of_empty (h : (s.pools k).Empty id) : Op.PoolOk k id s := by
  refine ⟨Pools.poolInv_of_empty h.accounts h.shares h.balance, ?_, ?_⟩
  · rw [h.shares]
    exact Nat.zero_le _
  · rw [h.balance]
    exact Nat.zero_le _

theorem poolOk_run (h : Op.PoolOk k id s)
    (hrun : Along (Op.step cfg u128) (Op.Plain cfg k) s ops) :
    Op.PoolOk k id (run (Op.step cfg u128) s ops) := by
  refine run_invariant ?_ hrun h
  intro s op hop hs
  exact Op.poolOk_step hop.1 (fun ht => absurd ht hop.2) hs

/-- A pool with shares keeps some. -/
theorem poolShares_ne_zero_run (h : Op.PoolOk k id s)
    (hrun : Along (Op.step cfg u128) (Op.Plain cfg k) s ops)
    (hne : (s.pools k).poolShares.val id ≠ 0) :
    ((run (Op.step cfg u128) s ops).pools k).poolShares.val id ≠ 0 := by
  have hinv : Op.PoolOk k id (run (Op.step cfg u128) s ops) ∧
      ((run (Op.step cfg u128) s ops).pools k).poolShares.val id ≠ 0 := by
    refine run_invariant (I := fun s => Op.PoolOk k id s ∧ (s.pools k).poolShares.val id ≠ 0)
      ?_ hrun ⟨h, hne⟩
    intro s op hop hs
    have howned : op.transfers = some k → op.OwnedTransfer s := fun ht => absurd ht hop.2
    refine ⟨Op.poolOk_step hop.1 howned hs.1, ?_⟩
    rw [Op.step_eq_of_noSaturation hop.1]
    exact Pools.poolShares_ne_zero_of_reach (Op.step_reach cfg .unbounded s op k howned)
      hs.1.inv hs.2
  exact hinv.2

/-- A pool that is not empty has shares. -/
theorem poolShares_ne_zero_of_not_empty (h : Op.PoolOk k id s) (hne : ¬ (s.pools k).Empty id) :
    (s.pools k).poolShares.val id ≠ 0 := by
  intro h0
  apply hne
  have hsup := Pools.vault_supply h.inv.held_le
  refine ⟨?_, h0, h.inv.sound.assets_of_supply (hsup.trans h0)⟩
  intro a
  have hle := (Pools.accountShares_le_held (s.pools k) id a).trans h.inv.held_le
  omega

/-- What no account holds is a number of blocks of dead shares. -/
theorem dead_shares (h : Op.PoolOk k id s) :
    ∃ d, (s.pools k).poolShares.val id = (s.pools k).sharesHeld id + d * minLiquidity ∧
      ((s.pools k).poolShares.val id ≠ 0 → 1 ≤ d) := by
  rcases h.inv.sound.seed_dvd_dead with ⟨d, hd⟩
  have hdead : (s.pools k).poolShares.val id - (s.pools k).sharesHeld id = minLiquidity * d := hd
  have hle := h.inv.held_le
  refine ⟨d, ?_, ?_⟩
  · rw [Nat.mul_comm d]
    omega
  · intro hne
    rw [← Pools.vault_supply hle] at hne
    have hseed : minLiquidity ≤ minLiquidity * d := hd ▸ h.inv.sound.seed_le_dead hne
    rcases Nat.eq_zero_or_pos d with rfl | hpos
    · exact absurd hseed (by decide)
    · exact hpos

/-- One step lowers the value of nobody but its actor. -/
theorem accountValue_le_step (h : Op.PoolOk k id s) (hop : op.Plain cfg k s) {b : A}
    (hb : op.actor ≠ some b) :
    (s.pools k).accountValue u128 id b ≤ ((op.step cfg u128 s).pools k).accountValue u128 id b := by
  have howned : op.transfers = some k → op.OwnedTransfer s := fun ht => absurd ht hop.2
  have h' := Op.poolOk_step hop.1 howned h
  rw [Pools.accountValue_u128 h.fits h.inv.held_le, Pools.accountValue_u128 h'.fits h'.inv.held_le,
    Op.step_eq_of_noSaturation hop.1]
  exact Pools.accountValue_le_of_reach (Op.step_reach cfg .unbounded s op k howned) h.inv hb

end Run

/-! ## The pool theorem -/

/-- Start pool `id` of family `k` empty and run any labels without saturation
and without share transfers of that family. In the state reached:

* the shares are those of the accounts plus blocks of `MIN_LIQUIDITY` dead ones,
  at least one block once the pool was ever not empty;
* without shares there is no balance;
* all accounts together can redeem no more than the balance, and what one
  account may remove is covered, so no reduction saturates;
* the next label lowers the value of no account but its caller. -/
theorem pool_solvent_and_undiluted (cfg : Config A) (k : PoolKind) (id : ℕ) (s₀ : State A)
    (ops : List (Op A)) (hempty : (s₀.pools k).Empty id)
    (hrun : Along (Op.step cfg u128) (Op.Plain cfg k) s₀ ops) :
    let s := run (Op.step cfg u128) s₀ ops
    let p := s.pools k
    (∃ d, p.poolShares.val id = p.sharesHeld id + d * minLiquidity ∧
      ((∃ m, ¬ ((run (Op.step cfg u128) s₀ (ops.take m)).pools k).Empty id) → 1 ≤ d)) ∧
    (p.poolShares.val id = 0 → p.poolBalance.val id = 0) ∧
    (∀ as : Finset A, ∑ a ∈ as, p.accountValue u128 id a ≤ p.poolBalance.val id) ∧
    (∀ a n, n ≤ p.accountShares.val (a, id) →
      n ≤ p.poolShares.val id ∧ p.sharesToBalance u128 id n ≤ p.poolBalance.val id) ∧
    (∀ op : Op A, op.Plain cfg k s → ∀ b, op.actor ≠ some b →
      p.accountValue u128 id b ≤ ((op.step cfg u128 s).pools k).accountValue u128 id b) := by
  intro s p
  have hok : Op.PoolOk k id s := poolOk_run (poolOk_of_empty hempty) hrun
  refine ⟨?_, ?_, ?_, ?_, ?_⟩
  · rcases dead_shares hok with ⟨d, hd, hpos⟩
    refine ⟨d, hd, ?_⟩
    rintro ⟨m, hm⟩
    -- the pool was touched after `m` labels and never loses its shares again
    apply hpos
    have hsplit := hrun
    rw [← List.take_append_drop m ops, along_append] at hsplit
    have hmid := poolOk_run (poolOk_of_empty hempty) hsplit.1
    have hne := poolShares_ne_zero_run hmid hsplit.2 (poolShares_ne_zero_of_not_empty hmid hm)
    rwa [← run_append, List.take_append_drop] at hne
  · intro h0
    exact hok.inv.sound.assets_of_supply ((Pools.vault_supply hok.inv.held_le).trans h0)
  · intro as
    have hval : ∀ a, p.accountValue u128 id a = p.accountValue .unbounded id a :=
      Pools.accountValue_u128 hok.fits hok.inv.held_le
    simp only [hval]
    exact Pools.total_accountValue_le hok.inv as
  · intro a n hn
    have hle : n ≤ p.poolShares.val id :=
      hn.trans ((Pools.accountShares_le_held p id a).trans hok.inv.held_le)
    refine ⟨hle, ?_⟩
    rw [Pools.sharesToBalance_u128 hok.fits hle]
    exact Pools.sharesToBalance_le hle
  · intro op hop b hb
    exact accountValue_le_step hok hop hb

/-- Two funded accounts and one active subnet. -/
def demoEnv : Env ℕ :=
  { Env.genesis (((∅ : StorageMap ℕ ℕ).set 0 100000).set 1 100000) with
    subnets :=
      { subnetsData := (∅ : StorageMap ℕ SubnetData).set 7 ⟨[], [], .active, 0⟩
        subnetMinStakeBalance := ∅
        subnetMaxStakeBalance := ∅
        subnetNetFlow := ∅ } }

/-- A deposit, a donation by somebody else and a removal. -/
def demoOps : List (Op ℕ) :=
  [.call (.addDelegateStake .subnet 0 7 5000), .call (.donateDelegateStake .subnet 1 7 3000),
    .call (.removeDelegateStake .subnet 0 7 2000)]

theorem pool_solvent_and_undiluted_demo :
    let p := (run (Op.step (.runtime ℕ) u128) (.genesis demoEnv) demoOps).pools .subnet
    p.poolShares.val 7 = 4000 ∧ p.poolBalance.val 7 = 5338 ∧
    ∑ a ∈ {0, 1}, p.accountValue u128 7 a ≤ p.poolBalance.val 7 := by
  have hempty : ((State.genesis demoEnv).pools .subnet).Empty 7 :=
    ⟨fun _ => rfl, rfl, rfl⟩
  have hrun : Along (Op.step (.runtime ℕ) u128) (Op.Plain (.runtime ℕ) .subnet)
      (.genesis demoEnv) demoOps := by decide +kernel
  obtain ⟨_, _, hsum, _, _⟩ :=
    pool_solvent_and_undiluted (.runtime ℕ) .subnet 7 (.genesis demoEnv) demoOps hempty hrun
  exact ⟨by decide +kernel, by decide +kernel, hsum {0, 1}⟩

end Hypertensor
