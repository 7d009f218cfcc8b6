import Mathlib
import Hypertensor.Base.Run
import Hypertensor.Staking.Calls

/-!
# Hypertensor.Staking.System — the staking system as a machine

One label per thing that can happen to staked value: a dispatchable by any
account, the swap queue of the block hook, the credits and slashes of the epoch
hooks, and any change of the environment by the rest of the chain.

* `Op.exec` performs a label in a given arithmetic.
* `NoSaturation`: the label computes the same in `u128` and in exact
  arithmetic. That no addition or conversion of a step saturates implies it.
* `exec_reach`: what a label does to a family of pools is a sequence of pool
  operations, in which only the caller gives shares up.
-/

namespace Hypertensor

open Base

variable {A : Type} [DecidableEq A]

/-- The staking dispatchables, with the signed account first. -/
inductive Call (A : Type) where
  | addNodeStake (who : A) (subnetId subnetNodeId amount : ℕ)
  | removeNodeStake (who : A) (subnetId subnetNodeId amount : ℕ)
  | addOverwatchNodeStake (who : A) (overwatchNodeId amount : ℕ)
  | removeOverwatchNodeStake (who : A) (overwatchNodeId amount : ℕ)
  | addDelegateStake (k : PoolKind) (who : A) (id amount : ℕ)
  | removeDelegateStake (k : PoolKind) (who : A) (id shares : ℕ)
  | transferDelegateStake (k : PoolKind) (who dest : A) (id shares : ℕ)
  | donateDelegateStake (k : PoolKind) (who : A) (id amount : ℕ)
  | swapDelegateStake (k l : PoolKind) (who : A) (fromId toId shares : ℕ)
  | updateSwapQueue (who : A) (id : ℕ) (newCall : QueuedSwapCall A)
  | removeDelegateAccountBalance (who : A) (amount : ℕ)
  | claimUnbondings (who : A)

/-- What a staking call may write of the environment: balances, the block of the last
transaction, the flow of a subnet and the node lists of a validator. -/
def Env.touched (e e' : Env A) : Env A :=
  { e with
    freeBalance := e'.freeBalance
    lastTxBlock := e'.lastTxBlock
    subnets := { e.subnets with subnetNetFlow := e'.subnets.subnetNetFlow }
    validators := { e.validators with validatorSubnetNodes := e'.validators.validatorSubnetNodes } }

namespace Call

/-- The signed account. -/
def who : Call A → A
  | addNodeStake who _ _ _ => who
  | removeNodeStake who _ _ _ => who
  | addOverwatchNodeStake who _ _ => who
  | removeOverwatchNodeStake who _ _ => who
  | addDelegateStake _ who _ _ => who
  | removeDelegateStake _ who _ _ => who
  | transferDelegateStake _ who _ _ _ => who
  | donateDelegateStake _ who _ _ => who
  | swapDelegateStake _ _ who _ _ _ => who
  | updateSwapQueue who _ _ => who
  | removeDelegateAccountBalance who _ => who
  | claimUnbondings who => who

/-- Run a call. -/
def dispatch (cfg : Config A) (ar : Arith) (s : State A) : Call A → Except Error (State A)
  | addNodeStake who subnetId nodeId x => s.addNodeStake cfg ar who subnetId nodeId x
  | removeNodeStake who subnetId nodeId x => s.removeNodeStake cfg ar who subnetId nodeId x
  | addOverwatchNodeStake who id x => s.addOverwatchNodeStake cfg ar who id x
  | removeOverwatchNodeStake who id x => s.removeOverwatchNodeStake cfg ar who id x
  | addDelegateStake .subnet who id x => s.addDelegateStake cfg ar who id x
  | addDelegateStake .validator who id x => s.addValidatorDelegateStake cfg ar who id x
  | removeDelegateStake .subnet who id n => s.removeDelegateStake cfg ar who id n
  | removeDelegateStake .validator who id n => s.removeValidatorDelegateStake cfg ar who id n
  | transferDelegateStake .subnet who dest id n => s.transferDelegateStake ar who id dest n
  | transferDelegateStake .validator who dest id n =>
      s.transferValidatorDelegateStake ar who id dest n
  | donateDelegateStake .subnet who id x => s.donateDelegateStake cfg ar who id x
  | donateDelegateStake .validator who id x => s.donateValidatorDelegateStake cfg ar who id x
  | swapDelegateStake .subnet .subnet who i j n => s.swapFromSubnetToSubnet cfg ar who i j n
  | swapDelegateStake .validator .validator who i j n =>
      s.swapFromValidatorToValidator cfg ar who i j n
  | swapDelegateStake .validator .subnet who i j n => s.swapFromValidatorToSubnet cfg ar who i j n
  | swapDelegateStake .subnet .validator who i j n => s.swapFromSubnetToValidator cfg ar who i j n
  | updateSwapQueue who id newCall => s.updateSwapQueue who id newCall
  | removeDelegateAccountBalance who x => s.removeDelegateAccountBalance cfg ar who x
  | claimUnbondings who => s.claimUnbondings who

/-! ### Both families of a call do the same -/

section Family

variable {cfg : Config A} {ar : Arith} {s s' : State A} {k l : PoolKind} {who dest : A}
  {id x n i j : ℕ}

theorem dispatch_add_ok (h : (addDelegateStake k who id x).dispatch cfg ar s = .ok s') :
    s.doAddDelegateStake cfg ar k who id x = .ok s' := by
  cases k
  · simp only [dispatch, State.addDelegateStake, State.isPaused_bind_ok, ensure_bind_ok] at h
    exact h.2.2
  · simp only [dispatch, State.addValidatorDelegateStake, State.isPaused_bind_ok,
      ensure_bind_ok] at h
    exact h.2.2

theorem dispatch_remove_ok (h : (removeDelegateStake k who id n).dispatch cfg ar s = .ok s') :
    s.doRemoveDelegateStake cfg ar k who id n = .ok s' := by
  cases k
  · simp only [dispatch, State.removeDelegateStake, State.isPaused_bind_ok] at h
    exact h.2
  · simp only [dispatch, State.removeValidatorDelegateStake, State.isPaused_bind_ok] at h
    exact h.2

theorem dispatch_transfer_iff :
    (transferDelegateStake k who dest id n).dispatch cfg ar s = .ok s' ↔
      s.params.txPause = false ∧ s.doTransferDelegateStake ar k who dest id n = .ok s' := by
  cases k
  · simp only [dispatch, State.transferDelegateStake, State.isPaused_bind_ok]
  · simp only [dispatch, State.transferValidatorDelegateStake, State.isPaused_bind_ok]

theorem dispatch_donate_ok (h : (donateDelegateStake k who id x).dispatch cfg ar s = .ok s') :
    s.doDonate cfg ar k who id x = .ok s' := by
  cases k
  · simp only [dispatch, State.donateDelegateStake, State.isPaused_bind_ok, ensure_bind_ok] at h
    exact h.2.2
  · simp only [dispatch, State.donateValidatorDelegateStake, State.isPaused_bind_ok,
      ensure_bind_ok] at h
    exact h.2.2

theorem dispatch_swap_ok (h : (swapDelegateStake k l who i j n).dispatch cfg ar s = .ok s') :
    s.doSwap cfg ar k l who i j n = .ok s' := by
  cases k <;> cases l
  · simp only [dispatch, State.swapFromSubnetToSubnet, State.isPaused_bind_ok,
      ensure_bind_ok] at h
    exact h.2.2
  · simp only [dispatch, State.swapFromSubnetToValidator, State.isPaused_bind_ok,
      ensure_bind_ok] at h
    exact h.2.2
  · simp only [dispatch, State.swapFromValidatorToSubnet, State.isPaused_bind_ok,
      ensure_bind_ok] at h
    exact h.2.2
  · simp only [dispatch, State.swapFromValidatorToValidator, State.isPaused_bind_ok] at h
    exact h.2

/-- A call other than a swap or an update leaves the queue alone. -/
theorem dispatch_swaps {c : Call A} (h : c.dispatch cfg ar s = .ok s')
    (hswap : ∀ k l who i j n, c ≠ .swapDelegateStake k l who i j n)
    (hupd : ∀ who id call, c ≠ .updateSwapQueue who id call) : s'.swaps = s.swaps := by
  cases c with
  | addNodeStake a i j x =>
      rcases State.addNodeStake_ok h with ⟨s₁, hrem, rfl⟩
      exact (State.removeBalance_ledgerOnly hrem).swaps
  | removeNodeStake a i j x =>
      rcases State.removeNodeStake_ok h with ⟨s₁, s₂, c, _, hprep, hclean, rfl⟩
      rw [← (State.prepareUnbondingLedgerEntry_ledgerOnly hprep).swaps]
      rcases hclean with rfl | ⟨v, rfl⟩ <;> rfl
  | addOverwatchNodeStake a i x =>
      rcases State.addOverwatchNodeStake_ok h with ⟨s₁, hrem, rfl⟩
      exact (State.removeBalance_ledgerOnly hrem).swaps
  | removeOverwatchNodeStake a i x =>
      rcases State.removeOverwatchNodeStake_ok h with ⟨s₁, c, _, hprep, rfl⟩
      exact (State.prepareUnbondingLedgerEntry_ledgerOnly hprep).swaps
  | addDelegateStake k a i x =>
      rcases State.doAddDelegateStake_ok (dispatch_add_ok h) with ⟨s₁, shares, hrem, _, rfl⟩
      rw [← (State.removeBalance_ledgerOnly hrem).swaps]
      exact State.handleIncreaseAccountStake_swaps ar s₁ k a i x
  | removeDelegateStake k a i n =>
      obtain ⟨s₁, c, _, _, hprep, rfl⟩ :=
        State.doRemoveDelegateStake_ok (dispatch_remove_ok h)
      rw [← (State.prepareUnbondingLedgerEntry_ledgerOnly hprep).swaps]
      exact State.decreaseAccountStake_swaps s₁ k a i _ n
  | transferDelegateStake k a dest i n =>
      rcases State.doTransferDelegateStake_ok (dispatch_transfer_iff.mp h).2 with ⟨_, _, _, rfl⟩
      simp
  | donateDelegateStake k a i x =>
      rcases State.doDonate_ok (dispatch_donate_ok h) with ⟨s₁, hrem, rfl⟩
      rw [← (State.removeBalance_ledgerOnly hrem).swaps]
      exact State.setPools_swaps s₁ k _
  | swapDelegateStake k k' a i j n => exact absurd rfl (hswap k k' a i j n)
  | updateSwapQueue a i newCall => exact absurd rfl (hupd a i newCall)
  | removeDelegateAccountBalance a x =>
      rcases State.removeDelegateAccountBalance_ok h with ⟨s₁, c, _, hprep, rfl⟩
      exact (State.prepareUnbondingLedgerEntry_ledgerOnly hprep).swaps
  | claimUnbondings a =>
      rw [State.claimUnbondings_ok h]
      exact (State.doClaimUnbondings_ledgerOnly s a).swaps

/-- All else of the environment stays as it is. -/
theorem dispatch_env {c : Call A} (h : c.dispatch cfg ar s = .ok s') :
    s'.toEnv = s.toEnv.touched s'.toEnv := by
  cases c with
  | addNodeStake a i j x =>
      obtain ⟨s₁, hrem, rfl⟩ := State.addNodeStake_ok h
      obtain ⟨f, l, t, rfl⟩ := State.removeBalance_ledgerOnly hrem
      rfl
  | removeNodeStake a i j x =>
      obtain ⟨s₁, s₂, c, _, hprep, hclean, rfl⟩ := State.removeNodeStake_ok h
      obtain ⟨f, l, t, rfl⟩ := State.prepareUnbondingLedgerEntry_ledgerOnly hprep
      rcases hclean with rfl | ⟨v, rfl⟩ <;> rfl
  | addOverwatchNodeStake a i x =>
      obtain ⟨s₁, hrem, rfl⟩ := State.addOverwatchNodeStake_ok h
      obtain ⟨f, l, t, rfl⟩ := State.removeBalance_ledgerOnly hrem
      rfl
  | removeOverwatchNodeStake a i x =>
      obtain ⟨s₁, c, _, hprep, rfl⟩ := State.removeOverwatchNodeStake_ok h
      obtain ⟨f, l, t, rfl⟩ := State.prepareUnbondingLedgerEntry_ledgerOnly hprep
      rfl
  | addDelegateStake k a i x =>
      obtain ⟨s₁, shares, hrem, _, rfl⟩ := State.doAddDelegateStake_ok (dispatch_add_ok h)
      obtain ⟨f, l, t, rfl⟩ := State.removeBalance_ledgerOnly hrem
      unfold State.handleIncreaseAccountStake
      dsimp only
      split <;> cases k <;> rfl
  | removeDelegateStake k a i n =>
      obtain ⟨s₁, c, _, _, hprep, rfl⟩ := State.doRemoveDelegateStake_ok (dispatch_remove_ok h)
      obtain ⟨f, l, t, rfl⟩ := State.prepareUnbondingLedgerEntry_ledgerOnly hprep
      cases k <;> rfl
  | transferDelegateStake k a dest i n =>
      obtain ⟨_, _, _, rfl⟩ := State.doTransferDelegateStake_ok (dispatch_transfer_iff.mp h).2
      cases k <;> rfl
  | donateDelegateStake k a i x =>
      obtain ⟨s₁, hrem, rfl⟩ := State.doDonate_ok (dispatch_donate_ok h)
      obtain ⟨f, l, t, rfl⟩ := State.removeBalance_ledgerOnly hrem
      cases k <;> rfl
  | swapDelegateStake k l a i j n =>
      obtain ⟨_, _, hq⟩ := State.doSwap_ok (dispatch_swap_ok h)
      obtain ⟨_, rfl⟩ := State.queueSwap_ok hq
      cases k <;> rfl
  | updateSwapQueue a i newCall =>
      obtain ⟨item, _, _, rfl⟩ := State.doUpdateSwapQueue_ok h
      rfl
  | removeDelegateAccountBalance a x =>
      obtain ⟨s₁, c, _, hprep, rfl⟩ := State.removeDelegateAccountBalance_ok h
      obtain ⟨f, l, t, rfl⟩ := State.prepareUnbondingLedgerEntry_ledgerOnly hprep
      rfl
  | claimUnbondings a =>
      rw [State.claimUnbondings_ok h]
      obtain ⟨f, l, t, heq⟩ := State.doClaimUnbondings_ledgerOnly s a
      rw [heq]
      rfl

end Family

end Call

/-! ## Labels -/

/-- What can happen to the staking system. -/
inductive Op (A : Type) where
  /-- A dispatchable. -/
  | call (c : Call A)
  /-- The block hook executes queued swaps, with the weight it has. -/
  | executeReadySwapCalls (blockNumber : ℕ) (meter : WeightMeter)
  /-- Emissions to a pool, a node, an overwatch node or a delegate account. -/
  | rewardPool (k : PoolKind) (id amount : ℕ)
  | rewardNode (subnetNodeId subnetId amount : ℕ)
  | rewardOverwatchNode (overwatchNodeId amount : ℕ)
  | rewardDelegateAccount (who : A) (amount : ℕ)
  /-- A slash of a node's stake. -/
  | slashNode (subnetNodeId subnetId amount : ℕ)
  /-- The rest of the chain moves on. -/
  | external (env : Env A)

namespace Op

/-- Perform a label: the state, and the swaps executed by it. -/
def exec (cfg : Config A) (ar : Arith) (s : State A) : Op A → State A × List (Executed A)
  | call c => (commit s (c.dispatch cfg ar s), [])
  | executeReadySwapCalls blockNumber meter => s.executeReadySwapCalls cfg ar blockNumber meter
  | rewardPool k id x => (s.doIncreaseStake ar k id x, [])
  | rewardNode nodeId subnetId x => (s.increaseNodeStake ar nodeId subnetId x, [])
  | rewardOverwatchNode id x => (s.increaseOverwatchNodeStake ar id x, [])
  | rewardDelegateAccount who x => (s.increaseDelegateAccountBalance ar who x, [])
  | slashNode nodeId subnetId x => (s.decreaseNodeStake nodeId subnetId x, [])
  | external env => ({ s with toEnv := env }, [])

/-- The state after a label. -/
def step (cfg : Config A) (ar : Arith) (s : State A) (op : Op A) : State A := (op.exec cfg ar s).1

/-- The account acting, if one does. -/
def actor : Op A → Option A
  | call c => some c.who
  | _ => none

/-- The pool family whose shares the label transfers, if it does. -/
def transfers : Op A → Option PoolKind
  | call (.transferDelegateStake k _ _ _ _) => some k
  | _ => none

/-- Shares are transferred only by an account that owns them. -/
def OwnedTransfer (s : State A) : Op A → Prop
  | call (.transferDelegateStake k who _ id n) => n ≤ (s.pools k).accountShares.val (who, id)
  | _ => True

/-- The label computes the same in `u128` as in exact arithmetic. -/
def NoSaturation (cfg : Config A) (s : State A) (op : Op A) : Prop :=
  op.exec cfg u128 s = op.exec cfg .unbounded s

instance (cfg : Config A) (s : State A) (op : Op A) : Decidable (op.NoSaturation cfg s) :=
  inferInstanceAs (Decidable (op.exec cfg u128 s = op.exec cfg .unbounded s))

theorem step_eq_of_noSaturation {cfg : Config A} {s : State A} {op : Op A}
    (h : NoSaturation cfg s op) : op.step cfg u128 s = op.step cfg .unbounded s :=
  congrArg Prod.fst h

/-! ## What a label does to a family of pools -/

section Reach

open Pools

variable {cfg : Config A} {ar : Arith} {s s' : State A} {k l : PoolKind} {who dest : A}
  {id x n : ℕ}

theorem reach_handleIncrease (who : Option A) (a : A) :
    Reach ar who (s.pools l) ((s.handleIncreaseAccountStake ar k a id x).1.pools l) := by
  by_cases hl : l = k
  · subst hl
    rw [State.handleIncreaseAccountStake_pools]
    exact Reach.single (.increase a id x) trivial (fun _ _ h => by cases h)
  · rw [State.handleIncreaseAccountStake_pools_ne ar s a id x hl]
    exact .refl _

theorem reach_donate (who : Option A) :
    Reach ar who (s.pools l) ((s.doIncreaseStake ar k id x).pools l) := by
  by_cases hl : l = k
  · subst hl
    rw [State.doIncreaseStake_pools]
    exact Reach.single (.donate id x) trivial (fun _ _ h => by cases h)
  · rw [State.doIncreaseStake_pools_ne ar s id x hl]
    exact .refl _

theorem reach_remove (hn : n ≤ (s.pools k).accountShares.val (who, id)) :
    Reach ar (some who) (s.pools l)
      ((s.decreaseAccountStake k who id ((s.pools k).sharesToBalance ar id n) n).pools l) := by
  by_cases hl : l = k
  · subst hl
    rw [State.decreaseAccountStake_pools]
    refine Reach.single (.remove who id n) hn ?_
    intro j a h
    simp only [PoolOp.loser] at h
    split at h
    · exact h
    · cases h
  · rw [State.decreaseAccountStake_pools_ne s who id _ n hl]
    exact .refl _

theorem reach_transfer (hne : who ≠ dest) (hn : n ≤ (s.pools k).accountShares.val (who, id)) :
    Reach ar (some who) (s.pools l)
      (((s.decreaseAccountStake k who id 0 n).increaseAccountStake ar k dest id 0 n).pools l) := by
  by_cases hl : l = k
  · subst hl
    rw [State.increaseAccountStake_pools, State.decreaseAccountStake_pools]
    refine Reach.single (.transfer who dest id n) ⟨hne, hn⟩ ?_
    intro j a h
    simp only [PoolOp.loser] at h
    split at h
    · exact h
    · cases h
  · rw [State.increaseAccountStake_pools_ne ar _ dest id 0 n hl,
      State.decreaseAccountStake_pools_ne s who id 0 n hl]
    exact .refl _

/-- A successful call moves shares of nobody but the caller. -/
theorem dispatch_reach {c : Call A}
    (howned : (call c).transfers = some l → (call c).OwnedTransfer s)
    (h : c.dispatch cfg ar s = .ok s') : Reach ar (some c.who) (s.pools l) (s'.pools l) := by
  -- most calls reach the pools only through balances and the ledger, which are not in them
  cases c with
  | addNodeStake a i j x =>
      rcases State.addNodeStake_ok h with ⟨s₁, hrem, rfl⟩
      rw [← (State.removeBalance_ledgerOnly hrem).pools l]
      exact State.pools_congr rfl rfl l ▸ .refl _
  | removeNodeStake a i j x =>
      rcases State.removeNodeStake_ok h with ⟨s₁, s₂, c, _, hprep, hclean, rfl⟩
      rw [← (State.prepareUnbondingLedgerEntry_ledgerOnly hprep).pools l]
      have h₂ : s₂.pools l = s₁.pools l := by
        rcases hclean with rfl | ⟨v, rfl⟩
        · rfl
        · exact State.pools_congr rfl rfl l
      rw [← h₂]
      exact State.pools_congr rfl rfl l ▸ .refl _
  | addOverwatchNodeStake a i x =>
      rcases State.addOverwatchNodeStake_ok h with ⟨s₁, hrem, rfl⟩
      rw [← (State.removeBalance_ledgerOnly hrem).pools l]
      exact State.pools_congr rfl rfl l ▸ .refl _
  | removeOverwatchNodeStake a i x =>
      rcases State.removeOverwatchNodeStake_ok h with ⟨s₁, c, _, hprep, rfl⟩
      rw [← (State.prepareUnbondingLedgerEntry_ledgerOnly hprep).pools l]
      exact State.pools_congr rfl rfl l ▸ .refl _
  | addDelegateStake k a i x =>
      rcases State.doAddDelegateStake_ok (Call.dispatch_add_ok h) with ⟨s₁, shares, hrem, _, rfl⟩
      rw [← (State.removeBalance_ledgerOnly hrem).pools l]
      exact State.pools_congr rfl rfl l ▸ reach_handleIncrease (some a) a
  | removeDelegateStake k a i n =>
      obtain ⟨s₁, c, _, hown, hprep, rfl⟩ :=
        State.doRemoveDelegateStake_ok (Call.dispatch_remove_ok h)
      have hledger := State.prepareUnbondingLedgerEntry_ledgerOnly hprep
      rw [← hledger.pools k] at hown ⊢
      rw [← hledger.pools l]
      exact State.pools_congr rfl rfl l ▸ reach_remove hown
  | transferDelegateStake k a dest i n =>
      obtain ⟨hne, _, _, rfl⟩ :=
        State.doTransferDelegateStake_ok (Call.dispatch_transfer_iff.mp h).2
      -- a transfer writes one family of pools
      by_cases hk : k = l
      · exact reach_transfer hne (howned (congrArg some hk))
      · have hl : l ≠ k := fun heq => hk heq.symm
        rw [State.increaseAccountStake_pools_ne ar _ dest i 0 n hl,
          State.decreaseAccountStake_pools_ne s a i 0 n hl]
        exact .refl _
  | donateDelegateStake k a i x =>
      rcases State.doDonate_ok (Call.dispatch_donate_ok h) with ⟨s₁, hrem, rfl⟩
      rw [← (State.removeBalance_ledgerOnly hrem).pools l]
      exact reach_donate (some a)
  | swapDelegateStake k k' a i j n =>
      rcases State.doSwap_ok (Call.dispatch_swap_ok h) with ⟨_, hown, hq⟩
      rcases State.queueSwap_ok hq with ⟨_, rfl⟩
      exact State.pools_congr rfl rfl l ▸ reach_remove hown
  | updateSwapQueue a i newCall =>
      rcases State.doUpdateSwapQueue_ok h with ⟨item, _, _, rfl⟩
      exact State.pools_congr rfl rfl l ▸ .refl _
  | removeDelegateAccountBalance a x =>
      rcases State.removeDelegateAccountBalance_ok h with ⟨s₁, c, _, hprep, rfl⟩
      rw [← (State.prepareUnbondingLedgerEntry_ledgerOnly hprep).pools l]
      exact State.pools_congr rfl rfl l ▸ .refl _
  | claimUnbondings a =>
      have hs' := State.claimUnbondings_ok h
      rw [hs', (State.doClaimUnbondings_ledgerOnly s a).pools l]
      exact .refl _

/-- The hook only deposits. -/
theorem executes_reach {b : ℕ} {es : List (Executed A)} (h : Executes ar b s es s') :
    Reach ar none (s.pools l) (s'.pools l) := by
  induction h with
  | nil _ => exact .refl _
  | cons he _ ih =>
      refine Reach.trans ?_ ih
      rw [he.after_eq, State.dequeue_pools]
      exact reach_handleIncrease none _

/-- Every label is a sequence of pool operations, in which only the caller
gives shares up. -/
theorem step_reach (cfg : Config A) (ar : Arith) (s : State A) (op : Op A) (l : PoolKind)
    (howned : op.transfers = some l → op.OwnedTransfer s) :
    Reach ar op.actor (s.pools l) ((op.step cfg ar s).pools l) := by
  cases op with
  | call c =>
      exact commit_induction (P := fun s' => Reach ar (some c.who) (s.pools l) (s'.pools l))
        (.refl _) fun s' h => dispatch_reach howned h
  | executeReadySwapCalls b meter =>
      exact executes_reach (State.executeReadySwapCalls_executes cfg ar s b meter)
  | rewardPool k id x => exact reach_donate none
  | rewardNode i j x => exact State.pools_congr rfl rfl l ▸ .refl _
  | rewardOverwatchNode i x => exact State.pools_congr rfl rfl l ▸ .refl _
  | rewardDelegateAccount a x => exact State.pools_congr rfl rfl l ▸ .refl _
  | slashNode i j x => exact State.pools_congr rfl rfl l ▸ .refl _
  | external env => exact State.pools_congr rfl rfl l ▸ .refl _

end Reach

/-! ## Solvency and prices of a pool along a run -/

/-- A run in which pool `id` of family `k` is sound and in machine range. -/
structure PoolOk (k : PoolKind) (id : ℕ) (s : State A) : Prop where
  inv : (s.pools k).PoolInv id
  fits : (s.pools k).Fits id

theorem poolOk_step {cfg : Config A} {k : PoolKind} {id : ℕ} {s : State A} {op : Op A}
    (hsat : op.NoSaturation cfg s) (howned : op.transfers = some k → op.OwnedTransfer s)
    (h : PoolOk k id s) : PoolOk k id (op.step cfg u128 s) := by
  refine ⟨?_, Pools.fits_of_reach (step_reach cfg u128 s op k howned) h.fits⟩
  rw [step_eq_of_noSaturation hsat]
  exact Pools.poolInv_of_reach (step_reach cfg .unbounded s op k howned) h.inv

end Op

end Hypertensor
