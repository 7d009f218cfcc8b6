import Mathlib
import Hypertensor.Staking.System
import Hypertensor.Staking.Solvency

/-!
# Hypertensor.Staking.Delivery — what becomes of a queued swap

The hook removes every item it executes, also one whose balance converts to no
shares at the destination's price of that block. `executed_swap_settled` states
both outcomes for every item, and that all other items stay.
-/

namespace Hypertensor

open Base

variable {A : Type} [DecidableEq A]

namespace Executed

/-- The destination's price in shares for the item's balance, at execution. -/
def quotedShares (e : Executed A) : ℕ :=
  convertToShares u128 e.item.call.getQueueBalance
    ((e.before.pools e.item.call.kind).poolShares.val e.item.call.poolId)
    ((e.before.pools e.item.call.kind).poolBalance.val e.item.call.poolId)

/-- The destination and its account were credited in full. -/
structure Delivered (e : Executed A) : Prop where
  shares : e.shares = some e.quotedShares
  balance : (e.after.pools e.item.call.kind).poolBalance.val e.item.call.poolId =
    min ((e.before.pools e.item.call.kind).poolBalance.val e.item.call.poolId +
      e.item.call.getQueueBalance) u128Max
  account : (e.after.pools e.item.call.kind).accountShares.val
      (e.item.call.accountId, e.item.call.poolId) =
    min ((e.before.pools e.item.call.kind).accountShares.val
      (e.item.call.accountId, e.item.call.poolId) + e.quotedShares) u128Max

/-- Nobody was credited. -/
structure Dropped (e : Executed A) : Prop where
  shares : e.shares = none
  accounts : ∀ k x, (e.after.pools k).accountShares.val x = (e.before.pools k).accountShares.val x
  balances : ∀ k id, (e.after.pools k).poolBalance.val id = (e.before.pools k).poolBalance.val id
  poolShares : (e.before.pools e.item.call.kind).poolShares.val e.item.call.poolId ≠ 0 →
    ∀ k id, (e.after.pools k).poolShares.val id = (e.before.pools k).poolShares.val id

variable {b : ℕ} {e : Executed A}

theorem shares_of_ran (he : e.Ran u128 b) :
    e.shares = ((e.before.pools e.item.call.kind).handleIncrease u128 e.item.call.accountId
      e.item.call.poolId e.item.call.getQueueBalance).2 := by
  rw [he.shares_eq, credit, State.handleIncreaseAccountStake_snd]

theorem pools_of_ran (he : e.Ran u128 b) :
    e.after.pools e.item.call.kind = ((e.before.pools e.item.call.kind).handleIncrease u128
      e.item.call.accountId e.item.call.poolId e.item.call.getQueueBalance).1 := by
  rw [he.after_eq, State.dequeue_pools, credit, State.handleIncreaseAccountStake_pools]

theorem pools_of_ran_ne (he : e.Ran u128 b) {k : PoolKind} (hk : k ≠ e.item.call.kind) :
    e.after.pools k = e.before.pools k := by
  rw [he.after_eq, State.dequeue_pools, credit,
    State.handleIncreaseAccountStake_pools_ne _ _ _ _ _ hk]

theorem delivered_of_ran (he : e.Ran u128 b) (h : e.quotedShares ≠ 0) : e.Delivered := by
  have hr := Pools.handleIncrease_of_ne e.item.call.accountId h
  have hpools := pools_of_ran he
  have hshares := shares_of_ran he
  rw [hr] at hpools hshares
  refine ⟨hshares, ?_, ?_⟩
  · rw [hpools]
    split <;> simp [Pools.increaseAccount, Pools.mintMinLiquidity, Arith.add]
  · rw [hpools]
    split <;> simp [Pools.increaseAccount, Pools.mintMinLiquidity, Arith.add, quotedShares]

theorem dropped_of_ran (he : e.Ran u128 b) (h : e.quotedShares = 0) : e.Dropped := by
  have hr := Pools.handleIncrease_of_eq e.item.call.accountId h
  have hpools := pools_of_ran he
  have hshares := shares_of_ran he
  rw [hr] at hpools hshares
  refine ⟨hshares, ?_, ?_, ?_⟩
  · intro k x
    by_cases hk : k = e.item.call.kind
    · subst hk
      rw [hpools]
      split <;> rfl
    · rw [pools_of_ran_ne he hk]
  · intro k id
    by_cases hk : k = e.item.call.kind
    · subst hk
      rw [hpools]
      split <;> rfl
    · rw [pools_of_ran_ne he hk]
  · -- the only write of a failed deposit is the first mint of dead shares
    intro hne k id
    by_cases hk : k = e.item.call.kind
    · subst hk
      rw [hpools, if_neg hne]
    · rw [pools_of_ran_ne he hk]

theorem queue_of_ran {ar : Arith} (he : e.Ran ar b) :
    e.after.swaps.swapCallQueue = e.before.swaps.swapCallQueue.remove e.id := by
  rw [he.after_eq]
  simp [State.dequeue, credit]

end Executed

/-- After the hook, what it executed is gone from the queue and everything else
is still there. -/
theorem executes_queue {ar : Arith} {b : ℕ} {s s' : State A} {es : List (Executed A)}
    (h : Executes ar b s es s') (j : ℕ) :
    s'.swaps.swapCallQueue.find? j =
      if j ∈ es.map Executed.id then none else s.swaps.swapCallQueue.find? j := by
  induction h with
  | nil _ => simp
  | @cons e es s' he _ ih =>
      rw [ih, Executed.queue_of_ran he, StorageMap.find?_remove, List.map_cons]
      by_cases hmem : j ∈ es.map Executed.id
      · rw [if_pos hmem, if_pos (List.mem_cons_of_mem _ hmem)]
      · by_cases hj : j = e.id
        · rw [if_neg hmem, if_pos hj, if_pos (by rw [hj]; exact List.mem_cons_self)]
        · have hnot : j ∉ e.id :: es.map Executed.id := by
            intro hin
            rcases List.mem_cons.mp hin with heq | hin
            · exact hj heq
            · exact hmem hin
          rw [if_neg hmem, if_neg hj, if_neg hnot]

/-- Run the hook in any state. The items it executes, in order from the head of
the queue, leave the queue and no other item does. Each one whose balance
converts to a positive number of shares is delivered in full: the pool gets the
balance, the account the shares. Each one whose balance converts to zero shares
is dropped: no account's shares and no pool's balance change, and no pool's
shares either if the destination had any. -/
theorem executed_swap_settled (cfg : Config A) (s : State A) (b : ℕ) (meter : WeightMeter) :
    let r := s.executeReadySwapCalls cfg u128 b meter
    Executes u128 b s r.2 r.1 ∧
    (∀ j, r.1.swaps.swapCallQueue.find? j =
      if j ∈ r.2.map Executed.id then none else s.swaps.swapCallQueue.find? j) ∧
    (∀ e ∈ r.2, (e.quotedShares ≠ 0 → e.Delivered) ∧ (e.quotedShares = 0 → e.Dropped)) := by
  intro r
  have hex : Executes u128 b s r.2 r.1 := State.executeReadySwapCalls_executes cfg u128 s b meter
  refine ⟨hex, executes_queue hex, ?_⟩
  intro e he
  have hran := executes_ran hex e he
  exact ⟨Executed.delivered_of_ran hran, Executed.dropped_of_ran hran⟩

/-- Account `0` queues a balance of `4`, account `1` donates, and one epoch later
the balance is worth no share: the item leaves the queue, the pool and the
account get nothing. -/
theorem worthless_swap_leaves_queue :
    let s := run (Op.step (.runtime ℕ) u128) (.genesis demoEnv)
      [.call (.addDelegateStake .subnet 0 7 1000),
        .call (.swapDelegateStake .subnet .subnet 0 7 7 10),
        .call (.donateDelegateStake .subnet 1 7 90000)]
    let r := s.executeReadySwapCalls (.runtime ℕ) u128 20
      ⟨⟨1000000000000, 1000000⟩, ⟨0, 0⟩⟩
    s.swaps.swapCallQueue.find? 0 = some ⟨0, .swapToSubnetDelegateStake 0 7 4, 0, 20⟩ ∧
    r.1.swaps.swapCallQueue.find? 0 = none ∧
    (r.1.pools .subnet).poolBalance.val 7 = (s.pools .subnet).poolBalance.val 7 ∧
    (r.1.pools .subnet).accountShares.val (0, 7) = (s.pools .subnet).accountShares.val (0, 7) := by
  decide +kernel

end Hypertensor
