import Mathlib
import Hypertensor.Base.Run
import Hypertensor.Staking.System
import Hypertensor.Staking.Solvency

/-!
# Hypertensor.Staking.Conservation — no value appears or disappears

`value` adds up the free balances, every stake total, the unbonding total and
the balances waiting in the swap queue. `Books` relates each total to the
entries it counts.

Each primitive of the staking code moves value into or out of one place
(`value_…` lemmas, in exact arithmetic) and keeps the books; a call is a
sequence of primitives whose movements cancel.
-/

namespace Hypertensor

open Base

variable {A : Type} [DecidableEq A]

/-! ## Value and books -/

namespace State

/-- Balances waiting in the swap queue. -/
def queued (s : State A) : ℕ := s.swaps.swapCallQueue.total fun _ item => item.call.getQueueBalance

/-- All value the staking system accounts for. -/
def value (s : State A) : ℕ :=
  s.freeBalance.sum + s.stake.totalStake + (s.subnetPools.totalBalance +
    s.validatorPools.totalBalance) + s.stake.totalOverwatchNodeStakeBalance +
    s.stake.totalAccountDelegateStake + s.stake.totalUnbondingBalance + s.queued

/-- What the unbonding ledger holds. -/
def unbonding (s : State A) : ℕ := s.stake.stakeUnbondingLedger.total fun _ ledger => ledger.sum

end State

/-- A family of pools adds up. -/
structure Pools.Books (p : Pools A) : Prop where
  total : p.totalBalance = p.poolBalance.sum
  inv : ∀ id, p.PoolInv id

/-- Every total of the staking system counts its entries, every pool is sound,
and ids in the queue were given out. -/
structure Books (s : State A) : Prop where
  nodes : s.stake.totalStake = s.stake.nodeSubnetStake.sum
  overwatch : s.stake.totalOverwatchNodeStakeBalance = s.stake.overwatchNodeStakeBalance.sum
  accounts : s.stake.totalAccountDelegateStake = s.stake.delegateAccountStake.sum
  ledger : s.stake.totalUnbondingBalance = s.unbonding
  pools : ∀ k, (s.pools k).Books
  fresh : ∀ id item, s.swaps.swapCallQueue.find? id = some item → id < s.swaps.nextSwapQueueId

/-! ## Pools -/

namespace Pools

/-- The pools of a new chain are empty, and so are their totals. -/
theorem books_genesis : (Pools.genesis A).Books := by
  refine ⟨rfl, ?_⟩
  intro id
  exact poolInv_of_empty (fun _ => rfl) rfl rfl

/-- An allowed operation keeps the books of a family. -/
theorem books_apply {p : Pools A} {op : PoolOp A} (hop : op.Allowed p) (h : p.Books) :
    (op.apply .unbounded p).Books := by
  refine ⟨?_, fun id => poolInv_of_stepAt (h.inv id) (stepAt_apply hop id (h.inv id))⟩
  have htotal := h.total
  cases op with
  | increase who id x =>
      have hset := StorageMap.sum_set p.poolBalance id (p.poolBalance.val id + x)
      simp only [PoolOp.apply]
      rcases hr : (p.handleIncrease .unbounded who id x).2 with _ | n
      · rw [(handleIncrease_none hr).2]
        split
        · exact htotal
        · exact htotal
      · rw [(handleIncrease_some hr).2.2]
        split
        · simp only [increaseAccount, mintMinLiquidity, Arith.add_unbounded]
          omega
        · simp only [increaseAccount, Arith.add_unbounded]
          omega
  | remove who id n =>
      -- what is paid out is covered by the pool
      have hn : n ≤ p.poolShares.val id :=
        (show n ≤ p.accountShares.val (who, id) from hop).trans
          ((accountShares_le_held p id who).trans (h.inv id).held_le)
      have hle := sharesToBalance_le hn
      have hset := StorageMap.sum_set p.poolBalance id
        (p.poolBalance.val id - p.sharesToBalance .unbounded id n)
      simp only [PoolOp.apply, decreaseAccount]
      omega
  | transfer who dest id n =>
      have hdec := StorageMap.sum_set p.poolBalance id (p.poolBalance.val id - 0)
      have hinc := StorageMap.sum_set (p.poolBalance.set id (p.poolBalance.val id - 0)) id
        ((p.poolBalance.set id (p.poolBalance.val id - 0)).val id + 0)
      simp only [PoolOp.apply, decreaseAccount, increaseAccount, Arith.add_unbounded]
      omega
  | donate id x =>
      have hset := StorageMap.sum_set p.poolBalance id (p.poolBalance.val id + x)
      simp only [PoolOp.apply, doIncrease]
      split
      · simp only [mintMinLiquidity, Arith.add_unbounded]
        omega
      · simp only [Arith.add_unbounded]
        omega

/-- The books of a family are kept by any sequence of its operations. -/
theorem books_of_reach {who : Option A} {p q : Pools A} (hr : Reach .unbounded who p q)
    (h : p.Books) : q.Books := by
  induction hr with
  | refl _ => exact h
  | head op hop _ _ ih => exact ih (books_apply hop h)

/-- A pool's balance is part of the family's. -/
theorem poolBalance_le_total {p : Pools A} (h : p.Books) (id : ℕ) :
    p.poolBalance.val id ≤ p.totalBalance := by
  rw [h.total]
  exact StorageMap.val_le_sum p.poolBalance id

end Pools

/-! ## What the primitives move -/

namespace State

variable {cfg : Config A} {s s' : State A} {k : PoolKind} {who : A} {id x n c b : ℕ}

/-- What is taken from a balance is missing until it is put somewhere. -/
theorem value_removeBalance (h : s.removeBalance cfg who x = some s') :
    s'.value + x = s.value := by
  rcases removeBalance_eq_some h with ⟨hx, rfl⟩
  have hset := StorageMap.sum_set s.freeBalance who (s.freeBalance.val who - x)
  simp only [value, queued]
  omega

theorem value_setLastTxBlock (s : State A) (who : A) (b : ℕ) :
    (s.setLastTxBlock who b).value = s.value := rfl

theorem value_cleanValidatorSubnetNodes (s : State A) (v : ℕ) :
    (s.cleanValidatorSubnetNodes v).value = s.value := rfl

/-- Stake of a node is value. -/
theorem value_increaseNodeStake (s : State A) (i j x : ℕ) :
    (s.increaseNodeStake .unbounded i j x).value = s.value + x := by
  simp only [value, queued, increaseNodeStake, Arith.add_unbounded]
  omega

/-- Stake of an overwatch node is value. -/
theorem value_increaseOverwatchNodeStake (s : State A) (i x : ℕ) :
    (s.increaseOverwatchNodeStake .unbounded i x).value = s.value + x := by
  simp only [value, queued, increaseOverwatchNodeStake, Arith.add_unbounded]
  omega

/-- The value goes down by the stake that is taken, if the total covers it. -/
theorem value_decreaseNodeStake {i j : ℕ} (h : x ≤ s.stake.totalStake) :
    (s.decreaseNodeStake i j x).value + x = s.value := by
  simp only [value, queued, decreaseNodeStake]
  omega

/-- The value goes down by the stake that is taken, if the total covers it. -/
theorem value_decreaseOverwatchNodeStake {i : ℕ}
    (h : x ≤ s.stake.totalOverwatchNodeStakeBalance) :
    (s.decreaseOverwatchNodeStake i x).value + x = s.value := by
  simp only [value, queued, decreaseOverwatchNodeStake]
  omega

/-- The value goes down by what a delegate account takes, if the total covers it. -/
theorem value_decreaseDelegateAccountBalance (who : A)
    (h : x ≤ s.stake.totalAccountDelegateStake) :
    (s.decreaseDelegateAccountBalance who x).value + x = s.value := by
  simp only [value, queued, decreaseDelegateAccountBalance]
  omega

/-- What unbonds is value that waits. -/
theorem value_insertBalanceToUnbondingLedger (s : State A) (who : A) (x c b : ℕ) :
    (s.insertBalanceToUnbondingLedger .unbounded who x c b).value = s.value + x := by
  simp only [value, queued, insertBalanceToUnbondingLedger, Arith.add_unbounded]
  omega

/-- Replacing a family of pools moves the difference of its totals. -/
theorem value_setPools (s : State A) (k : PoolKind) (p : Pools A) :
    (s.setPools k p).value + (s.pools k).totalBalance = s.value + p.totalBalance := by
  cases k
  · simp only [value, queued, setPools, pools]
    omega
  · simp only [value, queued, setPools, pools]
    omega

/-- Net flows are counted apart. -/
theorem value_addNetFlow (s : State A) (k : PoolKind) (id : ℕ) (x : ℤ) :
    (s.addNetFlow k id x).value = s.value := by
  cases k <;> rfl

/-- What leaves a pool is missing from the value. -/
theorem value_decreaseAccountStake (who : A) (id n : ℕ) (h : x ≤ (s.pools k).totalBalance) :
    (s.decreaseAccountStake k who id x n).value + x = s.value := by
  have hset := value_setPools s k ((s.pools k).decreaseAccount who id x n)
  unfold decreaseAccountStake
  rw [value_addNetFlow]
  simp only [Pools.decreaseAccount] at hset ⊢
  omega

/-- What enters a pool is added to the value. -/
theorem value_increaseAccountStake (s : State A) (k : PoolKind) (who : A) (id x n : ℕ) :
    (s.increaseAccountStake .unbounded k who id x n).value = s.value + x := by
  have hset := value_setPools s k ((s.pools k).increaseAccount .unbounded who id x n)
  unfold increaseAccountStake
  rw [value_addNetFlow]
  simp only [Pools.increaseAccount, Arith.add_unbounded] at hset ⊢
  omega

/-- What a pool is paid is added to the value. -/
theorem value_doIncreaseStake (s : State A) (k : PoolKind) (id x : ℕ) :
    (s.doIncreaseStake .unbounded k id x).value = s.value + x := by
  have hset := value_setPools s k ((s.pools k).doIncrease .unbounded id x)
  have htotal : ((s.pools k).doIncrease .unbounded id x).totalBalance =
      (s.pools k).totalBalance + x := by
    unfold Pools.doIncrease
    split <;> rfl
  unfold doIncreaseStake
  omega

/-- A credited deposit adds its amount; one that is not credited adds nothing. -/
theorem value_handleIncreaseAccountStake (s : State A) (k : PoolKind) (who : A) (id x : ℕ) :
    (s.handleIncreaseAccountStake .unbounded k who id x).1.value = s.value +
      if ((s.pools k).handleIncrease .unbounded who id x).2 = none then 0 else x := by
  have hset := value_setPools s k ((s.pools k).handleIncrease .unbounded who id x).1
  unfold handleIncreaseAccountStake
  rcases hr : ((s.pools k).handleIncrease .unbounded who id x).2 with _ | m
  · simp only [hr, if_true]
    have htotal : ((s.pools k).handleIncrease .unbounded who id x).1.totalBalance =
        (s.pools k).totalBalance := by
      rw [(Pools.handleIncrease_none hr).2]
      split <;> rfl
    omega
  · simp only [hr, reduceCtorEq, if_false]
    rw [value_addNetFlow]
    have htotal : ((s.pools k).handleIncrease .unbounded who id x).1.totalBalance =
        (s.pools k).totalBalance + x := by
      rw [(Pools.handleIncrease_some hr).2.2]
      split <;> rfl
    omega

/-- Queueing under a fresh id adds the balance. -/
theorem value_queueSwap {call : QueuedSwapCall A}
    (hfresh : s.swaps.swapCallQueue.find? s.swaps.nextSwapQueueId = none)
    (h : s.queueSwap cfg call = .ok s') : s'.value = s.value + call.getQueueBalance := by
  rcases queueSwap_ok h with ⟨_, rfl⟩
  have hset := StorageMap.total_set s.swaps.swapCallQueue
    (fun _ item => item.call.getQueueBalance) s.swaps.nextSwapQueueId
    ⟨s.swaps.nextSwapQueueId, call, s.block, cfg.epochLength⟩
  rw [hfresh] at hset
  simp only [Option.elim_none] at hset
  simp only [value, queued]
  omega

/-- Retargeting an item keeps its balance. -/
theorem value_setCall {item : QueuedSwapItem A} {call : QueuedSwapCall A}
    (hitem : s.swaps.swapCallQueue.find? id = some item)
    (hbal : call.getQueueBalance = item.call.getQueueBalance) :
    (s.setCall id item call).value = s.value := by
  have hset := StorageMap.total_set s.swaps.swapCallQueue
    (fun _ item => item.call.getQueueBalance) id { item with call }
  rw [hitem] at hset
  simp only [Option.elim_some] at hset
  simp only [value, queued, setCall]
  omega

/-- Taking an item out removes its balance. -/
theorem value_dequeue {item : QueuedSwapItem A}
    (hitem : s.swaps.swapCallQueue.find? id = some item) :
    (s.dequeue id).value + item.call.getQueueBalance = s.value := by
  have hrem := StorageMap.total_remove s.swaps.swapCallQueue
    (fun _ item => item.call.getQueueBalance) id
  rw [hitem] at hrem
  simp only [Option.elim_some] at hrem
  simp only [value, queued, dequeue]
  omega

/-! ## Claims and the unbonding ledger -/

/-- A claim moves value from the ledger to the balance. -/
theorem value_payUnbonding (h : x ≤ s.stake.totalUnbondingBalance) :
    (s.payUnbonding who x).value = s.value := by
  have hsum := StorageMap.sum_set s.freeBalance who (s.freeBalance.val who + x)
  simp only [value, queued, payUnbonding, addBalance]
  omega

/-- The loop of `do_claim_unbondings`: what leaves the copy of the ledger leaves
the total and arrives on the free balance. -/
theorem claimLoop_spec (who : A) (u : StorageMap ℕ ℕ) (ks : List ℕ)
    (acc : State A × StorageMap ℕ ℕ × ℕ) (hnodup : ks.Nodup)
    (hval : ∀ k ∈ ks, acc.2.1.val k = u.val k)
    (hle : acc.2.1.sum ≤ acc.1.stake.totalUnbondingBalance) :
    let r := ks.foldl (claimStep who u) acc
    r.1.value = acc.1.value ∧
    r.2.1.sum + acc.1.stake.totalUnbondingBalance =
      acc.2.1.sum + r.1.stake.totalUnbondingBalance ∧
    r.1.stake.stakeUnbondingLedger = acc.1.stake.stakeUnbondingLedger ∧
    ∀ j v, r.2.1.find? j = some v → acc.2.1.find? j = some v := by
  induction ks generalizing acc with
  | nil => exact ⟨rfl, rfl, rfl, fun _ _ h => h⟩
  | cons k ks ih =>
      rcases List.nodup_cons.mp hnodup with ⟨hk, hnodup⟩
      rw [List.foldl_cons]
      by_cases hblock : acc.1.block < k
      · -- not due yet
        have hstep : claimStep who u acc k = acc := if_pos hblock
        rw [hstep]
        exact ih acc hnodup (fun j hj => hval j (List.mem_cons_of_mem k hj)) hle
      · have hrem := StorageMap.sum_remove acc.2.1 k
        have hamount : acc.2.1.val k = u.val k := hval k List.mem_cons_self
        have hstep : claimStep who u acc k =
            (acc.1.payUnbonding who (u.val k), acc.2.1.remove k, acc.2.2 + 1) := if_neg hblock
        rw [hstep]
        have hval' : ∀ j ∈ ks, (acc.2.1.remove k).val j = u.val j := by
          intro j hj
          have hne : j ≠ k := fun heq => hk (heq ▸ hj)
          rw [StorageMap.val_remove_ne _ hne]
          exact hval j (List.mem_cons_of_mem k hj)
        have htotal : (acc.1.payUnbonding who (u.val k)).stake.totalUnbondingBalance =
            acc.1.stake.totalUnbondingBalance - u.val k := rfl
        obtain ⟨hv, hs, hl, hsub⟩ := ih
          (acc.1.payUnbonding who (u.val k), acc.2.1.remove k, acc.2.2 + 1) hnodup hval'
          (by dsimp only; omega)
        dsimp only at hv hs hl hsub
        refine ⟨?_, by omega, hl, ?_⟩
        · rw [hv]
          exact value_payUnbonding (by omega)
        · intro j v hj
          have hj' := hsub j v hj
          rw [StorageMap.find?_remove] at hj'
          split at hj'
          · cases hj'
          · exact hj'

/-- The ledger of one account is part of all unbondings. -/
theorem unbondings_sum (s : State A) (who : A) :
    ((s.stake.stakeUnbondingLedger.find? who).elim 0 fun m => m.sum) =
      (s.unbondings who).sum := by
  unfold unbondings StorageMap.getD
  cases s.stake.stakeUnbondingLedger.find? who with
  | none => exact (StorageMap.total_empty _).symm
  | some m => rfl

/-- The ledger of one account is part of all that unbonds. -/
theorem unbondings_sum_le (s : State A) (who : A) : (s.unbondings who).sum ≤ s.unbonding := by
  rw [← unbondings_sum]
  have h := StorageMap.total_remove s.stake.stakeUnbondingLedger (fun _ m => m.sum) who
  unfold unbonding
  omega

/-- Writing the ledger of one account moves the difference. -/
theorem unbonding_set (s s' : State A) (who : A) {l : StorageMap A (StorageMap ℕ ℕ)}
    {m : StorageMap ℕ ℕ} (hl : s'.stake.stakeUnbondingLedger = l.set who m)
    (hs : s.stake.stakeUnbondingLedger = l) :
    s'.unbonding + (s.unbondings who).sum = s.unbonding + m.sum := by
  have h := StorageMap.total_set l (fun _ m => m.sum) who m
  rw [← hl, ← hs, unbondings_sum] at h
  exact h

/-- A claim moves value from the ledger to the account, and keeps the ledger's
total. -/
theorem doClaimUnbondings_spec (hb : s.stake.totalUnbondingBalance = s.unbonding) :
    (s.doClaimUnbondings who).1.value = s.value ∧
    (s.doClaimUnbondings who).1.stake.totalUnbondingBalance =
      (s.doClaimUnbondings who).1.unbonding := by
  have hle : (s.unbondings who).sum ≤ s.stake.totalUnbondingBalance := by
    rw [hb]
    exact unbondings_sum_le s who
  obtain ⟨hv, hs, hl, hsub⟩ := claimLoop_spec who (s.unbondings who) (s.unbondings who).ascKeys
    (s, s.unbondings who, 0) (StorageMap.nodup_ascKeys _) (fun _ _ => rfl) hle
  simp only at hv hs hl hsub
  unfold doClaimUnbondings
  dsimp only
  generalize (s.unbondings who).ascKeys.foldl (claimStep who (s.unbondings who))
    (s, s.unbondings who, 0) = r at *
  split
  · -- the shorter ledger is stored
    refine ⟨hv, ?_⟩
    have hset := unbonding_set s { r.1 with stake := { r.1.stake with
      stakeUnbondingLedger := r.1.stake.stakeUnbondingLedger.set who r.2.1 } } who rfl hl.symm
    dsimp only at hset ⊢
    omega
  · next hcard =>
      -- nothing was due: the copy is the ledger itself
      have hsame : r.2.1 = s.unbondings who :=
        StorageMap.eq_of_sub_of_card hsub (not_ne_iff.mp hcard).symm
      refine ⟨hv, ?_⟩
      rw [hsame] at hs
      have hun : r.1.unbonding = s.unbonding := by
        unfold unbonding
        rw [hl]
      rw [hun]
      dsimp only
      omega

/-- Claiming what is due keeps the value and the total of the ledger. -/
theorem prepareUnbondingLedgerEntry_spec (hb : s.stake.totalUnbondingBalance = s.unbonding)
    (h : s.prepareUnbondingLedgerEntry who c b = .ok s') :
    s'.value = s.value ∧ s'.stake.totalUnbondingBalance = s'.unbonding := by
  rcases prepareUnbondingLedgerEntry_ok h with rfl | rfl
  · exact ⟨rfl, hb⟩
  · exact doClaimUnbondings_spec hb

/-- An entry is added to its account and to the total alike. -/
theorem insertBalanceToUnbondingLedger_total (hb : s.stake.totalUnbondingBalance = s.unbonding) :
    (s.insertBalanceToUnbondingLedger .unbounded who x c b).stake.totalUnbondingBalance =
      (s.insertBalanceToUnbondingLedger .unbounded who x c b).unbonding := by
  have hset := unbonding_set s (s.insertBalanceToUnbondingLedger .unbounded who x c b) who rfl rfl
  have hentry : (((s.unbondings who).find? (claimBlock b c)).elim x fun v =>
      Arith.add .unbounded v x) = (s.unbondings who).val (claimBlock b c) + x := by
    unfold StorageMap.val StorageMap.getD
    cases (s.unbondings who).find? (claimBlock b c) with
    | none => exact (Nat.zero_add x).symm
    | some v => rfl
  have hsum := StorageMap.sum_set (s.unbondings who) (claimBlock b c)
    ((s.unbondings who).val (claimBlock b c) + x)
  rw [hentry] at hset
  have htotal : (s.insertBalanceToUnbondingLedger .unbounded who x c b).stake.totalUnbondingBalance =
      s.stake.totalUnbondingBalance + x := rfl
  omega

end State

/-! ## The primitives keep the books -/

namespace Books

variable {cfg : Config A} {s s' : State A} {k : PoolKind} {who : A} {id x n c b : ℕ}

/-- The books do not read the environment, nor the order of the queue. -/
theorem congr (hb : Books s) (hstake : s'.stake = s.stake) (hpools : ∀ k, (s'.pools k).Books)
    (hqueue : s'.swaps.swapCallQueue = s.swaps.swapCallQueue)
    (hnext : s'.swaps.nextSwapQueueId = s.swaps.nextSwapQueueId) : Books s' := by
  refine ⟨?_, ?_, ?_, ?_, hpools, ?_⟩
  · rw [hstake]
    exact hb.nodes
  · rw [hstake]
    exact hb.overwatch
  · rw [hstake]
    exact hb.accounts
  · unfold State.unbonding
    rw [hstake]
    exact hb.ledger
  · rw [hqueue, hnext]
    exact hb.fresh

/-- Who writes balances and the ledger keeps the other books. -/
theorem of_ledgerOnly (hb : Books s) (h : State.LedgerOnly s s')
    (hl : s'.stake.totalUnbondingBalance = s'.unbonding) : Books s' := by
  have hpools := h.pools
  rcases h with ⟨f, l, t, rfl⟩
  exact ⟨hb.nodes, hb.overwatch, hb.accounts, hl, fun k => (hpools k).symm ▸ hb.pools k, hb.fresh⟩

/-- A balance is in no book. -/
theorem removeBalance (hb : Books s) (h : s.removeBalance cfg who x = some s') : Books s' := by
  have hledger := State.removeBalance_ledgerOnly h
  rcases State.removeBalance_eq_some h with ⟨_, rfl⟩
  exact hb.of_ledgerOnly hledger hb.ledger

/-- Claims keep the books. -/
theorem prepare (hb : Books s) (h : s.prepareUnbondingLedgerEntry who c b = .ok s') : Books s' :=
  hb.of_ledgerOnly (State.prepareUnbondingLedgerEntry_ledgerOnly h)
    (State.prepareUnbondingLedgerEntry_spec hb.ledger h).2

/-- An entry in the ledger keeps the books. -/
theorem insertLedger (hb : Books s) :
    Books (s.insertBalanceToUnbondingLedger .unbounded who x c b) :=
  hb.of_ledgerOnly (State.insertBalanceToUnbondingLedger_ledgerOnly _ s who x c b)
    (State.insertBalanceToUnbondingLedger_total hb.ledger)

/-- The rate limit is in no book. -/
theorem setLastTxBlock (hb : Books s) : Books (s.setLastTxBlock who b) :=
  hb.congr rfl (fun k => State.pools_congr rfl rfl k ▸ hb.pools k) rfl rfl

/-- Stake of a node is entered in its subnet and in all. -/
theorem increaseNodeStake (hb : Books s) {i j : ℕ} :
    Books (s.increaseNodeStake .unbounded i j x) := by
  have hset := StorageMap.sum_set s.stake.nodeSubnetStake (i, j)
    (s.stake.nodeSubnetStake.val (i, j) + x)
  refine ⟨?_, hb.overwatch, hb.accounts, hb.ledger, fun k => State.pools_congr rfl rfl k ▸
    hb.pools k, hb.fresh⟩
  have := hb.nodes
  simp only [State.increaseNodeStake, Arith.add_unbounded]
  omega

/-- Stake of a node is taken out of the totals, if the node has it. -/
theorem decreaseNodeStake (hb : Books s) {i j : ℕ} (hx : x ≤ s.stake.nodeSubnetStake.val (i, j)) :
    Books (s.decreaseNodeStake i j x) := by
  have hset := StorageMap.sum_set s.stake.nodeSubnetStake (i, j)
    (s.stake.nodeSubnetStake.val (i, j) - x)
  refine ⟨?_, hb.overwatch, hb.accounts, hb.ledger, fun k => State.pools_congr rfl rfl k ▸
    hb.pools k, hb.fresh⟩
  have := hb.nodes
  simp only [State.decreaseNodeStake]
  omega

/-- Stake of an overwatch node is entered in its total. -/
theorem increaseOverwatchNodeStake (hb : Books s) {i : ℕ} :
    Books (s.increaseOverwatchNodeStake .unbounded i x) := by
  have hset := StorageMap.sum_set s.stake.overwatchNodeStakeBalance i
    (s.stake.overwatchNodeStakeBalance.val i + x)
  refine ⟨hb.nodes, ?_, hb.accounts, hb.ledger, fun k => State.pools_congr rfl rfl k ▸
    hb.pools k, hb.fresh⟩
  have := hb.overwatch
  simp only [State.increaseOverwatchNodeStake, Arith.add_unbounded]
  omega

/-- Stake of an overwatch node is taken out of its total, if the node has it. -/
theorem decreaseOverwatchNodeStake (hb : Books s) {i : ℕ}
    (hx : x ≤ s.stake.overwatchNodeStakeBalance.val i) :
    Books (s.decreaseOverwatchNodeStake i x) := by
  have hset := StorageMap.sum_set s.stake.overwatchNodeStakeBalance i
    (s.stake.overwatchNodeStakeBalance.val i - x)
  refine ⟨hb.nodes, ?_, hb.accounts, hb.ledger, fun k => State.pools_congr rfl rfl k ▸
    hb.pools k, hb.fresh⟩
  have := hb.overwatch
  simp only [State.decreaseOverwatchNodeStake]
  omega

/-- What a delegate account is paid is entered in its total. -/
theorem increaseDelegateAccountBalance (hb : Books s) :
    Books (s.increaseDelegateAccountBalance .unbounded who x) := by
  have hset := StorageMap.sum_set s.stake.delegateAccountStake who
    (s.stake.delegateAccountStake.val who + x)
  refine ⟨hb.nodes, hb.overwatch, ?_, hb.ledger, fun k => State.pools_congr rfl rfl k ▸
    hb.pools k, hb.fresh⟩
  have := hb.accounts
  simp only [State.increaseDelegateAccountBalance, Arith.add_unbounded]
  omega

/-- What a delegate account takes is taken out of its total, if the account has it. -/
theorem decreaseDelegateAccountBalance (hb : Books s)
    (hx : x ≤ s.stake.delegateAccountStake.val who) :
    Books (s.decreaseDelegateAccountBalance who x) := by
  have hset := StorageMap.sum_set s.stake.delegateAccountStake who
    (s.stake.delegateAccountStake.val who - x)
  refine ⟨hb.nodes, hb.overwatch, ?_, hb.ledger, fun k => State.pools_congr rfl rfl k ▸
    hb.pools k, hb.fresh⟩
  have := hb.accounts
  simp only [State.decreaseDelegateAccountBalance]
  omega

/-! No single balance exceeds the counter its ledger keeps. -/

/-- The books cover the stake of each node. -/
theorem nodeStake_le (hb : Books s) (k : ℕ × ℕ) :
    s.stake.nodeSubnetStake.val k ≤ s.stake.totalStake := by
  rw [hb.nodes]
  exact StorageMap.val_le_sum _ _

/-- The books cover the stake of each overwatch node. -/
theorem overwatchStake_le (hb : Books s) (i : ℕ) :
    s.stake.overwatchNodeStakeBalance.val i ≤ s.stake.totalOverwatchNodeStakeBalance := by
  rw [hb.overwatch]
  exact StorageMap.val_le_sum _ _

/-- The books cover the balance of each delegate account. -/
theorem accountStake_le (hb : Books s) (who : A) :
    s.stake.delegateAccountStake.val who ≤ s.stake.totalAccountDelegateStake := by
  rw [hb.accounts]
  exact StorageMap.val_le_sum _ _

/-- Ids are given out in increasing order, so the next one is not in use. -/
theorem next_fresh (hb : Books s) :
    s.swaps.swapCallQueue.find? s.swaps.nextSwapQueueId = none := by
  cases h : s.swaps.swapCallQueue.find? s.swaps.nextSwapQueueId with
  | none => rfl
  | some item => exact absurd (hb.fresh _ item h) (Nat.lt_irrefl _)

/-- A swap that is queued has a new id, and its balance waits. -/
theorem queueSwap (hb : Books s) {call : QueuedSwapCall A}
    (hnext : s.swaps.nextSwapQueueId < u32Max) (h : s.queueSwap cfg call = .ok s') : Books s' := by
  rcases State.queueSwap_ok h with ⟨_, rfl⟩
  refine ⟨hb.nodes, hb.overwatch, hb.accounts, hb.ledger, fun k => State.pools_congr rfl rfl k ▸
    hb.pools k, ?_⟩
  have hmin : min (s.swaps.nextSwapQueueId + 1) u32Max = s.swaps.nextSwapQueueId + 1 :=
    Nat.min_eq_left hnext
  intro id item hitem
  simp only [StorageMap.find?_set, hmin] at hitem ⊢
  split at hitem
  · omega
  · exact (hb.fresh id item hitem).trans (Nat.lt_succ_self _)

/-- A swap that goes elsewhere keeps its balance. -/
theorem setCall (hb : Books s) {item : QueuedSwapItem A} {call : QueuedSwapCall A}
    (hitem : s.swaps.swapCallQueue.find? id = some item) : Books (s.setCall id item call) := by
  refine ⟨hb.nodes, hb.overwatch, hb.accounts, hb.ledger, fun k => State.pools_congr rfl rfl k ▸
    hb.pools k, ?_⟩
  intro j other hj
  simp only [State.setCall, StorageMap.find?_set] at hj
  split at hj
  · next hid => exact hid ▸ hb.fresh id item hitem
  · exact hb.fresh j other hj

/-- A swap that is taken out has no balance left that waits. -/
theorem dequeue (hb : Books s) : Books (s.dequeue id) := by
  refine ⟨hb.nodes, hb.overwatch, hb.accounts, hb.ledger, fun k => State.pools_congr rfl rfl k ▸
    hb.pools k, ?_⟩
  intro j item hj
  simp only [State.dequeue, StorageMap.find?_remove] at hj
  split at hj
  · cases hj
  · exact hb.fresh j item hj

/-- A change of the pools by allowed operations keeps the books. -/
theorem ofReach (hb : Books s) {a : Option A} (hstake : s'.stake = s.stake)
    (hswaps : s'.swaps = s.swaps)
    (hr : ∀ l, Pools.Reach .unbounded a (s.pools l) (s'.pools l)) : Books s' :=
  hb.congr hstake (fun l => Pools.books_of_reach (hr l) (hb.pools l)) (by rw [hswaps])
    (by rw [hswaps])

/-- The books of a new chain are empty. -/
theorem genesis (env : Env A) : Books (.genesis env) := by
  refine ⟨rfl, rfl, rfl, rfl, ?_, ?_⟩
  · intro k
    cases k <;> exact Pools.books_genesis
  · intro id item h
    cases h

end Books

/-! ## Calls -/

section Calls

variable {cfg : Config A} {s s' : State A}

/-- What shares convert to is covered by the family's total. -/
theorem sharesToBalance_le_total {k : PoolKind} {who : A} {id n : ℕ} (hb : Books s)
    (hn : n ≤ (s.pools k).accountShares.val (who, id)) :
    (s.pools k).sharesToBalance .unbounded id n ≤ (s.pools k).totalBalance := by
  have hheld := (Pools.accountShares_le_held (s.pools k) id who).trans
    ((hb.pools k).inv id).held_le
  exact (Pools.sharesToBalance_le (hn.trans hheld)).trans
    (Pools.poolBalance_le_total (hb.pools k) id)

/-- A successful call moves value around, and neither creates nor destroys it. -/
theorem dispatch_value {c : Call A} (hb : Books s) (h : c.dispatch cfg .unbounded s = .ok s') :
    s'.value = s.value := by
  cases c with
  | addNodeStake a i j x =>
      rcases State.addNodeStake_ok h with ⟨s₁, hrem, rfl⟩
      have h₁ := State.value_removeBalance hrem
      rw [State.value_setLastTxBlock, State.value_increaseNodeStake]
      exact h₁
  | removeNodeStake a i j x =>
      rcases State.removeNodeStake_ok h with ⟨s₁, s₂, c, hx, hprep, hclean, rfl⟩
      -- what is withdrawn goes to the ledger, and what was unlocked by now is paid out first
      have h₁ := (State.prepareUnbondingLedgerEntry_spec hb.ledger hprep).1
      have hledger := State.prepareUnbondingLedgerEntry_ledgerOnly hprep
      rw [← hledger.nodeSubnetStake] at hx
      have h₂ : s₂.value = s₁.value ∧ s₂.stake = s₁.stake := by
        rcases hclean with rfl | ⟨v, rfl⟩
        · exact ⟨rfl, rfl⟩
        · exact ⟨State.value_cleanValidatorSubnetNodes s₁ v, rfl⟩
      have hle : x ≤ s₂.stake.totalStake := by
        rw [h₂.2]
        exact hx.trans ((hb.prepare hprep).nodeStake_le (j, i))
      have h₃ := State.value_decreaseNodeStake (i := j) (j := i) hle
      rw [State.value_setLastTxBlock, State.value_insertBalanceToUnbondingLedger]
      omega
  | addOverwatchNodeStake a i x =>
      rcases State.addOverwatchNodeStake_ok h with ⟨s₁, hrem, rfl⟩
      have h₁ := State.value_removeBalance hrem
      rw [State.value_increaseOverwatchNodeStake]
      exact h₁
  | removeOverwatchNodeStake a i x =>
      rcases State.removeOverwatchNodeStake_ok h with ⟨s₁, c, hx, hprep, rfl⟩
      have h₁ := (State.prepareUnbondingLedgerEntry_spec hb.ledger hprep).1
      have hledger := State.prepareUnbondingLedgerEntry_ledgerOnly hprep
      rw [← hledger.overwatchNodeStakeBalance] at hx
      have hle := hx.trans ((hb.prepare hprep).overwatchStake_le i)
      have h₂ := State.value_decreaseOverwatchNodeStake (i := i) hle
      rw [State.value_insertBalanceToUnbondingLedger]
      omega
  | addDelegateStake k a i x =>
      obtain ⟨s₁, shares, hrem, hsome, rfl⟩ :=
        State.doAddDelegateStake_ok (Call.dispatch_add_ok h)
      have h₁ := State.value_removeBalance hrem
      rw [State.value_setLastTxBlock, State.value_handleIncreaseAccountStake, hsome]
      simpa using h₁
  | removeDelegateStake k a i n =>
      obtain ⟨s₁, c, _, hown, hprep, rfl⟩ :=
        State.doRemoveDelegateStake_ok (Call.dispatch_remove_ok h)
      have h₁ := (State.prepareUnbondingLedgerEntry_spec hb.ledger hprep).1
      have hpools := (State.prepareUnbondingLedgerEntry_ledgerOnly hprep).pools k
      rw [← hpools] at hown ⊢
      -- shares that are owned are worth no more than the pool holds
      have hle := sharesToBalance_le_total (hb.prepare hprep) hown
      have h₂ := State.value_decreaseAccountStake a i n hle
      rw [State.value_setLastTxBlock, State.value_insertBalanceToUnbondingLedger]
      omega
  | transferDelegateStake k a dest i n =>
      rcases State.doTransferDelegateStake_ok (Call.dispatch_transfer_iff.mp h).2 with
        ⟨_, _, _, rfl⟩
      have h₁ := State.value_decreaseAccountStake a i n (Nat.zero_le (s.pools k).totalBalance)
      rw [State.value_increaseAccountStake]
      exact h₁
  | donateDelegateStake k a i x =>
      rcases State.doDonate_ok (Call.dispatch_donate_ok h) with ⟨s₁, hrem, rfl⟩
      have h₁ := State.value_removeBalance hrem
      rw [State.value_doIncreaseStake]
      exact h₁
  | swapDelegateStake k l a i j n =>
      rcases State.doSwap_ok (Call.dispatch_swap_ok h) with ⟨_, hown, hq⟩
      have hle := sharesToBalance_le_total hb hown
      have h₁ := State.value_decreaseAccountStake a i n hle
      -- the id of the queued swap is new, so no other item is replaced
      have hfresh := hb.next_fresh
      rw [← State.decreaseAccountStake_swaps s k a i ((s.pools k).sharesToBalance .unbounded i n) n]
        at hfresh
      have h₂ := State.value_queueSwap hfresh hq
      have hbal : (QueuedSwapCall.to l a j ((s.pools k).sharesToBalance .unbounded i
          n)).getQueueBalance = (s.pools k).sharesToBalance .unbounded i n := by
        cases l <;> rfl
      omega
  | updateSwapQueue a i newCall =>
      rcases State.doUpdateSwapQueue_ok h with ⟨item, hitem, _, rfl⟩
      apply State.value_setCall hitem
      cases newCall <;> rfl
  | removeDelegateAccountBalance a x =>
      rcases State.removeDelegateAccountBalance_ok h with ⟨s₁, c, hx, hprep, rfl⟩
      have h₁ := (State.prepareUnbondingLedgerEntry_spec hb.ledger hprep).1
      have hledger := State.prepareUnbondingLedgerEntry_ledgerOnly hprep
      rw [← hledger.delegateAccountStake] at hx
      have hle := hx.trans ((hb.prepare hprep).accountStake_le a)
      have h₂ := State.value_decreaseDelegateAccountBalance a hle
      rw [State.value_insertBalanceToUnbondingLedger]
      omega
  | claimUnbondings a =>
      rw [State.claimUnbondings_ok h]
      exact (State.doClaimUnbondings_spec hb.ledger).1

/-- A successful call keeps the books. -/
theorem dispatch_books {c : Call A} (hb : Books s) (howned : (Op.call c).OwnedTransfer s)
    (hnext : s.swaps.nextSwapQueueId < u32Max) (h : c.dispatch cfg .unbounded s = .ok s') :
    Books s' := by
  have hreach : ∀ l, Pools.Reach .unbounded (some c.who) (s.pools l) (s'.pools l) :=
    fun l => Op.dispatch_reach (fun _ => howned) h
  cases c with
  | addNodeStake a i j x =>
      rcases State.addNodeStake_ok h with ⟨s₁, hrem, rfl⟩
      exact (hb.removeBalance hrem).increaseNodeStake.setLastTxBlock
  | removeNodeStake a i j x =>
      rcases State.removeNodeStake_ok h with ⟨s₁, s₂, c, hx, hprep, hclean, rfl⟩
      have hb₁ := hb.prepare hprep
      have hledger := State.prepareUnbondingLedgerEntry_ledgerOnly hprep
      have h₂ : Books s₂ ∧ s₂.stake = s₁.stake := by
        rcases hclean with rfl | ⟨v, rfl⟩
        · exact ⟨hb₁, rfl⟩
        · exact ⟨hb₁.congr rfl (fun k => State.pools_congr rfl rfl k ▸ hb₁.pools k) rfl rfl, rfl⟩
      rw [← hledger.nodeSubnetStake, ← h₂.2] at hx
      exact (h₂.1.decreaseNodeStake hx).insertLedger.setLastTxBlock
  | addOverwatchNodeStake a i x =>
      rcases State.addOverwatchNodeStake_ok h with ⟨s₁, hrem, rfl⟩
      exact (hb.removeBalance hrem).increaseOverwatchNodeStake
  | removeOverwatchNodeStake a i x =>
      rcases State.removeOverwatchNodeStake_ok h with ⟨s₁, c, hx, hprep, rfl⟩
      have hledger := State.prepareUnbondingLedgerEntry_ledgerOnly hprep
      rw [← hledger.overwatchNodeStakeBalance] at hx
      exact ((hb.prepare hprep).decreaseOverwatchNodeStake hx).insertLedger
  | addDelegateStake k a i x =>
      rcases State.doAddDelegateStake_ok (Call.dispatch_add_ok h) with ⟨s₁, shares, hrem, _, rfl⟩
      refine Books.setLastTxBlock ?_
      exact (hb.removeBalance hrem).ofReach (a := none) (by simp) (by simp)
        fun l => Op.reach_handleIncrease none a
  | removeDelegateStake k a i n =>
      obtain ⟨s₁, c, _, hown, hprep, rfl⟩ :=
        State.doRemoveDelegateStake_ok (Call.dispatch_remove_ok h)
      have hpools := (State.prepareUnbondingLedgerEntry_ledgerOnly hprep).pools k
      rw [← hpools] at hown ⊢
      -- once the ledger is prepared, only the pool is touched
      have hb₂ := (hb.prepare hprep).ofReach (a := some a) (by simp) (by simp)
        fun l => Op.reach_remove (l := l) hown
      exact hb₂.insertLedger.setLastTxBlock
  | transferDelegateStake k a dest i n =>
      rcases State.doTransferDelegateStake_ok (Call.dispatch_transfer_iff.mp h).2 with
        ⟨_, _, _, rfl⟩
      exact hb.ofReach (by simp) (by simp) hreach
  | donateDelegateStake k a i x =>
      rcases State.doDonate_ok (Call.dispatch_donate_ok h) with ⟨s₁, hrem, rfl⟩
      exact (hb.removeBalance hrem).ofReach (a := none) (State.setPools_stake s₁ k _)
        (State.setPools_swaps s₁ k _) fun l => Op.reach_donate none
  | swapDelegateStake k l a i j n =>
      rcases State.doSwap_ok (Call.dispatch_swap_ok h) with ⟨_, hown, hq⟩
      have hb₁ : Books (s.decreaseAccountStake k a i ((s.pools k).sharesToBalance .unbounded i n)
          n) := hb.ofReach (a := some a) (by simp) (by simp) fun l => Op.reach_remove (l := l) hown
      exact hb₁.queueSwap (by simpa using hnext) hq
  | updateSwapQueue a i newCall =>
      rcases State.doUpdateSwapQueue_ok h with ⟨item, hitem, _, rfl⟩
      exact hb.setCall hitem
  | removeDelegateAccountBalance a x =>
      rcases State.removeDelegateAccountBalance_ok h with ⟨s₁, c, hx, hprep, rfl⟩
      have hledger := State.prepareUnbondingLedgerEntry_ledgerOnly hprep
      rw [← hledger.delegateAccountStake] at hx
      exact ((hb.prepare hprep).decreaseDelegateAccountBalance hx).insertLedger
  | claimUnbondings a =>
      rw [State.claimUnbondings_ok h]
      exact hb.of_ledgerOnly (State.doClaimUnbondings_ledgerOnly s a)
        (State.doClaimUnbondings_spec hb.ledger).2

end Calls

/-! ## The hook -/

/-- The balance of the executed items whose conversion gave no shares. -/
def lost (es : List (Executed A)) : ℕ :=
  (es.map fun e => if e.shares = none then e.item.call.getQueueBalance else 0).sum

/-- Executing one item keeps the books, and loses its balance exactly when no
shares are minted. -/
theorem ran_conserves {b : ℕ} {e : Executed A} (hb : Books e.before)
    (he : e.Ran .unbounded b) :
    e.after.value + (if e.shares = none then e.item.call.getQueueBalance else 0) =
      e.before.value ∧ Books e.after := by
  have hvalue := State.value_handleIncreaseAccountStake e.before e.item.call.kind
    e.item.call.accountId e.item.call.poolId e.item.call.getQueueBalance
  have hcredit : (e.credit .unbounded).1.swaps = e.before.swaps := by
    unfold Executed.credit
    simp
  have hfound : (e.credit .unbounded).1.swaps.swapCallQueue.find? e.id = some e.item := by
    rw [hcredit]
    exact he.found
  have hdeq := State.value_dequeue hfound
  have hshares : e.shares = ((e.before.pools e.item.call.kind).handleIncrease .unbounded
      e.item.call.accountId e.item.call.poolId e.item.call.getQueueBalance).2 := by
    rw [he.shares_eq]
    simp [Executed.credit]
  rw [he.after_eq]
  constructor
  · rw [← hshares] at hvalue
    have hv : (e.credit .unbounded).1.value = e.before.value +
        if e.shares = none then 0 else e.item.call.getQueueBalance := hvalue
    split at hv
    · next hnone =>
        rw [if_pos hnone]
        omega
    · next hsome =>
        rw [if_neg hsome]
        omega
  · refine Books.dequeue ?_
    exact hb.ofReach (a := none) (by simp [Executed.credit]) hcredit
      fun l => Op.reach_handleIncrease none _

/-- The swaps of a block keep the value, but for those that mint no shares. -/
theorem executes_conserves {b : ℕ} {s s' : State A} {es : List (Executed A)}
    (h : Executes .unbounded b s es s') (hb : Books s) :
    s'.value + lost es = s.value ∧ Books s' := by
  induction h with
  | nil _ => exact ⟨rfl, hb⟩
  | @cons e es s' he _ ih =>
      rcases ran_conserves hb he with ⟨hv, hb'⟩
      rcases ih hb' with ⟨hrest, hlast⟩
      refine ⟨?_, hlast⟩
      simp only [lost, List.map_cons, List.sum_cons] at hrest ⊢
      omega

/-! ## Whole runs -/

/-- A slash takes no more than the node has staked: it is a percentage of it. -/
def Op.Covered (s : State A) : Op A → Prop
  | .slashNode i j x => x ≤ s.stake.nodeSubnetStake.val (i, j)
  | _ => True

/-- A label that computes exactly: no counter saturates, the queue ids
included, and only owned shares are transferred. -/
structure Op.Exact (cfg : Config A) (s : State A) (op : Op A) : Prop where
  noSaturation : op.NoSaturation cfg s
  idsLeft : s.swaps.nextSwapQueueId < u32Max
  owned : op.OwnedTransfer s
  covered : op.Covered s

/-- The step lemma: a label that computes exactly keeps the books. -/
theorem books_step {cfg : Config A} {s : State A} {op : Op A} (hop : op.Exact cfg s)
    (hb : Books s) : Books (op.step cfg u128 s) := by
  rw [Op.step_eq_of_noSaturation hop.noSaturation]
  have hcovered := hop.covered
  cases op with
  | call c => exact commit_induction hb fun s' h => dispatch_books hb hop.owned hop.idsLeft h
  | executeReadySwapCalls b meter =>
      exact (executes_conserves (State.executeReadySwapCalls_executes cfg .unbounded s b meter)
        hb).2
  | rewardPool k id x =>
      exact hb.ofReach (a := none) (State.setPools_stake s k _) (State.setPools_swaps s k _)
        fun l => Op.reach_donate none
  | rewardNode i j x => exact hb.increaseNodeStake
  | rewardOverwatchNode i x => exact hb.increaseOverwatchNodeStake
  | rewardDelegateAccount a x => exact hb.increaseDelegateAccountBalance
  | slashNode i j x => exact hb.decreaseNodeStake hcovered
  | external env => exact hb.congr rfl (fun k => State.pools_congr rfl rfl k ▸ hb.pools k) rfl rfl

/-- After any labels that compute exactly the books are kept. -/
theorem books_run {cfg : Config A} {s : State A} {ops : List (Op A)}
    (hrun : Along (Op.step cfg u128) (Op.Exact cfg) s ops) (hb : Books s) :
    Books (run (Op.step cfg u128) s ops) := by
  refine run_invariant ?_ hrun hb
  intro s op hop hs
  exact books_step hop hs

/-- From genesis, run any labels that compute exactly. In the state reached,
every successful call of the staking system keeps the total value, every failing
call keeps the whole state, and the hook loses exactly the balances of the
executed items that were given no shares. -/
theorem staked_value_conserved (cfg : Config A) (env : Env A) (ops : List (Op A))
    (hrun : Along (Op.step cfg u128) (Op.Exact cfg) (.genesis env) ops) :
    let s := run (Op.step cfg u128) (.genesis env) ops
    (∀ c : Call A, (Op.call c).Exact cfg s →
      (∀ s', c.dispatch cfg u128 s = .ok s' →
        (Op.call c).step cfg u128 s = s' ∧ s'.value = s.value) ∧
      (∀ err, c.dispatch cfg u128 s = .error err → (Op.call c).step cfg u128 s = s)) ∧
    (∀ b meter, (Op.executeReadySwapCalls b meter).Exact cfg s →
      let r := (Op.executeReadySwapCalls b meter).exec cfg u128 s
      r.1.value + lost r.2 = s.value) := by
  intro s
  have hb : Books s := books_run hrun (Books.genesis env)
  refine ⟨?_, ?_⟩
  · intro c hc
    refine ⟨?_, ?_⟩
    · intro s' hs'
      have hstep : (Op.call c).step cfg u128 s = s' := by
        simp only [Op.step, Op.exec, hs', commit]
      refine ⟨hstep, ?_⟩
      rw [← hstep, Op.step_eq_of_noSaturation hc.noSaturation]
      exact commit_induction (P := fun s' => s'.value = s.value) rfl
        fun s' h => dispatch_value hb h
    · intro err herr
      simp only [Op.step, Op.exec, herr, commit]
  · intro b meter hop r
    -- nothing saturates, so the swaps are those of exact arithmetic
    have hr : r = s.executeReadySwapCalls cfg .unbounded b meter := hop.noSaturation
    rw [hr]
    exact (executes_conserves (State.executeReadySwapCalls_executes cfg .unbounded s b meter)
      hb).1

/-- A deposit and a queued swap, then a donation or the hook. -/
theorem staked_value_conserved_demo :
    let ops : List (Op ℕ) := [.call (.addDelegateStake .subnet 0 7 5000),
      .call (.swapDelegateStake .subnet .subnet 0 7 7 2000)]
    let s := run (Op.step (.runtime ℕ) u128) (.genesis demoEnv) ops
    s.value = 200000 ∧
    ((Op.call (.donateDelegateStake .subnet 1 7 3000)).step (.runtime ℕ) u128 s).value = s.value ∧
    (let r := (Op.executeReadySwapCalls 20 ⟨⟨1000000000000, 1000000⟩, ⟨0, 0⟩⟩).exec (.runtime ℕ)
      u128 s
     r.1.value + lost r.2 = s.value) := by
  intro ops s
  have hrun : Along (Op.step (.runtime ℕ) u128) (Op.Exact (.runtime ℕ)) (.genesis demoEnv) ops :=
    ⟨⟨by decide +kernel, by decide +kernel, trivial, trivial⟩,
      ⟨by decide +kernel, by decide +kernel, trivial, trivial⟩, trivial⟩
  rcases staked_value_conserved (.runtime ℕ) demoEnv ops hrun with ⟨hcalls, hhook⟩
  have hdonate : (Op.call (.donateDelegateStake .subnet 1 7 3000)).Exact (.runtime ℕ) s :=
    ⟨by decide +kernel, by decide +kernel, trivial, trivial⟩
  obtain ⟨s', hs'⟩ : ∃ s', (Call.donateDelegateStake .subnet 1 7 3000).dispatch (.runtime ℕ) u128 s
      = .ok s' := ⟨(Op.call (.donateDelegateStake .subnet 1 7 3000)).step (.runtime ℕ) u128 s,
        by decide +kernel⟩
  rcases (hcalls _ hdonate).1 s' hs' with ⟨hstep, hvalue⟩
  refine ⟨by decide +kernel, hstep ▸ hvalue, ?_⟩
  exact hhook 20 ⟨⟨1000000000000, 1000000⟩, ⟨0, 0⟩⟩
    ⟨by decide +kernel, by decide +kernel, trivial, trivial⟩

end Hypertensor
