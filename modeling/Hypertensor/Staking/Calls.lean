import Mathlib
import Hypertensor.Base.Dispatch
import Hypertensor.Staking.Pool
import Hypertensor.Staking.Ledger
import Hypertensor.Staking.Queue

/-!
# Hypertensor.Staking.Calls — the staking dispatchables

Every call takes the signed account first and performs its checks in the order
of the source. Calls that the source writes once for subnets and once for
validators are one definition over `PoolKind`; each keeps its own name, guards
and errors below it.
-/

namespace Hypertensor

open Base

variable {A : Type} [DecidableEq A]

namespace State

/-- `is_paused`. -/
def isPaused (s : State A) : Except Error Unit := ensure (!s.params.txPause) .paused

/-- Whether the subnet or validator of a pool is registered. -/
def poolExists (s : State A) : PoolKind → ℕ → Bool
  | .subnet, id => s.subnets.subnetsData.contains id
  | .validator, id => s.validators.validatorsData.contains id

/-! ## Delegate stake -/

/-- `perform_do_add_delegate_stake` and its validator twin. With `swap` no
balance is taken from the account. -/
def performDoAddDelegateStake (cfg : Config A) (ar : Arith) (s : State A) (k : PoolKind) (accountId : A)
    (id amount : ℕ) (swap : Bool) : Except Error (State A) := do
  ensure (decide (s.params.minDelegateStakeDeposit ≤ amount)) .minDelegateStakeDepositNotReached
  ensure (swap || s.canRemoveBalance cfg accountId amount) .notEnoughBalanceToStake
  ensure (!s.exceedsTxRateLimit (s.lastTxBlock.val accountId) s.block) .txRateLimitExceeded
  let s₁ ← okOr (if swap then some s else s.removeBalance cfg accountId amount) .balanceWithdrawalError
  let r := s₁.handleIncreaseAccountStake ar k accountId id amount
  let _ ← okOr r.2 .couldNotConvertToShares
  .ok r.1

/-- `do_add_delegate_stake` and its validator twin. -/
def doAddDelegateStake (cfg : Config A) (ar : Arith) (s : State A) (k : PoolKind) (accountId : A)
    (id amount : ℕ) : Except Error (State A) := do
  let s₁ ← s.performDoAddDelegateStake cfg ar k accountId id amount false
  .ok (s₁.setLastTxBlock accountId s.block)

/-- `perform_do_remove_subnet_delegate_stake` and its validator twin: the state
and the balance removed. -/
def performDoRemoveDelegateStake (cfg : Config A) (ar : Arith) (s : State A) (k : PoolKind)
    (accountId : A) (id shares : ℕ) (addToLedger : Bool) : Except Error (State A × ℕ) := do
  ensure (decide (shares ≠ 0)) .sharesZero
  ensure (decide (shares ≤ (s.pools k).accountShares.val (accountId, id))) .notEnoughStakeToWithdraw
  let balance := (s.pools k).sharesToBalance ar id shares
  ensure (!s.exceedsTxRateLimit (s.lastTxBlock.val accountId) s.block) .txRateLimitExceeded
  let cooldownBlocks := wrapMul 32 s.params.delegateStakeCooldownEpochs cfg.epochLength
  let s₁ ← if addToLedger then s.prepareUnbondingLedgerEntry accountId cooldownBlocks s.block
    else .ok s
  let s₂ := s₁.decreaseAccountStake k accountId id balance shares
  let s₃ := if addToLedger
    then s₂.insertBalanceToUnbondingLedger ar accountId balance cooldownBlocks s.block else s₂
  .ok (s₃, balance)

/-- `do_remove_delegate_stake` and its validator twin. -/
def doRemoveDelegateStake (cfg : Config A) (ar : Arith) (s : State A) (k : PoolKind) (accountId : A)
    (id shares : ℕ) : Except Error (State A) := do
  let r ← s.performDoRemoveDelegateStake cfg ar k accountId id shares true
  .ok (r.1.setLastTxBlock accountId s.block)

/-- `do_transfer_delegate_stake` and its validator twin. -/
def doTransferDelegateStake (ar : Arith) (s : State A) (k : PoolKind) (accountId toAccountId : A)
    (id shares : ℕ) : Except Error (State A) := do
  ensure (decide (accountId ≠ toAccountId)) .transferToSelfNotAllowed
  ensure (decide (shares ≠ 0)) .notEnoughStakeToWithdraw
  let balance := (s.pools k).sharesToBalance ar id shares
  ensure (decide (balance ≥ s.params.minDelegateStakeDeposit)) .minDelegateStakeDepositNotReached
  .ok ((s.decreaseAccountStake k accountId id 0 shares).increaseAccountStake ar k toAccountId id 0
    shares)

/-- The swaps of `stake/transfer_utils.rs`: take the shares out of one pool and
queue the balance for another. -/
def doSwap (cfg : Config A) (ar : Arith) (s : State A) (k l : PoolKind) (accountId : A)
    (fromId toId shares : ℕ) : Except Error (State A) := do
  let r ← s.performDoRemoveDelegateStake cfg ar k accountId fromId shares false
  r.1.queueSwap cfg (.to l accountId toId r.2)

/-- The body of the donation calls, after the checks that differ. -/
def doDonate (cfg : Config A) (ar : Arith) (s : State A) (k : PoolKind) (accountId : A) (id amount : ℕ) :
    Except Error (State A) := do
  ensure (decide (amount ≥ s.params.minDelegateStakeDeposit)) .minDelegateStake
  ensure (s.canRemoveBalance cfg accountId amount) .notEnoughBalance
  let s₁ ← okOr (s.removeBalance cfg accountId amount) .balanceWithdrawalError
  .ok (s₁.doIncreaseStake ar k id amount)

/-- `add_delegate_stake`. -/
def addDelegateStake (cfg : Config A) (ar : Arith) (s : State A) (accountId : A) (subnetId amount : ℕ) :
    Except Error (State A) := do
  s.isPaused
  ensure (s.poolExists .subnet subnetId) .invalidSubnetId
  s.doAddDelegateStake cfg ar .subnet accountId subnetId amount

/-- `add_validator_delegate_stake`. -/
def addValidatorDelegateStake (cfg : Config A) (ar : Arith) (s : State A) (accountId : A) (validatorId amount : ℕ) :
    Except Error (State A) := do
  s.isPaused
  ensure (s.poolExists .validator validatorId) .invalidValidatorId
  s.doAddDelegateStake cfg ar .validator accountId validatorId amount

/-- `remove_delegate_stake`. -/
def removeDelegateStake (cfg : Config A) (ar : Arith) (s : State A) (accountId : A)
    (subnetId shares : ℕ) : Except Error (State A) := do
  s.isPaused
  s.doRemoveDelegateStake cfg ar .subnet accountId subnetId shares

/-- `remove_validator_delegate_stake`. -/
def removeValidatorDelegateStake (cfg : Config A) (ar : Arith) (s : State A) (accountId : A)
    (validatorId shares : ℕ) : Except Error (State A) := do
  s.isPaused
  s.doRemoveDelegateStake cfg ar .validator accountId validatorId shares

/-- `transfer_delegate_stake`. -/
def transferDelegateStake (ar : Arith) (s : State A) (accountId : A) (subnetId : ℕ)
    (toAccountId : A) (shares : ℕ) : Except Error (State A) := do
  s.isPaused
  s.doTransferDelegateStake ar .subnet accountId toAccountId subnetId shares

/-- `transfer_validator_delegate_stake`. -/
def transferValidatorDelegateStake (ar : Arith) (s : State A) (accountId : A) (validatorId : ℕ)
    (toAccountId : A) (shares : ℕ) : Except Error (State A) := do
  s.isPaused
  s.doTransferDelegateStake ar .validator accountId toAccountId validatorId shares

/-- `donate_delegate_stake`. -/
def donateDelegateStake (cfg : Config A) (ar : Arith) (s : State A) (accountId : A) (subnetId amount : ℕ) :
    Except Error (State A) := do
  s.isPaused
  ensure (s.poolExists .subnet subnetId) .invalidSubnetId
  s.doDonate cfg ar .subnet accountId subnetId amount

/-- `donate_validator_delegate_stake`; a missing validator is reported as a
missing subnet node. -/
def donateValidatorDelegateStake (cfg : Config A) (ar : Arith) (s : State A) (accountId : A)
    (validatorId amount : ℕ) : Except Error (State A) := do
  s.isPaused
  ensure (s.poolExists .validator validatorId) .invalidSubnetNodeId
  s.doDonate cfg ar .validator accountId validatorId amount

/-- `swap_from_subnet_to_subnet`. -/
def swapFromSubnetToSubnet (cfg : Config A) (ar : Arith) (s : State A) (accountId : A)
    (fromSubnetId toSubnetId shares : ℕ) : Except Error (State A) := do
  s.isPaused
  ensure (s.poolExists .subnet toSubnetId) .invalidSubnetId
  s.doSwap cfg ar .subnet .subnet accountId fromSubnetId toSubnetId shares

/-- `swap_from_validator_to_validator`; the destination is not checked. -/
def swapFromValidatorToValidator (cfg : Config A) (ar : Arith) (s : State A) (accountId : A)
    (fromValidatorId toValidatorId shares : ℕ) : Except Error (State A) := do
  s.isPaused
  s.doSwap cfg ar .validator .validator accountId fromValidatorId toValidatorId shares

/-- `swap_from_validator_to_subnet`. -/
def swapFromValidatorToSubnet (cfg : Config A) (ar : Arith) (s : State A) (accountId : A)
    (fromValidatorId toSubnetId shares : ℕ) : Except Error (State A) := do
  s.isPaused
  ensure (s.poolExists .subnet toSubnetId) .invalidSubnetId
  s.doSwap cfg ar .validator .subnet accountId fromValidatorId toSubnetId shares

/-- `swap_from_subnet_to_validator`. -/
def swapFromSubnetToValidator (cfg : Config A) (ar : Arith) (s : State A) (accountId : A)
    (fromSubnetId toValidatorId shares : ℕ) : Except Error (State A) := do
  s.isPaused
  ensure (s.poolExists .validator toValidatorId) .invalidValidatorId
  s.doSwap cfg ar .subnet .validator accountId fromSubnetId toValidatorId shares

/-- `update_swap_queue`, which does not check for a pause. -/
def updateSwapQueue (s : State A) (accountId : A) (id : ℕ) (newCall : QueuedSwapCall A) :
    Except Error (State A) :=
  s.doUpdateSwapQueue accountId id newCall

/-! ## Node stake -/

/-- The coldkey of the validator that owns a subnet node. -/
def nodeColdkey (s : State A) (subnetId subnetNodeId : ℕ) : Except Error (ℕ × A) := do
  let validatorId ← okOr (s.nodes.subnetNodeValidatorId.find? (subnetId, subnetNodeId))
    .invalidSubnetNodeId
  let coldkey ← okOr (s.validators.validatorColdkey.find? validatorId) .invalidValidatorId
  .ok (validatorId, coldkey)

/-- `SubnetMinStakeBalance`. -/
def minStakeBalance (s : State A) (subnetId : ℕ) : ℕ :=
  s.subnets.subnetMinStakeBalance.getD subnetId 100000000000000000000

/-- `SubnetMaxStakeBalance`. -/
def maxStakeBalance (s : State A) (subnetId : ℕ) : ℕ :=
  s.subnets.subnetMaxStakeBalance.getD subnetId 1000000000000000000000

/-- `add_node_stake` and `do_add_node_stake`. -/
def addNodeStake (cfg : Config A) (ar : Arith) (s : State A) (coldkey : A) (subnetId subnetNodeId amount : ℕ) :
    Except Error (State A) := do
  s.isPaused
  ensure (s.subnets.subnetsData.contains subnetId) .invalidSubnetId
  let owner ← s.nodeColdkey subnetId subnetNodeId
  ensure (decide (coldkey = owner.2)) .notKeyOwner
  ensure (decide (amount ≠ 0)) .invalidAmount
  let nodeStakeBalance := s.stake.nodeSubnetStake.val (subnetNodeId, subnetId)
  ensure (decide (ar.add nodeStakeBalance amount ≥ s.minStakeBalance subnetId))
    .minStakeNotReached
  ensure (decide (ar.add nodeStakeBalance amount ≤ s.maxStakeBalance subnetId))
    .maxStakeReached
  ensure (s.canRemoveBalance cfg coldkey amount) .notEnoughBalanceToStake
  ensure (!s.exceedsTxRateLimit (s.lastTxBlock.val coldkey) s.block) .txRateLimitExceeded
  let s₁ ← okOr (s.removeBalance cfg coldkey amount) .balanceWithdrawalError
  .ok ((s₁.increaseNodeStake ar subnetNodeId subnetId amount).setLastTxBlock coldkey s.block)

/-- `clean_validator_subnet_nodes`: drop the subnets that no longer exist. -/
def cleanValidatorSubnetNodes (s : State A) (validatorId : ℕ) : State A :=
  let map := s.validators.validatorSubnetNodes.getD validatorId ∅
  { s with validators := { s.validators with
      validatorSubnetNodes := s.validators.validatorSubnetNodes.set validatorId
        (map.filter fun subnetId _ => s.subnets.subnetsData.contains subnetId) } }

/-- `do_remove_node_stake`. -/
def doRemoveNodeStake (cfg : Config A) (ar : Arith) (s : State A) (coldkey : A)
    (subnetId subnetNodeId amount : ℕ) : Except Error (State A) := do
  let owner ← s.nodeColdkey subnetId subnetNodeId
  ensure (decide (coldkey = owner.2)) .notKeyOwner
  let isSubnetNode := s.nodes.subnetNodeReputation.contains (subnetId, subnetNodeId)
  let nodeStakeBalance := s.stake.nodeSubnetStake.val (subnetNodeId, subnetId)
  ensure (decide (amount > 0)) .amountZero
  ensure (decide (nodeStakeBalance ≥ amount)) .notEnoughStakeToWithdraw
  -- a node that is still in its subnet keeps the required minimum
  ensure (!isSubnetNode ||
    decide (nodeStakeBalance - amount ≥ s.minStakeBalance subnetId))
    .minStakeNotReached
  let shouldClean := !isSubnetNode && decide (amount ≥ nodeStakeBalance)
  ensure (!s.exceedsTxRateLimit (s.lastTxBlock.val coldkey) s.block) .txRateLimitExceeded
  let cooldownBlocks := wrapMul 32 s.params.stakeCooldownEpochs cfg.epochLength
  let s₁ ← s.prepareUnbondingLedgerEntry coldkey cooldownBlocks s.block
  let s₂ := if shouldClean then s₁.cleanValidatorSubnetNodes owner.1 else s₁
  let s₃ := s₂.decreaseNodeStake subnetNodeId subnetId amount
  let s₄ := s₃.insertBalanceToUnbondingLedger ar coldkey amount cooldownBlocks s.block
  .ok (s₄.setLastTxBlock coldkey s.block)

/-- `remove_node_stake`. -/
def removeNodeStake (cfg : Config A) (ar : Arith) (s : State A) (coldkey : A)
    (subnetId subnetNodeId amount : ℕ) : Except Error (State A) := do
  s.isPaused
  s.doRemoveNodeStake cfg ar coldkey subnetId subnetNodeId amount

/-! ## Overwatch stake -/

/-- The coldkey of the validator that owns an overwatch node. -/
def overwatchColdkey (s : State A) (overwatchNodeId : ℕ) : Except Error A := do
  let validatorId ← okOr (s.overwatch.overwatchNodeValidatorId.find? overwatchNodeId)
    .invalidSubnetNodeId
  okOr (s.validators.validatorColdkey.find? validatorId) .invalidValidatorId

/-- `add_overwatch_node_stake` and `do_add_overwatch_node_stake`. -/
def addOverwatchNodeStake (cfg : Config A) (ar : Arith) (s : State A) (coldkey : A) (overwatchNodeId amount : ℕ) :
    Except Error (State A) := do
  s.isPaused
  let owner ← s.overwatchColdkey overwatchNodeId
  ensure (decide (coldkey = owner)) .notKeyOwner
  ensure (decide (amount ≠ 0)) .invalidAmount
  ensure (decide (ar.add (s.stake.overwatchNodeStakeBalance.val overwatchNodeId) amount ≥
    s.params.overwatchMinStakeBalance)) .minStakeNotReached
  ensure (s.canRemoveBalance cfg coldkey amount) .notEnoughBalanceToStake
  let s₁ ← okOr (s.removeBalance cfg coldkey amount) .balanceWithdrawalError
  .ok (s₁.increaseOverwatchNodeStake ar overwatchNodeId amount)

/-- `remove_overwatch_node_stake` and `do_remove_overwatch_node_stake`. -/
def removeOverwatchNodeStake (cfg : Config A) (ar : Arith) (s : State A) (coldkey : A)
    (overwatchNodeId amount : ℕ) : Except Error (State A) := do
  s.isPaused
  let isOverwatchNode := decide (overwatchNodeId ∈ s.overwatch.overwatchNodes)
  let owner ← s.overwatchColdkey overwatchNodeId
  ensure (decide (coldkey = owner)) .notKeyOwner
  ensure (decide (amount > 0)) .amountZero
  let accountStakeBalance := s.stake.overwatchNodeStakeBalance.val overwatchNodeId
  ensure (decide (accountStakeBalance ≥ amount)) .notEnoughStakeToWithdraw
  ensure (!isOverwatchNode ||
    decide (accountStakeBalance - amount ≥ s.params.overwatchMinStakeBalance)) .minStakeNotReached
  let cooldownBlocks := wrapMul 32 s.params.stakeCooldownEpochs cfg.epochLength
  let s₁ ← s.prepareUnbondingLedgerEntry coldkey cooldownBlocks s.block
  let s₂ := s₁.decreaseOverwatchNodeStake overwatchNodeId amount
  .ok (s₂.insertBalanceToUnbondingLedger ar coldkey amount cooldownBlocks s.block)

/-! ## Delegate accounts and claims -/

/-- `remove_delegate_account_balance`. -/
def removeDelegateAccountBalance (cfg : Config A) (ar : Arith) (s : State A) (accountId : A)
    (amount : ℕ) : Except Error (State A) := do
  s.isPaused
  ensure (decide (amount > 0)) .amountZero
  ensure (decide (s.stake.delegateAccountStake.val accountId ≥ amount)) .notEnoughStakeToWithdraw
  let cooldownBlocks := wrapMul 32 s.params.stakeCooldownEpochs cfg.epochLength
  let s₁ ← s.prepareUnbondingLedgerEntry accountId cooldownBlocks s.block
  let s₂ := s₁.decreaseDelegateAccountBalance accountId amount
  .ok (s₂.insertBalanceToUnbondingLedger ar accountId amount cooldownBlocks s.block)

/-- `claim_unbondings`. -/
def claimUnbondings (s : State A) (coldkey : A) : Except Error (State A) := do
  s.isPaused
  let r := s.doClaimUnbondings coldkey
  ensure (decide (r.2 > 0)) .noStakeUnbondingsOrCooldownNotMet
  .ok r.1

/-! ## What successful calls do -/

section Inversion

variable {cfg : Config A} {ar : Arith} {s s' : State A} {k l : PoolKind} {who dest : A}
  {id x n : ℕ}

omit [DecidableEq A] in
theorem isPaused_bind_ok {f : Unit → Except Error (State A)} :
    (s.isPaused >>= f) = .ok s' ↔ s.params.txPause = false ∧ f () = .ok s' := by
  unfold isPaused
  rw [ensure_bind_ok]
  simp

/-- A deposit takes the amount from the account and hands it to the pool. -/
theorem doAddDelegateStake_ok (h : s.doAddDelegateStake cfg ar k who id x = .ok s') :
    ∃ s₁ shares, s.removeBalance cfg who x = some s₁ ∧
      ((s₁.pools k).handleIncrease ar who id x).2 = some shares ∧
      s' = (s₁.handleIncreaseAccountStake ar k who id x).1.setLastTxBlock who s.block := by
  unfold doAddDelegateStake performDoAddDelegateStake at h
  simp only [bind_ok, ensure_ok, okOr_ok] at h
  rcases h with ⟨s₂, ⟨_, _, _, _, _, _, s₁, hrem, shares, hsome, hs₂⟩, hs'⟩
  refine ⟨s₁, shares, by simpa using hrem, by simpa using hsome, ?_⟩
  rw [← Except.ok.inj hs', ← Except.ok.inj hs₂]

/-- A removal converts the shares at the pool's price before it, and moves the
balance to the ledger if asked to. -/
theorem performDoRemoveDelegateStake_ok {addToLedger : Bool} {r : State A × ℕ}
    (h : s.performDoRemoveDelegateStake cfg ar k who id n addToLedger = .ok r) :
    n ≠ 0 ∧ n ≤ (s.pools k).accountShares.val (who, id) ∧
    r.2 = (s.pools k).sharesToBalance ar id n ∧
    ∃ s₁ c, (addToLedger = true ∧ s.prepareUnbondingLedgerEntry who c s.block = .ok s₁ ∧
        r.1 = (s₁.decreaseAccountStake k who id r.2 n).insertBalanceToUnbondingLedger ar who r.2 c
          s.block) ∨
      (addToLedger = false ∧ s₁ = s ∧ r.1 = s₁.decreaseAccountStake k who id r.2 n) := by
  unfold performDoRemoveDelegateStake at h
  cases addToLedger with
  | true =>
      simp only [if_true, bind_ok, ensure_ok, decide_eq_true_eq] at h
      rcases h with ⟨_, hn, _, hown, _, _, s₁, hprep, hr⟩
      rw [← Except.ok.inj hr]
      exact ⟨hn, hown, rfl, s₁, _, Or.inl ⟨rfl, hprep, rfl⟩⟩
  | false =>
      simp only [Bool.false_eq_true, if_false, bind_ok, ensure_ok, decide_eq_true_eq] at h
      rcases h with ⟨_, hn, _, hown, _, _, s₁, hs₁, hr⟩
      rw [← Except.ok.inj hr, ← Except.ok.inj hs₁]
      exact ⟨hn, hown, rfl, s, 0, Or.inr ⟨rfl, rfl, rfl⟩⟩

theorem doRemoveDelegateStake_ok (h : s.doRemoveDelegateStake cfg ar k who id n = .ok s') :
    ∃ s₁ c, n ≠ 0 ∧ n ≤ (s.pools k).accountShares.val (who, id) ∧
      s.prepareUnbondingLedgerEntry who c s.block = .ok s₁ ∧
      s' = ((s₁.decreaseAccountStake k who id ((s.pools k).sharesToBalance ar id n)
        n).insertBalanceToUnbondingLedger ar who ((s.pools k).sharesToBalance ar id n) c
        s.block).setLastTxBlock who s.block := by
  unfold doRemoveDelegateStake at h
  simp only [bind_ok] at h
  rcases h with ⟨r, hr, hs'⟩
  rcases performDoRemoveDelegateStake_ok hr with ⟨hn, hown, hb, s₁, c, hcase⟩
  rcases hcase with ⟨_, hprep, hr1⟩ | ⟨hf, _⟩
  · refine ⟨s₁, c, hn, hown, hprep, ?_⟩
    rw [← Except.ok.inj hs', hr1, hb]
  · cases hf

theorem doTransferDelegateStake_ok
    (h : s.doTransferDelegateStake ar k who dest id n = .ok s') :
    who ≠ dest ∧ n ≠ 0 ∧
    s.params.minDelegateStakeDeposit ≤ (s.pools k).sharesToBalance ar id n ∧
    s' = (s.decreaseAccountStake k who id 0 n).increaseAccountStake ar k dest id 0 n := by
  unfold doTransferDelegateStake at h
  simp only [ensure_bind_ok, decide_eq_true_eq] at h
  rcases h with ⟨hne, hn, hmin, hs'⟩
  exact ⟨hne, hn, hmin, (Except.ok.inj hs').symm⟩

omit [DecidableEq A] in
theorem queueSwap_ok {call : QueuedSwapCall A} (h : s.queueSwap cfg call = .ok s') :
    s.swaps.swapQueueOrder.length < cfg.maxSwapQueueLength ∧
    s' = { s with swaps :=
      { swapCallQueue := s.swaps.swapCallQueue.set s.swaps.nextSwapQueueId
          ⟨s.swaps.nextSwapQueueId, call, s.block, cfg.epochLength⟩
        swapQueueOrder := s.swaps.swapQueueOrder ++ [s.swaps.nextSwapQueueId]
        nextSwapQueueId := min (s.swaps.nextSwapQueueId + 1) u32Max } } := by
  unfold queueSwap at h
  dsimp only at h
  rw [ensure_bind_ok, decide_eq_true_eq] at h
  exact ⟨h.1, (Except.ok.inj h.2).symm⟩

/-- A swap removes the shares and queues their balance. -/
theorem doSwap_ok {fromId toId : ℕ} (h : s.doSwap cfg ar k l who fromId toId n = .ok s') :
    n ≠ 0 ∧ n ≤ (s.pools k).accountShares.val (who, fromId) ∧
    (s.decreaseAccountStake k who fromId ((s.pools k).sharesToBalance ar fromId n) n).queueSwap cfg
      (.to l who toId ((s.pools k).sharesToBalance ar fromId n)) = .ok s' := by
  unfold doSwap at h
  simp only [bind_ok] at h
  rcases h with ⟨r, hr, hq⟩
  rcases performDoRemoveDelegateStake_ok hr with ⟨hn, hown, hb, s₁, c, hcase⟩
  rcases hcase with ⟨hf, _⟩ | ⟨_, hs₁, hr1⟩
  · cases hf
  · subst hs₁
    refine ⟨hn, hown, ?_⟩
    rw [hr1, hb] at hq
    exact hq

theorem doDonate_ok (h : s.doDonate cfg ar k who id x = .ok s') :
    ∃ s₁, s.removeBalance cfg who x = some s₁ ∧ s' = s₁.doIncreaseStake ar k id x := by
  unfold doDonate at h
  simp only [ensure_bind_ok, okOr_bind_ok] at h
  rcases h with ⟨_, _, s₁, hrem, hs'⟩
  exact ⟨s₁, hrem, (Except.ok.inj hs').symm⟩

/-- A successful update overwrites the destination, and the account with the
caller's. -/
theorem doUpdateSwapQueue_ok {newCall : QueuedSwapCall A}
    (h : s.doUpdateSwapQueue who id newCall = .ok s') :
    ∃ item, s.swaps.swapCallQueue.find? id = some item ∧ newCall.accountId = who ∧
      s' = s.setCall id item (.to newCall.kind who newCall.poolId item.call.getQueueBalance) := by
  unfold doUpdateSwapQueue at h
  rw [okOr_bind_ok] at h
  rcases h with ⟨item, hfind, h⟩
  refine ⟨item, hfind, ?_⟩
  cases newCall with
  | swapToSubnetDelegateStake a toId b =>
      simp only [ensure_bind_ok, decide_eq_true_eq] at h
      rcases h with ⟨ha, _, hs'⟩
      subst ha
      exact ⟨rfl, (Except.ok.inj hs').symm⟩
  | swapToValidatorDelegateStake a toId b =>
      simp only [ensure_bind_ok, decide_eq_true_eq] at h
      rcases h with ⟨ha, _, hs'⟩
      subst ha
      exact ⟨rfl, (Except.ok.inj hs').symm⟩

theorem addNodeStake_ok {subnetId nodeId : ℕ}
    (h : s.addNodeStake cfg ar who subnetId nodeId x = .ok s') :
    ∃ s₁, s.removeBalance cfg who x = some s₁ ∧
      s' = (s₁.increaseNodeStake ar nodeId subnetId x).setLastTxBlock who s.block := by
  unfold addNodeStake at h
  rw [isPaused_bind_ok] at h
  simp only [bind_ok, ensure_ok, okOr_ok] at h
  rcases h with ⟨_, _, _, _, _, _, _, _, _, _, _, _, _, _, _, _, _, s₁, hrem, hs'⟩
  exact ⟨s₁, hrem, (Except.ok.inj hs').symm⟩

theorem removeNodeStake_ok {subnetId nodeId : ℕ}
    (h : s.removeNodeStake cfg ar who subnetId nodeId x = .ok s') :
    ∃ s₁ s₂ c, x ≤ s.stake.nodeSubnetStake.val (nodeId, subnetId) ∧
      s.prepareUnbondingLedgerEntry who c s.block = .ok s₁ ∧
      (s₂ = s₁ ∨ ∃ v, s₂ = s₁.cleanValidatorSubnetNodes v) ∧
      s' = ((s₂.decreaseNodeStake nodeId subnetId x).insertBalanceToUnbondingLedger ar who x c
        s.block).setLastTxBlock who s.block := by
  unfold removeNodeStake doRemoveNodeStake at h
  rw [isPaused_bind_ok] at h
  simp only [bind_ok, ensure_ok, decide_eq_true_eq] at h
  rcases h with ⟨_, owner, _, _, _, _, _, _, hx, _, _, _, _, s₁, hprep, hs'⟩
  refine ⟨s₁, _, _, hx, hprep, ?_, (Except.ok.inj hs').symm⟩
  split
  · exact Or.inr ⟨owner.1, rfl⟩
  · exact Or.inl rfl

theorem addOverwatchNodeStake_ok (h : s.addOverwatchNodeStake cfg ar who id x = .ok s') :
    ∃ s₁, s.removeBalance cfg who x = some s₁ ∧ s' = s₁.increaseOverwatchNodeStake ar id x := by
  unfold addOverwatchNodeStake at h
  rw [isPaused_bind_ok] at h
  simp only [bind_ok, ensure_ok, okOr_ok] at h
  rcases h with ⟨_, _, _, _, _, _, _, _, _, _, _, s₁, hrem, hs'⟩
  exact ⟨s₁, hrem, (Except.ok.inj hs').symm⟩

theorem removeOverwatchNodeStake_ok (h : s.removeOverwatchNodeStake cfg ar who id x = .ok s') :
    ∃ s₁ c, x ≤ s.stake.overwatchNodeStakeBalance.val id ∧
      s.prepareUnbondingLedgerEntry who c s.block = .ok s₁ ∧
      s' = (s₁.decreaseOverwatchNodeStake id x).insertBalanceToUnbondingLedger ar who x c
        s.block := by
  unfold removeOverwatchNodeStake at h
  rw [isPaused_bind_ok] at h
  simp only [bind_ok, ensure_ok, decide_eq_true_eq] at h
  rcases h with ⟨_, _, _, _, _, _, _, _, hx, _, _, s₁, hprep, hs'⟩
  exact ⟨s₁, _, hx, hprep, (Except.ok.inj hs').symm⟩

theorem removeDelegateAccountBalance_ok
    (h : s.removeDelegateAccountBalance cfg ar who x = .ok s') :
    ∃ s₁ c, x ≤ s.stake.delegateAccountStake.val who ∧
      s.prepareUnbondingLedgerEntry who c s.block = .ok s₁ ∧
      s' = (s₁.decreaseDelegateAccountBalance who x).insertBalanceToUnbondingLedger ar who x c
        s.block := by
  unfold removeDelegateAccountBalance at h
  rw [isPaused_bind_ok] at h
  simp only [bind_ok, ensure_ok, decide_eq_true_eq] at h
  rcases h with ⟨_, _, _, _, hx, s₁, hprep, hs'⟩
  exact ⟨s₁, _, hx, hprep, (Except.ok.inj hs').symm⟩

theorem claimUnbondings_ok (h : s.claimUnbondings who = .ok s') :
    s' = (s.doClaimUnbondings who).1 := by
  unfold claimUnbondings at h
  rw [isPaused_bind_ok] at h
  dsimp only at h
  rw [ensure_bind_ok] at h
  exact (Except.ok.inj h.2.2).symm

end Inversion

end State

end Hypertensor
