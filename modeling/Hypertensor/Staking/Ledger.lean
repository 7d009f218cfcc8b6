import Mathlib
import Hypertensor.Base.Dispatch
import Hypertensor.State

/-!
# Hypertensor.Staking.Ledger — balances, direct stake and unbonding

The primitives of `stake/staking_utils.rs` and the counters of
`stake/node_staking.rs`, `stake/overwatch_node_staking.rs` and
`stake/delegate_account.rs`.

* `canRemoveBalance`, `removeBalance`, `addBalance`: the currency.
* `increaseNodeStake` and its relatives: an amount and its totals move together.
* `prepareUnbondingLedgerEntry`, `insertBalanceToUnbondingLedger`,
  `doClaimUnbondings`: the unbonding ledger, with the claim a full ledger
  triggers by itself.
-/

namespace Hypertensor

open Base

variable {A : Type} [DecidableEq A]

namespace State

/-! ## Currency -/

/-- `can_remove_balance_from_coldkey_account`. -/
def canRemoveBalance (cfg : Config A) (s : State A) (coldkey : A) (amount : ℕ) : Bool :=
  if amount > s.freeBalance.val coldkey then false
  else (cfg.currency s.locks).ensureCanWithdraw coldkey amount (s.freeBalance.val coldkey - amount)

/-- `remove_balance_from_coldkey_account`: `none` where it returns `false`. -/
def removeBalance (cfg : Config A) (s : State A) (coldkey : A) (amount : ℕ) : Option (State A) :=
  if amount ≤ s.freeBalance.val coldkey ∧
      (cfg.currency s.locks).withdraw coldkey amount (s.freeBalance.val coldkey - amount) = true then
    some { s with freeBalance := s.freeBalance.set coldkey (s.freeBalance.val coldkey - amount) }
  else none

/-- `add_balance_to_coldkey_account`. -/
def addBalance (s : State A) (coldkey : A) (amount : ℕ) : State A :=
  { s with freeBalance := s.freeBalance.set coldkey (s.freeBalance.val coldkey + amount) }

/-! ## Rate limit -/

/-- `exceeds_tx_rate_limit`; the difference of blocks is a plain `u32`
subtraction. -/
def exceedsTxRateLimit (s : State A) (prevTxBlock currentBlock : ℕ) : Bool :=
  if s.params.txRateLimit = 0 ∨ prevTxBlock = 0 then false
  else decide (wrapSub 32 currentBlock prevTxBlock ≤ s.params.txRateLimit)

/-- `set_last_tx_block`. -/
def setLastTxBlock (s : State A) (key : A) (block : ℕ) : State A :=
  { s with lastTxBlock := s.lastTxBlock.set key block }

/-! ## Direct stake -/

/-- `increase_node_stake`. -/
def increaseNodeStake (ar : Arith) (s : State A) (subnetNodeId subnetId amount : ℕ) : State A :=
  { s with stake := { s.stake with
      nodeSubnetStake := s.stake.nodeSubnetStake.set (subnetNodeId, subnetId)
        (ar.add (s.stake.nodeSubnetStake.val (subnetNodeId, subnetId)) amount)
      totalSubnetStake := s.stake.totalSubnetStake.set subnetId
        (ar.add (s.stake.totalSubnetStake.val subnetId) amount)
      totalStake := ar.add s.stake.totalStake amount } }

/-- `decrease_node_stake`. -/
def decreaseNodeStake (s : State A) (subnetNodeId subnetId amount : ℕ) : State A :=
  { s with stake := { s.stake with
      nodeSubnetStake := s.stake.nodeSubnetStake.set (subnetNodeId, subnetId)
        (s.stake.nodeSubnetStake.val (subnetNodeId, subnetId) - amount)
      totalSubnetStake := s.stake.totalSubnetStake.set subnetId
        (s.stake.totalSubnetStake.val subnetId - amount)
      totalStake := s.stake.totalStake - amount } }

/-- `increase_overwatch_node_stake`. -/
def increaseOverwatchNodeStake (ar : Arith) (s : State A) (overwatchNodeId amount : ℕ) : State A :=
  { s with stake := { s.stake with
      overwatchNodeStakeBalance := s.stake.overwatchNodeStakeBalance.set overwatchNodeId
        (ar.add (s.stake.overwatchNodeStakeBalance.val overwatchNodeId) amount)
      totalOverwatchNodeStakeBalance := ar.add s.stake.totalOverwatchNodeStakeBalance amount } }

/-- `decrease_overwatch_node_stake`. -/
def decreaseOverwatchNodeStake (s : State A) (overwatchNodeId amount : ℕ) : State A :=
  { s with stake := { s.stake with
      overwatchNodeStakeBalance := s.stake.overwatchNodeStakeBalance.set overwatchNodeId
        (s.stake.overwatchNodeStakeBalance.val overwatchNodeId - amount)
      totalOverwatchNodeStakeBalance := s.stake.totalOverwatchNodeStakeBalance - amount } }

/-- `increase_delegate_account_balance`. -/
def increaseDelegateAccountBalance (ar : Arith) (s : State A) (accountId : A) (amount : ℕ) :
    State A :=
  { s with stake := { s.stake with
      delegateAccountStake := s.stake.delegateAccountStake.set accountId
        (ar.add (s.stake.delegateAccountStake.val accountId) amount)
      totalAccountDelegateStake := ar.add s.stake.totalAccountDelegateStake amount } }

/-- `decrease_delegate_account_balance`. -/
def decreaseDelegateAccountBalance (s : State A) (accountId : A) (amount : ℕ) : State A :=
  { s with stake := { s.stake with
      delegateAccountStake := s.stake.delegateAccountStake.set accountId
        (s.stake.delegateAccountStake.val accountId - amount)
      totalAccountDelegateStake := s.stake.totalAccountDelegateStake - amount } }

/-! ## The unbonding ledger -/

/-- The ledger of an account; empty where nothing is stored. -/
def unbondings (s : State A) (coldkey : A) : StorageMap ℕ ℕ :=
  s.stake.stakeUnbondingLedger.getD coldkey ∅

/-- Pay an unbonding out: to the account, from the total. -/
def payUnbonding (s : State A) (coldkey : A) (amount : ℕ) : State A :=
  let s₁ := s.addBalance coldkey amount
  { s₁ with stake := { s₁.stake with
      totalUnbondingBalance := s₁.stake.totalUnbondingBalance - amount } }

/-- One iteration of the loop of `do_claim_unbondings`, over the state, the copy
of the ledger and the count of claims. -/
def claimStep (coldkey : A) (unbondings : StorageMap ℕ ℕ)
    (acc : State A × StorageMap ℕ ℕ × ℕ) (unbondingBlock : ℕ) : State A × StorageMap ℕ ℕ × ℕ :=
  if acc.1.block < unbondingBlock then acc
  else
    (acc.1.payUnbonding coldkey (unbondings.val unbondingBlock), acc.2.1.remove unbondingBlock,
      acc.2.2 + 1)

/-- `do_claim_unbondings`: the state, and how many unbondings were claimed. -/
def doClaimUnbondings (s : State A) (coldkey : A) : State A × ℕ :=
  let unbondings := s.unbondings coldkey
  let acc := unbondings.ascKeys.foldl (claimStep coldkey unbondings) (s, unbondings, 0)
  let s₁ := acc.1
  if unbondings.keys.card ≠ acc.2.1.keys.card then
    ({ s₁ with stake := { s₁.stake with
        stakeUnbondingLedger := s₁.stake.stakeUnbondingLedger.set coldkey acc.2.1 } }, acc.2.2)
  else (s₁, acc.2.2)

/-- The block from which an unbonding can be claimed. -/
def claimBlock (block cooldownBlocks : ℕ) : ℕ := min (block + cooldownBlocks) u32Max

/-- `prepare_unbonding_ledger_entry`: make room for a new entry, by claiming
what is due when the ledger is full. -/
def prepareUnbondingLedgerEntry (s : State A) (coldkey : A) (cooldownBlocks block : ℕ) :
    Except Error (State A) :=
  let unbondings := s.unbondings coldkey
  if unbondings.contains (claimBlock block cooldownBlocks) then .ok s
  else do
    let s₁ := if unbondings.keys.card ≥ s.params.maxUnbondings
      then (s.doClaimUnbondings coldkey).1 else s
    ensure ((s₁.unbondings coldkey).contains (claimBlock block cooldownBlocks) ||
      decide ((s₁.unbondings coldkey).keys.card < s.params.maxUnbondings)) .maxUnlockingsReached
    .ok s₁

/-- `insert_balance_to_unbonding_ledger`. -/
def insertBalanceToUnbondingLedger (ar : Arith) (s : State A) (coldkey : A)
    (amount cooldownBlocks block : ℕ) : State A :=
  let ledger := s.unbondings coldkey
  let claim := claimBlock block cooldownBlocks
  let entry := (ledger.find? claim).elim amount fun v => ar.add v amount
  { s with stake := { s.stake with
      stakeUnbondingLedger := s.stake.stakeUnbondingLedger.set coldkey (ledger.set claim entry)
      totalUnbondingBalance := ar.add s.stake.totalUnbondingBalance amount } }

/-! ## What the ledger operations write -/

/-- `s'` differs from `s` in free balances and in the unbonding ledger only. -/
def LedgerOnly (s s' : State A) : Prop :=
  ∃ f l t, s' = { s with
    freeBalance := f
    stake := { s.stake with stakeUnbondingLedger := l, totalUnbondingBalance := t } }

omit [DecidableEq A] in
theorem LedgerOnly.refl (s : State A) : LedgerOnly s s := ⟨_, _, _, rfl⟩

omit [DecidableEq A] in
theorem LedgerOnly.trans {s₁ s₂ s₃ : State A} (h₁ : LedgerOnly s₁ s₂) (h₂ : LedgerOnly s₂ s₃) :
    LedgerOnly s₁ s₃ := by
  rcases h₁ with ⟨f₁, l₁, t₁, rfl⟩
  rcases h₂ with ⟨f₂, l₂, t₂, rfl⟩
  exact ⟨f₂, l₂, t₂, rfl⟩

omit [DecidableEq A] in
theorem LedgerOnly.pools {s s' : State A} (h : LedgerOnly s s') (k : PoolKind) :
    s'.pools k = s.pools k := by
  rcases h with ⟨f, l, t, rfl⟩
  exact pools_congr rfl rfl k

omit [DecidableEq A] in
theorem LedgerOnly.swaps {s s' : State A} (h : LedgerOnly s s') : s'.swaps = s.swaps := by
  rcases h with ⟨f, l, t, rfl⟩
  rfl

omit [DecidableEq A] in
theorem LedgerOnly.nodeSubnetStake {s s' : State A} (h : LedgerOnly s s') :
    s'.stake.nodeSubnetStake = s.stake.nodeSubnetStake := by
  rcases h with ⟨f, l, t, rfl⟩
  rfl

omit [DecidableEq A] in
theorem LedgerOnly.overwatchNodeStakeBalance {s s' : State A} (h : LedgerOnly s s') :
    s'.stake.overwatchNodeStakeBalance = s.stake.overwatchNodeStakeBalance := by
  rcases h with ⟨f, l, t, rfl⟩
  rfl

omit [DecidableEq A] in
theorem LedgerOnly.delegateAccountStake {s s' : State A} (h : LedgerOnly s s') :
    s'.stake.delegateAccountStake = s.stake.delegateAccountStake := by
  rcases h with ⟨f, l, t, rfl⟩
  rfl

/-- The claim loop writes only balances and the ledger's total. -/
theorem claimLoop_ledgerOnly (coldkey : A) (u : StorageMap ℕ ℕ) (ks : List ℕ)
    (acc : State A × StorageMap ℕ ℕ × ℕ) :
    LedgerOnly acc.1 (ks.foldl (claimStep coldkey u) acc).1 := by
  induction ks generalizing acc with
  | nil => exact .refl _
  | cons k ks ih =>
      refine LedgerOnly.trans ?_ (ih _)
      unfold claimStep
      split
      · exact .refl _
      · exact ⟨_, _, _, rfl⟩

theorem doClaimUnbondings_ledgerOnly (s : State A) (coldkey : A) :
    LedgerOnly s (s.doClaimUnbondings coldkey).1 := by
  have h := claimLoop_ledgerOnly coldkey (s.unbondings coldkey) (s.unbondings coldkey).ascKeys
    (s, s.unbondings coldkey, 0)
  unfold doClaimUnbondings
  dsimp only
  split
  · exact h.trans ⟨_, _, _, rfl⟩
  · exact h

/-- Preparing an entry changes nothing, or claims what is due. -/
theorem prepareUnbondingLedgerEntry_ok {s s' : State A} {coldkey : A} {c b : ℕ}
    (h : s.prepareUnbondingLedgerEntry coldkey c b = .ok s') :
    s' = s ∨ s' = (s.doClaimUnbondings coldkey).1 := by
  unfold prepareUnbondingLedgerEntry at h
  dsimp only at h
  split at h
  · exact Or.inl (Except.ok.inj h).symm
  · rw [ensure_bind_ok] at h
    have hs := Except.ok.inj h.2
    split at hs
    · exact Or.inr hs.symm
    · exact Or.inl hs.symm

theorem prepareUnbondingLedgerEntry_ledgerOnly {s s' : State A} {coldkey : A} {c b : ℕ}
    (h : s.prepareUnbondingLedgerEntry coldkey c b = .ok s') : LedgerOnly s s' := by
  rcases prepareUnbondingLedgerEntry_ok h with rfl | rfl
  · exact .refl _
  · exact doClaimUnbondings_ledgerOnly s coldkey

theorem insertBalanceToUnbondingLedger_ledgerOnly (ar : Arith) (s : State A) (coldkey : A)
    (x c b : ℕ) : LedgerOnly s (s.insertBalanceToUnbondingLedger ar coldkey x c b) :=
  ⟨_, _, _, rfl⟩

/-- A withdrawal that succeeds takes the amount from the account. -/
theorem removeBalance_eq_some {cfg : Config A} {s s' : State A} {coldkey : A} {x : ℕ}
    (h : s.removeBalance cfg coldkey x = some s') :
    x ≤ s.freeBalance.val coldkey ∧
    s' = { s with freeBalance := s.freeBalance.set coldkey (s.freeBalance.val coldkey - x) } := by
  unfold removeBalance at h
  split at h
  · next hc => exact ⟨hc.1, (Option.some.inj h).symm⟩
  · cases h

theorem removeBalance_ledgerOnly {cfg : Config A} {s s' : State A} {coldkey : A} {x : ℕ}
    (h : s.removeBalance cfg coldkey x = some s') : LedgerOnly s s' := by
  rcases removeBalance_eq_some h with ⟨_, rfl⟩
  exact ⟨_, _, _, rfl⟩

end State

end Hypertensor
