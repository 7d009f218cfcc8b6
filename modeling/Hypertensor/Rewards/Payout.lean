import Mathlib
import Hypertensor.Math
import Hypertensor.Staking.Pool
import Hypertensor.Staking.Ledger

/-!
# Hypertensor.Rewards.Payout — splitting a node's reward

`handle_validator_delegate_stake`, `handle_delegate_account` and the part of
`distribute_rewards` that calls them: a share of the reward goes to the
validator's delegate-stake pool, a share of the rest to its delegate account,
and what is left to the node's stake.
-/

namespace Hypertensor

open Base

variable {A : Type} [DecidableEq A]

/-- Who got what of one node's reward. -/
structure Payout (A : Type) where
  delegateStake : ℕ
  delegateAccount : Option (A × ℕ)
  node : ℕ
deriving DecidableEq

/-- All of a payout. -/
def Payout.total (p : Payout A) : ℕ :=
  p.delegateStake + (p.delegateAccount.elim 0 Prod.snd) + p.node

namespace State

/-- `handle_validator_delegate_stake`: the state, what is left of the reward,
and what the pool got; `none` when the pool has no shares. -/
def handleValidatorDelegateStake (ar : Arith) (s : State A) (validatorId delegateRewardRate
    accountReward : ℕ) : Option (State A × ℕ × ℕ) :=
  if (s.pools .validator).poolShares.val validatorId ≠ 0 then
    let nodeDelegateReward := percentMul accountReward delegateRewardRate
    some (s.doIncreaseStake ar .validator validatorId nodeDelegateReward,
      accountReward - nodeDelegateReward, nodeDelegateReward)
  else none

/-- `handle_delegate_account`: the state, what is left of the reward, and what
the account got. -/
def handleDelegateAccount (ar : Arith) (s : State A) (accountReward : ℕ) (delegateAccountId : A)
    (rate : ℕ) : State A × ℕ × ℕ :=
  let delegateAccountDeposit := percentMul accountReward rate
  (s.increaseDelegateAccountBalance ar delegateAccountId delegateAccountDeposit,
    accountReward - delegateAccountDeposit, delegateAccountDeposit)

/-- The pool's part of a reward, when the validator gives one. -/
def payDelegateStake (ar : Arith) (s : State A) (validatorId : ℕ) (v : ValidatorData A)
    (accountReward : ℕ) : State A × ℕ × ℕ :=
  if v.delegateRewardRate ≠ 0 then
    match s.handleValidatorDelegateStake ar validatorId v.delegateRewardRate accountReward with
    | some r => r
    | none => (s, accountReward, 0)
  else (s, accountReward, 0)

/-- The end of the loop of `distribute_rewards`: pay a node's reward out. A
validator that is no longer registered shares nothing. -/
def payNode (ar : Arith) (s : State A) (subnetId subnetNodeId validatorId accountReward : ℕ) :
    State A × Payout A :=
  match s.validators.validatorsData.find? validatorId with
  | none => (s.increaseNodeStake ar subnetNodeId subnetId accountReward, ⟨0, none, accountReward⟩)
  | some v =>
      let r := s.payDelegateStake ar validatorId v accountReward
      match v.delegateAccount with
      | none => (r.1.increaseNodeStake ar subnetNodeId subnetId r.2.1, ⟨r.2.2, none, r.2.1⟩)
      | some d =>
          let q := r.1.handleDelegateAccount ar r.2.1 d.accountId d.rate
          (q.1.increaseNodeStake ar subnetNodeId subnetId q.2.1,
            ⟨r.2.2, some (d.accountId, q.2.2), q.2.1⟩)

end State

/-- The rates of a validator are at most `1.0`. -/
structure ValidatorData.RatesOk (v : ValidatorData A) : Prop where
  reward : v.delegateRewardRate ≤ percentageFactor
  account : ∀ d, v.delegateAccount = some d → d.rate ≤ percentageFactor

namespace Validators

/-- Every registered validator satisfies `P`. -/
def All (P : ValidatorData A → Prop) (vs : Validators A) : Prop :=
  ∀ id v, vs.validatorsData.find? id = some v → P v

/-- The rates of every validator are at most `1.0`. -/
def RatesOk (vs : Validators A) : Prop := vs.All ValidatorData.RatesOk

variable {P : ValidatorData A → Prop} {vs vs' : Validators A}

omit [DecidableEq A] in
theorem all_congr (hvs : vs.All P) (heq : vs'.validatorsData = vs.validatorsData) : vs'.All P := by
  intro j w hj
  rw [heq] at hj
  exact hvs j w hj

omit [DecidableEq A] in
theorem all_set (hvs : vs.All P) {id : ℕ} {v : ValidatorData A}
    (hset : vs'.validatorsData = vs.validatorsData.set id v) (hv : P v) : vs'.All P := by
  intro j w hj
  rw [hset, StorageMap.find?_set] at hj
  split at hj
  · cases hj
    exact hv
  · exact hvs j w hj

end Validators

namespace State

variable (ar : Arith) (s : State A) (validatorId x : ℕ)

omit [DecidableEq A] in
/-- The pool takes part when the validator gives a share and the pool has
shares. -/
theorem payDelegateStake_eq (v : ValidatorData A) :
    s.payDelegateStake ar validatorId v x =
      if v.delegateRewardRate ≠ 0 ∧ (s.pools .validator).poolShares.val validatorId ≠ 0 then
        (s.doIncreaseStake ar .validator validatorId (percentMul x v.delegateRewardRate),
          x - percentMul x v.delegateRewardRate, percentMul x v.delegateRewardRate)
      else (s, x, 0) := by
  unfold payDelegateStake handleValidatorDelegateStake
  by_cases hrate : v.delegateRewardRate ≠ 0
  · by_cases hshares : (s.pools .validator).poolShares.val validatorId ≠ 0
    · simp only [hrate, hshares, ne_eq, not_false_eq_true, and_self, if_true]
    · simp only [hrate, hshares, ne_eq, not_false_eq_true, and_false, if_true, if_false]
  · simp only [hrate, false_and, if_false]

omit [DecidableEq A] in
/-- The pool's part and the rest add up, in whichever branch. -/
theorem payDelegateStake_sum {v : ValidatorData A} (hv : v.delegateRewardRate ≤ percentageFactor) :
    (s.payDelegateStake ar validatorId v x).2.1 + (s.payDelegateStake ar validatorId v x).2.2 =
      x := by
  have hle := percentMul_le_left (x := x) hv
  rw [payDelegateStake_eq]
  split
  · dsimp only
    omega
  · rfl

omit [DecidableEq A] in
/-- The pool's part is what the pool gets, and direct stake is untouched. -/
theorem payDelegateStake_effect (v : ValidatorData A) :
    let r := s.payDelegateStake .unbounded validatorId v x
    (r.1.pools .validator).poolBalance.val validatorId =
        (s.pools .validator).poolBalance.val validatorId + r.2.2 ∧
      r.1.stake = s.stake := by
  rw [payDelegateStake_eq]
  split
  · refine ⟨?_, by simp [doIncreaseStake]⟩
    dsimp only
    rw [doIncreaseStake_pools, Pools.doIncrease_poolBalance, StorageMap.val_set_self]
    rfl
  · exact ⟨rfl, rfl⟩

/-- With rates of at most `1.0` the parts of a reward add up to it. -/
theorem payNode_total (subnetId subnetNodeId : ℕ) (hs : s.validators.RatesOk) :
    (s.payNode ar subnetId subnetNodeId validatorId x).2.total = x := by
  unfold payNode
  split
  · simp [Payout.total]
  · next v hv =>
      have hrates := hs validatorId v hv
      have hpool := payDelegateStake_sum ar s validatorId x hrates.reward
      dsimp only
      split
      · simp only [Payout.total, Option.elim_none]
        omega
      · next d hd =>
          have hle := percentMul_le_left (x := (s.payDelegateStake ar validatorId v x).2.1)
            (hrates.account d hd)
          simp only [Payout.total, Option.elim_some, handleDelegateAccount]
          omega

/-- What is paid does not depend on how the storages add. -/
theorem payNode_payout (subnetId subnetNodeId : ℕ) :
    (s.payNode ar subnetId subnetNodeId validatorId x).2 =
      (s.payNode .unbounded subnetId subnetNodeId validatorId x).2 := by
  unfold payNode
  split
  · rfl
  · next v _ =>
      have hpool : (s.payDelegateStake ar validatorId v x).2 =
          (s.payDelegateStake .unbounded validatorId v x).2 := by
        simp only [payDelegateStake_eq]
        split <;> rfl
      dsimp only
      split <;> simp only [handleDelegateAccount, hpool]

/-- Each part of a payout reaches its owner. -/
theorem payNode_effect (subnetId subnetNodeId : ℕ) :
    let r := s.payNode .unbounded subnetId subnetNodeId validatorId x
    (r.1.pools .validator).poolBalance.val validatorId =
        (s.pools .validator).poolBalance.val validatorId + r.2.delegateStake ∧
      (∀ a, r.1.stake.delegateAccountStake.val a = s.stake.delegateAccountStake.val a +
        (r.2.delegateAccount.elim 0 fun d => if d.1 = a then d.2 else 0)) ∧
      r.1.stake.nodeSubnetStake.val (subnetNodeId, subnetId) =
        s.stake.nodeSubnetStake.val (subnetNodeId, subnetId) + r.2.node := by
  unfold payNode
  split
  · exact ⟨rfl, fun _ => rfl, StorageMap.val_set_self _ _ _⟩
  · next v _ =>
      have hpool := payDelegateStake_effect s validatorId x v
      dsimp only at hpool ⊢
      split
      · refine ⟨hpool.1, ?_, ?_⟩
        · intro a
          exact congrArg (fun k => k.delegateAccountStake.val a) hpool.2
        · dsimp only [increaseNodeStake]
          rw [StorageMap.val_set_self, hpool.2]
          rfl
      · next d _ =>
          refine ⟨hpool.1, ?_, ?_⟩
          · intro a
            dsimp only [increaseNodeStake, handleDelegateAccount, increaseDelegateAccountBalance]
            rw [StorageMap.val_set, hpool.2]
            by_cases ha : a = d.accountId
            · simp [ha]
            · simp [ha, Ne.symm ha]
          · dsimp only [increaseNodeStake, handleDelegateAccount, increaseDelegateAccountBalance]
            rw [StorageMap.val_set_self, hpool.2]
            rfl

end State

end Hypertensor
