import Mathlib
import Hypertensor.Staking.Conservation
import Hypertensor.Subnets

/-!
# Hypertensor.Staking.Issuance — the issuance that the pallet reports

`get_total_network_issuance` adds up the places where value can sit, and leaves
three of them out: the pools of validators, the stake of overwatch nodes and the
swap queue. `uncounted` is the value in those three.

All value is conserved by the staking calls, so the reported issuance changes by
exactly what a call carries over that border (`hides`, `reveals`).
-/

namespace Hypertensor

open Base

variable {A : Type} [DecidableEq A]

/-! ## The border -/

/-- Value in places `get_total_network_issuance` does not read. -/
def State.uncounted (s : State A) : ℕ :=
  s.validatorPools.totalBalance + s.stake.totalOverwatchNodeStakeBalance + s.queued

/-- What a call carries to an uncounted place from a counted one. -/
def Call.hides (s : State A) : Call A → ℕ
  | addOverwatchNodeStake _ _ x => x
  | addDelegateStake .validator _ _ x => x
  | donateDelegateStake .validator _ _ x => x
  -- the queue is not counted, wherever the swap goes
  | swapDelegateStake .subnet _ _ id _ n => s.subnetPools.sharesToBalance u128 id n
  | _ => 0

/-- What a call carries from an uncounted place to a counted one. -/
def Call.reveals (s : State A) : Call A → ℕ
  | removeOverwatchNodeStake _ _ x => x
  | removeDelegateStake .validator _ id n => s.validatorPools.sharesToBalance u128 id n
  | _ => 0

/-- A call that carries no value over the border. -/
def Call.KeepsBorder (s : State A) (c : Call A) : Prop := c.hides s = 0 ∧ c.reveals s = 0

instance (s : State A) (c : Call A) : Decidable (c.KeepsBorder s) :=
  inferInstanceAs (Decidable (_ ∧ _))

/-- The call computes the same in `u128` as in exact arithmetic. -/
def Call.NoSaturation (cfg : Config A) (s : State A) (c : Call A) : Prop :=
  c.dispatch cfg u128 s = c.dispatch cfg .unbounded s

/-- What an executed swap carries from the queue to a counted place. -/
def QueuedSwapCall.reveals : QueuedSwapCall A → ℕ
  | swapToSubnetDelegateStake _ _ balance => balance
  | swapToValidatorDelegateStake _ _ _ => 0

/-! ## What the primitives carry over the border -/

namespace State

variable {cfg : Config A} {s s' : State A} {k : PoolKind} {who : A} {id x n : ℕ}

omit [DecidableEq A] in
theorem LedgerOnly.uncounted (h : LedgerOnly s s') : s'.uncounted = s.uncounted := by
  rcases h with ⟨f, l, t, rfl⟩
  rfl

/-- What a family of pools holds that is not counted. -/
def uncountedOf (k : PoolKind) (x : ℕ) : ℕ :=
  match k with
  | .subnet => 0
  | .validator => x

omit [DecidableEq A] in
theorem uncounted_setPools (s : State A) (k : PoolKind) (p : Pools A) :
    (s.setPools k p).uncounted + uncountedOf k (s.pools k).totalBalance =
      s.uncounted + uncountedOf k p.totalBalance := by
  cases k
  · rfl
  · simp only [uncounted, queued, setPools, pools, uncountedOf]
    omega

omit [DecidableEq A] in
theorem uncounted_addNetFlow (s : State A) (k : PoolKind) (id : ℕ) (x : ℤ) :
    (s.addNetFlow k id x).uncounted = s.uncounted := by
  cases k <;> rfl

theorem uncounted_decreaseAccountStake (who : A) (id n : ℕ) (h : x ≤ (s.pools k).totalBalance) :
    (s.decreaseAccountStake k who id x n).uncounted + uncountedOf k x = s.uncounted := by
  have hset := uncounted_setPools s k ((s.pools k).decreaseAccount who id x n)
  unfold decreaseAccountStake
  rw [uncounted_addNetFlow]
  cases k
  · exact hset
  · simp only [uncountedOf, Pools.decreaseAccount] at hset ⊢
    omega

theorem uncounted_increaseAccountStake (s : State A) (k : PoolKind) (who : A) (id x n : ℕ) :
    (s.increaseAccountStake .unbounded k who id x n).uncounted =
      s.uncounted + uncountedOf k x := by
  have hset := uncounted_setPools s k ((s.pools k).increaseAccount .unbounded who id x n)
  unfold increaseAccountStake
  rw [uncounted_addNetFlow]
  cases k
  · exact hset
  · simp only [uncountedOf, Pools.increaseAccount, Arith.add_unbounded] at hset ⊢
    omega

omit [DecidableEq A] in
theorem uncounted_doIncreaseStake (s : State A) (k : PoolKind) (id x : ℕ) :
    (s.doIncreaseStake .unbounded k id x).uncounted = s.uncounted + uncountedOf k x := by
  have hset := uncounted_setPools s k ((s.pools k).doIncrease .unbounded id x)
  have htotal : ((s.pools k).doIncrease .unbounded id x).totalBalance =
      (s.pools k).totalBalance + x := by
    unfold Pools.doIncrease
    split <;> rfl
  unfold doIncreaseStake
  cases k
  · exact hset
  · simp only [uncountedOf] at hset ⊢
    omega

/-- A credited deposit carries its amount to the pool. -/
theorem uncounted_handleIncreaseAccountStake
    (h : ((s.pools k).handleIncrease .unbounded who id x).2 = some n) :
    (s.handleIncreaseAccountStake .unbounded k who id x).1.uncounted =
      s.uncounted + uncountedOf k x := by
  have hset := uncounted_setPools s k ((s.pools k).handleIncrease .unbounded who id x).1
  have htotal : ((s.pools k).handleIncrease .unbounded who id x).1.totalBalance =
      (s.pools k).totalBalance + x := by
    rw [(Pools.handleIncrease_some h).2.2]
    split <;> rfl
  unfold handleIncreaseAccountStake
  simp only [h]
  rw [uncounted_addNetFlow]
  cases k
  · exact hset
  · simp only [uncountedOf] at hset ⊢
    omega

theorem uncounted_queueSwap {call : QueuedSwapCall A}
    (hfresh : s.swaps.swapCallQueue.find? s.swaps.nextSwapQueueId = none)
    (h : s.queueSwap cfg call = .ok s') : s'.uncounted = s.uncounted + call.getQueueBalance := by
  have hvalue := value_queueSwap hfresh h
  rcases queueSwap_ok h with ⟨_, rfl⟩
  simp only [value, uncounted] at hvalue ⊢
  omega

theorem uncounted_setCall {item : QueuedSwapItem A} {call : QueuedSwapCall A}
    (hitem : s.swaps.swapCallQueue.find? id = some item)
    (hbal : call.getQueueBalance = item.call.getQueueBalance) :
    (s.setCall id item call).uncounted = s.uncounted := by
  have hvalue := value_setCall hitem hbal
  simp only [value, uncounted, setCall] at hvalue ⊢
  omega

theorem uncounted_dequeue {item : QueuedSwapItem A}
    (hitem : s.swaps.swapCallQueue.find? id = some item) :
    (s.dequeue id).uncounted + item.call.getQueueBalance = s.uncounted := by
  have hvalue := value_dequeue hitem
  simp only [value, uncounted, dequeue] at hvalue ⊢
  omega

end State

/-! ## Calls -/

section Calls

variable {cfg : Config A} {ar : Arith} {s s' : State A} {c : Call A}

/-- What a successful call moves over the border. -/
theorem dispatch_uncounted (hb : Books s) (hfits : ∀ k id, (s.pools k).Fits id)
    (h : c.dispatch cfg .unbounded s = .ok s') :
    s'.uncounted + c.reveals s = s.uncounted + c.hides s := by
  cases c with
  | addNodeStake a i j x =>
      rcases State.addNodeStake_ok h with ⟨s₁, hrem, rfl⟩
      exact (State.removeBalance_ledgerOnly hrem).uncounted
  | removeNodeStake a i j x =>
      rcases State.removeNodeStake_ok h with ⟨s₁, s₂, c, hx, hprep, hclean, rfl⟩
      have h₂ : s₂.uncounted = s₁.uncounted := by
        rcases hclean with rfl | ⟨v, rfl⟩ <;> rfl
      rw [(State.prepareUnbondingLedgerEntry_ledgerOnly hprep).uncounted] at h₂
      exact h₂
  | addOverwatchNodeStake a i x =>
      rcases State.addOverwatchNodeStake_ok h with ⟨s₁, hrem, rfl⟩
      have h₁ := (State.removeBalance_ledgerOnly hrem).uncounted
      simp only [State.uncounted, State.queued, State.increaseOverwatchNodeStake,
        Arith.add_unbounded, Call.hides, Call.reveals] at h₁ ⊢
      omega
  | removeOverwatchNodeStake a i x =>
      rcases State.removeOverwatchNodeStake_ok h with ⟨s₁, c, hx, hprep, rfl⟩
      have hledger := State.prepareUnbondingLedgerEntry_ledgerOnly hprep
      have h₁ := hledger.uncounted
      rw [← hledger.overwatchNodeStakeBalance] at hx
      have hle := hx.trans ((hb.prepare hprep).overwatchStake_le i)
      simp only [State.uncounted, State.queued, State.decreaseOverwatchNodeStake,
        State.insertBalanceToUnbondingLedger, Call.hides, Call.reveals] at h₁ ⊢
      omega
  | addDelegateStake k a i x =>
      obtain ⟨s₁, shares, hrem, hsome, rfl⟩ :=
        State.doAddDelegateStake_ok (Call.dispatch_add_ok h)
      have h₁ := (State.removeBalance_ledgerOnly hrem).uncounted
      have h₂ := State.uncounted_handleIncreaseAccountStake hsome
      rw [h₁] at h₂
      cases k <;> exact h₂
  | removeDelegateStake k a i n =>
      obtain ⟨s₁, c, _, hown, hprep, rfl⟩ :=
        State.doRemoveDelegateStake_ok (Call.dispatch_remove_ok h)
      have hledger := State.prepareUnbondingLedgerEntry_ledgerOnly hprep
      have hle := sharesToBalance_le_total hb hown
      have hu := Pools.sharesToBalance_u128 (hfits k i)
        (hown.trans ((Pools.accountShares_le_held _ i a).trans ((hb.pools k).inv i).held_le))
      rw [← hledger.pools k] at hle
      have h₂ := State.uncounted_decreaseAccountStake a i n hle
      rw [hledger.uncounted, hledger.pools k, ← hu] at h₂
      rw [← hu]
      cases k <;> exact h₂
  | transferDelegateStake k a dest i n =>
      rcases State.doTransferDelegateStake_ok (Call.dispatch_transfer_iff.mp h).2 with
        ⟨_, _, _, rfl⟩
      have h₁ := State.uncounted_decreaseAccountStake a i n (Nat.zero_le (s.pools k).totalBalance)
      rw [State.uncounted_increaseAccountStake]
      exact h₁
  | donateDelegateStake k a i x =>
      rcases State.doDonate_ok (Call.dispatch_donate_ok h) with ⟨s₁, hrem, rfl⟩
      rw [State.uncounted_doIncreaseStake, (State.removeBalance_ledgerOnly hrem).uncounted]
      cases k <;> rfl
  | swapDelegateStake k l a i j n =>
      rcases State.doSwap_ok (Call.dispatch_swap_ok h) with ⟨_, hown, hq⟩
      have hle := sharesToBalance_le_total hb hown
      have hu := Pools.sharesToBalance_u128 (hfits k i)
        (hown.trans ((Pools.accountShares_le_held _ i a).trans ((hb.pools k).inv i).held_le))
      have h₁ := State.uncounted_decreaseAccountStake a i n hle
      have hfresh := hb.next_fresh
      rw [← State.decreaseAccountStake_swaps s k a i ((s.pools k).sharesToBalance .unbounded i n) n]
        at hfresh
      have h₂ := State.uncounted_queueSwap hfresh hq
      have hbal : (QueuedSwapCall.to l a j ((s.pools k).sharesToBalance .unbounded i
          n)).getQueueBalance = (s.pools k).sharesToBalance .unbounded i n := by
        cases l <;> rfl
      rw [hbal, ← hu] at h₂
      rw [← hu] at h₁
      -- out of a validator pool the balance stays among the uncounted places
      cases k <;> simp only [State.uncountedOf, State.pools, Call.hides, Call.reveals] at h₁ h₂ ⊢ <;>
        omega
  | updateSwapQueue a i newCall =>
      rcases State.doUpdateSwapQueue_ok h with ⟨item, hitem, _, rfl⟩
      apply State.uncounted_setCall hitem
      cases newCall <;> rfl
  | removeDelegateAccountBalance a x =>
      rcases State.removeDelegateAccountBalance_ok h with ⟨s₁, c, hx, hprep, rfl⟩
      exact (State.prepareUnbondingLedgerEntry_ledgerOnly hprep).uncounted
  | claimUnbondings a =>
      rw [State.claimUnbondings_ok h]
      exact (State.doClaimUnbondings_ledgerOnly s a).uncounted

end Calls

/-- An executed swap that mints shares leaves the queue for its pool. -/
theorem ran_uncounted {b : ℕ} {e : Executed A} {n : ℕ} (he : e.Ran .unbounded b)
    (hn : e.shares = some n) :
    e.after.uncounted + e.item.call.reveals = e.before.uncounted := by
  have hcredit : (e.credit .unbounded).1.swaps = e.before.swaps := by
    unfold Executed.credit
    simp
  have hfound : (e.credit .unbounded).1.swaps.swapCallQueue.find? e.id = some e.item := by
    rw [hcredit]
    exact he.found
  have hdeq := State.uncounted_dequeue hfound
  have hshares : ((e.before.pools e.item.call.kind).handleIncrease .unbounded
      e.item.call.accountId e.item.call.poolId e.item.call.getQueueBalance).2 = some n := by
    rw [← hn, he.shares_eq]
    simp [Executed.credit]
  have hadd : (e.credit .unbounded).1.uncounted = e.before.uncounted +
      State.uncountedOf e.item.call.kind e.item.call.getQueueBalance :=
    State.uncounted_handleIncreaseAccountStake hshares
  rw [he.after_eq]
  cases hcall : e.item.call <;>
    simp only [hcall, QueuedSwapCall.kind, QueuedSwapCall.getQueueBalance, State.uncountedOf,
      QueuedSwapCall.reveals] at hadd hdeq ⊢ <;> omega

/-! ## The reported issuance -/

/-- Saturating additions one after another saturate once. -/
theorem Chain.getTotalNetworkIssuance_add_uncounted (c : Chain A)
    (hfits : c.value + c.registry.totalNodeDelegateStake ≤ u128Max) :
    c.getTotalNetworkIssuance + c.uncounted = c.value + c.registry.totalNodeDelegateStake := by
  simp only [State.value] at hfits
  simp only [Chain.getTotalNetworkIssuance, State.value, State.uncounted, Arith.add,
    StorageMap.sum] at hfits ⊢
  omega

/-- Two states with the same value report the same issuance exactly when they
have the same value in uncounted places. -/
theorem Chain.issuance_eq_iff {c c' : Chain A} (hvalue : c'.value = c.value)
    (hlegacy : c'.registry = c.registry)
    (hfits : c.value + c.registry.totalNodeDelegateStake ≤ u128Max) :
    c'.getTotalNetworkIssuance = c.getTotalNetworkIssuance ↔ c'.uncounted = c.uncounted := by
  have h := c.getTotalNetworkIssuance_add_uncounted hfits
  have h' := c'.getTotalNetworkIssuance_add_uncounted (by rw [hvalue, hlegacy]; exact hfits)
  rw [hvalue, hlegacy] at h'
  omega

/-- The minimum delegate stake reads nothing of staking but the issuance. -/
theorem Chain.getMinSubnetDelegateStakeBalance_congr {c c' : Chain A}
    (hissuance : c'.getTotalNetworkIssuance = c.getTotalNetworkIssuance)
    (hparams : c'.params = c.params) (hhook : c'.hookParams = c.hookParams) {subnetId : ℕ}
    (helectable : (c'.nodes.subnetNodeElectionSlots.getD subnetId []).length =
      (c.nodes.subnetNodeElectionSlots.getD subnetId []).length) :
    c'.getMinSubnetDelegateStakeBalance subnetId = c.getMinSubnetDelegateStakeBalance subnetId := by
  simp only [getMinSubnetDelegateStakeBalance, getSubnetMinDelegateStakingMultiplier, hissuance,
    hparams, hhook, helectable]

/-- A staking call changes neither the parameters nor the nodes. -/
theorem dispatch_params {cfg : Config A} {ar : Arith} {s s' : State A} {c : Call A}
    (h : c.dispatch cfg ar s = .ok s') : s'.params = s.params ∧ s'.nodes = s.nodes := by
  have hparams := congrArg Env.params (Call.dispatch_env h)
  have hnodes := congrArg Env.nodes (Call.dispatch_env h)
  exact ⟨hparams, hnodes⟩

/-! ## Whole runs -/

omit [DecidableEq A] in
theorem Call.hides_or_reveals_eq_zero (s : State A) (c : Call A) :
    c.hides s = 0 ∨ c.reveals s = 0 := by
  cases c with
  | addDelegateStake k => cases k <;> simp [reveals]
  | removeDelegateStake k => cases k <;> simp [hides]
  | donateDelegateStake k => cases k <;> simp [reveals]
  | swapDelegateStake k => cases k <;> simp [reveals]
  | _ => simp [hides, reveals]

/-- Each item is executed in a state with books, and with no more value than the
hook began with. -/
theorem executes_mem {b : ℕ} {s s' : State A} {es : List (Executed A)}
    (h : Executes .unbounded b s es s') (hb : Books s) :
    ∀ e ∈ es, Books e.before ∧ e.before.value ≤ s.value := by
  induction h with
  | nil _ =>
      intro e he
      cases he
  | @cons e es s' he _ ih =>
      rcases ran_conserves hb he with ⟨hv, hb'⟩
      intro x hx
      rcases List.mem_cons.mp hx with rfl | hx
      · exact ⟨hb, le_refl _⟩
      · rcases ih hb' x hx with ⟨hbx, hle⟩
        exact ⟨hbx, by omega⟩

theorem fits_run {cfg : Config A} {s : State A} {ops : List (Op A)}
    (hrun : Along (Op.step cfg u128) (Op.Exact cfg) s ops)
    (h : ∀ k id, (s.pools k).Fits id) (k : PoolKind) (id : ℕ) :
    ((run (Op.step cfg u128) s ops).pools k).Fits id := by
  refine run_invariant (I := fun s => (s.pools k).Fits id) ?_ hrun (h k id)
  intro s op hop hs
  exact Pools.fits_of_reach (Op.step_reach cfg u128 s op k fun _ => hop.owned) hs

/-- Run any labels that compute exactly from genesis, with the value in
existence in range. A successful staking call keeps the reported issuance exactly
when it carries nothing over the border, and then it keeps every subnet's minimum
delegate stake; an executed swap does exactly when it carries nothing to a
subnet's pool. -/
theorem issuance_kept_iff_border_kept (cfg : Config A) (env : Env A) (ops : List (Op A))
    (hrun : Along (Op.step cfg u128) (Op.Exact cfg) (.genesis env) ops) (c : Chain A)
    (hc : c.toState = run (Op.step cfg u128) (.genesis env) ops)
    (hfits : c.value + c.registry.totalNodeDelegateStake ≤ u128Max) :
    (∀ call : Call A, call.NoSaturation cfg c.toState → ∀ s', call.dispatch cfg u128 c.toState = .ok s' →
      let c' : Chain A := { c with toState := s' }
      (c'.getTotalNetworkIssuance = c.getTotalNetworkIssuance ↔ call.KeepsBorder c.toState) ∧
      (call.KeepsBorder c.toState → ∀ subnetId,
        c'.getMinSubnetDelegateStakeBalance subnetId =
          c.getMinSubnetDelegateStakeBalance subnetId)) ∧
    (∀ b meter, (Op.executeReadySwapCalls b meter).NoSaturation cfg c.toState →
      ∀ e ∈ ((Op.executeReadySwapCalls b meter).exec cfg u128 c.toState).2,
      ∀ n, e.shares = some n → 0 < n →
      (Chain.getTotalNetworkIssuance { c with toState := e.after } =
        Chain.getTotalNetworkIssuance { c with toState := e.before } ↔
          e.item.call.reveals = 0)) := by
  have hb : Books c.toState := hc ▸ books_run hrun (Books.genesis env)
  have hf : ∀ k id, (c.pools k).Fits id := by
    rw [hc]
    refine fits_run hrun ?_
    intro k id
    cases k <;> exact ⟨Nat.zero_le _, Nat.zero_le _⟩
  refine ⟨?_, ?_⟩
  · intro call hcall s' hs' c'
    -- without saturation the call is the one on unbounded numbers, which keeps the value
    have hok : call.dispatch cfg .unbounded c.toState = .ok s' := by
      rw [← hcall]
      exact hs'
    have hvalue : c'.value = c.value := dispatch_value hb hok
    have hmoved := dispatch_uncounted hb hf hok
    have hiff : c'.getTotalNetworkIssuance = c.getTotalNetworkIssuance ↔
        call.KeepsBorder c.toState := by
      rw [Chain.issuance_eq_iff hvalue rfl hfits]
      have hzero := call.hides_or_reveals_eq_zero c.toState
      unfold Call.KeepsBorder
      change s'.uncounted = c.toState.uncounted ↔ _
      omega
    refine ⟨hiff, ?_⟩
    intro hkeeps subnetId
    rcases dispatch_params hs' with ⟨hparams, hnodes⟩
    refine Chain.getMinSubnetDelegateStakeBalance_congr (hiff.mpr hkeeps) hparams rfl ?_
    rw [show c'.nodes = c.nodes from hnodes]
  · intro b meter hop e he n hn _
    have hexec := State.executeReadySwapCalls_executes cfg .unbounded c.toState b meter
    -- the same for the swaps of a block, one item at a time
    rw [show (Op.executeReadySwapCalls b meter).exec cfg u128 c.toState =
      c.toState.executeReadySwapCalls cfg .unbounded b meter from hop] at he
    have hran := executes_ran hexec e he
    rcases executes_mem hexec hb e he with ⟨hbefore, hle⟩
    have hvalue := (ran_conserves hbefore hran).1
    rw [hn, if_neg (by simp)] at hvalue
    have hmoved := ran_uncounted hran hn
    have hin : e.before.value + c.registry.totalNodeDelegateStake ≤ u128Max :=
      (Nat.add_le_add_right hle _).trans hfits
    have hiff : Chain.getTotalNetworkIssuance { c with toState := e.after } =
        Chain.getTotalNetworkIssuance { c with toState := e.before } ↔
          e.after.uncounted = e.before.uncounted := Chain.issuance_eq_iff hvalue rfl hin
    rw [hiff]
    omega

/-- A chain whose subnets have to hold a thousandth of the issuance. -/
def demoIssuance (s : State ℕ) : Chain ℕ where
  toState := s
  registry := .genesis ℕ
  hookParams := { HookParams.genesis 5256 with minSubnetDelegateStakeFactor := 1000000000000000 }
  intervals := .genesis 5256
  callParams := .genesis
  admission := .genesis ℕ

/-- `demoEnv` with a validator. -/
def demoValidatorEnv : Env ℕ :=
  { demoEnv with validators := { demoEnv.validators with
      validatorsData := (∅ : StorageMap ℕ (ValidatorData ℕ)).set 3 ⟨3, 9, 0, 0, none⟩ } }

/-- Staking to a validator lowers the issuance, and with it what another subnet
has to hold. -/
theorem validator_stake_lowers_issuance :
    let c := demoIssuance (.genesis demoValidatorEnv)
    let s' := (Op.call (.addDelegateStake .validator 0 3 50000)).step (.runtime ℕ) u128 c.toState
    let c' := demoIssuance s'
    (Call.addDelegateStake .validator 0 3 50000).dispatch (.runtime ℕ) u128 c.toState = .ok s' ∧
    c.getTotalNetworkIssuance = 200000 ∧ c'.getTotalNetworkIssuance = 150000 ∧
    c'.nodes = c.nodes ∧ c.getMinSubnetDelegateStakeBalance 7 = 200 ∧
    c'.getMinSubnetDelegateStakeBalance 7 = 150 := by
  decide +kernel

/-- A deposit to a subnet and a swap to a validator: a donation to the subnet
keeps the issuance, and so does the execution of the swap. -/
theorem issuance_kept_iff_border_kept_demo :
    let ops : List (Op ℕ) := [.call (.addDelegateStake .subnet 0 7 5000),
      .call (.swapDelegateStake .subnet .validator 0 7 3 2000)]
    let c := demoIssuance (run (Op.step (.runtime ℕ) u128) (.genesis demoValidatorEnv) ops)
    let s' := (Op.call (.donateDelegateStake .subnet 1 7 3000)).step (.runtime ℕ) u128 c.toState
    let es := (c.toState.executeReadySwapCalls (.runtime ℕ) u128 20
      ⟨⟨1000000000000, 1000000⟩, ⟨0, 0⟩⟩).2
    (demoIssuance s').getTotalNetworkIssuance = c.getTotalNetworkIssuance ∧
    (demoIssuance s').getMinSubnetDelegateStakeBalance 7 =
      c.getMinSubnetDelegateStakeBalance 7 ∧
    ∃ e ∈ es, (demoIssuance e.after).getTotalNetworkIssuance =
      (demoIssuance e.before).getTotalNetworkIssuance := by
  intro ops c s' es
  have hrun : Along (Op.step (.runtime ℕ) u128) (Op.Exact (.runtime ℕ))
      (.genesis demoValidatorEnv) ops :=
    ⟨⟨by decide +kernel, by decide +kernel, trivial, trivial⟩,
      ⟨by decide +kernel, by decide +kernel, trivial, trivial⟩, trivial⟩
  rcases issuance_kept_iff_border_kept (.runtime ℕ) demoValidatorEnv ops hrun c rfl
    (by decide +kernel) with ⟨hcalls, hhook⟩
  have hcall : (Call.donateDelegateStake .subnet 1 7 3000).NoSaturation (.runtime ℕ) c.toState := by
    unfold Call.NoSaturation
    decide +kernel
  rcases hcalls _ hcall s' (by decide +kernel) with ⟨hiff, hmin⟩
  refine ⟨hiff.mpr (by decide), hmin (by decide) 7, ?_⟩
  obtain ⟨e, he, hshares, hreveals⟩ : ∃ e ∈ es, e.shares = some 1664 ∧ e.item.call.reveals = 0 := by
    decide +kernel
  refine ⟨e, he, ?_⟩
  exact (hhook 20 ⟨⟨1000000000000, 1000000⟩, ⟨0, 0⟩⟩ (by decide +kernel) e he 1664 hshares
    (by decide)).mpr hreveals

end Hypertensor
