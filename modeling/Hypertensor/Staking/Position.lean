import Mathlib
import Hypertensor.Base.Position
import Hypertensor.Staking.Solvency

/-!
# Hypertensor.Staking.Position — what one account gets out of a pool

An account deposits into a delegate-stake pool, donates to it and redeems shares, and nobody
else acts. `Position` adds up what it pays and what it gets. In exact arithmetic these are
trades of the vault the pool is read as (`exec_trade`), so they never pay.

* `first_depositor_cannot_profit`: an account that has a new pool for itself gets back no
  more than it put in once somebody else has deposited.
* `position_never_profits`: neither does any account of a pool, whatever happened before, if
  shares are transferred by their owners alone.
-/

namespace Hypertensor

open Base

variable {A : Type} [DecidableEq A]

/-- What an account does with a pool. -/
inductive PositionOp where
  | deposit (amount : ℕ)
  | redeem (shares : ℕ) (addToLedger : Bool)
  | donate (amount : ℕ)
deriving DecidableEq, Repr

/-- The chain, and what an account has paid into a pool and got out of it. -/
structure Position (A : Type) where
  state : State A
  paid : ℕ
  got : ℕ

namespace PositionOp

variable (cfg : Config A) (ar : Arith) (k : PoolKind) (who : A) (id : ℕ)

/-- What is put into the pool at most. -/
def amount : PositionOp → ℕ
  | deposit amount => amount
  | redeem _ _ => 0
  | donate amount => amount

/-- The state after an operation, what the account pays and what it gets. A deposit that is
not credited costs nothing, a redemption that fails changes nothing. -/
def exec (s : State A) : PositionOp → State A × ℕ × ℕ
  | deposit amount =>
      let r := s.handleIncreaseAccountStake ar k who id amount
      match r.2 with
      | some _ => (r.1, amount, 0)
      | none => (r.1, 0, 0)
  | redeem shares addToLedger =>
      match s.performDoRemoveDelegateStake cfg ar k who id shares addToLedger with
      | .ok r => (r.1, 0, r.2)
      | .error _ => (s, 0, 0)
  | donate amount => (s.doIncreaseStake ar k id amount, amount, 0)

/-- The operation computes the same in `u128` as in exact arithmetic. -/
def NoSaturation (s : State A) (op : PositionOp) : Prop :=
  op.exec cfg u128 k who id s = op.exec cfg .unbounded k who id s

instance (s : State A) (op : PositionOp) : Decidable (op.NoSaturation cfg k who id s) :=
  inferInstanceAs (Decidable (op.exec cfg u128 k who id s = op.exec cfg .unbounded k who id s))

end PositionOp

namespace Position

variable (cfg : Config A) (k : PoolKind) (who : A) (id : ℕ)

/-- Nothing is paid yet. -/
def start (s : State A) : Position A := ⟨s, 0, 0⟩

/-- The position after an operation. -/
def step (p : Position A) (op : PositionOp) : Position A :=
  let r := op.exec cfg u128 k who id p.state
  ⟨r.1, p.paid + r.2.1, p.got + r.2.2⟩

end Position

/-! ## Operations are trades -/

section Trade

variable {cfg : Config A} {ar : Arith} {k : PoolKind} {who : A} {id : ℕ} {s : State A}

/-- What a successful redemption does to the pools. -/
theorem State.performDoRemoveDelegateStake_pools {n : ℕ} {addToLedger : Bool} {r : State A × ℕ}
    (h : s.performDoRemoveDelegateStake cfg ar k who id n addToLedger = .ok r) :
    n ≤ (s.pools k).accountShares.val (who, id) ∧ r.2 = (s.pools k).sharesToBalance ar id n ∧
      r.1.pools k = (s.pools k).decreaseAccount who id r.2 n := by
  obtain ⟨_, hown, hbalance, s₁, c, hcase⟩ := State.performDoRemoveDelegateStake_ok h
  refine ⟨hown, hbalance, ?_⟩
  rcases hcase with ⟨_, hprep, hr⟩ | ⟨_, rfl, hr⟩
  · have hpools : s₁.pools k = s.pools k :=
      (State.prepareUnbondingLedgerEntry_ledgerOnly hprep).pools k
    have hinsert : ((s₁.decreaseAccountStake k who id r.2 n).insertBalanceToUnbondingLedger ar who
        r.2 c s.block).pools k = (s₁.decreaseAccountStake k who id r.2 n).pools k :=
      State.pools_congr rfl rfl k
    rw [hr, hinsert, State.decreaseAccountStake_pools, hpools]
  · rw [hr, State.decreaseAccountStake_pools]

/-- In exact arithmetic an operation is a trade of the account. -/
theorem PositionOp.exec_trade (h : (s.pools k).PoolInv id) (op : PositionOp) :
    ∃ v, Vault.Trade 10 minLiquidity who ((s.pools k).vault id)
        (op.exec cfg .unbounded k who id s).2.1 (op.exec cfg .unbounded k who id s).2.2 v ∧
      ((op.exec cfg .unbounded k who id s).1.pools k).VaultAt id v := by
  cases op with
  | deposit x =>
      have hpools := State.handleIncreaseAccountStake_pools .unbounded s k who id x
      have hsnd := State.handleIncreaseAccountStake_snd .unbounded s k who id x
      simp only [exec]
      cases hr : (s.handleIncreaseAccountStake .unbounded k who id x).2 with
      | some n =>
          rw [hsnd] at hr
          refine ⟨_, .deposit _ x, ?_⟩
          rw [hpools]
          exact Pools.vaultAt_handleIncrease h hr
      | none =>
          rw [hsnd] at hr
          -- a deposit that gives no shares may still mint the dead ones
          rcases Pools.vaultAt_handleIncrease_none h hr with ⟨hS, hv⟩ | heq
          · refine ⟨_, .touch _ ((Pools.vault_supply h.held_le).trans hS), ?_⟩
            rw [hpools]
            exact hv
          · refine ⟨_, .skip _, ?_⟩
            rw [hpools, heq]
            exact ⟨h.held_le, rfl⟩
  | redeem n addToLedger =>
      simp only [exec]
      -- a redemption that fails changes nothing
      cases hr : s.performDoRemoveDelegateStake cfg .unbounded k who id n addToLedger with
      | error e => exact ⟨_, .skip _, ⟨h.held_le, rfl⟩⟩
      | ok r =>
          obtain ⟨hown, hbalance, hpools⟩ := State.performDoRemoveDelegateStake_pools hr
          have hpaid : r.2 = toAssets 10 n ((s.pools k).vault id).supply
              ((s.pools k).vault id).assets := by
            rw [hbalance, Pools.vault_supply h.held_le]
            exact convertToBalance_unbounded _ _ _
          refine ⟨((s.pools k).vault id).withdraw 10 who n, ?_, ?_⟩
          · show Vault.Trade 10 minLiquidity who _ 0 r.2 _
            rw [hpaid]
            exact .withdraw _ n hown
          · show (r.1.pools k).VaultAt id _
            rw [hpools, hbalance]
            exact Pools.vaultAt_decreaseAccount h hown
  | donate x =>
      refine ⟨_, .donate _ x, ?_⟩
      show ((s.doIncreaseStake .unbounded k id x).pools k).VaultAt id _
      rw [State.doIncreaseStake_pools]
      exact Pools.vaultAt_doIncrease h x

/-- An operation writes the pools by pool operations. -/
theorem PositionOp.exec_reach (op : PositionOp) :
    Pools.Reach ar (some who) (s.pools k) ((op.exec cfg ar k who id s).1.pools k) := by
  cases op with
  | deposit x =>
      have hreach : Pools.Reach ar (some who) (s.pools k)
          ((s.handleIncreaseAccountStake ar k who id x).1.pools k) :=
        Op.reach_handleIncrease (some who) who
      simp only [exec]
      split <;> exact hreach
  | redeem n addToLedger =>
      simp only [exec]
      cases hr : s.performDoRemoveDelegateStake cfg ar k who id n addToLedger with
      | error e => exact .refl _
      | ok r =>
          obtain ⟨hown, hbalance, hpools⟩ := State.performDoRemoveDelegateStake_pools hr
          have hreach : Pools.Reach ar (some who) (s.pools k) _ := Op.reach_remove (l := k) hown
          rw [State.decreaseAccountStake_pools, ← hbalance, ← hpools] at hreach
          exact hreach
  | donate x => exact Op.reach_donate (some who)

end Trade

/-! ## Runs of operations -/

section Runs

variable {cfg : Config A} {k : PoolKind} {who : A} {id : ℕ} {s : State A}

theorem PositionOp.poolOk_exec {op : PositionOp} (hsat : op.NoSaturation cfg k who id s)
    (h : Op.PoolOk k id s) :
    Op.PoolOk k id (op.exec cfg u128 k who id s).1 ∧
      Vault.Trade 10 minLiquidity who ((s.pools k).vault id) (op.exec cfg u128 k who id s).2.1
        (op.exec cfg u128 k who id s).2.2 (((op.exec cfg u128 k who id s).1.pools k).vault id) := by
  have hfits := Pools.fits_of_reach (exec_reach op : Pools.Reach u128 (some who) _
    ((op.exec cfg u128 k who id s).1.pools k)) h.fits
  have htrades : ∃ v, Vault.Trade 10 minLiquidity who ((s.pools k).vault id)
      (op.exec cfg .unbounded k who id s).2.1 (op.exec cfg .unbounded k who id s).2.2 v ∧
      ((op.exec cfg .unbounded k who id s).1.pools k).VaultAt id v := op.exec_trade h.inv
  obtain ⟨v, htrade, hv⟩ := htrades
  have hsound := htrade.sound (by decide) h.inv.sound
  unfold NoSaturation at hsat
  rw [← hsat] at htrade hv
  refine ⟨⟨⟨hv.held_le, ?_⟩, hfits⟩, ?_⟩
  · rw [hv.vault]
    exact hsound
  · rw [hv.vault]
    exact htrade

/-- The operations of an account are trades, which its position adds up. -/
theorem Position.run_trades {ops : List PositionOp} (h : Op.PoolOk k id s)
    (hexact : Along (Position.step cfg k who id)
      (fun p op => op.NoSaturation cfg k who id p.state) (.start s) ops) :
    Op.PoolOk k id (run (Position.step cfg k who id) (.start s) ops).state ∧
      Vault.Trades 10 minLiquidity who ((s.pools k).vault id)
        (run (Position.step cfg k who id) (.start s) ops).paid
        (run (Position.step cfg k who id) (.start s) ops).got
        (((run (Position.step cfg k who id) (.start s) ops).state.pools k).vault id) := by
  refine run_invariant (I := fun p : Position A => Op.PoolOk k id p.state ∧
    Vault.Trades 10 minLiquidity who ((s.pools k).vault id) p.paid p.got
      ((p.state.pools k).vault id)) ?_ hexact ⟨h, .refl _⟩
  rintro p op hsat ⟨hok, htrades⟩
  obtain ⟨hok', htrade⟩ := PositionOp.poolOk_exec hsat hok
  exact ⟨hok', htrades.tail htrade⟩

/-- An account pays no more than it means to. -/
theorem Position.run_paid_le (ops : List PositionOp) (p : Position A) :
    (run (Position.step cfg k who id) p ops).paid ≤ p.paid + (ops.map PositionOp.amount).sum := by
  induction ops generalizing p with
  | nil => exact le_rfl
  | cons op ops ih =>
      have hone : (op.exec cfg u128 k who id p.state).2.1 ≤ op.amount := by
        cases op with
        | deposit x =>
            simp only [PositionOp.exec]
            split
            · exact le_rfl
            · exact Nat.zero_le _
        | redeem n addToLedger =>
            simp only [PositionOp.exec]
            split <;> exact le_rfl
        | donate x => exact le_rfl
      have hrest := ih (p.step cfg k who id op)
      have hpaid : (p.step cfg k who id op).paid =
        p.paid + (op.exec cfg u128 k who id p.state).2.1 := rfl
      rw [run_cons, List.map_cons, List.sum_cons]
      omega

/-- What the account's shares are worth is the worth of its holding in the vault. -/
theorem accountValue_eq_worth_u128 (h : Op.PoolOk k id s) (a : A) :
    (s.pools k).accountValue u128 id a = ((s.pools k).vault id).worth 10 a := by
  rw [Pools.accountValue_u128 h.fits h.inv.held_le, Pools.accountValue_eq_worth h.inv.held_le]

end Runs

/-! ## The first depositor -/

/-- An account has a new pool for itself and deposits, donates and redeems as it likes. Then
another account deposits any amount. What the first has got and what all its shares pay
now is together at most what it has paid. -/
theorem first_depositor_cannot_profit (cfg : Config A) (k : PoolKind) (id : ℕ) (s₀ : State A)
    (attacker victim : A) (ops : List PositionOp) (x n : ℕ) (hempty : (s₀.pools k).Empty id)
    (hne : attacker ≠ victim)
    (hexact : Along (Position.step cfg k attacker id)
      (fun p op => op.NoSaturation cfg k attacker id p.state) (.start s₀) ops) :
    let p := run (Position.step cfg k attacker id) (.start s₀) ops
    let s := (p.state.handleIncreaseAccountStake u128 k victim id x).1
    (p.state.handleIncreaseAccountStake u128 k victim id x).2 = some n →
    p.state.handleIncreaseAccountStake u128 k victim id x =
      p.state.handleIncreaseAccountStake .unbounded k victim id x →
    p.got + (s.pools k).accountValue u128 id attacker ≤ p.paid ∧
    p.paid ≤ (ops.map PositionOp.amount).sum ∧
    ∀ addToLedger r, s.performDoRemoveDelegateStake cfg u128 k attacker id
      ((s.pools k).accountShares.val (attacker, id)) addToLedger = .ok r → p.got + r.2 ≤ p.paid := by
  intro p s hvictim hsat
  obtain ⟨hok, htrades⟩ := Position.run_trades (poolOk_of_empty hempty) hexact
  have hassets : ((p.state.pools k).vault id).assets + p.got = p.paid := by
    have hsum := htrades.assets (by decide)
    have hzero : ((s₀.pools k).vault id).assets = 0 := hempty.balance
    rw [hzero, Nat.zero_add] at hsum
    exact hsum
  -- the victim's deposit is one of the vault
  have hvault : (s.pools k).VaultAt id
      (((p.state.pools k).vault id).deposit 10 minLiquidity victim x) := by
    have hsome := hvictim
    rw [hsat, State.handleIncreaseAccountStake_snd] at hsome
    have hpools : s.pools k = ((p.state.pools k).handleIncrease .unbounded victim id x).1 := by
      show ((p.state.handleIncreaseAccountStake u128 k victim id x).1).pools k = _
      rw [hsat, State.handleIncreaseAccountStake_pools]
    rw [hpools]
    exact Pools.vaultAt_handleIncrease hok.inv hsome
  have hs : Op.PoolOk k id s := by
    have hsat' : (PositionOp.deposit x).NoSaturation cfg k victim id p.state := by
      simp only [PositionOp.NoSaturation, PositionOp.exec, hsat]
    have hpool := (PositionOp.poolOk_exec hsat' hok).1
    simp only [PositionOp.exec, hvictim] at hpool
    exact hpool
  have hworth : (s.pools k).accountValue u128 id attacker ≤ ((p.state.pools k).vault id).assets := by
    rw [accountValue_eq_worth_u128 hs, hvault.vault]
    exact Vault.worth_deposit_le (by decide) hne x
  have hvalue : p.got + (s.pools k).accountValue u128 id attacker ≤ p.paid := by
    omega
  refine ⟨hvalue, ?_, ?_⟩
  · exact (Position.run_paid_le ops (.start s₀)).trans_eq (Nat.zero_add _)
  · intro addToLedger r hr
    obtain ⟨_, hbalance, _⟩ := State.performDoRemoveDelegateStake_pools hr
    rw [hbalance]
    exact hvalue

/-- One unit of stake, a large donation, and a victim whose deposit rounds down to two shares. -/
theorem first_depositor_cannot_profit_demo :
    let p := run (Position.step (.runtime ℕ) .subnet 0 7) (.start (.genesis demoEnv))
      [.deposit 1, .donate 50000]
    let s := (p.state.handleIncreaseAccountStake u128 .subnet 1 7 100).1
    p.paid = 50001 ∧ (s.pools .subnet).accountShares.val (1, 7) = 2 ∧
      (s.pools .subnet).accountValue u128 7 0 ≤ 50001 := by
  intro p s
  have hempty : ((State.genesis demoEnv).pools .subnet).Empty 7 := ⟨fun _ => rfl, rfl, rfl⟩
  have hle := (first_depositor_cannot_profit (.runtime ℕ) .subnet 7 (.genesis demoEnv) 0 1
    [.deposit 1, .donate 50000] 100 2 hempty (by decide) (by decide +kernel) (by decide +kernel)
    (by decide +kernel)).1
  have hpaid : p.paid = 50001 := by decide +kernel
  refine ⟨hpaid, by decide +kernel, ?_⟩
  rw [← hpaid]
  exact (Nat.le_add_left _ _).trans hle

/-! ## No profit in any pool -/

/-- A label of a run in which nothing saturates, and in which a transfer of shares of pool `id` of
family `k` that succeeds is made by an account that owns them. -/
def Op.Honest (cfg : Config A) (k : PoolKind) (id : ℕ) (s : State A) (op : Op A) : Prop :=
  op.NoSaturation cfg s ∧ ∀ who dest n,
    op = .call (.transferDelegateStake k who dest id n) →
    (∃ s', (Call.transferDelegateStake k who dest id n).dispatch cfg u128 s = .ok s') →
    n ≤ (s.pools k).accountShares.val (who, id)

/-- A transfer in another pool of the family leaves the pool sound. -/
theorem Op.PoolOk.transfer_ne {k : PoolKind} {id j : ℕ} {s : State A} (h : Op.PoolOk k id s)
    (hj : j ≠ id) (who dest : A) (n : ℕ) :
    Op.PoolOk k id
      ((s.decreaseAccountStake k who j 0 n).increaseAccountStake u128 k dest j 0 n) := by
  have hpools : ((s.decreaseAccountStake k who j 0 n).increaseAccountStake u128 k dest j 0 n).pools
      k = (PoolOp.transfer who dest j n).apply u128 (s.pools k) := by
    rw [State.increaseAccountStake_pools, State.decreaseAccountStake_pools]
    rfl
  rcases Pools.apply_frame u128 (s.pools k) (.transfer who dest j n) hj with
    ⟨hheld, hshares, hbalance⟩
  rw [← hpools] at hheld hshares hbalance
  constructor
  · exact Pools.poolInv_of_stepAt h.inv
      (Pools.stepAt_of_frame (a := none) h.inv hheld hshares hbalance)
  · rw [hpools]
    exact Pools.apply_fits h.fits

/-- Such a label keeps the pool sound. -/
theorem Op.Honest.poolOk_step {cfg : Config A} {k : PoolKind} {id : ℕ} {s : State A} {op : Op A}
    (hop : op.Honest cfg k id s) (hs : Op.PoolOk k id s) : Op.PoolOk k id (op.step cfg u128 s) := by
  by_cases howned : op.transfers = some k → op.OwnedTransfer s
  · exact Op.poolOk_step hop.1 howned hs
  · -- what is left are transfers that fail, and those of another pool
    rcases Classical.not_imp.mp howned with ⟨hkind, hnot⟩
    cases op with
    | call c =>
        cases c with
        | transferDelegateStake l who dest j n =>
            cases hkind
            refine commit_induction (P := Op.PoolOk k id) hs ?_
            intro s' hok
            have hj : j ≠ id := by
              rintro rfl
              exact hnot (hop.2 who dest n rfl ⟨s', hok⟩)
            rcases State.doTransferDelegateStake_ok (Call.dispatch_transfer_iff.mp hok).2 with
              ⟨-, -, -, rfl⟩
            exact hs.transfer_ne hj who dest n
        | _ => cases hkind
    | _ => cases hkind

/-- In a pool that started empty, after any labels by anybody with its shares transferred by owners,
no account gains by deposits and redemptions of its own: what it gets and what its shares
are worth in the end is at most what it pays and what they were worth at first. -/
theorem position_never_profits (cfg : Config A) (k : PoolKind) (id : ℕ) (s₀ : State A)
    (labels : List (Op A)) (who : A) (ops : List PositionOp) (hempty : (s₀.pools k).Empty id)
    (hrun : Along (Op.step cfg u128) (Op.Honest cfg k id) s₀ labels)
    (hexact : Along (Position.step cfg k who id)
      (fun p op => op.NoSaturation cfg k who id p.state)
      (.start (run (Op.step cfg u128) s₀ labels)) ops) :
    let s := run (Op.step cfg u128) s₀ labels
    let p := run (Position.step cfg k who id) (.start s) ops
    p.got + (p.state.pools k).accountValue u128 id who ≤
      p.paid + (s.pools k).accountValue u128 id who := by
  intro s p
  have hok : Op.PoolOk k id s := by
    refine run_invariant ?_ hrun (poolOk_of_empty hempty)
    intro s op hop hs
    exact hop.poolOk_step hs
  obtain ⟨hok', htrades⟩ := Position.run_trades hok hexact
  rw [accountValue_eq_worth_u128 hok, accountValue_eq_worth_u128 hok']
  exact htrades.no_profit (by decide) (by decide) hok.inv.sound

/-- Two deposits, a donation by somebody else, and then many small steps. -/
theorem position_never_profits_demo :
    let s := run (Op.step (.runtime ℕ) u128) (.genesis demoEnv) demoOps
    let p := run (Position.step (.runtime ℕ) .subnet 0 7) (.start s)
      [.deposit 17, .redeem 1001 false, .deposit 1, .redeem 13 true]
    p.got + (p.state.pools .subnet).accountValue u128 7 0 ≤
      p.paid + (s.pools .subnet).accountValue u128 7 0 := by
  have hrun : Along (Op.step (.runtime ℕ) u128) (Op.Honest (.runtime ℕ) .subnet 7)
      (.genesis demoEnv) demoOps := by
    refine ⟨⟨by decide +kernel, ?_⟩, ⟨by decide +kernel, ?_⟩, ⟨by decide +kernel, ?_⟩, trivial⟩
    all_goals
      intro _ _ _ htransfer
      cases htransfer
  exact position_never_profits (.runtime ℕ) .subnet 7 (.genesis demoEnv) demoOps 0 _
    ⟨fun _ => rfl, rfl, rfl⟩ hrun (by decide +kernel)

/-- An account with no shares hands the account of the pool as many as the pool has. Redeeming
that many empties the supply, and the shares that are left are then worth one unit each: the
account gets more than all its shares were worth. -/
theorem position_profits_after_unowned_transfer :
    let s := run (Op.step (.runtime ℕ) u128) (.genesis demoEnv)
      [.call (.addDelegateStake .subnet 0 7 5000),
        .call (.transferDelegateStake .subnet 1 0 7 6000)]
    let p := run (Position.step (.runtime ℕ) .subnet 0 7) (.start s) [.redeem 6000 true]
    ((State.genesis demoEnv).pools .subnet).Empty 7 ∧
    Along (Position.step (.runtime ℕ) .subnet 0 7)
      (fun p op => op.NoSaturation (.runtime ℕ) .subnet 0 7 p.state) (.start s)
      [.redeem 6000 true] ∧
    p.paid + (s.pools .subnet).accountValue u128 7 0 = 9153 ∧
    p.got = 4992 ∧ (p.state.pools .subnet).accountValue u128 7 0 = 5000 := by
  refine ⟨⟨fun _ => rfl, rfl, rfl⟩, ?_, ?_, ?_, ?_⟩
  · decide +kernel
  · decide +kernel
  · decide +kernel
  · decide +kernel

end Hypertensor
