import Mathlib
import Hypertensor.Staking.Ownership

/-!
# Hypertensor.Staking.Bystanders — who does not sign, does not pay

A staking call writes what belongs to the account that signs it. `Untouched` is what it leaves of
any other account: the balance, the shares in every pool, the unbonding ledger, the balance as a
delegate account, and the stake of its nodes. Only a transfer reaches another account, and
`update_swap_queue` may take a queued swap that is not the caller's.

* `Call.dispatch_untouched`: the frame of every call, transfers to the account apart.
* `Call.dispatch_queue`: the queued swaps of others, where swaps are updated by their owners.
-/

namespace Hypertensor

open Base

variable {A : Type} [DecidableEq A]

/-- What is `b`'s is the same in both states. -/
structure State.Untouched (b : A) (s s' : State A) : Prop where
  free : s'.freeBalance.val b = s.freeBalance.val b
  shares : ∀ k i, (s'.pools k).accountShares.val (b, i) = (s.pools k).accountShares.val (b, i)
  unbondings : s'.unbondings b = s.unbondings b
  delegateAccount : s'.stake.delegateAccountStake.val b = s.stake.delegateAccountStake.val b
  nodeStake : ∀ i j v, s.nodeColdkey i j = .ok (v, b) →
    s'.stake.nodeSubnetStake.val (j, i) = s.stake.nodeSubnetStake.val (j, i)
  overwatchStake : ∀ j, s.overwatchColdkey j = .ok b →
    s'.stake.overwatchNodeStakeBalance.val j = s.stake.overwatchNodeStakeBalance.val j
  /-- Nodes and validators are all as they were. -/
  env : s'.toEnv = s.toEnv.touched s'.toEnv

namespace State

variable {s s' s₁ : State A} {b who : A} {cfg : Config A} {ar : Arith} {x c block : ℕ}

omit [DecidableEq A] in
/-- Who owns a node is part of the environment. -/
theorem nodeColdkey_of_env (h : s'.toEnv = s.toEnv.touched s'.toEnv) (i j : ℕ) :
    s'.nodeColdkey i j = s.nodeColdkey i j := by
  unfold nodeColdkey
  rw [h]
  rfl

omit [DecidableEq A] in
/-- Who owns an overwatch node is part of the environment. -/
theorem overwatchColdkey_of_env (h : s'.toEnv = s.toEnv.touched s'.toEnv) (j : ℕ) :
    s'.overwatchColdkey j = s.overwatchColdkey j := by
  unfold overwatchColdkey
  rw [h]
  rfl

/-- Nobody is touched by nothing. -/
theorem Untouched.refl (b : A) (s : State A) : s.Untouched b s where
  free := rfl
  shares _ _ := rfl
  unbondings := rfl
  delegateAccount := rfl
  nodeStake _ _ _ _ := rfl
  overwatchStake _ _ := rfl
  env := rfl

/-- An account that two steps leave alone is left alone. -/
theorem Untouched.trans {s'' : State A} (h : s.Untouched b s') (h' : s'.Untouched b s'') :
    s.Untouched b s'' where
  free := h'.free.trans h.free
  shares k i := (h'.shares k i).trans (h.shares k i)
  unbondings := h'.unbondings.trans h.unbondings
  delegateAccount := h'.delegateAccount.trans h.delegateAccount
  nodeStake i j v hv := by
    have hv' : s'.nodeColdkey i j = .ok (v, b) := (nodeColdkey_of_env h.env i j).trans hv
    exact (h'.nodeStake i j v hv').trans (h.nodeStake i j v hv)
  overwatchStake j hj := by
    have hj' : s'.overwatchColdkey j = .ok b := (overwatchColdkey_of_env h.env j).trans hj
    exact (h'.overwatchStake j hj').trans (h.overwatchStake j hj)
  env := by
    rw [h'.env, h.env]
    rfl

/-! ## Balances and the ledger -/

/-- What an account can spend, now or once it is unbonded. -/
def purse (s : State A) (b : A) : ℕ × StorageMap ℕ ℕ := (s.freeBalance.val b, s.unbondings b)

/-- What unbonds for an account is read from its own ledger. -/
theorem unbondings_congr
    (h : s'.stake.stakeUnbondingLedger.find? b = s.stake.stakeUnbondingLedger.find? b) :
    s'.unbondings b = s.unbondings b := by
  unfold unbondings StorageMap.getD
  rw [h]

/-- A balance is taken from the account that pays. -/
theorem removeBalance_purse (hb : b ≠ who) (h : s.removeBalance cfg who x = some s₁) :
    s₁.purse b = s.purse b := by
  rcases removeBalance_eq_some h with ⟨_, rfl⟩
  exact Prod.ext (StorageMap.val_set_ne _ _ hb) rfl

/-- The loop pays the account whose ledger it reads. -/
theorem claimLoop_purse (hb : b ≠ who) (u : StorageMap ℕ ℕ) (ks : List ℕ)
    (acc : State A × StorageMap ℕ ℕ × ℕ) :
    (ks.foldl (claimStep who u) acc).1.purse b = acc.1.purse b := by
  induction ks generalizing acc with
  | nil => rfl
  | cons k ks ih =>
      rw [List.foldl_cons, ih]
      unfold claimStep
      split
      · rfl
      · exact Prod.ext (StorageMap.val_set_ne _ _ hb) rfl

/-- A claim pays the account that claims. -/
theorem doClaimUnbondings_purse (hb : b ≠ who) :
    (s.doClaimUnbondings who).1.purse b = s.purse b := by
  have hloop := claimLoop_purse hb (s.unbondings who) (s.unbondings who).ascKeys
    (s, s.unbondings who, 0)
  unfold doClaimUnbondings
  dsimp only
  split
  · rw [← hloop]
    exact Prod.ext rfl (unbondings_congr (StorageMap.find?_set_ne _ _ hb))
  · exact hloop

/-- What is due is claimed for the account that unbonds. -/
theorem prepareUnbondingLedgerEntry_purse (hb : b ≠ who)
    (h : s.prepareUnbondingLedgerEntry who c block = .ok s₁) : s₁.purse b = s.purse b := by
  rcases prepareUnbondingLedgerEntry_ok h with hs | hs
  · rw [hs]
  · rw [hs]
    exact doClaimUnbondings_purse hb

/-- An entry is made in the ledger of the account that unbonds. -/
theorem insertBalanceToUnbondingLedger_purse (hb : b ≠ who) :
    (s.insertBalanceToUnbondingLedger ar who x c block).purse b = s.purse b :=
  Prod.ext rfl (unbondings_congr (StorageMap.find?_set_ne _ _ hb))

/-! ## Primitives -/

omit [DecidableEq A] in
/-- Who writes balances and the ledger leaves the environment, blocks of calls apart. -/
theorem LedgerOnly.env (h : LedgerOnly s s') : s'.toEnv = s.toEnv.touched s'.toEnv := by
  rcases h with ⟨f, l, t, rfl⟩
  rfl

/-- Who writes another purse only leaves the account alone. -/
theorem LedgerOnly.untouched (h : LedgerOnly s s') (hpurse : s'.purse b = s.purse b) :
    s.Untouched b s' where
  free := congrArg Prod.fst hpurse
  shares k i := by rw [h.pools]
  unbondings := congrArg Prod.snd hpurse
  delegateAccount := by rw [h.delegateAccountStake]
  nodeStake _ _ _ _ := by rw [h.nodeSubnetStake]
  overwatchStake _ _ := by rw [h.overwatchNodeStakeBalance]
  env := h.env

theorem removeBalance_untouched (hb : b ≠ who) (h : s.removeBalance cfg who x = some s₁) :
    s.Untouched b s₁ :=
  (removeBalance_ledgerOnly h).untouched (removeBalance_purse hb h)

theorem prepareUnbondingLedgerEntry_untouched (hb : b ≠ who)
    (h : s.prepareUnbondingLedgerEntry who c block = .ok s₁) : s.Untouched b s₁ :=
  (prepareUnbondingLedgerEntry_ledgerOnly h).untouched (prepareUnbondingLedgerEntry_purse hb h)

theorem insertBalanceToUnbondingLedger_untouched (hb : b ≠ who) :
    s.Untouched b (s.insertBalanceToUnbondingLedger ar who x c block) :=
  (insertBalanceToUnbondingLedger_ledgerOnly ar s who x c block).untouched
    (insertBalanceToUnbondingLedger_purse hb)

/-- A pool whose shares of the account are the same leaves it alone. -/
theorem setPools_untouched {k : PoolKind} {p : Pools A}
    (hshares : ∀ i, p.accountShares.val (b, i) = (s.pools k).accountShares.val (b, i)) :
    s.Untouched b (s.setPools k p) where
  free := by cases k <;> rfl
  shares l i := by
    by_cases hl : l = k
    · subst hl
      rw [pools_setPools_self]
      exact hshares i
    · rw [pools_setPools_ne _ hl]
  unbondings := by cases k <;> rfl
  delegateAccount := by cases k <;> rfl
  nodeStake _ _ _ _ := by cases k <;> rfl
  overwatchStake _ _ := by cases k <;> rfl
  env := by cases k <;> rfl

/-- A net flow is nobody's. -/
theorem addNetFlow_untouched (k : PoolKind) (id : ℕ) (flow : ℤ) :
    s.Untouched b (s.addNetFlow k id flow) where
  free := by cases k <;> rfl
  shares l i := by rw [addNetFlow_pools]
  unbondings := by cases k <;> rfl
  delegateAccount := by rw [addNetFlow_stake]
  nodeStake _ _ _ _ := by rw [addNetFlow_stake]
  overwatchStake _ _ := by rw [addNetFlow_stake]
  env := by cases k <;> rfl

/-- Shares are taken from the account that gives them up. -/
theorem decreaseAccountStake_untouched (hb : b ≠ who) (k : PoolKind) (id n : ℕ) :
    s.Untouched b (s.decreaseAccountStake k who id x n) :=
  (setPools_untouched fun _ =>
    StorageMap.val_set_ne _ _ fun h => hb (congrArg Prod.fst h)).trans (addNetFlow_untouched ..)

/-- Shares are given to the account that gets them. -/
theorem increaseAccountStake_untouched (hb : b ≠ who) (k : PoolKind) (id n : ℕ) :
    s.Untouched b (s.increaseAccountStake ar k who id x n) :=
  (setPools_untouched fun _ =>
    StorageMap.val_set_ne _ _ fun h => hb (congrArg Prod.fst h)).trans (addNetFlow_untouched ..)

/-- A deposit is that of one account. -/
theorem handleIncreaseAccountStake_untouched (hb : b ≠ who) (k : PoolKind) (id : ℕ) :
    s.Untouched b (s.handleIncreaseAccountStake ar k who id x).1 := by
  have hshares : ∀ i, ((s.pools k).handleIncrease ar who id x).1.accountShares.val (b, i) =
      (s.pools k).accountShares.val (b, i) := by
    intro i
    have hne : (b, i) ≠ (who, id) := fun h => hb (congrArg Prod.fst h)
    simp only [Pools.handleIncrease]
    split <;> split <;> simp [Pools.increaseAccount, Pools.mintMinLiquidity, hne]
  unfold handleIncreaseAccountStake
  dsimp only
  split
  · exact setPools_untouched hshares
  · exact (setPools_untouched hshares).trans (addNetFlow_untouched ..)

/-- A reward for a pool gives nobody shares. -/
theorem doIncreaseStake_untouched (k : PoolKind) (id : ℕ) :
    s.Untouched b (s.doIncreaseStake ar k id x) := by
  refine setPools_untouched fun i => ?_
  simp only [Pools.doIncrease]
  split <;> rfl

/-- The rate limit of another account is not the account's. -/
theorem setLastTxBlock_untouched : s.Untouched b (s.setLastTxBlock who block) :=
  { Untouched.refl b s with env := rfl }

theorem cleanValidatorSubnetNodes_untouched (v : ℕ) :
    s.Untouched b (s.cleanValidatorSubnetNodes v) :=
  { Untouched.refl b s with env := rfl }

/-- A delegate account draws its own balance. -/
theorem decreaseDelegateAccountBalance_untouched (hb : b ≠ who) :
    s.Untouched b (s.decreaseDelegateAccountBalance who x) :=
  { Untouched.refl b s with delegateAccount := StorageMap.val_set_ne _ _ hb }

section Nodes

variable {i j : ℕ}

/-- Stake is added to a node of another owner. -/
theorem increaseNodeStake_untouched (hnode : ∀ v, s.nodeColdkey i j ≠ .ok (v, b)) :
    s.Untouched b (s.increaseNodeStake ar j i x) :=
  { Untouched.refl b s with
    nodeStake := fun i' j' v hv => StorageMap.val_set_ne _ _ fun h => by
      cases h
      exact hnode v hv }

/-- Stake is taken from a node of another owner. -/
theorem decreaseNodeStake_untouched (hnode : ∀ v, s.nodeColdkey i j ≠ .ok (v, b)) :
    s.Untouched b (s.decreaseNodeStake j i x) :=
  { Untouched.refl b s with
    nodeStake := fun i' j' v hv => StorageMap.val_set_ne _ _ fun h => by
      cases h
      exact hnode v hv }

theorem increaseOverwatchNodeStake_untouched (hnode : s.overwatchColdkey j ≠ .ok b) :
    s.Untouched b (s.increaseOverwatchNodeStake ar j x) :=
  { Untouched.refl b s with
    overwatchStake := fun _ hj => StorageMap.val_set_ne _ _ fun h => hnode (h ▸ hj) }

theorem decreaseOverwatchNodeStake_untouched (hnode : s.overwatchColdkey j ≠ .ok b) :
    s.Untouched b (s.decreaseOverwatchNodeStake j x) :=
  { Untouched.refl b s with
    overwatchStake := fun _ hj => StorageMap.val_set_ne _ _ fun h => hnode (h ▸ hj) }

/-! ## Whose node it is -/

/-- Who adds stake to a node owns it. -/
theorem addNodeStake_owner (h : s.addNodeStake cfg ar who i j x = .ok s') :
    ∃ v, s.nodeColdkey i j = .ok (v, who) := by
  unfold addNodeStake at h
  rw [isPaused_bind_ok, ensure_bind_ok, bind_ok] at h
  rcases h with ⟨-, -, owner, howner, h⟩
  rcases ensure_bind_ok.mp h with ⟨hkey, -⟩
  rw [of_decide_eq_true hkey]
  exact ⟨owner.1, howner⟩

/-- Who removes stake from a node owns it. -/
theorem removeNodeStake_owner (h : s.removeNodeStake cfg ar who i j x = .ok s') :
    ∃ v, s.nodeColdkey i j = .ok (v, who) := by
  unfold removeNodeStake doRemoveNodeStake at h
  rw [isPaused_bind_ok, bind_ok] at h
  rcases h with ⟨-, owner, howner, h⟩
  rcases ensure_bind_ok.mp h with ⟨hkey, -⟩
  rw [of_decide_eq_true hkey]
  exact ⟨owner.1, howner⟩

/-- Who adds stake to an overwatch node owns it. -/
theorem addOverwatchNodeStake_owner (h : s.addOverwatchNodeStake cfg ar who j x = .ok s') :
    s.overwatchColdkey j = .ok who := by
  unfold addOverwatchNodeStake at h
  rw [isPaused_bind_ok, bind_ok] at h
  rcases h with ⟨-, owner, howner, h⟩
  rcases ensure_bind_ok.mp h with ⟨hkey, -⟩
  rw [of_decide_eq_true hkey]
  exact howner

/-- Who removes stake from an overwatch node owns it. -/
theorem removeOverwatchNodeStake_owner (h : s.removeOverwatchNodeStake cfg ar who j x = .ok s') :
    s.overwatchColdkey j = .ok who := by
  unfold removeOverwatchNodeStake at h
  rw [isPaused_bind_ok] at h
  dsimp only at h
  rw [bind_ok] at h
  rcases h with ⟨-, owner, howner, h⟩
  rcases ensure_bind_ok.mp h with ⟨hkey, -⟩
  rw [of_decide_eq_true hkey]
  exact howner

end Nodes

end State

/-! ## Calls -/

namespace Call

variable {s s' : State A} {b : A} {cfg : Config A} {ar : Arith}

/-- A call that another account signs leaves all that is the account's, if it transfers nothing
to it. -/
theorem dispatch_untouched {call : Call A} (h : call.dispatch cfg ar s = .ok s') (hb : b ≠ call.who)
    (htransfer : ∀ k who i n, call ≠ .transferDelegateStake k who b i n) : s.Untouched b s' := by
  -- a node or an overwatch node has one owner, so what the signer owns is not the account's
  have hkey : ∀ {i j : ℕ}, (∃ v, s.nodeColdkey i j = .ok (v, call.who)) →
      ∀ v, s.nodeColdkey i j ≠ .ok (v, b) := by
    rintro i j ⟨v, hwho⟩ v' hv
    rw [hwho] at hv
    cases hv
    exact hb rfl
  have hwatch : ∀ {j : ℕ}, s.overwatchColdkey j = .ok call.who → s.overwatchColdkey j ≠ .ok b := by
    intro j hwho hj
    rw [hwho] at hj
    cases hj
    exact hb rfl
  cases call with
  | addNodeStake who i j x =>
      have howner := hkey (State.addNodeStake_owner h)
      rcases State.addNodeStake_ok h with ⟨s₁, hremove, rfl⟩
      have hpaid : s.Untouched b s₁ := State.removeBalance_untouched hb hremove
      refine (hpaid.trans (State.increaseNodeStake_untouched ?_)).trans
        State.setLastTxBlock_untouched
      intro v hv
      exact howner v ((State.nodeColdkey_of_env hpaid.env i j).symm.trans hv)
  | removeNodeStake who i j x =>
      have howner := hkey (State.removeNodeStake_owner h)
      rcases State.removeNodeStake_ok h with ⟨s₁, s₂, c, -, hprepare, hclean, rfl⟩
      have hprepared : s.Untouched b s₂ := by
        have hledger := State.prepareUnbondingLedgerEntry_untouched hb hprepare
        rcases hclean with rfl | ⟨v, rfl⟩
        · exact hledger
        · exact hledger.trans (State.cleanValidatorSubnetNodes_untouched v)
      refine ((hprepared.trans (State.decreaseNodeStake_untouched ?_)).trans
        (State.insertBalanceToUnbondingLedger_untouched hb)).trans State.setLastTxBlock_untouched
      intro v hv
      exact howner v ((State.nodeColdkey_of_env hprepared.env i j).symm.trans hv)
  | addOverwatchNodeStake who j x =>
      have howner := hwatch (State.addOverwatchNodeStake_owner h)
      rcases State.addOverwatchNodeStake_ok h with ⟨s₁, hremove, rfl⟩
      have hpaid : s.Untouched b s₁ := State.removeBalance_untouched hb hremove
      refine hpaid.trans (State.increaseOverwatchNodeStake_untouched ?_)
      exact fun hj => howner ((State.overwatchColdkey_of_env hpaid.env j).symm.trans hj)
  | removeOverwatchNodeStake who j x =>
      have howner := hwatch (State.removeOverwatchNodeStake_owner h)
      rcases State.removeOverwatchNodeStake_ok h with ⟨s₁, c, -, hprepare, rfl⟩
      have hprepared : s.Untouched b s₁ := State.prepareUnbondingLedgerEntry_untouched hb hprepare
      refine (hprepared.trans (State.decreaseOverwatchNodeStake_untouched ?_)).trans
        (State.insertBalanceToUnbondingLedger_untouched hb)
      exact fun hj => howner ((State.overwatchColdkey_of_env hprepared.env j).symm.trans hj)
  | addDelegateStake k who i x =>
      rcases State.doAddDelegateStake_ok (dispatch_add_ok h) with ⟨s₁, shares, hremove, -, rfl⟩
      exact ((State.removeBalance_untouched hb hremove).trans
        (State.handleIncreaseAccountStake_untouched hb k i)).trans State.setLastTxBlock_untouched
  | removeDelegateStake k who i n =>
      rcases State.doRemoveDelegateStake_ok (dispatch_remove_ok h) with
        ⟨s₁, c, -, -, hprepare, rfl⟩
      exact (((State.prepareUnbondingLedgerEntry_untouched hb hprepare).trans
        (State.decreaseAccountStake_untouched hb k i n)).trans
          (State.insertBalanceToUnbondingLedger_untouched hb)).trans State.setLastTxBlock_untouched
  | transferDelegateStake k who dest i n =>
      rcases State.doTransferDelegateStake_ok (dispatch_transfer_iff.mp h).2 with ⟨-, -, -, rfl⟩
      -- the account is not the one that is given shares
      have hdest : b ≠ dest := by
        rintro rfl
        exact htransfer k who i n rfl
      exact (State.decreaseAccountStake_untouched hb k i n).trans
        (State.increaseAccountStake_untouched hdest k i n)
  | donateDelegateStake k who i x =>
      rcases State.doDonate_ok (dispatch_donate_ok h) with ⟨s₁, hremove, rfl⟩
      exact (State.removeBalance_untouched hb hremove).trans (State.doIncreaseStake_untouched k i)
  | swapDelegateStake k l who i j n =>
      rcases State.doSwap_ok (dispatch_swap_ok h) with ⟨-, -, hqueue⟩
      rcases State.queueSwap_ok hqueue with ⟨-, rfl⟩
      exact (State.decreaseAccountStake_untouched hb k i n).trans
        { State.Untouched.refl b _ with env := rfl }
  | updateSwapQueue who id newCall =>
      rcases State.doUpdateSwapQueue_ok h with ⟨item, -, -, rfl⟩
      exact { State.Untouched.refl b s with env := rfl }
  | removeDelegateAccountBalance who x =>
      rcases State.removeDelegateAccountBalance_ok h with ⟨s₁, c, -, hprepare, rfl⟩
      exact ((State.prepareUnbondingLedgerEntry_untouched hb hprepare).trans
        (State.decreaseDelegateAccountBalance_untouched hb)).trans
          (State.insertBalanceToUnbondingLedger_untouched hb)
  | claimUnbondings who =>
      rw [State.claimUnbondings_ok h]
      exact (State.doClaimUnbondings_ledgerOnly s who).untouched (State.doClaimUnbondings_purse hb)

end Call

/-! ## Queued swaps -/

/-- An item waits in the queue under an id that will not be handed out again. -/
structure State.Waits (s : State A) (id : ℕ) (item : QueuedSwapItem A) : Prop where
  found : s.swaps.swapCallQueue.find? id = some item
  id_lt : id < s.swaps.nextSwapQueueId
  next_le : s.swaps.nextSwapQueueId ≤ u32Max

/-- It goes on waiting, whatever another account signs, but for an update that is not allowed. -/
theorem State.Waits.dispatch {s s' : State A} {cfg : Config A} {ar : Arith} {id : ℕ}
    {item : QueuedSwapItem A} (h : s.Waits id item) {call : Call A}
    (hok : call.dispatch cfg ar s = .ok s') (hwho : item.call.accountId ≠ call.who)
    (howned : (Op.call call).UpdatesOwn s) : s'.Waits id item := by
  by_cases hswap : ∃ k l who i j n, call = .swapDelegateStake k l who i j n
  · rcases hswap with ⟨k, l, who, i, j, n, rfl⟩
    rcases State.doSwap_ok (Call.dispatch_swap_ok hok) with ⟨-, -, hqueue⟩
    rcases State.queueSwap_ok hqueue with ⟨-, rfl⟩
    have hlt := h.id_lt
    have hle := h.next_le
    constructor
    · rw [State.decreaseAccountStake_swaps]
      rw [StorageMap.find?_set_ne _ _ (Nat.ne_of_lt hlt)]
      exact h.found
    · rw [State.decreaseAccountStake_swaps]
      show id < min (s.swaps.nextSwapQueueId + 1) u32Max
      omega
    · exact Nat.min_le_right _ _
  by_cases hupdate : ∃ who i newCall, call = .updateSwapQueue who i newCall
  · rcases hupdate with ⟨who, i, newCall, rfl⟩
    have hre := (retargeted_iff s who i newCall).mpr howned s' hok
    have hne : id ≠ i := by
      rintro rfl
      -- an allowed update of the item would be its account's
      rcases guards_of_doUpdateSwapQueue hok with ⟨haccount, hexists⟩
      rcases howned with hother | hgone | hown
      · exact hother haccount
      · rw [hexists] at hgone
        cases hgone
      · exact hwho (hown item h.found)
    exact ⟨(hre.others id hne).trans h.found, by rw [hre.next]; exact h.id_lt,
      by rw [hre.next]; exact h.next_le⟩
  · have hsame : s'.swaps = s.swaps := Call.dispatch_swaps hok
      (fun k l who i j n heq => hswap ⟨k, l, who, i, j, n, heq⟩)
      (fun who i newCall heq => hupdate ⟨who, i, newCall, heq⟩)
    exact ⟨hsame ▸ h.found, hsame ▸ h.id_lt, hsame ▸ h.next_le⟩

end Hypertensor
