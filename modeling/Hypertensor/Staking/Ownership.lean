import Mathlib
import Hypertensor.Base.Run
import Hypertensor.Staking.System
import Hypertensor.Staking.Solvency

/-!
# Hypertensor.Staking.Ownership — whose swap is in the queue

`update_swap_queue` may retarget a queued swap. It compares the caller with the
account inside the new call, which the caller supplies, and overwrites the
stored account with it.

* `Retargeted`: an update that changes the destination and nothing else.
* `creators`: the account whose stake was removed for each queued item, as a
  ghost beside the run.
* `queued_swap_ownership`: an update retargets exactly when its caller is the
  stored account (or a guard rejects it), and along runs with only such updates
  every executed item mints to its creator.
-/

namespace Hypertensor

open Base

variable {A : Type} [DecidableEq A]

/-- Between `s` and `s'` item `id` got another destination, and nothing else
about the queue changed. -/
structure Retargeted (s s' : State A) (id : ℕ) : Prop where
  item : ∃ old new, s.swaps.swapCallQueue.find? id = some old ∧
    s'.swaps.swapCallQueue.find? id = some new ∧
    new.call.accountId = old.call.accountId ∧
    new.call.getQueueBalance = old.call.getQueueBalance ∧ new.id = old.id ∧
    new.queuedAtBlock = old.queuedAtBlock ∧ new.executeAfterBlocks = old.executeAfterBlocks
  others : ∀ j, j ≠ id → s'.swaps.swapCallQueue.find? j = s.swaps.swapCallQueue.find? j
  order : s'.swaps.swapQueueOrder = s.swaps.swapQueueOrder
  next : s'.swaps.nextSwapQueueId = s.swaps.nextSwapQueueId
  pools : ∀ k, s'.pools k = s.pools k
  stake : s'.stake = s.stake
  env : s'.toEnv = s.toEnv

/-- The update is rejected by a guard, or its caller is the account stored in
the item. -/
def UpdateAllowed (s : State A) (who : A) (id : ℕ) (newCall : QueuedSwapCall A) : Prop :=
  newCall.accountId ≠ who ∨ s.poolExists newCall.kind newCall.poolId = false ∨
    ∀ item, s.swaps.swapCallQueue.find? id = some item → item.call.accountId = who

/-- Every update of the queue is allowed. -/
def Op.UpdatesOwn (s : State A) : Op A → Prop
  | .call (.updateSwapQueue who id newCall) => UpdateAllowed s who id newCall
  | _ => True

/-- An update that passes its guards succeeds. -/
theorem doUpdateSwapQueue_of_guards {s : State A} {who : A} {id : ℕ} {newCall : QueuedSwapCall A}
    {item : QueuedSwapItem A} (hitem : s.swaps.swapCallQueue.find? id = some item)
    (hacc : newCall.accountId = who) (hex : s.poolExists newCall.kind newCall.poolId = true) :
    s.doUpdateSwapQueue who id newCall =
      .ok (s.setCall id item (.to newCall.kind who newCall.poolId item.call.getQueueBalance)) := by
  subst hacc
  cases newCall with
  | swapToSubnetDelegateStake a toId b =>
      have hex' : s.subnets.subnetsData.contains toId = true := hex
      simp [State.doUpdateSwapQueue, hitem, okOr, ensure, bind, Except.bind, hex',
        QueuedSwapCall.accountId, QueuedSwapCall.to, QueuedSwapCall.kind, QueuedSwapCall.poolId]
  | swapToValidatorDelegateStake a toId b =>
      have hex' : s.validators.validatorsData.contains toId = true := hex
      simp [State.doUpdateSwapQueue, hitem, okOr, ensure, bind, Except.bind, hex',
        QueuedSwapCall.accountId, QueuedSwapCall.to, QueuedSwapCall.kind, QueuedSwapCall.poolId]

omit [DecidableEq A] in
@[simp] theorem accountId_to (k : PoolKind) (a : A) (id b : ℕ) :
    (QueuedSwapCall.to k a id b).accountId = a := by
  cases k <;> rfl

omit [DecidableEq A] in
@[simp] theorem getQueueBalance_to (k : PoolKind) (a : A) (id b : ℕ) :
    (QueuedSwapCall.to k a id b).getQueueBalance = b := by
  cases k <;> rfl

/-- A successful update passed its guards. -/
theorem guards_of_doUpdateSwapQueue {s s' : State A} {who : A} {id : ℕ}
    {newCall : QueuedSwapCall A} (h : s.doUpdateSwapQueue who id newCall = .ok s') :
    newCall.accountId = who ∧ s.poolExists newCall.kind newCall.poolId = true := by
  unfold State.doUpdateSwapQueue at h
  rw [okOr_bind_ok] at h
  rcases h with ⟨item, _, h⟩
  cases newCall with
  | swapToSubnetDelegateStake a toId b =>
      simp only [ensure_bind_ok, decide_eq_true_eq] at h
      exact ⟨h.1, h.2.1⟩
  | swapToValidatorDelegateStake a toId b =>
      simp only [ensure_bind_ok, decide_eq_true_eq] at h
      exact ⟨h.1, h.2.1⟩

/-- Updates keep the beneficiary exactly when they are allowed. -/
theorem retargeted_iff (s : State A) (who : A) (id : ℕ) (newCall : QueuedSwapCall A) :
    (∀ s', s.doUpdateSwapQueue who id newCall = .ok s' → Retargeted s s' id) ↔
      UpdateAllowed s who id newCall := by
  constructor
  · intro h
    by_cases hacc : newCall.accountId = who
    · by_cases hex : s.poolExists newCall.kind newCall.poolId = true
      · refine Or.inr (Or.inr ?_)
        intro item hitem
        obtain ⟨old, new, hold, hnew, hsame, _⟩ :=
          (h _ (doUpdateSwapQueue_of_guards hitem hacc hex)).item
        simp only [State.setCall, StorageMap.find?_set_self, Option.some.injEq] at hnew
        rw [hitem, Option.some.injEq] at hold
        rw [← hold, ← hnew] at hsame
        simpa using hsame.symm
      · exact Or.inr (Or.inl (by simpa using hex))
    · exact Or.inl hacc
  · intro hallow s' hs'
    rcases guards_of_doUpdateSwapQueue hs' with ⟨hacc, hex⟩
    rcases State.doUpdateSwapQueue_ok hs' with ⟨item, hitem, _, rfl⟩
    have hown : item.call.accountId = who := by
      rcases hallow with hne | hno | hown
      · exact absurd hacc hne
      · rw [hex] at hno
        cases hno
      · exact hown item hitem
    refine ⟨⟨item, _, hitem, StorageMap.find?_set_self _ _ _, ?_, ?_, rfl, rfl, rfl⟩, ?_, rfl, rfl,
      State.pools_congr rfl rfl, rfl, rfl⟩
    · rw [accountId_to, hown]
    · rw [getQueueBalance_to]
    · intro j hj
      exact StorageMap.find?_set_ne _ _ hj

/-! ## Creators along a run -/

/-- The ghost of a label: a swap that is queued is its caller's. -/
def creatorsStep (cfg : Config A) (s : State A) (g : StorageMap ℕ A) : Op A → StorageMap ℕ A
  | .call (.swapDelegateStake k l who i j n) =>
      match (Call.swapDelegateStake k l who i j n).dispatch cfg u128 s with
      | .ok _ => g.set s.swaps.nextSwapQueueId who
      | .error _ => g
  | _ => g

/-- The chain with the ghost beside it. -/
def trackedStep (cfg : Config A) (sg : State A × StorageMap ℕ A) (op : Op A) :
    State A × StorageMap ℕ A :=
  (op.step cfg u128 sg.1, creatorsStep cfg sg.1 sg.2 op)

/-- Every queued item names its creator. -/
def QueueOwned (sg : State A × StorageMap ℕ A) : Prop :=
  ∀ id item, sg.1.swaps.swapCallQueue.find? id = some item →
    sg.2.find? id = some item.call.accountId

/-- The hook only takes items out. -/
theorem queueOwned_of_executes {b : ℕ} {s s' : State A} {es : List (Executed A)}
    {g : StorageMap ℕ A} (h : Executes u128 b s es s') (hown : QueueOwned (s, g)) :
    QueueOwned (s', g) ∧ ∀ e ∈ es, g.find? e.id = some e.item.call.accountId := by
  induction h with
  | nil _ => exact ⟨hown, fun e he => by cases he⟩
  | @cons e es s' he _ ih =>
      have hafter : QueueOwned (e.after, g) := by
        intro id item hitem
        rw [he.after_eq] at hitem
        simp only [State.dequeue, Executed.credit, State.handleIncreaseAccountStake_swaps,
          StorageMap.find?_remove] at hitem
        split at hitem
        · cases hitem
        · exact hown id item hitem
      rcases ih hafter with ⟨hlast, hrest⟩
      refine ⟨hlast, ?_⟩
      intro x hx
      rcases List.mem_cons.mp hx with rfl | hx
      · exact hown _ _ he.found
      · exact hrest x hx

/-- Every label keeps the queue owned, updates by strangers apart. -/
theorem queueOwned_step {cfg : Config A} {sg : State A × StorageMap ℕ A} {op : Op A}
    (hop : op.UpdatesOwn sg.1) (hown : QueueOwned sg) : QueueOwned (trackedStep cfg sg op) := by
  rcases sg with ⟨s, g⟩
  cases op with
  | call c =>
      rcases hc : c.dispatch cfg u128 s with err | s'
      · -- a failing call changes neither the chain nor the ghost
        have hs : (Op.call c).step cfg u128 s = s := by
          simp only [Op.step, Op.exec, hc, commit]
        have hg : creatorsStep cfg s g (.call c) = g := by
          cases c <;> simp only [creatorsStep]
          next k l who i j n => simp only [hc]
        simp only [trackedStep, hs, hg]
        exact hown
      · have hs : (Op.call c).step cfg u128 s = s' := by
          simp only [Op.step, Op.exec, hc, commit]
        simp only [trackedStep, hs]
        -- a swap gets an item with its creator, an update must leave the account, and nothing else
        -- writes the queue
        by_cases hswap : ∃ k l who i j n, c = .swapDelegateStake k l who i j n
        · rcases hswap with ⟨k, l, who, i, j, n, rfl⟩
          simp only [creatorsStep, hc]
          rcases State.doSwap_ok (Call.dispatch_swap_ok hc) with ⟨_, _, hq⟩
          rcases State.queueSwap_ok hq with ⟨_, rfl⟩
          intro id item hitem
          simp only [State.decreaseAccountStake_swaps, StorageMap.find?_set] at hitem ⊢
          split
          · next hid =>
              rw [if_pos hid, Option.some.injEq] at hitem
              rw [← hitem, accountId_to]
          · next hid =>
              rw [if_neg hid] at hitem
              exact hown id item hitem
        by_cases hupd : ∃ who id call, c = .updateSwapQueue who id call
        · rcases hupd with ⟨who, uid, newCall, rfl⟩
          have hre := (retargeted_iff s who uid newCall).mpr hop s' hc
          intro id item hitem
          by_cases hid : id = uid
          · subst hid
            rcases hre.item with ⟨old, new, hold, hnew, hacc, _⟩
            rw [hnew, Option.some.injEq] at hitem
            rw [← hitem, hacc]
            exact hown id old hold
          · rw [hre.others id hid] at hitem
            exact hown id item hitem
        · have hsame : s'.swaps = s.swaps := Call.dispatch_swaps hc
            (fun k l who i j n h => hswap ⟨k, l, who, i, j, n, h⟩)
            (fun who id call h => hupd ⟨who, id, call, h⟩)
          have hg : creatorsStep cfg s g (.call c) = g := by
            cases c <;> simp only [creatorsStep]
            next k l who i j n => exact absurd ⟨k, l, who, i, j, n, rfl⟩ hswap
          intro id item hitem
          simp only [hg, hsame] at hitem ⊢
          exact hown id item hitem
  | executeReadySwapCalls b meter =>
      exact (queueOwned_of_executes
        (State.executeReadySwapCalls_executes cfg u128 s b meter) hown).1
  | rewardPool k id x =>
      intro i item hitem
      exact hown i item (State.setPools_swaps s k _ ▸ hitem)
  | rewardNode i j x => exact hown
  | rewardOverwatchNode i x => exact hown
  | rewardDelegateAccount a x => exact hown
  | slashNode i j x => exact hown
  | external env => exact hown

theorem run_trackedStep_fst (cfg : Config A) (sg : State A × StorageMap ℕ A) (ops : List (Op A)) :
    (run (trackedStep cfg) sg ops).1 = run (Op.step cfg u128) sg.1 ops := by
  induction ops generalizing sg with
  | nil => rfl
  | cons op ops ih => exact ih (trackedStep cfg sg op)

theorem queueOwned_run {cfg : Config A} (sg : State A × StorageMap ℕ A) {ops : List (Op A)}
    (hrun : Along (Op.step cfg u128) Op.UpdatesOwn sg.1 ops) (hown : QueueOwned sg) :
    QueueOwned (run (trackedStep cfg) sg ops) := by
  induction ops generalizing sg with
  | nil => exact hown
  | cons op ops ih => exact ih _ hrun.2 (queueOwned_step hrun.1 hown)

/-- What executing an item does to account shares: the item's account gets what
was minted, every other account keeps what it has. -/
theorem credit_accountShares {b : ℕ} {e : Executed A} (he : e.Ran u128 b) :
    (∀ k a j, a ≠ e.item.call.accountId →
      (e.after.pools k).accountShares.val (a, j) = (e.before.pools k).accountShares.val (a, j)) ∧
    (∀ n, e.shares = some n →
      (e.after.pools e.item.call.kind).accountShares.val
          (e.item.call.accountId, e.item.call.poolId) =
        u128.add ((e.before.pools e.item.call.kind).accountShares.val
          (e.item.call.accountId, e.item.call.poolId)) n) := by
  have hpool : e.after.pools e.item.call.kind =
      ((e.before.pools e.item.call.kind).handleIncrease u128 e.item.call.accountId
        e.item.call.poolId e.item.call.getQueueBalance).1 := by
    rw [he.after_eq, State.dequeue_pools, Executed.credit, State.handleIncreaseAccountStake_pools]
  have hshares := he.shares_eq
  rw [Executed.credit, State.handleIncreaseAccountStake_snd] at hshares
  constructor
  · intro k a j ha
    by_cases hk : k = e.item.call.kind
    · subst hk
      rw [hpool]
      have hne : (a, j) ≠ (e.item.call.accountId, e.item.call.poolId) :=
        fun h => ha (Prod.mk.inj h).1
      simp only [Pools.handleIncrease]
      split <;> split <;> simp [Pools.increaseAccount, Pools.mintMinLiquidity, hne]
    · rw [he.after_eq, State.dequeue_pools, Executed.credit,
        State.handleIncreaseAccountStake_pools_ne _ _ _ _ _ hk]
  · intro n hn
    rw [hshares] at hn
    rw [hpool, (Pools.handleIncrease_some hn).2.2]
    split <;> simp [Pools.increaseAccount, Pools.mintMinLiquidity]

/-- `update_swap_queue` changes the destination of an item and nothing else if
and only if its caller is the account stored in the item or a guard rejects it.
In every run whose updates are all of that kind, the shares minted when an item
executes go to the account whose stake was removed to create it. -/
theorem queued_swap_ownership (cfg : Config A) :
    (∀ (s : State A) (who : A) (id : ℕ) (newCall : QueuedSwapCall A),
      (∀ s', s.updateSwapQueue who id newCall = .ok s' → Retargeted s s' id) ↔
        UpdateAllowed s who id newCall) ∧
    (∀ (s₀ : State A) (ops : List (Op A)), s₀.swaps.swapCallQueue = ∅ →
      Along (Op.step cfg u128) Op.UpdatesOwn s₀ ops →
      let s := run (Op.step cfg u128) s₀ ops
      let creators := (run (trackedStep cfg) (s₀, ∅) ops).2
      ∀ op : Op A, ∀ e ∈ (op.exec cfg u128 s).2, ∃ creator,
        creators.find? e.id = some creator ∧
        (∀ k a j, a ≠ creator →
          (e.after.pools k).accountShares.val (a, j) =
            (e.before.pools k).accountShares.val (a, j)) ∧
        (∀ n, e.shares = some n →
          (e.after.pools e.item.call.kind).accountShares.val (creator, e.item.call.poolId) =
            u128.add ((e.before.pools e.item.call.kind).accountShares.val
              (creator, e.item.call.poolId)) n)) := by
  refine ⟨retargeted_iff, ?_⟩
  intro s₀ ops hempty hrun s creators op e he
  have hinit : QueueOwned (s₀, (∅ : StorageMap ℕ A)) := by
    intro id item hitem
    rw [hempty, StorageMap.find?_empty] at hitem
    cases hitem
  have hown := queueOwned_run (s₀, ∅) hrun hinit
  -- the record of creators is kept beside the run and does not change it
  have hs : run (trackedStep cfg) (s₀, ∅) ops = (s, creators) :=
    Prod.ext (run_trackedStep_fst cfg (s₀, ∅) ops) rfl
  rw [hs] at hown
  -- only a block executes swaps
  cases op with
  | executeReadySwapCalls b meter =>
      have hex := State.executeReadySwapCalls_executes cfg u128 s b meter
      have hran := executes_ran hex e he
      rcases credit_accountShares hran with ⟨hothers, hminted⟩
      exact ⟨e.item.call.accountId, (queueOwned_of_executes hex hown).2 e he, hothers, hminted⟩
  | call c => cases he
  | rewardPool k id x => cases he
  | rewardNode i j x => cases he
  | rewardOverwatchNode i x => cases he
  | rewardDelegateAccount a x => cases he
  | slashNode i j x => cases he
  | external env => cases he

/-- Account `0` stakes and queues a swap. -/
def demoQueued : List (Op ℕ) :=
  [.call (.addDelegateStake .subnet 0 7 5000),
    .call (.swapDelegateStake .subnet .subnet 0 7 7 2000)]

/-- A hook that runs one epoch later with weight to spare. -/
def demoHook : Op ℕ := .executeReadySwapCalls 20 ⟨⟨1000000000000, 1000000⟩, ⟨0, 0⟩⟩

/-- A stranger retargets the swap of account `0` to itself, and one epoch later
the shares are minted to the stranger. -/
theorem update_swap_queue_by_stranger :
    let s := run (Op.step (.runtime ℕ) u128) (.genesis demoEnv) demoQueued
    let update := Call.updateSwapQueue 1 0 (.swapToSubnetDelegateStake 1 7 0)
    (∃ s', s.updateSwapQueue 1 0 (.swapToSubnetDelegateStake 1 7 0) = .ok s' ∧
      ¬ Retargeted s s' 0) ∧
    (run (trackedStep (.runtime ℕ)) (.genesis demoEnv, ∅) demoQueued).2.find? 0 = some 0 ∧
    (s.pools .subnet).accountShares.val (1, 7) = 0 ∧
    ((run (Op.step (.runtime ℕ) u128) s [.call update, demoHook]).pools
      .subnet).accountShares.val (1, 7) = 1999 := by
  intro s update
  have hstored : s.swaps.swapCallQueue.find? 0 =
      some ⟨0, .swapToSubnetDelegateStake 0 7 1664, 0, 20⟩ := by decide +kernel
  refine ⟨⟨s.setCall 0 ⟨0, .swapToSubnetDelegateStake 0 7 1664, 0, 20⟩
    (.swapToSubnetDelegateStake 1 7 1664), by decide +kernel, ?_⟩, by decide +kernel,
    by decide +kernel, by decide +kernel⟩
  intro h
  rcases h.item with ⟨old, new, hold, hnew, hacc, _⟩
  rw [hstored, Option.some.injEq] at hold
  simp only [State.setCall, StorageMap.find?_set_self, Option.some.injEq] at hnew
  rw [← hold, ← hnew] at hacc
  exact absurd hacc (by decide)

/-- The owner retargets the same swap and gets the shares. -/
theorem queued_swap_ownership_demo :
    let ops := demoQueued ++
      [.call (.updateSwapQueue 0 0 (.swapToSubnetDelegateStake 0 7 0))]
    let s := run (Op.step (.runtime ℕ) u128) (.genesis demoEnv) ops
    ∃ e ∈ (demoHook.exec (.runtime ℕ) u128 s).2, ∃ creator,
      (run (trackedStep (.runtime ℕ)) (.genesis demoEnv, ∅) ops).2.find? e.id = some creator ∧
      (e.after.pools e.item.call.kind).accountShares.val (creator, e.item.call.poolId) =
        u128.add ((e.before.pools e.item.call.kind).accountShares.val
          (creator, e.item.call.poolId)) 1999 := by
  intro ops s
  have hrun : Along (Op.step (.runtime ℕ) u128) Op.UpdatesOwn (.genesis demoEnv) ops := by
    refine ⟨trivial, trivial, Or.inr (Or.inr ?_), trivial⟩
    intro item hitem
    have hstored : (run (Op.step (.runtime ℕ) u128) (.genesis demoEnv)
        demoQueued).swaps.swapCallQueue.find? 0 =
        some ⟨0, .swapToSubnetDelegateStake 0 7 1664, 0, 20⟩ := by decide +kernel
    have heq := Option.some.inj (hitem.symm.trans hstored)
    rw [heq]
    rfl
  obtain ⟨e, he, hshares⟩ : ∃ e ∈ (demoHook.exec (.runtime ℕ) u128 s).2,
      e.shares = some 1999 := by decide +kernel
  obtain ⟨creator, hcreator, _, hminted⟩ :=
    (queued_swap_ownership (.runtime ℕ)).2 (.genesis demoEnv) ops rfl hrun demoHook e he
  exact ⟨e, he, creator, hcreator, hminted 1999 hshares⟩

end Hypertensor
