import Mathlib
import Hypertensor.Base.Fifo
import Hypertensor.Staking.Delivery

/-!
# Hypertensor.Staking.Swaps — the swap queue is first in, first out

The swap queue is a queue of `Base.Fifo`: `SwapCallQueue` holds its items,
`SwapQueueOrder` their order, `NextSwapQueueId` the next ticket, and the time stamp of
an item is the block it was queued at. `Op.step_fifo` shows that every label of the
staking machine is a sequence of steps of such a queue, and names the tickets that leave
it. What the library knows of these steps then holds along every run.
-/

namespace Hypertensor

open Base

variable {A : Type}

/-- The swap queue of a state, and the block it is in. -/
def State.fifo (s : State A) : Fifo (QueuedSwapItem A) where
  entries := s.swaps.swapCallQueue
  order := s.swaps.swapQueueOrder
  next := s.swaps.nextSwapQueueId
  now := s.block

namespace Op

/-- Blocks do not decrease: neither the one the chain is in, nor the one the hook runs in. -/
def OnTime (s : State A) : Op A → Prop
  | external env => s.block ≤ env.block
  | executeReadySwapCalls blockNumber _ => s.block ≤ blockNumber
  | _ => True

/-- A swap finds an id that has not been given out. -/
def SwapIdsLeft (s : State A) : Op A → Prop
  | call (.swapDelegateStake _ _ _ _ _ _) => s.swaps.nextSwapQueueId < u32Max
  | _ => True

instance decidableOnTime (s : State A) : (op : Op A) → Decidable (op.OnTime s)
  | external env => inferInstanceAs (Decidable (s.block ≤ env.block))
  | executeReadySwapCalls b _ => inferInstanceAs (Decidable (s.block ≤ b))
  | call _ | rewardPool _ _ _ | rewardNode _ _ _ | rewardOverwatchNode _ _
  | rewardDelegateAccount _ _ | slashNode _ _ _ => inferInstanceAs (Decidable True)

instance decidableSwapIdsLeft (s : State A) (op : Op A) : Decidable (op.SwapIdsLeft s) := by
  unfold SwapIdsLeft
  split
  · exact inferInstance
  · exact inferInstance

/-- The swaps executed along a run, in order. -/
def executions [DecidableEq A] (cfg : Config A) : State A → List (Op A) → List (Executed A)
  | _, [] => []
  | s, op :: ops => (op.exec cfg u128 s).2 ++ executions cfg (op.step cfg u128 s) ops

end Op

variable [DecidableEq A]

/-! ## What stays as it is -/

namespace State

omit [DecidableEq A] in
@[simp] theorem setPools_block (s : State A) (k : PoolKind) (p : Pools A) :
    (s.setPools k p).block = s.block := by
  cases k <;> rfl

theorem handleIncreaseAccountStake_env (ar : Arith) (s : State A) (k : PoolKind) (who : A)
    (id x : ℕ) : (s.handleIncreaseAccountStake ar k who id x).1.toEnv =
      s.toEnv.touched (s.handleIncreaseAccountStake ar k who id x).1.toEnv := by
  unfold handleIncreaseAccountStake
  dsimp only
  split <;> cases k <;> rfl

theorem handleIncreaseAccountStake_block (ar : Arith) (s : State A) (k : PoolKind) (who : A)
    (id x : ℕ) : (s.handleIncreaseAccountStake ar k who id x).1.block = s.block := by
  have henv := congrArg Env.block (handleIncreaseAccountStake_env ar s k who id x)
  exact henv

@[simp] theorem decreaseAccountStake_block (s : State A) (k : PoolKind) (who : A) (id x n : ℕ) :
    (s.decreaseAccountStake k who id x n).block = s.block := by
  cases k <;> rfl

end State

/-- A call is made within a block. -/
theorem Call.dispatch_block {cfg : Config A} {ar : Arith} {s s' : State A} {c : Call A}
    (h : c.dispatch cfg ar s = .ok s') : s'.block = s.block := by
  have henv := congrArg Env.block (dispatch_env h)
  exact henv

/-- The hook writes no direct stake, and little of the environment. -/
theorem Executes.frame {ar : Arith} {b : ℕ} {s s' : State A} {es : List (Executed A)}
    (h : Executes ar b s es s') :
    s'.toEnv = s.toEnv.touched s'.toEnv ∧ s'.stake = s.stake := by
  induction h with
  | nil _ => exact ⟨rfl, rfl⟩
  | @cons e es s' he _ ih =>
      have hstake : e.after.stake = e.before.stake := by
        rw [he.after_eq]
        exact State.handleIncreaseAccountStake_stake ..
      have henv : e.after.toEnv = e.before.toEnv.touched e.after.toEnv := by
        rw [he.after_eq]
        exact State.handleIncreaseAccountStake_env ..
      rw [henv] at ih
      exact ⟨ih.1, ih.2.trans hstake⟩

/-! ## The hook -/

omit [DecidableEq A] in
theorem State.fifo_congr {s s' : State A} (hswaps : s'.swaps = s.swaps)
    (hblock : s'.block = s.block) : s'.fifo = s.fifo := by
  unfold fifo
  rw [hswaps, hblock]

/-- An executed item is taken from the head of the queue. -/
theorem Executed.Ran.fifo {ar : Arith} {b : ℕ} {e : Executed A} (he : e.Ran ar b) :
    e.after.fifo = e.before.fifo.pop e.id := by
  have hcredit : (e.credit ar).1.fifo = e.before.fifo := by
    refine State.fifo_congr ?_ ?_
    · exact State.handleIncreaseAccountStake_swaps ..
    · exact State.handleIncreaseAccountStake_block ..
  rw [he.after_eq, ← hcredit]
  rfl

/-- The time stamp of an item. -/
abbrev queuedAt (item : QueuedSwapItem A) : ℕ := item.queuedAtBlock

theorem Executes.fifo {ar : Arith} {b : ℕ} {s s' : State A} {es : List (Executed A)}
    (h : Executes ar b s es s') : Fifo.Steps queuedAt s.fifo (es.map Executed.id) s'.fifo := by
  induction h with
  | nil s => exact .nil s.fifo
  | @cons e es s' he _ ih =>
      obtain ⟨rest, horder⟩ := he.head
      have hpop : Fifo.Step queuedAt e.before.fifo [e.id] e.after.fifo := by
        rw [he.fifo]
        exact .pop horder
      exact .cons hpop ih

/-- The executed items are a prefix of the queue, as they were queued. -/
theorem Executes.pops {ar : Arith} {b : ℕ} {s s' : State A} {es : List (Executed A)}
    (h : Executes ar b s es s') :
    s.swaps.swapQueueOrder = es.map Executed.id ++ s'.swaps.swapQueueOrder ∧
      ∀ e ∈ es, s.swaps.swapCallQueue.find? e.id = some e.item ∧
        e.item.executeAfterBlocks ≤ b - e.item.queuedAtBlock := by
  induction h with
  | nil s => exact ⟨rfl, fun e he => absurd he List.not_mem_nil⟩
  | @cons e es s' he _ ih =>
      obtain ⟨rest, horder⟩ := he.head
      have hafter : e.after.swaps.swapQueueOrder = rest := by
        have htail : e.after.swaps.swapQueueOrder = e.before.swaps.swapQueueOrder.tail :=
          congrArg Fifo.order he.fifo
        rw [htail, horder, List.tail_cons]
      constructor
      · rw [horder, List.map_cons, List.cons_append, ← ih.1, hafter]
      · intro x hx
        rcases List.mem_cons.mp hx with rfl | hx
        · exact ⟨he.found, he.ready⟩
        · -- a later item was there before the head was taken out
          obtain ⟨hfound, hready⟩ := ih.2 x hx
          rw [Executed.queue_of_ran he, StorageMap.find?_remove] at hfound
          split at hfound
          · cases hfound
          · exact ⟨hfound, hready⟩

theorem State.executeLoop_length (cfg : Config A) (ar : Arith) (b n : ℕ) (s : State A)
    (meter : WeightMeter) : (s.executeLoop cfg ar b n meter).2.length ≤ n := by
  induction n generalizing s meter with
  | zero => exact le_rfl
  | succ n ih =>
      unfold executeLoop
      split
      · exact Nat.zero_le _
      · exact Nat.succ_le_succ (ih _ _)

/-! ## Labels -/

namespace Op

variable {cfg : Config A} {s s' : State A}

omit [DecidableEq A] in
/-- A queued swap draws the next ticket. -/
theorem queueSwap_fifo {swap : QueuedSwapCall A} (hleft : s.swaps.nextSwapQueueId < u32Max)
    (h : s.queueSwap cfg swap = .ok s') : Fifo.Steps queuedAt s.fifo [] s'.fifo := by
  obtain ⟨_, rfl⟩ := State.queueSwap_ok h
  have hnext : min (s.swaps.nextSwapQueueId + 1) u32Max = s.swaps.nextSwapQueueId + 1 :=
    min_eq_left hleft
  unfold State.fifo
  dsimp only
  rw [hnext]
  exact .single (.push (q := s.fifo) (v := ⟨_, swap, s.block, cfg.epochLength⟩) rfl)

/-- A call draws one ticket, rewrites one item, or leaves the queue alone. -/
theorem dispatch_fifo {c : Call A} (hleft : (call c).SwapIdsLeft s)
    (h : c.dispatch cfg u128 s = .ok s') : Fifo.Steps queuedAt s.fifo [] s'.fifo := by
  have hblock := Call.dispatch_block h
  by_cases hswap : ∃ k l who i j n, c = .swapDelegateStake k l who i j n
  · obtain ⟨k, l, who, i, j, n, rfl⟩ := hswap
    obtain ⟨_, _, hq⟩ := State.doSwap_ok (Call.dispatch_swap_ok h)
    have hold : (s.decreaseAccountStake k who i ((s.pools k).sharesToBalance u128 i n) n).fifo =
        s.fifo := State.fifo_congr (by simp) (by simp)
    rw [← hold]
    refine queueSwap_fifo ?_ hq
    rw [State.decreaseAccountStake_swaps]
    exact hleft
  · by_cases hupdate : ∃ who id call, c = .updateSwapQueue who id call
    · obtain ⟨who, id, newCall, rfl⟩ := hupdate
      obtain ⟨item, hfind, _, rfl⟩ := State.doUpdateSwapQueue_ok h
      have hwrite (w : QueuedSwapItem A) (hw : queuedAt w = queuedAt item) :
          Fifo.Step queuedAt s.fifo [] (s.fifo.write id w) := .write hfind hw
      exact .single (hwrite _ rfl)
    · have hswaps : s'.swaps = s.swaps := by
        refine Call.dispatch_swaps h ?_ ?_
        · exact fun k l who i j n heq => hswap ⟨k, l, who, i, j, n, heq⟩
        · exact fun who id call heq => hupdate ⟨who, id, call, heq⟩
      rw [State.fifo_congr hswaps hblock]
      exact .nil s.fifo

/-- What a label does to the queue. -/
theorem step_fifo {op : Op A} (htime : op.OnTime s) (hleft : op.SwapIdsLeft s) :
    Fifo.Steps queuedAt s.fifo ((op.exec cfg u128 s).2.map Executed.id) (op.step cfg u128 s).fifo := by
  cases op with
  | call c =>
      exact commit_induction (P := fun s' => Fifo.Steps queuedAt s.fifo [] s'.fifo)
        (.nil s.fifo) fun s' h => dispatch_fifo hleft h
  | executeReadySwapCalls b meter =>
      exact (State.executeReadySwapCalls_executes cfg u128 s b meter).fifo
  | rewardPool k id x =>
      have hsame : (s.doIncreaseStake u128 k id x).fifo = s.fifo :=
        State.fifo_congr (State.setPools_swaps ..) (State.setPools_block ..)
      exact hsame ▸ .nil _
  | rewardNode i j x => exact .nil s.fifo
  | rewardOverwatchNode i x => exact .nil s.fifo
  | rewardDelegateAccount a x => exact .nil s.fifo
  | slashNode i j x => exact .nil s.fifo
  | external env => exact .single (.wait (q := s.fifo) htime)

theorem run_fifo {ops : List (Op A)}
    (hops : Along (step cfg u128) (fun s op => op.OnTime s ∧ op.SwapIdsLeft s) s ops) :
    Fifo.Steps queuedAt s.fifo ((executions cfg s ops).map Executed.id)
      (run (step cfg u128) s ops).fifo := by
  induction ops generalizing s with
  | nil => exact .nil s.fifo
  | cons op ops ih =>
      unfold executions
      rw [List.map_append]
      exact (step_fifo hops.1.1 hops.1.2).trans (ih hops.2)

end Op

/-! ## Runs -/

omit [DecidableEq A] in
/-- An empty queue is in order. -/
theorem State.genesis_fifo (env : Env A) : (State.genesis env).fifo.Ordered queuedAt where
  sorted := List.Pairwise.nil
  keys id := by
    constructor
    · intro hid
      cases hid
    · rintro ⟨v, hv⟩
      cases hv
  below id hid := by cases hid
  stamps := List.Pairwise.nil
  past id v hv := by cases hv

/-- Along every run the order of the swap queue is ascending and lists exactly the stored
items, by the block they were queued at, all below the next id. In any state of the run the
hook takes a prefix of the queue, of at most `MaxSwapQueueCallsPerBlock` items, each as it is
stored and not before its time; the head of a queue always has its item; and no item is
executed twice along the run. -/
theorem swap_queue_fifo (cfg : Config A) (env : Env A) (ops : List (Op A))
    (hops : Along (Op.step cfg u128) (fun s op => op.OnTime s ∧ op.SwapIdsLeft s) (.genesis env) ops) :
    let s := run (Op.step cfg u128) (.genesis env) ops
    let q := s.swaps
    q.swapQueueOrder.Pairwise (· < ·) ∧
      (∀ id, id ∈ q.swapQueueOrder ↔ ∃ item, q.swapCallQueue.find? id = some item) ∧
      (∀ id ∈ q.swapQueueOrder, id < q.nextSwapQueueId) ∧
      q.swapQueueOrder.Pairwise (fun a b => ∀ x y, q.swapCallQueue.find? a = some x →
        q.swapCallQueue.find? b = some y → x.queuedAtBlock ≤ y.queuedAtBlock) ∧
      (∀ b meter, s.block ≤ b →
        let r := s.executeReadySwapCalls cfg u128 b meter
        q.swapQueueOrder = r.2.map Executed.id ++ r.1.swaps.swapQueueOrder ∧
          r.2.length ≤ s.params.maxSwapQueueCallsPerBlock ∧
          (∀ id, r.1.swaps.swapCallQueue.find? id =
            if id ∈ r.2.map Executed.id then none else q.swapCallQueue.find? id) ∧
          ∀ e ∈ r.2, q.swapCallQueue.find? e.id = some e.item ∧
            e.item.queuedAtBlock + e.item.executeAfterBlocks ≤ b) ∧
      (∀ id rest, q.swapQueueOrder = id :: rest → ∃ item, q.swapCallQueue.find? id = some item) ∧
      ((Op.executions cfg (.genesis env) ops).map Executed.id).Nodup := by
  intro s q
  have hsteps := Op.run_fifo hops
  have h : s.fifo.Ordered queuedAt := Fifo.ordered_of_steps hsteps (State.genesis_fifo env)
  refine ⟨h.sorted, h.keys, h.below, h.stamps, ?_, ?_, (Fifo.popped_of_steps hsteps (State.genesis_fifo env)).1⟩
  · intro b meter hb r
    have hrun : Executes u128 b s r.2 r.1 := State.executeReadySwapCalls_executes cfg u128 s b meter
    refine ⟨hrun.pops.1, State.executeLoop_length .., executes_queue hrun, ?_⟩
    intro e he
    obtain ⟨hfound, hready⟩ := hrun.pops.2 e he
    -- a swap is queued in a block that is past, so its delay is over when it is executed
    have hpast : e.item.queuedAtBlock ≤ s.block := h.past e.id e.item hfound
    exact ⟨hfound, by omega⟩
  · intro id rest horder
    refine (h.keys id).mp ?_
    show id ∈ q.swapQueueOrder
    rw [horder]
    exact List.mem_cons_self

/-- Two swaps are queued, one of them is retargeted, and a block of an epoch later executes the
first and, for its limit, not the second. -/
theorem swap_queue_fifo_demo :
    let env₁ := { demoEnv with block := 1, params := { demoEnv.params with maxSwapQueueCallsPerBlock := 1 } }
    let ops : List (Op ℕ) := [.call (.addDelegateStake .subnet 0 7 1000),
      .call (.swapDelegateStake .subnet .subnet 0 7 7 10), .external env₁,
      .call (.swapDelegateStake .subnet .subnet 0 7 7 20),
      .call (.updateSwapQueue 0 1 (.swapToSubnetDelegateStake 0 7 0)),
      .executeReadySwapCalls 20 ⟨⟨1000000000000, 1000000⟩, ⟨0, 0⟩⟩]
    let s := run (Op.step (.runtime ℕ) u128) (.genesis demoEnv) ops
    (Op.executions (.runtime ℕ) (.genesis demoEnv) ops).map Executed.id = [0] ∧
      s.swaps.swapQueueOrder = [1] ∧
      (∃ item, s.swaps.swapCallQueue.find? 1 = some item) := by
  intro env₁ ops s
  have hops : Along (Op.step (.runtime ℕ) u128) (fun s op => op.OnTime s ∧ op.SwapIdsLeft s)
      (.genesis demoEnv) ops := by decide +kernel
  have h := swap_queue_fifo (.runtime ℕ) demoEnv ops hops
  have horder : s.swaps.swapQueueOrder = [1] := by decide +kernel
  exact ⟨by decide +kernel, horder, h.2.2.2.2.2.1 1 [] horder⟩

end Hypertensor
