import Mathlib
import Hypertensor.Base.Dispatch
import Hypertensor.Staking.Pool

/-!
# Hypertensor.Staking.Queue — the swap queue

`stake/staking_queue.rs` and the block hook's part that executes queued swaps
(`execute_ready_swap_calls`, `execute_swap_call_internal`).

The hook runs without a transaction around it. `executeNext` is one round of its
loop; it reports the item it took, the states around it and the shares that were
minted, so that what happened to each item can be stated.
-/

namespace Hypertensor

open Base

variable {A : Type} [DecidableEq A]

/-- The call that sends a balance to a pool of family `k`. -/
def QueuedSwapCall.to (k : PoolKind) (accountId : A) (id balance : ℕ) : QueuedSwapCall A :=
  match k with
  | .subnet => .swapToSubnetDelegateStake accountId id balance
  | .validator => .swapToValidatorDelegateStake accountId id balance

/-- The pool family a queued call sends to. -/
def QueuedSwapCall.kind : QueuedSwapCall A → PoolKind
  | .swapToSubnetDelegateStake _ _ _ => .subnet
  | .swapToValidatorDelegateStake _ _ _ => .validator

/-- The pool a queued call sends to. -/
def QueuedSwapCall.poolId : QueuedSwapCall A → ℕ
  | .swapToSubnetDelegateStake _ id _ => id
  | .swapToValidatorDelegateStake _ id _ => id

namespace State

/-- `queue_swap`. -/
def queueSwap (cfg : Config A) (s : State A) (call : QueuedSwapCall A) : Except Error (State A) := do
  let id := s.swaps.nextSwapQueueId
  let queuedItem : QueuedSwapItem A :=
    { id, call, queuedAtBlock := s.block, executeAfterBlocks := cfg.epochLength }
  ensure (decide (s.swaps.swapQueueOrder.length < cfg.maxSwapQueueLength)) .swapQueueFull
  .ok { s with swaps :=
    { swapCallQueue := s.swaps.swapCallQueue.set id queuedItem
      swapQueueOrder := s.swaps.swapQueueOrder ++ [id]
      nextSwapQueueId := min (s.swaps.nextSwapQueueId + 1) u32Max } }

/-- Overwrite the call of a queued item. -/
def setCall (s : State A) (id : ℕ) (item : QueuedSwapItem A) (call : QueuedSwapCall A) : State A :=
  { s with swaps := { s.swaps with
      swapCallQueue := s.swaps.swapCallQueue.set id { item with call } } }

/-- `do_update_swap_queue`. The key is compared with the account of the new
call; the account of the stored item is not read. -/
def doUpdateSwapQueue (s : State A) (key : A) (id : ℕ) (newCall : QueuedSwapCall A) :
    Except Error (State A) := do
  let item ← okOr (s.swaps.swapCallQueue.find? id) .swapCallNotFound
  let callBalance := item.call.getQueueBalance
  match newCall with
  | .swapToSubnetDelegateStake accountId toSubnetId _ =>
      ensure (decide (accountId = key)) .notKeyOwner
      ensure (s.subnets.subnetsData.contains toSubnetId) .invalidSubnetId
      .ok (s.setCall id item (.swapToSubnetDelegateStake accountId toSubnetId callBalance))
  | .swapToValidatorDelegateStake accountId toValidatorId _ =>
      ensure (decide (accountId = key)) .notKeyOwner
      ensure (s.validators.validatorsData.contains toValidatorId) .invalidValidatorId
      .ok (s.setCall id item (.swapToValidatorDelegateStake accountId toValidatorId callBalance))

/-! ## Execution -/

/-- `execute_swap_call_internal`: `none` when the weight left does not suffice;
else the state, the meter and the shares minted. Only the subnet branch charges
the meter. -/
def executeSwapCallInternal (cfg : Config A) (ar : Arith) (s : State A) (call : QueuedSwapCall A)
    (meter : WeightMeter) : Option (State A × WeightMeter × Option ℕ) :=
  match call with
  | .swapToSubnetDelegateStake accountId toSubnetId balance =>
      if meter.canConsume cfg.weightHandleIncreaseAccountDelegateStake then
        let r := s.handleIncreaseAccountStake ar .subnet accountId toSubnetId balance
        some (r.1, meter.consume cfg.weightHandleIncreaseAccountDelegateStake, r.2)
      else none
  | .swapToValidatorDelegateStake accountId toValidatorId balance =>
      if meter.canConsume cfg.weightHandleIncreaseAccountDelegateStake then
        let r := s.handleIncreaseAccountStake ar .validator accountId toValidatorId balance
        some (r.1, meter, r.2)
      else none

end State

/-- What the hook did with one item. -/
structure Executed (A : Type) where
  id : ℕ
  item : QueuedSwapItem A
  before : State A
  after : State A
  /-- The shares minted; `none` when the conversion failed. -/
  shares : Option ℕ
deriving DecidableEq

namespace State

/-- Take the head of the queue out of both storage items. -/
def dequeue (s : State A) (id : ℕ) : State A :=
  { s with swaps := { s.swaps with
      swapCallQueue := s.swaps.swapCallQueue.remove id
      swapQueueOrder := s.swaps.swapQueueOrder.tail } }

/-- One round of the loop of `execute_ready_swap_calls`: the item executed and
removed, if there is one, and the meter. -/
def executeNext (cfg : Config A) (ar : Arith) (blockNumber : ℕ) (s : State A) (meter : WeightMeter) :
    Option (Executed A) × WeightMeter :=
  let meter := (meter.consume ⟨1000, 0⟩).consume (cfg.dbRead.add cfg.dbWrite)
  match s.swaps.swapQueueOrder with
  | [] => (none, meter)
  | firstId :: _ =>
      let meter := meter.consume cfg.dbRead
      match s.swaps.swapCallQueue.find? firstId with
      | none => (none, meter)
      | some item =>
          let blocksPassed := blockNumber - item.queuedAtBlock
          if blocksPassed ≥ item.executeAfterBlocks then
            match s.executeSwapCallInternal cfg ar item.call meter with
            | none => (none, meter)
            | some (s₁, meter, shares) =>
                -- removed whether or not the conversion gave shares
                (some ⟨firstId, item, s, s₁.dequeue firstId, shares⟩, meter.consume cfg.dbWrite)
          else (none, meter)

/-- The loop of `execute_ready_swap_calls`, with the executions left. -/
def executeLoop (cfg : Config A) (ar : Arith) (blockNumber : ℕ) :
    ℕ → State A → WeightMeter → State A × List (Executed A)
  | 0, s, _ => (s, [])
  | n + 1, s, meter =>
      match s.executeNext cfg ar blockNumber meter with
      | (none, _) => (s, [])
      | (some e, meter) =>
          let r := executeLoop cfg ar blockNumber n e.after meter
          (r.1, e :: r.2)

/-- `execute_ready_swap_calls`: the state, and the items executed in order. -/
def executeReadySwapCalls (cfg : Config A) (ar : Arith) (s : State A) (blockNumber : ℕ)
    (meter : WeightMeter) : State A × List (Executed A) :=
  s.executeLoop cfg ar blockNumber s.params.maxSwapQueueCallsPerBlock (meter.consume cfg.dbRead)

omit [DecidableEq A] in
@[simp] theorem dequeue_pools (s : State A) (id : ℕ) (k : PoolKind) :
    (s.dequeue id).pools k = s.pools k :=
  pools_congr rfl rfl k

end State

/-! ## What the hook did -/

namespace Executed

/-- Credit the item's call to its pool. -/
def credit (ar : Arith) (e : Executed A) : State A × Option ℕ :=
  e.before.handleIncreaseAccountStake ar e.item.call.kind e.item.call.accountId
    e.item.call.poolId e.item.call.getQueueBalance

/-- The record of one round: the head of the queue was found, its cooldown had
passed, it was credited and then dequeued. -/
structure Ran (ar : Arith) (blockNumber : ℕ) (e : Executed A) : Prop where
  head : ∃ rest, e.before.swaps.swapQueueOrder = e.id :: rest
  found : e.before.swaps.swapCallQueue.find? e.id = some e.item
  ready : e.item.executeAfterBlocks ≤ blockNumber - e.item.queuedAtBlock
  after_eq : e.after = (e.credit ar).1.dequeue e.id
  shares_eq : e.shares = (e.credit ar).2

end Executed

/-- A run of the hook's loop, item by item. -/
inductive Executes (ar : Arith) (blockNumber : ℕ) : State A → List (Executed A) → State A → Prop
  | nil (s : State A) : Executes ar blockNumber s [] s
  | cons {e : Executed A} {es : List (Executed A)} {s' : State A} (he : e.Ran ar blockNumber)
      (hes : Executes ar blockNumber e.after es s') :
      Executes ar blockNumber e.before (e :: es) s'

/-- Every recorded item ran. -/
theorem executes_ran {ar : Arith} {b : ℕ} {s s' : State A} {es : List (Executed A)}
    (h : Executes ar b s es s') : ∀ e ∈ es, e.Ran ar b := by
  induction h with
  | nil _ =>
      intro e he
      cases he
  | cons he _ ih =>
      intro x hx
      rcases List.mem_cons.mp hx with rfl | hx
      · exact he
      · exact ih x hx

namespace State

theorem executeSwapCallInternal_some {cfg : Config A} {ar : Arith} {s s₁ : State A}
    {call : QueuedSwapCall A} {meter meter₁ : WeightMeter} {shares : Option ℕ}
    (h : s.executeSwapCallInternal cfg ar call meter = some (s₁, meter₁, shares)) :
    (s₁, shares) = s.handleIncreaseAccountStake ar call.kind call.accountId call.poolId
      call.getQueueBalance := by
  cases call with
  | swapToSubnetDelegateStake a id b =>
      simp only [executeSwapCallInternal] at h
      split at h
      · cases h
        rfl
      · cases h
  | swapToValidatorDelegateStake a id b =>
      simp only [executeSwapCallInternal] at h
      split at h
      · cases h
        rfl
      · cases h

/-- A round that executes an item starts in the given state and ran it. -/
theorem executeNext_some {cfg : Config A} {ar : Arith} {blockNumber : ℕ} {s : State A}
    {meter meter' : WeightMeter} {e : Executed A}
    (h : s.executeNext cfg ar blockNumber meter = (some e, meter')) :
    e.before = s ∧ e.Ran ar blockNumber := by
  unfold executeNext at h
  dsimp only at h
  split at h
  · cases h
  next firstId rest horder =>
    split at h
    · cases h
    next item hitem =>
      split at h
      next hready =>
        split at h
        · cases h
        next s₁ meter₁ shares hcall =>
          have hcredit := executeSwapCallInternal_some hcall
          cases h
          refine ⟨rfl, ⟨rest, horder⟩, hitem, hready, ?_, ?_⟩
          · simp only [Executed.credit, ← hcredit]
          · simp only [Executed.credit, ← hcredit]
      · cases h

theorem executeLoop_executes (cfg : Config A) (ar : Arith) (blockNumber n : ℕ) (s : State A)
    (meter : WeightMeter) :
    Executes ar blockNumber s (s.executeLoop cfg ar blockNumber n meter).2
      (s.executeLoop cfg ar blockNumber n meter).1 := by
  induction n generalizing s meter with
  | zero => exact .nil s
  | succ n ih =>
      unfold executeLoop
      split
      · exact .nil s
      next e meter' hnext =>
        rcases executeNext_some hnext with ⟨hbefore, hran⟩
        subst hbefore
        exact .cons hran (ih e.after meter')

theorem executeReadySwapCalls_executes (cfg : Config A) (ar : Arith) (s : State A)
    (blockNumber : ℕ) (meter : WeightMeter) :
    Executes ar blockNumber s (s.executeReadySwapCalls cfg ar blockNumber meter).2
      (s.executeReadySwapCalls cfg ar blockNumber meter).1 :=
  executeLoop_executes cfg ar blockNumber _ s _

end State

end Hypertensor
