import Mathlib
import Hypertensor.Staking.Queue
import Hypertensor.Epoch.Overwatch
import Hypertensor.Epoch.Weights
import Hypertensor.Epoch.Slot

/-!
# Hypertensor.Epoch.Block — the block hook

`on_initialize`: the first block of an epoch is for the preliminaries, the second
for the overwatch rewards (in overwatch epochs), the third for the emission
weights, and every other one for the subnet whose slot it is. Queued swaps are
executed in all of them.
-/

namespace Hypertensor

open Base

variable {A : Type} [DecidableEq A] (rt : Runtime A) (ar : Arith)

/-- `block >= length && block % length == 0`: the remainder is only taken from the
first period on. -/
def isPeriodStart (block length : ℕ) : Option Bool :=
  if block ≥ length then (rem? block length).map fun r => decide (r = 0) else some false

namespace Hook

/-- The block of a slot: nothing happens if the slot is free. -/
def slotStep (h : Hook A) (block currentEpoch epochSlot : ℕ) : Option (Hook A) :=
  let h₁ := h.consume (rt.reads 1)
  match h.chain.registry.slotAssignment.find? epochSlot with
  | none => some h₁
  | some subnetId => do
      let subnetEpoch ← h.chain.getCurrentSubnetEpochAsU32 rt subnetId
      h₁.emissionStep rt ar block currentEpoch subnetEpoch subnetId

/-- What the hook does in a block besides the swap queue. -/
def epochStep (h : Hook A) (block : ℕ) : Option (Hook A) := do
  let epochSlot ← rem? block rt.epochLength
  let currentEpoch ← quot? block rt.epochLength
  let h₁ := h.consume (rt.reads 1)
  if ← isPeriodStart block rt.epochLength then
    h₁.doEpochPreliminaries rt currentEpoch
  else if ← isPeriodStart (block - 1) (h.chain.overwatchEpochLength rt) then
    let r ← h₁.chain.calculateOverwatchRewards rt ar
    some (Hook.consume { h₁ with chain := r.1 } r.2)
  else if ← isPeriodStart (block - 2) rt.epochLength then
    let r ← h₁.chain.handleSubnetEmissionWeights rt currentEpoch
    some (Hook.consume { h₁ with chain := r.1 } r.2)
  else h₁.slotStep rt ar block currentEpoch epochSlot

/-- The swap queue's turn, which ends the hook. -/
def executeSwaps (h : Hook A) (block : ℕ) : Chain A :=
  { h.chain with
    toState := (h.chain.toState.executeReadySwapCalls rt.toConfig ar block h.meter).1 }

end Hook

/-- `on_initialize`: `none` is a division by zero, which no block survives. -/
def Chain.onInitialize (c : Chain A) (block : ℕ) : Option (Chain A) :=
  let meter : WeightMeter := ⟨c.hookParams.maximumHooksWeight, ⟨0, 0⟩⟩
  let h : Hook A := ⟨c, meter.consume (rt.reads 1), []⟩
  if c.params.txPause then some c
  else do
    let h₁ ← h.epochStep rt ar block
    some (h₁.executeSwaps rt ar block)

end Hypertensor
