import Mathlib
import Hypertensor.Subnets

/-!
# Hypertensor.Epoch.Preliminaries — the first block of an epoch

The in-block clock of `utilities/era.rs`, and `do_epoch_preliminaries`: the pass
over all subnets that removes those that missed their enactment, stayed paused or
fell below a minimum, and one more when there are too many.

A division or remainder by a stored value is `quot?` or `rem?`: `none` is a block
that cannot be built.
-/

namespace Hypertensor

open Base

variable {A : Type}

/-! ## The clock -/

namespace Chain

/-- The length of an overwatch epoch: `epoch_length.saturating_mul(multiplier)`. -/
def overwatchEpochLength (rt : Runtime A) (c : Chain A) : ℕ :=
  min (rt.epochLength * c.intervals.overwatchEpochLengthMultiplier) u32Max

/-- `get_current_overwatch_epoch_as_u32`. -/
def getCurrentOverwatchEpochAsU32 (rt : Runtime A) (c : Chain A) : Option ℕ :=
  quot? c.block (c.overwatchEpochLength rt)

/-- `get_current_subnet_epoch_as_u32`. -/
def getCurrentSubnetEpochAsU32 (rt : Runtime A) (c : Chain A) (subnetId : ℕ) : Option ℕ :=
  let subnetSlot := c.registry.subnetSlot.val subnetId
  if subnetSlot = 0 then some 0
  else if c.block < subnetSlot then some 0
  else quot? (c.block - subnetSlot) rt.epochLength

end Chain

/-! ## The pass over the subnets -/

/-- What `do_epoch_preliminaries` reads before its loop. -/
structure Preliminaries where
  epoch : ℕ
  minReputation : ℕ
  subnetRegistrationEpochs : ℕ
  subnetEnactmentEpochs : ℕ
  minSubnetNodes : ℕ
  maxPauseEpochs : ℕ
  excessSubnets : Bool
  isRemovalEpoch : Bool
  canRemove : Bool
  dstakeEpochIntervalCanRemove : Bool

namespace Preliminaries

/-- Whether one of too many subnets may be removed in this epoch. -/
def removesExcess (p : Preliminaries) : Bool :=
  p.excessSubnets && p.isRemovalEpoch && p.canRemove

variable (rt : Runtime A) (p : Preliminaries)

/-- A registered subnet: in its registration, in its enactment, or too late. -/
def registeredSubnet (h : Hook A) (subnetId : ℕ) : Hook A :=
  let h₁ := h.consume (rt.reads 1)
  match h.chain.registry.subnetRegistrationEpoch.find? subnetId with
  | none => h₁
  | some registeredEpoch =>
      let maxRegistrationEpoch := min (registeredEpoch + p.subnetRegistrationEpochs) u32Max
      let maxEnactmentEpoch := min (maxRegistrationEpoch + p.subnetEnactmentEpochs) u32Max
      if p.epoch ≤ maxRegistrationEpoch then h₁
      else if p.epoch ≤ maxEnactmentEpoch then
        let h₂ := h₁.consume (rt.reads 1)
        if h.chain.nodes.totalActiveSubnetNodes.val subnetId < p.minSubnetNodes then
          h₂.tryDoRemoveSubnet rt subnetId .minSubnetNodes
        else h₂
      else h₁.tryDoRemoveSubnet rt subnetId .enactmentPeriod

/-- A paused subnet loses reputation once it is paused for too long. -/
def pausedSubnet (h : Hook A) (subnetId : ℕ) (data : SubnetData) : Hook A :=
  if wrapAdd 32 data.startEpoch p.maxPauseEpochs < p.epoch then
    let newSubnetReputation := State.decreaseRep (h.chain.subnetReputation subnetId)
      h.chain.hookParams.maxPauseEpochsSubnetReputationFactor none
    let h₁ := (h.map fun c => { c with
      toState := c.toState.setSubnetReputation subnetId newSubnetReputation }).consume
        (rt.readsWrites 2 1)
    if newSubnetReputation < p.minReputation then h₁.tryDoRemoveSubnet rt subnetId .pauseExpired
    else h₁
  else h

/-- A subnet with too few electable nodes loses reputation. -/
def fewNodes (h : Hook A) (subnetId : ℕ) : Hook A :=
  if h.chain.nodes.totalSubnetElectableNodes.val subnetId < p.minSubnetNodes then
    let newSubnetReputation := State.decreaseRep (h.chain.subnetReputation subnetId)
      h.chain.hookParams.lessThanMinNodesSubnetReputationFactor none
    (h.map fun c => { c with
      toState := c.toState.setSubnetReputation subnetId newSubnetReputation }).consume
        (rt.readsWrites 2 1)
  else h

/-- An active subnet. Its delegate stake is returned when it may be the one
removed for there being too many. -/
def activeSubnet [DecidableEq A] (h : Hook A) (subnetId : ℕ) : Hook A × Option (ℕ × ℕ) :=
  let minStake := h.chain.getMinSubnetDelegateStakeBalance subnetId
  let stake := h.chain.subnetPools.poolBalance.val subnetId
  let h₁ := (h.consume rt.weightGetMinSubnetDelegateStakeBalance).consume (rt.reads 1)
  if stake < minStake ∧ p.dstakeEpochIntervalCanRemove then
    (h₁.tryDoRemoveSubnet rt subnetId .minSubnetDelegateStake, none)
  else
    let h₂ := (p.fewNodes rt h₁ subnetId).consume (rt.reads 2)
    if h₂.chain.subnetReputation subnetId < p.minReputation then
      (h₂.tryDoRemoveSubnet rt subnetId .minReputation, none)
    else (h₂, if p.removesExcess then some (subnetId, stake) else none)

/-- One iteration of the loop. -/
def subnetStep [DecidableEq A] (h : Hook A) (subnetId : ℕ) (data : SubnetData) :
    Hook A × Option (ℕ × ℕ) :=
  match data.state with
  | .registered => (p.registeredSubnet rt h subnetId, none)
  | .paused => (p.pausedSubnet rt h subnetId data, none)
  | .active => if data.startEpoch > p.epoch then (h, none) else p.activeSubnet rt h subnetId

/-- The loop: the hook, and `subnet_delegate_stake`. -/
def subnetLoop [DecidableEq A] (h : Hook A) : List (ℕ × SubnetData) → Hook A × List (ℕ × ℕ)
  | [] => (h, [])
  | (subnetId, data) :: subnets =>
      let q := p.subnetStep rt h subnetId data
      let rest := subnetLoop q.1 subnets
      (rest.1, q.2.toList ++ rest.2)

/-- Of too many subnets the one with the least delegate stake goes; the sort is
stable. -/
def removeExcess (h : Hook A) (subnetDelegateStake : List (ℕ × ℕ)) : Hook A :=
  match subnetDelegateStake.insertionSort (fun x y => x.2 ≤ y.2) with
  | [] => h
  | (subnetId, _) :: _ =>
      if p.removesExcess then
        let sortItems := subnetDelegateStake.length
        (h.consume ⟨sortItems * Nat.log2 sortItems * 100, 0⟩).tryDoRemoveSubnet rt subnetId
          .maxSubnets
      else h

end Preliminaries

namespace Hook

variable [DecidableEq A] (rt : Runtime A)

/-- `do_epoch_preliminaries`. -/
def doEpochPreliminaries (h : Hook A) (epoch : ℕ) : Option (Hook A) := do
  let c := h.chain
  let removal ← rem? epoch c.intervals.maxSubnetRemovalInterval
  let dstake ← rem? epoch c.intervals.delegateStakeSubnetRemovalInterval
  let subnets := c.subnets.subnetsData.storedEntries
  let totalSubnets := subnets.length
  let p : Preliminaries :=
    { epoch := epoch
      minReputation := c.hookParams.minSubnetReputation
      subnetRegistrationEpochs := c.hookParams.subnetRegistrationEpochs
      subnetEnactmentEpochs := c.hookParams.subnetEnactmentEpochs
      minSubnetNodes := c.params.minSubnetNodes
      maxPauseEpochs := c.hookParams.maxSubnetPauseEpochs
      excessSubnets := decide (totalSubnets > c.hookParams.maxSubnets)
      isRemovalEpoch := decide (removal = 0)
      canRemove := decide (epoch ≥ wrapAdd 32 c.registry.prevSubnetActivationEpoch
        c.intervals.minSubnetRemovalInterval)
      dstakeEpochIntervalCanRemove := decide (dstake = 0) }
  let h₁ := h.consume (rt.reads (10 + totalSubnets))
  let h₂ := if p.excessSubnets
    then h₁.consume ((rt.reads totalSubnets).add ⟨5000 * totalSubnets, 0⟩) else h₁
  let l := p.subnetLoop rt (h₂.consume ⟨1000 * totalSubnets, 0⟩) subnets
  some (p.removeExcess rt l.1 l.2)

end Hook

end Hypertensor
