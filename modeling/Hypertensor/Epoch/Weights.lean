import Mathlib
import Hypertensor.Epoch.Preliminaries

/-!
# Hypertensor.Epoch.Weights — the emission weights of an epoch

`get_net_flow_weights`, `calculate_subnet_weights` and
`handle_subnet_emission_weights`. The weights themselves are floating-point
numbers in the source and a parameter here; what they are computed from, which
subnets take part and what is stored is modelled.
-/

namespace Hypertensor

open Base

variable {A : Type} [DecidableEq A]

/-! ## Net flow -/

/-- The subnets `get_net_flow_weights` weighs, each with its net flow. -/
def inflows (subnetNetFlow : StorageMap ℕ ℤ) (epoch : ℕ) (subnets : List (ℕ × SubnetData)) :
    List (ℕ × ℤ) :=
  subnets.filterMap fun e =>
    if e.2.startEpoch > epoch ∧ e.2.state ≠ .active then none
    else some (e.1, subnetNetFlow.getD e.1 0)

/-- A net flow above the smallest one. -/
def shiftedInflow (min value : ℤ) : ℕ := (clampSigned 128 (value - min)).toNat

/-- The shares of the shifted net flows in their sum. -/
def inflowWeights (inflows : List (ℕ × ℤ)) : StorageMap ℕ ℕ :=
  let min := (inflows.map Prod.snd).min?.getD 0
  let shifted := inflows.map fun e => (e.1, shiftedInflow min e.2)
  let sum := (shifted.map Prod.snd).foldl u128.add 0
  shifted.foldl (fun weights e =>
    weights.set e.1 (if sum = 0 then 0 else percentDiv e.2 sum)) ∅

namespace Chain

variable (rt : Runtime A)

/-- `get_net_flow_weights`: the net flows are taken, the weights returned. -/
def getNetFlowWeights (c : Chain A) (subnets : List (ℕ × SubnetData)) (epoch : ℕ) :
    Chain A × StorageMap ℕ ℕ × Weight :=
  let taken := subnets.foldl (fun flows e => flows.remove e.1) c.subnets.subnetNetFlow
  ({ c with subnets := { c.subnets with subnetNetFlow := taken } },
    inflowWeights (inflows c.subnets.subnetNetFlow epoch subnets),
    (Weight.scale (rt.reads 1) subnets.length).add (rt.reads subnets.length))

/-! ## Subnet weights -/

/-- What the weight of a live subnet is computed from. -/
def subnetWeightInput (c : Chain A) (inflowWeights : StorageMap ℕ ℕ) (overwatchEpoch subnetId : ℕ) :
    SubnetWeightInput where
  subnetId := subnetId
  delegateStake := c.subnetPools.poolBalance.val subnetId
  electableNodes := c.nodes.totalSubnetElectableNodes.val subnetId
  overwatchWeight := c.registry.overwatchSubnetWeights.find? (overwatchEpoch, subnetId)
  inflowWeight := inflowWeights.val subnetId

/-- What the weights of all live subnets are computed from. -/
def subnetWeightInputs (c : Chain A) (inflowWeights : StorageMap ℕ ℕ) (overwatchEpoch : ℕ)
    (live : List ℕ) : SubnetWeightInputs where
  subnetDistributionPower := c.hookParams.subnetDistributionPower
  totalDelegateStake := c.subnetPools.totalBalance
  totalElectableNodes := c.nodes.totalElectableNodes
  factors := c.hookParams.subnetWeightFactors
  overwatchWeightFactor := c.hookParams.overwatchWeightFactor
  defaultOverwatchSubnetWeight := c.hookParams.defaultOverwatchSubnetWeight
  subnets := live.map (c.subnetWeightInput inflowWeights overwatchEpoch)

/-- `calculate_subnet_weights`: the storage without the net flows, the weights
and the weight consumed. -/
def calculateSubnetWeights (c : Chain A) (epoch : ℕ) :
    Option (Chain A × StorageMap ℕ ℕ × Weight) := do
  let currentOverwatchEpoch ← c.getCurrentOverwatchEpochAsU32 rt
  let subnets := c.subnets.subnetsData.storedEntries
  let flow := c.getNetFlowWeights rt subnets epoch
  let live := (subnets.filter fun e => e.2.isActiveAndLive epoch).map Prod.fst
  let weights := rt.subnetWeightsFloat
    (flow.1.subnetWeightInputs flow.2.1 (currentOverwatchEpoch - 1) live)
  let normalized := weights.filterMap fun e => e.2.map fun w => (e.1, w)
  let w₁ := ((rt.reads 6).add flow.2.2).add (rt.reads (3 * live.length + subnets.length))
  let w₂ := w₁.add (Weight.scale ⟨400000, 0⟩ (weights.length + normalized.length))
  some (flow.1, normalized.foldl (fun m e => m.set e.1 e.2) ∅, w₂)

/-- `get_epoch_emissions`, around its floating-point part. -/
def getEpochEmissions (c : Chain A) : ℕ × ℕ :=
  let maxNodes := min (c.hookParams.maxSubnets * c.hookParams.maxSubnetNodes) u32Max
  rt.epochEmissionsFloat maxNodes c.nodes.totalActiveNodes c.hookParams.inflationSigmoidMidpoint
    c.hookParams.inflationSigmoidSteepness

/-- `handle_subnet_emission_weights`: the weights of the epoch are stored, and the
foundation's part goes to the treasury. -/
def handleSubnetEmissionWeights (c : Chain A) (epoch : ℕ) : Option (Chain A × Weight) := do
  let (c₁, subnetWeights, w) ← c.calculateSubnetWeights rt epoch
  if subnetWeights.keys = ∅ then some (c₁, w)
  else
    let emissions := c₁.getEpochEmissions rt
    let data : DistributionData := ⟨emissions.1, subnetWeights⟩
    some ({ c₁ with
        toState := c₁.toState.addBalance rt.treasuryAccount emissions.2
        registry := { c₁.registry with
          finalSubnetEmissionWeights := c₁.registry.finalSubnetEmissionWeights.set epoch data } },
      (w.add rt.weightAddBalanceToTreasury).add (rt.writes 1))

end Chain

end Hypertensor
