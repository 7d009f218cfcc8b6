import Mathlib
import Hypertensor.Rewards.Distribute

/-!
# Hypertensor.Chain — the storage of the block hook

What the block hook reads and writes besides the state of staking and rewards:
the registry of subnets with its slots, submissions and elections, the
parameters of the hook, and `Intervals`, the storage items the hook divides by.

The staking and reward operations work on `State`, so that they leave all of
this alone is a matter of types.
-/

namespace Hypertensor

open Base

/-! ## Data -/

/-- `SubnetWeightFactorsData`. -/
structure SubnetWeightFactorsData where
  delegateStake : ℕ
  nodeCount : ℕ
  netFlow : ℕ
deriving DecidableEq, Repr

/-- `DistributionData`. -/
structure DistributionData where
  subnetsEmissions : ℕ
  subnetWeights : StorageMap ℕ ℕ
deriving DecidableEq

/-- `ConsensusData`, the submission of an elected validator. -/
structure ConsensusData where
  validatorId : ℕ
  block : ℕ
  validatorEpochProgress : ℕ
  validatorRewardFactor : ℕ
  attests : StorageMap ℕ AttestEntry
  validatorIds : List ℕ
  subnetNodes : List SubnetNode
  prioritizeQueueNodeId : Option ℕ
  removeQueueNodeId : Option ℕ
  data : List SubnetNodeConsensusData
  args : Option (List UInt8)
deriving DecidableEq

/-- `SubnetRemovalReason`. -/
inductive SubnetRemovalReason where
  | minReputation
  | minSubnetNodes
  | minSubnetDelegateStake
  | council
  | enactmentPeriod
  | maxSubnets
  | owner
  | pauseExpired
deriving DecidableEq, Repr

/-! ## Storage -/

/-- The storage items that the block hook takes quotients or remainders by, and
the bounds that limit what an owner may write to one of them. -/
structure Intervals where
  overwatchEpochLengthMultiplier : ℕ
  minSubnetRemovalInterval : ℕ
  maxSubnetRemovalInterval : ℕ
  delegateStakeSubnetRemovalInterval : ℕ
  minChurnLimitMultiplier : ℕ
  maxChurnLimitMultiplier : ℕ
  churnLimitMultiplier : StorageMap ℕ ℕ
deriving DecidableEq

/-- `ChurnLimitMultiplier`. -/
def Intervals.churnLimitMultiplierOf (i : Intervals) (subnetId : ℕ) : ℕ :=
  i.churnLimitMultiplier.getD subnetId 1

/-- Storage of the subnet registry. -/
structure Registry (A : Type) where
  subnetName : StorageMap (List UInt8) ℕ
  subnetRepo : StorageMap (List UInt8) ℕ
  pendingSubnetOwner : StorageMap ℕ A
  subnetRegistrationEpoch : StorageMap ℕ ℕ
  previousSubnetPauseEpoch : StorageMap ℕ ℕ
  prevSubnetActivationEpoch : ℕ
  churnLimit : StorageMap ℕ ℕ
  subnetNodeQueueEpochs : StorageMap ℕ ℕ
  lastSubnetDelegateStakeRewardsUpdate : StorageMap ℕ ℕ
  initialValidatorData : StorageMap ℕ (StorageMap ℕ ℕ)
  maxRegisteredNodes : StorageMap ℕ ℕ
  targetNodeRegistrationsPerEpoch : StorageMap ℕ ℕ
  nodeRegistrationsThisEpoch : StorageMap ℕ ℕ
  nodeBurnRateAlpha : StorageMap ℕ ℕ
  currentNodeBurnRate : StorageMap ℕ ℕ
  queueImmunityEpochs : StorageMap ℕ ℕ
  subnetBootnodeAccess : StorageMap ℕ (Finset A)
  subnetBootnodes : StorageMap ℕ (StorageMap (List UInt8) (List UInt8))
  subnetIdFriendlyUid : StorageMap ℕ ℕ
  friendlyUidSubnetId : StorageMap ℕ ℕ
  subnetSlot : StorageMap ℕ ℕ
  slotAssignment : StorageMap ℕ ℕ
  assignedSlots : Finset ℕ
  totalActiveSubnets : ℕ
  totalSubnets : ℕ
  totalSubnetNodeUids : StorageMap ℕ ℕ
  /-- `SubnetElectedValidator`, by subnet and epoch of the subnet. -/
  subnetElectedValidator : StorageMap (ℕ × ℕ) ℕ
  /-- `SubnetConsensusSubmission`, by subnet and epoch of the subnet. -/
  subnetConsensusSubmission : StorageMap (ℕ × ℕ) ConsensusData
  finalSubnetEmissionWeights : StorageMap ℕ DistributionData
  /-- `OverwatchReveals`: overwatch epoch, subnet id, overwatch node id. -/
  overwatchReveals : StorageMap ℕ (StorageMap ℕ (StorageMap ℕ ℕ))
  /-- `OverwatchSubnetWeights`, by overwatch epoch and subnet. -/
  overwatchSubnetWeights : StorageMap (ℕ × ℕ) ℕ
  /-- `OverwatchNodeWeights`, by overwatch epoch and overwatch node. -/
  overwatchNodeWeights : StorageMap (ℕ × ℕ) ℕ
  /-- `TotalNodeDelegateStake`, which nothing writes. -/
  totalNodeDelegateStake : ℕ
deriving DecidableEq

/-- The parameters only the block hook reads. -/
structure HookParams where
  maximumHooksWeight : Weight
  minSubnetReputation : ℕ
  subnetRegistrationEpochs : ℕ
  subnetEnactmentEpochs : ℕ
  maxSubnets : ℕ
  maxSubnetNodes : ℕ
  maxSubnetPauseEpochs : ℕ
  minSubnetDelegateStakeFactor : ℕ
  maxMinDelegateStakeMultiplier : ℕ
  maxPauseEpochsSubnetReputationFactor : ℕ
  lessThanMinNodesSubnetReputationFactor : ℕ
  validatorAbsentSubnetReputationFactor : ℕ
  overwatchStakeWeightFactor : ℕ
  overwatchWeightFactor : ℕ
  defaultOverwatchSubnetWeight : ℕ
  subnetDistributionPower : ℕ
  subnetWeightFactors : SubnetWeightFactorsData
  inflationSigmoidMidpoint : ℕ
  inflationSigmoidSteepness : ℕ
  minNodeBurnRate : ℕ
  maxNodeBurnRate : ℕ
deriving DecidableEq

/-- The parameters only calls read. -/
structure CallParams where
  subnetPauseCooldownEpochs : ℕ
  maxEmergencySubnetNodes : ℕ
  maxEmergencyValidatorEpochsMultiplier : ℕ
  minMinSubnetNodeReputation : ℕ
  minNodeReputationFactor : ℕ
  minSubnetRegistrationEpochs : ℕ
  maxBootnodes : ℕ
  minSubnetMinStake : ℕ
  maxSubnetMinStake : ℕ
  networkMaxStakeBalance : ℕ
  minDelegateStakePercentage : ℕ
  minRegistrationCost : ℕ
  registrationCostDecayBlocks : ℕ
  registrationCostAlpha : ℕ
  newRegistrationCostMultiplier : ℕ
  baseNodeBurnAmount : ℕ
  requireSubnetRegistrationWhitelist : Bool
  validatorRewardMidpoint : ℕ
  validatorRewardK : ℕ
  attestorMinRewardFactor : ℕ
  attestorRewardExponent : ℕ
deriving DecidableEq

/-- Storage only registrations read or write. -/
structure Admission (A : Type) where
  totalSubnetUids : ℕ
  /-- `NodeRegistrationInitialValidatorIds`: per subnet, how many nodes a validator may
  register before the subnet is active. -/
  nodeRegistrationInitialValidatorIds : StorageMap ℕ (StorageMap ℕ ℕ)
  subnetRegistrationWhitelist : Finset (A × ℕ)
  lastRegistrationCost : ℕ
  lastSubnetRegistrationBlock : ℕ
  peerIdOverwatchNodeId : StorageMap (ℕ × List UInt8) ℕ
deriving DecidableEq

/-- The pallet's storage. -/
structure Chain (A : Type) extends State A where
  registry : Registry A
  hookParams : HookParams
  intervals : Intervals
  callParams : CallParams
  admission : Admission A
deriving DecidableEq

/-! ## The runtime -/

/-- What the floating-point part of `calculate_subnet_weights` reads of a subnet. -/
structure SubnetWeightInput where
  subnetId : ℕ
  delegateStake : ℕ
  electableNodes : ℕ
  overwatchWeight : Option ℕ
  inflowWeight : ℕ
deriving DecidableEq, Repr

/-- What the floating-point part of `calculate_subnet_weights` reads. -/
structure SubnetWeightInputs where
  subnetDistributionPower : ℕ
  totalDelegateStake : ℕ
  totalElectableNodes : ℕ
  factors : SubnetWeightFactorsData
  overwatchWeightFactor : ℕ
  defaultOverwatchSubnetWeight : ℕ
  subnets : List SubnetWeightInput
deriving DecidableEq, Repr

/-- The runtime constants, floating-point functions and sources of randomness
that the block hook uses. -/
structure Runtime (A : Type) extends Config A where
  epochsPerYear : ℕ
  overwatchEpochEmissions : ℕ
  treasuryAccount : A
  /-- `WeightInfo::do_remove_subnet`. -/
  weightDoRemoveSubnet : ℕ → Weight
  /-- `WeightInfo::elect_validator`. -/
  weightElectValidator : ℕ → Weight
  /-- `WeightInfo::get_min_subnet_delegate_stake_balance`. -/
  weightGetMinSubnetDelegateStakeBalance : Weight
  /-- `WeightInfo::add_balance_to_treasury`. -/
  weightAddBalanceToTreasury : Weight
  /-- A stake to the power of `OverwatchStakeWeightFactor`, as a percentage. -/
  overwatchStakeWeightFloat : ℕ → ℕ → ℕ
  /-- The subnets of `calculate_subnet_weights` whose weight is finite, each with
  its normalised weight if that is finite and positive. -/
  subnetWeightsFloat : SubnetWeightInputs → List (ℕ × Option ℕ)
  /-- `get_epoch_emissions`, given the most nodes there may be, the active ones
  and the midpoint and steepness of the sigmoid. -/
  epochEmissionsFloat : ℕ → ℕ → ℕ → ℕ → ℕ × ℕ
  /-- The `u64` that `get_bounded_random_index` draws for a subnet, its epoch, a
  block, a modulus and an attempt. -/
  randomEntropy : ℕ → ℕ → ℕ → ℕ → ℕ → ℕ
  designatedEpochSlots : ℕ
  /-- The currency's `minimum_balance`. -/
  minimumBalance : ℕ
  /-- `do_verify_multiaddr`. -/
  doVerifyMultiaddr : List UInt8 → Except Error Unit
  /-- `get_validator_reward_multiplier`, given the progress of the epoch and the
  midpoint and steepness of the sigmoid. -/
  validatorRewardMultiplierFloat : ℕ → ℕ → ℕ → ℕ
  /-- `get_attestor_reward_multiplier`, given the progress since the proposal, the
  least factor and the exponent. -/
  attestorRewardMultiplierFloat : ℕ → ℕ → ℕ → ℕ
  /-- `get_max_steps_for_node_removal`, given the network's least reputation and
  factor and the subnet's. -/
  maxStepsForNodeRemovalFloat : ℕ → ℕ → ℕ → ℕ → ℕ
  /-- What the decay leaves of the registration cost above its minimum, given what
  it was above it, the fraction of the decay left and its exponent. -/
  registrationCostFloat : ℕ → ℕ → ℕ → ℕ

/-! ## Genesis -/

/-- The intervals of a new chain. -/
def Intervals.genesis (epochsPerYear : ℕ) : Intervals where
  overwatchEpochLengthMultiplier := 1
  minSubnetRemovalInterval := 10
  maxSubnetRemovalInterval := 10
  delegateStakeSubnetRemovalInterval := 2
  minChurnLimitMultiplier := 1
  maxChurnLimitMultiplier := quot epochsPerYear 52 (by decide)
  churnLimitMultiplier := ∅

/-- A registry without subnets. -/
def Registry.genesis (A : Type) : Registry A where
  subnetName := ∅
  subnetRepo := ∅
  pendingSubnetOwner := ∅
  subnetRegistrationEpoch := ∅
  previousSubnetPauseEpoch := ∅
  prevSubnetActivationEpoch := 0
  churnLimit := ∅
  subnetNodeQueueEpochs := ∅
  lastSubnetDelegateStakeRewardsUpdate := ∅
  initialValidatorData := ∅
  maxRegisteredNodes := ∅
  targetNodeRegistrationsPerEpoch := ∅
  nodeRegistrationsThisEpoch := ∅
  nodeBurnRateAlpha := ∅
  currentNodeBurnRate := ∅
  queueImmunityEpochs := ∅
  subnetBootnodeAccess := ∅
  subnetBootnodes := ∅
  subnetIdFriendlyUid := ∅
  friendlyUidSubnetId := ∅
  subnetSlot := ∅
  slotAssignment := ∅
  assignedSlots := ∅
  totalActiveSubnets := 0
  totalSubnets := 0
  totalSubnetNodeUids := ∅
  subnetElectedValidator := ∅
  subnetConsensusSubmission := ∅
  finalSubnetEmissionWeights := ∅
  overwatchReveals := ∅
  overwatchSubnetWeights := ∅
  overwatchNodeWeights := ∅
  totalNodeDelegateStake := 0

/-- The parameters of a new chain. -/
def HookParams.genesis (epochsPerYear : ℕ) : HookParams where
  maximumHooksWeight := ⟨1000000000000, 9223372036854775807⟩
  minSubnetReputation := 100000000000000000
  subnetRegistrationEpochs := quot epochsPerYear 52 (by decide)
  subnetEnactmentEpochs := quot epochsPerYear 104 (by decide)
  maxSubnets := 64
  maxSubnetNodes := 256
  maxSubnetPauseEpochs := quot epochsPerYear 4 (by decide)
  minSubnetDelegateStakeFactor := 0
  maxMinDelegateStakeMultiplier := 1000000000000000000
  maxPauseEpochsSubnetReputationFactor := 125000000000000000
  lessThanMinNodesSubnetReputationFactor := 125000000000000000
  validatorAbsentSubnetReputationFactor := 50000000000000000
  overwatchStakeWeightFactor := 900000000000000000
  overwatchWeightFactor := 1000000000000000000
  defaultOverwatchSubnetWeight := 500000000000000000
  subnetDistributionPower := 750000000000000000
  subnetWeightFactors := ⟨400000000000000000, 400000000000000000, 200000000000000000⟩
  inflationSigmoidMidpoint := 500000000000000000
  inflationSigmoidSteepness := 7
  minNodeBurnRate := 1000000000000000000
  maxNodeBurnRate := 5000000000000000000

/-- The parameters of calls on a new chain. -/
def CallParams.genesis : CallParams where
  subnetPauseCooldownEpochs := 0
  maxEmergencySubnetNodes := 64
  maxEmergencyValidatorEpochsMultiplier := 2000000000000000000
  minMinSubnetNodeReputation := 50000000000000000
  minNodeReputationFactor := 50000000000000000
  minSubnetRegistrationEpochs := 0
  maxBootnodes := 32
  minSubnetMinStake := 100000000000000000000
  maxSubnetMinStake := 250000000000000000000
  networkMaxStakeBalance := 1000000000000000000000
  minDelegateStakePercentage := 50000000000000000
  minRegistrationCost := 100000000000000000
  registrationCostDecayBlocks := 438290
  registrationCostAlpha := 500000000000000000
  newRegistrationCostMultiplier := 2000000000000000000
  baseNodeBurnAmount := 10000000000000
  requireSubnetRegistrationWhitelist := false
  validatorRewardMidpoint := 500000000000000000
  validatorRewardK := 20
  attestorMinRewardFactor := 330000000000000000
  attestorRewardExponent := 10

/-- Nothing is registered yet. -/
def Admission.genesis (A : Type) : Admission A where
  totalSubnetUids := 128000
  nodeRegistrationInitialValidatorIds := ∅
  subnetRegistrationWhitelist := ∅
  lastRegistrationCost := 1000000000000000000
  lastSubnetRegistrationBlock := 0
  peerIdOverwatchNodeId := ∅

/-- A new chain, with the balances given at genesis. -/
def Chain.genesis {A : Type} (rt : Runtime A) (balances : StorageMap A ℕ) : Chain A where
  toState := .genesis (.genesis balances)
  registry := .genesis A
  hookParams := .genesis rt.epochsPerYear
  intervals := .genesis rt.epochsPerYear
  callParams := .genesis
  admission := .genesis A

end Hypertensor
