import Mathlib
import Hypertensor.Lifecycle.Registration

/-!
# Hypertensor.Lifecycle.Subnet — how a subnet begins and how things are removed

`register_subnet` gives a subnet its id, its slot and the list of its first
validators; `activate_subnet` starts it, or removes it when it comes too late.
Nodes leave by `remove_subnet_node`, and the council removes nodes and subnets
without further conditions.
-/

namespace Hypertensor

open Base

variable {A : Type} [DecidableEq A]

/-- `RegistrationSubnetData`, the fields the modelled code reads. -/
structure RegistrationSubnetData where
  name : List UInt8
  repo : List UInt8
  minStake : ℕ
  maxStake : ℕ
  delegateStakePercentage : ℕ
  initialValidators : StorageMap ℕ ℕ
  /-- Peer ids with their multiaddresses, in the order of the peer ids. -/
  bootnodes : List (List UInt8 × List UInt8)

namespace Chain

variable (rt : Runtime A)

/-! ## Cost and slot -/

/-- `get_current_registration_cost`, around its floating-point part. -/
def getCurrentRegistrationCost (c : Chain A) (block : ℕ) : ℕ :=
  let p := c.callParams
  let last := c.admission.lastRegistrationCost
  let deltaBlocks := block - c.admission.lastSubnetRegistrationBlock
  if p.registrationCostDecayBlocks = 0 ∨ last ≤ p.minRegistrationCost then
    max last p.minRegistrationCost
  else if deltaBlocks ≥ p.registrationCostDecayBlocks then p.minRegistrationCost
  else
    let remaining := percentDiv (p.registrationCostDecayBlocks - deltaBlocks)
      p.registrationCostDecayBlocks
    max (u128.add p.minRegistrationCost (rt.registrationCostFloat (last - p.minRegistrationCost)
      remaining p.registrationCostAlpha)) p.minRegistrationCost

/-- `get_available_subnet_slot`: the first free slot after the designated ones. -/
def getAvailableSubnetSlot (c : Chain A) : Except Error ℕ := do
  let designated := rt.designatedEpochSlots
  ensure (decide (c.registry.assignedSlots.card < wrapSub 32 rt.epochLength designated))
    .noAvailableSlots
  okOr ((List.range' designated (rt.epochLength - designated)).find? fun slot =>
    decide (slot ∉ c.registry.assignedSlots)) .noAvailableSlots

/-- `insert_subnet_slot_assignment`. -/
def insertSubnetSlotAssignment (r : Registry A) (subnetId freeSlot : ℕ) : Registry A :=
  { r with
    assignedSlots := insert freeSlot r.assignedSlots
    subnetSlot := r.subnetSlot.set subnetId freeSlot
    slotAssignment := r.slotAssignment.set freeSlot subnetId }

/-- Pay the cost of a registration, if there is one, to the treasury. -/
def payRegistrationCost (c : Chain A) (owner : A) (cost : ℕ) : Except Error (Chain A) :=
  if cost > 0 then do
    let s ← okOr (c.removeBalance rt.toConfig owner cost) .transferRefused
    .ok { c with toState := s.addBalance rt.treasuryAccount cost }
  else .ok c

/-! ## Registration -/

/-- The checks of `do_register_subnet` on the data it is given. -/
def ensureRegistrationSubnetData (c : Chain A) (d : RegistrationSubnetData) : Except Error Unit := do
  ensure (!c.registry.subnetName.contains d.name) .subnetNameExist
  ensure (decide (c.subnets.subnetsData.keys.card < min (c.hookParams.maxSubnets + 1) u32Max))
    .maxSubnets
  ensure (!c.registry.subnetRepo.contains d.repo) .subnetRepoExist
  ensure (decide (d.bootnodes.length ≠ 0)) .bootnodesEmpty
  ensure (decide (d.bootnodes.length ≤ c.callParams.maxBootnodes)) .tooManyBootnodes
  d.bootnodes.forM fun bootnode => do
    rt.doVerifyMultiaddr bootnode.2
    ensure (validatePeerId bootnode.1) .invalidBootnodePeerId
  ensure (decide (d.minStake ≥ c.callParams.minSubnetMinStake ∧
    d.minStake ≤ c.callParams.maxSubnetMinStake)) .invalidSubnetMinStake
  ensure (decide (d.maxStake ≤ c.callParams.networkMaxStakeBalance)) .invalidSubnetMaxStake
  ensure (decide (d.minStake ≤ d.maxStake)) .invalidSubnetStakeParameters
  ensure (decide (d.delegateStakePercentage ≥ c.callParams.minDelegateStakePercentage ∧
    d.delegateStakePercentage ≤ c.params.maxDelegateStakePercentage ∧
    d.delegateStakePercentage ≤ percentageFactor)) .invalidMinDelegateStakePercentage
  ensure (decide ((∀ id ∈ d.initialValidators.keys, d.initialValidators.val id ≥ 1) ∧
    d.initialValidators.keys.card ≥ c.params.minSubnetNodes))
    .invalidSubnetRegistrationInitialColdkeys

/-- The registry's part of the writes of `do_register_subnet`. -/
def registerInRegistry (r : Registry A) (d : RegistrationSubnetData) (subnetId slot friendlyUid
    epoch : ℕ) : Registry A :=
  let r₁ := insertSubnetSlotAssignment r subnetId slot
  { r₁ with
    subnetIdFriendlyUid := r₁.subnetIdFriendlyUid.set subnetId friendlyUid
    friendlyUidSubnetId := r₁.friendlyUidSubnetId.set friendlyUid subnetId
    subnetBootnodes := r₁.subnetBootnodes.set subnetId
      (d.bootnodes.foldl (fun m b => m.set b.1 b.2) ∅)
    subnetName := r₁.subnetName.set d.name subnetId
    subnetRepo := r₁.subnetRepo.set d.repo subnetId
    subnetRegistrationEpoch := r₁.subnetRegistrationEpoch.set subnetId epoch
    totalSubnets := min (r₁.totalSubnets + 1) u32Max }

/-- The writes of `do_register_subnet`. -/
def enterSubnet (c : Chain A) (owner : A) (d : RegistrationSubnetData) (subnetId slot cost : ℕ) :
    Chain A :=
  let friendlyUid := wrapAdd 32 (slot - rt.designatedEpochSlots) 1
  { c with
    admission := { c.admission with
      totalSubnetUids := subnetId
      lastRegistrationCost := percentMul cost c.callParams.newRegistrationCostMultiplier
      lastSubnetRegistrationBlock := c.block
      nodeRegistrationInitialValidatorIds :=
        c.admission.nodeRegistrationInitialValidatorIds.set subnetId d.initialValidators }
    registry := registerInRegistry c.registry d subnetId slot friendlyUid (c.currentEpoch rt)
    subnets := { c.subnets with
      subnetsData := c.subnets.subnetsData.set subnetId ⟨d.name, d.repo, .registered, u32Max⟩
      subnetMinStakeBalance := c.subnets.subnetMinStakeBalance.set subnetId d.minStake
      subnetMaxStakeBalance := c.subnets.subnetMaxStakeBalance.set subnetId d.maxStake }
    emission := { c.emission with
      subnetOwner := c.emission.subnetOwner.set subnetId owner
      subnetDelegateStakeRewardsPercentage :=
        c.emission.subnetDelegateStakeRewardsPercentage.set subnetId d.delegateStakePercentage } }

/-- The id of the next subnet. -/
def nextSubnetId (c : Chain A) : ℕ := min (c.admission.totalSubnetUids + 1) u32Max

/-- `register_subnet`. -/
def registerSubnet (c : Chain A) (owner : A) (maxCost : ℕ) (d : RegistrationSubnetData) :
    Except Error (Chain A) := do
  c.isPaused
  let subnetId := c.nextSubnetId
  ensure (!c.callParams.requireSubnetRegistrationWhitelist ||
    decide ((owner, subnetId) ∈ c.admission.subnetRegistrationWhitelist))
    .coldkeyRegistrationWhitelist
  c.ensureRegistrationSubnetData rt d
  let cost := c.getCurrentRegistrationCost rt c.block
  ensure (decide (maxCost ≥ cost)) .costGreaterThanMaxCost
  ensure (decide (cost = 0) || c.canRemoveBalance rt.toConfig owner cost)
    .notEnoughBalanceToRegisterSubnet
  let slot ← c.getAvailableSubnetSlot rt
  let c₁ ← c.payRegistrationCost rt owner cost
  .ok (c₁.enterSubnet rt owner d subnetId slot cost)

/-! ## Activation -/

/-- `can_subnet_be_active`: why it cannot, if it cannot. -/
def canSubnetBeActive (c : Chain A) (subnetId : ℕ) : Option SubnetRemovalReason :=
  if c.subnetReputation subnetId < c.hookParams.minSubnetReputation then some .minReputation
  else if c.nodes.totalActiveSubnetNodes.val subnetId < c.params.minSubnetNodes then
    some .minSubnetNodes
  else if c.subnetPools.poolBalance.val subnetId < c.getMinSubnetDelegateStakeBalance subnetId then
    some .minSubnetDelegateStake
  else none

/-- Whether the least time of a registration has passed. -/
def pastMinRegistrationEpochs (c : Chain A) (subnetId epoch : ℕ) : Bool :=
  match c.registry.subnetRegistrationEpoch.find? subnetId with
  | some registeredEpoch =>
      decide (min (registeredEpoch + c.callParams.minSubnetRegistrationEpochs) u32Max ≤ epoch)
  | none => false

/-- The writes of `do_activate_subnet`. -/
def startSubnet (c : Chain A) (subnetId : ℕ) (subnet : SubnetData) : Chain A :=
  let epoch := c.currentEpoch rt
  { c.setSubnetData subnetId { subnet with state := .active, startEpoch := wrapAdd 32 epoch 1 } with
    registry := { c.registry with
      totalActiveSubnets := wrapAdd 32 c.registry.totalActiveSubnets 1
      subnetRegistrationEpoch := c.registry.subnetRegistrationEpoch.remove subnetId
      initialValidatorData := c.registry.initialValidatorData.remove subnetId
      lastSubnetDelegateStakeRewardsUpdate :=
        c.registry.lastSubnetDelegateStakeRewardsUpdate.set subnetId c.block
      previousSubnetPauseEpoch := c.registry.previousSubnetPauseEpoch.set subnetId epoch
      prevSubnetActivationEpoch := epoch }
    admission := { c.admission with
      nodeRegistrationInitialValidatorIds :=
        c.admission.nodeRegistrationInitialValidatorIds.remove subnetId } }

/-- `activate_subnet`. After the enactment period, or in it but without what a subnet
needs, the subnet is removed instead. -/
def activateSubnet (c : Chain A) (coldkey : A) (subnetId : ℕ) : Except Error (Chain A) := do
  c.isPaused
  ensure (c.isSubnetOwner coldkey subnetId) .notSubnetOwner
  let subnet ← okOr (c.subnets.subnetsData.find? subnetId) .invalidSubnetId
  ensure (decide (subnet.state = .registered)) .subnetActivatedAlready
  let epoch := c.currentEpoch rt
  ensure (c.pastMinRegistrationEpochs subnetId epoch) .minSubnetRegistrationEpochsNotMet
  let registering := c.isSubnetRegistering subnetId subnet.state epoch
  let enactment := c.isSubnetInEnactment subnetId subnet.state epoch
  let reason := c.canSubnetBeActive subnetId
  if !registering && !enactment then .ok (c.doRemoveSubnet rt subnetId).1
  else if reason.isSome && registering then .error .subnetActivationConditionsNotMetYet
  else if reason.isSome && enactment then .ok (c.doRemoveSubnet rt subnetId).1
  else .ok (c.startSubnet rt subnetId subnet)

/-! ## Removal -/

/-- `is_chosen_validator`. -/
def isChosenValidator (c : Chain A) (subnetId subnetNodeId subnetEpoch : ℕ) : Bool :=
  decide (c.registry.subnetElectedValidator.find? (subnetId, subnetEpoch) = some subnetNodeId)

/-- `perform_remove_subnet_node`. -/
def performRemoveSubnetNode (c : Chain A) (subnetId subnetNodeId : ℕ) : Chain A :=
  if c.nodes.subnetNodesData.contains (subnetId, subnetNodeId) then
    { c with toState := c.toState.removeActiveSubnetNode subnetId subnetNodeId }
  else if c.nodes.registeredSubnetNodesData.contains (subnetId, subnetNodeId) then
    { c with toState := c.toState.removeRegisteredSubnetNode subnetId subnetNodeId }
  else c

/-- `remove_subnet_node`. -/
def removeSubnetNode (c : Chain A) (coldkey : A) (subnetId subnetNodeId : ℕ) :
    Except Error (Chain A) := do
  c.isPaused
  let validatorId ← okOr (c.validators.coldkeyValidatorId.find? coldkey) .notKeyOwner
  c.ensureCanonicalValidatorColdkey coldkey validatorId
  ensure (decide (c.nodes.subnetNodeValidatorId.find? (subnetId, subnetNodeId) = some validatorId))
    .notKeyOwner
  ensure (!c.isChosenValidator subnetId subnetNodeId (c.currentSubnetEpoch rt subnetId))
    .electedValidatorCannotRemove
  .ok (c.performRemoveSubnetNode subnetId subnetNodeId)

end Chain

end Hypertensor
