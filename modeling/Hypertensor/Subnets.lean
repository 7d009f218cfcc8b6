import Mathlib
import Hypertensor.Chain

/-!
# Hypertensor.Subnets — the subnet registry

Removal of a subnet with all that is stored about it (`do_remove_subnet`,
`clean_subnet_nodes`), its slot, and the delegate stake it has to keep. `Hook` is
the block hook at work: the storage, what it may still consume, and which subnets
it has removed.
-/

namespace Hypertensor

open Base

variable {A : Type}

/-! ## Activity -/

/-- `_is_subnet_active_and_live`. -/
def SubnetData.isActiveAndLive (d : SubnetData) (epoch : ℕ) : Bool :=
  decide (d.state = .active) && decide (d.startEpoch ≤ epoch)

namespace Chain

/-- `is_subnet_active_and_live`, with an unknown subnet not active. -/
def isSubnetActiveAndLive (c : Chain A) (subnetId epoch : ℕ) : Bool :=
  match c.subnets.subnetsData.find? subnetId with
  | some d => d.isActiveAndLive epoch
  | none => false

/-! ## The required delegate stake -/

/-- `get_total_network_issuance`. -/
def getTotalNetworkIssuance [DecidableEq A] (c : Chain A) : ℕ :=
  u128.add (u128.add (u128.add (u128.add (u128.add (c.freeBalance.total fun _ b => b)
    c.stake.totalStake) c.subnetPools.totalBalance) c.registry.totalNodeDelegateStake)
    c.stake.totalUnbondingBalance) c.stake.totalAccountDelegateStake

/-- `get_subnet_min_delegate_staking_multiplier`: between `1.0` and the largest
multiplier, in proportion to the number of electable nodes. -/
def getSubnetMinDelegateStakingMultiplier (c : Chain A) (electableNodeCount : ℕ) : ℕ :=
  let minNodes := c.params.minSubnetNodes
  let maxNodes := c.hookParams.maxSubnetNodes
  let maxMultiplier := c.hookParams.maxMinDelegateStakeMultiplier
  if electableNodeCount ≤ minNodes then percentageFactor
  else if electableNodeCount ≥ maxNodes then maxMultiplier
  else
    let ratio := percentDiv (electableNodeCount - minNodes) (maxNodes - minNodes)
    u128.add percentageFactor (percentMul ratio (maxMultiplier - percentageFactor))

/-- `get_min_subnet_delegate_stake_balance`. -/
def getMinSubnetDelegateStakeBalance [DecidableEq A] (c : Chain A) (subnetId : ℕ) : ℕ :=
  let baseMin := percentMul c.getTotalNetworkIssuance c.hookParams.minSubnetDelegateStakeFactor
  let electableNodeCount := (c.nodes.subnetNodeElectionSlots.getD subnetId []).length
  percentMul baseMin (c.getSubnetMinDelegateStakingMultiplier electableNodeCount)

end Chain

/-! ## Removal -/

/-- The nodes of a subnet, as `clean_subnet_nodes` leaves them. The network-wide
count of electable nodes is computed there and not written. -/
def Nodes.cleanSubnetNodes (n : Nodes A) (subnetId : ℕ) : Nodes A :=
  { n with
    registeredSubnetNodesData := n.registeredSubnetNodesData.clearPrefix subnetId
    subnetNodesData := n.subnetNodesData.clearPrefix subnetId
    totalActiveNodes := n.totalActiveNodes - n.totalActiveSubnetNodes.val subnetId
    totalActiveSubnetNodes := n.totalActiveSubnetNodes.remove subnetId
    totalSubnetNodes := n.totalSubnetNodes.remove subnetId
    peerIdSubnetNodeId := n.peerIdSubnetNodeId.clearPrefix subnetId
    bootnodePeerIdSubnetNodeId := n.bootnodePeerIdSubnetNodeId.clearPrefix subnetId
    clientPeerIdSubnetNodeId := n.clientPeerIdSubnetNodeId.clearPrefix subnetId
    multiaddrSubnetNodeId := n.multiaddrSubnetNodeId.clearPrefix subnetId
    uniqueParamSubnetNodeId := n.uniqueParamSubnetNodeId.clearPrefix subnetId
    subnetNodeIdHotkey := n.subnetNodeIdHotkey.clearPrefix subnetId
    subnetNodeReputation := n.subnetNodeReputation.clearPrefix subnetId
    subnetNodeConsecutiveIncludedEpochs :=
      n.subnetNodeConsecutiveIncludedEpochs.clearPrefix subnetId
    nodeSlotIndex := n.nodeSlotIndex.clearPrefix subnetId
    subnetNodeElectionSlots := n.subnetNodeElectionSlots.remove subnetId
    subnetNodeQueue := n.subnetNodeQueue.remove subnetId
    totalSubnetElectableNodes := n.totalSubnetElectableNodes.remove subnetId }

/-- How many entries `clean_subnet_nodes` clears by prefix. -/
def Nodes.clearedEntries (n : Nodes A) (subnetId : ℕ) : ℕ :=
  n.registeredSubnetNodesData.prefixCount subnetId + n.subnetNodesData.prefixCount subnetId +
    n.peerIdSubnetNodeId.prefixCount subnetId + n.bootnodePeerIdSubnetNodeId.prefixCount subnetId +
    n.clientPeerIdSubnetNodeId.prefixCount subnetId +
    n.multiaddrSubnetNodeId.prefixCount subnetId +
    n.uniqueParamSubnetNodeId.prefixCount subnetId + n.subnetNodeIdHotkey.prefixCount subnetId +
    n.subnetNodeReputation.prefixCount subnetId +
    n.subnetNodeConsecutiveIncludedEpochs.prefixCount subnetId +
    n.nodeSlotIndex.prefixCount subnetId

/-- What a list costs `clean_subnet_nodes` besides its read. -/
def vecOps (len : ℕ) : ℕ := if len > 1 then len * 1000 else 0

/-- `clean_subnet_nodes`, with its weight. -/
def Chain.cleanSubnetNodes (rt : Runtime A) (c : Chain A) (subnetId : ℕ) : Chain A × Weight :=
  let n := c.nodes
  let elected := c.registry.subnetElectedValidator
  let ops := vecOps (n.subnetNodeElectionSlots.getD subnetId []).length +
    vecOps (n.subnetNodeQueue.getD subnetId []).length
  ({ c with
      nodes := n.cleanSubnetNodes subnetId
      registry := { c.registry with
        totalSubnetNodeUids := c.registry.totalSubnetNodeUids.remove subnetId
        subnetElectedValidator := elected.clearPrefix subnetId } },
    ((rt.reads 5).add (rt.writes (n.clearedEntries subnetId + elected.prefixCount subnetId + 8))).add
      (Weight.scale ⟨1000, 0⟩ ops))

/-- `free_slot_of_subnet`. -/
def Registry.freeSlotOfSubnet (r : Registry A) (subnetId : ℕ) : Registry A :=
  match r.subnetSlot.find? subnetId with
  | none => r
  | some slot => { r with
      subnetSlot := r.subnetSlot.remove subnetId
      slotAssignment := r.slotAssignment.remove slot
      assignedSlots := r.assignedSlots.erase slot }

/-- The registry's part of `do_remove_subnet`. -/
def Registry.removeSubnet (r : Registry A) (subnetId : ℕ) (subnet : SubnetData) : Registry A :=
  let r₁ : Registry A := { r with
    subnetName := r.subnetName.remove subnet.name
    subnetRepo := r.subnetRepo.remove subnet.repo
    pendingSubnetOwner := r.pendingSubnetOwner.remove subnetId
    subnetRegistrationEpoch := r.subnetRegistrationEpoch.remove subnetId
    previousSubnetPauseEpoch := r.previousSubnetPauseEpoch.remove subnetId
    churnLimit := r.churnLimit.remove subnetId
    subnetNodeQueueEpochs := r.subnetNodeQueueEpochs.remove subnetId
    lastSubnetDelegateStakeRewardsUpdate := r.lastSubnetDelegateStakeRewardsUpdate.remove subnetId
    initialValidatorData := r.initialValidatorData.remove subnetId
    maxRegisteredNodes := r.maxRegisteredNodes.remove subnetId
    targetNodeRegistrationsPerEpoch := r.targetNodeRegistrationsPerEpoch.remove subnetId
    nodeBurnRateAlpha := r.nodeBurnRateAlpha.remove subnetId
    currentNodeBurnRate := r.currentNodeBurnRate.remove subnetId
    queueImmunityEpochs := r.queueImmunityEpochs.remove subnetId
    subnetBootnodeAccess := r.subnetBootnodeAccess.remove subnetId
    subnetBootnodes := r.subnetBootnodes.remove subnetId
    nodeRegistrationsThisEpoch := r.nodeRegistrationsThisEpoch.remove subnetId
    subnetIdFriendlyUid := r.subnetIdFriendlyUid.remove subnetId
    friendlyUidSubnetId := match r.subnetIdFriendlyUid.find? subnetId with
      | some uid => r.friendlyUidSubnetId.remove uid
      | none => r.friendlyUidSubnetId
    -- a paused subnet is still counted as active
    totalActiveSubnets :=
      if subnet.state ≠ .registered then r.totalActiveSubnets - 1 else r.totalActiveSubnets
    totalSubnets := r.totalSubnets - 1 }
  r₁.freeSlotOfSubnet subnetId

/-- The part of `do_remove_subnet` in the storage that rewards read. -/
def Emission.removeSubnet (e : Emission A) (subnetId : ℕ) : Emission A :=
  { e with
    subnetOwner := e.subnetOwner.remove subnetId
    idleClassificationEpochs := e.idleClassificationEpochs.remove subnetId
    includedClassificationEpochs := e.includedClassificationEpochs.remove subnetId
    subnetDelegateStakeRewardsPercentage := e.subnetDelegateStakeRewardsPercentage.remove subnetId
    subnetReputation := e.subnetReputation.remove subnetId
    minSubnetNodeReputation := e.minSubnetNodeReputation.remove subnetId
    subnetNodeMinWeightDecreaseReputationThreshold :=
      e.subnetNodeMinWeightDecreaseReputationThreshold.remove subnetId
    subnetReputationFactorSchedules := e.subnetReputationFactorSchedules.remove subnetId }

/-- The part of `do_remove_subnet` in the storage that staking reads. -/
def Subnets.removeSubnet (s : Subnets) (subnetId : ℕ) : Subnets :=
  { s with
    subnetsData := s.subnetsData.remove subnetId
    subnetMinStakeBalance := s.subnetMinStakeBalance.remove subnetId
    subnetMaxStakeBalance := s.subnetMaxStakeBalance.remove subnetId }

/-- The subnet's `ChurnLimitMultiplier` is removed, so it reads as the default. -/
def Intervals.removeSubnet (i : Intervals) (subnetId : ℕ) : Intervals :=
  { i with churnLimitMultiplier := i.churnLimitMultiplier.remove subnetId }

/-- What `do_remove_subnet` consumes before it cleans the nodes. -/
def removeSubnetWeight (rt : Runtime A) (hasFriendlyUid : Bool) (subnet : SubnetData) : Weight :=
  let w₁ := if hasFriendlyUid then (rt.reads 1).add (rt.writes 1) else rt.reads 1
  let w₂ := (w₁.add (rt.readsWrites 1 26)).add (rt.readsWrites 1 3)
  if subnet.state ≠ .registered then w₂.add (rt.readsWrites 1 1) else w₂

/-- `do_remove_subnet`: the storage, the weight and whether there was a subnet. -/
def Chain.doRemoveSubnet (rt : Runtime A) (c : Chain A) (subnetId : ℕ) : Chain A × Weight × Bool :=
  match c.subnets.subnetsData.find? subnetId with
  | none => (c, rt.reads 1, false)
  | some subnet =>
      let c₁ : Chain A := { c with
        subnets := c.subnets.removeSubnet subnetId
        emission := c.emission.removeSubnet subnetId
        nodes := { c.nodes with emergencySubnetNodeElectionData :=
          c.nodes.emergencySubnetNodeElectionData.remove subnetId }
        registry := c.registry.removeSubnet subnetId subnet
        intervals := c.intervals.removeSubnet subnetId }
      let cleaned := c₁.cleanSubnetNodes rt subnetId
      (cleaned.1, (removeSubnetWeight rt (c.registry.subnetIdFriendlyUid.contains subnetId)
        subnet).add cleaned.2, true)

/-! ## The hook at work -/

/-- The block hook at work. -/
structure Hook (A : Type) where
  chain : Chain A
  meter : WeightMeter
  /-- The subnets removed, with the reason each event gives. -/
  removals : List (ℕ × SubnetRemovalReason)

namespace Hook

/-- Consume weight. -/
def consume (h : Hook A) (w : Weight) : Hook A := { h with meter := h.meter.consume w }

/-- Change the storage. -/
def map (h : Hook A) (f : Chain A → Chain A) : Hook A := { h with chain := f h.chain }

/-- Run a step of the reward code. -/
def metered (h : Hook A) (f : Metered A → Metered A) : Hook A :=
  let m := f ⟨h.chain.toState, h.meter⟩
  { h with chain := { h.chain with toState := m.state }, meter := m.meter }

@[simp] theorem consume_chain (h : Hook A) (w : Weight) : (h.consume w).chain = h.chain := rfl

@[simp] theorem map_chain (h : Hook A) (f : Chain A → Chain A) :
    (h.map f).chain = f h.chain := rfl

/-- `try_do_remove_subnet`: remove a subnet, if there is weight. -/
def tryDoRemoveSubnet (rt : Runtime A) (h : Hook A) (subnetId : ℕ) (reason : SubnetRemovalReason) :
    Hook A :=
  let h₁ := h.consume (rt.reads 1)
  if h₁.meter.canConsume (rt.weightDoRemoveSubnet (h.chain.nodes.totalSubnetNodes.val subnetId)) then
    let r := h.chain.doRemoveSubnet rt subnetId
    { chain := r.1
      meter := h₁.meter.consume r.2.1
      removals := if r.2.2 then h.removals ++ [(subnetId, reason)] else h.removals }
  else h₁

end Hook

end Hypertensor
