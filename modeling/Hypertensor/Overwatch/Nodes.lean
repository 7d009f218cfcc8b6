import Mathlib
import Hypertensor.Consensus.Proposal
import Hypertensor.Lifecycle.Registration
import Hypertensor.Subnets

/-!
# Hypertensor.Overwatch.Nodes — overwatch nodes

`overwatch_nodes/registering.rs`, `overwatch_nodes/removing.rs` and
`utilities/overwatch_node.rs`: a validator with a good record registers an overwatch
node, runs it under its own keys or under a hotkey of the node's own, and gives it a peer
id in each subnet. The keys of a node stay known when it is removed, since its stake is
still to be withdrawn.
-/

namespace Hypertensor

open Base

variable {A H : Type}

/-- The storage of the pallet with what only calls about overwatch nodes read. -/
structure OverwatchChain (A H : Type) extends Chain A where
  totalOverwatchNodes : ℕ
  totalOverwatchNodeUids : ℕ
  overwatchNodeIdHotkey : StorageMap ℕ A
  /-- `OverwatchNodeIndex`: the peer ids of a node, by subnet. -/
  overwatchNodeIndex : StorageMap ℕ (StorageMap ℕ (List UInt8))
  /-- The validators whose entry in `OverwatchValidatorWhitelist` is `true`. -/
  overwatchValidatorWhitelist : Finset ℕ
  /-- `OverwatchCommits`: overwatch epoch, overwatch node, subnet. -/
  overwatchCommits : StorageMap (ℕ × ℕ × ℕ) H
  maxOverwatchNodes : ℕ
  overwatchCommitCutoffPercent : ℕ
  overwatchMinDiversificationRatio : ℕ
  overwatchMinRepScore : ℕ
  overwatchMinAvgAttestationRatio : ℕ
  overwatchMinAge : ℕ
deriving DecidableEq

namespace OverwatchChain

variable (rt : Runtime A) (c : OverwatchChain A H)

/-! ## The clock -/

/-- `get_current_overwatch_epoch_as_u32`. -/
def currentOverwatchEpoch : ℕ := c.block / c.overwatchEpochLength rt

/-! ## Keys -/

/-- `get_overwatch_node_associated_coldkey`. -/
def getOverwatchNodeAssociatedColdkey (overwatchNodeId : ℕ) : Except Error A := do
  let validatorId ← okOr (c.overwatch.overwatchNodeValidatorId.find? overwatchNodeId)
    .invalidOverwatchNodeId
  okOr (c.validators.validatorColdkey.find? validatorId) .invalidValidatorId

/-- `get_overwatch_node_associated_hotkey`: the node's own hotkey, or its validator's. -/
def getOverwatchNodeAssociatedHotkey (overwatchNodeId : ℕ) : Except Error A :=
  match c.overwatchNodeIdHotkey.find? overwatchNodeId with
  | some hotkey => .ok hotkey
  | none => do
      let validatorId ← okOr (c.overwatch.overwatchNodeValidatorId.find? overwatchNodeId)
        .invalidOverwatchNodeId
      okOr (c.validators.validatorIdHotkey.find? validatorId) .invalidValidator

/-- `get_overwatch_associated_coldkey_and_hotkey`. -/
def getOverwatchAssociatedColdkeyAndHotkey (overwatchNodeId : ℕ) : Except Error (A × A) := do
  let validatorId ← okOr (c.overwatch.overwatchNodeValidatorId.find? overwatchNodeId)
    .invalidOverwatchNodeId
  let validatorColdkey ← okOr (c.validators.validatorColdkey.find? validatorId) .invalidValidatorId
  match c.overwatchNodeIdHotkey.find? overwatchNodeId with
  | some overwatchNodeHotkey => .ok (validatorColdkey, overwatchNodeHotkey)
  | none => do
      let validatorHotkey ← okOr (c.validators.validatorIdHotkey.find? validatorId)
        .invalidValidator
      .ok (validatorColdkey, validatorHotkey)

/-! ## Registration -/

/-- Whether a validator has a node of the validator class in a subnet. -/
def hasClassifiedNode (subnetId : ℕ) (nodes : Finset ℕ) : Bool :=
  decide (∃ nodeId ∈ nodes, (c.nodes.subnetNodesData.find? (subnetId, nodeId)).any
    fun node => node.hasClassification .validator (c.currentSubnetEpoch rt subnetId))

/-- `is_validator_overwatch_qualified_read_only`. -/
def isValidatorOverwatchQualifiedReadOnly (validatorId : ℕ) : Bool :=
  match c.validators.validatorReputation.find? validatorId with
  | none => false
  | some reputation =>
      let currentEpoch := c.currentEpoch rt
      let nodeMap := c.validators.validatorSubnetNodes.getD validatorId ∅
      let activeUniqueNodeCount :=
        (nodeMap.ascEntries.filter fun e => c.hasClassifiedNode rt e.1 e.2).length
      let diversification :=
        if activeUniqueNodeCount ≥ c.registry.totalActiveSubnets then percentageFactor
        else percentDiv activeUniqueNodeCount c.registry.totalActiveSubnets
      decide (c.overwatchMinAge < currentEpoch) &&
        decide (c.overwatchMinAge ≤ currentEpoch - reputation.startEpoch) &&
        decide (c.overwatchMinRepScore ≤ reputation.score) &&
        decide (c.overwatchMinDiversificationRatio ≤ diversification) &&
        decide (c.overwatchMinAvgAttestationRatio ≤ reputation.averageAttestation)

variable [DecidableEq A]

/-- `register_overwatch_node`. The stake of an id may be there already, from an earlier
deposit under it. -/
def registerOverwatchNode (coldkey : A) (stakeToBeAdded : ℕ) : Except Error (OverwatchChain A H) := do
  c.isPaused
  let validatorId ← okOr (c.validators.coldkeyValidatorId.find? coldkey) .notKeyOwner
  c.ensureCanonicalValidatorColdkey coldkey validatorId
  ensure (decide (validatorId ∈ c.overwatchValidatorWhitelist)) .coldkeyBlacklisted
  ensure (decide (c.currentOverwatchEpoch rt > 0)) .overwatchEpochIsZero
  ensure (decide (c.totalOverwatchNodes < c.maxOverwatchNodes)) .maxOverwatchNodes
  ensure (c.isValidatorOverwatchQualifiedReadOnly rt validatorId) .coldkeyNotOverwatchQualified
  let currentUid := min (c.totalOverwatchNodeUids + 1) u32Max
  ensure (decide (stakeToBeAdded ≠ 0)) .invalidAmount
  ensure (decide (u128.add (c.stake.overwatchNodeStakeBalance.val currentUid) stakeToBeAdded ≥
    c.params.overwatchMinStakeBalance)) .minStakeNotReached
  ensure (c.canRemoveBalance rt.toConfig coldkey stakeToBeAdded) .notEnoughBalanceToStake
  let s ← okOr (c.removeBalance rt.toConfig coldkey stakeToBeAdded) .balanceWithdrawalError
  let staked := s.increaseOverwatchNodeStake u128 currentUid stakeToBeAdded
  .ok { c with
    toState := { staked with overwatch :=
      { overwatchNodes := insert currentUid c.overwatch.overwatchNodes
        overwatchNodeValidatorId :=
          c.overwatch.overwatchNodeValidatorId.set currentUid validatorId } }
    totalOverwatchNodeUids := currentUid
    totalOverwatchNodes := wrapAdd 32 c.totalOverwatchNodes 1 }

/-! ## Peer ids -/

/-- The peer id of a node in a subnet. -/
def peerOf (overwatchNodeId subnetId : ℕ) : Option (List UInt8) :=
  (c.overwatchNodeIndex.getD overwatchNodeId ∅).find? subnetId

/-- `set_overwatch_node_peer_id`. The new peer id takes the place of the old one in
`OverwatchNodeIndex`; the old one's entry in `PeerIdOverwatchNodeId` stays. Any node whose
keys are known may be given a peer id. -/
def setOverwatchNodePeerId (key : A) (subnetId overwatchNodeId : ℕ) (peerId : List UInt8) :
    Except Error (OverwatchChain A H) := do
  c.isPaused
  ensure (c.subnets.subnetsData.contains subnetId) .invalidSubnetId
  let keys ← c.getOverwatchAssociatedColdkeyAndHotkey overwatchNodeId
  ensure (decide (key = keys.1 ∨ key = keys.2)) .notKeyOwner
  ensure (validatePeerId peerId) .invalidPeerId
  ensure (c.isOwnerOfPeerOrOwnerless subnetId 0 0 peerId) .peerIdExist
  .ok { c with
    admission := { c.admission with
      peerIdOverwatchNodeId :=
        c.admission.peerIdOverwatchNodeId.set (subnetId, peerId) overwatchNodeId }
    overwatchNodeIndex := c.overwatchNodeIndex.set overwatchNodeId
      ((c.overwatchNodeIndex.getD overwatchNodeId ∅).set subnetId peerId) }

/-! ## Removal -/

omit [DecidableEq A] in
/-- `perform_remove_overwatch_node`. -/
def performRemoveOverwatchNode (overwatchNodeId : ℕ) : OverwatchChain A H :=
  if overwatchNodeId ∈ c.overwatch.overwatchNodes then
    let map := c.overwatchNodeIndex.getD overwatchNodeId ∅
    { c with
      overwatch := { c.overwatch with
        overwatchNodes := c.overwatch.overwatchNodes.erase overwatchNodeId }
      admission := { c.admission with
        peerIdOverwatchNodeId := map.ascEntries.foldl StorageMap.remove
          c.admission.peerIdOverwatchNodeId }
      overwatchNodeIndex := c.overwatchNodeIndex.remove overwatchNodeId
      totalOverwatchNodes := c.totalOverwatchNodes - 1 }
  else c

/-- `remove_overwatch_node`. -/
def removeOverwatchNode (coldkey : A) (overwatchNodeId : ℕ) : Except Error (OverwatchChain A H) := do
  c.isPaused
  let overwatchColdkey ← c.getOverwatchNodeAssociatedColdkey overwatchNodeId
  ensure (decide (coldkey = overwatchColdkey)) .notKeyOwner
  ensure (decide (overwatchNodeId ∈ c.overwatch.overwatchNodes)) .invalidOverwatchNodeId
  .ok (c.performRemoveOverwatchNode overwatchNodeId)

/-- `do_remove_subnet`, which knows nothing of overwatch nodes. -/
def removeSubnet (subnetId : ℕ) : OverwatchChain A H :=
  { c with toChain := (c.doRemoveSubnet rt subnetId).1 }

end OverwatchChain

end Hypertensor
