import Mathlib
import Hypertensor.Consensus.Proposal
import Hypertensor.Epoch.Divisors

/-!
# Hypertensor.Lifecycle.Owner — what a subnet's owner may do to its subnet

`utilities/owner.rs`: an owner pauses an active subnet and unpauses it again, and
in between may put a temporary validator set in place or take it back. Each call
has one inversion lemma (`…_ok`) that says when it succeeds and what it leaves.
-/

namespace Hypertensor

open Base

variable {A : Type} [DecidableEq A]

/-- A node's record with the start of its class put off. -/
def SubnetNode.delay (n : SubnetNode) (delta : ℕ) : SubnetNode :=
  { n with classification := { n.classification with
      startEpoch := min (n.classification.startEpoch + delta) u32Max } }

namespace Chain

variable (rt : Runtime A)

/-- Whether a subnet is in the given state; an unknown one is in none. -/
def subnetInState (c : Chain A) (subnetId : ℕ) (state : SubnetState) : Bool :=
  match c.subnets.subnetsData.find? subnetId with
  | some d => decide (d.state = state)
  | none => false

/-- `is_subnet_active`. -/
def isSubnetActive (c : Chain A) (subnetId : ℕ) : Bool := c.subnetInState subnetId .active

/-- `is_subnet_paused`. -/
def isSubnetPaused (c : Chain A) (subnetId : ℕ) : Bool := c.subnetInState subnetId .paused

/-- Write `SubnetsData`. -/
def setSubnetData (c : Chain A) (subnetId : ℕ) (d : SubnetData) : Chain A :=
  { c with subnets := { c.subnets with subnetsData := c.subnets.subnetsData.set subnetId d } }

/-- `owner_pause_subnet`. The epoch of the pause takes the place of the start. -/
def ownerPauseSubnet (c : Chain A) (coldkey : A) (subnetId : ℕ) : Except Error (Chain A) := do
  c.isPaused
  ensure (c.isSubnetOwner coldkey subnetId) .notSubnetOwner
  ensure (c.isSubnetActive subnetId) .subnetMustBeActive
  let epoch := c.currentEpoch rt
  ensure (decide (wrapAdd 32 (c.registry.previousSubnetPauseEpoch.val subnetId)
    c.callParams.subnetPauseCooldownEpochs ≤ epoch)) .subnetPauseCooldownActive
  let d ← okOr (c.subnets.subnetsData.find? subnetId) .invalidSubnetId
  .ok (c.setSubnetData subnetId { d with state := .paused, startEpoch := epoch })

/-- How far the queued nodes are put off when a subnet paused in `pauseEpoch` is
unpaused. -/
def pauseDelta (epoch pauseEpoch : ℕ) : ℕ := min (epoch - pauseEpoch + 1) u32Max

/-- The temporary validator set of a subnet that is unpaused gets its last epoch. -/
def unpauseEmergency (c : Chain A) (subnetId : ℕ) : StorageMap ℕ EmergencySubnetValidatorData :=
  let emergency := c.nodes.emergencySubnetNodeElectionData
  match emergency.find? subnetId with
  | some d =>
      let epochs := percentMul d.targetEmergencyValidatorsEpochs
        c.callParams.maxEmergencyValidatorEpochsMultiplier
      let last := min (c.currentSubnetEpoch rt subnetId + epochs % 2 ^ 32) u32Max
      emergency.set subnetId { d with maxEmergencyValidatorsEpoch := last }
  | none => emergency

/-- The storage after `owner_unpause_subnet`. The loop over the registered nodes
takes the subnet id of every entry it meets, whichever subnet that is. -/
def unpause (c : Chain A) (subnetId : ℕ) (d : SubnetData) : Chain A :=
  let epoch := c.currentEpoch rt
  { c with
    subnets := { c.subnets with
      subnetsData := c.subnets.subnetsData.set subnetId
        { d with state := .active, startEpoch := wrapAdd 32 epoch 1 } }
    nodes := { c.nodes with
      registeredSubnetNodesData := c.nodes.registeredSubnetNodesData.mapValues fun n =>
        n.delay (pauseDelta epoch d.startEpoch)
      emergencySubnetNodeElectionData := c.unpauseEmergency rt subnetId }
    registry := { c.registry with
      previousSubnetPauseEpoch := c.registry.previousSubnetPauseEpoch.set subnetId epoch } }

/-- `owner_unpause_subnet`. -/
def ownerUnpauseSubnet (c : Chain A) (coldkey : A) (subnetId : ℕ) : Except Error (Chain A) := do
  c.isPaused
  ensure (c.isSubnetOwner coldkey subnetId) .notSubnetOwner
  ensure (c.isSubnetPaused subnetId) .subnetMustBePaused
  let d ← okOr (c.subnets.subnetsData.find? subnetId) .invalidSubnetId
  .ok (c.unpause rt subnetId d)

/-- `get_max_steps_for_node_removal`. -/
def getMaxStepsForNodeRemoval (c : Chain A) (subnetId : ℕ) : ℕ :=
  rt.maxStepsForNodeRemovalFloat c.callParams.minMinSubnetNodeReputation
    c.callParams.minNodeReputationFactor
    (c.emission.minSubnetNodeReputation.getD subnetId 100000000000000000)
    (Metered.getReputationFactorsForEpoch c.toState subnetId
      (c.currentSubnetEpoch rt subnetId)).absentDecrease

/-- The nodes of a proposed temporary set that are validators now. -/
def emergencyNodeIds (c : Chain A) (subnetId : ℕ) (subnetNodeIds : List ℕ) : List ℕ :=
  (subnetNodeIds.destutter (· ≠ ·)).filter fun id =>
    match c.nodes.subnetNodesData.find? (subnetId, id) with
    | some n => n.hasClassification .validator (c.currentSubnetEpoch rt subnetId)
    | none => false

/-- `owner_set_emergency_validator_set`. -/
def ownerSetEmergencyValidatorSet (c : Chain A) (coldkey : A) (subnetId : ℕ)
    (subnetNodeIds : List ℕ) : Except Error (Chain A) := do
  c.isPaused
  ensure (c.isSubnetOwner coldkey subnetId) .notSubnetOwner
  ensure (c.isSubnetPaused subnetId) .subnetMustBePaused
  let ids := c.emergencyNodeIds rt subnetId subnetNodeIds
  ensure (decide (ids.length ≥ c.params.minSubnetNodes)) .invalidMinEmergencySubnetNodes
  ensure (decide (ids.length ≤ c.callParams.maxEmergencySubnetNodes))
    .invalidMaxEmergencySubnetNodes
  .ok { c with nodes := { c.nodes with
    emergencySubnetNodeElectionData := c.nodes.emergencySubnetNodeElectionData.set subnetId
      { subnetNodeIds := ids
        targetEmergencyValidatorsEpochs := wrapAdd 32 (c.getMaxStepsForNodeRemoval rt subnetId) 1
        maxEmergencyValidatorsEpoch := 0
        totalEpochs := 0 } } }

/-- `owner_revert_emergency_validator_set`. -/
def ownerRevertEmergencyValidatorSet (c : Chain A) (coldkey : A) (subnetId : ℕ) :
    Except Error (Chain A) := do
  c.isPaused
  ensure (c.isSubnetOwner coldkey subnetId) .notSubnetOwner
  ensure (c.isSubnetPaused subnetId) .subnetMustBePaused
  .ok { c with nodes := { c.nodes with
    emergencySubnetNodeElectionData :=
      c.nodes.emergencySubnetNodeElectionData.remove subnetId } }

/-- `owner_deactivate_subnet`. -/
def ownerDeactivateSubnet (c : Chain A) (coldkey : A) (subnetId : ℕ) : Except Error (Chain A) := do
  c.isPaused
  ensure (c.isSubnetOwner coldkey subnetId) .notSubnetOwner
  ensure (c.subnets.subnetsData.contains subnetId) .invalidSubnetId
  .ok (c.doRemoveSubnet rt subnetId).1

/-! ## What a call that succeeds has done -/

variable {rt} {c c' : Chain A} {coldkey : A} {subnetId : ℕ}

omit [DecidableEq A] in
theorem subnetInState_iff {state : SubnetState} : c.subnetInState subnetId state = true ↔
    ∃ d, c.subnets.subnetsData.find? subnetId = some d ∧ d.state = state := by
  unfold subnetInState
  split
  · next d hd => simp [hd]
  · next hnone => simp [hnone]

theorem ownerPauseSubnet_ok (h : c.ownerPauseSubnet rt coldkey subnetId = .ok c') :
    ∃ d, c.subnets.subnetsData.find? subnetId = some d ∧ d.state = .active ∧
      c' = c.setSubnetData subnetId
        { d with state := .paused, startEpoch := c.currentEpoch rt } := by
  simp only [ownerPauseSubnet, State.isPaused, ensure_bind_ok, okOr_bind_ok, isSubnetActive,
    Except.ok.injEq] at h
  rcases h with ⟨_, _, hactive, _, d, hd, rfl⟩
  rcases subnetInState_iff.mp hactive with ⟨d', hd', hstate⟩
  rw [hd] at hd'
  cases hd'
  exact ⟨d, hd, hstate, rfl⟩

theorem ownerUnpauseSubnet_ok (h : c.ownerUnpauseSubnet rt coldkey subnetId = .ok c') :
    ∃ d, c.subnets.subnetsData.find? subnetId = some d ∧ d.state = .paused ∧
      c' = c.unpause rt subnetId d := by
  simp only [ownerUnpauseSubnet, State.isPaused, ensure_bind_ok, okOr_bind_ok, isSubnetPaused,
    Except.ok.injEq] at h
  rcases h with ⟨_, _, hpaused, d, hd, rfl⟩
  rcases subnetInState_iff.mp hpaused with ⟨d', hd', hstate⟩
  rw [hd] at hd'
  cases hd'
  exact ⟨d, hd, hstate, rfl⟩

end Chain

end Hypertensor
