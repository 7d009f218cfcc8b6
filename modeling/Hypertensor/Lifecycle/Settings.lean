import Mathlib
import Hypertensor.Collective
import Hypertensor.Lifecycle.Directory

/-!
# Hypertensor.Lifecycle.Settings — what an owner sets

The owner of a subnet sets how many nodes may register and activate, what they stake, what they
share with delegates, and who may change the bootnodes, each within bounds that the collective
sets. Ownership itself is handed over in two steps.

* `Chain.settings`: the storage that holds all this.
* `Writes`: what each operation does to it.
* `SettingOp.step_writes`: no operation does anything else.
-/

namespace Hypertensor

open Base

variable {A : Type}

/-! ## Storage -/

/-- The bounds of the collective that no other call reads. -/
structure Bounds where
  minChurnLimit : ℕ
  maxChurnLimit : ℕ
  minQueueEpochs : ℕ
  maxQueueEpochs : ℕ
  minIncludedClassificationEpochs : ℕ
  maxIncludedClassificationEpochs : ℕ
  minMaxRegisteredNodes : ℕ
  maxMaxRegisteredNodes : ℕ
  maxMinSubnetNodeReputation : ℕ
  maxSubnetNodeMinWeightDecreaseReputationThreshold : ℕ
  subnetDelegateStakeRewardsUpdatePeriod : ℕ
  maxSubnetDelegateStakeRewardsPercentageChange : ℕ
  maxSubnetBootnodeAccess : ℕ
deriving DecidableEq

/-- A chain with these bounds. -/
structure SettingsChain (A : Type) extends CollectiveChain A where
  bounds : Bounds

/-- The errors of these calls. -/
inductive SettingError where
  /-- One that other calls have too. -/
  | network (e : Error)
  | invalidChurnLimit
  | invalidRegistrationQueueEpochs
  | invalidIncludedClassificationEpochs
  | invalidMaxRegisteredNodes
  | invalidTargetNodeRegistrationsPerEpoch
  | minSubnetNodeReputation
  | delegateStakePercentageUpdateTooSoon
  | delegateStakePercentageAbsDiffTooLarge
  | invalidDelegateStakePercentage
  | noPendingSubnetOwner
  | notPendingSubnetOwner
  | inBootnodeAccessList
  | notInAccessList
  | maxSubnetBootnodeAccess
  | invalidAccess
  | invalidMultiaddr
  | invalidMaxBootnodes
  | invalidMaxSubnetBootnodeAccess
deriving DecidableEq, Repr

/-- A setting with one value for each subnet. -/
inductive Setting where
  | churnLimit
  | subnetNodeQueueEpochs
  | includedClassificationEpochs
  | maxRegisteredNodes
  | targetNodeRegistrationsPerEpoch
  | queueImmunityEpochs
  | minSubnetNodeReputation
  | subnetNodeMinWeightDecreaseReputationThreshold
deriving DecidableEq, Repr

/-- The value where none is stored. -/
def Setting.default : Setting → ℕ
  | churnLimit => 4
  | subnetNodeQueueEpochs => 3
  | includedClassificationEpochs => 2
  | maxRegisteredNodes => 64
  | targetNodeRegistrationsPerEpoch => 64
  | queueImmunityEpochs => 3
  | minSubnetNodeReputation => 100000000000000000
  | subnetNodeMinWeightDecreaseReputationThreshold => 0

namespace Chain

/-- The stored values of a setting. -/
def stored (c : Chain A) : Setting → StorageMap ℕ ℕ
  | .churnLimit => c.registry.churnLimit
  | .subnetNodeQueueEpochs => c.registry.subnetNodeQueueEpochs
  | .includedClassificationEpochs => c.emission.includedClassificationEpochs
  | .maxRegisteredNodes => c.registry.maxRegisteredNodes
  | .targetNodeRegistrationsPerEpoch => c.registry.targetNodeRegistrationsPerEpoch
  | .queueImmunityEpochs => c.registry.queueImmunityEpochs
  | .minSubnetNodeReputation => c.emission.minSubnetNodeReputation
  | .subnetNodeMinWeightDecreaseReputationThreshold =>
      c.emission.subnetNodeMinWeightDecreaseReputationThreshold

/-- The value of a setting. -/
def setting (c : Chain A) (k : Setting) (subnetId : ℕ) : ℕ :=
  (c.stored k).getD subnetId k.default

/-- `SubnetDelegateStakeRewardsPercentage`. -/
def delegateStakeRewardsPercentage (c : Chain A) (subnetId : ℕ) : ℕ :=
  c.emission.subnetDelegateStakeRewardsPercentage.getD subnetId 100000000000000000

/-- `insert` in the map of a setting. -/
def storeSetting (c : Chain A) (k : Setting) (subnetId value : ℕ) : Chain A :=
  match k with
  | .churnLimit => { c with registry := { c.registry with
      churnLimit := c.registry.churnLimit.set subnetId value } }
  | .subnetNodeQueueEpochs => { c with registry := { c.registry with
      subnetNodeQueueEpochs := c.registry.subnetNodeQueueEpochs.set subnetId value } }
  | .includedClassificationEpochs => { c with emission := { c.emission with
      includedClassificationEpochs := c.emission.includedClassificationEpochs.set subnetId value } }
  | .maxRegisteredNodes => { c with registry := { c.registry with
      maxRegisteredNodes := c.registry.maxRegisteredNodes.set subnetId value } }
  | .targetNodeRegistrationsPerEpoch => { c with registry := { c.registry with
      targetNodeRegistrationsPerEpoch :=
        c.registry.targetNodeRegistrationsPerEpoch.set subnetId value } }
  | .queueImmunityEpochs => { c with registry := { c.registry with
      queueImmunityEpochs := c.registry.queueImmunityEpochs.set subnetId value } }
  | .minSubnetNodeReputation => { c with emission := { c.emission with
      minSubnetNodeReputation := c.emission.minSubnetNodeReputation.set subnetId value } }
  | .subnetNodeMinWeightDecreaseReputationThreshold => { c with emission := { c.emission with
      subnetNodeMinWeightDecreaseReputationThreshold :=
        c.emission.subnetNodeMinWeightDecreaseReputationThreshold.set subnetId value } }

end Chain

/-! ## Calls of the owner -/

namespace SettingsChain

variable [DecidableEq A] (c : SettingsChain A)

/-- The checks that all calls of an owner make first. -/
def ensureOwner (coldkey : A) (subnetId : ℕ) : Except SettingError Unit := do
  c.isPaused.mapError .network
  ensure (c.isSubnetOwner coldkey subnetId) (.network .notSubnetOwner)

/-- What the calls that set one value share: `allowed` checks it. -/
def ownerUpdate (k : Setting) (allowed : Except SettingError Unit) (coldkey : A)
    (subnetId value : ℕ) : Except SettingError (SettingsChain A) := do
  c.ensureOwner coldkey subnetId
  allowed
  .ok { c with toChain := c.storeSetting k subnetId value }

/-- `do_owner_update_churn_limit`. -/
def ownerUpdateChurnLimit (coldkey : A) (subnetId value : ℕ) :
    Except SettingError (SettingsChain A) :=
  c.ownerUpdate .churnLimit
    (ensure (decide (value ≥ c.bounds.minChurnLimit ∧ value ≤ c.bounds.maxChurnLimit))
      .invalidChurnLimit) coldkey subnetId value

/-- `do_owner_update_registration_queue_epochs`. -/
def ownerUpdateRegistrationQueueEpochs (coldkey : A) (subnetId value : ℕ) :
    Except SettingError (SettingsChain A) :=
  c.ownerUpdate .subnetNodeQueueEpochs
    (ensure (decide (value ≥ c.bounds.minQueueEpochs ∧ value ≤ c.bounds.maxQueueEpochs))
      .invalidRegistrationQueueEpochs) coldkey subnetId value

/-- `do_owner_update_included_classification_epochs`. -/
def ownerUpdateIncludedClassificationEpochs (coldkey : A) (subnetId value : ℕ) :
    Except SettingError (SettingsChain A) :=
  c.ownerUpdate .includedClassificationEpochs
    (ensure (decide (value ≥ c.bounds.minIncludedClassificationEpochs ∧
      value ≤ c.bounds.maxIncludedClassificationEpochs)) .invalidIncludedClassificationEpochs)
    coldkey subnetId value

/-- `do_owner_update_max_registered_nodes`. -/
def ownerUpdateMaxRegisteredNodes (coldkey : A) (subnetId value : ℕ) :
    Except SettingError (SettingsChain A) :=
  c.ownerUpdate .maxRegisteredNodes
    (ensure (decide (value ≥ c.bounds.minMaxRegisteredNodes ∧
      value ≤ c.bounds.maxMaxRegisteredNodes ∧
      value ≤ c.setting .targetNodeRegistrationsPerEpoch subnetId)) .invalidMaxRegisteredNodes)
    coldkey subnetId value

/-- `do_owner_update_target_node_registrations_per_epoch`. -/
def ownerUpdateTargetNodeRegistrationsPerEpoch (coldkey : A) (subnetId value : ℕ) :
    Except SettingError (SettingsChain A) :=
  c.ownerUpdate .targetNodeRegistrationsPerEpoch
    (ensure (decide (value ≤ c.setting .maxRegisteredNodes subnetId ∧ value > 0))
      .invalidTargetNodeRegistrationsPerEpoch) coldkey subnetId value

/-- `do_owner_update_queue_immunity_epochs`. -/
def ownerUpdateQueueImmunityEpochs (coldkey : A) (subnetId value : ℕ) :
    Except SettingError (SettingsChain A) :=
  c.ownerUpdate .queueImmunityEpochs (.ok ()) coldkey subnetId value

/-- `do_owner_update_min_subnet_node_reputation`. -/
def ownerUpdateMinSubnetNodeReputation (coldkey : A) (subnetId value : ℕ) :
    Except SettingError (SettingsChain A) :=
  c.ownerUpdate .minSubnetNodeReputation
    (do
      ensure (decide (value ≤ percentageFactor)) (.network .invalidPercent)
      ensure (decide (value ≥ c.callParams.minMinSubnetNodeReputation ∧
        value ≤ c.bounds.maxMinSubnetNodeReputation)) .minSubnetNodeReputation)
    coldkey subnetId value

/-- `do_owner_update_subnet_node_min_weight_decrease_reputation_threshold`. -/
def ownerUpdateSubnetNodeMinWeightDecreaseReputationThreshold (coldkey : A) (subnetId value : ℕ) :
    Except SettingError (SettingsChain A) :=
  c.ownerUpdate .subnetNodeMinWeightDecreaseReputationThreshold
    (ensure (decide (value ≤ c.bounds.maxSubnetNodeMinWeightDecreaseReputationThreshold))
      (.network .invalidPercent)) coldkey subnetId value

/-- The call that sets a setting. -/
def update (k : Setting) (coldkey : A) (subnetId value : ℕ) :
    Except SettingError (SettingsChain A) :=
  match k with
  | .churnLimit => c.ownerUpdateChurnLimit coldkey subnetId value
  | .subnetNodeQueueEpochs => c.ownerUpdateRegistrationQueueEpochs coldkey subnetId value
  | .includedClassificationEpochs =>
      c.ownerUpdateIncludedClassificationEpochs coldkey subnetId value
  | .maxRegisteredNodes => c.ownerUpdateMaxRegisteredNodes coldkey subnetId value
  | .targetNodeRegistrationsPerEpoch =>
      c.ownerUpdateTargetNodeRegistrationsPerEpoch coldkey subnetId value
  | .queueImmunityEpochs => c.ownerUpdateQueueImmunityEpochs coldkey subnetId value
  | .minSubnetNodeReputation => c.ownerUpdateMinSubnetNodeReputation coldkey subnetId value
  | .subnetNodeMinWeightDecreaseReputationThreshold =>
      c.ownerUpdateSubnetNodeMinWeightDecreaseReputationThreshold coldkey subnetId value

/-- `do_owner_update_min_max_stake`. -/
def ownerUpdateMinMaxStake (coldkey : A) (subnetId min max : ℕ) :
    Except SettingError (SettingsChain A) := do
  c.ensureOwner coldkey subnetId
  ensure (decide (min ≤ max)) (.network .invalidValues)
  ensure (decide (min ≥ c.callParams.minSubnetMinStake ∧ min ≤ c.callParams.maxSubnetMinStake))
    (.network .invalidSubnetMinStake)
  ensure (decide (max ≤ c.callParams.networkMaxStakeBalance)) (.network .invalidSubnetMaxStake)
  .ok { c with subnets := { c.subnets with
    subnetMinStakeBalance := c.subnets.subnetMinStakeBalance.set subnetId min
    subnetMaxStakeBalance := c.subnets.subnetMaxStakeBalance.set subnetId max } }

/-- `do_owner_update_delegate_stake_percentage`. The end of the period may wrap. -/
def ownerUpdateDelegateStakePercentage (coldkey : A) (subnetId value : ℕ) :
    Except SettingError (SettingsChain A) := do
  c.ensureOwner coldkey subnetId
  let lastUpdate := c.registry.lastSubnetDelegateStakeRewardsUpdate.val subnetId
  ensure (decide (wrapAdd 32 lastUpdate c.bounds.subnetDelegateStakeRewardsUpdatePeriod < c.block))
    .delegateStakePercentageUpdateTooSoon
  ensure (decide (Nat.dist (c.delegateStakeRewardsPercentage subnetId) value ≤
    c.bounds.maxSubnetDelegateStakeRewardsPercentageChange)) .delegateStakePercentageAbsDiffTooLarge
  ensure (decide (value ≥ c.callParams.minDelegateStakePercentage ∧
    value ≤ c.params.maxDelegateStakePercentage ∧ value ≤ percentageFactor))
    .invalidDelegateStakePercentage
  .ok { c with
    registry := { c.registry with lastSubnetDelegateStakeRewardsUpdate :=
      c.registry.lastSubnetDelegateStakeRewardsUpdate.set subnetId c.block }
    emission := { c.emission with subnetDelegateStakeRewardsPercentage :=
      c.emission.subnetDelegateStakeRewardsPercentage.set subnetId value } }

/-! ### Ownership -/

/-- `do_transfer_subnet_ownership`. -/
def transferSubnetOwnership (coldkey : A) (subnetId : ℕ) (newOwner : A) :
    Except SettingError (SettingsChain A) := do
  c.ensureOwner coldkey subnetId
  .ok { c with registry := { c.registry with
    pendingSubnetOwner := c.registry.pendingSubnetOwner.set subnetId newOwner } }

/-- `do_accept_subnet_ownership`. -/
def acceptSubnetOwnership (coldkey : A) (subnetId : ℕ) :
    Except SettingError (SettingsChain A) := do
  c.isPaused.mapError .network
  let pendingOwner ← okOr (c.registry.pendingSubnetOwner.find? subnetId) .noPendingSubnetOwner
  ensure (decide (coldkey = pendingOwner)) .notPendingSubnetOwner
  ensure (c.emission.subnetOwner.contains subnetId) (.network .invalidSubnetId)
  .ok { c with
    emission := { c.emission with
      subnetOwner := c.emission.subnetOwner.set subnetId pendingOwner }
    registry := { c.registry with
      pendingSubnetOwner := c.registry.pendingSubnetOwner.remove subnetId } }

/-! ### Bootnodes -/

/-- `SubnetBootnodeAccess`. -/
def bootnodeAccess (subnetId : ℕ) : Finset A := c.registry.subnetBootnodeAccess.getD subnetId ∅

/-- `do_owner_add_bootnode_access`. -/
def ownerAddBootnodeAccess (coldkey : A) (subnetId : ℕ) (newAccount : A) :
    Except SettingError (SettingsChain A) := do
  c.ensureOwner coldkey subnetId
  ensure (decide (newAccount ∉ c.bootnodeAccess subnetId)) .inBootnodeAccessList
  let accessList := insert newAccount (c.bootnodeAccess subnetId)
  ensure (decide (accessList.card ≤ c.bounds.maxSubnetBootnodeAccess)) .maxSubnetBootnodeAccess
  .ok { c with registry := { c.registry with
    subnetBootnodeAccess := c.registry.subnetBootnodeAccess.set subnetId accessList } }

/-- `do_owner_remove_bootnode_access`. -/
def ownerRemoveBootnodeAccess (coldkey : A) (subnetId : ℕ) (removeAccount : A) :
    Except SettingError (SettingsChain A) := do
  c.ensureOwner coldkey subnetId
  ensure (decide (removeAccount ∈ c.bootnodeAccess subnetId)) .notInAccessList
  .ok { c with registry := { c.registry with
    subnetBootnodeAccess := c.registry.subnetBootnodeAccess.set subnetId
      ((c.bootnodeAccess subnetId).erase removeAccount) } }

/-- `SubnetBootnodes`. -/
def bootnodes (subnetId : ℕ) : StorageMap (List UInt8) (List UInt8) :=
  c.registry.subnetBootnodes.getD subnetId ∅

omit [DecidableEq A] in
/-- The loop of `do_update_bootnodes` over what is added. Peer ids are not checked. -/
def addBootnodes (rt : Runtime A) (m : StorageMap (List UInt8) (List UInt8)) :
    List (List UInt8 × List UInt8) →
    Except SettingError (StorageMap (List UInt8) (List UInt8))
  | [] => .ok m
  | (peerId, multiaddr) :: add => do
      ensure (rt.doVerifyMultiaddr multiaddr).toBool .invalidMultiaddr
      addBootnodes rt (m.set peerId multiaddr) add

/-- `do_update_bootnodes`. -/
def updateBootnodes (rt : Runtime A) (accountId : A) (subnetId : ℕ)
    (add : List (List UInt8 × List UInt8)) (remove : Finset (List UInt8)) :
    Except SettingError (SettingsChain A) := do
  c.isPaused.mapError .network
  ensure (c.subnets.subnetsData.contains subnetId) (.network .invalidSubnetId)
  ensure (c.isSubnetOwner accountId subnetId || decide (accountId ∈ c.bootnodeAccess subnetId))
    .invalidAccess
  let kept := (c.bootnodes subnetId).filter fun peerId _ => decide (peerId ∉ remove)
  let bootnodes ← addBootnodes rt kept add
  ensure (decide (bootnodes.keys.card ≤ c.callParams.maxBootnodes)) (.network .tooManyBootnodes)
  .ok { c with registry := { c.registry with
    subnetBootnodes := c.registry.subnetBootnodes.set subnetId bootnodes } }

end SettingsChain

/-! ## Setters of the collective -/

namespace SettingsChain

variable (c : SettingsChain A)

/-- What the setters of two bounds share. -/
def setRange (min max : ℕ) (c' : SettingsChain A) : Except SettingError (SettingsChain A) := do
  ensure (decide (min < max)) (.network .invalidValues)
  .ok c'

/-- `do_set_churn_limits`. -/
def setChurnLimits (min max : ℕ) : Except SettingError (SettingsChain A) :=
  setRange min max { c with bounds := { c.bounds with minChurnLimit := min, maxChurnLimit := max } }

/-- `do_set_queue_epochs`. -/
def setQueueEpochs (min max : ℕ) : Except SettingError (SettingsChain A) :=
  setRange min max { c with bounds := { c.bounds with minQueueEpochs := min, maxQueueEpochs := max } }

/-- `do_set_included_classification_epochs`. -/
def setIncludedClassificationEpochs (min max : ℕ) : Except SettingError (SettingsChain A) :=
  setRange min max { c with bounds := { c.bounds with
    minIncludedClassificationEpochs := min, maxIncludedClassificationEpochs := max } }

/-- `do_set_min_max_registered_nodes`. -/
def setMinMaxRegisteredNodes (min max : ℕ) : Except SettingError (SettingsChain A) :=
  setRange min max { c with bounds := { c.bounds with
    minMaxRegisteredNodes := min, maxMaxRegisteredNodes := max } }

/-- `do_set_subnet_stakes`. -/
def setSubnetStakes (min max : ℕ) : Except SettingError (SettingsChain A) :=
  setRange min max { c with callParams := { c.callParams with
    minSubnetMinStake := min, maxSubnetMinStake := max } }

/-- `do_set_delegate_stake_percentages`. -/
def setDelegateStakePercentages (min max : ℕ) : Except SettingError (SettingsChain A) := do
  ensure (decide (min < max)) (.network .invalidValues)
  ensure (decide (max ≤ percentageFactor)) (.network .invalidPercent)
  .ok { c with
    callParams := { c.callParams with minDelegateStakePercentage := min }
    params := { c.params with maxDelegateStakePercentage := max } }

/-- `do_set_min_max_node_reputation`. -/
def setMinMaxNodeReputation (min max : ℕ) : Except SettingError (SettingsChain A) := do
  ensure (decide (min < max)) (.network .invalidValues)
  ensure (decide (max ≤ percentageFactor)) (.network .invalidPercent)
  .ok { c with
    callParams := { c.callParams with minMinSubnetNodeReputation := min }
    bounds := { c.bounds with maxMinSubnetNodeReputation := max } }

/-- `do_set_max_subnet_node_min_weight_decrease_reputation_threshold`. -/
def setMaxSubnetNodeMinWeightDecreaseReputationThreshold (value : ℕ) :
    Except SettingError (SettingsChain A) := do
  ensure (decide (value ≤ percentageFactor)) (.network .invalidPercent)
  .ok { c with bounds := { c.bounds with
    maxSubnetNodeMinWeightDecreaseReputationThreshold := value } }

/-- `do_set_network_max_stake_balance`. -/
def setNetworkMaxStakeBalance (value : ℕ) : Except SettingError (SettingsChain A) :=
  .ok { c with callParams := { c.callParams with networkMaxStakeBalance := value } }

/-- `do_set_subnet_delegate_stake_rewards_update_period`. -/
def setSubnetDelegateStakeRewardsUpdatePeriod (value : ℕ) :
    Except SettingError (SettingsChain A) :=
  .ok { c with bounds := { c.bounds with subnetDelegateStakeRewardsUpdatePeriod := value } }

/-- `do_set_max_subnet_delegate_stake_rewards_percentage_change`. -/
def setMaxSubnetDelegateStakeRewardsPercentageChange (value : ℕ) :
    Except SettingError (SettingsChain A) :=
  .ok { c with bounds := { c.bounds with maxSubnetDelegateStakeRewardsPercentageChange := value } }

/-- `do_set_max_bootnodes`. -/
def setMaxBootnodes (value : ℕ) : Except SettingError (SettingsChain A) := do
  ensure (decide (value ≤ 256)) .invalidMaxBootnodes
  .ok { c with callParams := { c.callParams with maxBootnodes := value } }

/-- `do_set_max_subnet_bootnodes_access`. -/
def setMaxSubnetBootnodesAccess (value : ℕ) : Except SettingError (SettingsChain A) := do
  ensure (decide (value ≤ 256)) .invalidMaxSubnetBootnodeAccess
  .ok { c with bounds := { c.bounds with maxSubnetBootnodeAccess := value } }

end SettingsChain

/-- A setter of the collective. -/
inductive LimitOp where
  | setChurnLimits (min max : ℕ)
  | setQueueEpochs (min max : ℕ)
  | setIncludedClassificationEpochs (min max : ℕ)
  | setMinMaxRegisteredNodes (min max : ℕ)
  | setSubnetStakes (min max : ℕ)
  | setDelegateStakePercentages (min max : ℕ)
  | setMinMaxNodeReputation (min max : ℕ)
  | setMaxSubnetNodeMinWeightDecreaseReputationThreshold (value : ℕ)
  | setNetworkMaxStakeBalance (value : ℕ)
  | setSubnetDelegateStakeRewardsUpdatePeriod (value : ℕ)
  | setMaxSubnetDelegateStakeRewardsPercentageChange (value : ℕ)
  | setMaxBootnodes (value : ℕ)
  | setMaxSubnetBootnodesAccess (value : ℕ)
deriving DecidableEq, Repr

def LimitOp.call (c : SettingsChain A) : LimitOp → Except SettingError (SettingsChain A)
  | setChurnLimits min max => c.setChurnLimits min max
  | setQueueEpochs min max => c.setQueueEpochs min max
  | setIncludedClassificationEpochs min max => c.setIncludedClassificationEpochs min max
  | setMinMaxRegisteredNodes min max => c.setMinMaxRegisteredNodes min max
  | setSubnetStakes min max => c.setSubnetStakes min max
  | setDelegateStakePercentages min max => c.setDelegateStakePercentages min max
  | setMinMaxNodeReputation min max => c.setMinMaxNodeReputation min max
  | setMaxSubnetNodeMinWeightDecreaseReputationThreshold value =>
      c.setMaxSubnetNodeMinWeightDecreaseReputationThreshold value
  | setNetworkMaxStakeBalance value => c.setNetworkMaxStakeBalance value
  | setSubnetDelegateStakeRewardsUpdatePeriod value =>
      c.setSubnetDelegateStakeRewardsUpdatePeriod value
  | setMaxSubnetDelegateStakeRewardsPercentageChange value =>
      c.setMaxSubnetDelegateStakeRewardsPercentageChange value
  | setMaxBootnodes value => c.setMaxBootnodes value
  | setMaxSubnetBootnodesAccess value => c.setMaxSubnetBootnodesAccess value

/-! ## The machine -/

/-- What any other call leaves of `c`, whatever it does. It adds and removes no subnet. -/
def SettingsChain.keepSettings (c c' : SettingsChain A) : SettingsChain A :=
  { c' with
    block := c.block
    bounds := c.bounds
    params := { c'.params with maxDelegateStakePercentage := c.params.maxDelegateStakePercentage }
    callParams := { c'.callParams with
      minMinSubnetNodeReputation := c.callParams.minMinSubnetNodeReputation
      maxBootnodes := c.callParams.maxBootnodes
      minSubnetMinStake := c.callParams.minSubnetMinStake
      maxSubnetMinStake := c.callParams.maxSubnetMinStake
      networkMaxStakeBalance := c.callParams.networkMaxStakeBalance
      minDelegateStakePercentage := c.callParams.minDelegateStakePercentage }
    admission := { c'.admission with totalSubnetUids := c.admission.totalSubnetUids }
    subnets := { c'.subnets with
      subnetsData := if c'.subnets.subnetsData.keys = c.subnets.subnetsData.keys
        then c'.subnets.subnetsData else c.subnets.subnetsData
      subnetMinStakeBalance := c.subnets.subnetMinStakeBalance
      subnetMaxStakeBalance := c.subnets.subnetMaxStakeBalance }
    registry := { c'.registry with
      pendingSubnetOwner := c.registry.pendingSubnetOwner
      churnLimit := c.registry.churnLimit
      subnetNodeQueueEpochs := c.registry.subnetNodeQueueEpochs
      maxRegisteredNodes := c.registry.maxRegisteredNodes
      targetNodeRegistrationsPerEpoch := c.registry.targetNodeRegistrationsPerEpoch
      queueImmunityEpochs := c.registry.queueImmunityEpochs
      lastSubnetDelegateStakeRewardsUpdate := c.registry.lastSubnetDelegateStakeRewardsUpdate
      subnetBootnodeAccess := c.registry.subnetBootnodeAccess
      subnetBootnodes := c.registry.subnetBootnodes }
    emission := { c'.emission with
      subnetOwner := c.emission.subnetOwner
      includedClassificationEpochs := c.emission.includedClassificationEpochs
      minSubnetNodeReputation := c.emission.minSubnetNodeReputation
      subnetNodeMinWeightDecreaseReputationThreshold :=
        c.emission.subnetNodeMinWeightDecreaseReputationThreshold
      subnetDelegateStakeRewardsPercentage := c.emission.subnetDelegateStakeRewardsPercentage } }

/-- What can happen to the settings. -/
inductive SettingOp (A : Type) where
  | update (k : Setting) (coldkey : A) (subnetId value : ℕ)
  | ownerUpdateMinMaxStake (coldkey : A) (subnetId min max : ℕ)
  | ownerUpdateDelegateStakePercentage (coldkey : A) (subnetId value : ℕ)
  | transferSubnetOwnership (coldkey : A) (subnetId : ℕ) (newOwner : A)
  | acceptSubnetOwnership (coldkey : A) (subnetId : ℕ)
  | ownerAddBootnodeAccess (coldkey : A) (subnetId : ℕ) (newAccount : A)
  | ownerRemoveBootnodeAccess (coldkey : A) (subnetId : ℕ) (removeAccount : A)
  | updateBootnodes (accountId : A) (subnetId : ℕ) (add : List (List UInt8 × List UInt8))
      (remove : Finset (List UInt8))
  | registerSubnet (owner : A) (maxCost : ℕ) (d : RegistrationSubnetData)
  | activateSubnet (coldkey : A) (subnetId : ℕ)
  /-- `do_remove_subnet`, whatever it is called by. -/
  | removeSubnet (subnetId : ℕ)
  | limit (op : LimitOp)
  /-- The block number goes up. What the hook does is removals and `other`. -/
  | tick
  /-- Any other call. -/
  | other (c : SettingsChain A)

namespace SettingOp

variable [DecidableEq A] (rt : Runtime A)

/-- The chain after a label. A call that fails changes nothing. -/
def step (c : SettingsChain A) : SettingOp A → SettingsChain A
  | update k coldkey subnetId value => commit c (c.update k coldkey subnetId value)
  | ownerUpdateMinMaxStake coldkey subnetId min max =>
      commit c (c.ownerUpdateMinMaxStake coldkey subnetId min max)
  | ownerUpdateDelegateStakePercentage coldkey subnetId value =>
      commit c (c.ownerUpdateDelegateStakePercentage coldkey subnetId value)
  | transferSubnetOwnership coldkey subnetId newOwner =>
      commit c (c.transferSubnetOwnership coldkey subnetId newOwner)
  | acceptSubnetOwnership coldkey subnetId => commit c (c.acceptSubnetOwnership coldkey subnetId)
  | ownerAddBootnodeAccess coldkey subnetId newAccount =>
      commit c (c.ownerAddBootnodeAccess coldkey subnetId newAccount)
  | ownerRemoveBootnodeAccess coldkey subnetId removeAccount =>
      commit c (c.ownerRemoveBootnodeAccess coldkey subnetId removeAccount)
  | updateBootnodes accountId subnetId add remove =>
      commit c (c.updateBootnodes rt accountId subnetId add remove)
  | registerSubnet owner maxCost d =>
      { c with toChain := commit c.toChain (c.registerSubnet rt owner maxCost d) }
  | activateSubnet coldkey subnetId =>
      { c with toChain := commit c.toChain (c.activateSubnet rt coldkey subnetId) }
  | removeSubnet subnetId => { c with toChain := (c.doRemoveSubnet rt subnetId).1 }
  | limit op => commit c (op.call c)
  | tick => { c with block := if c.block < u32Max then c.block + 1 else c.block }
  | other c' => c.keepSettings c'

/-- A registration finds an id that has not been given out. -/
def IdsLeft (c : SettingsChain A) : SettingOp A → Prop
  | registerSubnet _ _ _ => c.admission.totalSubnetUids < u32Max
  | _ => True

end SettingOp

/-! ## What is written -/

/-- What owners and bootnode operators have set, and the time. -/
structure Settings (A : Type) where
  block : ℕ
  subnetIds : Finset ℕ
  totalSubnetUids : ℕ
  owner : StorageMap ℕ A
  pendingOwner : StorageMap ℕ A
  stored : Setting → StorageMap ℕ ℕ
  minStake : StorageMap ℕ ℕ
  maxStake : StorageMap ℕ ℕ
  percentage : StorageMap ℕ ℕ
  lastUpdate : StorageMap ℕ ℕ
  bootnodeAccess : StorageMap ℕ (Finset A)
  bootnodes : StorageMap ℕ (StorageMap (List UInt8) (List UInt8))

/-- The settings of a chain. -/
def Chain.settings (c : Chain A) : Settings A where
  block := c.block
  subnetIds := c.subnets.subnetsData.keys
  totalSubnetUids := c.admission.totalSubnetUids
  owner := c.emission.subnetOwner
  pendingOwner := c.registry.pendingSubnetOwner
  stored := c.stored
  minStake := c.subnets.subnetMinStakeBalance
  maxStake := c.subnets.subnetMaxStakeBalance
  percentage := c.emission.subnetDelegateStakeRewardsPercentage
  lastUpdate := c.registry.lastSubnetDelegateStakeRewardsUpdate
  bootnodeAccess := c.registry.subnetBootnodeAccess
  bootnodes := c.registry.subnetBootnodes

namespace Settings

variable (s : Settings A)

/-- A setting is stored. -/
def store (k : Setting) (i value : ℕ) : Settings A :=
  { s with stored := Function.update s.stored k ((s.stored k).set i value) }

/-- Nothing of the subnet is left. -/
def remove (i : ℕ) : Settings A where
  block := s.block
  subnetIds := s.subnetIds.erase i
  totalSubnetUids := s.totalSubnetUids
  owner := s.owner.remove i
  pendingOwner := s.pendingOwner.remove i
  stored k := (s.stored k).remove i
  minStake := s.minStake.remove i
  maxStake := s.maxStake.remove i
  percentage := s.percentage.remove i
  lastUpdate := s.lastUpdate.remove i
  bootnodeAccess := s.bootnodeAccess.remove i
  bootnodes := s.bootnodes.remove i

/-- A subnet is registered. -/
def register (i : ℕ) (owner : A) (d : RegistrationSubnetData) : Settings A :=
  { s with
    subnetIds := insert i s.subnetIds
    totalSubnetUids := i
    owner := s.owner.set i owner
    minStake := s.minStake.set i d.minStake
    maxStake := s.maxStake.set i d.maxStake
    percentage := s.percentage.set i d.delegateStakePercentage
    bootnodes := s.bootnodes.set i (d.bootnodes.foldl (fun m b => m.set b.1 b.2) ∅) }

end Settings

/-! ## What each operation writes -/

section Writes

variable [DecidableEq A] {rt : Runtime A}

/-- The settings that a label leaves, and why it may. -/
inductive Writes (rt : Runtime A) (c : SettingsChain A) : SettingOp A → Settings A → Prop
  | keep (op : SettingOp A) : Writes rt c op c.settings
  | update {k : Setting} {coldkey : A} {i value : ℕ} (hok : ∃ c', c.update k coldkey i value = .ok c')
      (howner : c.emission.subnetOwner.find? i = some coldkey) :
      Writes rt c (.update k coldkey i value) (c.settings.store k i value)
  | stakes {coldkey : A} {i min max : ℕ} (howner : c.emission.subnetOwner.find? i = some coldkey)
      (hle : min ≤ max) : Writes rt c (.ownerUpdateMinMaxStake coldkey i min max)
        { c.settings with
          minStake := c.settings.minStake.set i min
          maxStake := c.settings.maxStake.set i max }
  | percentage {coldkey : A} {i value : ℕ} (howner : c.emission.subnetOwner.find? i = some coldkey)
      (htime : wrapAdd 32 (c.settings.lastUpdate.val i)
        c.bounds.subnetDelegateStakeRewardsUpdatePeriod < c.block)
      (hdist : Nat.dist (c.delegateStakeRewardsPercentage i) value ≤
        c.bounds.maxSubnetDelegateStakeRewardsPercentageChange)
      (hle : value ≤ percentageFactor) :
      Writes rt c (.ownerUpdateDelegateStakePercentage coldkey i value)
        { c.settings with
          lastUpdate := c.settings.lastUpdate.set i c.block
          percentage := c.settings.percentage.set i value }
  | transfer {coldkey : A} {i : ℕ} {newOwner : A}
      (howner : c.emission.subnetOwner.find? i = some coldkey) :
      Writes rt c (.transferSubnetOwnership coldkey i newOwner)
        { c.settings with pendingOwner := c.settings.pendingOwner.set i newOwner }
  | accept {coldkey : A} {i : ℕ} (hpending : c.registry.pendingSubnetOwner.find? i = some coldkey)
      (howned : c.emission.subnetOwner.contains i = true) :
      Writes rt c (.acceptSubnetOwnership coldkey i)
        { c.settings with
          owner := c.settings.owner.set i coldkey
          pendingOwner := c.settings.pendingOwner.remove i }
  | addAccess {coldkey : A} {i : ℕ} {account : A}
      (howner : c.emission.subnetOwner.find? i = some coldkey)
      (hcard : (insert account (c.bootnodeAccess i)).card ≤ c.bounds.maxSubnetBootnodeAccess) :
      Writes rt c (.ownerAddBootnodeAccess coldkey i account)
        { c.settings with bootnodeAccess :=
            c.settings.bootnodeAccess.set i (insert account (c.bootnodeAccess i)) }
  | removeAccess {coldkey : A} {i : ℕ} {account : A}
      (howner : c.emission.subnetOwner.find? i = some coldkey) :
      Writes rt c (.ownerRemoveBootnodeAccess coldkey i account)
        { c.settings with bootnodeAccess :=
            c.settings.bootnodeAccess.set i ((c.bootnodeAccess i).erase account) }
  | bootnodes {accountId : A} {i : ℕ} {add : List (List UInt8 × List UInt8)}
      {remove : Finset (List UInt8)} {m : StorageMap (List UInt8) (List UInt8)}
      (hi : c.subnets.subnetsData.contains i = true)
      (haccess : c.emission.subnetOwner.find? i = some accountId ∨ accountId ∈ c.bootnodeAccess i)
      (hadd : SettingsChain.addBootnodes rt
        ((c.bootnodes i).filter fun peerId _ => decide (peerId ∉ remove)) add = .ok m)
      (hcard : m.keys.card ≤ c.callParams.maxBootnodes) :
      Writes rt c (.updateBootnodes accountId i add remove)
        { c.settings with bootnodes := c.settings.bootnodes.set i m }
  | register {owner : A} {maxCost : ℕ} {d : RegistrationSubnetData}
      (hdata : c.ensureRegistrationSubnetData rt d = .ok ()) :
      Writes rt c (.registerSubnet owner maxCost d) (c.settings.register c.nextSubnetId owner d)
  | start {coldkey : A} {i : ℕ} (hi : c.subnets.subnetsData.contains i = true) :
      Writes rt c (.activateSubnet coldkey i)
        { c.settings with lastUpdate := c.settings.lastUpdate.set i c.block }
  | expire {coldkey : A} {i : ℕ} :
      Writes rt c (.activateSubnet coldkey i) (c.settings.remove i)
  | remove {i : ℕ} : Writes rt c (.removeSubnet i) (c.settings.remove i)
  | tick {block : ℕ} (hle : c.block ≤ block) : Writes rt c .tick { c.settings with block := block }

namespace SettingsChain

variable {c c' : SettingsChain A} {coldkey : A} {i : ℕ}

/-- Who passes the check owns the subnet. -/
theorem ensureOwner_ok {u : Unit} (h : c.ensureOwner coldkey i = .ok u) :
    c.emission.subnetOwner.find? i = some coldkey := by
  rcases bind_ok.mp h with ⟨_, -, hown⟩
  exact of_decide_eq_true (ensure_ok.mp hown)

/-- The calls that set one value have in common that the owner signs, the value is allowed, and only
the setting is written. -/
theorem ownerUpdate_ok {k : Setting} {allowed : Except SettingError Unit} {value : ℕ}
    (h : c.ownerUpdate k allowed coldkey i value = .ok c') :
    c.emission.subnetOwner.find? i = some coldkey ∧ allowed = .ok () ∧
      c' = { c with toChain := c.storeSetting k i value } := by
  rcases bind_ok.mp h with ⟨_, hown, h⟩
  rcases bind_ok.mp h with ⟨⟨⟩, hallowed, h⟩
  cases h
  exact ⟨ensureOwner_ok hown, hallowed, rfl⟩

omit [DecidableEq A] in
/-- A setting that is stored is one of them all. -/
theorem storeSetting_settings (c : Chain A) (k : Setting) (i value : ℕ) :
    (c.storeSetting k i value).settings = c.settings.store k i value := by
  unfold Chain.settings Settings.store
  have hstored : (c.storeSetting k i value).stored =
      Function.update c.stored k ((c.stored k).set i value) := by
    funext k'
    by_cases hk : k' = k
    · subst hk
      rw [Function.update_self]
      cases k' <;> rfl
    · rw [Function.update_of_ne hk]
      cases k <;> cases k' <;> first | rfl | exact absurd rfl hk
  rw [hstored]
  cases k <;> rfl

/-- The calls that set one value. -/
theorem update_ok {k : Setting} {value : ℕ} (h : c.update k coldkey i value = .ok c') :
    c.emission.subnetOwner.find? i = some coldkey ∧
      c' = { c with toChain := c.storeSetting k i value } := by
  cases k <;> exact ⟨(ownerUpdate_ok h).1, (ownerUpdate_ok h).2.2⟩

/-- Each of these calls writes one setting. -/
theorem update_writes {k : Setting} {value : ℕ} (h : c.update k coldkey i value = .ok c') :
    Writes rt c (.update k coldkey i value) c'.settings := by
  rcases update_ok h with ⟨howner, rfl⟩
  have hsettings : (c.storeSetting k i value).settings = c.settings.store k i value :=
    storeSetting_settings ..
  show Writes rt c _ (c.storeSetting k i value).settings
  rw [hsettings]
  exact .update ⟨_, h⟩ howner

/-- The bounds of the stake are written together, in order. -/
theorem ownerUpdateMinMaxStake_writes {min max : ℕ}
    (h : c.ownerUpdateMinMaxStake coldkey i min max = .ok c') :
    Writes rt c (.ownerUpdateMinMaxStake coldkey i min max) c'.settings := by
  rcases bind_ok.mp h with ⟨_, hown, h⟩
  rcases ensure_bind_ok.mp h with ⟨hle, h⟩
  rcases ensure_bind_ok.mp h with ⟨-, h⟩
  rcases ensure_bind_ok.mp h with ⟨-, h⟩
  cases h
  exact .stakes (ensureOwner_ok hown) (of_decide_eq_true hle)

/-- The percentage is written after the period, with a bounded change. -/
theorem ownerUpdateDelegateStakePercentage_writes {value : ℕ}
    (h : c.ownerUpdateDelegateStakePercentage coldkey i value = .ok c') :
    Writes rt c (.ownerUpdateDelegateStakePercentage coldkey i value) c'.settings := by
  rcases bind_ok.mp h with ⟨_, hown, h⟩
  rcases ensure_bind_ok.mp h with ⟨htime, h⟩
  rcases ensure_bind_ok.mp h with ⟨hdist, h⟩
  rcases ensure_bind_ok.mp h with ⟨hbounds, h⟩
  cases h
  exact .percentage (ensureOwner_ok hown) (of_decide_eq_true htime) (of_decide_eq_true hdist)
    (of_decide_eq_true hbounds).2.2

/-- The owner offers the subnet. -/
theorem transferSubnetOwnership_writes {newOwner : A}
    (h : c.transferSubnetOwnership coldkey i newOwner = .ok c') :
    Writes rt c (.transferSubnetOwnership coldkey i newOwner) c'.settings := by
  rcases bind_ok.mp h with ⟨_, hown, h⟩
  cases h
  exact .transfer (ensureOwner_ok hown)

/-- Who it is offered to takes it. -/
theorem acceptSubnetOwnership_writes (h : c.acceptSubnetOwnership coldkey i = .ok c') :
    Writes rt c (.acceptSubnetOwnership coldkey i) c'.settings := by
  rcases bind_ok.mp h with ⟨_, -, h⟩
  rcases okOr_bind_ok.mp h with ⟨pendingOwner, hpending, h⟩
  rcases ensure_bind_ok.mp h with ⟨hsame, h⟩
  rcases ensure_bind_ok.mp h with ⟨howned, h⟩
  cases h
  have hsame' : coldkey = pendingOwner := of_decide_eq_true hsame
  subst hsame'
  exact .accept hpending howned

/-- The owner lets an account write bootnodes. -/
theorem ownerAddBootnodeAccess_writes {account : A}
    (h : c.ownerAddBootnodeAccess coldkey i account = .ok c') :
    Writes rt c (.ownerAddBootnodeAccess coldkey i account) c'.settings := by
  rcases bind_ok.mp h with ⟨_, hown, h⟩
  rcases ensure_bind_ok.mp h with ⟨-, h⟩
  rcases ensure_bind_ok.mp h with ⟨hcard, h⟩
  cases h
  exact .addAccess (ensureOwner_ok hown) (of_decide_eq_true hcard)

/-- The owner takes that back. -/
theorem ownerRemoveBootnodeAccess_writes {account : A}
    (h : c.ownerRemoveBootnodeAccess coldkey i account = .ok c') :
    Writes rt c (.ownerRemoveBootnodeAccess coldkey i account) c'.settings := by
  rcases bind_ok.mp h with ⟨_, hown, h⟩
  rcases ensure_bind_ok.mp h with ⟨-, h⟩
  cases h
  exact .removeAccess (ensureOwner_ok hown)

/-- The owner, or whom it has let, writes bootnodes. -/
theorem updateBootnodes_writes {add : List (List UInt8 × List UInt8)}
    {remove : Finset (List UInt8)} (h : c.updateBootnodes rt coldkey i add remove = .ok c') :
    Writes rt c (.updateBootnodes coldkey i add remove) c'.settings := by
  rcases bind_ok.mp h with ⟨_, -, h⟩
  rcases ensure_bind_ok.mp h with ⟨hi, h⟩
  rcases ensure_bind_ok.mp h with ⟨haccess, h⟩
  rcases bind_ok.mp h with ⟨m, hadd, h⟩
  rcases ensure_bind_ok.mp h with ⟨hcard, h⟩
  cases h
  refine .bootnodes hi ?_ hadd (of_decide_eq_true hcard)
  rcases Bool.or_eq_true_iff.mp haccess with howner | hlisted
  · exact Or.inl (of_decide_eq_true howner)
  · exact Or.inr (of_decide_eq_true hlisted)

end SettingsChain

namespace Chain

variable {c c' : Chain A} {coldkey : A} {i : ℕ}

omit [DecidableEq A] in
/-- A removal leaves nothing of the subnet's settings, or there was no subnet. -/
theorem doRemoveSubnet_settings (rt : Runtime A) (c : Chain A) (i : ℕ) :
    (c.doRemoveSubnet rt i).1.settings = c.settings ∨
      (c.doRemoveSubnet rt i).1.settings = c.settings.remove i := by
  unfold Chain.doRemoveSubnet
  cases c.subnets.subnetsData.find? i with
  | none => exact Or.inl rfl
  | some data =>
      right
      have hkeys : (c.subnets.subnetsData.remove i).keys = c.subnets.subnetsData.keys.erase i :=
        StorageMap.keys_remove ..
      unfold Chain.settings Settings.remove
      dsimp only [Chain.cleanSubnetNodes, Registry.removeSubnet, Registry.freeSlotOfSubnet,
        Subnets.removeSubnet, Emission.removeSubnet]
      rw [← hkeys]
      -- the slot is no setting
      cases c.registry.subnetSlot.find? i with
      | none =>
          congr 1
          funext k
          cases k <;> rfl
      | some slot =>
          congr 1
          funext k
          cases k <;> rfl

/-- The cost of a registration is paid out of balances. -/
theorem payRegistrationCost_settings {owner : A} {cost : ℕ}
    (h : c.payRegistrationCost rt owner cost = .ok c') : c'.settings = c.settings := by
  unfold payRegistrationCost at h
  split at h
  · rcases okOr_bind_ok.mp h with ⟨s, hs, h⟩
    unfold State.removeBalance at hs
    split at hs
    · cases hs
      cases h
      rfl
    · cases hs
  · cases h
    rfl

omit [DecidableEq A] in
/-- A new subnet is entered with what its data says. -/
theorem enterSubnet_settings {owner : A} {d : RegistrationSubnetData} {slot cost : ℕ} :
    (c.enterSubnet rt owner d i slot cost).settings = c.settings.register i owner d := by
  have hkeys : (c.subnets.subnetsData.set i ⟨d.name, d.repo, .registered, u32Max⟩).keys =
      insert i c.subnets.subnetsData.keys := StorageMap.keys_set ..
  unfold Chain.settings Settings.register
  dsimp only [Chain.enterSubnet, registerInRegistry, insertSubnetSlotAssignment]
  rw [hkeys]
  congr 1

/-- A registration is checked, and then entered under the next id. -/
theorem registerSubnet_settings {owner : A} {maxCost : ℕ} {d : RegistrationSubnetData}
    (h : c.registerSubnet rt owner maxCost d = .ok c') :
    c.ensureRegistrationSubnetData rt d = .ok () ∧
      c'.settings = c.settings.register c.nextSubnetId owner d := by
  rcases bind_ok.mp h with ⟨_, -, h⟩
  rcases ensure_bind_ok.mp h with ⟨-, h⟩
  rcases bind_ok.mp h with ⟨⟨⟩, hdata, h⟩
  rcases ensure_bind_ok.mp h with ⟨-, h⟩
  rcases ensure_bind_ok.mp h with ⟨-, h⟩
  rcases bind_ok.mp h with ⟨slot, -, h⟩
  rcases bind_ok.mp h with ⟨c₁, hpay, h⟩
  cases h
  refine ⟨hdata, ?_⟩
  rw [enterSubnet_settings, payRegistrationCost_settings hpay]

/-- A subnet starts, or it is too late for it. -/
theorem activateSubnet_settings (h : c.activateSubnet rt coldkey i = .ok c') :
    c'.settings = c.settings ∨ c'.settings = c.settings.remove i ∨
      c.subnets.subnetsData.contains i = true ∧ c'.settings = { c.settings with
        lastUpdate := c.settings.lastUpdate.set i c.block } := by
  rcases bind_ok.mp h with ⟨_, -, h⟩
  rcases ensure_bind_ok.mp h with ⟨-, h⟩
  rcases okOr_bind_ok.mp h with ⟨subnet, hsubnet, h⟩
  rcases ensure_bind_ok.mp h with ⟨-, h⟩
  rcases ensure_bind_ok.mp h with ⟨-, h⟩
  have hcontains : c.subnets.subnetsData.contains i = true := by
    unfold StorageMap.contains
    rw [hsubnet]
    rfl
  -- a subnet that asks too late is removed instead
  have hremove : (c.doRemoveSubnet rt i).1.settings = c.settings ∨
      (c.doRemoveSubnet rt i).1.settings = c.settings.remove i ∨
      c.subnets.subnetsData.contains i = true ∧ (c.doRemoveSubnet rt i).1.settings =
        { c.settings with lastUpdate := c.settings.lastUpdate.set i c.block } := by
    rcases doRemoveSubnet_settings rt c i with hkeep | hremoved
    · exact Or.inl hkeep
    · exact Or.inr (Or.inl hremoved)
  dsimp only at h
  split at h
  · cases h
    exact hremove
  · split at h
    · cases h
    · split at h
      · cases h
        exact hremove
      · cases h
        refine Or.inr (Or.inr ⟨hcontains, ?_⟩)
        -- the subnet was there, so its entry is only written over
        have hkeys : ∀ data, (c.subnets.subnetsData.set i data).keys = c.subnets.subnetsData.keys := by
          intro data
          rw [StorageMap.keys_set]
          exact Finset.insert_eq_self.mpr (StorageMap.mem_keys.mpr ⟨subnet, hsubnet⟩)
        unfold Chain.settings
        dsimp only [Chain.startSubnet, Chain.setSubnetData]
        rw [hkeys]
        congr 1

end Chain

omit [DecidableEq A] in
/-- The label for all other calls keeps the settings by its definition. -/
theorem SettingsChain.keepSettings_settings (c c' : SettingsChain A) :
    (c.keepSettings c').settings = c.settings := by
  have hkeys : (if c'.subnets.subnetsData.keys = c.subnets.subnetsData.keys
      then c'.subnets.subnetsData else c.subnets.subnetsData).keys =
        c.subnets.subnetsData.keys := by
    split
    · next h => exact h
    · rfl
  unfold Chain.settings
  dsimp only [SettingsChain.keepSettings]
  rw [hkeys]
  congr 1

omit [DecidableEq A] in
/-- The collective sets bounds, and no setting. -/
theorem LimitOp.call_settings {c c' : SettingsChain A} {op : LimitOp} (h : op.call c = .ok c') :
    c'.settings = c.settings := by
  have hsettings : ∀ c' : SettingsChain A, c'.block = c.block → c'.subnets = c.subnets →
      c'.admission = c.admission → c'.emission = c.emission → c'.registry = c.registry →
      c'.settings = c.settings := by
    intro c' hblock hsubnets hadmission hemission hregistry
    unfold Chain.settings
    rw [hblock, hsubnets, hadmission, hemission, hregistry]
    congr 1
    funext k
    unfold Chain.stored
    rw [hemission, hregistry]
  cases op with
  | setNetworkMaxStakeBalance value =>
      cases h
      exact hsettings _ rfl rfl rfl rfl rfl
  | setSubnetDelegateStakeRewardsUpdatePeriod value =>
      cases h
      exact hsettings _ rfl rfl rfl rfl rfl
  | setMaxSubnetDelegateStakeRewardsPercentageChange value =>
      cases h
      exact hsettings _ rfl rfl rfl rfl rfl
  | setDelegateStakePercentages min max =>
      rcases ensure_bind_ok.mp h with ⟨-, h⟩
      rcases ensure_bind_ok.mp h with ⟨-, h⟩
      cases h
      exact hsettings _ rfl rfl rfl rfl rfl
  | setMinMaxNodeReputation min max =>
      rcases ensure_bind_ok.mp h with ⟨-, h⟩
      rcases ensure_bind_ok.mp h with ⟨-, h⟩
      cases h
      exact hsettings _ rfl rfl rfl rfl rfl
  | _ =>
      rcases ensure_bind_ok.mp h with ⟨-, h⟩
      cases h
      exact hsettings _ rfl rfl rfl rfl rfl

/-- A label writes the settings in these ways, or not at all. -/
theorem SettingOp.step_writes (c : SettingsChain A) (op : SettingOp A) :
    Writes rt c op (op.step rt c).settings := by
  -- a call that fails keeps them
  have hcall : ∀ {x : Except SettingError (SettingsChain A)},
      (∀ c', x = .ok c' → Writes rt c op c'.settings) → Writes rt c op (commit c x).settings := by
    intro x hok
    exact commit_induction (P := fun c' : SettingsChain A => Writes rt c op c'.settings)
      (.keep op) hok
  cases op with
  | update k coldkey i value => exact hcall fun _ => SettingsChain.update_writes
  | ownerUpdateMinMaxStake coldkey i min max =>
      exact hcall fun _ => SettingsChain.ownerUpdateMinMaxStake_writes
  | ownerUpdateDelegateStakePercentage coldkey i value =>
      exact hcall fun _ => SettingsChain.ownerUpdateDelegateStakePercentage_writes
  | transferSubnetOwnership coldkey i newOwner =>
      exact hcall fun _ => SettingsChain.transferSubnetOwnership_writes
  | acceptSubnetOwnership coldkey i =>
      exact hcall fun _ => SettingsChain.acceptSubnetOwnership_writes
  | ownerAddBootnodeAccess coldkey i account =>
      exact hcall fun _ => SettingsChain.ownerAddBootnodeAccess_writes
  | ownerRemoveBootnodeAccess coldkey i account =>
      exact hcall fun _ => SettingsChain.ownerRemoveBootnodeAccess_writes
  | updateBootnodes accountId i add remove =>
      exact hcall fun _ => SettingsChain.updateBootnodes_writes
  | registerSubnet owner maxCost d =>
      refine commit_induction (P := fun c' : Chain A =>
        Writes rt c (.registerSubnet owner maxCost d) c'.settings) (.keep _) ?_
      intro c' hok
      rcases Chain.registerSubnet_settings hok with ⟨hdata, hsettings⟩
      rw [hsettings]
      exact .register hdata
  | activateSubnet coldkey i =>
      refine commit_induction (P := fun c' : Chain A =>
        Writes rt c (.activateSubnet coldkey i) c'.settings) (.keep _) ?_
      intro c' hok
      rcases Chain.activateSubnet_settings hok with hkeep | hremoved | ⟨hi, hstart⟩
      · rw [hkeep]
        exact .keep _
      · rw [hremoved]
        exact .expire
      · rw [hstart]
        exact .start hi
  | removeSubnet i =>
      show Writes rt c _ (c.doRemoveSubnet rt i).1.settings
      rcases Chain.doRemoveSubnet_settings rt c.toChain i with hkeep | hremoved
      · rw [hkeep]
        exact .keep _
      · rw [hremoved]
        exact .remove
  | limit op =>
      refine hcall fun c' hok => ?_
      rw [LimitOp.call_settings hok]
      exact .keep _
  | tick =>
      refine .tick ?_
      show c.block ≤ if c.block < u32Max then c.block + 1 else c.block
      split
      · exact Nat.le_succ c.block
      · exact le_rfl
  | other c' =>
      show Writes rt c _ (c.keepSettings c').settings
      rw [SettingsChain.keepSettings_settings]
      exact .keep _

end Writes

end Hypertensor
