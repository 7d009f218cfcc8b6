import Mathlib
import Hypertensor.Lifecycle.Factors
import Hypertensor.Lifecycle.Settings
import Hypertensor.Overwatch.CommitReveal
import Hypertensor.Pallet.BurnRate
import Hypertensor.Swap.Calls

/-!
# Hypertensor.Proxy.Calls — the calls of the runtime

What an account may sign, as far as the filters of its proxies tell calls apart, and what the
calls of the network pallet do to the storage that they share.

* `RuntimeCall`: the calls of all pallets.
* `NetworkCall.step`: the network pallet after a call.
-/

namespace Hypertensor

open Base

variable {A H : Type}

/-! ## Keys and texts -/

section Texts

variable [DecidableEq A]

/-- `update_node_hotkey`. The new hotkey may be that of another node. -/
def Chain.updateNodeHotkey (c : Chain A) (coldkey : A) (subnetId subnetNodeId : ℕ)
    (newHotkey : Option A) : Except Error (Chain A) := do
  c.isPaused
  let owner ← c.nodeColdkey subnetId subnetNodeId
  ensure (decide (coldkey = owner.2)) .invalidValidator
  .ok { c with nodes := { c.nodes with
    subnetNodeIdHotkey := match newHotkey with
      | some hotkey => c.nodes.subnetNodeIdHotkey.set (subnetId, subnetNodeId) hotkey
      | none => c.nodes.subnetNodeIdHotkey.remove (subnetId, subnetNodeId) } }

/-- `update_overwatch_hotkey`. -/
def OverwatchChain.updateOverwatchHotkey (c : OverwatchChain A H) (coldkey : A)
    (overwatchNodeId : ℕ) (newHotkey : Option A) : Except Error (OverwatchChain A H) := do
  c.isPaused
  let validatorColdkey ← c.getOverwatchNodeAssociatedColdkey overwatchNodeId
  ensure (decide (validatorColdkey = coldkey)) .notKeyOwner
  .ok { c with
    overwatchNodeIdHotkey := match newHotkey with
      | some hotkey => c.overwatchNodeIdHotkey.set overwatchNodeId hotkey
      | none => c.overwatchNodeIdHotkey.remove overwatchNodeId }

/-- `owner_update_idle_classification_epochs`. -/
def CollectiveChain.updateIdleClassificationEpochs (c : CollectiveChain A) (coldkey : A)
    (subnetId value : ℕ) : Except Error (CollectiveChain A) := do
  c.isPaused
  c.ownerUpdateIdleClassificationEpochs coldkey subnetId value

/-- What `owner_update_description` and `owner_update_misc` check. Nothing reads the texts. -/
def Chain.ownerUpdateText (c : Chain A) (coldkey : A) (subnetId : ℕ) : Except Error (Chain A) := do
  c.isPaused
  ensure (c.isSubnetOwner coldkey subnetId) .notSubnetOwner
  ensure (c.subnets.subnetsData.contains subnetId) .invalidSubnetId
  .ok c

/-- What `update_validator_identity` checks. Nothing reads the identity. -/
def State.updateValidatorIdentity (s : State A) (coldkey : A) (validatorId : ℕ) :
    Except Error (State A) := do
  s.isPaused
  let validatorColdkey ← okOr (s.validators.validatorColdkey.find? validatorId) .invalidValidatorId
  ensure (decide (coldkey = validatorColdkey)) .notKeyOwner
  .ok s

end Texts

namespace Proxy

/-! ## Storage -/

/-- The storage of the network pallet, with what single groups of calls read. -/
structure Network (A H : Type) extends SettingsChain A, FactorChain A, OverwatchChain A H

namespace Network

variable (n : Network A H)

/-- The storage after a call that writes the chain. -/
def commitChain {ε : Type} (x : Except ε (Chain A)) : Network A H :=
  { n with toChain := commit n.toChain x }

/-- The storage after a call that writes what the staking calls write. -/
def commitStaking {ε : Type} (x : Except ε (State A)) : Network A H :=
  { n with toChain := n.toChain.commitState x }

/-- The storage after a call about the idle period. -/
def commitCollective {ε : Type} (x : Except ε (CollectiveChain A)) : Network A H :=
  { n with toCollectiveChain := commit n.toCollectiveChain x }

/-- The storage after a call that writes settings. -/
def commitSettings {ε : Type} (x : Except ε (SettingsChain A)) : Network A H :=
  { n with toSettingsChain := commit n.toSettingsChain x }

/-- The storage after a call about reputation factors. -/
def commitFactors {ε : Type} (x : Except ε (FactorChain A)) : Network A H :=
  let c := commit n.toFactorChain x
  { n with
    toChain := c.toChain
    subnetOwnerFactorCooldownEpochs := c.subnetOwnerFactorCooldownEpochs
    maxNodeReputationFactor := c.maxNodeReputationFactor }

/-- The storage after a call about overwatch nodes. -/
def commitOverwatch {ε : Type} (x : Except ε (OverwatchChain A H)) : Network A H :=
  let c := commit n.toOverwatchChain x
  { n with
    toChain := c.toChain
    totalOverwatchNodes := c.totalOverwatchNodes
    totalOverwatchNodeUids := c.totalOverwatchNodeUids
    overwatchNodeIdHotkey := c.overwatchNodeIdHotkey
    overwatchNodeIndex := c.overwatchNodeIndex
    overwatchValidatorWhitelist := c.overwatchValidatorWhitelist
    overwatchCommits := c.overwatchCommits
    maxOverwatchNodes := c.maxOverwatchNodes
    overwatchCommitCutoffPercent := c.overwatchCommitCutoffPercent
    overwatchMinDiversificationRatio := c.overwatchMinDiversificationRatio
    overwatchMinRepScore := c.overwatchMinRepScore
    overwatchMinAvgAttestationRatio := c.overwatchMinAvgAttestationRatio
    overwatchMinAge := c.overwatchMinAge }

end Network

/-! ## Calls of the network pallet -/

/-- A call of the network pallet, with the account that signs it. -/
inductive NetworkCall (A H : Type) where
  | staking (call : Call A)
  | validator (call : ValidatorCall A)
  | updateValidatorIdentity (coldkey : A) (validatorId : ℕ)
  | registerSubnet (owner : A) (maxCost : ℕ) (d : RegistrationSubnetData)
  | activateSubnet (coldkey : A) (subnetId : ℕ)
  | ownerPauseSubnet (coldkey : A) (subnetId : ℕ)
  | ownerUnpauseSubnet (coldkey : A) (subnetId : ℕ)
  | ownerDeactivateSubnet (coldkey : A) (subnetId : ℕ)
  | ownerUpdateName (coldkey : A) (subnetId : ℕ) (value : List UInt8)
  | ownerUpdateRepo (coldkey : A) (subnetId : ℕ) (value : List UInt8)
  /-- `owner_update_description` or `owner_update_misc`. -/
  | ownerUpdateText (coldkey : A) (subnetId : ℕ)
  | update (k : Setting) (coldkey : A) (subnetId value : ℕ)
  | ownerUpdateChurnLimitMultiplier (coldkey : A) (subnetId value : ℕ)
  | ownerUpdateIdleClassificationEpochs (coldkey : A) (subnetId value : ℕ)
  | ownerAddOrUpdateInitialValidators (coldkey : A) (subnetId : ℕ) (validators : StorageMap ℕ ℕ)
  | ownerRemoveInitialValidators (coldkey : A) (subnetId : ℕ) (validators : Finset ℕ)
  | ownerSetEmergencyValidatorSet (coldkey : A) (subnetId : ℕ) (subnetNodeIds : List ℕ)
  | ownerRevertEmergencyValidatorSet (coldkey : A) (subnetId : ℕ)
  | ownerUpdateMinMaxStake (coldkey : A) (subnetId min max : ℕ)
  | ownerUpdateDelegateStakePercentage (coldkey : A) (subnetId value : ℕ)
  | transferSubnetOwnership (coldkey : A) (subnetId : ℕ) (newOwner : A)
  | acceptSubnetOwnership (coldkey : A) (subnetId : ℕ)
  | ownerAddBootnodeAccess (coldkey : A) (subnetId : ℕ) (newAccount : A)
  | ownerRemoveBootnodeAccess (coldkey : A) (subnetId : ℕ) (removeAccount : A)
  | ownerUpdateNodeBurnRateAlpha (coldkey : A) (subnetId value : ℕ)
  | ownerUpdateReputationFactors (coldkey : A) (subnetId : ℕ)
      (updates : SubnetReputationFactorUpdates)
  | updateBootnodes (accountId : A) (subnetId : ℕ) (add : List (List UInt8 × List UInt8))
      (remove : Finset (List UInt8))
  | registerSubnetNode (coldkey : A) (r : SubnetNodeRegistration A)
  | updateNodeHotkey (coldkey : A) (subnetId subnetNodeId : ℕ) (newHotkey : Option A)
  | updateNode (coldkey : A) (subnetId subnetNodeId : ℕ) (u : NodeUpdate)
  | removeSubnetNode (coldkey : A) (subnetId subnetNodeId : ℕ)
  | proposeAttestation (hotkey : A) (subnetId subnetNodeId : ℕ) (data : List SubnetNodeConsensusData)
      (prioritizeQueueNodeId removeQueueNodeId : Option ℕ) (args attestData : Option (List UInt8))
  | attest (hotkey : A) (subnetId subnetNodeId : ℕ) (data : Option (List UInt8))
  | registerOverwatchNode (coldkey : A) (stakeToBeAdded : ℕ)
  | removeOverwatchNode (coldkey : A) (overwatchNodeId : ℕ)
  | updateOverwatchHotkey (coldkey : A) (overwatchNodeId : ℕ) (newHotkey : Option A)
  | setOverwatchNodePeerId (key : A) (subnetId overwatchNodeId : ℕ) (peerId : List UInt8)
  | commitOverwatchSubnetWeights (hotkey : A) (overwatchNodeId : ℕ)
      (commitWeights : List (OverwatchCommit H))
  | revealOverwatchSubnetWeights (hotkey : A) (overwatchNodeId : ℕ) (reveals : List OverwatchReveal)
  /-- Any call that asks for an origin of the collective, which nobody who signs has. -/
  | collective

namespace NetworkCall

variable [DecidableEq A] [DecidableEq H] (rt : Runtime A) (hash : ℕ × List UInt8 → H)

/-- The pallet after a call. A call that fails changes nothing. -/
def step (n : Network A H) : NetworkCall A H → Network A H
  | staking call => n.commitStaking (call.dispatch rt.toConfig u128 n.toState)
  | validator call => n.commitStaking (call.dispatch n.toState)
  | updateValidatorIdentity coldkey validatorId =>
      n.commitStaking (n.updateValidatorIdentity coldkey validatorId)
  | registerSubnet owner maxCost d =>
      n.commitChain (n.registerSubnet rt owner maxCost d)
  | activateSubnet coldkey subnetId =>
      n.commitChain (n.activateSubnet rt coldkey subnetId)
  | ownerPauseSubnet coldkey subnetId =>
      n.commitChain (n.ownerPauseSubnet rt coldkey subnetId)
  | ownerUnpauseSubnet coldkey subnetId =>
      n.commitChain (n.ownerUnpauseSubnet rt coldkey subnetId)
  | ownerDeactivateSubnet coldkey subnetId =>
      n.commitChain (n.ownerDeactivateSubnet rt coldkey subnetId)
  | ownerUpdateName coldkey subnetId value =>
      n.commitChain (n.ownerUpdateName coldkey subnetId value)
  | ownerUpdateRepo coldkey subnetId value =>
      n.commitChain (n.ownerUpdateRepo coldkey subnetId value)
  | ownerUpdateText coldkey subnetId => n.commitChain (n.ownerUpdateText coldkey subnetId)
  | update k coldkey subnetId value =>
      n.commitSettings (SettingsChain.update n.toSettingsChain k coldkey subnetId value)
  | ownerUpdateChurnLimitMultiplier coldkey subnetId value =>
      n.commitChain (n.ownerUpdateChurnLimitMultiplier coldkey subnetId value)
  | ownerUpdateIdleClassificationEpochs coldkey subnetId value =>
      n.commitCollective (n.updateIdleClassificationEpochs coldkey subnetId value)
  | ownerAddOrUpdateInitialValidators coldkey subnetId validators =>
      n.commitChain (n.ownerAddOrUpdateInitialValidators coldkey subnetId validators)
  | ownerRemoveInitialValidators coldkey subnetId validators =>
      n.commitChain (n.ownerRemoveInitialValidators coldkey subnetId validators)
  | ownerSetEmergencyValidatorSet coldkey subnetId subnetNodeIds =>
      n.commitChain (n.ownerSetEmergencyValidatorSet rt coldkey subnetId subnetNodeIds)
  | ownerRevertEmergencyValidatorSet coldkey subnetId =>
      n.commitChain (n.ownerRevertEmergencyValidatorSet coldkey subnetId)
  | ownerUpdateMinMaxStake coldkey subnetId min max =>
      n.commitSettings (n.ownerUpdateMinMaxStake coldkey subnetId min max)
  | ownerUpdateDelegateStakePercentage coldkey subnetId value =>
      n.commitSettings (n.ownerUpdateDelegateStakePercentage coldkey subnetId value)
  | transferSubnetOwnership coldkey subnetId newOwner =>
      n.commitSettings (n.transferSubnetOwnership coldkey subnetId newOwner)
  | acceptSubnetOwnership coldkey subnetId =>
      n.commitSettings (n.acceptSubnetOwnership coldkey subnetId)
  | ownerAddBootnodeAccess coldkey subnetId newAccount =>
      n.commitSettings (n.ownerAddBootnodeAccess coldkey subnetId newAccount)
  | ownerRemoveBootnodeAccess coldkey subnetId removeAccount =>
      n.commitSettings (n.ownerRemoveBootnodeAccess coldkey subnetId removeAccount)
  | ownerUpdateNodeBurnRateAlpha coldkey subnetId value =>
      n.commitChain (n.ownerUpdateNodeBurnRateAlpha coldkey subnetId value)
  | ownerUpdateReputationFactors coldkey subnetId updates =>
      n.commitFactors (n.ownerUpdateReputationFactors rt coldkey subnetId updates)
  | updateBootnodes accountId subnetId add remove =>
      n.commitSettings (n.updateBootnodes rt accountId subnetId add remove)
  | registerSubnetNode coldkey r =>
      n.commitChain (n.registerSubnetNode rt u128 coldkey r)
  | updateNodeHotkey coldkey subnetId subnetNodeId newHotkey =>
      n.commitChain (n.updateNodeHotkey coldkey subnetId subnetNodeId newHotkey)
  | updateNode coldkey subnetId subnetNodeId u =>
      n.commitChain (n.updateNodeCall rt coldkey subnetId subnetNodeId u)
  | removeSubnetNode coldkey subnetId subnetNodeId =>
      n.commitChain (n.removeSubnetNode rt coldkey subnetId subnetNodeId)
  | proposeAttestation hotkey subnetId subnetNodeId data prioritize remove args attestData =>
      n.commitChain (n.proposeAttestation rt hotkey subnetId subnetNodeId data prioritize remove
        args attestData)
  | attest hotkey subnetId subnetNodeId data =>
      n.commitChain (n.attest rt hotkey subnetId subnetNodeId data)
  | registerOverwatchNode coldkey stakeToBeAdded =>
      n.commitOverwatch (n.registerOverwatchNode rt coldkey stakeToBeAdded)
  | removeOverwatchNode coldkey overwatchNodeId =>
      n.commitOverwatch (n.removeOverwatchNode coldkey overwatchNodeId)
  | updateOverwatchHotkey coldkey overwatchNodeId newHotkey =>
      n.commitOverwatch (n.updateOverwatchHotkey coldkey overwatchNodeId newHotkey)
  | setOverwatchNodePeerId key subnetId overwatchNodeId peerId =>
      n.commitOverwatch (n.setOverwatchNodePeerId key subnetId overwatchNodeId peerId)
  | commitOverwatchSubnetWeights hotkey overwatchNodeId commitWeights =>
      n.commitOverwatch (n.commitOverwatchSubnetWeights rt hotkey overwatchNodeId commitWeights)
  | revealOverwatchSubnetWeights hotkey overwatchNodeId reveals =>
      n.commitOverwatch (n.revealOverwatchSubnetWeights rt hash hotkey overwatchNodeId reveals)
  | collective => n

end NetworkCall

/-! ## Calls of the other pallets -/

/-- The calls of the balances pallet that a filter names. -/
inductive BalancesCall (A : Type) where
  | transferAllowDeath (dest : A) (value : ℕ)
  | transferKeepAlive (dest : A) (value : ℕ)
  | transferAll (dest : A) (keepAlive : Bool)
  | other

/-- The calls of the proxy pallet that a filter names. -/
inductive ProxyCall where
  | rejectAnnouncement
  | other
deriving DecidableEq, Repr

/-- The calls of the pallet of atomic swaps. -/
inductive SwapCall (A K : Type) where
  | createSwap (target : A) (hashedProof : K) (hashType : Swap.HashType)
      (action : Swap.BalanceSwapAction) (duration : ℕ)
  | claimSwap (proof : List UInt8) (hashType : Swap.HashType) (action : Swap.BalanceSwapAction)
  | cancelSwap (target : A) (hashedProof : K)

/-- The call, signed by an account. -/
def SwapCall.op {K W : Type} (who : A) : SwapCall A K → Swap.Op A K Swap.BalanceSwapAction W
  | createSwap target hashedProof hashType action duration =>
      .createSwap (.signed who) target hashedProof hashType action duration
  | claimSwap proof hashType action => .claimSwap (.signed who) proof hashType action
  | cancelSwap target hashedProof => .cancelSwap (.signed who) target hashedProof

/-- `RuntimeCall`. -/
inductive RuntimeCall (A H K : Type) where
  | balances (call : BalancesCall A)
  | network (call : NetworkCall A H)
  | atomicSwap (call : SwapCall A K)
  | utility
  | proxy (call : ProxyCall)
  | collective
  | treasury
  /-- A call of any other pallet. -/
  | other

end Proxy

end Hypertensor
