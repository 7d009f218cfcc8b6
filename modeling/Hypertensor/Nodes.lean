import Mathlib
import Hypertensor.Math
import Hypertensor.Staking.Ledger

/-!
# Hypertensor.Nodes — the node registry

The operations on subnet nodes that the epoch hooks perform by themselves:
removal of a node with all its indexes, election slots, graduation to the next
class, and the reputations of nodes, validators and subnets.

None of them moves value. `Funds` collects the storage that holds value, and the
rates and the capacitor that decide how much a reward is; every operation here
leaves it alone (`…_funds`).
-/

namespace Hypertensor

open Base

variable {A : Type}

namespace State

/-! ## Election slots -/

/-- `Vec::swap_remove`: the last element takes the place of the removed one. -/
def swapRemove (l : List ℕ) (pos : ℕ) : List ℕ := (l.set pos (l.getLastD 0)).dropLast

/-- `remove_node_from_election_slot`. -/
def removeNodeFromElectionSlot (s : State A) (subnetId subnetNodeId : ℕ) : State A :=
  let slots := s.nodes.subnetNodeElectionSlots.getD subnetId []
  let pos := slots.idxOf subnetNodeId
  if pos < slots.length then
    let slots₁ := swapRemove slots pos
    let index := if pos ≠ slots.length - 1
      then s.nodes.nodeSlotIndex.set (subnetId, slots₁.getD pos 0) pos else s.nodes.nodeSlotIndex
    { s with nodes := { s.nodes with
      subnetNodeElectionSlots := s.nodes.subnetNodeElectionSlots.set subnetId slots₁
      nodeSlotIndex := index.remove (subnetId, subnetNodeId)
      totalSubnetElectableNodes := s.nodes.totalSubnetElectableNodes.set subnetId
        (s.nodes.totalSubnetElectableNodes.val subnetId - 1)
      totalElectableNodes := s.nodes.totalElectableNodes - 1 } }
  else
    { s with nodes := { s.nodes with
      subnetNodeElectionSlots := s.nodes.subnetNodeElectionSlots.set subnetId slots } }

/-! ## Removal -/

/-- Remove an optional identifier from an index. -/
def removeIndex (m : StorageMap (ℕ × List UInt8) ℕ) (subnetId : ℕ) (key : Option (List UInt8)) :
    StorageMap (ℕ × List UInt8) ℕ :=
  match key with
  | some k => m.remove (subnetId, k)
  | none => m

/-- `ValidatorSubnetNodes` without one node; a subnet without nodes goes too. -/
def removeValidatorSubnetNode (map : StorageMap ℕ (Finset ℕ)) (subnetId subnetNodeId : ℕ) :
    StorageMap ℕ (Finset ℕ) :=
  match map.find? subnetId with
  | some nodes =>
      if nodes.erase subnetNodeId = ∅ then map.remove subnetId
      else map.set subnetId (nodes.erase subnetNodeId)
  | none => map

/-- `common_remove_subnet_node`. -/
def commonRemoveSubnetNode (s : State A) (subnetId subnetNodeId : ℕ) (node : SubnetNode) :
    State A :=
  let n := s.nodes
  let v := s.validators
  let rep := v.validatorReputation.getD node.validatorId .default
  { s with
    nodes := { n with
      uniqueParamSubnetNodeId := removeIndex n.uniqueParamSubnetNodeId subnetId node.unique
      peerIdSubnetNodeId := n.peerIdSubnetNodeId.remove (subnetId, node.peerInfo.peerId)
      bootnodePeerIdSubnetNodeId := removeIndex n.bootnodePeerIdSubnetNodeId subnetId
        (node.bootnodePeerInfo.map PeerInfo.peerId)
      clientPeerIdSubnetNodeId := removeIndex n.clientPeerIdSubnetNodeId subnetId
        (node.clientPeerInfo.map PeerInfo.peerId)
      multiaddrSubnetNodeId := removeIndex (removeIndex (removeIndex n.multiaddrSubnetNodeId
        subnetId node.peerInfo.multiaddr) subnetId (node.bootnodePeerInfo.bind PeerInfo.multiaddr))
        subnetId (node.clientPeerInfo.bind PeerInfo.multiaddr)
      subnetNodeIdHotkey := n.subnetNodeIdHotkey.remove (subnetId, subnetNodeId)
      subnetNodeReputation := n.subnetNodeReputation.remove (subnetId, subnetNodeId)
      subnetNodeIdleConsecutiveEpochs :=
        n.subnetNodeIdleConsecutiveEpochs.remove (subnetId, subnetNodeId)
      subnetNodeConsecutiveIncludedEpochs :=
        n.subnetNodeConsecutiveIncludedEpochs.remove (subnetId, subnetNodeId)
      totalSubnetNodes := n.totalSubnetNodes.set subnetId (n.totalSubnetNodes.val subnetId - 1)
      totalNodes := n.totalNodes - 1 }
    validators := { v with
      validatorSubnetNodes := v.validatorSubnetNodes.set node.validatorId
        (removeValidatorSubnetNode (v.validatorSubnetNodes.getD node.validatorId ∅) subnetId
          subnetNodeId)
      validatorReputation := v.validatorReputation.set node.validatorId
        { rep with totalActiveNodes := rep.totalActiveNodes - 1 } } }

/-- The end of `remove_active_subnet_node`: the counts of active nodes and the
temporary validator set. -/
def forgetActiveNode (s : State A) (subnetId subnetNodeId : ℕ) : State A :=
  let n := s.nodes
  { s with nodes := { n with
    totalActiveSubnetNodes := n.totalActiveSubnetNodes.set subnetId
      (n.totalActiveSubnetNodes.val subnetId - 1)
    totalActiveNodes := n.totalActiveNodes - 1
    emergencySubnetNodeElectionData :=
      match n.emergencySubnetNodeElectionData.find? subnetId with
      | some d => n.emergencySubnetNodeElectionData.set subnetId
          { d with subnetNodeIds := d.subnetNodeIds.filter (· ≠ subnetNodeId) }
      | none => n.emergencySubnetNodeElectionData } }

/-- `remove_active_subnet_node`. -/
def removeActiveSubnetNode (s : State A) (subnetId subnetNodeId : ℕ) : State A :=
  match s.nodes.subnetNodesData.find? (subnetId, subnetNodeId) with
  | none => s
  | some node =>
      let s₁ := { s with nodes := { s.nodes with
        subnetNodesData := s.nodes.subnetNodesData.remove (subnetId, subnetNodeId) } }
      let s₂ := s₁.commonRemoveSubnetNode subnetId subnetNodeId node
      -- only nodes of the validator class have a slot
      let s₃ := if node.classification.nodeClass = .validator
        then s₂.removeNodeFromElectionSlot subnetId subnetNodeId else s₂
      s₃.forgetActiveNode subnetId subnetNodeId

/-- `remove_registered_subnet_node`. -/
def removeRegisteredSubnetNode (s : State A) (subnetId subnetNodeId : ℕ) : State A :=
  match s.nodes.registeredSubnetNodesData.find? (subnetId, subnetNodeId) with
  | none => s
  | some node =>
      let s₁ := { s with nodes := { s.nodes with
        registeredSubnetNodesData :=
          s.nodes.registeredSubnetNodesData.remove (subnetId, subnetNodeId) } }
      let s₂ := s₁.commonRemoveSubnetNode subnetId subnetNodeId node
      { s₂ with nodes := { s₂.nodes with
        subnetNodeQueue := s₂.nodes.subnetNodeQueue.set subnetId
          ((s₂.nodes.subnetNodeQueue.getD subnetId []).filter fun n => n.id ≠ subnetNodeId) } }

/-! ## Graduation -/

/-- The entry of a node, one class higher. -/
def nextClass (node : SubnetNode) (startEpoch : ℕ) : SubnetNode :=
  { node with classification := ⟨node.classification.nodeClass.next, startEpoch⟩ }

/-- `graduate_class`; `none` where it returns `false`. -/
def graduateClass (s : State A) (subnetId subnetNodeId startEpoch : ℕ) : Option (State A) :=
  match s.nodes.subnetNodesData.find? (subnetId, subnetNodeId) with
  | none => none
  | some node => some { s with nodes := { s.nodes with
      subnetNodesData := s.nodes.subnetNodesData.set (subnetId, subnetNodeId)
        (nextClass node startEpoch) } }

/-- `graduate_to_validator_class`; `none` where it returns `false`. -/
def graduateToValidatorClass (s : State A) (subnetId subnetNodeId startEpoch : ℕ) :
    Option (State A) :=
  let slots := s.nodes.subnetNodeElectionSlots.getD subnetId []
  if subnetNodeId ∈ slots then none
  else
    match s.graduateClass subnetId subnetNodeId startEpoch with
    | none => none
    | some s₁ => some { s₁ with nodes := { s₁.nodes with
        subnetNodeElectionSlots :=
          s₁.nodes.subnetNodeElectionSlots.set subnetId (slots ++ [subnetNodeId])
        nodeSlotIndex := s₁.nodes.nodeSlotIndex.set (subnetId, subnetNodeId) slots.length
        totalSubnetElectableNodes := s₁.nodes.totalSubnetElectableNodes.set subnetId
          (min (s₁.nodes.totalSubnetElectableNodes.val subnetId + 1) u32Max)
        totalElectableNodes := min (s₁.nodes.totalElectableNodes + 1) u32Max } }

/-! ## Reputations -/

/-- `increase_rep`, around its floating-point part. -/
def increaseRep (cfg : Config A) (prev factor1 : ℕ) (factor2 : Option ℕ) : ℕ :=
  if prev = percentageFactor then prev
  else min (cfg.increaseRepFloat prev (percentMul factor1 (factor2.getD percentageFactor)))
    percentageFactor

/-- `decrease_rep`. -/
def decreaseRep (prev factor1 : ℕ) (factor2 : Option ℕ) : ℕ :=
  if prev = 0 then prev
  else min (prev - percentMul prev (percentMul factor1 (factor2.getD percentageFactor)))
    percentageFactor

/-- Write a node's reputation where it has one. -/
def setNodeReputation (s : State A) (subnetId subnetNodeId current new : ℕ) : State A × ℕ :=
  if s.nodes.subnetNodeReputation.contains (subnetId, subnetNodeId) then
    ({ s with nodes := { s.nodes with
      subnetNodeReputation := s.nodes.subnetNodeReputation.set (subnetId, subnetNodeId) new } }, new)
  else (s, current)

/-- `increase_and_return_node_reputation`. -/
def increaseAndReturnNodeReputation (cfg : Config A) (s : State A) (subnetId subnetNodeId current
    factor1 : ℕ) (factor2 : Option ℕ) : State A × ℕ :=
  s.setNodeReputation subnetId subnetNodeId current (increaseRep cfg current factor1 factor2)

/-- `decrease_and_return_node_reputation`. -/
def decreaseAndReturnNodeReputation (s : State A) (subnetId subnetNodeId current factor1 : ℕ)
    (factor2 : Option ℕ) : State A × ℕ :=
  s.setNodeReputation subnetId subnetNodeId current (decreaseRep current factor1 factor2)

/-- `SubnetReputation`. -/
def subnetReputation (s : State A) (subnetId : ℕ) : ℕ :=
  s.emission.subnetReputation.getD subnetId percentageFactor

/-- Write `SubnetReputation`. -/
def setSubnetReputation (s : State A) (subnetId value : ℕ) : State A :=
  { s with emission := { s.emission with
      subnetReputation := s.emission.subnetReputation.set subnetId value } }

/-- `increase_subnet_reputation`. -/
def increaseSubnetReputation (cfg : Config A) (s : State A) (subnetId factor1 factor2 : ℕ) :
    State A :=
  s.setSubnetReputation subnetId
    (increaseRep cfg (s.subnetReputation subnetId) factor1 (some factor2))

/-- `decrease_subnet_reputation`. -/
def decreaseSubnetReputation (s : State A) (subnetId factor1 : ℕ) (factor2 : Option ℕ) : State A :=
  s.setSubnetReputation subnetId (decreaseRep (s.subnetReputation subnetId) factor1 factor2)

/-- The average attestation of a validator with one more attestation; the count
of earlier ones is taken after it was raised. -/
def averageAttestation (rep : Reputation) (attestationPercentage : ℕ) : ℕ :=
  let prevTotal := min (rep.totalIncreases + rep.totalDecreases) u32Max - 1
  if prevTotal = 0 then attestationPercentage
  else quot (u128.add (min (rep.averageAttestation * prevTotal) u128Max) attestationPercentage)
    (prevTotal + 1) (Nat.succ_ne_zero prevTotal)

/-- The end of `increase_validator_reputation` and `decrease_validator_reputation`:
note the epoch and the attestation. -/
def noteAttestation (rep : Reputation) (attestationPercentage epoch : ℕ) : Reputation :=
  { rep with
    lastValidatorEpoch := epoch
    startEpoch := if rep.startEpoch = 0 then epoch else rep.startEpoch
    averageAttestation := averageAttestation rep attestationPercentage }

/-- Write the reputation of a validator. -/
def setValidatorReputation (s : State A) (validatorId : ℕ) (rep : Reputation) : State A :=
  { s with validators := { s.validators with
      validatorReputation := s.validators.validatorReputation.set validatorId rep } }

/-- `increase_validator_reputation`. -/
def increaseValidatorReputation (cfg : Config A) (s : State A) (validatorId attestationPercentage
    minAttestationPercentage increaseWeightFactor epoch : ℕ) : State A :=
  match s.validators.validatorReputation.find? validatorId with
  | none => s
  | some rep =>
      if attestationPercentage < minAttestationPercentage then s
      else s.setValidatorReputation validatorId (noteAttestation { rep with
        score := increaseRep cfg rep.score increaseWeightFactor none
        totalIncreases := wrapAdd 32 rep.totalIncreases 1 } attestationPercentage epoch)

/-- `decrease_validator_reputation`. -/
def decreaseValidatorReputation (s : State A) (validatorId attestationPercentage
    minAttestationPercentage decreaseWeightFactor epoch : ℕ) : State A :=
  match s.validators.validatorReputation.find? validatorId with
  | none => s
  | some rep =>
      if attestationPercentage ≥ minAttestationPercentage then s
      else s.setValidatorReputation validatorId (noteAttestation { rep with
        score := decreaseRep rep.score decreaseWeightFactor none
        totalDecreases := wrapAdd 32 rep.totalDecreases 1 } attestationPercentage epoch)

end State

/-! ## Where value is -/

/-- The storage that holds value, with the rates and the capacitor that decide
how much a reward is. -/
structure Funds (A : Type) where
  freeBalance : StorageMap A ℕ
  stake : Stake A
  subnetPools : Pools A
  validatorPools : Pools A
  validatorsData : StorageMap ℕ (ValidatorData A)
  rewardsCapacitor : StorageMap ℕ ℕ

/-- The funds of a state. -/
def State.funds (s : State A) : Funds A where
  freeBalance := s.freeBalance
  stake := s.stake
  subnetPools := s.subnetPools
  validatorPools := s.validatorPools
  validatorsData := s.validators.validatorsData
  rewardsCapacitor := s.emission.rewardsCapacitor

namespace State

@[simp] theorem removeNodeFromElectionSlot_funds (s : State A) (i j : ℕ) :
    (s.removeNodeFromElectionSlot i j).funds = s.funds := by
  unfold removeNodeFromElectionSlot
  dsimp only
  split <;> rfl

@[simp] theorem commonRemoveSubnetNode_funds (s : State A) (i j : ℕ) (node : SubnetNode) :
    (s.commonRemoveSubnetNode i j node).funds = s.funds := rfl

@[simp] theorem forgetActiveNode_funds (s : State A) (i j : ℕ) :
    (s.forgetActiveNode i j).funds = s.funds := rfl

@[simp] theorem removeActiveSubnetNode_funds (s : State A) (i j : ℕ) :
    (s.removeActiveSubnetNode i j).funds = s.funds := by
  unfold removeActiveSubnetNode
  split
  · rfl
  · dsimp only
    rw [forgetActiveNode_funds]
    split
    · rw [removeNodeFromElectionSlot_funds, commonRemoveSubnetNode_funds]
      rfl
    · rw [commonRemoveSubnetNode_funds]
      rfl

@[simp] theorem removeRegisteredSubnetNode_funds (s : State A) (i j : ℕ) :
    (s.removeRegisteredSubnetNode i j).funds = s.funds := by
  unfold removeRegisteredSubnetNode
  split <;> rfl

theorem graduateClass_funds {s s' : State A} {i j e : ℕ} (h : s.graduateClass i j e = some s') :
    s'.funds = s.funds := by
  unfold graduateClass at h
  split at h
  · cases h
  · cases h
    rfl

theorem graduateToValidatorClass_funds {s s' : State A} {i j e : ℕ}
    (h : s.graduateToValidatorClass i j e = some s') : s'.funds = s.funds := by
  unfold graduateToValidatorClass at h
  dsimp only at h
  split at h
  · cases h
  · split at h
    · cases h
    · next s₁ h₁ =>
        have hfunds := graduateClass_funds h₁
        cases h
        exact hfunds

@[simp] theorem setNodeReputation_funds (s : State A) (i j c n : ℕ) :
    (s.setNodeReputation i j c n).1.funds = s.funds := by
  unfold setNodeReputation
  split <;> rfl

@[simp] theorem increaseAndReturnNodeReputation_funds (cfg : Config A) (s : State A)
    (i j c f : ℕ) (g : Option ℕ) :
    (s.increaseAndReturnNodeReputation cfg i j c f g).1.funds = s.funds :=
  setNodeReputation_funds ..

@[simp] theorem decreaseAndReturnNodeReputation_funds (s : State A) (i j c f : ℕ)
    (g : Option ℕ) : (s.decreaseAndReturnNodeReputation i j c f g).1.funds = s.funds :=
  setNodeReputation_funds ..

@[simp] theorem decreaseSubnetReputation_funds (s : State A) (i f : ℕ) (g : Option ℕ) :
    (s.decreaseSubnetReputation i f g).funds = s.funds := rfl

@[simp] theorem increaseValidatorReputation_funds (cfg : Config A) (s : State A)
    (v a m f e : ℕ) : (s.increaseValidatorReputation cfg v a m f e).funds = s.funds := by
  unfold increaseValidatorReputation
  split
  · rfl
  · split <;> rfl

@[simp] theorem decreaseValidatorReputation_funds (s : State A) (v a m f e : ℕ) :
    (s.decreaseValidatorReputation v a m f e).funds = s.funds := by
  unfold decreaseValidatorReputation
  split
  · rfl
  · split <;> rfl

end State

end Hypertensor
