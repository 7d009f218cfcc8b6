import Mathlib
import Hypertensor.Lifecycle.Subnet

/-!
# Hypertensor.Lifecycle.Update — what is edited later

A node's validator replaces its identifiers: its peer info, its bootnode's and its
client's, its unique parameter and its other one. The record is edited where it is
stored, in `SubnetNodesData` or in `RegisteredSubnetNodesData`; the copy in
`SubnetNodeQueue` is not. The owner of a subnet that is not active yet edits the list
of its first validators.
-/

namespace Hypertensor

open Base

variable {A : Type} [DecidableEq A]

/-! ## Identifiers -/

/-- The index of a role and that of the multiaddresses, once a node's peer info in this
role is replaced. -/
def replacePeer (index multiaddrs : StorageMap (ℕ × List UInt8) ℕ) (subnetId subnetNodeId : ℕ)
    (old new : Option PeerInfo) :
    StorageMap (ℕ × List UInt8) ℕ × StorageMap (ℕ × List UInt8) ℕ :=
  (insertIndex (State.removeIndex index subnetId (old.map PeerInfo.peerId)) subnetId
      (new.map PeerInfo.peerId) subnetNodeId,
    insertIndex (State.removeIndex multiaddrs subnetId (old.bind PeerInfo.multiaddr)) subnetId
      (new.bind PeerInfo.multiaddr) subnetNodeId)

namespace Chain

variable (rt : Runtime A) (c : Chain A) (subnetId subnetNodeId : ℕ)

/-- Validate a peer info, if there is one. -/
def validateNewPeerInfo (new : Option PeerInfo) : Except Error Unit :=
  match new with
  | some peerInfo => c.validatePeerInfo rt subnetId 0 0 peerInfo
  | none => .ok ()

/-- `perform_update_node_peer_id`: the storage, and the node's record to be written. -/
def performUpdateNodePeerId (new : PeerInfo) (node : SubnetNode) :
    Except Error (Chain A × SubnetNode) := do
  c.validateNewPeerInfo rt subnetId (some new)
  let n := c.nodes
  let r := replacePeer n.peerIdSubnetNodeId n.multiaddrSubnetNodeId subnetId subnetNodeId
    (some node.peerInfo) (some new)
  .ok ({ c with nodes := { n with peerIdSubnetNodeId := r.1, multiaddrSubnetNodeId := r.2 } },
    { node with peerInfo := new })

/-- `perform_update_node_bootnode_peer_id`. -/
def performUpdateNodeBootnodePeerId (new : Option PeerInfo) (node : SubnetNode) :
    Except Error (Chain A × SubnetNode) := do
  c.validateNewPeerInfo rt subnetId new
  let n := c.nodes
  let r := replacePeer n.bootnodePeerIdSubnetNodeId n.multiaddrSubnetNodeId subnetId subnetNodeId
    node.bootnodePeerInfo new
  .ok ({ c with nodes :=
      { n with bootnodePeerIdSubnetNodeId := r.1, multiaddrSubnetNodeId := r.2 } },
    { node with bootnodePeerInfo := new })

/-- `perform_update_node_client_peer_id`. -/
def performUpdateNodeClientPeerId (new : Option PeerInfo) (node : SubnetNode) :
    Except Error (Chain A × SubnetNode) := do
  c.validateNewPeerInfo rt subnetId new
  let n := c.nodes
  let r := replacePeer n.clientPeerIdSubnetNodeId n.multiaddrSubnetNodeId subnetId subnetNodeId
    node.clientPeerInfo new
  .ok ({ c with nodes := { n with clientPeerIdSubnetNodeId := r.1, multiaddrSubnetNodeId := r.2 } },
    { node with clientPeerInfo := new })

/-- `perform_update_node_unique`. The old parameter is removed before the new one is
looked up, so a node may give the one it has. -/
def performUpdateNodeUnique (unique : Option (List UInt8)) (node : SubnetNode) :
    Except Error (Chain A × SubnetNode) := do
  let index := State.removeIndex c.nodes.uniqueParamSubnetNodeId subnetId node.unique
  ensure (decide (∀ u ∈ unique, ∀ owner ∈ index.find? (subnetId, u), owner = subnetNodeId))
    .uniqueParameterTaken
  .ok ({ c with nodes := { c.nodes with
      uniqueParamSubnetNodeId := insertIndex index subnetId unique subnetNodeId } },
    { node with unique := unique })

/-- `perform_update_node_non_unique`. -/
def performUpdateNodeNonUnique (nonUnique : Option (List UInt8)) (node : SubnetNode) :
    Except Error (Chain A × SubnetNode) :=
  .ok (c, { node with nonUnique := nonUnique })

/-! ## Where the record is -/

/-- `SubnetNodesData::try_mutate_exists`. -/
def tryMutateSubnetNode (f : SubnetNode → Except Error (Chain A × SubnetNode)) :
    Except Error (Chain A) := do
  let node ← okOr (c.nodes.subnetNodesData.find? (subnetId, subnetNodeId)) .invalidSubnetNodeId
  let r ← f node
  .ok { r.1 with nodes := { r.1.nodes with
    subnetNodesData := r.1.nodes.subnetNodesData.set (subnetId, subnetNodeId) r.2 } }

/-- `RegisteredSubnetNodesData::try_mutate_exists`. -/
def tryMutateRegisteredSubnetNode (f : SubnetNode → Except Error (Chain A × SubnetNode)) :
    Except Error (Chain A) := do
  let node ← okOr (c.nodes.registeredSubnetNodesData.find? (subnetId, subnetNodeId))
    .invalidSubnetNodeId
  let r ← f node
  .ok { r.1 with nodes := { r.1.nodes with
    registeredSubnetNodesData :=
      r.1.nodes.registeredSubnetNodesData.set (subnetId, subnetNodeId) r.2 } }

/-- Edit the record of an active node, or else that of a queued one. -/
def doUpdateNode (f : SubnetNode → Except Error (Chain A × SubnetNode)) : Except Error (Chain A) :=
  if c.nodes.subnetNodesData.contains (subnetId, subnetNodeId) then
    c.tryMutateSubnetNode subnetId subnetNodeId f
  else if c.nodes.registeredSubnetNodesData.contains (subnetId, subnetNodeId) then
    c.tryMutateRegisteredSubnetNode subnetId subnetNodeId f
  else .error .invalidSubnetNodeId

/-- `do_update_node_peer_info`. Unlike its siblings it looks for the node twice in the
same table, so the peer info of a queued node cannot be updated. -/
def doUpdateNodePeerInfo (new : PeerInfo) : Except Error (Chain A) :=
  let f := c.performUpdateNodePeerId rt subnetId subnetNodeId new
  if c.nodes.subnetNodesData.contains (subnetId, subnetNodeId) then
    c.tryMutateSubnetNode subnetId subnetNodeId f
  else if c.nodes.subnetNodesData.contains (subnetId, subnetNodeId) then
    c.tryMutateSubnetNode subnetId subnetNodeId f
  else .error .invalidSubnetNodeId

/-- `do_update_node_bootnode_peer_info`. -/
def doUpdateNodeBootnodePeerInfo (new : Option PeerInfo) : Except Error (Chain A) :=
  c.doUpdateNode subnetId subnetNodeId
    (c.performUpdateNodeBootnodePeerId rt subnetId subnetNodeId new)

/-- `do_update_node_client_peer_info`. -/
def doUpdateNodeClientPeerInfo (new : Option PeerInfo) : Except Error (Chain A) :=
  c.doUpdateNode subnetId subnetNodeId
    (c.performUpdateNodeClientPeerId rt subnetId subnetNodeId new)

/-- `do_update_node_unique`. -/
def doUpdateNodeUnique (unique : Option (List UInt8)) : Except Error (Chain A) :=
  c.doUpdateNode subnetId subnetNodeId (c.performUpdateNodeUnique subnetId subnetNodeId unique)

/-- `do_update_node_non_unique`. -/
def doUpdateNodeNonUnique (nonUnique : Option (List UInt8)) : Except Error (Chain A) :=
  c.doUpdateNode subnetId subnetNodeId (c.performUpdateNodeNonUnique nonUnique)

end Chain

/-! ## The calls -/

/-- Which identifier of a node is replaced, and by what. -/
inductive NodeUpdate where
  | peerInfo (new : PeerInfo)
  | bootnodePeerInfo (new : Option PeerInfo)
  | clientPeerInfo (new : Option PeerInfo)
  | unique (unique : Option (List UInt8))
  | nonUnique (nonUnique : Option (List UInt8))
deriving DecidableEq, Repr

namespace Chain

variable (rt : Runtime A) (c : Chain A)

/-- `update_node_peer_info` and its four siblings. -/
def updateNodeCall (coldkey : A) (subnetId subnetNodeId : ℕ) (u : NodeUpdate) :
    Except Error (Chain A) := do
  c.isPaused
  let owner ← c.nodeColdkey subnetId subnetNodeId
  ensure (decide (owner.2 = coldkey)) .notKeyOwner
  match u with
  | .peerInfo new => c.doUpdateNodePeerInfo rt subnetId subnetNodeId new
  | .bootnodePeerInfo new => c.doUpdateNodeBootnodePeerInfo rt subnetId subnetNodeId new
  | .clientPeerInfo new => c.doUpdateNodeClientPeerInfo rt subnetId subnetNodeId new
  | .unique unique => c.doUpdateNodeUnique subnetId subnetNodeId unique
  | .nonUnique nonUnique => c.doUpdateNodeNonUnique subnetId subnetNodeId nonUnique

/-! ### The first validators of a subnet -/

/-- Write the lists of first validators. -/
def setInitialValidators (lists : StorageMap ℕ (StorageMap ℕ ℕ)) : Chain A :=
  { c with admission := { c.admission with nodeRegistrationInitialValidatorIds := lists } }

/-- `owner_add_or_update_initial_validators`. -/
def ownerAddOrUpdateInitialValidators (coldkey : A) (subnetId : ℕ) (validators : StorageMap ℕ ℕ) :
    Except Error (Chain A) := do
  c.isPaused
  ensure (c.isSubnetOwner coldkey subnetId) .notSubnetOwner
  ensure (c.subnetInState subnetId .registered) .subnetMustBeRegistering
  ensure (decide (∀ id ∈ validators.keys, validators.val id ≥ 1))
    .invalidSubnetRegistrationInitialColdkeys
  let lists := c.admission.nodeRegistrationInitialValidatorIds
  let list := validators.ascEntries.foldl (fun m e => m.set e.1 e.2) (lists.getD subnetId ∅)
  .ok (c.setInitialValidators (lists.set subnetId list))

/-- `owner_remove_initial_validators`. A list without validators goes. -/
def ownerRemoveInitialValidators (coldkey : A) (subnetId : ℕ) (validators : Finset ℕ) :
    Except Error (Chain A) := do
  c.isPaused
  ensure (c.isSubnetOwner coldkey subnetId) .notSubnetOwner
  ensure (c.subnetInState subnetId .registered) .subnetMustBeRegistering
  let lists := c.admission.nodeRegistrationInitialValidatorIds
  match lists.find? subnetId with
  | none => .ok c
  | some list =>
      let list₁ := list.filter fun id _ => decide (id ∉ validators)
      .ok (c.setInitialValidators
        (if list₁.keys = ∅ then lists.remove subnetId else lists.set subnetId list₁))

end Chain

end Hypertensor
