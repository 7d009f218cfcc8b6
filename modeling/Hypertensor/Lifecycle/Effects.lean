import Mathlib
import Hypertensor.Lifecycle.Update
import Hypertensor.Lifecycle.Store

/-!
# Hypertensor.Lifecycle.Effects — what a call can do to the network

`Lifecycle.Call` and `Store.Call` say once what the calls can do that write subnets and
nodes, and `Submit` what a submission does. What an effect on the store does to the
lifecycle is one of the effects there, so the lifecycle needs no lemma of its own for a
call.
-/

namespace Hypertensor

open Base Relation

variable {A : Type} {strict room : Prop}

/-! ## What a call can do -/

namespace Membership

/-- A node enters as a validator, with an election slot. -/
def seat (m : Membership) (i : ℕ) (node : SubnetNode) : Membership :=
  { m.addSlot i node.id with
    registeredSubnetNodesData := m.registeredSubnetNodesData.remove (i, node.id)
    subnetNodesData := m.subnetNodesData.set (i, node.id) node }

/-- A node enters the queue, and is recorded a second time. -/
def enqueue (m : Membership) (i : ℕ) (node : SubnetNode) : Membership :=
  { m with
    registeredSubnetNodesData := m.registeredSubnetNodesData.set (i, node.id) node
    subnetNodeQueue := m.subnetNodeQueue.set i (m.queue i ++ [node]) }

/-- One node more. -/
def countUp (m : Membership) (i : ℕ) : Membership :=
  { m with
    totalSubnetNodes := m.totalSubnetNodes.set i (wrapAdd 32 (m.totalSubnetNodes.val i) 1)
    totalNodes := wrapAdd 32 m.totalNodes 1 }

end Membership

namespace Lifecycle

variable (l : Lifecycle)

/-- The id of the next subnet. -/
def nextSubnetId : ℕ := min (l.totalSubnetUids + 1) u32Max

/-- The id of the next node of a subnet. -/
def nextNodeId (i : ℕ) : ℕ := min (l.totalSubnetNodeUids.val i + 1) u32Max

/-- A subnet is registered. -/
def registerSubnet (slot : ℕ) (d : SubnetData) : Lifecycle :=
  { l with
    subnetsData := l.subnetsData.set l.nextSubnetId d
    subnetSlot := l.subnetSlot.set l.nextSubnetId slot
    slotAssignment := l.slotAssignment.set slot l.nextSubnetId
    assignedSlots := insert slot l.assignedSlots
    totalSubnetUids := l.nextSubnetId }

/-- The record of a subnet is written. -/
def setSubnet (i : ℕ) (d : SubnetData) : Lifecycle :=
  { l with subnetsData := l.subnetsData.set i d }

/-- The start of all queued nodes is put off. -/
def delayRegistered (delta : ℕ) : Lifecycle :=
  { l with registeredSubnetNodesData := l.registeredSubnetNodesData.mapValues (·.delay delta) }

/-- A node is registered, and `place`d. -/
def enter (i id : ℕ) (place : Membership → Membership) : Lifecycle :=
  { l with
    toMembership := place (l.toMembership.countUp i)
    totalSubnetNodeUids := l.totalSubnetNodeUids.set i id }

/-- A submission is stored. -/
def setSubmission (i e : ℕ) (d : ConsensusData) : Lifecycle :=
  { l with subnetConsensusSubmission := l.subnetConsensusSubmission.set (i, e) d }

/-- What the calls can do that submit nothing. In a strict call there is still an id to give out, and with
`room` the nodes can still be counted. -/
inductive Call (strict room : Prop) (L : ℕ) : Lifecycle → Lifecycle → Prop
  | other {l : Lifecycle} (q : StorageMap ℕ ℕ) : Call strict room L l { l with subnetNodeQueueEpochs := q }
  | registerSubnet {l : Lifecycle} {slot : ℕ} {d : SubnetData} (hslot : slot ∉ l.assignedSlots)
      (hlt : slot < L) (hleft : strict → l.totalSubnetUids < u32Max) : Call strict room L l (l.registerSubnet slot d)
  | setSubnet {l : Lifecycle} {i : ℕ} {d d' : SubnetData} (hd : l.subnetsData.find? i = some d) :
      Call strict room L l (l.setSubnet i d')
  | unpause {l : Lifecycle} {i delta : ℕ} {d d' : SubnetData}
      (hd : l.subnetsData.find? i = some d) : Call strict room L l ((l.setSubnet i d').delayRegistered delta)
  | seat {l : Lifecycle} {i : ℕ} {d : SubnetData} {node : SubnetNode}
      (hd : l.subnetsData.find? i = some d) (hid : node.id = l.nextNodeId i)
      (hclass : node.classification.nodeClass = .validator) (hslot : node.id ∉ l.slots i)
      (hleft : strict → l.totalSubnetNodeUids.val i < u32Max)
      (hroom : room → l.totalNodes < u32Max) :
      Call strict room L l (l.enter i node.id fun m => m.seat i node)
  | enqueue {l : Lifecycle} {i : ℕ} {d : SubnetData} {node : SubnetNode}
      (hd : l.subnetsData.find? i = some d) (hid : node.id = l.nextNodeId i)
      (hclass : node.classification.nodeClass = .registered)
      (hleft : strict → l.totalSubnetNodeUids.val i < u32Max)
      (hroom : room → l.totalNodes < u32Max) :
      Call strict room L l (l.enter i node.id fun m => m.enqueue i node)
  | removeActive {l : Lifecycle} {i id : ℕ} {node : SubnetNode}
      (hnode : l.node? i id = some node) :
      Call strict room L l { l with toMembership := l.toMembership.removeActive i id node }
  | removeRegistered {l : Lifecycle} {i id : ℕ} {node : SubnetNode}
      (hnode : l.registeredSubnetNodesData.find? (i, id) = some node) :
      Call strict room L l { l with toMembership := l.toMembership.removeRegistered i id }
  | updateActive {l : Lifecycle} {i id : ℕ} {node node' : SubnetNode}
      (hnode : l.node? i id = some node) (hid : node'.id = node.id)
      (hclass : node'.classification = node.classification) :
      Call strict room L l { l with subnetNodesData := l.subnetNodesData.set (i, id) node' }
  | updateRegistered {l : Lifecycle} {i id : ℕ} {node node' : SubnetNode}
      (hnode : l.registeredSubnetNodesData.find? (i, id) = some node) :
      Call strict room L l { l with registeredSubnetNodesData := l.registeredSubnetNodesData.set (i, id) node' }
  | removeSubnet {l : Lifecycle} {i : ℕ} {d : SubnetData} (hd : l.subnetsData.find? i = some d) :
      Call strict room L l (l.removeSubnet i)

/-- What a proposal and an attestation do. -/
inductive Submit (L : ℕ) : Lifecycle → Lifecycle → Prop
  | propose {l : Lifecycle} {i slot : ℕ} {d : ConsensusData} (hslot : l.subnetSlot.val i = slot)
      (hpos : slot ≠ 0) (hstarted : slot ≤ l.block)
      (hnodes : ∃ p : SubnetNode → Bool,
        d.subnetNodes = (l.subnetNodesData.prefixValues i).filter p) :
      Submit L l (l.setSubmission i (l.subnetEpoch L i) d)
  | attest {l : Lifecycle} {i e : ℕ} {d d' : ConsensusData}
      (hd : l.subnetConsensusSubmission.find? (i, e) = some d)
      (hnodes : d'.subnetNodes = d.subnetNodes) : Submit L l (l.setSubmission i e d')

theorem Call.of_eq {L : ℕ} {l l' : Lifecycle} (h : l' = l) : Call strict room L l l' := by
  subst h
  exact .other (l := l') l'.subnetNodeQueueEpochs

end Lifecycle

/-! ## The same for the store -/

/-- A peer info that no node of the subnet uses. -/
structure Indexes.Free (x : Indexes) (i : ℕ) (p : PeerInfo) : Prop where
  peerId : x.peerId.find? (i, p.peerId) = none
  bootnodePeerId : x.bootnodePeerId.find? (i, p.peerId) = none
  clientPeerId : x.clientPeerId.find? (i, p.peerId) = none
  multiaddr : ∀ a, p.multiaddr = some a → x.multiaddr.find? (i, a) = none

/-- No index leads to the node `0`, which stands for no node in the checks. -/
structure Indexes.Positive (x : Indexes) : Prop where
  peerId : ∀ k, x.peerId.find? k ≠ some 0
  bootnodePeerId : ∀ k, x.bootnodePeerId.find? k ≠ some 0
  clientPeerId : ∀ k, x.clientPeerId.find? k ≠ some 0
  multiaddr : ∀ k, x.multiaddr.find? k ≠ some 0

/-- Two peer infos that share nothing. -/
def PeerInfo.Apart (p q : PeerInfo) : Prop :=
  p.peerId ≠ q.peerId ∧ ∀ a, p.multiaddr = some a → q.multiaddr ≠ some a

/-- The identifiers of a node that registers: nobody uses them, and they differ. -/
structure SubnetNode.Fresh (x : Indexes) (i : ℕ) (node : SubnetNode) : Prop where
  peer : x.Free i node.peerInfo
  bootnode : ∀ b, node.bootnodePeerInfo = some b → x.Free i b ∧ b.Apart node.peerInfo
  client : ∀ p, node.clientPeerInfo = some p → x.Free i p ∧ p.Apart node.peerInfo ∧
    ∀ b, node.bootnodePeerInfo = some b → p.Apart b
  unique : ∀ u, node.unique = some u → x.uniqueParam.find? (i, u) = none

/-- The identifiers of a node enter the indexes. -/
def Indexes.enter (x : Indexes) (i : ℕ) (node : SubnetNode) : Indexes where
  uniqueParam := insertIndex x.uniqueParam i node.unique node.id
  peerId := x.peerId.set (i, node.peerInfo.peerId) node.id
  bootnodePeerId :=
    insertIndex x.bootnodePeerId i (node.bootnodePeerInfo.map PeerInfo.peerId) node.id
  clientPeerId := insertIndex x.clientPeerId i (node.clientPeerInfo.map PeerInfo.peerId) node.id
  multiaddr := insertIndex (insertIndex (insertIndex x.multiaddr i node.peerInfo.multiaddr node.id) i
    (node.bootnodePeerInfo.bind PeerInfo.multiaddr) node.id) i
    (node.clientPeerInfo.bind PeerInfo.multiaddr) node.id

namespace NodeUpdate

/-- The record of a node after an update. -/
def apply (node : SubnetNode) : NodeUpdate → SubnetNode
  | peerInfo new => { node with peerInfo := new }
  | bootnodePeerInfo new => { node with bootnodePeerInfo := new }
  | clientPeerInfo new => { node with clientPeerInfo := new }
  | unique u => { node with unique := u }
  | nonUnique u => { node with nonUnique := u }

/-- The indexes after an update. -/
def reindex (x : Indexes) (i id : ℕ) (node : SubnetNode) : NodeUpdate → Indexes
  | peerInfo new =>
      let r := replacePeer x.peerId x.multiaddr i id (some node.peerInfo) (some new)
      { x with peerId := r.1, multiaddr := r.2 }
  | bootnodePeerInfo new =>
      let r := replacePeer x.bootnodePeerId x.multiaddr i id node.bootnodePeerInfo new
      { x with bootnodePeerId := r.1, multiaddr := r.2 }
  | clientPeerInfo new =>
      let r := replacePeer x.clientPeerId x.multiaddr i id node.clientPeerInfo new
      { x with clientPeerId := r.1, multiaddr := r.2 }
  | unique u => { x with
      uniqueParam := insertIndex (State.removeIndex x.uniqueParam i node.unique) i u id }
  | nonUnique _ => x

/-- What an update has checked. -/
def Allowed (x : Indexes) (i id : ℕ) (node : SubnetNode) : NodeUpdate → Prop
  | peerInfo new => x.Free i new
  | bootnodePeerInfo new => ∀ p, new = some p → x.Free i p
  | clientPeerInfo new => ∀ p, new = some p → x.Free i p
  | unique u => ∀ k, u = some k → ∀ owner,
      (State.removeIndex x.uniqueParam i node.unique).find? (i, k) = some owner → owner = id
  | nonUnique _ => True

@[simp] theorem apply_id (u : NodeUpdate) (node : SubnetNode) : (u.apply node).id = node.id := by
  cases u <;> rfl

@[simp] theorem apply_validatorId (u : NodeUpdate) (node : SubnetNode) :
    (u.apply node).validatorId = node.validatorId := by
  cases u <;> rfl

@[simp] theorem apply_classification (u : NodeUpdate) (node : SubnetNode) :
    (u.apply node).classification = node.classification := by
  cases u <;> rfl

end NodeUpdate

namespace Records

variable (r : Records) (i : ℕ)

/-- What is noted of a new node, wherever it goes. -/
def enter (ar : Arith) (node : SubnetNode) (x : ℕ) : Records :=
  let map := r.validatorSubnetNodes.getD node.validatorId ∅
  { (r.credit i node.id ar x).setMembership (r.toMembership.countUp i) with
    reputed := insert (i, node.id) r.reputed
    subnetNodeValidatorId := r.subnetNodeValidatorId.set (i, node.id) node.validatorId
    validatorSubnetNodes := r.validatorSubnetNodes.set node.validatorId
      (map.set i (insert node.id (map.getD i ∅)))
    indexes := r.indexes.enter i node }

/-- A node enters as a validator. -/
def seat (node : SubnetNode) : Records :=
  { r.setMembership (r.toMembership.seat i node) with
    totalActiveSubnetNodes :=
      r.totalActiveSubnetNodes.set i (wrapAdd 32 (r.totalActiveSubnetNodes.val i) 1)
    totalActiveNodes := wrapAdd 32 r.totalActiveNodes 1 }

/-- A node enters the queue. -/
def enqueue (node : SubnetNode) : Records := r.setMembership (r.toMembership.enqueue i node)

/-- Identifiers of an active node are replaced. -/
def updateActive (id : ℕ) (node : SubnetNode) (u : NodeUpdate) : Records :=
  { r with
    subnetNodesData := r.subnetNodesData.set (i, id) (u.apply node)
    indexes := u.reindex r.indexes i id node }

/-- Identifiers of a queued node are replaced, but not in the queue. -/
def updateRegistered (id : ℕ) (node : SubnetNode) (u : NodeUpdate) : Records :=
  { r with
    registeredSubnetNodesData := r.registeredSubnetNodesData.set (i, id) (u.apply node)
    indexes := u.reindex r.indexes i id node }

/-- The subnets that are gone leave the list of a validator. -/
def cleanValidator (v : ℕ) : Records :=
  { r with
    validatorSubnetNodes := r.validatorSubnetNodes.set v
      ((r.validatorSubnetNodes.getD v ∅).filter fun j _ => r.subnetsData.contains j) }

/-- Stake is withdrawn; with the last of it the list of the validator is cleaned. -/
def withdraw (id x : ℕ) (clean : Option ℕ) : Records :=
  (clean.elim r r.cleanValidator).debit i id x

end Records

namespace Store

variable (s : Store)

/-- The id of the next subnet. -/
def nextSubnetId : ℕ := min (s.totalSubnetUids + 1) u32Max

/-- The id of the next node of a subnet. -/
def nextNodeId (i : ℕ) : ℕ := min (s.totalSubnetNodeUids.val i + 1) u32Max

/-- A subnet is registered. -/
def registerSubnet (D slot epoch : ℕ) (d : SubnetData) (initial : StorageMap ℕ ℕ) : Store :=
  { s with
    subnetsData := s.subnetsData.set s.nextSubnetId d
    subnetSlot := s.subnetSlot.set s.nextSubnetId slot
    slotAssignment := s.slotAssignment.set slot s.nextSubnetId
    assignedSlots := insert slot s.assignedSlots
    totalSubnetUids := s.nextSubnetId
    subnetRegistrationEpoch := s.subnetRegistrationEpoch.set s.nextSubnetId epoch
    nodeRegistrationInitialValidatorIds :=
      s.nodeRegistrationInitialValidatorIds.set s.nextSubnetId initial
    subnetIdFriendlyUid := s.subnetIdFriendlyUid.set s.nextSubnetId (wrapAdd 32 (slot - D) 1)
    friendlyUidSubnetId := s.friendlyUidSubnetId.set (wrapAdd 32 (slot - D) 1) s.nextSubnetId
    totalSubnets := min (s.totalSubnets + 1) u32Max }

/-- The record of a subnet is written. -/
def setSubnet (i : ℕ) (d : SubnetData) : Store := { s with subnetsData := s.subnetsData.set i d }

/-- A subnet becomes active. -/
def startSubnet (i : ℕ) (d : SubnetData) : Store :=
  { s.setSubnet i d with
    totalActiveSubnets := wrapAdd 32 s.totalActiveSubnets 1
    subnetRegistrationEpoch := s.subnetRegistrationEpoch.remove i
    initialValidatorData := s.initialValidatorData.remove i
    nodeRegistrationInitialValidatorIds := s.nodeRegistrationInitialValidatorIds.remove i }

/-- The start of all queued nodes is put off. -/
def delayRegistered (delta : ℕ) : Store :=
  { s with registeredSubnetNodesData := s.registeredSubnetNodesData.mapValues (·.delay delta) }

/-- A node is registered, and `place`d. -/
def enter (i : ℕ) (ar : Arith) (node : SubnetNode) (x : ℕ) (place : Records → Records)
    (counts : StorageMap ℕ (StorageMap ℕ ℕ)) : Store :=
  { s.setRecords (place (s.toRecords.enter i ar node x)) with
    totalSubnetNodeUids := s.totalSubnetNodeUids.set i node.id
    initialValidatorData := counts }

/-- A submission is stored. -/
def setSubmission (i e : ℕ) (d : ConsensusData) : Store :=
  { s with subnetConsensusSubmission := s.subnetConsensusSubmission.set (i, e) d }

/-- What is checked when a node registers. -/
structure Admits (strict room : Prop) (s : Store) (i : ℕ) (d : SubnetData) (node : SubnetNode) :
    Prop where
  subnet : s.subnetsData.find? i = some d
  id : node.id = s.nextNodeId i
  fresh : s.indexes.Positive → node.Fresh s.indexes i
  coldkey : node.validatorId ∈ s.coldkeyed
  left : strict → s.totalSubnetNodeUids.val i < u32Max
  room : room → s.totalNodes < u32Max

/-- What the calls can do that submit nothing. -/
inductive Call (ar : Arith) (strict room : Prop) (D L : ℕ) : Store → Store → Prop
  | other {s : Store} (q : StorageMap ℕ ℕ) :
      Call ar strict room D L s { s with subnetNodeQueueEpochs := q }
  | registerSubnet {s : Store} {slot epoch : ℕ} {d : SubnetData} {initial : StorageMap ℕ ℕ}
      (hstate : d.state = .registered) (hslot : slot ∉ s.assignedSlots) (hD : D ≤ slot)
      (hlt : slot < L) (hleft : strict → s.totalSubnetUids < u32Max) :
      Call ar strict room D L s (s.registerSubnet D slot epoch d initial)
  | startSubnet {s : Store} {i : ℕ} {d d' : SubnetData} (hd : s.subnetsData.find? i = some d)
      (hold : d.state = .registered) (hnew : d'.state = .active) :
      Call ar strict room D L s (s.startSubnet i d')
  /-- A pause, or another name. -/
  | setSubnet {s : Store} {i : ℕ} {d d' : SubnetData} (hd : s.subnetsData.find? i = some d)
      (hstate : d'.state = d.state ∨ d.state = .active ∧ d'.state = .paused) :
      Call ar strict room D L s (s.setSubnet i d')
  | unpause {s : Store} {i delta : ℕ} {d d' : SubnetData} (hd : s.subnetsData.find? i = some d)
      (hold : d.state = .paused) (hnew : d'.state = .active) :
      Call ar strict room D L s ((s.setSubnet i d').delayRegistered delta)
  | seat {s : Store} {i : ℕ} {d : SubnetData} {node : SubnetNode} (x : ℕ) (count : StorageMap ℕ ℕ)
      (hadmits : s.Admits strict room i d node) (hstate : d.state = .registered)
      (hclass : node.classification.nodeClass = .validator) (hslot : node.id ∉ s.slots i) :
      Call ar strict room D L s (s.enter i ar node x (fun r => r.seat i node)
        (s.initialValidatorData.set i count))
  | enqueue {s : Store} {i : ℕ} {d : SubnetData} {node : SubnetNode} (x : ℕ)
      (hadmits : s.Admits strict room i d node) (hstate : d.state = .active)
      (hclass : node.classification.nodeClass = .registered) :
      Call ar strict room D L s (s.enter i ar node x (fun r => r.enqueue i node)
        s.initialValidatorData)
  | removeActive {s : Store} {i id : ℕ} {node : SubnetNode} (hnode : s.node? i id = some node) :
      Call ar strict room D L s (s.setRecords (s.toRecords.removeActive i id node))
  | removeRegistered {s : Store} {i id : ℕ} {node : SubnetNode}
      (hnode : s.registeredSubnetNodesData.find? (i, id) = some node) :
      Call ar strict room D L s (s.setRecords (s.toRecords.removeRegistered i id node))
  | updateActive {s : Store} {i id : ℕ} {node : SubnetNode} {u : NodeUpdate}
      (hnode : s.node? i id = some node)
      (hu : s.indexes.Positive → u.Allowed s.indexes i id node) :
      Call ar strict room D L s (s.setRecords (s.toRecords.updateActive i id node u))
  | updateRegistered {s : Store} {i id : ℕ} {node : SubnetNode} {u : NodeUpdate}
      (hnode : s.registeredSubnetNodesData.find? (i, id) = some node)
      (hu : s.indexes.Positive → u.Allowed s.indexes i id node) :
      Call ar strict room D L s (s.setRecords (s.toRecords.updateRegistered i id node u))
  | removeSubnet {s : Store} {i : ℕ} {d : SubnetData} (hd : s.subnetsData.find? i = some d) :
      Call ar strict room D L s (s.removeSubnet i d)
  | addStake {s : Store} {i id v : ℕ} (x : ℕ)
      (hv : s.subnetNodeValidatorId.find? (i, id) = some v) (hcoldkey : v ∈ s.coldkeyed) :
      Call ar strict room D L s (s.setRecords (s.toRecords.credit i id ar x))
  | removeStake {s : Store} {i id x : ℕ} (clean : Option ℕ)
      (hx : x ≤ s.nodeSubnetStake.val (id, i)) :
      Call ar strict room D L s (s.setRecords (s.toRecords.withdraw i id x clean))
  | addValidator {s : Store} (v : ℕ) :
      Call ar strict room D L s { s with coldkeyed := insert v s.coldkeyed }
  /-- The owner edits the list of first validators. -/
  | setInitial {s : Store} {i : ℕ} {d : SubnetData} {lists : StorageMap ℕ (StorageMap ℕ ℕ)}
      (hd : s.subnetsData.find? i = some d) (hstate : d.state = .registered)
      (hothers : ∀ j, j ≠ i →
        lists.find? j = s.nodeRegistrationInitialValidatorIds.find? j) :
      Call ar strict room D L s { s with nodeRegistrationInitialValidatorIds := lists }

/-- What a proposal and an attestation do. -/
inductive Submit (L : ℕ) : Store → Store → Prop
  | propose {s : Store} {i slot : ℕ} {d : ConsensusData} (hslot : s.subnetSlot.val i = slot)
      (hpos : slot ≠ 0) (hstarted : slot ≤ s.block)
      (hnodes : ∃ p : SubnetNode → Bool,
        d.subnetNodes = (s.subnetNodesData.prefixValues i).filter p) :
      Submit L s (s.setSubmission i (s.lifecycle.subnetEpoch L i) d)
  | attest {s : Store} {i e : ℕ} {d d' : ConsensusData}
      (hd : s.subnetConsensusSubmission.find? (i, e) = some d)
      (hnodes : d'.subnetNodes = d.subnetNodes) : Submit L s (s.setSubmission i e d')

variable {s} {s' : Store} {ar : Arith} {D L : ℕ}

theorem Call.of_eq (h : s' = s) : Call ar strict room D L s s' := by
  subst h
  exact .other (s := s') s'.subnetNodeQueueEpochs

/-- What a call does to the lifecycle. -/
theorem Call.lifecycle (h : Call ar strict room D L s s') :
    s.lifecycle.Call strict room L s'.lifecycle := by
  cases h with
  | other q => exact .other (l := s.lifecycle) q
  | registerSubnet _ hslot _ hlt hleft =>
      exact .registerSubnet (l := s.lifecycle) hslot hlt hleft
  | startSubnet hd _ _ => exact .setSubnet (l := s.lifecycle) hd
  | setSubnet hd _ => exact .setSubnet (l := s.lifecycle) hd
  | unpause hd _ _ => exact .unpause (l := s.lifecycle) hd
  | seat x count hadmits _ hclass hslot =>
      exact .seat (l := s.lifecycle) hadmits.subnet hadmits.id hclass hslot hadmits.left
        hadmits.room
  | enqueue x hadmits _ hclass =>
      exact .enqueue (l := s.lifecycle) hadmits.subnet hadmits.id hclass hadmits.left hadmits.room
  | removeActive hnode => exact .removeActive (l := s.lifecycle) hnode
  | removeRegistered hnode => exact .removeRegistered (l := s.lifecycle) hnode
  | @updateActive i id node u hnode _ =>
      exact .updateActive (l := s.lifecycle) hnode (u.apply_id node) (u.apply_classification node)
  | updateRegistered hnode _ => exact .updateRegistered (l := s.lifecycle) hnode
  | removeSubnet hd =>
      rw [removeSubnet_lifecycle]
      exact .removeSubnet hd
  | addStake x _ _ => exact .of_eq rfl
  | removeStake clean _ => cases clean <;> exact .of_eq rfl
  | addValidator v => exact .of_eq rfl
  | setInitial _ _ _ => exact .of_eq rfl

theorem Submit.lifecycle (h : Submit L s s') : s.lifecycle.Submit L s'.lifecycle := by
  cases h with
  | propose hslot hpos hstarted hnodes =>
      exact .propose (l := s.lifecycle) hslot hpos hstarted hnodes
  | attest hd hnodes => exact .attest (l := s.lifecycle) hd hnodes

end Store

end Hypertensor
