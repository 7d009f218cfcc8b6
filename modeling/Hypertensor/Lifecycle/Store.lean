import Mathlib
import Hypertensor.Base.Abort
import Hypertensor.Lifecycle.Records
import Hypertensor.Consensus.Proposal
import Hypertensor.Epoch.Block

/-!
# Hypertensor.Lifecycle.Store — what a block can do to the network

`Lifecycle` adds to the membership what ties it to time: the slots of the subnets,
the ids given out and the submissions. `Store` adds the same to the records, and all
else that is stored about the existence of subnets: when they were registered, who
may register nodes in them, their short ids and how many there are, and the epochs
that have emission weights.

`Lifecycle.Step` and `Store.Step` list everything the block hook can do to either. A
step of the store is one of the lifecycle, or none.
-/

namespace Hypertensor

open Base Relation

variable {A : Type} {strict : Prop}

/-! ## The lifecycle -/

/-- The membership, the slots of the subnets, the ids given out and the
submissions. -/
structure Lifecycle extends Membership where
  subnetSlot : StorageMap ℕ ℕ
  slotAssignment : StorageMap ℕ ℕ
  assignedSlots : Finset ℕ
  totalSubnetNodeUids : StorageMap ℕ ℕ
  subnetConsensusSubmission : StorageMap (ℕ × ℕ) ConsensusData
  subnetNodeQueueEpochs : StorageMap ℕ ℕ
  totalSubnetUids : ℕ

/-- The lifecycle of a chain. -/
def Chain.lifecycle (c : Chain A) : Lifecycle where
  toMembership := c.toState.membership
  subnetSlot := c.registry.subnetSlot
  slotAssignment := c.registry.slotAssignment
  assignedSlots := c.registry.assignedSlots
  totalSubnetNodeUids := c.registry.totalSubnetNodeUids
  subnetConsensusSubmission := c.registry.subnetConsensusSubmission
  subnetNodeQueueEpochs := c.registry.subnetNodeQueueEpochs
  totalSubnetUids := c.admission.totalSubnetUids

namespace Membership

/-- All nodes of a subnet are gone. The network-wide counts stay as they are. -/
def clear (m : Membership) (i : ℕ) : Membership :=
  { m with
    subnetsData := m.subnetsData.remove i
    subnetNodesData := m.subnetNodesData.clearPrefix i
    registeredSubnetNodesData := m.registeredSubnetNodesData.clearPrefix i
    subnetNodeQueue := m.subnetNodeQueue.remove i
    subnetNodeElectionSlots := m.subnetNodeElectionSlots.remove i
    nodeSlotIndex := m.nodeSlotIndex.clearPrefix i
    totalSubnetElectableNodes := m.totalSubnetElectableNodes.remove i
    totalSubnetNodes := m.totalSubnetNodes.remove i }

/-- The first node of the queue becomes an idle node. -/
def activate (m : Membership) (i : ℕ) (node : SubnetNode) (rest : List SubnetNode) (epoch : ℕ) :
    Membership :=
  { m with
    registeredSubnetNodesData := m.registeredSubnetNodesData.remove (i, node.id)
    subnetNodesData := m.subnetNodesData.set (i, node.id)
      { node with classification := ⟨.idle, epoch⟩ }
    subnetNodeQueue := m.subnetNodeQueue.set i rest }

end Membership

namespace Lifecycle

variable (L : ℕ) (l : Lifecycle)

/-- The current epoch of a subnet. -/
def subnetEpoch (i : ℕ) : ℕ :=
  let slot := l.subnetSlot.val i
  if slot = 0 then 0
  else if l.block < slot then 0
  else (l.block - slot) / L

/-- `free_slot_of_subnet`. -/
def freeSlot (i : ℕ) : Lifecycle :=
  match l.subnetSlot.find? i with
  | none => l
  | some slot => { l with
      subnetSlot := l.subnetSlot.remove i
      slotAssignment := l.slotAssignment.remove slot
      assignedSlots := l.assignedSlots.erase slot }

/-- A subnet is removed. -/
def removeSubnet (i : ℕ) : Lifecycle :=
  { l.freeSlot i with
    toMembership := l.toMembership.clear i
    totalSubnetNodeUids := l.totalSubnetNodeUids.remove i
    subnetNodeQueueEpochs := l.subnetNodeQueueEpochs.remove i }

@[simp] theorem removeSubnet_subnetConsensusSubmission (i : ℕ) :
    (l.removeSubnet i).subnetConsensusSubmission = l.subnetConsensusSubmission := by
  unfold removeSubnet freeSlot
  split <;> rfl

@[simp] theorem removeSubnet_totalSubnetUids (i : ℕ) :
    (l.removeSubnet i).totalSubnetUids = l.totalSubnetUids := by
  unfold removeSubnet freeSlot
  split <;> rfl

/-- All other subnets keep their slots. -/
theorem removeSubnet_subnetSlot (i j s : ℕ) :
    (l.removeSubnet i).subnetSlot.find? j = some s ↔ j ≠ i ∧ l.subnetSlot.find? j = some s := by
  unfold removeSubnet freeSlot
  split
  · next hnone =>
      constructor
      · intro hs
        refine ⟨?_, hs⟩
        rintro rfl
        rw [hnone] at hs
        cases hs
      · exact And.right
  · dsimp only
    rw [StorageMap.find?_remove]
    by_cases hj : j = i <;> simp [hj]

/-- What the block hook can do. Only in the subnet whose slot it is do nodes change. -/
inductive Step (strict : Prop) (L : ℕ) (target : Option ℕ) : Lifecycle → Lifecycle → Prop
  | node {l : Lifecycle} {i : ℕ} {m : Membership} (hi : target = some i)
      (hstep : l.toMembership.Step strict i m) : Step strict L target l { l with toMembership := m }
  | activate {l : Lifecycle} {i : ℕ} {node : SubnetNode} {rest : List SubnetNode}
      (hi : target = some i) (hqueue : l.queue i = node :: rest)
      (hready : wrapAdd 32 node.classification.startEpoch (l.subnetNodeQueueEpochs.getD i 3) <
        l.subnetEpoch L i) :
      Step strict L target l
        { l with toMembership := l.toMembership.activate i node rest (l.subnetEpoch L i) }
  /-- A queued node of another class than the registered one is dropped. -/
  | skip {l : Lifecycle} {i : ℕ} {node : SubnetNode} {rest : List SubnetNode}
      (hi : target = some i) (hqueue : l.queue i = node :: rest)
      (hclass : node.classification.nodeClass ≠ .registered) :
      Step strict L target l { l with toMembership := l.toMembership.setQueue i rest }
  | removeSubnet {l : Lifecycle} {i : ℕ} {d : SubnetData} (hd : l.subnetsData.find? i = some d) :
      Step strict L target l (l.removeSubnet i)

/-- What a block does, step by step. -/
abbrev Runs (strict : Prop) (L : ℕ) (target : Option ℕ) : Lifecycle → Lifecycle → Prop :=
  ReflTransGen (Step strict L target)

/-- Steps of the reward code in the subnet whose slot it is. -/
theorem runs_of_moves {L i : ℕ} {l : Lifecycle} {m : Membership}
    (h : l.toMembership.Moves strict i m) :
    Runs strict L (some i) l { l with toMembership := m } := by
  induction h with
  | refl => exact .refl
  | tail _ hstep ih =>
      exact ih.tail (Step.node (l := { l with toMembership := _ }) rfl hstep)

end Lifecycle

/-! ## The store -/

/-- Everything that is stored about the existence of subnets and nodes. -/
structure Store extends Records where
  subnetSlot : StorageMap ℕ ℕ
  slotAssignment : StorageMap ℕ ℕ
  assignedSlots : Finset ℕ
  totalSubnetNodeUids : StorageMap ℕ ℕ
  subnetConsensusSubmission : StorageMap (ℕ × ℕ) ConsensusData
  subnetNodeQueueEpochs : StorageMap ℕ ℕ
  totalSubnetUids : ℕ
  subnetRegistrationEpoch : StorageMap ℕ ℕ
  initialValidatorData : StorageMap ℕ (StorageMap ℕ ℕ)
  nodeRegistrationInitialValidatorIds : StorageMap ℕ (StorageMap ℕ ℕ)
  subnetIdFriendlyUid : StorageMap ℕ ℕ
  friendlyUidSubnetId : StorageMap ℕ ℕ
  totalSubnets : ℕ
  totalActiveSubnets : ℕ
  /-- The epochs that have emission weights. -/
  weighted : Finset ℕ

/-- The store of a chain. -/
def Chain.store (c : Chain A) : Store where
  toRecords := c.toState.records
  subnetSlot := c.registry.subnetSlot
  slotAssignment := c.registry.slotAssignment
  assignedSlots := c.registry.assignedSlots
  totalSubnetNodeUids := c.registry.totalSubnetNodeUids
  subnetConsensusSubmission := c.registry.subnetConsensusSubmission
  subnetNodeQueueEpochs := c.registry.subnetNodeQueueEpochs
  totalSubnetUids := c.admission.totalSubnetUids
  subnetRegistrationEpoch := c.registry.subnetRegistrationEpoch
  initialValidatorData := c.registry.initialValidatorData
  nodeRegistrationInitialValidatorIds := c.admission.nodeRegistrationInitialValidatorIds
  subnetIdFriendlyUid := c.registry.subnetIdFriendlyUid
  friendlyUidSubnetId := c.registry.friendlyUidSubnetId
  totalSubnets := c.registry.totalSubnets
  totalActiveSubnets := c.registry.totalActiveSubnets
  weighted := c.registry.finalSubnetEmissionWeights.keys

/-- The lifecycle is a part of the store. -/
def Store.lifecycle (s : Store) : Lifecycle where
  toMembership := s.toMembership
  subnetSlot := s.subnetSlot
  slotAssignment := s.slotAssignment
  assignedSlots := s.assignedSlots
  totalSubnetNodeUids := s.totalSubnetNodeUids
  subnetConsensusSubmission := s.subnetConsensusSubmission
  subnetNodeQueueEpochs := s.subnetNodeQueueEpochs
  totalSubnetUids := s.totalSubnetUids

/-- All entries of a subnet leave the indexes. -/
def Indexes.clear (x : Indexes) (i : ℕ) : Indexes where
  uniqueParam := x.uniqueParam.clearPrefix i
  peerId := x.peerId.clearPrefix i
  bootnodePeerId := x.bootnodePeerId.clearPrefix i
  clientPeerId := x.clientPeerId.clearPrefix i
  multiaddr := x.multiaddr.clearPrefix i

namespace Records

variable (r : Records) (i : ℕ)

/-- All nodes of a subnet are gone. Their validators and their stake stay. -/
def clear : Records :=
  { r.setMembership (r.toMembership.clear i) with
    totalActiveNodes := r.totalActiveNodes - r.totalActiveSubnetNodes.val i
    totalActiveSubnetNodes := r.totalActiveSubnetNodes.remove i
    reputed := r.reputed.filter fun p => p.1 ≠ i
    indexes := r.indexes.clear i }

/-- The first node of the queue becomes an idle node. -/
def activate (node : SubnetNode) (rest : List SubnetNode) (epoch : ℕ) : Records :=
  { r.setMembership (r.toMembership.activate i node rest epoch) with
    totalActiveSubnetNodes :=
      r.totalActiveSubnetNodes.set i (wrapAdd 32 (r.totalActiveSubnetNodes.val i) 1)
    totalActiveNodes := wrapAdd 32 r.totalActiveNodes 1 }

end Records

namespace Store

variable (s : Store) (i : ℕ)

/-- The records are replaced. -/
def setRecords (r : Records) : Store := { s with toRecords := r }

/-- `free_slot_of_subnet`. -/
def freeSlot : Store :=
  match s.subnetSlot.find? i with
  | none => s
  | some slot => { s with
      subnetSlot := s.subnetSlot.remove i
      slotAssignment := s.slotAssignment.remove slot
      assignedSlots := s.assignedSlots.erase slot }

/-- A subnet is removed. Its list of first validators stays. -/
def removeSubnet (d : SubnetData) : Store :=
  { (s.freeSlot i).setRecords (s.toRecords.clear i) with
    totalSubnetNodeUids := s.totalSubnetNodeUids.remove i
    subnetNodeQueueEpochs := s.subnetNodeQueueEpochs.remove i
    subnetRegistrationEpoch := s.subnetRegistrationEpoch.remove i
    initialValidatorData := s.initialValidatorData.remove i
    subnetIdFriendlyUid := s.subnetIdFriendlyUid.remove i
    friendlyUidSubnetId := match s.subnetIdFriendlyUid.find? i with
      | some uid => s.friendlyUidSubnetId.remove uid
      | none => s.friendlyUidSubnetId
    totalSubnets := s.totalSubnets - 1
    totalActiveSubnets :=
      if d.state ≠ .registered then s.totalActiveSubnets - 1 else s.totalActiveSubnets }

theorem removeSubnet_lifecycle (d : SubnetData) :
    (s.removeSubnet i d).lifecycle = s.lifecycle.removeSubnet i := by
  unfold removeSubnet freeSlot Lifecycle.removeSubnet Lifecycle.freeSlot
  have hslot : s.lifecycle.subnetSlot = s.subnetSlot := rfl
  rw [hslot]
  cases s.subnetSlot.find? i with
  | none => rfl
  | some slot => rfl

/-- What the block hook can do to the store. -/
inductive Step (ar : Arith) (t : Terms) (L : ℕ) (target : Option ℕ) : Store → Store → Prop
  | node {s : Store} {i : ℕ} {r : Records} (hi : target = some i)
      (hstep : s.toRecords.Step ar t i r) : Step ar t L target s (s.setRecords r)
  | activate {s : Store} {i : ℕ} {node : SubnetNode} {rest : List SubnetNode}
      (hi : target = some i) (hqueue : s.queue i = node :: rest)
      (hready : wrapAdd 32 node.classification.startEpoch (s.subnetNodeQueueEpochs.getD i 3) <
        s.lifecycle.subnetEpoch L i) :
      Step ar t L target s
        (s.setRecords (s.toRecords.activate i node rest (s.lifecycle.subnetEpoch L i)))
  /-- A queued node of another class than the registered one is dropped. -/
  | skip {s : Store} {i : ℕ} {node : SubnetNode} {rest : List SubnetNode}
      (hi : target = some i) (hqueue : s.queue i = node :: rest)
      (hclass : node.classification.nodeClass ≠ .registered) :
      Step ar t L target s
        (s.setRecords (s.toRecords.setMembership (s.toMembership.setQueue i rest)))
  | removeSubnet {s : Store} {i : ℕ} {d : SubnetData} (hd : s.subnetsData.find? i = some d) :
      Step ar t L target s (s.removeSubnet i d)
  /-- The emission weights of an epoch are stored. -/
  | weigh {s : Store} {e : ℕ} (he : 1 ≤ e) :
      Step ar t L target s { s with weighted := insert e s.weighted }

/-- What a block does to the store, step by step. -/
abbrev Runs (ar : Arith) (t : Terms) (L : ℕ) (target : Option ℕ) : Store → Store → Prop :=
  ReflTransGen (Step ar t L target)

variable {ar : Arith} {t : Terms} {L : ℕ} {target : Option ℕ} {s s' : Store}

theorem runs_of_eq (h : s' = s) : Runs ar t L target s s' := h ▸ .refl

/-- Steps of the reward code in the subnet whose slot it is. -/
theorem runs_of_moves {i : ℕ} {r : Records} (h : s.toRecords.Moves ar t i r) :
    Runs ar t L (some i) s (s.setRecords r) := by
  induction h with
  | refl => exact .refl
  | tail _ hstep ih => exact ih.tail (Step.node (s := s.setRecords _) rfl hstep)

/-- What a step does to the lifecycle. -/
theorem Step.lifecycle (h : Step ar t L target s s') :
    s.lifecycle.Runs t.strict L target s'.lifecycle := by
  cases h with
  | node hi hstep =>
      subst hi
      exact Lifecycle.runs_of_moves (l := s.lifecycle) hstep.membership
  | activate hi hqueue hready => exact .single (.activate (l := s.lifecycle) hi hqueue hready)
  | skip hi hqueue hclass => exact .single (.skip (l := s.lifecycle) hi hqueue hclass)
  | removeSubnet hd =>
      rw [removeSubnet_lifecycle]
      exact .single (.removeSubnet hd)
  | weigh _ => exact .refl

theorem Runs.lifecycle (h : Runs ar t L target s s') :
    s.lifecycle.Runs t.strict L target s'.lifecycle := by
  induction h with
  | refl => exact .refl
  | tail _ hstep ih => exact ih.trans hstep.lifecycle

end Store

end Hypertensor
