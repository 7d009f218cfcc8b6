import Mathlib
import Hypertensor.Rewards.Distribute

/-!
# Hypertensor.Lifecycle.Membership — the nodes of a subnet

`Membership` is the storage that says which nodes a subnet has, which of them have
an election slot, and how many there are. `Membership.Step` lists what the epoch
hook can do to it, one node at a time.

An idle node graduates without a slot and an included one with a slot, and which of
the two is done depends on the class in the submission. That the node still has
this class is what makes a step `strict`; the settlement takes strict steps only if
the submission is `Current`: no node has changed its class since.
-/

namespace Hypertensor

open Base Relation

variable {A : Type} {strict : Prop}

/-! ## Membership -/

/-- The storage that says which nodes the subnets have. -/
structure Membership where
  block : ℕ
  subnetsData : StorageMap ℕ SubnetData
  subnetNodesData : StorageMap (ℕ × ℕ) SubnetNode
  registeredSubnetNodesData : StorageMap (ℕ × ℕ) SubnetNode
  subnetNodeQueue : StorageMap ℕ (List SubnetNode)
  subnetNodeElectionSlots : StorageMap ℕ (List ℕ)
  nodeSlotIndex : StorageMap (ℕ × ℕ) ℕ
  totalSubnetElectableNodes : StorageMap ℕ ℕ
  totalElectableNodes : ℕ
  totalSubnetNodes : StorageMap ℕ ℕ
  totalNodes : ℕ

/-- The membership of a state. -/
def State.membership (s : State A) : Membership where
  block := s.block
  subnetsData := s.subnets.subnetsData
  subnetNodesData := s.nodes.subnetNodesData
  registeredSubnetNodesData := s.nodes.registeredSubnetNodesData
  subnetNodeQueue := s.nodes.subnetNodeQueue
  subnetNodeElectionSlots := s.nodes.subnetNodeElectionSlots
  nodeSlotIndex := s.nodes.nodeSlotIndex
  totalSubnetElectableNodes := s.nodes.totalSubnetElectableNodes
  totalElectableNodes := s.nodes.totalElectableNodes
  totalSubnetNodes := s.nodes.totalSubnetNodes
  totalNodes := s.nodes.totalNodes

namespace Membership

variable (m : Membership) (i id : ℕ)

/-- The record of an active node. -/
def node? : Option SubnetNode := m.subnetNodesData.find? (i, id)

/-- The queue of a subnet. -/
def queue : List SubnetNode := m.subnetNodeQueue.getD i []

/-- The election slots of a subnet. -/
def slots : List ℕ := m.subnetNodeElectionSlots.getD i []

/-- A node gets an election slot. -/
def addSlot : Membership :=
  { m with
    subnetNodeElectionSlots := m.subnetNodeElectionSlots.set i (m.slots i ++ [id])
    nodeSlotIndex := m.nodeSlotIndex.set (i, id) (m.slots i).length
    totalSubnetElectableNodes := m.totalSubnetElectableNodes.set i
      (min (m.totalSubnetElectableNodes.val i + 1) u32Max)
    totalElectableNodes := min (m.totalElectableNodes + 1) u32Max }

/-- The index after the last node took the place of the one at `pos`. -/
def patchIndex (pos : ℕ) : StorageMap (ℕ × ℕ) ℕ :=
  if pos ≠ (m.slots i).length - 1
  then m.nodeSlotIndex.set (i, (State.swapRemove (m.slots i) pos).getD pos 0) pos
  else m.nodeSlotIndex

/-- A node loses its election slot. -/
def dropSlot : Membership :=
  let pos := (m.slots i).idxOf id
  if pos < (m.slots i).length then
    { m with
      subnetNodeElectionSlots :=
        m.subnetNodeElectionSlots.set i (State.swapRemove (m.slots i) pos)
      nodeSlotIndex := (m.patchIndex i pos).remove (i, id)
      totalSubnetElectableNodes := m.totalSubnetElectableNodes.set i
        (m.totalSubnetElectableNodes.val i - 1)
      totalElectableNodes := m.totalElectableNodes - 1 }
  else { m with subnetNodeElectionSlots := m.subnetNodeElectionSlots.set i (m.slots i) }

/-- One node fewer. -/
def countDown : Membership :=
  { m with
    totalSubnetNodes := m.totalSubnetNodes.set i (m.totalSubnetNodes.val i - 1)
    totalNodes := m.totalNodes - 1 }

/-- An active node leaves. -/
def removeActive (node : SubnetNode) : Membership :=
  let m₁ := { m with subnetNodesData := m.subnetNodesData.remove (i, id) }.countDown i
  if node.classification.nodeClass = .validator then m₁.dropSlot i id else m₁

/-- A queued node leaves. -/
def removeRegistered : Membership :=
  { m with
    registeredSubnetNodesData := m.registeredSubnetNodesData.remove (i, id)
    subnetNodeQueue := m.subnetNodeQueue.set i ((m.queue i).filter fun n => n.id ≠ id) }.countDown i

/-- A queue is replaced. -/
def setQueue (queue : List SubnetNode) : Membership :=
  { m with subnetNodeQueue := m.subnetNodeQueue.set i queue }

/-- A node rises to the next class. -/
def graduate (node : SubnetNode) (epoch : ℕ) : Membership :=
  { m with subnetNodesData := m.subnetNodesData.set (i, id) (State.nextClass node epoch) }

/-- What the reward code can do to the nodes of a subnet. A strict step treats a
node by the class it has. -/
inductive Step (strict : Prop) (i : ℕ) : Membership → Membership → Prop
  | removeActive {m : Membership} {id : ℕ} {node : SubnetNode} (hnode : m.node? i id = some node) :
      Step strict i m (m.removeActive i id node)
  | removeRegistered {m : Membership} {id : ℕ} {node : SubnetNode}
      (hnode : m.registeredSubnetNodesData.find? (i, id) = some node) :
      Step strict i m (m.removeRegistered i id)
  | reorder {m : Membership} {queue : List SubnetNode} (hperm : queue.Perm (m.queue i)) :
      Step strict i m (m.setQueue i queue)
  | graduate {m : Membership} {id : ℕ} {node : SubnetNode} (epoch : ℕ)
      (hnode : m.node? i id = some node)
      (hclass : strict → node.classification.nodeClass = .idle) :
      Step strict i m (m.graduate i id node epoch)
  | promote {m : Membership} {id : ℕ} {node : SubnetNode} (epoch : ℕ)
      (hnode : m.node? i id = some node)
      (hclass : strict → node.classification.nodeClass = .included)
      (hslot : id ∉ m.slots i) : Step strict i m ((m.graduate i id node epoch).addSlot i id)

/-- Steps in one subnet. -/
abbrev Moves (strict : Prop) (i : ℕ) : Membership → Membership → Prop :=
  ReflTransGen (Step strict i)

@[simp] theorem dropSlot_block : (m.dropSlot i id).block = m.block := by
  unfold dropSlot
  dsimp only
  split <;> rfl

@[simp] theorem dropSlot_subnetNodesData : (m.dropSlot i id).subnetNodesData = m.subnetNodesData := by
  unfold dropSlot
  dsimp only
  split <;> rfl

theorem removeActive_subnetNodesData (node : SubnetNode) :
    (m.removeActive i id node).subnetNodesData = m.subnetNodesData.remove (i, id) := by
  unfold removeActive
  dsimp only
  split
  · rw [dropSlot_subnetNodesData]
    rfl
  · rfl

theorem removeActive_registeredSubnetNodesData (node : SubnetNode) :
    (m.removeActive i id node).registeredSubnetNodesData = m.registeredSubnetNodesData := by
  unfold removeActive dropSlot
  dsimp only
  split
  · split <;> rfl
  · rfl

theorem removeActive_subnetNodeQueue (node : SubnetNode) :
    (m.removeActive i id node).subnetNodeQueue = m.subnetNodeQueue := by
  unfold removeActive dropSlot
  dsimp only
  split
  · split <;> rfl
  · rfl

theorem removeActive_block (node : SubnetNode) : (m.removeActive i id node).block = m.block := by
  unfold removeActive
  dsimp only
  split
  · exact dropSlot_block ..
  · rfl

/-- What is left of the active nodes. -/
theorem removeActive_node? (node : SubnetNode) (j : ℕ) :
    (m.removeActive i id node).node? i j = if j = id then none else m.node? i j := by
  unfold node?
  rw [removeActive_subnetNodesData, StorageMap.find?_remove]
  simp

variable {m i id}

theorem Step.block {m' : Membership} (h : Step strict i m m') : m'.block = m.block := by
  cases h with
  | removeActive _ => exact removeActive_block ..
  | removeRegistered _ => rfl
  | reorder _ => rfl
  | graduate _ _ _ => rfl
  | promote _ _ _ _ => rfl

/-- The reward code leaves the subnets alone. -/
theorem Step.subnetsData {m' : Membership} (h : Step strict i m m') :
    m'.subnetsData = m.subnetsData := by
  cases h with
  | removeActive _ =>
      unfold Membership.removeActive
      dsimp only
      split
      · unfold Membership.dropSlot
        dsimp only
        split <;> rfl
      · rfl
  | _ => rfl

/-- Nobody is queued by the reward code. -/
theorem Step.registered_none {m' : Membership} {j : ℕ} (h : Step strict i m m')
    (hnone : m.registeredSubnetNodesData.find? (i, j) = none) :
    m'.registeredSubnetNodesData.find? (i, j) = none := by
  cases h with
  | removeActive _ =>
      rw [removeActive_registeredSubnetNodesData]
      exact hnone
  | removeRegistered _ =>
      unfold Membership.removeRegistered countDown
      dsimp only
      rw [StorageMap.find?_remove]
      split
      · rfl
      · exact hnone
  | reorder _ => exact hnone
  | graduate _ _ _ => exact hnone
  | promote _ _ _ _ => exact hnone

theorem Moves.block {m' : Membership} (h : Moves strict i m m') : m'.block = m.block := by
  induction h with
  | refl => rfl
  | tail _ hstep ih => exact hstep.block.trans ih

end Membership

namespace State

/-! ## Operations on one node -/

section Operations

variable (s : State A) (i id : ℕ)

theorem removeNodeFromElectionSlot_membership :
    (s.removeNodeFromElectionSlot i id).membership = s.membership.dropSlot i id := by
  unfold removeNodeFromElectionSlot Membership.dropSlot
  dsimp only
  have hslots : s.membership.slots i = s.nodes.subnetNodeElectionSlots.getD i [] := rfl
  rw [hslots]
  split
  · rfl
  · rfl

end Operations

end State

/-- No node of the list has changed its class since the list was made. -/
def Membership.Current (m : Membership) (i : ℕ) (nodes : List SubnetNode) : Prop :=
  ∀ n ∈ nodes, ∀ node, m.node? i n.id = some node →
    node.classification.nodeClass = n.classification.nodeClass

theorem Membership.Current.of_others {m m' : Membership} {i id : ℕ} {nodes : List SubnetNode}
    (hcur : m.Current i nodes) (hids : ∀ n ∈ nodes, n.id ≠ id)
    (hothers : ∀ j, j ≠ id → m'.node? i j = m.node? i j) : m'.Current i nodes := by
  intro n hn node hnode
  rw [hothers n.id (hids n hn)] at hnode
  exact hcur n hn node hnode

end Hypertensor
