import Mathlib
import Hypertensor.Base.Indexed
import Hypertensor.Lifecycle.System

/-!
# Hypertensor.Lifecycle.Slots — the election slots of a subnet

The election slots of a subnet are a list with an index (`Base.Indexed`): the ids of
its nodes of the validator class, each at the position `NodeSlotIndex` gives it.
`Roster` adds what keeps this true: ids are given out once, a node is active or
queued and not both, and the queue has one entry per node.

Everything that can happen to one subnet keeps its roster, and leaves the rosters
of all others as they are (`SameAt`).
-/

namespace Hypertensor

open Base Relation

namespace Membership

variable {m m' : Membership} {i j id uids : ℕ} {node : SubnetNode}

/-! ## Other subnets -/

/-- Nothing about the nodes of a subnet has changed. -/
structure SameAt (j : ℕ) (m m' : Membership) : Prop where
  node : ∀ id, m'.node? j id = m.node? j id
  registered : ∀ id, m'.registeredSubnetNodesData.find? (j, id) =
    m.registeredSubnetNodesData.find? (j, id)
  queue : m'.queue j = m.queue j
  slots : m'.slots j = m.slots j
  index : ∀ id, m'.nodeSlotIndex.find? (j, id) = m.nodeSlotIndex.find? (j, id)
  electable : m'.totalSubnetElectableNodes.val j = m.totalSubnetElectableNodes.val j
  count : m'.totalSubnetNodes.val j = m.totalSubnetNodes.val j

/-- A subnet is the same where nothing is written. -/
theorem SameAt.refl (j : ℕ) (m : Membership) : SameAt j m m :=
  ⟨fun _ => rfl, fun _ => rfl, rfl, rfl, fun _ => rfl, rfl, rfl⟩

/-- Two steps that leave a subnet alone do so together. -/
theorem SameAt.trans {m₁ m₂ m₃ : Membership} (h₁ : SameAt j m₁ m₂) (h₂ : SameAt j m₂ m₃) :
    SameAt j m₁ m₃ where
  node id := (h₂.node id).trans (h₁.node id)
  registered id := (h₂.registered id).trans (h₁.registered id)
  queue := h₂.queue.trans h₁.queue
  slots := h₂.slots.trans h₁.slots
  index id := (h₂.index id).trans (h₁.index id)
  electable := h₂.electable.trans h₁.electable
  count := h₂.count.trans h₁.count

section Others

variable (m) (hj : j ≠ i)
include hj

/-- A read at another first key. -/
theorem key_ne (a b : ℕ) : (j, a) ≠ (i, b) := fun heq => hj (Prod.mk.inj heq).1

/-- Another subnet gets an election slot. -/
theorem sameAt_addSlot : SameAt j m (m.addSlot i id) where
  node _ := rfl
  registered _ := rfl
  queue := rfl
  slots := by simp [slots, addSlot, StorageMap.getD, hj]
  index a := StorageMap.find?_set_ne _ _ (key_ne hj a id)
  electable := StorageMap.val_set_ne _ _ hj
  count := rfl

/-- Another subnet loses an election slot. -/
theorem sameAt_dropSlot : SameAt j m (m.dropSlot i id) := by
  unfold dropSlot
  dsimp only
  split
  · exact {
      node := fun _ => rfl
      registered := fun _ => rfl
      queue := rfl
      slots := by simp [slots, StorageMap.getD, hj]
      index := fun a => by
        rw [StorageMap.find?_remove_ne _ (key_ne hj a id)]
        unfold patchIndex
        split
        · exact StorageMap.find?_set_ne _ _ (key_ne hj a _)
        · rfl
      electable := StorageMap.val_set_ne _ _ hj
      count := rfl }
  · exact {
      node := fun _ => rfl
      registered := fun _ => rfl
      queue := rfl
      slots := by simp [slots, StorageMap.getD, hj]
      index := fun _ => rfl
      electable := rfl
      count := rfl }

theorem sameAt_countDown : SameAt j m (m.countDown i) :=
  { SameAt.refl j m with count := StorageMap.val_set_ne _ _ hj }

theorem sameAt_countUp : SameAt j m (m.countUp i) :=
  { SameAt.refl j m with count := StorageMap.val_set_ne _ _ hj }

/-- A node of another subnet is written. -/
theorem sameAt_setNode (node : SubnetNode) :
    SameAt j m { m with subnetNodesData := m.subnetNodesData.set (i, id) node } :=
  { SameAt.refl j m with node := fun a => StorageMap.find?_set_ne _ _ (key_ne hj a id) }

theorem sameAt_removeNode (id : ℕ) :
    SameAt j m { m with subnetNodesData := m.subnetNodesData.remove (i, id) } :=
  { SameAt.refl j m with node := fun a => StorageMap.find?_remove_ne _ (key_ne hj a id) }

theorem sameAt_setRegistered (node : SubnetNode) :
    SameAt j m
      { m with registeredSubnetNodesData := m.registeredSubnetNodesData.set (i, id) node } :=
  { SameAt.refl j m with registered := fun a => StorageMap.find?_set_ne _ _ (key_ne hj a id) }

theorem sameAt_removeRegisteredData (id : ℕ) :
    SameAt j m
      { m with registeredSubnetNodesData := m.registeredSubnetNodesData.remove (i, id) } :=
  { SameAt.refl j m with registered := fun a => StorageMap.find?_remove_ne _ (key_ne hj a id) }

theorem sameAt_setQueue (queue : List SubnetNode) : SameAt j m (m.setQueue i queue) :=
  { SameAt.refl j m with
    queue := by simp [Membership.queue, setQueue, StorageMap.getD, hj] }

/-- An active node of another subnet is removed. -/
theorem sameAt_removeActive (node : SubnetNode) : SameAt j m (m.removeActive i id node) := by
  have hcount := (sameAt_removeNode m hj id).trans (sameAt_countDown _ hj)
  unfold removeActive
  dsimp only
  split
  · exact hcount.trans (sameAt_dropSlot _ hj)
  · exact hcount

/-- A queued node of another subnet is removed. -/
theorem sameAt_removeRegistered : SameAt j m (m.removeRegistered i id) :=
  ((sameAt_removeRegisteredData m hj id).trans (sameAt_setQueue _ hj _)).trans
    (sameAt_countDown _ hj)

/-- What the reward code does in a subnet leaves all others alone. -/
theorem Step.sameAt {strict : Prop} (h : Step strict i m m') : SameAt j m m' := by
  cases h with
  | removeActive _ => exact sameAt_removeActive m hj _
  | removeRegistered _ => exact sameAt_removeRegistered m hj
  | reorder _ => exact sameAt_setQueue m hj _
  | graduate _ _ _ => exact sameAt_setNode m hj _
  | promote _ _ _ _ => exact (sameAt_setNode m hj _).trans (sameAt_addSlot _ hj)

/-- A node of another subnet comes out of its queue. -/
theorem sameAt_activate (node : SubnetNode) (rest : List SubnetNode) (e : ℕ) :
    SameAt j m (m.activate i node rest e) :=
  ((sameAt_removeRegisteredData m hj _).trans (sameAt_setNode _ hj _)).trans (sameAt_setQueue _ hj _)

/-- A node is seated in another subnet that registers. -/
theorem sameAt_seat (node : SubnetNode) : SameAt j m (m.seat i node) :=
  ((sameAt_addSlot m hj).trans (sameAt_removeRegisteredData _ hj _)).trans (sameAt_setNode _ hj _)

/-- A node goes into the queue of another subnet. -/
theorem sameAt_enqueue (node : SubnetNode) : SameAt j m (m.enqueue i node) :=
  (sameAt_setRegistered m hj node).trans (sameAt_setQueue _ hj _)

/-- Another subnet is removed. -/
theorem sameAt_clear : SameAt j m (m.clear i) where
  node a := by simp [node?, clear, StorageMap.find?_clearPrefix, hj]
  registered a := by simp [clear, StorageMap.find?_clearPrefix, hj]
  queue := by simp [Membership.queue, clear, StorageMap.getD, hj]
  slots := by simp [slots, clear, StorageMap.getD, hj]
  index a := by simp [clear, StorageMap.find?_clearPrefix, hj]
  electable := StorageMap.val_remove_ne _ hj
  count := StorageMap.val_remove_ne _ hj

end Others

/-! ## Slots -/

/-- The node is active and of the validator class. -/
def IsValidator (m : Membership) (i id : ℕ) : Prop :=
  ∃ n, m.node? i id = some n ∧ n.classification.nodeClass = .validator

/-- The election slots of a subnet are its validators, each at its index, and
counted. -/
structure Slotted (m : Membership) (i : ℕ) : Prop where
  index : Indexed (m.slots i) fun id => m.nodeSlotIndex.find? (i, id)
  mem_slots : ∀ id, id ∈ m.slots i ↔ m.IsValidator i id
  count : m.totalSubnetElectableNodes.val i = (m.slots i).length

/-- Who is a validator depends on the subnet alone. -/
theorem SameAt.isValidator (h : SameAt i m m') : m'.IsValidator i id ↔ m.IsValidator i id := by
  unfold IsValidator
  rw [h.node]

/-- The slots stay as they are while nobody becomes a validator or ceases to be one. -/
theorem Slotted.of_eq (h : m.Slotted i) (hslots : m'.slots i = m.slots i)
    (hindex : ∀ id, m'.nodeSlotIndex.find? (i, id) = m.nodeSlotIndex.find? (i, id))
    (hcount : m'.totalSubnetElectableNodes.val i = m.totalSubnetElectableNodes.val i)
    (hvalidator : ∀ id, m'.IsValidator i id ↔ m.IsValidator i id) : m'.Slotted i where
  index := by
    rw [hslots]
    exact h.index.congr hindex
  mem_slots id := by
    rw [hslots, hvalidator]
    exact h.mem_slots id
  count := by
    rw [hslots, hcount]
    exact h.count

/-- So do the election slots. -/
theorem Slotted.sameAt (h : m.Slotted i) (hsame : SameAt i m m') : m'.Slotted i :=
  h.of_eq hsame.slots hsame.index hsame.electable fun _ => hsame.isValidator

/-- A node that is given a slot becomes a validator. -/
theorem Slotted.addSlot (h : m.Slotted i) (hid : id ∉ m.slots i)
    (hroom : (m.slots i).length < u32Max) (hrecord : m'.slots i = (m.addSlot i id).slots i)
    (hindex : m'.nodeSlotIndex = (m.addSlot i id).nodeSlotIndex)
    (hcount : m'.totalSubnetElectableNodes = (m.addSlot i id).totalSubnetElectableNodes)
    (hvalidator : ∀ j, m'.IsValidator i j ↔ j = id ∨ m.IsValidator i j) : m'.Slotted i := by
  have hslots : m'.slots i = m.slots i ++ [id] := by
    rw [hrecord]
    simp [slots, Membership.addSlot, StorageMap.getD]
  constructor
  · rw [hslots, hindex]
    refine (h.index.append hid).congr fun j => ?_
    unfold Membership.addSlot
    dsimp only
    rw [StorageMap.find?_set]
    by_cases hj : j = id <;> simp [hj]
  · intro j
    rw [hslots, hvalidator, List.mem_append, List.mem_singleton, h.mem_slots]
    exact or_comm
  · rw [hslots, hcount]
    unfold Membership.addSlot
    dsimp only
    rw [StorageMap.val_set_self, h.count, List.length_append, List.length_singleton]
    omega

/-- Where a list has an entry the default is not read. -/
theorem getD_eq_of_getElem? {xs : List ℕ} {k a : ℕ} (h : xs[k]? = some a) (d : ℕ) :
    xs.getD k d = a := by
  rw [List.getD_eq_getElem?_getD, h]
  rfl

/-- What is left after `swap_remove`. -/
theorem indexed_swapRemove {xs : List ℕ} {pos : ℕ → Option ℕ} (h : Indexed xs pos)
    (hid : id ∈ xs) :
    (State.swapRemove xs (xs.idxOf id)).length = xs.length - 1 ∧
      (∀ j, j ∈ State.swapRemove xs (xs.idxOf id) ↔ j ≠ id ∧ j ∈ xs) ∧
      Indexed (State.swapRemove xs (xs.idxOf id)) fun j =>
        if j = id then none
        else if xs.idxOf id ≠ xs.length - 1 ∧
          j = (State.swapRemove xs (xs.idxOf id)).getD (xs.idxOf id) 0 then some (xs.idxOf id)
        else pos j := by
  have hlt : xs.idxOf id < xs.length := List.idxOf_lt_length_iff.mpr hid
  have hget : xs[xs.idxOf id]? = some id := by
    rw [List.getElem?_eq_getElem hlt, List.getElem_idxOf]
  generalize xs.idxOf id = k at hlt hget ⊢
  rcases List.eq_nil_or_concat xs with rfl | ⟨ys, z, rfl⟩
  · cases hid
  · rw [List.concat_eq_append] at *
    have hlast : (ys ++ [z]).getLastD 0 = z := by simp
    rw [List.length_append, List.length_singleton] at hlt
    unfold State.swapRemove
    rw [hlast]
    by_cases hk : k < ys.length
    · -- the last element takes the place
      rw [List.getElem?_append_left hk] at hget
      have hset : ((ys ++ [z]).set k z).dropLast = ys.set k z := by
        rw [List.set_append_left _ _ hk, List.dropLast_concat]
      have hat : (ys.set k z).getD k 0 = z := getD_eq_of_getElem? (by simp [hk]) 0
      rw [hset, hat]
      refine ⟨by simp, fun j => h.mem_set_last hget, (h.set_last hget).congr fun j => ?_⟩
      by_cases hj : j = id
      · simp [hj]
      · by_cases hjz : j = z <;> simp [hj, hjz, hk.ne]
    · -- the last element is the one removed
      have hk' : k = ys.length := by omega
      subst hk'
      have hz : z = id := by simpa using hget
      subst hz
      have hset : ((ys ++ [z]).set ys.length z).dropLast = ys := by simp
      rw [hset]
      exact ⟨by simp, fun j => h.mem_drop_last, h.drop_last.congr fun j => by simp⟩

/-- A node that loses its slot ceases to be a validator. -/
theorem Slotted.dropSlot (h : m.Slotted i) (hid : id ∈ m.slots i)
    (hslots : m'.subnetNodeElectionSlots = m.subnetNodeElectionSlots)
    (hindex : m'.nodeSlotIndex = m.nodeSlotIndex)
    (hcount : m'.totalSubnetElectableNodes = m.totalSubnetElectableNodes)
    (hvalidator : ∀ j, (m'.dropSlot i id).IsValidator i j ↔ j ≠ id ∧ m.IsValidator i j) :
    (m'.dropSlot i id).Slotted i := by
  have hsame : m'.slots i = m.slots i := by
    unfold slots
    rw [hslots]
  have hlt : (m.slots i).idxOf id < (m.slots i).length := List.idxOf_lt_length_iff.mpr hid
  have hdrop : m'.dropSlot i id = _ := if_pos (hsame.symm ▸ hlt)
  rcases indexed_swapRemove h.index hid with ⟨hlength, hmem, hremoved⟩
  have hswap : (m'.dropSlot i id).slots i =
      State.swapRemove (m.slots i) ((m.slots i).idxOf id) := by
    rw [hdrop, hsame]
    simp [slots, StorageMap.getD]
  constructor
  · rw [hswap, hdrop, hsame]
    refine hremoved.congr fun j => ?_
    unfold patchIndex
    rw [hsame, hindex]
    by_cases hj : j = id
    · simp [hj]
    · rw [if_neg hj, StorageMap.find?_remove_ne _ (by simpa using hj)]
      by_cases hpos : (m.slots i).idxOf id ≠ (m.slots i).length - 1
      · rw [if_pos hpos, StorageMap.find?_set]
        simp [hpos]
      · rw [if_neg hpos]
        simp [hpos]
  · intro j
    rw [hvalidator, ← h.mem_slots, ← hmem, hswap]
  · rw [hswap, hlength, hdrop, StorageMap.val_set_self, hcount, h.count]

/-! ## Rosters -/

/-- The nodes of a subnet that has given out the ids up to `uids`. -/
structure Roster (m : Membership) (uids i : ℕ) : Prop where
  slotted : m.Slotted i
  active : ∀ id n, m.node? i id = some n → n.id = id ∧ 1 ≤ id ∧ id ≤ uids ∧
    m.registeredSubnetNodesData.find? (i, id) = none
  registered : ∀ id n, m.registeredSubnetNodesData.find? (i, id) = some n → 1 ≤ id ∧ id ≤ uids
  queued : ∀ n ∈ m.queue i, (∃ r, m.registeredSubnetNodesData.find? (i, n.id) = some r) ∧
    n.classification.nodeClass = .registered
  queue_nodup : ((m.queue i).map SubnetNode.id).Nodup
  uids_le : uids ≤ u32Max

namespace Roster

/-- So does the roster of the subnet. -/
theorem sameAt (h : m.Roster uids i) (hsame : SameAt i m m') : m'.Roster uids i where
  slotted := h.slotted.sameAt hsame
  active id n hn := by
    rw [hsame.registered]
    exact h.active id n (hsame.node id ▸ hn)
  registered id n hn := h.registered id n (hsame.registered id ▸ hn)
  queued n hn := by
    rw [hsame.registered]
    exact h.queued n (hsame.queue ▸ hn)
  queue_nodup := by
    rw [hsame.queue]
    exact h.queue_nodup
  uids_le := h.uids_le

/-- A subnet has fewer election slots than ids. -/
theorem slots_lt (h : m.Roster uids i) {id : ℕ} (hid : id ∉ m.slots i) (hpos : 1 ≤ id)
    (hle : id ≤ u32Max) : (m.slots i).length < u32Max := by
  have hnodup : (id :: m.slots i).Nodup := List.nodup_cons.mpr ⟨hid, h.slotted.index.nodup⟩
  have hsub : (id :: m.slots i) ⊆ List.range' 1 u32Max := by
    intro j hj
    rw [List.mem_range'_1]
    rcases List.mem_cons.mp hj with rfl | hj
    · omega
    · rcases (h.slotted.mem_slots j).mp hj with ⟨n, hn, _⟩
      have hactive := h.active j n hn
      have := h.uids_le
      omega
  have hlen := (hnodup.subperm hsub).length_le
  rw [List.length_cons, List.length_range'] at hlen
  omega

/-! ### What the reward code does -/

/-- An active node that is removed leaves the slots, and the counts go down. -/
theorem removeActive (h : m.Roster uids i) (hnode : m.node? i id = some node) :
    (m.removeActive i id node).Roster uids i := by
  have hreg := removeActive_registeredSubnetNodesData m i id node
  have hqueue : (m.removeActive i id node).queue i = m.queue i := by
    unfold Membership.queue
    rw [removeActive_subnetNodeQueue]
  -- the node loses its slot just when it was a validator
  have hvalidator : ∀ j, (m.removeActive i id node).IsValidator i j ↔
      j ≠ id ∧ m.IsValidator i j := by
    intro j
    unfold IsValidator
    rw [removeActive_node?]
    by_cases hj : j = id <;> simp [hj]
  refine ⟨?_, ?_, ?_, ?_, ?_, h.uids_le⟩
  · unfold Membership.removeActive at hvalidator ⊢
    dsimp only at hvalidator ⊢
    split
    · next hclass =>
        rw [if_pos hclass] at hvalidator
        refine h.slotted.dropSlot ((h.slotted.mem_slots id).mpr ⟨node, hnode, hclass⟩) rfl rfl rfl ?_
        exact hvalidator
    · next hclass =>
        rw [if_neg hclass] at hvalidator
        refine h.slotted.of_eq rfl (fun _ => rfl) rfl fun j => ?_
        rw [hvalidator]
        constructor
        · exact And.right
        · rintro ⟨n, hn, hc⟩
          refine ⟨?_, n, hn, hc⟩
          rintro rfl
          rw [hnode] at hn
          cases hn
          exact hclass hc
  · intro j n hn
    rw [removeActive_node?] at hn
    split at hn
    · cases hn
    · rw [hreg]
      exact h.active j n hn
  · rw [hreg]
    exact h.registered
  · rw [hreg, hqueue]
    exact h.queued
  · rw [hqueue]
    exact h.queue_nodup

/-- A queued node that is removed has no place among the slots. -/
theorem removeRegistered (h : m.Roster uids i) : (m.removeRegistered i id).Roster uids i := by
  have hqueue : (m.removeRegistered i id).queue i = (m.queue i).filter fun n => n.id ≠ id := by
    simp [Membership.queue, Membership.removeRegistered, countDown, StorageMap.getD]
  have hreg : ∀ j, (m.removeRegistered i id).registeredSubnetNodesData.find? (i, j) =
      if j = id then none else m.registeredSubnetNodesData.find? (i, j) := by
    intro j
    unfold Membership.removeRegistered countDown
    dsimp only
    rw [StorageMap.find?_remove]
    simp
  refine ⟨h.slotted.of_eq rfl (fun _ => rfl) rfl fun _ => Iff.rfl, ?_, ?_, ?_, ?_, h.uids_le⟩
  · intro j n hn
    rcases h.active j n hn with ⟨hid, hpos, hle, hnone⟩
    refine ⟨hid, hpos, hle, ?_⟩
    rw [hreg, hnone]
    split <;> rfl
  · intro j n hn
    rw [hreg] at hn
    split at hn
    · cases hn
    · exact h.registered j n hn
  · intro n hn
    rw [hqueue, List.mem_filter] at hn
    rw [hreg, if_neg (by simpa using hn.2)]
    exact h.queued n hn.1
  · rw [hqueue]
    exact h.queue_nodup.sublist (List.filter_sublist.map _)

/-- The order of the queue does not matter to the roster. -/
theorem reorder (h : m.Roster uids i) {queue : List SubnetNode} (hperm : queue.Perm (m.queue i)) :
    (m.setQueue i queue).Roster uids i := by
  have hqueue : (m.setQueue i queue).queue i = queue := by
    simp [Membership.queue, setQueue, StorageMap.getD]
  refine ⟨h.slotted.of_eq rfl (fun _ => rfl) rfl fun _ => Iff.rfl, h.active, h.registered, ?_, ?_,
    h.uids_le⟩
  · rw [hqueue]
    exact fun n hn => h.queued n (hperm.mem_iff.mp hn)
  · rw [hqueue]
    exact (hperm.map _).nodup_iff.mpr h.queue_nodup

/-- A record is replaced by one of the same node. -/
theorem setNode (h : m.Roster uids i) {node' : SubnetNode} (hnode : m.node? i id = some node)
    (hdata : m'.subnetNodesData = m.subnetNodesData.set (i, id) node')
    (hid : node'.id = node.id) (hslotted : m'.Slotted i)
    (hreg : m'.registeredSubnetNodesData = m.registeredSubnetNodesData)
    (hqueue : m'.subnetNodeQueue = m.subnetNodeQueue) : m'.Roster uids i := by
  have hold := h.active id node hnode
  have hqueue' : m'.queue i = m.queue i := by
    unfold Membership.queue
    rw [hqueue]
  refine ⟨hslotted, ?_, hreg ▸ h.registered, ?_, hqueue'.symm ▸ h.queue_nodup, h.uids_le⟩
  · intro j n hn
    unfold node? at hn
    rw [hdata, StorageMap.find?_set] at hn
    rw [hreg]
    split at hn
    · next heq =>
        cases heq
        cases hn
        exact ⟨hid.trans hold.1, hold.2⟩
    · exact h.active j n hn
  · rw [hqueue', hreg]
    exact h.queued

/-- A node with a new record that is no validator before or after. -/
theorem isValidator_setNode (m' : Membership) {node' : SubnetNode}
    (hdata : m'.subnetNodesData = m.subnetNodesData.set (i, id) node') (hbefore : ¬m.IsValidator i id) (j : ℕ) :
    m'.IsValidator i j ↔
      (j = id ∧ node'.classification.nodeClass = .validator) ∨ m.IsValidator i j := by
  unfold IsValidator node? at hbefore ⊢
  rw [hdata, StorageMap.find?_set]
  by_cases hj : j = id
  · subst hj
    simp only [if_true, Option.some.injEq, true_and]
    constructor
    · rintro ⟨n, rfl, hn⟩
      exact Or.inl hn
    · rintro (hn | hn)
      · exact ⟨node', rfl, hn⟩
      · exact absurd hn hbefore
  · simp [hj]

/-- A node of another class is no validator. -/
theorem not_isValidator (hnode : m.node? i id = some node)
    (hclass : node.classification.nodeClass ≠ .validator) : ¬m.IsValidator i id := by
  rintro ⟨n, hn, hc⟩
  rw [hnode] at hn
  cases hn
  exact hclass hc

/-- An idle node graduates to a class that is no validator's. -/
theorem graduate (h : m.Roster uids i) (epoch : ℕ) (hnode : m.node? i id = some node)
    (hclass : node.classification.nodeClass = .idle) :
    (m.graduate i id node epoch).Roster uids i := by
  refine h.setNode hnode rfl rfl ?_ rfl rfl
  refine h.slotted.of_eq rfl (fun _ => rfl) rfl fun j => ?_
  have hnot := not_isValidator hnode (by simp [hclass])
  rw [isValidator_setNode (m.graduate i id node epoch) rfl hnot]
  simp [State.nextClass, hclass, SubnetNodeClass.next]

/-- An included node becomes a validator, and gets the slot of one. -/
theorem promote (h : m.Roster uids i) (epoch : ℕ) (hnode : m.node? i id = some node)
    (hclass : node.classification.nodeClass = .included) (hslot : id ∉ m.slots i) :
    ((m.graduate i id node epoch).addSlot i id).Roster uids i := by
  refine h.setNode hnode rfl rfl ?_ rfl rfl
  rcases h.active id node hnode with ⟨_, hpos, hle, _⟩
  refine h.slotted.addSlot hslot (h.slots_lt hslot hpos (hle.trans h.uids_le)) rfl rfl rfl fun j => ?_
  have hnot := not_isValidator hnode (by simp [hclass])
  rw [isValidator_setNode ((m.graduate i id node epoch).addSlot i id) rfl hnot]
  simp [State.nextClass, hclass, SubnetNodeClass.next]

/-- What the reward code does, as long as it takes each node for what it is. -/
theorem step (h : m.Roster uids i) (hstep : Step True i m m') : m'.Roster uids i := by
  cases hstep with
  | removeActive hnode => exact h.removeActive hnode
  | removeRegistered _ => exact h.removeRegistered
  | reorder hperm => exact h.reorder hperm
  | graduate epoch hnode hclass => exact h.graduate epoch hnode (hclass trivial)
  | promote epoch hnode hclass hslot => exact h.promote epoch hnode (hclass trivial) hslot

/-! ### Registration and activation -/

/-- The first node of the queue is activated. -/
theorem activate (h : m.Roster uids i) {rest : List SubnetNode} (hqueue : m.queue i = node :: rest)
    (epoch : ℕ) : (m.activate i node rest epoch).Roster uids i := by
  have hmem : node ∈ m.queue i := by simp [hqueue]
  rcases h.queued node hmem with ⟨⟨r, hr⟩, _⟩
  -- whoever is queued is registered, and so not active yet
  have hnone : m.node? i node.id = none := by
    cases hn : m.node? i node.id with
    | none => rfl
    | some n =>
        have hactive := (h.active node.id n hn).2.2.2
        rw [hr] at hactive
        cases hactive
  have hqueue' : (m.activate i node rest epoch).queue i = rest := by
    simp [Membership.queue, Membership.activate, StorageMap.getD]
  have hreg : ∀ j, (m.activate i node rest epoch).registeredSubnetNodesData.find? (i, j) =
      if j = node.id then none else m.registeredSubnetNodesData.find? (i, j) := by
    intro j
    unfold Membership.activate
    dsimp only
    rw [StorageMap.find?_remove]
    simp
  have hnodup := h.queue_nodup
  rw [hqueue, List.map_cons, List.nodup_cons] at hnodup
  refine ⟨?_, ?_, ?_, ?_, hqueue'.symm ▸ hnodup.2, h.uids_le⟩
  · refine h.slotted.of_eq rfl (fun _ => rfl) rfl fun j => ?_
    have hnot : ¬m.IsValidator i node.id := by
      rintro ⟨n, hn, _⟩
      rw [hnone] at hn
      cases hn
    rw [isValidator_setNode (m.activate i node rest epoch) rfl hnot]
    simp
  · intro j n hn
    unfold node? Membership.activate at hn
    dsimp only at hn
    rw [StorageMap.find?_set] at hn
    rw [hreg]
    split at hn
    · next heq =>
        cases heq
        cases hn
        rw [if_pos rfl]
        exact ⟨rfl, (h.registered _ r hr).1, (h.registered _ r hr).2, rfl⟩
    · rcases h.active j n hn with ⟨hid, hpos, hle, hfree⟩
      refine ⟨hid, hpos, hle, ?_⟩
      rw [hfree]
      split <;> rfl
  · intro j n hn
    rw [hreg] at hn
    split at hn
    · cases hn
    · exact h.registered j n hn
  · intro n hn
    rw [hqueue'] at hn
    -- no node is queued twice
    have hne : n.id ≠ node.id := fun heq => hnodup.1 (heq ▸ List.mem_map_of_mem hn)
    rw [hreg, if_neg hne]
    exact h.queued n (hqueue ▸ List.mem_cons_of_mem node hn)

/-- An id that has not been given out yet is nowhere. -/
theorem fresh (h : m.Roster uids i) (hid : uids < id) :
    m.node? i id = none ∧ m.registeredSubnetNodesData.find? (i, id) = none := by
  constructor
  · cases hn : m.node? i id with
    | none => rfl
    | some n =>
        have := h.active id n hn
        omega
  · cases hn : m.registeredSubnetNodesData.find? (i, id) with
    | none => rfl
    | some n =>
        have := h.registered id n hn
        omega

/-- The count of all nodes is not part of a subnet's roster. -/
theorem countUp (h : m.Roster uids i) : (m.countUp i).Roster uids i :=
  ⟨h.slotted.of_eq rfl (fun _ => rfl) rfl fun _ => Iff.rfl, h.active, h.registered, h.queued,
    h.queue_nodup, h.uids_le⟩

/-- A node enters with a slot. -/
theorem seat (h : m.Roster uids i) (hid : node.id = uids + 1) (hle : uids < u32Max)
    (hclass : node.classification.nodeClass = .validator) :
    (m.seat i node).Roster node.id i := by
  rcases h.fresh (by omega : uids < node.id) with ⟨hnone, hunregistered⟩
  -- the id is new, so it has no slot and no record
  have hslot : node.id ∉ m.slots i := by
    rw [h.slotted.mem_slots]
    rintro ⟨n, hn, _⟩
    rw [hnone] at hn
    cases hn
  have hreg : ∀ j, (m.seat i node).registeredSubnetNodesData.find? (i, j) =
      m.registeredSubnetNodesData.find? (i, j) := by
    intro j
    unfold Membership.seat
    dsimp only
    rw [StorageMap.find?_remove]
    split
    · next heq =>
        cases heq
        exact hunregistered.symm
    · rfl
  refine ⟨?_, ?_, ?_, ?_, h.queue_nodup, by omega⟩
  · refine h.slotted.addSlot hslot (h.slots_lt hslot (by omega) (by omega)) rfl rfl rfl fun j => ?_
    have hnot : ¬m.IsValidator i node.id := by
      rw [← h.slotted.mem_slots]
      exact hslot
    rw [isValidator_setNode (m.seat i node) rfl hnot]
    simp [hclass]
  · intro j n hn
    unfold node? Membership.seat at hn
    dsimp only at hn
    rw [StorageMap.find?_set] at hn
    rw [hreg]
    split at hn
    · next heq =>
        cases heq
        cases hn
        exact ⟨rfl, by omega, le_refl _, hunregistered⟩
    · rcases h.active j n hn with ⟨hnid, hpos, hjle, hfree⟩
      exact ⟨hnid, hpos, by omega, hfree⟩
  · intro j n hn
    rw [hreg] at hn
    have := h.registered j n hn
    omega
  · intro n hn
    rw [hreg]
    exact h.queued n hn

/-- A node enters the queue. -/
theorem enqueue (h : m.Roster uids i) (hid : node.id = uids + 1) (hle : uids < u32Max)
    (hclass : node.classification.nodeClass = .registered) :
    (m.enqueue i node).Roster node.id i := by
  rcases h.fresh (by omega : uids < node.id) with ⟨hnone, _⟩
  have hqueue : (m.enqueue i node).queue i = m.queue i ++ [node] := by
    simp [Membership.queue, Membership.enqueue, StorageMap.getD]
  have hreg : ∀ j, (m.enqueue i node).registeredSubnetNodesData.find? (i, j) =
      if j = node.id then some node else m.registeredSubnetNodesData.find? (i, j) := by
    intro j
    unfold Membership.enqueue
    dsimp only
    rw [StorageMap.find?_set]
    simp
  -- the id is new, so nobody in the queue has it
  have hold : ∀ n ∈ m.queue i, n.id ≠ node.id := by
    intro n hn
    rcases (h.queued n hn).1 with ⟨r, hr⟩
    have := h.registered n.id r hr
    omega
  refine ⟨h.slotted.of_eq rfl (fun _ => rfl) rfl fun _ => Iff.rfl, ?_, ?_, ?_, ?_, by omega⟩
  · intro j n hn
    rcases h.active j n hn with ⟨hnid, hpos, hjle, hfree⟩
    rw [hreg, if_neg (by omega)]
    exact ⟨hnid, hpos, by omega, hfree⟩
  · intro j n hn
    rw [hreg] at hn
    split at hn
    · omega
    · have := h.registered j n hn
      omega
  · intro n hn
    rw [hqueue, List.mem_append, List.mem_singleton] at hn
    rw [hreg]
    rcases hn with hn | rfl
    · rw [if_neg (hold n hn)]
      exact h.queued n hn
    · rw [if_pos rfl]
      exact ⟨⟨n, rfl⟩, hclass⟩
  · rw [hqueue, List.map_append, List.map_singleton]
    refine List.nodup_append.mpr ⟨h.queue_nodup, List.nodup_singleton _, ?_⟩
    intro a ha b hb
    rcases List.mem_map.mp ha with ⟨n, hn, rfl⟩
    rw [List.mem_singleton] at hb
    exact hb ▸ hold n hn

/-! ### Edits -/

/-- A record is written over that keeps its class. -/
theorem updateActive (h : m.Roster uids i) {node' : SubnetNode} (hnode : m.node? i id = some node)
    (hid : node'.id = node.id) (hclass : node'.classification = node.classification) :
    Roster { m with subnetNodesData := m.subnetNodesData.set (i, id) node' } uids i := by
  refine h.setNode hnode rfl hid ?_ rfl rfl
  refine h.slotted.of_eq rfl (fun _ => rfl) rfl fun j => ?_
  unfold IsValidator node?
  rw [StorageMap.find?_set]
  by_cases hj : j = id
  · subst hj
    simp only [if_true, Option.some.injEq]
    constructor
    · rintro ⟨n, rfl, hn⟩
      exact ⟨node, hnode, hclass ▸ hn⟩
    · rintro ⟨n, hn, hc⟩
      have heq := hnode.symm.trans hn
      cases heq
      exact ⟨node', rfl, hclass.symm ▸ hc⟩
  · simp [hj]

/-- Writes to the records of queued nodes. -/
theorem updateRegistered (h : m.Roster uids i) {f : StorageMap (ℕ × ℕ) SubnetNode}
    (hf : ∀ id, (f.find? (i, id)).isSome = (m.registeredSubnetNodesData.find? (i, id)).isSome) :
    Roster { m with registeredSubnetNodesData := f } uids i := by
  refine ⟨h.slotted.of_eq rfl (fun _ => rfl) rfl fun _ => Iff.rfl, ?_, ?_, ?_, h.queue_nodup,
    h.uids_le⟩
  · intro id n hn
    rcases h.active id n hn with ⟨hnid, hpos, hle, hfree⟩
    refine ⟨hnid, hpos, hle, ?_⟩
    have hsome := hf id
    rw [hfree] at hsome
    simpa using hsome
  · intro id n hn
    have hsome := hf id
    rw [hn] at hsome
    rcases Option.isSome_iff_exists.mp hsome.symm with ⟨r, hr⟩
    exact h.registered id r hr
  · intro n hn
    rcases h.queued n hn with ⟨⟨r, hr⟩, hclass⟩
    have hsome := hf n.id
    rw [hr] at hsome
    exact ⟨Option.isSome_iff_exists.mp hsome, hclass⟩

/-- A subnet that is removed has no nodes. -/
theorem clear (m : Membership) (i : ℕ) : (m.clear i).Roster 0 i where
  slotted := by
    have hslots : (m.clear i).slots i = [] := by
      simp [slots, Membership.clear, StorageMap.getD]
    constructor
    · intro id k
      rw [hslots]
      simp [Membership.clear, StorageMap.find?_clearPrefix]
    · intro id
      rw [hslots]
      simp [IsValidator, node?, Membership.clear, StorageMap.find?_clearPrefix]
    · rw [hslots]
      simp [Membership.clear, StorageMap.val, StorageMap.getD]
  active id n hn := by
    simp [node?, Membership.clear, StorageMap.find?_clearPrefix] at hn
  registered id n hn := by
    simp [Membership.clear, StorageMap.find?_clearPrefix] at hn
  queued n hn := by
    simp [Membership.queue, Membership.clear, StorageMap.getD] at hn
  queue_nodup := by
    simp [Membership.queue, Membership.clear, StorageMap.getD]
  uids_le := Nat.zero_le _

end Roster

end Membership

end Hypertensor
