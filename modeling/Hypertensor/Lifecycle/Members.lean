import Mathlib
import Hypertensor.Lifecycle.Tables

/-!
# Hypertensor.Lifecycle.Members — who is a node of a subnet

A node of a subnet is active or registered, and the roster says that it is not both.
`Member` is either; the lemmas say what each operation does to it, so that what is kept
once per node (its reputation, its place in the list of its validator, its identifiers)
need not ask in which table the node is.

`Homed` is that nodes have a subnet, and that subnets have been given their id.
-/

namespace Hypertensor

open Base

namespace Membership

variable {m m' : Membership} {i j id k uids : ℕ} {node : SubnetNode}

/-- An active or registered node. -/
def Member (m : Membership) (i id : ℕ) : Prop :=
  m.node? i id ≠ none ∨ m.registeredSubnetNodesData.find? (i, id) ≠ none

/-- An active node is a member. -/
theorem Member.of_active (h : m.node? i id = some node) : m.Member i id :=
  .inl (h ▸ Option.some_ne_none node)

/-- A queued node is a member. -/
theorem Member.of_registered (h : m.registeredSubnetNodesData.find? (i, id) = some node) :
    m.Member i id := .inr (h ▸ Option.some_ne_none node)

/-- Who is in the queue is a member. -/
theorem Roster.member_of_queued (h : m.Roster uids i) (hnode : node ∈ m.queue i) :
    m.Member i node.id := by
  obtain ⟨⟨r, hr⟩, -⟩ := h.queued node hnode
  exact .of_registered hr

/-- The id of a member has been given out. -/
theorem Roster.member_le (h : m.Roster uids i) (hmember : m.Member i id) : 1 ≤ id ∧ id ≤ uids := by
  rcases hmember with hactive | hreg
  · obtain ⟨n, hn⟩ := Option.ne_none_iff_exists'.mp hactive
    obtain ⟨-, hpos, hle, -⟩ := h.active id n hn
    exact ⟨hpos, hle⟩
  · obtain ⟨n, hn⟩ := Option.ne_none_iff_exists'.mp hreg
    exact h.registered id n hn

/-! ## What the operations do -/

/-- A record is written in one table and removed from the other. -/
theorem member_place {r : StorageMap (ℕ × ℕ) SubnetNode}
    (hactive : m'.subnetNodesData = m.subnetNodesData.set (i, id) node)
    (hreg : m'.registeredSubnetNodesData = r)
    (hr : ∀ p, p ≠ (i, id) → r.find? p = m.registeredSubnetNodesData.find? p) :
    m'.Member j k ↔ (j = i ∧ k = id) ∨ m.Member j k := by
  unfold Member node?
  rw [hactive, hreg, StorageMap.find?_set]
  by_cases heq : (j, k) = (i, id)
  · rw [if_pos heq]
    simp [Prod.mk.inj heq]
  · rw [if_neg heq, hr _ heq]
    have hne : ¬(j = i ∧ k = id) := fun h => heq (by rw [h.1, h.2])
    simp [hne]

/-- A node that is seated becomes a member. -/
theorem member_seat : (m.seat i node).Member j k ↔ (j = i ∧ k = node.id) ∨ m.Member j k :=
  member_place rfl rfl fun _ hp => StorageMap.find?_remove_ne _ hp

/-- A node that is queued becomes a member. -/
theorem member_enqueue : (m.enqueue i node).Member j k ↔ (j = i ∧ k = node.id) ∨ m.Member j k := by
  unfold Member enqueue
  dsimp only
  rw [StorageMap.find?_set]
  by_cases heq : (j, k) = (i, node.id)
  · rw [if_pos heq]
    simp [Prod.mk.inj heq]
  · rw [if_neg heq]
    have hne : ¬(j = i ∧ k = node.id) := fun h => heq (by rw [h.1, h.2])
    simp only [hne, false_or]
    exact Iff.rfl

/-- Whoever becomes active was registered. -/
theorem member_activate {rest : List SubnetNode} {e : ℕ} (h : m.Roster uids i)
    (hqueue : m.queue i = node :: rest) :
    (m.activate i node rest e).Member j k ↔ m.Member j k := by
  have hmember : m.Member i node.id :=
    h.member_of_queued (hqueue ▸ List.mem_cons_self)
  have hplace : (m.activate i node rest e).Member j k ↔ (j = i ∧ k = node.id) ∨ m.Member j k :=
    member_place rfl rfl fun _ hp => StorageMap.find?_remove_ne _ hp
  rw [hplace]
  constructor
  · rintro (⟨rfl, rfl⟩ | hold)
    · exact hmember
    · exact hold
  · exact .inr

/-- A record is written over. -/
theorem member_set (hold : m.node? i id = some node) (node' : SubnetNode) :
    Member { m with subnetNodesData := m.subnetNodesData.set (i, id) node' } j k ↔ m.Member j k := by
  have hplace : Member { m with subnetNodesData := m.subnetNodesData.set (i, id) node' } j k ↔
      (j = i ∧ k = id) ∨ m.Member j k := member_place rfl rfl fun _ _ => rfl
  rw [hplace]
  constructor
  · rintro (⟨rfl, rfl⟩ | hmember)
    · exact .of_active hold
    · exact hmember
  · exact .inr

/-- Who is a member does not depend on what is stored of a queued node. -/
theorem member_setRegistered (hactive : m'.subnetNodesData = m.subnetNodesData)
    (hreg : ∀ p, (m'.registeredSubnetNodesData.find? p).isSome =
      (m.registeredSubnetNodesData.find? p).isSome) : m'.Member j k ↔ m.Member j k := by
  have hp := hreg (j, k)
  unfold Member node?
  rw [hactive, ← Option.isSome_iff_ne_none, ← Option.isSome_iff_ne_none,
    ← Option.isSome_iff_ne_none, hp]

/-- The removal of a node keeps the subnets. -/
theorem removeActive_subnetsData (m : Membership) (i id : ℕ) (node : SubnetNode) :
    (m.removeActive i id node).subnetsData = m.subnetsData := by
  unfold removeActive dropSlot
  dsimp only
  split
  · split <;> rfl
  · rfl

/-- The removal of an active node counts down. -/
theorem removeActive_counts (m : Membership) (i id : ℕ) (node : SubnetNode) :
    (m.removeActive i id node).totalSubnetNodes =
        m.totalSubnetNodes.set i (m.totalSubnetNodes.val i - 1) ∧
      (m.removeActive i id node).totalNodes = m.totalNodes - 1 := by
  unfold removeActive dropSlot
  dsimp only
  split
  · split <;> exact ⟨rfl, rfl⟩
  · exact ⟨rfl, rfl⟩

/-- An active node that is removed is a member no more. -/
theorem member_removeActive (h : m.Roster uids i) (hnode : m.node? i id = some node) :
    (m.removeActive i id node).Member j k ↔ m.Member j k ∧ ¬(j = i ∧ k = id) := by
  obtain ⟨-, -, -, hfree⟩ := h.active id node hnode
  unfold Member node?
  rw [removeActive_subnetNodesData, removeActive_registeredSubnetNodesData,
    StorageMap.find?_remove]
  by_cases heq : (j, k) = (i, id)
  · obtain ⟨rfl, rfl⟩ := Prod.mk.inj heq
    simp [hfree]
  · have hne : ¬(j = i ∧ k = id) := fun h => heq (by rw [h.1, h.2])
    simp [hne]

/-- A queued node that is removed is a member no more. -/
theorem member_removeRegistered (h : m.Roster uids i)
    (hnode : m.registeredSubnetNodesData.find? (i, id) = some node) :
    (m.removeRegistered i id).Member j k ↔ m.Member j k ∧ ¬(j = i ∧ k = id) := by
  have hnone : m.node? i id = none := by
    by_contra hactive
    obtain ⟨n, hn⟩ := Option.ne_none_iff_exists'.mp hactive
    obtain ⟨-, -, -, hfree⟩ := h.active id n hn
    rw [hfree] at hnode
    cases hnode
  unfold Member removeRegistered countDown
  dsimp only
  rw [StorageMap.find?_remove]
  by_cases heq : (j, k) = (i, id)
  · obtain ⟨rfl, rfl⟩ := Prod.mk.inj heq
    rw [if_pos rfl]
    constructor
    · rintro (hactive | hreg)
      · exact absurd hnone hactive
      · exact absurd rfl hreg
    · rintro ⟨-, hne⟩
      exact absurd ⟨rfl, rfl⟩ hne
  · rw [if_neg heq]
    constructor
    · exact fun hmember => ⟨hmember, fun h => heq (by rw [h.1, h.2])⟩
    · exact And.left

/-- A subnet that is removed has no members. -/
theorem member_clear : (m.clear i).Member j k ↔ m.Member j k ∧ j ≠ i := by
  unfold Member node? clear
  dsimp only
  rw [StorageMap.find?_clearPrefix, StorageMap.find?_clearPrefix]
  by_cases hj : j = i <;> simp [hj]

/-- The reward code removes nodes, and adds none. -/
theorem Step.member_sub {strict : Prop} (h : Step strict i m m') (hmember : m'.Member j k) :
    m.Member j k := by
  rcases hmember with hactive | hreg
  · exact .inl (h.node_sub hactive)
  · right
    intro hnone
    by_cases hj : j = i
    · subst hj
      exact hreg (h.registered_none hnone)
    · rw [(Step.sameAt m hj h).registered] at hreg
      exact hreg hnone

end Membership

/-! ## Nodes have a subnet -/

namespace Lifecycle

variable {room : Prop} {L : ℕ} {target : Option ℕ} {l l' : Lifecycle} {i : ℕ}

/-- Nodes are in subnets that exist, and these have been given their id. -/
structure Homed (l : Lifecycle) : Prop where
  member : ∀ i id, l.Member i id → l.subnetsData.find? i ≠ none
  issued : ∀ i, l.subnetsData.find? i ≠ none → 1 ≤ i ∧ i ≤ l.totalSubnetUids

/-- No node is added, and the subnets stay. -/
theorem Homed.mono (h : l.Homed) (hmember : ∀ i id, l'.Member i id → l.Member i id)
    (hsubnet : ∀ i, l'.subnetsData.find? i ≠ none ↔ l.subnetsData.find? i ≠ none)
    (huids : l'.totalSubnetUids = l.totalSubnetUids) : l'.Homed where
  member i id hm := (hsubnet i).mpr (h.member i id (hmember i id hm))
  issued i hi := huids ▸ h.issued i ((hsubnet i).mp hi)

/-- The record of a subnet is written over. -/
theorem subnet_set {d d' : SubnetData} (hd : l.subnetsData.find? i = some d) (j : ℕ) :
    (l.subnetsData.set i d').find? j ≠ none ↔ l.subnetsData.find? j ≠ none := by
  rw [StorageMap.find?_set]
  split
  · next heq => simp [heq, hd]
  · exact Iff.rfl

/-- The records of queued nodes are written over. -/
theorem Homed.setRegistered (h : l.Homed) (hactive : l'.subnetNodesData = l.subnetNodesData)
    (hreg : ∀ p, (l'.registeredSubnetNodesData.find? p).isSome =
      (l.registeredSubnetNodesData.find? p).isSome)
    (hsubnet : ∀ i, l'.subnetsData.find? i ≠ none ↔ l.subnetsData.find? i ≠ none)
    (huids : l'.totalSubnetUids = l.totalSubnetUids) : l'.Homed :=
  h.mono (fun _ _ => (Membership.member_setRegistered hactive hreg).mp) hsubnet huids

/-- A node is added to a subnet that exists. -/
theorem Homed.enter {id : ℕ} {d : SubnetData} {place : Membership → Membership} (h : l.Homed)
    (hd : l.subnetsData.find? i = some d)
    (hplace : ∀ j k, (place (l.toMembership.countUp i)).Member j k →
      (j = i ∧ k = id) ∨ l.Member j k)
    (hsubnets : (place (l.toMembership.countUp i)).subnetsData = l.subnetsData) :
    (l.enter i id place).Homed where
  member j k hm := by
    show (place (l.toMembership.countUp i)).subnetsData.find? j ≠ none
    rw [hsubnets]
    rcases hplace j k hm with ⟨rfl, -⟩ | hold
    · exact hd ▸ Option.some_ne_none d
    · exact h.member j k hold
  issued j hj := by
    have hold : (place (l.toMembership.countUp i)).subnetsData.find? j ≠ none := hj
    rw [hsubnets] at hold
    exact h.issued j hold

/-- The removal of a subnet leaves no node without one. -/
theorem Homed.removeSubnet (h : l.Homed) (i : ℕ) : (l.removeSubnet i).Homed where
  member j k hm := by
    obtain ⟨hold, hne⟩ := Membership.member_clear.mp hm
    show (l.subnetsData.remove i).find? j ≠ none
    rw [StorageMap.find?_remove_ne _ hne]
    exact h.member j k hold
  issued j hj := by
    have hold : (l.subnetsData.remove i).find? j ≠ none := hj
    rw [StorageMap.find?_remove] at hold
    rw [removeSubnet_totalSubnetUids]
    split at hold
    · exact absurd rfl hold
    · exact h.issued j hold

/-- Every call. -/
theorem Homed.call (h : l.Homed) (hcall : Call True room L l l') : l'.Homed := by
  cases hcall with
  | other _ => exact ⟨h.member, h.issued⟩
  | @registerSubnet slot d _ _ hleft =>
      -- while there is an id left, the next one is new
      have hid : l.nextSubnetId = l.totalSubnetUids + 1 := by
        have hlt := hleft trivial
        unfold nextSubnetId
        omega
      constructor
      · intro i id hm
        show (l.subnetsData.set l.nextSubnetId d).find? i ≠ none
        rw [StorageMap.find?_set]
        split
        · exact Option.some_ne_none d
        · exact h.member i id hm
      · intro i hi
        have hold : (l.subnetsData.set l.nextSubnetId d).find? i ≠ none := hi
        show 1 ≤ i ∧ i ≤ l.nextSubnetId
        rw [StorageMap.find?_set] at hold
        split at hold
        · omega
        · have := h.issued i hold
          omega
  | setSubnet hd => exact h.mono (fun _ _ hm => hm) (subnet_set hd) rfl
  | @unpause i delta d d' hd =>
      refine h.setRegistered rfl (fun p => ?_) (subnet_set hd) rfl
      show ((l.registeredSubnetNodesData.mapValues _).find? p).isSome = _
      rw [StorageMap.find?_mapValues, Option.isSome_map]
  | seat hd => exact h.enter hd (fun _ _ => Membership.member_seat.mp) rfl
  | enqueue hd => exact h.enter hd (fun _ _ => Membership.member_enqueue.mp) rfl
  | @removeActive i id node hnode =>
      have hstep : Membership.Step True i l.toMembership _ := .removeActive hnode
      exact h.mono (fun _ _ => hstep.member_sub) (fun j => by rw [hstep.subnetsData]) rfl
  | @removeRegistered i id node hnode =>
      have hstep : Membership.Step True i l.toMembership _ := .removeRegistered hnode
      exact h.mono (fun _ _ => hstep.member_sub) (fun _ => Iff.rfl) rfl
  | updateActive hnode _ _ =>
      exact h.mono (fun _ _ => (Membership.member_set hnode _).mp) (fun _ => Iff.rfl) rfl
  | updateRegistered hnode =>
      refine h.setRegistered rfl (fun p => ?_) (fun _ => Iff.rfl) rfl
      rw [StorageMap.find?_set]
      split
      · next heq => simp [heq, hnode]
      · rfl
  | removeSubnet _ => exact h.removeSubnet _

/-- A step of the hook. -/
theorem Homed.hook (h : l.Homed) (hinv : l.Inv L) (hstep : Step True L target l l') : l'.Homed := by
  cases hstep with
  | node _ hstep =>
      exact h.mono (fun _ _ => hstep.member_sub) (fun _ => by rw [hstep.subnetsData]) rfl
  | activate _ hqueue _ =>
      exact h.mono (fun _ _ => (Membership.member_activate (hinv.roster _) hqueue).mp)
        (fun _ => Iff.rfl) rfl
  | skip _ _ _ => exact ⟨h.member, h.issued⟩
  | removeSubnet _ => exact h.removeSubnet _

end Lifecycle

end Hypertensor
