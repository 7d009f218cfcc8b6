import Mathlib
import Hypertensor.Base.Counter
import Hypertensor.Pallet.System

/-!
# Hypertensor.Pallet.Counts — the counters of nodes and subnets

Five counters are kept along with the tables of nodes and subnets. `Records.Tallied` is
that those of the nodes have the right numbers, `Store.Tallied` the same of the subnets.

`TotalNodes` is none of the five: it is not taken down when a subnet is removed. It is
never below the number of nodes, though, and so bounds what the other counters can reach.

* `tallied_preserved`: whatever happens keeps the counters right.
* `counts_are_exact`: so they are along every run, and none of them is ever at an end of
  its range when it is moved.
-/

namespace Hypertensor

open Base Relation

/-! ## Nodes -/

namespace Records

variable {ar : Arith} {t : Terms} {r r' q : Records} {i id uids : ℕ} {node : SubnetNode}

/-- The nodes of a subnet. -/
def population (r : Records) (i : ℕ) : ℕ :=
  r.subnetNodesData.prefixCount i + r.registeredSubnetNodesData.prefixCount i

/-- The counters of nodes have the right numbers. -/
structure Tallied (r : Records) : Prop where
  nodes : r.totalSubnetNodes.Counts r.population
  active : r.totalActiveSubnetNodes.Counts r.subnetNodesData.prefixCount
  total : r.totalActiveNodes = r.totalActiveSubnetNodes.sum
  covers : r.totalSubnetNodes.sum ≤ r.totalNodes
  fits : r.totalNodes ≤ u32Max

namespace Tallied

/-- Active nodes are nodes. -/
theorem active_le (h : r.Tallied) : r.totalActiveNodes ≤ r.totalSubnetNodes.sum := by
  rw [h.total]
  refine StorageMap.sum_le_sum fun j => ?_
  rw [h.nodes j, h.active j]
  exact Nat.le_add_right _ _

theorem active_val_le (h : r.Tallied) (i : ℕ) :
    r.totalActiveSubnetNodes.val i ≤ r.totalActiveNodes := by
  rw [h.total]
  exact StorageMap.val_le_sum _ i

/-- Where a queued node can become active, it can be counted: it is counted as a node. -/
theorem active_lt (h : r.Tallied) (hnode : r.registeredSubnetNodesData.find? (i, id) = some node) :
    r.totalActiveNodes < u32Max := by
  have hpos := StorageMap.prefixCount_remove hnode i
  rw [if_pos rfl] at hpos
  have hless : r.totalActiveNodes < r.totalSubnetNodes.sum := by
    rw [h.total]
    refine StorageMap.sum_lt_sum (fun j => ?_) (k := i) ?_
    · rw [h.nodes j, h.active j]
      exact Nat.le_add_right _ _
    · rw [h.nodes i, h.active i]
      unfold population
      omega
  exact hless.trans_le (h.covers.trans h.fits)

/-- The tables keep their sizes, and the counters stay. -/
theorem of_counts (h : r.Tallied)
    (hactive : ∀ j, q.subnetNodesData.prefixCount j = r.subnetNodesData.prefixCount j)
    (hreg : ∀ j, q.registeredSubnetNodesData.prefixCount j =
      r.registeredSubnetNodesData.prefixCount j)
    (hnodes : q.totalSubnetNodes = r.totalSubnetNodes) (htotal : q.totalNodes = r.totalNodes)
    (hactives : q.totalActiveSubnetNodes = r.totalActiveSubnetNodes)
    (hall : q.totalActiveNodes = r.totalActiveNodes) : q.Tallied where
  nodes := by
    rw [hnodes]
    refine h.nodes.congr fun j => ?_
    unfold population
    rw [hactive, hreg]
  active := by
    rw [hactives]
    exact h.active.congr hactive
  total := by
    rw [hall, hactives]
    exact h.total
  covers := by
    rw [hnodes, htotal]
    exact h.covers
  fits := htotal ▸ h.fits

/-- A node becomes active that was not. -/
theorem active_incr (h : r.Tallied) (hlt : r.totalActiveNodes < u32Max)
    (hactive : ∀ j, q.subnetNodesData.prefixCount j =
      r.subnetNodesData.prefixCount j + if j = i then 1 else 0)
    (hactives : q.totalActiveSubnetNodes =
      r.totalActiveSubnetNodes.set i (wrapAdd 32 (r.totalActiveSubnetNodes.val i) 1))
    (hall : q.totalActiveNodes = wrapAdd 32 r.totalActiveNodes 1) :
    q.totalActiveSubnetNodes.Counts q.subnetNodesData.prefixCount ∧
      q.totalActiveNodes = q.totalActiveSubnetNodes.sum := by
  have hval := (h.active_val_le i).trans_lt hlt
  rw [hactives, hall, StorageMap.sum_incr hval, wrapAdd_one hlt, h.total]
  exact ⟨h.active.incr hval hactive, rfl⟩

/-- One more node. -/
theorem nodes_incr (h : r.Tallied) (hlt : r.totalNodes < u32Max)
    (hcount : ∀ j, q.population j = r.population j + if j = i then 1 else 0)
    (hnodes : q.totalSubnetNodes =
      r.totalSubnetNodes.set i (wrapAdd 32 (r.totalSubnetNodes.val i) 1))
    (htotal : q.totalNodes = wrapAdd 32 r.totalNodes 1) :
    q.totalSubnetNodes.Counts q.population ∧ q.totalSubnetNodes.sum ≤ q.totalNodes ∧
      q.totalNodes ≤ u32Max := by
  have hval : r.totalSubnetNodes.val i < u32Max :=
    ((StorageMap.val_le_sum _ i).trans h.covers).trans_lt hlt
  have hcovers := h.covers
  rw [hnodes, htotal, StorageMap.sum_incr hval, wrapAdd_one hlt]
  exact ⟨h.nodes.incr hval hcount, by omega, by omega⟩

/-- One node fewer. -/
theorem nodes_decr (h : r.Tallied)
    (hcount : ∀ j, q.population j + (if j = i then 1 else 0) = r.population j)
    (hnodes : q.totalSubnetNodes = r.totalSubnetNodes.set i (r.totalSubnetNodes.val i - 1))
    (htotal : q.totalNodes = r.totalNodes - 1) :
    q.totalSubnetNodes.Counts q.population ∧ q.totalSubnetNodes.sum ≤ q.totalNodes ∧
      q.totalNodes ≤ u32Max := by
  have hpos : 1 ≤ r.totalSubnetNodes.val i := by
    have hi := hcount i
    rw [if_pos rfl] at hi
    rw [h.nodes i]
    omega
  have hcovers := h.covers
  have hfits := h.fits
  rw [hnodes, htotal, StorageMap.sum_decr hpos]
  exact ⟨h.nodes.decr hcount, by omega, by omega⟩

/-! ### Every operation -/

/-- A node registers as a validator. -/
theorem seat (h : r.Tallied) (hroster : r.toMembership.Roster uids i) (hfresh : uids < node.id)
    (hlt : r.totalNodes < u32Max) (x : ℕ) : ((r.enter i ar node x).seat i node).Tallied := by
  obtain ⟨hnone, hunregistered⟩ := hroster.fresh hfresh
  have hadded := StorageMap.prefixCount_set_new (v := node) hnone
  have hsame := StorageMap.prefixCount_remove_none hunregistered
  have hactive := h.active_incr (q := (r.enter i ar node x).seat i node)
    ((h.active_le.trans h.covers).trans_lt hlt) hadded rfl rfl
  have hnodes := h.nodes_incr (q := (r.enter i ar node x).seat i node) (i := i) hlt
    (fun j => by
      show (r.subnetNodesData.set (i, node.id) node).prefixCount j +
        (r.registeredSubnetNodesData.remove (i, node.id)).prefixCount j = r.population j + _
      rw [hadded, hsame]
      unfold population
      omega) rfl rfl
  exact ⟨hnodes.1, hactive.1, hactive.2, hnodes.2.1, hnodes.2.2⟩

/-- A node registers and is queued. -/
theorem enqueue (h : r.Tallied) (hroster : r.toMembership.Roster uids i) (hfresh : uids < node.id)
    (hlt : r.totalNodes < u32Max) (x : ℕ) : ((r.enter i ar node x).enqueue i node).Tallied := by
  obtain ⟨-, hunregistered⟩ := hroster.fresh hfresh
  have hadded := StorageMap.prefixCount_set_new (v := node) hunregistered
  have hnodes := h.nodes_incr (q := (r.enter i ar node x).enqueue i node) (i := i) hlt
    (fun j => by
      show r.subnetNodesData.prefixCount j +
        (r.registeredSubnetNodesData.set (i, node.id) node).prefixCount j = r.population j + _
      rw [hadded]
      unfold population
      omega) rfl rfl
  exact ⟨hnodes.1, h.active, h.total, hnodes.2.1, hnodes.2.2⟩

/-- A queued node becomes active. -/
theorem activate (h : r.Tallied) (hroster : r.toMembership.Roster uids i) {rest : List SubnetNode}
    (hqueue : r.queue i = node :: rest) (epoch : ℕ) : (r.activate i node rest epoch).Tallied := by
  obtain ⟨⟨q, hq⟩, -⟩ := hroster.queued node (hqueue ▸ List.mem_cons_self)
  have hnone : r.subnetNodesData.find? (i, node.id) = none := by
    by_contra hsome
    obtain ⟨n, hn⟩ := Option.ne_none_iff_exists'.mp hsome
    obtain ⟨-, -, -, hfree⟩ := hroster.active node.id n hn
    rw [hfree] at hq
    cases hq
  have hadded := StorageMap.prefixCount_set_new
    (v := { node with classification := ⟨.idle, epoch⟩ }) hnone
  have hremoved := StorageMap.prefixCount_remove hq
  have hactive := h.active_incr (q := r.activate i node rest epoch) (h.active_lt hq) hadded rfl rfl
  refine ⟨?_, hactive.1, hactive.2, h.covers, h.fits⟩
  refine h.nodes.congr fun j => ?_
  show (r.subnetNodesData.set (i, node.id) _).prefixCount j +
    (r.registeredSubnetNodesData.remove (i, node.id)).prefixCount j = r.population j
  have hj := hremoved j
  rw [hadded]
  unfold population
  omega

/-- An active node leaves. -/
theorem removeActive (h : r.Tallied) (hnode : r.node? i id = some node) :
    (r.removeActive i id node).Tallied := by
  have hremoved := StorageMap.prefixCount_remove hnode
  have hpos : 1 ≤ r.totalActiveSubnetNodes.val i := by
    have hi := hremoved i
    rw [if_pos rfl] at hi
    rw [h.active i]
    omega
  have hdata : (r.removeActive i id node).subnetNodesData = r.subnetNodesData.remove (i, id) :=
    Membership.removeActive_subnetNodesData ..
  have hreg : (r.removeActive i id node).registeredSubnetNodesData = r.registeredSubnetNodesData :=
    Membership.removeActive_registeredSubnetNodesData ..
  have hcount : ∀ j, (r.removeActive i id node).population j + (if j = i then 1 else 0) =
      r.population j := by
    intro j
    have hj := hremoved j
    unfold population
    rw [hdata, hreg]
    omega
  have hdown := Membership.removeActive_counts r.toMembership i id node
  have hnodes := h.nodes_decr hcount hdown.1 hdown.2
  refine ⟨hnodes.1, ?_, ?_, hnodes.2.1, hnodes.2.2⟩
  · rw [hdata]
    exact h.active.decr hremoved
  · show r.totalActiveNodes - 1 = StorageMap.sum (r.totalActiveSubnetNodes.set i _)
    rw [StorageMap.sum_decr hpos, h.total]

/-- A queued node leaves. -/
theorem removeRegistered (h : r.Tallied)
    (hnode : r.registeredSubnetNodesData.find? (i, id) = some node) :
    (r.removeRegistered i id node).Tallied := by
  have hremoved := StorageMap.prefixCount_remove hnode
  have hnodes := h.nodes_decr (q := r.removeRegistered i id node) (i := i)
    (fun j => by
      have hj := hremoved j
      show r.subnetNodesData.prefixCount j +
        (r.registeredSubnetNodesData.remove (i, id)).prefixCount j + _ = r.population j
      unfold population
      omega) rfl rfl
  exact ⟨hnodes.1, h.active, h.total, hnodes.2.1, hnodes.2.2⟩

/-- A record of an active node is written over. -/
theorem setNode (h : r.Tallied) (hnode : r.node? i id = some node) {node' : SubnetNode}
    {m : Membership} (hdata : m.subnetNodesData = r.subnetNodesData.set (i, id) node')
    (hreg : m.registeredSubnetNodesData = r.registeredSubnetNodesData)
    (hnodes : m.totalSubnetNodes = r.totalSubnetNodes) (htotal : m.totalNodes = r.totalNodes) :
    (r.setMembership m).Tallied := by
  refine h.of_counts (fun j => ?_) (fun j => ?_) hnodes htotal rfl rfl
  · show m.subnetNodesData.prefixCount j = _
    rw [hdata]
    exact StorageMap.prefixCount_set_old hnode node' j
  · show m.registeredSubnetNodesData.prefixCount j = _
    rw [hreg]

/-- All nodes of a subnet are gone. -/
theorem clear (h : r.Tallied) (i : ℕ) : (r.clear i).Tallied := by
  have hactive := r.subnetNodesData.prefixCount_clearPrefix i
  have hreg := r.registeredSubnetNodesData.prefixCount_clearPrefix i
  refine ⟨h.nodes.drop fun j => ?_, h.active.drop hactive, ?_, ?_, h.fits⟩
  · show (r.subnetNodesData.clearPrefix i).prefixCount j +
      (r.registeredSubnetNodesData.clearPrefix i).prefixCount j = _
    rw [hactive, hreg]
    unfold population
    split <;> rfl
  · show r.totalActiveNodes - r.totalActiveSubnetNodes.val i = _
    rw [show (r.clear i).totalActiveSubnetNodes = r.totalActiveSubnetNodes.remove i from rfl,
      StorageMap.sum_drop, h.total]
  · show (r.totalSubnetNodes.remove i).sum ≤ r.totalNodes
    rw [StorageMap.sum_drop]
    exact (Nat.sub_le _ _).trans h.covers

/-- A step of the reward code. -/
theorem step (h : r.Tallied) (hstep : Step ar t i r r') : r'.Tallied := by
  cases hstep with
  | removeActive hnode => exact h.removeActive hnode
  | removeRegistered hnode => exact h.removeRegistered hnode
  | reorder _ => exact h.of_counts (fun _ => rfl) (fun _ => rfl) rfl rfl rfl rfl
  | graduate _ hnode _ => exact h.setNode hnode rfl rfl rfl rfl
  | promote _ hnode _ _ => exact h.setNode hnode rfl rfl rfl rfl
  | credit _ _ => exact h.of_counts (fun _ => rfl) (fun _ => rfl) rfl rfl rfl rfl
  | slash _ _ => exact h.of_counts (fun _ => rfl) (fun _ => rfl) rfl rfl rfl rfl

end Tallied

end Records

/-! ## Subnets -/

/-- Whether a subnet has been activated. -/
def SubnetData.started (d : SubnetData) : ℕ := if d.state = .registered then 0 else 1

namespace Store

variable {ar : Arith} {known covered : Prop} {D L : ℕ} {s s' : Store} {i : ℕ}

/-- All counters have the right numbers. -/
structure Tallied (s : Store) : Prop where
  records : s.toRecords.Tallied
  subnets : s.totalSubnets = s.subnetsData.keys.card
  started : s.totalActiveSubnets = s.subnetsData.total fun _ d => d.started
  uids_le : s.totalSubnetUids ≤ u32Max

/-- There are no more subnets than ids. -/
theorem homed_card_le {l : Lifecycle} (h : l.Homed) :
    l.subnetsData.keys.card ≤ l.totalSubnetUids := by
  have hsub : l.subnetsData.keys ⊆ Finset.Icc 1 l.totalSubnetUids := by
    intro i hi
    obtain ⟨d, hd⟩ := StorageMap.mem_keys.mp hi
    exact Finset.mem_Icc.mpr (h.issued i (hd ▸ Option.some_ne_none d))
  have hcard := Finset.card_le_card hsub
  rwa [Nat.card_Icc, Nat.add_sub_cancel] at hcard

/-- Activated subnets are subnets. -/
theorem started_eq_card (m : StorageMap ℕ SubnetData) :
    m.total (fun _ d => d.started) =
      (m.keys.filter fun i => ∀ d ∈ m.find? i, d.state ≠ .registered).card := by
  rw [Finset.card_filter]
  unfold StorageMap.total
  refine Finset.sum_congr rfl fun i hi => ?_
  obtain ⟨d, hd⟩ := StorageMap.mem_keys.mp hi
  rw [hd]
  unfold SubnetData.started
  by_cases hstate : d.state = .registered <;> simp [hstate]

theorem started_lt_card {m : StorageMap ℕ SubnetData} {d : SubnetData} (hd : m.find? i = some d)
    (hstate : d.state = .registered) : m.total (fun _ d => d.started) < m.keys.card := by
  rw [started_eq_card]
  refine Finset.card_lt_card (Finset.filter_ssubset.mpr ⟨i, StorageMap.mem_keys.mpr ⟨d, hd⟩, ?_⟩)
  intro hall
  exact hall d hd hstate

namespace Tallied

/-- The records of nodes change. -/
theorem setRecords (h : s.Tallied) {r : Records} (hr : r.Tallied)
    (hsubnets : r.subnetsData = s.subnetsData) : (s.setRecords r).Tallied where
  records := hr
  subnets := by
    show s.totalSubnets = r.subnetsData.keys.card
    rw [hsubnets]
    exact h.subnets
  started := by
    show s.totalActiveSubnets = r.subnetsData.total _
    rw [hsubnets]
    exact h.started
  uids_le := h.uids_le

/-- The state of a subnet changes, but not whether it has been activated. -/
theorem setSubnet (h : s.Tallied) {d d' : SubnetData} (hd : s.subnetsData.find? i = some d)
    (hstarted : d'.started = d.started) : (s.setSubnet i d').Tallied where
  records := h.records.of_counts (fun _ => rfl) (fun _ => rfl) rfl rfl rfl rfl
  subnets := by
    show s.totalSubnets = (s.subnetsData.set i d').keys.card
    rw [StorageMap.keys_set, Finset.insert_eq_of_mem (StorageMap.mem_keys.mpr ⟨d, hd⟩)]
    exact h.subnets
  started := by
    have hset := s.subnetsData.total_set (fun _ d => d.started) i d'
    rw [hd, Option.elim_some, hstarted] at hset
    show s.totalActiveSubnets = (s.subnetsData.set i d').total _
    have hold := h.started
    omega
  uids_le := h.uids_le

/-- Where a subnet can be activated, it can be counted. -/
theorem started_lt (h : s.Tallied) (hhomed : s.lifecycle.Homed) {d : SubnetData}
    (hd : s.subnetsData.find? i = some d) (hstate : d.state = .registered) :
    s.totalActiveSubnets < u32Max := by
  have hcard : s.subnetsData.keys.card ≤ s.totalSubnetUids := homed_card_le hhomed
  rw [h.started]
  exact ((started_lt_card hd hstate).trans_le hcard).trans_le h.uids_le

theorem registerSubnet (h : s.Tallied) (hhomed : s.lifecycle.Homed)
    (hleft : s.totalSubnetUids < u32Max) {slot epoch : ℕ} {d : SubnetData}
    {initial : StorageMap ℕ ℕ} (hstate : d.state = .registered) :
    (s.registerSubnet D slot epoch d initial).Tallied := by
  have hid : s.nextSubnetId = s.totalSubnetUids + 1 := by
    unfold nextSubnetId
    omega
  have hcard : s.subnetsData.keys.card ≤ s.totalSubnetUids := homed_card_le hhomed
  have hnew : s.nextSubnetId ∉ s.subnetsData.keys := by
    intro hmem
    obtain ⟨d', hd'⟩ := StorageMap.mem_keys.mp hmem
    have hle : s.nextSubnetId ≤ s.totalSubnetUids :=
      (hhomed.issued _ (hd' ▸ Option.some_ne_none d')).2
    omega
  have hnone : s.subnetsData.find? s.nextSubnetId = none := by
    by_contra hsome
    obtain ⟨d', hd'⟩ := Option.ne_none_iff_exists'.mp hsome
    exact hnew (StorageMap.mem_keys.mpr ⟨d', hd'⟩)
  refine ⟨h.records.of_counts (fun _ => rfl) (fun _ => rfl) rfl rfl rfl rfl, ?_, ?_, ?_⟩
  · show min (s.totalSubnets + 1) u32Max = (s.subnetsData.set s.nextSubnetId d).keys.card
    rw [StorageMap.keys_set, Finset.card_insert_of_notMem hnew, h.subnets]
    omega
  · have hset := s.subnetsData.total_set (fun _ d => d.started) s.nextSubnetId d
    rw [hnone, Option.elim_none] at hset
    have hzero : d.started = 0 := if_pos hstate
    show s.totalActiveSubnets = (s.subnetsData.set s.nextSubnetId d).total _
    have hold := h.started
    omega
  · exact min_le_right _ _

/-- A subnet is activated. -/
theorem startSubnet (h : s.Tallied) (hhomed : s.lifecycle.Homed) {d d' : SubnetData}
    (hd : s.subnetsData.find? i = some d) (hold : d.state = .registered)
    (hnew : d'.state = .active) : (s.startSubnet i d').Tallied := by
  have hkeys : (s.subnetsData.set i d').keys = s.subnetsData.keys := by
    rw [StorageMap.keys_set, Finset.insert_eq_of_mem (StorageMap.mem_keys.mpr ⟨d, hd⟩)]
  have hset := s.subnetsData.total_set (fun _ d => d.started) i d'
  rw [hd, Option.elim_some, show d.started = 0 from if_pos hold,
    show d'.started = 1 by simp [SubnetData.started, hnew]] at hset
  have hlt := h.started_lt hhomed hd hold
  refine ⟨h.records.of_counts (fun _ => rfl) (fun _ => rfl) rfl rfl rfl rfl, ?_, ?_, h.uids_le⟩
  · show s.totalSubnets = (s.subnetsData.set i d').keys.card
    rw [hkeys]
    exact h.subnets
  · show wrapAdd 32 s.totalActiveSubnets 1 = (s.subnetsData.set i d').total _
    rw [wrapAdd_one hlt, h.started]
    omega

theorem removeSubnet (h : s.Tallied) {d : SubnetData} (hd : s.subnetsData.find? i = some d) :
    (s.removeSubnet i d).Tallied := by
  have hmem : i ∈ s.subnetsData.keys := StorageMap.mem_keys.mpr ⟨d, hd⟩
  have hremove := s.subnetsData.total_remove (fun _ d => d.started) i
  rw [hd, Option.elim_some] at hremove
  have hrecords : (s.removeSubnet i d).toRecords = s.toRecords.clear i := rfl
  refine ⟨hrecords ▸ h.records.clear i, ?_, ?_, ?_⟩
  · show s.totalSubnets - 1 = (s.subnetsData.remove i).keys.card
    rw [StorageMap.keys_remove, Finset.card_erase_of_mem hmem, h.subnets]
  · show (if d.state ≠ .registered then s.totalActiveSubnets - 1 else s.totalActiveSubnets) =
      (s.subnetsData.remove i).total _
    have hold := h.started
    by_cases hstate : d.state = .registered
    · rw [show d.started = 0 from if_pos hstate] at hremove
      rw [if_neg (not_not.mpr hstate)]
      omega
    · rw [show d.started = 1 from if_neg hstate] at hremove
      rw [if_pos hstate]
      omega
  · have huids : (s.removeSubnet i d).totalSubnetUids = s.totalSubnetUids := by
      unfold Store.removeSubnet freeSlot
      cases s.subnetSlot.find? i <;> rfl
    rw [huids]
    exact h.uids_le

end Tallied

/-- Whatever happens keeps the counters right. -/
theorem tallied_preserved : Preserved ar known covered True D L Tallied where
  call {s s'} hsound h hcall := by
    -- a new node has an id that was not issued before
    have hid : ∀ {i d node}, s.Admits True True i d node →
        s.totalSubnetNodeUids.val i < node.id := by
      intro i d node hadmits
      have hleft := hadmits.left trivial
      rw [hadmits.id]
      unfold nextNodeId
      omega
    cases hcall with
    | other _ => exact ⟨h.records, h.subnets, h.started, h.uids_le⟩
    | registerSubnet hstate _ _ _ hleft => exact h.registerSubnet hsound.homed (hleft trivial) hstate
    | startSubnet hd hold hnew => exact h.startSubnet hsound.homed hd hold hnew
    -- a subnet that is paused has been started, too
    | @setSubnet i d d' hd hstate =>
        refine h.setSubnet hd ?_
        unfold SubnetData.started
        rcases hstate with hsame | ⟨hactive, hpaused⟩
        · rw [hsame]
        · rw [hactive, hpaused]
          rfl
    | @unpause i delta d d' hd hold hnew =>
        have hset : (s.setSubnet i d').Tallied := by
          refine h.setSubnet hd ?_
          unfold SubnetData.started
          rw [hold, hnew]
          rfl
        refine ⟨hset.records.of_counts (fun _ => rfl) (fun j => ?_) rfl rfl rfl rfl, hset.subnets,
          hset.started, hset.uids_le⟩
        -- the same nodes are queued, with later epochs
        refine StorageMap.prefixCount_congr (fun p => ?_) j
        show ((s.registeredSubnetNodesData.mapValues _).find? p).isSome = _
        rw [StorageMap.find?_mapValues, Option.isSome_map]
        rfl
    | @seat i d node x count hadmits _ _ _ =>
        have hrec : ((s.toRecords.enter i ar node x).seat i node).Tallied :=
          h.records.seat (hsound.inv.roster i) (hid hadmits) (hadmits.room trivial) x
        exact ⟨hrec, h.subnets, h.started, h.uids_le⟩
    | @enqueue i d node x hadmits _ _ =>
        have hrec : ((s.toRecords.enter i ar node x).enqueue i node).Tallied :=
          h.records.enqueue (hsound.inv.roster i) (hid hadmits) (hadmits.room trivial) x
        exact ⟨hrec, h.subnets, h.started, h.uids_le⟩
    | removeActive hnode =>
        exact h.setRecords (h.records.removeActive hnode) (Membership.removeActive_subnetsData ..)
    | removeRegistered hnode => exact h.setRecords (h.records.removeRegistered hnode) rfl
    | updateActive hnode _ =>
        refine h.setRecords ?_ rfl
        exact h.records.of_counts (StorageMap.prefixCount_set_old hnode _) (fun _ => rfl) rfl rfl
          rfl rfl
    | updateRegistered hnode _ =>
        refine h.setRecords ?_ rfl
        exact h.records.of_counts (fun _ => rfl) (StorageMap.prefixCount_set_old hnode _) rfl rfl
          rfl rfl
    | removeSubnet hd => exact h.removeSubnet hd
    | addStake _ _ _ =>
        exact h.setRecords (h.records.of_counts (fun _ => rfl) (fun _ => rfl) rfl rfl rfl rfl) rfl
    | removeStake clean _ =>
        cases clean with
        | none =>
            exact h.setRecords (h.records.of_counts (fun _ => rfl) (fun _ => rfl) rfl rfl rfl rfl)
              rfl
        | some v =>
            exact h.setRecords (h.records.of_counts (fun _ => rfl) (fun _ => rfl) rfl rfl rfl rfl)
              rfl
    | addValidator _ =>
        exact ⟨h.records.of_counts (fun _ => rfl) (fun _ => rfl) rfl rfl rfl rfl, h.subnets,
          h.started, h.uids_le⟩
    | setInitial _ _ _ => exact ⟨h.records, h.subnets, h.started, h.uids_le⟩
  submit _ h hsubmit := by
    cases hsubmit with
    | propose _ _ _ _ => exact ⟨h.records, h.subnets, h.started, h.uids_le⟩
    | attest _ _ => exact ⟨h.records, h.subnets, h.started, h.uids_le⟩
  tick h := ⟨h.records.of_counts (fun _ => rfl) (fun _ => rfl) rfl rfl rfl rfl, h.subnets,
    h.started, h.uids_le⟩
  hook {target s s'} hsound h hstep := by
    cases hstep with
    | node _ hstep => exact h.setRecords (h.records.step hstep) hstep.subnetsData
    | @activate i node rest _ hqueue _ =>
        exact h.setRecords (h.records.activate (hsound.inv.roster i) hqueue _) rfl
    | skip _ _ _ =>
        exact h.setRecords (h.records.of_counts (fun _ => rfl) (fun _ => rfl) rfl rfl rfl rfl) rfl
    | removeSubnet hd => exact h.removeSubnet hd
    | weigh _ => exact ⟨h.records, h.subnets, h.started, h.uids_le⟩

end Store

/-! ## Runs -/

section Runs

variable {A : Type} [DecidableEq A]

/-- What is taken off a counter is there, and what is added to it fits: for a node that
leaves (`active`, `registered`), registers or becomes active, for a subnet that is removed
with its nodes, registered or activated. -/
structure Chain.Unsaturated (c : Chain A) : Prop where
  active : ∀ s id, (s, id) ∈ c.nodes.subnetNodesData.keys →
    1 ≤ c.nodes.totalSubnetNodes.val s ∧ 1 ≤ c.nodes.totalActiveSubnetNodes.val s ∧
      1 ≤ c.nodes.totalActiveNodes
  registered : ∀ s id, (s, id) ∈ c.nodes.registeredSubnetNodesData.keys →
    1 ≤ c.nodes.totalSubnetNodes.val s ∧ c.nodes.totalActiveSubnetNodes.val s < u32Max ∧
      c.nodes.totalActiveNodes < u32Max
  register : c.nodes.totalNodes < u32Max → ∀ s, c.nodes.totalSubnetNodes.val s < u32Max ∧
    c.nodes.totalActiveSubnetNodes.val s < u32Max ∧ c.nodes.totalActiveNodes < u32Max
  clear : ∀ s, c.nodes.totalActiveSubnetNodes.val s ≤ c.nodes.totalActiveNodes
  registerSubnet : c.admission.totalSubnetUids < u32Max → c.registry.totalSubnets < u32Max
  subnet : ∀ s d, c.subnets.subnetsData.find? s = some d → 1 ≤ c.registry.totalSubnets ∧
    (d.state = .registered → c.registry.totalActiveSubnets < u32Max) ∧
    (d.state ≠ .registered → 1 ≤ c.registry.totalActiveSubnets)

omit [DecidableEq A] in
theorem Store.Tallied.unsaturated {c : Chain A} {L : ℕ} (h : c.store.Tallied)
    (hsound : c.store.Sound L) : c.Unsaturated where
  active s id hmem := by
    obtain ⟨node, hnode⟩ := StorageMap.mem_keys.mp hmem
    -- there is at least the node that goes
    have hpos := StorageMap.prefixCount_remove hnode s
    rw [if_pos rfl] at hpos
    have hactive : c.nodes.totalActiveSubnetNodes.val s = _ := h.records.active s
    have hnodes : c.nodes.totalSubnetNodes.val s = _ := h.records.nodes s
    have hle : c.nodes.totalActiveSubnetNodes.val s ≤ c.nodes.totalActiveNodes :=
      h.records.active_val_le s
    have hpop : c.store.toRecords.population s = c.nodes.subnetNodesData.prefixCount s +
      c.nodes.registeredSubnetNodesData.prefixCount s := rfl
    have hcount : c.store.subnetNodesData.prefixCount s = c.nodes.subnetNodesData.prefixCount s := rfl
    omega
  registered s id hmem := by
    obtain ⟨node, hnode⟩ := StorageMap.mem_keys.mp hmem
    have hpos := StorageMap.prefixCount_remove hnode s
    rw [if_pos rfl] at hpos
    have hnodes : c.nodes.totalSubnetNodes.val s = _ := h.records.nodes s
    have hpop : c.store.toRecords.population s = c.nodes.subnetNodesData.prefixCount s +
      c.nodes.registeredSubnetNodesData.prefixCount s := rfl
    have hlt : c.nodes.totalActiveNodes < u32Max := h.records.active_lt hnode
    refine ⟨by omega, (h.records.active_val_le s).trans_lt hlt, hlt⟩
  register hroom s := by
    have hlt := (h.records.active_le.trans h.records.covers).trans_lt hroom
    refine ⟨?_, (h.records.active_val_le s).trans_lt hlt, hlt⟩
    exact ((StorageMap.val_le_sum _ s).trans h.records.covers).trans_lt hroom
  clear := h.records.active_val_le
  registerSubnet hleft := by
    -- each subnet has an id of its own
    have hcard : c.store.totalSubnets ≤ c.admission.totalSubnetUids :=
      h.subnets.trans_le (Store.homed_card_le hsound.homed)
    exact hcard.trans_lt hleft
  subnet s d hd := by
    have hmem : s ∈ c.store.subnetsData.keys := StorageMap.mem_keys.mpr ⟨d, hd⟩
    refine ⟨?_, h.started_lt hsound.homed hd, ?_⟩
    · show 1 ≤ c.store.totalSubnets
      rw [h.subnets]
      exact Finset.card_pos.mpr ⟨s, hmem⟩
    · intro hstate
      show 1 ≤ c.store.totalActiveSubnets
      rw [h.started, Store.started_eq_card]
      refine Finset.card_pos.mpr ⟨s, Finset.mem_filter.mpr ⟨hmem, ?_⟩⟩
      intro d' hd'
      cases Option.some.inj (hd.symm.trans hd')
      exact hstate

/-- Along every run the counters are exact: `TotalSubnetNodes` of a subnet is the number of
its active and registered nodes, `TotalActiveSubnetNodes` that of the active ones and
`TotalActiveNodes` the sum of these; `TotalSubnets` is the number of subnets and
`TotalActiveSubnets` of those that are not registered. No counter is ever at the end of its
range at which the next change would get lost. -/
theorem counts_are_exact (rt : Runtime A) (balances : StorageMap A ℕ) (ops : List (PalletOp A))
    (hleft : Along (PalletOp.step rt) (fun c op => op.IdsLeft c ∧ op.RoomLeft c)
      (.genesis rt balances) ops) :
    let c := run (PalletOp.step rt) (.genesis rt balances) ops
    (∀ s, c.nodes.totalSubnetNodes.val s = c.nodes.subnetNodesData.prefixCount s +
        c.nodes.registeredSubnetNodesData.prefixCount s ∧
      c.nodes.totalActiveSubnetNodes.val s = c.nodes.subnetNodesData.prefixCount s) ∧
    c.nodes.totalActiveNodes = c.nodes.totalActiveSubnetNodes.sum ∧
    c.registry.totalSubnets = c.subnets.subnetsData.keys.card ∧
    c.registry.totalActiveSubnets = (c.subnets.subnetsData.keys.filter fun s =>
      ∀ d ∈ c.subnets.subnetsData.find? s, d.state ≠ .registered).card ∧
    c.Unsaturated := by
  intro c
  have hgenesis : (Chain.genesis rt balances).store.Tallied := by
    refine ⟨⟨fun _ => rfl, fun _ => rfl, (StorageMap.total_empty _).symm, ?_, Nat.zero_le _⟩, ?_,
      (StorageMap.total_empty _).symm, show 128000 ≤ u32Max by decide⟩
    · exact (StorageMap.total_empty _).le
    · rfl
  have hpreserved : Store.Preserved u128 False False True rt.designatedEpochSlots rt.epochLength
      Store.Tallied := Store.tallied_preserved
  have hrun : c.store.Sound rt.epochLength ∧ c.store.Tallied :=
    run_invariant (I := fun c : Chain A => c.store.Sound rt.epochLength ∧ c.store.Tallied)
      (fun _ op hop h => op.stepIn_preserved hpreserved hop.1 (fun _ => hop.2) False.elim
        False.elim h) hleft ⟨Chain.genesis_sound rt balances, hgenesis⟩
  obtain ⟨hsound, h⟩ := hrun
  refine ⟨fun s => ⟨h.records.nodes s, h.records.active s⟩, h.records.total, h.subnets, ?_,
    h.unsaturated hsound⟩
  exact h.started.trans (Store.started_eq_card _)

/-- The three nodes of the run are active, and its subnet is not. -/
theorem counts_are_exact_demo :
    let c := demoPalletAfter demoPallet
    c.nodes.totalActiveSubnetNodes.val 128001 = 3 ∧ c.registry.totalSubnets = 1 ∧
      c.registry.totalActiveSubnets = 0 ∧
      (∀ s, c.nodes.totalActiveSubnetNodes.val s = c.nodes.subnetNodesData.prefixCount s) ∧
      c.Unsaturated := by
  have hleft : Along (PalletOp.step Runtime.runtime) (fun c op => op.IdsLeft c ∧ op.RoomLeft c)
      (.genesis Runtime.runtime demoBalances) demoPallet := by decide +kernel
  have h := counts_are_exact Runtime.runtime demoBalances demoPallet hleft
  exact ⟨by decide +kernel, by decide +kernel, by decide +kernel, fun s => (h.1 s).2, h.2.2.2.2⟩

end Runs

end Hypertensor
