import Mathlib
import Hypertensor.Lifecycle.Slots

/-!
# Hypertensor.Lifecycle.Invariant — the rosters along every run

The settlement of an epoch acts on the classes its submission recorded, so the
election slots stay right only if these classes are still right when the epoch is
settled. `Snapshot` says that they are: between the submission and the block in which
the epoch ends no node of the subnet changes its class, and that block settles the
epoch before it opens the next one.

* `Inv`: every subnet has a roster, every slot one subnet, and every submission of a
  current epoch is a snapshot.
* `Inv.change`: whatever happens keeps this.
* `election_slots_are_the_validators`: so it holds along every run.
-/

namespace Hypertensor

open Base Relation

namespace Lifecycle

variable {room : Prop} {L : ℕ} {l l' : Lifecycle} {i e slot : ℕ} {nodes : List SubnetNode}

/-! ## The invariant -/

/-- What a stored list of nodes of an epoch still says about the subnet. -/
structure Snapshot (L : ℕ) (l : Lifecycle) (i e slot : ℕ) (nodes : List SubnetNode) : Prop where
  pos : slot ≠ 0
  started : slot ≤ l.block
  epoch_le : e ≤ (l.block - slot) / L
  nodup : (nodes.map SubnetNode.id).Nodup
  given : ∀ n ∈ nodes, n.id ≤ l.totalSubnetNodeUids.val i ∧
    l.registeredSubnetNodesData.find? (i, n.id) = none
  current : e = (l.block - slot) / L → l.Current i nodes

/-- The invariant of the network. -/
structure Inv (L : ℕ) (l : Lifecycle) : Prop where
  roster : ∀ i, l.toMembership.Roster (l.totalSubnetNodeUids.val i) i
  assigned : ∀ i slot, l.subnetSlot.find? i = some slot ↔ l.slotAssignment.find? slot = some i
  slot_ok : ∀ i slot, l.subnetSlot.find? i = some slot →
    slot < L ∧ slot ∈ l.assignedSlots ∧ i ≤ l.totalSubnetUids
  submitted : ∀ i e d, l.subnetConsensusSubmission.find? (i, e) = some d → i ≤ l.totalSubnetUids
  snapshot : ∀ i e d slot, l.subnetConsensusSubmission.find? (i, e) = some d →
    l.subnetSlot.find? i = some slot → Snapshot L l i e slot d.subnetNodes

/-- A snapshot stays one while ids are only added and classes kept. -/
theorem Snapshot.mono (h : Snapshot L l i e slot nodes) (hblock : l'.block = l.block)
    (huids : l.totalSubnetNodeUids.val i ≤ l'.totalSubnetNodeUids.val i)
    (hreg : ∀ id, id ≤ l.totalSubnetNodeUids.val i →
      l.registeredSubnetNodesData.find? (i, id) = none →
      l'.registeredSubnetNodesData.find? (i, id) = none)
    (hclass : ∀ id, id ≤ l.totalSubnetNodeUids.val i →
      l.registeredSubnetNodesData.find? (i, id) = none → ∀ n', l'.node? i id = some n' →
      ∃ n, l.node? i id = some n ∧ n.classification.nodeClass = n'.classification.nodeClass) :
    Snapshot L l' i e slot nodes where
  pos := h.pos
  started := hblock ▸ h.started
  epoch_le := hblock ▸ h.epoch_le
  nodup := h.nodup
  given n hn := by
    rcases h.given n hn with ⟨hle, hnone⟩
    exact ⟨hle.trans huids, hreg n.id hle hnone⟩
  current he := by
    rw [hblock] at he
    intro n hn node hnode
    rcases h.given n hn with ⟨hle, hnone⟩
    rcases hclass n.id hle hnone node hnode with ⟨old, hold, heq⟩
    rw [← heq]
    exact h.current he n hn old hold

/-- A subnet whose nodes do not change keeps its snapshots. -/
theorem Snapshot.sameAt (h : Snapshot L l i e slot nodes) (hblock : l'.block = l.block)
    (huids : l'.totalSubnetNodeUids.val i = l.totalSubnetNodeUids.val i)
    (hsame : l.toMembership.SameAt i l'.toMembership) : Snapshot L l' i e slot nodes := by
  refine h.mono hblock huids.ge ?_ ?_
  · intro id _ hnone
    rw [hsame.registered, hnone]
  · intro id _ _ n' hn'
    rw [hsame.node] at hn'
    exact ⟨n', hn', rfl⟩

/-! ## Calls -/

/-- A step in one subnet that leaves the slots and submissions alone. -/
theorem Inv.membership {m : Membership} (h : Inv L l) (hblock : m.block = l.block)
    (hroster : m.Roster (l.totalSubnetNodeUids.val i) i)
    (hothers : ∀ j, j ≠ i → l.toMembership.SameAt j m)
    (hsnap : ∀ e d slot, l.subnetConsensusSubmission.find? (i, e) = some d →
      l.subnetSlot.find? i = some slot → Snapshot L l i e slot d.subnetNodes →
      Snapshot L { l with toMembership := m } i e slot d.subnetNodes) :
    Inv L { l with toMembership := m } where
  roster j := by
    by_cases hj : j = i
    · exact hj ▸ hroster
    · exact (h.roster j).sameAt (hothers j hj)
  assigned := h.assigned
  slot_ok := h.slot_ok
  submitted := h.submitted
  snapshot j e d slot hd hslot := by
    by_cases hj : j = i
    · subst hj
      exact hsnap e d slot hd hslot (h.snapshot j e d slot hd hslot)
    · exact (h.snapshot j e d slot hd hslot).sameAt hblock rfl (hothers j hj)

/-- Removals of nodes and edits of records keep snapshots. -/
theorem Snapshot.shrink {m : Membership} (h : Snapshot L l i e slot nodes)
    (hblock : m.block = l.block)
    (hreg : ∀ id, l.registeredSubnetNodesData.find? (i, id) = none →
      m.registeredSubnetNodesData.find? (i, id) = none)
    (hclass : ∀ id n', m.node? i id = some n' →
      ∃ n, l.node? i id = some n ∧ n.classification.nodeClass = n'.classification.nodeClass) :
    Snapshot L { l with toMembership := m } i e slot nodes :=
  h.mono hblock le_rfl (fun id _ => hreg id) fun id _ _ => hclass id

/-- A node is registered. -/
theorem Inv.enter {place : Membership → Membership} {id : ℕ} (h : Inv L l)
    (hid : id = l.totalSubnetNodeUids.val i + 1)
    (hroster : (place (l.toMembership.countUp i)).Roster id i)
    (hothers : ∀ m : Membership, ∀ j, j ≠ i → m.SameAt j (place m))
    (hblock : ∀ m : Membership, (place m).block = m.block)
    (hreg : ∀ m : Membership, ∀ j, j ≠ id → m.registeredSubnetNodesData.find? (i, j) = none →
      (place m).registeredSubnetNodesData.find? (i, j) = none)
    (hnode : ∀ m : Membership, ∀ j, j ≠ id → (place m).node? i j = m.node? i j) :
    Inv L (l.enter i id place) where
  roster j := by
    unfold Lifecycle.enter
    dsimp only
    by_cases hj : j = i
    · subst hj
      rw [StorageMap.val_set_self]
      exact hroster
    · rw [StorageMap.val_set_ne _ _ hj]
      exact (h.roster j).sameAt ((Membership.sameAt_countUp _ hj).trans (hothers _ j hj))
  assigned := h.assigned
  slot_ok := h.slot_ok
  submitted := h.submitted
  snapshot j e d slot hd hslot := by
    -- a snapshot is about nodes that were there before the one that enters
    have hold := h.snapshot j e d slot hd hslot
    have hblock' : (l.enter i id place).block = l.block := hblock _
    by_cases hj : j = i
    · subst hj
      have huids : (l.enter j id place).totalSubnetNodeUids.val j = id :=
        StorageMap.val_set_self ..
      refine hold.mono hblock' (by omega) ?_ ?_
      · intro k hk hnone
        exact hreg (l.toMembership.countUp j) k (by omega) hnone
      · intro k hk _ n' hn'
        have heq := hnode (l.toMembership.countUp j) k (by omega)
        exact ⟨n', heq ▸ hn', rfl⟩
    · exact hold.sameAt hblock' (StorageMap.val_set_ne _ _ hj)
        ((Membership.sameAt_countUp _ hj).trans (hothers _ j hj))

/-- A record of a subnet is written. -/
theorem Inv.setSubnet (h : Inv L l) (i : ℕ) (d : SubnetData) : Inv L (l.setSubnet i d) where
  roster j := (h.roster j).sameAt ⟨fun _ => rfl, fun _ => rfl, rfl, rfl, fun _ => rfl, rfl, rfl⟩
  assigned := h.assigned
  slot_ok := h.slot_ok
  submitted := h.submitted
  snapshot j e d slot hd hslot := (h.snapshot j e d slot hd hslot).mono rfl le_rfl
    (fun _ _ hnone => hnone) fun _ _ _ n' hn' => ⟨n', hn', rfl⟩

/-- The records of queued nodes are written. -/
theorem Inv.setRegistered (h : Inv L l) {f : StorageMap (ℕ × ℕ) SubnetNode}
    (hf : ∀ k, (f.find? k).isSome = (l.registeredSubnetNodesData.find? k).isSome) :
    Inv L { l with registeredSubnetNodesData := f } where
  roster j := (h.roster j).updateRegistered fun id => hf (j, id)
  assigned := h.assigned
  slot_ok := h.slot_ok
  submitted := h.submitted
  snapshot j e d slot hd hslot := by
    refine (h.snapshot j e d slot hd hslot).mono rfl le_rfl ?_ fun _ _ _ n' hn' => ⟨n', hn', rfl⟩
    intro id _ hnone
    have hsome := hf (j, id)
    rw [hnone] at hsome
    simpa using hsome

/-- A submission is stored. -/
theorem Inv.setSubmission (h : Inv L l) {d : ConsensusData} (hi : i ≤ l.totalSubnetUids)
    (hsnap : ∀ slot, l.subnetSlot.find? i = some slot → Snapshot L l i e slot d.subnetNodes) :
    Inv L (l.setSubmission i e d) where
  roster := h.roster
  assigned := h.assigned
  slot_ok := h.slot_ok
  submitted j e' d' hd' := by
    unfold Lifecycle.setSubmission at hd'
    dsimp only at hd'
    rw [StorageMap.find?_set] at hd'
    split at hd'
    · next heq =>
        cases heq
        exact hi
    · exact h.submitted j e' d' hd'
  snapshot j e' d' slot hd' hslot := by
    unfold Lifecycle.setSubmission at hd' hslot
    dsimp only at hd' hslot
    rw [StorageMap.find?_set] at hd'
    have hmono : ∀ {nodes}, Snapshot L l j e' slot nodes →
        Snapshot L (l.setSubmission i e d) j e' slot nodes := fun hold =>
      hold.mono rfl le_rfl (fun _ _ hnone => hnone) fun _ _ _ n' hn' => ⟨n', hn', rfl⟩
    split at hd'
    · next heq =>
        cases heq
        cases hd'
        exact hmono (hsnap slot hslot)
    · exact hmono (h.snapshot j e' d' slot hd' hslot)

/-- The nodes listed in a proposal are those of its subnet. -/
theorem Inv.propose {p : SubnetNode → Bool} (h : Inv L l) (hslot : l.subnetSlot.find? i = some slot)
    (hpos : slot ≠ 0) (hstarted : slot ≤ l.block) :
    Snapshot L l i (l.subnetEpoch L i) slot ((l.subnetNodesData.prefixValues i).filter p) := by
  have hval : l.subnetSlot.val i = slot := by
    simp [StorageMap.val, StorageMap.getD, hslot]
  have hepoch : l.subnetEpoch L i = (l.block - slot) / L := by
    unfold subnetEpoch
    dsimp only
    rw [hval, if_neg hpos, if_neg (not_lt.mpr hstarted)]
  have hrecord : ∀ n ∈ (l.subnetNodesData.prefixValues i).filter p, l.node? i n.id = some n := by
    intro n hn
    rcases StorageMap.mem_prefixValues.mp (List.mem_filter.mp hn).1 with ⟨j, hj⟩
    have hid := ((h.roster i).active j n hj).1
    rw [hid]
    exact hj
  refine ⟨hpos, hstarted, hepoch.le, ?_, ?_, fun _ => ?_⟩
  · refine List.Nodup.sublist (List.filter_sublist.map _) (StorageMap.nodup_map_prefixValues ?_)
    exact fun j n hn => ((h.roster i).active j n hn).1
  · intro n hn
    have hactive := (h.roster i).active n.id n (hrecord n hn)
    exact ⟨hactive.2.2.1, hactive.2.2.2⟩
  · intro n hn node hnode
    rw [hrecord n hn] at hnode
    cases hnode
    rfl

theorem Inv.registerSubnet {d : SubnetData} (h : Inv L l) (hslot : slot ∉ l.assignedSlots)
    (hlt : slot < L) (hleft : l.totalSubnetUids < u32Max) : Inv L (l.registerSubnet slot d) := by
  have hnext : l.nextSubnetId = l.totalSubnetUids + 1 := by
    unfold nextSubnetId
    omega
  -- the slot is nobody's, and the id was never issued
  have hfree : ∀ j, l.slotAssignment.find? slot ≠ some j := by
    intro j hj
    exact hslot (h.slot_ok j slot ((h.assigned j slot).mpr hj)).2.1
  have hnew : l.subnetSlot.find? (l.totalSubnetUids + 1) = none := by
    cases hs : l.subnetSlot.find? (l.totalSubnetUids + 1) with
    | none => rfl
    | some s =>
        have := (h.slot_ok _ s hs).2.2
        omega
  unfold Lifecycle.registerSubnet
  rw [hnext]
  constructor
  · exact fun j =>
      (h.roster j).sameAt ⟨fun _ => rfl, fun _ => rfl, rfl, rfl, fun _ => rfl, rfl, rfl⟩
  -- both directions of the slot table: the new subnet has the new slot, and no other
  · intro j s
    dsimp only
    rw [StorageMap.find?_set, StorageMap.find?_set]
    by_cases hj : j = l.totalSubnetUids + 1
    · subst hj
      by_cases hs : s = slot
      · simp [hs]
      · rw [if_pos rfl, if_neg hs, ← h.assigned, hnew]
        simp [Ne.symm hs]
    · by_cases hs : s = slot
      · subst hs
        rw [if_neg hj, if_pos rfl, h.assigned]
        constructor
        · exact fun hold => absurd hold (hfree j)
        · intro heq
          exact absurd (Option.some.inj heq).symm hj
      · rw [if_neg hj, if_neg hs]
        exact h.assigned j s
  · intro j s
    dsimp only
    rw [StorageMap.find?_set]
    split
    · next hj =>
        intro heq
        cases heq
        exact ⟨hlt, Finset.mem_insert_self _ _, hj.le⟩
    · intro hs
      rcases h.slot_ok j s hs with ⟨hslt, hmem, hle⟩
      exact ⟨hslt, Finset.mem_insert_of_mem hmem, by omega⟩
  · intro j e d' hd'
    have := h.submitted j e d' hd'
    dsimp only
    omega
  · intro j e d' s hd' hs
    dsimp only at hd' hs
    -- there are no submissions for a subnet to come
    have hle := h.submitted j e d' hd'
    rw [StorageMap.find?_set_ne _ _ (by omega)] at hs
    exact (h.snapshot j e d' s hd' hs).mono rfl le_rfl (fun _ _ hnone => hnone)
      fun _ _ _ n' hn' => ⟨n', hn', rfl⟩

/-- A subnet is removed: its slot is free again, and its submissions are without use. -/
theorem Inv.removeSubnet (h : Inv L l) (i : ℕ) : Inv L (l.removeSubnet i) := by
  have hslots := fun j s => removeSubnet_subnetSlot l i j s
  constructor
  · intro j
    by_cases hj : j = i
    · subst hj
      have hzero : (l.removeSubnet j).totalSubnetNodeUids.val j = 0 := by
        simp [Lifecycle.removeSubnet, StorageMap.val, StorageMap.getD]
      rw [hzero]
      exact Membership.Roster.clear l.toMembership j
    · have huids : (l.removeSubnet i).totalSubnetNodeUids.val j = l.totalSubnetNodeUids.val j :=
        StorageMap.val_remove_ne _ hj
      rw [huids]
      exact (h.roster j).sameAt (Membership.sameAt_clear _ hj)
  · intro j s
    rw [hslots, h.assigned]
    unfold Lifecycle.removeSubnet freeSlot
    split
    · next hnone =>
        constructor
        · exact And.right
        · intro hs
          refine ⟨?_, hs⟩
          rintro rfl
          rw [← h.assigned, hnone] at hs
          cases hs
    -- the slot is freed, and with it the one entry that leads to the subnet
    · next slot hslot =>
        dsimp only
        rw [StorageMap.find?_remove]
        have hi := (h.assigned i slot).mp hslot
        by_cases hs : s = slot
        · subst hs
          rw [if_pos rfl, hi]
          simp only [Option.some.injEq, reduceCtorEq, iff_false, not_and]
          exact fun hj heq => hj heq.symm
        · rw [if_neg hs]
          constructor
          · exact And.right
          · intro hj
            refine ⟨?_, hj⟩
            rintro rfl
            rw [← h.assigned, hslot] at hj
            exact hs (Option.some.inj hj).symm
  · intro j s hs
    rw [hslots] at hs
    rcases h.slot_ok j s hs.2 with ⟨hlt, hmem, hle⟩
    refine ⟨hlt, ?_, ?_⟩
    · unfold Lifecycle.removeSubnet freeSlot
      split
      · exact hmem
      · next slot hslot =>
          refine Finset.mem_erase.mpr ⟨?_, hmem⟩
          rintro rfl
          have hj := (h.assigned j s).mp hs.2
          rw [(h.assigned i s).mp hslot] at hj
          exact hs.1 (Option.some.inj hj).symm
    · rw [removeSubnet_totalSubnetUids]
      exact hle
  · intro j e d hd
    rw [removeSubnet_subnetConsensusSubmission] at hd
    rw [removeSubnet_totalSubnetUids]
    exact h.submitted j e d hd
  · intro j e d s hd hs
    rw [hslots] at hs
    rw [removeSubnet_subnetConsensusSubmission] at hd
    exact (h.snapshot j e d s hd hs.2).sameAt rfl (StorageMap.val_remove_ne _ hs.1)
      (Membership.sameAt_clear _ hs.1)

/-- Every call keeps the invariant. -/
theorem Inv.call (h : Inv L l) (hcall : Call True room L l l') : Inv L l' := by
  cases hcall with
  | other q =>
      exact ⟨h.roster, h.assigned, h.slot_ok, h.submitted, fun j e d slot hd hslot =>
        (h.snapshot j e d slot hd hslot).sameAt rfl rfl (.refl j _)⟩
  | registerSubnet hslot hlt hleft => exact h.registerSubnet hslot hlt (hleft trivial)
  | setSubnet _ => exact h.setSubnet _ _
  | unpause _ =>
      refine (h.setSubnet _ _).setRegistered fun k => ?_
      rw [StorageMap.find?_mapValues, Option.isSome_map]
  -- the new node gets the next id of its subnet, active at once or queued
  | @seat i d node hd hid hclass hslot hleft _ =>
      have hnext : node.id = l.totalSubnetNodeUids.val i + 1 := by
        rw [hid, nextNodeId]
        have := hleft trivial
        omega
      refine h.enter hnext ((h.roster i).countUp.seat hnext (hleft trivial) hclass)
        (fun m j hj => Membership.sameAt_seat m hj node) (fun _ => rfl) ?_ ?_
      · intro m j hj hnone
        exact (StorageMap.find?_remove_ne _ (by simpa using hj)).trans hnone
      · intro m j hj
        exact StorageMap.find?_set_ne _ _ (by simpa using hj)
  | @enqueue i d node hd hid hclass hleft _ =>
      have hnext : node.id = l.totalSubnetNodeUids.val i + 1 := by
        rw [hid, nextNodeId]
        have := hleft trivial
        omega
      refine h.enter hnext ((h.roster i).countUp.enqueue hnext (hleft trivial) hclass)
        (fun m j hj => Membership.sameAt_enqueue m hj node) (fun _ => rfl) ?_ fun _ _ _ => rfl
      intro m j hj hnone
      exact (StorageMap.find?_set_ne _ _ (by simpa using hj)).trans hnone
  -- the snapshot of a submission only loses nodes
  | @removeActive i id node hnode =>
      refine h.membership (Membership.removeActive_block ..) ((h.roster i).removeActive hnode)
        (fun j hj => Membership.sameAt_removeActive _ hj node) ?_
      intro e d slot _ _ hsnap
      refine hsnap.shrink (Membership.removeActive_block ..) ?_ ?_
      · intro j hnone
        rw [Membership.removeActive_registeredSubnetNodesData]
        exact hnone
      · intro j n' hn'
        rw [Membership.removeActive_node?] at hn'
        split at hn'
        · cases hn'
        · exact ⟨n', hn', rfl⟩
  | @removeRegistered i id node hnode =>
      refine h.membership rfl (h.roster i).removeRegistered
        (fun j hj => Membership.sameAt_removeRegistered _ hj) ?_
      intro e d slot _ _ hsnap
      refine hsnap.shrink rfl ?_ fun j n' hn' => ⟨n', hn', rfl⟩
      intro j hnone
      unfold Membership.removeRegistered Membership.countDown
      dsimp only
      rw [StorageMap.find?_remove]
      split
      · rfl
      · exact hnone
  | @updateActive i id node node' hnode hid hclass =>
      refine h.membership rfl ((h.roster i).updateActive hnode hid hclass)
        (fun j hj => Membership.sameAt_setNode _ hj node') ?_
      intro e d slot _ _ hsnap
      refine hsnap.shrink rfl (fun _ hnone => hnone) ?_
      intro j n' hn'
      unfold Membership.node? at hn'
      dsimp only at hn'
      rw [StorageMap.find?_set] at hn'
      split at hn'
      · next heq =>
          cases heq
          cases hn'
          exact ⟨node, hnode, by rw [hclass]⟩
      · exact ⟨n', hn', rfl⟩
  | @updateRegistered i id node node' hnode =>
      refine h.setRegistered fun k => ?_
      rw [StorageMap.find?_set]
      split
      · next heq => simp [heq, hnode]
      · rfl
  | removeSubnet _ => exact h.removeSubnet _

/-- A submission keeps the invariant. -/
theorem Inv.submit (h : Inv L l) (hsubmit : Submit L l l') : Inv L l' := by
  cases hsubmit with
  | @propose i slot d hslot hpos hstarted hnodes =>
      rcases hnodes with ⟨p, hnodes⟩
      have hfind : l.subnetSlot.find? i = some slot := by
        cases hs : l.subnetSlot.find? i with
        | none =>
            rw [StorageMap.val, StorageMap.getD, hs] at hslot
            exact absurd hslot.symm hpos
        | some s =>
            rw [StorageMap.val, StorageMap.getD, hs] at hslot
            exact congrArg some hslot
      refine h.setSubmission (h.slot_ok i slot hfind).2.2 fun s hs => ?_
      rw [hfind] at hs
      cases hs
      rw [hnodes]
      exact h.propose hfind hpos hstarted
  | attest hd hnodes =>
      refine h.setSubmission (h.submitted _ _ _ hd) fun s hs => ?_
      rw [hnodes]
      exact h.snapshot _ _ _ s hd hs

/-! ## Blocks -/

/-- In the block of a slot the next epoch begins, and in no other. -/
theorem epoch_tick {b : ℕ} (hslot : slot ≤ b) (hlt : slot < L) :
    (b + 1 - slot) / L = (b - slot) / L + if (b + 1) % L = slot then 1 else 0 := by
  have hsucc : b + 1 - slot = b - slot + 1 := by omega
  have hdvd : L ∣ b - slot + 1 ↔ (b + 1) % L = slot := by
    rw [← hsucc, ← Nat.modEq_iff_dvd' (by omega), Nat.ModEq, Nat.mod_eq_of_lt hlt]
    exact eq_comm
  rw [hsucc, Nat.succ_div]
  simp only [hdvd]

/-- The current epoch, from the slot of the subnet on. -/
theorem subnetEpoch_of_started (hslot : l.subnetSlot.find? i = some slot) (hpos : slot ≠ 0)
    (hstarted : slot ≤ l.block) : l.subnetEpoch L i = (l.block - slot) / L := by
  have hval : l.subnetSlot.val i = slot := by
    simp [StorageMap.val, StorageMap.getD, hslot]
  unfold subnetEpoch
  dsimp only
  rw [hval, if_neg hpos, if_neg (not_lt.mpr hstarted)]

theorem wrapSub_one {a : ℕ} (hpos : 1 ≤ a) (hle : a ≤ u32Max) : wrapSub 32 a 1 = a - 1 := by
  simp only [u32Max, uMax] at hle
  unfold wrapSub
  omega

/-- No submission of the target's current epoch is there yet. -/
def Opening (L : ℕ) (target : Option ℕ) (l : Lifecycle) : Prop :=
  ∀ i, target = some i → ∀ e d slot, l.subnetConsensusSubmission.find? (i, e) = some d →
    l.subnetSlot.find? i = some slot → e < (l.block - slot) / L

theorem Inv.tick (h : Inv L l) : Inv L l.tick ∧
    Opening L (l.slotAssignment.find? (l.tick.block % L)) l.tick := by
  have htick : l.tick.block = l.block + 1 := rfl
  constructor
  · refine ⟨fun j => (h.roster j).sameAt
      ⟨fun _ => rfl, fun _ => rfl, rfl, rfl, fun _ => rfl, rfl, rfl⟩, h.assigned, h.slot_ok,
      h.submitted, ?_⟩
    intro i e d slot hd hslot
    have hsnap := h.snapshot i e d slot hd hslot
    have hepoch := epoch_tick hsnap.started (h.slot_ok i slot hslot).1
    have hle := hsnap.epoch_le
    refine ⟨hsnap.pos, hsnap.started.trans (Nat.le_succ _), ?_, hsnap.nodup, hsnap.given, ?_⟩
    · rw [htick, hepoch]
      exact hle.trans (Nat.le_add_right _ _)
    · intro he
      rw [htick, hepoch] at he
      refine hsnap.current ?_
      split at he
      · omega
      · exact he
  · intro i hi e d slot hd hslot
    have hsnap := h.snapshot i e d slot hd hslot
    have hepoch := epoch_tick hsnap.started (h.slot_ok i slot hslot).1
    have hslot' := (h.assigned i _).mpr hi
    rw [htick] at hslot' ⊢
    have hmod : (l.block + 1) % L = slot := Option.some.inj (hslot'.symm.trans hslot)
    rw [hepoch, if_pos hmod]
    exact Nat.lt_succ_of_le hsnap.epoch_le

/-- The submission that the next block settles is current. -/
theorem Inv.settleableAt (h : Inv L l) (hblock : l.block < u32Max) : l.tick.SettleableAt L := by
  intro i hi d hd
  have htick : l.tick.block = l.block + 1 := rfl
  rw [htick] at hi
  generalize hs : (l.block + 1) % L = slot at hi
  have hslot := (h.assigned i slot).mpr hi
  have hsnap := h.snapshot i _ d slot hd hslot
  have hepoch := epoch_tick hsnap.started (h.slot_ok i slot hslot).1
  rw [if_pos hs] at hepoch
  have hnow : l.tick.subnetEpoch L i = (l.block + 1 - slot) / L :=
    subnetEpoch_of_started hslot hsnap.pos (hsnap.started.trans (Nat.le_succ _))
  have hsmall : (l.block + 1 - slot) / L ≤ u32Max := (Nat.div_le_self _ _).trans (by omega)
  refine ⟨hsnap.nodup, hsnap.current ?_⟩
  rw [hepoch] at hnow hsmall
  rw [hnow, wrapSub_one (Nat.le_add_left 1 _) hsmall, Nat.add_sub_cancel]

/-- What the hook does in the subnet whose slot it is keeps the invariant. -/
theorem Inv.opening {m : Membership} {target : Option ℕ} (h : Inv L l)
    (hopen : Opening L target l) (hi : target = some i) (hblock : m.block = l.block)
    (hroster : m.Roster (l.totalSubnetNodeUids.val i) i)
    (hothers : ∀ j, j ≠ i → l.toMembership.SameAt j m)
    (hreg : ∀ id, l.registeredSubnetNodesData.find? (i, id) = none →
      m.registeredSubnetNodesData.find? (i, id) = none) :
    Inv L { l with toMembership := m } ∧ Opening L target { l with toMembership := m } := by
  constructor
  · refine h.membership hblock hroster hothers ?_
    intro e d slot hd hslot hsnap
    have hlt := hopen i hi e d slot hd hslot
    refine ⟨hsnap.pos, hblock.symm ▸ hsnap.started, hblock.symm ▸ hsnap.epoch_le, hsnap.nodup, ?_, ?_⟩
    · intro n hn
      rcases hsnap.given n hn with ⟨hle, hnone⟩
      exact ⟨hle, hreg n.id hnone⟩
    · intro he
      dsimp only at he
      rw [hblock] at he
      exact absurd he hlt.ne
  · intro j hj e d slot hd hslot
    dsimp only
    rw [hblock]
    exact hopen j hj e d slot hd hslot

/-- A step of the hook. -/
theorem Inv.step {target : Option ℕ} (h : Inv L l) (hopen : Opening L target l)
    (hstep : Step True L target l l') : Inv L l' ∧ Opening L target l' := by
  cases hstep with
  | @node i m hi hstep =>
      refine h.opening hopen hi hstep.block ((h.roster i).step hstep)
        (fun j hj => hstep.sameAt _ hj) ?_
      exact fun id => hstep.registered_none
  | @activate i node rest hi hqueue hready =>
      refine h.opening hopen hi rfl ((h.roster i).activate hqueue _)
        (fun j hj => Membership.sameAt_activate _ hj _ _ _) ?_
      intro id hnone
      unfold Membership.activate
      dsimp only
      rw [StorageMap.find?_remove]
      split
      · rfl
      · exact hnone
  | @skip i node rest hi hqueue hclass =>
      -- queued nodes are of the registered class
      refine absurd ((h.roster i).queued node ?_).2 hclass
      rw [hqueue]
      exact List.mem_cons_self
  | @removeSubnet i d hd =>
      refine ⟨h.removeSubnet i, ?_⟩
      intro j hj e d slot hd hslot
      rw [removeSubnet_subnetConsensusSubmission] at hd
      rw [removeSubnet_subnetSlot] at hslot
      exact hopen j hj e d slot hd hslot.2

theorem Inv.runs {target : Option ℕ} (h : Inv L l) (hopen : Opening L target l)
    (hruns : Runs True L target l l') : Inv L l' := by
  have hboth : Inv L l' ∧ Opening L target l' := by
    induction hruns with
    | refl => exact ⟨h, hopen⟩
    | tail _ hstep ih => exact ih.1.step ih.2 hstep
  exact hboth.1

/-- Whatever happens keeps the invariant. -/
theorem Inv.change (h : Inv L l) (hchange : Change True room L l l') : Inv L l' := by
  cases hchange with
  | submit hsubmit => exact h.submit hsubmit
  | quiet hquiet =>
      cases hquiet with
      | call hcall => exact h.call hcall
      | block _ hruns =>
          rcases h.tick with ⟨htick, hopen⟩
          exact htick.runs hopen hruns

end Lifecycle

/-! ## Runs -/

section Runs

variable {A : Type} [DecidableEq A]

omit [DecidableEq A] in
/-- A new chain has no nodes. -/
theorem Chain.genesis_inv (rt : Runtime A) (balances : StorageMap A ℕ) (L : ℕ) :
    (Chain.genesis rt balances).lifecycle.Inv L where
  roster i := by
    refine ⟨⟨?_, ?_, rfl⟩, ?_, ?_, ?_, List.nodup_nil, Nat.zero_le _⟩
    · intro id k
      constructor
      · intro h
        cases h
      · intro h
        cases h
    · intro id
      constructor
      · intro h
        cases h
      · rintro ⟨n, h, _⟩
        cases h
    · intro id n h
      cases h
    · intro id n h
      cases h
    · intro n h
      cases h
  assigned i slot := by
    constructor
    · intro h
      cases h
    · intro h
      cases h
  slot_ok i slot h := by cases h
  submitted i e d h := by cases h
  snapshot i e d slot h := by cases h

theorem NetworkOp.inv_step (rt : Runtime A) (c : Chain A) (op : NetworkOp A) (hleft : op.IdsLeft c)
    (h : c.lifecycle.Inv rt.epochLength) : (op.step rt c).lifecycle.Inv rt.epochLength := by
  exact h.change (op.step_change rt c (fun _ => hleft) False.elim fun _ => h.settleableAt)

theorem NetworkOp.inv_run (rt : Runtime A) {c : Chain A} {ops : List (NetworkOp A)}
    (hleft : Along (NetworkOp.step rt) (fun c op => op.IdsLeft c) c ops)
    (h : c.lifecycle.Inv rt.epochLength) :
    (run (NetworkOp.step rt) c ops).lifecycle.Inv rt.epochLength :=
  run_invariant (I := fun c : Chain A => c.lifecycle.Inv rt.epochLength)
    (fun c op hop hinv => op.inv_step rt c hop hinv) hleft h

/-- Along every run from genesis, the election slots of every subnet are its nodes of
the validator class, each once; `NodeSlotIndex` gives the position of each of them
and of nothing else, and their number is counted. -/
theorem election_slots_are_the_validators (rt : Runtime A) (balances : StorageMap A ℕ)
    (ops : List (NetworkOp A))
    (hleft : Along (NetworkOp.step rt) (fun c op => op.IdsLeft c) (.genesis rt balances) ops)
    (s : ℕ) :
    let c := run (NetworkOp.step rt) (.genesis rt balances) ops
    let slots := c.nodes.subnetNodeElectionSlots.getD s []
    slots.Nodup ∧
      (∀ id, id ∈ slots ↔ ∃ n, c.nodes.subnetNodesData.find? (s, id) = some n ∧
        n.classification.nodeClass = .validator) ∧
      (∀ id, id ∈ slots ↔ ∃ k, c.nodes.nodeSlotIndex.find? (s, id) = some k) ∧
      (∀ id k, c.nodes.nodeSlotIndex.find? (s, id) = some k → slots[k]? = some id) ∧
      c.nodes.totalSubnetElectableNodes.val s = slots.length := by
  intro c slots
  have hinv := NetworkOp.inv_run rt hleft (Chain.genesis_inv rt balances rt.epochLength)
  have hslotted := (hinv.roster s).slotted
  refine ⟨hslotted.index.nodup, hslotted.mem_slots, ?_, ?_, hslotted.count⟩
  · exact fun id => hslotted.index.mem_iff
  · exact fun id k => (hslotted.index id k).mp

end Runs

/-- The three registrations of a node in the run have given three slots. -/
theorem election_slots_are_the_validators_demo :
    let c := demoAfter demoNetwork
    let slots := c.nodes.subnetNodeElectionSlots.getD 128001 []
    slots = [1, 2, 3] ∧ slots.Nodup ∧
      (∀ id, id ∈ slots ↔ ∃ n, c.nodes.subnetNodesData.find? (128001, id) = some n ∧
        n.classification.nodeClass = .validator) := by
  have hleft : Along (NetworkOp.step Runtime.runtime) (fun c op => op.IdsLeft c)
      (.genesis Runtime.runtime demoBalances) demoNetwork := by
    refine ⟨trivial, ?_, ?_, ?_, ?_, trivial⟩
    · show Admission.totalSubnetUids _ < u32Max
      decide +kernel
    · show StorageMap.val _ _ < u32Max
      decide +kernel
    · show StorageMap.val _ _ < u32Max
      decide +kernel
    · show StorageMap.val _ _ < u32Max
      decide +kernel
  have h := election_slots_are_the_validators Runtime.runtime demoBalances demoNetwork hleft 128001
  exact ⟨by decide +kernel, h.1, h.2.1⟩

end Hypertensor
