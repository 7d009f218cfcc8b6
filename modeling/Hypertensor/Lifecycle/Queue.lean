import Mathlib
import Hypertensor.Lifecycle.Invariant
import Hypertensor.Consensus.Integrity

/-!
# Hypertensor.Lifecycle.Queue — what a queued node waits for

A node that registers in an active subnet is recorded twice: among the registered
nodes of the subnet and, as a copy, in its queue. Unpausing a subnet puts off the
start in the first record. The hook that activates nodes and the check of who may be
removed from the queue read the second.

* `Drains`: what a block does to one queue, and when it activates a node.
* `Waiting`: the copies of a node in the queue keep the start they came with.
* `queue_waits_out_pauses`: so a node waits for as long as it should exactly when no
  pause that lasted is ended over a queue that is not empty.
-/

namespace Hypertensor

open Base Relation

variable {A : Type}

/-! ## The hook -/

namespace Membership

variable {strict : Prop} {m m' : Membership} {i j id : ℕ}

@[simp] theorem queue_setQueue (queue : List SubnetNode) : (m.setQueue i queue).queue i = queue := by
  simp [Membership.queue, setQueue, StorageMap.getD]

/-- The removal of an active node leaves the queues. -/
theorem queue_removeActive (node : SubnetNode) : (m.removeActive i id node).queue j = m.queue j := by
  unfold Membership.queue
  rw [removeActive_subnetNodeQueue]

/-- The removal of a queued node takes it out of its queue. -/
theorem queue_removeRegistered {n : SubnetNode} (hn : n ∈ (m.removeRegistered i id).queue i) :
    n ∈ m.queue i := by
  have hqueue : (m.removeRegistered i id).queue i = (m.queue i).filter fun n => decide (n.id ≠ id) := by
    simp [Membership.queue, removeRegistered, countDown, StorageMap.getD]
  rw [hqueue] at hn
  exact (List.mem_filter.mp hn).1

/-- A record that is written over was there before. -/
theorem node?_of_set {node node' : SubnetNode} {k : ℕ} (hold : m.node? i id = some node)
    (hnode : (m.subnetNodesData.set (i, id) node').find? (i, k) ≠ none) : m.node? i k ≠ none := by
  rw [StorageMap.find?_set] at hnode
  split at hnode
  · next heq =>
      rw [(Prod.mk.inj heq).2, hold]
      exact Option.some_ne_none _
  · exact hnode

/-- The reward code adds no node, be it to the queue or to the active nodes. -/
theorem Step.queue_sub (h : Step strict i m m') {n : SubnetNode} (hn : n ∈ m'.queue j) :
    n ∈ m.queue j := by
  by_cases hj : j = i
  · subst hj
    cases h with
    | removeActive _ => exact queue_removeActive _ ▸ hn
    | removeRegistered _ => exact queue_removeRegistered hn
    | reorder hperm =>
        rw [queue_setQueue] at hn
        exact hperm.mem_iff.mp hn
    | graduate _ _ _ => exact hn
    | promote _ _ _ _ => exact hn
  · exact (Step.sameAt m hj h).queue ▸ hn

/-- No step of the reward code makes a node active. -/
theorem Step.node_sub (h : Step strict i m m') (hnode : m'.node? j id ≠ none) :
    m.node? j id ≠ none := by
  by_cases hj : j = i
  · subst hj
    cases h with
    | removeActive hold =>
        rw [removeActive_node?] at hnode
        split at hnode
        · exact absurd rfl hnode
        · exact hnode
    | removeRegistered _ => exact hnode
    | reorder _ => exact hnode
    | graduate _ hold _ => exact node?_of_set hold hnode
    | promote _ hold _ _ => exact node?_of_set hold hnode
  · exact (Step.sameAt m hj h).node id ▸ hnode

/-- Who is in a queue was there before, or is the one that is queued. -/
theorem mem_queue_enqueue {node n : SubnetNode} (hn : n ∈ (m.enqueue i node).queue j) :
    n ∈ m.queue j ∨ j = i ∧ n = node := by
  by_cases hj : j = i
  · subst hj
    have hqueue : (m.enqueue j node).queue j = m.queue j ++ [node] := by
      simp [Membership.queue, enqueue, StorageMap.getD]
    rw [hqueue, List.mem_append, List.mem_singleton] at hn
    exact hn.imp id fun hn => ⟨rfl, hn⟩
  · exact .inl ((sameAt_enqueue m hj node).queue ▸ hn)

end Membership

namespace Lifecycle

variable {strict room : Prop} {L : ℕ} {target : Option ℕ} {l l' : Lifecycle} {j id : ℕ}

/-- How long the nodes of a queue wait. -/
def queueEpochs (l : Lifecycle) (j : ℕ) : ℕ := l.subnetNodeQueueEpochs.getD j 3

/-- A queued node has waited long enough. -/
def Ready (L : ℕ) (l : Lifecycle) (j : ℕ) (n : SubnetNode) : Prop :=
  wrapAdd 32 n.classification.startEpoch (l.queueEpochs j) < l.subnetEpoch L j

/-- What a block does to the queue of a subnet. The queue loses nodes, and who becomes active was in
it and ready. The epoch and the time to wait stay as they are, unless the subnet goes, and
with it all its nodes. -/
structure Drains (L : ℕ) (j : ℕ) (l l' : Lifecycle) : Prop where
  queue : ∀ n ∈ l'.queue j, n ∈ l.queue j
  clock : (l'.queueEpochs j = l.queueEpochs j ∧ l'.subnetEpoch L j = l.subnetEpoch L j) ∨
    (l'.queue j = [] ∧ ∀ id, l'.node? j id = none)
  active : ∀ id, l'.node? j id ≠ none → l.node? j id = none → ∃ n ∈ l.queue j, n.id = id ∧ l.Ready L j n

/-- A queue is its own rest. -/
theorem Drains.refl (L j : ℕ) (l : Lifecycle) : Drains L j l l where
  queue _ hn := hn
  clock := .inl ⟨rfl, rfl⟩
  active _ hsome hnone := absurd hnone hsome

/-- A queue drains in two parts. -/
theorem Drains.trans {l₁ l₂ l₃ : Lifecycle} (h₁ : Drains L j l₁ l₂) (h₂ : Drains L j l₂ l₃) :
    Drains L j l₁ l₃ where
  queue n hn := h₁.queue n (h₂.queue n hn)
  clock := by
    rcases h₂.clock with ⟨hwait₂, hepoch₂⟩ | hgone
    · rcases h₁.clock with ⟨hwait₁, hepoch₁⟩ | ⟨hqueue, hnodes⟩
      · exact .inl ⟨hwait₂.trans hwait₁, hepoch₂.trans hepoch₁⟩
      · -- A subnet that is gone stays so.
        right
        have hempty : ∀ n, n ∉ l₂.queue j := by
          rw [hqueue]
          exact fun _ => List.not_mem_nil
        refine ⟨List.eq_nil_iff_forall_not_mem.mpr fun n hn => hempty n (h₂.queue n hn), ?_⟩
        intro id
        by_contra hsome
        rcases h₂.active id hsome (hnodes id) with ⟨n, hn, _⟩
        exact hempty n hn
    · exact .inr hgone
  active id hsome hnone := by
    by_cases hmid : l₂.node? j id = none
    · rcases h₂.active id hsome hmid with ⟨n, hn, hid, hready⟩
      rcases h₁.clock with ⟨hwait, hepoch⟩ | ⟨hqueue, _⟩
      · refine ⟨n, h₁.queue n hn, hid, ?_⟩
        unfold Ready at hready ⊢
        rw [← hwait, ← hepoch]
        exact hready
      · rw [hqueue] at hn
        cases hn
    · exact h₁.active id hmid hnone

/-- A step of the reward code drains the queue of its subnet, or reorders it. -/
theorem drains_of_step {i : ℕ} {m : Membership} (h : l.toMembership.Step strict i m) :
    Drains L j l { l with toMembership := m } where
  queue _ hn := h.queue_sub hn
  clock := by
    left
    refine ⟨rfl, ?_⟩
    unfold subnetEpoch
    dsimp only
    rw [h.block]
  active _ hsome hnone := absurd hnone (h.node_sub hsome)

/-- The removal of a subnet gives up its own slot. -/
theorem removeSubnet_subnetSlot_val {i : ℕ} (hj : j ≠ i) :
    (l.removeSubnet i).subnetSlot.val j = l.subnetSlot.val j := by
  unfold StorageMap.val StorageMap.getD
  have hslot : (l.removeSubnet i).subnetSlot.find? j = l.subnetSlot.find? j := by
    ext slot
    rw [removeSubnet_subnetSlot]
    exact and_iff_right hj
  rw [hslot]

/-- The removal of a subnet leaves the nodes of the others. -/
theorem removeSubnet_node? (l : Lifecycle) (i j id : ℕ) :
    (l.removeSubnet i).node? j id = if j = i then none else l.node? j id := by
  show (l.toMembership.clear i).node? j id = _
  simp [Membership.node?, Membership.clear, StorageMap.find?_clearPrefix]

/-- The removal of a subnet drains all of its queue. -/
theorem drains_removeSubnet (l : Lifecycle) (i : ℕ) : Drains L j l (l.removeSubnet i) := by
  have hm : (l.removeSubnet i).toMembership = l.toMembership.clear i := rfl
  by_cases hj : j = i
  · subst hj
    -- the queue of the subnet is gone, and so are its nodes
    have hqueue : (l.removeSubnet j).queue j = [] := by
      rw [hm]
      simp [Membership.queue, Membership.clear, StorageMap.getD]
    have hnodes : ∀ id, (l.removeSubnet j).node? j id = none := by
      intro id
      rw [removeSubnet_node?, if_pos rfl]
    constructor
    · intro n hn
      rw [hqueue] at hn
      cases hn
    · exact .inr ⟨hqueue, hnodes⟩
    · intro id hsome
      exact absurd (hnodes id) hsome
  · have hsame := Membership.sameAt_clear l.toMembership hj
    constructor
    · intro n hn
      exact hsame.queue ▸ hn
    · left
      constructor
      · unfold queueEpochs removeSubnet StorageMap.getD
        dsimp only
        rw [StorageMap.find?_remove_ne _ hj]
      · unfold subnetEpoch
        dsimp only
        rw [removeSubnet_subnetSlot_val hj]
        rfl
    · intro id hsome hnone
      rw [hm, hsame.node] at hsome
      exact absurd hnone hsome

/-- The first node of a queue leaves it. -/
theorem drains_setQueue {i : ℕ} {node : SubnetNode} {rest : List SubnetNode}
    (hqueue : l.queue i = node :: rest) :
    Drains L j l { l with toMembership := l.toMembership.setQueue i rest } where
  queue n hn := by
    by_cases hj : j = i
    · subst hj
      rw [Membership.queue_setQueue] at hn
      rw [hqueue]
      exact List.mem_cons_of_mem node hn
    · exact (Membership.sameAt_setQueue l.toMembership hj rest).queue ▸ hn
  clock := .inl ⟨rfl, rfl⟩
  active _ hsome hnone := absurd hnone hsome

/-- The first node of a queue becomes active. -/
theorem drains_activate {i : ℕ} {node : SubnetNode} {rest : List SubnetNode}
    (hqueue : l.queue i = node :: rest) (hready : l.Ready L i node) :
    Drains L j l { l with toMembership := l.toMembership.activate i node rest (l.subnetEpoch L i) } where
  queue n hn := (drains_setQueue (L := L) hqueue).queue n hn
  clock := .inl ⟨rfl, rfl⟩
  active id hsome hnone := by
    by_cases hj : j = i
    · subst hj
      refine ⟨node, hqueue ▸ List.mem_cons_self, ?_, hready⟩
      by_contra hid
      refine hsome ?_
      have hkey : (j, id) ≠ (j, node.id) := fun heq => hid (Prod.mk.inj heq).2.symm
      exact (StorageMap.find?_set_ne _ _ hkey).trans hnone
    · rw [(Membership.sameAt_activate l.toMembership hj node rest _).node] at hsome
      exact absurd hnone hsome

/-- A removal by the council is a step of the hook, too. -/
theorem Step.removeActive {i id : ℕ} {node : SubnetNode} (h : l.node? i id = some node) :
    Step True L (some i) l { l with toMembership := l.toMembership.removeActive i id node } :=
  .node rfl (.removeActive h)

/-- A node that the reward code takes out of the queue. -/
theorem Step.removeRegistered {i id : ℕ} {node : SubnetNode}
    (h : l.registeredSubnetNodesData.find? (i, id) = some node) :
    Step True L (some i) l { l with toMembership := l.toMembership.removeRegistered i id } :=
  .node rfl (.removeRegistered h)

/-- One step of the hook. -/
theorem Step.drains (h : Step strict L target l l') : Drains L j l l' := by
  cases h with
  | node _ hstep => exact drains_of_step hstep
  | activate _ hqueue hready => exact drains_activate hqueue hready
  | skip _ hqueue _ => exact drains_setQueue hqueue
  | removeSubnet _ => exact drains_removeSubnet l _

/-- A block drains the queues, by induction on its steps. -/
theorem Runs.drains (h : Runs strict L target l l') : Drains L j l l' := by
  induction h with
  | refl => exact .refl L j l
  | tail _ hstep ih => exact ih.trans hstep.drains

/-! ## Who enters a queue -/

/-- An id that no node of a subnet has had. -/
def Fresh (l : Lifecycle) (j id : ℕ) : Prop :=
  l.subnetsData.find? j ≠ none ∧ l.totalSubnetNodeUids.val j < id

/-- Only nodes with a fresh id enter a queue, the ids of a subnet only grow, and so do those of the
subnets. -/
structure Enters (j : ℕ) (l l' : Lifecycle) : Prop where
  queue : ∀ n ∈ l'.queue j, n ∈ l.queue j ∨ l.Fresh j n.id
  subnet : l'.subnetsData.find? j ≠ none →
    (l.subnetsData.find? j ≠ none ∧ l.totalSubnetNodeUids.val j ≤ l'.totalSubnetNodeUids.val j) ∨
      (l.totalSubnetUids < j ∧ j ≤ l'.totalSubnetUids)
  uids : l.totalSubnetUids ≤ l'.totalSubnetUids

/-- What leaves the subnets and the ids alone, and adds to no queue. -/
theorem Enters.of_sub (hqueue : ∀ n ∈ l'.queue j, n ∈ l.queue j)
    (hsubnet : l'.subnetsData.find? j ≠ none → l.subnetsData.find? j ≠ none ∧
      l'.totalSubnetNodeUids.val j = l.totalSubnetNodeUids.val j)
    (huids : l'.totalSubnetUids = l.totalSubnetUids) : Enters j l l' where
  queue n hn := .inl (hqueue n hn)
  subnet h := .inl ⟨(hsubnet h).1, (hsubnet h).2.ge⟩
  uids := huids.ge

/-- No step of a block brings a subnet, or gives out an id of a node. -/
theorem Step.subnetsData (h : Step strict L target l l') (hsubnet : l'.subnetsData.find? j ≠ none) :
    l.subnetsData.find? j ≠ none ∧ l'.totalSubnetNodeUids.val j = l.totalSubnetNodeUids.val j := by
  cases h with
  | node _ hstep =>
      rw [hstep.subnetsData] at hsubnet
      exact ⟨hsubnet, rfl⟩
  | activate => exact ⟨hsubnet, rfl⟩
  | skip => exact ⟨hsubnet, rfl⟩
  | @removeSubnet i _ _ =>
      have hne : j ≠ i := by
        rintro rfl
        exact hsubnet (StorageMap.find?_remove_self _ _)
      constructor
      · exact (StorageMap.find?_remove_ne l.subnetsData hne) ▸ hsubnet
      · exact StorageMap.val_remove_ne _ hne

/-- No step of a block gives out an id of a subnet. -/
theorem Step.totalSubnetUids (h : Step strict L target l l') :
    l'.totalSubnetUids = l.totalSubnetUids := by
  cases h with
  | removeSubnet => exact removeSubnet_totalSubnetUids _ _
  | _ => rfl

/-- What becomes active in a step was ready. -/
theorem Step.enters (h : Step strict L target l l') : Enters j l l' :=
  .of_sub (h.drains (j := j)).queue h.subnetsData h.totalSubnetUids

/-- What becomes active in a block was ready, by induction on its steps. -/
theorem Runs.enters (h : Runs strict L target l l') : Enters j l l' := by
  refine .of_sub (Runs.drains (L := L) h).queue ?_ ?_
  · induction h with
    | refl => exact fun hsubnet => ⟨hsubnet, rfl⟩
    | tail _ hstep ih =>
        intro hsubnet
        rcases hstep.subnetsData hsubnet with ⟨hmid, huids⟩
        rcases ih hmid with ⟨hfirst, huids'⟩
        exact ⟨hfirst, huids.trans huids'⟩
  · induction h with
    | refl => rfl
    | tail _ hstep ih => exact hstep.totalSubnetUids.trans ih

/-- The next id has not been given out. -/
theorem nextNodeId_fresh {d : SubnetData} (hd : l.subnetsData.find? j = some d)
    (hleft : l.totalSubnetNodeUids.val j < u32Max) : l.Fresh j (l.nextNodeId j) := by
  refine ⟨hd ▸ Option.some_ne_none d, ?_⟩
  unfold nextNodeId
  omega

/-- A node is registered. -/
theorem Enters.enter {i : ℕ} {d : SubnetData} {place : Membership → Membership}
    (hd : l.subnetsData.find? i = some d) (hleft : l.totalSubnetNodeUids.val i < u32Max)
    (hsubnets : ∀ m, (place m).subnetsData = m.subnetsData)
    (hqueue : ∀ m, ∀ n ∈ (place m).queue j, n ∈ m.queue j ∨ j = i ∧ n.id = l.nextNodeId i) :
    Enters j l (l.enter i (l.nextNodeId i) place) where
  queue n hn := by
    rcases hqueue _ n hn with hold | ⟨rfl, hid⟩
    · exact .inl hold
    · right
      rw [hid]
      exact nextNodeId_fresh hd hleft
  subnet hsubnet := by
    left
    unfold Lifecycle.enter at hsubnet ⊢
    dsimp only at hsubnet ⊢
    rw [hsubnets] at hsubnet
    refine ⟨hsubnet, ?_⟩
    by_cases hj : j = i
    · subst hj
      rw [StorageMap.val_set_self]
      unfold nextNodeId
      omega
    · rw [StorageMap.val_set_ne _ _ hj]
  uids := le_rfl

/-- A record of a subnet is written over. -/
theorem Enters.setSubnet {i : ℕ} {d d' : SubnetData} (hd : l.subnetsData.find? i = some d)
    (hqueue : ∀ n ∈ l'.queue j, n ∈ l.queue j) (hsubnets : l'.subnetsData = l.subnetsData.set i d')
    (huids : l'.totalSubnetNodeUids = l.totalSubnetNodeUids)
    (htotal : l'.totalSubnetUids = l.totalSubnetUids) : Enters j l l' := by
  refine .of_sub hqueue (fun hsubnet => ?_) htotal
  rw [huids]
  refine ⟨?_, rfl⟩
  rw [hsubnets, StorageMap.find?_set] at hsubnet
  split at hsubnet
  · next hj =>
      rw [hj, hd]
      exact Option.some_ne_none d
  · exact hsubnet

/-- A call. -/
theorem Call.enters (h : Call True room L l l') : Enters j l l' := by
  -- whoever enters a queue has a new id
  cases h with
  | other => exact .of_sub (fun _ hn => hn) (fun hsubnet => ⟨hsubnet, rfl⟩) rfl
  | registerSubnet _ _ hleft =>
      have hnext : l.nextSubnetId = l.totalSubnetUids + 1 := by
        have := hleft trivial
        unfold nextSubnetId
        omega
      constructor
      · exact fun n hn => .inl hn
      · intro hsubnet
        unfold Lifecycle.registerSubnet at hsubnet ⊢
        dsimp only at hsubnet ⊢
        rw [StorageMap.find?_set] at hsubnet
        split at hsubnet
        · exact .inr ⟨by omega, by omega⟩
        · exact .inl ⟨hsubnet, le_rfl⟩
      · show l.totalSubnetUids ≤ l.nextSubnetId
        omega
  | setSubnet hd => exact .setSubnet hd (fun _ hn => hn) rfl rfl rfl
  | unpause hd => exact .setSubnet hd (fun _ hn => hn) rfl rfl rfl
  | seat hd hid _ _ hleft _ =>
      rw [hid]
      exact .enter hd (hleft trivial) (fun _ => rfl) fun _ _ hn => .inl hn
  | enqueue hd hid _ hleft _ =>
      rw [hid]
      refine .enter hd (hleft trivial) (fun _ => rfl) fun m n hn => ?_
      rcases Membership.mem_queue_enqueue hn with hold | ⟨hj, rfl⟩
      · exact .inl hold
      · exact .inr ⟨hj, hid⟩
  | removeActive hnode => exact (Step.removeActive (L := L) hnode).enters
  | removeRegistered hnode => exact (Step.removeRegistered (L := L) hnode).enters
  | updateActive _ _ _ => exact .of_sub (fun _ hn => hn) (fun hsubnet => ⟨hsubnet, rfl⟩) rfl
  | updateRegistered _ => exact .of_sub (fun _ hn => hn) (fun hsubnet => ⟨hsubnet, rfl⟩) rfl
  | removeSubnet hd => exact (Step.removeSubnet (L := L) hd : Step True L none l _).enters

/-- A call makes only nodes with a fresh id active. -/
theorem Call.node_fresh (h : Call True room L l l') (hsome : l'.node? j id ≠ none)
    (hnone : l.node? j id = none) : l.Fresh j id := by
  cases h with
  | @seat i d node hd hid _ _ hleft _ =>
      have hkey : (j, id) = (i, node.id) := by
        by_contra hne
        exact hsome ((StorageMap.find?_set_ne _ _ hne).trans hnone)
      rcases Prod.mk.inj hkey with ⟨rfl, rfl⟩
      rw [hid]
      exact nextNodeId_fresh hd (hleft trivial)
  | removeActive hnode =>
      exact absurd hnone ((Membership.Step.removeActive hnode : Membership.Step True _ _ _).node_sub hsome)
  | @updateActive i id' node node' hnode _ _ =>
      have hne : j = i → l.node? i id ≠ none := by
        rintro rfl
        exact Membership.node?_of_set hnode hsome
      by_cases hj : j = i
      · subst hj
        exact absurd hnone (hne rfl)
      · exact absurd ((Membership.sameAt_setNode l.toMembership hj node').node id ▸ hnone) hsome
  | removeSubnet _ =>
      rw [removeSubnet_node?] at hsome
      split at hsome
      · exact absurd rfl hsome
      · exact absurd hnone hsome
  | _ => exact absurd hnone hsome

/-- Whatever happens. -/
theorem Change.enters (h : Change True room L l l') : Enters j l l' := by
  cases h with
  | quiet h =>
      cases h with
      | call h => exact h.enters
      | block _ hruns =>
          have h : Enters j l.tick l' := Runs.enters hruns
          exact ⟨h.queue, h.subnet, h.uids⟩
  | submit h =>
      cases h with
      | propose => exact .of_sub (fun _ hn => hn) (fun hsubnet => ⟨hsubnet, rfl⟩) rfl
      | attest => exact .of_sub (fun _ hn => hn) (fun hsubnet => ⟨hsubnet, rfl⟩) rfl

/-- A node becomes active at its registration, with a fresh id, or in a block, from the queue. -/
theorem Change.node_active (h : Change True room L l l') (hsome : l'.node? j id ≠ none)
    (hnone : l.node? j id = none) :
    l.Fresh j id ∨ ∃ n ∈ l.queue j, n.id = id ∧
      wrapAdd 32 n.classification.startEpoch (l.queueEpochs j) < l'.subnetEpoch L j := by
  cases h with
  | quiet h =>
      cases h with
      | call h => exact .inl (h.node_fresh hsome hnone)
      | block _ hruns =>
          have h : Drains L j l.tick l' := Runs.drains hruns
          rcases h.active id hsome hnone with ⟨n, hn, hid, hready⟩
          rcases h.clock with ⟨_, hepoch⟩ | ⟨_, hgone⟩
          · exact .inr ⟨n, hn, hid, hepoch ▸ hready⟩
          · exact absurd (hgone id) hsome
  | submit h =>
      cases h with
      | propose => exact absurd hnone hsome
      | attest => exact absurd hnone hsome

/-! ## Waiting -/

/-- Subnets that are registered or have a queue have been given their id. -/
def Known (l : Lifecycle) : Prop :=
  ∀ j, l.subnetsData.find? j ≠ none ∨ l.queue j ≠ [] → j ≤ l.totalSubnetUids

/-- Queued nodes keep ids that have been given out. -/
theorem Known.change (h : l.Known) (hchange : Change True room L l l') : l'.Known := by
  intro j hj
  have henters := hchange.enters (j := j)
  have hold : l.subnetsData.find? j ≠ none ∨ l.queue j ≠ [] → j ≤ l'.totalSubnetUids :=
    fun hj => (h j hj).trans henters.uids
  rcases hj with hsubnet | hqueue
  · rcases henters.subnet hsubnet with ⟨hsubnet, _⟩ | ⟨_, hle⟩
    · exact hold (.inl hsubnet)
    · exact hle
  · rcases List.exists_mem_of_ne_nil _ hqueue with ⟨n, hn⟩
    rcases henters.queue n hn with hn | ⟨hsubnet, _⟩
    · exact hold (.inr (List.ne_nil_of_mem hn))
    · exact hold (.inl hsubnet)

/-- Nodes of this id in the queue have this start, and there will be no new ones. -/
structure Waiting (j id start : ℕ) (l : Lifecycle) : Prop where
  start : ∀ n ∈ l.queue j, n.id = id → n.classification.startEpoch = start
  given : l.subnetsData.find? j ≠ none → id ≤ l.totalSubnetNodeUids.val j
  known : j ≤ l.totalSubnetUids

/-- The id of a node that waits has been given out. -/
theorem Waiting.not_fresh {start : ℕ} (h : Waiting j id start l) : ¬ l.Fresh j id := by
  rintro ⟨hsubnet, hlt⟩
  have := h.given hsubnet
  omega

/-- Who is in the queue has been in it all the time. -/
theorem Waiting.queue {start : ℕ} (h : Waiting j id start l) (hchange : Change True room L l l')
    {n : SubnetNode} (hn : n ∈ l'.queue j) (hid : n.id = id) : n ∈ l.queue j := by
  rcases hchange.enters.queue n hn with hn | hfresh
  · exact hn
  · exact absurd (hid ▸ hfresh) h.not_fresh

/-- A node that waits goes on waiting with the same start, or is gone for good. -/
theorem Waiting.change {start : ℕ} (h : Waiting j id start l) (hchange : Change True room L l l') :
    Waiting j id start l' where
  start n hn hid := h.start n (h.queue hchange hn hid) hid
  given hsubnet := by
    rcases hchange.enters.subnet hsubnet with ⟨hsubnet, hle⟩ | ⟨hlt, _⟩
    · exact (h.given hsubnet).trans hle
    · exact absurd h.known (by omega)
  known := h.known.trans (hchange.enters (j := j)).uids

/-- A node waits from when it is in the queue. -/
theorem Inv.waiting (h : Inv L l) (hknown : l.Known) {n : SubnetNode} (hn : n ∈ l.queue j) :
    Waiting j n.id n.classification.startEpoch l where
  start n' hn' hid := by
    have hnodup := (h.roster j).queue_nodup
    have heq : n' = n := List.inj_on_of_nodup_map hnodup hn' hn hid
    rw [heq]
  given _ := by
    rcases ((h.roster j).queued n hn).1 with ⟨r, hr⟩
    exact ((h.roster j).registered n.id r hr).2
  known := hknown j (.inr (List.ne_nil_of_mem hn))

end Lifecycle

/-! ## Who may be removed -/

/-- The pass over the queue allows a removal only if it has met a node with that id that is no longer
immune. -/
theorem checkQueue_allows {prioritize : Option ℕ} {id immunity e : ℕ} {queue : List SubnetNode}
    {exists_ allowed : Bool}
    (h : (checkQueue prioritize (some id) immunity e exists_ allowed queue).2 = true) :
    allowed = true ∨ ∃ n ∈ queue, n.id = id ∧ wrapAdd 32 n.classification.startEpoch immunity ≤ e := by
  induction queue generalizing exists_ allowed with
  | nil => exact .inl h
  | cons n queue ih =>
      unfold checkQueue at h
      dsimp only at h
      -- What is known of the removal after this node.
      generalize hnow : (if some id = some n.id
        then decide (wrapAdd 32 n.classification.startEpoch immunity ≤ e) else allowed) = now at h
      have hhead : now = true → allowed = true ∨ ∃ n' ∈ n :: queue, n'.id = id ∧
          wrapAdd 32 n'.classification.startEpoch immunity ≤ e := by
        rintro rfl
        split at hnow
        · next hid =>
            exact .inr ⟨n, List.mem_cons_self, (Option.some.inj hid).symm, of_decide_eq_true hnow⟩
        · exact .inl hnow
      split at h
      · exact hhead h
      · rcases ih h with hallowed | ⟨n', hn', hready⟩
        · exact hhead hallowed
        · exact .inr ⟨n', List.mem_cons_of_mem n hn', hready⟩

section Chain

variable [DecidableEq A] {rt : Runtime A}

namespace Chain

/-- The queue of a subnet. -/
def queue (c : Chain A) (subnetId : ℕ) : List SubnetNode := c.nodes.subnetNodeQueue.getD subnetId []

/-- `SubnetNodeQueueEpochs`. -/
def queueEpochs (c : Chain A) (subnetId : ℕ) : ℕ := c.registry.subnetNodeQueueEpochs.getD subnetId 3

/-- `QueueImmunityEpochs`. -/
def immunityEpochs (c : Chain A) (subnetId : ℕ) : ℕ := c.registry.queueImmunityEpochs.getD subnetId 3

omit [DecidableEq A] in
/-- A request to remove a node is kept only if the node is in the queue and no longer immune. -/
theorem queueRequests_remove {c : Chain A} {i e id : ℕ} {prioritize remove : Option ℕ}
    (h : (c.queueRequests i e prioritize remove).2 = some id) :
    ∃ n ∈ c.queue i, n.id = id ∧
      wrapAdd 32 n.classification.startEpoch (c.immunityEpochs i) ≤ e := by
  unfold queueRequests at h
  split at h
  · dsimp only at h
    split at h
    · next hallowed =>
        subst h
        rcases checkQueue_allows hallowed with hfalse | hnode
        · cases hfalse
        · exact hnode
    · cases h
  · next hneither =>
      dsimp only at h
      subst h
      simp at hneither

end Chain

namespace NetworkOp

variable (rt)

/-- The epochs for which a subnet was paused that is unpaused now. The pause has put its epoch in
the place of the start. -/
def pausedEpochs (s : ℕ) (c : Chain A) : NetworkOp A → ℕ
  | ownerUnpauseSubnet coldkey i =>
      if i = s then
        match c.ownerUnpauseSubnet rt coldkey i, c.subnets.subnetsData.find? i with
        | .ok _, some d => c.currentEpoch rt - d.startEpoch
        | _, _ => 0
      else 0
  | _ => 0

/-- The epochs for which a subnet was paused along a run, up to each time it is unpaused. -/
def pausedAlong (s : ℕ) : Chain A → List (NetworkOp A) → ℕ
  | _, [] => 0
  | c, op :: ops => op.pausedEpochs rt s c + pausedAlong s (op.step rt c) ops

/-- A subnet is unpaused in the epoch of its pause, or nobody is in its queue. -/
def UnpausesInTime (s : ℕ) (c : Chain A) : NetworkOp A → Prop
  | ownerUnpauseSubnet coldkey i =>
      i = s → c.isSubnetOwner coldkey i = true → c.isSubnetPaused i = true →
      c.queue s = [] ∨ ∀ d ∈ c.subnets.subnetsData.find? i, c.currentEpoch rt ≤ d.startEpoch
  | _ => True

/-- The epochs a queued node waits for are `u32`s. -/
def WaitsFit (s : ℕ) (c : Chain A) : Prop :=
  ∀ n ∈ c.queue s, n.classification.startEpoch + c.queueEpochs s ≤ u32Max ∧
    n.classification.startEpoch + c.immunityEpochs s ≤ u32Max

variable {rt}

instance decidableIdsLeft (c : Chain A) : (op : NetworkOp A) → Decidable (op.IdsLeft c)
  | registerSubnet .. => inferInstanceAs (Decidable (_ < _))
  | registerSubnetNode .. => inferInstanceAs (Decidable (_ < _))
  | activateSubnet .. | removeSubnetNode .. | collectiveRemoveSubnet .. | collectiveRemoveSubnetNode ..
  | ownerPauseSubnet .. | ownerUnpauseSubnet .. | ownerSetEmergencyValidatorSet ..
  | ownerRevertEmergencyValidatorSet .. | ownerDeactivateSubnet .. | proposeAttestation .. | attest ..
  | updateNode .. | updateSubnet .. | other .. | nextBlock => .isTrue trivial

instance decidableUnpausesInTime (s : ℕ) (c : Chain A) :
    (op : NetworkOp A) → Decidable (op.UnpausesInTime rt s c)
  | ownerUnpauseSubnet .. => inferInstanceAs (Decidable (_ → _ → _ → _ ∨ _))
  | registerSubnet .. | activateSubnet .. | registerSubnetNode .. | removeSubnetNode ..
  | collectiveRemoveSubnet .. | collectiveRemoveSubnetNode .. | ownerPauseSubnet ..
  | ownerSetEmergencyValidatorSet .. | ownerRevertEmergencyValidatorSet .. | ownerDeactivateSubnet ..
  | proposeAttestation .. | attest .. | updateNode .. | updateSubnet .. | other .. | nextBlock =>
      .isTrue trivial

instance decidableWaitsFit (s : ℕ) (c : Chain A) : Decidable (WaitsFit s c) :=
  inferInstanceAs (Decidable (∀ n ∈ c.queue s, _ ∧ _))

/-- A pause that ends in time does not touch the start of the nodes in the queue. -/
theorem pausedEpochs_eq_zero {s : ℕ} {c : Chain A} {op : NetworkOp A}
    (h : op.UnpausesInTime rt s c) (hqueue : c.queue s ≠ []) : op.pausedEpochs rt s c = 0 := by
  cases op with
  | ownerUnpauseSubnet coldkey i =>
      unfold pausedEpochs
      dsimp only
      split
      · next hi =>
          split
          · next c' d hok hd =>
              simp only [Chain.ownerUnpauseSubnet, bind_ok] at hok
              rcases hok with ⟨_, _, _, howner, _, hpaused, _⟩
              rcases h hi (ensure_ok.mp howner) (ensure_ok.mp hpaused) with hempty | hle
              · exact absurd hempty hqueue
              · have := hle d hd
                omega
          · rfl
      · rfl
  | _ => rfl

omit [DecidableEq A] in
/-- The two sums that the queue is compared by do not wrap. -/
theorem WaitsFit.wrapAdd {s : ℕ} {c : Chain A} (h : WaitsFit s c) {n : SubnetNode}
    (hn : n ∈ c.queue s) :
    wrapAdd 32 n.classification.startEpoch (c.queueEpochs s) =
        n.classification.startEpoch + c.queueEpochs s ∧
      wrapAdd 32 n.classification.startEpoch (c.immunityEpochs s) =
        n.classification.startEpoch + c.immunityEpochs s := by
  rcases h n hn with ⟨hwait, himmune⟩
  have hmax : u32Max < 2 ^ 32 := by decide
  exact ⟨Nat.mod_eq_of_lt (hwait.trans_lt hmax), Nat.mod_eq_of_lt (himmune.trans_lt hmax)⟩

/-- What a label can do to the network that the invariant holds of. -/
theorem step_change_of_inv {c : Chain A} {op : NetworkOp A} (hleft : op.IdsLeft c)
    (hinv : c.lifecycle.Inv rt.epochLength) :
    c.lifecycle.Change True False rt.epochLength (op.step rt c).lifecycle :=
  op.step_change rt c (fun _ => hleft) False.elim fun _ hblock => hinv.settleableAt hblock

/-- A node that is still in the queue has been there all the time, with the start it came with, and
no pause that lasted has ended in that time. -/
theorem run_waiting {s id start : ℕ} {c : Chain A} {ops : List (NetworkOp A)}
    (hops : Along (step rt) (fun c op => op.IdsLeft c ∧ op.UnpausesInTime rt s c) c ops)
    (hinv : c.lifecycle.Inv rt.epochLength) (hwaiting : c.lifecycle.Waiting s id start) :
    (run (step rt) c ops).lifecycle.Inv rt.epochLength ∧
      (run (step rt) c ops).lifecycle.Waiting s id start ∧
      ∀ n ∈ (run (step rt) c ops).queue s, n.id = id →
        n ∈ c.queue s ∧ pausedAlong rt s c ops = 0 := by
  induction ops generalizing c with
  | nil => exact ⟨hinv, hwaiting, fun n hn _ => ⟨hn, rfl⟩⟩
  | cons op ops ih =>
      rcases hops with ⟨⟨hleft, htime⟩, hops⟩
      have hchange := step_change_of_inv hleft hinv
      rcases ih hops (hinv.change hchange) (hwaiting.change hchange) with ⟨hinv', hwaiting', hqueue⟩
      refine ⟨hinv', hwaiting', ?_⟩
      intro n hn hid
      rcases hqueue n hn hid with ⟨hmid, hpaused⟩
      have hfirst : n ∈ c.queue s := hwaiting.queue hchange hmid hid
      refine ⟨hfirst, ?_⟩
      unfold pausedAlong
      rw [pausedEpochs_eq_zero htime (List.ne_nil_of_mem hfirst), hpaused]

/-- Queued nodes keep such ids in every run. -/
theorem known_run {c : Chain A} {ops : List (NetworkOp A)}
    (hleft : Along (step rt) (fun c op => op.IdsLeft c) c ops)
    (hinv : c.lifecycle.Inv rt.epochLength) (hknown : c.lifecycle.Known) :
    (run (step rt) c ops).lifecycle.Known :=
  (run_invariant (I := fun c : Chain A => c.lifecycle.Inv rt.epochLength ∧ c.lifecycle.Known)
    (fun _ _ hop h => ⟨h.1.change (step_change_of_inv hop h.1), h.2.change (step_change_of_inv hop h.1)⟩)
    hleft ⟨hinv, hknown⟩).2

end NetworkOp

/-! ## The wait -/

open NetworkOp in
/-- A node is in the queue of a subnet. However the run goes on, as long as no pause that lasted is
ended over a queue that is not empty, the node becomes active only when its start, the time to wait
and the epochs the subnet was paused for since have passed, and can be named for removal only
when its start, its immunity and these epochs have. -/
theorem queue_waits_out_pauses (rt : Runtime A) (balances : StorageMap A ℕ)
    (before ops : List (NetworkOp A)) (op : NetworkOp A) (s : ℕ) (n : SubnetNode)
    (hbefore : Along (step rt) (fun c op => op.IdsLeft c) (.genesis rt balances) before)
    (hops : Along (step rt)
      (fun c op => op.IdsLeft c ∧ op.UnpausesInTime rt s c ∧ WaitsFit s c)
      (run (step rt) (.genesis rt balances) before) (ops ++ [op]))
    (hn : n ∈ (run (step rt) (.genesis rt balances) before).queue s) :
    let c₀ := run (step rt) (.genesis rt balances) before
    let c := run (step rt) c₀ ops
    let start := n.classification.startEpoch
    (c.nodes.subnetNodesData.find? (s, n.id) = none →
      (op.step rt c).nodes.subnetNodesData.find? (s, n.id) ≠ none →
      start + c.queueEpochs s + pausedAlong rt s c₀ ops <
        (op.step rt c).currentSubnetEpoch rt s) ∧
    (∀ e d, op.Stores rt c s e d → d.removeQueueNodeId = some n.id →
      start + c.immunityEpochs s + pausedAlong rt s c₀ ops ≤ e) := by
  intro c₀ c start
  have hinv₀ : c₀.lifecycle.Inv rt.epochLength :=
    NetworkOp.inv_run rt hbefore (Chain.genesis_inv rt balances rt.epochLength)
  have hknown₀ : c₀.lifecycle.Known := by
    refine known_run hbefore (Chain.genesis_inv rt balances rt.epochLength) ?_
    rintro j (hsubnet | hqueue)
    · exact absurd rfl hsubnet
    · exact absurd rfl hqueue
  rw [along_append] at hops
  rcases hops with ⟨hops, ⟨hleft, _, hfit⟩, _⟩
  have hops' : Along (step rt) (fun c op => op.IdsLeft c ∧ op.UnpausesInTime rt s c) c₀ ops :=
    hops.imp fun _ _ h => ⟨h.1, h.2.1⟩
  -- along the run the node keeps its start, and the epochs of a pause do not count for the subnet
  rcases run_waiting hops' hinv₀ (hinv₀.waiting hknown₀ hn) with ⟨hinv, hwaiting, hqueue⟩
  constructor
  · intro hnone hsome
    rcases (step_change_of_inv hleft hinv).node_active hsome hnone with hfresh | ⟨n', hn', hid, hready⟩
    · exact absurd hfresh hwaiting.not_fresh
    · have hstart : n'.classification.startEpoch = start := hwaiting.start n' hn' hid
      have hready' : wrapAdd 32 n'.classification.startEpoch (c.queueEpochs s) <
          (op.step rt c).currentSubnetEpoch rt s := hready
      rw [(hfit.wrapAdd hn').1, hstart] at hready'
      rw [(hqueue n' hn' hid).2]
      exact hready'
  · intro e d hstores hremove
    rcases hstores.proposal with ⟨_, _, _, _, prioritize, remove, _, _, epoch, _, _, _, _, rfl, rfl⟩
    have hrequest : (c.queueRequests s epoch.subnetEpoch prioritize remove).2 = some n.id := hremove
    rcases Chain.queueRequests_remove hrequest with ⟨n', hn', hid, hallowed⟩
    have hstart : n'.classification.startEpoch = start := hwaiting.start n' hn' hid
    rw [(hfit.wrapAdd hn').2, hstart] at hallowed
    rw [(hqueue n' hn' hid).2]
    exact hallowed

end Chain

/-- A fourth node is registered once the subnet is active, and is queued. -/
def demoJoined : List (NetworkOp ℕ) :=
  demoElection ++ [.registerSubnetNode 40 (demoRegistration 4)]

/-- A pause that is ended at once, and five epochs. -/
def demoWait : List (NetworkOp ℕ) :=
  [.ownerPauseSubnet 10 128001, .ownerUnpauseSubnet 10 128001] ++ List.replicate 99 .nextBlock

/-- The node becomes active in the first epoch in which it may. -/
theorem queue_waits_out_pauses_demo :
    let c₀ := demoAfter demoJoined
    let c := run (NetworkOp.step Runtime.runtime) c₀ demoWait
    let c' := NetworkOp.step Runtime.runtime c .nextBlock
    ∃ n ∈ c₀.queue 128001, n.id = 4 ∧ c.nodes.subnetNodesData.find? (128001, n.id) = none ∧
      c'.nodes.subnetNodesData.find? (128001, n.id) ≠ none ∧
      n.classification.startEpoch + c.queueEpochs 128001 +
          NetworkOp.pausedAlong Runtime.runtime 128001 c₀ demoWait <
        c'.currentSubnetEpoch Runtime.runtime 128001 := by
  have hbefore : Along (NetworkOp.step Runtime.runtime) (fun c op => op.IdsLeft c)
      (.genesis Runtime.runtime demoBalances) demoJoined := by decide +kernel
  have hops : Along (NetworkOp.step Runtime.runtime)
      (fun c op => op.IdsLeft c ∧ op.UnpausesInTime Runtime.runtime 128001 c ∧
        NetworkOp.WaitsFit 128001 c)
      (run (NetworkOp.step Runtime.runtime) (.genesis Runtime.runtime demoBalances) demoJoined)
      (demoWait ++ [.nextBlock]) := by decide +kernel
  have h := fun n => queue_waits_out_pauses Runtime.runtime demoBalances demoJoined demoWait
    .nextBlock 128001
    n hbefore hops
  have hids : ((demoAfter demoJoined).queue 128001).map SubnetNode.id = [4] := by decide +kernel
  have hnone : (run (NetworkOp.step Runtime.runtime) (demoAfter demoJoined)
      demoWait).nodes.subnetNodesData.find? (128001, 4) = none := by decide +kernel
  have hsome : ((NetworkOp.step Runtime.runtime (run (NetworkOp.step Runtime.runtime)
      (demoAfter demoJoined) demoWait) .nextBlock).nodes.subnetNodesData.find?
        (128001, 4)).isSome = true := by
    decide +kernel
  rw [show run (NetworkOp.step Runtime.runtime) (.genesis Runtime.runtime demoBalances) demoJoined =
    demoAfter demoJoined from rfl] at h
  generalize demoAfter demoJoined = c₀ at h hids hnone hsome ⊢
  have hmem : 4 ∈ (c₀.queue 128001).map SubnetNode.id := hids ▸ List.mem_cons_self
  rcases List.mem_map.mp hmem with ⟨n, hn, hid⟩
  rw [← hid] at hnone hsome
  have hne := Option.isSome_iff_ne_none.mp hsome
  exact ⟨n, hn, hid, hnone, hne, (h n hn).1 hnone hne⟩

/-- A pause of two epochs, from epoch `1` to epoch `3`. The node starts in epoch `2` and waits for three
epochs; it becomes active in epoch `6` and not after epoch `7`. -/
theorem paused_epochs_count :
    let c₀ := demoAfter demoJoined
    let ops := .ownerPauseSubnet 10 128001 :: List.replicate 40 .nextBlock ++
      .ownerUnpauseSubnet 10 128001 :: List.replicate 59 .nextBlock
    let c := run (NetworkOp.step Runtime.runtime) c₀ ops
    let c' := NetworkOp.step Runtime.runtime c .nextBlock
    (c₀.queue 128001).map (fun n => (n.id, n.classification.startEpoch)) = [(4, 2)] ∧
      c.queueEpochs 128001 = 3 ∧ NetworkOp.pausedAlong Runtime.runtime 128001 c₀ ops = 2 ∧
      c.nodes.subnetNodesData.contains (128001, 4) = false ∧
      c'.nodes.subnetNodesData.contains (128001, 4) = true ∧
      c'.currentSubnetEpoch Runtime.runtime 128001 = 6 := by
  decide +kernel

end Hypertensor
