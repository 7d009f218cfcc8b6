import Mathlib
import Hypertensor.Lifecycle.Invariant

/-!
# Hypertensor.Lifecycle.Counters — the network-wide counts

`TotalNodes` and `TotalElectableNodes` are raised and lowered together with the
counts of the subnets, with saturating arithmetic. They agree with the sums of these
as long as a subnet is empty when it is removed: `clean_subnet_nodes` drops the
counts of the subnet and lowers neither total.

* `Counted`: the counts of a subnet are right, and the totals are their sums.
* `totals_are_sums`: this holds along every run in which no subnet with nodes is
  removed.
* `removed_subnet_stays_counted`: after the removal of a subnet with nodes the totals
  still count them.
-/

namespace Hypertensor

open Base Relation

/-! ## The invariant -/

/-- The nodes of each subnet are counted, and the totals are the sums. -/
structure Membership.Counted (m : Membership) : Prop where
  subnet : ∀ i, m.totalSubnetNodes.val i =
    m.subnetNodesData.prefixCount i + m.registeredSubnetNodesData.prefixCount i
  nodes : m.totalNodes = m.totalSubnetNodes.sum
  electable : m.totalElectableNodes = m.totalSubnetElectableNodes.sum
  nodes_le : m.totalNodes ≤ u32Max

namespace Membership

variable {m m' : Membership} {i id : ℕ} {node : SubnetNode} {uids : ℕ → ℕ}

/-- A subnet has at most as many election slots as active nodes. -/
theorem Roster.electable_le {u : ℕ} (h : m.Roster u i) :
    m.totalSubnetElectableNodes.val i ≤ m.subnetNodesData.prefixCount i := by
  rw [h.slotted.count]
  refine StorageMap.length_le_prefixCount h.slotted.index.nodup fun id hid => ?_
  rcases (h.slotted.mem_slots id).mp hid with ⟨n, hn, _⟩
  exact ⟨n, hn⟩

/-- An active node without a slot leaves a slot to be given. -/
theorem Roster.electable_lt {u : ℕ} (h : m.Roster u i) (hnode : m.node? i id = some node)
    (hslot : id ∉ m.slots i) :
    m.totalSubnetElectableNodes.val i < m.subnetNodesData.prefixCount i := by
  rw [h.slotted.count]
  have hnodup : (id :: m.slots i).Nodup := List.nodup_cons.mpr ⟨hslot, h.slotted.index.nodup⟩
  refine StorageMap.length_le_prefixCount hnodup fun j hj => ?_
  rcases List.mem_cons.mp hj with rfl | hj
  · exact ⟨node, hnode⟩
  · rcases (h.slotted.mem_slots j).mp hj with ⟨n, hn, _⟩
    exact ⟨n, hn⟩

/-- The reward code only lowers counts. -/
theorem Step.totalSubnetNodes_le {strict : Prop} (h : Step strict i m m') (j : ℕ) :
    m'.totalSubnetNodes.val j ≤ m.totalSubnetNodes.val j := by
  have hdown : (m.totalSubnetNodes.set i (m.totalSubnetNodes.val i - 1)).val j ≤
      m.totalSubnetNodes.val j := by
    rw [StorageMap.val_set]
    split
    · next hj => exact hj ▸ Nat.sub_le _ _
    · exact le_rfl
  cases h with
  | removeActive _ =>
      unfold Membership.removeActive dropSlot
      dsimp only
      split
      · split
        · exact hdown
        · exact hdown
      · exact hdown
  | removeRegistered _ => exact hdown
  | reorder _ => exact le_rfl
  | graduate _ _ _ => exact le_rfl
  | promote _ _ _ _ => exact le_rfl

namespace Counted

/-- The electable nodes are at most all nodes. -/
theorem electable_le (h : m.Counted) (hroster : ∀ i, m.Roster (uids i) i) :
    m.totalElectableNodes ≤ m.totalNodes := by
  rw [h.electable, h.nodes]
  refine StorageMap.sum_le_sum fun i => ?_
  rw [h.subnet]
  exact (hroster i).electable_le.trans (Nat.le_add_right _ _)

theorem electable_lt (h : m.Counted) (hroster : ∀ i, m.Roster (uids i) i)
    (hnode : m.node? i id = some node) (hslot : id ∉ m.slots i) :
    m.totalElectableNodes < m.totalNodes := by
  rw [h.electable, h.nodes]
  refine StorageMap.sum_lt_sum (fun j => ?_) (k := i) ?_
  · rw [h.subnet]
    exact (hroster j).electable_le.trans (Nat.le_add_right _ _)
  · rw [h.subnet]
    exact ((hroster i).electable_lt hnode hslot).trans_le (Nat.le_add_right _ _)

/-! ## One node at a time -/

/-- A node leaves, and is no longer counted. -/
theorem countDown (h : m.Counted) (hpos : 1 ≤ m.totalSubnetNodes.val i)
    (hcount : ∀ j, m'.subnetNodesData.prefixCount j + m'.registeredSubnetNodesData.prefixCount j +
      (if j = i then 1 else 0) =
        m.subnetNodesData.prefixCount j + m.registeredSubnetNodesData.prefixCount j)
    (htotals : m'.totalSubnetNodes = (m.countDown i).totalSubnetNodes ∧
      m'.totalNodes = (m.countDown i).totalNodes)
    (helectable : m'.totalElectableNodes = m'.totalSubnetElectableNodes.sum) : m'.Counted := by
  have hsum := StorageMap.sum_set m.totalSubnetNodes i (m.totalSubnetNodes.val i - 1)
  have hle := m.totalSubnetNodes.val_le_sum i
  have hnodes := h.nodes
  have hbound := h.nodes_le
  unfold Membership.countDown at htotals
  dsimp only at htotals
  refine ⟨fun j => ?_, ?_, helectable, ?_⟩
  · have hj := hcount j
    have hold := h.subnet j
    rw [htotals.1, StorageMap.val_set]
    split
    · next heq =>
        subst heq
        rw [if_pos rfl] at hj
        omega
    · next hne =>
        rw [if_neg hne] at hj
        omega
  · rw [htotals.1, htotals.2]
    omega
  · rw [htotals.2]
    omega

/-- A node loses its slot. -/
theorem dropSlot_electable (h : m.totalElectableNodes = m.totalSubnetElectableNodes.sum)
    (hcount : m.totalSubnetElectableNodes.val i = (m.slots i).length) :
    (m.dropSlot i id).totalElectableNodes = (m.dropSlot i id).totalSubnetElectableNodes.sum := by
  unfold dropSlot
  dsimp only
  split
  · next hlt =>
      have hsum := StorageMap.sum_set m.totalSubnetElectableNodes i
        (m.totalSubnetElectableNodes.val i - 1)
      dsimp only
      omega
  · exact h

/-- A node gets a slot. -/
theorem addSlot_electable (id : ℕ) (h : m.totalElectableNodes = m.totalSubnetElectableNodes.sum)
    (hlt : m.totalElectableNodes < u32Max) :
    (m.addSlot i id).totalElectableNodes = (m.addSlot i id).totalSubnetElectableNodes.sum := by
  have hle := m.totalSubnetElectableNodes.val_le_sum i
  have hsum := StorageMap.sum_set m.totalSubnetElectableNodes i
    (min (m.totalSubnetElectableNodes.val i + 1) u32Max)
  unfold addSlot
  dsimp only
  omega

theorem removeActive {u : ℕ} (h : m.Counted) (hroster : m.Roster u i)
    (hnode : m.node? i id = some node) : (m.removeActive i id node).Counted := by
  have hcount := StorageMap.prefixCount_remove hnode
  have hpos : 1 ≤ m.totalSubnetNodes.val i := by
    have hi := hcount i
    rw [if_pos rfl] at hi
    rw [h.subnet]
    omega
  refine h.countDown hpos (fun j => ?_) ?_ ?_
  · rw [removeActive_subnetNodesData, removeActive_registeredSubnetNodesData]
    have hj := hcount j
    omega
  · unfold Membership.removeActive Membership.dropSlot
    dsimp only
    split
    · split
      · exact ⟨rfl, rfl⟩
      · exact ⟨rfl, rfl⟩
    · exact ⟨rfl, rfl⟩
  · unfold Membership.removeActive
    dsimp only
    split
    · exact dropSlot_electable h.electable hroster.slotted.count
    · exact h.electable

theorem removeRegistered (h : m.Counted)
    (hnode : m.registeredSubnetNodesData.find? (i, id) = some node) :
    (m.removeRegistered i id).Counted := by
  have hcount := StorageMap.prefixCount_remove hnode
  have hpos : 1 ≤ m.totalSubnetNodes.val i := by
    have hi := hcount i
    rw [if_pos rfl] at hi
    rw [h.subnet]
    omega
  refine h.countDown hpos (fun j => ?_) ⟨rfl, rfl⟩ h.electable
  have hj := hcount j
  unfold Membership.removeRegistered Membership.countDown
  dsimp only
  omega

/-- Nobody enters or leaves. -/
theorem of_eq (h : m.Counted)
    (hcount : ∀ j, m'.subnetNodesData.prefixCount j + m'.registeredSubnetNodesData.prefixCount j =
      m.subnetNodesData.prefixCount j + m.registeredSubnetNodesData.prefixCount j)
    (htotals : m'.totalSubnetNodes = m.totalSubnetNodes ∧ m'.totalNodes = m.totalNodes)
    (helectable : m'.totalElectableNodes = m'.totalSubnetElectableNodes.sum) : m'.Counted := by
  refine ⟨fun j => ?_, ?_, helectable, ?_⟩
  · rw [htotals.1, hcount]
    exact h.subnet j
  · rw [htotals.1, htotals.2]
    exact h.nodes
  · rw [htotals.2]
    exact h.nodes_le

/-- What the reward code does. -/
theorem step (h : m.Counted) (hroster : ∀ i, m.Roster (uids i) i)
    (hstep : Step True i m m') : m'.Counted := by
  cases hstep with
  | removeActive hnode => exact h.removeActive (hroster i) hnode
  | removeRegistered hnode => exact h.removeRegistered hnode
  | reorder _ => exact h.of_eq (fun _ => rfl) ⟨rfl, rfl⟩ h.electable
  | graduate epoch hnode _ =>
      refine h.of_eq (fun j => ?_) ⟨rfl, rfl⟩ h.electable
      exact congrArg (· + _) (StorageMap.prefixCount_set_old hnode _ j)
  | promote epoch hnode _ hslot =>
      have hlt := (h.electable_lt hroster hnode hslot).trans_le h.nodes_le
      refine h.of_eq (fun j => ?_) ⟨rfl, rfl⟩ (addSlot_electable _ h.electable hlt)
      exact congrArg (· + _) (StorageMap.prefixCount_set_old hnode _ j)

/-- A queued node becomes active. -/
theorem activate {u : ℕ} {rest : List SubnetNode} (h : m.Counted) (hroster : m.Roster u i)
    (hqueue : m.queue i = node :: rest) (epoch : ℕ) : (m.activate i node rest epoch).Counted := by
  rcases (hroster.queued node (by simp [hqueue])).1 with ⟨r, hr⟩
  have hnone : m.subnetNodesData.find? (i, node.id) = none := by
    cases hn : m.subnetNodesData.find? (i, node.id) with
    | none => rfl
    | some n =>
        have hactive := (hroster.active node.id n hn).2.2.2
        rw [hr] at hactive
        cases hactive
  refine h.of_eq (fun j => ?_) ⟨rfl, rfl⟩ h.electable
  have hremoved := StorageMap.prefixCount_remove hr j
  have hadded := StorageMap.prefixCount_set_new
    (v := { node with classification := ⟨.idle, epoch⟩ }) hnone j
  unfold Membership.activate
  dsimp only
  omega

/-- A node enters, and is counted. -/
theorem countUp (h : m.Counted) (hlt : m.totalNodes < u32Max)
    (hcount : ∀ j, m'.subnetNodesData.prefixCount j + m'.registeredSubnetNodesData.prefixCount j =
      m.subnetNodesData.prefixCount j + m.registeredSubnetNodesData.prefixCount j +
        (if j = i then 1 else 0))
    (htotals : m'.totalSubnetNodes = (m.countUp i).totalSubnetNodes ∧
      m'.totalNodes = (m.countUp i).totalNodes)
    (helectable : m'.totalElectableNodes = m'.totalSubnetElectableNodes.sum) : m'.Counted := by
  have hnodes := h.nodes
  have hle := m.totalSubnetNodes.val_le_sum i
  unfold Membership.countUp at htotals
  dsimp only at htotals
  rw [wrapAdd_one hlt, wrapAdd_one (by omega)] at htotals
  have hsum := StorageMap.sum_set m.totalSubnetNodes i (m.totalSubnetNodes.val i + 1)
  refine ⟨fun j => ?_, ?_, helectable, ?_⟩
  · have hj := hcount j
    have hold := h.subnet j
    rw [htotals.1, StorageMap.val_set]
    split
    · next heq =>
        subst heq
        rw [if_pos rfl] at hj
        omega
    · next hne =>
        rw [if_neg hne] at hj
        omega
  · rw [htotals.1, htotals.2]
    omega
  · rw [htotals.2]
    omega

theorem seat (h : m.Counted) (hroster : ∀ i, m.Roster (uids i) i) (hlt : m.totalNodes < u32Max)
    (hfresh : uids i < node.id) : ((m.countUp i).seat i node).Counted := by
  rcases (hroster i).fresh hfresh with ⟨hnone, hunregistered⟩
  refine h.countUp hlt (fun j => ?_) ⟨rfl, rfl⟩ ?_
  · have hadded := StorageMap.prefixCount_set_new (v := node) hnone j
    have hsame := StorageMap.prefixCount_remove_none hunregistered j
    unfold Membership.seat Membership.countUp
    dsimp only
    omega
  · exact addSlot_electable node.id h.electable ((h.electable_le hroster).trans_lt hlt)

theorem enqueue (h : m.Counted) (hroster : ∀ i, m.Roster (uids i) i)
    (hlt : m.totalNodes < u32Max) (hfresh : uids i < node.id) :
    ((m.countUp i).enqueue i node).Counted := by
  rcases (hroster i).fresh hfresh with ⟨_, hunregistered⟩
  refine h.countUp hlt (fun j => ?_) ⟨rfl, rfl⟩ h.electable
  have hadded := StorageMap.prefixCount_set_new (v := node) hunregistered j
  unfold Membership.enqueue Membership.countUp
  dsimp only
  omega

/-- An empty subnet is removed. -/
theorem clear {u : ℕ} (h : m.Counted) (hroster : m.Roster u i)
    (hempty : m.totalSubnetNodes.val i = 0) : (m.clear i).Counted := by
  have hsubnet := h.subnet i
  have helectable := hroster.electable_le
  have hnodes := StorageMap.sum_remove m.totalSubnetNodes i
  have hslots := StorageMap.sum_remove m.totalSubnetElectableNodes i
  have htotal := h.nodes
  have htotal' := h.electable
  unfold Membership.clear
  refine ⟨fun j => ?_, ?_, ?_, h.nodes_le⟩
  · dsimp only
    rw [StorageMap.prefixCount_clearPrefix, StorageMap.prefixCount_clearPrefix]
    by_cases hj : j = i
    · subst hj
      simp [StorageMap.val, StorageMap.getD]
    · rw [if_neg hj, if_neg hj, StorageMap.val_remove_ne _ hj]
      exact h.subnet j
  · dsimp only
    omega
  · dsimp only
    omega

end Counted

end Membership

/-! ## Calls and blocks -/

namespace Lifecycle

variable {L : ℕ} {l l' : Lifecycle} {target : Option ℕ}

/-- Every subnet that goes from one state to the other has no nodes. -/
def EmptyRemovals (l l' : Lifecycle) : Prop :=
  ∀ i d, l.subnetsData.find? i = some d → l'.subnetsData.find? i = none →
    l.totalSubnetNodes.val i = 0

theorem counted_call (hinv : Inv L l) (h : l.toMembership.Counted) (hcall : Call True True L l l')
    (hempty : EmptyRemovals l l') : l'.toMembership.Counted := by
  cases hcall with
  | other q => exact h
  | registerSubnet _ _ _ => exact h.of_eq (fun _ => rfl) ⟨rfl, rfl⟩ h.electable
  | setSubnet _ => exact h.of_eq (fun _ => rfl) ⟨rfl, rfl⟩ h.electable
  | unpause _ =>
      refine h.of_eq (fun j => ?_) ⟨rfl, rfl⟩ h.electable
      refine congrArg (_ + ·) (StorageMap.prefixCount_congr (fun p => ?_) j)
      exact (congrArg Option.isSome (StorageMap.find?_mapValues ..)).trans Option.isSome_map
  | @seat i d node hd hid hclass hslot hleft hroom =>
      refine h.seat hinv.roster (hroom trivial) ?_
      rw [hid, nextNodeId]
      have := hleft trivial
      omega
  | @enqueue i d node hd hid hclass hleft hroom =>
      refine h.enqueue hinv.roster (hroom trivial) ?_
      rw [hid, nextNodeId]
      have := hleft trivial
      omega
  | removeActive hnode => exact h.removeActive (hinv.roster _) hnode
  | removeRegistered hnode => exact h.removeRegistered hnode
  | updateActive hnode _ _ =>
      refine h.of_eq (fun j => ?_) ⟨rfl, rfl⟩ h.electable
      exact congrArg (· + _) (StorageMap.prefixCount_set_old hnode _ j)
  | updateRegistered hnode =>
      refine h.of_eq (fun j => ?_) ⟨rfl, rfl⟩ h.electable
      exact congrArg (_ + ·) (StorageMap.prefixCount_set_old hnode _ j)
  | @removeSubnet i d hd =>
      exact h.clear (hinv.roster i) (hempty i d hd (StorageMap.find?_remove_self ..))

/-- In the hook subnets only go, and the counts of nodes only fall. -/
structure Shrinks (l l' : Lifecycle) : Prop where
  subnets : ∀ j, l.subnetsData.find? j = none → l'.subnetsData.find? j = none
  nodes : ∀ j, l'.totalSubnetNodes.val j ≤ l.totalSubnetNodes.val j

theorem Step.shrinks {strict : Prop} (hstep : Step strict L target l l') : Shrinks l l' := by
  cases hstep with
  | node _ hstep =>
      exact ⟨fun j hj => hstep.subnetsData ▸ hj, hstep.totalSubnetNodes_le⟩
  | activate _ _ _ => exact ⟨fun _ hj => hj, fun _ => le_rfl⟩
  | skip _ _ _ => exact ⟨fun _ hj => hj, fun _ => le_rfl⟩
  | @removeSubnet i d _ =>
      constructor
      · intro j hj
        show (l.subnetsData.remove i).find? j = none
        rw [StorageMap.find?_remove]
        split
        · rfl
        · exact hj
      · intro j
        show (l.totalSubnetNodes.remove i).val j ≤ _
        by_cases hj : j = i
        · simp [hj, StorageMap.val, StorageMap.getD]
        · rw [StorageMap.val_remove_ne _ hj]

theorem Runs.shrinks {strict : Prop} (hruns : Runs strict L target l l') : Shrinks l l' := by
  induction hruns with
  | refl => exact ⟨fun _ hj => hj, fun _ => le_rfl⟩
  | tail _ hstep ih =>
      exact ⟨fun j hj => hstep.shrinks.subnets j (ih.subnets j hj),
        fun j => (hstep.shrinks.nodes j).trans (ih.nodes j)⟩

/-- A step of the hook. -/
theorem counted_step (hinv : Inv L l) (h : l.toMembership.Counted)
    (hstep : Step True L target l l')
    (hempty : ∀ i d, l.subnetsData.find? i = some d → l'.subnetsData.find? i = none →
      l.totalSubnetNodes.val i = 0) : l'.toMembership.Counted := by
  cases hstep with
  | node _ hstep => exact h.step hinv.roster hstep
  | activate _ hqueue _ => exact h.activate (hinv.roster _) hqueue _
  | skip _ _ _ => exact h.of_eq (fun _ => rfl) ⟨rfl, rfl⟩ h.electable
  | @removeSubnet i d hd =>
      exact h.clear (hinv.roster i) (hempty i d hd (StorageMap.find?_remove_self ..))

/-- The hook. A subnet it removes had no nodes when the block began, and so has none
when it is removed. -/
theorem counted_runs (hinv : Inv L l) (hopen : Opening L target l) (h : l.toMembership.Counted)
    (hruns : Runs True L target l l') (hempty : EmptyRemovals l l') : l'.toMembership.Counted := by
  induction hruns with
  | refl => exact h
  | @tail l₁ l₂ hruns hstep ih =>
      have hshrink := Runs.shrinks hruns
      refine counted_step (hinv.runs hopen hruns) (ih ?_) hstep ?_
      · exact fun i d hd hgone => hempty i d hd (hstep.shrinks.subnets i hgone)
      · intro i d hd hgone
        cases hold : l.subnetsData.find? i with
        | none =>
            rw [hshrink.subnets i hold] at hd
            cases hd
        | some d₀ =>
            have hzero := hempty i d₀ hold hgone
            have hle := hshrink.nodes i
            omega

/-- Whatever happens, as long as no subnet with nodes is removed. -/
theorem counted_change (hinv : Inv L l) (h : l.toMembership.Counted)
    (hchange : Change True True L l l') (hempty : EmptyRemovals l l') : l'.toMembership.Counted := by
  cases hchange with
  | submit hsubmit =>
      cases hsubmit with
      | propose _ _ _ _ => exact h
      | attest _ _ => exact h
  | quiet hquiet =>
      cases hquiet with
      | call hcall => exact counted_call hinv h hcall hempty
      | block _ hruns =>
          rcases hinv.tick with ⟨htick, hopen⟩
          have hcounted : l.tick.toMembership.Counted :=
            h.of_eq (fun _ => rfl) ⟨rfl, rfl⟩ h.electable
          exact counted_runs htick hopen hcounted hruns hempty

end Lifecycle

/-! ## Runs -/

section Runs

variable {A : Type} [DecidableEq A]

/-- Every subnet that the label removes, by whatever path, has no nodes. -/
def NetworkOp.RemovesEmpty (rt : Runtime A) (c : Chain A) (op : NetworkOp A) : Prop :=
  ∀ s ∈ c.subnets.subnetsData.keys, s ∉ (op.step rt c).subnets.subnetsData.keys →
    c.nodes.totalSubnetNodes.val s = 0

/-- No subnet with nodes is removed, and what is registered can be counted. -/
structure NetworkOp.KeepsCounts (rt : Runtime A) (c : Chain A) (op : NetworkOp A) : Prop where
  ids : op.IdsLeft c
  room : op.RoomLeft c
  removals : op.RemovesEmpty rt c

theorem NetworkOp.counted_step (rt : Runtime A) (c : Chain A) (op : NetworkOp A)
    (hkeeps : op.KeepsCounts rt c)
    (h : c.lifecycle.Inv rt.epochLength ∧ c.toState.membership.Counted) :
    (op.step rt c).lifecycle.Inv rt.epochLength ∧ (op.step rt c).toState.membership.Counted := by
  have hchange : c.lifecycle.Change True True rt.epochLength (op.step rt c).lifecycle :=
    op.step_change rt c (fun _ => hkeeps.ids) (fun _ => hkeeps.room) fun _ => h.1.settleableAt
  refine ⟨h.1.change hchange, Lifecycle.counted_change h.1 h.2 hchange ?_⟩
  intro i d hd hgone
  refine hkeeps.removals i (StorageMap.mem_keys.mpr ⟨d, hd⟩) ?_
  rw [StorageMap.mem_keys]
  rintro ⟨d', hd'⟩
  have heq := hgone.symm.trans hd'
  cases heq

omit [DecidableEq A] in
theorem Chain.genesis_counted (rt : Runtime A) (balances : StorageMap A ℕ) :
    (Chain.genesis rt balances).toState.membership.Counted :=
  ⟨fun _ => rfl, (StorageMap.total_empty _).symm, (StorageMap.total_empty _).symm, Nat.zero_le _⟩

/-- Along every run from genesis in which no subnet with nodes is removed, the
network-wide counts are the sums of those of the subnets. -/
theorem totals_are_sums (rt : Runtime A) (balances : StorageMap A ℕ) (ops : List (NetworkOp A))
    (hkeeps : Along (NetworkOp.step rt) (fun c op => op.KeepsCounts rt c) (.genesis rt balances)
      ops) :
    let c := run (NetworkOp.step rt) (.genesis rt balances) ops
    c.nodes.totalElectableNodes = c.nodes.totalSubnetElectableNodes.sum ∧
      c.nodes.totalNodes = c.nodes.totalSubnetNodes.sum := by
  have h := run_invariant
    (I := fun c : Chain A => c.lifecycle.Inv rt.epochLength ∧ c.toState.membership.Counted)
    (fun c op hop hinv => op.counted_step rt c hop hinv) hkeeps
    ⟨Chain.genesis_inv rt balances _, Chain.genesis_counted rt balances⟩
  exact ⟨h.2.electable, h.2.nodes⟩

end Runs

/-- The nodes leave before the subnet is removed. -/
theorem totals_are_sums_demo :
    let c := demoAfter [.other demoValidators, .registerSubnet 10 1000000000000000000 demoSubnet,
      .registerSubnetNode 10 (demoRegistration 1), .collectiveRemoveSubnetNode 128001 1,
      .collectiveRemoveSubnet 128001]
    c.subnets.subnetsData.contains 128001 = false ∧
      c.nodes.totalElectableNodes = c.nodes.totalSubnetElectableNodes.sum ∧
      c.nodes.totalNodes = c.nodes.totalSubnetNodes.sum := by
  refine ⟨by decide +kernel, totals_are_sums Runtime.runtime demoBalances _ ?_⟩
  refine ⟨⟨trivial, trivial, ?_⟩, ⟨?_, trivial, ?_⟩, ⟨?_, ?_, ?_⟩, ⟨trivial, trivial, ?_⟩,
    ⟨trivial, trivial, ?_⟩, trivial⟩
  all_goals
    simp only [NetworkOp.RemovesEmpty, NetworkOp.IdsLeft, NetworkOp.RoomLeft]
    decide +kernel

/-- The council removes a subnet of three validators. -/
theorem removed_subnet_stays_counted :
    let c := demoAfter (demoNetwork ++ [.collectiveRemoveSubnet 128001])
    c.nodes.totalElectableNodes = 3 ∧ c.nodes.totalSubnetElectableNodes.sum = 0 ∧
      c.nodes.totalNodes = 3 ∧ c.nodes.totalSubnetNodes.sum = 0 := by
  decide +kernel

end Hypertensor
