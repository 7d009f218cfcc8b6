import Mathlib
import Hypertensor.Pallet.System

/-!
# Hypertensor.Pallet.Locks — the stake of a node and its place in a subnet

Whether stake can be withdrawn in full is decided by the reputation of its node: while
there is one, the minimum has to stay. `Held` is that a node has a reputation as long as
it is in a subnet, in either of the two tables, and that it is listed for its validator
just as long. The records that say who its validator is are copied, first into the queue
and from there back into the table; `Copy` is any of them.

* `held_preserved`: whatever happens keeps this.
* `stake_locks_match`: so stake is locked exactly as long as its node is in a subnet.
-/

namespace Hypertensor

open Base Relation

variable {ar : Arith} {t : Terms} {known covered room strict : Prop} {D L : ℕ}

/-! ## Copies of a record -/

namespace Membership

variable {m m' : Membership} {i j id k uids : ℕ} {node n : SubnetNode}

/-- The records of queued nodes are edited. -/
theorem member_mapRegistered {f : SubnetNode → SubnetNode}
    (hactive : m'.subnetNodesData = m.subnetNodesData)
    (hreg : m'.registeredSubnetNodesData = m.registeredSubnetNodesData.mapValues f) :
    m'.Member j k ↔ m.Member j k := by
  refine member_setRegistered hactive fun p => ?_
  rw [hreg, StorageMap.find?_mapValues, Option.isSome_map]

/-- The record of a queued node is written over. -/
theorem member_updateRegistered (hnode : m.registeredSubnetNodesData.find? (i, id) = some node)
    {node' : SubnetNode} (hactive : m'.subnetNodesData = m.subnetNodesData)
    (hreg : m'.registeredSubnetNodesData = m.registeredSubnetNodesData.set (i, id) node') :
    m'.Member j k ↔ m.Member j k := by
  refine member_setRegistered hactive fun p => ?_
  rw [hreg, StorageMap.find?_set]
  split
  · next heq => simp [heq, hnode]
  · rfl

/-- A record of a node: in one of the tables, or in the queue. -/
def Copy (m : Membership) (i id : ℕ) (n : SubnetNode) : Prop :=
  m.node? i id = some n ∨ m.registeredSubnetNodesData.find? (i, id) = some n ∨
    n ∈ m.queue i ∧ n.id = id

/-- Whoever has a record is a node. -/
theorem Roster.member_of_copy (h : m.Roster uids i) (hcopy : m.Copy i id n) : m.Member i id := by
  rcases hcopy with hactive | hreg | ⟨hqueue, rfl⟩
  · exact .of_active hactive
  · exact .of_registered hreg
  · exact h.member_of_queued hqueue

/-- Every record in `m'` is one in `m`, or has the same validator as one. -/
def CopiesOf (m m' : Membership) : Prop :=
  ∀ j k n, m'.Copy j k n → ∃ n₀, m.Copy j k n₀ ∧ n₀.validatorId = n.validatorId

theorem CopiesOf.trans {m₁ m₂ m₃ : Membership} (h₁ : CopiesOf m₁ m₂) (h₂ : CopiesOf m₂ m₃) :
    CopiesOf m₁ m₃ := by
  intro j k n hn
  obtain ⟨n₂, hn₂, heq₂⟩ := h₂ j k n hn
  obtain ⟨n₁, hn₁, heq₁⟩ := h₁ j k n₂ hn₂
  exact ⟨n₁, hn₁, heq₁.trans heq₂⟩

/-- Records are dropped, and some written over with the same validator. -/
theorem CopiesOf.of_tables
    (hactive : ∀ j k n, m'.node? j k = some n →
      ∃ n₀, m.Copy j k n₀ ∧ n₀.validatorId = n.validatorId)
    (hreg : ∀ j k n, m'.registeredSubnetNodesData.find? (j, k) = some n →
      ∃ n₀, m.Copy j k n₀ ∧ n₀.validatorId = n.validatorId)
    (hqueue : ∀ j, ∀ n ∈ m'.queue j, n ∈ m.queue j) : CopiesOf m m' := by
  rintro j k n (hn | hn | ⟨hn, hid⟩)
  · exact hactive j k n hn
  · exact hreg j k n hn
  · exact ⟨n, .inr (.inr ⟨hqueue j n hn, hid⟩), rfl⟩

theorem copy_of_active (h : m.node? i id = some n) :
    ∃ n₀, m.Copy i id n₀ ∧ n₀.validatorId = n.validatorId := ⟨n, .inl h, rfl⟩

theorem copy_of_registered (h : m.registeredSubnetNodesData.find? (i, id) = some n) :
    ∃ n₀, m.Copy i id n₀ ∧ n₀.validatorId = n.validatorId := ⟨n, .inr (.inl h), rfl⟩

/-- A record of an active node is written. -/
theorem copy_of_set {f : StorageMap (ℕ × ℕ) SubnetNode} {n₀ : SubnetNode}
    (hset : (f.set (i, id) node).find? (j, k) = some n) (hcopy : m.Copy i id n₀)
    (hsame : n₀.validatorId = node.validatorId)
    (hold : ∀ n, f.find? (j, k) = some n → ∃ n₀, m.Copy j k n₀ ∧ n₀.validatorId = n.validatorId) :
    ∃ n₀, m.Copy j k n₀ ∧ n₀.validatorId = n.validatorId := by
  rw [StorageMap.find?_set] at hset
  split at hset
  · next heq =>
      cases heq
      cases hset
      exact ⟨n₀, hcopy, hsame⟩
  · exact hold n hset

theorem mem_queue_set {q : List SubnetNode} (hq : ∀ n ∈ q, n ∈ m.queue i)
    (hn : n ∈ (m.subnetNodeQueue.set i q).getD j []) : n ∈ m.queue j := by
  unfold StorageMap.getD at hn
  rw [StorageMap.find?_set] at hn
  split at hn
  · next heq =>
      subst heq
      exact hq n hn
  · exact hn

/-- What the reward code leaves of the records. -/
theorem Step.copiesOf (h : Step strict i m m') : CopiesOf m m' := by
  -- a step writes no record that was not there, but for its class
  cases h with
  | @removeActive id node hnode =>
      refine .of_tables ?_ ?_ ?_
      · intro j k n hn
        unfold node? at hn
        rw [removeActive_subnetNodesData, StorageMap.find?_remove] at hn
        split at hn
        · cases hn
        · exact copy_of_active hn
      · intro j k n hn
        rw [removeActive_registeredSubnetNodesData] at hn
        exact copy_of_registered hn
      · intro j n hn
        unfold queue at hn
        rw [removeActive_subnetNodeQueue] at hn
        exact hn
  | @removeRegistered id node hnode =>
      refine .of_tables (fun _ _ _ => copy_of_active (m := m)) ?_ ?_
      · intro j k n hn
        have hremove : (m.registeredSubnetNodesData.remove (i, id)).find? (j, k) = some n := hn
        rw [StorageMap.find?_remove] at hremove
        split at hremove
        · cases hremove
        · exact copy_of_registered hremove
      · intro j n hn
        exact mem_queue_set (fun _ => List.mem_of_mem_filter) hn
  | reorder hperm =>
      refine .of_tables (fun _ _ _ => copy_of_active (m := m)) (fun _ _ _ => copy_of_registered (m := m)) ?_
      intro j n hn
      exact mem_queue_set (fun _ => hperm.mem_iff.mp) hn
  | graduate epoch hnode _ =>
      refine .of_tables ?_ (fun _ _ _ => copy_of_registered (m := m)) fun _ _ hn => hn
      intro j k n hn
      exact copy_of_set hn (.inl hnode) rfl fun _ => copy_of_active
  | promote epoch hnode _ _ =>
      refine .of_tables ?_ (fun _ _ _ => copy_of_registered (m := m)) fun _ _ hn => hn
      intro j k n hn
      exact copy_of_set hn (.inl hnode) rfl fun _ => copy_of_active

/-- The first node of the queue is recorded as it is there. -/
theorem activate_copiesOf {rest : List SubnetNode} (hqueue : m.queue i = node :: rest) (e : ℕ) :
    CopiesOf m (m.activate i node rest e) := by
  refine .of_tables ?_ ?_ ?_
  · intro j k n hn
    have hcopy : m.Copy i node.id node := .inr (.inr ⟨hqueue ▸ List.mem_cons_self, rfl⟩)
    exact copy_of_set hn hcopy rfl fun _ => copy_of_active
  · intro j k n hn
    have hremove : (m.registeredSubnetNodesData.remove (i, node.id)).find? (j, k) = some n := hn
    rw [StorageMap.find?_remove] at hremove
    split at hremove
    · cases hremove
    · exact copy_of_registered hremove
  · intro j n hn
    refine mem_queue_set (fun n' hn' => ?_) hn
    rw [hqueue]
    exact List.mem_cons_of_mem node hn'

theorem clear_copiesOf (m : Membership) (i : ℕ) : CopiesOf m (m.clear i) := by
  refine .of_tables ?_ ?_ ?_
  · intro j k n hn
    have hclear : (m.subnetNodesData.clearPrefix i).find? (j, k) = some n := hn
    rw [StorageMap.find?_clearPrefix] at hclear
    split at hclear
    · cases hclear
    · exact copy_of_active hclear
  · intro j k n hn
    have hclear : (m.registeredSubnetNodesData.clearPrefix i).find? (j, k) = some n := hn
    rw [StorageMap.find?_clearPrefix] at hclear
    split at hclear
    · cases hclear
    · exact copy_of_registered hclear
  · intro j n hn
    have hremove : n ∈ (m.subnetNodeQueue.remove i).getD j [] := hn
    unfold StorageMap.getD at hremove
    rw [StorageMap.find?_remove] at hremove
    split at hremove
    · cases hremove
    · exact hremove

end Membership

/-! ## Listed nodes -/

namespace Records

variable {r r' : Records} {i j id k v w uids : ℕ} {node : SubnetNode}

/-- The nodes of a subnet that are listed for a validator. -/
def nodesOf (r : Records) (v i : ℕ) : Finset ℕ := (r.validatorSubnetNodes.getD v ∅).getD i ∅

theorem nodesOf_set {f : StorageMap ℕ (Finset ℕ)}
    (h : r'.validatorSubnetNodes = r.validatorSubnetNodes.set w f) :
    r'.nodesOf v j = if v = w then f.getD j ∅ else r.nodesOf v j := by
  unfold nodesOf StorageMap.getD
  rw [h, StorageMap.find?_set]
  split <;> rfl

/-- A new node is listed for its validator. -/
theorem nodesOf_enter (x : ℕ) : (r.enter i ar node x).nodesOf v j =
    if v = node.validatorId ∧ j = i then insert node.id (r.nodesOf v j) else r.nodesOf v j := by
  rw [nodesOf_set (r := r) rfl]
  unfold nodesOf StorageMap.getD
  rw [StorageMap.find?_set]
  by_cases hv : v = node.validatorId
  · subst hv
    by_cases hj : j = i
    · subst hj
      simp
    · simp [hj]
  · simp [hv]

theorem getD_removeValidatorSubnetNode (f : StorageMap ℕ (Finset ℕ)) (i id j : ℕ) :
    (State.removeValidatorSubnetNode f i id).getD j ∅ =
      if j = i then (f.getD j ∅).erase id else f.getD j ∅ := by
  unfold State.removeValidatorSubnetNode StorageMap.getD
  cases hf : f.find? i with
  | none =>
      dsimp only
      split
      · next hj => simp [hj, hf]
      · rfl
  | some nodes =>
      dsimp only
      split
      · next hempty =>
          rw [StorageMap.find?_remove]
          split
          · next hj => simp [hj, hf, hempty]
          · rfl
      · rw [StorageMap.find?_set]
        split
        · next hj => simp [hj, hf]
        · rfl

/-- A node that leaves is no longer listed. -/
theorem nodesOf_forget : (r.forget i id node).nodesOf v j =
    if v = node.validatorId ∧ j = i then (r.nodesOf v j).erase id else r.nodesOf v j := by
  rw [nodesOf_set (r := r) rfl, getD_removeValidatorSubnetNode]
  by_cases hv : v = node.validatorId
  · subst hv
    simp only [if_true, true_and]
    rfl
  · simp [hv]

/-- The list of a validator keeps all subnets that exist. -/
theorem nodesOf_cleanValidator : (r.cleanValidator w).nodesOf v j = r.nodesOf v j ∨
    (r.cleanValidator w).nodesOf v j = ∅ ∧ r.subnetsData.find? j = none := by
  rw [nodesOf_set (r := r) rfl]
  split
  · next hv =>
      subst hv
      unfold nodesOf
      generalize r.validatorSubnetNodes.getD v ∅ = f
      unfold StorageMap.getD
      rw [StorageMap.find?_filter_key]
      cases hsubnet : r.subnetsData.find? j with
      | none =>
          right
          have hgone : r.subnetsData.contains j = false := by
            unfold StorageMap.contains
            rw [hsubnet]
            rfl
          cases f.find? j <;> simp [Option.filter, hgone]
      | some d =>
          left
          have hthere : r.subnetsData.contains j = true := by
            unfold StorageMap.contains
            rw [hsubnet]
            rfl
          cases f.find? j <;> simp [Option.filter, hthere]
  · exact .inl rfl

end Records

/-! ## Nodes and their validators -/

namespace Store

variable {s s' : Store} {i id : ℕ} {node : SubnetNode}

/-- A node has a reputation, and is listed for its validator, as long as it is in the
subnet. -/
structure Held (s : Store) : Prop where
  owner : ∀ i id n, s.Copy i id n → s.subnetNodeValidatorId.find? (i, id) = some n.validatorId
  reputed : ∀ i id, (i, id) ∈ s.reputed ↔ s.Member i id
  listed : ∀ i, s.subnetsData.find? i ≠ none → ∀ v id, id ∈ s.nodesOf v i ↔
    s.Member i id ∧ s.subnetNodeValidatorId.find? (i, id) = some v
  unborn : ∀ v i, s.totalSubnetUids < i → s.nodesOf v i = ∅

/-- Nobody enters or leaves. -/
theorem Held.of_members (h : s.Held) (hcopy : Membership.CopiesOf s.toMembership s'.toMembership)
    (hmember : ∀ i id, s'.Member i id ↔ s.Member i id) (hreputed : s'.reputed = s.reputed)
    (hvalidator : s'.subnetNodeValidatorId = s.subnetNodeValidatorId)
    (hnodes : ∀ v i, s'.nodesOf v i = s.nodesOf v i ∨
      s'.nodesOf v i = ∅ ∧ s.subnetsData.find? i = none)
    (hsubnets : ∀ i, s'.subnetsData.find? i ≠ none → s.subnetsData.find? i ≠ none)
    (huids : s'.totalSubnetUids = s.totalSubnetUids) : s'.Held where
  owner i id n hn := by
    obtain ⟨n₀, hn₀, hsame⟩ := hcopy i id n hn
    rw [hvalidator, ← hsame]
    exact h.owner i id n₀ hn₀
  reputed i id := by
    rw [hreputed, hmember]
    exact h.reputed i id
  listed i hi v id := by
    have hold := hsubnets i hi
    rw [hmember, hvalidator, ← h.listed i hold]
    rcases hnodes v i with hsame | ⟨-, hnone⟩
    · rw [hsame]
    · exact absurd hnone hold
  unborn v i hi := by
    rw [huids] at hi
    rcases hnodes v i with hsame | ⟨hempty, -⟩
    · rw [hsame]
      exact h.unborn v i hi
    · exact hempty

/-- Stake, identifiers and classes do not matter. -/
theorem Held.setRecords (h : s.Held) {r : Records}
    (hcopy : Membership.CopiesOf s.toMembership r.toMembership)
    (hmember : ∀ i id, r.Member i id ↔ s.Member i id)
    (hreputed : r.reputed = s.reputed)
    (hvalidator : r.subnetNodeValidatorId = s.subnetNodeValidatorId)
    (hnodes : r.validatorSubnetNodes = s.validatorSubnetNodes)
    (hsubnets : r.subnetsData = s.subnetsData) : (s.setRecords r).Held := by
  refine h.of_members hcopy hmember hreputed hvalidator (fun v i => .inl ?_) (fun i hi => ?_) rfl
  · show (r.validatorSubnetNodes.getD v ∅).getD i ∅ = _
    rw [hnodes]
    rfl
  · rw [← hsubnets]
    exact hi

/-- A node leaves. -/
theorem Held.leave (h : s.Held) {r : Records} (hcopied : s.Copy i id node)
    (hcopy : Membership.CopiesOf s.toMembership r.toMembership)
    (hmember : ∀ j k, r.Member j k ↔ s.Member j k ∧ ¬(j = i ∧ k = id))
    (hreputed : r.reputed = s.reputed.erase (i, id))
    (hvalidator : r.subnetNodeValidatorId = s.subnetNodeValidatorId)
    (hnodes : ∀ v j, r.nodesOf v j = (s.toRecords.forget i id node).nodesOf v j)
    (hsubnets : r.subnetsData = s.subnetsData) : (s.setRecords r).Held where
  owner j k n hn := by
    obtain ⟨n₀, hn₀, hsame⟩ := hcopy j k n hn
    show r.subnetNodeValidatorId.find? (j, k) = _
    rw [hvalidator, ← hsame]
    exact h.owner j k n₀ hn₀
  reputed j k := by
    show (j, k) ∈ r.reputed ↔ r.Member j k
    rw [hreputed, hmember, Finset.mem_erase, h.reputed, and_comm, ne_eq, Prod.mk.injEq]
  listed j hj v k := by
    have hold : s.subnetsData.find? j ≠ none := by
      rw [← hsubnets]
      exact hj
    have howner := h.owner i id node hcopied
    show k ∈ r.nodesOf v j ↔ r.Member j k ∧ r.subnetNodeValidatorId.find? (j, k) = some v
    rw [hnodes, hmember, hvalidator, Records.nodesOf_forget]
    split
    · next heq =>
        obtain ⟨rfl, rfl⟩ := heq
        rw [Finset.mem_erase, h.listed j hold]
        simp only [true_and]
        tauto
    · next hne =>
        rw [h.listed j hold]
        constructor
        · rintro ⟨hm, hv⟩
          refine ⟨⟨hm, ?_⟩, hv⟩
          -- only its own validator lists the node that leaves
          rintro ⟨rfl, rfl⟩
          rw [howner, Option.some.injEq] at hv
          exact hne ⟨hv.symm, rfl⟩
        · rintro ⟨⟨hm, -⟩, hv⟩
          exact ⟨hm, hv⟩
  unborn v j hj := by
    show r.nodesOf v j = ∅
    have hempty := h.unborn v j hj
    rw [hnodes, Records.nodesOf_forget]
    split
    · rw [hempty]
      rfl
    · exact hempty

/-- A node registers, with an id that nobody has had. -/
theorem Held.enter (h : s.Held) {d : SubnetData} {x : ℕ} {place : Records → Records}
    {counts : StorageMap ℕ (StorageMap ℕ ℕ)} (hhomed : s.lifecycle.Homed)
    (hd : s.subnetsData.find? i = some d) (hfresh : ¬s.Member i node.id)
    (hmember : ∀ j k, (place (s.toRecords.enter i ar node x)).Member j k ↔
      (j = i ∧ k = node.id) ∨ s.Member j k)
    (hcopy : ∀ j k n, (place (s.toRecords.enter i ar node x)).Copy j k n →
      (j = i ∧ k = node.id ∧ n = node) ∨ (s.Copy j k n ∧ s.Member j k))
    (hreputed : (place (s.toRecords.enter i ar node x)).reputed = insert (i, node.id) s.reputed)
    (hvalidator : (place (s.toRecords.enter i ar node x)).subnetNodeValidatorId =
      s.subnetNodeValidatorId.set (i, node.id) node.validatorId)
    (hnodes : (place (s.toRecords.enter i ar node x)).validatorSubnetNodes =
      (s.toRecords.enter i ar node x).validatorSubnetNodes)
    (hsubnets : (place (s.toRecords.enter i ar node x)).subnetsData = s.subnetsData) :
    (s.enter i ar node x place counts).Held := by
  have hlist : ∀ v j, (s.enter i ar node x place counts).nodesOf v j =
      (s.toRecords.enter i ar node x).nodesOf v j := by
    intro v j
    show ((place (s.toRecords.enter i ar node x)).validatorSubnetNodes.getD v ∅).getD j ∅ = _
    rw [hnodes]
    rfl
  constructor
  · intro j k n hn
    show (place (s.toRecords.enter i ar node x)).subnetNodeValidatorId.find? (j, k) = _
    rw [hvalidator, StorageMap.find?_set]
    rcases hcopy j k n hn with ⟨rfl, rfl, rfl⟩ | ⟨hold, hm⟩
    · exact if_pos rfl
    · have hne : (j, k) ≠ (i, node.id) := by
        rintro heq
        cases heq
        exact hfresh hm
      rw [if_neg hne]
      exact h.owner j k n hold
  · intro j k
    show (j, k) ∈ (place (s.toRecords.enter i ar node x)).reputed ↔
      (place (s.toRecords.enter i ar node x)).Member j k
    rw [hreputed, hmember, Finset.mem_insert, h.reputed, Prod.mk.injEq]
  · intro j hj v k
    have hold : s.subnetsData.find? j ≠ none := by
      rw [← hsubnets]
      exact hj
    show k ∈ (s.enter i ar node x place counts).nodesOf v j ↔
      (place (s.toRecords.enter i ar node x)).Member j k ∧
        (place (s.toRecords.enter i ar node x)).subnetNodeValidatorId.find? (j, k) = some v
    rw [hlist, hmember, hvalidator, StorageMap.find?_set, Records.nodesOf_enter]
    by_cases hnew : j = i ∧ k = node.id
    -- the new node is listed under its validator, and under nobody else
    · obtain ⟨rfl, rfl⟩ := hnew
      rw [if_pos rfl]
      by_cases hv : v = node.validatorId
      · simp [hv]
      · have hout : node.id ∉ s.nodesOf v j := by
          intro hmem
          exact hfresh ((h.listed j hold v node.id).mp hmem).1
        simp [hv, hout, Ne.symm hv]
    · have hne : (j, k) ≠ (i, node.id) := fun heq => hnew (Prod.mk.inj heq)
      rw [if_neg hne]
      simp only [hnew, false_or]
      rw [← h.listed j hold]
      split
      · next heq =>
          rw [Finset.mem_insert]
          constructor
          · rintro (rfl | hmem)
            · exact absurd ⟨heq.2, rfl⟩ hnew
            · exact hmem
          · exact .inr
      · exact Iff.rfl
  · intro v j hj
    -- the subnet of the new node is there, so it is not one of those to come
    have hle : i ≤ s.totalSubnetUids := (hhomed.issued i (hd ▸ Option.some_ne_none d)).2
    have hne : j ≠ i := by
      have hlt : s.totalSubnetUids < j := hj
      omega
    rw [hlist, Records.nodesOf_enter, if_neg (fun heq => hne heq.2)]
    exact h.unborn v j hj

/-- A subnet is registered under an id for which nobody is listed. -/
theorem Held.registerSubnet (h : s.Held) (hhomed : s.lifecycle.Homed)
    (hleft : s.totalSubnetUids < u32Max) {slot epoch : ℕ} {d : SubnetData}
    {initial : StorageMap ℕ ℕ} : (s.registerSubnet D slot epoch d initial).Held := by
  have hid : s.nextSubnetId = s.totalSubnetUids + 1 := by
    unfold nextSubnetId
    omega
  refine ⟨h.owner, h.reputed, ?_, ?_⟩
  · intro j hj v k
    have hset : (s.subnetsData.set s.nextSubnetId d).find? j ≠ none := hj
    rw [StorageMap.find?_set] at hset
    split at hset
    · next heq =>
        have hempty : s.nodesOf v j = ∅ := h.unborn v j (by omega)
        have hnobody : ¬s.Member j k := by
          intro hm
          have hle : j ≤ s.totalSubnetUids := (hhomed.issued j (hhomed.member j k hm)).2
          omega
        show k ∈ s.nodesOf v j ↔ s.Member j k ∧ _
        rw [hempty]
        exact ⟨fun hk => absurd hk (Finset.notMem_empty k), fun hk => absurd hk.1 hnobody⟩
    · exact h.listed j hset v k
  · intro v j hj
    have hlt : s.nextSubnetId < j := hj
    exact h.unborn v j (by omega)

/-- The nodes of a removed subnet lose their reputation, and stay listed. -/
theorem Held.removeSubnet (h : s.Held) (d : SubnetData) : (s.removeSubnet i d).Held := by
  have hmember : ∀ j k, (s.removeSubnet i d).Member j k ↔ s.Member j k ∧ j ≠ i :=
    fun _ _ => Membership.member_clear
  refine ⟨?_, ?_, ?_, ?_⟩
  · intro j k n hn
    obtain ⟨n₀, hn₀, hsame⟩ := Membership.clear_copiesOf s.toMembership i j k n hn
    rw [← hsame]
    exact h.owner j k n₀ hn₀
  · intro j k
    rw [hmember]
    show (j, k) ∈ s.reputed.filter (fun p => p.1 ≠ i) ↔ _
    rw [Finset.mem_filter, h.reputed]
  · intro j hj v k
    have hremove : (s.subnetsData.remove i).find? j ≠ none := hj
    rw [StorageMap.find?_remove] at hremove
    split at hremove
    · exact absurd rfl hremove
    · next hne =>
        rw [hmember]
        simp only [hne, ne_eq, not_false_eq_true, and_true]
        exact h.listed j hremove v k
  · intro v j hj
    have huids : (s.removeSubnet i d).totalSubnetUids = s.totalSubnetUids := by
      unfold Store.removeSubnet freeSlot
      cases s.subnetSlot.find? i <;> rfl
    rw [huids] at hj
    exact h.unborn v j hj

/-- A step of the reward code. -/
theorem Held.step (h : s.Held) (hsound : s.Sound L) {r : Records}
    (hstep : s.toRecords.Step ar t i r) : (s.setRecords r).Held := by
  have hcopy : Membership.CopiesOf s.toMembership r.toMembership := by
    have hmoves := hstep.membership
    generalize r.toMembership = m at hmoves ⊢
    induction hmoves with
    | refl => exact fun _ _ n hn => ⟨n, hn, rfl⟩
    | tail _ hone ih => exact ih.trans hone.copiesOf
  have hroster := hsound.inv.roster i
  cases hstep with
  | removeActive hnode =>
      exact h.leave (.inl hnode) hcopy (fun _ _ => Membership.member_removeActive hroster hnode) rfl
        rfl (fun _ _ => rfl) (Membership.removeActive_subnetsData ..)
  | removeRegistered hnode =>
      exact h.leave (.inr (.inl hnode)) hcopy
        (fun _ _ => Membership.member_removeRegistered hroster hnode) rfl rfl (fun _ _ => rfl) rfl
  | reorder _ => exact h.setRecords hcopy (fun _ _ => Iff.rfl) rfl rfl rfl rfl
  | graduate epoch hnode _ =>
      exact h.setRecords hcopy (fun _ _ => Membership.member_set hnode _) rfl rfl rfl rfl
  | promote epoch hnode _ _ =>
      exact h.setRecords hcopy (fun _ _ => Membership.member_set hnode _) rfl rfl rfl rfl
  | credit _ _ => exact h.setRecords hcopy (fun _ _ => Iff.rfl) rfl rfl rfl rfl
  | slash _ _ => exact h.setRecords hcopy (fun _ _ => Iff.rfl) rfl rfl rfl rfl

/-- What a record in the tables of a node that registers is. -/
theorem copy_of_place (hsound : s.Sound L) {m : Membership} {j k : ℕ} {n : SubnetNode}
    (hn : m.Copy j k n) (hactive : ∀ p n, m.subnetNodesData.find? p = some n →
      (p = (i, node.id) ∧ n = node) ∨ s.subnetNodesData.find? p = some n)
    (hreg : ∀ p n, m.registeredSubnetNodesData.find? p = some n →
      (p = (i, node.id) ∧ n = node) ∨ s.registeredSubnetNodesData.find? p = some n)
    (hqueue : ∀ j, ∀ n ∈ m.queue j, (j = i ∧ n = node) ∨ n ∈ s.queue j) :
    (j = i ∧ k = node.id ∧ n = node) ∨ (s.Copy j k n ∧ s.Member j k) := by
  have hmember : s.Copy j k n → s.Member j k := (hsound.inv.roster j).member_of_copy
  rcases hn with hn | hn | ⟨hn, rfl⟩
  · rcases hactive _ n hn with ⟨heq, rfl⟩ | hold
    · cases heq
      exact .inl ⟨rfl, rfl, rfl⟩
    · exact .inr ⟨.inl hold, hmember (.inl hold)⟩
  · rcases hreg _ n hn with ⟨heq, rfl⟩ | hold
    · cases heq
      exact .inl ⟨rfl, rfl, rfl⟩
    · exact .inr ⟨.inr (.inl hold), hmember (.inr (.inl hold))⟩
  · rcases hqueue j n hn with ⟨rfl, rfl⟩ | hold
    · exact .inl ⟨rfl, rfl, rfl⟩
    · exact .inr ⟨.inr (.inr ⟨hold, rfl⟩), hmember (.inr (.inr ⟨hold, rfl⟩))⟩

/-- Whatever happens, nodes have a reputation as long as they are in the subnet. -/
theorem held_preserved : Preserved ar known covered room D L Held where
  call {s s'} hsound h hcall := by
    -- a new node has an id of its own
    have hfresh : ∀ {i d node}, s.Admits True room i d node → ¬s.Member i node.id := by
      intro i d node hadmits hm
      have hle := ((hsound.inv.roster i).member_le hm).2
      have huids : s.lifecycle.totalSubnetNodeUids = s.totalSubnetNodeUids := rfl
      have hleft := hadmits.left trivial
      rw [hadmits.id, huids] at hle
      unfold nextNodeId at hle
      omega
    cases hcall with
    | other _ => exact ⟨h.owner, h.reputed, h.listed, h.unborn⟩
    | registerSubnet _ _ _ _ hleft => exact h.registerSubnet hsound.homed (hleft trivial)
    | startSubnet hd _ _ =>
        exact h.of_members (fun _ _ n hn => ⟨n, hn, rfl⟩) (fun _ _ => Iff.rfl) rfl rfl
          (fun _ _ => .inl rfl) (fun j => (Lifecycle.subnet_set (l := s.lifecycle) hd j).mp) rfl
    | setSubnet hd _ =>
        exact h.of_members (fun _ _ n hn => ⟨n, hn, rfl⟩) (fun _ _ => Iff.rfl) rfl rfl
          (fun _ _ => .inl rfl) (fun j => (Lifecycle.subnet_set (l := s.lifecycle) hd j).mp) rfl
    -- only the epochs in which queued nodes start are moved
    | @unpause i delta d d' hd _ _ =>
        have hreg : ∀ p, (s.registeredSubnetNodesData.mapValues fun n => n.delay delta).find? p =
            (s.registeredSubnetNodesData.find? p).map fun n => n.delay delta :=
          fun p => StorageMap.find?_mapValues ..
        refine h.of_members ?_ ?_ rfl rfl (fun _ _ => .inl rfl)
          (fun j => (Lifecycle.subnet_set (l := s.lifecycle) hd j).mp) rfl
        · refine .of_tables (fun _ _ _ => Membership.copy_of_active (m := s.toMembership)) ?_
            fun _ _ hn => hn
          intro j k n hn
          obtain ⟨n₀, hn₀, rfl⟩ := Option.map_eq_some_iff.mp ((hreg (j, k)).symm.trans hn)
          exact ⟨n₀, .inr (.inl hn₀), rfl⟩
        · intro j k
          exact Membership.member_mapRegistered (f := fun n => n.delay delta) rfl rfl
    | @seat i d node x count hadmits _ _ _ =>
        refine h.enter hsound.homed hadmits.subnet (hfresh hadmits)
          (fun _ _ => Membership.member_seat) ?_ rfl rfl rfl rfl
        intro j k n hn
        refine copy_of_place hsound hn ?_ ?_ fun _ _ hn => .inr hn
        · intro p n hn
          have hset : (s.subnetNodesData.set (i, node.id) node).find? p = some n := hn
          rw [StorageMap.find?_set] at hset
          split at hset
          · next heq => exact .inl ⟨heq, (Option.some.inj hset).symm⟩
          · exact .inr hset
        · intro p n hn
          have hremove : (s.registeredSubnetNodesData.remove (i, node.id)).find? p = some n := hn
          rw [StorageMap.find?_remove] at hremove
          split at hremove
          · cases hremove
          · exact .inr hremove
    | @enqueue i d node x hadmits _ _ =>
        refine h.enter hsound.homed hadmits.subnet (hfresh hadmits)
          (fun _ _ => Membership.member_enqueue) ?_ rfl rfl rfl rfl
        intro j k n hn
        refine copy_of_place hsound hn (fun _ _ hn => .inr hn) ?_ ?_
        · intro p n hn
          have hset : (s.registeredSubnetNodesData.set (i, node.id) node).find? p = some n := hn
          rw [StorageMap.find?_set] at hset
          split at hset
          · next heq => exact .inl ⟨heq, (Option.some.inj hset).symm⟩
          · exact .inr hset
        · intro j n hn
          have hset : n ∈ (s.subnetNodeQueue.set i (s.queue i ++ [node])).getD j [] := hn
          unfold StorageMap.getD at hset
          rw [StorageMap.find?_set] at hset
          split at hset
          · next heq =>
              rcases List.mem_append.mp hset with hold | hnew
              · exact .inr (heq ▸ hold)
              · exact .inl ⟨heq, List.mem_singleton.mp hnew⟩
          · exact .inr hset
    | @removeActive i id node hnode =>
        have hstep : s.toRecords.Step ar ⟨True, known, covered⟩ i _ := .removeActive hnode
        exact h.step hsound hstep
    | @removeRegistered i id node hnode =>
        have hstep : s.toRecords.Step ar ⟨True, known, covered⟩ i _ := .removeRegistered hnode
        exact h.step hsound hstep
    | @updateActive i id node u hnode _ =>
        refine h.setRecords ?_ (fun _ _ => Membership.member_set hnode _) rfl rfl rfl rfl
        refine .of_tables ?_ (fun _ _ _ => Membership.copy_of_registered (m := s.toMembership))
          fun _ _ hn => hn
        intro j k n hn
        exact Membership.copy_of_set hn (.inl hnode) (u.apply_validatorId node).symm
          fun _ => Membership.copy_of_active
    | @updateRegistered i id node u hnode _ =>
        refine h.setRecords ?_ (fun j k => ?_) rfl rfl rfl rfl
        · refine .of_tables (fun _ _ _ => Membership.copy_of_active (m := s.toMembership)) ?_
            fun _ _ hn => hn
          intro j k n hn
          exact Membership.copy_of_set hn (.inr (.inl hnode)) (u.apply_validatorId node).symm
            fun _ => Membership.copy_of_registered
        · exact Membership.member_updateRegistered hnode rfl rfl
    | removeSubnet _ => exact h.removeSubnet _
    | addStake _ _ _ =>
        exact h.setRecords (fun _ _ n hn => ⟨n, hn, rfl⟩) (fun _ _ => Iff.rfl) rfl rfl rfl rfl
    | removeStake clean _ =>
        cases clean with
        | none =>
            exact h.setRecords (fun _ _ n hn => ⟨n, hn, rfl⟩) (fun _ _ => Iff.rfl) rfl rfl rfl rfl
        | some v =>
            exact h.of_members (fun _ _ n hn => ⟨n, hn, rfl⟩) (fun _ _ => Iff.rfl) rfl rfl
              (fun _ _ => Records.nodesOf_cleanValidator) (fun _ hj => hj) rfl
    | addValidator _ => exact ⟨h.owner, h.reputed, h.listed, h.unborn⟩
    | setInitial _ _ _ => exact ⟨h.owner, h.reputed, h.listed, h.unborn⟩
  submit _ h hsubmit := by
    cases hsubmit with
    | propose _ _ _ _ => exact ⟨h.owner, h.reputed, h.listed, h.unborn⟩
    | attest _ _ => exact ⟨h.owner, h.reputed, h.listed, h.unborn⟩
  tick h := ⟨h.owner, h.reputed, h.listed, h.unborn⟩
  hook {target s s'} hsound h hstep := by
    cases hstep with
    | node _ hstep => exact h.step hsound hstep
    | @activate i node rest _ hqueue _ =>
        exact h.setRecords (Membership.activate_copiesOf hqueue _)
          (fun _ _ => Membership.member_activate (hsound.inv.roster i) hqueue) rfl rfl rfl rfl
    -- a node that is passed over leaves the queue, and its record stays
    | @skip i node rest _ hqueue _ =>
        refine h.setRecords ?_ (fun _ _ => Iff.rfl) rfl rfl rfl rfl
        refine .of_tables (fun _ _ _ => Membership.copy_of_active (m := s.toMembership))
          (fun _ _ _ => Membership.copy_of_registered (m := s.toMembership)) ?_
        intro j n hn
        refine Membership.mem_queue_set (i := i) (m := s.toMembership) (fun n' hn' => ?_) hn
        show n' ∈ s.queue i
        rw [hqueue]
        exact List.mem_cons_of_mem node hn'
    | removeSubnet _ => exact h.removeSubnet _
    | weigh _ => exact ⟨h.owner, h.reputed, h.listed, h.unborn⟩

end Store

/-! ## Withdrawals -/

namespace State

variable {A : Type} [DecidableEq A] {cfg : Config A} {s s' : State A} {coldkey : A} {i id v x : ℕ}

/-- What a withdrawal has checked, and what it leaves. -/
theorem doRemoveNodeStake_ok (h : s.doRemoveNodeStake cfg ar coldkey i id x = .ok s') :
    (s.nodes.subnetNodeReputation.contains (i, id) = false ∨
      s.minStakeBalance i ≤ s.stake.nodeSubnetStake.val (id, i) - x) ∧
    s'.stake.nodeSubnetStake.val (id, i) = s.stake.nodeSubnetStake.val (id, i) - x := by
  unfold doRemoveNodeStake at h
  simp only [bind_ok, ensure_ok, decide_eq_true_eq, Bool.or_eq_true, Bool.not_eq_true',
    exists_const] at h
  obtain ⟨owner, -, -, -, -, hmin, -, s₁, hprep, hs'⟩ := h
  refine ⟨hmin, ?_⟩
  obtain ⟨f, l, t, rfl⟩ := prepareUnbondingLedgerEntry_ledgerOnly hprep
  rw [← Except.ok.inj hs']
  split <;> exact StorageMap.val_set_self ..

/-- What a node with a reputation cannot withdraw. -/
theorem doRemoveNodeStake_min (h : s.doRemoveNodeStake cfg ar coldkey i id x = .ok s')
    (hreputed : (i, id) ∈ s.nodes.subnetNodeReputation.keys) :
    s.minStakeBalance i ≤ s'.stake.nodeSubnetStake.val (id, i) := by
  obtain ⟨hmin, hstake⟩ := doRemoveNodeStake_ok h
  have hlocked : s.nodes.subnetNodeReputation.contains (i, id) = true :=
    Option.isSome_iff_exists.mpr (StorageMap.mem_keys.mp hreputed)
  rw [hstake]
  rcases hmin with hfree | hmin
  · rw [hlocked] at hfree
    cases hfree
  · exact hmin

/-- Without a reputation all of the stake can be withdrawn, if the rate limit and the
unbonding ledger permit it. -/
theorem doRemoveNodeStake_all (hv : s.nodes.subnetNodeValidatorId.find? (i, id) = some v)
    (hcoldkey : s.validators.validatorColdkey.find? v = some coldkey)
    (hfree : (i, id) ∉ s.nodes.subnetNodeReputation.keys)
    (hpos : 0 < s.stake.nodeSubnetStake.val (id, i))
    (hrate : s.exceedsTxRateLimit (s.lastTxBlock.val coldkey) s.block = false)
    (hledger : ∃ s₁, s.prepareUnbondingLedgerEntry coldkey
      (wrapMul 32 s.params.stakeCooldownEpochs cfg.epochLength) s.block = .ok s₁) :
    ∃ s', s.doRemoveNodeStake cfg ar coldkey i id (s.stake.nodeSubnetStake.val (id, i)) = .ok s' ∧
      s'.stake.nodeSubnetStake.val (id, i) = 0 := by
  obtain ⟨s₁, hprep⟩ := hledger
  have howner : s.nodeColdkey i id = .ok (v, coldkey) := by
    unfold nodeColdkey
    rw [hv]
    show (okOr (s.validators.validatorColdkey.find? v) _ >>= _) = _
    rw [hcoldkey]
    rfl
  have hunlocked : s.nodes.subnetNodeReputation.contains (i, id) = false := by
    rw [Bool.eq_false_iff]
    intro hlocked
    exact hfree (StorageMap.mem_keys.mpr (Option.isSome_iff_exists.mp hlocked))
  have hok : ∃ s', s.doRemoveNodeStake cfg ar coldkey i id
      (s.stake.nodeSubnetStake.val (id, i)) = .ok s' := by
    unfold doRemoveNodeStake
    simp only [bind_ok, ensure_ok, decide_eq_true_eq, Bool.or_eq_true, Bool.not_eq_true',
      exists_const]
    exact ⟨_, (v, coldkey), howner, rfl, hpos, le_refl _, .inl hunlocked, hrate, s₁, hprep, rfl⟩
  obtain ⟨s', hs'⟩ := hok
  refine ⟨s', hs', ?_⟩
  rw [(doRemoveNodeStake_ok hs').2, Nat.sub_self]

end State

/-! ## Runs -/

section Runs

variable {A : Type} [DecidableEq A]

theorem ok_of_toBool {ε α : Type} {x : Except ε α} (h : x.toBool = true) : ∃ a, x = .ok a := by
  cases x with
  | error e => cases h
  | ok a => exact ⟨a, rfl⟩

/-- A node that is active or queued. -/
def Chain.IsNode (c : Chain A) (s n : ℕ) : Prop :=
  (s, n) ∈ c.nodes.subnetNodesData.keys ∨ (s, n) ∈ c.nodes.registeredSubnetNodesData.keys

omit [DecidableEq A] in
theorem Chain.isNode_iff {c : Chain A} {s n : ℕ} : c.IsNode s n ↔ c.store.Member s n := by
  unfold Chain.IsNode Membership.Member
  rw [StorageMap.mem_keys, StorageMap.mem_keys, Option.ne_none_iff_exists',
    Option.ne_none_iff_exists']
  exact Iff.rfl

omit [DecidableEq A] in
theorem Chain.genesis_held (rt : Runtime A) (balances : StorageMap A ℕ) :
    (Chain.genesis rt balances).store.Held := by
  refine ⟨?_, ?_, fun i hi => absurd rfl hi, fun _ _ _ => rfl⟩
  · rintro i id n (hn | hn | ⟨hn, -⟩) <;> cases hn
  · intro i id
    constructor
    · exact fun hmem => absurd hmem (Finset.notMem_empty _)
    · rintro (hactive | hreg)
      · exact absurd rfl hactive
      · exact absurd rfl hreg

/-- Along every run a node of a subnet that exists has a reputation exactly while it is active
or queued, and exactly then it is listed for its validator, and for nobody else; in a subnet that
does not exist nobody has a reputation. So whoever is active or queued keeps the minimum of the
stake, and the owner of a node that is neither can withdraw everything, if the rate limit and the
unbonding ledger permit it. -/
theorem stake_locks_match (rt : Runtime A) (balances : StorageMap A ℕ) (ops : List (PalletOp A))
    (hleft : Along (PalletOp.step rt) (fun c op => op.IdsLeft c) (.genesis rt balances) ops) :
    let c := run (PalletOp.step rt) (.genesis rt balances) ops
    (∀ s, s ∈ c.subnets.subnetsData.keys → ∀ n,
      ((s, n) ∈ c.nodes.subnetNodeReputation.keys ↔ c.IsNode s n) ∧
      (c.IsNode s n → ∃ v, c.nodes.subnetNodeValidatorId.find? (s, n) = some v) ∧
      ∀ v, n ∈ (c.validators.validatorSubnetNodes.getD v ∅).getD s ∅ ↔
        c.IsNode s n ∧ c.nodes.subnetNodeValidatorId.find? (s, n) = some v) ∧
    (∀ s, s ∉ c.subnets.subnetsData.keys → ∀ n, (s, n) ∉ c.nodes.subnetNodeReputation.keys) ∧
    (∀ s n coldkey x s', c.IsNode s n →
      c.toState.doRemoveNodeStake rt.toConfig u128 coldkey s n x = .ok s' →
      c.toState.minStakeBalance s ≤ s'.stake.nodeSubnetStake.val (n, s)) ∧
    ∀ s n v coldkey, ¬c.IsNode s n → c.nodes.subnetNodeValidatorId.find? (s, n) = some v →
      c.validators.validatorColdkey.find? v = some coldkey →
      0 < c.stake.nodeSubnetStake.val (n, s) →
      c.toState.exceedsTxRateLimit (c.lastTxBlock.val coldkey) c.block = false →
      (∃ s₁, c.toState.prepareUnbondingLedgerEntry coldkey
        (wrapMul 32 c.params.stakeCooldownEpochs rt.epochLength) c.block = .ok s₁) →
      ∃ s', c.toState.doRemoveNodeStake rt.toConfig u128 coldkey s n
          (c.stake.nodeSubnetStake.val (n, s)) = .ok s' ∧
        s'.stake.nodeSubnetStake.val (n, s) = 0 := by
  intro c
  have hrun : c.store.Sound rt.epochLength ∧ c.store.Held :=
    PalletOp.run_preserved Store.held_preserved hleft
      ⟨Chain.genesis_sound rt balances, Chain.genesis_held rt balances⟩
  obtain ⟨hsound, h⟩ := hrun
  -- reputations are what the staking call looks at
  have hreputed : ∀ s n, (s, n) ∈ c.nodes.subnetNodeReputation.keys ↔ c.IsNode s n := by
    intro s n
    rw [Chain.isNode_iff]
    exact h.reputed s n
  refine ⟨?_, ?_, ?_, ?_⟩
  · intro s hs n
    obtain ⟨d, hd⟩ := StorageMap.mem_keys.mp hs
    refine ⟨hreputed s n, ?_, ?_⟩
    · rintro (hactive | hreg)
      · obtain ⟨node, hnode⟩ := StorageMap.mem_keys.mp hactive
        exact ⟨_, h.owner s n node (.inl hnode)⟩
      · obtain ⟨node, hnode⟩ := StorageMap.mem_keys.mp hreg
        exact ⟨_, h.owner s n node (.inr (.inl hnode))⟩
    · intro v
      rw [Chain.isNode_iff]
      exact h.listed s (hd ▸ Option.some_ne_none d) v n
  · intro s hs n hmem
    rw [hreputed, Chain.isNode_iff] at hmem
    obtain ⟨d, hd⟩ := Option.ne_none_iff_exists'.mp (hsound.homed.member s n hmem)
    exact hs (StorageMap.mem_keys.mpr ⟨d, hd⟩)
  · intro s n coldkey x s' hnode hok
    exact State.doRemoveNodeStake_min hok ((hreputed s n).mpr hnode)
  · intro s n v coldkey hnode hv hcoldkey hpos hrate hledger
    exact State.doRemoveNodeStake_all hv hcoldkey (mt (hreputed s n).mp hnode) hpos hrate hledger

/-- The run, and its first node leaves. -/
def demoLeaves : List (PalletOp ℕ) := demoPallet ++ [.removeSubnetNode 10 128001 1]

/-- After the first node of the run has left, its stake is still there and its owner can
withdraw all of it; the second one is still in the subnet. -/
theorem stake_locks_match_demo :
    let c := demoPalletAfter demoLeaves
    c.stake.nodeSubnetStake.val (1, 128001) = 100000000000000000000 ∧
    (∃ s', c.toState.doRemoveNodeStake Runtime.runtime.toConfig u128 10 128001 1
        (c.stake.nodeSubnetStake.val (1, 128001)) = .ok s' ∧
      s'.stake.nodeSubnetStake.val (1, 128001) = 0) ∧
    (128001, 2) ∈ c.nodes.subnetNodeReputation.keys := by
  have hleft : Along (PalletOp.step Runtime.runtime) (fun c op => op.IdsLeft c)
      (.genesis Runtime.runtime demoBalances) demoLeaves := by
    decide +kernel
  have hgone : ¬(demoPalletAfter demoLeaves).IsNode 128001 1 := by
    unfold Chain.IsNode
    decide +kernel
  have hstays : (demoPalletAfter demoLeaves).IsNode 128001 2 := by
    unfold Chain.IsNode
    decide +kernel
  have h := stake_locks_match Runtime.runtime demoBalances demoLeaves hleft
  refine ⟨by decide +kernel, ?_, ((h.1 128001 (by decide +kernel) 2).1).mpr hstays⟩
  refine h.2.2.2 128001 1 1 10 hgone (by decide +kernel) (by decide +kernel) (by decide +kernel)
    (by decide +kernel) (ok_of_toBool ?_)
  decide +kernel

end Runs

end Hypertensor
