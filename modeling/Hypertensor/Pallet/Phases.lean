import Mathlib
import Hypertensor.Pallet.System

/-!
# Hypertensor.Pallet.Phases — the life of a subnet

A subnet is registered, becomes active, may be paused and resumed, and is removed at some
point. While it is registered it only takes validators, who need not wait: nobody is
queued, and all of its nodes can be elected. `Phased` is what the store says about the
phase of each subnet.

* `Store.Change.turn`: what a label does to the phase of a subnet.
* `phased_preserved`: the store always says the phase.
* `subnets_live_once`: the life of a subnet along every run.
-/

namespace Hypertensor

open Base Relation

/-! ## Phases -/

/-- How the phase of a subnet can change; `none` is that it does not exist. -/
inductive SubnetState.Turn : Option SubnetState → Option SubnetState → Prop
  | stay (p : Option SubnetState) : Turn p p
  | register : Turn none (some .registered)
  | activate : Turn (some .registered) (some .active)
  | pause : Turn (some .active) (some .paused)
  | unpause : Turn (some .paused) (some .active)
  | remove (p : SubnetState) : Turn (some p) none

open SubnetState (Turn)

variable {ar : Arith} {t : Terms} {known covered room : Prop} {D L : ℕ} {target : Option ℕ}

namespace Records

variable {r r' : Records} {i j id : ℕ} {node : SubnetNode}

/-- The phase of a subnet. -/
def phase (r : Records) (i : ℕ) : Option SubnetState := (r.subnetsData.find? i).map SubnetData.state

/-- The phase is the state that is stored. -/
theorem phase_of_find {d : SubnetData} (hd : r.subnetsData.find? i = some d) :
    r.phase i = some d.state := by
  unfold phase
  rw [hd]
  rfl

/-- A subnet without an entry has no phase. -/
theorem phase_eq_none : r.phase i = none ↔ r.subnetsData.find? i = none := Option.map_eq_none_iff

/-- A subnet that is not yet active: all of its nodes are validators. -/
structure Forming (r : Records) (i : ℕ) : Prop where
  registered : ∀ id, r.registeredSubnetNodesData.find? (i, id) = none
  validators : ∀ id node, r.node? i id = some node → node.classification.nodeClass = .validator
  electable : r.totalActiveSubnetNodes.val i = r.totalSubnetElectableNodes.val i

/-- A subnet goes on forming while its nodes and its count are left alone. -/
theorem Forming.sameAt (h : r.Forming i) (hsame : Membership.SameAt i r.toMembership r'.toMembership)
    (hcount : r'.totalActiveSubnetNodes.val i = r.totalActiveSubnetNodes.val i) : r'.Forming i where
  registered id := (hsame.registered id).trans (h.registered id)
  validators id node hnode := h.validators id node ((hsame.node id).symm.trans hnode)
  electable := by
    rw [hcount, hsame.electable]
    exact h.electable

/-- A validator registers. -/
theorem Forming.seat {uids : ℕ} (h : r.Forming i) (hroster : r.toMembership.Roster uids i)
    (hid : node.id = uids + 1) (huids : uids < u32Max) (hslot : node.id ∉ r.slots i)
    (hclass : node.classification.nodeClass = .validator) (x : ℕ) :
    ((r.enter i ar node x).seat i node).Forming i where
  registered k := by
    show (r.registeredSubnetNodesData.remove (i, node.id)).find? (i, k) = none
    rw [StorageMap.find?_remove, h.registered k, ite_self]
  validators k n hn := by
    have hset : (r.subnetNodesData.set (i, node.id) node).find? (i, k) = some n := hn
    rw [StorageMap.find?_set] at hset
    split at hset
    · cases hset
      exact hclass
    · exact h.validators k n hset
  electable := by
    have hlt : r.totalSubnetElectableNodes.val i < u32Max := by
      rw [hroster.slotted.count]
      exact hroster.slots_lt hslot (by omega) (by omega)
    show (r.totalActiveSubnetNodes.set i (wrapAdd 32 (r.totalActiveSubnetNodes.val i) 1)).val i =
      (r.totalSubnetElectableNodes.set i (min (r.totalSubnetElectableNodes.val i + 1) u32Max)).val i
    rw [StorageMap.val_set_self, StorageMap.val_set_self, h.electable, wrapAdd_one hlt]
    omega

/-- A validator leaves, and gives back its slot. -/
theorem Forming.removeActive {uids : ℕ} (h : r.Forming i) (hroster : r.toMembership.Roster uids i)
    (hnode : r.node? i id = some node) : (r.removeActive i id node).Forming i where
  registered k := by
    show (Membership.removeActive ..).registeredSubnetNodesData.find? (i, k) = none
    rw [Membership.removeActive_registeredSubnetNodesData]
    exact h.registered k
  validators k n hn := by
    have hremove : (Membership.removeActive ..).subnetNodesData.find? (i, k) = some n := hn
    rw [Membership.removeActive_subnetNodesData, StorageMap.find?_remove] at hremove
    split at hremove
    · cases hremove
    · exact h.validators k n hremove
  electable := by
    have hclass := h.validators id node hnode
    have hslot : id ∈ r.slots i := (hroster.slotted.mem_slots id).mpr ⟨node, hnode, hclass⟩
    have hpos : (r.slots i).idxOf id < (r.slots i).length := List.idxOf_lt_length_iff.mpr hslot
    have hdrop : (r.toMembership.removeActive i id node).totalSubnetElectableNodes =
        r.totalSubnetElectableNodes.set i (r.totalSubnetElectableNodes.val i - 1) := by
      unfold Membership.removeActive Membership.dropSlot
      rw [if_pos hclass]
      exact congrArg Membership.totalSubnetElectableNodes (if_pos hpos)
    show (r.totalActiveSubnetNodes.set i (r.totalActiveSubnetNodes.val i - 1)).val i =
      (Membership.removeActive ..).totalSubnetElectableNodes.val i
    rw [hdrop, StorageMap.val_set_self, StorageMap.val_set_self, h.electable]

/-- A step of the reward code in a subnet that is not yet active: nobody is promoted, for
all are validators. -/
theorem Forming.step {uids : ℕ} (h : r.Forming i) (hroster : r.toMembership.Roster uids i)
    (hstep : Step ar ⟨True, known, covered⟩ i r r') : r'.Forming i := by
  cases hstep with
  | removeActive hnode => exact h.removeActive hroster hnode
  | removeRegistered hnode =>
      rw [h.registered] at hnode
      cases hnode
  | reorder _ => exact ⟨h.registered, h.validators, h.electable⟩
  | graduate _ hnode hclass =>
      have hidle := hclass trivial
      rw [h.validators _ _ hnode] at hidle
      cases hidle
  | promote _ hnode hclass _ =>
      have hincluded := hclass trivial
      rw [h.validators _ _ hnode] at hincluded
      cases hincluded
  | credit _ _ => exact ⟨h.registered, h.validators, h.electable⟩
  | slash _ _ => exact ⟨h.registered, h.validators, h.electable⟩

/-- The reward code leaves the nodes of other subnets alone. -/
theorem Step.sameAt (h : Step ar t i r r') (hj : j ≠ i) :
    Membership.SameAt j r.toMembership r'.toMembership := by
  have hmoves := h.membership
  generalize r'.toMembership = m at hmoves ⊢
  induction hmoves with
  | refl => exact .refl j _
  | tail _ hstep ih => exact ih.trans (hstep.sameAt _ hj)

/-- The reward code counts the active nodes of its own subnet only. -/
theorem Step.activeCount (h : Step ar t i r r') (hj : j ≠ i) :
    r'.totalActiveSubnetNodes.val j = r.totalActiveSubnetNodes.val j := by
  cases h with
  | removeActive _ => exact StorageMap.val_set_ne _ _ hj
  | _ => rfl

end Records

/-! ## The store says the phase -/

namespace Store

variable {s s' : Store} {i j : ℕ}

/-- What the store says about the phase of each subnet. -/
structure Phased (s : Store) : Prop where
  epoch : ∀ i, i ∈ s.subnetRegistrationEpoch.keys ↔ s.phase i = some .registered
  initial : ∀ i, s.phase i ≠ none → s.phase i ≠ some .registered →
    s.nodeRegistrationInitialValidatorIds.find? i = none ∧ s.initialValidatorData.find? i = none
  absent : ∀ i, s.phase i = none → s.totalActiveSubnetNodes.val i = 0
  forming : ∀ i, s.phase i = some .registered → s.Forming i

/-- The same subnets exist, the same are registered, and what is known by subnet stays. -/
theorem Phased.of_phase (h : s.Phased) (hnone : ∀ j, s'.phase j = none ↔ s.phase j = none)
    (hreg : ∀ j, s'.phase j = some .registered ↔ s.phase j = some .registered)
    (hepoch : s'.subnetRegistrationEpoch = s.subnetRegistrationEpoch)
    (hids : s'.nodeRegistrationInitialValidatorIds = s.nodeRegistrationInitialValidatorIds)
    (hdata : s'.initialValidatorData = s.initialValidatorData)
    (habsent : ∀ j, s.phase j = none →
      s'.totalActiveSubnetNodes.val j = s.totalActiveSubnetNodes.val j)
    (hforming : ∀ j, s.phase j = some .registered → s.Forming j → s'.Forming j) : s'.Phased where
  epoch j := by
    rw [hepoch, hreg]
    exact h.epoch j
  initial j hsome hstarted := by
    rw [hids, hdata]
    exact h.initial j (mt (hnone j).mpr hsome) (mt (hreg j).mpr hstarted)
  absent j hj := by
    rw [hnone] at hj
    exact (habsent j hj).trans (h.absent j hj)
  forming j hj := by
    rw [hreg] at hj
    exact hforming j hj (h.forming j hj)

/-- A write of the records keeps the phases if it keeps the subnets that form. -/
theorem Phased.setRecords (h : s.Phased) {r : Records} (hsubnets : r.subnetsData = s.subnetsData)
    (habsent : ∀ j, s.phase j = none →
      r.totalActiveSubnetNodes.val j = s.totalActiveSubnetNodes.val j)
    (hforming : ∀ j, s.phase j = some .registered → s.Forming j → r.Forming j) :
    (s.setRecords r).Phased := by
  have hphase : ∀ j, (s.setRecords r).phase j = s.phase j := by
    intro j
    show (r.subnetsData.find? j).map _ = _
    rw [hsubnets]
    rfl
  exact h.of_phase (fun j => by rw [hphase]) (fun j => by rw [hphase]) rfl rfl rfl habsent hforming

/-- Something else about the nodes changes. -/
theorem Phased.keep (h : s.Phased) {r : Records} (hmembership : r.toMembership = s.toMembership)
    (hactive : r.totalActiveSubnetNodes = s.totalActiveSubnetNodes) : (s.setRecords r).Phased := by
  refine h.setRecords (by rw [hmembership]) (fun _ _ => by rw [hactive]) ?_
  intro j _ hj
  exact hj.sameAt (hmembership ▸ .refl j _) (by rw [hactive])

/-! ### What happens to it -/

/-- One entry sets one phase. -/
theorem phase_setSubnet (s : Store) (i j : ℕ) (d : SubnetData) :
    (s.setSubnet i d).phase j = if j = i then some d.state else s.phase j := by
  show ((s.subnetsData.set i d).find? j).map SubnetData.state = _
  rw [StorageMap.find?_set]
  split <;> rfl

/-- A removal takes one phase away. -/
theorem phase_removeSubnet (s : Store) (i j : ℕ) (d : SubnetData) :
    (s.removeSubnet i d).phase j = if j = i then none else s.phase j := by
  show ((s.subnetsData.remove i).find? j).map SubnetData.state = _
  rw [StorageMap.find?_remove]
  split <;> rfl

/-- Nothing is stored about a subnet that does not exist. -/
theorem phase_eq_none_of_lt (hhomed : s.lifecycle.Homed) (hlt : s.totalSubnetUids < i) :
    s.phase i = none := by
  rw [Records.phase_eq_none]
  by_contra hsome
  have hle : i ≤ s.totalSubnetUids := (hhomed.issued i hsome).2
  omega

/-- A subnet that does not exist has no nodes, so it starts without any. -/
theorem Phased.forming_of_absent (h : s.Phased) {L : ℕ} (hsound : s.Sound L)
    (hi : s.phase i = none) : s.Forming i := by
  have hnobody : ∀ id, ¬s.Member i id := by
    intro id hmember
    exact hsound.homed.member i id hmember (Records.phase_eq_none.mp hi)
  have hroster := hsound.inv.roster i
  refine ⟨?_, ?_, ?_⟩
  · intro id
    by_contra hsome
    exact hnobody id (.inr hsome)
  · intro id node hnode
    exact absurd (.of_active hnode) (hnobody id)
  · -- whoever has a slot is a node
    have hslots : s.slots i = [] := by
      rw [List.eq_nil_iff_forall_not_mem]
      intro id hid
      obtain ⟨node, hnode, -⟩ := (hroster.slotted.mem_slots id).mp hid
      exact hnobody id (.of_active hnode)
    have hcount : s.totalSubnetElectableNodes.val i = (s.slots i).length := hroster.slotted.count
    rw [h.absent i hi, hcount, hslots]
    rfl

/-- A subnet that is registered starts to form. -/
theorem Phased.registerSubnet (h : s.Phased) {L : ℕ} (hsound : s.Sound L)
    (hleft : s.totalSubnetUids < u32Max) {slot epoch : ℕ} {d : SubnetData}
    {initial : StorageMap ℕ ℕ} (hstate : d.state = .registered) :
    (s.registerSubnet D slot epoch d initial).Phased := by
  -- the next id has not been given out, and nothing is stored for it
  have hnew : s.phase s.nextSubnetId = none := by
    refine phase_eq_none_of_lt hsound.homed ?_
    unfold nextSubnetId
    omega
  have hphase : ∀ j, (s.registerSubnet D slot epoch d initial).phase j =
      if j = s.nextSubnetId then some .registered else s.phase j := by
    intro j
    rw [← hstate]
    exact s.phase_setSubnet s.nextSubnetId j d
  constructor
  · intro j
    rw [hphase]
    show j ∈ (s.subnetRegistrationEpoch.set s.nextSubnetId epoch).keys ↔ _
    rw [StorageMap.keys_set, Finset.mem_insert, h.epoch]
    by_cases hj : j = s.nextSubnetId <;> simp [hj]
  · intro j hsome hstarted
    rw [hphase] at hsome hstarted
    by_cases heq : j = s.nextSubnetId
    · rw [if_pos heq] at hstarted
      exact absurd rfl hstarted
    · rw [if_neg heq] at hsome hstarted
      obtain ⟨hids, hdata⟩ := h.initial j hsome hstarted
      refine ⟨?_, hdata⟩
      show (s.nodeRegistrationInitialValidatorIds.set s.nextSubnetId initial).find? j = none
      rw [StorageMap.find?_set_ne _ _ heq]
      exact hids
  · intro j hj
    rw [hphase] at hj
    split at hj
    · cases hj
    · exact h.absent j hj
  · intro j hj
    rw [hphase] at hj
    have hold : s.Forming j := by
      split at hj
      · next heq => exact heq ▸ h.forming_of_absent hsound hnew
      · exact h.forming j hj
    exact ⟨hold.registered, hold.validators, hold.electable⟩

/-- A subnet that is activated forms no longer, and its first validators are forgotten. -/
theorem Phased.startSubnet (h : s.Phased) {d : SubnetData} (hnew : d.state = .active) :
    (s.startSubnet i d).Phased := by
  have hphase : ∀ j, (s.startSubnet i d).phase j = if j = i then some .active else s.phase j := by
    intro j
    rw [← hnew]
    exact s.phase_setSubnet i j d
  constructor
  · intro j
    rw [hphase]
    show j ∈ (s.subnetRegistrationEpoch.remove i).keys ↔ _
    rw [StorageMap.keys_remove, Finset.mem_erase, h.epoch]
    by_cases hj : j = i <;> simp [hj]
  · intro j hsome hstarted
    show (s.nodeRegistrationInitialValidatorIds.remove i).find? j = none ∧
      (s.initialValidatorData.remove i).find? j = none
    rw [StorageMap.find?_remove, StorageMap.find?_remove]
    by_cases heq : j = i
    · exact ⟨if_pos heq, if_pos heq⟩
    · rw [hphase, if_neg heq] at hsome hstarted
      rw [if_neg heq, if_neg heq]
      exact h.initial j hsome hstarted
  · intro j hj
    rw [hphase] at hj
    split at hj
    · cases hj
    · exact h.absent j hj
  · intro j hj
    rw [hphase] at hj
    split at hj
    · cases hj
    · have hold := h.forming j hj
      exact ⟨hold.registered, hold.validators, hold.electable⟩

/-- A record is written over, and the subnet is as new as before. -/
theorem Phased.setSubnet (h : s.Phased) {d d' : SubnetData} (hd : s.subnetsData.find? i = some d)
    (hstate : d'.state = .registered ↔ d.state = .registered) : (s.setSubnet i d').Phased := by
  have hold := Records.phase_of_find hd
  refine h.of_phase (fun j => ?_) (fun j => ?_) rfl rfl rfl (fun _ _ => rfl) fun j _ hj =>
    ⟨hj.registered, hj.validators, hj.electable⟩
  · rw [phase_setSubnet]
    split
    · next heq => simp [heq, hold]
    · exact Iff.rfl
  · rw [phase_setSubnet]
    split
    · next heq =>
        rw [heq, hold, Option.some.injEq, Option.some.injEq]
        exact hstate
    · exact Iff.rfl

/-- A subnet that is removed leaves no trace among the phases. -/
theorem Phased.removeSubnet (h : s.Phased) (d : SubnetData) : (s.removeSubnet i d).Phased := by
  have hphase := s.phase_removeSubnet i (d := d)
  constructor
  · intro j
    rw [hphase]
    show j ∈ (s.subnetRegistrationEpoch.remove i).keys ↔ _
    rw [StorageMap.keys_remove, Finset.mem_erase, h.epoch]
    by_cases hj : j = i <;> simp [hj]
  · intro j hsome hstarted
    rw [hphase] at hsome hstarted
    split at hsome
    · exact absurd rfl hsome
    · next hj =>
        rw [if_neg hj] at hstarted
        obtain ⟨hids, hdata⟩ := h.initial j hsome hstarted
        -- the removal does not touch this list, which a registration has written
        have hsame : (s.removeSubnet i d).nodeRegistrationInitialValidatorIds =
            s.nodeRegistrationInitialValidatorIds := by
          unfold Store.removeSubnet freeSlot
          cases s.subnetSlot.find? i <;> rfl
        refine ⟨hsame ▸ hids, ?_⟩
        show (s.initialValidatorData.remove i).find? j = none
        rw [StorageMap.find?_remove_ne _ hj]
        exact hdata
  · intro j hj
    rw [hphase] at hj
    show (s.totalActiveSubnetNodes.remove i).val j = 0
    by_cases heq : j = i
    · rw [heq]
      simp [StorageMap.val, StorageMap.getD]
    · rw [if_neg heq] at hj
      rw [StorageMap.val_remove_ne _ heq]
      exact h.absent j hj
  · intro j hj
    rw [hphase] at hj
    split at hj
    · cases hj
    · next hne =>
        exact (h.forming j hj).sameAt (Membership.sameAt_clear _ hne) (StorageMap.val_remove_ne _ hne)

/-- An operation on the nodes of one subnet. -/
theorem Phased.nodes (h : s.Phased) {r : Records} (hsubnets : r.subnetsData = s.subnetsData)
    (hi : s.phase i ≠ none)
    (hothers : ∀ j, j ≠ i → Membership.SameAt j s.toMembership r.toMembership)
    (hcount : ∀ j, j ≠ i → r.totalActiveSubnetNodes.val j = s.totalActiveSubnetNodes.val j)
    (hforming : s.phase i = some .registered → s.Forming i → r.Forming i) :
    (s.setRecords r).Phased := by
  refine h.setRecords hsubnets ?_ ?_
  · intro j hj
    refine hcount j ?_
    rintro rfl
    exact hi hj
  · intro j hj hold
    by_cases heq : j = i
    · subst heq
      exact hforming hj hold
    · exact hold.sameAt (hothers j heq) (hcount j heq)

/-- A step of the reward code. -/
theorem Phased.step (h : s.Phased) {L : ℕ} (hsound : s.Sound L) {r : Records}
    (hstep : s.toRecords.Step ar ⟨True, known, covered⟩ i r) : (s.setRecords r).Phased := by
  refine h.setRecords hstep.subnetsData ?_ ?_
  · intro j hj
    by_cases heq : j = i
    · subst heq
      -- nobody can leave a subnet that does not exist
      cases hstep with
      | removeActive hnode =>
          have hmember : s.Member j _ := .of_active hnode
          exact absurd (Records.phase_eq_none.mp hj) (hsound.homed.member j _ hmember)
      | _ => rfl
    · exact hstep.activeCount heq
  · intro j _ hj
    by_cases heq : j = i
    · subst heq
      exact hj.step (hsound.inv.roster j) hstep
    · exact hj.sameAt (hstep.sameAt heq) (hstep.activeCount heq)

/-- What is noted about the first validators of a registered subnet changes. -/
theorem Phased.setInitial (h : s.Phased) (hi : s.phase i = some .registered)
    {uids : StorageMap ℕ ℕ} {ids data : StorageMap ℕ (StorageMap ℕ ℕ)}
    (hids : ∀ j, j ≠ i → ids.find? j = s.nodeRegistrationInitialValidatorIds.find? j)
    (hdata : ∀ j, j ≠ i → data.find? j = s.initialValidatorData.find? j) :
    Phased { s with
      totalSubnetNodeUids := uids
      nodeRegistrationInitialValidatorIds := ids
      initialValidatorData := data } where
  epoch := h.epoch
  initial j hsome hstarted := by
    have hne : j ≠ i := by
      rintro rfl
      exact hstarted hi
    show ids.find? j = none ∧ data.find? j = none
    rw [hids j hne, hdata j hne]
    exact h.initial j hsome hstarted
  absent := h.absent
  forming := h.forming

/-- Whatever happens, the store says the phase. -/
theorem phased_preserved : Preserved ar known covered room D L Phased where
  call {s s'} hsound h hcall := by
    cases hcall with
    | other _ => exact ⟨h.epoch, h.initial, h.absent, h.forming⟩
    | registerSubnet hstate _ _ _ hleft => exact h.registerSubnet hsound (hleft trivial) hstate
    | startSubnet _ _ hnew => exact h.startSubnet hnew
    -- whether a subnet is paused or active makes no difference
    | setSubnet hd hstate =>
        refine h.setSubnet hd ?_
        rcases hstate with hsame | ⟨hactive, hpaused⟩
        · rw [hsame]
        · rw [hactive, hpaused]
          decide
    | @unpause i delta d d' hd hold hnew =>
        have hset : (s.setSubnet i d').Phased := by
          refine h.setSubnet hd ?_
          rw [hold, hnew]
          decide
        refine hset.of_phase (fun _ => Iff.rfl) (fun _ => Iff.rfl) rfl rfl rfl (fun _ _ => rfl) ?_
        intro j _ hj
        refine ⟨fun id => ?_, hj.validators, hj.electable⟩
        show (s.registeredSubnetNodesData.mapValues _).find? (j, id) = none
        rw [StorageMap.find?_mapValues, show s.registeredSubnetNodesData.find? (j, id) = none from
          hj.registered id]
        rfl
    -- nodes are only seated while the subnet registers
    | @seat i d node x count hadmits hstate hclass hslot =>
        have hphase : s.phase i = some .registered := hstate ▸ Records.phase_of_find hadmits.subnet
        have hleft := hadmits.left trivial
        have hid : node.id = s.totalSubnetNodeUids.val i + 1 := by
          rw [hadmits.id]
          unfold nextNodeId
          omega
        have hrec : (s.setRecords ((s.toRecords.enter i ar node x).seat i node)).Phased := by
          refine h.nodes rfl (hphase ▸ Option.some_ne_none _) ?_ ?_ ?_
          · intro j hj
            exact (Membership.sameAt_countUp _ hj).trans (Membership.sameAt_seat _ hj node)
          · intro j hj
            exact StorageMap.val_set_ne _ _ hj
          · intro _ hforming
            exact hforming.seat (hsound.inv.roster i) hid hleft hslot hclass x
        exact hrec.setInitial hphase (fun _ _ => rfl) fun j hj => StorageMap.find?_set_ne _ _ hj
    -- and queued only once it is active
    | @enqueue i d node x hadmits hstate hclass =>
        have hphase : s.phase i = some .active := hstate ▸ Records.phase_of_find hadmits.subnet
        have hrec : (s.setRecords ((s.toRecords.enter i ar node x).enqueue i node)).Phased := by
          refine h.nodes rfl (hphase ▸ Option.some_ne_none _) ?_ (fun _ _ => rfl) ?_
          · intro j hj
            exact (Membership.sameAt_countUp _ hj).trans (Membership.sameAt_enqueue _ hj node)
          · intro hreg
            rw [hphase] at hreg
            cases hreg
        exact ⟨hrec.epoch, hrec.initial, hrec.absent, hrec.forming⟩
    | @removeActive i id node hnode =>
        have hstep : s.toRecords.Step ar ⟨True, known, covered⟩ i _ := .removeActive hnode
        exact h.step hsound hstep
    | @removeRegistered i id node hnode =>
        have hstep : s.toRecords.Step ar ⟨True, known, covered⟩ i _ := .removeRegistered hnode
        exact h.step hsound hstep
    -- an update leaves the class
    | @updateActive i id node u hnode _ =>
        refine h.setRecords rfl (fun _ _ => rfl) ?_
        intro j _ hj
        refine ⟨hj.registered, fun k n hn => ?_, hj.electable⟩
        have hset : (s.subnetNodesData.set (i, id) (u.apply node)).find? (j, k) = some n := hn
        rw [StorageMap.find?_set] at hset
        split at hset
        · next heq =>
            cases heq
            cases hset
            rw [u.apply_classification]
            exact hj.validators id node hnode
        · exact hj.validators k n hset
    | @updateRegistered i id node u hnode _ =>
        refine h.setRecords rfl (fun _ _ => rfl) ?_
        intro j _ hj
        refine ⟨fun k => ?_, hj.validators, hj.electable⟩
        show (s.registeredSubnetNodesData.set (i, id) (u.apply node)).find? (j, k) = none
        rw [StorageMap.find?_set]
        split
        · next heq =>
            cases heq
            rw [hj.registered] at hnode
            cases hnode
        · exact hj.registered k
    | removeSubnet _ => exact h.removeSubnet _
    | addStake _ _ _ => exact h.keep rfl rfl
    | removeStake clean _ =>
        cases clean with
        | none => exact h.keep rfl rfl
        | some v => exact h.keep rfl rfl
    | addValidator _ => exact ⟨h.epoch, h.initial, h.absent, fun j hj =>
        ⟨(h.forming j hj).registered, (h.forming j hj).validators, (h.forming j hj).electable⟩⟩
    | setInitial hd hstate hothers =>
        exact h.setInitial (hstate ▸ Records.phase_of_find hd) hothers fun _ _ => rfl
  submit _ h hsubmit := by
    cases hsubmit with
    | propose _ _ _ _ => exact ⟨h.epoch, h.initial, h.absent, h.forming⟩
    | attest _ _ => exact ⟨h.epoch, h.initial, h.absent, h.forming⟩
  tick h := ⟨h.epoch, h.initial, h.absent, fun j hj =>
    ⟨(h.forming j hj).registered, (h.forming j hj).validators, (h.forming j hj).electable⟩⟩
  hook {target s s'} hsound h hstep := by
    cases hstep with
    | node _ hstep => exact h.step hsound hstep
    | @activate i node rest _ hqueue _ =>
        have hmember : s.Member i node.id :=
          (hsound.inv.roster i).member_of_queued (hqueue ▸ List.mem_cons_self)
        have hi : s.phase i ≠ none := by
          rw [ne_eq, Records.phase_eq_none]
          exact hsound.homed.member i node.id hmember
        refine h.nodes rfl hi ?_ ?_ ?_
        · intro j hj
          exact Membership.sameAt_activate _ hj _ _ _
        · intro j hj
          exact StorageMap.val_set_ne _ _ hj
        · -- nobody is queued in a subnet that is not yet active
          intro _ hforming
          obtain ⟨⟨q, hq⟩, -⟩ := (hsound.inv.roster i).queued node (hqueue ▸ List.mem_cons_self)
          exact absurd ((hforming.registered node.id).symm.trans hq) nofun
    | skip _ _ _ =>
        refine h.setRecords rfl (fun _ _ => rfl) ?_
        intro j _ hj
        exact ⟨hj.registered, hj.validators, hj.electable⟩
    | removeSubnet _ => exact h.removeSubnet _
    | weigh _ => exact ⟨h.epoch, h.initial, h.absent, h.forming⟩

/-! ## Changes of phase -/

/-- A registration sets the phase of the next id. -/
theorem phase_registerSubnet (s : Store) (D slot epoch j : ℕ) (d : SubnetData)
    (initial : StorageMap ℕ ℕ) : (s.registerSubnet D slot epoch d initial).phase j =
      if j = s.nextSubnetId then some d.state else s.phase j :=
  s.phase_setSubnet s.nextSubnetId j d

/-- What a call does to the phase of a subnet. -/
theorem Call.turn (hhomed : s.lifecycle.Homed) (h : Call ar True room D L s s') (i : ℕ) :
    Turn (s.phase i) (s'.phase i) := by
  cases h with
  | @registerSubnet slot epoch d initial hstate _ _ _ hleft =>
      rw [phase_registerSubnet]
      split
      · next heq =>
          -- the id is new, so there was no subnet with it
          have hlt : s.totalSubnetUids < i := by
            have hleft := hleft trivial
            rw [heq]
            unfold nextSubnetId
            omega
          rw [phase_eq_none_of_lt hhomed hlt, hstate]
          exact .register
      · exact .stay _
  | @startSubnet k d d' hd hold hnew =>
      have hphase : (s.startSubnet k d').phase i = _ := s.phase_setSubnet k i d'
      rw [hphase]
      split
      · next heq =>
          rw [heq, Records.phase_of_find hd, hold, hnew]
          exact .activate
      · exact .stay _
  | @setSubnet k d d' hd hstate =>
      rw [phase_setSubnet]
      split
      · next heq =>
          rw [heq, Records.phase_of_find hd]
          rcases hstate with hsame | ⟨hactive, hpaused⟩
          · rw [hsame]
            exact .stay _
          · rw [hactive, hpaused]
            exact .pause
      · exact .stay _
  | @unpause k delta d d' hd hold hnew =>
      have hphase : ((s.setSubnet k d').delayRegistered delta).phase i = _ :=
        s.phase_setSubnet k i d'
      rw [hphase]
      split
      · next heq =>
          rw [heq, Records.phase_of_find hd, hold, hnew]
          exact .unpause
      · exact .stay _
  | @removeSubnet k d hd =>
      rw [phase_removeSubnet]
      split
      · next heq =>
          rw [heq, Records.phase_of_find hd]
          exact .remove _
      · exact .stay _
  | @removeActive k id node hnode =>
      have hphase : (s.setRecords (s.toRecords.removeActive k id node)).phase i = s.phase i := by
        show ((Membership.removeActive ..).subnetsData.find? i).map _ = _
        rw [Membership.removeActive_subnetsData]
        rfl
      rw [hphase]
      exact .stay _
  | removeStake clean _ =>
      cases clean with
      | none => exact .stay _
      | some v => exact .stay _
  | _ => exact .stay _

/-- The block hook only removes subnets. -/
theorem Step.phase (h : Step ar t L target s s') (i : ℕ) :
    s'.phase i = s.phase i ∨ s'.phase i = none := by
  cases h with
  | @node k r _ hstep =>
      left
      show (r.subnetsData.find? i).map _ = _
      rw [hstep.subnetsData]
      rfl
  | activate _ _ _ => exact .inl rfl
  | skip _ _ _ => exact .inl rfl
  | removeSubnet _ =>
      rw [phase_removeSubnet]
      split
      · exact .inr rfl
      · exact .inl rfl
  | weigh _ => exact .inl rfl

/-- What a label does to the phase of a subnet. -/
theorem Change.turn (hhomed : s.lifecycle.Homed)
    (h : Change ar ⟨True, known, covered⟩ room D L s s') (i : ℕ) :
    Turn (s.phase i) (s'.phase i) := by
  cases h with
  | call hcall => exact hcall.turn hhomed i
  | submit hsubmit => cases hsubmit <;> exact .stay _
  | block _ hruns =>
      have hall : s'.phase i = s.phase i ∨ s'.phase i = none := by
        induction hruns with
        | refl => exact .inl rfl
        | tail _ hone ih =>
            rcases hone.phase i with hsame | hnone
            · rw [hsame]
              exact ih
            · exact .inr hnone
      rcases hall with hsame | hnone
      · rw [hsame]
        exact .stay _
      · rw [hnone]
        cases s.phase i with
        | none => exact .stay _
        | some p => exact .remove p

/-! ## What is over -/

/-- A subnet that was removed. -/
def Gone (s : Store) (i : ℕ) : Prop := i ≤ s.totalSubnetUids ∧ s.phase i = none

/-- A subnet that was activated: nothing is noted about its first validators. -/
structure Retired (s : Store) (i : ℕ) : Prop where
  le : i ≤ s.totalSubnetUids
  started : s.phase i ≠ some .registered
  ids : s.nodeRegistrationInitialValidatorIds.find? i = none
  data : s.initialValidatorData.find? i = none

/-- What a step leaves of a subnet that has been given its id. -/
structure Later (i : ℕ) (s s' : Store) : Prop where
  uids : s.totalSubnetUids ≤ s'.totalSubnetUids
  gone : s.phase i = none → s'.phase i = none
  ids : s.phase i ≠ some .registered → s.nodeRegistrationInitialValidatorIds.find? i = none →
    s'.nodeRegistrationInitialValidatorIds.find? i = none
  data : s.phase i ≠ some .registered → s.initialValidatorData.find? i = none →
    s'.initialValidatorData.find? i = none

/-- The lists of first validators stay, and the phase may. -/
theorem Later.of_eq (huids : s'.totalSubnetUids = s.totalSubnetUids)
    (hphase : s.phase i = none → s'.phase i = none)
    (hids : s'.nodeRegistrationInitialValidatorIds.find? i =
      s.nodeRegistrationInitialValidatorIds.find? i)
    (hdata : s'.initialValidatorData.find? i = s.initialValidatorData.find? i) : s.Later i s' where
  uids := huids.ge
  gone := hphase
  ids _ h := hids.trans h
  data _ h := hdata.trans h

/-- The lists can be edited while a subnet is registered. -/
theorem Later.of_registered (huids : s'.totalSubnetUids = s.totalSubnetUids)
    (hphase : s.phase i = some .registered) : s.Later i s' where
  uids := huids.ge
  gone h := absurd (hphase.symm.trans h) (Option.some_ne_none _)
  ids h := absurd hphase h
  data h := absurd hphase h

/-- A removal brings no subnet back. -/
theorem removeSubnet_later (s : Store) (k : ℕ) (d : SubnetData) (i : ℕ) :
    s.Later i (s.removeSubnet k d) := by
  have hkeep : (s.removeSubnet k d).totalSubnetUids = s.totalSubnetUids ∧
      (s.removeSubnet k d).nodeRegistrationInitialValidatorIds =
        s.nodeRegistrationInitialValidatorIds := by
    unfold Store.removeSubnet freeSlot
    cases s.subnetSlot.find? k <;> exact ⟨rfl, rfl⟩
  refine ⟨hkeep.1.ge, ?_, ?_, ?_⟩
  · intro h
    rw [phase_removeSubnet, h, ite_self]
  · intro _ h
    rw [hkeep.2]
    exact h
  · intro _ h
    show (s.initialValidatorData.remove k).find? i = none
    rw [StorageMap.find?_remove, h, ite_self]

/-- A subnet that is not there does not come back by a write to another entry. -/
theorem phase_setSubnet_none {k : ℕ} {d d' : SubnetData} (hd : s.subnetsData.find? k = some d)
    (h : s.phase i = none) : (s.setSubnet k d').phase i = none := by
  rw [phase_setSubnet, if_neg ?_, h]
  rintro rfl
  rw [Records.phase_of_find hd] at h
  cases h

/-- No call brings back an id that was given out. -/
theorem Call.later (h : Call ar True room D L s s') (hi : i ≤ s.totalSubnetUids) :
    s.Later i s' := by
  -- an id that was given out is not the next one, so no registration brings it back
  cases h with
  | @registerSubnet slot epoch d initial _ _ _ _ hleft =>
      have hleft := hleft trivial
      have hne : i ≠ s.nextSubnetId := by
        unfold nextSubnetId
        omega
      refine ⟨?_, ?_, ?_, fun _ h => h⟩
      · show s.totalSubnetUids ≤ s.nextSubnetId
        unfold nextSubnetId
        omega
      · intro h
        rw [phase_registerSubnet, if_neg hne, h]
      · intro _ h
        show (s.nodeRegistrationInitialValidatorIds.set s.nextSubnetId initial).find? i = none
        rw [StorageMap.find?_set_ne _ _ hne, h]
  | @startSubnet k d d' hd hold _ =>
      by_cases heq : i = k
      · subst heq
        exact .of_registered rfl (hold ▸ Records.phase_of_find hd)
      · exact .of_eq rfl (phase_setSubnet_none hd) (StorageMap.find?_remove_ne _ heq)
          (StorageMap.find?_remove_ne _ heq)
  | setSubnet hd _ => exact .of_eq rfl (phase_setSubnet_none hd) rfl rfl
  | unpause hd _ _ => exact .of_eq rfl (phase_setSubnet_none hd) rfl rfl
  | @seat k d node x count hadmits hstate _ _ =>
      by_cases heq : i = k
      · subst heq
        exact .of_registered rfl (hstate ▸ Records.phase_of_find hadmits.subnet)
      · exact .of_eq rfl id rfl (StorageMap.find?_set_ne _ _ heq)
  | @removeActive k id node _ =>
      refine .of_eq rfl (fun h => ?_) rfl rfl
      show ((Membership.removeActive ..).subnetsData.find? i).map _ = none
      rw [Membership.removeActive_subnetsData]
      exact h
  | removeSubnet _ => exact s.removeSubnet_later _ _ i
  | removeStake clean _ =>
      cases clean with
      | none => exact .of_eq rfl id rfl rfl
      | some v => exact .of_eq rfl id rfl rfl
  | @setInitial k d lists hd hstate hothers =>
      by_cases heq : i = k
      · subst heq
        exact .of_registered rfl (hstate ▸ Records.phase_of_find hd)
      · exact .of_eq rfl id (hothers i heq) rfl
  | _ => exact .of_eq rfl id rfl rfl

/-- No step of a block brings one back. -/
theorem Step.later (h : Step ar t L target s s') : s.Later i s' := by
  cases h with
  | @node k r _ hstep =>
      refine .of_eq rfl (fun h => ?_) rfl rfl
      show (r.subnetsData.find? i).map _ = none
      rw [hstep.subnetsData]
      exact h
  | activate _ _ _ => exact .of_eq rfl id rfl rfl
  | skip _ _ _ => exact .of_eq rfl id rfl rfl
  | removeSubnet _ => exact s.removeSubnet_later _ _ i
  | weigh _ => exact .of_eq rfl id rfl rfl

/-- A subnet that is gone stays so. -/
theorem Gone.later (h : s.Gone i) (hlater : s.Later i s') : s'.Gone i :=
  ⟨h.1.trans hlater.uids, hlater.gone h.2⟩

/-- Only what did not exist is registered. -/
theorem Retired.later (h : s.Retired i) (hlater : s.Later i s')
    (hturn : Turn (s.phase i) (s'.phase i)) : s'.Retired i where
  le := h.le.trans hlater.uids
  started hreg := by
    have hstarted := h.started
    have hgone := hlater.gone
    rw [hreg] at hturn hgone
    generalize s.phase i = p at hturn hstarted hgone
    cases hturn with
    | stay => exact hstarted rfl
    | register => cases hgone rfl
  ids := hlater.ids h.started h.ids
  data := hlater.data h.started h.data

/-- Ids are not taken back. -/
theorem issued_preserved (i : ℕ) :
    Preserved ar known covered room D L fun s => i ≤ s.totalSubnetUids where
  call _ h hcall := h.trans (hcall.later h).uids
  submit _ h hsubmit := by
    cases hsubmit with
    | propose _ _ _ _ => exact h
    | attest _ _ => exact h
  tick h := h
  hook _ h hstep := h.trans (hstep.later (i := i)).uids

/-- A removed subnet does not return. -/
theorem gone_preserved (i : ℕ) : Preserved ar known covered room D L fun s => s.Gone i where
  call _ h hcall := h.later (hcall.later h.1)
  submit _ h hsubmit := by
    cases hsubmit with
    | propose _ _ _ _ => exact h
    | attest _ _ => exact h
  tick h := h
  hook _ h hstep := h.later hstep.later

/-- A removed id stays retired, whatever happens. -/
theorem retired_preserved (i : ℕ) : Preserved ar known covered room D L fun s => s.Retired i where
  call hsound h hcall := h.later (hcall.later h.le) (hcall.turn hsound.homed i)
  submit _ h hsubmit := by
    cases hsubmit with
    | propose _ _ _ _ => exact ⟨h.le, h.started, h.ids, h.data⟩
    | attest _ _ => exact ⟨h.le, h.started, h.ids, h.data⟩
  tick h := ⟨h.le, h.started, h.ids, h.data⟩
  hook {target s s'} hsound h hstep := by
    refine h.later hstep.later ?_
    rcases hstep.phase i with hsame | hnone
    · rw [hsame]
      exact .stay _
    · rw [hnone]
      cases s.phase i with
      | none => exact .stay _
      | some p => exact .remove p

end Store

/-! ## Runs -/

section Runs

variable {A : Type} [DecidableEq A]

/-- The phase of a subnet. -/
def Chain.phase (c : Chain A) (s : ℕ) : Option SubnetState :=
  (c.subnets.subnetsData.find? s).map SubnetData.state

/-- Along every run, the phase of a subnet changes only as it may, and a removed id does not
return. `SubnetRegistrationEpoch` says which subnets are registered. Once a subnet has been
activated, nothing is noted about its first validators. While it is registered, its queue and
its table of registered nodes are empty, and all of its nodes are validators that can be
elected. -/
theorem subnets_live_once (rt : Runtime A) (balances : StorageMap A ℕ) (ops : List (PalletOp A))
    (hleft : Along (PalletOp.step rt) (fun c op => op.IdsLeft c) (.genesis rt balances) ops) :
    let after := fun ls => run (PalletOp.step rt) (Chain.genesis rt balances) ls
    let c := after ops
    (∀ (op : PalletOp A) s, op.IdsLeft c → Turn (c.phase s) ((op.step rt c).phase s)) ∧
    (∀ s past mid later, ops = past ++ mid ++ later → (after past).phase s ≠ none →
      (after (past ++ mid)).phase s = none → c.phase s = none) ∧
    (∀ s, s ∈ c.registry.subnetRegistrationEpoch.keys ↔ c.phase s = some .registered) ∧
    (∀ s past later, ops = past ++ later →
      (after past).phase s = some .active ∨ (after past).phase s = some .paused →
      c.admission.nodeRegistrationInitialValidatorIds.find? s = none ∧
        c.registry.initialValidatorData.find? s = none) ∧
    ∀ s, c.phase s = some .registered →
      c.nodes.subnetNodeQueue.getD s [] = [] ∧
      (∀ id, c.nodes.registeredSubnetNodesData.find? (s, id) = none) ∧
      (∀ id node, c.nodes.subnetNodesData.find? (s, id) = some node →
        node.classification.nodeClass = .validator) ∧
      c.nodes.totalActiveSubnetNodes.val s = c.nodes.totalSubnetElectableNodes.val s := by
  intro after c
  have hgenesis : (Chain.genesis rt balances).store.Phased := by
    refine ⟨fun i => ?_, fun i hsome => absurd rfl hsome, fun i _ => rfl, fun i hreg => nomatch hreg⟩
    exact ⟨fun hmem => absurd hmem (Finset.notMem_empty i), fun hreg => nomatch hreg⟩
  have hrun : ∀ ls, Along (PalletOp.step rt) (fun c op => op.IdsLeft c) (.genesis rt balances) ls →
      (after ls).store.Sound rt.epochLength ∧ (after ls).store.Phased := by
    intro ls hls
    exact PalletOp.run_preserved Store.phased_preserved hls
      ⟨Chain.genesis_sound rt balances, hgenesis⟩
  obtain ⟨hsound, h⟩ := hrun ops hleft
  refine ⟨?_, ?_, h.epoch, ?_, ?_⟩
  · intro op s hop
    exact (PalletOp.step_change hop hsound).turn hsound.homed s
  · rintro s past mid later rfl hsome hnone
    rw [along_append, along_append] at hleft
    obtain ⟨⟨hpast, hmid⟩, hlater⟩ := hleft
    obtain ⟨hsound₁, -⟩ := hrun past hpast
    -- it had its id when it existed, and still has it when it is gone
    have hissued : s ≤ (after past).store.totalSubnetUids :=
      (hsound₁.homed.issued s (mt Records.phase_eq_none.mpr hsome)).2
    have hgone : (after (past ++ mid)).store.Sound rt.epochLength ∧
        s ≤ (after (past ++ mid)).store.totalSubnetUids := by
      have happend : after (past ++ mid) = run (PalletOp.step rt) (after past) mid := run_append ..
      rw [happend]
      exact PalletOp.run_preserved (Store.issued_preserved s) hmid ⟨hsound₁, hissued⟩
    have hend := PalletOp.run_preserved (Store.gone_preserved s) hlater ⟨hgone.1, hgone.2, hnone⟩
    rw [← run_append] at hend
    exact hend.2.2
  · rintro s past later rfl hactivated
    rw [along_append] at hleft
    obtain ⟨hpast, hlater⟩ := hleft
    obtain ⟨hsound₁, h₁⟩ := hrun past hpast
    have hsome : (after past).store.phase s ≠ none := by
      rcases hactivated with hphase | hphase
      · exact fun hnone => nomatch hphase.symm.trans hnone
      · exact fun hnone => nomatch hphase.symm.trans hnone
    have hstarted : (after past).store.phase s ≠ some .registered := by
      rcases hactivated with hphase | hphase
      · exact fun hreg => nomatch hphase.symm.trans hreg
      · exact fun hreg => nomatch hphase.symm.trans hreg
    obtain ⟨hids, hdata⟩ := h₁.initial s hsome hstarted
    have hretired : (after past).store.Retired s :=
      ⟨(hsound₁.homed.issued s (mt Records.phase_eq_none.mpr hsome)).2, hstarted, hids, hdata⟩
    have hend := PalletOp.run_preserved (Store.retired_preserved s) hlater ⟨hsound₁, hretired⟩
    rw [← run_append] at hend
    exact ⟨hend.2.ids, hend.2.data⟩
  · intro s hreg
    have hforming := h.forming s hreg
    refine ⟨?_, hforming.registered, hforming.validators, hforming.electable⟩
    -- whoever is queued has a record among the registered nodes
    rw [List.eq_nil_iff_forall_not_mem]
    intro node hnode
    obtain ⟨⟨q, hq⟩, -⟩ := (hsound.inv.roster s).queued node hnode
    exact nomatch (hforming.registered node.id).symm.trans hq

/-- The subnet of the run is registered, and its three nodes can be elected. -/
theorem subnets_live_once_demo :
    let c := demoPalletAfter demoPallet
    c.phase 128001 = some .registered ∧ c.nodes.totalActiveSubnetNodes.val 128001 = 3 ∧
      c.nodes.totalActiveSubnetNodes.val 128001 = c.nodes.totalSubnetElectableNodes.val 128001 ∧
      c.nodes.subnetNodeQueue.getD 128001 [] = [] := by
  have hleft : Along (PalletOp.step Runtime.runtime) (fun c op => op.IdsLeft c)
      (.genesis Runtime.runtime demoBalances) demoPallet := by decide +kernel
  have hphase : (demoPalletAfter demoPallet).phase 128001 = some .registered := by decide +kernel
  obtain ⟨hqueue, -, -, hcount⟩ :=
    (subnets_live_once Runtime.runtime demoBalances demoPallet hleft).2.2.2.2 128001 hphase
  exact ⟨hphase, by decide +kernel, hcount, hqueue⟩

end Runs

end Hypertensor
