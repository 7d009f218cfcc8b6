import Mathlib
import Hypertensor.Lifecycle.Names
import Hypertensor.Overwatch.Nodes

/-!
# Hypertensor.Lifecycle.Removal — what a removed subnet leaves behind

`do_remove_subnet` names every item it removes. Here the storage that is keyed by a subnet is
put together from its side: `SubnetEntries` is what the removal says it removes, `Preserved`
what it says it keeps, and `Leftover` what it never names, or names and forgets.

* `Directory.Allotted`: the reverse indexes of slots and short ids lead to the subnets that
  have them, so that a removal takes nobody else's entries.
* `RemovedCleanly`: a removal is complete and local.
* `removal_clean_iff`: in any reachable state it is both exactly when nothing is left over.
-/

namespace Hypertensor

open Base StorageMap

/-! ## Slots and short ids -/

namespace Directory

variable {d d' : Directory} {D L i : ℕ} {data : SubnetData}

/-- The slots in use and the short ids lead to the subnets that have them. -/
structure Allotted (D L : ℕ) (d : Directory) : Prop where
  slots : d.slotAssignment.IndexOf id d.subnetSlot
  uids : d.friendlyUidSubnetId.IndexOf id d.subnetIdFriendlyUid
  used : ∀ slot, slot ∈ d.assignedSlots ↔ d.slotAssignment.find? slot ≠ none
  uid : ∀ i, d.subnetIdFriendlyUid.find? i =
    (d.subnetSlot.find? i).map fun slot => wrapAdd 32 (slot - D) 1
  range : ∀ i slot, d.subnetSlot.find? i = some slot → D ≤ slot ∧ slot < L
  exist : ∀ i, d.subnetSlot.find? i ≠ none ↔ d.subnetsData.find? i ≠ none

/-- Two slots have two short ids. -/
theorem wrapAdd_slot_injective {slot slot' : ℕ} (hL : L ≤ u32Max) (hD : D ≤ slot) (hlt : slot < L)
    (hD' : D ≤ slot') (hlt' : slot' < L)
    (h : wrapAdd 32 (slot - D) 1 = wrapAdd 32 (slot' - D) 1) : slot = slot' := by
  rw [wrapAdd_one (by omega), wrapAdd_one (by omega)] at h
  omega

theorem Allotted.register (h : d.Allotted D L) (hnamed : d.Named) (hL : L ≤ u32Max) {slot : ℕ}
    (hfree : slot ∉ d.assignedSlots) (hD : D ≤ slot) (hlt : slot < L)
    (hleft : d.totalSubnetUids < u32Max) : (d.register D slot data).Allotted D L := by
  -- a fresh id has neither a slot nor a short id
  have hslot : d.subnetSlot.find? d.nextSubnetId = none := by
    by_contra hsome
    exact (h.exist _).mp hsome (hnamed.next_none hleft)
  have huid : d.subnetIdFriendlyUid.find? d.nextSubnetId = none := by
    rw [h.uid, hslot]
    rfl
  have hassigned : d.slotAssignment.find? slot = none := by
    by_contra hsome
    exact hfree ((h.used slot).mpr hsome)
  have hfriendly : d.friendlyUidSubnetId.find? (wrapAdd 32 (slot - D) 1) = none := by
    cases hsome : d.friendlyUidSubnetId.find? (wrapAdd 32 (slot - D) 1) with
    | none => rfl
    | some j =>
        -- whoever has this short id has the slot
        obtain ⟨uid, hown, heq⟩ := h.uids.find?_iff.mp hsome
        rw [h.uid, Option.map_eq_some_iff] at hown
        obtain ⟨slot', hslot', heq'⟩ := hown
        obtain ⟨hD', hlt'⟩ := h.range j slot' hslot'
        have hsame := wrapAdd_slot_injective hL hD' hlt' hD hlt (heq'.trans heq)
        have hled := h.slots.find?_field hslot'
        rw [hsame, id_eq, hassigned] at hled
        cases hled
  refine ⟨h.slots.insert hslot hassigned, h.uids.insert huid hfriendly, ?_, ?_, ?_, ?_⟩
  · intro k
    simp only [Directory.register, Finset.mem_insert, find?_set, h.used k]
    split
    · next heq => simp [heq]
    · next hne => simp [hne]
  · intro j
    simp only [Directory.register, find?_set]
    split
    · rfl
    · exact h.uid j
  · intro j slot' hj
    simp only [Directory.register, find?_set] at hj
    split at hj
    · cases hj
      exact ⟨hD, hlt⟩
    · exact h.range j slot' hj
  · intro j
    simp only [Directory.register, find?_set]
    split
    · simp
    · exact h.exist j

/-- Only the records are written, and none goes. -/
theorem Allotted.of_records (h : d.Allotted D L) (hslot : d'.subnetSlot = d.subnetSlot)
    (hassigned : d'.slotAssignment = d.slotAssignment) (hused : d'.assignedSlots = d.assignedSlots)
    (huid : d'.subnetIdFriendlyUid = d.subnetIdFriendlyUid)
    (hfriendly : d'.friendlyUidSubnetId = d.friendlyUidSubnetId)
    (hexist : ∀ j, d'.subnetsData.find? j ≠ none ↔ d.subnetsData.find? j ≠ none) :
    d'.Allotted D L where
  slots := by
    rw [hslot, hassigned]
    exact h.slots
  uids := by
    rw [huid, hfriendly]
    exact h.uids
  used := by
    rw [hassigned, hused]
    exact h.used
  uid := by
    rw [huid, hslot]
    exact h.uid
  range := by
    rw [hslot]
    exact h.range
  exist j := by
    rw [hslot, hexist]
    exact h.exist j

/-- A record that is written over was there before. -/
theorem find?_setData_ne_none (hdata : d.subnetsData.find? i = some data) (data' : SubnetData)
    (j : ℕ) : (d.subnetsData.set i data').find? j ≠ none ↔ d.subnetsData.find? j ≠ none := by
  rw [find?_set]
  split
  · next heq => simp [heq, hdata]
  · exact Iff.rfl

/-- A subnet has a slot, and gives it back with its short id. -/
theorem Allotted.remove_eq (h : d.Allotted D L) (hdata : d.subnetsData.find? i = some data) :
    ∃ slot, d.subnetSlot.find? i = some slot ∧
      d.subnetIdFriendlyUid.find? i = some (wrapAdd 32 (slot - D) 1) ∧
      d.remove i data =
        { subnetsData := d.subnetsData.remove i
          subnetName := d.subnetName.remove data.name
          subnetRepo := d.subnetRepo.remove data.repo
          subnetIdFriendlyUid := d.subnetIdFriendlyUid.remove i
          friendlyUidSubnetId := d.friendlyUidSubnetId.remove (wrapAdd 32 (slot - D) 1)
          subnetSlot := d.subnetSlot.remove i
          slotAssignment := d.slotAssignment.remove slot
          assignedSlots := d.assignedSlots.erase slot
          totalSubnetUids := d.totalSubnetUids } := by
  -- who is registered has a slot, so the removal takes the branch that frees one
  obtain ⟨slot, hslot⟩ := Option.ne_none_iff_exists'.mp ((h.exist i).mpr (by simp [hdata]))
  have huid := h.uid i
  rw [hslot] at huid
  refine ⟨slot, hslot, huid, ?_⟩
  unfold Directory.remove Directory.freeSlot
  rw [hslot, huid]
  rfl

theorem Allotted.remove (h : d.Allotted D L) (hdata : d.subnetsData.find? i = some data) :
    (d.remove i data).Allotted D L := by
  obtain ⟨slot, hslot, huid, heq⟩ := h.remove_eq hdata
  rw [heq]
  refine ⟨h.slots.erase hslot, h.uids.erase huid, ?_, ?_, ?_, ?_⟩
  · intro k
    dsimp only
    rw [Finset.mem_erase, h.used k, find?_remove]
    split
    · next heq => simp [heq]
    · next hne => simp [hne]
  · intro j
    dsimp only
    rw [find?_remove, find?_remove]
    split
    · rfl
    · exact h.uid j
  · intro j slot' hj
    dsimp only at hj
    rw [find?_remove] at hj
    split at hj
    · cases hj
    · exact h.range j slot' hj
  · intro j
    dsimp only
    rw [find?_remove, find?_remove]
    split
    · simp
    · exact h.exist j

/-- What is known of the directory along every run. -/
def Sound (D L : ℕ) (d : Directory) : Prop := d.Named ∧ d.Allotted D L

/-- Every step keeps it. -/
theorem Sound.step (hL : L ≤ u32Max) (h : d.Step D L d') (hd : d.Sound D L) : d'.Sound D L := by
  obtain ⟨hnamed, hslots⟩ := hd
  refine ⟨Named.step h hnamed, ?_⟩
  cases h with
  | register _ _ hfree hD hlt hleft => exact hslots.register hnamed hL hfree hD hlt hleft
  | phase _ _ hdata =>
      exact hslots.of_records rfl rfl rfl rfl rfl (find?_setData_ne_none hdata _)
  | rename hdata _ =>
      exact hslots.of_records rfl rfl rfl rfl rfl (find?_setData_ne_none hdata _)
  | changeRepo hdata _ =>
      exact hslots.of_records rfl rfl rfl rfl rfl (find?_setData_ne_none hdata _)
  | removes h => exact h.invariant (fun hdata hI => hI.remove hdata) hslots

end Directory

/-! ## The storage of a subnet

Whatever has the subnet in its key. Of the maps that lead to a subnet it is the keys that do
(`leadsTo`). Maps with other keys that mention subnets in their values are not the subnet's. -/

/-- "Core Subnet Data", "Subnet Identifiers" and "Slot Assignment". -/
structure IdentityEntries (A : Type) where
  subnetsData : Option SubnetData
  subnetName : Set (List UInt8)
  subnetRepo : Set (List UInt8)
  subnetOwner : Option A
  pendingSubnetOwner : Option A
  subnetRegistrationEpoch : Option ℕ
  subnetIdFriendlyUid : Option ℕ
  friendlyUidSubnetId : Set ℕ
  subnetSlot : Option ℕ
  slotAssignment : Set ℕ

/-- "Subnet Configuration Parameters". -/
structure ParameterEntries (A : Type) where
  churnLimit : Option ℕ
  churnLimitMultiplier : Option ℕ
  subnetNodeQueueEpochs : Option ℕ
  idleClassificationEpochs : Option ℕ
  includedClassificationEpochs : Option ℕ
  queueImmunityEpochs : Option ℕ
  maxRegisteredNodes : Option ℕ
  targetNodeRegistrationsPerEpoch : Option ℕ
  nodeBurnRateAlpha : Option ℕ
  currentNodeBurnRate : Option ℕ
  nodeRegistrationsThisEpoch : Option ℕ
  subnetMinStakeBalance : Option ℕ
  subnetMaxStakeBalance : Option ℕ
  subnetDelegateStakeRewardsPercentage : Option ℕ
  lastSubnetDelegateStakeRewardsUpdate : Option ℕ
  initialValidatorData : Option (StorageMap ℕ ℕ)
  subnetBootnodes : Option (StorageMap (List UInt8) (List UInt8))
  subnetBootnodeAccess : Option (Finset A)
  subnetReputation : Option ℕ
  minSubnetNodeReputation : Option ℕ
  subnetNodeMinWeightDecreaseReputationThreshold : Option ℕ
  subnetReputationFactorSchedules : Option SubnetReputationFactorSchedule
  previousSubnetPauseEpoch : Option ℕ
  emergencySubnetNodeElectionData : Option EmergencySubnetValidatorData

/-- "All Node Data", by node, identifier or epoch. -/
structure NodeEntries (A : Type) where
  subnetNodesData : ℕ → Option SubnetNode
  registeredSubnetNodesData : ℕ → Option SubnetNode
  totalActiveSubnetNodes : Option ℕ
  totalSubnetNodes : Option ℕ
  totalSubnetNodeUids : Option ℕ
  peerIdSubnetNodeId : List UInt8 → Option ℕ
  bootnodePeerIdSubnetNodeId : List UInt8 → Option ℕ
  clientPeerIdSubnetNodeId : List UInt8 → Option ℕ
  multiaddrSubnetNodeId : List UInt8 → Option ℕ
  uniqueParamSubnetNodeId : List UInt8 → Option ℕ
  subnetNodeIdHotkey : ℕ → Option A
  subnetNodeReputation : ℕ → Option ℕ
  subnetNodeConsecutiveIncludedEpochs : ℕ → Option ℕ
  subnetElectedValidator : ℕ → Option ℕ
  nodeSlotIndex : ℕ → Option ℕ
  subnetNodeElectionSlots : Option (List ℕ)
  subnetNodeQueue : Option (List SubnetNode)
  totalSubnetElectableNodes : Option ℕ

/-- What a removal says it removes and does. -/
structure SubnetEntries (A : Type) where
  identity : IdentityEntries A
  parameters : ParameterEntries A
  nodes : NodeEntries A

/-- What a removal says it removes and does not, and what it says nothing about. -/
structure Leftover (A H : Type) where
  /-- Listed under "Registration Data (Temporary)". -/
  nodeRegistrationInitialValidatorIds : Option (StorageMap ℕ ℕ)
  rewardsCapacitor : Option ℕ
  subnetNetFlow : Option ℤ
  subnetNodeIdleConsecutiveEpochs : ℕ → Option ℕ
  /-- The coldkeys that may register the subnet. -/
  subnetRegistrationWhitelist : Set A
  peerIdOverwatchNodeId : List UInt8 → Option ℕ
  /-- By overwatch epoch and overwatch node. -/
  overwatchCommits : ℕ → ℕ → Option H
  /-- By overwatch epoch and overwatch node. -/
  overwatchReveals : ℕ → ℕ → Option ℕ
  /-- By overwatch epoch. -/
  overwatchSubnetWeights : ℕ → Option ℕ

/-- "Data NOT Removed": stake, for its withdrawal, and history. -/
structure Preserved (A : Type) where
  nodeSubnetStake : ℕ → Option ℕ
  totalSubnetStake : Option ℕ
  accountSubnetDelegateStakeShares : A → Option ℕ
  totalSubnetDelegateStakeShares : Option ℕ
  totalSubnetDelegateStakeBalance : Option ℕ
  subnetNodeValidatorId : ℕ → Option ℕ
  /-- The nodes of each validator in the subnet. -/
  validatorSubnetNodes : ℕ → Option (Finset ℕ)
  subnetConsensusSubmission : ℕ → Option ConsensusData

section Entries

variable {A H : Type}

/-- Nothing is stored. -/
def IdentityEntries.none : IdentityEntries A :=
  ⟨.none, ∅, ∅, .none, .none, .none, .none, ∅, .none, ∅⟩

/-- Nothing is stored. -/
def ParameterEntries.none : ParameterEntries A :=
  ⟨.none, .none, .none, .none, .none, .none, .none, .none, .none, .none, .none, .none, .none, .none,
    .none, .none, .none, .none, .none, .none, .none, .none, .none, .none⟩

/-- Nothing is stored. -/
def NodeEntries.none : NodeEntries A where
  subnetNodesData _ := .none
  registeredSubnetNodesData _ := .none
  totalActiveSubnetNodes := .none
  totalSubnetNodes := .none
  totalSubnetNodeUids := .none
  peerIdSubnetNodeId _ := .none
  bootnodePeerIdSubnetNodeId _ := .none
  clientPeerIdSubnetNodeId _ := .none
  multiaddrSubnetNodeId _ := .none
  uniqueParamSubnetNodeId _ := .none
  subnetNodeIdHotkey _ := .none
  subnetNodeReputation _ := .none
  subnetNodeConsecutiveIncludedEpochs _ := .none
  subnetElectedValidator _ := .none
  nodeSlotIndex _ := .none
  subnetNodeElectionSlots := .none
  subnetNodeQueue := .none
  totalSubnetElectableNodes := .none

/-- Nothing is stored. -/
def SubnetEntries.none : SubnetEntries A := ⟨.none, .none, .none⟩

/-- Nothing is left. -/
def Leftover.none : Leftover A H :=
  ⟨.none, .none, .none, fun _ => .none, ∅, fun _ => .none, fun _ _ => .none, fun _ _ => .none,
    fun _ => .none⟩

namespace Chain

variable (c : Chain A) (s : ℕ)

/-- Who the subnet is. -/
def identityEntries : IdentityEntries A where
  subnetsData := c.subnets.subnetsData.find? s
  subnetName := c.registry.subnetName.leadsTo s
  subnetRepo := c.registry.subnetRepo.leadsTo s
  subnetOwner := c.emission.subnetOwner.find? s
  pendingSubnetOwner := c.registry.pendingSubnetOwner.find? s
  subnetRegistrationEpoch := c.registry.subnetRegistrationEpoch.find? s
  subnetIdFriendlyUid := c.registry.subnetIdFriendlyUid.find? s
  friendlyUidSubnetId := c.registry.friendlyUidSubnetId.leadsTo s
  subnetSlot := c.registry.subnetSlot.find? s
  slotAssignment := c.registry.slotAssignment.leadsTo s

/-- Its parameters. -/
def parameterEntries : ParameterEntries A where
  churnLimit := c.registry.churnLimit.find? s
  churnLimitMultiplier := c.intervals.churnLimitMultiplier.find? s
  subnetNodeQueueEpochs := c.registry.subnetNodeQueueEpochs.find? s
  idleClassificationEpochs := c.emission.idleClassificationEpochs.find? s
  includedClassificationEpochs := c.emission.includedClassificationEpochs.find? s
  queueImmunityEpochs := c.registry.queueImmunityEpochs.find? s
  maxRegisteredNodes := c.registry.maxRegisteredNodes.find? s
  targetNodeRegistrationsPerEpoch := c.registry.targetNodeRegistrationsPerEpoch.find? s
  nodeBurnRateAlpha := c.registry.nodeBurnRateAlpha.find? s
  currentNodeBurnRate := c.registry.currentNodeBurnRate.find? s
  nodeRegistrationsThisEpoch := c.registry.nodeRegistrationsThisEpoch.find? s
  subnetMinStakeBalance := c.subnets.subnetMinStakeBalance.find? s
  subnetMaxStakeBalance := c.subnets.subnetMaxStakeBalance.find? s
  subnetDelegateStakeRewardsPercentage := c.emission.subnetDelegateStakeRewardsPercentage.find? s
  lastSubnetDelegateStakeRewardsUpdate := c.registry.lastSubnetDelegateStakeRewardsUpdate.find? s
  initialValidatorData := c.registry.initialValidatorData.find? s
  subnetBootnodes := c.registry.subnetBootnodes.find? s
  subnetBootnodeAccess := c.registry.subnetBootnodeAccess.find? s
  subnetReputation := c.emission.subnetReputation.find? s
  minSubnetNodeReputation := c.emission.minSubnetNodeReputation.find? s
  subnetNodeMinWeightDecreaseReputationThreshold :=
    c.emission.subnetNodeMinWeightDecreaseReputationThreshold.find? s
  subnetReputationFactorSchedules := c.emission.subnetReputationFactorSchedules.find? s
  previousSubnetPauseEpoch := c.registry.previousSubnetPauseEpoch.find? s
  emergencySubnetNodeElectionData := c.nodes.emergencySubnetNodeElectionData.find? s

/-- Its nodes. -/
def nodeEntries : NodeEntries A where
  subnetNodesData id := c.nodes.subnetNodesData.find? (s, id)
  registeredSubnetNodesData id := c.nodes.registeredSubnetNodesData.find? (s, id)
  totalActiveSubnetNodes := c.nodes.totalActiveSubnetNodes.find? s
  totalSubnetNodes := c.nodes.totalSubnetNodes.find? s
  totalSubnetNodeUids := c.registry.totalSubnetNodeUids.find? s
  peerIdSubnetNodeId p := c.nodes.peerIdSubnetNodeId.find? (s, p)
  bootnodePeerIdSubnetNodeId p := c.nodes.bootnodePeerIdSubnetNodeId.find? (s, p)
  clientPeerIdSubnetNodeId p := c.nodes.clientPeerIdSubnetNodeId.find? (s, p)
  multiaddrSubnetNodeId a := c.nodes.multiaddrSubnetNodeId.find? (s, a)
  uniqueParamSubnetNodeId u := c.nodes.uniqueParamSubnetNodeId.find? (s, u)
  subnetNodeIdHotkey id := c.nodes.subnetNodeIdHotkey.find? (s, id)
  subnetNodeReputation id := c.nodes.subnetNodeReputation.find? (s, id)
  subnetNodeConsecutiveIncludedEpochs id := c.nodes.subnetNodeConsecutiveIncludedEpochs.find? (s, id)
  subnetElectedValidator e := c.registry.subnetElectedValidator.find? (s, e)
  nodeSlotIndex id := c.nodes.nodeSlotIndex.find? (s, id)
  subnetNodeElectionSlots := c.nodes.subnetNodeElectionSlots.find? s
  subnetNodeQueue := c.nodes.subnetNodeQueue.find? s
  totalSubnetElectableNodes := c.nodes.totalSubnetElectableNodes.find? s

/-- All that a removal says it removes. -/
def entries : SubnetEntries A := ⟨c.identityEntries s, c.parameterEntries s, c.nodeEntries s⟩

/-- What a removal keeps. -/
def preserved [DecidableEq A] : Preserved A where
  nodeSubnetStake id := c.stake.nodeSubnetStake.find? (id, s)
  totalSubnetStake := c.stake.totalSubnetStake.find? s
  accountSubnetDelegateStakeShares a := c.subnetPools.accountShares.find? (a, s)
  totalSubnetDelegateStakeShares := c.subnetPools.poolShares.find? s
  totalSubnetDelegateStakeBalance := c.subnetPools.poolBalance.find? s
  subnetNodeValidatorId id := c.nodes.subnetNodeValidatorId.find? (s, id)
  validatorSubnetNodes v := (c.validators.validatorSubnetNodes.getD v ∅).find? s
  subnetConsensusSubmission e := c.registry.subnetConsensusSubmission.find? (s, e)

end Chain

/-- What a removal leaves over. -/
def OverwatchChain.leftover (c : OverwatchChain A H) (s : ℕ) : Leftover A H where
  nodeRegistrationInitialValidatorIds := c.admission.nodeRegistrationInitialValidatorIds.find? s
  rewardsCapacitor := c.emission.rewardsCapacitor.find? s
  subnetNetFlow := c.subnets.subnetNetFlow.find? s
  subnetNodeIdleConsecutiveEpochs id := c.nodes.subnetNodeIdleConsecutiveEpochs.find? (s, id)
  subnetRegistrationWhitelist := {a | (a, s) ∈ c.admission.subnetRegistrationWhitelist}
  peerIdOverwatchNodeId p := c.admission.peerIdOverwatchNodeId.find? (s, p)
  overwatchCommits e n := c.overwatchCommits.find? (e, n, s)
  overwatchReveals e n := ((c.registry.overwatchReveals.getD e ∅).getD s ∅).find? n
  overwatchSubnetWeights e := c.registry.overwatchSubnetWeights.find? (e, s)

/-- The removal of `s` is complete: nothing is stored of it but what is preserved, and its slot
is free. And it is local: what is stored of any other subnet is as it was. -/
structure OverwatchChain.RemovedCleanly [DecidableEq A] (rt : Runtime A) (c : OverwatchChain A H) (s : ℕ) : Prop where
  removed : (c.removeSubnet rt s).entries s = .none
  noLeftover : (c.removeSubnet rt s).leftover s = .none
  freed : ∀ slot, c.registry.subnetSlot.find? s = some slot →
    slot ∉ (c.removeSubnet rt s).registry.assignedSlots
  preserved : (c.removeSubnet rt s).preserved s = c.preserved s
  others : ∀ t, t ≠ s → (c.removeSubnet rt s).entries t = c.entries t ∧
    (c.removeSubnet rt s).leftover t = c.leftover t ∧
    (c.removeSubnet rt s).preserved t = c.preserved t ∧
    ∀ slot, c.registry.subnetSlot.find? t = some slot →
      (slot ∈ (c.removeSubnet rt s).registry.assignedSlots ↔ slot ∈ c.registry.assignedSlots)

end Entries

/-! ## What a removal does to each part -/

section Removal

variable {A H : Type} {rt : Runtime A} {c : Chain A} {s t D L : ℕ} {data : SubnetData}

/-- Of the maps that lead to subnets only the entries of the removed one go. -/
theorem Chain.doRemoveSubnet_identity (h : c.directory.Sound D L)
    (hdata : c.subnets.subnetsData.find? s = some data) (t : ℕ) :
    (c.doRemoveSubnet rt s).1.identityEntries t = if t = s then .none else c.identityEntries t := by
  obtain ⟨hnamed, hslots⟩ := h
  obtain ⟨slot, hslot, huid, -⟩ := hslots.remove_eq hdata
  have hnames := hnamed.names.leadsTo_erase hdata t
  have hrepos := hnamed.repos.leadsTo_erase hdata t
  have huids := hslots.uids.leadsTo_erase huid t
  have hassigned := hslots.slots.leadsTo_erase hslot t
  unfold Chain.directory at hnames hrepos huids hassigned hslot huid
  dsimp only [id_eq] at hnames hrepos huids hassigned hslot huid
  unfold Chain.doRemoveSubnet Registry.removeSubnet Registry.freeSlotOfSubnet
  rw [hdata]
  dsimp only [Chain.cleanSubnetNodes]
  rw [hslot, huid]
  unfold Chain.identityEntries
  simp only [Emission.removeSubnet, Subnets.removeSubnet, find?_remove, hnames, hrepos, huids, hassigned]
  split
  · rfl
  · rfl

theorem Chain.doRemoveSubnet_parameters (hdata : c.subnets.subnetsData.find? s = some data)
    {slot : ℕ} (hslot : c.registry.subnetSlot.find? s = some slot) (t : ℕ) :
    (c.doRemoveSubnet rt s).1.parameterEntries t = if t = s then .none else c.parameterEntries t := by
  unfold Chain.doRemoveSubnet Registry.removeSubnet Registry.freeSlotOfSubnet
  rw [hdata]
  dsimp only [Chain.cleanSubnetNodes]
  rw [hslot]
  unfold Chain.parameterEntries Nodes.cleanSubnetNodes
  simp only [Emission.removeSubnet, Subnets.removeSubnet, Intervals.removeSubnet, find?_remove]
  split
  · rfl
  · rfl

theorem Chain.doRemoveSubnet_nodes (hdata : c.subnets.subnetsData.find? s = some data)
    {slot : ℕ} (hslot : c.registry.subnetSlot.find? s = some slot) (t : ℕ) :
    (c.doRemoveSubnet rt s).1.nodeEntries t = if t = s then .none else c.nodeEntries t := by
  unfold Chain.doRemoveSubnet Registry.removeSubnet Registry.freeSlotOfSubnet
  rw [hdata]
  dsimp only [Chain.cleanSubnetNodes]
  rw [hslot]
  unfold Chain.nodeEntries Nodes.cleanSubnetNodes
  simp only [find?_remove, find?_clearPrefix]
  split
  · rfl
  · rfl

theorem Chain.doRemoveSubnet_assignedSlots (hdata : c.subnets.subnetsData.find? s = some data)
    {slot : ℕ} (hslot : c.registry.subnetSlot.find? s = some slot) :
    (c.doRemoveSubnet rt s).1.registry.assignedSlots = c.registry.assignedSlots.erase slot := by
  unfold Chain.doRemoveSubnet Registry.removeSubnet Registry.freeSlotOfSubnet
  rw [hdata]
  dsimp only [Chain.cleanSubnetNodes]
  rw [hslot]

theorem Chain.doRemoveSubnet_preserved [DecidableEq A] (rt : Runtime A) (c : Chain A) (s t : ℕ) :
    (c.doRemoveSubnet rt s).1.preserved t = c.preserved t := by
  unfold Chain.doRemoveSubnet Registry.removeSubnet Registry.freeSlotOfSubnet
  split
  · rfl
  · dsimp only [Chain.cleanSubnetNodes]
    split
    · rfl
    · rfl

theorem OverwatchChain.removeSubnet_leftover (rt : Runtime A) (c : OverwatchChain A H) (s t : ℕ) :
    (c.removeSubnet rt s).leftover t = c.leftover t := by
  unfold OverwatchChain.removeSubnet Chain.doRemoveSubnet Registry.removeSubnet
    Registry.freeSlotOfSubnet
  split
  · rfl
  · dsimp only [Chain.cleanSubnetNodes]
    split
    · rfl
    · rfl

end Removal

/-! ## Removals in reachable states -/

section Runs

variable {A H : Type} [DecidableEq A]

omit [DecidableEq A] in
/-- A new chain has no subnets. -/
theorem Chain.genesis_directory_sound (rt : Runtime A) (balances : StorageMap A ℕ) (D L : ℕ) :
    (Chain.genesis rt balances).directory.Sound D L := by
  refine ⟨Chain.genesis_named rt balances, indexOf_empty id, indexOf_empty id, ?_, fun _ => rfl, ?_,
    fun _ => ⟨fun h => absurd rfl h, fun h => absurd rfl h⟩⟩
  · intro slot
    simp [Chain.directory, Chain.genesis, Registry.genesis]
  · intro i slot hslot
    cases hslot

/-- Where the directory is sound, a removal is complete and local but for what is left over. -/
theorem OverwatchChain.removedCleanly_iff {rt : Runtime A} {c : OverwatchChain A H} {s D L : ℕ}
    {d : SubnetData} (h : c.directory.Sound D L) (hd : c.subnets.subnetsData.find? s = some d) :
    c.RemovedCleanly rt s ↔ c.leftover s = .none := by
  obtain ⟨slot, hslot, -, -⟩ := h.2.remove_eq hd
  have hentries : ∀ t, (c.removeSubnet rt s).entries t =
      if t = s then .none else c.entries t := by
    intro t
    unfold OverwatchChain.removeSubnet Chain.entries
    rw [Chain.doRemoveSubnet_identity h hd, Chain.doRemoveSubnet_parameters hd hslot,
      Chain.doRemoveSubnet_nodes hd hslot]
    split
    · rfl
    · rfl
  have hassigned : (c.removeSubnet rt s).registry.assignedSlots = c.registry.assignedSlots.erase slot :=
    Chain.doRemoveSubnet_assignedSlots hd hslot
  constructor
  · intro hclean
    rw [← removeSubnet_leftover rt c s s]
    exact hclean.noLeftover
  · -- no removal writes what is left over, so it is empty after it if it was before
    intro hnone
    refine ⟨?_, ?_, ?_, Chain.doRemoveSubnet_preserved rt c.toChain s s, ?_⟩
    · rw [hentries, if_pos rfl]
    · rw [removeSubnet_leftover, hnone]
    · intro slot' hslot'
      have hsame : some slot = some slot' := hslot.symm.trans hslot'
      cases hsame
      rw [hassigned]
      exact Finset.notMem_erase slot _
    · intro t ht
      refine ⟨?_, removeSubnet_leftover rt c s t, Chain.doRemoveSubnet_preserved rt c.toChain s t, ?_⟩
      · rw [hentries, if_neg ht]
      · intro slot' hslot'
        -- no two subnets share a slot
        have hne : slot' ≠ slot := by
          intro heq
          exact ht (h.2.slots.injective hslot' hslot heq)
        rw [hassigned, Finset.mem_erase]
        exact and_iff_right hne

/-- In any state that registrations, renamings, removals and whatever else happens lead to, the
removal of a subnet is complete and local exactly when nothing is stored of the subnet in the
items that the removal does not touch and that are not there to be preserved: its initial
validators, its capacitor, its net flow, the idle epochs of its nodes, its registration
whitelist, and what overwatch nodes have stored about it. -/
theorem removal_clean_iff (rt : Runtime A) (hL : rt.epochLength ≤ u32Max) (balances : StorageMap A ℕ)
    (ops : List (SubnetOp A))
    (hleft : Along (SubnetOp.step rt) (fun c op => op.IdsLeft c) (.genesis rt balances) ops)
    (c : OverwatchChain A H) (hc : c.toChain = run (SubnetOp.step rt) (.genesis rt balances) ops)
    (s : ℕ) (d : SubnetData) (hd : c.subnets.subnetsData.find? s = some d) :
    c.RemovedCleanly rt s ↔ c.leftover s = .none := by
  have hsound : c.directory.Sound rt.designatedEpochSlots rt.epochLength := by
    rw [hc]
    exact SubnetOp.run_directory (fun hstep => Directory.Sound.step hL hstep) hleft
      (Chain.genesis_directory_sound rt balances _ _)
  exact OverwatchChain.removedCleanly_iff hsound hd

end Runs

/-- A chain on which no overwatch node has registered. -/
def Chain.unwatched {A : Type} (c : Chain A) : OverwatchChain A ℕ where
  toChain := c
  totalOverwatchNodes := 0
  totalOverwatchNodeUids := 0
  overwatchNodeIdHotkey := ∅
  overwatchNodeIndex := ∅
  overwatchValidatorWhitelist := ∅
  overwatchCommits := ∅
  maxOverwatchNodes := 64
  overwatchCommitCutoffPercent := 900000000000000000
  overwatchMinDiversificationRatio := 250000000000000000
  overwatchMinRepScore := 500000000000000000
  overwatchMinAvgAttestationRatio := 800000000000000000
  overwatchMinAge := 0

/-- Account 10 has registered a subnet. -/
def demoRegistered : List (SubnetOp ℕ) := [.registerSubnet 10 1000000000000000000 demoSubnet]

/-- A subnet of which nothing else is stored is removed without a trace. -/
theorem removal_clean_iff_demo :
    let c := (run (SubnetOp.step Runtime.runtime) (.genesis Runtime.runtime demoBalances)
      (demoRegistered ++ [.other (.genesis Runtime.runtime demoBalances)])).unwatched
    c.subnets.subnetsData.find? 128001 = some ⟨[1], [2], .registered, u32Max⟩ ∧
    c.RemovedCleanly Runtime.runtime 128001 := by
  have hleft : Along (SubnetOp.step Runtime.runtime) (fun c op => op.IdsLeft c)
      (.genesis Runtime.runtime demoBalances)
      (demoRegistered ++ [.other (.genesis Runtime.runtime demoBalances)]) := by
    decide +kernel
  have hdata : (run (SubnetOp.step Runtime.runtime) (.genesis Runtime.runtime demoBalances)
      (demoRegistered ++ [.other (.genesis Runtime.runtime demoBalances)])).subnets.subnetsData.find?
        128001 =
        some ⟨[1], [2], .registered, u32Max⟩ := by
    decide +kernel
  refine ⟨hdata, (removal_clean_iff Runtime.runtime (by decide) demoBalances _ hleft
    (Chain.unwatched _) rfl 128001 _ hdata).mpr ?_⟩
  refine (Leftover.mk.injEq ..).mpr ⟨rfl, rfl, rfl, rfl, ?_, rfl, rfl, rfl, rfl⟩
  exact Set.eq_empty_of_forall_notMem fun a ha => Finset.notMem_empty _ ha

/-- But a subnet that is removed while it is still registering leaves its initial validators,
which the removal says it removes. -/
theorem removal_leaves_initial_validators :
    let c := (run (SubnetOp.step Runtime.runtime) (.genesis Runtime.runtime demoBalances)
      demoRegistered).unwatched
    c.subnets.subnetsData.contains 128001 = true ∧ ¬ c.RemovedCleanly Runtime.runtime 128001 := by
  refine ⟨by decide +kernel, fun hclean => ?_⟩
  have hnone := congrArg Leftover.nodeRegistrationInitialValidatorIds hclean.noLeftover
  revert hnone
  decide +kernel

end Hypertensor
