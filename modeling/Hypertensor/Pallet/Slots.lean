import Mathlib
import Hypertensor.Base.Inverse
import Hypertensor.Multiaddr.Verify
import Hypertensor.Pallet.System

/-!
# Hypertensor.Pallet.Slots — every subnet has its slot

A subnet that registers takes the first slot of the epoch that is free, and a short id
that is the number of the slot; a subnet that is removed gives both back. Five maps and a
set say who has which. `Allotted` is that they agree: the slots in use are those of the
subnets that exist, one each.

* `allotted_preserved`: whatever happens keeps this.
* `slots_are_allotted`: so it holds along every run, and a registration lacks a slot only
  when all of them are in use.
-/

namespace Hypertensor

open Base Relation

namespace Store

variable {ar : Arith} {t : Terms} {known covered room : Prop} {D L : ℕ} {target : Option ℕ}
  {s s' : Store} {i slot : ℕ}

/-! ## The invariant -/

/-- The slots are allotted to the subnets. -/
structure Allotted (D : ℕ) (s : Store) : Prop where
  slots : s.subnetSlot.Inverse s.slotAssignment
  used : ∀ slot, slot ∈ s.assignedSlots ↔ slot ∈ s.slotAssignment.keys
  subnets : ∀ i, i ∈ s.subnetSlot.keys ↔ i ∈ s.subnetsData.keys
  designated : ∀ i slot, s.subnetSlot.find? i = some slot → D ≤ slot
  friendly : s.subnetIdFriendlyUid.Inverse s.friendlyUidSubnetId
  uid : ∀ i, s.subnetIdFriendlyUid.find? i = (s.subnetSlot.find? i).map fun slot => slot - D + 1

/-- The maps stay, and so do the subnets. -/
theorem Allotted.of_subnets (h : s.Allotted D)
    (hsubnets : ∀ i, i ∈ s'.subnetsData.keys ↔ i ∈ s.subnetsData.keys)
    (hslot : s'.subnetSlot = s.subnetSlot) (hassigned : s'.slotAssignment = s.slotAssignment)
    (hused : s'.assignedSlots = s.assignedSlots)
    (huid : s'.subnetIdFriendlyUid = s.subnetIdFriendlyUid)
    (hfriendly : s'.friendlyUidSubnetId = s.friendlyUidSubnetId) : s'.Allotted D where
  slots := by
    rw [hslot, hassigned]
    exact h.slots
  used slot := by
    rw [hused, hassigned]
    exact h.used slot
  subnets i := by
    rw [hslot, hsubnets]
    exact h.subnets i
  designated i slot hs := h.designated i slot (hslot ▸ hs)
  friendly := by
    rw [huid, hfriendly]
    exact h.friendly
  uid i := by
    rw [huid, hslot]
    exact h.uid i

theorem Allotted.setRecords (h : s.Allotted D) {r : Records}
    (hsubnets : r.subnetsData = s.subnetsData) : (s.setRecords r).Allotted D :=
  h.of_subnets (fun i => by rw [← hsubnets]; rfl) rfl rfl rfl rfl rfl

/-- The record of a subnet is written over. -/
theorem Allotted.setSubnet (h : s.Allotted D) {d d' : SubnetData}
    (hd : s.subnetsData.find? i = some d) : (s.setSubnet i d').Allotted D := by
  refine h.of_subnets (fun j => ?_) rfl rfl rfl rfl rfl
  show j ∈ (s.subnetsData.set i d').keys ↔ j ∈ s.subnetsData.keys
  rw [StorageMap.keys_set, Finset.insert_eq_of_mem (StorageMap.mem_keys.mpr ⟨d, hd⟩)]

/-! ## What happens to it -/

/-- The number of a slot after the designated ones. -/
theorem friendlyUid_eq (hlt : slot < L) (hL : L ≤ u32Max) : wrapAdd 32 (slot - D) 1 = slot - D + 1 :=
  wrapAdd_one (by omega)

/-- A subnet gets a fresh id and a free slot. -/
theorem Allotted.registerSubnet (h : s.Allotted D) (hhomed : s.lifecycle.Homed)
    (hfree : slot ∉ s.assignedSlots) (hD : D ≤ slot) (hlt : slot < L) (hL : L ≤ u32Max)
    (hleft : s.totalSubnetUids < u32Max) {epoch : ℕ} {d : SubnetData} {initial : StorageMap ℕ ℕ} :
    (s.registerSubnet D slot epoch d initial).Allotted D := by
  have hid : s.nextSubnetId = s.totalSubnetUids + 1 := by
    unfold nextSubnetId
    omega
  have hnew : s.subnetsData.find? s.nextSubnetId = none := by
    by_contra hsome
    have hissued := hhomed.issued _ hsome
    have huids : s.lifecycle.totalSubnetUids = s.totalSubnetUids := rfl
    omega
  have hslot : s.subnetSlot.find? s.nextSubnetId = none := by
    by_contra hsome
    obtain ⟨slot', hslot'⟩ := Option.ne_none_iff_exists'.mp hsome
    obtain ⟨d', hd'⟩ := StorageMap.mem_keys.mp
      ((h.subnets s.nextSubnetId).mp (StorageMap.mem_keys.mpr ⟨slot', hslot'⟩))
    rw [hnew] at hd'
    cases hd'
  have hassigned : s.slotAssignment.find? slot = none := by
    by_contra hsome
    obtain ⟨j, hj⟩ := Option.ne_none_iff_exists'.mp hsome
    exact hfree ((h.used slot).mpr (StorageMap.mem_keys.mpr ⟨j, hj⟩))
  have huid : s.subnetIdFriendlyUid.find? s.nextSubnetId = none := by
    rw [h.uid, hslot]
    rfl
  have hfriendly : s.friendlyUidSubnetId.find? (slot - D + 1) = none := by
    by_contra hsome
    obtain ⟨j, hj⟩ := Option.ne_none_iff_exists'.mp hsome
    -- whoever has this number has the slot
    have hown := (h.friendly j _).mpr hj
    rw [h.uid, Option.map_eq_some_iff] at hown
    obtain ⟨slot', hslot', heq⟩ := hown
    have hD' := h.designated j slot' hslot'
    have hsame : slot' = slot := by omega
    rw [hsame, h.slots j slot, hassigned] at hslot'
    cases hslot'
  unfold Store.registerSubnet
  rw [friendlyUid_eq hlt hL]
  refine ⟨h.slots.insert hslot hassigned, ?_, ?_, ?_, h.friendly.insert huid hfriendly, ?_⟩
  · intro k
    rw [Finset.mem_insert, h.used, StorageMap.keys_set, Finset.mem_insert]
  · intro j
    rw [StorageMap.keys_set, StorageMap.keys_set, Finset.mem_insert, Finset.mem_insert, h.subnets]
  · intro j slot' hslot'
    dsimp only at hslot'
    rw [StorageMap.find?_set] at hslot'
    split at hslot'
    · cases hslot'
      exact hD
    · exact h.designated j slot' hslot'
  · intro j
    dsimp only
    rw [StorageMap.find?_set, StorageMap.find?_set]
    split
    · rfl
    · exact h.uid j

/-- A subnet gives back its slot and its number. -/
theorem Allotted.removeSubnet (h : s.Allotted D) {d : SubnetData}
    (hd : s.subnetsData.find? i = some d) : (s.removeSubnet i d).Allotted D := by
  obtain ⟨slot, hslot⟩ := StorageMap.mem_keys.mp
    ((h.subnets i).mpr (StorageMap.mem_keys.mpr ⟨d, hd⟩))
  have huid : s.subnetIdFriendlyUid.find? i = some (slot - D + 1) := by
    rw [h.uid, hslot]
    rfl
  unfold Store.removeSubnet freeSlot
  rw [hslot, huid]
  refine ⟨h.slots.erase hslot, ?_, ?_, ?_, h.friendly.erase huid, ?_⟩
  · intro k
    show k ∈ s.assignedSlots.erase slot ↔ k ∈ (s.slotAssignment.remove slot).keys
    rw [Finset.mem_erase, StorageMap.keys_remove, Finset.mem_erase, h.used]
  · intro j
    show j ∈ (s.subnetSlot.remove i).keys ↔ j ∈ (s.subnetsData.remove i).keys
    rw [StorageMap.keys_remove, StorageMap.keys_remove, Finset.mem_erase, Finset.mem_erase,
      h.subnets]
  · intro j slot' hslot'
    have hold : (s.subnetSlot.remove i).find? j = some slot' := hslot'
    rw [StorageMap.find?_remove] at hold
    split at hold
    · cases hold
    · exact h.designated j slot' hold
  · intro j
    show (s.subnetIdFriendlyUid.remove i).find? j = ((s.subnetSlot.remove i).find? j).map _
    rw [StorageMap.find?_remove, StorageMap.find?_remove]
    split
    · rfl
    · exact h.uid j

/-- Whatever happens keeps the slots allotted. -/
theorem allotted_preserved (hL : L ≤ u32Max) :
    Preserved ar known covered room D L (Allotted D) where
  call hsound h hcall := by
    cases hcall with
    | other _ => exact h.of_subnets (fun _ => Iff.rfl) rfl rfl rfl rfl rfl
    | registerSubnet _ hfree hD hlt hleft =>
        exact h.registerSubnet hsound.homed hfree hD hlt hL (hleft trivial)
    -- what a subnet is like has no part in its slot
    | startSubnet hd _ _ =>
        exact (h.setSubnet hd).of_subnets (fun _ => Iff.rfl) rfl rfl rfl rfl rfl
    | setSubnet hd _ => exact h.setSubnet hd
    | unpause hd _ _ =>
        exact (h.setSubnet hd).of_subnets (fun _ => Iff.rfl) rfl rfl rfl rfl rfl
    | seat _ _ _ _ _ _ => exact h.of_subnets (fun _ => Iff.rfl) rfl rfl rfl rfl rfl
    | enqueue _ _ _ _ => exact h.of_subnets (fun _ => Iff.rfl) rfl rfl rfl rfl rfl
    | removeActive _ => exact h.setRecords (Membership.removeActive_subnetsData ..)
    | removeRegistered _ => exact h.setRecords rfl
    | updateActive _ _ => exact h.setRecords rfl
    | updateRegistered _ _ => exact h.setRecords rfl
    | removeSubnet hd => exact h.removeSubnet hd
    | addStake _ _ _ => exact h.setRecords rfl
    | removeStake clean _ =>
        cases clean with
        | none => exact h.setRecords rfl
        | some v => exact h.setRecords rfl
    | addValidator _ => exact h.of_subnets (fun _ => Iff.rfl) rfl rfl rfl rfl rfl
    | setInitial _ _ _ => exact h.of_subnets (fun _ => Iff.rfl) rfl rfl rfl rfl rfl
  submit _ h hsubmit := by
    cases hsubmit with
    | propose _ _ _ _ => exact h.of_subnets (fun _ => Iff.rfl) rfl rfl rfl rfl rfl
    | attest _ _ => exact h.of_subnets (fun _ => Iff.rfl) rfl rfl rfl rfl rfl
  tick h := h.of_subnets (fun _ => Iff.rfl) rfl rfl rfl rfl rfl
  hook _ h hstep := by
    cases hstep with
    | node _ hstep => exact h.setRecords hstep.subnetsData
    | activate _ _ _ => exact h.setRecords rfl
    | skip _ _ _ => exact h.setRecords rfl
    | removeSubnet hd => exact h.removeSubnet hd
    | weigh _ => exact h.of_subnets (fun _ => Iff.rfl) rfl rfl rfl rfl rfl

end Store

/-! ## The registration of a subnet -/

namespace Chain

variable {A : Type} [DecidableEq A] {rt : Runtime A} {c : Chain A}

/-- The check of the multiaddresses has errors of its own. -/
def MultiaddrErrors (rt : Runtime A) : Prop :=
  ∀ a e, rt.doVerifyMultiaddr a = .error e → ∃ x : Multiaddr.MultiaddrError, e = x.toError

/-- Only the search for a slot fails for the lack of one. -/
theorem registerSubnet_noAvailableSlots {owner : A} {maxCost : ℕ} {d : RegistrationSubnetData}
    (hverify : MultiaddrErrors rt) (h : c.registerSubnet rt owner maxCost d = .error .noAvailableSlots) :
    c.getAvailableSubnetSlot rt = .error .noAvailableSlots := by
  have hboot : ∀ b : List UInt8 × List UInt8, (do
      rt.doVerifyMultiaddr b.2
      ensure (validatePeerId b.1) .invalidBootnodePeerId) ≠ .error Error.noAvailableSlots := by
    intro b hb
    rcases bind_error.mp hb with hb | ⟨_, _, hb⟩
    · obtain ⟨x, hx⟩ := hverify _ _ hb
      cases x <;> cases hx
    · cases (ensure_error.mp hb).2
  have hdata : c.ensureRegistrationSubnetData rt d ≠ .error .noAvailableSlots := by
    intro hdata
    simp only [ensureRegistrationSubnetData, bind_error, ensure_error, reduceCtorEq, and_false,
      false_or, or_false, exists_false] at hdata
    obtain ⟨_, _, _, _, _, _, _, _, _, _, hloop⟩ := hdata
    obtain ⟨b, -, hb⟩ := forM_error hloop
    exact hboot b hb
  have hpay : ∀ cost, c.payRegistrationCost rt owner cost ≠ .error .noAvailableSlots := by
    intro cost hpay
    unfold payRegistrationCost at hpay
    split at hpay
    · simp only [bind_error, okOr_error, reduceCtorEq, and_false, exists_false, or_false] at hpay
    · cases hpay
  simp only [registerSubnet, State.isPaused, bind_error, ensure_error, reduceCtorEq, and_false,
    false_or, hdata, hpay, exists_false, or_false] at h
  obtain ⟨_, _, _, _, _, _, _, _, _, _, hslot⟩ := h
  exact hslot

omit [DecidableEq A] in
/-- Slots are found while there are any. -/
theorem getAvailableSubnetSlot_error (hD : rt.designatedEpochSlots < rt.epochLength)
    (hL : rt.epochLength ≤ u32Max) (hsub : ∀ slot ∈ c.registry.assignedSlots,
      rt.designatedEpochSlots ≤ slot ∧ slot < rt.epochLength)
    (h : c.getAvailableSubnetSlot rt = .error .noAvailableSlots) :
    c.registry.assignedSlots = Finset.Ico rt.designatedEpochSlots rt.epochLength := by
  have hwrap : wrapSub 32 rt.epochLength rt.designatedEpochSlots =
      rt.epochLength - rt.designatedEpochSlots := by
    unfold wrapSub
    simp only [uMax] at hL
    omega
  have hsubset : c.registry.assignedSlots ⊆ Finset.Ico rt.designatedEpochSlots rt.epochLength := by
    intro slot hslot
    exact Finset.mem_Ico.mpr (hsub slot hslot)
  simp only [getAvailableSubnetSlot, bind_error, ensure_error, okOr_error, and_true] at h
  rcases h with hfull | ⟨_, _, hnone⟩
  · -- as many slots are in use as there are
    refine Finset.eq_of_subset_of_card_le hsubset ?_
    rw [hwrap] at hfull
    rw [Nat.card_Ico]
    exact not_lt.mp (of_decide_eq_false hfull)
  · -- no slot passes the search
    refine Finset.Subset.antisymm hsubset ?_
    intro slot hslot
    rw [Finset.mem_Ico] at hslot
    have hmem : slot ∈ List.range' rt.designatedEpochSlots
        (rt.epochLength - rt.designatedEpochSlots) := by
      rw [List.mem_range'_1]
      omega
    have hused := List.find?_eq_none.mp hnone slot hmem
    simpa using hused

omit [DecidableEq A] in
/-- A new chain has no slots in use. -/
theorem genesis_allotted (rt : Runtime A) (balances : StorageMap A ℕ) :
    (Chain.genesis rt balances).store.Allotted rt.designatedEpochSlots := by
  refine ⟨.empty, fun slot => ?_, fun i => Iff.rfl, ?_, .empty, fun i => rfl⟩
  · exact ⟨fun h => absurd h (Finset.notMem_empty slot), fun h => absurd h (Finset.notMem_empty slot)⟩
  · intro i slot hslot
    cases hslot

end Chain

/-! ## Runs -/

/-- Along every run the slots are allotted to the subnets: `SubnetSlot` and `SlotAssignment`
are inverse to each other, `AssignedSlots` are the slots they name, who has a slot is who
exists, and all slots are in the epoch, after the designated ones. The short ids are those of
the slots, and their two maps are inverse to each other as well. A registration fails for the
lack of a slot only when every slot is in use. -/
theorem slots_are_allotted {A : Type} [DecidableEq A] (rt : Runtime A) (balances : StorageMap A ℕ)
    (ops : List (PalletOp A)) (hD : rt.designatedEpochSlots < rt.epochLength)
    (hL : rt.epochLength ≤ u32Max) (hverify : Chain.MultiaddrErrors rt)
    (hleft : Along (PalletOp.step rt) (fun c op => op.IdsLeft c) (.genesis rt balances) ops) :
    let c := run (PalletOp.step rt) (.genesis rt balances) ops
    (∀ s slot, c.registry.subnetSlot.find? s = some slot ↔
      c.registry.slotAssignment.find? slot = some s) ∧
    (∀ slot, slot ∈ c.registry.assignedSlots ↔ ∃ s, c.registry.subnetSlot.find? s = some slot) ∧
    (∀ s, s ∈ c.registry.subnetSlot.keys ↔ s ∈ c.subnets.subnetsData.keys) ∧
    (∀ s slot, c.registry.subnetSlot.find? s = some slot →
      rt.designatedEpochSlots ≤ slot ∧ slot < rt.epochLength) ∧
    (∀ s uid, c.registry.subnetIdFriendlyUid.find? s = some uid ↔
      c.registry.friendlyUidSubnetId.find? uid = some s) ∧
    (∀ s, c.registry.subnetIdFriendlyUid.find? s =
      (c.registry.subnetSlot.find? s).map fun slot => slot - rt.designatedEpochSlots + 1) ∧
    ∀ owner maxCost d, c.registerSubnet rt owner maxCost d = .error .noAvailableSlots →
      c.registry.assignedSlots = Finset.Ico rt.designatedEpochSlots rt.epochLength := by
  intro c
  have hrun : c.store.Sound rt.epochLength ∧ c.store.Allotted rt.designatedEpochSlots :=
    PalletOp.run_preserved (Store.allotted_preserved hL) hleft
      ⟨Chain.genesis_sound rt balances, Chain.genesis_allotted rt balances⟩
  obtain ⟨hsound, h⟩ := hrun
  have hrange : ∀ s slot, c.registry.subnetSlot.find? s = some slot →
      rt.designatedEpochSlots ≤ slot ∧ slot < rt.epochLength := by
    intro s slot hslot
    exact ⟨h.designated s slot hslot, (hsound.inv.slot_ok s slot hslot).1⟩
  -- a slot is in use exactly if it leads to a subnet
  have hused : ∀ slot, slot ∈ c.registry.assignedSlots ↔
      ∃ s, c.registry.subnetSlot.find? s = some slot := by
    intro slot
    rw [show slot ∈ c.registry.assignedSlots ↔ slot ∈ c.registry.slotAssignment.keys from
      h.used slot, StorageMap.mem_keys]
    exact exists_congr fun s => (h.slots s slot).symm
  refine ⟨h.slots, hused, h.subnets, hrange, h.friendly, h.uid, ?_⟩
  intro owner maxCost d herror
  refine Chain.getAvailableSubnetSlot_error hD hL ?_
    (Chain.registerSubnet_noAvailableSlots hverify herror)
  intro slot hslot
  obtain ⟨s, hs⟩ := (hused slot).mp hslot
  exact hrange s slot hs

/-- The subnet of the run has the first slot after the designated ones, and the number
`1`. -/
theorem slots_are_allotted_demo :
    let c := demoPalletAfter demoPallet
    c.registry.subnetSlot.find? 128001 = some 3 ∧
    c.registry.subnetIdFriendlyUid.find? 128001 = some 1 ∧
      ∀ slot, slot ∈ c.registry.assignedSlots ↔
        ∃ s, c.registry.subnetSlot.find? s = some slot := by
  have hverify : Chain.MultiaddrErrors Runtime.runtime := by
    intro a e he
    cases he
  have hleft : Along (PalletOp.step Runtime.runtime) (fun c op => op.IdsLeft c)
      (.genesis Runtime.runtime demoBalances) demoPallet := by decide +kernel
  have h := slots_are_allotted Runtime.runtime demoBalances demoPallet (by decide +kernel)
    (by decide +kernel) hverify hleft
  exact ⟨by decide +kernel, by decide +kernel, h.2.1⟩

end Hypertensor
