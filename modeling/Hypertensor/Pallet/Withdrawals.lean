import Mathlib
import Hypertensor.Pallet.Phases
import Hypertensor.Pallet.Locks

/-!
# Hypertensor.Pallet.Withdrawals — no stake without an owner

Stake outlives its node, and its subnet: what was staked stays, and rewards of an epoch
that was submitted before arrive later. `Backed` is that whoever has stake has been given
a validator once, and that this validator has a coldkey; the note is never taken back and
never written over, since neither the ids of subnets nor those of nodes are given out a
second time, although the counter of the latter goes with the subnet.

* `backed_preserved`: whatever happens keeps this.
* `stake_is_withdrawable`: so all stake can be withdrawn by the one who owns it.
-/

namespace Hypertensor

open Base Relation

variable {ar : Arith} {t : Terms} {known covered room : Prop} {D L : ℕ} {target : Option ℕ}

namespace Store

variable {s s' : Store} {i id : ℕ} {node : SubnetNode}

/-! ## Owners -/

/-- Whoever has stake, or is to be rewarded, has a validator with a coldkey. -/
structure Backed (s : Store) : Prop where
  stake : ∀ i id, 0 < s.nodeSubnetStake.val (id, i) → (i, id) ∈ s.subnetNodeValidatorId.keys
  coldkey : ∀ p v, s.subnetNodeValidatorId.find? p = some v → v ∈ s.coldkeyed
  issued : ∀ i id, (i, id) ∈ s.subnetNodeValidatorId.keys → i ≤ s.totalSubnetUids ∧
    (s.subnetsData.find? i ≠ none → id ≤ s.totalSubnetNodeUids.val i)
  credited : s.Credited

/-- The notes of owners and the ids stay, and nobody has stake who had none. -/
theorem Backed.of_eq (h : s.Backed)
    (hstake : ∀ i id, 0 < s'.nodeSubnetStake.val (id, i) →
      0 < s.nodeSubnetStake.val (id, i) ∨ (i, id) ∈ s.subnetNodeValidatorId.keys)
    (hvalidator : s'.subnetNodeValidatorId = s.subnetNodeValidatorId)
    (hcoldkey : s.coldkeyed ⊆ s'.coldkeyed)
    (hsubnets : ∀ i, s'.subnetsData.find? i ≠ none → s.subnetsData.find? i ≠ none)
    (huids : s'.totalSubnetUids = s.totalSubnetUids)
    (hnodes : s'.totalSubnetNodeUids = s.totalSubnetNodeUids)
    (hsubmission : s'.subnetConsensusSubmission = s.subnetConsensusSubmission) : s'.Backed where
  stake i id hpos := by
    rw [hvalidator]
    rcases hstake i id hpos with hold | hkey
    · exact h.stake i id hold
    · exact hkey
  coldkey p v hv := hcoldkey (h.coldkey p v (hvalidator ▸ hv))
  issued i id hkey := by
    obtain ⟨hle, hid⟩ := h.issued i id (hvalidator ▸ hkey)
    rw [huids, hnodes]
    exact ⟨hle, fun hi => hid (hsubnets i hi)⟩
  credited i e d hd n hn := by
    rw [hsubmission] at hd
    rw [hvalidator]
    exact h.credited i e d hd n hn

theorem Backed.setRecords (h : s.Backed) {r : Records}
    (hstake : ∀ i id, 0 < r.nodeSubnetStake.val (id, i) →
      0 < s.nodeSubnetStake.val (id, i) ∨ (i, id) ∈ s.subnetNodeValidatorId.keys)
    (hvalidator : r.subnetNodeValidatorId = s.subnetNodeValidatorId)
    (hcoldkey : r.coldkeyed = s.coldkeyed) (hsubnets : r.subnetsData = s.subnetsData) :
    (s.setRecords r).Backed :=
  h.of_eq hstake hvalidator hcoldkey.symm.subset (fun _ hi => hsubnets ▸ hi) rfl rfl
    rfl

/-! ## What happens to it -/

/-- Who has stake after a credit. -/
theorem stake_credit {r : Records} {x j k : ℕ}
    (hpos : 0 < (r.credit i id ar x).nodeSubnetStake.val (k, j)) :
    0 < r.nodeSubnetStake.val (k, j) ∨ (j, k) = (i, id) := by
  have hset : 0 < (r.nodeSubnetStake.set (id, i) _).val (k, j) := hpos
  rw [StorageMap.val_set] at hset
  split at hset
  · next heq =>
      cases heq
      exact .inr rfl
  · exact .inl hset

/-- Nobody has more after a withdrawal. -/
theorem stake_debit {r : Records} {x j k : ℕ}
    (hpos : 0 < (r.debit i id x).nodeSubnetStake.val (k, j)) :
    0 < r.nodeSubnetStake.val (k, j) := by
  have hset : 0 < (r.nodeSubnetStake.set (id, i) _).val (k, j) := hpos
  rw [StorageMap.val_set] at hset
  split at hset
  · next heq =>
      cases heq
      omega
  · exact hset

/-- A node registers with a validator that has a coldkey. -/
theorem Backed.enter (h : s.Backed) {d : SubnetData} {x : ℕ} {place : Records → Records}
    {counts : StorageMap ℕ (StorageMap ℕ ℕ)} (hhomed : s.lifecycle.Homed)
    (hadmits : s.Admits True room i d node)
    (hstake : (place (s.toRecords.enter i ar node x)).nodeSubnetStake =
      (s.toRecords.credit i node.id ar x).nodeSubnetStake)
    (hvalidator : (place (s.toRecords.enter i ar node x)).subnetNodeValidatorId =
      s.subnetNodeValidatorId.set (i, node.id) node.validatorId)
    (hcoldkey : (place (s.toRecords.enter i ar node x)).coldkeyed = s.coldkeyed)
    (hsubnets : (place (s.toRecords.enter i ar node x)).subnetsData = s.subnetsData) :
    (s.enter i ar node x place counts).Backed := by
  have hleft := hadmits.left trivial
  have hid : node.id = s.totalSubnetNodeUids.val i + 1 := by
    rw [hadmits.id]
    unfold nextNodeId
    omega
  -- the new node is the only new key
  have hkeys : ∀ p, p ∈ (s.enter i ar node x place counts).subnetNodeValidatorId.keys ↔
      p = (i, node.id) ∨ p ∈ s.subnetNodeValidatorId.keys := by
    intro p
    show p ∈ (place (s.toRecords.enter i ar node x)).subnetNodeValidatorId.keys ↔ _
    rw [hvalidator, StorageMap.keys_set, Finset.mem_insert]
  constructor
  · intro j k hpos
    rw [hkeys]
    have hplaced : 0 < (place (s.toRecords.enter i ar node x)).nodeSubnetStake.val (k, j) := hpos
    rw [hstake] at hplaced
    -- stake is credited to the new node alone
    rcases stake_credit hplaced with hold | hnew
    · exact .inr (h.stake j k hold)
    · exact .inl hnew
  · intro p v hv
    show v ∈ (place (s.toRecords.enter i ar node x)).coldkeyed
    have hset : (place (s.toRecords.enter i ar node x)).subnetNodeValidatorId.find? p = some v := hv
    rw [hvalidator, StorageMap.find?_set] at hset
    rw [hcoldkey]
    split at hset
    · cases hset
      exact hadmits.coldkey
    · exact h.coldkey p v hset
  · intro j k hkey
    show j ≤ s.totalSubnetUids ∧ (_ → k ≤ (s.totalSubnetNodeUids.set i node.id).val j)
    rw [StorageMap.val_set]
    rcases (hkeys (j, k)).mp hkey with hnew | hold
    · cases hnew
      have hissued := hhomed.issued i (hadmits.subnet ▸ Option.some_ne_none d)
      exact ⟨hissued.2, fun _ => (if_pos rfl).ge⟩
    · obtain ⟨hle, hk⟩ := h.issued j k hold
      refine ⟨hle, fun hj => ?_⟩
      have hj' : (place (s.toRecords.enter i ar node x)).subnetsData.find? j ≠ none := hj
      rw [hsubnets] at hj'
      have hk := hk hj'
      split
      · next heq =>
          rw [heq] at hk
          omega
      · exact hk
  · intro j e d' hd' n hn
    rw [hkeys]
    exact .inr (h.credited j e d' hd' n hn)

theorem Backed.registerSubnet (h : s.Backed) (hleft : s.totalSubnetUids < u32Max)
    {slot epoch : ℕ} {d : SubnetData} {initial : StorageMap ℕ ℕ} :
    (s.registerSubnet D slot epoch d initial).Backed := by
  have hid : s.nextSubnetId = s.totalSubnetUids + 1 := by
    unfold nextSubnetId
    omega
  refine ⟨h.stake, h.coldkey, ?_, h.credited⟩
  intro j k hkey
  obtain ⟨hle, hk⟩ := h.issued j k hkey
  show j ≤ s.nextSubnetId ∧ ((s.subnetsData.set s.nextSubnetId d).find? j ≠ none → _)
  refine ⟨by omega, fun hj => ?_⟩
  rw [StorageMap.find?_set_ne _ _ (by omega)] at hj
  exact hk hj

/-- The counter of node ids goes with the subnet, whose id is not given out again. -/
theorem Backed.removeSubnet (h : s.Backed) (d : SubnetData) : (s.removeSubnet i d).Backed := by
  have hkeep : (s.removeSubnet i d).totalSubnetUids = s.totalSubnetUids ∧
      (s.removeSubnet i d).subnetConsensusSubmission = s.subnetConsensusSubmission := by
    unfold Store.removeSubnet freeSlot
    cases s.subnetSlot.find? i <;> exact ⟨rfl, rfl⟩
  refine ⟨h.stake, h.coldkey, ?_, ?_⟩
  · intro j k hkey
    obtain ⟨hle, hk⟩ := h.issued j k hkey
    rw [hkeep.1]
    refine ⟨hle, fun hj => ?_⟩
    have hremove : (s.subnetsData.remove i).find? j ≠ none := hj
    rw [StorageMap.find?_remove] at hremove
    show k ≤ (s.totalSubnetNodeUids.remove i).val j
    split at hremove
    · exact absurd rfl hremove
    · next hne =>
        rw [StorageMap.val_remove_ne _ hne]
        exact hk hremove
  · intro j e d' hd' n hn
    rw [hkeep.2] at hd'
    exact h.credited j e d' hd' n hn

/-- A step of the reward code. -/
theorem Backed.step (h : s.Backed) {r : Records}
    (hstep : s.toRecords.Step ar ⟨True, True, covered⟩ i r) : (s.setRecords r).Backed := by
  have hsubnets := hstep.subnetsData
  cases hstep with
  | credit x hknown =>
      refine h.setRecords (fun j k hpos => ?_) rfl rfl rfl
      rcases stake_credit hpos with hold | heq
      · exact .inl hold
      · exact .inr (heq ▸ hknown trivial)
  | slash x _ => exact h.setRecords (fun _ _ hpos => .inl (stake_debit hpos)) rfl rfl rfl
  | removeActive _ => exact h.setRecords (fun _ _ hpos => .inl hpos) rfl rfl hsubnets
  | _ => exact h.setRecords (fun _ _ hpos => .inl hpos) rfl rfl rfl

/-- A submission names active nodes, and these have an owner. -/
theorem Backed.propose (h : s.Backed) (hsound : s.Sound L) (hheld : s.Held) {d : ConsensusData}
    {e : ℕ} {p : SubnetNode → Bool}
    (hnodes : d.subnetNodes = (s.subnetNodesData.prefixValues i).filter p) :
    (s.setSubmission i e d).Backed := by
  refine ⟨h.stake, h.coldkey, h.issued, ?_⟩
  intro j e' d' hd' n hn
  have hset : (s.subnetConsensusSubmission.set (i, e) d).find? (j, e') = some d' := hd'
  rw [StorageMap.find?_set] at hset
  split at hset
  · next heq =>
      cases heq
      cases hset
      rw [hnodes] at hn
      obtain ⟨k, hk⟩ := StorageMap.mem_prefixValues.mp (List.mem_of_mem_filter hn)
      have hid := ((hsound.inv.roster i).active k n hk).1
      rw [hid]
      exact StorageMap.mem_keys.mpr ⟨_, hheld.owner i k n (.inl hk)⟩
  · exact h.credited j e' d' hset n hn

/-- Every call. -/
theorem Backed.call (h : s.Backed) (hsound : s.Sound L) (hcall : Call ar True room D L s s') :
    s'.Backed := by
  -- stake is added only to a node that has been noted, and noted nodes are not forgotten
  cases hcall with
  | other _ => exact ⟨h.stake, h.coldkey, h.issued, h.credited⟩
  | registerSubnet _ _ _ _ hleft => exact h.registerSubnet (hleft trivial)
  | startSubnet hd _ _ =>
      exact h.of_eq (fun _ _ hpos => .inl hpos) rfl (Finset.Subset.refl _)
        (fun j => (Lifecycle.subnet_set (l := s.lifecycle) hd j).mp) rfl rfl rfl
  | setSubnet hd _ =>
      exact h.of_eq (fun _ _ hpos => .inl hpos) rfl (Finset.Subset.refl _)
        (fun j => (Lifecycle.subnet_set (l := s.lifecycle) hd j).mp) rfl rfl rfl
  | unpause hd _ _ =>
      exact h.of_eq (fun _ _ hpos => .inl hpos) rfl (Finset.Subset.refl _)
        (fun j => (Lifecycle.subnet_set (l := s.lifecycle) hd j).mp) rfl rfl rfl
  | seat x count hadmits _ _ _ => exact h.enter hsound.homed hadmits rfl rfl rfl rfl
  | enqueue x hadmits _ _ => exact h.enter hsound.homed hadmits rfl rfl rfl rfl
  | removeActive _ =>
      exact h.setRecords (fun _ _ hpos => .inl hpos) rfl rfl
        (Membership.removeActive_subnetsData ..)
  | removeRegistered _ => exact h.setRecords (fun _ _ hpos => .inl hpos) rfl rfl rfl
  | updateActive _ _ => exact h.setRecords (fun _ _ hpos => .inl hpos) rfl rfl rfl
  | updateRegistered _ _ => exact h.setRecords (fun _ _ hpos => .inl hpos) rfl rfl rfl
  | removeSubnet _ => exact h.removeSubnet _
  | addStake x hv _ =>
      refine h.setRecords (fun j k hpos => ?_) rfl rfl rfl
      rcases stake_credit hpos with hold | heq
      · exact .inl hold
      · exact .inr (heq ▸ StorageMap.mem_keys.mpr ⟨_, hv⟩)
  | removeStake clean _ =>
      cases clean with
      | none => exact h.setRecords (fun _ _ hpos => .inl (stake_debit hpos)) rfl rfl rfl
      | some v => exact h.setRecords (fun _ _ hpos => .inl (stake_debit hpos)) rfl rfl rfl
  | addValidator v =>
      exact h.of_eq (fun _ _ hpos => .inl hpos) rfl (Finset.subset_insert v _) (fun _ hj => hj) rfl
        rfl rfl
  | setInitial _ _ _ => exact ⟨h.stake, h.coldkey, h.issued, h.credited⟩

theorem Backed.submit (h : s.Backed) (hsound : s.Sound L) (hheld : s.Held)
    (hsubmit : Submit L s s') : s'.Backed := by
  cases hsubmit with
  | propose _ _ _ hnodes =>
      obtain ⟨p, hp⟩ := hnodes
      exact h.propose hsound hheld hp
  | @attest i e d d' hd hnodes =>
      refine ⟨h.stake, h.coldkey, h.issued, ?_⟩
      intro j e' d₁ hd₁ n hn
      have hset : (s.subnetConsensusSubmission.set (i, e) d').find? (j, e') = some d₁ := hd₁
      rw [StorageMap.find?_set] at hset
      split at hset
      · next heq =>
          cases heq
          cases hset
          rw [hnodes] at hn
          exact h.credited i e d hd n hn
      · exact h.credited j e' d₁ hset n hn

/-- A step of the hook. -/
theorem Backed.hook (h : s.Backed) (hstep : Step ar ⟨True, True, covered⟩ L target s s') :
    s'.Backed := by
  cases hstep with
  | node _ hstep => exact h.step hstep
  | activate _ _ _ => exact h.setRecords (fun _ _ hpos => .inl hpos) rfl rfl rfl
  | skip _ _ _ => exact h.setRecords (fun _ _ hpos => .inl hpos) rfl rfl rfl
  | removeSubnet _ => exact h.removeSubnet _
  | weigh _ => exact ⟨h.stake, h.coldkey, h.issued, h.credited⟩

/-- Whatever happens, stake has an owner. -/
theorem backed_preserved :
    Preserved ar True covered room D L fun s => s.Held ∧ s.Backed := by
  have hheld : Preserved ar True covered room D L Held := held_preserved
  constructor
  · intro s s' hsound hs hcall
    exact ⟨hheld.call hsound hs.1 hcall, hs.2.call hsound hcall⟩
  · intro s s' hsound hs hsubmit
    exact ⟨hheld.submit hsound hs.1 hsubmit, hs.2.submit hsound hs.1 hsubmit⟩
  · intro s hs
    exact ⟨hheld.tick hs.1, ⟨hs.2.stake, hs.2.coldkey, hs.2.issued, hs.2.credited⟩⟩
  · intro target s s' hsound hs hstep
    exact ⟨hheld.hook hsound hs.1 hstep, hs.2.hook hstep⟩

/-! ## Nothing is given out twice -/

/-- Whoever registers gets an id above all that were given out in the subnet. -/
theorem Admits.lt {d : SubnetData} (h : s.Admits True room i d node) :
    s.totalSubnetNodeUids.val i < node.id := by
  have hleft := h.left trivial
  rw [h.id]
  unfold nextNodeId
  omega

/-- A call notes the validator of a new node, and changes no other note. -/
theorem Call.validatorId (h : Call ar True room D L s s') :
    s'.subnetNodeValidatorId = s.subnetNodeValidatorId ∨
    ∃ i id v, s.subnetsData.find? i ≠ none ∧ s.totalSubnetNodeUids.val i < id ∧
      s'.subnetNodeValidatorId = s.subnetNodeValidatorId.set (i, id) v := by
  cases h with
  | @seat i d node x count hadmits _ _ _ =>
      exact .inr ⟨i, node.id, node.validatorId, hadmits.subnet ▸ Option.some_ne_none d, hadmits.lt,
        rfl⟩
  | @enqueue i d node x hadmits _ _ =>
      exact .inr ⟨i, node.id, node.validatorId, hadmits.subnet ▸ Option.some_ne_none d, hadmits.lt,
        rfl⟩
  | removeStake clean _ =>
      cases clean with
      | none => exact .inl rfl
      | some v => exact .inl rfl
  | _ => exact .inl rfl

/-- What is noted of a node stays noted. -/
theorem noted_preserved (p : ℕ × ℕ) (v : ℕ) :
    Preserved ar True covered room D L fun s =>
      (s.Held ∧ s.Backed) ∧ s.subnetNodeValidatorId.find? p = some v := by
  have hbacked : Preserved ar True covered room D L fun s => s.Held ∧ s.Backed := backed_preserved
  constructor
  · intro s s' hsound hs hcall
    refine ⟨hbacked.call hsound hs.1 hcall, ?_⟩
    rcases hcall.validatorId with hsame | ⟨i, id, w, hi, hlt, hset⟩
    · rw [hsame]
      exact hs.2
    · rw [hset, StorageMap.find?_set, if_neg ?_]
      · exact hs.2
      · -- a new node has an id that nobody has had
        rintro rfl
        have hle := (hs.1.2.issued i id (StorageMap.mem_keys.mpr ⟨v, hs.2⟩)).2 hi
        omega
  · intro s s' hsound hs hsubmit
    refine ⟨hbacked.submit hsound hs.1 hsubmit, ?_⟩
    cases hsubmit with
    | propose _ _ _ _ => exact hs.2
    | attest _ _ => exact hs.2
  · intro s hs
    exact ⟨hbacked.tick hs.1, hs.2⟩
  · intro target s s' hsound hs hstep
    refine ⟨hbacked.hook hsound hs.1 hstep, ?_⟩
    cases hstep with
    | @node i r _ hstep =>
        show r.subnetNodeValidatorId.find? p = some v
        rw [hstep.subnetNodeValidatorId]
        exact hs.2
    | activate _ _ _ => exact hs.2
    | skip _ _ _ => exact hs.2
    | removeSubnet _ => exact hs.2
    | weigh _ => exact hs.2

/-- Who enters a subnet in a call has a new id. -/
theorem Call.member (hsound : s.Sound L) (h : Call ar True room D L s s') {j k : ℕ}
    (hm : s'.Member j k) :
    s.Member j k ∨ s.subnetsData.find? j ≠ none ∧ s.totalSubnetNodeUids.val j < k := by
  -- only a registration makes a member, and its id is above those given out
  cases h with
  | @unpause i delta d d' _ _ _ =>
      have hiff : ((s.setSubnet i d').delayRegistered delta).Member j k ↔ s.Member j k :=
        Membership.member_mapRegistered (f := fun n => n.delay delta) rfl rfl
      exact .inl (hiff.mp hm)
  | @seat i d node x count hadmits _ _ _ =>
      rcases Membership.member_seat.mp hm with ⟨rfl, rfl⟩ | hold
      · exact .inr ⟨hadmits.subnet ▸ Option.some_ne_none d, hadmits.lt⟩
      · exact .inl hold
  | @enqueue i d node x hadmits _ _ =>
      rcases Membership.member_enqueue.mp hm with ⟨rfl, rfl⟩ | hold
      · exact .inr ⟨hadmits.subnet ▸ Option.some_ne_none d, hadmits.lt⟩
      · exact .inl hold
  | @removeActive i id node hnode =>
      exact .inl ((Membership.member_removeActive (hsound.inv.roster i) hnode).mp hm).1
  | @removeRegistered i id node hnode =>
      exact .inl ((Membership.member_removeRegistered (hsound.inv.roster i) hnode).mp hm).1
  | updateActive hnode _ => exact .inl ((Membership.member_set hnode _).mp hm)
  | @updateRegistered i id node u hnode _ =>
      have hiff : (s.toRecords.updateRegistered i id node u).Member j k ↔ s.Member j k :=
        Membership.member_updateRegistered hnode rfl rfl
      exact .inl (hiff.mp hm)
  | removeSubnet _ => exact .inl (Membership.member_clear.mp hm).1
  | removeStake clean _ =>
      cases clean with
      | none => exact .inl hm
      | some v => exact .inl hm
  | _ => exact .inl hm

/-- Nobody enters a subnet in a step of the hook. -/
theorem Step.member (hsound : s.Sound L) (h : Step ar t L target s s') {j k : ℕ}
    (hm : s'.Member j k) : s.Member j k := by
  cases h with
  | @node i r _ hstep =>
      have hmoves := hstep.membership
      have hrm : r.Member j k := hm
      generalize r.toMembership = m at hmoves hrm
      induction hmoves with
      | refl => exact hrm
      | tail _ hone ih => exact ih (hone.member_sub hrm)
  | @activate i node rest _ hqueue _ =>
      exact (Membership.member_activate (hsound.inv.roster i) hqueue).mp hm
  | skip _ _ _ => exact hm
  | removeSubnet _ => exact (Membership.member_clear.mp hm).1
  | weigh _ => exact hm

/-- Who enters a subnet has never been noted. -/
theorem Change.member (hsound : s.Sound L) (hbacked : s.Backed)
    (h : Change ar ⟨True, known, covered⟩ room D L s s') {j k : ℕ} (hout : ¬s.Member j k)
    (hm : s'.Member j k) : (j, k) ∉ s.subnetNodeValidatorId.keys := by
  cases h with
  | call hcall =>
      rcases hcall.member hsound hm with hold | ⟨hj, hlt⟩
      · exact absurd hold hout
      · intro hkey
        have hle := (hbacked.issued j k hkey).2 hj
        omega
  | submit hsubmit => cases hsubmit <;> exact absurd hm hout
  | block _ hruns =>
      refine absurd ?_ hout
      refine (hsound.block_induction (Q := fun u => u.Member j k → s.Member j k) id ?_ hruns).2 hm
      intro u u' hu hback hstep hmember
      exact hback (hstep.member hu hmember)

end Store

/-! ## Runs -/

section Runs

variable {A : Type} [DecidableEq A] {rt : Runtime A}

/-- What holds along every run, if it makes the submissions name nodes with an owner. -/
theorem PalletOp.run_known {P : Store → Prop}
    (hp : Store.Preserved u128 True False False rt.designatedEpochSlots rt.epochLength P)
    (hcredited : ∀ s, P s → s.Credited) {c : Chain A} {ops : List (PalletOp A)}
    (hleft : Along (PalletOp.step rt) (fun c op => op.IdsLeft c) c ops)
    (h : c.store.Sound rt.epochLength ∧ P c.store) :
    (run (PalletOp.step rt) c ops).store.Sound rt.epochLength ∧
      P (run (PalletOp.step rt) c ops).store :=
  run_invariant (I := fun c : Chain A => c.store.Sound rt.epochLength ∧ P c.store)
    (fun c op hop h => op.stepIn_preserved hp hop False.elim (fun _ => hcredited c.store h.2)
      False.elim h) hleft h

omit [DecidableEq A] in
theorem Chain.genesis_backed (rt : Runtime A) (balances : StorageMap A ℕ) :
    (Chain.genesis rt balances).store.Held ∧ (Chain.genesis rt balances).store.Backed := by
  refine ⟨Chain.genesis_held rt balances, ?_⟩
  constructor
  · intro i id hpos
    exact absurd hpos (lt_irrefl 0)
  · intro p v hv
    cases hv
  · intro i id hkey
    exact absurd hkey (Finset.notMem_empty _)
  · intro i e d hd
    cases hd

/-- Along every run, whoever has stake in a subnet, be it removed or not, has a validator and
this has a coldkey, and if the node is neither active nor queued, all of it can be withdrawn with
that coldkey, the rate limit and the unbonding ledger permitting. Nobody who enters a subnet was
in it before, and no subnet is registered under an id that was used before. -/
theorem stake_is_withdrawable (rt : Runtime A) (balances : StorageMap A ℕ)
    (ops : List (PalletOp A))
    (hleft : Along (PalletOp.step rt) (fun c op => op.IdsLeft c) (.genesis rt balances) ops) :
    let after := fun ls => run (PalletOp.step rt) (Chain.genesis rt balances) ls
    let c := after ops
    (∀ s n, 0 < c.stake.nodeSubnetStake.val (n, s) →
      ∃ v coldkey, c.nodes.subnetNodeValidatorId.find? (s, n) = some v ∧
        c.validators.validatorColdkey.find? v = some coldkey ∧
        (¬c.IsNode s n → c.toState.exceedsTxRateLimit (c.lastTxBlock.val coldkey) c.block = false →
          (∃ s₁, c.toState.prepareUnbondingLedgerEntry coldkey
            (wrapMul 32 c.params.stakeCooldownEpochs rt.epochLength) c.block = .ok s₁) →
          ∃ s', c.toState.doRemoveNodeStake rt.toConfig u128 coldkey s n
              (c.stake.nodeSubnetStake.val (n, s)) = .ok s' ∧
            s'.stake.nodeSubnetStake.val (n, s) = 0)) ∧
    (∀ s n v past later, ops = past ++ later →
      (after past).nodes.subnetNodeValidatorId.find? (s, n) = some v →
      c.nodes.subnetNodeValidatorId.find? (s, n) = some v) ∧
    (∀ (op : PalletOp A) s n, op.IdsLeft c → ¬c.IsNode s n → (op.step rt c).IsNode s n →
      ∀ past later, ops = past ++ later → ¬(after past).IsNode s n) ∧
    ∀ (op : PalletOp A) s, op.IdsLeft c → c.phase s = none → (op.step rt c).phase s ≠ none →
      ∀ past later, ops = past ++ later → (after past).phase s = none := by
  intro after c
  have hrun : ∀ ls, Along (PalletOp.step rt) (fun c op => op.IdsLeft c) (.genesis rt balances) ls →
      (after ls).store.Sound rt.epochLength ∧ (after ls).store.Held ∧ (after ls).store.Backed := by
    intro ls hls
    exact PalletOp.run_known Store.backed_preserved (fun _ h => h.2.credited) hls
      ⟨Chain.genesis_sound rt balances, Chain.genesis_backed rt balances⟩
  obtain ⟨hsound, hheld, h⟩ := hrun ops hleft
  have hnoted : ∀ s n v past later, ops = past ++ later →
      (after past).nodes.subnetNodeValidatorId.find? (s, n) = some v →
      c.nodes.subnetNodeValidatorId.find? (s, n) = some v := by
    rintro s n v past later rfl hv
    rw [along_append] at hleft
    obtain ⟨hsound₁, hbacked₁⟩ := hrun past hleft.1
    have hend := PalletOp.run_known (Store.noted_preserved (s, n) v) (fun _ h => h.1.2.credited)
      hleft.2 ⟨hsound₁, hbacked₁, hv⟩
    rw [← run_append] at hend
    exact hend.2.2
  refine ⟨?_, hnoted, ?_, ?_⟩
  · intro s n hpos
    obtain ⟨v, hv⟩ := StorageMap.mem_keys.mp (h.stake s n hpos)
    obtain ⟨coldkey, hcoldkey⟩ := StorageMap.mem_keys.mp (h.coldkey (s, n) v hv)
    refine ⟨v, coldkey, hv, hcoldkey, ?_⟩
    intro hnode hrate hledger
    refine State.doRemoveNodeStake_all hv hcoldkey ?_ hpos hrate hledger
    intro hreputed
    exact hnode (Chain.isNode_iff.mpr ((hheld.reputed s n).mp hreputed))
  · rintro op s n hop hout hin past later rfl hbefore
    obtain ⟨-, hheld₁, -⟩ := hrun past (along_append.mp hleft).1
    -- whoever was in the subnet has been noted ever since
    have hkey : ∃ v, (after past).nodes.subnetNodeValidatorId.find? (s, n) = some v := by
      rcases hbefore with hactive | hreg
      · obtain ⟨node, hnode⟩ := StorageMap.mem_keys.mp hactive
        exact ⟨_, hheld₁.owner s n node (.inl hnode)⟩
      · obtain ⟨node, hnode⟩ := StorageMap.mem_keys.mp hreg
        exact ⟨_, hheld₁.owner s n node (.inr (.inl hnode))⟩
    obtain ⟨v, hv⟩ := hkey
    have hnew := (PalletOp.step_change hop hsound).member hsound h (mt Chain.isNode_iff.mpr hout)
      (Chain.isNode_iff.mp hin)
    exact hnew (StorageMap.mem_keys.mpr ⟨v, hnoted s n v past later rfl hv⟩)
  · rintro op s hop hnone hsome past later rfl
    by_contra hbefore
    rw [along_append] at hleft
    obtain ⟨hsound₁, -, -⟩ := hrun past hleft.1
    have hissued : s ≤ (after past).store.totalSubnetUids :=
      (hsound₁.homed.issued s (mt Records.phase_eq_none.mpr hbefore)).2
    have hlater := PalletOp.run_preserved (Store.issued_preserved s) hleft.2 ⟨hsound₁, hissued⟩
    rw [← run_append] at hlater
    have hgone : Store.Preserved u128 False False False rt.designatedEpochSlots rt.epochLength
        fun u => u.Gone s := Store.gone_preserved s
    exact hsome (hgone.change hsound ⟨hlater.2, hnone⟩ (PalletOp.step_change hop hsound)).2.2

/-- After the first node of the run has left, its stake is still there and its owner can
withdraw all of it. -/
theorem stake_is_withdrawable_demo :
    let c := demoPalletAfter demoLeaves
    0 < c.stake.nodeSubnetStake.val (1, 128001) ∧ ¬c.IsNode 128001 1 ∧
      ∃ v coldkey, c.nodes.subnetNodeValidatorId.find? (128001, 1) = some v ∧
        c.validators.validatorColdkey.find? v = some coldkey := by
  have hleft : Along (PalletOp.step Runtime.runtime) (fun c op => op.IdsLeft c)
      (.genesis Runtime.runtime demoBalances) demoLeaves := by
    decide +kernel
  have hpos : 0 < (demoPalletAfter demoLeaves).stake.nodeSubnetStake.val (1, 128001) := by
    decide +kernel
  have hgone : ¬(demoPalletAfter demoLeaves).IsNode 128001 1 := by
    unfold Chain.IsNode
    decide +kernel
  obtain ⟨v, coldkey, hv, hcoldkey, -⟩ :=
    (stake_is_withdrawable Runtime.runtime demoBalances demoLeaves hleft).1 128001 1 hpos
  exact ⟨hpos, hgone, v, coldkey, hv, hcoldkey⟩

end Runs

end Hypertensor
