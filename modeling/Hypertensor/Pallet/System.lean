import Mathlib
import Hypertensor.Lifecycle.Members

/-!
# Hypertensor.Pallet.System — the pallet as a state machine

`PalletOp` lists all ways in which the pallet writes what it stores about subnets, nodes
and their stake: the dispatchables by which they come, change and go, those of stakers
and validators, any other call, and the next block with its hook. `NetworkOp` leaves the
edits of a node's identifiers and of its stake open; here they are the ones of the source.

* `PalletOp.stepIn_change`: what a label does to the store.
* `Store.Sound`: what holds of the store along every run, whatever else does.
* `Store.Preserved`: what has to be shown of a property of the store to have it along
  every run.
-/

namespace Hypertensor

open Base Relation

variable {A : Type} {room : Prop}

/-! ## The machine -/

/-- What can happen to the pallet. -/
inductive PalletOp (A : Type) where
  | registerSubnet (owner : A) (maxCost : ℕ) (d : RegistrationSubnetData)
  | activateSubnet (coldkey : A) (subnetId : ℕ)
  | registerSubnetNode (coldkey : A) (r : SubnetNodeRegistration A)
  | updateNode (coldkey : A) (subnetId subnetNodeId : ℕ) (u : NodeUpdate)
  | removeSubnetNode (coldkey : A) (subnetId subnetNodeId : ℕ)
  | collectiveRemoveSubnet (subnetId : ℕ)
  | collectiveRemoveSubnetNode (subnetId subnetNodeId : ℕ)
  | ownerPauseSubnet (coldkey : A) (subnetId : ℕ)
  | ownerUnpauseSubnet (coldkey : A) (subnetId : ℕ)
  | ownerSetEmergencyValidatorSet (coldkey : A) (subnetId : ℕ) (subnetNodeIds : List ℕ)
  | ownerRevertEmergencyValidatorSet (coldkey : A) (subnetId : ℕ)
  | ownerDeactivateSubnet (coldkey : A) (subnetId : ℕ)
  | ownerAddOrUpdateInitialValidators (coldkey : A) (subnetId : ℕ) (validators : StorageMap ℕ ℕ)
  | ownerRemoveInitialValidators (coldkey : A) (subnetId : ℕ) (validators : Finset ℕ)
  /-- Any call that edits the record of a subnet: its name or its repository. -/
  | updateSubnet (subnetId : ℕ) (name repo : List UInt8)
  | proposeAttestation (hotkey : A) (subnetId subnetNodeId : ℕ) (data : List SubnetNodeConsensusData)
      (prioritizeQueueNodeId removeQueueNodeId : Option ℕ) (args attestData : Option (List UInt8))
  | attest (hotkey : A) (subnetId subnetNodeId : ℕ) (data : Option (List UInt8))
  | staking (call : Call A)
  | validator (call : ValidatorCall A)
  /-- Any other call, those of the collective that set parameters among them. -/
  | other (c : Chain A)
  /-- The next block begins. -/
  | nextBlock

namespace Chain

/-- What a call that is none of the above leaves of `c`, whatever it does. -/
def keepStore (c c' : Chain A) : Chain A :=
  { c' with
    block := c.block
    subnets := { c'.subnets with subnetsData := c.subnets.subnetsData }
    nodes := { c'.nodes with
      subnetNodesData := c.nodes.subnetNodesData
      registeredSubnetNodesData := c.nodes.registeredSubnetNodesData
      subnetNodeQueue := c.nodes.subnetNodeQueue
      subnetNodeElectionSlots := c.nodes.subnetNodeElectionSlots
      nodeSlotIndex := c.nodes.nodeSlotIndex
      totalSubnetElectableNodes := c.nodes.totalSubnetElectableNodes
      totalElectableNodes := c.nodes.totalElectableNodes
      totalSubnetNodes := c.nodes.totalSubnetNodes
      totalNodes := c.nodes.totalNodes
      totalActiveSubnetNodes := c.nodes.totalActiveSubnetNodes
      totalActiveNodes := c.nodes.totalActiveNodes
      subnetNodeReputation := c.nodes.subnetNodeReputation
      subnetNodeValidatorId := c.nodes.subnetNodeValidatorId
      uniqueParamSubnetNodeId := c.nodes.uniqueParamSubnetNodeId
      peerIdSubnetNodeId := c.nodes.peerIdSubnetNodeId
      bootnodePeerIdSubnetNodeId := c.nodes.bootnodePeerIdSubnetNodeId
      clientPeerIdSubnetNodeId := c.nodes.clientPeerIdSubnetNodeId
      multiaddrSubnetNodeId := c.nodes.multiaddrSubnetNodeId }
    validators := { c'.validators with
      validatorSubnetNodes := c.validators.validatorSubnetNodes
      validatorColdkey := c.validators.validatorColdkey }
    stake := { c'.stake with
      nodeSubnetStake := c.stake.nodeSubnetStake
      totalSubnetStake := c.stake.totalSubnetStake
      totalStake := c.stake.totalStake }
    registry := { c'.registry with
      subnetSlot := c.registry.subnetSlot
      slotAssignment := c.registry.slotAssignment
      assignedSlots := c.registry.assignedSlots
      totalSubnetNodeUids := c.registry.totalSubnetNodeUids
      subnetConsensusSubmission := c.registry.subnetConsensusSubmission
      subnetRegistrationEpoch := c.registry.subnetRegistrationEpoch
      initialValidatorData := c.registry.initialValidatorData
      subnetIdFriendlyUid := c.registry.subnetIdFriendlyUid
      friendlyUidSubnetId := c.registry.friendlyUidSubnetId
      totalSubnets := c.registry.totalSubnets
      totalActiveSubnets := c.registry.totalActiveSubnets
      finalSubnetEmissionWeights := c.registry.finalSubnetEmissionWeights }
    admission := { c'.admission with
      totalSubnetUids := c.admission.totalSubnetUids
      nodeRegistrationInitialValidatorIds := c.admission.nodeRegistrationInitialValidatorIds } }

variable [DecidableEq A] (rt : Runtime A) (ar : Arith)

/-- The next block, in a given arithmetic. In `u128` it is `nextBlock`. -/
def nextBlockIn (c : Chain A) : Chain A :=
  if c.block < u32Max then
    ((c.atBlock (c.block + 1)).onInitialize rt ar (c.block + 1)).getD c
  else c

/-- The state after a call that writes nothing else of the chain. -/
def commitState {ε : Type} (c : Chain A) (x : Except ε (State A)) : Chain A :=
  c.setState (commit c.toState x)

end Chain

namespace PalletOp

variable [DecidableEq A] (rt : Runtime A) (ar : Arith)

/-- The chain after a label, with balances added up in a given arithmetic. A call that
fails changes nothing. -/
def stepIn (c : Chain A) : PalletOp A → Chain A
  | registerSubnet owner maxCost d => commit c (c.registerSubnet rt owner maxCost d)
  | activateSubnet coldkey subnetId => commit c (c.activateSubnet rt coldkey subnetId)
  | registerSubnetNode coldkey r => commit c (c.registerSubnetNode rt ar coldkey r)
  | updateNode coldkey subnetId subnetNodeId u =>
      commit c (c.updateNodeCall rt coldkey subnetId subnetNodeId u)
  | removeSubnetNode coldkey subnetId subnetNodeId =>
      commit c (c.removeSubnetNode rt coldkey subnetId subnetNodeId)
  | collectiveRemoveSubnet subnetId => (c.doRemoveSubnet rt subnetId).1
  | collectiveRemoveSubnetNode subnetId subnetNodeId =>
      c.performRemoveSubnetNode subnetId subnetNodeId
  | ownerPauseSubnet coldkey subnetId => commit c (c.ownerPauseSubnet rt coldkey subnetId)
  | ownerUnpauseSubnet coldkey subnetId => commit c (c.ownerUnpauseSubnet rt coldkey subnetId)
  | ownerSetEmergencyValidatorSet coldkey subnetId ids =>
      commit c (c.ownerSetEmergencyValidatorSet rt coldkey subnetId ids)
  | ownerRevertEmergencyValidatorSet coldkey subnetId =>
      commit c (c.ownerRevertEmergencyValidatorSet coldkey subnetId)
  | ownerDeactivateSubnet coldkey subnetId =>
      commit c (c.ownerDeactivateSubnet rt coldkey subnetId)
  | ownerAddOrUpdateInitialValidators coldkey subnetId validators =>
      commit c (c.ownerAddOrUpdateInitialValidators coldkey subnetId validators)
  | ownerRemoveInitialValidators coldkey subnetId validators =>
      commit c (c.ownerRemoveInitialValidators coldkey subnetId validators)
  | updateSubnet subnetId name repo => c.updateSubnet subnetId name repo
  | proposeAttestation hotkey subnetId subnetNodeId data prioritize remove args attestData =>
      commit c (c.proposeAttestation rt hotkey subnetId subnetNodeId data prioritize remove args
        attestData)
  | attest hotkey subnetId subnetNodeId data =>
      commit c (c.attest rt hotkey subnetId subnetNodeId data)
  | staking call => c.commitState (call.dispatch rt.toConfig ar c.toState)
  | validator call => c.commitState (call.dispatch c.toState)
  | other c' => c.keepStore c'
  | nextBlock => c.nextBlockIn rt ar

/-- The chain after a label. -/
def step (c : Chain A) (op : PalletOp A) : Chain A := op.stepIn rt u128 c

/-- A registration finds an id that has not been given out. -/
def IdsLeft (c : Chain A) : PalletOp A → Prop
  | registerSubnet _ _ _ => c.admission.totalSubnetUids < u32Max
  | registerSubnetNode _ r => c.registry.totalSubnetNodeUids.val r.subnetId < u32Max
  | _ => True

/-- One more node can be counted. -/
def RoomLeft (c : Chain A) : PalletOp A → Prop
  | registerSubnetNode _ _ => c.nodes.totalNodes < u32Max
  | _ => True

instance (c : Chain A) : (op : PalletOp A) → Decidable (op.IdsLeft c)
  | registerSubnet _ _ _ => inferInstanceAs (Decidable (_ < _))
  | registerSubnetNode _ _ => inferInstanceAs (Decidable (_ < _))
  | activateSubnet _ _ | updateNode _ _ _ _ | removeSubnetNode _ _ _ | collectiveRemoveSubnet _
  | collectiveRemoveSubnetNode _ _ | ownerPauseSubnet _ _ | ownerUnpauseSubnet _ _
  | ownerSetEmergencyValidatorSet _ _ _ | ownerRevertEmergencyValidatorSet _ _
  | ownerDeactivateSubnet _ _ | ownerAddOrUpdateInitialValidators _ _ _
  | ownerRemoveInitialValidators _ _ _ | updateSubnet _ _ _ | proposeAttestation _ _ _ _ _ _ _ _
  | attest _ _ _ _ | staking _ | validator _ | other _ | nextBlock => .isTrue trivial

instance (c : Chain A) : (op : PalletOp A) → Decidable (op.RoomLeft c)
  | registerSubnetNode _ _ => inferInstanceAs (Decidable (_ < _))
  | registerSubnet _ _ _ | activateSubnet _ _ | updateNode _ _ _ _ | removeSubnetNode _ _ _
  | collectiveRemoveSubnet _ | collectiveRemoveSubnetNode _ _ | ownerPauseSubnet _ _
  | ownerUnpauseSubnet _ _ | ownerSetEmergencyValidatorSet _ _ _
  | ownerRevertEmergencyValidatorSet _ _ | ownerDeactivateSubnet _ _
  | ownerAddOrUpdateInitialValidators _ _ _ | ownerRemoveInitialValidators _ _ _
  | updateSubnet _ _ _ | proposeAttestation _ _ _ _ _ _ _ _ | attest _ _ _ _ | staking _
  | validator _ | other _ | nextBlock => .isTrue trivial

end PalletOp

/-! ## What a label can do -/

namespace Store

/-- The next block begins. -/
def tick (s : Store) : Store := { s with block := s.block + 1 }

/-- What can happen to the store. -/
inductive Change (ar : Arith) (t : Terms) (room : Prop) (D L : ℕ) : Store → Store → Prop
  | call {s s' : Store} (h : Call ar t.strict room D L s s') : Change ar t room D L s s'
  | submit {s s' : Store} (h : Submit L s s') : Change ar t room D L s s'
  | block {s s' : Store} (hblock : s.block < u32Max)
      (hruns : s.tick.Runs ar t L (s.slotAssignment.find? (s.tick.block % L)) s') :
      Change ar t room D L s s'

end Store

section Change

variable [DecidableEq A] {rt : Runtime A} {ar : Arith} {t : Terms}

theorem Chain.nextBlockIn_change {D : ℕ} (c : Chain A)
    (hset : c.block < u32Max → (c.atBlock (c.block + 1)).SettlesAt t rt) :
    c.store.Change ar t room D rt.epochLength (c.nextBlockIn rt ar).store := by
  unfold Chain.nextBlockIn
  split
  · next hblock =>
      cases hhook : (c.atBlock (c.block + 1)).onInitialize rt ar (c.block + 1) with
      | none => exact .call (.of_eq rfl)
      | some c' =>
          have hruns : (c.atBlock (c.block + 1)).store.Runs ar t rt.epochLength _ c'.store :=
            Chain.onInitialize_store (hset hblock) hhook
          exact .block hblock hruns
  · exact .call (.of_eq rfl)

/-- What a call does to the store: all labels but the next block are calls. -/
theorem PalletOp.stepIn_call (rt : Runtime A) (ar : Arith) (c : Chain A) (op : PalletOp A)
    (hop : op ≠ .nextBlock) (hleft : t.strict → op.IdsLeft c) (hroom : room → op.RoomLeft c) :
    c.store.Call ar t.strict room rt.designatedEpochSlots rt.epochLength (op.stepIn rt ar c).store ∨
      c.store.Submit rt.epochLength (op.stepIn rt ar c).store := by
  -- a call that fails has no effect
  have hcall : ∀ {x : Except Error (Chain A)}, (∀ c', x = .ok c' →
      c.store.Call ar t.strict room rt.designatedEpochSlots rt.epochLength c'.store) →
      c.store.Call ar t.strict room rt.designatedEpochSlots rt.epochLength (commit c x).store := by
    intro x hok
    exact commit_induction (P := fun c' : Chain A => c.store.Call ar t.strict room
      rt.designatedEpochSlots rt.epochLength c'.store) (.of_eq rfl) hok
  have hsubmit : ∀ {x : Except Error (Chain A)},
      (∀ c', x = .ok c' → c.store.Submit rt.epochLength c'.store) →
      c.store.Call ar t.strict room rt.designatedEpochSlots rt.epochLength (commit c x).store ∨
        c.store.Submit rt.epochLength (commit c x).store := by
    intro x hok
    rcases commit_cases (s := c) x with h | h
    · rw [h]
      exact Or.inl (.of_eq rfl)
    · exact Or.inr (hok _ h)
  have hstate : ∀ {x : Except Error (State A)}, (∀ s, x = .ok s → c.store.Call ar t.strict room
      rt.designatedEpochSlots rt.epochLength (c.setState s).store) →
      c.store.Call ar t.strict room rt.designatedEpochSlots rt.epochLength
        (c.commitState x).store := by
    intro x hok
    exact commit_induction (P := fun s : State A => c.store.Call ar t.strict room
      rt.designatedEpochSlots rt.epochLength (c.setState s).store) (.of_eq rfl) hok
  cases op with
  | registerSubnet owner maxCost d => exact .inl (hcall fun _ => Chain.registerSubnet_effect hleft)
  | activateSubnet coldkey i => exact .inl (hcall fun _ => Chain.activateSubnet_effect)
  | registerSubnetNode coldkey r =>
      exact .inl (hcall fun _ => Chain.registerSubnetNode_effect hleft hroom)
  | updateNode coldkey i id u => exact .inl (hcall fun _ => Chain.updateNodeCall_effect)
  | removeSubnetNode coldkey i id => exact .inl (hcall fun _ => Chain.removeSubnetNode_effect)
  | collectiveRemoveSubnet i => exact .inl (Chain.doRemoveSubnet_effect rt c i)
  | collectiveRemoveSubnetNode i id => exact .inl (Chain.performRemoveSubnetNode_effect c i id)
  | ownerPauseSubnet coldkey i => exact .inl (hcall fun _ => Chain.ownerPauseSubnet_effect)
  | ownerUnpauseSubnet coldkey i => exact .inl (hcall fun _ => Chain.ownerUnpauseSubnet_effect)
  | ownerSetEmergencyValidatorSet coldkey i ids =>
      exact .inl (hcall fun _ h => .of_eq (Chain.ownerSetEmergencyValidatorSet_store h))
  | ownerRevertEmergencyValidatorSet coldkey i =>
      exact .inl (hcall fun _ h => .of_eq (Chain.ownerRevertEmergencyValidatorSet_store h))
  | ownerDeactivateSubnet coldkey i =>
      exact .inl (hcall fun _ => Chain.ownerDeactivateSubnet_effect)
  | ownerAddOrUpdateInitialValidators coldkey i vs =>
      exact .inl (hcall fun _ => Chain.ownerAddOrUpdateInitialValidators_effect)
  | ownerRemoveInitialValidators coldkey i vs =>
      exact .inl (hcall fun _ => Chain.ownerRemoveInitialValidators_effect)
  | updateSubnet i name repo =>
      refine .inl ?_
      show c.store.Call ar t.strict room _ _ (c.updateSubnet i name repo).store
      unfold Chain.updateSubnet
      split
      · next d hd => exact .setSubnet (s := c.store) hd (Or.inl rfl)
      · exact .of_eq rfl
  | proposeAttestation hotkey i id data prioritize remove args attestData =>
      exact hsubmit fun _ => Chain.proposeAttestation_effect
  | attest hotkey i id data => exact hsubmit fun _ => Chain.attest_effect
  | staking call => exact .inl (hstate fun _ => Chain.stakingCall_effect)
  | validator call => exact .inl (hstate fun _ => Chain.validatorCall_effect)
  | other c' => exact .inl (.other (s := c.store) c'.registry.subnetNodeQueueEpochs)
  | nextBlock => exact absurd rfl hop

/-- What a label does to the store. -/
theorem PalletOp.stepIn_change (rt : Runtime A) (ar : Arith) (c : Chain A) (op : PalletOp A)
    (hleft : t.strict → op.IdsLeft c) (hroom : room → op.RoomLeft c)
    (hset : op = .nextBlock → c.block < u32Max → (c.atBlock (c.block + 1)).SettlesAt t rt) :
    c.store.Change ar t room rt.designatedEpochSlots rt.epochLength (op.stepIn rt ar c).store := by
  by_cases hop : op = .nextBlock
  · subst hop
    exact Chain.nextBlockIn_change c (hset rfl)
  · rcases op.stepIn_call rt ar c hop hleft hroom with hcall | hsubmit
    · exact .call hcall
    · exact .submit hsubmit

end Change

/-! ## What always holds -/

/-- The reward code leaves the subnets alone. -/
theorem Records.Step.subnetsData {ar : Arith} {t : Terms} {i : ℕ} {r r' : Records}
    (h : Records.Step ar t i r r') : r'.subnetsData = r.subnetsData := by
  cases h with
  | removeActive _ => exact Membership.removeActive_subnetsData ..
  | _ => rfl

namespace Store

variable {ar : Arith} {t : Terms} {known covered : Prop} {D L : ℕ} {target : Option ℕ} {s s' : Store}

/-- What holds of the store along every run. -/
structure Sound (L : ℕ) (s : Store) : Prop where
  inv : s.lifecycle.Inv L
  listed : s.lifecycle.Listed
  homed : s.lifecycle.Homed

theorem Sound.call (h : s.Sound L) (hcall : Call ar True room D L s s') : s'.Sound L :=
  ⟨h.inv.call hcall.lifecycle, h.listed.call hcall.lifecycle, h.homed.call hcall.lifecycle⟩

theorem Sound.submit (h : s.Sound L) (hsubmit : Submit L s s') : s'.Sound L := by
  refine ⟨h.inv.submit hsubmit.lifecycle, ?_, ?_⟩
  · cases hsubmit with
    | propose _ _ _ _ => exact h.listed
    | attest _ _ => exact h.listed
  · cases hsubmit with
    | propose _ _ _ _ => exact ⟨h.homed.member, h.homed.issued⟩
    | attest _ _ => exact ⟨h.homed.member, h.homed.issued⟩

theorem Sound.hook (h : s.Sound L) (hopen : Lifecycle.Opening L target s.lifecycle)
    (hstep : Step ar ⟨True, known, covered⟩ L target s s') :
    s'.Sound L ∧ Lifecycle.Opening L target s'.lifecycle := by
  -- one step of the store is none or one of the lifecycle
  have hall : ∀ l', s.lifecycle.Runs True L target l' →
      l'.Inv L ∧ Lifecycle.Opening L target l' ∧ l'.Listed ∧ l'.Homed := by
    intro l' hruns
    induction hruns with
    | refl => exact ⟨h.inv, hopen, h.listed, h.homed⟩
    | tail _ hone ih =>
        obtain ⟨hinv, hop, hlisted, hhomed⟩ := ih
        obtain ⟨hinv', hop'⟩ := hinv.step hop hone
        exact ⟨hinv', hop', hlisted.hook hinv hone, hhomed.hook hinv hone⟩
  obtain ⟨hinv, hop, hlisted, hhomed⟩ := hall _ hstep.lifecycle
  exact ⟨⟨hinv, hlisted, hhomed⟩, hop⟩

/-- What the steps of a block keep, the block keeps. -/
theorem Sound.block_induction {Q : Store → Prop} (h : s.Sound L) (hinit : Q s.tick)
    (hstep : ∀ {u u' : Store}, u.Sound L → Q u →
      Step ar ⟨True, known, covered⟩ L (s.slotAssignment.find? (s.tick.block % L)) u u' → Q u')
    (hruns : s.tick.Runs ar ⟨True, known, covered⟩ L
      (s.slotAssignment.find? (s.tick.block % L)) s') : s'.Sound L ∧ Q s' := by
  obtain ⟨hinv, hopen⟩ := h.inv.tick
  have htick : s.tick.Sound L := ⟨hinv, h.listed, ⟨h.homed.member, h.homed.issued⟩⟩
  have hall : (s'.Sound L ∧
      Lifecycle.Opening L (s.slotAssignment.find? (s.tick.block % L)) s'.lifecycle) ∧ Q s' := by
    induction hruns with
    | refl => exact ⟨⟨htick, hopen⟩, hinit⟩
    | tail _ hone ih => exact ⟨ih.1.1.hook ih.1.2 hone, hstep ih.1.1 ih.2 hone⟩
  exact ⟨hall.1.1, hall.2⟩

/-- A property that calls, submissions and the steps of a block keep. -/
structure Preserved (ar : Arith) (known covered room : Prop) (D L : ℕ) (P : Store → Prop) :
    Prop where
  call : ∀ {s s' : Store}, s.Sound L → P s → Call ar True room D L s s' → P s'
  submit : ∀ {s s' : Store}, s.Sound L → P s → Submit L s s' → P s'
  tick : ∀ {s : Store}, P s → P s.tick
  hook : ∀ {target : Option ℕ} {s s' : Store}, s.Sound L → P s →
    Step ar ⟨True, known, covered⟩ L target s s' → P s'

theorem Preserved.change {P : Store → Prop} (hp : Preserved ar known covered room D L P)
    (h : s.Sound L) (hs : P s) (hchange : Change ar ⟨True, known, covered⟩ room D L s s') :
    s'.Sound L ∧ P s' := by
  cases hchange with
  | call hcall => exact ⟨h.call hcall, hp.call h hs hcall⟩
  | submit hsubmit => exact ⟨h.submit hsubmit, hp.submit h hs hsubmit⟩
  | block _ hruns => exact h.block_induction (hp.tick hs) (fun hu => hp.hook hu) hruns

/-- Properties kept together. -/
theorem Preserved.and {P Q : Store → Prop} (hp : Preserved ar known covered room D L P)
    (hq : Preserved ar known covered room D L Q) :
    Preserved ar known covered room D L fun s => P s ∧ Q s where
  call h hs hcall := ⟨hp.call h hs.1 hcall, hq.call h hs.2 hcall⟩
  submit h hs hsubmit := ⟨hp.submit h hs.1 hsubmit, hq.submit h hs.2 hsubmit⟩
  tick hs := ⟨hp.tick hs.1, hq.tick hs.2⟩
  hook h hs hstep := ⟨hp.hook h hs.1 hstep, hq.hook h hs.2 hstep⟩

/-- The validators of all nodes in submissions are known. -/
def Credited (s : Store) : Prop :=
  ∀ i e d, s.subnetConsensusSubmission.find? (i, e) = some d → s.toRecords.Owned i d.subnetNodes

end Store

/-! ## Runs -/

section Runs

variable [DecidableEq A] {rt : Runtime A} {ar : Arith} {known covered : Prop}

/-- What the settlement in this block may slash is covered by the stake. -/
def Chain.SlashCoveredAt (rt : Runtime A) (c : Chain A) : Prop :=
  ∀ i d, c.registry.slotAssignment.find? (c.block % rt.epochLength) = some i →
    c.registry.subnetConsensusSubmission.find?
      (i, wrapSub 32 (c.currentSubnetEpoch rt i) 1) = some d →
    Metered.SlashCovered c.toState i d.validatorId d.attestationRatio
      c.params.minAttestationPercentage

omit [DecidableEq A] in
theorem Chain.settlesAt_of_sound {c : Chain A} (h : c.store.Sound rt.epochLength)
    (hblock : c.block < u32Max) (hknown : known → c.store.Credited)
    (hcovered : covered → (c.atBlock (c.block + 1)).SlashCoveredAt rt) :
    (c.atBlock (c.block + 1)).SettlesAt ⟨True, known, covered⟩ rt := by
  have hset := h.inv.settleableAt hblock
  intro i hi d hd
  obtain ⟨hnodup, hcurrent⟩ := hset i hi d hd
  refine ⟨⟨fun _ => hnodup, fun _ => hcurrent, ?_⟩, ?_⟩
  · intro hk
    exact hknown hk i _ d hd
  · intro hc
    exact hcovered hc i d hi hd

/-- What a label does to the store, of which nothing else is known. -/
theorem PalletOp.step_change {c : Chain A} {op : PalletOp A} (hleft : op.IdsLeft c)
    (h : c.store.Sound rt.epochLength) :
    c.store.Change u128 ⟨True, False, False⟩ False rt.designatedEpochSlots rt.epochLength
      (op.step rt c).store :=
  op.stepIn_change rt u128 c (fun _ => hleft) False.elim fun _ hblock =>
    Chain.settlesAt_of_sound h hblock False.elim False.elim

/-- What a label keeps of a property of the store. -/
theorem PalletOp.stepIn_preserved {P : Store → Prop}
    (hp : Store.Preserved ar known covered room rt.designatedEpochSlots rt.epochLength P)
    {c : Chain A} {op : PalletOp A} (hleft : op.IdsLeft c) (hroom : room → op.RoomLeft c)
    (hknown : known → c.store.Credited)
    (hcovered : covered → op = .nextBlock → (c.atBlock (c.block + 1)).SlashCoveredAt rt)
    (h : c.store.Sound rt.epochLength ∧ P c.store) :
    (op.stepIn rt ar c).store.Sound rt.epochLength ∧ P (op.stepIn rt ar c).store := by
  refine hp.change h.1 h.2 ?_
  refine op.stepIn_change rt ar c (fun _ => hleft) hroom fun hop hblock => ?_
  exact Chain.settlesAt_of_sound h.1 hblock hknown fun hc => hcovered hc hop

/-- A registration that finds an id, and any other label, keep the store sound. -/
theorem PalletOp.step_sound {c : Chain A} {op : PalletOp A} (hleft : op.IdsLeft c)
    (h : c.store.Sound rt.epochLength) : (op.step rt c).store.Sound rt.epochLength := by
  have hpreserved : Store.Preserved u128 False False False rt.designatedEpochSlots rt.epochLength
      fun _ => True :=
    ⟨fun _ _ _ => trivial, fun _ _ _ => trivial, fun _ => trivial, fun _ _ _ => trivial⟩
  exact (op.stepIn_preserved hpreserved hleft False.elim False.elim False.elim ⟨h, trivial⟩).1

/-- What holds along every run whose registrations find an id. -/
theorem PalletOp.run_preserved {P : Store → Prop}
    (hp : Store.Preserved u128 False False False rt.designatedEpochSlots rt.epochLength P)
    {c : Chain A} {ops : List (PalletOp A)}
    (hleft : Along (PalletOp.step rt) (fun c op => op.IdsLeft c) c ops)
    (h : c.store.Sound rt.epochLength ∧ P c.store) :
    (run (PalletOp.step rt) c ops).store.Sound rt.epochLength ∧
      P (run (PalletOp.step rt) c ops).store :=
  run_invariant (I := fun c : Chain A => c.store.Sound rt.epochLength ∧ P c.store)
    (fun _ op hop h => op.stepIn_preserved hp hop False.elim False.elim False.elim h) hleft h

omit [DecidableEq A] in
/-- A new chain has no subnets and no nodes. -/
theorem Chain.genesis_sound (rt : Runtime A) (balances : StorageMap A ℕ) :
    (Chain.genesis rt balances).store.Sound rt.epochLength where
  inv := Chain.genesis_inv rt balances rt.epochLength
  listed := by
    intro i id r hr
    cases hr
  homed := by
    constructor
    · rintro i id (hactive | hreg)
      · exact absurd rfl hactive
      · exact absurd rfl hreg
    · intro i hi
      exact absurd rfl hi

end Runs

/-! ## A run -/

/-- Four validators register, one of their owners registers a subnet, and three of them
register a node in it. -/
def demoPallet : List (PalletOp ℕ) :=
  [.validator (.registerValidator 10 11 0 none), .validator (.registerValidator 20 21 0 none),
    .validator (.registerValidator 30 31 0 none), .validator (.registerValidator 40 41 0 none),
    .registerSubnet 10 1000000000000000000 demoSubnet,
    .registerSubnetNode 10 (demoRegistration 1), .registerSubnetNode 20 (demoRegistration 2),
    .registerSubnetNode 30 (demoRegistration 3)]

/-- The chain after labels from genesis. -/
def demoPalletAfter (ops : List (PalletOp ℕ)) : Chain ℕ :=
  run (PalletOp.step Runtime.runtime) (.genesis Runtime.runtime demoBalances) ops

end Hypertensor
