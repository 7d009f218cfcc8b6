import Mathlib
import Hypertensor.Epoch.Effects
import Hypertensor.Lifecycle.System

/-!
# Hypertensor.Lifecycle.Directory — by what subnets are found

A subnet is found by its id, its name, its repository, its slot and the short id that goes
with the slot. The maps for this are the `Directory`, and few operations write them: a
registration, the two renamings, the changes of a subnet's state, and removals.

* `Directory.Step`: all that can happen to the directory.
* `SubnetOp.step_directory`: what a label does to it.
-/

namespace Hypertensor

open Base Relation

variable {A : Type}

/-! ## Renaming -/

namespace Chain

variable [DecidableEq A] (rt : Runtime A)

/-- `owner_update_name`. -/
def ownerUpdateName (c : Chain A) (coldkey : A) (subnetId : ℕ) (value : List UInt8) :
    Except Error (Chain A) := do
  c.isPaused
  ensure (c.isSubnetOwner coldkey subnetId) .notSubnetOwner
  ensure (!c.registry.subnetName.contains value) .subnetNameExist
  let params ← okOr (c.subnets.subnetsData.find? subnetId) .invalidSubnetId
  let c₁ := c.setSubnetData subnetId { params with name := value }
  .ok { c₁ with registry := { c.registry with
    subnetName := (c.registry.subnetName.remove params.name).set value subnetId } }

/-- `owner_update_repo`. -/
def ownerUpdateRepo (c : Chain A) (coldkey : A) (subnetId : ℕ) (value : List UInt8) :
    Except Error (Chain A) := do
  c.isPaused
  ensure (c.isSubnetOwner coldkey subnetId) .notSubnetOwner
  ensure (!c.registry.subnetRepo.contains value) .subnetRepoExist
  let params ← okOr (c.subnets.subnetsData.find? subnetId) .invalidSubnetId
  let c₁ := c.setSubnetData subnetId { params with repo := value }
  .ok { c₁ with registry := { c.registry with
    subnetRepo := (c.registry.subnetRepo.remove params.repo).set value subnetId } }

omit [DecidableEq A] in
/-- What a call that is none of those of `SubnetOp` leaves of `c`, whatever it does. -/
def keepDirectory (c c' : Chain A) : Chain A :=
  { c' with
    block := c.block
    subnets := { c'.subnets with subnetsData := c.subnets.subnetsData }
    registry := { c'.registry with
      subnetName := c.registry.subnetName
      subnetRepo := c.registry.subnetRepo
      subnetIdFriendlyUid := c.registry.subnetIdFriendlyUid
      friendlyUidSubnetId := c.registry.friendlyUidSubnetId
      subnetSlot := c.registry.subnetSlot
      slotAssignment := c.registry.slotAssignment
      assignedSlots := c.registry.assignedSlots }
    admission := { c'.admission with totalSubnetUids := c.admission.totalSubnetUids } }

end Chain

/-! ## The machine -/

/-- What can happen to the subnets. -/
inductive SubnetOp (A : Type) where
  | registerSubnet (owner : A) (maxCost : ℕ) (d : RegistrationSubnetData)
  | ownerUpdateName (coldkey : A) (subnetId : ℕ) (value : List UInt8)
  | ownerUpdateRepo (coldkey : A) (subnetId : ℕ) (value : List UInt8)
  | activateSubnet (coldkey : A) (subnetId : ℕ)
  | ownerPauseSubnet (coldkey : A) (subnetId : ℕ)
  | ownerUnpauseSubnet (coldkey : A) (subnetId : ℕ)
  | ownerDeactivateSubnet (coldkey : A) (subnetId : ℕ)
  | collectiveRemoveSubnet (subnetId : ℕ)
  /-- Any other call. It may write all storage but the directory. -/
  | other (c : Chain A)
  /-- The next block begins. -/
  | nextBlock

namespace SubnetOp

variable [DecidableEq A] (rt : Runtime A)

/-- The chain after a label. A call that fails changes nothing. -/
def step (c : Chain A) : SubnetOp A → Chain A
  | registerSubnet owner maxCost d => commit c (c.registerSubnet rt owner maxCost d)
  | ownerUpdateName coldkey subnetId value =>
      commit c (c.ownerUpdateName coldkey subnetId value)
  | ownerUpdateRepo coldkey subnetId value =>
      commit c (c.ownerUpdateRepo coldkey subnetId value)
  | activateSubnet coldkey subnetId => commit c (c.activateSubnet rt coldkey subnetId)
  | ownerPauseSubnet coldkey subnetId => commit c (c.ownerPauseSubnet rt coldkey subnetId)
  | ownerUnpauseSubnet coldkey subnetId => commit c (c.ownerUnpauseSubnet rt coldkey subnetId)
  | ownerDeactivateSubnet coldkey subnetId =>
      commit c (c.ownerDeactivateSubnet rt coldkey subnetId)
  | collectiveRemoveSubnet subnetId => (c.doRemoveSubnet rt subnetId).1
  | other c' => c.keepDirectory c'
  | nextBlock => c.nextBlock rt

/-- A registration finds an id that has not been given out. -/
def IdsLeft (c : Chain A) : SubnetOp A → Prop
  | registerSubnet _ _ _ => c.admission.totalSubnetUids < u32Max
  | _ => True

instance (c : Chain A) : (op : SubnetOp A) → Decidable (op.IdsLeft c)
  | registerSubnet _ _ _ => inferInstanceAs (Decidable (_ < _))
  | ownerUpdateName _ _ _ | ownerUpdateRepo _ _ _ | activateSubnet _ _ | ownerPauseSubnet _ _
  | ownerUnpauseSubnet _ _ | ownerDeactivateSubnet _ _ | collectiveRemoveSubnet _ | other _
  | nextBlock => .isTrue trivial

end SubnetOp

/-! ## The directory -/

/-- The maps by which subnets are found, and the count of ids given out. -/
structure Directory where
  subnetsData : StorageMap ℕ SubnetData
  subnetName : StorageMap (List UInt8) ℕ
  subnetRepo : StorageMap (List UInt8) ℕ
  subnetIdFriendlyUid : StorageMap ℕ ℕ
  friendlyUidSubnetId : StorageMap ℕ ℕ
  subnetSlot : StorageMap ℕ ℕ
  slotAssignment : StorageMap ℕ ℕ
  assignedSlots : Finset ℕ
  totalSubnetUids : ℕ

/-- The directory of a chain. -/
def Chain.directory (c : Chain A) : Directory where
  subnetsData := c.subnets.subnetsData
  subnetName := c.registry.subnetName
  subnetRepo := c.registry.subnetRepo
  subnetIdFriendlyUid := c.registry.subnetIdFriendlyUid
  friendlyUidSubnetId := c.registry.friendlyUidSubnetId
  subnetSlot := c.registry.subnetSlot
  slotAssignment := c.registry.slotAssignment
  assignedSlots := c.registry.assignedSlots
  totalSubnetUids := c.admission.totalSubnetUids

namespace Directory

variable (d : Directory)

/-- The id of the next subnet. -/
def nextSubnetId : ℕ := min (d.totalSubnetUids + 1) u32Max

/-- A subnet is registered. -/
def register (D slot : ℕ) (data : SubnetData) : Directory where
  subnetsData := d.subnetsData.set d.nextSubnetId data
  subnetName := d.subnetName.set data.name d.nextSubnetId
  subnetRepo := d.subnetRepo.set data.repo d.nextSubnetId
  subnetIdFriendlyUid := d.subnetIdFriendlyUid.set d.nextSubnetId (wrapAdd 32 (slot - D) 1)
  friendlyUidSubnetId := d.friendlyUidSubnetId.set (wrapAdd 32 (slot - D) 1) d.nextSubnetId
  subnetSlot := d.subnetSlot.set d.nextSubnetId slot
  slotAssignment := d.slotAssignment.set slot d.nextSubnetId
  assignedSlots := insert slot d.assignedSlots
  totalSubnetUids := d.nextSubnetId

/-- The record of a subnet is written. -/
def setData (i : ℕ) (data : SubnetData) : Directory :=
  { d with subnetsData := d.subnetsData.set i data }

/-- A subnet that was called `data.name` gets another name. -/
def rename (i : ℕ) (data : SubnetData) (name : List UInt8) : Directory :=
  { d.setData i { data with name := name } with
    subnetName := (d.subnetName.remove data.name).set name i }

/-- A subnet that had `data.repo` gets another repository. -/
def changeRepo (i : ℕ) (data : SubnetData) (repo : List UInt8) : Directory :=
  { d.setData i { data with repo := repo } with
    subnetRepo := (d.subnetRepo.remove data.repo).set repo i }

/-- A subnet gives its slot back. -/
def freeSlot (i : ℕ) : Directory :=
  match d.subnetSlot.find? i with
  | none => d
  | some slot => { d with
      subnetSlot := d.subnetSlot.remove i
      slotAssignment := d.slotAssignment.remove slot
      assignedSlots := d.assignedSlots.erase slot }

/-- A subnet is removed. -/
def remove (i : ℕ) (data : SubnetData) : Directory :=
  Directory.freeSlot { d with
    subnetsData := d.subnetsData.remove i
    subnetName := d.subnetName.remove data.name
    subnetRepo := d.subnetRepo.remove data.repo
    subnetIdFriendlyUid := d.subnetIdFriendlyUid.remove i
    friendlyUidSubnetId := match d.subnetIdFriendlyUid.find? i with
      | some uid => d.friendlyUidSubnetId.remove uid
      | none => d.friendlyUidSubnetId } i

@[simp] theorem remove_subnetsData (i : ℕ) (data : SubnetData) :
    (d.remove i data).subnetsData = d.subnetsData.remove i := by
  unfold remove freeSlot
  split <;> rfl

@[simp] theorem remove_subnetName (i : ℕ) (data : SubnetData) :
    (d.remove i data).subnetName = d.subnetName.remove data.name := by
  unfold remove freeSlot
  split <;> rfl

@[simp] theorem remove_subnetRepo (i : ℕ) (data : SubnetData) :
    (d.remove i data).subnetRepo = d.subnetRepo.remove data.repo := by
  unfold remove freeSlot
  split <;> rfl

@[simp] theorem remove_totalSubnetUids (i : ℕ) (data : SubnetData) :
    (d.remove i data).totalSubnetUids = d.totalSubnetUids := by
  unfold remove freeSlot
  split <;> rfl

/-- A subnet is removed. -/
inductive Removal : Directory → Directory → Prop
  | remove {d : Directory} {i : ℕ} {data : SubnetData} (hdata : d.subnetsData.find? i = some data) :
      Removal d (d.remove i data)

/-- Some subnets are removed. -/
def Removes : Directory → Directory → Prop := ReflTransGen Removal

/-- All that can happen to the directory: with `D` designated slots, in an epoch of `L`. -/
inductive Step (D L : ℕ) : Directory → Directory → Prop
  | register {d : Directory} {slot : ℕ} {data : SubnetData}
      (hname : d.subnetName.find? data.name = none) (hrepo : d.subnetRepo.find? data.repo = none)
      (hfree : slot ∉ d.assignedSlots) (hD : D ≤ slot) (hlt : slot < L)
      (hleft : d.totalSubnetUids < u32Max) : Step D L d (d.register D slot data)
  | phase {d : Directory} {i : ℕ} {data : SubnetData} (state : SubnetState) (startEpoch : ℕ)
      (hdata : d.subnetsData.find? i = some data) :
      Step D L d (d.setData i { data with state := state, startEpoch := startEpoch })
  | rename {d : Directory} {i : ℕ} {data : SubnetData} {name : List UInt8}
      (hdata : d.subnetsData.find? i = some data) (hname : d.subnetName.find? name = none) :
      Step D L d (d.rename i data name)
  | changeRepo {d : Directory} {i : ℕ} {data : SubnetData} {repo : List UInt8}
      (hdata : d.subnetsData.find? i = some data) (hrepo : d.subnetRepo.find? repo = none) :
      Step D L d (d.changeRepo i data repo)
  | removes {d d' : Directory} (h : d.Removes d') : Step D L d d'

/-- What leaves the directory is allowed. -/
theorem Step.of_eq {D L : ℕ} {d d' : Directory} (h : d' = d) : Step D L d d' :=
  h ▸ .removes .refl

/-- What removals keep, a run of removals keeps. -/
theorem Removes.invariant {I : Directory → Prop} {d d' : Directory}
    (hstep : ∀ {d i data}, d.subnetsData.find? i = some data → I d → I (d.remove i data))
    (h : d.Removes d') (hd : I d) : I d' := by
  induction h with
  | refl => exact hd
  | tail _ hlast ih =>
      cases hlast with
      | remove hdata => exact hstep hdata ih

end Directory

/-! ## What the hook does to the directory -/

section Hook

variable {rt : Runtime A} {ar : Arith} {c c' : Chain A} {block : ℕ}

/-- On the directory, the removal of a subnet takes its entries out. -/
theorem Chain.doRemoveSubnet_directory {i : ℕ} {data : SubnetData}
    (hdata : c.subnets.subnetsData.find? i = some data) :
    (c.doRemoveSubnet rt i).1.directory = c.directory.remove i data := by
  unfold Chain.doRemoveSubnet Directory.remove Directory.freeSlot
  rw [hdata]
  dsimp only [Chain.cleanSubnetNodes, Registry.removeSubnet, Registry.freeSlotOfSubnet,
    Chain.directory]
  cases c.registry.subnetSlot.find? i with
  | none => rfl
  | some slot => rfl

/-- It removes the subnet, or there was none. -/
theorem Chain.doRemoveSubnet_removes (rt : Runtime A) (c : Chain A) (i : ℕ) :
    c.directory.Removes (c.doRemoveSubnet rt i).1.directory := by
  cases hdata : c.subnets.subnetsData.find? i with
  | none =>
      unfold Chain.doRemoveSubnet
      rw [hdata]
      exact .refl
  | some data =>
      rw [doRemoveSubnet_directory hdata]
      exact .single (.remove hdata)

/-- A step that leaves the subnets, the registry and the ids leaves the directory. -/
theorem Chain.directory_eq (hsubnets : c'.subnets.subnetsData = c.subnets.subnetsData)
    (hregistry : c'.registry = c.registry) (hadmission : c'.admission = c.admission) :
    c'.directory = c.directory := by
  unfold Chain.directory
  rw [hsubnets, hregistry, hadmission]

/-- Scores are not in the directory. -/
theorem Chain.scoreSubnets_directory (t : RevealTally) (e : ℕ) (w : Weight)
    (scores : StorageMap ℕ ℕ) (subnets : List (ℕ × StorageMap ℕ ℕ)) :
    (c.scoreSubnets rt t e w scores subnets).1.directory = c.directory := by
  induction subnets generalizing c w scores with
  | nil => rfl
  | cons s subnets ih =>
      unfold Chain.scoreSubnets
      rw [ih]
      rfl

/-- The stake of overwatch nodes is not in the directory. -/
theorem Chain.payOverwatchNodes_directory (t : RevealTally) (e total : ℕ) (w : Weight)
    (scores : List (ℕ × ℕ)) :
    (c.payOverwatchNodes rt ar t e total w scores).1.directory = c.directory := by
  induction scores generalizing c w with
  | nil => rfl
  | cons s scores ih =>
      unfold Chain.payOverwatchNodes
      rw [ih]
      unfold Chain.payOverwatchNode
      split
      · rfl
      · dsimp only
        split <;> rfl

/-- The block of the overwatch rewards leaves the directory. -/
theorem Chain.calculateOverwatchRewards_directory {r : Chain A × Weight}
    (h : c.calculateOverwatchRewards rt ar = some r) : r.1.directory = c.directory := by
  unfold Chain.calculateOverwatchRewards at h
  simp only [Option.bind_eq_bind, Option.bind_eq_some_iff] at h
  rcases h with ⟨e, _, h⟩
  split at h
  · cases h
    exact scoreSubnets_directory ..
  · cases h
    rw [payOverwatchNodes_directory, scoreSubnets_directory]

variable [DecidableEq A]

/-- The block of the weights leaves the directory. -/
theorem Chain.handleSubnetEmissionWeights_directory {epoch : ℕ} {r : Chain A × Weight}
    (h : c.handleSubnetEmissionWeights rt epoch = some r) : r.1.directory = c.directory := by
  unfold Chain.handleSubnetEmissionWeights Chain.calculateSubnetWeights at h
  simp only [Option.bind_eq_bind, Option.bind_eq_some_iff] at h
  rcases h with ⟨⟨c₁, weights, w₁⟩, ⟨e, _, hc₁⟩, h⟩
  cases hc₁
  dsimp only at h
  split at h
  · cases h
    rfl
  · cases h
    rfl

/-- The reward code leaves the subnets alone. -/
theorem Membership.Moves.subnetsData {strict : Prop} {i : ℕ} {m m' : Membership}
    (h : m.Moves strict i m') : m'.subnetsData = m.subnetsData := by
  induction h with
  | refl => rfl
  | tail _ hlast ih => rw [hlast.subnetsData, ih]

omit [DecidableEq A] in
/-- Looking at a submission writes neither the registry nor what admits nodes. -/
theorem Chain.precheckSubnetConsensusSubmission_frame (rt : Runtime A) (c : Chain A) (i e : ℕ) :
    (c.precheckSubnetConsensusSubmission rt i e).1.registry = c.registry ∧
      (c.precheckSubnetConsensusSubmission rt i e).1.admission = c.admission := by
  unfold Chain.precheckSubnetConsensusSubmission
  split
  · dsimp only
    split
    · exact ⟨rfl, rfl⟩
    · unfold Chain.penaliseAbsentValidator
      dsimp only
      split <;> exact ⟨rfl, rfl⟩
  · dsimp only
    split <;> exact ⟨rfl, rfl⟩

/-- A settlement writes neither the registry nor what admits nodes. -/
theorem Hook.settleEpoch_frame (rt : Runtime A) (ar : Arith) (h : Hook A) (i e se em w : ℕ) :
    (h.settleEpoch rt ar i e se em w).chain.registry = h.chain.registry ∧
      (h.settleEpoch rt ar i e se em w).chain.admission = h.chain.admission := by
  have hpre := Chain.precheckSubnetConsensusSubmission_frame rt h.chain i (wrapSub 32 se 1)
  unfold settleEpoch
  dsimp only
  split
  · exact hpre
  · exact hpre

/-- A settlement leaves the directory. -/
theorem Hook.settleEpoch_directory (rt : Runtime A) (h : Hook A) (i e se em w : ℕ) :
    (h.settleEpoch rt ar i e se em w).chain.directory = h.chain.directory := by
  have hset : h.chain.Settles ⟨False, False, False⟩ i (wrapSub 32 se 1) := by
    intro d _
    exact ⟨⟨False.elim, False.elim, False.elim⟩, False.elim⟩
  obtain ⟨r, hmoves, hstore⟩ := settleEpoch_moves rt e se em w hset
  have hsubnets := congrArg (fun s : Store => s.subnetsData) hstore
  obtain ⟨hregistry, hadmission⟩ := settleEpoch_frame rt ar h i e se em w
  exact Chain.directory_eq (hsubnets.trans hmoves.membership.subnetsData) hregistry hadmission

omit [DecidableEq A] in
/-- An election leaves the directory. -/
theorem Chain.electValidator_directory (rt : Runtime A) (c : Chain A) (i e b : ℕ) :
    (c.electValidator rt i e b).directory = c.directory := by
  have hslots : (c.electionSlots i e).1.directory = c.directory := by
    unfold Chain.electionSlots
    dsimp only
    split
    · rfl
    · split <;> rfl
  unfold Chain.electValidator
  dsimp only
  split
  · rfl
  · split
    · exact hslots
    · exact hslots

omit [DecidableEq A] in
/-- A node that becomes active writes nothing of the subnets. -/
theorem State.activateSubnetNode_subnets (s : State A) (v i : ℕ) (st : SubnetState)
    (n : SubnetNode) (e : ℕ) : (s.activateSubnetNode v i st n e).1.subnets = s.subnets := by
  unfold activateSubnetNode
  dsimp only
  split
  · split
    · rfl
    · next s₂ hslot =>
        unfold insertNodeIntoElectionSlot at hslot
        dsimp only at hslot
        split at hslot
        · cases hslot
        · cases hslot
          rfl
  · rfl

omit [DecidableEq A] in
/-- A node that becomes active leaves the directory. -/
theorem Hook.doActivateSubnetNode_directory (rt : Runtime A) (h : Hook A) (v i : ℕ) (st : SubnetState)
    (n : SubnetNode) (e : ℕ) (q : Bool) :
    (h.doActivateSubnetNode rt v i st n e q).1.chain.directory = h.chain.directory := by
  unfold doActivateSubnetNode
  split
  · rfl
  · split
    · rfl
    · split
      · rfl
      · refine Chain.directory_eq ?_ rfl rfl
        exact congrArg Subnets.subnetsData (State.activateSubnetNode_subnets ..)

omit [DecidableEq A] in
/-- So do all of them, by induction on the queue. -/
theorem Hook.activateLoop_directory (i q e : ℕ) (nodes : List SubnetNode) (h : Hook A) (k : ℕ) :
    (h.activateLoop rt i q e k nodes).1.chain.directory = h.chain.directory := by
  induction nodes generalizing h k with
  | nil => rfl
  | cons n nodes ih =>
      unfold activateLoop
      dsimp only
      split
      · rfl
      · split
        · rfl
        · have hnode := doActivateSubnetNode_directory rt (h.consume ⟨1500, 0⟩) n.validatorId i
            .active n e true
          rw [consume_chain] at hnode
          split
          · rw [ih, hnode]
          · exact hnode

omit [DecidableEq A] in
/-- The queue of a subnet leaves the directory. -/
theorem Hook.processQueue_directory (h : Hook A) (i e : ℕ) :
    (h.processQueue rt i e).chain.directory = h.chain.directory := by
  unfold processQueue
  dsimp only
  split
  · rfl
  · split
    · rfl
    · split
      · rfl
      · generalize hstart : (((h.consume (rt.reads 4)).consume (rt.reads 1)).consume ⟨2000, 0⟩) = g
        have hchain : g.chain = h.chain := by
          rw [← hstart, consume_chain, consume_chain, consume_chain]
        rw [← hchain]
        -- the queue is no part of the directory
        unfold drainQueue
        split
        · exact activateLoop_directory ..
        · exact activateLoop_directory ..

/-- An effect of the hook removes subnets from the directory, or leaves it. -/
theorem HookEffect.directory (h : HookEffect rt ar block c c') : c.directory.Removes c'.directory := by
  have hkeep : ∀ {c c' : Chain A}, c'.directory = c.directory → c.directory.Removes c'.directory := by
    intro c c' heq
    rw [heq]
    exact .refl
  cases h with
  | removeSubnet c i => exact Chain.doRemoveSubnet_removes rt c i
  | reputation c i rep => exact hkeep rfl
  | overwatch h => exact hkeep (Chain.calculateOverwatchRewards_directory h)
  | weigh epoch h => exact hkeep (Chain.handleSubnetEmissionWeights_directory h)
  | settle h i epoch subnetEpoch emissions weight hc =>
      subst hc
      exact hkeep (Hook.settleEpoch_directory ..)
  | elect c i subnetEpoch => exact hkeep (Chain.electValidator_directory ..)
  | queue h i subnetEpoch hc =>
      subst hc
      exact hkeep (Hook.processQueue_directory ..)
  | burnRate h i =>
      refine hkeep ?_
      unfold Hook.updateBurnRateForEpoch
      split <;> rfl
  | swaps h =>
      refine hkeep (Chain.directory_eq ?_ rfl rfl)
      exact congrArg (fun r : Records => r.subnetsData) (State.executeReadySwapCalls_records ..)

/-- So does a block. -/
theorem Chain.nextBlock_directory (rt : Runtime A) (c : Chain A) :
    c.directory.Removes (c.nextBlock rt).directory := by
  unfold Chain.nextBlock
  split
  · cases hhook : (c.atBlock (c.block + 1)).onInitialize rt u128 (c.block + 1) with
    | none => exact .refl
    | some c' =>
        have hkeep : c.directory.Removes c'.directory :=
          Chain.onInitialize_invariant (I := fun c' => c.directory.Removes c'.directory)
            (fun heffect hc => hc.trans heffect.directory) hhook .refl
        exact hkeep
  · exact .refl

end Hook

/-! ## What the calls do to it -/

namespace Chain

variable [DecidableEq A] {rt : Runtime A} {c c' : Chain A} {D L : ℕ}

/-- What a registration costs is not in the directory. -/
theorem payRegistrationCost_directory {owner : A} {cost : ℕ}
    (h : c.payRegistrationCost rt owner cost = .ok c') : c'.directory = c.directory := by
  unfold payRegistrationCost at h
  split at h
  · simp only [okOr_bind_ok, Except.ok.injEq] at h
    obtain ⟨u, hs, rfl⟩ := h
    unfold State.removeBalance at hs
    split at hs
    · cases hs
      rfl
    · cases hs
  · cases h
    rfl

/-- A registration enters the subnet, with names that are free. -/
theorem registerSubnet_directory {owner : A} {maxCost : ℕ} {d : RegistrationSubnetData}
    (hleft : c.admission.totalSubnetUids < u32Max)
    (h : c.registerSubnet rt owner maxCost d = .ok c') :
    c.directory.Step rt.designatedEpochSlots rt.epochLength c'.directory := by
  simp only [registerSubnet, bind_ok, Except.ok.injEq] at h
  obtain ⟨_, _, _, _, _, hdata, _, _, _, _, slot, hslot, c₁, hpaid, rfl⟩ := h
  simp only [ensureRegistrationSubnetData, ensure_bind_ok] at hdata
  obtain ⟨hname, _, hrepo, _⟩ := hdata
  obtain ⟨hfree, hD, hlt⟩ := getAvailableSubnetSlot_ok hslot
  have hstep : c.directory.Step rt.designatedEpochSlots rt.epochLength
      (c.directory.register rt.designatedEpochSlots slot ⟨d.name, d.repo, .registered, u32Max⟩) :=
    .register (State.find?_eq_none_of_not_contains hname) (State.find?_eq_none_of_not_contains hrepo)
      hfree hD hlt hleft
  have hid : c.nextSubnetId = c₁.directory.nextSubnetId := by
    rw [payRegistrationCost_directory hpaid]
    rfl
  -- the payment is no part of the directory
  rw [← payRegistrationCost_directory hpaid] at hstep ⊢
  rw [hid]
  exact hstep

/-- A new name is entered, and the old one is given up. -/
theorem ownerUpdateName_directory {coldkey : A} {i : ℕ} {value : List UInt8}
    (h : c.ownerUpdateName coldkey i value = .ok c') : c.directory.Step D L c'.directory := by
  simp only [ownerUpdateName, State.isPaused, ensure_bind_ok, okOr_bind_ok, Except.ok.injEq] at h
  obtain ⟨_, _, hfree, params, hparams, rfl⟩ := h
  exact .rename (d := c.directory) hparams (State.find?_eq_none_of_not_contains hfree)

/-- A new repository is entered in the same way. -/
theorem ownerUpdateRepo_directory {coldkey : A} {i : ℕ} {value : List UInt8}
    (h : c.ownerUpdateRepo coldkey i value = .ok c') : c.directory.Step D L c'.directory := by
  simp only [ownerUpdateRepo, State.isPaused, ensure_bind_ok, okOr_bind_ok, Except.ok.injEq] at h
  obtain ⟨_, _, hfree, params, hparams, rfl⟩ := h
  exact .changeRepo (d := c.directory) hparams (State.find?_eq_none_of_not_contains hfree)

/-- A subnet is activated, or removed if it asks too late. -/
theorem activateSubnet_directory {coldkey : A} {i : ℕ}
    (h : c.activateSubnet rt coldkey i = .ok c') : c.directory.Step D L c'.directory := by
  simp only [activateSubnet, State.isPaused, ensure_bind_ok, okOr_bind_ok, decide_eq_true_eq] at h
  obtain ⟨_, _, subnet, hsubnet, _, _, h⟩ := h
  split at h
  · cases h
    exact .removes (doRemoveSubnet_removes rt c i)
  · split at h
    · cases h
    · split at h
      · cases h
        exact .removes (doRemoveSubnet_removes rt c i)
      · cases h
        exact .phase (d := c.directory) .active _ hsubnet

/-- A pause keeps the name and the repository of the subnet. -/
theorem ownerPauseSubnet_directory {coldkey : A} {i : ℕ}
    (h : c.ownerPauseSubnet rt coldkey i = .ok c') : c.directory.Step D L c'.directory := by
  obtain ⟨d, hd, _, rfl⟩ := ownerPauseSubnet_ok h
  exact .phase (d := c.directory) .paused _ hd

/-- So does the end of a pause. -/
theorem ownerUnpauseSubnet_directory {coldkey : A} {i : ℕ}
    (h : c.ownerUnpauseSubnet rt coldkey i = .ok c') : c.directory.Step D L c'.directory := by
  obtain ⟨d, hd, _, rfl⟩ := ownerUnpauseSubnet_ok h
  exact .phase (d := c.directory) .active _ hd

/-- An owner may remove the subnet. -/
theorem ownerDeactivateSubnet_directory {coldkey : A} {i : ℕ}
    (h : c.ownerDeactivateSubnet rt coldkey i = .ok c') : c.directory.Step D L c'.directory := by
  simp only [ownerDeactivateSubnet, State.isPaused, ensure_bind_ok, Except.ok.injEq] at h
  obtain ⟨_, _, _, rfl⟩ := h
  exact .removes (doRemoveSubnet_removes rt c i)

end Chain

/-- What a label does to the directory. -/
theorem SubnetOp.step_directory [DecidableEq A] {rt : Runtime A} {c : Chain A} {op : SubnetOp A}
    (hleft : op.IdsLeft c) :
    c.directory.Step rt.designatedEpochSlots rt.epochLength (op.step rt c).directory := by
  -- a call that fails has no effect
  have hcall : ∀ {x : Except Error (Chain A)}, (∀ c', x = .ok c' →
      c.directory.Step rt.designatedEpochSlots rt.epochLength c'.directory) →
      c.directory.Step rt.designatedEpochSlots rt.epochLength (commit c x).directory := by
    intro x hok
    exact commit_induction (P := fun c' : Chain A => c.directory.Step rt.designatedEpochSlots
      rt.epochLength c'.directory) (.of_eq rfl) hok
  cases op with
  | registerSubnet owner maxCost d => exact hcall fun _ => Chain.registerSubnet_directory hleft
  | ownerUpdateName coldkey i value => exact hcall fun _ => Chain.ownerUpdateName_directory
  | ownerUpdateRepo coldkey i value => exact hcall fun _ => Chain.ownerUpdateRepo_directory
  | activateSubnet coldkey i => exact hcall fun _ => Chain.activateSubnet_directory
  | ownerPauseSubnet coldkey i => exact hcall fun _ => Chain.ownerPauseSubnet_directory
  | ownerUnpauseSubnet coldkey i => exact hcall fun _ => Chain.ownerUnpauseSubnet_directory
  | ownerDeactivateSubnet coldkey i => exact hcall fun _ => Chain.ownerDeactivateSubnet_directory
  | collectiveRemoveSubnet i => exact .removes (Chain.doRemoveSubnet_removes rt c i)
  | other c' => exact .of_eq rfl
  | nextBlock => exact .removes (Chain.nextBlock_directory rt c)

/-- What holds of the directory of a new chain and what all steps keep holds along every run
whose registrations find an id. -/
theorem SubnetOp.run_directory [DecidableEq A] {rt : Runtime A} {I : Directory → Prop}
    (hstep : ∀ {d d' : Directory},
      d.Step rt.designatedEpochSlots rt.epochLength d' → I d → I d')
    {c : Chain A} {ops : List (SubnetOp A)}
    (hleft : Along (SubnetOp.step rt) (fun c op => op.IdsLeft c) c ops) (hc : I c.directory) :
    I (run (SubnetOp.step rt) c ops).directory :=
  run_invariant (I := fun c : Chain A => I c.directory)
    (fun _ _ hop hI => hstep (step_directory hop) hI) hleft hc

end Hypertensor
