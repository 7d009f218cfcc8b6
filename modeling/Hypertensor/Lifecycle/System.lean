import Mathlib
import Hypertensor.Base.Run
import Hypertensor.Lifecycle.Calls

/-!
# Hypertensor.Lifecycle.System — the network as a state machine

`NetworkOp` lists what can happen to the subnets and their nodes: the calls that
write them, any other call, and the next block with its hook. `NetworkOp.step_change`
says what each of them does to the lifecycle.
-/

namespace Hypertensor

open Base Relation

variable {A : Type} {strict room : Prop}

/-! ## The machine -/

/-- What can happen to the network. -/
inductive NetworkOp (A : Type) where
  | registerSubnet (owner : A) (maxCost : ℕ) (d : RegistrationSubnetData)
  | activateSubnet (coldkey : A) (subnetId : ℕ)
  | registerSubnetNode (coldkey : A) (r : SubnetNodeRegistration A)
  | removeSubnetNode (coldkey : A) (subnetId subnetNodeId : ℕ)
  | collectiveRemoveSubnet (subnetId : ℕ)
  | collectiveRemoveSubnetNode (subnetId subnetNodeId : ℕ)
  | ownerPauseSubnet (coldkey : A) (subnetId : ℕ)
  | ownerUnpauseSubnet (coldkey : A) (subnetId : ℕ)
  | ownerSetEmergencyValidatorSet (coldkey : A) (subnetId : ℕ) (subnetNodeIds : List ℕ)
  | ownerRevertEmergencyValidatorSet (coldkey : A) (subnetId : ℕ)
  | ownerDeactivateSubnet (coldkey : A) (subnetId : ℕ)
  | proposeAttestation (hotkey : A) (subnetId subnetNodeId : ℕ) (data : List SubnetNodeConsensusData)
      (prioritizeQueueNodeId removeQueueNodeId : Option ℕ) (args attestData : Option (List UInt8))
  | attest (hotkey : A) (subnetId subnetNodeId : ℕ) (data : Option (List UInt8))
  /-- Any call that edits the record of a node: its peers or its own fields. -/
  | updateNode (subnetId subnetNodeId : ℕ) (edit : SubnetNode → SubnetNode)
  /-- Any call that edits the record of a subnet: its name or its repository. -/
  | updateSubnet (subnetId : ℕ) (name repo : List UInt8)
  /-- Any other call. It may write all storage but that of subnets and nodes. -/
  | other (c : Chain A)
  /-- The next block begins. -/
  | nextBlock

/-- An edit of a node's record leaves its id, its validator and its class. -/
def SubnetNode.edited (n : SubnetNode) (edit : SubnetNode → SubnetNode) : SubnetNode :=
  { edit n with id := n.id, validatorId := n.validatorId, classification := n.classification }

namespace Chain

/-- Edit the record of a node, be it active or queued. -/
def updateNode (c : Chain A) (subnetId subnetNodeId : ℕ) (edit : SubnetNode → SubnetNode) :
    Chain A :=
  match c.nodes.subnetNodesData.find? (subnetId, subnetNodeId) with
  | some n => { c with nodes := { c.nodes with
      subnetNodesData := c.nodes.subnetNodesData.set (subnetId, subnetNodeId) (n.edited edit) } }
  | none =>
      match c.nodes.registeredSubnetNodesData.find? (subnetId, subnetNodeId) with
      | some n => { c with nodes := { c.nodes with
          registeredSubnetNodesData :=
            c.nodes.registeredSubnetNodesData.set (subnetId, subnetNodeId) (n.edited edit) } }
      | none => c

/-- Edit the record of a subnet. -/
def updateSubnet (c : Chain A) (subnetId : ℕ) (name repo : List UInt8) : Chain A :=
  match c.subnets.subnetsData.find? subnetId with
  | some d => c.setSubnetData subnetId { d with name := name, repo := repo }
  | none => c

/-- What a call that is none of the above leaves of `c`, whatever it does. -/
def keepNodes (c c' : Chain A) : Chain A :=
  { c' with
    block := c.block
    subnets := { c'.subnets with subnetsData := c.subnets.subnetsData }
    nodes := { c'.nodes with
      subnetNodesData := c.nodes.subnetNodesData
      registeredSubnetNodesData := c.nodes.registeredSubnetNodesData
      subnetNodeQueue := c.nodes.subnetNodeQueue
      subnetNodeElectionSlots := c.nodes.subnetNodeElectionSlots
      nodeSlotIndex := c.nodes.nodeSlotIndex
      totalSubnetElectableNodes := c.nodes.totalSubnetElectableNodes
      totalElectableNodes := c.nodes.totalElectableNodes
      totalSubnetNodes := c.nodes.totalSubnetNodes
      totalNodes := c.nodes.totalNodes
      totalActiveSubnetNodes := c.nodes.totalActiveSubnetNodes
      totalActiveNodes := c.nodes.totalActiveNodes
      emergencySubnetNodeElectionData := c.nodes.emergencySubnetNodeElectionData }
    registry := { c'.registry with
      subnetSlot := c.registry.subnetSlot
      slotAssignment := c.registry.slotAssignment
      assignedSlots := c.registry.assignedSlots
      totalSubnetNodeUids := c.registry.totalSubnetNodeUids
      subnetElectedValidator := c.registry.subnetElectedValidator
      subnetConsensusSubmission := c.registry.subnetConsensusSubmission }
    admission := { c'.admission with totalSubnetUids := c.admission.totalSubnetUids } }

variable [DecidableEq A] (rt : Runtime A)

/-- The next block, whose number is a `u32`. A block whose hook aborts is never built. -/
def nextBlock (c : Chain A) : Chain A :=
  if c.block < u32Max then
    ((c.atBlock (c.block + 1)).onInitialize rt u128 (c.block + 1)).getD c
  else c

end Chain

namespace NetworkOp

variable [DecidableEq A] (rt : Runtime A)

/-- The chain after a label. A call that fails changes nothing. -/
def step (c : Chain A) : NetworkOp A → Chain A
  | registerSubnet owner maxCost d => commit c (c.registerSubnet rt owner maxCost d)
  | activateSubnet coldkey subnetId => commit c (c.activateSubnet rt coldkey subnetId)
  | registerSubnetNode coldkey r => commit c (c.registerSubnetNode rt u128 coldkey r)
  | removeSubnetNode coldkey subnetId subnetNodeId =>
      commit c (c.removeSubnetNode rt coldkey subnetId subnetNodeId)
  | collectiveRemoveSubnet subnetId => (c.doRemoveSubnet rt subnetId).1
  | collectiveRemoveSubnetNode subnetId subnetNodeId =>
      c.performRemoveSubnetNode subnetId subnetNodeId
  | ownerPauseSubnet coldkey subnetId => commit c (c.ownerPauseSubnet rt coldkey subnetId)
  | ownerUnpauseSubnet coldkey subnetId => commit c (c.ownerUnpauseSubnet rt coldkey subnetId)
  | ownerSetEmergencyValidatorSet coldkey subnetId ids =>
      commit c (c.ownerSetEmergencyValidatorSet rt coldkey subnetId ids)
  | ownerRevertEmergencyValidatorSet coldkey subnetId =>
      commit c (c.ownerRevertEmergencyValidatorSet coldkey subnetId)
  | ownerDeactivateSubnet coldkey subnetId =>
      commit c (c.ownerDeactivateSubnet rt coldkey subnetId)
  | proposeAttestation hotkey subnetId subnetNodeId data prioritize remove args attestData =>
      commit c (c.proposeAttestation rt hotkey subnetId subnetNodeId data prioritize remove args
        attestData)
  | attest hotkey subnetId subnetNodeId data =>
      commit c (c.attest rt hotkey subnetId subnetNodeId data)
  | updateNode subnetId subnetNodeId edit => c.updateNode subnetId subnetNodeId edit
  | updateSubnet subnetId name repo => c.updateSubnet subnetId name repo
  | other c' => c.keepNodes c'
  | nextBlock => c.nextBlock rt

/-- The calls that write submissions. -/
def submits : NetworkOp A → Bool
  | proposeAttestation .. => true
  | attest .. => true
  | _ => false

/-- A registration finds an id that has not been given out. The counters of ids are
`u32`, and the last id would be given out again and again. -/
def IdsLeft (c : Chain A) : NetworkOp A → Prop
  | registerSubnet _ _ _ => c.admission.totalSubnetUids < u32Max
  | registerSubnetNode _ r => c.registry.totalSubnetNodeUids.val r.subnetId < u32Max
  | _ => True

/-- One more node can be counted. -/
def RoomLeft (c : Chain A) : NetworkOp A → Prop
  | registerSubnetNode _ _ => c.nodes.totalNodes < u32Max
  | _ => True

end NetworkOp

/-! ## Edits -/

namespace Chain

theorem updateNode_call (L : ℕ) (c : Chain A) (i id : ℕ) (edit : SubnetNode → SubnetNode) :
    c.lifecycle.Call strict room L (c.updateNode i id edit).lifecycle := by
  unfold updateNode
  split
  · next n hn =>
      have hid : (n.edited edit).id = n.id := rfl
      exact .updateActive (l := c.lifecycle) hn hid rfl
  · split
    · next n hn => exact .updateRegistered (l := c.lifecycle) hn
    · exact .of_eq rfl

theorem updateSubnet_call (L : ℕ) (c : Chain A) (i : ℕ) (name repo : List UInt8) :
    c.lifecycle.Call strict room L (c.updateSubnet i name repo).lifecycle := by
  unfold updateSubnet
  split
  · next d hd => exact .setSubnet (l := c.lifecycle) hd
  · exact .of_eq rfl

end Chain

/-! ## What a label can do -/

namespace Lifecycle

/-- The next block begins. -/
def tick (l : Lifecycle) : Lifecycle := { l with block := l.block + 1 }

/-- What can happen without a submission: a call, or a block. -/
inductive Quiet (strict room : Prop) (L : ℕ) : Lifecycle → Lifecycle → Prop
  | call {l l' : Lifecycle} (h : Call strict room L l l') : Quiet strict room L l l'
  | block {l l' : Lifecycle} (hblock : l.block < u32Max)
      (hruns : l.tick.Runs strict L (l.slotAssignment.find? (l.tick.block % L)) l') :
      Quiet strict room L l l'

/-- What can happen in the network. -/
inductive Change (strict room : Prop) (L : ℕ) : Lifecycle → Lifecycle → Prop
  | quiet {l l' : Lifecycle} (h : Quiet strict room L l l') : Change strict room L l l'
  | submit {l l' : Lifecycle} (h : Submit L l l') : Change strict room L l l'

end Lifecycle

section Change

variable [DecidableEq A] {rt : Runtime A}

theorem Chain.nextBlock_quiet (c : Chain A)
    (hset : strict → c.block < u32Max → c.lifecycle.tick.SettleableAt rt.epochLength) :
    c.lifecycle.Quiet strict room rt.epochLength (c.nextBlock rt).lifecycle := by
  unfold Chain.nextBlock
  split
  · next hblock =>
      cases hhook : (c.atBlock (c.block + 1)).onInitialize rt u128 (c.block + 1) with
      | none => exact .call (.of_eq rfl)
      | some c' =>
          have hruns : (c.atBlock (c.block + 1)).lifecycle.Runs strict rt.epochLength _ c'.lifecycle :=
            Chain.onInitialize_runs (fun hs => hset hs hblock) hhook
          exact .block hblock hruns
  · exact .call (.of_eq rfl)

omit [DecidableEq A] in
theorem commit_call {ε : Type} {c : Chain A} {x : Except ε (Chain A)}
    (hok : ∀ c', x = .ok c' → c.lifecycle.Call strict room rt.epochLength c'.lifecycle) :
    c.lifecycle.Quiet strict room rt.epochLength (commit c x).lifecycle :=
  .call (commit_induction (P := fun c' : Chain A => c.lifecycle.Call strict room rt.epochLength c'.lifecycle)
    (.of_eq rfl) hok)

/-- What a label that submits nothing does to the lifecycle. -/
theorem NetworkOp.step_quiet (rt : Runtime A) (c : Chain A) (op : NetworkOp A)
    (hop : op.submits = false)
    (hleft : strict → op.IdsLeft c) (hroom : room → op.RoomLeft c)
    (hset : strict → c.block < u32Max → c.lifecycle.tick.SettleableAt rt.epochLength) :
    c.lifecycle.Quiet strict room rt.epochLength (op.step rt c).lifecycle := by
  -- what a call does to the store says what it does to the lifecycle
  have heff : ∀ {c' : Chain A}, c.store.Call u128 strict room rt.designatedEpochSlots rt.epochLength c'.store →
      c.lifecycle.Call strict room rt.epochLength c'.lifecycle := fun h => h.lifecycle
  have heffect : ∀ {x : Except Error (Chain A)},
      (∀ c', x = .ok c' →
        c.store.Call u128 strict room rt.designatedEpochSlots rt.epochLength c'.store) →
      c.lifecycle.Quiet strict room rt.epochLength (commit c x).lifecycle := fun hok =>
    commit_call fun c' h => (hok c' h).lifecycle
  cases op with
  | registerSubnet owner maxCost d =>
      exact heffect fun _ => Chain.registerSubnet_effect hleft
  | activateSubnet coldkey i => exact heffect fun _ => Chain.activateSubnet_effect
  | registerSubnetNode coldkey r =>
      exact heffect fun _ => Chain.registerSubnetNode_effect hleft hroom
  | removeSubnetNode coldkey i id => exact heffect fun _ => Chain.removeSubnetNode_effect
  | collectiveRemoveSubnet i => exact .call (heff (Chain.doRemoveSubnet_effect rt c i))
  | collectiveRemoveSubnetNode i id => exact .call (heff (Chain.performRemoveSubnetNode_effect c i id))
  | ownerPauseSubnet coldkey i => exact heffect fun _ => Chain.ownerPauseSubnet_effect
  | ownerUnpauseSubnet coldkey i => exact heffect fun _ => Chain.ownerUnpauseSubnet_effect
  | ownerSetEmergencyValidatorSet coldkey i ids =>
      exact heffect fun _ h => .of_eq (Chain.ownerSetEmergencyValidatorSet_store h)
  | ownerRevertEmergencyValidatorSet coldkey i =>
      exact heffect fun _ h => .of_eq (Chain.ownerRevertEmergencyValidatorSet_store h)
  | ownerDeactivateSubnet coldkey i => exact heffect fun _ => Chain.ownerDeactivateSubnet_effect
  | proposeAttestation hotkey i id data prioritize remove args attestData => cases hop
  | attest hotkey i id data => cases hop
  | updateNode i id edit => exact .call (Chain.updateNode_call _ c i id edit)
  | updateSubnet i name repo => exact .call (Chain.updateSubnet_call _ c i name repo)
  | other c' => exact .call (.other (l := c.lifecycle) c'.registry.subnetNodeQueueEpochs)
  | nextBlock => exact Chain.nextBlock_quiet c hset

/-- What a label does to the lifecycle. -/
theorem NetworkOp.step_change (rt : Runtime A) (c : Chain A) (op : NetworkOp A)
    (hleft : strict → op.IdsLeft c) (hroom : room → op.RoomLeft c)
    (hset : strict → c.block < u32Max → c.lifecycle.tick.SettleableAt rt.epochLength) :
    c.lifecycle.Change strict room rt.epochLength (op.step rt c).lifecycle := by
  by_cases hop : op.submits = false
  · exact .quiet (op.step_quiet rt c hop hleft hroom hset)
  · cases op with
    | proposeAttestation hotkey i id data prioritize remove args attestData =>
        rcases commit_cases (s := c) (c.proposeAttestation rt hotkey i id data prioritize remove args
          attestData) with h | h
        · exact .quiet (.call (.of_eq (congrArg Chain.lifecycle h)))
        · exact .submit ((Chain.proposeAttestation_effect h).lifecycle)
    | attest hotkey i id data =>
        rcases commit_cases (s := c) (c.attest rt hotkey i id data) with h | h
        · exact .quiet (.call (.of_eq (congrArg Chain.lifecycle h)))
        · exact .submit ((Chain.attest_effect h).lifecycle)
    | _ => exact absurd rfl hop

end Change

/-! ## A run -/

/-- Balances of the accounts. -/
def demoBalances : StorageMap ℕ ℕ :=
  [10, 20, 30, 40].foldl (fun m a => m.set a 1000000000000000000000000) ∅

/-- A chain on which four validators have registered. -/
def demoValidators : Chain ℕ :=
  let c := Chain.genesis Runtime.runtime demoBalances
  { c with toState := [10, 20, 30, 40].foldl (fun s coldkey =>
      commit s (s.registerValidator coldkey (coldkey + 1) 0 none)) c.toState }

/-- A subnet for the nodes of these validators. -/
def demoSubnet : RegistrationSubnetData where
  name := [1]
  repo := [2]
  minStake := 100000000000000000000
  maxStake := 1000000000000000000000
  delegateStakePercentage := 100000000000000000
  initialValidators := [1, 2, 3, 4].foldl (fun m id => m.set id 1) ∅
  bootnodes := [(49 :: List.replicate 40 1, [165, 3, 1, 1])]

/-- The registration of a node by a validator. -/
def demoRegistration (validatorId : ℕ) : SubnetNodeRegistration ℕ where
  validatorId := validatorId
  subnetId := 128001
  hotkey := none
  peerInfo := ⟨49 :: List.replicate 40 (UInt8.ofNat validatorId), none⟩
  bootnodePeerInfo := none
  clientPeerInfo := none
  stakeToBeAdded := 100000000000000000000
  unique := none
  nonUnique := none
  maxBurnAmount := 1000000000000000000

/-- Validators register, one of their owners registers a subnet, and three of them
register a node in it. -/
def demoNetwork : List (NetworkOp ℕ) :=
  [.other demoValidators, .registerSubnet 10 1000000000000000000 demoSubnet,
    .registerSubnetNode 10 (demoRegistration 1), .registerSubnetNode 20 (demoRegistration 2),
    .registerSubnetNode 30 (demoRegistration 3)]

/-- The chain after labels from genesis. -/
def demoAfter (ops : List (NetworkOp ℕ)) : Chain ℕ :=
  run (NetworkOp.step Runtime.runtime) (.genesis Runtime.runtime demoBalances) ops

end Hypertensor
