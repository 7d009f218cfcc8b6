import Mathlib
import Hypertensor.Validators
import Hypertensor.Lifecycle.Owner

/-!
# Hypertensor.Lifecycle.Registration — how a node enters a subnet

`register_subnet_node`. While the subnet itself is only registered, the node is
active at once, as a validator with an election slot; later it is queued, and
recorded twice: in `RegisteredSubnetNodesData` and as a copy in `SubnetNodeQueue`.

The node's id is the next one of the subnet's counter. All checks come before the
first write.
-/

namespace Hypertensor

open Base

variable {A : Type} [DecidableEq A]

/-- The arguments of `register_subnet_node`. -/
structure SubnetNodeRegistration (A : Type) where
  validatorId : ℕ
  subnetId : ℕ
  hotkey : Option A
  peerInfo : PeerInfo
  bootnodePeerInfo : Option PeerInfo
  clientPeerInfo : Option PeerInfo
  stakeToBeAdded : ℕ
  unique : Option (List UInt8)
  nonUnique : Option (List UInt8)
  maxBurnAmount : ℕ

/-! ## Peers -/

/-- `validate_peer_id`. -/
def validatePeerId (peerId : List UInt8) : Bool :=
  if peerId.length < 32 ∨ peerId.length > 128 then false
  else
    match peerId with
    | first :: second :: _ =>
        decide (first = 49 ∨ first = 81 ∧ second = 109 ∨ first = 102 ∨ first = 98 ∨ first = 122 ∨
          first = 109)
    | _ => false

/-- The first index that has an entry decides: it must be one's own. -/
def ownOrOwnerless : List (Option ℕ × ℕ) → Bool
  | [] => true
  | (none, _) :: indexes => ownOrOwnerless indexes
  | (some owner, self) :: _ => decide (owner = self)

namespace Chain

variable (rt : Runtime A)

/-- `is_owner_of_peer_or_ownerless`. -/
def isOwnerOfPeerOrOwnerless (c : Chain A) (subnetId subnetNodeId overwatchNodeId : ℕ)
    (peerId : List UInt8) : Bool :=
  ownOrOwnerless [(c.nodes.peerIdSubnetNodeId.find? (subnetId, peerId), subnetNodeId),
    (c.nodes.bootnodePeerIdSubnetNodeId.find? (subnetId, peerId), subnetNodeId),
    (c.nodes.clientPeerIdSubnetNodeId.find? (subnetId, peerId), subnetNodeId),
    (c.admission.peerIdOverwatchNodeId.find? (subnetId, peerId), overwatchNodeId)]

/-- `is_owner_of_multiaddr_or_ownerless`. -/
def isOwnerOfMultiaddrOrOwnerless (c : Chain A) (subnetId subnetNodeId : ℕ)
    (multiaddr : List UInt8) : Bool :=
  ownOrOwnerless [(c.nodes.multiaddrSubnetNodeId.find? (subnetId, multiaddr), subnetNodeId)]

/-- `validate_peer_info`. -/
def validatePeerInfo (c : Chain A) (subnetId subnetNodeId overwatchNodeId : ℕ)
    (peerInfo : PeerInfo) : Except Error Unit := do
  ensure (validatePeerId peerInfo.peerId) .invalidPeerId
  ensure (c.isOwnerOfPeerOrOwnerless subnetId subnetNodeId overwatchNodeId peerInfo.peerId)
    .peerIdExist
  match peerInfo.multiaddr with
  | none => .ok ()
  | some multiaddr => do
      rt.doVerifyMultiaddr multiaddr
      ensure (c.isOwnerOfMultiaddrOrOwnerless subnetId subnetNodeId multiaddr) .multiaddrExist

end Chain

/-- Two multiaddresses, where both are given, differ. -/
def ensureMultiaddrsDiffer (a b : PeerInfo) : Except Error Unit :=
  match a.multiaddr, b.multiaddr with
  | some x, some y => ensure (decide (x ≠ y)) .multiaddrExist
  | _, _ => .ok ()

namespace Chain

variable (rt : Runtime A)

/-- The client's part of `validate_registration_peer_infos`. -/
def validateClientPeerInfo (c : Chain A) (subnetId : ℕ) (peerInfo : PeerInfo)
    (bootnodePeerInfo : Option PeerInfo) (client : PeerInfo) : Except Error Unit := do
  c.validatePeerInfo rt subnetId 0 0 client
  ensure (decide (client.peerId ≠ peerInfo.peerId)) .peerIdExist
  ensure (decide (∀ b ∈ bootnodePeerInfo, client.peerId ≠ b.peerId)) .peerIdExist
  ensureMultiaddrsDiffer client peerInfo
  match bootnodePeerInfo with
  | none => .ok ()
  | some b => ensureMultiaddrsDiffer client b

/-- `validate_registration_peer_infos`. -/
def validateRegistrationPeerInfos (c : Chain A) (subnetId : ℕ) (peerInfo : PeerInfo)
    (bootnodePeerInfo clientPeerInfo : Option PeerInfo) : Except Error Unit := do
  c.validatePeerInfo rt subnetId 0 0 peerInfo
  match bootnodePeerInfo with
  | none => .ok ()
  | some b => do
      c.validatePeerInfo rt subnetId 0 0 b
      ensure (decide (b.peerId ≠ peerInfo.peerId)) .peerIdExist
      ensureMultiaddrsDiffer b peerInfo
  match clientPeerInfo with
  | none => .ok ()
  | some client => c.validateClientPeerInfo rt subnetId peerInfo bootnodePeerInfo client

/-! ## Checks -/

/-- `is_subnet_registering`. -/
def isSubnetRegistering (c : Chain A) (subnetId : ℕ) (state : SubnetState) (epoch : ℕ) : Bool :=
  if state ≠ .registered then false
  else
    match c.registry.subnetRegistrationEpoch.find? subnetId with
    | some registeredEpoch =>
        decide (epoch ≤ min (registeredEpoch + c.hookParams.subnetRegistrationEpochs) u32Max)
    | none => false

/-- `is_subnet_in_enactment`. -/
def isSubnetInEnactment (c : Chain A) (subnetId : ℕ) (state : SubnetState) (epoch : ℕ) : Bool :=
  if state ≠ .registered then false
  else
    match c.registry.subnetRegistrationEpoch.find? subnetId with
    | some registeredEpoch =>
        let maxRegistrationEpoch :=
          min (registeredEpoch + c.hookParams.subnetRegistrationEpochs) u32Max
        let maxEnactmentEpoch := min (maxRegistrationEpoch + c.hookParams.subnetEnactmentEpochs) u32Max
        decide (epoch > maxRegistrationEpoch) && decide (epoch ≤ maxEnactmentEpoch)
    | none => false

/-- Before a subnet is active, only the validators of its list register, each as
many nodes as the list gives it. -/
def ensureInitialValidator (c : Chain A) (subnetId validatorId : ℕ) : Except Error Unit :=
  match c.admission.nodeRegistrationInitialValidatorIds.find? subnetId with
  | none => .ok ()
  | some map =>
      match map.find? validatorId with
      | none => .error .validatorIdNotInWhitelist
      | some maxRegistrations =>
          ensure (decide ((c.registry.initialValidatorData.getD subnetId ∅).val validatorId <
            maxRegistrations)) .maxRegisteredNodes

/-- `calculate_burn_amount`. -/
def calculateBurnAmount (c : Chain A) (subnetId : ℕ) : ℕ :=
  percentMul c.callParams.baseNodeBurnAmount
    (c.registry.currentNodeBurnRate.getD subnetId percentageFactor)

/-- The amounts of a registration, and that the coldkey can pay them. -/
def ensureStake (ar : Arith) (c : Chain A) (coldkey : A) (subnetNodeId burnAmount : ℕ)
    (r : SubnetNodeRegistration A) : Except Error Unit := do
  ensure (decide (burnAmount ≤ r.maxBurnAmount)) .maxBurnAmountExceeded
  ensure (decide (r.stakeToBeAdded ≠ 0)) .invalidAmount
  let stake := ar.add (c.stake.nodeSubnetStake.val (subnetNodeId, r.subnetId)) r.stakeToBeAdded
  ensure (decide (stake ≥ c.subnets.subnetMinStakeBalance.getD r.subnetId 100000000000000000000))
    .minStakeNotReached
  ensure (decide (stake ≤ c.subnets.subnetMaxStakeBalance.getD r.subnetId 1000000000000000000000))
    .maxStakeReached
  let totalWithdrawal := ar.add burnAmount r.stakeToBeAdded
  ensure (c.canRemoveBalance rt.toConfig coldkey totalWithdrawal) .notEnoughBalanceToStake
  ensure (decide (c.freeBalance.val coldkey - totalWithdrawal ≥ rt.minimumBalance))
    .notEnoughBalanceToStake
  ensure (!c.exceedsTxRateLimit (c.lastTxBlock.val coldkey) c.block) .txRateLimitExceeded

/-- Room for a node that is active at once. -/
def ensureRoom (c : Chain A) (subnetId subnetNodeId : ℕ) (state : SubnetState) : Except Error Unit :=
  if state = .registered then do
    ensure (decide (c.nodes.totalActiveSubnetNodes.val subnetId < c.hookParams.maxSubnetNodes))
      .maxRegisteredNodes
    ensure (decide (subnetNodeId ∉ c.nodes.subnetNodeElectionSlots.getD subnetId []))
      .electionSlotInsertFail
  else .ok ()

/-- Burn the fee and withdraw the stake. -/
def withdrawForRegistration (c : Chain A) (coldkey : A) (burnAmount stakeToBeAdded : ℕ) :
    Except Error (Chain A) := do
  let s₁ ← if burnAmount > 0
    then okOr (c.removeBalance rt.toConfig coldkey burnAmount) .balanceBurnError
    else .ok c.toState
  let s₂ ← okOr (s₁.removeBalance rt.toConfig coldkey stakeToBeAdded) .balanceWithdrawalError
  .ok { c with toState := s₂ }

end Chain

/-! ## Writes -/

/-- Enter an identifier, if it is given, in an index. -/
def insertIndex (m : StorageMap (ℕ × List UInt8) ℕ) (subnetId : ℕ) (key : Option (List UInt8))
    (subnetNodeId : ℕ) : StorageMap (ℕ × List UInt8) ℕ :=
  match key with
  | some k => m.set (subnetId, k) subnetNodeId
  | none => m

namespace SubnetNodeRegistration

variable (r : SubnetNodeRegistration A)

omit [DecidableEq A]

/-- The record of the node, in the class it registers with. -/
def toSubnetNode (subnetNodeId subnetEpoch : ℕ) : SubnetNode where
  id := subnetNodeId
  validatorId := r.validatorId
  peerInfo := r.peerInfo
  bootnodePeerInfo := r.bootnodePeerInfo
  clientPeerInfo := r.clientPeerInfo
  classification := ⟨.registered, wrapAdd 32 subnetEpoch 1⟩
  unique := r.unique
  nonUnique := r.nonUnique

/-- What is noted about any new node: its identifiers, reputation, validator and
stake, and that there is one more. -/
def enter (ar : Arith) (c : Chain A) (subnetNodeId : ℕ) : Chain A :=
  let n := c.nodes
  let s : State A := { c.toState with nodes := { n with
    peerIdSubnetNodeId := n.peerIdSubnetNodeId.set (r.subnetId, r.peerInfo.peerId) subnetNodeId
    multiaddrSubnetNodeId := insertIndex (insertIndex (insertIndex n.multiaddrSubnetNodeId
      r.subnetId r.peerInfo.multiaddr subnetNodeId)
      r.subnetId (r.bootnodePeerInfo.bind PeerInfo.multiaddr) subnetNodeId)
      r.subnetId (r.clientPeerInfo.bind PeerInfo.multiaddr) subnetNodeId
    bootnodePeerIdSubnetNodeId := insertIndex n.bootnodePeerIdSubnetNodeId r.subnetId
      (r.bootnodePeerInfo.map PeerInfo.peerId) subnetNodeId
    clientPeerIdSubnetNodeId := insertIndex n.clientPeerIdSubnetNodeId r.subnetId
      (r.clientPeerInfo.map PeerInfo.peerId) subnetNodeId
    uniqueParamSubnetNodeId := insertIndex n.uniqueParamSubnetNodeId r.subnetId r.unique subnetNodeId
    subnetNodeReputation := n.subnetNodeReputation.set (r.subnetId, subnetNodeId) percentageFactor
    totalSubnetNodes := n.totalSubnetNodes.set r.subnetId
      (wrapAdd 32 (n.totalSubnetNodes.val r.subnetId) 1)
    totalNodes := wrapAdd 32 n.totalNodes 1
    subnetNodeValidatorId := n.subnetNodeValidatorId.set (r.subnetId, subnetNodeId) r.validatorId } }
  { c with
    toState := s.increaseNodeStake ar subnetNodeId r.subnetId r.stakeToBeAdded
    registry := { c.registry with
      totalSubnetNodeUids := c.registry.totalSubnetNodeUids.set r.subnetId subnetNodeId
      nodeRegistrationsThisEpoch := c.registry.nodeRegistrationsThisEpoch.set r.subnetId
        (min (c.registry.nodeRegistrationsThisEpoch.val r.subnetId + 1) u32Max) } }

/-- Queue the node of an active subnet. -/
def enqueue (c : Chain A) (subnetNode : SubnetNode) : Chain A :=
  { c with nodes := { c.nodes with
    registeredSubnetNodesData :=
      c.nodes.registeredSubnetNodesData.set (r.subnetId, subnetNode.id) subnetNode
    subnetNodeQueue := c.nodes.subnetNodeQueue.set r.subnetId
      (c.nodes.subnetNodeQueue.getD r.subnetId [] ++ [subnetNode]) } }

/-- Count the node of a subnet that is not active yet. -/
def countInitial (c : Chain A) : Chain A :=
  let map := c.registry.initialValidatorData.getD r.subnetId ∅
  { c with registry := { c.registry with
    initialValidatorData := c.registry.initialValidatorData.set r.subnetId
      (map.set r.validatorId (wrapAdd 32 (map.val r.validatorId) 1)) } }

/-- The end of a registration: the validator has one more node, which may have a
hotkey of its own. -/
def finish (c : Chain A) (subnetNodeId : ℕ) : Chain A :=
  let map := c.validators.validatorSubnetNodes.getD r.validatorId ∅
  { c with
    validators := { c.validators with
      validatorSubnetNodes := c.validators.validatorSubnetNodes.set r.validatorId
        (map.set r.subnetId (insert subnetNodeId (map.getD r.subnetId ∅))) }
    nodes := { c.nodes with
      subnetNodeIdHotkey := match r.hotkey with
        | some hotkey => c.nodes.subnetNodeIdHotkey.set (r.subnetId, subnetNodeId) hotkey
        | none => c.nodes.subnetNodeIdHotkey } }

end SubnetNodeRegistration

/-- `WeightMeter::new`. -/
def WeightMeter.unlimited : WeightMeter := ⟨⟨u64Max, u64Max⟩, ⟨0, 0⟩⟩

namespace Chain

variable (rt : Runtime A)

/-- `perform_activate_subnet_node_v2`. -/
def performActivateSubnetNode (c : Chain A) (validatorId subnetId : ℕ) (state : SubnetState)
    (subnetNode : SubnetNode) (subnetEpoch : ℕ) : Except Error (Chain A) := do
  ensure (decide (c.nodes.totalActiveSubnetNodes.val subnetId < c.hookParams.maxSubnetNodes))
    .maxRegisteredNodes
  let h := Hook.doActivateSubnetNode rt ⟨c, .unlimited, []⟩ validatorId subnetId state subnetNode
    subnetEpoch false
  ensure h.2 .electionSlotInsertFail
  .ok h.1.chain

/-- Where a new node goes: into the subnet, or into its queue. -/
def placeNode (c : Chain A) (r : SubnetNodeRegistration A) (state : SubnetState)
    (subnetNode : SubnetNode) (subnetEpoch : ℕ) : Except Error (Chain A) :=
  if state = .registered then
    (r.countInitial c).performActivateSubnetNode rt r.validatorId r.subnetId state subnetNode
      subnetEpoch
  else .ok (r.enqueue c subnetNode)

/-- The id of the next node of a subnet. -/
def nextSubnetNodeId (c : Chain A) (subnetId : ℕ) : ℕ :=
  min (c.registry.totalSubnetNodeUids.val subnetId + 1) u32Max

/-- `register_subnet_node`. -/
def registerSubnetNode (ar : Arith) (c : Chain A) (coldkey : A) (r : SubnetNodeRegistration A) :
    Except Error (Chain A) := do
  c.isPaused
  c.ensureCanonicalValidatorColdkey coldkey r.validatorId
  let subnet ← okOr (c.subnets.subnetsData.find? r.subnetId) .invalidSubnetId
  ensure (decide (subnet.state ≠ .paused)) .subnetIsPaused
  ensure (!c.isSubnetInEnactment r.subnetId subnet.state (c.currentEpoch rt))
    .subnetMustBeRegisteringOrActivated
  let subnetEpoch := c.currentSubnetEpoch rt r.subnetId
  c.ensureInitialValidator r.subnetId r.validatorId
  ensure (decide ((c.nodes.subnetNodeQueue.getD r.subnetId []).length ≤
    c.registry.maxRegisteredNodes.getD r.subnetId 64)) .maxQueuedNodes
  let subnetNodeId := c.nextSubnetNodeId r.subnetId
  c.validateRegistrationPeerInfos rt r.subnetId r.peerInfo r.bootnodePeerInfo r.clientPeerInfo
  ensure (decide (∀ u ∈ r.unique, ¬c.nodes.uniqueParamSubnetNodeId.contains (r.subnetId, u)))
    .subnetNodeUniqueParamTaken
  let burnAmount := c.calculateBurnAmount r.subnetId
  c.ensureStake rt ar coldkey subnetNodeId burnAmount r
  c.ensureRoom r.subnetId subnetNodeId subnet.state
  let c₁ ← c.withdrawForRegistration rt coldkey burnAmount r.stakeToBeAdded
  let c₂ := r.enter ar c₁ subnetNodeId
  let c₃ : Chain A := { c₂ with toState := c₂.toState.setLastTxBlock coldkey c.block }
  let c₄ ← c₃.placeNode rt r subnet.state (r.toSubnetNode subnetNodeId subnetEpoch) subnetEpoch
  .ok (r.finish c₄ subnetNodeId)

end Chain

end Hypertensor
