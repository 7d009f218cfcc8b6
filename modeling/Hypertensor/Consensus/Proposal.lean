import Mathlib
import Hypertensor.Staking.Calls
import Hypertensor.Epoch.Slot

/-!
# Hypertensor.Consensus.Proposal — proposals and attestations

`propose_attestation`: the elected validator submits the data of the current
epoch of its subnet, and with it fixes who may attest. `attest`: one of these
nodes agrees. Both are bound to the epoch by the clock of `utilities/era.rs`.

`EpochLength` is a constant of the runtime and not zero, so the calls divide by
it without further ado.
-/

namespace Hypertensor

open Base

variable {A : Type} [DecidableEq A]

/-! ## Classes -/

/-- The order of the classes. -/
def SubnetNodeClass.rank : SubnetNodeClass → ℕ
  | registered => 0
  | idle => 1
  | included => 2
  | validator => 3

/-- `has_classification`. -/
def SubnetNode.hasClassification (n : SubnetNode) (required : SubnetNodeClass) (subnetEpoch : ℕ) :
    Bool :=
  decide (required.rank ≤ n.classification.nodeClass.rank) &&
    decide (n.classification.startEpoch ≤ subnetEpoch)

/-- `get_active_classified_subnet_nodes`. -/
def State.getActiveClassifiedSubnetNodes (s : State A) (subnetId : ℕ)
    (classification : SubnetNodeClass) (subnetEpoch : ℕ) : List SubnetNode :=
  (s.nodes.subnetNodesData.prefixValues subnetId).filter fun n =>
    n.hasClassification classification subnetEpoch

/-- `get_subnet_node_associated_hotkey`: a hotkey of the node's own comes before
the one of its validator. -/
def State.getSubnetNodeAssociatedHotkey (s : State A) (subnetId subnetNodeId : ℕ) :
    Except Error A :=
  match s.nodes.subnetNodeIdHotkey.find? (subnetId, subnetNodeId) with
  | some hotkey => .ok hotkey
  | none => do
      let validatorId ← okOr (s.nodes.subnetNodeValidatorId.find? (subnetId, subnetNodeId))
        .invalidSubnetNodeId
      okOr (s.validators.validatorIdHotkey.find? validatorId) .invalidValidator

/-! ## The clock -/

/-- `SubnetEpochData`. -/
structure SubnetEpochData where
  subnetEpoch : ℕ
  subnetEpochProgression : ℕ
deriving DecidableEq, Repr

namespace Chain

variable (rt : Runtime A)

/-- `get_current_epoch_as_u32`. -/
def currentEpoch (c : Chain A) : ℕ := c.block / rt.epochLength

/-- `get_current_subnet_epoch_as_u32`. -/
def currentSubnetEpoch (c : Chain A) (subnetId : ℕ) : ℕ :=
  let subnetSlot := c.registry.subnetSlot.val subnetId
  if subnetSlot = 0 then 0
  else if c.block < subnetSlot then 0
  else (c.block - subnetSlot) / rt.epochLength

omit [DecidableEq A] in
/-- The block hook reads the same epoch. -/
theorem getCurrentSubnetEpochAsU32_eq (hlen : rt.epochLength ≠ 0) (c : Chain A) (subnetId : ℕ) :
    c.getCurrentSubnetEpochAsU32 rt subnetId = some (c.currentSubnetEpoch rt subnetId) := by
  unfold getCurrentSubnetEpochAsU32 currentSubnetEpoch
  dsimp only
  split
  · rfl
  · split
    · rfl
    · exact quot?_of_ne hlen

/-- `get_current_subnet_epoch_data`. -/
def getCurrentSubnetEpochData (c : Chain A) (subnetId : ℕ) : Option SubnetEpochData :=
  let subnetSlot := c.registry.subnetSlot.val subnetId
  if subnetSlot = 0 then none
  else if c.block < subnetSlot then none
  else
    let offsetBlock := c.block - subnetSlot
    some ⟨offsetBlock / rt.epochLength, percentDiv (offsetBlock % rt.epochLength) rt.epochLength⟩

/-- `attestor_subnet_epoch_data`: the epoch of a proposal, and how much of the time
it left has passed. -/
def attestorSubnetEpochData (c : Chain A) (subnetId blockProposed : ℕ) : Option SubnetEpochData :=
  let subnetSlot := c.registry.subnetSlot.val subnetId
  if subnetSlot = 0 then none
  else if c.block < blockProposed then none
  else
    let proposedOffset := blockProposed - subnetSlot
    let blocksSinceSubmission := c.block - blockProposed
    let remainingBlocksInEpoch := rt.epochLength - proposedOffset % rt.epochLength
    some ⟨proposedOffset / rt.epochLength,
      if blocksSinceSubmission ≥ remainingBlocksInEpoch then percentageFactor
      else percentDiv blocksSinceSubmission remainingBlocksInEpoch⟩

/-- `get_validator_reward_multiplier`. -/
def getValidatorRewardMultiplier (c : Chain A) (progress : ℕ) : ℕ :=
  min (rt.validatorRewardMultiplierFloat progress c.callParams.validatorRewardMidpoint
    c.callParams.validatorRewardK) percentageFactor

/-- `get_attestor_reward_multiplier`. -/
def getAttestorRewardMultiplier (c : Chain A) (progress : ℕ) : ℕ :=
  min (rt.attestorRewardMultiplierFloat progress c.callParams.attestorMinRewardFactor
    c.callParams.attestorRewardExponent) percentageFactor

/-! ## What a proposal is made of -/

/-- `canonicalize_consensus_data_for_submission`: only nodes of at least the
included class are scored. -/
def canonicalizeConsensusDataForSubmission (c : Chain A) (subnetId subnetEpoch : ℕ)
    (data : List SubnetNodeConsensusData) : Except Error (List SubnetNodeConsensusData × ℕ) :=
  canonicalizeConsensusDataEntries (data.filter fun entry =>
    match c.nodes.subnetNodesData.find? (subnetId, entry.subnetNodeId) with
    | some node => node.hasClassification .included subnetEpoch
    | none => false)

/-- The nodes that may attest to a proposal made now. -/
def eligibleAttestors (c : Chain A) (subnetId : ℕ) : List ℕ :=
  match c.nodes.emergencySubnetNodeElectionData.find? subnetId with
  | some d => d.subnetNodeIds
  | none => c.nodes.subnetNodeElectionSlots.getD subnetId []

end Chain

/-- The pass over the queue: whether the node to prioritise is in it, and whether
the node to remove is in it and no longer immune. -/
def checkQueue (prioritizeQueueNodeId removeQueueNodeId : Option ℕ) (immunityEpochs subnetEpoch : ℕ) :
    Bool → Bool → List SubnetNode → Bool × Bool
  | prioritizeExists, removeAllowed, [] => (prioritizeExists, removeAllowed)
  | prioritizeExists, removeAllowed, node :: queue =>
      let prioritizeExists := prioritizeExists || decide (prioritizeQueueNodeId = some node.id)
      let removeAllowed := if removeQueueNodeId = some node.id
        then decide (wrapAdd 32 node.classification.startEpoch immunityEpochs ≤ subnetEpoch)
        else removeAllowed
      if prioritizeExists && (removeQueueNodeId.isNone || removeAllowed) then
        (prioritizeExists, removeAllowed)
      else checkQueue prioritizeQueueNodeId removeQueueNodeId immunityEpochs subnetEpoch
        prioritizeExists removeAllowed queue

namespace Chain

/-- The two queue requests of a proposal, each dropped if it may not be made. -/
def queueRequests (c : Chain A) (subnetId subnetEpoch : ℕ)
    (prioritizeQueueNodeId removeQueueNodeId : Option ℕ) : Option ℕ × Option ℕ :=
  if prioritizeQueueNodeId.isSome || removeQueueNodeId.isSome then
    let r := checkQueue prioritizeQueueNodeId removeQueueNodeId
      (c.registry.queueImmunityEpochs.getD subnetId 3) subnetEpoch prioritizeQueueNodeId.isNone
      removeQueueNodeId.isNone (c.nodes.subnetNodeQueue.getD subnetId [])
    (if r.1 then prioritizeQueueNodeId else none, if r.2 then removeQueueNodeId else none)
  else (prioritizeQueueNodeId, removeQueueNodeId)

/-- Store a submission. -/
def setSubmission (c : Chain A) (subnetId subnetEpoch : ℕ) (d : ConsensusData) : Chain A :=
  { c with registry := { c.registry with
      subnetConsensusSubmission :=
        c.registry.subnetConsensusSubmission.set (subnetId, subnetEpoch) d } }

variable (rt : Runtime A)

/-- The submission of an elected validator, who attests to it at once. -/
def proposal (c : Chain A) (subnetId validatorId : ℕ) (epoch : SubnetEpochData)
    (data : List SubnetNodeConsensusData) (prioritizeQueueNodeId removeQueueNodeId : Option ℕ)
    (args attestData : Option (List UInt8)) : ConsensusData :=
  let requests := c.queueRequests subnetId epoch.subnetEpoch prioritizeQueueNodeId removeQueueNodeId
  { validatorId := validatorId
    block := c.block
    validatorEpochProgress := epoch.subnetEpochProgression
    validatorRewardFactor := c.getValidatorRewardMultiplier rt epoch.subnetEpochProgression
    attests := (∅ : StorageMap ℕ AttestEntry).set validatorId
      ⟨c.block, 0, percentageFactor, attestData⟩
    validatorIds := canonicalizeConsensusValidatorIds (c.eligibleAttestors subnetId)
    subnetNodes := c.getActiveClassifiedSubnetNodes subnetId .idle epoch.subnetEpoch
    prioritizeQueueNodeId := requests.1
    removeQueueNodeId := requests.2
    data := data
    args := args }

/-! ## Calls -/

/-- `propose_attestation`. -/
def proposeAttestation (c : Chain A) (hotkey : A) (subnetId subnetNodeId : ℕ)
    (data : List SubnetNodeConsensusData) (prioritizeQueueNodeId removeQueueNodeId : Option ℕ)
    (args attestData : Option (List UInt8)) : Except Error (Chain A) := do
  c.isPaused
  let associated ← c.getSubnetNodeAssociatedHotkey subnetId subnetNodeId
  ensure (decide (associated = hotkey)) .invalidValidator
  let epoch ← okOr (c.getCurrentSubnetEpochData rt subnetId) .subnetEpochDataIsNone
  let validatorId ← okOr (c.registry.subnetElectedValidator.find? (subnetId, epoch.subnetEpoch))
    .noElectedValidator
  ensure (decide (subnetNodeId = validatorId)) .invalidSubnetNodeId
  ensure (!c.registry.subnetConsensusSubmission.contains (subnetId, epoch.subnetEpoch))
    .subnetRewardsAlreadySubmitted
  let canonical ← c.canonicalizeConsensusDataForSubmission subnetId epoch.subnetEpoch data
  .ok (c.setSubmission subnetId epoch.subnetEpoch (c.proposal rt subnetId validatorId epoch
    canonical.1 prioritizeQueueNodeId removeQueueNodeId args attestData))

/-- `attest`. -/
def attest (c : Chain A) (hotkey : A) (subnetId subnetNodeId : ℕ) (data : Option (List UInt8)) :
    Except Error (Chain A) := do
  c.isPaused
  let subnetEpoch := c.currentSubnetEpoch rt subnetId
  let associated ← c.getSubnetNodeAssociatedHotkey subnetId subnetNodeId
  ensure (decide (associated = hotkey)) .invalidValidator
  let node ← okOr (c.nodes.subnetNodesData.find? (subnetId, subnetNodeId)) .invalidSubnetNodeId
  ensure (node.hasClassification .validator subnetEpoch) .invalidSubnetNodeClassification
  let d ← okOr (c.registry.subnetConsensusSubmission.find? (subnetId, subnetEpoch))
    .invalidSubnetConsensusSubmission
  ensure (decide (subnetNodeId ∈ d.validatorIds)) .invalidValidatorId
  let epoch ← okOr (c.attestorSubnetEpochData rt subnetId d.block) .subnetEpochDataIsNone
  ensure (!d.attests.contains subnetNodeId) .alreadyAttested
  .ok (c.setSubmission subnetId subnetEpoch { d with
    attests := d.attests.set subnetNodeId ⟨c.block, epoch.subnetEpochProgression,
      c.getAttestorRewardMultiplier rt epoch.subnetEpochProgression, data⟩ })

/-! ## What a call that succeeds has done -/

variable {rt} {c c' : Chain A} {hotkey : A} {subnetId subnetNodeId : ℕ}

omit [DecidableEq A] in
/-- There is epoch data from the slot of the subnet on, and it names the current epoch. -/
theorem getCurrentSubnetEpochData_some {epoch : SubnetEpochData}
    (h : c.getCurrentSubnetEpochData rt subnetId = some epoch) :
    c.registry.subnetSlot.val subnetId ≠ 0 ∧ c.registry.subnetSlot.val subnetId ≤ c.block ∧
      epoch.subnetEpoch = c.currentSubnetEpoch rt subnetId := by
  unfold getCurrentSubnetEpochData at h
  unfold currentSubnetEpoch
  dsimp only at h ⊢
  split at h
  · cases h
  · next hslot =>
      split at h
      · cases h
      · next hblock =>
          cases h
          rw [if_neg hslot, if_neg hblock]
          exact ⟨hslot, not_lt.mp hblock, rfl⟩

theorem proposeAttestation_ok {data : List SubnetNodeConsensusData}
    {prioritize remove : Option ℕ} {args attestData : Option (List UInt8)}
    (h : c.proposeAttestation rt hotkey subnetId subnetNodeId data prioritize remove args attestData =
      .ok c') :
    ∃ epoch canonical, c.getSubnetNodeAssociatedHotkey subnetId subnetNodeId = .ok hotkey ∧
      c.getCurrentSubnetEpochData rt subnetId = some epoch ∧
      c.registry.subnetElectedValidator.find? (subnetId, epoch.subnetEpoch) = some subnetNodeId ∧
      c.registry.subnetConsensusSubmission.find? (subnetId, epoch.subnetEpoch) = none ∧
      c' = c.setSubmission subnetId epoch.subnetEpoch (c.proposal rt subnetId subnetNodeId epoch
        canonical prioritize remove args attestData) := by
  simp only [proposeAttestation, bind_ok, Except.ok.injEq] at h
  rcases h with ⟨_, _, associated, hassociated, _, hhotkey, epoch, hepoch, validatorId, helected,
    _, hself, _, hnew, canonical, _, rfl⟩
  have hkey := of_decide_eq_true (ensure_ok.mp hhotkey)
  have hid := of_decide_eq_true (ensure_ok.mp hself)
  subst hkey hid
  have hnone := ensure_ok.mp hnew
  simp only [StorageMap.contains, Bool.not_eq_true', Option.isSome_eq_false_iff,
    Option.isNone_iff_eq_none] at hnone
  exact ⟨epoch, canonical.1, hassociated, okOr_ok.mp hepoch, okOr_ok.mp helected, hnone, rfl⟩

theorem attest_ok {data : Option (List UInt8)}
    (h : c.attest rt hotkey subnetId subnetNodeId data = .ok c') :
    ∃ node d entry, c.getSubnetNodeAssociatedHotkey subnetId subnetNodeId = .ok hotkey ∧
      c.nodes.subnetNodesData.find? (subnetId, subnetNodeId) = some node ∧
      node.hasClassification .validator (c.currentSubnetEpoch rt subnetId) = true ∧
      c.registry.subnetConsensusSubmission.find? (subnetId, c.currentSubnetEpoch rt subnetId) =
        some d ∧
      subnetNodeId ∈ d.validatorIds ∧ d.attests.find? subnetNodeId = none ∧
      c' = c.setSubmission subnetId (c.currentSubnetEpoch rt subnetId)
        { d with attests := d.attests.set subnetNodeId entry } := by
  simp only [attest, bind_ok, Except.ok.injEq] at h
  rcases h with ⟨_, _, associated, hassociated, _, hhotkey, node, hnode, _, hclass, d, hd, _, hlisted,
    epoch, _, _, hnew, rfl⟩
  have hkey := of_decide_eq_true (ensure_ok.mp hhotkey)
  subst hkey
  have hnone := ensure_ok.mp hnew
  simp only [StorageMap.contains, Bool.not_eq_true', Option.isSome_eq_false_iff,
    Option.isNone_iff_eq_none] at hnone
  exact ⟨node, d, _, hassociated, okOr_ok.mp hnode, ensure_ok.mp hclass, okOr_ok.mp hd,
    of_decide_eq_true (ensure_ok.mp hlisted), hnone, rfl⟩

end Chain

end Hypertensor
