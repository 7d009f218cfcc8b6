import Mathlib
import Hypertensor.Epoch.Preliminaries

/-!
# Hypertensor.Epoch.Slot — the block of a subnet

`emission_step`: in the block of its slot a subnet's last epoch is settled by the
submission of its validator (`precheck_subnet_consensus_submission`,
`calculate_rewards`, `distribute_rewards`), and its next one opens: a validator
is elected, queued nodes are activated and the burn rate is updated.
-/

namespace Hypertensor

open Base

variable {A : Type} [DecidableEq A]

/-! ## The submission -/

/-- The lowest score of each node. -/
def lowestScores (data : List SubnetNodeConsensusData) : StorageMap ℕ ℕ :=
  data.foldl (fun scores entry =>
    scores.set entry.subnetNodeId
      (match scores.find? entry.subnetNodeId with
      | some score => if entry.score < score then entry.score else score
      | none => entry.score)) ∅

/-- `canonicalize_consensus_data_entries`: one entry per node, in order of their
ids, and the sum of the scores. -/
def canonicalizeConsensusDataEntries (data : List SubnetNodeConsensusData) :
    Except Error (List SubnetNodeConsensusData × ℕ) := do
  let entries := (lowestScores data).ascEntries
  let weightSum ← entries.foldlM (fun sum e =>
    if sum + e.2 ≤ u128Max then .ok (sum + e.2) else .error .scoreOverflow) 0
  .ok (entries.map fun e => ⟨e.1, e.2⟩, weightSum)

/-- `canonicalize_consensus_validator_ids`. -/
def canonicalizeConsensusValidatorIds (validatorIds : List ℕ) : List ℕ :=
  (validatorIds.insertionSort (· ≤ ·)).destutter (· ≠ ·)

namespace Chain

variable (rt : Runtime A)

/-- The elected validator of an epoch submitted nothing: the subnet and the node
lose reputation. -/
def penaliseAbsentValidator (c : Chain A) (subnetId prevSubnetEpoch validatorId : ℕ) : Chain A :=
  let s := c.toState.decreaseSubnetReputation subnetId
    c.hookParams.validatorAbsentSubnetReputationFactor none
  let factors := Metered.getReputationFactorsForEpoch s subnetId prevSubnetEpoch
  match s.nodes.subnetNodeReputation.find? (subnetId, validatorId) with
  | none => { c with toState := s }
  | some rep => { c with toState := (s.decreaseAndReturnNodeReputation subnetId validatorId rep
      factors.validatorAbsentDecrease none).1 }

/-- What `distribute_rewards` is given of a submission. -/
def submissionData (submission : ConsensusData) (data : List SubnetNodeConsensusData)
    (weightSum : ℕ) : ConsensusSubmissionData where
  validatorSubnetNodeId := submission.validatorId
  validatorRewardFactor := submission.validatorRewardFactor
  attestationRatio := min (percentDiv submission.attests.keys.card
    (canonicalizeConsensusValidatorIds submission.validatorIds).length) percentageFactor
  weightSum := weightSum
  dataLength := data.length
  data := data
  attests := submission.attests
  subnetNodes := submission.subnetNodes
  prioritizeQueueNodeId := submission.prioritizeQueueNodeId
  removeQueueNodeId := submission.removeQueueNodeId

/-- `precheck_subnet_consensus_submission`: the storage, the submission and the
weight. -/
def precheckSubnetConsensusSubmission (c : Chain A) (subnetId prevSubnetEpoch : ℕ) :
    Chain A × Option ConsensusSubmissionData × Weight :=
  match c.registry.subnetConsensusSubmission.find? (subnetId, prevSubnetEpoch) with
  | none =>
      let w := (rt.reads 1).add (rt.reads 1)
      match c.registry.subnetElectedValidator.find? (subnetId, prevSubnetEpoch) with
      | none => (c, none, w)
      | some validatorId => (c.penaliseAbsentValidator subnetId prevSubnetEpoch validatorId, none,
          (w.add (rt.readsWrites 2 1)).add (rt.readsWrites 2 1))
  | some submission =>
      let w := (rt.reads 1).add (rt.reads 1)
      match canonicalizeConsensusDataEntries submission.data with
      | .error _ => (c, none, w)
      | .ok (data, weightSum) => (c, some (submissionData submission data weightSum), w)

end Chain

/-! ## The election -/

/-- The attempts of `get_bounded_random_index`: the first draw below the rejection
zone, or else the last one. -/
def drawRandom (entropy : ℕ → ℕ) (rejectionZone : ℕ) : ℕ → ℕ → ℕ → ℕ
  | 0, _, fallback => fallback
  | attempts + 1, attempt, _ =>
      if entropy attempt < rejectionZone then entropy attempt
      else drawRandom entropy rejectionZone attempts (attempt + 1) (entropy attempt)

/-- `get_bounded_random_index`. -/
def getBoundedRandomIndex (entropy : ℕ → ℕ) (upperBound : ℕ) : Option ℕ :=
  if h : upperBound = 0 then none
  else if upperBound = 1 then some 0
  else
    let rejectionZone := u64Max - rem u64Max upperBound h
    some (rem (drawRandom entropy rejectionZone 8 0 0) upperBound h)

namespace Chain

variable (rt : Runtime A)

/-- The nodes an election is held among; a temporary set that has served its time
is dropped. -/
def electionSlots (c : Chain A) (subnetId subnetEpoch : ℕ) : Chain A × List ℕ :=
  let slots := c.nodes.subnetNodeElectionSlots.getD subnetId []
  match c.nodes.emergencySubnetNodeElectionData.find? subnetId with
  | none => (c, slots)
  | some d =>
      if d.totalEpochs > d.targetEmergencyValidatorsEpochs ∨
          subnetEpoch > d.maxEmergencyValidatorsEpoch then
        ({ c with nodes := { c.nodes with emergencySubnetNodeElectionData :=
          c.nodes.emergencySubnetNodeElectionData.remove subnetId } }, slots)
      else (c, d.subnetNodeIds)

/-- `elect_validator`. -/
def electValidator (c : Chain A) (subnetId subnetEpoch block : ℕ) : Chain A :=
  if c.registry.subnetElectedValidator.contains (subnetId, subnetEpoch) then c
  else
    let e := c.electionSlots subnetId subnetEpoch
    let idx := getBoundedRandomIndex (rt.randomEntropy subnetId subnetEpoch block e.2.length)
      e.2.length
    match idx.bind fun i => e.2[i]? with
    | none => e.1
    | some nodeId => { e.1 with registry := { e.1.registry with
        subnetElectedValidator :=
          e.1.registry.subnetElectedValidator.set (subnetId, subnetEpoch) nodeId } }

end Chain

/-! ## The registration queue -/

namespace State

/-- `insert_node_into_election_slot`; `none` where it returns `false`. -/
def insertNodeIntoElectionSlot (s : State A) (subnetId subnetNodeId : ℕ) : Option (State A) :=
  let slots := s.nodes.subnetNodeElectionSlots.getD subnetId []
  if subnetNodeId ∈ slots then none
  else some { s with nodes := { s.nodes with
    subnetNodeElectionSlots := s.nodes.subnetNodeElectionSlots.set subnetId (slots ++ [subnetNodeId])
    nodeSlotIndex := s.nodes.nodeSlotIndex.set (subnetId, subnetNodeId) slots.length
    totalSubnetElectableNodes := s.nodes.totalSubnetElectableNodes.set subnetId
      (min (s.nodes.totalSubnetElectableNodes.val subnetId + 1) u32Max)
    totalElectableNodes := min (s.nodes.totalElectableNodes + 1) u32Max } }

/-- The end of `do_activate_subnet_node`: the node is stored and counted. -/
def insertActiveNode (s : State A) (validatorId subnetId : ℕ) (subnetNode : SubnetNode) : State A :=
  let n := s.nodes
  let rep := s.validators.validatorReputation.getD validatorId .default
  { s with
    nodes := { n with
      subnetNodesData := n.subnetNodesData.set (subnetId, subnetNode.id) subnetNode
      totalActiveSubnetNodes := n.totalActiveSubnetNodes.set subnetId
        (wrapAdd 32 (n.totalActiveSubnetNodes.val subnetId) 1)
      totalActiveNodes := wrapAdd 32 n.totalActiveNodes 1 }
    validators := { s.validators with
      validatorReputation := s.validators.validatorReputation.set validatorId { rep with
        lifetimeNodeCount := min (rep.lifetimeNodeCount + 1) u32Max
        totalActiveNodes := min (rep.totalActiveNodes + 1) u32Max } } }

/-- `do_activate_subnet_node` once there is weight for it: the state, and `false`
where the node found no election slot. -/
def activateSubnetNode (s : State A) (validatorId subnetId : ℕ) (subnetState : SubnetState)
    (subnetNode : SubnetNode) (subnetEpoch : ℕ) : State A × Bool :=
  let s₁ : State A := { s with nodes := { s.nodes with
    registeredSubnetNodesData :=
      s.nodes.registeredSubnetNodesData.remove (subnetId, subnetNode.id) } }
  -- a node of a subnet that is not active yet enters as a validator
  if subnetState = .registered then
    match s₁.insertNodeIntoElectionSlot subnetId subnetNode.id with
    | none => (s₁, false)
    | some s₂ => (s₂.insertActiveNode validatorId subnetId
        { subnetNode with classification := ⟨.validator, subnetEpoch⟩ }, true)
  else (s₁.insertActiveNode validatorId subnetId
    { subnetNode with classification := ⟨.idle, subnetEpoch⟩ }, true)

end State

namespace Hook

variable (rt : Runtime A)

/-- `do_activate_subnet_node`: the hook, and whether to go on. -/
def doActivateSubnetNode (h : Hook A) (validatorId subnetId : ℕ) (subnetState : SubnetState)
    (subnetNode : SubnetNode) (subnetEpoch : ℕ) (queue : Bool) : Hook A × Bool :=
  if subnetState = .registered ∧ queue ∨ subnetState = .active ∧ ¬queue ∨ subnetState = .paused then
    (h, false)
  else if ¬h.meter.canConsume (rt.readsWrites 5 5) then (h, false)
  else if queue ∧ subnetNode.classification.nodeClass ≠ .registered then (h, true)
  else
    let r := h.chain.toState.activateSubnetNode validatorId subnetId subnetState subnetNode
      subnetEpoch
    ((h.consume (rt.readsWrites 5 5)).map fun c => { c with toState := r.1 }, r.2)

/-- What must be left for one more activation; the write of the queue counts once. -/
def activationWeight (activatedNodes : ℕ) : Weight :=
  ((Weight.add ⟨1500, 0⟩ ⟨500, 0⟩).add
    (if activatedNodes = 0 then rt.writes 1 else ⟨0, 0⟩)).add (rt.readsWrites 5 5)

/-- The loop of `handle_registration_queue`: the hook, and how many nodes are
activated. It ends at the first node that is not ready. -/
def activateLoop (subnetId queueEpochs currentSubnetEpoch : ℕ) (h : Hook A) (activatedNodes : ℕ) :
    List SubnetNode → Hook A × ℕ
  | [] => (h, activatedNodes)
  | subnetNode :: nodes =>
      if wrapAdd 32 subnetNode.classification.startEpoch queueEpochs ≥ currentSubnetEpoch then
        (h, activatedNodes)
      else if ¬h.meter.canConsume (activationWeight rt activatedNodes) then (h, activatedNodes)
      else
        let r := (h.consume ⟨1500, 0⟩).doActivateSubnetNode rt subnetNode.validatorId subnetId
          .active subnetNode currentSubnetEpoch true
        if r.2 then
          activateLoop subnetId queueEpochs currentSubnetEpoch r.1 (activatedNodes + 1) nodes
        else (r.1, activatedNodes)

/-- The end of `handle_registration_queue`: the activated nodes leave the queue. -/
def drainQueue (h : Hook A) (subnetId : ℕ) (queue : List SubnetNode) (activatedNodes : ℕ) : Hook A :=
  if activatedNodes > 0 then
    ((h.consume ⟨500 * activatedNodes, 0⟩).consume (rt.writes 1)).map fun c => { c with
      nodes := { c.nodes with
        subnetNodeQueue := c.nodes.subnetNodeQueue.set subnetId (queue.drop activatedNodes) } }
  else h

/-- How many queued nodes are looked at: the churn limit, or the room that is left. -/
def queueTake (c : Chain A) (subnetId : ℕ) : ℕ :=
  let free := c.hookParams.maxSubnetNodes - c.nodes.totalActiveSubnetNodes.val subnetId
  let churnLimit := c.registry.churnLimit.getD subnetId 4
  if free < churnLimit then free else churnLimit

/-- `handle_registration_queue` in an epoch in which the queue is processed. -/
def processQueue (h : Hook A) (subnetId currentSubnetEpoch : ℕ) : Hook A :=
  let c := h.chain
  let h₁ := h.consume (rt.reads 4)
  let take := queueTake c subnetId
  if ¬h₁.meter.canConsume (rt.reads 1) then h₁
  else
    let queue := c.nodes.subnetNodeQueue.getD subnetId []
    let h₂ := h₁.consume (rt.reads 1)
    if queue.length = 0 ∨ take = 0 then h₂
    else if ¬h₂.meter.canConsume ⟨2000, 0⟩ then h₂
    else
      let r := activateLoop rt subnetId (c.registry.subnetNodeQueueEpochs.getD subnetId 3)
        currentSubnetEpoch (h₂.consume ⟨2000, 0⟩) 0 (queue.take take)
      r.1.drainQueue rt subnetId queue r.2

/-- `handle_registration_queue`: with a multiplier of `4` the queue is processed
in every fourth epoch. -/
def handleRegistrationQueue (h : Hook A) (subnetId currentSubnetEpoch : ℕ) : Option (Hook A) :=
  if ¬h.meter.canConsume (rt.reads 6) then some h
  else do
    let churnLimitMultiplier := h.chain.intervals.churnLimitMultiplierOf subnetId
    let h₁ := h.consume (rt.reads 1)
    let phase ← rem? currentSubnetEpoch churnLimitMultiplier
    if phase ≠ 0 then some h₁ else some (h₁.processQueue rt subnetId currentSubnetEpoch)

end Hook

/-! ## The burn rate -/

namespace Chain

/-- `calculate_target_burn_rate`. -/
def calculateTargetBurnRate (c : Chain A) (registrations target : ℕ) : ℕ :=
  let minRate := c.hookParams.minNodeBurnRate
  let maxRate := c.hookParams.maxNodeBurnRate
  if registrations = 0 then minRate
  else if registrations ≥ target then maxRate
  else u128.add minRate (percentMul (maxRate - minRate) (percentDiv registrations target))

/-- The burn rate of a subnet after an epoch. -/
def newBurnRate (c : Chain A) (subnetId : ℕ) : ℕ :=
  let r := c.registry
  let alpha := r.nodeBurnRateAlpha.getD subnetId 500000000000000000
  let targetBurnRate := c.calculateTargetBurnRate (r.nodeRegistrationsThisEpoch.val subnetId)
    (r.targetNodeRegistrationsPerEpoch.getD subnetId 64)
  let previousBurnRate := r.currentNodeBurnRate.getD subnetId percentageFactor
  let newBurnRate := u128.add (percentMul targetBurnRate alpha)
    (percentMul previousBurnRate (percentageFactor - alpha))
  min (max newBurnRate c.hookParams.minNodeBurnRate) c.hookParams.maxNodeBurnRate

end Chain

namespace Hook

variable (rt : Runtime A) (ar : Arith)

/-- `update_burn_rate_for_epoch`. -/
def updateBurnRateForEpoch (h : Hook A) (subnetId : ℕ) : Hook A :=
  if ¬h.meter.canConsume (rt.readsWrites 9 2) then h
  else
    let h₁ := (((h.consume (rt.reads 5)).consume (rt.reads 2)).consume (rt.reads 2)).consume
      (rt.writes 2)
    h₁.map fun c => { c with registry := { c.registry with
      currentNodeBurnRate := c.registry.currentNodeBurnRate.set subnetId (c.newBurnRate subnetId)
      nodeRegistrationsThisEpoch := c.registry.nodeRegistrationsThisEpoch.set subnetId 0 } }

/-! ## The step -/

/-- Pay out a submission. -/
def distribute (h : Hook A) (subnetId currentEpoch currentSubnetEpoch subnetsEmissions
    subnetWeight : ℕ) (submission : ConsensusSubmissionData) : Hook A :=
  let rewards := h.chain.toState.calculateRewards ar subnetId subnetsEmissions subnetWeight
  let p := h.chain.params
  let h₁ := (h.consume (((rt.reads 1).add (rt.reads 1)).add (rt.reads 1))).consume (rt.reads 4)
  h₁.metered fun m => (m.distributeRewards rt.toConfig ar subnetId currentEpoch currentSubnetEpoch
    submission rewards p.minAttestationPercentage p.validatorReputationIncreaseFactor
    p.validatorReputationDecreaseFactor p.superMajorityAttestationRatio).1

/-- The first half of `emission_step`: the last epoch is settled. -/
def settleEpoch (h : Hook A) (subnetId currentEpoch currentSubnetEpoch subnetsEmissions
    subnetWeight : ℕ) : Hook A :=
  let r := h.chain.precheckSubnetConsensusSubmission rt subnetId (wrapSub 32 currentSubnetEpoch 1)
  let h₁ : Hook A := Hook.consume { h with chain := r.1 } r.2.2
  match r.2.1 with
  | none => h₁
  | some submission => h₁.distribute rt ar subnetId currentEpoch currentSubnetEpoch
      subnetsEmissions subnetWeight submission

/-- The second half of `emission_step`: the next epoch opens. -/
def openEpoch (h : Hook A) (subnetId block currentSubnetEpoch : ℕ) : Option (Hook A) := do
  let h₁ := h.map fun c => c.electValidator rt subnetId currentSubnetEpoch block
  let h₂ := (h₁.consume (rt.reads 1)).consume
    (rt.weightElectValidator (h₁.chain.nodes.totalSubnetElectableNodes.val subnetId))
  let h₃ ← h₂.handleRegistrationQueue rt subnetId currentSubnetEpoch
  some (h₃.updateBurnRateForEpoch rt subnetId)

/-- `emission_step`. A subnet is settled if it had weight when the epoch began; its
next epoch opens only if it is still active. -/
def emissionStep (h : Hook A) (block currentEpoch currentSubnetEpoch subnetId : ℕ) :
    Option (Hook A) :=
  let h₁ := h.consume (rt.reads 1)
  match h.chain.registry.finalSubnetEmissionWeights.find? currentEpoch with
  | none => some h₁
  | some weights =>
      match weights.subnetWeights.find? subnetId with
      | none => some h₁
      | some subnetWeight =>
          let h₂ := (h₁.consume (rt.reads 1)).settleEpoch rt ar subnetId currentEpoch
            currentSubnetEpoch weights.subnetsEmissions subnetWeight
          if h₂.chain.isSubnetActiveAndLive subnetId currentEpoch then
            h₂.openEpoch rt subnetId block currentSubnetEpoch
          else some h₂

end Hook

end Hypertensor
