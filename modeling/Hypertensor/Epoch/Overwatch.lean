import Mathlib
import Hypertensor.Epoch.Preliminaries

/-!
# Hypertensor.Epoch.Overwatch — the rewards of overwatch nodes

`calculate_overwatch_rewards`: the weights revealed in the last overwatch epoch
are averaged by stake into one weight per subnet, each node is scored by how close
it came, and the emissions are split by score.

The ordered maps of the source are storage maps read in ascending order.
-/

namespace Hypertensor

open Base

variable {A : Type} [DecidableEq A]

/-- What the loop over the reveals has gathered. The sum of a subnet's weights,
which the source keeps and never reads, is left out. -/
structure RevealTally where
  weight : Weight
  totalStakeWeight : ℕ
  nodeStakeWeights : StorageMap ℕ ℕ
  subnetReveals : StorageMap ℕ (StorageMap ℕ ℕ)

namespace RevealTally

/-- Note the weight a node revealed for a subnet. -/
def addReveal (t : RevealTally) (subnetId overwatchNodeId subnetWeight : ℕ) : RevealTally :=
  { t with
    subnetReveals := t.subnetReveals.set subnetId
      ((t.subnetReveals.getD subnetId ∅).set overwatchNodeId subnetWeight) }

/-- One iteration of the loop over the reveals. A node that is gone is skipped. -/
def revealStep (rt : Runtime A) (c : Chain A) (t : RevealTally)
    (reveal : ℕ × ℕ × ℕ) : RevealTally :=
  let subnetId := reveal.1
  let overwatchNodeId := reveal.2.1
  let w₁ := t.weight.add (rt.reads 1)
  if t.nodeStakeWeights.contains overwatchNodeId then
    addReveal { t with weight := w₁ } subnetId overwatchNodeId reveal.2.2
  else
    let w₂ := w₁.add (rt.reads 1)
    if overwatchNodeId ∈ c.overwatch.overwatchNodes then
      let stakeWeightAdj := rt.overwatchStakeWeightFloat
        (c.stake.overwatchNodeStakeBalance.val overwatchNodeId)
        c.hookParams.overwatchStakeWeightFactor
      addReveal { t with
        weight := w₂.add (rt.reads 1)
        totalStakeWeight := u128.add t.totalStakeWeight stakeWeightAdj
        nodeStakeWeights := t.nodeStakeWeights.set overwatchNodeId stakeWeightAdj }
        subnetId overwatchNodeId reveal.2.2
    else { t with weight := w₂ }

/-- The stake weight of a node, normalised. -/
def stakeWeight (t : RevealTally) (overwatchNodeId : ℕ) : Option ℕ :=
  (t.nodeStakeWeights.find? overwatchNodeId).map fun w =>
    if t.totalStakeWeight = 0 then 0 else percentDiv w t.totalStakeWeight

/-- The weight of a subnet: the revealed weights, averaged by stake. -/
def totalAdjusted (t : RevealTally) (nodeWeights : StorageMap ℕ ℕ) : ℕ :=
  let adjusted := nodeWeights.ascEntries.filterMap fun e =>
    (t.stakeWeight e.1).map fun stakeWeight => percentMul e.2 stakeWeight
  min (adjusted.foldl u128.add 0) percentageFactor

end RevealTally

/-- The score of a node for a subnet: the closer to the outcome, the higher. -/
def overwatchNodeScore (subnetWeight totalAdjusted : ℕ) : ℕ :=
  let deviation := (subnetWeight - totalAdjusted) + (totalAdjusted - subnetWeight)
  percentMul (percentageFactor - deviation) totalAdjusted

/-- Add the scores of one subnet to the totals. -/
def addScores (nodeTotalScores nodeWeights : StorageMap ℕ ℕ) (totalAdjusted : ℕ) : StorageMap ℕ ℕ :=
  nodeWeights.ascEntries.foldl (fun scores e =>
    scores.set e.1 (u128.add (scores.val e.1) (overwatchNodeScore e.2 totalAdjusted)))
    nodeTotalScores

namespace Chain

variable (rt : Runtime A) (ar : Arith)

/-- `OverwatchReveals` of one epoch: subnet, node and weight. -/
def revealsOf (c : Chain A) (overwatchEpoch : ℕ) : List (ℕ × ℕ × ℕ) :=
  (c.registry.overwatchReveals.getD overwatchEpoch ∅).ascEntries.flatMap fun e =>
    e.2.ascEntries.map fun r => (e.1, r.1, r.2)

/-- Write the weight of a subnet in an overwatch epoch. -/
def setOverwatchSubnetWeight (c : Chain A) (overwatchEpoch subnetId weight : ℕ) : Chain A :=
  { c with registry := { c.registry with
    overwatchSubnetWeights :=
      c.registry.overwatchSubnetWeights.set (overwatchEpoch, subnetId) weight } }

/-- The loop over the subnets: their weights are stored and the nodes scored. -/
def scoreSubnets (t : RevealTally) (overwatchEpoch : ℕ) (c : Chain A) (w : Weight)
    (scores : StorageMap ℕ ℕ) : List (ℕ × StorageMap ℕ ℕ) → Chain A × Weight × StorageMap ℕ ℕ
  | [] => (c, w, scores)
  | (subnetId, nodeWeights) :: subnets =>
      let adjusted := t.totalAdjusted nodeWeights
      scoreSubnets t overwatchEpoch (c.setOverwatchSubnetWeight overwatchEpoch subnetId adjusted)
        (w.add (rt.writes 1)) (addScores scores nodeWeights adjusted) subnets

/-- Pay a node for its score, if it is known and something is due. -/
def payOverwatchNode (t : RevealTally) (overwatchEpoch totalFinalScore : ℕ) (c : Chain A)
    (w : Weight) (nodeId score : ℕ) : Chain A × Weight :=
  if score = 0 then (c, w)
  else
    let nodeFinalScore := percentDiv score totalFinalScore
    let c₁ : Chain A := { c with registry := { c.registry with
      overwatchNodeWeights :=
        c.registry.overwatchNodeWeights.set (overwatchEpoch, nodeId) nodeFinalScore } }
    let w₁ := w.add (rt.writes 1)
    let amount := percentMul nodeFinalScore rt.overwatchEpochEmissions
    if t.nodeStakeWeights.contains nodeId ∧ amount ≠ 0 then
      ({ c₁ with toState := c₁.toState.increaseOverwatchNodeStake ar nodeId amount },
        w₁.add (rt.readsWrites 2 2))
    else (c₁, w₁)

/-- The loop over the scores. -/
def payOverwatchNodes (t : RevealTally) (overwatchEpoch totalFinalScore : ℕ) (c : Chain A)
    (w : Weight) : List (ℕ × ℕ) → Chain A × Weight
  | [] => (c, w)
  | (nodeId, score) :: scores =>
      let q := c.payOverwatchNode rt ar t overwatchEpoch totalFinalScore w nodeId score
      payOverwatchNodes t overwatchEpoch totalFinalScore q.1 q.2 scores

/-- `calculate_overwatch_rewards`: the storage and the weight. -/
def calculateOverwatchRewards (c : Chain A) : Option (Chain A × Weight) := do
  let currentOverwatchEpoch ← c.getCurrentOverwatchEpochAsU32 rt
  let overwatchEpoch := currentOverwatchEpoch - 1
  let w := ((rt.reads 1).add (rt.reads 1)).add (rt.reads 1)
  let t := (c.revealsOf overwatchEpoch).foldl (RevealTally.revealStep rt c)
    { weight := w, totalStakeWeight := 0, nodeStakeWeights := ∅, subnetReveals := ∅ }
  let scored := c.scoreSubnets rt t overwatchEpoch t.weight ∅ t.subnetReveals.ascEntries
  let scores := scored.2.2.ascEntries
  let totalFinalScore := (scores.map Prod.snd).foldl u128.add 0
  if totalFinalScore = 0 then some (scored.1, scored.2.1)
  else some (scored.1.payOverwatchNodes rt ar t overwatchEpoch totalFinalScore scored.2.1 scores)

end Chain

end Hypertensor
