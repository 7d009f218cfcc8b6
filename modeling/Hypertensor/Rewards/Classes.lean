import Mathlib
import Hypertensor.Rewards.Emission

/-!
# Hypertensor.Rewards.Classes — who an epoch pays

The class gates of `distribute_rewards`. Each of them also asks that the node
still exists and that there is no emergency validator set, so a node below the
validator class passes them once it was removed, and under an emergency set.

What an iteration does to a node depends on the node's reputation alone, and no
iteration touches another node. `Earns` and `Fades` say when a node is paid and
when an idle node loses reputation; the loop then does that node by node.
-/

namespace Hypertensor

open Base

variable {A : Type}

/-! ## The standing of a node -/

/-- The reputation and the stake of a node. -/
def State.standing (s : State A) (subnetId subnetNodeId : ℕ) : Option ℕ × ℕ :=
  (s.nodes.subnetNodeReputation.find? (subnetId, subnetNodeId),
    s.stake.nodeSubnetStake.val (subnetNodeId, subnetId))

/-- `t` is the standing `t₀`, or that of a node removed since. -/
def KeptOrRemoved (t₀ t : Option ℕ × ℕ) : Prop := t.2 = t₀.2 ∧ (t.1 = t₀.1 ∨ t.1 = none)

/-- A node about which nothing is done is kept. -/
theorem KeptOrRemoved.refl (t : Option ℕ × ℕ) : KeptOrRemoved t t := ⟨rfl, Or.inl rfl⟩

namespace State

variable {s : State A} {i j id : ℕ}

/-- The standing of a node is its reputation and its stake. -/
theorem standing_congr {s s' : State A}
    (hrep : s'.nodes.subnetNodeReputation = s.nodes.subnetNodeReputation)
    (hstake : s'.stake.nodeSubnetStake = s.stake.nodeSubnetStake) (i j : ℕ) :
    s'.standing i j = s.standing i j := by
  simp only [standing, hrep, hstake]

/-- Losing an election slot costs no reputation. -/
theorem removeNodeFromElectionSlot_reputation (s : State A) (i j : ℕ) :
    (s.removeNodeFromElectionSlot i j).nodes.subnetNodeReputation =
      s.nodes.subnetNodeReputation := by
  unfold removeNodeFromElectionSlot
  dsimp only
  split <;> rfl

/-- Losing an election slot costs no stake. -/
theorem removeNodeFromElectionSlot_stake (s : State A) (i j : ℕ) :
    (s.removeNodeFromElectionSlot i j).stake = s.stake := by
  unfold removeNodeFromElectionSlot
  dsimp only
  split <;> rfl

/-- Removing a node clears its reputation and nothing else. -/
theorem removeActiveSubnetNode_standing (s : State A) (i id j : ℕ) :
    (s.removeActiveSubnetNode i id).standing i j =
      if j = id ∧ s.nodes.subnetNodesData.contains (i, id)
      then (none, (s.standing i j).2) else s.standing i j := by
  unfold removeActiveSubnetNode
  cases hnode : s.nodes.subnetNodesData.find? (i, id) with
  | none => simp [StorageMap.contains, hnode]
  | some node =>
      have hstake : ∀ s' : State A, s'.stake = s.stake → s'.nodes.subnetNodeReputation =
          s.nodes.subnetNodeReputation.remove (i, id) → s'.standing i j =
          if j = id then (none, (s.standing i j).2) else s.standing i j := by
        intro s' h₁ h₂
        simp only [standing, h₁, h₂, StorageMap.find?_remove, Prod.mk.injEq, true_and]
        split <;> rfl
      simp only [StorageMap.contains, hnode, Option.isSome_some, and_true]
      apply hstake
      · dsimp only [forgetActiveNode]
        split
        · rw [removeNodeFromElectionSlot_stake]
          rfl
        · rfl
      · dsimp only [forgetActiveNode]
        split
        · rw [removeNodeFromElectionSlot_reputation]
          rfl
        · rfl

/-- A removal is that of one node. -/
theorem removeRegisteredSubnetNode_standing (s : State A) (i id : ℕ) {j : ℕ} (hj : j ≠ id) :
    (s.removeRegisteredSubnetNode i id).standing i j = s.standing i j := by
  unfold removeRegisteredSubnetNode
  split
  · rfl
  · simp [standing, commonRemoveSubnetNode, hj]

end State

namespace State

/-- Writing a reputation moves the standing of that node only. -/
theorem setNodeReputation_standing (s : State A) (i id c n j : ℕ) :
    (s.setNodeReputation i id c n).1.standing i j =
      if j = id ∧ (s.standing i j).1.isSome then (some n, (s.standing i j).2)
      else s.standing i j := by
  unfold setNodeReputation
  by_cases hc : s.nodes.subnetNodeReputation.contains (i, id)
  · rw [if_pos hc]
    by_cases hj : j = id
    · subst hj
      have hsome : (s.standing i j).1.isSome := hc
      rw [if_pos ⟨rfl, hsome⟩]
      simp [standing]
    · rw [if_neg fun h => hj h.1]
      simp [standing, hj]
  · rw [if_neg hc, if_neg]
    rintro ⟨rfl, hsome⟩
    exact hc hsome

/-- A node without a reputation is not given one. -/
theorem setNodeReputation_snd (s : State A) (i id c n : ℕ) :
    (s.setNodeReputation i id c n).2 = if (s.standing i id).1.isSome then n else c := by
  unfold setNodeReputation
  by_cases hc : s.nodes.subnetNodeReputation.contains (i, id)
  · have hsome : (s.standing i id).1.isSome := hc
    rw [if_pos hc, if_pos hsome]
  · have hnone : ¬ (s.standing i id).1.isSome := hc
    rw [if_neg hc, if_neg hnone]

/-- The pool of the validator is not the stake of the node. -/
theorem payDelegateStake_standing [DecidableEq A] (ar : Arith) (s : State A) (validatorId x : ℕ)
    (v : ValidatorData A) (i j : ℕ) :
    (s.payDelegateStake ar validatorId v x).1.standing i j = s.standing i j := by
  rw [payDelegateStake_eq]
  split
  · exact standing_congr rfl rfl i j
  · rfl

/-- A payout raises the stake of its node only. -/
theorem payNode_standing [DecidableEq A] (ar : Arith) (s : State A) (i id validatorId x : ℕ) {j : ℕ}
    (hj : j ≠ id) : (s.payNode ar i id validatorId x).1.standing i j = s.standing i j := by
  have hset : ∀ (s : State A) (n : ℕ), (s.increaseNodeStake ar id i n).standing i j =
      s.standing i j := by
    intro s n
    simp [standing, increaseNodeStake, hj]
  unfold payNode
  split
  · exact hset s x
  · next v _ =>
      dsimp only
      split
      · rw [hset]
        exact payDelegateStake_standing ar s validatorId x v i j
      · rw [hset]
        refine Eq.trans ?_ (payDelegateStake_standing ar s validatorId x v i j)
        exact standing_congr rfl rfl i j

end State

namespace Metered

variable (cfg : Config A) (h : Metered A)

/-- A removal is that of one node. -/
theorem handleConsensusRemoveActiveNode_standing (i id e : ℕ) {j : ℕ} (hj : j ≠ id) :
    (h.handleConsensusRemoveActiveNode cfg i id e).state.standing i j =
      h.state.standing i j := by
  unfold handleConsensusRemoveActiveNode
  split
  · rfl
  · dsimp only
    split
    · rw [consume_state, map_state, State.removeActiveSubnetNode_standing, if_neg fun hc => hj hc.1]
      rfl
    · rfl

/-- A node that is removed keeps its stake. -/
theorem handleConsensusRemoveActiveNode_kept (i id e j : ℕ) :
    KeptOrRemoved (h.state.standing i j)
      ((h.handleConsensusRemoveActiveNode cfg i id e).state.standing i j) := by
  unfold handleConsensusRemoveActiveNode
  split
  · exact .refl _
  · dsimp only
    split
    · rw [consume_state, map_state, State.removeActiveSubnetNode_standing]
      split
      · exact ⟨rfl, Or.inr rfl⟩
      · exact .refl _
    · exact .refl _

/-- A class is no standing. -/
theorem graduateClass_standing {s s' : State A} {i id e : ℕ} (h : s.graduateClass i id e = some s')
    (i' j : ℕ) : s'.standing i' j = s.standing i' j := by
  unfold State.graduateClass at h
  split at h
  · cases h
  · cases h
    rfl

theorem graduateToValidatorClass_standing {s s' : State A} {i id e : ℕ}
    (h : s.graduateToValidatorClass i id e = some s') (i' j : ℕ) :
    s'.standing i' j = s.standing i' j := by
  unfold State.graduateToValidatorClass at h
  dsimp only at h
  split at h
  · cases h
  · split at h
    · cases h
    · next s₁ hs₁ =>
        cases h
        exact graduateClass_standing hs₁ i' j

/-- An idle node keeps its standing. -/
theorem handleIdleNode_standing (i id n e j : ℕ) :
    (h.handleIdleNode cfg i id n e).state.standing i j = h.state.standing i j := by
  unfold handleIdleNode
  dsimp only
  split
  · split
    · rfl
    · next s hs => exact graduateClass_standing hs i j
  · rfl

/-- An included node keeps its standing. -/
theorem handleIncludedNode_standing (i id rep n e j : ℕ) :
    (h.handleIncludedNode cfg i id rep n e).state.standing i j = h.state.standing i j := by
  unfold handleIncludedNode
  dsimp only
  split
  · split
    · rfl
    · next s hs => exact graduateToValidatorClass_standing hs i j
  · rfl

end Metered

/-! ## One iteration -/

namespace RewardRound

/-- The reward factor of a node: its attestation's, if it was expected to attest
and did. -/
def attestFactor (r : RewardRound) (id : ℕ) : ℕ :=
  let attested := (r.submission.attests.find? id).elim percentageFactor AttestEntry.rewardFactor
  match r.forkedSubnetNodeIds with
  | some ids => if id ∈ ids then attested else percentageFactor
  | none => attested

/-- The reward due to a node by its score and reward factor. -/
def dueReward (r : RewardRound) (id : ℕ) : ℕ :=
  match r.submission.data.find? fun d => d.subnetNodeId = id with
  | none => 0
  | some d => percentMul (r.nodeShare d.score) (r.attestFactor id)

/-- Whether a node fails to attest to what a super majority attests to. -/
def silent (r : RewardRound) (id : ℕ) : Bool :=
  (r.forkedSubnetNodeIds.elim true fun ids => decide (id ∈ ids)) &&
    (r.submission.attests.find? id).isNone &&
    decide (r.submission.attestationRatio ≥ r.superMajorityThreshold)

/-- What a low score and a missing attestation leave of a reputation. -/
def scoredReputation (r : RewardRound) (reputation id score : ℕ) : ℕ :=
  let reputation := if percentDiv score r.submission.weightSum < r.weightThreshold
    then State.decreaseRep reputation r.factors.belowMinWeightDecrease none else reputation
  if r.silent id then State.decreaseRep reputation r.factors.nonAttestorDecrease none
  else reputation

/-- The reputation of a node in the data with this score, at the end of its
iteration. -/
def adjustedReputation (cfg : Config A) (r : RewardRound) (reputation id score : ℕ) : ℕ :=
  r.scoredReputation (if reputation ≠ percentageFactor
    then State.increaseRep cfg reputation r.factors.includedIncrease none else reputation) id score

/-- The class gates: they stop a node that still exists, while no emergency set
is in force. -/
def Stopped (r : RewardRound) (reputation : Option ℕ) (node : SubnetNode) : Prop :=
  reputation ≠ none ∧ r.forkedSubnetNodeIds = none ∧
    (node.classification.nodeClass = .idle ∨ node.classification.nodeClass = .included)

/-- A node with this reputation is paid: no gate stops it, a reward is due to it,
and if it still exists its reputation stays at the minimum or above. -/
def Earns (cfg : Config A) (r : RewardRound) (reputation : Option ℕ) (node : SubnetNode) : Prop :=
  ¬ r.Stopped reputation node ∧ r.dueReward node.id ≠ 0 ∧
  ∀ x, reputation = some x → r.minValidatorReputation ≤ x ∧
    ∀ d ∈ r.submission.data.find? fun d => d.subnetNodeId = node.id,
      r.minValidatorReputation ≤ r.adjustedReputation cfg x node.id d.score

/-- A node with this reputation that is not in the data loses some of it, even an
idle one. -/
def Fades (r : RewardRound) (reputation : Option ℕ) : Prop :=
  r.forkedSubnetNodeIds ≠ none ∧ ∃ x, reputation = some x ∧ r.minValidatorReputation ≤ x ∧
    State.decreaseRep x r.factors.absentDecrease none ≠ x

section Iteration

variable (cfg : Config A) (ar : Arith) (r : RewardRound) (h : Metered A) (node : SubnetNode)

/-- A stage of the iteration for `node`: the node exists as before, and nothing
but its reputation has changed. -/
structure Stage (h h' : Metered A) : Prop where
  present : (h'.state.standing r.subnetId node.id).1.isSome =
    (h.state.standing r.subnetId node.id).1.isSome
  stake : (h'.state.standing r.subnetId node.id).2 = (h.state.standing r.subnetId node.id).2
  others : ∀ j, j ≠ node.id →
    h'.state.standing r.subnetId j = h.state.standing r.subnetId j

/-- A step that does nothing is a stage. -/
theorem Stage.refl {r : RewardRound} {node : SubnetNode} (h : Metered A) : Stage r node h h :=
  ⟨rfl, rfl, fun _ _ => rfl⟩

/-- Two stages of one node make one. -/
theorem Stage.trans {r : RewardRound} {node : SubnetNode} {h₁ h₂ h₃ : Metered A}
    (hs : Stage r node h₁ h₂) (ht : Stage r node h₂ h₃) : Stage r node h₁ h₃ :=
  ⟨ht.present.trans hs.present, ht.stake.trans hs.stake,
    fun j hj => (ht.others j hj).trans (hs.others j hj)⟩

/-- Writing the node's reputation is a stage. -/
theorem stage_setNodeReputation (rep new : ℕ) (m : WeightMeter) :
    Stage r node h ⟨(h.state.setNodeReputation r.subnetId node.id rep new).1, m⟩ := by
  have hset := State.setNodeReputation_standing h.state r.subnetId node.id rep new
  refine ⟨?_, ?_, ?_⟩
  · dsimp only
    rw [hset]
    split
    · next hc => rw [hc.2, Option.isSome_some]
    · rfl
  · dsimp only
    rw [hset]
    split <;> rfl
  · intro j hj
    dsimp only
    rw [hset, if_neg fun hc => hj hc.1]

/-- A penalty is one stage. -/
theorem decreaseReputation_stage (rep f : ℕ) :
    Stage r node h (r.decreaseReputation cfg h node rep f).1 :=
  stage_setNodeReputation r h node rep _ _

/-- A penalty returns the reputation that it leaves. -/
theorem decreaseReputation_snd {rep f : ℕ}
    (hsome : (h.state.standing r.subnetId node.id).1.isSome) :
    (r.decreaseReputation cfg h node rep f).2 = State.decreaseRep rep f none := by
  unfold decreaseReputation State.decreaseAndReturnNodeReputation
  dsimp only
  rw [State.setNodeReputation_snd, if_pos hsome]

/-- The factor and the reputation that `rewardFactor` returns. -/
theorem rewardFactor_spec (rep : ℕ) {ex : Bool}
    (hex : (h.state.standing r.subnetId node.id).1.isSome = ex) :
    Stage r node h (r.rewardFactor cfg h node rep ex).1 ∧
    (r.rewardFactor cfg h node rep ex).2.1 =
      (if ex && r.silent node.id then State.decreaseRep rep r.factors.nonAttestorDecrease none
        else rep) ∧
    (r.rewardFactor cfg h node rep ex).2.2 = r.attestFactor node.id := by
  -- a node that was expected to attest
  have hattest : ∀ q : Metered A × ℕ × ℕ,
      (∀ data, r.submission.attests.find? node.id = some data → q = (h, rep, data.rewardFactor)) →
      (r.submission.attests.find? node.id = none → q = ((r.nonAttestor cfg h node rep ex).1,
        (r.nonAttestor cfg h node rep ex).2, percentageFactor)) →
      Stage r node h q.1 ∧
      q.2.1 = (if ex && ((r.submission.attests.find? node.id).isNone &&
          decide (r.submission.attestationRatio ≥ r.superMajorityThreshold))
        then State.decreaseRep rep r.factors.nonAttestorDecrease none else rep) ∧
      q.2.2 = (r.submission.attests.find? node.id).elim percentageFactor
        AttestEntry.rewardFactor := by
    intro q hdata hsilent
    cases hfind : r.submission.attests.find? node.id with
    | some data =>
        rw [hdata data hfind]
        simp [Stage.refl]
    | none =>
        rw [hsilent hfind]
        simp only [Option.isNone_none, Bool.true_and, Option.elim_none, and_true]
        unfold nonAttestor
        cases ex with
        | false => simp [Stage.refl]
        | true =>
            by_cases hsuper : r.submission.attestationRatio ≥ r.superMajorityThreshold
            · simp only [hsuper, and_self, if_true, decide_true, Bool.and_self]
              exact ⟨decreaseReputation_stage cfg r h node rep _,
                decreaseReputation_snd cfg r h node hex⟩
            · simp [hsuper, Stage.refl]
  unfold rewardFactor silent attestFactor
  dsimp only
  cases r.forkedSubnetNodeIds with
  | none =>
      simp only [Option.elim_none, Bool.true_and]
      refine hattest _ ?_ ?_
      · intro data hdata
        rw [hdata]
      · intro hnone
        rw [hnone]
  | some ids =>
      by_cases hid : node.id ∈ ids
      · simp only [hid, Option.elim_some, decide_true, Bool.true_and, if_true]
        refine hattest _ ?_ ?_
        · intro data hdata
          rw [hdata]
        · intro hnone
          rw [hnone]
      · simp [hid, Stage.refl]

variable [DecidableEq A]

/-- A node is paid just when its share, by its factor, is not zero. -/
theorem payScored_isSome (score factor : ℕ) :
    (r.payScored cfg ar h node score factor).2.isSome ↔
      percentMul (r.nodeShare score) factor ≠ 0 := by
  unfold payScored nodeShare
  dsimp only
  split
  · next hzero =>
      simp only [Option.isSome_none, Bool.false_eq_true, false_iff, not_not]
      rcases hzero with hf | hw | hr
      · simp [hf, percentMul]
      · simp [hw, percentMul]
      · exact hr
  · next hne =>
      simp only [Option.isSome_some, true_iff]
      exact fun hr => hne (Or.inr (Or.inr hr))

/-- A payment is that of one node. -/
theorem payScored_others (score factor : ℕ) {j : ℕ} (hj : j ≠ node.id) :
    (r.payScored cfg ar h node score factor).1.state.standing r.subnetId j =
      h.state.standing r.subnetId j := by
  unfold payScored
  dsimp only
  split
  · rfl
  · exact State.payNode_standing ar h.state r.subnetId node.id node.validatorId _ hj

/-- Where nobody is paid nothing is written. -/
theorem payScored_unpaid {score factor : ℕ}
    (hnone : ¬ (r.payScored cfg ar h node score factor).2.isSome) :
    (r.payScored cfg ar h node score factor).1 = h := by
  unfold payScored at hnone ⊢
  dsimp only at hnone ⊢
  split at hnone
  · next hzero => rw [if_pos hzero]
  · exact absurd rfl hnone

/-- When a node in the data is paid, once the class gates are passed. -/
theorem scoredNode_spec (rep score : ℕ) {ex : Bool}
    (hex : (h.state.standing r.subnetId node.id).1.isSome = ex) :
    let q := r.scoredNode cfg ar h node rep ex score
    (q.2.isSome ↔ (ex = true → r.minValidatorReputation ≤ r.scoredReputation rep node.id score) ∧
      percentMul (r.nodeShare score) (r.attestFactor node.id) ≠ 0) ∧
    (∀ j, j ≠ node.id → q.1.state.standing r.subnetId j = h.state.standing r.subnetId j) ∧
    (¬ q.2.isSome → (q.1.state.standing r.subnetId node.id).2 =
      (h.state.standing r.subnetId node.id).2) := by
  unfold scoredNode scoredReputation
  dsimp only
  -- the weight threshold, in either case
  have hweight : ∃ (h₁ : Metered A) (rep₁ : ℕ), Stage r node h h₁ ∧
      (if ex = true ∧ percentDiv score r.submission.weightSum < r.weightThreshold
        then r.decreaseReputation cfg h node rep r.factors.belowMinWeightDecrease
        else (h, rep)) = (h₁, rep₁) ∧
      (ex = true → rep₁ = if percentDiv score r.submission.weightSum < r.weightThreshold
        then State.decreaseRep rep r.factors.belowMinWeightDecrease none else rep) := by
    split
    · next hc =>
        refine ⟨_, _, decreaseReputation_stage cfg r h node rep _, rfl, ?_⟩
        intro _
        rw [if_pos hc.2]
        exact decreaseReputation_snd cfg r h node (hex.trans hc.1)
    · next hc =>
        refine ⟨h, rep, Stage.refl h, rfl, ?_⟩
        intro htrue
        rw [if_neg fun hlt => hc ⟨htrue, hlt⟩]
  rcases hweight with ⟨h₁, rep₁, hstage₁, heq, hrep₁⟩
  rw [heq]
  dsimp only
  rcases rewardFactor_spec cfg r h₁ node rep₁ (hstage₁.present.trans hex) with
    ⟨hstage₂, hrep₂, hfactor⟩
  have hstage := hstage₁.trans hstage₂
  rw [hfactor]
  split
  · next hc =>
      rw [hrep₂] at hc
      refine ⟨?_, ?_, ?_⟩
      · simp only [Option.isSome_none, Bool.false_eq_true, false_iff, not_and]
        intro hge
        have hlt := hc.2
        simp only [hc.1, Bool.true_and, hrep₁ hc.1] at hlt
        exact absurd (hge hc.1) (not_le.mpr hlt)
      · intro j hj
        rw [Metered.handleConsensusRemoveActiveNode_standing cfg _ _ _ _ hj]
        exact hstage.others j hj
      · intro _
        exact (Metered.handleConsensusRemoveActiveNode_kept cfg _ r.subnetId node.id _ node.id).1.trans
          hstage.stake
  · next hc =>
      rw [hrep₂] at hc
      refine ⟨?_, ?_, ?_⟩
      · rw [payScored_isSome]
        refine ⟨fun hdue => ⟨?_, hdue⟩, fun h => h.2⟩
        intro htrue
        have hge := not_lt.mp fun hlt => hc ⟨htrue, hlt⟩
        simpa only [htrue, Bool.true_and, hrep₁ htrue] using hge
      · intro j hj
        rw [payScored_others cfg ar r _ node _ _ hj]
        exact hstage.others j hj
      · intro hnone
        rw [payScored_unpaid cfg ar r _ node hnone]
        exact hstage.stake

/-- When a node in the data is paid. -/
theorem presentNode_spec (rep score : ℕ) {ex : Bool}
    (hex : (h.state.standing r.subnetId node.id).1.isSome = ex) :
    let q := r.presentNode cfg ar h node rep ex score
    (q.2.isSome ↔ ¬ (ex = true ∧ node.classification.nodeClass = .included ∧
        r.forkedSubnetNodeIds = none) ∧
      (ex = true → r.minValidatorReputation ≤ r.adjustedReputation cfg rep node.id score) ∧
      percentMul (r.nodeShare score) (r.attestFactor node.id) ≠ 0) ∧
    (∀ j, j ≠ node.id → q.1.state.standing r.subnetId j = h.state.standing r.subnetId j) ∧
    (¬ q.2.isSome → (q.1.state.standing r.subnetId node.id).2 =
      (h.state.standing r.subnetId node.id).2) := by
  unfold presentNode adjustedReputation
  dsimp only
  -- the reputation is raised first, unless it is full
  have hincrease : ∃ (h₁ : Metered A) (rep₁ : ℕ), Stage r node h h₁ ∧
      (if ex = true ∧ rep ≠ percentageFactor then
        (Metered.consume ⟨(h.state.increaseAndReturnNodeReputation cfg r.subnetId node.id rep
          r.factors.includedIncrease none).1, h.meter⟩ (cfg.writes 1),
          (h.state.increaseAndReturnNodeReputation cfg r.subnetId node.id rep
            r.factors.includedIncrease none).2)
        else (h, rep)) = (h₁, rep₁) ∧
      (ex = true → rep₁ = if rep ≠ percentageFactor
        then State.increaseRep cfg rep r.factors.includedIncrease none else rep) := by
    split
    · next hc =>
        refine ⟨_, _, stage_setNodeReputation r h node rep _ _, rfl, ?_⟩
        intro _
        rw [if_pos hc.2]
        unfold State.increaseAndReturnNodeReputation
        rw [State.setNodeReputation_snd, if_pos (hex.trans hc.1)]
    · next hc =>
        refine ⟨h, rep, Stage.refl h, rfl, ?_⟩
        intro htrue
        rw [if_neg fun hne => hc ⟨htrue, hne⟩]
  rcases hincrease with ⟨h₁, rep₁, hstage, heq, hrep₁⟩
  rw [heq]
  dsimp only
  split
  · next hgate =>
      refine ⟨?_, ?_, ?_⟩
      · simp only [Option.isSome_none, Bool.false_eq_true, false_iff]
        rintro ⟨hnot, _⟩
        exact hnot hgate
      · intro j hj
        rw [Metered.handleIncludedNode_standing]
        exact hstage.others j hj
      · intro _
        rw [Metered.handleIncludedNode_standing]
        exact hstage.stake
  · next hgate =>
      -- what follows is decided with the raised reputation
      rcases scoredNode_spec cfg ar r h₁ node rep₁ score (hstage.present.trans hex) with
        ⟨hpaid, hothers, hstake⟩
      refine ⟨?_, ?_, ?_⟩
      · rw [hpaid]
        constructor
        · rintro ⟨hge, hdue⟩
          exact ⟨hgate, fun htrue => hrep₁ htrue ▸ hge htrue, hdue⟩
        · rintro ⟨_, hge, hdue⟩
          exact ⟨fun htrue => (hrep₁ htrue).symm ▸ hge htrue, hdue⟩
      · intro j hj
        exact (hothers j hj).trans (hstage.others j hj)
      · intro hnone
        exact (hstake hnone).trans hstage.stake

omit [DecidableEq A] in
/-- A node that is not on the list loses reputation in one stage. -/
theorem absentNode_stage (rep : ℕ) (ex : Bool) :
    Stage r node h (r.absentNode cfg h node rep ex) := by
  unfold absentNode
  split
  · dsimp only
    split
    · exact (decreaseReputation_stage cfg r h node rep _).trans ⟨rfl, rfl, fun _ _ => rfl⟩
    · exact decreaseReputation_stage cfg r h node rep _
  · exact Stage.refl h

/-- An iteration pays its node exactly if the node earns it, leaves the other
nodes alone, and raises no stake without a payout. -/
theorem nodeStep_spec :
    let q := r.nodeStep cfg ar h node
    (q.2.isSome ↔ r.Earns cfg (h.state.standing r.subnetId node.id).1 node) ∧
    (∀ j, j ≠ node.id → q.1.state.standing r.subnetId j = h.state.standing r.subnetId j) ∧
    (¬ q.2.isSome → (q.1.state.standing r.subnetId node.id).2 =
      (h.state.standing r.subnetId node.id).2) := by
  unfold nodeStep Earns
  have hrep : h.state.nodes.subnetNodeReputation.find? (r.subnetId, node.id) =
      (h.state.standing r.subnetId node.id).1 := rfl
  dsimp only
  rw [hrep]
  -- everything depends on the reputation that was found, or on there being none
  generalize hfound : (h.state.standing r.subnetId node.id).1 = found
  split
  -- the reputation is too low, and the node is removed
  · next hlow =>
      refine ⟨?_, ?_, ?_⟩
      · simp only [Option.isSome_none, Bool.false_eq_true, false_iff]
        rintro ⟨_, _, hmin⟩
        cases found with
        | none => exact absurd hlow.1 (by simp)
        | some x => exact absurd (hmin x rfl).1 (not_le.mpr hlow.2)
      · intro j hj
        exact Metered.handleConsensusRemoveActiveNode_standing cfg (h.consume (cfg.reads 1)) _ _ _ hj
      · intro _
        exact (Metered.handleConsensusRemoveActiveNode_kept cfg (h.consume (cfg.reads 1)) r.subnetId
          node.id _ node.id).1
  · next hlow =>
      split
      -- idle nodes are not scored
      · next hidle =>
          refine ⟨?_, ?_, ?_⟩
          · simp only [Option.isSome_none, Bool.false_eq_true, false_iff]
            rintro ⟨hgate, _⟩
            refine hgate ⟨?_, hidle.2.2, Or.inl hidle.2.1⟩
            exact Option.isSome_iff_ne_none.mp hidle.1
          · intro j _
            exact Metered.handleIdleNode_standing cfg (h.consume (cfg.reads 1)) _ _ _ _ j
          · intro _
            rw [Metered.handleIdleNode_standing]
            rfl
      · next hidle =>
          unfold dueReward
          split
          · next hnone =>
              have hstage := absentNode_stage cfg r (h.consume (cfg.reads 1)) node (found.getD 0)
                found.isSome
              refine ⟨?_, hstage.others, fun _ => hstage.stake⟩
              simp [hnone]
          · next d hd =>
              -- the proposal has the node; the rest is the payment of nodes that are present
              rcases presentNode_spec cfg ar r (h.consume (cfg.reads 1)) node (found.getD 0) d.score
                (congrArg Option.isSome hfound) with ⟨hpaid, hothers, hstake⟩
              refine ⟨?_, hothers, hstake⟩
              rw [hpaid, hd]
              cases found with
              | none => simp [Stopped]
              | some x =>
                  have hge : r.minValidatorReputation ≤ x :=
                    not_lt.mp fun hlt => hlow ⟨rfl, hlt⟩
                  have hclass : ¬ (node.classification.nodeClass = .idle ∧
                      r.forkedSubnetNodeIds = none) := fun hc => hidle ⟨rfl, hc⟩
                  constructor
                  · rintro ⟨hgate, hmin, hdue⟩
                    refine ⟨?_, hdue, ?_⟩
                    · rintro ⟨_, hfork, hc | hc⟩
                      · exact hclass ⟨hc, hfork⟩
                      · exact hgate ⟨rfl, hc, hfork⟩
                    · intro y hy
                      cases hy
                      refine ⟨hge, ?_⟩
                      intro d' hd'
                      cases hd'
                      exact hmin rfl
                  · rintro ⟨hgate, hdue, hmin⟩
                    refine ⟨?_, fun _ => (hmin x rfl).2 d rfl, hdue⟩
                    rintro ⟨_, hc, hfork⟩
                    exact hgate ⟨by simp, hfork, Or.inr hc⟩

/-- What an iteration does to an idle node: it fades, or it keeps its standing
until it is removed. -/
theorem nodeStep_idle (hclass : node.classification.nodeClass = .idle)
    (hdata : (r.submission.data.find? fun d => d.subnetNodeId = node.id) = none) :
    KeptOrRemoved (h.state.standing r.subnetId node.id)
        ((r.nodeStep cfg ar h node).1.state.standing r.subnetId node.id) ↔
      ¬ r.Fades (h.state.standing r.subnetId node.id).1 := by
  have hrep : h.state.nodes.subnetNodeReputation.find? (r.subnetId, node.id) =
      (h.state.standing r.subnetId node.id).1 := rfl
  unfold nodeStep Fades
  dsimp only
  rw [hrep, hdata]
  rcases hfound : (h.state.standing r.subnetId node.id).1 with _ | x
  · -- it is gone already
    simp only [Option.isSome_none, Bool.false_eq_true, false_and, if_false, absentNode]
    simp [KeptOrRemoved.refl]
  · simp only [Option.isSome_some, true_and, Option.getD_some, hclass]
    by_cases hlow : x < r.minValidatorReputation
    · rw [if_pos hlow]
      refine ⟨?_, fun _ => Metered.handleConsensusRemoveActiveNode_kept cfg
        (h.consume (cfg.reads 1)) r.subnetId node.id _ node.id⟩
      rintro _ ⟨_, y, hy, hge, _⟩
      cases hy
      omega
    · rw [if_neg hlow]
      -- idle nodes are only scored while a temporary set is in place
      by_cases hfork : r.forkedSubnetNodeIds = none
      · rw [if_pos hfork]
        refine ⟨fun _ hc => hc.1 hfork, fun _ => ?_⟩
        rw [Metered.handleIdleNode_standing]
        exact KeptOrRemoved.refl _
      · rw [if_neg hfork]
        have hsome : (h.state.standing r.subnetId node.id).1.isSome := by
          rw [hfound]
          rfl
        have hset := State.setNodeReputation_standing (h.consume (cfg.reads 1)).state r.subnetId
          node.id x (State.decreaseRep x r.factors.absentDecrease none) node.id
        rw [if_pos ⟨rfl, hsome⟩] at hset
        have hstep : (r.absentNode cfg (h.consume (cfg.reads 1)) node x true).state.standing
            r.subnetId node.id = (some (State.decreaseRep x r.factors.absentDecrease none),
              (h.state.standing r.subnetId node.id).2) := by
          unfold absentNode
          simp only [hclass, if_true, reduceCtorEq, if_false]
          exact hset
        rw [hstep]
        unfold KeptOrRemoved
        rw [hfound]
        constructor
        · rintro ⟨_, heq | hnone⟩ ⟨_, y, hy, _, hne⟩
          · cases hy
            exact hne (Option.some.inj heq)
          · cases hnone
        · intro hnot
          refine ⟨rfl, Or.inl ?_⟩
          by_contra hne
          exact hnot ⟨hfork, x, rfl, not_lt.mp hlow, fun heq => hne (congrArg some heq)⟩

/-! ## The loop -/

/-- By induction on the nodes: a node that is not among them keeps its standing. -/
theorem nodeLoop_others (nodes : List SubnetNode) {j : ℕ} (hj : ∀ n ∈ nodes, n.id ≠ j) :
    (r.nodeLoop cfg ar h nodes).1.state.standing r.subnetId j = h.state.standing r.subnetId j := by
  induction nodes generalizing h with
  | nil => rfl
  | cons n nodes ih =>
      rcases List.forall_mem_cons.mp hj with ⟨hn, hrest⟩
      unfold nodeLoop
      rw [ih (r.nodeStep cfg ar h n).1 hrest]
      exact (nodeStep_spec cfg ar r h n).2.1 j fun heq => hn heq.symm

/-- Who the loop pays is among its nodes. -/
theorem nodeLoop_payouts (nodes : List SubnetNode) :
    ∀ p ∈ (r.nodeLoop cfg ar h nodes).2, ∃ n ∈ nodes, n.id = p.1 := by
  induction nodes generalizing h with
  | nil =>
      intro p hp
      cases hp
  | cons n nodes ih =>
      intro p hp
      unfold nodeLoop at hp
      rcases List.mem_append.mp hp with hp | hp
      · cases hstep : (r.nodeStep cfg ar h n).2 with
        | none => simp [hstep] at hp
        | some pay =>
            simp only [hstep, Option.map_some, Option.toList_some, List.mem_singleton] at hp
            exact ⟨n, List.mem_cons_self, by rw [hp]⟩
      · rcases ih _ p hp with ⟨n', hn', hid⟩
        exact ⟨n', List.mem_cons_of_mem n hn', hid⟩

/-- Each node has one iteration, which finds the node as it was before the loop
and decides its part of the outcome. -/
theorem nodeLoop_at {nodes : List SubnetNode} (hids : (nodes.map SubnetNode.id).Nodup)
    (hmem : node ∈ nodes) :
    ∃ h', h'.state.standing r.subnetId node.id = h.state.standing r.subnetId node.id ∧
      (r.nodeLoop cfg ar h nodes).1.state.standing r.subnetId node.id =
        (r.nodeStep cfg ar h' node).1.state.standing r.subnetId node.id ∧
      ((∃ p ∈ (r.nodeLoop cfg ar h nodes).2, p.1 = node.id) ↔
        (r.nodeStep cfg ar h' node).2.isSome) := by
  induction nodes generalizing h with
  | nil => cases hmem
  | cons n nodes ih =>
      rw [List.map_cons, List.nodup_cons] at hids
      rcases hids with ⟨hfresh, hids⟩
      have hrest : ∀ m ∈ nodes, m.id ≠ n.id := by
        intro m hm heq
        exact hfresh (heq ▸ List.mem_map_of_mem hm)
      unfold nodeLoop
      rcases List.mem_cons.mp hmem with rfl | hmem
      -- its own iteration, after which the loop has only others
      · refine ⟨h, rfl, nodeLoop_others cfg ar r _ nodes hrest, ?_⟩
        constructor
        · rintro ⟨p, hp, hid⟩
          rcases List.mem_append.mp hp with hp | hp
          · cases hstep : (r.nodeStep cfg ar h node).2 with
            | none => simp [hstep] at hp
            | some pay => rfl
          · rcases nodeLoop_payouts cfg ar r _ nodes p hp with ⟨m, hm, hmid⟩
            exact absurd (hmid.trans hid) (hrest m hm)
        · intro hsome
          rcases Option.isSome_iff_exists.mp hsome with ⟨pay, hpay⟩
          refine ⟨(node.id, pay), ?_, rfl⟩
          simp [hpay]
      -- the iteration of another node, which leaves it alone
      · have hne : node.id ≠ n.id := hrest node hmem
        rcases ih (r.nodeStep cfg ar h n).1 hids hmem with ⟨h', hstart, hend, hpaid⟩
        refine ⟨h', hstart.trans ((nodeStep_spec cfg ar r h n).2.1 node.id hne), hend, ?_⟩
        rw [← hpaid]
        constructor
        · rintro ⟨p, hp, hid⟩
          rcases List.mem_append.mp hp with hp | hp
          · cases hstep : (r.nodeStep cfg ar h n).2 with
            | none => simp [hstep] at hp
            | some pay =>
                simp only [hstep, Option.map_some, Option.toList_some, List.mem_singleton] at hp
                rw [hp] at hid
                exact absurd hid.symm hne
          · exact ⟨p, hp, hid⟩
        · rintro ⟨p, hp, hid⟩
          exact ⟨p, List.mem_append_right _ hp, hid⟩

end Iteration

end RewardRound

/-! ## The whole distribution -/

/-- The round of `distribute_rewards`, from the storage it starts with. -/
def State.rewardRound (s : State A) (subnetId currentSubnetEpoch : ℕ) (c : ConsensusSubmissionData)
    (rewards : RewardsData) (superMajorityThreshold : ℕ) : RewardRound where
  subnetId := subnetId
  submission := c
  subnetNodeRewards := rewards.subnetNodeRewards
  minValidatorReputation := s.emission.minSubnetNodeReputation.getD subnetId 100000000000000000
  electableNodesCount := (s.nodes.subnetNodeElectionSlots.getD subnetId []).length
  forkedSubnetNodeIds := (s.nodes.emergencySubnetNodeElectionData.find? subnetId).map
    fun d => d.subnetNodeIds.toFinset
  idleEpochs := s.emission.idleClassificationEpochs.getD subnetId 2
  includedEpochs := s.emission.includedClassificationEpochs.getD subnetId 2
  weightThreshold := s.emission.subnetNodeMinWeightDecreaseReputationThreshold.val subnetId
  factors := Metered.getReputationFactorsForEpoch s subnetId (currentSubnetEpoch - 1)
  currentSubnetEpoch := currentSubnetEpoch
  superMajorityThreshold := superMajorityThreshold

namespace Metered

variable (cfg : Config A) (ar : Arith) (h : Metered A)

/-- The opening of a settlement reads the emergency set, and writes neither nodes nor stake. -/
theorem openEpoch_spec (i : ℕ) :
    (h.openEpoch cfg i).2 = (h.state.nodes.emergencySubnetNodeElectionData.find? i).map
        (fun d => d.subnetNodeIds.toFinset) ∧
    (h.openEpoch cfg i).1.state.emission = h.state.emission ∧
    (h.openEpoch cfg i).1.state.nodes.subnetNodeElectionSlots =
      h.state.nodes.subnetNodeElectionSlots ∧
    (h.openEpoch cfg i).1.state.nodes.subnetNodeQueue = h.state.nodes.subnetNodeQueue ∧
    ∀ j, (h.openEpoch cfg i).1.state.standing i j = h.state.standing i j := by
  unfold openEpoch maybeGetForkedSubnetNodeIds
  dsimp only [consume_state]
  cases hd : h.state.nodes.emergencySubnetNodeElectionData.find? i with
  | none => exact ⟨rfl, rfl, rfl, rfl, fun _ => rfl⟩
  | some d => exact ⟨rfl, rfl, rfl, rfl, fun _ => rfl⟩

/-- The reputation of a validator is apart from its nodes. -/
theorem increaseValidatorReputation_nodes (s : State A) (v a m f e : ℕ) :
    (s.increaseValidatorReputation cfg v a m f e).nodes = s.nodes ∧
    (s.increaseValidatorReputation cfg v a m f e).stake = s.stake ∧
    (s.increaseValidatorReputation cfg v a m f e).emission = s.emission := by
  unfold State.increaseValidatorReputation
  split
  · exact ⟨rfl, rfl, rfl⟩
  · split <;> exact ⟨rfl, rfl, rfl⟩

/-- The proposer's reward raises the proposer's stake only. -/
theorem rewardProposer_spec (i : ℕ) (c : ConsensusSubmissionData) (m f e : ℕ) :
    (h.rewardProposer cfg ar i c m f e).1.state.emission = h.state.emission ∧
    (h.rewardProposer cfg ar i c m f e).1.state.nodes = h.state.nodes ∧
    ∀ j, j ≠ c.validatorSubnetNodeId →
      (h.rewardProposer cfg ar i c m f e).1.state.standing i j = h.state.standing i j := by
  unfold rewardProposer
  split
  · next v _ =>
      rcases increaseValidatorReputation_nodes cfg h.state v c.attestationRatio m f e with
        ⟨hnodes, hstake, hemission⟩
      refine ⟨hemission, hnodes, ?_⟩
      intro j hj
      simp only [handleValidatorReward, State.standing, consume_state, map_state,
        State.increaseNodeStake, hnodes, hstake]
      rw [StorageMap.val_set_ne]
      intro heq
      exact hj (congrArg Prod.fst heq)
  · exact ⟨rfl, rfl, fun _ _ => rfl⟩

/-- Moving a node to the front of the queue keeps the queue's nodes. -/
theorem prioritizeQueueNode_spec (i : ℕ) (p : Option ℕ) (queue : List SubnetNode) :
    (∀ j, (h.prioritizeQueueNode cfg i p queue).1.state.standing i j = h.state.standing i j) ∧
    ∀ n ∈ (h.prioritizeQueueNode cfg i p queue).2, n ∈ queue := by
  unfold prioritizeQueueNode
  split
  · exact ⟨fun _ => rfl, fun _ hn => hn⟩
  · dsimp only
    split
    · exact ⟨fun _ => rfl, fun _ hn => hn⟩
    · next node hnode =>
        refine ⟨fun _ => rfl, ?_⟩
        intro n hn
        rcases List.mem_cons.mp hn with rfl | hn
        · exact List.mem_of_find?_eq_some hnode
        · exact List.mem_of_mem_eraseP hn

/-- A node that is not in the queue keeps its standing. -/
theorem removeQueueNode_standing (i : ℕ) (p : Option ℕ) (queue : List SubnetNode) {j : ℕ}
    (hj : ∀ n ∈ queue, n.id ≠ j) :
    (h.removeQueueNode cfg i p queue).state.standing i j = h.state.standing i j := by
  unfold removeQueueNode
  split
  · rfl
  · next id =>
      split
      · rfl
      · next node hnode =>
          have hid : node.id = id := by simpa using List.find?_some hnode
          have hne : j ≠ id := fun heq =>
            hj node (List.mem_of_find?_eq_some hnode) (hid.trans heq.symm)
          dsimp only
          split
          · rw [consume_state, map_state, State.removeRegisteredSubnetNode_standing _ _ _ hne]
            rfl
          · rfl

/-- The queue's part of a consensus leaves nodes outside the queue alone. -/
theorem handleNodeQueueConsensus_standing (i : ℕ) (c : ConsensusSubmissionData) (t : ℕ) {j : ℕ}
    (hj : ∀ n ∈ h.state.nodes.subnetNodeQueue.getD i [], n.id ≠ j) :
    (h.handleNodeQueueConsensus cfg i c t).state.standing i j = h.state.standing i j := by
  unfold handleNodeQueueConsensus
  split
  · rcases prioritizeQueueNode_spec cfg h i c.prioritizeQueueNodeId
      (h.state.nodes.subnetNodeQueue.getD i []) with ⟨hfront, hmem⟩
    dsimp only
    rw [removeQueueNode_standing cfg _ i c.removeQueueNodeId _ fun n hn => hj n (hmem n hn)]
    exact hfront j
  · rfl

/-- What is agreed on about the queue concerns the nodes in it. -/
theorem agree_standing (i : ℕ) (c : ConsensusSubmissionData) (t rep : ℕ) {j : ℕ}
    (hj : ∀ n ∈ h.state.nodes.subnetNodeQueue.getD i [], n.id ≠ j) :
    (h.agree cfg i c t rep).state.standing i j = h.state.standing i j := by
  have hqueue := handleNodeQueueConsensus_standing cfg (h.consume (cfg.reads 4)) i c t hj
  unfold agree rewardSubnetReputation
  dsimp only
  split
  · exact hqueue
  · exact hqueue

/-! ### Out of consensus -/

/-- A slash is that of one node. -/
theorem slashValidator_standing (s : State A) (i id a m d rep n e f : ℕ) {j : ℕ} (hj : j ≠ id) :
    (slashValidator cfg s i id a m d rep n e f).1.standing i j = s.standing i j := by
  -- each part of the slash writes entries of the one node, if any
  have hstake : ∀ delta, (slashStake cfg s i id delta).1.standing i j = s.standing i j := by
    intro delta
    unfold slashStake
    dsimp only
    split
    · simp [State.standing, State.decreaseNodeStake, hj]
    · rfl
  have hrep : ∀ (s : State A) (delta : ℕ), (slashNodeReputation s i id delta f).1.standing i j =
      s.standing i j := by
    intro s delta
    unfold slashNodeReputation
    split
    · rfl
    · dsimp only [State.decreaseAndReturnNodeReputation]
      rw [State.setNodeReputation_standing, if_neg fun hc => hj hc.1]
  have hval : ∀ s : State A, (slashValidatorReputation s i id a m d e).1.standing i j =
      s.standing i j := by
    intro s
    unfold slashValidatorReputation State.decreaseValidatorReputation
    split
    · rfl
    · dsimp only
      split
      · rfl
      · split <;> rfl
  unfold slashValidator
  split
  · rfl
  · dsimp only
    split
    · split
      · rw [State.removeActiveSubnetNode_standing, if_neg fun hc => hj hc.1, hval, hrep, hstake]
      · rw [hval, hrep, hstake]
    · rw [hval, hrep, hstake]

/-- A penalty is that of one attestor. -/
theorem penaliseAttestor_standing (i f m e id : ℕ) {j : ℕ} (hj : j ≠ id) :
    (penaliseAttestor cfg i f m e h id).state.standing i j = h.state.standing i j := by
  have hset : ∀ rep, (h.state.decreaseAndReturnNodeReputation i id rep f none).1.standing i j =
      h.state.standing i j := by
    intro rep
    unfold State.decreaseAndReturnNodeReputation
    rw [State.setNodeReputation_standing, if_neg fun hc => hj hc.1]
  unfold penaliseAttestor
  split
  · rfl
  · dsimp only
    split
    · rw [handleConsensusRemoveActiveNode_standing cfg _ _ _ _ hj]
      exact hset _
    · exact hset _

/-- By induction on the attestors. -/
theorem penaliseLoop_standing (i f m e : ℕ) (ids : List ℕ) {j : ℕ} (hj : j ∉ ids) :
    (ids.foldl (penaliseAttestor cfg i f m e) h).state.standing i j = h.state.standing i j := by
  induction ids generalizing h with
  | nil => rfl
  | cons id ids ih =>
      rcases not_or.mp (fun hc => hj (List.mem_cons.mpr hc)) with ⟨hid, hids⟩
      rw [List.foldl_cons, ih _ hids]
      exact penaliseAttestor_standing cfg h i f m e id hid

/-- Out of consensus only the proposer and the attestors are touched. -/
theorem handleNonConsensus_standing (i : ℕ) (c : ConsensusSubmissionData) (m d rep n e v : ℕ) {j : ℕ}
    (hproposer : j ≠ c.validatorSubnetNodeId) (hattest : c.attests.find? j = none) :
    (h.handleNonConsensus cfg i c m d rep n e v).state.standing i j = h.state.standing i j := by
  unfold handleNonConsensus
  dsimp only
  rw [penaliseLoop_standing]
  · exact slashValidator_standing cfg h.state i c.validatorSubnetNodeId _ _ _ _ _ _ _ hproposer
  · rw [StorageMap.mem_ascKeys, hattest]
    simp

end Metered

/-- A submission as the proposal and the attestations leave it. The snapshot has
every active node once, none of them queued; the proposer and the attestors are
of the validator class, and idle nodes are not in the data. -/
structure ConsensusSubmissionData.Snapshot (c : ConsensusSubmissionData) (s : State A)
    (subnetId : ℕ) : Prop where
  ids : (c.subnetNodes.map SubnetNode.id).Nodup
  active : ∀ node ∈ c.subnetNodes, node.classification.nodeClass ≠ .registered
  proposer : ∀ node ∈ c.subnetNodes, node.classification.nodeClass ≠ .validator →
    node.id ≠ c.validatorSubnetNodeId
  attests : ∀ node ∈ c.subnetNodes, node.classification.nodeClass ≠ .validator →
    c.attests.find? node.id = none
  data : ∀ node ∈ c.subnetNodes, node.classification.nodeClass = .idle →
    (c.data.find? fun d => d.subnetNodeId = node.id) = none
  queue : ∀ node ∈ c.subnetNodes, ∀ n ∈ s.nodes.subnetNodeQueue.getD subnetId [],
    n.id ≠ node.id

section Distribution

variable [DecidableEq A]

/-- Only nodes of the validator class in the snapshot are paid by score, the
stake of the others does not move, and idle nodes keep their reputation until
they are removed. -/
structure PaysValidatorsOnly (s : State A) (subnetId : ℕ) (c : ConsensusSubmissionData)
    (q : Metered A × Distribution A) : Prop where
  payouts : ∀ p ∈ q.2.payouts, ∃ node ∈ c.subnetNodes, node.id = p.1 ∧
    node.classification.nodeClass = .validator
  stakes : ∀ node ∈ c.subnetNodes, node.classification.nodeClass ≠ .validator →
    q.1.state.stake.nodeSubnetStake.val (node.id, subnetId) =
      s.stake.nodeSubnetStake.val (node.id, subnetId)
  idle : ∀ node ∈ c.subnetNodes, node.classification.nodeClass = .idle →
    q.1.state.nodes.subnetNodeReputation.find? (subnetId, node.id) =
        s.nodes.subnetNodeReputation.find? (subnetId, node.id) ∨
      q.1.state.nodes.subnetNodeReputation.find? (subnetId, node.id) = none

omit [DecidableEq A] in
/-- Where nobody is paid by score and no standing below the validator class moves. -/
theorem PaysValidatorsOnly.of_standing {s : State A} {subnetId : ℕ} {c : ConsensusSubmissionData}
    {q : Metered A × Distribution A} (hnone : q.2.payouts = [])
    (hkept : ∀ node ∈ c.subnetNodes, node.classification.nodeClass ≠ .validator →
      q.1.state.standing subnetId node.id = s.standing subnetId node.id) :
    PaysValidatorsOnly s subnetId c q := by
  refine ⟨?_, ?_, ?_⟩
  · intro p hp
    rw [hnone] at hp
    cases hp
  · intro node hnode hclass
    exact congrArg Prod.snd (hkept node hnode hclass)
  · intro node hnode hclass
    refine Or.inl (congrArg Prod.fst (hkept node hnode ?_))
    rw [hclass]
    simp

/-- In consensus, and with rewards to pay out. -/
theorem Metered.distributeRewards_payOut (cfg : Config A) (ar : Arith) (h : Metered A)
    (subnetId currentEpoch currentSubnetEpoch : ℕ) (c : ConsensusSubmissionData)
    (rewards : RewardsData) (m inc dec sm : ℕ) (hratio : ¬ c.attestationRatio < m)
    (hsum : c.weightSum ≠ 0) :
    h.distributeRewards cfg ar subnetId currentEpoch currentSubnetEpoch c rewards m inc dec sm =
      let v := (h.openEpoch cfg subnetId).1.rewardProposer cfg ar subnetId c m inc currentEpoch
      (v.1.agree cfg subnetId c sm (h.state.subnetReputation subnetId)).payOut cfg ar
        (h.state.rewardRound subnetId currentSubnetEpoch c rewards sm) rewards v.2 := by
  rcases openEpoch_spec cfg h subnetId with ⟨hfork, hemission, hslots, _, _⟩
  have hproposer := (rewardProposer_spec cfg ar (h.openEpoch cfg subnetId).1 subnetId c m inc
    currentEpoch).1
  unfold distributeRewards
  simp only [if_neg hratio, if_neg hsum, State.rewardRound, getReputationFactorsForEpoch, hfork,
    hproposer, hemission, hslots]

omit [DecidableEq A] in
/-- The proposer's reward and the agreement leave a node below the validator class
alone. -/
theorem Metered.agree_rewardProposer_standing (cfg : Config A) (ar : Arith) (h : Metered A)
    (subnetId currentEpoch : ℕ) (c : ConsensusSubmissionData) (m inc sm rep : ℕ)
    (hc : c.Snapshot h.state subnetId) {node : SubnetNode} (hnode : node ∈ c.subnetNodes)
    (hclass : node.classification.nodeClass ≠ .validator) :
    (((h.openEpoch cfg subnetId).1.rewardProposer cfg ar subnetId c m inc currentEpoch).1.agree
      cfg subnetId c sm rep).state.standing subnetId node.id =
      h.state.standing subnetId node.id := by
  rcases openEpoch_spec cfg h subnetId with ⟨_, _, _, hqueue, hopen⟩
  rcases rewardProposer_spec cfg ar (h.openEpoch cfg subnetId).1 subnetId c m inc currentEpoch with
    ⟨_, hnodes, hproposer⟩
  rw [agree_standing, hproposer node.id (hc.proposer node hnode hclass), hopen]
  rw [hnodes, hqueue]
  exact hc.queue node hnode

/-- The owner is paid into its balance. -/
theorem Metered.payOwner_standing (cfg : Config A) (h : Metered A) (r : RewardRound)
    (rewards : RewardsData) (j : ℕ) :
    (h.payOwner cfg r rewards).1.state.standing r.subnetId j =
      h.state.standing r.subnetId j := by
  unfold payOwner handleSubnetOwnerReward
  dsimp only
  split
  · rfl
  · rfl

omit [DecidableEq A] in
/-- The pool of the subnet is not the stake of a node. -/
theorem Metered.rewardSubnetPool_standing (cfg : Config A) (ar : Arith) (h : Metered A)
    (i n j : ℕ) : (h.rewardSubnetPool cfg ar i n).state.standing i j = h.state.standing i j := by
  unfold rewardSubnetPool
  split
  · exact State.standing_congr rfl rfl i j
  · rfl

/-- The payout of a round, node by node. -/
theorem payOut_pays_validators_only_iff (cfg : Config A) (ar : Arith) {s : State A} (h : Metered A)
    (r : RewardRound) (rewards : RewardsData) (v : ℕ) (hc : r.submission.Snapshot s r.subnetId)
    (hkept : ∀ node ∈ r.submission.subnetNodes, node.classification.nodeClass ≠ .validator →
      h.state.standing r.subnetId node.id = s.standing r.subnetId node.id) :
    PaysValidatorsOnly s r.subnetId r.submission (h.payOut cfg ar r rewards v) ↔
    ∀ node ∈ r.submission.subnetNodes,
      let reputation := s.nodes.subnetNodeReputation.find? (r.subnetId, node.id)
      (node.classification.nodeClass = .included → ¬ r.Earns cfg reputation node) ∧
      (node.classification.nodeClass = .idle → ¬ r.Fades reputation) := by
  -- what happens to one node below the validator class
  have hnode : ∀ node ∈ r.submission.subnetNodes, node.classification.nodeClass ≠ .validator →
      ((∃ p ∈ (h.payOut cfg ar r rewards v).2.payouts, p.1 = node.id) ↔
        r.Earns cfg (s.standing r.subnetId node.id).1 node) ∧
      (¬ r.Earns cfg (s.standing r.subnetId node.id).1 node →
        ((h.payOut cfg ar r rewards v).1.state.standing r.subnetId node.id).2 =
          (s.standing r.subnetId node.id).2) ∧
      (node.classification.nodeClass = .idle →
        (KeptOrRemoved (s.standing r.subnetId node.id)
          ((h.payOut cfg ar r rewards v).1.state.standing r.subnetId node.id) ↔
            ¬ r.Fades (s.standing r.subnetId node.id).1)) := by
    intro node hmem hclass
    rcases RewardRound.nodeLoop_at cfg ar r (h.payOwner cfg r rewards).1 node hc.ids hmem with
      ⟨h', hstart, hend, hpaid⟩
    rw [Metered.payOwner_standing, hkept node hmem hclass] at hstart
    rcases RewardRound.nodeStep_spec cfg ar r h' node with ⟨hearns, _, hstake⟩
    have hlast : (h.payOut cfg ar r rewards v).1.state.standing r.subnetId node.id =
        (r.nodeStep cfg ar h' node).1.state.standing r.subnetId node.id := by
      rw [← hend]
      exact Metered.rewardSubnetPool_standing cfg ar _ _ _ _
    rw [hlast, ← hstart]
    refine ⟨hpaid.trans hearns, fun hnot => hstake (hearns.not.mpr hnot), ?_⟩
    intro hidle
    exact RewardRound.nodeStep_idle cfg ar r h' node hidle (hc.data node hmem hidle)
  have hidle : ∀ node ∈ r.submission.subnetNodes, node.classification.nodeClass = .idle →
      ¬ r.Earns cfg (s.standing r.subnetId node.id).1 node := by
    intro node hmem hclass hearns
    refine hearns.2.1 ?_
    simp only [RewardRound.dueReward, hc.data node hmem hclass]
  constructor
  · intro hp node hmem
    refine ⟨?_, ?_⟩
    · intro hclass hearns
      have hne : node.classification.nodeClass ≠ .validator := by
        rw [hclass]
        simp
      rcases (hnode node hmem hne).1.mpr hearns with ⟨p, hmemp, hid⟩
      rcases hp.payouts p hmemp with ⟨other, hother, hoid, hval⟩
      have heq : other = node := List.inj_on_of_nodup_map hc.ids hother hmem (hoid.trans hid)
      exact hne (heq ▸ hval)
    · intro hclass
      have hne : node.classification.nodeClass ≠ .validator := by
        rw [hclass]
        simp
      exact ((hnode node hmem hne).2.2 hclass).mp ⟨hp.stakes node hmem hne, hp.idle node hmem hclass⟩
  · intro hcond
    have hnot : ∀ node ∈ r.submission.subnetNodes, node.classification.nodeClass ≠ .validator →
        ¬ r.Earns cfg (s.standing r.subnetId node.id).1 node := by
      intro node hmem hclass
      cases hk : node.classification.nodeClass with
      | registered => exact absurd hk (hc.active node hmem)
      | idle => exact hidle node hmem hk
      | included => exact (hcond node hmem).1 hk
      | validator => exact absurd hk hclass
    refine ⟨?_, ?_, ?_⟩
    · intro p hmemp
      rcases RewardRound.nodeLoop_payouts cfg ar r _ r.submission.subnetNodes p hmemp with
        ⟨node, hmem, hid⟩
      refine ⟨node, hmem, hid, ?_⟩
      by_contra hclass
      exact hnot node hmem hclass ((hnode node hmem hclass).1.mp ⟨p, hmemp, hid.symm⟩)
    · intro node hmem hclass
      exact (hnode node hmem hclass).2.1 (hnot node hmem hclass)
    · intro node hmem hclass
      have hne : node.classification.nodeClass ≠ .validator := by
        rw [hclass]
        simp
      exact (((hnode node hmem hne).2.2 hclass).mpr ((hcond node hmem).2 hclass)).2

/-- A distribution pays validators only, exactly if it is out of consensus, holds
the rewards back, or no included node earns a reward and no idle node fades. -/
theorem pays_validators_only_iff (cfg : Config A) (ar : Arith) (h : Metered A)
    (subnetId currentEpoch currentSubnetEpoch : ℕ) (c : ConsensusSubmissionData)
    (rewards : RewardsData) (m inc dec sm : ℕ) (hc : c.Snapshot h.state subnetId) :
    PaysValidatorsOnly h.state subnetId c
      (h.distributeRewards cfg ar subnetId currentEpoch currentSubnetEpoch c rewards m inc dec sm) ↔
    (m ≤ c.attestationRatio → c.weightSum ≠ 0 → ∀ node ∈ c.subnetNodes,
      let r := h.state.rewardRound subnetId currentSubnetEpoch c rewards sm
      let reputation := h.state.nodes.subnetNodeReputation.find? (subnetId, node.id)
      (node.classification.nodeClass = .included → ¬ r.Earns cfg reputation node) ∧
      (node.classification.nodeClass = .idle → ¬ r.Fades reputation)) := by
  by_cases hratio : c.attestationRatio < m
  · -- out of consensus only the proposer and the attestors are penalised
    refine ⟨fun _ hge => absurd hratio (not_lt.mpr hge), fun _ => ?_⟩
    have hopen := (Metered.openEpoch_spec cfg h subnetId).2.2.2.2
    unfold Metered.distributeRewards
    simp only [if_pos hratio]
    refine .of_standing rfl ?_
    intro node hnode hclass
    rw [Metered.handleNonConsensus_standing cfg _ _ _ _ _ _ _ _ _ (hc.proposer node hnode hclass)
      (hc.attests node hnode hclass)]
    exact hopen node.id
  by_cases hsum : c.weightSum = 0
  · refine ⟨fun _ _ hne => absurd hsum hne, fun _ => ?_⟩
    unfold Metered.distributeRewards
    simp only [if_neg hratio, if_pos hsum]
    refine .of_standing rfl ?_
    intro node hnode hclass
    exact Metered.agree_rewardProposer_standing cfg ar h subnetId currentEpoch c m inc sm _ hc hnode
      hclass
  rw [Metered.distributeRewards_payOut cfg ar h subnetId currentEpoch currentSubnetEpoch c rewards m
    inc dec sm hratio hsum]
  have hiff := payOut_pays_validators_only_iff cfg ar (s := h.state)
    (((h.openEpoch cfg subnetId).1.rewardProposer cfg ar subnetId c m inc currentEpoch).1.agree cfg
      subnetId c sm (h.state.subnetReputation subnetId))
    (h.state.rewardRound subnetId currentSubnetEpoch c rewards sm) rewards
    ((h.openEpoch cfg subnetId).1.rewardProposer cfg ar subnetId c m inc currentEpoch).2 hc
    fun node hnode hclass => Metered.agree_rewardProposer_standing cfg ar h subnetId currentEpoch c
      m inc sm _ hc hnode hclass
  exact hiff.trans ⟨fun hall _ _ => hall, fun hall => hall (not_lt.mp hratio) hsum⟩

end Distribution

/-- Node 3 proposed; node 4 is included and has a score, node 5 is idle. -/
def demoClasses : ConsensusSubmissionData :=
  { demoSubmission with
    subnetNodes := [demoNode 3, { demoNode 4 with classification := ⟨.included, 0⟩ },
      { demoNode 5 with classification := ⟨.idle, 0⟩ }] }

/-- `demoEpochState` with a reputation for each of the nodes given. -/
def demoStanding (ids : List ℕ) : State ℕ :=
  { demoEpochState with nodes := { demoEpochState.nodes with
      subnetNodeReputation := ids.foldl (fun m id => m.set (7, id) percentageFactor) ∅ } }

/-- The epoch of `demoClasses`. -/
def demoDistribution (s : State ℕ) : Metered ℕ × Distribution ℕ :=
  Metered.distributeRewards (.runtime ℕ) u128 ⟨s, ⟨⟨1000000000000, 1000000000000⟩, ⟨0, 0⟩⟩⟩ 7 5 5
    demoClasses (s.calculateRewards u128 7 10000 percentageFactor) 660000000000000000
    500000000000000 500000000000000000 875000000000000000

/-- Node 4 is paid once it was removed; under an emergency set it is paid while it
exists, and the idle node 5 loses reputation. -/
theorem included_node_paid :
    let forked : State ℕ := { demoStanding [3, 4, 5] with nodes := { (demoStanding [3, 4, 5]).nodes
      with emergencySubnetNodeElectionData :=
        (∅ : StorageMap ℕ EmergencySubnetValidatorData).set 7 ⟨[3], 5, 0, 0⟩ } }
    (demoDistribution (demoStanding [3, 5])).2.payouts.map Prod.fst = [3, 4] ∧
    (demoDistribution (demoStanding [3, 5])).1.state.stake.nodeSubnetStake.val (4, 7) = 867 ∧
    (demoDistribution forked).2.payouts.map Prod.fst = [3, 4] ∧
    (demoDistribution forked).1.state.nodes.subnetNodeReputation.find? (7, 5) =
      some 900000000000000000 := by
  decide +kernel

/-- The submission is one that a proposal could have stored. -/
theorem demoClasses_snapshot (ids : List ℕ) : demoClasses.Snapshot (demoStanding ids) 7 where
  ids := by decide
  active := by decide
  proposer := by decide
  attests := by decide
  data := by decide
  queue := by
    intro node _ n hn
    cases hn

/-- While all nodes exist and no emergency set is in force, only node 3 is paid. -/
theorem pays_validators_only_iff_demo :
    PaysValidatorsOnly (demoStanding [3, 4, 5]) 7 demoClasses
      (demoDistribution (demoStanding [3, 4, 5])) ∧
    (demoDistribution (demoStanding [3, 4, 5])).2.payouts.map Prod.fst = [3] := by
  refine ⟨?_, by decide +kernel⟩
  refine (pays_validators_only_iff (.runtime ℕ) u128
    ⟨demoStanding [3, 4, 5], ⟨⟨1000000000000, 1000000000000⟩, ⟨0, 0⟩⟩⟩ 7 5 5 demoClasses _
    660000000000000000 500000000000000 500000000000000000 875000000000000000
    (demoClasses_snapshot [3, 4, 5])).mpr ?_
  have hexists : ∀ node ∈ demoClasses.subnetNodes,
      (demoStanding [3, 4, 5]).nodes.subnetNodeReputation.find? (7, node.id) ≠ none := by
    decide +kernel
  intro _ _ node hnode
  refine ⟨?_, fun _ hfades => hfades.1 rfl⟩
  intro hclass hearns
  exact hearns.1 ⟨hexists node hnode, rfl, Or.inr hclass⟩

end Hypertensor
