import Mathlib
import Hypertensor.Percentages
import Hypertensor.Rewards.Emission

/-!
# Hypertensor.Rewards.Penalties — what a proposal that found no consensus costs

The further an attestation ratio stays below the minimum, the more is taken: `attestationDelta`
falls as the ratio grows, and the slash, the loss of reputation and the factor of the attestors
are products of it that keep the order through every rounding. The slash stays within the stake
and its cap, and a reputation only falls, to `1.0` at most (`ReputationsFall`).
-/

namespace Hypertensor

open Base Metered

variable {A : Type}

/-! ## The order of the penalties -/

/-- A ratio that is nearer to the minimum is less far below it. -/
theorem attestationDelta_anti {a₁ a₂ m : ℕ} (h : a₁ ≤ a₂) :
    attestationDelta a₂ m ≤ attestationDelta a₁ m :=
  Nat.sub_le_sub_left (percentDiv_mono h) _

/-- What is missing is at most the whole. -/
theorem attestationDelta_le (a m : ℕ) : attestationDelta a m ≤ percentageFactor := Nat.sub_le _ _

/-- The whole is a machine number. -/
theorem percentageFactor_le : percentageFactor ≤ u128Max := by decide

/-- The slash grows with the distance. -/
theorem getSlashAmount_mono (s : State A) {stake δ δ' : ℕ} (hδ : δ ≤ δ')
    (hδ' : δ' ≤ percentageFactor) (hstake : stake ≤ u128Max)
    (hbase : s.params.baseSlashPercentage ≤ percentageFactor) :
    getSlashAmount s stake δ ≤ getSlashAmount s stake δ' := by
  have hle : percentMul stake s.params.baseSlashPercentage ≤ u128Max :=
    (percentMul_le_left hbase).trans hstake
  have hmul : percentMul (percentMul stake s.params.baseSlashPercentage) δ ≤
      percentMul (percentMul stake s.params.baseSlashPercentage) δ' :=
    percentMul_mono le_rfl hδ hle (hδ'.trans percentageFactor_le)
  unfold getSlashAmount
  dsimp only
  split
  · split <;> omega
  · split <;> omega

/-- The slash is a part of the stake, cut off at its cap. -/
theorem getSlashAmount_le_min (s : State A) {stake δ : ℕ} (hδ : δ ≤ percentageFactor)
    (hbase : s.params.baseSlashPercentage ≤ percentageFactor) :
    getSlashAmount s stake δ ≤ min stake s.params.maxSlashAmount := by
  have hslash : percentMul (percentMul stake s.params.baseSlashPercentage) δ ≤ stake :=
    (percentMul_le_left hδ).trans (percentMul_le_left hbase)
  unfold getSlashAmount
  dsimp only
  split <;> omega

namespace State

/-- A larger second factor takes more. -/
theorem decreaseRep_anti {prev f δ δ' : ℕ} (hδ : δ ≤ δ') (hδ' : δ' ≤ percentageFactor)
    (hf : f ≤ percentageFactor) (hprev : prev ≤ u128Max) :
    decreaseRep prev f (some δ') ≤ decreaseRep prev f (some δ) := by
  have hfactor : percentMul f δ ≤ percentMul f δ' :=
    percentMul_mono le_rfl hδ (hf.trans percentageFactor_le) (hδ'.trans percentageFactor_le)
  have hmul : percentMul prev (percentMul f δ) ≤ percentMul prev (percentMul f δ') :=
    percentMul_mono le_rfl hfactor hprev (percentMul_le_max f δ')
  unfold decreaseRep
  split
  · exact le_rfl
  · exact min_le_min_right _ (Nat.sub_le_sub_left hmul prev)

/-- A reputation never grows when it is decreased, and ends at `1.0` at most. -/
theorem decreaseRep_le (prev f : ℕ) (g : Option ℕ) :
    decreaseRep prev f g ≤ min prev percentageFactor := by
  unfold decreaseRep
  split
  · next hzero =>
      rw [hzero]
      exact Nat.zero_le _
  · exact le_min ((min_le_left _ _).trans (Nat.sub_le _ _)) (min_le_right _ _)

end State

/-- The more attested, the less an attestor is penalised. -/
theorem getNonConsensusAttestorFactor_anti {a₁ a₂ f m : ℕ} (h : a₁ ≤ a₂)
    (hf : f ≤ percentageFactor) :
    getNonConsensusAttestorFactor f a₂ m ≤ getNonConsensusAttestorFactor f a₁ m :=
  percentMul_mono le_rfl (attestationDelta_anti h) (hf.trans percentageFactor_le)
    ((attestationDelta_le a₁ m).trans percentageFactor_le)

/-! ## Reputations only fall -/

/-- Between two states no reputation grows. Each one that is stored is what it was, or at most
`1.0`. -/
structure State.ReputationsFall (s s' : State A) : Prop where
  node : ∀ k r', s'.nodes.subnetNodeReputation.find? k = some r' →
    ∃ r, s.nodes.subnetNodeReputation.find? k = some r ∧ (r' = r ∨ r' ≤ min r percentageFactor)
  subnet : ∀ i, s'.subnetReputation i = s.subnetReputation i ∨
    s'.subnetReputation i ≤ min (s.subnetReputation i) percentageFactor

namespace State

variable {s s' s'' : State A}

/-- Reputations stay where nothing is written. -/
theorem ReputationsFall.refl (s : State A) : s.ReputationsFall s :=
  ⟨fun _ r' h => ⟨r', h, Or.inl rfl⟩, fun _ => Or.inl rfl⟩

/-- They fall in two steps. -/
theorem ReputationsFall.trans (h : s.ReputationsFall s') (h' : s'.ReputationsFall s'') :
    s.ReputationsFall s'' := by
  constructor
  · intro k r'' hr''
    rcases h'.node k r'' hr'' with ⟨r', hr', hle'⟩
    rcases h.node k r' hr' with ⟨r, hr, hle⟩
    exact ⟨r, hr, by omega⟩
  · intro i
    have hle := h.subnet i
    have hle' := h'.subnet i
    omega

/-- A step that leaves the reputations. -/
theorem ReputationsFall.of_eq
    (hnode : s'.nodes.subnetNodeReputation = s.nodes.subnetNodeReputation)
    (hemission : s'.emission = s.emission) : s.ReputationsFall s' := by
  constructor
  · intro k r' h
    rw [hnode] at h
    exact ⟨r', h, Or.inl rfl⟩
  · intro i
    unfold subnetReputation
    rw [hemission]
    exact Or.inl rfl

/-- An election slot is no reputation. -/
theorem removeNodeFromElectionSlot_fall (s : State A) (i id : ℕ) :
    s.ReputationsFall (s.removeNodeFromElectionSlot i id) := by
  unfold removeNodeFromElectionSlot
  dsimp only
  split
  · exact .of_eq rfl rfl
  · exact .of_eq rfl rfl

/-- With a node goes its reputation. -/
theorem removeActiveSubnetNode_fall (s : State A) (i id : ℕ) :
    s.ReputationsFall (s.removeActiveSubnetNode i id) := by
  unfold removeActiveSubnetNode
  split
  · exact .refl s
  · next node _ =>
      have hcommon : s.ReputationsFall (({ s with nodes := { s.nodes with
          subnetNodesData := s.nodes.subnetNodesData.remove (i, id) } } :
            State A).commonRemoveSubnetNode i id node) := by
        constructor
        · intro k r' h
          have hremove : (s.nodes.subnetNodeReputation.remove (i, id)).find? k = some r' := h
          rw [StorageMap.find?_remove] at hremove
          split at hremove
          · cases hremove
          · exact ⟨r', hremove, Or.inl rfl⟩
        · intro j
          exact Or.inl rfl
      dsimp only
      split
      · exact (hcommon.trans (removeNodeFromElectionSlot_fall _ i id)).trans (.of_eq rfl rfl)
      · exact hcommon.trans (.of_eq rfl rfl)

/-- The reputation of a node falls by a penalty. -/
theorem decreaseAndReturnNodeReputation_fall {i id rep f : ℕ} {g : Option ℕ}
    (hrep : s.nodes.subnetNodeReputation.find? (i, id) = some rep) :
    s.ReputationsFall (s.decreaseAndReturnNodeReputation i id rep f g).1 := by
  unfold decreaseAndReturnNodeReputation setNodeReputation
  split
  · constructor
    · intro k r' h
      have hset : (s.nodes.subnetNodeReputation.set (i, id) (decreaseRep rep f g)).find? k =
          some r' := h
      rw [StorageMap.find?_set] at hset
      split at hset
      · next hk =>
          cases hset
          exact ⟨rep, hk ▸ hrep, Or.inr (decreaseRep_le rep f g)⟩
      · exact ⟨r', hset, Or.inl rfl⟩
    · intro j
      exact Or.inl rfl
  · exact .refl s

/-- The reputation of a subnet falls by a penalty. -/
theorem decreaseSubnetReputation_fall (s : State A) (i f : ℕ) (g : Option ℕ) :
    s.ReputationsFall (s.decreaseSubnetReputation i f g) := by
  constructor
  · intro k r' h
    exact ⟨r', h, Or.inl rfl⟩
  · intro j
    have hset : (s.decreaseSubnetReputation i f g).subnetReputation j =
        if j = i then decreaseRep (s.subnetReputation i) f g else s.subnetReputation j := by
      unfold decreaseSubnetReputation setSubnetReputation subnetReputation StorageMap.getD
      dsimp only
      rw [StorageMap.find?_set]
      split <;> rfl
    rw [hset]
    split
    · next hj =>
        rw [hj]
        exact Or.inr (decreaseRep_le _ f g)
    · exact Or.inl rfl

/-- The reputation of a validator falls by a penalty. -/
theorem decreaseValidatorReputation_fall (s : State A) (v a m d e : ℕ) :
    s.ReputationsFall (s.decreaseValidatorReputation v a m d e) := by
  unfold decreaseValidatorReputation
  split
  · exact .refl s
  · split
    · exact .refl s
    · exact .of_eq rfl rfl

end State

/-! ## A submission out of consensus -/

namespace Metered

variable (cfg : Config A)

/-- A slash of stake writes no reputation. -/
theorem slashStake_fall (s : State A) (i id δ : ℕ) :
    s.ReputationsFall (slashStake cfg s i id δ).1 := by
  unfold slashStake
  dsimp only
  split
  · exact .of_eq rfl rfl
  · exact .refl s

/-- A slash takes reputation of the node. -/
theorem slashNodeReputation_fall (s : State A) (i id δ f : ℕ) :
    s.ReputationsFall (slashNodeReputation s i id δ f).1 := by
  unfold slashNodeReputation
  split
  · exact .refl s
  · next rep hrep => exact State.decreaseAndReturnNodeReputation_fall hrep

/-- A slash takes reputation of the validator. -/
theorem slashValidatorReputation_fall (s : State A) (i id a m d e : ℕ) :
    s.ReputationsFall (slashValidatorReputation s i id a m d e).1 := by
  unfold slashValidatorReputation
  split
  · exact .refl s
  · exact State.decreaseValidatorReputation_fall ..

/-- A slash lets reputations fall, part by part. -/
theorem slashValidator_fall (s : State A) (i id a m d rep n e f : ℕ) :
    s.ReputationsFall (slashValidator cfg s i id a m d rep n e f).1 := by
  unfold slashValidator
  split
  · exact .refl s
  · have hslash := ((slashStake_fall cfg s i id (attestationDelta a m)).trans
      (slashNodeReputation_fall _ i id (attestationDelta a m) f)).trans
      (slashValidatorReputation_fall _ i id a m d e)
    dsimp only
    split
    · split
      · exact hslash.trans (State.removeActiveSubnetNode_fall ..)
      · exact hslash
    · exact hslash

/-- A node that is removed loses its reputation. -/
theorem handleConsensusRemoveActiveNode_fall (h : Metered A) (i id n : ℕ) :
    h.state.ReputationsFall (h.handleConsensusRemoveActiveNode cfg i id n).state := by
  unfold handleConsensusRemoveActiveNode
  dsimp only
  split
  · exact .refl _
  · split
    · exact State.removeActiveSubnetNode_fall ..
    · exact .refl _

/-- The reputation of an attestor falls. -/
theorem penaliseAttestor_fall (h : Metered A) (i f rep n id : ℕ) :
    h.state.ReputationsFall (penaliseAttestor cfg i f rep n h id).state := by
  unfold penaliseAttestor
  split
  · exact .refl _
  · next r hr =>
      have hnode : h.state.ReputationsFall
          (h.state.decreaseAndReturnNodeReputation i id r f none).1 :=
        State.decreaseAndReturnNodeReputation_fall hr
      dsimp only
      split
      · exact hnode.trans (handleConsensusRemoveActiveNode_fall cfg
          (Metered.consume ⟨_, h.meter⟩ (cfg.readsWrites 2 1)) i id n)
      · exact hnode

/-- So do those of all attestors, by induction. -/
theorem penaliseLoop_fall (h : Metered A) (i f rep n : ℕ) (ids : List ℕ) :
    h.state.ReputationsFall (ids.foldl (penaliseAttestor cfg i f rep n) h).state := by
  induction ids generalizing h with
  | nil => exact .refl _
  | cons id ids ih => exact (penaliseAttestor_fall cfg h i f rep n id).trans (ih _)

/-- Out of consensus no reputation grows. -/
theorem handleNonConsensus_fall (h : Metered A) (i : ℕ) (c : ConsensusSubmissionData)
    (m d rep n e v : ℕ) :
    h.state.ReputationsFall (h.handleNonConsensus cfg i c m d rep n e v).state := by
  unfold handleNonConsensus
  dsimp only
  refine State.ReputationsFall.trans ?_ (penaliseLoop_fall ..)
  exact (slashValidator_fall ..).trans (State.decreaseSubnetReputation_fall ..)

/-! ### The subnet and the proposer -/

/-- The reputations of the subnets and the parameters. -/
def subnetScores (s : State A) : StorageMap ℕ ℕ × Params := (s.emission.subnetReputation, s.params)

/-- The removal of a node is no matter of the subnets. -/
theorem removeActiveSubnetNode_scores (s : State A) (i id : ℕ) :
    subnetScores (s.removeActiveSubnetNode i id) = subnetScores s := by
  unfold State.removeActiveSubnetNode
  split
  · rfl
  · dsimp only
    split
    · unfold State.removeNodeFromElectionSlot
      dsimp only
      split <;> rfl
    · rfl

/-- The reputation of a node is not that of a subnet. -/
theorem setNodeReputation_scores (s : State A) (i id k n : ℕ) :
    subnetScores (s.setNodeReputation i id k n).1 = subnetScores s := by
  unfold State.setNodeReputation
  split <;> rfl

/-- A slash leaves the subnets. -/
theorem slashValidator_scores (s : State A) (i id a m d rep n e f : ℕ) :
    subnetScores (slashValidator cfg s i id a m d rep n e f).1 = subnetScores s := by
  have hstake : ∀ δ, subnetScores (slashStake cfg s i id δ).1 = subnetScores s := by
    intro δ
    unfold slashStake
    dsimp only
    split <;> rfl
  have hnode : ∀ (s : State A) (δ : ℕ),
      subnetScores (slashNodeReputation s i id δ f).1 = subnetScores s := by
    intro s δ
    unfold slashNodeReputation
    split
    · rfl
    · exact setNodeReputation_scores ..
  have hvalidator : ∀ s : State A,
      subnetScores (slashValidatorReputation s i id a m d e).1 = subnetScores s := by
    intro s
    unfold slashValidatorReputation State.decreaseValidatorReputation
    split
    · rfl
    · split
      · rfl
      · dsimp only
        split <;> rfl
  unfold slashValidator
  split
  · rfl
  · dsimp only
    split
    · split
      · rw [removeActiveSubnetNode_scores, hvalidator, hnode, hstake]
      · rw [hvalidator, hnode, hstake]
    · rw [hvalidator, hnode, hstake]

/-- The penalty of an attestor leaves the subnets. -/
theorem penaliseAttestor_scores (h : Metered A) (i f rep n id : ℕ) :
    subnetScores (penaliseAttestor cfg i f rep n h id).state = subnetScores h.state := by
  unfold penaliseAttestor
  split
  · rfl
  · dsimp only
    split
    · unfold handleConsensusRemoveActiveNode
      dsimp only
      split
      · exact setNodeReputation_scores ..
      · split
        · exact (removeActiveSubnetNode_scores ..).trans (setNodeReputation_scores ..)
        · exact setNodeReputation_scores ..
    · exact setNodeReputation_scores ..

/-- So do all penalties, by induction. -/
theorem penaliseLoop_scores (h : Metered A) (i f rep n : ℕ) (ids : List ℕ) :
    subnetScores (ids.foldl (penaliseAttestor cfg i f rep n) h).state = subnetScores h.state := by
  induction ids generalizing h with
  | nil => rfl
  | cons id ids ih => exact (ih _).trans (penaliseAttestor_scores cfg h i f rep n id)

/-- The reputation of a subnet whose proposal found no consensus. -/
theorem handleNonConsensus_subnetReputation (h : Metered A) (i : ℕ) (c : ConsensusSubmissionData)
    (m d rep n e v : ℕ) :
    (h.handleNonConsensus cfg i c m d rep n e v).state.subnetReputation i =
      State.decreaseRep (h.state.subnetReputation i)
        h.state.params.notInConsensusSubnetReputationFactor
        (some (attestationDelta c.attestationRatio m)) := by
  unfold handleNonConsensus
  dsimp only
  have hslash := slashValidator_scores cfg h.state i c.validatorSubnetNodeId
    c.attestationRatio m d rep n e
    (getReputationFactorsForEpoch h.state i v).validatorNonConsensusDecrease
  have hparams := congrArg Prod.snd hslash
  have hscores := congrArg Prod.fst hslash
  dsimp only [subnetScores] at hparams hscores
  have hread : ∀ s s' : State A, subnetScores s = subnetScores s' →
      s.subnetReputation i = s'.subnetReputation i := by
    intro s s' heq
    unfold State.subnetReputation
    rw [show s.emission.subnetReputation = s'.emission.subnetReputation from
      congrArg Prod.fst heq]
  rw [hread _ _ (penaliseLoop_scores ..)]
  unfold State.decreaseSubnetReputation State.setSubnetReputation State.subnetReputation
    StorageMap.getD
  dsimp only [consume_state, map_state]
  rw [StorageMap.find?_set_self, hparams, hscores]
  rfl

/-- The stake of its proposer, while the ratio is below the minimum. -/
theorem handleNonConsensus_proposerStake (h : Metered A) (i : ℕ) (c : ConsensusSubmissionData)
    {m : ℕ} (d rep n e v : ℕ) (hlow : c.attestationRatio < m) :
    (h.handleNonConsensus cfg i c m d rep n e v).state.stake.nodeSubnetStake.val
        (c.validatorSubnetNodeId, i) =
      h.state.stake.nodeSubnetStake.val (c.validatorSubnetNodeId, i) -
        getSlashAmount h.state (h.state.stake.nodeSubnetStake.val (c.validatorSubnetNodeId, i))
          (attestationDelta c.attestationRatio m) := by
  -- what follows the slash of the stake takes reputation only
  have hfunds : ∀ f, (slashValidator cfg h.state i c.validatorSubnetNodeId c.attestationRatio m d
      rep n e f).1.funds = (slashStake cfg h.state i c.validatorSubnetNodeId
      (attestationDelta c.attestationRatio m)).1.funds := by
    intro f
    unfold slashValidator
    rw [if_neg (Nat.not_le.mpr hlow)]
    dsimp only
    split
    · split
      · simp only [State.removeActiveSubnetNode_funds, slashValidatorReputation_funds,
          slashNodeReputation_funds]
      · simp only [slashValidatorReputation_funds, slashNodeReputation_funds]
    · simp only [slashValidatorReputation_funds, slashNodeReputation_funds]
  have hstate : (h.handleNonConsensus cfg i c m d rep n e v).state.funds =
      (slashStake cfg h.state i c.validatorSubnetNodeId
        (attestationDelta c.attestationRatio m)).1.funds := by
    unfold handleNonConsensus
    dsimp only
    rw [penaliseLoop_funds, consume_state, map_state, State.decreaseSubnetReputation_funds]
    exact hfunds _
  have hstake := congrArg (fun f : Funds A => f.stake.nodeSubnetStake) hstate
  dsimp only [State.funds] at hstake
  rw [hstake]
  unfold slashStake
  dsimp only
  split
  · exact StorageMap.val_set_self ..
  · next hzero =>
      rw [Nat.eq_zero_of_not_pos hzero]
      rfl

end Metered

/-- Of two ratios below the minimum the lower one costs at least as much: in stake, in reputation
of the subnet and of the proposer, and in the factor of the attestors; so of two settlements that
differ in the ratio alone the one with the lower ratio leaves the subnet no more reputation and the
proposer no more stake. The slash is within the stake and its cap, no reputation grows or ends
above `1.0` when it falls, and from the minimum on `slash_validator` does nothing. -/
theorem nonConsensus_penalties (cfg : Config A) (h : Metered A) (i : ℕ)
    (c : ConsensusSubmissionData) (m d rep n e v : ℕ)
    (hbase : h.state.params.baseSlashPercentage ≤ percentageFactor) :
    (∀ a₁ a₂ stake prev f, a₁ ≤ a₂ → a₂ < m → stake ≤ u128Max → prev ≤ u128Max →
      f ≤ percentageFactor →
      getSlashAmount h.state stake (attestationDelta a₂ m) ≤
          getSlashAmount h.state stake (attestationDelta a₁ m) ∧
        prev - State.decreaseRep prev f (some (attestationDelta a₂ m)) ≤
          prev - State.decreaseRep prev f (some (attestationDelta a₁ m)) ∧
        getNonConsensusAttestorFactor f a₂ m ≤ getNonConsensusAttestorFactor f a₁ m) ∧
    (∀ a₁ a₂, a₁ ≤ a₂ → a₂ < m →
      h.state.params.notInConsensusSubnetReputationFactor ≤ percentageFactor →
      h.state.subnetReputation i ≤ u128Max →
      h.state.stake.nodeSubnetStake.val (c.validatorSubnetNodeId, i) ≤ u128Max →
      (h.handleNonConsensus cfg i { c with attestationRatio := a₁ } m d rep n e
          v).state.subnetReputation i ≤
        (h.handleNonConsensus cfg i { c with attestationRatio := a₂ } m d rep n e
          v).state.subnetReputation i ∧
      (h.handleNonConsensus cfg i { c with attestationRatio := a₁ } m d rep n e
          v).state.stake.nodeSubnetStake.val (c.validatorSubnetNodeId, i) ≤
        (h.handleNonConsensus cfg i { c with attestationRatio := a₂ } m d rep n e
          v).state.stake.nodeSubnetStake.val (c.validatorSubnetNodeId, i)) ∧
    (∀ a stake, getSlashAmount h.state stake (attestationDelta a m) ≤
      min stake h.state.params.maxSlashAmount) ∧
    (∀ prev f g, State.decreaseRep prev f g ≤ min prev percentageFactor) ∧
    h.state.ReputationsFall (h.handleNonConsensus cfg i c m d rep n e v).state ∧
    ∀ a id f, m ≤ a → slashValidator cfg h.state i id a m d rep n e f = (h.state, ⟨0, 0⟩) := by
  -- a lower attestation means a larger delta, and both penalties grow with it
  have hslash : ∀ a₁ a₂ stake, a₁ ≤ a₂ → stake ≤ u128Max →
      getSlashAmount h.state stake (attestationDelta a₂ m) ≤
        getSlashAmount h.state stake (attestationDelta a₁ m) :=
    fun a₁ a₂ stake ha hstake =>
      getSlashAmount_mono h.state (attestationDelta_anti ha) (attestationDelta_le a₁ m) hstake hbase
  have hrep : ∀ a₁ a₂ prev f, a₁ ≤ a₂ → prev ≤ u128Max → f ≤ percentageFactor →
      State.decreaseRep prev f (some (attestationDelta a₁ m)) ≤
        State.decreaseRep prev f (some (attestationDelta a₂ m)) :=
    fun a₁ a₂ prev f ha hprev hf =>
      State.decreaseRep_anti (attestationDelta_anti ha) (attestationDelta_le a₁ m) hf hprev
  refine ⟨?_, ?_, ?_, State.decreaseRep_le, handleNonConsensus_fall .., ?_⟩
  · intro a₁ a₂ stake prev f ha _ hstake hprev hf
    refine ⟨hslash a₁ a₂ stake ha hstake, ?_, getNonConsensusAttestorFactor_anti ha hf⟩
    exact Nat.sub_le_sub_left (hrep a₁ a₂ prev f ha hprev hf) prev
  · intro a₁ a₂ ha hlow hfactor hprev hstake
    constructor
    · rw [handleNonConsensus_subnetReputation, handleNonConsensus_subnetReputation]
      exact hrep a₁ a₂ _ _ ha hprev hfactor
    · have hlow₁ : a₁ < m := Nat.lt_of_le_of_lt ha hlow
      have hfirst := handleNonConsensus_proposerStake cfg h i
        { c with attestationRatio := a₁ } d rep n e v hlow₁
      have hsecond := handleNonConsensus_proposerStake cfg h i
        { c with attestationRatio := a₂ } d rep n e v hlow
      dsimp only at hfirst hsecond
      rw [hfirst, hsecond]
      exact Nat.sub_le_sub_left (hslash a₁ a₂ _ ha hstake) _
  · intro a stake
    exact getSlashAmount_le_min h.state (attestationDelta_le a m) hbase
  · intro a id f ha
    unfold slashValidator
    rw [if_pos ha]

/-- With no attestation the whole base slash is taken, with half of the minimum half of it. -/
theorem nonConsensus_penalties_half :
    getSlashAmount demoEpochState 10000000000000000000
        (attestationDelta 330000000000000000 660000000000000000) = 156250000000000000 ∧
      getSlashAmount demoEpochState 10000000000000000000
        (attestationDelta 330000000000000000 660000000000000000) ≤
      getSlashAmount demoEpochState 10000000000000000000
        (attestationDelta 0 660000000000000000) := by
  have h := nonConsensus_penalties (.runtime ℕ) ⟨demoEpochState, ⟨⟨0, 0⟩, ⟨0, 0⟩⟩⟩ 7 demoSubmission
    660000000000000000 0 0 0 0 0 (by decide)
  exact ⟨by decide, (h.1 0 330000000000000000 10000000000000000000 percentageFactor
    percentageFactor (by decide) (by decide) (by decide) (by decide) le_rfl).1⟩

end Hypertensor
