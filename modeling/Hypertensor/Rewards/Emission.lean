import Mathlib
import Hypertensor.Base.Apportion
import Hypertensor.Staking.Solvency
import Hypertensor.Rewards.Distribute

/-!
# Hypertensor.Rewards.Emission — an epoch credits no more than its reward

* `Credited ar n f f'`: from the funds `f` to `f'` at most `n` was credited, and
  exactly `n` when nothing saturates. Every part of `distribute_rewards` is
  described by it, and the descriptions compose.
* The handlers that remove, graduate or penalise nodes credit nothing.
* What the loop pays is bounded node by node; distinct nodes have distinct scores,
  so the bounds add up to at most the rewards of the nodes.
-/

namespace Hypertensor

open Base

variable {A : Type} [DecidableEq A]

/-! ## Credits -/

/-- All value that rewards can raise. -/
def Funds.holdings (f : Funds A) : ℕ :=
  f.freeBalance.sum + f.stake.nodeSubnetStake.sum + f.stake.delegateAccountStake.sum +
    f.subnetPools.poolBalance.sum + f.validatorPools.poolBalance.sum

/-- Nothing was credited between `f` and `f'`; node stake may have been slashed. -/
structure Funds.Slashed (f f' : Funds A) : Prop where
  freeBalance : f'.freeBalance = f.freeBalance
  subnetPools : f'.subnetPools = f.subnetPools
  validatorPools : f'.validatorPools = f.validatorPools
  delegateAccountStake : f'.stake.delegateAccountStake = f.stake.delegateAccountStake
  rates : f'.validatorsData = f.validatorsData
  capacitor : f'.rewardsCapacitor = f.rewardsCapacitor
  nodeSubnetStake : ∀ k, f'.stake.nodeSubnetStake.val k ≤ f.stake.nodeSubnetStake.val k

omit [DecidableEq A] in
/-- Where nothing is taken nothing is slashed. -/
theorem Funds.Slashed.refl (f : Funds A) : Funds.Slashed f f :=
  ⟨rfl, rfl, rfl, rfl, rfl, rfl, fun _ => le_rfl⟩

/-- At most `n` was credited between `f` and `f'`. -/
structure Credited (ar : Arith) (n : ℕ) (f f' : Funds A) : Prop where
  le : f'.holdings ≤ f.holdings + n
  exact : ar = .unbounded → f'.holdings = f.holdings + n
  rates : f'.validatorsData = f.validatorsData
  capacitor : f'.rewardsCapacitor = f.rewardsCapacitor

namespace Credited

variable {ar : Arith} {n m : ℕ} {f g k : Funds A}

theorem of_eq (h : g = f) : Credited ar 0 f g := by
  subst h
  exact ⟨le_rfl, fun _ => rfl, rfl, rfl⟩

/-- Two credits come to their sum. -/
theorem trans (h₁ : Credited ar n f g) (h₂ : Credited ar m g k) : Credited ar (n + m) f k := by
  refine ⟨?_, ?_, h₂.rates.trans h₁.rates, h₂.capacitor.trans h₁.capacitor⟩
  · have hle₁ := h₁.le
    have hle₂ := h₂.le
    omega
  · intro har
    have heq₁ := h₁.exact har
    have heq₂ := h₂.exact har
    omega

end Credited

/-- Adding to an entry raises the sum of a map by at most the amount. -/
theorem sum_set_add {K : Type} [DecidableEq K] (ar : Arith) (m : StorageMap K ℕ) (k : K) (n : ℕ) :
    (m.set k (ar.add (m.val k) n)).sum ≤ m.sum + n ∧
      (ar = .unbounded → (m.set k (ar.add (m.val k) n)).sum = m.sum + n) := by
  have hset := m.sum_set k (ar.add (m.val k) n)
  constructor
  · have hadd : ar.add (m.val k) n ≤ m.val k + n := by
      cases ar with
      | saturating max => exact Nat.min_le_left _ _
      | unbounded => exact le_rfl
    omega
  · rintro rfl
    rw [Arith.add_unbounded] at hset ⊢
    omega

namespace State

variable (ar : Arith) (s : State A)

/-- A payment to a node is stake, entered in its totals. -/
theorem increaseNodeStake_credited (i j n : ℕ) :
    Credited ar n s.funds (s.increaseNodeStake ar i j n).funds := by
  have hsum := sum_set_add ar s.stake.nodeSubnetStake (i, j) n
  refine ⟨?_, ?_, rfl, rfl⟩
  · have hle := hsum.1
    simp only [Funds.holdings, funds, increaseNodeStake]
    omega
  · intro har
    have heq := hsum.2 har
    simp only [Funds.holdings, funds, increaseNodeStake]
    omega

/-- A payment to a delegate account is entered in its total. -/
theorem increaseDelegateAccountBalance_credited (a : A) (n : ℕ) :
    Credited ar n s.funds (s.increaseDelegateAccountBalance ar a n).funds := by
  have hsum := sum_set_add ar s.stake.delegateAccountStake a n
  refine ⟨?_, ?_, rfl, rfl⟩
  · have hle := hsum.1
    simp only [Funds.holdings, funds, increaseDelegateAccountBalance]
    omega
  · intro har
    have heq := hsum.2 har
    simp only [Funds.holdings, funds, increaseDelegateAccountBalance]
    omega

/-- A payment to a balance is free at once. -/
theorem addBalance_credited (a : A) (n : ℕ) :
    Credited ar n s.funds (s.addBalance a n).funds := by
  have heq := s.freeBalance.sum_set a (s.freeBalance.val a + n)
  refine ⟨?_, ?_, rfl, rfl⟩
  · simp only [Funds.holdings, funds, addBalance]
    omega
  · intro _
    simp only [Funds.holdings, funds, addBalance]
    omega

/-- A payment to a pool raises its balance. -/
theorem doIncreaseStake_credited (k : PoolKind) (i n : ℕ) :
    Credited ar n s.funds (s.doIncreaseStake ar k i n).funds := by
  have hsum := sum_set_add ar (s.pools k).poolBalance i n
  rw [← Pools.doIncrease_poolBalance] at hsum
  have hle := hsum.1
  have heq := hsum.2
  cases k with
  | subnet =>
      refine ⟨?_, ?_, rfl, rfl⟩
      · simp only [Funds.holdings, funds, doIncreaseStake, setPools, pools] at hle ⊢
        omega
      · intro har
        have heq := heq har
        simp only [Funds.holdings, funds, doIncreaseStake, setPools, pools] at heq ⊢
        omega
  | validator =>
      refine ⟨?_, ?_, rfl, rfl⟩
      · simp only [Funds.holdings, funds, doIncreaseStake, setPools, pools] at hle ⊢
        omega
      · intro har
        have heq := heq har
        simp only [Funds.holdings, funds, doIncreaseStake, setPools, pools] at heq ⊢
        omega

/-- The pool of the validator is paid its share, or nobody if it has no shares. -/
theorem payDelegateStake_credited (validatorId x : ℕ) (v : ValidatorData A) :
    Credited ar (s.payDelegateStake ar validatorId v x).2.2 s.funds
      (s.payDelegateStake ar validatorId v x).1.funds := by
  rw [payDelegateStake_eq]
  split
  · exact doIncreaseStake_credited ar s .validator validatorId _
  · exact Credited.of_eq rfl

/-- A payout credits what it says. -/
theorem payNode_credited (i j validatorId x : ℕ) :
    Credited ar (s.payNode ar i j validatorId x).2.total s.funds
      (s.payNode ar i j validatorId x).1.funds := by
  unfold payNode
  split
  · have h := increaseNodeStake_credited ar s j i x
    simpa [Payout.total] using h
  · next v _ =>
      have hpool := payDelegateStake_credited ar s validatorId x v
      dsimp only
      split
      · have h := hpool.trans (increaseNodeStake_credited ar _ j i
          (s.payDelegateStake ar validatorId v x).2.1)
        simpa [Payout.total] using h
      · next d _ =>
          let t := (s.payDelegateStake ar validatorId v x).1
          let y := (s.payDelegateStake ar validatorId v x).2.1
          have haccount := increaseDelegateAccountBalance_credited ar t d.accountId
            (percentMul y d.rate)
          have h := (hpool.trans haccount).trans (increaseNodeStake_credited ar _ j i
            (y - percentMul y d.rate))
          simpa [Payout.total, handleDelegateAccount] using h

end State

/-! ## The handlers credit nothing -/

namespace Metered

variable (cfg : Config A) (h : Metered A)

omit [DecidableEq A] in
@[simp] theorem consume_state (w : Weight) : (h.consume w).state = h.state := rfl

omit [DecidableEq A] in
@[simp] theorem map_state (f : State A → State A) : (h.map f).state = f h.state := rfl

omit [DecidableEq A] in
/-- The removal of a node pays nobody. -/
@[simp] theorem handleConsensusRemoveActiveNode_funds (i j e : ℕ) :
    (h.handleConsensusRemoveActiveNode cfg i j e).state.funds = h.state.funds := by
  unfold handleConsensusRemoveActiveNode
  dsimp only
  split
  · rfl
  · split
    · exact State.removeActiveSubnetNode_funds h.state i j
    · rfl

omit [DecidableEq A] in
/-- Nor does the graduation of one. -/
@[simp] theorem handleIdleNode_funds (i j n e : ℕ) :
    (h.handleIdleNode cfg i j n e).state.funds = h.state.funds := by
  unfold handleIdleNode
  dsimp only
  split
  · split
    · rfl
    · next s hs =>
        have hfunds := State.graduateClass_funds hs
        exact hfunds
  · rfl

omit [DecidableEq A] in
/-- Nor does the promotion of one. -/
@[simp] theorem handleIncludedNode_funds (i j r n e : ℕ) :
    (h.handleIncludedNode cfg i j r n e).state.funds = h.state.funds := by
  unfold handleIncludedNode
  dsimp only
  split
  · split
    · rfl
    · next s hs =>
        have hfunds := State.graduateToValidatorClass_funds hs
        exact hfunds
  · rfl

omit [DecidableEq A] in
/-- The emergency set is read before anybody is paid. -/
@[simp] theorem maybeGetForkedSubnetNodeIds_funds (i : ℕ) :
    (h.maybeGetForkedSubnetNodeIds cfg i).1.state.funds = h.state.funds := by
  unfold maybeGetForkedSubnetNodeIds
  dsimp only
  split <;> rfl

omit [DecidableEq A] in
/-- The order of the queue is not paid for. -/
theorem prioritizeQueueNode_funds (i : ℕ) (p : Option ℕ) (queue : List SubnetNode) :
    (h.prioritizeQueueNode cfg i p queue).1.state.funds = h.state.funds := by
  unfold prioritizeQueueNode
  split
  · rfl
  · dsimp only
    split <;> rfl

omit [DecidableEq A] in
/-- A node that leaves the queue keeps its stake. -/
theorem removeQueueNode_funds (i : ℕ) (p : Option ℕ) (queue : List SubnetNode) :
    (h.removeQueueNode cfg i p queue).state.funds = h.state.funds := by
  unfold removeQueueNode
  split
  · rfl
  · split
    · rfl
    · dsimp only
      split
      · exact State.removeRegisteredSubnetNode_funds h.state i _
      · rfl

omit [DecidableEq A] in
/-- What consensus says about the queue pays nobody. -/
@[simp] theorem handleNodeQueueConsensus_funds (i : ℕ) (c : ConsensusSubmissionData) (t : ℕ) :
    (h.handleNodeQueueConsensus cfg i c t).state.funds = h.state.funds := by
  unfold handleNodeQueueConsensus
  split
  · exact (removeQueueNode_funds cfg _ i _ _).trans (prioritizeQueueNode_funds cfg h i _ _)
  · rfl

omit [DecidableEq A] in
/-- The reputation of a subnet is no money. -/
@[simp] theorem rewardSubnetReputation_funds (i : ℕ) (c : ConsensusSubmissionData) (rep : ℕ) :
    (h.rewardSubnetReputation cfg i c rep).state.funds = h.state.funds := by
  unfold rewardSubnetReputation
  split <;> rfl

omit [DecidableEq A] in
/-- An attestor of what failed loses reputation, and no stake. -/
theorem penaliseAttestor_funds (i f m e j : ℕ) :
    (penaliseAttestor cfg i f m e h j).state.funds = h.state.funds := by
  unfold penaliseAttestor
  split
  · rfl
  · dsimp only
    split
    · rw [handleConsensusRemoveActiveNode_funds, consume_state]
      exact State.decreaseAndReturnNodeReputation_funds h.state i j _ f none
    · exact State.decreaseAndReturnNodeReputation_funds h.state i j _ f none

omit [DecidableEq A] in
/-- So does every one of them, by induction. -/
theorem penaliseLoop_funds (i f m e : ℕ) (js : List ℕ) :
    (js.foldl (penaliseAttestor cfg i f m e) h).state.funds = h.state.funds := by
  induction js generalizing h with
  | nil => rfl
  | cons j js ih => exact (ih _).trans (penaliseAttestor_funds cfg h i f m e j)

omit [DecidableEq A] in
/-- A slash takes reputation of the node apart from its stake. -/
@[simp] theorem slashNodeReputation_funds (s : State A) (i j d f : ℕ) :
    (slashNodeReputation s i j d f).1.funds = s.funds := by
  unfold slashNodeReputation
  split
  · rfl
  · exact State.decreaseAndReturnNodeReputation_funds s i j _ f _

omit [DecidableEq A] in
/-- A slash takes reputation of the validator, too. -/
@[simp] theorem slashValidatorReputation_funds (s : State A) (i j a m d e : ℕ) :
    (slashValidatorReputation s i j a m d e).1.funds = s.funds := by
  unfold slashValidatorReputation
  split
  · rfl
  · exact State.decreaseValidatorReputation_funds s _ a m d e

omit [DecidableEq A] in
/-- The stake that a slash takes is gone from the node and from the totals. -/
theorem slashStake_slashed (s : State A) (i j d : ℕ) :
    Funds.Slashed s.funds (slashStake cfg s i j d).1.funds := by
  unfold slashStake
  dsimp only
  split
  · refine ⟨rfl, rfl, rfl, rfl, rfl, rfl, ?_⟩
    intro k
    simp only [State.funds, State.decreaseNodeStake, StorageMap.val_set]
    split
    · next hk =>
        rw [hk]
        exact Nat.sub_le _ _
    · exact le_rfl
  · exact Funds.Slashed.refl s.funds

omit [DecidableEq A] in
/-- Beyond the slash itself, `slash_validator` moves no value. -/
theorem slashValidator_slashed (s : State A) (i j a m d r n e f : ℕ) :
    Funds.Slashed s.funds (slashValidator cfg s i j a m d r n e f).1.funds := by
  have hstake := slashStake_slashed cfg s i j (attestationDelta a m)
  unfold slashValidator
  split
  · exact Funds.Slashed.refl s.funds
  · dsimp only
    split
    · split
      · simpa using hstake
      · simpa using hstake
    · simpa using hstake

omit [DecidableEq A] in
/-- Out of consensus the proposer's stake may fall, and nothing else moves. -/
theorem handleNonConsensus_slashed (i : ℕ) (c : ConsensusSubmissionData) (m d r n e v : ℕ) :
    Funds.Slashed h.state.funds (h.handleNonConsensus cfg i c m d r n e v).state.funds := by
  unfold handleNonConsensus
  dsimp only
  rw [penaliseLoop_funds, consume_state, map_state, State.decreaseSubnetReputation_funds]
  exact slashValidator_slashed cfg h.state i _ _ m d r n e _

end Metered

/-! ## The loop -/

/-- The reward factors of the attestations are percentages. -/
def ConsensusSubmissionData.FactorsOk (c : ConsensusSubmissionData) : Prop :=
  ∀ id a, c.attests.find? id = some a → a.rewardFactor ≤ percentageFactor

namespace RewardRound

variable (cfg : Config A) (ar : Arith) (r : RewardRound) (h : Metered A) (node : SubnetNode)

omit [DecidableEq A] in
/-- The penalty of a node is no money. -/
@[simp] theorem decreaseReputation_funds (rep f : ℕ) :
    (r.decreaseReputation cfg h node rep f).1.state.funds = h.state.funds :=
  State.decreaseAndReturnNodeReputation_funds h.state r.subnetId node.id rep f none

omit [DecidableEq A] in
/-- A node that is not on the list is not paid. -/
theorem absentNode_funds (rep : ℕ) (ex : Bool) :
    (r.absentNode cfg h node rep ex).state.funds = h.state.funds := by
  unfold absentNode
  split
  · dsimp only
    split
    · exact decreaseReputation_funds cfg r h node rep _
    · exact decreaseReputation_funds cfg r h node rep _
  · rfl

omit [DecidableEq A] in
/-- A node that did not attest pays a penalty in reputation. -/
theorem nonAttestor_funds (rep : ℕ) (ex : Bool) :
    (r.nonAttestor cfg h node rep ex).1.state.funds = h.state.funds := by
  unfold nonAttestor
  split
  · exact decreaseReputation_funds cfg r h node rep _
  · rfl

omit [DecidableEq A] in
/-- Working out the factor of a reward pays nobody. -/
theorem rewardFactor_funds (rep : ℕ) (ex : Bool) :
    (r.rewardFactor cfg h node rep ex).1.state.funds = h.state.funds := by
  have hatt := nonAttestor_funds cfg r h node rep ex
  unfold rewardFactor
  dsimp only
  split
  · split
    · split
      · rfl
      · exact hatt
    · rfl
  · split
    · rfl
    · exact hatt

omit [DecidableEq A] in
/-- A reward factor is a percentage when those of the attestations are. -/
theorem rewardFactor_le (hfactors : r.submission.FactorsOk) (rep : ℕ) (ex : Bool) :
    (r.rewardFactor cfg h node rep ex).2.2 ≤ percentageFactor := by
  unfold rewardFactor
  dsimp only
  split
  · split
    · split
      · next a ha => exact hfactors _ a ha
      · exact le_rfl
    · exact le_rfl
  · split
    · next a ha => exact hfactors _ a ha
    · exact le_rfl

/-- What a payout of the round amounts to. -/
def paid (o : Option (Payout A)) : ℕ := o.elim 0 Payout.total

/-- A step of the round credits what it pays, and pays at most `bound`. -/
structure Pays (bound : ℕ) (f : Funds A) (q : Metered A × Option (Payout A)) : Prop where
  credited : Credited ar (paid q.2) f q.1.state.funds
  le_bound : (∀ id v, f.validatorsData.find? id = some v → v.RatesOk) →
    r.submission.FactorsOk → paid q.2 ≤ bound

/-- A step after which the funds are the same pays nothing. -/
theorem pays_nothing {ar : Arith} {r : RewardRound} {bound : ℕ} {f : Funds A} {h : Metered A}
    (hf : h.state.funds = f) : Pays ar r bound f (h, none) :=
  ⟨Credited.of_eq hf, fun _ _ => Nat.zero_le bound⟩

/-- A node gets at most its share, since the factor is at most the whole. -/
theorem payScored_pays {score factor : ℕ}
    (hfactor : r.submission.FactorsOk → factor ≤ percentageFactor) :
    Pays ar r (r.nodeShare score) h.state.funds (r.payScored cfg ar h node score factor) := by
  unfold payScored
  dsimp only
  split
  · exact pays_nothing rfl
  · refine ⟨State.payNode_credited ar h.state r.subnetId node.id node.validatorId _, ?_⟩
    intro hrates hfactors
    have htotal := State.payNode_total ar h.state node.validatorId
      (percentMul (r.nodeShare score) factor) r.subnetId node.id hrates
    simp only [paid, Option.elim_some, htotal]
    exact percentMul_le_left (hfactor hfactors)

/-- Steps before a step that change no funds. -/
theorem Pays.of_funds {ar : Arith} {r : RewardRound} {bound : ℕ} {f g : Funds A}
    {q : Metered A × Option (Payout A)} (h : Pays ar r bound f q) (hf : f = g) :
    Pays ar r bound g q := hf ▸ h

/-- A node that has a score is paid by it. -/
theorem scoredNode_pays (rep : ℕ) (ex : Bool) (score : ℕ) :
    Pays ar r (r.nodeShare score) h.state.funds (r.scoredNode cfg ar h node rep ex score) := by
  unfold scoredNode
  dsimp only
  -- the reputation after the weight threshold, in either case
  have hq : ∀ q : Metered A × ℕ, q.1.state.funds = h.state.funds →
      Pays ar r (r.nodeShare score) h.state.funds
        (if ex = true ∧ (r.rewardFactor cfg q.1 node q.2 ex).2.1 < r.minValidatorReputation then
          ((r.rewardFactor cfg q.1 node q.2 ex).1.handleConsensusRemoveActiveNode cfg r.subnetId
            node.id r.electableNodesCount, none)
        else r.payScored cfg ar (r.rewardFactor cfg q.1 node q.2 ex).1 node score
          (r.rewardFactor cfg q.1 node q.2 ex).2.2) := by
    intro q hq
    have hf := (rewardFactor_funds cfg r q.1 node q.2 ex).trans hq
    split
    · exact pays_nothing ((Metered.handleConsensusRemoveActiveNode_funds cfg _ _ _ _).trans hf)
    · exact (payScored_pays cfg ar r _ node fun hfactors =>
        rewardFactor_le cfg r q.1 node hfactors q.2 ex).of_funds hf
  apply hq
  split
  · exact decreaseReputation_funds cfg r h node rep _
  · rfl

/-- A node on the list is paid by its score, if it is a validator. -/
theorem presentNode_pays (rep : ℕ) (ex : Bool) (score : ℕ) :
    Pays ar r (r.nodeShare score) h.state.funds (r.presentNode cfg ar h node rep ex score) := by
  unfold presentNode
  dsimp only
  have hq : ∀ q : Metered A × ℕ, q.1.state.funds = h.state.funds →
      Pays ar r (r.nodeShare score) h.state.funds
        (if ex = true ∧ node.classification.nodeClass = .included ∧ r.forkedSubnetNodeIds = none
          then (q.1.handleIncludedNode cfg r.subnetId node.id q.2 r.includedEpochs
            r.currentSubnetEpoch, none)
          else r.scoredNode cfg ar q.1 node q.2 ex score) := by
    intro q hq
    split
    · exact pays_nothing ((Metered.handleIncludedNode_funds cfg _ _ _ _ _ _).trans hq)
    · exact (scoredNode_pays cfg ar r q.1 node q.2 ex score).of_funds hq
  apply hq
  split
  · exact State.increaseAndReturnNodeReputation_funds cfg h.state r.subnetId node.id rep _ none
  · rfl

/-- What a node can be paid at most: its share by score, if it has a score. -/
def nodeBound (id : ℕ) : ℕ :=
  (r.submission.data.find? fun d => d.subnetNodeId = id).elim 0 fun d => r.nodeShare d.score

/-- Whatever becomes of a node, it gets at most its share. -/
theorem nodeStep_pays : Pays ar r (r.nodeBound node.id) h.state.funds (r.nodeStep cfg ar h node) := by
  unfold nodeStep
  dsimp only
  split
  · exact pays_nothing (Metered.handleConsensusRemoveActiveNode_funds cfg _ _ _ _)
  · split
    · exact pays_nothing (Metered.handleIdleNode_funds cfg _ _ _ _ _)
    · split
      · exact pays_nothing (absentNode_funds cfg r _ node _ _)
      · next d hd =>
          have hbound : r.nodeBound node.id = r.nodeShare d.score := by
            simp only [nodeBound, hd, Option.elim_some]
          rw [hbound]
          exact presentNode_pays cfg ar r (h.consume (cfg.reads 1)) node
            ((h.state.nodes.subnetNodeReputation.find? (r.subnetId, node.id)).getD 0)
            (h.state.nodes.subnetNodeReputation.find? (r.subnetId, node.id)).isSome d.score

/-- The loop credits what it pays. -/
theorem nodeLoop_credited (nodes : List SubnetNode) :
    Credited ar ((r.nodeLoop cfg ar h nodes).2.map fun p => p.2.total).sum h.state.funds
      (r.nodeLoop cfg ar h nodes).1.state.funds := by
  induction nodes generalizing h with
  | nil => exact Credited.of_eq rfl
  | cons node nodes ih =>
      have hstep := (nodeStep_pays cfg ar r h node).credited
      have hall := hstep.trans (ih (r.nodeStep cfg ar h node).1)
      unfold nodeLoop
      cases hout : (r.nodeStep cfg ar h node).2 with
      | none => simpa [hout, paid] using hall
      | some p => simpa [hout, paid] using hall

/-- The loop pays every node at most its bound. -/
theorem nodeLoop_le (hfactors : r.submission.FactorsOk) (nodes : List SubnetNode)
    (hrates : h.state.validators.RatesOk) :
    ((r.nodeLoop cfg ar h nodes).2.map fun p => p.2.total).sum ≤
      (nodes.map fun node => r.nodeBound node.id).sum := by
  induction nodes generalizing h with
  | nil => exact le_rfl
  | cons node nodes ih =>
      have hstep := nodeStep_pays cfg ar r h node
      have hle := hstep.le_bound hrates hfactors
      have hdata : (r.nodeStep cfg ar h node).1.state.validators.validatorsData =
          h.state.validators.validatorsData := hstep.credited.rates
      have hrest := ih (r.nodeStep cfg ar h node).1 (Validators.all_congr hrates hdata)
      unfold nodeLoop
      simp only [List.map_cons, List.sum_cons, List.map_append, List.sum_append]
      cases hout : (r.nodeStep cfg ar h node).2 with
      | none =>
          simp only [Option.map_none, Option.toList_none, List.map_nil, List.sum_nil]
          omega
      | some p =>
          rw [hout] at hle
          simp only [paid, Option.elim_some] at hle
          simp only [Option.map_some, Option.toList_some, List.map_cons, List.map_nil,
            List.sum_cons, List.sum_nil]
          omega

/-- Two roundings down: a share times the weight sum is at most the score times
the rewards. -/
theorem nodeShare_mul_le (score : ℕ) :
    r.nodeShare score * r.submission.weightSum ≤ score * r.subnetNodeRewards := by
  have hdiv := percentDiv_le_div score r.submission.weightSum
  have hmul := percentMul_le_div (percentDiv score r.submission.weightSum) r.subnetNodeRewards
  have hP : 0 < percentageFactor := by decide
  have hweight : percentDiv score r.submission.weightSum * r.submission.weightSum ≤
      score * percentageFactor :=
    (Nat.mul_le_mul_right _ hdiv).trans (Nat.div_mul_le_self _ _)
  have hshare : r.nodeShare score * percentageFactor ≤
      percentDiv score r.submission.weightSum * r.subnetNodeRewards :=
    (Nat.mul_le_mul_right _ hmul).trans (Nat.div_mul_le_self _ _)
  refine Nat.le_of_mul_le_mul_right (c := percentageFactor) ?_ hP
  calc r.nodeShare score * r.submission.weightSum * percentageFactor
      = r.nodeShare score * percentageFactor * r.submission.weightSum := by ring
    _ ≤ percentDiv score r.submission.weightSum * r.subnetNodeRewards * r.submission.weightSum :=
        Nat.mul_le_mul_right _ hshare
    _ = percentDiv score r.submission.weightSum * r.submission.weightSum * r.subnetNodeRewards := by
        ring
    _ ≤ score * percentageFactor * r.subnetNodeRewards := Nat.mul_le_mul_right _ hweight
    _ = score * r.subnetNodeRewards * percentageFactor := by ring

/-- The bounds of distinct nodes add up to at most the rewards of the nodes. -/
theorem sum_nodeBound_le {nodes : List SubnetNode} (hids : (nodes.map SubnetNode.id).Nodup)
    (hsum : r.submission.weightSum = (r.submission.data.map fun d => d.score).sum)
    (hpos : 0 < r.submission.weightSum) :
    (nodes.map fun node => r.nodeBound node.id).sum ≤ r.subnetNodeRewards := by
  have hfind := sum_find_le hids SubnetNodeConsensusData.subnetNodeId
    (fun d => r.nodeShare d.score) r.submission.data
  rw [List.map_map] at hfind
  refine hfind.trans ?_
  exact sum_shares_le hpos hsum.ge fun d _ => r.nodeShare_mul_le d.score

end RewardRound

/-! ## The whole epoch -/

namespace Metered

variable (cfg : Config A) (ar : Arith) (h : Metered A)

/-- The proposer gets its extra reward. -/
theorem rewardProposer_credited (i : ℕ) (c : ConsensusSubmissionData) (m f e : ℕ) :
    Credited ar (h.rewardProposer cfg ar i c m f e).2 h.state.funds
      (h.rewardProposer cfg ar i c m f e).1.state.funds := by
  unfold rewardProposer
  split
  · next v _ =>
      have hrep := State.increaseValidatorReputation_funds cfg h.state v c.attestationRatio m f e
      have hstake := State.increaseNodeStake_credited ar
        (h.state.increaseValidatorReputation cfg v c.attestationRatio m f e)
        c.validatorSubnetNodeId i (getValidatorReward h.state c.attestationRatio
          c.validatorRewardFactor)
      rw [hrep] at hstake
      exact hstake
  · exact Credited.of_eq rfl

/-- The owner gets at most what is due. -/
theorem payOwner_credited (r : RewardRound) (rewards : RewardsData) :
    Credited ar (h.payOwner cfg r rewards).2 (h.setCapacitor r.subnetId 0).state.funds
        (h.payOwner cfg r rewards).1.state.funds ∧
      (h.payOwner cfg r rewards).2 ≤ rewards.subnetOwnerReward := by
  unfold payOwner handleSubnetOwnerReward
  dsimp only
  split
  · exact ⟨Credited.of_eq rfl, Nat.zero_le _⟩
  · next owner _ =>
      exact ⟨State.addBalance_credited ar (h.setCapacitor r.subnetId 0).state owner _, le_rfl⟩

/-- The pool of the subnet gets its part. -/
theorem rewardSubnetPool_credited (i amount : ℕ) :
    Credited ar amount h.state.funds (h.rewardSubnetPool cfg ar i amount).state.funds := by
  unfold rewardSubnetPool
  split
  · exact State.doIncreaseStake_credited ar h.state .subnet i amount
  · next h0 =>
      have hzero : amount = 0 := not_not.mp h0
      rw [hzero]
      exact Credited.of_eq rfl

variable (r : RewardRound) (rewards : RewardsData)

/-- Paying out credits what it says. -/
theorem payOut_credited (v : ℕ) :
    Credited ar (h.payOut cfg ar r rewards v).2.emitted
      (h.setCapacitor r.subnetId 0).state.funds (h.payOut cfg ar r rewards v).1.state.funds := by
  have howner := (payOwner_credited cfg ar h r rewards).1
  have hloop := r.nodeLoop_credited cfg ar (h.payOwner cfg r rewards).1
    r.submission.subnetNodes
  exact (howner.trans hloop).trans (rewardSubnetPool_credited cfg ar _ r.subnetId _)

/-- Paying out credits at most what the owner, the nodes and the pool are due. -/
theorem payOut_emitted_le (v : ℕ) (hfactors : r.submission.FactorsOk) (hrates : h.state.validators.RatesOk)
    (hids : (r.submission.subnetNodes.map SubnetNode.id).Nodup)
    (hsum : r.submission.weightSum = (r.submission.data.map fun d => d.score).sum)
    (hpos : 0 < r.submission.weightSum) :
    (h.payOut cfg ar r rewards v).2.emitted ≤
      rewards.subnetOwnerReward + r.subnetNodeRewards + rewards.delegateStakeRewards := by
  have howner := payOwner_credited cfg ar h r rewards
  have hdata : (h.payOwner cfg r rewards).1.state.validators.validatorsData =
      h.state.validators.validatorsData := howner.1.rates
  have hloop := (r.nodeLoop_le cfg ar _ hfactors r.submission.subnetNodes
    (Validators.all_congr hrates hdata)).trans (r.sum_nodeBound_le hids hsum hpos)
  have hle := howner.2
  simp only [payOut, Distribution.emitted]
  omega

end Metered

omit [DecidableEq A] in
/-- The owner's, the delegators' and the nodes' rewards make up the whole. -/
theorem State.calculateRewards_sum (ar : Arith) (s : State A) (subnetId E w : ℕ)
    (howner : s.params.subnetOwnerPercentage ≤ percentageFactor)
    (hdelegate : s.delegateStakeRewardsPercentage subnetId ≤ percentageFactor) :
    (s.calculateRewards ar subnetId E w).subnetOwnerReward +
        (s.calculateRewards ar subnetId E w).subnetNodeRewards +
        (s.calculateRewards ar subnetId E w).delegateStakeRewards =
      (s.calculateRewards ar subnetId E w).overallSubnetReward := by
  have h₁ := percentMul_le_left (x := (s.calculateRewards ar subnetId E w).overallSubnetReward) howner
  have h₂ := percentMul_le_left (x := (s.calculateRewards ar subnetId E w).subnetRewards) hdelegate
  simp only [calculateRewards] at h₁ h₂ ⊢
  omega

namespace Metered

omit [DecidableEq A] in
/-- The opening of a settlement pays nobody. -/
theorem openEpoch_funds (cfg : Config A) (h : Metered A) (i : ℕ) :
    (h.openEpoch cfg i).1.state.funds = h.state.funds :=
  maybeGetForkedSubnetNodeIds_funds cfg (h.consume (cfg.reads 2)) i

omit [DecidableEq A] in
/-- What is agreed on before the payout pays nobody. -/
theorem agree_funds (cfg : Config A) (h : Metered A) (i : ℕ) (c : ConsensusSubmissionData)
    (t r : ℕ) : (h.agree cfg i c t r).state.funds = h.state.funds := by
  unfold agree
  rw [rewardSubnetReputation_funds, consume_state, handleNodeQueueConsensus_funds, consume_state]

/-- `distribute_rewards` penalises, holds back or pays out. In the last two cases
the proposer was rewarded before. -/
theorem distributeRewards_cases (cfg : Config A) (ar : Arith) (h : Metered A)
    (subnetId currentEpoch currentSubnetEpoch : ℕ) (c : ConsensusSubmissionData)
    (rewards : RewardsData) (m inc dec sm : ℕ) {q : Metered A × Distribution A}
    (hq : h.distributeRewards cfg ar subnetId currentEpoch currentSubnetEpoch c rewards m inc
      dec sm = q) :
    (c.attestationRatio < m ∧ q.2 = .proposerOnly 0 ∧
      Funds.Slashed h.state.funds q.1.state.funds) ∨
    (m ≤ c.attestationRatio ∧ c.weightSum = 0 ∧ ∃ (h₁ : Metered A) (v : ℕ),
      Credited ar v h.state.funds h₁.state.funds ∧
      q = (h₁.holdBack cfg ar subnetId rewards.overallSubnetReward, .proposerOnly v)) ∨
    (m ≤ c.attestationRatio ∧ c.weightSum ≠ 0 ∧ ∃ (h₁ : Metered A) (v : ℕ) (r : RewardRound),
      Credited ar v h.state.funds h₁.state.funds ∧ r.submission = c ∧ r.subnetId = subnetId ∧
      r.subnetNodeRewards = rewards.subnetNodeRewards ∧ q = h₁.payOut cfg ar r rewards v) := by
  have hopen := openEpoch_funds cfg h subnetId
  -- the proposer is paid before it is known whether anybody else is
  have hproposer : Credited ar ((h.openEpoch cfg subnetId).1.rewardProposer cfg ar subnetId c m inc
      currentEpoch).2 h.state.funds (((h.openEpoch cfg subnetId).1.rewardProposer cfg ar subnetId c
        m inc currentEpoch).1.agree cfg subnetId c sm (h.state.subnetReputation subnetId)).state.funds := by
    rw [agree_funds, ← hopen]
    exact rewardProposer_credited cfg ar (h.openEpoch cfg subnetId).1 subnetId c m inc currentEpoch
  unfold distributeRewards at hq
  dsimp only at hq
  by_cases hratio : c.attestationRatio < m
  · left
    rw [if_pos hratio] at hq
    subst hq
    refine ⟨hratio, rfl, ?_⟩
    -- without consensus nobody is paid, and the proposer is slashed
    have hslash := handleNonConsensus_slashed cfg (h.openEpoch cfg subnetId).1 subnetId c m dec
      (h.state.emission.minSubnetNodeReputation.getD subnetId 100000000000000000)
      ((h.openEpoch cfg subnetId).1.state.nodes.subnetNodeElectionSlots.getD subnetId []).length
      currentEpoch (currentSubnetEpoch - 1)
    rw [hopen] at hslash
    exact hslash
  · right
    rw [if_neg hratio] at hq
    by_cases hsum : c.weightSum = 0
    · left
      rw [if_pos hsum] at hq
      exact ⟨not_lt.mp hratio, hsum, _, _, hproposer, hq.symm⟩
    · right
      rw [if_neg hsum] at hq
      exact ⟨not_lt.mp hratio, hsum, _, _, _, hproposer, rfl, rfl, rfl, hq.symm⟩

end Metered

/-- Let the submission name every node once, its weight sum be the sum of its
scores, and all percentages be at most `1.0`. Then an epoch of a subnet credits to
owner, nodes, validator pools, delegate accounts and the subnet's pool together no
more than the subnet's reward, besides the proposer's base reward; that is all the
storages gain. Below the minimum attestation nothing is credited. -/
theorem epoch_emission_bounded (cfg : Config A) (ar : Arith) (s : State A) (meter : WeightMeter)
    (subnetId currentEpoch currentSubnetEpoch E w : ℕ) (c : ConsensusSubmissionData)
    (m inc dec sm : ℕ) (hids : (c.subnetNodes.map SubnetNode.id).Nodup)
    (hsum : c.weightSum = (c.data.map fun d => d.score).sum)
    (hfactors : c.FactorsOk)
    (howner : s.params.subnetOwnerPercentage ≤ percentageFactor)
    (hdelegate : s.delegateStakeRewardsPercentage subnetId ≤ percentageFactor)
    (hrates : s.validators.RatesOk) :
    let rewards := s.calculateRewards ar subnetId E w
    let q := Metered.distributeRewards cfg ar ⟨s, meter⟩ subnetId currentEpoch currentSubnetEpoch c
      rewards m inc dec sm
    q.2.emitted ≤ rewards.overallSubnetReward ∧
    (m ≤ c.attestationRatio →
      q.1.state.funds.holdings ≤ s.funds.holdings + q.2.validatorReward + q.2.emitted ∧
      (ar = .unbounded →
        q.1.state.funds.holdings = s.funds.holdings + q.2.validatorReward + q.2.emitted)) ∧
    (c.attestationRatio < m → q.2.validatorReward = 0 ∧ q.2.emitted = 0 ∧
      Funds.Slashed s.funds q.1.state.funds) := by
  intro rewards q
  rcases Metered.distributeRewards_cases cfg ar ⟨s, meter⟩ subnetId currentEpoch
      currentSubnetEpoch c rewards m inc dec sm rfl with
    ⟨hratio, hout, hslash⟩ | ⟨hratio, _, h₁, v, hcred, hq⟩ | ⟨hratio, hpos, h₁, v, r, hcred, hc,
      hid, hnodes, hq⟩
  -- no consensus: nothing is paid
  · have hq : q.2 = .proposerOnly 0 := hout
    rw [hq]
    refine ⟨Nat.zero_le _, ?_, fun _ => ⟨rfl, rfl, hslash⟩⟩
    intro hge
    omega
  · -- held back: only the capacitor changes after the proposer was rewarded
    have hq : q = (h₁.holdBack cfg ar subnetId rewards.overallSubnetReward, .proposerOnly v) := hq
    rw [hq]
    refine ⟨Nat.zero_le _, fun _ => ⟨hcred.le, hcred.exact⟩, ?_⟩
    intro hlt
    omega
  -- consensus: what is paid out is split without loss
  · have hq : q = h₁.payOut cfg ar r rewards v := hq
    rw [hq]
    have hpaid := Metered.payOut_credited cfg ar h₁ r rewards v
    have hle := Metered.payOut_emitted_le cfg ar h₁ r rewards v (by rw [hc]; exact hfactors)
      (Validators.all_congr hrates hcred.rates) (by rw [hc]; exact hids) (by rw [hc]; exact hsum)
      (by rw [hc]; exact Nat.pos_of_ne_zero hpos)
    have hwhole := s.calculateRewards_sum ar subnetId E w howner hdelegate
    refine ⟨?_, ?_, ?_⟩
    · calc (h₁.payOut cfg ar r rewards v).2.emitted
          ≤ rewards.subnetOwnerReward + r.subnetNodeRewards + rewards.delegateStakeRewards := hle
        _ = rewards.overallSubnetReward := by
            rw [hnodes]
            exact hwhole
    · intro _
      refine ⟨?_, ?_⟩
      · calc (h₁.payOut cfg ar r rewards v).1.state.funds.holdings
            ≤ h₁.state.funds.holdings + (h₁.payOut cfg ar r rewards v).2.emitted := hpaid.le
          _ ≤ s.funds.holdings + v + (h₁.payOut cfg ar r rewards v).2.emitted :=
              Nat.add_le_add_right hcred.le _
      · intro har
        have heq : h₁.state.funds.holdings = s.funds.holdings + v := hcred.exact har
        calc (h₁.payOut cfg ar r rewards v).1.state.funds.holdings
            = h₁.state.funds.holdings + (h₁.payOut cfg ar r rewards v).2.emitted := hpaid.exact har
          _ = s.funds.holdings + v + (h₁.payOut cfg ar r rewards v).2.emitted := by rw [heq]
    · intro hlt
      omega

/-- Subnet 7 with an owner, one node that is still registered, and a validator that
shares its rewards with a pool and a delegate account. -/
def demoEpochState : State ℕ :=
  let env := demoEnv
  { State.genesis { env with
      emission := { env.emission with subnetOwner := (∅ : StorageMap ℕ ℕ).set 7 1 }
      nodes := { env.nodes with
        subnetNodeReputation := (∅ : StorageMap (ℕ × ℕ) ℕ).set (7, 3) percentageFactor
        subnetNodeValidatorId := (∅ : StorageMap (ℕ × ℕ) ℕ).set (7, 3) 1 }
      validators := { env.validators with
        validatorsData := (∅ : StorageMap ℕ (ValidatorData ℕ)).set 1
          ⟨1, 10, percentageFactor / 2, 0, some ⟨5, percentageFactor / 4⟩⟩ } } with
    validatorPools := { Pools.genesis ℕ with
      poolShares := (∅ : StorageMap ℕ ℕ).set 1 1000
      poolBalance := (∅ : StorageMap ℕ ℕ).set 1 500 } }

/-- A node of validator 1. -/
def demoNode (id : ℕ) : SubnetNode where
  id := id
  validatorId := 1
  peerInfo := ⟨[], none⟩
  bootnodePeerInfo := none
  clientPeerInfo := none
  classification := ⟨.validator, 0⟩
  unique := none
  nonUnique := none

/-- Nodes 3 and 4 with scores 2 and 1, attested by node 3; node 4 has left. -/
def demoSubmission : ConsensusSubmissionData where
  validatorSubnetNodeId := 3
  validatorRewardFactor := percentageFactor
  attestationRatio := percentageFactor
  weightSum := 3
  dataLength := 2
  data := [⟨3, 2⟩, ⟨4, 1⟩]
  attests := (∅ : StorageMap ℕ AttestEntry).set 3 ⟨0, 0, percentageFactor, none⟩
  subnetNodes := [demoNode 3, demoNode 4]
  prioritizeQueueNodeId := none
  removeQueueNodeId := none

/-- One subnet has the whole weight, and two nodes. -/
theorem epoch_emission_bounded_demo :
    let rewards := demoEpochState.calculateRewards u128 7 10000 percentageFactor
    let q := Metered.distributeRewards (.runtime ℕ) u128
      ⟨demoEpochState, ⟨⟨1000000000000, 1000000000000⟩, ⟨0, 0⟩⟩⟩ 7 5 5 demoSubmission rewards
      660000000000000000 500000000000000 500000000000000000 875000000000000000
    rewards.overallSubnetReward = 10000 ∧ q.2.payouts.length = 2 ∧ q.2.emitted = 9998 ∧
    q.2.emitted ≤ rewards.overallSubnetReward ∧
    q.1.state.funds.holdings ≤ demoEpochState.funds.holdings + 1000000000000000000 + 9998 := by
  have hfactors : demoSubmission.FactorsOk := by
    intro id a ha
    simp only [demoSubmission, StorageMap.find?_set] at ha
    split at ha
    · cases ha
      exact le_rfl
    · cases ha
  have hrates : demoEpochState.validators.RatesOk := by
    have hnone : demoEnv.validators.RatesOk := by
      intro id v hv
      cases hv
    refine Validators.all_set hnone rfl ⟨by decide, ?_⟩
    intro d hd
    cases hd
    decide
  have h := epoch_emission_bounded (.runtime ℕ) u128 demoEpochState
    ⟨⟨1000000000000, 1000000000000⟩, ⟨0, 0⟩⟩ 7 5 5 10000 percentageFactor demoSubmission
    660000000000000000 500000000000000 500000000000000000 875000000000000000 (by decide) rfl
    hfactors (by decide) (by decide) hrates
  refine ⟨by decide +kernel, by decide +kernel, by decide +kernel, h.1, ?_⟩
  exact (h.2.1 (by decide)).1.trans (by decide +kernel)

end Hypertensor
