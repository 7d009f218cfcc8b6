import Mathlib
import Hypertensor.Epoch.Preliminaries

/-!
# Hypertensor.Epoch.Verdicts — who goes in the first block of an epoch

The pass over the subnets mixes five reasons for a removal with updates of reputation, and
collects on its way the subnets of which one more may go. What it decides about a subnet depends
on what is stored about this subnet before the pass (`Preliminaries.verdict`), and on nothing it
does to the others. So with enough weight the whole call is known from the storage it starts
with.

* `Preliminaries.subnetStep_eq`: one iteration notes something about its subnet, and then removes
  the subnet or not, as the verdict says.
* `Preliminaries.subnetLoop_spec`: what the loop removes, and whom it proposes.
* `Hook.doEpochPreliminaries_spec`: what the call removes.
-/

namespace Hypertensor

open Base

variable {A : Type}

/-! ## Weight -/

namespace WeightMeter

/-- Both counts fit their type. -/
def Fits (m : WeightMeter) : Prop := m.consumed.refTime ≤ u64Max ∧ m.consumed.proofSize ≤ u64Max

/-- More is consumed, of the same limit. -/
structure Before (m m' : WeightMeter) : Prop where
  limit : m'.limit = m.limit
  refTime : m.consumed.refTime ≤ m'.consumed.refTime
  proofSize : m.consumed.proofSize ≤ m'.consumed.proofSize
  fits : m'.Fits

variable {m m' m'' : WeightMeter}

/-- A meter that fits is before itself. -/
theorem Before.refl (h : m.Fits) : m.Before m := ⟨rfl, le_rfl, le_rfl, h⟩

/-- Weight may be consumed in two parts. -/
theorem Before.trans (h : m.Before m') (h' : m'.Before m'') : m.Before m'' :=
  ⟨h'.limit.trans h.limit, h.refTime.trans h'.refTime, h.proofSize.trans h'.proofSize, h'.fits⟩

/-- Weight is only added. -/
theorem Before.consume (h : m.Before m') (w : Weight) : m.Before (m'.consume w) := by
  refine ⟨h.limit, ?_, ?_, ?_⟩
  · exact h.refTime.trans (le_min (Nat.le_add_right _ _) h.fits.1)
  · exact h.proofSize.trans (le_min (Nat.le_add_right _ _) h.fits.2)
  · exact ⟨min_le_right _ _, min_le_right _ _⟩

/-- What there is room for later there was room for before. -/
theorem Before.canConsume (h : m.Before m') {w : Weight} (hw : m'.canConsume w = true) :
    m.canConsume w = true := by
  unfold WeightMeter.canConsume Weight.checkedAdd at hw ⊢
  have hrefTime := h.refTime
  have hproofSize := h.proofSize
  split at hw
  · next t ht =>
      split at ht
      · next hle =>
          cases ht
          simp only [Weight.allLte, Bool.and_eq_true, decide_eq_true_eq, h.limit] at hw
          rw [if_pos ⟨by omega, by omega⟩]
          simp only [Weight.allLte, Bool.and_eq_true, decide_eq_true_eq]
          omega
      · cases ht
  · cases hw

end WeightMeter

/-! ## Verdicts -/

/-- What the pass reads of a subnet. -/
structure Standing where
  registeredEpoch : Option ℕ
  activeNodes : ℕ
  electableNodes : ℕ
  reputation : ℕ
  pausedFactor : ℕ
  fewNodesFactor : ℕ
  stake : ℕ
  minStake : ℕ
deriving DecidableEq, Repr

/-- The standing of a subnet. -/
def Chain.standing [DecidableEq A] (c : Chain A) (i : ℕ) : Standing where
  registeredEpoch := c.registry.subnetRegistrationEpoch.find? i
  activeNodes := c.nodes.totalActiveSubnetNodes.val i
  electableNodes := c.nodes.totalSubnetElectableNodes.val i
  reputation := c.subnetReputation i
  pausedFactor := c.hookParams.maxPauseEpochsSubnetReputationFactor
  fewNodesFactor := c.hookParams.lessThanMinNodesSubnetReputationFactor
  stake := c.subnetPools.poolBalance.val i
  minStake := c.getMinSubnetDelegateStakeBalance i

namespace Preliminaries

variable (p : Preliminaries) (x : Standing)

/-- A registered subnet goes when it is too late to activate it, or with too few nodes. -/
def registeredVerdict : Option SubnetRemovalReason :=
  match x.registeredEpoch with
  | none => none
  | some registeredEpoch =>
      let maxRegistrationEpoch := min (registeredEpoch + p.subnetRegistrationEpochs) u32Max
      let maxEnactmentEpoch := min (maxRegistrationEpoch + p.subnetEnactmentEpochs) u32Max
      if p.epoch ≤ maxRegistrationEpoch then none
      else if p.epoch ≤ maxEnactmentEpoch then
        if x.activeNodes < p.minSubnetNodes then some .minSubnetNodes else none
      else some .enactmentPeriod

/-- A paused subnet goes when its reputation has sunk for being paused too long. -/
def pausedVerdict (startEpoch : ℕ) : Option SubnetRemovalReason :=
  if wrapAdd 32 startEpoch p.maxPauseEpochs < p.epoch ∧
      State.decreaseRep x.reputation x.pausedFactor none < p.minReputation then some .pauseExpired
  else none

/-- The reputation of an active subnet, after it has lost some for too few nodes. -/
def activeReputation : ℕ :=
  if x.electableNodes < p.minSubnetNodes then State.decreaseRep x.reputation x.fewNodesFactor none
  else x.reputation

/-- An active subnet goes for its delegate stake, or for its reputation. -/
def activeVerdict : Option SubnetRemovalReason :=
  if x.stake < x.minStake ∧ p.dstakeEpochIntervalCanRemove then some .minSubnetDelegateStake
  else if p.activeReputation x < p.minReputation then some .minReputation
  else none

/-- Why a subnet goes, if it does. -/
def verdict (d : SubnetData) : Option SubnetRemovalReason :=
  match d.state with
  | .registered => p.registeredVerdict x
  | .paused => p.pausedVerdict x d.startEpoch
  | .active => if d.startEpoch > p.epoch then none else p.activeVerdict x

/-- The subnet, if one too many may go and it may be this one. -/
def candidate (i : ℕ) (d : SubnetData) : Option (ℕ × ℕ) :=
  if d.isActiveAndLive p.epoch = true ∧ p.verdict x d = none ∧ p.removesExcess = true then
    some (i, x.stake)
  else none

/-- No verdict is that there are too many. -/
theorem verdict_ne_maxSubnets (d : SubnetData) : p.verdict x d ≠ some .maxSubnets := by
  unfold verdict registeredVerdict pausedVerdict activeVerdict
  dsimp only
  split
  · split
    · exact nofun
    · split
      · exact nofun
      · split
        · split <;> exact nofun
        · exact nofun
  · split <;> exact nofun
  · split
    · exact nofun
    · split
      · exact nofun
      · split <;> exact nofun

end Preliminaries

/-! ## One iteration -/

/-- Weight is consumed, and at most the reputation of the subnet is written. -/
structure Hook.Notes (i : ℕ) (h g : Hook A) : Prop where
  chain : g.chain = h.chain ∨
    ∃ rep, g.chain = { h.chain with toState := h.chain.toState.setSubnetReputation i rep }
  removals : g.removals = h.removals
  meter : h.meter.Fits → h.meter.Before g.meter

namespace Hook.Notes

variable {i : ℕ} {h g : Hook A}

/-- Nothing is noted. -/
theorem refl (h : Hook A) : h.Notes i h := ⟨.inl rfl, rfl, fun hfits => .refl hfits⟩

/-- Weight may be consumed beside the notes. -/
theorem consume (hg : h.Notes i g) (w : Weight) : h.Notes i (g.consume w) :=
  ⟨hg.chain, hg.removals, fun hfits => (hg.meter hfits).consume w⟩

/-- The first reputation that is written. -/
theorem reputation (hg : h.Notes i g) (hchain : g.chain = h.chain) (rep : ℕ) :
    h.Notes i (g.map fun c => { c with toState := c.toState.setSubnetReputation i rep }) := by
  refine ⟨.inr ⟨rep, ?_⟩, hg.removals, hg.meter⟩
  rw [← hchain]
  rfl

end Hook.Notes

namespace Preliminaries

variable (rt : Runtime A) {p : Preliminaries} {i : ℕ}

section Branches

variable {x : Standing}

/-- A subnet that registers is treated by its verdict. -/
theorem registeredSubnet_eq (h : Hook A)
    (hepoch : x.registeredEpoch = h.chain.registry.subnetRegistrationEpoch.find? i)
    (hactive : x.activeNodes = h.chain.nodes.totalActiveSubnetNodes.val i) :
    ∃ g, h.Notes i g ∧ p.registeredSubnet rt h i =
      match p.registeredVerdict x with
      | some reason => g.tryDoRemoveSubnet rt i reason
      | none => g := by
  have hread : h.Notes i (h.consume (rt.reads 1)) := (Hook.Notes.refl h).consume _
  unfold registeredSubnet registeredVerdict
  rw [← hepoch, ← hactive]
  cases x.registeredEpoch with
  | none => exact ⟨_, hread, rfl⟩
  | some registeredEpoch =>
      dsimp only
      -- in the registration period, in the enactment period, or past both
      by_cases hregistration : p.epoch ≤ min (registeredEpoch + p.subnetRegistrationEpochs) u32Max
      · rw [if_pos hregistration, if_pos hregistration]
        exact ⟨_, hread, rfl⟩
      · rw [if_neg hregistration, if_neg hregistration]
        by_cases henactment : p.epoch ≤ min (min (registeredEpoch + p.subnetRegistrationEpochs)
            u32Max + p.subnetEnactmentEpochs) u32Max
        · rw [if_pos henactment, if_pos henactment]
          by_cases hfew : x.activeNodes < p.minSubnetNodes
          · rw [if_pos hfew, if_pos hfew]
            exact ⟨_, hread.consume _, rfl⟩
          · rw [if_neg hfew, if_neg hfew]
            exact ⟨_, hread.consume _, rfl⟩
        · rw [if_neg henactment, if_neg henactment]
          exact ⟨_, hread, rfl⟩

/-- A subnet that is paused is treated by its verdict, with the penalty noted first. -/
theorem pausedSubnet_eq (h : Hook A) (d : SubnetData)
    (hreputation : x.reputation = h.chain.subnetReputation i)
    (hfactor : x.pausedFactor = h.chain.hookParams.maxPauseEpochsSubnetReputationFactor) :
    ∃ g, h.Notes i g ∧ p.pausedSubnet rt h i d =
      match p.pausedVerdict x d.startEpoch with
      | some reason => g.tryDoRemoveSubnet rt i reason
      | none => g := by
  unfold pausedSubnet pausedVerdict
  rw [← hreputation, ← hfactor]
  dsimp only
  -- a pause that takes too long costs reputation, and the subnet goes once it has sunk too low
  by_cases hlong : wrapAdd 32 d.startEpoch p.maxPauseEpochs < p.epoch
  · rw [if_pos hlong]
    refine ⟨_, ((Hook.Notes.refl h).reputation rfl (State.decreaseRep x.reputation x.pausedFactor
      none)).consume (rt.readsWrites 2 1), ?_⟩
    by_cases hsunk : State.decreaseRep x.reputation x.pausedFactor none < p.minReputation
    · rw [if_pos hsunk, if_pos ⟨hlong, hsunk⟩]
    · rw [if_neg hsunk, if_neg (fun h => hsunk h.2)]
  · rw [if_neg hlong, if_neg (fun h => hlong h.1)]
    exact ⟨h, .refl h, rfl⟩

/-- The reputation that an active subnet is left with is the one it is judged by. -/
theorem fewNodes_eq {h g : Hook A} (hg : h.Notes i g) (hchain : g.chain = h.chain)
    (hreputation : x.reputation = h.chain.subnetReputation i)
    (hfactor : x.fewNodesFactor = h.chain.hookParams.lessThanMinNodesSubnetReputationFactor)
    (helectable : x.electableNodes = h.chain.nodes.totalSubnetElectableNodes.val i) :
    h.Notes i (p.fewNodes rt g i) ∧
      (p.fewNodes rt g i).chain.subnetReputation i = p.activeReputation x := by
  unfold fewNodes activeReputation
  rw [hchain, ← hreputation, ← hfactor, ← helectable]
  by_cases hfew : x.electableNodes < p.minSubnetNodes
  · rw [if_pos hfew, if_pos hfew]
    refine ⟨(hg.reputation hchain _).consume _, ?_⟩
    show StorageMap.getD (StorageMap.set _ i _) i _ = _
    unfold StorageMap.getD
    rw [StorageMap.find?_set_self]
    rfl
  · rw [if_neg hfew, if_neg hfew]
    refine ⟨hg, ?_⟩
    rw [hchain, hreputation]

end Branches

variable [DecidableEq A]

/-- An active subnet is removed by its verdict, or may be one too many. -/
theorem activeSubnet_eq (h : Hook A) :
    ∃ g, h.Notes i g ∧ p.activeSubnet rt h i =
      match p.activeVerdict (h.chain.standing i) with
      | some reason => (g.tryDoRemoveSubnet rt i reason, none)
      | none => (g, if p.removesExcess then some (i, (h.chain.standing i).stake) else none) := by
  have hread : h.Notes i ((h.consume rt.weightGetMinSubnetDelegateStakeBalance).consume
      (rt.reads 1)) := ((Hook.Notes.refl h).consume _).consume _
  generalize hx : h.chain.standing i = x
  have hstake : h.chain.subnetPools.poolBalance.val i = x.stake := congrArg Standing.stake hx
  have hmin : h.chain.getMinSubnetDelegateStakeBalance i = x.minStake :=
    congrArg Standing.minStake hx
  obtain ⟨hfew, hreputation⟩ := fewNodes_eq rt (p := p) (x := x) hread rfl
    (congrArg Standing.reputation hx).symm (congrArg Standing.fewNodesFactor hx).symm
    (congrArg Standing.electableNodes hx).symm
  unfold activeSubnet activeVerdict
  rw [hstake, hmin]
  dsimp only
  -- the stake is judged first, and the reputation is written down only if it suffices
  by_cases hlow : x.stake < x.minStake ∧ p.dstakeEpochIntervalCanRemove = true
  · rw [if_pos hlow, if_pos hlow]
    exact ⟨_, hread, rfl⟩
  · rw [if_neg hlow, if_neg hlow]
    refine ⟨_, hfew.consume (rt.reads 2), ?_⟩
    rw [show ((p.fewNodes rt ((h.consume rt.weightGetMinSubnetDelegateStakeBalance).consume
      (rt.reads 1)) i).consume (rt.reads 2)).chain.subnetReputation i = _ from hreputation]
    by_cases hsunk : p.activeReputation x < p.minReputation
    · rw [if_pos hsunk, if_pos hsunk]
    · rw [if_neg hsunk, if_neg hsunk]

/-- An iteration notes something about its subnet, and then does what the verdict says. -/
theorem subnetStep_eq (h : Hook A) (d : SubnetData) :
    ∃ g, h.Notes i g ∧ p.subnetStep rt h i d =
      match p.verdict (h.chain.standing i) d with
      | some reason => (g.tryDoRemoveSubnet rt i reason, none)
      | none => (g, p.candidate (h.chain.standing i) i d) := by
  unfold subnetStep candidate verdict SubnetData.isActiveAndLive
  -- the verdict is split on as the state of the subnet is
  cases d.state with
  | registered =>
      obtain ⟨g, hg, heq⟩ := registeredSubnet_eq rt (p := p) (x := h.chain.standing i) h
        rfl rfl
      refine ⟨g, hg, ?_⟩
      dsimp only
      rw [heq]
      cases p.registeredVerdict (h.chain.standing i) with
      | none => simp
      | some reason => rfl
  | paused =>
      obtain ⟨g, hg, heq⟩ := pausedSubnet_eq rt (p := p) (x := h.chain.standing i) h d
        rfl rfl
      refine ⟨g, hg, ?_⟩
      dsimp only
      rw [heq]
      cases p.pausedVerdict (h.chain.standing i) d.startEpoch with
      | none => simp
      | some reason => rfl
  | active =>
      dsimp only
      by_cases hlive : d.startEpoch > p.epoch
      · rw [if_pos hlive, if_pos hlive]
        refine ⟨h, .refl h, ?_⟩
        simp [Nat.not_le.mpr hlive]
      · rw [if_neg hlive, if_neg hlive]
        obtain ⟨g, hg, heq⟩ := activeSubnet_eq rt (p := p) (i := i) h
        refine ⟨g, hg, ?_⟩
        rw [heq]
        cases p.activeVerdict (h.chain.standing i) with
        | none => simp [Nat.not_lt.mp hlive]
        | some reason => rfl

end Preliminaries

/-! ## A removal -/

section Removal

variable {rt : Runtime A} {c : Chain A} {g : Hook A} {i j : ℕ} {reason : SubnetRemovalReason}

/-- A removal consumes weight, if it is done. -/
theorem Hook.tryDoRemoveSubnet_before (hfits : g.meter.Fits) :
    g.meter.Before (g.tryDoRemoveSubnet rt i reason).meter := by
  unfold tryDoRemoveSubnet
  dsimp only
  split
  · exact ((WeightMeter.Before.refl hfits).consume _).consume _
  · exact (WeightMeter.Before.refl hfits).consume _

/-- With room to the end of it a removal that is tried is made. -/
theorem Hook.tryDoRemoveSubnet_of_room {d : SubnetData}
    (hroom : (g.tryDoRemoveSubnet rt i reason).meter.canConsume
      (rt.weightDoRemoveSubnet (g.chain.nodes.totalSubnetNodes.val i)) = true)
    (hd : g.chain.subnets.subnetsData.find? i = some d) :
    (g.tryDoRemoveSubnet rt i reason).chain = (g.chain.doRemoveSubnet rt i).1 ∧
      (g.tryDoRemoveSubnet rt i reason).removals = g.removals ++ [(i, reason)] := by
  have hthere : (g.chain.doRemoveSubnet rt i).2.2 = true := by
    unfold Chain.doRemoveSubnet
    rw [hd]
  unfold tryDoRemoveSubnet at hroom ⊢
  dsimp only at hroom ⊢
  by_cases hcan : (g.consume (rt.reads 1)).meter.canConsume
      (rt.weightDoRemoveSubnet (g.chain.nodes.totalSubnetNodes.val i)) = true
  · rw [if_pos hcan]
    exact ⟨rfl, if_pos hthere⟩
  · rw [if_neg hcan] at hroom
    exact absurd hroom hcan

/-- What the removal of another subnet leaves of a subnet. -/
structure Chain.Keeps (j : ℕ) (c c' : Chain A) : Prop where
  data : c'.subnets.subnetsData.find? j = c.subnets.subnetsData.find? j
  nodes : c'.nodes.totalSubnetNodes.val j = c.nodes.totalSubnetNodes.val j

/-- A subnet that is left alone by both of two parts. -/
theorem Chain.Keeps.trans {c' c'' : Chain A} (h : c.Keeps j c') (h' : c'.Keeps j c'') :
    c.Keeps j c'' := ⟨h'.data.trans h.data, h'.nodes.trans h.nodes⟩

/-- The removal forgets the epoch of the registration. -/
theorem Registry.removeSubnet_subnetRegistrationEpoch (r : Registry A) (i : ℕ) (d : SubnetData) :
    (r.removeSubnet i d).subnetRegistrationEpoch = r.subnetRegistrationEpoch.remove i := by
  unfold Registry.removeSubnet Registry.freeSlotOfSubnet
  dsimp only
  split <;> rfl

/-- The removal of one subnet leaves another one alone. -/
theorem Chain.doRemoveSubnet_keeps (c : Chain A) (hj : j ≠ i) :
    c.Keeps j (c.doRemoveSubnet rt i).1 := by
  unfold doRemoveSubnet
  split
  · exact ⟨rfl, rfl⟩
  · exact ⟨StorageMap.find?_remove_ne _ hj, StorageMap.val_remove_ne _ hj⟩

/-- A subnet that is removed is gone. -/
theorem Chain.doRemoveSubnet_gone (c : Chain A) :
    (c.doRemoveSubnet rt i).1.subnets.subnetsData.find? i = none := by
  unfold doRemoveSubnet
  split
  · next hnone => exact hnone
  · exact StorageMap.find?_remove_self _ _

variable [DecidableEq A]

/-- The removal of a subnet leaves the standing of the others. -/
theorem Chain.doRemoveSubnet_standing (c : Chain A) (hj : j ≠ i) :
    (c.doRemoveSubnet rt i).1.standing j = c.standing j := by
  unfold doRemoveSubnet
  split
  · rfl
  · next d _ =>
      have hregistered : (c.registry.removeSubnet i d).subnetRegistrationEpoch.find? j =
          c.registry.subnetRegistrationEpoch.find? j := by
        rw [Registry.removeSubnet_subnetRegistrationEpoch, StorageMap.find?_remove_ne _ hj]
      have hactive := StorageMap.val_remove_ne c.nodes.totalActiveSubnetNodes hj
      have helectable := StorageMap.val_remove_ne c.nodes.totalSubnetElectableNodes hj
      have hreputation : (c.emission.subnetReputation.remove i).getD j percentageFactor =
          c.emission.subnetReputation.getD j percentageFactor := by
        unfold StorageMap.getD
        rw [StorageMap.find?_remove_ne _ hj]
      have hslots : (c.nodes.subnetNodeElectionSlots.remove i).getD j [] =
          c.nodes.subnetNodeElectionSlots.getD j [] := by
        unfold StorageMap.getD
        rw [StorageMap.find?_remove_ne _ hj]
      -- the stake a subnet needs depends on the issuance, which no removal changes
      have hstake : ∀ c' : Chain A, c'.getTotalNetworkIssuance = c.getTotalNetworkIssuance →
          c'.hookParams = c.hookParams → c'.params = c.params →
          c'.nodes.subnetNodeElectionSlots = c.nodes.subnetNodeElectionSlots.remove i →
          c'.getMinSubnetDelegateStakeBalance j = c.getMinSubnetDelegateStakeBalance j := by
        intro c' hissuance hhook hparams hnodes
        unfold getMinSubnetDelegateStakeBalance getSubnetMinDelegateStakingMultiplier
        rw [hissuance, hhook, hparams, hnodes, hslots]
      have hissuance : ∀ c₁ : Chain A, c₁.toState.freeBalance = c.freeBalance →
          c₁.stake = c.stake → c₁.subnetPools = c.subnetPools →
          c₁.registry.totalNodeDelegateStake = c.registry.totalNodeDelegateStake →
          c₁.getTotalNetworkIssuance = c.getTotalNetworkIssuance := by
        intro c₁ hfree hstake hpools hnode
        unfold getTotalNetworkIssuance
        rw [hfree, hstake, hpools, hnode]
      have hregistry : (c.registry.removeSubnet i d).totalNodeDelegateStake =
          c.registry.totalNodeDelegateStake := by
        unfold Registry.removeSubnet Registry.freeSlotOfSubnet
        dsimp only
        split <;> rfl
      simp only [standing, Standing.mk.injEq]
      exact ⟨hregistered, hactive, helectable, hreputation, rfl, rfl, rfl,
        hstake _ (hissuance _ rfl rfl rfl hregistry) rfl rfl rfl⟩

/-- The reputation of one subnet is no standing of another one. -/
theorem Chain.setSubnetReputation_standing (c : Chain A) (rep : ℕ) (hj : j ≠ i) :
    Chain.standing { c with toState := c.toState.setSubnetReputation i rep } j = c.standing j := by
  have hreputation : (c.emission.subnetReputation.set i rep).getD j percentageFactor =
      c.emission.subnetReputation.getD j percentageFactor := by
    unfold StorageMap.getD
    rw [StorageMap.find?_set_ne _ _ hj]
  unfold standing
  congr 1

/-- What is noted about a subnet is nothing to the others. -/
theorem Hook.Notes.standing {h : Hook A} (hg : h.Notes i g) (hj : j ≠ i) :
    g.chain.standing j = h.chain.standing j := by
  rcases hg.chain with heq | ⟨rep, heq⟩
  · rw [heq]
  · rw [heq]
    exact Chain.setSubnetReputation_standing h.chain rep hj

omit [DecidableEq A] in
/-- A note about one subnet keeps the data of all. -/
theorem Hook.Notes.keeps {h : Hook A} (hg : h.Notes i g) (j : ℕ) : h.chain.Keeps j g.chain := by
  rcases hg.chain with heq | ⟨rep, heq⟩
  · rw [heq]
    exact ⟨rfl, rfl⟩
  · rw [heq]
    exact ⟨rfl, rfl⟩

end Removal

/-! ## The loop -/

namespace Preliminaries

variable [DecidableEq A] {rt : Runtime A} {p : Preliminaries} {h : Hook A} {i : ℕ}

variable (rt) in
/-- One subnet consumes weight. -/
theorem subnetStep_before (hfits : h.meter.Fits) (i : ℕ) (d : SubnetData) :
    h.meter.Before (p.subnetStep rt h i d).1.meter := by
  obtain ⟨g, hg, heq⟩ := subnetStep_eq rt (p := p) (i := i) h d
  have hbefore := hg.meter hfits
  rw [heq]
  cases p.verdict (h.chain.standing i) d with
  | none => exact hbefore
  | some reason => exact hbefore.trans (Hook.tryDoRemoveSubnet_before hbefore.fits)

variable (rt) in
/-- All subnets do, by induction on the list. -/
theorem subnetLoop_before (hfits : h.meter.Fits) (subnets : List (ℕ × SubnetData)) :
    h.meter.Before (p.subnetLoop rt h subnets).1.meter := by
  induction subnets generalizing h with
  | nil => exact .refl hfits
  | cons e subnets ih =>
      have hstep := subnetStep_before rt (p := p) hfits e.1 e.2
      exact hstep.trans (ih hstep.fits)

/-- What one iteration decides, with room to the end of it. -/
structure Decides (rt : Runtime A) (p : Preliminaries) (h : Hook A) (i : ℕ) (d : SubnetData) :
    Prop where
  removals : (p.subnetStep rt h i d).1.removals =
    h.removals ++ ((p.verdict (h.chain.standing i) d).map fun reason => (i, reason)).toList
  candidate : (p.subnetStep rt h i d).2 = p.candidate (h.chain.standing i) i d
  others : ∀ j, j ≠ i → (p.subnetStep rt h i d).1.chain.standing j = h.chain.standing j
  keeps : ∀ j, j ≠ i ∨ p.verdict (h.chain.standing i) d = none →
    h.chain.Keeps j (p.subnetStep rt h i d).1.chain
  gone : p.verdict (h.chain.standing i) d ≠ none →
    (p.subnetStep rt h i d).1.chain.subnets.subnetsData.find? i = none

/-- With enough weight in the end there was enough for each removal, so the verdict is carried out.
-/
theorem subnetStep_decides {d d' : SubnetData}
    (hroom : (p.subnetStep rt h i d).1.meter.canConsume
      (rt.weightDoRemoveSubnet (h.chain.nodes.totalSubnetNodes.val i)) = true)
    (hd' : h.chain.subnets.subnetsData.find? i = some d') : p.Decides rt h i d := by
  obtain ⟨g, hg, heq⟩ := subnetStep_eq rt (p := p) (i := i) h d
  rw [heq] at hroom
  cases hverdict : p.verdict (h.chain.standing i) d with
  -- the subnet stays, and may become a candidate
  | none =>
      rw [hverdict] at heq
      constructor
      · rw [heq, hverdict]
        exact hg.removals.trans (List.append_nil _).symm
      · rw [heq]
      · intro j hj
        rw [heq]
        exact hg.standing hj
      · intro j _
        rw [heq]
        exact hg.keeps j
      · intro hne
        exact absurd hverdict hne
  -- the removal has the weight it needs, so it is carried out
  | some reason =>
      rw [hverdict] at heq hroom
      have hkeeps := hg.keeps i
      rw [← hkeeps.nodes] at hroom
      rw [← hkeeps.data] at hd'
      obtain ⟨hchain, hremovals⟩ := Hook.tryDoRemoveSubnet_of_room hroom hd'
      constructor
      · rw [heq, hverdict]
        exact hremovals.trans (by rw [hg.removals]; rfl)
      · rw [heq]
        unfold candidate
        rw [if_neg (by rw [hverdict]; simp)]
      · intro j hj
        rw [heq]
        show (g.tryDoRemoveSubnet rt i reason).chain.standing j = _
        rw [hchain, Chain.doRemoveSubnet_standing _ hj]
        exact hg.standing hj
      · intro j hj
        rw [hverdict] at hj
        have hne : j ≠ i := hj.resolve_right (by simp)
        rw [heq]
        show h.chain.Keeps j (g.tryDoRemoveSubnet rt i reason).chain
        rw [hchain]
        exact (hg.keeps j).trans (Chain.doRemoveSubnet_keeps _ hne)
      · intro _
        rw [heq]
        show (g.tryDoRemoveSubnet rt i reason).chain.subnets.subnetsData.find? i = none
        rw [hchain]
        exact Chain.doRemoveSubnet_gone _

/-- The removals that the verdicts ask for, given the standings of the subnets. -/
def removalsOf (p : Preliminaries) (x : ℕ → Standing) (subnets : List (ℕ × SubnetData)) :
    List (ℕ × SubnetRemovalReason) :=
  subnets.filterMap fun e => (p.verdict (x e.1) e.2).map fun reason => (e.1, reason)

/-- The subnets of which one more may go, with their stake. -/
def candidatesOf (p : Preliminaries) (x : ℕ → Standing) (subnets : List (ℕ × SubnetData)) :
    List (ℕ × ℕ) :=
  subnets.filterMap fun e => p.candidate (x e.1) e.1 e.2

omit [DecidableEq A] in
/-- The removals depend on the standings of the listed subnets. -/
theorem removalsOf_congr {x y : ℕ → Standing} {subnets : List (ℕ × SubnetData)}
    (h : ∀ e ∈ subnets, x e.1 = y e.1) : p.removalsOf x subnets = p.removalsOf y subnets :=
  List.filterMap_congr fun e he => by rw [h e he]

omit [DecidableEq A] in
/-- So do the candidates for the excess. -/
theorem candidatesOf_congr {x y : ℕ → Standing} {subnets : List (ℕ × SubnetData)}
    (h : ∀ e ∈ subnets, x e.1 = y e.1) : p.candidatesOf x subnets = p.candidatesOf y subnets :=
  List.filterMap_congr fun e he => by rw [h e he]

/-- With room to the end of it the loop does what the verdicts on the storage before it say. -/
theorem subnetLoop_spec {subnets : List (ℕ × SubnetData)} {m : WeightMeter}
    (hfits : h.meter.Fits) (hnodup : (subnets.map Prod.fst).Nodup)
    (hin : ∀ e ∈ subnets, ∃ d, h.chain.subnets.subnetsData.find? e.1 = some d)
    (hm : (p.subnetLoop rt h subnets).1.meter.Before m)
    (hroom : ∀ e ∈ subnets, m.canConsume
      (rt.weightDoRemoveSubnet (h.chain.nodes.totalSubnetNodes.val e.1)) = true) :
    let l := p.subnetLoop rt h subnets
    l.1.removals = h.removals ++ p.removalsOf h.chain.standing subnets ∧
      l.2 = p.candidatesOf h.chain.standing subnets ∧
      (∀ j, (∀ e ∈ subnets, e.1 = j → p.verdict (h.chain.standing j) e.2 = none) →
        h.chain.Keeps j l.1.chain) ∧
      ∀ e ∈ subnets, p.verdict (h.chain.standing e.1) e.2 ≠ none →
        l.1.chain.subnets.subnetsData.find? e.1 = none := by
  induction subnets generalizing h with
  | nil =>
      refine ⟨(List.append_nil _).symm, rfl, fun j _ => ⟨rfl, rfl⟩, ?_⟩
      intro e he
      cases he
  | cons e subnets ih =>
      rcases e with ⟨i, d⟩
      rw [List.map_cons, List.nodup_cons] at hnodup
      obtain ⟨hnew, hnodup⟩ := hnodup
      -- the subnet comes up once, so its turn is over
      have hfresh : ∀ e ∈ subnets, e.1 ≠ i := by
        intro e he hei
        exact hnew (List.mem_map.mpr ⟨e, he, hei⟩)
      have hstep := subnetStep_before rt (p := p) hfits i d
      have hloop := subnetLoop_before rt (p := p) hstep.fits subnets
      obtain ⟨d', hd'⟩ := hin (i, d) List.mem_cons_self
      -- the weight that is left at the end was there for this removal
      have hdecides : p.Decides rt h i d := by
        refine subnetStep_decides ?_ hd'
        exact (hloop.trans hm).canConsume (hroom (i, d) List.mem_cons_self)
      have hkeeps : ∀ e ∈ subnets, h.chain.Keeps e.1 (p.subnetStep rt h i d).1.chain :=
        fun e he => hdecides.keeps e.1 (.inl (hfresh e he))
      have hothers : ∀ e ∈ subnets, (p.subnetStep rt h i d).1.chain.standing e.1 =
          h.chain.standing e.1 := fun e he => hdecides.others e.1 (hfresh e he)
      -- the later turns see the other subnets as they were
      obtain ⟨hremovals, hcandidates, hkept, hgone⟩ := ih hstep.fits hnodup
        (fun e he => by
          obtain ⟨d₁, hd₁⟩ := hin e (List.mem_cons_of_mem _ he)
          exact ⟨d₁, (hkeeps e he).data.trans hd₁⟩)
        hm
        (fun e he => by
          rw [(hkeeps e he).nodes]
          exact hroom e (List.mem_cons_of_mem _ he))
      refine ⟨?_, ?_, ?_, ?_⟩
      · refine hremovals.trans ?_
        rw [hdecides.removals, removalsOf_congr hothers, List.append_assoc]
        congr 1
        unfold removalsOf
        rw [List.filterMap_cons]
        cases p.verdict (h.chain.standing i) d with
        | none => rfl
        | some reason => rfl
      · show (p.subnetStep rt h i d).2.toList ++ (p.subnetLoop rt _ subnets).2 = _
        rw [hcandidates, hdecides.candidate, candidatesOf_congr hothers]
        unfold candidatesOf
        rw [List.filterMap_cons]
        cases p.candidate (h.chain.standing i) i d with
        | none => rfl
        | some candidate => rfl
      · intro j hj
        by_cases hji : j = i
        · subst hji
          refine (hdecides.keeps j (.inr (hj (j, d) List.mem_cons_self rfl))).trans (hkept j ?_)
          intro e he hej
          exact absurd hej (hfresh e he)
        · refine (hdecides.keeps j (.inl hji)).trans (hkept j ?_)
          intro e he hej
          rw [hdecides.others j hji]
          exact hj e (List.mem_cons_of_mem _ he) hej
      · intro e he hverdict
        rcases List.mem_cons.mp he with rfl | he
        · -- nobody later in the list brings the subnet back
          have hback := hkept i (fun e he hei => absurd hei (hfresh e he))
          exact hback.data.trans (hdecides.gone hverdict)
        · refine hgone e he ?_
          rw [hothers e he]
          exact hverdict

/-! ## One more -/

/-- The candidate with the least stake. -/
def excessOf (candidates : List (ℕ × ℕ)) : Option ℕ :=
  (candidates.insertionSort fun x y => x.2 ≤ y.2).head?.map Prod.fst

theorem excessOf_eq_none {candidates : List (ℕ × ℕ)} :
    excessOf candidates = none ↔ candidates = [] := by
  unfold excessOf
  rw [Option.map_eq_none_iff, List.head?_eq_none_iff]
  constructor
  · intro h
    exact List.perm_nil.mp (h ▸ (List.perm_insertionSort _ candidates).symm)
  · rintro rfl
    rfl

theorem excessOf_eq_some {candidates : List (ℕ × ℕ)} {i : ℕ} (h : excessOf candidates = some i) :
    ∃ stake, (i, stake) ∈ candidates ∧ ∀ e ∈ candidates, stake ≤ e.2 := by
  unfold excessOf at h
  have hsorted := List.pairwise_insertionSort (fun x y : ℕ × ℕ => x.2 ≤ y.2) candidates
  have hperm := List.perm_insertionSort (fun x y : ℕ × ℕ => x.2 ≤ y.2) candidates
  generalize candidates.insertionSort (fun x y => x.2 ≤ y.2) = sorted at h hsorted hperm
  cases sorted with
  | nil => cases h
  | cons least sorted =>
      cases h
      refine ⟨least.2, hperm.subset List.mem_cons_self, ?_⟩
      intro e he
      rcases List.mem_cons.mp (hperm.symm.subset he) with rfl | he
      · exact le_rfl
      · exact (List.pairwise_cons.mp hsorted).1 e he

omit [DecidableEq A] in
theorem removeExcess_eq (h : Hook A) {candidates : List (ℕ × ℕ)}
    (hdue : candidates ≠ [] → p.removesExcess = true) :
    p.removeExcess rt h candidates = match excessOf candidates with
      | none => h
      | some i => (h.consume ⟨candidates.length * Nat.log2 candidates.length * 100, 0⟩).tryDoRemoveSubnet
          rt i .maxSubnets := by
  unfold removeExcess
  cases hexcess : excessOf candidates with
  | none =>
      rw [excessOf_eq_none.mp hexcess]
      rfl
  | some i =>
      have hne : candidates ≠ [] := by
        rintro rfl
        cases hexcess
      unfold excessOf at hexcess
      generalize candidates.insertionSort (fun x y => x.2 ≤ y.2) = sorted at hexcess
      cases sorted with
      | nil => cases hexcess
      | cons least sorted =>
          cases hexcess
          exact if_pos (hdue hne)

omit [DecidableEq A] in
variable (rt) in
theorem removeExcess_before (hfits : h.meter.Fits) (candidates : List (ℕ × ℕ)) :
    h.meter.Before (p.removeExcess rt h candidates).meter := by
  unfold removeExcess
  dsimp only
  split
  · exact .refl hfits
  · split
    · have hsorted : h.meter.Before
          (h.consume ⟨candidates.length * Nat.log2 candidates.length * 100, 0⟩).meter :=
        (WeightMeter.Before.refl hfits).consume _
      exact hsorted.trans (Hook.tryDoRemoveSubnet_before hsorted.fits)
    · exact .refl hfits

omit [DecidableEq A] in
theorem removesExcess_of_candidates {x : ℕ → Standing} {subnets : List (ℕ × SubnetData)}
    (h : p.candidatesOf x subnets ≠ []) : p.removesExcess = true := by
  obtain ⟨e, he⟩ := List.exists_mem_of_ne_nil _ h
  obtain ⟨e', _, hcandidate⟩ := List.mem_filterMap.mp he
  unfold candidate at hcandidate
  split at hcandidate
  · next hdue => exact hdue.2.2
  · cases hcandidate

omit [DecidableEq A] in
theorem mem_candidatesOf {x : ℕ → Standing} {subnets : List (ℕ × SubnetData)} {i stake : ℕ} :
    (i, stake) ∈ p.candidatesOf x subnets ↔ ∃ d, (i, d) ∈ subnets ∧
      d.isActiveAndLive p.epoch = true ∧ p.verdict (x i) d = none ∧ p.removesExcess = true ∧
      stake = (x i).stake := by
  unfold candidatesOf candidate
  rw [List.mem_filterMap]
  constructor
  · rintro ⟨⟨j, d⟩, hmem, hcandidate⟩
    split at hcandidate
    · next hdue =>
        cases hcandidate
        exact ⟨d, hmem, hdue.1, hdue.2.1, hdue.2.2, rfl⟩
    · cases hcandidate
  · rintro ⟨d, hmem, hlive, hpasses, hdue, rfl⟩
    exact ⟨(i, d), hmem, if_pos ⟨hlive, hpasses, hdue⟩⟩

end Preliminaries

/-! ## The call -/

section Call

variable [DecidableEq A] {rt : Runtime A}

/-- What the call reads before its loop. -/
def Chain.preliminaries (c : Chain A) (epoch : ℕ) : Preliminaries where
  epoch := epoch
  minReputation := c.hookParams.minSubnetReputation
  subnetRegistrationEpochs := c.hookParams.subnetRegistrationEpochs
  subnetEnactmentEpochs := c.hookParams.subnetEnactmentEpochs
  minSubnetNodes := c.params.minSubnetNodes
  maxPauseEpochs := c.hookParams.maxSubnetPauseEpochs
  excessSubnets := decide (c.subnets.subnetsData.storedEntries.length > c.hookParams.maxSubnets)
  isRemovalEpoch := decide (epoch % c.intervals.maxSubnetRemovalInterval = 0)
  canRemove := decide (epoch ≥ wrapAdd 32 c.registry.prevSubnetActivationEpoch
    c.intervals.minSubnetRemovalInterval)
  dstakeEpochIntervalCanRemove :=
    decide (epoch % c.intervals.delegateStakeSubnetRemovalInterval = 0)

/-- The subnets that are removed for themselves. -/
def Chain.failing (c : Chain A) (epoch : ℕ) : List (ℕ × SubnetRemovalReason) :=
  (c.preliminaries epoch).removalsOf c.standing c.subnets.subnetsData.storedEntries

/-- The subnet that is removed for there being too many. -/
def Chain.excess (c : Chain A) (epoch : ℕ) : Option ℕ :=
  Preliminaries.excessOf
    ((c.preliminaries epoch).candidatesOf c.standing c.subnets.subnetsData.storedEntries)

/-- The loop starts from the same storage, and what comes after it is the last removal. -/
theorem Hook.doEpochPreliminaries_eq {h h' : Hook A} {epoch : ℕ}
    (hok : h.doEpochPreliminaries rt epoch = some h') :
    ∃ g : Hook A, g.chain = h.chain ∧ g.removals = h.removals ∧
      (h.meter.Fits → h.meter.Before g.meter) ∧
      h' = (h.chain.preliminaries epoch).removeExcess rt
        ((h.chain.preliminaries epoch).subnetLoop rt g h.chain.subnets.subnetsData.storedEntries).1
        ((h.chain.preliminaries epoch).subnetLoop rt g h.chain.subnets.subnetsData.storedEntries).2 := by
  unfold doEpochPreliminaries at hok
  simp only [Option.bind_eq_bind, Option.bind_eq_some_iff, Option.some.injEq] at hok
  obtain ⟨removal, hremoval, dstake, hdstake, rfl⟩ := hok
  rw [rem?_of_ne (rem?_ne_zero hremoval)] at hremoval
  rw [rem?_of_ne (rem?_ne_zero hdstake)] at hdstake
  cases hremoval
  cases hdstake
  refine ⟨_, ?_, ?_, ?_, rfl⟩
  · split <;> rfl
  · split <;> rfl
  · intro hfits
    split
    · exact (((WeightMeter.Before.refl hfits).consume _).consume _).consume _
    · exact ((WeightMeter.Before.refl hfits).consume _).consume _

/-- With enough weight the call removes the subnets that fail, and then at most one more. -/
theorem Hook.doEpochPreliminaries_spec {h h' : Hook A} {epoch : ℕ}
    (hok : h.doEpochPreliminaries rt epoch = some h') (hfits : h.meter.Fits)
    (hroom : ∀ i d, h.chain.subnets.subnetsData.find? i = some d → h'.meter.canConsume
      (rt.weightDoRemoveSubnet (h.chain.nodes.totalSubnetNodes.val i)) = true) :
    h'.removals = h.removals ++ h.chain.failing epoch ++
        ((h.chain.excess epoch).map fun i => (i, SubnetRemovalReason.maxSubnets)).toList ∧
      ∀ i d, h.chain.subnets.subnetsData.find? i = some d →
        (h'.chain.subnets.subnetsData.find? i = none ↔
          (h.chain.preliminaries epoch).verdict (h.chain.standing i) d ≠ none ∨
            h.chain.excess epoch = some i) := by
  obtain ⟨g, hchain, hremovals, hmeter, rfl⟩ := doEpochPreliminaries_eq hok
  have hg := hmeter hfits
  have hloop := Preliminaries.subnetLoop_before rt (p := h.chain.preliminaries epoch)
    hg.fits h.chain.subnets.subnetsData.storedEntries
  have hend := Preliminaries.removeExcess_before rt (p := h.chain.preliminaries epoch)
    hloop.fits (Preliminaries.subnetLoop rt (h.chain.preliminaries epoch) g
      h.chain.subnets.subnetsData.storedEntries).2
  obtain ⟨hfailing, hcandidates, hkept, hgone⟩ := Preliminaries.subnetLoop_spec hg.fits
    (StorageMap.nodup_storedEntries _)
    (fun e he => ⟨e.2, hchain ▸ StorageMap.mem_storedEntries.mp he⟩) hend
    (fun e he => hchain ▸ hroom e.1 e.2 (StorageMap.mem_storedEntries.mp he))
  rw [hchain, hremovals] at hfailing
  rw [hchain] at hcandidates hkept hgone
  unfold Chain.failing Chain.excess
  rw [← hcandidates]
  have hdue : (h.chain.preliminaries epoch).candidatesOf h.chain.standing
      h.chain.subnets.subnetsData.storedEntries ≠ [] →
      (h.chain.preliminaries epoch).removesExcess = true :=
    Preliminaries.removesExcess_of_candidates
  rw [← hcandidates] at hdue
  have hproposed : ∀ i stake, (i, stake) ∈ (Preliminaries.subnetLoop rt
      (h.chain.preliminaries epoch) g h.chain.subnets.subnetsData.storedEntries).2 →
      ∃ d, h.chain.subnets.subnetsData.find? i = some d ∧
        (h.chain.preliminaries epoch).verdict (h.chain.standing i) d = none := by
    intro i stake hmem
    rw [hcandidates, Preliminaries.mem_candidatesOf] at hmem
    obtain ⟨d, hd, _, hpasses, _⟩ := hmem
    exact ⟨d, StorageMap.mem_storedEntries.mp hd, hpasses⟩
  rw [Preliminaries.removeExcess_eq _ hdue] at hroom ⊢
  generalize Preliminaries.subnetLoop rt (h.chain.preliminaries epoch) g
    h.chain.subnets.subnetsData.storedEntries = l at hfailing hkept hgone hproposed hroom ⊢
  -- a subnet that passes is left by the loop, and one that fails is gone
  have hverdict : ∀ i d, h.chain.subnets.subnetsData.find? i = some d →
      (l.1.chain.subnets.subnetsData.find? i = none ↔
        (h.chain.preliminaries epoch).verdict (h.chain.standing i) d ≠ none) := by
    intro i d hd
    constructor
    · intro hnone hpasses
      have hdata := (hkept i fun e he hei => by
        subst hei
        have hsame := hd.symm.trans (StorageMap.mem_storedEntries.mp he)
        cases hsame
        exact hpasses).data
      rw [hnone, hd] at hdata
      cases hdata
    · intro hfails
      exact hgone (i, d) (StorageMap.mem_storedEntries.mpr hd) hfails
  cases hexcess : Preliminaries.excessOf l.2 with
  | none =>
      refine ⟨by rw [hfailing]; exact (List.append_nil _).symm, ?_⟩
      intro i d hd
      rw [hverdict i d hd]
      exact ⟨Or.inl, fun h => h.resolve_right nofun⟩
  | some k =>
      obtain ⟨stake, hmem, _⟩ := Preliminaries.excessOf_eq_some hexcess
      obtain ⟨dk, hdk, hpasses⟩ := hproposed k stake hmem
      have hkeeps := hkept k fun e he hek => by
        subst hek
        have hsame := hdk.symm.trans (StorageMap.mem_storedEntries.mp he)
        cases hsame
        exact hpasses
      rw [hexcess] at hroom
      have hroomk := hroom k dk hdk
      rw [← hkeeps.nodes] at hroomk
      obtain ⟨hchain', hremovals'⟩ := Hook.tryDoRemoveSubnet_of_room (g := l.1.consume _) hroomk
        (hkeeps.data.trans hdk)
      refine ⟨?_, ?_⟩
      · refine hremovals'.trans ?_
        exact congrArg (fun r => r ++ [(k, SubnetRemovalReason.maxSubnets)]) hfailing
      · intro i d hd
        dsimp only
        rw [hchain']
        by_cases hik : i = k
        · subst hik
          exact ⟨fun _ => Or.inr rfl, fun _ => Chain.doRemoveSubnet_gone _⟩
        · rw [(Chain.doRemoveSubnet_keeps _ hik).data]
          refine (hverdict i d hd).trans ⟨Or.inl, fun h => h.resolve_right ?_⟩
          rintro ⟨⟩
          exact hik rfl

end Call

end Hypertensor
