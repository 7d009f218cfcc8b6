import Mathlib
import Hypertensor.Percentages
import Hypertensor.Pallet.Rolls

/-!
# Hypertensor.Pallet.BurnRate — the burn rate follows demand

Every epoch of a subnet its burn rate moves from where it was towards a target that grows with
the registrations of the epoch. Both parts of the average are rounded down, so the new rate may
be one less than the smaller of the two, and is then cut to the bounds.

* `calculateTargetBurnRate_mono`, `newBurnRate_mono`: more demand, higher rate.
* `blend_le_max`, `min_le_blend`: an average of two rounded products.
* `BurnRates.Step`: all that ever writes a rate. One that is within the bounds stays there as long
  as its subnet does (`BurnRates.Steps.within`).
-/

namespace Hypertensor

open Base Relation

variable {A : Type}

/-! ## Averages -/

section Blend

variable {a b F t p : ℕ}

/-- Rounding both parts down, an average is at most the larger. -/
theorem blend_le_max (hF : 0 < F) (hab : a + b = F) : t * a / F + p * b / F ≤ max t p := by
  calc t * a / F + p * b / F ≤ (t * a + p * b) / F := Nat.div_add_div_le_add_div ..
    _ ≤ (max t p * a + max t p * b) / F :=
        Nat.div_le_div_right (Nat.add_le_add (Nat.mul_le_mul_right a (le_max_left t p))
          (Nat.mul_le_mul_right b (le_max_right t p)))
    _ = max t p := by rw [← Nat.mul_add, hab, Nat.mul_div_cancel _ hF]

/-- Rounding both parts down loses at most one. -/
theorem min_le_blend (hF : 0 < F) (hab : a + b = F) :
    min t p ≤ t * a / F + p * b / F + 1 := by
  have ht : t * a < F * (t * a / F + 1) := Nat.lt_mul_div_succ _ hF
  have hp : p * b < F * (p * b / F + 1) := Nat.lt_mul_div_succ _ hF
  have hsum : F * min t p < F * (t * a / F + p * b / F + 2) := by
    calc F * min t p = min t p * a + min t p * b := by rw [← hab, ← Nat.mul_add, Nat.mul_comm]
      _ ≤ t * a + p * b := Nat.add_le_add (Nat.mul_le_mul_right a (min_le_left t p))
          (Nat.mul_le_mul_right b (min_le_right t p))
      _ < F * (t * a / F + 1) + F * (p * b / F + 1) := Nat.add_lt_add ht hp
      _ = F * (t * a / F + p * b / F + 2) := by ring
  have hlt := Nat.lt_of_mul_lt_mul_left hsum
  omega

end Blend

/-! ## One epoch -/

namespace Chain

variable (c : Chain A) (i : ℕ)

/-- `CurrentNodeBurnRate`. -/
def currentNodeBurnRateOf : ℕ := c.registry.currentNodeBurnRate.getD i percentageFactor

/-- `NodeBurnRateAlpha`. -/
def nodeBurnRateAlphaOf : ℕ := c.registry.nodeBurnRateAlpha.getD i 500000000000000000

/-- `TargetNodeRegistrationsPerEpoch`. -/
def targetNodeRegistrationsOf : ℕ := c.registry.targetNodeRegistrationsPerEpoch.getD i 64

/-- The rate that the registrations of the epoch call for. -/
def targetBurnRate : ℕ :=
  c.calculateTargetBurnRate (c.registry.nodeRegistrationsThisEpoch.val i)
    (c.targetNodeRegistrationsOf i)

/-- The average, before it is cut to the bounds. -/
def blendedBurnRate : ℕ :=
  u128.add (percentMul (c.targetBurnRate i) (c.nodeBurnRateAlphaOf i))
    (percentMul (c.currentNodeBurnRateOf i) (percentageFactor - c.nodeBurnRateAlphaOf i))

/-- The new rate is the blended one, cut to the bounds. -/
theorem newBurnRate_eq : c.newBurnRate i =
    min (max (c.blendedBurnRate i) c.hookParams.minNodeBurnRate) c.hookParams.maxNodeBurnRate :=
  rfl

variable {c i} {c' : Chain A}

/-- The new rate is within the bounds, if these are in order. -/
theorem newBurnRate_within (h : c.hookParams.minNodeBurnRate ≤ c.hookParams.maxNodeBurnRate) :
    c.hookParams.minNodeBurnRate ≤ c.newBurnRate i ∧
      c.newBurnRate i ≤ c.hookParams.maxNodeBurnRate := by
  rw [newBurnRate_eq]
  constructor
  · exact le_min (le_max_right _ _) h
  · exact min_le_right _ _

/-- The target is within the bounds. -/
theorem calculateTargetBurnRate_within
    (h : c.hookParams.minNodeBurnRate ≤ c.hookParams.maxNodeBurnRate)
    (hmax : c.hookParams.maxNodeBurnRate ≤ percentageFactor) (registrations target : ℕ) :
    c.hookParams.minNodeBurnRate ≤ c.calculateTargetBurnRate registrations target ∧
      c.calculateTargetBurnRate registrations target ≤ c.hookParams.maxNodeBurnRate := by
  unfold calculateTargetBurnRate
  dsimp only
  split
  · exact ⟨le_rfl, h⟩
  · split
    · exact ⟨h, le_rfl⟩
    · next hlt =>
        have hratio : percentDiv registrations target ≤ percentageFactor :=
          percentDiv_le_factor (by omega)
        have hpart := percentMul_le_left (x := c.hookParams.maxNodeBurnRate -
          c.hookParams.minNodeBurnRate) hratio
        have hfactor : percentageFactor ≤ u128Max := by decide
        rw [u128_add]
        constructor
        · exact le_min (Nat.le_add_right _ _) (by omega)
        · exact (min_le_left _ _).trans (by omega)

/-- More registrations call for a rate that is not lower. -/
theorem calculateTargetBurnRate_mono
    (h : c.hookParams.minNodeBurnRate ≤ c.hookParams.maxNodeBurnRate)
    (hmax : c.hookParams.maxNodeBurnRate ≤ percentageFactor) {r r' : ℕ} (hr : r ≤ r')
    (target : ℕ) : c.calculateTargetBurnRate r target ≤ c.calculateTargetBurnRate r' target := by
  rcases Nat.eq_zero_or_pos r with rfl | hpos
  · -- no registrations call for the least rate
    exact (calculateTargetBurnRate_within h hmax r' target).1
  · rcases Nat.lt_or_ge r' target with hlt | hge
    · have hfactor : percentageFactor ≤ u128Max := by decide
      have hratio : percentDiv r' target ≤ percentageFactor := percentDiv_le_factor hlt.le
      have hpart : percentMul (c.hookParams.maxNodeBurnRate - c.hookParams.minNodeBurnRate)
          (percentDiv r target) ≤ percentMul (c.hookParams.maxNodeBurnRate -
          c.hookParams.minNodeBurnRate) (percentDiv r' target) :=
        percentMul_mono le_rfl (percentDiv_mono hr) (by omega) (hratio.trans hfactor)
      unfold calculateTargetBurnRate
      dsimp only
      rw [if_neg (by omega), if_neg (by omega), if_neg (by omega), if_neg (by omega)]
      rw [u128_add, u128_add]
      exact min_le_min_right _ (Nat.add_le_add_left hpart _)
    · -- from the target on it is the greatest
      have hr' : c.calculateTargetBurnRate r' target = c.hookParams.maxNodeBurnRate := by
        unfold calculateTargetBurnRate
        dsimp only
        rw [if_neg (by omega), if_pos hge]
      rw [hr']
      exact (calculateTargetBurnRate_within h hmax r target).2

/-- The target depends on the bounds alone, beside the registrations. -/
theorem calculateTargetBurnRate_congr
    (hmin : c'.hookParams.minNodeBurnRate = c.hookParams.minNodeBurnRate)
    (hmax : c'.hookParams.maxNodeBurnRate = c.hookParams.maxNodeBurnRate) (r target : ℕ) :
    c'.calculateTargetBurnRate r target = c.calculateTargetBurnRate r target := by
  unfold calculateTargetBurnRate
  rw [hmin, hmax]

/-- What the burn rates of two chains are computed with, beside the last rate and the
registrations, is the same. -/
structure SameTerms (c c' : Chain A) (i : ℕ) : Prop where
  minRate : c'.hookParams.minNodeBurnRate = c.hookParams.minNodeBurnRate
  maxRate : c'.hookParams.maxNodeBurnRate = c.hookParams.maxNodeBurnRate
  alpha : c'.nodeBurnRateAlphaOf i = c.nodeBurnRateAlphaOf i
  target : c'.targetNodeRegistrationsOf i = c.targetNodeRegistrationsOf i

/-- More registrations do not lower the new rate. -/
theorem newBurnRate_mono (hterms : SameTerms c c' i)
    (h : c.hookParams.minNodeBurnRate ≤ c.hookParams.maxNodeBurnRate)
    (hmax : c.hookParams.maxNodeBurnRate ≤ percentageFactor)
    (halpha : c.nodeBurnRateAlphaOf i ≤ percentageFactor)
    (hregistrations : c.registry.nodeRegistrationsThisEpoch.val i ≤
      c'.registry.nodeRegistrationsThisEpoch.val i)
    (hprevious : c.currentNodeBurnRateOf i ≤ c'.currentNodeBurnRateOf i)
    (hbound : c'.currentNodeBurnRateOf i ≤ u128Max) : c.newBurnRate i ≤ c'.newBurnRate i := by
  have hfactor : percentageFactor ≤ u128Max := by decide
  have htarget : c.targetBurnRate i ≤ c'.targetBurnRate i := by
    unfold targetBurnRate
    rw [hterms.target, calculateTargetBurnRate_congr hterms.minRate hterms.maxRate]
    exact calculateTargetBurnRate_mono h hmax hregistrations _
  have htarget' : c'.targetBurnRate i ≤ u128Max := by
    unfold targetBurnRate
    rw [calculateTargetBurnRate_congr hterms.minRate hterms.maxRate]
    exact ((calculateTargetBurnRate_within h hmax _ _).2.trans hmax).trans hfactor
  have hblend : c.blendedBurnRate i ≤ c'.blendedBurnRate i := by
    unfold blendedBurnRate
    rw [hterms.alpha, u128_add, u128_add]
    refine min_le_min_right _ (Nat.add_le_add ?_ ?_)
    · exact percentMul_mono htarget le_rfl htarget' (halpha.trans hfactor)
    · exact percentMul_mono hprevious le_rfl hbound ((Nat.sub_le _ _).trans hfactor)
  rw [newBurnRate_eq, newBurnRate_eq, hterms.minRate, hterms.maxRate]
  exact min_le_min_right _ (max_le_max_right _ hblend)

/-- From a rate within the bounds the next one lies between it and the target, or one below. -/
theorem newBurnRate_between
    (h : c.hookParams.minNodeBurnRate ≤ c.hookParams.maxNodeBurnRate)
    (hmax : c.hookParams.maxNodeBurnRate ≤ percentageFactor)
    (halpha : c.nodeBurnRateAlphaOf i ≤ percentageFactor)
    (hlow : c.hookParams.minNodeBurnRate ≤ c.currentNodeBurnRateOf i)
    (hhigh : c.currentNodeBurnRateOf i ≤ c.hookParams.maxNodeBurnRate) :
    c.newBurnRate i ≤ max (c.currentNodeBurnRateOf i) (c.targetBurnRate i) ∧
      min (c.currentNodeBurnRateOf i) (c.targetBurnRate i) ≤ c.newBurnRate i + 1 := by
  have hfactor : percentageFactor ≤ u128Max := by decide
  obtain ⟨htlow, hthigh⟩ : c.hookParams.minNodeBurnRate ≤ c.targetBurnRate i ∧
      c.targetBurnRate i ≤ c.hookParams.maxNodeBurnRate :=
    calculateTargetBurnRate_within h hmax _ _
  have hsplit : c.nodeBurnRateAlphaOf i + (percentageFactor - c.nodeBurnRateAlphaOf i) =
      percentageFactor := by omega
  have hpos : 0 < percentageFactor := by decide
  -- nothing saturates, so the average is that of the exact quotients
  have hblend : c.blendedBurnRate i =
      c.targetBurnRate i * c.nodeBurnRateAlphaOf i / percentageFactor +
        c.currentNodeBurnRateOf i * (percentageFactor - c.nodeBurnRateAlphaOf i) /
          percentageFactor := by
    unfold blendedBurnRate
    rw [percentMul_eq (by omega) halpha, percentMul_eq (by omega) (Nat.sub_le _ _),
      u128_add, min_eq_left]
    exact (blend_le_max hpos hsplit).trans (by omega)
  have hupper := blend_le_max (t := c.targetBurnRate i) (p := c.currentNodeBurnRateOf i) hpos hsplit
  have hlower := min_le_blend (t := c.targetBurnRate i) (p := c.currentNodeBurnRateOf i) hpos hsplit
  rw [newBurnRate_eq, hblend]
  constructor <;> omega

end Chain

/-- With enough weight the epoch ends with the new rate, and the registrations are counted
anew. -/
theorem Hook.updateBurnRateForEpoch_chain {rt : Runtime A} {h : Hook A} {i : ℕ}
    (hweight : h.meter.canConsume (rt.readsWrites 9 2)) :
    (h.updateBurnRateForEpoch rt i).chain = { h.chain with registry := { h.chain.registry with
      currentNodeBurnRate := h.chain.registry.currentNodeBurnRate.set i (h.chain.newBurnRate i)
      nodeRegistrationsThisEpoch := h.chain.registry.nodeRegistrationsThisEpoch.set i 0 } } := by
  unfold Hook.updateBurnRateForEpoch
  rw [if_neg (not_not_intro hweight)]
  rfl

/-! ## All that writes a rate -/

/-- The burn rates and their bounds. -/
structure BurnRates where
  rates : StorageMap ℕ ℕ
  minRate : ℕ
  maxRate : ℕ

def Chain.burnRates (c : Chain A) : BurnRates where
  rates := c.registry.currentNodeBurnRate
  minRate := c.hookParams.minNodeBurnRate
  maxRate := c.hookParams.maxNodeBurnRate

namespace BurnRates

/-- A rate is removed with its subnet, or is the new one of an epoch. -/
inductive Step : BurnRates → BurnRates → Prop
  | remove (b : BurnRates) (i : ℕ) : Step b { b with rates := b.rates.remove i }
  | update (b : BurnRates) (i rate : ℕ) :
      Step b { b with rates := b.rates.set i (min (max rate b.minRate) b.maxRate) }

/-- Such writes, one after the other. -/
abbrev Steps : BurnRates → BurnRates → Prop := ReflTransGen Step

/-- Rates that are left alone have taken no step. -/
theorem Steps.of_eq {b b' : BurnRates} (h : b' = b) : Steps b b' := h ▸ .refl

/-- The bounds are as given, and the rate of a subnet, if it is stored, is within them. -/
structure Within (lo hi i : ℕ) (b : BurnRates) : Prop where
  minRate : b.minRate = lo
  maxRate : b.maxRate = hi
  stored : ∀ rate, b.rates.find? i = some rate → lo ≤ rate ∧ rate ≤ hi

variable {lo hi i : ℕ} {b b' : BurnRates}

/-- A step keeps a rate within its bounds. -/
theorem Step.within (hle : lo ≤ hi) (h : Step b b') (hb : b.Within lo hi i) :
    b'.Within lo hi i := by
  cases h with
  | remove j =>
      refine ⟨hb.minRate, hb.maxRate, ?_⟩
      intro rate hrate
      by_cases hj : i = j
      · subst hj
        rw [StorageMap.find?_remove_self] at hrate
        cases hrate
      · rw [StorageMap.find?_remove_ne _ hj] at hrate
        exact hb.stored rate hrate
  | update j x =>
      refine ⟨hb.minRate, hb.maxRate, ?_⟩
      intro rate hrate
      by_cases hj : i = j
      · subst hj
        rw [StorageMap.find?_set_self, hb.minRate, hb.maxRate] at hrate
        cases hrate
        constructor
        · exact le_min (le_max_right _ _) hle
        · exact min_le_right _ _
      · rw [StorageMap.find?_set_ne _ _ hj] at hrate
        exact hb.stored rate hrate

/-- So do several steps, by induction. -/
theorem Steps.within (hle : lo ≤ hi) (h : Steps b b') (hb : b.Within lo hi i) :
    b'.Within lo hi i := by
  induction h with
  | refl => exact hb
  | tail _ hlast ih => exact hlast.within hle ih

end BurnRates

/-! ## The hook -/

section Hook

variable {rt : Runtime A} {ar : Arith} {block : ℕ} {c c' : Chain A}

/-- A step that leaves the registry and the parameters leaves the rates. -/
theorem Chain.burnRates_eq (hregistry : c'.registry = c.registry)
    (hparams : c'.hookParams = c.hookParams) : c'.burnRates = c.burnRates := by
  unfold Chain.burnRates
  rw [hregistry, hparams]

/-- The removal of a subnet forgets its rate. -/
theorem Chain.doRemoveSubnet_burnRates (rt : Runtime A) (c : Chain A) (i : ℕ) :
    c.burnRates.Steps (c.doRemoveSubnet rt i).1.burnRates := by
  unfold Chain.doRemoveSubnet
  cases c.subnets.subnetsData.find? i with
  | none => exact .refl
  | some data =>
      refine .single ?_
      have hstep := BurnRates.Step.remove c.burnRates i
      dsimp only [Chain.cleanSubnetNodes, Registry.removeSubnet, Registry.freeSlotOfSubnet]
      cases c.registry.subnetSlot.find? i with
      | none => exact hstep
      | some slot => exact hstep

/-- Scores of overwatch nodes are no burn rates. -/
theorem Chain.scoreSubnets_burnRates (t : RevealTally) (e : ℕ) (w : Weight)
    (scores : StorageMap ℕ ℕ) (subnets : List (ℕ × StorageMap ℕ ℕ)) :
    (c.scoreSubnets rt t e w scores subnets).1.burnRates = c.burnRates := by
  induction subnets generalizing c w scores with
  | nil => rfl
  | cons s subnets ih =>
      unfold Chain.scoreSubnets
      rw [ih]
      rfl

/-- Payments to overwatch nodes set no burn rate. -/
theorem Chain.payOverwatchNodes_burnRates (t : RevealTally) (e total : ℕ) (w : Weight)
    (scores : List (ℕ × ℕ)) :
    (c.payOverwatchNodes rt ar t e total w scores).1.burnRates = c.burnRates := by
  induction scores generalizing c w with
  | nil => rfl
  | cons s scores ih =>
      unfold Chain.payOverwatchNodes
      rw [ih]
      unfold Chain.payOverwatchNode
      split
      · rfl
      · dsimp only
        split <;> rfl

/-- The block of the overwatch rewards sets none. -/
theorem Chain.calculateOverwatchRewards_burnRates {r : Chain A × Weight}
    (h : c.calculateOverwatchRewards rt ar = some r) : r.1.burnRates = c.burnRates := by
  unfold Chain.calculateOverwatchRewards at h
  simp only [Option.bind_eq_bind, Option.bind_eq_some_iff] at h
  rcases h with ⟨e, _, h⟩
  split at h
  · cases h
    exact scoreSubnets_burnRates ..
  · cases h
    rw [payOverwatchNodes_burnRates, scoreSubnets_burnRates]

/-- The update takes a step for the subnet of the epoch. -/
theorem Hook.updateBurnRateForEpoch_burnRates (h : Hook A) (i : ℕ) :
    h.chain.burnRates.Steps (h.updateBurnRateForEpoch rt i).chain.burnRates := by
  by_cases hweight : h.meter.canConsume (rt.readsWrites 9 2)
  · rw [updateBurnRateForEpoch_chain hweight]
    exact .single (.update h.chain.burnRates i (h.chain.blendedBurnRate i))
  · unfold updateBurnRateForEpoch
    rw [if_pos hweight]

/-- The queue of a subnet sets none. -/
theorem Hook.processQueue_burnRates (h : Hook A) (i e : ℕ) :
    (h.processQueue rt i e).chain.burnRates = h.chain.burnRates := by
  obtain ⟨a, _, _, hchain⟩ := processQueue_eq rt i e h
  rw [hchain]
  split
  · rfl
  · rfl

/-- An election sets none. -/
theorem Chain.electValidator_burnRates (rt : Runtime A) (c : Chain A) (i e b : ℕ) :
    (c.electValidator rt i e b).burnRates = c.burnRates := by
  have hparams := electValidator_hookParams rt c i e b
  unfold Chain.burnRates
  rw [hparams]
  rcases electValidator_cases rt c i e b with ⟨hreg, _⟩ | ⟨_, _, _, hreg⟩
  · rw [hreg]
  · rw [hreg]

variable [DecidableEq A]

/-- The block of the weights sets none. -/
theorem Chain.handleSubnetEmissionWeights_burnRates {epoch : ℕ} {r : Chain A × Weight}
    (h : c.handleSubnetEmissionWeights rt epoch = some r) : r.1.burnRates = c.burnRates := by
  unfold Chain.handleSubnetEmissionWeights Chain.calculateSubnetWeights at h
  simp only [Option.bind_eq_bind, Option.bind_eq_some_iff] at h
  rcases h with ⟨⟨c₁, weights, w₁⟩, ⟨e, _, hc₁⟩, h⟩
  cases hc₁
  dsimp only at h
  split at h
  · cases h
    rfl
  · cases h
    rfl

/-- An effect of the hook removes rates or updates one. -/
theorem HookEffect.burnRates (h : HookEffect rt ar block c c') :
    c.burnRates.Steps c'.burnRates := by
  cases h with
  | removeSubnet c i => exact Chain.doRemoveSubnet_burnRates rt c i
  | reputation c i rep => exact .refl
  | overwatch h => exact .of_eq (Chain.calculateOverwatchRewards_burnRates h)
  | weigh epoch h => exact .of_eq (Chain.handleSubnetEmissionWeights_burnRates h)
  | settle h i epoch subnetEpoch emissions weight hc =>
      subst hc
      exact .of_eq (Chain.burnRates_eq (Hook.settleEpoch_frame ..).1
        (Hook.settleEpoch_hookParams ..))
  | elect c i subnetEpoch => exact .of_eq (Chain.electValidator_burnRates ..)
  | queue h i subnetEpoch hc =>
      subst hc
      exact .of_eq (Hook.processQueue_burnRates ..)
  | burnRate h i => exact Hook.updateBurnRateForEpoch_burnRates h i
  | swaps h => exact .refl

/-- So does a block. -/
theorem Chain.nextBlock_burnRates (rt : Runtime A) (c : Chain A) :
    c.burnRates.Steps (c.nextBlock rt).burnRates := by
  unfold Chain.nextBlock
  split
  · cases hhook : (c.atBlock (c.block + 1)).onInitialize rt u128 (c.block + 1) with
    | none => exact .refl
    | some c' =>
        have hkeep : c.burnRates.Steps c'.burnRates :=
          Chain.onInitialize_invariant (I := fun c' => c.burnRates.Steps c'.burnRates)
            (fun heffect hc => hc.trans heffect.burnRates) hhook .refl
        exact hkeep
  · exact .refl

end Hook

/-! ## The calls -/

namespace Chain

/-- `owner_update_node_burn_rate_alpha`. -/
def ownerUpdateNodeBurnRateAlpha [DecidableEq A] (c : Chain A) (coldkey : A)
    (subnetId value : ℕ) : Except Error (Chain A) := do
  c.isPaused
  ensure (c.isSubnetOwner coldkey subnetId) .notSubnetOwner
  ensure (decide (value ≤ percentageFactor)) .invalidPercent
  .ok { c with registry := { c.registry with
    nodeBurnRateAlpha := c.registry.nodeBurnRateAlpha.set subnetId value } }

/-- `do_set_base_node_burn_amount`. -/
def setBaseNodeBurnAmount (c : Chain A) (value : ℕ) : Chain A :=
  { c with callParams := { c.callParams with baseNodeBurnAmount := value } }

/-- What a call that is none of those of `BurnOp` leaves of `c`, whatever it does. -/
def keepBurnRates (c c' : Chain A) : Chain A :=
  { c' with
    hookParams := { c'.hookParams with
      minNodeBurnRate := c.hookParams.minNodeBurnRate
      maxNodeBurnRate := c.hookParams.maxNodeBurnRate }
    registry := { c'.registry with currentNodeBurnRate := c.registry.currentNodeBurnRate } }

variable {rt : Runtime A} {c c' : Chain A} {i : ℕ}

/-- A node that becomes active is counted elsewhere. -/
theorem performActivateSubnetNode_burnRates {v e : ℕ} {st : SubnetState} {node : SubnetNode}
    (h : c.performActivateSubnetNode rt v i st node e = .ok c') : c'.burnRates = c.burnRates := by
  simp only [performActivateSubnetNode, ensure_bind_ok, Except.ok.injEq] at h
  obtain ⟨_, _, rfl⟩ := h
  unfold Hook.doActivateSubnetNode
  split
  · rfl
  · split
    · rfl
    · split
      · rfl
      · rfl

variable [DecidableEq A]

/-- A registration is counted, and the rate waits for the end of the epoch. -/
theorem registerSubnetNode_burnRates {ar : Arith} {coldkey : A} {r : SubnetNodeRegistration A}
    (h : c.registerSubnetNode rt ar coldkey r = .ok c') : c'.burnRates = c.burnRates := by
  simp only [registerSubnetNode, bind_ok, Except.ok.injEq] at h
  obtain ⟨_, _, _, _, _, _, _, _, _, _, _, _, _, _, _, _, _, _, _, _, _, _, c₁, hpaid, c₄,
    hplace, rfl⟩ := h
  obtain ⟨_, hparams, hregistry⟩ := withdrawForRegistration_rolls hpaid
  have hfinish : (r.finish c₄ (c.nextSubnetNodeId r.subnetId)).burnRates = c₄.burnRates := rfl
  -- what is entered about the node is no rate
  generalize hc₃ : ({ r.enter ar c₁ (c.nextSubnetNodeId r.subnetId) with
    toState := (r.enter ar c₁ (c.nextSubnetNodeId r.subnetId)).toState.setLastTxBlock coldkey
      c.block } : Chain A) = c₃ at hplace
  have henter : c₃.burnRates = c₁.burnRates := by
    rw [← hc₃]
    rfl
  have hcount : (r.countInitial c₃).burnRates = c₃.burnRates := rfl
  rw [hfinish, ← burnRates_eq hregistry hparams, ← henter]
  unfold placeNode at hplace
  split at hplace
  · rw [performActivateSubnetNode_burnRates hplace, hcount]
  · cases hplace
    rfl

end Chain

/-! ## The machine -/

/-- What can happen to the burn rates between two changes of their bounds. -/
inductive BurnOp (A : Type) where
  | registerSubnetNode (coldkey : A) (r : SubnetNodeRegistration A)
  | ownerUpdateNodeBurnRateAlpha (coldkey : A) (subnetId value : ℕ)
  | setBaseNodeBurnAmount (value : ℕ)
  | ownerDeactivateSubnet (coldkey : A) (subnetId : ℕ)
  | collectiveRemoveSubnet (subnetId : ℕ)
  /-- Any other call. It may write all storage but the rates and their bounds. -/
  | other (c : Chain A)
  /-- The next block begins. -/
  | nextBlock

namespace BurnOp

variable [DecidableEq A] (rt : Runtime A)

/-- The chain after a label. A call that fails changes nothing. -/
def step (c : Chain A) : BurnOp A → Chain A
  | registerSubnetNode coldkey r => commit c (c.registerSubnetNode rt u128 coldkey r)
  | ownerUpdateNodeBurnRateAlpha coldkey subnetId value =>
      commit c (c.ownerUpdateNodeBurnRateAlpha coldkey subnetId value)
  | setBaseNodeBurnAmount value => c.setBaseNodeBurnAmount value
  | ownerDeactivateSubnet coldkey subnetId =>
      commit c (c.ownerDeactivateSubnet rt coldkey subnetId)
  | collectiveRemoveSubnet subnetId => (c.doRemoveSubnet rt subnetId).1
  | other c' => c.keepBurnRates c'
  | nextBlock => c.nextBlock rt

variable {rt}

/-- A label removes rates or updates some. -/
theorem step_burnRates (c : Chain A) (op : BurnOp A) :
    c.burnRates.Steps (op.step rt c).burnRates := by
  cases op with
  | registerSubnetNode coldkey r =>
      refine commit_induction (P := fun c' : Chain A => c.burnRates.Steps c'.burnRates) .refl ?_
      intro c' h
      exact .of_eq (Chain.registerSubnetNode_burnRates h)
  | ownerUpdateNodeBurnRateAlpha coldkey subnetId value =>
      refine commit_induction (P := fun c' : Chain A => c.burnRates.Steps c'.burnRates) .refl ?_
      intro c' h
      simp only [Chain.ownerUpdateNodeBurnRateAlpha, bind_ok, Except.ok.injEq] at h
      obtain ⟨_, _, _, _, _, _, rfl⟩ := h
      exact .refl
  | setBaseNodeBurnAmount value => exact .refl
  | ownerDeactivateSubnet coldkey subnetId =>
      refine commit_induction (P := fun c' : Chain A => c.burnRates.Steps c'.burnRates) .refl ?_
      intro c' h
      simp only [Chain.ownerDeactivateSubnet, bind_ok, Except.ok.injEq] at h
      obtain ⟨_, _, _, _, _, _, rfl⟩ := h
      exact Chain.doRemoveSubnet_burnRates rt c subnetId
  | collectiveRemoveSubnet subnetId => exact Chain.doRemoveSubnet_burnRates rt c subnetId
  | other c' => exact .refl
  | nextBlock => exact Chain.nextBlock_burnRates rt c

/-- In every run the rates take such steps only. -/
theorem run_burnRates (c : Chain A) (ops : List (BurnOp A)) :
    c.burnRates.Steps (run (step rt) c ops).burnRates := by
  induction ops generalizing c with
  | nil => exact .refl
  | cons op ops ih => exact (step_burnRates c op).trans (ih _)

end BurnOp

/-- The rate that an epoch ends with is within the bounds. -/
theorem Hook.updateBurnRateForEpoch_within {rt : Runtime A} {h : Hook A} {i : ℕ}
    (hweight : h.meter.canConsume (rt.readsWrites 9 2))
    (hrates : h.chain.hookParams.minNodeBurnRate ≤ h.chain.hookParams.maxNodeBurnRate) :
    (h.updateBurnRateForEpoch rt i).chain.burnRates.Within h.chain.hookParams.minNodeBurnRate
      h.chain.hookParams.maxNodeBurnRate i := by
  rw [updateBurnRateForEpoch_chain hweight]
  refine ⟨rfl, rfl, ?_⟩
  intro rate hrate
  have hset : (h.chain.registry.currentNodeBurnRate.set i (h.chain.newBurnRate i)).find? i =
      some rate := hrate
  rw [StorageMap.find?_set_self] at hset
  cases hset
  exact Chain.newBurnRate_within hrates

/-- While a rate within the bounds is stored, so is the share of the base amount that is
burned. -/
theorem Chain.calculateBurnAmount_within {c : Chain A} {lo hi i : ℕ}
    (hwithin : c.burnRates.Within lo hi i) (hhi : hi ≤ percentageFactor)
    (hstored : c.registry.currentNodeBurnRate.contains i = true)
    (hbase : c.callParams.baseNodeBurnAmount ≤ u128Max) :
    percentMul c.callParams.baseNodeBurnAmount lo ≤ c.calculateBurnAmount i ∧
      c.calculateBurnAmount i ≤ percentMul c.callParams.baseNodeBurnAmount hi := by
  have hfactor : percentageFactor ≤ u128Max := by decide
  rcases Option.isSome_iff_exists.mp hstored with ⟨rate, hrate⟩
  obtain ⟨hlow, hhigh⟩ := hwithin.stored rate hrate
  unfold calculateBurnAmount StorageMap.getD
  rw [hrate, Option.getD_some]
  constructor
  · exact percentMul_mono le_rfl hlow hbase (by omega)
  · exact percentMul_mono le_rfl hhigh hbase (by omega)

/-- With enough weight an epoch of a subnet ends with a rate within the bounds and counts the
registrations anew. The rate does not fall with more registrations or a higher last rate, and from
a rate within the bounds it moves towards the target, or to one below. From then on, whatever
happens and whatever blocks pass, the burned share of the base amount stays between those of the
bounds until the subnet is removed. -/
theorem burn_rate_follows_demand [DecidableEq A] (rt : Runtime A) (h : Hook A) (i : ℕ)
    (hweight : h.meter.canConsume (rt.readsWrites 9 2))
    (hrates : h.chain.hookParams.minNodeBurnRate < h.chain.hookParams.maxNodeBurnRate)
    (hmax : h.chain.hookParams.maxNodeBurnRate ≤ percentageFactor)
    (halpha : h.chain.nodeBurnRateAlphaOf i ≤ percentageFactor) :
    (h.chain.hookParams.minNodeBurnRate ≤
        (h.updateBurnRateForEpoch rt i).chain.currentNodeBurnRateOf i ∧
      (h.updateBurnRateForEpoch rt i).chain.currentNodeBurnRateOf i ≤
        h.chain.hookParams.maxNodeBurnRate) ∧
    (h.updateBurnRateForEpoch rt i).chain.registry.nodeRegistrationsThisEpoch.val i = 0 ∧
    (∀ h' : Hook A, h'.meter.canConsume (rt.readsWrites 9 2) → h.chain.SameTerms h'.chain i →
      h.chain.registry.nodeRegistrationsThisEpoch.val i ≤
        h'.chain.registry.nodeRegistrationsThisEpoch.val i →
      h.chain.currentNodeBurnRateOf i ≤ h'.chain.currentNodeBurnRateOf i →
      h'.chain.currentNodeBurnRateOf i ≤ u128Max →
      (h.updateBurnRateForEpoch rt i).chain.currentNodeBurnRateOf i ≤
        (h'.updateBurnRateForEpoch rt i).chain.currentNodeBurnRateOf i) ∧
    (h.chain.hookParams.minNodeBurnRate ≤ h.chain.currentNodeBurnRateOf i →
      h.chain.currentNodeBurnRateOf i ≤ h.chain.hookParams.maxNodeBurnRate →
      (h.updateBurnRateForEpoch rt i).chain.currentNodeBurnRateOf i ≤
        max (h.chain.currentNodeBurnRateOf i) (h.chain.targetBurnRate i) ∧
      min (h.chain.currentNodeBurnRateOf i) (h.chain.targetBurnRate i) ≤
        (h.updateBurnRateForEpoch rt i).chain.currentNodeBurnRateOf i + 1) ∧
    ∀ (ops : List (BurnOp A)) (c' : Chain A),
      c' = run (BurnOp.step rt) (h.updateBurnRateForEpoch rt i).chain ops →
      c'.registry.currentNodeBurnRate.contains i = true →
      c'.callParams.baseNodeBurnAmount ≤ u128Max →
      percentMul c'.callParams.baseNodeBurnAmount h.chain.hookParams.minNodeBurnRate ≤
          c'.calculateBurnAmount i ∧
        c'.calculateBurnAmount i ≤
          percentMul c'.callParams.baseNodeBurnAmount h.chain.hookParams.maxNodeBurnRate := by
  -- with enough weight the rate after the update is the new one
  have hnew : ∀ g : Hook A, g.meter.canConsume (rt.readsWrites 9 2) →
      (g.updateBurnRateForEpoch rt i).chain.currentNodeBurnRateOf i = g.chain.newBurnRate i := by
    intro g hg
    rw [Hook.updateBurnRateForEpoch_chain hg]
    unfold Chain.currentNodeBurnRateOf StorageMap.getD
    rw [StorageMap.find?_set_self, Option.getD_some]
  rw [hnew h hweight]
  refine ⟨Chain.newBurnRate_within hrates.le, ?_, ?_, ?_, ?_⟩
  · rw [Hook.updateBurnRateForEpoch_chain hweight]
    exact StorageMap.val_set_self ..
  · intro h' hweight' hterms hregistrations hprevious hbound
    rw [hnew h' hweight']
    exact Chain.newBurnRate_mono hterms hrates.le hmax halpha hregistrations hprevious hbound
  · intro hlow hhigh
    exact Chain.newBurnRate_between hrates.le hmax halpha hlow hhigh
  · rintro ops c' rfl hstored hbase
    -- nothing later but another update writes the rate, and that one keeps the bounds
    have hsteps : (h.updateBurnRateForEpoch rt i).chain.burnRates.Steps
        (run (BurnOp.step rt) (h.updateBurnRateForEpoch rt i).chain ops).burnRates :=
      BurnOp.run_burnRates _ ops
    have hwithin := hsteps.within hrates.le
      (Hook.updateBurnRateForEpoch_within (i := i) hweight hrates.le)
    exact Chain.calculateBurnAmount_within hwithin hmax hstored hbase

/-- A hook with bounds of a half and a whole. -/
def demoBurnHook : Hook ℕ where
  chain := { Chain.genesis Runtime.runtime ∅ with
    hookParams := { HookParams.genesis 5256 with
      minNodeBurnRate := 500000000000000000
      maxNodeBurnRate := 1000000000000000000 } }
  meter := .unlimited
  removals := []

/-- An epoch without registrations halves the distance to the least rate. -/
theorem burn_rate_follows_demand_idle :
    (demoBurnHook.updateBurnRateForEpoch Runtime.runtime 1).chain.currentNodeBurnRateOf 1 =
        750000000000000000 ∧
      (demoBurnHook.updateBurnRateForEpoch Runtime.runtime 1).chain.currentNodeBurnRateOf 1 ≤
        max 1000000000000000000 500000000000000000 := by
  have h := burn_rate_follows_demand Runtime.runtime demoBurnHook 1 (by decide) (by decide)
    (by decide) (by decide)
  exact ⟨by decide, (h.2.2.2.1 (by decide) (by decide)).1⟩

end Hypertensor
