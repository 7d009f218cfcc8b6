import Mathlib
import Hypertensor.Percentages
import Hypertensor.Base.Saturate
import Hypertensor.Epoch.Divisors

/-!
# Hypertensor.Epoch.NetFlow — whose flows count

The weights of an epoch are the shares of the net flows above the smallest one. They keep the
order of the flows, and are at most the whole as long as the flows above the smallest add up to a
`u128`. Which subnets are weighed is decided by a filter that leaves a subnet out only if it is
not active and, at once, has not started: a paused subnet that has started passes it, and then its
flow moves the weights of the others (`fair_net_flow_iff`).
-/

namespace Hypertensor

open Base

/-! ## The subnets that are weighed -/

/-- The filter of `get_net_flow_weights`. -/
def SubnetData.isLeftOut (d : SubnetData) (epoch : ℕ) : Bool :=
  decide (d.startEpoch > epoch) && decide (d.state ≠ .active)

section Inflows

variable {flows flows' : StorageMap ℕ ℤ} {epoch : ℕ} {subnets : List (ℕ × SubnetData)}

theorem inflows_eq : inflows flows epoch subnets =
    (subnets.filter fun e => !e.2.isLeftOut epoch).map fun e => (e.1, flows.getD e.1 0) := by
  unfold inflows
  induction subnets with
  | nil => rfl
  | cons e subnets ih =>
      by_cases hout : e.2.startEpoch > epoch ∧ e.2.state ≠ .active
      · have hkeep : (!e.2.isLeftOut epoch) = false := by simp [SubnetData.isLeftOut, hout]
        rw [List.filterMap_cons_none (by rw [if_pos hout]), List.filter_cons, if_neg (by simp [hkeep]), ih]
      · have hkeep : (!e.2.isLeftOut epoch) = true := by
          simp only [SubnetData.isLeftOut, Bool.not_eq_true', Bool.and_eq_false_iff,
            decide_eq_false_iff_not]
          exact Decidable.not_and_iff_not_or_not.mp hout
        rw [List.filterMap_cons_some (by rw [if_neg hout]), List.filter_cons, if_pos hkeep,
          List.map_cons, ih]

theorem nodup_inflows (h : (subnets.map Prod.fst).Nodup) :
    ((inflows flows epoch subnets).map Prod.fst).Nodup := by
  rw [inflows_eq, List.map_map]
  exact h.sublist (List.filter_sublist.map Prod.fst)

/-- A subnet that is listed is weighed unless it is left out. -/
theorem mem_inflows {e : ℕ × SubnetData} (he : e ∈ subnets) (hkeep : e.2.isLeftOut epoch = false) :
    (e.1, flows.getD e.1 0) ∈ inflows flows epoch subnets := by
  rw [inflows_eq]
  refine List.mem_map.mpr ⟨e, List.mem_filter.mpr ⟨he, ?_⟩, rfl⟩
  rw [hkeep]
  rfl

/-- One that is left out is not weighed. -/
theorem notMem_inflows (h : (subnets.map Prod.fst).Nodup) {e : ℕ × SubnetData} (he : e ∈ subnets)
    (hout : e.2.isLeftOut epoch = true) : e.1 ∉ (inflows flows epoch subnets).map Prod.fst := by
  rw [inflows_eq, List.map_map]
  intro hmem
  rcases List.mem_map.mp hmem with ⟨e', he', heq⟩
  rw [List.mem_filter] at he'
  -- the ids differ, so it is the same entry
  have hsame : e' = e := List.inj_on_of_nodup_map h he'.1 he heq
  rw [hsame, hout] at he'
  cases he'.2

/-- Only the flows of the subnets that are weighed matter. -/
theorem inflows_congr (h : ∀ e ∈ subnets, e.2.isLeftOut epoch = false →
    flows'.getD e.1 0 = flows.getD e.1 0) :
    inflows flows' epoch subnets = inflows flows epoch subnets := by
  rw [inflows_eq, inflows_eq]
  apply List.map_congr_left
  intro e he
  rw [List.mem_filter, Bool.not_eq_true'] at he
  rw [h e he.1 he.2]

end Inflows

/-! ## The shares -/

section Shares

variable {xs : List (ℕ × ℤ)}

/-- The smallest net flow. -/
def minInflow (xs : List (ℕ × ℤ)) : ℤ := (xs.map Prod.snd).min?.getD 0

/-- What the net flows above the smallest add up to. -/
def shiftedInflowSum (xs : List (ℕ × ℤ)) : ℕ :=
  (xs.map fun e => shiftedInflow (minInflow xs) e.2).sum

/-- The weight of a net flow. The sum it is divided by saturates. -/
def inflowShare (xs : List (ℕ × ℤ)) (flow : ℤ) : ℕ :=
  percentDiv (shiftedInflow (minInflow xs) flow) (min (shiftedInflowSum xs) u128Max)

theorem shiftedInflow_mono (min : ℤ) {v v' : ℤ} (h : v ≤ v') :
    shiftedInflow min v ≤ shiftedInflow min v' := by
  unfold shiftedInflow clampSigned
  omega

theorem shiftedInflow_le (min v : ℤ) : shiftedInflow min v ≤ u128Max := by
  unfold shiftedInflow clampSigned u128Max uMax
  omega

theorem inflowShare_mono {v v' : ℤ} (h : v ≤ v') : inflowShare xs v ≤ inflowShare xs v' :=
  percentDiv_mono (shiftedInflow_mono _ h)

theorem inflowWeights_eq : inflowWeights xs =
    xs.foldl (fun weights e => weights.set e.1 (inflowShare xs e.2)) ∅ := by
  have hsum : ((xs.map fun e => (e.1, shiftedInflow (minInflow xs) e.2)).map Prod.snd).foldl
      u128.add 0 = min (shiftedInflowSum xs) u128Max := by
    rw [List.map_map]
    exact (foldl_add_saturating _ (Nat.zero_le u128Max)).trans
      (congrArg (fun n => min n u128Max) (Nat.zero_add _))
  have hshare : ∀ v : ℕ, (if min (shiftedInflowSum xs) u128Max = 0 then 0
      else percentDiv v (min (shiftedInflowSum xs) u128Max)) =
      percentDiv v (min (shiftedInflowSum xs) u128Max) := by
    intro v
    split
    · next hzero =>
        unfold percentDiv
        rw [dif_pos (Or.inr hzero)]
    · rfl
  unfold inflowWeights
  dsimp only
  rw [show (xs.map Prod.snd).min?.getD 0 = minInflow xs from rfl, hsum, List.foldl_map]
  simp only [hshare]
  rfl

theorem find?_inflowWeights (hnodup : (xs.map Prod.fst).Nodup) {e : ℕ × ℤ} (he : e ∈ xs) :
    (inflowWeights xs).find? e.1 = some (inflowShare xs e.2) := by
  rw [inflowWeights_eq]
  exact StorageMap.find?_foldl_set_of_mem Prod.fst (fun e => inflowShare xs e.2) ∅ hnodup he

theorem find?_inflowWeights_of_notMem {i : ℕ} (h : i ∉ xs.map Prod.fst) :
    (inflowWeights xs).find? i = none := by
  rw [inflowWeights_eq, StorageMap.find?_foldl_set_of_notMem Prod.fst (fun e => inflowShare xs e.2) ∅ h]
  exact StorageMap.find?_empty i

theorem sum_inflowWeights (hnodup : (xs.map Prod.fst).Nodup) :
    (inflowWeights xs).sum = (xs.map fun e => inflowShare xs e.2).sum := by
  rw [inflowWeights_eq, StorageMap.sum_foldl_set Prod.fst (fun e => inflowShare xs e.2) ∅ hnodup
    fun e _ => StorageMap.val_empty e.1]
  unfold StorageMap.sum
  rw [StorageMap.total_empty, Nat.zero_add]

/-- Shares of a sum that is a `u128` are at most the whole. -/
theorem sum_inflowShare_le (hfits : shiftedInflowSum xs ≤ u128Max) :
    (xs.map fun e => inflowShare xs e.2).sum ≤ percentageFactor := by
  have hsum := sum_percentDiv_le (xs.map fun e => shiftedInflow (minInflow xs) e.2)
  rw [List.map_map] at hsum
  unfold inflowShare
  rw [min_eq_left hfits]
  exact hsum

/-- Shares of a larger sum, which is cut off, come to more than the whole, but for what is lost in
rounding. -/
theorem lt_sum_inflowShare
    (hover : u128Max * (percentageFactor + xs.length) < shiftedInflowSum xs * percentageFactor) :
    percentageFactor < (xs.map fun e => inflowShare xs e.2).sum := by
  have hle : u128Max ≤ shiftedInflowSum xs := by
    by_contra hlt
    have hmul : shiftedInflowSum xs * percentageFactor ≤ u128Max * percentageFactor :=
      Nat.mul_le_mul_right _ (Nat.le_of_not_le hlt)
    have hmul' : u128Max * percentageFactor ≤ u128Max * (percentageFactor + xs.length) :=
      Nat.mul_le_mul_left _ (Nat.le_add_right _ _)
    omega
  have hpos : 0 < u128Max := by decide
  -- a share is the quotient by the saturated sum, less than one unit below
  have hshare : ∀ v : ℤ, shiftedInflow (minInflow xs) v * percentageFactor ≤
      u128Max * (inflowShare xs v + 1) := by
    intro v
    have hquot : shiftedInflow (minInflow xs) v * percentageFactor / u128Max ≤ percentageFactor :=
      Nat.div_le_of_le_mul (Nat.mul_le_mul_right _ (shiftedInflow_le _ v))
    have hfactor : percentageFactor ≤ u128Max := by decide
    unfold inflowShare
    rw [min_eq_right hle, percentDiv_eq_min hpos, min_eq_left (hquot.trans hfactor)]
    exact (Nat.lt_mul_div_succ _ hpos).le
  have hsum : ∀ ys : List (ℕ × ℤ),
      (ys.map fun e => shiftedInflow (minInflow xs) e.2).sum * percentageFactor ≤
        u128Max * ((ys.map fun e => inflowShare xs e.2).sum + ys.length) := by
    intro ys
    induction ys with
    | nil => simp only [List.map_nil, List.sum_nil, Nat.zero_mul, Nat.zero_le]
    | cons y ys ih =>
        have hhead := hshare y.2
        simp only [List.map_cons, List.sum_cons, List.length_cons]
        nlinarith
  have hlt := Nat.lt_of_mul_lt_mul_left (hover.trans_le (hsum xs))
  omega

end Shares

/-! ## The weights -/

namespace Chain

variable {A : Type} (rt : Runtime A)

/-- The weights that `get_net_flow_weights` returns. -/
def netFlowWeights (c : Chain A) (subnets : List (ℕ × SubnetData)) (epoch : ℕ) :
    StorageMap ℕ ℕ :=
  (c.getNetFlowWeights rt subnets epoch).2.1

/-- The chain with another net flow of one subnet. -/
def setNetFlow (c : Chain A) (subnetId : ℕ) (flow : ℤ) : Chain A :=
  { c with subnets := { c.subnets with
    subnetNetFlow := c.subnets.subnetNetFlow.set subnetId flow } }

/-- What the weights are for: those of the live subnets say how their flows compare, and no other
subnet has a part in them. -/
structure FairNetFlow (c : Chain A) (subnets : List (ℕ × SubnetData)) (epoch : ℕ) : Prop where
  total : (c.netFlowWeights rt subnets epoch).sum ≤ percentageFactor
  ordered : ∀ e ∈ subnets, ∀ e' ∈ subnets, ∀ w w',
    (c.netFlowWeights rt subnets epoch).find? e.1 = some w →
    (c.netFlowWeights rt subnets epoch).find? e'.1 = some w' →
    c.subnets.subnetNetFlow.getD e.1 0 ≤ c.subnets.subnetNetFlow.getD e'.1 0 → w ≤ w'
  onlyLive : ∀ e ∈ subnets, e.2.isActiveAndLive epoch = false →
    (c.netFlowWeights rt subnets epoch).find? e.1 = none
  isolated : ∀ e ∈ subnets, e.2.isActiveAndLive epoch = false → ∀ (flow : ℤ) (j : ℕ), j ≠ e.1 →
    ((c.setNetFlow e.1 flow).netFlowWeights rt subnets epoch).find? j =
      (c.netFlowWeights rt subnets epoch).find? j
  taken : ∀ e ∈ subnets,
    (c.getNetFlowWeights rt subnets epoch).1.subnets.subnetNetFlow.getD e.1 0 = 0

variable {rt} {c : Chain A} {subnets : List (ℕ × SubnetData)} {epoch : ℕ}

/-- The net flows of the subnets that are weighed. -/
theorem netFlowWeights_eq : c.netFlowWeights rt subnets epoch =
    inflowWeights (inflows c.subnets.subnetNetFlow epoch subnets) := rfl

/-- A listed subnet has a weight exactly when the filter lets it through. -/
theorem find?_netFlowWeights (hnodup : (subnets.map Prod.fst).Nodup) {e : ℕ × SubnetData}
    (he : e ∈ subnets) : (c.netFlowWeights rt subnets epoch).find? e.1 =
      if e.2.isLeftOut epoch then none
      else some (inflowShare (inflows c.subnets.subnetNetFlow epoch subnets)
        (c.subnets.subnetNetFlow.getD e.1 0)) := by
  rw [netFlowWeights_eq]
  split
  · next hout => exact find?_inflowWeights_of_notMem (notMem_inflows hnodup he hout)
  · next hkeep =>
      exact find?_inflowWeights (nodup_inflows hnodup) (mem_inflows he (Bool.not_eq_true _ ▸ hkeep))

theorem netFlowWeights_ordered (hnodup : (subnets.map Prod.fst).Nodup) {e e' : ℕ × SubnetData}
    (he : e ∈ subnets) (he' : e' ∈ subnets) {w w' : ℕ}
    (hw : (c.netFlowWeights rt subnets epoch).find? e.1 = some w)
    (hw' : (c.netFlowWeights rt subnets epoch).find? e'.1 = some w')
    (hle : c.subnets.subnetNetFlow.getD e.1 0 ≤ c.subnets.subnetNetFlow.getD e'.1 0) :
    w ≤ w' := by
  rw [find?_netFlowWeights hnodup he] at hw
  rw [find?_netFlowWeights hnodup he'] at hw'
  split at hw
  · cases hw
  · split at hw'
    · cases hw'
    · cases hw
      cases hw'
      exact inflowShare_mono hle

/-- The flows of all listed subnets are taken. -/
theorem getNetFlowWeights_taken {e : ℕ × SubnetData} (he : e ∈ subnets) :
    (c.getNetFlowWeights rt subnets epoch).1.subnets.subnetNetFlow.getD e.1 0 = 0 := by
  have hfind := StorageMap.find?_foldl_remove c.subnets.subnetNetFlow (subnets.map Prod.fst) e.1
  rw [List.foldl_map, if_pos (List.mem_map_of_mem he)] at hfind
  unfold StorageMap.getD
  dsimp only [getNetFlowWeights]
  rw [hfind]
  rfl

/-- The flow of a subnet that is left out does not matter. -/
theorem netFlowWeights_setNetFlow (hnodup : (subnets.map Prod.fst).Nodup) {e : ℕ × SubnetData}
    (he : e ∈ subnets) (hout : e.2.isLeftOut epoch = true) (flow : ℤ) :
    (c.setNetFlow e.1 flow).netFlowWeights rt subnets epoch =
      c.netFlowWeights rt subnets epoch := by
  rw [netFlowWeights_eq, netFlowWeights_eq]
  refine congrArg inflowWeights (inflows_congr ?_)
  intro e' he' hkeep
  have hne : e'.1 ≠ e.1 := by
    intro heq
    have hsame : e' = e := List.inj_on_of_nodup_map hnodup he' he heq
    rw [hsame, hout] at hkeep
    cases hkeep
  unfold StorageMap.getD setNetFlow
  rw [StorageMap.find?_set_ne _ _ hne]

/-- For every list of subnets with distinct ids: the order of the weights is that of the flows,
and the flows are taken. As long as the flows above the smallest add up to a `u128`, the weights
are what they are for exactly when the filter leaves out every listed subnet that is not live.
Where they add up to more, the weights come to more than the whole. -/
theorem fair_net_flow_iff (rt : Runtime A) (c : Chain A) (subnets : List (ℕ × SubnetData))
    (epoch : ℕ) (hnodup : (subnets.map Prod.fst).Nodup) :
    (∀ e ∈ subnets, ∀ e' ∈ subnets, ∀ w w',
      (c.netFlowWeights rt subnets epoch).find? e.1 = some w →
      (c.netFlowWeights rt subnets epoch).find? e'.1 = some w' →
      c.subnets.subnetNetFlow.getD e.1 0 ≤ c.subnets.subnetNetFlow.getD e'.1 0 → w ≤ w') ∧
    (∀ e ∈ subnets,
      (c.getNetFlowWeights rt subnets epoch).1.subnets.subnetNetFlow.getD e.1 0 = 0) ∧
    (shiftedInflowSum (inflows c.subnets.subnetNetFlow epoch subnets) ≤ u128Max →
      (c.FairNetFlow rt subnets epoch ↔
        ∀ e ∈ subnets, e.2.isActiveAndLive epoch = false →
          e.2.startEpoch > epoch ∧ e.2.state ≠ .active)) ∧
    (u128Max * (percentageFactor + (inflows c.subnets.subnetNetFlow epoch subnets).length) <
        shiftedInflowSum (inflows c.subnets.subnetNetFlow epoch subnets) * percentageFactor →
      ¬c.FairNetFlow rt subnets epoch) := by
  have hordered : ∀ e ∈ subnets, ∀ e' ∈ subnets, ∀ w w',
      (c.netFlowWeights rt subnets epoch).find? e.1 = some w →
      (c.netFlowWeights rt subnets epoch).find? e'.1 = some w' →
      c.subnets.subnetNetFlow.getD e.1 0 ≤ c.subnets.subnetNetFlow.getD e'.1 0 → w ≤ w' :=
    fun e he e' he' w w' => netFlowWeights_ordered hnodup he he'
  have hsum : (c.netFlowWeights rt subnets epoch).sum =
      ((inflows c.subnets.subnetNetFlow epoch subnets).map fun e =>
        inflowShare (inflows c.subnets.subnetNetFlow epoch subnets) e.2).sum :=
    sum_inflowWeights (nodup_inflows hnodup)
  have hout : ∀ e : ℕ × SubnetData, e.2.isLeftOut epoch = true ↔
      e.2.startEpoch > epoch ∧ e.2.state ≠ .active := by
    intro e
    simp only [SubnetData.isLeftOut, Bool.and_eq_true, decide_eq_true_eq]
  refine ⟨hordered, fun e he => getNetFlowWeights_taken he, ?_, ?_⟩
  · intro hfits
    constructor
    · -- who has no weight did not pass the filter
      intro hfair e he hdead
      have hnone := hfair.onlyLive e he hdead
      rw [find?_netFlowWeights hnodup he] at hnone
      rw [← hout e]
      by_contra hkeep
      rw [if_neg hkeep] at hnone
      cases hnone
    -- a subnet that is left out has no weight, and its flow is not counted
    · intro hfilter
      refine ⟨?_, hordered, ?_, ?_, fun e he => getNetFlowWeights_taken he⟩
      · rw [hsum]
        exact sum_inflowShare_le hfits
      · intro e he hdead
        rw [find?_netFlowWeights hnodup he, if_pos ((hout e).mpr (hfilter e he hdead))]
      · intro e he hdead flow j _
        rw [netFlowWeights_setNetFlow hnodup he ((hout e).mpr (hfilter e he hdead))]
  · intro hover hfair
    have htotal := hfair.total
    rw [hsum] at htotal
    exact absurd (lt_sum_inflowShare hover) (Nat.not_lt.mpr htotal)

end Chain

/-- Two live subnets, one that is still registering, and one that was paused after it started. -/
def demoFlowSubnets : List (ℕ × SubnetData) :=
  [(1, ⟨[1], [1], .active, 2⟩), (2, ⟨[2], [2], .active, 2⟩), (4, ⟨[4], [4], .registered, u32Max⟩),
    (3, ⟨[3], [3], .paused, 2⟩)]

/-- Their net flows. -/
def demoFlows : Chain ℕ :=
  ((((Chain.genesis Runtime.runtime ∅).setNetFlow 1 0).setNetFlow 2 100).setNetFlow 3
    300).setNetFlow 4 50

/-- Without the paused subnet in the list the filter does what it is for: the one that registers
gets no weight, and its flow changes nobody's. -/
theorem fair_net_flow_iff_live :
    (demoFlowSubnets.take 3).map (fun e => (e.1, e.2.isActiveAndLive 5)) =
        [(1, true), (2, true), (4, false)] ∧
      demoFlows.FairNetFlow Runtime.runtime (demoFlowSubnets.take 3) 5 := by
  obtain ⟨_, _, hiff, _⟩ := Chain.fair_net_flow_iff Runtime.runtime demoFlows
    (demoFlowSubnets.take 3) 5 (by decide)
  exact ⟨by decide, (hiff (by decide)).mpr (by decide)⟩

/-- The paused subnet takes three quarters of the weight, and less of it would leave more to the
live one. -/
theorem paused_subnet_is_weighed :
    (SubnetData.mk [3] [3] .paused 2).isActiveAndLive 5 = false ∧
      (demoFlows.netFlowWeights Runtime.runtime demoFlowSubnets 5).find? 3 =
        some 750000000000000000 ∧
      (demoFlows.netFlowWeights Runtime.runtime demoFlowSubnets 5).find? 2 =
        some 250000000000000000 ∧
      ((demoFlows.setNetFlow 3 100).netFlowWeights Runtime.runtime demoFlowSubnets 5).find? 2 =
        some 500000000000000000 ∧
      ¬demoFlows.FairNetFlow Runtime.runtime demoFlowSubnets 5 := by
  refine ⟨by decide, by decide, by decide, by decide, ?_⟩
  intro hfair
  have hnone := hfair.onlyLive (3, ⟨[3], [3], .paused, 2⟩) (by decide) (by decide)
  exact absurd hnone (by decide)

end Hypertensor
