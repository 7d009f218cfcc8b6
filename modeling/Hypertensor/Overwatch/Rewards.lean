import Mathlib
import Hypertensor.Base.Apportion
import Hypertensor.Base.Saturate
import Hypertensor.Epoch.Divisors
import Hypertensor.Epoch.Overwatch

/-!
# Hypertensor.Overwatch.Rewards — who is paid for revealing, and how much

`calculate_overwatch_rewards` takes a tally of the reveals and then divides three times:
the stake weights by their sum, the scores by theirs, and the emissions by the results. Each
quotient is rounded down, so each of the three is at most the whole.

* `calculateOverwatchRewards_eq`: what is written, as a function of the tally.
* `RevealTally.From`: what the tally knows about a node comes from a node that exists.
* `RevealTally.foldl_data_filter`: reveals of nodes that are gone leave no trace in it.
* `Chain.overwatch_rewards_bounded`: the bounds, and who is paid.
-/

namespace Hypertensor

open Base StorageMap

variable {A : Type}

/-! ## The tally -/

/-- The reveals of an overwatch epoch. -/
def Chain.overwatchTally (rt : Runtime A) (c : Chain A) (overwatchEpoch : ℕ) : RevealTally :=
  (c.revealsOf overwatchEpoch).foldl (RevealTally.revealStep rt c)
    { weight := ((rt.reads 1).add (rt.reads 1)).add (rt.reads 1), totalStakeWeight := 0,
      nodeStakeWeights := ∅, subnetReveals := ∅ }

namespace RevealTally

variable {rt : Runtime A} {c : Chain A} {reveals : List (ℕ × ℕ × ℕ)} {t : RevealTally}

/-- A reveal of a node that exists. -/
def live (c : Chain A) (reveal : ℕ × ℕ × ℕ) : Bool :=
  decide (reveal.2.1 ∈ c.overwatch.overwatchNodes)

/-- What is in a tally comes from reveals of nodes that exist. -/
structure From (c : Chain A) (reveals : List (ℕ × ℕ × ℕ)) (t : RevealTally) : Prop where
  node : ∀ n w, t.nodeStakeWeights.find? n = some w →
    n ∈ c.overwatch.overwatchNodes ∧ ∃ r ∈ reveals, r.2.1 = n
  subnet : ∀ s m, t.subnetReveals.find? s = some m → ∃ r ∈ reveals, r.1 = s
  entry : ∀ s m n w, t.subnetReveals.find? s = some m → m.find? n = some w →
    t.nodeStakeWeights.contains n = true
  total : t.totalStakeWeight = min t.nodeStakeWeights.sum u128Max

/-- A known node's reveal is noted. -/
theorem From.addReveal (h : From c reveals t) {s n w : ℕ} (hr : (s, n, w) ∈ reveals)
    (hn : t.nodeStakeWeights.contains n = true) : From c reveals (t.addReveal s n w) where
  node := h.node
  subnet s' m hm := by
    unfold RevealTally.addReveal at hm
    rw [find?_set] at hm
    split at hm
    · next heq => exact ⟨(s, n, w), hr, heq.symm⟩
    · exact h.subnet s' m hm
  entry s' m n' w' hm hw := by
    unfold RevealTally.addReveal at hm
    rw [find?_set] at hm
    split at hm
    · next heq =>
        cases hm
        rw [find?_set] at hw
        split at hw
        · next hnode =>
            rw [hnode]
            exact hn
        · cases hold : t.subnetReveals.find? s with
          | none =>
              rw [getD, hold, Option.getD_none, find?_empty] at hw
              cases hw
          | some m₀ =>
              rw [getD, hold, Option.getD_some] at hw
              exact h.entry s m₀ n' w' hold hw
    · exact h.entry s' m n' w' hm hw
  total := h.total

/-- The stake weight of a node that was not known is noted. -/
theorem From.addNode (h : From c reveals t) {n x : ℕ} (hn : n ∈ c.overwatch.overwatchNodes)
    (hr : ∃ r ∈ reveals, r.2.1 = n) (hnew : t.nodeStakeWeights.contains n = false) (w : Weight) :
    From c reveals { t with
      weight := w
      totalStakeWeight := u128.add t.totalStakeWeight x
      nodeStakeWeights := t.nodeStakeWeights.set n x } where
  node n' w' hw := by
    rw [find?_set] at hw
    split at hw
    · next heq =>
        rw [heq]
        exact ⟨hn, hr⟩
    · exact h.node n' w' hw
  subnet := h.subnet
  entry s m n' w' hm hw := by
    have hold := h.entry s m n' w' hm hw
    unfold contains at hold ⊢
    rw [find?_set]
    split
    · rfl
    · exact hold
  total := by
    have hzero : t.nodeStakeWeights.val n = 0 := by
      have hnone : t.nodeStakeWeights.find? n = none := by simpa [contains] using hnew
      simp [val, getD, hnone]
    have hsum := sum_set t.nodeStakeWeights n x
    rw [hzero, Nat.add_zero] at hsum
    show min (t.totalStakeWeight + x) u128Max = min (t.nodeStakeWeights.set n x).sum u128Max
    rw [hsum, h.total]
    omega

/-- One more reveal is tallied. -/
theorem From.revealStep (h : From c reveals t) {r : ℕ × ℕ × ℕ} (hr : r ∈ reveals) :
    From c reveals (t.revealStep rt c r) := by
  obtain ⟨s, n, w⟩ := r
  unfold RevealTally.revealStep
  dsimp only
  split
  · next hknown =>
      have hread : From c reveals { t with weight := t.weight.add (rt.reads 1) } :=
        ⟨h.node, h.subnet, h.entry, h.total⟩
      exact hread.addReveal hr hknown
  · next hnew =>
      split
      · next hn =>
          refine From.addReveal (h.addNode hn ⟨_, hr, rfl⟩ (by simpa using hnew) _) hr ?_
          simp [contains]
      · exact ⟨h.node, h.subnet, h.entry, h.total⟩

/-- An empty tally comes from any reveals. -/
theorem from_empty (w : Weight) : From c reveals
    { weight := w, totalStakeWeight := 0, nodeStakeWeights := ∅, subnetReveals := ∅ } where
  node n w hw := by
    rw [find?_empty] at hw
    cases hw
  subnet s m hm := by
    rw [find?_empty] at hm
    cases hm
  entry s m n w hm := by
    rw [find?_empty] at hm
    cases hm
  total := by simp [StorageMap.sum]

/-- All reveals are tallied, by induction on the list. -/
theorem From.foldl (h : From c reveals t) {rs : List (ℕ × ℕ × ℕ)} (hrs : ∀ r ∈ rs, r ∈ reveals) :
    From c reveals (rs.foldl (RevealTally.revealStep rt c) t) := by
  induction rs generalizing t with
  | nil => exact h
  | cons r rs ih =>
      exact ih (h.revealStep (hrs r List.mem_cons_self)) fun r' hr' =>
        hrs r' (List.mem_cons_of_mem r hr')

/-- The tally of an epoch comes from the reveals that are stored for it. -/
theorem overwatchTally_from (rt : Runtime A) (c : Chain A) (e : ℕ) :
    From c (c.revealsOf e) (c.overwatchTally rt e) :=
  From.foldl (from_empty _) fun _ hr => hr

/-! ## Reveals of nodes that are gone -/

/-- A tally without its weight. -/
def data (t : RevealTally) : RevealTally := { t with weight := ⟨0, 0⟩ }

/-- The weight used so far does not matter. -/
theorem revealStep_data (t : RevealTally) (r : ℕ × ℕ × ℕ) :
    (t.revealStep rt c r).data = (t.data.revealStep rt c r).data := by
  unfold RevealTally.revealStep data RevealTally.addReveal
  dsimp only
  split
  · rfl
  · split <;> rfl

/-- A reveal of a node that is gone is passed over. -/
theorem revealStep_gone (h : From c reveals t) {r : ℕ × ℕ × ℕ} (hr : live c r = false) :
    (t.revealStep rt c r).data = t.data := by
  have hgone : r.2.1 ∉ c.overwatch.overwatchNodes := by simpa [live] using hr
  have hnew : t.nodeStakeWeights.contains r.2.1 = false := by
    cases hfind : t.nodeStakeWeights.find? r.2.1 with
    | none => simp [contains, hfind]
    | some w => exact absurd (h.node _ w hfind).1 hgone
  unfold RevealTally.revealStep
  simp only [hnew, Bool.false_eq_true, if_false, hgone]
  rfl

/-- The tally of all reveals is that of the live ones. -/
theorem foldl_data_filter (h : From c reveals t) {rs : List (ℕ × ℕ × ℕ)}
    (hrs : ∀ r ∈ rs, r ∈ reveals) {t' : RevealTally} (ht : t.data = t'.data) :
    (rs.foldl (RevealTally.revealStep rt c) t).data =
      ((rs.filter (live c)).foldl (RevealTally.revealStep rt c) t').data := by
  induction rs generalizing t t' with
  | nil => exact ht
  | cons r rs ih =>
      have hstep : From c reveals (t.revealStep rt c r) :=
        h.revealStep (hrs r List.mem_cons_self)
      have hrest : ∀ r' ∈ rs, r' ∈ reveals := fun r' hr' => hrs r' (List.mem_cons_of_mem r hr')
      rw [List.foldl_cons]
      cases hlive : live c r with
      | true =>
          rw [List.filter_cons_of_pos hlive, List.foldl_cons]
          refine ih hstep hrest ?_
          rw [revealStep_data t, ht, ← revealStep_data t']
      | false =>
          rw [List.filter_cons_of_neg (by simp [hlive])]
          refine ih hstep hrest ?_
          rw [revealStep_gone h hlive, ht]

/-- Reveals of nodes or subnets that are gone add nothing to the tally. -/
theorem overwatchTally_data (rt : Runtime A) (c : Chain A) (e : ℕ) :
    (c.overwatchTally rt e).data =
      (((c.revealsOf e).filter (live c)).foldl (RevealTally.revealStep rt c)
        { weight := ((rt.reads 1).add (rt.reads 1)).add (rt.reads 1), totalStakeWeight := 0,
          nodeStakeWeights := ∅, subnetReveals := ∅ }).data :=
  foldl_data_filter (from_empty _) (fun _ hr => hr) rfl

/-! ## Weights, scores and credits -/

/-- The weight of each subnet. -/
def subnetWeights (t : RevealTally) : List (ℕ × ℕ) :=
  t.subnetReveals.ascEntries.map fun e => (e.1, t.totalAdjusted e.2)

/-- The scores in the order in which they are added up, each with its node. -/
def scoreCredits (t : RevealTally) : List (ℕ × ℕ) :=
  t.subnetReveals.ascEntries.flatMap fun e =>
    e.2.ascEntries.map fun r => (r.1, overwatchNodeScore r.2 (t.totalAdjusted e.2))

/-- The score of each node. -/
def scores (t : RevealTally) : StorageMap ℕ ℕ := t.scoreCredits.foldl (credit u128) ∅

/-- The sum of the scores. -/
def totalFinalScore (t : RevealTally) : ℕ := (t.scores.ascEntries.map Prod.snd).foldl u128.add 0

/-- The weight of each node that has a score. -/
def nodeWeights (t : RevealTally) : List (ℕ × ℕ) :=
  (t.scores.ascEntries.filter fun e => decide (e.2 ≠ 0)).map fun e =>
    (e.1, percentDiv e.2 t.totalFinalScore)

/-- What each node is paid, if anything. -/
def credits (t : RevealTally) (emissions : ℕ) : List (ℕ × ℕ) :=
  (t.nodeWeights.map fun e => (e.1, percentMul e.2 emissions)).filter fun e => decide (e.2 ≠ 0)

/-- A weight in the outcome is at most `1.0`. -/
theorem totalAdjusted_le (t : RevealTally) (m : StorageMap ℕ ℕ) :
    t.totalAdjusted m ≤ percentageFactor := Nat.min_le_right _ _

/-- The weight of a subnet is at most one. -/
theorem subnetWeights_le (t : RevealTally) : ∀ e ∈ t.subnetWeights, e.2 ≤ percentageFactor := by
  intro e he
  rcases List.mem_map.mp he with ⟨_, _, rfl⟩
  exact t.totalAdjusted_le _

/-- The normalised stake weights are parts of `1.0`, if their sum is not clamped. -/
theorem stakeWeights_sum_le (h : From c reveals t) (hfit : t.nodeStakeWeights.sum ≤ u128Max) :
    (t.nodeStakeWeights.total fun n _ => (t.stakeWeight n).getD 0) ≤ percentageFactor := by
  have htotal : t.totalStakeWeight = t.nodeStakeWeights.sum := by
    rw [h.total, Nat.min_eq_left hfit]
  rw [← total_ascEntries]
  rcases Nat.eq_zero_or_pos t.totalStakeWeight with hzero | hpos
  · -- without stake all weights are zero
    refine (Nat.le_zero.mp (List.sum_le_card_nsmul _ 0 ?_ |>.trans_eq (smul_zero _))).trans_le
      (Nat.zero_le _)
    intro x hx
    rcases List.mem_map.mp hx with ⟨e, he, rfl⟩
    rw [stakeWeight, mem_ascEntries.mp he, Option.map_some, if_pos hzero, Option.getD_some]
  · refine sum_shares_le (w := fun e : ℕ × ℕ => e.2) hpos ?_ ?_
    · rw [htotal]
      exact (sum_ascEntries _).le
    · intro e he
      rw [stakeWeight, mem_ascEntries.mp he, Option.map_some, if_neg (Nat.ne_of_gt hpos),
        Option.getD_some]
      exact (Nat.mul_le_mul_right _ (percentDiv_le_div _ _)).trans (Nat.div_mul_le_self _ _)

/-- The score of a node is at most one. -/
theorem overwatchNodeScore_le (w : ℕ) {adjusted : ℕ} (h : adjusted ≤ percentageFactor) :
    overwatchNodeScore w adjusted ≤ percentageFactor :=
  (percentMul_le_left h).trans (Nat.sub_le _ _)

/-- The ids are `u32`. -/
def Typed (reveals : List (ℕ × ℕ × ℕ)) : Prop := ∀ r ∈ reveals, r.1 < 2 ^ 32 ∧ r.2.1 < 2 ^ 32

/-- Of `u32` ids there are too few for the scores to be clamped. -/
theorem scoreCredits_sum_le (h : From c reveals t) (htyped : Typed reveals) :
    (t.scoreCredits.map Prod.snd).sum ≤ u128Max := by
  -- subnets and nodes have `u32` ids, so there are few enough credits for the sum to fit
  have hlen : t.scoreCredits.length ≤ 2 ^ 32 * 2 ^ 32 := by
    have hsubnets : t.subnetReveals.ascEntries.length ≤ 2 ^ 32 := by
      refine ascEntries_length _ fun s hs => ?_
      rcases mem_keys.mp hs with ⟨m, hm⟩
      rcases h.subnet s m hm with ⟨r, hr, rfl⟩
      exact (htyped r hr).1
    unfold scoreCredits
    rw [List.length_flatMap]
    calc _ ≤ t.subnetReveals.ascEntries.length • 2 ^ 32 := by
          refine List.sum_le_card_nsmul _ _ ?_ |>.trans_eq (by rw [List.length_map])
          intro x hx
          rcases List.mem_map.mp hx with ⟨e, he, rfl⟩
          rw [List.length_map]
          refine ascEntries_length _ fun n hn => ?_
          rcases mem_keys.mp hn with ⟨w, hw⟩
          have hknown := h.entry e.1 e.2 n w (mem_ascEntries.mp he) hw
          rcases Option.isSome_iff_exists.mp hknown with ⟨x, hx⟩
          rcases (h.node n x hx).2 with ⟨r, hr, rfl⟩
          exact (htyped r hr).2
      _ ≤ 2 ^ 32 * 2 ^ 32 := Nat.mul_le_mul_right _ hsubnets
  calc (t.scoreCredits.map Prod.snd).sum
      ≤ (t.scoreCredits.map Prod.snd).length • percentageFactor := by
        refine List.sum_le_card_nsmul _ _ ?_
        intro x hx
        rcases List.mem_map.mp hx with ⟨p, hp, rfl⟩
        rcases List.mem_flatMap.mp hp with ⟨e, _, he⟩
        rcases List.mem_map.mp he with ⟨r, _, rfl⟩
        exact overwatchNodeScore_le _ (t.totalAdjusted_le _)
    _ ≤ 2 ^ 32 * 2 ^ 32 * percentageFactor := by
        rw [List.length_map]
        exact Nat.mul_le_mul_right _ hlen
    _ ≤ u128Max := by decide

/-- The sum of the scores is not clamped. -/
theorem totalFinalScore_eq (h : From c reveals t) (htyped : Typed reveals) :
    t.totalFinalScore = t.scores.sum := by
  have hempty : (∅ : StorageMap ℕ ℕ).sum = 0 := by simp [StorageMap.sum]
  have hle : t.scores.sum ≤ u128Max := by
    have hcredits := sum_foldl_credit_le u128Max (∅ : StorageMap ℕ ℕ) t.scoreCredits
    rw [hempty, Nat.zero_add] at hcredits
    exact hcredits.trans (scoreCredits_sum_le h htyped)
  unfold totalFinalScore
  rw [foldl_add_saturating _ (Nat.zero_le _), sum_ascEntries, Nat.zero_add, Nat.min_eq_left hle]

/-- Leaving entries out never makes a sum larger. -/
theorem sum_filter_le (l : List (ℕ × ℕ)) (p : ℕ × ℕ → Bool) :
    ((l.filter p).map Prod.snd).sum ≤ (l.map Prod.snd).sum :=
  (List.filter_sublist.map Prod.snd).sum_le_sum fun _ _ => Nat.zero_le _

/-- The weights of the nodes are parts of `1.0`. -/
theorem nodeWeights_sum_le (h : From c reveals t) (htyped : Typed reveals) :
    (t.nodeWeights.map Prod.snd).sum ≤ percentageFactor := by
  unfold nodeWeights
  rw [List.map_map]
  rcases Nat.eq_zero_or_pos t.totalFinalScore with hzero | hpos
  · -- parts of nothing are nothing
    have hnone : (Prod.snd ∘ fun e : ℕ × ℕ => (e.1, percentDiv e.2 t.totalFinalScore)) =
        fun _ => 0 := by
      funext e
      simp [percentDiv, hzero]
    rw [hnone, List.map_const', List.sum_replicate, smul_zero]
    exact Nat.zero_le _
  · refine sum_shares_le (w := fun e : ℕ × ℕ => e.2) hpos ?_ ?_
    · rw [totalFinalScore_eq h htyped, ← sum_ascEntries]
      exact sum_filter_le _ _
    · intro e _
      exact (Nat.mul_le_mul_right _ (percentDiv_le_div _ _)).trans (Nat.div_mul_le_self _ _)

/-- The payments are parts of the emissions. -/
theorem credits_sum_le (emissions : ℕ) (h : From c reveals t) (htyped : Typed reveals) :
    ((t.credits emissions).map Prod.snd).sum ≤ emissions := by
  refine (sum_filter_le _ _).trans ?_
  rw [List.map_map]
  refine sum_shares_le (w := fun e : ℕ × ℕ => e.2) (W := percentageFactor) (by decide)
    (nodeWeights_sum_le h htyped) ?_
  intro e _
  exact (Nat.mul_le_mul_right _ (percentMul_le_div _ _)).trans (Nat.div_mul_le_self _ _)

/-- Whoever has a score has a stake weight. -/
theorem scores_known (h : From c reveals t) {e : ℕ × ℕ} (he : e ∈ t.scores.ascEntries) :
    t.nodeStakeWeights.contains e.1 = true := by
  rcases find?_foldl_credit (mem_ascEntries.mp he) with ⟨v, hv⟩ | ⟨p, hp, hkey⟩
  · rw [find?_empty] at hv
    cases hv
  · rcases List.mem_flatMap.mp hp with ⟨s, hs, hr⟩
    rcases List.mem_map.mp hr with ⟨r, hmem, rfl⟩
    rw [← hkey]
    exact h.entry s.1 s.2 r.1 r.2 (mem_ascEntries.mp hs) (mem_ascEntries.mp hmem)

/-- Whoever is paid exists and has revealed. -/
theorem credits_live (h : From c reveals t) {emissions : ℕ} {p : ℕ × ℕ}
    (hp : p ∈ t.credits emissions) :
    p.1 ∈ c.overwatch.overwatchNodes ∧ ∃ r ∈ reveals, r.2.1 = p.1 := by
  rcases List.mem_map.mp (List.mem_filter.mp hp).1 with ⟨q, hq, rfl⟩
  rcases List.mem_map.mp hq with ⟨e, he, rfl⟩
  rcases Option.isSome_iff_exists.mp (scores_known h (List.mem_filter.mp he).1) with ⟨w, hw⟩
  exact h.node e.1 w hw

/-- Without any score there are no weights. -/
theorem nodeWeights_eq_nil (h : t.totalFinalScore = 0) : t.nodeWeights = [] := by
  have hsum : (t.scores.ascEntries.map Prod.snd).sum = 0 := by
    unfold totalFinalScore at h
    rw [foldl_add_saturating _ (Nat.zero_le _), Nat.zero_add] at h
    have hmax : 0 < u128Max := by decide
    omega
  unfold nodeWeights
  rw [List.filter_eq_nil_iff.mpr, List.map_nil]
  intro e he
  have hzero : e.2 = 0 := List.sum_eq_zero_iff.mp hsum e.2 (List.mem_map_of_mem he)
  simp [hzero]

/-- Everything but the weight depends on the live reveals alone. -/
theorem data_congr {t' : RevealTally} (h : t.data = t'.data) :
    t.subnetWeights = t'.subnetWeights ∧ t.nodeWeights = t'.nodeWeights ∧
      t.credits = t'.credits := by
  obtain ⟨w, total, nodes, subnets⟩ := t
  obtain ⟨w', total', nodes', subnets'⟩ := t'
  cases h
  exact ⟨rfl, rfl, rfl⟩

end RevealTally

/-! ## What is written -/

namespace Chain

variable (rt : Runtime A)

/-- The chain after the overwatch rewards of a tally. -/
def afterOverwatchRewards (c : Chain A) (overwatchEpoch : ℕ) (t : RevealTally) : Chain A :=
  { c with
    toState := (t.credits rt.overwatchEpochEmissions).foldl
      (fun s p => s.increaseOverwatchNodeStake u128 p.1 p.2) c.toState
    registry := { c.registry with
      overwatchSubnetWeights := t.subnetWeights.foldl
        (fun m p => m.set (overwatchEpoch, p.1) p.2) c.registry.overwatchSubnetWeights
      overwatchNodeWeights := t.nodeWeights.foldl
        (fun m p => m.set (overwatchEpoch, p.1) p.2) c.registry.overwatchNodeWeights } }

variable {rt} {c : Chain A} {t : RevealTally} {e : ℕ}

/-- The weights of the subnets are stored for the epoch. -/
theorem scoreSubnets_fst (c : Chain A) (t : RevealTally) (e : ℕ) (w : Weight) (scores : StorageMap ℕ ℕ)
    (subnets : List (ℕ × StorageMap ℕ ℕ)) :
    (c.scoreSubnets rt t e w scores subnets).1 = { c with registry := { c.registry with
      overwatchSubnetWeights := (subnets.map fun s => (s.1, t.totalAdjusted s.2)).foldl
        (fun m p => m.set (e, p.1) p.2) c.registry.overwatchSubnetWeights } } := by
  induction subnets generalizing c w scores with
  | nil => rfl
  | cons s subnets ih =>
      unfold scoreSubnets
      rw [ih]
      rfl

/-- A node is credited its score for each of its reveals. -/
theorem scoreSubnets_scores (w : Weight) (scores : StorageMap ℕ ℕ)
    (subnets : List (ℕ × StorageMap ℕ ℕ)) :
    (c.scoreSubnets rt t e w scores subnets).2.2 = (subnets.flatMap fun s =>
      s.2.ascEntries.map fun r => (r.1, overwatchNodeScore r.2 (t.totalAdjusted s.2))).foldl
      (credit u128) scores := by
  induction subnets generalizing c w scores with
  | nil => rfl
  | cons s subnets ih =>
      unfold scoreSubnets
      rw [ih, List.flatMap_cons, List.foldl_append, List.foldl_map]
      rfl

/-- The loop over the scores, for nodes that are known. -/
theorem payOverwatchNodes_fst (c : Chain A) (t : RevealTally) (e total : ℕ) (w : Weight) (scores : List (ℕ × ℕ))
    (hknown : ∀ p ∈ scores, t.nodeStakeWeights.contains p.1 = true) :
    (c.payOverwatchNodes rt u128 t e total w scores).1 =
      let weights := (scores.filter fun p => decide (p.2 ≠ 0)).map fun p =>
        (p.1, percentDiv p.2 total)
      let credits := (weights.map fun p =>
        (p.1, percentMul p.2 rt.overwatchEpochEmissions)).filter fun p => decide (p.2 ≠ 0)
      { c with
        toState := credits.foldl (fun s p => s.increaseOverwatchNodeStake u128 p.1 p.2) c.toState
        registry := { c.registry with
          overwatchNodeWeights := weights.foldl (fun m p => m.set (e, p.1) p.2)
            c.registry.overwatchNodeWeights } } := by
  induction scores generalizing c w with
  | nil => rfl
  | cons p scores ih =>
      have hrest : ∀ q ∈ scores, t.nodeStakeWeights.contains q.1 = true := fun q hq =>
        hknown q (List.mem_cons_of_mem p hq)
      have hp := hknown p List.mem_cons_self
      unfold payOverwatchNodes payOverwatchNode
      dsimp only
      rw [ih _ _ hrest]
      by_cases hzero : p.2 = 0
      · -- no score: nothing is stored and nothing paid
        rw [if_pos hzero, List.filter_cons_of_neg (by simp [hzero])]
      · rw [if_neg hzero, List.filter_cons_of_pos (by simp [hzero])]
        by_cases hamount : percentMul (percentDiv p.2 total) rt.overwatchEpochEmissions = 0
        · rw [if_neg (fun hand => hand.2 hamount)]
          simp only [List.map_cons, List.foldl_cons]
          rw [List.filter_cons_of_neg (by simp [hamount])]
        · rw [if_pos ⟨hp, hamount⟩]
          simp only [List.map_cons, List.foldl_cons]
          rw [List.filter_cons_of_pos (by simp [hamount]), List.foldl_cons]

/-- What `calculate_overwatch_rewards` writes, as a function of the tally. -/
theorem calculateOverwatchRewards_eq {r : Chain A × Weight} {current : ℕ}
    (hepoch : c.getCurrentOverwatchEpochAsU32 rt = some current)
    (h : c.calculateOverwatchRewards rt u128 = some r) :
    r.1 = c.afterOverwatchRewards rt (current - 1) (c.overwatchTally rt (current - 1)) := by
  have hfrom := RevealTally.overwatchTally_from rt c (current - 1)
  have htally : (c.revealsOf (current - 1)).foldl (RevealTally.revealStep rt c)
      { weight := ((rt.reads 1).add (rt.reads 1)).add (rt.reads 1), totalStakeWeight := 0,
        nodeStakeWeights := ∅, subnetReveals := ∅ } = c.overwatchTally rt (current - 1) := rfl
  unfold calculateOverwatchRewards at h
  rw [hepoch] at h
  simp only [Option.bind_eq_bind, Option.bind_some, htally] at h
  generalize c.overwatchTally rt (current - 1) = t at h hfrom ⊢
  have hscores : (c.scoreSubnets rt t (current - 1) t.weight ∅ t.subnetReveals.ascEntries).2.2 =
      t.scores := scoreSubnets_scores _ _ _
  rw [hscores] at h
  split at h
  · next hzero =>
      have hnil := RevealTally.nodeWeights_eq_nil hzero
      rw [← Option.some.inj h]
      unfold afterOverwatchRewards RevealTally.credits
      rw [hnil]
      exact scoreSubnets_fst c t _ _ _ _
  · rw [← Option.some.inj h, payOverwatchNodes_fst _ t _ _ _ _ fun p hp =>
      RevealTally.scores_known hfrom hp, scoreSubnets_fst]
    rfl

end Chain

/-! ## Rewards are bounded -/

namespace Chain

variable {rt : Runtime A} {c c' : Chain A} {w : Weight} {current : ℕ}

/-- Credits add up in the balances of the nodes and in the total. -/
theorem foldl_increaseOverwatchNodeStake (s : State A) (credits : List (ℕ × ℕ)) :
    credits.foldl (fun s p => s.increaseOverwatchNodeStake u128 p.1 p.2) s =
      { s with stake := { s.stake with
        overwatchNodeStakeBalance :=
          credits.foldl (credit u128) s.stake.overwatchNodeStakeBalance
        totalOverwatchNodeStakeBalance :=
          (credits.map Prod.snd).foldl u128.add s.stake.totalOverwatchNodeStakeBalance } } := by
  induction credits generalizing s with
  | nil => rfl
  | cons p credits ih =>
      rw [List.foldl_cons, ih]
      rfl

/-- What is stored for a set of keys is at most what is left of the old entries and what is
written. -/
theorem sum_foldl_set_le (e : ℕ) (ns : Finset ℕ) (l : List (ℕ × ℕ)) (m : StorageMap (ℕ × ℕ) ℕ) :
    ∑ n ∈ ns, (l.foldl (fun m p => m.set (e, p.1) p.2) m).val (e, n) ≤
      (∑ n ∈ ns, if n ∈ l.map Prod.fst then 0 else m.val (e, n)) + (l.map Prod.snd).sum := by
  induction l generalizing m with
  | nil => simp
  | cons p l ih =>
      have hone : ∀ n ∈ ns, (if n ∈ l.map Prod.fst then 0 else (m.set (e, p.1) p.2).val (e, n)) ≤
          (if n ∈ (p :: l).map Prod.fst then 0 else m.val (e, n)) +
            if p.1 = n then p.2 else 0 := by
        intro n _
        rw [val_set]
        by_cases hn : n = p.1
        · simp only [hn, List.map_cons, List.mem_cons, true_or, if_true, Nat.zero_add]
          split <;> omega
        · have hcons : n ∈ (p :: l).map Prod.fst ↔ n ∈ l.map Prod.fst := by simp [hn]
          have hkey : ((e, n) : ℕ × ℕ) ≠ (e, p.1) := fun heq => hn (Prod.mk.inj heq).2
          simp only [hcons, hkey, if_false]
          exact Nat.le_add_right _ _
      have hnew : ∑ n ∈ ns, (if p.1 = n then p.2 else 0) ≤ p.2 := by
        rw [Finset.sum_ite_eq]
        split <;> omega
      calc _ ≤ (∑ n ∈ ns, if n ∈ l.map Prod.fst then 0 else (m.set (e, p.1) p.2).val (e, n)) +
              (l.map Prod.snd).sum := ih (m.set (e, p.1) p.2)
        _ ≤ ((∑ n ∈ ns, if n ∈ (p :: l).map Prod.fst then 0 else m.val (e, n)) + p.2) +
              (l.map Prod.snd).sum := by
            refine Nat.add_le_add_right ?_ _
            refine (Finset.sum_le_sum hone).trans ?_
            rw [Finset.sum_add_distrib]
            exact Nat.add_le_add_left hnew _
        _ = _ := by simp only [List.map_cons, List.sum_cons, Nat.add_assoc]

/-- An entry is an old one or one of those written. -/
theorem find?_foldl_set {e : ℕ} {l : List (ℕ × ℕ)} {m : StorageMap (ℕ × ℕ) ℕ} {k : ℕ × ℕ} {v : ℕ}
    (h : (l.foldl (fun m p => m.set (e, p.1) p.2) m).find? k = some v) :
    m.find? k = some v ∨ k.1 = e ∧ ∃ p ∈ l, p.2 = v := by
  induction l generalizing m with
  | nil => exact Or.inl h
  | cons p l ih =>
      rcases ih h with hset | ⟨hk, q, hq, hv⟩
      · rw [find?_set] at hset
        split at hset
        · next hk =>
            refine Or.inr ⟨by rw [hk], p, List.mem_cons_self, ?_⟩
            exact Option.some.inj hset
        · exact Or.inl hset
      · exact Or.inr ⟨hk, q, List.mem_cons_of_mem p hq, hv⟩

/-- The storage with other reveals. -/
def withReveals (c : Chain A) (reveals : StorageMap ℕ (StorageMap ℕ (StorageMap ℕ ℕ))) : Chain A :=
  { c with registry := { c.registry with overwatchReveals := reveals } }

/-- The epoch is all the calculation can fail on. -/
theorem calculateOverwatchRewards_some
    (hepoch : c.getCurrentOverwatchEpochAsU32 rt = some current) :
    ∃ r, c.calculateOverwatchRewards rt u128 = some r := by
  unfold calculateOverwatchRewards
  rw [hepoch]
  simp only [Option.bind_eq_bind, Option.bind_some]
  split
  · exact ⟨_, rfl⟩
  · exact ⟨_, rfl⟩

/-- Each node is credited its part of the emissions. -/
theorem afterOverwatchRewards_balance (e : ℕ) (t : RevealTally) :
    (c.afterOverwatchRewards rt e t).stake.overwatchNodeStakeBalance =
      (t.credits rt.overwatchEpochEmissions).foldl (credit u128)
        c.stake.overwatchNodeStakeBalance := by
  unfold afterOverwatchRewards
  rw [foldl_increaseOverwatchNodeStake]

/-- The total is credited the same amounts. -/
theorem afterOverwatchRewards_total (e : ℕ) (t : RevealTally) :
    (c.afterOverwatchRewards rt e t).stake.totalOverwatchNodeStakeBalance =
      ((t.credits rt.overwatchEpochEmissions).map Prod.snd).foldl u128.add
        c.stake.totalOverwatchNodeStakeBalance := by
  unfold afterOverwatchRewards
  rw [foldl_increaseOverwatchNodeStake]

/-- The weights of the subnets are stored for the epoch. -/
theorem afterOverwatchRewards_subnetWeights (e : ℕ) (t : RevealTally) :
    (c.afterOverwatchRewards rt e t).registry.overwatchSubnetWeights = t.subnetWeights.foldl
      (fun m p => m.set (e, p.1) p.2) c.registry.overwatchSubnetWeights := rfl

/-- The weights of the nodes are stored for the epoch. -/
theorem afterOverwatchRewards_nodeWeights (e : ℕ) (t : RevealTally) :
    (c.afterOverwatchRewards rt e t).registry.overwatchNodeWeights = t.nodeWeights.foldl
      (fun m p => m.set (e, p.1) p.2) c.registry.overwatchNodeWeights := rfl

/-- The block reads the data of the tally, and not the weight it took. -/
theorem afterOverwatchRewards_data {t t' : RevealTally} {e : ℕ} (h : t.data = t'.data) :
    c.afterOverwatchRewards rt e t = c.afterOverwatchRewards rt e t' := by
  obtain ⟨hsubnets, hnodes, hcredits⟩ := RevealTally.data_congr h
  unfold afterOverwatchRewards
  rw [hsubnets, hnodes, hcredits]

/-- The block reads no reveals but through the tally. -/
theorem afterOverwatchRewards_withReveals
    (reveals : StorageMap ℕ (StorageMap ℕ (StorageMap ℕ ℕ))) (e : ℕ) (t : RevealTally) :
    (c.withReveals reveals).afterOverwatchRewards rt e t =
      (c.afterOverwatchRewards rt e t).withReveals reveals := by
  unfold afterOverwatchRewards withReveals
  generalize t.credits rt.overwatchEpochEmissions = credits
  rfl

/-- What the live reveals leave the same, the tally leaves the same. -/
theorem overwatchTally_withReveals (reveals : StorageMap ℕ (StorageMap ℕ (StorageMap ℕ ℕ)))
    {e : ℕ} (hlive : ((c.withReveals reveals).revealsOf e).filter (RevealTally.live c) =
      (c.revealsOf e).filter (RevealTally.live c)) :
    ((c.withReveals reveals).overwatchTally rt e).data = (c.overwatchTally rt e).data := by
  rw [RevealTally.overwatchTally_data, RevealTally.overwatchTally_data]
  -- a step reads the nodes, balances and parameters only, and they are the same
  exact congrArg (fun rs : List (ℕ × ℕ × ℕ) => (rs.foldl (RevealTally.revealStep rt c) _).data)
    hlive

/-- Whatever is revealed, and whatever the stake weights are as long as their sum is not
clamped: all weights of subnets stored are at most `1.0`, the normalised stake weights and the
stored weights of nodes each add up to at most `1.0`, the credits add up in the balances and
the total and are within the emissions, they go to nodes that exist and have revealed, and
the reveals of other nodes make no difference. -/
theorem overwatch_rewards_bounded (rt : Runtime A) (c c' : Chain A) (w : Weight) (current : ℕ)
    (hepoch : c.getCurrentOverwatchEpochAsU32 rt = some current)
    (htyped : RevealTally.Typed (c.revealsOf (current - 1)))
    (hfit : (c.overwatchTally rt (current - 1)).nodeStakeWeights.sum ≤ u128Max)
    (htotal : c.stake.totalOverwatchNodeStakeBalance ≤ u128Max)
    (hbalance : ∀ n, c.stake.overwatchNodeStakeBalance.val n ≤ u128Max)
    (h : c.calculateOverwatchRewards rt u128 = some (c', w)) :
    let e := current - 1
    let t := c.overwatchTally rt e
    let credits := t.credits rt.overwatchEpochEmissions
    (∀ k v, c'.registry.overwatchSubnetWeights.find? k = some v →
      c.registry.overwatchSubnetWeights.find? k = some v ∨ k.1 = e ∧ v ≤ percentageFactor) ∧
    (t.nodeStakeWeights.total fun n _ => (t.stakeWeight n).getD 0) ≤ percentageFactor ∧
    (∀ ns : Finset ℕ, (∀ n ∈ ns, c.registry.overwatchNodeWeights.find? (e, n) = none ∨
        n ∈ t.nodeWeights.map Prod.fst) →
      ∑ n ∈ ns, c'.registry.overwatchNodeWeights.val (e, n) ≤ percentageFactor) ∧
    c'.stake.totalOverwatchNodeStakeBalance =
      min (c.stake.totalOverwatchNodeStakeBalance + (credits.map Prod.snd).sum) u128Max ∧
    (∀ n, c'.stake.overwatchNodeStakeBalance.val n =
      min (c.stake.overwatchNodeStakeBalance.val n + credited credits n) u128Max) ∧
    (credits.map Prod.snd).sum ≤ rt.overwatchEpochEmissions ∧
    (∀ p ∈ credits, p.1 ∈ c.overwatch.overwatchNodes ∧ ∃ r ∈ c.revealsOf e, r.2.1 = p.1) ∧
    ∀ reveals, ((c.withReveals reveals).revealsOf e).filter (RevealTally.live c) =
        (c.revealsOf e).filter (RevealTally.live c) →
      ∃ w', (c.withReveals reveals).calculateOverwatchRewards rt u128 =
        some (c'.withReveals reveals, w') := by
  intro e t credits
  have hfrom : RevealTally.From c (c.revealsOf e) t := RevealTally.overwatchTally_from rt c e
  have hafter : c' = c.afterOverwatchRewards rt e t := calculateOverwatchRewards_eq hepoch h
  subst hafter
  refine ⟨?_, RevealTally.stakeWeights_sum_le hfrom hfit, ?_, ?_, ?_,
    RevealTally.credits_sum_le _ hfrom htyped, fun p hp => RevealTally.credits_live hfrom hp, ?_⟩
  · intro k v hv
    rw [afterOverwatchRewards_subnetWeights] at hv
    rcases find?_foldl_set hv with hold | ⟨hk, p, hp, rfl⟩
    · exact Or.inl hold
    · exact Or.inr ⟨hk, t.subnetWeights_le p hp⟩
  · intro ns hnew
    have hsum := sum_foldl_set_le e ns t.nodeWeights c.registry.overwatchNodeWeights
    -- nodes without a new weight had none
    have hzero : (∑ n ∈ ns, if n ∈ t.nodeWeights.map Prod.fst then 0
        else c.registry.overwatchNodeWeights.val (e, n)) = 0 := by
      refine Finset.sum_eq_zero fun n hn => ?_
      rcases hnew n hn with hnone | hmem
      · rw [val, getD, hnone]
        split <;> rfl
      · rw [if_pos hmem]
    rw [hzero, Nat.zero_add] at hsum
    rw [afterOverwatchRewards_nodeWeights]
    exact hsum.trans (RevealTally.nodeWeights_sum_le hfrom htyped)
  · rw [afterOverwatchRewards_total, foldl_add_saturating _ htotal]
  · intro n
    rw [afterOverwatchRewards_balance, val_foldl_credit (hbalance n)]
  · intro reveals hlive
    -- the reveals are all that differs, and only the live ones are read
    have hepoch' : (c.withReveals reveals).getCurrentOverwatchEpochAsU32 rt = some current := hepoch
    obtain ⟨r, hr⟩ := calculateOverwatchRewards_some hepoch'
    have heq := calculateOverwatchRewards_eq (c := c.withReveals reveals) hepoch hr
    rw [afterOverwatchRewards_withReveals,
      afterOverwatchRewards_data (overwatchTally_withReveals reveals hlive)] at heq
    exact ⟨r.2, by rw [hr, ← heq]⟩

end Chain

/-- Three nodes have revealed a weight for a subnet, and the last of them is gone. -/
def demoRevealed : Chain ℕ :=
  let c := demoChain.atBlock 36
  { c with
    overwatch := { c.overwatch with overwatchNodes := {1, 2} }
    stake := { c.stake with
      overwatchNodeStakeBalance :=
        (c.stake.overwatchNodeStakeBalance.set 1 (10 ^ 21)).set 2 (2 * 10 ^ 21)
      totalOverwatchNodeStakeBalance := 3 * 10 ^ 21 }
    registry := { c.registry with
      overwatchReveals := (∅ : StorageMap ℕ (StorageMap ℕ (StorageMap ℕ ℕ))).set 0
        ((∅ : StorageMap ℕ (StorageMap ℕ ℕ)).set 1
          ((((∅ : StorageMap ℕ ℕ).set 1 (5 * 10 ^ 17)).set 2 (3 * 10 ^ 17)).set 3
            (9 * 10 ^ 17))) } }

/-- Both nodes that are there are paid. -/
theorem Chain.overwatch_rewards_bounded_demo : ∃ c' w,
    demoRevealed.calculateOverwatchRewards Runtime.runtime u128 = some (c', w) ∧
    let credits := (demoRevealed.overwatchTally Runtime.runtime 0).credits
      Runtime.runtime.overwatchEpochEmissions
    credits.map Prod.fst = [1, 2] ∧
    (credits.map Prod.snd).sum ≤ Runtime.runtime.overwatchEpochEmissions ∧
    c'.stake.totalOverwatchNodeStakeBalance =
      min (3 * 10 ^ 21 + (credits.map Prod.snd).sum) u128Max := by
  have hepoch : demoRevealed.getCurrentOverwatchEpochAsU32 Runtime.runtime = some 1 := by
    decide +kernel
  have htyped : RevealTally.Typed (demoRevealed.revealsOf 0) := by
    unfold RevealTally.Typed
    decide +kernel
  have hbalance : ∀ n, demoRevealed.stake.overwatchNodeStakeBalance.val n ≤ u128Max := by
    intro n
    show (((∅ : StorageMap ℕ ℕ).set 1 (10 ^ 21)).set 2 (2 * 10 ^ 21)).val n ≤ u128Max
    rw [val_set, val_set]
    split
    · decide
    · split
      · decide
      · exact Nat.zero_le _
  obtain ⟨⟨c', w⟩, h⟩ := calculateOverwatchRewards_some hepoch
  obtain ⟨_, _, _, htotal, _, hsum, _, _⟩ := Chain.overwatch_rewards_bounded Runtime.runtime
    demoRevealed c' w 1 hepoch htyped (by decide +kernel) (by decide) hbalance h
  exact ⟨c', w, h, by decide +kernel, hsum, htotal⟩

end Hypertensor
