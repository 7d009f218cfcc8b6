import Mathlib
import Hypertensor.Base.Run
import Hypertensor.Rewards.Emission

/-!
# Hypertensor.Rewards.Capacitor — rewards held back and released

While a subnet agrees to hold its rewards back they collect in
`RewardsCapacitor`. A book kept beside the run says what should be there: what
was earned, what is pending since the last distribution, and what was paid.

The code adds the capacitor to the emissions before it applies the weight, and
adds the product to the capacitor again. So a second epoch held back counts the
first one twice, and a distribution weighs what is pending once more. `Exact` says
of one epoch when rounding hides this; the book agrees with the storage along
exactly the runs all of whose epochs are exact.
-/

namespace Hypertensor

open Base

variable {A : Type} [DecidableEq A]

/-- One epoch of a subnet in which a submission is processed. -/
structure EpochInput where
  emissions : ℕ
  weight : ℕ
  meter : WeightMeter
  currentEpoch : ℕ
  currentSubnetEpoch : ℕ
  submission : ConsensusSubmissionData
  minAttestationPercentage : ℕ
  increaseFactor : ℕ
  decreaseFactor : ℕ
  superMajorityThreshold : ℕ

namespace EpochInput

/-- What the subnet earns by itself in the epoch. -/
def earns (e : EpochInput) : ℕ := percentMul e.emissions e.weight

/-- The rewards `emission_step` calculates. -/
def rewards (s : State A) (subnetId : ℕ) (e : EpochInput) : RewardsData :=
  s.calculateRewards u128 subnetId e.emissions e.weight

/-- The state after the rewards were distributed. -/
def distribute (cfg : Config A) (s : State A) (subnetId : ℕ) (e : EpochInput) : State A :=
  (Metered.distributeRewards cfg u128 ⟨s, e.meter⟩ subnetId e.currentEpoch e.currentSubnetEpoch
    e.submission (e.rewards s subnetId) e.minAttestationPercentage e.increaseFactor
    e.decreaseFactor e.superMajorityThreshold).1.state

end EpochInput

/-- What should have happened to the rewards of a subnet so far. -/
structure Book where
  earned : ℕ
  pending : ℕ
  paid : ℕ
deriving DecidableEq, Repr

/-- What can happen between two looks at the capacitor of a subnet. -/
inductive CapacitorOp (A : Type) where
  | epoch (e : EpochInput)
  /-- The rest of the chain moves on; it does not write this capacitor. -/
  | other (s : State A)

/-- A chain with the book of one subnet. -/
structure Booked (A : Type) where
  state : State A
  book : Book

namespace Booked

variable (cfg : Config A) (subnetId : ℕ)

/-- `RewardsCapacitor` of the subnet. -/
def capacitor (c : Booked A) : ℕ := c.state.emission.rewardsCapacitor.val subnetId

/-- The book after an epoch: what is earned is pending or, with what was pending,
due; what is paid is what the code pays. -/
def record (c : Booked A) (e : EpochInput) : Book :=
  if e.submission.weightSum = 0 then
    { c.book with earned := c.book.earned + e.earns, pending := c.book.pending + e.earns }
  else
    { earned := c.book.earned + e.earns
      pending := 0
      paid := c.book.paid + (e.rewards c.state subnetId).overallSubnetReward }

/-- One step of the chain. -/
def step (c : Booked A) : CapacitorOp A → Booked A
  | .epoch e => ⟨e.distribute cfg c.state subnetId, c.record subnetId e⟩
  | .other s => { c with state := { s with emission := { s.emission with
      rewardsCapacitor := s.emission.rewardsCapacitor.set subnetId (c.capacitor subnetId) } } }

/-- An epoch in consensus, with a weight of at most `1.0` and without saturation. -/
def Valid (c : Booked A) : CapacitorOp A → Prop
  | .epoch e => e.minAttestationPercentage ≤ e.submission.attestationRatio ∧
      e.weight ≤ percentageFactor ∧ e.emissions + c.capacitor subnetId ≤ u128Max ∧
      c.capacitor subnetId + percentMul (e.emissions + c.capacitor subnetId) e.weight ≤ u128Max
  | .other _ => True

/-- The capacitor is what is pending, and nothing is lost or made. -/
def Sound (c : Booked A) : Prop :=
  c.capacitor subnetId = c.book.pending ∧ c.book.paid + c.capacitor subnetId = c.book.earned

/-- A distribution pays what the epoch earns and what was held back. -/
def Delivers (c : Booked A) : CapacitorOp A → Prop
  | .epoch e => e.submission.weightSum ≠ 0 →
      (e.rewards c.state subnetId).overallSubnetReward = e.earns + c.capacitor subnetId
  | .other _ => True

/-- Rounding hides that the capacitor is weighed: held back, its weighed part is
lost in the remainder; distributed, the part it loses is. -/
def Exact (c : Booked A) : CapacitorOp A → Prop
  | .epoch e =>
      let remainder := e.emissions * e.weight % percentageFactor
      if e.submission.weightSum = 0 then
        remainder + c.capacitor subnetId * e.weight < percentageFactor
      else c.capacitor subnetId * (percentageFactor - e.weight) ≤ remainder
  | .other _ => True

instance (c : Booked A) : (op : CapacitorOp A) → Decidable (c.Valid subnetId op)
  | .epoch _ => inferInstanceAs (Decidable (_ ∧ _ ∧ _ ∧ _))
  | .other _ => .isTrue trivial

instance (c : Booked A) : (op : CapacitorOp A) → Decidable (c.Exact subnetId op)
  | .epoch e =>
      if h : e.submission.weightSum = 0 then
        decidable_of_iff (e.emissions * e.weight % percentageFactor +
          c.capacitor subnetId * e.weight < percentageFactor) (by simp only [Exact, if_pos h])
      else
        decidable_of_iff (c.capacitor subnetId * (percentageFactor - e.weight) ≤
          e.emissions * e.weight % percentageFactor) (by simp only [Exact, if_neg h])
  | .other _ => .isTrue trivial

end Booked

/-! ## One epoch -/

/-- What an epoch in consensus does to the capacitor. -/
theorem EpochInput.distribute_capacitor (cfg : Config A) (s : State A) (subnetId : ℕ)
    {e : EpochInput} (he : e.minAttestationPercentage ≤ e.submission.attestationRatio) :
    (e.distribute cfg s subnetId).emission.rewardsCapacitor.val subnetId =
      if e.submission.weightSum = 0 then u128.add (s.emission.rewardsCapacitor.val subnetId)
        (e.rewards s subnetId).overallSubnetReward
      else 0 := by
  unfold distribute
  rcases Metered.distributeRewards_cases cfg u128 ⟨s, e.meter⟩ subnetId e.currentEpoch
      e.currentSubnetEpoch e.submission (e.rewards s subnetId) e.minAttestationPercentage
      e.increaseFactor e.decreaseFactor e.superMajorityThreshold rfl with
    ⟨hlt, _⟩ | ⟨_, hzero, h₁, v, hcred, hq⟩ | ⟨_, hpos, h₁, v, r, _, _, hid, _, hq⟩
  · omega
  · have hcap : h₁.state.emission.rewardsCapacitor = s.emission.rewardsCapacitor := hcred.capacitor
    rw [hq, if_pos hzero]
    simp only [Metered.holdBack, Metered.setCapacitor, Metered.consume_state, Metered.map_state,
      StorageMap.val_set_self, hcap]
  · have hcap := (Metered.payOut_credited cfg u128 h₁ r (e.rewards s subnetId) v).capacitor
    have hcap : (h₁.payOut cfg u128 r (e.rewards s subnetId) v).1.state.emission.rewardsCapacitor =
        h₁.state.emission.rewardsCapacitor.set r.subnetId 0 := hcap
    rw [hq, if_neg hpos, hcap, hid, StorageMap.val_set_self]

namespace Booked

variable (cfg : Config A) {subnetId : ℕ} {c : Booked A} {op : CapacitorOp A}

omit [DecidableEq A] in
/-- Without saturation the subnet's reward is the weighed sum of emissions and
capacitor. -/
theorem overall_eq {e : EpochInput} (hv : c.Valid subnetId (.epoch e)) :
    (e.rewards c.state subnetId).overallSubnetReward =
      (e.emissions * e.weight + c.capacitor subnetId * e.weight) / percentageFactor := by
  rcases hv with ⟨_, hw, hfit, _⟩
  have hadd : u128.add e.emissions (c.capacitor subnetId) = e.emissions + c.capacitor subnetId :=
    Nat.min_eq_left hfit
  change percentMul (u128.add e.emissions (c.capacitor subnetId)) e.weight = _
  rw [hadd, percentMul_eq hfit hw, Nat.add_mul]

omit [DecidableEq A] in
theorem earns_eq {e : EpochInput} (hv : c.Valid subnetId (.epoch e)) :
    e.earns = e.emissions * e.weight / percentageFactor := by
  rcases hv with ⟨_, hw, hfit, _⟩
  exact percentMul_eq (by omega) hw

/-- The capacitor after a valid epoch. -/
theorem capacitor_step {e : EpochInput} (hv : c.Valid subnetId (.epoch e)) :
    (c.step cfg subnetId (.epoch e)).capacitor subnetId =
      if e.submission.weightSum = 0 then
        c.capacitor subnetId + (e.rewards c.state subnetId).overallSubnetReward
      else 0 := by
  have hcap := EpochInput.distribute_capacitor cfg c.state subnetId hv.1
  have hadd : u128.add (c.capacitor subnetId) (e.rewards c.state subnetId).overallSubnetReward =
      c.capacitor subnetId + (e.rewards c.state subnetId).overallSubnetReward := by
    refine Nat.min_eq_left ?_
    rcases hv with ⟨_, _, hfit, hfit'⟩
    have hin : u128.add e.emissions (c.capacitor subnetId) =
        e.emissions + c.capacitor subnetId := Nat.min_eq_left hfit
    change _ + percentMul (u128.add e.emissions (c.capacitor subnetId)) e.weight ≤ _
    rw [hin]
    exact hfit'
  change (e.distribute cfg c.state subnetId).emission.rewardsCapacitor.val subnetId = _
  rw [hcap]
  split
  · exact hadd
  · rfl

/-- Step lemma: from a sound book, an epoch is exact if and only if it keeps the
book sound and delivers. -/
theorem sound_step_iff (hs : c.Sound subnetId) (hv : c.Valid subnetId op) :
    ((c.step cfg subnetId op).Sound subnetId ∧ c.Delivers subnetId op) ↔ c.Exact subnetId op := by
  have hP : 0 < percentageFactor := by decide
  cases op with
  | other s =>
      constructor
      · intro _
        trivial
      · intro _
        refine ⟨?_, trivial⟩
        simpa only [Sound, step, capacitor, StorageMap.val_set_self] using hs
  | epoch e =>
      have hover := overall_eq hv
      have hearns := earns_eq hv
      have hcap := capacitor_step cfg hv
      rcases hs with ⟨hpend, hcons⟩
      by_cases hzero : e.submission.weightSum = 0
      · -- held back: the capacitor has to grow by what was earned
        rw [if_pos hzero] at hcap
        have hbook : (c.step cfg subnetId (.epoch e)).book =
            { c.book with
              earned := c.book.earned + e.earns, pending := c.book.pending + e.earns } := by
          simp only [step, record, if_pos hzero]
        have hexact : c.Exact subnetId (.epoch e) ↔
            (e.rewards c.state subnetId).overallSubnetReward = e.earns := by
          simp only [Exact, if_pos hzero]
          rw [hover, hearns, add_div_eq_iff hP]
        rw [hexact]
        simp only [Sound, Delivers, hcap, hbook, hzero, ne_eq, not_true_eq_false, false_implies,
          and_true]
        omega
      · rw [if_neg hzero] at hcap
        have hbook : (c.step cfg subnetId (.epoch e)).book =
            ⟨c.book.earned + e.earns, 0,
              c.book.paid + (e.rewards c.state subnetId).overallSubnetReward⟩ := by
          simp only [step, record, if_neg hzero]
        have hexact : c.Exact subnetId (.epoch e) ↔
            (e.rewards c.state subnetId).overallSubnetReward =
              e.earns + c.capacitor subnetId := by
          simp only [Exact, if_neg hzero]
          rw [hover, hearns, add_mul_div_eq_iff hP hv.2.1]
        rw [hexact]
        simp only [Sound, Delivers, hcap, hbook, hzero, ne_eq, not_false_eq_true, true_implies,
          true_and]
        omega

end Booked

/-! ## Whole runs -/

/-- Start with an empty capacitor and an empty book, and run valid epochs of one
subnet, with anything else in between. At every point the capacitor is what was
held back since the last distribution, every distribution pays what it earns and
what was held back, and what was paid and is held back is all that was earned, if
and only if every epoch of the run is exact. -/
theorem capacitor_sound_iff (cfg : Config A) (subnetId : ℕ) (s₀ : State A)
    (ops : List (CapacitorOp A)) (hempty : s₀.emission.rewardsCapacitor.val subnetId = 0)
    (hvalid : Along (Booked.step cfg subnetId) (Booked.Valid subnetId) ⟨s₀, ⟨0, 0, 0⟩⟩ ops) :
    Along (Booked.step cfg subnetId)
      (fun c op => (c.step cfg subnetId op).Sound subnetId ∧ c.Delivers subnetId op)
      ⟨s₀, ⟨0, 0, 0⟩⟩ ops ↔
    Along (Booked.step cfg subnetId) (Booked.Exact subnetId) ⟨s₀, ⟨0, 0, 0⟩⟩ ops := by
  have hinit : Booked.Sound subnetId ⟨s₀, ⟨0, 0, 0⟩⟩ := by
    refine ⟨hempty, ?_⟩
    simp only [Booked.capacitor, hempty]
  refine along_iff (I := Booked.Sound subnetId) ?_ ?_ hvalid hinit
  · intro c op hv hs
    exact Booked.sound_step_iff cfg hs hv
  · intro c op _ _ h
    exact h.1

/-- An epoch of subnet 7 in consensus: held back, or distributed to one node. -/
def demoEpoch (emissions weight : ℕ) (heldBack : Bool) : EpochInput where
  emissions := emissions
  weight := weight
  meter := ⟨⟨1000000000000, 1000000000000⟩, ⟨0, 0⟩⟩
  currentEpoch := 5
  currentSubnetEpoch := 5
  submission := { demoSubmission with weightSum := if heldBack then 0 else 3 }
  minAttestationPercentage := 660000000000000000
  increaseFactor := 500000000000000
  decreaseFactor := 500000000000000000
  superMajorityThreshold := 875000000000000000

/-- One epoch held back, then one distributed at weight `1.0`: exact, and both
epochs are paid. -/
theorem capacitor_sound_iff_demo :
    let ops : List (CapacitorOp ℕ) := [.epoch (demoEpoch 100 percentageFactor true),
      .epoch (demoEpoch 200 percentageFactor false)]
    (run (Booked.step (.runtime ℕ) 7) ⟨demoEpochState, ⟨0, 0, 0⟩⟩ ops).book = ⟨300, 0, 300⟩ ∧
    Along (Booked.step (.runtime ℕ) 7)
      (fun c op => (c.step (.runtime ℕ) 7 op).Sound 7 ∧ c.Delivers 7 op)
      ⟨demoEpochState, ⟨0, 0, 0⟩⟩ ops := by
  refine ⟨by decide +kernel, ?_⟩
  exact (capacitor_sound_iff (.runtime ℕ) 7 demoEpochState _ rfl (by decide +kernel)).mpr
    (by decide +kernel)

/-- Two epochs of 100 held back at weight `1.0` leave 300 in the capacitor, not 200.
Held back and then distributed at weight `0.5`, two epochs of 100 pay 75, not 100. -/
theorem capacitor_compounds :
    let held : List (CapacitorOp ℕ) := [.epoch (demoEpoch 100 percentageFactor true),
      .epoch (demoEpoch 100 percentageFactor true)]
    let released : List (CapacitorOp ℕ) := [.epoch (demoEpoch 100 (percentageFactor / 2) true),
      .epoch (demoEpoch 100 (percentageFactor / 2) false)]
    let c₀ : Booked ℕ := ⟨demoEpochState, ⟨0, 0, 0⟩⟩
    (Along (Booked.step (.runtime ℕ) 7) (Booked.Valid 7) c₀ held ∧
      (run (Booked.step (.runtime ℕ) 7) c₀ held).capacitor 7 = 300 ∧
      (run (Booked.step (.runtime ℕ) 7) c₀ held).book = ⟨200, 200, 0⟩) ∧
    Along (Booked.step (.runtime ℕ) 7) (Booked.Valid 7) c₀ released ∧
      (run (Booked.step (.runtime ℕ) 7) c₀ released).book = ⟨100, 0, 75⟩ := by
  decide +kernel

end Hypertensor
