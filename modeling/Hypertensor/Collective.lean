import Mathlib
import Hypertensor.Base.Run
import Hypertensor.Pallet.System

/-!
# Hypertensor.Collective — parameters that belong together

The collective sets the parameters of the pallet. Four relations join two of them each:
consensus and super majority, the least number of nodes and the largest emergency set, the
registration period and its minimum, and the bounds an owner chooses an idle period in.

Each relation has two setters. Both check it for the registration period; for the others one
side at least does not, and `parameters_consistent_iff` says which calls break it.
-/

namespace Hypertensor

open Base

variable {A : Type}

/-- A chain with the bounds of idle periods. -/
structure CollectiveChain (A : Type) extends Chain A where
  minIdleClassificationEpochs : ℕ
  maxIdleClassificationEpochs : ℕ

namespace CollectiveChain

/-! ## Setters -/

/-- `do_set_min_attestation_percentage`. -/
def setMinAttestationPercentage (c : CollectiveChain A) (value : ℕ) :
    Except Error (CollectiveChain A) := do
  ensure (decide (value ≤ percentageFactor) &&
    decide (value > quot percentageFactor 2 (by decide))) .invalidPercent
  .ok { c with params := { c.params with minAttestationPercentage := value } }

/-- `do_set_super_majority_attestation_ratio`. -/
def setSuperMajorityAttestationRatio (c : CollectiveChain A) (value : ℕ) :
    Except Error (CollectiveChain A) := do
  ensure (decide (value ≤ percentageFactor)) .invalidPercent
  ensure (decide (value ≥ c.params.minAttestationPercentage))
    .invalidSuperMajorityAttestationRatio
  .ok { c with params := { c.params with superMajorityAttestationRatio := value } }

/-- `do_set_min_max_subnet_node`. -/
def setMinMaxSubnetNode (c : CollectiveChain A) (min max : ℕ) :
    Except Error (CollectiveChain A) := do
  ensure (decide (min < max) && decide (min > 0)) .invalidValues
  .ok { c with
    params := { c.params with minSubnetNodes := min }
    hookParams := { c.hookParams with maxSubnetNodes := max } }

/-- `do_set_max_emergency_subnet_nodes`. -/
def setMaxEmergencySubnetNodes (c : CollectiveChain A) (value : ℕ) :
    Except Error (CollectiveChain A) := do
  ensure (decide (value ≥ c.params.minSubnetNodes)) .invalidMaxEmergencySubnetNodes
  .ok { c with callParams := { c.callParams with maxEmergencySubnetNodes := value } }

/-- `do_set_min_subnet_registration_epochs`. -/
def setMinSubnetRegistrationEpochs (c : CollectiveChain A) (value : ℕ) :
    Except Error (CollectiveChain A) := do
  ensure (decide (value < c.hookParams.subnetRegistrationEpochs))
    .invalidMinSubnetRegistrationEpochs
  .ok { c with callParams := { c.callParams with minSubnetRegistrationEpochs := value } }

/-- `do_set_subnet_registration_epochs`. -/
def setSubnetRegistrationEpochs (c : CollectiveChain A) (value : ℕ) :
    Except Error (CollectiveChain A) := do
  ensure (decide (value > c.callParams.minSubnetRegistrationEpochs))
    .invalidSubnetRegistrationEpochs
  .ok { c with hookParams := { c.hookParams with subnetRegistrationEpochs := value } }

/-- `do_set_min_idle_classification_epochs`. -/
def setMinIdleClassificationEpochs (c : CollectiveChain A) (value : ℕ) :
    Except Error (CollectiveChain A) :=
  .ok { c with minIdleClassificationEpochs := value }

/-- `do_set_max_idle_classification_epochs`. -/
def setMaxIdleClassificationEpochs (c : CollectiveChain A) (value : ℕ) :
    Except Error (CollectiveChain A) :=
  .ok { c with maxIdleClassificationEpochs := value }

/-- `do_owner_update_idle_classification_epochs`, which the bounds are for. -/
def ownerUpdateIdleClassificationEpochs [DecidableEq A] (c : CollectiveChain A) (coldkey : A)
    (subnetId value : ℕ) : Except Error (CollectiveChain A) := do
  ensure (c.isSubnetOwner coldkey subnetId) .notSubnetOwner
  ensure (decide (value ≥ c.minIdleClassificationEpochs) &&
    decide (value ≤ c.maxIdleClassificationEpochs)) .invalidIdleClassificationEpochs
  .ok { c with emission := { c.emission with
    idleClassificationEpochs := c.emission.idleClassificationEpochs.set subnetId value } }

/-- What a setter of any other parameter leaves of `c`, whatever else it sets. -/
def keepCollective (c c' : CollectiveChain A) : CollectiveChain A :=
  { c' with
    toChain := { c.keepStore c'.toChain with
      params := { c'.params with
        minAttestationPercentage := c.params.minAttestationPercentage
        superMajorityAttestationRatio := c.params.superMajorityAttestationRatio
        minSubnetNodes := c.params.minSubnetNodes }
      hookParams := { c'.hookParams with
        maxSubnetNodes := c.hookParams.maxSubnetNodes
        subnetRegistrationEpochs := c.hookParams.subnetRegistrationEpochs }
      callParams := { c'.callParams with
        maxEmergencySubnetNodes := c.callParams.maxEmergencySubnetNodes
        minSubnetRegistrationEpochs := c.callParams.minSubnetRegistrationEpochs } }
    minIdleClassificationEpochs := c.minIdleClassificationEpochs
    maxIdleClassificationEpochs := c.maxIdleClassificationEpochs }

end CollectiveChain

/-! ## Calls of the collective -/

/-- What the collective can set. -/
inductive CollectiveOp (A : Type) where
  | setMinAttestationPercentage (value : ℕ)
  | setSuperMajorityAttestationRatio (value : ℕ)
  | setMinMaxSubnetNode (min max : ℕ)
  | setMaxEmergencySubnetNodes (value : ℕ)
  | setMinSubnetRegistrationEpochs (value : ℕ)
  | setSubnetRegistrationEpochs (value : ℕ)
  | setMinIdleClassificationEpochs (value : ℕ)
  | setMaxIdleClassificationEpochs (value : ℕ)
  /-- A setter of any other parameter. -/
  | other (c : CollectiveChain A)

namespace CollectiveOp

/-- What a call leads to. -/
def call (c : CollectiveChain A) : CollectiveOp A → Except Error (CollectiveChain A)
  | setMinAttestationPercentage value => c.setMinAttestationPercentage value
  | setSuperMajorityAttestationRatio value => c.setSuperMajorityAttestationRatio value
  | setMinMaxSubnetNode min max => c.setMinMaxSubnetNode min max
  | setMaxEmergencySubnetNodes value => c.setMaxEmergencySubnetNodes value
  | setMinSubnetRegistrationEpochs value => c.setMinSubnetRegistrationEpochs value
  | setSubnetRegistrationEpochs value => c.setSubnetRegistrationEpochs value
  | setMinIdleClassificationEpochs value => c.setMinIdleClassificationEpochs value
  | setMaxIdleClassificationEpochs value => c.setMaxIdleClassificationEpochs value
  | other c' => .ok (c.keepCollective c')

/-- The chain after a call. One that fails changes nothing. -/
def step (c : CollectiveChain A) (op : CollectiveOp A) : CollectiveChain A := commit c (op.call c)

/-- The relation that a call ought to check and does not. -/
def Respects (c : CollectiveChain A) : CollectiveOp A → Prop
  | setMinAttestationPercentage value => value ≤ c.params.superMajorityAttestationRatio
  | setMinMaxSubnetNode min _ => min ≤ c.callParams.maxEmergencySubnetNodes
  | setMinIdleClassificationEpochs value => value ≤ c.maxIdleClassificationEpochs
  | setMaxIdleClassificationEpochs value => c.minIdleClassificationEpochs ≤ value
  | _ => True

/-- A call that is accepted respects it. -/
def Careful (c : CollectiveChain A) (op : CollectiveOp A) : Prop :=
  (op.call c).toBool = true → op.Respects c

end CollectiveOp

/-! ## Consistent parameters -/

/-- The relations that all setters check. -/
structure CollectiveChain.Checked (c : CollectiveChain A) : Prop where
  ratio : c.params.superMajorityAttestationRatio ≤ percentageFactor
  registration : c.callParams.minSubnetRegistrationEpochs < c.hookParams.subnetRegistrationEpochs

/-- The parameters fit together. -/
structure CollectiveChain.Consistent (c : CollectiveChain A) : Prop extends c.Checked where
  attestation : c.params.minAttestationPercentage ≤ c.params.superMajorityAttestationRatio
  emergency : c.params.minSubnetNodes ≤ c.callParams.maxEmergencySubnetNodes
  idle : c.minIdleClassificationEpochs ≤ c.maxIdleClassificationEpochs

/-- What consistent parameters are for. -/
structure CollectiveChain.Usable [DecidableEq A] (c : CollectiveChain A) : Prop where
  /-- What has a super majority has consensus. -/
  consensus : ∀ ratio, c.params.superMajorityAttestationRatio ≤ ratio →
    c.params.minAttestationPercentage ≤ ratio
  /-- Some emergency set has an admissible size. -/
  emergency : ∃ size, c.params.minSubnetNodes ≤ size ∧
    size ≤ c.callParams.maxEmergencySubnetNodes
  /-- Every owner can choose an idle period. -/
  idle : ∀ coldkey subnetId, c.isSubnetOwner coldkey subnetId = true →
    ∃ value c', c.ownerUpdateIdleClassificationEpochs coldkey subnetId value = .ok c'

section Consistent

variable {c : CollectiveChain A} {op : CollectiveOp A}

theorem CollectiveChain.Consistent.usable [DecidableEq A] (h : c.Consistent) : c.Usable where
  consensus ratio hratio := h.attestation.trans hratio
  emergency := ⟨c.params.minSubnetNodes, le_rfl, h.emergency⟩
  idle coldkey subnetId howner := by
    refine ⟨c.minIdleClassificationEpochs, ?_⟩
    unfold CollectiveChain.ownerUpdateIdleClassificationEpochs
    rw [howner, decide_eq_true (le_refl c.minIdleClassificationEpochs), decide_eq_true h.idle]
    exact ⟨_, rfl⟩

/-- Every accepted call keeps what all setters check. -/
theorem CollectiveOp.checked {c' : CollectiveChain A} (h : c.Checked)
    (hcall : op.call c = .ok c') : c'.Checked := by
  cases op with
  | setMinAttestationPercentage value =>
      simp only [call, CollectiveChain.setMinAttestationPercentage, ensure_bind_ok,
        Except.ok.injEq] at hcall
      rcases hcall with ⟨_, rfl⟩
      exact ⟨h.ratio, h.registration⟩
  | setSuperMajorityAttestationRatio value =>
      simp only [call, CollectiveChain.setSuperMajorityAttestationRatio, ensure_bind_ok,
        decide_eq_true_eq, Except.ok.injEq] at hcall
      rcases hcall with ⟨hle, _, rfl⟩
      exact ⟨hle, h.registration⟩
  | setMinMaxSubnetNode min max =>
      simp only [call, CollectiveChain.setMinMaxSubnetNode, ensure_bind_ok,
        Except.ok.injEq] at hcall
      rcases hcall with ⟨_, rfl⟩
      exact ⟨h.ratio, h.registration⟩
  | setMaxEmergencySubnetNodes value =>
      simp only [call, CollectiveChain.setMaxEmergencySubnetNodes, ensure_bind_ok,
        Except.ok.injEq] at hcall
      rcases hcall with ⟨_, rfl⟩
      exact ⟨h.ratio, h.registration⟩
  -- the two periods are compared by the setter of either
  | setMinSubnetRegistrationEpochs value =>
      simp only [call, CollectiveChain.setMinSubnetRegistrationEpochs, ensure_bind_ok,
        decide_eq_true_eq, Except.ok.injEq] at hcall
      rcases hcall with ⟨hlt, rfl⟩
      exact ⟨h.ratio, hlt⟩
  | setSubnetRegistrationEpochs value =>
      simp only [call, CollectiveChain.setSubnetRegistrationEpochs, ensure_bind_ok,
        decide_eq_true_eq, Except.ok.injEq] at hcall
      rcases hcall with ⟨hgt, rfl⟩
      exact ⟨h.ratio, hgt⟩
  | setMinIdleClassificationEpochs value =>
      cases hcall
      exact ⟨h.ratio, h.registration⟩
  | setMaxIdleClassificationEpochs value =>
      cases hcall
      exact ⟨h.ratio, h.registration⟩
  | other c'' =>
      cases hcall
      exact ⟨h.ratio, h.registration⟩

/-- An accepted call keeps the parameters consistent just when it respects what it does not
check. -/
theorem CollectiveOp.consistent_iff {c' : CollectiveChain A} (h : c.Consistent)
    (hcall : op.call c = .ok c') : c'.Consistent ↔ op.Respects c := by
  have hchecked := checked h.toChecked hcall
  cases op with
  | setMinAttestationPercentage value =>
      simp only [call, CollectiveChain.setMinAttestationPercentage, ensure_bind_ok,
        Except.ok.injEq] at hcall
      rcases hcall with ⟨_, rfl⟩
      exact ⟨fun h' => h'.attestation, fun hle => ⟨hchecked, hle, h.emergency, h.idle⟩⟩
  -- this setter compares with the other ratio, the one before does not
  | setSuperMajorityAttestationRatio value =>
      simp only [call, CollectiveChain.setSuperMajorityAttestationRatio, ensure_bind_ok,
        decide_eq_true_eq, Except.ok.injEq] at hcall
      rcases hcall with ⟨_, hge, rfl⟩
      exact ⟨fun _ => trivial, fun _ => ⟨hchecked, hge, h.emergency, h.idle⟩⟩
  | setMinMaxSubnetNode min max =>
      simp only [call, CollectiveChain.setMinMaxSubnetNode, ensure_bind_ok,
        Except.ok.injEq] at hcall
      rcases hcall with ⟨_, rfl⟩
      exact ⟨fun h' => h'.emergency, fun hle => ⟨hchecked, h.attestation, hle, h.idle⟩⟩
  | setMaxEmergencySubnetNodes value =>
      simp only [call, CollectiveChain.setMaxEmergencySubnetNodes, ensure_bind_ok,
        decide_eq_true_eq, Except.ok.injEq] at hcall
      rcases hcall with ⟨hge, rfl⟩
      exact ⟨fun _ => trivial, fun _ => ⟨hchecked, h.attestation, hge, h.idle⟩⟩
  | setMinSubnetRegistrationEpochs value =>
      simp only [call, CollectiveChain.setMinSubnetRegistrationEpochs, ensure_bind_ok,
        Except.ok.injEq] at hcall
      rcases hcall with ⟨_, rfl⟩
      exact ⟨fun _ => trivial, fun _ => ⟨hchecked, h.attestation, h.emergency, h.idle⟩⟩
  | setSubnetRegistrationEpochs value =>
      simp only [call, CollectiveChain.setSubnetRegistrationEpochs, ensure_bind_ok,
        Except.ok.injEq] at hcall
      rcases hcall with ⟨_, rfl⟩
      exact ⟨fun _ => trivial, fun _ => ⟨hchecked, h.attestation, h.emergency, h.idle⟩⟩
  -- the bounds of the idle period are set without any check
  | setMinIdleClassificationEpochs value =>
      cases hcall
      exact ⟨fun h' => h'.idle, fun hle => ⟨hchecked, h.attestation, h.emergency, hle⟩⟩
  | setMaxIdleClassificationEpochs value =>
      cases hcall
      exact ⟨fun h' => h'.idle, fun hle => ⟨hchecked, h.attestation, h.emergency, hle⟩⟩
  | other c'' =>
      cases hcall
      exact ⟨fun _ => trivial, fun _ => ⟨hchecked, h.attestation, h.emergency, h.idle⟩⟩

/-- A call leads to consistent parameters just when it is rejected or careful. -/
theorem CollectiveOp.step_consistent_iff (h : c.Consistent) :
    (op.step c).Consistent ↔ op.Careful c :=
  commit_iff (I := CollectiveChain.Consistent) h fun _ hcall => consistent_iff h hcall

/-- Along any sequence of calls the parameters stay consistent, and so usable, if and only
if every accepted call respects the relation its setter does not check. -/
theorem parameters_consistent_iff [DecidableEq A] (c : CollectiveChain A)
    (ops : List (CollectiveOp A)) (h : c.Consistent) :
    Always CollectiveOp.step (fun c => c.Consistent ∧ c.Usable) c ops ↔
      Along CollectiveOp.step (fun c op => op.Careful c) c ops := by
  refine always_iff_along_of (I := CollectiveChain.Consistent) (P := fun _ _ => True)
    (fun _ hc => ⟨hc, hc.usable⟩) ?_ ?_ (along_of_forall fun _ _ _ => trivial) h
  · intro c op _ hc
    constructor
    · rintro ⟨hc', _⟩
      exact (op.step_consistent_iff hc).mp hc'
    · intro hcareful
      have hc' : (op.step c).Consistent := (op.step_consistent_iff hc).mpr hcareful
      exact ⟨hc', hc'.usable⟩
  · intro c op _ hc hcareful
    exact (op.step_consistent_iff hc).mpr hcareful

end Consistent

/-! ## A new chain -/

/-- A week is a part of a year. -/
theorem weeksPerYear_ne_zero : 52 ≠ 0 := by decide

/-- A new chain with the defaults of the idle bounds. -/
def CollectiveChain.genesis (rt : Runtime A) (balances : StorageMap A ℕ) : CollectiveChain A where
  toChain := .genesis rt balances
  minIdleClassificationEpochs := 1
  maxIdleClassificationEpochs := quot rt.epochsPerYear 52 weeksPerYear_ne_zero

/-- The parameters of a new chain are consistent where a year has enough epochs. -/
theorem CollectiveChain.genesis_consistent (rt : Runtime A) (balances : StorageMap A ℕ)
    (h : 52 ≤ rt.epochsPerYear) : (CollectiveChain.genesis rt balances).Consistent where
  ratio := by
    show 875000000000000000 ≤ percentageFactor
    decide
  registration := by
    show 0 < rt.epochsPerYear / 52
    exact Nat.div_pos h (by decide)
  attestation := by
    show 660000000000000000 ≤ 875000000000000000
    decide
  emergency := by
    show 3 ≤ 64
    decide
  idle := by
    show 1 ≤ rt.epochsPerYear / 52
    exact Nat.div_pos h (by decide)

/-- Consensus may be made harder than a super majority, no emergency set be small enough and
no idle period be allowed: each of the three calls is accepted on a new chain. -/
theorem parameters_not_consistent :
    let c := CollectiveChain.genesis Runtime.runtime demoBalances
    c.Consistent ∧
    ¬ Always CollectiveOp.step (fun c => c.Consistent ∧ c.Usable) c
      [.setMinAttestationPercentage 900000000000000000] ∧
    ¬ Always CollectiveOp.step (fun c => c.Consistent ∧ c.Usable) c [.setMinMaxSubnetNode 65 256] ∧
    ¬ Always CollectiveOp.step (fun c => c.Consistent ∧ c.Usable) c
      [.setMaxIdleClassificationEpochs 0] := by
  refine ⟨CollectiveChain.genesis_consistent _ _ (by decide), ?_, ?_, ?_⟩
  · rintro ⟨_, h, _⟩
    exact absurd h.attestation (by decide)
  · rintro ⟨_, h, _⟩
    exact absurd h.emergency (by decide)
  · rintro ⟨_, h, _⟩
    exact absurd h.idle (by decide)

/-- Raised together, and the super majority first, they stay consistent. -/
theorem parameters_consistent_iff_demo :
    Always CollectiveOp.step (fun c => c.Consistent ∧ c.Usable)
      (CollectiveChain.genesis Runtime.runtime demoBalances)
      [.setSuperMajorityAttestationRatio 950000000000000000,
        .setMinAttestationPercentage 900000000000000000] :=
  (parameters_consistent_iff _ _ (CollectiveChain.genesis_consistent _ _ (by decide))).mpr
    ⟨fun _ => trivial, fun _ => show 900000000000000000 ≤ 950000000000000000 by decide, trivial⟩

end Hypertensor
