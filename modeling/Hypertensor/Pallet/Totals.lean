import Mathlib
import Hypertensor.Pallet.System

/-!
# Hypertensor.Pallet.Totals — the totals of node stake

Stake is written in three places at once: for its node, for its subnet and in total. All
three are lowered on their own, each not below zero, so they stay in step only as long as
nobody loses more than they have.

A slash is a share of the stake of its node. The share is a parameter that is not
checked when it is set, and above 100% the slash can be more than all of the stake:
`slash_takes_others_stake` is such a run. `SlashBounded` excludes just these slashes.

* `balanced_preserved`: whatever else happens keeps the totals in step.
* `stake_totals_are_sums`: so they are the sums of the stakes along every run.
-/

namespace Hypertensor

open Base Relation

variable {known room : Prop} {D L : ℕ}

/-! ## Totals -/

namespace Records

variable {r r' : Records} {i id x : ℕ}

/-- The stake of all nodes of a subnet, be they in it or not. -/
def stakeIn (r : Records) (i : ℕ) : ℕ := r.nodeSubnetStake.total fun p x => if p.2 = i then x else 0

/-- The totals are the sums of the stakes. -/
structure Balanced (r : Records) : Prop where
  subnet : ∀ i, r.totalSubnetStake.val i = r.stakeIn i
  total : r.totalStake = r.totalSubnetStake.sum

theorem Balanced.of_eq (h : r.Balanced) (hstake : r'.nodeSubnetStake = r.nodeSubnetStake)
    (hsubnet : r'.totalSubnetStake = r.totalSubnetStake) (htotal : r'.totalStake = r.totalStake) :
    r'.Balanced where
  subnet i := by
    unfold stakeIn
    rw [hstake, hsubnet]
    exact h.subnet i
  total := by
    rw [hsubnet, htotal]
    exact h.total

/-- The stake of a subnet after that of one node is written. -/
theorem stakeIn_set (r : Records) (i id j y : ℕ) :
    (r.nodeSubnetStake.set (id, i) y).total (fun p x => if p.2 = j then x else 0) +
      (if i = j then r.nodeSubnetStake.val (id, i) else 0) =
    r.stakeIn j + if i = j then y else 0 :=
  StorageMap.total_set_val r.nodeSubnetStake (fun p x => if p.2 = j then x else 0) (id, i) y
    (ite_self 0)

/-- A node has at most what all have. -/
theorem stake_le_stakeIn (r : Records) (i id : ℕ) : r.nodeSubnetStake.val (id, i) ≤ r.stakeIn i := by
  have hset := r.stakeIn_set i id i 0
  rw [if_pos rfl, if_pos rfl] at hset
  omega

/-- Stake is added. -/
theorem Balanced.credit (h : r.Balanced) (i id x : ℕ) : (r.credit i id .unbounded x).Balanced := by
  constructor
  · intro j
    have hset := r.stakeIn_set i id j (r.nodeSubnetStake.val (id, i) + x)
    have hj := h.subnet j
    show (r.totalSubnetStake.set i (r.totalSubnetStake.val i + x)).val j =
      (r.nodeSubnetStake.set (id, i) (r.nodeSubnetStake.val (id, i) + x)).total _
    rw [StorageMap.val_set]
    by_cases heq : i = j
    · subst heq
      rw [if_pos rfl, if_pos rfl] at hset
      rw [if_pos rfl]
      omega
    · rw [if_neg heq, if_neg heq] at hset
      rw [if_neg (Ne.symm heq)]
      omega
  · have hset := StorageMap.sum_set r.totalSubnetStake i (r.totalSubnetStake.val i + x)
    have htotal := h.total
    show r.totalStake + x = (r.totalSubnetStake.set i (r.totalSubnetStake.val i + x)).sum
    omega

/-- Stake is taken from a node that has it. -/
theorem Balanced.debit (h : r.Balanced) (hx : x ≤ r.nodeSubnetStake.val (id, i)) :
    (r.debit i id x).Balanced := by
  have hle : x ≤ r.totalSubnetStake.val i := by
    rw [h.subnet i]
    exact hx.trans (r.stake_le_stakeIn i id)
  constructor
  · intro j
    have hset := r.stakeIn_set i id j (r.nodeSubnetStake.val (id, i) - x)
    have hj := h.subnet j
    show (r.totalSubnetStake.set i (r.totalSubnetStake.val i - x)).val j =
      (r.nodeSubnetStake.set (id, i) (r.nodeSubnetStake.val (id, i) - x)).total _
    rw [StorageMap.val_set]
    by_cases heq : i = j
    · subst heq
      rw [if_pos rfl, if_pos rfl] at hset
      rw [if_pos rfl]
      omega
    · rw [if_neg heq, if_neg heq] at hset
      rw [if_neg (Ne.symm heq)]
      omega
  · have hset := StorageMap.sum_set r.totalSubnetStake i (r.totalSubnetStake.val i - x)
    have hall := StorageMap.val_le_sum r.totalSubnetStake i
    have htotal := h.total
    show r.totalStake - x = (r.totalSubnetStake.set i (r.totalSubnetStake.val i - x)).sum
    omega

/-- A step of the reward code. -/
theorem Balanced.step (h : r.Balanced) (hstep : Step .unbounded ⟨True, known, True⟩ i r r') :
    r'.Balanced := by
  cases hstep with
  | credit x _ => exact h.credit i _ x
  | slash x hcovered => exact h.debit (hcovered trivial)
  | _ => exact h.of_eq rfl rfl rfl

end Records

/-- Whatever happens keeps the totals in step, if slashes are covered. -/
theorem Store.balanced_preserved :
    Preserved .unbounded known True room D L fun s => s.toRecords.Balanced where
  call {s s'} hsound h hcall := by
    cases hcall with
    | seat x count _ _ _ _ => exact (h.credit _ _ x).of_eq rfl rfl rfl
    | enqueue x _ _ _ => exact (h.credit _ _ x).of_eq rfl rfl rfl
    | addStake x _ _ => exact h.credit _ _ x
    | @removeStake i id x clean hx =>
        cases clean with
        | none => exact h.debit hx
        | some v =>
            have hclean : (s.toRecords.cleanValidator v).Balanced := h.of_eq rfl rfl rfl
            exact hclean.debit hx
    | _ => exact h.of_eq rfl rfl rfl
  submit _ h hsubmit := by
    cases hsubmit with
    | propose _ _ _ _ => exact h
    | attest _ _ => exact h
  tick h := h.of_eq rfl rfl rfl
  hook _ h hstep := by
    cases hstep with
    | node _ hstep => exact h.step hstep
    | activate _ _ _ => exact h.of_eq rfl rfl rfl
    | skip _ _ _ => exact h.of_eq rfl rfl rfl
    | removeSubnet _ => exact h.of_eq rfl rfl rfl
    | weigh _ => exact h

/-! ## Slashes -/

section Slashes

variable {A : Type}

/-- A slash is at most a share of the stake, or the largest amount that is slashed. -/
theorem getSlashAmount_le {s : State A} {stake delta : ℕ}
    (h : s.params.baseSlashPercentage * delta ≤ percentageFactor ^ 2 ∨
      s.params.maxSlashAmount ≤ stake) : Metered.getSlashAmount s stake delta ≤ stake := by
  unfold Metered.getSlashAmount
  dsimp only
  rcases h with hshare | hmax
  · -- both percentages together are at most 100%
    have hle : percentMul (percentMul stake s.params.baseSlashPercentage) delta ≤ stake := by
      calc percentMul (percentMul stake s.params.baseSlashPercentage) delta
          ≤ percentMul stake s.params.baseSlashPercentage * delta / percentageFactor :=
            percentMul_le_div ..
        _ ≤ stake * s.params.baseSlashPercentage / percentageFactor * delta / percentageFactor :=
            Nat.div_le_div_right (Nat.mul_le_mul_right _ (percentMul_le_div ..))
        _ ≤ stake * s.params.baseSlashPercentage * delta / percentageFactor / percentageFactor :=
            Nat.div_le_div_right <| by
              rw [Nat.mul_comm, Nat.mul_comm _ delta]
              exact Nat.mul_div_le_mul_div_assoc ..
        _ = stake * (s.params.baseSlashPercentage * delta) / percentageFactor ^ 2 := by
            rw [Nat.div_div_eq_div_mul, ← pow_two, mul_assoc]
        _ ≤ stake * percentageFactor ^ 2 / percentageFactor ^ 2 :=
            Nat.div_le_div_right (Nat.mul_le_mul_left _ hshare)
        _ = stake := Nat.mul_div_cancel _ (by decide)
    split
    · next hgt => exact hgt.le.trans hle
    · exact hle
  · split
    · exact hmax
    · next hle => exact (not_lt.mp hle).trans hmax

/-- `do_set_base_slash_percentage`. -/
def Chain.doSetBaseSlashPercentage (c : Chain A) (value : ℕ) : Chain A :=
  { c with params := { c.params with baseSlashPercentage := value } }

/-- `do_set_max_slash_amount`. -/
def Chain.doSetMaxSlashAmount (c : Chain A) (value : ℕ) : Chain A :=
  { c with params := { c.params with maxSlashAmount := value } }

variable [DecidableEq A]

/-- If the submission that is settled in this block did not find enough attestors: what is
slashed is at most 100% of the stake, or it cannot be more than the stake. -/
def Chain.SlashBounded (rt : Runtime A) (c : Chain A) : Prop :=
  ∀ i ∈ c.registry.slotAssignment.find? (c.block % rt.epochLength),
    ∀ d ∈ c.registry.subnetConsensusSubmission.find?
      (i, wrapSub 32 (c.currentSubnetEpoch rt i) 1),
    d.attestationRatio < c.params.minAttestationPercentage →
      c.params.baseSlashPercentage *
        Metered.attestationDelta d.attestationRatio c.params.minAttestationPercentage ≤
          percentageFactor ^ 2 ∨
      c.params.maxSlashAmount ≤ c.stake.nodeSubnetStake.val (d.validatorId, i)

omit [DecidableEq A] in
theorem Chain.slashCoveredAt_of_bounded {rt : Runtime A} {c : Chain A} (h : c.SlashBounded rt) :
    c.SlashCoveredAt rt := by
  intro i d hi hd hlow
  exact getSlashAmount_le (h i hi d hd hlow)

/-- The next block slashes nobody of more than they have. -/
def PalletOp.SlashBounded (rt : Runtime A) (c : Chain A) : PalletOp A → Prop
  | nextBlock => (c.atBlock (c.block + 1)).SlashBounded rt
  | _ => True

/-- A label that computes the same without the limit of `u128`. -/
def PalletOp.Fits (rt : Runtime A) (c : Chain A) (op : PalletOp A) : Prop :=
  op.stepIn rt u128 c = op.stepIn rt .unbounded c

instance (rt : Runtime A) (c : Chain A) : Decidable (c.SlashBounded rt) :=
  inferInstanceAs (Decidable (∀ i ∈ c.registry.slotAssignment.find? (c.block % rt.epochLength),
    ∀ d ∈ c.registry.subnetConsensusSubmission.find? (i, wrapSub 32 (c.currentSubnetEpoch rt i) 1),
    d.attestationRatio < c.params.minAttestationPercentage → _ ∨ _))

instance (rt : Runtime A) (c : Chain A) : (op : PalletOp A) → Decidable (op.SlashBounded rt c)
  | .nextBlock => inferInstanceAs (Decidable (Chain.SlashBounded rt _))
  | .registerSubnet _ _ _ | .activateSubnet _ _ | .registerSubnetNode _ _ | .updateNode _ _ _ _
  | .removeSubnetNode _ _ _ | .collectiveRemoveSubnet _ | .collectiveRemoveSubnetNode _ _
  | .ownerPauseSubnet _ _ | .ownerUnpauseSubnet _ _ | .ownerSetEmergencyValidatorSet _ _ _
  | .ownerRevertEmergencyValidatorSet _ _ | .ownerDeactivateSubnet _ _
  | .ownerAddOrUpdateInitialValidators _ _ _ | .ownerRemoveInitialValidators _ _ _
  | .updateSubnet _ _ _ | .proposeAttestation _ _ _ _ _ _ _ _ | .attest _ _ _ _ | .staking _
  | .validator _ | .other _ => .isTrue trivial

instance (rt : Runtime A) (c : Chain A) (op : PalletOp A) : Decidable (op.Fits rt c) :=
  inferInstanceAs (Decidable (_ = _))

end Slashes

/-! ## Runs -/

section Runs

variable {A : Type} [DecidableEq A]

/-- Along every run that stays within `u128` and in which no slash can be more than the stake of
its node, the totals are the sums: `TotalSubnetStake` of a subnet is the stake of all nodes in it,
and `TotalStake` that of all subnets. -/
theorem stake_totals_are_sums (rt : Runtime A) (balances : StorageMap A ℕ)
    (ops : List (PalletOp A))
    (hops : Along (PalletOp.step rt)
      (fun c op => op.IdsLeft c ∧ op.SlashBounded rt c ∧ op.Fits rt c) (.genesis rt balances) ops) :
    let c := run (PalletOp.step rt) (.genesis rt balances) ops
    (∀ s, c.stake.totalSubnetStake.val s =
      c.stake.nodeSubnetStake.total fun p x => if p.2 = s then x else 0) ∧
    c.stake.totalStake = c.stake.totalSubnetStake.sum := by
  intro c
  have hgenesis : (Chain.genesis rt balances).store.Balanced := by
    constructor
    · intro i
      exact (StorageMap.total_empty _).symm
    · exact (StorageMap.total_empty _).symm
  have hpreserved : Store.Preserved .unbounded False True False rt.designatedEpochSlots
      rt.epochLength fun s => s.toRecords.Balanced := Store.balanced_preserved
  have hrun : c.store.Sound rt.epochLength ∧ c.store.Balanced := by
    refine run_invariant (I := fun c : Chain A => c.store.Sound rt.epochLength ∧ c.store.Balanced)
      ?_ hops ⟨Chain.genesis_sound rt balances, hgenesis⟩
    intro c op ⟨hleft, hslash, hfits⟩ h
    show (op.stepIn rt u128 c).store.Sound rt.epochLength ∧ (op.stepIn rt u128 c).store.Balanced
    rw [hfits]
    refine op.stepIn_preserved hpreserved hleft False.elim False.elim ?_ h
    rintro - rfl
    exact Chain.slashCoveredAt_of_bounded hslash
  exact ⟨hrun.2.subnet, hrun.2.total⟩

end Runs

/-- The subnet of the run is activated, and the first node proposes for its first epoch. -/
def demoRound : List (PalletOp ℕ) :=
  demoPallet ++ .activateSubnet 10 128001 :: List.replicate 23 .nextBlock ++
    [.proposeAttestation 11 128001 1 [] none none none none]

/-- Nobody attests, and the epoch is settled. -/
def demoSettled : List (PalletOp ℕ) := demoRound ++ List.replicate 20 .nextBlock

/-- The first node of the run is slashed. -/
theorem stake_totals_are_sums_demo :
    (demoPalletAfter demoSettled).stake.nodeSubnetStake.val (1, 128001) = 99000000000000000000 ∧
      (demoPalletAfter demoSettled).stake.totalStake =
        (demoPalletAfter demoSettled).stake.totalSubnetStake.sum := by
  have hops : Along (PalletOp.step Runtime.runtime)
      (fun c op => op.IdsLeft c ∧ op.SlashBounded Runtime.runtime c ∧ op.Fits Runtime.runtime c)
      (.genesis Runtime.runtime demoBalances) demoSettled := by
    decide +kernel
  have h := (stake_totals_are_sums Runtime.runtime demoBalances demoSettled hops).2
  rw [show run (PalletOp.step Runtime.runtime) (.genesis Runtime.runtime demoBalances) demoSettled =
    demoPalletAfter demoSettled from rfl] at h
  exact ⟨by decide +kernel, h⟩

/-- The council sets the share to be slashed to 300%, and the largest amount to `1000`. -/
def demoSlash : List (PalletOp ℕ) :=
  let c := demoPalletAfter demoRound
  let c₁ := c.doSetBaseSlashPercentage 3000000000000000000
  demoRound ++ [.other c₁, .other (c₁.doSetMaxSlashAmount 1000000000000000000000)] ++
    List.replicate 20 .nextBlock

/-- With that, the first node loses all it has, and its subnet half as much again: what is left
in total is less than the stake of the two other nodes. -/
theorem slash_takes_others_stake :
    let c := demoPalletAfter demoSlash
    Along (PalletOp.step Runtime.runtime)
        (fun c op => op.IdsLeft c ∧ op.Fits Runtime.runtime c)
        (.genesis Runtime.runtime demoBalances) demoSlash ∧
      c.stake.totalSubnetStake.val 128001 = 151515151515151515000 ∧
      (c.stake.nodeSubnetStake.total fun p x => if p.2 = 128001 then x else 0) =
        200000000000000000000 := by
  decide +kernel

end Hypertensor
