import Mathlib
import Hypertensor.Consensus.Protocol

/-!
# Hypertensor.Consensus.Integrity — who has attested may attest

A submission lists who may attest to it. `attest` checks the list, but a proposal
does not: it puts its author down as an attestor, whether or not the author is on
the list it has just made. `ConsensusData.Integral` is what the reward code counts
on, and `attestations_integral` shows that it holds of every submission as long as
every proposal is made by a node that is listed.
-/

namespace Hypertensor

open Base

variable {A : Type}

/-! ## The list -/

theorem canonicalizeConsensusValidatorIds_eq (ids : List ℕ) :
    canonicalizeConsensusValidatorIds ids = (ids.insertionSort (· ≤ ·)).dedup :=
  (List.pairwise_insertionSort (· ≤ ·) ids).destutter_eq_dedup

@[simp] theorem mem_canonicalizeConsensusValidatorIds {ids : List ℕ} {id : ℕ} :
    id ∈ canonicalizeConsensusValidatorIds ids ↔ id ∈ ids := by
  rw [canonicalizeConsensusValidatorIds_eq, List.mem_dedup, List.mem_insertionSort]

/-- The list is sorted and has no id twice. -/
theorem pairwise_canonicalizeConsensusValidatorIds (ids : List ℕ) :
    (canonicalizeConsensusValidatorIds ids).Pairwise (· < ·) := by
  have hsorted : (canonicalizeConsensusValidatorIds ids).Pairwise (· ≤ ·) :=
    (List.pairwise_insertionSort (· ≤ ·) ids).sublist (List.destutter_sublist _ _)
  have hnodup : (canonicalizeConsensusValidatorIds ids).Nodup := by
    rw [canonicalizeConsensusValidatorIds_eq]
    exact List.nodup_dedup _
  exact hsorted.imp₂ (fun _ _ hle hne => lt_of_le_of_ne hle hne) hnodup

/-- A list in this form is left as it is. -/
theorem canonicalizeConsensusValidatorIds_of_pairwise {ids : List ℕ} (h : ids.Pairwise (· < ·)) :
    canonicalizeConsensusValidatorIds ids = ids := by
  have hsorted : ids.Pairwise (· ≤ ·) := h.imp le_of_lt
  have hnodup : ids.Nodup := h.imp ne_of_lt
  rw [canonicalizeConsensusValidatorIds_eq, hsorted.insertionSort_eq, hnodup.dedup]

/-! ## Integrity of one submission -/

/-- Everyone who has attested is listed, and the list is sorted and has no id twice. -/
structure ConsensusData.Integral (d : ConsensusData) : Prop where
  listed : ∀ id ∈ d.attests.keys, id ∈ d.validatorIds
  sorted : d.validatorIds.Pairwise (· < ·)

/-- Those on the list who have attested. -/
def ConsensusData.attestors (d : ConsensusData) : List ℕ :=
  d.validatorIds.filter fun id => d.attests.contains id

namespace ConsensusData.Integral

variable {d : ConsensusData}

theorem length_attestors (h : d.Integral) : d.attestors.length = d.attests.keys.card := by
  have hnodup : d.attestors.Nodup := (h.sorted.imp ne_of_lt).filter _
  have hset : d.attestors.toFinset = d.attests.keys := by
    ext id
    unfold attestors
    simp only [List.mem_toFinset, List.mem_filter, StorageMap.contains, Option.isSome_iff_exists]
    rw [← StorageMap.mem_keys]
    exact ⟨And.right, fun hid => ⟨h.listed id hid, hid⟩⟩
  rw [← hset, List.toFinset_card_of_nodup hnodup]

theorem card_le (h : d.Integral) : d.attests.keys.card ≤ d.validatorIds.length := by
  rw [← h.length_attestors]
  exact List.length_filter_le _ _

end ConsensusData.Integral

/-- A percentage of at most the whole is not cut off. -/
theorem percentDiv_of_le {x y : ℕ} (h : x ≤ y) :
    percentDiv x y = percentageFactor * x / y ∧ percentDiv x y ≤ percentageFactor := by
  by_cases hy : y = 0
  · have hx : x = 0 := by omega
    subst hx
    simp [percentDiv]
  · have hle : percentageFactor * x / y ≤ percentageFactor := by
      rw [Nat.div_le_iff_le_mul_add_pred (Nat.pos_of_ne_zero hy)]
      have hmul := Nat.mul_le_mul_left percentageFactor h
      rw [Nat.mul_comm y]
      omega
    have heq : percentDiv x y = percentageFactor * x / y := by
      unfold percentDiv quot
      by_cases hx : x = 0
      · simp [hx]
      · rw [dif_neg (by simp [hx, hy])]
        dsimp only
        rw [Nat.mul_comm x, if_pos (le_trans hle (by decide))]
    exact ⟨heq, heq ▸ hle⟩

/-- The ratio the reward code is given counts the nodes on the list, and is not cut off. -/
theorem ConsensusData.Integral.attestationRatio {d : ConsensusData} (h : d.Integral)
    (data : List SubnetNodeConsensusData) (weightSum : ℕ) :
    (Chain.submissionData d data weightSum).attestationRatio =
        percentageFactor * d.attestors.length / d.validatorIds.length ∧
      (Chain.submissionData d data weightSum).attestationRatio =
        percentDiv d.attests.keys.card (canonicalizeConsensusValidatorIds d.validatorIds).length := by
  unfold Chain.submissionData
  dsimp only
  rw [canonicalizeConsensusValidatorIds_of_pairwise h.sorted]
  rcases percentDiv_of_le h.card_le with ⟨heq, hle⟩
  rw [min_eq_left hle, heq, h.length_attestors]
  exact ⟨rfl, rfl⟩

/-! ## Integrity along a run -/

section Run

variable [DecidableEq A] {rt : Runtime A}

/-- Every submission is integral. -/
def Chain.Integral (c : Chain A) : Prop := ∀ i e d, c.submission? i e = some d → d.Integral

/-- The elected node proposes while it may itself attest: it holds an election slot, or is in the
emergency set if there is one. -/
def NetworkOp.ProposerListed (rt : Runtime A) (c : Chain A) : NetworkOp A → Prop
  | proposeAttestation hotkey i id _ _ _ _ _ =>
      c.getSubnetNodeAssociatedHotkey i id = .ok hotkey →
      c.registry.subnetElectedValidator.find? (i, c.currentSubnetEpoch rt i) = some id →
      c.submission? i (c.currentSubnetEpoch rt i) = none → id ∈ c.eligibleAttestors i
  | _ => True

omit [DecidableEq A] in
theorem Chain.proposal_integral {c : Chain A} {i id : ℕ} (epoch : SubnetEpochData)
    (data : List SubnetNodeConsensusData) (prioritize remove : Option ℕ)
    (args attestData : Option (List UInt8)) (hlisted : id ∈ c.eligibleAttestors i) :
    (c.proposal rt i id epoch data prioritize remove args attestData).Integral := by
  constructor
  · intro id' hid
    have hkeys : id' ∈ insert id (∅ : StorageMap ℕ AttestEntry).keys :=
      StorageMap.keys_set (∅ : StorageMap ℕ AttestEntry) id _ ▸ hid
    rw [Finset.mem_singleton.mp hkeys]
    exact mem_canonicalizeConsensusValidatorIds.mpr hlisted
  · exact pairwise_canonicalizeConsensusValidatorIds _

theorem ConsensusData.Integral.attest {d : ConsensusData} (h : d.Integral) {id : ℕ}
    (entry : AttestEntry) (hlisted : id ∈ d.validatorIds) :
    ConsensusData.Integral { d with attests := d.attests.set id entry } := by
  constructor
  · intro id' hid
    rw [StorageMap.keys_set, Finset.mem_insert] at hid
    rcases hid with rfl | hid
    · exact hlisted
    · exact h.listed id' hid
  · exact h.sorted

/-- One label keeps the submissions integral. -/
theorem NetworkOp.step_integral (c : Chain A) (op : NetworkOp A) (hop : op.ProposerListed rt c)
    (h : c.Integral) : (op.step rt c).Integral := by
  intro i e d hd
  have hstep := op.step_submission rt c i e
  rw [hd] at hstep
  generalize hr : some d = r at hstep
  cases hstep with
  | keep => exact h i e d hr.symm
  | propose hkey helected _ hcurrent hnone =>
      cases hr
      subst hcurrent
      exact Chain.proposal_integral _ _ _ _ _ _ (hop hkey helected hnone)
  | attest _ _ _ _ hd₀ hlisted _ =>
      cases hr
      exact (h i e _ hd₀).attest _ hlisted

/-- From genesis, and as long as every proposal is made by a node that may itself attest, every
submission is integral, and the ratio that is computed from it is the share of the listed nodes
that have attested. -/
theorem attestations_integral (rt : Runtime A) (balances : StorageMap A ℕ) (ops : List (NetworkOp A))
    (hops : Along (NetworkOp.step rt) (fun c op => op.ProposerListed rt c)
      (.genesis rt balances) ops) :
    let c := run (NetworkOp.step rt) (.genesis rt balances) ops
    ∀ i e d, c.submission? i e = some d →
      (∀ id ∈ d.attests.keys, id ∈ d.validatorIds) ∧ d.validatorIds.Pairwise (· < ·) ∧
      ∀ r, (c.precheckSubnetConsensusSubmission rt i e).2.1 = some r →
        r.attestationRatio = percentageFactor * d.attestors.length / d.validatorIds.length ∧
        r.attestationRatio =
          percentDiv d.attests.keys.card (canonicalizeConsensusValidatorIds d.validatorIds).length := by
  intro c i e d hd
  have hinit : (Chain.genesis rt balances).Integral := by
    intro i e d hd
    cases hd
  have hintegral : c.Integral :=
    run_invariant (fun c op hop h => NetworkOp.step_integral c op hop h) hops hinit
  have hd' := hintegral i e d hd
  refine ⟨hd'.listed, hd'.sorted, ?_⟩
  intro r hr
  rcases Chain.precheckSubnetConsensusSubmission_some hr with ⟨_, d₀, data, weightSum, hd₀, rfl⟩
  have hsame : d = d₀ := Option.some.inj (hd.symm.trans hd₀)
  subst hsame
  exact hd'.attestationRatio data weightSum

end Run

/-- The subnet of the run is activated, and an epoch of it opens with the election of node `1`. -/
def demoElection : List (NetworkOp ℕ) :=
  demoNetwork ++ .activateSubnet 10 128001 :: List.replicate 23 .nextBlock

/-- Two of three nodes attest. -/
theorem attestations_integral_demo :
    let c := demoAfter (demoElection ++ [.proposeAttestation 11 128001 1 [] none none none none,
      .attest 21 128001 2 none])
    ∃ d r, c.submission? 128001 1 = some d ∧
      (c.precheckSubnetConsensusSubmission Runtime.runtime 128001 1).2.1 = some r ∧
      (∀ id ∈ d.attests.keys, id ∈ d.validatorIds) ∧ d.validatorIds = [1, 2, 3] ∧
      r.attestationRatio = 666666666666666666 ∧
      r.attestationRatio = percentageFactor * d.attestors.length / d.validatorIds.length := by
  have hquiet : (demoElection.any NetworkOp.submits) = false := by decide +kernel
  have hopening : Along (NetworkOp.step Runtime.runtime)
      (fun c op => op.ProposerListed Runtime.runtime c) (.genesis Runtime.runtime demoBalances)
      demoElection := by
    refine along_of_forall (fun c op hop => ?_)
    have hsubmits := Bool.eq_false_iff.mpr (List.any_eq_false.mp hquiet op hop)
    cases op with
    | proposeAttestation => cases hsubmits
    | _ => trivial
  have hops : Along (NetworkOp.step Runtime.runtime)
      (fun c op => op.ProposerListed Runtime.runtime c) (.genesis Runtime.runtime demoBalances)
      (demoElection ++ [.proposeAttestation 11 128001 1 [] none none none none,
        .attest 21 128001 2 none]) := by
    refine along_append.mpr ⟨hopening, ?_, trivial, trivial⟩
    intro _ _ _
    decide +kernel
  have h := attestations_integral Runtime.runtime demoBalances _ hops 128001 1
  unfold demoAfter
  intro c
  rw [show run _ _ _ = c from rfl] at h
  have hd : (c.submission? 128001 1).map (·.validatorIds) = some [1, 2, 3] := by decide +kernel
  have hr : (c.precheckSubnetConsensusSubmission Runtime.runtime 128001 1).2.1.map
      (·.attestationRatio) =
      some 666666666666666666 := by decide +kernel
  clear_value c
  rcases Option.map_eq_some_iff.mp hd with ⟨d, hd, hids⟩
  rcases Option.map_eq_some_iff.mp hr with ⟨r, hr, hratio⟩
  rcases h d hd with ⟨hlisted, _, h⟩
  exact ⟨d, r, hd, hr, hlisted, hids, hratio, (h r hr).1⟩

/-- The council removes the elected node, which proposes all the same. It is not on its own list,
and with the two nodes that are there are three attestations by two. -/
theorem removed_proposer_attests :
    let c := demoAfter (demoElection ++ [.collectiveRemoveSubnetNode 128001 1,
      .proposeAttestation 11 128001 1 [] none none none none, .attest 21 128001 2 none,
      .attest 31 128001 3 none])
    (c.submission? 128001 1).map (fun d => (d.attests.ascKeys, d.validatorIds)) =
        some ([1, 2, 3], [2, 3]) ∧
      (c.submission? 128001 1).map (fun d => percentDiv d.attests.keys.card
        (canonicalizeConsensusValidatorIds d.validatorIds).length) = some 1500000000000000000 := by
  decide +kernel

end Hypertensor
