import Mathlib
import Hypertensor.Lifecycle.System

/-!
# Hypertensor.Consensus.Protocol — one submission per epoch, and each attests once

A submission is written in two phases: the elected validator stores it, and then
the nodes it lists add themselves. `NetworkOp.step_submission` says what a label
can do to the submission of one epoch of one subnet; all the rest is by induction
over the labels that follow.
-/

namespace Hypertensor

open Base Relation

variable {A : Type}

/-! ## Labels that submit nothing -/

namespace Lifecycle

variable {strict room : Prop} {L : ℕ} {target : Option ℕ} {l l' : Lifecycle}

/-- No step of a block writes a submission. -/
theorem Step.subnetConsensusSubmission (h : Step strict L target l l') :
    l'.subnetConsensusSubmission = l.subnetConsensusSubmission := by
  cases h with
  | node => rfl
  | activate => rfl
  | skip => rfl
  | removeSubnet => exact removeSubnet_subnetConsensusSubmission _ _

/-- Nor does the block as a whole. -/
theorem Runs.subnetConsensusSubmission (h : Runs strict L target l l') :
    l'.subnetConsensusSubmission = l.subnetConsensusSubmission := by
  induction h with
  | refl => rfl
  | tail _ hstep ih => exact hstep.subnetConsensusSubmission.trans ih

/-- Nor does a call that changes the members. -/
theorem Call.subnetConsensusSubmission (h : Call strict room L l l') :
    l'.subnetConsensusSubmission = l.subnetConsensusSubmission := by
  cases h with
  | removeSubnet => exact removeSubnet_subnetConsensusSubmission _ _
  | _ => rfl

/-- Nor does one that is quiet. -/
theorem Quiet.subnetConsensusSubmission (h : Quiet strict room L l l') :
    l'.subnetConsensusSubmission = l.subnetConsensusSubmission := by
  cases h with
  | call h => exact h.subnetConsensusSubmission
  | block _ hruns => exact (Runs.subnetConsensusSubmission hruns).trans rfl

end Lifecycle

/-! ## The submission of one epoch -/

/-- Who has the class of a validator, or a higher one, is a validator since some epoch. -/
theorem SubnetNode.hasClassification_validator {n : SubnetNode} {e : ℕ}
    (h : n.hasClassification .validator e = true) :
    n.classification.nodeClass = .validator ∧ n.classification.startEpoch ≤ e := by
  unfold SubnetNode.hasClassification at h
  rw [Bool.and_eq_true, decide_eq_true_eq, decide_eq_true_eq] at h
  refine ⟨?_, h.2⟩
  -- The validator class is the highest.
  cases hclass : n.classification.nodeClass with
  | validator => rfl
  | _ =>
      rw [hclass] at h
      exact absurd h.1 (by decide)

/-- The submission of an epoch of a subnet. -/
def Chain.submission? (c : Chain A) (subnetId subnetEpoch : ℕ) : Option ConsensusData :=
  c.registry.subnetConsensusSubmission.find? (subnetId, subnetEpoch)

/-- One submission is written. -/
theorem Chain.submission?_setSubmission (c : Chain A) (i e j k : ℕ) (d : ConsensusData) :
    (c.setSubmission j k d).submission? i e =
      if i = j ∧ e = k then some d else c.submission? i e := by
  unfold Chain.submission? Chain.setSubmission
  rw [StorageMap.find?_set]
  simp only [Prod.mk.injEq]

/-- Only the attestations differ, and none is lost or replaced. -/
def ConsensusData.Grows (d d' : ConsensusData) : Prop :=
  d' = { d with attests := d'.attests } ∧
    ∀ id entry, d.attests.find? id = some entry → d'.attests.find? id = some entry

/-- A submission may stay as it is. -/
theorem ConsensusData.Grows.refl (d : ConsensusData) : d.Grows d := ⟨rfl, fun _ _ h => h⟩

/-- A submission grows in two parts. -/
theorem ConsensusData.Grows.trans {d₁ d₂ d₃ : ConsensusData} (h₁ : d₁.Grows d₂)
    (h₂ : d₂.Grows d₃) : d₁.Grows d₃ := by
  constructor
  · rw [h₂.1, h₁.1]
  · intro id entry hentry
    exact h₂.2 id entry (h₁.2 id entry hentry)

namespace NetworkOp

variable [DecidableEq A] (rt : Runtime A)

/-- The label stores `d` where there was no submission. -/
def Stores (c : Chain A) (op : NetworkOp A) (i e : ℕ) (d : ConsensusData) : Prop :=
  c.submission? i e = none ∧ (op.step rt c).submission? i e = some d

/-- The label adds an attestation of `id` to a submission. -/
def Adds (c : Chain A) (op : NetworkOp A) (i e id : ℕ) : Prop :=
  ∃ d d' entry, c.submission? i e = some d ∧ d.attests.find? id = none ∧
    (op.step rt c).submission? i e = some d' ∧ d'.attests.find? id = some entry

variable {rt}

/-- Labels that are neither proposals nor attestations leave the submissions. -/
theorem step_submission_of_quiet (c : Chain A) {op : NetworkOp A} (hop : op.submits = false)
    (i e : ℕ) : (op.step rt c).submission? i e = c.submission? i e := by
  have hquiet : c.lifecycle.Quiet False False rt.epochLength (op.step rt c).lifecycle :=
    op.step_quiet rt c hop False.elim False.elim False.elim
  exact congrArg (fun m => m.find? (i, e)) hquiet.subnetConsensusSubmission

/-- What a label can do to the submission of an epoch: nothing, store it, or add one attestation
to it. -/
inductive OnSubmission (rt : Runtime A) (c : Chain A) (i e : ℕ) :
    NetworkOp A → Option ConsensusData → Prop
  | keep {op : NetworkOp A} : OnSubmission rt c i e op (c.submission? i e)
  | propose {hotkey : A} {id : ℕ} {data canonical : List SubnetNodeConsensusData}
      {prioritize remove : Option ℕ} {args attestData : Option (List UInt8)} {epoch : SubnetEpochData}
      (hkey : c.getSubnetNodeAssociatedHotkey i id = .ok hotkey)
      (helected : c.registry.subnetElectedValidator.find? (i, e) = some id)
      (hepoch : epoch.subnetEpoch = e) (hcurrent : c.currentSubnetEpoch rt i = e)
      (hnone : c.submission? i e = none) :
      OnSubmission rt c i e (.proposeAttestation hotkey i id data prioritize remove args attestData)
        (some (c.proposal rt i id epoch canonical prioritize remove args attestData))
  | attest {hotkey : A} {id : ℕ} {data : Option (List UInt8)} {node : SubnetNode}
      {d : ConsensusData} {entry : AttestEntry}
      (hkey : c.getSubnetNodeAssociatedHotkey i id = .ok hotkey)
      (hnode : c.nodes.subnetNodesData.find? (i, id) = some node)
      (hclass : node.hasClassification .validator e = true)
      (hcurrent : c.currentSubnetEpoch rt i = e) (hd : c.submission? i e = some d)
      (hlisted : id ∈ d.validatorIds) (hnew : d.attests.find? id = none) :
      OnSubmission rt c i e (.attest hotkey i id data)
        (some { d with attests := d.attests.set id entry })

omit [DecidableEq A] in
/-- A submission may be left alone by any label. -/
theorem OnSubmission.of_eq {c : Chain A} {i e : ℕ} {op : NetworkOp A} {r : Option ConsensusData}
    (h : r = c.submission? i e) : OnSubmission rt c i e op r := by
  subst h
  exact .keep

/-- Step lemma: a submission is stored by a proposal, and grows by attestations. -/
theorem step_submission (rt : Runtime A) (c : Chain A) (op : NetworkOp A) (i e : ℕ) :
    OnSubmission rt c i e op ((op.step rt c).submission? i e) := by
  cases op with
  | proposeAttestation hotkey j id data prioritize remove args attestData =>
      rcases commit_cases (s := c) (c.proposeAttestation rt hotkey j id data prioritize remove args
        attestData) with h | h
      · exact .of_eq (congrArg (fun c : Chain A => c.submission? i e) h)
      · rcases Chain.proposeAttestation_ok h with ⟨epoch, canonical, hkey, hepoch, helected, hnone, hc⟩
        rcases Chain.getCurrentSubnetEpochData_some hepoch with ⟨_, _, hcurrent⟩
        have hstep := c.submission?_setSubmission i e j epoch.subnetEpoch
          (c.proposal rt j id epoch canonical prioritize remove args attestData)
        rw [← hc] at hstep
        -- a call writes the submission of one subnet and one epoch
        by_cases hie : i = j ∧ e = epoch.subnetEpoch
        · rw [if_pos hie] at hstep
          rcases hie with ⟨rfl, rfl⟩
          show OnSubmission rt c i epoch.subnetEpoch _ ((commit c _).submission? i epoch.subnetEpoch)
          rw [hstep]
          exact .propose hkey helected rfl hcurrent.symm hnone
        · rw [if_neg hie] at hstep
          exact .of_eq hstep
  | attest hotkey j id data =>
      rcases commit_cases (s := c) (c.attest rt hotkey j id data) with h | h
      · exact .of_eq (congrArg (fun c : Chain A => c.submission? i e) h)
      · rcases Chain.attest_ok h with ⟨node, d, entry, hkey, hnode, hclass, hd, hlisted, hnew, hc⟩
        have hstep := c.submission?_setSubmission i e j (c.currentSubnetEpoch rt j)
          { d with attests := d.attests.set id entry }
        rw [← hc] at hstep
        by_cases hie : i = j ∧ e = c.currentSubnetEpoch rt j
        · rw [if_pos hie] at hstep
          rcases hie with ⟨rfl, rfl⟩
          show OnSubmission rt c i (c.currentSubnetEpoch rt i) _
            ((commit c _).submission? i (c.currentSubnetEpoch rt i))
          rw [hstep]
          exact .attest hkey hnode hclass rfl hd hlisted hnew
        · rw [if_neg hie] at hstep
          exact .of_eq hstep
  | _ => exact .of_eq (step_submission_of_quiet c rfl i e)

/-- A stored submission only grows. -/
theorem step_grows {c : Chain A} {i e : ℕ} {d : ConsensusData} (op : NetworkOp A)
    (hd : c.submission? i e = some d) :
    ∃ d', (op.step rt c).submission? i e = some d' ∧ d.Grows d' := by
  have h := op.step_submission rt c i e
  generalize (op.step rt c).submission? i e = r at h ⊢
  cases h with
  | keep => exact ⟨d, hd, .refl d⟩
  | propose _ _ _ _ hnone =>
      rw [hd] at hnone
      cases hnone
  | @attest _ id _ _ _ _ _ _ _ _ hd₀ _ hnew =>
      rw [hd] at hd₀
      cases hd₀
      refine ⟨_, rfl, rfl, ?_⟩
      intro id' entry' hentry
      have hne : id' ≠ id := by
        rintro rfl
        rw [hnew] at hentry
        cases hentry
      rw [StorageMap.find?_set_ne _ _ hne]
      exact hentry

/-- So it does over any labels. -/
theorem run_grows {c : Chain A} {i e : ℕ} {d : ConsensusData} (ops : List (NetworkOp A))
    (hd : c.submission? i e = some d) :
    ∃ d', (run (step rt) c ops).submission? i e = some d' ∧ d.Grows d' := by
  induction ops generalizing c d with
  | nil => exact ⟨d, hd, .refl d⟩
  | cons op ops ih =>
      rcases op.step_grows hd with ⟨d₁, hd₁, hgrows₁⟩
      rcases ih hd₁ with ⟨d₂, hd₂, hgrows₂⟩
      exact ⟨d₂, hd₂, hgrows₁.trans hgrows₂⟩

/-- Only a proposal stores: that of the node elected for the epoch, by its hotkey, in that
epoch. -/
theorem Stores.proposal {c : Chain A} {op : NetworkOp A} {i e : ℕ} {d : ConsensusData}
    (h : op.Stores rt c i e d) :
    ∃ hotkey id data canonical prioritize remove args attestData epoch,
      op = .proposeAttestation hotkey i id data prioritize remove args attestData ∧
      c.registry.subnetElectedValidator.find? (i, e) = some id ∧
      c.getSubnetNodeAssociatedHotkey i id = .ok hotkey ∧ c.currentSubnetEpoch rt i = e ∧
      epoch.subnetEpoch = e ∧
      d = c.proposal rt i id epoch canonical prioritize remove args attestData := by
  rcases h with ⟨hnone, hd⟩
  have h := op.step_submission rt c i e
  rw [hd] at h
  generalize hr : some d = r at h
  cases h with
  | keep =>
      rw [hnone] at hr
      cases hr
  | propose hkey helected hepoch hcurrent _ =>
      cases hr
      exact ⟨_, _, _, _, _, _, _, _, _, rfl, helected, hkey, hcurrent, hepoch, rfl⟩
  | attest _ _ _ _ hd₀ _ _ =>
      rw [hnone] at hd₀
      cases hd₀

/-- Only an attestation adds: that of an active node of the validator class that the
submission lists, by its hotkey, in the epoch of the submission. -/
theorem Adds.attest {c : Chain A} {op : NetworkOp A} {i e id : ℕ} (h : op.Adds rt c i e id) :
    ∃ hotkey data node d, op = .attest hotkey i id data ∧
      c.getSubnetNodeAssociatedHotkey i id = .ok hotkey ∧ c.currentSubnetEpoch rt i = e ∧
      c.nodes.subnetNodesData.find? (i, id) = some node ∧
      node.classification.nodeClass = .validator ∧ node.classification.startEpoch ≤ e ∧
      c.submission? i e = some d ∧ id ∈ d.validatorIds := by
  rcases h with ⟨d, d', entry, hd, hnew, hd', hentry⟩
  have h := op.step_submission rt c i e
  rw [hd'] at h
  generalize hr : some d' = r at h
  cases h with
  | keep =>
      rw [hd] at hr
      cases hr
      rw [hnew] at hentry
      cases hentry
  | propose _ _ _ _ hnone =>
      rw [hd] at hnone
      cases hnone
  | @attest hotkey id' data node _ _ hkey hnode hclass hcurrent hd₀ hlisted _ =>
      rw [hd] at hd₀
      cases hd₀
      cases hr
      have hid : id = id' := by
        by_contra hne
        rw [StorageMap.find?_set_ne _ _ hne, hnew] at hentry
        cases hentry
      subst hid
      rcases SubnetNode.hasClassification_validator hclass with ⟨hvalidator, hstart⟩
      exact ⟨hotkey, data, node, d, rfl, hkey, hcurrent, hnode, hvalidator, hstart, hd, hlisted⟩

/-- After a submission is stored none is stored again. -/
theorem Stores.not_again {c : Chain A} {op : NetworkOp A} {i e : ℕ} {d : ConsensusData}
    (h : op.Stores rt c i e d) (ops : List (NetworkOp A)) (op' : NetworkOp A) (d' : ConsensusData) :
    ¬ op'.Stores rt (run (step rt) (op.step rt c) ops) i e d' := by
  rintro ⟨hnone, _⟩
  rcases run_grows ops h.2 with ⟨d₁, hd₁, _⟩
  rw [hd₁] at hnone
  cases hnone

/-- Who has attested is never added again. -/
theorem not_adds_of_attested {c : Chain A} {i e id : ℕ} {d : ConsensusData} {entry : AttestEntry}
    (hd : c.submission? i e = some d) (hentry : d.attests.find? id = some entry)
    (ops : List (NetworkOp A)) (op : NetworkOp A) :
    ¬ op.Adds rt (run (step rt) c ops) i e id := by
  rintro ⟨d₁, _, _, hd₁, hnew, _⟩
  rcases run_grows ops hd with ⟨d₂, hd₂, hgrows⟩
  rw [hd₁] at hd₂
  cases hd₂
  rw [hgrows.2 id entry hentry] at hnew
  cases hnew

/-- Nobody attests twice. -/
theorem Adds.not_again {c : Chain A} {op : NetworkOp A} {i e id : ℕ} (h : op.Adds rt c i e id)
    (ops : List (NetworkOp A)) (op' : NetworkOp A) :
    ¬ op'.Adds rt (run (step rt) (op.step rt c) ops) i e id := by
  rcases h with ⟨_, d', entry, _, _, hd', hentry⟩
  exact not_adds_of_attested hd' hentry ops op'

end NetworkOp

/-! ## Safety -/

open NetworkOp in
/-- Safety of the protocol, from any chain and over any labels, for every epoch of every
subnet. Take any point of a run, the label that comes next, and labels after it.

- A label that stores a submission is a proposal by the hotkey of the elected node, made in
  that epoch, and no later label stores one.
- A stored submission stays, and only its attestations grow.
- A label that adds a node to it is an attestation by the hotkey of that node, which is then
  an active node of the validator class, made in that epoch; no later label adds the node again,
  nor does any label add the proposer, who attests with the proposal.
- A call that fails changes nothing. -/
theorem submission_protocol_safe [DecidableEq A] (rt : Runtime A) (c₀ : Chain A)
    (before : List (NetworkOp A)) (op : NetworkOp A) (after : List (NetworkOp A)) (i e : ℕ) :
    let c := run (step rt) c₀ before
    let later := run (step rt) c₀ (before ++ op :: after)
    (∀ d, op.Stores rt c i e d →
      (∃ hotkey id data prioritize remove args attestData,
        op = .proposeAttestation hotkey i id data prioritize remove args attestData ∧
        c.registry.subnetElectedValidator.find? (i, e) = some id ∧
        c.getSubnetNodeAssociatedHotkey i id = .ok hotkey ∧ c.currentSubnetEpoch rt i = e ∧
        d.validatorId = id ∧ d.attests.keys = {id} ∧ ∀ op' : NetworkOp A, ¬ op'.Adds rt later i e id) ∧
      ∀ (op' : NetworkOp A) d', ¬ op'.Stores rt later i e d') ∧
    (∀ d, c.submission? i e = some d → ∃ d', later.submission? i e = some d' ∧ d.Grows d') ∧
    (∀ id, op.Adds rt c i e id →
      (∃ hotkey data node d, op = .attest hotkey i id data ∧
        c.getSubnetNodeAssociatedHotkey i id = .ok hotkey ∧ c.currentSubnetEpoch rt i = e ∧
        c.nodes.subnetNodesData.find? (i, id) = some node ∧
        node.classification.nodeClass = .validator ∧ node.classification.startEpoch ≤ e ∧
        c.submission? i e = some d ∧ id ∈ d.validatorIds) ∧
      ∀ op' : NetworkOp A, ¬ op'.Adds rt later i e id) ∧
    (∀ hotkey id data prioritize remove args attestData err,
      op = .proposeAttestation hotkey i id data prioritize remove args attestData →
      c.proposeAttestation rt hotkey i id data prioritize remove args attestData = .error err →
      op.step rt c = c) ∧
    (∀ hotkey id data err, op = .attest hotkey i id data →
      c.attest rt hotkey i id data = .error err → op.step rt c = c) := by
  intro c later
  have hlater : later = run (step rt) (op.step rt c) after := by
    unfold later
    rw [run_append, run_cons]
  refine ⟨?_, ?_, ?_, ?_, ?_⟩
  · intro d hstores
    rw [hlater]
    refine ⟨?_, hstores.not_again after⟩
    rcases hstores.proposal with ⟨hotkey, id, data, canonical, prioritize, remove, args, attestData,
      epoch, hop, helected, hkey, hcurrent, _, hd⟩
    -- The proposer is the one who has attested.
    have hattests : d.attests = (∅ : StorageMap ℕ AttestEntry).set id ⟨c.block, 0, percentageFactor,
        attestData⟩ := by
      rw [hd]
      rfl
    have hentry := StorageMap.find?_set_self (∅ : StorageMap ℕ AttestEntry) id
      ⟨c.block, 0, percentageFactor, attestData⟩
    rw [← hattests] at hentry
    refine ⟨hotkey, id, data, prioritize, remove, args, attestData, hop, helected, hkey, hcurrent, ?_, ?_,
      not_adds_of_attested hstores.2 hentry after⟩
    · rw [hd]
      rfl
    · rw [hattests, StorageMap.keys_set]
      rfl
  · intro d hd
    rw [hlater, ← run_cons]
    exact run_grows (op :: after) hd
  · intro id hadds
    rw [hlater]
    exact ⟨hadds.attest, hadds.not_again after⟩
  · rintro hotkey id data prioritize remove args attestData err rfl herr
    exact congrArg (commit c) herr
  · rintro hotkey id data err rfl herr
    exact congrArg (commit c) herr

end Hypertensor
