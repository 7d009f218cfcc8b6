import Mathlib
import Hypertensor.Consensus.Integrity

/-!
# Hypertensor.Consensus.Canonical — one score per node

Scores are put in order twice: when they are proposed and when they are rewarded. The canonical
form of a list has every node of it once, sorted by id, with the lowest of its scores
(`IsCanonical`); it depends on which entries are in the list and on nothing else. It fails only
when its scores add up to more than a `u128`, so what was stored once is read back as it is
(`Chain.Canonical`).
-/

namespace Hypertensor

open Base

variable {A : Type}

/-! ## The canonical form -/

/-- Every node of `data` once, sorted by id, with the lowest of its scores. -/
structure IsCanonical (data canonical : List SubnetNodeConsensusData) : Prop where
  sorted : canonical.Pairwise fun e e' => e.subnetNodeId < e'.subnetNodeId
  mem : ∀ e, e ∈ canonical ↔
    e ∈ data ∧ ∀ e' ∈ data, e'.subnetNodeId = e.subnetNodeId → e.score ≤ e'.score

namespace IsCanonical

variable {data data' canonical canonical' : List SubnetNodeConsensusData}

/-- There is one canonical form. -/
theorem unique (h : IsCanonical data canonical) (h' : IsCanonical data canonical') :
    canonical = canonical' := by
  have hperm : canonical.Perm canonical' := by
    refine (List.perm_ext_iff_of_nodup ?_ ?_).mpr fun e => (h.mem e).trans (h'.mem e).symm
    · exact h.sorted.imp fun hlt heq => (ne_of_lt hlt) (congrArg _ heq)
    · exact h'.sorted.imp fun hlt heq => (ne_of_lt hlt) (congrArg _ heq)
  refine hperm.eq_of_pairwise ?_ h.sorted h'.sorted
  intro e e' _ _ hlt hlt'
  exact absurd hlt (Nat.lt_asymm hlt')

/-- It is that of every list with the same entries. -/
theorem congr (h : IsCanonical data canonical) (hsame : ∀ e, e ∈ data' ↔ e ∈ data) :
    IsCanonical data' canonical := by
  refine ⟨h.sorted, ?_⟩
  intro e
  rw [h.mem e, hsame e]
  simp only [hsame]

/-- It is its own canonical form. -/
theorem self (h : IsCanonical data canonical) : IsCanonical canonical canonical := by
  refine ⟨h.sorted, ?_⟩
  intro e
  constructor
  · intro he
    refine ⟨he, ?_⟩
    intro e' he' hid
    exact ((h.mem e).mp he).2 e' ((h.mem e').mp he').1 hid
  · exact And.left

/-- It has the ids of the list. -/
theorem mem_ids (h : IsCanonical data canonical) (id : ℕ) :
    (∃ e ∈ canonical, e.subnetNodeId = id) ↔ ∃ e ∈ data, e.subnetNodeId = id := by
  constructor
  · rintro ⟨e, he, rfl⟩
    exact ⟨e, ((h.mem e).mp he).1, rfl⟩
  · rintro ⟨e, he, rfl⟩
    -- of the entries with this id, one with the least score
    obtain ⟨m, hm, hleast⟩ := Finset.exists_min_image
      (data.filter fun e' => e'.subnetNodeId = e.subnetNodeId).toFinset
      SubnetNodeConsensusData.score
      ⟨e, List.mem_toFinset.mpr (List.mem_filter.mpr ⟨he, decide_eq_true rfl⟩)⟩
    rw [List.mem_toFinset, List.mem_filter, decide_eq_true_eq] at hm
    refine ⟨m, (h.mem m).mpr ⟨hm.1, ?_⟩, hm.2⟩
    intro e' he' hid
    refine hleast e' (List.mem_toFinset.mpr (List.mem_filter.mpr ⟨he', ?_⟩))
    exact decide_eq_true (hid.trans hm.2)

end IsCanonical

/-! ## What the code computes -/

section Lowest

variable {data : List SubnetNodeConsensusData}

/-- One entry is entered. -/
def lowerScore (scores : StorageMap ℕ ℕ) (entry : SubnetNodeConsensusData) : StorageMap ℕ ℕ :=
  scores.set entry.subnetNodeId
    (match scores.find? entry.subnetNodeId with
    | some score => if entry.score < score then entry.score else score
    | none => entry.score)

theorem lowestScores_eq : lowestScores data = data.foldl lowerScore ∅ := rfl

/-- The entry leaves the other nodes alone. -/
theorem find?_lowerScore_ne {scores : StorageMap ℕ ℕ} {entry : SubnetNodeConsensusData} {id : ℕ}
    (h : entry.subnetNodeId ≠ id) : (lowerScore scores entry).find? id = scores.find? id :=
  StorageMap.find?_set_ne _ _ (Ne.symm h)

/-- Its own node is left with the lower score. -/
theorem find?_lowerScore_self (scores : StorageMap ℕ ℕ) (entry : SubnetNodeConsensusData) :
    ∃ v, (lowerScore scores entry).find? entry.subnetNodeId = some v ∧ v ≤ entry.score ∧
      (v = entry.score ∨ scores.find? entry.subnetNodeId = some v) ∧
      ∀ w, scores.find? entry.subnetNodeId = some w → v ≤ w := by
  refine ⟨_, StorageMap.find?_set_self _ _ _, ?_⟩
  cases scores.find? entry.subnetNodeId with
  | none => exact ⟨le_rfl, .inl rfl, fun w hw => nomatch hw⟩
  | some w =>
      dsimp only
      split
      · next hlt =>
          refine ⟨le_rfl, .inl rfl, ?_⟩
          intro w' hw'
          cases hw'
          exact le_of_lt hlt
      · next hle =>
          refine ⟨not_lt.mp hle, .inr rfl, ?_⟩
          intro w' hw'
          cases hw'
          exact le_rfl

variable (data) in
/-- After a pass over the list, the score of a node is the least among the one it had and those
of its entries. -/
theorem find?_foldl_lowerScore (scores : StorageMap ℕ ℕ) (id v : ℕ) :
    (data.foldl lowerScore scores).find? id = some v ↔
      (scores.find? id = some v ∨ (⟨id, v⟩ : SubnetNodeConsensusData) ∈ data) ∧
        (∀ w, scores.find? id = some w → v ≤ w) ∧
        ∀ e ∈ data, e.subnetNodeId = id → v ≤ e.score := by
  induction data generalizing scores with
  | nil =>
      simp only [List.foldl_nil, List.not_mem_nil, or_false, IsEmpty.forall_iff, implies_true,
        and_true]
      constructor
      · intro h
        refine ⟨h, ?_⟩
        intro w hw
        rw [h] at hw
        cases hw
        exact le_rfl
      · exact And.left
  | cons entry data ih =>
      rw [List.foldl_cons, ih]
      simp only [List.mem_cons, forall_eq_or_imp]
      -- the first entry either takes part in the minimum of this node or is about another one
      by_cases hid : entry.subnetNodeId = id
      · rcases entry with ⟨k, x⟩
        dsimp only at hid ⊢
        subst k
        rcases find?_lowerScore_self scores ⟨id, x⟩ with ⟨u, hu, hux, hfrom, hleast⟩
        dsimp only at hu hux hfrom hleast
        simp only [hu, Option.some.injEq, SubnetNodeConsensusData.mk.injEq, true_and, forall_eq',
          forall_const]
        constructor
        · rintro ⟨hv, hvu, hdata⟩
          refine ⟨?_, ?_, hvu.trans hux, hdata⟩
          · rcases hv with rfl | hv
            · rcases hfrom with rfl | hfrom
              · exact .inr (.inl rfl)
              · exact .inl hfrom
            · exact .inr (.inr hv)
          · intro w hw
            exact hvu.trans (hleast w hw)
        · rintro ⟨hv, hscores, hvx, hdata⟩
          -- a minimum of all is at most what is stored after the first entry
          have hvu : v ≤ u := by
            rcases hfrom with rfl | hfrom
            · exact hvx
            · exact hscores u hfrom
          refine ⟨?_, hvu, hdata⟩
          rcases hv with hv | rfl | hv
          · exact .inl (le_antisymm (hleast v hv) hvu)
          · exact .inl (le_antisymm hux hvu)
          · exact .inr hv
      · have hne : (⟨id, v⟩ : SubnetNodeConsensusData) ≠ entry := by
          rintro rfl
          exact hid rfl
        simp only [find?_lowerScore_ne hid, hid, hne, false_or, false_implies, true_and]

/-- The list that is put together is the canonical form. -/
theorem isCanonical_lowestScores (data : List SubnetNodeConsensusData) :
    IsCanonical data ((lowestScores data).ascEntries.map fun e => ⟨e.1, e.2⟩) := by
  constructor
  · rw [List.pairwise_map]
    exact StorageMap.pairwise_ascEntries _
  · intro e
    rw [List.mem_map]
    have hscore := find?_foldl_lowerScore data ∅ e.subnetNodeId e.score
    rw [← lowestScores_eq, ← StorageMap.mem_ascEntries] at hscore
    simp only [StorageMap.find?_empty, reduceCtorEq, false_or, false_implies, implies_true,
      true_and] at hscore
    rw [← hscore]
    constructor
    · rintro ⟨_, hmem, rfl⟩
      exact hmem
    · intro hmem
      exact ⟨_, hmem, rfl⟩

/-- A checked sum is the sum, or fails where it is too large. -/
theorem checkedSum_eq (entries : List (ℕ × ℕ)) (start : ℕ) (hstart : start ≤ u128Max) :
    (entries.foldlM (fun sum e =>
      if sum + e.2 ≤ u128Max then .ok (sum + e.2) else .error .scoreOverflow) start :
        Except Error ℕ) =
      if start + (entries.map Prod.snd).sum ≤ u128Max then .ok (start + (entries.map Prod.snd).sum)
      else .error .scoreOverflow := by
  induction entries generalizing start with
  | nil =>
      rw [List.map_nil, List.sum_nil, Nat.add_zero, if_pos hstart]
      rfl
  | cons e entries ih =>
      rw [List.foldlM_cons, List.map_cons, List.sum_cons, ← Nat.add_assoc]
      by_cases hadd : start + e.2 ≤ u128Max
      · rw [if_pos hadd]
        exact ih _ hadd
      · -- what is added later only makes it larger
        rw [if_neg hadd, if_neg (fun h => hadd ((Nat.le_add_right _ _).trans h))]
        rfl

end Lowest

/-- The sum of the scores of a list. -/
def scoreSum (data : List SubnetNodeConsensusData) : ℕ :=
  (data.map SubnetNodeConsensusData.score).sum

/-- What is computed is the canonical form and the sum of its scores, unless that is too large. -/
theorem IsCanonical.canonicalize {data canonical : List SubnetNodeConsensusData}
    (h : IsCanonical data canonical) :
    canonicalizeConsensusDataEntries data =
      if scoreSum canonical ≤ u128Max then .ok (canonical, scoreSum canonical)
      else .error .scoreOverflow := by
  rw [h.unique (isCanonical_lowestScores data)]
  unfold canonicalizeConsensusDataEntries scoreSum
  dsimp only
  rw [checkedSum_eq _ 0 (Nat.zero_le _), Nat.zero_add, List.map_map]
  have hsum : ((lowestScores data).ascEntries.map
      (SubnetNodeConsensusData.score ∘ fun e => (⟨e.1, e.2⟩ : SubnetNodeConsensusData))) =
      (lowestScores data).ascEntries.map Prod.snd := rfl
  rw [hsum]
  split
  · rfl
  · rfl

/-- A canonical form that was accepted is accepted again, as it is. -/
theorem IsCanonical.canonicalize_self {data canonical : List SubnetNodeConsensusData} {sum : ℕ}
    (h : canonicalizeConsensusDataEntries data = .ok (canonical, sum)) :
    IsCanonical data canonical ∧ sum = scoreSum canonical ∧
      canonicalizeConsensusDataEntries canonical = .ok (canonical, sum) := by
  have hlist := isCanonical_lowestScores data
  rw [hlist.canonicalize] at h
  split at h
  · next hsum =>
      cases h
      refine ⟨hlist, rfl, ?_⟩
      rw [hlist.self.canonicalize, if_pos hsum]
  · cases h

/-! ## What is stored -/

namespace Chain

variable {rt : Runtime A}

/-- The data of every submission is in canonical form, and its scores have a sum. -/
def Canonical (c : Chain A) : Prop :=
  ∀ i e d, c.submission? i e = some d →
    canonicalizeConsensusDataEntries d.data = .ok (d.data, scoreSum d.data)

/-- What a proposal stores is in canonical form. -/
theorem proposeAttestation_canonical [DecidableEq A] {c c' : Chain A} {hotkey : A} {j id : ℕ}
    {data : List SubnetNodeConsensusData} {prioritize remove : Option ℕ}
    {args attestData : Option (List UInt8)}
    (h : c.proposeAttestation rt hotkey j id data prioritize remove args attestData = .ok c') :
    ∃ e d, c' = c.setSubmission j e d ∧
      canonicalizeConsensusDataEntries d.data = .ok (d.data, scoreSum d.data) := by
  simp only [proposeAttestation, bind_ok, Except.ok.injEq] at h
  rcases h with ⟨_, _, _, _, _, _, _, _, _, _, _, _, _, _, canonical, hcanonical, rfl⟩
  rcases IsCanonical.canonicalize_self hcanonical with ⟨_, hsum, hself⟩
  rw [hsum] at hself
  exact ⟨_, _, rfl, hself⟩

theorem Canonical.setSubmission {c : Chain A} (h : c.Canonical) {j k : ℕ} {d : ConsensusData}
    (hd : canonicalizeConsensusDataEntries d.data = .ok (d.data, scoreSum d.data)) :
    (c.setSubmission j k d).Canonical := by
  intro i e d' hd'
  rw [submission?_setSubmission] at hd'
  split at hd'
  · cases hd'
    exact hd
  · exact h i e d' hd'

/-- A submission in canonical form is rewarded by what is stored. -/
theorem Canonical.precheck {c : Chain A} (h : c.Canonical) {i e : ℕ} {d : ConsensusData}
    (hd : c.submission? i e = some d) :
    (c.precheckSubnetConsensusSubmission rt i e).2.1 =
      some (submissionData d d.data (scoreSum d.data)) := by
  unfold precheckSubnetConsensusSubmission
  rw [show c.registry.subnetConsensusSubmission.find? (i, e) = some d from hd]
  dsimp only
  rw [h i e d hd]

end Chain

/-- One label keeps the submissions in canonical form. -/
theorem NetworkOp.step_canonical [DecidableEq A] {rt : Runtime A} (c : Chain A) (op : NetworkOp A)
    (h : c.Canonical) : (op.step rt c).Canonical := by
  cases op with
  | proposeAttestation hotkey j id data prioritize remove args attestData =>
      rcases commit_cases (s := c) (c.proposeAttestation rt hotkey j id data prioritize remove args
        attestData) with hc | hc
      · show Chain.Canonical (commit c _)
        rw [hc]
        exact h
      · rcases Chain.proposeAttestation_canonical hc with ⟨e, d, hset, hd⟩
        have hc' := h.setSubmission (j := j) (k := e) hd
        rw [← hset] at hc'
        exact hc'
  | attest hotkey j id data =>
      rcases commit_cases (s := c) (c.attest rt hotkey j id data) with hc | hc
      · show Chain.Canonical (commit c _)
        rw [hc]
        exact h
      · rcases Chain.attest_ok hc with ⟨_, d, entry, _, _, _, hd, _, _, hset⟩
        -- an attestation leaves the data as it is
        have hc' := h.setSubmission (j := j) (k := c.currentSubnetEpoch rt j)
          (d := { d with attests := d.attests.set id entry }) (h j _ d hd)
        rw [← hset] at hc'
        exact hc'
  | _ =>
      intro i e d hd
      rw [NetworkOp.step_submission_of_quiet c rfl i e] at hd
      exact h i e d hd

/-- Every list has one canonical form. When the call succeeds it returns this form and the sum of
its scores, and the form is then returned for itself; it fails just when the sum is larger than a
`u128`. A list with the same entries, in another order or repeated, makes no difference. So from
genesis every submission is read back, when it is rewarded, as it was stored. -/
theorem consensus_data_canonical [DecidableEq A] (rt : Runtime A) (balances : StorageMap A ℕ)
    (ops : List (NetworkOp A)) :
    (∀ data, ∃ canonical, IsCanonical data canonical ∧
      (∀ canonical', IsCanonical data canonical' → canonical' = canonical) ∧
      (∀ id, (∃ e ∈ canonical, e.subnetNodeId = id) ↔ ∃ e ∈ data, e.subnetNodeId = id) ∧
      (∀ out sum, canonicalizeConsensusDataEntries data = .ok (out, sum) →
        out = canonical ∧ sum = scoreSum canonical ∧
        canonicalizeConsensusDataEntries out = .ok (out, sum)) ∧
      ((∃ err, canonicalizeConsensusDataEntries data = .error err) ↔
        u128Max < scoreSum canonical) ∧
      ∀ data', (∀ e, e ∈ data' ↔ e ∈ data) →
        canonicalizeConsensusDataEntries data' = canonicalizeConsensusDataEntries data) ∧
    let c := run (NetworkOp.step rt) (.genesis rt balances) ops
    ∀ i e d, c.submission? i e = some d →
      canonicalizeConsensusDataEntries d.data = .ok (d.data, scoreSum d.data) ∧
      ∃ r, (c.precheckSubnetConsensusSubmission rt i e).2.1 = some r ∧
        r.data = d.data ∧ r.weightSum = scoreSum d.data := by
  constructor
  · intro data
    have hlist := isCanonical_lowestScores data
    refine ⟨_, hlist, fun _ h => h.unique hlist, hlist.mem_ids, ?_, ?_, ?_⟩
    · intro out sum hok
      rcases IsCanonical.canonicalize_self hok with ⟨hout, hsum, hself⟩
      rcases hout.unique hlist with rfl
      exact ⟨rfl, hsum, hself⟩
    · rw [hlist.canonicalize]
      split
      · next hsum =>
          constructor
          · rintro ⟨_, herr⟩
            cases herr
          · intro hlt
            exact absurd hsum (not_le.mpr hlt)
      · next hsum =>
          constructor
          · intro _
            exact not_le.mp hsum
          · intro _
            exact ⟨_, rfl⟩
    · intro data' hsame
      rw [(hlist.congr hsame).canonicalize, hlist.canonicalize]
  -- what is stored went through the function once, so it is canonical already
  · intro c i e d hd
    have hinit : (Chain.genesis rt balances).Canonical := by
      intro i e d hd
      cases hd
    have hcanonical : c.Canonical := by
      refine run_invariant (P := fun _ _ => True) (fun c op _ h => op.step_canonical c h) ?_ hinit
      exact along_of_forall fun _ _ _ => trivial
    exact ⟨hcanonical i e d hd, _, hcanonical.precheck hd, rfl, rfl⟩

/-- The elected node scores one node twice and one that is not there. -/
theorem consensus_data_canonical_demo :
    let c := demoAfter (demoElection ++
      [.proposeAttestation 11 128001 1 [⟨3, 7⟩, ⟨2, 5⟩, ⟨3, 4⟩, ⟨9, 1⟩] none none none none])
    ∃ d r, c.submission? 128001 1 = some d ∧ d.data = [⟨2, 5⟩, ⟨3, 4⟩] ∧
      (c.precheckSubnetConsensusSubmission Runtime.runtime 128001 1).2.1 = some r ∧
      r.data = d.data ∧ r.weightSum = 9 := by
  have h := (consensus_data_canonical Runtime.runtime demoBalances (demoElection ++
    [.proposeAttestation 11 128001 1 [⟨3, 7⟩, ⟨2, 5⟩, ⟨3, 4⟩, ⟨9, 1⟩] none none none none])).2
      128001 1
  unfold demoAfter
  intro c
  rw [show run _ _ _ = c from rfl] at h
  have hd : (c.submission? 128001 1).map (·.data) = some [⟨2, 5⟩, ⟨3, 4⟩] := by decide +kernel
  clear_value c
  rcases Option.map_eq_some_iff.mp hd with ⟨d, hd, hdata⟩
  rcases h d hd with ⟨_, r, hr, hsame, hsum⟩
  rw [hdata] at hsum
  exact ⟨d, r, hd, hdata, hr, hsame, hsum⟩

/-- Two scores of a node, and two nodes whose scores are too much for a `u128`. -/
example : canonicalizeConsensusDataEntries [⟨2, 7⟩, ⟨1, 5⟩, ⟨2, 3⟩] = .ok ([⟨1, 5⟩, ⟨2, 3⟩], 8) ∧
    canonicalizeConsensusDataEntries [⟨1, u128Max⟩, ⟨2, 1⟩] = .error .scoreOverflow ∧
    canonicalizeConsensusDataEntries [⟨1, u128Max⟩, ⟨1, 1⟩] = .ok ([⟨1, 1⟩], 1) := by
  decide +kernel

end Hypertensor
