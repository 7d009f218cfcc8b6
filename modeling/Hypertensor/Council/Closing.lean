import Mathlib
import Hypertensor.Council.Motions

/-!
# Hypertensor.Council.Closing — when a motion is closed, and how

`do_close` counts in `u32`, takes differences that may be negative, and decides in two places.
`verdict` is what it comes to in natural numbers: a motion is approved when enough members have
voted for it, dropped when too many have voted against it, and after its time those who have not
voted follow the default.

* `tryState_ok_iff`: the self check of the pallet fails for one reason only.
* `close_decides`: closing a motion is what the verdict says.
* `motion_can_be_closed`: anybody can close a motion when its time is over.
-/

namespace Hypertensor.Council

open Base Relation

variable {A H P E W : Type} {cfg : Config A H P E W} {s s' s₀ : State A H P E W} {world : W}
  {members : List A}

/-! ## Counting -/

theorem memberCount_of_lt {B : Type} {l : List B} (h : l.length < 2 ^ 32) : memberCount l = l.length :=
  Nat.mod_eq_of_lt h

/-- Those who have not voted are counted without an underflow. -/
theorem abstentions_eq {seats yes no : ℕ} (hle : yes + no ≤ seats) (hlt : seats < 2 ^ 32) :
    wrapSub 32 seats (wrapAdd 32 yes no) = seats - (yes + no) := by
  rw [wrapAdd_of_lt (lt_of_le_of_lt hle hlt)]
  unfold wrapSub
  rw [Nat.mod_eq_of_lt (lt_of_le_of_lt hle hlt)]
  omega

section Verdicts

variable [LinearOrder A]

/-! ## The verdict -/

/-- What closing a motion comes to: it is approved or dropped with these votes for and against
it, or it is too early. -/
inductive Verdict where
  | approve (yes no : ℕ)
  | drop (yes no : ℕ)
  | wait
deriving DecidableEq, Repr

/-- The verdict on a motion. -/
def State.verdict (cfg : Config A H P E W) (s : State A H P E W) (votes : Votes A) : Verdict :=
  let ayes := votes.ayes.length
  let nays := votes.nays.length
  let seats := s.members.length
  if votes.threshold ≤ ayes then .approve ayes nays
  else if seats < votes.threshold + nays then .drop ayes nays
  else if s.blockNumber < votes.endBlock then .wait
  else if cfg.defaultVote.defaultVote (s.primeVote votes) ayes nays seats then .approve (seats - nays) nays
  else .drop ayes (seats - ayes)

variable {votes : Votes A} {yes no : ℕ}

theorem approve_bounds (hproper : votes.Proper) (hwithin : votes.Within s.members)
    (h : s.verdict cfg votes = .approve yes no) :
    votes.threshold ≤ yes ∧ yes + no ≤ s.members.length := by
  have hle := hproper.length_le hwithin
  unfold State.verdict at h
  dsimp only at h
  split at h
  · cases h
    exact ⟨‹_›, hle⟩
  · split at h
    · cases h
    · split at h
      · cases h
      · split at h
        · -- all who have not voted against it count for it
          cases h
          omega
        · cases h

theorem drop_bounds (hproper : votes.Proper) (hwithin : votes.Within s.members)
    (h : s.verdict cfg votes = .drop yes no) :
    yes < votes.threshold ∧ yes + no ≤ s.members.length := by
  have hle := hproper.length_le hwithin
  unfold State.verdict at h
  dsimp only at h
  split at h
  · cases h
  · split at h
    · cases h
      exact ⟨by omega, hle⟩
    · split at h
      · cases h
      · split at h
        · cases h
        · cases h
          omega

/-- The votes that are counted are those of the verdict. -/
theorem countedVotes_eq (cfg : Config A H P E W) (hproper : votes.Proper)
    (hwithin : votes.Within s.members) (hthreshold : 0 < votes.threshold) (hsize : s.members.length < 2 ^ 32) :
    (∀ yes no, s.verdict cfg votes = .approve yes no → s.countedVotes cfg votes = some (yes, no)) ∧
      (∀ yes no, s.verdict cfg votes = .drop yes no → s.countedVotes cfg votes = some (yes, no)) ∧
      (s.verdict cfg votes = .wait → s.countedVotes cfg votes = none) := by
  have hle := hproper.length_le hwithin
  have hayes : memberCount votes.ayes = votes.ayes.length := memberCount_of_lt (by omega)
  have hnays : memberCount votes.nays = votes.nays.length := memberCount_of_lt (by omega)
  have hseats : memberCount s.members = s.members.length := memberCount_of_lt hsize
  unfold State.verdict State.countedVotes
  dsimp only
  rw [hayes, hnays, hseats, abstentions_eq hle hsize]
  by_cases hyes : votes.threshold ≤ votes.ayes.length
  · simp [hyes]
  · have hyes' : ¬ votes.ayes.length ≥ votes.threshold := hyes
    by_cases hno : s.members.length < votes.threshold + votes.nays.length
    · have hno' : s.members.length - votes.nays.length < votes.threshold := by omega
      simp [hyes, hno, hno']
    · have hno' : ¬ s.members.length - votes.nays.length < votes.threshold := by omega
      by_cases hend : s.blockNumber < votes.endBlock
      · have hend' : ¬ s.blockNumber ≥ votes.endBlock := by omega
        simp [hyes, hno, hno', hend, hend']
      · have hend' : s.blockNumber ≥ votes.endBlock := by omega
        -- the abstentions go to one side
        have hfor : wrapAdd 32 votes.ayes.length
            (s.members.length - (votes.ayes.length + votes.nays.length)) =
              s.members.length - votes.nays.length := by
          rw [wrapAdd_of_lt (by omega)]
          omega
        have hagainst : wrapAdd 32 votes.nays.length
            (s.members.length - (votes.ayes.length + votes.nays.length)) =
              s.members.length - votes.ayes.length := by
          rw [wrapAdd_of_lt (by omega)]
          omega
        rw [hfor, hagainst]
        cases cfg.defaultVote.defaultVote (s.primeVote votes)
          votes.ayes.length votes.nays.length s.members.length with
        | true => simp [hyes, hno, hno', hend, hend']
        | false => simp [hyes, hno, hno', hend, hend']

end Verdicts

/-! ## Self check -/

variable [DecidableEq H]

/-- The loop over the indexes succeeds where they are different. -/
theorem checkIndices_ok {hs : List H} (hnodup : hs.Nodup) {seen : List ℕ}
    (hunique : ∀ h ∈ hs, ∀ j ∈ hs, ∀ k, s.Open h k → s.Open j k → h = j)
    (hseen : ∀ h ∈ hs, ∀ k, s.Open h k → k ∉ seen) : s.checkIndices hs seen = .ok () := by
  induction hs generalizing seen with
  | nil => rfl
  | cons h hs ih =>
      rw [List.nodup_cons] at hnodup
      have hrest : ∀ i ∈ hs, ∀ j ∈ hs, ∀ k, s.Open i k → s.Open j k → i = j :=
        fun i hi j hj => hunique i (List.mem_cons_of_mem h hi) j (List.mem_cons_of_mem h hj)
      unfold State.checkIndices
      cases hv : s.voting.find? h with
      | none => exact ih hnodup.2 hrest fun i hi => hseen i (List.mem_cons_of_mem h hi)
      | some votes =>
          have hopen : s.Open h votes.index := ⟨votes, hv, rfl⟩
          have hfresh : votes.index ∉ seen := hseen h List.mem_cons_self _ hopen
          rw [ensure_bind_ok]
          refine ⟨by simpa using hfresh, ih hnodup.2 hrest ?_⟩
          -- an index seen at the head is not seen again
          intro i hi k hk hmem
          rcases List.mem_append.mp hmem with hmem | hmem
          · exact hseen i (List.mem_cons_of_mem h hi) k hk hmem
          · rw [List.mem_singleton] at hmem
            subst hmem
            have heq := hunique i (List.mem_cons_of_mem h hi) h List.mem_cons_self _ hk hopen
            exact hnodup.1 (heq ▸ hi)

variable [LinearOrder A]

/-- The self check of the pallet succeeds along every run, unless there are too many members,
which nothing prevents. -/
theorem tryState_ok_iff (hlaw : cfg.Lawful)
    (hbuild : (State.empty world).build cfg members = some s₀) (ops : List (Op A H P W))
    (hmade : (run (Op.step cfg) s₀ ops).made < 2 ^ 32) :
    (run (Op.step cfg) s₀ ops).doTryState cfg = .ok () ↔
      (run (Op.step cfg) s₀ ops).members.length ≤ cfg.maxMembers := by
  rcases run_of_build hlaw hbuild ops with ⟨hsound, hnumbered⟩
  generalize run (Op.step cfg) s₀ ops = s at *
  have hkeys : s.proposalOf.keys = s.proposals.toFinset := by
    ext h
    rw [StorageMap.mem_keys, List.mem_toFinset, hsound.stored h]
  unfold State.doTryState
  constructor
  · intro h
    rcases bind_ok.mp h with ⟨-, -, h⟩
    rcases ensure_bind_ok.mp h with ⟨-, h⟩
    rcases ensure_bind_ok.mp h with ⟨-, h⟩
    rcases bind_ok.mp h with ⟨-, -, h⟩
    rcases bind_ok.mp h with ⟨-, -, h⟩
    rcases ensure_bind_ok.mp h with ⟨-, h⟩
    rcases ensure_bind_ok.mp h with ⟨hle, -⟩
    exact of_decide_eq_true hle
  · intro hle
    rw [bind_ok]
    refine ⟨(), forM_ok.mpr ?_, ?_⟩
    · intro h hh
      rcases (hsound.stored h).mp hh with ⟨proposal, hp⟩
      rw [ensure_ok, StorageMap.contains, hp]
      rfl
    rw [ensure_bind_ok]
    refine ⟨?_, ?_⟩
    · rw [hnumbered.count, Nat.mod_eq_of_lt hmade]
      exact decide_eq_true (hnumbered.listed hmade)
    rw [ensure_bind_ok]
    refine ⟨?_, ?_⟩
    · rw [hkeys, List.toFinset_card_of_nodup hsound.nodup]
      exact decide_eq_true rfl
    rw [bind_ok]
    refine ⟨(), forM_ok.mpr ?_, ?_⟩
    · -- there are no more votes than members
      intro h hh
      rcases (hsound.open_ h).mp hh with ⟨votes, hv⟩
      have hcount := (hsound.proper h votes hv).length_le (hsound.within h votes hv)
      rw [hv]
      exact ensure_ok.mpr (decide_eq_true (hcount.trans hle))
    rw [bind_ok]
    refine ⟨(), ?_, ?_⟩
    · apply checkIndices_ok hsound.nodup
      · exact fun h _ j _ k hk hj => hnumbered.unique hmade h j k hk hj
      · exact fun _ _ _ _ hk => absurd hk List.not_mem_nil
    rw [ensure_bind_ok]
    refine ⟨?_, ?_⟩
    · apply decide_eq_true
      intro h hh
      rw [StorageMap.mem_keys] at hh
      exact (hsound.open_ h).mpr hh
    rw [ensure_bind_ok]
    refine ⟨decide_eq_true hle, ?_⟩
    rw [ensure_bind_ok]
    refine ⟨decide_eq_true (List.isChain_iff_pairwise.mpr hsound.sorted), ?_⟩
    cases hp : s.prime with
    | none => rfl
    | some p => exact ensure_ok.mpr (decide_eq_true (hsound.prime p hp))

theorem tryState_ok_iff_demo :
    (run (Op.step demoCouncil) demoCouncilGenesis demoMotions).doTryState demoCouncil = .ok () ↔
      (run (Op.step demoCouncil) demoCouncilGenesis demoMotions).members.length ≤ 4 :=
  tryState_ok_iff demoCouncil_lawful demoCouncilGenesis_built demoMotions
    (by decide +kernel)

/-! ## Closing -/

/-- Closing a motion does what the verdict says. -/
theorem close_of_sound (hsound : s.Sound cfg) {i : H} {votes : Votes A}
    (hvotes : s.voting.find? i = some votes) (hsize : s.members.length < 2 ^ 32) (who : A)
    (weight : Weight) (lengthBound : ℕ) :
    (∀ yes no, s.verdict cfg votes = .approve yes no →
      ∃ proposal, s.proposalOf.find? i = some proposal ∧
        s.close cfg (.signed who) i votes.index weight lengthBound = (do
          ensure (decide (cfg.encodedSize proposal ≤ lengthBound)) .wrongProposalLength
          ensure ((cfg.callWeight proposal).allLte weight) .wrongProposalWeight
          .ok ((s.deposit (.closed i yes no)).doApproveProposal cfg s.members.length yes i
            proposal, .yes))) ∧
      (∀ yes no, s.verdict cfg votes = .drop yes no →
        s.close cfg (.signed who) i votes.index weight lengthBound =
          .ok ((s.deposit (.closed i yes no)).doDisapproveProposal i, .no)) ∧
      (s.verdict cfg votes = .wait →
        s.close cfg (.signed who) i votes.index weight lengthBound = .error .tooEarly) := by
  have hproper := hsound.proper i votes hvotes
  have hwithin := hsound.within i votes hvotes
  have hthreshold := hsound.threshold i votes hvotes
  rcases countedVotes_eq cfg hproper hwithin (by omega) hsize with ⟨happrove, hdrop, hwait⟩
  rcases (hsound.stored i).mp ((hsound.open_ i).mpr ⟨votes, hvotes⟩) with ⟨proposal, hproposal⟩
  have hclose : s.close cfg (.signed who) i votes.index weight lengthBound =
      s.doClose cfg i votes.index weight lengthBound := rfl
  rw [hclose, doClose_eq, hvotes]
  simp only [okOr, ensure, bind, Except.bind, decide_true, if_true]
  refine ⟨?_, ?_, ?_⟩
  · intro yes no h
    refine ⟨proposal, hproposal, ?_⟩
    have hge : yes ≥ votes.threshold := (approve_bounds hproper hwithin h).1
    unfold State.validateAndGetProposal
    rw [happrove yes no h, hproposal, memberCount_of_lt hsize]
    simp only [okOr, ensure, bind, Except.bind, if_pos hge]
    -- the bounds fit or not
    cases decide (cfg.encodedSize proposal ≤ lengthBound) with
    | false => rfl
    | true =>
        cases (cfg.callWeight proposal).allLte weight with
        | false => rfl
        | true => rfl
  · intro yes no h
    have hlt : ¬ yes ≥ votes.threshold := Nat.not_le.mpr (drop_bounds hproper hwithin h).1
    rw [hdrop yes no h]
    simp only [if_neg hlt]
  · intro h
    rw [hwait h]

/-- In every run, closing a motion does what the verdict on its votes says: nothing before its
time, unless it is decided. -/
theorem close_decides (hlaw : cfg.Lawful)
    (hbuild : (State.empty world).build cfg members = some s₀) (ops : List (Op A H P W)) {i : H}
    {votes : Votes A} (hvotes : (run (Op.step cfg) s₀ ops).voting.find? i = some votes)
    (hsize : (run (Op.step cfg) s₀ ops).members.length < 2 ^ 32) (who : A) (weight : Weight)
    (lengthBound : ℕ) :
    (∀ yes no, (run (Op.step cfg) s₀ ops).verdict cfg votes = .approve yes no →
      votes.threshold ≤ yes ∧ yes + no ≤ (run (Op.step cfg) s₀ ops).members.length ∧
      ∃ proposal, (run (Op.step cfg) s₀ ops).proposalOf.find? i = some proposal ∧
        (run (Op.step cfg) s₀ ops).close cfg (.signed who) i votes.index weight lengthBound = (do
          ensure (decide (cfg.encodedSize proposal ≤ lengthBound)) .wrongProposalLength
          ensure ((cfg.callWeight proposal).allLte weight) .wrongProposalWeight
          .ok (((run (Op.step cfg) s₀ ops).deposit (.closed i yes no)).doApproveProposal cfg
            (run (Op.step cfg) s₀ ops).members.length yes i proposal, .yes))) ∧
      (∀ yes no, (run (Op.step cfg) s₀ ops).verdict cfg votes = .drop yes no →
        yes < votes.threshold ∧ yes + no ≤ (run (Op.step cfg) s₀ ops).members.length ∧
        (run (Op.step cfg) s₀ ops).close cfg (.signed who) i votes.index weight lengthBound =
          .ok (((run (Op.step cfg) s₀ ops).deposit (.closed i yes no)).doDisapproveProposal i,
            .no)) ∧
      ((run (Op.step cfg) s₀ ops).verdict cfg votes = .wait →
        (run (Op.step cfg) s₀ ops).close cfg (.signed who) i votes.index weight lengthBound =
          .error .tooEarly) := by
  have hsound := (run_of_build hlaw hbuild ops).1
  have hproper := hsound.proper i votes hvotes
  have hwithin := hsound.within i votes hvotes
  rcases close_of_sound hsound hvotes hsize who weight lengthBound with ⟨happrove, hdrop, hwait⟩
  refine ⟨?_, ?_, hwait⟩
  · intro yes no h
    have hbounds := approve_bounds hproper hwithin h
    exact ⟨hbounds.1, hbounds.2, happrove yes no h⟩
  · intro yes no h
    have hbounds := drop_bounds hproper hwithin h
    exact ⟨hbounds.1, hbounds.2, hdrop yes no h⟩

/-- With two of three votes the motion is approved. -/
theorem close_decides_demo :
    (run (Op.step demoCouncil) demoCouncilGenesis (demoMotions.take 6)).close demoCouncil
      (.signed 9) 20 0 ⟨1, 1⟩ 1 =
        .ok (((run (Op.step demoCouncil) demoCouncilGenesis (demoMotions.take 6)).deposit
          (.closed 20 2 0)).doApproveProposal demoCouncil 3 2 20 20, .yes) := by
  have hvotes : (run (Op.step demoCouncil) demoCouncilGenesis (demoMotions.take 6)).voting.find? 20 =
      some ⟨⟨[2, 3], []⟩, 0, 2, 10⟩ := by decide +kernel
  have h := close_decides demoCouncil_lawful demoCouncilGenesis_built (demoMotions.take 6) hvotes
    (by decide +kernel) 9 ⟨1, 1⟩ 1
  rcases h.1 2 0 (by decide +kernel) with ⟨-, -, proposal, hproposal, hclose⟩
  have h20 : (run (Op.step demoCouncil) demoCouncilGenesis (demoMotions.take 6)).proposalOf.find? 20 =
      some 20 := by decide +kernel
  rw [h20] at hproposal
  cases hproposal
  exact hclose

/-! ## Motions do not stay -/

theorem notMem_of_removes {Out : List A → List A → List A → Prop} {i : H}
    (h : Removes cfg Out s i s') : i ∉ s'.proposals := by
  rcases h with ⟨s₁, -, rfl⟩
  simp [State.removeProposal]

omit [DecidableEq H] in
/-- Once its time is over a motion does not wait any more. -/
theorem verdict_ne_wait (cfg : Config A H P E W) {votes : Votes A}
    (htime : votes.endBlock ≤ s.blockNumber) : s.verdict cfg votes ≠ .wait := by
  intro h
  unfold State.verdict at h
  dsimp only at h
  split at h
  · cases h
  · split at h
    · cases h
    · split at h
      · omega
      · split at h
        · cases h
        · cases h

/-- In every run, once the time of a motion is over anybody can close it with bounds that cover its
proposal, however its members have voted, and frees its place. -/
theorem motion_can_be_closed (hlaw : cfg.Lawful)
    (hbuild : (State.empty world).build cfg members = some s₀) (ops : List (Op A H P W)) {i : H}
    {votes : Votes A} (hvotes : (run (Op.step cfg) s₀ ops).voting.find? i = some votes)
    (htime : votes.endBlock ≤ (run (Op.step cfg) s₀ ops).blockNumber)
    (hsize : (run (Op.step cfg) s₀ ops).members.length < 2 ^ 32) :
    ∃ proposal, (run (Op.step cfg) s₀ ops).proposalOf.find? i = some proposal ∧
      ∀ who weight lengthBound, (cfg.callWeight proposal).allLte weight = true →
        cfg.encodedSize proposal ≤ lengthBound → ∃ s' pays,
          (run (Op.step cfg) s₀ ops).close cfg (.signed who) i votes.index weight lengthBound =
            .ok (s', pays) ∧ i ∉ s'.proposals := by
  have hsound := (run_of_build hlaw hbuild ops).1
  generalize run (Op.step cfg) s₀ ops = s at *
  rcases (hsound.stored i).mp ((hsound.open_ i).mpr ⟨votes, hvotes⟩) with ⟨proposal, hproposal⟩
  refine ⟨proposal, hproposal, ?_⟩
  intro who weight lengthBound hweight hlength
  rcases close_of_sound hsound hvotes hsize who weight lengthBound with ⟨happrove, hdrop, -⟩
  have hgone : ∀ s' pays, s.close cfg (.signed who) i votes.index weight lengthBound =
      .ok (s', pays) → i ∉ s'.proposals := by
    intro s' pays h
    rcases bind_ok.mp h with ⟨-, -, h⟩
    exact notMem_of_removes (close_removes hlaw.leaving hsound h)
  cases hverdict : s.verdict cfg votes with
  | approve yes no =>
      rcases happrove yes no hverdict with ⟨proposal', hp, hclose⟩
      rw [hproposal] at hp
      cases hp
      rw [decide_eq_true hlength, hweight] at hclose
      exact ⟨_, _, hclose, hgone _ _ hclose⟩
  | drop yes no => exact ⟨_, _, hdrop yes no hverdict, hgone _ _ (hdrop yes no hverdict)⟩
  | wait => exact absurd hverdict (verdict_ne_wait cfg htime)

/-- A motion on which nobody votes is closed ten blocks later. -/
theorem motion_can_be_closed_demo :
    ∃ s' pays, (run (Op.step demoCouncil) demoCouncilGenesis
        (.propose (.signed 2) 2 30 1 :: List.replicate 10 .nextBlock)).close demoCouncil (.signed 9) 30
          0 ⟨1, 1⟩ 1 = .ok (s', pays) ∧ 30 ∉ s'.proposals := by
  have hvotes : (run (Op.step demoCouncil) demoCouncilGenesis
      (.propose (.signed 2) 2 30 1 :: List.replicate 10 .nextBlock)).voting.find? 30 =
        some ⟨⟨[], []⟩, 0, 2, 10⟩ := by decide +kernel
  rcases motion_can_be_closed demoCouncil_lawful demoCouncilGenesis_built _ hvotes
    (by decide +kernel) (by decide +kernel) with ⟨proposal, -, hclose⟩
  exact hclose 9 ⟨1, 1⟩ 1 rfl le_rfl

end Hypertensor.Council
