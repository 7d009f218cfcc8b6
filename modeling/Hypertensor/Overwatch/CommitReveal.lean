import Mathlib
import Hypertensor.Base.Dispatch
import Hypertensor.Base.Run
import Hypertensor.Epoch.Divisors
import Hypertensor.Overwatch.Nodes

/-!
# Hypertensor.Overwatch.CommitReveal — how overwatch nodes score subnets

`overwatch_nodes/commit_reveal.rs`: in the first part of an overwatch epoch the nodes
commit to the hash of a weight and a salt, in the rest of it they reveal both. Nobody
may choose a weight after seeing another one's.

Whether a block is for commits depends on the block and its overwatch epoch alone: there
is a cutoff block for each epoch (`epochCutoffBlock`), and commits come before it and
reveals do not (`commit_before_reveal`). What a call may write is said by
`CommitsAdded` and `RevealsAdded`; that every weight was committed to in time
(`commit_reveal_safe`) follows by looking for the step that wrote it.
-/

namespace Hypertensor

open Base

variable {A H : Type} [DecidableEq A] [DecidableEq H]

/-- `OverwatchCommit`. -/
structure OverwatchCommit (H : Type) where
  subnetId : ℕ
  weight : H
deriving DecidableEq, Repr

/-- `OverwatchReveal`. -/
structure OverwatchReveal where
  subnetId : ℕ
  weight : ℕ
  salt : List UInt8
deriving DecidableEq, Repr

namespace OverwatchChain

variable (rt : Runtime A) (hash : ℕ × List UInt8 → H)

/-! ## Periods -/

/-- The first block of an overwatch epoch that is not for commits. -/
def epochCutoffBlock (c : OverwatchChain A H) (overwatchEpoch : ℕ) : ℕ :=
  let overwatchEpochLength := c.overwatchEpochLength rt
  let blockIncreaseCutoff := percentMul overwatchEpochLength c.overwatchCommitCutoffPercent
  wrapAdd 32 (wrapMul 32 overwatchEpochLength overwatchEpoch) (blockIncreaseCutoff % 2 ^ 32)

/-- `in_overwatch_commit_period`. -/
def inOverwatchCommitPeriod (c : OverwatchChain A H) : Bool :=
  decide (c.block < c.epochCutoffBlock rt (c.currentOverwatchEpoch rt))

/-! ## Commits -/

/-- `do_commit_subnet_weight`. -/
def doCommitSubnetWeight (overwatchNodeId overwatchEpoch : ℕ) (c : OverwatchChain A H)
    (commit : OverwatchCommit H) : Except Error (OverwatchChain A H) := do
  let key := (overwatchEpoch, overwatchNodeId, commit.subnetId)
  ensure (!c.overwatchCommits.contains key) .alreadyCommitted
  .ok { c with overwatchCommits := c.overwatchCommits.set key commit.weight }

/-- `perform_commit_overwatch_subnet_weights`. Repetitions are dropped only where they are
next to each other. -/
def performCommitOverwatchSubnetWeights (c : OverwatchChain A H) (overwatchNodeId : ℕ)
    (commitWeights : List (OverwatchCommit H)) : Except Error (OverwatchChain A H) := do
  let unrepeated := commitWeights.destutter fun a b => a.subnetId ≠ b.subnetId
  let qualified := unrepeated.filter fun x => c.subnets.subnetsData.contains x.subnetId
  ensure (!qualified.isEmpty) .commitsEmpty
  qualified.foldlM (doCommitSubnetWeight overwatchNodeId (c.currentOverwatchEpoch rt)) c

/-- `commit_overwatch_subnet_weights`. -/
def commitOverwatchSubnetWeights (c : OverwatchChain A H) (hotkey : A) (overwatchNodeId : ℕ)
    (commitWeights : List (OverwatchCommit H)) : Except Error (OverwatchChain A H) := do
  c.isPaused
  let overwatchHotkey ← c.getOverwatchNodeAssociatedHotkey overwatchNodeId
  ensure (decide (overwatchHotkey = hotkey)) .notKeyOwner
  let validatorId ← okOr (c.overwatch.overwatchNodeValidatorId.find? overwatchNodeId)
    .invalidValidatorId
  ensure (decide (validatorId ∈ c.overwatchValidatorWhitelist)) .coldkeyBlacklisted
  ensure (c.inOverwatchCommitPeriod rt) .notCommitPeriod
  c.performCommitOverwatchSubnetWeights rt overwatchNodeId commitWeights

/-! ## Reveals -/

/-- An entry of `OverwatchReveals`. -/
def revealOf (c : OverwatchChain A H) (overwatchEpoch subnetId overwatchNodeId : ℕ) : Option ℕ :=
  ((c.registry.overwatchReveals.getD overwatchEpoch ∅).getD subnetId ∅).find? overwatchNodeId

/-- Write `OverwatchReveals`. -/
def setReveal (c : OverwatchChain A H) (overwatchEpoch subnetId overwatchNodeId weight : ℕ) :
    OverwatchChain A H :=
  let ofEpoch := c.registry.overwatchReveals.getD overwatchEpoch ∅
  let ofSubnet := ofEpoch.getD subnetId ∅
  { c with registry := { c.registry with
    overwatchReveals := c.registry.overwatchReveals.set overwatchEpoch
      (ofEpoch.set subnetId (ofSubnet.set overwatchNodeId weight)) } }

/-- One round of the loop of `perform_reveal_overwatch_subnet_weights`. -/
def revealSubnetWeight (overwatchNodeId overwatchEpoch : ℕ) (c : OverwatchChain A H)
    (reveal : OverwatchReveal) : Except Error (OverwatchChain A H) := do
  ensure (decide (reveal.weight ≤ percentageFactor)) .invalidWeight
  let commitHash ← okOr
    (c.overwatchCommits.find? (overwatchEpoch, overwatchNodeId, reveal.subnetId)) .noCommitFound
  let actualHash := hash (reveal.weight, reveal.salt)
  ensure (decide (actualHash = commitHash)) .revealMismatch
  .ok (c.setReveal overwatchEpoch reveal.subnetId overwatchNodeId reveal.weight)

/-- `perform_reveal_overwatch_subnet_weights`. -/
def performRevealOverwatchSubnetWeights (c : OverwatchChain A H) (overwatchNodeId : ℕ)
    (reveals : List OverwatchReveal) : Except Error (OverwatchChain A H) :=
  reveals.foldlM (revealSubnetWeight hash overwatchNodeId (c.currentOverwatchEpoch rt)) c

/-- `reveal_overwatch_subnet_weights`. -/
def revealOverwatchSubnetWeights (c : OverwatchChain A H) (hotkey : A) (overwatchNodeId : ℕ)
    (reveals : List OverwatchReveal) : Except Error (OverwatchChain A H) := do
  c.isPaused
  let overwatchHotkey ← c.getOverwatchNodeAssociatedHotkey overwatchNodeId
  ensure (decide (overwatchHotkey = hotkey)) .notKeyOwner
  let validatorId ← okOr (c.overwatch.overwatchNodeValidatorId.find? overwatchNodeId)
    .invalidValidatorId
  ensure (decide (validatorId ∈ c.overwatchValidatorWhitelist)) .coldkeyBlacklisted
  ensure (!c.inOverwatchCommitPeriod rt) .notRevealPeriod
  c.performRevealOverwatchSubnetWeights rt hash overwatchNodeId reveals

/-! ## What the calls write -/

omit [DecidableEq A] [DecidableEq H] in
/-- One reveal is stored. -/
theorem revealOf_setReveal (c : OverwatchChain A H) (e i n w e' i' n' : ℕ) :
    (c.setReveal e i n w).revealOf e' i' n' =
      if e' = e ∧ i' = i ∧ n' = n then some w else c.revealOf e' i' n' := by
  unfold revealOf setReveal StorageMap.getD
  dsimp only
  -- the map is nested: epoch, subnet, node
  by_cases he : e' = e
  · subst he
    by_cases hi : i' = i
    · subst hi
      by_cases hn : n' = n
      · subst hn
        simp
      · simp [hn]
    · simp [hi]
  · simp [he]

/-- `c'` is `c` with new commits of one node in one epoch, where there were none. -/
structure CommitsAdded (e n : ℕ) (c c' : OverwatchChain A H) : Prop where
  keep : ∀ k h, c.overwatchCommits.find? k = some h → c'.overwatchCommits.find? k = some h
  fresh : ∀ k, c.overwatchCommits.find? k = none → k.1 ≠ e ∨ k.2.1 ≠ n →
    c'.overwatchCommits.find? k = none
  reveals : c'.registry.overwatchReveals = c.registry.overwatchReveals
  multiplier : c'.intervals = c.intervals
  cutoff : c'.overwatchCommitCutoffPercent = c.overwatchCommitCutoffPercent

/-- `c'` is `c` with weights revealed by one node in one epoch, each of which is what the
node committed to. -/
structure RevealsAdded (e n : ℕ) (c c' : OverwatchChain A H) : Prop where
  commits : c'.overwatchCommits = c.overwatchCommits
  fresh : ∀ e' i n' w, c'.revealOf e' i n' = some w → c.revealOf e' i n' = some w ∨
    e' = e ∧ n' = n ∧ w ≤ percentageFactor ∧
      ∃ salt, c.overwatchCommits.find? (e, n, i) = some (hash (w, salt))
  multiplier : c'.intervals = c.intervals
  cutoff : c'.overwatchCommitCutoffPercent = c.overwatchCommitCutoffPercent

variable {rt hash} {c c' c'' : OverwatchChain A H} {hotkey : A} {e n : ℕ}

omit [DecidableEq A] [DecidableEq H] in
/-- A call may add no commit. -/
theorem CommitsAdded.refl (e n : ℕ) (c : OverwatchChain A H) : CommitsAdded e n c c :=
  ⟨fun _ _ h => h, fun _ h _ => h, rfl, rfl, rfl⟩

omit [DecidableEq A] [DecidableEq H] in
/-- Commits are added one after the other. -/
theorem CommitsAdded.trans (h : CommitsAdded e n c c') (h' : CommitsAdded e n c' c'') :
    CommitsAdded e n c c'' :=
  ⟨fun k w hk => h'.keep k w (h.keep k w hk), fun k hk hne => h'.fresh k (h.fresh k hk hne) hne,
    h'.reveals.trans h.reveals, h'.multiplier.trans h.multiplier, h'.cutoff.trans h.cutoff⟩

omit [DecidableEq A] [DecidableEq H] in
/-- A call may add no reveal. -/
theorem RevealsAdded.refl (e n : ℕ) (c : OverwatchChain A H) : RevealsAdded hash e n c c :=
  ⟨rfl, fun _ _ _ _ h => Or.inl h, rfl, rfl⟩

omit [DecidableEq A] [DecidableEq H] in
/-- Reveals are added one after the other. -/
theorem RevealsAdded.trans (h : RevealsAdded hash e n c c') (h' : RevealsAdded hash e n c' c'') :
    RevealsAdded hash e n c c'' := by
  refine ⟨h'.commits.trans h.commits, ?_, h'.multiplier.trans h.multiplier,
    h'.cutoff.trans h.cutoff⟩
  intro e' i n' w hw
  rcases h'.fresh e' i n' w hw with hold | hnew
  · exact h.fresh e' i n' w hold
  · rw [h.commits] at hnew
    exact Or.inr hnew

omit [DecidableEq A] [DecidableEq H] in
/-- A commit is added for a subnet that had none. -/
theorem doCommitSubnetWeight_added {commit : OverwatchCommit H}
    (h : doCommitSubnetWeight n e c commit = .ok c') : CommitsAdded e n c c' := by
  simp only [doCommitSubnetWeight, ensure_bind_ok, Except.ok.injEq, Bool.not_eq_true'] at h
  rcases h with ⟨hnone, rfl⟩
  have habsent : c.overwatchCommits.find? (e, n, commit.subnetId) = none := by
    simpa [StorageMap.contains] using hnone
  refine ⟨?_, ?_, rfl, rfl, rfl⟩
  · intro k w hk
    have hne : k ≠ (e, n, commit.subnetId) := by
      rintro rfl
      rw [habsent] at hk
      cases hk
    dsimp only
    rwa [StorageMap.find?_set_ne _ _ hne]
  · intro k hk hother
    have hne : k ≠ (e, n, commit.subnetId) := by
      rintro rfl
      rcases hother with hother | hother
      · exact hother rfl
      · exact hother rfl
    dsimp only
    rwa [StorageMap.find?_set_ne _ _ hne]

omit [DecidableEq A] in
/-- A reveal is added where it matches the commit. -/
theorem revealSubnetWeight_added {reveal : OverwatchReveal}
    (h : revealSubnetWeight hash n e c reveal = .ok c') : RevealsAdded hash e n c c' := by
  simp only [revealSubnetWeight, ensure_bind_ok, okOr_bind_ok, Except.ok.injEq,
    decide_eq_true_eq] at h
  rcases h with ⟨hle, commitHash, hcommit, hmatch, rfl⟩
  refine ⟨rfl, ?_, rfl, rfl⟩
  intro e' i n' w hw
  rw [revealOf_setReveal] at hw
  split at hw
  · next heq =>
      rcases heq with ⟨rfl, rfl, rfl⟩
      cases hw
      exact Or.inr ⟨rfl, rfl, hle, reveal.salt, by rw [hcommit, hmatch]⟩
  · exact Or.inl hw

omit [DecidableEq H] in
/-- An accepted commit is made in the commit period. -/
theorem commitOverwatchSubnetWeights_ok {commitWeights : List (OverwatchCommit H)}
    (h : c.commitOverwatchSubnetWeights rt hotkey n commitWeights = .ok c') :
    c.inOverwatchCommitPeriod rt = true ∧ CommitsAdded (c.currentOverwatchEpoch rt) n c c' := by
  simp only [commitOverwatchSubnetWeights, State.isPaused, performCommitOverwatchSubnetWeights,
    bind_ok, ensure_ok, okOr_ok, exists_const] at h
  rcases h with ⟨_, _, _, _, _, _, _, hperiod, _, hloop⟩
  exact ⟨hperiod, foldlM_within (.refl _ n) .trans doCommitSubnetWeight_added hloop⟩

/-- An accepted reveal is made after the commit period. -/
theorem revealOverwatchSubnetWeights_ok {reveals : List OverwatchReveal}
    (h : c.revealOverwatchSubnetWeights rt hash hotkey n reveals = .ok c') :
    c.inOverwatchCommitPeriod rt = false ∧
    RevealsAdded hash (c.currentOverwatchEpoch rt) n c c' := by
  simp only [revealOverwatchSubnetWeights, State.isPaused, performRevealOverwatchSubnetWeights,
    bind_ok, ensure_ok, okOr_ok, exists_const, Bool.not_eq_true'] at h
  rcases h with ⟨_, _, _, _, _, _, _, hperiod, hloop⟩
  exact ⟨hperiod, foldlM_within (.refl _ n) .trans revealSubnetWeight_added hloop⟩

/-- The clocks of two states agree on the cutoff of every epoch. -/
def SamePeriods (c c' : OverwatchChain A H) : Prop :=
  c'.intervals.overwatchEpochLengthMultiplier = c.intervals.overwatchEpochLengthMultiplier ∧
    c'.overwatchCommitCutoffPercent = c.overwatchCommitCutoffPercent

omit [DecidableEq A] [DecidableEq H] in
/-- Commits come before reveals: in one epoch, a block for commits is an earlier one than
any block for reveals. -/
theorem commit_before_reveal (h : SamePeriods c c')
    (hepoch : c'.currentOverwatchEpoch rt = c.currentOverwatchEpoch rt)
    (hcommit : c.inOverwatchCommitPeriod rt = true)
    (hreveal : c'.inOverwatchCommitPeriod rt = false) : c.block < c'.block := by
  have hcutoff : c'.epochCutoffBlock rt (c.currentOverwatchEpoch rt) =
      c.epochCutoffBlock rt (c.currentOverwatchEpoch rt) := by
    unfold epochCutoffBlock Chain.overwatchEpochLength
    rw [h.1, h.2]
  unfold inOverwatchCommitPeriod at hcommit hreveal
  rw [hepoch, hcutoff] at hreveal
  exact lt_of_lt_of_le (of_decide_eq_true hcommit) (Nat.le_of_not_lt (of_decide_eq_false hreveal))

end OverwatchChain

/-! ## Runs -/

/-- What happens to commits and reveals: the two calls, or anything else, blocks included,
which leaves the storage as `s`. -/
inductive OverwatchOp (A H : Type) where
  | commit (hotkey : A) (overwatchNodeId : ℕ) (commitWeights : List (OverwatchCommit H))
  | reveal (hotkey : A) (overwatchNodeId : ℕ) (reveals : List OverwatchReveal)
  | other (s : OverwatchChain A H)

namespace OverwatchOp

open OverwatchChain

variable (rt : Runtime A) (hash : ℕ × List UInt8 → H)

/-- One step of the machine. -/
def step (s : OverwatchChain A H) : OverwatchOp A H → OverwatchChain A H
  | commit hotkey overwatchNodeId commitWeights =>
      Base.commit s (s.commitOverwatchSubnetWeights rt hotkey overwatchNodeId commitWeights)
  | reveal hotkey overwatchNodeId reveals =>
      Base.commit s (s.revealOverwatchSubnetWeights rt hash hotkey overwatchNodeId reveals)
  | other s' => s'

/-- Nothing else writes commits or reveals, and the length of an overwatch epoch and the
part of it for commits stay. -/
def Steady (s : OverwatchChain A H) : OverwatchOp A H → Prop
  | other s' => s'.overwatchCommits = s.overwatchCommits ∧
      s'.registry.overwatchReveals = s.registry.overwatchReveals ∧ SamePeriods s s'
  | _ => True

instance (s : OverwatchChain A H) : (op : OverwatchOp A H) → Decidable (op.Steady s)
  | commit _ _ _ => .isTrue trivial
  | reveal _ _ _ => .isTrue trivial
  | other _ => inferInstanceAs (Decidable (_ ∧ _ ∧ _ ∧ _))

/-- The step is a call of node `n` that is accepted in state `s`, and writes commits. -/
def CommitsTo (s : OverwatchChain A H) (n : ℕ) : OverwatchOp A H → Prop
  | commit hotkey overwatchNodeId commitWeights => overwatchNodeId = n ∧
      (s.commitOverwatchSubnetWeights rt hotkey overwatchNodeId commitWeights).toBool = true
  | _ => False

/-- The step is a call of node `n` that is accepted in state `s`, and writes reveals. -/
def RevealsTo (s : OverwatchChain A H) (n : ℕ) : OverwatchOp A H → Prop
  | reveal hotkey overwatchNodeId reveals => overwatchNodeId = n ∧
      (s.revealOverwatchSubnetWeights rt hash hotkey overwatchNodeId reveals).toBool = true
  | _ => False

variable {rt hash} {s : OverwatchChain A H} {op : OverwatchOp A H} {ops : List (OverwatchOp A H)}

omit [DecidableEq H] in
/-- Who commits is in the period for that. -/
theorem commitsTo_period {n : ℕ} (h : op.CommitsTo rt s n) :
    s.inOverwatchCommitPeriod rt = true := by
  cases op with
  | commit hotkey m commitWeights =>
      rcases toBool_ok.mp h.2 with ⟨s', hs'⟩
      exact (commitOverwatchSubnetWeights_ok hs').1
  | reveal _ _ _ => exact h.elim
  | other _ => exact h.elim

/-- Who reveals is not in the period to commit. -/
theorem revealsTo_period {n : ℕ} (h : op.RevealsTo rt hash s n) :
    s.inOverwatchCommitPeriod rt = false := by
  cases op with
  | reveal hotkey m reveals =>
      rcases toBool_ok.mp h.2 with ⟨s', hs'⟩
      exact (revealOverwatchSubnetWeights_ok hs').1
  | commit _ _ _ => exact h.elim
  | other _ => exact h.elim

variable (rt hash) in
/-- Step lemma: a step adds commits, adds reveals, or leaves both alone. -/
theorem step_cases (h : op.Steady s) :
    (∃ n, op.CommitsTo rt s n ∧ s.inOverwatchCommitPeriod rt = true ∧
      CommitsAdded (s.currentOverwatchEpoch rt) n s (op.step rt hash s)) ∨
    (∃ n, op.RevealsTo rt hash s n ∧ s.inOverwatchCommitPeriod rt = false ∧
      RevealsAdded hash (s.currentOverwatchEpoch rt) n s (op.step rt hash s)) ∨
    ((op.step rt hash s).overwatchCommits = s.overwatchCommits ∧
      (op.step rt hash s).registry.overwatchReveals = s.registry.overwatchReveals ∧
      SamePeriods s (op.step rt hash s)) := by
  cases op with
  | commit hotkey n commitWeights =>
      dsimp only [step, CommitsTo]
      cases hcall : s.commitOverwatchSubnetWeights rt hotkey n commitWeights with
      | error e => exact Or.inr (Or.inr ⟨rfl, rfl, rfl, rfl⟩)
      | ok s' =>
          rcases commitOverwatchSubnetWeights_ok hcall with ⟨hperiod, hadded⟩
          exact Or.inl ⟨n, ⟨rfl, rfl⟩, hperiod, hadded⟩
  | reveal hotkey n reveals =>
      dsimp only [step, RevealsTo]
      cases hcall : s.revealOverwatchSubnetWeights rt hash hotkey n reveals with
      | error e => exact Or.inr (Or.inr ⟨rfl, rfl, rfl, rfl⟩)
      | ok s' =>
          rcases revealOverwatchSubnetWeights_ok hcall with ⟨hperiod, hadded⟩
          exact Or.inr (Or.inl ⟨n, ⟨rfl, rfl⟩, hperiod, hadded⟩)
  | other s' => exact Or.inr (Or.inr h)

variable (rt hash) in
/-- A steady label does not move the periods. -/
theorem step_samePeriods (h : op.Steady s) : SamePeriods s (op.step rt hash s) := by
  rcases step_cases rt hash h with ⟨n, _, _, hadded⟩ | ⟨n, _, _, hadded⟩ |
    ⟨_, _, hsame⟩
  · exact ⟨by rw [hadded.multiplier], hadded.cutoff⟩
  · exact ⟨by rw [hadded.multiplier], hadded.cutoff⟩
  · exact hsame

/-- A commit is never changed by a step. -/
theorem step_keeps {k : ℕ × ℕ × ℕ} {v : H} (h : op.Steady s)
    (hk : s.overwatchCommits.find? k = some v) :
    (op.step rt hash s).overwatchCommits.find? k = some v := by
  rcases step_cases rt hash h with ⟨n, _, _, hadded⟩ | ⟨n, _, _, hadded⟩ |
    ⟨hcommits, _, _⟩
  · exact hadded.keep k v hk
  · rwa [hadded.commits]
  · rwa [hcommits]

/-- Nor does a steady run, by induction. -/
theorem run_samePeriods (hrun : Along (step rt hash) Steady s ops) :
    SamePeriods s (run (step rt hash) s ops) := by
  refine run_invariant (I := SamePeriods s) ?_ hrun ⟨rfl, rfl⟩
  intro s' op hop hs'
  have hstep := step_samePeriods rt hash hop
  exact ⟨hstep.1.trans hs'.1, hstep.2.trans hs'.2⟩

/-- A commit that is stored stays so in a steady run. -/
theorem run_keeps {k : ℕ × ℕ × ℕ} {v : H} (hrun : Along (step rt hash) Steady s ops)
    (hk : s.overwatchCommits.find? k = some v) :
    (run (step rt hash) s ops).overwatchCommits.find? k = some v :=
  run_invariant (I := fun s => s.overwatchCommits.find? k = some v)
    (fun _ _ hop hs => step_keeps hop hs) hrun hk

variable (rt hash)

/-- From state `s` the step makes the commit `v` of node `n` for subnet `i` and overwatch
epoch `e`, in the commit period of that epoch and where there was none. -/
def Commits (s : OverwatchChain A H) (e n i : ℕ) (v : H) (op : OverwatchOp A H) : Prop :=
  op.CommitsTo rt s n ∧ s.currentOverwatchEpoch rt = e ∧ s.inOverwatchCommitPeriod rt = true ∧
    s.overwatchCommits.find? (e, n, i) = none ∧
    (op.step rt hash s).overwatchCommits.find? (e, n, i) = some v

/-- From state `s` the step reveals the weight `w` of node `n` for subnet `i` and overwatch
epoch `e`, in that epoch and after its commit period. -/
def Reveals (s : OverwatchChain A H) (e i n w : ℕ) (op : OverwatchOp A H) : Prop :=
  op.RevealsTo rt hash s n ∧ s.currentOverwatchEpoch rt = e ∧
    s.inOverwatchCommitPeriod rt = false ∧ (op.step rt hash s).revealOf e i n = some w

variable {rt hash} {e i n w : ℕ} {v : H}

/-- Who finds a new commit after a step has seen it made. -/
theorem commits_of_new (h : op.Steady s) (hold : s.overwatchCommits.find? (e, n, i) ≠ some v)
    (hnew : (op.step rt hash s).overwatchCommits.find? (e, n, i) = some v) :
    op.Commits rt hash s e n i v := by
  rcases step_cases rt hash h with ⟨m, hto, hperiod, hadded⟩ |
    ⟨m, _, _, hadded⟩ | ⟨hcommits, _, _⟩
  · have hnone : s.overwatchCommits.find? (e, n, i) = none := by
      cases hfind : s.overwatchCommits.find? (e, n, i) with
      | none => rfl
      | some v' =>
          -- an old commit would still be there
          have hkept := hadded.keep _ v' hfind
          rw [hnew] at hkept
          rw [hfind, hkept] at hold
          exact absurd rfl hold
    have hmine : e = s.currentOverwatchEpoch rt ∧ n = m := by
      -- a step adds commits of one node in one epoch
      by_contra hother
      have hstill := hadded.fresh _ hnone (not_and_or.mp hother)
      rw [hnew] at hstill
      cases hstill
    rcases hmine with ⟨rfl, rfl⟩
    exact ⟨hto, rfl, hperiod, hnone, hnew⟩
  · rw [hadded.commits] at hnew
    exact absurd hnew hold
  · rw [hcommits] at hnew
    exact absurd hnew hold

/-- Who finds a new weight after a step has seen it revealed, and it was committed to. -/
theorem reveals_of_new (h : op.Steady s) (hold : s.revealOf e i n ≠ some w)
    (hnew : (op.step rt hash s).revealOf e i n = some w) :
    op.Reveals rt hash s e i n w ∧ w ≤ percentageFactor ∧
      ∃ salt, s.overwatchCommits.find? (e, n, i) = some (hash (w, salt)) := by
  have hsame {c : OverwatchChain A H}
      (hc : c.registry.overwatchReveals = s.registry.overwatchReveals) :
      c.revealOf e i n = s.revealOf e i n := by
    unfold revealOf
    rw [hc]
  rcases step_cases rt hash h with ⟨m, _, _, hadded⟩ |
    ⟨m, hto, hperiod, hadded⟩ | ⟨_, hreveals, _⟩
  · rw [hsame hadded.reveals] at hnew
    exact absurd hnew hold
  · rcases hadded.fresh e i n w hnew with hstale | ⟨rfl, rfl, hle, hcommitted⟩
    · exact absurd hstale hold
    · exact ⟨⟨hto, rfl, hperiod, hnew⟩, hle, hcommitted⟩
  · rw [hsame hreveals] at hnew
    exact absurd hnew hold

/-- Whoever looks for the origin of a commit finds the step that made it. -/
theorem exists_commits (hrun : Along (step rt hash) Steady s ops) (hnone : s.overwatchCommits = ∅)
    (h : (run (step rt hash) s ops).overwatchCommits.find? (e, n, i) = some v) :
    ∃ pre op post, ops = pre ++ op :: post ∧
      op.Commits rt hash (run (step rt hash) s pre) e n i v := by
  have hinit : s.overwatchCommits.find? (e, n, i) ≠ some v := by
    rw [hnone]
    simp
  rcases exists_first_step
      (Q := fun s : OverwatchChain A H => s.overwatchCommits.find? (e, n, i) = some v) hinit h with
    ⟨pre, op, post, rfl, hold, hnew⟩
  exact ⟨pre, op, post, rfl, commits_of_new (along_append.mp hrun).2.1 hold hnew⟩

/-- Whoever looks for the origin of a weight finds the step that revealed it. -/
theorem exists_reveals (hrun : Along (step rt hash) Steady s ops)
    (hnone : s.registry.overwatchReveals = ∅)
    (h : (run (step rt hash) s ops).revealOf e i n = some w) :
    ∃ pre op post, ops = pre ++ op :: post ∧
      op.Reveals rt hash (run (step rt hash) s pre) e i n w ∧ w ≤ percentageFactor ∧
      ∃ salt, (run (step rt hash) s pre).overwatchCommits.find? (e, n, i) =
        some (hash (w, salt)) := by
  have hinit : s.revealOf e i n ≠ some w := by
    unfold revealOf StorageMap.getD
    rw [hnone]
    simp
  rcases exists_first_step (Q := fun s : OverwatchChain A H => s.revealOf e i n = some w) hinit h
    with ⟨pre, op, post, rfl, hold, hnew⟩
  exact ⟨pre, op, post, rfl, reveals_of_new (along_append.mp hrun).2.1 hold hnew⟩

end OverwatchOp

open OverwatchOp OverwatchChain

/-- Take any run from a state without commits and reveals, with the length of the overwatch
epochs and the cutoff fixed.

1. Every weight revealed for an overwatch epoch is a percentage, and the commit to it,
   which is the hash of the weight and some salt, was made in a step before, at an earlier
   block of the same overwatch epoch and in its commit period.
2. A commit never changes.
3. A commit is accepted only before every block of its overwatch epoch in which a reveal is
   accepted from anybody, whatever else is in storage then.
4. Where no two inputs have one hash, the commit determines the weight. -/
theorem commit_reveal_safe (rt : Runtime A) (hash : ℕ × List UInt8 → H) (s : OverwatchChain A H)
    (ops : List (OverwatchOp A H)) (hcommits : s.overwatchCommits = ∅)
    (hreveals : s.registry.overwatchReveals = ∅)
    (hrun : Along (OverwatchOp.step rt hash) Steady s ops) :
    let after := run (OverwatchOp.step rt hash) s
    (∀ e i n w, (after ops).revealOf e i n = some w → w ≤ percentageFactor ∧ ∃ salt,
      (after ops).overwatchCommits.find? (e, n, i) = some (hash (w, salt)) ∧
      ∃ pre commit mid reveal post, ops = pre ++ commit :: mid ++ reveal :: post ∧
        commit.Commits rt hash (after pre) e n i (hash (w, salt)) ∧
        reveal.Reveals rt hash (after (pre ++ commit :: mid)) e i n w ∧
        (after pre).block < (after (pre ++ commit :: mid)).block) ∧
    (∀ pre k v, pre <+: ops → (after pre).overwatchCommits.find? k = some v →
      (after ops).overwatchCommits.find? k = some v) ∧
    (∀ pre, pre <+: ops → ∀ n (commit : OverwatchOp A H), commit.CommitsTo rt (after pre) n →
      ∀ (c : OverwatchChain A H) m (reveal : OverwatchOp A H), SamePeriods s c →
        c.currentOverwatchEpoch rt = (after pre).currentOverwatchEpoch rt →
        reveal.RevealsTo rt hash c m → (after pre).block < c.block) ∧
    (Function.Injective hash → ∀ e i n w w' salt, (after ops).revealOf e i n = some w →
      (after ops).overwatchCommits.find? (e, n, i) = some (hash (w', salt)) → w' = w) := by
  intro after
  have hkept : ∀ pre k v, pre <+: ops → (after pre).overwatchCommits.find? k = some v →
      (after ops).overwatchCommits.find? k = some v := by
    rintro pre k v ⟨post, rfl⟩ hk
    dsimp only [after]
    rw [run_append]
    exact run_keeps (along_append.mp hrun).2 hk
  have horigin : ∀ e i n w, (after ops).revealOf e i n = some w → w ≤ percentageFactor ∧ ∃ salt,
      (after ops).overwatchCommits.find? (e, n, i) = some (hash (w, salt)) ∧
      ∃ pre commit mid reveal post, ops = pre ++ commit :: mid ++ reveal :: post ∧
        commit.Commits rt hash (after pre) e n i (hash (w, salt)) ∧
        reveal.Reveals rt hash (after (pre ++ commit :: mid)) e i n w ∧
        (after pre).block < (after (pre ++ commit :: mid)).block := by
    intro e i n w hw
    -- backwards along the run: the reveal first, and the commit it found
    rcases exists_reveals hrun hreveals hw with ⟨before, reveal, post, rfl, hreveal, hle, salt, hsalt⟩
    have hbefore := (along_append.mp hrun).1
    rcases exists_commits hbefore hcommits hsalt with ⟨pre, commit, mid, rfl, hcommit⟩
    refine ⟨hle, salt, hkept _ _ _ (List.prefix_append _ _) hsalt, pre, commit, mid, reveal, post,
      rfl, hcommit, hreveal, ?_⟩
    have hperiods : SamePeriods (after pre) (after (pre ++ commit :: mid)) := by
      dsimp only [after]
      rw [run_append]
      exact run_samePeriods (along_append.mp hbefore).2
    exact commit_before_reveal hperiods (hreveal.2.1.trans hcommit.2.1.symm) hcommit.2.2.1
      hreveal.2.2.1
  refine ⟨horigin, hkept, ?_, ?_⟩
  · rintro pre ⟨post, rfl⟩ n commit hcommit c m reveal hsame hepoch hreveal
    have hperiods : SamePeriods s (after pre) := run_samePeriods (along_append.mp hrun).1
    have hcommitPeriod : (after pre).inOverwatchCommitPeriod rt = true := commitsTo_period hcommit
    have hrevealPeriod : c.inOverwatchCommitPeriod rt = false := revealsTo_period hreveal
    exact commit_before_reveal ⟨hsame.1.trans hperiods.1.symm, hsame.2.trans hperiods.2.symm⟩ hepoch
      hcommitPeriod hrevealPeriod
  · intro hinj e i n w w' salt' hw hcommitted
    rcases horigin e i n w hw with ⟨_, salt, hsalt, _⟩
    -- one hash, two preimages
    rw [hsalt] at hcommitted
    have hpair : (w, salt) = (w', salt') := hinj (Option.some.inj hcommitted)
    exact (congrArg Prod.fst hpair).symm

/-- A chain at the given block with overwatch node 1 of validator 1, which runs it under
hotkey 7. -/
def demoWatch (number : ℕ) (commits : StorageMap (ℕ × ℕ × ℕ) (ℕ × List UInt8)) :
    OverwatchChain ℕ (ℕ × List UInt8) where
  toChain :=
    let c := demoChain.atBlock number
    { c with
      overwatch := ⟨{1}, c.overwatch.overwatchNodeValidatorId.set 1 1⟩
      validators := { c.validators with
        validatorIdHotkey := c.validators.validatorIdHotkey.set 1 7 } }
  totalOverwatchNodes := 1
  totalOverwatchNodeUids := 1
  overwatchNodeIdHotkey := ∅
  overwatchNodeIndex := ∅
  overwatchValidatorWhitelist := {1}
  overwatchCommits := commits
  maxOverwatchNodes := 64
  overwatchCommitCutoffPercent := 800000000000000000
  overwatchMinDiversificationRatio := 0
  overwatchMinRepScore := 0
  overwatchMinAvgAttestationRatio := 0
  overwatchMinAge := 0

/-- The node commits to a weight in the last block for commits and reveals it in the
next one. -/
def demoReveal : List (OverwatchOp ℕ (ℕ × List UInt8)) :=
  [.commit 7 1 [⟨1, 5, [3]⟩], .other (demoWatch 36 ((∅ : StorageMap _ _).set (1, 1, 1) (5, [3]))),
    .reveal 7 1 [⟨1, 5, [3]⟩]]

/-- One node commits to a weight and reveals it in the second part of the epoch. -/
theorem commit_reveal_safe_demo :
    let s := run (OverwatchOp.step Runtime.runtime id) (demoWatch 35 ∅) demoReveal
    s.revealOf 1 1 1 = some 5 ∧
    (∃ salt, s.overwatchCommits.find? (1, 1, 1) = some (5, salt)) ∧
    ∀ w salt, s.overwatchCommits.find? (1, 1, 1) = some (w, salt) → w = 5 := by
  intro s
  have h := commit_reveal_safe Runtime.runtime id (demoWatch 35 ∅) demoReveal rfl rfl
    (by decide +kernel)
  have hrevealed : s.revealOf 1 1 1 = some 5 := by decide +kernel
  refine ⟨hrevealed, ?_, ?_⟩
  · rcases (h.1 1 1 1 5 hrevealed).2 with ⟨salt, hsalt, _⟩
    exact ⟨salt, hsalt⟩
  · intro w salt hw
    exact h.2.2.2 Function.injective_id 1 1 1 5 w salt hrevealed hw

end Hypertensor
