import Mathlib
import Hypertensor.Council.System

/-!
# Hypertensor.Council.Runs — what can happen to the council

`Op` lists the calls of the council, the next block, and any change to the rest of the chain.
Each is a sequence of writes (`Op.step_writes`), so the storage is sound along every run from
the genesis (`sound_of_run`).
-/

namespace Hypertensor.Council

open Base Relation

variable {A H P E W : Type}

/-! ## Labels -/

/-- What can happen to the chain. -/
inductive Op (A H P W : Type) where
  | setMembers (origin : Origin A) (newMembers : List A) (prime : Option A)
  | execute (origin : Origin A) (proposal : P) (lengthBound : ℕ)
  | propose (origin : Origin A) (threshold : ℕ) (proposal : P) (lengthBound : ℕ)
  | vote (origin : Origin A) (proposal : H) (index : ℕ) (approve : Bool)
  | disapproveProposal (origin : Origin A) (proposalHash : H)
  | close (origin : Origin A) (proposalHash : H) (index : ℕ) (proposalWeightBound : Weight)
      (lengthBound : ℕ)
  | nextBlock
  /-- Any other call. -/
  | other (world : W)

variable [LinearOrder A] [DecidableEq H] (cfg : Config A H P E W)

/-- The outcome of a label. The block and other calls do not fail here. -/
def Op.call (s : State A H P E W) : Op A H P W → Except Error (State A H P E W)
  | setMembers origin newMembers prime => s.setMembers cfg origin newMembers prime
  | execute origin proposal lengthBound => s.execute cfg origin proposal lengthBound
  | propose origin threshold proposal lengthBound => s.propose cfg origin threshold proposal lengthBound
  | vote origin proposal index approve => (s.vote origin proposal index approve).map Prod.fst
  | disapproveProposal origin proposalHash => s.disapproveProposal origin proposalHash
  | close origin proposalHash index weight lengthBound =>
      (s.close cfg origin proposalHash index weight lengthBound).map Prod.fst
  | nextBlock => .ok { s with blockNumber := s.blockNumber + 1 }
  | other world => .ok { s with world := world }

/-- The chain after a label. A call that fails changes nothing. -/
def Op.step (s : State A H P E W) (op : Op A H P W) : State A H P E W := commit s (op.call cfg s)

/-! ## Calls are writes -/

section Calls

variable {cfg} {s s' : State A H P E W} {Out : List A → List A → List A → Prop}

/-- A call that also says who pays succeeds when the call itself does. -/
theorem map_fst_ok {α β : Type} {x : Except Error (α × β)} {a : α} :
    x.map Prod.fst = .ok a ↔ ∃ b, x = .ok (a, b) := by
  cases x with
  | error e => simp [Except.map]
  | ok p => simp [Except.map, Prod.ext_iff]

/-- A vote that is found is taken out by its place. -/
theorem removeAt_idxOf (l : List A) (who : A) :
    State.removeAt l (l.idxOf? who) = Ballot.drop l who := by
  have hpos : l.idxOf? who = if who ∈ l then some (l.idxOf who) else none := by
    induction l with
    | nil => rfl
    | cons a l ih =>
        rw [List.idxOf?_cons, ih, List.idxOf_cons]
        by_cases ha : a = who
        · simp [ha]
        · have hne : who ≠ a := fun heq => ha heq.symm
          have hbeq : (a == who) = false := beq_false_of_ne ha
          by_cases hl : who ∈ l
          · simp [hbeq, hl]
          · simp [hbeq, hl, hne]
  unfold Ballot.drop
  rw [hpos]
  split
  · rfl
  · rfl

/-- A vote of the account is given, and it is not the one it has given before. -/
theorem doVote_ok {who : A} {i : H} {index : ℕ} {approve first : Bool}
    (h : s.doVote who i index approve = .ok (s', first)) :
    ∃ votes, s.voting.find? i = some votes ∧ votes.index = index ∧
      votes.stance who ≠ some approve ∧ (first = true ↔ votes.stance who = none) ∧
      ∃ yes no, s' = { s.deposit (.voted who i approve yes no) with
        voting := s.voting.set i { votes with toBallot := votes.toBallot.cast who approve } } := by
  unfold State.doVote at h
  rcases okOr_bind_ok.mp h with ⟨votes, hvotes, h⟩
  rcases ensure_bind_ok.mp h with ⟨hindex, h⟩
  rcases ensure_bind_ok.mp h with ⟨hnew, h⟩
  cases h
  refine ⟨votes, hvotes, of_decide_eq_true hindex, ?_, ?_, ?_⟩
  · -- an account that is in both lists is taken for a yes
    cases approve with
    | true =>
        have hayes : who ∉ votes.ayes := by simpa using hnew
        rwa [Ne, Ballot.stance_true]
    | false =>
        have hnays : who ∉ votes.nays := by simpa using hnew
        unfold Ballot.stance
        simp [hnays]
  · rw [Ballot.stance_none]
    simp
  · simp only [removeAt_idxOf]
    cases approve with
    | true => exact ⟨_, _, rfl⟩
    | false => exact ⟨_, _, rfl⟩

/-- A vote is a write of that vote, or fails. -/
theorem vote_writes {origin : Origin A} {i : H} {index : ℕ} {approve : Bool} {pays : Pays}
    (h : s.vote origin i index approve = .ok (s', pays)) :
    ReflTransGen (WriteFor cfg Out) s s' := by
  unfold State.vote at h
  rcases bind_ok.mp h with ⟨who, -, h⟩
  rcases ensure_bind_ok.mp h with ⟨hwho, h⟩
  rcases bind_ok.mp h with ⟨⟨s₁, first⟩, hvote, h⟩
  cases h
  rcases doVote_ok hvote with ⟨votes, hvotes, -, hnew, -, yes, no, rfl⟩
  exact .single (.vote yes no hvotes (of_decide_eq_true hwho) hnew)

/-- Whether the prime member is for a motion, where there is such a member. -/
def State.primeVote (s : State A H P E W) (votes : Votes A) : Option Bool :=
  s.prime.map fun who => decide (who ∈ votes.ayes)

/-- The votes that count when a motion is closed, or nothing where it is too early. -/
def State.countedVotes (cfg : Config A H P E W) (s : State A H P E W) (votes : Votes A) :
    Option (ℕ × ℕ) :=
  let noVotes := memberCount votes.nays
  let yesVotes := memberCount votes.ayes
  let seats := memberCount s.members
  let abstentions := wrapSub 32 seats (wrapAdd 32 yesVotes noVotes)
  if yesVotes ≥ votes.threshold ∨ seats - noVotes < votes.threshold then some (yesVotes, noVotes)
  else if s.blockNumber ≥ votes.endBlock then
    if cfg.defaultVote.defaultVote (s.primeVote votes) yesVotes noVotes seats then
      some (wrapAdd 32 yesVotes abstentions, noVotes)
    else some (yesVotes, wrapAdd 32 noVotes abstentions)
  else none

/-- The two places in which a motion is approved or not are one. -/
theorem doClose_eq (i : H) (index lengthBound : ℕ) (weight : Weight) :
    s.doClose cfg i index weight lengthBound = (do
      let votes ← okOr (s.voting.find? i) .proposalMissing
      ensure (decide (votes.index = index)) .wrongIndex
      let counted ← okOr (s.countedVotes cfg votes) .tooEarly
      if counted.1 ≥ votes.threshold then do
        let proposal ← s.validateAndGetProposal cfg i lengthBound weight
        .ok ((s.deposit (.closed i counted.1 counted.2)).doApproveProposal cfg
          (memberCount s.members) counted.1 i proposal, .yes)
      else
        .ok ((s.deposit (.closed i counted.1 counted.2)).doDisapproveProposal i, .no)) := by
  unfold State.doClose
  congr 1
  funext votes
  congr 1
  funext _
  unfold State.countedVotes State.primeVote
  dsimp only
  by_cases hyes : memberCount votes.ayes ≥ votes.threshold
  · simp only [hyes, true_or, if_true]
    exact (if_pos hyes).symm
  · by_cases hno : memberCount s.members - memberCount votes.nays < votes.threshold
    · simp only [hyes, hno, or_true, if_true, if_false]
      exact (if_neg hyes).symm
    · simp only [hyes, hno, or_false, if_false]
      by_cases hend : s.blockNumber ≥ votes.endBlock
      · simp only [hend, if_true, decide_true]
        cases cfg.defaultVote.defaultVote (s.prime.map fun who => decide (who ∈ votes.ayes))
          (memberCount votes.ayes) (memberCount votes.nays) (memberCount s.members) with
        | true => rfl
        | false => rfl
      · simp only [hend, if_false, decide_false]
        rfl

/-- What removes a motion writes other things first, and removes it at the end. -/
def Removes (cfg : Config A H P E W) (Out : List A → List A → List A → Prop)
    (s : State A H P E W) (i : H) (s' : State A H P E W) : Prop :=
  ∃ s₁, ReflTransGen (WriteFor cfg Out) s s₁ ∧ s' = s₁.removeProposal i

/-- A motion that ends is removed by writes. -/
theorem Removes.writes {i : H} (h : Removes cfg Out s i s') :
    ReflTransGen (WriteFor cfg Out) s s' := by
  rcases h with ⟨s₁, hwrites, rfl⟩
  exact .tail hwrites (.removeProposal s₁ i)

/-- Writes may come before the removal. -/
theorem Removes.after {i : H} {s₁ : State A H P E W} (hwrites : ReflTransGen (WriteFor cfg Out) s s₁)
    (h : Removes cfg Out s₁ i s') : Removes cfg Out s i s' := by
  rcases h with ⟨s₂, hwrites', heq⟩
  exact ⟨s₂, hwrites.trans hwrites', heq⟩

/-- A motion that is disapproved is removed without being dispatched. -/
theorem disapprove_removes (s : State A H P E W) (i : H) :
    Removes cfg Out s i (s.doDisapproveProposal i) :=
  ⟨_, .single (.deposit s (e := .disapproved i) trivial), rfl⟩

/-- The call is dispatched with the motion still there, and the motion is gone in the end. -/
theorem approve_removes (hlaw : cfg.LawfulFor Out) (h : s.Sound cfg) (seats yesVotes : ℕ) (i : H)
    (proposal : P) : Removes cfg Out s i (s.doApproveProposal cfg seats yesVotes i proposal) := by
  have hsound : (s.deposit (.approved i)).Sound cfg := Write.sound (.deposit s trivial) h
  have hnote : WriteFor cfg Out s (s.deposit (.approved i)) := .deposit s trivial
  have hcall := hlaw.dispatch proposal (.members yesVotes seats) _ hsound
  refine ⟨_, (ReflTransGen.single hnote).trans (.tail hcall ?_), rfl⟩
  exact .deposit _ (e := .executed i _) trivial

/-- A motion that is closed is removed, after its call was dispatched or not. -/
theorem close_removes (hlaw : cfg.LawfulFor Out) (h : s.Sound cfg) {i : H} {index lengthBound : ℕ}
    {weight : Weight} {pays : Pays}
    (hclose : s.doClose cfg i index weight lengthBound = .ok (s', pays)) :
    Removes cfg Out s i s' := by
  have hnote : ∀ yes no, WriteFor cfg Out s (s.deposit (.closed i yes no)) :=
    fun _ _ => .deposit s trivial
  rw [doClose_eq] at hclose
  rcases okOr_bind_ok.mp hclose with ⟨votes, -, hclose⟩
  rcases ensure_bind_ok.mp hclose with ⟨-, hclose⟩
  rcases okOr_bind_ok.mp hclose with ⟨⟨yes, no⟩, -, hclose⟩
  dsimp only at hclose
  split at hclose
  · rcases bind_ok.mp hclose with ⟨proposal, -, hclose⟩
    cases hclose
    have hsound : (s.deposit (.closed i yes no)).Sound cfg := Write.sound (.deposit s trivial) h
    exact (approve_removes hlaw hsound ..).after (.single (hnote yes no))
  · cases hclose
    exact (disapprove_removes _ i).after (.single (hnote yes no))

/-- A proposal is dispatched at once, or opens a motion. -/
theorem propose_writes (hlaw : cfg.LawfulFor Out) (h : s.Sound cfg) {origin : Origin A}
    {threshold lengthBound : ℕ} {proposal : P}
    (hpropose : s.propose cfg origin threshold proposal lengthBound = .ok s') :
    ReflTransGen (WriteFor cfg Out) s s' := by
  unfold State.propose at hpropose
  rcases bind_ok.mp hpropose with ⟨who, -, hpropose⟩
  rcases ensure_bind_ok.mp hpropose with ⟨-, hpropose⟩
  split at hpropose
  · -- a threshold below two needs no vote
    unfold State.doProposeExecute at hpropose
    rcases ensure_bind_ok.mp hpropose with ⟨-, hpropose⟩
    rcases ensure_bind_ok.mp hpropose with ⟨-, hpropose⟩
    rcases ensure_bind_ok.mp hpropose with ⟨-, hpropose⟩
    cases hpropose
    exact .tail (hlaw.dispatch proposal _ s h) (.deposit _ trivial)
  · next hthreshold =>
      unfold State.doProposeProposed at hpropose
      rcases ensure_bind_ok.mp hpropose with ⟨-, hpropose⟩
      rcases ensure_bind_ok.mp hpropose with ⟨-, hpropose⟩
      rcases ensure_bind_ok.mp hpropose with ⟨hnew, hpropose⟩
      rcases ensure_bind_ok.mp hpropose with ⟨hroom, hpropose⟩
      cases hpropose
      have hnone : s.proposalOf.find? (cfg.hashOf proposal) = none := by
        simpa [StorageMap.contains] using hnew
      exact .single (.openMotion who proposal (by omega) hnone (of_decide_eq_true hroom))

/-- A member dispatches a call of its own. -/
theorem execute_writes (hlaw : cfg.LawfulFor Out) (h : s.Sound cfg) {origin : Origin A}
    {lengthBound : ℕ} {proposal : P}
    (hexecute : s.execute cfg origin proposal lengthBound = .ok s') :
    ReflTransGen (WriteFor cfg Out) s s' := by
  unfold State.execute at hexecute
  rcases bind_ok.mp hexecute with ⟨who, -, hexecute⟩
  rcases ensure_bind_ok.mp hexecute with ⟨-, hexecute⟩
  rcases ensure_bind_ok.mp hexecute with ⟨-, hexecute⟩
  cases hexecute
  exact .tail (hlaw.dispatch proposal _ s h) (.deposit _ trivial)

/-- New members take their seats, and the votes of those who leave are taken out. -/
theorem setMembers_writes (hlaw : cfg.LawfulFor Out) (h : s.Sound cfg) {origin : Origin A}
    {newMembers : List A} {prime : Option A}
    (hset : s.setMembers cfg origin newMembers prime = .ok s') :
    ReflTransGen (WriteFor cfg Out) s s' := by
  unfold State.setMembers at hset
  rcases ensure_bind_ok.mp hset with ⟨-, hset⟩
  rcases ensure_bind_ok.mp hset with ⟨hprime, hset⟩
  cases hset
  have hsorted := List.pairwise_insertionSort (· ≤ ·) newMembers
  refine .tail (.single (.changeMembers hsorted ?_)) (.setPrime ?_)
  · exact hlaw.outgoing _ _ hsorted h.sorted
  · intro p hp
    subst hp
    show p ∈ newMembers.insertionSort (· ≤ ·)
    rw [List.mem_insertionSort]
    simpa using hprime

/-- What can happen to the chain is a sequence of writes. -/
theorem Op.step_writesFor (hlaw : cfg.LawfulFor Out) (h : s.Sound cfg) (op : Op A H P W) :
    ReflTransGen (WriteFor cfg Out) s (op.step cfg s) := by
  refine commit_induction (P := fun s' => ReflTransGen (WriteFor cfg Out) s s') .refl ?_
  intro s' hok
  cases op with
  | setMembers origin newMembers prime => exact setMembers_writes hlaw h hok
  | execute origin proposal lengthBound => exact execute_writes hlaw h hok
  | propose origin threshold proposal lengthBound => exact propose_writes hlaw h hok
  | vote origin i index approve =>
      rcases map_fst_ok.mp hok with ⟨pays, hok⟩
      exact vote_writes hok
  | disapproveProposal origin i =>
      rcases bind_ok.mp hok with ⟨-, -, hok⟩
      cases hok
      exact (disapprove_removes s i).writes
  | close origin i index weight lengthBound =>
      rcases map_fst_ok.mp hok with ⟨pays, hok⟩
      rcases bind_ok.mp hok with ⟨-, -, hok⟩
      exact (close_removes hlaw h hok).writes
  | nextBlock =>
      cases hok
      exact .single (.nextBlock s)
  | other world =>
      cases hok
      exact .single (.other s world)

/-- Step lemma: whatever happens to the council is a sequence of writes. -/
theorem Op.step_writes (hlaw : cfg.Lawful) (h : s.Sound cfg) (op : Op A H P W) :
    Writes cfg s (op.step cfg s) := op.step_writesFor hlaw.leaving h

end Calls

/-! ## Runs -/

variable {cfg}

/-- The chain starts with a sound council. -/
theorem sound_of_build {world : W} {members : List A} {s : State A H P E W}
    (h : (State.empty world).build cfg members = some s) : s.Sound cfg := by
  have hempty : (State.empty world : State A H P E W).Sound cfg := by
    constructor
    · exact List.nodup_nil
    · intro i; constructor <;> intro hi <;> simp_all [State.empty]
    · intro i; constructor <;> intro hi <;> simp_all [State.empty]
    · exact Nat.zero_le _
    · intro i v hv; cases hv
    · intro i v hv; cases hv
    · intro i v hv; cases hv
    · exact List.Pairwise.nil
    · intro p hp; cases hp
  unfold State.build at h
  split at h
  · split at h
    · cases h
      exact hempty
    · split at h
      · cases h
        exact { hempty with
          within := fun i v hv => by cases hv
          sorted := List.pairwise_insertionSort (· ≤ ·) members
          prime := fun p hp => by cases hp }
      · cases h
  · cases h

/-- A run is a sequence of writes. -/
theorem writesFor_of_run {Out : List A → List A → List A → Prop} (hlaw : cfg.LawfulFor Out)
    {s : State A H P E W} (h : s.Sound cfg) (ops : List (Op A H P W)) :
    ReflTransGen (WriteFor cfg Out) s (run (Op.step cfg) s ops) := by
  induction ops generalizing s with
  | nil => exact .refl
  | cons op ops ih =>
      have hstep := op.step_writesFor hlaw h
      have hwrites : Writes cfg s (op.step cfg s) :=
        ReflTransGen.mono (fun _ _ hwrite => hwrite.write hlaw.leaves) _ _ hstep
      exact hstep.trans (ih (hwrites.sound h))

/-- Run lemma: so is whatever happens in a run. -/
theorem writes_of_run (hlaw : cfg.Lawful) {s : State A H P E W} (h : s.Sound cfg)
    (ops : List (Op A H P W)) : Writes cfg s (run (Op.step cfg) s ops) :=
  writesFor_of_run hlaw.leaving h ops

/-! ## A small council -/

/-- A council whose motions disapprove of other motions and are counted. -/
def demoCouncil : Config ℕ ℕ ℕ Unit ℕ where
  motionDuration := 10
  maxProposals := 3
  maxMembers := 4
  maxProposalWeight := ⟨9, 9⟩
  defaultVote := .primeDefaultVote
  setMembersOrigin o := decide (o = .root)
  hashOf proposal := proposal
  encodedSize _ := 1
  callWeight _ := ⟨1, 1⟩
  dispatch proposal _ s := ({ s.doDisapproveProposal proposal with world := s.world + 1 }, .ok ())
  outgoing new old := old.diff new

/-- Its calls disapprove motions and count up, and those who leave are those who lose a seat. -/
theorem demoCouncil_lawfulSeats : demoCouncil.LawfulSeats where
  outgoing new old _ _ a := List.count_diff a old new
  dispatch proposal _ s _ :=
    .tail (disapprove_removes s proposal).writes (.other _ (s.world + 1))

/-- So its calls are lawful. -/
theorem demoCouncil_lawful : demoCouncil.Lawful := demoCouncil_lawfulSeats.lawful

/-- Its first state, with three members. -/
def demoCouncilGenesis : State ℕ ℕ ℕ Unit ℕ := { State.empty 0 with members := [1, 2, 3] }

/-- The members are sorted when the council is built. -/
theorem demoCouncilGenesis_built :
    (State.empty 0).build demoCouncil [3, 1, 2] = some demoCouncilGenesis := rfl

/-- Two motions are proposed, one is voted on and closed, and a member leaves. -/
def demoMotions : List (Op ℕ ℕ ℕ ℕ) :=
  [.propose (.signed 1) 2 20 1, .propose (.signed 2) 2 30 1, .vote (.signed 1) 30 1 true,
    .vote (.signed 2) 20 0 false, .vote (.signed 2) 20 0 true, .vote (.signed 3) 20 0 true,
    .close (.signed 9) 20 0 ⟨1, 1⟩ 1, .setMembers .root [4, 3, 2] (some 3), .nextBlock]

end Hypertensor.Council
