import Mathlib
import Hypertensor.Council.State

/-!
# Hypertensor.Council.Calls — the calls of the council

The dispatchables of `pallet_collective` and what they are made of, and the check of the
storage that the pallet offers for tests (`doTryState`). A motion is dispatched before it is
removed: what the call does, it does while the motion is still there.
-/

namespace Hypertensor.Council

open Base

variable {A H P E W : Type}

/-! ## Origins -/

/-- `ensure_signed`. -/
def ensureSigned : Origin A → Except Error A
  | .signed who => .ok who
  | _ => .error .badOrigin

/-- `ensure_root`. -/
def ensureRoot : Origin A → Except Error Unit
  | .root => .ok ()
  | _ => .error .badOrigin

/-- `EnsureProportionAtLeast`. -/
def ensureProportionAtLeast (N D : ℕ) : RawOrigin A → Bool
  | .members n m => decide (wrapMul 32 n D ≥ wrapMul 32 N m)
  | .member _ => false

namespace State

/-- `Vec::swap_remove` where there is a position. -/
def removeAt (l : List A) : Option ℕ → List A
  | some pos => swapRemove l pos
  | none => l

variable [DecidableEq A] [DecidableEq H] (cfg : Config A H P E W) (s : State A H P E W)

/-! ## Motions -/

/-- `do_propose_execute`. -/
def doProposeExecute (proposal : P) (lengthBound : ℕ) : Except Error (State A H P E W) := do
  ensure (decide (cfg.encodedSize proposal ≤ lengthBound)) .wrongProposalLength
  ensure ((cfg.callWeight proposal).allLte cfg.maxProposalWeight) .wrongProposalWeight
  let proposalHash := cfg.hashOf proposal
  ensure (!s.proposalOf.contains proposalHash) .duplicateProposal
  let seats := memberCount s.members
  let (s₁, result) := cfg.dispatch proposal (.members 1 seats) s
  .ok (s₁.deposit (.executed proposalHash result))

/-- What `do_propose_proposed` writes. -/
def openMotion (who : A) (threshold : ℕ) (proposalHash : H) (proposal : P) : State A H P E W :=
  let index := s.proposalCount
  let votes : Votes A :=
    { index := index, threshold := threshold, ayes := [], nays := [],
      endBlock := wrapAdd 32 s.blockNumber cfg.motionDuration }
  let s₁ : State A H P E W := { s with
    proposals := s.proposals ++ [proposalHash]
    proposalCount := wrapAdd 32 s.proposalCount 1
    proposalOf := s.proposalOf.set proposalHash proposal
    voting := s.voting.set proposalHash votes }
  s₁.deposit (.proposed who index proposalHash threshold)

/-- `do_propose_proposed`. -/
def doProposeProposed (who : A) (threshold : ℕ) (proposal : P) (lengthBound : ℕ) :
    Except Error (State A H P E W) := do
  ensure (decide (cfg.encodedSize proposal ≤ lengthBound)) .wrongProposalLength
  ensure ((cfg.callWeight proposal).allLte cfg.maxProposalWeight) .wrongProposalWeight
  let proposalHash := cfg.hashOf proposal
  ensure (!s.proposalOf.contains proposalHash) .duplicateProposal
  ensure (decide (s.proposals.length < cfg.maxProposals)) .tooManyProposals
  .ok (s.openMotion cfg who threshold proposalHash proposal)

/-- `do_vote`. Whether it is the first vote of the account on the motion is returned. -/
def doVote (who : A) (proposal : H) (index : ℕ) (approve : Bool) :
    Except Error (State A H P E W × Bool) := do
  let voting ← okOr (s.voting.find? proposal) .proposalMissing
  ensure (decide (voting.index = index)) .wrongIndex
  let positionYes := voting.ayes.idxOf? who
  let positionNo := voting.nays.idxOf? who
  let isAccountVotingFirstTime := positionYes.isNone && positionNo.isNone
  ensure (if approve then positionYes.isNone else positionNo.isNone) .duplicateVote
  let votes : Votes A :=
    if approve then
      { voting with ayes := voting.ayes ++ [who], nays := removeAt voting.nays positionNo }
    else
      { voting with nays := voting.nays ++ [who], ayes := removeAt voting.ayes positionYes }
  let s₁ := s.deposit (.voted who proposal approve (memberCount votes.ayes) (memberCount votes.nays))
  .ok ({ s₁ with voting := s.voting.set proposal votes }, isAccountVotingFirstTime)

/-- `validate_and_get_proposal`. -/
def validateAndGetProposal (hash : H) (lengthBound : ℕ) (weightBound : Weight) :
    Except Error P := do
  let proposal ← okOr (s.proposalOf.find? hash) .proposalMissing
  ensure (decide (cfg.encodedSize proposal ≤ lengthBound)) .wrongProposalLength
  ensure ((cfg.callWeight proposal).allLte weightBound) .wrongProposalWeight
  .ok proposal

/-- `do_approve_proposal`. The motion is removed after the call, whatever the call does. -/
def doApproveProposal (seats yesVotes : ℕ) (proposalHash : H) (proposal : P) : State A H P E W :=
  let s₁ := s.deposit (.approved proposalHash)
  let (s₂, result) := cfg.dispatch proposal (.members yesVotes seats) s₁
  (s₂.deposit (.executed proposalHash result)).removeProposal proposalHash

/-- `do_close`. -/
def doClose (proposalHash : H) (index : ℕ) (proposalWeightBound : Weight) (lengthBound : ℕ) :
    Except Error (State A H P E W × Pays) := do
  let voting ← okOr (s.voting.find? proposalHash) .proposalMissing
  ensure (decide (voting.index = index)) .wrongIndex
  let noVotes := memberCount voting.nays
  let yesVotes := memberCount voting.ayes
  let seats := memberCount s.members
  if yesVotes ≥ voting.threshold then do
    let proposal ← s.validateAndGetProposal cfg proposalHash lengthBound proposalWeightBound
    let s₁ := s.deposit (.closed proposalHash yesVotes noVotes)
    .ok (s₁.doApproveProposal cfg seats yesVotes proposalHash proposal, .yes)
  else if seats - noVotes < voting.threshold then
    let s₁ := s.deposit (.closed proposalHash yesVotes noVotes)
    .ok (s₁.doDisapproveProposal proposalHash, .no)
  else do
    ensure (decide (s.blockNumber ≥ voting.endBlock)) .tooEarly
    let primeVote := s.prime.map fun who => decide (who ∈ voting.ayes)
    let default := cfg.defaultVote.defaultVote primeVote yesVotes noVotes seats
    -- plain operators on `u32`
    let abstentions := wrapSub 32 seats (wrapAdd 32 yesVotes noVotes)
    let yesVotes₁ := if default then wrapAdd 32 yesVotes abstentions else yesVotes
    let noVotes₁ := if default then noVotes else wrapAdd 32 noVotes abstentions
    if yesVotes₁ ≥ voting.threshold then do
      let proposal ← s.validateAndGetProposal cfg proposalHash lengthBound proposalWeightBound
      let s₁ := s.deposit (.closed proposalHash yesVotes₁ noVotes₁)
      .ok (s₁.doApproveProposal cfg seats yesVotes₁ proposalHash proposal, .yes)
    else
      let s₁ := s.deposit (.closed proposalHash yesVotes₁ noVotes₁)
      .ok (s₁.doDisapproveProposal proposalHash, .no)

/-! ## Dispatchables -/

/-- `set_members`. -/
def setMembers [LinearOrder A] (origin : Origin A) (newMembers : List A) (prime : Option A) :
    Except Error (State A H P E W) := do
  ensure (cfg.setMembersOrigin origin) .badOrigin
  ensure (prime.all fun p => decide (p ∈ newMembers)) .primeAccountNotMember
  let newMembers₁ := newMembers.insertionSort (· ≤ ·)
  let s₁ := s.changeMembersSorted (cfg.outgoing newMembers₁ s.members) newMembers₁
  .ok { s₁ with prime := prime }

/-- `execute`. -/
def execute (origin : Origin A) (proposal : P) (lengthBound : ℕ) :
    Except Error (State A H P E W) := do
  let who ← ensureSigned origin
  ensure (decide (who ∈ s.members)) .notMember
  ensure (decide (cfg.encodedSize proposal ≤ lengthBound)) .wrongProposalLength
  let (s₁, result) := cfg.dispatch proposal (.member who) s
  .ok (s₁.deposit (.memberExecuted (cfg.hashOf proposal) result))

/-- `propose`. -/
def propose (origin : Origin A) (threshold : ℕ) (proposal : P) (lengthBound : ℕ) :
    Except Error (State A H P E W) := do
  let who ← ensureSigned origin
  ensure (decide (who ∈ s.members)) .notMember
  if threshold < 2 then s.doProposeExecute cfg proposal lengthBound
  else s.doProposeProposed cfg who threshold proposal lengthBound

/-- `vote`. -/
def vote (origin : Origin A) (proposal : H) (index : ℕ) (approve : Bool) :
    Except Error (State A H P E W × Pays) := do
  let who ← ensureSigned origin
  ensure (decide (who ∈ s.members)) .notMember
  let (s₁, first) ← s.doVote who proposal index approve
  .ok (s₁, if first then .no else .yes)

/-- `disapprove_proposal`. -/
def disapproveProposal (origin : Origin A) (proposalHash : H) : Except Error (State A H P E W) := do
  ensureRoot origin
  .ok (s.doDisapproveProposal proposalHash)

/-- `close`. -/
def close (origin : Origin A) (proposalHash : H) (index : ℕ) (proposalWeightBound : Weight)
    (lengthBound : ℕ) : Except Error (State A H P E W × Pays) := do
  let _ ← ensureSigned origin
  s.doClose cfg proposalHash index proposalWeightBound lengthBound

/-! ## Genesis -/

/-- `GenesisConfig::build`, with `initialize_members`. The asserts stop the node. -/
def build [LinearOrder A] (members : List A) : Option (State A H P E W) :=
  if members.dedup.length = members.length ∧ members.length ≤ cfg.maxMembers then
    if members = [] then some s
    else if s.members = [] then some { s with members := members.insertionSort (· ≤ ·) }
    else none
  else none

/-! ## Self check -/

/-- The loop of `do_try_state` over the indexes of the motions. -/
def checkIndices : List H → List ℕ → Except String Unit
  | [], _ => .ok ()
  | proposal :: rest, proposalIndices =>
      match s.voting.find? proposal with
      | some votes => do
          ensure (!proposalIndices.contains votes.index) "The proposal index is not unique."
          checkIndices rest (proposalIndices ++ [votes.index])
      | none => checkIndices rest proposalIndices

/-- `do_try_state`. -/
def doTryState [LinearOrder A] : Except String Unit := do
  s.proposals.forM fun proposal => ensure (s.proposalOf.contains proposal)
    "Proposal hash from `Proposals` is not found inside the `ProposalOf` mapping."
  ensure (decide (s.proposals.length ≤ s.proposalCount))
    "The actual number of proposals is greater than `ProposalCount`"
  ensure (decide (s.proposals.length = s.proposalOf.keys.card))
    "Proposal count inside `Proposals` is not equal to the proposal count in `ProposalOf`"
  s.proposals.forM fun proposal =>
    match s.voting.find? proposal with
    | some votes => ensure (decide (votes.ayes.length + votes.nays.length ≤ cfg.maxMembers))
        "The sum of ayes and nays is greater than `MaxMembers`"
    | none => .ok ()
  s.checkIndices s.proposals []
  ensure (decide (∀ proposalHash ∈ s.voting.keys, proposalHash ∈ s.proposals))
    "`Proposals` doesn't contain the proposal hash from the `Voting` storage map."
  ensure (decide (s.members.length ≤ cfg.maxMembers))
    "The member count is greater than `MaxMembers`."
  ensure (decide (s.members.IsChain (· ≤ ·))) "The members are not sorted by value."
  match s.prime with
  | some prime => ensure (decide (prime ∈ s.members)) "Prime account is not a member."
  | none => .ok ()

end State

end Hypertensor.Council
