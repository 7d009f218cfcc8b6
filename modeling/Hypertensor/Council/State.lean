import Mathlib
import Hypertensor.Base.Ballot
import Hypertensor.Base.Dispatch
import Hypertensor.Base.Storage
import Hypertensor.State

/-!
# Hypertensor.Council.State — what the council stores

The council of the network is an instance of `pallet_collective`: accounts that vote on motions,
each a call that is dispatched when enough of them agree. The accounts `A`, the hashes `H` of
the proposals `P`, the errors `E` of dispatched calls and the rest of the chain `W` are left
open, as they are in the pallet.

* `State`: the storage of the pallet, all events it has deposited, and the rest of the chain.
* `Config`: what the runtime chooses, and what lies outside of the pallet.
-/

namespace Hypertensor.Council

open Base

/-! ## Origins -/

/-- `RawOrigin`: what the council dispatches a call with. -/
inductive RawOrigin (A : Type) where
  | members (n m : ℕ)
  | member (who : A)
deriving DecidableEq

/-- Where a call comes from. -/
inductive Origin (A : Type) where
  | root
  | signed (who : A)
  | council (o : RawOrigin A)
deriving DecidableEq

/-- `Error`, and the `BadOrigin` of the dispatcher. -/
inductive Error where
  | badOrigin
  | notMember
  | duplicateProposal
  | proposalMissing
  | wrongIndex
  | duplicateVote
  | tooEarly
  | tooManyProposals
  | wrongProposalWeight
  | wrongProposalLength
  | primeAccountNotMember
deriving DecidableEq, Repr

/-- `Pays`: whether the caller pays for the call. -/
inductive Pays where
  | yes
  | no
deriving DecidableEq, Repr

/-! ## Storage -/

/-- `Votes`. -/
structure Votes (A : Type) extends Ballot A where
  index : ℕ
  threshold : ℕ
  /-- `end`. -/
  endBlock : ℕ
deriving DecidableEq

/-- `Event`. -/
inductive Event (A H E : Type) where
  | proposed (account : A) (proposalIndex : ℕ) (proposalHash : H) (threshold : ℕ)
  | voted (account : A) (proposalHash : H) (voted : Bool) (yes no : ℕ)
  | approved (proposalHash : H)
  | disapproved (proposalHash : H)
  | executed (proposalHash : H) (result : Except E Unit)
  | memberExecuted (proposalHash : H) (result : Except E Unit)
  | closed (proposalHash : H) (yes no : ℕ)

/-- The storage of the council, all its events so far, and the rest of the chain. -/
structure State (A H P E W : Type) where
  proposals : List H
  proposalOf : StorageMap H P
  voting : StorageMap H (Votes A)
  proposalCount : ℕ
  members : List A
  prime : Option A
  blockNumber : ℕ
  events : List (Event A H E)
  world : W

variable {A H P E W : Type}

/-! ## Configuration -/

/-- The strategies of `DefaultVote`. -/
inductive DefaultVote where
  | primeDefaultVote
  | moreThanMajorityThenPrimeDefaultVote
deriving DecidableEq, Repr

/-- `default_vote`. -/
def DefaultVote.defaultVote (strategy : DefaultVote) (primeVote : Option Bool)
    (yesVotes _noVotes len : ℕ) : Bool :=
  match strategy with
  | primeDefaultVote => primeVote.getD false
  | moreThanMajorityThenPrimeDefaultVote =>
      decide (wrapMul 32 yesVotes 2 > len) || primeVote.getD false

/-- `Config`. The last five fields are what the pallet calls outside of itself: hashes, lengths
and weights of calls, their dispatch, and the accounts that are in an old sorted list of members
and not in a new one, as `set_members_sorted` computes them. -/
structure Config (A H P E W : Type) where
  motionDuration : ℕ
  maxProposals : ℕ
  maxMembers : ℕ
  maxProposalWeight : Weight
  defaultVote : DefaultVote
  setMembersOrigin : Origin A → Bool
  hashOf : P → H
  encodedSize : P → ℕ
  callWeight : P → Weight
  dispatch : P → RawOrigin A → State A H P E W → State A H P E W × Except E Unit
  outgoing : List A → List A → List A

/-- `as MemberCount`. -/
def memberCount (l : List A) : ℕ := l.length % 2 ^ 32

namespace State

variable (s : State A H P E W)

/-- `deposit_event`. -/
def deposit (e : Event A H E) : State A H P E W := { s with events := s.events ++ [e] }

/-- What a chain without a council has stored. -/
def empty (world : W) : State A H P E W where
  proposals := []
  proposalOf := ∅
  voting := ∅
  proposalCount := 0
  members := []
  prime := none
  blockNumber := 0
  events := []
  world := world

variable [DecidableEq A] [DecidableEq H]

/-! ## Writes -/

/-- `remove_proposal`. -/
def removeProposal (proposalHash : H) : State A H P E W :=
  { s with
    proposalOf := s.proposalOf.remove proposalHash
    voting := s.voting.remove proposalHash
    proposals := s.proposals.filter fun h => decide (h ≠ proposalHash) }

/-- `do_disapprove_proposal`. -/
def doDisapproveProposal (proposalHash : H) : State A H P E W :=
  (s.deposit (.disapproved proposalHash)).removeProposal proposalHash

/-- The votes on a motion after some accounts have left. -/
def dropVotes (outgoing : List A) (voting : StorageMap H (Votes A)) (h : H) :
    StorageMap H (Votes A) :=
  match voting.find? h with
  | some votes => voting.set h { votes with toBallot := votes.toBallot.retire outgoing }
  | none => voting

/-- `change_members_sorted`. The search in the sorted list of those who leave finds all. -/
def changeMembersSorted (outgoing new : List A) : State A H P E W :=
  { s with
    voting := s.proposals.foldl (dropVotes outgoing) s.voting
    members := new
    prime := none }

end State

end Hypertensor.Council
