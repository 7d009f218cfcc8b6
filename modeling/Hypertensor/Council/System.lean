import Mathlib
import Hypertensor.Base.Run
import Hypertensor.Council.Calls

/-!
# Hypertensor.Council.System — the council as a state machine

What the calls of the council do to its storage comes down to a few kinds of `Write`. A call
that a motion dispatches may itself call the council, so a call is not one write but a sequence
of them, and what is shown of a write holds at every point of a call, also in the middle of it.

* `State.Sound`: what holds of the storage at any time.
* `Config.Lawful`: what is assumed of the code outside of the pallet.
* `Write.sound`: every write keeps the storage sound.
-/

namespace Hypertensor.Council

open Base Relation

variable {A H P E W : Type}

/-! ## Writes -/

/-- Events that say nothing about the votes on a motion. -/
def Event.Notes : Event A H E → Prop
  | .proposed _ _ _ _ => False
  | .voted _ _ _ _ _ => False
  | _ => True

/-- All who are no members any more lose their votes. -/
def Leaves (old new outgoing : List A) : Prop := ∀ a ∈ old, a ∉ new → a ∈ outgoing

section Write

variable [LinearOrder A] [DecidableEq H] (cfg : Config A H P E W)

/-- Exactly those lose their votes who lose a seat. An account can have more than one. -/
def LosesSeat (old new outgoing : List A) : Prop := ∀ a, a ∈ outgoing ↔ new.count a < old.count a

/-- What is written at once. When the members change, `Out` says who loses its votes. -/
inductive WriteFor (Out : List A → List A → List A → Prop) :
    State A H P E W → State A H P E W → Prop
  | openMotion {s : State A H P E W} (who : A) {threshold : ℕ} {h : H} (proposal : P)
      (hthreshold : 2 ≤ threshold) (hnew : s.proposalOf.find? h = none)
      (hroom : s.proposals.length < cfg.maxProposals) :
      WriteFor Out s (s.openMotion cfg who threshold h proposal)
  | vote {s : State A H P E W} {who : A} {h : H} {approve : Bool} {votes : Votes A} (yes no : ℕ)
      (hvotes : s.voting.find? h = some votes) (hwho : who ∈ s.members)
      (hnew : votes.stance who ≠ some approve) :
      WriteFor Out s { s.deposit (.voted who h approve yes no) with
        voting := s.voting.set h { votes with toBallot := votes.toBallot.cast who approve } }
  | removeProposal (s : State A H P E W) (h : H) : WriteFor Out s (s.removeProposal h)
  | changeMembers {s : State A H P E W} {outgoing new : List A} (hsorted : new.Pairwise (· ≤ ·))
      (hout : Out s.members new outgoing) : WriteFor Out s (s.changeMembersSorted outgoing new)
  | setPrime {s : State A H P E W} {prime : Option A} (hprime : ∀ p, prime = some p → p ∈ s.members) :
      WriteFor Out s { s with prime := prime }
  | deposit (s : State A H P E W) {e : Event A H E} (hnotes : e.Notes) : WriteFor Out s (s.deposit e)
  | nextBlock (s : State A H P E W) : WriteFor Out s { s with blockNumber := s.blockNumber + 1 }
  | other (s : State A H P E W) (world : W) : WriteFor Out s { s with world := world }

/-- A write after which only members have votes. -/
abbrev Write : State A H P E W → State A H P E W → Prop := WriteFor cfg Leaves

/-- What is written, one write after the other. -/
abbrev Writes : State A H P E W → State A H P E W → Prop := ReflTransGen (Write cfg)

/-- What holds of the storage of the council. -/
structure State.Sound (s : State A H P E W) : Prop where
  nodup : s.proposals.Nodup
  stored : ∀ h, h ∈ s.proposals ↔ ∃ proposal, s.proposalOf.find? h = some proposal
  open_ : ∀ h, h ∈ s.proposals ↔ ∃ votes, s.voting.find? h = some votes
  room : s.proposals.length ≤ cfg.maxProposals
  proper : ∀ h votes, s.voting.find? h = some votes → votes.Proper
  within : ∀ h votes, s.voting.find? h = some votes → votes.Within s.members
  threshold : ∀ h votes, s.voting.find? h = some votes → 2 ≤ votes.threshold
  sorted : s.members.Pairwise (· ≤ ·)
  prime : ∀ p, s.prime = some p → p ∈ s.members

/-- What the pallet relies on: the accounts that leave are those of the old members that are
missing among the new, and a dispatched call does to the council what its calls do. -/
structure Config.Lawful : Prop where
  outgoing : ∀ new old, new.Pairwise (· ≤ ·) → old.Pairwise (· ≤ ·) →
    ∀ a, (cfg.outgoing new old).count a = old.count a - new.count a
  dispatch : ∀ proposal origin s, s.Sound cfg → Writes cfg s (cfg.dispatch proposal origin s).1

/-- The same, where votes go with seats. -/
structure Config.LawfulSeats : Prop where
  outgoing : ∀ new old, new.Pairwise (· ≤ ·) → old.Pairwise (· ≤ ·) →
    ∀ a, (cfg.outgoing new old).count a = old.count a - new.count a
  dispatch : ∀ proposal origin s, s.Sound cfg →
    ReflTransGen (WriteFor cfg LosesSeat) s (cfg.dispatch proposal origin s).1

/-- The accounts that leave and the dispatched calls, for writes of one kind. -/
structure Config.LawfulFor (Out : List A → List A → List A → Prop) : Prop where
  leaves : ∀ old new outgoing, Out old new outgoing → Leaves old new outgoing
  outgoing : ∀ new old, new.Pairwise (· ≤ ·) → old.Pairwise (· ≤ ·) →
    Out old new (cfg.outgoing new old)
  dispatch : ∀ proposal origin s, s.Sound cfg →
    ReflTransGen (WriteFor cfg Out) s (cfg.dispatch proposal origin s).1

end Write

section Lawful

variable [LinearOrder A] [DecidableEq H] {cfg : Config A H P E W} {s s' : State A H P E W}
  {Out : List A → List A → List A → Prop}

theorem LosesSeat.leaves {old new outgoing : List A} (h : LosesSeat old new outgoing) :
    Leaves old new outgoing := by
  intro a ha hgone
  rw [h, List.count_eq_zero_of_not_mem hgone]
  exact List.count_pos_iff.mpr ha

theorem WriteFor.write (hout : ∀ old new outgoing, Out old new outgoing → Leaves old new outgoing)
    (h : WriteFor cfg Out s s') : Write cfg s s' := by
  cases h with
  | openMotion who proposal hthreshold hnew hroom => exact .openMotion who proposal hthreshold hnew hroom
  | vote yes no hvotes hwho hnew => exact .vote yes no hvotes hwho hnew
  | removeProposal i => exact .removeProposal s i
  | changeMembers hsorted h => exact .changeMembers hsorted (hout _ _ _ h)
  | setPrime hprime => exact .setPrime hprime
  | deposit hnotes => exact .deposit s hnotes
  | nextBlock => exact .nextBlock s
  | other world => exact .other s world

/-- Who loses a seat is whom the difference of the lists names. -/
theorem losesSeat_of_count {old new outgoing : List A}
    (h : ∀ a, outgoing.count a = old.count a - new.count a) : LosesSeat old new outgoing := by
  intro a
  rw [← List.count_pos_iff, h]
  omega

theorem Config.LawfulSeats.seats (h : cfg.LawfulSeats) : cfg.LawfulFor LosesSeat where
  leaves _ _ _ hout := LosesSeat.leaves hout
  outgoing new old hnew hold := losesSeat_of_count (h.outgoing new old hnew hold)
  dispatch := h.dispatch

theorem Config.LawfulSeats.lawful (h : cfg.LawfulSeats) : cfg.Lawful where
  outgoing := h.outgoing
  dispatch proposal origin s hs := by
    refine ReflTransGen.mono ?_ _ _ (h.dispatch proposal origin s hs)
    exact fun _ _ hwrite => hwrite.write fun _ _ _ => LosesSeat.leaves

theorem Config.Lawful.leaving (h : cfg.Lawful) : cfg.LawfulFor Leaves where
  leaves _ _ _ hout := hout
  outgoing new old hnew hold := (losesSeat_of_count (h.outgoing new old hnew hold)).leaves
  dispatch := h.dispatch

end Lawful

/-! ## What a write keeps -/

section Sound

variable [LinearOrder A] [DecidableEq H] {cfg : Config A H P E W} {s s' : State A H P E W}

/-- The ballots of the motions, after some accounts have left. -/
theorem find?_dropVotes (outgoing : List A) (voting : StorageMap H (Votes A)) (h j : H) :
    (State.dropVotes outgoing voting h).find? j =
      if j = h then (voting.find? j).map fun v => { v with toBallot := v.toBallot.retire outgoing }
      else voting.find? j := by
  unfold State.dropVotes
  split
  · next votes hv =>
      rw [StorageMap.find?_set]
      split
      · next hj => rw [hj, hv]; rfl
      · rfl
  · next hv =>
      split
      · next hj => rw [hj, hv]; rfl
      · rfl

/-- Every motion in a list of different ones loses the votes of those who left, once. -/
theorem find?_foldl_dropVotes (outgoing : List A) {hs : List H} (hnodup : hs.Nodup)
    (voting : StorageMap H (Votes A)) (j : H) :
    (hs.foldl (State.dropVotes outgoing) voting).find? j =
      if j ∈ hs then (voting.find? j).map fun v => { v with toBallot := v.toBallot.retire outgoing }
      else voting.find? j := by
  induction hs generalizing voting with
  | nil => simp
  | cons h hs ih =>
      rw [List.nodup_cons] at hnodup
      rw [List.foldl_cons, ih hnodup.2, find?_dropVotes]
      by_cases hj : j = h
      · subst hj
        simp [hnodup.1]
      · simp [hj]

namespace State.Sound

/-- The motions that are voted on, after a change of the members. -/
theorem find?_changeMembersSorted (h : s.Sound cfg) (outgoing new : List A) (j : H) :
    (s.changeMembersSorted outgoing new).voting.find? j =
      (s.voting.find? j).map fun v => { v with toBallot := v.toBallot.retire outgoing } := by
  show (s.proposals.foldl (State.dropVotes outgoing) s.voting).find? j = _
  rw [find?_foldl_dropVotes outgoing h.nodup]
  split
  · rfl
  · next hj =>
      -- what is not listed is not voted on
      cases hv : s.voting.find? j with
      | none => rfl
      | some votes => exact absurd ((h.open_ j).mpr ⟨votes, hv⟩) hj

theorem openMotion (h : s.Sound cfg) (who : A) {threshold : ℕ} {i : H} (proposal : P)
    (hthreshold : 2 ≤ threshold) (hnew : s.proposalOf.find? i = none)
    (hroom : s.proposals.length < cfg.maxProposals) :
    (s.openMotion cfg who threshold i proposal).Sound cfg := by
  -- a motion is new where its proposal is
  have hi : i ∉ s.proposals := by
    intro hi
    rcases (h.stored i).mp hi with ⟨p, hp⟩
    rw [hnew] at hp
    cases hp
  have hvotes : ∀ j votes, (s.openMotion cfg who threshold i proposal).voting.find? j = some votes →
      (j = i ∧ votes.ayes = [] ∧ votes.nays = [] ∧ votes.threshold = threshold) ∨
        s.voting.find? j = some votes := by
    intro j votes hv
    have hv' := hv
    simp only [State.openMotion, State.deposit, StorageMap.find?_set] at hv'
    split at hv'
    · next hj =>
        cases hv'
        exact Or.inl ⟨hj, rfl, rfl, rfl⟩
    · exact Or.inr hv'
  constructor
  · exact Ballot.nodup_concat h.nodup hi
  · intro j
    simp only [State.openMotion, State.deposit, StorageMap.find?_set, List.mem_append,
      List.mem_singleton, h.stored j]
    by_cases hj : j = i
    · simp [hj]
    · simp [hj]
  · intro j
    simp only [State.openMotion, State.deposit, StorageMap.find?_set, List.mem_append,
      List.mem_singleton, h.open_ j]
    by_cases hj : j = i
    · simp [hj]
    · simp [hj]
  · simp only [State.openMotion, State.deposit, List.length_append, List.length_singleton]
    omega
  · intro j votes hv
    rcases hvotes j votes hv with ⟨-, hayes, hnays, -⟩ | hv
    · constructor
      · rw [hayes]; exact List.nodup_nil
      · rw [hnays]; exact List.nodup_nil
      · rw [hayes]; intro a ha; cases ha
    · exact h.proper j votes hv
  · intro j votes hv
    rcases hvotes j votes hv with ⟨-, hayes, hnays, -⟩ | hv
    · intro a ha
      rw [hayes, hnays] at ha
      simp at ha
    · exact h.within j votes hv
  · intro j votes hv
    rcases hvotes j votes hv with ⟨-, -, -, hth⟩ | hv
    · rw [hth]; exact hthreshold
    · exact h.threshold j votes hv
  · exact h.sorted
  · exact h.prime

theorem vote (h : s.Sound cfg) {who : A} {i : H} {approve : Bool} {votes : Votes A}
    (hvotes : s.voting.find? i = some votes) (hwho : who ∈ s.members)
    (hnew : votes.stance who ≠ some approve) (e : Event A H E) :
    State.Sound cfg { s.deposit e with
      voting := s.voting.set i { votes with toBallot := votes.toBallot.cast who approve } } := by
  -- only the votes on this motion are written
  have hcase : ∀ j v, (s.voting.set i
      { votes with toBallot := votes.toBallot.cast who approve }).find? j = some v →
      v = { votes with toBallot := votes.toBallot.cast who approve } ∨ s.voting.find? j = some v := by
    intro j v hv
    rw [StorageMap.find?_set] at hv
    split at hv
    · cases hv
      exact Or.inl rfl
    · exact Or.inr hv
  constructor
  · exact h.nodup
  · exact h.stored
  · intro j
    show j ∈ s.proposals ↔ ∃ v, (s.voting.set i _).find? j = some v
    rw [h.open_ j, StorageMap.find?_set]
    by_cases hj : j = i
    · simp [hj, hvotes]
    · simp [hj]
  · exact h.room
  · intro j v hv
    rcases hcase j v hv with rfl | hv
    · exact (h.proper i votes hvotes).cast hnew
    · exact h.proper j v hv
  · intro j v hv
    rcases hcase j v hv with rfl | hv
    · exact (h.within i votes hvotes).cast (h.proper i votes hvotes) hwho
    · exact h.within j v hv
  · intro j v hv
    rcases hcase j v hv with rfl | hv
    · exact h.threshold i votes hvotes
    · exact h.threshold j v hv
  · exact h.sorted
  · exact h.prime

theorem removeProposal (h : s.Sound cfg) (i : H) : (s.removeProposal i).Sound cfg := by
  have hvotes : ∀ j v, (s.removeProposal i).voting.find? j = some v →
      s.voting.find? j = some v := by
    intro j v hv
    simp only [State.removeProposal, StorageMap.find?_remove] at hv
    split at hv
    · cases hv
    · exact hv
  constructor
  · exact h.nodup.filter _
  · intro j
    simp only [State.removeProposal, StorageMap.find?_remove, List.mem_filter, h.stored j]
    by_cases hj : j = i
    · simp [hj]
    · simp [hj]
  · intro j
    simp only [State.removeProposal, StorageMap.find?_remove, List.mem_filter, h.open_ j]
    by_cases hj : j = i
    · simp [hj]
    · simp [hj]
  · exact (List.length_filter_le _ _).trans h.room
  · exact fun j v hv => h.proper j v (hvotes j v hv)
  · exact fun j v hv => h.within j v (hvotes j v hv)
  · exact fun j v hv => h.threshold j v (hvotes j v hv)
  · exact h.sorted
  · exact h.prime

theorem changeMembers (h : s.Sound cfg) {outgoing new : List A} (hsorted : new.Pairwise (· ≤ ·))
    (hout : ∀ a ∈ s.members, a ∉ new → a ∈ outgoing) :
    (s.changeMembersSorted outgoing new).Sound cfg := by
  have hvotes : ∀ j v, (s.changeMembersSorted outgoing new).voting.find? j = some v →
      ∃ v₀, s.voting.find? j = some v₀ ∧
        v = { v₀ with toBallot := v₀.toBallot.retire outgoing } := by
    intro j v hv
    rw [h.find?_changeMembersSorted, Option.map_eq_some_iff] at hv
    rcases hv with ⟨v₀, hv₀, heq⟩
    exact ⟨v₀, hv₀, heq.symm⟩
  constructor
  · exact h.nodup
  · exact h.stored
  · intro j
    show j ∈ s.proposals ↔ _
    rw [h.open_ j, h.find?_changeMembersSorted]
    simp
  · exact h.room
  · intro j v hv
    rcases hvotes j v hv with ⟨v₀, hv₀, rfl⟩
    exact (h.proper j v₀ hv₀).retire outgoing
  · intro j v hv
    rcases hvotes j v hv with ⟨v₀, hv₀, rfl⟩
    exact (h.within j v₀ hv₀).retire hout
  · intro j v hv
    rcases hvotes j v hv with ⟨v₀, hv₀, rfl⟩
    exact h.threshold j v₀ hv₀
  · exact hsorted
  · -- the prime member is reset
    intro p hp
    cases hp

end State.Sound

/-- Every write keeps the storage sound. -/
theorem Write.sound (hwrite : Write cfg s s') (h : s.Sound cfg) : s'.Sound cfg := by
  cases hwrite with
  | openMotion who proposal hthreshold hnew hroom => exact h.openMotion who proposal hthreshold hnew hroom
  | vote yes no hvotes hwho hnew => exact h.vote hvotes hwho hnew _
  | removeProposal i => exact h.removeProposal i
  | changeMembers hsorted hout => exact h.changeMembers hsorted hout
  | setPrime hprime => exact { h with prime := hprime }
  | deposit _ => exact { h with }
  | nextBlock => exact { h with }
  | other world => exact { h with }

theorem Writes.sound (hwrites : Writes cfg s s') (h : s.Sound cfg) : s'.Sound cfg := by
  induction hwrites with
  | refl => exact h
  | tail _ hwrite ih => exact hwrite.sound ih

end Sound

end Hypertensor.Council
