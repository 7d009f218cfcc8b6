import Mathlib
import Hypertensor.Council.Runs

/-!
# Hypertensor.Council.Motions — the life of a motion

A motion is proposed under the hash of its call and under an index, is voted on, and ends when
it is closed or disapproved. Indexes are counted up in a `u32`, so they tell motions apart as
long as fewer than `2 ^ 32` have been proposed.

* `Recorded`: the last votes, kept beside what is written.
* `votes_are_latest`: the votes on a motion are the last votes on it.
* `ended_motion_is_over`: a motion ends once.
-/

namespace Hypertensor.Council

open Base Relation

variable {A H P E W : Type}

/-! ## Events -/

/-- A motion has been proposed. -/
def Event.isProposed : Event A H E → Bool
  | .proposed _ _ _ _ => true
  | _ => false

/-- What an event says of the vote of `a` on the motion `h`. -/
def Event.apply [DecidableEq A] [DecidableEq H] (h : H) (a : A) (last : Option Bool) :
    Event A H E → Option Bool
  | .proposed _ _ h' _ => if h' = h then none else last
  | .voted a' h' approve _ _ => if h' = h ∧ a' = a then some approve else last
  | _ => last

namespace State

/-- How many motions have been proposed. -/
def made (s : State A H P E W) : ℕ := s.events.countP Event.isProposed

/-- What a write does to the last votes. Its event may be a vote or a new motion, and who loses a
seat loses its votes. -/
def note [DecidableEq A] [DecidableEq H] (s s' : State A H P E W) (last : H → A → Option Bool)
    (h : H) (a : A) : Option Bool :=
  if s'.members.count a < s.members.count a then none
  else (s'.events.drop s.events.length).foldl (Event.apply h a) (last h a)

/-- The motion with index `k` is open under the hash `h`. -/
def Open (s : State A H P E W) [DecidableEq H] (h : H) (k : ℕ) : Prop :=
  ∃ votes, s.voting.find? h = some votes ∧ votes.index = k

end State

/-! ## Indexes -/

/-- A note is not about a proposal. -/
theorem Event.Notes.isProposed {e : Event A H E} (h : e.Notes) : e.isProposed = false := by
  cases e with
  | proposed _ _ _ _ => exact h.elim
  | _ => rfl

/-- One event more counts one motion more, if it is about a proposal. -/
theorem made_append {s s' : State A H P E W} {e : Event A H E} (h : s'.events = s.events ++ [e]) :
    s'.made = s.made + if e.isProposed then 1 else 0 := by
  unfold State.made
  rw [h, List.countP_append, List.countP_singleton]

/-- Nothing is proposed. -/
theorem made_note {s s' : State A H P E W} {e : Event A H E} (h : s'.events = s.events ++ [e])
    (he : e.isProposed = false) : s'.made = s.made := by
  rw [made_append h, he]
  rfl

section Open

variable [DecidableEq H] {cfg : Config A H P E W} {s s' : State A H P E W}

/-- Indexes tell the open motions apart, as long as they have not started again. -/
structure State.Numbered (s : State A H P E W) : Prop where
  count : s.proposalCount = s.made % 2 ^ 32
  below : s.made < 2 ^ 32 → ∀ h k, s.Open h k → k < s.made
  unique : s.made < 2 ^ 32 → ∀ h j k, s.Open h k → s.Open j k → h = j
  listed : s.made < 2 ^ 32 → s.proposals.length ≤ s.made

/-- Nothing is proposed, and what is open has been open. -/
theorem State.Numbered.shrink (h : s.Numbered) (hcount : s'.proposalCount = s.proposalCount)
    (hmade : s'.made = s.made) (hopen : ∀ i k, s'.Open i k → s.Open i k)
    (hlength : s'.proposals.length ≤ s.proposals.length) : s'.Numbered := by
  constructor
  · rw [hcount, hmade]
    exact h.count
  · intro hlt i k hk
    rw [hmade] at hlt ⊢
    exact h.below hlt i k (hopen i k hk)
  · intro hlt i j k hi hj
    rw [hmade] at hlt
    exact h.unique hlt i j k (hopen i k hi) (hopen j k hj)
  · intro hlt
    rw [hmade] at hlt ⊢
    exact hlength.trans (h.listed hlt)

/-- A motion that is opened has the next number. -/
theorem State.Numbered.openMotion (h : s.Numbered) (who : A) (threshold : ℕ) (i : H) (proposal : P) :
    (s.openMotion cfg who threshold i proposal).Numbered := by
  have hmade : (s.openMotion cfg who threshold i proposal).made = s.made + 1 :=
    made_append (e := .proposed who s.proposalCount i threshold) rfl
  have hopen : ∀ j k, (s.openMotion cfg who threshold i proposal).Open j k →
      (j = i ∧ k = s.proposalCount) ∨ s.Open j k := by
    rintro j k ⟨votes, hv, hk⟩
    simp only [State.openMotion, State.deposit, StorageMap.find?_set] at hv
    split at hv
    · next hj =>
        cases hv
        exact Or.inl ⟨hj, hk.symm⟩
    · exact Or.inr ⟨votes, hv, hk⟩
  constructor
  · rw [hmade]
    show wrapAdd 32 s.proposalCount 1 = _
    rw [h.count, wrapAdd, Nat.mod_add_mod]
  · intro hlt j k hk
    rw [hmade] at hlt ⊢
    rcases hopen j k hk with ⟨-, rfl⟩ | hk
    · rw [h.count, Nat.mod_eq_of_lt (by omega)]
      omega
    · exact (h.below (by omega) j k hk).trans (Nat.lt_succ_self _)
  · -- the new index is above all others
    intro hlt j j' k hj hj'
    rw [hmade] at hlt
    have hnew : s.proposalCount = s.made := by
      rw [h.count, Nat.mod_eq_of_lt (by omega)]
    rcases hopen j k hj with ⟨hji, hk⟩ | hold
    · rcases hopen j' k hj' with ⟨hji', -⟩ | hold'
      · rw [hji, hji']
      · have hlt' := h.below (by omega) j' k hold'
        omega
    · rcases hopen j' k hj' with ⟨-, hk⟩ | hold'
      · have hlt' := h.below (by omega) j k hold
        omega
      · exact h.unique (by omega) j j' k hold hold'
  · intro hlt
    rw [hmade] at hlt ⊢
    show (s.proposals ++ [i]).length ≤ _
    rw [List.length_append, List.length_singleton]
    exact Nat.add_le_add_right (h.listed (by omega)) 1

/-- A vote leaves the open motions as they are. -/
theorem open_vote {i : H} {votes : Votes A} (hvotes : s.voting.find? i = some votes)
    (b : Ballot A) (e : Event A H E) {j : H} {k : ℕ}
    (h : State.Open { s.deposit e with voting := s.voting.set i { votes with toBallot := b } } j k) :
    s.Open j k := by
  rcases h with ⟨v, hv, hk⟩
  dsimp only at hv
  rw [StorageMap.find?_set] at hv
  split at hv
  · next hj =>
      cases hv
      exact ⟨votes, hj ▸ hvotes, hk⟩
  · exact ⟨v, hv, hk⟩

/-- A removal ends one motion and leaves the others open. -/
theorem open_removeProposal {i j : H} {k : ℕ} :
    (s.removeProposal i).Open j k ↔ j ≠ i ∧ s.Open j k := by
  unfold State.Open State.removeProposal
  dsimp only
  rw [StorageMap.find?_remove]
  by_cases hj : j = i
  · simp [hj]
  · simp [hj]

end Open

/-- A note changes no last vote. -/
theorem Event.Notes.apply [DecidableEq A] [DecidableEq H] {e : Event A H E} (h : e.Notes) (i : H)
    (a : A) (last : Option Bool) : e.apply i a last = last := by
  cases e with
  | proposed _ _ _ _ => exact h.elim
  | voted _ _ _ _ _ => exact h.elim
  | _ => rfl

section Writes

variable [LinearOrder A] [DecidableEq H] {cfg : Config A H P E W} {s s' : State A H P E W}

/-- A write deposits one event or none. -/
theorem Write.events (hwrite : Write cfg s s') :
    s'.events = s.events ∨ ∃ e, s'.events = s.events ++ [e] := by
  cases hwrite with
  | openMotion who proposal _ _ _ => exact Or.inr ⟨_, rfl⟩
  | vote yes no _ _ _ => exact Or.inr ⟨_, rfl⟩
  | deposit _ => exact Or.inr ⟨_, rfl⟩
  | _ => exact Or.inl rfl

/-- No write makes the number of motions smaller. -/
theorem Write.made_le (hwrite : Write cfg s s') : s.made ≤ s'.made := by
  rcases hwrite.events with h | ⟨e, h⟩
  · exact le_of_eq (congrArg (List.countP Event.isProposed) h.symm)
  · exact made_append h ▸ Nat.le_add_right _ _

/-- Nor do several writes. -/
theorem Writes.made_le (hwrites : Writes cfg s s') : s.made ≤ s'.made := by
  induction hwrites with
  | refl => exact le_rfl
  | tail _ hwrite ih => exact ih.trans hwrite.made_le

/-- A change of members opens no motion. -/
theorem open_changeMembersSorted (h : s.Sound cfg) (outgoing new : List A) {j : H} {k : ℕ}
    (hopen : (s.changeMembersSorted outgoing new).Open j k) : s.Open j k := by
  rcases hopen with ⟨v, hv, hk⟩
  rw [h.find?_changeMembersSorted, Option.map_eq_some_iff] at hv
  rcases hv with ⟨v₀, hv₀, rfl⟩
  exact ⟨v₀, hv₀, hk⟩

/-- A write keeps the motions numbered. -/
theorem Write.numbered (hwrite : Write cfg s s') (hsound : s.Sound cfg) (h : s.Numbered) :
    s'.Numbered := by
  cases hwrite with
  | openMotion who proposal _ _ _ => exact h.openMotion who _ _ proposal
  | vote yes no hvotes _ _ =>
      exact h.shrink rfl (made_note (e := .voted _ _ _ yes no) rfl rfl)
        (fun _ _ => open_vote hvotes _ _) le_rfl
  | removeProposal i =>
      exact h.shrink rfl rfl (fun _ _ hk => (open_removeProposal.mp hk).2)
        (List.length_filter_le _ _)
  | changeMembers _ _ =>
      exact h.shrink rfl rfl (fun _ _ => open_changeMembersSorted hsound _ _) le_rfl
  | deposit hnotes =>
      exact h.shrink rfl (made_note rfl hnotes.isProposed) (fun _ _ hk => hk) le_rfl
  | setPrime _ => exact h.shrink rfl rfl (fun _ _ hk => hk) le_rfl
  | nextBlock => exact h.shrink rfl rfl (fun _ _ hk => hk) le_rfl
  | other _ => exact h.shrink rfl rfl (fun _ _ hk => hk) le_rfl

/-- So do several writes, by induction. -/
theorem Writes.numbered (hwrites : Writes cfg s s') (hsound : s.Sound cfg) (h : s.Numbered) :
    s'.Numbered := by
  induction hwrites with
  | refl => exact h
  | tail hpre hwrite ih => exact hwrite.numbered (Writes.sound hpre hsound) ih

/-! ## Ended motions -/

/-- The index has been given out, and only these hashes can have the motion that got it. -/
def State.Confined (s : State A H P E W) (k : ℕ) (Q : H → Prop) : Prop :=
  k < s.made ∧ ∀ h, s.Open h k → Q h

/-- An index does not come back under another hash, as long as indexes have not started again. -/
theorem Write.confined (hwrite : Write cfg s s') (hsound : s.Sound cfg) (h : s.Numbered)
    (hmade : s'.made < 2 ^ 32) {k : ℕ} {Q : H → Prop} (hk : s.Confined k Q) : s'.Confined k Q := by
  have hle : s.made < 2 ^ 32 := lt_of_le_of_lt hwrite.made_le hmade
  refine ⟨hk.1.trans_le hwrite.made_le, ?_⟩
  intro j hj
  cases hwrite with
  | openMotion who proposal _ _ _ =>
      rcases hj with ⟨votes, hv, heq⟩
      simp only [State.openMotion, State.deposit, StorageMap.find?_set] at hv
      split at hv
      · -- the new motion has an index above
        cases hv
        have hcount := h.count
        rw [Nat.mod_eq_of_lt hle] at hcount
        have hlt := hk.1
        dsimp only at heq
        omega
      · exact hk.2 j ⟨votes, hv, heq⟩
  | vote yes no hvotes _ _ => exact hk.2 j (open_vote hvotes _ _ hj)
  | removeProposal i => exact hk.2 j (open_removeProposal.mp hj).2
  | changeMembers _ _ => exact hk.2 j (open_changeMembersSorted hsound _ _ hj)
  | _ => exact hk.2 j hj

/-- Motions that are confined to some proposals stay confined to them. -/
theorem Writes.confined (hwrites : Writes cfg s s') (hsound : s.Sound cfg) (h : s.Numbered)
    (hmade : s'.made < 2 ^ 32) {k : ℕ} {Q : H → Prop} (hk : s.Confined k Q) : s'.Confined k Q := by
  induction hwrites with
  | refl => exact hk
  | tail hpre hwrite ih =>
      have hmade' := lt_of_le_of_lt hwrite.made_le hmade
      exact hwrite.confined (Writes.sound hpre hsound) (Writes.numbered hpre hsound h) hmade
        (ih hmade')

/-- The motion of an index is gone. -/
abbrev State.Over (s : State A H P E W) (k : ℕ) : Prop := s.Confined k fun _ => False

/-- A motion that is removed is gone, whatever has happened before that. -/
theorem Removes.over {i : H} {k : ℕ} (h : Removes cfg Leaves s i s') (hsound : s.Sound cfg)
    (hnumbered : s.Numbered) (hmade : s'.made < 2 ^ 32) (hopen : s.Open i k) : s'.Over k := by
  have hlt : s.made < 2 ^ 32 := lt_of_le_of_lt (Writes.made_le h.writes) hmade
  have hk : s.Confined k (· = i) :=
    ⟨hnumbered.below hlt i k hopen, fun j hj => hnumbered.unique hlt j i k hj hopen⟩
  rcases h with ⟨s₁, hwrites, rfl⟩
  have hk' := Writes.confined hwrites hsound hnumbered hmade hk
  refine ⟨hk'.1, ?_⟩
  intro j hj
  rcases open_removeProposal.mp hj with ⟨hne, hj⟩
  exact hne (hk'.2 j hj)

/-! ## Last votes -/

/-- The last vote of every account on every motion, since the motion was proposed and the account
has last lost a seat, after writes from `s₀`. -/
inductive Recorded (cfg : Config A H P E W) (s₀ : State A H P E W) :
    State A H P E W → (H → A → Option Bool) → Prop
  | start : Recorded cfg s₀ s₀ fun _ _ => none
  | write {s s' : State A H P E W} {last : H → A → Option Bool} (h : Recorded cfg s₀ s last)
      (hwrite : WriteFor cfg LosesSeat s s') : Recorded cfg s₀ s' (s.note s' last)

/-- The votes on the open motions are the last votes. -/
def State.Latest (s : State A H P E W) (last : H → A → Option Bool) : Prop :=
  ∀ h votes a, s.voting.find? h = some votes → votes.stance a = last h a

variable {last : H → A → Option Bool} {s₀ : State A H P E W}

/-- The members stay, and some events are deposited. -/
theorem eq_note {x : Option Bool} {i : H} {a : A} (es : List (Event A H E))
    (hmembers : s'.members = s.members) (hevents : s'.events = s.events ++ es)
    (hx : x = es.foldl (Event.apply i a) (last i a)) : x = s.note s' last i a := by
  unfold State.note
  rw [hmembers, hevents, if_neg (lt_irrefl _), List.drop_left]
  exact hx

/-- The members, the events and the votes stay. -/
theorem State.Latest.same (h : s.Latest last) (hmembers : s'.members = s.members)
    (hevents : s'.events = s.events)
    (hvoting : ∀ i votes, s'.voting.find? i = some votes → s.voting.find? i = some votes) :
    s'.Latest (s.note s' last) := by
  intro i v a hv
  refine eq_note [] hmembers (by rw [hevents, List.append_nil]) ?_
  exact h i v a (hvoting i v hv)

/-- Nobody has voted on a new motion. -/
theorem State.Latest.openMotion {who : A} {threshold : ℕ} {i : H} {proposal : P}
    (h : s.Latest last) : (s.openMotion cfg who threshold i proposal).Latest
      (s.note (s.openMotion cfg who threshold i proposal) last) := by
  intro j v a hv
  refine eq_note [.proposed who s.proposalCount i threshold] rfl rfl ?_
  show v.stance a = if i = j then none else last j a
  simp only [State.openMotion, State.deposit, StorageMap.find?_set] at hv
  split at hv
  · next hj =>
      cases hv
      rw [if_pos hj.symm]
      rfl
  · next hj =>
      rw [if_neg fun heq => hj heq.symm]
      exact h j v a hv

/-- Who loses a seat has no stance any more, and the others keep theirs. -/
theorem State.Latest.changeMembersSorted {outgoing new : List A} (hsound : s.Sound cfg)
    (hout : ∀ a, a ∈ outgoing ↔ new.count a < s.members.count a) (h : s.Latest last) :
    (s.changeMembersSorted outgoing new).Latest
      (s.note (s.changeMembersSorted outgoing new) last) := by
  intro j v a hv
  rw [hsound.find?_changeMembersSorted, Option.map_eq_some_iff] at hv
  rcases hv with ⟨v₀, hv₀, rfl⟩
  have hretire : (v₀.retire outgoing).stance a = if a ∈ outgoing then none else v₀.stance a :=
    Ballot.stance_retire ..
  have hnote : s.note (s.changeMembersSorted outgoing new) last j a =
      if new.count a < s.members.count a then none
      else (s.events.drop s.events.length).foldl (Event.apply j a) (last j a) := rfl
  show (v₀.retire outgoing).stance a = _
  rw [hretire, hnote, List.drop_length]
  by_cases ha : a ∈ outgoing
  · rw [if_pos ha, if_pos ((hout a).mp ha)]
  · rw [if_neg ha, if_neg (mt (hout a).mpr ha)]
    exact h j v₀ a hv₀

/-- A write keeps the votes up to date. -/
theorem WriteFor.latest (hwrite : WriteFor cfg LosesSeat s s') (hsound : s.Sound cfg)
    (h : s.Latest last) : s'.Latest (s.note s' last) := by
  cases hwrite with
  | openMotion => exact h.openMotion
  | @vote who i approve votes yes no hvotes _ hnew =>
      intro j v a hv
      refine eq_note [.voted who i approve yes no] rfl rfl ?_
      show v.stance a = if i = j ∧ who = a then some approve else last j a
      dsimp only at hv
      rw [StorageMap.find?_set] at hv
      split at hv
      · next hj =>
          cases hv
          subst hj
          have hcast := (hsound.proper j votes hvotes).stance_cast hnew a
          show (votes.cast who approve).stance a = _
          rw [hcast]
          by_cases ha : a = who
          · rw [if_pos ha, if_pos ⟨rfl, ha.symm⟩]
          · rw [if_neg ha, if_neg fun heq => ha heq.2.symm]
            exact h j votes a hvotes
      · next hj =>
          rw [if_neg fun heq => hj heq.1.symm]
          exact h j v a hv
  | removeProposal i =>
      refine h.same rfl rfl ?_
      intro j v hv
      simp only [State.removeProposal, StorageMap.find?_remove] at hv
      split at hv
      · cases hv
      · exact hv
  | changeMembers _ hout => exact h.changeMembersSorted hsound hout
  | @deposit e hnotes =>
      intro j v a hv
      refine eq_note [e] rfl rfl ?_
      show v.stance a = e.apply j a (last j a)
      rw [Event.Notes.apply hnotes]
      exact h j v a hv
  | setPrime _ => exact h.same rfl rfl fun _ _ hv => hv
  | nextBlock => exact h.same rfl rfl fun _ _ hv => hv
  | other _ => exact h.same rfl rfl fun _ _ hv => hv

/-- The votes are up to date after any writes, by induction on these. -/
theorem Recorded.latest (hrecorded : Recorded cfg s₀ s last) (hsound : s₀.Sound cfg)
    (h : s₀.Latest fun _ _ => none) : s.Sound cfg ∧ s.Latest last := by
  induction hrecorded with
  | start => exact ⟨hsound, h⟩
  | write _ hwrite ih =>
      have hkept : Write cfg _ _ := hwrite.write fun _ _ _ => LosesSeat.leaves
      exact ⟨hkept.sound ih.1, hwrite.latest ih.1 ih.2⟩

end Writes

/-! ## Runs -/

section Runs

variable [LinearOrder A] {cfg : Config A H P E W} {world : W} {members : List A}
  {s₀ : State A H P E W}

/-- No motion is open at the start. -/
theorem fields_of_build (h : (State.empty world).build cfg members = some s₀) :
    s₀.voting = ∅ ∧ s₀.proposals = [] ∧ s₀.proposalCount = 0 ∧ s₀.events = [] := by
  unfold State.build at h
  split at h
  · split at h
    · cases h
      exact ⟨rfl, rfl, rfl, rfl⟩
    · split at h
      · cases h
        exact ⟨rfl, rfl, rfl, rfl⟩
      · cases h
  · cases h

variable [DecidableEq H]

/-- A new council has no motions. -/
theorem numbered_of_build (h : (State.empty world).build cfg members = some s₀) : s₀.Numbered := by
  rcases fields_of_build h with ⟨hvoting, hproposals, hcount, hevents⟩
  have hmade : s₀.made = 0 := by
    unfold State.made
    rw [hevents]
    rfl
  have hnone : ∀ i k, ¬ s₀.Open i k := by
    rintro i k ⟨votes, hv, -⟩
    rw [hvoting] at hv
    cases hv
  constructor
  · rw [hcount, hmade]
    rfl
  · exact fun _ i k hk => absurd hk (hnone i k)
  · exact fun _ i j k hk => absurd hk (hnone i k)
  · intro _
    rw [hproposals]
    exact Nat.zero_le _

/-- What a run from the genesis leads to. -/
theorem run_of_build (hlaw : cfg.Lawful) (h : (State.empty world).build cfg members = some s₀)
    (ops : List (Op A H P W)) :
    (run (Op.step cfg) s₀ ops).Sound cfg ∧ (run (Op.step cfg) s₀ ops).Numbered := by
  have hsound := sound_of_build h
  have hwrites := writes_of_run hlaw hsound ops
  exact ⟨hwrites.sound hsound, hwrites.numbered hsound (numbered_of_build h)⟩

/-- The label ends the motion: it is closed, or the root disapproves of it. -/
def Op.Ends (cfg : Config A H P E W) (s : State A H P E W) (i : H) (k : ℕ) : Op A H P W → Prop
  | close origin j k' weight lengthBound =>
      j = i ∧ k' = k ∧ ∃ r, s.close cfg origin j k' weight lengthBound = .ok r
  | disapproveProposal origin j => j = i ∧ origin = .root ∧ s.Open i k
  | _ => False

/-- A motion that ends is gone. -/
theorem Op.Ends.over (hlaw : cfg.Lawful) {s : State A H P E W} (hsound : s.Sound cfg)
    (h : s.Numbered) {op : Op A H P W} {i : H} {k : ℕ} (hends : op.Ends cfg s i k)
    (hmade : (op.step cfg s).made < 2 ^ 32) : (op.step cfg s).Over k := by
  cases op with
  | close origin j k' weight lengthBound =>
      rcases hends with ⟨rfl, rfl, ⟨s', pays⟩, hclose⟩
      have hstep : Op.step cfg s (.close origin j k' weight lengthBound) = s' := by
        simp [Op.step, Op.call, hclose, Except.map, commit]
      rw [hstep] at hmade ⊢
      rcases bind_ok.mp hclose with ⟨-, -, hclose⟩
      have hremoves := close_removes hlaw.leaving hsound hclose
      unfold State.doClose at hclose
      rcases okOr_bind_ok.mp hclose with ⟨votes, hvotes, hclose⟩
      rcases ensure_bind_ok.mp hclose with ⟨hindex, -⟩
      exact hremoves.over hsound h hmade ⟨votes, hvotes, of_decide_eq_true hindex⟩
  | disapproveProposal origin j =>
      rcases hends with ⟨rfl, rfl, hopen⟩
      exact (disapprove_removes s j).over hsound h hmade hopen
  | _ => exact hends.elim

/-- A motion ends once: after it has been closed or disapproved, its index can neither be voted
on nor closed, as long as fewer than `2 ^ 32` motions have been proposed. -/
theorem ended_motion_is_over (hlaw : cfg.Lawful)
    (hbuild : (State.empty world).build cfg members = some s₀) (pre post : List (Op A H P W))
    (op : Op A H P W) {i : H} {k : ℕ} (hends : op.Ends cfg (run (Op.step cfg) s₀ pre) i k)
    (hmade : (run (Op.step cfg) s₀ (pre ++ op :: post)).made < 2 ^ 32) (origin : Origin A) (j : H) :
    (∀ approve r, (run (Op.step cfg) s₀ (pre ++ op :: post)).vote origin j k approve ≠ .ok r) ∧
      ∀ weight lengthBound r, (run (Op.step cfg) s₀ (pre ++ op :: post)).close cfg origin j k weight
        lengthBound ≠ .ok r := by
  rcases run_of_build hlaw hbuild pre with ⟨hsound, hnumbered⟩
  rw [run_append, run_cons] at hmade ⊢
  have hsound' := (op.step_writes hlaw hsound).sound hsound
  have hnumbered' := Writes.numbered (op.step_writes hlaw hsound) hsound hnumbered
  have hwrites := writes_of_run hlaw hsound' post
  -- over when it ends, and so ever after
  have hover := hends.over hlaw hsound hnumbered (lt_of_le_of_lt (Writes.made_le hwrites) hmade)
  have hgone := (Writes.confined hwrites hsound' hnumbered' hmade hover).2 j
  constructor
  · intro approve r hvote
    rcases bind_ok.mp hvote with ⟨who, -, hvote⟩
    rcases ensure_bind_ok.mp hvote with ⟨-, hvote⟩
    rcases bind_ok.mp hvote with ⟨⟨s₁, first⟩, hvote, -⟩
    rcases doVote_ok hvote with ⟨votes, hvotes, hindex, -⟩
    exact hgone ⟨votes, hvotes, hindex⟩
  · intro weight lengthBound r hclose
    rcases bind_ok.mp hclose with ⟨-, -, hclose⟩
    unfold State.doClose at hclose
    rcases okOr_bind_ok.mp hclose with ⟨votes, hvotes, hclose⟩
    rcases ensure_bind_ok.mp hclose with ⟨hindex, -⟩
    exact hgone ⟨votes, hvotes, of_decide_eq_true hindex⟩

/-- The first motion of the run has been closed. -/
theorem ended_motion_is_over_demo :
    (∀ approve r, (run (Op.step demoCouncil) demoCouncilGenesis demoMotions).vote (.signed 1) 20 0
        approve ≠ .ok r) ∧
      ∀ weight lengthBound r, (run (Op.step demoCouncil) demoCouncilGenesis demoMotions).close
        demoCouncil (.signed 1) 20 0 weight lengthBound ≠ .ok r :=
  ended_motion_is_over demoCouncil_lawful demoCouncilGenesis_built (demoMotions.take 6)
    (demoMotions.drop 7) (.close (.signed 9) 20 0 ⟨1, 1⟩ 1) ⟨rfl, rfl, _, rfl⟩ (by decide +kernel)
    (.signed 1) 20

end Runs

end Hypertensor.Council
