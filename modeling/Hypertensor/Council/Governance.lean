import Mathlib
import Hypertensor.Collective
import Hypertensor.Council.Closing

/-!
# Hypertensor.Council.Governance — the council over the network

The network takes the calls that set its parameters from the council only: each asks for the
share of the seats that stands behind it, two thirds for a majority and four fifths for a super
majority. `networkDispatch` puts the two pallets together.

* `Governed`: some part of the chain is changed by calls with enough seats behind them only.
* `change_needs_quorum`: then it is changed by a motion with enough votes, or by a member alone
  where one seat is enough.
* `network_parameters_governed`: so the parameters of the network are governed, and what their
  setters check holds whatever the council does.
-/

namespace Hypertensor.Council

open Base Relation

variable {A H P E W G : Type}

/-! ## Shares of the seats -/

/-- The share of the seats that a call asks for. -/
structure Level where
  num : ℕ
  den : ℕ
deriving DecidableEq, Repr

/-- `MajorityCollectiveOrigin`. -/
def Level.majority : Level := ⟨2, 3⟩

/-- `SuperMajorityCollectiveOrigin`. -/
def Level.superMajority : Level := ⟨4, 5⟩

/-- `ensure_origin`. -/
def Level.admits (level : Level) (o : RawOrigin A) : Bool :=
  ensureProportionAtLeast level.num level.den o

/-- A single member does not stand for a share of the seats. -/
theorem Level.admits_member (level : Level) (who : A) : level.admits (.member who) = false := rfl

theorem Level.admits_members {level : Level} {n m : ℕ} (hn : n * level.den < 2 ^ 32)
    (hm : level.num * m < 2 ^ 32) :
    level.admits (.members n m : RawOrigin A) = true ↔ level.num * m ≤ n * level.den := by
  unfold Level.admits ensureProportionAtLeast wrapMul
  dsimp only
  rw [Nat.mod_eq_of_lt hn, Nat.mod_eq_of_lt hm]
  exact decide_eq_true_iff

theorem ensureSigned_ok {origin : Origin A} {who : A} (h : ensureSigned origin = .ok who) :
    origin = .signed who := by
  cases origin with
  | signed who' => cases h; rfl
  | root => cases h
  | council o => cases h

/-! ## Governed parts of the chain -/

section Governed

variable [LinearOrder A] [DecidableEq H] {cfg : Config A H P E W} {view : W → G}
  {level : P → Level} {s s' : State A H P E W}

/-! ### What a label dispatches -/

/-- The label dispatches the proposal, with this origin. -/
inductive Op.Dispatches (cfg : Config A H P E W) (s : State A H P E W) :
    Op A H P W → P → RawOrigin A → Prop
  | execute {who : A} {proposal : P} (lengthBound : ℕ) (hwho : who ∈ s.members) :
      Dispatches cfg s (.execute (.signed who) proposal lengthBound) proposal (.member who)
  | propose {who : A} {threshold : ℕ} {proposal : P} (lengthBound : ℕ) (hwho : who ∈ s.members)
      (hthreshold : threshold < 2) :
      Dispatches cfg s (.propose (.signed who) threshold proposal lengthBound) proposal
        (.members 1 s.members.length)
  | close {i : H} {votes : Votes A} {proposal : P} {yes no : ℕ} (origin : Origin A)
      (index : ℕ) (weight : Weight) (lengthBound : ℕ) (hvotes : s.voting.find? i = some votes)
      (hproposal : s.proposalOf.find? i = some proposal)
      (hverdict : s.verdict cfg votes = .approve yes no) :
      Dispatches cfg s (.close origin i index weight lengthBound) proposal
        (.members yes s.members.length)

/-- The rest of the chain is as before, or as a dispatched call has left it. -/
def Op.LeavesWorld (cfg : Config A H P E W) (s : State A H P E W) (op : Op A H P W) (world : W) :
    Prop :=
  world = s.world ∨ ∃ proposal origin s₁, op.Dispatches cfg s proposal origin ∧
    s₁.world = s.world ∧ world = (cfg.dispatch proposal origin s₁).1.world

theorem close_world (hsound : s.Sound cfg) (hsize : s.members.length < 2 ^ 32) {origin : Origin A}
    {i : H} {index lengthBound : ℕ} {weight : Weight} {pays : Pays}
    (hclose : s.close cfg origin i index weight lengthBound = .ok (s', pays)) :
    Op.LeavesWorld cfg s (.close origin i index weight lengthBound) s'.world := by
  rcases bind_ok.mp hclose with ⟨who, -, hdo⟩
  have hfound := hdo
  unfold State.doClose at hfound
  rcases okOr_bind_ok.mp hfound with ⟨votes, hvotes, hfound⟩
  rcases ensure_bind_ok.mp hfound with ⟨hindex, -⟩
  have hindex' : votes.index = index := of_decide_eq_true hindex
  subst hindex'
  have hsigned : s.close cfg (.signed who) i votes.index weight lengthBound = .ok (s', pays) := hdo
  rcases close_of_sound hsound hvotes hsize who weight lengthBound with ⟨happrove, hdrop, hwait⟩
  cases hverdict : s.verdict cfg votes with
  | approve yes no =>
      rcases happrove yes no hverdict with ⟨proposal, hproposal, heq⟩
      rw [hsigned] at heq
      rcases ensure_bind_ok.mp heq.symm with ⟨-, heq⟩
      rcases ensure_bind_ok.mp heq with ⟨-, heq⟩
      cases heq
      exact Or.inr ⟨proposal, _, (s.deposit (.closed i yes no)).deposit (.approved i),
        .close origin _ weight lengthBound hvotes hproposal hverdict, rfl, rfl⟩
  | drop yes no =>
      have heq := hdrop yes no hverdict
      rw [hsigned] at heq
      cases heq
      exact Or.inl rfl
  | wait =>
      have heq := hwait hverdict
      rw [hsigned] at heq
      cases heq

theorem propose_world (hsize : s.members.length < 2 ^ 32) {origin : Origin A}
    {threshold lengthBound : ℕ} {proposal : P}
    (hpropose : s.propose cfg origin threshold proposal lengthBound = .ok s') :
    Op.LeavesWorld cfg s (.propose origin threshold proposal lengthBound) s'.world := by
  unfold State.propose at hpropose
  rcases bind_ok.mp hpropose with ⟨who, horigin, hpropose⟩
  rcases ensure_bind_ok.mp hpropose with ⟨hwho, hpropose⟩
  split at hpropose
  · next hthreshold =>
      unfold State.doProposeExecute at hpropose
      rcases ensure_bind_ok.mp hpropose with ⟨-, hpropose⟩
      rcases ensure_bind_ok.mp hpropose with ⟨-, hpropose⟩
      rcases ensure_bind_ok.mp hpropose with ⟨-, hpropose⟩
      cases hpropose
      rw [ensureSigned_ok horigin, memberCount_of_lt hsize]
      exact Or.inr ⟨proposal, _, s, .propose lengthBound (of_decide_eq_true hwho) hthreshold, rfl,
        rfl⟩
  · -- a motion is opened, and nothing is dispatched
    unfold State.doProposeProposed at hpropose
    rcases ensure_bind_ok.mp hpropose with ⟨-, hpropose⟩
    rcases ensure_bind_ok.mp hpropose with ⟨-, hpropose⟩
    rcases ensure_bind_ok.mp hpropose with ⟨-, hpropose⟩
    rcases ensure_bind_ok.mp hpropose with ⟨-, hpropose⟩
    cases hpropose
    exact Or.inl rfl

/-- What a label does to the rest of the chain. -/
theorem Op.step_world (hsound : s.Sound cfg) (hsize : s.members.length < 2 ^ 32)
    {op : Op A H P W} (hother : ∀ w, op ≠ .other w) :
    op.LeavesWorld cfg s (op.step cfg s).world := by
  refine commit_induction (P := fun s' : State A H P E W => op.LeavesWorld cfg s s'.world)
    (Or.inl rfl) ?_
  intro s' hok
  -- only a dispatched call reaches the world, and it is dispatched by a member or a motion
  cases op with
  | setMembers origin newMembers prime =>
      rcases ensure_bind_ok.mp hok with ⟨-, hok⟩
      rcases ensure_bind_ok.mp hok with ⟨-, hok⟩
      cases hok
      exact Or.inl rfl
  | execute origin proposal lengthBound =>
      rcases bind_ok.mp hok with ⟨who, horigin, hok⟩
      rcases ensure_bind_ok.mp hok with ⟨hwho, hok⟩
      rcases ensure_bind_ok.mp hok with ⟨-, hok⟩
      cases hok
      rw [ensureSigned_ok horigin]
      exact Or.inr ⟨proposal, _, s, .execute lengthBound (of_decide_eq_true hwho), rfl, rfl⟩
  | propose origin threshold proposal lengthBound => exact propose_world hsize hok
  | vote origin i index approve =>
      rcases map_fst_ok.mp hok with ⟨pays, hok⟩
      rcases bind_ok.mp hok with ⟨who, -, hok⟩
      rcases ensure_bind_ok.mp hok with ⟨-, hok⟩
      rcases bind_ok.mp hok with ⟨⟨s₁, first⟩, hvote, hok⟩
      cases hok
      rcases doVote_ok hvote with ⟨votes, -, -, -, -, yes, no, rfl⟩
      exact Or.inl rfl
  | disapproveProposal origin i =>
      rcases bind_ok.mp hok with ⟨-, -, hok⟩
      cases hok
      exact Or.inl rfl
  | close origin i index weight lengthBound =>
      rcases map_fst_ok.mp hok with ⟨pays, hok⟩
      exact close_world hsound hsize hok
  | nextBlock =>
      cases hok
      exact Or.inl rfl
  | other w => exact absurd rfl (hother w)

/-! ### Quorums -/

/-- What `view` reads of the chain is changed by a proposal only where its level is reached. -/
def Governed (cfg : Config A H P E W) (view : W → G) (level : P → Level) : Prop :=
  ∀ proposal origin s, view (cfg.dispatch proposal origin s).1.world ≠ view s.world →
    (level proposal).admits origin = true

/-- The label closes a motion with enough votes for the level of its call, or is the call of a
member alone for whom one seat is enough. -/
def Op.HasQuorum (cfg : Config A H P E W) (level : P → Level) (s : State A H P E W) :
    Op A H P W → Prop
  | close _ i _ _ _ => ∃ votes proposal yes no, s.voting.find? i = some votes ∧
      s.proposalOf.find? i = some proposal ∧ s.verdict cfg votes = .approve yes no ∧
      (level proposal).num * s.members.length ≤ yes * (level proposal).den
  | propose origin threshold proposal _ => threshold < 2 ∧
      (∃ who ∈ s.members, origin = .signed who) ∧
      (level proposal).num * s.members.length ≤ (level proposal).den
  | _ => False

/-- No share of the seats is too large to be computed. -/
structure Fits (level : P → Level) (s : State A H P E W) : Prop where
  seats : s.members.length < 2 ^ 32
  num : ∀ proposal, (level proposal).num * s.members.length < 2 ^ 32
  den : ∀ proposal, (level proposal).den * s.members.length < 2 ^ 32
  one : ∀ proposal, (level proposal).den < 2 ^ 32

theorem Op.Dispatches.hasQuorum (hsound : s.Sound cfg) (hfits : Fits level s) {op : Op A H P W}
    {proposal : P} {origin : RawOrigin A} (h : op.Dispatches cfg s proposal origin)
    (hadmits : (level proposal).admits origin = true) : op.HasQuorum cfg level s := by
  cases h with
  | execute _ _ =>
      -- one member is no share
      rw [Level.admits_member] at hadmits
      cases hadmits
  | @propose who _ _ _ hwho hthreshold =>
      have hone : 1 * (level proposal).den < 2 ^ 32 := by
        rw [Nat.one_mul]
        exact hfits.one proposal
      have hle := (Level.admits_members hone (hfits.num proposal)).mp hadmits
      rw [Nat.one_mul] at hle
      exact ⟨hthreshold, ⟨who, hwho, rfl⟩, hle⟩
  | @close i votes _ yes no _ _ _ _ hvotes hproposal hverdict =>
      -- the votes are at most the seats, so nothing overflows
      have hyes := (approve_bounds (hsound.proper i votes hvotes) (hsound.within i votes hvotes)
        hverdict).2
      have hmul : yes * (level proposal).den ≤ (level proposal).den * s.members.length := by
        rw [Nat.mul_comm]
        exact Nat.mul_le_mul_left _ (by omega)
      have hle := (Level.admits_members (lt_of_le_of_lt hmul (hfits.den proposal))
        (hfits.num proposal)).mp hadmits
      exact ⟨votes, proposal, yes, no, hvotes, hproposal, hverdict, hle⟩

/-- What is governed is changed with a quorum, or by a call that is none of the council's. -/
theorem change_needs_quorum (hgov : Governed cfg view level) (hsound : s.Sound cfg)
    (hfits : Fits level s) {op : Op A H P W} (hother : ∀ w, op ≠ .other w)
    (hchange : view (op.step cfg s).world ≠ view s.world) : op.HasQuorum cfg level s := by
  rcases op.step_world hsound hfits.seats hother with
    hsame | ⟨proposal, origin, s₁, hdispatch, hworld, heq⟩
  · exact absurd (congrArg view hsame) hchange
  · rw [heq, ← hworld] at hchange
    exact hdispatch.hasQuorum hsound hfits (hgov proposal origin s₁ hchange)

end Governed

/-! ## The parameters of the network -/

/-- What the modelled setters of the collective set. -/
structure Parameters where
  minAttestationPercentage : ℕ
  superMajorityAttestationRatio : ℕ
  minSubnetNodes : ℕ
  maxSubnetNodes : ℕ
  maxEmergencySubnetNodes : ℕ
  minSubnetRegistrationEpochs : ℕ
  subnetRegistrationEpochs : ℕ
  minIdleClassificationEpochs : ℕ
  maxIdleClassificationEpochs : ℕ
deriving DecidableEq

def networkParameters (c : CollectiveChain A) : Parameters where
  minAttestationPercentage := c.params.minAttestationPercentage
  superMajorityAttestationRatio := c.params.superMajorityAttestationRatio
  minSubnetNodes := c.params.minSubnetNodes
  maxSubnetNodes := c.hookParams.maxSubnetNodes
  maxEmergencySubnetNodes := c.callParams.maxEmergencySubnetNodes
  minSubnetRegistrationEpochs := c.callParams.minSubnetRegistrationEpochs
  subnetRegistrationEpochs := c.hookParams.subnetRegistrationEpochs
  minIdleClassificationEpochs := c.minIdleClassificationEpochs
  maxIdleClassificationEpochs := c.maxIdleClassificationEpochs

/-- The origin that each setter asks for. No other asks for less than a majority. -/
def callLevel : CollectiveOp A → Level
  | .setMinAttestationPercentage _ => .superMajority
  | .setSuperMajorityAttestationRatio _ => .superMajority
  | .setMinMaxSubnetNode _ _ => .superMajority
  | .setMaxEmergencySubnetNodes _ => .majority
  | .setMinSubnetRegistrationEpochs _ => .superMajority
  | .setSubnetRegistrationEpochs _ => .superMajority
  | .setMinIdleClassificationEpochs _ => .majority
  | .setMaxIdleClassificationEpochs _ => .majority
  | .other _ => .majority

/-- A call of the network: its origin is checked first. The error is `none` where that fails. -/
def networkDispatch (call : CollectiveOp A) (origin : RawOrigin A)
    (s : State A H (CollectiveOp A) (Option Hypertensor.Error) (CollectiveChain A)) :
    State A H (CollectiveOp A) (Option Hypertensor.Error) (CollectiveChain A) ×
      Except (Option Hypertensor.Error) Unit :=
  if (callLevel call).admits origin then
    match call.call s.world with
    | .ok world => ({ s with world := world }, .ok ())
    | .error e => (s, .error (some e))
  else (s, .error none)

/-- A council whose motions are calls of the network. -/
def overNetwork (cfg : Config A H (CollectiveOp A) (Option Hypertensor.Error) (CollectiveChain A)) :
    Config A H (CollectiveOp A) (Option Hypertensor.Error) (CollectiveChain A) :=
  { cfg with dispatch := networkDispatch }

section Network

variable {cfg : Config A H (CollectiveOp A) (Option Hypertensor.Error) (CollectiveChain A)}
  {s : State A H (CollectiveOp A) (Option Hypertensor.Error) (CollectiveChain A)}

/-- A dispatched call leaves the chain as it is, or is a call of the network whose origin has
been checked. -/
theorem networkDispatch_cases (call : CollectiveOp A) (origin : RawOrigin A)
    (s : State A H (CollectiveOp A) (Option Hypertensor.Error) (CollectiveChain A)) :
    (networkDispatch call origin s).1 = s ∨
      (callLevel call).admits origin = true ∧ ∃ world, call.call s.world = .ok world ∧
        (networkDispatch call origin s).1 = { s with world := world } := by
  unfold networkDispatch
  split
  · next hadmits =>
      cases hcall : call.call s.world with
      | error e => exact Or.inl rfl
      | ok world => exact Or.inr ⟨hadmits, world, rfl, rfl⟩
  · exact Or.inl rfl

theorem overNetwork_governed : Governed (overNetwork cfg) networkParameters callLevel := by
  intro call origin s hchange
  rcases networkDispatch_cases call origin s with hsame | ⟨hadmits, -⟩
  · exact absurd (congrArg (fun s => networkParameters s.world) hsame) hchange
  · exact hadmits

/-- The relations that all setters check are about these parameters. -/
theorem checked_congr {c c' : CollectiveChain A} (h : networkParameters c' = networkParameters c)
    (hchecked : c.Checked) : c'.Checked := by
  have hratio := congrArg Parameters.superMajorityAttestationRatio h
  have hmin := congrArg Parameters.minSubnetRegistrationEpochs h
  have hmax := congrArg Parameters.subnetRegistrationEpochs h
  dsimp only [networkParameters] at hratio hmin hmax
  constructor
  · rw [hratio]
    exact hchecked.ratio
  · rw [hmin, hmax]
    exact hchecked.registration

variable [LinearOrder A] [DecidableEq H]

theorem overNetwork_lawful (houtgoing : ∀ new old, new.Pairwise (· ≤ ·) → old.Pairwise (· ≤ ·) →
    ∀ a, (cfg.outgoing new old).count a = old.count a - new.count a) : (overNetwork cfg).Lawful where
  outgoing := houtgoing
  dispatch call origin s _ := by
    show Writes _ s (networkDispatch call origin s).1
    rcases networkDispatch_cases call origin s with hsame | ⟨-, world, -, hcall⟩
    · rw [hsame]
    · rw [hcall]
      exact .single (.other s world)

/-- Every label keeps what all setters check. -/
theorem step_checked (hsound : s.Sound (overNetwork cfg)) (hsize : s.members.length < 2 ^ 32)
    {op : Op A H (CollectiveOp A) (CollectiveChain A)}
    (hother : ∀ w, op = .other w → networkParameters w = networkParameters s.world)
    (hchecked : s.world.Checked) : (op.step (overNetwork cfg) s).world.Checked := by
  by_cases hop : ∃ w, op = .other w
  · rcases hop with ⟨w, rfl⟩
    exact checked_congr (hother w rfl) hchecked
  · have hne : ∀ w, op ≠ .other w := fun w heq => hop ⟨w, heq⟩
    rcases op.step_world hsound hsize hne with hsame | ⟨call, origin, s₁, -, hworld, heq⟩
    · rw [hsame]
      exact hchecked
    · rw [heq]
      rcases networkDispatch_cases call origin s₁ with hsame | ⟨-, world, hcall, hdispatch⟩
      · show (networkDispatch call origin s₁).1.world.Checked
        rw [hsame, hworld]
        exact hchecked
      · show (networkDispatch call origin s₁).1.world.Checked
        rw [hdispatch]
        exact call.checked (hworld ▸ hchecked) hcall

variable {world : CollectiveChain A} {members : List A}
  {s₀ : State A H (CollectiveOp A) (Option Hypertensor.Error) (CollectiveChain A)}

/-- Along every run of the council over the network, whatever motions it dispatches, the
parameters keep what all setters check, and each change of them has the share of the seats
behind it that the setter asks for. -/
theorem network_parameters_governed
    (houtgoing : ∀ new old, new.Pairwise (· ≤ ·) → old.Pairwise (· ≤ ·) →
      ∀ a, (cfg.outgoing new old).count a = old.count a - new.count a)
    (hbuild : (State.empty world).build (overNetwork cfg) members = some s₀)
    (hworld : world.Checked) (ops : List (Op A H (CollectiveOp A) (CollectiveChain A)))
    (hsize : Along (Op.step (overNetwork cfg)) (fun s _ => s.members.length * 5 < 2 ^ 32) s₀ ops)
    (hother : Along (Op.step (overNetwork cfg)) (fun s op => ∀ w, op = .other w →
      networkParameters w = networkParameters s.world) s₀ ops) :
    (run (Op.step (overNetwork cfg)) s₀ ops).world.Checked ∧
      ∀ pre op post, ops = pre ++ op :: post →
        networkParameters (run (Op.step (overNetwork cfg)) s₀ (pre ++ [op])).world ≠
          networkParameters (run (Op.step (overNetwork cfg)) s₀ pre).world →
        op.HasQuorum (overNetwork cfg) callLevel (run (Op.step (overNetwork cfg)) s₀ pre) := by
  have hlaw := overNetwork_lawful houtgoing
  have hstart : s₀.world = world := by
    unfold State.build at hbuild
    split at hbuild
    · split at hbuild
      · cases hbuild
        rfl
      · split at hbuild
        · cases hbuild
          rfl
        · cases hbuild
    · cases hbuild
  constructor
  · refine (run_invariant (I := fun s => s.Sound (overNetwork cfg) ∧ s.world.Checked) ?_
      (along_and hsize hother) ⟨sound_of_build hbuild, hstart ▸ hworld⟩).2
    intro s op hstep hs
    exact ⟨(op.step_writes hlaw hs.1).sound hs.1,
      step_checked hs.1 (by have := hstep.1; omega) hstep.2 hs.2⟩
  · intro pre op post hops hchange
    subst hops
    have hsound := (run_of_build hlaw hbuild pre).1
    have hseats := (along_append.mp hsize).2.1
    have hkept := (along_append.mp hother).2.1
    rw [run_append] at hchange
    generalize run (Op.step (overNetwork cfg)) s₀ pre = s at *
    have hne : ∀ w, op ≠ .other w := by
      rintro w rfl
      exact hchange (hkept w rfl)
    refine change_needs_quorum overNetwork_governed hsound ?_ hne hchange
    -- the largest denominator is five
    have hlevel : ∀ call : CollectiveOp A, callLevel call = .majority ∨
        callLevel call = .superMajority := by
      intro call
      cases call with
      | setMaxEmergencySubnetNodes _ => exact Or.inl rfl
      | setMinIdleClassificationEpochs _ => exact Or.inl rfl
      | setMaxIdleClassificationEpochs _ => exact Or.inl rfl
      | other _ => exact Or.inl rfl
      | _ => exact Or.inr rfl
    constructor
    · omega
    · intro call
      rcases hlevel call with h | h
      · rw [h]; show 2 * _ < _; omega
      · rw [h]; show 4 * _ < _; omega
    · intro call
      rcases hlevel call with h | h
      · rw [h]; show 3 * _ < _; omega
      · rw [h]; show 5 * _ < _; omega
    · intro call
      rcases hlevel call with h | h
      · rw [h]; decide
      · rw [h]; decide

end Network

/-- A council of three over a new network. -/
def demoNetworkCouncil :
    Config ℕ ℕ (CollectiveOp ℕ) (Option Hypertensor.Error) (CollectiveChain ℕ) where
  motionDuration := 10
  maxProposals := 3
  maxMembers := 4
  maxProposalWeight := ⟨9, 9⟩
  defaultVote := .primeDefaultVote
  setMembersOrigin o := decide (o = .root)
  hashOf call :=
    match call with
    | .setMaxEmergencySubnetNodes value => value
    | _ => 0
  encodedSize _ := 1
  callWeight _ := ⟨1, 1⟩
  dispatch := networkDispatch
  outgoing new old := old.diff new

def demoNetworkCouncilGenesis :
    State ℕ ℕ (CollectiveOp ℕ) (Option Hypertensor.Error) (CollectiveChain ℕ) :=
  { State.empty (CollectiveChain.genesis Runtime.runtime demoBalances) with members := [1, 2, 3] }

/-- A member alone cannot shrink the emergency sets, and two of the three can. -/
def demoNetworkMotions : List (Op ℕ ℕ (CollectiveOp ℕ) (CollectiveChain ℕ)) :=
  [.execute (.signed 1) (.setMaxEmergencySubnetNodes 32) 1,
    .propose (.signed 1) 2 (.setMaxEmergencySubnetNodes 32) 1, .vote (.signed 1) 32 0 true,
    .vote (.signed 2) 32 0 true, .close (.signed 9) 32 0 ⟨1, 1⟩ 1]

theorem network_parameters_governed_demo :
    (run (Op.step (overNetwork demoNetworkCouncil)) demoNetworkCouncilGenesis
      demoNetworkMotions).world.Checked ∧
      ∀ pre op post, demoNetworkMotions = pre ++ op :: post →
        networkParameters (run (Op.step (overNetwork demoNetworkCouncil))
          demoNetworkCouncilGenesis (pre ++ [op])).world ≠
          networkParameters (run (Op.step (overNetwork demoNetworkCouncil))
            demoNetworkCouncilGenesis pre).world →
        op.HasQuorum (overNetwork demoNetworkCouncil) callLevel
          (run (Op.step (overNetwork demoNetworkCouncil)) demoNetworkCouncilGenesis pre) := by
  have hbuild : (State.empty (CollectiveChain.genesis Runtime.runtime demoBalances)).build
      (overNetwork demoNetworkCouncil) [3, 1, 2] = some demoNetworkCouncilGenesis := rfl
  refine network_parameters_governed (fun new old _ _ a => List.count_diff a old new) hbuild
    (CollectiveChain.genesis_consistent _ _ (by decide)).toChecked demoNetworkMotions ?_ ?_
  · refine ⟨?_, ?_, ?_, ?_, ?_, trivial⟩ <;> decide +kernel
  · refine ⟨?_, ?_, ?_, ?_, ?_, trivial⟩ <;> (intro w h; cases h)

/-- The last of them is the one that changes the parameters. -/
example : (run (Op.step (overNetwork demoNetworkCouncil)) demoNetworkCouncilGenesis
      (demoNetworkMotions.take 4)).world.callParams.maxEmergencySubnetNodes = 64 ∧
    (run (Op.step (overNetwork demoNetworkCouncil)) demoNetworkCouncilGenesis
      demoNetworkMotions).world.callParams.maxEmergencySubnetNodes = 32 := by
  decide +kernel

end Hypertensor.Council
