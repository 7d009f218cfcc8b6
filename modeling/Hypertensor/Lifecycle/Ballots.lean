import Mathlib
import Hypertensor.Lifecycle.Candidates
import Hypertensor.Lifecycle.Directory
import Hypertensor.Lifecycle.Invariant

/-!
# Hypertensor.Lifecycle.Ballots — what a block does to the elections

A validator is drawn for every epoch of a subnet, from the election slots or from the
temporary set that the owner has named. Neither list is checked against the nodes when it is
drawn from, so that the elected node exists and is a validator is a matter of all that writes
the lists: of the roster for the slots, of `Candidates.Listed` for the temporary sets.

* `Ballots.Elects`: what a step may do to the elections.
* `Chain.electValidator_elects`: an election does no more.
* `Chain.nextBlock_elects`: nor does a block, whose hook settles an epoch before it elects the
  validator of the next one, and activates queued nodes after that.
-/

namespace Hypertensor

open Base Relation

variable {A : Type}

/-! ## The draw -/

/-- Below a bound that is not zero there is always an index. -/
theorem getBoundedRandomIndex_some (entropy : ℕ → ℕ) {n : ℕ} (hn : n ≠ 0) :
    ∃ k, k < n ∧ getBoundedRandomIndex entropy n = some k := by
  have hpos := Nat.pos_of_ne_zero hn
  unfold getBoundedRandomIndex
  rw [dif_neg hn]
  split
  · exact ⟨0, hpos, rfl⟩
  · exact ⟨_, Nat.mod_lt _ hpos, rfl⟩

/-- Nobody is drawn from nobody. -/
theorem getBoundedRandomIndex_zero (entropy : ℕ → ℕ) : getBoundedRandomIndex entropy 0 = none := rfl

namespace Chain

variable (rt : Runtime A) (c : Chain A) (i e b : ℕ)

/-- An election either changes nothing, as there is an entry or nobody to elect, or enters
one of the nodes it is held among. -/
theorem electValidator_cases :
    let slots := (c.electionSlots i e).2
    let c' := c.electValidator rt i e b
    (c'.registry = c.registry ∧
        (c.registry.subnetElectedValidator.find? (i, e) ≠ none ∨ slots = [])) ∨
      ∃ id ∈ slots, c.registry.subnetElectedValidator.find? (i, e) = none ∧
        c'.registry = { c.registry with subnetElectedValidator :=
          c.registry.subnetElectedValidator.set (i, e) id } := by
  have hregistry : (c.electionSlots i e).1.registry = c.registry := by
    unfold electionSlots
    dsimp only
    split
    · rfl
    · split <;> rfl
  intro slots c'
  -- an entry that is there is never replaced
  by_cases hnew : c.registry.subnetElectedValidator.contains (i, e) = true
  · left
    have hsame : c' = c := if_pos hnew
    refine ⟨congrArg Chain.registry hsame, Or.inl ?_⟩
    exact Option.isSome_iff_ne_none.mp hnew
  · have hnone := State.find?_eq_none_of_not_contains (by simpa using hnew)
    have helect : c'.registry = _ := congrArg Chain.registry (if_neg hnew)
    dsimp only at helect
    -- the draw fails only on an empty list
    by_cases hslots : slots = []
    · left
      rw [show (c.electionSlots i e).2 = [] from hslots] at helect
      exact ⟨helect.trans hregistry, Or.inr hslots⟩
    · right
      obtain ⟨k, hk, hdraw⟩ := getBoundedRandomIndex_some
        (rt.randomEntropy i e b slots.length) (mt List.length_eq_zero_iff.mp hslots)
      have hdrawn : (getBoundedRandomIndex (rt.randomEntropy i e b slots.length)
          slots.length).bind (fun k => slots[k]?) = some slots[k] := by
        rw [hdraw, Option.bind_some, List.getElem?_eq_getElem hk]
      rw [hdrawn] at helect
      dsimp only at helect
      rw [hregistry] at helect
      exact ⟨slots[k], List.getElem_mem hk, hnone, helect⟩

end Chain

/-! ## Ballots -/

/-- What elections read and write, and which subnets there are. -/
structure Ballots extends Candidates where
  subnetElectedValidator : StorageMap (ℕ × ℕ) ℕ
  subnetsData : StorageMap ℕ SubnetData

/-- The ballots of a chain. -/
def Chain.ballots (c : Chain A) : Ballots where
  toCandidates := c.toState.candidates
  subnetElectedValidator := c.registry.subnetElectedValidator
  subnetsData := c.subnets.subnetsData

namespace Ballots

/-- A subnet is removed, with its nodes and its elections. -/
def removeSubnet (x : Ballots) (i : ℕ) : Ballots where
  toCandidates := x.toCandidates.clear i
  subnetElectedValidator := x.subnetElectedValidator.clearPrefix i
  subnetsData := x.subnetsData.remove i

/-- Nobody is elected, and no validator is lost. -/
structure Grows (x y : Ballots) : Prop where
  candidates : x.toCandidates.Grows y.toCandidates
  elected : y.subnetElectedValidator = x.subnetElectedValidator
  subnets : y.subnetsData = x.subnetsData

/-- Nobody is elected. -/
structure Steady (x y : Ballots) : Prop where
  candidates : x.toCandidates.Runs y.toCandidates
  elected : y.subnetElectedValidator = x.subnetElectedValidator

/-- Subnets are removed, and nobody is elected. -/
structure Sheds (x y : Ballots) : Prop where
  candidates : x.toCandidates.Runs y.toCandidates
  kept : ∀ i e id, x.subnetElectedValidator.find? (i, e) = some id →
    y.subnetElectedValidator.find? (i, e) = some id ∨ y.subnetsData.find? i = none
  old : ∀ i e id, y.subnetElectedValidator.find? (i, e) = some id →
    x.subnetElectedValidator.find? (i, e) = some id
  gone : ∀ i, x.subnetsData.find? i = none → y.subnetsData.find? i = none

/-- An entry goes only with its subnet, and where there was none a validator is entered. -/
structure Elects (x y : Ballots) : Prop where
  candidates : x.toCandidates.Runs y.toCandidates
  kept : ∀ i e id, x.subnetElectedValidator.find? (i, e) = some id →
    y.subnetElectedValidator.find? (i, e) = some id ∨ y.subnetsData.find? i = none
  valid : ∀ i e id, y.subnetElectedValidator.find? (i, e) = some id →
    x.subnetElectedValidator.find? (i, e) = some id ∨
      x.subnetElectedValidator.find? (i, e) = none ∧ y.IsValidator i id

variable {x y z : Ballots}

/-- Nothing is elected where nothing is written. -/
theorem Grows.of_eq (h : y = x) : x.Grows y := by
  subst h
  exact ⟨.of_eq rfl, rfl, rfl⟩

/-- Two parts without an election make one. -/
theorem Grows.trans (hxy : x.Grows y) (hyz : y.Grows z) : x.Grows z :=
  ⟨hxy.candidates.trans hyz.candidates, hyz.elected.trans hxy.elected,
    hyz.subnets.trans hxy.subnets⟩

/-- What is left alone is steady. -/
theorem Steady.of_eq (h : y = x) : x.Steady y := by
  subst h
  exact ⟨.refl, rfl⟩

/-- What is steady may elect. -/
theorem Steady.elects (h : x.Steady y) : x.Elects y := by
  refine ⟨h.candidates, ?_, ?_⟩
  · intro i e id hid
    rw [h.elected]
    exact Or.inl hid
  · intro i e id hid
    rw [h.elected] at hid
    exact Or.inl hid

/-- An election after a step that elects nobody. -/
theorem Steady.trans_elects (hxy : x.Steady y) (hyz : y.Elects z) : x.Elects z := by
  refine ⟨hxy.candidates.trans hyz.candidates, ?_, ?_⟩
  · intro i e id hid
    rw [← hxy.elected] at hid
    exact hyz.kept i e id hid
  · intro i e id hid
    rw [← hxy.elected]
    exact hyz.valid i e id hid

/-- Whoever was elected before a step that loses no validator is still there after it. -/
theorem Elects.grow (hxy : x.Elects y) (hyz : y.Grows z) : x.Elects z := by
  refine ⟨hxy.candidates.trans hyz.candidates.runs, ?_, ?_⟩
  · intro i e id hid
    rw [hyz.elected, hyz.subnets]
    exact hxy.kept i e id hid
  · intro i e id hid
    rw [hyz.elected] at hid
    exact (hxy.valid i e id hid).imp_right (And.imp_right (hyz.candidates.validators i id))

/-- What only sheds elects nobody. -/
theorem Sheds.elects (h : x.Sheds y) : x.Elects y :=
  ⟨h.candidates, h.kept, fun i e id hid => Or.inl (h.old i e id hid)⟩

/-- What is left alone sheds nothing. -/
theorem Sheds.of_eq (h : y = x) : x.Sheds y := by
  subst h
  exact ⟨.refl, fun _ _ _ hid => Or.inl hid, fun _ _ _ hid => hid, fun _ hnone => hnone⟩

/-- Candidates may be shed in two parts. -/
theorem Sheds.trans (hxy : x.Sheds y) (hyz : y.Sheds z) : x.Sheds z := by
  refine ⟨hxy.candidates.trans hyz.candidates, ?_, ?_, ?_⟩
  · intro i e id hid
    rcases hxy.kept i e id hid with hy | hgone
    · exact hyz.kept i e id hy
    · exact Or.inr (hyz.gone i hgone)
  · intro i e id hid
    exact hxy.old i e id (hyz.old i e id hid)
  · intro i hnone
    exact hyz.gone i (hxy.gone i hnone)

/-- A removal sheds the candidates of the subnet, and its emergency set. -/
theorem sheds_removeSubnet (x : Ballots) (i : ℕ) : x.Sheds (x.removeSubnet i) := by
  refine ⟨.single (.clear ..), ?_, ?_, ?_⟩
  · intro j e id hid
    -- the elections of the removed subnet go with it
    by_cases hj : j = i
    · subst hj
      exact Or.inr (StorageMap.find?_remove_self _ _)
    · left
      unfold removeSubnet
      dsimp only
      rw [StorageMap.find?_clearPrefix, if_neg hj]
      exact hid
  · intro j e id hid
    unfold removeSubnet at hid
    dsimp only at hid
    rw [StorageMap.find?_clearPrefix] at hid
    split at hid
    · cases hid
    · exact hid
  · intro j hnone
    unfold removeSubnet
    dsimp only
    rw [StorageMap.find?_remove]
    split
    · rfl
    · exact hnone

end Ballots

/-! ## An election -/

namespace Chain

variable {rt : Runtime A} {c : Chain A} {i : ℕ}

/-- The nodes an election is held among are validators. -/
theorem electionSlots_valid (hslotted : c.lifecycle.Slotted i)
    (hlisted : c.toState.candidates.Listed) (e : ℕ) :
    ∀ id ∈ (c.electionSlots i e).2, c.toState.candidates.IsValidator i id := by
  intro id hid
  have hslot : id ∈ c.nodes.subnetNodeElectionSlots.getD i [] →
      c.toState.candidates.IsValidator i id := (hslotted.mem_slots id).mp
  unfold electionSlots at hid
  dsimp only at hid
  split at hid
  · exact hslot hid
  · next d hd =>
      split at hid
      · exact hslot hid
      · exact hlisted i d hd id hid

/-- An election may dismiss the emergency set whose time is over, and no candidate. -/
theorem electionSlots_candidates (c : Chain A) (i e : ℕ) :
    (c.electionSlots i e).1.toState.candidates = c.toState.candidates ∨
      (c.electionSlots i e).1.toState.candidates = c.toState.candidates.dismiss i := by
  unfold electionSlots
  dsimp only
  split
  · exact Or.inl rfl
  · split
    · exact Or.inr rfl
    · exact Or.inl rfl

/-- The state after an election is that in which the nodes were looked up, or the old one. -/
theorem electValidator_toState (rt : Runtime A) (c : Chain A) (i e b : ℕ) :
    (c.electValidator rt i e b).toState = c.toState ∨
      (c.electValidator rt i e b).toState = (c.electionSlots i e).1.toState := by
  unfold electValidator
  dsimp only
  split
  · exact Or.inl rfl
  · split
    · exact Or.inr rfl
    · exact Or.inr rfl

/-- An election elects a validator. -/
theorem electValidator_elects (hslotted : c.lifecycle.Slotted i)
    (hlisted : c.toState.candidates.Listed) (e b : ℕ) :
    c.ballots.Elects (c.electValidator rt i e b).ballots := by
  -- at most a temporary set is given up
  have hdismiss : (c.electValidator rt i e b).toState.candidates = c.toState.candidates ∨
      (c.electValidator rt i e b).toState.candidates = c.toState.candidates.dismiss i := by
    rcases electValidator_toState rt c i e b with heq | heq
    · exact Or.inl (congrArg State.candidates heq)
    · rw [heq]
      exact electionSlots_candidates c i e
  have hruns : c.toState.candidates.Runs (c.electValidator rt i e b).toState.candidates := by
    rcases hdismiss with heq | heq
    · exact Candidates.runs_of_eq heq
    · rw [heq]
      exact .single (.dismiss ..)
  have hvalidator : ∀ id, c.toState.candidates.IsValidator i id →
      (c.electValidator rt i e b).toState.candidates.IsValidator i id := by
    intro id hid
    rcases hdismiss with heq | heq
    · rw [heq]
      exact hid
    · rw [heq]
      exact hid
  rcases electValidator_cases rt c i e b with ⟨hsame, _⟩ | ⟨id, hid, hnone, hset⟩
  · exact Ballots.Steady.elects ⟨hruns, congrArg Registry.subnetElectedValidator hsame⟩
  · have helected : (c.electValidator rt i e b).registry.subnetElectedValidator =
        c.registry.subnetElectedValidator.set (i, e) id :=
      congrArg Registry.subnetElectedValidator hset
    refine ⟨hruns, ?_, ?_⟩
    · intro j f k hk
      left
      show (c.electValidator rt i e b).registry.subnetElectedValidator.find? (j, f) = some k
      rw [helected, StorageMap.find?_set_ne]
      · exact hk
      · intro heq
        rw [heq] at hk
        exact absurd (hnone.symm.trans hk) (by simp)
    · intro j f k hk
      have hk' : (c.electValidator rt i e b).registry.subnetElectedValidator.find? (j, f) =
        some k := hk
      rw [helected, StorageMap.find?_set] at hk'
      split at hk'
      · next heq =>
          cases heq
          cases hk'
          exact Or.inr ⟨hnone, hvalidator id (electionSlots_valid hslotted hlisted e id hid)⟩
      · exact Or.inl hk'

end Chain

/-! ## The block of a slot -/

section Slot

variable {rt : Runtime A} {ar : Arith} {h h' : Hook A} {i : ℕ}

/-- A queued node becomes an idle one, or the loop goes on or ends without it. -/
theorem Hook.doActivateSubnetNode_ballots (rt : Runtime A) (h : Hook A) (v i e : ℕ)
    (n : SubnetNode) :
    (h.doActivateSubnetNode rt v i .active n e true).1.chain.ballots = h.chain.ballots ∨
      (h.doActivateSubnetNode rt v i .active n e true).1.chain.ballots =
        { h.chain.ballots with
          toCandidates := h.chain.toState.candidates.setNode i n.id
            { n with classification := ⟨.idle, e⟩ } } := by
  unfold doActivateSubnetNode
  split
  · exact Or.inl rfl
  · split
    · exact Or.inl rfl
    · split
      · exact Or.inl rfl
      · exact Or.inr rfl

/-- The loop over queued nodes that are no validators. A node that is activated is idle, so
the rest of the list stays without validators. -/
theorem Hook.activateLoop_grows (q e : ℕ) (nodes : List SubnetNode) (k : ℕ)
    (hnodes : ∀ n ∈ nodes, ¬h.chain.toState.candidates.IsValidator i n.id) :
    h.chain.ballots.Grows (h.activateLoop rt i q e k nodes).1.chain.ballots := by
  -- on the list, for any hook: each round passes a changed one on
  induction nodes generalizing h k with
  | nil => exact .of_eq rfl
  | cons n nodes ih =>
      have hn := hnodes n List.mem_cons_self
      have hrest := fun m hm => hnodes m (List.mem_cons_of_mem n hm)
      unfold activateLoop
      dsimp only
      split
      · exact .of_eq rfl
      · split
        · exact .of_eq rfl
        · have hnode := doActivateSubnetNode_ballots rt (h.consume ⟨1500, 0⟩) n.validatorId i e n
          rw [consume_chain] at hnode
          generalize (h.consume ⟨1500, 0⟩).doActivateSubnetNode rt n.validatorId i .active n e
            true = r at hnode ⊢
          have hgrows : h.chain.ballots.Grows r.1.chain.ballots := by
            rcases hnode with heq | heq
            · exact .of_eq heq
            · rw [heq]
              exact ⟨Candidates.grows_setNode fun hv => absurd hv hn, rfl, rfl⟩
          have hstill : ∀ m ∈ nodes, ¬r.1.chain.toState.candidates.IsValidator i m.id := by
            intro m hm hv
            have hv' : r.1.chain.ballots.IsValidator i m.id := hv
            rcases hnode with heq | heq
            · rw [heq] at hv'
              exact hrest m hm hv'
            · rw [heq] at hv'
              rcases hv' with ⟨n', hn', hclass⟩
              unfold Candidates.setNode at hn'
              dsimp only at hn'
              rw [StorageMap.find?_set] at hn'
              split at hn'
              · -- an idle node is no validator
                cases hn'
                cases hclass
              · exact hrest m hm ⟨n', hn', hclass⟩
          split
          · exact hgrows.trans (ih (k + 1) hstill)
          · exact hgrows

/-- The queue brings candidates and elects nobody. -/
theorem Hook.processQueue_grows (e : ℕ)
    (hqueue : ∀ n ∈ h.chain.nodes.subnetNodeQueue.getD i [],
      ¬h.chain.toState.candidates.IsValidator i n.id) :
    h.chain.ballots.Grows (h.processQueue rt i e).chain.ballots := by
  unfold processQueue
  dsimp only
  split
  · exact .of_eq rfl
  · split
    · exact .of_eq rfl
    · split
      · exact .of_eq rfl
      · generalize hstart : (((h.consume (rt.reads 4)).consume (rt.reads 1)).consume ⟨2000, 0⟩) = g
        have hchain : g.chain = h.chain := by
          rw [← hstart, consume_chain, consume_chain, consume_chain]
        rw [← hchain] at hqueue ⊢
        have hloop : g.chain.ballots.Grows (g.activateLoop rt i
            (g.chain.registry.subnetNodeQueueEpochs.getD i 3) e 0
            ((g.chain.nodes.subnetNodeQueue.getD i []).take (queueTake g.chain i))).1.chain.ballots :=
          activateLoop_grows _ e _ 0 fun n hn => hqueue n (List.mem_of_mem_take hn)
        -- the queue is on no ballot
        unfold drainQueue
        split
        · exact hloop
        · exact hloop

/-- The next epoch opens: one election, and then only nodes that were no validators. -/
theorem Hook.openEpoch_elects {b e L : ℕ} (hinv : h.chain.lifecycle.Inv L)
    (hlisted : h.chain.toState.candidates.Listed)
    (hok : h.openEpoch rt i b e = some h') : h.chain.ballots.Elects h'.chain.ballots := by
  have helect : h.chain.ballots.Elects (h.chain.electValidator rt i e b).ballots :=
    Chain.electValidator_elects (hinv.roster i).slotted hlisted e b
  have hinv' : (h.chain.electValidator rt i e b).lifecycle.Inv L := by
    rw [show (h.chain.electValidator rt i e b).lifecycle = h.chain.lifecycle from
      congrArg Store.lifecycle (Chain.electValidator_store rt h.chain i e b)]
    exact hinv
  -- a queued node is not active
  have hqueue : ∀ n ∈ (h.chain.electValidator rt i e b).nodes.subnetNodeQueue.getD i [],
      ¬(h.chain.electValidator rt i e b).toState.candidates.IsValidator i n.id := by
    rintro n hn ⟨node, hnode, _⟩
    have hroster := hinv'.roster i
    rcases (hroster.queued n hn).1 with ⟨r, hr⟩
    have hnone := (hroster.active n.id node hnode).2.2.2
    exact absurd (hnone.symm.trans hr) (by simp)
  have hburn : ∀ g : Hook A, (g.updateBurnRateForEpoch rt i).chain.ballots = g.chain.ballots := by
    intro g
    unfold updateBurnRateForEpoch
    split <;> rfl
  unfold openEpoch handleRegistrationQueue at hok
  simp only [Option.bind_eq_bind, Option.bind_eq_some_iff, Option.some.injEq] at hok
  rcases hok with ⟨g, hg, rfl⟩
  rw [hburn]
  split at hg
  · cases hg
    exact helect
  · simp only [Option.bind_eq_some_iff] at hg
    rcases hg with ⟨phase, _, hg⟩
    split at hg
    · cases hg
      exact helect
    · cases hg
      generalize hG : Hook.consume (Hook.consume (Hook.consume _ _) _) _ = G
      have hchain : G.chain = h.chain.electValidator rt i e b := by
        rw [← hG]
        rfl
      rw [← hchain] at helect hqueue
      exact helect.grow (processQueue_grows e hqueue)

variable [DecidableEq A]

omit [DecidableEq A] in
/-- Looking at a submission leaves the candidates. -/
theorem Chain.precheckSubnetConsensusSubmission_candidates (rt : Runtime A) (c : Chain A)
    (i e : ℕ) : (c.precheckSubnetConsensusSubmission rt i e).1.toState.candidates =
      c.toState.candidates := by
  unfold Chain.precheckSubnetConsensusSubmission
  split
  · dsimp only
    split
    · rfl
    · unfold Chain.penaliseAbsentValidator
      dsimp only
      split
      · rfl
      · exact State.decreaseAndReturnNodeReputation_candidates ..
  · dsimp only
    split <;> rfl

/-- The settlement of an epoch elects nobody. -/
theorem Hook.settleEpoch_steady (rt : Runtime A) (ar : Arith) (h : Hook A) (i e se em w : ℕ) :
    h.chain.ballots.Steady (h.settleEpoch rt ar i e se em w).chain.ballots := by
  have helected := congrArg Registry.subnetElectedValidator
    (settleEpoch_frame rt ar h i e se em w).1
  refine ⟨?_, helected⟩
  show h.chain.toState.candidates.Runs (h.settleEpoch rt ar i e se em w).chain.toState.candidates
  rw [← Chain.precheckSubnetConsensusSubmission_candidates rt h.chain i (wrapSub 32 se 1)]
  unfold settleEpoch
  dsimp only
  split
  · exact .refl
  · exact Metered.distributeRewards_candidates rt.toConfig
      ⟨(h.chain.precheckSubnetConsensusSubmission rt i (wrapSub 32 se 1)).1.toState, _⟩ i ..

/-- An epoch is settled before the next one opens, so the election finds the nodes that are
left. -/
theorem Hook.emissionStep_elects {b e se : ℕ} (hinv : h.chain.lifecycle.Inv rt.epochLength)
    (hopen : Lifecycle.Opening rt.epochLength (some i) h.chain.lifecycle)
    (hset : h.chain.lifecycle.Settleable i (wrapSub 32 se 1))
    (hlisted : h.chain.toState.candidates.Listed)
    (hok : h.emissionStep rt ar b e se i = some h') : h.chain.ballots.Elects h'.chain.ballots := by
  unfold emissionStep at hok
  dsimp only at hok
  split at hok
  · cases hok
    exact (Ballots.Steady.of_eq rfl).elects
  · next weights _ =>
      split at hok
      · cases hok
        exact (Ballots.Steady.of_eq rfl).elects
      · next weight _ =>
          have hsteady := settleEpoch_steady rt ar ((h.consume (rt.reads 1)).consume (rt.reads 1))
            i e se weights.subnetsEmissions weight
          have hsettles : h.chain.Settles ⟨True, False, False⟩ i (wrapSub 32 se 1) := by
            intro d hd
            exact ⟨⟨fun _ => (hset d hd).1, fun _ => (hset d hd).2, False.elim⟩, False.elim⟩
          have hmoves : ∃ r, h.chain.toState.records.Moves ar ⟨True, False, False⟩ i r ∧ _ :=
            settleEpoch_moves (h := (h.consume (rt.reads 1)).consume (rt.reads 1)) rt e se
              weights.subnetsEmissions weight hsettles
          generalize Hook.settleEpoch rt ar _ i e se _ weight = g at hsteady hmoves hok
          obtain ⟨r, hr, hstore⟩ := hmoves
          have hruns : h.chain.store.Runs ar ⟨True, False, False⟩ rt.epochLength (some i)
              g.chain.store := by
            rw [hstore]
            exact Store.runs_of_moves hr
          -- a subnet that is not active yet opens no epoch
          split at hok
          · refine hsteady.trans_elects (openEpoch_elects (hinv.runs hopen hruns.lifecycle) ?_ hok)
            exact hlisted.runs hsteady.candidates
          · cases hok
            exact hsteady.elects

/-- The block of a slot elects in its subnet, for the epoch that opens. -/
theorem Hook.slotStep_elects (hlen : rt.epochLength ≠ 0) {b e slot : ℕ}
    (hinv : h.chain.lifecycle.Inv rt.epochLength)
    (hopen : Lifecycle.Opening rt.epochLength (h.chain.registry.slotAssignment.find? slot)
      h.chain.lifecycle)
    (hset : ∀ i, h.chain.registry.slotAssignment.find? slot = some i →
      h.chain.lifecycle.Settleable i (wrapSub 32 (h.chain.currentSubnetEpoch rt i) 1))
    (hlisted : h.chain.toState.candidates.Listed)
    (hok : h.slotStep rt ar b e slot = some h') : h.chain.ballots.Elects h'.chain.ballots := by
  unfold slotStep at hok
  dsimp only at hok
  split at hok
  · cases hok
    exact (Ballots.Steady.of_eq rfl).elects
  · next i hslot =>
      simp only [Option.bind_eq_bind, Option.bind_eq_some_iff] at hok
      rcases hok with ⟨se, hse, hok⟩
      rw [Chain.getCurrentSubnetEpochAsU32_eq rt hlen] at hse
      cases hse
      rw [hslot] at hopen
      exact emissionStep_elects (h := h.consume (rt.reads 1)) hinv hopen (hset i hslot) hlisted hok

end Slot

/-! ## The other blocks -/

section Block

variable {rt : Runtime A} {ar : Arith} {c c' : Chain A}

/-- The removal of a subnet sheds its candidates, if there was one. -/
theorem Chain.doRemoveSubnet_sheds (rt : Runtime A) (c : Chain A) (i : ℕ) :
    c.ballots.Sheds (c.doRemoveSubnet rt i).1.ballots := by
  cases hd : c.subnets.subnetsData.find? i with
  | none =>
      refine .of_eq ?_
      unfold Chain.doRemoveSubnet
      rw [hd]
  | some d =>
      have heq : (c.doRemoveSubnet rt i).1.ballots = c.ballots.removeSubnet i := by
        unfold Chain.doRemoveSubnet
        rw [hd]
        dsimp only [Chain.cleanSubnetNodes, Registry.removeSubnet, Registry.freeSlotOfSubnet]
        cases c.registry.subnetSlot.find? i with
        | none => rfl
        | some slot => rfl
      rw [heq]
      exact Ballots.sheds_removeSubnet ..

/-- So do several removals, by induction. -/
theorem Chain.removalEffects_sheds (h : RemovalEffects rt c c') : c.ballots.Sheds c'.ballots := by
  induction h with
  | refl => exact .of_eq rfl
  | tail _ hlast ih =>
      refine ih.trans ?_
      cases hlast with
      | removeSubnet i => exact doRemoveSubnet_sheds ..
      | reputation i rep => exact .of_eq rfl

/-- Overwatch nodes are no candidates. -/
theorem Chain.calculateOverwatchRewards_ballots {r : Chain A × Weight}
    (hok : c.calculateOverwatchRewards rt ar = some r) : r.1.ballots = c.ballots := by
  have hscore : ∀ (t : RevealTally) (e : ℕ) (subnets : List (ℕ × StorageMap ℕ ℕ)) (d : Chain A)
      (w : Weight) (scores : StorageMap ℕ ℕ),
      (d.scoreSubnets rt t e w scores subnets).1.ballots = d.ballots := by
    intro t e subnets
    induction subnets with
    | nil => exact fun _ _ _ => rfl
    | cons s subnets ih =>
        intro d w scores
        unfold scoreSubnets
        rw [ih]
        rfl
  have hpay : ∀ (t : RevealTally) (e total : ℕ) (scores : List (ℕ × ℕ)) (d : Chain A) (w : Weight),
      (d.payOverwatchNodes rt ar t e total w scores).1.ballots = d.ballots := by
    intro t e total scores
    induction scores with
    | nil => exact fun _ _ => rfl
    | cons s scores ih =>
        intro d w
        unfold payOverwatchNodes
        rw [ih]
        unfold payOverwatchNode
        split
        · rfl
        · dsimp only
          split <;> rfl
  unfold calculateOverwatchRewards at hok
  simp only [Option.bind_eq_bind, Option.bind_eq_some_iff] at hok
  rcases hok with ⟨e, _, hok⟩
  split at hok
  · cases hok
    exact hscore ..
  · cases hok
    rw [hpay, hscore]

variable [DecidableEq A]

/-- The weights of subnets elect nobody. -/
theorem Chain.handleSubnetEmissionWeights_ballots {epoch : ℕ} {r : Chain A × Weight}
    (hok : c.handleSubnetEmissionWeights rt epoch = some r) : r.1.ballots = c.ballots := by
  unfold handleSubnetEmissionWeights calculateSubnetWeights at hok
  simp only [Option.bind_eq_bind, Option.bind_eq_some_iff] at hok
  rcases hok with ⟨⟨c₁, weights, w₁⟩, ⟨e, _, hc₁⟩, hok⟩
  cases hc₁
  dsimp only at hok
  split at hok
  · cases hok
    rfl
  · cases hok
    rfl

/-- A swap concerns no candidate. -/
theorem State.executeReadySwapCalls_candidates (cfg : Config A) (ar : Arith) (s : State A) (b : ℕ)
    (meter : WeightMeter) :
    (s.executeReadySwapCalls cfg ar b meter).1.candidates = s.candidates := by
  have hrun := executeReadySwapCalls_executes cfg ar s b meter
  generalize (s.executeReadySwapCalls cfg ar b meter).1 = s' at hrun ⊢
  generalize (s.executeReadySwapCalls cfg ar b meter).2 = es at hrun
  induction hrun with
  | nil _ => rfl
  | cons he _ ih =>
      rw [ih, he.after_eq]
      exact handleIncreaseAccountStake_candidates ..

/-- The swaps of a block elect nobody. -/
theorem Hook.executeSwaps_grows (h : Hook A) (b : ℕ) :
    h.chain.ballots.Grows (h.executeSwaps rt ar b).ballots :=
  ⟨.of_eq (State.executeReadySwapCalls_candidates ..), rfl,
    congrArg (fun r : Records => r.subnetsData) (State.executeReadySwapCalls_records ..)⟩

/-- Every branch of the hook elects in one subnet at most. -/
theorem Hook.epochStep_elects {h h' : Hook A} (hinv : h.chain.lifecycle.Inv rt.epochLength)
    (hopen : Lifecycle.Opening rt.epochLength
      (h.chain.registry.slotAssignment.find? (h.chain.block % rt.epochLength)) h.chain.lifecycle)
    (hset : h.chain.lifecycle.SettleableAt rt.epochLength)
    (hlisted : h.chain.toState.candidates.Listed)
    (hok : h.epochStep rt ar h.chain.block = some h') :
    h.chain.ballots.Elects h'.chain.ballots := by
  unfold epochStep at hok
  simp only [Option.bind_eq_bind, Option.bind_eq_some_iff] at hok
  rcases hok with ⟨slot, hslot, epoch, _, b₀, _, hok⟩
  have hlen := rem?_ne_zero hslot
  rw [rem?_of_ne hlen] at hslot
  cases hslot
  -- one case per kind of block
  split at hok
  · have heffects := doEpochPreliminaries_effects (h := h.consume (rt.reads 1)) hok
    exact (Chain.removalEffects_sheds heffects).elects
  · simp only [Option.bind_eq_some_iff] at hok
    rcases hok with ⟨b₁, _, hok⟩
    split at hok
    · simp only [Option.bind_eq_some_iff, Option.some.injEq] at hok
      rcases hok with ⟨r, hr, rfl⟩
      exact (Ballots.Steady.of_eq (Chain.calculateOverwatchRewards_ballots hr)).elects
    · simp only [Option.bind_eq_some_iff] at hok
      rcases hok with ⟨b₂, _, hok⟩
      split at hok
      · simp only [Option.bind_eq_some_iff, Option.some.injEq] at hok
        rcases hok with ⟨r, hr, rfl⟩
        exact (Ballots.Steady.of_eq (Chain.handleSubnetEmissionWeights_ballots hr)).elects
      · exact slotStep_elects (h := h.consume (rt.reads 1)) hlen hinv hopen hset hlisted hok

/-- The next block elects validators. -/
theorem Chain.nextBlock_elects (hinv : c.lifecycle.Inv rt.epochLength)
    (hlisted : c.toState.candidates.Listed) : c.ballots.Elects (c.nextBlock rt).ballots := by
  unfold nextBlock
  split
  · next hblock =>
      cases hhook : (c.atBlock (c.block + 1)).onInitialize rt u128 (c.block + 1) with
      | none => exact (Ballots.Steady.of_eq rfl).elects
      | some c' =>
          show (c.atBlock (c.block + 1)).ballots.Elects c'.ballots
          unfold onInitialize at hhook
          dsimp only at hhook
          split at hhook
          · cases hhook
            exact (Ballots.Steady.of_eq rfl).elects
          · simp only [Option.bind_eq_bind, Option.bind_eq_some_iff, Option.some.injEq] at hhook
            rcases hhook with ⟨h', hstep, rfl⟩
            refine Ballots.Elects.grow ?_ (Hook.executeSwaps_grows h' _)
            rcases hinv.tick with ⟨htick, hopen⟩
            exact Hook.epochStep_elects (h := ⟨c.atBlock (c.block + 1), _, []⟩) htick hopen
              (hinv.settleableAt hblock) hlisted hstep
  · exact (Ballots.Steady.of_eq rfl).elects

end Block

end Hypertensor
