import Mathlib
import Hypertensor.Epoch.Verdicts
import Hypertensor.Pallet.Phases
import Hypertensor.Lifecycle.Registration

/-!
# Hypertensor.Pallet.Excess — one subnet too many

In the first block of an epoch one more subnet goes if there are more than `MaxSubnets`. The
number is taken before the pass that removes the others, so the last removal may come when there
are no longer too many.

* `Store.Dated`: a subnet that is still registered has its registration epoch stored.
* `Chain.Justified`: what the removals of an epoch should be.
* `excess_removal_iff`: when they are.
-/

namespace Hypertensor

open Base Relation

variable {A : Type}

/-! ## Registration epochs -/

namespace Store

variable {s s' : Store} {i : ℕ}

/-- The registration epoch of each registered subnet is stored. -/
def Dated (s : Store) : Prop :=
  ∀ i, s.phase i = some .registered → s.subnetRegistrationEpoch.find? i ≠ none

theorem Dated.mono (h : s.Dated)
    (hphase : ∀ i, s'.phase i = some .registered → s.phase i = some .registered)
    (hepoch : s'.subnetRegistrationEpoch = s.subnetRegistrationEpoch) : s'.Dated := by
  intro i hi
  rw [hepoch]
  exact h i (hphase i hi)

/-- No subnet becomes registered by what is written of it. -/
theorem Dated.setSubnet (h : s.Dated) {d d' : SubnetData} (hd : s.subnetsData.find? i = some d)
    (hstate : d'.state = .registered → d.state = .registered) : (s.setSubnet i d').Dated := by
  refine h.mono ?_ rfl
  intro j hj
  rw [phase_setSubnet] at hj
  split at hj
  · next heq =>
      rw [heq, Records.phase_of_find hd, hstate (Option.some.inj hj)]
  · exact hj

/-- Both are removed together. -/
theorem Dated.removeSubnet (h : s.Dated) (d : SubnetData) : (s.removeSubnet i d).Dated := by
  intro j hj
  rw [phase_removeSubnet] at hj
  split at hj
  · cases hj
  · next hne =>
      show (s.subnetRegistrationEpoch.remove i).find? j ≠ none
      rw [StorageMap.find?_remove_ne _ hne]
      exact h j hj

theorem Dated.call {ar : Arith} {strict room : Prop} {D L : ℕ} (h : s.Dated)
    (hcall : Call ar strict room D L s s') : s'.Dated := by
  cases hcall with
  | @registerSubnet slot epoch d initial _ _ _ _ _ =>
      intro j hj
      rw [phase_registerSubnet] at hj
      show (s.subnetRegistrationEpoch.set s.nextSubnetId epoch).find? j ≠ none
      rw [StorageMap.find?_set]
      split at hj
      · next heq => simp [heq]
      · next hne =>
          rw [if_neg hne]
          exact h j hj
  | @startSubnet k d d' hd _ hnew =>
      -- the epoch is removed of a subnet that is no longer registered
      intro j hj
      have hphase : (s.startSubnet k d').phase j = _ := s.phase_setSubnet k j d'
      rw [hphase] at hj
      split at hj
      · rw [hnew] at hj
        cases hj
      · next hne =>
          show (s.subnetRegistrationEpoch.remove k).find? j ≠ none
          rw [StorageMap.find?_remove_ne _ hne]
          exact h j hj
  | setSubnet hd hstate =>
      refine h.setSubnet hd ?_
      intro hnew
      rcases hstate with hsame | ⟨_, hpaused⟩
      · exact hsame ▸ hnew
      · rw [hpaused] at hnew
        cases hnew
  | unpause hd _ hnew =>
      have hset := h.setSubnet hd fun hreg => nomatch hnew.symm.trans hreg
      exact hset.mono (fun _ => id) rfl
  | removeSubnet hd => exact h.removeSubnet _
  | @removeActive k id node hnode =>
      refine h.mono ?_ rfl
      intro j hj
      have hphase : (s.setRecords (s.toRecords.removeActive k id node)).phase j = s.phase j := by
        show ((Membership.removeActive ..).subnetsData.find? j).map _ = _
        rw [Membership.removeActive_subnetsData]
        rfl
      exact hphase ▸ hj
  | removeStake clean _ =>
      cases clean with
      | none => exact h.mono (fun _ => id) rfl
      | some v => exact h.mono (fun _ => id) rfl
  | _ => exact h.mono (fun _ => id) rfl

theorem Dated.hook {ar : Arith} {t : Terms} {L : ℕ} {target : Option ℕ} (h : s.Dated)
    (hstep : Step ar t L target s s') : s'.Dated := by
  cases hstep with
  | @node k r _ hstep =>
      refine h.mono ?_ rfl
      intro j hj
      have hphase : (s.setRecords r).phase j = s.phase j := by
        show (r.subnetsData.find? j).map _ = _
        rw [hstep.subnetsData]
        rfl
      exact hphase ▸ hj
  | activate _ _ _ => exact h.mono (fun _ => id) rfl
  | skip _ _ _ => exact h.mono (fun _ => id) rfl
  | removeSubnet _ => exact h.removeSubnet _
  | weigh _ => exact h.mono (fun _ => id) rfl

/-- Whatever happens, the registration epochs are stored. -/
theorem Dated.change {ar : Arith} {t : Terms} {room : Prop} {D L : ℕ} (h : s.Dated)
    (hchange : Change ar t room D L s s') : s'.Dated := by
  cases hchange with
  | call hcall => exact h.call hcall
  | submit hsubmit =>
      cases hsubmit with
      | propose _ _ _ _ => exact h.mono (fun _ => id) rfl
      | attest _ _ => exact h.mono (fun _ => id) rfl
  | block _ hruns =>
      induction hruns with
      | refl => exact h.mono (fun _ => id) rfl
      | tail _ hstep ih => exact ih.hook hstep

end Store

/-- In every run, of whatever length. -/
theorem PalletOp.run_dated [DecidableEq A] (rt : Runtime A) (balances : StorageMap A ℕ)
    (ops : List (PalletOp A)) :
    (run (PalletOp.step rt) (.genesis rt balances) ops).store.Dated := by
  refine run_invariant (P := fun _ _ => True) (I := fun c : Chain A => c.store.Dated) ?_
    (along_of_forall fun _ _ _ => trivial) ?_
  · intro c op _ h
    have hchange : c.store.Change u128 ⟨False, False, False⟩ False rt.designatedEpochSlots
        rt.epochLength (op.step rt c).store :=
      op.stepIn_change rt u128 c False.elim False.elim fun _ _ _ _ _ _ =>
        ⟨⟨False.elim, False.elim, False.elim⟩, False.elim⟩
    exact h.change hchange
  · intro i hi
    cases hi

/-! ## Who passes -/

section Passing

variable [DecidableEq A] {c : Chain A} {epoch i : ℕ}

/-- The subnets that stand all other checks of the epoch. -/
def Chain.passing (c : Chain A) (epoch : ℕ) : Finset ℕ :=
  c.subnets.subnetsData.keys.filter fun i => (c.subnets.subnetsData.find? i).bind
    ((c.preliminaries epoch).verdict (c.standing i)) = none

theorem Chain.mem_passing {d : SubnetData} (hd : c.subnets.subnetsData.find? i = some d) :
    i ∈ c.passing epoch ↔ (c.preliminaries epoch).verdict (c.standing i) d = none := by
  unfold passing
  rw [Finset.mem_filter, hd, StorageMap.mem_keys, hd]
  simp

theorem Chain.find?_of_mem_passing (hi : i ∈ c.passing epoch) :
    ∃ d, c.subnets.subnetsData.find? i = some d :=
  StorageMap.mem_keys.mp (Finset.mem_filter.mp hi).1

theorem Chain.mem_failing {reason : SubnetRemovalReason} :
    (i, reason) ∈ c.failing epoch ↔ ∃ d, c.subnets.subnetsData.find? i = some d ∧
      (c.preliminaries epoch).verdict (c.standing i) d = some reason := by
  unfold failing Preliminaries.removalsOf
  rw [List.mem_filterMap]
  constructor
  · rintro ⟨⟨j, d⟩, hmem, hreason⟩
    rw [Option.map_eq_some_iff] at hreason
    obtain ⟨_, hverdict, heq⟩ := hreason
    cases heq
    exact ⟨d, StorageMap.mem_storedEntries.mp hmem, hverdict⟩
  · rintro ⟨d, hd, hverdict⟩
    refine ⟨(i, d), StorageMap.mem_storedEntries.mpr hd, ?_⟩
    dsimp only
    rw [hverdict]
    rfl

/-- Nobody is removed twice over. -/
theorem Chain.maxSubnets_not_mem_failing : (i, SubnetRemovalReason.maxSubnets) ∉ c.failing epoch := by
  rw [mem_failing]
  rintro ⟨d, _, hverdict⟩
  exact Preliminaries.verdict_ne_maxSubnets _ _ d hverdict

/-- The one more that goes. -/
theorem Chain.excess_eq_some (h : c.excess epoch = some i) :
    (c.preliminaries epoch).removesExcess = true ∧ i ∈ c.passing epoch ∧ c.isSubnetActiveAndLive i epoch = true ∧
      ∀ j ∈ c.passing epoch, c.isSubnetActiveAndLive j epoch = true →
        c.subnetPools.poolBalance.val i ≤ c.subnetPools.poolBalance.val j := by
  obtain ⟨stake, hmem, hleast⟩ := Preliminaries.excessOf_eq_some h
  obtain ⟨d, hd, hlive, hpasses, hdue, rfl⟩ := Preliminaries.mem_candidatesOf.mp hmem
  rw [StorageMap.mem_storedEntries] at hd
  refine ⟨hdue, (mem_passing hd).mpr hpasses, ?_, ?_⟩
  · unfold isSubnetActiveAndLive
    rw [hd]
    exact hlive
  · intro j hj hlivej
    obtain ⟨dj, hdj⟩ := find?_of_mem_passing hj
    unfold isSubnetActiveAndLive at hlivej
    rw [hdj] at hlivej
    refine hleast (j, (c.standing j).stake) (Preliminaries.mem_candidatesOf.mpr ?_)
    exact ⟨dj, StorageMap.mem_storedEntries.mpr hdj, hlivej, (mem_passing hdj).mp hj, hdue, rfl⟩

/-- One more goes if that is due and there is one that may go. -/
theorem Chain.excess_eq_none :
    c.excess epoch = none ↔
      ¬((c.preliminaries epoch).removesExcess = true ∧ ∃ i ∈ c.passing epoch, c.isSubnetActiveAndLive i epoch = true) := by
  constructor
  · rintro hnone ⟨hdue, j, hj, hlive⟩
    obtain ⟨d, hd⟩ := find?_of_mem_passing hj
    unfold isSubnetActiveAndLive at hlive
    rw [hd] at hlive
    have hmem : (j, (c.standing j).stake) ∈ (c.preliminaries epoch).candidatesOf c.standing
        c.subnets.subnetsData.storedEntries :=
      Preliminaries.mem_candidatesOf.mpr
        ⟨d, StorageMap.mem_storedEntries.mpr hd, hlive, (mem_passing hd).mp hj, hdue, rfl⟩
    rw [Preliminaries.excessOf_eq_none.mp hnone] at hmem
    cases hmem
  · intro hnot
    cases hexcess : c.excess epoch with
    | none => rfl
    | some i =>
        obtain ⟨hdue, hi, hlive, _⟩ := excess_eq_some hexcess
        exact absurd ⟨hdue, i, hi, hlive⟩ hnot

/-- The periods are those of the helper functions, if the registration epoch is stored. -/
theorem Chain.registered_verdict {d : SubnetData} (hstate : d.state = .registered)
    (hdated : c.registry.subnetRegistrationEpoch.find? i ≠ none) :
    (c.preliminaries epoch).verdict (c.standing i) d ≠ none ↔
      c.isSubnetRegistering i d.state epoch = false ∧
        (c.isSubnetInEnactment i d.state epoch = false ∨
          c.nodes.totalActiveSubnetNodes.val i < c.params.minSubnetNodes) := by
  obtain ⟨registeredEpoch, hepoch⟩ := Option.ne_none_iff_exists'.mp hdated
  have hstanding : (c.standing i).registeredEpoch = some registeredEpoch := hepoch
  have hactive : (c.standing i).activeNodes = c.nodes.totalActiveSubnetNodes.val i := rfl
  unfold Preliminaries.verdict Preliminaries.registeredVerdict isSubnetRegistering
    isSubnetInEnactment
  rw [hstate, hstanding, hepoch, hactive]
  have hnow : (c.preliminaries epoch).epoch = epoch := rfl
  have hregistration : (c.preliminaries epoch).subnetRegistrationEpochs =
      c.hookParams.subnetRegistrationEpochs := rfl
  have henactment : (c.preliminaries epoch).subnetEnactmentEpochs =
      c.hookParams.subnetEnactmentEpochs := rfl
  have hminimum : (c.preliminaries epoch).minSubnetNodes = c.params.minSubnetNodes := rfl
  rw [if_neg (not_not.mpr rfl), if_neg (not_not.mpr rfl)]
  dsimp only
  rw [hnow, hregistration, henactment, hminimum]
  generalize min (registeredEpoch + c.hookParams.subnetRegistrationEpochs) u32Max = last
  generalize min (last + c.hookParams.subnetEnactmentEpochs) u32Max = limit
  -- both sides by the period that the epoch is in
  by_cases hregistering : epoch ≤ last
  · simp [hregistering]
  · rw [if_neg hregistering]
    by_cases henactment : epoch ≤ limit
    · rw [if_pos henactment]
      have hlast : last < epoch := Nat.lt_of_not_le hregistering
      split
      · next hfew => simp [hlast, hfew]
      · next hfew => simp [hlast, henactment, hfew]
    · rw [if_neg henactment]
      simp [hregistering, henactment]

end Passing

/-! ## Justified removals -/

section Justified

variable [DecidableEq A] {rt : Runtime A} {c : Chain A} {epoch : ℕ}

/-- The subnets that are left once all removals are made but those for there being too many. -/
def Chain.leftBy (c : Chain A) (removals : List (ℕ × SubnetRemovalReason)) : Finset ℕ :=
  c.subnets.subnetsData.keys.filter fun i =>
    ∀ e ∈ removals, e.1 = i → e.2 = SubnetRemovalReason.maxSubnets

/-- What the removals of an epoch should be: at most one subnet goes for there being too many, and
only if there still are; it has the least delegate stake of those it might have been; and a subnet
that is still registered goes when the helper functions say so. -/
structure Chain.Justified (c : Chain A) (epoch : ℕ) (h' : Hook A) : Prop where
  once : (h'.removals.filter fun e => e.2 = .maxSubnets).length ≤ 1
  exceeds : ∀ i, (i, SubnetRemovalReason.maxSubnets) ∈ h'.removals →
    c.hookParams.maxSubnets < (c.leftBy h'.removals).card
  least : ∀ i, (i, SubnetRemovalReason.maxSubnets) ∈ h'.removals →
    i ∈ c.leftBy h'.removals ∧ c.isSubnetActiveAndLive i epoch = true ∧
      ∀ j ∈ c.leftBy h'.removals, c.isSubnetActiveAndLive j epoch = true →
        c.subnetPools.poolBalance.val i ≤ c.subnetPools.poolBalance.val j
  registered : ∀ i d, c.subnets.subnetsData.find? i = some d → d.state = .registered →
    (h'.chain.subnets.subnetsData.find? i = none ↔
      c.isSubnetRegistering i d.state epoch = false ∧
        (c.isSubnetInEnactment i d.state epoch = false ∨
          c.nodes.totalActiveSubnetNodes.val i < c.params.minSubnetNodes))

/-- If one more is due to go and there is one that may, more than `MaxSubnets` stand the other
checks. -/
def Chain.StaysInExcess (c : Chain A) (epoch : ℕ) : Prop :=
  (c.preliminaries epoch).removesExcess = true →
    (∃ i ∈ c.passing epoch, c.isSubnetActiveAndLive i epoch = true) →
      c.hookParams.maxSubnets < (c.passing epoch).card

/-- Whoever is left passes. -/
theorem Chain.leftBy_eq {excess : Option ℕ} :
    c.leftBy (c.failing epoch ++
      (excess.map fun i => (i, SubnetRemovalReason.maxSubnets)).toList) = c.passing epoch := by
  ext i
  unfold leftBy passing
  rw [Finset.mem_filter, Finset.mem_filter]
  refine and_congr_right fun hkey => ?_
  obtain ⟨d, hd⟩ := StorageMap.mem_keys.mp hkey
  rw [hd, Option.bind_some]
  constructor
  · intro hleft
    by_contra hfails
    obtain ⟨reason, hreason⟩ := Option.ne_none_iff_exists'.mp hfails
    have hmem : (i, reason) ∈ c.failing epoch := mem_failing.mpr ⟨d, hd, hreason⟩
    have heq : reason = .maxSubnets := hleft _ (List.mem_append_left _ hmem) rfl
    exact maxSubnets_not_mem_failing (heq ▸ hmem)
  · rintro hpasses ⟨_, reason⟩ he rfl
    rcases List.mem_append.mp he with he | he
    · obtain ⟨d', hd', hverdict⟩ := mem_failing.mp he
      rw [hd] at hd'
      cases hd'
      rw [hpasses] at hverdict
      cases hverdict
    · rw [Option.mem_toList, Option.map_eq_some_iff] at he
      obtain ⟨_, _, heq⟩ := he
      cases heq
      rfl

/-- The removals are justified exactly if it is still too many who pass. -/
theorem Chain.justified_iff {h' : Hook A}
    (hdated : ∀ i d, c.subnets.subnetsData.find? i = some d → d.state = .registered →
      c.registry.subnetRegistrationEpoch.find? i ≠ none)
    (hremovals : h'.removals = c.failing epoch ++
      ((c.excess epoch).map fun i => (i, SubnetRemovalReason.maxSubnets)).toList)
    (hgone : ∀ i d, c.subnets.subnetsData.find? i = some d →
      (h'.chain.subnets.subnetsData.find? i = none ↔
        (c.preliminaries epoch).verdict (c.standing i) d ≠ none ∨ c.excess epoch = some i)) :
    c.Justified epoch h' ↔ c.StaysInExcess epoch := by
  have hmem : ∀ i, (i, SubnetRemovalReason.maxSubnets) ∈ h'.removals ↔
      c.excess epoch = some i := by
    intro i
    rw [hremovals, List.mem_append, or_iff_right maxSubnets_not_mem_failing, Option.mem_toList,
      Option.map_eq_some_iff]
    constructor
    · rintro ⟨_, hexcess, heq⟩
      cases heq
      exact hexcess
    · intro hexcess
      exact ⟨i, hexcess, rfl⟩
  have hleft : c.leftBy h'.removals = c.passing epoch := hremovals ▸ leftBy_eq
  constructor
  · intro hjustified hdue hsome
    rw [← hleft]
    cases hexcess : c.excess epoch with
    | none => exact absurd ⟨hdue, hsome⟩ (excess_eq_none.mp hexcess)
    | some i => exact hjustified.exceeds i ((hmem i).mpr hexcess)
  · intro hstays
    constructor
    · have hnone : (c.failing epoch).filter (fun e => e.2 = .maxSubnets) = [] := by
        rw [List.filter_eq_nil_iff]
        rintro ⟨i, reason⟩ hfailing heq
        rw [decide_eq_true_eq] at heq
        dsimp only at heq
        rw [heq] at hfailing
        exact maxSubnets_not_mem_failing hfailing
      rw [hremovals, List.filter_append, hnone, List.nil_append]
      refine (List.length_filter_le _ _).trans ?_
      cases c.excess epoch with
      | none => exact Nat.zero_le 1
      | some i => exact le_rfl
    · intro i hi
      obtain ⟨hdue, hpasses, hlive, _⟩ := excess_eq_some ((hmem i).mp hi)
      rw [hleft]
      exact hstays hdue ⟨i, hpasses, hlive⟩
    · intro i hi
      obtain ⟨_, hpasses, hlive, hleast⟩ := excess_eq_some ((hmem i).mp hi)
      rw [hleft]
      exact ⟨hpasses, hlive, hleast⟩
    · intro i d hd hstate
      rw [hgone i d hd, ← registered_verdict hstate (hdated i d hd hstate)]
      refine or_iff_left ?_
      -- the one more is active
      intro hexcess
      obtain ⟨_, _, hlive, _⟩ := excess_eq_some hexcess
      unfold isSubnetActiveAndLive at hlive
      rw [hd] at hlive
      simp [SubnetData.isActiveAndLive, hstate] at hlive

/-- In every state that is reached, at the start of any epoch and with enough weight, the removals
are justified exactly if there are still too many subnets when the last of them goes. -/
theorem excess_removal_iff (rt : Runtime A) (balances : StorageMap A ℕ) (ops : List (PalletOp A))
    (block epoch : ℕ) (m : WeightMeter) (h' : Hook A) (hfits : m.Fits) :
    let c := (run (PalletOp.step rt) (.genesis rt balances) ops).atBlock block
    Hook.doEpochPreliminaries rt ⟨c, m, []⟩ epoch = some h' →
      (∀ i ∈ c.subnets.subnetsData.keys, h'.meter.canConsume
        (rt.weightDoRemoveSubnet (c.nodes.totalSubnetNodes.val i)) = true) →
      (c.Justified epoch h' ↔ c.StaysInExcess epoch) := by
  intro c hok hroom
  have hdated : c.store.Dated := PalletOp.run_dated rt balances ops
  obtain ⟨hremovals, hgone⟩ := Hook.doEpochPreliminaries_spec hok hfits
    fun i d hd => hroom i (StorageMap.mem_keys.mpr ⟨d, hd⟩)
  refine Chain.justified_iff ?_ hremovals hgone
  intro i d hd hstate
  refine hdated i ?_
  rw [← hstate]
  exact Records.phase_of_find hd

/-- A limit that is not reached. -/
def demoMeter : WeightMeter := ⟨⟨u64Max, u64Max⟩, ⟨0, 0⟩⟩

/-- A subnet is active, a second one registers, and there may be one. -/
def demoExcess : List (PalletOp ℕ) :=
  let ops := demoPallet ++ [.activateSubnet 10 128001,
    .registerSubnet 20 100000000000000000000 { demoSubnet with name := [3], repo := [4] }]
  let c := demoPalletAfter ops
  ops ++ [.other { c with hookParams := { c.hookParams with maxSubnets := 1 } }]

/-- As long as the second subnet may still be activated, the first one is one too many. -/
theorem excess_removal_iff_registering :
    let c := (demoPalletAfter demoExcess).atBlock 200
    ∃ h', Hook.doEpochPreliminaries Runtime.runtime ⟨c, demoMeter, []⟩ 10 = some h' ∧
      h'.removals = [(128001, .maxSubnets)] ∧ c.Justified 10 h' := by
  intro c
  have hrun : (Hook.doEpochPreliminaries Runtime.runtime ⟨c, demoMeter, []⟩ 10).any (fun h' =>
      decide (h'.removals = [(128001, .maxSubnets)] ∧ ∀ i ∈ c.subnets.subnetsData.keys,
        h'.meter.canConsume (Runtime.runtime.weightDoRemoveSubnet
          (c.nodes.totalSubnetNodes.val i)) = true)) = true := by decide +kernel
  obtain ⟨h', hok, h⟩ := (Option.any_eq_true _ _).mp hrun
  obtain ⟨hremovals, hroom⟩ := of_decide_eq_true h
  have hstays : 1 < (c.passing 10).card := by decide +kernel
  refine ⟨h', hok, hremovals, ?_⟩
  exact (excess_removal_iff Runtime.runtime demoBalances demoExcess 200 10 demoMeter h'
    ⟨Nat.zero_le _, Nat.zero_le _⟩ hok hroom).mpr fun _ _ => hstays

/-- When its time is over it goes, and with it the only one that is left. -/
theorem last_subnet_is_in_excess :
    let c := (demoPalletAfter demoExcess).atBlock 200000
    c.hookParams.maxSubnets = 1 ∧ c.subnets.subnetsData.keys = {128001, 128002} ∧
      ∃ h', Hook.doEpochPreliminaries Runtime.runtime ⟨c, demoMeter, []⟩ 10000 = some h' ∧
        (∀ i ∈ c.subnets.subnetsData.keys, h'.meter.canConsume
          (Runtime.runtime.weightDoRemoveSubnet (c.nodes.totalSubnetNodes.val i)) = true) ∧
        h'.removals = [(128002, .enactmentPeriod), (128001, .maxSubnets)] ∧
        ¬c.Justified 10000 h' := by
  intro c
  have hrun : (Hook.doEpochPreliminaries Runtime.runtime ⟨c, demoMeter, []⟩ 10000).any (fun h' =>
      decide ((∀ i ∈ c.subnets.subnetsData.keys, h'.meter.canConsume
          (Runtime.runtime.weightDoRemoveSubnet (c.nodes.totalSubnetNodes.val i)) = true) ∧
        h'.removals = [(128002, .enactmentPeriod), (128001, .maxSubnets)])) = true := by
    decide +kernel
  obtain ⟨h', hok, h⟩ := (Option.any_eq_true _ _).mp hrun
  obtain ⟨hroom, hremovals⟩ := of_decide_eq_true h
  refine ⟨by decide +kernel, by decide +kernel, h', hok, hroom, hremovals, ?_⟩
  intro hjustified
  have hexceeds := hjustified.exceeds 128001 (by rw [hremovals]; decide)
  rw [hremovals] at hexceeds
  -- the second subnet is not left by the removals, so one is
  have hleft : ¬c.hookParams.maxSubnets <
      (c.leftBy [(128002, .enactmentPeriod), (128001, .maxSubnets)]).card := by decide +kernel
  exact hleft hexceeds

end Justified

end Hypertensor
