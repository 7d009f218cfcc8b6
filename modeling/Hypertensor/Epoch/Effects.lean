import Mathlib
import Hypertensor.Epoch.Divisors

/-!
# Hypertensor.Epoch.Effects — what the block hook is made of

`HookEffect` lists the parts of the block hook that write: one removal of a subnet, one
settlement, one election and so on. `Chain.onInitialize_effects` cuts a whole hook into a
sequence of them, so a property of the storage that every effect keeps is kept by the hook,
however it branches and wherever its weight runs out.
-/

namespace Hypertensor

open Base Relation

variable {A : Type} [DecidableEq A]

/-- One write of the hook of a block. -/
inductive HookEffect (rt : Runtime A) (ar : Arith) (block : ℕ) : Chain A → Chain A → Prop
  | removeSubnet (c : Chain A) (i : ℕ) : HookEffect rt ar block c (c.doRemoveSubnet rt i).1
  | reputation (c : Chain A) (i rep : ℕ) :
      HookEffect rt ar block c { c with toState := c.toState.setSubnetReputation i rep }
  | overwatch {c : Chain A} {r : Chain A × Weight}
      (h : c.calculateOverwatchRewards rt ar = some r) : HookEffect rt ar block c r.1
  | weigh {c : Chain A} {r : Chain A × Weight} (epoch : ℕ)
      (h : c.handleSubnetEmissionWeights rt epoch = some r) : HookEffect rt ar block c r.1
  | settle {c : Chain A} (h : Hook A) (i epoch subnetEpoch emissions weight : ℕ)
      (hc : h.chain = c) : HookEffect rt ar block c
        (h.settleEpoch rt ar i epoch subnetEpoch emissions weight).chain
  | elect (c : Chain A) (i subnetEpoch : ℕ) :
      HookEffect rt ar block c (c.electValidator rt i subnetEpoch block)
  | queue {c : Chain A} (h : Hook A) (i subnetEpoch : ℕ) (hc : h.chain = c) :
      HookEffect rt ar block c (h.processQueue rt i subnetEpoch).chain
  | burnRate (h : Hook A) (i : ℕ) :
      HookEffect rt ar block h.chain (h.updateBurnRateForEpoch rt i).chain
  | swaps (h : Hook A) : HookEffect rt ar block h.chain (h.executeSwaps rt ar block)

/-- One write of the first block of an epoch. -/
inductive RemovalEffect (rt : Runtime A) : Chain A → Chain A → Prop
  | removeSubnet (c : Chain A) (i : ℕ) : RemovalEffect rt c (c.doRemoveSubnet rt i).1
  | reputation (c : Chain A) (i rep : ℕ) :
      RemovalEffect rt c { c with toState := c.toState.setSubnetReputation i rep }

/-- Writes of the first block of an epoch, one after the other. -/
abbrev RemovalEffects (rt : Runtime A) : Chain A → Chain A → Prop :=
  ReflTransGen (RemovalEffect rt)

omit [DecidableEq A] in
/-- Where nothing is written nothing is removed. -/
theorem RemovalEffects.of_eq {rt : Runtime A} {c c' : Chain A} (h : c' = c) :
    RemovalEffects rt c c' := h ▸ .refl

/-- Writes of the hook, one after the other. -/
def HookEffects (rt : Runtime A) (ar : Arith) (block : ℕ) : Chain A → Chain A → Prop :=
  ReflTransGen (HookEffect rt ar block)

namespace HookEffects

variable {rt : Runtime A} {ar : Arith} {block : ℕ} {c c' : Chain A}

/-- One effect is a sequence of them. -/
theorem single (h : HookEffect rt ar block c c') : HookEffects rt ar block c c' :=
  ReflTransGen.single h

/-- Removals are effects of the hook. -/
theorem of_removals (h : RemovalEffects rt c c') : HookEffects rt ar block c c' := by
  induction h with
  | refl => exact .refl
  | tail _ hlast ih =>
      cases hlast with
      | removeSubnet i => exact ih.tail (.removeSubnet _ i)
      | reputation i rep => exact ih.tail (.reputation _ i rep)

/-- What every effect keeps, the hook keeps. -/
theorem invariant {I : Chain A → Prop}
    (hstep : ∀ {c c' : Chain A}, HookEffect rt ar block c c' → I c → I c')
    (h : HookEffects rt ar block c c') (hc : I c) : I c' := by
  induction h with
  | refl => exact hc
  | tail _ hlast ih => exact hstep hlast ih

end HookEffects

/-! ## The first block of an epoch -/

section Preliminaries

variable {rt : Runtime A} {p : Preliminaries} {i : ℕ}

omit [DecidableEq A] in
/-- The hook removes a subnet if it has the weight. -/
theorem Hook.tryDoRemoveSubnet_effects (h : Hook A) (i : ℕ) (reason : SubnetRemovalReason) :
    RemovalEffects rt h.chain (h.tryDoRemoveSubnet rt i reason).chain := by
  unfold Hook.tryDoRemoveSubnet
  dsimp only
  split
  · exact .single (.removeSubnet h.chain i)
  · exact .refl

namespace Preliminaries

omit [DecidableEq A] in
/-- A subnet that registers may be removed. -/
theorem registeredSubnet_effects (h : Hook A) :
    RemovalEffects rt h.chain (p.registeredSubnet rt h i).chain := by
  unfold registeredSubnet
  dsimp only
  split
  · exact .refl
  · split
    · exact .refl
    · split
      · split
        · exact Hook.tryDoRemoveSubnet_effects ((h.consume _).consume _) i _
        · exact .refl
      · exact Hook.tryDoRemoveSubnet_effects (h.consume _) i _

omit [DecidableEq A] in
/-- A subnet that is paused may be removed. -/
theorem pausedSubnet_effects (h : Hook A) (data : SubnetData) :
    RemovalEffects rt h.chain (p.pausedSubnet rt h i data).chain := by
  unfold pausedSubnet
  dsimp only
  split
  · -- the reputation is written first, whether or not the subnet goes
    generalize State.decreaseRep _ _ _ = rep
    have hrep : RemovalEffects rt h.chain ((h.map fun c => { c with
        toState := c.toState.setSubnetReputation i rep }).consume (rt.readsWrites 2 1)).chain :=
      .single (.reputation h.chain i rep)
    split
    · exact hrep.trans (Hook.tryDoRemoveSubnet_effects _ i _)
    · exact hrep
  · exact .refl

omit [DecidableEq A] in
/-- A subnet with few nodes loses reputation, and nothing is removed. -/
theorem fewNodes_effects (h : Hook A) (i : ℕ) :
    RemovalEffects rt h.chain (p.fewNodes rt h i).chain := by
  unfold fewNodes
  split
  · exact .single (.reputation h.chain i _)
  · exact .refl

/-- An active subnet may be removed. -/
theorem activeSubnet_effects (h : Hook A) :
    RemovalEffects rt h.chain (p.activeSubnet rt h i).1.chain := by
  unfold activeSubnet
  dsimp only
  split
  · exact Hook.tryDoRemoveSubnet_effects ((h.consume _).consume _) i _
  · have hfew : RemovalEffects rt h.chain (p.fewNodes rt
        ((h.consume rt.weightGetMinSubnetDelegateStakeBalance).consume (rt.reads 1)) i).chain :=
      fewNodes_effects ((h.consume _).consume _) i
    split
    · exact hfew.trans (Hook.tryDoRemoveSubnet_effects (Hook.consume _ _) i _)
    · exact hfew

/-- Whatever the state of a subnet, it is removed or stays. -/
theorem subnetStep_effects (h : Hook A) (data : SubnetData) :
    RemovalEffects rt h.chain (p.subnetStep rt h i data).1.chain := by
  unfold subnetStep
  split
  · exact registeredSubnet_effects h
  · exact pausedSubnet_effects h data
  · split
    · exact .refl
    · exact activeSubnet_effects h

/-- All subnets are looked at, by induction on the list. -/
theorem subnetLoop_effects (h : Hook A) (subnets : List (ℕ × SubnetData)) :
    RemovalEffects rt h.chain (p.subnetLoop rt h subnets).1.chain := by
  induction subnets generalizing h with
  | nil => exact .refl
  | cons e subnets ih => exact (subnetStep_effects h e.2).trans (ih _)

omit [DecidableEq A] in
/-- A subnet in excess may be removed. -/
theorem removeExcess_effects (h : Hook A) (stakes : List (ℕ × ℕ)) :
    RemovalEffects rt h.chain (p.removeExcess rt h stakes).chain := by
  unfold removeExcess
  split
  · exact .refl
  · split
    · exact Hook.tryDoRemoveSubnet_effects (h.consume _) _ _
    · exact .refl

end Preliminaries

/-- The first block of an epoch removes subnets and writes their reputations, no more. -/
theorem Hook.doEpochPreliminaries_effects {h h' : Hook A} {epoch : ℕ}
    (hok : h.doEpochPreliminaries rt epoch = some h') :
    RemovalEffects rt h.chain h'.chain := by
  unfold Hook.doEpochPreliminaries at hok
  simp only [Option.bind_eq_bind, Option.bind_eq_some_iff, Option.some.injEq] at hok
  rcases hok with ⟨removal, _, dstake, _, rfl⟩
  refine ReflTransGen.trans ?_ (Preliminaries.removeExcess_effects _ _)
  refine ReflTransGen.trans (RemovalEffects.of_eq ?_) (Preliminaries.subnetLoop_effects _ _)
  -- before the loop only weight is consumed
  split <;> rfl

end Preliminaries

/-! ## The block of a slot -/

section Slot

variable {rt : Runtime A} {ar : Arith} {h h' : Hook A} {block i : ℕ}

/-- An epoch is opened by a settlement, the burn rate, the queue and an election. -/
theorem Hook.openEpoch_effects {subnetEpoch : ℕ}
    (hok : h.openEpoch rt i block subnetEpoch = some h') :
    HookEffects rt ar block h.chain h'.chain := by
  have helect : HookEffects rt ar block h.chain (h.chain.electValidator rt i subnetEpoch block) :=
    .single (.elect h.chain i subnetEpoch)
  unfold openEpoch handleRegistrationQueue at hok
  simp only [Option.bind_eq_bind, Option.bind_eq_some_iff, Option.some.injEq] at hok
  rcases hok with ⟨g, hqueue, rfl⟩
  refine ReflTransGen.tail ?_ (.burnRate g i)
  split at hqueue
  · cases hqueue
    exact helect
  · simp only [Option.bind_eq_some_iff] at hqueue
    rcases hqueue with ⟨phase, _, hqueue⟩
    split at hqueue
    · cases hqueue
      exact helect
    · cases hqueue
      exact helect.tail (.queue _ i subnetEpoch rfl)

/-- The emission step has effects only where the subnet is active. -/
theorem Hook.emissionStep_effects {epoch subnetEpoch : ℕ}
    (hok : h.emissionStep rt ar block epoch subnetEpoch i = some h') :
    HookEffects rt ar block h.chain h'.chain := by
  unfold emissionStep at hok
  dsimp only at hok
  split at hok
  · cases hok
    exact .refl
  · next weights _ =>
      split at hok
      · cases hok
        exact .refl
      · next weight _ =>
          have hsettle : HookEffects rt ar block h.chain _ :=
            .single (.settle ((h.consume (rt.reads 1)).consume (rt.reads 1)) i epoch subnetEpoch
              weights.subnetsEmissions weight rfl)
          generalize Hook.settleEpoch rt ar _ i epoch subnetEpoch _ weight = g at hsettle hok
          split at hok
          · exact hsettle.trans (openEpoch_effects hok)
          · cases hok
            exact hsettle

/-- The block of a slot has the effects of its subnet. -/
theorem Hook.slotStep_effects {epoch slot : ℕ}
    (hok : h.slotStep rt ar block epoch slot = some h') :
    HookEffects rt ar block h.chain h'.chain := by
  unfold slotStep at hok
  dsimp only at hok
  split at hok
  · cases hok
    exact .refl
  · simp only [Option.bind_eq_bind, Option.bind_eq_some_iff] at hok
    rcases hok with ⟨subnetEpoch, _, hok⟩
    exact emissionStep_effects (h := h.consume (rt.reads 1)) hok

end Slot

/-! ## The hook -/

section Block

variable {rt : Runtime A} {ar : Arith} {block : ℕ}

/-- Every branch of the hook is a sequence of effects. -/
theorem Hook.epochStep_effects {h h' : Hook A} (hok : h.epochStep rt ar block = some h') :
    HookEffects rt ar block h.chain h'.chain := by
  unfold epochStep at hok
  simp only [Option.bind_eq_bind, Option.bind_eq_some_iff] at hok
  rcases hok with ⟨slot, _, epoch, _, b₀, _, hok⟩
  -- one case per kind of block
  split at hok
  · exact .of_removals (Hook.doEpochPreliminaries_effects (h := h.consume (rt.reads 1)) hok)
  · simp only [Option.bind_eq_some_iff] at hok
    rcases hok with ⟨b₁, _, hok⟩
    split at hok
    · simp only [Option.bind_eq_some_iff, Option.some.injEq] at hok
      rcases hok with ⟨r, hr, rfl⟩
      exact .single (.overwatch hr)
    · simp only [Option.bind_eq_some_iff] at hok
      rcases hok with ⟨b₂, _, hok⟩
      split at hok
      · simp only [Option.bind_eq_some_iff, Option.some.injEq] at hok
        rcases hok with ⟨r, hr, rfl⟩
        exact .single (.weigh epoch hr)
      · exact Hook.slotStep_effects (h := h.consume (rt.reads 1)) hok

/-- The hook is a sequence of effects. -/
theorem Chain.onInitialize_effects {c c' : Chain A} (hok : c.onInitialize rt ar block = some c') :
    HookEffects rt ar block c c' := by
  unfold Chain.onInitialize at hok
  dsimp only at hok
  split at hok
  · cases hok
    exact .refl
  · simp only [Option.bind_eq_bind, Option.bind_eq_some_iff, Option.some.injEq] at hok
    rcases hok with ⟨h', hstep, rfl⟩
    have hepoch : HookEffects rt ar block c h'.chain :=
      Hook.epochStep_effects (h := ⟨c, _, []⟩) hstep
    exact hepoch.tail (.swaps h')

/-- What every effect keeps, the hook keeps. -/
theorem Chain.onInitialize_invariant {I : Chain A → Prop} {c c' : Chain A}
    (hstep : ∀ {c c' : Chain A}, HookEffect rt ar block c c' → I c → I c')
    (hok : c.onInitialize rt ar block = some c') (hc : I c) : I c' :=
  (onInitialize_effects hok).invariant hstep hc

end Block

end Hypertensor
