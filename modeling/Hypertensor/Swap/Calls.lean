import Mathlib
import Hypertensor.Base.Arith
import Hypertensor.Base.Dispatch
import Hypertensor.Base.Run
import Hypertensor.Base.Storage

/-!
# Hypertensor.Swap.Calls — atomic swaps

The source of a swap puts an action aside for a target, under the hash of a secret. Who knows
the secret can claim it for the target. After a while the source can take it back.

What a swap does is a parameter (`SwapAction`). The runtime uses `balanceSwapAction`, which
reserves a balance; the currency is a parameter again.
-/

namespace Hypertensor.Swap

open Base

variable {A H T E W : Type}

/-! ## Actions -/

/-- `SwapAction`: what is put aside from the source, and then given to the target or back. -/
structure SwapAction (A T E W : Type) where
  reserve : T → A → W → Except E W
  /-- Whether the claim succeeds is returned, and not an error of the call. -/
  claim : T → A → A → W → W × Bool
  cancel : T → A → W → W

/-- What is used of `ReservableCurrency`, and what it stores. -/
structure Currency (A E W : Type) where
  reserve : A → ℕ → W → Except E W
  /-- The rest that is returned is dropped by the only caller. -/
  unreserve : A → ℕ → W → W
  repatriateReserved : A → A → ℕ → W → Except E W
  free : W → A → ℕ
  reserved : W → A → ℕ

/-- `BalanceSwapAction`. -/
structure BalanceSwapAction where
  value : ℕ
deriving DecidableEq, Repr

/-- The action that only transfers balances. -/
def balanceSwapAction (currency : Currency A E W) : SwapAction A BalanceSwapAction E W where
  reserve action source world := currency.reserve source action.value world
  claim action source target world :=
    match currency.repatriateReserved source target action.value world with
    | .ok world' => (world', true)
    | .error _ => (world, false)
  cancel action source world := currency.unreserve source action.value world

/-! ## Storage -/

/-- `HashType`. -/
inductive HashType where
  | blake2256
  | keccak256
  | sha2256
deriving DecidableEq, Repr

/-- `PendingSwap`. -/
structure PendingSwap (A T : Type) where
  source : A
  hashType : HashType
  action : T
  endBlock : ℕ
deriving DecidableEq, Repr

/-- `RawOrigin`. -/
inductive Origin (A : Type) where
  | root
  | signed (who : A)
  | none
deriving DecidableEq, Repr

/-- `Error`, the error of an unsigned origin, and those of the action. -/
inductive Error (E : Type) where
  | badOrigin
  | alreadyExist
  | invalidProof
  | proofTooLarge
  | sourceMismatch
  | alreadyClaimed
  | notExist
  | claimActionMismatch
  | durationNotPassed
  | action (e : E)
deriving DecidableEq, Repr

/-- `Event`. -/
inductive Event (A H T : Type) where
  | newSwap (account : A) (proof : H) (swap : PendingSwap A T) (hashType : HashType)
  | swapClaimed (account : A) (proof : H) (success : Bool)
  | swapCancelled (account : A) (proof : H)

/-- The configuration of the pallet. -/
structure Config (A H T E W : Type) where
  swapAction : SwapAction A T E W
  proofLimit : ℕ
  blake2_256 : List UInt8 → H
  keccak_256 : List UInt8 → H
  sha2_256 : List UInt8 → H

/-- The hash that a claim is looked up under. -/
def Config.hash (cfg : Config A H T E W) : HashType → List UInt8 → H
  | .blake2256 => cfg.blake2_256
  | .keccak256 => cfg.keccak_256
  | .sha2256 => cfg.sha2_256

structure State (A H T W : Type) where
  pendingSwaps : StorageMap (A × H) (PendingSwap A T)
  blockNumber : ℕ
  events : List (Event A H T)
  /-- The rest of the chain. -/
  world : W

/-- `ensure_signed`. -/
def ensureSigned : Origin A → Except (Error E) A
  | .signed who => .ok who
  | _ => .error .badOrigin

theorem ensureSigned_ok {origin : Origin A} {who : A}
    (h : (ensureSigned origin : Except (Error E) A) = .ok who) : origin = .signed who := by
  cases origin with
  | signed who' => cases h; rfl
  | root => cases h
  | none => cases h

/-! ## Calls -/

namespace State

variable [DecidableEq A] [DecidableEq H] [DecidableEq T] (cfg : Config A H T E W)
  (s : State A H T W)

/-- What `create_swap` stores. The end may be past the last block number, and wraps. -/
def newSwap (source : A) (hashType : HashType) (action : T) (duration : ℕ) : PendingSwap A T where
  source := source
  hashType := hashType
  action := action
  endBlock := wrapAdd 32 s.blockNumber duration

/-- `create_swap`. -/
def createSwap (origin : Origin A) (target : A) (hashedProof : H) (hashType : HashType) (action : T)
    (duration : ℕ) : Except (Error E) (State A H T W) := do
  let source ← ensureSigned origin
  ensure (!s.pendingSwaps.contains (target, hashedProof)) .alreadyExist
  let world ← (cfg.swapAction.reserve action source s.world).mapError .action
  let swap := s.newSwap source hashType action duration
  .ok { s with
    pendingSwaps := s.pendingSwaps.set (target, hashedProof) swap
    events := s.events ++ [.newSwap target hashedProof swap hashType]
    world := world }

/-- The state after a claim whose action has led to `claimed`. -/
def claimed (target : A) (hashedProof : H) (claim : W × Bool) : State A H T W :=
  { s with
    pendingSwaps := s.pendingSwaps.remove (target, hashedProof)
    events := s.events ++ [.swapClaimed target hashedProof claim.2]
    world := claim.1 }

/-- `claim_swap`. The hash is of the type that the claim names, and not of the swap's. -/
def claimSwap (origin : Origin A) (proof : List UInt8) (hashType : HashType) (action : T) :
    Except (Error E) (State A H T W) := do
  ensure (decide (proof.length ≤ cfg.proofLimit)) .proofTooLarge
  let target ← ensureSigned origin
  let swap ← okOr (s.pendingSwaps.find? (target, cfg.hash hashType proof)) .invalidProof
  ensure (decide (swap.action = action)) .claimActionMismatch
  -- the swap is removed whether or not the action succeeds
  .ok (s.claimed target (cfg.hash hashType proof)
    (cfg.swapAction.claim swap.action swap.source target s.world))

/-- The state after the source has taken a swap back. -/
def cancelled (target : A) (hashedProof : H) (swap : PendingSwap A T) : State A H T W :=
  { s with
    pendingSwaps := s.pendingSwaps.remove (target, hashedProof)
    events := s.events ++ [.swapCancelled target hashedProof]
    world := cfg.swapAction.cancel swap.action swap.source s.world }

/-- `cancel_swap`. -/
def cancelSwap (origin : Origin A) (target : A) (hashedProof : H) :
    Except (Error E) (State A H T W) := do
  let source ← ensureSigned origin
  let swap ← okOr (s.pendingSwaps.find? (target, hashedProof)) .notExist
  ensure (decide (swap.source = source)) .sourceMismatch
  ensure (decide (s.blockNumber ≥ swap.endBlock)) .durationNotPassed
  .ok (s.cancelled cfg target hashedProof swap)

end State

/-! ## What a successful call has checked -/

section Calls

variable [DecidableEq A] [DecidableEq H] {cfg : Config A H T E W} {s s' : State A H T W}

theorem createSwap_ok {origin : Origin A} {target : A} {hashedProof : H} {hashType : HashType}
    {action : T} {duration : ℕ}
    (h : s.createSwap cfg origin target hashedProof hashType action duration = .ok s') :
    ∃ source world, origin = .signed source ∧ s.pendingSwaps.find? (target, hashedProof) = none ∧
      cfg.swapAction.reserve action source s.world = .ok world ∧
      s' = { s with
        pendingSwaps := s.pendingSwaps.set (target, hashedProof)
          (s.newSwap source hashType action duration)
        events := s.events ++ [.newSwap target hashedProof
          (s.newSwap source hashType action duration) hashType]
        world := world } := by
  rcases bind_ok.mp h with ⟨source, horigin, h⟩
  rcases ensure_bind_ok.mp h with ⟨hnew, h⟩
  rcases bind_ok.mp h with ⟨world, hreserve, h⟩
  cases h
  refine ⟨source, world, ensureSigned_ok horigin, ?_, ?_, rfl⟩
  · simpa [StorageMap.contains] using hnew
  · cases hr : cfg.swapAction.reserve action source s.world with
    | error e =>
        rw [hr] at hreserve
        cases hreserve
    | ok world' =>
        rw [hr] at hreserve
        cases hreserve
        rfl

theorem cancelSwap_ok_iff {origin : Origin A} {target : A} {hashedProof : H} :
    s.cancelSwap cfg origin target hashedProof = .ok s' ↔
      ∃ swap, s.pendingSwaps.find? (target, hashedProof) = some swap ∧
        origin = .signed swap.source ∧ swap.endBlock ≤ s.blockNumber ∧
        s' = s.cancelled cfg target hashedProof swap := by
  constructor
  · intro h
    rcases bind_ok.mp h with ⟨source, horigin, h⟩
    rcases okOr_bind_ok.mp h with ⟨swap, hswap, h⟩
    rcases ensure_bind_ok.mp h with ⟨hsource, h⟩
    rcases ensure_bind_ok.mp h with ⟨htime, h⟩
    cases h
    have hsource' : swap.source = source := of_decide_eq_true hsource
    subst hsource'
    exact ⟨swap, hswap, ensureSigned_ok horigin, of_decide_eq_true htime, rfl⟩
  · rintro ⟨swap, hswap, rfl, htime, rfl⟩
    unfold State.cancelSwap
    rw [bind_ok]
    refine ⟨swap.source, rfl, ?_⟩
    rw [okOr_bind_ok]
    refine ⟨swap, hswap, ?_⟩
    rw [ensure_bind_ok]
    refine ⟨decide_eq_true rfl, ?_⟩
    rw [ensure_bind_ok]
    exact ⟨decide_eq_true htime, rfl⟩

variable [DecidableEq T]

theorem claimSwap_ok_iff {origin : Origin A} {proof : List UInt8} {hashType : HashType}
    {action : T} : s.claimSwap cfg origin proof hashType action = .ok s' ↔
      ∃ target swap, origin = .signed target ∧ proof.length ≤ cfg.proofLimit ∧
        s.pendingSwaps.find? (target, cfg.hash hashType proof) = some swap ∧
        swap.action = action ∧ s' = s.claimed target (cfg.hash hashType proof)
          (cfg.swapAction.claim swap.action swap.source target s.world) := by
  constructor
  · intro h
    rcases ensure_bind_ok.mp h with ⟨hlimit, h⟩
    rcases bind_ok.mp h with ⟨target, horigin, h⟩
    rcases okOr_bind_ok.mp h with ⟨swap, hswap, h⟩
    rcases ensure_bind_ok.mp h with ⟨haction, h⟩
    cases h
    exact ⟨target, swap, ensureSigned_ok horigin, of_decide_eq_true hlimit, hswap,
      of_decide_eq_true haction, rfl⟩
  · rintro ⟨target, swap, rfl, hlimit, hswap, haction, rfl⟩
    unfold State.claimSwap
    rw [ensure_bind_ok]
    refine ⟨decide_eq_true hlimit, ?_⟩
    rw [bind_ok]
    refine ⟨target, rfl, ?_⟩
    rw [okOr_bind_ok]
    refine ⟨swap, hswap, ?_⟩
    rw [ensure_bind_ok]
    exact ⟨decide_eq_true haction, rfl⟩

end Calls

/-! ## Runs -/

/-- What can happen to the chain. -/
inductive Op (A H T W : Type) where
  | createSwap (origin : Origin A) (target : A) (hashedProof : H) (hashType : HashType) (action : T)
      (duration : ℕ)
  | claimSwap (origin : Origin A) (proof : List UInt8) (hashType : HashType) (action : T)
  | cancelSwap (origin : Origin A) (target : A) (hashedProof : H)
  | nextBlock
  /-- Any other call. -/
  | other (world : W)

section Runs

variable [DecidableEq A] [DecidableEq H] [DecidableEq T]

/-- The outcome of a label. The block and other calls do not fail here. -/
def Op.call (cfg : Config A H T E W) (s : State A H T W) :
    Op A H T W → Except (Error E) (State A H T W)
  | createSwap origin target hashedProof hashType action duration =>
      s.createSwap cfg origin target hashedProof hashType action duration
  | claimSwap origin proof hashType action => s.claimSwap cfg origin proof hashType action
  | cancelSwap origin target hashedProof => s.cancelSwap cfg origin target hashedProof
  | nextBlock => .ok { s with blockNumber := s.blockNumber + 1 }
  | other world => .ok { s with world := world }

/-- The chain after a label. A call that fails changes nothing. -/
def Op.step (cfg : Config A H T E W) (s : State A H T W) (op : Op A H T W) : State A H T W :=
  commit s (op.call cfg s)

end Runs

end Hypertensor.Swap
