import Mathlib
import Hypertensor.Swap.Calls

/-!
# Hypertensor.Swap.Settlement — what becomes of a swap

A pending swap is settled once: claimed for its target with the secret, or taken back by its
source in time (`swap_settles_once`). The events alone tell what is pending and what a failed
claim has left reserved for nobody (`replay`), and the reserves are made of these and of what
other pallets hold (`reserves_explained`). So each step moves the whole value of a swap that its
source has asked for (`payments_are_consented`).
-/

namespace Hypertensor.Swap

open Base

variable {A H T E W : Type}

/-! ## Settling -/

section Settling

variable [DecidableEq A] [DecidableEq H] {cfg : Config A H T E W} {s s' : State A H T W}

/-- The label settles the swap. -/
inductive Settles (cfg : Config A H T E W) (s : State A H T W) (target : A) (hashedProof : H)
    (swap : PendingSwap A T) : Op A H T W → State A H T W → Prop
  | claim {proof : List UInt8} {hashType : HashType} (hlimit : proof.length ≤ cfg.proofLimit)
      (hproof : cfg.hash hashType proof = hashedProof) :
      Settles cfg s target hashedProof swap
        (.claimSwap (.signed target) proof hashType swap.action)
        (s.claimed target hashedProof
          (cfg.swapAction.claim swap.action swap.source target s.world))
  | cancel (htime : swap.endBlock ≤ s.blockNumber) :
      Settles cfg s target hashedProof swap (.cancelSwap (.signed swap.source) target hashedProof)
        (s.cancelled cfg target hashedProof swap)

variable [DecidableEq T]

/-- The label opens a swap. -/
structure Opens (cfg : Config A H T E W) (s : State A H T W) (op : Op A H T W) (target : A)
    (hashedProof : H) (swap : PendingSwap A T) (world : W) : Prop where
  label : ∃ duration, op = .createSwap (.signed swap.source) target hashedProof swap.hashType
    swap.action duration ∧ swap.endBlock = wrapAdd 32 s.blockNumber duration
  new : s.pendingSwaps.find? (target, hashedProof) = none
  reserve : cfg.swapAction.reserve swap.action swap.source s.world = .ok world
  step : op.step cfg s = { s with
    pendingSwaps := s.pendingSwaps.set (target, hashedProof) swap
    events := s.events ++ [.newSwap target hashedProof swap swap.hashType]
    world := world }

/-- A label opens a swap or settles one, or is none of the pallet's or fails. -/
theorem step_cases (cfg : Config A H T E W) (s : State A H T W) (op : Op A H T W) :
    (∃ target hashedProof swap world, Opens cfg s op target hashedProof swap world) ∨
    (∃ target hashedProof swap, s.pendingSwaps.find? (target, hashedProof) = some swap ∧
      Settles cfg s target hashedProof swap op (op.step cfg s)) ∨
    (op.step cfg s).pendingSwaps = s.pendingSwaps ∧ (op.step cfg s).events = s.events ∧
      ((op.step cfg s).world = s.world ∨ op = .other (op.step cfg s).world) := by
  rcases commit_cases (s := s) (op.call cfg s) with hfail | hok
  · -- a failing call changes nothing
    have hstep : op.step cfg s = s := hfail
    rw [hstep]
    exact Or.inr (Or.inr ⟨rfl, rfl, Or.inl rfl⟩)
  · have hstep : op.call cfg s = .ok (op.step cfg s) := hok
    clear hok
    generalize hs' : op.step cfg s = s' at hstep ⊢
    cases op with
    | createSwap origin target hashedProof hashType action duration =>
        rcases createSwap_ok hstep with ⟨source, world, rfl, hnew, hreserve, rfl⟩
        refine Or.inl ⟨target, hashedProof, s.newSwap source hashType action duration, world, ?_⟩
        exact { label := ⟨duration, rfl, rfl⟩, new := hnew, reserve := hreserve, step := hs' }
    | claimSwap origin proof hashType action =>
        rcases claimSwap_ok_iff.mp hstep with ⟨target, swap, rfl, hlimit, hswap, rfl, rfl⟩
        exact Or.inr (Or.inl ⟨target, _, swap, hswap, .claim hlimit rfl⟩)
    | cancelSwap origin target hashedProof =>
        rcases cancelSwap_ok_iff.mp hstep with ⟨swap, hswap, rfl, htime, rfl⟩
        exact Or.inr (Or.inl ⟨target, hashedProof, swap, hswap, .cancel htime⟩)
    | nextBlock =>
        cases hstep
        exact Or.inr (Or.inr ⟨rfl, rfl, Or.inl rfl⟩)
    | other world =>
        cases hstep
        exact Or.inr (Or.inr ⟨rfl, rfl, Or.inr rfl⟩)

omit [DecidableEq T] in
theorem Settles.pendingSwaps {target : A} {hashedProof : H} {swap : PendingSwap A T}
    {op : Op A H T W} (h : Settles cfg s target hashedProof swap op s') :
    s'.pendingSwaps = s.pendingSwaps.remove (target, hashedProof) := by
  cases h with
  | claim _ _ => rfl
  | cancel _ => rfl

omit [DecidableEq T] in
/-- It is the source that cancels. -/
theorem Settles.source_eq {target target' who : A} {hashedProof proof : H} {swap : PendingSwap A T}
    {op : Op A H T W} (h : Settles cfg s target hashedProof swap op s')
    (hop : op = .cancelSwap (.signed who) target' proof) : swap.source = who := by
  cases h with
  | claim _ _ => cases hop
  | cancel _ =>
      cases hop
      rfl

/-- A pending swap stays as it is until it is settled. -/
theorem step_pending (cfg : Config A H T E W) {target : A} {hashedProof : H}
    {swap : PendingSwap A T}
    (hpending : s.pendingSwaps.find? (target, hashedProof) = some swap) (op : Op A H T W) :
    (op.step cfg s).pendingSwaps.find? (target, hashedProof) = some swap ∨
      Settles cfg s target hashedProof swap op (op.step cfg s) := by
  rcases step_cases cfg s op with
    ⟨target', proof', swap', world, hopens⟩ | ⟨target', proof', swap', hpending', hsettles⟩ |
      ⟨hsame, -⟩
  · left
    have hne : (target, hashedProof) ≠ (target', proof') := by
      intro heq
      rw [heq, hopens.new] at hpending
      cases hpending
    rw [hopens.step, StorageMap.find?_set, if_neg hne]
    exact hpending
  · by_cases heq : (target, hashedProof) = (target', proof')
    · cases heq
      rw [hpending] at hpending'
      cases hpending'
      exact Or.inr hsettles
    · left
      rw [hsettles.pendingSwaps, StorageMap.find?_remove, if_neg heq]
      exact hpending
  · left
    rw [hsame]
    exact hpending

/-- A swap that has been created stays pending, and open to whoever has the secret and, in time,
to its source, until one of them settles it. -/
theorem swap_settles_once {source target : A} {hashedProof : H} {hashType : HashType} {action : T}
    {duration : ℕ}
    (hcreate : s.createSwap cfg (.signed source) target hashedProof hashType action duration = .ok s')
    (ops : List (Op A H T W)) :
    let swap := s.newSwap source hashType action duration
    ((run (Op.step cfg) s' ops).pendingSwaps.find? (target, hashedProof) = some swap ∧
      (∀ proof hashType', proof.length ≤ cfg.proofLimit → cfg.hash hashType' proof = hashedProof →
        (run (Op.step cfg) s' ops).claimSwap cfg (.signed target) proof hashType' action =
          .ok ((run (Op.step cfg) s' ops).claimed target hashedProof (cfg.swapAction.claim action
            source target (run (Op.step cfg) s' ops).world))) ∧
      (wrapAdd 32 s.blockNumber duration ≤ (run (Op.step cfg) s' ops).blockNumber →
        (run (Op.step cfg) s' ops).cancelSwap cfg (.signed source) target hashedProof =
          .ok ((run (Op.step cfg) s' ops).cancelled cfg target hashedProof swap))) ∨
    ∃ pre op post, ops = pre ++ op :: post ∧
      (∀ before, before <+: pre →
        (run (Op.step cfg) s' before).pendingSwaps.find? (target, hashedProof) = some swap) ∧
      Settles cfg (run (Op.step cfg) s' pre) target hashedProof swap op
        (run (Op.step cfg) s' (pre ++ [op])) := by
  intro swap
  have hstart : s'.pendingSwaps.find? (target, hashedProof) = some swap := by
    rcases createSwap_ok hcreate with ⟨source', world, horigin, -, -, rfl⟩
    cases horigin
    rw [StorageMap.find?_set, if_pos rfl]
  clear hcreate
  -- induction on the run, from any state in which the swap is pending
  induction ops generalizing s' with
  | nil =>
      left
      refine ⟨hstart, ?_, ?_⟩
      · intro proof hashType' hlimit hproof
        subst hproof
        exact claimSwap_ok_iff.mpr ⟨target, swap, rfl, hlimit, hstart, rfl, rfl⟩
      · intro htime
        exact cancelSwap_ok_iff.mpr ⟨swap, hstart, rfl, htime, rfl⟩
  | cons op ops ih =>
      rcases step_pending cfg hstart op with hkept | hsettles
      · rcases ih hkept with hpending | ⟨pre, op', post, hops, hbefore, hsettles⟩
        · exact Or.inl hpending
        · right
          subst hops
          refine ⟨op :: pre, op', post, rfl, ?_, hsettles⟩
          intro before hprefix
          cases before with
          | nil => exact hstart
          | cons op'' before =>
              rcases List.cons_prefix_cons.mp hprefix with ⟨rfl, htail⟩
              exact hbefore before htail
      · right
        refine ⟨[], op, ops, rfl, ?_, hsettles⟩
        intro before hprefix
        rw [List.prefix_nil.mp hprefix]
        exact hstart

end Settling

/-! ## Events -/

section Replay

variable [DecidableEq A] [DecidableEq H]

/-- What the events tell. -/
structure Replay (A H T : Type) where
  pending : StorageMap (A × H) (PendingSwap A T)
  /-- The swaps whose claim has failed: nobody can take back what they have reserved. -/
  stranded : List (PendingSwap A T)

def Replay.apply (r : Replay A H T) : Event A H T → Replay A H T
  | .newSwap account proof swap _ => { r with pending := r.pending.set (account, proof) swap }
  | .swapClaimed account proof success =>
      { pending := r.pending.remove (account, proof)
        stranded := if success then r.stranded
          else r.stranded ++ (r.pending.find? (account, proof)).toList }
  | .swapCancelled account proof => { r with pending := r.pending.remove (account, proof) }

def replay (events : List (Event A H T)) : Replay A H T := events.foldl Replay.apply ⟨∅, []⟩

theorem replay_append (events : List (Event A H T)) (event : Event A H T) :
    replay (events ++ [event]) = (replay events).apply event := by
  simp [replay, List.foldl_append]

end Replay

/-! ## Reserves -/

theorem balanceSwapAction_claim (currency : Currency A E W) (action : BalanceSwapAction)
    (source target : A) (world : W) :
    (balanceSwapAction currency).claim action source target world = (world, false) ∨
      ∃ world', currency.repatriateReserved source target action.value world = .ok world' ∧
        (balanceSwapAction currency).claim action source target world = (world', true) := by
  unfold balanceSwapAction
  dsimp only
  cases currency.repatriateReserved source target action.value world with
  | error e => exact Or.inl rfl
  | ok world' => exact Or.inr ⟨world', rfl, rfl⟩

/-- The documented behaviour of the currency: as much as there is moves, and nothing else
changes. What other pallets hold (`elsewhere`) is none of its concern. -/
structure Currency.Lawful [DecidableEq A] (currency : Currency A E W) (elsewhere : W → A → ℕ) :
    Prop where
  reserve : ∀ {who value world world'}, currency.reserve who value world = .ok world' →
    value ≤ currency.free world who ∧
    currency.free world' = Function.update (currency.free world) who
      (currency.free world who - value) ∧
    currency.reserved world' = Function.update (currency.reserved world) who
      (currency.reserved world who + value) ∧
    elsewhere world' = elsewhere world
  unreserve : ∀ who value world,
    currency.free (currency.unreserve who value world) = Function.update (currency.free world) who
      (currency.free world who + min value (currency.reserved world who)) ∧
    currency.reserved (currency.unreserve who value world) =
      Function.update (currency.reserved world) who (currency.reserved world who - value) ∧
    elsewhere (currency.unreserve who value world) = elsewhere world
  repatriate : ∀ {slashed beneficiary value world world'},
    currency.repatriateReserved slashed beneficiary value world = .ok world' →
    currency.free world' = Function.update (currency.free world) beneficiary
      (currency.free world beneficiary + min value (currency.reserved world slashed)) ∧
    currency.reserved world' = Function.update (currency.reserved world) slashed
      (currency.reserved world slashed - value) ∧
    elsewhere world' = elsewhere world

section Reserves

variable [DecidableEq A]

/-- What of the swap is `a`'s. -/
def PendingSwap.share (swap : PendingSwap A BalanceSwapAction) (a : A) : ℕ :=
  if swap.source = a then swap.action.value else 0

variable [DecidableEq H] {cfg : Config A H BalanceSwapAction E W} {currency : Currency A E W}
  {elsewhere : W → A → ℕ} {s s' : State A H BalanceSwapAction W}

/-- What pending swaps hold of an account. -/
def State.locked (s : State A H BalanceSwapAction W) (a : A) : ℕ :=
  s.pendingSwaps.total fun _ swap => swap.share a

/-- What failed claims have left of an account. -/
def State.stranded (s : State A H BalanceSwapAction W) (a : A) : ℕ :=
  ((replay s.events).stranded.map (PendingSwap.share · a)).sum

/-- Reserves are accounted for. -/
structure State.Explained (currency : Currency A E W) (elsewhere : W → A → ℕ)
    (s : State A H BalanceSwapAction W) : Prop where
  pending : (replay s.events).pending = s.pendingSwaps
  reserved : ∀ a, currency.reserved s.world a = elsewhere s.world a + s.locked a + s.stranded a

/-- Other calls change the reserves as they change what they hold. -/
def Op.Accounts (currency : Currency A E W) (elsewhere : W → A → ℕ)
    (s : State A H BalanceSwapAction W) : Op A H BalanceSwapAction W → Prop
  | other world => ∀ a, currency.reserved world a + elsewhere s.world a =
      currency.reserved s.world a + elsewhere world a
  | _ => True

/-- What a pending swap holds is reserved. -/
theorem State.Explained.value_le (h : s.Explained currency elsewhere) {target : A} {hashedProof : H}
    {swap : PendingSwap A BalanceSwapAction}
    (hpending : s.pendingSwaps.find? (target, hashedProof) = some swap) :
    swap.action.value ≤ currency.reserved s.world swap.source := by
  have htotal := s.pendingSwaps.total_remove (fun _ swap' => swap'.share swap.source)
    (target, hashedProof)
  rw [hpending] at htotal
  have hshare : swap.share swap.source = swap.action.value := if_pos rfl
  have hlocked : s.locked swap.source =
      s.pendingSwaps.total fun _ swap' => swap'.share swap.source := rfl
  have hreserved := h.reserved swap.source
  simp only [Option.elim_some] at htotal
  omega

/-- What a settled swap pays: its source where it is cancelled, else its target. -/
def payee (target : A) (swap : PendingSwap A BalanceSwapAction) : Op A H BalanceSwapAction W → A
  | .cancelSwap _ _ _ => swap.source
  | _ => target

/-- The value of the swap has moved from its source to `payee`, and nothing else. -/
structure Pays (currency : Currency A E W) (world world' : W)
    (swap : PendingSwap A BalanceSwapAction) (payee : A) : Prop where
  enough : swap.action.value ≤ currency.reserved world swap.source
  reserved : currency.reserved world' = Function.update (currency.reserved world) swap.source
    (currency.reserved world swap.source - swap.action.value)
  free : currency.free world' = Function.update (currency.free world) payee
    (currency.free world payee + swap.action.value)

/-- A settled swap pays its whole value, or its claim fails and is recorded as such. -/
theorem Settles.pays (hlaw : currency.Lawful elsewhere)
    (hcfg : cfg.swapAction = balanceSwapAction currency) (h : s.Explained currency elsewhere)
    {target : A} {hashedProof : H} {swap : PendingSwap A BalanceSwapAction}
    {op : Op A H BalanceSwapAction W}
    (hpending : s.pendingSwaps.find? (target, hashedProof) = some swap)
    (hsettles : Settles cfg s target hashedProof swap op s') :
    elsewhere s'.world = elsewhere s.world ∧
      (Pays currency s.world s'.world swap (payee target swap op) ∧
          (replay s'.events).stranded = (replay s.events).stranded ∨
        s'.world = s.world ∧
          (replay s'.events).stranded = (replay s.events).stranded ++ [swap]) := by
  have henough := h.value_le hpending
  -- the reserve of the source covers the swap, so all of it is moved
  have hmin : min swap.action.value (currency.reserved s.world swap.source) = swap.action.value :=
    Nat.min_eq_left henough
  cases hsettles with
  | claim hlimit hproof =>
      have hclaim : ∀ claim : W × Bool, (replay (s.claimed target hashedProof claim).events).stranded =
          if claim.2 then (replay s.events).stranded else (replay s.events).stranded ++ [swap] := by
        intro claim
        show (replay (s.events ++ [_])).stranded = _
        rw [replay_append]
        show (if claim.2 then _ else _ ++ (((replay s.events).pending.find? _).toList)) = _
        rw [h.pending, hpending]
        rfl
      rw [hclaim, hcfg]
      -- a claim whose action fails leaves the reserve where it is
      rcases balanceSwapAction_claim currency swap.action swap.source target s.world with
        hfail | ⟨world, hrep, hok⟩
      · rw [hfail]
        exact ⟨rfl, Or.inr ⟨rfl, rfl⟩⟩
      · rw [hok]
        rcases hlaw.repatriate hrep with ⟨hfree, hreserved, hheld⟩
        rw [hmin] at hfree
        exact ⟨hheld, Or.inl ⟨⟨henough, hreserved, hfree⟩, rfl⟩⟩
  | cancel htime =>
      have hcancel : (replay (s.cancelled cfg target hashedProof swap).events).stranded =
          (replay s.events).stranded := by
        show (replay (s.events ++ [_])).stranded = _
        rw [replay_append]
        rfl
      rcases hlaw.unreserve swap.source swap.action.value s.world with ⟨hfree, hreserved, hheld⟩
      rw [hmin] at hfree
      rw [hcancel]
      dsimp only [State.cancelled]
      rw [hcfg]
      exact ⟨hheld, Or.inl ⟨⟨henough, hreserved, hfree⟩, rfl⟩⟩

theorem Settles.replay_pending {target : A} {hashedProof : H}
    {swap : PendingSwap A BalanceSwapAction} {op : Op A H BalanceSwapAction W}
    (hsettles : Settles cfg s target hashedProof swap op s') :
    (replay s'.events).pending = (replay s.events).pending.remove (target, hashedProof) := by
  cases hsettles with
  | claim hlimit hproof =>
      show (replay (s.events ++ [_])).pending = _
      rw [replay_append]
      rfl
  | cancel htime =>
      show (replay (s.events ++ [_])).pending = _
      rw [replay_append]
      rfl

/-- Every label keeps the reserves accounted for. -/
theorem State.Explained.step (hlaw : currency.Lawful elsewhere)
    (hcfg : cfg.swapAction = balanceSwapAction currency) (h : s.Explained currency elsewhere)
    {op : Op A H BalanceSwapAction W} (haccounts : op.Accounts currency elsewhere s) :
    (op.step cfg s).Explained currency elsewhere := by
  rcases step_cases cfg s op with
    ⟨target, hashedProof, swap, world, hopens⟩ | ⟨target, hashedProof, swap, hpending, hsettles⟩ |
      ⟨hsame, hevents, hworld⟩
  · -- a swap is opened: its source has reserved its value
    have hreserve := hopens.reserve
    rw [hcfg] at hreserve
    rcases hlaw.reserve hreserve with ⟨-, -, hreserved, hheld⟩
    have hreplay : replay (op.step cfg s).events =
        { replay s.events with
          pending := (replay s.events).pending.set (target, hashedProof) swap } := by
      rw [hopens.step]
      exact replay_append s.events _
    constructor
    · rw [hreplay, h.pending, hopens.step]
    · intro a
      have hstranded : (op.step cfg s).stranded a = s.stranded a := by
        unfold State.stranded
        rw [hreplay]
      have hlocked : (op.step cfg s).locked a = s.locked a + swap.share a := by
        have htotal := s.pendingSwaps.total_set (fun _ swap' => swap'.share a)
          (target, hashedProof) swap
        rw [hopens.new] at htotal
        rw [hopens.step]
        exact htotal
      rw [hstranded, hlocked, hopens.step]
      show currency.reserved world a = elsewhere world a + _ + _
      have hbefore := h.reserved a
      rw [hreserved, hheld]
      unfold PendingSwap.share
      by_cases ha : swap.source = a
      · subst ha
        rw [Function.update_self, if_pos rfl]
        omega
      · rw [Function.update_of_ne (Ne.symm ha), if_neg ha]
        omega
  · -- a swap is settled: its value is paid, or stranded
    rcases hsettles.pays hlaw hcfg h hpending with ⟨hheld, hpays⟩
    have hlocked : ∀ a, (op.step cfg s).locked a + swap.share a = s.locked a := by
      intro a
      have htotal := s.pendingSwaps.total_remove (fun _ swap' => swap'.share a)
        (target, hashedProof)
      rw [hpending] at htotal
      unfold State.locked
      rw [hsettles.pendingSwaps]
      exact htotal
    constructor
    · rw [hsettles.replay_pending, hsettles.pendingSwaps, h.pending]
    · intro a
      have hbefore := h.reserved a
      have hsplit := hlocked a
      rw [hheld]
      rcases hpays with ⟨hpaid, hstranded⟩ | ⟨hworld, hstranded⟩
      · have hstranded' : (op.step cfg s).stranded a = s.stranded a := by
          unfold State.stranded
          rw [hstranded]
        have henough := hpaid.enough
        rw [hstranded', hpaid.reserved]
        unfold PendingSwap.share at hsplit
        by_cases ha : swap.source = a
        · subst ha
          rw [if_pos rfl] at hsplit
          rw [Function.update_self]
          omega
        · rw [if_neg ha] at hsplit
          rw [Function.update_of_ne (Ne.symm ha)]
          omega
      · have hstranded' : (op.step cfg s).stranded a = s.stranded a + swap.share a := by
          unfold State.stranded
          rw [hstranded, List.map_append, List.sum_append]
          simp
        rw [hstranded', hworld]
        omega
  · have hlocked : (op.step cfg s).locked = s.locked := by
      unfold State.locked
      rw [hsame]
    have hstranded : (op.step cfg s).stranded = s.stranded := by
      unfold State.stranded
      rw [hevents]
    constructor
    · rw [hevents, hsame]
      exact h.pending
    · intro a
      have hbefore := h.reserved a
      rw [hlocked, hstranded]
      rcases hworld with hworld | hother
      · rw [hworld]
        exact hbefore
      · rw [hother] at haccounts
        have hchange : currency.reserved (op.step cfg s).world a + elsewhere s.world a =
            currency.reserved s.world a + elsewhere (op.step cfg s).world a := haccounts a
        omega

/-- In every run the reserves are those of other pallets, of the pending swaps and of the swaps
whose claim has failed, and the events tell which these are. -/
theorem reserves_explained (hlaw : currency.Lawful elsewhere)
    (hcfg : cfg.swapAction = balanceSwapAction currency) (hstart : s.Explained currency elsewhere)
    (ops : List (Op A H BalanceSwapAction W))
    (haccounts : Along (Op.step cfg) (fun s op => op.Accounts currency elsewhere s) s ops) :
    (run (Op.step cfg) s ops).Explained currency elsewhere :=
  run_invariant (fun _ _ hstep h => h.step hlaw hcfg hstep) haccounts hstart

/-- A pending swap has been opened by its source. -/
theorem opened_before (hempty : s.pendingSwaps = ∅) {ops : List (Op A H BalanceSwapAction W)}
    {target : A} {hashedProof : H} {swap : PendingSwap A BalanceSwapAction}
    (hpending : (run (Op.step cfg) s ops).pendingSwaps.find? (target, hashedProof) = some swap) :
    ∃ pre op post world, ops = pre ++ op :: post ∧
      Opens cfg (run (Op.step cfg) s pre) op target hashedProof swap world := by
  have hnot : ¬ s.pendingSwaps.find? (target, hashedProof) = some swap := by
    rw [hempty]
    simp
  -- there is a first step after which the swap is pending, and only an opening does that
  rcases exists_first_step (Q := fun s : State A H BalanceSwapAction W =>
    s.pendingSwaps.find? (target, hashedProof) = some swap) hnot hpending with
    ⟨pre, op, post, rfl, hbefore, hafter⟩
  refine ⟨pre, op, post, ?_⟩
  rcases step_cases cfg (run (Op.step cfg) s pre) op with
    ⟨target', proof', swap', world, hopens⟩ | ⟨target', proof', swap', hpending', hsettles⟩ |
      ⟨hsame, -⟩
  · refine ⟨world, rfl, ?_⟩
    rw [hopens.step, StorageMap.find?_set] at hafter
    split at hafter
    · next hkey =>
        cases hkey
        cases hafter
        exact hopens
    · exact absurd hafter hbefore
  · exfalso
    rw [hsettles.pendingSwaps, StorageMap.find?_remove] at hafter
    split at hafter
    · cases hafter
    · exact hbefore hafter
  · rw [hsame] at hafter
    exact absurd hafter hbefore

/-- In every run, a call of the pallet moves balances in two ways only. It reserves the value of a
swap from whoever signs it; or it settles a swap that its source has opened, and the whole value
goes to the target or back. -/
theorem payments_are_consented (hlaw : currency.Lawful elsewhere)
    (hcfg : cfg.swapAction = balanceSwapAction currency) (hstart : s.Explained currency elsewhere)
    (hempty : s.pendingSwaps = ∅) (ops : List (Op A H BalanceSwapAction W))
    (haccounts : Along (Op.step cfg) (fun s op => op.Accounts currency elsewhere s) s ops)
    {op : Op A H BalanceSwapAction W} (hother : ∀ world, op ≠ .other world) :
    let before := run (Op.step cfg) s ops
    let after := op.step cfg before
    after.world = before.world ∨
    (∃ target hashedProof swap world, Opens cfg before op target hashedProof swap world ∧
      swap.action.value ≤ currency.free before.world swap.source ∧
      currency.free after.world = Function.update (currency.free before.world) swap.source
        (currency.free before.world swap.source - swap.action.value) ∧
      currency.reserved after.world = Function.update (currency.reserved before.world) swap.source
        (currency.reserved before.world swap.source + swap.action.value)) ∨
    ∃ target hashedProof swap, Settles cfg before target hashedProof swap op after ∧
      Pays currency before.world after.world swap (payee target swap op) ∧
      ∃ pre op' post world, ops = pre ++ op' :: post ∧
        Opens cfg (run (Op.step cfg) s pre) op' target hashedProof swap world := by
  intro before after
  have hexplained := reserves_explained hlaw hcfg hstart ops haccounts
  -- a step opens a swap, settles one, or leaves the pending ones alone
  rcases step_cases cfg before op with
    ⟨target, hashedProof, swap, world, hopens⟩ | ⟨target, hashedProof, swap, hpending, hsettles⟩ |
      ⟨-, -, hworld⟩
  · have hreserve := hopens.reserve
    rw [hcfg] at hreserve
    rcases hlaw.reserve hreserve with ⟨henough, hfree, hreserved, -⟩
    have hafter : after.world = world := congrArg State.world hopens.step
    rw [hafter]
    exact Or.inr (Or.inl ⟨target, hashedProof, swap, world, hopens, henough, hfree, hreserved⟩)
  · rcases (hsettles.pays hlaw hcfg hexplained hpending).2 with ⟨hpaid, -⟩ | ⟨hsame, -⟩
    · exact Or.inr (Or.inr ⟨target, hashedProof, swap, hsettles, hpaid,
        opened_before hempty hpending⟩)
    · exact Or.inl hsame
  · rcases hworld with hworld | hother'
    · exact Or.inl hworld
    · exact absurd hother' (hother _)

end Reserves

/-! ## An example -/

/-- Balances of a small chain. -/
structure DemoBalances where
  free : ℕ → ℕ
  reserved : ℕ → ℕ

/-- A currency without other holds. Who has nothing does not exist. -/
def demoCurrency : Currency ℕ Unit DemoBalances where
  reserve who value world :=
    if value ≤ world.free who then
      .ok { free := Function.update world.free who (world.free who - value)
            reserved := Function.update world.reserved who (world.reserved who + value) }
    else .error ()
  unreserve who value world :=
    { free := Function.update world.free who (world.free who + min value (world.reserved who))
      reserved := Function.update world.reserved who (world.reserved who - value) }
  repatriateReserved slashed beneficiary value world :=
    if 0 < world.free beneficiary + world.reserved beneficiary then
      .ok { free := Function.update world.free beneficiary
              (world.free beneficiary + min value (world.reserved slashed))
            reserved := Function.update world.reserved slashed (world.reserved slashed - value) }
    else .error ()
  free := DemoBalances.free
  reserved := DemoBalances.reserved

theorem demoCurrency_lawful : demoCurrency.Lawful fun _ _ => 0 where
  reserve := by
    intro who value world world' h
    simp only [demoCurrency] at h
    split at h
    · next hle =>
        cases h
        exact ⟨hle, rfl, rfl, rfl⟩
    · cases h
  unreserve who value world := ⟨rfl, rfl, rfl⟩
  repatriate := by
    intro slashed beneficiary value world world' h
    simp only [demoCurrency] at h
    split at h
    · cases h
      exact ⟨rfl, rfl, rfl⟩
    · cases h

/-- The hashes stand for those of the host. -/
def demoConfig : Config ℕ ℕ BalanceSwapAction Unit DemoBalances where
  swapAction := balanceSwapAction demoCurrency
  proofLimit := 1024
  blake2_256 proof := (proof.map UInt8.toNat).sum
  keccak_256 proof := (proof.map UInt8.toNat).sum + 1000
  sha2_256 proof := (proof.map UInt8.toNat).sum + 2000

def demoGenesis : State ℕ ℕ BalanceSwapAction DemoBalances :=
  ⟨∅, 0, [], ⟨fun a => if a = 1 ∨ a = 2 then 100 else 0, fun _ => 0⟩⟩

/-- One swap is claimed, one is taken back, and one cannot be claimed: its target is nobody. -/
def demoSwaps : List (Op ℕ ℕ BalanceSwapAction DemoBalances) :=
  [.createSwap (.signed 1) 2 30 .blake2256 ⟨5⟩ 10, .createSwap (.signed 1) 3 30 .blake2256 ⟨4⟩ 1,
    .createSwap (.signed 2) 4 1030 .keccak256 ⟨7⟩ 10, .nextBlock,
    .claimSwap (.signed 2) [10, 20] .blake2256 ⟨5⟩, .cancelSwap (.signed 1) 3 30,
    .claimSwap (.signed 4) [10, 20] .keccak256 ⟨7⟩]

theorem demoGenesis_explained : demoGenesis.Explained demoCurrency fun _ _ => 0 where
  pending := rfl
  reserved a := by
    show 0 = 0 + StorageMap.total ∅ _ + 0
    rw [StorageMap.total_empty]

theorem demoSwaps_accounts (n : ℕ) : Along (Op.step demoConfig)
    (fun s op => op.Accounts demoCurrency (fun _ _ => 0) s) demoGenesis (demoSwaps.take n) := by
  apply along_of_forall
  intro s op hop
  have hmem := List.mem_of_mem_take hop
  simp only [demoSwaps, List.mem_cons, List.not_mem_nil, or_false] at hmem
  rcases hmem with rfl | rfl | rfl | rfl | rfl | rfl | rfl <;> trivial

theorem reserves_explained_demo :
    (run (Op.step demoConfig) demoGenesis demoSwaps).Explained demoCurrency fun _ _ => 0 :=
  reserves_explained demoCurrency_lawful rfl demoGenesis_explained demoSwaps
    (demoSwaps_accounts 7)

/-- The second of them is not pending any more, and it was its source that took it back. -/
theorem payments_are_consented_demo :
    ∃ target hashedProof swap, Settles demoConfig
        (run (Op.step demoConfig) demoGenesis (demoSwaps.take 5)) target hashedProof swap
        (.cancelSwap (.signed 1) 3 30)
        (Op.step demoConfig (run (Op.step demoConfig) demoGenesis (demoSwaps.take 5))
          (.cancelSwap (.signed 1) 3 30)) ∧
      Pays demoCurrency (run (Op.step demoConfig) demoGenesis (demoSwaps.take 5)).world
        (Op.step demoConfig (run (Op.step demoConfig) demoGenesis (demoSwaps.take 5))
          (.cancelSwap (.signed 1) 3 30)).world swap 1 := by
  have hother : ∀ world, (.cancelSwap (.signed 1) 3 30 : Op ℕ ℕ BalanceSwapAction DemoBalances) ≠
      .other world := by
    intro world h
    cases h
  rcases payments_are_consented demoCurrency_lawful rfl demoGenesis_explained rfl
    (demoSwaps.take 5) (demoSwaps_accounts 5) hother with
    hsame | ⟨_, _, _, _, hopens, -⟩ | ⟨target, hashedProof, swap, hsettles, hpays, -⟩
  · exact absurd (congrArg (fun world => world.free 1) hsame) (by decide +kernel)
  · rcases hopens.label with ⟨duration, h, -⟩
    cases h
  · refine ⟨target, hashedProof, swap, hsettles, ?_⟩
    have hpayee : payee target swap
        (.cancelSwap (.signed 1) 3 30 : Op ℕ ℕ BalanceSwapAction DemoBalances) = 1 :=
      hsettles.source_eq rfl
    rw [hpayee] at hpays
    exact hpays

theorem swap_settles_once_demo :
    ∃ pre op post, demoSwaps.drop 1 = pre ++ op :: post ∧
      Settles demoConfig (run (Op.step demoConfig) (Op.step demoConfig demoGenesis
          (.createSwap (.signed 1) 2 30 .blake2256 ⟨5⟩ 10)) pre) 2 30
        (demoGenesis.newSwap 1 .blake2256 ⟨5⟩ 10) op
        (run (Op.step demoConfig) (Op.step demoConfig demoGenesis
          (.createSwap (.signed 1) 2 30 .blake2256 ⟨5⟩ 10)) (pre ++ [op])) := by
  have hcreate : demoGenesis.createSwap demoConfig (.signed 1) 2 30 .blake2256 ⟨5⟩ 10 =
      .ok (Op.step demoConfig demoGenesis (.createSwap (.signed 1) 2 30 .blake2256 ⟨5⟩ 10)) := rfl
  rcases swap_settles_once hcreate (demoSwaps.drop 1) with
    ⟨hpending, -⟩ | ⟨pre, op, post, hops, -, hsettles⟩
  · exact absurd hpending (by decide +kernel)
  · exact ⟨pre, op, post, hops, hsettles⟩

end Hypertensor.Swap
