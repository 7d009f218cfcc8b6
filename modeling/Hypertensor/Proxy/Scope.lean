import Mathlib
import Hypertensor.Proxy.NonTransfer
import Hypertensor.Staking.Bystanders

/-!
# Hypertensor.Proxy.Scope — what a staking proxy can reach

The two types for staking let a proxy move what the account stakes. The filters are by call alone,
so that nothing but the calls themselves keeps a proxy from what belongs to others.

* `staking_scopes_are_confined`: in every run of such calls, made for one account, all other
  accounts keep what they have, and all nodes, validators and subnets stay.
-/

namespace Hypertensor.Proxy

open Base

variable {A H K : Type}

/-- A call that a proxy for staking may make. -/
def NetworkCall.InStakingScopes (call : NetworkCall A H) : Prop :=
  ProxyType.subNetworkStaking.filter (.network call : RuntimeCall A H Unit) = true ∨
    ProxyType.subNetworkDelegateStaking.filter (.network call : RuntimeCall A H Unit) = true

/-- It is a staking call, and no transfer. -/
theorem NetworkCall.InStakingScopes.staking {call : NetworkCall A H} (h : call.InStakingScopes) :
    ∃ c : Call A, call = .staking c ∧ ∀ k who dest i n, c ≠ .transferDelegateStake k who dest i n := by
  cases call with
  | staking c =>
      refine ⟨c, rfl, ?_⟩
      rintro k who dest i n rfl
      rcases h with h | h
      · cases h
      · cases h
  | _ =>
      rcases h with h | h
      · cases h
      · cases h

variable [DecidableEq A] [DecidableEq H] {rt : Runtime A} {hash : ℕ × List UInt8 → H}

/-- The account that signs a staking call. -/
def NetworkCall.SignedBy (who : A) : NetworkCall A H → Prop
  | .staking c => c.who = who
  | _ => True

/-- The staking calls do not take the queued swaps of others. -/
def NetworkCall.UpdatesOwn (n : Network A H) : NetworkCall A H → Prop
  | .staking c => (Op.call c).UpdatesOwn n.toState
  | _ => True

section Step

variable {n : Network A H} {call : NetworkCall A H} {who b : A}

theorem NetworkCall.step_untouched (hscope : call.InStakingScopes) (hwho : call.SignedBy who)
    (hb : b ≠ who) : n.toState.Untouched b (call.step rt hash n).toState := by
  rcases hscope.staking with ⟨c, rfl, htransfer⟩
  have hwho' : c.who = who := hwho
  refine commit_induction (P := fun s : State A => n.toState.Untouched b s) (.refl b _) ?_
  intro s' hok
  exact Call.dispatch_untouched hok (hwho' ▸ hb) fun k who i m => htransfer k who b i m

theorem NetworkCall.step_waits (hscope : call.InStakingScopes) (hwho : call.SignedBy who)
    (howned : call.UpdatesOwn n) {id : ℕ} {item : QueuedSwapItem A}
    (hwaits : n.toState.Waits id item) (hitem : item.call.accountId ≠ who) :
    (call.step rt hash n).toState.Waits id item := by
  rcases hscope.staking with ⟨c, rfl, -⟩
  have hwho' : c.who = who := hwho
  refine commit_induction (P := fun s : State A => s.Waits id item) hwaits ?_
  intro s' hok
  exact hwaits.dispatch hok (hwho' ▸ hitem) howned

end Step

/-- In every run of calls that proxies of the two staking types make for `who`, everybody else keeps
the balance, the shares, what is unbonding, and the stake of the nodes; and the queued swaps, where
the calls update no queued swap of another account. -/
theorem staking_scopes_are_confined {who : A} (calls : List (NetworkCall A H))
    (hscope : ∀ call ∈ calls, call.InStakingScopes) (hwho : ∀ call ∈ calls, call.SignedBy who)
    (n : Network A H) {b : A} (hb : b ≠ who) :
    n.toState.Untouched b (run (NetworkCall.step rt hash) n calls).toState ∧
      (Along (NetworkCall.step rt hash) (fun n call => call.UpdatesOwn n) n calls →
        ∀ id item, n.toState.Waits id item → item.call.accountId = b →
          (run (NetworkCall.step rt hash) n calls).toState.Waits id item) := by
  have hsigned : Along (NetworkCall.step rt hash)
      (fun _ call => call.InStakingScopes ∧ call.SignedBy who) n calls :=
    along_of_forall fun _ call hmem => ⟨hscope call hmem, hwho call hmem⟩
  constructor
  · exact run_invariant (I := fun m : Network A H => n.toState.Untouched b m.toState)
      (fun _ call hcall h => h.trans (call.step_untouched hcall.1 hcall.2 hb)) hsigned (.refl b _)
  · intro howned id item hwaits haccount
    exact run_invariant (I := fun m : Network A H => m.toState.Waits id item)
      (fun _ call hcall h => call.step_waits hcall.1.1 hcall.1.2 hcall.2 h (haccount ▸ hb))
      (along_and hsigned howned) hwaits

/-! ## An example -/

/-- Account 20 has delegated to the subnet and swaps a part of it. -/
def demoStaked : Network ℕ ℕ :=
  run (NetworkCall.step Runtime.runtime Prod.fst) demoProxyChain
    [.staking (.addDelegateStake .subnet 20 128001 2000000000000000000),
      .staking (.swapDelegateStake .subnet .subnet 20 128001 128001 1000000000000000)]

/-- What waits then. -/
def demoItem : QueuedSwapItem ℕ := ⟨0, .to .subnet 20 128001 999999999999999, 0, 20⟩

/-- The proxies of account 10 do the same, and unstake something. -/
def demoStaking : List (NetworkCall ℕ ℕ) :=
  [.staking (.addDelegateStake .subnet 10 128001 2000000000000000000),
    .staking (.removeDelegateStake .subnet 10 128001 1000000000000000),
    .staking (.swapDelegateStake .subnet .subnet 10 128001 128001 1000000000000000)]

theorem staking_scopes_are_confined_demo :
    let after := run (NetworkCall.step Runtime.runtime Prod.fst) demoStaked demoStaking
    demoStaked.toState.Untouched 20 after.toState ∧
      (∃ item, item.call.accountId = 20 ∧ after.toState.Waits 0 item) ∧
      after.subnetPools.accountShares.val (10, 128001) = 1998000000000001008 := by
  intro after
  have hscope : ∀ call ∈ demoStaking, call.InStakingScopes ∧ call.SignedBy 10 := by
    intro call hmem
    simp only [demoStaking, List.mem_cons, List.not_mem_nil, or_false] at hmem
    rcases hmem with rfl | rfl | rfl
    · exact ⟨Or.inr rfl, rfl⟩
    · exact ⟨Or.inr rfl, rfl⟩
    · exact ⟨Or.inr rfl, rfl⟩
  have howned : Along (NetworkCall.step Runtime.runtime Prod.fst)
      (fun n call => call.UpdatesOwn n) demoStaked demoStaking :=
    ⟨trivial, trivial, trivial, trivial⟩
  rcases staking_scopes_are_confined (b := 20) demoStaking (fun call hmem => (hscope call hmem).1)
    (fun call hmem => (hscope call hmem).2) demoStaked (by decide) with ⟨hsame, hqueue⟩
  refine ⟨hsame, ⟨demoItem, rfl, hqueue howned 0 demoItem ?_ rfl⟩, by decide +kernel⟩
  exact ⟨by decide +kernel, by decide +kernel, by decide +kernel⟩

end Hypertensor.Proxy
