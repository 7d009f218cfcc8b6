import Mathlib
import Hypertensor.Lifecycle.Ownership
import Hypertensor.Proxy.Filter
import Hypertensor.Swap.Settlement

/-!
# Hypertensor.Proxy.NonTransfer — what a proxy of type `NonTransfer` can move

* `non_transfer_keeps_holdings`: no run of calls of the network pallet that the filter lets through
  moves a balance, a stake, a share, what is unbonding or queued, or a subnet to another owner.
* `non_transfer_swaps`: the filter lets atomic swaps through, and they move all that can be
  reserved.
-/

namespace Hypertensor

open Base

variable {A H : Type}

/-! ## Holdings -/

/-- What accounts have in the network pallet, and what of it waits to be theirs. -/
structure Holdings (A : Type) where
  freeBalance : StorageMap A ℕ
  locks : ℕ
  stake : Stake A
  subnetPools : Pools A
  validatorPools : Pools A
  swaps : SwapQueue A
  subnetOwner : StorageMap ℕ A

/-- The holdings in a state. -/
def State.holdings (s : State A) : Holdings A where
  freeBalance := s.freeBalance
  locks := s.locks
  stake := s.stake
  subnetPools := s.subnetPools
  validatorPools := s.validatorPools
  swaps := s.swaps
  subnetOwner := s.emission.subnetOwner

/-! ## Calls that keep them -/

namespace Chain

variable {c c' : Chain A} {coldkey : A} {i id : ℕ}

/-- An edit of a node's record keeps the holdings. -/
def KeepsHoldings (c : Chain A) (f : SubnetNode → Except Error (Chain A × SubnetNode)) : Prop :=
  ∀ node r, f node = .ok r → r.1.holdings = c.holdings

/-- An edit of an active node's record holds nothing. -/
theorem tryMutateSubnetNode_holdings {f : SubnetNode → Except Error (Chain A × SubnetNode)}
    (hf : c.KeepsHoldings f) (h : c.tryMutateSubnetNode i id f = .ok c') :
    c'.holdings = c.holdings := by
  rcases okOr_bind_ok.mp h with ⟨node, -, h⟩
  rcases bind_ok.mp h with ⟨r, hr, h⟩
  cases h
  exact hf node r hr

/-- An edit of a queued node's record holds nothing. -/
theorem tryMutateRegisteredSubnetNode_holdings
    {f : SubnetNode → Except Error (Chain A × SubnetNode)} (hf : c.KeepsHoldings f)
    (h : c.tryMutateRegisteredSubnetNode i id f = .ok c') : c'.holdings = c.holdings := by
  rcases okOr_bind_ok.mp h with ⟨node, -, h⟩
  rcases bind_ok.mp h with ⟨r, hr, h⟩
  cases h
  exact hf node r hr

/-- An edit keeps the holdings, whether the node is active or queued. -/
theorem doUpdateNode_holdings {f : SubnetNode → Except Error (Chain A × SubnetNode)}
    (hf : c.KeepsHoldings f) (h : c.doUpdateNode i id f = .ok c') : c'.holdings = c.holdings := by
  unfold doUpdateNode at h
  split at h
  · exact tryMutateSubnetNode_holdings hf h
  · split at h
    · exact tryMutateRegisteredSubnetNode_holdings hf h
    · cases h

variable [DecidableEq A] {rt : Runtime A}

/-- All updates of a node are such edits. -/
theorem updateNodeCall_holdings {u : NodeUpdate} (h : c.updateNodeCall rt coldkey i id u = .ok c') :
    c'.holdings = c.holdings := by
  rcases bind_ok.mp h with ⟨_, -, h⟩
  rcases bind_ok.mp h with ⟨owner, -, h⟩
  rcases ensure_bind_ok.mp h with ⟨-, h⟩
  cases u with
  | peerInfo new =>
      have hf : c.KeepsHoldings (c.performUpdateNodePeerId rt i id new) := by
        intro node r hr
        rcases bind_ok.mp hr with ⟨_, -, hr⟩
        cases hr
        rfl
      change c.doUpdateNodePeerInfo rt i id new = .ok c' at h
      unfold doUpdateNodePeerInfo at h
      dsimp only at h
      split at h
      · exact tryMutateSubnetNode_holdings hf h
      · cases h
  | bootnodePeerInfo new =>
      refine doUpdateNode_holdings (f := c.performUpdateNodeBootnodePeerId rt i id new) ?_ h
      intro node r hr
      rcases bind_ok.mp hr with ⟨_, -, hr⟩
      cases hr
      rfl
  | clientPeerInfo new =>
      refine doUpdateNode_holdings (f := c.performUpdateNodeClientPeerId rt i id new) ?_ h
      intro node r hr
      rcases bind_ok.mp hr with ⟨_, -, hr⟩
      cases hr
      rfl
  | unique new =>
      refine doUpdateNode_holdings (f := c.performUpdateNodeUnique i id new) ?_ h
      intro node r hr
      rcases ensure_bind_ok.mp hr with ⟨-, hr⟩
      cases hr
      rfl
  | nonUnique new =>
      refine doUpdateNode_holdings (f := c.performUpdateNodeNonUnique new) ?_ h
      intro node r hr
      cases hr
      rfl

/-- A pause writes the entry of the subnet. -/
theorem ownerPauseSubnet_holdings (h : c.ownerPauseSubnet rt coldkey i = .ok c') :
    c'.holdings = c.holdings := by
  rcases ownerPauseSubnet_ok h with ⟨d, -, -, rfl⟩
  rfl

/-- The end of a pause writes no holdings either. -/
theorem ownerUnpauseSubnet_holdings (h : c.ownerUnpauseSubnet rt coldkey i = .ok c') :
    c'.holdings = c.holdings := by
  rcases ownerUnpauseSubnet_ok h with ⟨d, -, -, rfl⟩
  rfl

/-- An emergency set is a list of nodes. -/
theorem ownerSetEmergencyValidatorSet_holdings {ids : List ℕ}
    (h : c.ownerSetEmergencyValidatorSet rt coldkey i ids = .ok c') : c'.holdings = c.holdings := by
  rcases bind_ok.mp h with ⟨_, -, h⟩
  rcases ensure_bind_ok.mp h with ⟨-, h⟩
  rcases ensure_bind_ok.mp h with ⟨-, h⟩
  rcases ensure_bind_ok.mp h with ⟨-, h⟩
  rcases ensure_bind_ok.mp h with ⟨-, h⟩
  cases h
  rfl

theorem ownerRevertEmergencyValidatorSet_holdings
    (h : c.ownerRevertEmergencyValidatorSet coldkey i = .ok c') : c'.holdings = c.holdings := by
  rcases bind_ok.mp h with ⟨_, -, h⟩
  rcases ensure_bind_ok.mp h with ⟨-, h⟩
  rcases ensure_bind_ok.mp h with ⟨-, h⟩
  cases h
  rfl

theorem ownerAddOrUpdateInitialValidators_holdings {validators : StorageMap ℕ ℕ}
    (h : c.ownerAddOrUpdateInitialValidators coldkey i validators = .ok c') :
    c'.holdings = c.holdings := by
  rcases bind_ok.mp h with ⟨_, -, h⟩
  rcases ensure_bind_ok.mp h with ⟨-, h⟩
  rcases ensure_bind_ok.mp h with ⟨-, h⟩
  rcases ensure_bind_ok.mp h with ⟨-, h⟩
  cases h
  rfl

theorem ownerRemoveInitialValidators_holdings {validators : Finset ℕ}
    (h : c.ownerRemoveInitialValidators coldkey i validators = .ok c') :
    c'.holdings = c.holdings := by
  rcases bind_ok.mp h with ⟨_, -, h⟩
  rcases ensure_bind_ok.mp h with ⟨-, h⟩
  rcases ensure_bind_ok.mp h with ⟨-, h⟩
  dsimp only at h
  split at h
  · cases h
    rfl
  · cases h
    rfl

/-- Names and repositories of subnets are free. -/
theorem ownerUpdateName_holdings {value : List UInt8}
    (h : c.ownerUpdateName coldkey i value = .ok c') : c'.holdings = c.holdings := by
  rcases bind_ok.mp h with ⟨_, -, h⟩
  rcases ensure_bind_ok.mp h with ⟨-, h⟩
  rcases ensure_bind_ok.mp h with ⟨-, h⟩
  rcases okOr_bind_ok.mp h with ⟨_, -, h⟩
  cases h
  rfl

theorem ownerUpdateRepo_holdings {value : List UInt8}
    (h : c.ownerUpdateRepo coldkey i value = .ok c') : c'.holdings = c.holdings := by
  rcases bind_ok.mp h with ⟨_, -, h⟩
  rcases ensure_bind_ok.mp h with ⟨-, h⟩
  rcases ensure_bind_ok.mp h with ⟨-, h⟩
  rcases okOr_bind_ok.mp h with ⟨_, -, h⟩
  cases h
  rfl

/-- So are the texts. -/
theorem ownerUpdateText_holdings (h : c.ownerUpdateText coldkey i = .ok c') :
    c'.holdings = c.holdings := by
  rcases bind_ok.mp h with ⟨_, -, h⟩
  rcases ensure_bind_ok.mp h with ⟨-, h⟩
  rcases ensure_bind_ok.mp h with ⟨-, h⟩
  cases h
  rfl

theorem ownerUpdateChurnLimitMultiplier_holdings {value : ℕ}
    (h : c.ownerUpdateChurnLimitMultiplier coldkey i value = .ok c') : c'.holdings = c.holdings := by
  rcases bind_ok.mp h with ⟨_, -, h⟩
  rcases ensure_bind_ok.mp h with ⟨-, h⟩
  rcases ensure_bind_ok.mp h with ⟨-, h⟩
  cases h
  rfl

theorem updateNodeHotkey_holdings {newHotkey : Option A}
    (h : c.updateNodeHotkey coldkey i id newHotkey = .ok c') : c'.holdings = c.holdings := by
  rcases bind_ok.mp h with ⟨_, -, h⟩
  rcases bind_ok.mp h with ⟨_, -, h⟩
  rcases ensure_bind_ok.mp h with ⟨-, h⟩
  cases h
  rfl

/-- A proposal is paid for when the epoch is settled, not when it is made. -/
theorem proposeAttestation_holdings {hotkey : A} {data : List SubnetNodeConsensusData}
    {prioritize remove : Option ℕ} {args attestData : Option (List UInt8)}
    (h : c.proposeAttestation rt hotkey i id data prioritize remove args attestData = .ok c') :
    c'.holdings = c.holdings := by
  rcases proposeAttestation_ok h with ⟨epoch, canonical, -, -, -, -, rfl⟩
  rfl

theorem attest_holdings {hotkey : A} {data : Option (List UInt8)}
    (h : c.attest rt hotkey i id data = .ok c') : c'.holdings = c.holdings := by
  rcases attest_ok h with ⟨node, d, entry, -, -, -, -, -, -, rfl⟩
  rfl

end Chain

section Validators

variable [DecidableEq A] {s s' : State A}

/-- Validators hold nothing in their registry. -/
theorem validatorCall_holdings {call : ValidatorCall A} (h : call.dispatch s = .ok s') :
    s'.holdings = s.holdings := by
  rw [ValidatorCall.dispatch_frame h]
  rfl

theorem updateValidatorIdentity_holdings {coldkey : A} {validatorId : ℕ}
    (h : s.updateValidatorIdentity coldkey validatorId = .ok s') : s'.holdings = s.holdings := by
  rcases bind_ok.mp h with ⟨_, -, h⟩
  rcases okOr_bind_ok.mp h with ⟨_, -, h⟩
  rcases ensure_bind_ok.mp h with ⟨-, h⟩
  cases h
  rfl

end Validators

section Settings

variable [DecidableEq A] {c c' : SettingsChain A} {coldkey : A} {i : ℕ}

namespace SettingsChain

/-- The settings of an owner hold nothing. -/
theorem update_holdings {k : Setting} {value : ℕ} (h : c.update k coldkey i value = .ok c') :
    c'.holdings = c.holdings := by
  rcases update_ok h with ⟨-, rfl⟩
  cases k <;> rfl

theorem ownerAddBootnodeAccess_holdings {account : A}
    (h : c.ownerAddBootnodeAccess coldkey i account = .ok c') : c'.holdings = c.holdings := by
  rcases bind_ok.mp h with ⟨_, -, h⟩
  rcases ensure_bind_ok.mp h with ⟨-, h⟩
  rcases ensure_bind_ok.mp h with ⟨-, h⟩
  cases h
  rfl

theorem ownerRemoveBootnodeAccess_holdings {account : A}
    (h : c.ownerRemoveBootnodeAccess coldkey i account = .ok c') : c'.holdings = c.holdings := by
  rcases bind_ok.mp h with ⟨_, -, h⟩
  rcases ensure_bind_ok.mp h with ⟨-, h⟩
  cases h
  rfl

/-- Bootnodes hold nothing. -/
theorem updateBootnodes_holdings {rt : Runtime A} {add : List (List UInt8 × List UInt8)}
    {remove : Finset (List UInt8)} (h : c.updateBootnodes rt coldkey i add remove = .ok c') :
    c'.holdings = c.holdings := by
  rcases bind_ok.mp h with ⟨_, -, h⟩
  rcases ensure_bind_ok.mp h with ⟨-, h⟩
  rcases ensure_bind_ok.mp h with ⟨-, h⟩
  rcases bind_ok.mp h with ⟨_, -, h⟩
  rcases ensure_bind_ok.mp h with ⟨-, h⟩
  cases h
  rfl

end SettingsChain

theorem updateIdleClassificationEpochs_holdings {c c' : CollectiveChain A} {value : ℕ}
    (h : c.updateIdleClassificationEpochs coldkey i value = .ok c') : c'.holdings = c.holdings := by
  rcases bind_ok.mp h with ⟨_, -, h⟩
  rcases ensure_bind_ok.mp h with ⟨-, h⟩
  rcases ensure_bind_ok.mp h with ⟨-, h⟩
  cases h
  rfl

theorem ownerUpdateReputationFactors_holdings {rt : Runtime A} {c c' : FactorChain A}
    {updates : SubnetReputationFactorUpdates}
    (h : c.ownerUpdateReputationFactors rt coldkey i updates = .ok c') :
    c'.holdings = c.holdings := by
  rw [FactorChain.ownerUpdateReputationFactors_ok h]
  rfl

end Settings

namespace OverwatchChain

variable [DecidableEq A] {c c' : OverwatchChain A H} {key : A} {n : ℕ}

/-- The keys of overwatch nodes hold nothing. -/
theorem updateOverwatchHotkey_holdings {newHotkey : Option A}
    (h : c.updateOverwatchHotkey key n newHotkey = .ok c') : c'.holdings = c.holdings := by
  rcases bind_ok.mp h with ⟨_, -, h⟩
  rcases bind_ok.mp h with ⟨_, -, h⟩
  rcases ensure_bind_ok.mp h with ⟨-, h⟩
  cases h
  rfl

theorem setOverwatchNodePeerId_holdings {i : ℕ} {peerId : List UInt8}
    (h : c.setOverwatchNodePeerId key i n peerId = .ok c') : c'.holdings = c.holdings := by
  rcases bind_ok.mp h with ⟨_, -, h⟩
  rcases ensure_bind_ok.mp h with ⟨-, h⟩
  rcases bind_ok.mp h with ⟨_, -, h⟩
  rcases ensure_bind_ok.mp h with ⟨-, h⟩
  rcases ensure_bind_ok.mp h with ⟨-, h⟩
  rcases ensure_bind_ok.mp h with ⟨-, h⟩
  cases h
  rfl

variable {rt : Runtime A}

/-- A commit is stored, and nothing is put aside for it. -/
theorem commitOverwatchSubnetWeights_holdings {commitWeights : List (OverwatchCommit H)}
    (h : c.commitOverwatchSubnetWeights rt key n commitWeights = .ok c') :
    c'.holdings = c.holdings := by
  rcases bind_ok.mp h with ⟨_, -, h⟩
  rcases bind_ok.mp h with ⟨_, -, h⟩
  rcases ensure_bind_ok.mp h with ⟨-, h⟩
  rcases okOr_bind_ok.mp h with ⟨_, -, h⟩
  rcases ensure_bind_ok.mp h with ⟨-, h⟩
  rcases ensure_bind_ok.mp h with ⟨-, h⟩
  rcases ensure_bind_ok.mp h with ⟨-, h⟩
  -- each commit of the loop keeps them
  refine foldlM_within (R := fun c c' : OverwatchChain A H => c'.holdings = c.holdings)
    (fun _ => rfl) (fun h h' => h'.trans h) ?_ h
  intro c commit c' h
  rcases ensure_bind_ok.mp h with ⟨-, h⟩
  cases h
  rfl

/-- Nor is anything paid out when it is revealed. -/
theorem revealOverwatchSubnetWeights_holdings [DecidableEq H] {hash : ℕ × List UInt8 → H}
    {reveals : List OverwatchReveal}
    (h : c.revealOverwatchSubnetWeights rt hash key n reveals = .ok c') :
    c'.holdings = c.holdings := by
  rcases bind_ok.mp h with ⟨_, -, h⟩
  rcases bind_ok.mp h with ⟨_, -, h⟩
  rcases ensure_bind_ok.mp h with ⟨-, h⟩
  rcases okOr_bind_ok.mp h with ⟨_, -, h⟩
  rcases ensure_bind_ok.mp h with ⟨-, h⟩
  rcases ensure_bind_ok.mp h with ⟨-, h⟩
  refine foldlM_within (R := fun c c' : OverwatchChain A H => c'.holdings = c.holdings)
    (fun _ => rfl) (fun h h' => h'.trans h) ?_ h
  intro c reveal c' h
  rcases ensure_bind_ok.mp h with ⟨-, h⟩
  rcases okOr_bind_ok.mp h with ⟨commitHash, -, h⟩
  rcases ensure_bind_ok.mp h with ⟨-, h⟩
  cases h
  rfl

end OverwatchChain

namespace Proxy

/-! ## Calls of the network pallet -/

namespace Network

variable {n : Network A H} {ε : Type}

/-- A call that fails keeps everything, so it is enough to look at those that succeed. -/
theorem commitChain_holdings {x : Except ε (Chain A)}
    (hx : ∀ c, x = .ok c → c.holdings = n.holdings) : (n.commitChain x).holdings = n.holdings :=
  commit_induction (P := fun c : Chain A => c.holdings = n.holdings) rfl hx

theorem commitStaking_holdings {x : Except ε (State A)}
    (hx : ∀ s, x = .ok s → s.holdings = n.holdings) : (n.commitStaking x).holdings = n.holdings :=
  commit_induction (P := fun s : State A => s.holdings = n.holdings) rfl hx

theorem commitCollective_holdings {x : Except ε (CollectiveChain A)}
    (hx : ∀ c, x = .ok c → c.holdings = n.holdings) :
    (n.commitCollective x).holdings = n.holdings :=
  commit_induction (P := fun c : CollectiveChain A => c.holdings = n.holdings) rfl hx

theorem commitSettings_holdings {x : Except ε (SettingsChain A)}
    (hx : ∀ c, x = .ok c → c.holdings = n.holdings) : (n.commitSettings x).holdings = n.holdings :=
  commit_induction (P := fun c : SettingsChain A => c.holdings = n.holdings) rfl hx

theorem commitFactors_holdings {x : Except ε (FactorChain A)}
    (hx : ∀ c, x = .ok c → c.holdings = n.holdings) : (n.commitFactors x).holdings = n.holdings :=
  commit_induction (P := fun c : FactorChain A => c.holdings = n.holdings) rfl hx

theorem commitOverwatch_holdings {x : Except ε (OverwatchChain A H)}
    (hx : ∀ c, x = .ok c → c.holdings = n.holdings) : (n.commitOverwatch x).holdings = n.holdings :=
  commit_induction (P := fun c : OverwatchChain A H => c.holdings = n.holdings) rfl hx

end Network

variable [DecidableEq A] [DecidableEq H] {rt : Runtime A} {hash : ℕ × List UInt8 → H}

/-- A call that is not one about values keeps all holdings. -/
theorem NetworkCall.step_holdings {call : NetworkCall A H} (hvalue : call.isNetworkValueCall = false)
    (n : Network A H) : (call.step rt hash n).holdings = n.holdings := by
  cases call with
  | staking call => cases hvalue
  | validator call =>
      exact Network.commitStaking_holdings fun _ h => validatorCall_holdings h
  | updateValidatorIdentity coldkey validatorId =>
      exact Network.commitStaking_holdings fun _ h => updateValidatorIdentity_holdings h
  | registerSubnet owner maxCost d => cases hvalue
  | activateSubnet coldkey subnetId => cases hvalue
  | ownerPauseSubnet coldkey subnetId =>
      exact Network.commitChain_holdings fun _ h => Chain.ownerPauseSubnet_holdings h
  | ownerUnpauseSubnet coldkey subnetId =>
      exact Network.commitChain_holdings fun _ h => Chain.ownerUnpauseSubnet_holdings h
  | ownerDeactivateSubnet coldkey subnetId => cases hvalue
  | ownerUpdateName coldkey subnetId value =>
      exact Network.commitChain_holdings fun _ h => Chain.ownerUpdateName_holdings h
  | ownerUpdateRepo coldkey subnetId value =>
      exact Network.commitChain_holdings fun _ h => Chain.ownerUpdateRepo_holdings h
  | ownerUpdateText coldkey subnetId =>
      exact Network.commitChain_holdings fun _ h => Chain.ownerUpdateText_holdings h
  | update k coldkey subnetId value =>
      exact Network.commitSettings_holdings fun _ h => SettingsChain.update_holdings h
  | ownerUpdateChurnLimitMultiplier coldkey subnetId value =>
      exact Network.commitChain_holdings fun _ h => Chain.ownerUpdateChurnLimitMultiplier_holdings h
  | ownerUpdateIdleClassificationEpochs coldkey subnetId value =>
      exact Network.commitCollective_holdings fun _ h => updateIdleClassificationEpochs_holdings h
  | ownerAddOrUpdateInitialValidators coldkey subnetId validators =>
      exact Network.commitChain_holdings fun _ h =>
        Chain.ownerAddOrUpdateInitialValidators_holdings h
  | ownerRemoveInitialValidators coldkey subnetId validators =>
      exact Network.commitChain_holdings fun _ h => Chain.ownerRemoveInitialValidators_holdings h
  | ownerSetEmergencyValidatorSet coldkey subnetId ids =>
      exact Network.commitChain_holdings fun _ h => Chain.ownerSetEmergencyValidatorSet_holdings h
  | ownerRevertEmergencyValidatorSet coldkey subnetId =>
      exact Network.commitChain_holdings fun _ h =>
        Chain.ownerRevertEmergencyValidatorSet_holdings h
  | ownerUpdateMinMaxStake coldkey subnetId min max => cases hvalue
  | ownerUpdateDelegateStakePercentage coldkey subnetId value => cases hvalue
  | transferSubnetOwnership coldkey subnetId newOwner => cases hvalue
  | acceptSubnetOwnership coldkey subnetId => cases hvalue
  | ownerAddBootnodeAccess coldkey subnetId newAccount =>
      exact Network.commitSettings_holdings fun _ h =>
        SettingsChain.ownerAddBootnodeAccess_holdings h
  | ownerRemoveBootnodeAccess coldkey subnetId removeAccount =>
      exact Network.commitSettings_holdings fun _ h =>
        SettingsChain.ownerRemoveBootnodeAccess_holdings h
  | ownerUpdateNodeBurnRateAlpha coldkey subnetId value => cases hvalue
  | ownerUpdateReputationFactors coldkey subnetId updates =>
      exact Network.commitFactors_holdings fun _ h => ownerUpdateReputationFactors_holdings h
  | updateBootnodes accountId subnetId add remove =>
      exact Network.commitSettings_holdings fun _ h => SettingsChain.updateBootnodes_holdings h
  | registerSubnetNode coldkey r => cases hvalue
  | updateNodeHotkey coldkey subnetId subnetNodeId newHotkey =>
      exact Network.commitChain_holdings fun _ h => Chain.updateNodeHotkey_holdings h
  | updateNode coldkey subnetId subnetNodeId u =>
      exact Network.commitChain_holdings fun _ h => Chain.updateNodeCall_holdings h
  | removeSubnetNode coldkey subnetId subnetNodeId => cases hvalue
  | proposeAttestation hotkey subnetId subnetNodeId data prioritize remove args attestData =>
      exact Network.commitChain_holdings fun _ h => Chain.proposeAttestation_holdings h
  | attest hotkey subnetId subnetNodeId data =>
      exact Network.commitChain_holdings fun _ h => Chain.attest_holdings h
  | registerOverwatchNode coldkey stakeToBeAdded => cases hvalue
  | removeOverwatchNode coldkey overwatchNodeId => cases hvalue
  | updateOverwatchHotkey coldkey overwatchNodeId newHotkey =>
      exact Network.commitOverwatch_holdings fun _ h =>
        OverwatchChain.updateOverwatchHotkey_holdings h
  | setOverwatchNodePeerId key subnetId overwatchNodeId peerId =>
      exact Network.commitOverwatch_holdings fun _ h =>
        OverwatchChain.setOverwatchNodePeerId_holdings h
  | commitOverwatchSubnetWeights hotkey overwatchNodeId commitWeights =>
      exact Network.commitOverwatch_holdings fun _ h =>
        OverwatchChain.commitOverwatchSubnetWeights_holdings h
  | revealOverwatchSubnetWeights hotkey overwatchNodeId reveals =>
      exact Network.commitOverwatch_holdings fun _ h =>
        OverwatchChain.revealOverwatchSubnetWeights_holdings h
  | collective => rfl

/-- In every run of calls of the network pallet that a proxy of type `NonTransfer` may make, for
whomever it acts, all holdings stay as they are. -/
theorem non_transfer_keeps_holdings {K : Type} (calls : List (NetworkCall A H))
    (hfilter : ∀ call ∈ calls,
      ProxyType.nonTransfer.filter (.network call : RuntimeCall A H K) = true)
    (n : Network A H) :
    (run (NetworkCall.step rt hash) n calls).holdings = n.holdings := by
  have hvalue : Along (NetworkCall.step rt hash)
      (fun _ call => call.isNetworkValueCall = false) n calls := by
    apply along_of_forall
    intro _ call hmem
    have hnot : (!call.isNetworkValueCall) = true := hfilter call hmem
    simpa using hnot
  exact run_invariant (I := fun m : Network A H => m.holdings = n.holdings)
    (fun m call hcall h => (call.step_holdings hcall m).trans h) hvalue rfl

/-! ## Atomic swaps -/

section Swaps

variable {K E W : Type} [DecidableEq K] {cfg : Swap.Config A K Swap.BalanceSwapAction E W}
  {currency : Swap.Currency A E W} {elsewhere : W → A → ℕ}
  {s : Swap.State A K Swap.BalanceSwapAction W}

omit [DecidableEq H] in
/-- A proxy of type `NonTransfer` may put aside for anyone all that `source` can reserve. Whatever
happens meanwhile, as long as the swap is pending whoever knows the secret can claim it for the
target, and the whole amount is the target's. -/
theorem non_transfer_swaps (hlaw : currency.Lawful elsewhere)
    (hcfg : cfg.swapAction = Swap.balanceSwapAction currency) (hstart : s.Explained currency elsewhere)
    {source target : A} {proof : List UInt8} {hashType : Swap.HashType} {value : ℕ}
    {world : W}
    (hnew : s.pendingSwaps.find? (target, cfg.hash hashType proof) = none)
    (hlimit : proof.length ≤ cfg.proofLimit)
    (hreserve : currency.reserve source value s.world = .ok world) (duration : ℕ)
    (ops : List (Swap.Op A K Swap.BalanceSwapAction W)) :
    let create : SwapCall A K :=
      .createSwap target (cfg.hash hashType proof) hashType ⟨value⟩ duration
    let claim : SwapCall A K := .claimSwap proof hashType ⟨value⟩
    let opened := (create.op source).step cfg s
    let later := run (Swap.Op.step cfg) opened ops
    let claimed := (claim.op target).step cfg later
    ProxyType.nonTransfer.filter (.atomicSwap create : RuntimeCall A H K) = true ∧
    currency.free opened.world source + value = currency.free s.world source ∧
    (Along (Swap.Op.step cfg) (fun s op => op.Accounts currency elsewhere s) opened ops →
      later.pendingSwaps.find? (target, cfg.hash hashType proof) =
        some (s.newSwap source hashType ⟨value⟩ duration) →
      (∃ world', currency.repatriateReserved source target value later.world = .ok world') →
      currency.free claimed.world target = currency.free later.world target + value) := by
  intro create claim opened later claimed
  have hcall : s.createSwap cfg (.signed source) target (cfg.hash hashType proof) hashType ⟨value⟩
      duration = .ok { s with
        pendingSwaps := s.pendingSwaps.set (target, cfg.hash hashType proof)
          (s.newSwap source hashType ⟨value⟩ duration)
        events := s.events ++ [.newSwap target (cfg.hash hashType proof)
          (s.newSwap source hashType ⟨value⟩ duration) hashType]
        world := world } := by
    unfold Swap.State.createSwap
    rw [bind_ok]
    refine ⟨source, rfl, ?_⟩
    rw [ensure_bind_ok]
    constructor
    · rw [StorageMap.contains, hnew]
      rfl
    · rw [bind_ok]
      refine ⟨world, ?_, rfl⟩
      rw [hcfg]
      change (currency.reserve source value s.world).mapError _ = _
      rw [hreserve]
      rfl
  constructor
  · rfl
  constructor
  · have hworld : opened.world = world := by
      change (commit s (s.createSwap cfg _ _ _ _ _ _)).world = world
      rw [hcall]
      rfl
    rcases hlaw.reserve hreserve with ⟨henough, hfree, -, -⟩
    rw [hworld, hfree, Function.update_self]
    omega
  · rintro haccounts hpending ⟨world', hrepatriate⟩
    have hopened : opened.Explained currency elsewhere := hstart.step hlaw hcfg trivial
    have hlater : later.Explained currency elsewhere :=
      run_invariant (fun _ _ hop h => h.step hlaw hcfg hop) haccounts hopened
    -- what is pending is still reserved, whatever happened meanwhile
    have henough : value ≤ currency.reserved later.world source := hlater.value_le hpending
    have hclaim : later.claimSwap cfg (.signed target) proof hashType ⟨value⟩ =
        .ok (later.claimed target (cfg.hash hashType proof)
          (cfg.swapAction.claim ⟨value⟩ source target later.world)) :=
      Swap.claimSwap_ok_iff.mpr ⟨target, _, rfl, hlimit, hpending, rfl, rfl⟩
    have hworld : claimed.world = world' := by
      change (commit later (later.claimSwap cfg _ _ _ _)).world = world'
      rw [hclaim, hcfg]
      change (Swap.SwapAction.claim (Swap.balanceSwapAction currency) _ _ _ _).1 = world'
      simp only [Swap.balanceSwapAction, hrepatriate]
    rcases hlaw.repatriate hrepatriate with ⟨hfree, -, -⟩
    rw [hworld, hfree, Function.update_self, Nat.min_eq_left henough]

end Swaps

/-! ## An example -/

/-- A chain on which account 10 has registered a subnet. -/
def demoProxyChain : Network ℕ ℕ where
  toSettingsChain := demoSettings (demoHandover.take 1)
  subnetOwnerFactorCooldownEpochs := 2
  maxNodeReputationFactor := 500000000000000000
  totalOverwatchNodes := 0
  totalOverwatchNodeUids := 0
  overwatchNodeIdHotkey := ∅
  overwatchNodeIndex := ∅
  overwatchValidatorWhitelist := ∅
  overwatchCommits := ∅
  maxOverwatchNodes := 64
  overwatchCommitCutoffPercent := 800000000000000000
  overwatchMinDiversificationRatio := 0
  overwatchMinRepScore := 0
  overwatchMinAvgAttestationRatio := 0
  overwatchMinAge := 0

/-- A proxy registers a validator for account 5, and sets the churn limit for account 10. -/
def demoProxied : List (NetworkCall ℕ ℕ) :=
  [.validator (.registerValidator 5 6 0 none), .update .churnLimit 10 128001 8,
    .ownerUpdateReputationFactors 10 128001 demoUpdate, .collective]

/-- The calls do something: the churn limit is set. -/
theorem non_transfer_keeps_holdings_demo :
    let after := run (NetworkCall.step Runtime.runtime Prod.fst) demoProxyChain demoProxied
    after.holdings = demoProxyChain.holdings ∧
      (after.settings.stored .churnLimit).find? 128001 = some 8 := by
  constructor
  · apply non_transfer_keeps_holdings (K := ℕ)
    intro call hmem
    simp only [demoProxied, List.mem_cons, List.not_mem_nil, or_false] at hmem
    rcases hmem with rfl | rfl | rfl | rfl
    · rfl
    · rfl
    · rfl
    · rfl
  · decide +kernel

/-- Account 1 loses 5 to account 2, which a block later claims it. -/
theorem non_transfer_swaps_demo :
    let create : SwapCall ℕ ℕ := .createSwap 2 30 .blake2256 ⟨5⟩ 10
    let opened := (create.op 1).step Swap.demoConfig Swap.demoGenesis
    let later := Swap.Op.step Swap.demoConfig opened .nextBlock
    let claimed := Swap.Op.step Swap.demoConfig later
      (.claimSwap (.signed 2) [10, 20] .blake2256 ⟨5⟩)
    ProxyType.nonTransfer.filter (.atomicSwap create : RuntimeCall ℕ ℕ ℕ) = true ∧
      opened.world.free 1 + 5 = 100 ∧ claimed.world.free 2 = 105 := by
  intro create opened later claimed
  have hnew : Swap.demoGenesis.pendingSwaps.find? (2, Swap.demoConfig.hash .blake2256 [10, 20]) =
      none := rfl
  have hreserve : Swap.demoCurrency.reserve 1 5 Swap.demoGenesis.world = .ok opened.world := rfl
  rcases non_transfer_swaps (H := ℕ) Swap.demoCurrency_lawful rfl Swap.demoGenesis_explained hnew
    (by decide) hreserve 10 [.nextBlock] with ⟨hfilter, hpaid, hclaimed⟩
  exact ⟨hfilter, hpaid, hclaimed ⟨trivial, trivial⟩ rfl ⟨_, rfl⟩⟩

end Proxy

end Hypertensor
