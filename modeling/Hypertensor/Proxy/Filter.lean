import Mathlib
import Hypertensor.Proxy.Calls

/-!
# Hypertensor.Proxy.Filter — what a proxy may do

An account lets another one act for it, within the filter of a proxy type. A proxy may in turn
appoint others of a type that its own is a superset of.

* `RuntimeCall.grade`: a call is one of eight kinds, as far as filters go.
* `proxy_types_form_a_hierarchy`: `isSuperset` is the inclusion of filters, and filters that do not
  include each other have nothing in common, but for those of `NonTransfer` and `Governance`.
-/

namespace Hypertensor.Proxy

variable {A H K : Type}

/-! ## Filters -/

/-- `ProxyType`. -/
inductive ProxyType where
  | any
  | nonTransfer
  | transfer
  | subNetworkStaking
  | subNetworkDelegateStaking
  | governance
  | cancelProxy
deriving DecidableEq, Repr

instance : Fintype ProxyType where
  elems := {.any, .nonTransfer, .transfer, .subNetworkStaking, .subNetworkDelegateStaking,
    .governance, .cancelProxy}
  complete p := by cases p <;> decide

namespace NetworkCall

/-- `is_network_value_call`. -/
def isNetworkValueCall : NetworkCall A H → Bool
  | staking _ => true
  | validator call =>
      match call with
      | .updateValidatorColdkey _ _ _ => true
      | .updateValidatorDelegateRewardRate _ _ _ => true
      | .updateValidatorDelegateAccount _ _ _ _ => true
      | _ => false
  | registerSubnet _ _ _ => true
  | activateSubnet _ _ => true
  | ownerDeactivateSubnet _ _ => true
  | ownerUpdateMinMaxStake _ _ _ _ => true
  | ownerUpdateDelegateStakePercentage _ _ _ => true
  | transferSubnetOwnership _ _ _ => true
  | acceptSubnetOwnership _ _ => true
  | update k _ _ _ => decide (k = .targetNodeRegistrationsPerEpoch)
  | ownerUpdateNodeBurnRateAlpha _ _ _ => true
  | registerSubnetNode _ _ => true
  | removeSubnetNode _ _ _ => true
  | registerOverwatchNode _ _ => true
  | removeOverwatchNode _ _ => true
  | _ => false

/-- `is_network_transfer_call`. -/
def isNetworkTransferCall : NetworkCall A H → Bool
  | staking (.transferDelegateStake _ _ _ _ _) => true
  | _ => false

/-- `is_network_staking_call`. -/
def isNetworkStakingCall : NetworkCall A H → Bool
  | staking (.addNodeStake _ _ _ _) => true
  | staking (.removeNodeStake _ _ _ _) => true
  | staking (.addOverwatchNodeStake _ _ _) => true
  | staking (.removeOverwatchNodeStake _ _ _) => true
  | _ => false

/-- `is_network_delegate_staking_call`. -/
def isNetworkDelegateStakingCall : NetworkCall A H → Bool
  | staking (.addDelegateStake _ _ _ _) => true
  | staking (.removeDelegateStake _ _ _ _) => true
  | staking (.swapDelegateStake _ _ _ _ _ _) => true
  | staking (.updateSwapQueue _ _ _) => true
  | staking (.removeDelegateAccountBalance _ _) => true
  | _ => false

end NetworkCall

/-- `is_non_transfer_proxy_escape_call`. -/
def RuntimeCall.isNonTransferProxyEscapeCall : RuntimeCall A H K → Bool
  | utility => true
  | proxy .rejectAnnouncement => false
  | proxy _ => true
  | _ => false

namespace ProxyType

/-- `filter`. -/
def filter (p : ProxyType) (c : RuntimeCall A H K) : Bool :=
  match p with
  | any => true
  | nonTransfer =>
      match c with
      | .balances _ => false
      | .network call => !call.isNetworkValueCall
      | _ => !c.isNonTransferProxyEscapeCall
  | transfer =>
      match c with
      | .balances (.transferKeepAlive _ _) => true
      | .balances (.transferAllowDeath _ _) => true
      | .balances (.transferAll _ _) => true
      | .network call => call.isNetworkTransferCall
      | _ => false
  | governance =>
      match c with
      | .collective => true
      | .treasury => true
      | .utility => true
      | _ => false
  | subNetworkStaking =>
      match c with
      | .network call => call.isNetworkStakingCall
      | _ => false
  | subNetworkDelegateStaking =>
      match c with
      | .network call => call.isNetworkDelegateStakingCall
      | _ => false
  | cancelProxy =>
      match c with
      | .proxy .rejectAnnouncement => true
      | _ => false

/-- `is_superset`. -/
def isSuperset (p q : ProxyType) : Bool :=
  if p = q then true
  else
    match p, q with
    | any, _ => true
    | _, any => false
    | nonTransfer, cancelProxy => true
    | _, _ => false

end ProxyType

/-! ## Grades -/

/-- What filters tell apart. -/
inductive Grade where
  /-- Nothing but `Any` lets it through. -/
  | reserved
  | harmless
  | transfer
  | staking
  | delegateStaking
  | utility
  | governance
  | rejection
deriving DecidableEq, Repr

instance : Fintype Grade where
  elems := {.reserved, .harmless, .transfer, .staking, .delegateStaking, .utility, .governance,
    .rejection}
  complete g := by cases g <;> decide

/-- The grade of a call of the network pallet. -/
def NetworkCall.grade (call : NetworkCall A H) : Grade :=
  if call.isNetworkTransferCall then .transfer
  else if call.isNetworkStakingCall then .staking
  else if call.isNetworkDelegateStakingCall then .delegateStaking
  else if call.isNetworkValueCall then .reserved
  else .harmless

/-- The grade of a call. -/
def RuntimeCall.grade : RuntimeCall A H K → Grade
  | balances .other => .reserved
  | balances _ => .transfer
  | network call => call.grade
  | utility => .utility
  | proxy .rejectAnnouncement => .rejection
  | proxy .other => .reserved
  | collective => .governance
  | treasury => .governance
  | atomicSwap _ => .harmless
  | other => .harmless

namespace ProxyType

/-- The grades that a filter lets through. -/
def admits (p : ProxyType) (g : Grade) : Bool :=
  match p with
  | any => true
  | nonTransfer => decide (g = .harmless ∨ g = .governance ∨ g = .rejection)
  | transfer => decide (g = .transfer)
  | subNetworkStaking => decide (g = .staking)
  | subNetworkDelegateStaking => decide (g = .delegateStaking)
  | governance => decide (g = .governance ∨ g = .utility)
  | cancelProxy => decide (g = .rejection)

/-- A staking call of the network pallet is in one of the scopes, or in none. -/
theorem filter_staking (p : ProxyType) (call : Call A) :
    p.filter (.network (.staking call) : RuntimeCall A H K) =
      p.admits (NetworkCall.grade (.staking call : NetworkCall A H)) := by
  cases call with
  | _ => cases p <;> rfl

theorem filter_eq_admits (p : ProxyType) (c : RuntimeCall A H K) : p.filter c = p.admits c.grade := by
  cases c with
  | balances call => cases call <;> cases p <;> rfl
  | network call =>
      cases call with
      | staking call => exact p.filter_staking call
      | validator call => cases call <;> cases p <;> rfl
      | update k coldkey subnetId value => cases k <;> cases p <;> rfl
      | _ => cases p <;> rfl
  | proxy call => cases call <;> cases p <;> rfl
  | _ => cases p <;> rfl

/-- A call that tells the type from those that it is not within. -/
def typical [Inhabited A] : ProxyType → RuntimeCall A H K
  | any => .proxy .other
  | nonTransfer => .other
  | transfer => .balances (.transferAll default true)
  | subNetworkStaking => .network (.staking (.addNodeStake default 0 0 0))
  | subNetworkDelegateStaking => .network (.staking (.addDelegateStake .subnet default 0 0))
  | governance => .utility
  | cancelProxy => .proxy .rejectAnnouncement

theorem filter_typical [Inhabited A] (p q : ProxyType) :
    p.filter (q.typical : RuntimeCall A H K) = p.isSuperset q := by
  cases p <;> cases q <;> rfl

theorem admits_of_isSuperset : ∀ {p q : ProxyType} {g : Grade}, p.isSuperset q = true →
    q.admits g = true → p.admits g = true := by
  decide

theorem isSuperset_or_of_admits : ∀ {p q : ProxyType} {g : Grade}, p.admits g = true →
    q.admits g = true → p.isSuperset q = true ∨ q.isSuperset p = true ∨
      g = .governance ∧ (p = .nonTransfer ∧ q = .governance ∨ p = .governance ∧ q = .nonTransfer) := by
  decide

end ProxyType

/-- A proxy type is a superset of another one if and only if its filter lets through all that the
other's does. Two filters let one call through only if one is a superset of the other, or they are
those of `NonTransfer` and `Governance` and the call is one of the council or of the treasury. -/
theorem proxy_types_form_a_hierarchy [Inhabited A] (p q : ProxyType) :
    (p.isSuperset q = true ↔
      ∀ c : RuntimeCall A H K, q.filter c = true → p.filter c = true) ∧
    ∀ c : RuntimeCall A H K, p.filter c = true → q.filter c = true →
      p.isSuperset q = true ∨ q.isSuperset p = true ∨ (c = .collective ∨ c = .treasury) ∧
        (p = .nonTransfer ∧ q = .governance ∨ p = .governance ∧ q = .nonTransfer) := by
  constructor
  · constructor
    · intro hsuper c hq
      rw [ProxyType.filter_eq_admits] at hq ⊢
      exact ProxyType.admits_of_isSuperset hsuper hq
    · intro hincl
      rw [← ProxyType.filter_typical (A := A) (H := H) (K := K) p q]
      apply hincl
      rw [ProxyType.filter_typical]
      cases q <;> rfl
  · intro c hp hq
    rw [ProxyType.filter_eq_admits] at hp hq
    rcases ProxyType.isSuperset_or_of_admits hp hq with hpq | hqp | ⟨hgrade, hboth⟩
    · exact Or.inl hpq
    · exact Or.inr (Or.inl hqp)
    · refine Or.inr (Or.inr ⟨?_, hboth⟩)
      cases c with
      | collective => exact Or.inl rfl
      | treasury => exact Or.inr rfl
      | balances call => cases call <;> cases hgrade
      | network call =>
          have hnot : call.grade ≠ .governance := by
            unfold NetworkCall.grade
            split_ifs <;> decide
          exact absurd hgrade hnot
      | proxy call => cases call <;> cases hgrade
      | atomicSwap call => cases hgrade
      | utility => cases hgrade
      | other => cases hgrade

end Hypertensor.Proxy
