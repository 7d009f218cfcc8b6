import Hypertensor.Base.Arith
import Hypertensor.Base.Abort
import Hypertensor.Base.Storage
import Hypertensor.Base.Inverse
import Hypertensor.Base.Indexed
import Hypertensor.Base.Run
import Hypertensor.Base.Fifo
import Hypertensor.Base.Escrow
import Hypertensor.Base.Dispatch
import Hypertensor.Base.Counter
import Hypertensor.Base.Vault
import Hypertensor.Base.Apportion
import Hypertensor.Math
import Hypertensor.State
import Hypertensor.Staking.Pool
import Hypertensor.Staking.Ledger
import Hypertensor.Staking.Queue
import Hypertensor.Staking.Calls
import Hypertensor.Staking.System
import Hypertensor.Staking.Solvency
import Hypertensor.Staking.Transfer
import Hypertensor.Staking.Ownership
import Hypertensor.Staking.Conservation
import Hypertensor.Staking.Delivery
import Hypertensor.Staking.Swaps
import Hypertensor.Staking.Unbonding
import Hypertensor.Nodes
import Hypertensor.Validators
import Hypertensor.Keys
import Hypertensor.Rewards.Payout
import Hypertensor.Rewards.Distribute
import Hypertensor.Rewards.Emission
import Hypertensor.Rewards.Capacitor
import Hypertensor.Rewards.Classes
import Hypertensor.Chain
import Hypertensor.Subnets
import Hypertensor.Staking.Issuance
import Hypertensor.Epoch.Preliminaries
import Hypertensor.Epoch.Overwatch
import Hypertensor.Epoch.Weights
import Hypertensor.Epoch.Slot
import Hypertensor.Epoch.Block
import Hypertensor.Epoch.Divisors
import Hypertensor.Consensus.Proposal
import Hypertensor.Lifecycle.Owner
import Hypertensor.Lifecycle.Registration
import Hypertensor.Lifecycle.Subnet
import Hypertensor.Lifecycle.Membership
import Hypertensor.Lifecycle.Records
import Hypertensor.Lifecycle.Store
import Hypertensor.Lifecycle.Hook
import Hypertensor.Lifecycle.Update
import Hypertensor.Lifecycle.Effects
import Hypertensor.Lifecycle.Calls
import Hypertensor.Lifecycle.System
import Hypertensor.Consensus.Protocol
import Hypertensor.Consensus.Integrity
import Hypertensor.Lifecycle.Slots
import Hypertensor.Lifecycle.Invariant
import Hypertensor.Lifecycle.Counters
import Hypertensor.Lifecycle.Pause
import Hypertensor.Lifecycle.Queue
import Hypertensor.Lifecycle.Tables
import Hypertensor.Multiaddr.Varint
import Hypertensor.Multiaddr.Verify
import Hypertensor.Lifecycle.Members
import Hypertensor.Pallet.System
import Hypertensor.Pallet.Slots
import Hypertensor.Pallet.Counts
import Hypertensor.Pallet.Phases
import Hypertensor.Pallet.Locks
import Hypertensor.Pallet.Withdrawals
import Hypertensor.Pallet.Totals
import Hypertensor.Pallet.Schedule
import Hypertensor.Base.Planned
import Hypertensor.Lifecycle.Factors
import Hypertensor.Roles
import Hypertensor.Overwatch.CommitReveal
import Hypertensor.Overwatch.Peers
import Hypertensor.Epoch.Effects
import Hypertensor.Lifecycle.Directory
import Hypertensor.Lifecycle.Names
import Hypertensor.Lifecycle.Removal
import Hypertensor.Lifecycle.Candidates
import Hypertensor.Lifecycle.Ballots
import Hypertensor.Lifecycle.Elections
import Hypertensor.Base.Radix
import Hypertensor.Multiaddr.Encode
import Hypertensor.Multiaddr.Text
import Hypertensor.Multiaddr.Words
import Hypertensor.Multiaddr.Base58
import Hypertensor.Multiaddr.RoundTrip
import Hypertensor.Multiaddr.Canonical
import Hypertensor.Base.Sweep
import Hypertensor.Migrations
import Hypertensor.Collective
import Hypertensor.Base.Position
import Hypertensor.Staking.Position
import Hypertensor.Base.Saturate
import Hypertensor.Overwatch.Rewards
import Hypertensor.Lifecycle.Activation
import Hypertensor.Rewards.Settlement
import Hypertensor.Pallet.ActiveNodes
import Hypertensor.Pallet.Admission
import Hypertensor.Pallet.QueueOrder
import Hypertensor.Pallet.Whitelist
import Hypertensor.Multiaddr.Codec
import Hypertensor.Pallet.BurnRate
import Hypertensor.Epoch.NetFlow
import Hypertensor.Rewards.Penalties
import Hypertensor.Pallet.Updates
import Hypertensor.Base.Dedup
import Hypertensor.Consensus.Canonical
import Hypertensor.Epoch.Verdicts
import Hypertensor.Lifecycle.Emergency
import Hypertensor.Pallet.Excess
import Hypertensor.Base.Reverse
import Hypertensor.Pallet.Identifiers
import Hypertensor.Base.Ballot
import Hypertensor.Council.Calls
import Hypertensor.Council.Closing
import Hypertensor.Council.Governance
import Hypertensor.Swap.Calls
import Hypertensor.Swap.Settlement
import Hypertensor.Base.Throttle
import Hypertensor.Lifecycle.Ownership
import Hypertensor.Lifecycle.Limits
import Hypertensor.Proxy.Calls
import Hypertensor.Proxy.Filter
import Hypertensor.Proxy.NonTransfer
import Hypertensor.Pallet.ProofOfStake
import Hypertensor.Proxy.Scope
import Hypertensor.RewardRate
import Hypertensor.Proxy.Standstill
