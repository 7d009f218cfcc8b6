import Mathlib
import Hypertensor.Base.Inverse
import Hypertensor.Lifecycle.Directory

/-!
# Hypertensor.Lifecycle.Names — no two subnets share a name

`SubnetName` and `SubnetRepo` lead from a name and a repository to the subnet that has it.
They are written where a subnet registers, is renamed or is removed, each time by the record
of the subnet in `SubnetsData`.

* `Directory.Named`: the two maps are indexes of the records.
* `Directory.Named.step`: every step of the directory keeps it.
* `subnet_names_exact`: so it holds along every run, and what a subnet gives up is free.
-/

namespace Hypertensor

open Base StorageMap

namespace Directory

variable {d d' : Directory} {D L i : ℕ} {data : SubnetData}

/-- The names and the repositories lead to the subnets that have them, and no subnet has an id
that has not been given out. -/
structure Named (d : Directory) : Prop where
  names : d.subnetName.IndexOf SubnetData.name d.subnetsData
  repos : d.subnetRepo.IndexOf SubnetData.repo d.subnetsData
  issued : ∀ i, d.subnetsData.find? i ≠ none → i ≤ d.totalSubnetUids

/-! ## What one step keeps -/

theorem nextSubnetId_eq (hleft : d.totalSubnetUids < u32Max) :
    d.nextSubnetId = d.totalSubnetUids + 1 := by
  unfold nextSubnetId
  omega

/-- The next id is nobody's. -/
theorem Named.next_none (h : d.Named) (hleft : d.totalSubnetUids < u32Max) :
    d.subnetsData.find? d.nextSubnetId = none := by
  by_contra hsome
  have hissued := h.issued _ hsome
  rw [nextSubnetId_eq hleft] at hissued
  omega

theorem Named.register (h : d.Named) {slot : ℕ} (hname : d.subnetName.find? data.name = none)
    (hrepo : d.subnetRepo.find? data.repo = none) (hleft : d.totalSubnetUids < u32Max) :
    (d.register D slot data).Named := by
  have hnext := h.next_none hleft
  refine ⟨h.names.insert hnext hname, h.repos.insert hnext hrepo, ?_⟩
  intro j hj
  simp only [Directory.register, StorageMap.find?_set, nextSubnetId_eq hleft] at hj ⊢
  split at hj
  · -- the new subnet has the id just given out
    omega
  · exact (h.issued j hj).trans (Nat.le_succ _)

/-- Writing over a record brings no id. -/
theorem Named.issued_setData (h : d.Named) (hdata : d.subnetsData.find? i = some data)
    (data' : SubnetData) (j : ℕ) (hj : (d.subnetsData.set i data').find? j ≠ none) :
    j ≤ d.totalSubnetUids := by
  rw [StorageMap.find?_set] at hj
  split at hj
  · next heq =>
      rw [heq]
      exact h.issued i (by simp [hdata])
  · exact h.issued j hj

theorem Named.phase (h : d.Named) (hdata : d.subnetsData.find? i = some data) (state : SubnetState)
    (startEpoch : ℕ) :
    (d.setData i { data with state := state, startEpoch := startEpoch }).Named :=
  ⟨h.names.keep hdata rfl, h.repos.keep hdata rfl, h.issued_setData hdata _⟩

/-- The old name goes and the new one comes, for the same subnet. -/
theorem Named.rename (h : d.Named) (hdata : d.subnetsData.find? i = some data)
    {name : List UInt8} (hname : d.subnetName.find? name = none) : (d.rename i data name).Named := by
  have hrekeyed := h.names.rekey (q := { data with name := name }) hdata hname
  exact ⟨hrekeyed, h.repos.keep hdata rfl, h.issued_setData hdata _⟩

theorem Named.changeRepo (h : d.Named) (hdata : d.subnetsData.find? i = some data)
    {repo : List UInt8} (hrepo : d.subnetRepo.find? repo = none) :
    (d.changeRepo i data repo).Named := by
  have hrekeyed := h.repos.rekey (q := { data with repo := repo }) hdata hrepo
  exact ⟨h.names.keep hdata rfl, hrekeyed, h.issued_setData hdata _⟩

theorem Named.remove (h : d.Named) (hdata : d.subnetsData.find? i = some data) :
    (d.remove i data).Named := by
  constructor
  · rw [remove_subnetName, remove_subnetsData]
    exact h.names.erase hdata
  · rw [remove_subnetRepo, remove_subnetsData]
    exact h.repos.erase hdata
  · intro j hj
    rw [remove_subnetsData, StorageMap.find?_remove] at hj
    rw [remove_totalSubnetUids]
    split at hj
    · exact absurd rfl hj
    · exact h.issued j hj

/-- Every step keeps the names. -/
theorem Named.step (h : d.Step D L d') (hd : d.Named) : d'.Named := by
  cases h with
  | register hname hrepo _ _ _ hleft => exact hd.register hname hrepo hleft
  | phase state startEpoch hdata => exact hd.phase hdata state startEpoch
  | rename hdata hname => exact hd.rename hdata hname
  | changeRepo hdata hrepo => exact hd.changeRepo hdata hrepo
  | removes h => exact h.invariant (fun hdata hI => hI.remove hdata) hd

/-- A step gives out only names and repositories that were free. -/
theorem Step.refills (h : d.Step D L d') :
    Refills d.subnetName d'.subnetName ∧ Refills d.subnetRepo d'.subnetRepo := by
  have hname := Refills.refl d.subnetName
  have hrepo := Refills.refl d.subnetRepo
  cases h with
  | register hfree hfree' _ _ _ _ => exact ⟨hname.set hfree _, hrepo.set hfree' _⟩
  | phase _ _ _ => exact ⟨hname, hrepo⟩
  | rename _ hfree => exact ⟨(hname.remove _).set hfree _, hrepo⟩
  | changeRepo _ hfree => exact ⟨hname, (hrepo.remove _).set hfree _⟩
  | removes h =>
      -- a removal gives out nothing, however many follow
      refine h.invariant (I := fun u => Refills d.subnetName u.subnetName ∧
        Refills d.subnetRepo u.subnetRepo) ?_ ⟨hname, hrepo⟩
      intro u i data _ hu
      rw [remove_subnetName, remove_subnetRepo]
      exact ⟨hu.1.remove _, hu.2.remove _⟩

end Directory

/-! ## Runs -/

/-- A new chain has no subnets. -/
theorem Chain.genesis_named {A : Type} (rt : Runtime A) (balances : StorageMap A ℕ) :
    (Chain.genesis rt balances).directory.Named where
  names := indexOf_empty SubnetData.name
  repos := indexOf_empty SubnetData.repo
  issued := by
    intro i hi
    exact absurd rfl hi

/-- Along every run of registrations, renamings, removals and whatever else happens, in which
registrations find an id: `SubnetName` leads from a name to a subnet exactly when the record of
the subnet has that name, and `SubnetRepo` likewise. So no two subnets share a name or a
repository, and in the next step a name or a repository is free once its subnet is gone or has
another one. -/
theorem subnet_names_exact {A : Type} [DecidableEq A] (rt : Runtime A) (balances : StorageMap A ℕ)
    (ops : List (SubnetOp A))
    (hleft : Along (SubnetOp.step rt) (fun c op => op.IdsLeft c) (.genesis rt balances) ops) :
    let c := run (SubnetOp.step rt) (.genesis rt balances) ops
    (∀ b s, c.registry.subnetName.find? b = some s ↔
      ∃ d, c.subnets.subnetsData.find? s = some d ∧ d.name = b) ∧
    (∀ b s, c.registry.subnetRepo.find? b = some s ↔
      ∃ d, c.subnets.subnetsData.find? s = some d ∧ d.repo = b) ∧
    (∀ s t d e, c.subnets.subnetsData.find? s = some d → c.subnets.subnetsData.find? t = some e →
      s ≠ t → d.name ≠ e.name ∧ d.repo ≠ e.repo) ∧
    ∀ op : SubnetOp A, op.IdsLeft c → ∀ s d, c.subnets.subnetsData.find? s = some d →
      let c' := op.step rt c
      ((∀ d', c'.subnets.subnetsData.find? s = some d' → d'.name ≠ d.name) →
        c'.registry.subnetName.find? d.name = none) ∧
      ((∀ d', c'.subnets.subnetsData.find? s = some d' → d'.repo ≠ d.repo) →
        c'.registry.subnetRepo.find? d.repo = none) := by
  intro c
  have h : c.directory.Named :=
    SubnetOp.run_directory (fun hstep hd => Directory.Named.step hstep hd) hleft
      (Chain.genesis_named rt balances)
  refine ⟨fun b s => h.names.find?_iff, fun b s => h.repos.find?_iff, ?_, ?_⟩
  · intro s t d e hd he hne
    constructor
    · intro heq
      exact hne (h.names.injective hd he heq)
    · intro heq
      exact hne (h.repos.injective hd he heq)
  · intro op hop s d hd c'
    have hstep : c.directory.Step rt.designatedEpochSlots rt.epochLength c'.directory :=
      SubnetOp.step_directory hop
    have h' : c'.directory.Named := Directory.Named.step hstep h
    -- what a name led to is either kept or given up, and not given to somebody else at once
    obtain ⟨hnames, hrepos⟩ := hstep.refills
    exact ⟨h.names.free h'.names hnames hd, h.repos.free h'.repos hrepos hd⟩

/-- Account 10 registers a subnet and renames it twice, back to the first name; then the council
removes it, and the name and the repository are taken by another subnet. -/
def demoNames : List (SubnetOp ℕ) :=
  [.registerSubnet 10 1000000000000000000 demoSubnet, .ownerUpdateName 10 128001 [7],
    .ownerUpdateName 10 128001 [1], .collectiveRemoveSubnet 128001,
    .registerSubnet 10 3000000000000000000 demoSubnet, .ownerUpdateRepo 10 128002 [8]]

theorem subnet_names_exact_demo :
    let c := run (SubnetOp.step Runtime.runtime) (.genesis Runtime.runtime demoBalances) demoNames
    c.registry.subnetName.find? [1] = some 128002 ∧ c.registry.subnetRepo.find? [8] = some 128002 ∧
    c.registry.subnetRepo.find? [2] = none ∧
    ∀ b s, c.registry.subnetName.find? b = some s ↔
      ∃ d, c.subnets.subnetsData.find? s = some d ∧ d.name = b := by
  refine ⟨by decide +kernel, by decide +kernel, by decide +kernel, ?_⟩
  have hleft : Along (SubnetOp.step Runtime.runtime) (fun c op => op.IdsLeft c)
      (.genesis Runtime.runtime demoBalances) demoNames := by
    decide +kernel
  exact (subnet_names_exact Runtime.runtime demoBalances demoNames hleft).1

end Hypertensor
