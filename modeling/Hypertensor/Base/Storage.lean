import Mathlib

/-!
# Hypertensor.Base.Storage — keyed storage with totals

A storage map holds finitely many keys with one value each. Two maps with the
same entries are equal, so "unchanged" is equality.

* `find?`, `set`, `remove` are the reads and writes of an optional entry;
  `val` reads a counter, which is `0` where nothing is stored.
* `total f` adds up `f k v` over all entries. `total_set` and `total_remove`
  say what one write does to it; every conservation argument over a map is
  built from these two.
-/

namespace Hypertensor.Base

/-- A finite map from keys to values. -/
structure StorageMap (K V : Type) where
  entries : Finmap fun _ : K => V

namespace StorageMap

variable {K V : Type} [DecidableEq K]

instance : EmptyCollection (StorageMap K V) := ⟨⟨∅⟩⟩

instance : Inhabited (StorageMap K V) := ⟨∅⟩

instance [DecidableEq V] : DecidableEq (StorageMap K V) := fun m n =>
  decidable_of_iff (m.entries = n.entries)
    ⟨fun h => by cases m; cases n; cases h; rfl, fun h => h ▸ rfl⟩

/-- The entry at `k`, if there is one. -/
def find? (m : StorageMap K V) (k : K) : Option V := m.entries.lookup k

/-- Whether an entry is stored at `k`. -/
def contains (m : StorageMap K V) (k : K) : Bool := (m.find? k).isSome

/-- Store `v` at `k`. -/
def set (m : StorageMap K V) (k : K) (v : V) : StorageMap K V := ⟨m.entries.insert k v⟩

/-- Drop the entry at `k`. -/
def remove (m : StorageMap K V) (k : K) : StorageMap K V := ⟨m.entries.erase k⟩

/-- The entry at `k`, or the default of the map. -/
def getD (m : StorageMap K V) (k : K) (d : V) : V := (m.find? k).getD d

/-- The stored keys. -/
def keys (m : StorageMap K V) : Finset K := m.entries.keys

/-- A counter: `0` where nothing is stored. -/
def val (m : StorageMap K ℕ) (k : K) : ℕ := m.getD k 0

/-- The sum of `f k v` over all entries. -/
def total (m : StorageMap K V) (f : K → V → ℕ) : ℕ :=
  ∑ k ∈ m.keys, (m.find? k).elim 0 (f k)

/-- Keep the entries that satisfy `p`. -/
def filter (m : StorageMap K V) (p : K → V → Bool) : StorageMap K V :=
  ⟨⟨m.entries.entries.filter fun e => p e.1 e.2,
    Multiset.nodup_keys.mp (Multiset.nodup_of_le
      (Multiset.map_le_map (Multiset.filter_le _ _))
      (Multiset.nodup_keys.mpr m.entries.nodupKeys))⟩⟩

/-- A finite set of numbers in ascending order. -/
def ascending (s : Finset ℕ) : List ℕ :=
  Quot.liftOn s.val (List.insertionSort (· ≤ ·)) fun _ _ h =>
    List.Perm.eq_of_pairwise' (List.pairwise_insertionSort _ _) (List.pairwise_insertionSort _ _)
      (((List.perm_insertionSort _ _).trans h).trans (List.perm_insertionSort _ _).symm)

/-- The keys in ascending order, as an ordered map iterates. -/
def ascKeys (m : StorageMap ℕ V) : List ℕ := ascending m.keys

/-- The entries in ascending order of their keys. -/
def ascEntries (m : StorageMap ℕ V) : List (ℕ × V) :=
  m.ascKeys.filterMap fun k => (m.find? k).map fun v => (k, v)

/-- The bytes of a `u32`, least significant first, read as one number. -/
def littleEndian (k : ℕ) : ℕ :=
  k % 256 * 2 ^ 24 + k / 2 ^ 8 % 256 * 2 ^ 16 + k / 2 ^ 16 % 256 * 2 ^ 8 + k / 2 ^ 24 % 256

/-- The keys in the order in which a map of unhashed `u32` keys is stored: by
their encoded bytes. -/
def storedKeys (m : StorageMap ℕ V) : List ℕ :=
  m.ascKeys.insertionSort fun a b => littleEndian a ≤ littleEndian b

/-- The entries in the order in which they are stored. -/
def storedEntries (m : StorageMap ℕ V) : List (ℕ × V) :=
  m.storedKeys.filterMap fun k => (m.find? k).map fun v => (k, v)

/-- The second keys under a first key, in the order in which a double map of
unhashed `u32` keys is stored. -/
def prefixKeys (m : StorageMap (ℕ × ℕ) V) (k : ℕ) : List ℕ :=
  (ascending ((m.keys.filter fun p => p.1 = k).image Prod.snd)).insertionSort
    fun a b => littleEndian a ≤ littleEndian b

/-- `iter_prefix_values`. -/
def prefixValues (m : StorageMap (ℕ × ℕ) V) (k : ℕ) : List V :=
  (m.prefixKeys k).filterMap fun j => m.find? (k, j)

/-- Change every value. -/
def mapValues (m : StorageMap K V) (f : V → V) : StorageMap K V :=
  ⟨⟨m.entries.entries.map fun e => ⟨e.1, f e.2⟩, by
    rw [← Multiset.nodup_keys, Multiset.keys, Multiset.map_map]
    exact Multiset.nodup_keys.mpr m.entries.nodupKeys⟩⟩

/-- Of every value only what `f` reads of it. -/
def view {W : Type} (m : StorageMap K V) (f : V → W) : StorageMap K W :=
  ⟨⟨m.entries.entries.map fun e => ⟨e.1, f e.2⟩, by
    rw [← Multiset.nodup_keys, Multiset.keys, Multiset.map_map]
    exact Multiset.nodup_keys.mpr m.entries.nodupKeys⟩⟩

/-- `clear_prefix`: drop every entry whose first key is `k`. -/
def clearPrefix {K₁ K₂ : Type} [DecidableEq K₁] (m : StorageMap (K₁ × K₂) V) (k : K₁) :
    StorageMap (K₁ × K₂) V :=
  m.filter fun p _ => decide (p.1 ≠ k)

/-- How many entries `clearPrefix` drops. -/
def prefixCount {K₁ K₂ : Type} [DecidableEq K₁] (m : StorageMap (K₁ × K₂) V) (k : K₁) : ℕ :=
  (m.keys.filter fun p => p.1 = k).card

/-! ## Reads after writes -/

theorem ext {m n : StorageMap K V} (h : ∀ k, m.find? k = n.find? k) : m = n := by
  cases m
  cases n
  congr 1
  exact Finmap.ext_lookup h

@[simp] theorem find?_empty (k : K) : (∅ : StorageMap K V).find? k = none :=
  Finmap.lookup_empty k

theorem find?_set (m : StorageMap K V) (k j : K) (v : V) :
    (m.set k v).find? j = if j = k then some v else m.find? j := by
  by_cases h : j = k
  · subst h
    rw [if_pos rfl]
    exact Finmap.lookup_insert m.entries
  · rw [if_neg h]
    exact Finmap.lookup_insert_of_ne m.entries h

@[simp] theorem find?_set_self (m : StorageMap K V) (k : K) (v : V) :
    (m.set k v).find? k = some v := by
  simp [find?_set]

@[simp] theorem find?_set_ne (m : StorageMap K V) {k j : K} (v : V) (h : j ≠ k) :
    (m.set k v).find? j = m.find? j := by
  simp [find?_set, h]

/-- The later of two writes counts. -/
@[simp] theorem set_set (m : StorageMap K V) (k : K) (v w : V) : (m.set k v).set k w = m.set k w := by
  apply ext
  intro j
  by_cases h : j = k <;> simp [h]

theorem find?_remove (m : StorageMap K V) (k j : K) :
    (m.remove k).find? j = if j = k then none else m.find? j := by
  by_cases h : j = k
  · subst h
    rw [if_pos rfl]
    exact Finmap.lookup_erase j m.entries
  · rw [if_neg h]
    exact Finmap.lookup_erase_ne h

@[simp] theorem find?_remove_self (m : StorageMap K V) (k : K) :
    (m.remove k).find? k = none := by
  simp [find?_remove]

@[simp] theorem find?_remove_ne (m : StorageMap K V) {k j : K} (h : j ≠ k) :
    (m.remove k).find? j = m.find? j := by
  simp [find?_remove, h]

theorem remove_set (m : StorageMap K V) (k : K) (v : V) : (m.set k v).remove k = m.remove k := by
  apply ext
  intro j
  rw [find?_remove, find?_remove, find?_set]
  split <;> rfl

/-- What is left of a map after the removal of some keys. -/
theorem find?_foldl_remove (m : StorageMap K V) (ks : List K) (j : K) :
    (ks.foldl remove m).find? j = if j ∈ ks then none else m.find? j := by
  induction ks generalizing m with
  | nil => rfl
  | cons k ks ih =>
      rw [List.foldl_cons, ih, find?_remove]
      by_cases hj : j = k <;> by_cases hks : j ∈ ks <;> simp [hj, hks]

@[simp] theorem val_empty (k : K) : (∅ : StorageMap K ℕ).val k = 0 := by
  simp [val, getD]

theorem val_set (m : StorageMap K ℕ) (k j : K) (v : ℕ) :
    (m.set k v).val j = if j = k then v else m.val j := by
  unfold val getD
  rw [find?_set]
  split <;> rfl

@[simp] theorem val_set_self (m : StorageMap K ℕ) (k : K) (v : ℕ) :
    (m.set k v).val k = v := by
  simp [val_set]

@[simp] theorem val_set_ne (m : StorageMap K ℕ) {k j : K} (v : ℕ) (h : j ≠ k) :
    (m.set k v).val j = m.val j := by
  simp [val_set, h]

/-- A counter is the value of its entry, with an absent entry worth nothing. -/
theorem elim_find? (m : StorageMap K ℕ) (k : K) {g : ℕ → ℕ} (hg : g 0 = 0) :
    (m.find? k).elim 0 g = g (m.val k) := by
  unfold val getD
  cases m.find? k with
  | none => simp [hg]
  | some v => rfl

/-! ## Keys -/

theorem mem_keys {m : StorageMap K V} {k : K} : k ∈ m.keys ↔ ∃ v, m.find? k = some v := by
  unfold keys find?
  rw [Finmap.mem_keys, Finmap.mem_iff]

theorem keys_set (m : StorageMap K V) (k : K) (v : V) :
    (m.set k v).keys = insert k m.keys := by
  ext j
  rw [mem_keys, Finset.mem_insert, mem_keys, find?_set]
  by_cases h : j = k <;> simp [h]

theorem keys_remove (m : StorageMap K V) (k : K) :
    (m.remove k).keys = m.keys.erase k := by
  ext j
  rw [mem_keys, Finset.mem_erase, mem_keys, find?_remove]
  by_cases h : j = k <;> simp [h]

/-! ## Ordered iteration and filtering -/

theorem ascending_coe (s : Finset ℕ) : (ascending s : Multiset ℕ) = s.val := by
  unfold ascending
  rcases s with ⟨l, _⟩
  induction l using Quot.inductionOn with
  | h l => exact Quot.sound (List.perm_insertionSort _ l)

theorem mem_ascending {s : Finset ℕ} {k : ℕ} : k ∈ ascending s ↔ k ∈ s := by
  rw [← Multiset.mem_coe, ascending_coe, Finset.mem_val]

theorem nodup_ascending (s : Finset ℕ) : (ascending s).Nodup := by
  rw [← Multiset.coe_nodup, ascending_coe]
  exact s.nodup

theorem pairwise_ascending (s : Finset ℕ) : (ascending s).Pairwise (· < ·) := by
  have hle : (ascending s).Pairwise (· ≤ ·) := by
    unfold ascending
    rcases s with ⟨l, _⟩
    induction l using Quot.inductionOn with
    | h l => exact List.pairwise_insertionSort (· ≤ ·) l
  exact hle.imp₂ (fun _ _ hle hne => lt_of_le_of_ne hle hne) (nodup_ascending s)

theorem mem_ascKeys {m : StorageMap ℕ V} {k : ℕ} : k ∈ m.ascKeys ↔ ∃ v, m.find? k = some v := by
  rw [ascKeys, mem_ascending, mem_keys]

theorem nodup_ascKeys (m : StorageMap ℕ V) : m.ascKeys.Nodup := nodup_ascending m.keys

theorem mem_ascEntries {m : StorageMap ℕ V} {k : ℕ} {v : V} :
    (k, v) ∈ m.ascEntries ↔ m.find? k = some v := by
  unfold ascEntries
  rw [List.mem_filterMap]
  constructor
  · rintro ⟨j, _, hj⟩
    rcases Option.map_eq_some_iff.mp hj with ⟨w, hw, heq⟩
    cases heq
    exact hw
  · intro h
    exact ⟨k, mem_ascKeys.mpr ⟨v, h⟩, by rw [h]; rfl⟩

theorem pairwise_ascEntries (m : StorageMap ℕ V) :
    m.ascEntries.Pairwise fun e e' => e.1 < e'.1 := by
  unfold ascEntries
  refine List.Pairwise.filterMap _ ?_ (pairwise_ascending m.keys)
  intro k k' hlt e he e' he'
  rcases Option.map_eq_some_iff.mp he with ⟨v, _, rfl⟩
  rcases Option.map_eq_some_iff.mp he' with ⟨v', _, rfl⟩
  exact hlt

theorem mem_storedEntries {m : StorageMap ℕ V} {k : ℕ} {v : V} :
    (k, v) ∈ m.storedEntries ↔ m.find? k = some v := by
  unfold storedEntries storedKeys
  rw [List.mem_filterMap]
  constructor
  · rintro ⟨j, _, hj⟩
    rcases Option.map_eq_some_iff.mp hj with ⟨w, hw, heq⟩
    cases heq
    exact hw
  · intro h
    refine ⟨k, ?_, by rw [h]; rfl⟩
    rw [List.mem_insertionSort]
    exact mem_ascKeys.mpr ⟨v, h⟩

/-- The entries have different keys. -/
theorem nodup_storedEntries (m : StorageMap ℕ V) : (m.storedEntries.map Prod.fst).Nodup := by
  unfold storedEntries storedKeys
  rw [List.nodup_iff_pairwise_ne, List.pairwise_map]
  refine List.Pairwise.filterMap _ ?_ ((List.perm_insertionSort _ _).nodup_iff.mpr
    (nodup_ascKeys m))
  intro k k' hne e he e' he'
  rcases Option.map_eq_some_iff.mp he with ⟨v, _, rfl⟩
  rcases Option.map_eq_some_iff.mp he' with ⟨v', _, rfl⟩
  exact hne

theorem mem_prefixKeys {m : StorageMap (ℕ × ℕ) V} {k j : ℕ} :
    j ∈ m.prefixKeys k ↔ ∃ v, m.find? (k, j) = some v := by
  unfold prefixKeys
  rw [List.mem_insertionSort, mem_ascending, Finset.mem_image, ← mem_keys]
  constructor
  · rintro ⟨⟨a, b⟩, hp, rfl⟩
    rw [Finset.mem_filter] at hp
    rcases hp with ⟨hmem, rfl⟩
    exact hmem
  · intro h
    exact ⟨(k, j), Finset.mem_filter.mpr ⟨h, rfl⟩, rfl⟩

theorem nodup_prefixKeys (m : StorageMap (ℕ × ℕ) V) (k : ℕ) : (m.prefixKeys k).Nodup :=
  (List.perm_insertionSort _ _).nodup_iff.mpr (nodup_ascending _)

theorem mem_prefixValues {m : StorageMap (ℕ × ℕ) V} {k : ℕ} {v : V} :
    v ∈ m.prefixValues k ↔ ∃ j, m.find? (k, j) = some v := by
  unfold prefixValues
  rw [List.mem_filterMap]
  constructor
  · rintro ⟨j, _, hj⟩
    exact ⟨j, hj⟩
  · rintro ⟨j, hj⟩
    exact ⟨j, mem_prefixKeys.mpr ⟨v, hj⟩, hj⟩

/-- Values that name their second key differ in it. -/
theorem nodup_map_prefixValues {m : StorageMap (ℕ × ℕ) V} {k : ℕ} {g : V → ℕ}
    (hg : ∀ j v, m.find? (k, j) = some v → g v = j) : ((m.prefixValues k).map g).Nodup := by
  have hkey : ∀ j b, b ∈ (m.find? (k, j)).map g → b = j := by
    intro j b hb
    rcases Option.map_eq_some_iff.mp hb with ⟨v, hv, rfl⟩
    exact hg j v hv
  unfold prefixValues
  rw [List.map_filterMap]
  refine (nodup_prefixKeys m k).filterMap ?_
  intro a a' b ha ha'
  exact (hkey a b ha).symm.trans (hkey a' b ha')

@[simp] theorem find?_view {W : Type} (m : StorageMap K V) (f : V → W) (k : K) :
    (m.view f).find? k = (m.find? k).map f := by
  rcases m with ⟨⟨l, hl⟩⟩
  induction l using Quot.inductionOn with
  | h l =>
      change List.dlookup k (l.map fun e => (⟨e.1, f e.2⟩ : Sigma fun _ => W)) =
        (List.dlookup k l).map f
      clear hl
      induction l with
      | nil => rfl
      | cons e l ih =>
          rcases e with ⟨j, v⟩
          by_cases h : k = j
          · subst h
            simp
          · rw [List.map_cons, List.dlookup_cons_ne _ _ (Ne.symm (Ne.symm h)),
              List.dlookup_cons_ne _ _ h, ih]

/-- To change every value is to read the changed ones. -/
@[simp] theorem find?_mapValues (m : StorageMap K V) (f : V → V) (k : K) :
    (m.mapValues f).find? k = (m.find? k).map f :=
  find?_view m f k

theorem find?_filter_key (m : StorageMap K V) (p : K → V → Bool) (k : K) :
    (m.filter p).find? k = (m.find? k).filter (p k) := by
  apply Option.ext
  intro v
  rw [Option.filter_eq_some_iff]
  unfold find? filter
  rw [Finmap.lookup_eq_some_iff, Finmap.lookup_eq_some_iff, Multiset.mem_filter]

/-- What is left after `clear_prefix`. -/
theorem find?_clearPrefix {K₁ K₂ : Type} [DecidableEq K₁] [DecidableEq K₂]
    (m : StorageMap (K₁ × K₂) V) (k : K₁) (p : K₁ × K₂) :
    (m.clearPrefix k).find? p = if p.1 = k then none else m.find? p := by
  unfold clearPrefix
  rw [find?_filter_key]
  by_cases h : p.1 = k
  · simp [h]
  · cases m.find? p <;> simp [h]

/-! ### Views -/

section View

variable {W : Type} (m : StorageMap K V) (f : V → W)

theorem view_set (k : K) (v : V) : (m.set k v).view f = (m.view f).set k (f v) := by
  apply ext
  intro j
  rw [find?_view, find?_set, find?_set, find?_view]
  split <;> rfl

theorem view_remove (k : K) : (m.remove k).view f = (m.view f).remove k := by
  apply ext
  intro j
  rw [find?_view, find?_remove, find?_remove, find?_view]
  split <;> rfl

/-- A value is written over of which the view reads the same. -/
theorem view_set_same {k : K} {v w : V} (hk : m.find? k = some v) (hw : f w = f v) :
    (m.set k w).view f = m.view f := by
  apply ext
  intro j
  rw [find?_view, find?_set, find?_view]
  split
  · next hj =>
      rw [hj, hk]
      exact congrArg some hw
  · rfl

theorem view_mapValues {g : V → V} (hg : ∀ v, f (g v) = f v) : (m.mapValues g).view f = m.view f := by
  apply ext
  intro j
  rw [find?_view, find?_mapValues, find?_view]
  cases m.find? j with
  | none => rfl
  | some v => exact congrArg some (hg v)

theorem view_clearPrefix {K₁ K₂ : Type} [DecidableEq K₁] [DecidableEq K₂]
    (m : StorageMap (K₁ × K₂) V) (k : K₁) : (m.clearPrefix k).view f = (m.view f).clearPrefix k := by
  apply ext
  intro j
  rw [find?_view, find?_clearPrefix, find?_clearPrefix, find?_view]
  split <;> rfl

theorem keys_view : (m.view f).keys = m.keys := by
  ext k
  rw [mem_keys, mem_keys, find?_view]
  simp

end View

theorem keys_clearPrefix {K₁ K₂ : Type} [DecidableEq K₁] [DecidableEq K₂]
    (m : StorageMap (K₁ × K₂) V) (k : K₁) :
    (m.clearPrefix k).keys = m.keys.filter fun p => p.1 ≠ k := by
  ext p
  rw [mem_keys, Finset.mem_filter, mem_keys, find?_clearPrefix]
  by_cases h : p.1 = k <;> simp [h]

/-! ## Totals -/

/-- One entry singled out of a total. -/
theorem total_split (m : StorageMap K V) (f : K → V → ℕ) (k : K) :
    m.total f = (m.find? k).elim 0 (f k) +
      ∑ j ∈ m.keys.erase k, (m.find? j).elim 0 (f j) := by
  unfold total
  by_cases hk : k ∈ m.keys
  · exact (Finset.add_sum_erase m.keys (fun j => (m.find? j).elim 0 (f j)) hk).symm
  · have hnone : m.find? k = none := by
      cases hf : m.find? k with
      | none => rfl
      | some v => exact absurd (mem_keys.mpr ⟨v, hf⟩) hk
    rw [hnone, Finset.erase_eq_of_notMem hk]
    simp

theorem total_view {W : Type} (m : StorageMap K V) (f : V → W) (g : K → W → ℕ) :
    (m.view f).total g = m.total fun k v => g k (f v) := by
  unfold total
  rw [keys_view]
  refine Finset.sum_congr rfl ?_
  intro k _
  rw [find?_view]
  cases m.find? k <;> rfl

/-- A write replaces one summand. -/
theorem total_set (m : StorageMap K V) (f : K → V → ℕ) (k : K) (v : V) :
    (m.set k v).total f + (m.find? k).elim 0 (f k) = m.total f + f k v := by
  have hrest : ∑ j ∈ (m.set k v).keys.erase k, ((m.set k v).find? j).elim 0 (f j) =
      ∑ j ∈ m.keys.erase k, (m.find? j).elim 0 (f j) := by
    rw [keys_set, Finset.erase_insert_eq_erase]
    refine Finset.sum_congr rfl ?_
    intro j hj
    rw [find?_set_ne m v (Finset.ne_of_mem_erase hj)]
  rw [total_split (m.set k v) f k, total_split m f k, hrest, find?_set_self]
  simp only [Option.elim_some]
  omega

/-- A removal drops one summand. -/
theorem total_remove (m : StorageMap K V) (f : K → V → ℕ) (k : K) :
    (m.remove k).total f + (m.find? k).elim 0 (f k) = m.total f := by
  have hrest : ∑ j ∈ (m.remove k).keys.erase k, ((m.remove k).find? j).elim 0 (f j) =
      ∑ j ∈ m.keys.erase k, (m.find? j).elim 0 (f j) := by
    rw [keys_remove, Finset.erase_idem]
    refine Finset.sum_congr rfl ?_
    intro j hj
    rw [find?_remove_ne m (Finset.ne_of_mem_erase hj)]
  rw [total_split (m.remove k) f k, total_split m f k, hrest, find?_remove_self]
  simp only [Option.elim_none]
  omega

@[simp] theorem total_empty (f : K → V → ℕ) : (∅ : StorageMap K V).total f = 0 := by
  have hkeys : (∅ : StorageMap K V).keys = ∅ := by
    ext k
    simp [mem_keys]
  simp [total, hkeys]

/-- Writing a counter replaces its summand. -/
theorem total_set_val (m : StorageMap K ℕ) (f : K → ℕ → ℕ) (k : K) (v : ℕ)
    (hf : f k 0 = 0) :
    (m.set k v).total f + f k (m.val k) = m.total f + f k v := by
  rw [← elim_find? m k hf]
  exact total_set m f k v

/-- A counter is at most the total it is part of. -/
theorem val_le_total (m : StorageMap K ℕ) (f : K → ℕ → ℕ) (k : K) (hf : f k 0 = 0) :
    f k (m.val k) ≤ m.total f := by
  rw [← elim_find? m k hf, total_split m f k]
  exact Nat.le_add_right _ _

/-! ## Counters -/

/-- The sum of all counters. -/
def sum (m : StorageMap K ℕ) : ℕ := m.total fun _ n => n

theorem sum_set (m : StorageMap K ℕ) (k : K) (v : ℕ) :
    (m.set k v).sum + m.val k = m.sum + v :=
  total_set_val m (fun _ n => n) k v rfl

theorem sum_remove (m : StorageMap K ℕ) (k : K) : (m.remove k).sum + m.val k = m.sum := by
  have h := total_remove m (fun _ n => n) k
  rwa [elim_find? m k (g := fun n => n) rfl] at h

theorem val_le_sum (m : StorageMap K ℕ) (k : K) : m.val k ≤ m.sum :=
  val_le_total m (fun _ n => n) k rfl

/-- A bound on the stored counters bounds them all. -/
theorem val_le_of_keys {m : StorageMap K ℕ} {b : ℕ} (h : ∀ k ∈ m.keys, m.val k ≤ b) (k : K) :
    m.val k ≤ b := by
  by_cases hk : k ∈ m.keys
  · exact h k hk
  · have hnone : m.find? k = none := by
      rw [mem_keys] at hk
      exact Option.eq_none_iff_forall_ne_some.mpr fun v hv => hk ⟨v, hv⟩
    simp [val, getD, hnone]

/-- A part of a map with as many keys is the whole map. -/
theorem eq_of_sub_of_card {m n : StorageMap K V}
    (hsub : ∀ k v, m.find? k = some v → n.find? k = some v)
    (hcard : m.keys.card = n.keys.card) : m = n := by
  have hkeys : m.keys ⊆ n.keys := by
    intro k hk
    rcases mem_keys.mp hk with ⟨v, hv⟩
    exact mem_keys.mpr ⟨v, hsub k v hv⟩
  have heq : m.keys = n.keys := Finset.eq_of_subset_of_card_le hkeys hcard.ge
  apply ext
  intro k
  cases hm : m.find? k with
  | some v => exact (hsub k v hm).symm
  | none =>
      cases hn : n.find? k with
      | none => rfl
      | some v =>
          have hk : k ∈ m.keys := heq ▸ mem_keys.mpr ⟨v, hn⟩
          rcases mem_keys.mp hk with ⟨w, hw⟩
          rw [hm] at hw
          cases hw

@[simp] theorem val_remove_ne (m : StorageMap K ℕ) {k j : K} (h : j ≠ k) :
    (m.remove k).val j = m.val j := by
  simp [val, getD, h]

/-- A sum of counters over any set of keys that holds all stored ones. -/
theorem sum_eq_of_subset {m : StorageMap K ℕ} {s : Finset K} (h : m.keys ⊆ s) :
    m.sum = ∑ k ∈ s, m.val k := by
  have hval : ∀ k, (m.find? k).elim 0 (fun n => n) = m.val k := fun k =>
    elim_find? m k (g := fun n => n) rfl
  unfold sum total
  simp only [hval]
  refine Finset.sum_subset h fun k _ hk => ?_
  have hnone : m.find? k = none := by
    cases hf : m.find? k with
    | none => rfl
    | some v => exact absurd (mem_keys.mpr ⟨v, hf⟩) hk
  simp [val, getD, hnone]

theorem sum_le_sum {m n : StorageMap K ℕ} (h : ∀ k, m.val k ≤ n.val k) : m.sum ≤ n.sum := by
  rw [sum_eq_of_subset (s := m.keys ∪ n.keys) Finset.subset_union_left,
    sum_eq_of_subset (s := m.keys ∪ n.keys) Finset.subset_union_right]
  exact Finset.sum_le_sum fun k _ => h k

theorem sum_lt_sum {m n : StorageMap K ℕ} (h : ∀ k, m.val k ≤ n.val k) {k : K}
    (hk : m.val k < n.val k) : m.sum < n.sum := by
  have hmem : k ∈ n.keys := by
    by_contra hnot
    have hnone : n.find? k = none := by
      cases hf : n.find? k with
      | none => rfl
      | some v => exact absurd (mem_keys.mpr ⟨v, hf⟩) hnot
    simp [val, getD, hnone] at hk
  rw [sum_eq_of_subset (s := m.keys ∪ n.keys) Finset.subset_union_left,
    sum_eq_of_subset (s := m.keys ∪ n.keys) Finset.subset_union_right]
  exact Finset.sum_lt_sum (fun j _ => h j) ⟨k, Finset.mem_union_right _ hmem, hk⟩

/-! ## A map built from a list -/

section OfList

variable {α : Type} {es : List α} {k : K}

/-- A key that is not in the list keeps its value. -/
theorem find?_foldl_set_of_notMem (key : α → K) (val : α → V) (m : StorageMap K V) (h : k ∉ es.map key) :
    (es.foldl (fun m e => m.set (key e) (val e)) m).find? k = m.find? k := by
  induction es generalizing m with
  | nil => rfl
  | cons e es ih =>
      rw [List.map_cons, List.mem_cons, not_or] at h
      rw [List.foldl_cons, ih _ h.2, find?_set_ne _ _ h.1]

/-- Where the keys of a list differ, each has its own value. -/
theorem find?_foldl_set_of_mem (key : α → K) (val : α → V) (m : StorageMap K V) (hnodup : (es.map key).Nodup)
    {e : α} (he : e ∈ es) :
    (es.foldl (fun m e => m.set (key e) (val e)) m).find? (key e) = some (val e) := by
  induction es generalizing m with
  | nil => cases he
  | cons a es ih =>
      rw [List.map_cons, List.nodup_cons] at hnodup
      rw [List.foldl_cons]
      rcases List.mem_cons.mp he with rfl | he
      · rw [find?_foldl_set_of_notMem _ _ _ hnodup.1, find?_set_self]
      · exact ih _ hnodup.2 he

/-- What such a map holds was in the map before or is in the list. -/
theorem mem_of_find?_foldl_set {es : List (K × V)} {m : StorageMap K V} {v : V}
    (h : (es.foldl (fun m e => m.set e.1 e.2) m).find? k = some v) :
    m.find? k = some v ∨ (k, v) ∈ es := by
  induction es generalizing m with
  | nil => exact Or.inl h
  | cons e es ih =>
      rcases ih h with hset | hmem
      · rw [find?_set] at hset
        split at hset
        · next hk =>
            cases hset
            right
            rw [hk]
            exact List.mem_cons_self
        · exact Or.inl hset
      · exact Or.inr (List.mem_cons_of_mem e hmem)

/-- Each entry of the list adds a key at most. -/
theorem card_keys_foldl_set_le (es : List (K × V)) (m : StorageMap K V) :
    (es.foldl (fun m e => m.set e.1 e.2) m).keys.card ≤ m.keys.card + es.length := by
  induction es generalizing m with
  | nil => exact le_rfl
  | cons e es ih =>
      calc ((e :: es).foldl (fun m e => m.set e.1 e.2) m).keys.card
          ≤ (m.set e.1 e.2).keys.card + es.length := ih _
        _ ≤ m.keys.card + 1 + es.length := by
            rw [keys_set]
            exact Nat.add_le_add_right (Finset.card_insert_le _ _) _
        _ = m.keys.card + (e :: es).length := by
            rw [List.length_cons]
            omega

/-- The sum of such a map. -/
theorem sum_foldl_set (key : α → K) (val : α → ℕ) (m : StorageMap K ℕ) (hnodup : (es.map key).Nodup)
    (hfresh : ∀ e ∈ es, m.val (key e) = 0) :
    (es.foldl (fun m e => m.set (key e) (val e)) m).sum = m.sum + (es.map val).sum := by
  induction es generalizing m with
  | nil => rfl
  | cons a es ih =>
      rw [List.map_cons, List.nodup_cons] at hnodup
      have hset := m.sum_set (key a) (val a)
      have hzero := hfresh a List.mem_cons_self
      have hrest : ∀ e ∈ es, (m.set (key a) (val a)).val (key e) = 0 := by
        intro e he
        have hne : key e ≠ key a := by
          intro heq
          exact hnodup.1 (heq ▸ List.mem_map_of_mem he)
        rw [val_set_ne _ _ hne]
        exact hfresh e (List.mem_cons_of_mem a he)
      rw [List.foldl_cons, ih _ hnodup.2 hrest, List.map_cons, List.sum_cons]
      omega

end OfList

/-! ## Counting under a first key -/

section Prefix

variable {K₁ K₂ : Type} [DecidableEq K₁] [DecidableEq K₂] {m n : StorageMap (K₁ × K₂) V}
  {k : K₁} {a : K₂} {v : V}

theorem prefixCount_congr (h : ∀ p, (n.find? p).isSome = (m.find? p).isSome) (j : K₁) :
    n.prefixCount j = m.prefixCount j := by
  have hkeys : n.keys = m.keys := by
    ext p
    rw [mem_keys, mem_keys, ← Option.isSome_iff_exists, ← Option.isSome_iff_exists, h]
  unfold prefixCount
  rw [hkeys]

theorem prefixCount_set_new (h : m.find? (k, a) = none) (j : K₁) :
    (m.set (k, a) v).prefixCount j = m.prefixCount j + if j = k then 1 else 0 := by
  have hnot : (k, a) ∉ m.keys := by
    rw [mem_keys]
    rintro ⟨w, hw⟩
    rw [h] at hw
    cases hw
  unfold prefixCount
  rw [keys_set, Finset.filter_insert]
  by_cases hj : j = k
  · subst hj
    rw [if_pos rfl, if_pos rfl, Finset.card_insert_of_notMem]
    exact fun hmem => hnot (Finset.mem_filter.mp hmem).1
  · rw [if_neg (Ne.symm hj), if_neg hj, Nat.add_zero]

theorem prefixCount_set_old (h : m.find? (k, a) = some v) (w : V) (j : K₁) :
    (m.set (k, a) w).prefixCount j = m.prefixCount j := by
  refine prefixCount_congr (fun p => ?_) j
  rw [find?_set]
  split
  · next hp => simp [hp, h]
  · rfl

theorem prefixCount_remove (h : m.find? (k, a) = some v) (j : K₁) :
    (m.remove (k, a)).prefixCount j + (if j = k then 1 else 0) = m.prefixCount j := by
  have hnone : (m.remove (k, a)).find? (k, a) = none := find?_remove_self ..
  rw [← prefixCount_set_new (v := v) hnone]
  refine prefixCount_congr (fun p => ?_) j
  rw [find?_set, find?_remove]
  split
  · next hp => simp [hp, h]
  · rfl

theorem prefixCount_remove_none (h : m.find? (k, a) = none) (j : K₁) :
    (m.remove (k, a)).prefixCount j = m.prefixCount j := by
  refine prefixCount_congr (fun p => ?_) j
  rw [find?_remove]
  split
  · next hp => simp [hp, h]
  · rfl

theorem prefixCount_clearPrefix (m : StorageMap (K₁ × K₂) V) (k j : K₁) :
    (m.clearPrefix k).prefixCount j = if j = k then 0 else m.prefixCount j := by
  have hkeys : ∀ p, p ∈ (m.clearPrefix k).keys ↔ p.1 ≠ k ∧ p ∈ m.keys := by
    intro p
    rw [mem_keys, mem_keys, find?_clearPrefix]
    by_cases hp : p.1 = k <;> simp [hp]
  unfold prefixCount
  by_cases hj : j = k
  · rw [if_pos hj, Finset.card_eq_zero, Finset.filter_eq_empty_iff]
    intro p hp heq
    exact ((hkeys p).mp hp).1 (heq.trans hj)
  · rw [if_neg hj]
    congr 1
    ext p
    rw [Finset.mem_filter, Finset.mem_filter, hkeys]
    constructor
    · rintro ⟨⟨_, hp⟩, heq⟩
      exact ⟨hp, heq⟩
    · rintro ⟨hp, heq⟩
      exact ⟨⟨heq ▸ hj, hp⟩, heq⟩

/-- Distinct second keys are counted. -/
theorem length_le_prefixCount {xs : List K₂} (hnodup : xs.Nodup)
    (h : ∀ a ∈ xs, ∃ v, m.find? (k, a) = some v) : xs.length ≤ m.prefixCount k := by
  have hinj : Function.Injective fun a : K₂ => (k, a) := fun a b hab => (Prod.mk.inj hab).2
  have hmap : (xs.map fun a => (k, a)).Nodup := hnodup.map hinj
  calc xs.length = (xs.map fun a => (k, a)).length := (List.length_map _).symm
    _ = (xs.map fun a => (k, a)).toFinset.card := (List.toFinset_card_of_nodup hmap).symm
    _ ≤ m.prefixCount k := by
        refine Finset.card_le_card fun p hp => ?_
        rw [List.mem_toFinset, List.mem_map] at hp
        rcases hp with ⟨a, ha, rfl⟩
        exact Finset.mem_filter.mpr ⟨mem_keys.mpr (h a ha), rfl⟩

end Prefix

end StorageMap

end Hypertensor.Base
