import Mathlib.Data.Finmap
import Mathlib.Data.List.Sort
import Mathlib.Data.Finset.Card

/-!
# Machinery/FMap — finite maps without an iteration order

`FMap K V` is Mathlib's `Finmap` at a constant family.  A program's map is read with `get?`, read
with a default for absent keys (`getI`), written (`set`, `del`, `modify`), rewritten or pruned
entry by entry (`mapVal`, `filter`), searched (`Any`, `count`) and, where the program sorts what it
ranges over, listed in key order (`keyList`).  Each operation comes with the one equation that says
what `get?` sees afterwards, and `ext_get?` turns these equations into equality of maps.
-/

/-- A finite map from `K` to `V`.  It carries no order of its entries, so nothing defined on it can
depend on one. -/
abbrev FMap (K V : Type*) := Finmap fun _ : K => V

namespace FMap

variable {K V W : Type*} [DecidableEq K]

/-! ## Reading and writing one key -/

/-- The value at a key, if there is one. -/
def get? (m : FMap K V) (k : K) : Option V := Finmap.lookup k m

/-- The value at a key, or the default of the type when the key is absent. -/
def getI [Inhabited V] (m : FMap K V) (k : K) : V := (m.get? k).getD default

/-- Store a value at a key. -/
def set (m : FMap K V) (k : K) (v : V) : FMap K V := Finmap.insert k v m

/-- Remove a key; removing an absent key does nothing. -/
def del (m : FMap K V) (k : K) : FMap K V := Finmap.erase k m

/-- Rewrite the value at a key; an absent key stays absent. -/
def modify (m : FMap K V) (k : K) (f : V → V) : FMap K V :=
  match m.get? k with
  | some v => m.set k (f v)
  | none => m

/-- Two maps that answer every key alike are equal. -/
theorem ext_get? {m n : FMap K V} (h : ∀ k, m.get? k = n.get? k) : m = n := Finmap.ext_lookup h

variable {m : FMap K V} {k : K} {p : K → V → Prop} {v : V}

theorem mem_iff_get? : k ∈ m ↔ ∃ v, m.get? k = some v := Finmap.mem_iff

theorem get?_eq_none : m.get? k = none ↔ k ∉ m := Finmap.lookup_eq_none

theorem mem_of_get? (h : m.get? k = some v) : k ∈ m := mem_iff_get?.mpr ⟨v, h⟩

@[simp, grind =] theorem get?_empty (k : K) : (∅ : FMap K V).get? k = none := Finmap.lookup_empty k

@[grind =] theorem get?_set (m : FMap K V) (k k' : K) (v : V) :
    (m.set k v).get? k' = if k' = k then some v else m.get? k' := by
  by_cases h : k' = k
  · subst h
    rw [if_pos rfl]
    exact Finmap.lookup_insert m
  · rw [if_neg h]
    exact Finmap.lookup_insert_of_ne m h

@[simp] theorem get?_set_self (m : FMap K V) (k : K) (v : V) : (m.set k v).get? k = some v :=
  Finmap.lookup_insert m

theorem get?_set_ne (m : FMap K V) {k' : K} (v : V) (h : k' ≠ k) :
    (m.set k v).get? k' = m.get? k' := Finmap.lookup_insert_of_ne m h

@[grind =] theorem get?_del (m : FMap K V) (k k' : K) :
    (m.del k).get? k' = if k' = k then none else m.get? k' := by
  by_cases h : k' = k
  · subst h
    rw [if_pos rfl]
    exact Finmap.lookup_erase k' m
  · rw [if_neg h]
    exact Finmap.lookup_erase_ne h

@[simp] theorem get?_del_self (m : FMap K V) (k : K) : (m.del k).get? k = none := Finmap.lookup_erase k m

theorem get?_set_eq_some {k' : K} {w : V} :
    (m.set k v).get? k' = some w ↔ k' = k ∧ w = v ∨ k' ≠ k ∧ m.get? k' = some w := by
  rw [get?_set]
  split <;> simp_all [eq_comm]

theorem get?_del_eq_some {k' : K} : (m.del k).get? k' = some v ↔ k' ≠ k ∧ m.get? k' = some v := by
  rw [get?_del]
  split <;> simp_all

/-- A new key leaves the others as they are. -/
theorem get?_set_new {k' : K} {w : V} (hk : k ∉ m) (h : m.get? k' = some w) : (m.set k v).get? k' = some w :=
  (get?_set_ne m v fun heq : k' = k => hk (heq ▸ mem_of_get? h)).trans h

theorem mem_set {k' : K} (h : k' ∈ m) : k' ∈ m.set k v := Finmap.mem_insert.mpr (.inr h)

@[grind =] theorem get?_modify (m : FMap K V) (k k' : K) (f : V → V) :
    (m.modify k f).get? k' = if k' = k then (m.get? k').map f else m.get? k' := by
  unfold modify
  split <;> rename_i hv
  · rw [get?_set]
    split <;> simp_all
  · split <;> simp_all

theorem modify_of_get? (h : m.get? k = some v) (f : V → V) : m.modify k f = m.set k (f v) := by
  rw [modify, h]

theorem mem_modify {k' : K} {f : V → V} : k' ∈ m.modify k f ↔ k' ∈ m := by
  rw [mem_iff_get?, mem_iff_get?, get?_modify]
  split
  · simp only [Option.map_eq_some_iff, exists_eq_right', exists_comm]
  · rfl

theorem set_set (m : FMap K V) (k : K) (v w : V) : (m.set k v).set k w = m.set k w := Finmap.insert_insert m

/-- Removing an absent key changes nothing. -/
theorem del_of_get?_none (h : m.get? k = none) : m.del k = m := ext_get? fun k' => by
    rw [get?_del]
    split <;> simp_all

theorem getI_of_get? [Inhabited V] (h : m.get? k = some v) : m.getI k = v := by simp [getI, h]

theorem getI_of_get?_none [Inhabited V] (h : m.get? k = none) : m.getI k = default := by simp [getI, h]

/-- Changing what is read, where the change leaves the default alone. -/
theorem getI_modify [Inhabited V] (m : FMap K V) (k : K) {f : V → V} (hf : f default = default) :
    (m.modify k f).getI k = f (m.getI k) := by
  rw [getI, getI, get?_modify, if_pos rfl]
  cases m.get? k with
  | none => exact hf.symm
  | some v => rfl

/-- A key that is read as something other than the default is there. -/
theorem get?_of_getI_ne [Inhabited V] (h : m.getI k ≠ default) : m.get? k = some (m.getI k) := by
  cases hm : m.get? k with
  | none => exact absurd (getI_of_get?_none hm) h
  | some v => rw [getI_of_get? hm]

/-! ## Rewriting and pruning every entry -/

/-- Rewrite every value, the key in hand. -/
def mapVal (m : FMap K V) (f : K → V → W) : FMap K W where
  entries := m.entries.map fun e => ⟨e.1, f e.1 e.2⟩
  nodupKeys := by
    rw [← Multiset.nodup_keys, Multiset.keys, Multiset.map_map]
    exact m.nodupKeys.nodup_keys

/-- Keep the entries that satisfy `p`. -/
def filter (m : FMap K V) (p : K → V → Prop) [∀ k v, Decidable (p k v)] : FMap K V where
  entries := m.entries.filter fun e => p e.1 e.2
  nodupKeys := by
    rw [← Multiset.nodup_keys]
    exact Multiset.nodup_of_le (Multiset.map_le_map (Multiset.filter_le _ _)) m.nodupKeys.nodup_keys

theorem get?_eq_some : m.get? k = some v ↔ ⟨k, v⟩ ∈ m.entries := Finmap.lookup_eq_some_iff

@[simp, grind =] theorem get?_mapVal (m : FMap K V) (f : K → V → W) (k : K) :
    (m.mapVal f).get? k = (m.get? k).map (f k) := by
  ext w
  rw [get?_eq_some, Option.map_eq_some_iff]
  simp only [mapVal, Multiset.mem_map, get?_eq_some]
  constructor
  · rintro ⟨⟨k', v⟩, hv, he⟩
    obtain ⟨rfl, rfl⟩ : k' = k ∧ f k' v = w := by simpa using he
    exact ⟨v, hv, rfl⟩
  · rintro ⟨v, hv, rfl⟩
    exact ⟨⟨k, v⟩, hv, rfl⟩

theorem mapVal_id (m : FMap K V) : (m.mapVal fun _ v => v) = m :=
  ext_get? fun k => by rw [get?_mapVal, Option.map_id']

@[grind =] theorem get?_filter (m : FMap K V) (p : K → V → Prop) [∀ k v, Decidable (p k v)] (k : K) :
    (m.filter p).get? k = (m.get? k).filter fun v => p k v := by
  ext v
  rw [get?_eq_some, Option.filter_eq_some_iff, get?_eq_some]
  simp [filter]

/-- Entries that are filtered out may change, as long as they stay so. -/
theorem filter_modify [∀ k v, Decidable (p k v)] {f : V → V} (h : ∀ v, m.get? k = some v → ¬ p k v ∧ ¬ p k (f v)) :
    (m.modify k f).filter p = m.filter p := by
  refine ext_get? fun k' => ?_
  rw [get?_filter, get?_filter, get?_modify]
  split
  case isTrue heq =>
    subst heq
    cases hv : m.get? k' with
    | none => rfl
    | some v => simp [Option.filter, h v hv]
  case isFalse => rfl

theorem filter_set [∀ k v, Decidable (p k v)] (hold : ∀ w, m.get? k = some w → ¬ p k w) (hnew : ¬ p k v) :
    (m.set k v).filter p = m.filter p := by
  refine ext_get? fun k' => ?_
  rw [get?_filter, get?_filter, get?_set]
  split
  case isTrue heq =>
    subst heq
    cases hw : m.get? k' with
    | none => simp [Option.filter, hnew]
    | some w => simp [Option.filter, hnew, hold w hw]
  case isFalse => rfl

/-! ## Searching -/

/-- Some entry satisfies `p`. -/
def Any (m : FMap K V) (p : K → V → Prop) : Prop := ∃ k v, m.get? k = some v ∧ p k v

/-- Every entry satisfies `p`. -/
def All (m : FMap K V) (p : K → V → Prop) : Prop := ∀ k v, m.get? k = some v → p k v

instance (m : FMap K V) (p : K → V → Prop) [∀ k v, Decidable (p k v)] : Decidable (m.Any p) :=
  @decidable_of_iff _ (∃ e ∈ m.entries, p e.1 e.2)
    ⟨fun ⟨e, he, hp⟩ => ⟨e.1, e.2, get?_eq_some.mpr he, hp⟩,
      fun ⟨k, v, hv, hp⟩ => ⟨⟨k, v⟩, get?_eq_some.mp hv, hp⟩⟩
    (Multiset.decidableExistsMultiset (p := fun e : Σ _ : K, V => p e.1 e.2))

instance (m : FMap K V) (p : K → V → Prop) [∀ k v, Decidable (p k v)] : Decidable (m.All p) :=
  decidable_of_iff (∀ e ∈ m.entries, p e.1 e.2)
    ⟨fun h k v hv => h ⟨k, v⟩ (get?_eq_some.mp hv),
      fun h e he => h e.1 e.2 (get?_eq_some.mpr he)⟩

namespace All

variable {m : FMap K V} {p : K → V → Prop}

theorem empty : (∅ : FMap K V).All p := fun k v h => by
  rw [get?_empty] at h
  cases h

theorem set (h : m.All p) (hv : p k v) : (m.set k v).All p := by
  intro k' v' hk'
  obtain ⟨rfl, rfl⟩ | ⟨-, hk'⟩ := get?_set_eq_some.mp hk'
  · exact hv
  · exact h k' v' hk'

theorem del (h : m.All p) (k : K) : (m.del k).All p := fun k' v' hk' => h k' v' (get?_del_eq_some.mp hk').2

theorem modify (h : m.All p) (k : K) {f : V → V} (hf : ∀ v, p k v → p k (f v)) : (m.modify k f).All p := by
  intro k' v' hk'
  rw [get?_modify] at hk'
  split at hk'
  · next hk =>
    obtain ⟨v, hv, rfl⟩ := Option.map_eq_some_iff.mp hk'
    exact hk ▸ hf v (hk ▸ h k' v hv)
  · exact h k' v' hk'

theorem mapVal (h : m.All p) {q : K → W → Prop} {f : K → V → W}
    (hf : ∀ k v, p k v → q k (f k v)) : (m.mapVal f).All q := by
  intro k w hk
  rw [get?_mapVal] at hk
  obtain ⟨v, hv, rfl⟩ := Option.map_eq_some_iff.mp hk
  exact hf k v (h k v hv)

end All

/-- The keys whose value satisfies `p`. -/
def keysWhere (m : FMap K V) (p : K → V → Prop) [∀ k v, Decidable (p k v)] : Finset K :=
  (m.filter p).keys

/-- How many entries satisfy `p`. -/
def count (m : FMap K V) (p : K → V → Prop) [∀ k v, Decidable (p k v)] : Nat :=
  (m.keysWhere p).card

theorem mem_keysWhere [∀ k v, Decidable (p k v)] : k ∈ m.keysWhere p ↔ ∃ v, m.get? k = some v ∧ p k v := by
  rw [keysWhere, Finmap.mem_keys, mem_iff_get?, get?_filter]
  simp [Option.filter_eq_some_iff]

/-- Of at least two entries that satisfy `p`, one has a key other than `k`. -/
theorem exists_ne_of_one_lt_count [∀ k v, Decidable (p k v)] (h : 1 < m.count p) (k : K) :
    ∃ k' v, k' ≠ k ∧ m.get? k' = some v ∧ p k' v := by
  obtain ⟨k', hk', hne⟩ := Finset.exists_mem_ne h k
  obtain ⟨v, hv, hp⟩ := mem_keysWhere.mp hk'
  exact ⟨k', v, hne, hv, hp⟩

/-! ## Listing in key order -/

section Ordered

variable [LinearOrder K]

/-- The elements of a finite set in increasing order.  Insertion sort is structurally recursive, so
the list is computed by reduction. -/
def sorted (s : Finset K) : List K :=
  Quot.liftOn s.val (List.insertionSort (· ≤ ·)) fun _ _ h =>
    ((List.perm_insertionSort _ _).trans (h.trans (List.perm_insertionSort _ _).symm)).eq_of_pairwise'
      (List.pairwise_insertionSort _ _) (List.pairwise_insertionSort _ _)

omit [DecidableEq K] in
@[simp] theorem mem_sorted {s : Finset K} : k ∈ sorted s ↔ k ∈ s := by
  obtain ⟨⟨l⟩, h⟩ := s
  exact List.mem_insertionSort _

omit [DecidableEq K] in
theorem nodup_sorted (s : Finset K) : (sorted s).Nodup := by
  obtain ⟨⟨l⟩, h⟩ := s
  exact (List.perm_insertionSort _ _).nodup_iff.mpr h

/-- The keys in increasing order. -/
def keyList (m : FMap K V) : List K := sorted m.keys

theorem mem_keyList : k ∈ m.keyList ↔ ∃ v, m.get? k = some v := by
  rw [keyList, mem_sorted, Finmap.mem_keys, mem_iff_get?]

omit [DecidableEq K] in
theorem nodup_keyList (m : FMap K V) : m.keyList.Nodup := nodup_sorted _

/-- The values in the order of their keys. -/
def values (m : FMap K V) : List V := m.keyList.filterMap m.get?

theorem mem_values : v ∈ m.values ↔ ∃ k, m.get? k = some v := by
  simp only [values, List.mem_filterMap, mem_keyList]
  exact ⟨fun ⟨k, _, h⟩ => ⟨k, h⟩, fun ⟨k, h⟩ => ⟨k, ⟨v, h⟩, h⟩⟩

/-- The first entry, in key order, that satisfies `p`.  Where at most one entry does, the order
plays no part. -/
def find? (m : FMap K V) (p : K → V → Prop) [∀ k v, Decidable (p k v)] : Option (K × V) :=
  (sorted (m.keysWhere p)).head?.bind fun k => (m.get? k).map (Prod.mk k)

end Ordered

end FMap
