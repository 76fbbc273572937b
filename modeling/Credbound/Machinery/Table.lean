import Credbound.Machinery.FMap

/-!
# Machinery/Table — statements over a table

A table is a finite map from primary keys to rows.  A statement with a condition touches the rows
that satisfy it and reports how many there were: `update` rewrites them and `FMap.filter` keeps the
others.  `find?` is the query for a single row.
-/

namespace FMap

variable {K V : Type*} [DecidableEq K]

section Update

variable (m : FMap K V) (p : K → V → Prop) [∀ k v, Decidable (p k v)] (f : V → V)

/-- Rewrite the rows that satisfy `p`. -/
def update : FMap K V := m.mapVal fun k v => if p k v then f v else v

@[simp, grind =] theorem get?_update (k : K) :
    (m.update p f).get? k = (m.get? k).map fun v => if p k v then f v else v := get?_mapVal m _ k

/-- No row satisfies `p` exactly when a statement reports none. -/
theorem count_eq_zero : m.count p = 0 ↔ m.All fun k v => ¬ p k v := by
  rw [count, Finset.card_eq_zero, Finset.eq_empty_iff_forall_notMem]
  simp only [mem_keysWhere, not_exists, not_and]
  exact ⟨fun h k v hv => h k v hv, fun h k v hv => h k v hv⟩

variable {m p}

theorem count_ne_zero_of_get? {k : K} {v : V} (hv : m.get? k = some v) (hp : p k v) :
    m.count p ≠ 0 := fun h => (count_eq_zero m p).mp h k v hv hp

/-- A condition that only one key can meet is met once or never. -/
theorem count_eq_one_of_get? {k : K} {v : V} (hv : m.get? k = some v) (hp : p k v)
    (honly : ∀ k' v', m.get? k' = some v' → p k' v' → k' = k) : m.count p = 1 := by
  refine Finset.card_eq_one.mpr ⟨k, Finset.eq_singleton_iff_unique_mem.mpr ⟨?_, ?_⟩⟩
  · exact mem_keysWhere.mpr ⟨v, hv, hp⟩
  · intro k' hk'
    obtain ⟨v', hv', hp'⟩ := mem_keysWhere.mp hk'
    exact honly k' v' hv' hp'

theorem update_eq_self (h : m.All fun k v => p k v → f v = v) : m.update p f = m := by
  refine ext_get? fun k => ?_
  rw [get?_update]
  cases hv : m.get? k with
  | none => rfl
  | some v =>
    rw [Option.map_some]
    split
    · next hp => rw [h k v hv hp]
    · rfl

/-- Two updates that write the same are one, of the rows either touches. -/
theorem update_update {q r : K → V → Prop} [∀ k v, Decidable (q k v)] [∀ k v, Decidable (r k v)]
    (hagain : ∀ k v, p k v → q k (f v) → f (f v) = f v) (hr : ∀ k v, r k v ↔ p k v ∨ q k v) :
    (m.update p f).update q f = m.update r f := by
  refine ext_get? fun k => ?_
  rw [get?_update, get?_update, get?_update, Option.map_map]
  refine Option.map_congr fun v _ => ?_
  dsimp only [Function.comp]
  by_cases hp : p k v
  · simp only [if_pos hp, if_pos ((hr k v).mpr (.inl hp))]
    split
    · next hq => exact hagain k v hp hq
    · rfl
  · simp only [if_neg hp]
    refine if_congr ?_ rfl rfl
    rw [hr, or_iff_right hp]

end Update

section MapVal

variable {W X : Type*} {m : FMap K V}

/-- Two ways of rewriting every row agree when they do on the rows there are. -/
theorem mapVal_eq_mapVal_iff {f g : K → V → W} :
    m.mapVal f = m.mapVal g ↔ m.All fun k v => f k v = g k v := by
  constructor
  · intro h k v hv
    have hk := congrArg (get? · k) h
    rw [get?_mapVal, get?_mapVal, hv] at hk
    exact Option.some.inj hk
  · intro h
    refine ext_get? fun k => ?_
    rw [get?_mapVal, get?_mapVal]
    exact Option.map_congr fun v hv => h k v hv

theorem mapVal_mapVal (f : K → V → W) (g : K → W → X) :
    (m.mapVal f).mapVal g = m.mapVal fun k v => g k (f k v) := by
  refine ext_get? fun k => ?_
  rw [get?_mapVal, get?_mapVal, get?_mapVal, Option.map_map]
  rfl

theorem all_mapVal {f : K → V → W} {p : K → W → Prop} :
    (m.mapVal f).All p ↔ m.All fun k v => p k (f k v) := by
  constructor
  · intro h k v hv
    exact h k (f k v) ((get?_mapVal m f k).trans (congrArg _ hv))
  · intro h k w hw
    rw [get?_mapVal] at hw
    obtain ⟨v, hv, rfl⟩ := Option.map_eq_some_iff.mp hw
    exact h k v hv

end MapVal

/-- Storing at a key that is there rewrites the row. -/
theorem set_eq_mapVal {m : FMap K V} {k : K} {v : V} (h : m.get? k = some v) (w : V) :
    m.set k w = m.mapVal fun k' v' => if k' = k then w else v' := by
  refine ext_get? fun k' => ?_
  rw [get?_set, get?_mapVal]
  by_cases hk : k' = k
  · rw [if_pos hk, hk, h, Option.map_some, if_pos rfl]
  · simp only [hk, if_false, Option.map_id']

theorem mapVal_set {W : Type*} (m : FMap K V) (k : K) (v : V) (f : K → V → W) :
    (m.set k v).mapVal f = (m.mapVal f).set k (f k v) := by
  refine ext_get? fun k' => ?_
  rw [get?_mapVal, get?_set, get?_set, get?_mapVal]
  split
  · next hk => rw [hk, Option.map_some]
  · rfl

section Find

variable [LinearOrder K] {m : FMap K V} {p : K → V → Prop} [∀ k v, Decidable (p k v)]

/-- The only row that satisfies `p` is the one found. -/
theorem find?_eq_some {k : K} {v : V} (hv : m.get? k = some v) (hp : p k v)
    (honly : ∀ k' v', m.get? k' = some v' → p k' v' → k' = k) : m.find? p = some (k, v) := by
  have hkeys : m.keysWhere p = {k} := by
    refine Finset.eq_singleton_iff_unique_mem.mpr ⟨mem_keysWhere.mpr ⟨v, hv, hp⟩, fun k' hk' => ?_⟩
    obtain ⟨v', hv', hp'⟩ := mem_keysWhere.mp hk'
    exact honly k' v' hv' hp'
  rw [find?, hkeys]
  show ((m.get? k).map (Prod.mk k)) = _
  rw [hv, Option.map_some]

/-- A row is found if there is one. -/
theorem exists_find? : (∃ row, m.find? p = some row) ↔ m.Any p := by
  rw [find?]
  cases hhead : (sorted (m.keysWhere p)).head? with
  | none =>
    rw [List.head?_eq_none_iff] at hhead
    refine iff_of_false (fun ⟨_, h⟩ => nomatch h) ?_
    rintro ⟨k, v, hv, hp⟩
    exact List.not_mem_nil (hhead ▸ mem_sorted.mpr (mem_keysWhere.mpr ⟨v, hv, hp⟩))
  | some k =>
    obtain ⟨v, hv, hp⟩ := mem_keysWhere.mp (mem_sorted.mp (List.mem_of_mem_head? hhead))
    refine iff_of_true ⟨(k, v), ?_⟩ ⟨k, v, hv, hp⟩
    show (m.get? k).map (Prod.mk k) = _
    rw [hv, Option.map_some]

/-- Rewriting rows without touching the condition finds the rewritten row. -/
theorem find?_mapVal {f : K → V → V} (h : ∀ k v, m.get? k = some v → (p k (f k v) ↔ p k v)) :
    (m.mapVal f).find? p = (m.find? p).map fun e => (e.1, f e.1 e.2) := by
  have hkeys : (m.mapVal f).keysWhere p = m.keysWhere p := by
    ext k
    rw [mem_keysWhere, mem_keysWhere, get?_mapVal]
    constructor
    · rintro ⟨w, hw, hp⟩
      obtain ⟨v, hv, rfl⟩ := Option.map_eq_some_iff.mp hw
      exact ⟨v, hv, (h k v hv).mp hp⟩
    · rintro ⟨v, hv, hp⟩
      exact ⟨f k v, by rw [hv, Option.map_some], (h k v hv).mpr hp⟩
  rw [find?, find?, hkeys]
  cases (sorted (m.keysWhere p)).head? with
  | none => rfl
  | some k =>
    show ((m.mapVal f).get? k).map (Prod.mk k) = ((m.get? k).map (Prod.mk k)).map _
    rw [get?_mapVal]
    cases m.get? k <;> rfl

/-- What is found is there and satisfies the condition. -/
theorem of_find? {k : K} {v : V} (h : m.find? p = some (k, v)) : m.get? k = some v ∧ p k v := by
  rw [find?, Option.bind_eq_some_iff] at h
  obtain ⟨k', hk', he⟩ := h
  obtain ⟨v', hv', he⟩ := Option.map_eq_some_iff.mp he
  obtain ⟨rfl, rfl⟩ := Prod.mk.inj he
  obtain ⟨w, hw, hp⟩ := mem_keysWhere.mp (mem_sorted.mp (List.mem_of_head? hk'))
  obtain rfl := Option.mem_unique hw hv'
  exact ⟨hv', hp⟩

end Find

section Rows

variable {W : Type*} [LinearOrder K]

/-- The rows with their keys, in the order of the keys. -/
def rows (m : FMap K V) : List (K × V) := m.keyList.filterMap fun k => (m.get? k).map (Prod.mk k)

theorem mem_rows {m : FMap K V} {k : K} {v : V} : (k, v) ∈ m.rows ↔ m.get? k = some v := by
  simp only [rows, List.mem_filterMap, Option.map_eq_some_iff, Prod.mk.injEq]
  constructor
  · rintro ⟨_, -, _, h, rfl, rfl⟩
    exact h
  · intro h
    exact ⟨k, mem_keyList.mpr ⟨v, h⟩, v, h, rfl, rfl⟩

theorem values_eq_rows (m : FMap K V) : m.values = m.rows.map Prod.snd := by
  rw [values, rows, List.map_filterMap]
  refine List.filterMap_congr fun k _ => ?_
  cases m.get? k <;> rfl

theorem keyList_mapVal (m : FMap K V) (f : K → V → W) : (m.mapVal f).keyList = m.keyList := by
  have hkeys : (m.mapVal f).keys = m.keys := by
    ext k
    rw [Finmap.mem_keys, Finmap.mem_keys, mem_iff_get?, mem_iff_get?, get?_mapVal]
    constructor
    · rintro ⟨w, hw⟩
      obtain ⟨v, hv, -⟩ := Option.map_eq_some_iff.mp hw
      exact ⟨v, hv⟩
    · rintro ⟨v, hv⟩
      exact ⟨f k v, by rw [hv, Option.map_some]⟩
  rw [keyList, keyList, hkeys]

theorem rows_mapVal (m : FMap K V) (f : K → V → W) :
    (m.mapVal f).rows = m.rows.map fun e => (e.1, f e.1 e.2) := by
  rw [rows, rows, keyList_mapVal, List.map_filterMap]
  refine List.filterMap_congr fun k _ => ?_
  rw [get?_mapVal]
  cases m.get? k <;> rfl

end Rows

/-! ## Rows that change, keys that stay -/

/-- The two maps have the same keys, and `r` relates the values. -/
def Related (r : V → V → Prop) (m n : FMap K V) : Prop := ∀ k, Option.Rel r (m.get? k) (n.get? k)

namespace Related

variable {r : V → V → Prop} {m n l : FMap K V} {k : K} {v : V}

theorem get? (h : Related r m n) (hv : m.get? k = some v) : ∃ w, n.get? k = some w ∧ r v w := by
  have hk := h k
  rw [hv] at hk
  generalize n.get? k = x at hk
  obtain ⟨hr⟩ := hk
  exact ⟨_, rfl, hr⟩

theorem of_get? {w : V} (h : Related r m n) (hw : n.get? k = some w) : ∃ v, m.get? k = some v ∧ r v w := by
  have hk := h k
  rw [hw] at hk
  generalize m.get? k = x at hk
  obtain ⟨hr⟩ := hk
  exact ⟨_, rfl, hr⟩

theorem refl (hr : ∀ v, r v v) (m : FMap K V) : Related r m m := by
  intro k
  cases m.get? k with
  | none => exact .none
  | some v => exact .some (hr v)

theorem trans (hr : ∀ u v w, r u v → r v w → r u w) (h : Related r m n) (h' : Related r n l) :
    Related r m l := by
  intro k
  have hk := h k
  have hk' := h' k
  generalize m.get? k = x, n.get? k = y, l.get? k = z at hk hk'
  cases hk with
  | none => exact hk'
  | some hvw =>
    cases hk' with
    | some hwx => exact .some (hr _ _ _ hvw hwx)

theorem mapVal {f : K → V → V} (hf : ∀ k v, m.get? k = some v → r v (f k v)) : Related r m (m.mapVal f) := by
  intro k
  rw [get?_mapVal]
  cases hv : m.get? k with
  | none => exact .none
  | some v => exact .some (hf k v hv)

theorem modify {f : V → V} (hr : ∀ v, r v v) (hf : ∀ v, r v (f v)) : Related r m (m.modify k f) := by
  intro k'
  rw [get?_modify]
  split
  · cases m.get? k' with
    | none => exact .none
    | some v => exact .some (hf v)
  · exact refl hr m k'

end Related

end FMap
