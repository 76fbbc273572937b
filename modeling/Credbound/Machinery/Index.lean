import Credbound.Machinery.FMap

/-!
# Machinery/Index — an index over a table

A table keeps rows by key; an **index** finds some of them again by a name the row carries.  `name`
says under which name a row is filed, if under any, and `val` what is found there: the key of the
row, or a column of it.  `Files` says that the index and the table agree in both directions.

Storing, rewriting or deleting a row changes the index at two names at most, that of the old row and
that of the new one.  `Files.set` and `Files.del` ask for the new index at every name and for nobody
else to be filed under those two; in an index that finds keys, nobody else ever is
(`Files.alone`).
-/

variable {K V I W : Type} [DecidableEq K] [DecidableEq I]

/-- The index without the old name, and with the new one. -/
def FMap.refile (index : FMap I W) (old new : Option I) (w : W) : FMap I W :=
  let index := old.elim index index.del
  new.elim index fun i => index.set i w

theorem FMap.get?_refile (index : FMap I W) (old new : Option I) (w : W) (i : I) :
    (index.refile old new w).get? i
      = if new = some i then some w else if old = some i then none else index.get? i := by
  unfold FMap.refile
  cases new <;> cases old <;> simp [FMap.get?_set, FMap.get?_del, eq_comm]

/-- The index finds exactly the rows of the table, each under its name. -/
def Files (name : V → Option I) (val : K → V → W) (table : FMap K V) (index : FMap I W) : Prop :=
  ∀ i w, index.get? i = some w ↔ ∃ k v, table.get? k = some v ∧ name v = some i ∧ val k v = w

/-- No row but that at `k` is filed under `i`. -/
def Alone (name : V → Option I) (table : FMap K V) (k : K) (i : I) : Prop :=
  ∀ k' v, table.get? k' = some v → name v = some i → k' = k

namespace Files

variable {name : V → Option I} {val : K → V → W} {table : FMap K V} {index : FMap I W}

theorem empty : Files name val (∅ : FMap K V) (∅ : FMap I W) := by
  intro i w
  rw [FMap.get?_empty]
  refine ⟨fun h => (by cases h), ?_⟩
  rintro ⟨k, v, h, -⟩
  rw [FMap.get?_empty] at h
  cases h

variable {k : K} {v : V}

/-- A row that is filed is found. -/
theorem get?_of_row (h : Files name val table index) {i : I} (hrow : table.get? k = some v) (hname : name v = some i) :
    index.get? i = some (val k v) :=
  (h i (val k v)).mpr ⟨k, v, hrow, hname, rfl⟩

/-- Where nothing is found, nobody is filed. -/
theorem ne_of_get?_none (h : Files name val table index) {i : I} (hi : index.get? i = none)
    (hrow : table.get? k = some v) : name v ≠ some i := by
  intro hname
  rw [h.get?_of_row hrow hname] at hi
  cases hi

/-- In an index of keys, a filed row is alone under its name. -/
theorem alone {index : FMap I K} (h : Files name (fun k _ => k) table index) {i : I} (hrow : table.get? k = some v)
    (hname : name v = some i) : Alone name table k i := by
  intro k' v' hrow' hname'
  have hk := h.get?_of_row hrow hname
  rw [h.get?_of_row hrow' hname'] at hk
  exact Option.some.inj hk

/-- **Storing a row.**  The old row at the key leaves its name, the new one takes its own. -/
theorem set (h : Files name val table index) {index' : FMap I W}
    (hold : ∀ v₀ i, table.get? k = some v₀ → name v₀ = some i → Alone name table k i)
    (hnew : ∀ i, name v = some i → Alone name table k i)
    (hindex : ∀ i, index'.get? i = if name v = some i then some (val k v)
      else if ∃ v₀ ∈ table.get? k, name v₀ = some i then none else index.get? i) :
    Files name val (table.set k v) index' := by
  intro i w
  rw [hindex]
  by_cases hi : name v = some i
  · rw [if_pos hi]
    constructor
    · intro hw
      exact ⟨k, v, FMap.get?_set_self _ _ _, hi, Option.some.inj hw⟩
    · rintro ⟨k', v', hrow, hname, rfl⟩
      obtain ⟨rfl, rfl⟩ | ⟨hk, hrow⟩ := FMap.get?_set_eq_some.mp hrow
      · rfl
      · exact absurd (hnew i hi k' v' hrow hname) hk
  · rw [if_neg hi]
    split
    · next hleft =>
      obtain ⟨v₀, hv₀, hname₀⟩ := hleft
      refine ⟨fun hw => (by cases hw), ?_⟩
      rintro ⟨k', v', hrow, hname, -⟩
      obtain ⟨rfl, rfl⟩ | ⟨hk, hrow⟩ := FMap.get?_set_eq_some.mp hrow
      · exact absurd hname hi
      · exact absurd (hold v₀ i hv₀ hname₀ k' v' hrow hname) hk
    · next hkept =>
      rw [h i w]
      constructor
      · rintro ⟨k', v', hrow, hname, hval⟩
        have hk : k' ≠ k := by
          rintro rfl
          exact hkept ⟨v', hrow, hname⟩
        exact ⟨k', v', (FMap.get?_set_ne _ _ hk).trans hrow, hname, hval⟩
      · rintro ⟨k', v', hrow, hname, hval⟩
        obtain ⟨rfl, rfl⟩ | ⟨-, hrow⟩ := FMap.get?_set_eq_some.mp hrow
        · exact absurd hname hi
        · exact ⟨k', v', hrow, hname, hval⟩

/-- One row and its name. -/
theorem singleton {i : I} (hname : name v = some i) :
    Files name val ((∅ : FMap K V).set k v) ((∅ : FMap I W).set i (val k v)) := by
  refine empty.set (fun _ _ hrow => by cases hrow) (fun _ _ _ _ hrow => by cases hrow) fun i' => ?_
  rw [FMap.get?_set, hname]
  simp [eq_comm (a := i')]

/-- **Refiling a row** in an index of keys: its old name is dropped and its new one added, which nobody else
has. -/
theorem refile {index : FMap I K} (h : Files name (fun k _ => k) table index)
    (hnew : ∀ i k', name v = some i → index.get? i = some k' → k' = k) :
    Files name (fun k _ => k) (table.set k v) (index.refile ((table.get? k).bind name) (name v) k) := by
  refine h.set (fun v₀ i hrow hname => h.alone hrow hname) (fun i hi k' v' hrow hname => ?_) fun i => ?_
  · exact hnew i k' hi (h.get?_of_row hrow hname)
  · rw [FMap.get?_refile]
    refine if_congr Iff.rfl rfl (if_congr ?_ rfl rfl)
    simp only [Option.bind_eq_some_iff, Option.mem_def]

/-- **Deleting a row.**  It leaves its name. -/
theorem del (h : Files name val table index) {index' : FMap I W}
    (hold : ∀ v₀ i, table.get? k = some v₀ → name v₀ = some i → Alone name table k i)
    (hindex : ∀ i, index'.get? i = if ∃ v₀ ∈ table.get? k, name v₀ = some i then none else index.get? i) :
    Files name val (table.del k) index' := by
  intro i w
  rw [hindex]
  split
  · next hleft =>
    obtain ⟨v₀, hv₀, hname₀⟩ := hleft
    refine ⟨fun hw => (by cases hw), ?_⟩
    rintro ⟨k', v', hrow, hname, -⟩
    obtain ⟨hk, hrow⟩ := FMap.get?_del_eq_some.mp hrow
    exact absurd (hold v₀ i hv₀ hname₀ k' v' hrow hname) hk
  · next hkept =>
    rw [h i w]
    constructor
    · rintro ⟨k', v', hrow, hname, hval⟩
      have hk : k' ≠ k := by
        rintro rfl
        exact hkept ⟨v', hrow, hname⟩
      exact ⟨k', v', FMap.get?_del_eq_some.mpr ⟨hk, hrow⟩, hname, hval⟩
    · rintro ⟨k', v', hrow, hname, hval⟩
      exact ⟨k', v', (FMap.get?_del_eq_some.mp hrow).2, hname, hval⟩

/-- **Rewriting rows** without changing what the index reads of them. -/
theorem of_same (h : Files name val table index) {table' : FMap K V}
    (hsame : ∀ k, (table'.get? k).map (fun v => (name v, val k v))
      = (table.get? k).map fun v => (name v, val k v)) :
    Files name val table' index := by
  intro i w
  rw [h i w]
  refine exists_congr fun k => ?_
  have hk := hsame k
  cases ht : table.get? k <;> cases ht' : table'.get? k <;> simp_all

/-- …one of them. -/
theorem set_same (h : Files name val table index) {v' : V} (hrow : table.get? k = some v) (hname : name v' = name v)
    (hval : val k v' = val k v) : Files name val (table.set k v') index := by
  refine h.of_same fun i => ?_
  rw [FMap.get?_set]
  split
  · next hi => rw [hi, hrow, Option.map_some, Option.map_some, hname, hval]
  · rfl

end Files
