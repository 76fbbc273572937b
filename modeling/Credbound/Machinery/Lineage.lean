import Credbound.Machinery.Table
import Mathlib.Data.List.Chain

/-!
# Machinery/Lineage — records that replace one another

Records belong to families, and a record that has been replaced names its successor.  `Lineage` says
that the records of a family are the links of one chain, newest first: each but the newest names the
one added after it, and the newest names none.  A family keeps its lineage when it is started with
its first record (`Lineage.start`), when its newest record is replaced (`Lineage.replace`), and when
nothing happens to its rows but what `family` and `next` do not see (`Lineage.congr`).
-/

variable {K V F : Type*} [DecidableEq K]

/-- `ids`, newest first, are the records of the family `f` in `m`, each replaced by the one before
it. -/
structure Lineage (family : V → F) (next : V → Option K) (m : FMap K V) (f : F) (ids : List K) :
    Prop where
  mem_iff : ∀ k, k ∈ ids ↔ ∃ v, m.get? k = some v ∧ family v = f
  nodup : ids.Nodup
  newest : ∀ k ∈ ids.head?, ∃ v, m.get? k = some v ∧ next v = none
  chain : ids.IsChain fun newer older => ∃ v, m.get? older = some v ∧ next v = some newer

namespace Lineage

variable {family : V → F} {next : V → Option K} {m n : FMap K V} {f : F} {ids : List K} {k : K} {v : V}

theorem empty : Lineage family next (∅ : FMap K V) f [] where
  mem_iff k := by
    refine ⟨fun h => absurd h List.not_mem_nil, ?_⟩
    rintro ⟨v, hv, -⟩
    rw [FMap.get?_empty] at hv
    cases hv
  nodup := .nil
  newest _ h := by cases h
  chain := .nil

section

variable (h : Lineage family next m f ids)

include h

/-- A record that has not been replaced is the newest. -/
theorem head?_of_next_none (hv : m.get? k = some v)
    (hf : family v = f) (hnext : next v = none) : ids.head? = some k := by
  have hk : k ∈ ids := (h.mem_iff k).mpr ⟨v, hv, hf⟩
  have hchain := h.chain
  cases ids with
  | nil => exact absurd hk List.not_mem_nil
  | cons newest rest =>
    obtain rfl | hrest := List.mem_cons.mp hk
    · rfl
    -- Every record further on names a successor.
    obtain ⟨before, after, rfl⟩ := List.append_of_mem hrest
    rw [← List.cons_append, List.isChain_append] at hchain
    obtain ⟨last, hlast⟩ : ∃ last, last ∈ (newest :: before).getLast? := Option.isSome_iff_exists.mp (by simp)
    obtain ⟨w, hw, hreplaced⟩ := hchain.2.2 last hlast k rfl
    obtain rfl := Option.mem_unique hv hw
    rw [hnext] at hreplaced
    cases hreplaced

/-- At most one record of a family has not been replaced. -/
theorem eq_of_next_none {k' : K} {v' : V} (hv : m.get? k = some v)
    (hf : family v = f) (hnext : next v = none) (hv' : m.get? k' = some v') (hf' : family v' = f)
    (hnext' : next v' = none) : k = k' :=
  Option.some.inj ((h.head?_of_next_none hv hf hnext).symm.trans (h.head?_of_next_none hv' hf' hnext'))

/-- A family keeps its lineage while its rows keep their successors and no row joins it. -/
theorem congr (hto : ∀ k v, m.get? k = some v → family v = f →
      ∃ w, n.get? k = some w ∧ family w = f ∧ next w = next v)
    (hof : ∀ k w, n.get? k = some w → family w = f → ∃ v, m.get? k = some v ∧ family v = f) :
    Lineage family next n f ids where
  mem_iff k := by
    rw [h.mem_iff]
    constructor
    · rintro ⟨v, hv, hf⟩
      obtain ⟨w, hw, hfw, -⟩ := hto k v hv hf
      exact ⟨w, hw, hfw⟩
    · rintro ⟨w, hw, hf⟩
      exact hof k w hw hf
  nodup := h.nodup
  newest k hk := by
    obtain ⟨v, hv, hf⟩ := (h.mem_iff k).mp (List.mem_of_mem_head? hk)
    obtain ⟨v', hv', hnext⟩ := h.newest k hk
    obtain rfl := Option.mem_unique hv hv'
    obtain ⟨w, hw, -, hsame⟩ := hto k v hv hf
    exact ⟨w, hw, hsame.trans hnext⟩
  chain := by
    refine h.chain.imp_of_mem_imp fun newer older _ holder hlink => ?_
    obtain ⟨v, hv, hf⟩ := (h.mem_iff older).mp holder
    obtain ⟨v', hv', hnext⟩ := hlink
    obtain rfl := Option.mem_unique hv hv'
    obtain ⟨w, hw, -, hsame⟩ := hto older v hv hf
    exact ⟨w, hw, hsame.trans hnext⟩

/-- Rows that change in other respects. -/
theorem of_related {r : V → V → Prop} (hmn : FMap.Related r m n)
    (hr : ∀ v w, r v w → family w = family v ∧ next w = next v) : Lineage family next n f ids := by
  refine h.congr (fun k v hv hf => ?_) (fun k w hw hf => ?_)
  · obtain ⟨w, hw, hvw⟩ := hmn.get? hv
    obtain ⟨hfamily, hnext⟩ := hr v w hvw
    exact ⟨w, hw, hfamily.trans hf, hnext⟩
  · obtain ⟨v, hv, hvw⟩ := hmn.of_get? hw
    exact ⟨v, hv, (hr v w hvw).1.symm.trans hf⟩

/-- A new row of another family. -/
theorem set_other (hk : k ∉ m) (hv : family v ≠ f) : Lineage family next (m.set k v) f ids := by
  refine h.congr (fun j w hw hf => ⟨w, FMap.get?_set_new hk hw, hf, rfl⟩) (fun j w hw hf => ⟨w, ?_, hf⟩)
  obtain ⟨rfl, rfl⟩ | ⟨-, hw⟩ := FMap.get?_set_eq_some.mp hw
  · exact absurd hf hv
  · exact hw

/-- A change of a row of another family. -/
theorem modify_other {g : V → V} (hv : m.get? k = some v)
    (hf : family v ≠ f) (hg : family (g v) = family v) : Lineage family next (m.modify k g) f ids := by
  rw [FMap.modify_of_get? hv]
  refine h.congr (fun j w hw hfw => ⟨w, ?_, hfw, rfl⟩) (fun j w hw hfw => ⟨w, ?_, hfw⟩)
  · rwa [FMap.get?_set_ne]
    rintro rfl
    obtain rfl := Option.mem_unique hv hw
    exact hf hfw
  · obtain ⟨rfl, rfl⟩ | ⟨-, hw⟩ := FMap.get?_set_eq_some.mp hw
    · exact absurd (hg.symm.trans hfw) hf
    · exact hw

/-- **A new family** is its first record. -/
theorem start (hnew : m.All fun _ w => family w ≠ family v) (hf : family v = f) (hnext : next v = none) :
    Lineage family next (m.set k v) f (k :: ids) := by
  have hnil : ids = [] := by
    refine List.eq_nil_iff_forall_not_mem.mpr fun j hj => ?_
    obtain ⟨w, hw, hfw⟩ := (h.mem_iff j).mp hj
    exact hnew j w hw (hfw.trans hf.symm)
  subst hnil
  constructor
  · intro j
    rw [List.mem_singleton, FMap.get?_set]
    split
    next hjk => exact ⟨fun _ => ⟨v, rfl, hf⟩, fun _ => hjk⟩
    next hjk =>
      refine ⟨fun h => absurd h hjk, ?_⟩
      rintro ⟨w, hw, hfw⟩
      exact absurd (hfw.trans hf.symm) (hnew j w hw)
  · exact List.nodup_singleton k
  · rintro j ⟨⟩
    exact ⟨v, FMap.get?_set_self m k v, hnext⟩
  · exact .singleton k

/-- **Replacing the newest record** puts its successor in front. -/
theorem replace {g : V → V} {old : K} {w : V}
    (hw : m.get? old = some w) (hfw : family w = f) (hunused : next w = none)
    (hg : family (g w) = f) (hlink : next (g w) = some k) (hk : k ∉ m) (hf : family v = f)
    (hnext : next v = none) : Lineage family next ((m.modify old g).set k v) f (k :: ids) := by
  have hhead := h.head?_of_next_none hw hfw hunused
  rw [FMap.modify_of_get? hw]
  have hnew : ∀ {j u}, m.get? j = some u → j ≠ k := by
    rintro j u hu rfl
    exact hk (FMap.mem_of_get? hu)
  have hold : ((m.set old (g w)).set k v).get? old = some (g w) := by
    rw [FMap.get?_set_ne _ _ (hnew hw), FMap.get?_set_self]
  have hrow : ∀ {j u}, m.get? j = some u → j ≠ old → ((m.set old (g w)).set k v).get? j = some u := by
    intro j u hu hj
    rw [FMap.get?_set_ne _ _ (hnew hu), FMap.get?_set_ne _ _ hj, hu]
  constructor
  · intro j
    rw [List.mem_cons, h.mem_iff]
    constructor
    · rintro (rfl | ⟨u, hu, hfu⟩)
      · exact ⟨v, FMap.get?_set_self _ _ _, hf⟩
      · by_cases hj : j = old
        · subst hj
          exact ⟨g w, hold, hg⟩
        · exact ⟨u, hrow hu hj, hfu⟩
    · rintro ⟨u, hu, hfu⟩
      obtain ⟨hjk, -⟩ | ⟨-, hu⟩ := FMap.get?_set_eq_some.mp hu
      · exact .inl hjk
      · obtain ⟨rfl, -⟩ | ⟨-, hu⟩ := FMap.get?_set_eq_some.mp hu
        · exact .inr ⟨w, hw, hfw⟩
        · exact .inr ⟨u, hu, hfu⟩
  · refine List.nodup_cons.mpr ⟨fun hmem => ?_, h.nodup⟩
    obtain ⟨u, hu, -⟩ := (h.mem_iff k).mp hmem
    exact hnew hu rfl
  · rintro j ⟨⟩
    exact ⟨v, FMap.get?_set_self _ _ _, hnext⟩
  · -- The new link is the first one; the others are links between rows that stay.
    cases ids with
    | nil => exact .singleton k
    | cons newest rest =>
      obtain rfl : newest = old := Option.some.inj hhead
      refine List.isChain_cons_cons.mpr ⟨⟨g w, hold, hlink⟩, ?_⟩
      refine h.chain.imp_of_mem_tail_imp fun newer older _ holder hlinks => ?_
      obtain ⟨u, hu, hreplaced⟩ := hlinks
      refine ⟨u, hrow hu ?_, hreplaced⟩
      rintro rfl
      exact (List.nodup_cons.mp h.nodup).1 holder

end

end Lineage
