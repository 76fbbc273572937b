import Credbound.Machinery.FMap

/-!
# Machinery/Registry — records filed under their own key, and the edits of such a map

A registry is a map whose records carry their key.  An `Edit` is one write to it: a new record, a record
written anew as a whole, or a change of one record in place.  Edits keep the records filed
(`Edit.filed`), and they keep a mark of the record under one key as long as none of them takes the mark
off (`Edit.marked`).  A registry `Grows` when records are added and changed along a relation, and none is
removed or written over.
-/

universe u v

namespace Registry

variable {K : Type u} {V : Type v} [DecidableEq K]

/-- Every record is filed under its own key. -/
def Filed (key : V → K) (m : FMap K V) : Prop := m.All fun k v => key v = k

/-- The record under `k` exists and is marked. -/
def Marked (mark : V → Prop) (k : K) (m : FMap K V) : Prop := ∃ v, m.get? k = some v ∧ mark v

/-- **One write to a registry** that takes the mark off nothing under `k`. -/
inductive Edit (key : V → K) (mark : V → Prop) (k : K) (m : FMap K V) : FMap K V → Prop
  | same : Edit key mark k m m
  | create (v : V) (hnew : key v ∉ m) : Edit key mark k m (m.set (key v) v)
  | rewrite (v : V) (hmark : key v = k → mark v) : Edit key mark k m (m.set (key v) v)
  | change (k' : K) (f : V → V) (hkey : ∀ v, key (f v) = key v)
      (hmark : k' = k → ∀ v, mark v → mark (f v)) : Edit key mark k m (m.modify k' f)

variable {key : V → K} {mark : V → Prop} {k : K} {m m' : FMap K V}

theorem Edit.filed (h : Edit key mark k m m') (hm : Filed key m) : Filed key m' := by
  cases h with
  | same => exact hm
  | create v hnew => exact FMap.All.set hm rfl
  | rewrite v hmark => exact FMap.All.set hm rfl
  | change k' f hkey hmark => exact FMap.All.modify hm k' fun v hv => (hkey v).trans hv

/-- **A mark stays** under the edits that do not take it off. -/
theorem Edit.marked (h : Edit key mark k m m') (hm : Marked mark k m) : Marked mark k m' := by
  obtain ⟨v, hv, hmarked⟩ := hm
  cases h with
  | same => exact ⟨v, hv, hmarked⟩
  | create w hnew => exact ⟨v, FMap.get?_set_new hnew hv, hmarked⟩
  | rewrite w hmark =>
    by_cases hk : key w = k
    · exact ⟨w, hk ▸ FMap.get?_set_self m (key w) w, hmark hk⟩
    · exact ⟨v, (FMap.get?_set_ne m w (Ne.symm hk)).trans hv, hmarked⟩
  | change k' f hkey hmark =>
    by_cases hk : k' = k
    · refine ⟨f v, ?_, hmark hk v hmarked⟩
      rw [FMap.get?_modify, if_pos hk.symm, hv, Option.map_some]
    · refine ⟨v, ?_, hmarked⟩
      rw [FMap.get?_modify, if_neg (Ne.symm hk), hv]

/-! ## Registries that grow -/

/-- **The registry has grown**: every record is still there, as a `later` version of it. -/
structure Grows (key : V → K) (later : V → V → Prop) (m m' : FMap K V) : Prop where
  kept : ∀ k v, m.get? k = some v → ∃ v', m'.get? k = some v' ∧ later v v'
  filed : Filed key m → Filed key m'

namespace Grows

variable {later : V → V → Prop}

theorem of_eq (hrefl : ∀ v, later v v) (h : m' = m) : Grows key later m m' := by
  subst h
  exact ⟨fun k v hv => ⟨v, hv, hrefl v⟩, id⟩

theorem trans {m'' : FMap K V} (htrans : ∀ a b c, later a b → later b c → later a c)
    (h : Grows key later m m') (h' : Grows key later m' m'') : Grows key later m m'' := by
  refine ⟨fun k v hv => ?_, h'.filed ∘ h.filed⟩
  obtain ⟨w, hw, hvw⟩ := h.kept k v hv
  obtain ⟨x, hx, hwx⟩ := h'.kept k w hw
  exact ⟨x, hx, htrans v w x hvw hwx⟩

theorem create (hrefl : ∀ v, later v v) (v : V) (hnew : key v ∉ m) : Grows key later m (m.set (key v) v) :=
  ⟨fun _ w hw => ⟨w, FMap.get?_set_new hnew hw, hrefl w⟩, fun hm => FMap.All.set hm rfl⟩

theorem map {f : K → V → V} (hkey : ∀ k v, key (f k v) = key v) (hlater : ∀ k v, later v (f k v)) :
    Grows key later m (m.mapVal f) := by
  refine ⟨fun k v hv => ⟨f k v, ?_, hlater k v⟩, fun hm => FMap.All.mapVal hm fun k v hv => ?_⟩
  · rw [FMap.get?_mapVal, hv, Option.map_some]
  · exact (hkey k v).trans hv

theorem change (k : K) {f : V → V} (hrefl : ∀ v, later v v) (hkey : ∀ v, key (f v) = key v)
    (hlater : ∀ v, later v (f v)) : Grows key later m (m.modify k f) := by
  refine ⟨fun k' v hv => ?_, fun hm => FMap.All.modify hm k fun v hv => (hkey v).trans hv⟩
  rw [FMap.get?_modify, hv, Option.map_some]
  split
  · exact ⟨f v, rfl, hlater v⟩
  · exact ⟨v, rfl, hrefl v⟩

end Grows

end Registry
