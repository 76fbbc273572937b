import Credbound.Machinery.FMap
import Mathlib.Data.Fintype.EquivFin
import Mathlib.Data.Set.Lattice
import Mathlib.Logic.Relation
import Mathlib.Order.Bounds.Basic

/-!
# Machinery/DepthFirst — the closure of a finite graph, by a search that keeps what it has found

A finite graph has a value and a list of successors at each node.  `visit` joins the values of all nodes that can be
reached from a node, depth first.  It keeps the join of a node it has left, and fails at a node that is not in the graph
and at a node that it is still visiting.

* `visit_returns` is what a visit comes to; no visit is cut off, given as much fuel as there are nodes.
* `visitAll_isOk`, `done_visitAll`: visiting the nodes in any order succeeds exactly when they are all grounded, and
  finds their joins.
* `forall_grounded_iff`: all nodes are grounded exactly when every edge leads into the graph and no path is a cycle.
-/

namespace DepthFirst

universe u v

variable {K : Type u} {V : Type v}

/-- The value of a node, and its successors. -/
structure Node (K : Type u) (V : Type v) where
  value : V
  next : List K

/-- Why a visit fails.  `unfinished` stands for a search that was cut off. -/
inductive Failure (K : Type u)
  | unknown (k : K)
  | cycle
  | unfinished

/-- What a search has found, the nodes on its path, and those it has left. -/
structure Marks (K : Type u) (V : Type v) where
  done : FMap K V
  visiting : Finset K
  visited : Finset K

variable [DecidableEq K]

/-! ## The search -/

section Search

variable [SemilatticeSup V] [OrderBot V]

/-- Visit nodes one after the other and join what is found. -/
def gather (descend : K → Marks K V → Except (Failure K) (V × Marks K V)) :
    List K → V → Marks K V → Except (Failure K) (V × Marks K V)
  | [], v, marks => .ok (v, marks)
  | q :: qs, v, marks =>
    match descend q marks with
    | .error e => .error e
    | .ok (w, marks) => gather descend qs (v ⊔ w) marks

def Marks.enter (marks : Marks K V) (k : K) : Marks K V := { marks with visiting := insert k marks.visiting }

def Marks.leave (marks : Marks K V) (k : K) (v : V) : Marks K V where
  done := marks.done.set k v
  visiting := marks.visiting.erase k
  visited := insert k marks.visited

/-- Visit a node. -/
def visit (g : FMap K (Node K V)) : Nat → K → Marks K V → Except (Failure K) (V × Marks K V)
  | 0, _, _ => .error .unfinished
  | fuel + 1, k, marks =>
    match marks.done.get? k with
    | some v => .ok (v, marks)
    | none =>
      match g.get? k with
      | none => .error (.unknown k)
      | some node =>
        if k ∈ marks.visiting then .error .cycle
        else if k ∈ marks.visited then .ok (⊥, marks)
        else
          match gather (visit g fuel) node.next node.value (marks.enter k) with
          | .error e => .error e
          | .ok (v, marks) => .ok (v, marks.leave k v)

/-- Visit nodes for what the search finds on the way. -/
def visitAll (g : FMap K (Node K V)) : List K → Marks K V → Except (Failure K) (Marks K V)
  | [], marks => .ok marks
  | k :: ks, marks =>
    match visit g (g.keys.card + 1) k marks with
    | .error e => .error e
    | .ok (_, marks) => visitAll g ks marks

/-- Nothing found yet. -/
def Marks.none : Marks K V := ⟨∅, ∅, ∅⟩

end Search

/-! ## Reaching -/

/-- An edge of the graph. -/
def Edge (g : FMap K (Node K V)) (k q : K) : Prop := ∃ node, g.get? k = some node ∧ q ∈ node.next

/-- `q` can be reached from `k`. -/
abbrev Reaches (g : FMap K (Node K V)) : K → K → Prop := Relation.ReflTransGen (Edge g)

/-- Everything below the node is in the graph, and no path goes on for ever. -/
inductive Grounded (g : FMap K (Node K V)) : K → Prop
  | intro {k : K} {node : Node K V} (hk : g.get? k = some node) (hnext : ∀ q ∈ node.next, Grounded g q) : Grounded g k

/-- The values of the nodes that can be reached. -/
def values (g : FMap K (Node K V)) (k : K) : Set V :=
  {v | ∃ q node, Reaches g k q ∧ g.get? q = some node ∧ node.value = v}

section Graph

variable {g : FMap K (Node K V)} {k q : K} {node : Node K V}

theorem Grounded.next (h : Grounded g k) (hedge : Edge g k q) : Grounded g q := by
  obtain ⟨hk, hnext⟩ := h
  obtain ⟨node, hnode, hq⟩ := hedge
  obtain rfl := Option.mem_unique hk hnode
  exact hnext q hq

theorem Grounded.mem (h : Grounded g k) : k ∈ g := by
  obtain ⟨hk, -⟩ := h
  exact FMap.mem_of_get? hk

/-- A grounded node is on no cycle. -/
theorem Grounded.acyclic (h : Grounded g k) : ¬ Relation.TransGen (Edge g) k k := by
  induction h with
  | @intro k node hk hnext ih =>
    intro hcycle
    -- The cycle goes through a successor, so that one is on a cycle as well.
    obtain ⟨q, hedge, hback⟩ := Relation.TransGen.head'_iff.mp hcycle
    obtain ⟨node', hnode', hq⟩ := hedge
    obtain rfl := Option.mem_unique hk hnode'
    exact ih q hq (Relation.TransGen.tail' hback ⟨node, hk, hq⟩)

/-- **Grounded graphs**: every edge leads into the graph and no path is a cycle. -/
theorem forall_grounded_iff :
    (∀ k ∈ g, Grounded g k) ↔ (∀ k q, Edge g k q → q ∈ g) ∧ ∀ k, ¬ Relation.TransGen (Edge g) k k := by
  constructor
  · intro h
    have hmem : ∀ {k q}, Edge g k q → k ∈ g := fun ⟨_, hk, _⟩ => FMap.mem_of_get? hk
    refine ⟨fun k q hedge => ((h k (hmem hedge)).next hedge).mem, fun k hcycle => ?_⟩
    obtain ⟨q, hedge, -⟩ := Relation.TransGen.head'_iff.mp hcycle
    exact (h k (hmem hedge)).acyclic hcycle
  · rintro ⟨hinto, hacyclic⟩ k hk
    -- Among finitely many nodes the paths of an acyclic graph come to an end.
    let below (a b : {k // k ∈ g}) : Prop := Relation.TransGen (Edge g) b.1 a.1
    have hfinite : Finite {k // k ∈ g} := Finite.of_injective (β := g.keys)
      (fun a => ⟨a.1, Finmap.mem_keys.mpr a.2⟩) fun a b h => Subtype.ext (congrArg Subtype.val h)
    have htrans : IsTrans _ below := ⟨fun a b c hab hbc => hbc.trans hab⟩
    have hirrefl : Std.Irrefl below := ⟨fun a => hacyclic a.1⟩
    have hfounded : WellFounded below := Finite.wellFounded_of_trans_of_irrefl below
    suffices hall : ∀ a : {k // k ∈ g}, Grounded g a.1 from hall ⟨k, hk⟩
    intro a
    induction a using hfounded.induction with
    | _ a ih =>
      obtain ⟨node, hnode⟩ := FMap.mem_iff_get?.mp a.2
      refine .intro hnode fun q hq => ?_
      have hedge : Edge g a.1 q := ⟨node, hnode, hq⟩
      exact ih ⟨q, hinto a.1 q hedge⟩ (.single hedge)

/-- What is reached from a node is the node, or is reached from a successor. -/
theorem values_eq (hk : g.get? k = some node) : values g k = {node.value} ∪ ⋃ q ∈ node.next, values g q := by
  ext v
  simp only [values, Set.mem_ofPred_eq, Set.mem_union, Set.mem_singleton_iff, Set.mem_iUnion, exists_prop]
  constructor
  · rintro ⟨q, node', hreach, hq, rfl⟩
    obtain rfl | ⟨p, hedge, hrest⟩ := Relation.ReflTransGen.cases_head hreach
    · exact .inl (by rw [Option.mem_unique hk hq])
    · obtain ⟨node'', hnode'', hp⟩ := hedge
      obtain rfl := Option.mem_unique hk hnode''
      exact .inr ⟨p, hp, q, node', hrest, hq, rfl⟩
  · rintro (rfl | ⟨p, hp, q, node', hrest, hq, rfl⟩)
    · exact ⟨k, node, .refl, hk, rfl⟩
    · exact ⟨q, node', .head ⟨node, hk, hp⟩ hrest, hq, rfl⟩

end Graph

/-! ## What a search finds -/

section Found

variable [SemilatticeSup V] {g : FMap K (Node K V)} {k : K} {m : Marks K V}

/-- What a search has found is right, and its path is in the graph. -/
structure Marks.Valid (g : FMap K (Node K V)) (m : Marks K V) : Prop where
  done : ∀ k v, m.done.get? k = some v → Grounded g k ∧ IsLUB (values g k) v
  visiting : m.visiting ⊆ g.keys
  visited : ∀ k ∈ m.visited, k ∈ m.done

theorem Marks.valid_none : (Marks.none : Marks K V).Valid g where
  done k v h := by rw [Marks.none, FMap.get?_empty] at h; cases h
  visiting := Finset.empty_subset _
  visited k h := absurd h (Finset.notMem_empty k)

theorem Marks.Valid.enter (hm : m.Valid g) (hk : k ∈ g) : (m.enter k).Valid g where
  done := hm.done
  visiting := Finset.insert_subset (Finmap.mem_keys.mpr hk) hm.visiting
  visited := hm.visited

theorem Marks.Valid.leave {v : V} (hm : m.Valid g) (hk : Grounded g k) (hv : IsLUB (values g k) v) :
    (m.leave k v).Valid g where
  done q w h := by
    obtain ⟨rfl, rfl⟩ | ⟨-, h⟩ := FMap.get?_set_eq_some.mp h
    · exact ⟨hk, hv⟩
    · exact hm.done q w h
  visiting := (Finset.erase_subset _ _).trans hm.visiting
  visited q hq := by
    obtain rfl | hq := Finset.mem_insert.mp hq
    · exact FMap.mem_of_get? (FMap.get?_set_self ..)
    · exact FMap.mem_set (hm.visited q hq)

/-- What a visit of `k` comes to: the join of what is below a grounded node, on record, or a node below that is not in the
graph or on the path. -/
def Returns (g : FMap K (Node K V)) (k : K) (m : Marks K V) : Except (Failure K) (V × Marks K V) → Prop
  | .ok (v, m') => m'.Valid g ∧ m'.visiting = m.visiting ∧ Grounded g k ∧ IsLUB (values g k) v
      ∧ m'.done.get? k = some v ∧ ∀ q ∈ m.done, q ∈ m'.done
  | .error e => e ≠ .unfinished ∧ (Grounded g k → ∃ q ∈ m.visiting, Reaches g k q)

/-- What visits of `qs` come to, over a join of the values in `old`. -/
def GathersTo (g : FMap K (Node K V)) (qs : List K) (old : Set V) (m : Marks K V) :
    Except (Failure K) (V × Marks K V) → Prop
  | .ok (v, m') => m'.Valid g ∧ m'.visiting = m.visiting ∧ (∀ q ∈ qs, Grounded g q)
      ∧ IsLUB (old ∪ ⋃ q ∈ qs, values g q) v ∧ ∀ q ∈ m.done, q ∈ m'.done
  | .error e => e ≠ .unfinished ∧ ∃ q ∈ qs, Grounded g q → ∃ p ∈ m.visiting, Reaches g q p

theorem gather_gathersTo {descend : K → Marks K V → Except (Failure K) (V × Marks K V)} {path : Finset K}
    (hdescend : ∀ q (m : Marks K V), m.Valid g → m.visiting = path → Returns g q m (descend q m)) (qs : List K)
    {v : V} {old : Set V} (hv : IsLUB old v) (hm : m.Valid g) (hpath : m.visiting = path) :
    GathersTo g qs old m (gather descend qs v m) := by
  induction qs generalizing m v old with
  | nil =>
    refine ⟨hm, rfl, fun q hq => (List.not_mem_nil hq).elim, ?_, fun q hq => hq⟩
    simpa only [List.not_mem_nil, Set.iUnion_of_empty, Set.iUnion_empty, Set.union_empty] using hv
  | cons q qs ih =>
    have hq := hdescend q m hm hpath
    rw [gather]
    cases hvisit : descend q m with
    | error e =>
      rw [hvisit] at hq
      exact ⟨hq.1, q, List.mem_cons_self, hq.2⟩
    | ok found =>
      obtain ⟨w, m'⟩ := found
      rw [hvisit] at hq
      obtain ⟨hm', hvisiting, hgrounded, hw, -, hdone⟩ := hq
      have hrest := ih (hv.union hw) hm' (hvisiting.trans hpath)
      dsimp only
      cases hgather : gather descend qs (v ⊔ w) m' with
      | error e =>
        rw [hgather] at hrest
        obtain ⟨hfinished, p, hp, hfails⟩ := hrest
        refine ⟨hfinished, p, List.mem_cons_of_mem q hp, fun h => ?_⟩
        rw [← hvisiting]
        exact hfails h
      | ok found =>
        obtain ⟨x, m''⟩ := found
        rw [hgather] at hrest
        obtain ⟨hm'', hvisiting', hall, hx, hdone'⟩ := hrest
        refine ⟨hm'', hvisiting'.trans hvisiting, List.forall_mem_cons.mpr ⟨hgrounded, hall⟩, ?_,
          fun p hp => hdone' p (hdone p hp)⟩
        have hsets : old ∪ ⋃ p ∈ q :: qs, values g p = old ∪ values g q ∪ ⋃ p ∈ qs, values g p := by
          simp only [List.mem_cons, Set.iUnion_iUnion_eq_or_left, Set.union_assoc]
        rw [hsets]
        exact hx

variable [OrderBot V]

/-- **What a visit comes to**, with more fuel than there are nodes off the path. -/
theorem visit_returns (fuel : Nat) (k : K) (hm : m.Valid g) (hfuel : g.keys.card < fuel + m.visiting.card) :
    Returns g k m (visit g fuel k m) := by
  induction fuel generalizing k m with
  | zero =>
    have hle := Finset.card_le_card hm.visiting
    omega
  | succ fuel ih =>
    rw [visit]
    cases hdone : m.done.get? k with
    | some v =>
      obtain ⟨hgrounded, hv⟩ := hm.done k v hdone
      exact ⟨hm, rfl, hgrounded, hv, hdone, fun _ h => h⟩
    | none =>
      cases hk : g.get? k with
      | none =>
        refine ⟨nofun, fun hgrounded => ?_⟩
        exact absurd hgrounded.mem (FMap.get?_eq_none.mp hk)
      | some node =>
        dsimp only
        split_ifs with hvisiting hvisited
        · exact ⟨nofun, fun _ => ⟨k, hvisiting, .refl⟩⟩
        · exact absurd (hm.visited k hvisited) (FMap.get?_eq_none.mp hdone)
        -- A new node joins the path while its successors are visited.
        have hmem := FMap.mem_of_get? hk
        have hcard : (m.enter k).visiting.card = m.visiting.card + 1 := Finset.card_insert_of_notMem hvisiting
        have hbelow := gather_gathersTo (fun q m' hm' hpath => ih q hm' (by rw [hpath, hcard]; omega)) node.next
          (isLUB_singleton (a := node.value)) (hm.enter hmem) rfl
        cases hgather : gather (visit g fuel) node.next node.value (m.enter k) with
        | error e =>
          rw [hgather] at hbelow
          obtain ⟨hfinished, q, hq, hfails⟩ := hbelow
          refine ⟨hfinished, fun hgrounded => ?_⟩
          have hedge : Edge g k q := ⟨node, hk, hq⟩
          obtain ⟨p, hp, hreach⟩ := hfails (hgrounded.next hedge)
          obtain rfl | hp := Finset.mem_insert.mp hp
          · exact absurd (Relation.TransGen.head' hedge hreach) hgrounded.acyclic
          · exact ⟨p, hp, .head hedge hreach⟩
        | ok found =>
          obtain ⟨v, m'⟩ := found
          rw [hgather] at hbelow
          obtain ⟨hm', hpath, hall, hv, hkept⟩ := hbelow
          rw [← values_eq hk] at hv
          have hgrounded : Grounded g k := .intro hk hall
          refine ⟨hm'.leave hgrounded hv, ?_, hgrounded, hv, FMap.get?_set_self .., fun q hq => FMap.mem_set (hkept q hq)⟩
          rw [Marks.leave, hpath]
          exact Finset.erase_insert hvisiting

/-- What visits of `ks` come to: the joins of grounded nodes on record, or a node that is not grounded. -/
def VisitsTo (g : FMap K (Node K V)) (ks : List K) (m : Marks K V) : Except (Failure K) (Marks K V) → Prop
  | .ok m' => m'.Valid g ∧ (∀ k ∈ ks, k ∈ m'.done) ∧ ∀ k ∈ m.done, k ∈ m'.done
  | .error e => e ≠ .unfinished ∧ ∃ k ∈ ks, ¬ Grounded g k

theorem visitAll_visitsTo (ks : List K) (hm : m.Valid g) (hpath : m.visiting = ∅) :
    VisitsTo g ks m (visitAll g ks m) := by
  induction ks generalizing m with
  | nil => exact ⟨hm, fun k hk => (List.not_mem_nil hk).elim, fun _ h => h⟩
  | cons k ks ih =>
    have hk := visit_returns (g.keys.card + 1) k hm (by omega)
    rw [visitAll]
    cases hvisit : visit g (g.keys.card + 1) k m with
    | error e =>
      rw [hvisit] at hk
      refine ⟨hk.1, k, List.mem_cons_self, fun hgrounded => ?_⟩
      obtain ⟨q, hq, -⟩ := hk.2 hgrounded
      rw [hpath] at hq
      exact Finset.notMem_empty q hq
    | ok found =>
      obtain ⟨v, m'⟩ := found
      rw [hvisit] at hk
      obtain ⟨hm', hvisiting, -, -, hfound, hkept⟩ := hk
      have hrest := ih hm' (hvisiting.trans hpath)
      dsimp only
      cases hall : visitAll g ks m' with
      | error e =>
        rw [hall] at hrest
        obtain ⟨hfinished, q, hq, hnot⟩ := hrest
        exact ⟨hfinished, q, List.mem_cons_of_mem k hq, hnot⟩
      | ok m'' =>
        rw [hall] at hrest
        obtain ⟨hm'', hdone, hkept'⟩ := hrest
        refine ⟨hm'', List.forall_mem_cons.mpr ⟨hkept' k (FMap.mem_of_get? hfound), hdone⟩, ?_⟩
        exact fun q hq => hkept' q (hkept q hq)

/-- **Visiting the nodes of a graph in any order** succeeds exactly when they are all grounded… -/
theorem visitAll_isOk {ks : List K} (hks : ∀ k, k ∈ ks ↔ k ∈ g) :
    (∃ m, visitAll g ks .none = .ok m) ↔ ∀ k ∈ g, Grounded g k := by
  have hvisits := visitAll_visitsTo ks (Marks.valid_none (g := g) (V := V)) rfl
  constructor
  · rintro ⟨m, hm⟩ k hk
    rw [hm] at hvisits
    obtain ⟨v, hv⟩ := FMap.mem_iff_get?.mp (hvisits.2.1 k ((hks k).mpr hk))
    exact (hvisits.1.done k v hv).1
  · intro hgrounded
    cases hall : visitAll g ks .none with
    | ok m => exact ⟨m, rfl⟩
    | error e =>
      rw [hall] at hvisits
      obtain ⟨-, k, hk, hnot⟩ := hvisits
      exact absurd (hgrounded k ((hks k).mp hk)) hnot

/-- …finds their joins, and nothing else… -/
theorem done_visitAll {ks : List K} (hks : ∀ k, k ∈ ks ↔ k ∈ g) (h : visitAll g ks .none = .ok m) (k : K) :
    (k ∈ g → ∃ v, m.done.get? k = some v ∧ IsLUB (values g k) v) ∧ (k ∉ g → m.done.get? k = none) := by
  have hvisits := visitAll_visitsTo ks (Marks.valid_none (g := g) (V := V)) rfl
  rw [h] at hvisits
  constructor
  · intro hk
    obtain ⟨v, hv⟩ := FMap.mem_iff_get?.mp (hvisits.2.1 k ((hks k).mpr hk))
    exact ⟨v, hv, (hvisits.1.done k v hv).2⟩
  · intro hk
    cases hv : m.done.get? k with
    | none => rfl
    | some v => exact absurd (hvisits.1.done k v hv).1.mem hk

/-- …and is not cut off. -/
theorem visitAll_ne_unfinished (ks : List K) : visitAll g ks (.none : Marks K V) ≠ .error .unfinished := by
  intro h
  have hvisits := visitAll_visitsTo ks (Marks.valid_none (g := g) (V := V)) rfl
  rw [h] at hvisits
  exact hvisits.1 rfl

end Found

/-- A join of finite sets has the elements of the sets. -/
theorem mem_of_isLUB {α : Type*} [DecidableEq α] {sets : Set (Finset α)} {v : Finset α} (h : IsLUB sets v) {a : α} :
    a ∈ v ↔ ∃ w ∈ sets, a ∈ w := by
  constructor
  · intro ha
    by_contra hnone
    have hbound : v.erase a ∈ upperBounds sets := by
      intro w hw b hb
      refine Finset.mem_erase.mpr ⟨?_, h.1 hw hb⟩
      rintro rfl
      exact hnone ⟨w, hw, hb⟩
    exact Finset.notMem_erase a v (h.2 hbound ha)
  · rintro ⟨w, hw, ha⟩
    exact h.1 hw ha

end DepthFirst
