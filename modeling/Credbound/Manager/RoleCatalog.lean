import Credbound.Machinery.DepthFirst
import Credbound.Manager.Roles
import Mathlib.Data.Finset.Lattice.Basic

/-!
# Manager/RoleCatalog — compiling the roles with maps, marks and a memo

`Manager.buildRoleCatalog` compiles every role anew, over lists.  Here is the function as the source has it: the
definitions are a map, which Go may iterate in any order; a role that has been compiled is looked up; and the sets of
roles and permissions are sets.  The compilation is the depth-first search of `DepthFirst`.

* `buildRoleCatalog_correct`: the catalogue is built exactly for roles that are well formed, inherit from defined roles
  and do not inherit from themselves, and then says what can be reached, whatever the iteration order.
-/

namespace Credbound.Manager.RoleMap

/-! ## Building the catalogue -/

/-- `uniqueWorkspacePermissions`. -/
def uniqueWorkspacePermissions (values : List String) : List String :=
  (values.insertionSort (· ≤ ·)).destutter (· ≠ ·)

/-- `uniqueRoles`. -/
def uniqueRoles (values : List Role) : List Role :=
  (values.insertionSort fun a b => roleName a ≤ roleName b).destutter (· ≠ ·)

/-- `definitions`. -/
abbrev Definitions := FMap Role RoleDefinition

/-- The built-in roles. -/
def builtin : Definitions := builtinRoles.foldl (fun definitions d => definitions.set d.role d) ∅

/-- Register a configured definition: it adds to the one there is. -/
def register (definitions : Definitions) (raw : RoleDefinition) : Definitions :=
  definitions.set raw.role (((definitions.get? raw.role).getD { role := raw.role }).add raw)

/-- The definition without repetitions. -/
def tidy (d : RoleDefinition) : RoleDefinition :=
  { d with permissions := uniqueWorkspacePermissions d.permissions, inherits := uniqueRoles d.inherits }

/-- The definitions of configured roles and of the built-in ones. -/
def definitionsOf (configured : List RoleDefinition) : Definitions :=
  (configured.foldl register builtin).mapVal fun _ d => tidy d

/-- The permissions of roles, in order. -/
def listed (definitions : Definitions) (order : List Role) : List String :=
  order.flatMap fun role => (definitions.get? role).elim [] RoleDefinition.permissions

/-- Every permission there is, for `admin`. -/
def empower (definitions : Definitions) (all : List String) : Definitions :=
  definitions.modify .admin fun admin =>
    { admin with permissions := uniqueWorkspacePermissions (admin.permissions ++ all) }

/-- `compiledRole`: the roles it includes, itself among them, and the permissions it carries. -/
abbrev Compiled := Finset Role × Finset String

/-- What `compile` searches: a role by itself, and the roles it inherits from. -/
def graph (definitions : Definitions) : FMap Role (DepthFirst.Node Role Compiled) :=
  definitions.mapVal fun role d => ⟨({role}, d.permissions.toFinset), d.inherits⟩

/-- …once `admin` has been given every permission, collected in the order. -/
def inheritance (definitions : Definitions) (order : List Role) : FMap Role (DepthFirst.Node Role Compiled) :=
  graph (empower definitions (listed definitions order))

/-- Why the catalogue is not built: each of them is `ErrInvalidInput`. -/
inductive BuildError
  | invalidRole (role : Role)
  | invalidPermission (permission : String)
  | inheritance (failure : DepthFirst.Failure Role)

/-- `roleCatalog`. -/
structure Catalog where
  roles : FMap Role Compiled
  permissions : List String

/-- `buildRoleCatalog`, where the definitions are iterated in the order `first` to check their permissions and in the
order `second` to compile them. -/
def buildRoleCatalog (first second : List Role) (configured : List RoleDefinition) : Except BuildError Catalog :=
  match configured.find? fun raw => roleNamePattern (roleName raw.role) = false with
  | some raw => .error (.invalidRole raw.role)
  | none =>
    let definitions := definitionsOf configured
    let all := listed definitions first
    match all.find? fun permission => workspacePermissionPattern permission = false with
    | some permission => .error (.invalidPermission permission)
    | none =>
      match DepthFirst.visitAll (inheritance definitions first) second .none with
      | .error failure => .error (.inheritance failure)
      | .ok marks => .ok ⟨marks.done, all⟩

/-- `includes`. -/
def Catalog.includes (catalog : Catalog) (role required : Role) : Bool :=
  (catalog.roles.get? role).any fun compiled => required ∈ compiled.1

/-- `allows`. -/
def Catalog.allows (catalog : Catalog) (role : Role) (permission : String) : Bool :=
  (catalog.roles.get? role).any fun compiled => permission ∈ compiled.2

/-- An order in which the definitions may be iterated. -/
structure Iterates (order : List Role) (definitions : Definitions) : Prop where
  nodup : order.Nodup
  mem : ∀ role, role ∈ order ↔ role ∈ definitions

/-! ## What is configured -/

section Configured

variable (configured : List RoleDefinition)

/-- The role is configured or built in. -/
def Defined (role : Role) : Prop := role = .member ∨ role = .admin ∨ ∃ raw ∈ configured, raw.role = role

/-- The role inherits from another: by configuration, or as every role but `member` does from `member`. -/
def Inherits (role inherited : Role) : Prop :=
  (∃ raw ∈ configured, raw.role = role ∧ inherited ∈ raw.inherits)
    ∨ role ≠ .member ∧ Defined configured role ∧ inherited = .member

/-- The role lists the permission, by itself or as a built-in role. -/
def Lists (role : Role) (permission : String) : Prop :=
  ∃ d ∈ builtinRoles ++ configured, d.role = role ∧ permission ∈ d.permissions

/-- Names are well formed, every inherited role is defined, and no role inherits from itself on any way. -/
structure WellFormed : Prop where
  names : ∀ raw ∈ configured, roleNamePattern (roleName raw.role) = true
  permissions : ∀ raw ∈ configured, ∀ permission ∈ raw.permissions, workspacePermissionPattern permission = true
  defined : ∀ raw ∈ configured, ∀ inherited ∈ raw.inherits, Defined configured inherited
  acyclic : ∀ role, ¬ Relation.TransGen (Inherits configured) role role

end Configured

/-! ## Sorting and deduplicating -/

@[simp] theorem mem_uniqueWorkspacePermissions {p : String} {values : List String} :
    p ∈ uniqueWorkspacePermissions values ↔ p ∈ values := by
  rw [uniqueWorkspacePermissions, mem_destutter_ne, List.mem_insertionSort]

@[simp] theorem mem_uniqueRoles {role : Role} {values : List Role} : role ∈ uniqueRoles values ↔ role ∈ values := by
  rw [uniqueRoles, mem_destutter_ne, List.mem_insertionSort]

/-! ## The definitions say what is configured -/

section

variable {configured : List RoleDefinition} {definitions : Definitions} {raw : RoleDefinition} {role q : Role} {p : String}

theorem defined_append : Defined (configured ++ [raw]) role ↔ Defined configured role ∨ raw.role = role := by
  simp only [Defined, List.mem_append, List.mem_singleton, or_and_right, exists_or, exists_eq_left, or_assoc]

theorem lists_append :
    Lists (configured ++ [raw]) role p ↔ Lists configured role p ∨ raw.role = role ∧ p ∈ raw.permissions := by
  simp only [Lists, ← List.append_assoc, List.mem_append (t := [raw]), List.mem_singleton, or_and_right, exists_or,
    exists_eq_left]

theorem inherits_append : Inherits (configured ++ [raw]) role q
    ↔ Inherits configured role q ∨ raw.role = role ∧ (q ∈ raw.inherits ∨ role ≠ .member ∧ q = .member) := by
  simp only [Inherits, defined_append, List.mem_append, List.mem_singleton, or_and_right, exists_or, exists_eq_left]
  grind

/-- The definitions are those of the configured roles. -/
structure Represents (definitions : Definitions) (configured : List RoleDefinition) : Prop where
  defined : ∀ role, role ∈ definitions ↔ Defined configured role
  inherits : ∀ role d, definitions.get? role = some d → ∀ q, q ∈ d.inherits ↔ Inherits configured role q
  permissions : ∀ role d, definitions.get? role = some d → ∀ p, p ∈ d.permissions ↔ Lists configured role p

theorem get?_builtin (role : Role) : builtin.get? role = builtinRoles.find? fun d => d.role = role := by
  cases role with
  | member => rfl
  | admin => rfl
  | other name => simp [builtin, builtinRoles, FMap.get?_set]

theorem represents_builtin : Represents builtin [] where
  defined role := by
    rw [FMap.mem_iff_get?, get?_builtin]
    cases role <;> simp [Defined, builtinRoles]
  inherits role d hd q := by
    rw [get?_builtin] at hd
    cases role <;> simp [builtinRoles] at hd <;> subst hd <;> simp [Inherits, Defined]
  permissions role d hd p := by
    rw [get?_builtin] at hd
    cases role <;> simp [builtinRoles] at hd <;> subst hd <;> simp [Lists, builtinRoles]

theorem Lists.defined (h : Lists configured role p) : Defined configured role := by
  obtain ⟨d, hd, rfl, -⟩ := h
  obtain hd | hd := List.mem_append.mp hd
  · simp only [builtinRoles, List.mem_cons, List.not_mem_nil, or_false] at hd
    obtain rfl | rfl := hd
    · exact .inl rfl
    · exact .inr (.inl rfl)
  · exact .inr (.inr ⟨d, hd, rfl⟩)

theorem Inherits.defined (h : Inherits configured role q) : Defined configured role := by
  obtain ⟨raw, hraw, hrole, -⟩ | ⟨-, hdefined, -⟩ := h
  · exact .inr (.inr ⟨raw, hraw, hrole⟩)
  · exact hdefined

/-- What a role inherits with a configured definition. -/
theorem mem_inherits_add {d : RoleDefinition} : q ∈ (d.add raw).inherits
    ↔ q ∈ d.inherits ∨ q ∈ raw.inherits ∨ raw.role ≠ .member ∧ raw.role ≠ .admin ∧ q = .member := by
  unfold RoleDefinition.add
  dsimp only
  split_ifs with h
  · rw [List.mem_append, List.mem_append, List.mem_singleton, or_assoc]
    exact or_congr_right (or_congr_right ⟨fun hq => ⟨h.1, h.2.1, hq⟩, fun hq => hq.2.2⟩)
  · rw [List.mem_append]
    constructor
    · exact fun hq => hq.imp_right .inl
    · rintro (hq | hq | ⟨hmember, hadmin, rfl⟩)
      · exact .inl hq
      · exact .inr hq
      · exact List.mem_append.mp (not_not.mp fun hnot => h ⟨hmember, hadmin, hnot⟩)

/-- The definition that a configured one adds to. -/
theorem Represents.base (h : Represents definitions configured) (role : Role) :
    (∀ q, q ∈ ((definitions.get? role).getD { role := role }).inherits ↔ Inherits configured role q)
      ∧ ∀ p, p ∈ ((definitions.get? role).getD { role := role }).permissions ↔ Lists configured role p := by
  cases hd : definitions.get? role with
  | some d => exact ⟨h.inherits role d hd, h.permissions role d hd⟩
  | none =>
    have hundefined : ¬ Defined configured role := fun hdef =>
      FMap.get?_eq_none.mp hd ((h.defined role).mpr hdef)
    refine ⟨fun q => ⟨fun hq => (List.not_mem_nil hq).elim, fun hq => absurd hq.defined hundefined⟩, fun p => ?_⟩
    exact ⟨fun hp => (List.not_mem_nil hp).elim, fun hp => absurd hp.defined hundefined⟩

theorem Represents.register (h : Represents definitions configured) (raw : RoleDefinition) :
    Represents (register definitions raw) (configured ++ [raw]) := by
  obtain ⟨hinherits, hpermissions⟩ := h.base raw.role
  -- The definition of the role is the new one; those of the others are the old ones.
  constructor
  · intro role
    rw [defined_append, ← h.defined, FMap.mem_iff_get?, FMap.mem_iff_get?, RoleMap.register, FMap.get?_set]
    by_cases heq : role = raw.role
    · simp [heq]
    · simp [heq, Ne.symm heq]
  · intro role d hd q
    rw [inherits_append]
    obtain ⟨rfl, rfl⟩ | ⟨hne, hd⟩ := FMap.get?_set_eq_some.mp hd
    · rw [mem_inherits_add, hinherits]
      constructor
      · rintro (hq | hq | ⟨hmember, -, hq⟩)
        · exact .inl hq
        · exact .inr ⟨rfl, .inl hq⟩
        · exact .inr ⟨rfl, .inr ⟨hmember, hq⟩⟩
      · rintro (hq | ⟨-, hq | ⟨hmember, hq⟩⟩)
        · exact .inl hq
        · exact .inr (.inl hq)
        · -- A configured `admin` adds nothing here: the built-in one inherits from `member` already.
          by_cases hadmin : raw.role = .admin
          · exact .inl (.inr ⟨hmember, .inr (.inl hadmin), hq⟩)
          · exact .inr (.inr ⟨hmember, hadmin, hq⟩)
    · rw [h.inherits role d hd]
      simp [Ne.symm hne]
  · intro role d hd p
    rw [lists_append]
    obtain ⟨rfl, rfl⟩ | ⟨hne, hd⟩ := FMap.get?_set_eq_some.mp hd
    · rw [RoleDefinition.add, List.mem_append, hpermissions]
      simp
    · rw [h.permissions role d hd]
      simp [Ne.symm hne]

theorem represents_foldl (rest : List RoleDefinition) (h : Represents definitions configured) :
    Represents (rest.foldl register definitions) (configured ++ rest) := by
  induction rest generalizing definitions configured with
  | nil => simpa using h
  | cons raw rest ih => simpa using ih (h.register raw)

theorem represents_definitionsOf (configured : List RoleDefinition) :
    Represents (definitionsOf configured) configured := by
  have h : Represents (configured.foldl register builtin) configured := represents_foldl configured represents_builtin
  constructor
  · intro role
    rw [← h.defined, FMap.mem_iff_get?, FMap.mem_iff_get?, definitionsOf, FMap.get?_mapVal]
    simp
  · intro role d hd q
    rw [definitionsOf, FMap.get?_mapVal] at hd
    obtain ⟨d', hd', rfl⟩ := Option.map_eq_some_iff.mp hd
    rw [← h.inherits role d' hd']
    exact mem_uniqueRoles
  · intro role d hd p
    rw [definitionsOf, FMap.get?_mapVal] at hd
    obtain ⟨d', hd', rfl⟩ := Option.map_eq_some_iff.mp hd
    rw [← h.permissions role d' hd']
    exact mem_uniqueWorkspacePermissions

/-! ## What is compiled -/

variable {order : List Role}

/-- Every permission that some role lists. -/
theorem mem_listed (h : Represents definitions configured) (horder : Iterates order definitions) :
    p ∈ listed definitions order ↔ ∃ role, Lists configured role p := by
  rw [listed, List.mem_flatMap]
  constructor
  · rintro ⟨role, hrole, hp⟩
    obtain ⟨d, hd⟩ := FMap.mem_iff_get?.mp ((horder.mem role).mp hrole)
    rw [hd] at hp
    exact ⟨role, (h.permissions role d hd p).mp hp⟩
  · rintro ⟨role, hlists⟩
    obtain ⟨d, hd⟩ := FMap.mem_iff_get?.mp ((h.defined role).mpr hlists.defined)
    refine ⟨role, (horder.mem role).mpr (FMap.mem_of_get? hd), ?_⟩
    rw [hd]
    exact (h.permissions role d hd p).mpr hlists

/-- The permission is one of the role's, or one of any role's for `admin`. -/
def Carries (configured : List RoleDefinition) (role : Role) (permission : String) : Prop :=
  Lists configured role permission ∨ role = .admin ∧ ∃ other, Lists configured other permission

section

variable (h : Represents definitions configured)

include h

/-- A node of the search: a defined role, with what it inherits from and what it carries. -/
theorem get?_inheritance (horder : Iterates order definitions)
    {node : DepthFirst.Node Role Compiled} (hnode : (inheritance definitions order).get? role = some node) :
    node.value.1 = {role} ∧ (∀ p, p ∈ node.value.2 ↔ Carries configured role p)
      ∧ ∀ q, q ∈ node.next ↔ Inherits configured role q := by
  rw [inheritance, graph, FMap.get?_mapVal] at hnode
  obtain ⟨d', hd', rfl⟩ := Option.map_eq_some_iff.mp hnode
  rw [empower, FMap.get?_modify] at hd'
  split at hd'
  · next hadmin =>
    obtain ⟨d, hd, rfl⟩ := Option.map_eq_some_iff.mp hd'
    refine ⟨rfl, fun p => ?_, h.inherits role d hd⟩
    rw [List.mem_toFinset, mem_uniqueWorkspacePermissions, List.mem_append, h.permissions role d hd p, mem_listed h horder]
    exact or_congr_right ⟨fun hp => ⟨hadmin, hp⟩, fun hp => hp.2⟩
  · next hother =>
    refine ⟨rfl, fun p => ?_, h.inherits role d' hd'⟩
    rw [List.mem_toFinset, h.permissions role d' hd' p]
    exact ⟨.inl, fun hp => hp.resolve_right fun hadmin => hother hadmin.1⟩

theorem mem_inheritance (order : List Role) :
    role ∈ inheritance definitions order ↔ Defined configured role := by
  have hempower : role ∈ empower definitions (listed definitions order) ↔ role ∈ definitions := FMap.mem_modify
  rw [← h.defined, ← hempower, FMap.mem_iff_get?, FMap.mem_iff_get?, inheritance, graph, FMap.get?_mapVal]
  simp

theorem edge_eq (horder : Iterates order definitions) :
    DepthFirst.Edge (inheritance definitions order) = Inherits configured := by
  funext role q
  refine propext ⟨?_, fun hq => ?_⟩
  · rintro ⟨node, hnode, hq⟩
    exact ((get?_inheritance h horder hnode).2.2 q).mp hq
  · obtain ⟨node, hnode⟩ := FMap.mem_iff_get?.mp ((mem_inheritance h _).mpr hq.defined)
    exact ⟨node, hnode, ((get?_inheritance h horder hnode).2.2 q).mpr hq⟩

/-- **The search succeeds on acyclic inheritance** among defined roles. -/
theorem forall_grounded (horder : Iterates order definitions) :
    (∀ role ∈ inheritance definitions order, DepthFirst.Grounded (inheritance definitions order) role)
      ↔ (∀ raw ∈ configured, ∀ inherited ∈ raw.inherits, Defined configured inherited)
        ∧ ∀ role, ¬ Relation.TransGen (Inherits configured) role role := by
  rw [DepthFirst.forall_grounded_iff, edge_eq h horder]
  refine and_congr_left fun _ => ⟨fun hinto raw hraw q hq => ?_, fun hdefined role q hq => ?_⟩
  · exact (mem_inheritance h _).mp (hinto raw.role q (.inl ⟨raw, hraw, rfl, hq⟩))
  · rw [mem_inheritance h]
    obtain ⟨raw, hraw, -, hq⟩ | ⟨-, -, rfl⟩ := hq
    · exact hdefined raw hraw q hq
    · exact .inl rfl

/-- What a role compiles to. -/
theorem mem_compiled (horder : Iterates order definitions)
    (hgrounded : ∀ role ∈ inheritance definitions order,
      DepthFirst.Grounded (inheritance definitions order) role) {compiled : Compiled}
    (hcompiled : IsLUB (DepthFirst.values (inheritance definitions order) role) compiled)
    (hrole : Defined configured role) :
    (∀ q, q ∈ compiled.1 ↔ Relation.ReflTransGen (Inherits configured) role q)
      ∧ ∀ p, p ∈ compiled.2 ↔ ∃ q, Relation.ReflTransGen (Inherits configured) role q ∧ Carries configured q p := by
  obtain ⟨hroles, hpermissions⟩ := isLUB_prod.mp hcompiled
  -- Everything that can be reached is a node.
  have hnode : ∀ q, Relation.ReflTransGen (Inherits configured) role q →
      ∃ node, (inheritance definitions order).get? q = some node := by
    intro q hreach
    have hq : DepthFirst.Grounded (inheritance definitions order) q := by
      induction hreach with
      | refl => exact hgrounded role ((mem_inheritance h _).mpr hrole)
      | tail _ hedge ih => exact ih.next (by rw [edge_eq h horder]; exact hedge)
    exact FMap.mem_iff_get?.mp hq.mem
  constructor
  · intro q
    rw [DepthFirst.mem_of_isLUB hroles]
    constructor
    · rintro ⟨w, ⟨_, ⟨q', node, hreach, hq', rfl⟩, rfl⟩, hq⟩
      rw [(get?_inheritance h horder hq').1, Finset.mem_singleton] at hq
      rw [hq, ← edge_eq h horder]
      exact hreach
    · intro hreach
      obtain ⟨node, hq⟩ := hnode q hreach
      refine ⟨_, ⟨_, ⟨q, node, ?_, hq, rfl⟩, rfl⟩, ?_⟩
      · rw [DepthFirst.Reaches, edge_eq h horder]
        exact hreach
      · rw [(get?_inheritance h horder hq).1]
        exact Finset.mem_singleton_self q
  · intro p
    rw [DepthFirst.mem_of_isLUB hpermissions]
    constructor
    · rintro ⟨w, ⟨_, ⟨q, node, hreach, hq, rfl⟩, rfl⟩, hp⟩
      rw [DepthFirst.Reaches, edge_eq h horder] at hreach
      exact ⟨q, hreach, ((get?_inheritance h horder hq).2.1 p).mp hp⟩
    · rintro ⟨q, hreach, hp⟩
      obtain ⟨node, hq⟩ := hnode q hreach
      refine ⟨_, ⟨_, ⟨q, node, ?_, hq, rfl⟩, rfl⟩, ((get?_inheritance h horder hq).2.1 p).mpr hp⟩
      rw [DepthFirst.Reaches, edge_eq h horder]
      exact hreach

/-- The permissions that roles list are well formed exactly when the configured ones are. -/
theorem forall_listed (horder : Iterates order definitions) :
    (∀ p ∈ listed definitions order, workspacePermissionPattern p = true)
      ↔ ∀ raw ∈ configured, ∀ p ∈ raw.permissions, workspacePermissionPattern p = true := by
  constructor
  · intro hall raw hraw p hp
    exact hall p ((mem_listed h horder).mpr ⟨raw.role, raw, List.mem_append_right _ hraw, rfl, hp⟩)
  · intro hall p hp
    obtain ⟨role, d, hd, -, hp⟩ := (mem_listed h horder).mp hp
    obtain hd | hd := List.mem_append.mp hd
    · have hbuiltin : ∀ d ∈ builtinRoles, ∀ p ∈ d.permissions, workspacePermissionPattern p = true := by decide
      exact hbuiltin d hd p hp
    · exact hall d hd p hp

end

theorem find?_eq_none_iff {α : Type} {P : α → Bool} {l : List α} :
    l.find? (fun a => P a = false) = none ↔ ∀ a ∈ l, P a = true := by
  simp [List.find?_eq_none]

/-- How the catalogue comes to be built. -/
theorem buildRoleCatalog_eq_ok {first second : List Role} {catalog : Catalog} :
    buildRoleCatalog first second configured = .ok catalog
      ↔ (∀ raw ∈ configured, roleNamePattern (roleName raw.role) = true)
        ∧ (∀ p ∈ listed (definitionsOf configured) first, workspacePermissionPattern p = true)
        ∧ ∃ marks, DepthFirst.visitAll (inheritance (definitionsOf configured) first) second .none = .ok marks
          ∧ catalog = ⟨marks.done, listed (definitionsOf configured) first⟩ := by
  rw [← find?_eq_none_iff, ← find?_eq_none_iff, buildRoleCatalog]
  cases configured.find? fun raw => roleNamePattern (roleName raw.role) = false with
  | some raw => simp
  | none =>
    dsimp only
    cases (listed (definitionsOf configured) first).find? fun p => workspacePermissionPattern p = false with
    | some p => simp
    | none =>
      dsimp only
      cases DepthFirst.visitAll (inheritance (definitionsOf configured) first) second .none with
      | error failure => simp
      | ok marks => simp [eq_comm]

/-- The recursion of `compile` comes to an end. -/
theorem buildRoleCatalog_finishes (first second : List Role) (configured : List RoleDefinition) :
    buildRoleCatalog first second configured ≠ .error (.inheritance .unfinished) := by
  intro h
  unfold buildRoleCatalog at h
  split at h
  · cases h
  dsimp only at h
  split at h
  · cases h
  split at h
  · next failure hvisit =>
    cases h
    exact DepthFirst.visitAll_ne_unfinished second hvisit
  · cases h

/-- **The catalogue of roles**, whatever the order in which Go iterates the definitions.  It is built exactly when the
configured roles are well formed; a search for what a role inherits comes to an end; and a role includes what it can
reach, and allows what a role it can reach lists.  `admin` counts as listing what any role lists. -/
theorem buildRoleCatalog_correct (configured : List RoleDefinition) (first second : List Role)
    (hfirst : Iterates first (definitionsOf configured)) (hsecond : Iterates second (definitionsOf configured)) :
    ((∃ catalog, buildRoleCatalog first second configured = .ok catalog) ↔ WellFormed configured)
      ∧ buildRoleCatalog first second configured ≠ .error (.inheritance .unfinished)
      ∧ ∀ catalog, buildRoleCatalog first second configured = .ok catalog →
        (∀ r q, catalog.includes r q = true
          ↔ Defined configured r ∧ Relation.ReflTransGen (Inherits configured) r q)
        ∧ (∀ r p, catalog.allows r p = true ↔ Defined configured r
          ∧ ∃ q, Relation.ReflTransGen (Inherits configured) r q ∧ Carries configured q p)
        ∧ ∀ r p, Lists configured r p → catalog.allows .admin p = true := by
  have h := represents_definitionsOf configured
  have hnodes : ∀ role, role ∈ second ↔ role ∈ inheritance (definitionsOf configured) first := by
    intro role
    rw [hsecond.mem, h.defined, mem_inheritance h]
  refine ⟨?_, buildRoleCatalog_finishes first second configured, ?_⟩
  · constructor
    · rintro ⟨catalog, hbuild⟩
      obtain ⟨hnames, hpermissions, marks, hvisit, -⟩ := buildRoleCatalog_eq_ok.mp hbuild
      obtain ⟨hdefined, hacyclic⟩ :=
        (forall_grounded h hfirst).mp ((DepthFirst.visitAll_isOk hnodes).mp ⟨marks, hvisit⟩)
      exact ⟨hnames, (forall_listed h hfirst).mp hpermissions, hdefined, hacyclic⟩
    · intro hformed
      obtain ⟨marks, hvisit⟩ := (DepthFirst.visitAll_isOk hnodes).mpr
        ((forall_grounded h hfirst).mpr ⟨hformed.defined, hformed.acyclic⟩)
      exact ⟨_, buildRoleCatalog_eq_ok.mpr
        ⟨hformed.names, (forall_listed h hfirst).mpr hformed.permissions, marks, hvisit, rfl⟩⟩
  · intro catalog hbuild
    obtain ⟨-, -, marks, hvisit, rfl⟩ := buildRoleCatalog_eq_ok.mp hbuild
    have hgrounded := (DepthFirst.visitAll_isOk hnodes).mp ⟨marks, hvisit⟩
    -- A role that is not defined is not compiled; one that is compiles to what it reaches.
    have hfind : ∀ r, (¬ Defined configured r ∧ marks.done.get? r = none) ∨ Defined configured r
        ∧ ∃ compiled : Compiled, marks.done.get? r = some compiled
          ∧ (∀ q, q ∈ compiled.1 ↔ Relation.ReflTransGen (Inherits configured) r q)
          ∧ ∀ p, p ∈ compiled.2 ↔ ∃ q, Relation.ReflTransGen (Inherits configured) r q ∧ Carries configured q p := by
      intro r
      obtain ⟨hin, hout⟩ := DepthFirst.done_visitAll hnodes hvisit r
      rw [mem_inheritance h] at hin hout
      by_cases hr : Defined configured r
      · obtain ⟨compiled, hcompiled, hlub⟩ := hin hr
        exact .inr ⟨hr, compiled, hcompiled, mem_compiled h hfirst hgrounded hlub hr⟩
      · exact .inl ⟨hr, hout hr⟩
    have hallows : ∀ r p, Catalog.allows ⟨marks.done, listed (definitionsOf configured) first⟩ r p = true
        ↔ Defined configured r ∧ ∃ q, Relation.ReflTransGen (Inherits configured) r q ∧ Carries configured q p := by
      intro r p
      obtain ⟨hr, hnone⟩ | ⟨hr, compiled, hsome, -, hpermissions⟩ := hfind r
      · simp [Catalog.allows, hnone, hr]
      · simp [Catalog.allows, hsome, hr, hpermissions]
    refine ⟨fun r q => ?_, hallows, fun r p hp => ?_⟩
    · obtain ⟨hr, hnone⟩ | ⟨hr, compiled, hsome, hroles, -⟩ := hfind r
      · simp [Catalog.includes, hnone, hr]
      · simp [Catalog.includes, hsome, hr, hroles]
    · exact (hallows .admin p).mpr ⟨.inr (.inl rfl), .admin, .refl, .inr ⟨rfl, r, hp⟩⟩

/-- Two roles: an editor is a viewer. -/
def editorial : List RoleDefinition :=
  [{ role := .other "editor", permissions := ["docs.write"], inherits := [.other "viewer"] },
    { role := .other "viewer", permissions := ["docs.read"] }]

/-- **An editor may read**, in two orders of compiling. -/
theorem editorial_correct :
    ∃ first second : List Role, Iterates first (definitionsOf editorial) ∧ Iterates second (definitionsOf editorial)
      ∧ ((buildRoleCatalog first second editorial).toOption.map fun catalog =>
          (catalog.includes (.other "editor") (.other "viewer"), catalog.allows (.other "editor") "docs.read",
            catalog.allows (.other "viewer") "docs.write", catalog.allows .admin "docs.write"))
        = some (true, true, false, true)
      ∧ WellFormed editorial := by
  have hiterates : ∀ order : List Role, order.Perm [.member, .admin, .other "editor", .other "viewer"] →
      Iterates order (definitionsOf editorial) := by
    refine fun order horder => ⟨horder.nodup_iff.mpr (by decide), fun role => ?_⟩
    rw [horder.mem_iff, (represents_definitionsOf editorial).defined]
    simp [Defined, editorial, eq_comm]
  have hfirst := hiterates [.other "viewer", .member, .other "editor", .admin] (by decide)
  have hsecond := hiterates [.other "editor", .other "viewer", .admin, .member] (by decide)
  have hbuilds : ((buildRoleCatalog [.other "viewer", .member, .other "editor", .admin]
      [.other "editor", .other "viewer", .admin, .member] editorial).toOption.map fun catalog =>
        (catalog.includes (.other "editor") (.other "viewer"), catalog.allows (.other "editor") "docs.read",
          catalog.allows (.other "viewer") "docs.write", catalog.allows .admin "docs.write"))
      = some (true, true, false, true) := by decide +kernel
  refine ⟨_, _, hfirst, hsecond, hbuilds, ?_⟩
  refine (buildRoleCatalog_correct editorial _ _ hfirst hsecond).1.mp ?_
  cases hbuild : buildRoleCatalog [.other "viewer", .member, .other "editor", .admin]
      [.other "editor", .other "viewer", .admin, .member] editorial with
  | error e =>
    rw [hbuild] at hbuilds
    cases hbuilds
  | ok catalog => exact ⟨catalog, rfl⟩

end

end Credbound.Manager.RoleMap
