import Credbound.Manager.Accounts

/-!
# Manager/Roles — the catalogue of workspace roles

`New` compiles the configured roles into a catalogue, once.  A definition of `member` or `admin` adds to
the built-in one, every other role inherits from `member`, `admin` gets every permission there is, and the
inheritance is closed: a compiled role lists the roles it includes and the permissions it carries.

* `compile_fuel` — the recursion is bounded by the number of definitions, since a role that comes up on
  the way to itself is an error.
* `allows_pattern` — a permission that some role carries has the form of one.

Go maps that are used as sets are lists here, so sorting and deduplicating them is left out.
-/

namespace Credbound

namespace Manager

/-- The text of a role. -/
def roleName : Role → String
  | .member => "member"
  | .admin => "admin"
  | .other name => name

/-- `roleNamePattern`. -/
def roleNamePattern : String → Bool :=
  headed Char.isLower (fun c => c.isLower || c.isDigit || c ∈ "._-".toList) 63

/-- `RoleDefinition`. -/
structure RoleDefinition where
  role : Role
  permissions : List String := []
  inherits : List Role := []

/-- The built-in roles. -/
def builtinRoles : List RoleDefinition := [
  { role := .member, permissions := ["workspace.access"] },
  { role := .admin
    permissions := ["workspace.access", "workspace.users.read", "workspace.users.write",
      "workspace.settings.write", "workspace.rbac.write", "workspace.audit.read",
      "workspace.credentials.manage", "oauth.resource.manage"]
    inherits := [.member] }]

/-- A definition with what a configured one adds to it. -/
def RoleDefinition.add (definition raw : RoleDefinition) : RoleDefinition :=
  let inherits := definition.inherits ++ raw.inherits
  { role := raw.role
    permissions := definition.permissions ++ raw.permissions
    inherits := if raw.role ≠ .member ∧ raw.role ≠ .admin ∧ .member ∉ inherits then inherits ++ [.member]
      else inherits }

/-- Register a configured definition. -/
def register (definitions : List RoleDefinition) (raw : RoleDefinition) : List RoleDefinition :=
  if definitions.any fun d => d.role = raw.role then
    definitions.map fun d => if d.role = raw.role then d.add raw else d
  else definitions ++ [RoleDefinition.add { role := raw.role } raw]

/-- `compiledRole`: the roles it includes, itself among them, and the permissions it carries. -/
structure CompiledRole where
  roles : List Role
  permissions : List String

/-- A compiled role with what it inherits. -/
def CompiledRole.inherit (compiled inherited : CompiledRole) : CompiledRole where
  roles := compiled.roles ++ inherited.roles
  permissions := compiled.permissions ++ inherited.permissions

/-- `compile`, with the roles that are being visited.  A role that has been compiled before compiles to
the same again, so the source keeps it. -/
def compile (definitions : List RoleDefinition) : Nat → List Role → Role → Except Err CompiledRole
  | 0, _, _ => .error .invalidInput
  | fuel + 1, visiting, role =>
    match definitions.find? fun d => d.role = role with
    | none => .error .invalidInput
    | some definition =>
      if role ∈ visiting then .error .invalidInput
      else definition.inherits.foldlM
        (fun compiled inheritedRole => do
          let inherited ← compile definitions fuel (role :: visiting) inheritedRole
          return compiled.inherit inherited)
        { roles := [role], permissions := definition.permissions }

/-- `roleCatalog`. -/
structure RoleCatalog where
  roles : List (Role × CompiledRole)
  permissions : List String

/-- The definitions with every permission there is given to `admin`. -/
def empower (definitions : List RoleDefinition) : List RoleDefinition :=
  definitions.map fun d =>
    if d.role = .admin then { d with permissions := d.permissions ++ definitions.flatMap (·.permissions) }
    else d

/-- `buildRoleCatalog`. -/
def buildRoleCatalog (configured : List RoleDefinition) : Except Err RoleCatalog := do
  require (∀ raw ∈ configured, roleNamePattern (roleName raw.role) = true) .invalidInput
  let definitions := configured.foldl register builtinRoles
  require (∀ d ∈ definitions, ∀ permission ∈ d.permissions, workspacePermissionPattern permission = true)
    .invalidInput
  let empowered := empower definitions
  let roles ← empowered.foldlM
    (fun roles d => do
      let compiled ← compile empowered (empowered.length + 1) [] d.role
      return roles ++ [(d.role, compiled)])
    []
  return ⟨roles, definitions.flatMap (·.permissions)⟩

namespace RoleCatalog

/-- `catalog.roles[role]`. -/
def find (catalog : RoleCatalog) (role : Role) : Option CompiledRole :=
  (catalog.roles.find? fun entry => entry.1 = role).map (·.2)

/-- `normalize`. -/
def normalize (catalog : RoleCatalog) (role : Role) : Except Err Role :=
  if (catalog.find role).isSome then .ok role else .error .invalidInput

/-- `includes`. -/
def includes (catalog : RoleCatalog) (role required : Role) : Bool :=
  (catalog.find role).any fun compiled => required ∈ compiled.roles

/-- `allows`. -/
def allows (catalog : RoleCatalog) (role : Role) (permission : String) : Bool :=
  (catalog.find role).any fun compiled => permission ∈ compiled.permissions

end RoleCatalog

/-! ## The recursion -/

variable {definitions : List RoleDefinition}

/-- The definition of a role, if there is one, is for that role. -/
theorem mem_of_find? {role : Role} {definition : RoleDefinition}
    (h : definitions.find? (fun d => d.role = role) = some definition) :
    definition ∈ definitions ∧ definition.role = role := by
  have hrole := List.find?_some h
  exact ⟨List.mem_of_find?_eq_some h, of_decide_eq_true hrole⟩

/-- **More fuel changes nothing**: the roles on the way are different and defined, so there are no more of
them than definitions. -/
theorem compile_fuel (fuel : Nat) (visiting : List Role) (role : Role) (hnodup : visiting.Nodup)
    (hdefined : visiting ⊆ definitions.map RoleDefinition.role) (hfuel : definitions.length < fuel + visiting.length) :
    compile definitions (fuel + 1) visiting role = compile definitions fuel visiting role := by
  induction fuel generalizing visiting role with
  | zero =>
    have hle := (hnodup.subperm hdefined).length_le
    rw [List.length_map] at hle
    omega
  | succ fuel ih =>
    rw [compile, compile]
    cases hfind : definitions.find? fun d => d.role = role with
    | none => rfl
    | some definition =>
      dsimp only
      split
      · rfl
      · rename_i hnew
        obtain ⟨hmem, hrole⟩ := mem_of_find? hfind
        have hrole := List.mem_map.mpr ⟨definition, hmem, hrole⟩
        have hsame := fun inheritedRole => ih (role :: visiting) inheritedRole (hnodup.cons hnew)
          (List.cons_subset.mpr ⟨hrole, hdefined⟩) (by rw [List.length_cons]; omega)
        simp only [hsame]

/-! ## Permissions -/

/-- A property of permissions that the definitions have, a compiled role has. -/
theorem compile_permissions {P : String → Prop} (hP : ∀ d ∈ definitions, ∀ p ∈ d.permissions, P p) (fuel : Nat)
    (visiting : List Role) (role : Role) :
    Yields (fun c : CompiledRole => ∀ p ∈ c.permissions, P p) (compile definitions fuel visiting role) := by
  induction fuel generalizing visiting role with
  | zero => exact fun _ h => nomatch h
  | succ fuel ih =>
    rw [compile]
    split
    · exact fun _ h => nomatch h
    · rename_i definition hfind
      split
      · exact fun _ h => nomatch h
      · refine Yields.foldlM (fun c inheritedRole hc => ?_) (hP definition (mem_of_find? hfind).1) _
        refine .bind fun inherited hinherited => .pure fun p hp => ?_
        obtain hp | hp := List.mem_append.mp hp
        · exact hc p hp
        · exact ih (role :: visiting) inheritedRole inherited hinherited p hp

theorem empower_permissions {P : String → Prop} (hP : ∀ d ∈ definitions, ∀ p ∈ d.permissions, P p) :
    ∀ d ∈ empower definitions, ∀ p ∈ d.permissions, P p := by
  intro d hd p hp
  obtain ⟨d, hmem, rfl⟩ := List.mem_map.mp hd
  split at hp
  · obtain hp | hp := List.mem_append.mp hp
    · exact hP d hmem p hp
    · obtain ⟨d', hmem', hp⟩ := List.mem_flatMap.mp hp
      exact hP d' hmem' p hp
  · exact hP d hmem p hp

/-- **A permission that a role carries has the form of one.** -/
theorem allows_pattern {configured : List RoleDefinition} {catalog : RoleCatalog} {role : Role}
    {permission : String} (hbuild : buildRoleCatalog configured = .ok catalog)
    (hallows : catalog.allows role permission = true) : workspacePermissionPattern permission = true := by
  simp only [buildRoleCatalog, check_bind, require_eq_ok, check_pure] at hbuild
  obtain ⟨_, -, _, hpatterns, roles, hroles, rfl⟩ := hbuild
  have hall : ∀ entry ∈ roles, ∀ p ∈ entry.2.permissions, workspacePermissionPattern p = true := by
    refine Yields.foldlM (P := fun roles : List (Role × CompiledRole) =>
      ∀ entry ∈ roles, ∀ p ∈ entry.2.permissions, workspacePermissionPattern p = true)
      (fun roles d hroles => .bind fun compiled hcompiled => .pure fun entry hentry => ?_) (by simp) _
      roles hroles
    obtain hentry | hentry := List.mem_append.mp hentry
    · exact hroles entry hentry
    · rw [List.mem_singleton.mp hentry]
      exact compile_permissions (empower_permissions hpatterns) _ _ _ compiled hcompiled
  obtain ⟨compiled, hfound, hmem⟩ := Option.any_eq_true _ _ |>.mp hallows
  obtain ⟨entry, hentry, rfl⟩ := Option.map_eq_some_iff.mp hfound
  exact hall entry (List.mem_of_find?_eq_some hentry) permission (of_decide_eq_true hmem)

end Manager

/-! ## Who has a role -/

open Manager in
/-- `Authorize`, by the catalogue of roles.  The event that reports a denial is left out. -/
def Manager.RoleCatalog.authorize (catalog : RoleCatalog) (ctx : Context) (authn : Authentication) (workspaceID : UUID)
    (minimumRole : Role) : Routine Unit := do
  .demand (authn.userID ≠ 0) .unauthorized
  .demand (authn.secondFactorRequired = false) .stepUpRequired
  .demand (workspaceID ≠ 0) .invalidInput
  let _ ← Routine.expect ctx (.userByID authn.userID) (fun user => user.disabled = false) .forbidden
  let required ← .lift (catalog.normalize minimumRole)
  .demand (authn.scopes = [] ∨ authn.hasScope "*" = true) .forbidden
  .demand (authn.workspaceID = 0 ∨ authn.workspaceID = workspaceID) .forbidden
  let workspace ← (Routine.read ctx (.workspaceByID workspaceID)).mapError forbidMissing
  .demand (workspace.disabledAt = none) .forbidden
  .demand (¬ (workspace.requireMFA ∧ authn.interactive ∧ authn.level < aal2)) .stepUpRequired
  let membership ← (Routine.read ctx (.membership workspaceID authn.userID)).mapError forbidMissing
  .demand (membership.status = .active ∧ catalog.includes membership.role required = true) .forbidden

open Manager in
/-- The manager decides about roles by the catalogue that `New` compiled from the configured ones. -/
structure Accounts.Catalogued (m : Accounts) (catalog : RoleCatalog) : Prop where
  built : ∃ configured, buildRoleCatalog configured = .ok catalog
  allows : m.allows = catalog.allows
  knownRole : ∀ role, m.knownRole role = (catalog.find role).isSome

/-- The catalogue of configured roles that compile. -/
def Manager.catalogOf (configured : List Manager.RoleDefinition) : Manager.RoleCatalog :=
  (Manager.buildRoleCatalog configured).toOption.getD ⟨[], []⟩

/-- The manager with a catalogue compiled from configured roles. -/
def Accounts.withRoles (m : Accounts) (configured : List Manager.RoleDefinition) : Accounts :=
  { m with
    allows := (Manager.catalogOf configured).allows
    knownRole := fun role => ((Manager.catalogOf configured).find role).isSome }

theorem Accounts.catalogued_withRoles (m : Accounts) {configured : List Manager.RoleDefinition}
    (hbuilds : (Manager.buildRoleCatalog configured).isOk = true) :
    (m.withRoles configured).Catalogued (Manager.catalogOf configured) := by
  refine ⟨⟨configured, ?_⟩, rfl, fun _ => rfl⟩
  unfold Manager.catalogOf
  cases hbuilt : Manager.buildRoleCatalog configured with
  | ok catalog => rfl
  | error e =>
    rw [hbuilt] at hbuilds
    cases hbuilds

end Credbound
