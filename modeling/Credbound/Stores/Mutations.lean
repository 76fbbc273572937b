import Credbound.Manager.Roles
import Credbound.Stores.Switches

/-!
# Stores/Mutations — two authorizations of one actor

`authorizeWorkspaceMutation` and `AuthorizePermission` decide about the same actor, workspace and
permission.  The first asks for a step-up, as far as the policy of the scope goes, and looks neither at the
scopes of the actor nor at the second factor the workspace requires.  Where it accepts, the second accepts
exactly if these two are met (`permission_of_mutation_iff`), which a policy that always asks for a step-up
ensures for the second factor (`level_of_required`).
-/

namespace Credbound

open Procedure

namespace Manager

variable {S α : Type}

/-- The function succeeds in `s`, when it is called alone. -/
def Succeeds (h : Program.Handler Access S) (p : Routine α) (s : S) : Prop :=
  ∃ a t, p.Runs h Eq (fun _ _ _ => True) s (.ok a) t

theorem succeeds_iff {h : Program.Handler Access S} {p : Routine α} {s : S} :
    Succeeds h p s ↔ ∃ a, (p.program.exec h s).1 = .ok a := by
  constructor
  · rintro ⟨a, t, hrun⟩
    exact ⟨a, congrArg Prod.fst (Program.runs_alone.mp hrun)⟩
  · rintro ⟨a, ha⟩
    exact ⟨a, _, Program.runs_alone.mpr (Prod.ext ha rfl)⟩

/-- **A store behind both interfaces**: a read leaves it as it is, requests of the authorization server are
answered by the backend, and the records of users, workspaces and memberships are the same in both. -/
structure Serves (h : Program.Handler Access S) (b : Backend S) : Prop where
  request : ∀ ⦃β : Type⦄ (r : Request β) s, h (.request r) s = b.handler r s
  reading : ∀ ⦃β : Type⦄ (e : Access β) s, Reading e → (h e s).2 = s
  userByID : ∀ ctx id s, (h (.read ctx (.userByID id)) s).1 = b.ask s ctx (.userByID id)
  workspaceByID : ∀ ctx id s, (h (.read ctx (.workspaceByID id)) s).1 = b.ask s ctx (.workspaceByID id)
  membership : ∀ ctx workspaceID userID s,
    (h (.read ctx (.membership workspaceID userID)) s).1 = b.ask s ctx (.membership workspaceID userID)

variable {h : Program.Handler Access S} {b : Backend S}

/-- A function of the authorization server succeeds behind either. -/
theorem Serves.succeeds_routine (hstore : Serves h b) {p : Action α} {s : S} :
    Succeeds h p.routine s ↔ b.Accepts p s := by
  rw [succeeds_iff]
  show (∃ a, ((Program.translate _ p.program).exec h s).1 = .ok a) ↔ _
  rw [Program.exec_translate hstore.request]
  constructor
  · rintro ⟨a, ha⟩
    exact ⟨a, _, Backend.returns_iff.mpr (Prod.ext ha rfl)⟩
  · rintro ⟨a, t, hrun⟩
    exact ⟨a, congrArg Prod.fst (Backend.returns_iff.mp hrun)⟩

/-- What only reads leaves the state. -/
theorem Serves.state_of_reading (hstore : Serves h b) {p : Routine α} {s t : S} {r : Except Err α}
    (hp : p.Emits Reading) (hrun : p.Runs h Eq (fun _ _ _ => True) s r t) : t = s :=
  Program.Runs.invariant_of_emits (I := fun t => t = s) hrun hp (fun _ _ hrely hs => hrely ▸ hs)
    (fun _ e m he _ hm => (hstore.reading e m he).trans hm) rfl

end Manager

namespace Accounts

open Manager Memory

section

variable {S : Type} {h : Program.Handler Access S} {b : Backend S} {m : Accounts} {ctx : Context} {now : Time}
  {authn : Authentication} {s t : S}

/-- What a step-up asks of every actor, and of one whose scope always requires it. -/
theorem actor_of_requireScopedStepUp {scope : StepUpScope} {u : Unit}
    (hrun : (m.requireScopedStepUp ctx now authn scope).Runs h Eq (fun _ _ _ => True) s (.ok u) t) :
    authn.userID ≠ 0 ∧ authn.secondFactorRequired = false
      ∧ (m.stepUp scope = .required → aal2 ≤ authn.level) := by
  obtain ⟨applies, s₁, happlies, hrest⟩ := runs_bind_ok.mp hrun
  cases applies with
  | true =>
    obtain ⟨_, _, hstep, -⟩ := runs_bind_ok.mp hrest
    have hstep := (runs_lift.mp hstep).1.symm
    simp only [requireStepUp, check_bind, require_eq_ok] at hstep
    obtain ⟨_, huser, -, hlevel, hsecond, -⟩ := hstep
    exact ⟨huser, hsecond, fun _ => hlevel⟩
  | false =>
    obtain ⟨_, _, huser, hrest⟩ := runs_bind_ok.mp hrest
    obtain ⟨_, _, hinteractive, -⟩ := runs_bind_ok.mp hrest
    refine ⟨(runs_demand_ok.mp huser).1, (runs_demand_ok.mp hinteractive).1.2, ?_⟩
    intro hrequired
    simp only [stepUpApplies, hrequired, runs_pure, Except.ok.injEq, Bool.false_eq_true,
      false_and] at happlies

/-- What `authorizeWorkspaceMutation` has seen when it accepts. -/
theorem seen_of_authorizeWorkspaceMutation (hstore : Serves h b) {workspaceID : UUID}
    {permission operation : String} (hop : operation ≠ "workspace.enable")
    (hmutation : Succeeds h (m.authorizeWorkspaceMutation ctx now authn workspaceID permission operation) s) :
    validUUIDv7 workspaceID = true ∧ b.UserEnabled s ctx authn.userID
      ∧ (authn.workspaceID = 0 ∨ authn.workspaceID = workspaceID)
      ∧ ∃ workspace, b.ask s ctx (.workspaceByID workspaceID) = .ok workspace ∧ workspace.disabledAt = none
        ∧ ∃ membership, b.ask s ctx (.membership workspaceID authn.userID) = .ok membership
          ∧ membership.status = .active ∧ m.allows membership.role permission = true := by
  obtain ⟨u, t, hrun⟩ := hmutation
  simp only [authorizeWorkspaceMutation, Routine.expect, Routine.read, runs_bind_ok,
    runs_demand_ok, runs_lookup_ok, runs_mapError_ok, runs_call,
    true_and] at hrun
  obtain ⟨_, s₁, hstep, _, _, ⟨hvalid, rfl⟩, user, _, ⟨_, rfl, huser, henabled, rfl⟩, _, _, ⟨hbound, rfl⟩,
    workspace, _, ⟨_, rfl, hworkspace, rfl⟩, _, _, ⟨hopen, rfl⟩, membership, _,
    ⟨_, rfl, hmembership, rfl⟩, hallowed, -⟩ := hrun
  obtain rfl := hstore.state_of_reading (m.requireScopedStepUp_reading ctx now authn .workspace) hstep
  have hsame : ∀ {α : Type} (q : Read α) (s : S), (h (.read ctx q) s).2 = s :=
    fun q s => hstore.reading (.read ctx q) s trivial
  simp only [hsame, hstore.userByID, hstore.workspaceByID, hstore.membership] at huser hworkspace hmembership
  exact ⟨hvalid, ⟨user, huser, henabled⟩, hbound, workspace, hworkspace, hopen.resolve_right hop, membership,
    hmembership, hallowed⟩

end

theorem ne_zero_of_validUUIDv7 {id : UUID} (h : validUUIDv7 id = true) : id ≠ 0 := by
  rintro rfl
  exact absurd h (by decide)

/-- **What the second authorization asks beyond the first**: where `authorizeWorkspaceMutation` accepts,
`AuthorizePermission` accepts exactly if a workspace that requires a second factor finds one, and the
actor is not scoped or has the permission as a scope. -/
theorem permission_of_mutation_iff {S : Type} (h : Program.Handler Access S) (b : Backend S)
    (hstore : Serves h b) (m : Accounts) (catalog : RoleCatalog) (hm : m.Catalogued catalog) (ctx : Context)
    (now : Time) (actor : Authentication) (workspaceID : UUID) (permission operation : String)
    (hop : operation ≠ "workspace.enable") (s : S)
    (hmutation : Succeeds h
      (m.authorizeWorkspaceMutation ctx now actor workspaceID permission operation) s) :
    Succeeds h (m.authorizePermission ctx actor workspaceID permission).routine s
      ↔ (∀ workspace, b.ask s ctx (.workspaceByID workspaceID) = .ok workspace →
          workspace.requireMFA = true → actor.interactive = true → aal2 ≤ actor.level)
        ∧ (actor.scopes = [] ∨ actor.hasScope permission = true) := by
  obtain ⟨hvalid, huser, hbound, workspace, hworkspace, hopen, membership, hmembership, hactive, hallows⟩ :=
    seen_of_authorizeWorkspaceMutation hstore hop hmutation
  obtain ⟨_, _, hrun⟩ := hmutation
  obtain ⟨_, _, hstep, -⟩ := runs_bind_ok.mp hrun
  obtain ⟨hactor, hsecond, -⟩ := actor_of_requireScopedStepUp hstep
  obtain ⟨configured, hbuilt⟩ := hm.built
  have hpattern := allows_pattern hbuilt (hm.allows ▸ hallows)
  rw [hstore.succeeds_routine]
  constructor
  · rintro ⟨u, t, hreturns⟩
    obtain ⟨⟨-, -, -, hscope, -, -, workspace', hworkspace', -, hmfa, -⟩, -⟩ :=
      authorizePermission_ok.mp hreturns
    refine ⟨fun workspace'' hworkspace'' hrequires hinteractive => ?_, hscope⟩
    obtain rfl := Except.ok.inj (hworkspace'.symm.trans hworkspace'')
    exact UInt8.not_lt.mp fun hlt => hmfa ⟨hrequires, hinteractive, hlt⟩
  · rintro ⟨hmfa, hscope⟩
    refine ⟨(), s, authorizePermission_ok.mpr ⟨⟨hactor, hsecond, ⟨ne_zero_of_validUUIDv7 hvalid, hpattern⟩,
      hscope, huser, hbound, workspace, hworkspace, hopen, ?_, membership, hmembership, hactive, hallows⟩, rfl⟩⟩
    rintro ⟨hrequires, hinteractive, hlt⟩
    exact absurd (hmfa workspace hworkspace hrequires hinteractive) (UInt8.not_le.mpr hlt)

/-- The memory store. -/
theorem memory_serves : Serves Memory.access Memory.backend where
  request _ _ _ := rfl
  reading := access_reading
  userByID _ _ _ := rfl
  workspaceByID _ _ _ := rfl
  membership _ _ _ _ := rfl

end Accounts

namespace Stores

open Accounts Manager Memory

/-- The built-in roles, and no second factors asked for. -/
def plainAccounts : Accounts := tenantAccounts.withRoles []

theorem plainAccounts_catalogued : plainAccounts.Catalogued (catalogOf []) :=
  tenantAccounts.catalogued_withRoles (by decide +kernel)

/-- User 1, authorized both ways in a workspace that requires no second factor. -/
theorem permission_of_mutation_tenant :
    Succeeds Memory.access (plainAccounts.authorizePermission {} tenantAdministrator (uuidv7 1)
      "workspace.users.write").routine (Store.after tenantCalls) :=
  (permission_of_mutation_iff Memory.access Memory.backend memory_serves plainAccounts (catalogOf [])
    plainAccounts_catalogued {} 1000 tenantAdministrator (uuidv7 1) "workspace.users.write" "membership.add"
    (by decide) (Store.after tenantCalls) (succeeds_iff.mpr ⟨(), by decide +kernel⟩)).mpr
    ⟨fun _ _ _ _ => by decide, .inl rfl⟩

/-- The workspace requires a second factor. -/
def guardedCalls : List Call := tenantCalls ++
  [tenantCall (.workspace (.updateWorkspace { (default : Workspace) with id := uuidv7 1, requireMFA := true })) 6]

/-- **A mutation is authorized where the permission is refused**: for an administrator who signed in with a
password only, in a workspace that requires a second factor, and for one with a scope of other things. -/
theorem mutation_without_permission :
    let accepted (actor : Authentication) (calls : List Call) :=
      ((plainAccounts.authorizeWorkspaceMutation {} 1000 actor (uuidv7 1) "workspace.users.write"
        "membership.add").program.exec Memory.access (Store.after calls)).1.isOk
    let permitted (actor : Authentication) (calls : List Call) :=
      ((plainAccounts.authorizePermission {} actor (uuidv7 1)
        "workspace.users.write").routine.program.exec Memory.access (Store.after calls)).1.isOk
    let passwordOnly := { tenantAdministrator with level := aal1 }
    let narrowed := { tenantAdministrator with scopes := ["workspace.users.read"] }
    (accepted passwordOnly guardedCalls = true ∧ permitted passwordOnly guardedCalls = false)
      ∧ accepted narrowed tenantCalls = true ∧ permitted narrowed tenantCalls = false := by
  decide +kernel

end Stores

end Credbound
