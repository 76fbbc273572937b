import Credbound.Manager.Config

/-!
# Manager/Permissions — `AuthorizePermission`

The tenant authorization every resource scope goes through.  `authorizePermission_ok` says what a
call that passes has seen: an actor past the second factor, an enabled user, an enabled workspace and
an active membership whose role carries the permission.
-/

namespace Credbound.Manager

open Procedure

variable {S : Type}

/-- `ErrNotFound` reads as `ErrForbidden`. -/
def forbidMissing (e : Err) : Err := if e = .notFound then .forbidden else e

/-- `AuthorizePermission`. -/
def authorizePermission (m : Manager) (ctx : Context) (authn : Authentication) (workspaceID : UUID)
    (permission : String) : Action Unit := do
  .demand (authn.userID ≠ 0) .unauthorized
  .demand (authn.secondFactorRequired = false) .stepUpRequired
  .demand (workspaceID ≠ 0 ∧ workspacePermissionPattern permission = true) .invalidInput
  .demand (authn.scopes = [] ∨ authn.hasScope permission = true) .forbidden
  let _ ← expect ctx (.userByID authn.userID) (fun user => user.disabled = false) .forbidden
  .demand (authn.workspaceID = 0 ∨ authn.workspaceID = workspaceID) .forbidden
  let workspace ← (ask ctx (.workspaceByID workspaceID)).mapError forbidMissing
  .demand (workspace.disabledAt = none) .forbidden
  .demand (¬ (workspace.requireMFA ∧ authn.interactive ∧ authn.level < aal2)) .stepUpRequired
  let membership ← (ask ctx (.membership workspaceID authn.userID)).mapError forbidMissing
  .demand (membership.status = .active ∧ m.allows membership.role permission = true) .forbidden

/-! ## What a call that passes has seen -/

/-- The user exists and is not disabled. -/
def Backend.UserEnabled (b : Backend S) (s : S) (ctx : Context) (userID : UUID) : Prop :=
  ∃ user, b.ask s ctx (.userByID userID) = .ok user ∧ user.disabled = false

/-- The workspace exists and is not disabled. -/
def Backend.WorkspaceEnabled (b : Backend S) (s : S) (ctx : Context) (workspaceID : UUID) : Prop :=
  ∃ workspace, b.ask s ctx (.workspaceByID workspaceID) = .ok workspace ∧ workspace.disabledAt = none

/-- The user has an active membership. -/
def Backend.ActiveMember (b : Backend S) (s : S) (ctx : Context) (workspaceID userID : UUID) : Prop :=
  ∃ membership, b.ask s ctx (.membership workspaceID userID) = .ok membership
    ∧ membership.status = .active

/-- What `AuthorizePermission` asks of the state it is called in. -/
def Backend.Permits (b : Backend S) (m : Manager) (s : S) (ctx : Context) (authn : Authentication)
    (workspaceID : UUID) (permission : String) : Prop :=
  authn.userID ≠ 0 ∧ authn.secondFactorRequired = false
    ∧ (workspaceID ≠ 0 ∧ workspacePermissionPattern permission = true)
    ∧ (authn.scopes = [] ∨ authn.hasScope permission = true)
    ∧ b.UserEnabled s ctx authn.userID
    ∧ (authn.workspaceID = 0 ∨ authn.workspaceID = workspaceID)
    ∧ ∃ workspace, b.ask s ctx (.workspaceByID workspaceID) = .ok workspace
      ∧ workspace.disabledAt = none
      ∧ ¬ (workspace.requireMFA ∧ authn.interactive ∧ authn.level < aal2)
      ∧ ∃ membership, b.ask s ctx (.membership workspaceID authn.userID) = .ok membership
        ∧ membership.status = .active ∧ m.allows membership.role permission = true

variable {b : Backend S} {m : Manager} {s t : S} {ctx : Context} {authn : Authentication}
  {workspaceID : UUID} {permission : String}

/-- **`AuthorizePermission` passes exactly when the state permits it**, and only reads. -/
theorem authorizePermission_ok {u : Unit} :
    b.Returns (m.authorizePermission ctx authn workspaceID permission) s (.ok u) t
      ↔ b.Permits m s ctx authn workspaceID permission ∧ t = s := by
  unfold Backend.Returns authorizePermission Backend.Permits Backend.UserEnabled
  simp only [runs_bind_ok, runs_demand_ok, runs_expect_ok, runs_mapError_ok, runs_ask, true_and]
  constructor
  · rintro ⟨-, _, ⟨h₁, rfl⟩, -, _, ⟨h₂, rfl⟩, -, _, ⟨h₃, rfl⟩, -, _, ⟨h₄, rfl⟩, user, _,
      ⟨rfl, huser, henabled⟩, -, _, ⟨h₅, rfl⟩, workspace, _, ⟨rfl, hworkspace⟩, -, _, ⟨h₆, rfl⟩, -, _,
      ⟨h₇, rfl⟩, membership, _, ⟨rfl, hmembership⟩, h₈, rfl⟩
    exact ⟨⟨h₁, h₂, h₃, h₄, ⟨user, huser, henabled⟩, h₅, workspace, hworkspace, h₆, h₇, membership,
      hmembership, h₈⟩, rfl⟩
  · rintro ⟨⟨h₁, h₂, h₃, h₄, ⟨user, huser, henabled⟩, h₅, workspace, hworkspace, h₆, h₇, membership,
      hmembership, h₈⟩, rfl⟩
    exact ⟨(), _, ⟨h₁, rfl⟩, (), _, ⟨h₂, rfl⟩, (), _, ⟨h₃, rfl⟩, (), _, ⟨h₄, rfl⟩, user, _,
      ⟨rfl, huser, henabled⟩, (), _, ⟨h₅, rfl⟩, workspace, _, ⟨rfl, hworkspace⟩, (), _, ⟨h₆, rfl⟩, (),
      _, ⟨h₇, rfl⟩, membership, _, ⟨rfl, hmembership⟩, h₈, rfl⟩

/-- Checking permissions one after the other passes when the state permits each. -/
theorem authorizePermissions_ok {permissions : List String} {u : Unit} : b.Returns (each (fun permission =>
        (m.authorizePermission ctx authn workspaceID permission).mapError fun _ => .forbidden)
        permissions) s (.ok u) t
      ↔ (∀ permission ∈ permissions, b.Permits m s ctx authn workspaceID permission) ∧ t = s :=
  runs_each_ok fun _ _ _ _ => runs_mapError_ok.trans authorizePermission_ok

namespace Backend.Permits

section

variable (h : b.Permits m s ctx authn workspaceID permission)

include h

theorem userEnabled : b.UserEnabled s ctx authn.userID := h.2.2.2.2.1

theorem workspaceEnabled : b.WorkspaceEnabled s ctx workspaceID := by
  obtain ⟨-, -, -, -, -, -, workspace, hworkspace, henabled, -⟩ := h
  exact ⟨workspace, hworkspace, henabled⟩

theorem activeMember : b.ActiveMember s ctx workspaceID authn.userID := by
  obtain ⟨-, -, -, -, -, -, -, -, -, -, membership, hmembership, hactive, -⟩ := h
  exact ⟨membership, hmembership, hactive⟩

end

end Backend.Permits

end Credbound.Manager
