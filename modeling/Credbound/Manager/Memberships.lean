import Credbound.Manager.SignIns

/-!
# Manager/Memberships — the functions that change the local memberships of a workspace

`GrantRole`, `AddMembership`, `SetMembershipStatus` and `RemoveMembership`.  Each of them reads the
membership, refuses one that is provisioned from outside, and then writes the whole record; the store
is not asked again whose record it is.
-/

namespace Credbound.Accounts

open Manager Memory
open Procedure (demand lift fail)

variable (m : Accounts) (ctx : Context)

/-! ## Roles -/

/-- What `GrantRole` writes over the membership it has read, or where it has found none. -/
def grantRoleOver (io : AccountSupply) (actor : Authentication) (workspaceID userID : UUID) (role : Role)
    (previous : Option Membership) : Routine Unit := do
  demand (previous.all (fun previous =>
    previous.provisioningSource = "" ∨ previous.provisioningSource = "local") = true) .conflict
  let membership : Membership := {
    workspaceID := workspaceID, userID := userID, role := role
    status := (previous.map Membership.status).getD .active
    provisioningSource := "local"
    createdAt := (previous.map Membership.createdAt).getD (io.now 1), updatedAt := io.now 2 }
  let event ← lift (io.audit 3 (io.now 3) actor.userID "membership.role.set" "user" userID.string workspaceID
    .succeeded "")
  let change ← lift (newChange io 4 "role.grant" "rbac.role.grant" actor.userID workspaceID event)
  (Routine.write ctx (.workspace (.upsertMembership membership))
    (m.transactionalCommit event [change])).mapError mapStoreError

/-- `GrantRole`, from the read of the membership on. -/
def grantRoleRead (io : AccountSupply) (actor : Authentication) (workspaceID userID : UUID) (role : Role) :
    Routine Unit := do
  let previous ← Routine.find ctx (.membership workspaceID userID)
  m.grantRoleOver ctx io actor workspaceID userID role previous

/-- `GrantRole`. -/
def grantRole (io : AccountSupply) (actor : Authentication) (workspaceID userID : UUID) (role : Role) :
    Routine Unit := do
  m.requireScopedStepUp ctx (io.now 0) actor .workspace
  (m.authorizePermission ctx actor workspaceID "workspace.rbac.write").routine
  demand (m.knownRole role = true) .invalidInput
  let _ ← Routine.read ctx (.userByID userID)
  m.grantRoleRead ctx io actor workspaceID userID role

/-! ## Adding, suspending, removing -/

/-- The operation `upsertLocalMembership` reports. -/
def localOperation (add : Bool) : String := if add then "membership.add" else "membership.status.set"

/-- What `upsertLocalMembership` writes over the membership it has read, or where it has found none. -/
def upsertLocalOver (io : AccountSupply) (actor : Authentication) (workspaceID userID : UUID) (role : Role)
    (status : MembershipStatus) (add : Bool) (previous : Option Membership) : Routine Membership := do
  demand (previous.all (fun current => current.provisioningSource = "local" ∧ add = false) = true) .conflict
  demand (previous.isSome = true ∨ add = true) .notFound
  let membership : Membership := {
    workspaceID := workspaceID, userID := userID, role := role, status := status
    provisioningSource := "local"
    createdAt := (previous.map Membership.createdAt).getD (io.now 1), updatedAt := io.now 1 }
  let event ← lift (io.audit 2 (io.now 2) actor.userID (localOperation add) "membership" userID.string
    workspaceID .succeeded "")
  let change ← lift (newChange io 3 "membership.change" (localOperation add) actor.userID workspaceID event)
  (Routine.write ctx (.workspace (.upsertMembership membership))
    (m.transactionalCommit event [change])).mapError mapStoreError
  pure membership

/-- `upsertLocalMembership`, from the read of the membership on. -/
def upsertLocalRead (io : AccountSupply) (actor : Authentication) (workspaceID userID : UUID) (role : Role)
    (status : MembershipStatus) (add : Bool) : Routine Membership := do
  let previous ← Routine.find ctx (.membership workspaceID userID)
  m.upsertLocalOver ctx io actor workspaceID userID role status add previous

/-- Adding a member takes the permission to assign roles as well. -/
def requireAddition (actor : Authentication) (workspaceID : UUID) (add : Bool) : Routine Unit :=
  if add then (m.authorizePermission ctx actor workspaceID "workspace.rbac.write").routine else pure ()

/-- `upsertLocalMembership`. -/
def upsertLocalMembership (io : AccountSupply) (actor : Authentication) (workspaceID userID : UUID)
    (role : Role) (status : MembershipStatus) (add : Bool) : Routine Membership := do
  m.authorizeWorkspaceMutation ctx (io.now 0) actor workspaceID "workspace.users.write" (localOperation add)
  m.requireAddition ctx actor workspaceID add
  demand (m.knownRole role = true) .invalidInput
  let _ ← Routine.read ctx (.userByID userID)
  m.upsertLocalRead ctx io actor workspaceID userID role status add

/-- `AddMembership`. -/
def addMembership (io : AccountSupply) (actor : Authentication) (workspaceID userID : UUID) (role : Role) :
    Routine Membership :=
  m.upsertLocalMembership ctx io actor workspaceID userID role .active true

/-- `SetMembershipStatus`, from its first read of the membership on. -/
def setStatusRead (io : AccountSupply) (actor : Authentication) (workspaceID userID : UUID)
    (status : MembershipStatus) : Routine Membership := do
  let current ← Routine.read ctx (.membership workspaceID userID)
  m.upsertLocalMembership ctx (io.after 1) actor workspaceID userID current.role status false

/-- `SetMembershipStatus`: the role is copied from a read of its own. -/
def setMembershipStatus (io : AccountSupply) (actor : Authentication) (workspaceID userID : UUID)
    (status : MembershipStatus) : Routine Membership := do
  demand (status = .active ∨ status = .suspended) .invalidInput
  m.authorizeWorkspaceMutation ctx (io.now 0) actor workspaceID "workspace.users.write" "membership.status.set"
  m.setStatusRead ctx io actor workspaceID userID status

/-- `RemoveMembership`, with the membership it has read. -/
def removeOver (io : AccountSupply) (actor : Authentication) (workspaceID userID : UUID)
    (previous : Membership) : Routine Unit := do
  demand (previous.provisioningSource = "local") .conflict
  let event ← lift (io.audit 1 (io.now 1) actor.userID "membership.remove" "membership" userID.string
    workspaceID .succeeded "")
  let change ← lift (newChange io 2 "membership.change" "membership.remove" actor.userID workspaceID event)
  (Routine.write ctx (.workspace (.removeMembership workspaceID userID (io.now 3)))
    (m.transactionalCommit event [change])).mapError mapStoreError

/-- `RemoveMembership`, from the read of the membership on. -/
def removeRead (io : AccountSupply) (actor : Authentication) (workspaceID userID : UUID) : Routine Unit := do
  let previous ← Routine.read ctx (.membership workspaceID userID)
  m.removeOver ctx io actor workspaceID userID previous

/-- `RemoveMembership`. -/
def removeMembership (io : AccountSupply) (actor : Authentication) (workspaceID userID : UUID) :
    Routine Unit := do
  m.authorizeWorkspaceMutation ctx (io.now 0) actor workspaceID "workspace.users.write" "membership.remove"
  m.removeRead ctx io actor workspaceID userID

end Credbound.Accounts
