import Credbound.Memory.Helpers

/-!
# Memory/Workspaces — workspaces, domains, invitations, memberships and instance roles

`createWorkspaceDomain` is the one method that writes before its commit is prepared: a stale pending
claim on the name is evicted on the way in.
-/

namespace Credbound.Memory

open Store

/-! ## Domains -/

/-- The holder of a domain name defends it: it is confirmed, or not created before `staleBefore`. -/
def Defends (holder : WorkspaceDomain) (staleBefore : Time) : Prop :=
  holder.confirmedAt ≠ none ∨ ¬ holder.createdAt < staleBefore

instance (holder : WorkspaceDomain) (staleBefore : Time) : Decidable (Defends holder staleBefore) :=
  inferInstanceAs (Decidable (_ ∨ _))

/-- Store a domain and index its name. -/
def Store.putDomain (s : Store) (domain : WorkspaceDomain) : Store :=
  { s with
    domains := s.domains.set domain.id domain
    domainNames := s.domainNames.set domain.domain domain.id }

/-- `delete(s.domains, holderID)`. -/
def Store.evictDomain (s : Store) (holderID : UUID) : Store :=
  { s with domains := s.domains.del holderID }

/-- `CreateWorkspaceDomain`.  The eviction of a stale holder precedes `prepareCommitLocked`. -/
def createWorkspaceDomain (domain : WorkspaceDomain) (staleBefore : Time) (ctx : Context)
    (commit : Commit) (s : Store) : Attempt Unit :=
  match ctx.err with
  | some e => .stopped (.err e) s
  | none =>
    if domain.workspaceID ∉ s.workspaces then .stopped (.err .notFound) s
    else if domain.id ∈ s.domains then .stopped (.err .conflict) s
    else
      match s.domainNames.get? domain.domain with
      | none => s.prepareAndWrite commit (fun s => .ok (s.putDomain domain)) ()
      | some holderID =>
        if Defends (s.domains.getI holderID) staleBefore then .stopped (.err .conflict) s
        else (s.evictDomain holderID).prepareAndWrite commit (fun s => .ok (s.putDomain domain)) ()

/-- `ConfirmWorkspaceDomain`. -/
def confirmWorkspaceDomain (id : UUID) (at' : Time) : Mutation where
  check s := do
    let domain ← find s.domains id .notFound
    require (domain.confirmedAt = none) .conflict
  write _ s := .ok { s with domains := s.domains.modify id fun v =>
    { v with confirmedAt := some at', updatedAt := at' } }

/-- `UpdateWorkspaceDomainPolicy`. -/
def updateWorkspaceDomainPolicy (id : UUID) (policy : WorkspaceDomainPolicyInput) (at' : Time) :
    Mutation where
  check s := do
    let domain ← find s.domains id .notFound
    require (domain.confirmedAt ≠ none) .conflict
  write _ s := .ok { s with domains := s.domains.modify id fun v =>
    { v with
      autoJoin := policy.autoJoin
      autoJoinRole := policy.autoJoinRole
      ssoProviderConfigurationID := policy.ssoProviderConfigurationID
      enforceSSO := policy.enforceSSO
      updatedAt := at' } }

/-- `DeleteWorkspaceDomain`. -/
def deleteWorkspaceDomain (id : UUID) : Mutation where
  check s := require (id ∈ s.domains) .notFound
  write _ s := .ok
    { s with
      domainNames := s.domainNames.del (s.domains.getI id).domain
      domains := s.domains.del id }

/-! ## Workspaces -/

/-- `CreateWorkspace`. -/
def createWorkspace (workspace : Workspace) (owner : Membership) : Mutation where
  check s := do
    require (workspace.id ∉ s.workspaces) .conflict
    require (owner.userID ∈ s.users) .notFound
  write _ s := .ok
    { s with
      workspaces := s.workspaces.set workspace.id workspace
      memberships := s.memberships.set workspace.id
        ((∅ : FMap UUID Membership).set owner.userID (normalizeMembership owner)) }

/-- `UpdateWorkspace`: the creation time is kept, every other field is the caller's. -/
def updateWorkspace (workspace : Workspace) : Mutation where
  check s := require (workspace.id ∈ s.workspaces) .notFound
  write _ s :=
    let workspace := { workspace with createdAt := (s.workspaces.getI workspace.id).createdAt }
    .ok { s with workspaces := s.workspaces.set workspace.id workspace }

/-- `SetWorkspaceDisabled`: disabling revokes the credentials of the current members. -/
def setWorkspaceDisabled (workspaceID : UUID) (disabled : Bool) (at' : Time) : Mutation where
  check s := require (workspaceID ∈ s.workspaces) .notFound
  write _ s :=
    let t := { s with workspaces := s.workspaces.modify workspaceID fun v =>
      { v with disabledAt := if disabled then some at' else none, updatedAt := at' } }
    .ok (if disabled then
      (s.memberships.getI workspaceID).keyList.foldl
        (fun t userID => t.revokeUserCredentialsLocked userID workspaceID at') t
      else t)

/-! ## Invitations -/

/-- The invitation is neither accepted nor revoked. -/
def Pending (invitation : WorkspaceInvitation) : Prop :=
  invitation.acceptedAt = none ∧ invitation.revokedAt = none

instance (invitation : WorkspaceInvitation) : Decidable (Pending invitation) :=
  inferInstanceAs (Decidable (_ ∧ _))

/-- `CreateWorkspaceInvitation`. -/
def createWorkspaceInvitation (invitation : WorkspaceInvitation) : Mutation where
  check s := do
    require (invitation.workspaceID ∈ s.workspaces) .notFound
    require (invitation.id ∉ s.invitations) .conflict
    require (¬ s.invitations.Any fun _ other => other.workspaceID = invitation.workspaceID
      ∧ other.email = invitation.email ∧ Pending other) .conflict
  write _ s := .ok { s with invitations := s.invitations.set invitation.id invitation }

/-- Mark an invitation accepted by a user. -/
def Store.acceptInvitation (s : Store) (invitationID userID : UUID) (at' : Time) : Store :=
  { s with invitations := s.invitations.modify invitationID fun v =>
      { v with acceptedAt := some at', acceptedUserID := userID } }

/-- `AcceptWorkspaceInvitation`: the membership is written over whatever the user had. -/
def acceptWorkspaceInvitation (invitationID userID : UUID) (at' : Time) (membership : Membership) :
    Mutation where
  check s := do
    let invitation ← find s.invitations invitationID .notFound
    require (Pending invitation) .conflict
    require (userID ∈ s.users) .notFound
  write _ s := .ok ((s.acceptInvitation invitationID userID at').putMembership
    membership.workspaceID userID (normalizeMembership membership))

/-- `RevokeWorkspaceInvitation`. -/
def revokeWorkspaceInvitation (workspaceID invitationID : UUID) (at' : Time) : Mutation where
  check s := do
    let invitation ← find s.invitations invitationID .notFound
    require (invitation.workspaceID = workspaceID) .notFound
    require (Pending invitation) .conflict
  write _ s := .ok { s with invitations := s.invitations.modify invitationID fun v =>
    { v with revokedAt := some at' } }

/-! ## Memberships -/

/-- `UpsertMembership`.  The guard compares the status as given, before an empty one is made
active, and so does the revocation. -/
def upsertMembership (membership : Membership) : Mutation where
  check s := do
    require (membership.workspaceID ∈ s.workspaces) .notFound
    require (membership.userID ∈ s.users) .notFound
    require (¬ ((s.membership? membership.workspaceID membership.userID).any (fun m => ActiveAdmin m)
      ∧ ¬ ActiveAdmin membership
      ∧ s.activeWorkspaceAdminsLocked membership.workspaceID ≤ 1)) .conflict
  write commit s :=
    let membership := match s.membership? membership.workspaceID membership.userID with
      | some existing => { membership with createdAt := existing.createdAt }
      | none => membership
    let t := s.putMembership membership.workspaceID membership.userID
      (normalizeMembership membership)
    .ok (if membership.status ≠ .active then
      t.revokeUserCredentialsLocked membership.userID membership.workspaceID commit.audit.occurredAt
      else t)

/-- `RemoveMembership`. -/
def removeMembership (workspaceID userID : UUID) (at' : Time) : Mutation where
  check s := do
    let members ← find s.memberships workspaceID .notFound
    let membership ← find members userID .notFound
    require (¬ (ActiveAdmin membership ∧ s.activeWorkspaceAdminsLocked workspaceID ≤ 1)) .conflict
  write _ s := .ok
    ({ s with memberships := s.memberships.modify workspaceID (·.del userID) }
      |>.revokeUserCredentialsLocked userID workspaceID at')

/-! ## Instance roles -/

/-- `SetInstanceRole`: the guard counts root administrators whether or not they are disabled. -/
def setInstanceRole (admin : InstanceAdministrator) : Mutation where
  check s := do
    require (admin.userID ∈ s.users) .notFound
    require (¬ ((s.admins.get? admin.userID).any (fun existing => existing.role = .root)
      ∧ admin.role ≠ .root ∧ s.roots ≤ 1)) .conflict
  write _ s :=
    let admin := match s.admins.get? admin.userID with
      | some existing => { admin with createdAt := existing.createdAt }
      | none => admin
    .ok { s with admins := s.admins.set admin.userID admin }

/-- `RemoveInstanceRole`: the same count. -/
def removeInstanceRole (userID : UUID) : Mutation where
  check s := do
    let admin ← find s.admins userID .notFound
    require (¬ (admin.role = .root ∧ s.roots ≤ 1)) .conflict
  write _ s := .ok { s with admins := s.admins.del userID }

/-- `AppendAudit`: a commit without another mutation. -/
def appendAudit : Mutation where
  check _ := .ok ()
  write _ s := .ok s

/-! ## The operations -/

/-- The workspace, invitation, membership and role operations with their arguments. -/
inductive WorkspaceOp
  | confirmWorkspaceDomain (id : UUID) (at' : Time)
  | updateWorkspaceDomainPolicy (id : UUID) (policy : WorkspaceDomainPolicyInput) (at' : Time)
  | deleteWorkspaceDomain (id : UUID)
  | createWorkspace (workspace : Workspace) (owner : Membership)
  | updateWorkspace (workspace : Workspace)
  | setWorkspaceDisabled (workspaceID : UUID) (disabled : Bool) (at' : Time)
  | createWorkspaceInvitation (invitation : WorkspaceInvitation)
  | acceptWorkspaceInvitation (invitationID userID : UUID) (at' : Time) (membership : Membership)
  | revokeWorkspaceInvitation (workspaceID invitationID : UUID) (at' : Time)
  | upsertMembership (membership : Membership)
  | removeMembership (workspaceID userID : UUID) (at' : Time)
  | setInstanceRole (admin : InstanceAdministrator)
  | removeInstanceRole (userID : UUID)
  | appendAudit

/-- The method an operation names. -/
def WorkspaceOp.mutation : WorkspaceOp → Mutation
  | .confirmWorkspaceDomain id at' => Memory.confirmWorkspaceDomain id at'
  | .updateWorkspaceDomainPolicy id policy at' => Memory.updateWorkspaceDomainPolicy id policy at'
  | .deleteWorkspaceDomain id => Memory.deleteWorkspaceDomain id
  | .createWorkspace workspace owner => Memory.createWorkspace workspace owner
  | .updateWorkspace workspace => Memory.updateWorkspace workspace
  | .setWorkspaceDisabled workspaceID disabled at' =>
      Memory.setWorkspaceDisabled workspaceID disabled at'
  | .createWorkspaceInvitation invitation => Memory.createWorkspaceInvitation invitation
  | .acceptWorkspaceInvitation invitationID userID at' membership =>
      Memory.acceptWorkspaceInvitation invitationID userID at' membership
  | .revokeWorkspaceInvitation workspaceID invitationID at' =>
      Memory.revokeWorkspaceInvitation workspaceID invitationID at'
  | .upsertMembership membership => Memory.upsertMembership membership
  | .removeMembership workspaceID userID at' => Memory.removeMembership workspaceID userID at'
  | .setInstanceRole admin => Memory.setInstanceRole admin
  | .removeInstanceRole userID => Memory.removeInstanceRole userID
  | .appendAudit => Memory.appendAudit

end Credbound.Memory
