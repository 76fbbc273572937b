import Credbound.Memory.Accounts
import Credbound.Memory.Workspaces

/-!
# Memory/Directory — linked identities and accounts that arrive from elsewhere

SSO identities, just-in-time and invited registration, and the SCIM configuration, credential, user
and group writes.  `updateSCIMUser`, `upsertSCIMGroup` and `deleteSCIMGroup` assign memberships
without making the inner map, so they panic where the workspace has none.
-/

namespace Credbound.Memory

open Store

/-! ## SSO identities -/

/-- Store an identity and index it. -/
def Store.putSSOIdentity (s : Store) (identity : SSOIdentity) : Store :=
  { s with
    ssoIdentities := s.ssoIdentities.set identity.id identity
    ssoKeys := s.ssoKeys.set (ssoKeyOf identity) identity.id }

/-- `LinkSSO`. -/
def linkSSO (identity : SSOIdentity) : Mutation where
  check s := do
    require (identity.userID ∈ s.users) .notFound
    require (identity.id ∉ s.ssoIdentities) .conflict
    require (ssoKeyOf identity ∉ s.ssoKeys) .conflict
  write _ s :=
    let t := s.putSSOIdentity identity
    .ok (match identity.lastUsedAt with
      | some usedAt => (t.touchLastSeenLocked identity.userID usedAt).clearThrottle identity.userID
      | none => t)

/-- `TouchSSO`. -/
def touchSSO (userID identityID : UUID) (usedAt : Time) : Mutation where
  check s := do
    let identity ← find s.ssoIdentities identityID .notFound
    require (identity.userID = userID) .notFound
  write _ s := .ok
    (({ s with ssoIdentities := s.ssoIdentities.modify identityID fun v =>
        { v with lastUsedAt := some usedAt } }.touchLastSeenLocked userID usedAt).clearThrottle userID)

/-- The authentication methods of a user, as `UnlinkSSO` counts them. -/
def Store.methods (s : Store) (userID : UUID) : Nat :=
  (s.passkeys.getI userID).keys.card + (if userID ∈ s.passwords then 1 else 0)
    + s.ssoIdentities.count fun _ other => other.userID = userID

/-- `UnlinkSSO`. -/
def unlinkSSO (userID identityID : UUID) : Mutation where
  check s := do
    let identity ← find s.ssoIdentities identityID .notFound
    require (identity.userID = userID) .notFound
    require (¬ s.methods userID ≤ 1) .conflict
  write _ s := .ok
    { s with
      ssoKeys := s.ssoKeys.del (ssoKeyOf (s.ssoIdentities.getI identityID))
      ssoIdentities := s.ssoIdentities.del identityID }

/-- `JITProvisionSSOUser`. -/
def jitProvisionSSOUser (user : User) (email : EmailAddress) (membership : Membership)
    (identity : SSOIdentity) : Mutation where
  check s := do
    require (user.id ∉ s.users) .conflict
    require (email.address ∉ s.emailIDs) .conflict
    require (membership.workspaceID ∈ s.workspaces) .notFound
    require (identity.id ∉ s.ssoIdentities) .conflict
    require (ssoKeyOf identity ∉ s.ssoKeys) .conflict
  write _ s :=
    let t := { s with
      users := s.users.set user.id user
      emailAddresses := s.emailAddresses.set email.id email
      emailIDs := s.emailIDs.set email.address email.id
      emails := s.emails.set email.address user.id }
    .ok ((t.putMembership membership.workspaceID user.id (normalizeMembership membership))
      |>.putSSOIdentity identity)

/-- `RegisterInvitedUser`. -/
def registerInvitedUser (invitationID : UUID) (user : User) (email : EmailAddress)
    (password : PasswordCredential) (membership : Membership) (at' : Time) : Mutation where
  check s := do
    let invitation ← find s.invitations invitationID .notFound
    require (Pending invitation) .conflict
    require (user.id ∉ s.users) .conflict
    require (email.address ∉ s.emailIDs) .conflict
    require (membership.workspaceID ∈ s.workspaces) .notFound
  write _ s := .ok
    (((s.acceptInvitation invitationID user.id at').putAccount user email password).putMembership
      membership.workspaceID user.id (normalizeMembership membership))

/-! ## SCIM configurations and credentials -/

/-- `CreateSCIMConfiguration`. -/
def createSCIMConfiguration (configuration : SCIMConfiguration) (credential : SCIMCredential) :
    Mutation where
  check s := do
    require (configuration.workspaceID ∈ s.workspaces) .notFound
    require (configuration.id ∉ s.scimConfigurations) .conflict
    require (credential.pfx ∉ s.scimCredentialKeys) .conflict
  write _ s := .ok
    { s with
      scimConfigurations := s.scimConfigurations.set configuration.id configuration
      scimCredentials := s.scimCredentials.set credential.id credential
      scimCredentialKeys := s.scimCredentialKeys.set credential.pfx credential.id }

/-- `UpdateSCIMConfiguration`: each recomputed membership is written over the stored one. -/
def updateSCIMConfiguration (configuration : SCIMConfiguration) (memberships : List Membership) :
    Mutation where
  check s := do
    let current ← find s.scimConfigurations configuration.id .notFound
    require (current.workspaceID = configuration.workspaceID) .notFound
  write _ s :=
    let t := { s with
      scimConfigurations := s.scimConfigurations.set configuration.id configuration }
    .ok (memberships.foldl
      (fun t m => t.putMembership m.workspaceID m.userID (normalizeMembership m)) t)

/-- `SaveSCIMCredential`. -/
def saveSCIMCredential (credential : SCIMCredential) : Mutation where
  check s := do
    require (credential.configurationID ∈ s.scimConfigurations) .notFound
    require (credential.id ∉ s.scimCredentials) .conflict
    require (credential.pfx ∉ s.scimCredentialKeys) .conflict
  write _ s := .ok
    { s with
      scimCredentials := s.scimCredentials.set credential.id credential
      scimCredentialKeys := s.scimCredentialKeys.set credential.pfx credential.id }

/-- `RevokeSCIMCredential`. -/
def revokeSCIMCredential (configurationID id : UUID) (revokedAt : Time) : Mutation where
  check s := do
    let credential ← find s.scimCredentials id .notFound
    require (credential.configurationID = configurationID) .notFound
  write _ s := .ok { s with scimCredentials := s.scimCredentials.modify id fun v =>
    { v with revokedAt := some revokedAt } }

/-- `TouchSCIMCredential`. -/
def touchSCIMCredential (id : UUID) (usedAt : Time) : Mutation where
  check s := require (id ∈ s.scimCredentials) .notFound
  write _ s := .ok { s with scimCredentials := s.scimCredentials.modify id fun v =>
    { v with lastUsedAt := some usedAt } }

/-- `DisableSCIMConfiguration`. -/
def disableSCIMConfiguration (id : UUID) (disabledAt : Time) : Mutation where
  check s := require (id ∈ s.scimConfigurations) .notFound
  write _ s := .ok
    { s with
      scimConfigurations := s.scimConfigurations.modify id fun v =>
        { v with enabled := false, updatedAt := disabledAt }
      scimCredentials := s.scimCredentials.mapVal fun _ v =>
        if v.configurationID = id ∧ v.revokedAt = none then { v with revokedAt := some disabledAt }
        else v }

/-! ## SCIM users -/

/-- The configuration exists and belongs to the workspace. -/
def Store.checkSCIMWorkspace (s : Store) (configurationID workspaceID : UUID) :
    Except Err Unit := do
  let configuration ← find s.scimConfigurations configurationID .notFound
  require (configuration.workspaceID = workspaceID) .notFound

/-- `CreateSCIMUser`: only a verified address joins the sign-in lookup. -/
def createSCIMUser (user : User) (email : EmailAddress) (membership : Membership)
    (link : SCIMUser) : Mutation where
  check s := do
    s.checkSCIMWorkspace link.configurationID membership.workspaceID
    require (¬ (user.id ∈ s.users ∨ s.SCIMUserConflictLocked link 0)) .conflict
    require (email.address ∉ s.emailIDs) .conflict
  write _ s :=
    let t := { s with
      users := s.users.set user.id user
      emailAddresses := s.emailAddresses.set email.id email
      emailIDs := s.emailIDs.set email.address email.id
      emails := if email.verifiedAt.isSome then s.emails.set email.address user.id else s.emails }
    .ok ((t.putMembership membership.workspaceID user.id (normalizeMembership membership))
      |>.putSCIMUserLocked link)

/-- `AdoptSCIMUser`. -/
def adoptSCIMUser (membership : Membership) (link : SCIMUser) : Mutation where
  check s := do
    s.checkSCIMWorkspace link.configurationID membership.workspaceID
    require (link.userID ∈ s.users) .notFound
    require (membership.userID ∈ s.memberships.getI membership.workspaceID) .notFound
    require (¬ s.SCIMUserConflictLocked link 0) .conflict
  write _ s := .ok ((s.putMembership membership.workspaceID membership.userID
    (normalizeMembership membership)).putSCIMUserLocked link)

/-- `UpdateSCIMUser`: the membership is assigned whatever it replaces, and deactivation revokes
personal access tokens only. -/
def updateSCIMUser (link : SCIMUser) (membership : Membership) (revokeWorkspacePATs : Bool) :
    Mutation where
  check s := do
    let current ← find s.scimUsers link.id .notFound
    require (current.configurationID = link.configurationID ∧ current.userID = link.userID) .notFound
    require (¬ s.SCIMUserConflictLocked link link.id) .conflict
  write _ s := do
    let t := (s.deleteSCIMUserIndexesLocked (s.scimUsers.getI link.id)).putSCIMUserLocked link
    let t ← t.assignMembership membership.workspaceID membership.userID
      (normalizeMembership membership)
    .ok (if revokeWorkspacePATs then
      { t with pats := t.pats.mapVal fun _ v =>
          if v.userID = link.userID ∧ v.workspaceID = membership.workspaceID ∧ v.revokedAt = none then
            { v with revokedAt := some link.updatedAt } else v }
      else t)

/-! ## SCIM groups -/

/-- Drop a group's external identifier from the index. -/
def Store.deleteSCIMGroupIndex (s : Store) (group : SCIMGroup) : Store :=
  if group.externalID = "" then s
  else { s with scimGroupExternal := s.scimGroupExternal.del (group.configurationID, group.externalID) }

/-- `UpsertSCIMGroup`. -/
def upsertSCIMGroup (group : SCIMGroup) (memberships : List Membership) : Mutation where
  check s := do
    require (group.configurationID ∈ s.scimConfigurations) .notFound
    require ((s.scimGroups.get? group.id).all fun current =>
      current.configurationID = group.configurationID) .conflict
    require (¬ (group.externalID ≠ ""
      ∧ (s.scimGroupExternal.get? (group.configurationID, group.externalID)).any
        fun id => id ≠ group.id)) .conflict
  write _ s :=
    let t := match s.scimGroups.get? group.id with
      | some current => s.deleteSCIMGroupIndex current
      | none => s
    let t := { t with scimGroups := t.scimGroups.set group.id group }
    let t := if group.externalID = "" then t else
      { t with scimGroupExternal :=
          t.scimGroupExternal.set (group.configurationID, group.externalID) group.id }
    assignMemberships memberships t

/-- `DeleteSCIMGroup`: the group the caller passes, with its deletion time, replaces the stored
one. -/
def deleteSCIMGroup (group : SCIMGroup) (memberships : List Membership) : Mutation where
  check s := do
    let current ← find s.scimGroups group.id .notFound
    require (current.configurationID = group.configurationID) .notFound
  write _ s :=
    let t := { s with scimGroups := s.scimGroups.set group.id group }
    assignMemberships memberships (t.deleteSCIMGroupIndex (s.scimGroups.getI group.id))

/-! ## The operations -/

/-- The identity and directory operations with their arguments. -/
inductive DirectoryOp
  | linkSSO (identity : SSOIdentity)
  | touchSSO (userID identityID : UUID) (usedAt : Time)
  | unlinkSSO (userID identityID : UUID)
  | jitProvisionSSOUser (user : User) (email : EmailAddress) (membership : Membership)
      (identity : SSOIdentity)
  | registerInvitedUser (invitationID : UUID) (user : User) (email : EmailAddress)
      (password : PasswordCredential) (membership : Membership) (at' : Time)
  | createSCIMConfiguration (configuration : SCIMConfiguration) (credential : SCIMCredential)
  | updateSCIMConfiguration (configuration : SCIMConfiguration) (memberships : List Membership)
  | saveSCIMCredential (credential : SCIMCredential)
  | revokeSCIMCredential (configurationID id : UUID) (revokedAt : Time)
  | touchSCIMCredential (id : UUID) (usedAt : Time)
  | disableSCIMConfiguration (id : UUID) (disabledAt : Time)
  | createSCIMUser (user : User) (email : EmailAddress) (membership : Membership) (link : SCIMUser)
  | adoptSCIMUser (membership : Membership) (link : SCIMUser)
  | updateSCIMUser (link : SCIMUser) (membership : Membership) (revokeWorkspacePATs : Bool)
  | upsertSCIMGroup (group : SCIMGroup) (memberships : List Membership)
  | deleteSCIMGroup (group : SCIMGroup) (memberships : List Membership)

/-- The method an operation names. -/
def DirectoryOp.mutation : DirectoryOp → Mutation
  | .linkSSO identity => Memory.linkSSO identity
  | .touchSSO userID identityID usedAt => Memory.touchSSO userID identityID usedAt
  | .unlinkSSO userID identityID => Memory.unlinkSSO userID identityID
  | .jitProvisionSSOUser user email membership identity =>
      Memory.jitProvisionSSOUser user email membership identity
  | .registerInvitedUser invitationID user email password membership at' =>
      Memory.registerInvitedUser invitationID user email password membership at'
  | .createSCIMConfiguration configuration credential =>
      Memory.createSCIMConfiguration configuration credential
  | .updateSCIMConfiguration configuration memberships =>
      Memory.updateSCIMConfiguration configuration memberships
  | .saveSCIMCredential credential => Memory.saveSCIMCredential credential
  | .revokeSCIMCredential configurationID id revokedAt =>
      Memory.revokeSCIMCredential configurationID id revokedAt
  | .touchSCIMCredential id usedAt => Memory.touchSCIMCredential id usedAt
  | .disableSCIMConfiguration id disabledAt => Memory.disableSCIMConfiguration id disabledAt
  | .createSCIMUser user email membership link => Memory.createSCIMUser user email membership link
  | .adoptSCIMUser membership link => Memory.adoptSCIMUser membership link
  | .updateSCIMUser link membership revokeWorkspacePATs =>
      Memory.updateSCIMUser link membership revokeWorkspacePATs
  | .upsertSCIMGroup group memberships => Memory.upsertSCIMGroup group memberships
  | .deleteSCIMGroup group memberships => Memory.deleteSCIMGroup group memberships

end Credbound.Memory
