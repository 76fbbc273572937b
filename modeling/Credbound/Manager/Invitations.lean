import Credbound.Manager.Memberships

/-!
# Manager/Invitations — invitations to a workspace, and accounts created in it

`InviteToWorkspace` issues a token for an address and a role; `AcceptInvitation` redeems it for an account
that owns the address, `RegisterFromInvitation` for a new account.  `CreateUser` creates an account with a
membership right away.  Neither of the ways into a workspace asks for the permission to assign roles.
-/

namespace Credbound.Accounts

open Manager Memory
open Procedure (demand lift fail)

variable (m : Accounts) (ctx : Context)

/-! ## Invitations -/

/-- Nothing is read, and what is reported is that there is something already. -/
def requireMissing {α : Type} (found : Option α) : Routine Unit := demand (found.isNone = true) .conflict

/-- The address does not belong to a member of the workspace. -/
def requireStranger (workspaceID : UUID) (email : String) : Routine Unit := do
  match ← Routine.find ctx (.userByEmail email) with
  | none => pure ()
  | some user => do
    let membership ← Routine.find ctx (.membership workspaceID user.id)
    requireMissing membership

/-- `InviteToWorkspaceInput`. -/
structure InviteToWorkspaceInput where
  email : String
  role : Role

/-- The token and the record of an invitation. -/
def newInvitation (io : AccountSupply) (actor : Authentication) (workspaceID : UUID) (email : String)
    (role : Role) : Except Err (String × WorkspaceInvitation) := do
  let id ← io.newID 1
  let secret ← io.secret 0
  let raw := "cbi_" ++ id.string ++ "_" ++ secret
  return (raw, {
    id := id, workspaceID := workspaceID, email := email, role := role, invitedBy := actor.userID
    digest := m.tokenDigest ("workspace-invitation:" ++ raw), createdAt := io.now 1
    expiresAt := io.now 1 + m.invitationTTL
    acceptedAt := none, acceptedUserID := 0, revokedAt := none })

/-- `InviteToWorkspace`. -/
def inviteToWorkspace (io : AccountSupply) (actor : Authentication) (workspaceID : UUID)
    (input : InviteToWorkspaceInput) : Routine (String × WorkspaceInvitation) := do
  m.requireScopedStepUp ctx (io.now 0) actor .workspace
  (m.authorizePermission ctx actor workspaceID "workspace.users.write").routine
  let email ← lift (m.validEmail input.email)
  demand (m.knownRole input.role = true) .invalidInput
  requireStranger ctx workspaceID email
  let pending ← Routine.find ctx (.pendingWorkspaceInvitation workspaceID email)
  requireMissing pending
  let issued ← lift (m.newInvitation io actor workspaceID email input.role)
  let event ← lift (io.audit 2 (io.now 2) actor.userID "workspace.invitation.create" "workspace_invitation"
    issued.2.id.string workspaceID .succeeded "")
  let change ← lift (newChange io 3 "workspace.invitation" "workspace.invitation.create" actor.userID
    workspaceID event)
  (Routine.write ctx (.workspace (.createWorkspaceInvitation issued.2))
    (m.transactionalCommit event [change])).mapError mapStoreError
  pure (issued.1, { issued.2 with digest := [] })

/-- Why an invitation is refused, with the error that is reported. -/
def invitationRefusal (now : Time) (raw : String) (invitation : WorkspaceInvitation) :
    Option (String × Err) :=
  if invitation.revokedAt ≠ none ∨ invitation.acceptedAt ≠ none then
    some ("invalid_credentials", .invalidCredentials)
  else if ¬ now < invitation.expiresAt then some ("expired", .expired)
  else if m.matchTokenDigest invitation.digest ("workspace-invitation:" ++ raw) = false then
    some ("invalid_credentials", .invalidCredentials)
  else none

/-- `usableInvitation`. -/
def usableInvitation (io : AccountSupply) (raw action : String) : Routine WorkspaceInvitation :=
  match parseSecretToken "cbi" raw with
  | none => fail .invalidCredentials
  | some invitationID => do
    let invitation ← (Routine.read ctx (.workspaceInvitationByID invitationID)).mapError invalidMissing
    match m.invitationRefusal (io.now 0) raw invitation with
    | some (reason, err) => denyAuthentication ctx (io.after 1) 0 action reason err
    | none => do
      let workspace ← Routine.read ctx (.workspaceByID invitation.workspaceID)
      demand (workspace.disabledAt = none) .forbidden
      pure { invitation with digest := [] }

/-- `ownsVerifiedEmail`. -/
def ownsVerifiedEmail (userID : UUID) (address : String) : Routine Bool := do
  let emails : List EmailAddress ← .call (.request (.query ctx (.userEmails userID)))
  pure (emails.any fun email => email.address = address ∧ email.verifiedAt ≠ none)

/-- What `AcceptInvitation` writes where it has found no membership. -/
def acceptOver (io : AccountSupply) (actor : Authentication) (invitation : WorkspaceInvitation)
    (previous : Option Membership) : Routine Membership := do
  requireMissing previous
  let now := io.now 0
  let membership : Membership := {
    workspaceID := invitation.workspaceID, userID := actor.userID, role := invitation.role, status := .active
    provisioningSource := "local", createdAt := now, updatedAt := now }
  let event ← lift (io.audit 1 (io.now 1) actor.userID "workspace.invitation.accept" "workspace_invitation"
    invitation.id.string invitation.workspaceID .succeeded "")
  let accepted ← lift (newChange io 2 "workspace.invitation" "workspace.invitation.accept" actor.userID
    invitation.workspaceID event)
  let added ← lift (newChange io 3 "membership.change" "workspace.invitation.accept" actor.userID
    invitation.workspaceID event)
  (Routine.write ctx (.workspace (.acceptWorkspaceInvitation invitation.id actor.userID now membership))
    (m.transactionalCommit event [added, accepted])).mapError mapStoreError
  pure membership

/-- `AcceptInvitation`, from the read of the membership on. -/
def acceptRead (io : AccountSupply) (actor : Authentication) (invitation : WorkspaceInvitation) :
    Routine Membership := do
  let previous ← Routine.find ctx (.membership invitation.workspaceID actor.userID)
  m.acceptOver ctx io actor invitation previous

/-- `AcceptInvitation`. -/
def acceptInvitation (io : AccountSupply) (actor : Authentication) (raw : String) : Routine Membership := do
  m.requireRecentInteractive ctx (io.now 0) actor
  let invitation ← m.usableInvitation ctx (io.after 1) raw "workspace.invitation.accept"
  let owned ← ownsVerifiedEmail ctx actor.userID invitation.email
  if owned then m.acceptRead ctx (io.after 3) actor invitation
  else denyAuthentication ctx (io.after 3) actor.userID "workspace.invitation.accept" "email_mismatch" .forbidden

/-! ## New accounts -/

/-- The records of a new account. -/
structure NewAccount where
  user : User
  email : EmailAddress
  password : PasswordCredential
  membership : Membership

/-- The records of an account created with a password, an address and a membership. -/
def newAccount (io : AccountSupply) (workspaceID : UUID) (role : Role) (address displayName hash : String)
    (lastSeenAt : Option Time) : Except Err NewAccount := do
  let userID ← io.newID 0
  let emailID ← io.newID 1
  let now := io.now 0
  return {
    user := {
      id := userID, email := address, displayName := displayName, disabled := false
      lastSeenAt := lastSeenAt, createdAt := now, updatedAt := now }
    email := {
      id := emailID, userID := userID, address := address, primary := true, verifiedAt := some now
      createdAt := now, updatedAt := now }
    password := { userID := userID, hash := hash, updatedAt := now }
    membership := {
      workspaceID := workspaceID, userID := userID, role := role, status := .active
      provisioningSource := "local", createdAt := now, updatedAt := now } }

/-- `RegisterFromInvitationInput`. -/
structure RegisterFromInvitationInput where
  displayName : String
  password : String

/-- `RegisterFromInvitation`. -/
def registerFromInvitation (io : AccountSupply) (raw : String) (input : RegisterFromInvitationInput) :
    Routine (Authentication × User) := do
  let invitation ← m.usableInvitation ctx io raw "workspace.invitation.register"
  m.domainRequiresSSO ctx (io.after 2) invitation.email "workspace.invitation.register"
  demand (trimSpace input.displayName ≠ "") .invalidInput
  lift (m.validatePassword input.password)
  let owner ← Routine.find ctx (.userByEmail invitation.email)
  requireMissing owner
  let hash ← lift (io.hash 0 input.password)
  let io := io.after 4
  let new ← lift (newAccount io invitation.workspaceID invitation.role invitation.email
    (trimSpace input.displayName) hash (some (io.now 0)))
  let event ← lift (io.audit 2 (io.now 2) new.user.id "workspace.invitation.register" "workspace_invitation"
    invitation.id.string invitation.workspaceID .succeeded "")
  let created ← lift (newChange io 3 "user.create" "workspace.invitation.register" new.user.id
    invitation.workspaceID event)
  let accepted ← lift (newChange io 4 "workspace.invitation" "workspace.invitation.register" new.user.id
    invitation.workspaceID event)
  (Routine.write ctx (.directory (.registerInvitedUser invitation.id new.user new.email new.password
    new.membership (io.now 0))) (m.transactionalCommit event [created, accepted])).mapError mapStoreError
  let authn : Authentication := {
    userID := new.user.id, method := .password, level := aal1, authenticatedAt := io.now 0
    credentialDigest := credentialFingerprint hash }
  pure (authn, new.user)

/-- `CreateUserInput`. -/
structure CreateUserInput where
  email : String
  displayName : String
  role : Role
  password : String

/-- `CreateUser`. -/
def createUser (io : AccountSupply) (actor : Authentication) (workspaceID : UUID) (input : CreateUserInput) :
    Routine User := do
  m.requireScopedStepUp ctx (io.now 0) actor .workspace
  (m.authorizePermission ctx actor workspaceID "workspace.users.write").routine
  let email ← lift (m.validEmail input.email)
  demand (trimSpace input.displayName ≠ "") .invalidInput
  demand (m.knownRole input.role = true) .invalidInput
  lift (m.validatePassword input.password)
  let hash ← lift (io.hash 0 input.password)
  let io := io.after 1
  let new ← lift (newAccount io workspaceID input.role email (trimSpace input.displayName) hash none)
  let event ← lift (io.audit 2 (io.now 2) actor.userID "user.create" "user" new.user.id.string workspaceID
    .succeeded "")
  let change ← lift (newChange io 3 "user.create" "auth.user.create" actor.userID workspaceID event)
  (Routine.write ctx (.account (.createUser new.user new.email new.password new.membership))
    (m.transactionalCommit event [change])).mapError mapStoreError
  pure new.user

end Credbound.Accounts
