import Credbound.Memory.Helpers

/-!
# Memory/Accounts — users, passwords, one-time credentials and login throttles

The mutating methods of the store around one account, from `Bootstrap` to `AnonymizeUser`.  Each is
a `Mutation` with the checks and the writes in the order of the source; `recordLoginFailure` also
returns a value.
-/

namespace Credbound.Memory

open Store

/-! ## Creating accounts -/

/-- The account rows `Bootstrap`, `CreateUser` and `RegisterInvitedUser` write: the address joins
the sign-in lookup whether or not it is verified. -/
def Store.putAccount (s : Store) (user : User) (email : EmailAddress)
    (password : PasswordCredential) : Store :=
  { s with
    users := s.users.set user.id user
    emails := s.emails.set email.address user.id
    emailAddresses := s.emailAddresses.set email.id email
    emailIDs := s.emailIDs.set email.address email.id
    passwords := s.passwords.set user.id password }

/-- `Bootstrap`. -/
def bootstrap (user : User) (email : EmailAddress) (password : PasswordCredential)
    (workspace : Workspace) (membership : Membership) (admin : InstanceAdministrator) :
    Mutation where
  check s := require (s.users = ∅) .conflict
  write _ s := .ok
    { s.putAccount user email password with
      workspaces := s.workspaces.set workspace.id workspace
      memberships := s.memberships.set workspace.id
        ((∅ : FMap UUID Membership).set user.id (normalizeMembership membership))
      admins := s.admins.set user.id admin }

/-- `CreateUser`. -/
def createUser (user : User) (email : EmailAddress) (password : PasswordCredential)
    (membership : Membership) : Mutation where
  check s := do
    require (user.id ∉ s.users) .conflict
    require (email.address ∉ s.emailIDs) .conflict
    require (membership.workspaceID ∈ s.workspaces) .notFound
  write _ s := .ok ((s.putAccount user email password).putMembership membership.workspaceID user.id
    (normalizeMembership membership))

/-- `CreateSignup`: only a verified address joins the sign-in lookup. -/
def createSignup (user : User) (email : EmailAddress)
    (verification : Option EmailVerificationCredential) (password : PasswordCredential)
    (workspace : Workspace) (membership : Membership) : Mutation where
  check s := do
    require (user.id ∉ s.users) .conflict
    require (email.address ∉ s.emailIDs) .conflict
    require (workspace.id ∉ s.workspaces) .conflict
  write _ s := .ok
    { s with
      users := s.users.set user.id user
      emailAddresses := s.emailAddresses.set email.id email
      emailIDs := s.emailIDs.set email.address email.id
      emails := if email.verifiedAt.isSome then s.emails.set email.address user.id else s.emails
      emailVerifications := match verification with
        | some v => s.emailVerifications.set email.id v
        | none => s.emailVerifications
      passwords := s.passwords.set user.id password
      workspaces := s.workspaces.set workspace.id workspace
      memberships := s.memberships.set workspace.id
        ((∅ : FMap UUID Membership).set user.id (normalizeMembership membership)) }

/-! ## Lifecycle and profile -/

/-- `SetUserDisabled`. -/
def setUserDisabled (userID : UUID) (disabled : Bool) (at' : Time) : Mutation where
  check s := do
    require (userID ∈ s.users) .notFound
    if disabled then s.checkNotLast userID else pure ()
  write _ s :=
    let t := { s with users := s.users.modify userID fun user =>
      { user with disabled := disabled, updatedAt := at' } }
    .ok (if disabled then (t.revokeUserCredentialsLocked userID 0 at').revokeUserSessionsLocked
      userID at' else t)

/-- `UpdateUser`: the creation time, the disabled flag and the last-seen time are kept; every other
field, the e-mail address included, is the caller's. -/
def updateUser (user : User) : Mutation where
  check s := require (user.id ∈ s.users) .notFound
  write _ s :=
    let current := s.users.getI user.id
    let user := { user with
      createdAt := current.createdAt
      disabled := current.disabled
      lastSeenAt := current.lastSeenAt }
    .ok { s with users := s.users.set user.id user }

/-- `RevokeUserCredentials`. -/
def revokeUserCredentials (userID : UUID) (at' : Time) : Mutation where
  check s := require (userID ∈ s.users) .notFound
  write _ s := .ok ((s.revokeUserCredentialsLocked userID 0 at').revokeUserSessionsLocked userID at')

/-! ## Passwords -/

/-- `ChangePassword`. -/
def changePassword (password : PasswordCredential) (at' : Time) : Mutation where
  check s := require (password.userID ∈ s.passwords) .notFound
  write _ s := .ok
    ({ s with passwords := s.passwords.set password.userID password }.revokeUserSessionsLocked
      password.userID at')

/-- The stored hash of the user is the given one. -/
def Store.HashIs (s : Store) (userID : UUID) (hash : String) : Prop :=
  (s.passwords.get? userID).any fun credential => credential.hash = hash

instance (s : Store) (userID : UUID) (hash : String) : Decidable (s.HashIs userID hash) :=
  inferInstanceAs (Decidable (_ = true))

/-- `RehashPassword`. -/
def rehashPassword (password : PasswordCredential) (previousHash : String) : Mutation where
  check s := require (s.HashIs password.userID previousHash) .conflict
  write _ s := .ok { s with passwords := s.passwords.set password.userID password }

/-- `RecordAuthentication`. -/
def recordAuthentication (userID : UUID) (seenAt : Time) : Mutation where
  check s := require (userID ∈ s.users) .notFound
  write _ s := .ok ((s.touchLastSeenLocked userID seenAt).clearThrottle userID)

/-- `RecordPasswordAuthentication`. -/
def recordPasswordAuthentication (userID : UUID) (currentHash : String) (seenAt : Time) :
    Mutation where
  check s := do
    require (userID ∈ s.users) .notFound
    require (s.HashIs userID currentHash) .conflict
  write _ s := .ok ((s.touchLastSeenLocked userID seenAt).clearThrottle userID)

/-! ## Login throttles -/

/-- The throttle after one more failure: an expired lockout restarts the window, and reaching the
threshold sets a new one. -/
def nextThrottle (throttle : LoginThrottle) (userID : UUID) (at' : Time) (threshold : Int)
    (lockedUntil : Time) : LoginThrottle :=
  let throttle := if throttle.lockedUntil.any (fun until' => ¬ at' < until') then default
    else throttle
  let throttle := { throttle with
    userID := userID
    failedAttempts := throttle.failedAttempts + 1
    updatedAt := at' }
  if 0 < threshold ∧ threshold ≤ throttle.failedAttempts then
    { throttle with lockedUntil := some lockedUntil }
  else throttle

/-- `RecordLoginFailure`. -/
def recordLoginFailure (userID : UUID) (at' : Time) (threshold : Int) (lockedUntil : Time)
    (ctx : Context) (commit : Commit) (s : Store) : Attempt LoginThrottle :=
  match ctx.err with
  | some e => .stopped (.err e) s
  | none =>
    if userID ∈ s.users then
      let throttle := nextThrottle (s.throttles.getI userID) userID at' threshold lockedUntil
      s.prepareAndWrite commit
        (fun s => .ok { s with throttles := s.throttles.set userID throttle }) throttle
    else .stopped (.err .notFound) s

/-! ## One-time credentials -/

/-- `CreatePasswordReset`. -/
def createPasswordReset (credential : PasswordResetCredential) : Mutation where
  check s := do
    require (credential.userID ∈ s.users) .notFound
    require (credential.id ∉ s.passwordResets) .conflict
  write _ s := .ok { s with passwordResets := s.passwordResets.set credential.id credential }

/-- `CompletePasswordReset`. -/
def completePasswordReset (resetID : UUID) (password : PasswordCredential) (at' : Time) :
    Mutation where
  check s := do
    let credential ← find s.passwordResets resetID .notFound
    require (credential.usedAt = none) .conflict
    require (password.userID ∈ s.users) .notFound
  write _ s :=
    let resets := s.passwordResets.modify resetID fun v => { v with usedAt := some at' }
    let t := { s with
      passwordResets := resets.filter fun id other =>
        ¬ (id ≠ resetID ∧ other.userID = password.userID)
      passwords := s.passwords.set password.userID password }
    .ok (((t.revokeUserCredentialsLocked password.userID 0 at').revokeUserSessionsLocked
      password.userID at').clearThrottle password.userID)

/-- `CreateEmailAuthentication`. -/
def createEmailAuthentication (credential : EmailAuthenticationCredential) : Mutation where
  check s := do
    require (credential.userID ∈ s.users) .notFound
    require (credential.id ∉ s.emailAuths) .conflict
  write _ s := .ok { s with emailAuths := s.emailAuths.set credential.id credential }

/-- `ConsumeEmailAuthentication`. -/
def consumeEmailAuthentication (tokenID userID : UUID) (at' : Time) (completesLogin : Bool) :
    Mutation where
  check s := do
    let credential ← find s.emailAuths tokenID .notFound
    require (credential.userID = userID) .notFound
    require (credential.usedAt = none) .conflict
  write _ s :=
    let t := { s with emailAuths := s.emailAuths.modify tokenID fun v =>
      { v with usedAt := some at' } }
    .ok (if completesLogin then (t.touchLastSeenLocked userID at').clearThrottle userID else t)

/-! ## Anonymization -/

/-- One turn of the loop over the address records: the user's own are renamed to their tombstone,
in the record and in both indexes, and the primary one drags the user's address along. -/
def anonymizeEmail (userID : UUID) (at' : Time) (acc : Store × User) (id : UUID) : Store × User :=
  match acc.1.emailAddresses.get? id with
  | none => acc
  | some email =>
    if email.userID = userID then
      let s := acc.1
      ({ s with
          emails := (s.emails.del email.address).set (tombstone id) userID
          emailIDs := (s.emailIDs.del email.address).set (tombstone id) id
          emailAddresses := s.emailAddresses.set id
            { email with address := tombstone id, updatedAt := at' } },
        if email.primary then { acc.2 with email := tombstone id } else acc.2)
    else acc

/-- One turn of the loop over the directory links of the user. -/
def anonymizeSCIMUser (userID : UUID) (at' : Time) (s : Store) (id : UUID) : Store :=
  match s.scimUsers.get? id with
  | none => s
  | some link =>
    if link.userID = userID then
      (s.deleteSCIMUserIndexesLocked link).putSCIMUserLocked { link with
        externalID := ""
        userName := "anonymized-" ++ id.string
        displayName := ""
        schemas := []
        emails := []
        attributes := ∅
        active := false
        deprovisionedAt := link.deprovisionedAt.or (some at')
        updatedAt := at' }
    else s

/-- The personal data `AnonymizeUser` scrubs record by record, after the addresses. -/
def Store.scrub (s : Store) (userID : UUID) : Store :=
  { s with
    ssoIdentities := s.ssoIdentities.mapVal fun _ v =>
      if v.userID = userID then { v with email := "" } else v
    pats := s.pats.mapVal fun _ v => if v.userID = userID then { v with name := "" } else v
    sessions := s.sessions.mapVal fun _ v =>
      if v.userID = userID then { v with userAgent := "", ipAddress := "" } else v
    invitations := s.invitations.mapVal fun id v =>
      if v.acceptedUserID = userID then { v with email := tombstone id } else v
    totp := s.totp.del userID
    recovery := s.recovery.del userID
    passkeys := s.passkeys.del userID }

/-- `AnonymizeUser`. -/
def anonymizeUser (userID : UUID) (at' : Time) : Mutation where
  check s := do
    require (userID ∈ s.users) .notFound
    s.checkNotLast userID
  write _ s :=
    let user := { s.users.getI userID with displayName := "", disabled := true, updatedAt := at' }
    let (s, user) := s.emailAddresses.keyList.foldl (anonymizeEmail userID at') (s, user)
    let s := { s with users := s.users.set userID user }
    let s := (s.scimUsers.keyList.foldl (anonymizeSCIMUser userID at') s).scrub userID
    .ok ((s.revokeUserCredentialsLocked userID 0 at').revokeUserSessionsLocked userID at')

/-! ## The operations -/

/-- The account operations with their arguments. -/
inductive AccountOp
  | bootstrap (user : User) (email : EmailAddress) (password : PasswordCredential)
      (workspace : Workspace) (membership : Membership) (admin : InstanceAdministrator)
  | createUser (user : User) (email : EmailAddress) (password : PasswordCredential)
      (membership : Membership)
  | createSignup (user : User) (email : EmailAddress)
      (verification : Option EmailVerificationCredential) (password : PasswordCredential)
      (workspace : Workspace) (membership : Membership)
  | setUserDisabled (userID : UUID) (disabled : Bool) (at' : Time)
  | updateUser (user : User)
  | revokeUserCredentials (userID : UUID) (at' : Time)
  | changePassword (password : PasswordCredential) (at' : Time)
  | rehashPassword (password : PasswordCredential) (previousHash : String)
  | recordAuthentication (userID : UUID) (seenAt : Time)
  | recordPasswordAuthentication (userID : UUID) (currentHash : String) (seenAt : Time)
  | createPasswordReset (credential : PasswordResetCredential)
  | completePasswordReset (resetID : UUID) (password : PasswordCredential) (at' : Time)
  | createEmailAuthentication (credential : EmailAuthenticationCredential)
  | consumeEmailAuthentication (tokenID userID : UUID) (at' : Time) (completesLogin : Bool)
  | anonymizeUser (userID : UUID) (at' : Time)

/-- The method an operation names. -/
def AccountOp.mutation : AccountOp → Mutation
  | .bootstrap user email password workspace membership admin =>
      Memory.bootstrap user email password workspace membership admin
  | .createUser user email password membership => Memory.createUser user email password membership
  | .createSignup user email verification password workspace membership =>
      Memory.createSignup user email verification password workspace membership
  | .setUserDisabled userID disabled at' => Memory.setUserDisabled userID disabled at'
  | .updateUser user => Memory.updateUser user
  | .revokeUserCredentials userID at' => Memory.revokeUserCredentials userID at'
  | .changePassword password at' => Memory.changePassword password at'
  | .rehashPassword password previousHash => Memory.rehashPassword password previousHash
  | .recordAuthentication userID seenAt => Memory.recordAuthentication userID seenAt
  | .recordPasswordAuthentication userID currentHash seenAt =>
      Memory.recordPasswordAuthentication userID currentHash seenAt
  | .createPasswordReset credential => Memory.createPasswordReset credential
  | .completePasswordReset resetID password at' => Memory.completePasswordReset resetID password at'
  | .createEmailAuthentication credential => Memory.createEmailAuthentication credential
  | .consumeEmailAuthentication tokenID userID at' completesLogin =>
      Memory.consumeEmailAuthentication tokenID userID at' completesLogin
  | .anonymizeUser userID at' => Memory.anonymizeUser userID at'

end Credbound.Memory
