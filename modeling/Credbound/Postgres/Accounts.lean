import Credbound.Postgres.OAuth

/-!
# Postgres/Accounts — users, memberships, addresses and factors in the PostgreSQL store

Each method is the function `mutate` runs inside its transaction, statement by statement.  A byte
slice is nil when it is empty, and binds as `NULL`.
-/

namespace Credbound.Postgres

namespace Database

/-! ## Statements shared by several methods -/

/-- `RevokeUserPATs`. -/
def revokeUserPATs (userID : UUID) (at' : Time) (db : Database) : Database :=
  let rows := db.personalAccessTokens.update
    (fun _ row => Matches userID row.userID ∧ row.revokedAt = none)
    fun row => { row with revokedAt := some (timestamptz at') }
  { db with personalAccessTokens := rows }

/-- `RevokeAllWorkspacePATs`. -/
def revokeAllWorkspacePATs (workspaceID : UUID) (at' : Time) (db : Database) : Database :=
  let rows := db.personalAccessTokens.update
    (fun _ row => Matches workspaceID row.workspaceID ∧ row.revokedAt = none)
    fun row => { row with revokedAt := some (timestamptz at') }
  { db with personalAccessTokens := rows }

/-- `RevokeWorkspacePATs`. -/
def revokeWorkspacePATs (userID workspaceID : UUID) (at' : Time) (db : Database) : Database :=
  let rows := db.personalAccessTokens.update
    (fun _ row => Matches userID row.userID ∧ Matches workspaceID row.workspaceID
      ∧ row.revokedAt = none)
    fun row => { row with revokedAt := some (timestamptz at') }
  { db with personalAccessTokens := rows }

/-- `RevokeUserSessions`. -/
def revokeUserSessions (userID : UUID) (at' : Time) (db : Database) : Database :=
  let rows := db.sessions.update
    (fun _ row => Matches userID row.userID ∧ row.revokedAt = none)
    fun row => { row with revokedAt := some (timestamptz at') }
  { db with sessions := rows }

/-- A row as `TouchUserLastSeen` writes it. -/
def seenRow (at' : Time) (row : UserRow) : UserRow :=
  { row with lastSeenAt := some (timestamptz at') }

/-- `TouchUserLastSeen`. -/
def touchUserLastSeen (userID : UUID) (at' : Time) (db : Database) : Except Err Database := do
  let (count, rows) := execrows db.users (fun id _ => Matches userID id) (seenRow at')
  affected count
  return { db with users := rows }

/-- `ClearLoginThrottle`. -/
def clearLoginThrottle (userID : UUID) (db : Database) : Database :=
  { db with loginThrottles := db.loginThrottles.filter fun id _ => ¬ Matches userID id }

/-- A user is there and not disabled. -/
def enabled (db : Database) (userID : UUID) : Bool :=
  (db.users.get? userID).any fun row => !row.disabled

/-- `CountEnabledRootAdministrators`. -/
def countEnabledRootAdministrators (db : Database) : Nat :=
  db.instanceAdministrators.count fun userID row => row.role = .root ∧ db.enabled userID

/-- `CountActiveWorkspaceAdministrators`. -/
def countActiveWorkspaceAdministrators (db : Database) (workspaceID : UUID) : Nat :=
  db.memberships.count fun key row => Matches workspaceID key.1 ∧ row.role = .admin
    ∧ row.status = .active ∧ db.enabled key.2

/-- `CountWorkspacesOrphanedByUserDisable`. -/
def countWorkspacesOrphanedByUserDisable (db : Database) (userID : UUID) : Nat :=
  db.memberships.count fun key row => Matches userID key.2 ∧ row.role = .admin
    ∧ row.status = .active ∧ ¬ db.memberships.Any fun other row => other.1 = key.1
      ∧ other.2 ≠ key.2 ∧ row.role = .admin ∧ row.status = .active ∧ db.enabled other.2

end Database

/-! ## Users and workspaces -/

/-- `SetUserDisabled`. -/
def setUserDisabled (userID : UUID) (disabled : Bool) (at' : Time) (db : Database) :
    Except Err Database := do
  require (userID ≠ 0 ∧ (db.getUserByID userID).isSome) .notFound
  if disabled then
    require (¬ ((db.instanceAdministrators.get? userID).any (·.role = .root)
      ∧ db.countEnabledRootAdministrators ≤ 1)) .conflict
    require (db.countWorkspacesOrphanedByUserDisable userID = 0) .conflict
  let (count, rows) := execrows db.users (fun id _ => Matches userID id)
    fun row => { row with disabled := disabled, updatedAt := timestamptz at' }
  affected count
  let db := { db with users := rows }
  return if disabled then (db.revokeUserPATs userID at').revokeUserSessions userID at' else db

/-- `SetWorkspaceDisabled`. -/
def setWorkspaceDisabled (workspaceID : UUID) (disabled : Bool) (at' : Time) (db : Database) :
    Except Err Database := do
  let (count, rows) := execrows db.workspaces (fun id _ => Matches workspaceID id)
    fun row => { row with
      disabledAt := if disabled then some (timestamptz at') else none
      updatedAt := timestamptz at' }
  affected count
  let db := { db with workspaces := rows }
  return if disabled then db.revokeAllWorkspacePATs workspaceID at' else db

/-- `upsertMembership`: the status and the source get their defaults, the constraints hold, and a
row that is there keeps its creation time. -/
def Database.upsertMembership (value : Membership) (db : Database) : Except Err Database := do
  let value := if value.status = .other "" then { value with status := .active } else value
  let value := if value.provisioningSource = "" then { value with provisioningSource := "local" }
    else value
  constraint (value.status = .active ∨ value.status = .suspended)
  constraint (value.workspaceID ∈ db.workspaces ∧ value.userID ∈ db.users)
  let key := (value.workspaceID, value.userID)
  let createdAt := match db.memberships.get? key with
    | some row => row.createdAt
    | none => timestamptz value.createdAt
  let row := { value with createdAt := createdAt, updatedAt := timestamptz value.updatedAt }
  return { db with memberships := db.memberships.set key row }

/-- `UpsertMembership`.  The status compared at the end is the caller's, before its default. -/
def upsertMembership (membership : Membership) (occurredAt : Time) (db : Database) :
    Except Err Database := do
  let _ ← select db.workspaces membership.workspaceID
  let current := db.memberships.get? (membership.workspaceID, membership.userID)
  require (¬ ((current.any fun row => row.role = .admin ∧ row.status = .active)
    ∧ (membership.role ≠ .admin ∨ membership.status ≠ .active)
    ∧ db.countActiveWorkspaceAdministrators membership.workspaceID ≤ 1)) .conflict
  let db ← db.upsertMembership membership
  return if membership.status ≠ .active
    then db.revokeWorkspacePATs membership.userID membership.workspaceID occurredAt else db

/-- `RemoveMembership`. -/
def removeMembership (workspaceID userID : UUID) (at' : Time) (db : Database) :
    Except Err Database := do
  let _ ← select db.workspaces workspaceID
  let current ← find db.memberships (workspaceID, userID) .notFound
  require (¬ (current.role = .admin ∧ current.status = .active
    ∧ db.countActiveWorkspaceAdministrators workspaceID ≤ 1)) .conflict
  let db := { db with memberships := db.memberships.del (workspaceID, userID) }
  return db.revokeWorkspacePATs userID workspaceID at'

/-! ## Addresses -/

/-- A row as `VerifyEmail` writes it. -/
def verifiedRow (verifiedAt : Time) (row : UserEmailRow) : UserEmailRow :=
  { row with
    verifiedAt := some (timestamptz verifiedAt)
    verificationDigest := none
    verificationExpiresAt := none
    updatedAt := timestamptz verifiedAt }

/-- `VerifyEmail`. -/
def verifyEmail (emailID : UUID) (verifiedAt : Time) (db : Database) : Except Err Database := do
  let (count, rows) := execrows db.userEmails
    (fun id row => Matches emailID id ∧ row.verifiedAt = none) (verifiedRow verifiedAt)
  affected count
  return { db with userEmails := rows }

/-- A row as `ReissueEmailVerification` writes it. -/
def reissuedRow (verification : EmailVerificationCredential) (occurredAt : Time)
    (row : UserEmailRow) : UserEmailRow :=
  { row with
    verificationDigest := some verification.digest
    verificationExpiresAt := some (timestamptz verification.expiresAt)
    updatedAt := timestamptz occurredAt }

/-- `ReissueEmailVerification`.  The digest and the expiry are null together, so a nil digest fails
the row it would be written to. -/
def reissueEmailVerification (emailID : UUID) (verification : EmailVerificationCredential)
    (occurredAt : Time) (db : Database) : Except Err Database := do
  let (count, rows) := execrows db.userEmails
    (fun id row => Matches emailID id ∧ row.verifiedAt = none) (reissuedRow verification occurredAt)
  constraint (count = 0 ∨ verification.digest ≠ [])
  affected count
  return { db with userEmails := rows }

/-- A row as `ClearPrimaryEmails` and `SetPrimaryEmail` write it. -/
def rankedRow (isPrimary : Bool) (occurredAt : Time) (row : UserEmailRow) : UserEmailRow :=
  { row with isPrimary := isPrimary, updatedAt := timestamptz occurredAt }

/-- `ClearPrimaryEmails`. -/
def clearPrimaryEmails (userID : UUID) (occurredAt : Time) (rows : FMap UUID UserEmailRow) :
    FMap UUID UserEmailRow :=
  rows.update (fun _ row => Matches userID row.userID ∧ row.isPrimary) (rankedRow false occurredAt)

/-- `SetPrimaryEmail`. -/
def setPrimaryEmail (userID emailID : UUID) (occurredAt : Time) (db : Database) :
    Except Err Database := do
  let email ← select db.userEmails emailID
  require (email.userID = userID ∧ email.verifiedAt ≠ none) .notFound
  let (count, rows) := execrows (clearPrimaryEmails userID occurredAt db.userEmails)
    (fun id row => Matches emailID id ∧ (Matches userID row.userID ∧ row.verifiedAt ≠ none))
    (rankedRow true occurredAt)
  affected count
  return { db with userEmails := rows }

/-! ## Factors and single-use credentials -/

/-- The row `SaveTOTPEnrollment` leaves: a new one, or the one that is there with the new secret. -/
def enrolledRow (factor : TOTPFactor) : Option TOTPFactor → TOTPFactor
  | none =>
    { factor with
      active := false
      lastUsedStep := 0
      createdAt := timestamptz factor.createdAt
      updatedAt := timestamptz factor.updatedAt }
  | some row =>
    { row with
      encryptedSecret := factor.encryptedSecret
      active := false
      lastUsedStep := 0
      updatedAt := timestamptz factor.updatedAt }

/-- `SaveTOTPEnrollment`: an upsert that checks the owner of a new row, and leaves an active factor
alone and counts no row then. -/
def saveTOTPEnrollment (factor : TOTPFactor) (db : Database) : Except Err Database := do
  let current := db.totpFactors.get? factor.userID
  constraint (factor.userID ≠ 0 ∧ factor.encryptedSecret ≠ [])
  constraint (current.isSome ∨ factor.userID ∈ db.users)
  affected (if current.any (·.active) then 0 else 1)
  return { db with
    totpFactors := db.totpFactors.set factor.userID (enrolledRow factor current)
    recoveryCodes := db.recoveryCodes.filter fun key _ => key.1 ≠ factor.userID }

/-- `SavePasskey`. -/
def savePasskey (passkey : Passkey) (db : Database) : Except Err Database := do
  constraint (validUUIDv7 passkey.id ∧ passkey.id ∉ db.passkeys ∧ passkey.userID ∈ db.users)
  constraint (passkey.credentialID ≠ [] ∧ passkey.credentialJSON ≠ [])
  constraint (¬ db.passkeys.Any fun _ row => row.credentialID = passkey.credentialID)
  let row := { passkey with createdAt := timestamptz passkey.createdAt, lastUsedAt := none }
  return { db with passkeys := db.passkeys.set passkey.id row }

/-- A row as `ConsumeEmailAuthentication` writes it. -/
def usedEmailAuthentication (at' : Time) (row : EmailAuthenticationCredential) :
    EmailAuthenticationCredential := { row with usedAt := some (timestamptz at') }

/-- `ConsumeEmailAuthentication`. -/
def consumeEmailAuthentication (tokenID userID : UUID) (at' : Time) (completesLogin : Bool)
    (db : Database) : Except Err Database := do
  let (count, rows) := execrows db.emailAuthentications
    (fun id row => Matches tokenID id ∧ (Matches userID row.userID ∧ row.usedAt = none))
    (usedEmailAuthentication at')
  single count
  let db := { db with emailAuthentications := rows }
  if completesLogin then
    let db ← db.touchUserLastSeen userID at'
    return db.clearLoginThrottle userID
  else return db

/-- `UpsertPassword`. -/
def Database.upsertPassword (password : PasswordCredential) (db : Database) :
    Except Err Database := do
  constraint (password.userID ∈ db.users)
  let row := { password with updatedAt := timestamptz password.updatedAt }
  return { db with passwordCredentials := db.passwordCredentials.set password.userID row }

/-- `PasswordByUserID`. -/
def Database.passwordByUserID (db : Database) (userID : UUID) : Except Err PasswordCredential :=
  select db.passwordCredentials userID

/-- `ChangePassword`: the row that is there is replaced, whatever hash it holds. -/
def changePassword (password : PasswordCredential) (at' : Time) (db : Database) : Except Err Database := do
  let (count, rows) := execrows db.passwordCredentials (fun id _ => Matches password.userID id)
    fun row => { row with hash := password.hash, updatedAt := timestamptz password.updatedAt }
  affected count
  return { db with passwordCredentials := rows }.revokeUserSessions password.userID at'

/-- A row as `ConsumePasswordReset` writes it. -/
def usedPasswordReset (at' : Time) (row : PasswordResetCredential) : PasswordResetCredential :=
  { row with usedAt := some (timestamptz at') }

/-- `CompletePasswordReset`. -/
def completePasswordReset (resetID : UUID) (password : PasswordCredential) (at' : Time)
    (db : Database) : Except Err Database := do
  let (count, rows) := execrows db.passwordResets
    (fun id row => Matches resetID id ∧ row.usedAt = none) (usedPasswordReset at')
  single count
  let rows := rows.filter fun id row => ¬ (Matches password.userID row.userID ∧ id ≠ resetID)
  let db ← { db with passwordResets := rows }.upsertPassword password
  let db := (db.revokeUserPATs password.userID at').revokeUserSessions password.userID at'
  let db ← db.revokeOAuthGrantsByUser password.userID at'
  return db.clearLoginThrottle password.userID

end Credbound.Postgres
