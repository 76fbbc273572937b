import Credbound.Postgres.Accounts

/-!
# Postgres/Calls — calls of the PostgreSQL store, one transaction after the other

The methods that are modelled, each in the transaction it runs in.  A call that fails leaves the
database as it was; one that commits leaves what its method wrote, and the log.  `DatabaseCall.next_preserves`
is the step rule for what no entry of the log disturbs.
-/

namespace Credbound.Postgres

/-- The methods of the account store, and its `AppendAudit`. -/
inductive AccountMethod
  | appendAudit
  | setUserDisabled (userID : UUID) (disabled : Bool) (at' : Time)
  | setWorkspaceDisabled (workspaceID : UUID) (disabled : Bool) (at' : Time)
  | upsertMembership (membership : Membership)
  | removeMembership (workspaceID userID : UUID) (at' : Time)
  | verifyEmail (emailID : UUID) (verifiedAt : Time)
  | reissueEmailVerification (emailID : UUID) (verification : EmailVerificationCredential)
  | setPrimaryEmail (userID emailID : UUID)
  | saveTOTPEnrollment (factor : TOTPFactor)
  | savePasskey (passkey : Passkey)
  | consumeEmailAuthentication (tokenID userID : UUID) (at' : Time) (completesLogin : Bool)
  | completePasswordReset (resetID : UUID) (password : PasswordCredential) (at' : Time)

/-- The methods of the authorization server. -/
inductive OAuthMethod
  | setOAuthIssuerDisabled (id : UUID) (disabled : Bool) (at' : Time)
  | setOAuthProtectedResourceDisabled (id : UUID) (disabled : Bool) (at' : Time)
  | setOAuthClientDisabled (id : UUID) (disabled : Bool) (at' : Time)
  | upsertOAuthCIMDClient (client : OAuthClient)
  | rotateOAuthClientCredentials (id : UUID) (secretDigest jwks : Option Bytes) (metadataHash : Bytes)
      (at' : Time)
  | createOAuthGrantAndCode (grant : OAuthGrant) (code : OAuthAuthorizationCode)
  | consumeOAuthAuthorizationCode (codeID : UUID) (usedAt : Time) (access : OAuthAccessToken)
      (refresh : Option OAuthRefreshToken)
  | createOAuthClientAccessToken (value : OAuthClientAccessToken)
  | revokeOAuthClientAccessToken (id : UUID) (at' : Time)
  | rotateOAuthRefreshToken (previousID : UUID) (usedAt : Time) (access : OAuthAccessToken)
      (refresh : OAuthRefreshToken)
  | revokeOAuthGrant (id : UUID) (at' : Time)
  | revokeOAuthAccessToken (id : UUID) (at' : Time)
  | revokeOAuthRefreshFamily (familyID : UUID) (at' : Time)

inductive DatabaseMethod
  | account (op : AccountMethod)
  | oauth (op : OAuthMethod)

/-- The method an operation names; some take their time from the audit event. -/
def AccountMethod.method (commit : Commit) : AccountMethod → Database → Except Err Database
  | .appendAudit => .ok
  | .setUserDisabled userID disabled at' => Postgres.setUserDisabled userID disabled at'
  | .setWorkspaceDisabled workspaceID disabled at' =>
      Postgres.setWorkspaceDisabled workspaceID disabled at'
  | .upsertMembership membership => Postgres.upsertMembership membership commit.audit.occurredAt
  | .removeMembership workspaceID userID at' => Postgres.removeMembership workspaceID userID at'
  | .verifyEmail emailID verifiedAt => Postgres.verifyEmail emailID verifiedAt
  | .reissueEmailVerification emailID verification =>
      Postgres.reissueEmailVerification emailID verification commit.audit.occurredAt
  | .setPrimaryEmail userID emailID =>
      Postgres.setPrimaryEmail userID emailID commit.audit.occurredAt
  | .saveTOTPEnrollment factor => Postgres.saveTOTPEnrollment factor
  | .savePasskey passkey => Postgres.savePasskey passkey
  | .consumeEmailAuthentication tokenID userID at' completesLogin =>
      Postgres.consumeEmailAuthentication tokenID userID at' completesLogin
  | .completePasswordReset resetID password at' => Postgres.completePasswordReset resetID password at'

/-- The method an operation names. -/
def OAuthMethod.method : OAuthMethod → Database → Except Err Database
  | .setOAuthIssuerDisabled id disabled at' => Postgres.setOAuthIssuerDisabled id disabled at'
  | .setOAuthProtectedResourceDisabled id disabled at' =>
      Postgres.setOAuthProtectedResourceDisabled id disabled at'
  | .setOAuthClientDisabled id disabled at' => Postgres.setOAuthClientDisabled id disabled at'
  | .upsertOAuthCIMDClient client => Postgres.upsertOAuthCIMDClient client
  | .rotateOAuthClientCredentials id secretDigest jwks metadataHash at' =>
      Postgres.rotateOAuthClientCredentials id secretDigest jwks metadataHash at'
  | .createOAuthGrantAndCode grant code => Postgres.createOAuthGrantAndCode grant code
  | .consumeOAuthAuthorizationCode codeID usedAt access refresh =>
      Postgres.consumeOAuthAuthorizationCode codeID usedAt access refresh
  | .createOAuthClientAccessToken value => Postgres.createOAuthClientAccessToken value
  | .revokeOAuthClientAccessToken id at' => Postgres.revokeOAuthClientAccessToken id at'
  | .rotateOAuthRefreshToken previousID usedAt access refresh =>
      Postgres.rotateOAuthRefreshToken previousID usedAt access refresh
  | .revokeOAuthGrant id at' => Postgres.revokeOAuthGrant id at'
  | .revokeOAuthAccessToken id at' => Postgres.revokeOAuthAccessToken id at'
  | .revokeOAuthRefreshFamily familyID at' => Postgres.revokeOAuthRefreshFamily familyID at'

/-- The method an operation names. -/
def DatabaseMethod.method (commit : Commit) : DatabaseMethod → Database → Except Err Database
  | .account op => op.method commit
  | .oauth op => op.method

/-- One call of a method. -/
structure DatabaseCall where
  op : DatabaseMethod
  commit : Commit
  ctx : Context := {}

namespace DatabaseCall

/-- What the call returns, and the database it leaves. -/
def run (c : DatabaseCall) (db : Database) : Outcome Unit × Database :=
  match c.op with
  | .account op => mutate c.ctx c.commit (op.method c.commit) db
  | .oauth op => oauthMutate c.ctx c.commit op.method db

/-- The database the call leaves. -/
def next (db : Database) (c : DatabaseCall) : Database := (c.run db).2

/-- **A call changes nothing, or what its method writes and the log.** -/
theorem run_cases (c : DatabaseCall) (db : Database) : (∃ e, c.run db = (.err e, db))
      ∨ ∃ begun written db', db.SameTables begun ∧ c.op.method c.commit begun = .ok written
        ∧ written.SameTables db' ∧ c.run db = (.ok (), db') := by
  obtain ⟨op, commit, ctx⟩ := c
  cases op with
  | account op => exact mutate_cases ctx commit (op.method commit) db
  | oauth op =>
    obtain ⟨e, h⟩ | ⟨written, db', hmethod, hlog, h⟩ := oauthMutate_cases ctx commit op.method db
    · exact .inl ⟨e, h⟩
    · exact .inr ⟨db, written, db', .refl db, hmethod, hlog, h⟩

/-- **The step rule**: what no entry of the log disturbs and every method that returns preserves,
every call preserves. -/
theorem next_preserves {I : Database → Prop} (c : DatabaseCall) (db : Database)
    (hlog : ∀ {db db' : Database}, db.SameTables db' → I db → I db')
    (hmethod : ∀ begun written, c.op.method c.commit begun = .ok written → I begun → I written)
    (hdb : I db) : I (c.next db) := by
  unfold next
  obtain ⟨e, hrun⟩ | ⟨begun, written, db', hbegun, hwritten, hend, hrun⟩ := c.run_cases db
  · rwa [hrun]
  · rw [hrun]
    exact hlog hend (hmethod begun written hwritten (hlog hbegun hdb))

end DatabaseCall

end Credbound.Postgres
