import Credbound.Postgres.Calls

/-!
# Postgres/Frames — which tables a method leaves alone

Of the account store, only `CompletePasswordReset` writes a table of the authorization server, and
only to revoke grants.
-/

namespace Credbound.Postgres

open Database

/-- The tables of the authorization server. -/
def Database.oauth (db : Database) :=
  ((db.oauthIssuers, db.oauthResources, db.oauthClients),
    (db.oauthGrants, db.oauthAccessTokens, db.oauthRefreshTokens))

theorem touchUserLastSeen_oauth (userID : UUID) (at' : Time) (db : Database) :
    Yields (fun written => written.oauth = db.oauth) (db.touchUserLastSeen userID at') :=
  .bind fun _ _ => .pure rfl

theorem upsertMembership_oauth (membership : Membership) (db : Database) :
    Yields (fun written => written.oauth = db.oauth) (db.upsertMembership membership) :=
  .bind fun _ _ => .bind fun _ _ => .pure rfl

theorem upsertPassword_oauth (password : PasswordCredential) (db : Database) :
    Yields (fun written => written.oauth = db.oauth) (db.upsertPassword password) :=
  .bind fun _ _ => .pure rfl

/-- An account method touches no table of the authorization server, unless it resets a password. -/
theorem AccountMethod.leaves_oauth (op : AccountMethod) (commit : Commit) (db : Database)
    (hop : ∀ resetID password at', op ≠ .completePasswordReset resetID password at') :
    Yields (fun written => written.oauth = db.oauth) (op.method commit db) := by
  cases op with
  | appendAudit => exact .pure rfl
  | setUserDisabled userID disabled at' =>
    refine .bind fun _ _ => ?_
    cases disabled
    · exact .bind fun _ _ => .pure rfl
    · exact .bind fun _ _ => .bind fun _ _ => .bind fun _ _ => .pure rfl
  | setWorkspaceDisabled workspaceID disabled at' =>
    cases disabled
    · exact .bind fun _ _ => .pure rfl
    · exact .bind fun _ _ => .pure rfl
  | upsertMembership membership =>
    refine .bind fun _ _ => .bind fun _ _ => .bind fun t ht => .pure ?_
    have hupsert := upsertMembership_oauth membership db t ht
    split
    · exact hupsert
    · exact hupsert
  | verifyEmail emailID verifiedAt => exact .bind fun _ _ => .pure rfl
  | reissueEmailVerification emailID verification => exact .bind fun _ _ => .bind fun _ _ => .pure rfl
  | removeMembership | setPrimaryEmail | saveTOTPEnrollment | savePasskey =>
    exact .bind fun _ _ => .bind fun _ _ => .bind fun _ _ => .pure rfl
  | consumeEmailAuthentication tokenID userID at' completesLogin =>
    refine .bind fun _ _ => ?_
    cases completesLogin
    · exact .pure rfl
    · refine .bind fun t ht => .pure ?_
      have htouch := touchUserLastSeen_oauth userID at' _ t ht
      exact htouch
  | completePasswordReset resetID password at' => exact absurd rfl (hop resetID password at')

/-! ## Issuing and revoking -/

theorem insertOAuthGrant_server (grant : OAuthGrant) (db : Database) :
    Yields (fun written => written.oauth.1 = db.oauth.1) (db.insertOAuthGrant grant) :=
  .bind fun _ _ => .bind fun _ _ => .bind fun _ _ => .pure rfl

theorem insertOAuthAuthorizationCode_server (code : OAuthAuthorizationCode) (db : Database) :
    Yields (fun written => written.oauth.1 = db.oauth.1) (db.insertOAuthAuthorizationCode code) :=
  .bind fun _ _ => .bind fun _ _ => .bind fun _ _ => .pure rfl

theorem insertOAuthAccessToken_server (token : OAuthAccessToken) (db : Database) :
    Yields (fun written => written.oauth.1 = db.oauth.1) (db.insertOAuthAccessToken token) :=
  .bind fun _ _ => .bind fun _ _ => .bind fun _ _ => .pure rfl

theorem insertOAuthRefreshToken_server (token : OAuthRefreshToken) (db : Database) :
    Yields (fun written => written.oauth.1 = db.oauth.1) (db.insertOAuthRefreshToken token) :=
  .bind fun _ _ => .bind fun _ _ => .bind fun _ _ => .pure rfl

/-- Revoking grants leaves issuers, resources and clients alone. -/
theorem revokeOAuthGrantIDs_server (ids : List UUID) (at' : Time) (db : Database) :
    Yields (fun written => written.oauth.1 = db.oauth.1) (db.revokeOAuthGrantIDs ids at') := by
  have hstep : ∀ (t : Database) (id : UUID), t.oauth.1 = db.oauth.1 →
      Yields (fun written => written.oauth.1 = db.oauth.1) (t.revokeOAuthGrant id at') :=
    fun t id ht => .bind fun _ _ => .pure ht
  exact Yields.foldlM hstep rfl ids

/-- An account method leaves issuers, resources and clients alone. -/
theorem AccountMethod.leaves_server (op : AccountMethod) (commit : Commit) (db : Database) :
    Yields (fun written => written.oauth.1 = db.oauth.1) (op.method commit db) := by
  by_cases hop : ∃ resetID password at', op = .completePasswordReset resetID password at'
  · obtain ⟨resetID, password, at', rfl⟩ := hop
    refine .bind fun _ _ => .bind fun t ht => .bind fun u hu => .pure ?_
    have hpassword := upsertPassword_oauth password _ t ht
    exact (revokeOAuthGrantIDs_server _ at' _ u hu).trans (congrArg Prod.fst hpassword)
  · push Not at hop
    exact fun written h => congrArg Prod.fst (op.leaves_oauth commit db hop written h)

end Credbound.Postgres
