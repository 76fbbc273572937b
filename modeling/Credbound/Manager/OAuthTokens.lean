import Credbound.Manager.OAuthClients

/-!
# Manager/OAuthTokens — the token endpoint, the resource server check and UserInfo

Every function reads the records it needs one after the other and decides on each as it goes.  The
checks that a grant is still good are `activeOAuthGrant`, shared by the exchange, the refresh and the
resource server; `oauthUserInfo` has a sequence of its own.
-/

namespace Credbound.Manager

open Procedure (demand lift fail each)

/-! ## Inputs and results -/

structure ExchangeOAuthAuthorizationCodeInput extends TokenEndpointRequest where
  code : String
  redirectURI : String
  codeVerifier : String
  resource : String

structure RefreshOAuthTokenInput extends TokenEndpointRequest where
  refreshToken : String
  resource : String
  scopes : List String := []

structure RevokeOAuthTokenInput extends TokenEndpointRequest where
  token : String

structure OAuthClientCredentialsInput extends TokenEndpointRequest where
  resource : String
  scopes : List String := []

structure OAuthTokenResponse where
  accessToken : String
  tokenType : String
  expiresIn : Int
  refreshToken : String
  scope : String
  idToken : String

structure OAuthAuthentication where
  tokenID : UUID
  grantID : UUID
  clientRecordID : UUID
  clientID : String
  userID : UUID
  workspaceID : UUID
  resource : String
  scopes : List String
  authenticatedAt : Time

structure OIDCUserInfo where
  subject : String
  email : String
  emailVerified : Option Bool

/-- `parseOAuthBearer`, whose failure every caller reports in the same way. -/
def bearerPrefix (marker raw : String) : Except Err String :=
  match parseOAuthBearer marker raw with
  | some pfx => .ok pfx
  | none => .error .invalidCredentials

/-! ## The grant behind a token -/

/-- The permissions behind one scope of a grant: a reserved scope has none. -/
def authorizeGrantScope (m : Manager) (ctx : Context) (actor : Authentication)
    (resource : OAuthProtectedResource) (scope : String) : Action Unit :=
  if oauthReservedScope scope = true then pure ()
  else match oauthScopeDefinition resource.scopes scope with
    | none => fail .invalidCredentials
    | some definition => each (fun permission =>
        (m.authorizePermission ctx actor resource.workspaceID permission).mapError fun _ => .forbidden)
        definition.permissions

/-- A requested resource, if one is named, is this one. -/
def namesResource (m : Manager) (resourceURI : String) (resource : OAuthProtectedResource) : Prop :=
  resourceURI = "" ∨ m.validateResourceURL resourceURI = .ok resource.resource

instance (m : Manager) (resourceURI : String) (resource : OAuthProtectedResource) :
    Decidable (m.namesResource resourceURI resource) :=
  haveI : Decidable (m.validateResourceURL resourceURI = .ok resource.resource) :=
    match m.validateResourceURL resourceURI with
    | .ok value => decidable_of_iff (value = resource.resource) (by simp)
    | .error _ => .isFalse (by simp)
  inferInstanceAs (Decidable (_ ∨ _))

/-- `activeOAuthGrant`. -/
def activeOAuthGrant (m : Manager) (ctx : Context) (grantID : UUID) (client : OAuthClient)
    (resourceURI : String) : Action (OAuthGrant × OAuthProtectedResource) := do
  demand (client.disabledAt = none) .invalidCredentials
  let grant ← expect ctx (.oauthGrant grantID) (fun grant => grant.revokedAt = none
    ∧ grant.clientRecordID = client.id ∧ grant.metadataHash = client.metadataHash)
    .invalidCredentials
  let resource ← expect ctx (.oauthProtectedResourceByID grant.resourceID) (fun resource =>
    resource.disabledAt = none ∧ resource.workspaceID = grant.workspaceID) .invalidCredentials
  demand (m.namesResource resourceURI resource) .invalidCredentials
  let _ ← expect ctx (.oauthIssuerByID grant.issuerID) (fun issuer =>
    issuer.disabledAt = none ∧ issuer.id = resource.issuerID) .invalidCredentials
  let _ ← expect ctx (.userByID grant.userID) (fun user => user.disabled = false)
    .invalidCredentials
  let _ ← expect ctx (.workspaceByID grant.workspaceID) (fun workspace =>
    workspace.disabledAt = none) .invalidCredentials
  let actor : Authentication := { userID := grant.userID, workspaceID := grant.workspaceID }
  each (m.authorizeGrantScope ctx actor resource) grant.scopes
  pure (grant, resource)

/-! ## New tokens -/

/-- `newOAuthAccessToken`, with the `k`-th identifier and bearer token of the call. -/
def newOAuthAccessToken (m : Manager) (io : Supply) (k : Nat) (grant : OAuthGrant)
    (ttl : Duration) : Except Err (OAuthAccessToken × String) := do
  let id ← io.newID k
  let bearer ← io.newOAuthBearer k
  let now := io.now k
  return ({
    id := id, pfx := bearer.1, digest := m.oauthDigest "access-token" bearer.2,
    grantID := grant.id, clientRecordID := grant.clientRecordID, userID := grant.userID,
    workspaceID := grant.workspaceID, resourceID := grant.resourceID, scopes := grant.scopes,
    createdAt := now, expiresAt := now + ttl, revokedAt := none }, bearer.2)

/-- `newOAuthRefreshToken`; the zero family is a new one. -/
def newOAuthRefreshToken (m : Manager) (io : Supply) (k : Nat) (grant : OAuthGrant)
    (familyID : UUID) (ttl : Duration) : Except Err (OAuthRefreshToken × String) := do
  let id ← io.newID k
  let familyID ← if familyID = 0 then io.newID (k + 1) else pure familyID
  let bearer ← io.newOAuthBearer k
  let now := io.now k
  return ({
    id := id, familyID := familyID, pfx := bearer.1,
    digest := m.oauthDigest "refresh-token" bearer.2, grantID := grant.id,
    clientRecordID := grant.clientRecordID, userID := grant.userID,
    workspaceID := grant.workspaceID, resourceID := grant.resourceID, scopes := grant.scopes,
    createdAt := now, expiresAt := now + ttl, usedAt := none, replacedByID := 0,
    revokedAt := none }, bearer.2)

/-- A commit of the token endpoint: the audit event of a client, and the change. -/
def serviceCommit (m : Manager) (io : Supply) (client : OAuthClient)
    (action resourceType resourceID reason : String) (name : EventName) (operation : String)
    (subject : ChangeSubject) : Except Err Commit := do
  let audit ← io.audit 20 (io.now 20) client.id action resourceType resourceID subject.workspaceID
    .succeeded reason
  newOAuthChange m.hooks (io.newID 21) (io.now 21) name operation
    { audit with actorKind := .service } client subject

/-! ## ID Tokens -/

/-- `oauthPrimaryEmail`: a best-effort read. -/
def oauthPrimaryEmail (ctx : Context) (userID : UUID) : Action (String × Option Bool) := do
  match ← (ask ctx (.userByID userID)).attempt with
  | .error _ => pure ("", none)
  | .ok user =>
    if user.email = "" then pure ("", none)
    else match ← (ask ctx (.userEmails userID)).attempt with
      | .error _ => pure (user.email, some false)
      | .ok emails => pure (user.email, some ((emails.find? fun email =>
          email.primary ∧ email.address = user.email).any fun email => email.verifiedAt ≠ none))

/-- `Time.Unix`. -/
def unixSeconds (t : Time) : Int := (t - unixEpoch) / 1000000000

/-- `oauthIDToken`. -/
def oauthIDToken (m : Manager) (ctx : Context) (io : Supply) (issuer : OAuthIssuer)
    (client : OAuthClient) (grant : OAuthGrant) (nonce : String) (expiresAt : Time) :
    Action String :=
  if "openid" ∉ grant.scopes then pure ""
  else match issuer.oidcEnabled, m.oidcSigner with
  | true, some sign => do
    let email ← if "email" ∈ grant.scopes then oauthPrimaryEmail ctx grant.userID
      else pure ("", none)
    lift (sign {
      issuer := issuer.issuer
      subject := m.oauthPairwiseSubject issuer.id client.sectorIdentifier grant.userID
      audience := client.clientID
      expiresAt := unixSeconds expiresAt
      issuedAt := unixSeconds (io.now 23)
      authTime := unixSeconds grant.authTime
      nonce := nonce
      acr := "urn:credbound:aal:" ++ toString grant.aal.toNat
      amr := if grant.authMethod = .other "" then [] else [grant.authMethod]
      email := email.1
      emailVerified := email.2 })
  | _, _ => fail .notSupported

/-- The success payload of the token endpoint. -/
def tokenResponse (access : String) (ttl : Duration) (refresh : String) (scopes : List String)
    (idToken : String) : OAuthTokenResponse where
  accessToken := access
  tokenType := "Bearer"
  expiresIn := ttl.tdiv 1000000000
  refreshToken := refresh
  scope := " ".intercalate scopes
  idToken := idToken

/-! ## Exchange -/

/-- `revokeOAuthGrantForCodeReplay`: best effort. -/
def revokeOAuthGrantForCodeReplay (m : Manager) (ctx : Context) (io : Supply) (client : OAuthClient)
    (code : OAuthAuthorizationCode) : Action Unit := do
  let revocation : Action Unit := do
    let grant ← expect ctx (.oauthGrant code.grantID) (fun grant => grant.revokedAt = none) .conflict
    let commit ← lift (m.serviceCommit io client "oauth.code.reuse_detected" "oauth_grant"
      grant.id.string "reuse_detected" .oauthCodeReuseDetected "oauth.code.reuse_detected"
      { grantID := grant.id, resourceID := grant.resourceID, workspaceID := grant.workspaceID,
        scopes := grant.scopes })
    send ctx (.revokeOAuthGrant grant.id (io.now 22)) commit
  let _ ← revocation.attempt
  pure ()

/-- The refresh token an exchange adds, if the grant and the client ask for one. -/
def exchangeRefreshToken (m : Manager) (io : Supply) (issuer : OAuthIssuer) (client : OAuthClient)
    (grant : OAuthGrant) : Except Err (Option (OAuthRefreshToken × String)) :=
  if "offline_access" ∈ grant.scopes ∧ "refresh_token" ∈ client.grantTypes then
    (m.newOAuthRefreshToken io 12 grant 0 issuer.refreshTokenTTL).map some
  else .ok none

/-- The part of `ExchangeOAuthAuthorizationCode` after the code has been read unused. -/
def redeemOAuthCode (m : Manager) (ctx : Context) (io : Supply)
    (input : ExchangeOAuthAuthorizationCodeInput) (issuer : OAuthIssuer) (client : OAuthClient)
    (code : OAuthAuthorizationCode) : Action OAuthTokenResponse := do
  demand (code.redirectURI = input.redirectURI ∧ io.now 10 < code.expiresAt
    ∧ m.verifyPKCE input.codeVerifier code.codeChallenge = true) .invalidCredentials
  let active ← (m.activeOAuthGrant ctx code.grantID client input.resource).mapError fun _ =>
    .invalidCredentials
  demand (active.2.id = code.resourceID ∧ active.1.scopes = code.scopes) .invalidCredentials
  let access ← lift (m.newOAuthAccessToken io 11 active.1 issuer.accessTokenTTL)
  let refresh ← lift (m.exchangeRefreshToken io issuer client active.1)
  let commit ← lift (m.serviceCommit io client "oauth.token.issued" "oauth_grant"
    active.1.id.string "" .oauthTokenIssued "oauth.token.exchange"
    { grantID := active.1.id, tokenID := access.1.id, resourceID := active.2.id,
      workspaceID := active.1.workspaceID, scopes := active.1.scopes })
  (send ctx (.consumeOAuthAuthorizationCode code.id (io.now 22) access.1 (refresh.map Prod.fst))
    commit).mapError mapOAuthCredentialStoreError
  let idToken ← m.oauthIDToken ctx io issuer client active.1 code.nonce access.1.expiresAt
  pure (tokenResponse access.2 issuer.accessTokenTTL ((refresh.map Prod.snd).getD "")
    active.1.scopes idToken)

/-- The part of `ExchangeOAuthAuthorizationCode` after the client is authenticated. -/
def exchangeOAuthCode (m : Manager) (ctx : Context) (io : Supply)
    (input : ExchangeOAuthAuthorizationCodeInput) (issuer : OAuthIssuer) (client : OAuthClient) :
    Action OAuthTokenResponse := do
  let pfx ← lift (bearerPrefix "cbc" input.code)
  demand (pkceVerifierPattern input.codeVerifier = true) .invalidCredentials
  let code ← expect ctx (.oauthAuthorizationCodeByPrefix pfx) (fun code =>
    code.clientRecordID = client.id
      ∧ code.digest = m.oauthDigest "authorization-code" input.code) .invalidCredentials
  if code.usedAt ≠ none then do
    m.revokeOAuthGrantForCodeReplay ctx io client code
    fail .invalidCredentials
  else m.redeemOAuthCode ctx io input issuer client code

/-- `ExchangeOAuthAuthorizationCode`. -/
def exchangeOAuthAuthorizationCode (m : Manager) (ctx : Context) (io : Supply)
    (input : ExchangeOAuthAuthorizationCodeInput) : Action OAuthTokenResponse := do
  m.requireOAuth
  let caller ← m.authenticateOAuthClient ctx io input.toTokenEndpointRequest
  m.exchangeOAuthCode ctx io input caller.1 caller.2

/-! ## Client credentials -/

/-- `clientCredentialsScopes`. -/
def clientCredentialsScopes (client : OAuthClient) (resource : OAuthProtectedResource)
    (requested : List String) : Except Err (List String) :=
  let allowed (scope : String) : Bool := oauthReservedScope scope = false
    ∧ (oauthScopeDefinition resource.scopes scope).isSome ∧ scope ∈ client.scopes
  if requested = [] then
    .ok ((resource.scopes.map OAuthScopeDefinition.name).filter allowed)
  else do
    require (∀ scope ∈ requested, allowed (trimSpace scope) = true) .forbidden
    return requested.map trimSpace

/-- `IssueOAuthClientCredentials`. -/
def issueOAuthClientCredentials (m : Manager) (ctx : Context) (io : Supply)
    (input : OAuthClientCredentialsInput) : Action OAuthTokenResponse := do
  m.requireOAuth
  let caller ← m.authenticateOAuthClient ctx io input.toTokenEndpointRequest
  let issuer := caller.1
  let client := caller.2
  demand (client.tokenEndpointAuthMethod ≠ .none ∧ client.source = .preRegistered
    ∧ "client_credentials" ∈ client.grantTypes) .forbidden
  let resourceURL ← lift (m.validateResourceURL input.resource)
  demand (resourceURL ∈ client.clientCredentialsResources) .forbidden
  let resource ← expect ctx (.oauthProtectedResourceByURI resourceURL) (fun resource =>
    resource.issuerID = issuer.id ∧ resource.disabledAt = none) .forbidden
  let scopes ← lift (clientCredentialsScopes client resource input.scopes)
  let id ← lift (io.newID 11)
  let bearer ← lift (io.newOAuthBearer 11)
  let now := io.now 11
  let audit ← lift (io.audit 20 (io.now 20) client.id "oauth.token.client_credentials"
    "oauth_client" client.id.string resource.workspaceID .succeeded "")
  (send ctx (.createOAuthClientAccessToken {
      id := id, pfx := bearer.1, digest := m.oauthDigest "access-token" bearer.2,
      clientRecordID := client.id, issuerID := issuer.id, resourceID := resource.id,
      workspaceID := resource.workspaceID, scopes := scopes, createdAt := now,
      expiresAt := now + issuer.accessTokenTTL, revokedAt := none })
    { audit := { audit with actorKind := .service } }).mapError mapOAuthCredentialStoreError
  pure (tokenResponse bearer.2 issuer.accessTokenTTL "" scopes "")

/-! ## Refresh -/

/-- `revokeOAuthRefreshFamily`. -/
def revokeOAuthRefreshFamily (m : Manager) (ctx : Context) (io : Supply) (token : OAuthRefreshToken)
    (client : OAuthClient) (reason : String) : Action Unit := do
  let name := if reason = "reuse_detected" then .oauthRefreshReuseDetected else .oauthTokenRevoked
  let commit ← lift (m.serviceCommit io client "oauth.refresh_family.revoked"
    "oauth_refresh_family" token.familyID.string reason name "oauth.refresh_family.revoke"
    { grantID := token.grantID, tokenID := token.id, resourceID := token.resourceID,
      workspaceID := token.workspaceID, scopes := token.scopes })
  (send ctx (.revokeOAuthRefreshFamily token.familyID (io.now 22)) commit).mapError mapStoreError

/-- The scopes of a refreshed token: those of the previous one, or a subset that was asked for. -/
def refreshScopes (requested previous : List String) : Except Err (List String) :=
  if requested = [] then .ok previous
  else match normalizeOptionalOAuthScopes requested with
    | .ok scopes => if scopesSubset scopes previous = true then .ok scopes else .error .invalidInput
    | .error _ => .error .invalidInput

/-- The part of `RefreshOAuthToken` after the grant has been found good: the new tokens are made and
stored, and a presented token that has been used or revoked meanwhile revokes its family. -/
def replaceOAuthToken (m : Manager) (ctx : Context) (io : Supply) (input : RefreshOAuthTokenInput)
    (issuer : OAuthIssuer) (client : OAuthClient) (previous : OAuthRefreshToken) (grant : OAuthGrant)
    (resource : OAuthProtectedResource) : Action OAuthTokenResponse := do
  demand (resource.id = previous.resourceID) .invalidCredentials
  let scopes ← lift (refreshScopes input.scopes previous.scopes)
  let grant := { grant with scopes := scopes }
  let access ← lift (m.newOAuthAccessToken io 11 grant issuer.accessTokenTTL)
  let replacement ← lift
    (m.newOAuthRefreshToken io 12 grant previous.familyID issuer.refreshTokenTTL)
  let commit ← lift (m.serviceCommit io client "oauth.token.refreshed" "oauth_grant"
    grant.id.string "" .oauthTokenRefreshed "oauth.token.refresh"
    { grantID := grant.id, tokenID := access.1.id, resourceID := resource.id,
      workspaceID := grant.workspaceID, scopes := scopes })
  let rotation := .rotateOAuthRefreshToken previous.id (io.now 22) access.1 replacement.1
  match ← (send ctx rotation commit).attempt with
  | .error e =>
    if e = .conflict ∨ e = .invalidCredentials then do
      let _ ← (m.revokeOAuthRefreshFamily ctx io previous client "reuse_detected").attempt
      fail .invalidCredentials
    else fail (mapStoreError e)
  | .ok _ => do
    let idToken ← m.oauthIDToken ctx io issuer client grant "" access.1.expiresAt
    pure (tokenResponse access.2 issuer.accessTokenTTL replacement.2 scopes idToken)

/-- The part of `RefreshOAuthToken` after the presented token has been read neither used nor
revoked. -/
def rotateOAuthToken (m : Manager) (ctx : Context) (io : Supply) (input : RefreshOAuthTokenInput)
    (issuer : OAuthIssuer) (client : OAuthClient) (previous : OAuthRefreshToken) :
    Action OAuthTokenResponse := do
  demand (io.now 10 < previous.expiresAt) .expired
  let active ← (m.activeOAuthGrant ctx previous.grantID client input.resource).mapError fun _ =>
    .invalidCredentials
  m.replaceOAuthToken ctx io input issuer client previous active.1 active.2

/-- The part of `RefreshOAuthToken` after the client is authenticated. -/
def refreshOAuthFamily (m : Manager) (ctx : Context) (io : Supply) (input : RefreshOAuthTokenInput)
    (issuer : OAuthIssuer) (client : OAuthClient) : Action OAuthTokenResponse := do
  let pfx ← lift (bearerPrefix "cbr" input.refreshToken)
  let previous ← expect ctx (.oauthRefreshTokenByPrefix pfx) (fun previous =>
    previous.clientRecordID = client.id
      ∧ previous.digest = m.oauthDigest "refresh-token" input.refreshToken) .invalidCredentials
  if previous.usedAt ≠ none ∨ previous.revokedAt ≠ none then do
    let _ ← (m.revokeOAuthRefreshFamily ctx io previous client "reuse_detected").attempt
    fail .invalidCredentials
  else m.rotateOAuthToken ctx io input issuer client previous

/-- `RefreshOAuthToken`. -/
def refreshOAuthToken (m : Manager) (ctx : Context) (io : Supply) (input : RefreshOAuthTokenInput) :
    Action OAuthTokenResponse := do
  m.requireOAuth
  let caller ← m.authenticateOAuthClient ctx io input.toTokenEndpointRequest
  m.refreshOAuthFamily ctx io input caller.1 caller.2

/-! ## Revocation -/

/-- `revokeOAuthClientAccessToken`: any mismatch answers success. -/
def revokeOAuthClientAccessToken (m : Manager) (ctx : Context) (io : Supply) (client : OAuthClient)
    (pfx raw : String) (now : Time) : Action Unit := do
  match ← (ask ctx (.oauthClientAccessTokenByPrefix pfx)).attempt with
  | .error _ => pure ()
  | .ok token =>
    if token.clientRecordID ≠ client.id ∨ token.revokedAt ≠ none
      ∨ token.digest ≠ m.oauthDigest "access-token" raw then pure ()
    else do
      let commit ← lift (m.serviceCommit io client "oauth.token.revoked"
        "oauth_client_access_token" token.id.string "" .oauthTokenRevoked "oauth.token.revoke"
        { tokenID := token.id, resourceID := token.resourceID, workspaceID := token.workspaceID,
          scopes := token.scopes })
      (send ctx (.revokeOAuthClientAccessToken token.id now) commit).mapError mapStoreError

/-- `RevokeOAuthToken` for an access token. -/
def revokeAccessToken (m : Manager) (ctx : Context) (io : Supply) (client : OAuthClient)
    (pfx raw : String) (now : Time) : Action Unit := do
  let foreign := m.revokeOAuthClientAccessToken ctx io client pfx raw now
  match ← (ask ctx (.oauthAccessTokenByPrefix pfx)).attempt with
  | .error _ => foreign
  | .ok token =>
    if token.clientRecordID ≠ client.id ∨ token.digest ≠ m.oauthDigest "access-token" raw then
      foreign
    else do
      let commit ← lift (m.serviceCommit io client "oauth.token.revoked" "oauth_access_token"
        token.id.string "" .oauthTokenRevoked "oauth.token.revoke"
        { grantID := token.grantID, tokenID := token.id, resourceID := token.resourceID,
          workspaceID := token.workspaceID, scopes := token.scopes })
      (send ctx (.revokeOAuthAccessToken token.id now) commit).mapError mapStoreError

/-- `RevokeOAuthToken` for a refresh token. -/
def revokeRefreshToken (m : Manager) (ctx : Context) (io : Supply) (client : OAuthClient)
    (pfx raw : String) : Action Unit := do
  match ← (ask ctx (.oauthRefreshTokenByPrefix pfx)).attempt with
  | .error _ => pure ()
  | .ok token =>
    if token.clientRecordID ≠ client.id ∨ token.digest ≠ m.oauthDigest "refresh-token" raw then
      pure ()
    else m.revokeOAuthRefreshFamily ctx io token client "client_revocation"

/-- `RevokeOAuthToken`. -/
def revokeOAuthToken (m : Manager) (ctx : Context) (io : Supply) (input : RevokeOAuthTokenInput) :
    Action Unit := do
  m.requireOAuth
  let caller ← m.authenticateOAuthClient ctx io input.toTokenEndpointRequest
  match parseOAuthBearer "cba" input.token with
  | some pfx => m.revokeAccessToken ctx io caller.2 pfx input.token (io.now 10)
  | none =>
    match parseOAuthBearer "cbr" input.token with
    | some pfx => m.revokeRefreshToken ctx io caller.2 pfx input.token
    | none => pure ()

/-! ## The resource server -/

/-- A user's access token is presentable: unrevoked, in time, and the text is its own. -/
def Presentable (m : Manager) (now : Time) (raw : String) (token : OAuthAccessToken) : Prop :=
  token.revokedAt = none ∧ now < token.expiresAt ∧ token.digest = m.oauthDigest "access-token" raw

instance (m : Manager) (now : Time) (raw : String) (token : OAuthAccessToken) :
    Decidable (m.Presentable now raw token) := inferInstanceAs (Decidable (_ ∧ _))

/-- `authenticateOAuthClientToken`. -/
def authenticateOAuthClientToken (m : Manager) (ctx : Context) (io : Supply)
    (pfx raw resourceURI : String) : Action OAuthAuthentication := do
  let token ← expect ctx (.oauthClientAccessTokenByPrefix pfx) (fun token =>
    token.revokedAt = none ∧ io.now 11 < token.expiresAt
      ∧ token.digest = m.oauthDigest "access-token" raw) .invalidCredentials
  let client ← expect ctx (.oauthClientByID token.clientRecordID) (fun client =>
    client.disabledAt = none ∧ client.issuerID = token.issuerID ∧ client.source = .preRegistered)
    .invalidCredentials
  let issuer ← expect ctx (.oauthIssuerByID token.issuerID) (fun issuer => issuer.disabledAt = none)
    .invalidCredentials
  let resource ← expect ctx (.oauthProtectedResourceByID token.resourceID) (fun resource =>
    resource.disabledAt = none ∧ resource.issuerID = issuer.id
      ∧ resource.workspaceID = token.workspaceID) .invalidCredentials
  demand (resource.resource ∈ client.clientCredentialsResources) .invalidCredentials
  demand (m.namesResource resourceURI resource) .invalidCredentials
  let _ ← expect ctx (.workspaceByID token.workspaceID) (fun workspace =>
    workspace.disabledAt = none) .invalidCredentials
  pure {
    tokenID := token.id, grantID := 0, clientRecordID := client.id, clientID := client.clientID,
    userID := 0, workspaceID := token.workspaceID, resource := resource.resource,
    scopes := token.scopes, authenticatedAt := io.now 12 }

/-- The token, and the grant and resource behind it, agree. -/
def Consistent (token : OAuthAccessToken) (grant : OAuthGrant) (resource : OAuthProtectedResource) :
    Prop :=
  token.resourceID = resource.id ∧ token.userID = grant.userID
    ∧ token.workspaceID = grant.workspaceID ∧ scopesSubset token.scopes grant.scopes = true

instance (token : OAuthAccessToken) (grant : OAuthGrant) (resource : OAuthProtectedResource) :
    Decidable (Consistent token grant resource) := inferInstanceAs (Decidable (_ ∧ _))

/-- The part of `AuthenticateOAuthAccessToken` after a user's access token has been read. -/
def authenticateOAuthUserToken (m : Manager) (ctx : Context) (io : Supply)
    (raw resourceURI : String) (token : OAuthAccessToken) : Action OAuthAuthentication := do
  demand (m.Presentable (io.now 10) raw token) .invalidCredentials
  let client ← expect ctx (.oauthClientByID token.clientRecordID) (fun _ => True)
    .invalidCredentials
  let active ← (m.activeOAuthGrant ctx token.grantID client resourceURI).mapError fun _ =>
    .invalidCredentials
  demand (Consistent token active.1 active.2) .invalidCredentials
  pure {
    tokenID := token.id, grantID := active.1.id, clientRecordID := client.id,
    clientID := client.clientID, userID := token.userID, workspaceID := token.workspaceID,
    resource := active.2.resource, scopes := token.scopes, authenticatedAt := io.now 12 }

/-- `AuthenticateOAuthAccessToken`. -/
def authenticateOAuthAccessToken (m : Manager) (ctx : Context) (io : Supply)
    (resourceURI raw : String) : Action OAuthAuthentication := do
  m.requireOAuth
  let pfx ← lift (bearerPrefix "cba" raw)
  match ← (ask ctx (.oauthAccessTokenByPrefix pfx)).attempt with
  | .ok token => m.authenticateOAuthUserToken ctx io raw resourceURI token
  | .error e =>
    if e = .notFound then m.authenticateOAuthClientToken ctx io pfx raw resourceURI
    else fail .invalidCredentials

/-! ## UserInfo -/

/-- `OAuthUserInfo`. -/
def oauthUserInfo (m : Manager) (ctx : Context) (io : Supply) (issuerURL raw : String) :
    Action OIDCUserInfo := do
  m.requireOAuth
  let issuerURL ← lift (m.validateIssuerURL issuerURL)
  let issuer ← expect ctx (.oauthIssuerByURL issuerURL) (fun issuer =>
    issuer.oidcEnabled = true ∧ issuer.disabledAt = none) .notSupported
  let pfx ← lift (bearerPrefix "cba" raw)
  let token ← expect ctx (.oauthAccessTokenByPrefix pfx) (fun token =>
    m.Presentable (io.now 10) raw token ∧ "openid" ∈ token.scopes) .invalidCredentials
  let grant ← expect ctx (.oauthGrant token.grantID) (fun grant =>
    grant.issuerID = issuer.id ∧ grant.revokedAt = none) .invalidCredentials
  let client ← expect ctx (.oauthClientByID token.clientRecordID) (fun _ => True)
    .invalidCredentials
  let _ ← expect ctx (.userByID token.userID) (fun user => user.disabled = false)
    .invalidCredentials
  let _ ← expect ctx (.workspaceByID grant.workspaceID) (fun workspace =>
    workspace.disabledAt = none) .invalidCredentials
  let email ← if "email" ∈ token.scopes then oauthPrimaryEmail ctx token.userID
    else pure ("", none)
  pure {
    subject := m.oauthPairwiseSubject issuer.id client.sectorIdentifier token.userID
    email := email.1
    emailVerified := email.2 }

end Credbound.Manager
