import Credbound.Manager.OAuthTokens

/-!
# Manager/OAuthAuthorization — from an authorization request to a grant

`beginOAuthAuthorization` checks a request and seals what it found into a continuation;
`completeOAuthAuthorization` opens the continuation, checks again and stores a grant and a code.
Both check the actor through `authorizedOAuthScopes`, one permission of one scope at a time.
-/

namespace Credbound.Manager

open Procedure (demand lift fail each)

/-! ## Inputs and results -/

structure BeginOAuthAuthorizationInput where
  issuer : String
  clientID : String
  redirectURI : String
  resource : String
  scopes : List String
  state : String
  codeChallenge : String
  codeChallengeMethod : String
  nonce : String := ""
  maxAge : Duration := 0

structure OAuthConsentScope where
  name : String
  description : String

structure OAuthConsent where
  continuation : String
  clientID : String
  clientName : String
  clientHost : String
  redirectURI : String
  redirectHost : String
  resource : String
  workspaceID : UUID
  scopes : List OAuthConsentScope
  requiresStepUp : Bool
  localhostRedirect : Bool

structure OAuthAuthorizationResult where
  redirectURI : String
  code : String := ""
  state : String
  issuer : String
  error : String := ""

/-! ## Scopes -/

/-- One requested scope: a reserved one needs the issuer's OIDC, any other a definition and each of
its permissions. -/
def authorizeRequestedScope (m : Manager) (ctx : Context) (actor : Authentication)
    (issuer : OAuthIssuer) (resource : OAuthProtectedResource) (scopes : List String)
    (scope : String) : Action Unit :=
  if oauthReservedScope scope = true then do
    demand (¬ ((scope = "openid" ∨ scope = "profile" ∨ scope = "email")
      ∧ issuer.oidcEnabled = false)) .forbidden
    demand (¬ ((scope = "profile" ∨ scope = "email") ∧ "openid" ∉ scopes)) .invalidInput
  else match oauthScopeDefinition resource.scopes scope with
    | none => fail .forbidden
    | some definition => each (fun permission =>
        (m.authorizePermission ctx actor resource.workspaceID permission).mapError fun _ => .forbidden)
        definition.permissions

/-- The definitions of the scopes that are not reserved. -/
def resourceScopes (resource : OAuthProtectedResource) (scopes : List String) :
    List OAuthScopeDefinition :=
  (scopes.filter fun scope => oauthReservedScope scope = false).filterMap
    (oauthScopeDefinition resource.scopes)

/-- `authorizedOAuthScopes`. -/
def authorizedOAuthScopes (m : Manager) (ctx : Context) (actor : Authentication)
    (issuer : OAuthIssuer) (resource : OAuthProtectedResource) (requested : List String) :
    Action (List String × List OAuthScopeDefinition) := do
  let scopes ← (lift (normalizeOptionalOAuthScopes requested)).mapError fun _ => .invalidInput
  demand (scopes ≠ []) .invalidInput
  each (m.authorizeRequestedScope ctx actor issuer resource scopes) scopes
  pure (scopes, resourceScopes resource scopes)

/-- A definition demands a stronger or fresher authentication. -/
def demandsStepUp (now : Time) (actor : Authentication) (definition : OAuthScopeDefinition) : Bool :=
  actor.level < definition.minimumAAL
    ∨ 0 < definition.maxAuthAge
      ∧ freshAuthentication now actor.authenticatedAt definition.maxAuthAge = false

/-- The request's own `max_age` has passed. -/
def maxAgePassed (now : Time) (actor : Authentication) (maxAge : Duration) : Bool :=
  0 < maxAge ∧ freshAuthentication now actor.authenticatedAt maxAge = false

/-! ## Begin -/

/-- `ValidateOAuthAuthorizationRedirect`. -/
def validateOAuthAuthorizationRedirect (m : Manager) (ctx : Context) (io : Supply)
    (issuerURL clientID redirectURI : String) : Action Unit := do
  m.requireOAuth
  let issuerURL ← lift (m.validateIssuerURL issuerURL)
  let issuer ← expect ctx (.oauthIssuerByURL issuerURL) (fun issuer => issuer.disabledAt = none)
    .invalidCredentials
  let client ← (m.resolveOAuthClient ctx io issuer clientID).mapError fun _ => .invalidCredentials
  demand (client.disabledAt = none) .invalidCredentials
  demand (redirectURI ∈ client.redirectURIs) .invalidInput

/-- The description a consent shows for a scope. -/
def scopeDescription (definitions : List OAuthScopeDefinition) (scope : String) : String :=
  match oauthScopeDefinition definitions scope with
  | some definition => definition.description
  | none => oauthReservedScopeDescription scope

/-- The host name of a URL the source parses without looking at the error. -/
def hostnameOf (m : Manager) (raw : String) : String :=
  ((m.parseURL raw).map URL.hostname).getD ""

/-- The records an authorization request names. -/
structure AuthorizationRequest where
  issuer : OAuthIssuer
  client : OAuthClient
  resource : OAuthProtectedResource

/-- The part of `BeginOAuthAuthorization` before the scopes. -/
def authorizationRequest (m : Manager) (ctx : Context) (io : Supply) (actor : Authentication)
    (input : BeginOAuthAuthorizationInput) : Action AuthorizationRequest := do
  m.requireOAuth
  demand (actor.userID ≠ 0 ∧ actor.interactive = true) .unauthorized
  let issuerURL ← lift (m.validateIssuerURL input.issuer)
  let issuer ← expect ctx (.oauthIssuerByURL issuerURL) (fun issuer => issuer.disabledAt = none)
    .invalidCredentials
  let client ← m.resolveOAuthClient ctx io issuer input.clientID
  demand (client.disabledAt = none ∧ "authorization_code" ∈ client.grantTypes) .invalidCredentials
  demand (client.scopes = [] ∨ ∀ scope ∈ input.scopes, trimSpace scope ∈ client.scopes) .forbidden
  let resourceURL ← lift (m.validateResourceURL input.resource)
  let resource ← expect ctx (.oauthProtectedResourceByURI resourceURL) (fun resource =>
    resource.issuerID = issuer.id ∧ resource.disabledAt = none) .forbidden
  demand (input.redirectURI ∈ client.redirectURIs) .invalidInput
  demand (input.codeChallengeMethod = "S256" ∧ validPKCEChallenge input.codeChallenge = true)
    .invalidInput
  demand (input.state ≠ "" ∧ input.state.utf8ByteSize ≤ 1024 ∧ input.nonce.utf8ByteSize ≤ 1024)
    .invalidInput
  pure ⟨issuer, client, resource⟩

/-- The part of `BeginOAuthAuthorization` after the scopes: the continuation is sealed and shown. -/
def newOAuthConsent (m : Manager) (io : Supply) (actor : Authentication)
    (input : BeginOAuthAuthorizationInput) (request : AuthorizationRequest) (scopes : List String)
    (definitions : List OAuthScopeDefinition) : Except Err OAuthConsent := do
  let client := request.client
  let resource := request.resource
  let requiresStepUp := definitions.any (demandsStepUp (io.now 10) actor)
    || maxAgePassed (io.now 11) actor input.maxAge
  let continuation ← m.encodeOAuthContinuation {
    userID := actor.userID, clientRecordID := client.id, resourceID := resource.id,
    redirectURI := input.redirectURI, scopes := scopes, state := input.state,
    codeChallenge := input.codeChallenge, nonce := input.nonce, metadataHash := client.metadataHash,
    authTime := actor.authenticatedAt, authMethod := actor.method, aal := actor.level,
    maxAge := input.maxAge, expiresAt := io.now 12 + m.ceremonyTTL }
  return {
    continuation := continuation, clientID := client.clientID, clientName := client.name,
    clientHost := m.hostnameOf client.clientID, redirectURI := input.redirectURI,
    redirectHost := m.hostnameOf input.redirectURI, resource := resource.resource,
    workspaceID := resource.workspaceID,
    scopes := scopes.map fun scope => ⟨scope, scopeDescription definitions scope⟩,
    requiresStepUp := requiresStepUp,
    localhostRedirect := isLocalhostName (m.hostnameOf input.redirectURI) }

/-- `BeginOAuthAuthorization`. -/
def beginOAuthAuthorization (m : Manager) (ctx : Context) (io : Supply) (actor : Authentication)
    (input : BeginOAuthAuthorizationInput) : Action OAuthConsent := do
  let request ← m.authorizationRequest ctx io actor input
  let authorized ← m.authorizedOAuthScopes ctx actor request.issuer request.resource input.scopes
  lift (m.newOAuthConsent io actor input request authorized.1 authorized.2)

/-! ## Complete -/

/-- `decodeOAuthContinuation`. -/
def decodeOAuthContinuation (m : Manager) (now : Time) (raw : String) :
    Except Err OAuthAuthorizationContinuation :=
  match m.openOAuthContinuation raw with
  | none => .error .invalidCredentials
  | some value => do
    require (value.userID ≠ 0 ∧ value.clientRecordID ≠ 0 ∧ value.resourceID ≠ 0)
      .invalidCredentials
    require (now < value.expiresAt) .expired
    return value

/-- The commit of a completed authorization. -/
def authorizationCommit (m : Manager) (io : Supply) (actor : Authentication) (client : OAuthClient)
    (action resourceType resourceID : String) (outcome : AuditOutcome) (reason : String)
    (name : EventName) (subject : ChangeSubject) : Except Err Commit := do
  let audit ← io.audit 20 (io.now 20) actor.userID action resourceType resourceID
    subject.workspaceID outcome reason
  newOAuthChange m.hooks (io.newID 21) (io.now 21) name action audit client subject

/-- The refusal of a consent: the audit event, and the result for the redirect. -/
def denyOAuthAuthorization (m : Manager) (ctx : Context) (io : Supply) (actor : Authentication)
    (client : OAuthClient) (resource : OAuthProtectedResource) (scopes : List String)
    (result : OAuthAuthorizationResult) : Action OAuthAuthorizationResult := do
  let commit ← lift (m.authorizationCommit io actor client "oauth.authorization.denied"
    "oauth_client" client.id.string .failed "access_denied" .oauthAuthorizationDenied
    { resourceID := resource.id, workspaceID := resource.workspaceID, scopes := scopes })
  (send ctx .appendAudit commit).mapError mapStoreError
  pure { result with error := "access_denied" }

/-- The grant of an approved consent. -/
def newOAuthGrant (id : UUID) (now : Time) (actor : Authentication) (issuer : OAuthIssuer)
    (client : OAuthClient) (resource : OAuthProtectedResource) (scopes : List String) :
    OAuthGrant where
  id := id
  issuerID := issuer.id
  clientRecordID := client.id
  userID := actor.userID
  workspaceID := resource.workspaceID
  resourceID := resource.id
  scopes := scopes
  metadataHash := client.metadataHash
  authTime := actor.authenticatedAt
  authMethod := actor.method
  aal := actor.level
  createdAt := now
  updatedAt := now
  revokedAt := none

/-- The approval of a consent: the grant and the single-use code. -/
def grantOAuthAuthorization (m : Manager) (ctx : Context) (io : Supply) (actor : Authentication)
    (issuer : OAuthIssuer) (client : OAuthClient) (resource : OAuthProtectedResource)
    (continuation : OAuthAuthorizationContinuation) (result : OAuthAuthorizationResult) :
    Action OAuthAuthorizationResult := do
  let grantID ← lift (io.newID 11)
  let codeID ← lift (io.newID 12)
  let bearer ← lift (io.newOAuthBearer 11)
  let now := io.now 14
  let grant := newOAuthGrant grantID now actor issuer client resource continuation.scopes
  let code : OAuthAuthorizationCode := {
    id := codeID, pfx := bearer.1, digest := m.oauthDigest "authorization-code" bearer.2,
    grantID := grantID, clientRecordID := client.id, redirectURI := continuation.redirectURI,
    resourceID := resource.id, scopes := continuation.scopes,
    codeChallenge := continuation.codeChallenge, nonce := continuation.nonce, createdAt := now,
    expiresAt := now + issuer.codeTTL, usedAt := none }
  let commit ← lift (m.authorizationCommit io actor client "oauth.authorization.granted"
    "oauth_grant" grantID.string .succeeded "" .oauthAuthorizationGranted
    { grantID := grantID, resourceID := resource.id, workspaceID := resource.workspaceID,
      scopes := grant.scopes })
  (send ctx (.createOAuthGrantAndCode grant code) commit).mapError mapStoreError
  pure { result with code := bearer.2 }

/-- The part of `CompleteOAuthAuthorization` before the scopes. -/
def continuedRequest (ctx : Context) (actor : Authentication)
    (continuation : OAuthAuthorizationContinuation) : Action AuthorizationRequest := do
  demand (actor.userID ≠ 0 ∧ actor.userID = continuation.userID ∧ actor.interactive = true)
    .unauthorized
  let client ← expect ctx (.oauthClientByID continuation.clientRecordID) (fun client =>
    client.disabledAt = none ∧ client.metadataHash = continuation.metadataHash) .invalidCredentials
  let resource ← expect ctx (.oauthProtectedResourceByID continuation.resourceID) (fun resource =>
    resource.disabledAt = none) .forbidden
  let issuer ← expect ctx (.oauthIssuerByID resource.issuerID) (fun issuer =>
    issuer.disabledAt = none ∧ client.issuerID = issuer.id) .forbidden
  pure ⟨issuer, client, resource⟩

/-- The part of `CompleteOAuthAuthorization` after the scopes. -/
def resolveConsent (m : Manager) (ctx : Context) (io : Supply) (actor : Authentication)
    (approved : Bool) (request : AuthorizationRequest)
    (continuation : OAuthAuthorizationContinuation) (definitions : List OAuthScopeDefinition) :
    Action OAuthAuthorizationResult := do
  demand (definitions.any (demandsStepUp (io.now 11) actor) = false) .stepUpRequired
  demand (maxAgePassed (io.now 12) actor continuation.maxAge = false) .stepUpRequired
  let result : OAuthAuthorizationResult := {
    redirectURI := continuation.redirectURI, state := continuation.state,
    issuer := request.issuer.issuer }
  if approved then
    m.grantOAuthAuthorization ctx io actor request.issuer request.client request.resource
      continuation result
  else
    m.denyOAuthAuthorization ctx io actor request.client request.resource continuation.scopes result

/-- `CompleteOAuthAuthorization`. -/
def completeOAuthAuthorization (m : Manager) (ctx : Context) (io : Supply) (actor : Authentication)
    (rawContinuation : String) (approved : Bool) : Action OAuthAuthorizationResult := do
  m.requireOAuth
  let continuation ← lift (m.decodeOAuthContinuation (io.now 10) rawContinuation)
  let request ← continuedRequest ctx actor continuation
  let authorized ← m.authorizedOAuthScopes ctx actor request.issuer request.resource
    continuation.scopes
  m.resolveConsent ctx io actor approved request continuation authorized.2

end Credbound.Manager
