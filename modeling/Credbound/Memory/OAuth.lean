import Credbound.Memory.Helpers

/-!
# Memory/OAuth — issuers, resources, clients, grants and tokens

The three `setOAuth…Disabled` methods share one shape (`disableStamp`, then the loop over the grants
that name the record).  Token records are stored under their identifier, but only their prefix is
checked to be new.
-/

namespace Credbound.Memory

open Store

/-- The `DisabledAt` a `…Disabled` method leaves. -/
def disableStamp (disabled : Bool) (at' : Time) : Option Time := if disabled then some at' else none

/-! ## Issuers and resources -/

/-- `CreateOAuthIssuer`. -/
def createOAuthIssuer (issuer : OAuthIssuer) : Mutation where
  check s := do
    require (issuer.id ∉ s.oauthIssuers) .conflict
    require (issuer.issuer ∉ s.oauthIssuerURLs) .conflict
  write _ s := .ok
    { s with
      oauthIssuers := s.oauthIssuers.set issuer.id issuer
      oauthIssuerURLs := s.oauthIssuerURLs.set issuer.issuer issuer.id }

/-- `UpdateOAuthIssuer`: the whole record is the caller's. -/
def updateOAuthIssuer (issuer : OAuthIssuer) : Mutation where
  check s := do
    let current ← find s.oauthIssuers issuer.id .notFound
    require (current.issuer = issuer.issuer) .notFound
  write _ s := .ok { s with oauthIssuers := s.oauthIssuers.set issuer.id issuer }

/-- `SetOAuthIssuerDisabled`. -/
def setOAuthIssuerDisabled (issuerID : UUID) (disabled : Bool) (at' : Time) : Mutation where
  check s := require (issuerID ∈ s.oauthIssuers) .notFound
  write _ s :=
    let t := { s with oauthIssuers := s.oauthIssuers.modify issuerID fun v =>
      { v with disabledAt := disableStamp disabled at', updatedAt := at' } }
    .ok (if disabled then t.revokeOAuthGrantsWhere (fun grant => grant.issuerID = issuerID) at'
      else t)

/-- `CreateOAuthProtectedResource`. -/
def createOAuthProtectedResource (resource : OAuthProtectedResource) : Mutation where
  check s := do
    require (resource.issuerID ∈ s.oauthIssuers) .notFound
    require (resource.workspaceID ∈ s.workspaces) .notFound
    require (resource.id ∉ s.oauthResources) .conflict
    require (resource.resource ∉ s.oauthResourceURIs) .conflict
  write _ s := .ok
    { s with
      oauthResources := s.oauthResources.set resource.id resource
      oauthResourceURIs := s.oauthResourceURIs.set resource.resource resource.id }

/-- `SetOAuthProtectedResourceDisabled`. -/
def setOAuthProtectedResourceDisabled (resourceID : UUID) (disabled : Bool) (at' : Time) :
    Mutation where
  check s := require (resourceID ∈ s.oauthResources) .notFound
  write _ s :=
    let t := { s with oauthResources := s.oauthResources.modify resourceID fun v =>
      { v with disabledAt := disableStamp disabled at', updatedAt := at' } }
    .ok (if disabled then t.revokeOAuthGrantsWhere (fun grant => grant.resourceID = resourceID) at'
      else t)

/-! ## Clients -/

/-- The enabled dynamically registered clients of an issuer. -/
def Store.activeDCRClients (s : Store) (issuerID : UUID) : Nat :=
  s.oauthClients.count fun _ existing =>
    existing.issuerID = issuerID ∧ existing.source = .dcr ∧ existing.disabledAt = none

/-- The initial access token still admits a registration. -/
def Store.checkInitialToken (s : Store) (issuerID initialAccessTokenID : UUID) (usedAt : Time) :
    Except Err Unit := do
  let initial ← find s.oauthInitialTokens initialAccessTokenID .notFound
  require (initial.issuerID = issuerID) .notFound
  require (¬ (initial.revokedAt ≠ none ∨ ¬ usedAt < initial.expiresAt
    ∨ initial.maxRegistrations ≤ initial.registrationCount)) .conflict

/-- `CreateOAuthClient`. -/
def createOAuthClient (client : OAuthClient) (initialAccessTokenID : UUID) (usedAt : Time) :
    Mutation where
  check s := do
    let issuer ← find s.oauthIssuers client.issuerID .notFound
    require (¬ (client.source = .dcr ∧ issuer.dcrMode = .dcrOpen
      ∧ issuer.dcrOpenRegistrationLimit ≤ s.activeDCRClients client.issuerID)) .conflict
    require (client.id ∉ s.oauthClients) .conflict
    require ((client.issuerID, client.clientID) ∉ s.oauthClientKeys) .conflict
    if initialAccessTokenID ≠ 0 then
      s.checkInitialToken client.issuerID initialAccessTokenID usedAt
    else pure ()
  write _ s := .ok
    { s with
      oauthClients := s.oauthClients.set client.id client
      oauthClientKeys := s.oauthClientKeys.set (client.issuerID, client.clientID) client.id
      oauthInitialTokens := if initialAccessTokenID ≠ 0 then
          s.oauthInitialTokens.modify initialAccessTokenID fun v =>
            { v with registrationCount := v.registrationCount + 1 }
        else s.oauthInitialTokens }

/-- `UpsertOAuthCIMDClient`. -/
def upsertOAuthCIMDClient (client : OAuthClient) : Mutation where
  check s := do
    require (client.issuerID ∈ s.oauthIssuers) .notFound
    require ((s.oauthClientKeys.get? (client.issuerID, client.clientID)).all fun id =>
      id = client.id) .conflict
  write _ s := .ok
    { s with
      oauthClients := s.oauthClients.set client.id client
      oauthClientKeys := s.oauthClientKeys.set (client.issuerID, client.clientID) client.id }

/-- `RotateOAuthClientCredentials`: a nil argument leaves its field. -/
def rotateOAuthClientCredentials (clientRecordID : UUID) (secretDigest jwks : Option Bytes)
    (metadataHash : Bytes) (at' : Time) : Mutation where
  check s := require (clientRecordID ∈ s.oauthClients) .notFound
  write _ s := .ok { s with oauthClients := s.oauthClients.modify clientRecordID fun v =>
    { v with
      secretDigest := secretDigest.getD v.secretDigest
      jwks := jwks.getD v.jwks
      metadataHash := if jwks.isSome then metadataHash else v.metadataHash
      updatedAt := at' } }

/-- `SetOAuthClientDisabled`. -/
def setOAuthClientDisabled (clientRecordID : UUID) (disabled : Bool) (at' : Time) : Mutation where
  check s := require (clientRecordID ∈ s.oauthClients) .notFound
  write _ s :=
    let t := { s with oauthClients := s.oauthClients.modify clientRecordID fun v =>
      { v with disabledAt := disableStamp disabled at', updatedAt := at' } }
    .ok (if disabled then
      t.revokeOAuthGrantsWhere (fun grant => grant.clientRecordID = clientRecordID) at' else t)

/-- `CreateOAuthInitialAccessToken`. -/
def createOAuthInitialAccessToken (token : OAuthInitialAccessToken) : Mutation where
  check s := do
    require (token.issuerID ∈ s.oauthIssuers) .notFound
    require (token.id ∉ s.oauthInitialTokens) .conflict
    require (token.pfx ∉ s.oauthInitialKeys) .conflict
  write _ s := .ok
    { s with
      oauthInitialTokens := s.oauthInitialTokens.set token.id token
      oauthInitialKeys := s.oauthInitialKeys.set token.pfx token.id }

/-- `RevokeOAuthInitialAccessToken`. -/
def revokeOAuthInitialAccessToken (id : UUID) (at' : Time) : Mutation where
  check s := require (id ∈ s.oauthInitialTokens) .notFound
  write _ s := .ok { s with oauthInitialTokens := s.oauthInitialTokens.modify id fun v =>
    { v with revokedAt := some at' } }

/-! ## Grants and codes -/

/-- `CreateOAuthGrantAndCode`. -/
def createOAuthGrantAndCode (grant : OAuthGrant) (code : OAuthAuthorizationCode) : Mutation where
  check s := do
    require (grant.clientRecordID ∈ s.oauthClients) .notFound
    require (grant.resourceID ∈ s.oauthResources) .notFound
    require (grant.id ∉ s.oauthGrants) .conflict
    require (code.id ∉ s.oauthCodes) .conflict
    require (code.pfx ∉ s.oauthCodeKeys) .conflict
  write _ s := .ok
    { s with
      oauthGrants := s.oauthGrants.set grant.id grant
      oauthCodes := s.oauthCodes.set code.id code
      oauthCodeKeys := s.oauthCodeKeys.set code.pfx code.id }

/-- `RevokeOAuthGrant`. -/
def revokeOAuthGrant (grantID : UUID) (at' : Time) : Mutation where
  check s := require (grantID ∈ s.oauthGrants) .notFound
  write _ s := .ok (s.revokeOAuthGrantLocked grantID at')

/-- Store an access token and index its prefix. -/
def Store.putAccessToken (s : Store) (access : OAuthAccessToken) : Store :=
  { s with
    oauthAccessTokens := s.oauthAccessTokens.set access.id access
    oauthAccessKeys := s.oauthAccessKeys.set access.pfx access.id }

/-- Store a refresh token and index its prefix. -/
def Store.putRefreshToken (s : Store) (refresh : OAuthRefreshToken) : Store :=
  { s with
    oauthRefreshTokens := s.oauthRefreshTokens.set refresh.id refresh
    oauthRefreshKeys := s.oauthRefreshKeys.set refresh.pfx refresh.id }

/-- `ConsumeOAuthAuthorizationCode`. -/
def consumeOAuthAuthorizationCode (codeID : UUID) (usedAt : Time) (access : OAuthAccessToken)
    (refresh : Option OAuthRefreshToken) : Mutation where
  check s := do
    let code ← find s.oauthCodes codeID .notFound
    require (¬ (code.usedAt ≠ none ∨ ¬ usedAt < code.expiresAt)) .conflict
    require (access.pfx ∉ s.oauthAccessKeys) .conflict
    require (refresh.all fun refresh => refresh.pfx ∉ s.oauthRefreshKeys) .conflict
  write _ s :=
    let t := { s with oauthCodes := s.oauthCodes.modify codeID fun v =>
      { v with usedAt := some usedAt } }.putAccessToken access
    .ok (match refresh with
      | some refresh => t.putRefreshToken refresh
      | none => t)

/-! ## Tokens -/

/-- `CreateOAuthClientAccessToken`. -/
def createOAuthClientAccessToken (value : OAuthClientAccessToken) : Mutation where
  check s := require (value.pfx ∉ s.oauthClientTokenKeys) .conflict
  write _ s := .ok
    { s with
      oauthClientTokens := s.oauthClientTokens.set value.id value
      oauthClientTokenKeys := s.oauthClientTokenKeys.set value.pfx value.id }

/-- `RevokeOAuthClientAccessToken`. -/
def revokeOAuthClientAccessToken (id : UUID) (at' : Time) : Mutation where
  check s := require (id ∈ s.oauthClientTokens) .notFound
  write _ s := .ok { s with oauthClientTokens := s.oauthClientTokens.modify id fun v =>
    { v with revokedAt := some at' } }

/-- `RotateOAuthRefreshToken`. -/
def rotateOAuthRefreshToken (previousID : UUID) (usedAt : Time) (access : OAuthAccessToken)
    (refresh : OAuthRefreshToken) : Mutation where
  check s := do
    let previous ← find s.oauthRefreshTokens previousID .notFound
    require (¬ (previous.usedAt ≠ none ∨ previous.revokedAt ≠ none
      ∨ ¬ usedAt < previous.expiresAt)) .conflict
    require (previous.familyID = refresh.familyID ∧ previous.grantID = refresh.grantID) .conflict
    require (access.pfx ∉ s.oauthAccessKeys) .conflict
    require (refresh.pfx ∉ s.oauthRefreshKeys) .conflict
  write _ s :=
    let t := { s with oauthRefreshTokens := s.oauthRefreshTokens.modify previousID fun v =>
      { v with usedAt := some usedAt, replacedByID := refresh.id } }
    .ok ((t.putAccessToken access).putRefreshToken refresh)

/-- `RevokeOAuthAccessToken`: an already revoked token is left as it is. -/
def revokeOAuthAccessToken (id : UUID) (at' : Time) : Mutation where
  check s := require (id ∈ s.oauthAccessTokens) .notFound
  write _ s := .ok { s with oauthAccessTokens := s.oauthAccessTokens.modify id fun v =>
    if v.revokedAt = none then { v with revokedAt := some at' } else v }

/-- `RevokeOAuthRefreshFamily`: the family's refresh tokens, and the access tokens of every grant a
token of the family descends from. -/
def revokeOAuthRefreshFamily (familyID : UUID) (at' : Time) : Mutation where
  check s := require (s.oauthRefreshTokens.Any fun _ v => v.familyID = familyID) .notFound
  write _ s := .ok
    { s with
      oauthRefreshTokens := s.oauthRefreshTokens.mapVal fun _ v =>
        if v.familyID = familyID ∧ v.revokedAt = none then { v with revokedAt := some at' } else v
      oauthAccessTokens := s.oauthAccessTokens.mapVal fun _ v =>
        if (s.oauthRefreshTokens.Any fun _ r => r.familyID = familyID ∧ r.grantID = v.grantID)
          ∧ v.revokedAt = none then { v with revokedAt := some at' } else v }

/-! ## The operations -/

/-- The authorization-server operations with their arguments. -/
inductive OAuthOp
  | createOAuthIssuer (issuer : OAuthIssuer)
  | updateOAuthIssuer (issuer : OAuthIssuer)
  | setOAuthIssuerDisabled (issuerID : UUID) (disabled : Bool) (at' : Time)
  | createOAuthProtectedResource (resource : OAuthProtectedResource)
  | setOAuthProtectedResourceDisabled (resourceID : UUID) (disabled : Bool) (at' : Time)
  | createOAuthClient (client : OAuthClient) (initialAccessTokenID : UUID) (usedAt : Time)
  | upsertOAuthCIMDClient (client : OAuthClient)
  | rotateOAuthClientCredentials (clientRecordID : UUID) (secretDigest jwks : Option Bytes)
      (metadataHash : Bytes) (at' : Time)
  | setOAuthClientDisabled (clientRecordID : UUID) (disabled : Bool) (at' : Time)
  | createOAuthInitialAccessToken (token : OAuthInitialAccessToken)
  | revokeOAuthInitialAccessToken (id : UUID) (at' : Time)
  | createOAuthGrantAndCode (grant : OAuthGrant) (code : OAuthAuthorizationCode)
  | revokeOAuthGrant (grantID : UUID) (at' : Time)
  | consumeOAuthAuthorizationCode (codeID : UUID) (usedAt : Time) (access : OAuthAccessToken)
      (refresh : Option OAuthRefreshToken)
  | createOAuthClientAccessToken (value : OAuthClientAccessToken)
  | revokeOAuthClientAccessToken (id : UUID) (at' : Time)
  | rotateOAuthRefreshToken (previousID : UUID) (usedAt : Time) (access : OAuthAccessToken)
      (refresh : OAuthRefreshToken)
  | revokeOAuthAccessToken (id : UUID) (at' : Time)
  | revokeOAuthRefreshFamily (familyID : UUID) (at' : Time)

/-- The method an operation names. -/
def OAuthOp.mutation : OAuthOp → Mutation
  | .createOAuthIssuer issuer => Memory.createOAuthIssuer issuer
  | .updateOAuthIssuer issuer => Memory.updateOAuthIssuer issuer
  | .setOAuthIssuerDisabled issuerID disabled at' =>
      Memory.setOAuthIssuerDisabled issuerID disabled at'
  | .createOAuthProtectedResource resource => Memory.createOAuthProtectedResource resource
  | .setOAuthProtectedResourceDisabled resourceID disabled at' =>
      Memory.setOAuthProtectedResourceDisabled resourceID disabled at'
  | .createOAuthClient client initialAccessTokenID usedAt =>
      Memory.createOAuthClient client initialAccessTokenID usedAt
  | .upsertOAuthCIMDClient client => Memory.upsertOAuthCIMDClient client
  | .rotateOAuthClientCredentials clientRecordID secretDigest jwks metadataHash at' =>
      Memory.rotateOAuthClientCredentials clientRecordID secretDigest jwks metadataHash at'
  | .setOAuthClientDisabled clientRecordID disabled at' =>
      Memory.setOAuthClientDisabled clientRecordID disabled at'
  | .createOAuthInitialAccessToken token => Memory.createOAuthInitialAccessToken token
  | .revokeOAuthInitialAccessToken id at' => Memory.revokeOAuthInitialAccessToken id at'
  | .createOAuthGrantAndCode grant code => Memory.createOAuthGrantAndCode grant code
  | .revokeOAuthGrant grantID at' => Memory.revokeOAuthGrant grantID at'
  | .consumeOAuthAuthorizationCode codeID usedAt access refresh =>
      Memory.consumeOAuthAuthorizationCode codeID usedAt access refresh
  | .createOAuthClientAccessToken value => Memory.createOAuthClientAccessToken value
  | .revokeOAuthClientAccessToken id at' => Memory.revokeOAuthClientAccessToken id at'
  | .rotateOAuthRefreshToken previousID usedAt access refresh =>
      Memory.rotateOAuthRefreshToken previousID usedAt access refresh
  | .revokeOAuthAccessToken id at' => Memory.revokeOAuthAccessToken id at'
  | .revokeOAuthRefreshFamily familyID at' => Memory.revokeOAuthRefreshFamily familyID at'

end Credbound.Memory
