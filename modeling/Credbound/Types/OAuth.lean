import Credbound.Types.Records

/-!
# Types/OAuth — the records of the authorization server

The stored record types of `oauth_types.go`, under the conventions of `Types/Records`.
-/

namespace Credbound

inductive OAuthCIMDMode
  | disabled
  | allowlist
  | publicWeb
  | other (value : String)
deriving DecidableEq

instance : Inhabited OAuthCIMDMode := ⟨.other ""⟩

inductive OAuthDCRMode
  | dcrDisabled
  | dcrProtected
  | dcrOpen
  | other (value : String)
deriving DecidableEq

instance : Inhabited OAuthDCRMode := ⟨.other ""⟩

inductive OAuthClientSource
  | preRegistered
  | cimd
  | dcr
  | other (value : String)
deriving DecidableEq

instance : Inhabited OAuthClientSource := ⟨.other ""⟩

inductive OAuthApplicationType
  | web
  | native
  | other (value : String)
deriving DecidableEq

instance : Inhabited OAuthApplicationType := ⟨.other ""⟩

inductive OAuthTokenEndpointAuthMethod
  | none
  | privateKeyJWT
  | clientSecretBasic
  | other (value : String)
deriving DecidableEq

instance : Inhabited OAuthTokenEndpointAuthMethod := ⟨.other ""⟩

structure OAuthScopeDefinition where
  name : String
  description : String
  permissions : List String
  minimumAAL : AssuranceLevel
  maxAuthAge : Duration
deriving Inhabited

structure OAuthIssuer where
  id : UUID
  issuer : String
  oidcEnabled : Bool
  cimdMode : OAuthCIMDMode
  cimdAllowedOrigins : List String
  dcrMode : OAuthDCRMode
  dcrAllowClientSecrets : Bool
  dcrOpenRegistrationLimit : Int
  codeTTL : Duration
  accessTokenTTL : Duration
  refreshTokenTTL : Duration
  createdAt : Time
  updatedAt : Time
  disabledAt : Option Time
deriving Inhabited

structure OAuthProtectedResource where
  id : UUID
  issuerID : UUID
  workspaceID : UUID
  resource : String
  scopes : List OAuthScopeDefinition
  createdAt : Time
  updatedAt : Time
  disabledAt : Option Time
deriving Inhabited

structure OAuthClient where
  id : UUID
  issuerID : UUID
  clientID : String
  source : OAuthClientSource
  name : String
  applicationType : OAuthApplicationType
  redirectURIs : List String
  sectorIdentifier : String
  grantTypes : List String
  responseTypes : List String
  scopes : List String
  clientCredentialsResources : List String
  tokenEndpointAuthMethod : OAuthTokenEndpointAuthMethod
  jwksURI : String
  jwks : Bytes
  trusted : Bool
  secretDigest : Bytes
  metadataHash : Bytes
  metadataExpiresAt : Option Time
  createdAt : Time
  updatedAt : Time
  disabledAt : Option Time
deriving Inhabited

structure OAuthInitialAccessToken where
  id : UUID
  issuerID : UUID
  pfx : String
  digest : Bytes
  maxRegistrations : Int
  registrationCount : Int
  createdAt : Time
  expiresAt : Time
  revokedAt : Option Time
deriving Inhabited

structure OAuthGrant where
  id : UUID
  issuerID : UUID
  clientRecordID : UUID
  userID : UUID
  workspaceID : UUID
  resourceID : UUID
  scopes : List String
  metadataHash : Bytes
  authTime : Time
  authMethod : AuthMethod
  aal : AssuranceLevel
  createdAt : Time
  updatedAt : Time
  revokedAt : Option Time
deriving DecidableEq, Inhabited

structure OAuthAuthorizationCode where
  id : UUID
  pfx : String
  digest : Bytes
  grantID : UUID
  clientRecordID : UUID
  redirectURI : String
  resourceID : UUID
  scopes : List String
  codeChallenge : String
  nonce : String
  createdAt : Time
  expiresAt : Time
  usedAt : Option Time
deriving Inhabited

structure OAuthAccessToken where
  id : UUID
  pfx : String
  digest : Bytes
  grantID : UUID
  clientRecordID : UUID
  userID : UUID
  workspaceID : UUID
  resourceID : UUID
  scopes : List String
  createdAt : Time
  expiresAt : Time
  revokedAt : Option Time
deriving Inhabited

structure OAuthClientAccessToken where
  id : UUID
  pfx : String
  digest : Bytes
  clientRecordID : UUID
  issuerID : UUID
  resourceID : UUID
  workspaceID : UUID
  scopes : List String
  createdAt : Time
  expiresAt : Time
  revokedAt : Option Time
deriving Inhabited

structure OAuthRefreshToken where
  id : UUID
  familyID : UUID
  pfx : String
  digest : Bytes
  grantID : UUID
  clientRecordID : UUID
  userID : UUID
  workspaceID : UUID
  resourceID : UUID
  scopes : List String
  createdAt : Time
  expiresAt : Time
  usedAt : Option Time
  replacedByID : UUID
  revokedAt : Option Time
deriving Inhabited

end Credbound
