import Credbound.Manager.Access
import Credbound.Manager.Audit
import Credbound.Manager.Text

/-!
# Manager/Config — what a manager is built with, and what a call is given

A `Manager` holds the collaborators its OAuth functions call: the cryptography, the URL and JSON
parsers of the Go library, the role catalogue, the transaction hooks and the optional capabilities.
None of them touches the store.

Every call reads a clock, draws identifiers and random bearer tokens, may fetch a metadata document,
and knows the address and agent of its request; `Supply` is what one call is given of them.
Readings are numbered in the order of the source, so that two readings of one call may differ.
-/

namespace Credbound

namespace Manager

/-! ## Authenticated actors -/

/-- `Authentication`. -/
structure Authentication where
  userID : UUID
  method : AuthMethod := default
  level : AssuranceLevel := 0
  authenticatedAt : Time := 0
  secondFactorRequired : Bool := false
  workspaceID : UUID := 0
  scopes : List String := []
  credentialDigest : Bytes := []

/-- `AAL1`. -/
def aal1 : AssuranceLevel := 1

/-- `AAL2`. -/
def aal2 : AssuranceLevel := 2

/-- `Interactive`. -/
def Authentication.interactive (authn : Authentication) : Bool :=
  authn.method = .password ∨ authn.method = .totp ∨ authn.method = .passkey ∨ authn.method = .sso
    ∨ authn.method = .email

/-- `HasScope`. -/
def Authentication.hasScope (authn : Authentication) (required : String) : Bool :=
  required = "" ∨ ∃ scope ∈ authn.scopes, scope = required ∨ scope = "*"

/-- `freshAuthentication`. -/
def freshAuthentication (now authenticatedAt : Time) (maxAge : Duration) : Bool :=
  0 ≤ now - authenticatedAt ∧ now - authenticatedAt ≤ maxAge

/-! ## Documents -/

/-- The parts of a parsed `url.URL` that are looked at. -/
structure URL where
  scheme : String
  host : String
  hostname : String
  hasUser : Bool
  fragment : String
  rawQuery : String
  escapedPath : String
  string : String

/-- `OAuthClientMetadataDocument`. -/
structure OAuthClientMetadataDocument where
  clientID : String
  clientName : String
  applicationType : OAuthApplicationType
  redirectURIs : List String
  grantTypes : List String
  responseTypes : List String
  scope : String
  tokenEndpointAuthMethod : OAuthTokenEndpointAuthMethod
  jwksURI : String
  jwks : Bytes
  fetchedAt : Time
  expiresAt : Time

/-- `oauthAuthorizationContinuation`. -/
structure OAuthAuthorizationContinuation where
  userID : UUID
  clientRecordID : UUID
  resourceID : UUID
  redirectURI : String
  scopes : List String
  state : String
  codeChallenge : String
  nonce : String
  metadataHash : Bytes
  authTime : Time
  authMethod : AuthMethod
  aal : AssuranceLevel
  maxAge : Duration
  expiresAt : Time

/-- `OIDCClaims`; the times are Unix seconds. -/
structure OIDCClaims where
  issuer : String
  subject : String
  audience : String
  expiresAt : Int
  issuedAt : Int
  authTime : Int
  nonce : String
  acr : String
  amr : List AuthMethod
  email : String
  emailVerified : Option Bool

/-! ## One call's readings -/

/-- The clock, the identifiers, the bearer tokens (a lookup prefix and the raw text), the metadata
fetcher and the request metadata, as one call meets them. -/
structure Supply where
  now : Nat → Time
  newID : Nat → Except Err UUID
  newOAuthBearer : Nat → Except Err (String × String)
  fetch : String → Except Err OAuthClientMetadataDocument
  ipAddress : String := ""
  userAgent : String := ""

/-- `newAudit` with the `k`-th identifier of the call and the clock reading `at'`. -/
def Supply.audit (io : Supply) (k : Nat) (at' : Time) (actor : UUID)
    (action resourceType resourceID : String) (workspaceID : UUID) (outcome : AuditOutcome)
    (reason : String) : Except Err AuditEvent := do
  let id ← io.newID k
  return newAudit at'
    { id := id, actor := actor, action := action, resourceType := resourceType,
      resourceID := resourceID, workspaceID := workspaceID, outcome := outcome, reason := reason,
      ipAddress := io.ipAddress, userAgent := io.userAgent }

end Manager

/-! ## The manager -/

open Manager in
/-- The collaborators of a manager that its OAuth functions call. -/
structure Manager where
  /-- Both `Config.OAuth` and the `OAuthStore` capability are there. -/
  oauth : Bool := true
  ceremonyTTL : Duration
  /-- `url.Parse`, `url.PathUnescape`, `path.Clean`. -/
  parseURL : String → Option URL
  pathUnescape : String → Option String
  cleanPath : String → String
  /-- `net.ParseIP(host).IsLoopback()`. -/
  isLoopbackIP : String → Bool
  /-- `json.Valid`. -/
  validJSON : Bytes → Bool
  /-- `oauthDigest`: the HMAC of a purpose and a raw text. -/
  oauthDigest : String → String → Bytes
  /-- The base64 of the SHA-256 of a verifier. -/
  codeChallenge : String → String
  oauthClientMetadataHash : OAuthClient → Bytes
  oauthPairwiseSubject : UUID → String → UUID → String
  /-- `roleCatalog.allows`. -/
  allows : Role → String → Bool
  /-- A `MetadataFetcher` is configured. -/
  metadataFetcher : Bool
  /-- `ClientAssertions.Verify` returns no error. -/
  clientAssertions : Option (OAuthClient → String → String → Time → Bool)
  oidcSigner : Option (OIDCClaims → Except Err String)
  /-- The registered transaction hooks, on a change. -/
  hooks : OAuthChange → Hook
  /-- `encodeOAuthContinuation`, and what opening a continuation yields. -/
  encodeOAuthContinuation : OAuthAuthorizationContinuation → Except Err String
  openOAuthContinuation : String → Option OAuthAuthorizationContinuation

namespace Manager

/-- `requireOAuth`. -/
def requireOAuth (m : Manager) : Action Unit := .demand (m.oauth = true) .notSupported

/-- `mapAuditError`, which is all `mapStoreError` returns. -/
def mapStoreError : Err → Err
  | .auditUnavailableFor _ => .auditUnavailable
  | e => e

/-- `mapOAuthCredentialStoreError`. -/
def mapOAuthCredentialStoreError (e : Err) : Err :=
  if e = .conflict ∨ e = .expired then .invalidCredentials else mapStoreError e

/-- `verifyPKCE`. -/
def verifyPKCE (m : Manager) (verifier expected : String) : Bool := m.codeChallenge verifier = expected

/-! ## URLs -/

/-- `validatePublicHTTPSURL`. -/
def validatePublicHTTPSURL (m : Manager) (raw : String) (requirePath : Bool) : Except Err URL := do
  require (raw ≠ "" ∧ raw = trimSpace raw ∧ raw.utf8ByteSize ≤ 2048) .invalidInput
  match m.parseURL raw with
  | none => .error .invalidInput
  | some value => do
    require (value.scheme = "https" ∧ value.host ≠ "" ∧ ¬ value.hasUser ∧ value.fragment = "")
      .invalidInput
    require (¬ (requirePath ∧ (value.escapedPath = "" ∨ value.escapedPath = "/"))) .invalidInput
    return value

/-- An HTTPS URL without query or fragment. -/
def withoutQuery (m : Manager) (raw : String) (requirePath : Bool) : Except Err URL := do
  let value ← m.validatePublicHTTPSURL raw requirePath
  require (value.rawQuery = "") .invalidInput
  return value

/-- `strings.TrimSuffix(text, "/")`. -/
def trimSlash (text : String) : String :=
  if text.toList.getLast? = some '/' then String.ofList text.toList.dropLast else text

/-- `validateIssuerURL`. -/
def validateIssuerURL (m : Manager) (raw : String) : Except Err String := do
  let value ← m.withoutQuery raw false
  return trimSlash value.string

/-- `validateResourceURL`. -/
def validateResourceURL (m : Manager) (raw : String) : Except Err String := do
  let value ← m.withoutQuery raw false
  return value.string

/-- `validateCIMDClientID`: every segment decodes to a name, and the path is canonical. -/
def validateCIMDClientID (m : Manager) (raw : String) : Except Err URL := do
  let value ← m.withoutQuery raw true
  let segments := (value.escapedPath.toList.splitOn '/').map String.ofList
  require (∀ segment ∈ segments, (m.pathUnescape segment).all (fun decoded =>
    decoded ≠ "." ∧ decoded ≠ ".." ∧ '/' ∉ decoded.toList ∧ '\\' ∉ decoded.toList)
      ∧ (m.pathUnescape segment).isSome) .invalidInput
  require (m.cleanPath value.escapedPath = value.escapedPath) .invalidInput
  return value

/-- `issuerAllowsCIMD`. -/
def issuerAllowsCIMD (issuer : OAuthIssuer) (clientURL : URL) : Bool :=
  issuer.cimdMode ≠ .disabled
    ∧ (issuer.cimdMode = .publicWeb ∨ "https://" ++ clientURL.host.toLower ∈ issuer.cimdAllowedOrigins)

/-- `isLocalhostName`. -/
def isLocalhostName (host : String) : Bool := host.toLower = "localhost"

end Manager

end Credbound
