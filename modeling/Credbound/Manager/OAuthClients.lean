import Credbound.Manager.Permissions

/-!
# Manager/OAuthClients — resolving and authenticating a client

A client is looked up by its identifier.  One known by its metadata document is fetched again once
the cached document has expired, and the record is rebuilt from the new document and written back.
The token endpoints authenticate the client they resolve by the method it is registered with.
-/

namespace Credbound.Manager

open Procedure

/-! ## Building a client from a registration -/

/-- `OAuthClientRegistrationInput`. -/
structure OAuthClientRegistrationInput where
  name : String
  applicationType : OAuthApplicationType
  redirectURIs : List String
  grantTypes : List String
  responseTypes : List String
  scopes : List String
  clientCredentialsResources : List String
  tokenEndpointAuthMethod : OAuthTokenEndpointAuthMethod
  jwksURI : String
  jwks : Bytes
  trusted : Bool

/-- `isLoopbackRedirectHost`. -/
def isLoopbackRedirectHost (m : Manager) (host : String) : Bool :=
  isLocalhostName host ∨ m.isLoopbackIP host

/-- One redirect URI passes `normalizeRedirectURIs`. -/
def validRedirectURI (m : Manager) (applicationType : OAuthApplicationType) (raw : String) : Bool :=
  raw ≠ "" ∧ raw = trimSpace raw ∧ raw.utf8ByteSize ≤ 2048
    ∧ (m.parseURL raw).any fun value =>
      value.host ≠ "" ∧ ¬ value.hasUser ∧ value.fragment = ""
        ∧ (value.scheme = "https" ∨ applicationType ≠ .web ∧ value.scheme = "http"
          ∧ m.isLoopbackRedirectHost value.hostname)

/-- `normalizeRedirectURIs`. -/
def normalizeRedirectURIs (m : Manager) (applicationType : OAuthApplicationType)
    (input : List String) : Except Err (List String) := do
  require (input ≠ [] ∧ input.length ≤ 20) .invalidInput
  require (∀ raw ∈ input, m.validRedirectURI applicationType raw = true) .invalidInput
  let result := sortCompact input
  require (result.length = input.length) .invalidInput
  return result

/-- `normalizeOAuthFlowMetadata`. -/
def normalizeOAuthFlowMetadata (grants responses : List String) :
    Except Err (List String × List String) := do
  let grants := sortCompact (if grants = [] then ["authorization_code"] else grants)
  let responses := sortCompact (if responses = [] then ["code"] else responses)
  require (∀ grant ∈ grants, grant = "authorization_code" ∨ grant = "refresh_token"
    ∨ grant = "client_credentials") .invalidInput
  require ("authorization_code" ∈ grants ∨ "client_credentials" ∈ grants) .invalidInput
  require ("authorization_code" ∈ grants → responses = ["code"]) .invalidInput
  return (grants, responses)

/-- `normalizeClientCredentialsResources`. -/
def normalizeClientCredentialsResources (m : Manager) (raw : List String) :
    Except Err (List String) := do
  require (raw.length ≤ 32) .invalidInput
  let values ← raw.mapM fun entry => m.validateResourceURL entry
  return sortCompact values

/-- `oauthSectorIdentifier`: the one host of the redirect URIs; a client of an issuer without OIDC
may have several, of which the source takes any and this the first. -/
def oauthSectorIdentifier (m : Manager) (redirects : List String) (oidc : Bool) :
    Except Err String := do
  require (∀ raw ∈ redirects, (m.parseURL raw).isSome) .invalidInput
  let hosts := redirects.filterMap fun raw => (m.parseURL raw).map fun value => value.hostname.toLower
  require (oidc → "" ∉ hosts) .invalidInput
  let sectors := (hosts.filter fun host => host ≠ "").dedup
  require (oidc → sectors.length = 1) .invalidInput
  return sectors.headD ""

/-- `newOAuthClient` for a caller that allows no client secret. -/
def newOAuthClient (m : Manager) (io : Supply) (issuer : OAuthIssuer) (source : OAuthClientSource)
    (input : OAuthClientRegistrationInput) : Except Err OAuthClient := do
  let name := trimSpace input.name
  require (name ≠ "" ∧ name.utf8ByteSize ≤ 200) .invalidInput
  require (input.applicationType = .web ∨ input.applicationType = .native) .invalidInput
  let redirects ← m.normalizeRedirectURIs input.applicationType input.redirectURIs
  let flow ← normalizeOAuthFlowMetadata input.grantTypes input.responseTypes
  let scopes ← normalizeOptionalOAuthScopes input.scopes
  let resources ← m.normalizeClientCredentialsResources input.clientCredentialsResources
  require (if "client_credentials" ∈ flow.1 then
    source = .preRegistered ∧ scopes ≠ [] ∧ resources ≠ [] else resources = []) .invalidInput
  let sectorIdentifier ← m.oauthSectorIdentifier redirects issuer.oidcEnabled
  let method := if input.tokenEndpointAuthMethod = .other "" then .none
    else input.tokenEndpointAuthMethod
  require (method = .none ∨ method = .privateKeyJWT ∨ method = .clientSecretBasic) .invalidInput
  require (¬ (method = .none ∧ "client_credentials" ∈ flow.1)) .invalidInput
  require (¬ (method = .privateKeyJWT ∧ input.jwks = [] ∧ input.jwksURI = "")) .invalidInput
  require (method ≠ .clientSecretBasic) .invalidInput
  require (input.jwksURI = "" ∨ (m.validatePublicHTTPSURL input.jwksURI false).isOk) .invalidInput
  require (input.jwks.length ≤ 32 * 1024 ∧ (input.jwks = [] ∨ m.validJSON input.jwks))
    .invalidInput
  let id ← io.newID 0
  let now := io.now 2
  let client : OAuthClient := {
    id := id, issuerID := issuer.id, clientID := id.string, source := source, name := name,
    applicationType := input.applicationType, redirectURIs := redirects,
    sectorIdentifier := sectorIdentifier, grantTypes := flow.1, responseTypes := flow.2,
    scopes := scopes, clientCredentialsResources := resources, tokenEndpointAuthMethod := method,
    jwksURI := input.jwksURI, jwks := input.jwks, trusted := input.trusted && source = .preRegistered,
    secretDigest := [], metadataHash := [], metadataExpiresAt := none, createdAt := now,
    updatedAt := now, disabledAt := none }
  return { client with metadataHash := m.oauthClientMetadataHash client }

/-- `oauthClientFromMetadata`. -/
def oauthClientFromMetadata (m : Manager) (io : Supply) (issuer : OAuthIssuer)
    (document : OAuthClientMetadataDocument) : Except Err OAuthClient := do
  let clientURL ← match m.validateCIMDClientID document.clientID with
    | .ok clientURL => pure clientURL
    | .error _ => .error .invalidCredentials
  require (issuerAllowsCIMD issuer clientURL = true) .invalidCredentials
  require (document.fetchedAt ≠ 0 ∧ document.expiresAt ≠ 0 ∧ document.fetchedAt < document.expiresAt
    ∧ io.now 1 < document.expiresAt) .invalidInput
  let client ← m.newOAuthClient io issuer .cimd
    { name := document.clientName, applicationType := document.applicationType,
      redirectURIs := document.redirectURIs, grantTypes := document.grantTypes,
      responseTypes := document.responseTypes, scopes := fields document.scope,
      clientCredentialsResources := [],
      tokenEndpointAuthMethod := document.tokenEndpointAuthMethod, jwksURI := document.jwksURI,
      jwks := document.jwks, trusted := false }
  let client := { client with
    clientID := document.clientID
    metadataExpiresAt := some document.expiresAt
    createdAt := document.fetchedAt
    updatedAt := io.now 3 }
  return { client with metadataHash := m.oauthClientMetadataHash client }

/-! ## Resolving -/

/-- `emitOAuthCIMDRejected`: a best-effort audit event. -/
def emitOAuthCIMDRejected (m : Manager) (ctx : Context) (io : Supply) (issuer : OAuthIssuer)
    (clientID reason : String) : Action Unit := do
  let report : Action Unit := do
    let audit ← lift (io.audit 1 (io.now 4) 0 "oauth.cimd.reject" "oauth_client" clientID 0 .failed
      reason)
    let client : OAuthClient :=
      { (default : OAuthClient) with issuerID := issuer.id, clientID := clientID, source := .cimd }
    let commit ← lift (newOAuthChange m.hooks (io.newID 2) (io.now 5) .oauthCIMDRejected
      "oauth.cimd.reject" { audit with actorKind := .system } client {})
    send ctx .appendAudit commit
  let _ ← report.attempt
  pure ()

/-- The part of `resolveOAuthClient` that fetches the metadata document, for a client that is
unknown (the zero record) or whose cached document has expired. -/
def fetchOAuthClient (m : Manager) (ctx : Context) (io : Supply) (issuer : OAuthIssuer)
    (clientID : String) (client : OAuthClient) : Action OAuthClient := do
  demand (issuer.cimdMode ≠ .disabled ∧ m.metadataFetcher = true) .invalidCredentials
  match m.validateCIMDClientID clientID with
  | .error _ => do
    m.emitOAuthCIMDRejected ctx io issuer clientID "policy_rejected"
    fail .invalidCredentials
  | .ok clientURL =>
    if issuerAllowsCIMD issuer clientURL = false then do
      m.emitOAuthCIMDRejected ctx io issuer clientID "policy_rejected"
      fail .invalidCredentials
    else match io.fetch clientID with
    | .error _ => do
      m.emitOAuthCIMDRejected ctx io issuer clientID "metadata_fetch_failed"
      fail .invalidCredentials
    | .ok document =>
      match m.oauthClientFromMetadata io issuer document with
      | .error _ => do
        m.emitOAuthCIMDRejected ctx io issuer clientID "metadata_invalid"
        fail .invalidCredentials
      | .ok resolved =>
        if resolved.clientID ≠ clientID then do
          m.emitOAuthCIMDRejected ctx io issuer clientID "metadata_invalid"
          fail .invalidCredentials
        else do
          let changed := client.id ≠ 0 ∧ client.metadataHash ≠ resolved.metadataHash
          let name := if changed then .oauthCIMDChanged else .oauthCIMDResolved
          let action := if changed then "oauth.cimd.change" else "oauth.cimd.resolve"
          -- The record keeps the identity of the one it replaces, and nothing else of it.
          let resolved := if client.id ≠ 0 then
            { resolved with id := client.id, createdAt := client.createdAt } else resolved
          let audit ← lift (io.audit 1 (io.now 4) 0 action "oauth_client" resolved.id.string 0
            .succeeded "")
          let commit ← lift (newOAuthChange m.hooks (io.newID 2) (io.now 5) name action
            { audit with actorKind := .system } resolved { scopes := resolved.scopes })
          (send ctx (.upsertOAuthCIMDClient resolved) commit).mapError mapStoreError
          pure resolved

/-- The stored record is used as it is: it has no cached document, or one that has not expired. -/
def MetadataFresh (now : Time) (client : OAuthClient) : Prop :=
  client.source ≠ .cimd ∨ client.metadataExpiresAt.all (fun expires => now < expires) = true

instance (now : Time) (client : OAuthClient) : Decidable (MetadataFresh now client) :=
  inferInstanceAs (Decidable (_ ∨ _))

/-- `resolveOAuthClient`. -/
def resolveOAuthClient (m : Manager) (ctx : Context) (io : Supply) (issuer : OAuthIssuer)
    (clientID : String) : Action OAuthClient := do
  let clientID := trimSpace clientID
  demand (clientID ≠ "" ∧ clientID.utf8ByteSize ≤ 2048) .invalidCredentials
  match ← (ask ctx (.oauthClientByClientID issuer.id clientID)).attempt with
  | .ok client =>
    if MetadataFresh (io.now 0) client then pure client
    else m.fetchOAuthClient ctx io issuer clientID client
  | .error e =>
    if e = .notFound then m.fetchOAuthClient ctx io issuer clientID default else fail e

/-! ## What resolving can change -/

/-- The accesses that resolving and authenticating a client make: reads, though not of a membership,
an audit event, and the client record. -/
def Resolving : ⦃β : Type⦄ → Request β → Prop
  | _, .query _ q => ¬ q.OfMembership
  | _, .update _ .appendAudit _ => True
  | _, .update _ (.upsertOAuthCIMDClient _) _ => True
  | _, .update _ _ _ => False

theorem resolving_query {α : Type} {ctx : Context} {q : Query α} (h : ¬ q.OfMembership) :
    Resolving (.query ctx q) := h

theorem emitOAuthCIMDRejected_resolving (m : Manager) (ctx : Context) (io : Supply)
    (issuer : OAuthIssuer) (clientID reason : String) :
    (m.emitOAuthCIMDRejected ctx io issuer clientID reason).Emits Resolving := by
  refine emits_bind (emits_attempt ?_) fun _ => emits_pure
  exact emits_bind emits_lift fun _ =>
    emits_bind emits_lift fun _ => emits_send trivial

theorem fetchOAuthClient_resolving (m : Manager) (ctx : Context) (io : Supply) (issuer : OAuthIssuer)
    (clientID : String) (client : OAuthClient) :
    (m.fetchOAuthClient ctx io issuer clientID client).Emits Resolving := by
  have hreject : ∀ reason, (do m.emitOAuthCIMDRejected ctx io issuer clientID reason
                               fail .invalidCredentials : Action OAuthClient).Emits Resolving :=
    fun reason => emits_bind
      (m.emitOAuthCIMDRejected_resolving ctx io issuer clientID reason) fun _ => emits_fail
  refine emits_bind emits_demand fun _ => ?_
  split
  · exact hreject _
  split
  · exact hreject _
  split
  · exact hreject _
  split
  · exact hreject _
  split
  · exact hreject _
  · exact emits_bind emits_lift fun _ =>
      emits_bind emits_lift fun _ =>
      emits_bind (emits_mapError (emits_send trivial)) fun _ => emits_pure

theorem resolveOAuthClient_resolving (m : Manager) (ctx : Context) (io : Supply)
    (issuer : OAuthIssuer) (clientID : String) :
    (m.resolveOAuthClient ctx io issuer clientID).Emits Resolving := by
  refine emits_bind emits_demand fun _ =>
    emits_bind (emits_attempt (emits_ask (resolving_query id))) fun r => ?_
  match r with
  | .ok client =>
    dsimp only
    split
    · exact emits_pure
    · exact m.fetchOAuthClient_resolving ctx io issuer _ client
  | .error e =>
    dsimp only
    split
    · exact m.fetchOAuthClient_resolving ctx io issuer _ default
    · exact emits_fail

/-- A store that keeps client records apart: resolving one leaves every other read as it was. -/
def Backend.Separate {S : Type} (b : Backend S) : Prop :=
  ∀ (s : S) ⦃β : Type⦄ (r : Request β), Resolving r → ∀ (ctx : Context) (α : Type) (q : Query α),
    ¬ q.OfClient → b.ask (b.handler r s).2 ctx q = b.ask s ctx q

/-- **Resolving a client leaves every other read as it was.** -/
theorem ask_of_resolving {S α : Type} {b : Backend S} (hb : b.Separate) {p : Action α}
    (hp : p.Emits Resolving) {s t : S} {r : Except Err α} (h : b.Returns p s r t) (ctx : Context)
    ⦃β : Type⦄ (q : Query β) (hq : ¬ q.OfClient) : b.ask t ctx q = b.ask s ctx q := by
  refine Program.Runs.invariant_of_emits (I := fun x => b.ask x ctx q = b.ask s ctx q) h hp ?_ ?_ rfl
  · rintro x y rfl hx
    exact hx
  · intro γ e x he _ hx
    exact (hb x e he ctx β q hq).trans hx

/-! ## Authenticating -/

/-- The client's part of a token-endpoint request. -/
structure TokenEndpointRequest where
  issuer : String
  clientID : String
  clientSecret : String := ""
  clientSecretInBody : Bool := false
  clientAssertion : String := ""
  clientAssertionType : String := ""

def jwtBearerAssertionType : String := "urn:ietf:params:oauth:client-assertion-type:jwt-bearer"

/-- The `switch` of `authenticateOAuthClient`. -/
def clientAuthenticated (m : Manager) (now : Time) (issuer : OAuthIssuer) (client : OAuthClient)
    (input : TokenEndpointRequest) : Bool :=
  match client.tokenEndpointAuthMethod with
  | .none => input.clientSecret = "" ∧ input.clientAssertion = ""
  | .clientSecretBasic => input.clientAssertion = "" ∧ input.clientSecret ≠ ""
      ∧ ¬ input.clientSecretInBody
      ∧ client.secretDigest = m.oauthDigest "client-secret" input.clientSecret
  | .privateKeyJWT => input.clientSecret = "" ∧ input.clientAssertion ≠ ""
      ∧ m.clientAssertions.any fun verify =>
        verify client (issuer.issuer ++ "/token") input.clientAssertion now
  | .other _ => false

/-- `authenticateOAuthClient`. -/
def authenticateOAuthClient (m : Manager) (ctx : Context) (io : Supply)
    (input : TokenEndpointRequest) : Action (OAuthIssuer × OAuthClient) := do
  demand (if input.clientAssertion ≠ "" then input.clientAssertionType = jwtBearerAssertionType
    else input.clientAssertionType = "") .invalidCredentials
  let issuerURL ← (lift (m.validateIssuerURL input.issuer)).mapError fun _ => .invalidCredentials
  let issuer ← expect ctx (.oauthIssuerByURL issuerURL) (fun issuer => issuer.disabledAt = none)
    .invalidCredentials
  let client ← (m.resolveOAuthClient ctx io issuer input.clientID).mapError fun _ =>
    .invalidCredentials
  demand (client.disabledAt = none) .invalidCredentials
  demand (m.clientAuthenticated (io.now 6) issuer client input = true) .invalidCredentials
  pure (issuer, client)

theorem authenticateOAuthClient_resolving (m : Manager) (ctx : Context) (io : Supply)
    (input : TokenEndpointRequest) : (m.authenticateOAuthClient ctx io input).Emits Resolving :=
  emits_bind emits_demand fun _ =>
    emits_bind (emits_mapError emits_lift) fun _ =>
    emits_bind (emits_expect (resolving_query id)) fun issuer =>
    emits_bind (emits_mapError (m.resolveOAuthClient_resolving ctx io issuer input.clientID)) fun _ =>
    emits_bind emits_demand fun _ =>
    emits_bind emits_demand fun _ => emits_pure

end Credbound.Manager
