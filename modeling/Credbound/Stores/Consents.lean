import Credbound.Manager.Consent
import Credbound.Stores.Backends

/-!
# Stores/Consents — consents and grants of the two stores, and who they are for

`consents_entitled_iff` is the account of `BeginOAuthAuthorization` and `CompleteOAuthAuthorization`
over either store: an accepted request is for an enabled user with an active membership in an enabled
workspace and no pending second factor exactly when one of its scopes has a permission to check.
`openid` has none, and `openid_consent_for_anyone` is a request that is granted to a disabled user
without a membership in a disabled workspace.

The section *A small tenant* sets up the store and the manager that this and later modules run.
-/

namespace Credbound.Stores

open Manager Memory

/-! ## Either store -/

/-- **A consent or grant is for an entitled actor exactly when its scopes have a permission to
check.** -/
theorem consents_entitled_iff (kind : StoreKind) (m : Manager) (ctx : Context) (io : Supply)
    (s : kind.State) (actor : Authentication) (resource : OAuthProtectedResource) :
    (∀ input : BeginOAuthAuthorizationInput,
      kind.backend.NamedResource m s ctx input.resource resource →
      kind.backend.Accepts (m.beginOAuthAuthorization ctx io actor input) s →
      ((∀ pending,
          kind.backend.Accepts (m.beginOAuthAuthorization ctx io (actor.withPending pending) input) s →
          kind.backend.Entitled s ctx (actor.withPending pending) resource.workspaceID)
        ↔ ChecksPermission resource input.scopes))
    ∧ ∀ (raw : String) (continuation : OAuthAuthorizationContinuation),
      m.decodeOAuthContinuation (io.now 10) raw = .ok continuation →
      kind.backend.ask s ctx (.oauthProtectedResourceByID continuation.resourceID) = .ok resource →
      kind.backend.Accepts (m.completeOAuthAuthorization ctx io actor raw true) s →
      ((∀ pending,
          kind.backend.Accepts
            (m.completeOAuthAuthorization ctx io (actor.withPending pending) raw true) s →
          kind.backend.Entitled s ctx (actor.withPending pending) resource.workspaceID)
        ↔ ChecksPermission resource continuation.scopes) :=
  ⟨fun _ hresource haccepts => begin_entitled_iff kind.separate hresource haccepts,
    fun _ _ hopen hresource haccepts => complete_entitled_iff hopen hresource haccepts⟩

/-! ## A small tenant -/

/-- A URL is any text; its host is fixed. -/
def tenantURL (raw : String) : URL where
  scheme := "https"
  host := "client.example.com"
  hostname := "client.example.com"
  hasUser := false
  fragment := ""
  rawQuery := ""
  escapedPath := "/client.json"
  string := raw

def tenantContinuation : OAuthAuthorizationContinuation where
  userID := uuidv7 2
  clientRecordID := uuidv7 30
  resourceID := uuidv7 20
  redirectURI := "https://client.example.com/callback"
  scopes := ["openid"]
  state := "state"
  codeChallenge := "challenge"
  nonce := ""
  metadataHash := [1]
  authTime := 100
  authMethod := .password
  aal := 1
  maxAge := 0
  expiresAt := 2000

/-- A manager whose administrators have every permission, and whose members have one. -/
def tenantManager : Manager where
  ceremonyTTL := 600
  parseURL raw := some (tenantURL raw)
  pathUnescape text := some text
  cleanPath text := text
  isLoopbackIP _ := false
  validJSON _ := true
  oauthDigest _ _ := [7]
  codeChallenge _ := "challenge"
  oauthClientMetadataHash _ := [1]
  oauthPairwiseSubject _ _ _ := "subject"
  allows role permission := role = .admin ∨ permission = "workspace.access"
  metadataFetcher := true
  clientAssertions := none
  oidcSigner := some fun _ => .ok "id-token"
  hooks _ _ _ := none
  encodeOAuthContinuation _ := .ok "continuation"
  openOAuthContinuation _ := some tenantContinuation

/-- A call at time 1000, with identifiers from `first` on. -/
def tenantSupply (first : Nat) : Supply where
  now _ := 1000
  newID k := .ok (uuidv7 (first + k))
  newOAuthBearer k := .ok (toString (first + k), "raw")
  fetch _ := .error .notFound

def tenantIssuer : OAuthIssuer :=
  { (default : OAuthIssuer) with
    id := uuidv7 10, issuer := "https://auth.example.com", oidcEnabled := true, codeTTL := 300,
    accessTokenTTL := 900, refreshTokenTTL := 5000 }

/-- A scope with one permission behind it. -/
def tenantScope : OAuthScopeDefinition where
  name := "notes.read"
  description := "Read notes"
  permissions := ["notes.read"]
  minimumAAL := 1
  maxAuthAge := 0

def tenantResource : OAuthProtectedResource :=
  { (default : OAuthProtectedResource) with
    id := uuidv7 20, issuerID := uuidv7 10, workspaceID := uuidv7 1, resource := "https://mcp.example.com/acme",
    scopes := [tenantScope] }

def tenantClient : OAuthClient :=
  { (default : OAuthClient) with
    id := uuidv7 30, issuerID := uuidv7 10, clientID := "client", source := .preRegistered, name := "Client",
    redirectURIs := ["https://client.example.com/callback"],
    grantTypes := ["authorization_code", "refresh_token"], tokenEndpointAuthMethod := .none,
    metadataHash := [1] }

def tenantUser (n : Nat) : User := { (default : User) with id := uuidv7 n }

def tenantEmail (id user : Nat) (address : String) : EmailAddress :=
  { (default : EmailAddress) with
    id := uuidv7 id, userID := uuidv7 user, address := address, primary := true }

def tenantMembership (user : Nat) (role : Role) (status : MembershipStatus) : Membership :=
  { (default : Membership) with
    workspaceID := uuidv7 1, userID := uuidv7 user, role := role, status := status }

/-- A call with an audit event of its own. -/
def tenantCall (op : Op) (n : Nat) : Call :=
  ⟨.op op, commitOf (uuidv7 (500 + n)) n, {}⟩

/-- A workspace with its administrator, a second administrator, user 2, and an authorization server
with one resource and one client. -/
def tenantCalls : List Call :=
  [tenantCall (.account (.bootstrap (tenantUser 1) (tenantEmail 41 1 "one@example.com") default
      { (default : Workspace) with id := uuidv7 1 } (tenantMembership 1 .admin .active)
      { (default : InstanceAdministrator) with userID := uuidv7 1, role := .root })) 1,
    tenantCall (.account (.createUser (tenantUser 2) (tenantEmail 42 2 "two@example.com") default
      (tenantMembership 2 .admin .active))) 2,
    tenantCall (.oauth (.createOAuthIssuer tenantIssuer)) 3,
    tenantCall (.oauth (.createOAuthProtectedResource tenantResource)) 4,
    tenantCall (.oauth (.createOAuthClient tenantClient 0 5)) 5]

/-! ## A consent for anyone -/

/-- User 2 loses the membership, is disabled, and so is the workspace. -/
def strangerCalls : List Call :=
  [tenantCall (.workspace (.removeMembership (uuidv7 1) (uuidv7 2) 6)) 6,
    tenantCall (.account (.setUserDisabled (uuidv7 2) true 7)) 7,
    tenantCall (.workspace (.setWorkspaceDisabled (uuidv7 1) true 8)) 8]

def strangerStore : Store := Store.after (tenantCalls ++ strangerCalls)

/-- User 2, signed in with a password and still to give the second factor. -/
def stranger : Authentication :=
  { userID := uuidv7 2, method := .password, level := 1, authenticatedAt := 100,
    secondFactorRequired := true }

/-- A request for `openid` and nothing else. -/
def openidRequest : BeginOAuthAuthorizationInput where
  issuer := "https://auth.example.com"
  clientID := "client"
  redirectURI := "https://client.example.com/callback"
  resource := "https://mcp.example.com/acme"
  scopes := ["openid"]
  state := "state"
  codeChallenge := "AAAAAAAAAAAAAAAAAAAAAAAAAAAAAAAAAAAAAAAAAAA"
  codeChallengeMethod := "S256"

theorem begin_stranger : Memory.backend.Accepts
    (tenantManager.beginOAuthAuthorization {} (tenantSupply 100) stranger openidRequest)
    strangerStore := ⟨_, _, Backend.returns_iff.mpr rfl⟩

theorem complete_stranger : Memory.backend.Accepts
    (tenantManager.completeOAuthAuthorization {} (tenantSupply 100) stranger "continuation" true)
    strangerStore := ⟨_, _, Backend.returns_iff.mpr rfl⟩

/-- `openid` has no permission to check. -/
theorem openid_checks_nothing (resource : OAuthProtectedResource) :
    ¬ ChecksPermission resource ["openid"] := by
  rintro ⟨scopes, hscopes, scope, hscope, hreserved, -⟩
  obtain rfl : ["openid"] = scopes := Except.ok.inj hscopes
  obtain rfl := List.mem_singleton.mp hscope
  cases hreserved

/-- The request and the continuation of a stranger, by the general account. -/
theorem stranger_not_entitled :
    ¬ (∀ pending, Memory.backend.Accepts (tenantManager.beginOAuthAuthorization {} (tenantSupply 100)
        (stranger.withPending pending) openidRequest) strangerStore →
        Memory.backend.Entitled strangerStore {} (stranger.withPending pending) (uuidv7 1))
    ∧ ¬ (∀ pending, Memory.backend.Accepts (tenantManager.completeOAuthAuthorization {}
        (tenantSupply 100) (stranger.withPending pending) "continuation" true) strangerStore →
        Memory.backend.Entitled strangerStore {} (stranger.withPending pending) (uuidv7 1)) := by
  have h := consents_entitled_iff .memory tenantManager {} (tenantSupply 100) strangerStore stranger
    tenantResource
  have hnone := openid_checks_nothing tenantResource
  exact ⟨fun hall => hnone ((h.1 openidRequest ⟨_, rfl, rfl⟩ begin_stranger).mp hall),
    fun hall => hnone ((h.2 "continuation" tenantContinuation rfl rfl complete_stranger).mp hall)⟩

/-- **A consent and a grant for a user who is disabled, has no membership and has not given the
second factor, in a workspace that is disabled.** -/
theorem openid_consent_for_anyone :
    Memory.backend.Accepts
      (tenantManager.beginOAuthAuthorization {} (tenantSupply 100) stranger openidRequest) strangerStore
    ∧ Memory.backend.Accepts (tenantManager.completeOAuthAuthorization {} (tenantSupply 100) stranger
      "continuation" true) strangerStore
    ∧ ¬ Memory.backend.UserEnabled strangerStore {} (uuidv7 2)
    ∧ ¬ Memory.backend.WorkspaceEnabled strangerStore {} (uuidv7 1)
    ∧ ¬ Memory.backend.ActiveMember strangerStore {} (uuidv7 1) (uuidv7 2)
    ∧ stranger.secondFactorRequired = true := by
  refine ⟨begin_stranger, complete_stranger, ?_, ?_, ?_, rfl⟩
  · rintro ⟨user, huser, henabled⟩
    cases huser
    cases henabled
  · rintro ⟨workspace, hworkspace, henabled⟩
    cases hworkspace
    cases henabled
  · rintro ⟨membership, hmembership, -⟩
    cases hmembership

end Credbound.Stores
