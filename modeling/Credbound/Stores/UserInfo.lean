import Credbound.Manager.TokenRefusals
import Credbound.Stores.Memberships

/-!
# Stores/UserInfo — tokens that UserInfo serves and the resource server refuses

`OAuthUserInfo` and `AuthenticateOAuthAccessToken` check a token in two sequences of their own.
`authenticate_of_userInfo_iff` lists what the first leaves out, and `userInfo_after_demotion` is a
token of a user who has lost the permission behind its scope.

`refusals_told_apart_iff` is about the error that such a token gets at the resource server, and
`demoted_invalidCredentials` is that error.
-/

namespace Credbound

open Manager

namespace Manager

variable {S : Type} {b : Backend S} {m : Manager} {s : S} {ctx : Context} {io : Supply}
  {client : OAuthClient} {grant : OAuthGrant} {resource : OAuthProtectedResource}
  {token : OAuthAccessToken} {raw pfx : String}

/-- The checks of the resource server that `OAuthUserInfo` does not make. -/
structure Backend.ServerChecks (b : Backend S) (m : Manager) (s : S) (ctx : Context)
    (token : OAuthAccessToken) (grant : OAuthGrant) (client : OAuthClient)
    (resource : OAuthProtectedResource) : Prop where
  client_enabled : client.disabledAt = none
  of_client : grant.clientRecordID = client.id
  metadata : grant.metadataHash = client.metadataHash
  resource_enabled : resource.disabledAt = none
  of_workspace : resource.workspaceID = grant.workspaceID
  names : m.namesResource resource.resource resource
  issuer : ∃ issuer, b.ask s ctx (.oauthIssuerByID grant.issuerID) = .ok issuer
    ∧ issuer.disabledAt = none ∧ issuer.id = resource.issuerID
  consistent : Consistent token grant resource
  scopes : ∀ scope ∈ grant.scopes, b.GrantScope m s ctx grant resource scope

/-- **A token that UserInfo serves is accepted by the resource server exactly when it passes the
checks UserInfo leaves out**, where the URI is that of the grant's resource. -/
theorem authenticate_of_userInfo_iff {issuerURL : String}
    (huserInfo : b.Accepts (m.oauthUserInfo ctx io issuerURL raw) s)
    (hbearer : bearerPrefix "cba" raw = .ok pfx)
    (htoken : b.ask s ctx (.oauthAccessTokenByPrefix pfx) = .ok token)
    (hgrant : b.ask s ctx (.oauthGrant token.grantID) = .ok grant)
    (hclient : b.ask s ctx (.oauthClientByID token.clientRecordID) = .ok client)
    (hresource : b.ask s ctx (.oauthProtectedResourceByID grant.resourceID) = .ok resource) :
    b.Accepts (m.authenticateOAuthAccessToken ctx io resource.resource raw) s
      ↔ b.ServerChecks m s ctx token grant client resource := by
  obtain ⟨hon, pfx', token', grant', client', hbearer', htoken', hpresentable, hgrant', hunrevoked, -,
    huser, hworkspace⟩ := oauthUserInfo_ok huserInfo
  obtain rfl := Except.ok.inj (hbearer.symm.trans hbearer')
  obtain rfl := Except.ok.inj (htoken.symm.trans htoken')
  obtain rfl := Except.ok.inj (hgrant.symm.trans hgrant')
  rw [authenticateOAuthAccessToken_ok hon hbearer htoken]
  constructor
  · rintro ⟨-, client', grant', resource', hclient', hactive, hconsistent⟩
    obtain rfl := Except.ok.inj (hclient.symm.trans hclient')
    obtain rfl := Except.ok.inj (hgrant.symm.trans hactive.grant_read)
    obtain rfl := Except.ok.inj (hresource.symm.trans hactive.resource_read)
    exact ⟨hactive.client_enabled, hactive.of_client, hactive.metadata, hactive.resource_enabled,
      hactive.of_workspace, hactive.names, hactive.issuer, hconsistent, hactive.scopes⟩
  · intro hchecks
    refine ⟨hpresentable, client, grant, resource, hclient, ?_, hchecks.consistent⟩
    have howner : grant.userID = token.userID := hchecks.consistent.2.1.symm
    exact ⟨hchecks.client_enabled, hgrant, hunrevoked, hchecks.of_client, hchecks.metadata, hresource,
      hchecks.resource_enabled, hchecks.of_workspace, hchecks.names, hchecks.issuer, howner ▸ huser,
      hworkspace, hchecks.scopes⟩

end Manager

namespace Stores

/-- A token for `openid` and for reading notes. -/
def readerStore : Memory.Store :=
  Memory.Store.after (tenantCalls ++ tenantGrantCalls ["openid", "notes.read"])

/-- The same token, after its user has become a plain member. -/
def demotedStore : Memory.Store :=
  Memory.Store.after (tenantCalls ++ tenantGrantCalls ["openid", "notes.read"]
    ++ [tenantCall (.workspace (.upsertMembership (tenantMembership 2 .member .active))) 13])

theorem userInfo_reader : Memory.backend.Accepts (tenantManager.oauthUserInfo {} (tenantSupply 100)
    "https://auth.example.com" (tenantBearer "cba")) readerStore := ⟨_, _, Backend.returns_iff.mpr rfl⟩

/-- The token passes the checks that UserInfo leaves out, while the permission is there. -/
theorem reader_passes_checks : Memory.backend.ServerChecks tenantManager readerStore {}
    (tenantAccessToken ["openid", "notes.read"]) (tenantGrant ["openid", "notes.read"]) tenantClient
    tenantResource :=
  (authenticate_of_userInfo_iff userInfo_reader rfl rfl rfl rfl rfl).mp
    ⟨_, _, Backend.returns_iff.mpr rfl⟩

/-- **UserInfo serves a token whose user has lost the permission**, and the resource server refuses
it. -/
theorem userInfo_after_demotion :
    Memory.backend.Accepts (tenantManager.oauthUserInfo {} (tenantSupply 100)
      "https://auth.example.com" (tenantBearer "cba")) demotedStore
    ∧ ¬ Memory.backend.Accepts (tenantManager.authenticateOAuthAccessToken {} (tenantSupply 100)
      tenantResource.resource (tenantBearer "cba")) demotedStore := by
  refine ⟨⟨_, _, Backend.returns_iff.mpr rfl⟩, ?_⟩
  rintro ⟨authentication, t, h⟩
  have hrefused : Except.error Err.invalidCredentials = Except.ok authentication :=
    congrArg Prod.fst (Backend.returns_iff.mp h)
  cases hrefused

/-! ## The error of the resource server -/

/-- **The errors are told apart exactly where a permission is never the only thing that is missing.**  A token of which only a
permission is missing is refused with `ErrInvalidCredentials`, like any other. -/
theorem refusals_told_apart_iff {S : Type} (b : Backend S) (m : Manager) (ctx : Context) (io : Supply) (s : S)
    (resourceURI raw : String) :
    let answer := ((m.authenticateOAuthAccessToken ctx io resourceURI raw).program.exec b.handler s).1
    let missing := b.PermissionMissing m s ctx (io.now 10) resourceURI raw
    ((missing → answer = .error .forbidden) ∧ ∀ e, answer = .error e → ¬ missing → e = .invalidCredentials)
      ↔ m.oauth = true ∧ ¬ missing := by
  intro answer missing
  by_cases hon : m.oauth = true
  · constructor
    · rintro ⟨hforbidden, -⟩
      refine ⟨hon, fun hmissing => ?_⟩
      exact absurd (Except.error.inj ((hforbidden hmissing).symm.trans (hmissing.refused hon))) (by decide)
    · rintro ⟨-, hnone⟩
      exact ⟨fun hmissing => absurd hmissing hnone, fun e he _ => (authenticateOAuthAccessToken_refuses hon).exec he⟩
  · have hoff : answer = .error .notSupported := by
      show ((m.requireOAuth >>= _ : Action _).program.exec b.handler s).1 = _
      rw [requireOAuth, Procedure.demand, if_neg hon]
      rfl
    constructor
    · rintro ⟨hforbidden, hother⟩
      by_cases hmissing : missing
      · exact absurd (Except.error.inj (hoff.symm.trans (hforbidden hmissing))) (by decide)
      · exact absurd (hother _ hoff hmissing) (by decide)
    · rintro ⟨h, -⟩
      exact absurd h hon

/-- Before the demotion nothing is missing, and the errors are told apart. -/
theorem reader_told_apart :
    let answer := ((tenantManager.authenticateOAuthAccessToken {} (tenantSupply 100) tenantResource.resource
      (tenantBearer "cba")).program.exec Memory.backend.handler readerStore).1
    let missing := Memory.backend.PermissionMissing tenantManager readerStore {} 1000 tenantResource.resource
      (tenantBearer "cba")
    ¬ missing
      ∧ (missing → answer = .error .forbidden) ∧ ∀ e, answer = .error e → ¬ missing → e = .invalidCredentials := by
  have haccepted : Memory.backend.Accepts (tenantManager.authenticateOAuthAccessToken {} (tenantSupply 100)
      tenantResource.resource (tenantBearer "cba")) readerStore := ⟨_, _, Backend.returns_iff.mpr rfl⟩
  have hnone : ¬ Memory.backend.PermissionMissing tenantManager readerStore {} 1000 tenantResource.resource
      (tenantBearer "cba") := fun h => h.not_accepts rfl haccepted
  exact ⟨hnone, (refusals_told_apart_iff Memory.backend tenantManager {} (tenantSupply 100) readerStore
    tenantResource.resource (tenantBearer "cba")).mpr ⟨rfl, hnone⟩⟩

/-- **The demoted user's token** passes every check but the one of its permission, and the error is
`ErrInvalidCredentials`. -/
theorem demoted_invalidCredentials :
    Memory.backend.PermissionMissing tenantManager demotedStore {} 1000 tenantResource.resource (tenantBearer "cba")
    ∧ ((tenantManager.authenticateOAuthAccessToken {} (tenantSupply 100) tenantResource.resource
      (tenantBearer "cba")).program.exec Memory.backend.handler demotedStore).1 = .error .invalidCredentials := by
  refine ⟨⟨"0123456789ab", tenantAccessToken ["openid", "notes.read"], tenantClient, tenantGrant ["openid", "notes.read"],
    tenantResource, tenantIssuer, rfl, rfl, ?_, rfl, rfl, rfl, rfl, rfl, rfl, rfl, rfl, rfl, ?_, rfl, rfl, rfl, ⟨_, rfl, rfl⟩,
    ⟨_, rfl, rfl⟩, ?_, by decide, "notes.read", by decide, rfl, _, rfl, "notes.read", by decide, ?_⟩, rfl⟩
  · decide
  · decide
  · decide
  · rintro ⟨-, -, -, -, -, -, workspace, -, -, -, membership, hmembership, -, hallows⟩
    have hrole : (Memory.backend.ask demotedStore {} (.membership (uuidv7 1) (uuidv7 2))).toOption.map Membership.role
        = some .member := rfl
    rw [show Memory.backend.ask demotedStore {} (.membership (uuidv7 1) (uuidv7 2)) = .ok membership from hmembership]
      at hrole
    rw [show membership.role = .member from Option.some.inj hrole] at hallows
    exact absurd hallows (by decide)

end Stores

end Credbound
