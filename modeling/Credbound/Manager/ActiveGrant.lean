import Credbound.Manager.OAuthTokens

/-!
# Manager/ActiveGrant — what the resource server and UserInfo have seen of a token they accept

`activeOAuthGrant_ok` and `authenticateOAuthAccessToken_ok` say what a state must hold for a token to
be accepted, and `oauthUserInfo_ok` what `OAuthUserInfo` asks for.
-/

namespace Credbound.Manager

open Procedure

variable {S : Type} {b : Backend S} {m : Manager} {s t : S} {ctx : Context} {io : Supply}
  {client : OAuthClient} {grant : OAuthGrant} {resource : OAuthProtectedResource}
  {token : OAuthAccessToken} {grantID : UUID} {resourceURI raw pfx : String}

/-! ## The grant -/

/-- What one scope of a grant asks of the state: a reserved scope asks nothing. -/
def Backend.GrantScope (b : Backend S) (m : Manager) (s : S) (ctx : Context) (grant : OAuthGrant)
    (resource : OAuthProtectedResource) (scope : String) : Prop :=
  oauthReservedScope scope = true
    ∨ ∃ definition, oauthScopeDefinition resource.scopes scope = some definition
      ∧ ∀ permission ∈ definition.permissions, b.Permits m s ctx
        { userID := grant.userID, workspaceID := grant.workspaceID } resource.workspaceID permission

/-- The grant is good for the client and the requested resource. -/
structure Backend.ActiveGrant (b : Backend S) (m : Manager) (s : S) (ctx : Context) (grantID : UUID)
    (client : OAuthClient) (resourceURI : String) (grant : OAuthGrant)
    (resource : OAuthProtectedResource) : Prop where
  client_enabled : client.disabledAt = none
  grant_read : b.ask s ctx (.oauthGrant grantID) = .ok grant
  unrevoked : grant.revokedAt = none
  of_client : grant.clientRecordID = client.id
  metadata : grant.metadataHash = client.metadataHash
  resource_read : b.ask s ctx (.oauthProtectedResourceByID grant.resourceID) = .ok resource
  resource_enabled : resource.disabledAt = none
  of_workspace : resource.workspaceID = grant.workspaceID
  names : m.namesResource resourceURI resource
  issuer : ∃ issuer, b.ask s ctx (.oauthIssuerByID grant.issuerID) = .ok issuer
    ∧ issuer.disabledAt = none ∧ issuer.id = resource.issuerID
  user : b.UserEnabled s ctx grant.userID
  workspace : b.WorkspaceEnabled s ctx grant.workspaceID
  scopes : ∀ scope ∈ grant.scopes, b.GrantScope m s ctx grant resource scope

theorem authorizeGrantScope_ok {scope : String} {u : Unit} : b.Returns (m.authorizeGrantScope ctx
        { userID := grant.userID, workspaceID := grant.workspaceID } resource scope) s (.ok u) t
      ↔ b.GrantScope m s ctx grant resource scope ∧ t = s := by
  unfold authorizeGrantScope Backend.GrantScope
  by_cases hreserved : oauthReservedScope scope = true
  · rw [if_pos hreserved]
    simp [Backend.Returns, hreserved]
  · rw [if_neg hreserved]
    cases oauthScopeDefinition resource.scopes scope with
    | none => simp [Backend.Returns, hreserved]
    | some definition => simpa [hreserved] using authorizePermissions_ok

/-- **`activeOAuthGrant` accepts exactly the grants that are good**, and only reads. -/
theorem activeOAuthGrant_ok {r : OAuthGrant × OAuthProtectedResource} :
    b.Returns (m.activeOAuthGrant ctx grantID client resourceURI) s (.ok r) t
      ↔ b.ActiveGrant m s ctx grantID client resourceURI r.1 r.2 ∧ t = s := by
  have hscopes : ∀ (grant : OAuthGrant) (resource : OAuthProtectedResource) s (u : Unit) t, b.Returns
      (each (m.authorizeGrantScope ctx
        { userID := grant.userID, workspaceID := grant.workspaceID } resource) grant.scopes) s (.ok u) t
        ↔ (∀ scope ∈ grant.scopes, b.GrantScope m s ctx grant resource scope) ∧ t = s :=
    fun _ _ _ _ _ => runs_each_ok fun _ _ _ _ => authorizeGrantScope_ok
  unfold Backend.Returns activeOAuthGrant at *
  simp only [runs_bind_ok, runs_demand_ok, runs_pure, runs_expect_ok, hscopes, true_and]
  constructor
  · rintro ⟨-, _, ⟨henabled, rfl⟩, grant, _, ⟨rfl, hgrant, hunrevoked, hclient, hmetadata⟩, resource, _,
      ⟨rfl, hresource, hopen, hworkspace⟩, -, _, ⟨hnames, rfl⟩, issuer, _, ⟨rfl, hissuer⟩, user, _,
      ⟨rfl, huser⟩, workspace, _, ⟨rfl, hactive⟩, -, _, ⟨hall, rfl⟩, hr, rfl⟩
    obtain ⟨⟩ := hr
    exact ⟨⟨henabled, hgrant, hunrevoked, hclient, hmetadata, hresource, hopen, hworkspace, hnames,
      ⟨issuer, hissuer⟩, ⟨user, huser⟩, ⟨workspace, hactive⟩, hall⟩, rfl⟩
  · rintro ⟨⟨henabled, hgrant, hunrevoked, hclient, hmetadata, hresource, hopen, hworkspace, hnames,
      ⟨issuer, hissuer⟩, ⟨user, huser⟩, ⟨workspace, hactive⟩, hall⟩, rfl⟩
    exact ⟨(), _, ⟨henabled, rfl⟩, r.1, _, ⟨rfl, hgrant, hunrevoked, hclient, hmetadata⟩, r.2, _,
      ⟨rfl, hresource, hopen, hworkspace⟩, (), _, ⟨hnames, rfl⟩, issuer, _, ⟨rfl, hissuer⟩, user, _,
      ⟨rfl, huser⟩, workspace, _, ⟨rfl, hactive⟩, (), _, ⟨hall, rfl⟩, rfl, rfl⟩

/-! ## The resource server -/

/-- The token is presentable, its grant is good for the client it was issued to, and the two
agree. -/
def Backend.TokenGood (b : Backend S) (m : Manager) (s : S) (ctx : Context) (now : Time)
    (resourceURI raw : String) (token : OAuthAccessToken) : Prop :=
  m.Presentable now raw token ∧ ∃ client grant resource,
    b.ask s ctx (.oauthClientByID token.clientRecordID) = .ok client
    ∧ b.ActiveGrant m s ctx token.grantID client resourceURI grant resource
    ∧ Consistent token grant resource

theorem authenticateOAuthUserToken_ok :
    b.Accepts (m.authenticateOAuthUserToken ctx io raw resourceURI token) s
      ↔ b.TokenGood m s ctx (io.now 10) resourceURI raw token := by
  unfold Backend.Accepts Backend.Returns authenticateOAuthUserToken
  simp only [runs_bind_ok, runs_demand_ok, runs_mapError_ok, runs_expect_ok, runs_pure, true_and, and_true]
  constructor
  · rintro ⟨_, _, -, _, ⟨hpresentable, rfl⟩, client, _, ⟨rfl, hclient⟩, active, _, hactive, -, _,
      ⟨hconsistent, rfl⟩, -⟩
    obtain ⟨hgrant, rfl⟩ := activeOAuthGrant_ok.mp hactive
    exact ⟨hpresentable, client, active.1, active.2, hclient, hgrant, hconsistent⟩
  · rintro ⟨hpresentable, client, grant, resource, hclient, hgrant, hconsistent⟩
    exact ⟨_, s, (), s, ⟨hpresentable, rfl⟩, client, s, ⟨rfl, hclient⟩, (grant, resource), s,
      activeOAuthGrant_ok.mpr ⟨hgrant, rfl⟩, (), s, ⟨hconsistent, rfl⟩, rfl, rfl⟩

/-- **A user's access token is accepted exactly when it is good.** -/
theorem authenticateOAuthAccessToken_ok (hon : m.oauth = true) (hbearer : bearerPrefix "cba" raw = .ok pfx)
    (htoken : b.ask s ctx (.oauthAccessTokenByPrefix pfx) = .ok token) :
    b.Accepts (m.authenticateOAuthAccessToken ctx io resourceURI raw) s
      ↔ b.TokenGood m s ctx (io.now 10) resourceURI raw token := by
  rw [← authenticateOAuthUserToken_ok]
  unfold Backend.Accepts Backend.Returns authenticateOAuthAccessToken requireOAuth
  simp only [runs_bind_ok, runs_demand_ok, runs_lift, runs_attempt, runs_ask, true_and, hbearer]
  constructor
  · rintro ⟨authentication, t, -, _, ⟨-, rfl⟩, _, _, ⟨hpfx, rfl⟩, _, _, ⟨r, hr, rfl, hread⟩, hrest⟩
    obtain ⟨⟩ := hpfx
    obtain ⟨⟩ := hr
    rw [htoken] at hread
    subst hread
    exact ⟨authentication, t, hrest⟩
  · rintro ⟨authentication, t, hrest⟩
    exact ⟨authentication, t, (), s, ⟨hon, rfl⟩, pfx, s, ⟨rfl, rfl⟩, .ok token, s,
      ⟨.ok token, rfl, rfl, htoken⟩, hrest⟩

/-! ## UserInfo -/

/-- **What `OAuthUserInfo` has seen of a token it accepts.** -/
theorem oauthUserInfo_ok {issuerURL : String} (h : b.Accepts (m.oauthUserInfo ctx io issuerURL raw) s) :
    m.oauth = true ∧ ∃ pfx token grant client, bearerPrefix "cba" raw = .ok pfx
      ∧ b.ask s ctx (.oauthAccessTokenByPrefix pfx) = .ok token
      ∧ m.Presentable (io.now 10) raw token
      ∧ b.ask s ctx (.oauthGrant token.grantID) = .ok grant ∧ grant.revokedAt = none
      ∧ b.ask s ctx (.oauthClientByID token.clientRecordID) = .ok client
      ∧ b.UserEnabled s ctx token.userID ∧ b.WorkspaceEnabled s ctx grant.workspaceID := by
  obtain ⟨info, t, h⟩ := h
  unfold Backend.Returns oauthUserInfo requireOAuth at h
  simp only [runs_bind_ok, runs_demand_ok, runs_lift, runs_expect_ok, true_and, and_true] at h
  obtain ⟨-, _, ⟨hon, rfl⟩, _, _, ⟨-, rfl⟩, issuer, _, ⟨rfl, -⟩, pfx, _, ⟨hbearer, rfl⟩, token, _,
    ⟨rfl, htoken, hpresentable, -⟩, grant, _, ⟨rfl, hgrant, -, hunrevoked⟩, client, _, ⟨rfl, hclient⟩,
    user, _, ⟨rfl, huser⟩, workspace, _, ⟨rfl, hworkspace⟩, -⟩ := h
  exact ⟨hon, pfx, token, grant, client, hbearer.symm, htoken, hpresentable, hgrant, hunrevoked, hclient,
    ⟨user, huser⟩, ⟨workspace, hworkspace⟩⟩

/-! ## The membership behind a grant -/

/-- One of the scopes is not reserved and has a permission. -/
def GrantChecks (resource : OAuthProtectedResource) (scopes : List String) : Prop :=
  ∃ scope ∈ scopes, oauthReservedScope scope = false
    ∧ ∃ definition, oauthScopeDefinition resource.scopes scope = some definition
      ∧ definition.permissions ≠ []

/-- **A permission that was checked shows an active membership.** -/
theorem Backend.ActiveGrant.activeMember (h : b.ActiveGrant m s ctx grantID client resourceURI grant resource)
    (hchecks : GrantChecks resource grant.scopes) :
    b.ActiveMember s ctx grant.workspaceID grant.userID := by
  obtain ⟨scope, hscope, hreserved, definition, hdefinition, hne⟩ := hchecks
  obtain hreserved' | ⟨definition', hdefinition', hpermits⟩ := h.scopes scope hscope
  · rw [hreserved] at hreserved'
    cases hreserved'
  · obtain rfl : definition = definition' := Option.mem_unique hdefinition hdefinition'
    obtain ⟨permission, hpermission⟩ := List.exists_mem_of_ne_nil _ hne
    rw [← h.of_workspace]
    exact (hpermits permission hpermission).activeMember

/-- **A grant without a permission to check is as good in a state that differs in its memberships
only.** -/
theorem Backend.ActiveGrant.of_memberships {s' : S}
    (h : b.ActiveGrant m s ctx grantID client resourceURI grant resource)
    (hchecks : ¬ GrantChecks resource grant.scopes)
    (hsame : ∀ {α : Type} (q : Query α), ¬ q.OfMembership → b.ask s' ctx q = b.ask s ctx q) :
    b.ActiveGrant m s' ctx grantID client resourceURI grant resource where
  client_enabled := h.client_enabled
  grant_read := (hsame _ id).trans h.grant_read
  unrevoked := h.unrevoked
  of_client := h.of_client
  metadata := h.metadata
  resource_read := (hsame _ id).trans h.resource_read
  resource_enabled := h.resource_enabled
  of_workspace := h.of_workspace
  names := h.names
  issuer := by
    obtain ⟨issuer, hissuer, hrest⟩ := h.issuer
    exact ⟨issuer, (hsame _ id).trans hissuer, hrest⟩
  user := by
    obtain ⟨user, huser, hrest⟩ := h.user
    exact ⟨user, (hsame _ id).trans huser, hrest⟩
  workspace := by
    obtain ⟨workspace, hworkspace, hrest⟩ := h.workspace
    exact ⟨workspace, (hsame _ id).trans hworkspace, hrest⟩
  scopes := by
    intro scope hscope
    by_cases hreserved : oauthReservedScope scope = true
    · exact .inl hreserved
    · obtain hreserved' | ⟨definition, hdefinition, -⟩ := h.scopes scope hscope
      · exact .inl hreserved'
      · refine .inr ⟨definition, hdefinition, fun permission hpermission => absurd ?_ hchecks⟩
        exact ⟨scope, hscope, by simpa using hreserved, definition, hdefinition,
          List.ne_nil_of_mem hpermission⟩

end Credbound.Manager
