import Credbound.Manager.OAuthAuthorization

/-!
# Manager/Consent — who a consent is given for

`BeginOAuthAuthorization` and `CompleteOAuthAuthorization` look at the actor's account only where a
requested scope has a permission to check.  So an accepted request shows an enabled user, an enabled
workspace, an active membership and a finished second factor exactly when one of its scopes has one:

* `entitled_of_authorized` — one permission that was checked shows all four;
* `authorized_anyone` — without one, the scopes are authorized for any actor.
-/

namespace Credbound.Manager

open Procedure

variable {S : Type} {b : Backend S} {m : Manager} {s t : S} {ctx : Context} {io : Supply}
  {actor : Authentication} {issuer : OAuthIssuer} {resource : OAuthProtectedResource}
  {requested scopes : List String}

/-! ## Scopes -/

/-- What one requested scope asks of the state. -/
def Backend.ScopeAuthorized (b : Backend S) (m : Manager) (s : S) (ctx : Context)
    (actor : Authentication) (issuer : OAuthIssuer) (resource : OAuthProtectedResource)
    (scopes : List String) (scope : String) : Prop :=
  if oauthReservedScope scope = true then
    ¬ ((scope = "openid" ∨ scope = "profile" ∨ scope = "email") ∧ issuer.oidcEnabled = false)
      ∧ ¬ ((scope = "profile" ∨ scope = "email") ∧ "openid" ∉ scopes)
  else ∃ definition, oauthScopeDefinition resource.scopes scope = some definition
    ∧ ∀ permission ∈ definition.permissions,
      b.Permits m s ctx actor resource.workspaceID permission

theorem authorizeRequestedScope_ok {scope : String} {u : Unit} :
    b.Returns (m.authorizeRequestedScope ctx actor issuer resource scopes scope) s (.ok u) t
      ↔ b.ScopeAuthorized m s ctx actor issuer resource scopes scope ∧ t = s := by
  unfold authorizeRequestedScope Backend.ScopeAuthorized
  by_cases hreserved : oauthReservedScope scope = true
  · rw [if_pos hreserved, if_pos hreserved]
    refine runs_bind_ok.trans ?_
    simp only [runs_demand_ok]
    constructor
    · rintro ⟨-, _, ⟨h, rfl⟩, h', rfl⟩
      exact ⟨⟨h, h'⟩, rfl⟩
    · rintro ⟨⟨h, h'⟩, rfl⟩
      exact ⟨(), _, ⟨h, rfl⟩, h', rfl⟩
  · rw [if_neg hreserved, if_neg hreserved]
    cases oauthScopeDefinition resource.scopes scope with
    | none => simp [Backend.Returns]
    | some definition => simpa using authorizePermissions_ok

variable {r : List String × List OAuthScopeDefinition} {input : BeginOAuthAuthorizationInput}

/-- **The scopes are authorized exactly when each of them is.** -/
theorem authorizedOAuthScopes_ok :
    b.Returns (m.authorizedOAuthScopes ctx actor issuer resource requested) s (.ok r) t
      ↔ ∃ scopes, normalizeOptionalOAuthScopes requested = .ok scopes ∧ scopes ≠ []
        ∧ (∀ scope ∈ scopes, b.ScopeAuthorized m s ctx actor issuer resource scopes scope)
        ∧ r = (scopes, resourceScopes resource scopes) ∧ t = s := by
  have heach : ∀ scopes (u : Unit) t, b.Returns
      (each (m.authorizeRequestedScope ctx actor issuer resource scopes) scopes) s (.ok u) t
        ↔ (∀ scope ∈ scopes, b.ScopeAuthorized m s ctx actor issuer resource scopes scope) ∧ t = s :=
    fun scopes _ _ => runs_each_ok fun _ _ _ _ => authorizeRequestedScope_ok
  unfold Backend.Returns authorizedOAuthScopes at *
  simp only [runs_bind_ok, runs_mapError_ok, runs_lift, runs_demand_ok, runs_pure]
  constructor
  · rintro ⟨scopes, _, ⟨hscopes, rfl⟩, -, _, ⟨hne, rfl⟩, u, t', hruns, hr, rfl⟩
    obtain ⟨hall, rfl⟩ := (heach scopes u t).mp hruns
    exact ⟨scopes, hscopes.symm, hne, hall, Except.ok.inj hr, rfl⟩
  · rintro ⟨scopes, hscopes, hne, hall, rfl, rfl⟩
    exact ⟨scopes, _, ⟨hscopes.symm, rfl⟩, (), _, ⟨hne, rfl⟩, (), _,
      (heach scopes _ _).mpr ⟨hall, rfl⟩, rfl, rfl⟩

/-! ## What the check of a permission shows -/

/-- One of the requested scopes is not reserved and has a permission. -/
def ChecksPermission (resource : OAuthProtectedResource) (requested : List String) : Prop :=
  ∃ scopes, normalizeOptionalOAuthScopes requested = .ok scopes
    ∧ ∃ scope ∈ scopes, oauthReservedScope scope = false
      ∧ ∃ definition, oauthScopeDefinition resource.scopes scope = some definition
        ∧ definition.permissions ≠ []

/-- The actor may act in the workspace: the user and the workspace are enabled, the membership is
active and no second factor is pending. -/
def Backend.Entitled (b : Backend S) (s : S) (ctx : Context) (actor : Authentication)
    (workspaceID : UUID) : Prop :=
  b.UserEnabled s ctx actor.userID ∧ b.WorkspaceEnabled s ctx workspaceID
    ∧ b.ActiveMember s ctx workspaceID actor.userID ∧ actor.secondFactorRequired = false

section

variable (h : b.Returns (m.authorizedOAuthScopes ctx actor issuer resource requested) s (.ok r) t)

include h

/-- **A permission that was checked shows an entitled actor.** -/
theorem entitled_of_authorized (hchecks : ChecksPermission resource requested) :
    b.Entitled s ctx actor resource.workspaceID := by
  obtain ⟨scopes, hscopes, -, hall, -⟩ := authorizedOAuthScopes_ok.mp h
  obtain ⟨scopes', hscopes', scope, hscope, hreserved, definition, hdefinition, hne⟩ := hchecks
  obtain rfl : scopes = scopes' := Except.ok.inj (hscopes.symm.trans hscopes')
  have hauthorized := hall scope hscope
  rw [Backend.ScopeAuthorized, if_neg (by simp [hreserved])] at hauthorized
  obtain ⟨definition', hdefinition', hpermits⟩ := hauthorized
  obtain rfl : definition = definition' := Option.mem_unique hdefinition hdefinition'
  obtain ⟨permission, hpermission⟩ := List.exists_mem_of_ne_nil _ hne
  have hpermit := hpermits permission hpermission
  exact ⟨hpermit.userEnabled, hpermit.workspaceEnabled, hpermit.activeMember, hpermit.2.1⟩

/-- **Scopes without a permission to check are authorized for anyone.** -/
theorem authorized_anyone (hchecks : ¬ ChecksPermission resource requested) (other : Authentication) :
    b.Returns (m.authorizedOAuthScopes ctx other issuer resource requested) s (.ok r) t := by
  obtain ⟨scopes, hscopes, hne, hall, hr, rfl⟩ := authorizedOAuthScopes_ok.mp h
  refine authorizedOAuthScopes_ok.mpr ⟨scopes, hscopes, hne, fun scope hscope => ?_, hr, rfl⟩
  have hauthorized := hall scope hscope
  unfold Backend.ScopeAuthorized at hauthorized ⊢
  split <;> rename_i hreserved
  · rwa [if_pos hreserved] at hauthorized
  · rw [if_neg hreserved] at hauthorized
    obtain ⟨definition, hdefinition, -⟩ := hauthorized
    refine ⟨definition, hdefinition, fun permission hpermission => absurd ?_ hchecks⟩
    exact ⟨scopes, hscopes, scope, hscope, by simpa using hreserved, definition, hdefinition,
      List.ne_nil_of_mem hpermission⟩

end

/-! ## Begin and Complete -/

/-- The actor with or without a pending second factor. -/
def Authentication.withPending (actor : Authentication) (pending : Bool) : Authentication :=
  { actor with secondFactorRequired := pending }

/-- A call of `BeginOAuthAuthorization` that returns a consent. -/
theorem beginOAuthAuthorization_ok {consent : OAuthConsent} :
    b.Returns (m.beginOAuthAuthorization ctx io actor input) s (.ok consent) t
      ↔ ∃ request authorized, b.Returns (m.authorizationRequest ctx io actor input) s (.ok request) t
        ∧ b.Returns (m.authorizedOAuthScopes ctx actor request.issuer request.resource input.scopes)
          t (.ok authorized) t
        ∧ m.newOAuthConsent io actor input request authorized.1 authorized.2 = .ok consent := by
  unfold beginOAuthAuthorization
  refine runs_bind_ok.trans ?_
  simp only [runs_bind_ok, runs_lift]
  constructor
  · rintro ⟨request, mid, hrequest, authorized, mid', hauthorized, hconsent, rfl⟩
    obtain ⟨-, -, -, -, -, rfl⟩ := authorizedOAuthScopes_ok.mp hauthorized
    exact ⟨request, authorized, hrequest, hauthorized, hconsent.symm⟩
  · rintro ⟨request, authorized, hrequest, hauthorized, hconsent⟩
    exact ⟨request, t, hrequest, authorized, t, hauthorized, hconsent.symm, rfl⟩

/-- The resource of an accepted request is the one its URI names, and the checks before the scopes
changed client records at most. -/
theorem authorizationRequest_ok (hb : b.Separate) {request : AuthorizationRequest}
    (h : b.Returns (m.authorizationRequest ctx io actor input) s (.ok request) t) :
    (∃ url, m.validateResourceURL input.resource = .ok url
        ∧ b.ask s ctx (.oauthProtectedResourceByURI url) = .ok request.resource)
      ∧ ∀ {α : Type} (q : Query α), ¬ q.OfClient → b.ask t ctx q = b.ask s ctx q := by
  unfold Backend.Returns authorizationRequest requireOAuth at h
  simp only [runs_bind_ok, runs_lift, runs_demand_ok, runs_pure, runs_expect_ok, true_and] at h
  obtain ⟨-, _, ⟨-, rfl⟩, -, _, ⟨-, rfl⟩, _, _, ⟨-, rfl⟩, issuer, _, ⟨rfl, -⟩, client, mid, hresolve, -,
    _, ⟨-, rfl⟩, -, _, ⟨-, rfl⟩, url, _, ⟨hurl, rfl⟩, resource, _, ⟨rfl, hresource, -⟩, -, _, ⟨-, rfl⟩,
    -, _, ⟨-, rfl⟩, -, _, ⟨-, rfl⟩, hrequest, rfl⟩ := h
  obtain ⟨⟩ := hrequest
  have hframe := ask_of_resolving hb (m.resolveOAuthClient_resolving _ _ _ _) hresolve ctx
  exact ⟨⟨url, hurl.symm, (hframe _ id).symm.trans hresource⟩, fun q hq => hframe q hq⟩

/-- A call of `CompleteOAuthAuthorization` that returns a result. -/
theorem completeOAuthAuthorization_ok {raw : String} {approved : Bool} {result : OAuthAuthorizationResult} :
    b.Returns (m.completeOAuthAuthorization ctx io actor raw approved) s (.ok result) t
      ↔ m.oauth = true ∧ ∃ continuation request authorized,
        m.decodeOAuthContinuation (io.now 10) raw = .ok continuation
        ∧ b.Returns (continuedRequest ctx actor continuation) s (.ok request) s
        ∧ b.Returns (m.authorizedOAuthScopes ctx actor request.issuer request.resource
          continuation.scopes) s (.ok authorized) s
        ∧ b.Returns (m.resolveConsent ctx io actor approved request continuation authorized.2) s
          (.ok result) t := by
  have hreads : ∀ {continuation request x y}, b.Returns (continuedRequest ctx actor continuation) x
      (.ok request) y → y = x := by
    intro continuation request x y h
    unfold Backend.Returns continuedRequest at h
    simp only [runs_bind_ok, runs_demand_ok, runs_pure, runs_expect_ok, true_and] at h
    obtain ⟨-, _, ⟨-, rfl⟩, _, _, ⟨rfl, -⟩, _, _, ⟨rfl, -⟩, _, _, ⟨rfl, -⟩, -, rfl⟩ := h
    rfl
  unfold completeOAuthAuthorization requireOAuth
  refine runs_bind_ok.trans ?_
  simp only [runs_bind_ok, runs_demand_ok, runs_lift]
  constructor
  · rintro ⟨-, _, ⟨hon, rfl⟩, continuation, _, ⟨hopen, rfl⟩, request, _, hrequest, authorized, _,
      hauthorized, hresolve⟩
    obtain rfl := hreads hrequest
    obtain ⟨-, -, -, -, -, rfl⟩ := authorizedOAuthScopes_ok.mp hauthorized
    exact ⟨hon, continuation, request, authorized, hopen.symm, hrequest, hauthorized, hresolve⟩
  · rintro ⟨hon, continuation, request, authorized, hopen, hrequest, hauthorized, hresolve⟩
    exact ⟨(), s, ⟨hon, rfl⟩, continuation, s, ⟨hopen.symm, rfl⟩, request, s, hrequest, authorized, s,
      hauthorized, hresolve⟩

theorem continuedRequest_resource {continuation : OAuthAuthorizationContinuation}
    {request : AuthorizationRequest}
    (h : b.Returns (continuedRequest ctx actor continuation) s (.ok request) t) :
    b.ask s ctx (.oauthProtectedResourceByID continuation.resourceID) = .ok request.resource := by
  unfold Backend.Returns continuedRequest at h
  simp only [runs_bind_ok, runs_demand_ok, runs_pure, runs_expect_ok, true_and] at h
  obtain ⟨-, _, ⟨-, rfl⟩, _, _, ⟨rfl, -⟩, _, _, ⟨rfl, hresource, -⟩, _, _, ⟨rfl, -⟩, hrequest, rfl⟩ := h
  obtain ⟨⟩ := hrequest
  exact hresource

/-! ## Who is entitled -/

/-- The resource an authorization request names. -/
def Backend.NamedResource (b : Backend S) (m : Manager) (s : S) (ctx : Context) (uri : String)
    (resource : OAuthProtectedResource) : Prop :=
  ∃ url, m.validateResourceURL uri = .ok url
    ∧ b.ask s ctx (.oauthProtectedResourceByURI url) = .ok resource

/-- **A consent is for an entitled actor, whether a second factor is pending or not, exactly when the
request has a permission to check.** -/
theorem begin_entitled_iff (hb : b.Separate) (hresource : b.NamedResource m s ctx input.resource resource)
    (haccepts : b.Accepts (m.beginOAuthAuthorization ctx io actor input) s) :
    (∀ pending, b.Accepts (m.beginOAuthAuthorization ctx io (actor.withPending pending) input) s →
        b.Entitled s ctx (actor.withPending pending) resource.workspaceID)
      ↔ ChecksPermission resource input.scopes := by
  have hsame : ∀ {request : AuthorizationRequest} {actor t},
      b.Returns (m.authorizationRequest ctx io actor input) s (.ok request) t →
        request.resource = resource := by
    intro request actor t hrequest
    obtain ⟨url, hurl, hnamed⟩ := hresource
    obtain ⟨⟨url', hurl', hread⟩, -⟩ := authorizationRequest_ok hb hrequest
    obtain rfl := Except.ok.inj (hurl.symm.trans hurl')
    exact Except.ok.inj (hread.symm.trans hnamed)
  constructor
  · intro hall
    by_contra hchecks
    -- The same call with a second factor pending goes through, and the actor is not entitled.
    obtain ⟨consent, t, h⟩ := haccepts
    obtain ⟨request, authorized, hrequest, hauthorized, hconsent⟩ := beginOAuthAuthorization_ok.mp h
    rw [hsame hrequest] at hauthorized
    have hpending : b.Accepts (m.beginOAuthAuthorization ctx io (actor.withPending true) input) s := by
      refine ⟨consent, t, beginOAuthAuthorization_ok.mpr ⟨request, authorized, hrequest, ?_, hconsent⟩⟩
      rw [hsame hrequest]
      exact authorized_anyone hauthorized hchecks _
    exact absurd (hall true hpending).2.2.2 (by simp [Authentication.withPending])
  · rintro hchecks pending ⟨consent, t, h⟩
    obtain ⟨request, authorized, hrequest, hauthorized, -⟩ := beginOAuthAuthorization_ok.mp h
    obtain ⟨-, hframe⟩ := authorizationRequest_ok hb hrequest
    rw [hsame hrequest] at hauthorized
    obtain ⟨⟨user, huser, henabled⟩, ⟨workspace, hworkspace, hopen⟩, ⟨membership, hmembership, hactive⟩,
      hfactor⟩ := entitled_of_authorized hauthorized hchecks
    exact ⟨⟨user, (hframe _ id).symm.trans huser, henabled⟩,
      ⟨workspace, (hframe _ id).symm.trans hworkspace, hopen⟩,
      ⟨membership, (hframe _ id).symm.trans hmembership, hactive⟩, hfactor⟩

/-- **…and so is a grant.** -/
theorem complete_entitled_iff {raw : String} {continuation : OAuthAuthorizationContinuation}
    (hopen : m.decodeOAuthContinuation (io.now 10) raw = .ok continuation)
    (hresource : b.ask s ctx (.oauthProtectedResourceByID continuation.resourceID) = .ok resource)
    (haccepts : b.Accepts (m.completeOAuthAuthorization ctx io actor raw true) s) :
    (∀ pending, b.Accepts (m.completeOAuthAuthorization ctx io (actor.withPending pending) raw true) s →
        b.Entitled s ctx (actor.withPending pending) resource.workspaceID)
      ↔ ChecksPermission resource continuation.scopes := by
  have hsame : ∀ {request : AuthorizationRequest} {actor},
      b.Returns (continuedRequest ctx actor continuation) s (.ok request) s →
        request.resource = resource := fun hrequest =>
    Except.ok.inj ((continuedRequest_resource hrequest).symm.trans hresource)
  constructor
  · intro hall
    by_contra hchecks
    obtain ⟨result, t, h⟩ := haccepts
    obtain ⟨hon, continuation', request, authorized, hopen', hrequest, hauthorized, hresolve⟩ :=
      completeOAuthAuthorization_ok.mp h
    obtain rfl := Except.ok.inj (hopen.symm.trans hopen')
    rw [hsame hrequest] at hauthorized
    have hpending : b.Accepts (m.completeOAuthAuthorization ctx io (actor.withPending true) raw true) s := by
      refine ⟨result, t, completeOAuthAuthorization_ok.mpr ⟨hon, continuation, request, authorized,
        hopen', hrequest, ?_, hresolve⟩⟩
      rw [hsame hrequest]
      exact authorized_anyone hauthorized hchecks _
    exact absurd (hall true hpending).2.2.2 (by simp [Authentication.withPending])
  · rintro hchecks pending ⟨result, t, h⟩
    obtain ⟨-, continuation', request, authorized, hopen', hrequest, hauthorized, -⟩ :=
      completeOAuthAuthorization_ok.mp h
    obtain rfl := Except.ok.inj (hopen.symm.trans hopen')
    rw [hsame hrequest] at hauthorized
    exact entitled_of_authorized hauthorized hchecks

end Credbound.Manager
