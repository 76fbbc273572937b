import Credbound.Manager.Refresh

/-!
# Manager/FamilyCalls — the calls that make, replace and revoke refresh tokens

`ExchangeOAuthAuthorizationCode` starts a family of refresh tokens, `RefreshOAuthToken` replaces a
token of one, and `RevokeOAuthToken` ends one.  The tokens they store come from
`newOAuthRefreshToken`, which leaves them unused (`FamilyCall.storesUnused`).
-/

namespace Credbound.Manager

open Procedure

/-- A call that touches refresh tokens. -/
inductive FamilyCall
  | exchangeOAuthAuthorizationCode (input : ExchangeOAuthAuthorizationCodeInput)
  | refreshOAuthToken (input : RefreshOAuthTokenInput)
  | revokeOAuthToken (input : RevokeOAuthTokenInput)

/-- The call as a program that tells whether it succeeded. -/
def FamilyCall.program (m : Manager) (ctx : Context) (io : Supply) : FamilyCall → Program Request Bool
  | .exchangeOAuthAuthorizationCode input => (m.exchangeOAuthAuthorizationCode ctx io input).verdict
  | .refreshOAuthToken input => (m.refreshOAuthToken ctx io input).verdict
  | .revokeOAuthToken input => (m.revokeOAuthToken ctx io input).verdict

section

variable (m : Manager) (ctx : Context) (io : Supply)

/-! ## New tokens -/

theorem usedAt_exchangeRefreshToken {issuer : OAuthIssuer} {client : OAuthClient} {grant : OAuthGrant}
    {r : Option (OAuthRefreshToken × String)}
    (h : m.exchangeRefreshToken io issuer client grant = .ok r) :
    ∀ token ∈ r.map Prod.fst, token.usedAt = none := by
  unfold exchangeRefreshToken at h
  split at h
  · cases hnew : m.newOAuthRefreshToken io 12 grant 0 issuer.refreshTokenTTL with
    | error e =>
      rw [hnew] at h
      cases h
    | ok new =>
      rw [hnew] at h
      obtain ⟨⟩ := h
      rintro _ ⟨⟩
      exact m.usedAt_newOAuthRefreshToken io hnew
  · obtain ⟨⟩ := h
    rintro _ ⟨⟩

/-! ## The accesses of the calls -/

theorem revokeOAuthGrantForCodeReplay_storesUnused (client : OAuthClient) (code : OAuthAuthorizationCode) :
    (m.revokeOAuthGrantForCodeReplay ctx io client code).Emits StoresUnused := by
  refine emits_bind (emits_attempt ?_) fun _ => emits_pure
  exact emits_bind (emits_expect trivial) fun _ =>
    emits_bind emits_lift fun _ => emits_send trivial

theorem exchangeOAuthAuthorizationCode_storesUnused (input : ExchangeOAuthAuthorizationCodeInput) :
    (m.exchangeOAuthAuthorizationCode ctx io input).Emits StoresUnused := by
  refine emits_bind emits_demand fun _ => emits_bind
    ((m.authenticateOAuthClient_resolving ctx io _).mono storesUnused_of_resolving) fun _ =>
    emits_bind emits_lift fun _ =>
    emits_bind emits_demand fun _ =>
    emits_bind (emits_expect trivial) fun code => ?_
  split
  · exact emits_bind (m.revokeOAuthGrantForCodeReplay_storesUnused ctx io _ code) fun _ =>
      emits_fail
  · refine emits_bind emits_demand fun _ => emits_bind
      (emits_mapError ((m.activeOAuthGrant_harmless ctx _ _ _).mono storesUnused_of_harmless)) fun _ =>
      emits_bind emits_demand fun _ =>
      emits_bind emits_lift fun _ =>
      emits_lift_bind fun refresh hrefresh =>
      emits_bind emits_lift fun _ => emits_bind
        (emits_mapError (emits_send (m.usedAt_exchangeRefreshToken io hrefresh))) fun _ => ?_
    exact emits_bind ((m.oauthIDToken_resolving ctx io _ _ _ _ _).mono storesUnused_of_resolving) fun _ =>
      emits_pure

theorem refreshOAuthToken_storesUnused (input : RefreshOAuthTokenInput) :
    (m.refreshOAuthToken ctx io input).Emits StoresUnused := by
  refine emits_bind emits_demand fun _ => emits_bind
    ((m.authenticateOAuthClient_resolving ctx io _).mono storesUnused_of_resolving) fun _ =>
    emits_bind emits_lift fun _ =>
    emits_bind (emits_expect trivial) fun previous => ?_
  split
  · exact emits_bind
      (emits_attempt ((m.revokeOAuthRefreshFamily_replacing ctx io previous _ _).mono fun _ _ => And.right))
      fun _ => emits_fail
  · exact emits_bind emits_demand fun _ => emits_bind
      (emits_mapError ((m.activeOAuthGrant_harmless ctx _ _ _).mono storesUnused_of_harmless)) fun _ =>
      (m.replaceOAuthToken_replacing ctx io _ _ _ _ _ _).mono fun _ _ => And.right

theorem revokeOAuthClientAccessToken_storesUnused (client : OAuthClient) (pfx raw : String)
    (now : Time) : (m.revokeOAuthClientAccessToken ctx io client pfx raw now).Emits StoresUnused := by
  refine emits_bind (emits_attempt (emits_ask trivial)) fun r => ?_
  match r with
  | .error _ => exact emits_pure
  | .ok token =>
    dsimp only
    split
    · exact emits_pure
    · exact emits_bind emits_lift fun _ =>
        emits_mapError (emits_send trivial)

theorem revokeAccessToken_storesUnused (client : OAuthClient) (pfx raw : String) (now : Time) :
    (m.revokeAccessToken ctx io client pfx raw now).Emits StoresUnused := by
  have hforeign := m.revokeOAuthClientAccessToken_storesUnused ctx io client pfx raw now
  refine emits_bind (emits_attempt (emits_ask trivial)) fun r => ?_
  match r with
  | .error _ => exact hforeign
  | .ok token =>
    dsimp only
    split
    · exact hforeign
    · exact emits_bind emits_lift fun _ =>
        emits_mapError (emits_send trivial)

theorem revokeRefreshToken_storesUnused (client : OAuthClient) (pfx raw : String) :
    (m.revokeRefreshToken ctx io client pfx raw).Emits StoresUnused := by
  refine emits_bind (emits_attempt (emits_ask trivial)) fun r => ?_
  match r with
  | .error _ => exact emits_pure
  | .ok token =>
    dsimp only
    split
    · exact emits_pure
    · exact (m.revokeOAuthRefreshFamily_replacing ctx io token client _).mono fun _ _ => And.right

theorem revokeOAuthToken_storesUnused (input : RevokeOAuthTokenInput) :
    (m.revokeOAuthToken ctx io input).Emits StoresUnused := by
  refine emits_bind emits_demand fun _ => emits_bind
    ((m.authenticateOAuthClient_resolving ctx io _).mono storesUnused_of_resolving) fun caller => ?_
  split
  next pfx _ => exact m.revokeAccessToken_storesUnused ctx io caller.2 pfx input.token (io.now 10)
  next =>
    split
    next pfx _ => exact m.revokeRefreshToken_storesUnused ctx io caller.2 pfx input.token
    next => exact emits_pure

end

/-- **The refresh tokens the calls store are unused.** -/
theorem FamilyCall.storesUnused (m : Manager) (ctx : Context) (io : Supply) (call : FamilyCall) :
    (call.program m ctx io).Emits StoresUnused := by
  cases call with
  | exchangeOAuthAuthorizationCode input =>
    exact emits_verdict (m.exchangeOAuthAuthorizationCode_storesUnused ctx io input)
  | refreshOAuthToken input =>
    exact emits_verdict (m.refreshOAuthToken_storesUnused ctx io input)
  | revokeOAuthToken input =>
    exact emits_verdict (m.revokeOAuthToken_storesUnused ctx io input)

end Credbound.Manager
