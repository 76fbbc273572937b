import Credbound.Manager.ActiveGrant

/-!
# Manager/Refresh — the course of a refresh

`refreshOAuthToken_ok` takes an accepted refresh apart: the client is authenticated, the presented
token is read, its grant is found good, and `replaceOAuthToken` stores the successor.  Only the third
of these looks at a membership (`replacing_of_resolving`, `replaceOAuthToken_replacing`).
-/

namespace Credbound.Manager

open Procedure

/-! ## The accesses of a refresh -/

/-- The accesses of a refresh outside `activeOAuthGrant`. -/
def Refreshing : ⦃β : Type⦄ → Request β → Prop
  | _, .query _ q => ¬ q.OfMembership
  | _, .update _ .appendAudit _ => True
  | _, .update _ (.upsertOAuthCIMDClient _) _ => True
  | _, .update _ (.rotateOAuthRefreshToken ..) _ => True
  | _, .update _ (.revokeOAuthRefreshFamily _ _) _ => True
  | _, .update _ _ _ => False

/-- Reads, and the record of the client. -/
def Harmless : ⦃β : Type⦄ → Request β → Prop
  | _, .query _ _ => True
  | _, .update _ .appendAudit _ => True
  | _, .update _ (.upsertOAuthCIMDClient _) _ => True
  | _, .update _ _ _ => False

theorem harmless_of_resolving ⦃β : Type⦄ (r : Request β) (h : Resolving r) : Harmless r := by
  cases r with
  | query ctx q => trivial
  | update ctx u commit =>
    cases u with
    | appendAudit => trivial
    | upsertOAuthCIMDClient => trivial
    | _ => exact absurd h id

/-- A refresh token that a request stores has not been used. -/
def StoresUnused : ⦃β : Type⦄ → Request β → Prop
  | _, .update _ (.consumeOAuthAuthorizationCode _ _ _ refresh) _ =>
      ∀ token ∈ refresh, token.usedAt = none
  | _, .update _ (.rotateOAuthRefreshToken _ _ _ refresh) _ => refresh.usedAt = none
  | _, _ => True

theorem storesUnused_of_harmless ⦃β : Type⦄ (r : Request β) (h : Harmless r) : StoresUnused r := by
  cases r with
  | query ctx q => trivial
  | update ctx u commit =>
    cases u with
    | appendAudit => trivial
    | upsertOAuthCIMDClient => trivial
    | _ => exact absurd h id

theorem storesUnused_of_resolving ⦃β : Type⦄ (r : Request β) (h : Resolving r) : StoresUnused r :=
  storesUnused_of_harmless r (harmless_of_resolving r h)

/-- An access of a refresh that stores no used token. -/
def Replacing ⦃β : Type⦄ (r : Request β) : Prop := Refreshing r ∧ StoresUnused r

theorem replacing_of_resolving ⦃β : Type⦄ (r : Request β) (h : Resolving r) : Replacing r := by
  refine ⟨?_, storesUnused_of_resolving r h⟩
  cases r with
  | query ctx q => exact h
  | update ctx u commit =>
    cases u with
    | appendAudit => trivial
    | upsertOAuthCIMDClient => trivial
    | _ => exact absurd h id

section

variable (m : Manager) (ctx : Context) (io : Supply)

theorem oauthPrimaryEmail_resolving (userID : UUID) : (oauthPrimaryEmail ctx userID).Emits Resolving := by
  refine emits_bind (emits_attempt (emits_ask (resolving_query id))) fun r => ?_
  match r with
  | .error _ => exact emits_pure
  | .ok user =>
    dsimp only
    split
    · exact emits_pure
    · refine emits_bind (emits_attempt (emits_ask (resolving_query id))) fun r => ?_
      match r with
      | .error _ => exact emits_pure
      | .ok _ => exact emits_pure

theorem oauthIDToken_resolving (issuer : OAuthIssuer) (client : OAuthClient) (grant : OAuthGrant)
    (nonce : String) (expiresAt : Time) :
    (m.oauthIDToken ctx io issuer client grant nonce expiresAt).Emits Resolving := by
  unfold oauthIDToken
  split
  · exact emits_pure
  split
  · dsimp only
    split
    · exact emits_bind (oauthPrimaryEmail_resolving ctx grant.userID) fun _ =>
        emits_lift
    · exact emits_bind emits_pure fun _ => emits_lift
  · exact emits_fail

theorem authorizeGrantScope_harmless (actor : Authentication) (resource : OAuthProtectedResource)
    (scope : String) :
    (m.authorizeGrantScope ctx actor resource scope).Emits Harmless := by
  unfold authorizeGrantScope
  split
  · exact emits_pure
  split
  · exact emits_fail
  · refine emits_each fun permission _ => emits_mapError ?_
    exact emits_bind emits_demand fun _ =>
      emits_bind emits_demand fun _ =>
      emits_bind emits_demand fun _ =>
      emits_bind emits_demand fun _ =>
      emits_bind (emits_expect trivial) fun _ =>
      emits_bind emits_demand fun _ =>
      emits_bind (emits_mapError (emits_ask trivial)) fun _ =>
      emits_bind emits_demand fun _ =>
      emits_bind emits_demand fun _ =>
      emits_bind (emits_mapError (emits_ask trivial)) fun _ =>
      emits_demand

theorem activeOAuthGrant_harmless (grantID : UUID) (client : OAuthClient) (resourceURI : String) :
    (m.activeOAuthGrant ctx grantID client resourceURI).Emits Harmless :=
  emits_bind emits_demand fun _ =>
    emits_bind (emits_expect trivial) fun _ =>
    emits_bind (emits_expect trivial) fun _ =>
    emits_bind emits_demand fun _ =>
    emits_bind (emits_expect trivial) fun _ =>
    emits_bind (emits_expect trivial) fun _ =>
    emits_bind (emits_expect trivial) fun _ =>
    emits_bind (emits_each fun scope _ =>
      m.authorizeGrantScope_harmless ctx _ _ scope) fun _ => emits_pure

theorem usedAt_newOAuthRefreshToken {k : ℕ} {grant : OAuthGrant} {familyID : UUID} {ttl : Duration}
    {r : OAuthRefreshToken × String} (h : m.newOAuthRefreshToken io k grant familyID ttl = .ok r) :
    r.1.usedAt = none := by
  simp only [newOAuthRefreshToken, check_bind] at h
  obtain ⟨_, -, h⟩ := h
  split at h
  all_goals
    simp only [check_bind] at h
    obtain ⟨_, -, _, -, hr⟩ := h
    obtain ⟨⟩ := hr
    rfl

theorem revokeOAuthRefreshFamily_replacing (token : OAuthRefreshToken) (client : OAuthClient)
    (reason : String) : (m.revokeOAuthRefreshFamily ctx io token client reason).Emits Replacing :=
  emits_bind emits_lift fun _ => emits_mapError (emits_send ⟨trivial, trivial⟩)

theorem replaceOAuthToken_replacing (input : RefreshOAuthTokenInput) (issuer : OAuthIssuer)
    (client : OAuthClient) (previous : OAuthRefreshToken) (grant : OAuthGrant)
    (resource : OAuthProtectedResource) :
    (m.replaceOAuthToken ctx io input issuer client previous grant resource).Emits Replacing := by
  refine emits_bind emits_demand fun _ =>
    emits_bind emits_lift fun _ =>
    emits_bind emits_lift fun _ =>
    emits_lift_bind fun replacement hreplacement =>
    emits_bind emits_lift fun _ => emits_bind (emits_attempt
      (emits_send ⟨trivial, m.usedAt_newOAuthRefreshToken io hreplacement⟩)) fun r => ?_
  match r with
  | .error e =>
    dsimp only
    split
    · exact emits_bind (emits_attempt (m.revokeOAuthRefreshFamily_replacing ctx io previous client _))
        fun _ => emits_fail
    · exact emits_fail
  | .ok _ =>
    exact emits_bind
      ((m.oauthIDToken_resolving ctx io issuer client _ _ _).mono replacing_of_resolving) fun _ =>
      emits_pure

end

/-! ## What an accepted refresh has seen -/

section

variable {S : Type} {b : Backend S} {rely : S → S → Prop}
  {admits : ⦃β : Type⦄ → Request β → S → Prop} {m : Manager} {s t : S} {ctx : Context} {io : Supply}
  {input : RefreshOAuthTokenInput} {issuer : OAuthIssuer} {client : OAuthClient}
  {response : OAuthTokenResponse}

/-- A refresh that succeeds, among others: the presented token was authentic and neither used nor
revoked when it was read, its grant was found good after that, and a successor was stored. -/
theorem refreshOAuthFamily_ok :
    (m.refreshOAuthFamily ctx io input issuer client).Runs b.handler rely admits s (.ok response) t
      ↔ ∃ pfx previous mid active last, bearerPrefix "cbr" input.refreshToken = .ok pfx
        ∧ rely s mid ∧ admits (.query ctx (.oauthRefreshTokenByPrefix pfx)) mid
        ∧ b.ask mid ctx (.oauthRefreshTokenByPrefix pfx) = .ok previous
        ∧ (previous.clientRecordID = client.id
          ∧ previous.digest = m.oauthDigest "refresh-token" input.refreshToken)
        ∧ (previous.usedAt = none ∧ previous.revokedAt = none) ∧ io.now 10 < previous.expiresAt
        ∧ (m.activeOAuthGrant ctx previous.grantID client input.resource).Runs b.handler rely admits
          mid (.ok active) last
        ∧ (m.replaceOAuthToken ctx io input issuer client previous active.1 active.2).Runs b.handler
          rely admits last (.ok response) t := by
  unfold refreshOAuthFamily
  simp only [runs_bind_ok, runs_lift, runs_expect_ok]
  constructor
  · rintro ⟨pfx, _, ⟨hbearer, rfl⟩, previous, mid, ⟨hmove, hadmits, hread, hgood⟩, hrest⟩
    by_cases hlive : previous.usedAt ≠ none ∨ previous.revokedAt ≠ none
    · rw [if_pos hlive] at hrest
      simp at hrest
    · rw [if_neg hlive] at hrest
      unfold rotateOAuthToken at hrest
      simp only [runs_bind_ok, runs_demand_ok, runs_mapError_ok] at hrest
      obtain ⟨-, _, ⟨hexpires, rfl⟩, active, last, hactive, hrest⟩ := hrest
      exact ⟨pfx, previous, _, active, last, hbearer.symm, hmove, hadmits, hread, hgood,
        by simpa using hlive, hexpires, hactive, hrest⟩
  · rintro ⟨pfx, previous, mid, active, last, hbearer, hmove, hadmits, hread, hgood, hlive, hexpires,
      hactive, hrest⟩
    refine ⟨pfx, s, ⟨hbearer.symm, rfl⟩, previous, mid, ⟨hmove, hadmits, hread, hgood⟩, ?_⟩
    rw [if_neg (by simpa using hlive)]
    unfold rotateOAuthToken
    simp only [runs_bind_ok, runs_demand_ok, runs_mapError_ok]
    exact ⟨(), mid, ⟨hexpires, rfl⟩, active, last, hactive, hrest⟩

theorem refreshOAuthToken_ok :
    (m.refreshOAuthToken ctx io input).Runs b.handler rely admits s (.ok response) t
      ↔ m.oauth = true ∧ ∃ caller mid,
        (m.authenticateOAuthClient ctx io input.toTokenEndpointRequest).Runs b.handler rely admits s
          (.ok caller) mid
        ∧ (m.refreshOAuthFamily ctx io input caller.1 caller.2).Runs b.handler rely admits mid
          (.ok response) t := by
  unfold refreshOAuthToken requireOAuth
  simp only [runs_bind_ok, runs_demand_ok]
  constructor
  · rintro ⟨-, _, ⟨hon, rfl⟩, caller, mid, hclient, hrest⟩
    exact ⟨hon, caller, mid, hclient, hrest⟩
  · rintro ⟨hon, caller, mid, hclient, hrest⟩
    exact ⟨(), s, ⟨hon, rfl⟩, caller, mid, hclient, hrest⟩

end

end Credbound.Manager
