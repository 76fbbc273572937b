import Credbound.Manager.Refresh

/-!
# Manager/RevokedGrant — no code and no token of a revoked grant is good for anything

Every function that takes a code or a token reads its grant before it succeeds.  So once the grant is
revoked, and as long as it stays so, all four of them fail (`GrantCall.refused`), whatever other
calls do in between.
-/

namespace Credbound.Manager

open Procedure

/-! ## The calls -/

/-- A call that presents a code or a token. -/
inductive GrantCall
  | authenticateOAuthAccessToken (resourceURI raw : String)
  | oauthUserInfo (issuerURL raw : String)
  | exchangeOAuthAuthorizationCode (input : ExchangeOAuthAuthorizationCodeInput)
  | refreshOAuthToken (input : RefreshOAuthTokenInput)

/-- The call as a program that tells whether it succeeded. -/
def GrantCall.program (m : Manager) (ctx : Context) (io : Supply) : GrantCall → Program Request Bool
  | .authenticateOAuthAccessToken resourceURI raw =>
      (m.authenticateOAuthAccessToken ctx io resourceURI raw).verdict
  | .oauthUserInfo issuerURL raw => (m.oauthUserInfo ctx io issuerURL raw).verdict
  | .exchangeOAuthAuthorizationCode input => (m.exchangeOAuthAuthorizationCode ctx io input).verdict
  | .refreshOAuthToken input => (m.refreshOAuthToken ctx io input).verdict

variable {S : Type}

/-- What is found by a presented text is derived from the grant.  An access token has to be found: a
text without one may belong to a client of its own. -/
def Presents (b : Backend S) (grantID : UUID) : ⦃β : Type⦄ → Request β → S → Prop
  | _, .query ctx (.oauthAccessTokenByPrefix pfx), s =>
      b.ask s ctx (.oauthAccessTokenByPrefix pfx) ≠ .error .notFound
        ∧ ∀ token, b.ask s ctx (.oauthAccessTokenByPrefix pfx) = .ok token → token.grantID = grantID
  | _, .query ctx (.oauthAuthorizationCodeByPrefix pfx), s =>
      ∀ code, b.ask s ctx (.oauthAuthorizationCodeByPrefix pfx) = .ok code → code.grantID = grantID
  | _, .query ctx (.oauthRefreshTokenByPrefix pfx), s =>
      ∀ token, b.ask s ctx (.oauthRefreshTokenByPrefix pfx) = .ok token → token.grantID = grantID
  | _, _, _ => True

/-! ## Refusal -/

section

variable {b : Backend S} {rely : S → S → Prop} {m : Manager} {ctx : Context} {io : Supply} {s t : S}
  {grantID : UUID} {I : S → Prop}

/-- The grant cannot be read unrevoked while `I` holds, and neither the others nor any access end
`I`. -/
structure Backend.Keeps (b : Backend S) (rely : S → S → Prop) (grantID : UUID) (I : S → Prop) :
    Prop where
  others : ∀ s t, rely s t → I s → I t
  access : ∀ ⦃β : Type⦄ (e : Request β) s, I s → I (b.handler e s).2
  revoked : ∀ s ctx grant, I s → b.ask s ctx (.oauthGrant grantID) = .ok grant → grant.revokedAt ≠ none

variable {admits : ⦃β : Type⦄ → Request β → S → Prop}

section

variable (hb : b.Keeps rely grantID I)

include hb

theorem Backend.Keeps.run {α : Type} {p : Action α} {r : Except Err α}
    (h : p.Runs b.handler rely admits s r t) (hs : I s) : I t :=
  Program.Runs.invariant_of_emits h (Program.emits_true _) hb.others (fun _ e m _ _ hm => hb.access e m hm) hs

theorem activeOAuthGrant_refused {client : OAuthClient}
    {resourceURI : String} {r : OAuthGrant × OAuthProtectedResource} (hs : I s) :
    ¬ (m.activeOAuthGrant ctx grantID client resourceURI).Runs b.handler rely admits s (.ok r) t := by
  intro h
  unfold activeOAuthGrant at h
  simp only [runs_bind_ok, runs_demand_ok, runs_expect_ok] at h
  obtain ⟨-, _, ⟨-, rfl⟩, grant, mid, ⟨hmove, -, hread, hlive, -⟩, -⟩ := h
  exact hb.revoked mid ctx grant (hb.others _ mid hmove hs) hread hlive

theorem authenticateOAuthAccessToken_refused {resourceURI raw : String} {r : OAuthAuthentication} (hs : I s) :
    ¬ (m.authenticateOAuthAccessToken ctx io resourceURI raw).Runs b.handler rely (Presents b grantID) s
      (.ok r) t := by
  intro h
  unfold authenticateOAuthAccessToken requireOAuth at h
  simp only [runs_bind_ok, runs_demand_ok, runs_lift, runs_attempt, runs_ask] at h
  obtain ⟨-, _, ⟨-, rfl⟩, pfx, _, ⟨-, rfl⟩, answer, mid, ⟨_, hr, hmove, hpresents, hread⟩, hrest⟩ := h
  obtain ⟨⟩ := hr
  have hmid := hb.others _ mid hmove hs
  cases answer with
  | error e =>
    have hfound : e ≠ .notFound := by
      rintro rfl
      exact hpresents.1 hread
    dsimp only at hrest
    rw [if_neg hfound] at hrest
    simp at hrest
  | ok token =>
    obtain rfl := hpresents.2 token hread
    unfold authenticateOAuthUserToken at hrest
    simp only [runs_bind_ok, runs_demand_ok, runs_mapError_ok, runs_expect_ok] at hrest
    obtain ⟨-, _, ⟨-, rfl⟩, client, mid', ⟨hmove', -⟩, active, last, hactive, -⟩ := hrest
    exact activeOAuthGrant_refused hb (hb.others _ mid' hmove' hmid) hactive

theorem oauthUserInfo_refused {issuerURL raw : String} {r : OIDCUserInfo} (hs : I s) :
    ¬ (m.oauthUserInfo ctx io issuerURL raw).Runs b.handler rely (Presents b grantID) s (.ok r) t := by
  intro h
  unfold oauthUserInfo requireOAuth at h
  simp only [runs_bind_ok, runs_demand_ok, runs_lift, runs_expect_ok] at h
  obtain ⟨-, _, ⟨-, rfl⟩, _, _, ⟨-, rfl⟩, issuer, s₁, ⟨hmove₁, -⟩, pfx, _, ⟨-, rfl⟩, token, s₂,
    ⟨hmove₂, hpresents, htoken, -⟩, grant, s₃, ⟨hmove₃, -, hgrant, -, hlive⟩, -⟩ := h
  obtain rfl := hpresents.2 token htoken
  exact hb.revoked s₃ ctx grant
    (hb.others _ _ hmove₃ (hb.others _ _ hmove₂ (hb.others _ _ hmove₁ hs))) hgrant hlive

theorem exchangeOAuthAuthorizationCode_refused
    {input : ExchangeOAuthAuthorizationCodeInput} {r : OAuthTokenResponse} (hs : I s) :
    ¬ (m.exchangeOAuthAuthorizationCode ctx io input).Runs b.handler rely (Presents b grantID) s (.ok r)
      t := by
  intro h
  unfold exchangeOAuthAuthorizationCode requireOAuth exchangeOAuthCode at h
  simp only [runs_bind_ok, runs_demand_ok, runs_lift, runs_expect_ok] at h
  obtain ⟨-, _, ⟨-, rfl⟩, caller, s₁, hclient, pfx, _, ⟨-, rfl⟩, -, _, ⟨-, rfl⟩, code, s₂,
    ⟨hmove, hpresents, hcode, -⟩, hrest⟩ := h
  have hs₂ := hb.others _ _ hmove (hb.run hclient hs)
  obtain rfl := hpresents code hcode
  split at hrest
  · simp at hrest
  · unfold redeemOAuthCode at hrest
    simp only [runs_bind_ok, runs_demand_ok, runs_mapError_ok] at hrest
    obtain ⟨-, _, ⟨-, rfl⟩, active, last, hactive, -⟩ := hrest
    exact activeOAuthGrant_refused hb hs₂ hactive

theorem refreshOAuthToken_refused {input : RefreshOAuthTokenInput} {r : OAuthTokenResponse} (hs : I s) :
    ¬ (m.refreshOAuthToken ctx io input).Runs b.handler rely (Presents b grantID) s (.ok r) t := by
  intro h
  obtain ⟨-, caller, s₁, hclient, hfamily⟩ := refreshOAuthToken_ok.mp h
  obtain ⟨pfx, previous, s₂, active, last, -, hmove, hpresents, hread, -, -, -, hactive, -⟩ :=
    refreshOAuthFamily_ok.mp hfamily
  obtain rfl := hpresents previous hread
  exact activeOAuthGrant_refused hb (hb.others _ _ hmove (hb.run hclient hs)) hactive

/-- **Every call that presents a code or a token of the grant fails.** -/
theorem GrantCall.refused (call : GrantCall) {verdict : Bool} (hs : I s)
    (h : (call.program m ctx io).Runs b.handler rely (Presents b grantID) s verdict t) :
    verdict = false := by
  have hfails : ∀ {α : Type} {p : Action α}, (∀ r, ¬ p.Runs b.handler rely (Presents b grantID) s (.ok r) t) →
      p.verdict.Runs b.handler rely (Presents b grantID) s verdict t → verdict = false := by
    intro α p hp hverdict
    obtain ⟨r, hrun, rfl⟩ := runs_verdict.mp hverdict
    match r, hrun with
    | .ok a, hrun => exact absurd hrun (hp a)
    | .error _, _ => rfl
  cases call with
  | authenticateOAuthAccessToken resourceURI raw =>
    exact hfails (fun _ => authenticateOAuthAccessToken_refused hb hs) h
  | oauthUserInfo issuerURL raw => exact hfails (fun _ => oauthUserInfo_refused hb hs) h
  | exchangeOAuthAuthorizationCode input =>
    exact hfails (fun _ => exchangeOAuthAuthorizationCode_refused hb hs) h
  | refreshOAuthToken input => exact hfails (fun _ => refreshOAuthToken_refused hb hs) h

end

end

end Credbound.Manager
