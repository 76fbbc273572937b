import Credbound.Manager.Refresh

/-!
# Manager/TokenCalls — how a call of the token endpoint ends

`ExchangeOAuthAuthorizationCode` and `RefreshOAuthToken` read what they need, and then do one thing to the store: they
store tokens, or revoke what was presented twice, or nothing.  `TokenCall.leadsTo` says so.  Storing tokens is not the
end: the ID Token is signed after the commit, and signing can fail.
-/

namespace Credbound.Manager

open Procedure

/-! ## The calls -/

/-- A call of the token endpoint with a code or a refresh token. -/
inductive TokenCall
  | exchange (input : ExchangeOAuthAuthorizationCodeInput)
  | refresh (input : RefreshOAuthTokenInput)

def TokenCall.action (m : Manager) (ctx : Context) (io : Supply) : TokenCall → Action OAuthTokenResponse
  | .exchange input => m.exchangeOAuthAuthorizationCode ctx io input
  | .refresh input => m.refreshOAuthToken ctx io input

/-- The tokens a call is about to store. -/
structure Issuance where
  issuer : OAuthIssuer
  client : OAuthClient
  grant : OAuthGrant
  nonce : String
  access : OAuthAccessToken
  rawAccess : String
  rawRefresh : String

/-- The ID Token that goes with them. -/
def Issuance.idToken (x : Issuance) (m : Manager) (ctx : Context) (io : Supply) : Action String :=
  m.oauthIDToken ctx io x.issuer x.client x.grant x.nonce x.access.expiresAt

/-- What is left when they are stored. -/
def Issuance.respond (x : Issuance) (m : Manager) (ctx : Context) (io : Supply) : Action OAuthTokenResponse := do
  let idToken ← x.idToken m ctx io
  pure (tokenResponse x.rawAccess x.issuer.accessTokenTTL x.rawRefresh x.grant.scopes idToken)

/-- The update stores the access token. -/
def Update.Stores (access : OAuthAccessToken) : Update → Prop
  | .consumeOAuthAuthorizationCode _ _ stored _ => stored = access
  | .rotateOAuthRefreshToken _ _ stored _ => stored = access
  | _ => False

/-- The update revokes what was presented twice. -/
def Update.Revokes : Update → Prop
  | .revokeOAuthGrant _ _ => True
  | .revokeOAuthRefreshFamily _ _ => True
  | _ => False

/-! ## How they end -/

section Endings

variable (m : Manager) (ctx : Context) (io : Supply)

/-- The call is refused, with or without a replay that it reports. -/
inductive Refusing : Program Request (Except Err OAuthTokenResponse) → Prop
  | refused (e : Err) : Refusing (.ret (.error e))
  | replay (u : Update) (commit : Commit) (k : Except Err Unit → Program Request (Except Err OAuthTokenResponse))
      (hu : u.Revokes) (hk : ∀ r, k r = .ret (.error .invalidCredentials)) : Refusing (.op (.update ctx u commit) k)

/-- The program stores the tokens, and then responds with them. -/
structure Issuing (x : Issuance) (u : Update) (commit : Commit)
    (p : Program Request (Except Err OAuthTokenResponse)) : Prop where
  stores : u.Stores x.access
  steps : ∃ k, p = .op (.update ctx u commit) k ∧ k (.ok ()) = (x.respond m ctx io).program
    ∧ ∀ e, (k (.error e)).LeadsTo Harmless (Refusing ctx)

/-- The last part of a call. -/
def Ending (p : Program Request (Except Err OAuthTokenResponse)) : Prop :=
  Refusing ctx p ∨ ∃ x u commit, Issuing m ctx io x u commit p

theorem ending_error (e : Err) : Ending m ctx io (.ret (.error e)) := .inl (.refused e)

/-- Redeeming a code ends with storing its tokens. -/
theorem redeemOAuthCode_leadsTo (input : ExchangeOAuthAuthorizationCodeInput) (issuer : OAuthIssuer)
    (client : OAuthClient) (code : OAuthAuthorizationCode) :
    (m.redeemOAuthCode ctx io input issuer client code).LeadsTo Harmless (Ending m ctx io) := by
  have herror := ending_error m ctx io
  refine leadsTo_bind herror emits_demand fun _ => ?_
  refine leadsTo_bind herror (emits_mapError (m.activeOAuthGrant_harmless ctx _ _ _)) fun active => ?_
  refine leadsTo_bind herror emits_demand fun _ => ?_
  refine leadsTo_bind herror emits_lift fun access => ?_
  refine leadsTo_bind herror emits_lift fun refresh => ?_
  refine leadsTo_bind herror emits_lift fun commit => ?_
  refine .here _ (.inr ⟨⟨issuer, client, active.1, code.nonce, access.1, access.2, (refresh.map Prod.snd).getD ""⟩,
    .consumeOAuthAuthorizationCode code.id (io.now 22) access.1 (refresh.map Prod.fst), commit, rfl, _, rfl, rfl, ?_⟩)
  exact fun e => .here _ (.refused _)

/-- A procedure that makes a revocation, if it comes to it. -/
inductive Revoking : Program Request (Except Err Unit) → Prop
  | failed (e : Err) : Revoking (.ret (.error e))
  | sent (u : Update) (commit : Commit) (k : Except Err Unit → Program Request (Except Err Unit)) (hu : u.Revokes)
      (hk : ∀ r, ∃ r', k r = .ret r') : Revoking (.op (.update ctx u commit) k)

/-- What was presented twice is revoked, as far as that is possible, and the call is refused. -/
theorem leadsTo_of_revoking {p : Action Unit} (hp : p.LeadsTo Harmless (Revoking ctx)) :
    (Program.bind p.program fun _ => .ret (.error .invalidCredentials)).LeadsTo Harmless (Refusing ctx) := by
  refine hp.bind fun q hq => .here _ ?_
  cases hq with
  | failed e => exact .refused _
  | sent u commit k hu hk =>
    refine .replay u commit _ hu fun r => ?_
    obtain ⟨r', hr'⟩ := hk r
    rw [hr']
    rfl

theorem revokeOAuthRefreshFamily_leadsTo (token : OAuthRefreshToken) (client : OAuthClient) (reason : String) :
    (m.revokeOAuthRefreshFamily ctx io token client reason).LeadsTo Harmless (Revoking ctx) := by
  refine leadsTo_bind .failed emits_lift fun commit => .here _ ?_
  refine .sent _ commit _ trivial fun r => ?_
  cases r with
  | error e => exact ⟨_, rfl⟩
  | ok u => exact ⟨_, rfl⟩

/-- A code that was used before ends with the revocation of its grant. -/
theorem revokeOAuthGrantForCodeReplay_leadsTo (client : OAuthClient) (code : OAuthAuthorizationCode) :
    Procedure.LeadsTo Harmless (Refusing ctx) (do
      m.revokeOAuthGrantForCodeReplay ctx io client code
      fail .invalidCredentials) := by
  rw [revokeOAuthGrantForCodeReplay, attempt_pure_fail]
  refine leadsTo_of_revoking ctx ?_
  refine leadsTo_bind .failed (emits_expect trivial) fun grant => ?_
  refine leadsTo_bind .failed emits_lift fun commit => .here _ ?_
  exact .sent _ commit _ trivial fun r => ⟨_, rfl⟩

theorem exchangeOAuthAuthorizationCode_leadsTo (input : ExchangeOAuthAuthorizationCodeInput) :
    (m.exchangeOAuthAuthorizationCode ctx io input).LeadsTo Harmless (Ending m ctx io) := by
  have herror := ending_error m ctx io
  refine leadsTo_bind herror emits_demand fun _ => ?_
  refine leadsTo_bind herror ((m.authenticateOAuthClient_resolving ctx io _).mono harmless_of_resolving)
    fun caller => ?_
  refine leadsTo_bind herror emits_lift fun pfx => ?_
  refine leadsTo_bind herror emits_demand fun _ => ?_
  refine leadsTo_bind herror (emits_expect trivial) fun code => ?_
  split
  · exact (m.revokeOAuthGrantForCodeReplay_leadsTo ctx io caller.2 code).mono fun _ => .inl
  · exact m.redeemOAuthCode_leadsTo ctx io input caller.1 caller.2 code

/-- Replacing a refresh token ends with storing its successor, or with the revocation of the family. -/
theorem replaceOAuthToken_leadsTo (input : RefreshOAuthTokenInput) (issuer : OAuthIssuer) (client : OAuthClient)
    (previous : OAuthRefreshToken) (grant : OAuthGrant) (resource : OAuthProtectedResource) :
    (m.replaceOAuthToken ctx io input issuer client previous grant resource).LeadsTo Harmless (Ending m ctx io) := by
  have herror := ending_error m ctx io
  refine leadsTo_bind herror emits_demand fun _ => ?_
  refine leadsTo_bind herror emits_lift fun scopes => ?_
  refine leadsTo_bind herror emits_lift fun access => ?_
  refine leadsTo_bind herror emits_lift fun replacement => ?_
  refine leadsTo_bind herror emits_lift fun commit => ?_
  refine .here _ (.inr ⟨⟨issuer, client, { grant with scopes := scopes }, "", access.1, access.2, replacement.2⟩,
    .rotateOAuthRefreshToken previous.id (io.now 22) access.1 replacement.1, commit, rfl, _, rfl, rfl, fun e => ?_⟩)
  show Procedure.LeadsTo Harmless (Refusing ctx) (if e = .conflict ∨ e = .invalidCredentials then do
      let _ ← (m.revokeOAuthRefreshFamily ctx io previous client "reuse_detected").attempt
      fail .invalidCredentials
    else fail (mapStoreError e) : Action OAuthTokenResponse)
  split
  · rw [attempt_bind]
    exact leadsTo_of_revoking ctx (m.revokeOAuthRefreshFamily_leadsTo ctx io previous client _)
  · exact .here _ (.refused _)

theorem refreshOAuthToken_leadsTo (input : RefreshOAuthTokenInput) :
    (m.refreshOAuthToken ctx io input).LeadsTo Harmless (Ending m ctx io) := by
  have herror := ending_error m ctx io
  refine leadsTo_bind herror emits_demand fun _ => ?_
  refine leadsTo_bind herror ((m.authenticateOAuthClient_resolving ctx io _).mono harmless_of_resolving)
    fun caller => ?_
  refine leadsTo_bind herror emits_lift fun pfx => ?_
  refine leadsTo_bind herror (emits_expect trivial) fun previous => ?_
  split
  · rw [attempt_bind]
    exact (leadsTo_of_revoking ctx (m.revokeOAuthRefreshFamily_leadsTo ctx io previous caller.2 _)).mono fun _ => .inl
  · refine leadsTo_bind herror emits_demand fun _ => ?_
    refine leadsTo_bind herror (emits_mapError (m.activeOAuthGrant_harmless ctx _ _ _)) fun active => ?_
    exact m.replaceOAuthToken_leadsTo ctx io input caller.1 caller.2 previous active.1 active.2

/-- **A call reads, and then stores tokens, revokes what was presented twice, or is refused.** -/
theorem TokenCall.leadsTo (call : TokenCall) : (call.action m ctx io).LeadsTo Harmless (Ending m ctx io) :=
  match call with
  | .exchange input => m.exchangeOAuthAuthorizationCode_leadsTo ctx io input
  | .refresh input => m.refreshOAuthToken_leadsTo ctx io input

end Endings

/-! ## What an error leaves -/

section Ledger

variable {S : Type} (b : Backend S)

/-- Every read but that of a client answers as before. -/
def Backend.Untouched (s t : S) : Prop :=
  ∀ (ctx : Context) (α : Type) (q : Query α), ¬ q.OfClient → b.ask t ctx q = b.ask s ctx q

/-- An access token is found. -/
def Backend.Known (s : S) (pfx : String) : Prop :=
  ∃ token, b.ask s {} (.oauthAccessTokenByPrefix pfx) = .ok token

/-- A store that keeps client records apart, leaves everything as it was when it does not store tokens, finds tokens
from when they are stored, and finds no others when it revokes. -/
structure Backend.Ledger : Prop where
  separate : b.Separate
  failing : ∀ (s : S) (ctx : Context) (u : Update) (commit : Commit) (access : OAuthAccessToken) (e : Err),
    u.Stores access → (b.apply s ctx u commit).1 = .error e → b.Untouched s (b.apply s ctx u commit).2
  storing : ∀ (s : S) (ctx : Context) (u : Update) (commit : Commit) (access : OAuthAccessToken),
    u.Stores access → (b.apply s ctx u commit).1 = .ok () →
      ¬ b.Known s access.pfx ∧ b.Known (b.apply s ctx u commit).2 access.pfx
  revoking : ∀ (s : S) (ctx : Context) (u : Update) (commit : Commit) (pfx : String),
    u.Revokes → b.Known (b.apply s ctx u commit).2 pfx → b.Known s pfx

/-- What an error is to leave: everything as it was, or a revocation that the error reports. -/
def Backend.Spared (s : S) (e : Err) (t : S) : Prop :=
  b.Untouched s t ∨ e = .invalidCredentials
    ∧ ∃ s' ctx u commit, b.Untouched s s' ∧ u.Revokes ∧ t = (b.apply s' ctx u commit).2

/-- After its reads the call stores the tokens, and the store accepts them. -/
def Backend.Issues (m : Manager) (ctx : Context) (io : Supply) (call : TokenCall) (s : S) (x : Issuance) (after : S) :
    Prop :=
  ∃ p s' u commit, Program.Reaches b.handler Harmless (call.action m ctx io).program s p s'
    ∧ Issuing m ctx io x u commit p ∧ b.apply s' ctx u commit = (.ok (), after)

/-- The ID Token that the tokens call for is issued. -/
def Backend.Signs (m : Manager) (ctx : Context) (io : Supply) (x : Issuance) (s : S) : Prop :=
  ∃ idToken t, b.Returns (x.idToken m ctx io) s (.ok idToken) t

variable {b} {m : Manager} {ctx : Context} {io : Supply} {s s' t : S}

theorem Backend.Untouched.trans {u : S} (h : b.Untouched s t) (h' : b.Untouched t u) : b.Untouched s u :=
  fun ctx α q hq => (h' ctx α q hq).trans (h ctx α q hq)

theorem Backend.Untouched.known {pfx : String} (h : b.Untouched s t) : b.Known t pfx ↔ b.Known s pfx := by
  unfold Backend.Known
  rw [h {} _ (.oauthAccessTokenByPrefix pfx) id]

theorem untouched_handler (hb : b.Ledger) ⦃β : Type⦄ (r : Request β) (hr : Harmless r) (h : b.Untouched s t) :
    b.Untouched s (b.handler r t).2 := by
  refine h.trans fun ctx α q hq => ?_
  cases r with
  | query => rfl
  | update ctx' u commit =>
    refine hb.separate t (.update ctx' u commit) ?_ ctx α q hq
    cases u with
    | appendAudit => trivial
    | upsertOAuthCIMDClient => trivial
    | _ => exact absurd hr id

theorem untouched_of_reaches (hb : b.Ledger) {α : Type} {p p' : Program Request α}
    (h : Program.Reaches b.handler Harmless p s p' s') : b.Untouched s s' :=
  h.invariant (I := fun t => b.Untouched s t) (fun _ r _ hr => untouched_handler hb r hr) fun _ _ _ _ => rfl

/-- A call that is refused leaves what it is to leave. -/
theorem spared_of_refusing (hb : b.Ledger) {p : Program Request (Except Err OAuthTokenResponse)} {e : Err}
    (hs : b.Untouched s s') (hp : p.LeadsTo Harmless (Refusing ctx)) (hexec : p.exec b.handler s' = (.error e, t)) :
    b.Spared s e t := by
  obtain ⟨q, s'', hq, hreaches⟩ := hp.reaches (h := b.handler) s'
  have huntouched := hs.trans (untouched_of_reaches hb hreaches)
  rw [hreaches.exec_eq] at hexec
  cases hq with
  | refused e' =>
    obtain rfl : s'' = t := congrArg Prod.snd hexec
    exact .inl huntouched
  | replay u commit k hu hk =>
    rw [Program.exec, hk] at hexec
    refine .inr ⟨(Except.error.inj (congrArg Prod.fst hexec)).symm, s'', ctx, u, commit, huntouched, hu, ?_⟩
    exact (congrArg Prod.snd hexec).symm

theorem returns_respond (x : Issuance) (h : b.Signs m ctx io x s) :
    ∃ response t, b.Returns (x.respond m ctx io) s (.ok response) t := by
  obtain ⟨idToken, t, hsigned⟩ := h
  exact ⟨_, t, runs_bind_ok.mpr ⟨idToken, t, hsigned, runs_pure.mpr ⟨rfl, rfl⟩⟩⟩

/-- A response without its ID Token is an error, and changes nothing more. -/
theorem fails_respond (hb : b.Ledger) (x : Issuance) (h : ¬ b.Signs m ctx io x s) :
    ∃ e t, b.Returns (x.respond m ctx io) s (.error e) t ∧ b.Untouched s t := by
  cases hexec : (x.idToken m ctx io).program.exec b.handler s with
  | mk r t =>
    have hrun : b.Returns (x.idToken m ctx io) s r t := Backend.returns_iff.mpr hexec
    cases r with
    | ok idToken => exact absurd ⟨idToken, t, hrun⟩ h
    | error e =>
      refine ⟨e, t, runs_bind.mpr (.inl ⟨e, rfl, hrun⟩), fun ctx' α q hq => ?_⟩
      exact ask_of_resolving hb.separate (m.oauthIDToken_resolving ctx io _ _ _ _ _) hrun ctx' q hq

/-- **An error leaves the store as it was, unless it reports a replay, exactly if every ID Token that is called for
is issued.** -/
theorem spared_iff_signs (hb : b.Ledger) (call : TokenCall) :
    (∀ e t, b.Returns (call.action m ctx io) s (.error e) t → b.Spared s e t)
      ↔ ∀ x after, b.Issues m ctx io call s x after → b.Signs m ctx io x after := by
  constructor
  · rintro hspared x after ⟨p, s', u, commit, hreaches, ⟨hstores, k, rfl, hrespond, -⟩, happly⟩
    by_contra hunsigned
    obtain ⟨e, t, hfails, hafter⟩ := fails_respond hb x hunsigned
    obtain ⟨hunknown, hknown⟩ := hb.storing s' ctx u commit x.access hstores (congrArg Prod.fst happly)
    rw [happly] at hknown
    -- the error leaves a token that was not known before
    have hreturns : b.Returns (call.action m ctx io) s (.error e) t := by
      rw [Backend.returns_iff, hreaches.exec_eq, Program.exec, Backend.handler, happly, hrespond]
      exact Backend.returns_iff.mp hfails
    have hbefore : ¬ b.Known s x.access.pfx := fun h => hunknown ((untouched_of_reaches hb hreaches).known.mpr h)
    have hlast : b.Known t x.access.pfx := hafter.known.mpr hknown
    obtain hsame | ⟨-, s'', ctx', u', commit', hsame, hrevokes, rfl⟩ := hspared e t hreturns
    · exact hbefore (hsame.known.mp hlast)
    · exact hbefore (hsame.known.mp (hb.revoking s'' ctx' u' commit' _ hrevokes hlast))
  · intro hsigns e t hreturns
    have hexec := Backend.returns_iff.mp hreturns
    obtain ⟨p, s', hending, hreaches⟩ := (TokenCall.leadsTo m ctx io call).reaches (h := b.handler) s
    have huntouched := untouched_of_reaches hb hreaches
    rw [hreaches.exec_eq] at hexec
    obtain hrefusing | ⟨x, u, commit, hissuing⟩ := hending
    · exact spared_of_refusing hb huntouched (.here p hrefusing) hexec
    obtain ⟨k, rfl, hrespond, hrefused⟩ := hissuing.steps
    rw [Program.exec] at hexec
    cases happly : (b.apply s' ctx u commit).1 with
    | error e' =>
      have hfailed := huntouched.trans (hb.failing s' ctx u commit x.access e' hissuing.stores happly)
      refine spared_of_refusing hb hfailed (hrefused e') ?_
      rw [← happly]
      exact hexec
    | ok _ =>
      -- the tokens are stored, so the response is not an error
      obtain ⟨response, t', hresponse⟩ := returns_respond x
        (hsigns x (b.apply s' ctx u commit).2 ⟨_, s', u, commit, hreaches, hissuing, Prod.ext happly rfl⟩)
      have hanswer : k (b.handler (.update ctx u commit) s').1 = (x.respond m ctx io).program :=
        (congrArg k happly).trans hrespond
      rw [hanswer] at hexec
      cases congrArg Prod.fst (hexec.symm.trans (Backend.returns_iff.mp hresponse))

end Ledger

end Credbound.Manager
