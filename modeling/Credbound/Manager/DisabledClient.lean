import Credbound.Manager.OAuthAuthorization

/-!
# Manager/DisabledClient — requests that name a disabled client

Every request that names a client by its `client_id` resolves it first and refuses one that is
disabled.  `ClientCall.refused` is about a client that is stored disabled with a cached document that
has not expired: the request is refused and makes no update.  A client whose document has expired is
fetched again, which is another matter (`fetchOAuthClient`).
-/

namespace Credbound.Manager

open Procedure

/-! ## The requests -/

/-- A request of the authorization, token or revocation endpoint. -/
inductive ClientCall
  | validateOAuthAuthorizationRedirect (issuerURL clientID redirectURI : String)
  | beginOAuthAuthorization (actor : Authentication) (input : BeginOAuthAuthorizationInput)
  | exchangeOAuthAuthorizationCode (input : ExchangeOAuthAuthorizationCodeInput)
  | refreshOAuthToken (input : RefreshOAuthTokenInput)
  | issueOAuthClientCredentials (input : OAuthClientCredentialsInput)
  | revokeOAuthToken (input : RevokeOAuthTokenInput)

/-- The `client_id` of the request. -/
def ClientCall.clientID : ClientCall → String
  | .validateOAuthAuthorizationRedirect _ clientID _ => clientID
  | .beginOAuthAuthorization _ input => input.clientID
  | .exchangeOAuthAuthorizationCode input => input.clientID
  | .refreshOAuthToken input => input.clientID
  | .issueOAuthClientCredentials input => input.clientID
  | .revokeOAuthToken input => input.clientID

/-- The request as a program that tells whether it succeeded. -/
def ClientCall.program (m : Manager) (ctx : Context) (io : Supply) : ClientCall → Program Request Bool
  | .validateOAuthAuthorizationRedirect issuerURL clientID redirectURI =>
      (m.validateOAuthAuthorizationRedirect ctx io issuerURL clientID redirectURI).verdict
  | .beginOAuthAuthorization actor input => (m.beginOAuthAuthorization ctx io actor input).verdict
  | .exchangeOAuthAuthorizationCode input => (m.exchangeOAuthAuthorizationCode ctx io input).verdict
  | .refreshOAuthToken input => (m.refreshOAuthToken ctx io input).verdict
  | .issueOAuthClientCredentials input => (m.issueOAuthClientCredentials ctx io input).verdict
  | .revokeOAuthToken input => (m.revokeOAuthToken ctx io input).verdict

/-! ## Refusal -/

/-- A read. -/
def Reads : ⦃β : Type⦄ → Request β → Prop
  | _, .query _ _ => True
  | _, .update _ _ _ => False

/-- The answers to a request that names the client: the issuer it names is the client's, and the
client is found, disabled, with a document that is good at `now`. -/
def DisabledAnswers (issuerID : UUID) (clientID : String) (now : Time) :
    ⦃β : Type⦄ → Request β → β → Prop
  | _, .query _ (.oauthIssuerByURL _), r => ∀ issuer, r = .ok issuer → issuer.id = issuerID
  | _, .query _ (.oauthClientByClientID id text), r => id = issuerID → text = clientID →
      r ≠ .error .notFound
        ∧ ∀ client, r = .ok client → MetadataFresh now client ∧ client.disabledAt ≠ none
  | _, _, _ => True

section

variable {issuerID : UUID} {clientID : String} (m : Manager) (ctx : Context) (io : Supply)

/-- A client that is resolved is disabled. -/
theorem resolveOAuthClient_disabled {issuer : OAuthIssuer} {raw : String}
    (hissuer : issuer.id = issuerID) (hraw : trimSpace raw = clientID) :
    (m.resolveOAuthClient ctx io issuer raw).Delivers (DisabledAnswers issuerID clientID (io.now 0)) Reads
      fun client => client.disabledAt ≠ none := by
  refine delivers_demand_bind fun _ => ?_
  refine ensures_bind (P := fun r => ∃ answer, r = .ok answer ∧ answer ≠ .error .notFound
    ∧ ∀ client, answer = .ok client → MetadataFresh (io.now 0) client ∧ client.disabledAt ≠ none)
    (ensures_attempt (ensures_call trivial fun r hr => ?_)) ?_ ?_
  · exact ⟨r, rfl, hr hissuer hraw⟩
  · rintro e ⟨answer, hanswer, -⟩
    cases hanswer
  · rintro answer ⟨_, ⟨⟩, hfound, hclient⟩
    match answer with
    | .ok client =>
      obtain ⟨hfresh, hdisabled⟩ := hclient client rfl
      dsimp only
      rw [if_pos hfresh]
      exact delivers_pure hdisabled
    | .error e =>
      have he : e ≠ .notFound := fun h => hfound (h ▸ rfl)
      dsimp only
      rw [if_neg he]
      exact delivers_fail

/-- The token endpoints do not authenticate a disabled client. -/
theorem authenticateOAuthClient_disabled {input : TokenEndpointRequest}
    (hclient : trimSpace input.clientID = clientID) :
    (m.authenticateOAuthClient ctx io input).Delivers (DisabledAnswers issuerID clientID (io.now 0)) Reads
      fun _ => False := by
  refine delivers_demand_bind fun _ => ?_
  refine delivers_emits_bind (emits_mapError emits_lift) fun _ => ?_
  refine delivers_bind (delivers_lookup trivial fun issuer hissuer _ => hissuer issuer rfl) fun issuer hissuer => ?_
  refine delivers_bind (delivers_mapError (m.resolveOAuthClient_disabled ctx io hissuer hclient))
    fun client hdisabled => ?_
  exact delivers_demand_bind fun henabled => absurd henabled hdisabled

/-- What comes after the authentication of a disabled client does not come. -/
theorem authenticated_disabled {α : Type} {input : TokenEndpointRequest}
    (hclient : trimSpace input.clientID = clientID) (f : OAuthIssuer × OAuthClient → Action α) :
    (do m.requireOAuth let caller ← m.authenticateOAuthClient ctx io input
        f caller : Action α).Delivers (DisabledAnswers issuerID clientID (io.now 0)) Reads fun _ => False := by
  refine delivers_demand_bind fun _ => ?_
  exact delivers_bind (m.authenticateOAuthClient_disabled ctx io hclient) fun _ => False.elim

theorem validateOAuthAuthorizationRedirect_disabled {issuerURL raw redirectURI : String}
    (hclient : trimSpace raw = clientID) :
    (m.validateOAuthAuthorizationRedirect ctx io issuerURL raw redirectURI).Delivers
      (DisabledAnswers issuerID clientID (io.now 0)) Reads fun _ => False := by
  refine delivers_demand_bind fun _ => ?_
  refine delivers_lift_bind fun _ _ => ?_
  refine delivers_bind (delivers_lookup trivial fun issuer hissuer _ => hissuer issuer rfl) fun issuer hissuer => ?_
  refine delivers_bind (delivers_mapError (m.resolveOAuthClient_disabled ctx io hissuer hclient))
    fun client hdisabled => ?_
  exact delivers_demand_bind fun henabled => absurd henabled hdisabled

theorem beginOAuthAuthorization_disabled {actor : Authentication} {input : BeginOAuthAuthorizationInput}
    (hclient : trimSpace input.clientID = clientID) :
    (m.beginOAuthAuthorization ctx io actor input).Delivers
      (DisabledAnswers issuerID clientID (io.now 0)) Reads fun _ => False := by
  refine delivers_bind (P := fun _ => False) ?_ fun _ => False.elim
  refine delivers_demand_bind fun _ => delivers_demand_bind fun _ => ?_
  refine delivers_lift_bind fun _ _ => ?_
  refine delivers_bind (delivers_lookup trivial fun issuer hissuer _ => hissuer issuer rfl) fun issuer hissuer => ?_
  refine delivers_bind (m.resolveOAuthClient_disabled ctx io hissuer hclient) fun client hdisabled => ?_
  exact delivers_demand_bind fun h => absurd h.1 hdisabled

end

/-- What returns nothing fails. -/
theorem refused_verdict {α : Type} {A : ⦃β : Type⦄ → Request β → β → Prop} {p : Action α}
    (hp : p.Delivers A Reads fun _ => False) : p.verdict.Ensures A Reads fun verdict => verdict = false := by
  refine ensures_verdict (Program.Ensures.relax hp fun r hr => ?_)
  cases r with
  | ok a => exact (hr a rfl).elim
  | error e => rfl

/-- **A request that names a disabled client is refused and makes no update**, as long as the cached
document is good. -/
theorem ClientCall.refused (m : Manager) (ctx : Context) (io : Supply) (call : ClientCall)
    (issuerID : UUID) (clientID : String) (hnames : trimSpace call.clientID = clientID) :
    (call.program m ctx io).Ensures (DisabledAnswers issuerID clientID (io.now 0)) Reads
      fun verdict => verdict = false := by
  cases call with
  | validateOAuthAuthorizationRedirect issuerURL raw redirectURI =>
    exact refused_verdict (m.validateOAuthAuthorizationRedirect_disabled ctx io hnames)
  | beginOAuthAuthorization actor input =>
    exact refused_verdict (m.beginOAuthAuthorization_disabled ctx io hnames)
  | exchangeOAuthAuthorizationCode | refreshOAuthToken | issueOAuthClientCredentials | revokeOAuthToken =>
    exact refused_verdict (m.authenticated_disabled ctx io hnames _)

end Credbound.Manager
