import Credbound.Manager.ActiveGrant

/-!
# Manager/TokenRefusals — the errors of `AuthenticateOAuthAccessToken`

The doc of the function tells `ErrForbidden`, for a token of which only a permission is missing, from
`ErrInvalidCredentials`.  `activeOAuthGrant` makes that difference, and its caller does not pass it on.

* `authenticateOAuthAccessToken_refuses`: the only error is `ErrInvalidCredentials`.
* `Backend.PermissionMissing.refused`: so is that of a token of which only a permission is missing.
-/

namespace Credbound.Manager

open Procedure

variable {S : Type} {b : Backend S} {m : Manager} {s : S} {ctx : Context} {io : Supply}
  {client : OAuthClient} {token : OAuthAccessToken} {resourceURI raw pfx : String}

/-! ## The only error -/

/-- A procedure that fails with one error only. -/
def Refuses {α : Type} (err : Err) (p : Action α) : Prop :=
  p.Ensures (fun _ _ _ => True) (fun _ _ => True) fun r => ∀ e, r = .error e → e = err

section Refuses

variable {α β : Type} {err : Err} {p : Action α} {f : α → Action β}

theorem refuses_bind (hp : Refuses err p) (hf : ∀ a, Refuses err (f a)) : Refuses err (p >>= f) :=
  ensures_bind hp (fun e he e' he' => he e' (by cases he'; rfl)) fun a _ => hf a

theorem refuses_pure {a : α} : Refuses err (pure a : Action α) := ensures_pure nofun

theorem refuses_fail : Refuses err (fail err : Action α) := ensures_fail fun _ h => (Except.error.inj h).symm

theorem refuses_demand {q : Prop} [Decidable q] : Refuses err (demand q err : Action Unit) := by
  unfold demand
  split
  · exact refuses_pure
  · exact refuses_fail

theorem refuses_expect {q : Query α} {good : α → Prop} [DecidablePred good] : Refuses err (expect ctx q good err) :=
  ensures_lookup trivial (fun _ h => (Except.error.inj h).symm) fun _ _ _ => nofun

theorem refuses_mapError : Refuses err (p.mapError fun _ => err) := by
  refine ensures_mapError ((Program.emits_true p.program).ensures.relax fun r _ e he => ?_)
  cases r with
  | ok a => cases he
  | error e' => exact (Except.error.inj he).symm

end Refuses

theorem authenticateOAuthUserToken_refuses :
    Refuses .invalidCredentials (m.authenticateOAuthUserToken ctx io raw resourceURI token) := by
  refine refuses_bind refuses_demand fun _ => ?_
  refine refuses_bind refuses_expect fun client => ?_
  refine refuses_bind refuses_mapError fun active => ?_
  exact refuses_bind refuses_demand fun _ => refuses_pure

theorem authenticateOAuthClientToken_refuses :
    Refuses .invalidCredentials (m.authenticateOAuthClientToken ctx io pfx raw resourceURI) := by
  refine refuses_bind refuses_expect fun token => ?_
  refine refuses_bind refuses_expect fun client => ?_
  refine refuses_bind refuses_expect fun issuer => ?_
  refine refuses_bind refuses_expect fun resource => ?_
  refine refuses_bind refuses_demand fun _ => ?_
  refine refuses_bind refuses_demand fun _ => ?_
  exact refuses_bind refuses_expect fun _ => refuses_pure

/-- **The only error is `ErrInvalidCredentials`**, unless there is no authorization server. -/
theorem authenticateOAuthAccessToken_refuses (hon : m.oauth = true) :
    Refuses .invalidCredentials (m.authenticateOAuthAccessToken ctx io resourceURI raw) := by
  refine refuses_bind ?_ fun _ => refuses_bind ?_ fun pfx => ?_
  · rw [requireOAuth, demand, if_pos hon]
    exact refuses_pure
  · unfold bearerPrefix
    split
    · exact refuses_pure
    · exact refuses_fail
  · -- the attempt itself never fails: what it found is looked at below
    refine ensures_bind (P := fun r => ∃ found, r = .ok found) (ensures_attempt ?_) ?_ fun found _ => ?_
    · exact (Program.emits_true _).ensures.relax fun r _ => ⟨r, rfl⟩
    · rintro e ⟨found, hfound⟩
      cases hfound
    · cases found with
      | ok token => exact authenticateOAuthUserToken_refuses
      | error e =>
        dsimp only
        split
        · exact authenticateOAuthClientToken_refuses
        · exact refuses_fail

/-! ## Only a permission is missing -/

/-- Every check on the token, its client, grant, resource, issuer, user and workspace passes, and some permission behind
a scope of the grant is missing. -/
def Backend.PermissionMissing (b : Backend S) (m : Manager) (s : S) (ctx : Context) (now : Time)
    (resourceURI raw : String) : Prop :=
  ∃ pfx token client grant resource issuer,
    bearerPrefix "cba" raw = .ok pfx ∧ b.ask s ctx (.oauthAccessTokenByPrefix pfx) = .ok token
    ∧ m.Presentable now raw token
    ∧ b.ask s ctx (.oauthClientByID token.clientRecordID) = .ok client ∧ client.disabledAt = none
    ∧ b.ask s ctx (.oauthGrant token.grantID) = .ok grant ∧ grant.revokedAt = none
    ∧ grant.clientRecordID = client.id ∧ grant.metadataHash = client.metadataHash
    ∧ b.ask s ctx (.oauthProtectedResourceByID grant.resourceID) = .ok resource ∧ resource.disabledAt = none
    ∧ resource.workspaceID = grant.workspaceID ∧ m.namesResource resourceURI resource
    ∧ b.ask s ctx (.oauthIssuerByID grant.issuerID) = .ok issuer ∧ issuer.disabledAt = none
    ∧ issuer.id = resource.issuerID ∧ b.UserEnabled s ctx grant.userID ∧ b.WorkspaceEnabled s ctx grant.workspaceID
    ∧ Consistent token grant resource
    ∧ (∀ scope ∈ grant.scopes, oauthReservedScope scope = true ∨ (oauthScopeDefinition resource.scopes scope).isSome)
    ∧ ∃ scope ∈ grant.scopes, oauthReservedScope scope = false
      ∧ ∃ definition, oauthScopeDefinition resource.scopes scope = some definition
        ∧ ∃ permission ∈ definition.permissions, ¬ b.Permits m s ctx
          { userID := grant.userID, workspaceID := grant.workspaceID } resource.workspaceID permission

/-- A token of which a permission is missing is not accepted… -/
theorem Backend.PermissionMissing.not_accepts (hon : m.oauth = true)
    (h : b.PermissionMissing m s ctx (io.now 10) resourceURI raw) :
    ¬ b.Accepts (m.authenticateOAuthAccessToken ctx io resourceURI raw) s := by
  obtain ⟨pfx, token, client, grant, resource, issuer, hbearer, htoken, -, hclient, -, hgrant, -, -, -, hresource, -, -, -, -,
    -, -, -, -, -, -, scope, hscope, hreserved, definition, hdefinition, permission, hpermission, hmissing⟩ := h
  rw [authenticateOAuthAccessToken_ok hon hbearer htoken]
  rintro ⟨-, client', grant', resource', hclient', hactive, -⟩
  obtain rfl := Except.ok.inj (hclient.symm.trans hclient')
  obtain rfl := Except.ok.inj (hgrant.symm.trans hactive.grant_read)
  obtain rfl := Except.ok.inj (hresource.symm.trans hactive.resource_read)
  obtain hreserved' | ⟨definition', hdefinition', hpermits⟩ := hactive.scopes scope hscope
  · exact absurd (hreserved.symm.trans hreserved') (by decide)
  · obtain rfl := Option.mem_unique hdefinition hdefinition'
    exact hmissing (hpermits permission hpermission)

/-- The answer of a call that refuses with one error only. -/
theorem Refuses.exec {α : Type} {err e : Err} {p : Action α} (hp : Refuses err p)
    (he : (p.program.exec b.handler s).1 = .error e) : e = err := by
  have hrun : b.Returns p s (.error e) (p.program.exec b.handler s).2 := Backend.returns_iff.mpr (Prod.ext he rfl)
  exact hp.of_runs (fun _ _ _ _ => trivial) hrun e rfl

/-- …so it gets `ErrInvalidCredentials`, like any other token that is refused. -/
theorem Backend.PermissionMissing.refused (hon : m.oauth = true)
    (h : b.PermissionMissing m s ctx (io.now 10) resourceURI raw) :
    ((m.authenticateOAuthAccessToken ctx io resourceURI raw).program.exec b.handler s).1
      = .error .invalidCredentials := by
  cases hanswer : ((m.authenticateOAuthAccessToken ctx io resourceURI raw).program.exec b.handler s).1 with
  | ok authentication => exact absurd ⟨authentication, _, Backend.returns_iff.mpr (Prod.ext hanswer rfl)⟩ (h.not_accepts hon)
  | error e => rw [(authenticateOAuthAccessToken_refuses hon).exec hanswer]

end Credbound.Manager
