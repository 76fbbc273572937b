import Credbound.Machinery.Table
import Credbound.Memory.Frames

/-!
# Memory/Issued — what becomes of grants and tokens

Three methods add grants, access tokens and refresh tokens.  `Method.revokes` says what every other
method can do to those that are there: some of them are revoked, and nothing else about them changes
but the time of the last update.  From this, a revoked grant stays revoked whatever is called
(`Call.keeps_revoked`).
-/

namespace Credbound.Memory

open Store

/-! ## Revoking -/

/-- `w` is `v`, revoked or as it was: they agree on the `rest` of the record. -/
def Stamped {V : Type} (revokedAt : V → Option Time) (rest : V → V) (v w : V) : Prop :=
  rest w = rest v ∧ (revokedAt v ≠ none → revokedAt w ≠ none)

theorem Stamped.refl {V : Type} {revokedAt : V → Option Time} {rest : V → V} (v : V) :
    Stamped revokedAt rest v v := ⟨rfl, id⟩

theorem Stamped.trans {V : Type} {revokedAt : V → Option Time} {rest : V → V} (u v w : V)
    (h : Stamped revokedAt rest u v) (h' : Stamped revokedAt rest v w) : Stamped revokedAt rest u w :=
  ⟨h'.1.trans h.1, fun hu => h'.2 (h.2 hu)⟩

/-- A grant without its revocation. -/
def grantRest (v : OAuthGrant) : OAuthGrant := { v with revokedAt := none, updatedAt := 0 }

/-- An access token without its revocation. -/
def accessRest (v : OAuthAccessToken) : OAuthAccessToken := { v with revokedAt := none }

/-- A refresh token without its revocation. -/
def refreshRest (v : OAuthRefreshToken) : OAuthRefreshToken := { v with revokedAt := none }

abbrev GrantStamped := Stamped OAuthGrant.revokedAt grantRest

abbrev AccessStamped := Stamped OAuthAccessToken.revokedAt accessRest

abbrev RefreshStamped := Stamped OAuthRefreshToken.revokedAt refreshRest

/-- `t` has the grants and tokens of `p`, some of them revoked. -/
structure Store.Revokes (p t : Store) : Prop where
  grants : FMap.Related GrantStamped p.oauthGrants t.oauthGrants
  access : FMap.Related AccessStamped p.oauthAccessTokens t.oauthAccessTokens
  refresh : FMap.Related RefreshStamped p.oauthRefreshTokens t.oauthRefreshTokens

namespace Store

theorem Revokes.refl (s : Store) : Revokes s s := ⟨.refl .refl _, .refl .refl _, .refl .refl _⟩

theorem Revokes.of_issued {p t : Store} (h : t.issued = p.issued) : Revokes p t := by
  obtain ⟨hgrants, haccess, hrefresh⟩ : t.oauthGrants = p.oauthGrants
      ∧ t.oauthAccessTokens = p.oauthAccessTokens ∧ t.oauthRefreshTokens = p.oauthRefreshTokens := by
    simpa only [issued, Prod.mk.injEq] using h
  exact ⟨hgrants ▸ .refl .refl _, haccess ▸ .refl .refl _, hrefresh ▸ .refl .refl _⟩

theorem Revokes.trans {p t u : Store} (h : Revokes p t) (h' : Revokes t u) : Revokes p u :=
  ⟨h.grants.trans Stamped.trans h'.grants, h.access.trans Stamped.trans h'.access,
    h.refresh.trans Stamped.trans h'.refresh⟩

/-- What is revoked after other maps were written. -/
theorem Revokes.after {p p' t : Store} (h : p'.Revokes t) (hp : p'.issued = p.issued) : p.Revokes t :=
  (Revokes.of_issued hp).trans h

theorem revokes_revokeUserCredentialsLocked (s : Store) (userID workspaceID : UUID) (at' : Time) :
    Revokes s (s.revokeUserCredentialsLocked userID workspaceID at') where
  grants := .mapVal fun _ v _ => by split; exacts [⟨rfl, fun _ => Option.some_ne_none _⟩, .refl v]
  access := .mapVal fun _ v _ => by split; exacts [⟨rfl, fun _ => Option.some_ne_none _⟩, .refl v]
  refresh := .mapVal fun _ v _ => by split; exacts [⟨rfl, fun _ => Option.some_ne_none _⟩, .refl v]

theorem Revokes.of_withdraws {p t : Store} (h : p.Withdraws t) : Revokes p t := by
  induction h with
  | refl => exact .refl p
  | other _ _ hissued ih => exact ih.trans (.of_issued hissued)
  | credentials _ userID workspaceID at' ih =>
    exact ih.trans (revokes_revokeUserCredentialsLocked _ userID workspaceID at')
  | sessions _ _ _ ih | scrub _ _ ih => exact ih.trans (.of_issued rfl)

theorem revokes_revokeOAuthGrantLocked (s : Store) (grantID : UUID) (at' : Time) :
    Revokes s (s.revokeOAuthGrantLocked grantID at') := by
  unfold revokeOAuthGrantLocked
  split
  · exact {
      grants := .modify .refl fun _ => ⟨rfl, fun _ => Option.some_ne_none _⟩
      access := .mapVal fun _ v _ => by split; exacts [⟨rfl, fun _ => Option.some_ne_none _⟩, .refl v]
      refresh := .mapVal fun _ v _ => by
        split
        exacts [⟨rfl, fun _ => Option.some_ne_none _⟩, .refl v] }
  · exact .refl s

theorem revokes_revokeOAuthGrantsWhere (s : Store) (p : OAuthGrant → Prop) [DecidablePred p]
    (at' : Time) : Revokes s (s.revokeOAuthGrantsWhere p at') :=
  Run.always (fun t id ht => ht.trans (t.revokes_revokeOAuthGrantLocked id at')) (.refl s) _

end Store

/-! ## The methods that revoke at most -/

/-- The method adds a grant or a token. -/
inductive Method.Issues : Method → Prop
  | grant (grant : OAuthGrant) (code : OAuthAuthorizationCode) :
      Issues (.op (.oauth (.createOAuthGrantAndCode grant code)))
  | exchange (codeID : UUID) (usedAt : Time) (access : OAuthAccessToken)
      (refresh : Option OAuthRefreshToken) :
      Issues (.op (.oauth (.consumeOAuthAuthorizationCode codeID usedAt access refresh)))
  | rotation (previousID : UUID) (usedAt : Time) (access : OAuthAccessToken)
      (refresh : OAuthRefreshToken) :
      Issues (.op (.oauth (.rotateOAuthRefreshToken previousID usedAt access refresh)))

theorem OAuthOp.revokes (op : OAuthOp) (h : ¬ Method.Issues (.op (.oauth op))) (commit : Commit)
    (p : Store) : p.Revokes (op.mutation.result commit p) := by
  cases op with
  | setOAuthIssuerDisabled _ disabled at' | setOAuthProtectedResourceDisabled _ disabled at'
  | setOAuthClientDisabled _ disabled at' =>
    cases disabled
    · exact .of_issued rfl
    · exact (revokes_revokeOAuthGrantsWhere _ _ at').after rfl
  | revokeOAuthGrant grantID at' => exact p.revokes_revokeOAuthGrantLocked grantID at'
  | revokeOAuthAccessToken id at' =>
    refine ⟨.refl .refl _, .modify .refl fun v => ?_, .refl .refl _⟩
    split
    · exact ⟨rfl, fun _ => Option.some_ne_none _⟩
    · exact .refl v
  | revokeOAuthRefreshFamily familyID at' =>
    refine ⟨.refl .refl _, .mapVal fun _ v _ => ?_, .mapVal fun _ v _ => ?_⟩
    all_goals
      split
      · exact ⟨rfl, fun _ => Option.some_ne_none _⟩
      · exact .refl v
  | createOAuthGrantAndCode grant code => exact absurd (.grant grant code) h
  | consumeOAuthAuthorizationCode codeID usedAt access refresh =>
    exact absurd (.exchange codeID usedAt access refresh) h
  | rotateOAuthRefreshToken previousID usedAt access refresh =>
    exact absurd (.rotation previousID usedAt access refresh) h
  | _ => exact .of_issued rfl

/-- **A method that adds no grant and no token revokes some of them at most.** -/
theorem Method.revokes {m : Method} {v : Mutation} (hv : m.view = some v) (h : ¬ m.Issues)
    (commit : Commit) (p : Store) : p.Revokes (v.result commit p) := by
  cases m with
  | op o =>
    obtain ⟨⟩ := hv
    cases o with
    | account op => exact (Revokes.of_withdraws (op.withdraws commit p)).trans (.of_issued rfl)
    | email op => exact .of_issued (op.leaves.comp (·.2) commit p)
    | factor op => exact .of_issued (op.leaves.comp (·.2.2) commit p)
    | workspace op => exact .of_withdraws (op.withdraws commit p)
    | directory op => exact .of_issued (op.leaves.comp (·.2) commit p)
    | oauth op => exact op.revokes h commit p
  | recordLoginFailure | useTOTP | consumeRecoveryCode | createWorkspaceDomain =>
    obtain ⟨⟩ := hv
    exact .of_issued rfl
  | claimEmailIssuance | setAuditFailure => cases hv

/-! ## A revoked grant -/

/-- The grant is stored, and revoked. -/
def Store.GrantRevoked (s : Store) (grantID : UUID) : Prop :=
  ∃ grant, s.oauthGrants.get? grantID = some grant ∧ grant.revokedAt ≠ none

theorem Store.GrantRevoked.congr {s t : Store} (h : s.SameCore t) {grantID : UUID}
    (hs : s.GrantRevoked grantID) : t.GrantRevoked grantID := by
  obtain ⟨_, rfl⟩ := h
  exact hs

theorem Store.Revokes.grantRevoked {p t : Store} (h : p.Revokes t) {grantID : UUID}
    (hp : p.GrantRevoked grantID) : t.GrantRevoked grantID := by
  obtain ⟨grant, hgrant, hrevoked⟩ := hp
  obtain ⟨grant', hgrant', hstamped⟩ := h.grants.get? hgrant
  exact ⟨grant', hgrant', hstamped.2 hrevoked⟩

/-- **A revoked grant stays revoked**, whatever is called. -/
theorem Call.keeps_revoked (c : Call) (s : Store) (grantID : UUID) (hs : s.GrantRevoked grantID) :
    (c.next s).GrantRevoked grantID := by
  refine c.next_preserves s (I := fun s => s.GrantRevoked grantID) ?_ hs
  intro v p hv _ hcheck hp
  generalize c.method = method at hv
  by_cases hissues : method.Issues
  · -- A new grant has an identifier of its own, and tokens are kept in other maps.
    cases hissues with
    | grant grant code =>
      obtain ⟨⟩ := hv
      simp only [Op.mutation, OAuthOp.mutation, createOAuthGrantAndCode, check_bind, require_eq_ok] at hcheck
      obtain ⟨-, -, -, -, -, hnew, -⟩ := hcheck
      obtain ⟨revoked, hrevoked, hstamp⟩ := hp
      exact ⟨revoked, FMap.get?_set_new hnew hrevoked, hstamp⟩
    | exchange codeID usedAt access refresh =>
      obtain ⟨⟩ := hv
      cases refresh <;> exact hp
    | rotation previousID usedAt access refresh =>
      obtain ⟨⟩ := hv
      exact hp
  · exact (Method.revokes hv hissues c.commit p).grantRevoked hp

/-- A committed `RevokeOAuthGrant` leaves the grant revoked. -/
theorem grantRevoked_of_revoke {grantID : UUID} {at' : Time} {commit : Commit} {ctx : Context}
    {s : Store} (h : (Call.run ⟨.op (.oauth (.revokeOAuthGrant grantID at')), commit, ctx⟩ s).1 = .ok ()) :
    (Call.next s ⟨.op (.oauth (.revokeOAuthGrant grantID at')), commit, ctx⟩).GrantRevoked grantID := by
  obtain ⟨p, t, -, hcheck, hwrite, hcore⟩ := Call.run_ok h
  have hmem : grantID ∈ p.oauthGrants := require_eq_ok.mp hcheck
  obtain ⟨grant, hgrant⟩ := FMap.mem_iff_get?.mp hmem
  obtain rfl : p.revokeOAuthGrantLocked grantID at' = t := Except.ok.inj hwrite
  refine GrantRevoked.congr hcore ⟨{ grant with revokedAt := some at', updatedAt := at' }, ?_,
    Option.some_ne_none _⟩
  rw [revokeOAuthGrantLocked, if_pos hmem, FMap.get?_modify, if_pos rfl, hgrant]
  rfl

/-! ## Grants under their own identifier -/

/-- Every grant is stored under its identifier. -/
def Store.GrantsKeyed (s : Store) : Prop := s.oauthGrants.All fun id grant => grant.id = id

theorem Call.keeps_grantsKeyed (c : Call) (s : Store) (hs : s.GrantsKeyed) : (c.next s).GrantsKeyed := by
  refine c.next_preserves s (I := fun s => s.GrantsKeyed) ?_ hs
  · intro v p hv _ _ hp
    generalize c.method = method at hv
    by_cases hissues : method.Issues
    · cases hissues with
      | grant grant code =>
        obtain ⟨⟩ := hv
        exact FMap.All.set hp rfl
      | exchange codeID usedAt access refresh =>
        obtain ⟨⟩ := hv
        cases refresh <;> exact hp
      | rotation previousID usedAt access refresh =>
        obtain ⟨⟩ := hv
        exact hp
    · intro id grant hgrant
      obtain ⟨grant', hgrant', hstamped⟩ := (Method.revokes hv hissues c.commit p).grants.of_get? hgrant
      exact (congrArg OAuthGrant.id hstamped.1).trans (hp id grant' hgrant')

theorem grantsKeyed_after (calls : List Call) : (Store.after calls).GrantsKeyed := by
  have hnew : Store.new.GrantsKeyed := FMap.All.empty
  exact Run.always (fun s c hs => c.keeps_grantsKeyed s hs) hnew calls

end Credbound.Memory
