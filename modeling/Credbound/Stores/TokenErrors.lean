import Credbound.Manager.TokenCalls
import Credbound.Stores.Replays

/-!
# Stores/TokenErrors — what an error of the token endpoint leaves behind

Both stores keep the ledger that `Manager/TokenCalls` asks for.

* `token_error_spares_iff` — an error of `ExchangeOAuthAuthorizationCode` or `RefreshOAuthToken` leaves the code, the
  tokens and every other record as they were, or a revocation it reports, exactly if the ID Token that the stored
  tokens call for is always issued.
* `error_after_commit` — the ID Token is signed after the commit: with OIDC disabled since the consent, the exchange
  fails, the code is used up and the tokens stay.
-/

namespace Credbound

open Manager

/-! ## The memory store -/

namespace Memory

theorem known_iff {s : Store} {pfx : String} : backend.Known s pfx ↔ pfx ∈ s.oauthAccessKeys := by
  rw [FMap.mem_iff_get?]
  show (∃ token, (byIndex s.oauthAccessKeys s.oauthAccessTokens pfx).toExcept = .ok token) ↔ _
  rw [byIndex]
  cases s.oauthAccessKeys.get? pfx with
  | none => exact iff_of_false (fun ⟨_, h⟩ => nomatch h) (fun ⟨_, h⟩ => nomatch h)
  | some id => exact iff_of_true ⟨_, rfl⟩ ⟨_, rfl⟩

theorem Store.SameCore.oauthAccessKeys {s t : Store} (h : s.SameCore t) : t.oauthAccessKeys = s.oauthAccessKeys := by
  obtain ⟨_, rfl⟩ := h
  rfl

variable {u : Update}

/-- The write that stores an access token goes through. -/
theorem writes_of_stores {access : OAuthAccessToken} (hu : u.Stores access) (commit : Commit) (p : Store) :
    ∃ t, (updateOp u).mutation.write commit p = .ok t ∧ t.oauthAccessKeys = p.oauthAccessKeys.set access.pfx access.id := by
  cases u with
  | consumeOAuthAuthorizationCode codeID usedAt stored refresh =>
    obtain rfl := hu
    cases refresh with
    | none => exact ⟨_, rfl, rfl⟩
    | some refresh => exact ⟨_, rfl, rfl⟩
  | rotateOAuthRefreshToken previousID usedAt stored refresh =>
    obtain rfl := hu
    exact ⟨_, rfl, rfl⟩
  | _ => exact hu.elim

theorem fresh_of_stores {access : OAuthAccessToken} (hu : u.Stores access) {p : Store}
    (hcheck : (updateOp u).mutation.check p = .ok ()) : access.pfx ∉ p.oauthAccessKeys := by
  cases u with
  | consumeOAuthAuthorizationCode codeID usedAt stored refresh =>
    obtain rfl := hu
    obtain ⟨_, -, hrest⟩ := check_bind.mp hcheck
    obtain ⟨_, -, hrest⟩ := check_bind.mp hrest
    obtain ⟨_, hfresh, -⟩ := check_bind.mp hrest
    exact require_eq_ok.mp hfresh
  | rotateOAuthRefreshToken previousID usedAt stored refresh =>
    obtain rfl := hu
    obtain ⟨_, -, hrest⟩ := check_bind.mp hcheck
    obtain ⟨_, -, hrest⟩ := check_bind.mp hrest
    obtain ⟨_, -, hrest⟩ := check_bind.mp hrest
    obtain ⟨_, hfresh, -⟩ := check_bind.mp hrest
    exact require_eq_ok.mp hfresh
  | _ => exact hu.elim

theorem oauthAccessKeys_of_revokes (hu : u.Revokes) (commit : Commit) (p : Store) :
    ((updateOp u).mutation.result commit p).oauthAccessKeys = p.oauthAccessKeys := by
  cases u with
  | revokeOAuthGrant grantID at' =>
    show (p.revokeOAuthGrantLocked grantID at').oauthAccessKeys = _
    unfold Store.revokeOAuthGrantLocked
    split <;> rfl
  | revokeOAuthRefreshFamily familyID at' => rfl
  | _ => exact hu.elim

/-- **The memory store keeps the ledger.** -/
theorem backend_ledger : backend.Ledger where
  separate := backend_separate
  failing s ctx u commit access e hu herror := by
    have hsteps := (updateCall ctx u commit).steps s
    show backend.Untouched s ((updateCall ctx u commit).run s).2
    have hrun : ((updateCall ctx u commit).run s).1.toExcept = .error e := herror
    revert hsteps hrun
    generalize (updateCall ctx u commit).run s = outcome
    obtain ⟨o, t⟩ := outcome
    intro hsteps hrun
    cases hsteps with
    | idle _ _ hcore _ _ => exact fun ctx' α q hq => hcore.ask_eq ctx' q hq
    | wrote => cases hrun
    | panicked m p t hm _ _ _ hw =>
      obtain ⟨⟩ := hm
      obtain ⟨_, hgoes, -⟩ := writes_of_stores hu commit p
      cases hw.symm.trans hgoes
  storing s ctx u commit access hu hok := by
    obtain ⟨p, t, hp, hcheck, hwrite, ht⟩ := Call.run_ok (Outcome.toExcept_eq_ok.mp hok)
    obtain ⟨t', hgoes, hkeys⟩ := writes_of_stores hu commit p
    obtain rfl := Except.ok.inj (hwrite.symm.trans hgoes)
    constructor
    · rw [known_iff, ← hp.oauthAccessKeys]
      exact fresh_of_stores hu hcheck
    · rw [known_iff]
      have hnext : (backend.apply s ctx u commit).2.oauthAccessKeys = t.oauthAccessKeys := ht.oauthAccessKeys
      rw [hnext, hkeys]
      exact FMap.mem_iff_get?.mpr ⟨_, FMap.get?_set_self ..⟩
  revoking s ctx u commit pfx hu := by
    rw [known_iff, known_iff]
    refine (updateCall ctx u commit).next_preserves
      (I := fun x => pfx ∈ x.oauthAccessKeys → pfx ∈ s.oauthAccessKeys) s ?_ id
    intro m p hm _ _ h hp
    obtain ⟨⟩ := hm
    exact h (oauthAccessKeys_of_revokes hu commit p ▸ hp)

end Memory

/-! ## PostgreSQL -/

namespace Postgres

variable {pfx : String}

theorem known_iff {db : Database} :
    backend.Known db pfx ↔ db.oauthAccessTokens.Any fun _ row => row.pfx = pfx := by
  rw [← FMap.exists_find?]
  show (∃ token, ((foundRow (db.oauthAccessTokens.find? fun _ row => row.pfx = pfx)).map AccessTokenRow.data)
    = .ok token) ↔ _
  cases db.oauthAccessTokens.find? fun _ row => row.pfx = pfx with
  | none => exact iff_of_false (fun ⟨_, h⟩ => nomatch h) (fun ⟨_, h⟩ => nomatch h)
  | some row => exact iff_of_true ⟨_, rfl⟩ ⟨_, rfl⟩

theorem Database.SameTables.oauthAccessTokens {db db' : Database} (h : db.SameTables db') :
    db'.oauthAccessTokens = db.oauthAccessTokens := by
  obtain ⟨_, _, _, _, rfl⟩ := h
  rfl

variable {db written : Database}

theorem insertOAuthAccessToken_eq {access : OAuthAccessToken} (h : db.insertOAuthAccessToken access = .ok written) :
    ¬ (db.oauthAccessTokens.Any fun _ row => row.pfx = access.pfx)
      ∧ written.oauthAccessTokens.Any fun _ row => row.pfx = access.pfx := by
  simp only [Database.insertOAuthAccessToken, constraint, check_bind, require_eq_ok, check_pure] at h
  obtain ⟨-, -, -, hfresh, -, -, rfl⟩ := h
  exact ⟨hfresh, access.id, _, FMap.get?_set_self .., rfl⟩

theorem insertOAuthRefreshToken_eq {refresh : OAuthRefreshToken}
    (h : db.insertOAuthRefreshToken refresh = .ok written) : written.oauthAccessTokens = db.oauthAccessTokens := by
  simp only [Database.insertOAuthRefreshToken, constraint, check_bind, require_eq_ok, check_pure] at h
  obtain ⟨-, -, -, -, -, -, rfl⟩ := h
  rfl

theorem tokens_of_stores {u : Update} {access : OAuthAccessToken} (hu : u.Stores access)
    (h : updateMethod u db = .ok written) :
    ¬ (db.oauthAccessTokens.Any fun _ row => row.pfx = access.pfx)
      ∧ written.oauthAccessTokens.Any fun _ row => row.pfx = access.pfx := by
  cases u with
  | consumeOAuthAuthorizationCode codeID usedAt stored refresh =>
    obtain rfl := hu
    simp only [updateMethod, consumeOAuthAuthorizationCode, check_bind] at h
    obtain ⟨row, -, -, -, inserted, hinsert, h⟩ := h
    have htokens := insertOAuthAccessToken_eq hinsert
    cases refresh with
    | none =>
      obtain ⟨⟩ := h
      exact htokens
    | some refresh => exact ⟨htokens.1, insertOAuthRefreshToken_eq h ▸ htokens.2⟩
  | rotateOAuthRefreshToken previousID usedAt stored refresh =>
    obtain rfl := hu
    simp only [updateMethod, rotateOAuthRefreshToken, check_bind] at h
    obtain ⟨row, -, -, -, -, -, inserted, hinsert, h⟩ := h
    have htokens := insertOAuthAccessToken_eq hinsert
    exact ⟨htokens.1, insertOAuthRefreshToken_eq h ▸ htokens.2⟩
  | _ => exact hu.elim

theorem any_update {m : FMap UUID AccessTokenRow} {p : UUID → AccessTokenRow → Prop} [∀ k v, Decidable (p k v)]
    {at' : Time} (h : (m.update p (Database.stampAccessToken at')).Any fun _ row => row.pfx = pfx) :
    m.Any fun _ row => row.pfx = pfx := by
  obtain ⟨id, row, hrow, hpfx⟩ := h
  rw [FMap.get?_update] at hrow
  obtain ⟨old, hold, rfl⟩ := Option.map_eq_some_iff.mp hrow
  refine ⟨id, old, hold, ?_⟩
  split at hpfx
  · exact hpfx
  · exact hpfx

theorem tokens_of_revokes {u : Update} (hu : u.Revokes) (h : updateMethod u db = .ok written)
    (hknown : written.oauthAccessTokens.Any fun _ row => row.pfx = pfx) :
    db.oauthAccessTokens.Any fun _ row => row.pfx = pfx := by
  cases u with
  | revokeOAuthGrant grantID at' =>
    obtain ⟨row, -, hwritten⟩ := check_bind.mp h
    obtain ⟨⟩ := hwritten
    exact any_update hknown
  | revokeOAuthRefreshFamily familyID at' =>
    obtain ⟨_, -, hwritten⟩ := check_bind.mp h
    obtain ⟨⟩ := hwritten
    exact any_update hknown
  | _ => exact hu.elim

/-- **The PostgreSQL store keeps the ledger.** -/
theorem backend_ledger : backend.Ledger where
  separate := backend_separate
  failing db ctx u commit access e _ herror := by
    obtain ⟨_, h⟩ | ⟨_, _, _, -, -, -, h⟩ := transact_cases ctx commit u db
    · intro ctx' α q _
      show (transact ctx commit u db).2.ask ctx' q = _
      rw [h]
      rfl
    · have hfailed : (transact ctx commit u db).1.toExcept = .error e := herror
      rw [h] at hfailed
      cases hfailed
  storing db ctx u commit access hu hok := by
    obtain ⟨e, h⟩ | ⟨begun, written, db', hbegun, hwritten, hlog, h⟩ := transact_cases ctx commit u db
    · have hcommitted : (transact ctx commit u db).1.toExcept = .ok () := hok
      rw [h] at hcommitted
      cases hcommitted
    · obtain ⟨hfresh, hstored⟩ := tokens_of_stores hu hwritten
      rw [known_iff, known_iff, ← hbegun.oauthAccessTokens]
      refine ⟨hfresh, ?_⟩
      show (transact ctx commit u db).2.oauthAccessTokens.Any _
      rw [h, hlog.oauthAccessTokens]
      exact hstored
  revoking db ctx u commit pfx hu hknown := by
    rw [known_iff] at hknown ⊢
    have hafter : (transact ctx commit u db).2.oauthAccessTokens.Any fun _ row => row.pfx = pfx := hknown
    obtain ⟨e, h⟩ | ⟨begun, written, db', hbegun, hwritten, hlog, h⟩ := transact_cases ctx commit u db
    · rw [h] at hafter
      exact hafter
    · rw [h, hlog.oauthAccessTokens] at hafter
      rw [← hbegun.oauthAccessTokens]
      exact tokens_of_revokes hu hwritten hafter

end Postgres

theorem StoreKind.ledger : (kind : StoreKind) → kind.backend.Ledger
  | .memory => Memory.backend_ledger
  | .postgresql => Postgres.backend_ledger

/-! ## Either store -/

namespace Stores

/-- The tenant's code with the scope `openid`, not used yet. -/
def consentedCalls : List Memory.Call :=
  tenantCalls ++ [tenantCall (.oauth (.createOAuthGrantAndCode (tenantGrant ["openid"]) (tenantCode ["openid"]))) 11]

/-- …and the same after the issuer has OIDC disabled. -/
def withdrawnCalls : List Memory.Call :=
  consentedCalls ++ [tenantCall (.oauth (.updateOAuthIssuer { tenantIssuer with oidcEnabled := false })) 12]

/-- What the exchange of the code answers and leaves. -/
def exchanged (calls : List Memory.Call) : Except Err OAuthTokenResponse × Memory.Store :=
  ((TokenCall.exchange tenantExchange).action tenantManager {} (tenantSupply 100)).program.exec Memory.backend.handler
    (Memory.Store.after calls)

/-- When the code was used, as the store tells. -/
def codeUsedAt (s : Memory.Store) : Option (Option Time) :=
  (Memory.backend.ask s {} (.oauthAuthorizationCodeByPrefix "0123456789ab")).toOption.map OAuthAuthorizationCode.usedAt

set_option maxRecDepth 4000 in
theorem exchanged_consented : (exchanged consentedCalls).1.isOk = true := by
  rfl

set_option maxRecDepth 4000 in
theorem exchanged_withdrawn : (exchanged withdrawnCalls).1 = .error .notSupported
    ∧ codeUsedAt (Memory.Store.after withdrawnCalls) = some none
    ∧ codeUsedAt (exchanged withdrawnCalls).2 = some (some 1000) := by
  refine ⟨rfl, rfl, rfl⟩

/-- The exchange is an error, and what it leaves is not what an error is to leave. -/
theorem not_spared_withdrawn :
    Memory.backend.Returns ((TokenCall.exchange tenantExchange).action tenantManager {} (tenantSupply 100))
        (Memory.Store.after withdrawnCalls) (.error .notSupported) (exchanged withdrawnCalls).2
      ∧ ¬ Memory.backend.Spared (Memory.Store.after withdrawnCalls) .notSupported (exchanged withdrawnCalls).2 := by
  obtain ⟨hanswer, hbefore, hafter⟩ := exchanged_withdrawn
  refine ⟨Backend.returns_iff.mpr (Prod.ext hanswer rfl), ?_⟩
  rintro (hsame | ⟨hreplay, -⟩)
  · have hcode : codeUsedAt (exchanged withdrawnCalls).2 = codeUsedAt (Memory.Store.after withdrawnCalls) :=
      congrArg (fun answer => answer.toOption.map OAuthAuthorizationCode.usedAt)
        (hsame {} _ (.oauthAuthorizationCodeByPrefix "0123456789ab") id)
    rw [hbefore, hafter] at hcode
    cases hcode
  · cases hreplay

end Stores

end Credbound
