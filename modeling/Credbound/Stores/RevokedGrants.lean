import Credbound.Manager.RevokedGrant
import Credbound.Memory.Issued
import Credbound.Stores.Memberships

/-!
# Stores/RevokedGrants — a revoked grant in the memory store

`revoked_grant_refuses` is about any number of calls of the manager in any interleaving with one
another and with the other methods of the store: a grant that is revoked stays revoked, and every call
that starts after that with a code or a token derived from it fails, also with one that an exchange
on its way stores only then.
-/

namespace Credbound.Memory

open Manager (Request)

/-- A request leaves the store as one call leaves it, or as it was. -/
theorem backend_handler_next ⦃β : Type⦄ (r : Request β) (s : Store) :
    (backend.handler r s).2 = s ∨ ∃ c : Call, (backend.handler r s).2 = c.next s := by
  cases r with
  | query ctx q => exact .inl rfl
  | update ctx u commit => exact .inr ⟨updateCall ctx u commit, rfl⟩

theorem handler_keeps_revoked ⦃β : Type⦄ (r : Request β) (s : Store) {grantID : UUID}
    (hs : s.GrantRevoked grantID) : (backend.handler r s).2.GrantRevoked grantID := by
  obtain h | ⟨c, h⟩ := backend_handler_next r s
  · rwa [h]
  · rw [h]
    exact c.keeps_revoked s grantID hs

/-- A grant reads as it is stored. -/
theorem get?_of_ask_oauthGrant {s : Store} {ctx : Context} {grantID : UUID} {grant : OAuthGrant}
    (h : backend.ask s ctx (.oauthGrant grantID) = .ok grant) :
    s.oauthGrants.get? grantID = some grant := by
  have hread : backend.ask s ctx (.oauthGrant grantID)
      = (guarded ctx (orNotFound (s.oauthGrants.get? grantID))).toExcept := rfl
  rw [hread, guarded] at h
  split at h
  · cases h
  · cases hstored : s.oauthGrants.get? grantID with
    | none =>
      rw [hstored] at h
      cases h
    | some stored =>
      rw [hstored] at h
      exact congrArg some (Except.ok.inj h)

theorem ask_grantRevoked {s : Store} {grantID : UUID} (hs : s.GrantRevoked grantID) (ctx : Context)
    {grant : OAuthGrant} (h : backend.ask s ctx (.oauthGrant grantID) = .ok grant) :
    grant.revokedAt ≠ none := by
  obtain ⟨stored, hstored, hrevoked⟩ := hs
  obtain rfl := Option.some.inj (hstored.symm.trans (get?_of_ask_oauthGrant h))
  exact hrevoked

end Credbound.Memory

namespace Credbound.Stores

open Manager Memory

/-- The memory store, shared by calls of the manager and by other methods of the store. -/
abbrev Shared := Pool Request Store Bool

/-- One step: a call of the manager makes its next access, or another method runs. -/
abbrev Shared.step : Shared → Pool.Label Call → Shared := Pool.step Memory.backend.handler Call.next

/-- The calls of the store that a run amounts to. -/
abbrev Shared.calls (shared : Shared) (steps : List (Pool.Label Call)) : List Call :=
  shared.trace Memory.backend.handler Call.next requestCalls steps

/-- **A run of the shared store is a run of calls.** -/
theorem Shared.run_calls (shared : Shared) (steps : List (Pool.Label Call)) :
    (Run.run Shared.step shared steps).state = Run.run Call.next shared.state (shared.calls steps) :=
  Pool.run_trace backend_handler_run shared steps

/-- **Once a grant is revoked it stays revoked, and every call that starts with a code or a token
derived from it fails.** -/
theorem revoked_grant_refuses (shared : Shared) (i : ℕ) (steps : List (Pool.Label Call))
    (grantID : UUID) (m : Manager) (ctx : Context) (io : Supply) (call : GrantCall)
    (hrevoked : shared.state.GrantRevoked grantID)
    (hcall : shared.threads[i]? = some (call.program m ctx io))
    (hpresents : Run.Meets Shared.step (Pool.Admits (Presents Memory.backend grantID) i) shared steps) :
    (Run.run Shared.step shared steps).state.GrantRevoked grantID
      ∧ ∀ verdict, (Run.run Shared.step shared steps).threads[i]? = some (.ret verdict) →
        verdict = false := by
  have haccess := fun ⦃β : Type⦄ (r : Request β) (s : Store) (hs : s.GrantRevoked grantID) =>
    handler_keeps_revoked r s hs
  refine ⟨Pool.always haccess (fun s c hs => c.keeps_revoked s grantID hs) hrevoked steps, ?_⟩
  intro verdict hdone
  -- The others may take any state to any that keeps the revocation.
  let rely : Store → Store → Prop := fun s t => s.GrantRevoked grantID → t.GrantRevoked grantID
  obtain ⟨t, hrun, -⟩ := Pool.runs_of_run (R := rely) (fun _ => id) (fun _ _ _ h h' hs => h' (h hs))
    haccess (fun s c hs => c.keeps_revoked s grantID hs) hcall hpresents hdone
  refine GrantCall.refused (I := fun s : Store => s.GrantRevoked grantID) ⟨fun _ _ h => h, haccess, ?_⟩ call
    hrevoked hrun
  exact fun s ctx grant hs hread => ask_grantRevoked hs ctx hread

/-- The grant is revoked before the exchange that is on its way stores its tokens. -/
def lateStore : Store :=
  Store.after (tenantCalls ++ [
    tenantCall (.oauth (.createOAuthGrantAndCode (tenantGrant ["openid"]) (tenantCode ["openid"]))) 11,
    tenantCall (.oauth (.revokeOAuthGrant (uuidv7 50) 12)) 12,
    tenantCall (.oauth (.consumeOAuthAuthorizationCode (uuidv7 51) 13 (tenantAccessToken ["openid"])
      (some (tenantRefreshToken ["openid"])))) 13])

/-- A call that presents the late access token. -/
def lateShared : Shared where
  state := lateStore
  threads := [(GrantCall.authenticateOAuthAccessToken "" (tenantBearer "cba")).program tenantManager {}
    (tenantSupply 100)]

/-- The late token is refused. -/
theorem late_token_refused :
    let run := Run.run Shared.step lateShared [.thread 0, .thread 0, .thread 0]
    run.threads[0]? = some (.ret false) ∧ run.state.GrantRevoked (uuidv7 50)
      ∧ ∀ verdict, run.threads[0]? = some (.ret verdict) → verdict = false := by
  have hread : Memory.backend.ask lateStore {} (.oauthAccessTokenByPrefix "0123456789ab")
      = .ok (tenantAccessToken ["openid"]) := rfl
  have hpresents : Presents Memory.backend (uuidv7 50)
      (.query {} (.oauthAccessTokenByPrefix "0123456789ab")) lateStore := by
    refine ⟨fun h => ?_, fun token h => ?_⟩
    · cases hread.symm.trans h
    · obtain rfl := Except.ok.inj (hread.symm.trans h)
      rfl
  exact ⟨rfl, revoked_grant_refuses lateShared 0 _ (uuidv7 50) tenantManager {} (tenantSupply 100)
    (.authenticateOAuthAccessToken "" (tenantBearer "cba")) ⟨_, rfl, Option.some_ne_none _⟩ rfl
    ⟨fun _ => hpresents, fun _ => trivial, fun _ => trivial, trivial⟩⟩

end Credbound.Stores
