import Credbound.Manager.FamilyCalls
import Credbound.Memory.Families
import Credbound.Stores.Replays

/-!
# Stores/Families — refresh tokens in the memory store

`refresh_families` is about exchanges, refreshes and revocations in any interleaving with one another
and with the other methods of the store, where new tokens get new identifiers: a family has one live
token at most, its tokens form one chain in the order they were issued in, and after
`RevokeOAuthRefreshFamily` it has no live token again.
-/

namespace Credbound.Stores

open Manager Memory

/-- The refresh tokens a request of the manager adds are unused when it says so. -/
theorem addsUnused_of_storesUnused {β : Type} {r : Request β} (hr : StoresUnused r) {c : Call}
    (hc : c ∈ requestCalls r) : c.method.AddsUnused := by
  cases r with
  | query ctx q => cases hc
  | update ctx u commit =>
    obtain rfl := List.mem_singleton.mp hc
    cases u with
    | consumeOAuthAuthorizationCode codeID usedAt access refresh => exact hr
    | rotateOAuthRefreshToken previousID usedAt access refresh =>
      rintro _ ⟨⟩
      exact hr
    | _ => exact fun _ h => nomatch h

/-- **One live token at most, one chain, and no live token after a revocation.** -/
theorem refresh_families (shared : Shared) (steps : List (Pool.Label Call))
    (hstart : shared.state = Store.new)
    (hthreads : ∀ p ∈ shared.threads,
      ∃ (m : Manager) (ctx : Context) (io : Supply) (call : FamilyCall), p = call.program m ctx io)
    (hothers : ∀ c, .other c ∈ steps → c.method.refreshToken? = none)
    (hfresh : Run.Meets Call.next (fun s c => c.method.FreshRefresh s.oauthRefreshTokens) Store.new
      (shared.calls steps)) :
    let tokens := (Run.run Shared.step shared steps).state.oauthRefreshTokens
    (∀ id id' v v', tokens.get? id = some v → tokens.get? id' = some v' → v.familyID = v'.familyID →
        Live v → Live v' → id = id')
      ∧ (∀ familyID, FamilyLineage tokens familyID
        (familyOf familyID (issuedRefreshTokens (shared.calls steps))))
      ∧ ∀ before later familyID at' commit ctx,
        shared.calls steps
            = before ++ ⟨.op (.oauth (.revokeOAuthRefreshFamily familyID at')), commit, ctx⟩ :: later →
        (Call.run ⟨.op (.oauth (.revokeOAuthRefreshFamily familyID at')), commit, ctx⟩
          (Store.after before)).1 = .ok () →
        tokens.All fun _ v => v.familyID = familyID → ¬ Live v := by
  have hunused : ∀ c ∈ shared.calls steps, c.method.AddsUnused := by
    intro c hc
    have hemits : ∀ p ∈ shared.threads, p.Emits StoresUnused := by
      intro p hp
      obtain ⟨m, ctx, io, call, rfl⟩ := hthreads p hp
      exact call.storesUnused m ctx io
    obtain hother | ⟨β, r, hr, hcr⟩ := Pool.mem_trace hemits hc
    · exact fun token htoken => by simp [hothers c hother] at htoken
    · exact addsUnused_of_storesUnused hr hcr
  have hguard : Run.Meets Call.next Call.IssuesNew Store.new (shared.calls steps) :=
    hfresh.and_mem hunused
  rw [shared.run_calls steps, hstart]
  have hlineage := family_lineage hguard
  refine ⟨fun id id' v v' hv hv' hsame hlive hlive' => ?_, hlineage, ?_⟩
  · exact (hlineage v'.familyID).eq_of_next_none hv hsame (congrArg (Option.map _) hlive.1) hv' rfl
      (congrArg (Option.map _) hlive'.1)
  · intro before later familyID at' commit ctx hcalls hcommitted
    rw [hcalls] at hguard ⊢
    obtain ⟨-, -, hlater⟩ := Run.meets_append.mp hguard
    rw [Run.run_append, Run.run_cons]
    have hended := Run.invariant (I := fun s : Store => FamilyEnded s.oauthRefreshTokens familyID)
      (fun s c hs hc => c.keeps_familyEnded s hc hs) (familyEnded_of_revoke hcommitted) hlater
    exact hended.2

/-! ## A family from its first token to its end -/

/-- The code is exchanged, the token is refreshed, and the family is revoked by its first token. -/
def familyShared : Shared where
  state := Store.new
  threads := [
    (FamilyCall.exchangeOAuthAuthorizationCode tenantExchange).program tenantManager {}
      { tenantSupply 100 with newOAuthBearer := fun _ => .ok ("0123456789ab", "raw") },
    (FamilyCall.refreshOAuthToken tenantRefresh).program tenantManager {} (tenantSupply 200),
    (FamilyCall.revokeOAuthToken { tenantRefresh with token := tenantBearer "cbr" }).program
      tenantManager {} (tenantSupply 300)]

def familySteps : List (Pool.Label Call) :=
  tenantCalls.map .other ++ [.other (tenantCall (.oauth (.createOAuthGrantAndCode
      (tenantGrant ["offline_access"]) (tenantCode ["offline_access"]))) 11)]
    ++ List.replicate 9 (.thread 0) ++ List.replicate 9 (.thread 1) ++ List.replicate 4 (.thread 2)

set_option maxRecDepth 4000 in
/-- The two tokens of the family are one chain, and after the revocation neither is live. -/
theorem family_ends :
    let run := Run.run Shared.step familyShared familySteps
    run.threads = [.ret true, .ret true, .ret true]
      ∧ FamilyLineage run.state.oauthRefreshTokens (uuidv7 113) [uuidv7 212, uuidv7 112]
      ∧ run.state.oauthRefreshTokens.All fun _ v => v.familyID = uuidv7 113 → ¬ Live v := by
  have hthreads : ∀ p ∈ familyShared.threads,
      ∃ (m : Manager) (ctx : Context) (io : Supply) (call : FamilyCall), p = call.program m ctx io := by
    intro p hp
    obtain rfl | rfl | rfl : p = _ ∨ p = _ ∨ p = _ := by
      simpa only [familyShared, List.mem_cons, List.not_mem_nil, or_false] using hp
    all_goals exact ⟨_, _, _, _, rfl⟩
  have hothers : ∀ c, .other c ∈ familySteps → c.method.refreshToken? = none := by
    have hall : familySteps.all (fun
        | .other c => c.method.refreshToken?.isNone
        | .thread _ => true) = true := rfl
    exact fun c hc => Option.isNone_iff_eq_none.mp (List.all_eq_true.mp hall _ hc)
  have hfresh : Run.Meets Call.next (fun s c => c.method.FreshRefresh s.oauthRefreshTokens) Store.new
      (familyShared.calls familySteps) :=
    ⟨trivial, trivial, trivial, trivial, trivial, trivial,
      ⟨FMap.get?_eq_none.mp rfl, FMap.All.empty⟩, FMap.get?_eq_none.mp rfl, trivial, trivial⟩
  obtain ⟨-, hlineage, hrevoked⟩ := refresh_families familyShared familySteps rfl hthreads hothers hfresh
  exact ⟨rfl, hlineage (uuidv7 113),
    hrevoked ((familyShared.calls familySteps).take 8) [] (uuidv7 113) _ _ _ rfl rfl⟩

end Credbound.Stores
