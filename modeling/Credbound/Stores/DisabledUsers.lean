import Credbound.Manager.DisabledUser
import Credbound.Memory.Tokens
import Credbound.Stores.Sessions

/-!
# Stores/DisabledUsers — signing in while the user is disabled, over the memory store

A sign-in runs over the memory store, interleaved access by access with other functions and any other
calls.  If a user is disabled all along, the sign-in returns no authentication of that user and leaves the
user's credentials as they are (`disabled_user_refused`), unless it links an external identity to the user:
`finishSSOLink` does not look at the account (`disabled_user_linked`).
-/

namespace Credbound.Stores

open Accounts Manager Memory

/-- **The user is disabled**: there is an account, and whatever the store returns under the identifier or
with it says so. -/
def DisabledUser (u : UUID) (s : Store) : Prop :=
  u ∈ s.users ∧ ∀ k, k = u ∨ (s.users.getI k).id = u → (s.users.getI k).disabled = true

/-- The credentials of the user, pending proofs included, are the same in both states. -/
structure CredentialsKept (u : UUID) (s t : Store) : Prop where
  password : t.passwords.get? u = s.passwords.get? u
  totp : t.totp.get? u = s.totp.get? u
  recovery : t.recovery.get? u = s.recovery.get? u
  passkeys : t.passkeys.get? u = s.passkeys.get? u
  pats : t.pats.filter (fun _ v => v.userID = u) = s.pats.filter (fun _ v => v.userID = u)
  sessions : t.sessions.filter (fun _ v => v.userID = u) = s.sessions.filter (fun _ v => v.userID = u)
  ssoIdentities : t.ssoIdentities.filter (fun _ v => v.userID = u)
    = s.ssoIdentities.filter (fun _ v => v.userID = u)
  emailAuths : t.emailAuths.filter (fun _ v => v.userID = u)
    = s.emailAuths.filter (fun _ v => v.userID = u)
  passwordResets : t.passwordResets.filter (fun _ v => v.userID = u)
    = s.passwordResets.filter (fun _ v => v.userID = u)

variable {u : UUID} {owners : TokenOwners} {s t : Store}

theorem CredentialsKept.refl (u : UUID) (s : Store) : CredentialsKept u s s :=
  ⟨rfl, rfl, rfl, rfl, rfl, rfl, rfl, rfl, rfl⟩

/-- The owners of the tokens and sessions of a store. -/
def ownersOf (s : Store) : TokenOwners where
  pat id := (s.pats.getI id).userID
  session id := (s.sessions.getI id).userID

/-- The tokens and sessions of the store belong to their owners. -/
structure OwnersAgree (owners : TokenOwners) (s : Store) : Prop where
  pats : ∀ id v, s.pats.get? id = some v → owners.pat id = v.userID
  sessions : ∀ id v, s.sessions.get? id = some v → owners.session id = v.userID

/-- A token keeps its owner. -/
theorem ownersAgree_of_grow (h : TokensGrow s t) : OwnersAgree (ownersOf t) s := by
  constructor <;> intro id v hv
  · obtain ⟨v', hv', hlater⟩ := h.pats.kept id v hv
    exact (congrArg PAT.userID (FMap.getI_of_get? hv')).trans hlater.userID
  · obtain ⟨v', hv', hlater⟩ := h.sessions.kept id v hv
    exact (congrArg Session.userID (FMap.getI_of_get? hv')).trans hlater.userID

/-! ## The store while the user is disabled -/

/-- A record that is read through an index is the one the index leads to. -/
theorem getI_of_read {K V : Type} [DecidableEq K] [Inhabited V] {ctx : Context} {index : FMap K UUID}
    {m : FMap UUID V} {k : K} {v : V} (h : (guarded ctx (byIndex index m k)).toExcept = .ok v) :
    ∃ id, index.get? k = some id ∧ m.getI id = v :=
  Option.map_eq_some_iff.mp (get?_of_read h)

/-- **The answers of the store.** -/
theorem disabledAnswers (hs : DisabledUser u s) (hfiled : TokensFiled s) (howners : OwnersAgree owners s)
    ⦃β : Type⦄ (e : Access β) : DisabledAnswers u owners e (Memory.access e s).1 := by
  cases e with
  | read ctx q =>
    cases q with
    | userByID id =>
      intro user huser hu
      obtain rfl := FMap.getI_of_get? (get?_of_read huser)
      exact hs.2 id hu
    | userByEmail email =>
      intro user huser hu
      obtain ⟨id, -, rfl⟩ := getI_of_read huser
      exact hs.2 id (.inr hu)
    | patByPrefix pfx =>
      intro pat hpat
      obtain ⟨id, hid, rfl⟩ := getI_of_read hpat
      obtain ⟨pat, hpat⟩ := FMap.mem_iff_get?.mp (hfiled.prefixes pfx id hid)
      rw [FMap.getI_of_get? hpat, hfiled.pats id pat hpat]
      exact howners.pats id pat hpat
    | sessionByID id =>
      intro session hsession
      have hsession := get?_of_read hsession
      rw [hfiled.sessions id session hsession]
      exact howners.sessions id session hsession
    | _ => trivial
  | write ctx op commit =>
    cases op with
    | directory op =>
      cases op with
      | jitProvisionSSOUser user email membership identity =>
        intro hu hok
        obtain ⟨p, _, hcore, hcheck, -, -⟩ := Call.run_ok (Outcome.toExcept_eq_ok.mp hok)
        simp only [Op.mutation, DirectoryOp.mutation, Memory.jitProvisionSSOUser, check_bind,
          require_eq_ok] at hcheck
        obtain ⟨_, hnew, -⟩ := hcheck
        obtain ⟨_, rfl⟩ := hcore
        exact hnew (hu ▸ hs.1)
      | _ => trivial
    | _ => trivial
  | _ => trivial

section Kept

variable (hs : DisabledUser u s) (howners : OwnersAgree owners s)

include hs howners

/-- What a spared operation writes. -/
theorem kept_of_result {op : Op} (hop : SparesOp u owners op) {commit : Commit}
    (hc : op.mutation.check s = .ok ()) : CredentialsKept u s (op.mutation.result commit s) := by
  have hrefl := CredentialsKept.refl u s
  cases op with
  | account op =>
    cases op with
    | rehashPassword credential previousHash =>
      exact { hrefl with password := FMap.get?_set_ne _ _ (Ne.symm hop) }
    | recordPasswordAuthentication userID hash seenAt => exact { hrefl with }
    | consumeEmailAuthentication tokenID userID at' completesLogin =>
      simp only [Op.mutation, AccountOp.mutation, Memory.consumeEmailAuthentication, check_bind,
        find_eq_ok, require_eq_ok] at hc
      obtain ⟨credential, hcredential, _, howner, -⟩ := hc
      have hother : ∀ v, s.emailAuths.get? tokenID = some v → v.userID ≠ u := by
        intro v hv
        rw [← Option.mem_unique hcredential hv, howner]
        exact hop
      cases completesLogin <;>
        exact { hrefl with emailAuths := FMap.filter_modify fun v hv => ⟨hother v hv, hother v hv⟩ }
    | _ => exact hop.elim
  | factor op =>
    cases op with
    | touchPasskey userID credentialID credentialJSON usedAt =>
      exact { hrefl with passkeys := FMap.get?_set_ne _ _ (Ne.symm hop) }
    | touchPAT id usedAt =>
      have hother : ∀ v, s.pats.get? id = some v → v.userID ≠ u :=
        fun v hv heq => hop ((howners.pats id v hv).trans heq)
      exact { hrefl with pats := FMap.filter_modify fun v hv => ⟨hother v hv, hother v hv⟩ }
    | touchSession id at' =>
      have hother : ∀ v, s.sessions.get? id = some v → v.userID ≠ u :=
        fun v hv heq => hop ((howners.sessions id v hv).trans heq)
      exact { hrefl with sessions := FMap.filter_modify fun v hv => ⟨hother v hv, hother v hv⟩ }
    | _ => exact hop.elim
  | workspace op =>
    cases op with
    | appendAudit => exact { hrefl with }
    | _ => exact hop.elim
  | directory op =>
    cases op with
    | touchSSO userID identityID usedAt =>
      simp only [Op.mutation, DirectoryOp.mutation, Memory.touchSSO, check_bind, find_eq_ok,
        require_eq_ok] at hc
      obtain ⟨identity, hidentity, howner⟩ := hc
      have hother : ∀ v, s.ssoIdentities.get? identityID = some v → v.userID ≠ u := by
        intro v hv
        rw [← Option.mem_unique hidentity hv, howner]
        exact hop
      exact { hrefl with ssoIdentities := FMap.filter_modify fun v hv => ⟨hother v hv, hother v hv⟩ }
    | linkSSO identity =>
      simp only [Op.mutation, DirectoryOp.mutation, Memory.linkSSO, check_bind, require_eq_ok] at hc
      obtain ⟨_, -, _, hnew, -⟩ := hc
      have hidentities := FMap.filter_set (p := fun _ (v : SSOIdentity) => v.userID = u)
        (fun w hw => absurd (FMap.mem_of_get? hw) hnew) hop
      have hkept : CredentialsKept u s (s.putSSOIdentity identity) :=
        { hrefl with ssoIdentities := hidentities }
      simp only [Op.mutation, DirectoryOp.mutation, Memory.linkSSO, Mutation.result, reached]
      split <;> exact { hkept with }
    | jitProvisionSSOUser user email membership identity =>
      simp only [Op.mutation, DirectoryOp.mutation, Memory.jitProvisionSSOUser, check_bind,
        require_eq_ok] at hc
      obtain ⟨_, hnewUser, _, -, _, -, _, hnew, -⟩ := hc
      have howner : identity.userID = user.id := hop
      have hother : identity.userID ≠ u := fun heq => hnewUser (howner.symm.trans heq ▸ hs.1)
      have hidentities := FMap.filter_set (p := fun _ (v : SSOIdentity) => v.userID = u)
        (fun w hw => absurd (FMap.mem_of_get? hw) hnew) hother
      exact { hrefl with ssoIdentities := hidentities }
    | _ => exact hop.elim
  | _ => exact hop.elim

/-- **A spared access leaves the credentials of the user.** -/
theorem kept_of_spares ⦃β : Type⦄ (e : Access β) (he : Spares u owners e) :
    CredentialsKept u s (Memory.access e s).2 := by
  have hkeep : ∀ {p : Store}, s.SameCore p → DisabledUser u p ∧ OwnersAgree owners p := by
    rintro p ⟨_, rfl⟩
    exact ⟨hs, { howners with }⟩
  rw [access_run]
  cases e with
  | write ctx op commit =>
    refine Call.next_preserves ⟨.op op, commit, ctx⟩ s ?_ (.refl u s)
    intro m p hm hcore hc hp
    obtain ⟨⟩ := hm
    obtain ⟨hdisabled, hagree⟩ := hkeep hcore
    have hwrote : CredentialsKept u p (op.mutation.result commit p) := kept_of_result hdisabled hagree he hc
    obtain ⟨_, rfl⟩ := hcore
    exact { hwrote with }
  | recordLoginFailure ctx userID at' threshold lockedUntil commit =>
    refine Call.next_preserves ⟨.recordLoginFailure userID at' threshold lockedUntil, commit, ctx⟩ s ?_
      (.refl u s)
    intro m p hm _ _ hp
    cases hm
    exact { hp with }
  | useTOTP ctx userID step commit =>
    refine Call.next_preserves ⟨.useTOTP userID step, commit, ctx⟩ s ?_ (.refl u s)
    intro m p hm _ _ hp
    cases hm
    exact { hp with totp := (FMap.get?_set_ne _ _ (Ne.symm he)).trans hp.totp }
  | consumeRecoveryCode ctx userID digest usedAt commit =>
    refine Call.next_preserves ⟨.consumeRecoveryCode userID digest usedAt, commit, ctx⟩ s ?_ (.refl u s)
    intro m p hm _ _ hp
    cases hm
    exact { hp with recovery := (FMap.get?_set_ne _ _ (Ne.symm he)).trans hp.recovery }
  | claimEmailIssuance ctx key purpose at' notBefore =>
    exact Call.next_preserves ⟨.claimEmailIssuance key purpose at' notBefore, { audit := default }, ctx⟩ s
      (fun _ _ hm => nomatch hm) (.refl u s)
  | request r =>
    cases r with
    | query => exact .refl u s
    | update => exact he.elim
  | read | scimUsers | scimGroups => exact .refl u s

end Kept

/-! ## Runs -/

theorem accessTokensGrow ⦃β : Type⦄ (e : Access β) (s : Store) : TokensGrow s (Memory.access e s).2 :=
  Memory.access_keeps (I := fun t => TokensGrow s t) (fun t c h => h.trans (c.tokensGrow t)) e s (.refl s)

/-- **A disabled user is not signed in**: while the user is disabled, a call that links no identity to the
user returns no authentication of the user, and none of its accesses changes a credential of the user. -/
theorem disabled_user_refused (m : Accounts) (ctx : Context) (io : AccountSupply) (call : SignInCall)
    (u : UUID) (history : List Call) (threads : List (Program Access (Except Err Authentication)))
    (labels : List (Pool.Label Call)) (i : ℕ)
    (hi : threads[i]? = some (call.routine m ctx io).program) (hlink : ¬ call.Links m io u)
    (hdisabled : Run.Meets Signing.step (fun pool _ => DisabledUser u pool.state)
      ⟨Store.after history, threads⟩ labels) :
    (∀ authn, (Run.run Signing.step ⟨Store.after history, threads⟩ labels).threads[i]?
        = some (.ret (.ok authn)) → authn.userID ≠ u)
      ∧ ∀ ⦃β : Type⦄ (e : Access β) (s : Store),
        Signing.MadeAt ⟨Store.after history, threads⟩ labels i e s →
        CredentialsKept u s (Memory.access e s).2 := by
  -- Tokens and sessions belong to whom they belong to in the end.
  let owners := ownersOf (Run.run Signing.step ⟨Store.after history, threads⟩ labels).state
  have hgrow : Run.Meets Signing.step (fun pool _ => TokensGrow pool.state
      (Run.run Signing.step ⟨Store.after history, threads⟩ labels).state) ⟨Store.after history, threads⟩ labels :=
    Pool.meets_leads TokensGrow.refl (fun _ _ _ => .trans) accessTokensGrow (fun s c => c.tokensGrow s) _ _
  have hfiled : Run.Meets Signing.step (fun pool _ => TokensFiled pool.state)
      ⟨Store.after history, threads⟩ labels :=
    Run.meets_always (I := fun pool : Signing Authentication => TokensFiled pool.state)
      (Pool.step_keeps (Memory.access_keeps TokensFiled.next) TokensFiled.next) (tokensFiled_after history) labels
  have hanswers : Run.Meets Signing.step
      (Pool.Admits (fun _ e s => DisabledAnswers u owners e (Memory.access e s).1) i)
      ⟨Store.after history, threads⟩ labels :=
    ((hdisabled.and hgrow).and hfiled).mono fun pool l h =>
      Pool.admits_of_state (fun _ e => disabledAnswers h.1.1 h.2 (ownersAgree_of_grow h.1.2) e) l
  have hensures : (call.routine m ctx io).Delivers (DisabledAnswers u owners) (Spares u owners)
      fun authn => authn.userID ≠ u := call.delivers hlink
  refine ⟨?_, ?_⟩
  · intro authn hdone
    obtain ⟨p, hp, hret⟩ := Pool.ensures_of_answers hi hensures hanswers
    obtain rfl := Option.mem_unique hdone hp
    exact Program.ensures_ret.mp hret authn rfl
  · rintro β e s ⟨before, after, k, rfl, hk, rfl⟩
    rw [Run.meets_append] at hanswers hdisabled hgrow
    obtain ⟨p, hp, hop⟩ := Pool.ensures_of_answers hi hensures hanswers.1
    obtain rfl := Option.mem_unique hk hp
    exact kept_of_spares hdisabled.2.1 (ownersAgree_of_grow hgrow.2.1) e (Program.ensures_op.mp hop).1

/-- Accounts are filed under their identifier, and the one of the user is disabled. -/
theorem disabledUser_of_filed (hne : u ≠ 0) (hu : u ∈ s.users)
    (hfiled : s.users.All fun k v => v.id = k ∧ (k = u → v.disabled = true)) : DisabledUser u s := by
  refine ⟨hu, fun k hk => ?_⟩
  cases hv : s.users.get? k with
  | some v =>
    obtain ⟨hid, hdisabled⟩ := hfiled k v hv
    rw [FMap.getI_of_get? hv] at hk ⊢
    exact hdisabled (hk.elim id hid.symm.trans)
  | none =>
    obtain rfl | hid := hk
    · obtain ⟨v, hv'⟩ := FMap.mem_iff_get?.mp hu
      exact absurd (hv.symm.trans hv') nofun
    · rw [FMap.getI_of_get?_none hv] at hid
      exact absurd hid.symm hne

/-- User 2 has a password, and is disabled. -/
def disabledCalls : List Call := passwordCalls ++
  [tenantCall (.account (.setUserDisabled (uuidv7 2) true 7)) 7]

/-- The password of the disabled user signs nobody in. -/
theorem disabled_user_refused_tenant :
    ¬ ∃ authn, (Run.run Signing.step ⟨Store.after disabledCalls, [(tenantAccounts.authenticatePassword {}
      (tenantAccountSupply 700) "two@example.com" "secret").program]⟩
      (List.replicate 4 (.thread 0))).threads[0]? = some (.ret (.ok authn)) ∧ authn.userID = uuidv7 2 := by
  rintro ⟨authn, hdone, huser⟩
  refine (disabled_user_refused tenantAccounts {} (tenantAccountSupply 700)
    (.password "two@example.com" "secret") (uuidv7 2) disabledCalls _ (List.replicate 4 (.thread 0)) 0 rfl
    id ?_).1 authn hdone huser
  have hstates : Run.Meets Signing.step (fun pool _ => uuidv7 2 ∈ pool.state.users
      ∧ pool.state.users.All fun k v => v.id = k ∧ (k = uuidv7 2 → v.disabled = true))
      ⟨Store.after disabledCalls, [(tenantAccounts.authenticatePassword {} (tenantAccountSupply 700)
        "two@example.com" "secret").program]⟩ (List.replicate 4 (.thread 0)) := by
    decide +kernel
  exact hstates.mono fun pool _ h => disabledUser_of_filed (by decide) h.1 h.2

/-- A manager with a provider of external identities, and a ceremony of user 2 that links one. -/
def linkAccounts : Accounts :=
  { tenantAccounts with
    ssoProviders := fun _ => some {
      kind := .oidc
      finish := fun _ _ => .ok {
        issuer := "idp", subject := "two", email := "", emailVerified := false, acr := "", amr := [] } }
    openContinuation := fun _ => some (.sso {
      id := uuidv7 80, providerConfigurationID := uuidv7 5, operation := .link, userID := uuidv7 2,
      expiresAt := 2000, session := [0] }) }

/-- **A disabled user links an identity**: the ceremony succeeds with an authentication of the user, who
has an identity afterwards and had none before. -/
theorem disabled_user_linked :
    let outcome := (linkAccounts.finishSSO {} (tenantAccountSupply 700) "" []).program.exec Memory.access
      (Store.after disabledCalls)
    DisabledUser (uuidv7 2) (Store.after disabledCalls)
      ∧ outcome.1.map Authentication.userID = .ok (uuidv7 2)
      ∧ (Store.after disabledCalls).ssoIdentities.values.map SSOIdentity.userID = []
      ∧ outcome.2.ssoIdentities.values.map SSOIdentity.userID = [uuidv7 2] := by
  intro outcome
  refine ⟨disabledUser_of_filed (by decide) (by decide +kernel) (by decide +kernel), ?_⟩
  decide +kernel

end Credbound.Stores
