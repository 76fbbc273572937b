import Credbound.Memory.Calls

/-!
# Memory/Frames — which maps a write leaves alone

`Mutation.Leaves m f` says that the write of `m` does not change `f` of the state, also when it
panics half way.  One theorem per area names the maps the area never touches; a write is a record
update, so nearly every case holds by reduction, and the loops are the exceptions: each is a run of
a step with the same frame.
-/

namespace Credbound.Memory

/-- The write of `m` leaves `f` of the state alone. -/
def Mutation.Leaves {X : Type*} (m : Mutation) (f : Store → X) : Prop :=
  ∀ commit p, f (m.result commit p) = f p

theorem Mutation.Leaves.comp {X Y : Type*} {m : Mutation} {f : Store → X} (h : m.Leaves f)
    (g : X → Y) : m.Leaves fun s => g (f s) := fun commit p => congrArg g (h commit p)

/-! ## Loops -/

/-- The maps that hold the people: users, their addresses, their roles. -/
def Store.people (s : Store) :=
  (s.users, s.emails, s.emailAddresses, s.emailIDs, s.admins, s.memberships)

/-- The maps of credentials that name a user, those of the authorization server apart, and the index of
the personal access tokens. -/
def Store.held (s : Store) :=
  (s.totp, s.recovery, s.passkeys, s.pats, s.sessions, s.emailAuths, s.ssoIdentities, s.patPrefixes)

/-- The user credentials of the authorization server: grants, access and refresh tokens. -/
def Store.issued (s : Store) := (s.oauthGrants, s.oauthAccessTokens, s.oauthRefreshTokens)

/-- The records of the authorization server that are not a user's. -/
def Store.server (s : Store) := (s.oauthIssuers, s.oauthResources, s.oauthClients, s.oauthClientKeys)

/-- The loop over the credentials of users stamps tokens and grants. -/
theorem Store.revokeUserCredentials_foldl_eq (s : Store) (users : List UUID) (workspaceID : UUID) (at' : Time) :
    ∃ pats grants access refresh,
      users.foldl (fun s userID => s.revokeUserCredentialsLocked userID workspaceID at') s =
        { s with pats := pats, oauthGrants := grants, oauthAccessTokens := access, oauthRefreshTokens := refresh } := by
  induction users generalizing s with
  | nil => exact ⟨_, _, _, _, rfl⟩
  | cons userID users ih =>
    obtain ⟨pats, grants, access, refresh, h⟩ := ih (s.revokeUserCredentialsLocked userID workspaceID at')
    exact ⟨pats, grants, access, refresh, h⟩

/-- …and the loop over grants stamps them and their tokens. -/
theorem Store.revokeOAuthGrantLocked_eq (s : Store) (grantID : UUID) (at' : Time) :
    ∃ grants access refresh, s.revokeOAuthGrantLocked grantID at' =
      { s with oauthGrants := grants, oauthAccessTokens := access, oauthRefreshTokens := refresh } := by
  unfold Store.revokeOAuthGrantLocked
  split <;> exact ⟨_, _, _, rfl⟩

theorem Store.revokeOAuthGrantsWhere_eq (s : Store) (p : OAuthGrant → Prop) [DecidablePred p] (at' : Time) :
    ∃ grants access refresh, s.revokeOAuthGrantsWhere p at' =
      { s with oauthGrants := grants, oauthAccessTokens := access, oauthRefreshTokens := refresh } := by
  refine Run.always (I := fun t : Store => ∃ grants access refresh, t =
    { s with oauthGrants := grants, oauthAccessTokens := access, oauthRefreshTokens := refresh }) ?_ ⟨_, _, _, rfl⟩ _
  rintro t grantID ⟨_, _, _, rfl⟩
  obtain ⟨grants, access, refresh, h⟩ := Store.revokeOAuthGrantLocked_eq _ grantID at'
  exact ⟨grants, access, refresh, h⟩

theorem Store.putMembership_foldl_eq (s : Store) (ms : List Membership) : ∃ memberships,
    ms.foldl (fun t m => t.putMembership m.workspaceID m.userID (normalizeMembership m)) s
      = { s with memberships := memberships } := by
  induction ms generalizing s with
  | nil => exact ⟨_, rfl⟩
  | cons m ms ih =>
    obtain ⟨memberships, h⟩ := ih (s.putMembership m.workspaceID m.userID (normalizeMembership m))
    exact ⟨memberships, h⟩

theorem reached_assignMembership (s : Store) (workspaceID userID : UUID) (m : Membership) :
    ∃ memberships, reached (s.assignMembership workspaceID userID m)
      = { s with memberships := memberships } := by
  unfold Store.assignMembership
  split <;> exact ⟨_, rfl⟩

/-- Assigning memberships, also up to a panic, touches the memberships only. -/
theorem reached_assignMemberships (memberships : List Membership) (s : Store) :
    ∃ memberships', reached (Store.assignMemberships memberships s)
      = { s with memberships := memberships' } := by
  induction memberships generalizing s with
  | nil => exact ⟨s.memberships, rfl⟩
  | cons m rest ih =>
    rw [Store.assignMemberships]
    obtain ⟨ms, hms⟩ := reached_assignMembership s m.workspaceID m.userID (normalizeMembership m)
    cases hs : s.assignMembership m.workspaceID m.userID (normalizeMembership m) with
    | error t =>
      rw [hs] at hms
      exact ⟨ms, hms⟩
    | ok t =>
      rw [hs] at hms
      obtain ⟨ms', hms'⟩ := ih t
      refine ⟨ms', hms'.trans ?_⟩
      rw [reached] at hms
      rw [hms]

/-- Updating a directory user rewrites its link and its indexes; the rest is memberships and
stamps on personal access tokens. -/
theorem result_updateSCIMUser (link : SCIMUser) (membership : Membership) (revoke : Bool)
    (commit : Commit) (p : Store) :
    ∃ memberships, ∃ stamp : UUID → PAT → PAT,
      (∀ id v, stamp id v = v ∨ ∃ at', stamp id v = { v with revokedAt := some at' }) ∧
      (updateSCIMUser link membership revoke).result commit p =
        { (p.deleteSCIMUserIndexesLocked (p.scimUsers.getI link.id)).putSCIMUserLocked link with
          memberships := memberships, pats := p.pats.mapVal stamp } := by
  simp only [Mutation.result, updateSCIMUser]
  have hpats : p.pats
      = ((p.deleteSCIMUserIndexesLocked (p.scimUsers.getI link.id)).putSCIMUserLocked link).pats := rfl
  rw [hpats]
  generalize (p.deleteSCIMUserIndexesLocked (p.scimUsers.getI link.id)).putSCIMUserLocked link = t
  obtain ⟨ms, hms⟩ := reached_assignMembership t membership.workspaceID membership.userID
    (normalizeMembership membership)
  cases hs : t.assignMembership membership.workspaceID membership.userID (normalizeMembership membership) with
  | error u =>
    rw [hs] at hms
    refine ⟨ms, fun _ v => v, fun _ _ => .inl rfl, ?_⟩
    rw [FMap.mapVal_id]
    exact hms
  | ok u =>
    rw [hs, reached] at hms
    subst hms
    cases revoke
    · refine ⟨ms, fun _ v => v, fun _ _ => .inl rfl, ?_⟩
      rw [FMap.mapVal_id]
      rfl
    · refine ⟨ms, _, fun id v => ?_, rfl⟩
      split
      · exact .inr ⟨_, rfl⟩
      · exact .inl rfl

/-- Writing a directory group rewrites it and its index; the rest is memberships. -/
theorem result_upsertSCIMGroup (group : SCIMGroup) (memberships : List Membership) (commit : Commit)
    (p : Store) :
    ∃ memberships' groups externals, (upsertSCIMGroup group memberships).result commit p = { p with
        memberships := memberships', scimGroups := groups, scimGroupExternal := externals } := by
  simp only [Mutation.result, upsertSCIMGroup]
  obtain ⟨ms, hms⟩ := reached_assignMemberships memberships _
  rw [hms]
  unfold Store.deleteSCIMGroupIndex
  split <;> split <;> (try split) <;> exact ⟨_, _, _, rfl⟩

/-- …and so does deleting one. -/
theorem result_deleteSCIMGroup (group : SCIMGroup) (memberships : List Membership) (commit : Commit)
    (p : Store) :
    ∃ memberships' groups externals, (deleteSCIMGroup group memberships).result commit p = { p with
        memberships := memberships', scimGroups := groups, scimGroupExternal := externals } := by
  simp only [Mutation.result, deleteSCIMGroup]
  obtain ⟨ms, hms⟩ := reached_assignMemberships memberships _
  rw [hms]
  unfold Store.deleteSCIMGroupIndex
  split <;> exact ⟨_, _, _, rfl⟩

/-- The address loop of an anonymization touches the three address maps, and of the user the
address. -/
theorem anonymizeEmail_frame (userID : UUID) (at' : Time) (ids : List UUID) (s : Store) (user : User) :
    ∃ emails addresses emailIDs email, ids.foldl (anonymizeEmail userID at') (s, user) =
      ({ s with emails := emails, emailAddresses := addresses, emailIDs := emailIDs },
        { user with email := email }) := by
  induction ids generalizing s user with
  | nil => exact ⟨_, _, _, _, rfl⟩
  | cons id ids ih =>
    rw [List.foldl_cons, anonymizeEmail]
    split
    · exact ih s user
    · split
      · split
        all_goals
          obtain ⟨emails, addresses, emailIDs, email, h⟩ := ih _ _
          exact ⟨emails, addresses, emailIDs, email, h⟩
      · exact ih s user

/-- …and the directory loop the three maps of directory users only. -/
theorem anonymizeSCIMUser_frame (userID : UUID) (at' : Time) (ids : List UUID) (s : Store) :
    ∃ scimUsers names externals, ids.foldl (anonymizeSCIMUser userID at') s =
      { s with scimUsers := scimUsers, scimUserNames := names, scimExternalIDs := externals } := by
  induction ids generalizing s with
  | nil => exact ⟨_, _, _, rfl⟩
  | cons id ids ih =>
    rw [List.foldl_cons, anonymizeSCIMUser]
    split
    · exact ih s
    · split
      · obtain ⟨scimUsers, names, externals, h⟩ := ih _
        exact ⟨scimUsers, names, externals, h⟩
      · exact ih s

/-- The users and roles after `SetUserDisabled`. -/
theorem result_setUserDisabled (userID : UUID) (disabled : Bool) (at' : Time) (commit : Commit) (p : Store) :
    let t := (setUserDisabled userID disabled at').result commit p
    t.users = p.users.modify userID (fun user => { user with disabled := disabled, updatedAt := at' })
      ∧ t.admins = p.admins ∧ t.memberships = p.memberships := by
  cases disabled <;> exact ⟨rfl, rfl, rfl⟩

/-- What anonymizing a user leads to: the user is stored disabled, and besides the user only
addresses, directory users and credentials change. -/
theorem result_anonymizeUser (userID : UUID) (at' : Time) (commit : Commit) (p : Store) :
    ∃ emails addresses emailIDs email scimUsers names externals, (anonymizeUser userID at').result commit p =
        let user := { p.users.getI userID with
          email := email, displayName := "", disabled := true, updatedAt := at' }
        let s : Store := { p with
          users := p.users.set userID user
          emails := emails
          emailAddresses := addresses
          emailIDs := emailIDs
          scimUsers := scimUsers
          scimUserNames := names
          scimExternalIDs := externals }
        ((s.scrub userID).revokeUserCredentialsLocked userID 0 at').revokeUserSessionsLocked userID at' := by
  obtain ⟨emails, addresses, emailIDs, email, h⟩ := anonymizeEmail_frame userID at' p.emailAddresses.keyList p
    { p.users.getI userID with displayName := "", disabled := true, updatedAt := at' }
  simp only [Mutation.result, anonymizeUser, h, reached]
  obtain ⟨scimUsers, names, externals, h'⟩ := anonymizeSCIMUser_frame userID at' p.scimUsers.keyList _
  rw [h']
  exact ⟨emails, addresses, emailIDs, email, scimUsers, names, externals, rfl⟩

/-! ## What an operation can change -/

/-- The state with the grants and tokens of another. -/
def Store.withIssued (s t : Store) : Store :=
  { s with
    oauthGrants := t.oauthGrants
    oauthAccessTokens := t.oauthAccessTokens
    oauthRefreshTokens := t.oauthRefreshTokens }

/-- `t` is `s` but for the maps that the operation writes.  Of an operation whose write has neither a loop nor a
branch nothing is said: for it this holds by reduction. -/
def Op.Writes (s t : Store) : Op → Prop
  | .account (.setUserDisabled ..) =>
      t = { s.withIssued t with users := t.users, pats := t.pats, sessions := t.sessions }
  | .account (.consumeEmailAuthentication ..) =>
      t = { s with emailAuths := t.emailAuths, users := t.users, throttles := t.throttles }
  | .account (.anonymizeUser ..) => t = { s.withIssued t with
      users := t.users, emails := t.emails, emailAddresses := t.emailAddresses, emailIDs := t.emailIDs
      scimUsers := t.scimUsers, scimUserNames := t.scimUserNames, scimExternalIDs := t.scimExternalIDs
      ssoIdentities := t.ssoIdentities, pats := t.pats, sessions := t.sessions, invitations := t.invitations
      totp := t.totp, recovery := t.recovery, passkeys := t.passkeys }
  | .workspace (.setWorkspaceDisabled ..) => t = { s.withIssued t with workspaces := t.workspaces, pats := t.pats }
  | .workspace (.upsertMembership ..) => t = { s.withIssued t with memberships := t.memberships, pats := t.pats }
  | .directory (.linkSSO ..) => t = { s with
      ssoIdentities := t.ssoIdentities, ssoKeys := t.ssoKeys, users := t.users, throttles := t.throttles }
  | .directory (.updateSCIMConfiguration ..) =>
      t = { s with scimConfigurations := t.scimConfigurations, memberships := t.memberships }
  | .directory (.updateSCIMUser ..) => t = { s with
      scimUsers := t.scimUsers, scimUserNames := t.scimUserNames, scimExternalIDs := t.scimExternalIDs
      memberships := t.memberships, pats := t.pats }
  | .directory (.upsertSCIMGroup ..) | .directory (.deleteSCIMGroup ..) => t = { s with
      scimGroups := t.scimGroups, scimGroupExternal := t.scimGroupExternal, memberships := t.memberships }
  | .oauth (.setOAuthIssuerDisabled ..) => t = { s.withIssued t with oauthIssuers := t.oauthIssuers }
  | .oauth (.setOAuthProtectedResourceDisabled ..) => t = { s.withIssued t with oauthResources := t.oauthResources }
  | .oauth (.setOAuthClientDisabled ..) => t = { s.withIssued t with oauthClients := t.oauthClients }
  | .oauth (.revokeOAuthGrant ..) => t = s.withIssued t
  | .oauth (.consumeOAuthAuthorizationCode ..) => t = { s.withIssued t with
      oauthCodes := t.oauthCodes, oauthAccessKeys := t.oauthAccessKeys, oauthRefreshKeys := t.oauthRefreshKeys }
  | _ => True

/-- **An operation writes its own maps only.** -/
theorem Op.writes (o : Op) (commit : Commit) (p : Store) : o.Writes p (o.mutation.result commit p) := by
  have hof : ∀ {t}, o.mutation.result commit p = t → o.Writes p t → o.Writes p (o.mutation.result commit p) :=
    fun h ht => h ▸ ht
  unfold Op.Writes at hof ⊢
  split
  · next userID disabled at' => cases disabled <;> rfl
  · next tokenID userID at' completesLogin => cases completesLogin <;> rfl
  · next userID at' =>
    obtain ⟨_, _, _, _, _, _, _, h⟩ := result_anonymizeUser userID at' commit p
    exact hof h rfl
  · next workspaceID disabled at' =>
    cases disabled
    · rfl
    · obtain ⟨_, _, _, _, h⟩ := Store.revokeUserCredentials_foldl_eq { p with
        workspaces := p.workspaces.modify workspaceID fun v => { v with disabledAt := some at', updatedAt := at' } }
        (p.memberships.getI workspaceID).keyList workspaceID at'
      exact hof h rfl
  · next membership =>
    simp only [Op.mutation, WorkspaceOp.mutation, Memory.upsertMembership, Mutation.result, reached]
    split <;> split <;> rfl
  · next identity =>
    simp only [Op.mutation, DirectoryOp.mutation, Memory.linkSSO, Mutation.result, reached]
    split <;> rfl
  · next configuration memberships =>
    obtain ⟨_, h⟩ := Store.putMembership_foldl_eq _ memberships
    exact hof h rfl
  · next link membership revoke =>
    obtain ⟨_, _, -, h⟩ := result_updateSCIMUser link membership revoke commit p
    exact hof h rfl
  · next group memberships =>
    obtain ⟨_, _, _, h⟩ := result_upsertSCIMGroup group memberships commit p
    exact hof h rfl
  · next group memberships =>
    obtain ⟨_, _, _, h⟩ := result_deleteSCIMGroup group memberships commit p
    exact hof h rfl
  · next issuerID disabled at' =>
    cases disabled
    · rfl
    · obtain ⟨_, _, _, h⟩ := Store.revokeOAuthGrantsWhere_eq _ (·.issuerID = issuerID) at'
      exact hof h rfl
  · next resourceID disabled at' =>
    cases disabled
    · rfl
    · obtain ⟨_, _, _, h⟩ := Store.revokeOAuthGrantsWhere_eq _ (·.resourceID = resourceID) at'
      exact hof h rfl
  · next clientRecordID disabled at' =>
    cases disabled
    · rfl
    · obtain ⟨_, _, _, h⟩ := Store.revokeOAuthGrantsWhere_eq _ (·.clientRecordID = clientRecordID) at'
      exact hof h rfl
  · next grantID at' =>
    obtain ⟨_, _, _, h⟩ := p.revokeOAuthGrantLocked_eq grantID at'
    exact hof h rfl
  · next codeID usedAt access refresh => cases refresh <;> rfl
  · trivial

/-! ## One theorem per area -/

/-- An operation of the authorization server touches its own maps only. -/
theorem OAuthOp.leaves (op : OAuthOp) : op.mutation.Leaves fun s => (s.people, s.held, s.ceremonies) := by
  intro commit p
  have h := (Op.oauth op).writes commit p
  cases op <;> first | exact (congrArg (fun s : Store => (s.people, s.held, s.ceremonies)) h).trans rfl | rfl

theorem OAuthOp.leaves_people (op : OAuthOp) : op.mutation.Leaves Store.people := op.leaves.comp (·.1)

/-- A factor operation touches neither addresses nor roles nor issued tokens. -/
theorem FactorOp.leaves (op : FactorOp) : op.mutation.Leaves fun s =>
    ((s.emails, s.emailAddresses, s.emailIDs), (s.admins, s.memberships), s.issued) := by
  intro commit p
  cases op <;> rfl

/-- An address operation touches neither roles nor issued tokens. -/
theorem EmailOp.leaves (op : EmailOp) : op.mutation.Leaves fun s =>
    ((s.admins, s.memberships), s.issued) := by
  intro commit p
  cases op <;> rfl

/-- A workspace operation touches neither users nor addresses. -/
theorem WorkspaceOp.leaves (op : WorkspaceOp) : op.mutation.Leaves fun s =>
    (s.users, s.emails, s.emailAddresses, s.emailIDs) := by
  intro commit p
  have h := (Op.workspace op).writes commit p
  cases op <;> first
    | exact (congrArg (fun s : Store => (s.users, s.emails, s.emailAddresses, s.emailIDs)) h).trans rfl
    | rfl

/-- A directory operation touches neither instance roles nor issued tokens. -/
theorem DirectoryOp.leaves (op : DirectoryOp) : op.mutation.Leaves fun s => (s.admins, s.issued) := by
  intro commit p
  have h := (Op.directory op).writes commit p
  cases op <;> first | exact (congrArg (fun s : Store => (s.admins, s.issued)) h).trans rfl | rfl

/-- Only the authorization server's own operations touch its records. -/
theorem Op.leaves_server (o : Op) (hop : ∀ op, o ≠ .oauth op) :
    o.mutation.Leaves fun s => (s.ceremonies, s.server) := by
  intro commit p
  have h := o.writes commit p
  rcases o with op | op | op | op | op | op
  all_goals first
    | exact absurd rfl (hop op)
    | cases op <;> first | exact (congrArg (fun s : Store => (s.ceremonies, s.server)) h).trans rfl | rfl

/-- No write touches the consumed ceremonies. -/
theorem Op.leaves_ceremonies (o : Op) : o.mutation.Leaves fun s => s.ceremonies := by
  by_cases h : ∃ op, o = .oauth op
  · obtain ⟨op, rfl⟩ := h
    exact op.leaves.comp (·.2.2)
  · exact (o.leaves_server fun op hop => h ⟨op, hop⟩).comp Prod.fst

/-! ## Withdrawing credentials -/

/-- `t` is reached from `p` by withdrawing the credentials of users and by writes to other maps. -/
inductive Store.Withdraws (p : Store) : Store → Prop
  | refl : Withdraws p p
  | other {s t : Store} (h : Withdraws p s) (hheld : t.held = s.held) (hissued : t.issued = s.issued) :
      Withdraws p t
  | credentials {s : Store} (h : Withdraws p s) (userID workspaceID : UUID) (at' : Time) :
      Withdraws p (s.revokeUserCredentialsLocked userID workspaceID at')
  | sessions {s : Store} (h : Withdraws p s) (userID : UUID) (at' : Time) :
      Withdraws p (s.revokeUserSessionsLocked userID at')
  | scrub {s : Store} (h : Withdraws p s) (userID : UUID) : Withdraws p (s.scrub userID)

/-- Account operations withdraw credentials at most, magic links apart. -/
theorem AccountOp.withdraws (op : AccountOp) (commit : Commit) (p : Store) :
    p.Withdraws { op.mutation.result commit p with emailAuths := p.emailAuths } := by
  cases op with
  | setUserDisabled userID disabled at' =>
    cases disabled
    · exact .other .refl rfl rfl
    · exact .other ((Store.Withdraws.refl.credentials userID 0 at').sessions userID at') rfl rfl
  | revokeUserCredentials userID at' => exact (Store.Withdraws.refl.credentials userID 0 at').sessions userID at'
  | changePassword password at' => exact .other (.sessions .refl password.userID at') rfl rfl
  | completePasswordReset resetID password at' =>
    exact .other ((Store.Withdraws.refl.credentials password.userID 0 at').sessions password.userID at') rfl rfl
  | consumeEmailAuthentication tokenID userID at' completesLogin =>
    cases completesLogin <;> exact .other .refl rfl rfl
  | anonymizeUser userID at' =>
    obtain ⟨_, _, _, _, _, _, _, h⟩ := result_anonymizeUser userID at' commit p
    refine (congrArg (fun t : Store => p.Withdraws { t with emailAuths := p.emailAuths }) h).mpr ?_
    exact .other (((Store.Withdraws.refl.scrub userID).credentials userID 0 at').sessions userID at') rfl rfl
  | _ => exact .other .refl rfl rfl

/-- …and so do workspace operations. -/
theorem WorkspaceOp.withdraws (op : WorkspaceOp) (commit : Commit) (p : Store) :
    p.Withdraws (op.mutation.result commit p) := by
  cases op with
  | setWorkspaceDisabled workspaceID disabled at' =>
    cases disabled
    · exact .other .refl rfl rfl
    · refine Run.always (fun _ userID hs => hs.credentials userID workspaceID at') ?_ _
      exact .other .refl rfl rfl
  | upsertMembership membership =>
    simp only [WorkspaceOp.mutation, Memory.upsertMembership, Mutation.result, reached]
    split <;> split
    all_goals first
      | exact .other (.credentials .refl _ _ _) rfl rfl
      | exact .other .refl rfl rfl
  | removeMembership workspaceID userID at' => exact .other (.credentials .refl userID workspaceID at') rfl rfl
  | _ => exact .other .refl rfl rfl

end Credbound.Memory
