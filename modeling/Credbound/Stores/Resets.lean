import Credbound.Stores.Credentials

/-!
# Stores/Resets — a completed password reset in the two stores

`CompletePasswordReset` consumes the reset, stores the password and revokes what the user holds.  The
memory store revokes the grants and tokens whose record names the user, and only those not revoked
before; the database stamps every grant of the user, and revokes the tokens of these grants.
-/

namespace Credbound.Stores

open Memory Postgres

section

variable {db : Database} {s : Store} {commit : Commit} {userID : UUID} {at' : Time}

/-! ## Grants and tokens -/

/-- The grant is there, and it is the user's. -/
def GrantOf (s : Store) (userID id : UUID) : Prop :=
  ∃ grant, s.oauthGrants.get? id = some grant ∧ grant.userID = userID

/-- Revoking the user's records one by one and revoking the user's grants comes to the same: no
grant of the user has another stamp than the one it would get, and the live tokens of the user are
those of the user's grants. -/
structure RevokedAlike (s : Store) (userID : UUID) (at' : Time) : Prop where
  grants : s.oauthGrants.All fun _ grant => grant.userID = userID →
    grant.updatedAt = at' ∧ (grant.revokedAt = none ∨ grant.revokedAt = some at')
  accessTokens : s.oauthAccessTokens.All fun _ token => token.revokedAt = none →
    (token.userID = userID ↔ GrantOf s userID token.grantID)
  refreshTokens : s.oauthRefreshTokens.All fun _ token => token.revokedAt = none →
    (token.userID = userID ↔ GrantOf s userID token.grantID)

theorem mem_oauthGrantIDs (h : SameOAuth db s) (huser : userID ≠ 0) {id : UUID} :
    id ∈ db.oauthGrantIDs (fun row => Matches userID row.userID) ↔ GrantOf s userID id := by
  unfold Database.oauthGrantIDs GrantOf
  rw [FMap.mem_sorted, FMap.mem_keysWhere, h.oauthGrants, FMap.get?_mapVal]
  constructor
  · rintro ⟨row, hrow, hmatches, -⟩
    obtain ⟨grant, hgrant, rfl⟩ := Option.map_eq_some_iff.mp hrow
    exact ⟨grant, hgrant, hmatches⟩
  · rintro ⟨grant, hgrant, hown⟩
    exact ⟨_, congrArg _ hgrant, hown, huser⟩

/-- Where the two ways of stamping a grant agree. -/
theorem stampGrant_eq_iff {grant : OAuthGrant} : Database.stampGrant at' (Database.grantRow grant)
        = Database.grantRow (if grant.revokedAt = none then { grant with revokedAt := some at' } else grant)
      ↔ grant.updatedAt = at' ∧ (grant.revokedAt = none ∨ grant.revokedAt = some at') := by
  constructor
  · intro h
    have hdata := congrArg GrantRow.data h
    by_cases hlive : grant.revokedAt = none
    · rw [if_pos hlive] at hdata
      exact ⟨(congrArg OAuthGrant.updatedAt hdata).symm, .inl hlive⟩
    · rw [if_neg hlive] at hdata
      exact ⟨(congrArg OAuthGrant.updatedAt hdata).symm, .inr (congrArg OAuthGrant.revokedAt hdata).symm⟩
  · rintro ⟨rfl, hlive | hstamped⟩
    · rw [if_pos hlive]
      rfl
    · rw [if_neg (by rw [hstamped]; exact Option.some_ne_none _), Database.stampGrant, ← hstamped]
      rfl

/-- A record falls under a revocation for the user in every workspace when it is the user's. -/
theorem inScope_zero {owner ws : UUID} : Store.InScope userID 0 owner ws ↔ owner = userID :=
  and_iff_left (.inl rfl)

/-- The grants after a reset, in both stores. -/
theorem revoked_grants_iff (h : SameOAuth db s) (huser : userID ≠ 0) :
    (db.revokedGrants (db.oauthGrantIDs fun row => Matches userID row.userID) at').oauthGrants
        = (s.revokeUserCredentialsLocked userID 0 at').oauthGrants.mapVal (fun _ => Database.grantRow)
      ↔ s.oauthGrants.All fun _ grant => grant.userID = userID →
          grant.updatedAt = at' ∧ (grant.revokedAt = none ∨ grant.revokedAt = some at') := by
  have hids : ∀ id grant, s.oauthGrants.get? id = some grant →
      (id ∈ db.oauthGrantIDs (fun row => Matches userID row.userID) ↔ grant.userID = userID) := by
    intro id grant hgrant
    rw [mem_oauthGrantIDs h huser, GrantOf, hgrant]
    simp only [Option.some.injEq, exists_eq_left']
  unfold Database.revokedGrants FMap.update Store.revokeUserCredentialsLocked
  dsimp only
  rw [h.oauthGrants, FMap.mapVal_mapVal, FMap.mapVal_mapVal, FMap.mapVal_eq_mapVal_iff]
  refine forall₃_congr fun id grant hgrant => ?_
  dsimp only
  rw [if_congr (hids id grant hgrant) rfl rfl]
  simp only [inScope_zero]
  by_cases hown : grant.userID = userID
  · rw [if_pos hown, if_congr (and_iff_right hown) rfl rfl, forall_prop_of_true hown]
    exact stampGrant_eq_iff
  · rw [if_neg hown, if_neg fun h => hown h.1]
    exact iff_of_true rfl fun h => absurd h hown

/-- Two conditional stamps of one record agree, when the stamp shows, if the conditions do. -/
theorem stamped_eq_iff {V W : Type} {read : V → W} {row row' : V} {token token' : W} {p q : Prop}
    [Decidable p] [Decidable q] (hrow : read row = token) (hrow' : read row' = token')
    (hshows : token' ≠ token) :
    read (if p then row' else row) = (if q then token' else token) ↔ (p ↔ q) := by
  split_ifs with hp hq hq
  · exact iff_of_true hrow' (iff_of_true hp hq)
  · exact iff_of_false (hrow'.symm ▸ hshows) fun h => hq (h.mp hp)
  · exact iff_of_false (hrow.symm ▸ hshows.symm) fun h => hp (h.mpr hq)
  · exact iff_of_true hrow (iff_of_false hp hq)

/-- The access tokens after a reset, in both stores. -/
theorem revoked_accessTokens_iff (h : SameOAuth db s) (huser : userID ≠ 0) :
    (db.revokedGrants (db.oauthGrantIDs fun row => Matches userID row.userID) at').oauthAccessTokens
        = (s.revokeUserCredentialsLocked userID 0 at').oauthAccessTokens.mapVal
          (fun _ => Database.accessTokenRow)
      ↔ s.oauthAccessTokens.All fun _ token => token.revokedAt = none →
          (token.userID = userID ↔ GrantOf s userID token.grantID) := by
  unfold Database.revokedGrants FMap.update Store.revokeUserCredentialsLocked
  dsimp only
  rw [h.oauthAccessTokens, FMap.mapVal_mapVal, FMap.mapVal_mapVal, FMap.mapVal_eq_mapVal_iff]
  refine forall₃_congr fun id token _ => ?_
  dsimp only
  rw [eq_comm]
  by_cases hlive : token.revokedAt = none
  · have hshows : Database.stampAccessToken at' (Database.accessTokenRow token)
        ≠ Database.accessTokenRow token := fun h =>
      Option.some_ne_none at' ((congrArg (fun row => row.data.revokedAt) h).trans hlive)
    refine (stamped_eq_iff rfl rfl hshows).trans ?_
    rw [inScope_zero, and_iff_left hlive, forall_prop_of_true hlive]
    exact iff_congr Iff.rfl ((and_iff_left hlive).trans (mem_oauthGrantIDs h huser))
  · rw [if_neg fun h => hlive h.2, if_neg fun h => hlive h.2]
    exact iff_of_true rfl fun h => absurd h hlive

/-- The refresh tokens after a reset, in both stores, at a time of whole microseconds. -/
theorem revoked_refreshTokens_iff (h : SameOAuth db s) (huser : userID ≠ 0) (hwhole : Whole at') :
    (s.revokeUserCredentialsLocked userID 0 at').oauthRefreshTokens
        = (db.revokedGrants (db.oauthGrantIDs fun row => Matches userID row.userID) at').oauthRefreshTokens.mapVal
          (fun _ => Database.refreshTokenFromRow)
      ↔ s.oauthRefreshTokens.All fun _ token => token.revokedAt = none →
          (token.userID = userID ↔ GrantOf s userID token.grantID) := by
  unfold Database.revokedGrants FMap.update Store.revokeUserCredentialsLocked
  dsimp only
  rw [h.oauthRefreshTokens, FMap.mapVal_mapVal, FMap.mapVal_mapVal, FMap.mapVal_eq_mapVal_iff,
    FMap.all_mapVal]
  refine forall₃_congr fun id row hrow => ?_
  obtain ⟨hgrant, hcolumn⟩ := h.refreshColumns id row hrow
  have hlive : row.revokedAt = none ↔ (Database.refreshTokenFromRow row).revokedAt = none := by
    unfold Database.refreshTokenFromRow
    cases hr : row.revokedAt with
    | none => exact iff_of_true rfl (hcolumn hr)
    | some t => exact Iff.rfl
  dsimp only
  by_cases hrowLive : row.revokedAt = none
  · have htoken := hlive.mp hrowLive
    have hstamped : Database.refreshTokenFromRow (Database.stampRefreshToken at' row)
        = { Database.refreshTokenFromRow row with revokedAt := some at' } := by
      unfold Database.refreshTokenFromRow Database.stampRefreshToken
      rw [show timestamptz at' = at' from hwhole]
      rfl
    have hshows : { Database.refreshTokenFromRow row with revokedAt := some at' }
        ≠ Database.refreshTokenFromRow row := fun h =>
      Option.some_ne_none at' ((congrArg OAuthRefreshToken.revokedAt h).trans htoken)
    rw [eq_comm]
    refine (stamped_eq_iff rfl hstamped hshows).trans ?_
    rw [inScope_zero, and_iff_left htoken, and_iff_left hrowLive, forall_prop_of_true htoken,
      mem_oauthGrantIDs h huser, hgrant]
    exact iff_comm
  · have htoken := mt hlive.mpr hrowLive
    rw [if_neg fun h => htoken h.2, if_neg fun h => hrowLive h.2]
    exact iff_of_true rfl fun h => absurd h htoken

/-- The columns of the refresh tokens stay together. -/
theorem refreshColumns_revokedGrants (h : SameOAuth db s) (ids : List UUID) :
    (db.revokedGrants ids at').oauthRefreshTokens.All fun _ row =>
      row.grantID = row.data.grantID ∧ (row.revokedAt = none → row.data.revokedAt = none) := by
  refine FMap.all_mapVal.mpr fun id row hrow => ?_
  dsimp only
  split
  · exact ⟨(h.refreshColumns id row hrow).1, fun h => absurd h (Option.some_ne_none _)⟩
  · exact h.refreshColumns id row hrow

/-! ## The reset and the password -/

variable {row : PasswordResetCredential} {resetID : UUID}

section

variable (h : SameCredentials db s)

include h

/-- The resets after one is used, in both stores. -/
theorem used_resets_iff (hrow : db.passwordResets.get? resetID = some row) (huser : userID ≠ 0) (at' : Time) :
    (s.passwordResets.modify resetID fun v => { v with usedAt := some at' }).filter
          (fun id other => ¬ (id ≠ resetID ∧ other.userID = userID))
        = (db.passwordResets.set resetID (usedPasswordReset at' row)).filter
          (fun id row => ¬ (Matches userID row.userID ∧ id ≠ resetID))
      ↔ Whole at' := by
  rw [h.passwordResets]
  constructor
  · intro hall
    have hself := congrArg (FMap.get? · resetID) hall
    simp only [FMap.get?_filter, FMap.get?_modify, if_pos, hrow, FMap.get?_set_self, Option.map_some,
      ne_eq, not_true_eq_false, false_and, and_false, not_false_eq_true, decide_true,
      Option.filter_some] at hself
    have hused := congrArg PasswordResetCredential.usedAt (Option.some.inj hself)
    exact (Option.some.inj hused).symm
  · intro hwhole
    have hsame : db.passwordResets.modify resetID (fun v => { v with usedAt := some at' })
        = db.passwordResets.set resetID (usedPasswordReset at' row) := by
      rw [FMap.modify_of_get? hrow, usedPasswordReset, show timestamptz at' = at' from hwhole]
    rw [hsame]
    refine FMap.ext_get? fun id => ?_
    rw [FMap.get?_filter, FMap.get?_filter]
    refine congrArg (fun p => Option.filter p _) (funext fun other => ?_)
    simp only [matches_iff huser, and_comm]

/-- The password stored, in both stores. -/
theorem stored_password_iff (password : PasswordCredential) :
    s.passwords.set password.userID password = db.passwordCredentials.set password.userID
          { password with updatedAt := timestamptz password.updatedAt }
      ↔ Whole password.updatedAt := by
  rw [h.passwords]
  constructor
  · intro hall
    have hself := congrArg (FMap.get? · password.userID) hall
    simp only [FMap.get?_set_self] at hself
    exact (congrArg PasswordCredential.updatedAt (Option.some.inj hself)).symm
  · intro hwhole
    rw [show timestamptz password.updatedAt = password.updatedAt from hwhole]

/-- The tokens and sessions of a user revoked, in both stores. -/
theorem revoked_pats_eq (huser : userID ≠ 0) (hwhole : Whole at') :
    (s.revokeUserCredentialsLocked userID 0 at').pats = (db.revokeUserPATs userID at').personalAccessTokens := by
  unfold Store.revokeUserCredentialsLocked Database.revokeUserPATs FMap.update Matches
  dsimp only
  rw [h.pats, show timestamptz at' = at' from hwhole]
  simp only [inScope_zero, huser, ne_eq, not_false_eq_true, and_true]

theorem revoked_sessions_eq (huser : userID ≠ 0) (hwhole : Whole at') :
    (s.revokeUserSessionsLocked userID at').sessions = (db.revokeUserSessions userID at').sessions := by
  unfold Store.revokeUserSessionsLocked Database.revokeUserSessions FMap.update Matches
  dsimp only
  rw [h.sessions, show timestamptz at' = at' from hwhole]
  simp only [huser, ne_eq, not_false_eq_true, and_true]

end

/-! ## `CompletePasswordReset` -/

/-- The database after a reset of the row. -/
def afterReset (resetID : UUID) (row : PasswordResetCredential) (password : PasswordCredential)
    (at' : Time) (db : Database) : Database :=
  let resets := (db.passwordResets.set resetID (usedPasswordReset at' row)).filter fun id row =>
    ¬ (Matches password.userID row.userID ∧ id ≠ resetID)
  let passwords := db.passwordCredentials.set password.userID
    { password with updatedAt := timestamptz password.updatedAt }
  let w := { db with passwordResets := resets, passwordCredentials := passwords }
  let w := (w.revokeUserPATs password.userID at').revokeUserSessions password.userID at'
  let ids := db.oauthGrantIDs fun row => Matches password.userID row.userID
  (w.revokedGrants ids at').clearLoginThrottle password.userID

theorem completePasswordReset_of_none (password : PasswordCredential)
    (h : ∀ row, db.passwordResets.get? resetID = some row → ¬ row.usedAt = none) :
    Postgres.completePasswordReset resetID password at' db = .error .conflict := by
  unfold Postgres.completePasswordReset
  rw [execrows_of_none h]
  rfl

theorem completePasswordReset_of_get? (hk : Keyed db) (hrow : db.passwordResets.get? resetID = some row)
    (hunused : row.usedAt = none) (password : PasswordCredential) :
    Postgres.completePasswordReset resetID password at' db
      = if password.userID ∈ db.users then .ok (afterReset resetID row password at' db)
        else .error .conflict := by
  unfold Postgres.completePasswordReset Database.upsertPassword constraint
  rw [execrows_of_get? (hk.passwordResets _ _ hrow) hrow hunused]
  dsimp only
  by_cases huser : password.userID ∈ db.users
  · rw [if_pos huser, require_pos huser]
    show (Database.revokeOAuthGrantsByUser password.userID at' _ >>= _) = _
    rw [Database.revokeOAuthGrantsByUser, Database.revokeOAuthGrantIDs_select]
    · rfl
    · exact hk.oauthGrants
  · rw [if_neg huser, require_neg huser]
    rfl

/-- The memory store after a reset. -/
def resetStore (resetID : UUID) (password : PasswordCredential) (at' : Time) (s : Store) : Store :=
  let resets := s.passwordResets.modify resetID fun v => { v with usedAt := some at' }
  let t := { s with
    passwordResets := resets.filter fun id other => ¬ (id ≠ resetID ∧ other.userID = password.userID)
    passwords := s.passwords.set password.userID password }
  ((t.revokeUserCredentialsLocked password.userID 0 at').revokeUserSessionsLocked
    password.userID at').clearThrottle password.userID

/-- The two stores after a reset. -/
theorem afterReset_same_iff (hs : SameTables db s) (hrow : db.passwordResets.get? resetID = some row)
    {password : PasswordCredential} (huser : password.userID ≠ 0) :
    SameTables (afterReset resetID row password at' db) (resetStore resetID password at' s)
      ↔ Whole at' ∧ Whole password.updatedAt ∧ RevokedAlike s password.userID at' := by
  have hresets := used_resets_iff hs.credentials hrow huser at'
  have hpassword := stored_password_iff hs.credentials password
  constructor
  · intro h
    have hwhole := hresets.mp h.credentials.passwordResets
    exact ⟨hwhole, hpassword.mp h.credentials.passwords,
      { grants := (revoked_grants_iff hs.oauth huser).mp h.oauth.oauthGrants
        accessTokens := (revoked_accessTokens_iff hs.oauth huser).mp h.oauth.oauthAccessTokens
        refreshTokens := (revoked_refreshTokens_iff hs.oauth huser hwhole).mp h.oauth.oauthRefreshTokens }⟩
  · rintro ⟨hwhole, hupdated, hrevoked⟩
    have hthrottles : s.throttles.del password.userID
        = db.loginThrottles.filter fun id _ => ¬ Matches password.userID id := by
      rw [hs.credentials.throttles, del_eq_filter huser]
    have hpats := revoked_pats_eq hs.credentials huser hwhole
    have hsessions := revoked_sessions_eq hs.credentials huser hwhole
    have hcredentials : SameCredentials (afterReset resetID row password at' db)
        (resetStore resetID password at' s) :=
      { hs.credentials with
        passwords := hpassword.mpr hupdated
        pats := hpats
        sessions := hsessions
        throttles := hthrottles
        passwordResets := hresets.mpr hwhole }
    exact ⟨{ hs.addresses with }, hcredentials,
      { oauthGrants := (revoked_grants_iff hs.oauth huser).mpr hrevoked.grants
        oauthAccessTokens := (revoked_accessTokens_iff hs.oauth huser).mpr hrevoked.accessTokens
        oauthRefreshTokens := (revoked_refreshTokens_iff hs.oauth huser hwhole).mpr hrevoked.refreshTokens
        refreshColumns := refreshColumns_revokedGrants hs.oauth _ }, hs.elsewhere⟩

/-- **`CompletePasswordReset`**: the stores part on a reset that is not there, on a user that is not
there, and on what becomes of the user's grants. -/
theorem completePasswordReset_agrees_iff (hs : SameTables db s) (hk : Keyed db) (resetID : UUID)
    (password : PasswordCredential) (at' : Time) :
    SameResult (Postgres.completePasswordReset resetID password at' db)
        (memoryBody (.account (.completePasswordReset resetID password at')) commit s)
      ↔ ∃ credential, s.passwordResets.get? resetID = some credential
          ∧ (credential.usedAt = none → password.userID ∈ s.users ∧ Whole at'
            ∧ Whole password.updatedAt ∧ RevokedAlike s password.userID at') := by
  rcases hcredential : s.passwordResets.get? resetID with _ | credential
  · have hcheck : (Op.account (.completePasswordReset resetID password at')).mutation.check s = .error .notFound :=
      find_bind_of_none hcredential _ _
    rw [memoryBody_of_error hcheck]
    rw [hs.credentials.passwordResets] at hcredential
    rw [completePasswordReset_of_none password (by rw [hcredential]; rintro _ ⟨⟩), sameResult_error]
    refine iff_of_false (by decide) ?_
    rintro ⟨_, ⟨⟩, -⟩
  have hrow := hcredential
  rw [hs.credentials.passwordResets] at hrow
  simp only [Option.some.injEq, exists_eq_left']
  have hfound : (Op.account (.completePasswordReset resetID password at')).mutation.check s
      = (require (credential.usedAt = none) .conflict >>= fun _ =>
          require (password.userID ∈ s.users) .notFound) := find_bind_of_some hcredential _ _
  by_cases hused : credential.usedAt = none
  · rw [completePasswordReset_of_get? hk hrow hused, forall_prop_of_true hused]
    rw [require_pos hused] at hfound
    by_cases huser : password.userID ∈ s.users
    · have hmem := hs.addresses.mem_users huser
      obtain ⟨_, hmem'⟩ := FMap.mem_iff_get?.mp hmem
      rw [memoryBody_of_ok (hfound.trans (require_pos huser _)) rfl, if_pos hmem, and_iff_right huser]
      exact sameResult_ok.trans (afterReset_same_iff hs hrow (hk.users _ _ hmem'))
    · rw [memoryBody_of_error (hfound.trans (require_neg huser _))]
      refine iff_of_false ?_ fun h => huser h.1
      split
      · exact not_sameResult_ok_error
      · rw [sameResult_error]
        decide
  · rw [memoryBody_of_error (e := .conflict) (by rw [hfound, require_neg hused]; rfl),
      completePasswordReset_of_none]
    · exact iff_of_true (.error _) fun h => absurd h hused
    · intro row h
      rw [hrow] at h
      exact Option.some.inj h ▸ hused

end

end Credbound.Stores
