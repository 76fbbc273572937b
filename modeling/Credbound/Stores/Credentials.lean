import Credbound.Stores.Addresses

/-!
# Stores/Credentials — two methods of credentials compared in the two stores

`SaveTOTPEnrollment` and `ConsumeEmailAuthentication`, compared as the methods of `Stores/Addresses` are.
-/

namespace Credbound.Stores

open Memory Postgres

section

variable {db w : Database} {s t : Store} {commit : Commit}

/-! ## `SaveTOTPEnrollment` -/

/-- The database after an enrollment. -/
def enrolled (factor : TOTPFactor) (db : Database) : Database :=
  { db with
    totpFactors := db.totpFactors.set factor.userID
      (enrolledRow factor (db.totpFactors.get? factor.userID))
    recoveryCodes := db.recoveryCodes.filter fun key _ => key.1 ≠ factor.userID }

variable {factor : TOTPFactor} {userID : UUID}

/-- An enrollment, its constraints first. -/
theorem saveTOTPEnrollment_eq (factor : TOTPFactor) (db : Database) : Postgres.saveTOTPEnrollment factor db
      = if (factor.userID ≠ 0 ∧ factor.encryptedSecret ≠ [])
          ∧ ((db.totpFactors.get? factor.userID).isSome ∨ factor.userID ∈ db.users) then
        if (db.totpFactors.get? factor.userID).any (·.active) then .error .notFound else .ok (enrolled factor db)
      else .error .conflict := by
  unfold Postgres.saveTOTPEnrollment constraint
  dsimp only
  by_cases h : factor.userID ≠ 0 ∧ factor.encryptedSecret ≠ []
  · by_cases howner : (db.totpFactors.get? factor.userID).isSome ∨ factor.userID ∈ db.users
    · rw [require_pos h, require_pos howner, if_pos (c := _ ∧ _) ⟨h, howner⟩]
      show (affected (if _ then 0 else 1) >>= fun _ => _) = _
      split <;> rfl
    · rw [require_pos h, require_neg howner, if_neg (c := _ ∧ _) fun hboth => howner hboth.2]
      rfl
  · rw [require_neg h, if_neg (c := _ ∧ _) fun hboth => h hboth.1]
    rfl

/-- An enrollment of a factor that is not active is never reported as not found. -/
theorem saveTOTPEnrollment_ne_notFound (hfree : ¬ (db.totpFactors.get? factor.userID).any (·.active)) :
    Postgres.saveTOTPEnrollment factor db ≠ .error .notFound := by
  rw [saveTOTPEnrollment_eq, if_neg hfree]
  split <;> nofun

/-- The fields of a factor that the database decides are already what it makes of them. -/
def Enrollable (s : Store) (factor : TOTPFactor) : Prop :=
  factor.active = false ∧ factor.lastUsedStep = 0 ∧ Whole factor.updatedAt
    ∧ factor.createdAt = match s.totp.get? factor.userID with
      | some row => row.createdAt
      | none => timestamptz factor.createdAt

theorem enrolledRow_eq_iff (hs : SameTables db s) (hk : Keyed db) (factor : TOTPFactor) :
    factor = enrolledRow factor (db.totpFactors.get? factor.userID) ↔ Enrollable s factor := by
  unfold Enrollable
  rw [hs.credentials.totp]
  rcases hrow : db.totpFactors.get? factor.userID with _ | row
  · obtain ⟨userID, secret, active, step, createdAt, updatedAt⟩ := factor
    simp only [enrolledRow, TOTPFactor.mk.injEq, true_and, Whole]
    tauto
  · have howner := (hk.totpFactors _ _ hrow).1
    obtain ⟨userID, secret, active, step, createdAt, updatedAt⟩ := factor
    obtain ⟨userID', secret', active', step', createdAt', updatedAt'⟩ := row
    obtain rfl : userID' = userID := howner
    simp only [enrolledRow, TOTPFactor.mk.injEq, true_and, Whole]
    tauto

/-- The credentials after an enrollment. -/
theorem SameCredentials.enroll (h : SameCredentials db s)
    (hrow : factor = enrolledRow factor (db.totpFactors.get? factor.userID)) :
    SameCredentials (enrolled factor db) { s with
        totp := s.totp.set factor.userID factor
        recovery := s.recovery.del factor.userID } := by
  refine { h with totp := ?_, recovery := fun userID digest usedAt => ?_ }
  · show s.totp.set factor.userID factor = db.totpFactors.set factor.userID _
    rw [← hrow, h.totp]
  · show _ ∈ (s.recovery.del factor.userID).getI userID
      ↔ (db.recoveryCodes.filter fun key _ => key.1 ≠ factor.userID).get? (userID, digest) = some usedAt
    rw [FMap.get?_filter, Option.filter_eq_some_iff, decide_eq_true_eq, ← h.recovery, FMap.getI,
      FMap.get?_del]
    split
    · next hid => exact iff_of_false List.not_mem_nil fun hboth => hboth.2 hid
    · next hid => exact ⟨fun hmem => ⟨hmem, hid⟩, fun hboth => hboth.1⟩

/-- **`SaveTOTPEnrollment`**: the stores part on an active factor (a conflict there, not found here)
and on a user that is not there (not found there, a conflict here); and the database makes its own
factor of what it is given. -/
theorem saveTOTPEnrollment_agrees_iff (hs : SameTables db s) (hk : Keyed db) (factor : TOTPFactor) :
    SameResult (Postgres.saveTOTPEnrollment factor db)
        (memoryBody (.factor (.saveTOTPEnrollment factor)) commit s)
      ↔ if (s.totp.get? factor.userID).any (·.active) then factor.encryptedSecret = []
        else factor.userID ∈ s.users ∧ factor.encryptedSecret ≠ [] ∧ Enrollable s factor := by
  have hcheck : (Op.factor (.saveTOTPEnrollment factor)).mutation.check s
      = (require (¬ (s.totp.get? factor.userID).any (·.active)) .conflict >>= fun _ =>
          require (factor.userID ∈ s.users) .notFound) := rfl
  by_cases hactive : (s.totp.get? factor.userID).any (·.active)
  · rw [if_pos hactive, memoryBody_of_error (hcheck.trans (by rw [require_neg (not_not.mpr hactive)]; rfl))]
    rw [hs.credentials.totp] at hactive
    obtain ⟨row, hrow⟩ : ∃ row, db.totpFactors.get? factor.userID = some row := by
      cases h : db.totpFactors.get? factor.userID with
      | none =>
        rw [h] at hactive
        cases hactive
      | some row => exact ⟨row, rfl⟩
    have huser := (hk.totpFactors _ _ hrow).2
    by_cases hsecret : factor.encryptedSecret = []
    · rw [saveTOTPEnrollment_eq, if_neg fun h => h.1.2 hsecret]
      exact iff_of_true (.error _) hsecret
    · rw [saveTOTPEnrollment_eq, if_pos ⟨⟨huser, hsecret⟩, .inl (by rw [hrow]; rfl)⟩, if_pos hactive,
        sameResult_error]
      exact iff_of_false (by decide) hsecret
  · rw [if_neg hactive]
    have hfree := hactive
    rw [hs.credentials.totp] at hfree
    by_cases huser : factor.userID ∈ s.users
    · rw [memoryBody_of_ok (hcheck.trans (by rw [require_pos hactive, require_pos huser]; rfl)) rfl]
      have hrow := hs.addresses.mem_users huser
      obtain ⟨_, hrow'⟩ := FMap.mem_iff_get?.mp hrow
      have hid := hk.users _ _ hrow'
      by_cases hsecret : factor.encryptedSecret = []
      · rw [saveTOTPEnrollment_eq, if_neg fun h => h.1.2 hsecret]
        exact iff_of_false not_sameResult_error_ok fun h => h.2.1 hsecret
      · rw [saveTOTPEnrollment_eq, if_pos ⟨⟨hid, hsecret⟩, .inr hrow⟩, if_neg hfree, sameResult_ok,
          ← enrolledRow_eq_iff hs hk]
        constructor
        · intro h
          have hnoted := congrArg (FMap.get? · factor.userID) h.credentials.totp
          refine ⟨huser, hsecret, Option.some.inj ?_⟩
          rwa [enrolled, FMap.get?_set_self, FMap.get?_set_self] at hnoted
        · intro h
          exact ⟨{ hs.addresses with }, hs.credentials.enroll h.2.2, { hs.oauth with }, hs.elsewhere⟩
    · rw [memoryBody_of_error (hcheck.trans (by rw [require_pos hactive, require_neg huser]; rfl))]
      refine iff_of_false (fun h => ?_) fun h => huser h.1
      cases hresult : Postgres.saveTOTPEnrollment factor db with
      | ok w =>
        rw [hresult] at h
        exact not_sameResult_ok_error h
      | error e =>
        rw [hresult, sameResult_error] at h
        exact saveTOTPEnrollment_ne_notFound hfree (hresult.trans (congrArg _ h))

/-! ## `ConsumeEmailAuthentication` -/

theorem touchUserLastSeen_of_get? (db : Database) {row : UserRow} (hid : userID ≠ 0)
    (hrow : db.users.get? userID = some row) (at' : Time) :
    db.touchUserLastSeen userID at'
      = .ok { db with users := db.users.set userID (Database.seenRow at' row) } := by
  unfold Database.touchUserLastSeen
  rw [execrows_id_of_get? hid hrow]
  rfl

theorem touchUserLastSeen_of_none (db : Database) (hrow : userID ∉ db.users) (at' : Time) :
    db.touchUserLastSeen userID at' = .error .notFound := by
  have hcount : db.users.count (fun id _ => Matches userID id) = 0 := by
    by_contra h
    exact hrow (count_id_ne_zero.mp h).2
  unfold Database.touchUserLastSeen execrows affected
  dsimp only
  rw [require_neg (not_not.mpr hcount)]
  rfl

/-- Changing the row of a user changes that user, joined with the same address. -/
theorem getUserByID_setUser (userID : UUID) (row : UserRow) (id : UUID) :
    Database.getUserByID { db with users := db.users.set userID row } id
      = if id = userID then (db.primaryEmail userID).map fun email =>
          Database.userFromIDRow userID row email.2
        else db.getUserByID id := by
  show ((db.users.set userID row).get? id).bind (fun row => (db.primaryEmail id).map fun email =>
    Database.userFromIDRow id row email.2) = _
  rw [FMap.get?_set]
  split
  · next hid => rw [hid, Option.bind_some]
  · rfl

/-- Deleting the throttle of a user, in both stores. -/
theorem del_eq_filter {V : Type} {m : FMap UUID V} (hid : userID ≠ 0) :
    m.del userID = m.filter fun id _ => ¬ Matches userID id := by
  refine FMap.ext_get? fun id => ?_
  rw [FMap.get?_del, FMap.get?_filter]
  by_cases h : id = userID
  · rw [if_pos h]
    cases m.get? id <;> simp [Matches, h, hid, Option.filter]
  · rw [if_neg h]
    cases m.get? id <;> simp [Matches, h, Option.filter]

/-- The users after a login, in both stores. -/
theorem touched_users_iff (h : SameAddresses db s) {row : UserRow} (hrow : db.users.get? userID = some row)
    {at' : Time} (hwhole : Whole at') :
    (∀ id, (s.users.set userID { s.users.getI userID with lastSeenAt := some at' }).get? id
        = Database.getUserByID { db with users := db.users.set userID (Database.seenRow at' row) } id)
      ↔ userID ∈ s.users := by
  constructor
  · intro hall
    have hself := hall userID
    rw [FMap.get?_set_self, getUserByID_setUser, if_pos rfl] at hself
    obtain ⟨email, hemail, -⟩ := Option.map_eq_some_iff.mp hself.symm
    refine FMap.mem_of_get? (v := Database.userFromIDRow userID row email.2) ?_
    rw [h.users, Database.getUserByID, hrow, Option.bind_some, hemail, Option.map_some]
  · intro hmem id
    obtain ⟨user, huser⟩ := FMap.mem_iff_get?.mp hmem
    rw [FMap.get?_set, getUserByID_setUser]
    split
    · rw [FMap.getI_of_get? huser]
      rw [h.users, Database.getUserByID, hrow, Option.bind_some] at huser
      obtain ⟨email, hemail, rfl⟩ := Option.map_eq_some_iff.mp huser
      rw [hemail, Option.map_some, Database.seenRow, show timestamptz at' = at' from hwhole]
      rfl
    · exact h.users id

theorem consumeEmailAuthentication_of_none {tokenID userID : UUID}
    (h : ∀ row, db.emailAuthentications.get? tokenID = some row
      → ¬ (Matches userID row.userID ∧ row.usedAt = none)) (at' : Time) (completesLogin : Bool) :
    Postgres.consumeEmailAuthentication tokenID userID at' completesLogin db = .error .conflict := by
  unfold Postgres.consumeEmailAuthentication
  rw [execrows_of_none h]
  rfl

theorem consumeEmailAuthentication_of_get? {tokenID userID : UUID} {row : EmailAuthenticationCredential}
    (hid : tokenID ≠ 0) (hrow : db.emailAuthentications.get? tokenID = some row)
    (h : Matches userID row.userID ∧ row.usedAt = none) (at' : Time) (completesLogin : Bool) :
    Postgres.consumeEmailAuthentication tokenID userID at' completesLogin db = (let w := { db with
          emailAuthentications := db.emailAuthentications.set tokenID (usedEmailAuthentication at' row) }
        if completesLogin then (w.touchUserLastSeen userID at').map (Database.clearLoginThrottle userID)
        else .ok w) := by
  unfold Postgres.consumeEmailAuthentication
  rw [execrows_of_get? hid hrow h]
  dsimp only
  cases completesLogin
  · rfl
  · show ((Database.touchUserLastSeen userID at' _) >>= _) = Except.map _ (Database.touchUserLastSeen userID at' _)
    cases Database.touchUserLastSeen userID at' _ <;> rfl

/-- The credential consumed, in both stores. -/
theorem used_emailAuths_iff (h : SameCredentials db s) {tokenID : UUID}
    {row : EmailAuthenticationCredential} (hrow : db.emailAuthentications.get? tokenID = some row)
    (at' : Time) :
    s.emailAuths.modify tokenID (fun v => { v with usedAt := some at' })
        = db.emailAuthentications.set tokenID (usedEmailAuthentication at' row) ↔ Whole at' := by
  rw [h.emailAuths]
  constructor
  · intro hall
    have hself := congrArg (FMap.get? · tokenID) hall
    rw [FMap.get?_modify, if_pos rfl, hrow, FMap.get?_set_self, Option.map_some] at hself
    have hused := congrArg EmailAuthenticationCredential.usedAt (Option.some.inj hself)
    exact (Option.some.inj hused).symm
  · intro hwhole
    refine FMap.ext_get? fun id => ?_
    rw [FMap.get?_modify, FMap.get?_set]
    split
    · next hid => rw [hid, hrow, Option.map_some, usedEmailAuthentication, show timestamptz at' = at' from hwhole]
    · rfl

/-- A login in both stores, after both consumed the credential. -/
theorem login_agrees_iff (hs : SameTables db s) (hk : Keyed db) {at' : Time}
    {rows auths : FMap UUID EmailAuthenticationCredential} (hconsumed : auths = rows ↔ Whole at') :
    SameResult ((Database.touchUserLastSeen userID at' { db with emailAuthentications := rows }).map
          (Database.clearLoginThrottle userID))
        (.ok (({ s with emailAuths := auths }.touchLastSeenLocked userID at').clearThrottle userID))
      ↔ Whole at' ∧ userID ∈ s.users := by
  by_cases huser : userID ∈ db.users
  · obtain ⟨row, hrow⟩ := FMap.mem_iff_get?.mp huser
    have hid := hk.users _ _ hrow
    rw [touchUserLastSeen_of_get? { db with emailAuthentications := rows } hid hrow]
    refine sameResult_ok.trans ⟨fun h => ?_, fun ⟨hwhole, hmem⟩ => ?_⟩
    · have hwhole := hconsumed.mp h.credentials.emailAuths
      exact ⟨hwhole, (touched_users_iff hs.addresses hrow hwhole).mp h.addresses.users⟩
    · have hauths := hconsumed.mpr hwhole
      have hthrottles : s.throttles.del userID
          = db.loginThrottles.filter fun id _ => ¬ Matches userID id := by
        rw [hs.credentials.throttles, del_eq_filter hid]
      exact ⟨{ hs.addresses with users := (touched_users_iff hs.addresses hrow hwhole).mpr hmem },
        { hs.credentials with emailAuths := hauths, throttles := hthrottles }, { hs.oauth with }, hs.elsewhere⟩
  · rw [touchUserLastSeen_of_none { db with emailAuthentications := rows } huser]
    exact iff_of_false not_sameResult_error_ok fun h => huser (hs.addresses.mem_users h.2)

/-- **`ConsumeEmailAuthentication`**: the stores part on a missing or a foreign credential, which
the database cannot tell from a used one, and on a login of a user that is not there. -/
theorem consumeEmailAuthentication_agrees_iff (hs : SameTables db s) (hk : Keyed db)
    (tokenID userID : UUID) (at' : Time) (completesLogin : Bool) :
    SameResult (Postgres.consumeEmailAuthentication tokenID userID at' completesLogin db)
        (memoryBody (.account (.consumeEmailAuthentication tokenID userID at' completesLogin)) commit s)
      ↔ ∃ credential, s.emailAuths.get? tokenID = some credential ∧ credential.userID = userID
          ∧ (credential.usedAt = none → Whole at' ∧ (completesLogin → userID ∈ s.users)) := by
  rcases hcredential : s.emailAuths.get? tokenID with _ | credential
  · have hcheck : (Op.account (.consumeEmailAuthentication tokenID userID at' completesLogin)).mutation.check s
        = .error .notFound := find_bind_of_none hcredential _ _
    rw [memoryBody_of_error hcheck]
    rw [hs.credentials.emailAuths] at hcredential
    rw [consumeEmailAuthentication_of_none (by rw [hcredential]; rintro _ ⟨⟩), sameResult_error]
    refine iff_of_false (by decide) ?_
    rintro ⟨_, ⟨⟩, -⟩
  have hrow := hcredential
  rw [hs.credentials.emailAuths] at hrow
  obtain ⟨hid, howner⟩ := hk.emailAuthentications _ _ hrow
  simp only [Option.some.injEq, exists_eq_left']
  have hfound : (Op.account (.consumeEmailAuthentication tokenID userID at' completesLogin)).mutation.check s
      = (require (credential.userID = userID) .notFound >>= fun _ =>
          require (credential.usedAt = none) .conflict) := find_bind_of_some hcredential _ _
  by_cases hown : credential.userID = userID
  · rw [require_pos hown] at hfound
    by_cases hused : credential.usedAt = none
    · rw [memoryBody_of_ok (hfound.trans (require_pos hused _)) rfl,
        consumeEmailAuthentication_of_get? hid hrow ⟨⟨hown, hown ▸ howner⟩, hused⟩]
      have hconsumed := used_emailAuths_iff hs.credentials hrow at'
      cases completesLogin with
      | false =>
        refine sameResult_ok.trans ⟨fun h => ⟨hown, fun _ => ⟨?_, fun h => by cases h⟩⟩, fun h => ?_⟩
        · exact hconsumed.mp h.credentials.emailAuths
        · have hauths := hconsumed.mpr (h.2 hused).1
          exact ⟨{ hs.addresses with }, { hs.credentials with emailAuths := hauths },
            { hs.oauth with }, hs.elsewhere⟩
      | true =>
        refine (login_agrees_iff hs hk hconsumed).trans ?_
        simp [hown, hused]
    · rw [memoryBody_of_error (hfound.trans (require_neg hused _)), consumeEmailAuthentication_of_none]
      · exact iff_of_true (.error _) ⟨hown, fun h => absurd h hused⟩
      · intro row h hrow'
        rw [hrow] at h
        exact hused (Option.some.inj h ▸ hrow'.2)
  · rw [memoryBody_of_error (e := .notFound) (by rw [hfound, require_neg hown]; rfl),
      consumeEmailAuthentication_of_none, sameResult_error]
    · exact iff_of_false (by decide) fun h => hown h.1
    · intro row h hrow'
      rw [hrow] at h
      exact hown (Option.some.inj h ▸ hrow'.1.1)

end

end Credbound.Stores
