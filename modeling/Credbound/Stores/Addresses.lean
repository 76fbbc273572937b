import Credbound.Stores.Equal

/-!
# Stores/Addresses — the methods of address records compared in the two stores

For `VerifyEmail`, `ReissueEmailVerification` and `SetPrimaryEmail`, from equal states: which calls
end alike, with the same outcome and in equal states again.  Each method has a lemma for every way
its statements can go in the database, one that carries the equality of the address books over a
write, and the comparison.
-/

namespace Credbound.Stores

open Memory Postgres

section

variable {db w : Database} {s t : Store} {commit : Commit}

/-! ## Reading both states -/

section

variable (h : SameAddresses db s)

include h

theorem SameAddresses.get?_email (id : UUID) :
    s.emailAddresses.get? id = (db.userEmails.get? id).map (Database.emailFromRow id) := by
  rw [h.emailAddresses, FMap.get?_mapVal]

theorem SameAddresses.get?_row {id : UUID} {row : UserEmailRow} (hrow : db.userEmails.get? id = some row) :
    s.emailAddresses.get? id = some (Database.emailFromRow id row) := by
  rw [h.get?_email, hrow, Option.map_some]

/-- An address is in both stores, or in neither. -/
theorem SameAddresses.email_cases (id : UUID) :
    db.userEmails.get? id = none ∧ s.emailAddresses.get? id = none ∨ ∃ row, db.userEmails.get? id = some row
        ∧ s.emailAddresses.get? id = some (Database.emailFromRow id row) := by
  rw [h.get?_email]
  rcases db.userEmails.get? id with _ | row
  · exact .inl ⟨rfl, rfl⟩
  · exact .inr ⟨row, rfl, rfl⟩

/-- A user of the memory store has a row. -/
theorem SameAddresses.mem_users {id : UUID} (hid : id ∈ s.users) : id ∈ db.users := by
  obtain ⟨user, huser⟩ := FMap.mem_iff_get?.mp hid
  rw [h.users, Database.getUserByID, Option.bind_eq_some_iff] at huser
  obtain ⟨row, hrow, -⟩ := huser
  exact FMap.mem_of_get? hrow

end

/-- Rewriting address rows without their owner, rank and address leaves the users. -/
theorem getUserByID_mapVal {f : UUID → UserEmailRow → UserEmailRow}
    (hf : ∀ id row, db.userEmails.get? id = some row → (f id row).userID = row.userID
      ∧ (f id row).isPrimary = row.isPrimary ∧ (f id row).address = row.address) (userID : UUID) :
    Database.getUserByID { db with userEmails := db.userEmails.mapVal f } userID = db.getUserByID userID := by
  have hfind : (db.userEmails.mapVal f).find? (fun _ row => row.userID = userID ∧ row.isPrimary)
      = (db.primaryEmail userID).map fun e => (e.1, f e.1 e.2) := by
    refine FMap.find?_mapVal fun id row hrow => ?_
    obtain ⟨howner, hrank, -⟩ := hf id row hrow
    rw [howner, hrank]
  unfold Database.getUserByID
  refine congrArg (Option.bind _) (funext fun user => ?_)
  show ((db.userEmails.mapVal f).find? _).map _ = _
  rw [hfind, Option.map_map]
  cases he : db.primaryEmail userID with
  | none => rfl
  | some e =>
    obtain ⟨hrow, -⟩ := FMap.of_find? he
    show some (Database.userFromIDRow userID user (f e.1 e.2)) = some _
    rw [Database.userFromIDRow, (hf e.1 e.2 hrow).2.2]
    rfl

variable {row : UserEmailRow} {verification : EmailVerificationCredential} {userID emailID : UUID}

theorem getUserByID_set {id : UUID} (hrow : db.userEmails.get? id = some row) (row' : UserEmailRow)
    (howner : row'.userID = row.userID) (hrank : row'.isPrimary = row.isPrimary)
    (haddress : row'.address = row.address) (userID : UUID) :
    Database.getUserByID { db with userEmails := db.userEmails.set id row' } userID
      = db.getUserByID userID := by
  rw [FMap.set_eq_mapVal hrow]
  refine getUserByID_mapVal (fun k v hv => ?_) userID
  split
  · next hk =>
    obtain rfl := Option.some.inj (hrow.symm.trans (hk ▸ hv))
    exact ⟨howner, hrank, haddress⟩
  · exact ⟨rfl, rfl, rfl⟩

/-! ## `VerifyEmail` -/

theorem verifyEmail_of_pending (hid : emailID ≠ 0) (hrow : db.userEmails.get? emailID = some row)
    (hpending : row.verifiedAt = none) (verifiedAt : Time) : Postgres.verifyEmail emailID verifiedAt db
      = .ok { db with userEmails := db.userEmails.set emailID (verifiedRow verifiedAt row) } := by
  unfold Postgres.verifyEmail
  rw [execrows_of_get? hid hrow hpending]
  rfl

theorem verifyEmail_of_none (h : ∀ row, db.userEmails.get? emailID = some row → row.verifiedAt ≠ none)
    (verifiedAt : Time) :
    Postgres.verifyEmail emailID verifiedAt db = .error .notFound := by
  unfold Postgres.verifyEmail
  rw [execrows_of_none h]
  rfl

/-- What a verified record and a verified row have in common. -/
theorem SameAddresses.verify (h : SameAddresses db s) (hrow : db.userEmails.get? emailID = some row)
    (hpending : row.verifiedAt = none) {verifiedAt : Time} (hwhole : Whole verifiedAt) {email : EmailAddress}
    (hemail : email = Database.emailFromRow emailID row) :
    SameAddresses { db with userEmails := db.userEmails.set emailID (verifiedRow verifiedAt row) } { s with
        emailAddresses := s.emailAddresses.set emailID
          { email with verifiedAt := some verifiedAt, updatedAt := verifiedAt }
        emails := s.emails.set email.address email.userID
        emailVerifications := s.emailVerifications.del emailID } := by
  subst hemail
  have hget := h.get?_row hrow
  refine ⟨fun id => ?_, ?_, fun id => ?_, files_verify h.emails h.emailIDs hget hpending verifiedAt,
    h.emailIDs.set_same hget rfl rfl⟩
  · exact (h.users id).trans (getUserByID_set hrow (verifiedRow verifiedAt row) rfl rfl rfl id).symm
  · show s.emailAddresses.set emailID _ = (db.userEmails.set emailID _).mapVal _
    rw [FMap.mapVal_set, ← h.emailAddresses]
    refine congrArg (s.emailAddresses.set emailID) ?_
    unfold Database.emailFromRow verifiedRow
    rw [show timestamptz verifiedAt = verifiedAt from hwhole]
  · show (s.emailVerifications.del emailID).get? id = ((db.userEmails.set emailID _).get? id).bind _
    rw [FMap.get?_del, FMap.get?_set]
    split
    · rfl
    · exact h.emailVerifications id

/-- **`VerifyEmail`**: the stores part on an address that is verified already (a conflict there, not
found here), and in the time they note. -/
theorem verifyEmail_agrees_iff (hs : SameTables db s) (hk : Keyed db) (emailID : UUID) (verifiedAt : Time) :
    SameResult (Postgres.verifyEmail emailID verifiedAt db)
        (memoryBody (.email (.verifyEmail emailID verifiedAt)) commit s)
      ↔ ∀ email, s.emailAddresses.get? emailID = some email → email.verifiedAt = none ∧ Whole verifiedAt := by
  obtain ⟨hrow, hget⟩ | ⟨row, hrow, hget⟩ := hs.addresses.email_cases emailID
  · have hcheck : (Op.email (.verifyEmail emailID verifiedAt)).mutation.check s = .error .notFound :=
      find_bind_of_none hget _ _
    rw [verifyEmail_of_none (fun _ h => by rw [hrow] at h; cases h), memoryBody_of_error hcheck]
    refine iff_of_true (.error _) fun email he => ?_
    rw [hget] at he
    cases he
  · have hid := (hk.userEmails _ _ hrow).1
    have hfound : (Op.email (.verifyEmail emailID verifiedAt)).mutation.check s
        = require (row.verifiedAt = none) .conflict := find_bind_of_some hget _ _
    simp only [hget, Option.some.injEq, forall_eq']
    by_cases hpending : row.verifiedAt = none
    · rw [verifyEmail_of_pending hid hrow hpending,
        memoryBody_of_ok (hfound.trans (require_pos hpending _)) rfl, sameResult_ok]
      refine ⟨fun h => ⟨hpending, ?_⟩, fun h => ?_⟩
      · have hemail := h.addresses.get?_email emailID
        rw [FMap.get?_set_self, FMap.get?_set_self, Option.map_some] at hemail
        exact (Option.some.inj (congrArg EmailAddress.verifiedAt (Option.some.inj hemail))).symm
      · exact ⟨hs.addresses.verify hrow hpending h.2 (FMap.getI_of_get? hget), { hs.credentials with },
          { hs.oauth with }, hs.elsewhere⟩
    · rw [verifyEmail_of_none (fun row' h => by rw [hrow] at h; cases h; exact hpending),
        memoryBody_of_error (hfound.trans (require_neg hpending _)), sameResult_error]
      exact iff_of_false (by decide) fun h => hpending h.1

/-! ## `ReissueEmailVerification` -/

theorem reissueEmailVerification_of_pending (hid : emailID ≠ 0) (hrow : db.userEmails.get? emailID = some row)
    (hpending : row.verifiedAt = none) (at' : Time) :
    Postgres.reissueEmailVerification emailID verification at' db
      = if verification.digest = [] then .error .conflict
        else .ok { db with userEmails := db.userEmails.set emailID (reissuedRow verification at' row) } := by
  unfold Postgres.reissueEmailVerification
  rw [execrows_of_get? hid hrow hpending]
  show (constraint (1 = 0 ∨ verification.digest ≠ []) >>= _) = _
  split
  · next hdigest => rw [constraint, require_neg (by simp [hdigest])]; rfl
  · next hdigest => rw [constraint, require_pos (.inr hdigest)]; rfl

theorem reissueEmailVerification_of_none (h : ∀ row, db.userEmails.get? emailID = some row → row.verifiedAt ≠ none)
    (verification : EmailVerificationCredential) (at' : Time) :
    Postgres.reissueEmailVerification emailID verification at' db = .error .notFound := by
  unfold Postgres.reissueEmailVerification
  rw [execrows_of_none h]
  show (constraint (0 = 0 ∨ verification.digest ≠ []) >>= _) = _
  rw [constraint, require_pos (.inl rfl)]
  rfl

theorem SameAddresses.reissue (h : SameAddresses db s) (hrow : db.userEmails.get? emailID = some row)
    (hid : verification.emailID = emailID) (hexpires : Whole verification.expiresAt) {at' : Time} (hwhole : Whole at') :
    SameAddresses { db with userEmails := db.userEmails.set emailID (reissuedRow verification at' row) }
      { s with
        emailAddresses := s.emailAddresses.modify emailID fun email => { email with updatedAt := at' }
        emailVerifications := s.emailVerifications.set emailID verification } := by
  have hget := h.get?_row hrow
  rw [FMap.modify_of_get? hget]
  refine ⟨fun id => ?_, ?_, fun id => ?_, h.emails.set_same hget rfl rfl, h.emailIDs.set_same hget rfl rfl⟩
  · exact (h.users id).trans (getUserByID_set hrow (reissuedRow verification at' row) rfl rfl rfl id).symm
  · show s.emailAddresses.set emailID _ = (db.userEmails.set emailID _).mapVal _
    rw [FMap.mapVal_set, ← h.emailAddresses]
    refine congrArg (s.emailAddresses.set emailID) ?_
    unfold Database.emailFromRow reissuedRow
    rw [show timestamptz at' = at' from hwhole]
  · show (s.emailVerifications.set emailID verification).get? id
      = ((db.userEmails.set emailID _).get? id).bind _
    rw [FMap.get?_set, FMap.get?_set]
    split
    · next hk =>
      show some verification = some ⟨id, verification.digest, timestamptz verification.expiresAt⟩
      rw [show timestamptz verification.expiresAt = _ from hexpires, hk, ← hid]
    · exact h.emailVerifications id

/-- **`ReissueEmailVerification`**: the stores agree on a pending address only.  They note an
identifier, a digest and an expiry each in its own way. -/
theorem reissueEmailVerification_agrees_iff (hs : SameTables db s) (hk : Keyed db) (emailID : UUID)
    (verification : EmailVerificationCredential) (hwhole : Whole commit.audit.occurredAt) :
    SameResult (Postgres.reissueEmailVerification emailID verification commit.audit.occurredAt db)
        (memoryBody (.email (.reissueEmailVerification emailID verification)) commit s)
      ↔ ∃ email, s.emailAddresses.get? emailID = some email ∧ email.verifiedAt = none
          ∧ verification.emailID = emailID ∧ verification.digest ≠ []
          ∧ Whole verification.expiresAt := by
  obtain ⟨hrow, hget⟩ | ⟨row, hrow, hget⟩ := hs.addresses.email_cases emailID
  · have hcheck : (Op.email (.reissueEmailVerification emailID verification)).mutation.check s
        = .error .conflict := find_bind_of_none hget _ _
    rw [reissueEmailVerification_of_none (fun _ h => by rw [hrow] at h; cases h),
      memoryBody_of_error hcheck, sameResult_error]
    refine iff_of_false (by decide) ?_
    rintro ⟨email, he, -⟩
    rw [hget] at he
    cases he
  · have hid := (hk.userEmails _ _ hrow).1
    have hfound : (Op.email (.reissueEmailVerification emailID verification)).mutation.check s
        = require (row.verifiedAt = none) .conflict := find_bind_of_some hget _ _
    simp only [hget, Option.some.injEq, exists_eq_left']
    by_cases hpending : row.verifiedAt = none
    · rw [memoryBody_of_ok (hfound.trans (require_pos hpending _)) rfl,
        reissueEmailVerification_of_pending hid hrow hpending]
      by_cases hdigest : verification.digest = []
      · rw [if_pos hdigest]
        exact iff_of_false not_sameResult_error_ok fun h => h.2.2.1 hdigest
      · rw [if_neg hdigest, sameResult_ok]
        refine ⟨fun h => ?_, fun h => ?_⟩
        · have hnoted := h.addresses.emailVerifications emailID
          rw [FMap.get?_set_self, FMap.get?_set_self] at hnoted
          have hnoted : verification = ⟨emailID, verification.digest, timestamptz verification.expiresAt⟩ :=
            Option.some.inj hnoted
          exact ⟨hpending, congrArg EmailVerificationCredential.emailID hnoted, hdigest,
            (congrArg EmailVerificationCredential.expiresAt hnoted).symm⟩
        · exact ⟨hs.addresses.reissue hrow h.2.1 h.2.2.2 hwhole, { hs.credentials with },
            { hs.oauth with }, hs.elsewhere⟩
    · rw [reissueEmailVerification_of_none (fun row' h => by rw [hrow] at h; cases h; exact hpending),
        memoryBody_of_error (hfound.trans (require_neg hpending _)), sameResult_error]
      exact iff_of_false (by decide) fun h => hpending h.1

/-! ## `SetPrimaryEmail` -/

/-- What promoting an address does to a row. -/
def promotedRow (userID emailID : UUID) (at' : Time) (id : UUID) (row : UserEmailRow) : UserEmailRow :=
  if id = emailID then rankedRow true at' row
  else if Matches userID row.userID ∧ row.isPrimary then rankedRow false at' row
  else row

theorem promotedRow_kept (userID emailID : UUID) (at' : Time) (id : UUID) (row : UserEmailRow) :
    (promotedRow userID emailID at' id row).userID = row.userID
      ∧ (promotedRow userID emailID at' id row).address = row.address
      ∧ (promotedRow userID emailID at' id row).verifiedAt = row.verifiedAt
      ∧ verificationFromRow id (promotedRow userID emailID at' id row) = verificationFromRow id row := by
  unfold promotedRow
  split
  · exact ⟨rfl, rfl, rfl, rfl⟩
  · split <;> exact ⟨rfl, rfl, rfl, rfl⟩

theorem setPrimaryEmail_of_not (h : ∀ row, db.userEmails.get? emailID = some row →
      ¬ (row.userID = userID ∧ row.verifiedAt ≠ none)) (at' : Time) :
    Postgres.setPrimaryEmail userID emailID at' db = .error .notFound := by
  unfold Postgres.setPrimaryEmail select
  by_cases hid : emailID ≠ 0
  · rw [require_pos hid]
    rcases hrow : db.userEmails.get? emailID with _ | row
    · rw [find_of_none hrow]
      rfl
    · rw [find_of_some hrow]
      show (require (row.userID = userID ∧ row.verifiedAt ≠ none) .notFound >>= _) = _
      rw [require_neg (h row hrow)]
      rfl
  · rw [require_neg hid]
    rfl

section

variable (huser : row.userID ≠ 0) (hrow : db.userEmails.get? emailID = some row)

include huser hrow

theorem setPrimaryEmail_of_verified (hid : emailID ≠ 0) (hverified : row.verifiedAt ≠ none) (at' : Time) :
    Postgres.setPrimaryEmail row.userID emailID at' db
      = .ok { db with userEmails := db.userEmails.mapVal (promotedRow row.userID emailID at') } := by
  have hcleared : (clearPrimaryEmails row.userID at' db.userEmails).get? emailID
      = some (if Matches row.userID row.userID ∧ row.isPrimary then rankedRow false at' row else row) := by
    rw [clearPrimaryEmails, FMap.get?_update, hrow, Option.map_some]
  have hrows : execrows (clearPrimaryEmails row.userID at' db.userEmails)
      (fun id r => Matches emailID id ∧ (Matches row.userID r.userID ∧ r.verifiedAt ≠ none))
      (rankedRow true at') = (1, db.userEmails.mapVal (promotedRow row.userID emailID at')) := by
    rw [execrows_of_get? hid hcleared (by split <;> exact ⟨⟨rfl, huser⟩, hverified⟩)]
    refine congrArg (Prod.mk 1) (FMap.ext_get? fun k => ?_)
    rw [FMap.get?_set, FMap.get?_mapVal, clearPrimaryEmails, FMap.get?_update]
    by_cases hk : k = emailID
    · rw [if_pos hk, hk, hrow, Option.map_some, promotedRow, if_pos rfl]
      split <;> rfl
    · rw [if_neg hk]
      refine congrFun (congrArg Option.map (funext fun row => ?_)) _
      rw [promotedRow, if_neg hk]
  unfold Postgres.setPrimaryEmail select
  rw [require_pos hid, find_of_some hrow]
  show (require (row.userID = row.userID ∧ row.verifiedAt ≠ none) .notFound >>= _) = _
  rw [require_pos ⟨rfl, hverified⟩, hrows]
  rfl

/-- After a promotion the user reads with the promoted address… -/
theorem getUserByID_promoted (at' : Time) : Database.getUserByID
        { db with userEmails := db.userEmails.mapVal (promotedRow row.userID emailID at') } row.userID
      = (db.users.get? row.userID).map fun user => Database.userFromIDRow row.userID user row := by
  have hprimary : (db.userEmails.mapVal (promotedRow row.userID emailID at')).find?
      (fun _ r => r.userID = row.userID ∧ r.isPrimary) = some (emailID, rankedRow true at' row) := by
    refine FMap.find?_eq_some ?_ ⟨rfl, rfl⟩ ?_
    · rw [FMap.get?_mapVal, hrow, Option.map_some, promotedRow, if_pos rfl]
    · rintro k v hv ⟨hv₁, hv₂⟩
      rw [FMap.get?_mapVal] at hv
      obtain ⟨r, -, rfl⟩ := Option.map_eq_some_iff.mp hv
      by_contra hk
      rw [promotedRow, if_neg hk] at hv₁ hv₂
      split at hv₂
      · cases hv₂
      · next hkept =>
        rw [if_neg hkept] at hv₁
        exact hkept ⟨⟨hv₁, huser⟩, hv₂⟩
  unfold Database.getUserByID
  rw [Option.map_eq_bind]
  refine congrArg (Option.bind _) (funext fun user => ?_)
  show ((db.userEmails.mapVal (promotedRow row.userID emailID at')).find? _).map _ = _
  rw [hprimary]
  rfl

omit huser in
/-- …and every other user as before. -/
theorem getUserByID_promoted_other {other : UUID} (hne : other ≠ row.userID) (at' : Time) : Database.getUserByID
        { db with userEmails := db.userEmails.mapVal (promotedRow row.userID emailID at') } other
      = db.getUserByID other := by
  have hsame : ∀ id r, db.userEmails.get? id = some r → r.userID = other →
      promotedRow row.userID emailID at' id r = r := by
    intro id r hr hother
    have hid : id ≠ emailID := by
      rintro rfl
      obtain rfl := Option.mem_unique hrow hr
      exact hne hother.symm
    rw [promotedRow, if_neg hid, if_neg fun h => hne (hother.symm.trans h.1.1)]
  have hfind : (db.userEmails.mapVal (promotedRow row.userID emailID at')).find?
      (fun _ r => r.userID = other ∧ r.isPrimary) = db.primaryEmail other := by
    refine (FMap.find?_mapVal fun id r hr => ?_).trans ?_
    · by_cases hother : r.userID = other
      · rw [hsame id r hr hother]
      · refine iff_of_false (fun h => hother ?_) fun h => hother h.1
        rw [← (promotedRow_kept row.userID emailID at' id r).1, h.1]
    · show (db.primaryEmail other).map _ = _
      rcases he : db.primaryEmail other with _ | e
      · rfl
      · obtain ⟨hr, hother, -⟩ := FMap.of_find? he
        rw [Option.map_some, hsame e.1 e.2 hr hother]
  unfold Database.getUserByID
  refine congrArg (Option.bind _) (funext fun user => ?_)
  show ((db.userEmails.mapVal (promotedRow row.userID emailID at')).find? _).map _ = _
  rw [hfind]

variable (h : SameAddresses db s)

include h

omit huser hrow in
/-- A user of the memory store is a row joined with an address. -/
theorem SameAddresses.exists_row {id : UUID} {user : User}
    (huser : s.users.get? id = some user) :
    ∃ row email, db.users.get? id = some row ∧ user = Database.userFromIDRow id row email := by
  rw [h.users, Database.getUserByID, Option.bind_eq_some_iff] at huser
  obtain ⟨row, hrow, hemail⟩ := huser
  obtain ⟨email, -, rfl⟩ := Option.map_eq_some_iff.mp hemail
  exact ⟨row, email.2, hrow, rfl⟩

/-- The users after a promotion are the same exactly if the user was updated at that very time: the
memory store notes the time in the user, the database does not. -/
theorem promoted_users_iff (at' : Time) :
    (∀ id, (s.users.set row.userID { s.users.getI row.userID with email := row.address, updatedAt := at' }).get? id
          = Database.getUserByID
            { db with userEmails := db.userEmails.mapVal (promotedRow row.userID emailID at') } id)
      ↔ ∃ user, s.users.get? row.userID = some user ∧ user.updatedAt = at' := by
  constructor
  · intro hall
    have hself := hall row.userID
    rw [FMap.get?_set_self, getUserByID_promoted huser hrow] at hself
    obtain ⟨userRow, huserRow, heq⟩ := Option.map_eq_some_iff.mp hself.symm
    have hid : row.userID = (s.users.getI row.userID).id := congrArg User.id heq
    have hthere : s.users.get? row.userID = some (s.users.getI row.userID) := by
      refine FMap.get?_of_getI_ne fun hdefault => huser ?_
      rw [hid, hdefault]
      rfl
    refine ⟨_, hthere, ?_⟩
    obtain ⟨userRow', email, huserRow', hjoined⟩ := h.exists_row hthere
    obtain rfl := Option.mem_unique huserRow huserRow'
    rw [hjoined]
    exact congrArg User.updatedAt heq
  · rintro ⟨user, hthere, hupdated⟩ id
    obtain ⟨userRow, email, huserRow, rfl⟩ := h.exists_row hthere
    rw [FMap.get?_set]
    split
    · next hid =>
      rw [hid, getUserByID_promoted huser hrow, huserRow, Option.map_some, FMap.getI_of_get? hthere]
      subst hupdated
      rfl
    · next hid => exact (h.users id).trans (getUserByID_promoted_other hrow hid at').symm

/-- The rest of the address book after a promotion. -/
theorem SameAddresses.promote {at' : Time} (hwhole : Whole at')
    {user : User} (hthere : s.users.get? row.userID = some user) (hupdated : user.updatedAt = at')
    {target : EmailAddress} (htarget : target = Database.emailFromRow emailID row) :
    SameAddresses { db with userEmails := db.userEmails.mapVal (promotedRow row.userID emailID at') } { s with
        emailAddresses := (s.emailAddresses.mapVal fun _ email =>
          if email.userID = row.userID ∧ email.primary then
            { email with primary := false, updatedAt := at' }
          else email).set emailID { target with primary := true, updatedAt := at' }
        users := s.users.set row.userID
          { s.users.getI row.userID with email := target.address, updatedAt := at' } } := by
  subst htarget
  have hsame {X : Type} {f : EmailAddress → X} := Book.promote_same (b := s.book) (f := f) (h.get?_row hrow) user at'
  refine ⟨(promoted_users_iff huser hrow h at').mpr ⟨user, hthere, hupdated⟩,
    FMap.ext_get? fun id => ?_, fun id => ?_, h.emails.of_same (hsame fun _ _ => rfl),
    h.emailIDs.of_same fun id => hsame (fun _ _ => rfl) id⟩
  · show ((s.emailAddresses.mapVal _).set emailID _).get? id
      = ((db.userEmails.mapVal (promotedRow row.userID emailID at')).mapVal Database.emailFromRow).get? id
    rw [FMap.get?_set, FMap.get?_mapVal, FMap.get?_mapVal, FMap.get?_mapVal, h.get?_email]
    by_cases hid : id = emailID
    · rw [if_pos hid, hid, hrow, Option.map_some, Option.map_some, promotedRow, if_pos rfl]
      unfold Database.emailFromRow rankedRow
      rw [show timestamptz at' = at' from hwhole]
    · rw [if_neg hid, Option.map_map, Option.map_map]
      refine congrFun (congrArg Option.map (funext fun r => ?_)) _
      show (if r.userID = row.userID ∧ r.isPrimary then _ else _) = Database.emailFromRow id _
      rw [promotedRow, if_neg hid]
      by_cases hr : r.userID = row.userID ∧ r.isPrimary
      · rw [if_pos hr, if_pos ⟨⟨hr.1, huser⟩, hr.2⟩]
        unfold Database.emailFromRow rankedRow
        rw [show timestamptz at' = at' from hwhole]
      · rw [if_neg hr, if_neg fun h => hr ⟨h.1.1, h.2⟩]
  · show s.emailVerifications.get? id
      = ((db.userEmails.mapVal (promotedRow row.userID emailID at')).get? id).bind _
    rw [h.emailVerifications, FMap.get?_mapVal, Option.bind_map]
    refine congrArg (Option.bind _) (funext fun r => ?_)
    exact (promotedRow_kept row.userID emailID at' id r).2.2.2.symm

end

/-- **`SetPrimaryEmail`**: the stores part on the user's own address that is not verified (a conflict
there, not found here), and after every promotion, unless the user was last updated at its time. -/
theorem setPrimaryEmail_agrees_iff (hs : SameTables db s) (hk : Keyed db) (userID emailID : UUID)
    (hwhole : Whole commit.audit.occurredAt) :
    SameResult (Postgres.setPrimaryEmail userID emailID commit.audit.occurredAt db)
        (memoryBody (.email (.setPrimaryEmail userID emailID)) commit s)
      ↔ ∀ email, s.emailAddresses.get? emailID = some email → email.userID = userID →
          email.verifiedAt ≠ none ∧ ∃ user, s.users.get? userID = some user
            ∧ user.updatedAt = commit.audit.occurredAt := by
  obtain ⟨hrow, hget⟩ | ⟨row, hrow, hget⟩ := hs.addresses.email_cases emailID
  · have hcheck : (Op.email (.setPrimaryEmail userID emailID)).mutation.check s = .error .notFound :=
      find_bind_of_none hget _ _
    rw [setPrimaryEmail_of_not (fun _ h => by rw [hrow] at h; cases h), memoryBody_of_error hcheck]
    refine iff_of_true (.error _) fun email he => ?_
    rw [hget] at he
    cases he
  · obtain ⟨hid, howner⟩ := hk.userEmails _ _ hrow
    have hfound : (Op.email (.setPrimaryEmail userID emailID)).mutation.check s
        = (require (row.userID = userID) .notFound >>= fun _ =>
            require (row.verifiedAt ≠ none) .conflict) := find_bind_of_some hget _ _
    have honly : ∀ row', db.userEmails.get? emailID = some row' → row' = row := fun row' h =>
      Option.mem_unique h hrow
    simp only [hget, Option.some.injEq, forall_eq']
    by_cases hown : row.userID = userID
    · subst hown
      rw [require_pos rfl] at hfound
      by_cases hverified : row.verifiedAt ≠ none
      · rw [setPrimaryEmail_of_verified howner hrow hid hverified,
          memoryBody_of_ok (hfound.trans (require_pos hverified _)) rfl, sameResult_ok]
        refine ⟨fun h _ => ⟨hverified, ?_⟩, fun h => ?_⟩
        · have husers := h.addresses.users
          rw [FMap.getI_of_get? hget] at husers
          exact (promoted_users_iff howner hrow hs.addresses _).mp husers
        · obtain ⟨-, user, hthere, hupdated⟩ := h rfl
          exact ⟨hs.addresses.promote howner hrow hwhole hthere hupdated (FMap.getI_of_get? hget),
            { hs.credentials with }, { hs.oauth with }, hs.elsewhere⟩
      · rw [setPrimaryEmail_of_not (fun row' h hboth => hverified (honly row' h ▸ hboth.2)),
          memoryBody_of_error (hfound.trans (require_neg hverified _)), sameResult_error]
        exact iff_of_false (by decide) fun h => hverified (h rfl).1
    · rw [setPrimaryEmail_of_not (fun row' h => honly row' h ▸ fun hboth => hown hboth.1),
        memoryBody_of_error (hfound.trans (by rw [require_neg hown]; rfl))]
      exact iff_of_true (.error _) fun h => absurd h hown

end

end Credbound.Stores
