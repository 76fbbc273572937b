import Credbound.Memory.AddressBook
import Credbound.Memory.Calls
import Credbound.Postgres.Accounts

/-!
# Stores/Equal — equal states of the two stores, and a commit on both

`Same db s` says that a database and a memory store hold the same state: table by table the records
read from the rows are the records of the map, the indexes of the memory store find what the rows
say, and the audit logs are the same.

A `Plain` commit is one that nothing but the method can refuse: it is accepted by both audit logs,
carries no ceremony, and its hook has no objection.  Under a plain commit a method comes down to its
body in both stores, and `agree_iff_of_plain` compares the bodies.
-/

namespace Credbound.Stores

open Memory Postgres

/-- A time of whole microseconds, which a column holds as it is. -/
def Whole (t : Time) : Prop := timestamptz t = t

instance (t : Time) : Decidable (Whole t) := inferInstanceAs (Decidable (_ = _))

/-! ## Equal tables -/

/-- The pending verification of an address: the two columns are null together. -/
def verificationFromRow (id : UUID) (row : UserEmailRow) : Option EmailVerificationCredential :=
  row.verificationDigest.bind fun digest =>
    row.verificationExpiresAt.map fun expiresAt => ⟨id, digest, expiresAt⟩

/-- The tables that no method compared here writes. -/
def SameElsewhere (db : Database) (s : Store) : Prop :=
  s.workspaces = db.workspaces ∧ s.admins = db.instanceAdministrators
    ∧ s.oauthIssuers = db.oauthIssuers ∧ s.oauthResources = db.oauthResources
    ∧ s.oauthClients = db.oauthClients
    ∧ s.oauthCodes = db.oauthAuthorizationCodes.mapVal (fun _ row => row.data)
    ∧ (∀ workspaceID userID, s.membership? workspaceID userID = db.memberships.get? (workspaceID, userID))
    ∧ ∀ userID id, (s.passkeys.getI userID).get? id = (db.passkeys.get? id).filter (·.userID = userID)

/-- The users and their addresses.  A user is joined with the primary address; the indexes of the
memory store find what the rows say. -/
structure SameAddresses (db : Database) (s : Store) : Prop where
  users : ∀ id, s.users.get? id = db.getUserByID id
  emailAddresses : s.emailAddresses = db.userEmails.mapVal Database.emailFromRow
  emailVerifications : ∀ id, s.emailVerifications.get? id
    = (db.userEmails.get? id).bind (verificationFromRow id)
  emails : Files signInName (fun _ e => e.userID) s.emailAddresses s.emails
  emailIDs : Files (fun e => some e.address) (fun id _ => id) s.emailAddresses s.emailIDs

/-- The credentials of the users. -/
structure SameCredentials (db : Database) (s : Store) : Prop where
  passwords : s.passwords = db.passwordCredentials
  totp : s.totp = db.totpFactors
  recovery : ∀ userID digest usedAt, ⟨userID, digest, usedAt⟩ ∈ s.recovery.getI userID
    ↔ db.recoveryCodes.get? (userID, digest) = some usedAt
  pats : s.pats = db.personalAccessTokens
  sessions : s.sessions = db.sessions
  throttles : s.throttles = db.loginThrottles
  passwordResets : s.passwordResets = db.passwordResets
  emailAuths : s.emailAuths = db.emailAuthentications

/-- The grants and tokens of the authorization server. -/
structure SameOAuth (db : Database) (s : Store) : Prop where
  oauthGrants : db.oauthGrants = s.oauthGrants.mapVal fun _ => Database.grantRow
  oauthAccessTokens : db.oauthAccessTokens
    = s.oauthAccessTokens.mapVal fun _ => Database.accessTokenRow
  oauthRefreshTokens : s.oauthRefreshTokens
    = db.oauthRefreshTokens.mapVal fun _ => Database.refreshTokenFromRow
  refreshColumns : db.oauthRefreshTokens.All fun _ row =>
    row.grantID = row.data.grantID ∧ (row.revokedAt = none → row.data.revokedAt = none)

/-- The two stores hold the same records. -/
structure SameTables (db : Database) (s : Store) : Prop where
  addresses : SameAddresses db s
  credentials : SameCredentials db s
  oauth : SameOAuth db s
  elsewhere : SameElsewhere db s

/-- The audit logs are the same. -/
structure SameLog (db : Database) (s : Store) : Prop where
  audits : s.audits = db.auditEvents
  auditIDs : ∀ id, id ∈ s.auditIDs ↔ ∃ row ∈ db.auditEvents, row.id = id
  auditSequence : s.auditSequence = db.auditSequence
  auditHead : s.auditHead = db.auditHead
  started : 0 ≤ s.auditSequence

/-- **Equal states.** -/
structure Same (db : Database) (s : Store) : Prop where
  tables : SameTables db s
  log : SameLog db s

/-- What the schema says of the keys and owners of some tables: none is null. -/
structure Keyed (db : Database) : Prop where
  users : db.users.All fun id _ => id ≠ 0
  userEmails : db.userEmails.All fun id row => id ≠ 0 ∧ row.userID ≠ 0
  totpFactors : db.totpFactors.All fun id row => row.userID = id ∧ id ≠ 0
  passwordResets : db.passwordResets.All fun id _ => id ≠ 0
  emailAuthentications : db.emailAuthentications.All fun id row => id ≠ 0 ∧ row.userID ≠ 0
  oauthGrants : db.oauthGrants.All fun id _ => id ≠ 0

/-! ## The log apart -/

/-- The tables of one database with the log of another. -/
def withLog (db log : Database) : Database :=
  { db with
    auditEvents := log.auditEvents
    auditSequence := log.auditSequence
    auditHead := log.auditHead }

/-- The tables do not depend on the log… -/
theorem sameTables_withLog {db log : Database} {s : Store} :
    SameTables (withLog db log) s ↔ SameTables db s := by
  constructor
  all_goals
    rintro ⟨a, c, o, e⟩
    exact ⟨{ a with }, { c with }, { o with }, e⟩

/-- …of either store. -/
theorem sameTables_commitAudit {db : Database} {s : Store} (event : AuditEvent) (unchained : Bool) :
    SameTables db (s.commitAudit event unchained) ↔ SameTables db s := by
  cases unchained
  all_goals
    constructor
    all_goals
      rintro ⟨a, c, o, e⟩
      exact ⟨{ a with }, { c with }, { o with }, e⟩

variable {event : AuditEvent} {db db' : Database}

/-- What inserting an event leaves, and that the log alone decides it. -/
theorem insertAudit_withLog (h : db.insertAudit event = .ok db') (w : Database) :
    db' = { db with auditEvents := db.auditEvents ++ [Database.auditRow event] }
      ∧ (withLog w db).insertAudit event = .ok (withLog w db') := by
  unfold Database.insertAudit at h ⊢
  rw [check_bind] at h
  obtain ⟨_, hadmitted, hret⟩ := h
  rw [require_eq_ok] at hadmitted
  cases hret
  refine ⟨rfl, ?_⟩
  rw [require, if_pos (show Database.AuditAdmitted (withLog w db).auditEvents event from hadmitted)]
  rfl

/-- …and chaining one. -/
theorem chainAudit_withLog (h : db.chainAudit event = .ok db') (w : Database) : db' = { db with
        auditEvents := db.auditEvents ++ [Database.auditRow (db.linked (Database.actedBy event))]
        auditSequence := db.auditSequence + 1
        auditHead := (db.linked (Database.actedBy event)).hash }
      ∧ (withLog w db).chainAudit event = .ok (withLog w db') := by
  unfold Database.chainAudit at h ⊢
  rw [check_bind] at h
  obtain ⟨mid, hmid, hret⟩ := h
  cases hret
  obtain ⟨rfl, hw⟩ := insertAudit_withLog hmid w
  refine ⟨rfl, ?_⟩
  show ((withLog w db).insertAudit (db.linked (Database.actedBy event)) >>= _) = _
  rw [hw]
  rfl

theorem appendAudit_withLog {unchained : Bool} (h : db.appendAudit event unchained = .ok db') (w : Database) :
    (withLog w db).appendAudit event unchained = .ok (withLog w db') := by
  unfold Database.appendAudit at h ⊢
  split at h
  · next hu => rw [if_pos hu, (insertAudit_withLog h w).2]
  · next hu => rw [if_neg hu, (chainAudit_withLog h w).2]

theorem actedBy_fields (event : AuditEvent) : (Database.actedBy event).id = event.id
      ∧ (Database.actedBy event).occurredAt = event.occurredAt
      ∧ (Database.actedBy event).sequence = event.sequence := by
  unfold Database.actedBy
  split <;> exact ⟨rfl, rfl, rfl⟩

/-- An event of whole microseconds, with a number or none, is read back as it is. -/
theorem auditRow_eq_self (hwhole : timestamptz event.occurredAt = event.occurredAt) (hnumber : 0 ≤ event.sequence) :
    Database.auditRow event = event := by
  have hsequence : (if 0 < event.sequence then event.sequence else 0) = event.sequence := by
    split <;> omega
  rw [Database.auditRow, hwhole, hsequence]

theorem mem_insert_iff_append {audits : List AuditEvent} {ids : Finset UUID}
    (h : ∀ id, id ∈ ids ↔ ∃ row ∈ audits, row.id = id) (event : AuditEvent) (id : UUID) :
    id ∈ insert event.id ids ↔ ∃ row ∈ audits ++ [event], row.id = id := by
  simp only [Finset.mem_insert, h, List.mem_append, List.mem_singleton, or_and_right, exists_or,
    exists_eq_left]
  rw [or_comm, eq_comm]

/-- **The same event keeps the logs the same**, at a time of whole microseconds. -/
theorem SameLog.append {s : Store} (h : SameLog db s) {unchained : Bool}
    (hpg : db.appendAudit event unchained = .ok db') (hwhole : timestamptz event.occurredAt = event.occurredAt)
    (hnumber : 0 ≤ event.sequence) :
    SameLog db' (s.commitAudit event unchained) := by
  obtain ⟨hid, hoccurred, hsequence⟩ := actedBy_fields event
  rw [← hoccurred] at hwhole
  cases unchained with
  | true =>
    obtain ⟨rfl, -⟩ := insertAudit_withLog hpg db
    rw [auditRow_eq_self hwhole (hsequence ▸ hnumber)]
    exact {
      audits := congrArg (· ++ [Database.actedBy event]) h.audits
      auditIDs := mem_insert_iff_append h.auditIDs (Database.actedBy event)
      auditSequence := h.auditSequence
      auditHead := h.auditHead
      started := h.started }
  | false =>
    obtain ⟨rfl, -⟩ := chainAudit_withLog hpg db
    have hnext : 0 ≤ db.auditSequence + 1 := by
      have := h.auditSequence ▸ h.started
      omega
    have hlinked : s.commitAudit event false = { s with
        auditSequence := db.auditSequence + 1
        auditHead := (db.linked (Database.actedBy event)).hash
        audits := db.auditEvents ++ [db.linked (Database.actedBy event)]
        auditIDs := insert (db.linked (Database.actedBy event)).id s.auditIDs } := by
      rw [← h.audits]
      unfold Database.linked
      rw [← h.auditSequence, ← h.auditHead]
      rfl
    have hrow : Database.auditRow (db.linked (Database.actedBy event))
        = db.linked (Database.actedBy event) := auditRow_eq_self hwhole hnext
    rw [hlinked, hrow]
    exact {
      audits := rfl
      auditIDs := mem_insert_iff_append h.auditIDs (db.linked (Database.actedBy event))
      auditSequence := rfl
      auditHead := rfl
      started := hnext }

/-! ## Plain commits -/

/-- A commit that nothing but the method can refuse. -/
structure Plain (ctx : Context) (commit : Commit) (db : Database) (s : Store) : Prop where
  live : ctx.err = none
  ceremony : commit.ceremony = none
  hook : ∀ kind, commit.hookErr ctx kind = none
  memory : s.canAudit commit.audit = .ok ()
  postgres : ∃ db', db.appendAudit commit.audit commit.unchained = .ok db'
  whole : timestamptz commit.audit.occurredAt = commit.audit.occurredAt
  number : 0 ≤ commit.audit.sequence

section

variable {ctx : Context} {commit : Commit} {db : Database} {s : Store}

/-- Under a plain commit a transaction is its body and the event after it. -/
theorem mutate_of_plain (h : Plain ctx commit db s) {db' : Database}
    (hdb' : db.appendAudit commit.audit commit.unchained = .ok db')
    {fn : Database → Except Err Database} (hfn : ∀ w, fn db = .ok w → withLog w db = w) :
    mutate ctx commit fn db = match fn db with
        | .ok w => (.ok (), withLog w db')
        | .error e => (.err e, db) := by
  unfold mutate mutateIf atomically
  rw [h.live]
  unfold transactIf Database.consumeCeremony
  rw [h.ceremony]
  show (match (changing fn db >>= _ : Except Err Database) with | .ok db' => _ | .error e => _) = _
  unfold changing
  cases hw : fn db with
  | error e => rfl
  | ok w =>
    have hlog := appendAudit_withLog hdb' w
    rw [hfn w hw] at hlog
    show (match (runHook ctx commit >>= fun _ => w.appendAudit commit.audit commit.unchained :
      Except Err Database) with | .ok db' => _ | .error e => _) = _
    rw [runHook, h.hook .postgresql]
    show (match (w.appendAudit commit.audit commit.unchained : Except Err Database) with
      | .ok db' => _ | .error e => _) = _
    rw [hlog]

variable {t : Store}

/-- …and so is a call. -/
theorem run_of_plain (h : Plain ctx commit db s) {o : Op} (hwrite : o.mutation.write commit s = .ok t) :
    Call.run ⟨.op o, commit, ctx⟩ s = match o.mutation.check s with
        | .ok () => (.ok (), t.commitAudit commit.audit commit.unchained)
        | .error e => (.err e, s) := by
  rw [Call.run, Call.attempt, Method.attempt, Mutation.attempt, h.live]
  dsimp only
  cases o.mutation.check s with
  | error e => rfl
  | ok _ =>
    dsimp only
    unfold Store.prepareAndWrite Store.prepareCommitLocked
    rw [h.memory, h.ceremony]
    dsimp only
    rw [hwrite]
    simp only [Attempt.finish, Store.finishCommitLocked, h.hook]

/-- The bodies of a method in the two stores end alike: in the same error, or in equal tables. -/
inductive SameResult : Except Err Database → Except Err Store → Prop
  | error (e : Err) : SameResult (.error e) (.error e)
  | ok (w : Database) (t : Store) (h : SameTables w t) : SameResult (.ok w) (.ok t)

/-- The body of a method in the memory store. -/
def memoryBody (o : Op) (commit : Commit) (s : Store) : Except Err Store :=
  (o.mutation.check s).map fun _ => o.mutation.result commit s

theorem sameResult_ok {w : Database} : SameResult (.ok w) (.ok t) ↔ SameTables w t := ⟨fun h => by
    cases h with
    | ok _ _ h => exact h, .ok w t⟩

theorem sameResult_error {e e' : Err} : SameResult (.error e) (.error e') ↔ e = e' := ⟨fun h => by
    cases h
    rfl, fun h => h ▸ .error e⟩

theorem not_sameResult_ok_error {w : Database} {e : Err} : ¬ SameResult (.ok w) (.error e) :=
  fun h => by cases h

theorem not_sameResult_error_ok {e : Err} : ¬ SameResult (.error e) (.ok t) := fun h => by cases h

theorem memoryBody_of_error {o : Op} {e : Err} (h : o.mutation.check s = .error e) :
    memoryBody o commit s = .error e := by
  rw [memoryBody, h]
  rfl

theorem memoryBody_of_ok {o : Op} (h : o.mutation.check s = .ok ()) (hw : o.mutation.write commit s = .ok t) :
    memoryBody o commit s = .ok t := by
  rw [memoryBody, h, Mutation.result_of_ok hw]
  rfl

theorem SameLog.congr {w : Database} {t u : Store} (h : SameLog w t) (haudits : u.audits = t.audits)
    (hids : u.auditIDs = t.auditIDs) (hsequence : u.auditSequence = t.auditSequence)
    (hhead : u.auditHead = t.auditHead) : SameLog w u :=
  ⟨haudits.trans h.audits, fun id => hids ▸ h.auditIDs id, hsequence.trans h.auditSequence,
    hhead.trans h.auditHead, hsequence ▸ h.started⟩

/-- A write that leaves the log alone. -/
def KeepsLog (s t : Store) : Prop :=
  t.audits = s.audits ∧ t.auditIDs = s.auditIDs ∧ t.auditSequence = s.auditSequence
    ∧ t.auditHead = s.auditHead

/-- Appending the same event to the same log. -/
theorem SameLog.append_of_keepsLog {event : AuditEvent} {unchained : Bool}
    (h : SameLog db (s.commitAudit event unchained)) (hk : KeepsLog s t) :
    SameLog db (t.commitAudit event unchained) := by
  obtain ⟨haudits, hids, hsequence, hhead⟩ := hk
  refine h.congr ?_ ?_ ?_ ?_
  all_goals
    unfold Store.commitAudit
    cases unchained <;>
      simp only [haudits, hids, hsequence, hhead, Bool.false_eq_true, if_false, if_true]

/-- **Under a plain commit two equal stores agree on a method exactly if its bodies do.** -/
theorem agree_iff_of_plain (hsame : Same db s) (h : Plain ctx commit db s) {o : Op}
    (hwrite : o.mutation.write commit s = .ok t) (hkeeps : KeepsLog s t) {fn : Database → Except Err Database}
    (hfn : ∀ w, fn db = .ok w → withLog w db = w) :
    ((mutate ctx commit fn db).1 = (Call.run ⟨.op o, commit, ctx⟩ s).1
        ∧ Same (mutate ctx commit fn db).2 (Call.run ⟨.op o, commit, ctx⟩ s).2)
      ↔ SameResult (fn db) (memoryBody o commit s) := by
  obtain ⟨db', hdb'⟩ := h.postgres
  have hlog : SameLog db' (t.commitAudit commit.audit commit.unchained) :=
    (hsame.log.append hdb' h.whole h.number).append_of_keepsLog hkeeps
  rw [mutate_of_plain h hdb' hfn, run_of_plain h hwrite, memoryBody, Mutation.result_of_ok hwrite]
  cases hw : fn db with
  | error e =>
    cases o.mutation.check s with
    | error e' =>
      constructor
      · rintro ⟨he, -⟩
        cases he
        exact .error e
      · intro hresult
        cases hresult
        exact ⟨rfl, hsame⟩
    | ok _ => exact iff_of_false (fun h => by cases h.1) (fun hresult => by cases hresult)
  | ok w =>
    cases o.mutation.check s with
    | error e' => exact iff_of_false (fun h => by cases h.1) (fun hresult => by cases hresult)
    | ok _ =>
      constructor
      · rintro ⟨-, htables, -⟩
        exact .ok w t ((sameTables_commitAudit _ _).mp (sameTables_withLog.mp htables))
      · intro hresult
        cases hresult with
        | ok _ _ htables =>
          refine ⟨rfl, (sameTables_commitAudit _ _).mpr (sameTables_withLog.mpr htables), ?_⟩
          exact ⟨hlog.audits, hlog.auditIDs, hlog.auditSequence, hlog.auditHead, hlog.started⟩

end

end Credbound.Stores
