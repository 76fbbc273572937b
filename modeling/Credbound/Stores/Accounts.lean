import Credbound.Stores.Resets

/-!
# Stores/Accounts — six account methods in the two stores

`VerifyEmail`, `ReissueEmailVerification`, `SetPrimaryEmail`, `SaveTOTPEnrollment`,
`ConsumeEmailAuthentication` and `CompletePasswordReset` test their preconditions one by one in the
memory store; the database folds them into a conditional statement and a row count, and the count
alone decides between not found and conflict.

`SharedOp.Agrees` says where the two come to the same.  It is a condition on the state and the
arguments, and `sharedOp_agrees_iff` shows that it is exactly the right one.
-/

namespace Credbound.Stores

open Memory Postgres

/-- The methods compared. -/
inductive SharedOp
  | verifyEmail (emailID : UUID) (verifiedAt : Time)
  | reissueEmailVerification (emailID : UUID) (verification : EmailVerificationCredential)
  | setPrimaryEmail (userID emailID : UUID)
  | saveTOTPEnrollment (factor : TOTPFactor)
  | consumeEmailAuthentication (tokenID userID : UUID) (at' : Time) (completesLogin : Bool)
  | completePasswordReset (resetID : UUID) (password : PasswordCredential) (at' : Time)

/-- The method of the memory store. -/
def SharedOp.memory : SharedOp → Op
  | .verifyEmail emailID verifiedAt => .email (.verifyEmail emailID verifiedAt)
  | .reissueEmailVerification emailID verification =>
      .email (.reissueEmailVerification emailID verification)
  | .setPrimaryEmail userID emailID => .email (.setPrimaryEmail userID emailID)
  | .saveTOTPEnrollment factor => .factor (.saveTOTPEnrollment factor)
  | .consumeEmailAuthentication tokenID userID at' completesLogin =>
      .account (.consumeEmailAuthentication tokenID userID at' completesLogin)
  | .completePasswordReset resetID password at' =>
      .account (.completePasswordReset resetID password at')

/-- The method of the PostgreSQL store, inside its transaction. -/
def SharedOp.postgres (commit : Commit) : SharedOp → Database → Except Err Database
  | .verifyEmail emailID verifiedAt => Postgres.verifyEmail emailID verifiedAt
  | .reissueEmailVerification emailID verification =>
      Postgres.reissueEmailVerification emailID verification commit.audit.occurredAt
  | .setPrimaryEmail userID emailID =>
      Postgres.setPrimaryEmail userID emailID commit.audit.occurredAt
  | .saveTOTPEnrollment factor => Postgres.saveTOTPEnrollment factor
  | .consumeEmailAuthentication tokenID userID at' completesLogin =>
      Postgres.consumeEmailAuthentication tokenID userID at' completesLogin
  | .completePasswordReset resetID password at' =>
      Postgres.completePasswordReset resetID password at'


/-- Where the stores agree on a method, from equal states. -/
def SharedOp.Agrees (s : Store) (occurredAt : Time) : SharedOp → Prop
  | .verifyEmail emailID verifiedAt => ∀ email, s.emailAddresses.get? emailID = some email →
      email.verifiedAt = none ∧ Whole verifiedAt
  | .reissueEmailVerification emailID verification =>
      ∃ email, s.emailAddresses.get? emailID = some email ∧ email.verifiedAt = none
        ∧ verification.emailID = emailID ∧ verification.digest ≠ [] ∧ Whole verification.expiresAt
  | .setPrimaryEmail userID emailID =>
      ∀ email, s.emailAddresses.get? emailID = some email → email.userID = userID →
        email.verifiedAt ≠ none ∧ ∃ user, s.users.get? userID = some user ∧ user.updatedAt = occurredAt
  | .saveTOTPEnrollment factor =>
      if (s.totp.get? factor.userID).any (·.active) then factor.encryptedSecret = []
      else factor.userID ∈ s.users ∧ factor.encryptedSecret ≠ [] ∧ Enrollable s factor
  | .consumeEmailAuthentication tokenID userID at' completesLogin =>
      ∃ credential, s.emailAuths.get? tokenID = some credential ∧ credential.userID = userID
        ∧ (credential.usedAt = none → Whole at' ∧ (completesLogin → userID ∈ s.users))
  | .completePasswordReset resetID password at' =>
      ∃ credential, s.passwordResets.get? resetID = some credential
        ∧ (credential.usedAt = none → password.userID ∈ s.users ∧ Whole at'
          ∧ Whole password.updatedAt ∧ RevokedAlike s password.userID at')

section

variable {db w : Database} {s : Store} {commit : Commit} {ctx : Context}

/-! ## The bodies and the log -/

/-- A method of the memory store writes without fail, and leaves the log alone. -/
theorem SharedOp.write_memory (op : SharedOp) (commit : Commit) (s : Store) :
    ∃ t, op.memory.mutation.write commit s = .ok t ∧ KeepsLog s t := by
  cases op with
  | consumeEmailAuthentication tokenID userID at' completesLogin =>
    cases completesLogin
    · exact ⟨_, rfl, rfl, rfl, rfl, rfl⟩
    · exact ⟨_, rfl, rfl, rfl, rfl, rfl⟩
  | _ => exact ⟨_, rfl, rfl, rfl, rfl, rfl⟩

theorem withLog_touchUserLastSeen {userID : UUID} {at' : Time}
    (h : db.touchUserLastSeen userID at' = .ok w) : withLog w db = w := by
  unfold Database.touchUserLastSeen at h
  obtain ⟨_, -, hret⟩ := check_bind.mp h
  cases hret
  rfl

theorem withLog_consumeEmailAuthentication {tokenID userID : UUID} {at' : Time} {completesLogin : Bool}
    (h : Postgres.consumeEmailAuthentication tokenID userID at' completesLogin db = .ok w) :
    withLog w db = w := by
  unfold Postgres.consumeEmailAuthentication at h
  obtain ⟨_, -, hrest⟩ := check_bind.mp h
  cases completesLogin with
  | false =>
    cases hrest
    rfl
  | true =>
    obtain ⟨v, hv, hret⟩ := check_bind.mp hrest
    cases hret
    have hlog := withLog_touchUserLastSeen hv
    exact congrArg (Database.clearLoginThrottle userID) hlog

theorem withLog_completePasswordReset (hk : Keyed db) {resetID : UUID} {password : PasswordCredential}
    {at' : Time} (h : Postgres.completePasswordReset resetID password at' db = .ok w) :
    withLog w db = w := by
  by_cases hunused : ∃ row, db.passwordResets.get? resetID = some row ∧ row.usedAt = none
  · obtain ⟨row, hrow, hunused⟩ := hunused
    rw [completePasswordReset_of_get? hk hrow hunused] at h
    split at h
    · cases h
      rfl
    · cases h
  · rw [completePasswordReset_of_none password fun row hrow hnone => hunused ⟨row, hrow, hnone⟩] at h
    cases h

/-- …and so does a body of the database. -/
theorem SharedOp.withLog_postgres (op : SharedOp) (hk : Keyed db)
    (h : op.postgres commit db = .ok w) : withLog w db = w := by
  cases op with
  | verifyEmail =>
    obtain ⟨_, -, hret⟩ := check_bind.mp h
    cases hret
    rfl
  | reissueEmailVerification =>
    obtain ⟨_, -, hrest⟩ := check_bind.mp h
    obtain ⟨_, -, hret⟩ := check_bind.mp hrest
    cases hret
    rfl
  | setPrimaryEmail | saveTOTPEnrollment =>
    obtain ⟨_, -, hrest⟩ := check_bind.mp h
    obtain ⟨_, -, hrest⟩ := check_bind.mp hrest
    obtain ⟨_, -, hret⟩ := check_bind.mp hrest
    cases hret
    rfl
  | consumeEmailAuthentication => exact withLog_consumeEmailAuthentication h
  | completePasswordReset => exact withLog_completePasswordReset hk h

/-! ## The stores compared -/

/-- The bodies of a method end alike where the stores agree. -/
theorem SharedOp.sameResult_iff (op : SharedOp) (hs : SameTables db s) (hk : Keyed db)
    (hwhole : Whole commit.audit.occurredAt) :
    SameResult (op.postgres commit db) (memoryBody op.memory commit s)
      ↔ op.Agrees s commit.audit.occurredAt := by
  cases op with
  | verifyEmail emailID verifiedAt => exact verifyEmail_agrees_iff hs hk emailID verifiedAt
  | reissueEmailVerification emailID verification =>
    exact reissueEmailVerification_agrees_iff hs hk emailID verification hwhole
  | setPrimaryEmail userID emailID => exact setPrimaryEmail_agrees_iff hs hk userID emailID hwhole
  | saveTOTPEnrollment factor => exact saveTOTPEnrollment_agrees_iff hs hk factor
  | consumeEmailAuthentication tokenID userID at' completesLogin =>
    exact consumeEmailAuthentication_agrees_iff hs hk tokenID userID at' completesLogin
  | completePasswordReset resetID password at' =>
    exact completePasswordReset_agrees_iff hs hk resetID password at'

/-- **From equal states a method returns the same in both stores and leaves equal states exactly
where they agree**, under a commit that nothing but the method can refuse. -/
theorem sharedOp_agrees_iff (op : SharedOp) (hsame : Same db s) (hk : Keyed db)
    (hplain : Plain ctx commit db s) :
    ((mutate ctx commit (op.postgres commit) db).1 = (Call.run ⟨.op op.memory, commit, ctx⟩ s).1
        ∧ Same (mutate ctx commit (op.postgres commit) db).2 (Call.run ⟨.op op.memory, commit, ctx⟩ s).2)
      ↔ op.Agrees s commit.audit.occurredAt := by
  obtain ⟨t, hwrite, hkeeps⟩ := op.write_memory commit s
  refine (agree_iff_of_plain hsame hplain hwrite hkeeps fun w hw => op.withLog_postgres hk hw).trans ?_
  exact op.sameResult_iff hsame.tables hk hplain.whole

/-! ## Runs of both stores -/

/-- One of the methods, called on both stores. -/
structure SharedCall where
  op : SharedOp
  commit : Commit
  ctx : Context

namespace SharedCall

variable (x : Database × Store) (c : SharedCall)

def postgres : Outcome Unit × Database := mutate c.ctx c.commit (c.op.postgres c.commit) x.1

def memory : Outcome Unit × Store := Call.run ⟨.op c.op.memory, c.commit, c.ctx⟩ x.2

def next : Database × Store := ((c.postgres x).2, (c.memory x).2)

/-- The stores answer the same, and are equal afterwards. -/
def InStep : Prop := (c.postgres x).1 = (c.memory x).1 ∧ Same (c.postgres x).2 (c.memory x).2

end SharedCall

/-- **The database simulates the memory store**: under plain commits, equal stores answer every call of a run alike
and stay equal exactly as long as each call is one that they agree on. -/
theorem stores_in_step_iff {x : Database × Store} (hsame : Same x.1 x.2) {calls : List SharedCall}
    (hplain : Run.Meets SharedCall.next (fun x c => Keyed x.1 ∧ Plain c.ctx c.commit x.1 x.2) x calls) :
    Run.Meets SharedCall.next (fun x c => c.InStep x) x calls
      ↔ Run.Meets SharedCall.next (fun x c => c.op.Agrees x.2 c.commit.audit.occurredAt) x calls := by
  induction calls generalizing x with
  | nil => exact Iff.rfl
  | cons c calls ih =>
    obtain ⟨⟨hk, hplain⟩, hrest⟩ := hplain
    obtain ⟨t, hwrite, hkeeps⟩ := c.op.write_memory c.commit x.2
    have hstep : c.InStep x ↔ c.op.Agrees x.2 c.commit.audit.occurredAt :=
      (agree_iff_of_plain hsame hplain hwrite hkeeps fun w hw => c.op.withLog_postgres hk hw).trans
        (c.op.sameResult_iff hsame.tables hk hplain.whole)
    constructor
    · rintro ⟨hin, hmore⟩
      exact ⟨hstep.mp hin, (ih hin.2 hrest).mp hmore⟩
    · rintro ⟨hagrees, hmore⟩
      have hin := hstep.mpr hagrees
      exact ⟨hin, (ih hin.2 hrest).mpr hmore⟩

end

/-! ## An account with a verified address -/

/-- The row of the user… -/
def accountRow : UserRow := { (default : UserRow) with createdAt := 1000, updatedAt := 1000 }

/-- …and that of the address, verified and primary. -/
def addressRow : UserEmailRow :=
  { (default : UserEmailRow) with
    userID := uuidv7 1
    address := "user@example.com"
    isPrimary := true
    verifiedAt := some 1000
    createdAt := 1000
    updatedAt := 1000 }

/-- The account in the database… -/
def databaseAccount : Database :=
  { Database.new with
    users := (∅ : FMap UUID UserRow).set (uuidv7 1) accountRow
    userEmails := (∅ : FMap UUID UserEmailRow).set (uuidv7 2) addressRow }

/-- …and in the memory store. -/
def memoryAccount : Store :=
  { Store.new with
    users := (∅ : FMap UUID User).set (uuidv7 1) (Database.userFromIDRow (uuidv7 1) accountRow addressRow)
    emailAddresses := (∅ : FMap UUID EmailAddress).set (uuidv7 2)
      (Database.emailFromRow (uuidv7 2) addressRow)
    emails := (∅ : FMap String UUID).set "user@example.com" (uuidv7 1)
    emailIDs := (∅ : FMap String UUID).set "user@example.com" (uuidv7 2) }

/-- A commit at a whole microsecond. -/
def accountCommit : Commit where
  audit := { (commitOf (uuidv7 9) 2000).audit with outcome := .succeeded }

theorem same_account : Same databaseAccount memoryAccount where
  tables := {
    addresses := {
      users := fun id => by
        by_cases hid : id = uuidv7 1
        · rw [hid]
          rfl
        · show ((∅ : FMap UUID User).set (uuidv7 1) _).get? id
            = (((∅ : FMap UUID UserRow).set (uuidv7 1) accountRow).get? id).bind _
          rw [FMap.get?_set_ne _ _ hid, FMap.get?_set_ne _ _ hid, FMap.get?_empty, FMap.get?_empty]
          rfl
      emailAddresses :=
        (FMap.mapVal_set (∅ : FMap UUID UserEmailRow) (uuidv7 2) addressRow Database.emailFromRow).symm
      emailVerifications := fun id => by
        by_cases hid : id = uuidv7 2
        · rw [hid]
          rfl
        · show (∅ : FMap UUID EmailVerificationCredential).get? id
            = (((∅ : FMap UUID UserEmailRow).set (uuidv7 2) addressRow).get? id).bind _
          rw [FMap.get?_set_ne _ _ hid, FMap.get?_empty, FMap.get?_empty]
          rfl
      emails := Files.singleton rfl
      emailIDs := Files.singleton rfl }
    credentials := {
      passwords := rfl
      totp := rfl
      recovery := fun userID digest usedAt => iff_of_false List.not_mem_nil fun h => by cases h
      pats := rfl
      sessions := rfl
      throttles := rfl
      passwordResets := rfl
      emailAuths := rfl }
    oauth := {
      oauthGrants := rfl
      oauthAccessTokens := rfl
      oauthRefreshTokens := rfl
      refreshColumns := FMap.All.empty }
    elsewhere := ⟨rfl, rfl, rfl, rfl, rfl, rfl, fun _ _ => rfl, fun _ _ => rfl⟩ }
  log := {
    audits := rfl
    auditIDs := fun id => iff_of_false (Finset.notMem_empty id) (by
      rintro ⟨_, h, -⟩
      exact List.not_mem_nil h)
    auditSequence := rfl
    auditHead := rfl
    started := Int.le_refl 0 }

theorem keyed_account : Keyed databaseAccount where
  users := FMap.All.empty.set (by decide)
  userEmails := FMap.All.empty.set (by decide)
  totpFactors := FMap.All.empty
  passwordResets := FMap.All.empty
  emailAuthentications := FMap.All.empty
  oauthGrants := FMap.All.empty

theorem plain_account : Plain {} accountCommit databaseAccount memoryAccount where
  live := rfl
  ceremony := rfl
  hook := fun _ => rfl
  memory := rfl
  postgres := ⟨_, rfl⟩
  whole := rfl
  number := Int.le_refl 0

/-- An enrollment of the user. -/
def newFactor : TOTPFactor :=
  { (default : TOTPFactor) with
    userID := uuidv7 1, encryptedSecret := [1], createdAt := 2000, updatedAt := 2000 }

/-- An enrollment of the account comes to the same in both stores. -/
theorem enrollment_agrees :
    let run := mutate {} accountCommit (Postgres.saveTOTPEnrollment newFactor) databaseAccount
    let call := Call.run ⟨.op (.factor (.saveTOTPEnrollment newFactor)), accountCommit, {}⟩ memoryAccount
    run.1 = .ok () ∧ run.1 = call.1 ∧ Same run.2 call.2 := by
  have hagrees := (sharedOp_agrees_iff (.saveTOTPEnrollment newFactor) same_account keyed_account
    plain_account).mpr ⟨FMap.mem_of_get? rfl, by decide, rfl, rfl, rfl, rfl⟩
  exact ⟨rfl, hagrees⟩

/-- …also as a run. -/
theorem stores_in_step_enrollment : Run.Meets SharedCall.next (fun x c => c.InStep x)
    (databaseAccount, memoryAccount) [⟨.saveTOTPEnrollment newFactor, accountCommit, {}⟩] :=
  (stores_in_step_iff same_account (by exact ⟨⟨keyed_account, plain_account⟩, trivial⟩)).mpr
    ⟨⟨FMap.mem_of_get? rfl, by decide, rfl, rfl, rfl, rfl⟩, trivial⟩

/-- **Verifying an address again**: the memory store reports a conflict, the database does not find
the address, though the comment of its method promises the conflict. -/
theorem verified_again_diverges :
    Same databaseAccount memoryAccount
      ∧ (Call.run ⟨.op (.email (.verifyEmail (uuidv7 2) 2000)), accountCommit, {}⟩ memoryAccount).1
        = .err .conflict
      ∧ (mutate {} accountCommit (Postgres.verifyEmail (uuidv7 2) 2000) databaseAccount).1
        = .err .notFound :=
  ⟨same_account, rfl, rfl⟩

end Credbound.Stores
