import Credbound.Manager.Accounts

/-!
# Manager/Password — signing in with a password, changing it and resetting it

`AuthenticatePassword` verifies the password against the hash it has read, and finishes against the hash
that is stored by then: `RecordPasswordAuthentication` is guarded by it, and after a conflict the sign-in
tries again with the stored hash if the password verifies against that.  `ChangePassword` verifies the
current password against the hash it has read and stores the new one, unguarded.
-/

namespace Credbound.Accounts

open Procedure
open Manager Memory

variable (m : Accounts) (ctx : Context)

/-! ## What a sign-in reads -/

/-- What a sign-in has read: the user, if there is one; the hash to verify against; the lockout; and a
failure that is reported after the verification. -/
structure SignIn where
  user : Option User
  hash : String
  throttle : LoginThrottle := default
  failure : Option Err := none

/-- An error that is not `ErrNotFound` is a failure. -/
def failureOf (e : Err) : Option Err := if e = .notFound then none else some e

/-- Read the lockout of the user, if lockouts are configured. -/
def readThrottle (user : User) (hash : String) : Routine SignIn :=
  if m.maxFailedLogins ≤ 0 then pure { user := some user, hash := hash }
  else do
    match ← (Routine.read ctx (.loginThrottleByUserID user.id)).attempt with
    | .ok throttle => pure { user := some user, hash := hash, throttle := throttle }
    | .error e => pure { user := some user, hash := hash, failure := failureOf e }

/-- Read the hash of the user.  A user without a password keeps the dummy hash. -/
def readHash (user : User) : Routine SignIn := do
  match ← (Routine.read ctx (.passwordByUserID user.id)).attempt with
  | .ok credential => m.readThrottle ctx user credential.hash
  | .error e =>
    if e = .notFound then m.readThrottle ctx user m.dummyHash
    else pure { user := some user, hash := m.dummyHash, failure := some e }

/-- Read what a sign-in with the address needs. -/
def readSignIn (address : String) : Routine SignIn := do
  match ← (Routine.read ctx (.userByEmail address)).attempt with
  | .ok user => m.readHash ctx user
  | .error e => pure { user := none, hash := m.dummyHash, failure := failureOf e }

/-! ## Finishing a sign-in -/

/-- `failStalePassword`. -/
def failStalePassword {α : Type} (io : AccountSupply) (userID : UUID) (cause : Err) : Routine α :=
  if cause = .invalidCredentials then
    denyAuthentication ctx io userID "auth.password" "stale_credential" .invalidCredentials
  else fail cause

/-- `confirmPasswordCurrent`. -/
def confirmPasswordCurrent (userID : UUID) (password verifiedHash : String) : Routine String := do
  let credential ← (Routine.read ctx (.passwordByUserID userID)).mapError fun e =>
    if e = .notFound then .invalidCredentials else e
  if credential.hash = verifiedHash then pure verifiedHash
  else do
    let verified ← lift (m.verify password credential.hash)
    demand (verified.1 = true) .invalidCredentials
    pure credential.hash

/-- `recordPasswordAuthentication`. -/
def recordPasswordAuthentication (io : AccountSupply) (userID : UUID) (currentHash : String) :
    Routine Unit := do
  let event ← lift (io.userAudit 0 userID "auth.password" .succeeded "")
  (Routine.write ctx (.account (.recordPasswordAuthentication userID currentHash (io.now 1)))
    { audit := event }).mapError mapStoreError

/-- Finish the sign-in against the stored hash, which is the value; `retries` more conflicts are
answered by trying again. -/
def finalizePassword (userID : UUID) (password : String) :
    ℕ → AccountSupply → String → Routine String
  | retries, io, currentHash =>
    (recordPasswordAuthentication ctx io userID currentHash >>= fun _ => pure currentHash).handle fun e =>
      if e ≠ .conflict then fail e
      else match retries with
        | 0 => failStalePassword ctx (io.after 2) userID .invalidCredentials
        | retries + 1 => do
          let refreshed ← (m.confirmPasswordCurrent ctx userID password currentHash).handle
            (failStalePassword ctx (io.after 2) userID)
          finalizePassword userID password retries (io.after 2) refreshed

/-- The password check of a sign-in that a second factor has to complete. -/
def confirmPending (io : AccountSupply) (userID : UUID) (password currentHash : String) :
    Routine String := do
  let refreshed ← (m.confirmPasswordCurrent ctx userID password currentHash).handle
    (failStalePassword ctx io userID)
  let event ← lift (io.userAudit 0 userID "auth.password" .succeeded "")
  (Routine.write ctx (.workspace .appendAudit) { audit := event }).mapError mapStoreError
  pure refreshed

/-- Store a new hash of the verified password, unless the stored hash has changed; the value is the
hash to finish against. -/
def rehashVerified (io : AccountSupply) (userID : UUID) (password hash : String) (rehash : Bool) :
    Routine String :=
  if rehash = false then pure hash
  else do
    let newHash ← lift (io.hash 0 password)
    let event ← lift (io.userAudit 0 userID "password.rehash" .succeeded "")
    let _ ← lift (io.newID 1)
    let credential : PasswordCredential := { userID := userID, hash := newHash, updatedAt := io.now 2 }
    (Routine.write ctx (.account (.rehashPassword credential hash)) { audit := event }
      >>= fun _ => pure newHash).handle fun e => if e = .conflict then pure hash else fail (mapStoreError e)

/-- Finish a sign-in, or leave it to the second factor; the value is the hash it finished against. -/
def finishPassword (io : AccountSupply) (userID : UUID) (password currentHash : String) (pending : Bool) :
    Routine String :=
  if pending then m.confirmPending ctx io userID password currentHash
  else m.finalizePassword ctx userID password 2 io currentHash

/-- A sign-in whose password is verified. -/
def completePassword (io : AccountSupply) (userID : UUID) (password hash : String) (rehash : Bool) :
    Routine Authentication := do
  let currentHash ← rehashVerified ctx io userID password hash rehash
  let factor ← Routine.find ctx (.totpByUserID userID)
  let pending : Bool := factor.any fun factor => factor.active
  let currentHash ← m.finishPassword ctx (io.after 3) userID password currentHash pending
  pure {
    userID := userID, method := .password, level := aal1, authenticatedAt := io.now 11,
    secondFactorRequired := pending, credentialDigest := credentialFingerprint currentHash }

/-- The lockout, the match and the state of the user decide whether the sign-in goes on. -/
def judgePassword (io : AccountSupply) (signIn : SignIn) (password : String) (verified : Bool × Bool) :
    Routine Authentication :=
  let userID := (signIn.user.map User.id).getD 0
  if lockedOut (io.now 0) signIn.throttle then
    denyAuthentication ctx (io.after 1) userID "auth.password" "locked" .invalidCredentials
  else match signIn.user.filter fun user => verified.1 = true ∧ user.disabled = false with
    | some user => m.completePassword ctx (io.after 1) user.id password signIn.hash verified.2
    | none => do
      let countFailure : Bool := signIn.user.any fun user => user.disabled = false ∧ verified.1 = false
      m.recordAuthenticationFailure ctx (io.after 1) userID "auth.password" countFailure
      fail .invalidCredentials

/-- `AuthenticatePassword`. -/
def authenticatePassword (io : AccountSupply) (email password : String) : Routine Authentication := do
  let normalized := normalizeEmail email
  m.domainRequiresSSO ctx io normalized "auth.password"
  let signIn ← m.readSignIn ctx normalized
  let verified ← lift (m.verify password signIn.hash)
  demand (signIn.failure = none) (signIn.failure.getD .notFound)
  m.judgePassword ctx (io.after 1) signIn password verified

/-! ## Changing the password -/

/-- The changes the hooks of a replaced password are shown: sessions are revoked where there are any. -/
def passwordChanges (io : AccountSupply) (userID : UUID) (event : AuditEvent) :
    Except Err (List AccountChange) := do
  let change ← newChange io 1 "password.change" "auth.password.change" userID 0 event
  if m.sessionStore then
    let revocation ← newChange io 2 "session.user_revocation" "auth.password.change" userID 0 event
    return [change, revocation]
  else return [change]

/-- `ChangePassword` with the password verified. -/
def replacePassword (io : AccountSupply) (userID : UUID) (newPassword : String) : Routine Unit := do
  let hash ← lift (io.hash 0 newPassword)
  let event ← lift (io.userAudit 0 userID "password.change" .succeeded "")
  let changes ← lift (m.passwordChanges io userID event)
  let credential : PasswordCredential := { userID := userID, hash := hash, updatedAt := io.now 0 }
  (Routine.write ctx (.account (.changePassword credential (io.now 0)))
    (m.transactionalCommit event changes)).mapError mapStoreError

/-- `ChangePassword`, from the read of the password on. -/
def changeRead (io : AccountSupply) (userID : UUID) (currentPassword newPassword : String) :
    Routine Unit := do
  let credential ← (Routine.read ctx (.passwordByUserID userID)).mapError fun _ => .invalidCredentials
  let verified ← lift (m.verify currentPassword credential.hash)
  if verified.1 then m.replacePassword ctx io userID newPassword
  else do
    m.recordAuthenticationFailure ctx io userID "password.change" true
    fail .invalidCredentials

/-- `ChangePassword`. -/
def changePassword (io : AccountSupply) (actor : Authentication) (currentPassword newPassword : String) :
    Routine Unit := do
  m.requireRecentInteractive ctx (io.now 0) actor
  m.requireUnlocked ctx (io.after 1) actor.userID "password.change"
  lift (m.validatePassword newPassword)
  m.changeRead ctx (io.after 4) actor.userID currentPassword newPassword

/-- Before the read, a change only fails. -/
theorem changePassword_before (io : AccountSupply) (actor : Authentication)
    (currentPassword newPassword : String) :
    Procedure.Before (fun _ _ => True) (fun r => ∃ e, r = .error e)
      (m.changeRead ctx (io.after 4) actor.userID currentPassword newPassword)
      (m.changePassword ctx io actor currentPassword newPassword) := by
  have herror : ∀ e : Err, ∃ e', (Except.error e : Except Err Unit) = .error e' := fun e => ⟨e, rfl⟩
  refine before_bind herror (Program.emits_true _) fun _ => ?_
  refine before_bind herror (Program.emits_true _) fun _ => ?_
  exact before_bind herror (Program.emits_true _) fun _ => .here

/-! ## What a sign-in that succeeds has done

Over any store: the hash it finished against is one that was verified, a new hash of the password, or a
hash that was verified after a conflict. -/

section Runs

variable {S : Type} {h : Program.Handler Access S} {rely : S → S → Prop}
  {admits : ⦃β : Type⦄ → Access β → S → Prop} {s t : S} {m ctx} {io : AccountSupply} {userID : UUID}
  {password hash hash' : String} {Known : String → Prop}

/-- The password verifies against the hash. -/
def Verifies (m : Accounts) (password hash : String) : Prop := ∃ rehash, m.verify password hash = .ok (true, rehash)

/-- `RecordPasswordAuthentication` of the user with the hash was called and committed. -/
def RecordedWith (h : Program.Handler Access S) (admits : ⦃β : Type⦄ → Access β → S → Prop)
    (ctx : Context) (userID : UUID) (hash : String) : Prop :=
  ∃ seenAt commit s,
    let record := Access.write ctx (.account (.recordPasswordAuthentication userID hash seenAt)) commit
    admits record s ∧ (h record s).1 = .ok ()

/-- The password of the user was read, and the hash found. -/
def ReadAs (h : Program.Handler Access S) (admits : ⦃β : Type⦄ → Access β → S → Prop)
    (ctx : Context) (userID : UUID) (hash : String) : Prop :=
  ∃ credential s, let read := Access.read ctx (.passwordByUserID userID)
    admits read s ∧ (h read s).1 = .ok credential ∧ credential.hash = hash

theorem not_runs_failStalePassword {α : Type} {cause : Err} {a : α} :
    ¬ (failStalePassword ctx io userID cause).Runs h rely admits s (.ok a) t := by
  unfold failStalePassword
  split
  · exact not_runs_denyAuthentication
  · simp

theorem known_of_confirm (hknown : ∀ hash, m.Verifies password hash → Known hash) (hhash : Known hash)
    (hrun : (m.confirmPasswordCurrent ctx userID password hash).Runs h rely admits s (.ok hash') t) :
    Known hash' ∧ ReadAs h admits ctx userID hash' := by
  unfold confirmPasswordCurrent at hrun
  obtain ⟨credential, s', hread, hrest⟩ := runs_bind_ok.mp hrun
  obtain ⟨s₀, -, hadmits, hanswer, -⟩ := runs_call.mp (runs_mapError_ok.mp hread)
  split at hrest
  case isTrue heq =>
    rw [runs_pure] at hrest
    obtain rfl := Except.ok.inj hrest.1
    exact ⟨hhash, credential, s₀, hadmits, hanswer, heq⟩
  case isFalse =>
    simp only [runs_bind_ok, runs_lift, runs_demand_ok, runs_pure] at hrest
    obtain ⟨verified, _, ⟨hverified, -⟩, _, _, ⟨hmatch, -⟩, hhash', -⟩ := hrest
    obtain ⟨⟩ := hhash'
    exact ⟨hknown _ ⟨verified.2, hmatch ▸ hverified.symm⟩, credential, s₀, hadmits, hanswer, rfl⟩

/-- …where a failure is recorded. -/
theorem known_of_confirm_handled (hknown : ∀ hash, m.Verifies password hash → Known hash) (hhash : Known hash)
    (hrun : ((m.confirmPasswordCurrent ctx userID password hash).handle
      (failStalePassword ctx io userID)).Runs h rely admits s (.ok hash') t) :
    Known hash' ∧ ReadAs h admits ctx userID hash' := by
  obtain hconfirm | ⟨_, _, -, hstale⟩ := runs_handle_ok.mp hrun
  · exact known_of_confirm hknown hhash hconfirm
  · exact absurd hstale not_runs_failStalePassword

/-- The record of a sign-in that commits. -/
theorem recordedWith_of_record {u : Unit}
    (hrun : (recordPasswordAuthentication ctx io userID hash).Runs h rely admits s (.ok u) t) :
    RecordedWith h admits ctx userID hash := by
  simp only [recordPasswordAuthentication, runs_bind_ok, runs_lift, runs_mapError_ok] at hrun
  obtain ⟨event, _, -, hwrite⟩ := hrun
  obtain ⟨s', -, hadmits, hok, -⟩ := runs_call.mp hwrite
  exact ⟨io.now 1, { audit := event }, s', hadmits, hok⟩

/-- **The loop**: whatever hash it goes on with, the password verifies against it. -/
theorem recordedWith_of_finalize {retries : ℕ} (hknown : ∀ hash, m.Verifies password hash → Known hash)
    (hhash : Known hash)
    (hrun : (m.finalizePassword ctx userID password retries io hash).Runs h rely admits s (.ok hash') t) :
    Known hash' ∧ RecordedWith h admits ctx userID hash' := by
  induction retries generalizing io hash s with
  | zero =>
    obtain hdone | ⟨e, s', -, hrest⟩ := runs_handle_ok.mp hrun
    · obtain ⟨_, _, hrecord, hret⟩ := runs_bind_ok.mp hdone
      obtain ⟨heq, -⟩ := runs_pure.mp hret
      cases heq
      exact ⟨hhash, recordedWith_of_record hrecord⟩
    · split at hrest
      · simp at hrest
      · exact absurd hrest not_runs_failStalePassword
  | succ retries ih =>
    obtain hdone | ⟨e, s', -, hrest⟩ := runs_handle_ok.mp hrun
    · obtain ⟨_, _, hrecord, hret⟩ := runs_bind_ok.mp hdone
      obtain ⟨heq, -⟩ := runs_pure.mp hret
      cases heq
      exact ⟨hhash, recordedWith_of_record hrecord⟩
    · split at hrest
      · simp at hrest
      · obtain ⟨refreshed, _, hconfirm, hagain⟩ := runs_bind_ok.mp hrest
        exact ih (known_of_confirm_handled hknown hhash hconfirm).1 hagain

theorem known_of_rehash {rehash : Bool} (hnew : ∀ k new, io.hash k password = .ok new → Known new)
    (hhash : Known hash)
    (hrun : (rehashVerified ctx io userID password hash rehash).Runs h rely admits s (.ok hash') t) :
    Known hash' := by
  unfold rehashVerified at hrun
  split at hrun
  · exact Except.ok.inj (runs_pure.mp hrun).1 ▸ hhash
  · simp only [runs_bind_ok, runs_lift] at hrun
    obtain ⟨new, _, ⟨hhashed, -⟩, _, _, -, _, _, -, hrest⟩ := hrun
    obtain hdone | ⟨e, _, -, hkeep⟩ := runs_handle_ok.mp hrest
    · obtain ⟨_, _, -, hret⟩ := runs_bind_ok.mp hdone
      exact Except.ok.inj (runs_pure.mp hret).1 ▸ hnew 0 new hhashed.symm
    · split at hkeep
      · exact Except.ok.inj (runs_pure.mp hkeep).1 ▸ hhash
      · simp at hkeep

/-- What a sign-in that succeeds has done: it finished against a hash, by recording itself with it or,
when a second factor is pending, by reading it. -/
def Finished (Known : String → Prop) (h : Program.Handler Access S)
    (admits : ⦃β : Type⦄ → Access β → S → Prop) (ctx : Context) (authn : Authentication) : Prop :=
  ∃ hash, Known hash ∧ authn.credentialDigest = credentialFingerprint hash
    ∧ (RecordedWith h admits ctx authn.userID hash
      ∨ authn.secondFactorRequired = true ∧ ReadAs h admits ctx authn.userID hash)

theorem finished_of_complete {rehash : Bool} {authn : Authentication}
    (hknown : ∀ hash, m.Verifies password hash → Known hash)
    (hnew : ∀ k new, io.hash k password = .ok new → Known new) (hhash : Known hash)
    (hrun : (m.completePassword ctx io userID password hash rehash).Runs h rely admits s (.ok authn) t) :
    Finished Known h admits ctx authn := by
  obtain ⟨current, _, hrehash, hrest⟩ := runs_bind_ok.mp hrun
  obtain ⟨factor, _, -, hrest⟩ := runs_bind_ok.mp hrest
  obtain ⟨finished, _, hfinish, hret⟩ := runs_bind_ok.mp hrest
  obtain ⟨heq, -⟩ := runs_pure.mp hret
  cases heq
  have hcurrent : Known current := known_of_rehash hnew hhash hrehash
  unfold finishPassword at hfinish
  split at hfinish
  case isTrue hpending =>
    obtain ⟨refreshed, _, hconfirm, hrest⟩ := runs_bind_ok.mp hfinish
    obtain ⟨hrefreshed, hread⟩ := known_of_confirm_handled hknown hcurrent hconfirm
    obtain ⟨_, _, -, hrest⟩ := runs_bind_ok.mp hrest
    obtain ⟨_, _, -, hret⟩ := runs_bind_ok.mp hrest
    obtain ⟨heq, -⟩ := runs_pure.mp hret
    cases heq
    exact ⟨finished, hrefreshed, rfl, .inr ⟨hpending, hread⟩⟩
  case isFalse =>
    obtain ⟨hfinished, hrecorded⟩ := recordedWith_of_finalize hknown hcurrent hfinish
    exact ⟨finished, hfinished, rfl, .inl hrecorded⟩

/-- **A password sign-in that succeeds** finished against a hash that the password verifies against, or
that it has computed from the password, and carries the fingerprint of that hash. -/
theorem finished_of_authenticatePassword (Known : String → Prop) {email : String} {authn : Authentication}
    (hknown : ∀ hash, m.Verifies password hash → Known hash)
    (hnew : ∀ k new, io.hash k password = .ok new → Known new)
    (hrun : (m.authenticatePassword ctx io email password).Runs h rely admits s (.ok authn) t) :
    Finished Known h admits ctx authn := by
  obtain ⟨_, _, -, hrest⟩ := runs_bind_ok.mp hrun
  obtain ⟨signIn, _, -, hrest⟩ := runs_bind_ok.mp hrest
  obtain ⟨verified, _, hlift, hrest⟩ := runs_bind_ok.mp hrest
  obtain ⟨hverified, -⟩ := runs_lift.mp hlift
  obtain ⟨_, _, -, hrest⟩ := runs_bind_ok.mp hrest
  unfold judgePassword at hrest
  dsimp only at hrest
  split at hrest
  · exact absurd hrest not_runs_denyAuthentication
  · split at hrest
    case h_1 user huser =>
      simp only [Option.filter_eq_some_iff, decide_eq_true_eq] at huser
      have hmatch : m.Verifies password signIn.hash := ⟨verified.2, by rw [← huser.2.1]; exact hverified.symm⟩
      exact finished_of_complete hknown (fun k new hhashed => hnew (1 + (1 + k)) new hhashed)
        (hknown _ hmatch) hrest
    · simp at hrest

/-- What a sign-in that succeeds without a pending second factor has done. -/
def SignedIn (m : Accounts) (h : Program.Handler Access S) (admits : ⦃β : Type⦄ → Access β → S → Prop)
    (ctx : Context) (password : String) (authn : Authentication) : Prop :=
  ∃ hash, m.Verifies password hash ∧ RecordedWith h admits ctx authn.userID hash
    ∧ authn.credentialDigest = credentialFingerprint hash

/-- …which is recorded with the hash, and then the password verifies against every hash it can be. -/
theorem signedIn_of_authenticatePassword {email : String} {authn : Authentication}
    (hverify : ∀ k new, io.hash k password = .ok new → m.Verifies password new)
    (hrun : (m.authenticatePassword ctx io email password).Runs h rely admits s (.ok authn) t)
    (hsecond : authn.secondFactorRequired = false) : m.SignedIn h admits ctx password authn := by
  obtain ⟨hash, hverifies, hdigest, hrecorded | ⟨hpending, -⟩⟩ :=
    finished_of_authenticatePassword (m.Verifies password) (fun _ => id) hverify hrun
  · exact ⟨hash, hverifies, hrecorded, hdigest⟩
  · rw [hsecond] at hpending
    cases hpending

/-! ### Changing the password -/

/-- `ChangePassword` of the store was called for the user in the state `s`, and committed. -/
def ChangedAt (h : Program.Handler Access S) (admits : ⦃β : Type⦄ → Access β → S → Prop)
    (ctx : Context) (userID : UUID) (s : S) : Prop :=
  ∃ credential at' commit,
    let change := Access.write ctx (.account (.changePassword credential at')) commit
    credential.userID = userID ∧ admits change s ∧ (h change s).1 = .ok ()

/-- **A change that succeeds** verified the password it read, and committed after the others had moved on
from there. -/
theorem changedAt_of_changeRead {currentPassword newPassword : String} {u : Unit}
    (hrun : (m.changeRead ctx io userID currentPassword newPassword).Runs h rely admits s (.ok u) t) :
    ∃ s₀ s₁ credential, (h (.read ctx (.passwordByUserID userID)) s₀).1 = .ok credential
      ∧ m.Verifies currentPassword credential.hash
      ∧ rely (h (.read ctx (.passwordByUserID userID)) s₀).2 s₁ ∧ ChangedAt h admits ctx userID s₁ := by
  obtain ⟨credential, _, hread, hrest⟩ := runs_bind_ok.mp hrun
  obtain ⟨s₀, -, -, hanswer, rfl⟩ := runs_call.mp (runs_mapError_ok.mp hread)
  obtain ⟨verified, _, hlift, hrest⟩ := runs_bind_ok.mp hrest
  obtain ⟨hverified, rfl⟩ := runs_lift.mp hlift
  split at hrest
  case isFalse => simp at hrest
  case isTrue hmatch =>
    simp only [replacePassword, runs_bind_ok, runs_lift, runs_mapError_ok] at hrest
    obtain ⟨hash, _, ⟨-, rfl⟩, event, _, ⟨-, rfl⟩, changes, _, ⟨-, rfl⟩, hwrite⟩ := hrest
    obtain ⟨s₁, hrely, hadmits, hok, -⟩ := runs_call.mp hwrite
    refine ⟨s₀, s₁, credential, hanswer, ⟨verified.2, ?_⟩, hrely, _, _, _, rfl, hadmits, hok⟩
    rw [← hmatch]
    exact hverified.symm

end Runs

end Credbound.Accounts
