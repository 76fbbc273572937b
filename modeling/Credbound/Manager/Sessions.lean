import Credbound.Manager.Password

/-!
# Manager/Sessions — second factors and sessions

`VerifyTOTP` promotes an authentication, and the fingerprint of the password it was derived from travels
with the promotion.  `CreateSession` hands the fingerprint to the store, which compares it with the stored
password; `AuthenticateSession` returns what the session has recorded, which has no fingerprint.
-/

namespace Credbound.Accounts

open Procedure
open Manager Memory

variable (m : Accounts) (ctx : Context)

/-! ## Second factors -/

/-- `promoteTOTP`. -/
def promoteTOTP (now : Time) (actor : Authentication) : Authentication where
  userID := actor.userID
  method := .totp
  level := aal2
  authenticatedAt := now
  credentialDigest := actor.credentialDigest

/-- `UseTOTP` of a code that is valid for a time step. -/
def useStep (io : AccountSupply) (actor : Authentication) (step : Int) : Routine Authentication := do
  let event ← lift (io.userAudit 0 actor.userID "auth.totp" .succeeded "")
  let use : Routine Bool := .call (.useTOTP ctx actor.userID step { audit := event })
  let used ← use.mapError mapStoreError
  if used then pure (promoteTOTP (io.now 1) actor)
  else
    denyAuthentication ctx (io.after 2) actor.userID "auth.totp" "invalid_credentials"
      .invalidCredentials

/-- The loop over the peppers: the first digest with an unused code consumes it. -/
def consumeCode (io : AccountSupply) (userID : UUID) (commit : Commit) : List Bytes → Routine Bool
  | [] => pure false
  | digest :: digests => do
    let consume : Routine Bool := .call (.consumeRecoveryCode ctx userID digest (io.now 0) commit)
    let used ← consume.mapError mapStoreError
    if used then pure true else consumeCode (io.after 1) userID commit digests

/-- A code that is not valid for a time step is a recovery code. -/
def useRecoveryCode (io : AccountSupply) (actor : Authentication) (code : String) :
    Routine Authentication := do
  let event ← lift (io.userAudit 0 actor.userID "auth.recovery_code" .succeeded "")
  let used ← consumeCode ctx (io.after 1) actor.userID { audit := event } (m.recoveryDigests code)
  if used then pure (promoteTOTP (io.now 1) actor)
  else do
    m.recordAuthenticationFailure ctx (io.after 2) actor.userID "auth.totp" true
    fail .invalidCredentials

/-- `VerifyTOTP` with the factor it has read. -/
def verifyFactor (io : AccountSupply) (actor : Authentication) (code : String)
    (validate : String → Bytes → Time → Option Int) (factor : TOTPFactor) : Routine Authentication := do
  let secret ← lift (m.unsealed factor.encryptedSecret)
  match validate (trimSpace code) secret (io.now 0) with
  | some step => useStep ctx (io.after 1) actor step
  | none => m.useRecoveryCode ctx (io.after 1) actor (trimSpace code)

/-- `VerifyTOTP`. -/
def verifyTOTP (io : AccountSupply) (actor : Authentication) (code : String) : Routine Authentication :=
  match m.totp with
  | none => fail .notSupported
  | some validate => do
    demand (actor.userID ≠ 0 ∧ actor.interactive = true) .unauthorized
    m.requireUnlocked ctx io actor.userID "auth.totp"
    requireActiveUser ctx actor.userID
    let factor ← Routine.expect ctx (.totpByUserID actor.userID) (fun factor => factor.active = true)
      .invalidCredentials
    m.verifyFactor ctx (io.after 1) actor code validate factor

/-! ## Sessions -/

/-- What `New` asks of the idle timeout and the touch interval. -/
def checkSessionSettings (idleTimeout touchInterval : Duration) : Except Err Unit := do
  require (¬ touchInterval < 0) .invalidInput
  require (¬ (0 < touchInterval ∧ 0 < idleTimeout ∧ idleTimeout ≤ touchInterval)) .invalidInput

/-- `IssuedSession`. -/
structure IssuedSession where
  session : Session
  token : String

/-- The session of an actor, behind the token. -/
def newSession (io : AccountSupply) (id : UUID) (actor : Authentication) (raw : String) : Session where
  id := id
  userID := actor.userID
  method := actor.method
  level := actor.level
  authenticatedAt := actor.authenticatedAt
  secondFactorRequired := actor.secondFactorRequired
  userAgent := io.userAgent
  ipAddress := io.ipAddress
  digest := m.tokenDigest ("session:" ++ raw)
  createdAt := io.now 0
  lastSeenAt := io.now 0
  expiresAt := io.now 0 + m.sessionTTL
  revokedAt := none

/-- `CreateSession` of the store; its guard reports a conflict. -/
def storeSession (io : AccountSupply) (actor : Authentication) (session : Session) (raw : String)
    (commit : Commit) : Routine IssuedSession :=
  (Routine.write ctx (.factor (.createSession session actor.credentialDigest)) commit
    >>= fun _ => pure ⟨{ session with digest := [] }, raw⟩).handle fun e =>
      if e = .conflict ∧ actor.credentialDigest ≠ [] then
        denyAuthentication ctx io actor.userID "session.create" "stale_credential" .invalidCredentials
      else fail (mapStoreError e)

/-- What `CreateSession` prepares: the session, its token and the commit. -/
def prepareSession (io : AccountSupply) (actor : Authentication) :
    Except Err (Session × String × Commit) := do
  let id ← io.newID 0
  let secret ← io.secret 0
  let raw := "cbs_" ++ id.string ++ "_" ++ secret
  let event ← io.audit 1 (io.now 1) actor.userID "session.create" "session" id.string 0 .succeeded ""
  let change ← newChange io 2 "session.creation" "auth.session.create" actor.userID 0 event
  return (m.newSession io id actor raw, raw, m.transactionalCommit event [change])

/-- `CreateSession`, with the actor checked. -/
def mintSession (io : AccountSupply) (actor : Authentication) : Routine IssuedSession := do
  let prepared ← lift (m.prepareSession io actor)
  storeSession ctx (io.after 3) actor prepared.1 prepared.2.1 prepared.2.2

/-- `CreateSession`. -/
def createSession (io : AccountSupply) (actor : Authentication) : Routine IssuedSession := do
  demand (m.sessionStore = true) .notSupported
  demand (actor.userID ≠ 0) .unauthorized
  demand (actor.interactive = true) .forbidden
  requireActiveUser ctx actor.userID
  m.mintSession ctx io actor

/-- Before the session is minted, the call only fails. -/
theorem createSession_before (io : AccountSupply) (actor : Authentication) :
    Procedure.Before (fun _ _ => True) (fun r => ∃ e, r = .error e) (m.mintSession ctx io actor)
      (m.createSession ctx io actor) := by
  have herror : ∀ e : Err, ∃ e', (Except.error e : Except Err IssuedSession) = .error e' := fun e => ⟨e, rfl⟩
  refine before_bind herror (Program.emits_true _) fun _ => ?_
  refine before_bind herror (Program.emits_true _) fun _ => ?_
  refine before_bind herror (Program.emits_true _) fun _ => ?_
  exact before_bind herror (Program.emits_true _) fun _ => .here

/-- The authentication a session has recorded. -/
def sessionAuthentication (session : Session) : Authentication where
  userID := session.userID
  method := session.method
  level := session.level
  authenticatedAt := session.authenticatedAt
  secondFactorRequired := session.secondFactorRequired

/-- The reason a session is refused for, with the error that is reported. -/
def sessionRefusal (io : AccountSupply) (session : Session) (raw : String) : Option (String × Err) :=
  if m.matchTokenDigest session.digest ("session:" ++ raw) = false then
    some ("invalid_credentials", .invalidCredentials)
  else if session.revokedAt ≠ none then some ("revoked", .invalidCredentials)
  else if ¬ io.now 0 < session.expiresAt then some ("expired", .expired)
  else if 0 < m.sessionIdleTimeout ∧ ¬ io.now 1 < session.lastSeenAt + m.sessionIdleTimeout then
    some ("idle", .expired)
  else none

/-- Touch a session that is not refused, unless it was touched recently. -/
def touchedSession (io : AccountSupply) (session : Session) : Routine Authentication :=
  if 0 < m.sessionTouchInterval ∧ io.now 0 < session.lastSeenAt + m.sessionTouchInterval then
    pure (sessionAuthentication session)
  else do
    let event ← lift (io.audit 0 (io.now 1) session.userID "session.authenticate" "session"
      session.id.string 0 .succeeded "")
    (Routine.write ctx (.factor (.touchSession session.id (io.now 0))) { audit := event }).mapError
      fun e => if e = .conflict then .invalidCredentials else mapStoreError e
    pure (sessionAuthentication session)

/-- `AuthenticateSession`; the session record it returns beside the authentication is left out. -/
def authenticateSession (io : AccountSupply) (raw : String) : Routine Authentication := do
  demand (m.sessionStore = true) .notSupported
  let sessionID ← lift (match parseSecretToken "cbs" raw with
    | some id => .ok id
    | none => .error .invalidCredentials)
  let session ← (Routine.read ctx (.sessionByID sessionID)).mapError fun e =>
    if e = .notFound then .invalidCredentials else e
  match m.sessionRefusal io session raw with
  | some (reason, err) => denyAuthentication ctx (io.after 2) session.userID "session.authenticate" reason err
  | none => do
    let user ← Routine.find ctx (.userByID session.userID)
    if user.all fun user => user.disabled then
      denyAuthentication ctx (io.after 2) session.userID "session.authenticate" "user_disabled"
        .invalidCredentials
    else m.touchedSession ctx (io.after 2) session

/-! ## What they do when they succeed -/

section Runs

variable {S : Type} {h : Program.Handler Access S} {rely : S → S → Prop}
  {admits : ⦃β : Type⦄ → Access β → S → Prop} {s t : S} {m ctx} {io : AccountSupply}
  {actor authn : Authentication}

/-- **The fingerprint travels with the promotion.** -/
theorem promoted_of_verifyTOTP {code : String}
    (hrun : (m.verifyTOTP ctx io actor code).Runs h rely admits s (.ok authn) t) :
    ∃ now, authn = promoteTOTP now actor := by
  unfold verifyTOTP at hrun
  split at hrun
  · simp at hrun
  · obtain ⟨_, _, -, hrest⟩ := runs_bind_ok.mp hrun
    obtain ⟨_, _, -, hrest⟩ := runs_bind_ok.mp hrest
    obtain ⟨_, _, -, hrest⟩ := runs_bind_ok.mp hrest
    obtain ⟨factor, _, -, hrest⟩ := runs_bind_ok.mp hrest
    obtain ⟨secret, _, -, hrest⟩ := runs_bind_ok.mp hrest
    -- A time step and a recovery code end alike: promoted if used, refused if not.
    split at hrest
    · obtain ⟨event, _, -, hrest⟩ := runs_bind_ok.mp hrest
      obtain ⟨used, _, -, hrest⟩ := runs_bind_ok.mp hrest
      split at hrest
      · exact ⟨_, Except.ok.inj (runs_pure.mp hrest).1⟩
      · exact absurd hrest not_runs_denyAuthentication
    · obtain ⟨event, _, -, hrest⟩ := runs_bind_ok.mp hrest
      obtain ⟨used, _, -, hrest⟩ := runs_bind_ok.mp hrest
      split at hrest
      · exact ⟨_, Except.ok.inj (runs_pure.mp hrest).1⟩
      · simp at hrest

/-- **A session that is minted** was stored for the user, against the fingerprint of the actor. -/
theorem stored_of_mintSession {issued : IssuedSession}
    (hrun : (m.mintSession ctx io actor).Runs h rely admits s (.ok issued) t) :
    ∃ session commit s', session.userID = actor.userID
      ∧ admits (.write ctx (.factor (.createSession session actor.credentialDigest)) commit) s'
      ∧ (h (.write ctx (.factor (.createSession session actor.credentialDigest)) commit) s').1 = .ok () := by
  obtain ⟨prepared, _, hprepared, hrest⟩ := runs_bind_ok.mp hrun
  have huser : prepared.1.userID = actor.userID := by
    have hok := (runs_lift.mp hprepared).1.symm
    simp only [prepareSession, check_bind, check_pure] at hok
    obtain ⟨id, -, secret, -, event, -, change, -, rfl⟩ := hok
    rfl
  obtain hdone | ⟨e, _, -, hrefused⟩ := runs_handle_ok.mp hrest
  · obtain ⟨_, _, hwrite, -⟩ := runs_bind_ok.mp hdone
    obtain ⟨s', -, hadmits, hok, -⟩ := runs_call.mp hwrite
    exact ⟨prepared.1, prepared.2.2, s', huser, hadmits, hok⟩
  · split at hrefused
    · exact absurd hrefused not_runs_denyAuthentication
    · simp at hrefused

end Runs

end Credbound.Accounts
