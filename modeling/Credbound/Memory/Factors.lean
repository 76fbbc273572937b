import Credbound.Memory.Helpers

/-!
# Memory/Factors — second factors, passkeys, personal access tokens and sessions

`useTOTP` and `consumeRecoveryCode` may return `false` without an error; such a call leaves before
the commit is prepared, so neither its hook nor its audit event ever runs.
-/

namespace Credbound.Memory

open Store

/-! ## TOTP and recovery codes -/

/-- `SaveTOTPEnrollment`. -/
def saveTOTPEnrollment (factor : TOTPFactor) : Mutation where
  check s := do
    require (¬ (s.totp.get? factor.userID).any (·.active)) .conflict
    require (factor.userID ∈ s.users) .notFound
  write _ s := .ok
    { s with
      totp := s.totp.set factor.userID factor
      recovery := s.recovery.del factor.userID }

/-- `ActivateTOTP`. -/
def activateTOTP (factor : TOTPFactor) (recovery : List RecoveryCode) : Mutation where
  check s := do
    let existing ← find s.totp factor.userID .conflict
    require (existing.active = false) .conflict
  write _ s := .ok
    { s with
      totp := s.totp.set factor.userID factor
      recovery := s.recovery.set factor.userID recovery }

/-- `UseTOTP`: a step at or before the last used one is a replay and reports `false`. -/
def useTOTP (userID : UUID) (step : Int) (ctx : Context) (commit : Commit) (s : Store) :
    Attempt Bool :=
  match ctx.err with
  | some e => .stopped (.err e) s
  | none =>
    match s.totp.get? userID with
    | none => .stopped (.err .notFound) s
    | some factor =>
      if factor.active = false then .stopped (.err .notFound) s
      else if step ≤ factor.lastUsedStep then .stopped (.ok false) s
      else
        let now := commit.audit.occurredAt
        let factor := { factor with lastUsedStep := step, updatedAt := now }
        s.prepareAndWrite commit (fun s => .ok
          (({ s with totp := s.totp.set userID factor }.touchLastSeenLocked userID now).clearThrottle
            userID)) true

/-- Mark the first unused code with the digest used. -/
def markUsed (digest : Bytes) (usedAt : Time) : List RecoveryCode → List RecoveryCode
  | [] => []
  | code :: rest =>
    if code.usedAt = none ∧ code.digest = digest then { code with usedAt := some usedAt } :: rest
    else code :: markUsed digest usedAt rest

/-- `ConsumeRecoveryCode`: no unused code with the digest reports `false`. -/
def consumeRecoveryCode (userID : UUID) (digest : Bytes) (usedAt : Time) (ctx : Context)
    (commit : Commit) (s : Store) : Attempt Bool :=
  match ctx.err with
  | some e => .stopped (.err e) s
  | none =>
    let codes := s.recovery.getI userID
    if codes.any fun code => code.usedAt = none ∧ code.digest = digest then
      s.prepareAndWrite commit (fun s => .ok
        (({ s with recovery := s.recovery.set userID (markUsed digest usedAt codes) }
          |>.touchLastSeenLocked userID usedAt).clearThrottle userID)) true
    else .stopped (.ok false) s

/-- `DisableTOTP`. -/
def disableTOTP (userID : UUID) : Mutation where
  check s := require (userID ∈ s.totp) .notFound
  write _ s := .ok { s with totp := s.totp.del userID, recovery := s.recovery.del userID }

/-- `ReplaceRecoveryCodes`. -/
def replaceRecoveryCodes (userID : UUID) (codes : List RecoveryCode) : Mutation where
  check s := do
    let factor ← find s.totp userID .notFound
    require (factor.active = true) .notFound
  write _ s := .ok { s with recovery := s.recovery.set userID codes }

/-- `ResetSecondFactor`. -/
def resetSecondFactor (userID : UUID) (at' : Time) : Mutation where
  check s := require (userID ∈ s.users) .notFound
  write _ s := .ok
    ({ s with
        totp := s.totp.del userID
        recovery := s.recovery.del userID
        passkeys := s.passkeys.del userID }.revokeUserSessionsLocked userID at')

/-! ## Passkeys -/

/-- `SavePasskey`. -/
def savePasskey (passkey : Passkey) : Mutation where
  check s := do
    require (passkey.userID ∈ s.users) .notFound
    require (¬ s.passkeys.Any fun _ byID =>
      byID.Any fun _ existing => existing.credentialID = passkey.credentialID) .conflict
  write _ s :=
    let byID := (s.passkeys.getI passkey.userID).set passkey.id passkey
    .ok { s with passkeys := s.passkeys.set passkey.userID byID }

/-- `TouchPasskey`. -/
def touchPasskey (userID : UUID) (credentialID credentialJSON : Bytes) (usedAt : Time) :
    Mutation where
  check s := require ((s.passkeys.getI userID).Any fun _ v => v.credentialID = credentialID)
    .notFound
  write _ s :=
    let byID := s.passkeys.getI userID
    let touched := match byID.find? fun _ v => v.credentialID = credentialID with
      | some (id, v) => byID.set id
          { v with credentialJSON := credentialJSON, lastUsedAt := some usedAt }
      | none => byID
    .ok (({ s with passkeys := s.passkeys.set userID touched }.touchLastSeenLocked
      userID usedAt).clearThrottle userID)

/-- `DeletePasskey`. -/
def deletePasskey (userID passkeyID : UUID) : Mutation where
  check s := require (passkeyID ∈ s.passkeys.getI userID) .notFound
  write _ s := .ok { s with passkeys := s.passkeys.modify userID (·.del passkeyID) }

/-! ## Personal access tokens -/

/-- `CreatePAT`. -/
def createPAT (pat : PAT) : Mutation where
  check s := do
    require (pat.id ∉ s.pats) .conflict
    require (pat.pfx ∉ s.patPrefixes) .conflict
    require (pat.userID ∈ s.users) .notFound
  write _ s := .ok
    { s with pats := s.pats.set pat.id pat, patPrefixes := s.patPrefixes.set pat.pfx pat.id }

/-- `TouchPAT`. -/
def touchPAT (id : UUID) (usedAt : Time) : Mutation where
  check s := require (id ∈ s.pats) .notFound
  write _ s := .ok
    ({ s with pats := s.pats.modify id fun v => { v with lastUsedAt := some usedAt } }
      |>.touchLastSeenLocked (s.pats.getI id).userID usedAt)

/-- `RevokePAT`. -/
def revokePAT (userID id : UUID) (revokedAt : Time) : Mutation where
  check s := do
    let pat ← find s.pats id .notFound
    require (pat.userID = userID) .notFound
  write _ s := .ok
    { s with pats := s.pats.modify id fun v => { v with revokedAt := some revokedAt } }

/-! ## Sessions -/

/-- `CreateSession`: a non-empty digest has to fingerprint the current password. -/
def createSession (session : Session) (credentialDigest : Bytes) : Mutation where
  check s := do
    require (session.id ∉ s.sessions) .conflict
    require (session.userID ∈ s.users) .notFound
    require (credentialDigest = [] ∨ (s.passwords.get? session.userID).any fun credential =>
      credentialFingerprint credential.hash = credentialDigest) .conflict
  write _ s := .ok { s with sessions := s.sessions.set session.id session }

/-- `TouchSession`. -/
def touchSession (id : UUID) (at' : Time) : Mutation where
  check s := do
    let session ← find s.sessions id .notFound
    require (session.revokedAt = none) .conflict
  write _ s := .ok
    ({ s with sessions := s.sessions.modify id fun v => { v with lastSeenAt := at' } }
      |>.touchLastSeenLocked (s.sessions.getI id).userID at')

/-- `RevokeSession`: an already revoked session is left as it is. -/
def revokeSession (id : UUID) (at' : Time) : Mutation where
  check s := require (id ∈ s.sessions) .notFound
  write _ s := .ok { s with sessions := s.sessions.modify id fun v =>
    if v.revokedAt = none then { v with revokedAt := some at' } else v }

/-- `RevokeUserSessions`. -/
def revokeUserSessions (userID : UUID) (at' : Time) : Mutation where
  check s := require (userID ∈ s.users) .notFound
  write _ s := .ok (s.revokeUserSessionsLocked userID at')

/-! ## The operations -/

/-- The factor, token and session operations with their arguments. -/
inductive FactorOp
  | saveTOTPEnrollment (factor : TOTPFactor)
  | activateTOTP (factor : TOTPFactor) (recovery : List RecoveryCode)
  | disableTOTP (userID : UUID)
  | replaceRecoveryCodes (userID : UUID) (codes : List RecoveryCode)
  | resetSecondFactor (userID : UUID) (at' : Time)
  | savePasskey (passkey : Passkey)
  | touchPasskey (userID : UUID) (credentialID credentialJSON : Bytes) (usedAt : Time)
  | deletePasskey (userID passkeyID : UUID)
  | createPAT (pat : PAT)
  | touchPAT (id : UUID) (usedAt : Time)
  | revokePAT (userID id : UUID) (revokedAt : Time)
  | createSession (session : Session) (credentialDigest : Bytes)
  | touchSession (id : UUID) (at' : Time)
  | revokeSession (id : UUID) (at' : Time)
  | revokeUserSessions (userID : UUID) (at' : Time)

/-- The method an operation names. -/
def FactorOp.mutation : FactorOp → Mutation
  | .saveTOTPEnrollment factor => Memory.saveTOTPEnrollment factor
  | .activateTOTP factor recovery => Memory.activateTOTP factor recovery
  | .disableTOTP userID => Memory.disableTOTP userID
  | .replaceRecoveryCodes userID codes => Memory.replaceRecoveryCodes userID codes
  | .resetSecondFactor userID at' => Memory.resetSecondFactor userID at'
  | .savePasskey passkey => Memory.savePasskey passkey
  | .touchPasskey userID credentialID credentialJSON usedAt =>
      Memory.touchPasskey userID credentialID credentialJSON usedAt
  | .deletePasskey userID passkeyID => Memory.deletePasskey userID passkeyID
  | .createPAT pat => Memory.createPAT pat
  | .touchPAT id usedAt => Memory.touchPAT id usedAt
  | .revokePAT userID id revokedAt => Memory.revokePAT userID id revokedAt
  | .createSession session credentialDigest => Memory.createSession session credentialDigest
  | .touchSession id at' => Memory.touchSession id at'
  | .revokeSession id at' => Memory.revokeSession id at'
  | .revokeUserSessions userID at' => Memory.revokeUserSessions userID at'

end Credbound.Memory
