import Credbound.Manager.Sessions

/-!
# Manager/SignIns — links and codes sent by e-mail, passkeys, tokens and external identities

The functions that turn a proof into an `Authentication`, beside the password, the second factor and the
session.  Each of them looks at the state of the account at a place of its own: after the credential, before
the provider, after the provider; linking an identity does not look at all.  At the end, the two functions
with which users remove a passkey or an identity of their own.
-/

namespace Credbound.Accounts

open Manager Memory
open Procedure (demand lift fail)

variable (m : Accounts) (ctx : Context)

/-- Report a record that is missing as an invalid credential. -/
def invalidMissing (e : Err) : Err := if e = .notFound then .invalidCredentials else e

/-- Report a lost race as an invalid credential. -/
def invalidConflict (e : Err) : Err := if e = .conflict then .invalidCredentials else mapStoreError e

/-! ## Links and codes sent by e-mail -/

/-- `emailAddressByID`. -/
def emailAddressByID (userID emailID : UUID) : Routine String := do
  let emails : List EmailAddress ← .call (.request (.query ctx (.userEmails userID)))
  match emails.find? fun email => email.id = emailID with
  | some email => pure email.address
  | none => fail .notFound

/-- The reason a link or code is refused for before the account is looked at, with the error that is
reported. -/
def emailProofRefusal (io : AccountSupply) (credential : EmailAuthenticationCredential) :
    Option (String × Err) :=
  if credential.usedAt ≠ none then some ("reused", .invalidCredentials)
  else if ¬ io.now 0 < credential.expiresAt then some ("expired", .expired)
  else none

/-- Consume a link or code; it completes the sign-in unless a second factor is pending. -/
def consumeEmailProof (io : AccountSupply) (userID tokenID : UUID) (action : String) :
    Routine Authentication := do
  let factor ← Routine.find ctx (.totpByUserID userID)
  let pending : Bool := factor.any fun factor => factor.active
  let event ← lift (io.userAudit 0 userID action .succeeded "")
  (Routine.write ctx (.account (.consumeEmailAuthentication tokenID userID (io.now 1) (!pending)))
    { audit := event }).mapError invalidConflict
  pure {
    userID := userID, method := .email, level := aal1, authenticatedAt := io.now 1,
    secondFactorRequired := pending }

/-- The address of a link or code, and its domain, still allow it, and the account is not locked. -/
def recheckEmailProof (io : AccountSupply) (userID emailID : UUID) (action : String) : Routine Unit := do
  let address ← (emailAddressByID ctx userID emailID).mapError invalidMissing
  m.domainRequiresSSO ctx io address action
  m.requireUnlocked ctx (io.after 2) userID action

/-- `CompleteEmailAuthentication` with the credential it has read. -/
def redeemLink (io : AccountSupply) (raw : String) (tokenID : UUID)
    (credential : EmailAuthenticationCredential) : Routine Authentication :=
  match emailProofRefusal io credential with
  | some (reason, err) => denyAuthentication ctx (io.after 1) credential.userID "auth.email_link" reason err
  | none =>
    if m.matchTokenDigest credential.digest ("email-authentication:" ++ raw) = false then
      denyAuthentication ctx (io.after 1) credential.userID "auth.email_link" "invalid_credentials"
        .invalidCredentials
    else do
      let user ← (Routine.read ctx (.userByID credential.userID)).attempt
      match user.toOption.filter fun user => user.disabled = false with
      | none =>
        denyAuthentication ctx (io.after 1) credential.userID "auth.email_link" "user_disabled"
          .invalidCredentials
      | some user => do
        m.recheckEmailProof ctx (io.after 1) user.id credential.emailID "auth.email_link"
        consumeEmailProof ctx (io.after 6) user.id tokenID "auth.email_link"

/-- `CompleteEmailAuthentication`. -/
def completeEmailAuthentication (io : AccountSupply) (raw : String) : Routine Authentication := do
  let tokenID ← lift (match parseSecretToken "cbl" raw with
    | some id => .ok id
    | none => .error .invalidCredentials)
  let credential ← (Routine.read ctx (.emailAuthenticationByID tokenID)).mapError invalidMissing
  m.redeemLink ctx io raw tokenID credential

/-- What opening a continuation yields, if it is one of a passkey or e-mail ceremony. -/
def openCeremony (continuation : String) : Option CeremonyContinuation :=
  (m.openContinuation continuation).bind fun
    | .ceremony value => some value
    | .sso _ => none

/-- …and if it is one of an SSO ceremony. -/
def openSSO (continuation : String) : Option SSOContinuation :=
  (m.openContinuation continuation).bind fun
    | .sso value => some value
    | .ceremony _ => none

/-- The credential a code is for, as its continuation names it. -/
def codeReference (io : AccountSupply) (continuation : String) : Except Err UUID := do
  let state ← decodeContinuation (io.now 0) (m.openCeremony continuation) (.other "email_otp")
  match parseUUID (state.name.toList.map Char.toLower) with
  | some id => return id
  | none => .error .invalidCredentials

/-- `CompleteEmailOTP` with the credential it has read. -/
def redeemCode (io : AccountSupply) (code : String) (credential : EmailAuthenticationCredential) :
    Routine Authentication :=
  match emailProofRefusal io credential with
  | some (reason, err) => denyAuthentication ctx (io.after 1) credential.userID "auth.email_otp" reason err
  | none => do
    let user ← (Routine.read ctx (.userByID credential.userID)).attempt
    match user.toOption.filter fun user => user.disabled = false with
    | none =>
      denyAuthentication ctx (io.after 1) credential.userID "auth.email_otp" "user_disabled"
        .invalidCredentials
    | some user => do
      m.recheckEmailProof ctx (io.after 1) user.id credential.emailID "auth.email_otp"
      if m.matchTokenDigest credential.digest ("email-otp:" ++ credential.id.string ++ ":" ++ code) then
        consumeEmailProof ctx (io.after 6) user.id credential.id "auth.email_otp"
      else do
        m.recordAuthenticationFailure ctx (io.after 6) user.id "auth.email_otp" true
        fail .invalidCredentials

/-- `CompleteEmailOTP`. -/
def completeEmailOTP (io : AccountSupply) (continuation code : String) : Routine Authentication := do
  let credentialID ← lift (m.codeReference io continuation)
  match ← Routine.find ctx (.emailAuthenticationByID credentialID) with
  | none => denyAuthentication ctx (io.after 1) 0 "auth.email_otp" "invalid_credentials" .invalidCredentials
  | some credential => m.redeemCode ctx (io.after 1) code credential

/-! ## Passkeys -/

/-- The credentials of `passkeyUser`, which the provider walks through. -/
def openPasskeys (userID : UUID) : Routine (Except Err (List Passkey)) := do
  let passkeys ← (Routine.read ctx (.passkeys userID)).attempt
  pure (passkeys.bind fun passkeys => passkeys.mapM fun passkey => do
    let plaintext ← m.unsealed passkey.credentialJSON
    return { passkey with credentialJSON := plaintext })

/-- `commitPasskeyAuthentication`. -/
def commitPasskeyAuthentication (io : AccountSupply) (state : CeremonyContinuation) (userID : UUID)
    (credentialID credentialJSON : Bytes) : Routine Authentication := do
  let event ← lift (io.userAudit 0 userID "auth.passkey" .succeeded "")
  let sealedCredential ← lift (io.sealing 0 credentialJSON)
  let _ ← (Routine.read ctx (.passkeys userID)).attempt
  (Routine.write ctx (.factor (.touchPasskey userID credentialID sealedCredential (io.now 1)))
    { audit := event, ceremony := (Continuation.ceremony state).consumption }).mapError invalidConflict
  pure { userID := userID, method := .passkey, level := aal2, authenticatedAt := io.now 1 }

/-- The reason a failed assertion is recorded with. -/
def assertionReason (e : Err) : String :=
  if e = .passkeyCloneDetected then "cloned_authenticator" else "invalid_credentials"

/-- The account that an assertion is for is enabled, and its domain allows passkeys. -/
def requirePasskeyAccount (io : AccountSupply) (userID : UUID) (action : String) : Routine Unit := do
  let record ← Routine.expect ctx (.userByID userID) (fun user => user.disabled = false) .invalidCredentials
  m.domainRequiresSSO ctx io (normalizeEmail record.email) action

/-- `FinishPasskeyAuthentication`. -/
def finishPasskeyAuthentication (io : AccountSupply) (continuation : String) (response : Bytes) :
    Routine Authentication :=
  match m.passkeys with
  | none => fail .notSupported
  | some provider => do
    let state ← lift (decodeContinuation (io.now 0) (m.openCeremony continuation) .passkeyAuthentication)
    let user ← (Routine.read ctx (.userByID state.userID)).mapError fun _ => .invalidCredentials
    m.requirePasskeyAccount ctx (io.after 1) state.userID "passkey.authentication.finish"
    let credentials ← m.openPasskeys ctx state.userID
    match provider.finishAuthentication ⟨user, credentials⟩ state.session response with
    | .error e =>
      denyAuthentication ctx (io.after 3) state.userID "auth.passkey" (assertionReason e)
        .invalidCredentials
    | .ok asserted => commitPasskeyAuthentication ctx (io.after 3) state state.userID asserted.1 asserted.2

/-- The callback of a discoverable ceremony: the account of a credential, with its identifier. -/
def lookupPasskey (credentialID : Bytes) : Routine (UUID × PasskeyUser) := do
  let passkey ← Routine.read ctx (.passkeyByCredentialID credentialID)
  let user ← Routine.read ctx (.userByID passkey.userID)
  let credentials ← m.openPasskeys ctx passkey.userID
  pure (passkey.userID, ⟨user, credentials⟩)

/-- The ceremony of the provider, whose lookups are made in the store.  The value goes with the account
that was looked up last, `resolved` if none was. -/
def runDiscoverable (resolved : UUID) :
    Program Lookup (Except Err (Bytes × Bytes)) → Routine (UUID × Except Err (Bytes × Bytes))
  | .ret r => pure (resolved, r)
  | .op (.credential credentialID) k => do
    let answer ← (m.lookupPasskey ctx credentialID).attempt
    runDiscoverable ((answer.toOption.map Prod.fst).getD resolved) (k (answer.map Prod.snd))

/-- `FinishDiscoverablePasskeyAuthentication`, after the ceremony of the provider. -/
def finishResolved (io : AccountSupply) (state : CeremonyContinuation) (userID : UUID)
    (result : Except Err (Bytes × Bytes)) : Routine Authentication :=
  if userID = 0 then fail .invalidCredentials
  else match result with
    | .error e =>
      denyAuthentication ctx io userID "auth.passkey" (assertionReason e) .invalidCredentials
    | .ok asserted => do
      m.requirePasskeyAccount ctx io userID "passkey.discoverable.finish"
      commitPasskeyAuthentication ctx (io.after 2) state userID asserted.1 asserted.2

/-- `FinishDiscoverablePasskeyAuthentication`; both stores look credentials up. -/
def finishDiscoverablePasskeyAuthentication (io : AccountSupply) (continuation : String)
    (response : Bytes) : Routine Authentication :=
  match m.passkeys.bind PasskeyProvider.finishDiscoverable with
  | none => fail .notSupported
  | some finishDiscoverable => do
    let state ← lift (decodeContinuation (io.now 0) (m.openCeremony continuation) .passkeyDiscoverable)
    let resolved ← m.runDiscoverable ctx 0 (finishDiscoverable state.session response)
    m.finishResolved ctx (io.after 1) state resolved.1 resolved.2

/-! ## Personal access tokens -/

/-- The token that the text names, if it can be read. -/
def readPAT (raw : String) : Routine (Option PAT) :=
  match parsePAT m.patPrefix raw with
  | none => pure none
  | some pfx => do
    let pat ← (Routine.read ctx (.patByPrefix pfx)).attempt
    pure pat.toOption

/-- The token is presented by its secret, unrevoked and unexpired. -/
def presentedPAT (now : Time) (raw : String) (pat : PAT) : Bool :=
  m.matchPATDigest pat.digest raw ∧ pat.revokedAt = none ∧ pat.expiresAt.all (now < ·)

/-- Record a rejected token, unchained if it names nobody, and fail. -/
def rejectPAT (io : AccountSupply) (pat : Option PAT) : Routine Authentication :=
  let actor := ((pat.filter fun pat => pat.id ≠ 0).map PAT.userID).getD 0
  if actor = 0 then do
    let event ← lift (io.userAudit 0 0 "auth.pat" .failed "invalid_credentials")
    (Routine.write ctx (.workspace .appendAudit) { audit := event, unchained := true }).mapError mapStoreError
    fail .invalidCredentials
  else denyAuthentication ctx io actor "auth.pat" "invalid_credentials" .invalidCredentials

/-- The workspace a token is bound to still lets its user in. -/
def requirePATWorkspace (pat : PAT) : Routine Unit :=
  if pat.workspaceID = 0 then pure ()
  else
    (m.authorizePermission ctx { userID := pat.userID, workspaceID := pat.workspaceID } pat.workspaceID
      "workspace.access").routine.mapError fun _ => .invalidCredentials

/-- Touch a token that is accepted, unless it was touched recently. -/
def touchedPAT (io : AccountSupply) (now : Time) (pat : PAT) : Routine Authentication :=
  let authn : Authentication := {
    userID := pat.userID, method := .pat, level := aal1, authenticatedAt := now,
    workspaceID := pat.workspaceID, scopes := pat.scopes }
  if 0 < m.patTouchInterval ∧ pat.lastUsedAt.any (now < · + m.patTouchInterval) then pure authn
  else do
    let event ← lift (io.audit 0 (io.now 0) pat.userID "auth.pat" "pat" pat.id.string pat.workspaceID
      .succeeded "")
    (Routine.write ctx (.factor (.touchPAT pat.id now)) { audit := event }).mapError mapStoreError
    pure authn

/-- `AuthenticatePAT` with the token it has read. -/
def acceptPAT (io : AccountSupply) (now : Time) (pat : PAT) : Routine Authentication := do
  let user ← (Routine.read ctx (.userByID pat.userID)).attempt
  if user.toOption.any fun user => user.disabled = false then do
    m.requirePATWorkspace ctx pat
    m.touchedPAT ctx io now pat
  else denyAuthentication ctx io pat.userID "auth.pat" "invalid_credentials" .invalidCredentials

/-- `AuthenticatePAT`. -/
def authenticatePAT (io : AccountSupply) (raw : String) : Routine Authentication := do
  let found ← m.readPAT ctx raw
  match found.filter (m.presentedPAT (io.now 0) raw) with
  | none => rejectPAT ctx (io.after 1) found
  | some pat => m.acceptPAT ctx (io.after 1) (io.now 0) pat

/-! ## External identities -/

/-- `validEmail`. -/
def validEmail (value : String) : Except Err String := do
  let normalized := normalizeEmail value
  require (m.parsesAddress normalized = true ∧ normalized.utf8ByteSize ≤ 320) .invalidInput
  return normalized

/-- The claims as the manager goes on with them: trimmed, within bounds, with a normalized address. -/
def normalizeClaims (claims : SSOClaims) : Except Err SSOClaims := do
  let issuer := trimSpace claims.issuer
  let subject := trimSpace claims.subject
  require (issuer ≠ "" ∧ subject ≠ "" ∧ issuer.utf8ByteSize ≤ 500 ∧ subject.utf8ByteSize ≤ 500)
    .invalidCredentials
  return { claims with issuer := issuer, subject := subject }

/-- The address the provider asserts, if any, has to be valid. -/
def normalizeClaimedEmail (claims : SSOClaims) : Except Err SSOClaims :=
  if claims.email = "" then .ok claims
  else match m.validEmail claims.email with
    | .ok email => .ok { claims with email := email }
    | .error _ => .error .invalidCredentials

/-- The level an identity of the provider is authenticated at; none, if the policy is not satisfied. -/
def assuredLevel (providerConfigurationID : UUID) (claims : SSOClaims) : Option AssuranceLevel :=
  match m.ssoAssurance providerConfigurationID with
  | none => some aal1
  | some policy => if policy.satisfiedBy claims then some aal2 else none

/-- Fail, and record it if the ceremony names a user. -/
def denySSO (io : AccountSupply) (userID : UUID) (reason : String) (err : Err) : Routine Authentication :=
  if userID = 0 then fail err else denyAuthentication ctx io userID "auth.sso" reason err

/-- The identity a ceremony links to a user. -/
def newIdentity (id userID : UUID) (provider : SSOProvider) (state : SSOContinuation) (claims : SSOClaims)
    (now : Time) : SSOIdentity where
  id := id
  userID := userID
  providerConfigurationID := state.providerConfigurationID
  providerKind := provider.kind
  issuer := claims.issuer
  subject := claims.subject
  email := claims.email
  createdAt := now
  lastUsedAt := some now

/-- `finishSSOLink`. -/
def finishSSOLink (io : AccountSupply) (provider : SSOProvider) (state : SSOContinuation)
    (claims : SSOClaims) (level : AssuranceLevel) : Routine Authentication := do
  let id ← lift (io.newID 0)
  let event ← lift (io.audit 1 (io.now 1) state.userID "sso.link" "sso_identity" id.string 0 .succeeded "")
  let change ← lift (newChange io 2 "sso.link" "auth.sso.finish" state.userID 0 event)
  let commit := { m.transactionalCommit event [change] with
    ceremony := (Continuation.sso state).consumption }
  (Routine.write ctx (.directory (.linkSSO (newIdentity id state.userID provider state claims (io.now 0))))
    commit).mapError mapStoreError
  pure { userID := state.userID, method := .sso, level := level, authenticatedAt := io.now 0 }

/-- What `finishSSOJIT` creates: a user with a verified primary address, a membership and an identity. -/
structure Provision where
  user : User
  email : EmailAddress
  membership : Membership
  identity : SSOIdentity
  commit : Commit

/-- The records of a user provisioned just in time. -/
def provision (io : AccountSupply) (provider : SSOProvider) (state : SSOContinuation) (claims : SSOClaims)
    (domain : WorkspaceDomain) : Except Err Provision := do
  let userID ← io.newID 0
  let emailID ← io.newID 1
  let identityID ← io.newID 2
  let now := io.now 0
  let event ← io.audit 3 (io.now 1) userID "auth.sso" "sso_identity" identityID.string domain.workspaceID
    .succeeded ""
  let creation ← newChange io 4 "user.create" "auth.sso.finish" userID domain.workspaceID event
  let link ← newChange io 5 "sso.link" "auth.sso.finish" userID domain.workspaceID event
  let _ ← io.newID 6
  return {
    user := {
      id := userID, email := claims.email, displayName := claims.email, disabled := false,
      lastSeenAt := some now, createdAt := now, updatedAt := now }
    email := {
      id := emailID, userID := userID, address := claims.email, primary := true, verifiedAt := some now,
      createdAt := now, updatedAt := now }
    membership := {
      workspaceID := domain.workspaceID, userID := userID,
      role := if domain.autoJoinRole = .other "" then .member else domain.autoJoinRole,
      status := .active, provisioningSource := "jit:" ++ domain.id.string, createdAt := now,
      updatedAt := now }
    identity := newIdentity identityID userID provider state claims now
    commit := { m.transactionalCommit event [creation, link] with
      ceremony := (Continuation.sso state).consumption } }

/-- `finishSSOJIT`. -/
def finishSSOJIT (io : AccountSupply) (provider : SSOProvider) (state : SSOContinuation)
    (claims : SSOClaims) (level : AssuranceLevel) : Routine Authentication := do
  demand (m.domainStore = true ∧ claims.emailVerified = true ∧ claims.email ≠ "") .invalidCredentials
  let name ← lift (match emailDomain claims.email with
    | some name => .ok name
    | none => .error .invalidCredentials)
  let domain ← (Routine.read ctx (.confirmedWorkspaceDomainByName name)).mapError invalidMissing
  demand (domain.autoJoin = true ∧ domain.ssoProviderConfigurationID = state.providerConfigurationID)
    .invalidCredentials
  let workspace ← (Routine.read ctx (.workspaceByID domain.workspaceID)).mapError invalidMissing
  demand (workspace.disabledAt = none) .invalidCredentials
  let owner ← Routine.find ctx (.userByEmail claims.email)
  demand (owner.isNone = true) .invalidCredentials
  let new ← lift (m.provision io provider state claims domain)
  (Routine.write ctx (.directory (.jitProvisionSSOUser new.user new.email new.membership new.identity))
    new.commit).mapError invalidConflict
  pure { userID := new.user.id, method := .sso, level := level, authenticatedAt := io.now 0 }

/-- A sign-in or step-up with an identity that is linked. -/
def touchIdentity (io : AccountSupply) (state : SSOContinuation) (identity : SSOIdentity)
    (level : AssuranceLevel) : Routine Authentication := do
  demand (¬ (state.operation = .stepUp ∧ identity.userID ≠ state.userID)) .invalidCredentials
  let user ← Routine.expect ctx (.userByID identity.userID) (fun user => user.disabled = false)
    .invalidCredentials
  let event ← lift (io.audit 0 (io.now 1) user.id "auth.sso" "sso_identity" identity.id.string 0
    .succeeded "")
  (Routine.write ctx (.directory (.touchSSO user.id identity.id (io.now 0)))
    { audit := event, ceremony := (Continuation.sso state).consumption }).mapError invalidConflict
  pure { userID := user.id, method := .sso, level := level, authenticatedAt := io.now 0 }

/-- `FinishSSO`, with the claims of the provider accepted. -/
def finishClaims (io : AccountSupply) (provider : SSOProvider) (state : SSOContinuation)
    (claims : SSOClaims) (level : AssuranceLevel) : Routine Authentication :=
  if state.operation = .link then m.finishSSOLink ctx io provider state claims level
  else do
    match ← Routine.find ctx (.ssoIdentity state.providerConfigurationID claims.issuer claims.subject) with
    | some identity => touchIdentity ctx io state identity level
    | none =>
      if state.operation = .login then m.finishSSOJIT ctx io provider state claims level
      else fail .invalidCredentials

/-- `FinishSSO`, after the ceremony of the provider. -/
def judgeClaims (io : AccountSupply) (provider : SSOProvider) (state : SSOContinuation)
    (claims : SSOClaims) : Routine Authentication := do
  let claims ← lift (normalizeClaims claims)
  match m.assuredLevel state.providerConfigurationID claims with
  | none => denySSO ctx io state.userID "assurance_policy" .stepUpRequired
  | some level => do
    let claims ← lift (m.normalizeClaimedEmail claims)
    m.finishClaims ctx io provider state claims level

/-- `FinishSSO`. -/
def finishSSO (io : AccountSupply) (continuation : String) (response : Bytes) :
    Routine Authentication := do
  let state ← lift (decodeSSOContinuation (io.now 0) (m.openSSO continuation))
  match m.ssoProviders state.providerConfigurationID with
  | none => fail .invalidCredentials
  | some provider =>
    match provider.finish state.session response with
    | .error _ => denySSO ctx (io.after 1) state.userID "invalid_credentials" .invalidCredentials
    | .ok claims => m.judgeClaims ctx (io.after 1) provider state claims

/-! ## Removing what a user signs in with -/

/-- `DeletePasskey`. -/
def deletePasskey (io : AccountSupply) (actor : Authentication) (passkeyID : UUID) : Routine Unit := do
  m.requireScopedStepUp ctx (io.now 0) actor .account
  demand (passkeyID ≠ 0) .invalidInput
  let event ← lift (io.audit 1 (io.now 1) actor.userID "passkey.delete" "passkey" passkeyID.string 0
    .succeeded "")
  let change ← lift (newChange io 2 "passkey.deletion" "auth.passkey.delete" actor.userID 0 event)
  (Routine.write ctx (.factor (.deletePasskey actor.userID passkeyID))
    (m.transactionalCommit event [change])).mapError mapStoreError

/-- `UnlinkSSO`. -/
def unlinkSSO (io : AccountSupply) (actor : Authentication) (identityID : UUID) : Routine Unit := do
  m.requireScopedStepUp ctx (io.now 0) actor .account
  demand (validUUIDv7 identityID = true) .invalidInput
  let event ← lift (io.audit 1 (io.now 1) actor.userID "sso.unlink" "sso_identity" identityID.string 0
    .succeeded "")
  let change ← lift (newChange io 2 "sso.unlink" "auth.sso.unlink" actor.userID 0 event)
  (Routine.write ctx (.directory (.unlinkSSO actor.userID identityID))
    (m.transactionalCommit event [change])).mapError mapStoreError

end Credbound.Accounts
