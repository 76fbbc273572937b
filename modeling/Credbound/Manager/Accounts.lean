import Credbound.Manager.Methods
import Credbound.Manager.Permissions
import Credbound.Manager.Ceremony

/-!
# Manager/Accounts — what the account functions are built with, and their common checks

An `Accounts` is a manager with the collaborators its account functions call: the password hasher, the
second-factor, passkey and identity providers, the sealing of secrets, the policies and limits.  A
salted hash, a sealed text and a random secret differ from call to call, so they come with the
`AccountSupply` of the call.

The checks that many functions share are here: step-up, administration, lockout, the sign-on policy of
a domain, and the audit events of an authentication.
-/

namespace Credbound

open Procedure

namespace Manager

/-! ## Collaborators -/

/-- `StepUpPolicy`. -/
inductive StepUpPolicy
  | required
  | userCapable
  | none
deriving DecidableEq

/-- `StepUpScope`. -/
inductive StepUpScope
  | pat
  | workspace
  | account
  | admin
deriving DecidableEq

/-- `TrustedRequest`. -/
structure TrustedRequest where
  isLocal : Bool := false

/-- A change of an account, as the transaction hooks are shown it. -/
structure AccountChange where
  id : UUID
  /-- Which hook: `"password.change"`, `"session.creation"`, … -/
  change : String
  operation : String
  occurredAt : Time
  actorID : UUID
  workspaceID : UUID
  auditID : UUID

/-- `PasskeyUser`: the account, and what listing its opened credentials yields. -/
structure PasskeyUser where
  user : User
  credentials : Except Err (List Passkey)

/-- What a discoverable ceremony asks the manager back: the account of a credential. -/
inductive Lookup : Type → Type
  | credential (credentialID : Bytes) : Lookup (Except Err PasskeyUser)

/-- A `PasskeyProvider`: on a session and a response it fails, or names the credential and its new
state.  The discoverable ceremony may look accounts up on the way. -/
structure PasskeyProvider where
  finishAuthentication : PasskeyUser → Bytes → Bytes → Except Err (Bytes × Bytes)
  finishDiscoverable : Option (Bytes → Bytes → Program Lookup (Except Err (Bytes × Bytes)))

/-- `SSOClaims`. -/
structure SSOClaims where
  issuer : String
  subject : String
  email : String
  emailVerified : Bool
  acr : String
  amr : List String

/-- `SSOAssurancePolicy`. -/
structure SSOAssurancePolicy where
  trustUnverified : Bool
  acceptedACR : List String
  requiredAMR : List String

/-- `satisfiedBy`. -/
def SSOAssurancePolicy.satisfiedBy (p : SSOAssurancePolicy) (claims : SSOClaims) : Bool :=
  p.trustUnverified
    ∨ (p.acceptedACR = [] ∨ claims.acr ∈ p.acceptedACR) ∧ ∀ required ∈ p.requiredAMR, required ∈ claims.amr

/-- An `SSOProvider`. -/
structure SSOProvider where
  kind : SSOProviderKind
  finish : Bytes → Bytes → Except Err SSOClaims

/-- What one call of an account function is given. -/
structure AccountSupply extends Supply where
  /-- `passwords.Hash`, which salts. -/
  hash : Nat → String → Except Err String
  /-- `seal`, with a nonce of its own. -/
  sealing : Nat → Bytes → Except Err Bytes
  /-- A random secret in its text form. -/
  secret : Nat → Except Err String

end Manager

open Manager in
/-- A manager with the collaborators of its account functions. -/
structure Accounts extends Manager where
  /-- The capabilities of the store. -/
  sessionStore : Bool := true
  domainStore : Bool := true
  scimStore : Bool := true
  /-- `OIDCSigner.Algorithms`. -/
  oidcAlgorithms : List String := []
  /-- The transaction hooks, on a change of an account. -/
  accountHooks : AccountChange → Hook
  hasAdminPermission : InstanceRole → String → Bool
  /-- `roleCatalog.normalize`: a role that is not in the catalogue is refused. -/
  knownRole : Role → Bool
  stepUp : StepUpScope → StepUpPolicy
  stepUpMaxAge : Duration
  /-- `passwords.Verify`: whether the password matches the hash, and whether to hash it anew. -/
  verify : String → String → Except Err (Bool × Bool)
  dummyHash : String
  validatePassword : String → Except Err Unit
  maxFailedLogins : Int
  lockoutDuration : Duration
  /-- `idna.Lookup.ToASCII`. -/
  domainToASCII : String → Option String
  /-- `mail.ParseAddress` accepts the text and returns it. -/
  parsesAddress : String → Bool
  /-- `open`: what is under the seal. -/
  unsealed : Bytes → Except Err Bytes
  tokenDigest : String → Bytes
  /-- `matchTokenDigest`: the digest matches the text under one of the keys in use. -/
  matchTokenDigest : Bytes → String → Bool
  /-- `totp.Validate`: the time step of a code that is valid for the secret. -/
  totp : Option (String → Bytes → Time → Option Int)
  /-- The digests of a recovery code, one for each pepper in use. -/
  recoveryDigests : String → List Bytes
  passkeys : Option PasskeyProvider
  patPrefix : String
  matchPATDigest : Bytes → String → Bool
  patTouchInterval : Duration
  passwordResetTTL : Duration := 3600 * 1000000000
  emailAuthTTL : Duration := 15 * 60 * 1000000000
  invitationTTL : Duration := 7 * 24 * 3600 * 1000000000
  /-- The store throttles the issuance of e-mails, and the time between two of them. -/
  emailThrottle : Bool := true
  emailIssuanceCooldown : Duration := 0
  sessionTTL : Duration
  sessionIdleTimeout : Duration
  sessionTouchInterval : Duration
  ssoProviders : UUID → Option SSOProvider
  ssoAssurance : UUID → Option SSOAssurancePolicy
  /-- What opening a continuation yields. -/
  openContinuation : String → Option Continuation

namespace Manager

/-- The supply of a function that is called after `k` readings. -/
def AccountSupply.after (io : AccountSupply) (k : Nat) : AccountSupply where
  now i := io.now (k + i)
  newID i := io.newID (k + i)
  newOAuthBearer i := io.newOAuthBearer (k + i)
  fetch := io.fetch
  ipAddress := io.ipAddress
  userAgent := io.userAgent
  hash i := io.hash (k + i)
  sealing i := io.sealing (k + i)
  secret i := io.secret (k + i)

/-- `newAudit` of an authentication: the actor is the user it is about. -/
def AccountSupply.userAudit (io : AccountSupply) (k : Nat) (userID : UUID) (action : String)
    (outcome : AuditOutcome) (reason : String) : Except Err AuditEvent :=
  io.audit k (io.now k) userID action "user" userID.string 0 outcome reason

end Manager

namespace Accounts

open Manager Memory

/-! ## Commits -/

/-- `newEventMeta` and the change that carries it. -/
def newChange (io : AccountSupply) (k : Nat) (change operation : String) (actorID workspaceID : UUID)
    (audit : AuditEvent) : Except Err AccountChange := do
  let id ← io.newID k
  return {
    id := id, change := change, operation := operation, occurredAt := io.now k, actorID := actorID,
    workspaceID := workspaceID, auditID := audit.id }

/-- `transactionalCommit`, with the changes its hooks are shown one after the other. -/
def transactionalCommit (m : Accounts) (audit : AuditEvent) (changes : List AccountChange) : Commit where
  audit := audit
  transactional := some fun ctx tx => changes.findSome? fun change => m.accountHooks change ctx tx

/-! ## Audit events of an authentication -/

/-- `recordAuthenticationAudit`. -/
def recordAuthenticationAudit (ctx : Context) (io : AccountSupply) (actor : UUID) (action : String)
    (outcome : AuditOutcome) (reason : String) : Routine Unit := do
  let event ← lift (io.userAudit 0 actor action outcome reason)
  let op : Op := if outcome = .succeeded ∧ actor ≠ 0 then .account (.recordAuthentication actor (io.now 1))
    else .workspace .appendAudit
  (Routine.write ctx op { audit := event }).mapError mapStoreError

/-- Report a failed authentication, and fail. -/
def denyAuthentication {α : Type} (ctx : Context) (io : AccountSupply) (actor : UUID)
    (action reason : String) (err : Err) : Routine α := do
  recordAuthenticationAudit ctx io actor action .failed reason
  fail err

/-- A denied authentication does not succeed. -/
theorem not_runs_denyAuthentication {S α : Type} {h : Program.Handler Access S} {rely : S → S → Prop}
    {admits : ⦃β : Type⦄ → Access β → S → Prop} {ctx : Context} {io : AccountSupply} {actor : UUID}
    {action reason : String} {err : Err} {s t : S} {a : α} :
    ¬ (denyAuthentication ctx io actor action reason err).Runs h rely admits s (.ok a) t := by
  unfold denyAuthentication
  simp

/-- `recordAuthenticationFailure`: a failure that can be counted is counted in the same commit. -/
def recordAuthenticationFailure (m : Accounts) (ctx : Context) (io : AccountSupply) (userID : UUID)
    (action : String) (countFailure : Bool) : Routine Unit :=
  if countFailure = false ∨ m.maxFailedLogins ≤ 0 then
    recordAuthenticationAudit ctx io userID action .failed "invalid_credentials"
  else do
    let event ← lift (io.userAudit 0 userID action .failed "invalid_credentials")
    let record : Routine LoginThrottle := .call (.recordLoginFailure ctx userID (io.now 1)
      m.maxFailedLogins (io.now 2 + m.lockoutDuration) { audit := event })
    let _ ← record.mapError mapStoreError
    pure ()

/-- The lockout is active. -/
def lockedOut (now : Time) (throttle : LoginThrottle) : Bool :=
  throttle.lockedUntil.any fun lockedUntil => now < lockedUntil

/-- `requireUnlocked`. -/
def requireUnlocked (m : Accounts) (ctx : Context) (io : AccountSupply) (userID : UUID)
    (action : String) : Routine Unit :=
  if m.maxFailedLogins ≤ 0 then pure ()
  else do
    match ← Routine.find ctx (.loginThrottleByUserID userID) with
    | none => pure ()
    | some throttle =>
      if lockedOut (io.now 0) throttle then
        denyAuthentication ctx (io.after 1) userID action "locked" .locked
      else pure ()

/-- `canonicalDomainForLookup`. -/
def canonicalDomainForLookup (m : Accounts) (domain : String) : String :=
  let domain := (trimSpace domain).toLower
  (m.domainToASCII domain).getD domain

/-- `domainRequiresSSO`. -/
def domainRequiresSSO (m : Accounts) (ctx : Context) (io : AccountSupply) (email action : String) :
    Routine Unit :=
  match if m.domainStore then emailDomain email else none with
  | none => pure ()
  | some text => do
    match ← Routine.find ctx (.confirmedWorkspaceDomainByName (m.canonicalDomainForLookup text)) with
    | none => pure ()
    | some domain =>
      if domain.enforceSSO then denyAuthentication ctx io 0 action "sso_required" .ssoRequired
      else pure ()

/-! ## The actor -/

/-- `requireActiveUser`. -/
def requireActiveUser (ctx : Context) (userID : UUID) : Routine Unit := do
  let _ ← Routine.expect ctx (.userByID userID) (fun user => user.disabled = false) .forbidden
  pure ()

/-- `RequireStepUp`. -/
def requireStepUp (m : Accounts) (now : Time) (authn : Authentication) : Except Err Unit := do
  require (authn.userID ≠ 0) .unauthorized
  let age := now - authn.authenticatedAt
  require (authn.interactive ∧ aal2 ≤ authn.level ∧ authn.secondFactorRequired = false ∧ 0 ≤ age
    ∧ age ≤ m.stepUpMaxAge) .stepUpRequired

/-- `requireInteractive`. -/
def requireInteractive (ctx : Context) (authn : Authentication) : Routine Unit := do
  demand (authn.userID ≠ 0) .unauthorized
  demand (authn.interactive ∧ authn.secondFactorRequired = false) .stepUpRequired
  requireActiveUser ctx authn.userID

/-- `requireRecentInteractive`. -/
def requireRecentInteractive (m : Accounts) (ctx : Context) (now : Time) (authn : Authentication) :
    Routine Unit := do
  demand (authn.userID ≠ 0) .unauthorized
  let age := now - authn.authenticatedAt
  demand (authn.interactive ∧ authn.secondFactorRequired = false ∧ 0 ≤ age ∧ age ≤ m.stepUpMaxAge)
    .stepUpRequired
  requireActiveUser ctx authn.userID

/-- `stepUpCapable`: what cannot be read counts as capable. -/
def stepUpCapable (m : Accounts) (ctx : Context) (userID : UUID) : Routine Bool :=
  if userID = 0 then pure false
  else do
    let factor ← (Routine.read ctx (.totpByUserID userID)).attempt
    let capable := match factor with
      | .ok factor => factor.active
      | .error e => e ≠ Err.notFound
    if capable then pure true
    else if m.passkeys.isNone then pure false
    else do
      match ← (Routine.read ctx (.passkeys userID)).attempt with
      | .ok passkeys => pure (passkeys ≠ [])
      | .error _ => pure true

/-- The policy of the scope asks this user for a second factor. -/
def stepUpApplies (m : Accounts) (ctx : Context) (userID : UUID) (scope : StepUpScope) : Routine Bool :=
  match m.stepUp scope with
  | .required => pure true
  | .userCapable => m.stepUpCapable ctx userID
  | .none => pure false

/-- `RequireStepUpFor`; `requireScopedStepUp` returns the same and emits an event. -/
def requireScopedStepUp (m : Accounts) (ctx : Context) (now : Time) (authn : Authentication)
    (scope : StepUpScope) : Routine Unit := do
  let applies ← m.stepUpApplies ctx authn.userID scope
  if applies then do
    lift (m.requireStepUp now authn)
    requireActiveUser ctx authn.userID
  else requireInteractive ctx authn

/-- Fail with an error that is not `ErrNotFound`. -/
def unlessMissing {α : Type} : Except Err α → Routine Unit
  | .error e => demand (e = .notFound) e
  | .ok _ => pure ()

/-- `AuthorizeAdmin`: the access is audited, whether it is allowed or not. -/
def authorizeAdmin (m : Accounts) (ctx : Context) (io : AccountSupply) (actor : Authentication)
    (permission : String) : Routine Unit := do
  demand (actor.userID ≠ 0) .unauthorized
  let instanceCredential := actor.workspaceID = 0 ∧ (actor.scopes = [] ∨ actor.hasScope "*" = true)
  let user ← (Routine.read ctx (.userByID actor.userID)).attempt
  let admin ← (Routine.read ctx (.instanceAdministrator actor.userID)).attempt
  let allowed : Bool := instanceCredential ∧ (user.toOption.any fun user => ¬ user.disabled) = true
    ∧ (admin.toOption.any fun admin => m.hasAdminPermission admin.role permission) = true
  let event ← lift (io.audit 0 (io.now 0) actor.userID "admin.access" "permission" permission 0
    (if allowed then .succeeded else .failed) (if allowed then "" else "forbidden"))
  (Routine.write ctx (.workspace .appendAudit) { audit := event }).mapError mapStoreError
  unlessMissing admin
  unlessMissing user
  demand (allowed = true) .forbidden

/-- `requireAdminMutation`. -/
def requireAdminMutation (m : Accounts) (ctx : Context) (now : Time) (actor : Authentication)
    (request : TrustedRequest) : Routine Unit := do
  demand (actor.userID ≠ 0 ∧ actor.interactive = true) .unauthorized
  if request.isLocal then pure () else m.requireScopedStepUp ctx now actor .admin

/-- `authorizeWorkspaceMutation`: a disabled workspace accepts nothing but the operation that enables
it. -/
def authorizeWorkspaceMutation (m : Accounts) (ctx : Context) (now : Time) (actor : Authentication)
    (workspaceID : UUID) (permission operation : String) : Routine Unit := do
  m.requireScopedStepUp ctx now actor .workspace
  demand (validUUIDv7 workspaceID = true) .invalidInput
  let _ ← Routine.expect ctx (.userByID actor.userID) (fun user => user.disabled = false) .forbidden
  demand (actor.workspaceID = 0 ∨ actor.workspaceID = workspaceID) .forbidden
  let workspace ← (Routine.read ctx (.workspaceByID workspaceID)).mapError forbidMissing
  demand (workspace.disabledAt = none ∨ operation = "workspace.enable") .forbidden
  let membership ← (Routine.read ctx (.membership workspaceID actor.userID)).mapError forbidMissing
  demand (membership.status = .active ∧ m.allows membership.role permission = true) .forbidden

/-! ## What the checks can do to the store -/

section Checking

variable (m : Accounts) (ctx : Context) (io : AccountSupply) (now : Time) (authn : Authentication)

theorem requireActiveUser_reading (userID : UUID) : (requireActiveUser ctx userID).Emits Reading :=
  emits_bind (emits_expect_read trivial) fun _ => emits_pure

theorem requireInteractive_reading : (requireInteractive ctx authn).Emits Reading :=
  emits_bind emits_demand fun _ => emits_bind emits_demand fun _ =>
    requireActiveUser_reading ctx authn.userID

theorem stepUpCapable_reading (userID : UUID) : (m.stepUpCapable ctx userID).Emits Reading := by
  unfold stepUpCapable
  split
  · exact emits_pure
  · refine emits_bind (emits_attempt (emits_read trivial)) fun factor => ?_
    dsimp only
    generalize (match factor with
      | .ok factor => factor.active
      | .error e => decide (e ≠ Err.notFound)) = capable
    split
    · exact emits_pure
    · split
      · exact emits_pure
      · refine emits_bind (emits_attempt (emits_read trivial)) fun r => ?_
        match r with
        | .ok passkeys => exact emits_pure
        | .error _ => exact emits_pure

theorem requireScopedStepUp_reading (scope : StepUpScope) :
    (m.requireScopedStepUp ctx now authn scope).Emits Reading := by
  refine emits_bind ?_ fun applies => ?_
  · unfold stepUpApplies
    split
    · exact emits_pure
    · exact m.stepUpCapable_reading ctx authn.userID
    · exact emits_pure
  · split
    · exact emits_bind emits_lift fun _ => requireActiveUser_reading ctx authn.userID
    · exact requireInteractive_reading ctx authn

theorem unlessMissing_checking {α : Type} (r : Except Err α) : (unlessMissing r).Emits Checking := by
  cases r with
  | error e => exact emits_demand
  | ok _ => exact emits_pure

theorem authorizeAdmin_checking (permission : String) :
    (m.authorizeAdmin ctx io authn permission).Emits Checking := by
  refine emits_bind emits_demand fun _ => ?_
  refine emits_bind (emits_attempt (emits_read trivial)) fun user => ?_
  refine emits_bind (emits_attempt (emits_read trivial)) fun admin => ?_
  refine emits_bind emits_lift fun event => ?_
  refine emits_bind (emits_mapError (emits_write rfl)) fun _ => ?_
  refine emits_bind (unlessMissing_checking admin) fun _ => ?_
  refine emits_bind (unlessMissing_checking user) fun _ => ?_
  exact emits_demand

theorem requireAdminMutation_checking (request : TrustedRequest) :
    (m.requireAdminMutation ctx now authn request).Emits Checking := by
  refine emits_bind emits_demand fun _ => ?_
  split
  · exact emits_pure
  · exact (m.requireScopedStepUp_reading ctx now authn .admin).mono checking_of_reading

theorem authorizeWorkspaceMutation_reading (workspaceID : UUID) (permission operation : String) :
    (m.authorizeWorkspaceMutation ctx now authn workspaceID permission operation).Emits Reading := by
  refine emits_bind (m.requireScopedStepUp_reading ctx now authn .workspace) fun _ => ?_
  refine emits_bind emits_demand fun _ => ?_
  refine emits_bind (emits_expect_read trivial) fun _ => ?_
  refine emits_bind emits_demand fun _ => ?_
  refine emits_bind (emits_mapError (emits_read trivial)) fun workspace => ?_
  refine emits_bind emits_demand fun _ => ?_
  refine emits_bind (emits_mapError (emits_read trivial)) fun membership => ?_
  exact emits_demand

theorem requireRecentInteractive_reading : (m.requireRecentInteractive ctx now authn).Emits Reading := by
  refine emits_bind emits_demand fun _ => ?_
  refine emits_bind emits_demand fun _ => ?_
  exact requireActiveUser_reading ctx authn.userID

end Checking

section Failing

variable {m : Accounts} {ctx : Context} {io : AccountSupply} {action : String}

theorem recordAuthenticationAudit_checking {actor : UUID} {reason : String} :
    (recordAuthenticationAudit ctx io actor action .failed reason).Emits Checking := by
  refine emits_bind emits_lift fun event => ?_
  exact emits_mapError (emits_write (if_neg (by simp)))

theorem denyAuthentication_checking {α : Type} {actor : UUID} {reason : String} {err : Err} :
    (denyAuthentication ctx io actor action reason err : Routine α).Emits Checking :=
  emits_bind recordAuthenticationAudit_checking fun _ => emits_fail

theorem requireUnlocked_checking {userID : UUID} :
    (m.requireUnlocked ctx io userID action).Emits Checking := by
  unfold requireUnlocked
  split
  · exact emits_pure
  · refine emits_bind (emits_find trivial) fun found => ?_
    match found with
    | none => exact emits_pure
    | some throttle =>
      dsimp only
      split
      · exact denyAuthentication_checking
      · exact emits_pure

theorem domainRequiresSSO_checking {email : String} :
    (m.domainRequiresSSO ctx io email action).Emits Checking := by
  unfold domainRequiresSSO
  split
  · exact emits_pure
  · refine emits_bind (emits_find trivial) fun found => ?_
    match found with
    | none => exact emits_pure
    | some domain =>
      dsimp only
      split
      · exact denyAuthentication_checking
      · exact emits_pure

end Failing

end Accounts

namespace Manager

/-- `AuthorizePermission` reads. -/
theorem authorizePermission_reading (m : Manager) (ctx : Context) (authn : Authentication)
    (workspaceID : UUID) (permission : String) :
    (m.authorizePermission ctx authn workspaceID permission).routine.Emits Reading := by
  refine emits_routine ?_
  refine emits_bind emits_demand fun _ => ?_
  refine emits_bind emits_demand fun _ => ?_
  refine emits_bind emits_demand fun _ => ?_
  refine emits_bind emits_demand fun _ => ?_
  refine emits_bind (emits_expect trivial) fun _ => ?_
  refine emits_bind emits_demand fun _ => ?_
  refine emits_bind (emits_mapError (emits_ask trivial)) fun _ => ?_
  refine emits_bind emits_demand fun _ => ?_
  refine emits_bind emits_demand fun _ => ?_
  refine emits_bind (emits_mapError (emits_ask trivial)) fun _ => ?_
  exact emits_demand

end Manager

end Credbound
