import Credbound.Types.OAuth
import Credbound.Types.Commit

/-!
# Memory/Store — the in-memory store and its commit protocol

`memory.Store` keeps all state in maps guarded by one lock, so a method is one step on the state.
A mutating method first looks (precondition checks), then asks `prepareCommitLocked` to accept the
commit, then writes, and hands over to `finishCommitLocked`, which runs the hook and either appends
the audit event or restores the snapshot taken before the writes.

    check ──▸ prepareCommitLocked ──▸ write ──▸ hook ──▸ commitAudit
                                                 └──▸ restoreLocked

Everything up to the hook is an `Attempt`; `Attempt.finish` is the rest.  Maps keyed by the text of
a UUID are keyed by the UUID, and a key that joins a UUID's text with a string by a NUL is the pair
of the two: the text has a fixed length, so neither loses anything.
-/

namespace Credbound.Memory

/-- `storeState`: the part of the store a rollback restores. -/
structure StoreState where
  users : FMap UUID User
  emails : FMap String UUID
  emailAddresses : FMap UUID EmailAddress
  emailIDs : FMap String UUID
  emailVerifications : FMap UUID EmailVerificationCredential
  passwords : FMap UUID PasswordCredential
  workspaces : FMap UUID Workspace
  memberships : FMap UUID (FMap UUID Membership)
  admins : FMap UUID InstanceAdministrator
  ssoIdentities : FMap UUID SSOIdentity
  ssoKeys : FMap (UUID × String) UUID
  totp : FMap UUID TOTPFactor
  recovery : FMap UUID (List RecoveryCode)
  passkeys : FMap UUID (FMap UUID Passkey)
  pats : FMap UUID PAT
  patPrefixes : FMap String UUID
  sessions : FMap UUID Session
  domains : FMap UUID WorkspaceDomain
  domainNames : FMap String UUID
  scimConfigurations : FMap UUID SCIMConfiguration
  scimCredentials : FMap UUID SCIMCredential
  scimCredentialKeys : FMap String UUID
  scimUsers : FMap UUID SCIMUser
  scimUserNames : FMap (UUID × String) UUID
  scimExternalIDs : FMap (UUID × String) UUID
  scimGroups : FMap UUID SCIMGroup
  scimGroupExternal : FMap (UUID × String) UUID
  oauthIssuers : FMap UUID OAuthIssuer
  oauthIssuerURLs : FMap String UUID
  oauthResources : FMap UUID OAuthProtectedResource
  oauthResourceURIs : FMap String UUID
  oauthClients : FMap UUID OAuthClient
  oauthClientKeys : FMap (UUID × String) UUID
  oauthInitialTokens : FMap UUID OAuthInitialAccessToken
  oauthInitialKeys : FMap String UUID
  oauthGrants : FMap UUID OAuthGrant
  oauthCodes : FMap UUID OAuthAuthorizationCode
  oauthCodeKeys : FMap String UUID
  oauthAccessTokens : FMap UUID OAuthAccessToken
  oauthAccessKeys : FMap String UUID
  oauthClientTokens : FMap UUID OAuthClientAccessToken
  oauthClientTokenKeys : FMap String UUID
  oauthRefreshTokens : FMap UUID OAuthRefreshToken
  oauthRefreshKeys : FMap String UUID
  throttles : FMap UUID LoginThrottle
  passwordResets : FMap UUID PasswordResetCredential
  emailAuths : FMap UUID EmailAuthenticationCredential
  invitations : FMap UUID WorkspaceInvitation
  audits : List AuditEvent
  auditIDs : Finset UUID
  auditSequence : Int
  auditHead : Bytes
deriving Inhabited

/-- `memory.Store`: the restorable state, and what lies outside the snapshot — the consumed
ceremonies (a ceremony is burned by the commit attempt even when a hook rejects the transaction
afterwards), the e-mail issuance times and the injected audit failure. -/
structure Store extends StoreState where
  ceremonies : FMap UUID Time
  emailIssuance : FMap String Time
  auditFailure : Option String
deriving Inhabited

namespace Store

/-- `New`: the empty store, its chain head the genesis hash. -/
def new : Store := { (default : Store) with auditHead := auditChainGenesis }

/-! ## Snapshot and restore -/

/-- `snapshotLocked`.  The loops copy every map but one: where `oauthClientKeys` stands in the order
of the fields, `oauthClientTokenKeys` is copied (a first of two times), and the snapshot's
`oauthClientKeys` stays the empty map it was made as. -/
def snapshotLocked (s : Store) : StoreState where
  users := s.users
  emails := s.emails
  emailAddresses := s.emailAddresses
  emailIDs := s.emailIDs
  emailVerifications := s.emailVerifications
  passwords := s.passwords
  workspaces := s.workspaces
  memberships := s.memberships
  admins := s.admins
  ssoIdentities := s.ssoIdentities
  ssoKeys := s.ssoKeys
  totp := s.totp
  recovery := s.recovery
  passkeys := s.passkeys
  pats := s.pats
  patPrefixes := s.patPrefixes
  sessions := s.sessions
  domains := s.domains
  domainNames := s.domainNames
  scimConfigurations := s.scimConfigurations
  scimCredentials := s.scimCredentials
  scimCredentialKeys := s.scimCredentialKeys
  scimUsers := s.scimUsers
  scimUserNames := s.scimUserNames
  scimExternalIDs := s.scimExternalIDs
  scimGroups := s.scimGroups
  scimGroupExternal := s.scimGroupExternal
  oauthIssuers := s.oauthIssuers
  oauthIssuerURLs := s.oauthIssuerURLs
  oauthResources := s.oauthResources
  oauthResourceURIs := s.oauthResourceURIs
  oauthClients := s.oauthClients
  oauthClientKeys := ∅
  oauthInitialTokens := s.oauthInitialTokens
  oauthInitialKeys := s.oauthInitialKeys
  oauthGrants := s.oauthGrants
  oauthCodes := s.oauthCodes
  oauthCodeKeys := s.oauthCodeKeys
  oauthAccessTokens := s.oauthAccessTokens
  oauthAccessKeys := s.oauthAccessKeys
  oauthClientTokens := s.oauthClientTokens
  oauthClientTokenKeys := s.oauthClientTokenKeys
  oauthRefreshTokens := s.oauthRefreshTokens
  oauthRefreshKeys := s.oauthRefreshKeys
  throttles := s.throttles
  passwordResets := s.passwordResets
  emailAuths := s.emailAuths
  invitations := s.invitations
  audits := s.audits
  auditIDs := s.auditIDs
  auditSequence := s.auditSequence
  auditHead := s.auditHead

/-- `restoreLocked`: every field of the snapshot is assigned back. -/
def restoreLocked (s : Store) (state : StoreState) : Store := { s with toStoreState := state }

/-! ## The audit log -/

/-- `canAudit`. -/
def canAudit (s : Store) (event : AuditEvent) : Except Err Unit :=
  match s.auditFailure with
  | some cause => .error (.auditUnavailableFor cause)
  | none => do
    require (¬ (event.id = 0 ∨ event.action = "" ∨ event.occurredAt = 0)) .auditUnavailable
    require (event.id ∉ s.auditIDs) .conflict

/-- `commitAudit`: append the event, extending the hash chain unless the commit stays out of it. -/
def commitAudit (s : Store) (event : AuditEvent) (unchained : Bool) : Store :=
  let event := if event.actorKind = .other "" then { event with actorKind := .user } else event
  if unchained then
    { s with audits := s.audits ++ [event], auditIDs := insert event.id s.auditIDs }
  else
    let event := { event with sequence := s.auditSequence + 1, previousHash := s.auditHead }
    let event := { event with hash := computeAuditHash event.previousHash event }
    { s with
      auditSequence := event.sequence
      auditHead := event.hash
      audits := s.audits ++ [event]
      auditIDs := insert event.id s.auditIDs }

/-! ## The commit protocol -/

/-- The consumed ceremonies a commit at `now` still remembers. -/
def liveCeremonies (s : Store) (now : Time) : FMap UUID Time :=
  s.ceremonies.filter fun _ expires => ¬ expires < now

/-- `prepareCommitLocked`: accept the commit or refuse it.  A ceremony is recorded here, before the
snapshot; a commit without a hook takes none. -/
def prepareCommitLocked (s : Store) (commit : Commit) : Except Err StoreState × Store :=
  match s.canAudit commit.audit with
  | .error e => (.error e, s)
  | .ok () =>
    match commit.ceremony with
    | none => (.ok (if commit.transactional.isNone then default else s.snapshotLocked), s)
    | some ceremony =>
      let s := { s with ceremonies := s.liveCeremonies commit.audit.occurredAt }
      if ceremony.id ∈ s.ceremonies then (.error .conflict, s)
      else
        let s := { s with ceremonies := s.ceremonies.set ceremony.id ceremony.expiresAt }
        (.ok (if commit.transactional.isNone then default else s.snapshotLocked), s)

/-- `finishCommitLocked`: run the hook, then roll back or append the audit event. -/
def finishCommitLocked (s : Store) (ctx : Context) (commit : Commit) (previous : StoreState) :
    Outcome Unit × Store :=
  match commit.hookErr ctx .memory with
  | some e => (.err e, s.restoreLocked previous)
  | none => (.ok (), s.commitAudit commit.audit commit.unchained)

end Store

/-! ## Attempts -/

/-- Where a call stands when its hook is about to run: it has returned already (with a value, an
error or a panic), or its writes are done and the commit is pending on the hook. -/
inductive Attempt (α : Type)
  | stopped (outcome : Outcome α) (s : Store)
  | pending (value : α) (previous : StoreState) (s : Store)

/-- The rest of the call: `finishCommitLocked`, and the method's value if it committed. -/
def Attempt.finish {α : Type} (a : Attempt α) (ctx : Context) (commit : Commit) :
    Outcome α × Store :=
  match a with
  | .stopped outcome s => (outcome, s)
  | .pending value previous s =>
    match s.finishCommitLocked ctx commit previous with
    | (.ok (), s) => (.ok value, s)
    | (.err e, s) => (.err e, s)
    | (.panic, s) => (.panic, s)

/-- The attempt without its value. -/
def Attempt.void {α : Type} : Attempt α → Attempt Unit
  | .stopped outcome s => .stopped outcome.void s
  | .pending _ previous s => .pending () previous s

/-- A mutating method in two parts: the precondition checks, and the writes that follow once the
commit is accepted.  A write that assigns into a nil map panics, and `.error` carries the state it
leaves behind. -/
structure Mutation where
  check : Store → Except Err Unit
  write : Commit → Store → Except Store Store

/-- Accept the commit and write. -/
def Store.prepareAndWrite {α : Type} (s : Store) (commit : Commit)
    (write : Store → Except Store Store) (value : α) : Attempt α :=
  match s.prepareCommitLocked commit with
  | (.error e, s) => .stopped (.err e) s
  | (.ok previous, s) =>
    match write s with
    | .error s => .stopped .panic s
    | .ok s => .pending value previous s

/-- A method up to its hook: the context is checked first, then the preconditions. -/
def Mutation.attempt (m : Mutation) (ctx : Context) (commit : Commit) (s : Store) : Attempt Unit :=
  match ctx.err with
  | some e => .stopped (.err e) s
  | none =>
    match m.check s with
    | .error e => .stopped (.err e) s
    | .ok () => s.prepareAndWrite commit (m.write commit) ()

/-- The whole call. -/
def Mutation.run (m : Mutation) (ctx : Context) (commit : Commit) (s : Store) :
    Outcome Unit × Store :=
  (m.attempt ctx commit s).finish ctx commit

end Credbound.Memory
