import Credbound.Memory.Helpers

/-!
# Memory/Reads — the reading methods

Every read of the store, as one family: `Read α` names the method and its arguments, and
`Store.answer` is what it returns.  A page is sorted newest first, cut at the limit and closed by an
end event with the cursor of its last item; a stream is sorted oldest first.  The copies the source
makes on the way out are the values themselves here.
-/

namespace Credbound.Memory

/-! ## Pages -/

/-- A decoded cursor; the zero value is the start of the list. -/
structure PageCursor where
  unixNano : Int
  id : UUID
deriving DecidableEq, Inhabited

/-- `encodeCursor`; `UnixNano` is a wrapping 64-bit number. -/
def encodeCursor (key : Time × UUID) : Cursor :=
  .payload (Int.bmod (key.1 - unixEpoch) (2 ^ 64)) key.2

/-- `decodeCursor`. -/
def decodeCursor : Cursor → Except Err PageCursor
  | .empty => .ok default
  | .malformed => .error .invalidInput
  | .payload unixNano id => if unixNano = 0 ∨ id = 0 then .error .invalidInput
    else .ok ⟨unixNano, id⟩

/-- `afterCursor`: the record comes after the cursor in the newest-first order. -/
def AfterCursor (key : Time × UUID) (cursor : PageCursor) : Prop :=
  cursor.id = 0 ∨ key.1 < unixEpoch + cursor.unixNano
    ∨ key.1 = unixEpoch + cursor.unixNano ∧ key.2 < cursor.id

instance (key : Time × UUID) (cursor : PageCursor) : Decidable (AfterCursor key cursor) :=
  inferInstanceAs (Decidable (_ ∨ _))

/-- `newer`, with equality: later times first, then greater identifiers. -/
def NewerEq (a b : Time × UUID) : Prop := b.1 < a.1 ∨ a.1 = b.1 ∧ b.2 ≤ a.2

instance (a b : Time × UUID) : Decidable (NewerEq a b) := inferInstanceAs (Decidable (_ ∨ _))

/-- Newest first. -/
def sortNewest {α : Type} (key : α → Time × UUID) (values : List α) : List α :=
  values.insertionSort fun a b => NewerEq (key a) (key b)

/-- Oldest first. -/
def sortOldest {α : Type} (key : α → Time × UUID) (values : List α) : List α :=
  values.insertionSort fun a b => NewerEq (key b) (key a)

/-- `yieldMemoryPage`: cut at the limit and close.  A negative limit is a slice bound out of
range. -/
def yieldMemoryPage {α : Type} (values : List α) (limit : Int) (key : α → Time × UUID) :
    Outcome (Page α) :=
  if (values.length : Int) ≤ limit then .ok ⟨values, ⟨.empty, false⟩⟩
  else if limit < 0 then .panic
  else
    let items := values.take limit.toNat
    .ok ⟨items, ⟨(items.getLast?.map fun v => encodeCursor (key v)).getD .empty, true⟩⟩

/-- A listing of the values that match, newest first. -/
def listPage {α : Type} (ctx : Context) (page : PageRequest) (values : List α)
    (key : α → Time × UUID) (p : α → Prop) [DecidablePred p] : Outcome (Page α) :=
  match decodeCursor page.cursor with
  | .error e => .err e
  | .ok cursor =>
    match ctx.err with
    | some e => .err e
    | none => yieldMemoryPage
      (sortNewest key (values.filter fun v => p v ∧ AfterCursor (key v) cursor)) page.limit key

/-- Change the items of a page. -/
def mapItems {α β : Type} (f : α → β) : Outcome (Page α) → Outcome (Page β)
  | .ok page => .ok ⟨page.items.map f, page.pageEnd⟩
  | .err e => .err e
  | .panic => .panic

/-- `WorkspaceInvitations` reads the last item of a page that has more without asking whether there
is one. -/
def closeUnguarded {α : Type} : Outcome (Page α) → Outcome (Page α)
  | .ok page => if page.pageEnd.hasMore ∧ page.items = [] then .panic else .ok page
  | .err e => .err e
  | .panic => .panic

/-! ## Single records -/

/-- A read that looks at the context first. -/
def guarded {α : Type} (ctx : Context) (x : Outcome α) : Outcome α :=
  match ctx.err with
  | some e => .err e
  | none => x

/-- A record, or `ErrNotFound`. -/
def orNotFound {α : Type} : Option α → Outcome α
  | some v => .ok v
  | none => .err .notFound

/-- A record behind an index: an index entry without its record reads as the zero record. -/
def byIndex {K α : Type} [DecidableEq K] [Inhabited α] (index : FMap K UUID) (m : FMap UUID α)
    (k : K) : Outcome α :=
  orNotFound ((index.get? k).map m.getI)

/-! ## SCIM filters -/

/-- `strings.TrimSpace` and `strings.ToLower` on ASCII text. -/
def normalizeUserName (value : String) : String := value.trimAscii.toString.toLower

/-- `matchSCIMUser`. -/
def matchSCIMUser (link : SCIMUser) (filter : SCIMFilter) : Bool :=
  if filter.attr = "" then true
  else if filter.attr = "id" then link.id.string = filter.value
  else if filter.attr = "externalId" then link.externalID = filter.value
  else if filter.attr = "userName" then link.userName = normalizeUserName filter.value
  else if filter.attr = "active" then
    filter.value.toLower = "true" ∧ link.active ∨ filter.value.toLower = "false" ∧ ¬ link.active
  else if filter.attr = "emails.value" then
    link.emails.any fun email => email.value = normalizeUserName filter.value
  else false

/-- `matchSCIMGroup`. -/
def matchSCIMGroup (group : SCIMGroup) (filter : SCIMFilter) : Bool :=
  if filter.attr = "" then true
  else if filter.attr = "id" then group.id.string = filter.value
  else if filter.attr = "externalId" then group.externalID = filter.value
  else if filter.attr = "displayName" then group.displayName = filter.value
  else false

/-! ## The reading methods -/

/-- The reading methods of the store with their arguments, indexed by what they return. -/
inductive Read : Type → Type 1
  | userByEmail (email : String) : Read User
  | userByID (id : UUID) : Read User
  | users (page : PageRequest) : Read (Page User)
  | passwordByUserID (userID : UUID) : Read PasswordCredential
  | loginThrottleByUserID (userID : UUID) : Read LoginThrottle
  | passwordResetByID (resetID : UUID) : Read PasswordResetCredential
  | emailAuthenticationByID (tokenID : UUID) : Read EmailAuthenticationCredential
  | emailVerificationByID (emailID : UUID) : Read (EmailAddress × EmailVerificationCredential)
  | emailByAddress (address : String) : Read EmailAddress
  | emails (userID : UUID) (page : PageRequest) : Read (Page EmailAddress)
  | totpByUserID (userID : UUID) : Read TOTPFactor
  | countUnusedRecoveryCodes (userID : UUID) : Read Nat
  | passkeys (userID : UUID) : Read (List Passkey)
  | passkeyByCredentialID (credentialID : Bytes) : Read Passkey
  | patByPrefix (pfx : String) : Read PAT
  | patByID (id : UUID) : Read PAT
  | workspacePATs (workspaceID : UUID) (page : PageRequest) : Read (Page PAT)
  | pats (userID : UUID) (page : PageRequest) : Read (Page PAT)
  | sessionByID (id : UUID) : Read Session
  | sessions (userID : UUID) (page : PageRequest) : Read (Page Session)
  | workspaceDomainByID (id : UUID) : Read WorkspaceDomain
  | confirmedWorkspaceDomainByName (name : String) : Read WorkspaceDomain
  | workspaceDomains (workspaceID : UUID) (page : PageRequest) : Read (Page WorkspaceDomain)
  | workspaceByID (workspaceID : UUID) : Read Workspace
  | workspaces (page : PageRequest) : Read (Page Workspace)
  | userWorkspaces (userID : UUID) (page : PageRequest) : Read (Page Workspace)
  | membership (workspaceID userID : UUID) : Read Membership
  | memberships (workspaceID : UUID) (page : PageRequest) : Read (Page Membership)
  | workspaceInvitationByID (invitationID : UUID) : Read WorkspaceInvitation
  | pendingWorkspaceInvitation (workspaceID : UUID) (email : String) : Read WorkspaceInvitation
  | workspaceInvitations (workspaceID : UUID) (page : PageRequest) : Read (Page WorkspaceInvitation)
  | acceptedWorkspaceInvitations (userID : UUID) : Read (List WorkspaceInvitation)
  | instanceAdministrator (userID : UUID) : Read InstanceAdministrator
  | instanceAdministrators : Read (List InstanceAdministrator)
  | ssoIdentity (providerConfigurationID : UUID) (issuer subject : String) : Read SSOIdentity
  | ssoIdentities (userID : UUID) (page : PageRequest) : Read (Page SSOIdentity)
  | auditEvents (workspaceID : UUID) (page : PageRequest) : Read (Page AuditEvent)
  | instanceAuditEvents (page : PageRequest) : Read (Page AuditEvent)
  | auditChainHead : Read (Int × Bytes)
  | chainedAuditEvents (afterSequence : Int) : Read (List AuditEvent)
  | scimConfiguration (id : UUID) : Read SCIMConfiguration
  | scimConfigurations (workspaceID : UUID) : Read (List SCIMConfiguration)
  | scimCredentials (configurationID : UUID) : Read (List SCIMCredential)
  | scimConfigurationByCredentialPrefix (pfx : String) : Read (SCIMConfiguration × SCIMCredential)
  | scimUser (configurationID id : UUID) : Read SCIMUser
  | scimUserByExternalID (configurationID : UUID) (externalID : String) : Read SCIMUser
  | scimUserByUserName (configurationID : UUID) (userName : String) : Read SCIMUser
  | scimUsers (configurationID : UUID) (filter : SCIMFilter) (page : PageRequest) :
      Read (Page SCIMUser)
  | scimUsersByUser (userID : UUID) : Read (List SCIMUser)
  | scimGroup (configurationID id : UUID) : Read SCIMGroup
  | scimGroupByExternalID (configurationID : UUID) (externalID : String) : Read SCIMGroup
  | scimGroups (configurationID : UUID) (filter : SCIMFilter) (page : PageRequest) :
      Read (Page SCIMGroup)
  | oauthIssuerByID (id : UUID) : Read OAuthIssuer
  | oauthIssuerByURL (raw : String) : Read OAuthIssuer
  | oauthIssuers (page : PageRequest) : Read (Page OAuthIssuer)
  | oauthProtectedResourceByID (id : UUID) : Read OAuthProtectedResource
  | oauthProtectedResourceByURI (uri : String) : Read OAuthProtectedResource
  | oauthProtectedResources (workspaceID : UUID) (page : PageRequest) :
      Read (Page OAuthProtectedResource)
  | oauthClientByID (id : UUID) : Read OAuthClient
  | oauthClientByClientID (issuerID : UUID) (clientID : String) : Read OAuthClient
  | oauthClients (issuerID : UUID) (page : PageRequest) : Read (Page OAuthClient)
  | oauthInitialAccessTokenByPrefix (pfx : String) : Read OAuthInitialAccessToken
  | oauthInitialAccessTokens (issuerID : UUID) : Read (List OAuthInitialAccessToken)
  | oauthGrant (id : UUID) : Read OAuthGrant
  | oauthGrants (userID workspaceID : UUID) (page : PageRequest) : Read (Page OAuthGrant)
  | oauthAuthorizationCodeByPrefix (pfx : String) : Read OAuthAuthorizationCode
  | oauthAccessTokenByPrefix (pfx : String) : Read OAuthAccessToken
  | oauthClientAccessTokenByPrefix (pfx : String) : Read OAuthClientAccessToken
  | oauthRefreshTokenByPrefix (pfx : String) : Read OAuthRefreshToken

namespace Store

/-- `PasskeyByCredentialID`: a credential identifier is registered to one user at most. -/
def passkeyByCredentialID (s : Store) (credentialID : Bytes) : Option Passkey :=
  (s.passkeys.values.flatMap FMap.values).find? fun v => v.credentialID = credentialID

/-- `SCIMConfigurationByCredentialPrefix`. -/
def scimConfigurationByCredentialPrefix (s : Store) (pfx : String) :
    Option (SCIMConfiguration × SCIMCredential) := do
  let credentialID ← s.scimCredentialKeys.get? pfx
  let credential := s.scimCredentials.getI credentialID
  let configuration ← s.scimConfigurations.get? credential.configurationID
  return (configuration, credential)

/-- `OAuthGrants`: the zero UUID is no filter. -/
def oauthGrantsPage (s : Store) (ctx : Context) (userID workspaceID : UUID) (page : PageRequest) :
    Outcome (Page OAuthGrant) :=
  listPage ctx page s.oauthGrants.values (fun v => (v.createdAt, v.id)) fun v =>
    (userID = 0 ∨ v.userID = userID) ∧ (workspaceID = 0 ∨ v.workspaceID = workspaceID)

/-- `workspacesPage`: the zero user is no filter. -/
def workspacesPage (s : Store) (ctx : Context) (userID : UUID) (page : PageRequest) :
    Outcome (Page Workspace) :=
  listPage ctx page
    (s.workspaces.filter fun id _ => userID = 0 ∨ userID ∈ s.memberships.getI id).values
    (fun v => (v.createdAt, v.id)) fun _ => True

/-- What a read returns. -/
def answer (s : Store) (ctx : Context) : {α : Type} → Read α → Outcome α
  | _, .userByEmail email => guarded ctx (byIndex s.emails s.users email)
  | _, .userByID id => guarded ctx (orNotFound (s.users.get? id))
  | _, .users page => listPage ctx page s.users.values (fun v => (v.createdAt, v.id)) fun _ => True
  | _, .passwordByUserID userID => guarded ctx (orNotFound (s.passwords.get? userID))
  | _, .loginThrottleByUserID userID => guarded ctx (orNotFound (s.throttles.get? userID))
  | _, .passwordResetByID resetID => guarded ctx (orNotFound (s.passwordResets.get? resetID))
  | _, .emailAuthenticationByID tokenID => guarded ctx (orNotFound (s.emailAuths.get? tokenID))
  | _, .emailVerificationByID emailID => guarded ctx (orNotFound
      ((s.emailAddresses.get? emailID).map fun email => (email, s.emailVerifications.getI emailID)))
  | _, .emailByAddress address => guarded ctx (orNotFound
      ((s.emailIDs.get? address).bind s.emailAddresses.get?))
  | _, .emails userID page => listPage ctx page s.emailAddresses.values
      (fun v => (v.createdAt, v.id)) fun v => v.userID = userID
  | _, .totpByUserID userID => guarded ctx (orNotFound (s.totp.get? userID))
  | _, .countUnusedRecoveryCodes userID => guarded ctx
      (.ok ((s.recovery.getI userID).countP fun code => code.usedAt = none))
  | _, .passkeys userID => guarded ctx (.ok (sortOldest (fun v => (v.createdAt, v.id))
      (s.passkeys.getI userID).values))
  | _, .passkeyByCredentialID credentialID => guarded ctx
      (orNotFound (s.passkeyByCredentialID credentialID))
  | _, .patByPrefix pfx => guarded ctx (byIndex s.patPrefixes s.pats pfx)
  | _, .patByID id => guarded ctx (orNotFound (s.pats.get? id))
  | _, .workspacePATs workspaceID page => mapItems (fun v => { v with digest := [] })
      (listPage ctx page s.pats.values (fun v => (v.createdAt, v.id)) fun v =>
        workspaceID ≠ 0 ∧ v.workspaceID = workspaceID)
  | _, .pats userID page => mapItems (fun v => { v with digest := [] })
      (listPage ctx page s.pats.values (fun v => (v.createdAt, v.id)) fun v => v.userID = userID)
  | _, .sessionByID id => guarded ctx (orNotFound (s.sessions.get? id))
  | _, .sessions userID page => mapItems (fun v => { v with digest := [] })
      (listPage ctx page s.sessions.values (fun v => (v.createdAt, v.id)) fun v =>
        v.userID = userID)
  | _, .workspaceDomainByID id => guarded ctx (orNotFound (s.domains.get? id))
  | _, .confirmedWorkspaceDomainByName name => guarded ctx (orNotFound
      (((s.domainNames.get? name).map s.domains.getI).filter fun v => v.confirmedAt ≠ none))
  | _, .workspaceDomains workspaceID page => listPage ctx page s.domains.values
      (fun v => (v.createdAt, v.id)) fun v => v.workspaceID = workspaceID
  | _, .workspaceByID workspaceID => guarded ctx (orNotFound (s.workspaces.get? workspaceID))
  | _, .workspaces page => s.workspacesPage ctx 0 page
  | _, .userWorkspaces userID page => s.workspacesPage ctx userID page
  | _, .membership workspaceID userID => guarded ctx (orNotFound
      ((s.membership? workspaceID userID).map normalizeMembership))
  | _, .memberships workspaceID page => listPage ctx page
      ((s.memberships.getI workspaceID).values.map normalizeMembership)
      (fun v => (v.createdAt, v.userID)) fun _ => True
  | _, .workspaceInvitationByID invitationID => guarded ctx
      (orNotFound (s.invitations.get? invitationID))
  | _, .pendingWorkspaceInvitation workspaceID email => guarded ctx (orNotFound
      (s.invitations.values.find? fun v =>
        v.workspaceID = workspaceID ∧ v.email = email ∧ v.acceptedAt = none ∧ v.revokedAt = none))
  | _, .workspaceInvitations workspaceID page => closeUnguarded (listPage ctx page
      s.invitations.values (fun v => (v.createdAt, v.id)) fun v => v.workspaceID = workspaceID)
  | _, .acceptedWorkspaceInvitations userID => guarded ctx (.ok
      (sortOldest (fun v => (v.createdAt, v.id))
        (s.invitations.values.filter fun v => v.acceptedUserID = userID)))
  | _, .instanceAdministrator userID => guarded ctx (orNotFound (s.admins.get? userID))
  | _, .instanceAdministrators => guarded ctx
      (.ok (sortOldest (fun v => (v.createdAt, v.userID)) s.admins.values))
  | _, .ssoIdentity providerConfigurationID issuer subject => guarded ctx
      (byIndex s.ssoKeys s.ssoIdentities (providerConfigurationID, ssoKey issuer subject))
  | _, .ssoIdentities userID page => listPage ctx page s.ssoIdentities.values
      (fun v => (v.createdAt, v.id)) fun v => v.userID = userID
  | _, .auditEvents workspaceID page => listPage ctx page s.audits
      (fun v => (v.occurredAt, v.id)) fun v => v.workspaceID = workspaceID
  | _, .instanceAuditEvents page => listPage ctx page s.audits
      (fun v => (v.occurredAt, v.id)) fun _ => True
  | _, .auditChainHead => guarded ctx (.ok (s.auditSequence, s.auditHead))
  | _, .chainedAuditEvents afterSequence => guarded ctx (.ok
      ((s.audits.filter fun v => afterSequence < v.sequence).insertionSort fun a b =>
        a.sequence ≤ b.sequence))
  | _, .scimConfiguration id => guarded ctx (orNotFound (s.scimConfigurations.get? id))
  | _, .scimConfigurations workspaceID => guarded ctx (.ok
      (sortOldest (fun v => (v.createdAt, v.id))
        (s.scimConfigurations.values.filter fun v => v.workspaceID = workspaceID)))
  | _, .scimCredentials configurationID => guarded ctx (.ok
      ((sortOldest (fun v => (v.createdAt, v.id))
        (s.scimCredentials.values.filter fun v => v.configurationID = configurationID)).map
          fun v => { v with digest := [] }))
  | _, .scimConfigurationByCredentialPrefix pfx => guarded ctx
      (orNotFound (s.scimConfigurationByCredentialPrefix pfx))
  | _, .scimUser configurationID id => guarded ctx (orNotFound
      ((s.scimUsers.get? id).filter fun v => v.configurationID = configurationID))
  | _, .scimUserByExternalID configurationID externalID => guarded ctx
      (byIndex s.scimExternalIDs s.scimUsers (configurationID, externalID.trimAscii.toString))
  | _, .scimUserByUserName configurationID userName => guarded ctx
      (byIndex s.scimUserNames s.scimUsers (configurationID, normalizeUserName userName))
  | _, .scimUsers configurationID filter page => listPage ctx page s.scimUsers.values
      (fun v => (v.createdAt, v.id)) fun v => v.configurationID = configurationID
        ∧ v.deprovisionedAt = none ∧ matchSCIMUser v filter = true
  | _, .scimUsersByUser userID => guarded ctx (.ok (sortOldest (fun v => (v.createdAt, v.id))
      (s.scimUsers.values.filter fun v => v.userID = userID)))
  | _, .scimGroup configurationID id => guarded ctx (orNotFound
      ((s.scimGroups.get? id).filter fun v =>
        v.configurationID = configurationID ∧ v.deletedAt = none))
  | _, .scimGroupByExternalID configurationID externalID => guarded ctx (orNotFound
      (((s.scimGroupExternal.get? (configurationID, externalID.trimAscii.toString)).map
        s.scimGroups.getI).filter fun v => v.deletedAt = none))
  | _, .scimGroups configurationID filter page => listPage ctx page s.scimGroups.values
      (fun v => (v.createdAt, v.id)) fun v => v.configurationID = configurationID
        ∧ v.deletedAt = none ∧ matchSCIMGroup v filter = true
  | _, .oauthIssuerByID id => guarded ctx (orNotFound (s.oauthIssuers.get? id))
  | _, .oauthIssuerByURL raw => guarded ctx (byIndex s.oauthIssuerURLs s.oauthIssuers raw)
  | _, .oauthIssuers page => listPage ctx page s.oauthIssuers.values
      (fun v => (v.createdAt, v.id)) fun _ => True
  | _, .oauthProtectedResourceByID id => guarded ctx (orNotFound (s.oauthResources.get? id))
  | _, .oauthProtectedResourceByURI uri => guarded ctx
      (byIndex s.oauthResourceURIs s.oauthResources uri)
  | _, .oauthProtectedResources workspaceID page => listPage ctx page s.oauthResources.values
      (fun v => (v.createdAt, v.id)) fun v => v.workspaceID = workspaceID
  | _, .oauthClientByID id => guarded ctx (orNotFound (s.oauthClients.get? id))
  | _, .oauthClientByClientID issuerID clientID => guarded ctx
      (byIndex s.oauthClientKeys s.oauthClients (issuerID, clientID))
  | _, .oauthClients issuerID page => mapItems (fun v => { v with secretDigest := [] })
      (listPage ctx page s.oauthClients.values (fun v => (v.createdAt, v.id)) fun v =>
        v.issuerID = issuerID)
  | _, .oauthInitialAccessTokenByPrefix pfx => guarded ctx
      (byIndex s.oauthInitialKeys s.oauthInitialTokens pfx)
  | _, .oauthInitialAccessTokens issuerID => guarded ctx (.ok
      ((sortOldest (fun v => (v.createdAt, v.id))
        (s.oauthInitialTokens.values.filter fun v => v.issuerID = issuerID)).map
          fun v => { v with digest := [] }))
  | _, .oauthGrant id => guarded ctx (orNotFound (s.oauthGrants.get? id))
  | _, .oauthGrants userID workspaceID page => s.oauthGrantsPage ctx userID workspaceID page
  | _, .oauthAuthorizationCodeByPrefix pfx => guarded ctx (byIndex s.oauthCodeKeys s.oauthCodes pfx)
  | _, .oauthAccessTokenByPrefix pfx => guarded ctx
      (byIndex s.oauthAccessKeys s.oauthAccessTokens pfx)
  | _, .oauthClientAccessTokenByPrefix pfx => guarded ctx
      (byIndex s.oauthClientTokenKeys s.oauthClientTokens pfx)
  | _, .oauthRefreshTokenByPrefix pfx => guarded ctx
      (byIndex s.oauthRefreshKeys s.oauthRefreshTokens pfx)

/-- Two states no read tells apart. -/
def SameReads (s t : Store) : Prop :=
  ∀ (ctx : Context) {α : Type} (q : Read α), s.answer ctx q = t.answer ctx q

/-- **No read looks outside the restorable state.** -/
theorem answer_congr {s t : Store} (h : s.toStoreState = t.toStoreState) (ctx : Context) {α : Type}
    (q : Read α) : s.answer ctx q = t.answer ctx q := by
  obtain ⟨state, ceremonies, issuance, failure⟩ := s
  obtain rfl : state = t.toStoreState := h
  cases q <;> rfl

theorem sameReads_of_toStoreState_eq {s t : Store} (h : s.toStoreState = t.toStoreState) :
    SameReads s t := fun ctx _ q => answer_congr h ctx q

end Store

end Credbound.Memory
