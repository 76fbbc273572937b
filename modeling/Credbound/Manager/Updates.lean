import Credbound.Manager.Accounts
import Credbound.Memory.Switches

/-!
# Manager/Updates — the functions that write a whole record back

`UpdateWorkspace`, `AdminUpdateWorkspace`, `UpdateOAuthIssuer` and `UpdateSCIMConfiguration` check the
actor, **read** the record, change some of its fields and **write** the whole record back.  From the read
on they are `updateWorkspaceFor`, `updateOAuthIssuerFor` and `updateSCIMConfigurationFor`; what comes
before only checks (`Update.before`).

A call that reads a disabled record writes a disabled one (`Update.rewriting_leavesOff`).
-/

namespace Credbound

open Procedure

namespace Manager

/-- `UpdateWorkspaceInput`. -/
structure UpdateWorkspaceInput where
  name : String
  requireMFA : Option Bool := none

/-- `UpdateOAuthIssuerInput`. -/
structure UpdateOAuthIssuerInput where
  oidcEnabled : Bool := false
  cimdMode : OAuthCIMDMode := default
  cimdAllowedOrigins : List String := []
  dcrMode : OAuthDCRMode := default
  dcrAllowClientSecrets : Bool := false
  dcrOpenRegistrationLimit : Int := 0
  codeTTL : Duration := 0
  accessTokenTTL : Duration := 0
  refreshTokenTTL : Duration := 0

/-- `UpdateSCIMConfigurationInput`. -/
structure UpdateSCIMConfigurationInput where
  defaultRole : Role := default
  trustDirectoryEmails : Bool := false
  groupRoleMappings : List SCIMGroupRoleMapping := []

/-- `time.Minute`. -/
def minute : Duration := 60 * 10 ^ 9

/-- The lifetime asked for, or the default where none is. -/
def orDefault (lifetime default : Duration) : Duration := if lifetime = 0 then default else lifetime

/-- The lifetime is positive and within the limit. -/
def Within (limit lifetime : Duration) : Prop := 0 < lifetime ∧ lifetime ≤ limit

instance (limit lifetime : Duration) : Decidable (Within limit lifetime) :=
  inferInstanceAs (Decidable (_ ∧ _))

end Manager

namespace Accounts

open Manager Memory

variable (m : Accounts) (ctx : Context) (io : AccountSupply) (actor : Authentication)

/-! ## Workspaces -/

/-- `updateWorkspace`. -/
def updateWorkspaceFor (workspaceID : UUID) (input : UpdateWorkspaceInput) (operation : String) :
    Routine Unit := do
  demand (validUUIDv7 workspaceID = true) .invalidInput
  let name := trimSpace input.name
  demand (name ≠ "" ∧ name.utf8ByteSize ≤ 200) .invalidInput
  let previous ← Routine.read ctx (.workspaceByID workspaceID)
  let workspace := { previous with
    name := name, requireMFA := input.requireMFA.getD previous.requireMFA, updatedAt := io.now 0 }
  let audit ← lift (io.audit 0 (io.now 1) actor.userID operation "workspace" workspaceID.string
    workspaceID .succeeded "")
  let change ← lift (newChange io 2 "workspace.change" operation actor.userID workspaceID audit)
  (Routine.write ctx (.workspace (.updateWorkspace workspace))
    (m.transactionalCommit audit [change])).mapError mapStoreError

/-- `UpdateWorkspace`. -/
def updateWorkspace (workspaceID : UUID) (input : UpdateWorkspaceInput) : Routine Unit := do
  m.authorizeWorkspaceMutation ctx (io.now 0) actor workspaceID "workspace.settings.write"
    "workspace.update"
  m.updateWorkspaceFor ctx (io.after 1) actor workspaceID input "workspace.update"

/-- `AdminUpdateWorkspace`. -/
def adminUpdateWorkspace (request : TrustedRequest) (workspaceID : UUID) (input : UpdateWorkspaceInput) :
    Routine Unit := do
  m.authorizeAdmin ctx io actor "admin.workspaces.write"
  m.requireAdminMutation ctx (io.now 1) actor request
  m.updateWorkspaceFor ctx (io.after 2) actor workspaceID input "admin.workspace.update"

/-! ## Issuers -/

/-- `normalizeHTTPSOrigin`. -/
def normalizeHTTPSOrigin (m : Manager) (raw : String) : Except Err String := do
  let value ← m.validatePublicHTTPSURL (trimSlash (trimSpace raw)) false
  require (value.escapedPath = "" ∧ value.rawQuery = "") .invalidInput
  return "https://" ++ value.host.toLower

/-- `normalizeOAuthIssuerPolicy`. -/
def normalizeOAuthIssuerPolicy (input : UpdateOAuthIssuerInput) : Except Err UpdateOAuthIssuerInput := do
  let cimdMode := if input.cimdMode = .other "" then .disabled else input.cimdMode
  let dcrMode := if input.dcrMode = .other "" then .dcrDisabled else input.dcrMode
  require (cimdMode = .disabled ∨ cimdMode = .allowlist ∨ cimdMode = .publicWeb) .invalidInput
  require (dcrMode = .dcrDisabled ∨ dcrMode = .dcrProtected ∨ dcrMode = .dcrOpen) .invalidInput
  require (dcrMode = .dcrProtected ∨ input.dcrAllowClientSecrets = false) .invalidInput
  let limit := if dcrMode = .dcrOpen ∧ input.dcrOpenRegistrationLimit = 0 then 1000
    else input.dcrOpenRegistrationLimit
  require (if dcrMode = .dcrOpen then 1 ≤ limit ∧ limit ≤ 100000 else limit = 0) .invalidInput
  require (input.oidcEnabled = false ∨ m.oidcSigner.isSome) .invalidInput
  require (input.oidcEnabled = false ∨ m.oidcAlgorithms ≠ []
    ∧ ∀ algorithm ∈ m.oidcAlgorithms, algorithm ≠ "" ∧ algorithm ≠ "none") .invalidInput
  let origins ← input.cimdAllowedOrigins.mapM (normalizeHTTPSOrigin m.toManager)
  let origins := sortCompact origins
  require (cimdMode ≠ .allowlist ∨ origins ≠ []) .invalidInput
  let codeTTL := orDefault input.codeTTL (5 * minute)
  let accessTokenTTL := orDefault input.accessTokenTTL (15 * minute)
  let refreshTokenTTL := orDefault input.refreshTokenTTL (30 * 24 * 60 * minute)
  require (Within (10 * minute) codeTTL ∧ Within (60 * minute) accessTokenTTL
    ∧ Within (90 * 24 * 60 * minute) refreshTokenTTL) .invalidInput
  return { input with
    cimdMode := cimdMode, cimdAllowedOrigins := origins, dcrMode := dcrMode,
    dcrOpenRegistrationLimit := limit, codeTTL := codeTTL, accessTokenTTL := accessTokenTTL,
    refreshTokenTTL := refreshTokenTTL }

/-- The issuer with another policy. -/
def replacePolicy (issuer : OAuthIssuer) (policy : UpdateOAuthIssuerInput) (updatedAt : Time) :
    OAuthIssuer :=
  { issuer with
    oidcEnabled := policy.oidcEnabled, cimdMode := policy.cimdMode,
    cimdAllowedOrigins := policy.cimdAllowedOrigins, dcrMode := policy.dcrMode,
    dcrAllowClientSecrets := policy.dcrAllowClientSecrets,
    dcrOpenRegistrationLimit := policy.dcrOpenRegistrationLimit, codeTTL := policy.codeTTL,
    accessTokenTTL := policy.accessTokenTTL, refreshTokenTTL := policy.refreshTokenTTL,
    updatedAt := updatedAt }

/-- `UpdateOAuthIssuer`, from the read on. -/
def updateOAuthIssuerFor (issuerID : UUID) (input : UpdateOAuthIssuerInput) : Routine Unit := do
  let issuer ← Routine.read ctx (.oauthIssuerByID issuerID)
  let policy ← lift (m.normalizeOAuthIssuerPolicy input)
  let audit ← lift (io.audit 0 (io.now 1) actor.userID "oauth.issuer.update" "oauth_issuer"
    issuer.id.string 0 .succeeded "")
  (Routine.write ctx (.oauth (.updateOAuthIssuer (replacePolicy issuer policy (io.now 0))))
    { audit := audit }).mapError mapStoreError

/-- `UpdateOAuthIssuer`. -/
def updateOAuthIssuer (request : TrustedRequest) (issuerID : UUID) (input : UpdateOAuthIssuerInput) :
    Routine Unit := do
  demand (m.oauth = true) .notSupported
  m.authorizeAdmin ctx io actor "admin.settings.write"
  m.requireAdminMutation ctx (io.now 1) actor request
  demand (validUUIDv7 issuerID = true) .invalidInput
  m.updateOAuthIssuerFor ctx (io.after 2) actor issuerID input

/-! ## Directory configurations -/

/-- The mappings with their external ids trimmed, each valid, known and the only one of its id. -/
def normalizeMappings (mappings : List SCIMGroupRoleMapping) :
    Except Err (List SCIMGroupRoleMapping) := do
  let mappings := mappings.map fun mapping => { mapping with externalID := trimSpace mapping.externalID }
  require (∀ mapping ∈ mappings, mapping.externalID ≠ "" ∧ mapping.externalID.utf8ByteSize ≤ 255
    ∧ m.knownRole mapping.role = true) .invalidInput
  require (mappings.map SCIMGroupRoleMapping.externalID).Nodup .invalidInput
  return mappings

/-- `validateSCIMRoleConfiguration`. -/
def validateSCIMRoleConfiguration (defaultRole : Role) (mappings : List SCIMGroupRoleMapping) :
    Except Err (Role × List SCIMGroupRoleMapping) := do
  let defaultRole := if defaultRole = .other "" then .member else defaultRole
  require (m.knownRole defaultRole = true) .invalidInput
  let mappings ← m.normalizeMappings mappings
  return (defaultRole, mappings)

/-- One mapping, in the choice of a role: a higher priority wins, and two roles of one priority are
ambiguous. -/
def chooseRole (chosen : Role × Option Int) (mapping : SCIMGroupRoleMapping) :
    Except Err (Role × Option Int) :=
  match chosen.2 with
  | none => .ok (mapping.role, some mapping.priority)
  | some priority =>
    if priority < mapping.priority then .ok (mapping.role, some mapping.priority)
    else if mapping.priority = priority ∧ mapping.role ≠ chosen.1 then .error .conflict
    else .ok chosen

/-- `scimRoleForUser`. -/
def scimRoleForUser (configuration : SCIMConfiguration) (groups : List SCIMGroup) (linkID : UUID) :
    Except Err Role := do
  let memberOf := groups.filter fun group => group.deletedAt = none ∧ linkID ∈ group.memberIDs
  let mappings := memberOf.flatMap fun group =>
    configuration.groupRoleMappings.filter fun mapping => mapping.externalID = group.externalID
  let chosen ← mappings.foldlM chooseRole (configuration.defaultRole, none)
  return chosen.1

/-- The membership of a directory user under the configuration. -/
def scimMembership (configuration : SCIMConfiguration) (groups : List SCIMGroup) (user : SCIMUser) :
    Routine Membership := do
  let membership ← Routine.read ctx (.membership configuration.workspaceID user.userID)
  demand (membership.provisioningSource = configuration.id.string) .conflict
  let role ← lift (scimRoleForUser configuration groups user.id)
  pure { membership with role := role, updatedAt := configuration.updatedAt }

/-- The memberships of the directory users, one after the other. -/
def scimMemberships (configuration : SCIMConfiguration) (groups : List SCIMGroup) :
    List SCIMUser → Routine (List Membership)
  | [] => pure []
  | user :: users => do
    let membership ← scimMembership ctx configuration groups user
    let memberships ← scimMemberships configuration groups users
    pure (membership :: memberships)

/-- `UpdateSCIMConfiguration` with the configuration it has read. -/
def applySCIMConfiguration (configurationID : UUID) (configuration : SCIMConfiguration)
    (input : UpdateSCIMConfigurationInput) : Routine Unit := do
  let (defaultRole, mappings) ←
    lift (m.validateSCIMRoleConfiguration input.defaultRole input.groupRoleMappings)
  let configuration := { configuration with
    defaultRole := defaultRole, trustDirectoryEmails := input.trustDirectoryEmails,
    groupRoleMappings := mappings, updatedAt := io.now 0 }
  let groups ← call (.scimGroups ctx configuration.id)
  let users ← call (.scimUsers ctx configuration.id)
  let memberships ← scimMemberships ctx configuration groups users
  let audit ← lift (io.audit 0 (io.now 1) actor.userID "scim.configuration.update"
    "scim_configuration" configurationID.string configuration.workspaceID .succeeded "")
  (Routine.write ctx (.directory (.updateSCIMConfiguration configuration memberships))
    { audit := audit }).mapError mapStoreError

/-- `UpdateSCIMConfiguration`, from the read on; the rest of `requireSCIMAdmin` follows the read. -/
def updateSCIMConfigurationFor (configurationID : UUID) (input : UpdateSCIMConfigurationInput) :
    Routine Unit := do
  let configuration ← Routine.read ctx (.scimConfiguration configurationID)
  (m.toManager.authorizePermission ctx actor configuration.workspaceID "workspace.rbac.write").routine
  m.applySCIMConfiguration ctx io actor configurationID configuration input

/-- `UpdateSCIMConfiguration`. -/
def updateSCIMConfiguration (configurationID : UUID) (input : UpdateSCIMConfigurationInput) :
    Routine Unit := do
  demand (m.scimStore = true) .notSupported
  m.requireScopedStepUp ctx (io.now 0) actor .workspace
  m.updateSCIMConfigurationFor ctx (io.after 1) actor configurationID input

/-! ## The four functions -/

/-- A call of one of the four functions. -/
inductive Update
  | updateWorkspace (workspaceID : UUID) (input : UpdateWorkspaceInput)
  | adminUpdateWorkspace (request : TrustedRequest) (workspaceID : UUID) (input : UpdateWorkspaceInput)
  | updateOAuthIssuer (request : TrustedRequest) (issuerID : UUID) (input : UpdateOAuthIssuerInput)
  | updateSCIMConfiguration (configurationID : UUID) (input : UpdateSCIMConfigurationInput)

/-- The record the call rewrites. -/
def Update.subject : Update → Switch
  | .updateWorkspace workspaceID _ => .workspace workspaceID
  | .adminUpdateWorkspace _ workspaceID _ => .workspace workspaceID
  | .updateOAuthIssuer _ issuerID _ => .issuer issuerID
  | .updateSCIMConfiguration configurationID _ => .configuration configurationID

/-- The call. -/
def Update.routine : Update → Routine Unit
  | .updateWorkspace workspaceID input => m.updateWorkspace ctx io actor workspaceID input
  | .adminUpdateWorkspace request workspaceID input =>
      m.adminUpdateWorkspace ctx io actor request workspaceID input
  | .updateOAuthIssuer request issuerID input => m.updateOAuthIssuer ctx io actor request issuerID input
  | .updateSCIMConfiguration configurationID input =>
      m.updateSCIMConfiguration ctx io actor configurationID input

/-- The call, from the read of the record on. -/
def Update.rewriting : Update → Routine Unit
  | .updateWorkspace workspaceID input =>
      m.updateWorkspaceFor ctx (io.after 1) actor workspaceID input "workspace.update"
  | .adminUpdateWorkspace _ workspaceID input =>
      m.updateWorkspaceFor ctx (io.after 2) actor workspaceID input "admin.workspace.update"
  | .updateOAuthIssuer _ issuerID input => m.updateOAuthIssuerFor ctx (io.after 2) actor issuerID input
  | .updateSCIMConfiguration configurationID input =>
      m.updateSCIMConfigurationFor ctx (io.after 1) actor configurationID input

/-- **What comes before the read only checks.** -/
theorem Update.before (u : Update) :
    Procedure.Before Checking (fun _ => True) (u.rewriting m ctx io actor) (u.routine m ctx io actor) := by
  have herror : ∀ e : Err, (fun _ : Except Err Unit => True) (.error e) := fun _ => trivial
  cases u with
  | updateWorkspace workspaceID input =>
    exact before_bind herror ((m.authorizeWorkspaceMutation_reading ctx (io.now 0) actor workspaceID
      _ _).mono checking_of_reading) fun _ => .here
  | adminUpdateWorkspace request workspaceID input =>
    refine before_bind herror (m.authorizeAdmin_checking ctx io actor _) fun _ => ?_
    exact before_bind herror (m.requireAdminMutation_checking ctx (io.now 1) actor request) fun _ => .here
  | updateOAuthIssuer request issuerID input =>
    refine before_bind herror emits_demand fun _ => ?_
    refine before_bind herror (m.authorizeAdmin_checking ctx io actor _) fun _ => ?_
    refine before_bind herror (m.requireAdminMutation_checking ctx (io.now 1) actor request) fun _ => ?_
    exact before_bind herror emits_demand fun _ => .here
  | updateSCIMConfiguration configurationID input =>
    refine before_bind herror emits_demand fun _ => ?_
    exact before_bind herror ((m.requireScopedStepUp_reading ctx (io.now 0) actor .workspace).mono
      checking_of_reading) fun _ => .here

/-! ## What a call writes that read a disabled record -/

/-- The answers of a store whose records are filed under their ids, and where the records in `off` are
disabled. -/
def FiledAnswers (off : Switch → Prop) : ⦃β : Type⦄ → Access β → β → Prop
  | _, .read _ (.workspaceByID id), r => ∀ v : Workspace, r = .ok v →
      v.id = id ∧ (off (.workspace id) → v.disabledAt ≠ none)
  | _, .read _ (.oauthIssuerByID id), r => ∀ v : OAuthIssuer, r = .ok v →
      v.id = id ∧ (off (.issuer id) → v.disabledAt ≠ none)
  | _, .read _ (.scimConfiguration id), r => ∀ v : SCIMConfiguration, r = .ok v →
      v.id = id ∧ (off (.configuration id) → v.enabled = false)
  | _, _, _ => True

theorem FiledAnswers.mono {off off' : Switch → Prop} (hoff : ∀ sw, off' sw → off sw) ⦃β : Type⦄
    (e : Access β) (r : β) (h : FiledAnswers off e r) : FiledAnswers off' e r := by
  cases e with
  | read ctx q =>
    cases q with
    | workspaceByID | oauthIssuerByID | scimConfiguration =>
      exact fun v hv => ⟨(h v hv).1, fun hid => (h v hv).2 (hoff _ hid)⟩
    | _ => trivial
  | _ => trivial

/-- The access does not turn `sw` on. -/
def LeavesOff (sw : Switch) : ⦃β : Type⦄ → Access β → Prop
  | _, .write _ op _ => ¬ Method.TurnsOn sw (.op op)
  | _, e => Checking e

theorem leavesOff_of_checking {sw : Switch} ⦃β : Type⦄ (e : Access β) (h : Checking e) : LeavesOff sw e := by
  cases e with
  | write ctx op commit =>
    obtain rfl : op = .workspace .appendAudit := h
    exact fun hon => hon.elim id And.left
  | _ => exact h

variable {m ctx io actor} {sw : Switch} {off : Switch → Prop}

theorem updateWorkspaceFor_leavesOff {workspaceID : UUID} {input : UpdateWorkspaceInput}
    {operation : String} (h : sw = .workspace workspaceID → off sw) :
    (m.updateWorkspaceFor ctx io actor workspaceID input operation).Ensures (FiledAnswers off)
      (LeavesOff sw) fun _ => True := by
  refine ensures_demand_bind trivial fun _ => ?_
  refine ensures_demand_bind trivial fun _ => ?_
  refine ensures_bind (ensures_read trivial) (fun _ _ => trivial) fun previous hprevious => ?_
  obtain ⟨hid, hoff⟩ := hprevious previous rfl
  refine ensures_emits_bind emits_lift (fun _ => trivial) fun audit => ?_
  refine ensures_emits_bind emits_lift (fun _ => trivial) fun change => ?_
  refine ensures_mapError (ensures_call ?_ fun _ _ => trivial)
  rintro (henables | ⟨hsw, hnone⟩)
  · exact henables
  · have hsw := hsw.trans (congrArg Switch.workspace hid)
    exact hoff (hsw ▸ h hsw) hnone

theorem updateOAuthIssuerFor_leavesOff {issuerID : UUID} {input : UpdateOAuthIssuerInput}
    (h : sw = .issuer issuerID → off sw) :
    (m.updateOAuthIssuerFor ctx io actor issuerID input).Ensures (FiledAnswers off) (LeavesOff sw)
      fun _ => True := by
  refine ensures_bind (ensures_read trivial) (fun _ _ => trivial) fun issuer hissuer => ?_
  obtain ⟨hid, hoff⟩ := hissuer issuer rfl
  refine ensures_emits_bind emits_lift (fun _ => trivial) fun policy => ?_
  refine ensures_emits_bind emits_lift (fun _ => trivial) fun audit => ?_
  refine ensures_mapError (ensures_call ?_ fun _ _ => trivial)
  rintro (henables | ⟨hsw, hnone⟩)
  · exact henables
  · have hsw := hsw.trans (congrArg Switch.issuer hid)
    exact hoff (hsw ▸ h hsw) hnone

theorem scimMemberships_reading (configuration : SCIMConfiguration) (groups : List SCIMGroup)
    (users : List SCIMUser) : (scimMemberships ctx configuration groups users).Emits Reading := by
  induction users with
  | nil => exact emits_pure
  | cons user users ih =>
    refine emits_bind ?_ fun membership => emits_bind ih fun _ => emits_pure
    refine emits_bind (emits_read trivial) fun membership => ?_
    refine emits_bind emits_demand fun _ => ?_
    exact emits_bind emits_lift fun role => emits_pure

theorem updateSCIMConfigurationFor_leavesOff {configurationID : UUID}
    {input : UpdateSCIMConfigurationInput} (h : sw = .configuration configurationID → off sw) :
    (m.updateSCIMConfigurationFor ctx io actor configurationID input).Ensures (FiledAnswers off)
      (LeavesOff sw) fun _ => True := by
  refine ensures_bind (ensures_read trivial) (fun _ _ => trivial) fun configuration hread => ?_
  obtain ⟨hid, hoff⟩ := hread configuration rfl
  have hreading : ∀ ⦃β : Type⦄ (e : Access β), Reading e → LeavesOff sw e :=
    fun _ e he => leavesOff_of_checking e (checking_of_reading e he)
  refine ensures_emits_bind ((m.toManager.authorizePermission_reading ctx actor
    configuration.workspaceID "workspace.rbac.write").mono hreading) (fun _ => trivial) fun _ => ?_
  refine ensures_emits_bind emits_lift (fun _ => trivial) fun roles => ?_
  refine ensures_emits_bind (emits_call trivial) (fun _ => trivial) fun groups => ?_
  refine ensures_emits_bind (emits_call trivial) (fun _ => trivial) fun users => ?_
  refine ensures_emits_bind ((scimMemberships_reading _ groups users).mono hreading)
    (fun _ => trivial) fun memberships => ?_
  refine ensures_emits_bind emits_lift (fun _ => trivial) fun audit => ?_
  refine ensures_mapError (ensures_call ?_ fun _ _ => trivial)
  rintro (henables | ⟨hsw, henabled⟩)
  · exact henables
  · have hsw := hsw.trans (congrArg Switch.configuration hid)
    exact Bool.false_ne_true ((hoff (hsw ▸ h hsw)).symm.trans henabled)

/-- **From the read on, a call leaves `sw` as it is**, if that is not the record it rewrites or if it
reads a disabled one. -/
theorem Update.rewriting_leavesOff (u : Update) (h : sw = u.subject → off sw) :
    (u.rewriting m ctx io actor).Ensures (FiledAnswers off) (LeavesOff sw) fun _ => True := by
  cases u with
  | updateWorkspace => exact updateWorkspaceFor_leavesOff h
  | adminUpdateWorkspace => exact updateWorkspaceFor_leavesOff h
  | updateOAuthIssuer => exact updateOAuthIssuerFor_leavesOff h
  | updateSCIMConfiguration => exact updateSCIMConfigurationFor_leavesOff h

end Accounts

end Credbound
