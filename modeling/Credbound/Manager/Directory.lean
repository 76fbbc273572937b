import Credbound.Manager.SignIns
import Credbound.Manager.Updates

/-!
# Manager/Directory — provisioning from a directory

The directory of a workspace provisions users and groups under a SCIM configuration.  `ProvisionSCIMUser`,
`ReplaceSCIMUser`, `DeprovisionSCIMUser`, `UpsertSCIMGroup` and `DeleteSCIMGroup` are called by the directory
itself, `AdoptSCIMUser` by an administrator.

The role of a managed membership follows from the configuration and the groups of its user
(`scimRoleForUser`).  It is computed where a group or the configuration changes, and stored; the functions that
change a user copy the stored role.
-/

namespace Credbound

namespace Manager

/-- `SCIMAuthentication`. -/
structure SCIMAuthentication where
  configurationID : UUID
  workspaceID : UUID
  credentialID : UUID
  authenticatedAt : Time := 0

/-- `SCIMUserInput`. -/
structure SCIMUserInput where
  schemas : List String := []
  externalID : String := ""
  userName : String
  displayName : String := ""
  emails : List SCIMEmail := []
  attributes : FMap String Bytes := ∅
  active : Bool := true

/-- `SCIMGroupInput`. -/
structure SCIMGroupInput where
  externalID : String := ""
  displayName : String
  memberIDs : List UUID := []

/-- `newServiceAudit`. -/
def AccountSupply.serviceAudit (io : AccountSupply) (k : Nat) (actor : UUID)
    (action resourceType resourceID : String) (workspaceID : UUID) : Except Err AuditEvent :=
  (io.audit k (io.now k) actor action resourceType resourceID workspaceID .succeeded "").map
    fun event => { event with actorKind := .service }

/-- `slices.SortFunc` by `UUID.Compare`, followed by `slices.Compact`. -/
def compactIDs (ids : List UUID) : List UUID := (ids.insertionSort (· ≤ ·)).destutter (· ≠ ·)

theorem mem_compactIDs {id : UUID} {ids : List UUID} : id ∈ compactIDs ids ↔ id ∈ ids := by
  rw [compactIDs, mem_destutter_ne, List.mem_insertionSort]

end Manager

namespace Accounts

open Manager Memory
open Procedure (demand lift fail)

variable (m : Accounts) (ctx : Context)

/-! ## Inputs -/

/-- The addresses of a directory user, with one of them primary, and the primary one. -/
def choosePrimary (emails : List SCIMEmail) : List SCIMEmail × String :=
  match emails.find? (fun email => email.primary), emails with
  | some email, _ => (emails, email.value)
  | none, [] => ([], "")
  | none, first :: rest => ({ first with primary := true } :: rest, first.value)

/-- `normalizeSCIMUserInput`, with the primary address. -/
def normalizeSCIMUserInput (input : SCIMUserInput) (requireEmail : Bool) :
    Except Err (SCIMUserInput × String) := do
  let externalID := trimSpace input.externalID
  let userName := (trimSpace input.userName).toLower
  let displayName := trimSpace input.displayName
  require (userName ≠ "" ∧ userName.utf8ByteSize ≤ 320 ∧ externalID.utf8ByteSize ≤ 255) .invalidInput
  let displayName := if displayName = "" then userName else displayName
  require (displayName.utf8ByteSize ≤ 255) .invalidInput
  let emails ← input.emails.mapM fun email => do
    let value ← m.validEmail email.value
    return { email with value := value, type := trimSpace email.type }
  require (emails.map SCIMEmail.value).Nodup .invalidInput
  require (emails.countP (fun email => email.primary) ≤ 1) .invalidInput
  let (emails, primary) := choosePrimary emails
  require (requireEmail = false ∨ primary ≠ "") .invalidInput
  return ({ input with
    externalID := externalID, userName := userName, displayName := displayName, emails := emails }, primary)

/-- `normalizeSCIMGroupInput`. -/
def normalizeSCIMGroupInput (input : SCIMGroupInput) : Except Err SCIMGroupInput := do
  let externalID := trimSpace input.externalID
  let displayName := trimSpace input.displayName
  require (displayName ≠ "" ∧ displayName.utf8ByteSize ≤ 255 ∧ externalID.utf8ByteSize ≤ 255) .invalidInput
  require (∀ memberID ∈ input.memberIDs, validUUIDv7 memberID = true) .invalidInput
  return { externalID := externalID, displayName := displayName, memberIDs := compactIDs input.memberIDs }

/-- `scimConfigurationForPrincipal`. -/
def scimConfigurationForPrincipal (principal : SCIMAuthentication) : Routine SCIMConfiguration := do
  demand (m.scimStore = true) .notSupported
  demand (principal.configurationID ≠ 0 ∧ principal.credentialID ≠ 0 ∧ principal.workspaceID ≠ 0) .unauthorized
  let configuration ← Routine.read ctx (.scimConfiguration principal.configurationID)
  demand (configuration.enabled = true ∧ configuration.workspaceID = principal.workspaceID) .unauthorized
  pure configuration

/-- The membership of a directory user, which the configuration has to manage. -/
def managedMembership (configuration : SCIMConfiguration) (userID : UUID) : Routine Membership := do
  let membership ← Routine.read ctx (.membership configuration.workspaceID userID)
  demand (membership.provisioningSource = configuration.id.string) .conflict
  pure membership

/-- The status of a membership that follows the `active` attribute. -/
def statusFor (active : Bool) : MembershipStatus := if active then .active else .suspended

/-! ## Users -/

/-- The link of a directory user to an account. -/
def newLink (id userID : UUID) (configuration : SCIMConfiguration) (input : SCIMUserInput) (now : Time) :
    SCIMUser where
  id := id
  configurationID := configuration.id
  userID := userID
  schemas := input.schemas
  externalID := input.externalID
  userName := input.userName
  displayName := input.displayName
  emails := input.emails
  attributes := input.attributes
  active := input.active
  createdAt := now
  updatedAt := now
  deprovisionedAt := none

/-- The account, its address, its membership and its link, as `ProvisionSCIMUser` creates them. -/
structure ProvisionedUser where
  user : User
  email : EmailAddress
  membership : Membership
  link : SCIMUser

/-- What `ProvisionSCIMUser` creates under the configuration. -/
def newProvisionedUser (io : AccountSupply) (configuration : SCIMConfiguration) (input : SCIMUserInput)
    (primaryEmail : String) : Except Err ProvisionedUser := do
  let userID ← io.newID 0
  let emailID ← io.newID 1
  let linkID ← io.newID 2
  let now := io.now 0
  return {
    user := { (default : User) with
      id := userID, email := primaryEmail, displayName := input.displayName, createdAt := now, updatedAt := now }
    email := { (default : EmailAddress) with
      id := emailID, userID := userID, address := primaryEmail, primary := true
      verifiedAt := if configuration.trustDirectoryEmails then some now else none
      createdAt := now, updatedAt := now }
    membership := {
      workspaceID := configuration.workspaceID, userID := userID, role := configuration.defaultRole
      status := statusFor input.active, provisioningSource := configuration.id.string
      createdAt := now, updatedAt := now }
    link := newLink linkID userID configuration input now }

/-- `ProvisionSCIMUser`. -/
def provisionSCIMUser (io : AccountSupply) (principal : SCIMAuthentication) (input : SCIMUserInput) :
    Routine SCIMUser := do
  let configuration ← m.scimConfigurationForPrincipal ctx principal
  let (input, primaryEmail) ← lift (m.normalizeSCIMUserInput input true)
  let created ← lift (newProvisionedUser io configuration input primaryEmail)
  let event ← lift (io.serviceAudit 3 principal.credentialID "scim.user.provision" "scim_user"
    created.link.id.string configuration.workspaceID)
  let change ← lift (newChange io 4 "scim.user.provision" "scim.user.provision" principal.credentialID
    configuration.workspaceID event)
  (Routine.write ctx (.directory (.createSCIMUser created.user created.email created.membership created.link))
    (m.transactionalCommit event [change])).mapError mapStoreError
  pure created.link

/-- `commitSCIMUserUpdate`. -/
def commitSCIMUserUpdate (io : AccountSupply) (principal : SCIMAuthentication)
    (configuration : SCIMConfiguration) (user : SCIMUser) (membership : Membership) (deprovisions : Bool) :
    Routine SCIMUser := do
  let action := if deprovisions then "scim.user.deprovision" else "scim.user.update"
  let event ← lift (io.serviceAudit 1 principal.credentialID action "scim_user" user.id.string
    configuration.workspaceID)
  let change ← lift (newChange io 2 action action principal.credentialID configuration.workspaceID event)
  (Routine.write ctx (.directory (.updateSCIMUser user membership deprovisions))
    (m.transactionalCommit event [change])).mapError mapStoreError
  pure user

/-- `ReplaceSCIMUser`: the membership takes its status from the input and keeps its role. -/
def replaceSCIMUser (io : AccountSupply) (principal : SCIMAuthentication) (id : UUID) (input : SCIMUserInput) :
    Routine SCIMUser := do
  let configuration ← m.scimConfigurationForPrincipal ctx principal
  let (input, _) ← lift (m.normalizeSCIMUserInput input false)
  let current ← Routine.read ctx (.scimUser configuration.id id)
  let membership ← managedMembership ctx configuration current.userID
  let updated := { current with
    externalID := input.externalID, userName := input.userName, displayName := input.displayName
    schemas := input.schemas, emails := input.emails, attributes := input.attributes, active := input.active
    updatedAt := io.now 0, deprovisionedAt := none }
  let membership := { membership with status := statusFor input.active, updatedAt := io.now 0 }
  m.commitSCIMUserUpdate ctx io principal configuration updated membership false

/-- `DeprovisionSCIMUser`, of a user that was found. -/
def deprovision (io : AccountSupply) (principal : SCIMAuthentication) (configuration : SCIMConfiguration)
    (current : SCIMUser) : Routine Unit := do
  let membership ← managedMembership ctx configuration current.userID
  let updated := { current with active := false, updatedAt := io.now 0, deprovisionedAt := some (io.now 0) }
  let membership := { membership with status := .suspended, updatedAt := io.now 0 }
  let _ ← m.commitSCIMUserUpdate ctx io principal configuration updated membership true
  pure ()

/-- `DeprovisionSCIMUser`: a user that is not there, or deprovisioned already, is left. -/
def deprovisionSCIMUser (io : AccountSupply) (principal : SCIMAuthentication) (id : UUID) : Routine Unit := do
  let configuration ← m.scimConfigurationForPrincipal ctx principal
  let current ← Routine.find ctx (.scimUser configuration.id id)
  match current.filter fun current => current.deprovisionedAt = none with
  | none => pure ()
  | some current => m.deprovision ctx io principal configuration current

/-! ## Groups -/

/-- The groups with one of them replaced, or added at the end where it is not among them. -/
def replaceGroup (group : SCIMGroup) : List SCIMGroup → List SCIMGroup
  | [] => [group]
  | other :: rest => if other.id = group.id then group :: rest else other :: replaceGroup group rest

/-- The membership of a member of a changed group, with the role it has by the groups as they will be. -/
def regroupedMembership (configuration : SCIMConfiguration) (groups : List SCIMGroup) (now : Time)
    (linkID : UUID) : Routine Membership := do
  let link ← Routine.read ctx (.scimUser configuration.id linkID)
  let membership ← managedMembership ctx configuration link.userID
  let role ← lift (scimRoleForUser configuration groups linkID)
  pure { membership with role := role, updatedAt := now }

/-- The memberships of the members, one after the other. -/
def regroupedMemberships (io : AccountSupply) (configuration : SCIMConfiguration) (groups : List SCIMGroup) :
    Nat → List UUID → Routine (List Membership)
  | _, [] => pure []
  | k, linkID :: rest => do
    let membership ← regroupedMembership ctx configuration groups (io.now k) linkID
    let memberships ← regroupedMemberships io configuration groups (k + 1) rest
    pure (membership :: memberships)

/-- `scimMembershipsForGroupChange`: the groups with the replacement in, or without it if it is deleted. -/
def scimMembershipsForGroupChange (io : AccountSupply) (configuration : SCIMConfiguration)
    (replacement : SCIMGroup) (deleted : Bool) (priorMembers : List UUID) : Routine (List Membership) := do
  let groups ← Procedure.call (.scimGroups ctx configuration.id)
  let groups := if deleted then groups.eraseP fun group => group.id = replacement.id
    else replaceGroup replacement groups
  regroupedMemberships ctx io configuration groups 4 (compactIDs (priorMembers ++ replacement.memberIDs))

/-- The group that `UpsertSCIMGroup` starts from: a new one for the empty identifier, or the one that was
found. -/
def currentGroup (io : AccountSupply) (configuration : SCIMConfiguration) (id : UUID)
    (found : Except Err SCIMGroup) : Except Err SCIMGroup :=
  if id = 0 then do
    let id ← io.newID 0
    return { (default : SCIMGroup) with id := id, configurationID := configuration.id, createdAt := io.now 0 }
  else found

/-- The members of a group are users of the configuration that are not deprovisioned. -/
def requireMembers (configuration : SCIMConfiguration) : List UUID → Routine Unit :=
  Procedure.each fun memberID => do
    let _ ← Routine.expect ctx (.scimUser configuration.id memberID)
      (fun member => member.deprovisionedAt = none) .invalidInput
    pure ()

/-- `UpsertSCIMGroup`. -/
def upsertSCIMGroup (io : AccountSupply) (principal : SCIMAuthentication) (id : UUID) (input : SCIMGroupInput) :
    Routine SCIMGroup := do
  let configuration ← m.scimConfigurationForPrincipal ctx principal
  let input ← lift (normalizeSCIMGroupInput input)
  let found ← (Routine.read ctx (.scimGroup configuration.id id)).attempt
  let current ← lift (currentGroup io configuration id found)
  requireMembers ctx configuration input.memberIDs
  let group := { current with
    externalID := input.externalID, displayName := input.displayName, memberIDs := input.memberIDs
    updatedAt := io.now 1, deletedAt := none }
  let memberships ← scimMembershipsForGroupChange ctx io configuration group false current.memberIDs
  let event ← lift (io.serviceAudit 2 principal.credentialID "scim.group.upsert" "scim_group" group.id.string
    configuration.workspaceID)
  let change ← lift (newChange io 3 "scim.group.upsert" "scim.group.upsert" principal.credentialID
    configuration.workspaceID event)
  (Routine.write ctx (.directory (.upsertSCIMGroup group memberships))
    (m.transactionalCommit event [change])).mapError mapStoreError
  pure group

/-- `DeleteSCIMGroup`, of a group that was found. -/
def deleteGroup (io : AccountSupply) (principal : SCIMAuthentication) (configuration : SCIMConfiguration)
    (group : SCIMGroup) : Routine Unit := do
  let memberships ← scimMembershipsForGroupChange ctx io configuration group true group.memberIDs
  let deleted := { group with deletedAt := some (io.now 1), updatedAt := io.now 1 }
  let event ← lift (io.serviceAudit 2 principal.credentialID "scim.group.delete" "scim_group" group.id.string
    configuration.workspaceID)
  let change ← lift (newChange io 3 "scim.group.delete" "scim.group.delete" principal.credentialID
    configuration.workspaceID event)
  (Routine.write ctx (.directory (.deleteSCIMGroup deleted memberships))
    (m.transactionalCommit event [change])).mapError mapStoreError

/-- `DeleteSCIMGroup`: a group that is not there is left. -/
def deleteSCIMGroup (io : AccountSupply) (principal : SCIMAuthentication) (id : UUID) : Routine Unit := do
  let configuration ← m.scimConfigurationForPrincipal ctx principal
  match ← Routine.find ctx (.scimGroup configuration.id id) with
  | none => pure ()
  | some group => m.deleteGroup ctx io principal configuration group

end Accounts

end Credbound
