import Credbound.Memory.Store

/-!
# Memory/Helpers — the writes the methods share

The unexported `…Locked` helpers of the store, and the small reads several preconditions make.
A loop that stamps the matching entries of a map is a `mapVal`; a loop whose body writes several
maps is a fold over the keys in order.
-/

namespace Credbound.Memory

/-- `normalizeMembership`: an empty status is active, an empty provisioning source is local. -/
def normalizeMembership (value : Membership) : Membership :=
  let value := if value.status = .other "" then { value with status := .active } else value
  if value.provisioningSource = "" then { value with provisioningSource := "local" } else value

/-- `ssoKey`, after the provider configuration. -/
def ssoKey (issuer subject : String) : String := issuer ++ "\x00" ++ subject

/-- The key of an identity in `ssoKeys`. -/
def ssoKeyOf (identity : SSOIdentity) : UUID × String :=
  (identity.providerConfigurationID, ssoKey identity.issuer identity.subject)

/-- The address an anonymized e-mail record is given. -/
def tombstone (id : UUID) : String := "anonymized-" ++ id.string ++ "@invalid"

theorem tombstone_injective : Function.Injective tombstone := by
  intro a b h
  have h := congrArg String.toList h
  rw [tombstone, tombstone, String.toList_append, String.toList_append, String.toList_append,
    String.toList_append] at h
  have h := List.append_cancel_left (List.append_cancel_right h)
  exact UUID.string_injective (String.toList_injective h)

/-- An admin membership that is active. -/
def ActiveAdmin (m : Membership) : Prop := m.role = .admin ∧ m.status = .active

instance (m : Membership) : Decidable (ActiveAdmin m) := inferInstanceAs (Decidable (_ ∧ _))

namespace Store

/-! ## Reads -/

/-- `s.memberships[workspaceID][userID]`. -/
def membership? (s : Store) (workspaceID userID : UUID) : Option Membership :=
  (s.memberships.getI workspaceID).get? userID

/-- `s.users[userID].Disabled`, false for an absent user. -/
def isDisabled (s : Store) (userID : UUID) : Bool := (s.users.getI userID).disabled

/-- `activeWorkspaceAdminsLocked`: it counts memberships and does not look at the users. -/
def activeWorkspaceAdminsLocked (s : Store) (workspaceID : UUID) : Nat :=
  (s.memberships.getI workspaceID).count fun _ m => ActiveAdmin m

/-- The root administrators whose user is not disabled, as `SetUserDisabled` and `AnonymizeUser`
count them. -/
def enabledRoots (s : Store) : Nat :=
  s.admins.count fun id candidate => candidate.role = .root ∧ s.isDisabled id = false

/-- The root administrators, as `SetInstanceRole` and `RemoveInstanceRole` count them. -/
def roots (s : Store) : Nat := s.admins.count fun _ candidate => candidate.role = .root

/-- Another user of the workspace is an active admin and not disabled. -/
def HasOtherAdmin (members : FMap UUID Membership) (s : Store) (userID : UUID) : Prop :=
  members.Any fun other m => other ≠ userID ∧ ActiveAdmin m ∧ s.isDisabled other = false

instance (members : FMap UUID Membership) (s : Store) (userID : UUID) :
    Decidable (HasOtherAdmin members s userID) := inferInstanceAs (Decidable (FMap.Any _ _))

/-- The two guards `SetUserDisabled` and `AnonymizeUser` share: the user is not the last enabled
root, nor the last enabled admin of a workspace. -/
def checkNotLast (s : Store) (userID : UUID) : Except Err Unit := do
  require (¬ ((s.admins.get? userID).any (fun admin => admin.role = .root) ∧ s.enabledRoots ≤ 1))
    .conflict
  require (s.memberships.All fun _ members =>
      (members.get? userID).any (fun m => ActiveAdmin m) → HasOtherAdmin members s userID)
    .conflict

/-! ## Writes -/

/-- `s.memberships[workspaceID][userID] = …` after the inner map was made where it was nil. -/
def putMembership (s : Store) (workspaceID userID : UUID) (m : Membership) : Store :=
  { s with memberships :=
      s.memberships.set workspaceID ((s.memberships.getI workspaceID).set userID m) }

/-- `s.memberships[workspaceID][userID] = …` with no such check: a nil inner map panics. -/
def assignMembership (s : Store) (workspaceID userID : UUID) (m : Membership) :
    Except Store Store :=
  match s.memberships.get? workspaceID with
  | some members => .ok { s with memberships := s.memberships.set workspaceID (members.set userID m) }
  | none => .error s

/-- The loop over recomputed memberships in the SCIM group writes. -/
def assignMemberships : List Membership → Store → Except Store Store
  | [], s => .ok s
  | m :: rest, s => do
    let s ← s.assignMembership m.workspaceID m.userID (normalizeMembership m)
    assignMemberships rest s

/-- `touchLastSeenLocked`: an absent user is created with only its last-seen time set. -/
def touchLastSeenLocked (s : Store) (userID : UUID) (seenAt : Time) : Store :=
  { s with users := s.users.set userID { s.users.getI userID with lastSeenAt := some seenAt } }

/-- `delete(s.throttles, userID)`. -/
def clearThrottle (s : Store) (userID : UUID) : Store :=
  { s with throttles := s.throttles.del userID }

/-- Does a credential of `owner` in `ws` fall under a revocation for `userID` in `workspaceID`?
The zero workspace stands for every workspace. -/
def InScope (userID workspaceID owner ws : UUID) : Prop :=
  owner = userID ∧ (workspaceID = 0 ∨ ws = workspaceID)

instance (userID workspaceID owner ws : UUID) : Decidable (InScope userID workspaceID owner ws) :=
  inferInstanceAs (Decidable (_ ∧ _))

/-- `revokeUserCredentialsLocked`: stamp the unrevoked PATs, grants, access and refresh tokens of
the user, in one workspace or in all. -/
def revokeUserCredentialsLocked (s : Store) (userID workspaceID : UUID) (at' : Time) : Store :=
  { s with
    pats := s.pats.mapVal fun _ v =>
      if InScope userID workspaceID v.userID v.workspaceID ∧ v.revokedAt = none then
        { v with revokedAt := some at' } else v
    oauthGrants := s.oauthGrants.mapVal fun _ v =>
      if InScope userID workspaceID v.userID v.workspaceID ∧ v.revokedAt = none then
        { v with revokedAt := some at' } else v
    oauthAccessTokens := s.oauthAccessTokens.mapVal fun _ v =>
      if InScope userID workspaceID v.userID v.workspaceID ∧ v.revokedAt = none then
        { v with revokedAt := some at' } else v
    oauthRefreshTokens := s.oauthRefreshTokens.mapVal fun _ v =>
      if InScope userID workspaceID v.userID v.workspaceID ∧ v.revokedAt = none then
        { v with revokedAt := some at' } else v }

/-- `revokeUserSessionsLocked`. -/
def revokeUserSessionsLocked (s : Store) (userID : UUID) (at' : Time) : Store :=
  { s with sessions := s.sessions.mapVal fun _ v =>
      if v.userID = userID ∧ v.revokedAt = none then { v with revokedAt := some at' } else v }

/-- `revokeOAuthGrantLocked`: the grant is stamped (again, if it was), its unrevoked access and
refresh tokens with it. -/
def revokeOAuthGrantLocked (s : Store) (grantID : UUID) (at' : Time) : Store :=
  if grantID ∈ s.oauthGrants then
    { s with
      oauthGrants := s.oauthGrants.modify grantID fun v =>
        { v with revokedAt := some at', updatedAt := at' }
      oauthAccessTokens := s.oauthAccessTokens.mapVal fun _ v =>
        if v.grantID = grantID ∧ v.revokedAt = none then { v with revokedAt := some at' } else v
      oauthRefreshTokens := s.oauthRefreshTokens.mapVal fun _ v =>
        if v.grantID = grantID ∧ v.revokedAt = none then { v with revokedAt := some at' } else v }
  else s

/-- The loop `for id, grant := range s.oauthGrants` that revokes the matching grants. -/
def revokeOAuthGrantsWhere (s : Store) (p : OAuthGrant → Prop) [DecidablePred p] (at' : Time) :
    Store :=
  (FMap.sorted (s.oauthGrants.keysWhere fun _ v => p v)).foldl
    (fun s id => s.revokeOAuthGrantLocked id at') s

/-- `scimUserConflictLocked`. -/
def SCIMUserConflictLocked (s : Store) (link : SCIMUser) (exceptID : UUID) : Prop :=
  (∃ id ∈ s.scimUserNames.get? (link.configurationID, link.userName), id ≠ exceptID)
    ∨ link.externalID ≠ ""
      ∧ ∃ id ∈ s.scimExternalIDs.get? (link.configurationID, link.externalID), id ≠ exceptID

instance (s : Store) (link : SCIMUser) (exceptID : UUID) :
    Decidable (s.SCIMUserConflictLocked link exceptID) := inferInstanceAs (Decidable (_ ∨ _))

/-- `putSCIMUserLocked`. -/
def putSCIMUserLocked (s : Store) (link : SCIMUser) : Store :=
  { s with
    scimUsers := s.scimUsers.set link.id link
    scimUserNames := s.scimUserNames.set (link.configurationID, link.userName) link.id
    scimExternalIDs := if link.externalID = "" then s.scimExternalIDs
      else s.scimExternalIDs.set (link.configurationID, link.externalID) link.id }

/-- `deleteSCIMUserIndexesLocked`. -/
def deleteSCIMUserIndexesLocked (s : Store) (link : SCIMUser) : Store :=
  { s with
    scimUserNames := s.scimUserNames.del (link.configurationID, link.userName)
    scimExternalIDs := if link.externalID = "" then s.scimExternalIDs
      else s.scimExternalIDs.del (link.configurationID, link.externalID) }

end Store

end Credbound.Memory
