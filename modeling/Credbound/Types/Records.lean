import Credbound.Types.Basic

/-!
# Types/Records — the records a store keeps

The record types of `types.go`, field by field.  A Go pointer to a time is an `Option Time`, and the
default value of each type is its Go zero value: an absent map entry reads as `default`.  A named
string type lists its constants and one constructor `other` for every further string; the empty
string, its zero value, is `other ""`.
-/

namespace Credbound

/-! ## Enumerations -/

/-- A workspace role; hosts define roles of their own. -/
inductive Role
  | member
  | admin
  | other (name : String)
deriving DecidableEq

instance : Inhabited Role := ⟨.other ""⟩

inductive MembershipStatus
  | active
  | suspended
  | other (value : String)
deriving DecidableEq

instance : Inhabited MembershipStatus := ⟨.other ""⟩

inductive InstanceRole
  | root
  | developer
  | support
  | marketing
  | sales
  | other (value : String)
deriving DecidableEq

instance : Inhabited InstanceRole := ⟨.other ""⟩

inductive AuthMethod
  | password
  | totp
  | passkey
  | pat
  | sso
  | email
  | other (value : String)
deriving DecidableEq

instance : Inhabited AuthMethod := ⟨.other ""⟩

inductive ActorKind
  | user
  | service
  | system
  | other (value : String)
deriving DecidableEq

instance : Inhabited ActorKind := ⟨.other ""⟩

inductive AuditOutcome
  | succeeded
  | failed
  | other (value : String)
deriving DecidableEq

instance : Inhabited AuditOutcome := ⟨.other ""⟩

inductive SSOProviderKind
  | google
  | github
  | microsoft
  | oidc
  | saml
  | other (value : String)
deriving DecidableEq

instance : Inhabited SSOProviderKind := ⟨.other ""⟩

/-- `AAL1` is `1`, `AAL2` is `2`. -/
abbrev AssuranceLevel := UInt8

/-! ## Accounts -/

structure InstanceAdministrator where
  userID : UUID
  role : InstanceRole
  createdAt : Time
  updatedAt : Time
deriving DecidableEq, Inhabited

structure User where
  id : UUID
  email : String
  displayName : String
  disabled : Bool
  lastSeenAt : Option Time
  createdAt : Time
  updatedAt : Time
deriving DecidableEq, Inhabited

structure EmailAddress where
  id : UUID
  userID : UUID
  address : String
  primary : Bool
  verifiedAt : Option Time
  createdAt : Time
  updatedAt : Time
deriving DecidableEq, Inhabited

structure EmailVerificationCredential where
  emailID : UUID
  digest : Bytes
  expiresAt : Time
deriving DecidableEq, Inhabited

structure PasswordCredential where
  userID : UUID
  hash : String
  updatedAt : Time
deriving DecidableEq, Inhabited

structure PasswordResetCredential where
  id : UUID
  userID : UUID
  digest : Bytes
  createdAt : Time
  expiresAt : Time
  usedAt : Option Time
deriving DecidableEq, Inhabited

structure EmailAuthenticationCredential where
  id : UUID
  userID : UUID
  emailID : UUID
  digest : Bytes
  createdAt : Time
  expiresAt : Time
  usedAt : Option Time
deriving DecidableEq, Inhabited

structure LoginThrottle where
  userID : UUID
  failedAttempts : Int
  lockedUntil : Option Time
  updatedAt : Time
deriving DecidableEq, Inhabited

/-! ## Factors, tokens and sessions -/

structure TOTPFactor where
  userID : UUID
  encryptedSecret : Bytes
  active : Bool
  lastUsedStep : Int
  createdAt : Time
  updatedAt : Time
deriving DecidableEq, Inhabited

structure RecoveryCode where
  userID : UUID
  digest : Bytes
  usedAt : Option Time
deriving DecidableEq, Inhabited

structure Passkey where
  id : UUID
  userID : UUID
  name : String
  credentialID : Bytes
  credentialJSON : Bytes
  createdAt : Time
  lastUsedAt : Option Time
deriving DecidableEq, Inhabited

structure PAT where
  id : UUID
  userID : UUID
  name : String
  pfx : String
  digest : Bytes
  workspaceID : UUID
  scopes : List String
  createdAt : Time
  expiresAt : Option Time
  lastUsedAt : Option Time
  revokedAt : Option Time
deriving Inhabited

structure Session where
  id : UUID
  userID : UUID
  method : AuthMethod
  level : AssuranceLevel
  authenticatedAt : Time
  secondFactorRequired : Bool
  userAgent : String
  ipAddress : String
  digest : Bytes
  createdAt : Time
  lastSeenAt : Time
  expiresAt : Time
  revokedAt : Option Time
deriving Inhabited

structure SSOIdentity where
  id : UUID
  userID : UUID
  providerConfigurationID : UUID
  providerKind : SSOProviderKind
  issuer : String
  subject : String
  email : String
  createdAt : Time
  lastUsedAt : Option Time
deriving Inhabited

/-! ## Workspaces -/

structure Workspace where
  id : UUID
  name : String
  requireMFA : Bool
  createdAt : Time
  updatedAt : Time
  disabledAt : Option Time
deriving DecidableEq, Inhabited

structure Membership where
  workspaceID : UUID
  userID : UUID
  role : Role
  status : MembershipStatus
  provisioningSource : String
  createdAt : Time
  updatedAt : Time
deriving DecidableEq, Inhabited

structure WorkspaceInvitation where
  id : UUID
  workspaceID : UUID
  email : String
  role : Role
  invitedBy : UUID
  digest : Bytes
  createdAt : Time
  expiresAt : Time
  acceptedAt : Option Time
  acceptedUserID : UUID
  revokedAt : Option Time
deriving Inhabited

structure WorkspaceDomain where
  id : UUID
  workspaceID : UUID
  domain : String
  challenge : String
  confirmedAt : Option Time
  autoJoin : Bool
  autoJoinRole : Role
  ssoProviderConfigurationID : UUID
  enforceSSO : Bool
  createdAt : Time
  updatedAt : Time
deriving Inhabited

structure WorkspaceDomainPolicyInput where
  autoJoin : Bool
  autoJoinRole : Role
  ssoProviderConfigurationID : UUID
  enforceSSO : Bool
deriving Inhabited

/-! ## Directory provisioning -/

structure SCIMGroupRoleMapping where
  externalID : String
  role : Role
  priority : Int
deriving Inhabited

structure SCIMConfiguration where
  id : UUID
  workspaceID : UUID
  enabled : Bool
  defaultRole : Role
  trustDirectoryEmails : Bool
  groupRoleMappings : List SCIMGroupRoleMapping
  createdAt : Time
  updatedAt : Time
deriving Inhabited

structure SCIMCredential where
  id : UUID
  configurationID : UUID
  pfx : String
  digest : Bytes
  createdAt : Time
  expiresAt : Option Time
  lastUsedAt : Option Time
  revokedAt : Option Time
deriving Inhabited

structure SCIMEmail where
  value : String
  type : String
  primary : Bool
deriving Inhabited

structure SCIMUser where
  id : UUID
  configurationID : UUID
  userID : UUID
  schemas : List String
  externalID : String
  userName : String
  displayName : String
  emails : List SCIMEmail
  attributes : FMap String Bytes
  active : Bool
  createdAt : Time
  updatedAt : Time
  deprovisionedAt : Option Time
deriving Inhabited

structure SCIMGroup where
  id : UUID
  configurationID : UUID
  externalID : String
  displayName : String
  memberIDs : List UUID
  createdAt : Time
  updatedAt : Time
  deletedAt : Option Time
deriving Inhabited

structure SCIMFilter where
  attr : String
  value : String
deriving Inhabited

/-! ## Pages -/

/-- A page cursor as the caller holds it.  On the wire it is base64 over JSON; the constructors say
what decoding a string gives: nothing for the empty string, a failure, or a payload. -/
inductive Cursor
  | empty
  | malformed
  | payload (time : Int) (id : UUID)
deriving DecidableEq

instance : Inhabited Cursor := ⟨.empty⟩

structure PageRequest where
  cursor : Cursor
  limit : Int
deriving Inhabited

structure PageEnd where
  nextCursor : Cursor
  hasMore : Bool
deriving DecidableEq, Inhabited

/-- The items of a page, in the order they are yielded, and its closing event. -/
structure Page (α : Type) where
  items : List α
  pageEnd : PageEnd

end Credbound
