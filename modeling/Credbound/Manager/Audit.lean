import Credbound.Types.OAuth
import Credbound.Types.Commit

/-!
# Manager/Audit — audit events, change events and the commits that carry them

An audit event goes into the log with the change it reports.  A change of the authorization server
is also shown to the transaction hooks, host code that runs inside the commit and can refuse it.
-/

namespace Credbound.Manager

/-! ## Audit events -/

/-- `Time.Truncate(time.Microsecond)`. -/
def truncateMicro (t : Time) : Time := t - t % 1000

/-- The values `newAudit` is given by its caller and by the request. -/
structure AuditInput where
  id : UUID
  actor : UUID
  action : String
  resourceType : String
  resourceID : String
  workspaceID : UUID
  outcome : AuditOutcome
  reason : String
  ipAddress : String
  userAgent : String
deriving Inhabited

/-- `newAudit`: the clock is read here. -/
def newAudit (now : Time) (input : AuditInput) : AuditEvent where
  id := input.id
  occurredAt := truncateMicro now
  actorKind := .user
  actorID := input.actor
  action := input.action
  resourceType := input.resourceType
  resourceID := input.resourceID
  workspaceID := input.workspaceID
  outcome := input.outcome
  reason := input.reason
  ipAddress := input.ipAddress
  userAgent := input.userAgent
  sequence := 0
  previousHash := []
  hash := []

/-! ## Change events -/

/-- The events the authorization server commits with its changes. -/
inductive EventName
  | oauthCIMDResolved
  | oauthCIMDRejected
  | oauthCIMDChanged
  | oauthAuthorizationGranted
  | oauthAuthorizationDenied
  | oauthTokenIssued
  | oauthTokenRefreshed
  | oauthTokenRevoked
  | oauthRefreshReuseDetected
  | oauthCodeReuseDetected
deriving DecidableEq

structure EventMeta where
  id : UUID
  name : EventName
  operation : String
  occurredAt : Time
  actorID : UUID
  workspaceID : UUID
  auditID : UUID

structure OAuthChange where
  eventMeta : EventMeta
  issuerID : UUID
  clientRecordID : UUID
  clientSource : OAuthClientSource
  grantID : UUID
  tokenID : UUID
  resourceID : UUID
  scopes : List String

/-- What a change is about, beside its client and its audit event. -/
structure ChangeSubject where
  grantID : UUID := 0
  tokenID : UUID := 0
  resourceID : UUID := 0
  workspaceID : UUID := 0
  scopes : List String := []

/-- `newOAuthChange`: the commit runs the registered transaction hooks on the change. -/
def newOAuthChange (hooks : OAuthChange → Hook) (id : Except Err UUID) (now : Time)
    (name : EventName) (operation : String) (audit : AuditEvent) (client : OAuthClient)
    (subject : ChangeSubject) : Except Err Commit := do
  let id ← id
  let change : OAuthChange := {
    eventMeta := {
      id := id, name := name, operation := operation, occurredAt := now, actorID := audit.actorID,
      workspaceID := subject.workspaceID, auditID := audit.id }
    issuerID := client.issuerID
    clientRecordID := client.id
    clientSource := client.source
    grantID := subject.grantID
    tokenID := subject.tokenID
    resourceID := subject.resourceID
    scopes := subject.scopes }
  return { audit := audit, transactional := some (hooks change) }

end Credbound.Manager
