import Credbound.Machinery.Sha256
import Credbound.Types.Records

/-!
# Types/Commit — audit events and the commit that carries them

Every mutation of a store comes with a `Commit`: the audit event to append, an optional hook that
runs inside the transaction, and an optional single-use ceremony to consume with it.
-/

namespace Credbound

/-- The text of an actor kind, as the audit chain hashes it. -/
def ActorKind.text : ActorKind → String
  | .user => "user"
  | .service => "service"
  | .system => "system"
  | .other value => value

/-- The text of an audit outcome. -/
def AuditOutcome.text : AuditOutcome → String
  | .succeeded => "succeeded"
  | .failed => "failed"
  | .other value => value

structure AuditEvent where
  id : UUID
  occurredAt : Time
  actorKind : ActorKind
  actorID : UUID
  action : String
  resourceType : String
  resourceID : String
  workspaceID : UUID
  outcome : AuditOutcome
  reason : String
  ipAddress : String
  userAgent : String
  sequence : Int
  previousHash : Bytes
  hash : Bytes
deriving Inhabited

/-! ## The audit hash -/

/-- `auditChainGenesis`: the previous hash of the first chained event. -/
def auditChainGenesis : Bytes := List.replicate 32 0

/-- An identifier as the chain hashes it: its canonical text, empty when absent. -/
def hashedID (id : UUID) : String := if id = 0 then "" else id.string

/-- One length-prefixed field of the canonical encoding. -/
def auditField (value : String) : Bytes :=
  let bytes := value.toUTF8.toList
  (toString bytes.length).toUTF8.toList ++ ":".toUTF8.toList ++ bytes ++ ";".toUTF8.toList

/-- Microseconds since the Unix epoch, rounded down and wrapped to 64 bits as `Time.UnixMicro` does. -/
def unixMicro (t : Time) : Int := Int.bmod ((t - unixEpoch) / 1000) (2 ^ 64)

/-- The fields an event contributes to its hash, in order. -/
def auditFields (event : AuditEvent) : List String :=
  [toString event.sequence, hashedID event.id, toString (unixMicro event.occurredAt),
    event.actorKind.text, hashedID event.actorID, event.action, event.resourceType,
    event.resourceID, hashedID event.workspaceID, event.outcome.text, event.reason,
    event.ipAddress, event.userAgent]

/-- `ComputeAuditHash`: the hash that chains an event to its predecessor. -/
def computeAuditHash (previous : Bytes) (event : AuditEvent) : Bytes :=
  Sha256.sum ((if previous.length = 0 then auditChainGenesis else previous)
    ++ (auditFields event).flatMap auditField)

/-- `CredentialFingerprint`: what ties a session to the password it was derived from. -/
def credentialFingerprint (hash : String) : Bytes :=
  Sha256.sum ("credbound-credential-v1:" ++ hash).toUTF8.toList

/-! ## Commits -/

/-- Which store a transaction handle belongs to. -/
inductive StoreKind
  | memory
  | postgresql
deriving DecidableEq

/-- The transaction capability a hook receives. -/
structure Tx where
  kind : StoreKind
  audit : AuditEvent

/-- The single-use ceremony a commit consumes. -/
structure CeremonyConsumption where
  id : UUID
  expiresAt : Time
deriving DecidableEq, Inhabited

/-- A hook is host code.  It sees the context and the transaction handle and answers with an error
or none; the store's lock is held while it runs, so it cannot touch the store. -/
abbrev Hook := Context → Tx → Option Err

structure Commit where
  audit : AuditEvent
  transactional : Option Hook := none
  ceremony : Option CeremonyConsumption := none
  unchained : Bool := false

/-- What the commit's hook answers when a store of the given kind runs it: nothing without a
hook. -/
def Commit.hookErr (commit : Commit) (ctx : Context) (kind : StoreKind) : Option Err :=
  commit.transactional.bind fun hook => hook ctx ⟨kind, commit.audit⟩

/-- A commit whose hook answered has a hook. -/
theorem Commit.isNone_of_hookErr {commit : Commit} {ctx : Context} {kind : StoreKind} {e : Err}
    (h : commit.hookErr ctx kind = some e) : commit.transactional.isNone = false := by
  cases ht : commit.transactional <;> simp_all [Commit.hookErr]

end Credbound
