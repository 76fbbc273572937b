import Credbound.Postgres.Tables

/-!
# Postgres/Commit — the commit protocol of the PostgreSQL store

`mutateIf` runs a method inside one database transaction: the ceremony is inserted, the method's
statements run, the hook runs, the audit event is appended, and the transaction commits.  Leaving at
any point before that rolls all of it back, so a method is a step of the database that either goes
all the way or changes nothing (`mutateIf_of_err`).

    BEGIN ──▸ ceremony ──▸ fn ──▸ hook ──▸ appendAudit ──▸ COMMIT
                │          │       │           │
                └──────────┴───────┴───────────┴────────▸ ROLLBACK

Transactions are serial here: the row locks and the constraint checks that order concurrent ones are
not modelled.
-/

namespace Credbound.Postgres

namespace Database

/-! ## The audit log -/

/-- The constraints of `audit_events` admit the event beside the rows that are there. -/
def AuditAdmitted (rows : List AuditEvent) (event : AuditEvent) : Prop :=
  (validUUIDv7 event.id ∧ ∀ row ∈ rows, row.id ≠ event.id)
    ∧ (∀ row ∈ rows, ¬ (0 < event.sequence ∧ row.sequence = event.sequence))
    ∧ event.actorKind.text ∈ ["user", "service", "system"]
    ∧ event.outcome.text ∈ ["succeeded", "failed"]

instance (rows : List AuditEvent) (event : AuditEvent) : Decidable (AuditAdmitted rows event) :=
  inferInstanceAs (Decidable (_ ∧ _))

/-- An event as it is read back: a sequence that is not positive is bound as `NULL`. -/
def auditRow (event : AuditEvent) : AuditEvent :=
  { event with
    occurredAt := timestamptz event.occurredAt
    sequence := if 0 < event.sequence then event.sequence else 0 }

/-- `InsertAudit`.  Both callers wrap the driver's error in `ErrAuditUnavailable`; its text is left
out. -/
def insertAudit (db : Database) (event : AuditEvent) : Except Err Database := do
  require (AuditAdmitted db.auditEvents event) .auditUnavailable
  return { db with auditEvents := db.auditEvents ++ [auditRow event] }

/-- An event without an actor kind is a user's. -/
def actedBy (event : AuditEvent) : AuditEvent :=
  if event.actorKind = .other "" then { event with actorKind := .user } else event

/-- The event linked to the chain head. -/
def linked (db : Database) (event : AuditEvent) : AuditEvent :=
  let event := { event with sequence := db.auditSequence + 1, previousHash := db.auditHead }
  { event with hash := computeAuditHash db.auditHead event }

/-- `chainAudit`: link the event to the chain head and append it. -/
def chainAudit (db : Database) (event : AuditEvent) : Except Err Database := do
  let event := db.linked (actedBy event)
  let db ← db.insertAudit event
  return { db with auditSequence := event.sequence, auditHead := event.hash }

/-- `appendAudit`. -/
def appendAudit (db : Database) (event : AuditEvent) (unchained : Bool) : Except Err Database :=
  if unchained then db.insertAudit (actedBy event) else db.chainAudit event

/-! ## Ceremonies -/

/-- The ceremony of a commit: expired rows are pruned, then the primary key admits it once. -/
def consumeCeremony (db : Database) (commit : Commit) : Except Err Database :=
  match commit.ceremony with
  | none => .ok db
  | some ceremony => do
    let live := db.consumedCeremonies.filter fun _ expires =>
      ¬ expires < timestamptz commit.audit.occurredAt
    constraint (validUUIDv7 ceremony.id ∧ ceremony.id ∉ live)
    return { db with consumedCeremonies := live.set ceremony.id (timestamptz ceremony.expiresAt) }

end Database

/-! ## Transactions -/

/-- The hook, inside the transaction. -/
def runHook (ctx : Context) (commit : Commit) : Except Err Unit :=
  match commit.hookErr ctx .postgresql with
  | some e => .error e
  | none => .ok ()

/-- The body of `mutateIf`, between BEGIN and COMMIT.  A method that reports no change returns early
and the deferred rollback undoes its ceremony. -/
def transactIf (ctx : Context) (commit : Commit) (fn : Database → Except Err (Bool × Database))
    (db : Database) : Except Err Database := do
  let begun ← db.consumeCeremony commit
  let (changed, written) ← fn begun
  if changed then
    runHook ctx commit
    written.appendAudit commit.audit commit.unchained
  else return db

/-- BEGIN with a live context; COMMIT or ROLLBACK. -/
def atomically (ctx : Context) (body : Database → Except Err Database) (db : Database) :
    Outcome Unit × Database :=
  match ctx.err with
  | some e => (.err e, db)
  | none =>
    match body db with
    | .ok db' => (.ok (), db')
    | .error e => (.err e, db)

/-- `mutateIf`. -/
def mutateIf (ctx : Context) (commit : Commit) (fn : Database → Except Err (Bool × Database)) :
    Database → Outcome Unit × Database := atomically ctx (transactIf ctx commit fn)

/-- A method that reports a change whenever it returns. -/
def changing (fn : Database → Except Err Database) (db : Database) :
    Except Err (Bool × Database) := do
  let db ← fn db
  return (true, db)

/-- `mutate`. -/
def mutate (ctx : Context) (commit : Commit) (fn : Database → Except Err Database) :
    Database → Outcome Unit × Database := mutateIf ctx commit (changing fn)

/-- `oauthMutate`: no ceremony, and the event is always chained. -/
def oauthMutate (ctx : Context) (commit : Commit) (fn : Database → Except Err Database) :
    Database → Outcome Unit × Database :=
  atomically ctx fun db => do
    let written ← fn db
    runHook ctx commit
    written.chainAudit commit.audit

/-! ## All or nothing -/

section

variable {ctx : Context} {commit : Commit} {db : Database}

theorem runHook_of_some {e : Err} (h : commit.hookErr ctx .postgresql = some e) :
    runHook ctx commit = .error e := by rw [runHook, h]

/-- A method that reaches its hook fails with what the hook answers. -/
theorem transactIf_of_hookErr {fn : Database → Except Err (Bool × Database)} {begun written : Database}
    {e : Err} (hbegun : db.consumeCeremony commit = .ok begun) (hfn : fn begun = .ok (true, written))
    (hook : commit.hookErr ctx .postgresql = some e) : transactIf ctx commit fn db = .error e := by
  unfold transactIf
  rw [hbegun]
  show (fn begun >>= _) = _
  rw [hfn]
  show (runHook ctx commit >>= _) = _
  rw [runHook_of_some hook]
  rfl

/-! ## What a transaction leaves -/

/-- `db'` is `db` up to the log: the audit events, the head of their chain and the ceremonies. -/
def Database.SameTables (db db' : Database) : Prop :=
  ∃ events sequence head ceremonies, db' =
    { db with
      auditEvents := events
      auditSequence := sequence
      auditHead := head
      consumedCeremonies := ceremonies }

namespace Database

variable {db' : Database}

theorem SameTables.of (h : db' = { db with
      auditEvents := db'.auditEvents
      auditSequence := db'.auditSequence
      auditHead := db'.auditHead
      consumedCeremonies := db'.consumedCeremonies }) : SameTables db db' := ⟨_, _, _, _, h⟩

theorem SameTables.refl (db : Database) : SameTables db db := .of rfl

theorem sameTables_chainAudit {event : AuditEvent}
    (h : db.chainAudit event = .ok db') : SameTables db db' := by
  simp only [chainAudit, insertAudit, check_bind, require_eq_ok, check_pure] at h
  obtain ⟨_, ⟨_, -, rfl⟩, rfl⟩ := h
  exact .of rfl

theorem sameTables_appendAudit {event : AuditEvent} {unchained : Bool}
    (h : db.appendAudit event unchained = .ok db') : SameTables db db' := by
  unfold appendAudit at h
  split at h
  · simp only [insertAudit, check_bind, require_eq_ok, check_pure] at h
    obtain ⟨_, -, rfl⟩ := h
    exact .of rfl
  · exact sameTables_chainAudit h

theorem sameTables_consumeCeremony (h : db.consumeCeremony commit = .ok db') : SameTables db db' := by
  unfold consumeCeremony at h
  split at h
  · obtain ⟨⟩ := h
    exact .refl db
  · simp only [constraint, check_bind, require_eq_ok, check_pure] at h
    obtain ⟨_, -, rfl⟩ := h
    exact .of rfl

end Database

open Database

/-- **An OAuth transaction changes nothing, or what its method writes and the log.** -/
theorem oauthMutate_cases (ctx : Context) (commit : Commit) (fn : Database → Except Err Database)
    (db : Database) :
    (∃ e, oauthMutate ctx commit fn db = (.err e, db))
      ∨ ∃ written db', fn db = .ok written ∧ SameTables written db'
        ∧ oauthMutate ctx commit fn db = (.ok (), db') := by
  unfold oauthMutate atomically
  cases ctx.err with
  | some e => exact .inl ⟨e, rfl⟩
  | none =>
    dsimp only
    split
    · next db' hbody =>
      simp only [check_bind] at hbody
      obtain ⟨written, hfn, -, -, hchain⟩ := hbody
      exact .inr ⟨written, db', hfn, sameTables_chainAudit hchain, rfl⟩
    · next e _ => exact .inl ⟨e, rfl⟩

/-- **…and so does one of the account store**, whose method runs after the ceremony is consumed. -/
theorem mutate_cases (ctx : Context) (commit : Commit) (fn : Database → Except Err Database) (db : Database) :
    (∃ e, mutate ctx commit fn db = (.err e, db))
      ∨ ∃ begun written db', SameTables db begun ∧ fn begun = .ok written ∧ SameTables written db'
        ∧ mutate ctx commit fn db = (.ok (), db') := by
  unfold mutate mutateIf atomically
  cases ctx.err with
  | some e => exact .inl ⟨e, rfl⟩
  | none =>
    dsimp only
    split
    · next db' hbody =>
      simp only [transactIf, changing, check_bind, check_pure] at hbody
      obtain ⟨begun, hbegun, _, ⟨written, hfn, rfl⟩, hrest⟩ := hbody
      simp only [if_true, check_bind] at hrest
      obtain ⟨-, -, hlog⟩ := hrest
      exact .inr ⟨begun, written, db', sameTables_consumeCeremony hbegun, hfn,
        sameTables_appendAudit hlog, rfl⟩
    · next e _ => exact .inl ⟨e, rfl⟩

end

end Credbound.Postgres
