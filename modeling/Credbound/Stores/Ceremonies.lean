import Credbound.Memory.Ceremonies
import Credbound.Memory.Rollback
import Credbound.Postgres.Accounts

/-!
# Stores/Ceremonies — a rejected ceremony in the two stores

Both stores run a commit's hook after its ceremony has been consumed.  The memory store records the
ceremony before it takes the snapshot, on purpose: a ceremony is burned by the commit attempt even
when the hook rejects the transaction.  The PostgreSQL store inserts it inside the transaction, and
a rejection rolls it back with everything else.

So the stores agree that a rejected commit fails, and disagree on what is left of the ceremony: the
same continuation may be presented to the PostgreSQL store again, and not to the memory store until
it expires.
-/

namespace Credbound.Stores

open Memory Postgres

/-! ## The memory store -/

variable {ceremony : CeremonyConsumption}

/-- **A rejected call leaves its ceremony recorded.** -/
theorem ceremonies_of_rejected {c : Call} {s t : Store} {previous : StoreState} {e : Err}
    (hc : c.commit.ceremony = some ceremony) (hp : c.attempt s = .pending () previous t)
    (hook : c.commit.hookErr c.ctx .memory = some e) :
    (c.next s).ceremonies.get? ceremony.id = some ceremony.expiresAt := by
  have hnext : (c.next s).ceremonies = t.ceremonies := by
    rw [Call.next, Call.run_of_rejected hp hook]
    rfl
  rw [hnext, (Call.ceremonies_of_pending hc hp).2, FMap.get?_set_self]

/-- A ceremony that is recorded and has not expired is remembered. -/
theorem mem_liveCeremonies {s : Store} {id : UUID} {expires now : Time}
    (h : s.ceremonies.get? id = some expires) (hin : now ≤ expires) : id ∈ s.liveCeremonies now := by
  rw [Store.liveCeremonies_eq]
  exact FMap.mem_of_get? (SingleUse.get?_live h hin)

/-- **…and while it is recorded no call that carries it gets to its hook**, … -/
theorem not_pending_of_recorded {c : Call} {s : Store} (hc : c.commit.ceremony = some ceremony)
    (h : s.ceremonies.get? ceremony.id = some ceremony.expiresAt)
    (hin : c.commit.audit.occurredAt ≤ ceremony.expiresAt) (previous : StoreState) (t : Store) :
    c.attempt s ≠ .pending () previous t := fun hp =>
  (Call.ceremonies_of_pending hc hp).1 (mem_liveCeremonies h hin)

/-- …and one that nothing else refuses fails with a conflict. -/
theorem conflict_of_recorded {o : Op} {commit : Commit} {ctx : Context} {s : Store}
    (hc : commit.ceremony = some ceremony) (h : s.ceremonies.get? ceremony.id = some ceremony.expiresAt)
    (hin : commit.audit.occurredAt ≤ ceremony.expiresAt) (hctx : ctx.err = none)
    (hcheck : o.mutation.check s = .ok ()) (haudit : s.canAudit commit.audit = .ok ()) :
    (Call.run ⟨.op o, commit, ctx⟩ s).1 = .err .conflict := by
  have hprepared : (s.prepareCommitLocked commit).1 = .error .conflict := by
    rw [Store.prepareCommitLocked, haudit, hc]
    dsimp only
    rw [if_pos (mem_liveCeremonies h hin)]
  rw [Call.run, Call.attempt, Method.attempt, Mutation.attempt, hctx]
  dsimp only
  rw [hcheck]
  exact Store.finish_of_refused hprepared

/-! ## The PostgreSQL store -/

/-- The transaction gets as far as its hook. -/
def ReachesHook (ctx : Context) (commit : Commit) (fn : Database → Except Err (Bool × Database))
    (db : Database) : Prop :=
  ctx.err = none
    ∧ ∃ begun written, db.consumeCeremony commit = .ok begun ∧ fn begun = .ok (true, written)

/-- **A rejected transaction leaves the database as it was.** -/
theorem mutateIf_of_rejected {ctx : Context} {commit : Commit}
    {fn : Database → Except Err (Bool × Database)} {db : Database} {e : Err}
    (h : ReachesHook ctx commit fn db) (hook : commit.hookErr ctx .postgresql = some e) :
    mutateIf ctx commit fn db = (.err e, db) := by
  obtain ⟨hctx, begun, written, hbegun, hfn⟩ := h
  rw [mutateIf, atomically, hctx, transactIf_of_hookErr hbegun hfn hook]

/-! ## Both -/

/-- The user of the run, in the memory store… -/
def memoryUser : Store :=
  { Store.new with users := (∅ : FMap UUID User).set (uuidv7 1) { (default : User) with id := uuidv7 1 } }

/-- …and in the database. -/
def databaseUser : Database :=
  { Database.new with users := (∅ : FMap UUID UserRow).set (uuidv7 1) default }

/-- A passkey of the user. -/
def newPasskey : Passkey :=
  { (default : Passkey) with
    id := uuidv7 2, userID := uuidv7 1, credentialID := [1], credentialJSON := [1] }

/-- The commit that registers it, with a ceremony that expires after a second. -/
def registration (id : UUID) (hook : Hook) : Commit where
  audit := { (commitOf id 1000).audit with outcome := .succeeded }
  ceremony := some ⟨uuidv7 3, 1000000000⟩
  transactional := some hook

/-- The registration, rejected by its hook… -/
def rejectedRegistration : Call :=
  ⟨.op (.factor (.savePasskey newPasskey)), registration (uuidv7 4) fun _ _ => some (.external "no"),
    {}⟩

/-- …and retried with a hook that succeeds. -/
def retriedRegistration : Call :=
  ⟨.op (.factor (.savePasskey newPasskey)), registration (uuidv7 5) fun _ _ => none, {}⟩

end Credbound.Stores
