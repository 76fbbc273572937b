import Credbound.Machinery.Run
import Credbound.Memory.Directory
import Credbound.Memory.Emails
import Credbound.Memory.Factors
import Credbound.Memory.OAuth
import Credbound.Memory.Reads

/-!
# Memory/Calls — every mutating method as one step of the store

A `Call` is a method with its arguments, the context and the commit.  Most methods are a `Mutation`;
five have a body of their own.  `Call.steps` says once what a call can do to the state:

* it is **idle**: it stopped early, was refused or was rolled back, and only what lies outside the
  **core** of the state may differ;
* it **wrote**: the checks passed, the write went through and the audit event was appended;
* it **panicked** in the middle of the write.

The core is every map a precondition of another method depends on, less the three things an idle
call can disturb: `oauthClientKeys`, which a rollback empties; `domains`, from which a stale holder
is evicted before the commit is prepared; and the fields outside the snapshot.
-/

namespace Credbound.Memory

/-! ## Operations, methods and calls -/

/-- The methods that are a `Mutation`. -/
inductive Op
  | account (op : AccountOp)
  | email (op : EmailOp)
  | factor (op : FactorOp)
  | workspace (op : WorkspaceOp)
  | directory (op : DirectoryOp)
  | oauth (op : OAuthOp)

def Op.mutation : Op → Mutation
  | .account op => op.mutation
  | .email op => op.mutation
  | .factor op => op.mutation
  | .workspace op => op.mutation
  | .directory op => op.mutation
  | .oauth op => op.mutation

/-- Every method that changes the store, with its arguments. -/
inductive Method
  | op (o : Op)
  | recordLoginFailure (userID : UUID) (at' : Time) (threshold : Int) (lockedUntil : Time)
  | useTOTP (userID : UUID) (step : Int)
  | consumeRecoveryCode (userID : UUID) (digest : Bytes) (usedAt : Time)
  | createWorkspaceDomain (domain : WorkspaceDomain) (staleBefore : Time)
  | claimEmailIssuance (address purpose : String) (at' notBefore : Time)
  | setAuditFailure (cause : Option String)

/-- A method up to its hook. -/
def Method.attempt (ctx : Context) (commit : Commit) (s : Store) : Method → Attempt Unit
  | .op o => o.mutation.attempt ctx commit s
  | .recordLoginFailure userID at' threshold lockedUntil =>
      (Memory.recordLoginFailure userID at' threshold lockedUntil ctx commit s).void
  | .useTOTP userID step => (Memory.useTOTP userID step ctx commit s).void
  | .consumeRecoveryCode userID digest usedAt =>
      (Memory.consumeRecoveryCode userID digest usedAt ctx commit s).void
  | .createWorkspaceDomain domain staleBefore =>
      Memory.createWorkspaceDomain domain staleBefore ctx commit s
  | .claimEmailIssuance address purpose at' notBefore =>
      (Memory.claimEmailIssuance address purpose at' notBefore ctx s).void
  | .setAuditFailure cause => .stopped (.ok ()) { s with auditFailure := cause }

/-- One call of a method. -/
structure Call where
  method : Method
  commit : Commit := ⟨default, none, none, false⟩
  ctx : Context := {}

namespace Call

/-- The call up to its hook. -/
def attempt (c : Call) (s : Store) : Attempt Unit := c.method.attempt c.ctx c.commit s

/-- What the call returns, and the state it leaves. -/
def run (c : Call) (s : Store) : Outcome Unit × Store := (c.attempt s).finish c.ctx c.commit

/-- The state the call leaves. -/
def next (s : Store) (c : Call) : Store := (c.run s).2

end Call

/-- A commit that carries an audit event, no hook and no ceremony. -/
def commitOf (id : UUID) (occurredAt : Time) : Commit where
  audit := { (default : AuditEvent) with id := id, action := "test", occurredAt := occurredAt }

/-- The store after a list of calls, from the empty store on. -/
def Store.after (calls : List Call) : Store := Run.run Call.next Store.new calls

/-! ## What an idle call can disturb -/

/-- `t` is `s` up to what an idle call can disturb. -/
def Store.SameCore (s t : Store) : Prop :=
  ∃ u : Store, t =
    { s with
      oauthClientKeys := u.oauthClientKeys
      domains := u.domains
      audits := u.audits
      auditIDs := u.auditIDs
      auditSequence := u.auditSequence
      auditHead := u.auditHead
      ceremonies := u.ceremonies
      emailIssuance := u.emailIssuance
      auditFailure := u.auditFailure }

/-- The audit log: the events, their identifiers and the head of the chain. -/
structure AuditLog where
  audits : List AuditEvent
  auditIDs : Finset UUID
  auditSequence : Int
  auditHead : Bytes

namespace Store

def log (s : Store) : AuditLog := ⟨s.audits, s.auditIDs, s.auditSequence, s.auditHead⟩

/-- To have the same core, two states may differ in the fields listed and no other. -/
theorem SameCore.of {s t : Store} (h : t = { s with
      oauthClientKeys := t.oauthClientKeys
      domains := t.domains
      audits := t.audits
      auditIDs := t.auditIDs
      auditSequence := t.auditSequence
      auditHead := t.auditHead
      ceremonies := t.ceremonies
      emailIssuance := t.emailIssuance
      auditFailure := t.auditFailure }) : SameCore s t := ⟨t, h⟩

theorem SameCore.refl (s : Store) : SameCore s s := .of rfl

theorem SameCore.trans {s t u : Store} (h : SameCore s t) (h' : SameCore t u) : SameCore s u := by
  obtain ⟨_, rfl⟩ := h
  obtain ⟨_, rfl⟩ := h'
  exact .of rfl

theorem sameCore_commitAudit (s : Store) (event : AuditEvent) (unchained : Bool) :
    SameCore s (s.commitAudit event unchained) := by
  cases unchained <;> exact .of rfl

theorem sameCore_ceremonies (s : Store) (ceremonies : FMap UUID Time) :
    SameCore s { s with ceremonies := ceremonies } := .of rfl

/-- A restored snapshot of a state with the same core has the same core. -/
theorem sameCore_restoreLocked {s p : Store} (h : SameCore s p) (t : Store) :
    SameCore s (t.restoreLocked p.snapshotLocked) := by
  obtain ⟨_, rfl⟩ := h
  exact .of rfl

/-! ## The commit protocol -/

/-- **What preparing a commit does**: it refuses, or it accepts and the ceremonies are all that
changed. -/
theorem prepareCommitLocked_cases (s : Store) (commit : Commit) :
    ∃ ceremonies, (∃ e, s.prepareCommitLocked commit = (.error e, { s with ceremonies := ceremonies }))
      ∨ s.prepareCommitLocked commit =
        (.ok (if commit.transactional.isNone then default else s.snapshotLocked),
          { s with ceremonies := ceremonies }) := by
  unfold prepareCommitLocked
  cases s.canAudit commit.audit with
  | error e => exact ⟨s.ceremonies, .inl ⟨e, rfl⟩⟩
  | ok _ =>
    cases commit.ceremony with
    | none => exact ⟨s.ceremonies, .inr rfl⟩
    | some ceremony =>
      by_cases h : ceremony.id ∈ s.liveCeremonies commit.audit.occurredAt
      · exact ⟨s.liveCeremonies commit.audit.occurredAt, .inl ⟨.conflict, if_pos h⟩⟩
      · exact ⟨(s.liveCeremonies commit.audit.occurredAt).set ceremony.id ceremony.expiresAt, .inr (if_neg h)⟩

/-- A commit is prepared only if its event can be appended. -/
theorem canAudit_of_prepared {s p : Store} {commit : Commit} {state : StoreState}
    (h : s.prepareCommitLocked commit = (.ok state, p)) : s.canAudit commit.audit = .ok () := by
  unfold prepareCommitLocked at h
  cases hcan : s.canAudit commit.audit with
  | error e =>
    rw [hcan] at h
    cases h
  | ok _ => rfl

/-- The finished prepare-and-write: refused or rolled back it is idle, otherwise the write went
through or panicked. -/
theorem finish_prepareAndWrite_cases {α : Type} {s p : Store} (h : SameCore s p) (ctx : Context)
    (commit : Commit) (write : Store → Except Store Store) (value : α) :
    (∃ e t, (p.prepareAndWrite commit write value).finish ctx commit = (.err e, t) ∧ SameCore s t
      ∧ t.log = p.log ∧ (commit.hookErr ctx .memory = none → t.oauthClientKeys = p.oauthClientKeys))
    ∨ p.canAudit commit.audit = .ok () ∧ ∃ ceremonies t, write { p with ceremonies := ceremonies } = .ok t
          ∧ (p.prepareAndWrite commit write value).finish ctx commit
            = (.ok value, t.commitAudit commit.audit commit.unchained)
        ∨ write { p with ceremonies := ceremonies } = .error t
          ∧ (p.prepareAndWrite commit write value).finish ctx commit = (.panic, t) := by
  obtain ⟨ceremonies, ⟨e, hp⟩ | hp⟩ := p.prepareCommitLocked_cases commit
  · exact .inl ⟨e, _, by simp only [prepareAndWrite, hp, Attempt.finish],
      h.trans (sameCore_ceremonies p ceremonies), rfl, fun _ => rfl⟩
  · have hcan := canAudit_of_prepared hp
    cases hw : write { p with ceremonies := ceremonies } with
    | error t => exact .inr ⟨hcan, ceremonies, t, .inr ⟨hw, by simp only [prepareAndWrite, hp, hw, Attempt.finish]⟩⟩
    | ok t =>
      cases hh : commit.hookErr ctx .memory with
      | none =>
        exact .inr ⟨hcan, ceremonies, t, .inl ⟨hw, by
          simp only [prepareAndWrite, hp, hw, Attempt.finish, finishCommitLocked, hh]⟩⟩
      | some e =>
        -- A hook that answered exists, so the snapshot was taken.
        have hsome := Commit.isNone_of_hookErr hh
        refine .inl ⟨e, t.restoreLocked p.snapshotLocked, ?_, sameCore_restoreLocked h t, rfl, nofun⟩
        simp [prepareAndWrite, hp, hw, Attempt.finish, finishCommitLocked, hh, hsome]

end Store

/-! ## Every method as checks and writes -/

/-- The holder a call of `CreateWorkspaceDomain` evicts on the way in, if it evicts one. -/
def staleHolder (domain : WorkspaceDomain) (staleBefore : Time) (ctx : Context) (s : Store) :
    Option UUID :=
  if ctx.err = none ∧ domain.workspaceID ∈ s.workspaces ∧ domain.id ∉ s.domains then
    (s.domainNames.get? domain.domain).filter fun holderID =>
      (s.domains.get? holderID).any fun holder => ¬ Defends holder staleBefore
  else none

/-- The checks and writes of a method whose commit is prepared; the two methods without a commit
have none. -/
def Method.view : Method → Option Mutation
  | .op o => some o.mutation
  | .recordLoginFailure userID at' threshold lockedUntil => some
    { check := fun s => require (userID ∈ s.users) .notFound
      write := fun _ s =>
        let throttle := nextThrottle (s.throttles.getI userID) userID at' threshold lockedUntil
        .ok { s with throttles := s.throttles.set userID throttle } }
  | .useTOTP userID step => some
    { check := fun s => do
        let factor ← find s.totp userID .notFound
        require (factor.active = true) .notFound
        require (¬ step ≤ factor.lastUsedStep) .conflict
      write := fun commit s =>
        let now := commit.audit.occurredAt
        let factor := { s.totp.getI userID with lastUsedStep := step, updatedAt := now }
        .ok (({ s with totp := s.totp.set userID factor }.touchLastSeenLocked userID now).clearThrottle
          userID) }
  | .consumeRecoveryCode userID digest usedAt => some
    { check := fun s => require ((s.recovery.getI userID).any fun code =>
        code.usedAt = none ∧ code.digest = digest) .conflict
      write := fun _ s => .ok
        (({ s with recovery :=
            s.recovery.set userID (markUsed digest usedAt (s.recovery.getI userID)) }
          |>.touchLastSeenLocked userID usedAt).clearThrottle userID) }
  | .createWorkspaceDomain domain _ => some
    { check := fun s => do
        require (domain.workspaceID ∈ s.workspaces) .notFound
        require (domain.id ∉ s.domains) .conflict
      write := fun _ s => .ok (s.putDomain domain) }
  | .claimEmailIssuance .. => none
  | .setAuditFailure _ => none

/-- The holder a method evicts on the way in. -/
def Method.evicts (ctx : Context) (s : Store) : Method → Option UUID
  | .createWorkspaceDomain domain staleBefore => staleHolder domain staleBefore ctx s
  | _ => none

/-- The state in which a method prepares its commit. -/
def Method.arrival (ctx : Context) (s : Store) (m : Method) : Store :=
  match m.evicts ctx s with
  | some holderID => s.evictDomain holderID
  | none => s

namespace Store

theorem sameCore_arrival (s : Store) (ctx : Context) (m : Method) : SameCore s (m.arrival ctx s) := by
  unfold Method.arrival
  split
  · exact .of rfl
  · exact .refl s

end Store

/-- A mutation stops where it is, or its checks pass and the commit is prepared. -/
theorem Mutation.attempt_cases (m : Mutation) (ctx : Context) (commit : Commit) (s : Store) :
    (∃ e, m.attempt ctx commit s = .stopped (.err e) s)
    ∨ ctx.err = none ∧ m.check s = .ok ()
      ∧ m.attempt ctx commit s = s.prepareAndWrite commit (m.write commit) () := by
  unfold Mutation.attempt
  cases hctx : ctx.err with
  | some e => exact .inl ⟨e, rfl⟩
  | none =>
    cases hc : m.check s with
    | error e => exact .inl ⟨e, rfl⟩
    | ok _ => exact .inr ⟨rfl, rfl, rfl⟩

/-- Voiding an attempt forgets the value only. -/
theorem Store.prepareAndWrite_void {α : Type} (s : Store) (commit : Commit)
    (write : Store → Except Store Store) (value : α) :
    (s.prepareAndWrite commit write value).void = s.prepareAndWrite commit write () := by
  unfold Store.prepareAndWrite
  split
  · rfl
  · split <;> rfl

/-- Finishing an attempt leaves the same state, whatever it returns. -/
theorem Attempt.finish_void {α : Type} (a : Attempt α) (ctx : Context) (commit : Commit) :
    (a.void.finish ctx commit).2 = (a.finish ctx commit).2 := by
  cases a with
  | stopped outcome s => rfl
  | pending value previous s =>
    simp only [Attempt.void, Attempt.finish]
    rcases s.finishCommitLocked ctx commit previous with ⟨_ | _ | _, _⟩ <;> rfl

/-- The write of a prepared commit matters only in the states preparing can lead to. -/
theorem Store.prepareAndWrite_congr (s : Store) (commit : Commit) {write write' : Store → Except Store Store}
    (h : ∀ ceremonies, write { s with ceremonies := ceremonies } = write' { s with ceremonies := ceremonies }) :
    s.prepareAndWrite commit write () = s.prepareAndWrite commit write' () := by
  unfold Store.prepareAndWrite
  obtain ⟨ceremonies, ⟨e, hp⟩ | hp⟩ := s.prepareCommitLocked_cases commit
  · rw [hp]
  · rw [hp]
    simp only [h]

/-- **Where a method can be when its hook is due**: it stopped, with nothing changed that a read
could see, or its checks passed and the commit is prepared in the state of its arrival. -/
def Method.Stops (m : Method) (ctx : Context) (commit : Commit) (s : Store) : Prop :=
  ∃ o t, m.attempt ctx commit s = .stopped o t ∧ t.toStoreState = s.toStoreState
    ∧ t.ceremonies = s.ceremonies ∧ m.evicts ctx s = none ∧ ∀ o', m = .op o' → o ≠ .ok ()

/-- … or its checks pass and the commit is prepared in the state of its arrival. -/
def Method.Prepares (m : Method) (ctx : Context) (commit : Commit) (s : Store) : Prop :=
  ∃ v, m.view = some v ∧ ctx.err = none ∧ v.check s = .ok ()
    ∧ m.attempt ctx commit s = (m.arrival ctx s).prepareAndWrite commit (v.write commit) ()

variable {commit : Commit}

theorem Method.stops_of_eq {m : Method} {ctx : Context} {s : Store}
    {o : Outcome Unit} (h : m.attempt ctx commit s = .stopped o s) (he : m.evicts ctx s = none)
    (ho : ∀ o', m = .op o' → o ≠ .ok ()) : m.Stops ctx commit s := ⟨o, s, h, rfl, rfl, he, ho⟩

/-- Evicting a holder that has no record changes nothing. -/
theorem Store.evictDomain_of_get?_none {s : Store} {holderID : UUID}
    (h : s.domains.get? holderID = none) : s.evictDomain holderID = s := by
  rw [Store.evictDomain, FMap.del_of_get?_none h]

theorem createWorkspaceDomain_cases (domain : WorkspaceDomain) (staleBefore : Time) (ctx : Context)
    (commit : Commit) (s : Store) :
    (Method.createWorkspaceDomain domain staleBefore).Stops ctx commit s
    ∨ (Method.createWorkspaceDomain domain staleBefore).Prepares ctx commit s := by
  unfold Method.Stops Method.Prepares
  simp only [Method.attempt, Method.view, Method.evicts, Method.arrival, createWorkspaceDomain, staleHolder]
  cases hctx : ctx.err with
  | some e => exact .inl ⟨_, s, rfl, rfl, rfl, by simp, by simp⟩
  | none =>
    by_cases hw : domain.workspaceID ∈ s.workspaces
    swap
    · exact .inl ⟨_, s, by simp [hw]; rfl, rfl, rfl, by simp [hw], by simp⟩
    by_cases hd : domain.id ∈ s.domains
    · exact .inl ⟨_, s, by simp [hw, hd]; rfl, rfl, rfl, by simp [hd], by simp⟩
    cases hn : s.domainNames.get? domain.domain with
    | none => exact .inr ⟨_, rfl, rfl, by simp [hw, hd], by simp [hw, hd]⟩
    | some holderID =>
      by_cases hdef : Defends (s.domains.getI holderID) staleBefore
      · refine .inl ⟨_, s, by simp [hw, hd, hdef]; rfl, rfl, rfl, ?_, by simp⟩
        cases hh : s.domains.get? holderID with
        | none => simp [hh, Option.filter]
        | some holder =>
          rw [FMap.getI_of_get? hh] at hdef
          simp [hh, hdef, Option.filter]
      · refine .inr ⟨_, rfl, rfl, by simp [hw, hd], ?_⟩
        cases hh : s.domains.get? holderID with
        | none => simp [hw, hd, hh, hdef, Option.filter, Store.evictDomain_of_get?_none hh]
        | some holder =>
          have hdef' : ¬ Defends holder staleBefore := by rwa [FMap.getI_of_get? hh] at hdef
          simp [hw, hd, hh, hdef, hdef', Option.filter]

/-- **Every method stops or prepares.** -/
theorem Method.attempt_cases (m : Method) (ctx : Context) (commit : Commit) (s : Store) :
    m.Stops ctx commit s ∨ m.Prepares ctx commit s := by
  cases m with
  | op o =>
    obtain ⟨e, h⟩ | ⟨hctx, hc, h⟩ := o.mutation.attempt_cases ctx commit s
    · exact .inl (stops_of_eq h rfl (by simp))
    · exact .inr ⟨_, rfl, hctx, hc, h⟩
  | recordLoginFailure userID at' threshold lockedUntil =>
    unfold Method.Stops Method.Prepares
    simp only [Method.attempt, Method.view, Memory.recordLoginFailure]
    cases hctx : ctx.err with
    | some e => exact .inl ⟨_, s, rfl, rfl, rfl, rfl, by simp⟩
    | none =>
      by_cases hu : userID ∈ s.users
      · refine .inr ⟨_, rfl, rfl, by simp [hu], ?_⟩
        rw [if_pos hu, Store.prepareAndWrite_void]
        exact Store.prepareAndWrite_congr _ _ fun _ => rfl
      · exact .inl ⟨_, s, by rw [if_neg hu]; rfl, rfl, rfl, rfl, by simp⟩
  | useTOTP userID step =>
    unfold Method.Stops Method.Prepares
    simp only [Method.attempt, Method.view, Memory.useTOTP]
    cases hctx : ctx.err with
    | some e => exact .inl ⟨_, s, rfl, rfl, rfl, rfl, by simp⟩
    | none =>
      cases hf : s.totp.get? userID with
      | none => exact .inl ⟨_, s, rfl, rfl, rfl, rfl, by simp⟩
      | some factor =>
        by_cases ha : factor.active = false
        · exact .inl ⟨_, s, by simp only [ha, if_true]; rfl, rfl, rfl, rfl, by simp⟩
        by_cases hs : step ≤ factor.lastUsedStep
        · exact .inl ⟨_, s, by simp only [ha, hs, if_true]; rfl, rfl, rfl, rfl, by simp⟩
        refine .inr ⟨_, rfl, rfl, by simp [hf, Bool.eq_true_of_not_eq_false ha, lt_of_not_ge hs], ?_⟩
        dsimp only
        rw [if_neg ha, if_neg hs, Store.prepareAndWrite_void]
        exact Store.prepareAndWrite_congr _ _ fun _ => by rw [FMap.getI_of_get? hf]
  | consumeRecoveryCode userID digest usedAt =>
    unfold Method.Stops Method.Prepares
    simp only [Method.attempt, Method.view, Memory.consumeRecoveryCode]
    cases hctx : ctx.err with
    | some e => exact .inl ⟨_, s, rfl, rfl, rfl, rfl, by simp⟩
    | none =>
      by_cases hc : ((s.recovery.getI userID).any fun code => code.usedAt = none ∧ code.digest = digest)
          = true
      · refine .inr ⟨_, rfl, rfl, by simpa using hc, ?_⟩
        rw [if_pos hc, Store.prepareAndWrite_void]
        exact Store.prepareAndWrite_congr _ _ fun _ => rfl
      · exact .inl ⟨_, s, by rw [if_neg hc]; rfl, rfl, rfl, rfl, by simp⟩
  | createWorkspaceDomain domain staleBefore =>
    exact createWorkspaceDomain_cases domain staleBefore ctx commit s
  | claimEmailIssuance address purpose at' notBefore =>
    left
    unfold Method.Stops
    simp only [Method.attempt, Memory.claimEmailIssuance]
    split
    · exact ⟨_, s, rfl, rfl, rfl, rfl, by simp⟩
    · split <;> exact ⟨_, _, rfl, rfl, rfl, rfl, by simp⟩
  | setAuditFailure cause => exact .inl ⟨_, _, rfl, rfl, rfl, rfl, by simp⟩

/-- No check looks at the ceremonies. -/
theorem Method.check_ceremonies {m : Method} {v : Mutation} (hv : m.view = some v) (s : Store)
    (ceremonies : FMap UUID Time) : v.check { s with ceremonies := ceremonies } = v.check s := by
  cases m with
  | op o =>
    obtain rfl : o.mutation = v := Option.some.inj hv
    cases o with
    | account op | email op | factor op | workspace op | directory op | oauth op => cases op <;> rfl
  | recordLoginFailure | useTOTP | consumeRecoveryCode | createWorkspaceDomain => cases hv; rfl
  | claimEmailIssuance | setAuditFailure => cases hv

/-- The checks still hold after the eviction on the way in. -/
theorem Method.check_arrival {m : Method} {v : Mutation} (hv : m.view = some v) (ctx : Context)
    {s : Store} (h : v.check s = .ok ()) : v.check (m.arrival ctx s) = .ok () := by
  cases m with
  | createWorkspaceDomain domain staleBefore =>
    unfold Method.arrival
    split
    · obtain ⟨⟩ := hv
      simp only [check_bind, require_eq_ok, exists_const] at h ⊢
      refine ⟨h.1, fun hmem => ?_⟩
      obtain ⟨domain, hd⟩ := FMap.mem_iff_get?.mp hmem
      exact h.2 (FMap.mem_of_get? (FMap.get?_del_eq_some.mp hd).2)
    · exact h
  | _ => exact h

/-! ## What a call does -/

namespace Call

/-- A call on `s` begins its write in `p`, with the log and the client keys of `s` and an event that can be
appended. -/
structure Begins (c : Call) (s p : Store) : Prop where
  log : p.log = s.log
  keys : p.oauthClientKeys = s.oauthClientKeys
  audit : s.canAudit c.commit.audit = .ok ()

/-- **What a call can do.**  The checks are known to hold in the state `p` the write starts from,
which has the core of the state the call was made in.  A rollback empties the client keys. -/
inductive Steps (c : Call) (s : Store) : Outcome Unit → Store → Prop
  | idle (o : Outcome Unit) (t : Store) (h : s.SameCore t) (hkept : t.log = s.log
        ∧ (c.commit.hookErr c.ctx .memory = none → t.oauthClientKeys = s.oauthClientKeys))
      (ho : ∀ op, c.method = .op op → o ≠ .ok ()) : Steps c s o t
  | wrote (m : Mutation) (p t : Store) (hm : c.method.view = some m) (hp : s.SameCore p)
      (hbegins : c.Begins s p) (hc : m.check p = .ok ()) (hw : m.write c.commit p = .ok t) :
      Steps c s (.ok ()) (t.commitAudit c.commit.audit c.commit.unchained)
  | panicked (m : Mutation) (p t : Store) (hm : c.method.view = some m) (hp : s.SameCore p)
      (hbegins : c.Begins s p) (hc : m.check p = .ok ()) (hw : m.write c.commit p = .error t) :
      Steps c s .panic t

/-- **Every call does one of the three.** -/
theorem steps (c : Call) (s : Store) : c.Steps s (c.run s).1 (c.run s).2 := by
  obtain ⟨o, t, ha, hstate, -, -, ho⟩ | ⟨m, hm, hctx, hc, ha⟩ := c.method.attempt_cases c.ctx c.commit s
  · have hrun : c.run s = (o, t) := by rw [run, attempt, ha, Attempt.finish]
    rw [hrun]
    obtain ⟨state, _, _, _⟩ := t
    obtain rfl : state = s.toStoreState := hstate
    exact .idle o _ (.of rfl) ⟨rfl, fun _ => rfl⟩ ho
  · have hrun : c.run s = ((c.method.arrival c.ctx s).prepareAndWrite c.commit (m.write c.commit)
        ()).finish c.ctx c.commit := by rw [run, attempt, ha]
    rw [hrun]
    have hcore := s.sameCore_arrival c.ctx c.method
    have harrival : (c.method.arrival c.ctx s).log = s.log
        ∧ (c.method.arrival c.ctx s).oauthClientKeys = s.oauthClientKeys
        ∧ (c.method.arrival c.ctx s).canAudit c.commit.audit = s.canAudit c.commit.audit := by
      unfold Method.arrival
      split <;> exact ⟨rfl, rfl, rfl⟩
    obtain ⟨e, t, hf, ht, hlog, hkeys⟩ | ⟨hcan, ceremonies, t, ⟨hw, hf⟩ | ⟨hw, hf⟩⟩ :=
      Store.finish_prepareAndWrite_cases hcore c.ctx c.commit (m.write c.commit) ()
    · rw [hf]
      exact .idle _ t ht ⟨hlog.trans harrival.1, fun h => (hkeys h).trans harrival.2.1⟩ fun _ _ => by simp
    all_goals
      have hp := hcore.trans (Store.sameCore_ceremonies _ ceremonies)
      have hcp := (Method.check_ceremonies hm _ ceremonies).trans (Method.check_arrival hm c.ctx hc)
      have hbegins : c.Begins s { c.method.arrival c.ctx s with ceremonies := ceremonies } :=
        ⟨harrival.1, harrival.2.1, harrival.2.2.symm.trans hcan⟩
      rw [hf]
    · exact .wrote m _ t hm hp hbegins hcp hw
    · exact .panicked m _ t hm hp hbegins hcp hw

/-- **A committed operation**: its checks hold and its write goes through, up to what an idle call can
disturb. -/
theorem run_ok {o : Op} {commit : Commit} {ctx : Context} {s : Store}
    (h : (run ⟨.op o, commit, ctx⟩ s).1 = .ok ()) :
    ∃ p t, s.SameCore p ∧ o.mutation.check p = .ok () ∧ o.mutation.write commit p = .ok t
      ∧ t.SameCore (next s ⟨.op o, commit, ctx⟩) := by
  have hsteps := steps ⟨.op o, commit, ctx⟩ s
  rw [h] at hsteps
  unfold next
  generalize (run ⟨.op o, commit, ctx⟩ s).2 = t' at hsteps ⊢
  cases hsteps with
  | idle _ _ _ _ ho => exact absurd rfl (ho o rfl)
  | wrote m p t hm hp _ hc hw =>
    obtain ⟨⟩ := hm
    exact ⟨p, t, hp, hc, hw, t.sameCore_commitAudit _ _⟩

end Call

/-- The state a write leads to, whether it goes through or panics on the way. -/
def reached : Except Store Store → Store
  | .ok t => t
  | .error t => t

/-- The state the write of a mutation leads to. -/
def Mutation.result (m : Mutation) (commit : Commit) (p : Store) : Store :=
  reached (m.write commit p)

theorem Mutation.result_of_ok {m : Mutation} {p t : Store}
    (h : m.write commit p = .ok t) : m.result commit p = t := by rw [Mutation.result, h, reached]

theorem Mutation.result_of_error {m : Mutation} {p t : Store}
    (h : m.write commit p = .error t) : m.result commit p = t := by rw [Mutation.result, h, reached]

/-- **The step rule**: what no idle call disturbs and every write preserves, panicking ones
included, every call preserves. -/
theorem Call.next_preserves {I : Store → Prop} (c : Call) (s : Store)
    (hwrite : ∀ m p, c.method.view = some m → s.SameCore p → m.check p = .ok () → I p →
      I (m.result c.commit p))
    (hs : I s)
    -- most properties do not mention the fields in question
    (hcore : ∀ {s t : Store}, s.SameCore t →
        (c.commit.hookErr c.ctx .memory = none → t.oauthClientKeys = s.oauthClientKeys) → I s → I t := by
      rintro _ _ ⟨_, rfl⟩ - h
      first | exact h | exact { h with }) : I (c.next s) := by
  have h := c.steps s
  unfold Call.next
  revert h
  generalize (c.run s).1 = o, (c.run s).2 = t'
  rintro (⟨_, _, h, ⟨-, hkeys⟩, -⟩ | ⟨m, p, t, hm, hp, hbegins, hc, hw⟩ | ⟨m, p, t, hm, hp, hbegins, hc, hw⟩)
  · exact hcore h hkeys hs
  all_goals have ht := hwrite m p hm hp hc (hcore hp (fun _ => hbegins.keys) hs)
  · rw [Mutation.result_of_ok hw] at ht
    refine hcore (t.sameCore_commitAudit _ _) (fun _ => ?_) ht
    cases c.commit.unchained <;> rfl
  · rwa [Mutation.result_of_error hw] at ht

end Credbound.Memory
