import Credbound.Memory.Frames

/-!
# Memory/AuditLog — what a call does to the audit log

No write touches the log: a call appends its own event, or leaves the log and, unless it panics, the records
(`Call.log_next`), also when a hook rejects the commit and the snapshot is restored.
-/

namespace Credbound.Memory

/-! ## No write touches the log -/

theorem Op.leaves_log (o : Op) : o.mutation.Leaves Store.log := by
  intro commit p
  have h := o.writes commit p
  rcases o with op | op | op | op | op | op
  all_goals cases op <;> first | exact (congrArg Store.log h).trans rfl | rfl

theorem Method.leaves_log {m : Method} {v : Mutation} (hv : m.view = some v) : v.Leaves Store.log := by
  cases m with
  | op o =>
    obtain ⟨⟩ := hv
    exact o.leaves_log
  | recordLoginFailure | useTOTP | consumeRecoveryCode | createWorkspaceDomain =>
    cases hv
    exact fun _ _ => rfl
  | claimEmailIssuance | setAuditFailure => cases hv

/-! ## A call appends its event or none -/

/-- What committing an event does to a log. -/
def AuditLog.commit (log : AuditLog) (event : AuditEvent) (unchained : Bool) : AuditLog :=
  (({ (default : Store) with
    audits := log.audits, auditIDs := log.auditIDs, auditSequence := log.auditSequence,
    auditHead := log.auditHead } : Store).commitAudit event unchained).log

theorem Store.log_commitAudit (s : Store) (event : AuditEvent) (unchained : Bool) :
    (s.commitAudit event unchained).log = s.log.commit event unchained := by
  cases unchained <;> rfl

/-- The second log goes on from the first. -/
structure AuditLog.Extended (log log' : AuditLog) : Prop where
  audits : log.audits <+: log'.audits
  auditIDs : log.auditIDs ⊆ log'.auditIDs
  auditSequence : log.auditSequence ≤ log'.auditSequence

theorem AuditLog.Extended.trans {log log' log'' : AuditLog} (h : log.Extended log') (h' : log'.Extended log'') :
    log.Extended log'' :=
  ⟨h.audits.trans h'.audits, h.auditIDs.trans h'.auditIDs, h.auditSequence.trans h'.auditSequence⟩

theorem AuditLog.extended_commit (log : AuditLog) (event : AuditEvent) (unchained : Bool) :
    log.Extended (log.commit event unchained) := by
  cases unchained with
  | false => exact ⟨List.prefix_append .., Finset.subset_insert .., Int.le_add_one le_rfl⟩
  | true => exact ⟨List.prefix_append .., Finset.subset_insert .., le_rfl⟩

theorem AuditLog.ids_commit (log : AuditLog) (event : AuditEvent) (unchained : Bool) :
    (log.commit event unchained).audits.map AuditEvent.id = log.audits.map AuditEvent.id ++ [event.id]
      ∧ (log.commit event unchained).auditIDs = insert event.id log.auditIDs := by
  have hid : (if event.actorKind = .other "" then { event with actorKind := .user } else event).id = event.id := by
    split <;> rfl
  cases unchained with
  | false => exact ⟨by simp [AuditLog.commit, Store.commitAudit, Store.log, hid], congrArg (insert · _) hid⟩
  | true => exact ⟨by simp [AuditLog.commit, Store.commitAudit, Store.log, hid], congrArg (insert · _) hid⟩

/-- The identifiers of the events are different, and they are those that are noted as used. -/
structure AuditLog.Distinct (log : AuditLog) : Prop where
  nodup : (log.audits.map AuditEvent.id).Nodup
  used : ∀ id, id ∈ log.auditIDs ↔ id ∈ log.audits.map AuditEvent.id

theorem AuditLog.Distinct.commit {log : AuditLog} (h : log.Distinct) {event : AuditEvent}
    (hnew : event.id ∉ log.auditIDs) (unchained : Bool) : (log.commit event unchained).Distinct := by
  obtain ⟨hids, hused⟩ := log.ids_commit event unchained
  constructor
  · rw [hids, List.nodup_append_comm]
    exact List.nodup_cons.mpr ⟨fun hmem => hnew ((h.used _).mpr hmem), h.nodup⟩
  · intro id
    rw [hids, hused, Finset.mem_insert, List.mem_append, List.mem_singleton, h.used, or_comm]

/-- An event that can be appended has an identifier of its own, and the sink does not fail. -/
theorem Store.accepts_of_canAudit {s : Store} {event : AuditEvent} (h : s.canAudit event = .ok ()) :
    s.auditFailure = none ∧ event.id ∉ s.auditIDs := by
  unfold canAudit at h
  split at h
  · cases h
  · obtain ⟨-, -, hnew⟩ := check_bind.mp h
    exact ⟨‹_›, require_eq_ok.mp hnew⟩

/-- **A call leaves the log, and the core of the state unless it panics, or appends its event.** -/
theorem Call.log_next (c : Call) (s : Store) :
    (c.next s).log = s.log ∧ (s.SameCore (c.next s) ∨ (c.run s).1 = .panic)
      ∨ s.canAudit c.commit.audit = .ok ()
        ∧ (c.next s).log = s.log.commit c.commit.audit c.commit.unchained := by
  have h := c.steps s
  unfold Call.next
  revert h
  generalize (c.run s).1 = o, (c.run s).2 = t'
  rintro (⟨_, _, hcore, ⟨hlog, -⟩, -⟩ | ⟨m, p, t, hm, -, hbegins, -, hw⟩ | ⟨m, p, t, hm, -, hbegins, -, hw⟩)
  · exact .inl ⟨hlog, .inl hcore⟩
  all_goals have hleft := (Method.leaves_log hm c.commit p).trans hbegins.log
  · rw [Mutation.result_of_ok hw] at hleft
    exact .inr ⟨hbegins.audit, by rw [Store.log_commitAudit, hleft]⟩
  · rw [Mutation.result_of_error hw] at hleft
    exact .inl ⟨hleft, .inr rfl⟩

/-- **While the sink fails, a call changes neither the log nor a record.** -/
theorem Call.frozen (c : Call) {s : Store} (hfailing : s.auditFailure ≠ none) :
    s.SameCore (c.next s) ∧ (c.next s).log = s.log := by
  have h := c.steps s
  unfold Call.next
  revert h
  generalize (c.run s).1 = o, (c.run s).2 = t'
  rintro (⟨_, _, hcore, ⟨hlog, -⟩, -⟩ | ⟨_, _, _, _, _, hbegins, _, _⟩ | ⟨_, _, _, _, _, hbegins, _, _⟩)
  · exact ⟨hcore, hlog⟩
  all_goals exact absurd (Store.accepts_of_canAudit hbegins.audit).1 hfailing

end Credbound.Memory
