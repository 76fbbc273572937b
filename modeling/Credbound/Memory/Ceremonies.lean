import Credbound.Machinery.SingleUse
import Credbound.Memory.Frames

/-!
# Memory/Ceremonies — the consumed ceremonies as a single-use register

`prepareCommitLocked` is an attempt on the register `ceremonies`, at the time of the commit's audit
event.  No write and no rollback touches the register, so the attempt is all a call does to it.
-/

namespace Credbound.Memory

open Store

theorem Store.liveCeremonies_eq (s : Store) (now : Time) :
    s.liveCeremonies now = SingleUse.live s.ceremonies now := rfl

/-- Finishing a pending commit, either way, leaves the ceremonies. -/
theorem Store.ceremonies_finishCommitLocked (s : Store) (ctx : Context) (commit : Commit)
    (previous : StoreState) : (s.finishCommitLocked ctx commit previous).2.ceremonies = s.ceremonies := by
  unfold Store.finishCommitLocked
  split
  · rfl
  · cases commit.unchained <;> rfl

variable {write : Store → Except Store Store} {ceremony : CeremonyConsumption} {commit : Commit}

/-- Once prepared, a call leaves the ceremonies as preparing left them. -/
theorem Store.ceremonies_finish_prepareAndWrite {p : Store} {ctx : Context}
    (hw : ∀ q, (reached (write q)).ceremonies = q.ceremonies) :
    ((p.prepareAndWrite commit write ()).finish ctx commit).2.ceremonies
      = (p.prepareCommitLocked commit).2.ceremonies := by
  unfold Store.prepareAndWrite
  obtain ⟨x, q⟩ := p.prepareCommitLocked commit
  cases x with
  | error e => rfl
  | ok previous =>
    dsimp only
    have hq := hw q
    cases hwq : write q with
    | error t =>
      rw [hwq] at hq
      exact hq
    | ok t =>
      rw [hwq] at hq
      have hfinish := t.ceremonies_finishCommitLocked ctx commit previous
      revert hfinish
      simp only [Attempt.finish]
      obtain ⟨o, u⟩ := t.finishCommitLocked ctx commit previous
      intro hfinish
      cases o <;> exact hfinish.trans hq

/-- A commit without a ceremony leaves them alone. -/
theorem Store.prepareCommitLocked_of_none (p : Store) (h : commit.ceremony = none) :
    (p.prepareCommitLocked commit).2 = p := by
  unfold Store.prepareCommitLocked
  rw [h]
  split <;> rfl

/-- The view of every method leaves the ceremonies. -/
theorem Method.leaves_ceremonies {m : Method} {v : Mutation} (hv : m.view = some v) :
    v.Leaves fun s => s.ceremonies := by
  cases m with
  | op o =>
    obtain ⟨⟩ := hv
    exact o.leaves_ceremonies
  | recordLoginFailure | useTOTP | consumeRecoveryCode | createWorkspaceDomain =>
    cases hv
    exact fun _ _ => rfl
  | claimEmailIssuance | setAuditFailure => cases hv

/-- **A call without a ceremony leaves the ceremonies alone.** -/
theorem Call.ceremonies_of_none {c : Call} (h : c.commit.ceremony = none) (s : Store) :
    (c.next s).ceremonies = s.ceremonies := by
  unfold Call.next Call.run Call.attempt
  obtain ⟨o, t, ha, -, ht, -⟩ | ⟨v, hv, -, -, ha⟩ := c.method.attempt_cases c.ctx c.commit s
  · rw [ha]
    exact ht
  · rw [ha, Store.ceremonies_finish_prepareAndWrite (Method.leaves_ceremonies hv c.commit),
      Store.prepareCommitLocked_of_none _ h]
    unfold Method.arrival
    split <;> rfl

/-- What preparing a commit with a ceremony does to the ceremonies, and when it can be accepted. -/
theorem Store.prepareCommitLocked_of_some (p : Store) (h : commit.ceremony = some ceremony) :
    ((∃ e, (p.prepareCommitLocked commit).1 = .error e)
        ∧ ((p.prepareCommitLocked commit).2.ceremonies = p.ceremonies
          ∨ (p.prepareCommitLocked commit).2.ceremonies = p.liveCeremonies commit.audit.occurredAt))
      ∨ ceremony.id ∉ p.liveCeremonies commit.audit.occurredAt ∧ (p.prepareCommitLocked commit).2.ceremonies
          = (p.liveCeremonies commit.audit.occurredAt).set ceremony.id ceremony.expiresAt := by
  unfold Store.prepareCommitLocked
  rw [h]
  cases p.canAudit commit.audit with
  | error e => exact .inl ⟨⟨e, rfl⟩, .inl rfl⟩
  | ok _ =>
    by_cases hid : ceremony.id ∈ p.liveCeremonies commit.audit.occurredAt
    · simp only [hid, if_true]
      exact .inl ⟨⟨_, rfl⟩, .inr trivial⟩
    · simp only [hid, if_false]
      exact .inr ⟨not_false, trivial⟩

/-- A commit refused when it is prepared does not succeed. -/
theorem Store.finish_of_refused {p : Store} {ctx : Context} {e : Err}
    (h : (p.prepareCommitLocked commit).1 = .error e) :
    ((p.prepareAndWrite commit write ()).finish ctx commit).1 = .err e := by
  unfold Store.prepareAndWrite
  revert h
  obtain ⟨x, q⟩ := p.prepareCommitLocked commit
  rintro rfl
  rfl

/-- A method that got to its hook had its commit prepared. -/
theorem Store.prepareCommitLocked_of_pending {p t : Store} {previous : StoreState}
    (h : p.prepareAndWrite commit write () = .pending () previous t) :
    ∃ q, p.prepareCommitLocked commit = (.ok previous, q) ∧ write q = .ok t := by
  revert h
  unfold Store.prepareAndWrite
  obtain ⟨e | previous', q⟩ := p.prepareCommitLocked commit
  · exact fun h => by cases h
  · dsimp only
    cases hw : write q with
    | error u => exact fun h => by cases h
    | ok u =>
      intro h
      cases h
      exact ⟨q, rfl, hw⟩

/-- **A call that got to its hook has recorded its ceremony**, which was not there before. -/
theorem Call.ceremonies_of_pending {c : Call} {s t : Store} {previous : StoreState}
    (hc : c.commit.ceremony = some ceremony) (h : c.attempt s = .pending () previous t) :
    ceremony.id ∉ s.liveCeremonies c.commit.audit.occurredAt ∧ t.ceremonies
        = (s.liveCeremonies c.commit.audit.occurredAt).set ceremony.id ceremony.expiresAt := by
  obtain ⟨o, t', ha, -⟩ | ⟨v, hv, -, -, ha⟩ := c.method.attempt_cases c.ctx c.commit s
  · rw [Call.attempt, ha] at h
    cases h
  · rw [Call.attempt, ha] at h
    obtain ⟨q, hq, hw⟩ := Store.prepareCommitLocked_of_pending h
    have harrival : (c.method.arrival c.ctx s).liveCeremonies c.commit.audit.occurredAt
        = s.liveCeremonies c.commit.audit.occurredAt := by
      unfold Method.arrival
      split <;> rfl
    have hleaves : t.ceremonies = q.ceremonies := by
      have hq := Method.leaves_ceremonies hv c.commit q
      rwa [Mutation.result_of_ok hw] at hq
    rcases (c.method.arrival c.ctx s).prepareCommitLocked_of_some hc with ⟨⟨e, he⟩, -⟩ | ⟨hfree, hset⟩
    · rw [hq] at he
      cases he
    · rw [hq, harrival] at hset
      exact ⟨harrival ▸ hfree, hleaves.trans hset⟩

/-- **A call with a ceremony is one attempt on the register**: it does not reach it, or it is refused,
or the ceremony was not there and is recorded; it can succeed in the last case only. -/
theorem Call.ceremonies_of_some (o : Op) (commit : Commit) (ctx : Context) (h : commit.ceremony = some ceremony)
    (s : Store) :
    ((Call.run ⟨.op o, commit, ctx⟩ s).1 ≠ .ok ()
        ∧ ((Call.next s ⟨.op o, commit, ctx⟩).ceremonies = s.ceremonies
          ∨ (Call.next s ⟨.op o, commit, ctx⟩).ceremonies = s.liveCeremonies commit.audit.occurredAt))
      ∨ ceremony.id ∉ s.liveCeremonies commit.audit.occurredAt ∧ (Call.next s ⟨.op o, commit, ctx⟩).ceremonies
          = (s.liveCeremonies commit.audit.occurredAt).set ceremony.id ceremony.expiresAt := by
  unfold Call.next Call.run Call.attempt Method.attempt
  obtain ⟨e, ha⟩ | ⟨-, -, ha⟩ := o.mutation.attempt_cases ctx commit s
  · dsimp only
    rw [ha]
    exact .inl ⟨by simp [Attempt.finish], .inl rfl⟩
  · dsimp only
    rw [ha, Store.ceremonies_finish_prepareAndWrite (o.leaves_ceremonies commit)]
    rcases s.prepareCommitLocked_of_some h with ⟨⟨e, he⟩, hcer⟩ | hfree
    · exact .inl ⟨by simp [Store.finish_of_refused he], hcer⟩
    · exact .inr hfree

end Credbound.Memory
