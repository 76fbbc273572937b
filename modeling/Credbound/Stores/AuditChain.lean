import Credbound.Manager.AuditChain
import Credbound.Memory.AuditLog
import Credbound.Stores.Offboarding

/-!
# Stores/AuditChain — the audit chain of the memory store, and its verification

Every call continues the chain (`continues_next`), so the events after an earlier head verify up to the later one
(`verifyEvents_after`).

* `verify_tampered_iff` — with the head left alone, another list of events is accepted exactly if it agrees with the
  genuine one event by event.
* `false_alarm_iff` — the events and the head are two reads; an honest log is reported as compromised exactly if an
  event is chained between the two.
-/

namespace Credbound.Stores

open Procedure
open Manager Memory Accounts

/-! ## The chain grows -/

/-- The events of the chain. -/
def chained (s : Store) : List AuditEvent := s.audits.filter fun event => 0 < event.sequence

/-- An event that is not chained comes without a number, as `newAudit` makes it. -/
def Honest (c : Call) : Prop := c.commit.unchained = true → c.commit.audit.sequence ≤ 0

/-- The chain of `t` goes on from the one of `s`. -/
def Continues (s t : Store) : Prop :=
  ∃ more, chained t = chained s ++ more
    ∧ verifyEvents (s.auditHead, s.auditSequence) more = .ok (t.auditHead, t.auditSequence)

theorem Continues.refl (s : Store) : Continues s s := ⟨[], (List.append_nil _).symm, rfl⟩

theorem Continues.trans {s t u : Store} (h : Continues s t) (h' : Continues t u) : Continues s u := by
  obtain ⟨more, hmore, hverify⟩ := h
  obtain ⟨more', hmore', hverify'⟩ := h'
  exact ⟨more ++ more', by rw [hmore', hmore, List.append_assoc], (verifyEvents_append hverify).trans hverify'⟩

theorem Continues.sequence_le {s t : Store} (h : Continues s t) : s.auditSequence ≤ t.auditSequence := by
  obtain ⟨more, -, hverify⟩ := h
  have hcount := sequence_of_verifyEvents hverify
  simp only at hcount
  omega

/-- A chain that has gone on without a new event has the same head. -/
theorem Continues.head_eq {s t : Store} (h : Continues s t) (hsequence : t.auditSequence = s.auditSequence) :
    t.auditHead = s.auditHead := by
  obtain ⟨more, -, hverify⟩ := h
  have hcount := sequence_of_verifyEvents hverify
  obtain rfl : more = [] := List.length_eq_zero_iff.mp (by simp only at hcount; omega)
  exact (congrArg Prod.fst (Except.ok.inj hverify)).symm

theorem continues_of_log {s t : Store} (h : t.log = s.log) : Continues s t := by
  have haudits : t.audits = s.audits := congrArg AuditLog.audits h
  have hsequence : t.auditSequence = s.auditSequence := congrArg AuditLog.auditSequence h
  have hhead : t.auditHead = s.auditHead := congrArg AuditLog.auditHead h
  refine ⟨[], ?_, ?_⟩
  · rw [chained, chained, haudits, List.append_nil]
  · rw [hsequence, hhead]
    rfl

/-- An event as it is chained to the head. -/
def link (s : Store) (event : AuditEvent) : AuditEvent :=
  let event := if event.actorKind = .other "" then { event with actorKind := .user } else event
  let event := { event with sequence := s.auditSequence + 1, previousHash := s.auditHead }
  { event with hash := computeAuditHash event.previousHash event }

variable {checkpoint : AuditChainCheckpoint} {ctx : Context} {s : Store}

/-- **Committing an event extends the chain by it, or leaves it.** -/
theorem continues_commitAudit (hs : 0 ≤ s.auditSequence) {event : AuditEvent} {unchained : Bool}
    (h : unchained = true → event.sequence ≤ 0) : Continues s (s.commitAudit event unchained) := by
  cases unchained with
  | true =>
    -- the event that is appended keeps its number, so it is not among those of the chain
    refine ⟨[], ?_, rfl⟩
    have hnumber : (if event.actorKind = .other "" then { event with actorKind := .user } else event).sequence
        = event.sequence := by
      split <;> rfl
    have hout := not_lt.mpr (h rfl)
    rw [chained, Store.commitAudit]
    simp only [if_true, List.filter_append, List.filter_cons, hnumber, hout, List.filter_nil, decide_false,
      Bool.false_eq_true, if_false]
    rfl
  | false =>
    have hin : decide (0 < (link s event).sequence) = true :=
      decide_eq_true (show 0 < s.auditSequence + 1 by omega)
    refine ⟨[link s event], ?_, verifyEvents_cons.mpr ⟨rfl, rfl, rfl, rfl⟩⟩
    show (s.audits ++ [link s event]).filter _ = _
    rw [List.filter_append, List.filter_cons_of_pos (p := fun event : AuditEvent => decide (0 < event.sequence)) hin]
    rfl

theorem continues_next {c : Call} (h : Honest c) (hs : 0 ≤ s.auditSequence) : Continues s (c.next s) := by
  obtain ⟨hlog, -⟩ | ⟨-, hlog⟩ := c.log_next s
  · exact continues_of_log hlog
  · rw [← Store.log_commitAudit] at hlog
    exact (continues_commitAudit hs h).trans (continues_of_log hlog)

/-- **Honest calls continue the chain.** -/
theorem continues_run {calls : List Call} (h : ∀ c ∈ calls, Honest c) (hs : 0 ≤ s.auditSequence) :
    Continues s (Run.run Call.next s calls) := by
  induction calls generalizing s with
  | nil => exact .refl s
  | cons c calls ih =>
    have hnext := continues_next (h c List.mem_cons_self) hs
    exact hnext.trans (ih (fun c hc => h c (List.mem_cons_of_mem _ hc)) (hs.trans hnext.sequence_le))

/-! ## The events after a head -/

/-- The store's chain verifies from the first event on. -/
def Intact (s : Store) : Prop :=
  verifyEvents (auditChainGenesis, 0) (chained s) = .ok (s.auditHead, s.auditSequence)

theorem Intact.nonneg (h : Intact s) : 0 ≤ s.auditSequence := by
  have hcount := sequence_of_verifyEvents h
  simp only at hcount
  omega

theorem Intact.continues {s t : Store} (h : Intact s) (hmore : Continues s t) : Intact t := by
  obtain ⟨more, hchained, hverify⟩ := hmore
  rw [Intact, hchained]
  exact (verifyEvents_append h).trans hverify

theorem intact_new : Intact Store.new := rfl

theorem intact_after {history : List Call} (h : ∀ c ∈ history, Honest c) : Intact (Store.after history) :=
  intact_new.continues (continues_run h intact_new.nonneg)

/-- **The events that the store yields after an earlier head** are those that were chained since, and they verify. -/
theorem verifyEvents_after {s t : Store} (hs : Intact s) (h : Continues s t) (hctx : ctx.err = none) :
    ∃ more, t.answer ctx (.chainedAuditEvents s.auditSequence) = .ok more
      ∧ verifyEvents (s.auditHead, s.auditSequence) more = .ok (t.auditHead, t.auditSequence) := by
  obtain ⟨more, hchained, hverify⟩ := h
  refine ⟨more, ?_, hverify⟩
  have hnonneg := hs.nonneg
  have hfilter : t.audits.filter (fun v => decide (s.auditSequence < v.sequence)) = more := by
    have hpositive : t.audits.filter (fun v => decide (s.auditSequence < v.sequence))
        = (chained t).filter fun v => s.auditSequence < v.sequence := by
      rw [chained, List.filter_filter]
      refine List.filter_congr fun v _ => ?_
      by_cases hv : s.auditSequence < v.sequence
      · simp [hv, lt_of_le_of_lt hnonneg hv]
      · simp [hv]
    have hbefore : (chained s).filter (fun v => decide (s.auditSequence < v.sequence)) = [] :=
      List.filter_eq_nil_iff.mpr fun v hv hlate =>
        absurd (of_decide_eq_true hlate) (not_lt.mpr ((ordered_of_verifyEvents hs).1 v hv).2)
    have hafter : more.filter (fun v => decide (s.auditSequence < v.sequence)) = more :=
      List.filter_eq_self.mpr fun v hv => decide_eq_true ((ordered_of_verifyEvents hverify).1 v hv).1
    rw [hpositive, hchained, List.filter_append, hbefore, hafter, List.nil_append]
  simp only [Store.answer, guarded, hctx, hfilter]
  rw [List.Pairwise.insertionSort_eq (ordered_of_verifyEvents hverify).2]

/-! ## Checkpoints -/

/-- The empty checkpoint, or the head of an earlier state that has chained an event. -/
def Genuine (history : List Call) (checkpoint : AuditChainCheckpoint) : Prop :=
  checkpoint = {} ∨ ∃ earlier later, history = earlier ++ later ∧ 0 < (Store.after earlier).auditSequence
    ∧ checkpoint = ⟨(Store.after earlier).auditSequence, (Store.after earlier).auditHead⟩

/-- A checkpoint that `VerifyAuditChainFrom` takes. -/
def Valid (checkpoint : AuditChainCheckpoint) : Prop :=
  ¬ (checkpoint.sequence < 0 ∨ ¬ (checkpoint.sequence = 0 ↔ checkpoint.hash.length = 0))

theorem length_head {last last' : Bytes × Int} {events : List AuditEvent} (hlength : last.1.length = 32)
    (h : verifyEvents last events = .ok last') : last'.1.length = 32 := by
  induction events generalizing last with
  | nil =>
    obtain ⟨⟩ := h
    exact hlength
  | cons event events ih =>
    obtain ⟨-, -, hhash, hrest⟩ := verifyEvents_cons.mp h
    refine ih ?_ hrest
    rw [hhash, computeAuditHash, Sha256.length_sum]

theorem Intact.length_head (h : Intact s) : s.auditHead.length = 32 :=
  Stores.length_head (List.length_replicate ..) h

/-- **A genuine checkpoint is the head of an intact chain that the store continues.** -/
theorem Genuine.starts {history : List Call} (hhonest : ∀ c ∈ history, Honest c) (h : Genuine history checkpoint) :
    ∃ s, Intact s ∧ Continues s (Store.after history) ∧ Valid checkpoint
      ∧ checkpoint.start = (s.auditHead, s.auditSequence) := by
  obtain rfl | ⟨earlier, later, rfl, hpositive, rfl⟩ := h
  · exact ⟨Store.new, intact_new, continues_run hhonest intact_new.nonneg, by simp [Valid], rfl⟩
  · have hearlier := intact_after fun c hc => hhonest c (List.mem_append_left _ hc)
    refine ⟨Store.after earlier, hearlier, ?_, ?_, if_pos hpositive⟩
    · rw [Store.after, Store.after, Run.run_append]
      exact continues_run (fun c hc => hhonest c (List.mem_append_right _ hc)) hearlier.nonneg
    · have hlength := hearlier.length_head
      simp only [Valid, hlength]
      omega

/-! ## Events that were tampered with -/

/-- The memory store, yielding other events in place of the chained ones. -/
def tampered (events : List AuditEvent) : Program.Handler Access Store
  | _, .read ctx (.chainedAuditEvents _), s => ((guarded ctx (.ok events)).toExcept, s)
  | _, e, s => access e s

/-- The verification succeeds on the events, with no other call in between. -/
def Verifies (ctx : Context) (checkpoint : AuditChainCheckpoint) (events : List AuditEvent) (s : Store) : Prop :=
  ∃ report, ((verifyChain ctx checkpoint).program.exec (tampered events) s).1 = .ok report

theorem verifies_iff (hctx : ctx.err = none) (hvalid : Valid checkpoint) {events : List AuditEvent} :
    Verifies ctx checkpoint events s ↔ verifyEvents checkpoint.start events = .ok (s.auditHead, s.auditSequence) := by
  have hevents : tampered events (.read ctx (.chainedAuditEvents checkpoint.start.2)) s = (.ok events, s) := by
    simp only [tampered, guarded, hctx]
    rfl
  have hhead : tampered events (.read ctx .auditChainHead) s = (.ok (s.auditSequence, s.auditHead), s) := by
    simp only [tampered, access, Store.answer, guarded, hctx]
    rfl
  simp only [Verifies, exec_ok_iff, verifyChain, runs_bind_ok, runs_demand_ok, Routine.read,
    runs_call, runs_lift, runs_pure, Except.ok.injEq]
  constructor
  · rintro ⟨_, _, _, _, ⟨-, rfl⟩, read, _, ⟨_, rfl, -, hread, rfl⟩, last, _, ⟨hverify, rfl⟩, head, _,
      ⟨_, rfl, -, hanswer, rfl⟩, _, _, ⟨⟨hsequence, hhash⟩, rfl⟩, -⟩
    rw [hevents] at hread
    obtain ⟨⟩ := hread
    rw [hhead] at hanswer
    obtain ⟨⟩ := hanswer
    rw [← hverify]
    exact congrArg Except.ok (Prod.ext hhash.symm hsequence.symm)
  · intro hverify
    refine ⟨_, _, (), s, ⟨hvalid, rfl⟩, events, s, ⟨s, rfl, trivial, ?_, ?_⟩, _, s, ⟨hverify.symm, rfl⟩, _, s,
      ⟨s, rfl, trivial, congrArg Prod.fst hhead, congrArg Prod.snd hhead⟩, (), s, ⟨⟨rfl, rfl⟩, rfl⟩, rfl, rfl⟩
    · rw [hevents]
    · rw [hevents]

/-- **What the verification accepts.**  Give it, for the events after a genuine checkpoint, any list in place of the
genuine one, with the head left alone and no two different hash inputs in play that collide.  It succeeds exactly if
the list agrees with the genuine one event by event, in the hashed fields, the number and the two stored hashes. -/
theorem verify_tampered_iff {history : List Call} (hhonest : ∀ c ∈ history, Honest c) {ctx : Context}
    (hctx : ctx.err = none) {checkpoint : AuditChainCheckpoint} (hcheckpoint : Genuine history checkpoint)
    {events genuine : List AuditEvent}
    (hgenuine : (Store.after history).answer ctx (.chainedAuditEvents checkpoint.start.2) = .ok genuine)
    (hcollision : ∀ x ∈ messages checkpoint.start.1 events, ∀ y ∈ messages checkpoint.start.1 genuine,
      Sha256.sum x = Sha256.sum y → x = y) :
    Verifies ctx checkpoint events (Store.after history) ↔ List.Forall₂ SameEvent events genuine := by
  obtain ⟨s, hs, hmore, hvalid, hstart⟩ := hcheckpoint.starts hhonest
  obtain ⟨more, hanswer, hverify⟩ := verifyEvents_after hs hmore hctx
  rw [hstart] at hgenuine hcollision
  obtain rfl : more = genuine := Outcome.ok.inj (hanswer.symm.trans hgenuine)
  rw [verifies_iff hctx hvalid, hstart]
  constructor
  · intro haccepted
    exact same_of_verifyEvents haccepted hverify (fields_of_verifyEvents hs.length_head haccepted hverify hcollision)
  · intro hsame
    rw [verifyEvents_congr hsame]
    exact hverify

/-- A call that appends an event. -/
def appendCall : Call := tenantCall (.workspace .appendAudit) 10

theorem honest_appendCall : Honest appendCall := nofun

/-- The event of a log with one. -/
def onlyEvent : AuditEvent := link Store.new appendCall.commit.audit

theorem answer_one : (Store.after [appendCall]).answer {} (.chainedAuditEvents 0) = .ok [onlyEvent] := by
  rfl

/-- The log of one event is accepted as it is, and not without the event. -/
theorem verify_tampered_one :
    Verifies {} {} [onlyEvent] (Store.after [appendCall]) ∧ ¬ Verifies {} {} [] (Store.after [appendCall]) := by
  have hhonest : ∀ c ∈ [appendCall], Honest c := by
    intro c hc
    obtain rfl := List.mem_singleton.mp hc
    exact honest_appendCall
  constructor
  · refine (verify_tampered_iff hhonest rfl (.inl rfl) answer_one fun x hx y hy _ => ?_).mpr
      (.cons ⟨⟨rfl, rfl, rfl, rfl, rfl, rfl, rfl, rfl, rfl, rfl, rfl, rfl, rfl⟩, rfl, rfl⟩ .nil)
    rw [List.mem_singleton.mp hx, List.mem_singleton.mp hy]
  · intro haccepted
    cases (verify_tampered_iff hhonest rfl (.inl rfl) answer_one
      fun x hx => absurd hx List.not_mem_nil).mp haccepted

/-- An event that agrees in every hashed field is refused for another stored hash, and so is the head of the empty
log as a checkpoint. -/
theorem same_fields_refused :
    SameHashed { onlyEvent with hash := [] } onlyEvent
      ∧ ¬ Verifies {} {} [{ onlyEvent with hash := [] }] (Store.after [appendCall])
      ∧ ¬ Verifies {} ⟨(Store.after []).auditSequence, (Store.after []).auditHead⟩ [onlyEvent]
        (Store.after [appendCall]) := by
  refine ⟨⟨rfl, rfl, rfl, rfl, rfl, rfl, rfl, rfl, rfl, rfl, rfl, rfl, rfl⟩, ?_, ?_⟩
  · intro haccepted
    obtain ⟨-, -, hhash, -⟩ := verifyEvents_cons.mp ((verifies_iff rfl (by simp [Valid])).mp haccepted)
    have hlength := congrArg List.length hhash
    rw [computeAuditHash, Sha256.length_sum] at hlength
    cases hlength
  · rintro ⟨report, h⟩
    cases h

/-! ## A verification among others -/

/-- The access reads the chained events. -/
def streams : ⦃β : Type⦄ → Access β → Bool
  | _, .read _ (.chainedAuditEvents _) => true
  | _, _ => false

/-- The memory store, noting the number of the last chained event when the events are read. -/
def noted : Program.Handler Access (Store × Option Int) := fun _ e s =>
  ((access e s.1).1, (access e s.1).2, if streams e then some s.1.auditSequence else s.2)

/-- Honest calls of others, between two accesses of the verification. -/
def Others (s t : Store × Option Int) : Prop :=
  t.2 = s.2 ∧ ∃ calls, (∀ c ∈ calls, Honest c) ∧ t.1 = Run.run Call.next s.1 calls

theorem Others.refl (s : Store × Option Int) : Others s s := ⟨rfl, [], fun _ hc => absurd hc List.not_mem_nil, rfl⟩

theorem Others.continues {s t : Store × Option Int} (h : Others s t) (hs : Intact s.1) : Continues s.1 t.1 := by
  obtain ⟨-, calls, hcalls, ht⟩ := h
  rw [ht]
  exact continues_run hcalls hs.nonneg

theorem answer_unalarming (hctx : ctx.err ≠ some .auditCompromised) {α : Type} (found : Option α) :
    (guarded ctx (orNotFound found)).toExcept ≠ .error .auditCompromised := by
  unfold guarded
  split
  · rename_i e he
    intro h
    exact hctx (he.trans (congrArg some (Except.error.inj h)))
  · intro h
    cases found <;> cases h

theorem canAudit_unalarming (s : Store) (event : AuditEvent) : s.canAudit event ≠ .error .auditCompromised := by
  intro h
  unfold Store.canAudit at h
  cases hfailure : s.auditFailure with
  | some cause =>
    rw [hfailure] at h
    cases h
  | none =>
    rw [hfailure] at h
    obtain hfirst | ⟨_, -, hrest⟩ := check_bind_error.mp h
    · cases (require_eq_error.mp hfirst).2
    · cases (require_eq_error.mp hrest).2

theorem prepareCommitLocked_unalarming (s : Store) (commit : Commit) :
    (s.prepareCommitLocked commit).1 ≠ .error .auditCompromised := by
  unfold Store.prepareCommitLocked
  cases haudit : s.canAudit commit.audit with
  | error e =>
    intro h
    exact canAudit_unalarming s commit.audit (haudit.trans (congrArg Except.error (Except.error.inj h)))
  | ok u =>
    cases commit.ceremony with
    | none => exact nofun
    | some ceremony =>
      dsimp only
      split <;> exact nofun

theorem appendAudit_unalarming (hctx : ctx.err ≠ some .auditCompromised) {commit : Commit}
    (hhook : commit.transactional = none) (s : Store) :
    (access (.write ctx (.workspace .appendAudit) commit) s).1 ≠ .error .auditCompromised := by
  intro h
  have hquiet := prepareCommitLocked_unalarming s commit
  simp only [access, settle, Op.mutation, WorkspaceOp.mutation, Mutation.attempt, appendAudit] at h
  cases hdone : ctx.err with
  | some e =>
    rw [hdone] at h
    exact hctx (hdone.trans (congrArg some (Except.error.inj h)))
  | none =>
    simp only [hdone, Store.prepareAndWrite] at h
    cases hprepare : s.prepareCommitLocked commit with
    | mk answer prepared =>
      rw [hprepare] at h hquiet
      cases answer with
      | error e => exact hquiet (congrArg Except.error (Except.error.inj h))
      | ok previous =>
        simp only [Attempt.finish, Store.finishCommitLocked, Commit.hookErr, hhook] at h
        cases h

theorem noted_unalarming (hctx : ctx.err ≠ some .auditCompromised) ⦃β : Type⦄ (e : Access β) (s : Store × Option Int) :
    Unalarming ctx e (noted e s).1 := by
  cases e with
  | read ctx' q =>
    cases q with
    | userByID id | instanceAdministrator id =>
      rintro rfl
      exact answer_unalarming hctx _
    | _ => trivial
  | write ctx' op commit =>
    cases op with
    | workspace op =>
      cases op with
      | appendAudit =>
        rintro rfl hhook
        exact appendAudit_unalarming hctx hhook s.1
      | _ => trivial
    | _ => trivial
  | _ => trivial

theorem noted_admitting ⦃β : Type⦄ {e : Access β} (he : Admitting ctx e) (s : Store × Option Int) :
    Others s (noted e s).2 := by
  have hstate : (noted e s).2.1 = Run.run Call.next s.1 (accessCalls e) := access_run e s.1
  cases he with
  | user id | administrator id => exact ⟨rfl, _, fun c hc => absurd hc List.not_mem_nil, hstate⟩
  | audit event =>
    refine ⟨rfl, _, ?_, hstate⟩
    intro c hc hunchained
    obtain rfl := List.mem_singleton.mp hc
    cases hunchained

/-- Once the actor is authorized, the events are read, and the head later: the two are compared. -/
theorem runs_verifyChain_iff (hdone : ctx.err = none) (hvalid : Valid checkpoint) (hs : Intact s)
    (hstart : checkpoint.start = (s.auditHead, s.auditSequence)) {u t : Store × Option Int} (hu : Continues s u.1)
    {r : Except Err AuditChainReport} :
    (verifyChain ctx checkpoint).Runs noted Others (fun _ _ _ => True) u r t
      ↔ ∃ v, Others u v ∧ Others (v.1, some v.1.auditSequence) t
        ∧ r = if t.1.auditSequence = v.1.auditSequence ∧ t.1.auditHead = v.1.auditHead
          then .ok ⟨v.1.auditSequence, t.1.auditSequence, t.1.auditHead⟩ else .error .auditCompromised := by
  rw [Valid] at hvalid
  rw [verifyChain, demand, if_pos hvalid, hstart]
  refine runs_call_bind.trans (exists_congr fun v => and_congr_right fun hothers => ?_)
  obtain ⟨more, hmore, hverify⟩ := verifyEvents_after hs (hu.trans (hothers.continues (hs.continues hu))) hdone
  have hevents : noted (.read ctx (.chainedAuditEvents s.auditSequence)) v
      = (.ok more, v.1, some v.1.auditSequence) := by
    rw [noted, access, hmore]
    rfl
  have hhead : ∀ w, noted (.read ctx .auditChainHead) w = (.ok (w.1.auditSequence, w.1.auditHead), w) := by
    intro w
    simp only [noted, access, Store.answer, guarded, hdone]
    rfl
  simp only [true_and, hevents, hverify]
  refine runs_call_bind.trans ?_
  simp only [true_and, hhead]
  constructor
  · rintro ⟨w, hlater, hcompare⟩
    rw [demand] at hcompare
    split_ifs at hcompare with hsame
    · obtain ⟨rfl, rfl⟩ := runs_pure.mp hcompare
      exact ⟨hlater, (if_pos hsame).symm⟩
    · obtain ⟨rfl, rfl⟩ := runs_fail.mp hcompare
      exact ⟨hlater, (if_neg hsame).symm⟩
  · rintro ⟨hlater, rfl⟩
    refine ⟨t, hlater, ?_⟩
    rw [demand]
    split_ifs
    · exact runs_pure.mpr ⟨rfl, rfl⟩
    · exact runs_fail.mpr ⟨rfl, rfl⟩

/-- The alarm is raised exactly if an event is chained between the two reads. -/
theorem alarm_verifyChain_iff (hctx : ctx.err ≠ some .auditCompromised) (hvalid : Valid checkpoint) (hs : Intact s)
    (hstart : checkpoint.start = (s.auditHead, s.auditSequence)) {u t : Store × Option Int} (hu : Continues s u.1)
    {r : Except Err AuditChainReport}
    (hrun : (verifyChain ctx checkpoint).Runs noted Others (fun _ _ _ => True) u r t) :
    r = .error .auditCompromised ↔ ∃ n, t.2 = some n ∧ t.1.auditSequence ≠ n := by
  cases hdone : ctx.err with
  | some e =>
    -- the first read fails with the error of the context
    rw [Valid] at hvalid
    rw [verifyChain, demand, if_pos hvalid, hstart] at hrun
    obtain ⟨v, -, -, hfail⟩ := runs_call_bind.mp hrun
    simp only [noted, access, Store.answer, guarded, hdone] at hfail
    obtain ⟨rfl, rfl⟩ := runs_fail.mp hfail
    refine iff_of_false (fun h => hctx (hdone.trans (congrArg some (Except.error.inj h)))) ?_
    rintro ⟨n, hn, hne⟩
    exact hne (Option.some.inj hn)
  | none =>
    obtain ⟨v, hothers, hlater, rfl⟩ := (runs_verifyChain_iff hdone hvalid hs hstart hu).mp hrun
    have hv := hu.trans (hothers.continues (hs.continues hu))
    have ht : Continues v.1 t.1 := hlater.continues (hs.continues hv)
    have hnoted : t.2 = some v.1.auditSequence := hlater.1
    split_ifs with hsame
    · refine iff_of_false (fun h => by cases h) ?_
      rintro ⟨n, hn, hne⟩
      exact hne (hsame.1.trans (Option.mem_unique hnoted hn))
    · exact iff_of_true rfl ⟨_, hnoted, fun hsequence => hsame ⟨hsequence, ht.head_eq hsequence⟩⟩

/-- Until the events are read the chain goes on and nothing is noted. -/
theorem continues_authorizeAdmin (hctx : ctx.err ≠ some .auditCompromised) {m : Accounts} {io : AccountSupply}
    (hids : io.newID 0 ≠ .error .auditCompromised) {actor : Authentication} {permission : String} (hs : Intact s)
    {u v : Store × Option Int} (hu : Continues s u.1) (hnone : u.2 = none) {r : Except Err Unit}
    (hrun : (m.authorizeAdmin ctx io actor permission).Runs noted Others (fun _ _ _ => True) u r v) :
    Continues s v.1 ∧ v.2 = none := by
  have hstep : ∀ u v, Others u v → Continues s u.1 ∧ u.2 = none → Continues s v.1 ∧ v.2 = none := fun u v hothers hu =>
    ⟨hu.1.trans (hothers.continues (hs.continues hu.1)), hothers.1.trans hu.2⟩
  exact Program.Ensures.invariant (I := fun u => Continues s u.1 ∧ u.2 = none) (silent_authorizeAdmin hids)
    (fun β e u _ => noted_unalarming hctx e u) hrun hstep (fun β e u he _ => hstep u _ (noted_admitting he u)) ⟨hu, hnone⟩

/-- **When the verification raises a false alarm.**  The events and the head of an honest log are read from a genuine
checkpoint on, in two accesses with honest calls before, between and after.  It reports a compromised log exactly if
an event was chained between the two. -/
theorem false_alarm_iff {history : List Call} (hhonest : ∀ c ∈ history, Honest c) {ctx : Context}
    (hctx : ctx.err ≠ some .auditCompromised) {m : Accounts} {io : AccountSupply}
    (hids : io.newID 0 ≠ .error .auditCompromised) {actor : Authentication} {checkpoint : AuditChainCheckpoint}
    (hcheckpoint : Genuine history checkpoint) {r : Except Err AuditChainReport} {t : Store × Option Int}
    (hrun : (verifyAuditChainFrom m ctx io actor checkpoint).Runs noted Others (fun _ _ _ => True)
      (Store.after history, none) r t) :
    r = .error .auditCompromised ↔ ∃ n, t.2 = some n ∧ t.1.auditSequence ≠ n := by
  obtain ⟨s, hs, hmore, hvalid, hstart⟩ := hcheckpoint.starts hhonest
  obtain ⟨e, rfl, hrefused⟩ | ⟨_, u, hadmit, hchain⟩ := runs_bind.mp hrun
  · have hquiet : (.error e : Except Err Unit) ≠ .error .auditCompromised :=
      Program.Ensures.of_runs (P := fun r : Except Err Unit => r ≠ .error .auditCompromised)
        (silent_authorizeAdmin hids) (fun β e u _ => noted_unalarming hctx e u) hrefused
    refine iff_of_false (fun h => hquiet (congrArg Except.error (Except.error.inj h))) ?_
    rintro ⟨n, hn, -⟩
    cases (continues_authorizeAdmin hctx hids hs hmore rfl hrefused).2.symm.trans hn
  · exact alarm_verifyChain_iff hctx hvalid hs hstart (continues_authorizeAdmin hctx hids hs hmore rfl hadmit).1 hchain

/-- `VerifyAuditChain` of the instance's administrator. -/
def tenantVerification : Routine AuditChainReport :=
  verifyAuditChainFrom tenantAccounts {} (tenantAccountSupply 700) tenantAdministrator {}

/-- What the authorization of the administrator answers and leaves. -/
def tenantAdmission : Except Err Unit × Store × Option Int :=
  (authorizeAdmin tenantAccounts {} (tenantAccountSupply 700) tenantAdministrator "admin.audit.read").program.exec noted
    (Store.after tenantCalls, none)

theorem tenantAdmission_eq : tenantAdmission.1 = .ok () ∧ tenantAdmission.2.1.auditSequence = 6
    ∧ (appendCall.next tenantAdmission.2.1).auditSequence = 7 := by
  decide +kernel

theorem tenantContext_err : ({} : Context).err ≠ some .auditCompromised := nofun

theorem tenantAccountSupply_newID : (tenantAccountSupply 700).newID 0 ≠ .error .auditCompromised := nofun

theorem honest_tenantCalls : ∀ c ∈ tenantCalls, Honest c := by
  simp [tenantCalls, Honest, tenantCall, commitOf]

/-- The verification has runs with any honest calls between the two reads, and those that chain an event raise the
alarm. -/
theorem runs_tenantVerification (calls : List Call) (hcalls : ∀ c ∈ calls, Honest c) :
    ∃ r, tenantVerification.Runs noted Others (fun _ _ _ => True) (Store.after tenantCalls, none) r
        (Run.run Call.next tenantAdmission.2.1 calls, some 6)
      ∧ ((Run.run Call.next tenantAdmission.2.1 calls).auditSequence ≠ 6 → r = .error .auditCompromised) := by
  have hadmit : Procedure.Runs noted Others (fun _ _ _ => True) (authorizeAdmin tenantAccounts {}
      (tenantAccountSupply 700) tenantAdministrator "admin.audit.read") (Store.after tenantCalls, none)
      tenantAdmission.1 tenantAdmission.2 := Program.runs_exec Others.refl (fun _ _ _ => trivial) _ _
  have hcontinues : Continues Store.new tenantAdmission.2.1 := by
    have hcalls := continues_run honest_tenantCalls intact_new.nonneg
    exact (continues_authorizeAdmin tenantContext_err tenantAccountSupply_newID intact_new hcalls rfl hadmit).1
  obtain ⟨hok, hsix, -⟩ := tenantAdmission_eq
  have hvalid : Valid {} := by simp [Valid]
  have hchain := (runs_verifyChain_iff (t := (Run.run Call.next tenantAdmission.2.1 calls, some 6))
    (show ({} : Context).err = none from rfl) hvalid intact_new rfl hcontinues).mpr
    ⟨tenantAdmission.2, .refl _, ⟨congrArg some hsix.symm, calls, hcalls, rfl⟩, rfl⟩
  rw [hok] at hadmit
  refine ⟨_, runs_bind.mpr (.inr ⟨(), _, hadmit, hchain⟩), fun hne => ?_⟩
  exact (alarm_verifyChain_iff tenantContext_err hvalid intact_new rfl hcontinues hchain).mpr ⟨6, rfl, hne⟩

/-- Left alone, the verification of an honest log raises no alarm. -/
theorem false_alarm_tenant :
    ∃ r t, tenantVerification.Runs noted Others (fun _ _ _ => True) (Store.after tenantCalls, none) r t
      ∧ t.2 = some 6 ∧ r ≠ .error .auditCompromised := by
  obtain ⟨r, hrun, -⟩ := runs_tenantVerification [] fun _ hc => absurd hc List.not_mem_nil
  refine ⟨r, _, hrun, rfl, fun h => ?_⟩
  obtain ⟨n, hn, hne⟩ :=
    (false_alarm_iff honest_tenantCalls tenantContext_err tenantAccountSupply_newID (.inl rfl) hrun).mp h
  exact hne (tenantAdmission_eq.2.1.trans (Option.some.inj hn))

/-- An event that is chained between the two reads has the verification report an honest log as compromised. -/
theorem honest_log_alarmed :
    ∃ t, tenantVerification.Runs noted Others (fun _ _ _ => True) (Store.after tenantCalls, none)
      (.error .auditCompromised) t := by
  obtain ⟨r, hrun, halarm⟩ := runs_tenantVerification [appendCall] fun c hc => by
    rw [List.mem_singleton.mp hc]
    exact honest_appendCall
  obtain rfl := halarm fun hsix => by
    have hseven := tenantAdmission_eq.2.2
    have hsame : (appendCall.next tenantAdmission.2.1).auditSequence = 6 := hsix
    omega
  exact ⟨_, hrun⟩

end Credbound.Stores
