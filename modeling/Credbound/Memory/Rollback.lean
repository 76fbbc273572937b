import Credbound.Memory.Calls

/-!
# Memory/Rollback — what a failed call leaves behind

A call can fail at two points.  **Before the hook** it has written nothing, except that
`CreateWorkspaceDomain` has evicted a stale holder by the time its commit is refused.  **At the hook**
the snapshot is restored; it was taken after that eviction, and it holds no OAuth client keys.  So a
failed call leaves every read as it was exactly when the call evicts nobody and, where the hook
rejects, the store has no OAuth client keys to lose (`sameReads_restored_iff`,
`sameReads_refused_iff`).
-/

namespace Credbound.Memory

/-! ## Two reads that tell -/

/-- A holder that is evicted has a record. -/
theorem Method.exists_of_evicts {m : Method} {ctx : Context} {s : Store} {holderID : UUID}
    (h : m.evicts ctx s = some holderID) : ∃ holder, s.domains.get? holderID = some holder := by
  cases m with
  | createWorkspaceDomain domain staleBefore =>
    simp only [Method.evicts, staleHolder] at h
    split at h
    · obtain ⟨-, hany⟩ := Option.filter_eq_some_iff.mp h
      obtain ⟨holder, hholder, -⟩ := (Option.any_eq_true _ _).mp hany
      exact ⟨holder, hholder⟩
    · cases h
  | _ => cases h

namespace Store

/-- `WorkspaceDomainByID` tells whether a domain record is there. -/
theorem SameReads.domains_get? {s t : Store} (h : s.SameReads t) {id : UUID} {domain : WorkspaceDomain}
    (hd : s.domains.get? id = some domain) : t.domains.get? id ≠ none := by
  intro ht
  have hread := h {} (.workspaceDomainByID id)
  simp only [answer, guarded, hd, ht, orNotFound, reduceCtorEq] at hread

/-- `OAuthClientByClientID` tells whether a client key is there. -/
theorem SameReads.oauthClientKeys_get? {s t : Store} (h : s.SameReads t) {key : UUID × String}
    {id : UUID} (hk : s.oauthClientKeys.get? key = some id) : t.oauthClientKeys.get? key ≠ none := by
  intro ht
  have hread := h {} (.oauthClientByClientID key.1 key.2)
  simp only [answer, guarded, byIndex, hk, ht, Option.map_some, Option.map_none, orNotFound,
    reduceCtorEq] at hread

/-- A state without the evicted holder reads differently. -/
theorem not_sameReads_of_evicts {m : Method} {ctx : Context} {s t : Store} {holderID : UUID}
    (h : m.evicts ctx s = some holderID) (ht : t.domains = (m.arrival ctx s).domains) :
    ¬ s.SameReads t := by
  intro hreads
  obtain ⟨holder, hholder⟩ := Method.exists_of_evicts h
  refine hreads.domains_get? hholder ?_
  rw [ht, Method.arrival, h]
  exact FMap.get?_del_self _ _

theorem arrival_of_evicts_none {m : Method} {ctx : Context} {s : Store} (h : m.evicts ctx s = none) :
    m.arrival ctx s = s := by rw [Method.arrival, h]

/-! ## The two points of failure -/

/-- Without client keys the snapshot is the restorable state. -/
theorem snapshotLocked_eq {s : Store} (h : s.oauthClientKeys = ∅) : s.snapshotLocked = s.toStoreState := by
  calc s.snapshotLocked = { s.toStoreState with oauthClientKeys := ∅ } := rfl
    _ = s.toStoreState := by rw [← h]

/-- **At the hook**: the restored state reads like the state before the call exactly when no client
key was stored and no holder was evicted. -/
theorem sameReads_restored_iff (s t : Store) (ctx : Context) (m : Method) :
    s.SameReads (t.restoreLocked (m.arrival ctx s).snapshotLocked)
      ↔ s.oauthClientKeys = ∅ ∧ m.evicts ctx s = none := by
  constructor
  · intro h
    have hkeys : s.oauthClientKeys = ∅ := FMap.ext_get? fun key => by
      cases hk : s.oauthClientKeys.get? key with
      | none => rw [FMap.get?_empty]
      | some id => exact absurd (FMap.get?_empty key) (h.oauthClientKeys_get? hk)
    refine ⟨hkeys, ?_⟩
    cases he : m.evicts ctx s with
    | none => rfl
    | some holderID => exact absurd h (not_sameReads_of_evicts he rfl)
  · rintro ⟨hkeys, he⟩
    refine sameReads_of_toStoreState_eq ?_
    rw [arrival_of_evicts_none he, snapshotLocked_eq hkeys]
    rfl

/-- **Before the hook**: a refused commit leaves the reads alone exactly when no holder was
evicted. -/
theorem sameReads_refused_iff (s : Store) (ctx : Context) (m : Method) (ceremonies : FMap UUID Time) :
    s.SameReads { m.arrival ctx s with ceremonies := ceremonies } ↔ m.evicts ctx s = none := by
  constructor
  · intro h
    cases he : m.evicts ctx s with
    | none => rfl
    | some holderID => exact absurd h (not_sameReads_of_evicts he rfl)
  · intro he
    rw [arrival_of_evicts_none he]
    exact sameReads_of_toStoreState_eq rfl

end Store

/-! ## Failed calls -/

/-- A pending commit was prepared in the state of the call's arrival. -/
theorem Call.pending_of_attempt {c : Call} {s t : Store} {previous : StoreState}
    (h : c.attempt s = .pending () previous t) :
    previous = if c.commit.transactional.isNone then default
      else (c.method.arrival c.ctx s).snapshotLocked := by
  obtain ⟨o, t', ha, -⟩ | ⟨m, -, -, -, ha⟩ := c.method.attempt_cases c.ctx c.commit s
  · rw [Call.attempt, ha] at h
    cases h
  · rw [Call.attempt, ha, Store.prepareAndWrite] at h
    obtain ⟨ceremonies, ⟨e, hp⟩ | hp⟩ := (c.method.arrival c.ctx s).prepareCommitLocked_cases c.commit
    · rw [hp] at h
      cases h
    · rw [hp] at h
      dsimp only at h
      split at h
      · cases h
      · cases h
        rfl

/-- What a call returns and leaves when its hook rejects. -/
theorem Call.run_of_rejected {c : Call} {s t : Store} {previous : StoreState} {e : Err}
    (hp : c.attempt s = .pending () previous t) (hook : c.commit.hookErr c.ctx .memory = some e) :
    c.run s = (.err e, t.restoreLocked (c.method.arrival c.ctx s).snapshotLocked) := by
  rw [Call.run, hp, Call.pending_of_attempt hp, Commit.isNone_of_hookErr hook]
  simp only [Attempt.finish, Store.finishCommitLocked, hook, Bool.false_eq_true, if_false]

/-- **A rejected call.**  When the hook of a call runs and answers with an error, the call returns
an error and leaves every read as it was exactly if no OAuth client key is stored and the call
evicts no stale domain holder. -/
theorem rejected_call_unobservable_iff (c : Call) (s t : Store) (previous : StoreState) (e : Err)
    (hp : c.attempt s = .pending () previous t) (hook : c.commit.hookErr c.ctx .memory = some e) :
    ((∃ e', (c.run s).1 = .err e') ∧ s.SameReads (c.run s).2)
      ↔ s.oauthClientKeys = ∅ ∧ c.method.evicts c.ctx s = none := by
  rw [Call.run_of_rejected hp hook, Store.sameReads_restored_iff]
  exact and_iff_right ⟨e, rfl⟩

/-- A commit whose hook rejects. -/
def rejectedCommit (id : UUID) (occurredAt : Time) : Commit :=
  { commitOf id occurredAt with transactional := some fun _ _ => some (.external "rejected") }

/-- In the empty store nothing can be lost. -/
theorem rejected_audit_unobservable :
    (∃ e', (Call.run ⟨.op (.workspace .appendAudit), rejectedCommit 1 1, {}⟩ Store.new).1 = .err e')
      ∧ Store.new.SameReads
        (Call.run ⟨.op (.workspace .appendAudit), rejectedCommit 1 1, {}⟩ Store.new).2 :=
  (rejected_call_unobservable_iff ⟨.op (.workspace .appendAudit), rejectedCommit 1 1, {}⟩ Store.new
    Store.new Store.new.snapshotLocked (.external "rejected") rfl rfl).mpr ⟨rfl, rfl⟩

/-- The client of the failing run. -/
def lostClient : OAuthClient :=
  { (default : OAuthClient) with id := 2, issuerID := 1, clientID := "client" }

/-- An issuer with one registered client. -/
def clientCalls : List Call :=
  [{ method := .op (.oauth (.createOAuthIssuer { (default : OAuthIssuer) with id := 1 }))
     commit := commitOf 11 1 },
   { method := .op (.oauth (.createOAuthClient lostClient 0 0))
     commit := commitOf 12 2 }]

/-- After a client is registered, any rejected call, here of `AppendAudit`, loses its key:
`OAuthClientByClientID` finds the client before and not afterwards. -/
theorem rejected_audit_loses_client :
    let s := Store.after clientCalls
    let c : Call := ⟨.op (.workspace .appendAudit), rejectedCommit 13 3, {}⟩
    c.commit.hookErr c.ctx .memory = some (.external "rejected")
      ∧ c.attempt s = .pending () s.snapshotLocked s
      ∧ (c.run s).1 = .err (.external "rejected")
      ∧ s.answer {} (.oauthClientByClientID 1 "client") = .ok lostClient
      ∧ (c.run s).2.answer {} (.oauthClientByClientID 1 "client") = .err .notFound :=
  ⟨rfl, rfl, rfl, rfl, rfl⟩

/-- **A call that fails before its hook** leaves every read as it was exactly if it evicts no stale
domain holder. -/
theorem refused_call_unobservable_iff (c : Call) (s t : Store) (e : Err)
    (h : c.attempt s = .stopped (.err e) t) :
    s.SameReads t ↔ c.method.evicts c.ctx s = none := by
  obtain ⟨o, t', ha, hstate, -, he, -⟩ | ⟨m, -, -, -, ha⟩ :=
    c.method.attempt_cases c.ctx c.commit s
  · obtain ⟨-, rfl⟩ : o = .err e ∧ t' = t := by
      simpa [Call.attempt, ha] using h
    exact iff_of_true (Store.sameReads_of_toStoreState_eq hstate.symm) he
  · rw [Call.attempt, ha, Store.prepareAndWrite] at h
    obtain ⟨ceremonies, ⟨e', hp⟩ | hp⟩ :=
      (c.method.arrival c.ctx s).prepareCommitLocked_cases c.commit
    · rw [hp] at h
      cases h
      exact s.sameReads_refused_iff c.ctx c.method ceremonies
    · rw [hp] at h
      dsimp only at h
      split at h <;> cases h

/-- A pending claim on a domain name, made at time 2. -/
def staleDomain : WorkspaceDomain :=
  { (default : WorkspaceDomain) with id := 2, workspaceID := 1, domain := "example.com", createdAt := 2 }

/-- A workspace with a pending claim on a domain name. -/
def domainCalls : List Call :=
  [{ method := .op (.account (.bootstrap { (default : User) with id := 3 } default default
       { (default : Workspace) with id := 1 } default default))
     commit := commitOf 11 1 },
   { method := .createWorkspaceDomain staleDomain 0
     commit := commitOf 12 2 }]

/-- While the first claim is not stale, a second one is refused and evicts nobody. -/
theorem refused_domain_unobservable :
    (Store.after domainCalls).SameReads (Call.run
      ⟨.createWorkspaceDomain { staleDomain with id := 4 } 1, commitOf 13 20, {}⟩
      (Store.after domainCalls)).2 :=
  (refused_call_unobservable_iff
    ⟨.createWorkspaceDomain { staleDomain with id := 4 } 1, commitOf 13 20, {}⟩
    (Store.after domainCalls) (Store.after domainCalls) .conflict rfl).mpr rfl

/-- A second claim on the name, once the first is stale, evicts it even when the commit is refused,
here for an audit identifier that is taken: `WorkspaceDomainByID` finds the first claim before and
not afterwards. -/
theorem refused_domain_evicts_holder :
    let s := Store.after domainCalls
    let c : Call := ⟨.createWorkspaceDomain { staleDomain with id := 4 } 10, commitOf 12 20, {}⟩
    c.attempt s = .stopped (.err .conflict) (s.evictDomain 2)
      ∧ (c.run s).1 = .err .conflict
      ∧ s.answer {} (.workspaceDomainByID 2) = .ok staleDomain
      ∧ (c.run s).2.answer {} (.workspaceDomainByID 2) = .err .notFound :=
  ⟨rfl, rfl, rfl, rfl⟩

end Credbound.Memory
