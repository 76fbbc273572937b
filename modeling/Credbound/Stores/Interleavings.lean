import Credbound.Memory.Invitations
import Credbound.Memory.Issued
import Credbound.Memory.Tokens
import Credbound.Stores.AuditChain

/-!
# Stores/Interleavings — what every interleaving of Manager functions keeps

Any number of functions run over one memory store, one access at a time, with calls of others in between.  An access
is a run of calls (`access_run`), so what one call keeps the interleaving keeps.

* `log_extended`, `event_ids_distinct` — the audit log is appended to and never rewritten, and each event comes once.
* `unlogged_keeps_records`, `failing_sink_freezes` — without a new event no record changes, and while the sink fails
  there is none.
* `invitations_keep_terms`, `revocations_stand` — what is kept of each invitation, token, session and grant.
* `records_filed` — in a reachable state the records are where the indexes and the other records look for them.
-/

namespace Credbound.Stores

open Manager Memory

/-- Functions of the Manager over one store. -/
abbrev Serving (α : Type) := Pool Access Store α

namespace Serving

variable {α : Type} (pool : Serving α) (steps : List (Pool.Label Call))

/-- The store after an interleaving. -/
abbrev after : Store := (Run.run (Pool.step access Call.next) pool steps).state

/-- The calls that an interleaving amounts to. -/
abbrev calls : List Call := pool.trace access Call.next accessCalls steps

variable {pool steps}

theorem keeps {I : Store → Prop} (hcall : ∀ s (c : Call), I s → I (c.next s)) (hs : I pool.state) :
    I (pool.after steps) :=
  Pool.always (access_keeps hcall) hcall hs steps

variable (pool steps)

/-! ## The audit log -/

/-- **The audit log is append-only.** -/
theorem log_extended : pool.state.log.Extended (pool.after steps).log := by
  refine keeps (I := fun t => pool.state.log.Extended t.log) (fun s c hs => ?_)
    ⟨List.prefix_rfl, Finset.Subset.refl _, le_rfl⟩
  obtain ⟨hlog, -⟩ | ⟨-, hlog⟩ := c.log_next s
  · rwa [hlog]
  · rw [hlog]
    exact hs.trans (s.log.extended_commit ..)

/-- **No two events have one identifier.** -/
theorem event_ids_distinct (threads : List (Program Access α)) :
    (after ⟨Store.new, threads⟩ steps).log.Distinct := by
  refine keeps (I := fun t => t.log.Distinct) (fun s c hs => ?_)
    ⟨List.nodup_nil, fun _ => iff_of_false (Finset.notMem_empty _) List.not_mem_nil⟩
  obtain ⟨hlog, -⟩ | ⟨hcan, hlog⟩ := c.log_next s
  · rwa [hlog]
  · rw [hlog]
    exact hs.commit (Store.accepts_of_canAudit hcan).2 _

/-- **The store is closed while the audit sink fails**: neither the log nor a record changes, up to what a refused
call can disturb. -/
theorem failing_sink_freezes
    (hfailing : Run.Meets Call.next (fun s _ => s.auditFailure ≠ none) pool.state (pool.calls steps)) :
    pool.state.SameCore (pool.after steps) ∧ (pool.after steps).log = pool.state.log := by
  rw [show pool.after steps = _ from Pool.run_trace access_run pool steps]
  refine Run.invariant (I := fun t => pool.state.SameCore t ∧ t.log = pool.state.log) (fun s c hs hc => ?_)
    ⟨.refl _, rfl⟩ hfailing
  obtain ⟨hcore, hlog⟩ := c.frozen hc
  exact ⟨hs.1.trans hcore, hlog.trans hs.2⟩

end Serving

/-- A store whose audit sink fails. -/
def closed : Serving Unit := ⟨{ Store.new with auditFailure := some "down" }, []⟩

theorem failing_sink_freezes_append : closed.state.SameCore (closed.after [.other appendCall])
    ∧ (closed.after [.other appendCall]).log = closed.state.log :=
  closed.failing_sink_freezes _ ⟨Option.some_ne_none _, trivial⟩

namespace Serving

variable {α : Type} (pool : Serving α) (steps : List (Pool.Label Call))

/-! ## Records that are kept -/

/-- **No invitation is removed or put on other terms**: whoever issued it, its workspace and its role stay. -/
theorem invitations_keep_terms : TermsKept pool.state (pool.after steps) :=
  keeps (fun s c hs => hs.trans (c.termsKept_next s)) (.refl _)

/-- **No token, session or revocation is lost**: personal access tokens and sessions stay with their owner, and what
is revoked stays revoked, grants included. -/
theorem revocations_stand : TokensIn PAT.token pool.state.pats (pool.after steps).pats
      ∧ TokensIn Session.token pool.state.sessions (pool.after steps).sessions
      ∧ ∀ grantID, pool.state.GrantRevoked grantID → (pool.after steps).GrantRevoked grantID := by
  have htokens : TokensGrow pool.state (pool.after steps) :=
    keeps (fun s c hs => hs.trans (c.tokensGrow s)) (.refl _)
  exact ⟨htokens.pats, htokens.sessions, fun grantID hs =>
    keeps (fun s c hs => c.keeps_revoked s grantID hs) hs⟩

/-- **Records are filed** under their own identifier: workspaces, issuers, SCIM configurations, tokens, sessions and
grants.  The index of token prefixes leads to tokens, and every administrator is a user. -/
theorem records_filed (threads : List (Program Access α)) : let t := after ⟨Store.new, threads⟩ steps
    t.Filed ∧ TokensFiled t ∧ t.GrantsKeyed ∧ AdminsExist t :=
  ⟨keeps Store.Filed.next Store.filed_new, keeps TokensFiled.next ⟨FMap.All.empty, FMap.All.empty, FMap.All.empty⟩,
    keeps (fun s c => c.keeps_grantsKeyed s) FMap.All.empty, keeps adminsExist_next FMap.All.empty⟩

end Serving

end Credbound.Stores
