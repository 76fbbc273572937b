import Credbound.Manager.Updates
import Credbound.Stores.Consents
import Credbound.Stores.Methods

/-!
# Stores/Switches — an update in flight and a record that is disabled meanwhile

Any number of updates run over the memory store, interleaved access by access with each other and with
any other calls.  **What is disabled stays disabled** until it is enabled, provided no update of it had
read the record and not yet written it back when it was disabled (`stays_off`).

An update that had read the record writes the enabled record back (`stale_update_turns_on`).
-/

namespace Credbound.Stores

open Accounts Manager Memory

/-! ## Updates in flight -/

/-- A call of one of the update functions. -/
structure UpdateCall where
  manager : Accounts
  ctx : Context := {}
  io : AccountSupply
  actor : Authentication
  update : Accounts.Update

namespace UpdateCall

/-- The call as a program. -/
def program (c : UpdateCall) : Program Access (Except Err Unit) :=
  (c.update.routine c.manager c.ctx c.io c.actor).program

/-- The call has returned, or it has not read the record yet. -/
def Unread (c : UpdateCall) (p : Program Access (Except Err Unit)) : Prop :=
  Program.Before Checking (fun _ => True) (c.update.rewriting c.manager c.ctx c.io c.actor).program p

theorem unread_program (c : UpdateCall) : c.Unread c.program := c.update.before c.manager c.ctx c.io c.actor

end UpdateCall

/-- A store and the updates in flight. -/
abbrev Updating := Pool Access Store (Except Err Unit)

/-- One update makes its next access, or some other call is made. -/
def Updating.step : Updating → Pool.Label Call → Updating := Pool.step Memory.access Call.next

/-- The updates, none of them started. -/
def Updating.start (s : Store) (calls : List UpdateCall) : Updating := ⟨s, calls.map UpdateCall.program⟩

/-! ## What the store answers -/

variable {sw : Switch}

/-- A store whose records are filed answers with them. -/
theorem filedAnswers {off : Switch → Prop} {s : Store} (hs : s.Filed) (hoff : ∀ sw, off sw → sw.Off s)
    ⦃β : Type⦄ (e : Access β) : FiledAnswers off e (Memory.access e s).1 := by
  cases e with
  | read ctx q =>
    cases q with
    | workspaceByID id =>
      intro v hv
      have hv := get?_of_read hv
      refine ⟨hs.workspaces id v hv, fun h => ?_⟩
      obtain ⟨w, hw, hmark⟩ := hoff _ h
      exact Option.mem_unique hw hv ▸ hmark
    | oauthIssuerByID id =>
      intro v hv
      have hv := get?_of_read hv
      refine ⟨hs.issuers id v hv, fun h => ?_⟩
      obtain ⟨w, hw, hmark⟩ := hoff _ h
      exact Option.mem_unique hw hv ▸ hmark
    | scimConfiguration id =>
      intro v hv
      have hv := get?_of_read hv
      refine ⟨hs.configurations id v hv, fun h => ?_⟩
      obtain ⟨w, hw, hmark⟩ := hoff _ h
      exact Option.mem_unique hw hv ▸ hmark
    | _ => trivial
  | _ => trivial

/-- An access that does not turn a record on is made of calls that do not. -/
theorem accessCalls_leavesOff ⦃β : Type⦄ {e : Access β} (he : LeavesOff sw e) :
    ∀ c ∈ accessCalls e, ¬ c.method.TurnsOn sw := by
  cases e with
  | write ctx op commit =>
    intro c hc
    obtain rfl := List.mem_singleton.mp hc
    exact he
  | request r =>
    cases r with
    | query ctx q => simp [accessCalls, requestCalls]
    | update ctx u commit => exact absurd he id
  | read | scimUsers | scimGroups => simp [accessCalls]
  | recordLoginFailure | useTOTP | consumeRecoveryCode | claimEmailIssuance => exact absurd he id

/-- Calls that do not turn a record on leave it disabled. -/
theorem run_keeps_off {s : Store} {calls : List Call} (hcalls : ∀ c ∈ calls, ¬ c.method.TurnsOn sw)
    (hs : s.Filed ∧ sw.Off s) :
    (Run.run Call.next s calls).Filed ∧ sw.Off (Run.run Call.next s calls) := by
  have hmeets : Run.Meets Call.next (fun _ c => ¬ c.method.TurnsOn sw) s calls :=
    Run.meets_of_mem fun c hc _ => hcalls c hc
  refine Run.invariant (I := fun s : Store => s.Filed ∧ sw.Off s) (fun s c hs hc => ?_) hs hmeets
  exact ⟨hs.1.next s c, c.keeps_off s hs.1 hc hs.2⟩

/-! ## What is disabled stays disabled -/

section

variable {calls : List UpdateCall} {s : Store}

/-- An access of the `i`-th update leaves `sw` as it is, if `sw` is not the record of the update. -/
def LeavesOther (calls : List UpdateCall) (sw : Switch) (i : ℕ) ⦃β : Type⦄ (e : Access β) : Prop :=
  (∀ c, calls[i]? = some c → sw ≠ c.update.subject) → LeavesOff sw e

theorem start_thread (s : Store) (calls : List UpdateCall) {i : ℕ} {p : Program Access (Except Err Unit)}
    (hi : (Updating.start s calls).threads[i]? = some p) :
    ∃ c, calls[i]? = some c ∧ c.program = p :=
  Option.map_eq_some_iff.mp ((List.getElem?_map ..).symm.trans hi)

/-- **All along, records are filed and updates leave the records of others alone.** -/
theorem run_leavesOther (sw : Switch) (calls : List UpdateCall) (hs : s.Filed) (labels : List (Pool.Label Call)) :
    (Run.run Updating.step (.start s calls) labels).state.Filed ∧ ∀ i (p : Program Access (Except Err Unit)),
        (Run.run Updating.step (.start s calls) labels).threads[i]? = some p →
        p.Ensures (FiledAnswers fun _ => False) (LeavesOther calls sw i) fun _ => True := by
  have hallows : Run.Meets Updating.step (Pool.Allows (fun _ _ _ _ => True) fun _ _ => True)
      (.start s calls) labels := Pool.meets_allows fun _ _ _ => trivial
  refine Pool.ensures_of_run (Q := LeavesOther calls sw) (P := fun _ _ => True)
    (A := fun _ => FiledAnswers fun _ => False) ?_ ?_ hs ?_ hallows
  · intro i β e s _ hs _
    exact ⟨filedAnswers hs (fun _ h => h.elim) e, access_keeps Store.Filed.next e s hs⟩
  · intro s c _ hs
    exact hs.next s c
  · intro i p hi
    obtain ⟨c, hc, rfl⟩ := start_thread s calls hi
    by_cases hsubject : sw = c.update.subject
    · -- Of an update of the record itself nothing is said.
      refine (Program.emits_true c.program).ensures.weaken fun β e _ hothers => ?_
      exact absurd hsubject (hothers c hc)
    · refine Program.Before.ensures c.unread_program ?_ ?_
      · exact fun β e he _ => leavesOff_of_checking e he
      · exact (c.update.rewriting_leavesOff fun h => absurd h hsubject).weaken fun β e he _ => he

/-- **What is disabled stays disabled** until it is enabled, when no update of it had read the record
and not written it back at the time. -/
theorem stays_off (history : List Call) (calls : List UpdateCall) (before after : List (Pool.Label Call))
    (sw : Switch) :
    let disabled := Run.run Updating.step (.start (Store.after history) calls) before
    sw.Off disabled.state →
    (∀ (i : ℕ) (c : UpdateCall) (p : Program Access (Except Err Unit)), calls[i]? = some c →
      c.update.subject = sw → disabled.threads[i]? = some p → c.Unread p) →
    (∀ c : Call, .other c ∈ after → ¬ c.method.Enables sw ∧ ¬ c.method.Rewrites sw) →
    sw.Off (Run.run Updating.step disabled after).state := by
  intro disabled hoff hunread hothers
  obtain ⟨hfiled, hothersLeave⟩ := run_leavesOther sw calls (Store.filed_after history) before
  have hallows : Run.Meets Updating.step
      (Pool.Allows (fun _ _ _ _ => True) fun _ c => ¬ c.method.TurnsOn sw) disabled after := by
    refine Pool.meets_allows fun c hc _ => ?_
    rintro (henables | ⟨hrewrites, -⟩)
    · exact (hothers c hc).1 henables
    · exact (hothers c hc).2 hrewrites
  refine (Pool.ensures_of_run (I := fun s : Store => s.Filed ∧ sw.Off s) (Q := fun _ => LeavesOff sw)
    (A := fun _ => FiledAnswers (sw = ·)) (P := fun _ _ => True) ?_ ?_ ⟨hfiled, hoff⟩ ?_ hallows).1.2
  · intro i β e s he hs _
    have hanswers : ∀ sw', sw = sw' → sw'.Off s := fun _ h => h ▸ hs.2
    refine ⟨filedAnswers hs.1 hanswers e, ?_⟩
    rw [access_run]
    exact run_keeps_off (accessCalls_leavesOff he) hs
  · intro s c hc hs
    exact ⟨hs.1.next s c, c.keeps_off s hs.1 hc hs.2⟩
  · intro i p hi
    by_cases hsubject : ∃ c, calls[i]? = some c ∧ c.update.subject = sw
    · obtain ⟨c, hc, rfl⟩ := hsubject
      exact (hunread i c p hc rfl hi).ensures leavesOff_of_checking (c.update.rewriting_leavesOff id)
    · refine ((hothersLeave i p hi).mono (FiledAnswers.mono fun _ h => h.elim)).weaken fun β e he => ?_
      exact he fun c hc hsw => hsubject ⟨c, hc, hsw.symm⟩

end

/-! ## Three updates that read too early -/

/-- A manager whose administrators may do everything, without second factors. -/
def tenantAccounts : Accounts where
  toManager := tenantManager
  accountHooks _ _ _ := none
  hasAdminPermission _ _ := true
  knownRole _ := true
  stepUp _ := .none
  stepUpMaxAge := 600
  verify password hash := .ok (hash = password, false)
  dummyHash := ""
  validatePassword _ := .ok ()
  maxFailedLogins := 0
  lockoutDuration := 0
  domainToASCII domain := some domain
  parsesAddress _ := true
  unsealed sealed := .ok sealed
  tokenDigest raw := raw.toUTF8.toList
  matchTokenDigest digest raw := digest = raw.toUTF8.toList
  totp := none
  recoveryDigests _ := []
  passkeys := none
  patPrefix := "pat"
  matchPATDigest digest raw := digest = raw.toUTF8.toList
  patTouchInterval := 60
  sessionTTL := 3600
  sessionIdleTimeout := 600
  sessionTouchInterval := 60
  ssoProviders _ := none
  ssoAssurance _ := none
  openContinuation _ := none

/-- What a call is given at time 1000, with identifiers from `first` on. -/
def tenantAccountSupply (first : Nat) : AccountSupply where
  toSupply := tenantSupply first
  hash _ password := .ok password
  sealing _ secret := .ok secret
  secret _ := .ok "secret"

/-- User 1, who administrates the instance and the workspace. -/
def tenantAdministrator : Authentication :=
  { userID := uuidv7 1, method := .password, level := 2, authenticatedAt := 900 }

/-- A call of the administrator. -/
def tenantUpdate (update : Accounts.Update) : UpdateCall where
  manager := tenantAccounts
  io := tenantAccountSupply 700
  actor := tenantAdministrator
  update := update

/-- The directory configuration of the workspace. -/
def tenantConfiguration : SCIMConfiguration :=
  { (default : SCIMConfiguration) with
    id := uuidv7 60, workspaceID := uuidv7 1, enabled := true, defaultRole := .member }

/-- A workspace, an issuer and a directory configuration. -/
def switchCalls : List Call :=
  tenantCalls ++ [tenantCall (.directory (.createSCIMConfiguration tenantConfiguration default)) 6]

/-- An update that has made `reads` accesses when the record is disabled, and then makes one more. -/
def lateUpdate (update : Accounts.Update) (reads : Nat) (disabling : Op) : Updating × Updating :=
  let disabled := Run.run Updating.step (.start (Store.after switchCalls) [tenantUpdate update])
    (List.replicate reads (.thread 0) ++ [.other (tenantCall disabling 7)])
  (disabled, Updating.step disabled (.thread 0))

/-- The record is disabled in the first state and not in the second. -/
def TurnedOn (sw : Switch) (run : Updating × Updating) : Prop :=
  sw.Off run.1.state ∧ ¬ sw.Off run.2.state

theorem not_marked_of_get? {V : Type} {mark : V → Prop} {id : UUID} {m : FMap UUID V} {v : V}
    (hv : m.get? id = some v) (hmark : ¬ mark v) : ¬ Registry.Marked mark id m := by
  rintro ⟨w, hw, hmarked⟩
  rw [hv] at hw
  exact hmark (Option.some.inj hw ▸ hmarked)

/-- **An update that read the record before it was disabled turns it on again**: a workspace, an issuer
and a directory configuration. -/
theorem stale_update_turns_on :
    TurnedOn (.workspace (uuidv7 1))
        (lateUpdate (.adminUpdateWorkspace ⟨true⟩ (uuidv7 1) { name := "renamed" }) 4
          (.workspace (.setWorkspaceDisabled (uuidv7 1) true 7)))
      ∧ TurnedOn (.issuer (uuidv7 10))
        (lateUpdate (.updateOAuthIssuer ⟨true⟩ (uuidv7 10) {}) 4
          (.oauth (.setOAuthIssuerDisabled (uuidv7 10) true 7)))
      ∧ TurnedOn (.configuration (uuidv7 60))
        (lateUpdate (.updateSCIMConfiguration (uuidv7 60) {}) 7
          (.directory (.disableSCIMConfiguration (uuidv7 60) 7))) := by
  refine ⟨⟨⟨_, rfl, ?_⟩, not_marked_of_get? rfl ?_⟩, ⟨⟨_, rfl, ?_⟩, not_marked_of_get? rfl ?_⟩,
    ⟨_, rfl, rfl⟩, not_marked_of_get? rfl ?_⟩
  · exact Option.some_ne_none 7
  · exact fun h => h rfl
  · exact Option.some_ne_none 7
  · exact fun h => h rfl
  · exact Bool.noConfusion

/-- An update that starts after the workspace was disabled leaves it disabled. -/
theorem late_start_stays_off :
    let update := tenantUpdate (.adminUpdateWorkspace ⟨true⟩ (uuidv7 1) { name := "renamed" })
    let disabled := Run.run Updating.step (.start (Store.after switchCalls) [update])
      [.other (tenantCall (.workspace (.setWorkspaceDisabled (uuidv7 1) true 7)) 7)]
    (Switch.workspace (uuidv7 1)).Off
      (Run.run Updating.step disabled (List.replicate 5 (.thread 0))).state := by
  intro update disabled
  refine stays_off switchCalls [update]
    [.other (tenantCall (.workspace (.setWorkspaceDisabled (uuidv7 1) true 7)) 7)]
    (List.replicate 5 (.thread 0)) (.workspace (uuidv7 1)) ?_ ?_ ?_
  · exact ⟨_, rfl, Option.some_ne_none 7⟩
  · intro i c p hc _ hp
    obtain ⟨c', hc', rfl⟩ := start_thread (Store.after switchCalls) [update] hp
    rw [Option.mem_unique hc hc']
    exact c'.unread_program
  · intro c hc
    cases List.eq_of_mem_replicate hc

end Credbound.Stores
