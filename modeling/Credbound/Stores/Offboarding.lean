import Credbound.Stores.LocalMemberships
import Credbound.Stores.Mutations

/-!
# Stores/Offboarding — which memberships an administrator can change, over the memory store

An authorized call of `SetMembershipStatus`, `RemoveMembership` or `GrantRole` that nothing else disturbs
goes through exactly if the membership is a local one and it does not remove the last active administrator
(`succeeds_change_iff`).  A user who was provisioned just in time has a membership with a source of its own,
and neither a directory nor an administrator can change it (`provisioned_out_of_reach`).
-/

namespace Credbound

open Procedure
open Manager Memory

/-! ## When a function succeeds alone -/

namespace Memory

variable {α β : Type} {s : Store} {ctx : Context}

/-- The function succeeds over the memory store, when it is called alone. -/
abbrev Accepts (p : Routine α) (s : Store) : Prop := Succeeds access p s

theorem accepts_bind {p : Routine β} {f : β → Routine α} :
    Accepts (p >>= f) s ↔ ∃ b m, p.Runs access Eq (fun _ _ _ => True) s (.ok b) m ∧ Accepts (f b) m := by
  simp only [Accepts, Succeeds, runs_bind_ok]
  constructor
  · rintro ⟨a, t, b, m, hrun, hrest⟩
    exact ⟨b, m, hrun, a, t, hrest⟩
  · rintro ⟨b, m, hrun, a, t, hrest⟩
    exact ⟨a, t, b, m, hrun, hrest⟩

theorem accepts_demand_bind {q : Prop} [Decidable q] {e : Err} {f : Unit → Routine α} :
    Accepts (demand q e >>= f) s ↔ q ∧ Accepts (f ()) s := by
  simp [accepts_bind, Unique.exists_iff]

theorem accepts_lift_bind {x : Except Err β} {f : β → Routine α} :
    Accepts (lift x >>= f) s ↔ ∃ b, x = .ok b ∧ Accepts (f b) s := by
  simp [accepts_bind, eq_comm (a := x)]

/-- A check, and then the rest in the same state. -/
theorem accepts_check_bind {p : Routine Unit} (hp : p.Emits Reading) {f : Unit → Routine α} :
    Accepts (p >>= f) s ↔ Accepts p s ∧ Accepts (f ()) s := by
  rw [accepts_bind]
  constructor
  · rintro ⟨b, m, hrun, hrest⟩
    obtain rfl := Accounts.memory_serves.state_of_reading hp hrun
    exact ⟨⟨b, m, hrun⟩, hrest⟩
  · rintro ⟨⟨b, m, hrun⟩, hrest⟩
    obtain rfl := Accounts.memory_serves.state_of_reading hp hrun
    exact ⟨b, m, hrun, hrest⟩

theorem accepts_read_bind {q : Read β} {f : β → Routine α} :
    Accepts (Routine.read ctx q >>= f) s ↔ ∃ b, (s.answer ctx q).toExcept = .ok b ∧ Accepts (f b) s := by
  simp [accepts_bind]

/-- A membership is found as the store returns it. -/
theorem accepts_find_bind {workspaceID userID : UUID} (hctx : ctx.err = none)
    {f : Option Membership → Routine α} :
    Accepts (Routine.find ctx (.membership workspaceID userID) >>= f) s
      ↔ Accepts (f ((s.membership? workspaceID userID).map normalizeMembership)) s := by
  have hfind : (Routine.find ctx (.membership workspaceID userID)).program.exec access s
      = (.ok ((s.membership? workspaceID userID).map normalizeMembership), s) := by
    have hanswer : access (.read ctx (.membership workspaceID userID)) s
        = ((guarded ctx (orNotFound ((s.membership? workspaceID userID).map normalizeMembership))).toExcept, s) :=
      rfl
    rw [guarded, hctx] at hanswer
    rw [Routine.find]
    cases hm : s.membership? workspaceID userID with
    | none | some v =>
      rw [hm] at hanswer
      show Program.exec access (Program.op (.read ctx (.membership workspaceID userID)) _) s = _
      rw [Program.exec, hanswer]
      rfl
  rw [accepts_bind]
  constructor
  · rintro ⟨b, m, hrun, hrest⟩
    obtain ⟨⟩ := hfind.symm.trans (Program.runs_alone.mp hrun)
    exact hrest
  · exact fun hrest => ⟨_, s, Program.runs_alone.mpr hfind, hrest⟩

theorem accepts_write {op : Op} {commit : Commit} {g : Err → Err} :
    Accepts ((Routine.write ctx op commit).mapError g) s
      ↔ ((⟨.op op, commit, ctx⟩ : Call).run s).1 = .ok () := by
  simp only [Accepts, Succeeds, runs_mapError_ok, runs_write]
  constructor
  · rintro ⟨_, _, _, rfl, -, hok, -⟩
    exact Outcome.toExcept_eq_ok.mp hok
  · intro hok
    exact ⟨(), _, s, rfl, trivial, Outcome.toExcept_eq_ok.mpr hok, rfl⟩

theorem accepts_bind_pure {p : Routine β} {a : α} : Accepts (p >>= fun _ => pure a) s ↔ Accepts p s := by
  simpa [Accepts, Succeeds] using exists_comm

/-- **A commit that nothing stands in the way of goes through exactly if its checks pass.** -/
theorem Call.run_ok_iff {op : Op} {commit : Commit} {t : Store} (hctx : ctx.err = none)
    (haudit : s.canAudit commit.audit = .ok ()) (hceremony : commit.ceremony = none)
    (hhook : commit.hookErr ctx .memory = none) (hwrite : op.mutation.write commit s = .ok t) :
    ((⟨.op op, commit, ctx⟩ : Call).run s).1 = .ok () ↔ op.mutation.check s = .ok () := by
  simp only [Call.run, Call.attempt, Method.attempt, Mutation.attempt, hctx]
  cases hcheck : op.mutation.check s with
  | error e => simp [Attempt.finish]
  | ok _ =>
    simp only [Store.prepareAndWrite, Store.prepareCommitLocked, haudit, hceremony, hwrite, Attempt.finish,
      Store.finishCommitLocked, hhook]

end Memory

namespace Stores

open Accounts

/-! ## A call that nothing disturbs -/

/-- Nothing but the function itself makes the call fail: the context is not done, identifiers and clock
readings are there, no hook objects, and the log takes an event. -/
structure Undisturbed (m : Accounts) (ctx : Context) (io : AccountSupply) (s : Store) : Prop where
  context : ctx.err = none
  hooks : ∀ change tx, m.accountHooks change ctx tx = none
  audit : s.auditFailure = none
  clock : ∀ k, truncateMicro (io.now k) ≠ 0
  ids : ∀ k, ∃ id, io.newID k = .ok id ∧ id ≠ 0 ∧ id ∉ s.auditIDs

section Undisturbed

variable {m : Accounts} {ctx : Context} {io : AccountSupply} {s : Store} {workspaceID userID : UUID}
  {v : Membership}

section

variable (h : Undisturbed m ctx io s)

include h

theorem Undisturbed.after (k : Nat) : Undisturbed m ctx (io.after k) s where
  context := h.context
  hooks := h.hooks
  audit := h.audit
  clock i := h.clock (k + i)
  ids i := h.ids (k + i)

/-- An event that the log takes. -/
theorem Undisturbed.audited (i : Nat) {at' : Time} (hat : truncateMicro at' ≠ 0) (actor : UUID)
    {action : String} (haction : action ≠ "") (resourceType resourceID reason : String) (workspaceID : UUID)
    (outcome : AuditOutcome) :
    ∃ event, io.audit i at' actor action resourceType resourceID workspaceID outcome reason = .ok event
      ∧ s.canAudit event = .ok () := by
  obtain ⟨id, hid, hne, hfresh⟩ := h.ids i
  refine ⟨_, by rw [Supply.audit, hid]; rfl, ?_⟩
  simp only [Store.canAudit, h.audit, check_bind, require_eq_ok]
  refine ⟨(), ?_, hfresh⟩
  rintro (hzero | hempty | hnever)
  · exact hne hzero
  · exact haction hempty
  · exact hat hnever

/-- The change a hook is shown. -/
theorem Undisturbed.changed (k : Nat) (change operation : String)
    (actorID workspaceID : UUID) (audit : AuditEvent) :
    ∃ value, newChange io k change operation actorID workspaceID audit = .ok value := by
  obtain ⟨id, hid, -⟩ := h.ids k
  exact ⟨_, by rw [newChange, hid]; rfl⟩

/-- **A commit of the manager goes through exactly if its checks pass.** -/
theorem Undisturbed.accepts_commit {op : Op} {g : Err → Err} {event : AuditEvent}
    (hevent : s.canAudit event = .ok ()) (changes : List AccountChange)
    (hwrite : ∃ t, op.mutation.write (m.transactionalCommit event changes) s = .ok t) :
    Accepts ((Routine.write ctx op (m.transactionalCommit event changes)).mapError g) s
      ↔ op.mutation.check s = .ok () := by
  obtain ⟨t, hwrite⟩ := hwrite
  have hhook : (m.transactionalCommit event changes).hookErr ctx .memory = none := by
    have hnone : changes.findSome? (fun change => m.accountHooks change ctx ⟨.memory, event⟩) = none :=
      List.findSome?_eq_none_iff.mpr fun change _ => h.hooks change _
    exact hnone
  exact accepts_write.trans (Call.run_ok_iff h.context hevent rfl hhook hwrite)

/-- An event and a change are made, and the rest goes on with them. -/
theorem Undisturbed.accepts_change {α : Type} {i k : Nat} {at' : Time}
    (hat : truncateMicro at' ≠ 0) {actor : UUID} {action : String} (haction : action ≠ "")
    {resourceType resourceID reason change operation : String} {workspaceID actorID workspaceID' : UUID}
    {outcome : AuditOutcome} {rest : AuditEvent → AccountChange → Routine α} {P : Prop}
    (hrest : ∀ event value, s.canAudit event = .ok () → (Accepts (rest event value) s ↔ P)) :
    Accepts (do
        let event ← lift (io.audit i at' actor action resourceType resourceID workspaceID outcome reason)
        let value ← lift (newChange io k change operation actorID workspaceID' event)
        rest event value : Routine α) s ↔ P := by
  obtain ⟨event, hevent, hlog⟩ := h.audited i hat actor haction resourceType resourceID reason workspaceID outcome
  obtain ⟨value, hvalue⟩ := h.changed k change operation actorID workspaceID' event
  simp only [accepts_lift_bind, hevent, hvalue, Except.ok.injEq, exists_eq_left']
  exact hrest event value hlog

end

end Undisturbed

/-! ## Changing a membership -/

/-- A change of a membership by an administrator. -/
inductive MemberChange
  | setMembershipStatus (status : MembershipStatus)
  | removeMembership
  | grantRole (role : Role)

namespace MemberChange

variable (m : Accounts) (ctx : Context) (io : AccountSupply) (actor : Authentication) (workspaceID userID : UUID)

/-- The call that makes the change. -/
def routine : MemberChange → Routine Unit
  | .setMembershipStatus status => do
    let _ ← m.setMembershipStatus ctx io actor workspaceID userID status
    pure ()
  | .removeMembership => m.removeMembership ctx io actor workspaceID userID
  | .grantRole role => m.grantRole ctx io actor workspaceID userID role

/-- The checks of the actor that the call makes, one of them twice. -/
def authorization : MemberChange → Routine Unit
  | .setMembershipStatus _ => do
    m.authorizeWorkspaceMutation ctx (io.now 0) actor workspaceID "workspace.users.write" "membership.status.set"
    m.authorizeWorkspaceMutation ctx (io.now 1) actor workspaceID "workspace.users.write" "membership.status.set"
  | .removeMembership =>
    m.authorizeWorkspaceMutation ctx (io.now 0) actor workspaceID "workspace.users.write" "membership.remove"
  | .grantRole _ => do
    m.requireScopedStepUp ctx (io.now 0) actor .workspace
    (m.authorizePermission ctx actor workspaceID "workspace.rbac.write").routine

/-- The status or the role is one that there is. -/
def Valid : MemberChange → Prop
  | .setMembershipStatus status => status = .active ∨ status = .suspended
  | .removeMembership => True
  | .grantRole role => m.knownRole role = true

/-- The change would remove the last active administrator of the workspace. -/
def RemovesLastAdmin (s : Store) (v : Membership) (c : MemberChange) : Prop :=
  ActiveAdmin v ∧ s.activeWorkspaceAdminsLocked workspaceID ≤ 1 ∧ match c with
    | .setMembershipStatus status => status ≠ .active
    | .removeMembership => True
    | .grantRole role => role ≠ .admin

/-- The membership is a local one, of an account that is there, with a role of the catalogue: as far as the
function looks at it. -/
def WithinReach (s : Store) (v : Membership) : MemberChange → Prop
  | .setMembershipStatus _ => (v.provisioningSource = "" ∨ v.provisioningSource = "local")
      ∧ m.knownRole v.role = true ∧ userID ∈ s.users
  | .removeMembership => v.provisioningSource = "" ∨ v.provisioningSource = "local"
  | .grantRole _ => (v.provisioningSource = "" ∨ v.provisioningSource = "local") ∧ userID ∈ s.users

end MemberChange

section Change

variable {m : Accounts} {ctx : Context} {io : AccountSupply} {actor : Authentication}
  {workspaceID userID : UUID} {s : Store} {v : Membership}

theorem normalizeMembership_source_eq_local {v : Membership} :
    (normalizeMembership v).provisioningSource = "local"
      ↔ v.provisioningSource = "" ∨ v.provisioningSource = "local" := by
  by_cases hsource : v.provisioningSource = ""
  · unfold normalizeMembership
    dsimp only
    split <;> simp [hsource]
  · rw [normalizeMembership_source hsource]
    simp [hsource]

theorem normalizeMembership_source_local {v : Membership} :
    (normalizeMembership v).provisioningSource = "" ∨ (normalizeMembership v).provisioningSource = "local"
      ↔ v.provisioningSource = "" ∨ v.provisioningSource = "local" := by
  rw [normalizeMembership_source_eq_local]
  refine or_iff_right_of_imp fun hempty => ?_
  by_contra hne
  exact hne (.inl ((normalizeMembership_source fun h => hne (.inl h)).symm.trans hempty))

/-- Reads of a context that is not done. -/
theorem answer_user (hctx : ctx.err = none) :
    (∃ user, (s.answer ctx (.userByID userID)).toExcept = .ok user) ↔ userID ∈ s.users := by
  simp only [Store.answer, guarded, hctx]
  rw [FMap.mem_iff_get?]
  cases s.users.get? userID with
  | none | some user => simp [orNotFound, Outcome.toExcept]

theorem answer_membership (hctx : ctx.err = none) (hv : s.membership? workspaceID userID = some v) :
    (s.answer ctx (.membership workspaceID userID)).toExcept = .ok (normalizeMembership v) := by
  simp only [Store.answer, guarded, hctx, hv]
  rfl

/-- What the store checks of a membership that is upserted over another. -/
theorem check_upsertMembership {v' : Membership} (hworkspace : workspaceID ∈ s.workspaces)
    (hv : s.membership? workspaceID userID = some v) (hw : v'.workspaceID = workspaceID) (hu : v'.userID = userID) :
    (Op.workspace (.upsertMembership v')).mutation.check s = .ok () ↔ userID ∈ s.users
        ∧ ¬ (ActiveAdmin v ∧ ¬ ActiveAdmin v' ∧ s.activeWorkspaceAdminsLocked workspaceID ≤ 1) := by
  subst hw hu
  simp only [Op.mutation, WorkspaceOp.mutation, upsertMembership, check_bind, require_eq_ok, hv, Option.any_some,
    decide_eq_true_eq]
  constructor
  · rintro ⟨_, -, _, hu, hlast⟩
    exact ⟨hu, hlast⟩
  · rintro ⟨hu, hlast⟩
    exact ⟨(), hworkspace, (), hu, hlast⟩

theorem upsertMembership_writes (v' : Membership) (commit : Commit) :
    ∃ t, (Op.workspace (.upsertMembership v')).mutation.write commit s = .ok t := ⟨_, rfl⟩

/-- `GrantRole`, once the actor is authorized. -/
theorem accepts_grantRoleRead (h : Undisturbed m ctx io s) (hworkspace : workspaceID ∈ s.workspaces)
    (hv : s.membership? workspaceID userID = some v) (role : Role) :
    Accepts (m.grantRoleRead ctx io actor workspaceID userID role) s
      ↔ (v.provisioningSource = "" ∨ v.provisioningSource = "local") ∧ userID ∈ s.users
        ∧ ¬ (ActiveAdmin v ∧ s.activeWorkspaceAdminsLocked workspaceID ≤ 1 ∧ role ≠ .admin) := by
  rw [grantRoleRead, accepts_find_bind h.context, hv, grantRoleOver, accepts_demand_bind, Option.map_some,
    Option.all_some, decide_eq_true_eq, normalizeMembership_source_local]
  refine and_congr_right fun _ => ?_
  refine h.accepts_change (h.clock 3) (by decide) fun event value hlog => ?_
  rw [h.accepts_commit hlog _ (upsertMembership_writes _ _), check_upsertMembership hworkspace hv rfl rfl]
  refine and_congr_right fun _ => not_congr (and_congr_right fun hadmin => ?_)
  have hstatus : (normalizeMembership v).status = .active := (normalizeMembership_status (by simp [hadmin.2])).trans
    hadmin.2
  simp only [ActiveAdmin, Option.map_some, Option.getD_some, hstatus, and_true]
  exact and_comm

/-- `upsertLocalMembership` over a membership, once the actor is authorized. -/
theorem accepts_upsertLocalRead (h : Undisturbed m ctx io s) (hworkspace : workspaceID ∈ s.workspaces)
    (hv : s.membership? workspaceID userID = some v) (status : MembershipStatus) :
    Accepts (m.upsertLocalRead ctx io actor workspaceID userID v.role status false) s
      ↔ (v.provisioningSource = "" ∨ v.provisioningSource = "local") ∧ userID ∈ s.users
        ∧ ¬ (ActiveAdmin v ∧ s.activeWorkspaceAdminsLocked workspaceID ≤ 1 ∧ status ≠ .active) := by
  rw [upsertLocalRead, accepts_find_bind h.context, hv, upsertLocalOver, accepts_demand_bind, Option.map_some,
    Option.all_some, decide_eq_true_eq, normalizeMembership_source_eq_local, accepts_demand_bind]
  simp only [and_true, Option.isSome_some, true_or, true_and]
  refine and_congr_right fun _ => ?_
  refine h.accepts_change (h.clock 2) (by decide) fun event value hlog => ?_
  rw [accepts_bind_pure, h.accepts_commit hlog _ (upsertMembership_writes _ _),
    check_upsertMembership hworkspace hv rfl rfl]
  refine and_congr_right fun _ => not_congr (and_congr_right fun hadmin => ?_)
  simp only [ActiveAdmin, hadmin.1, true_and]
  exact and_comm

/-- `RemoveMembership`, once the actor is authorized. -/
theorem accepts_removeRead (h : Undisturbed m ctx io s) (hv : s.membership? workspaceID userID = some v) :
    Accepts (m.removeRead ctx io actor workspaceID userID) s
      ↔ (v.provisioningSource = "" ∨ v.provisioningSource = "local")
        ∧ ¬ (ActiveAdmin v ∧ s.activeWorkspaceAdminsLocked workspaceID ≤ 1) := by
  rw [removeRead, accepts_read_bind]
  simp only [answer_membership h.context hv, Except.ok.injEq, exists_eq_left']
  rw [removeOver, accepts_demand_bind, normalizeMembership_source_eq_local]
  refine and_congr_right fun _ => ?_
  refine h.accepts_change (h.clock 1) (by decide) fun event value hlog => ?_
  rw [h.accepts_commit hlog _ ⟨_, rfl⟩]
  have hmember : (s.memberships.getI workspaceID).get? userID = some v := hv
  have hmembers : s.memberships.get? workspaceID = some (s.memberships.getI workspaceID) := by
    refine FMap.get?_of_getI_ne fun hdefault => ?_
    rw [hdefault] at hmember
    cases hmember
  simp only [Op.mutation, WorkspaceOp.mutation, Memory.removeMembership, check_bind, find_eq_ok, hmembers, hmember,
    Option.some.injEq, exists_eq_left', require_eq_ok]

/-- A membership that is not added takes no second permission. -/
theorem accepts_addition {α : Type} {f : Unit → Routine α} :
    Accepts (m.requireAddition ctx actor workspaceID false >>= f) s ↔ Accepts (f ()) s := Iff.rfl

theorem mem_of_answer_workspace {workspace : Workspace}
    (h : (s.answer ctx (.workspaceByID workspaceID)).toExcept = .ok workspace) : workspaceID ∈ s.workspaces :=
  FMap.mem_of_get? (get?_of_read h)

/-- An authorized actor acts in a workspace that is there. -/
theorem workspace_of_authorizeMutation {now : Time} {permission operation : String}
    (hop : operation ≠ "workspace.enable")
    (h : Accepts (m.authorizeWorkspaceMutation ctx now actor workspaceID permission operation) s) :
    workspaceID ∈ s.workspaces := by
  obtain ⟨-, -, -, workspace, hworkspace, -⟩ := seen_of_authorizeWorkspaceMutation memory_serves hop h
  exact mem_of_answer_workspace hworkspace

theorem workspace_of_authorizePermission {permission : String}
    (h : Accepts (m.authorizePermission ctx actor workspaceID permission).routine s) :
    workspaceID ∈ s.workspaces := by
  obtain ⟨_, _, hreturns⟩ := memory_serves.succeeds_routine.mp h
  obtain ⟨⟨-, -, -, -, -, -, workspace, hworkspace, -⟩, -⟩ := authorizePermission_ok.mp hreturns
  exact mem_of_answer_workspace hworkspace

/-- **An authorized change that nothing disturbs succeeds exactly if the membership is within reach and the
change does not remove the last active administrator.** -/
theorem accepts_routine {c : MemberChange} (h : Undisturbed m ctx io s)
    (hv : s.membership? workspaceID userID = some v)
    (hauth : Accepts (c.authorization m ctx io actor workspaceID) s) (hvalid : c.Valid m) :
    Accepts (c.routine m ctx io actor workspaceID userID) s
      ↔ c.WithinReach m userID s v ∧ ¬ c.RemovesLastAdmin workspaceID s v := by
  cases c with
  | setMembershipStatus status =>
    rw [MemberChange.authorization, accepts_check_bind (m.authorizeWorkspaceMutation_reading ..)] at hauth
    have hworkspace := workspace_of_authorizeMutation (by decide) hauth.1
    rw [MemberChange.routine, accepts_bind_pure, setMembershipStatus, accepts_demand_bind,
      accepts_check_bind (m.authorizeWorkspaceMutation_reading ..), setStatusRead, accepts_read_bind]
    simp only [answer_membership h.context hv, Except.ok.injEq, exists_eq_left']
    rw [upsertLocalMembership, accepts_check_bind (m.authorizeWorkspaceMutation_reading ..), accepts_addition,
      accepts_demand_bind, accepts_read_bind, exists_and_right, answer_user h.context, normalizeMembership_role,
      accepts_upsertLocalRead (h.after 1) hworkspace hv]
    simp only [MemberChange.WithinReach, MemberChange.RemovesLastAdmin]
    have hfirst := hauth.1
    have hsecond : Accepts (m.authorizeWorkspaceMutation ctx ((io.after 1).now 0) actor workspaceID
      "workspace.users.write" (localOperation false)) s := hauth.2
    have hstatus : status = .active ∨ status = .suspended := hvalid
    tauto
  | removeMembership =>
    rw [MemberChange.routine, Accounts.removeMembership,
      accepts_check_bind (m.authorizeWorkspaceMutation_reading ..), accepts_removeRead h hv]
    simp only [MemberChange.WithinReach, MemberChange.RemovesLastAdmin, and_true]
    exact and_iff_right hauth
  | grantRole role =>
    rw [MemberChange.authorization, accepts_check_bind (m.requireScopedStepUp_reading ..)] at hauth
    have hworkspace := workspace_of_authorizePermission hauth.2
    rw [MemberChange.routine, grantRole, accepts_check_bind (m.requireScopedStepUp_reading ..),
      accepts_check_bind (m.authorizePermission_reading ..), accepts_demand_bind, accepts_read_bind,
      exists_and_right, answer_user h.context, accepts_grantRoleRead h hworkspace hv]
    simp only [MemberChange.WithinReach, MemberChange.RemovesLastAdmin]
    have hknown : m.knownRole role = true := hvalid
    tauto

/-- **The property holds where the membership is within reach, and nowhere else**: an authorized change
succeeds unless it would remove the last active administrator, exactly if the membership is a local one (or
the change would remove that administrator). -/
theorem succeeds_change_iff (m : Accounts) (ctx : Context) (io : AccountSupply) (actor : Authentication)
    (workspaceID userID : UUID) (c : MemberChange) (s : Store) (v : Membership) (h : Undisturbed m ctx io s)
    (hv : s.membership? workspaceID userID = some v)
    (hauth : Accepts (c.authorization m ctx io actor workspaceID) s) (hvalid : c.Valid m) :
    (¬ c.RemovesLastAdmin workspaceID s v → Accepts (c.routine m ctx io actor workspaceID userID) s)
      ↔ c.WithinReach m userID s v ∨ c.RemovesLastAdmin workspaceID s v := by
  rw [accepts_routine h hv hauth hvalid]
  tauto

end Change

/-- One identifier for every event. -/
def steadySupply : AccountSupply := { tenantAccountSupply 700 with newID := fun _ => .ok (uuidv7 700) }

theorem steadySupply_undisturbed (calls : List Call) (haudit : (Store.after calls).auditFailure = none)
    (hfresh : uuidv7 700 ∉ (Store.after calls).auditIDs) :
    Undisturbed tenantAccounts {} steadySupply (Store.after calls) where
  context := rfl
  hooks _ _ := rfl
  audit := haudit
  clock _ := (by decide : truncateMicro 1000 ≠ 0)
  ids _ := ⟨uuidv7 700, rfl, by decide, hfresh⟩

/-- User 1 suspends user 2, whose membership is a local one. -/
theorem succeeds_change_tenant :
    Accepts ((MemberChange.setMembershipStatus .suspended).routine tenantAccounts {} steadySupply
      tenantAdministrator (uuidv7 1) (uuidv7 2)) (Store.after tenantCalls) := by
  refine (succeeds_change_iff tenantAccounts {} steadySupply tenantAdministrator (uuidv7 1) (uuidv7 2)
    (.setMembershipStatus .suspended) (Store.after tenantCalls) _
    (steadySupply_undisturbed tenantCalls rfl (by decide +kernel)) rfl
    (succeeds_iff.mpr ⟨(), by decide +kernel⟩) (.inr rfl)).mpr (.inl ⟨.inr rfl, rfl, by decide +kernel⟩) ?_
  rintro ⟨-, hlast, -⟩
  exact absurd hlast (by decide +kernel)

/-- A confirmed domain whose users join the workspace. -/
def joiningCalls : List Call := tenantCalls ++
  [⟨.createWorkspaceDomain { (default : WorkspaceDomain) with
      id := uuidv7 90, workspaceID := uuidv7 1, domain := "example.org", confirmedAt := some 6, autoJoin := true,
      autoJoinRole := .member, ssoProviderConfigurationID := uuidv7 91 } 0, commitOf (uuidv7 506) 6, {}⟩]

/-- The sign-in of a user of that domain, who is not known yet. -/
def joining : Routine Authentication :=
  tenantAccounts.finishSSOJIT {} (tenantAccountSupply 900) ⟨.oidc, fun _ _ => .error .invalidCredentials⟩
    { id := uuidv7 92, providerConfigurationID := uuidv7 91, operation := .login, userID := 0, expiresAt := 2000,
      session := [] }
    { issuer := "https://id.example.org", subject := "three", email := "three@example.org",
      emailVerified := true, acr := "", amr := [] } aal1

/-- **A user who was provisioned just in time is out of the reach of every administrator**: there is no
directory, the membership is not the last administrator's, the actor is authorized, and each of the three
functions reports a conflict. -/
theorem provisioned_out_of_reach :
    let s := (joining.program.exec Memory.access (Store.after joiningCalls)).2
    (s.membership? (uuidv7 1) (uuidv7 900)).map (fun v => (v.role, v.provisioningSource))
        = some (.member, "jit:" ++ (uuidv7 90).string)
      ∧ s.scimConfigurations.count (fun _ _ => True) = 0
      ∧ ∀ c ∈ [MemberChange.setMembershipStatus .suspended, .removeMembership, .grantRole .admin],
        ((c.authorization tenantAccounts {} steadySupply tenantAdministrator (uuidv7 1)).program.exec Memory.access
            s).1 = .ok ()
          ∧ ((c.routine tenantAccounts {} steadySupply tenantAdministrator (uuidv7 1)
            (uuidv7 900)).program.exec Memory.access s).1 = .error .conflict := by
  decide +kernel

end Stores

end Credbound
