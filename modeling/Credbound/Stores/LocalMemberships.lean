import Credbound.Manager.Invitations
import Credbound.Stores.MembershipStores

/-!
# Stores/LocalMemberships — local changes of memberships, among others, over either store

`GrantRole`, `AddMembership`, `SetMembershipStatus`, `RemoveMembership` and `AcceptInvitation` read a
membership, decide, and write it.  Any number of functions run at once, interleaved access by access with
each other and with any other calls.

* A membership that a directory manages is left by all of them, as long as no other step puts it under the
  directory between the read and the write (`managed_kept`); a directory that adopts it then is
  overwritten (`adoption_overwritten`).
* A role and a status that are set at the same time are both there in the end, as long as the one that is
  written last was read after the other was written (`update_kept`); one is lost otherwise
  (`status_lost`).
-/

namespace Credbound.Stores

open Procedure
open Accounts Manager Memory

/-! ## The last write of a function -/

/-- The program writes the membership next, and returns. -/
def WritesLast {α : Type} (ctx : Context) (workspaceID userID : UUID) (p : Program Access α) : Prop :=
  ∃ op commit k, p = .op (.write ctx op commit) k ∧ op.Overwrites workspaceID userID ∧ ∀ b, ∃ a, k b = .ret a

/-- The program returns at once, or after it has written the membership. -/
def Ends {α : Type} (ctx : Context) (workspaceID userID : UUID) (p : Program Access α) : Prop :=
  (∃ a, p = .ret a) ∨ WritesLast ctx workspaceID userID p

section Ends

variable {α β : Type} {ctx : Context} {workspaceID userID : UUID}

/-- A function that stops at a check returns. -/
theorem returns_of_not {q : Prop} [Decidable q] {e : Err} {f : Unit → Routine α} (hq : ¬ q) :
    ∃ a, (demand q e >>= f : Routine α).program = .ret a := by
  rw [demand, if_neg hq]
  exact ⟨_, rfl⟩

theorem ends_demand_bind {q : Prop} [Decidable q] {e : Err} {f : Unit → Routine α}
    (hf : Ends ctx workspaceID userID (f ()).program) :
    Ends ctx workspaceID userID (demand q e >>= f : Routine α).program := by
  by_cases hq : q
  · rwa [demand, if_pos hq]
  · exact .inl (returns_of_not hq)

theorem ends_lift_bind {x : Except Err β} {f : β → Routine α}
    (hf : ∀ b, Ends ctx workspaceID userID (f b).program) :
    Ends ctx workspaceID userID (lift x >>= f : Routine α).program := by
  cases x with
  | error e => exact .inl ⟨_, rfl⟩
  | ok b => exact hf b

theorem ends_write {op : Op} {commit : Commit} {g : Err → Err} (hop : op.Overwrites workspaceID userID) :
    Ends ctx workspaceID userID ((Routine.write ctx op commit).mapError g).program := by
  refine .inr ⟨op, commit, _, rfl, hop, fun b => ?_⟩
  cases b with
  | error | ok => exact ⟨_, rfl⟩

theorem ends_write_bind {op : Op} {commit : Commit} {g : Err → Err} {a : α}
    (hop : op.Overwrites workspaceID userID) :
    Ends ctx workspaceID userID ((Routine.write ctx op commit).mapError g >>= fun _ => pure a :
      Routine α).program := by
  refine .inr ⟨op, commit, _, rfl, hop, fun b => ?_⟩
  cases b with
  | error | ok => exact ⟨_, rfl⟩

theorem Ends.map (f : α → β) {p : Program Access α} (hp : Ends ctx workspaceID userID p) :
    Ends ctx workspaceID userID (p.bind fun a => .ret (f a)) := by
  obtain ⟨a, rfl⟩ | ⟨op, commit, k, rfl, hop, hk⟩ := hp
  · exact .inl ⟨f a, rfl⟩
  · refine .inr ⟨op, commit, _, rfl, hop, fun b => ?_⟩
    obtain ⟨a, ha⟩ := hk b
    exact ⟨f a, by rw [ha]; rfl⟩

end Ends

/-- What is read of a membership says that no directory manages it. -/
def ReadsLocal : Except Err Membership → Prop
  | .ok v => v.provisioningSource = "" ∨ v.provisioningSource = "local"
  | .error e => e = .notFound

/-- **A membership is written right after it was read as a local one**; until then the program only
checks. -/
inductive Guarded {α : Type} : Program Access α → Prop
  | ret (a : α) : Guarded (.ret a)
  | check {β : Type} (e : Access β) (k : β → Program Access α) (he : Checking e) (hk : ∀ b, Guarded (k b)) :
      Guarded (.op e k)
  | overwrite (ctx : Context) (workspaceID userID : UUID) (k : Except Err Membership → Program Access α)
      (hk : ∀ b, (∃ a, k b = .ret a) ∨ ReadsLocal b ∧ Ends ctx workspaceID userID (k b)) :
      Guarded (.op (.read ctx (.membership workspaceID userID)) k)

section Guarded

variable {α β : Type} {ctx : Context} {workspaceID userID : UUID} {p : Program Access α}

theorem guarded_of_emits (hp : p.Emits Checking) : Guarded p := by
  induction hp with
  | ret a => exact .ret a
  | op e k he hk ih => exact .check e k he ih

/-- A program that only checks until it comes to a guarded part. -/
theorem Guarded.of_before {early : α → Prop} {body : Program Access α} (hp : Program.Before Checking early body p)
    (hbody : Guarded body) : Guarded p := by
  induction hp with
  | here => exact hbody
  | ret a ha => exact .ret a
  | op e k he hk ih => exact .check e k he ih

theorem guarded_bind {p : Routine α} {f : α → Routine β} (hp : p.Emits Checking)
    (hf : ∀ a, Guarded (f a).program) : Guarded (p >>= f : Routine β).program := by
  have hprogram : ∀ (p : Program Access (Except Err α)), p.Emits Checking →
      Guarded (program (Procedure.bind p f)) := by
    intro p hp
    induction hp with
    | ret r =>
      cases r with
      | error e => exact .ret _
      | ok a => exact hf a
    | op e k he hk ih => exact .check e _ he ih
  exact hprogram p hp

theorem guarded_read {f : Membership → Routine β} (hf : ∀ v, (∃ a, (f v).program = .ret a)
      ∨ (v.provisioningSource = "" ∨ v.provisioningSource = "local")
        ∧ Ends ctx workspaceID userID (f v).program) :
    Guarded (Routine.read ctx (.membership workspaceID userID) >>= f : Routine β).program := by
  refine .overwrite ctx workspaceID userID _ fun b => ?_
  cases b with
  | error e => exact .inl ⟨_, rfl⟩
  | ok v => exact hf v

theorem guarded_find {f : Option Membership → Routine β} (hf : ∀ found, (∃ a, (f found).program = .ret a)
      ∨ (∀ v, found = some v → v.provisioningSource = "" ∨ v.provisioningSource = "local")
        ∧ Ends ctx workspaceID userID (f found).program) :
    Guarded (Routine.find ctx (.membership workspaceID userID) >>= f : Routine β).program := by
  refine .overwrite ctx workspaceID userID _ fun b => ?_
  cases b with
  | error e =>
    by_cases he : e = .notFound
    · subst he
      obtain hret | ⟨-, hends⟩ := hf none
      · exact .inl hret
      · exact .inr ⟨rfl, hends⟩
    · have hfails : (if e = .notFound then pure none else fail e : Routine (Option Membership))
          = fail e := if_neg he
      refine .inl ⟨.error e, ?_⟩
      show program (Procedure.bind (if e = .notFound then pure none else fail e) f) = _
      rw [hfails]
      rfl
  | ok v =>
    obtain hret | ⟨hlocal, hends⟩ := hf (some v)
    · exact .inl hret
    · exact .inr ⟨hlocal v rfl, hends⟩

/-- A program whose value is replaced. -/
theorem Guarded.map (f : α → β) (hp : Guarded p) : Guarded (p.bind fun a => .ret (f a)) := by
  induction hp with
  | ret a => exact .ret (f a)
  | check e k he hk ih => exact .check e _ he ih
  | overwrite ctx workspaceID userID k hk =>
    refine .overwrite ctx workspaceID userID _ fun b => ?_
    obtain ⟨a, ha⟩ | ⟨hlocal, hends⟩ := hk b
    · exact .inl ⟨f a, by rw [ha]; rfl⟩
    · exact .inr ⟨hlocal, hends.map f⟩

end Guarded

/-! ## The five functions -/

/-- A call of one of the functions that change a local membership. -/
inductive LocalChange
  | grantRole (workspaceID userID : UUID) (role : Role)
  | addMembership (workspaceID userID : UUID) (role : Role)
  | setMembershipStatus (workspaceID userID : UUID) (status : MembershipStatus)
  | removeMembership (workspaceID userID : UUID)
  | acceptInvitation (raw : String)

/-- The function, without the membership it returns. -/
def LocalChange.program (m : Accounts) (ctx : Context) (io : AccountSupply) (actor : Authentication) :
    LocalChange → Program Access (Except Err Unit)
  | .grantRole workspaceID userID role => (m.grantRole ctx io actor workspaceID userID role).program
  | .addMembership workspaceID userID role =>
      (m.addMembership ctx io actor workspaceID userID role).program.bind fun r => .ret (r.map fun _ => ())
  | .setMembershipStatus workspaceID userID status =>
      (m.setMembershipStatus ctx io actor workspaceID userID status).program.bind
        fun r => .ret (r.map fun _ => ())
  | .removeMembership workspaceID userID => (m.removeMembership ctx io actor workspaceID userID).program
  | .acceptInvitation raw =>
      (m.acceptInvitation ctx io actor raw).program.bind fun r => .ret (r.map fun _ => ())

section Functions

variable (m : Accounts) (ctx : Context) (io : AccountSupply) (actor : Authentication) (workspaceID userID : UUID)

theorem grantRoleRead_guarded (role : Role) :
    Guarded (m.grantRoleRead ctx io actor workspaceID userID role).program := by
  refine guarded_find fun found => ?_
  by_cases hlocal : (found.all (fun v => decide (v.provisioningSource = "" ∨ v.provisioningSource = "local")))
      = true
  · refine .inr ⟨fun v hv => ?_, ends_demand_bind (ends_lift_bind fun _ => ends_lift_bind fun _ =>
      ends_write ⟨rfl, rfl⟩)⟩
    subst hv
    exact of_decide_eq_true hlocal
  · exact .inl (returns_of_not hlocal)

theorem upsertLocalRead_guarded (role : Role) (status : MembershipStatus) (add : Bool) :
    Guarded (m.upsertLocalRead ctx io actor workspaceID userID role status add).program := by
  refine guarded_find fun found => ?_
  by_cases hlocal : (found.all (fun v => decide (v.provisioningSource = "local" ∧ add = false))) = true
  · refine .inr ⟨fun v hv => ?_, ends_demand_bind (ends_demand_bind (ends_lift_bind fun _ =>
      ends_lift_bind fun _ => ends_write_bind ⟨rfl, rfl⟩))⟩
    subst hv
    exact .inr (of_decide_eq_true hlocal).1
  · exact .inl (returns_of_not hlocal)

theorem requireAddition_checking (add : Bool) :
    (m.requireAddition ctx actor workspaceID add).Emits Checking := by
  unfold requireAddition
  split
  · exact (m.authorizePermission_reading ctx actor workspaceID _).mono checking_of_reading
  · exact emits_pure

theorem authorizeMutation_checking (now : Time) (permission operation : String) :
    (m.authorizeWorkspaceMutation ctx now actor workspaceID permission operation).Emits Checking :=
  (m.authorizeWorkspaceMutation_reading ctx now actor workspaceID permission operation).mono checking_of_reading

/-- `upsertLocalMembership` only checks until it looks for the membership. -/
theorem upsertLocalMembership_before (role : Role) (status : MembershipStatus) (add : Bool) :
    Procedure.Before Checking (fun r => ∃ e, r = .error e)
      (m.upsertLocalRead ctx io actor workspaceID userID role status add)
      (m.upsertLocalMembership ctx io actor workspaceID userID role status add) := by
  refine before_bind (fun e => ⟨e, rfl⟩) (authorizeMutation_checking m ctx actor workspaceID _ _ _) fun _ => ?_
  refine before_bind (fun e => ⟨e, rfl⟩) (requireAddition_checking m ctx actor workspaceID add) fun _ => ?_
  refine before_bind (fun e => ⟨e, rfl⟩) emits_demand fun _ => ?_
  exact before_bind (fun e => ⟨e, rfl⟩) (emits_read trivial) fun _ => .here

theorem upsertLocalMembership_guarded (role : Role) (status : MembershipStatus) (add : Bool) :
    Guarded (m.upsertLocalMembership ctx io actor workspaceID userID role status add).program :=
  .of_before (upsertLocalMembership_before m ctx io actor workspaceID userID role status add)
    (upsertLocalRead_guarded m ctx io actor workspaceID userID role status add)

/-- `GrantRole` only checks until it reads the membership. -/
theorem grantRole_before (role : Role) :
    Procedure.Before Checking (fun r => r ≠ .ok ()) (m.grantRoleRead ctx io actor workspaceID userID role)
      (m.grantRole ctx io actor workspaceID userID role) := by
  refine before_bind nofun ((m.requireScopedStepUp_reading ctx _ actor _).mono checking_of_reading)
    fun _ => ?_
  refine before_bind nofun
    ((m.authorizePermission_reading ctx actor workspaceID _).mono checking_of_reading) fun _ => ?_
  refine before_bind nofun emits_demand fun _ => ?_
  exact before_bind nofun (emits_read trivial) fun _ => .here

/-- `SetMembershipStatus` only checks until it reads the membership for its role. -/
theorem setMembershipStatus_before (status : MembershipStatus) :
    Procedure.Before Checking (fun r => ∃ e, r = .error e) (m.setStatusRead ctx io actor workspaceID userID status)
      (m.setMembershipStatus ctx io actor workspaceID userID status) := by
  refine before_bind (fun e => ⟨e, rfl⟩) emits_demand fun _ => ?_
  exact before_bind (fun e => ⟨e, rfl⟩) (authorizeMutation_checking m ctx actor workspaceID _ _ _)
    fun _ => .here

theorem acceptRead_guarded (invitation : WorkspaceInvitation) :
    Guarded (m.acceptRead ctx io actor invitation).program := by
  refine guarded_find fun found => ?_
  cases found with
  | none =>
    exact .inr ⟨nofun, ends_demand_bind (ends_lift_bind fun _ => ends_lift_bind fun _ => ends_lift_bind fun _ =>
      ends_write_bind ⟨rfl, rfl, rfl⟩)⟩
  | some v => exact .inl ⟨_, rfl⟩

theorem usableInvitation_checking (raw action : String) :
    (m.usableInvitation ctx io raw action).Emits Checking := by
  unfold usableInvitation
  split
  · exact emits_fail
  · refine emits_bind (emits_mapError (emits_read trivial)) fun invitation => ?_
    split
    · exact denyAuthentication_checking
    · refine emits_bind (emits_read trivial) fun _ => ?_
      exact emits_bind emits_demand fun _ => emits_pure

end Functions

/-- **Each of the five writes a membership right after it has read it as a local one.** -/
theorem LocalChange.guarded (m : Accounts) (ctx : Context) (io : AccountSupply) (actor : Authentication)
    (c : LocalChange) : Guarded (c.program m ctx io actor) := by
  cases c with
  | grantRole workspaceID userID role =>
    exact .of_before (grantRole_before m ctx io actor workspaceID userID role)
      (grantRoleRead_guarded m ctx io actor workspaceID userID role)
  | addMembership workspaceID userID role =>
    exact (upsertLocalMembership_guarded m ctx io actor workspaceID userID role _ _).map _
  | setMembershipStatus workspaceID userID status =>
    refine Guarded.map _ (.of_before (setMembershipStatus_before m ctx io actor workspaceID userID status) ?_)
    refine guarded_bind (emits_read trivial) fun current => ?_
    exact upsertLocalMembership_guarded m ctx _ actor workspaceID userID current.role status false
  | removeMembership workspaceID userID =>
    refine guarded_bind (authorizeMutation_checking m ctx actor workspaceID _ _ _) fun _ => ?_
    refine guarded_read fun v => ?_
    by_cases hlocal : v.provisioningSource = "local"
    · exact .inr ⟨.inr hlocal, ends_demand_bind (ends_lift_bind fun _ => ends_lift_bind fun _ =>
        ends_write ⟨rfl, rfl⟩)⟩
    · exact .inl (returns_of_not hlocal)
  | acceptInvitation raw =>
    refine Guarded.map _ ?_
    refine guarded_bind ((m.requireRecentInteractive_reading ctx _ actor).mono checking_of_reading) fun _ => ?_
    refine guarded_bind (usableInvitation_checking m ctx _ raw _) fun invitation => ?_
    refine guarded_bind (emits_bind (emits_call trivial) fun _ => emits_pure) fun owned => ?_
    split
    · exact acceptRead_guarded m ctx _ actor invitation
    · exact guarded_of_emits denyAuthentication_checking

/-! ## Memberships of a directory -/

section Managed

variable {S L α : Type} (store : MembershipStore S)

/-- What the program writes next is not managed, and what it writes later it reads first. -/
def Careful (s : S) (p : Program Access α) : Prop :=
  Guarded p ∨ ∃ ctx workspaceID userID, WritesLast ctx workspaceID userID p
    ∧ (ctx.err = none → ¬ store.Managed s workspaceID userID)

variable {store} {s : S} {workspaceID userID : UUID}

/-- A membership that is read as a local one is not managed. -/
theorem not_managed_of_read {ctx : Context} (hctx : ctx.err = none)
    (hread : ReadsLocal (store.access (.read ctx (.membership workspaceID userID)) s).1) :
    ¬ store.Managed s workspaceID userID := by
  rintro ⟨v, id, hv, -, hsource⟩
  cases hanswer : (store.access (.read ctx (.membership workspaceID userID)) s).1 with
  | error e =>
    rw [hanswer] at hread
    obtain rfl : e = .notFound := hread
    rw [store.missing ctx workspaceID userID s hctx hanswer] at hv
    cases hv
  | ok shown =>
    rw [hanswer] at hread
    have hfound := store.found ctx workspaceID userID s shown hanswer
    rw [hv, Option.map_some] at hfound
    have hshown := store.shown_source v (hsource ▸ UUID.string_ne_empty id)
    rw [Option.some.inj hfound, hsource] at hshown
    obtain hempty | hlocal := hread
    · exact UUID.string_ne_empty id (hshown.symm.trans hempty)
    · exact UUID.string_ne_local id (hshown.symm.trans hlocal)

/-- One access of a careful program leaves it careful. -/
theorem Careful.step {β : Type} {e : Access β} {k : β → Program Access α} (hp : Careful store s (.op e k)) :
    Careful store (store.access e s).2 (k (store.access e s).1) := by
  obtain hguarded | ⟨ctx, w, u, ⟨op, commit, k', hop, -, hk⟩, -⟩ := hp
  · cases hguarded with
    | check _ _ _ hk => exact .inl (hk _)
    | overwrite ctx w u _ hk =>
      obtain ⟨a, ha⟩ | ⟨hlocal, ⟨a, ha⟩ | hwrites⟩ := hk (store.access (.read ctx (.membership w u)) s).1
      · exact .inl (ha ▸ .ret a)
      · exact .inl (ha ▸ .ret a)
      · refine .inr ⟨ctx, w, u, hwrites, fun hctx => ?_⟩
        rw [store.reading (.read ctx (.membership w u)) s trivial]
        exact not_managed_of_read hctx hlocal
  · cases hop
    obtain ⟨a, ha⟩ := hk (store.access (.write ctx op commit) s).1
    exact .inl (ha ▸ .ret a)

/-- …and leaves a managed membership. -/
theorem Careful.keeps {β : Type} {e : Access β} {k : β → Program Access α} (hp : Careful store s (.op e k))
    (hmanaged : store.Managed s workspaceID userID) :
    store.membership (store.access e s).2 workspaceID userID = store.membership s workspaceID userID := by
  obtain hguarded | ⟨ctx, w, u, ⟨op, commit, k', hop, hover, -⟩, hfree⟩ := hp
  · cases hguarded with
    | check _ _ he _ => exact store.checking e s workspaceID userID he
    | overwrite ctx w u _ _ => exact store.checking _ s workspaceID userID trivial
  · cases hop
    by_cases hctx : ctx.err = none
    · refine store.frame ctx op commit s w u workspaceID userID hover fun heq => hfree hctx ?_
      cases heq
      exact hmanaged
    · obtain ⟨e, he⟩ := store.stopped ctx op commit s w u hover hctx
      rw [he]

variable (store) (env : S → L → S)

/-- **A managed membership is left by the five functions**: whenever one of them makes an access, every
membership whose source is a SCIM configuration in the state it makes it in stays as it is, provided that
no other step puts a membership under a directory while the function is about to write it. -/
theorem managed_kept (m : Accounts) (ctx : Context) (io : AccountSupply) (actor : Authentication)
    (c : LocalChange) (pool : Pool Access S (Except Err Unit)) (labels : List (Pool.Label L)) (i : ℕ)
    (hi : pool.threads[i]? = some (c.program m ctx io actor))
    (hothers : Run.Meets (Pool.step store.access env) (fun pool l => l ≠ .thread i →
      ∀ p ctx w u, pool.threads[i]? = some p → WritesLast ctx w u p →
        store.Managed (pool.step store.access env l).state w u → store.Managed pool.state w u) pool labels)
    {β : Type} (e : Access β) (s : S) (hmade : pool.MadeAt store.access env labels i e s)
    (workspaceID userID : UUID) (hmanaged : store.Managed s workspaceID userID) :
    store.membership (store.access e s).2 workspaceID userID = store.membership s workspaceID userID := by
  obtain ⟨before, after, k, rfl, hk, rfl⟩ := hmade
  have hcareful : ∃ p, (Run.run (Pool.step store.access env) pool before).threads[i]? = some p
      ∧ Careful store (Run.run (Pool.step store.access env) pool before).state p := by
    refine Run.invariant (I := fun pool : Pool Access S (Except Err Unit) =>
      ∃ p, pool.threads[i]? = some p ∧ Careful store pool.state p) (fun pool l hpool hquiet => ?_)
      ⟨_, hi, .inl (c.guarded m ctx io actor)⟩ (Run.meets_append.mp hothers).1
    obtain ⟨p, hi, hp⟩ := hpool
    obtain ⟨hsame, hidle⟩ | ⟨β, e, k, -, rfl, hstate, hnext⟩ := Pool.step_of store.access env hi l
    · refine ⟨p, hsame, ?_⟩
      obtain hl | ⟨-, a, rfl⟩ := hidle
      · -- a step of another leaves what the program is about to write free
        obtain hguarded | ⟨ctx, w, u, hwrites, hfree⟩ := hp
        · exact .inl hguarded
        · exact .inr ⟨ctx, w, u, hwrites, fun hctx hman => hfree hctx (hquiet hl p ctx w u hi hwrites hman)⟩
      · exact .inl (.ret a)
    · rw [hstate]
      exact ⟨_, hnext, hp.step⟩
  obtain ⟨p, hp, hcareful⟩ := hcareful
  obtain rfl : p = .op e k := Option.mem_unique hp hk
  exact hcareful.keeps hmanaged

end Managed

/-- The directory takes the membership of user 2 over. -/
def adoption : Call :=
  tenantCall (.directory (.adoptSCIMUser
    { tenantMembership 2 .admin .active with provisioningSource := tenantConfiguration.id.string }
    { (default : SCIMUser) with
      id := uuidv7 61, configurationID := uuidv7 60, userID := uuidv7 2, userName := "two" })) 7

/-- User 1 grants a role. -/
def tenantGrantRole (user : Nat) (role : Role) : Program Access (Except Err Unit) :=
  (LocalChange.grantRole (uuidv7 1) (uuidv7 user) role).program tenantAccounts {} (tenantAccountSupply 700)
    tenantAdministrator

/-- A role of user 1 is granted while the directory manages the membership of user 2. -/
theorem managed_kept_tenant :
    ∃ op commit s, Pool.MadeAt Memory.access Call.next
        ⟨Store.after (switchCalls ++ [adoption]), [tenantGrantRole 1 .admin]⟩ (List.replicate 7 (.thread 0)) 0
        (.write {} op commit) s
      ∧ memoryMemberships.Managed s (uuidv7 1) (uuidv7 2)
      ∧ memoryMemberships.membership (Memory.access (.write {} op commit) s).2 (uuidv7 1) (uuidv7 2)
        = memoryMemberships.membership s (uuidv7 1) (uuidv7 2) := by
  have hmade : ∃ op commit s, Pool.MadeAt Memory.access Call.next
        ⟨Store.after (switchCalls ++ [adoption]), [tenantGrantRole 1 .admin]⟩ (List.replicate 7 (.thread 0)) 0
        (.write {} op commit) s ∧ s = Store.after (switchCalls ++ [adoption]) :=
    ⟨_, _, _, ⟨List.replicate 6 (.thread 0), [], _, rfl, rfl, rfl⟩, rfl⟩
  obtain ⟨op, commit, s, hmade, hs⟩ := hmade
  have hmanaged : memoryMemberships.Managed s (uuidv7 1) (uuidv7 2) := by
    rw [hs]
    have hconfigured : uuidv7 60 ∈ (Store.after (switchCalls ++ [adoption])).scimConfigurations := by
      decide +kernel
    exact ⟨_, uuidv7 60, rfl, hconfigured, rfl⟩
  refine ⟨op, commit, s, hmade, hmanaged, managed_kept memoryMemberships Call.next tenantAccounts {}
    (tenantAccountSupply 700) tenantAdministrator (.grantRole (uuidv7 1) (uuidv7 1) .admin) _ _ 0 rfl ?_ _ s
    hmade (uuidv7 1) (uuidv7 2) hmanaged⟩
  refine Run.meets_of_mem fun l hl pool hne => absurd ?_ hne
  exact List.eq_of_mem_replicate hl

/-- User 1 grants user 2 a role and has read the membership when the directory takes it over. -/
def adopted : Pool Access Store (Except Err Unit) :=
  Run.run (Pool.step Memory.access Call.next) ⟨Store.after switchCalls, [tenantGrantRole 2 .member]⟩
    (List.replicate 6 (.thread 0) ++ [.other adoption])

/-- **A directory that takes a membership over is overwritten**: the function goes through, and the
membership that the directory managed right before is a local one with another role. -/
theorem adoption_overwritten :
    (adopted.step Memory.access Call.next (.thread 0)).threads = [.ret (.ok ())]
      ∧ memoryMemberships.Managed adopted.state (uuidv7 1) (uuidv7 2)
      ∧ (memoryMemberships.membership (adopted.step Memory.access Call.next (.thread 0)).state (uuidv7 1)
          (uuidv7 2)).map (fun v => (v.role, v.provisioningSource)) = some (.member, "local") := by
  have hconfigured : uuidv7 60 ∈ adopted.state.scimConfigurations := by decide +kernel
  exact ⟨rfl, ⟨_, uuidv7 60, rfl, hconfigured, rfl⟩, rfl⟩

/-! ## A role and a status at the same time -/

section Updates

variable {S L α : Type} {store : MembershipStore S} {admits : ⦃β : Type⦄ → Access β → S → Prop} {ctx : Context}
  {io : AccountSupply} {m : Accounts} {actor : Authentication} {workspaceID userID : UUID} {s t : S}
  {v : Membership}

/-- The membership is the same in both states. -/
def SameMembership (store : MembershipStore S) (workspaceID userID : UUID) (s t : S) : Prop :=
  store.membership t workspaceID userID = store.membership s workspaceID userID

theorem same_of_checking {p : Routine α} {r : Except Err α}
    (hrun : p.Runs store.access (SameMembership store workspaceID userID) admits s r t) (hp : p.Emits Checking) :
    store.membership t workspaceID userID = store.membership s workspaceID userID :=
  Program.Runs.invariant_of_emits
    (I := fun t => store.membership t workspaceID userID = store.membership s workspaceID userID) hrun hp
    (fun _ _ hmove hs => hmove.trans hs) (fun _ e m he _ hm => (store.checking e m _ _ he).trans hm) rfl

theorem shown_of_read (hrun : (Routine.read ctx (.membership workspaceID userID)).Runs store.access
      (SameMembership store workspaceID userID) admits s (.ok v) t) :
    (store.membership s workspaceID userID).map store.shown = some v := by
  obtain ⟨m, hmove, -, hanswer, -⟩ := runs_call.mp hrun
  rw [← store.found ctx workspaceID userID m v hanswer]
  exact congrArg (Option.map store.shown) hmove.symm

/-- What is found is the stored membership, unless the context is done. -/
theorem shown_of_find {found : Option Membership} (hctx : ctx.err = none)
    (hrun : (Routine.find ctx (.membership workspaceID userID)).Runs store.access
      (SameMembership store workspaceID userID) admits s (.ok found) t) :
    (store.membership s workspaceID userID).map store.shown = found := by
  obtain ⟨m, hmove, -, -, hanswer⟩ := runs_find_ok hrun
  have hsame : store.membership m workspaceID userID = store.membership s workspaceID userID := hmove
  rw [← hsame]
  cases found with
  | none => rw [store.missing ctx workspaceID userID m hctx hanswer, Option.map_none]
  | some shown => exact store.found ctx workspaceID userID m shown hanswer

/-- A write over a membership that goes through, in a context that is not done. -/
theorem has_of_write {v' : Membership} {commit : Commit} {g : Err → Err} {x : Unit}
    (hrun : ((Routine.write ctx (.workspace (.upsertMembership v')) commit).mapError g).Runs store.access
      (SameMembership store workspaceID userID) admits s (.ok x) t)
    (hs : store.membership s workspaceID userID = some v) (hworkspace : v'.workspaceID = workspaceID)
    (huser : v'.userID = userID) :
    ctx.err = none ∧ store.Has t workspaceID userID v'.role v'.status := by
  subst hworkspace huser
  obtain ⟨m, hmove, -, hanswer, rfl⟩ := runs_call.mp (runs_mapError_ok.mp hrun)
  have hm : store.membership m v'.workspaceID v'.userID = some v := Eq.trans hmove hs
  refine ⟨?_, store.upserted ctx v' commit m (by rw [hm]; rfl) hanswer⟩
  by_contra hctx
  obtain ⟨e, he⟩ := store.stopped ctx (.workspace (.upsertMembership v')) commit m _ _ ⟨rfl, rfl⟩ hctx
  rw [he] at hanswer
  cases hanswer

/-- **`GrantRole` sets the role and keeps the status it reads.** -/
theorem has_of_grantRoleRead {role : Role} {x : Unit}
    (hrun : (m.grantRoleRead ctx io actor workspaceID userID role).Runs store.access
      (SameMembership store workspaceID userID) admits s (.ok x) t)
    (hs : store.membership s workspaceID userID = some v) : store.Has t workspaceID userID role v.status := by
  obtain ⟨found, s₁, hfind, hover⟩ := runs_bind_ok.mp hrun
  have hs₁ := (same_of_checking hfind (emits_find trivial)).trans hs
  simp only [grantRoleOver, runs_bind_ok, runs_demand_ok, runs_lift] at hover
  obtain ⟨_, _, ⟨-, rfl⟩, event, _, ⟨-, rfl⟩, change, _, ⟨-, rfl⟩, hwrite⟩ := hover
  obtain ⟨hctx, v', hv', hrole, hstatus⟩ := has_of_write hwrite hs₁ rfl rfl
  refine ⟨v', hv', hrole, fun hne => ?_⟩
  have hfound := shown_of_find hctx hfind
  rw [hs, Option.map_some] at hfound
  subst hfound
  have hshown := store.shown_status v hne
  exact (hstatus (by simpa [hshown] using hne)).trans (by simpa using hshown)

/-- A function that only checks first comes to the rest with the same membership. -/
theorem runs_of_before {early : Except Err α → Prop} {body p : Routine α} {r : Except Err α}
    (hp : Procedure.Before Checking early body p) (hr : ¬ early r)
    (hrun : p.Runs store.access (SameMembership store workspaceID userID) admits s r t)
    (hs : store.membership s workspaceID userID = some v) :
    ∃ s₁, store.membership s₁ workspaceID userID = some v
      ∧ body.Runs store.access (SameMembership store workspaceID userID) admits s₁ r t :=
  Program.Before.runs (I := fun s => store.membership s workspaceID userID = some v) hp hrun hr
    (fun _ _ hmove hs => Eq.trans hmove hs) (fun _ e m he hm => (store.checking e m _ _ he).trans hm) hs

/-- **`SetMembershipStatus` sets the status and keeps the role it reads first.** -/
theorem has_of_setStatusRead {status : MembershipStatus} {v' : Membership}
    (hrun : (m.setStatusRead ctx io actor workspaceID userID status).Runs store.access
      (SameMembership store workspaceID userID) admits s (.ok v') t)
    (hs : store.membership s workspaceID userID = some v) : store.Has t workspaceID userID v.role status := by
  obtain ⟨current, s₁, hread, hupsert⟩ := runs_bind_ok.mp hrun
  have hs₁ := (same_of_checking hread (emits_read trivial)).trans hs
  have hshown := shown_of_read hread
  rw [hs, Option.map_some] at hshown
  obtain ⟨s₂, hs₂, hupsert⟩ := runs_of_before
    (upsertLocalMembership_before m ctx _ actor workspaceID userID current.role status false) (by simp) hupsert hs₁
  obtain ⟨found, s₃, hfind, hover⟩ := runs_bind_ok.mp hupsert
  have hs₃ := (same_of_checking hfind (emits_find trivial)).trans hs₂
  simp only [upsertLocalOver, runs_bind_ok, runs_demand_ok, runs_lift] at hover
  obtain ⟨_, _, ⟨-, rfl⟩, _, _, ⟨-, rfl⟩, event, _, ⟨-, rfl⟩, change, _, ⟨-, rfl⟩, _, _, hwrite, hret⟩ := hover
  obtain ⟨-, rfl⟩ := runs_pure.mp hret
  obtain ⟨-, w, hw, hrole, hstatus⟩ := has_of_write hwrite hs₃ rfl rfl
  exact ⟨w, hw, hrole.trans (by rw [← Option.some.inj hshown, store.shown_role]), hstatus⟩

theorem runs_of_void {rely : S → S → Prop} {p : Routine α}
    (hrun : (p.program.bind fun r => .ret (r.map fun _ => ())).Runs store.access rely admits s (.ok ()) t) :
    ∃ a, p.Runs store.access rely admits s (.ok a) t := by
  obtain ⟨r, s₁, hp, hret⟩ := Program.runs_bind.mp hrun
  obtain ⟨hr, rfl⟩ := Program.runs_ret.mp hret
  cases r with
  | error e => cases hr
  | ok a => exact ⟨a, hp⟩

theorem valid_of_setMembershipStatus {rely : S → S → Prop} {status : MembershipStatus} {v' : Membership}
    (hrun : (m.setMembershipStatus ctx io actor workspaceID userID status).Runs store.access rely admits s (.ok v')
      t) : status ≠ .other "" := by
  obtain ⟨_, _, hdemand, -⟩ := runs_bind_ok.mp hrun
  obtain ⟨hvalid, -⟩ := runs_demand_ok.mp hdemand
  rintro rfl
  simp at hvalid

variable (store) (env : S → L → S)

/-- The `i`-th function makes the first access of `body` only when the `j`-th has returned. -/
def ComesAfter (pool : Pool Access S (Except Err Unit)) (labels : List (Pool.Label L)) (i j : ℕ)
    (body : Program Access (Except Err Unit)) : Prop :=
  ∀ before after, labels = before ++ .thread i :: after →
    (Run.run (Pool.step store.access env) pool before).threads[i]? = some body →
    ∃ r, (Run.run (Pool.step store.access env) pool before).threads[j]? = some (.ret r)

/-- **Neither of two updates is lost**: a `GrantRole` and a `SetMembershipStatus` of one membership that both
go through, with no other write to it, leave it with that role and that status, provided that one of them
reads the membership only when the other has returned. -/
theorem update_kept (m m' : Accounts) (ctx ctx' : Context) (io io' : AccountSupply)
    (actor actor' : Authentication) (workspaceID userID : UUID) (role : Role) (status : MembershipStatus)
    (pool : Pool Access S (Except Err Unit)) (labels : List (Pool.Label L)) (i j : ℕ)
    (hi : pool.threads[i]? = some ((LocalChange.grantRole workspaceID userID role).program m ctx io actor))
    (hj : pool.threads[j]?
      = some ((LocalChange.setMembershipStatus workspaceID userID status).program m' ctx' io' actor'))
    (hmember : (store.membership pool.state workspaceID userID).isSome)
    (hothers : Run.Meets (Pool.step store.access env) (fun pool l => l ≠ .thread i → l ≠ .thread j →
      SameMembership store workspaceID userID pool.state (pool.step store.access env l).state) pool labels)
    (hidone : (Run.run (Pool.step store.access env) pool labels).threads[i]? = some (.ret (.ok ())))
    (hjdone : (Run.run (Pool.step store.access env) pool labels).threads[j]? = some (.ret (.ok ())))
    (horder : ComesAfter store env pool labels i j
        (m.grantRoleRead ctx io actor workspaceID userID role).program
      ∨ ComesAfter store env pool labels j i
        ((m'.setStatusRead ctx' io' actor' workspaceID userID status).program.bind
          fun r => .ret (r.map fun _ => ()))) :
    ∃ v, store.membership (Run.run (Pool.step store.access env) pool labels).state workspaceID userID = some v
      ∧ v.role = role ∧ v.status = status := by
  obtain ⟨v, hv⟩ := Option.isSome_iff_exists.mp hmember
  have hrefl : ∀ s, SameMembership store workspaceID userID s s := fun _ => rfl
  have htrans : ∀ s m t, SameMembership store workspaceID userID s m → SameMembership store workspaceID userID m t →
      SameMembership store workspaceID userID s t := fun _ _ _ h h' => Eq.trans h' h
  have hchecking : ∀ ⦃β : Type⦄ (e : Access β) s, Checking e →
      SameMembership store workspaceID userID s (store.access e s).2 := fun _ e s he => store.checking e s _ _ he
  have hvalid : status ≠ .other "" := by
    obtain ⟨t, hrun, -⟩ := Pool.runs_of_run (R := fun _ _ => True) (fun _ => trivial) (fun _ _ _ _ _ => trivial)
      (fun _ _ _ => trivial) (fun _ _ => trivial) hj (Pool.meets_madeAt pool labels j) hjdone
    obtain ⟨_, hset⟩ := runs_of_void hrun
    exact valid_of_setMembershipStatus hset
  obtain hafter | hafter := horder
  · obtain ⟨t₁, s₁, t₂, hfirst, hs₁, hsecond, hend⟩ := Pool.runs_in_order hrefl htrans hchecking nofun
      (grantRole_before m ctx io actor workspaceID userID role) hi hj hothers hidone (by simp) hjdone hafter
    obtain ⟨_, hset⟩ := runs_of_void hfirst
    obtain ⟨s₀, hs₀, hset'⟩ := runs_of_before (setMembershipStatus_before m' ctx' io' actor' _ _ _) (by simp) hset hv
    obtain ⟨v₁, hv₁, -, hstatus⟩ := has_of_setStatusRead hset' hs₀
    obtain ⟨v₂, hv₂, hrole, hkept⟩ := has_of_grantRoleRead hsecond (Eq.trans hs₁ hv₁)
    exact ⟨v₂, Eq.trans hend hv₂, hrole, (hkept (by rwa [hstatus hvalid])).trans (hstatus hvalid)⟩
  · have hbefore : Program.Before Checking (fun r : Except Err Unit => r ≠ .ok ()) _ _ :=
      Program.Before.map (fun r => r.map fun _ => ())
        (setMembershipStatus_before m' ctx' io' actor' workspaceID userID status) (by rintro _ ⟨e, rfl⟩; nofun)
    obtain ⟨t₁, s₁, t₂, hfirst, hs₁, hsecond, hend⟩ := Pool.runs_in_order hrefl htrans hchecking nofun hbefore hj hi
      (hothers.mono fun _ _ h hj hi => h hi hj) hjdone (by simp) hidone hafter
    obtain ⟨s₀, hs₀, hgrant⟩ := runs_of_before (grantRole_before m ctx io actor _ _ _) (by simp) hfirst hv
    obtain ⟨v₁, hv₁, hrole, -⟩ := has_of_grantRoleRead hgrant hs₀
    obtain ⟨_, hset⟩ := runs_of_void hsecond
    obtain ⟨v₂, hv₂, hkept, hstatus⟩ := has_of_setStatusRead hset (Eq.trans hs₁ hv₁)
    exact ⟨v₂, Eq.trans hend hv₂, hkept.trans hrole, hstatus hvalid⟩

end Updates

/-- User 1 sets the role of user 2, and suspends user 2. -/
def tenantUpdates : Pool Access Store (Except Err Unit) :=
  ⟨Store.after tenantCalls, [tenantGrantRole 2 .member,
    (LocalChange.setMembershipStatus (uuidv7 1) (uuidv7 2) .suspended).program tenantAccounts {}
      (tenantAccountSupply 800) tenantAdministrator]⟩

/-- One after the other. -/
theorem update_kept_serial :
    ∃ v, memoryMemberships.membership (Run.run (Pool.step Memory.access Call.next) tenantUpdates
        (List.replicate 7 (.thread 0) ++ List.replicate 12 (.thread 1))).state (uuidv7 1) (uuidv7 2) = some v
      ∧ v.role = .member ∧ v.status = .suspended := by
  refine update_kept memoryMemberships Call.next tenantAccounts tenantAccounts {} {} (tenantAccountSupply 700)
    (tenantAccountSupply 800) tenantAdministrator tenantAdministrator (uuidv7 1) (uuidv7 2) .member .suspended
    tenantUpdates _ 0 1 rfl rfl rfl ?_ rfl rfl (.inr ?_)
  · refine Run.meets_of_mem fun l hl pool h₀ h₁ => absurd ?_ h₁
    obtain hl | hl := List.mem_append.mp hl
    · exact absurd (List.eq_of_mem_replicate hl) h₀
    · exact List.eq_of_mem_replicate hl
  · intro before after hlabels _
    obtain ⟨rest, rfl, -⟩ | ⟨rest, hfirst, hlabels⟩ := List.append_eq_append_iff.mp hlabels
    · refine ⟨.ok (), ?_⟩
      rw [Run.run_append]
      exact Pool.returned rfl rest
    · cases rest with
      | nil =>
        rw [List.append_nil] at hfirst
        exact ⟨.ok (), hfirst ▸ rfl⟩
      | cons l rest =>
        have hl : l ∈ List.replicate 7 (Pool.Label.thread 0) := hfirst ▸ by simp
        cases (List.eq_of_mem_replicate hl).symm.trans (List.cons.inj hlabels).1.symm

/-- **The suspension is lost**: the role is read before user 2 is suspended and written after it, both calls
go through, and user 2 is active. -/
theorem status_lost :
    let done := Run.run (Pool.step Memory.access Call.next) tenantUpdates
      (List.replicate 6 (.thread 0) ++ List.replicate 12 (.thread 1) ++ [.thread 0])
    done.threads = [.ret (.ok ()), .ret (.ok ())]
      ∧ (memoryMemberships.membership done.state (uuidv7 1) (uuidv7 2)).map (fun v => (v.role, v.status))
        = some (.member, .active) :=
  ⟨rfl, rfl⟩

end Credbound.Stores
