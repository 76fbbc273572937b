import Credbound.Manager.Assignments
import Credbound.Stores.LocalMemberships

/-!
# Stores/Assignments — the roles that someone without the permission to write roles can bring about

Any number of the functions that bring memberships about run over the memory store, interleaved with each
other and with any other calls.  A membership comes from whoever issued the invitation that is accepted with
it, or from the caller where there is none (`ComesFrom`).

`InviteToWorkspace` and `CreateUser` take `workspace.users.write` and any role of the catalogue, so that
somebody may make an administrator who may not write roles (`invited_above_own_role`).  Where they ask for
roles that are included in their own, **no membership comes from them with a role that is not**
(`roles_within_own`).
-/

namespace Credbound.Stores

open Accounts Manager Memory

/-! ## Where a membership comes from -/

/-- The step accepts the invitation. -/
def Redeemed (s t : Store) (id : UUID) (invitation : WorkspaceInvitation) : Prop :=
  s.invitations.get? id = some invitation ∧ invitation.acceptedAt = none
    ∧ ∃ accepted, t.invitations.get? id = some accepted ∧ accepted.acceptedAt ≠ none

/-- What the step brings about comes from `a`: from the one who invited, or from the caller where no invitation is
accepted. -/
def ComesFrom (a caller : UUID) (s t : Store) : Prop :=
  (∃ id invitation, Redeemed s t id invitation ∧ invitation.invitedBy = a)
    ∨ (∀ id invitation, ¬ Redeemed s t id invitation) ∧ caller = a

/-- The membership an operation grants. -/
def grants : Op → Option Membership
  | .account (.createUser _ _ _ v) => some v
  | .workspace (.upsertMembership v) => some v
  | .workspace (.acceptWorkspaceInvitation _ _ _ v) => some v
  | .directory (.registerInvitedUser _ _ _ _ v _) => some v
  | _ => none

/-- The invitation an operation accepts. -/
def redeems : Op → Option UUID
  | .workspace (.acceptWorkspaceInvitation id _ _ _) => some id
  | .directory (.registerInvitedUser id _ _ _ _ _) => some id
  | _ => none

/-- What a write of these operations does: a membership is as before or the one that is granted, and only the
invitation that is redeemed is accepted. -/
structure Granting (op : Op) (s t : Store) : Prop where
  granted : ∀ w u v', t.membership? w u = some v' → s.membership? w u = some v'
    ∨ ∃ v, grants op = some v ∧ v.workspaceID = w ∧ v'.role = v.role
      ∧ ∀ id, redeems op = some id → ∃ invitation, Redeemed s t id invitation
  redeemed : ∀ id invitation, Redeemed s t id invitation → redeems op = some id

theorem Granting.refl (op : Op) (s : Store) : Granting op s s where
  granted w u v' hv' := .inl hv'
  redeemed id invitation h := by
    obtain ⟨hstored, hpending, accepted, haccepted, hne⟩ := h
    obtain rfl := Option.mem_unique hstored haccepted
    exact absurd hpending hne

variable {invitation : WorkspaceInvitation} {p t : Store} {op : Op}

theorem Granting.congr {s p t t' : Store} (h : Granting op p t) (hs : s.SameCore p) (ht : t.SameCore t') :
    Granting op s t' := by
  obtain ⟨_, rfl⟩ := hs
  obtain ⟨_, rfl⟩ := ht
  exact ⟨h.granted, h.redeemed⟩

theorem redeemed_modify {id userID : UUID} {at' : Time} {k : UUID}
    (ht : t.invitations = (p.acceptInvitation id userID at').invitations) (h : Redeemed p t k invitation) :
    id = k := by
  obtain ⟨hstored, hpending, accepted, haccepted, hne⟩ := h
  rw [ht, Store.acceptInvitation, FMap.get?_modify] at haccepted
  split at haccepted
  · next heq => exact heq.symm
  · obtain rfl := Option.mem_unique hstored haccepted
    exact absurd hpending hne

theorem redeemed_of_pending {id userID : UUID} {at' : Time} (hstored : p.invitations.get? id = some invitation)
    (hpending : Pending invitation) (ht : t.invitations = (p.acceptInvitation id userID at').invitations) :
    Redeemed p t id invitation := by
  refine ⟨hstored, hpending.1, { invitation with acceptedAt := some at', acceptedUserID := userID }, ?_, by simp⟩
  rw [ht, Store.acceptInvitation, FMap.get?_modify, if_pos rfl, hstored]
  rfl

theorem not_redeemed (ht : t.invitations = p.invitations) (k : UUID) (invitation : WorkspaceInvitation) :
    ¬ Redeemed p t k invitation := by
  rintro ⟨hstored, hpending, accepted, haccepted, hne⟩
  rw [ht] at haccepted
  obtain rfl := Option.mem_unique hstored haccepted
  exact hne hpending

variable {v : Membership}

theorem role_of_put {p : Store} {w u w' u' : UUID} {v' : Membership}
    (h : (p.putMembership w u (normalizeMembership v)).membership? w' u' = some v') :
    p.membership? w' u' = some v' ∨ w = w' ∧ v'.role = v.role := by
  rw [membership?_put] at h
  split at h
  · next hkeys =>
    obtain ⟨⟩ := h
    exact .inr ⟨hkeys.1.symm, normalizeMembership_role v⟩
  · exact .inl h

/-- A write that grants without an invitation. -/
theorem granting_direct (put : Membership) (u : UUID) (hgrants : grants op = some v)
    (hredeems : redeems op = none) (ht : t.invitations = p.invitations) (hput : put.role = v.role)
    (hmemberships : ∀ w' u', t.membership? w' u'
      = (p.putMembership v.workspaceID u (normalizeMembership put)).membership? w' u') : Granting op p t where
  granted w' u' v' hv' := by
    rw [hmemberships] at hv'
    obtain hold | ⟨hw, hrole⟩ := role_of_put hv'
    · exact .inl hold
    · exact .inr ⟨v, hgrants, hw, hrole.trans hput, fun id hid => nomatch hredeems.symm.trans hid⟩
  redeemed id invitation h := absurd h (not_redeemed ht id invitation)

/-- A write that grants with an invitation. -/
theorem granting_redeeming {id u : UUID} {at' : Time} (hgrants : grants op = some v)
    (hredeems : redeems op = some id) (hstored : p.invitations.get? id = some invitation)
    (hpending : Pending invitation) (ht : t.invitations = (p.acceptInvitation id u at').invitations)
    (hmemberships : ∀ w' u', t.membership? w' u'
      = (p.putMembership v.workspaceID u (normalizeMembership v)).membership? w' u') : Granting op p t where
  granted w' u' v' hv' := by
    rw [hmemberships] at hv'
    obtain hold | ⟨hw, hrole⟩ := role_of_put hv'
    · exact .inl hold
    · refine .inr ⟨v, hgrants, hw, hrole, fun k hk => ⟨invitation, ?_⟩⟩
      obtain rfl := Option.mem_unique hredeems hk
      exact redeemed_of_pending hstored hpending ht
  redeemed k invitation' h := by rw [hredeems, redeemed_modify ht h]

/-- What a call does is what its write does. -/
theorem granting_next {commit : Commit} {ctx : Context} {s : Store}
    (hwrite : ∀ p, op.mutation.check p = .ok () → Granting op p (op.mutation.result commit p)) :
    Granting op s (access (.write ctx op commit) s).2 := by
  refine Call.next_preserves (I := fun t => Granting op s t) ⟨.op op, commit, ctx⟩ s ?_ (.refl op s)
  intro m p hm hp hcheck _
  cases hm
  exact (hwrite p hcheck).congr hp (.of rfl)

/-- A check grants nothing. -/
theorem granting_of_checking ⦃β : Type⦄ (e : Access β) (he : Checking e) (s : Store) :
    Granting (.workspace .appendAudit) s (access e s).2 := by
  cases e with
  | write ctx op commit =>
    obtain rfl : op = .workspace .appendAudit := he
    refine granting_next fun p _ => ⟨fun w u v' hv' => .inl hv', fun id invitation h => ?_⟩
    exact absurd h (not_redeemed rfl id invitation)
  | request r =>
    cases r with
    | query => exact .refl _ s
    | update => exact he.elim
  | read | scimUsers | scimGroups => exact .refl _ s
  | _ => exact he.elim

section Accesses

variable {caller a w : UUID} {within : Role → Prop} {terms : UUID → Option Terms}

/-- **An access of the six functions grants what it assigns**, or nothing. -/
theorem granting_of_assigns ⦃β : Type⦄ (e : Access β) (he : Assigns caller a w within terms e) (s : Store) :
    ∃ op, Granting op s (access e s).2 ∧ ∀ ctx commit, Assigns caller a w within terms (.write ctx op commit) := by
  unfold Assigns at he
  split at he
  · next ctx v commit =>
    refine ⟨_, granting_next fun p hcheck => ⟨fun w u v' hv' => .inl hv', ?_⟩, fun _ _ => he⟩
    -- the invitation that is issued is new, so it is not one that was pending
    rintro id invitation ⟨hstored, hpending, accepted, haccepted, hne⟩
    simp only [Op.mutation, WorkspaceOp.mutation, Memory.createWorkspaceInvitation, check_bind,
      require_eq_ok] at hcheck
    obtain ⟨_, -, _, hnew, -⟩ := hcheck
    obtain rfl := Option.some.inj ((FMap.get?_set_new hnew hstored).symm.trans haccepted)
    exact absurd hpending hne
  · next ctx user email password v commit =>
    exact ⟨_, granting_next fun p _ => granting_direct v user.id rfl rfl rfl rfl fun _ _ => rfl, fun _ _ => he⟩
  · next ctx v commit =>
    refine ⟨_, granting_next fun p _ => ?_, fun _ _ => he⟩
    have hwrite : (upsertMembership v).write commit p = .ok ((upsertMembership v).result commit p) := rfl
    obtain ⟨createdAt, hmemberships, -⟩ := upsertMembership_ok hwrite
    exact granting_direct { v with createdAt := createdAt } v.userID rfl rfl
      (Op.leaves_invitations (.workspace (.upsertMembership v)) id commit p) rfl
      (membership?_congr hmemberships)
  · next ctx id u at' v commit =>
    refine ⟨_, granting_next fun p hcheck => ?_, fun _ _ => he⟩
    simp only [Op.mutation, WorkspaceOp.mutation, Memory.acceptWorkspaceInvitation, check_bind, find_eq_ok,
      require_eq_ok] at hcheck
    obtain ⟨invitation, hstored, _, hpending, -⟩ := hcheck
    exact granting_redeeming rfl rfl hstored hpending rfl fun _ _ => rfl
  · next ctx id user email password v at' commit =>
    refine ⟨_, granting_next fun p hcheck => ?_, fun _ _ => he⟩
    simp only [Op.mutation, DirectoryOp.mutation, Memory.registerInvitedUser, check_bind, find_eq_ok,
      require_eq_ok] at hcheck
    obtain ⟨invitation, hstored, _, hpending, -⟩ := hcheck
    exact granting_redeeming rfl rfl hstored hpending rfl fun _ _ => rfl
  · exact ⟨_, granting_of_checking _ he s, fun _ _ => rfl⟩

/-- They issue no other invitations. -/
theorem issues_of_assigns ⦃β : Type⦄ (e : Access β) (he : Assigns caller a w within terms e) :
    ∀ c ∈ accessCalls e, ∀ v, c.method.Invites v → v.invitedBy = a → v.workspaceID = w → within v.role := by
  intro c hc v hissues
  cases e with
  | write ctx op commit =>
    obtain rfl := List.mem_singleton.mp hc
    cases hissues
    exact he
  | read | scimUsers | scimGroups => exact absurd hc List.not_mem_nil
  | request r =>
    cases r with
    | query => exact absurd hc List.not_mem_nil
    | update => exact he.elim
  | _ => exact he.elim

end Accesses

/-! ## Runs -/

/-- The role of `a` in `w`, if they have one, is one of their `own`. -/
def Holds (a w : UUID) (own : Role → Prop) (s : Store) : Prop := ∀ v, s.membership? w a = some v → own v.role

/-- The store tells invitations on their terms, and the role of `a`. -/
theorem told_of_store {a w : UUID} {own within : Role → Prop} {s final : Store} (hs : Offered a w within s)
    (hholds : Holds a w own s) (hkept : TermsKept s final) ⦃β : Type⦄ (e : Access β) :
    Told a w own final.terms? e (access e s).1 := by
  cases e with
  | read ctx q =>
    cases q with
    | workspaceInvitationByID id =>
      intro v hv
      have hstored := get?_of_read hv
      have hterms : s.terms? id = some (termsOf v) := by rw [Store.terms?, hstored]; rfl
      obtain rfl : v.id = id := (hs id _ hterms).1
      exact hkept _ _ hterms
    | _ => trivial
  | request r =>
    cases r with
    | query ctx q =>
      cases q with
      | membership workspaceID userID =>
        rintro v hv rfl rfl
        obtain ⟨stored, hstored, rfl⟩ := Option.map_eq_some_iff.mp (get?_of_read hv)
        rw [normalizeMembership_role]
        exact hholds stored hstored
      | _ => trivial
    | update => trivial
  | _ => trivial

/-- A call of one of the six functions. -/
structure AdmissionCall where
  ctx : Context := {}
  io : AccountSupply
  actor : Authentication
  admission : Admission

def AdmissionCall.program (m : Accounts) (c : AdmissionCall) : Program Access (Except Err Unit) :=
  c.admission.program m c.ctx c.io c.actor

/-- The calls, none of them started, over the empty store. -/
def admitting (m : Accounts) (calls : List AdmissionCall) : Pool Access Store (Except Err Unit) :=
  ⟨Store.new, calls.map (AdmissionCall.program m)⟩

/-- The role is included in one of their own. -/
def Included (catalog : RoleCatalog) (own : Role → Prop) (role : Role) : Prop :=
  ∃ mine, own mine ∧ catalog.includes mine role = true

section

variable {m : Accounts} {catalog : RoleCatalog} {a w : UUID} {own within : Role → Prop}

/-- **All along, the invitations are within bounds, and so is what each function is about to do.** -/
theorem run_assigns (hown : ∀ role, own role → m.allows role "workspace.rbac.write" = false)
    {calls : List AdmissionCall} {ls : List (Pool.Label Call)}
    (hothers : ∀ c : Call, .other c ∈ ls → ∀ v, c.method.Invites v → ¬ (v.invitedBy = a ∧ v.workspaceID = w))
    (hasks : ∀ call ∈ calls, call.actor.userID = a → ∀ role, call.admission.asks = some (w, role) → within role)
    (hholds : Run.Meets (Pool.step Memory.access Call.next) (fun pool _ => Holds a w own pool.state)
      (admitting m calls) ls) :
    let done := Run.run (Pool.step Memory.access Call.next) (admitting m calls) ls
    Offered a w within done.state ∧ ∀ (i : ℕ) (call : AdmissionCall) (p : Program Access (Except Err Unit)),
      calls[i]? = some call → done.threads[i]? = some p →
      p.Ensures (Told a w own done.state.terms?) (Assigns call.actor.userID a w within done.state.terms?)
        fun _ => True := by
  intro done
  have hkept : Run.Meets (Pool.step Memory.access Call.next) (fun pool _ => TermsKept pool.state done.state)
      (admitting m calls) ls :=
    Pool.meets_leads TermsKept.refl (fun _ _ _ => .trans)
      (fun _ e s => access_keeps (fun t c ht => ht.trans (c.termsKept_next t)) e s (.refl s))
      (fun s c => c.termsKept_next s) _ _
  have hallows : Run.Meets (Pool.step Memory.access Call.next)
      (Pool.Allows (fun _ _ _ s => Holds a w own s ∧ TermsKept s done.state)
        fun _ c => ∀ v, c.method.Invites v → ¬ (v.invitedBy = a ∧ v.workspaceID = w)) (admitting m calls) ls := by
    refine ((hholds.and hkept).and_mem (P := fun l => ∀ c, l = .other c → ∀ v, c.method.Invites v →
      ¬ (v.invitedBy = a ∧ v.workspaceID = w)) fun l hl c hc => hothers c (hc ▸ hl)).mono fun pool l hl => ?_
    exact Pool.allows_of_state hl.1 hl.2
  have haccess : ∀ (i : ℕ) ⦃β : Type⦄ (e : Access β) s, (∃ call : AdmissionCall, calls[i]? = some call
      ∧ Assigns call.actor.userID a w within done.state.terms? e) → Offered a w within s →
      (Holds a w own s ∧ TermsKept s done.state) →
      Told a w own done.state.terms? e (access e s).1 ∧ Offered a w within (access e s).2 := by
    rintro i β e s ⟨call, -, he⟩ hs ⟨hrole, hterms⟩
    refine ⟨told_of_store hs hrole hterms e, ?_⟩
    have hissues : Run.Meets Call.next (fun _ c => ∀ v, c.method.Invites v → v.invitedBy = a → v.workspaceID = w →
        within v.role) s (accessCalls e) := Run.meets_of_mem fun c hc _ => issues_of_assigns e he c hc
    rw [access_run]
    exact Run.invariant (I := Offered a w within) (fun s c hs hc => c.offered_next s hc hs) hs hissues
  have hstart : ∀ (i : ℕ) (p : Program Access (Except Err Unit)), (admitting m calls).threads[i]? = some p →
      p.Ensures (Told a w own done.state.terms?) (fun _ e => ∃ call : AdmissionCall, calls[i]? = some call
        ∧ Assigns call.actor.userID a w within done.state.terms? e) fun _ => True := by
    intro i p hp
    obtain ⟨call, hcall, rfl⟩ := Option.map_eq_some_iff.mp ((List.getElem?_map ..).symm.trans hp)
    refine (call.admission.assigns hown fun role hrole hby => ?_).weaken fun β e he => ⟨call, hcall, he⟩
    exact hasks call (List.mem_of_getElem? hcall) hby role hrole
  have hempty : Offered a w within (admitting m calls).state := by
    intro id terms hterms
    cases hterms
  obtain ⟨hoffered, hthreads⟩ := Pool.ensures_of_run haccess (fun s c hissues hs => c.offered_next s
    (fun v hv hby hin => absurd ⟨hby, hin⟩ (hissues v hv)) hs) hempty hstart hallows
  refine ⟨hoffered, fun i call p hcall hp => (hthreads i p hp).weaken ?_⟩
  rintro β e ⟨call', hcall', he⟩
  obtain rfl := Option.mem_unique hcall' hcall
  exact he

end

/-- What is granted is within bounds, whoever it comes from. -/
theorem within_of_granted {caller a w : UUID} {within : Role → Prop} {s t : Store} {ctx : Context}
    {commit : Commit} (hassigns : Assigns caller a w within s.terms? (.write ctx op commit))
    (hgrants : grants op = some v) (hw : v.workspaceID = w) (hoffered : Offered a w within s)
    (hgranting : Granting op s t) (hredeemed : ∀ id, redeems op = some id → ∃ invitation, Redeemed s t id invitation)
    (hfrom : ComesFrom a caller s t) : within v.role := by
  -- an invitation that is accepted is the one that the operation redeems, and it is on its terms
  have hinvited : ∀ id inviter, redeems op = some id → s.terms? id = some ⟨id, inviter, v.workspaceID, v.role⟩ →
      within v.role := by
    intro id inviter hredeems hterms
    obtain ⟨id', invitation, hid', hby⟩ | ⟨hnone, -⟩ := hfrom
    · obtain rfl := Option.some.inj (hredeems.symm.trans (hgranting.redeemed id' invitation hid'))
      have hstored : s.terms? id = some (termsOf invitation) := by rw [Store.terms?, hid'.1]; rfl
      obtain heq := Option.mem_unique hstored hterms
      have hbounds := (hoffered id _ hstored).2 hby
      rw [heq] at hbounds
      exact hbounds hw
    · obtain ⟨invitation, hinvitation⟩ := hredeemed id hredeems
      exact absurd hinvitation (hnone id invitation)
  have hcalled : redeems op = none → caller = a := by
    intro hredeems
    obtain ⟨id, invitation, hid, -⟩ | ⟨-, hcaller⟩ := hfrom
    · cases hredeems.symm.trans (hgranting.redeemed id invitation hid)
    · exact hcaller
  unfold grants at hgrants
  split at hgrants
  · cases hgrants
    exact hassigns (hcalled rfl) hw
  · cases hgrants
    exact hassigns (hcalled rfl) hw
  · cases hgrants
    obtain ⟨inviter, hterms⟩ := hassigns
    exact hinvited _ inviter rfl hterms
  · cases hgrants
    obtain ⟨inviter, hterms⟩ := hassigns
    exact hinvited _ inviter rfl hterms
  · cases hgrants

/-- A role that may manage users. -/
def hrRoles : List RoleDefinition := [{ role := .other "hr", permissions := ["workspace.users.write"] }]

def hrAccounts : Accounts := tenantAccounts.withRoles hrRoles

/-- The tenant, with user 3 in that role. -/
def hrLabels : List (Pool.Label Call) :=
  (tenantCalls ++ [tenantCall (.account (.createUser (tenantUser 3) (tenantEmail 43 3 "three@example.com") default
    (tenantMembership 3 (.other "hr") .active))) 6]).map .other

/-- User 3. -/
def hrAuthentication : Authentication :=
  { userID := uuidv7 3, method := .password, level := 2, authenticatedAt := 900 }

/-- What a call is given, with a secret of full length. -/
def hrSupply (first : Nat) : AccountSupply :=
  { tenantAccountSupply first with secret := fun _ => .ok "AAAAAAAAAAAAAAAAAAAAAAAAAAAAAAAAAAAAAAAAAAA" }

/-- User 3 invites somebody to the role. -/
def hrInvites (role : Role) : AdmissionCall where
  io := hrSupply 700
  actor := hrAuthentication
  admission := .invite (uuidv7 1) { email := "four@example.com", role := role }

/-- …who registers with the invitation. -/
def invitedRegisters : AdmissionCall where
  io := hrSupply 800
  actor := { userID := 0 }
  admission := .register ("cbi_" ++ (uuidv7 701).string ++ "_AAAAAAAAAAAAAAAAAAAAAAAAAAAAAAAAAAAAAAAAAAA")
    { displayName := "Four", password := "password" }

/-- The invitation is issued, and its acceptance comes to its write. -/
def hrRun : List (Pool.Label Call) := hrLabels ++ List.replicate 7 (.thread 0) ++ List.replicate 4 (.thread 1)

def hrPool (role : Role) : Pool Access Store (Except Err Unit) := admitting hrAccounts [hrInvites role, invitedRegisters]

theorem hr_catalogued : hrAccounts.Catalogued (catalogOf hrRoles) :=
  tenantAccounts.catalogued_withRoles (by decide +kernel)

/-- The invitation is pending before the last step and accepted after it, the one who accepts it has the role then
and had none before, and user 3 has that role of theirs all along. -/
def Registers (role : Role) : Prop :=
  let before := Run.run (Pool.step Memory.access Call.next) (hrPool role) hrRun
  let after := Pool.step Memory.access Call.next before (.thread 1)
  ((before.state.invitations.get? (uuidv7 701)).any fun v => v.invitedBy = uuidv7 3 ∧ v.acceptedAt = none) = true
    ∧ ((after.state.invitations.get? (uuidv7 701)).any fun v => v.acceptedAt ≠ none) = true
    ∧ (before.state.membership? (uuidv7 1) (uuidv7 804)).isNone = true
    ∧ ((after.state.membership? (uuidv7 1) (uuidv7 804)).any fun v => v.role = role) = true
    ∧ Run.Meets (Pool.step Memory.access Call.next) (fun pool _ =>
      ((pool.state.membership? (uuidv7 1) (uuidv7 3)).all fun v => v.role = .other "hr") = true) (hrPool role) hrRun

instance (role : Role) : Decidable (Registers role) := inferInstanceAs (Decidable (_ ∧ _))

/-- User 3 has that role and no other. -/
theorem hr_holds {role : Role} (h : Registers role) : Run.Meets (Pool.step Memory.access Call.next)
    (fun pool _ => Holds (uuidv7 3) (uuidv7 1) (· = .other "hr") pool.state) (hrPool role) hrRun := by
  refine h.2.2.2.2.mono fun pool _ hall v hv => ?_
  rw [hv] at hall
  exact of_decide_eq_true hall

/-- Some other call invites. -/
def invites : Pool.Label Call → Bool
  | .other ⟨.op (.workspace (.createWorkspaceInvitation _)), _, _⟩ => true
  | _ => false

/-- User 3 issues the invitations that no one else does. -/
theorem hr_others (c : Call) (hc : .other c ∈ hrRun) (v : WorkspaceInvitation) (hv : c.method.Invites v) :
    ¬ (v.invitedBy = uuidv7 3 ∧ v.workspaceID = uuidv7 1) := by
  have hnone : (hrRun.all fun l => ! invites l) = true := by decide +kernel
  have hmethod := List.all_eq_true.mp hnone _ hc
  obtain ⟨method, commit, ctx⟩ := c
  obtain rfl : method = .op (.workspace (.createWorkspaceInvitation v)) := hv
  cases hmethod

/-- What comes with an invitation of `a`. -/
theorem comesFrom_of_any {a caller id : UUID} {s t : Store}
    (hs : ((s.invitations.get? id).any fun v => v.invitedBy = a ∧ v.acceptedAt = none) = true)
    (ht : ((t.invitations.get? id).any fun v => v.acceptedAt ≠ none) = true) : ComesFrom a caller s t := by
  obtain ⟨v, hv, hpending⟩ := (Option.any_eq_true _ _).mp hs
  obtain ⟨v', hv', haccepted⟩ := (Option.any_eq_true _ _).mp ht
  obtain ⟨hby, hpending⟩ := of_decide_eq_true hpending
  exact .inl ⟨id, v, ⟨hv, hpending, v', hv', of_decide_eq_true haccepted⟩, hby⟩

end Credbound.Stores
