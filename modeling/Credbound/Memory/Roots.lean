import Credbound.Memory.Frames

/-!
# Memory/Roots — is there always an enabled root administrator?

Four operations can take the last enabled root away.  `SetUserDisabled` and `AnonymizeUser` count
the root administrators that are not disabled; `SetInstanceRole` and `RemoveInstanceRole` count all
of them, so they let the only enabled root go while a disabled one remains.

* `Method.usersKept` — every other method keeps the users' disabled flags and the roles;
* `adminsExist_after` — an administrator always has a user, so the count of enabled roots is exact;
* `enabledRoot_after_bootstrap` — along every run that never takes the role from the only enabled
  root, an enabled root remains.
-/

namespace Credbound.Memory

open Store

/-! ## Users and roles a write keeps -/

/-- Every user is still there, with the same disabled flag. -/
def UsersKept (p t : Store) : Prop :=
  ∀ u user, p.users.get? u = some user →
    ∃ user', t.users.get? u = some user' ∧ user'.disabled = user.disabled

variable {t : Store}

theorem usersKept_of_eq {p : Store} (h : t.users = p.users) : UsersKept p t :=
  fun u user hu => ⟨user, by rw [h, hu], rfl⟩

variable {p : Store} {u : UUID} {m : Method} {v : Mutation} {commit : Commit}

/-- Storing one user keeps the users, if the flag of the one it replaces is kept. -/
theorem usersKept_set {w : User} (h : t.users = p.users.set u w)
    (hnew : ∀ old, p.users.get? u = some old → w.disabled = old.disabled) : UsersKept p t := by
  intro v user hv
  rw [h]
  by_cases hvu : v = u
  · subst hvu
    exact ⟨w, FMap.get?_set_self _ _ _, hnew user hv⟩
  · exact ⟨user, by rw [FMap.get?_set_ne _ _ hvu, hv], rfl⟩

/-- A rewrite of a user that leaves the flag alone. -/
theorem usersKept_rewrite {w : User} (h : t.users = p.users.set u w) (hnew : w.disabled = (p.users.getI u).disabled) :
    UsersKept p t :=
  usersKept_set h fun old hold => by rw [hnew, FMap.getI_of_get? hold]

/-- A new user replaces nobody. -/
theorem usersKept_new {w : User} (h : t.users = p.users.set u w) (hu : u ∉ p.users) : UsersKept p t :=
  usersKept_set h fun _ hold => absurd (FMap.mem_of_get? hold) hu

/-- The five methods that change a role or a disabled flag. -/
inductive MovesRoots : Method → Prop
  | bootstrap (user : User) (email : EmailAddress) (password : PasswordCredential)
      (workspace : Workspace) (membership : Membership) (admin : InstanceAdministrator) :
      MovesRoots (.op (.account (.bootstrap user email password workspace membership admin)))
  | setUserDisabled (userID : UUID) (disabled : Bool) (at' : Time) :
      MovesRoots (.op (.account (.setUserDisabled userID disabled at')))
  | anonymizeUser (userID : UUID) (at' : Time) :
      MovesRoots (.op (.account (.anonymizeUser userID at')))
  | setInstanceRole (admin : InstanceAdministrator) :
      MovesRoots (.op (.workspace (.setInstanceRole admin)))
  | removeInstanceRole (userID : UUID) :
      MovesRoots (.op (.workspace (.removeInstanceRole userID)))

theorem MovesRoots.exists_op (h : MovesRoots m) : ∃ o, m = .op o := by
  cases h <;> exact ⟨_, rfl⟩

theorem FactorOp.usersKept (op : FactorOp) (commit : Commit) (p : Store) :
    UsersKept p (op.mutation.result commit p) := by
  cases op with
  | touchPasskey userID credentialID credentialJSON usedAt =>
    exact usersKept_rewrite (u := userID) rfl rfl
  | touchPAT id usedAt => exact usersKept_rewrite (u := (p.pats.getI id).userID) rfl rfl
  | touchSession id at' => exact usersKept_rewrite (u := (p.sessions.getI id).userID) rfl rfl
  | _ => exact usersKept_of_eq rfl

theorem EmailOp.usersKept (op : EmailOp) (commit : Commit) (p : Store) :
    UsersKept p (op.mutation.result commit p) := by
  cases op with
  | setPrimaryEmail userID emailID => exact usersKept_rewrite (u := userID) rfl rfl
  | _ => exact usersKept_of_eq rfl

theorem DirectoryOp.usersKept (op : DirectoryOp) (hc : op.mutation.check p = .ok ()) :
    UsersKept p (op.mutation.result commit p) := by
  have h := (Op.directory op).writes commit p
  cases op with
  | linkSSO identity =>
    cases hl : identity.lastUsedAt with
    | none =>
      refine usersKept_of_eq ?_
      simp only [DirectoryOp.mutation, Memory.linkSSO, Mutation.result, hl, reached]
      rfl
    | some usedAt =>
      refine usersKept_rewrite (u := identity.userID)
        (w := { p.users.getI identity.userID with lastSeenAt := some usedAt }) ?_ rfl
      simp only [DirectoryOp.mutation, Memory.linkSSO, Mutation.result, hl, reached]
      rfl
  | touchSSO userID identityID usedAt => exact usersKept_rewrite (u := userID) rfl rfl
  | jitProvisionSSOUser user email membership identity =>
    refine usersKept_new (u := user.id) (w := user) rfl ?_
    simp only [DirectoryOp.mutation, Memory.jitProvisionSSOUser, check_bind, require_eq_ok] at hc
    exact hc.choose_spec.1
  | registerInvitedUser invitationID user email password membership at' =>
    refine usersKept_new (u := user.id) (w := user) rfl ?_
    simp only [DirectoryOp.mutation, Memory.registerInvitedUser, check_bind, require_eq_ok] at hc
    obtain ⟨_, -, _, -, _, hu, -⟩ := hc
    exact hu
  | createSCIMUser user email membership link =>
    refine usersKept_new (u := user.id) (w := user) rfl ?_
    simp only [DirectoryOp.mutation, Memory.createSCIMUser, check_bind, require_eq_ok] at hc
    obtain ⟨_, -, _, hu, -⟩ := hc
    exact fun hmem => hu (.inl hmem)
  | updateSCIMConfiguration | updateSCIMUser | upsertSCIMGroup | deleteSCIMGroup =>
    exact usersKept_of_eq ((congrArg (fun s : Store => s.users) h).trans rfl)
  | _ => exact usersKept_of_eq rfl

theorem AccountOp.usersKept (op : AccountOp) (hc : op.mutation.check p = .ok ())
    (hop : ¬ MovesRoots (.op (.account op))) :
    UsersKept p (op.mutation.result commit p) ∧ (op.mutation.result commit p).admins = p.admins := by
  cases op with
  | bootstrap | setUserDisabled | anonymizeUser => exact absurd (by constructor) hop
  | createUser user | createSignup user =>
    refine ⟨usersKept_new (u := user.id) (w := user) rfl ?_, rfl⟩
    simp only [AccountOp.mutation, Memory.createUser, Memory.createSignup, check_bind, require_eq_ok] at hc
    exact hc.choose_spec.1
  | updateUser user => exact ⟨usersKept_rewrite (u := user.id) rfl rfl, rfl⟩
  | recordAuthentication userID | recordPasswordAuthentication userID =>
    exact ⟨usersKept_rewrite (u := userID) rfl rfl, rfl⟩
  | consumeEmailAuthentication tokenID userID at' completesLogin =>
    cases completesLogin
    · exact ⟨usersKept_of_eq rfl, rfl⟩
    · exact ⟨usersKept_rewrite (u := userID) rfl rfl, rfl⟩
  | _ => exact ⟨usersKept_of_eq rfl, rfl⟩

theorem WorkspaceOp.leaves_admins (op : WorkspaceOp)
    (hop : ¬ MovesRoots (.op (.workspace op))) : op.mutation.Leaves fun s => s.admins := by
  intro commit p
  have h := (Op.workspace op).writes commit p
  cases op <;> first
    | exact absurd (by constructor) hop
    | exact (congrArg (fun s : Store => s.admins) h).trans rfl
    | rfl

/-- **Every other method keeps the users and the roles.** -/
theorem Method.usersKept (hv : m.view = some v) (hm : ¬ MovesRoots m) (commit : Commit) (hc : v.check p = .ok ()) :
    UsersKept p (v.result commit p) ∧ (v.result commit p).admins = p.admins := by
  cases m with
  | op o =>
    obtain rfl : o.mutation = v := Option.some.inj hv
    cases o with
    | account op => exact op.usersKept hc hm
    | email op => exact ⟨op.usersKept commit p, congrArg (·.1.1) (op.leaves commit p)⟩
    | factor op => exact ⟨op.usersKept commit p, congrArg (·.2.1.1) (op.leaves commit p)⟩
    | workspace op =>
      exact ⟨usersKept_of_eq (congrArg (·.1) (op.leaves commit p)), op.leaves_admins hm commit p⟩
    | directory op => exact ⟨op.usersKept hc, congrArg (·.1) (op.leaves commit p)⟩
    | oauth op =>
      have h := op.leaves_people commit p
      exact ⟨usersKept_of_eq (congrArg (·.1) h), congrArg (·.2.2.2.2.1) h⟩
  | recordLoginFailure | createWorkspaceDomain => cases hv; exact ⟨usersKept_of_eq rfl, rfl⟩
  | useTOTP userID | consumeRecoveryCode userID =>
    cases hv; exact ⟨usersKept_rewrite (u := userID) rfl rfl, rfl⟩
  | claimEmailIssuance | setAuditFailure => cases hv

theorem UsersKept.mem (h : UsersKept p t) (hu : u ∈ p.users) : u ∈ t.users := by
  obtain ⟨user, huser⟩ := FMap.mem_iff_get?.mp hu
  obtain ⟨user', huser', -⟩ := h u user huser
  exact FMap.mem_of_get? huser'

/-- No method removes a user. -/
theorem Method.mem_users (hv : m.view = some v) (commit : Commit) (hc : v.check p = .ok ()) (hu : u ∈ p.users) :
    u ∈ (v.result commit p).users := by
  by_cases hm : MovesRoots m
  swap
  · exact (Method.usersKept hv hm commit hc).1.mem hu
  obtain ⟨o, rfl⟩ := hm.exists_op
  obtain ⟨⟩ := hv
  cases hm with
  | bootstrap user email password workspace membership admin =>
    exact FMap.mem_set hu
  | setUserDisabled userID disabled at' =>
    exact (result_setUserDisabled userID disabled at' commit p).1 ▸ FMap.mem_modify.mpr hu
  | anonymizeUser userID at' =>
    obtain ⟨_, _, _, _, _, _, _, h⟩ := result_anonymizeUser userID at' commit p
    exact (congrArg (fun s : Store => s.users) h) ▸ FMap.mem_set hu
  | setInstanceRole | removeInstanceRole => exact hu

/-! ## An administrator has a user -/

/-- Every administrator's user exists. -/
def AdminsExist (s : Store) : Prop := ∀ u admin, s.admins.get? u = some admin → u ∈ s.users

theorem AdminsExist.of_kept (h : UsersKept p t) (hadmins : t.admins = p.admins) (hp : AdminsExist p) :
    AdminsExist t := by
  intro u admin hu
  rw [hadmins] at hu
  exact h.mem (hp u admin hu)

/-- Storing an administrator whose user exists keeps the property. -/
theorem AdminsExist.set (hp : AdminsExist p) (hu : u ∈ p.users) (w : InstanceAdministrator) :
    AdminsExist { p with admins := p.admins.set u w } := FMap.All.set hp hu

/-- The state after `SetInstanceRole`. -/
theorem result_setInstanceRole (admin : InstanceAdministrator) (commit : Commit) (p : Store) :
    ∃ w : InstanceAdministrator, w.role = admin.role ∧
      (setInstanceRole admin).result commit p = { p with admins := p.admins.set admin.userID w } := by
  cases h : p.admins.get? admin.userID with
  | none => exact ⟨admin, rfl, by simp only [Mutation.result, setInstanceRole, h, reached]⟩
  | some existing =>
    exact ⟨{ admin with createdAt := existing.createdAt }, rfl, by
      simp only [Mutation.result, setInstanceRole, h, reached]⟩

/-- **One step**: no write leaves an administrator without a user. -/
theorem AdminsExist.result (hv : m.view = some v) (commit : Commit) (hc : v.check p = .ok ()) (hp : AdminsExist p) :
    AdminsExist (v.result commit p) := by
  by_cases hm : MovesRoots m
  swap
  · obtain ⟨hkept, hadmins⟩ := Method.usersKept hv hm commit hc
    exact hp.of_kept hkept hadmins
  obtain ⟨o, rfl⟩ := hm.exists_op
  obtain rfl := Option.some.inj hv
  cases hm with
  | bootstrap user email password workspace membership admin =>
    intro u a hu
    -- Before a bootstrap there are no users, so there are no administrators either.
    have hempty : p.users = ∅ := require_eq_ok.mp hc
    obtain ⟨rfl, rfl⟩ | ⟨-, hu⟩ := FMap.get?_set_eq_some.mp hu
    · exact FMap.mem_of_get? (FMap.get?_set_self p.users user.id user)
    · obtain ⟨w, hw⟩ := FMap.mem_iff_get?.mp (hp u a hu)
      rw [hempty, FMap.get?_empty] at hw
      cases hw
  | setUserDisabled userID disabled at' =>
    intro u a hu
    obtain ⟨-, hadmins, -⟩ := result_setUserDisabled userID disabled at' commit p
    exact Method.mem_users hv commit hc (hp u a (hadmins ▸ hu))
  | anonymizeUser userID at' =>
    obtain ⟨_, _, _, _, _, _, _, h⟩ := result_anonymizeUser userID at' commit p
    intro u a hu
    have hmem : u ∈ p.users := hp u a ((congrArg (fun s : Store => s.admins.get? u) h).symm.trans hu)
    exact Method.mem_users hv commit hc hmem
  | setInstanceRole admin =>
    have hu : admin.userID ∈ p.users := by
      simp only [Op.mutation, WorkspaceOp.mutation, setInstanceRole, check_bind, require_eq_ok] at hc
      exact hc.choose_spec.1
    obtain ⟨w, -, h⟩ := result_setInstanceRole admin commit p
    exact h ▸ hp.set hu w
  | removeInstanceRole userID => exact FMap.All.del hp userID

/-- Every administrator of a reachable state has a user. -/
theorem adminsExist_next (s : Store) (c : Call) (hs : AdminsExist s) : AdminsExist (c.next s) :=
  c.next_preserves s (fun _ _ hm _ hc hp => AdminsExist.result hm c.commit hc hp) hs

theorem adminsExist_after (calls : List Call) : AdminsExist (Store.after calls) :=
  Run.always adminsExist_next (fun u admin hu => by cases hu) calls

/-! ## An enabled root remains -/

/-- Some root administrator's user exists and is not disabled. -/
def HasEnabledRoot (s : Store) : Prop :=
  s.admins.Any fun u admin => admin.role = .root ∧ ∃ user ∈ s.users.get? u, user.disabled = false

instance (s : Store) : Decidable (HasEnabledRoot s) := inferInstanceAs (Decidable (FMap.Any _ _))

theorem HasEnabledRoot.congr {s : Store} (h : s.SameCore t) (hs : HasEnabledRoot s) : HasEnabledRoot t := by
  obtain ⟨_, rfl⟩ := h
  exact hs

theorem HasEnabledRoot.of_kept (h : UsersKept p t) (hadmins : t.admins = p.admins) (hp : HasEnabledRoot p) :
    HasEnabledRoot t := by
  obtain ⟨u, admin, hu, hrole, user, huser, henabled⟩ := hp
  obtain ⟨user', huser', hflag⟩ := h u user huser
  exact ⟨u, admin, by rw [hadmins, hu], hrole, user', huser', hflag.trans henabled⟩

/-- The role is taken from `u` while `u` is the only enabled root, and a disabled one hides it from
the guard. -/
def Store.SoleEnabledRoot (s : Store) (u : UUID) : Prop :=
  (∃ admin ∈ s.admins.get? u, admin.role = .root) ∧ s.isDisabled u = false
    ∧ s.enabledRoots ≤ 1 ∧ 1 < s.roots

instance (s : Store) (u : UUID) : Decidable (s.SoleEnabledRoot u) :=
  inferInstanceAs (Decidable (_ ∧ _))

/-- The method takes the role from the only enabled root. -/
def Method.DropsLastRoot (s : Store) : Method → Prop
  | .op (.workspace (.setInstanceRole admin)) => admin.role ≠ .root ∧ s.SoleEnabledRoot admin.userID
  | .op (.workspace (.removeInstanceRole userID)) => s.SoleEnabledRoot userID
  | _ => False

/-- An enabled root remains where nobody but the user changes, if two are counted where the user is one. -/
theorem HasEnabledRoot.besides {userID : UUID} (hp : HasEnabledRoot p) (hadmins : AdminsExist p)
    (h : (∃ admin ∈ p.admins.get? userID, admin.role = .root) → p.isDisabled userID = false → 1 < p.enabledRoots)
    (hroles : ∀ v, v ≠ userID → t.admins.get? v = p.admins.get? v)
    (husers : ∀ v, v ≠ userID → t.users.get? v = p.users.get? v) : HasEnabledRoot t := by
  obtain ⟨u, admin, hu, hrole, user, huser, henabled⟩ := hp
  by_cases hne : u = userID
  · subst hne
    have hcount := h ⟨admin, hu, hrole⟩ (by rw [Store.isDisabled, FMap.getI_of_get? huser, henabled])
    obtain ⟨v, other, hne, hv, hrole, henabled⟩ := FMap.exists_ne_of_one_lt_count hcount u
    obtain ⟨user, huser⟩ := FMap.mem_iff_get?.mp (hadmins v other hv)
    rw [Store.isDisabled, FMap.getI_of_get? huser] at henabled
    exact ⟨v, other, (hroles v hne).trans hv, hrole, user, (husers v hne).trans huser, henabled⟩
  · exact ⟨u, admin, (hroles u hne).trans hu, hrole, user, (husers u hne).trans huser, henabled⟩

/-- The two guards that look at the disabled flag leave such a root… -/
theorem two_roots_of_checkNotLast {userID : UUID} (hc : p.checkNotLast userID = .ok ())
    (hroot : ∃ admin ∈ p.admins.get? userID, admin.role = .root) : 1 < p.enabledRoots := by
  simp only [checkNotLast, check_bind, require_eq_ok] at hc
  obtain ⟨_, hroots, -⟩ := hc
  obtain ⟨admin, hadmin, hrole⟩ := hroot
  rw [Option.mem_def] at hadmin
  by_contra hle
  exact hroots ⟨by simp [hadmin, hrole], by omega⟩

/-- …and so does a guard that counts every root, where it does not hide the last enabled one. -/
theorem two_roots_of_roots {userID : UUID} (hc : (∃ admin ∈ p.admins.get? userID, admin.role = .root) → 1 < p.roots)
    (hg : ¬ p.SoleEnabledRoot userID) (hroot : ∃ admin ∈ p.admins.get? userID, admin.role = .root)
    (henabled : p.isDisabled userID = false) :
    1 < p.enabledRoots := by
  by_contra hle
  exact hg ⟨hroot, henabled, by omega, hc hroot⟩

/-- **One step**: a write whose checks pass and that does not take the role from the only enabled
root leaves an enabled root. -/
theorem HasEnabledRoot.result (hv : m.view = some v) (commit : Commit) (hc : v.check p = .ok ())
    (hg : ¬ m.DropsLastRoot p) (hadmins : AdminsExist p) (hp : HasEnabledRoot p) :
    HasEnabledRoot (v.result commit p) := by
  by_cases hm : MovesRoots m
  swap
  · obtain ⟨hkept, heq⟩ := Method.usersKept hv hm commit hc
    exact hp.of_kept hkept heq
  obtain ⟨o, rfl⟩ := hm.exists_op
  obtain ⟨⟩ := hv
  cases hm with
  | bootstrap user email password workspace membership admin =>
    -- A second bootstrap is refused: the enabled root is a user.
    have hempty : p.users = ∅ := require_eq_ok.mp hc
    obtain ⟨u, _, -, -, w, hw, -⟩ := hp
    rw [hempty, FMap.get?_empty] at hw
    cases hw
  | setUserDisabled userID disabled at' =>
    obtain ⟨husers, heq, -⟩ := result_setUserDisabled userID disabled at' commit p
    cases disabled with
    | false =>
      obtain ⟨u, admin, hu, hrole, user, huser, henabled⟩ := hp
      refine ⟨u, admin, (congrArg (·.get? u) heq).trans hu, hrole, ?_⟩
      change ∃ user ∈ ((setUserDisabled userID false at').result commit p).users.get? u, _
      rw [husers, FMap.get?_modify, huser]
      split
      · exact ⟨_, rfl, rfl⟩
      · exact ⟨user, rfl, henabled⟩
    | true =>
      simp only [Op.mutation, AccountOp.mutation, setUserDisabled, check_bind, require_eq_ok, if_true] at hc
      obtain ⟨_, -, hlast⟩ := hc
      refine hp.besides hadmins (fun hroot _ => two_roots_of_checkNotLast hlast hroot)
        (fun v _ => congrArg (·.get? v) heq) fun v hne => ?_
      exact (congrArg (·.get? v) husers).trans (by rw [FMap.get?_modify, if_neg hne])
  | anonymizeUser userID at' =>
    obtain ⟨_, _, _, _, _, _, _, h⟩ := result_anonymizeUser userID at' commit p
    simp only [Op.mutation, AccountOp.mutation, anonymizeUser, check_bind, require_eq_ok] at hc
    obtain ⟨_, -, hlast⟩ := hc
    refine hp.besides hadmins (fun hroot _ => two_roots_of_checkNotLast hlast hroot)
      (fun v _ => (congrArg (fun s : Store => s.admins.get? v) h).trans rfl) fun v hne => ?_
    exact (congrArg (fun s : Store => s.users.get? v) h).trans (FMap.get?_set_ne _ _ hne)
  | setInstanceRole admin =>
    obtain ⟨w, hw, h⟩ := result_setInstanceRole admin commit p
    refine (congrArg HasEnabledRoot h).mpr ?_
    simp only [Op.mutation, WorkspaceOp.mutation, setInstanceRole, check_bind, require_eq_ok] at hc
    obtain ⟨_, -, hroots⟩ := hc
    by_cases hroot : admin.role = .root
    · -- Whoever was the root is one still, or is given the role again.
      obtain ⟨u, a, hu, hrole, user, huser, henabled⟩ := hp
      by_cases hu' : u = admin.userID
      · exact ⟨u, w, by rw [hu', FMap.get?_set_self], hw.trans hroot, user, huser, henabled⟩
      · exact ⟨u, a, by rw [FMap.get?_set_ne _ _ hu', hu], hrole, user, huser, henabled⟩
    · have hsole : ¬ p.SoleEnabledRoot admin.userID := fun hsole => hg ⟨hroot, hsole⟩
      have hcount : (∃ a ∈ p.admins.get? admin.userID, a.role = .root) → 1 < p.roots := by
        rintro ⟨a, ha, hrole⟩
        by_contra hle
        rw [Option.mem_def] at ha
        exact hroots ⟨by simp [ha, hrole], hroot, by omega⟩
      exact hp.besides hadmins (two_roots_of_roots hcount hsole) (fun v hne => FMap.get?_set_ne _ _ hne) fun _ _ => rfl
  | removeInstanceRole userID =>
    simp only [Op.mutation, WorkspaceOp.mutation, removeInstanceRole, check_bind, find_eq_ok,
      require_eq_ok] at hc
    obtain ⟨a, ha, hroots⟩ := hc
    have hcount : (∃ b ∈ p.admins.get? userID, b.role = .root) → 1 < p.roots := by
      rintro ⟨b, hb, hrole⟩
      by_contra hle
      rw [Option.mem_def, ha] at hb
      cases hb
      exact hroots ⟨hrole, by omega⟩
    refine hp.besides hadmins (two_roots_of_roots hcount hg) (fun v hne => ?_) fun _ _ => rfl
    exact (FMap.get?_del ..).trans (if_neg hne)

theorem Method.dropsLastRoot_congr {s : Store} (h : s.SameCore t) (m : Method) :
    m.DropsLastRoot t ↔ m.DropsLastRoot s := by
  obtain ⟨_, rfl⟩ := h
  exact Iff.rfl

/-- …and so does a call. -/
theorem hasEnabledRoot_next (s : Store) (c : Call) (hs : AdminsExist s ∧ HasEnabledRoot s)
    (hg : ¬ c.method.DropsLastRoot s) : AdminsExist (c.next s) ∧ HasEnabledRoot (c.next s) := by
  refine c.next_preserves (I := fun s => AdminsExist s ∧ HasEnabledRoot s) s (fun m p hm hp hc hI => ?_) hs
  have hgp : ¬ c.method.DropsLastRoot p := fun hd => hg ((c.method.dropsLastRoot_congr hp).mp hd)
  exact ⟨hI.1.result hm c.commit hc, hI.2.result hm c.commit hc hgp hI.1⟩

/-- A bootstrap that commits leaves an enabled root, if it was given one. -/
theorem hasEnabledRoot_bootstrap {s : Store} {user : User} {email : EmailAddress} {password : PasswordCredential}
    {workspace : Workspace} {membership : Membership} {admin : InstanceAdministrator} {ctx : Context}
    (hrole : admin.role = .root) (henabled : user.disabled = false)
    (h : (Call.run ⟨.op (.account (.bootstrap user email password workspace membership admin)),
      commit, ctx⟩ s).1 = .ok ()) :
    HasEnabledRoot (Call.next s
      ⟨.op (.account (.bootstrap user email password workspace membership admin)), commit, ctx⟩) := by
  obtain ⟨p, t, -, -, hwrite, hcore⟩ := Call.run_ok h
  obtain ⟨⟩ := hwrite
  refine HasEnabledRoot.congr hcore ?_
  exact ⟨user.id, admin, FMap.get?_set_self _ _ _, hrole, user, FMap.get?_set_self _ _ _, henabled⟩

/-- **An enabled root remains.**  After a committed bootstrap, along every run that never takes the
role from the only enabled root while a disabled one is counted, some root administrator's user
exists and is not disabled. -/
theorem enabledRoot_after_bootstrap (before later : List Call) (user : User) (email : EmailAddress)
    (password : PasswordCredential) (workspace : Workspace) (membership : Membership)
    (admin : InstanceAdministrator) (commit : Commit) (ctx : Context) (hrole : admin.role = .root)
    (henabled : user.disabled = false)
    (hboot : (Call.run ⟨.op (.account (.bootstrap user email password workspace membership admin)),
      commit, ctx⟩ (Store.after before)).1 = .ok ())
    (hguard : Run.Meets Call.next (fun s c => ¬ c.method.DropsLastRoot s)
      (Call.next (Store.after before)
        ⟨.op (.account (.bootstrap user email password workspace membership admin)), commit, ctx⟩)
      later) :
    HasEnabledRoot (Run.run Call.next (Call.next (Store.after before)
      ⟨.op (.account (.bootstrap user email password workspace membership admin)), commit, ctx⟩)
      later) := by
  have hadmins := adminsExist_next _
    ⟨.op (.account (.bootstrap user email password workspace membership admin)), commit, ctx⟩
    (adminsExist_after before)
  have hroot := hasEnabledRoot_bootstrap hrole henabled hboot
  exact (Run.invariant hasEnabledRoot_next ⟨hadmins, hroot⟩ hguard).2

/-! ## A run that loses it -/

/-- The arguments of a bootstrap: user 1, workspace 1, root. -/
def bootOp : AccountOp :=
  .bootstrap { (default : User) with id := 1, email := "a" }
    { (default : EmailAddress) with id := 1, userID := 1, address := "a" } default
    { (default : Workspace) with id := 1 }
    { (default : Membership) with workspaceID := 1, userID := 1, role := .admin, status := .active }
    { (default : InstanceAdministrator) with userID := 1, role := .root }

/-- A second user, who is made root as well. -/
def secondRoot : List Call :=
  [{ method := .op (.account (.createUser { (default : User) with id := 2, email := "b" }
       { (default : EmailAddress) with id := 2, userID := 2, address := "b" } default
       { (default : Membership) with workspaceID := 1, userID := 2, role := .member }))
     commit := commitOf 12 2 },
   { method := .op (.workspace (.setInstanceRole
       { (default : InstanceAdministrator) with userID := 2, role := .root }))
     commit := commitOf 13 3 }]

/-- With two enabled roots, the first may step down. -/
theorem enabledRoot_after_stepdown :
    HasEnabledRoot (Run.run Call.next (Call.next (Store.after []) ⟨.op (.account bootOp), commitOf 11 1, {}⟩)
      (secondRoot ++ [⟨.op (.workspace (.removeInstanceRole 1)), commitOf 14 4, {}⟩])) :=
  enabledRoot_after_bootstrap [] _ _ _ _ _ _ _ (commitOf 11 1) {} rfl rfl rfl
    ⟨id, fun h => h.1 rfl, fun h => absurd h.2.2.1 (by decide), trivial⟩

/-- Root 2 is disabled, which is allowed while root 1 is enabled; then root 1 is removed, which is
allowed while two roots are counted.  No enabled root is left. -/
theorem removeInstanceRole_drops_last_enabled_root :
    let s := Store.after (⟨.op (.account bootOp), commitOf 11 1, {}⟩ :: secondRoot)
    let disable : Call := ⟨.op (.account (.setUserDisabled 2 true 4)), commitOf 14 4, {}⟩
    let remove : Call := ⟨.op (.workspace (.removeInstanceRole 1)), commitOf 15 5, {}⟩
    HasEnabledRoot s ∧ (disable.run s).1 = .ok () ∧ HasEnabledRoot (disable.next s)
      ∧ (remove.run (disable.next s)).1 = .ok ()
      ∧ ¬ HasEnabledRoot (remove.next (disable.next s)) := by
  decide

end Credbound.Memory
