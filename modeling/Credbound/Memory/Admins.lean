import Credbound.Memory.Frames

/-!
# Memory/Admins — does a workspace keep an enabled admin?

Nine operations can take the last enabled admin of a workspace away.  `SetUserDisabled` and
`AnonymizeUser` look for another admin who is not disabled.  `UpsertMembership` and
`RemoveMembership` count active admins whether or not they are disabled.  `AcceptWorkspaceInvitation`
and the four SCIM writes store memberships over existing ones and do not look at all.

`Method.DemotesLastAdmin` is the step that goes wrong; along every run without one an enabled admin
remains (`workspace_admin_remains`), and what would remove the last one is refused.
-/

namespace Credbound.Memory

open Store

/-! ## Enabled admins of a workspace -/

/-- Some membership of the workspace is an active admin's whose user is not disabled. -/
def HasAdmin (s : Store) (w : UUID) : Prop :=
  (s.memberships.getI w).Any fun u m => ActiveAdmin m ∧ s.isDisabled u = false

instance (s : Store) (w : UUID) : Decidable (HasAdmin s w) := inferInstanceAs (Decidable (FMap.Any _ _))

/-- `u` is an enabled admin of the workspace, and there is no other. -/
def Store.SoleAdmin (s : Store) (w u : UUID) : Prop :=
  (∃ m ∈ s.membership? w u, ActiveAdmin m) ∧ s.isDisabled u = false
    ∧ ¬ HasOtherAdmin (s.memberships.getI w) s u

variable {p t : Store} {commit : Commit} {w : UUID}
variable {s : Store}

theorem isDisabled_congr (h : t.users = p.users) (u : UUID) : t.isDisabled u = p.isDisabled u := by
  rw [Store.isDisabled, h, Store.isDisabled]

theorem HasAdmin.congr (h : s.SameCore t) (hs : HasAdmin s w) : HasAdmin t w := by
  obtain ⟨_, rfl⟩ := h
  exact hs

/-- If `u` is not the only one, there is an enabled admin besides `u`. -/
theorem HasAdmin.other {u : UUID} (hs : HasAdmin s w) (hu : ¬ s.SoleAdmin w u) :
    HasOtherAdmin (s.memberships.getI w) s u := by
  obtain ⟨v, m, hv, hm, henabled⟩ := hs
  by_cases h : v = u
  · subst h
    by_contra hother
    exact hu ⟨⟨m, hv, hm⟩, henabled, hother⟩
  · exact ⟨v, m, hv, h, hm, henabled⟩

/-- An admin besides `u` is left by any change to `u` alone. -/
theorem hasAdmin_of_other {u : UUID} (h : HasOtherAdmin (p.memberships.getI w) p u)
    (hm : ∀ v, v ≠ u → t.membership? w v = p.membership? w v) (hd : ∀ v, v ≠ u → t.isDisabled v = p.isDisabled v) :
    HasAdmin t w := by
  obtain ⟨v, m, hv, hne, hadmin, henabled⟩ := h
  exact ⟨v, m, (hm v hne).trans hv, hadmin, (hd v hne).trans henabled⟩

/-! ## Writing memberships -/

theorem membership?_congr (h : t.memberships = s.memberships) (w u : UUID) :
    t.membership? w u = s.membership? w u := by rw [Store.membership?, h, Store.membership?]

/-- A membership is read back where it was put, and the others are as before. -/
theorem membership?_put (s : Store) (w u w' u' : UUID) (m : Membership) :
    (s.putMembership w u m).membership? w' u' = if w' = w ∧ u' = u then some m else s.membership? w' u' := by
  unfold Store.membership? Store.putMembership FMap.getI
  dsimp only
  rw [FMap.get?_set]
  by_cases hw : w' = w
  · subst hw
    rw [if_pos rfl, Option.getD_some, FMap.get?_set]
    simp
  · rw [if_neg hw]
    simp [hw]

/-- A successful assignment puts the membership. -/
theorem assignMembership_ok {u : UUID} {m : Membership} (h : s.assignMembership w u m = .ok t) :
    t = s.putMembership w u m := by
  unfold Store.assignMembership at h
  split at h <;> rename_i hw
  · cases h
    rw [Store.putMembership, FMap.getI_of_get? hw]
  · cases h

/-- The memberships of a list, put one after the other. -/
def Store.putMemberships (s : Store) (ms : List Membership) : Store :=
  ms.foldl (fun t m => t.putMembership m.workspaceID m.userID (normalizeMembership m)) s

theorem assignMemberships_ok {ms : List Membership} (h : Store.assignMemberships ms s = .ok t) :
    t = s.putMemberships ms := by
  induction ms generalizing s with
  | nil =>
    cases h
    rfl
  | cons m rest ih =>
    rw [Store.assignMemberships] at h
    cases hm : s.assignMembership m.workspaceID m.userID (normalizeMembership m) with
    | error u =>
      rw [hm] at h
      cases h
    | ok u =>
      rw [hm] at h
      rw [ih h, assignMembership_ok hm]
      rfl

/-- The membership a list leaves to `u` in the workspace: the last it has for them. -/
def written (w u : UUID) : List Membership → Option Membership
  | [] => none
  | m :: rest => (written w u rest).or
      (if m.workspaceID = w ∧ m.userID = u then some (normalizeMembership m) else none)

theorem membership?_putMemberships (ms : List Membership) (s : Store) (w u : UUID) :
    (s.putMemberships ms).membership? w u = (written w u ms).or (s.membership? w u) := by
  induction ms generalizing s with
  | nil => rfl
  | cons m rest ih =>
    have hstep : s.putMemberships (m :: rest)
        = (s.putMembership m.workspaceID m.userID (normalizeMembership m)).putMemberships rest := rfl
    rw [hstep, ih, membership?_put, written, Option.or_assoc]
    congr 1
    by_cases h : m.workspaceID = w ∧ m.userID = u
    · obtain ⟨rfl, rfl⟩ := h
      simp
    · rw [if_neg h, if_neg fun h' => h ⟨h'.1.symm, h'.2.symm⟩]
      rfl

/-- What a list of memberships leaves depends on the memberships only, and it leaves the users. -/
theorem putMemberships_congr (h : s.memberships = t.memberships) (ms : List Membership) :
    (s.putMemberships ms).memberships = (t.putMemberships ms).memberships := by
  induction ms generalizing s t with
  | nil => exact h
  | cons m rest ih =>
    refine ih ?_
    simp only [Store.putMembership, h]

theorem putMemberships_users (s : Store) (ms : List Membership) : (s.putMemberships ms).users = s.users :=
  Run.frame (fun (t : Store) (m : Membership) =>
    t.putMembership m.workspaceID m.userID (normalizeMembership m)) (·.users) (fun _ _ => rfl) s ms

/-- When a membership is an active admin's once it is stored. -/
theorem activeAdmin_normalize (m : Membership) : ActiveAdmin (normalizeMembership m) ↔
    m.role = .admin ∧ (m.status = .active ∨ m.status = .other "") := by
  unfold normalizeMembership ActiveAdmin
  by_cases hs : m.status = .other "" <;> by_cases hp : m.provisioningSource = "" <;> simp [hs, hp]

/-- The memberships and users after `UpsertMembership`: the creation time may be an earlier one. -/
theorem upsertMembership_ok {membership : Membership} (h : (upsertMembership membership).write commit p = .ok t) :
    ∃ createdAt, t.memberships = (p.putMembership membership.workspaceID membership.userID
      (normalizeMembership { membership with createdAt := createdAt })).memberships
      ∧ t.users = p.users := by
  simp only [upsertMembership] at h
  cases hm : p.membership? membership.workspaceID membership.userID with
  | none =>
    rw [hm] at h
    dsimp only at h
    obtain ⟨⟩ := h
    exact ⟨membership.createdAt, by split <;> rfl, by split <;> rfl⟩
  | some existing =>
    rw [hm] at h
    dsimp only at h
    obtain ⟨⟩ := h
    exact ⟨existing.createdAt, by split <;> rfl, by split <;> rfl⟩

/-- The memberships and users after `UpdateSCIMUser`. -/
theorem updateSCIMUser_ok {link : SCIMUser} {membership : Membership} {revoke : Bool}
    (h : (updateSCIMUser link membership revoke).write commit p = .ok t) :
    t.memberships = (p.putMembership membership.workspaceID membership.userID
      (normalizeMembership membership)).memberships ∧ t.users = p.users := by
  simp only [updateSCIMUser] at h
  generalize hq : (p.deleteSCIMUserIndexesLocked (p.scimUsers.getI link.id)).putSCIMUserLocked link = q at h
  cases hs : q.assignMembership membership.workspaceID membership.userID (normalizeMembership membership) with
  | error u =>
    rw [hs] at h
    cases h
  | ok u =>
    rw [hs] at h
    obtain ⟨⟩ := h
    obtain rfl := assignMembership_ok hs
    subst hq
    cases revoke <;> exact ⟨rfl, rfl⟩

/-- The memberships and users after `UpsertSCIMGroup` and `DeleteSCIMGroup`, which put the memberships last. -/
theorem assigned_ok {q : Store} {ms : List Membership} (hq : q.memberships = p.memberships ∧ q.users = p.users)
    (h : Store.assignMemberships ms q = .ok t) :
    t.memberships = (p.putMemberships ms).memberships ∧ t.users = p.users := by
  rw [assignMemberships_ok h]
  exact ⟨putMemberships_congr hq.1 ms, (putMemberships_users q ms).trans hq.2⟩

/-! ## The nine operations -/

/-- The operations that can take an enabled admin from a workspace. -/
inductive AdminOp : Method → Prop
  | setUserDisabled (userID : UUID) (disabled : Bool) (at' : Time) :
      AdminOp (.op (.account (.setUserDisabled userID disabled at')))
  | anonymizeUser (userID : UUID) (at' : Time) : AdminOp (.op (.account (.anonymizeUser userID at')))
  | upsertMembership (membership : Membership) :
      AdminOp (.op (.workspace (.upsertMembership membership)))
  | removeMembership (workspaceID userID : UUID) (at' : Time) :
      AdminOp (.op (.workspace (.removeMembership workspaceID userID at')))
  | acceptWorkspaceInvitation (invitationID userID : UUID) (at' : Time) (membership : Membership) :
      AdminOp (.op (.workspace (.acceptWorkspaceInvitation invitationID userID at' membership)))
  | updateSCIMUser (link : SCIMUser) (membership : Membership) (revoke : Bool) :
      AdminOp (.op (.directory (.updateSCIMUser link membership revoke)))
  | upsertSCIMGroup (group : SCIMGroup) (memberships : List Membership) :
      AdminOp (.op (.directory (.upsertSCIMGroup group memberships)))
  | deleteSCIMGroup (group : SCIMGroup) (memberships : List Membership) :
      AdminOp (.op (.directory (.deleteSCIMGroup group memberships)))
  | updateSCIMConfiguration (configuration : SCIMConfiguration) (memberships : List Membership) :
      AdminOp (.op (.directory (.updateSCIMConfiguration configuration memberships)))

theorem AdminOp.exists_op {m : Method} (h : AdminOp m) : ∃ o, m = .op o := by
  cases h <;> exact ⟨_, rfl⟩

/-- One membership is written over that of the only enabled admin and makes them something else. -/
def Store.Demotes (s : Store) (w : UUID) (u : UUID) (m : Membership) : Prop :=
  m.workspaceID = w ∧ s.SoleAdmin w u ∧ ¬ ActiveAdmin (normalizeMembership m)

/-- A list of memberships is written over that of every enabled admin, and it leaves none of the
users it names an enabled admin. -/
def Store.DemotesAll (s : Store) (w : UUID) (ms : List Membership) : Prop :=
  (∀ u m, s.membership? w u = some m → ActiveAdmin m → s.isDisabled u = false → written w u ms ≠ none)
    ∧ ∀ u m, written w u ms = some m → s.isDisabled u = false → ¬ ActiveAdmin m

/-- The step that goes wrong: the only enabled admin of `w` is demoted or removed.  The count of
`UpsertMembership` and `RemoveMembership` misses it where a disabled admin is counted besides. -/
def Method.DemotesLastAdmin (w : UUID) (s : Store) : Method → Prop
  | .op (.workspace (.upsertMembership m)) =>
      s.Demotes w m.userID m ∧ 1 < s.activeWorkspaceAdminsLocked w
  | .op (.workspace (.removeMembership workspaceID userID _)) =>
      workspaceID = w ∧ s.SoleAdmin w userID ∧ 1 < s.activeWorkspaceAdminsLocked w
  | .op (.workspace (.acceptWorkspaceInvitation _ userID _ m)) => s.Demotes w userID m
  | .op (.directory (.updateSCIMUser _ m _)) => s.Demotes w m.userID m
  | .op (.directory (.upsertSCIMGroup _ ms)) => s.DemotesAll w ms
  | .op (.directory (.deleteSCIMGroup _ ms)) => s.DemotesAll w ms
  | .op (.directory (.updateSCIMConfiguration _ ms)) => s.DemotesAll w ms
  | _ => False

theorem Method.demotesLastAdmin_congr (h : s.SameCore t) (w : UUID) (m : Method) :
    m.DemotesLastAdmin w t ↔ m.DemotesLastAdmin w s := by
  obtain ⟨_, rfl⟩ := h
  exact Iff.rfl

/-! ## One write -/

/-- A membership put without demoting the only enabled admin leaves one. -/
theorem HasAdmin.put {u : UUID} {m : Membership} (hp : HasAdmin p w) (hg : ¬ p.Demotes w u m)
    (ht : t.memberships = (p.putMembership m.workspaceID u (normalizeMembership m)).memberships)
    (hu : t.users = p.users) : HasAdmin t w := by
  have hread : ∀ v, t.membership? w v =
      if w = m.workspaceID ∧ v = u then some (normalizeMembership m) else p.membership? w v := by
    intro v
    rw [← membership?_put, Store.membership?, ht]
    rfl
  have hflag := isDisabled_congr hu
  obtain ⟨v, a, hv, ha, henabled⟩ := id hp
  by_cases hw : w = m.workspaceID ∧ v = u
  · obtain ⟨rfl, rfl⟩ := hw
    by_cases hactive : ActiveAdmin (normalizeMembership m)
    · -- The enabled admin is given an admin's membership again.
      exact ⟨v, _, (hread v).trans (if_pos ⟨rfl, rfl⟩), hactive, (hflag v).trans henabled⟩
    · refine hasAdmin_of_other (hp.other fun hsole => hg ⟨rfl, hsole, hactive⟩) (fun x hx => ?_)
        fun x _ => hflag x
      rw [hread, if_neg fun h => hx h.2]
  · exact ⟨v, a, by rw [← hv]; exact (hread v).trans (if_neg hw), ha, (hflag v).trans henabled⟩

/-- …and so does a list of them. -/
theorem hasAdmin_putMemberships {ms : List Membership} (hg : ¬ p.DemotesAll w ms)
    (ht : t.memberships = (p.putMemberships ms).memberships) (hu : t.users = p.users) : HasAdmin t w := by
  have hread : ∀ v, t.membership? w v = (written w v ms).or (p.membership? w v) := by
    intro v
    rw [← membership?_putMemberships, Store.membership?, ht]
    rfl
  have hflag := isDisabled_congr hu
  rw [Store.DemotesAll, not_and_or] at hg
  rcases hg with hkept | hnew
  · push Not at hkept
    obtain ⟨u, m, hm, hactive, henabled, hwritten⟩ := hkept
    refine ⟨u, m, ?_, hactive, (hflag u).trans henabled⟩
    have h := hread u
    rwa [hwritten, Option.none_or, hm] at h
  · push Not at hnew
    obtain ⟨u, m, hwritten, henabled, hactive⟩ := hnew
    refine ⟨u, m, ?_, hactive, (hflag u).trans henabled⟩
    have h := hread u
    rwa [hwritten, Option.some_or] at h

/-- Disabling a user who is not the last enabled admin of any workspace leaves one. -/
theorem HasAdmin.of_checkNotLast {userID : UUID} (hp : HasAdmin p w) (hc : p.checkNotLast userID = .ok ())
    (hm : t.memberships = p.memberships) (hu : ∀ v, v ≠ userID → t.users.get? v = p.users.get? v) : HasAdmin t w := by
  refine hasAdmin_of_other (p := p) (u := userID) ?_ (fun v _ => by rw [Store.membership?, hm]; rfl)
    fun v hv => ?_
  · obtain ⟨v, m, hv, ha, henabled⟩ := hp
    by_cases h : v = userID
    · subst h
      simp only [checkNotLast, check_bind, require_eq_ok] at hc
      obtain ⟨_, -, hall⟩ := hc
      cases hw : p.memberships.get? w with
      | none =>
        rw [FMap.getI_of_get?_none hw] at hv
        cases hv
      | some members =>
        rw [FMap.getI_of_get? hw] at hv ⊢
        exact hall w members hw (by simp [hv, ha])
    · exact ⟨v, m, hv, h, ha, henabled⟩
  · rw [Store.isDisabled, FMap.getI, hu v hv]
    rfl

/-- Enabling a user takes nothing away. -/
theorem HasAdmin.enable {userID : UUID} {at' : Time} (hp : HasAdmin p w) (hm : t.memberships = p.memberships)
    (hu : t.users = p.users.modify userID fun user => { user with disabled := false, updatedAt := at' }) :
    HasAdmin t w := by
  obtain ⟨v, m, hv, ha, henabled⟩ := hp
  refine ⟨v, m, by rw [hm, hv], ha, ?_⟩
  rw [Store.isDisabled, FMap.getI, hu, FMap.get?_modify]
  rw [Store.isDisabled, FMap.getI] at henabled
  split
  · cases hv : p.users.get? v <;> simp
    rfl
  · exact henabled

/-- A membership removed from one who is not the only enabled admin leaves one. -/
theorem HasAdmin.remove (workspaceID userID : UUID) (hp : HasAdmin p w)
    (hg : ¬ (workspaceID = w ∧ p.SoleAdmin w userID))
    (hm : t.memberships = p.memberships.modify workspaceID (·.del userID)) (hu : t.users = p.users) :
    HasAdmin t w := by
  have hflag := isDisabled_congr hu
  by_cases hw : workspaceID = w
  · subst hw
    refine hasAdmin_of_other (hp.other fun hsole => hg ⟨rfl, hsole⟩) (fun v hv => ?_) fun v _ => hflag v
    rw [Store.membership?, hm, FMap.getI, FMap.get?_modify, if_pos rfl, Store.membership?, FMap.getI]
    cases p.memberships.get? workspaceID with
    | none => rfl
    | some members => exact (FMap.get?_del _ _ _).trans (if_neg hv)
  · obtain ⟨v, m, hv, ha, henabled⟩ := hp
    refine ⟨v, m, ?_, ha, (hflag v).trans henabled⟩
    rw [hm, FMap.getI, FMap.get?_modify, if_neg fun h => hw h.symm]
    exact hv

/-- **One step**: a write of the nine that goes through and does not demote the only enabled admin
leaves one. -/
theorem HasAdmin.write {m : Method} {v : Mutation} (hop : AdminOp m) (hv : m.view = some v) (hc : v.check p = .ok ())
    (hw : v.write commit p = .ok t) (hg : ¬ m.DemotesLastAdmin w p) (hp : HasAdmin p w) :
    HasAdmin t w := by
  obtain ⟨o, rfl⟩ := hop.exists_op
  obtain ⟨⟩ := hv
  cases hop with
  | setUserDisabled userID disabled at' =>
    obtain ⟨husers, -, hmem⟩ := result_setUserDisabled userID disabled at' commit p
    rw [show (setUserDisabled userID disabled at').result commit p = t from
      Mutation.result_of_ok hw] at husers hmem
    cases disabled with
    | false => exact hp.enable hmem husers
    | true =>
      simp only [Op.mutation, AccountOp.mutation, setUserDisabled, check_bind, require_eq_ok, if_true] at hc
      obtain ⟨_, -, hlast⟩ := hc
      refine hp.of_checkNotLast hlast hmem fun x hx => ?_
      rw [husers, FMap.get?_modify, if_neg hx]
  | anonymizeUser userID at' =>
    obtain ⟨_, _, _, _, _, _, _, h⟩ := result_anonymizeUser userID at' commit p
    rw [show (anonymizeUser userID at').result commit p = t from Mutation.result_of_ok hw] at h
    simp only [Op.mutation, AccountOp.mutation, anonymizeUser, check_bind, require_eq_ok] at hc
    obtain ⟨_, -, hlast⟩ := hc
    refine hp.of_checkNotLast hlast (by rw [h]; rfl) fun x hx => ?_
    rw [h]
    exact FMap.get?_set_ne _ _ hx
  | upsertMembership membership =>
    simp only [Op.mutation, WorkspaceOp.mutation, upsertMembership, check_bind, require_eq_ok] at hc
    obtain ⟨_, -, _, -, hcount⟩ := hc
    obtain ⟨createdAt, hmem, husers⟩ := upsertMembership_ok hw
    refine hp.put (u := membership.userID) (m := { membership with createdAt := createdAt }) ?_ hmem husers
    rintro ⟨rfl, hsole, hactive⟩
    rw [activeAdmin_normalize] at hactive
    refine hg ⟨⟨rfl, hsole, by rwa [activeAdmin_normalize]⟩, ?_⟩
    obtain ⟨⟨b, hb, hb'⟩, -, -⟩ := hsole
    rw [Option.mem_def] at hb
    by_contra hle
    exact hcount ⟨by simp [hb, hb'], fun h => hactive ⟨h.1, .inl h.2⟩, Nat.le_of_not_lt hle⟩
  | removeMembership workspaceID userID at' =>
    obtain ⟨⟩ := hw
    simp only [Op.mutation, WorkspaceOp.mutation, removeMembership, check_bind, find_eq_ok,
      require_eq_ok] at hc
    obtain ⟨members, hmembers, a, ha, hcount⟩ := hc
    refine hp.remove workspaceID userID ?_ rfl rfl
    rintro ⟨rfl, hsole⟩
    refine hg ⟨rfl, hsole, ?_⟩
    obtain ⟨⟨b, hb, hactive⟩, -, -⟩ := hsole
    rw [Option.mem_def, Store.membership?, FMap.getI_of_get? hmembers, ha] at hb
    cases hb
    by_contra hle
    exact hcount ⟨hactive, by omega⟩
  | acceptWorkspaceInvitation invitationID userID at' membership =>
    obtain ⟨⟩ := hw
    exact hp.put hg rfl rfl
  | updateSCIMUser link membership revoke =>
    obtain ⟨hmem, husers⟩ := updateSCIMUser_ok hw
    exact hp.put hg hmem husers
  | upsertSCIMGroup | deleteSCIMGroup =>
    refine (assigned_ok ?_ hw).elim (hasAdmin_putMemberships hg)
    unfold Store.deleteSCIMGroupIndex
    split <;> (try split) <;> (try split) <;> exact ⟨rfl, rfl⟩
  | updateSCIMConfiguration configuration memberships =>
    obtain ⟨⟩ := hw
    let q : Store := { p with
      scimConfigurations := p.scimConfigurations.set configuration.id configuration }
    have hq : q.memberships = p.memberships := rfl
    exact hasAdmin_putMemberships hg (putMemberships_congr hq memberships)
      (putMemberships_users q memberships)

/-! ## Refusals -/

/-- A check fails for one of two reasons. -/
def OnlyRefuses (x : Except Err Unit) : Prop := ∀ e, x = .error e → e = .notFound ∨ e = .conflict

theorem onlyRefuses_require {p : Prop} [Decidable p] {e : Err} (he : e = .notFound ∨ e = .conflict) :
    OnlyRefuses (require p e) := fun _ h => (require_eq_error.mp h).2 ▸ he

theorem OnlyRefuses.bind {x : Except Err Unit} {f : Unit → Except Err Unit} (hx : OnlyRefuses x)
    (hf : ∀ u, OnlyRefuses (f u)) : OnlyRefuses (x >>= f) := by
  intro e h
  rcases check_bind_error.mp h with h | ⟨u, -, h⟩
  · exact hx e h
  · exact hf u e h

theorem onlyRefuses_find {K V : Type} [DecidableEq K] {m : FMap K V} {k : K}
    {f : V → Except Err Unit} (hf : ∀ v, OnlyRefuses (f v)) :
    OnlyRefuses (find m k .notFound >>= f) := by
  intro e h
  rcases check_bind_error.mp h with h | ⟨v, -, h⟩
  · exact .inl (find_eq_error.mp h).2.symm
  · exact hf v e h

theorem onlyRefuses_checkNotLast (s : Store) (u : UUID) : OnlyRefuses (s.checkNotLast u) :=
  (onlyRefuses_require (.inr rfl)).bind fun _ => onlyRefuses_require (.inr rfl)

theorem AdminOp.onlyRefuses {m : Method} {v : Mutation} (hop : AdminOp m) (hv : m.view = some v)
    (p : Store) : OnlyRefuses (v.check p) := by
  have hn {q : Prop} [Decidable q] : OnlyRefuses (require q .notFound) := onlyRefuses_require (.inl rfl)
  have hf {q : Prop} [Decidable q] : OnlyRefuses (require q .conflict) := onlyRefuses_require (.inr rfl)
  obtain ⟨o, rfl⟩ := hop.exists_op
  obtain ⟨⟩ := hv
  cases hop with
  | setUserDisabled userID disabled at' =>
    refine hn.bind fun _ => ?_
    cases disabled
    · exact fun e h => by cases h
    · exact onlyRefuses_checkNotLast p userID
  | anonymizeUser userID at' =>
    exact hn.bind fun _ => onlyRefuses_checkNotLast p userID
  | upsertMembership membership =>
    exact hn.bind fun _ => hn.bind fun _ => hf
  | removeMembership workspaceID userID at' =>
    exact onlyRefuses_find fun _ => onlyRefuses_find fun _ => hf
  | acceptWorkspaceInvitation invitationID userID at' membership =>
    exact onlyRefuses_find fun _ => hf.bind fun _ => hn
  | updateSCIMUser link membership revoke =>
    exact onlyRefuses_find fun _ => hn.bind fun _ => hf
  | upsertSCIMGroup group memberships =>
    exact hn.bind fun _ => hf.bind fun _ => hf
  | deleteSCIMGroup | updateSCIMConfiguration =>
    exact onlyRefuses_find fun _ => hn

/-- A call of the nine whose checks fail returns the error and changes nothing. -/
theorem AdminOp.run_of_check_error {c : Call} {m : Mutation} (hop : AdminOp c.method) (hm : c.method.view = some m)
    (hctx : c.ctx.err = none) {e : Err} (h : m.check s = .error e) : c.run s = (.err e, s) := by
  obtain ⟨method, commit, ctx⟩ := c
  obtain ⟨o, rfl⟩ := hop.exists_op
  obtain ⟨⟩ := hm
  have hattempt : o.mutation.attempt ctx commit s = .stopped (.err e) s := by
    rw [Mutation.attempt, hctx, h]
  rw [Call.run, Call.attempt, Method.attempt, hattempt, Attempt.finish]

/-! ## Runs -/

/-- A call of the nine that commits without demoting the only enabled admin leaves one. -/
theorem hasAdmin_next (s : Store) (c : Call) (hs : HasAdmin s w)
    (hg : AdminOp c.method ∧ (c.run s).1 = .ok () ∧ ¬ c.method.DemotesLastAdmin w s) :
    HasAdmin (c.next s) w := by
  obtain ⟨hop, hok, hg⟩ := hg
  obtain ⟨_, commit, ctx⟩ := c
  obtain ⟨o, rfl⟩ := hop.exists_op
  obtain ⟨p, t, hp, hc, hw, ht⟩ := Call.run_ok hok
  have hgp := mt (Method.demotesLastAdmin_congr hp w (.op o)).mp hg
  exact ((hs.congr hp).write hop rfl hc hw hgp).congr ht

/-- **A workspace keeps an enabled admin.**  Along every sequence of commits of the nine operations in
which no step demotes the only enabled admin of the workspace, one remains; and in the state reached,
an operation of the nine that is no such step and whose write would leave none is refused with
`ErrConflict` and changes nothing, unless what it names does not exist. -/
theorem workspace_admin_remains (w : UUID) (s : Store) (calls : List Call) (hs : HasAdmin s w)
    (hrun : Run.Meets Call.next (fun s c => AdminOp c.method ∧ (c.run s).1 = .ok ()
      ∧ ¬ c.method.DemotesLastAdmin w s) s calls) :
    HasAdmin (Run.run Call.next s calls) w
      ∧ ∀ (c : Call) (m : Mutation) (t : Store), AdminOp c.method → c.method.view = some m →
        c.ctx.err = none → ¬ c.method.DemotesLastAdmin w (Run.run Call.next s calls) →
        m.write c.commit (Run.run Call.next s calls) = .ok t → ¬ HasAdmin t w →
        m.check (Run.run Call.next s calls) ≠ .error .notFound →
        c.run (Run.run Call.next s calls) = (.err .conflict, Run.run Call.next s calls) := by
  have hreached := Run.invariant hasAdmin_next hs hrun
  refine ⟨hreached, fun c m t hop hm hctx hg hw hbroken hfound => ?_⟩
  cases hc : m.check (Run.run Call.next s calls) with
  | ok _ => exact absurd (hreached.write hop hm hc hw hg) hbroken
  | error e =>
    have he : e = .conflict := by
      rcases hop.onlyRefuses hm _ e hc with rfl | rfl
      · exact absurd hc hfound
      · rfl
    exact he ▸ hop.run_of_check_error hm hctx hc

/-! ## A run that loses it -/

/-- A workspace with two admins, the users 1 and 2. -/
def twoAdmins : List Call :=
  [{ method := .op (.account (.bootstrap { (default : User) with id := 1, email := "a" }
       { (default : EmailAddress) with id := 1, userID := 1, address := "a" } default
       { (default : Workspace) with id := 1 }
       { (default : Membership) with workspaceID := 1, userID := 1, role := .admin, status := .active }
       { (default : InstanceAdministrator) with userID := 1, role := .root }))
     commit := commitOf 11 1 },
   { method := .op (.account (.createUser { (default : User) with id := 2, email := "b" }
       { (default : EmailAddress) with id := 2, userID := 2, address := "b" } default
       { (default : Membership) with workspaceID := 1, userID := 2, role := .admin, status := .active }))
     commit := commitOf 12 2 }]

/-- With two enabled admins, one may be disabled. -/
theorem workspace_admin_remains_disable :
    HasAdmin (Run.run Call.next (Store.after twoAdmins)
      [⟨.op (.account (.setUserDisabled 2 true 3)), commitOf 13 3, {}⟩]) 1 :=
  (workspace_admin_remains 1 (Store.after twoAdmins)
    [⟨.op (.account (.setUserDisabled 2 true 3)), commitOf 13 3, {}⟩] (by decide)
    ⟨⟨.setUserDisabled 2 true 3, by decide, id⟩, trivial⟩).1

/-- Admin 2 is disabled, which is allowed while admin 1 is enabled; then admin 1 is made a member,
which is allowed while two admins are counted.  No enabled admin is left. -/
theorem upsertMembership_demotes_last_enabled_admin :
    let s := Store.after twoAdmins
    let disable : Call := ⟨.op (.account (.setUserDisabled 2 true 3)), commitOf 13 3, {}⟩
    let demote : Call := ⟨.op (.workspace (.upsertMembership { (default : Membership) with
      workspaceID := 1, userID := 1, role := .member, status := .active })), commitOf 14 4, {}⟩
    HasAdmin s 1 ∧ (disable.run s).1 = .ok () ∧ HasAdmin (disable.next s) 1
      ∧ (demote.run (disable.next s)).1 = .ok ()
      ∧ ¬ HasAdmin (demote.next (disable.next s)) 1 := by
  decide

end Credbound.Memory
