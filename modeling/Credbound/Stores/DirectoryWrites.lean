import Credbound.Manager.DirectoryRoles
import Credbound.Stores.MembershipStores

/-!
# Stores/DirectoryWrites — what the directory functions write, one call at a time

Left alone, each of the functions reads what it needs and makes one write at its end, so it leaves the store as
it is or as that write leaves it (`Leads`).  What it writes is told by what is stored: the user it updates, the
group it replaces, and the memberships with the roles computed for them.
-/

namespace Credbound

open Procedure
open Manager (Access Routine Reading)

namespace Memory

/-! ## Functions that are left alone -/

/-- The function runs alone over the memory store. -/
abbrev RunsAlone {α : Type} (p : Routine α) (s : Store) (r : Except Err α) (t : Store) : Prop :=
  p.Runs access Eq (fun _ _ _ => True) s r t

section Alone

variable {α β : Type} {p : Routine α} {f : α → Routine β} {s t : Store} {ctx : Context} {op : Op} {commit : Commit}
  {g : Err → Err}

theorem RunsAlone.of_reading {r : Except Err α} (hp : p.Emits Reading) (h : RunsAlone p s r t) : t = s :=
  Program.Runs.invariant_of_emits (I := (· = s)) h hp (fun _ _ heq hs => heq ▸ hs)
    (fun _ e m he _ hs => (access_reading e m he).trans hs) rfl

variable {r : Except Err β} {Q : Prop}

/-- A function that begins with reads stops there, or goes on in the state as it was. -/
theorem RunsAlone.bind (hp : p.Emits Reading) (h : RunsAlone (p >>= f) s r t)
    (hrest : ∀ a, RunsAlone p s (.ok a) s → RunsAlone (f a) s r t → t = s ∨ Q) : t = s ∨ Q := by
  obtain ⟨e, -, hfail⟩ | ⟨a, m, hok, hthen⟩ := runs_bind.mp h
  · exact .inl (RunsAlone.of_reading hp hfail)
  · obtain rfl := RunsAlone.of_reading hp hok
    exact hrest a hok hthen

theorem RunsAlone.lift_bind {x : Except Err α} (h : RunsAlone (lift x >>= f) s r t)
    (hrest : ∀ a, x = .ok a → RunsAlone (f a) s r t → t = s ∨ Q) : t = s ∨ Q :=
  h.bind emits_lift fun a ha => hrest a (runs_lift.mp ha).1.symm

theorem RunsAlone.demand_bind {q : Prop} [Decidable q] {e : Err} {f : Unit → Routine β}
    (h : RunsAlone (demand q e >>= f) s r t) (hrest : q → RunsAlone (f ()) s r t → t = s ∨ Q) : t = s ∨ Q :=
  h.bind emits_demand fun _ ha => hrest (runs_demand_ok.mp ha).1

theorem RunsAlone.read_bind {q : Read α} (h : RunsAlone (Routine.read ctx q >>= f) s r t)
    (hrest : ∀ a, (s.answer ctx q).toExcept = .ok a → RunsAlone (f a) s r t → t = s ∨ Q) : t = s ∨ Q :=
  h.bind (Manager.emits_read (by trivial)) fun a ha => hrest a (runs_read.mp ha).2.2

theorem RunsAlone.find_bind {q : Read α} {f : Option α → Routine β} (h : RunsAlone (Routine.find ctx q >>= f) s r t)
    (hrest : ∀ found : Option α, (s.answer ctx q).toExcept = found.elim (.error .notFound) .ok →
      RunsAlone (f found) s r t → t = s ∨ Q) : t = s ∨ Q := by
  refine h.bind (Manager.emits_find (by trivial)) fun found hfound => ?_
  obtain ⟨s₁, rfl, -, -, hanswer⟩ := Manager.runs_find_ok hfound
  exact hrest found hanswer

theorem RunsAlone.call_bind {e : Access (Except Err α)} (h : RunsAlone (call e >>= f) s r t) (he : Reading e)
    (hrest : ∀ a, (access e s).1 = .ok a → RunsAlone (f a) s r t → t = s ∨ Q) : t = s ∨ Q := by
  refine h.bind (emits_call he) fun a ha => ?_
  obtain ⟨_, rfl, -, hanswer, -⟩ := runs_call.mp ha
  exact hrest a hanswer

theorem RunsAlone.pure {a : α} {r : Except Err α} (h : RunsAlone (Pure.pure a) s r t) : r = .ok a ∧ t = s :=
  runs_pure.mp h

/-- A write at the end leaves what the call leaves. -/
theorem RunsAlone.write {r : Except Err Unit} (h : RunsAlone ((Routine.write ctx op commit).mapError g) s r t) :
    t = Call.next s ⟨.op op, commit, ctx⟩ := by
  obtain ⟨r', m, hrun, hret⟩ := Program.runs_bind.mp h
  have hend : t = m := by
    cases r' <;> exact (Program.runs_ret.mp hret).2
  obtain ⟨s₁, rfl, -, -, hnext⟩ := runs_write.mp hrun
  exact hend.trans hnext.symm

/-- What is returned after a function does not change where it ends. -/
theorem RunsAlone.bind_pure {b : β} (h : RunsAlone (p >>= fun _ => Pure.pure b) s r t) : ∃ r', RunsAlone p s r' t := by
  obtain ⟨e, -, hfail⟩ | ⟨_, m, hok, hrest⟩ := runs_bind.mp h
  · exact ⟨_, hfail⟩
  · obtain ⟨-, rfl⟩ := RunsAlone.pure hrest
    exact ⟨_, hok⟩

theorem RunsAlone.write_pure {b : β}
    (h : RunsAlone ((Routine.write ctx op commit).mapError g >>= fun _ => Pure.pure b) s r t) :
    t = Call.next s ⟨.op op, commit, ctx⟩ := by
  obtain ⟨_, hwrite⟩ := h.bind_pure
  exact hwrite.write

end Alone

/-- The store is as it was, or as the write leaves it. -/
def Leads (op : Op) (s t : Store) : Prop := ∃ commit ctx, t = Call.next s ⟨.op op, commit, ctx⟩

/-! ## What the directory functions read -/

section Reads

variable {ctx : Context} {s t : Store}

theorem mem_allSCIMGroups {c : UUID} {group : SCIMGroup} : group ∈ s.allSCIMGroups c
    ↔ (∃ id, s.scimGroups.get? id = some group) ∧ group.configurationID = c ∧ group.deletedAt = none := by
  rw [Store.allSCIMGroups, sortNewest, List.mem_insertionSort, List.mem_filter, FMap.mem_values, decide_eq_true_eq]

theorem mem_allSCIMUsers {c : UUID} {link : SCIMUser} : link ∈ s.allSCIMUsers c
    ↔ (∃ id, s.scimUsers.get? id = some link) ∧ link.configurationID = c ∧ link.deprovisionedAt = none := by
  rw [Store.allSCIMUsers, sortNewest, List.mem_insertionSort, List.mem_filter, FMap.mem_values, decide_eq_true_eq]

/-- What is listed without an error is listed as it is. -/
theorem listed_of_answer {α : Type} {items answer : List α}
    (h : (guarded ctx (.ok items)).toExcept = .ok answer) : items = answer := by
  have hok := Outcome.toExcept_eq_ok.mp h
  unfold guarded at hok
  split at hok
  · cases hok
  · exact Outcome.ok.inj hok

/-- A membership that is shown with the source of a directory is stored with it. -/
theorem source_of_normalizeMembership {v : Membership} {id : UUID}
    (h : (normalizeMembership v).provisioningSource = id.string) : v.provisioningSource = id.string := by
  by_cases hempty : v.provisioningSource = ""
  · refine absurd h.symm ?_
    have hlocal : (normalizeMembership v).provisioningSource = "local" := by
      unfold normalizeMembership
      dsimp only
      split <;> simp
    rw [hlocal]
    exact id.string_ne_local
  · rwa [normalizeMembership_source hempty] at h

theorem normalizeMembership_keys (v : Membership) :
    (normalizeMembership v).workspaceID = v.workspaceID ∧ (normalizeMembership v).userID = v.userID := by
  unfold normalizeMembership
  dsimp only
  split <;> split <;> exact ⟨rfl, rfl⟩

theorem link_of_answer {c id : UUID} {link : SCIMUser} (h : (s.answer ctx (.scimUser c id)).toExcept = .ok link) :
    s.scimUsers.get? id = some link ∧ link.configurationID = c := by
  obtain ⟨hlink, hc⟩ := Option.filter_eq_some_iff.mp (get?_of_read h)
  exact ⟨hlink, of_decide_eq_true hc⟩

/-- The group is one of the configuration, and not deleted. -/
def LiveGroup (s : Store) (c id : UUID) (group : SCIMGroup) : Prop :=
  s.scimGroups.get? id = some group ∧ group.configurationID = c ∧ group.deletedAt = none

theorem liveGroup_of_answer {c id : UUID} {group : SCIMGroup}
    (h : (s.answer ctx (.scimGroup c id)).toExcept = .ok group) : LiveGroup s c id group := by
  obtain ⟨hgroup, hlive⟩ := Option.filter_eq_some_iff.mp (get?_of_read h)
  exact ⟨hgroup, (of_decide_eq_true hlive).1, (of_decide_eq_true hlive).2⟩

end Reads

end Memory

namespace Stores

open Accounts Manager Memory

section Functions

variable {m : Accounts} {ctx : Context} {io : AccountSupply} {principal : SCIMAuthentication} {s t : Store}
  {Q : Prop}

theorem alone_configuration_bind {β : Type} {f : SCIMConfiguration → Routine β} {r : Except Err β}
    (h : RunsAlone (m.scimConfigurationForPrincipal ctx principal >>= f) s r t)
    (hrest : ∀ configuration, s.scimConfigurations.get? principal.configurationID = some configuration →
      RunsAlone (f configuration) s r t → t = s ∨ Q) : t = s ∨ Q := by
  have hreading : (m.scimConfigurationForPrincipal ctx principal).Emits Reading := by
    refine emits_bind emits_demand fun _ => ?_
    refine emits_bind emits_demand fun _ => ?_
    refine emits_bind (emits_read trivial) fun configuration => ?_
    exact emits_bind emits_demand fun _ => emits_pure
  refine h.bind hreading fun configuration hrun => hrest configuration ?_
  unfold scimConfigurationForPrincipal at hrun
  simp only [runs_bind_ok, runs_demand_ok, runs_pure] at hrun
  obtain ⟨_, _, ⟨-, rfl⟩, _, _, ⟨-, rfl⟩, found, _, hread, _, _, ⟨-, rfl⟩, hfound, -⟩ := hrun
  cases hfound
  obtain ⟨rfl, -, hanswer⟩ := runs_read.mp hread
  exact get?_of_read hanswer

/-- The configuration manages the membership, which is shown as `v`. -/
def Managing (s : Store) (configuration : SCIMConfiguration) (userID : UUID) (v : Membership) : Prop :=
  ∃ stored, s.membership? configuration.workspaceID userID = some stored
    ∧ stored.provisioningSource = configuration.id.string ∧ v = normalizeMembership stored

theorem managedMembership_reading (ctx : Context) (configuration : SCIMConfiguration) (userID : UUID) :
    (managedMembership ctx configuration userID).Emits Reading := by
  refine emits_bind (emits_read trivial) fun membership => ?_
  exact emits_bind emits_demand fun _ => emits_pure

variable {configuration : SCIMConfiguration} {r : Except Err SCIMUser} {groups : List SCIMGroup}
  {input : SCIMUserInput} {id : UUID}

theorem alone_managedMembership {userID : UUID} {v : Membership}
    (h : RunsAlone (managedMembership ctx configuration userID) s (.ok v) t) : Managing s configuration userID v := by
  unfold managedMembership at h
  simp only [runs_bind_ok, runs_demand_ok, runs_pure] at h
  obtain ⟨found, _, hread, _, _, ⟨hsource, rfl⟩, hfound, -⟩ := h
  cases hfound
  obtain ⟨rfl, -, hanswer⟩ := runs_read.mp hread
  obtain ⟨stored, hstored, rfl⟩ := Option.map_eq_some_iff.mp (get?_of_read hanswer)
  exact ⟨stored, hstored, source_of_normalizeMembership hsource, rfl⟩

theorem alone_managed_bind {β : Type} {userID : UUID} {f : Membership → Routine β} {r : Except Err β}
    (h : RunsAlone (managedMembership ctx configuration userID >>= f) s r t)
    (hrest : ∀ v, Managing s configuration userID v → RunsAlone (f v) s r t → t = s ∨ Q) : t = s ∨ Q :=
  h.bind (managedMembership_reading ..) fun v hrun => hrest v (alone_managedMembership hrun)

/-! ## Users -/

/-- What `ProvisionSCIMUser` creates. -/
theorem newProvisionedUser_ok {email : String} {created : ProvisionedUser}
    (h : newProvisionedUser io configuration input email = .ok created) :
    io.newID 2 = .ok created.link.id ∧ created.link.configurationID = configuration.id
      ∧ created.link.userID = created.user.id ∧ created.link.deprovisionedAt = none
      ∧ created.membership.workspaceID = configuration.workspaceID
      ∧ created.membership.userID = created.user.id ∧ created.membership.role = configuration.defaultRole
      ∧ created.membership.provisioningSource = configuration.id.string := by
  simp only [newProvisionedUser, check_bind, check_pure] at h
  obtain ⟨userID, -, emailID, -, linkID, hlink, rfl⟩ := h
  exact ⟨hlink, rfl, rfl, rfl, rfl, rfl, rfl, rfl⟩

/-- **`ProvisionSCIMUser` creates a user under the configuration.** -/
theorem alone_provisionSCIMUser (h : RunsAlone (m.provisionSCIMUser ctx io principal input) s r t) :
    t = s ∨ ∃ configuration input' email created,
      s.scimConfigurations.get? principal.configurationID = some configuration
        ∧ newProvisionedUser io configuration input' email = .ok created
        ∧ Leads (.directory (.createSCIMUser created.user created.email created.membership created.link)) s t := by
  refine alone_configuration_bind h fun configuration hconfiguration h => ?_
  refine h.lift_bind fun _ _ h => ?_
  refine h.lift_bind fun created hcreated h => ?_
  refine h.lift_bind fun event _ h => ?_
  refine h.lift_bind fun change _ h => ?_
  exact .inr ⟨configuration, _, _, created, hconfiguration, hcreated, _, _, h.write_pure⟩

/-- What `ReplaceSCIMUser` and `DeprovisionSCIMUser` write: the user as stored, with other attributes, and the
membership as it is shown, with another status. -/
structure UserUpdate (s : Store) (configuration : SCIMConfiguration) (id : UUID) (updated : SCIMUser)
    (membership : Membership) : Prop where
  stored : ∃ current, s.scimUsers.get? id = some current ∧ current.configurationID = configuration.id
    ∧ updated.id = current.id ∧ updated.configurationID = current.configurationID ∧ updated.userID = current.userID
  managed : ∃ v status at', Managing s configuration updated.userID v
    ∧ membership = { v with status := status, updatedAt := at' }
  suspended : updated.deprovisionedAt ≠ none → membership.status = .suspended

theorem alone_commitSCIMUserUpdate {user : SCIMUser} {membership : Membership} {deprovisions : Bool}
    (h : RunsAlone (m.commitSCIMUserUpdate ctx io principal configuration user membership deprovisions) s r t) :
    t = s ∨ Leads (.directory (.updateSCIMUser user membership deprovisions)) s t := by
  refine h.lift_bind fun event _ h => ?_
  refine h.lift_bind fun change _ h => ?_
  exact .inr ⟨_, _, h.write_pure⟩

/-- **`ReplaceSCIMUser` updates the user, which is no longer deprovisioned.** -/
theorem alone_replaceSCIMUser (h : RunsAlone (m.replaceSCIMUser ctx io principal id input) s r t) :
    t = s ∨ ∃ configuration updated membership revoke,
      s.scimConfigurations.get? principal.configurationID = some configuration
        ∧ UserUpdate s configuration id updated membership
        ∧ Leads (.directory (.updateSCIMUser updated membership revoke)) s t := by
  refine alone_configuration_bind h fun configuration hconfiguration h => ?_
  refine h.lift_bind fun _ _ h => ?_
  refine h.read_bind fun current hcurrent h => ?_
  refine alone_managed_bind h fun v hv h => ?_
  obtain rfl | hleads := alone_commitSCIMUserUpdate h
  · exact .inl rfl
  obtain ⟨hcurrent, hc⟩ := link_of_answer hcurrent
  refine .inr ⟨configuration, _, _, _, hconfiguration, ⟨?_, ?_, ?_⟩, hleads⟩
  · exact ⟨current, hcurrent, hc, rfl, rfl, rfl⟩
  · exact ⟨v, _, _, hv, rfl⟩
  · exact fun hne => absurd rfl hne

variable {r : Except Err Unit}

/-- **`DeprovisionSCIMUser` suspends the membership.** -/
theorem alone_deprovisionSCIMUser (h : RunsAlone (m.deprovisionSCIMUser ctx io principal id) s r t) :
    t = s ∨ ∃ configuration updated membership revoke,
      s.scimConfigurations.get? principal.configurationID = some configuration
        ∧ UserUpdate s configuration id updated membership ∧ updated.deprovisionedAt ≠ none
        ∧ Leads (.directory (.updateSCIMUser updated membership revoke)) s t := by
  refine alone_configuration_bind h fun configuration hconfiguration h => ?_
  refine h.find_bind fun found hanswer h => ?_
  cases hcurrent : found.filter fun current => decide (current.deprovisionedAt = none) with
  | none =>
    simp only [hcurrent] at h
    exact .inl h.pure.2
  | some current =>
    simp only [hcurrent] at h
    obtain ⟨rfl, -⟩ := Option.filter_eq_some_iff.mp hcurrent
    obtain ⟨hcurrent, hc⟩ := link_of_answer hanswer
    refine alone_managed_bind h fun v hv h => ?_
    obtain ⟨_, hcommit⟩ := h.bind_pure
    obtain rfl | hleads := alone_commitSCIMUserUpdate hcommit
    · exact .inl rfl
    refine .inr ⟨configuration, _, _, _, hconfiguration, ⟨?_, ?_, ?_⟩, ?_, hleads⟩
    · exact ⟨current, hcurrent, hc, rfl, rfl, rfl⟩
    · exact ⟨v, _, _, hv, rfl⟩
    · exact fun _ => rfl
    · simp

/-! ## Groups -/

/-- The membership of the user, as it is shown, with the role computed by the groups. -/
def Recomputed (s : Store) (configuration : SCIMConfiguration) (groups : List SCIMGroup) (linkID userID : UUID)
    (membership : Membership) : Prop :=
  ∃ v role at', Managing s configuration userID v ∧ scimRoleForUser configuration groups linkID = .ok role
    ∧ membership = { v with role := role, updatedAt := at' }

/-- …of the user of a link. -/
def Regrouped (s : Store) (configuration : SCIMConfiguration) (groups : List SCIMGroup) (linkID : UUID)
    (membership : Membership) : Prop :=
  ∃ link, s.scimUsers.get? linkID = some link ∧ link.configurationID = configuration.id
    ∧ Recomputed s configuration groups linkID link.userID membership

theorem regroupedMembership_reading (ctx : Context) (configuration : SCIMConfiguration) (groups : List SCIMGroup)
    (now : Time) (linkID : UUID) : (regroupedMembership ctx configuration groups now linkID).Emits Reading := by
  refine emits_bind (emits_read trivial) fun link => ?_
  refine emits_bind (managedMembership_reading ..) fun membership => ?_
  exact emits_bind emits_lift fun role => emits_pure

theorem regroupedMemberships_reading (ctx : Context) (io : AccountSupply) (configuration : SCIMConfiguration)
    (groups : List SCIMGroup) (k : Nat) (ids : List UUID) :
    (regroupedMemberships ctx io configuration groups k ids).Emits Reading := by
  induction ids generalizing k with
  | nil => exact emits_pure
  | cons linkID ids ih =>
    refine emits_bind (regroupedMembership_reading ..) fun membership => ?_
    exact emits_bind (ih (k + 1)) fun memberships => emits_pure

theorem alone_regroupedMembership {now : Time} {linkID : UUID} {membership : Membership}
    (h : RunsAlone (regroupedMembership ctx configuration groups now linkID) s (.ok membership) t) :
    t = s ∧ Regrouped s configuration groups linkID membership := by
  have hend := RunsAlone.of_reading (regroupedMembership_reading ..) h
  unfold regroupedMembership at h
  simp only [runs_bind_ok, runs_lift, runs_pure] at h
  obtain ⟨link, _, hread, v, _, hmanaged, role, _, ⟨hrole, rfl⟩, hmembership, -⟩ := h
  obtain ⟨rfl, -, hanswer⟩ := runs_read.mp hread
  obtain ⟨hlink, hc⟩ := link_of_answer hanswer
  exact ⟨hend, link, hlink, hc, v, role, now, alone_managedMembership hmanaged, hrole.symm,
    Except.ok.inj hmembership⟩

theorem alone_regroupedMemberships {k : Nat} {ids : List UUID} {memberships : List Membership}
    (h : RunsAlone (regroupedMemberships ctx io configuration groups k ids) s (.ok memberships) t) :
    List.Forall₂ (Regrouped s configuration groups) ids memberships := by
  induction ids generalizing k memberships t with
  | nil =>
    obtain ⟨heq, -⟩ := h.pure
    cases heq
    exact .nil
  | cons linkID ids ih =>
    unfold regroupedMemberships at h
    simp only [runs_bind_ok, runs_pure] at h
    obtain ⟨membership, _, hfirst, rest, _, hrest, hmemberships, -⟩ := h
    cases hmemberships
    obtain ⟨rfl, hregrouped⟩ := alone_regroupedMembership hfirst
    exact .cons hregrouped (ih hrest)

/-- The groups as they are when the replacement is written. -/
def groupsAfter (s : Store) (configuration : SCIMConfiguration) (replacement : SCIMGroup) (deleted : Bool) :
    List SCIMGroup :=
  if deleted then (s.allSCIMGroups configuration.id).eraseP fun group => group.id = replacement.id
  else replaceGroup replacement (s.allSCIMGroups configuration.id)

theorem alone_groupChange_bind {β : Type} {replacement : SCIMGroup} {deleted : Bool} {priorMembers : List UUID}
    {f : List Membership → Routine β} {r : Except Err β}
    (h : RunsAlone (scimMembershipsForGroupChange ctx io configuration replacement deleted priorMembers >>= f)
      s r t)
    (hrest : ∀ memberships,
      List.Forall₂ (Regrouped s configuration (groupsAfter s configuration replacement deleted))
        (compactIDs (priorMembers ++ replacement.memberIDs)) memberships →
      RunsAlone (f memberships) s r t → t = s ∨ Q) : t = s ∨ Q := by
  have hreading : (scimMembershipsForGroupChange ctx io configuration replacement deleted priorMembers).Emits
      Reading := by
    refine emits_bind (emits_call trivial) fun groups => ?_
    exact regroupedMemberships_reading ..
  refine h.bind hreading fun memberships hrun => hrest memberships ?_
  obtain ⟨groups, s₁, hgroups, hrun⟩ := runs_bind_ok.mp hrun
  obtain ⟨_, rfl, -, hanswer, rfl⟩ := runs_call.mp hgroups
  obtain rfl := listed_of_answer hanswer
  exact alone_regroupedMemberships hrun

/-- A group that is written: it is the one that is stored, or a new one, and its members are users of the
configuration. -/
structure GroupUpdate (s : Store) (configuration : SCIMConfiguration) (id : UUID) (prior : List UUID)
    (group : SCIMGroup) : Prop where
  owner : group.configurationID = configuration.id
  live : group.deletedAt = none
  prior : (∃ current, LiveGroup s configuration.id id current ∧ group.id = current.id ∧ prior = current.memberIDs)
    ∨ id = 0 ∧ prior = []
  members : ∀ member ∈ group.memberIDs, ∃ link, s.scimUsers.get? member = some link
    ∧ link.configurationID = configuration.id

theorem alone_requireMembers_bind {β : Type} {ids : List UUID} {f : Unit → Routine β} {r : Except Err β}
    (h : RunsAlone (requireMembers ctx configuration ids >>= f) s r t)
    (hrest : (∀ member ∈ ids, ∃ link, s.scimUsers.get? member = some link ∧ link.configurationID = configuration.id) →
      RunsAlone (f ()) s r t → t = s ∨ Q) : t = s ∨ Q := by
  have hreading : (requireMembers ctx configuration ids).Emits Reading := by
    refine emits_each fun member _ => ?_
    exact emits_bind (emits_expect_read trivial) fun _ => emits_pure
  refine h.bind hreading fun _ hrun => hrest fun member hid => ?_
  have hmember : ∀ member ∈ ids, ∀ (v : Unit) t, RunsAlone (Routine.expect ctx (.scimUser configuration.id member)
      (fun member => member.deprovisionedAt = none) .invalidInput >>= fun _ => pure ()) s (.ok v) t
        ↔ (∃ link, s.answer ctx (.scimUser configuration.id member) = .ok link ∧ link.deprovisionedAt = none)
          ∧ t = s := by
    intro member _ v t
    simp only [runs_bind_ok, runs_pure, runs_expect_read]
    constructor
    · rintro ⟨link, _, ⟨rfl, -, hlink, hlive⟩, -, rfl⟩
      exact ⟨⟨link, hlink, hlive⟩, rfl⟩
    · rintro ⟨⟨link, hlink, hlive⟩, rfl⟩
      exact ⟨link, _, ⟨rfl, trivial, hlink, hlive⟩, trivial, rfl⟩
  obtain ⟨link, hlink, -⟩ := ((runs_each_ok hmember).mp hrun).1 member hid
  exact ⟨link, link_of_answer (Outcome.toExcept_eq_ok.mpr hlink)⟩

/-- **`UpsertSCIMGroup` writes a group, and its members' memberships with the roles they have by then.** -/
theorem alone_upsertSCIMGroup {input : SCIMGroupInput} {r : Except Err SCIMGroup}
    (h : RunsAlone (m.upsertSCIMGroup ctx io principal id input) s r t) :
    t = s ∨ ∃ configuration prior group memberships,
      s.scimConfigurations.get? principal.configurationID = some configuration
        ∧ GroupUpdate s configuration id prior group ∧ (id = 0 → io.newID 0 = .ok group.id)
        ∧ List.Forall₂ (Regrouped s configuration (groupsAfter s configuration group false))
          (compactIDs (prior ++ group.memberIDs)) memberships
        ∧ Leads (.directory (.upsertSCIMGroup group memberships)) s t := by
  refine alone_configuration_bind h fun configuration hconfiguration h => ?_
  refine h.lift_bind fun input _ h => ?_
  refine h.bind (emits_attempt (emits_read (by trivial))) fun found hfound h => ?_
  obtain ⟨x, hx, hread⟩ := runs_attempt.mp hfound
  obtain ⟨⟩ := hx
  obtain ⟨-, -, hanswer⟩ := runs_read.mp hread
  refine h.lift_bind fun current hcurrent h => ?_
  refine alone_requireMembers_bind h fun hmembers h => ?_
  refine alone_groupChange_bind h fun memberships hmemberships h => ?_
  refine h.lift_bind fun event _ h => ?_
  refine h.lift_bind fun change _ h => ?_
  have hgroup : current.configurationID = configuration.id
      ∧ ((∃ stored, LiveGroup s configuration.id id stored ∧ current.id = stored.id
          ∧ current.memberIDs = stored.memberIDs) ∨ id = 0 ∧ current.memberIDs = [])
      ∧ (id = 0 → io.newID 0 = .ok current.id) := by
    unfold currentGroup at hcurrent
    split at hcurrent
    · next hzero =>
      simp only [check_bind, check_pure] at hcurrent
      obtain ⟨newID, hnew, rfl⟩ := hcurrent
      exact ⟨rfl, .inr ⟨hzero, rfl⟩, fun _ => hnew⟩
    · next hnonzero =>
      have hlive := liveGroup_of_answer (hanswer.trans hcurrent)
      exact ⟨hlive.2.1, .inl ⟨current, hlive, rfl, rfl⟩, fun hzero => absurd hzero hnonzero⟩
  have hnext := h.write_pure
  refine .inr ⟨configuration, current.memberIDs, _, memberships, hconfiguration, ?_, ?_, ?_, ⟨_, _, hnext⟩⟩
  · exact ⟨hgroup.1, rfl, hgroup.2.1, hmembers⟩
  · exact hgroup.2.2
  · exact hmemberships

/-- **`DeleteSCIMGroup` writes the group as deleted, and its members' memberships with the roles they have by
then.** -/
theorem alone_deleteSCIMGroup (h : RunsAlone (m.deleteSCIMGroup ctx io principal id) s r t) :
    t = s ∨ ∃ configuration current group memberships,
      s.scimConfigurations.get? principal.configurationID = some configuration
        ∧ LiveGroup s configuration.id id current ∧ group.id = current.id
        ∧ group.configurationID = current.configurationID ∧ group.deletedAt ≠ none
        ∧ List.Forall₂ (Regrouped s configuration (groupsAfter s configuration current true))
          (compactIDs (current.memberIDs ++ current.memberIDs)) memberships
        ∧ Leads (.directory (.deleteSCIMGroup group memberships)) s t := by
  refine alone_configuration_bind h fun configuration hconfiguration h => ?_
  refine h.find_bind fun found hanswer h => ?_
  cases found with
  | none => exact .inl h.pure.2
  | some current =>
    refine alone_groupChange_bind h fun memberships hmemberships h => ?_
    refine h.lift_bind fun event _ h => ?_
    refine h.lift_bind fun change _ h => ?_
    have hnext := h.write
    refine .inr ⟨configuration, current, _, memberships, hconfiguration, liveGroup_of_answer hanswer, ?_, ?_, ?_,
      hmemberships, ⟨_, _, hnext⟩⟩
    · rfl
    · rfl
    · simp

/-! ## The configuration -/

theorem alone_scimMemberships {users : List SCIMUser} {memberships : List Membership}
    (h : RunsAlone (scimMemberships ctx configuration groups users) s (.ok memberships) t) :
    List.Forall₂ (fun user => Recomputed s configuration groups user.id user.userID) users memberships := by
  induction users generalizing memberships t with
  | nil =>
    obtain ⟨heq, -⟩ := h.pure
    cases heq
    exact .nil
  | cons user users ih =>
    unfold scimMemberships scimMembership at h
    simp only [runs_bind_ok, runs_demand_ok, runs_lift, runs_pure] at h
    obtain ⟨membership, _, ⟨found, _, hread, _, _, ⟨hsource, rfl⟩, role, _, ⟨hrole, rfl⟩, hmembership, rfl⟩, rest, _,
      hrest, hmemberships, -⟩ := h
    cases hmemberships
    cases hmembership
    obtain ⟨rfl, -, hanswer⟩ := runs_read.mp hread
    obtain ⟨stored, hstored, rfl⟩ := Option.map_eq_some_iff.mp (get?_of_read hanswer)
    refine .cons ⟨_, role, _, ⟨stored, hstored, source_of_normalizeMembership hsource, rfl⟩, hrole.symm, rfl⟩ ?_
    exact ih hrest

/-- **`UpdateSCIMConfiguration` writes the configuration, and the memberships of the users that are not
deprovisioned with the roles they have by it.** -/
theorem alone_updateSCIMConfiguration {actor : Authentication} {configurationID : UUID}
    {input : UpdateSCIMConfigurationInput}
    (h : RunsAlone (m.updateSCIMConfiguration ctx io actor configurationID input) s r t) :
    t = s ∨ ∃ current configuration memberships,
      s.scimConfigurations.get? configurationID = some current ∧ configuration.id = current.id
        ∧ configuration.workspaceID = current.workspaceID
        ∧ List.Forall₂ (fun user => Recomputed s configuration (s.allSCIMGroups configuration.id) user.id user.userID)
          (s.allSCIMUsers configuration.id) memberships
        ∧ Leads (.directory (.updateSCIMConfiguration configuration memberships)) s t := by
  refine h.demand_bind fun _ h => ?_
  refine h.bind (m.requireScopedStepUp_reading ..) fun _ _ h => ?_
  refine h.read_bind fun current hcurrent h => ?_
  refine h.bind (m.toManager.authorizePermission_reading ..) fun _ _ h => ?_
  refine h.lift_bind fun roles _ h => ?_
  refine h.call_bind trivial fun groups hgroups h => ?_
  refine h.call_bind trivial fun users husers h => ?_
  obtain rfl := listed_of_answer hgroups
  obtain rfl := listed_of_answer husers
  refine h.bind (scimMemberships_reading ..) fun memberships hmemberships h => ?_
  refine h.lift_bind fun event _ h => ?_
  have hnext := h.write
  refine .inr ⟨current, _, memberships, get?_of_read hcurrent, ?_, ?_, ?_, ⟨_, _, hnext⟩⟩
  · rfl
  · rfl
  · exact alone_scimMemberships hmemberships

end Functions

end Stores

end Credbound
