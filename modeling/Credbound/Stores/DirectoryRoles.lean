import Credbound.Stores.DirectoryWrites
import Credbound.Stores.DirectoryIndexes

/-!
# Stores/DirectoryRoles — the roles of the memberships that a directory manages

The functions of one directory run one after the other over the memory store.  The role of a membership is
stored, and computed again where a group or the configuration changes.  `Directed` is what every function
keeps: the membership of a user has the role that the configuration and the groups give, unless the user was
deprovisioned when the configuration was last updated.

`UpdateSCIMConfiguration` leaves the deprovisioned users out, and `ReplaceSCIMUser` brings them back with the
role they had (`stale_role_reactivated`).  Where no such user is replaced, every active membership has the role
that is computed for it (`roles_current`).
-/

namespace Credbound

namespace Memory

/-! ## Lists of memberships -/

variable {ms : List Membership} {s : Store} {v : Membership} {w u : UUID}

theorem written_eq_some (h : written w u ms = some v) :
    ∃ m ∈ ms, m.workspaceID = w ∧ m.userID = u ∧ v = normalizeMembership m := by
  induction ms with
  | nil => cases h
  | cons m rest ih =>
    rw [written, Option.or_eq_some_iff] at h
    obtain hrest | ⟨-, hfirst⟩ := h
    · obtain ⟨m', hm', hkeys⟩ := ih hrest
      exact ⟨m', List.mem_cons_of_mem _ hm', hkeys⟩
    · split at hfirst
      · next hkeys => exact ⟨m, List.mem_cons_self, hkeys.1, hkeys.2, (Option.some.inj hfirst).symm⟩
      · cases hfirst

theorem written_eq_none (h : written w u ms = none) : ∀ m ∈ ms, ¬ (m.workspaceID = w ∧ m.userID = u) := by
  induction ms with
  | nil => exact fun m hm => absurd hm List.not_mem_nil
  | cons m rest ih =>
    rw [written, Option.or_eq_none_iff] at h
    intro m' hm' hkeys
    obtain rfl | hm' := List.mem_cons.mp hm'
    · rw [if_pos hkeys] at h
      cases h.2
    · exact ih h.1 m' hm' hkeys

/-- A membership after a list was put is one of the list, or an old one that the list has none for. -/
theorem membership?_put_cases (h : (s.putMemberships ms).membership? w u = some v) :
    (∃ m ∈ ms, m.workspaceID = w ∧ m.userID = u ∧ v = normalizeMembership m)
      ∨ s.membership? w u = some v ∧ ∀ m ∈ ms, ¬ (m.workspaceID = w ∧ m.userID = u) := by
  rw [membership?_putMemberships, Option.or_eq_some_iff] at h
  obtain hwritten | ⟨hnone, hold⟩ := h
  · exact .inl (written_eq_some hwritten)
  · exact .inr ⟨hold, written_eq_none hnone⟩

/-- Putting memberships changes nothing else. -/
theorem putMemberships_eq (s : Store) (ms : List Membership) :
    s.putMemberships ms = { s with memberships := (s.putMemberships ms).memberships } := by
  induction ms generalizing s with
  | nil => rfl
  | cons m rest ih => exact ih _

/-- A workspace with a membership has members. -/
theorem members_of_membership? (h : s.membership? w u = some v) : w ∈ s.memberships := by
  by_contra hnone
  have hempty : s.memberships.getI w = default := FMap.getI_of_get?_none (FMap.get?_eq_none.mpr hnone)
  rw [Store.membership?, hempty] at h
  cases h

theorem all_membership? {P : Membership → Prop} (h : s.memberships.All fun _ members => members.All fun _ v => P v)
    (hv : s.membership? w u = some v) : P v := by
  obtain ⟨members, hmembers⟩ := FMap.mem_iff_get?.mp (members_of_membership? hv)
  rw [Store.membership?, FMap.getI_of_get? hmembers] at hv
  exact h w members hmembers u v hv

theorem assignMembership_of_mem {w : UUID} (h : w ∈ s.memberships) (u : UUID) (m : Membership) :
    s.assignMembership w u m = .ok (s.putMembership w u m) := by
  obtain ⟨members, hmembers⟩ := FMap.mem_iff_get?.mp h
  rw [Store.assignMembership, hmembers, Store.putMembership, FMap.getI_of_get? hmembers]

theorem assignMemberships_of_mem (h : ∀ m ∈ ms, m.workspaceID ∈ s.memberships) :
    Store.assignMemberships ms s = .ok (s.putMemberships ms) := by
  induction ms generalizing s with
  | nil => rfl
  | cons m rest ih =>
    rw [Store.assignMemberships, assignMembership_of_mem (h m List.mem_cons_self)]
    exact ih fun m' hm' => FMap.mem_set (h m' (List.mem_cons_of_mem _ hm'))

/-! ## What the writes leave -/

/-- The maps that the directory functions are about. -/
structure DirectoryMaps where
  configurations : FMap UUID SCIMConfiguration
  users : FMap UUID User
  links : FMap UUID SCIMUser
  groups : FMap UUID SCIMGroup
  memberships : FMap UUID (FMap UUID Membership)

def Store.directory (s : Store) : DirectoryMaps :=
  ⟨s.scimConfigurations, s.users, s.scimUsers, s.scimGroups, s.memberships⟩

variable {p : Store}

/-- Putting memberships leaves the other maps; what it leaves of the memberships is told by them alone. -/
theorem directory_putMemberships {t : Store} (h : t.memberships = p.memberships) (ms : List Membership) :
    (t.putMemberships ms).directory = { t.directory with memberships := (p.putMemberships ms).memberships } := by
  rw [congrArg Store.directory (putMemberships_eq t ms), putMemberships_congr h]
  rfl

theorem directory_updateSCIMUser {link : SCIMUser} {m : Membership} (h : m.workspaceID ∈ p.memberships)
    (revoke : Bool) (commit : Commit) :
    ((updateSCIMUser link m revoke).result commit p).directory = { p.directory with
          links := p.scimUsers.set link.id link
          memberships := (p.putMembership m.workspaceID m.userID (normalizeMembership m)).memberships } := by
  have hassign := assignMembership_of_mem
    (s := (p.deleteSCIMUserIndexesLocked (p.scimUsers.getI link.id)).putSCIMUserLocked link) h m.userID
    (normalizeMembership m)
  simp only [Mutation.result, updateSCIMUser, hassign]
  cases revoke <;> rfl

theorem directory_deleteSCIMGroupIndex (s : Store) (group : SCIMGroup) :
    (s.deleteSCIMGroupIndex group).directory = s.directory := by
  unfold Store.deleteSCIMGroupIndex
  split <;> rfl

/-- A list of memberships is assigned after another map was written. -/
theorem directory_assignMemberships {t : Store} (maps : DirectoryMaps) (h : ∀ m ∈ ms, m.workspaceID ∈ p.memberships)
    (ht : t.directory = maps) (hmemberships : maps.memberships = p.memberships) :
    (reached (Store.assignMemberships ms t)).directory
      = { maps with memberships := (p.putMemberships ms).memberships } := by
  have htp : t.memberships = p.memberships := (congrArg DirectoryMaps.memberships ht).trans hmemberships
  rw [assignMemberships_of_mem (by rwa [htp]), reached, directory_putMemberships htp, ht]

theorem directory_upsertSCIMGroup {group : SCIMGroup} (h : ∀ m ∈ ms, m.workspaceID ∈ p.memberships)
    (commit : Commit) :
    ((upsertSCIMGroup group ms).result commit p).directory = { p.directory with
          groups := p.scimGroups.set group.id group
          memberships := (p.putMemberships ms).memberships } := by
  refine directory_assignMemberships { p.directory with groups := p.scimGroups.set group.id group } h ?_ rfl
  unfold Store.deleteSCIMGroupIndex
  split <;> split <;> (try split) <;> rfl

theorem directory_deleteSCIMGroup {group : SCIMGroup} (h : ∀ m ∈ ms, m.workspaceID ∈ p.memberships)
    (commit : Commit) :
    ((deleteSCIMGroup group ms).result commit p).directory = { p.directory with
          groups := p.scimGroups.set group.id group
          memberships := (p.putMemberships ms).memberships } :=
  directory_assignMemberships { p.directory with groups := p.scimGroups.set group.id group } h
    (directory_deleteSCIMGroupIndex _ _) rfl

theorem directory_updateSCIMConfiguration (configuration : SCIMConfiguration) (ms : List Membership) (commit : Commit)
    (p : Store) :
    ((updateSCIMConfiguration configuration ms).result commit p).directory = { p.directory with
          configurations := p.scimConfigurations.set configuration.id configuration
          memberships := (p.putMemberships ms).memberships } :=
  directory_putMemberships (p := p) (t := { p with
    scimConfigurations := p.scimConfigurations.set configuration.id configuration }) rfl ms

/-! ## Lists of groups -/

open Accounts Manager

/-- The groups of a configuration are filed under their identifiers. -/
def GroupsFiled (c : UUID) (s : Store) : Prop :=
  ∀ id group, s.scimGroups.get? id = some group → group.configurationID = c → group.id = id

theorem pairwise_allSCIMGroups {c : UUID} (h : GroupsFiled c s) :
    (s.allSCIMGroups c).Pairwise fun group other => group.id ≠ other.id := by
  have hvalues : s.scimGroups.values.Pairwise fun group other =>
      group.configurationID = c → other.configurationID = c → group.id ≠ other.id := by
    refine List.pairwise_filterMap.mpr (List.Pairwise.imp ?_ s.scimGroups.nodup_keyList)
    intro id id' hne group hgroup other hother hc hc' heq
    exact hne ((h id group hgroup hc).symm.trans (heq.trans (h id' other hother hc')))
  have hfilter : (s.scimGroups.values.filter fun v => decide (v.configurationID = c ∧ v.deletedAt = none)).Pairwise
      fun group other => group.id ≠ other.id := by
    refine List.Pairwise.imp_of_mem ?_ (hvalues.filter _)
    intro group other hgroup hother hne
    have hc := of_decide_eq_true (List.mem_filter.mp hgroup).2
    have hc' := of_decide_eq_true (List.mem_filter.mp hother).2
    exact hne hc.1 hc'.1
  exact (List.Perm.pairwise_iff (fun hne => hne.symm) (List.perm_insertionSort _ _)).mpr hfilter

theorem mem_eraseGroup {id : UUID} {g : SCIMGroup} {groups : List SCIMGroup}
    (h : groups.Pairwise fun group other => group.id ≠ other.id) :
    g ∈ groups.eraseP (fun group => group.id = id) ↔ g ∈ groups ∧ g.id ≠ id := by
  induction groups with
  | nil => simp
  | cons other rest ih =>
    obtain ⟨hother, hrest⟩ := List.pairwise_cons.mp h
    by_cases hid : other.id = id
    · rw [List.eraseP_cons_of_pos (by simpa using hid), List.mem_cons]
      refine ⟨fun hg => ⟨.inr hg, fun heq => hother g hg (hid.trans heq.symm)⟩, ?_⟩
      rintro ⟨rfl | hg, hne⟩
      · exact absurd hid hne
      · exact hg
    · rw [List.eraseP_cons_of_neg (by simpa using hid), List.mem_cons, ih hrest, List.mem_cons]
      constructor
      · rintro (rfl | ⟨hg, hne⟩)
        · exact ⟨.inl rfl, hid⟩
        · exact ⟨.inr hg, hne⟩
      · rintro ⟨rfl | hg, hne⟩
        · exact .inl rfl
        · exact .inr ⟨hg, hne⟩

theorem mem_replaceGroup {group g : SCIMGroup} {groups : List SCIMGroup}
    (h : groups.Pairwise fun group other => group.id ≠ other.id) :
    g ∈ replaceGroup group groups ↔ g = group ∨ g ∈ groups ∧ g.id ≠ group.id := by
  rw [← mem_eraseGroup h]
  induction groups with
  | nil => simp [replaceGroup]
  | cons other rest ih =>
    rw [replaceGroup]
    split
    · next hid => rw [List.eraseP_cons_of_pos (by simpa using hid), List.mem_cons]
    · next hid =>
      rw [List.eraseP_cons_of_neg (by simpa using hid), List.mem_cons, List.mem_cons, ih (List.pairwise_cons.mp h).2,
        or_left_comm]

end Memory

namespace Stores

open Accounts Manager Memory

/-! ## What every function keeps -/

/-- The link is stored, and one of the configuration. -/
def LinkOf (s : Store) (c id : UUID) (link : SCIMUser) : Prop :=
  s.scimUsers.get? id = some link ∧ link.configurationID = c

/-- **The roles follow the groups**: every membership the configuration manages is that of one of its users, and
has the role the groups give, unless the user is outdated; outdated users are deprovisioned, and the
memberships of deprovisioned users are suspended. -/
structure Directed (c : UUID) (outdated : Finset UUID) (configuration : SCIMConfiguration) (s : Store) : Prop where
  configured : s.scimConfigurations.get? c = some configuration
  named : configuration.id = c
  link : ∀ id link, LinkOf s c id link → link.id = id ∧ link.userID ∈ s.users
  single : ∀ id link id' link', LinkOf s c id link → LinkOf s c id' link' → link.userID = link'.userID → id = id'
  group : GroupsFiled c s
  members : ∀ id group, LiveGroup s c id group → ∀ member ∈ group.memberIDs, ∃ link, LinkOf s c member link
  managed : ∀ w u v, s.membership? w u = some v → v.provisioningSource = c.string →
    w = configuration.workspaceID ∧ v.workspaceID = w ∧ v.userID = u ∧ ∃ id link, LinkOf s c id link ∧ link.userID = u
  role : ∀ id link v, LinkOf s c id link → s.membership? configuration.workspaceID link.userID = some v →
    v.provisioningSource = c.string → id ∉ outdated →
    Chosen configuration.defaultRole (Entitles configuration (s.allSCIMGroups c) id) v.role
  suspended : ∀ id link v, LinkOf s c id link → s.membership? configuration.workspaceID link.userID = some v →
    v.provisioningSource = c.string → link.deprovisionedAt ≠ none → v.status = .suspended
  outdated : ∀ id ∈ outdated, ∃ link, s.scimUsers.get? id = some link
    ∧ (link.configurationID = c → link.deprovisionedAt ≠ none)

variable {configuration : SCIMConfiguration} {c : UUID} {outdated : Finset UUID}

theorem Directed.congr {s t : Store} (hcore : s.SameCore t)
    (h : Directed c outdated configuration s) : Directed c outdated configuration t := by
  obtain ⟨_, rfl⟩ := hcore
  exact ⟨h.configured, h.named, h.link, h.single, h.group, h.members, h.managed, h.role, h.suspended, h.outdated⟩

/-- Users may be taken for outdated as long as they are deprovisioned. -/
theorem Directed.outdate {outdated' : Finset UUID} {s : Store} (h : Directed c outdated configuration s)
    (hsub : outdated ⊆ outdated') (hout : ∀ id ∈ outdated', ∃ link, s.scimUsers.get? id = some link
      ∧ (link.configurationID = c → link.deprovisionedAt ≠ none)) : Directed c outdated' configuration s :=
  { h with
    role := fun id link v hlink hv hsource hid => h.role id link v hlink hv hsource fun hold => hid (hsub hold)
    outdated := hout }

section Preserved

variable {c : UUID} {outdated : Finset UUID} {configuration : SCIMConfiguration} {p t : Store}

/-- The role of the user is computed again, or what applies to them is as before. -/
def RoleKept (p : Store) (outdated : Finset UUID) (configuration updated : SCIMConfiguration)
    (groups groups' : List SCIMGroup) (memberships : List Membership) (id : UUID) (link : SCIMUser) : Prop :=
  (∃ m ∈ memberships, Recomputed p updated groups' id link.userID m)
    ∨ id ∉ outdated ∧ updated.defaultRole = configuration.defaultRole
      ∧ ∀ mapping, Entitles configuration groups id mapping ↔ Entitles updated groups' id mapping

variable (h : Directed c outdated configuration p)

include h

/-- A membership that a configuration manages is stored, in a workspace that has members. -/
theorem Directed.members_of_managing {updated : SCIMConfiguration} {userID : UUID} {v : Membership}
    (hupdated : updated.id = configuration.id ∧ updated.workspaceID = configuration.workspaceID)
    (hv : Managing p updated userID v) : v.workspaceID ∈ p.memberships := by
  obtain ⟨stored, hstored, hsource, rfl⟩ := hv
  rw [hupdated.1, h.named] at hsource
  obtain ⟨-, hw, -⟩ := h.managed _ _ _ hstored hsource
  rw [(normalizeMembership_keys stored).1, hw]
  exact members_of_membership? hstored

variable {m : Membership}

/-- **A link and the membership of its user are written**: the user has no other link, and the role is the one that
the groups give. -/
theorem Directed.put {users : FMap UUID User} {link : SCIMUser} (hc : link.configurationID = c)
    (husers : ∀ id ∈ p.users, id ∈ users) (huser : link.userID ∈ users)
    (hsame : ∀ current, LinkOf p c link.id current → current.userID = link.userID)
    (hsole : ∀ id other, LinkOf p c id other → other.userID = link.userID → id = link.id)
    (hkeys : m.workspaceID = configuration.workspaceID ∧ m.userID = link.userID)
    (hrole : link.id ∉ outdated →
      Chosen configuration.defaultRole (Entitles configuration (p.allSCIMGroups c) link.id) m.role)
    (hsuspended : link.deprovisionedAt ≠ none → m.status = .suspended)
    (houtdated : link.id ∈ outdated → link.deprovisionedAt ≠ none)
    (ht : t.directory = { p.directory with
      users := users
      links := p.scimUsers.set link.id link
      memberships := (p.putMembership m.workspaceID m.userID (normalizeMembership m)).memberships }) :
    Directed c outdated configuration t := by
  have hlinks : t.scimUsers = p.scimUsers.set link.id link := congrArg DirectoryMaps.links ht
  have hgroups : t.scimGroups = p.scimGroups := congrArg DirectoryMaps.groups ht
  have hmemberships : ∀ w u, t.membership? w u
      = if w = m.workspaceID ∧ u = m.userID then some (normalizeMembership m) else p.membership? w u := fun w u =>
    (membership?_congr (congrArg DirectoryMaps.memberships ht) w u).trans (membership?_put ..)
  have hlinkOf : ∀ k other, LinkOf t c k other
      ↔ k = link.id ∧ other = link ∨ k ≠ link.id ∧ LinkOf p c k other := by
    intro k other
    rw [LinkOf, LinkOf, hlinks, FMap.get?_set]
    by_cases hk : k = link.id
    · rw [if_pos hk, or_iff_left fun hne => hne.1 hk]
      constructor
      · rintro ⟨hother, -⟩
        exact ⟨hk, (Option.some.inj hother).symm⟩
      · rintro ⟨-, rfl⟩
        exact ⟨rfl, hc⟩
    · rw [if_neg hk, or_iff_right fun heq => hk heq.1, and_iff_right hk]
  -- the links from before stay, with their users
  have hafter : ∀ k other, LinkOf p c k other → ∃ other', LinkOf t c k other' ∧ other'.userID = other.userID := by
    intro k other hother
    by_cases hk : k = link.id
    · exact ⟨link, (hlinkOf k link).mpr (.inl ⟨hk, rfl⟩), (hsame other (hk ▸ hother)).symm⟩
    · exact ⟨other, (hlinkOf k other).mpr (.inr ⟨hk, hother⟩), rfl⟩
  have hgroupsOf : t.allSCIMGroups c = p.allSCIMGroups c := by rw [Store.allSCIMGroups, hgroups, Store.allSCIMGroups]
  have hkept : ∀ k other, k ≠ link.id → LinkOf p c k other → t.membership? configuration.workspaceID other.userID
      = p.membership? configuration.workspaceID other.userID := by
    intro k other hk hother
    rw [hmemberships, if_neg]
    rintro ⟨-, heq⟩
    exact hk (hsole k other hother (heq.trans hkeys.2))
  have hmade : t.membership? configuration.workspaceID link.userID = some (normalizeMembership m) := by
    rw [hmemberships, if_pos ⟨hkeys.1.symm, hkeys.2.symm⟩]
  constructor
  · exact (congrArg (fun maps : DirectoryMaps => maps.configurations.get? c) ht).trans h.configured
  · exact h.named
  · intro k other hother
    rw [show t.users = users from congrArg DirectoryMaps.users ht]
    obtain ⟨rfl, rfl⟩ | ⟨-, hother⟩ := (hlinkOf k other).mp hother
    · exact ⟨rfl, huser⟩
    · exact ⟨(h.link k other hother).1, husers _ (h.link k other hother).2⟩
  · intro k other k' other' hother hother' heq
    obtain ⟨rfl, rfl⟩ | ⟨-, hother⟩ := (hlinkOf k other).mp hother <;>
      obtain ⟨rfl, rfl⟩ | ⟨-, hother'⟩ := (hlinkOf k' other').mp hother'
    · rfl
    · exact (hsole k' other' hother' heq.symm).symm
    · exact hsole k other hother heq
    · exact h.single k other k' other' hother hother' heq
  · intro k group hgroup
    rw [hgroups] at hgroup
    exact h.group k group hgroup
  · intro k group hgroup member hmember
    rw [LiveGroup, hgroups] at hgroup
    obtain ⟨other, hother⟩ := h.members k group hgroup member hmember
    obtain ⟨other', hother', -⟩ := hafter member other hother
    exact ⟨other', hother'⟩
  · intro w u v hv hsource
    rw [hmemberships] at hv
    split at hv
    · next hwu =>
      obtain ⟨rfl, rfl⟩ := hwu
      obtain ⟨⟩ := hv
      obtain ⟨hw, hu⟩ := normalizeMembership_keys m
      exact ⟨hkeys.1, hw, hu, link.id, link, (hlinkOf _ _).mpr (.inl ⟨rfl, rfl⟩), hkeys.2.symm⟩
    · obtain ⟨hw, hvw, hvu, k, other, hother, huserID⟩ := h.managed w u v hv hsource
      obtain ⟨other', hother', huserID'⟩ := hafter k other hother
      exact ⟨hw, hvw, hvu, k, other', hother', huserID'.trans huserID⟩
  · intro k other v hother hv hsource hk
    rw [hgroupsOf]
    obtain ⟨rfl, rfl⟩ | ⟨hne, hother⟩ := (hlinkOf k other).mp hother
    · rw [hmade] at hv
      obtain ⟨⟩ := hv
      rw [normalizeMembership_role]
      exact hrole hk
    · rw [hkept k other hne hother] at hv
      exact h.role k other v hother hv hsource hk
  · intro k other v hother hv hsource hdeprovisioned
    obtain ⟨rfl, rfl⟩ | ⟨hne, hother⟩ := (hlinkOf k other).mp hother
    · rw [hmade] at hv
      obtain ⟨⟩ := hv
      have hstatus := hsuspended hdeprovisioned
      rw [normalizeMembership_status (by rw [hstatus]; simp), hstatus]
    · rw [hkept k other hne hother] at hv
      exact h.suspended k other v hother hv hsource hdeprovisioned
  · intro k hk
    by_cases heq : k = link.id
    · exact ⟨link, by rw [hlinks, heq, FMap.get?_set_self], fun _ => houtdated (heq ▸ hk)⟩
    · obtain ⟨other, hother, hdeprovisioned⟩ := h.outdated k hk
      exact ⟨other, by rw [hlinks, FMap.get?_set_ne _ _ heq, hother], hdeprovisioned⟩

/-- A user is created with the default role, which is what a member of no group has. -/
theorem Directed.provision {user : User} {link : SCIMUser} (huser : user.id ∉ p.users) (hlink : link.id ∉ p.scimUsers)
    (hnew : link.configurationID = c ∧ link.userID = user.id ∧ link.deprovisionedAt = none)
    (hkeys : m.workspaceID = configuration.workspaceID ∧ m.userID = user.id)
    (hrole : m.role = configuration.defaultRole)
    (ht : t.directory = { p.directory with
      users := p.users.set user.id user
      links := p.scimUsers.set link.id link
      memberships := (p.putMembership m.workspaceID m.userID (normalizeMembership m)).memberships }) :
    Directed c outdated configuration t := by
  have hfresh : ∀ current, ¬ LinkOf p c link.id current := fun _ hcurrent => hlink (FMap.mem_of_get? hcurrent.1)
  refine h.put hnew.1 (fun id hid => FMap.mem_set hid) ?_ (fun current hcurrent => absurd hcurrent (hfresh current)) ?_
    ⟨hkeys.1, hkeys.2.trans hnew.2.1.symm⟩ (fun _ => .inl ⟨?_, hrole⟩) (absurd hnew.2.2) ?_ ht
  · exact FMap.mem_iff_get?.mpr ⟨user, by rw [hnew.2.1, FMap.get?_set_self]⟩
  · -- the users of the other links are not the new one
    intro id other hother heq
    exact absurd (heq.trans hnew.2.1 ▸ (h.link id other hother).2) huser
  · -- no group has the new link among its members
    rintro mapping ⟨-, group, hgroup, hlive, hmember, -⟩
    obtain ⟨⟨groupID, hstored⟩, hc, -⟩ := mem_allSCIMGroups.mp hgroup
    obtain ⟨other, hother⟩ := h.members groupID group ⟨hstored, hc, hlive⟩ _ hmember
    exact hfresh other hother
  · intro hid
    obtain ⟨other, hother, -⟩ := h.outdated link.id hid
    exact absurd (FMap.mem_of_get? hother) hlink

/-- A user's link and membership are updated, and the role stays. -/
theorem Directed.update {id : UUID} {updated : SCIMUser} (hupdate : UserUpdate p configuration id updated m)
    (houtdated : id ∈ outdated → updated.deprovisionedAt ≠ none)
    (ht : t.directory = { p.directory with
      links := p.scimUsers.set updated.id updated
      memberships := (p.putMembership m.workspaceID m.userID (normalizeMembership m)).memberships }) :
    Directed c outdated configuration t := by
  obtain ⟨current, hcurrent, hcurrentOf, hid, hc, huserID⟩ := hupdate.stored
  obtain ⟨v, status, at', ⟨stored, hstored, hsource, rfl⟩, hm⟩ := hupdate.managed
  rw [h.named] at hcurrentOf hsource
  have hcurrentOf : LinkOf p c id current := ⟨hcurrent, hcurrentOf⟩
  obtain rfl : updated.id = id := hid.trans (h.link id current hcurrentOf).1
  obtain ⟨-, hw, hu, -⟩ := h.managed _ _ _ hstored hsource
  refine h.put (hc.trans hcurrentOf.2) (fun _ hid => hid) (huserID ▸ (h.link _ _ hcurrentOf).2) ?_ ?_ ?_ ?_
    hupdate.suspended houtdated ht
  · intro other hother
    obtain rfl : current = other := Option.mem_unique hcurrent hother.1
    exact huserID.symm
  · exact fun k other hother heq => h.single k other updated.id current hother hcurrentOf (heq.trans huserID)
  · obtain ⟨hworkspace, huser⟩ := normalizeMembership_keys stored
    rw [hm]
    exact ⟨hworkspace.trans hw, huser.trans hu⟩
  · intro hk
    rw [huserID] at hstored
    have hrole := h.role _ current stored hcurrentOf hstored hsource hk
    rwa [hm, normalizeMembership_role]

/-- **Roles are computed again**, by the configuration and the groups as they are written: those of the users
that they may have changed for, and no other's. -/
theorem Directed.recompute {outdated' : Finset UUID} {updated : SCIMConfiguration} {groups : List SCIMGroup}
    {memberships : List Membership}
    (hupdated : updated.id = configuration.id ∧ updated.workspaceID = configuration.workspaceID)
    (houtdated : ∀ id ∈ outdated', ∃ link, p.scimUsers.get? id = some link
      ∧ (link.configurationID = c → link.deprovisionedAt ≠ none))
    (hgroup : GroupsFiled c t)
    (hmembers : ∀ id group, LiveGroup t c id group → ∀ member ∈ group.memberIDs, ∃ link, LinkOf p c member link)
    (hlisted : ∀ group, group ∈ groups ↔ group ∈ t.allSCIMGroups c)
    (hcomputed : ∀ m ∈ memberships, ∃ id link, LinkOf p c id link ∧ Recomputed p updated groups id link.userID m)
    (hkept : ∀ id link, LinkOf p c id link → id ∉ outdated' →
      RoleKept p outdated configuration updated (p.allSCIMGroups c) groups memberships id link)
    (hconfigurations : t.scimConfigurations.get? c = some updated) (husers : t.users = p.users)
    (hlinks : t.scimUsers = p.scimUsers)
    (hmemberships : t.memberships = (p.putMemberships memberships).memberships) :
    Directed c outdated' updated t := by
  have hlinkOf : ∀ id link, LinkOf t c id link ↔ LinkOf p c id link := by
    intro id link
    rw [LinkOf, hlinks, LinkOf]
  have hcases : ∀ {w u v}, t.membership? w u = some v →
      (∃ m ∈ memberships, m.workspaceID = w ∧ m.userID = u ∧ v = normalizeMembership m)
        ∨ p.membership? w u = some v ∧ ∀ m ∈ memberships, ¬ (m.workspaceID = w ∧ m.userID = u) := by
    intro w u v hv
    rw [Store.membership?, hmemberships] at hv
    exact membership?_put_cases hv
  have hrecomputed : ∀ id link m, LinkOf p c id link → Recomputed p updated groups id link.userID m →
      ∃ stored role, p.membership? configuration.workspaceID link.userID = some stored
        ∧ stored.provisioningSource = c.string ∧ scimRoleForUser updated groups id = .ok role
        ∧ m.workspaceID = configuration.workspaceID ∧ m.userID = link.userID ∧ m.role = role
        ∧ (stored.status = .suspended → m.status = .suspended) := by
    rintro id link m hlink ⟨_, role, at', ⟨stored, hstored, hsource, rfl⟩, hrole, rfl⟩
    rw [hupdated.1, h.named] at hsource
    rw [hupdated.2] at hstored
    obtain ⟨-, hw, hu, -⟩ := h.managed _ _ _ hstored hsource
    obtain ⟨hworkspace, huser⟩ := normalizeMembership_keys stored
    refine ⟨stored, role, hstored, hsource, hrole, hworkspace.trans hw, huser.trans hu, rfl, fun hstatus => ?_⟩
    exact (normalizeMembership_status (by rw [hstatus]; simp)).trans hstatus
  constructor
  · exact hconfigurations
  · exact hupdated.1.trans h.named
  · intro id link hlink
    rw [husers]
    exact h.link id link ((hlinkOf id link).mp hlink)
  · intro id link id' link' hlink hlink' heq
    exact h.single id link id' link' ((hlinkOf id link).mp hlink) ((hlinkOf id' link').mp hlink') heq
  · exact hgroup
  · intro id group hlive member hmember
    obtain ⟨link, hlink⟩ := hmembers id group hlive member hmember
    exact ⟨link, (hlinkOf member link).mpr hlink⟩
  · intro w u v hv hsource
    rw [hupdated.2]
    obtain ⟨m, hm, rfl, rfl, rfl⟩ | ⟨hold, -⟩ := hcases hv
    · obtain ⟨id, link, hlink, hcomputed⟩ := hcomputed m hm
      obtain ⟨_, _, -, -, -, hworkspace, huser, -⟩ := hrecomputed id link m hlink hcomputed
      obtain ⟨hw, hu⟩ := normalizeMembership_keys m
      exact ⟨hworkspace, hw, hu, id, link, (hlinkOf id link).mpr hlink, huser.symm⟩
    · obtain ⟨hw, hvw, hvu, id, link, hlink, huser⟩ := h.managed w u v hold hsource
      exact ⟨hw, hvw, hvu, id, link, (hlinkOf id link).mpr hlink, huser⟩
  · intro id link v hlink hv hsource hid
    rw [hlinkOf] at hlink
    rw [hupdated.2] at hv
    have hentitles : ∀ mapping, Entitles updated groups id mapping
        ↔ Entitles updated (t.allSCIMGroups c) id mapping := by
      simp only [Entitles, hlisted, implies_true]
    refine Chosen.congr ?_ hentitles
    obtain ⟨m, hm, -, huser, rfl⟩ | ⟨hold, hnone⟩ := hcases hv
    · -- the membership is the user's own: there is one link for them
      obtain ⟨id', link', hlink', hcomputed⟩ := hcomputed m hm
      obtain ⟨_, role, -, -, hrole, -, huser', hmrole, -⟩ := hrecomputed id' link' m hlink' hcomputed
      obtain rfl := h.single id' link' id link hlink' hlink (huser'.symm.trans huser)
      rw [normalizeMembership_role, hmrole]
      exact chosen_of_scimRoleForUser hrole
    · obtain ⟨m, hm, hcomputed⟩ | ⟨hcurrent, hdefault, hsame⟩ := hkept id link hlink hid
      · obtain ⟨_, _, -, -, -, hworkspace, huser, -⟩ := hrecomputed id link m hlink hcomputed
        exact absurd ⟨hworkspace, huser⟩ (hnone m hm)
      · rw [hdefault]
        exact (h.role id link v hlink hold hsource hcurrent).congr hsame
  · intro id link v hlink hv hsource hdeprovisioned
    rw [hlinkOf] at hlink
    rw [hupdated.2] at hv
    obtain ⟨m, hm, -, huser, rfl⟩ | ⟨hold, -⟩ := hcases hv
    · obtain ⟨id', link', hlink', hcomputed⟩ := hcomputed m hm
      obtain ⟨stored, _, hstored, hsource', -, -, huser', -, hstatus⟩ := hrecomputed id' link' m hlink' hcomputed
      obtain rfl := h.single id' link' id link hlink' hlink (huser'.symm.trans huser)
      obtain rfl : link' = link := Option.mem_unique hlink'.1 hlink.1
      have hsuspended := hstatus (h.suspended id' link' stored hlink' hstored hsource' hdeprovisioned)
      rw [normalizeMembership_status (by rw [hsuspended]; simp), hsuspended]
    · exact h.suspended id link v hlink hold hsource hdeprovisioned
  · intro id hid
    rw [hlinks]
    exact houtdated id hid

end Preserved

/-! ## The writes -/

section Writes

variable {c : UUID} {outdated : Finset UUID} {configuration : SCIMConfiguration} {s t : Store}

/-- What a write makes of the state holds after the call. -/
theorem leads_preserves {I : Store → Prop} {op : Op} (h : Leads op s t)
    (hcore : ∀ {s t : Store}, s.SameCore t → I s → I t)
    (hwrite : ∀ p commit, s.SameCore p → op.mutation.check p = .ok () → I p → I (op.mutation.result commit p))
    (hs : I s) : I t := by
  obtain ⟨commit, ctx, rfl⟩ := h
  refine Call.next_preserves _ s ?_ hs fun h _ => hcore h
  intro m p hm hp hcheck hI
  obtain ⟨⟩ := hm
  exact hwrite p commit hp hcheck hI

theorem Directed.createSCIMUser {io : AccountSupply} {input : SCIMUserInput} {email : String}
    {created : ProvisionedUser} (h : Directed c outdated configuration s)
    (hcreated : newProvisionedUser io configuration input email = .ok created)
    (hnew : created.link.id ∉ s.scimUsers)
    (hleads : Leads (.directory (.createSCIMUser created.user created.email created.membership created.link)) s t) :
    Directed c outdated configuration t := by
  obtain ⟨-, hlinkOf, hlinkUser, hlive, hworkspace, huser, hrole, -⟩ := newProvisionedUser_ok hcreated
  refine leads_preserves hleads Directed.congr ?_ h
  intro p commit hp hcheck hI
  have hnew : created.link.id ∉ p.scimUsers := by
    obtain ⟨_, rfl⟩ := hp
    exact hnew
  simp only [Op.mutation, DirectoryOp.mutation, Memory.createSCIMUser, check_bind, require_eq_ok] at hcheck
  obtain ⟨_, -, _, hfree, -⟩ := hcheck
  exact hI.provision (fun hmem => hfree (.inl hmem)) hnew ⟨hlinkOf.trans hI.named, hlinkUser, hlive⟩
    ⟨hworkspace, huser⟩ hrole (by rw [huser]; rfl)

variable {memberships : List Membership} {id : UUID}

theorem Directed.updateSCIMUser {updated : SCIMUser} {m : Membership} {revoke : Bool}
    (h : Directed c outdated configuration s) (hupdate : UserUpdate s configuration id updated m)
    (houtdated : id ∈ outdated → updated.deprovisionedAt ≠ none)
    (hleads : Leads (.directory (.updateSCIMUser updated m revoke)) s t) : Directed c outdated configuration t := by
  refine leads_preserves hleads Directed.congr ?_ h
  intro p commit hp _ hI
  have hupdate : UserUpdate p configuration id updated m := by
    obtain ⟨_, rfl⟩ := hp
    exact ⟨hupdate.stored, hupdate.managed, hupdate.suspended⟩
  refine hI.update hupdate houtdated (directory_updateSCIMUser ?_ revoke commit)
  obtain ⟨v, status, at', hv, rfl⟩ := hupdate.managed
  exact (hI.members_of_managing ⟨rfl, rfl⟩ hv :)

/-- A list that is made member by member has something for each of them, and nothing else. -/
theorem exists_of_forall₂ {α β : Type} {R : α → β → Prop} {as : List α} {bs : List β} (h : List.Forall₂ R as bs) :
    (∀ a ∈ as, ∃ b ∈ bs, R a b) ∧ ∀ b ∈ bs, ∃ a ∈ as, R a b := by
  refine ⟨fun a ha => ?_, fun b hb => ?_⟩
  · obtain ⟨i, hi, rfl⟩ := List.getElem_of_mem ha
    exact ⟨_, List.getElem_mem (h.length_eq ▸ hi), h.get hi _⟩
  · obtain ⟨i, hi, rfl⟩ := List.getElem_of_mem hb
    exact ⟨_, List.getElem_mem (h.length_eq ▸ hi), h.get _ hi⟩

variable {group : SCIMGroup}

/-- The groups of the configuration once one of them is written. -/
theorem mem_allSCIMGroups_set {p : Store} {g : SCIMGroup} (hfiled : GroupsFiled c p)
    (hgroups : t.scimGroups = p.scimGroups.set group.id group) (hgroup : group.configurationID = c) :
    g ∈ t.allSCIMGroups c ↔ group.deletedAt = none ∧ g = group ∨ g ∈ p.allSCIMGroups c ∧ g.id ≠ group.id := by
  rw [mem_allSCIMGroups, mem_allSCIMGroups, hgroups]
  constructor
  · rintro ⟨⟨id, hid⟩, hc, hlive⟩
    obtain ⟨rfl, rfl⟩ | ⟨hne, hid⟩ := FMap.get?_set_eq_some.mp hid
    · exact .inl ⟨hlive, rfl⟩
    · have hgid := hfiled id g hid hc
      exact .inr ⟨⟨⟨id, hid⟩, hc, hlive⟩, fun heq => hne (hgid.symm.trans heq)⟩
  · rintro (⟨hlive, rfl⟩ | ⟨⟨⟨id, hid⟩, hc, hlive⟩, hne⟩)
    · exact ⟨⟨g.id, FMap.get?_set_self _ _ _⟩, hgroup, hlive⟩
    · obtain rfl := hfiled id g hid hc
      exact ⟨⟨g.id, (FMap.get?_set_ne _ _ hne).trans hid⟩, hc, hlive⟩

/-- The memberships of all members of a group, before and after, are computed again when it is written. -/
theorem Directed.regroup {p : Store} {groups : List SCIMGroup} {ids : List UUID}
    (h : Directed c outdated configuration p) (hgroup : group.configurationID = c)
    (hmembers : group.deletedAt = none → ∀ member ∈ group.memberIDs, ∃ link, LinkOf p c member link)
    (hlisted : ∀ g, g ∈ groups ↔ group.deletedAt = none ∧ g = group ∨ g ∈ p.allSCIMGroups c ∧ g.id ≠ group.id)
    (hall : List.Forall₂ (Regrouped p configuration groups) ids memberships)
    (hafter : group.deletedAt = none → ∀ member ∈ group.memberIDs, member ∈ ids)
    (hbefore : ∀ g ∈ p.allSCIMGroups c, g.id = group.id → ∀ member ∈ g.memberIDs, member ∈ ids)
    (ht : t.directory = { p.directory with
      groups := p.scimGroups.set group.id group
      memberships := (p.putMemberships memberships).memberships }) : Directed c outdated configuration t := by
  have hgroups : t.scimGroups = p.scimGroups.set group.id group := congrArg DirectoryMaps.groups ht
  have hfiled : GroupsFiled c t := by
    rw [GroupsFiled, hgroups]
    exact FMap.All.set h.group fun _ => rfl
  obtain ⟨hevery, honly⟩ := exists_of_forall₂ hall
  have hstored : ∀ g, g ∈ groups ↔ g ∈ t.allSCIMGroups c := by
    intro g
    rw [hlisted, mem_allSCIMGroups_set h.group hgroups hgroup]
  refine h.recompute ⟨rfl, rfl⟩ h.outdated hfiled ?_ hstored ?_ ?_ ?_ (congrArg DirectoryMaps.users ht)
    (congrArg DirectoryMaps.links ht) (congrArg DirectoryMaps.memberships ht)
  · rintro id g ⟨hg, hc, hlive⟩ member hmember
    rw [hgroups] at hg
    obtain ⟨rfl, rfl⟩ | ⟨-, hg⟩ := FMap.get?_set_eq_some.mp hg
    · exact hmembers hlive member hmember
    · exact h.members id g ⟨hg, hc, hlive⟩ member hmember
  · intro m hm
    obtain ⟨id, -, link, hlink, hc, hcomputed⟩ := honly m hm
    exact ⟨id, link, ⟨hlink, hc.trans h.named⟩, hcomputed⟩
  · intro id link hlink hid
    by_cases hin : id ∈ ids
    · obtain ⟨m, hm, link', hlink', -, hcomputed⟩ := hevery id hin
      obtain rfl : link' = link := Option.mem_unique hlink' hlink.1
      exact .inl ⟨m, hm, hcomputed⟩
    · -- a user that is in the group neither before nor after has what the other groups give
      refine .inr ⟨hid, rfl, fun mapping => ?_⟩
      constructor
      · rintro ⟨hmapping, g, hg, hlive, hmember, hexternal⟩
        have hne : g.id ≠ group.id := fun heq => hin (hbefore g hg heq id hmember)
        exact ⟨hmapping, g, (hlisted g).mpr (.inr ⟨hg, hne⟩), hlive, hmember, hexternal⟩
      · rintro ⟨hmapping, g, hg, hlive, hmember, hexternal⟩
        obtain ⟨hnew, rfl⟩ | ⟨hg, -⟩ := (hlisted g).mp hg
        · exact absurd (hafter hnew id hmember) hin
        · exact ⟨hmapping, g, hg, hlive, hmember, hexternal⟩
  · exact (congrArg (fun maps : DirectoryMaps => maps.configurations.get? c) ht).trans h.configured

theorem members_of_regrouped {p : Store} {groups : List SCIMGroup} {ids : List UUID}
    (h : Directed c outdated configuration p) (hall : List.Forall₂ (Regrouped p configuration groups) ids memberships) :
    ∀ m ∈ memberships, m.workspaceID ∈ p.memberships := by
  intro m hm
  obtain ⟨_, -, _, -, -, v, role, at', hv, -, rfl⟩ := (exists_of_forall₂ hall).2 m hm
  exact (h.members_of_managing ⟨rfl, rfl⟩ hv :)

theorem Directed.upsertSCIMGroup {prior : List UUID} (h : Directed c outdated configuration s)
    (hupdate : GroupUpdate s configuration id prior group) (hnew : id = 0 → group.id ∉ s.scimGroups)
    (hall : List.Forall₂ (Regrouped s configuration (groupsAfter s configuration group false))
      (compactIDs (prior ++ group.memberIDs)) memberships)
    (hleads : Leads (.directory (.upsertSCIMGroup group memberships)) s t) : Directed c outdated configuration t := by
  refine leads_preserves hleads Directed.congr ?_ h
  intro p commit hp _ hI
  obtain ⟨hupdate, hnew, hall⟩ : GroupUpdate p configuration id prior group ∧ (id = 0 → group.id ∉ p.scimGroups)
      ∧ List.Forall₂ (Regrouped p configuration (groupsAfter p configuration group false))
        (compactIDs (prior ++ group.memberIDs)) memberships := by
    obtain ⟨_, rfl⟩ := hp
    exact ⟨⟨hupdate.owner, hupdate.live, hupdate.prior, hupdate.members⟩, hnew, hall⟩
  refine hI.regroup (hupdate.owner.trans hI.named) ?_ ?_ hall ?_ ?_
    (directory_upsertSCIMGroup (members_of_regrouped hI hall) commit)
  · intro _ member hmember
    obtain ⟨link, hlink, hlinkOf⟩ := hupdate.members member hmember
    exact ⟨link, hlink, hlinkOf.trans hI.named⟩
  · intro g
    rw [groupsAfter, if_neg (by simp), hI.named, mem_replaceGroup (pairwise_allSCIMGroups hI.group),
      and_iff_right hupdate.live]
  · intro _ member hmember
    exact mem_compactIDs.mpr (List.mem_append_right _ hmember)
  · intro g hg hid member hmember
    obtain ⟨⟨k, hk⟩, hgc, -⟩ := mem_allSCIMGroups.mp hg
    obtain rfl : g.id = k := hI.group k g hk hgc
    obtain ⟨current, ⟨hcurrent, hcurrentOf, -⟩, hcurrentID, rfl⟩ | ⟨rfl, rfl⟩ := hupdate.prior
    · obtain rfl : current.id = id := hI.group id current hcurrent (hcurrentOf.trans hI.named)
      rw [hid, hcurrentID] at hk
      obtain rfl : current = g := Option.mem_unique hcurrent hk
      exact mem_compactIDs.mpr (List.mem_append_left _ hmember)
    · exact absurd (FMap.mem_of_get? (hid ▸ hk)) (hnew rfl)

theorem Directed.deleteSCIMGroup {current : SCIMGroup} (h : Directed c outdated configuration s)
    (hcurrent : LiveGroup s configuration.id id current) (hid : group.id = current.id)
    (hgroup : group.configurationID = current.configurationID) (hdeleted : group.deletedAt ≠ none)
    (hall : List.Forall₂ (Regrouped s configuration (groupsAfter s configuration current true))
      (compactIDs (current.memberIDs ++ current.memberIDs)) memberships)
    (hleads : Leads (.directory (.deleteSCIMGroup group memberships)) s t) : Directed c outdated configuration t := by
  refine leads_preserves hleads Directed.congr ?_ h
  intro p commit hp _ hI
  obtain ⟨hcurrent, hall⟩ : LiveGroup p configuration.id id current
      ∧ List.Forall₂ (Regrouped p configuration (groupsAfter p configuration current true))
        (compactIDs (current.memberIDs ++ current.memberIDs)) memberships := by
    obtain ⟨_, rfl⟩ := hp
    exact ⟨hcurrent, hall⟩
  have hc : group.configurationID = c := hgroup.trans (hcurrent.2.1.trans hI.named)
  refine hI.regroup hc ?_ ?_ hall ?_ ?_ (directory_deleteSCIMGroup (members_of_regrouped hI hall) commit)
  · exact fun hlive => absurd hlive hdeleted
  · intro g
    rw [groupsAfter, if_pos rfl, hI.named, mem_eraseGroup (pairwise_allSCIMGroups hI.group), ← hid,
      or_iff_right fun hlive => hdeleted hlive.1]
  · exact fun hlive => absurd hlive hdeleted
  · intro g hg heq member hmember
    obtain ⟨⟨k, hk⟩, hgc, -⟩ := mem_allSCIMGroups.mp hg
    obtain rfl : g.id = k := hI.group k g hk hgc
    obtain rfl : current.id = id := hI.group id current hcurrent.1 (hcurrent.2.1.trans hI.named)
    rw [heq, hid] at hk
    obtain rfl : current = g := Option.mem_unique hcurrent.1 hk
    exact mem_compactIDs.mpr (List.mem_append_left _ hmember)

/-- The users that an update of the configuration leaves out. -/
def deprovisioned (s : Store) : Finset UUID := s.scimUsers.keysWhere fun _ link => link.deprovisionedAt ≠ none

theorem Directed.deprovisioned (h : Directed c outdated configuration s) :
    Directed c (outdated ∪ deprovisioned s) configuration s := by
  refine h.outdate Finset.subset_union_left fun id hid => ?_
  obtain hid | hid := Finset.mem_union.mp hid
  · exact h.outdated id hid
  · obtain ⟨link, hlink, hdeprovisioned⟩ := FMap.mem_keysWhere.mp hid
    exact ⟨link, hlink, fun _ => hdeprovisioned⟩

theorem Directed.updateSCIMConfiguration {updated : SCIMConfiguration} (h : Directed c outdated configuration s)
    (hupdated : updated.id = configuration.id ∧ updated.workspaceID = configuration.workspaceID)
    (hall : List.Forall₂ (fun user => Recomputed s updated (s.allSCIMGroups updated.id) user.id user.userID)
      (s.allSCIMUsers updated.id) memberships)
    (hleads : Leads (.directory (.updateSCIMConfiguration updated memberships)) s t) :
    ∃ configuration', Directed c (outdated ∪ Stores.deprovisioned s) configuration' t := by
  have hid : updated.id = c := hupdated.1.trans h.named
  rw [hid] at hall
  refine leads_preserves (I := fun t => ∃ configuration',
    Directed c (outdated ∪ Stores.deprovisioned s) configuration' t) hleads
    (fun hcore ⟨configuration', hdirected⟩ => ⟨configuration', hdirected.congr hcore⟩) ?_ ⟨_, h.deprovisioned⟩
  intro p commit hp _ _
  have hI := h.congr hp
  have hout := (h.deprovisioned.congr hp).outdated
  obtain ⟨hall, hleft⟩ : List.Forall₂ (fun user => Recomputed p updated (p.allSCIMGroups c) user.id user.userID)
      (p.allSCIMUsers c) memberships ∧ Stores.deprovisioned s = Stores.deprovisioned p := by
    obtain ⟨_, rfl⟩ := hp
    exact ⟨hall, rfl⟩
  obtain ⟨hevery, honly⟩ := exists_of_forall₂ hall
  have ht := directory_updateSCIMConfiguration updated memberships commit p
  have hgroups : ((Memory.updateSCIMConfiguration updated memberships).result commit p).scimGroups = p.scimGroups :=
    congrArg DirectoryMaps.groups ht
  have hlisted : ∀ g, g ∈ p.allSCIMGroups c
      ↔ g ∈ ((Memory.updateSCIMConfiguration updated memberships).result commit p).allSCIMGroups c := by
    intro g
    rw [mem_allSCIMGroups, mem_allSCIMGroups, hgroups]
  refine ⟨updated, hI.recompute hupdated hout ?_ ?_ hlisted ?_ ?_ ?_ (congrArg DirectoryMaps.users ht)
    (congrArg DirectoryMaps.links ht) (congrArg DirectoryMaps.memberships ht)⟩
  · intro id group hgroup
    exact hI.group id group ((congrArg (fun groups => groups.get? id) hgroups).symm.trans hgroup)
  · rintro id group ⟨hgroup, hlive⟩
    exact hI.members id group ⟨(congrArg (fun groups => groups.get? id) hgroups).symm.trans hgroup, hlive⟩
  · intro m hm
    obtain ⟨user, huser, hcomputed⟩ := honly m hm
    obtain ⟨⟨id, hstored⟩, hc, -⟩ := mem_allSCIMUsers.mp huser
    obtain rfl : user.id = id := (hI.link id user ⟨hstored, hc⟩).1
    exact ⟨user.id, user, ⟨hstored, hc⟩, hcomputed⟩
  · intro id link hlink hnot
    -- a user that is not outdated is not deprovisioned, so the update has computed its role
    have hlive : link.deprovisionedAt = none := by
      by_contra hne
      exact hnot (Finset.mem_union_right _ (hleft ▸ FMap.mem_keysWhere.mpr ⟨link, hlink.1, hne⟩))
    obtain ⟨m, hm, hcomputed⟩ := hevery link (mem_allSCIMUsers.mpr ⟨⟨id, hlink.1⟩, hlink.2, hlive⟩)
    rw [(hI.link id link hlink).1] at hcomputed
    exact .inl ⟨m, hm, hcomputed⟩
  · refine (congrArg (fun maps : DirectoryMaps => maps.configurations.get? c) ht).trans ?_
    change (p.scimConfigurations.set updated.id updated).get? c = some updated
    rw [FMap.get?_set, if_pos hid.symm]

end Writes

/-! ## Runs -/

/-- A call of one of the directory functions. -/
inductive DirectoryChange
  | provision (input : SCIMUserInput)
  | replace (id : UUID) (input : SCIMUserInput)
  | deprovision (id : UUID)
  | upsertGroup (id : UUID) (input : SCIMGroupInput)
  | deleteGroup (id : UUID)
  | updateConfiguration (actor : Authentication) (input : UpdateSCIMConfigurationInput)

/-- …with what its request carries. -/
structure DirectoryCall where
  change : DirectoryChange
  ctx : Context
  io : AccountSupply
  workspaceID : UUID
  credentialID : UUID

/-- The store after the call, on the configuration. -/
def DirectoryCall.next (m : Accounts) (c : UUID) (s : Store) (call : DirectoryCall) : Store :=
  let principal : SCIMAuthentication :=
    { configurationID := c, workspaceID := call.workspaceID, credentialID := call.credentialID }
  match call.change with
  | .provision input => ((m.provisionSCIMUser call.ctx call.io principal input).exec access s).2
  | .replace id input => ((m.replaceSCIMUser call.ctx call.io principal id input).exec access s).2
  | .deprovision id => ((m.deprovisionSCIMUser call.ctx call.io principal id).exec access s).2
  | .upsertGroup id input => ((m.upsertSCIMGroup call.ctx call.io principal id input).exec access s).2
  | .deleteGroup id => ((m.deleteSCIMGroup call.ctx call.io principal id).exec access s).2
  | .updateConfiguration actor input =>
    ((m.updateSCIMConfiguration call.ctx call.io actor c input).exec access s).2

/-- A run, with the users that were deprovisioned when the configuration was updated. -/
structure DirectoryRun where
  store : Store
  outdated : Finset UUID

/-- The users that the call leaves with the role they have. -/
def DirectoryCall.outdates (s : Store) (call : DirectoryCall) : Finset UUID :=
  match call.change with
  | .updateConfiguration _ _ => deprovisioned s
  | _ => ∅

def DirectoryCall.step (m : Accounts) (c : UUID) (run : DirectoryRun) (call : DirectoryCall) : DirectoryRun where
  store := call.next m c run.store
  outdated := run.outdated ∪ call.outdates run.store

/-- New users and groups have new identifiers, and **no user is replaced that was deprovisioned when the
configuration was updated**. -/
def DirectoryCall.Admitted (run : DirectoryRun) (call : DirectoryCall) : Prop :=
  match call.change with
  | .provision _ => ∀ id, call.io.newID 2 = .ok id → id ∉ run.store.scimUsers
  | .replace id _ => id ∉ run.outdated
  | .upsertGroup id _ => id = 0 → ∀ groupID, call.io.newID 0 = .ok groupID → groupID ∉ run.store.scimGroups
  | _ => True

theorem alone_exec {α : Type} (q : Routine α) (s : Store) : RunsAlone q s (q.exec access s).1 (q.exec access s).2 :=
  Program.runs_alone.mpr rfl

/-- **Every call keeps the roles.** -/
theorem directed_step {m : Accounts} (run : DirectoryRun) (call : DirectoryCall)
    (h : ∃ configuration, Directed c run.outdated configuration run.store) (hadmitted : call.Admitted run) :
    ∃ configuration, Directed c (call.step m c run).outdated configuration (call.step m c run).store := by
  obtain ⟨s, outdated⟩ := run
  obtain ⟨change, ctx, io, workspaceID, credentialID⟩ := call
  obtain ⟨configuration, h⟩ := h
  have hsame : ∀ {configuration'}, s.scimConfigurations.get? c = some configuration' → configuration' = configuration :=
    fun hread => Option.mem_unique hread h.configured
  -- a call that outdates nobody leaves the store, or writes it under the same configuration
  have hstep : ∀ {t : Store}, t = s ∨ Directed c outdated configuration t →
      ∃ configuration, Directed c (outdated ∪ ∅) configuration t := by
    rintro t (rfl | ht)
    · exact ⟨configuration, by rwa [Finset.union_empty]⟩
    · exact ⟨configuration, by rwa [Finset.union_empty]⟩
  cases change with
  | provision input =>
    refine hstep ((alone_provisionSCIMUser (alone_exec _ s)).imp_right ?_)
    rintro ⟨_, input', email, created, hread, hcreated, hleads⟩
    obtain rfl := hsame hread
    exact h.createSCIMUser hcreated (hadmitted _ (newProvisionedUser_ok hcreated).1) hleads
  | replace id input =>
    refine hstep ((alone_replaceSCIMUser (alone_exec _ s)).imp_right ?_)
    rintro ⟨_, updated, membership, revoke, hread, hupdate, hleads⟩
    obtain rfl := hsame hread
    exact h.updateSCIMUser hupdate (fun hid => absurd hid hadmitted) hleads
  | deprovision id =>
    refine hstep ((alone_deprovisionSCIMUser (alone_exec _ s)).imp_right ?_)
    rintro ⟨_, updated, membership, revoke, hread, hupdate, hdeprovisioned, hleads⟩
    obtain rfl := hsame hread
    exact h.updateSCIMUser hupdate (fun _ => hdeprovisioned) hleads
  | upsertGroup id input =>
    refine hstep ((alone_upsertSCIMGroup (alone_exec _ s)).imp_right ?_)
    rintro ⟨_, prior, group, memberships, hread, hupdate, hnew, hall, hleads⟩
    obtain rfl := hsame hread
    exact h.upsertSCIMGroup hupdate (fun hid => hadmitted hid _ (hnew hid)) hall hleads
  | deleteGroup id =>
    refine hstep ((alone_deleteSCIMGroup (alone_exec _ s)).imp_right ?_)
    rintro ⟨_, current, group, memberships, hread, hcurrent, hid, hgroup, hdeleted, hall, hleads⟩
    obtain rfl := hsame hread
    exact h.deleteSCIMGroup hcurrent hid hgroup hdeleted hall hleads
  | updateConfiguration actor input =>
    simp only [DirectoryCall.step, DirectoryCall.outdates, DirectoryCall.next]
    obtain heq | ⟨_, updated, memberships, hread, hid, hworkspace, hall, hleads⟩ :=
      alone_updateSCIMConfiguration (alone_exec _ s)
    · rw [heq]
      exact ⟨configuration, h.deprovisioned⟩
    · obtain rfl := hsame hread
      exact h.updateSCIMConfiguration ⟨hid, hworkspace⟩ hall hleads

/-- A configuration under which nothing is provisioned yet. -/
structure Untouched (c : UUID) (s : Store) : Prop where
  configured : ∃ configuration, s.scimConfigurations.get? c = some configuration ∧ configuration.id = c
  links : ∀ id link, s.scimUsers.get? id = some link → link.configurationID ≠ c
  groups : ∀ id group, s.scimGroups.get? id = some group → group.configurationID ≠ c
  memberships : ∀ w u v, s.membership? w u = some v → v.provisioningSource ≠ c.string

theorem Untouched.directed {s : Store} (h : Untouched c s) :
    ∃ configuration, Directed c ∅ configuration s := by
  obtain ⟨configuration, hconfigured, hid⟩ := h.configured
  have hnone : ∀ {id link}, ¬ LinkOf s c id link := fun hlink => h.links _ _ hlink.1 hlink.2
  refine ⟨configuration, hconfigured, hid, ?_, ?_, ?_, ?_, ?_, ?_, ?_, ?_⟩
  · exact fun id link hlink => absurd hlink hnone
  · exact fun id link id' link' hlink => absurd hlink hnone
  · exact fun id group hgroup hc => absurd hc (h.groups id group hgroup)
  · exact fun id group hgroup => absurd hgroup.2.1 (h.groups id group hgroup.1)
  · exact fun w u v hv hsource => absurd hsource (h.memberships w u v hv)
  · exact fun id link v hlink => absurd hlink hnone
  · exact fun id link v hlink => absurd hlink hnone
  · exact fun id hid => absurd hid (Finset.notMem_empty id)

/-- **Every active membership that the configuration manages has the role that is computed for its user**: what
`scimRoleForUser` gives is the role it has, and it gives one where the mappings that apply agree. -/
def RolesCurrent (c : UUID) (s : Store) : Prop :=
  ∀ w u v, s.membership? w u = some v → v.provisioningSource = c.string → v.status = .active →
    ∃ configuration id link, s.scimConfigurations.get? c = some configuration ∧ LinkOf s c id link ∧ link.userID = u
      ∧ (∀ role, scimRoleForUser configuration (s.allSCIMGroups c) id = .ok role → v.role = role)
      ∧ (Agree (Entitles configuration (s.allSCIMGroups c) id)
          → scimRoleForUser configuration (s.allSCIMGroups c) id = .ok v.role)

theorem Directed.rolesCurrent {s : Store} (h : Directed c outdated configuration s) : RolesCurrent c s := by
  intro w u v hv hsource hactive
  obtain ⟨rfl, -, -, id, link, hlink, rfl⟩ := h.managed w u v hv hsource
  have hcurrent : id ∉ outdated := by
    intro hid
    obtain ⟨link', hlink', hdeprovisioned⟩ := h.outdated id hid
    obtain rfl : link' = link := Option.mem_unique hlink' hlink.1
    cases hactive.symm.trans (h.suspended id link' v hlink hv hsource (hdeprovisioned hlink.2))
  have hchosen := h.role id link v hlink hv hsource hcurrent
  refine ⟨configuration, id, link, h.configured, hlink, rfl, fun role hrole => ?_, fun hagree => ?_⟩
  · exact hchosen.unique (chosen_of_scimRoleForUser hrole)
  · exact scimRoleForUser_of_agree hagree hchosen

/-- A call on the directory of the tenant. -/
def directoryCall (first : Nat) (change : DirectoryChange) : DirectoryCall :=
  ⟨change, {}, tenantAccountSupply first, uuidv7 1, uuidv7 62⟩

/-- User "three", as the directory has them. -/
def userThree : SCIMUserInput := { userName := "three", emails := [⟨"three@example.com", "work", true⟩] }

/-- The run of the calls, from the tenant with nothing provisioned. -/
def directoryRun (calls : List DirectoryCall) : DirectoryRun :=
  Run.run (fun run call => DirectoryCall.step tenantAccounts (uuidv7 60) run call) ⟨Store.after switchCalls, ∅⟩ calls

theorem tenant_untouched : Untouched (uuidv7 60) (Store.after switchCalls) where
  configured := ⟨_, rfl, rfl⟩
  links := (by decide +kernel : (Store.after switchCalls).scimUsers.All fun _ link => link.configurationID ≠ uuidv7 60)
  groups := (by decide +kernel :
    (Store.after switchCalls).scimGroups.All fun _ group => group.configurationID ≠ uuidv7 60)
  memberships _ _ _ := all_membership? (by decide +kernel : (Store.after switchCalls).memberships.All
    fun _ members => members.All fun _ v => v.provisioningSource ≠ (uuidv7 60).string)

/-- The user is deprovisioned, the default role is changed, and the user is replaced. -/
def reactivation : List DirectoryCall :=
  [directoryCall 800 (.provision userThree), directoryCall 900 (.deprovision (uuidv7 802)),
    directoryCall 1000 (.updateConfiguration tenantAdministrator { defaultRole := .admin }),
    directoryCall 1100 (.replace (uuidv7 802) userThree)]

end Stores

end Credbound
