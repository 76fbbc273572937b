import Credbound.Machinery.Index
import Credbound.Memory.Frames

/-!
# Memory/DirectoryIndexes — the links and groups of the directories, and the indexes over them

Links are found by user name and by external identifier, groups by external identifier.  A `Roster` is the
five maps; it is `Exact` when the indexes and the records agree.  The store's methods change it in two ways
only: a link is refiled (`Roster.relink`), and a group is (`Roster.regroup`).

Where the indexes go wrong, a record that is no longer filed is written again: a group that is deleted
already gives up an external identifier that another group has by then, and an anonymized link takes a name
that another link may have.  In every run without these two the indexes are exact (`directory_exact`).
-/

namespace Credbound.Memory

/-- The five maps. -/
structure Roster where
  links : FMap UUID SCIMUser
  names : FMap (UUID × String) UUID
  externals : FMap (UUID × String) UUID
  groups : FMap UUID SCIMGroup
  groupExternals : FMap (UUID × String) UUID

def Store.roster (s : Store) : Roster :=
  ⟨s.scimUsers, s.scimUserNames, s.scimExternalIDs, s.scimGroups, s.scimGroupExternal⟩

/-! ## The names of a record -/

/-- The user name of a link, in its configuration. -/
def linkName (link : SCIMUser) : Option (UUID × String) := some (link.configurationID, link.userName)

/-- The external identifier of a link, if it has one. -/
def linkExternal (link : SCIMUser) : Option (UUID × String) :=
  if link.externalID = "" then none else some (link.configurationID, link.externalID)

/-- The external identifier of a group that is not deleted. -/
def groupExternal (group : SCIMGroup) : Option (UUID × String) :=
  if group.deletedAt ≠ none ∨ group.externalID = "" then none else some (group.configurationID, group.externalID)

variable {group : SCIMGroup} {link : SCIMUser} {s : Store} {p : Store}

theorem linkExternal_eq_some {i : UUID × String} :
    linkExternal link = some i ↔ link.externalID ≠ "" ∧ (link.configurationID, link.externalID) = i := by
  unfold linkExternal
  split <;> simp_all

theorem groupExternal_eq_some {i : UUID × String} : groupExternal group = some i
      ↔ group.deletedAt = none ∧ group.externalID ≠ "" ∧ (group.configurationID, group.externalID) = i := by
  unfold groupExternal
  split
  · next h => simp; tauto
  · next h => simp_all

namespace Roster

/-- The indexes find the records, each under its names, and nothing else. -/
structure Exact (r : Roster) : Prop where
  linkKey : ∀ id link, r.links.get? id = some link → link.id = id ∧ id ≠ 0
  names : Files linkName (fun id _ => id) r.links r.names
  externals : Files linkExternal (fun id _ => id) r.links r.externals
  groupKey : ∀ id group, r.groups.get? id = some group → group.id = id
  groups : Files groupExternal (fun id _ => id) r.groups r.groupExternals

theorem exact_empty : Exact ⟨∅, ∅, ∅, ∅, ∅⟩ where
  linkKey id link h := by cases h
  names := Files.empty
  externals := Files.empty
  groupKey id group h := by cases h
  groups := Files.empty

/-! ## Refiling -/

/-- A link is stored and refiled under both names. -/
def relink (r : Roster) (link : SCIMUser) : Roster :=
  { r with
    links := r.links.set link.id link
    names := r.names.refile ((r.links.get? link.id).bind linkName) (linkName link) link.id
    externals := r.externals.refile ((r.links.get? link.id).bind linkExternal) (linkExternal link) link.id }

/-- A group is stored and refiled. -/
def regroup (r : Roster) (group : SCIMGroup) : Roster :=
  { r with
    groups := r.groups.set group.id group
    groupExternals := r.groupExternals.refile ((r.groups.get? group.id).bind groupExternal)
      (groupExternal group) group.id }

variable {r : Roster}

/-- Nobody else has the user name. -/
def FreeName (r : Roster) (id : UUID) (name : UUID × String) : Prop := ∀ k, r.names.get? name = some k → k = id

theorem Exact.relink (h : r.Exact) (hid : link.id ≠ 0)
    (hname : r.FreeName link.id (link.configurationID, link.userName)) (hexternal : link.externalID ≠ "" →
      ∀ k, r.externals.get? (link.configurationID, link.externalID) = some k → k = link.id) :
    (r.relink link).Exact where
  linkKey := FMap.All.set h.linkKey ⟨rfl, hid⟩
  names := h.names.refile fun i k hi hk => by
    obtain ⟨⟩ := hi
    exact hname k hk
  externals := h.externals.refile fun i k hi hk => by
    obtain ⟨hne, rfl⟩ := linkExternal_eq_some.mp hi
    exact hexternal hne k hk
  groupKey := h.groupKey
  groups := h.groups

theorem Exact.regroup (h : r.Exact) (hfree : group.deletedAt = none → group.externalID ≠ "" →
      ∀ k, r.groupExternals.get? (group.configurationID, group.externalID) = some k → k = group.id) :
    (r.regroup group).Exact where
  linkKey := h.linkKey
  names := h.names
  externals := h.externals
  groupKey := FMap.All.set h.groupKey rfl
  groups := h.groups.refile fun i k hi hk => by
    obtain ⟨hlive, hne, rfl⟩ := groupExternal_eq_some.mp hi
    exact hfree hlive hne k hk

end Roster

/-! ## What the methods do to the roster -/

theorem refile_linkExternal (externals : FMap (UUID × String) UUID) (old : Option SCIMUser) (link : SCIMUser) :
    externals.refile (old.bind linkExternal) (linkExternal link) link.id =
      let externals := old.elim externals fun current => if current.externalID = "" then externals
        else externals.del (current.configurationID, current.externalID)
      if link.externalID = "" then externals
        else externals.set (link.configurationID, link.externalID) link.id := by
  cases old with
  | none => unfold FMap.refile linkExternal; split <;> rfl
  | some current =>
    simp only [FMap.refile, linkExternal, Option.bind_some, Option.elim_some]
    split <;> split <;> rfl

/-- A link with a new identifier is put. -/
theorem roster_put (hnew : link.id ∉ s.scimUsers) :
    (s.putSCIMUserLocked link).roster = s.roster.relink link := by
  have hnone : s.scimUsers.get? link.id = none := FMap.get?_eq_none.mpr hnew
  simp only [Store.roster, Roster.relink, Store.putSCIMUserLocked, refile_linkExternal, hnone]
  rfl

/-- A stored link is taken from the indexes and put back. -/
theorem roster_reput {current : SCIMUser} (hcurrent : s.scimUsers.get? link.id = some current) :
    ((s.deleteSCIMUserIndexesLocked current).putSCIMUserLocked link).roster = s.roster.relink link := by
  simp only [Store.roster, Roster.relink, Store.putSCIMUserLocked, Store.deleteSCIMUserIndexesLocked,
    refile_linkExternal, hcurrent]
  rfl

/-- The stored group is not deleted, or no group has its external identifier. -/
def Store.SparesGroups (s : Store) (groupID : UUID) : Prop :=
  ∀ current ∈ s.scimGroups.get? groupID, current.deletedAt = none ∨ current.externalID = ""
    ∨ (current.configurationID, current.externalID) ∉ s.scimGroupExternal

instance (s : Store) (groupID : UUID) : Decidable (s.SparesGroups groupID) :=
  inferInstanceAs (Decidable (∀ current ∈ s.scimGroups.get? groupID, _))

/-- Dropping the index entry of such a group is dropping its name. -/
theorem deleteSCIMGroupIndex_of_spares {groupID : UUID} {current : SCIMGroup}
    (hcurrent : s.scimGroups.get? groupID = some current) (h : s.SparesGroups groupID) :
    (s.deleteSCIMGroupIndex current).scimGroupExternal
      = (groupExternal current).elim s.scimGroupExternal s.scimGroupExternal.del := by
  unfold Store.deleteSCIMGroupIndex groupExternal
  by_cases hempty : current.externalID = ""
  · simp [hempty]
  · obtain hlive | hgone | hfree := h current hcurrent
    · simp [hempty, hlive]
    · exact absurd hgone hempty
    · by_cases hlive : current.deletedAt = none
      · simp [hempty, hlive]
      · rw [if_neg hempty, if_pos (.inl hlive)]
        exact FMap.del_of_get?_none (FMap.get?_eq_none.mpr hfree)

/-- Assigning memberships does not touch the roster. -/
theorem roster_assignMemberships (memberships : List Membership) (s : Store) :
    (reached (Store.assignMemberships memberships s)).roster = s.roster := by
  obtain ⟨_, h⟩ := reached_assignMemberships memberships s
  rw [h]
  rfl

theorem roster_upsertSCIMGroup (memberships : List Membership) (commit : Commit) (hlive : group.deletedAt = none)
    (hspares : p.SparesGroups group.id) :
    ((upsertSCIMGroup group memberships).result commit p).roster = p.roster.regroup group := by
  simp only [Mutation.result, upsertSCIMGroup, roster_assignMemberships]
  cases hcurrent : p.scimGroups.get? group.id with
  | none =>
    simp only [Store.roster, Roster.regroup, FMap.refile, hcurrent, Option.bind_none, Option.elim_none]
    by_cases hempty : group.externalID = "" <;> simp [groupExternal, hempty, hlive]
  | some current =>
    have hindex := deleteSCIMGroupIndex_of_spares hcurrent hspares
    have hrest : ∃ externals, p.deleteSCIMGroupIndex current = { p with scimGroupExternal := externals } := by
      unfold Store.deleteSCIMGroupIndex
      split <;> exact ⟨_, rfl⟩
    obtain ⟨externals, hrest⟩ := hrest
    rw [hrest] at hindex
    simp only [hrest, Store.roster, Roster.regroup, FMap.refile, hcurrent, Option.bind_some, ← hindex]
    by_cases hempty : group.externalID = "" <;> simp [groupExternal, hempty, hlive]

theorem roster_deleteSCIMGroup (memberships : List Membership) (commit : Commit) {current : SCIMGroup}
    (hcurrent : p.scimGroups.get? group.id = some current) (hdeleted : group.deletedAt ≠ none)
    (hspares : p.SparesGroups group.id) :
    ((deleteSCIMGroup group memberships).result commit p).roster = p.roster.regroup group := by
  simp only [Mutation.result, deleteSCIMGroup, roster_assignMemberships]
  have hindex := deleteSCIMGroupIndex_of_spares hcurrent hspares
  have hnew : groupExternal group = none := if_pos (.inl hdeleted)
  simp only [FMap.getI_of_get? hcurrent, Store.roster, Roster.regroup, FMap.refile, hcurrent, Option.bind_some,
    hnew, Option.elim_none, ← hindex]
  unfold Store.deleteSCIMGroupIndex
  split <;> rfl

/-! ## The anonymization of a user -/

/-- The name an anonymized link takes. -/
def anonymizedName (link : SCIMUser) (id : UUID) : UUID × String :=
  (link.configurationID, "anonymized-" ++ id.string)

theorem anonymizedName_inj {link' : SCIMUser} {id id' : UUID} (h : anonymizedName link id = anonymizedName link' id') :
    id = id' := by
  have h : "anonymized-" ++ id.string = "anonymized-" ++ id'.string := congrArg Prod.snd h
  have h := congrArg String.toList h
  rw [String.toList_append, String.toList_append] at h
  exact UUID.string_injective (String.toList_injective (List.append_cancel_left h))

/-- What the loop over the links keeps: the indexes are exact, and every link of the user may take its
name. -/
structure Anonymizing (userID : UUID) (s : Store) : Prop where
  exact : s.roster.Exact
  ready : ∀ id link, s.scimUsers.get? id = some link → link.userID = userID →
    s.roster.FreeName id (anonymizedName link id)

theorem Anonymizing.turn {userID : UUID} (at' : Time) (s : Store) (id : UUID) (h : Anonymizing userID s) :
    Anonymizing userID (anonymizeSCIMUser userID at' s id) := by
  unfold anonymizeSCIMUser
  cases hlink : s.scimUsers.get? id with
  | none => exact h
  | some link =>
    dsimp only
    split
    swap
    · exact h
    next howner =>
    obtain ⟨hid, hnonzero⟩ := h.exact.linkKey id link hlink
    obtain rfl := hid
    have hready := h.ready _ link hlink howner
    generalize hrenamed : ({ link with
      externalID := "", userName := "anonymized-" ++ link.id.string, displayName := "", schemas := [], emails := []
      attributes := ∅, active := false, deprovisionedAt := link.deprovisionedAt.or (some at')
      updatedAt := at' } : SCIMUser) = renamed
    have hsame : renamed.id = link.id ∧ (renamed.configurationID, renamed.userName) = anonymizedName link link.id
        ∧ renamed.externalID = "" := by subst hrenamed; exact ⟨rfl, rfl, rfl⟩
    obtain ⟨hid, hname, hexternal⟩ := hsame
    have hroster : ((s.deleteSCIMUserIndexesLocked link).putSCIMUserLocked renamed).roster = s.roster.relink renamed :=
      roster_reput (hid ▸ hlink)
    have hexact : (s.roster.relink renamed).Exact :=
      h.exact.relink (hid ▸ hnonzero) (hid ▸ hname ▸ hready) fun hne => absurd hexternal hne
    refine ⟨hroster ▸ hexact, fun other link' hother howner' => ?_⟩
    have hlinks : (s.roster.relink renamed).links.get? other = some link' := by rw [← hroster]; exact hother
    -- The new name is in nobody's way.
    intro k hk
    rw [hroster] at hk
    rw [Roster.relink] at hk hlinks
    simp only [FMap.get?_refile, hid] at hk
    simp only [FMap.get?_set, hid] at hlinks
    have hnew : linkName renamed = some (anonymizedName link link.id) := congrArg some hname
    rw [hnew] at hk
    split at hk
    · next heq =>
      obtain ⟨⟩ := hk
      exact anonymizedName_inj (Option.some.inj heq)
    · split at hk
      · cases hk
      · split at hlinks
        · next heq =>
          obtain ⟨⟩ := hlinks
          subst heq
          have hsame : anonymizedName renamed link.id = anonymizedName link link.id := by subst hrenamed; rfl
          exact hready k (hsame ▸ hk)
        · exact h.ready other link' hlinks howner' k hk

/-- The roster after an anonymization is that of the loop over the links. -/
theorem roster_anonymizeUser (userID : UUID) (at' : Time) (commit : Commit) (p : Store) :
    ((anonymizeUser userID at').result commit p).roster
      = (p.scimUsers.keyList.foldl (anonymizeSCIMUser userID at') p).roster := by
  obtain ⟨emails, addresses, emailIDs, email, h⟩ := anonymizeEmail_frame userID at' p.emailAddresses.keyList p
    { p.users.getI userID with displayName := "", disabled := true, updatedAt := at' }
  have hloop : ∀ (ids : List UUID) (s t : Store), s.roster = t.roster →
      (ids.foldl (anonymizeSCIMUser userID at') s).roster = (ids.foldl (anonymizeSCIMUser userID at') t).roster := by
    intro ids
    induction ids with
    | nil => exact fun s t hst => hst
    | cons id ids ih =>
      intro s t hst
      refine ih _ _ ?_
      have hlinks : s.scimUsers = t.scimUsers := congrArg Roster.links hst
      unfold anonymizeSCIMUser
      rw [hlinks]
      cases hlink : t.scimUsers.get? id with
      | none => exact hst
      | some link =>
        dsimp only
        split
        · simp only [Store.roster, Store.putSCIMUserLocked, Store.deleteSCIMUserIndexesLocked, Roster.mk.injEq]
            at hst ⊢
          obtain ⟨hlinks, hnames, hexternals, hgroups, hgroupExternals⟩ := hst
          rw [hlinks, hnames, hexternals, hgroups, hgroupExternals]
          exact ⟨rfl, rfl, rfl, rfl, rfl⟩
        · exact hst
  simp only [Mutation.result, anonymizeUser, h, reached]
  exact hloop _ _ _ rfl

theorem Roster.Exact.anonymizeUser (h : p.roster.Exact) {userID : UUID} (at' : Time)
    (hfree : p.scimUsers.All fun id link => link.userID = userID → p.scimUsers.All fun id' link' =>
      (link'.configurationID, link'.userName) = anonymizedName link id → id' = id) (commit : Commit) :
    ((Memory.anonymizeUser userID at').result commit p).roster.Exact := by
  rw [roster_anonymizeUser]
  refine (Run.always (I := Anonymizing userID) (Anonymizing.turn at') ⟨h, fun id link hlink howner k hk => ?_⟩ _).exact
  obtain ⟨id', link', hlink', hname, rfl⟩ := (h.names _ k).mp hk
  exact hfree id link hlink howner id' link' hlink' (Option.some.inj hname)

/-! ## The other methods -/

/-- The operations that write links or groups. -/
def Op.WritesRoster : Op → Prop
  | .account (.anonymizeUser ..) => True
  | .directory (.createSCIMUser ..) => True
  | .directory (.adoptSCIMUser ..) => True
  | .directory (.updateSCIMUser ..) => True
  | .directory (.upsertSCIMGroup ..) => True
  | .directory (.deleteSCIMGroup ..) => True
  | _ => False

/-- The others leave the roster. -/
theorem Op.leaves_roster (o : Op) (ho : ¬ o.WritesRoster) : o.mutation.Leaves Store.roster := by
  intro commit p
  have h := o.writes commit p
  rcases o with op | op | op | op | op | op
  all_goals cases op <;> first
    | exact absurd True.intro ho
    | exact (congrArg Store.roster h).trans rfl
    | rfl

/-! ## One write -/

/-- What every caller of the store in the manager passes: a link is new and a group is deleted exactly by
`DeleteSCIMGroup`. -/
def Method.PassesRoster (s : Store) : Method → Prop
  | .op (.directory (.createSCIMUser _ _ _ link)) => link.id ≠ 0 ∧ link.id ∉ s.scimUsers
  | .op (.directory (.adoptSCIMUser _ link)) => link.id ≠ 0 ∧ link.id ∉ s.scimUsers
  | .op (.directory (.upsertSCIMGroup group _)) => group.deletedAt = none
  | .op (.directory (.deleteSCIMGroup group _)) => group.deletedAt ≠ none
  | _ => True

/-- The steps that do not go wrong: a group that is written is not deleted yet, or its external identifier is
free, and no link has the name that another one takes when its user is anonymized. -/
def Method.KeepsRoster (s : Store) : Method → Prop
  | .op (.directory (.upsertSCIMGroup group _)) => s.SparesGroups group.id
  | .op (.directory (.deleteSCIMGroup group _)) => s.SparesGroups group.id
  | .op (.account (.anonymizeUser userID _)) => s.scimUsers.All fun id link => link.userID = userID →
      s.scimUsers.All fun id' link' =>
        (link'.configurationID, link'.userName) = anonymizedName link id → id' = id
  | _ => True

instance (s : Store) : (m : Method) → Decidable (m.PassesRoster s) := fun m => by
  unfold Method.PassesRoster
  split <;> infer_instance

instance (s : Store) : (m : Method) → Decidable (m.KeepsRoster s) := fun m => by
  unfold Method.KeepsRoster
  split <;> infer_instance

/-- A link without a conflict may take its names. -/
theorem free_of_not_conflict {exceptID : UUID} (h : ¬ s.SCIMUserConflictLocked link exceptID) :
    s.roster.FreeName exceptID (link.configurationID, link.userName) ∧ (link.externalID ≠ "" →
        ∀ k, s.roster.externals.get? (link.configurationID, link.externalID) = some k → k = exceptID) := by
  simp only [Store.SCIMUserConflictLocked, not_or, not_and, not_exists, not_not] at h
  exact ⟨fun k hk => h.1 k hk, fun hne k hk => h.2 hne k hk⟩

/-- A new link is filed under names that nobody has. -/
theorem Roster.Exact.put (h : p.roster.Exact) (hnew : link.id ≠ 0 ∧ link.id ∉ p.scimUsers)
    (hconflict : ¬ p.SCIMUserConflictLocked link 0) : (p.putSCIMUserLocked link).roster.Exact := by
  obtain ⟨hname, hexternal⟩ := free_of_not_conflict hconflict
  rw [roster_put hnew.2]
  -- A name that is found is that of a stored link, which is not the zero one.
  refine h.relink hnew.1 (fun k hk => ?_) fun hne k hk => ?_
  · obtain ⟨id, other, hother, -, rfl⟩ := (h.names _ k).mp hk
    exact absurd (hname id hk) (h.linkKey id other hother).2
  · obtain ⟨id, other, hother, -, rfl⟩ := (h.externals _ k).mp hk
    exact absurd (hexternal hne id hk) (h.linkKey id other hother).2

/-- **One write keeps the indexes exact.** -/
theorem Roster.Exact.result {m : Method} {v : Mutation} (hv : m.view = some v) (commit : Commit)
    (hc : v.check p = .ok ()) (hpass : m.PassesRoster p) (hkeep : m.KeepsRoster p) (h : p.roster.Exact) :
    (v.result commit p).roster.Exact := by
  cases m with
  | op o =>
    obtain ⟨⟩ := hv
    by_cases hwrites : o.WritesRoster
    swap
    · rw [o.leaves_roster hwrites commit p]
      exact h
    unfold Op.WritesRoster at hwrites
    split at hwrites
    · exact h.anonymizeUser _ hkeep commit
    · next user email membership link =>
      simp only [Op.mutation, DirectoryOp.mutation, Memory.createSCIMUser, check_bind, require_eq_ok] at hc
      obtain ⟨_, -, _, hfree, -⟩ := hc
      exact Roster.Exact.put (p := _) h hpass fun hconflict => hfree (.inr hconflict)
    · next membership link =>
      simp only [Op.mutation, DirectoryOp.mutation, Memory.adoptSCIMUser, check_bind, require_eq_ok] at hc
      obtain ⟨_, -, _, -, _, -, hfree⟩ := hc
      exact Roster.Exact.put (p := p.putMembership _ _ _) h hpass hfree
    · next link membership revoke =>
      simp only [Op.mutation, DirectoryOp.mutation, Memory.updateSCIMUser, check_bind, find_eq_ok, require_eq_ok] at hc
      obtain ⟨current, hcurrent, _, -, hconflict⟩ := hc
      obtain ⟨hname, hexternal⟩ := free_of_not_conflict hconflict
      obtain ⟨_, _, -, hresult⟩ := result_updateSCIMUser link membership revoke commit p
      have hroster : ((updateSCIMUser link membership revoke).result commit p).roster = p.roster.relink link := by
        rw [hresult, FMap.getI_of_get? hcurrent, ← roster_reput hcurrent]
        rfl
      show ((updateSCIMUser link membership revoke).result commit p).roster.Exact
      rw [hroster]
      exact h.relink (h.linkKey _ _ hcurrent).2 hname hexternal
    · next group memberships =>
      simp only [Op.mutation, DirectoryOp.mutation, Memory.upsertSCIMGroup, check_bind, require_eq_ok] at hc
      show ((upsertSCIMGroup group memberships).result commit p).roster.Exact
      rw [roster_upsertSCIMGroup memberships commit hpass hkeep]
      obtain ⟨_, -, _, -, hfree⟩ := hc
      refine h.regroup fun _ hne k hk => ?_
      by_contra hother
      refine hfree ⟨hne, ?_⟩
      have hk : p.scimGroupExternal.get? (group.configurationID, group.externalID) = some k := hk
      simp [hk, hother]
    · next group memberships =>
      simp only [Op.mutation, DirectoryOp.mutation, Memory.deleteSCIMGroup, check_bind, find_eq_ok, require_eq_ok] at hc
      obtain ⟨current, hcurrent, -⟩ := hc
      show ((deleteSCIMGroup group memberships).result commit p).roster.Exact
      rw [roster_deleteSCIMGroup memberships commit hcurrent hpass hkeep]
      exact h.regroup fun hlive => absurd hlive hpass
    · exact hwrites.elim
  | claimEmailIssuance | setAuditFailure => cases hv
  | _ => cases hv; exact h

/-! ## Runs -/

theorem Method.rosterGuards_congr {t : Store} (h : s.SameCore t) (m : Method) :
    (m.PassesRoster t ↔ m.PassesRoster s) ∧ (m.KeepsRoster t ↔ m.KeepsRoster s) := by
  obtain ⟨_, rfl⟩ := h
  exact ⟨Iff.rfl, Iff.rfl⟩

/-- …and so does a call. -/
theorem exact_next (s : Store) (c : Call) (hs : s.roster.Exact)
    (hg : c.method.PassesRoster s ∧ c.method.KeepsRoster s) : (c.next s).roster.Exact := by
  refine c.next_preserves (I := fun s => s.roster.Exact) s (fun m p hm hp hc hI => ?_) hs
  have hguards := c.method.rosterGuards_congr hp
  exact hI.result hm c.commit hc (hguards.1.mpr hg.1) (hguards.2.mpr hg.2)

/-! ## What the lookups find -/

/-- **The indexes are exact**: a user name finds the link of the configuration that has it, no two links of one
configuration share a user name or an external identifier, and an external identifier finds the group of the
configuration that has it and is not deleted. -/
structure DirectoryExact (s : Store) : Prop where
  userName : ∀ c n link, s.answer {} (.scimUserByUserName c n) = .ok link
    ↔ s.scimUsers.get? link.id = some link ∧ link.configurationID = c ∧ link.userName = normalizeUserName n
  unique : ∀ id link id' link', s.scimUsers.get? id = some link → s.scimUsers.get? id' = some link' →
    link.configurationID = link'.configurationID →
    link.userName = link'.userName ∨ link.externalID ≠ "" ∧ link.externalID = link'.externalID → id = id'
  externalID : ∀ c e group, e.trimAscii.toString ≠ "" →
    (s.answer {} (.scimGroupByExternalID c e) = .ok group ↔ s.scimGroups.get? group.id = some group
      ∧ group.configurationID = c ∧ group.externalID = e.trimAscii.toString ∧ group.deletedAt = none)

theorem orNotFound_eq_ok {α : Type} {found : Option α} {a : α} : orNotFound found = .ok a ↔ found = some a := by
  cases found <;> simp [orNotFound]

/-- A group is found through the index, and not deleted. -/
theorem answer_scimGroupByExternalID {c : UUID} {e : String} :
    s.answer {} (.scimGroupByExternalID c e) = .ok group
      ↔ (∃ id, s.scimGroupExternal.get? (c, e.trimAscii.toString) = some id ∧ s.scimGroups.getI id = group)
        ∧ group.deletedAt = none := by
  have hread : s.answer {} (.scimGroupByExternalID c e) = orNotFound
    (((s.scimGroupExternal.get? (c, e.trimAscii.toString)).map s.scimGroups.getI).filter
      fun v => v.deletedAt = none) := rfl
  rw [hread, orNotFound_eq_ok, Option.filter_eq_some_iff, Option.map_eq_some_iff, decide_eq_true_eq]

theorem Roster.Exact.agree (h : s.roster.Exact) : DirectoryExact s where
  userName c n link := by
    have hread : s.answer {} (.scimUserByUserName c n)
      = orNotFound ((s.scimUserNames.get? (c, normalizeUserName n)).map s.scimUsers.getI) := rfl
    rw [hread, orNotFound_eq_ok, Option.map_eq_some_iff]
    constructor
    · rintro ⟨id, hid, hlink⟩
      obtain ⟨id, stored, hstored, hname, rfl⟩ := (h.names _ id).mp hid
      obtain rfl : stored = link := (FMap.getI_of_get? hstored).symm.trans hlink
      have hname := Option.some.inj hname
      exact ⟨(h.linkKey _ _ hstored).1.symm ▸ hstored, congrArg Prod.fst hname, congrArg Prod.snd hname⟩
    · rintro ⟨hstored, rfl, hname⟩
      refine ⟨link.id, ?_, FMap.getI_of_get? hstored⟩
      exact h.names.get?_of_row hstored (congrArg some (Prod.ext rfl hname))
  unique id link id' link' hlink hlink' hconfiguration hshared := by
    obtain hname | ⟨hne, hexternal⟩ := hshared
    · exact h.names.alone hlink' rfl id link hlink (congrArg some (Prod.ext hconfiguration hname))
    · refine h.externals.alone hlink' (linkExternal_eq_some.mpr ⟨hexternal ▸ hne, rfl⟩) id link hlink ?_
      exact linkExternal_eq_some.mpr ⟨hne, Prod.ext hconfiguration hexternal⟩
  externalID c e group he := by
    rw [answer_scimGroupByExternalID]
    constructor
    · rintro ⟨⟨id, hid, hgroup⟩, -⟩
      obtain ⟨id, stored, hstored, hname, rfl⟩ := (h.groups _ id).mp hid
      obtain rfl : stored = group := (FMap.getI_of_get? hstored).symm.trans hgroup
      obtain ⟨hlive, -, hname⟩ := groupExternal_eq_some.mp hname
      exact ⟨(h.groupKey _ _ hstored).symm ▸ hstored, congrArg Prod.fst hname, congrArg Prod.snd hname, hlive⟩
    · rintro ⟨hstored, rfl, hexternal, hlive⟩
      refine ⟨⟨group.id, ?_, FMap.getI_of_get? hstored⟩, hlive⟩
      exact h.groups.get?_of_row hstored
        (groupExternal_eq_some.mpr ⟨hlive, hexternal ▸ he, Prod.ext rfl hexternal⟩)

end Credbound.Memory
