import Credbound.Manager.DirectoryRoles
import Credbound.Stores.Switches

/-!
# Stores/RoleOrder — the role of a user, and the order of groups and mappings

A configuration that `validateSCIMRoleConfiguration` accepts has one mapping for an external id at most, so a group
contributes at most one mapping and the order of the groups is the order `scimRoleForUser` sees the mappings in.
The answer is settled (`Settled`) when every order gives the same one, which is the answer of the mappings of
highest priority.

Two mappings of one priority with different roles end the function when they come before one of a higher
priority, and are passed over when they come after it (`ambiguity_below_the_top`).  `role_settled_iff` says that
nothing else goes wrong: the answer is settled exactly where the top itself is ambiguous, or the mappings of each
priority agree.
-/

namespace Credbound.Accounts

open Manager

/-- The mappings of the highest priority name different roles. -/
def Ambiguous (applies : SCIMGroupRoleMapping → Prop) : Prop :=
  ∃ mapping other, applies mapping ∧ applies other ∧ other.priority = mapping.priority ∧ other.role ≠ mapping.role
    ∧ ∀ lower, applies lower → lower.priority ≤ mapping.priority

theorem Ambiguous.not_agree {applies : SCIMGroupRoleMapping → Prop} (h : Ambiguous applies) : ¬ Agree applies := by
  obtain ⟨mapping, other, hmapping, hother, hpriority, hrole, -⟩ := h
  exact fun hagree => hrole (hagree mapping other hmapping hother hpriority)

theorem Ambiguous.not_chosen {defaultRole role : Role} {applies : SCIMGroupRoleMapping → Prop}
    (h : Ambiguous applies) : ¬ Chosen defaultRole applies role := by
  obtain ⟨mapping, other, hmapping, hother, hpriority, hrole, htop⟩ := h
  rintro (⟨hnone, -⟩ | ⟨top, happlies, -, hothers⟩)
  · exact hnone mapping hmapping
  · have hlevel := le_antisymm (hothers mapping hmapping).1 (htop top happlies)
    rw [(hothers mapping hmapping).2 hlevel, (hothers other hother).2 (hpriority.trans hlevel)] at hrole
    exact hrole rfl

theorem chooseRole_eq_error {chosen : Role × Option Int} {mapping : SCIMGroupRoleMapping} {e : Err}
    (h : chooseRole chosen mapping = .error e) : e = .conflict := by
  unfold chooseRole at h
  split at h
  · cases h
  · split at h
    · cases h
    · split at h
      · exact (Except.error.inj h).symm
      · cases h

theorem foldlM_chooseRole_eq_error {mappings : List SCIMGroupRoleMapping} {chosen : Role × Option Int} {e : Err}
    (h : mappings.foldlM chooseRole chosen = .error e) : e = .conflict := by
  induction mappings generalizing chosen with
  | nil => cases h
  | cons mapping mappings ih =>
    rw [List.foldlM_cons] at h
    cases hchoose : chooseRole chosen mapping with
    | error e' =>
      rw [hchoose] at h
      obtain rfl := Except.error.inj h
      exact chooseRole_eq_error hchoose
    | ok next =>
      rw [hchoose] at h
      exact ih h

section

variable {configuration : SCIMConfiguration} {groups : List SCIMGroup} {linkID : UUID}

/-- The function computes a role or reports an ambiguity. -/
theorem scimRoleForUser_cases (configuration : SCIMConfiguration) (groups : List SCIMGroup) (linkID : UUID) :
    (∃ role, scimRoleForUser configuration groups linkID = .ok role)
    ∨ scimRoleForUser configuration groups linkID = .error .conflict := by
  cases hanswer : scimRoleForUser configuration groups linkID with
  | ok role => exact .inl ⟨role, rfl⟩
  | error e =>
    right
    cases hfold : (mappingsFor configuration groups linkID).foldlM chooseRole (configuration.defaultRole, none) with
    | ok chosen =>
      rw [scimRoleForUser_eq_ok.mpr ⟨chosen.2, hfold⟩] at hanswer
      cases hanswer
    | error e' =>
      have hconflict := foldlM_chooseRole_eq_error hfold
      simp only [scimRoleForUser, mappingsFor] at hanswer hfold
      rw [hfold] at hanswer
      rw [← hconflict]
      exact congrArg _ (Except.error.inj hanswer).symm

theorem entitles_perm {groups' : List SCIMGroup} {mappings' : List SCIMGroupRoleMapping} (hgroups : groups'.Perm groups)
    (hmappings : mappings'.Perm configuration.groupRoleMappings) (mapping : SCIMGroupRoleMapping) :
    Entitles { configuration with groupRoleMappings := mappings' } groups' linkID mapping
      ↔ Entitles configuration groups linkID mapping := by
  simp only [Entitles, hmappings.mem_iff, hgroups.mem_iff]

theorem perm_front {α : Type} {a : α} {l : List α} (h : a ∈ l) : ∃ rest, (a :: rest).Perm l := by
  obtain ⟨before, after, rfl⟩ := List.append_of_mem h
  exact ⟨before ++ after, List.perm_middle.symm⟩

/-! ## One mapping for a group -/

theorem validateSCIMRoleConfiguration_nodup {m : Accounts} {defaultRole : Role} {mappings : List SCIMGroupRoleMapping}
    (h : m.validateSCIMRoleConfiguration defaultRole mappings
      = .ok (configuration.defaultRole, configuration.groupRoleMappings)) :
    (configuration.groupRoleMappings.map SCIMGroupRoleMapping.externalID).Nodup := by
  obtain ⟨_, -, h⟩ := check_bind.mp h
  obtain ⟨normalized, hnormalized, h⟩ := check_bind.mp h
  obtain ⟨_, -, hnormalized⟩ := check_bind.mp hnormalized
  obtain ⟨_, hnodup, hnormalized⟩ := check_bind.mp hnormalized
  obtain ⟨⟩ := hnormalized
  rw [← (Prod.mk.inj (Except.ok.inj h)).2]
  exact require_eq_ok.mp hnodup

theorem filter_externalID {mappings : List SCIMGroupRoleMapping} {mapping : SCIMGroupRoleMapping}
    (hnodup : (mappings.map SCIMGroupRoleMapping.externalID).Nodup) (hmem : mapping ∈ mappings) :
    mappings.filter (fun other => other.externalID = mapping.externalID) = [mapping] := by
  induction mappings with
  | nil => cases hmem
  | cons first rest ih =>
    obtain ⟨hfirst, hrest⟩ := List.nodup_cons.mp hnodup
    obtain rfl | hmem := List.mem_cons.mp hmem
    · have hothers : rest.filter (fun other => decide (other.externalID = mapping.externalID)) = [] := by
        refine List.filter_eq_nil_iff.mpr fun other hother heq => hfirst ?_
        exact List.mem_map.mpr ⟨other, hother, of_decide_eq_true heq⟩
      rw [List.filter_cons_of_pos (by simp), hothers]
    · have hne : first.externalID ≠ mapping.externalID := fun heq => hfirst (List.mem_map.mpr ⟨mapping, hmem, heq.symm⟩)
      rw [List.filter_cons_of_neg (by simpa using hne), ih hrest hmem]

/-- Two mappings of one priority with different roles end the function when their groups come first. -/
theorem scimRoleForUser_tied {first second : SCIMGroup} {mapping other : SCIMGroupRoleMapping} (rest : List SCIMGroup)
    (hnodup : (configuration.groupRoleMappings.map SCIMGroupRoleMapping.externalID).Nodup)
    (hfirst : first.deletedAt = none ∧ linkID ∈ first.memberIDs)
    (hsecond : second.deletedAt = none ∧ linkID ∈ second.memberIDs)
    (hmapping : mapping ∈ configuration.groupRoleMappings ∧ mapping.externalID = first.externalID)
    (hother : other ∈ configuration.groupRoleMappings ∧ other.externalID = second.externalID)
    (hpriority : other.priority = mapping.priority) (hrole : other.role ≠ mapping.role) :
    scimRoleForUser configuration (first :: second :: rest) linkID = .error .conflict := by
  have hsees : mappingsFor configuration (first :: second :: rest) linkID
      = mapping :: other :: mappingsFor configuration rest linkID := by
    rw [mappingsFor, List.filter_cons_of_pos (by simpa using hfirst), List.filter_cons_of_pos (by simpa using hsecond),
      List.flatMap_cons, List.flatMap_cons, ← hmapping.2, ← hother.2, filter_externalID hnodup hmapping.1,
      filter_externalID hnodup hother.1]
    rfl
  obtain ⟨role, hanswer⟩ | hanswer := scimRoleForUser_cases configuration (first :: second :: rest) linkID
  · obtain ⟨priority, hfold⟩ := scimRoleForUser_eq_ok.mp hanswer
    rw [hsees] at hfold
    simp [List.foldlM_cons, chooseRole, hpriority, hrole, bind, Except.bind] at hfold
  · exact hanswer

end

/-! ## Settled answers -/

/-- Every order of the groups and of the mappings gives the same answer: the role of the mappings of highest priority
where they name one, an ambiguity where they name several, and the default role where there is none. -/
def Settled (configuration : SCIMConfiguration) (groups : List SCIMGroup) (linkID : UUID) : Prop :=
  ∀ groups' mappings', groups'.Perm groups → mappings'.Perm configuration.groupRoleMappings →
    scimRoleForUser { configuration with groupRoleMappings := mappings' } groups' linkID
        = scimRoleForUser configuration groups linkID
      ∧ (∀ role, scimRoleForUser { configuration with groupRoleMappings := mappings' } groups' linkID = .ok role
          ↔ Chosen configuration.defaultRole (Entitles configuration groups linkID) role)
      ∧ (scimRoleForUser { configuration with groupRoleMappings := mappings' } groups' linkID = .error .conflict
          ↔ Ambiguous (Entitles configuration groups linkID))

section

variable {configuration : SCIMConfiguration} {groups : List SCIMGroup} {linkID : UUID}

theorem settled_of_ambiguous (h : Ambiguous (Entitles configuration groups linkID)) :
    Settled configuration groups linkID := by
  have hconflict : ∀ groups' mappings', groups'.Perm groups → mappings'.Perm configuration.groupRoleMappings →
      scimRoleForUser { configuration with groupRoleMappings := mappings' } groups' linkID = .error .conflict := by
    intro groups' mappings' hgroups hmappings
    obtain ⟨role, hrole⟩ | hanswer := scimRoleForUser_cases { configuration with groupRoleMappings := mappings' }
      groups' linkID
    · exact absurd ((chosen_of_scimRoleForUser hrole).congr (entitles_perm hgroups hmappings)) h.not_chosen
    · exact hanswer
  intro groups' mappings' hgroups hmappings
  rw [hconflict groups' mappings' hgroups hmappings]
  refine ⟨(hconflict groups _ (.refl _) (.refl _)).symm, fun role => ⟨nofun, fun hchosen => ?_⟩, fun _ => h,
    fun _ => rfl⟩
  exact absurd hchosen h.not_chosen

theorem settled_of_agree (h : Agree (Entitles configuration groups linkID)) : Settled configuration groups linkID := by
  have hcomputed : ∀ groups' mappings', groups'.Perm groups → mappings'.Perm configuration.groupRoleMappings →
      ∃ role, scimRoleForUser { configuration with groupRoleMappings := mappings' } groups' linkID = .ok role
        ∧ Chosen configuration.defaultRole (Entitles configuration groups linkID) role := by
    intro groups' mappings' hgroups hmappings
    have hagree : Agree (· ∈ [] ++ mappingsFor { configuration with groupRoleMappings := mappings' } groups' linkID) :=
      fun mapping other hmapping hother => h mapping other
        ((entitles_perm hgroups hmappings _).mp (mem_mappingsFor.mp hmapping))
        ((entitles_perm hgroups hmappings _).mp (mem_mappingsFor.mp hother))
    obtain ⟨⟨role, priority⟩, hfold⟩ := foldlM_of_agree (chosenSoFar_nil configuration.defaultRole) hagree
    have hrole : scimRoleForUser { configuration with groupRoleMappings := mappings' } groups' linkID = .ok role :=
      scimRoleForUser_eq_ok.mpr ⟨priority, hfold⟩
    exact ⟨role, hrole, (chosen_of_scimRoleForUser hrole).congr (entitles_perm hgroups hmappings)⟩
  intro groups' mappings' hgroups hmappings
  obtain ⟨role, hrole, hchosen⟩ := hcomputed groups' mappings' hgroups hmappings
  obtain ⟨role', hrole', hchosen'⟩ := hcomputed groups _ (.refl _) (.refl _)
  obtain rfl := hchosen.unique hchosen'
  rw [hrole]
  refine ⟨hrole'.symm, fun other => ⟨fun heq => ?_, fun hother => ?_⟩, nofun,
    fun hambiguous => absurd h hambiguous.not_agree⟩
  · rwa [← Except.ok.inj heq]
  · rw [hchosen.unique hother]

/-- **The answer is settled exactly where the mappings of the highest priority disagree, or those of every priority
agree.** -/
theorem role_settled_iff (m : Accounts) (defaultRole : Role) (mappings : List SCIMGroupRoleMapping)
    (configuration : SCIMConfiguration) (groups : List SCIMGroup) (linkID : UUID)
    (hvalid : m.validateSCIMRoleConfiguration defaultRole mappings
      = .ok (configuration.defaultRole, configuration.groupRoleMappings)) :
    Settled configuration groups linkID
      ↔ Ambiguous (Entitles configuration groups linkID) ∨ Agree (Entitles configuration groups linkID) := by
  have hnodup := validateSCIMRoleConfiguration_nodup hvalid
  refine ⟨fun hsettled => ?_, fun h => h.elim settled_of_ambiguous settled_of_agree⟩
  by_contra hneither
  obtain ⟨hclear, hdisagree⟩ := not_or.mp hneither
  simp only [Agree] at hdisagree
  push Not at hdisagree
  obtain ⟨mapping, other, ⟨hmapping, first, hfirst, hfirstIn⟩, ⟨hother, second, hsecond, hsecondIn⟩, hpriority,
    hrole⟩ := hdisagree
  have hgroups : second ≠ first := by
    -- one group would have both mappings, and it has one
    rintro rfl
    have hone := filter_externalID hnodup hmapping
    have htwo : other ∈ configuration.groupRoleMappings.filter fun v => v.externalID = mapping.externalID :=
      List.mem_filter.mpr ⟨hother, by simp [hfirstIn.2.2, hsecondIn.2.2]⟩
    rw [hone] at htwo
    exact hrole (congrArg _ (List.mem_singleton.mp htwo))
  obtain ⟨others, hothers⟩ := perm_front hfirst
  obtain hsame | hsecond := List.mem_cons.mp (hothers.mem_iff.mpr hsecond)
  · exact hgroups hsame
  obtain ⟨rest, hrest⟩ := perm_front hsecond
  have htied := scimRoleForUser_tied rest hnodup ⟨hfirstIn.1, hfirstIn.2.1⟩ ⟨hsecondIn.1, hsecondIn.2.1⟩
    ⟨hmapping, hfirstIn.2.2⟩ ⟨hother, hsecondIn.2.2⟩ hpriority hrole
  exact hclear ((hsettled _ _ ((hrest.cons first).trans hothers) (.refl _)).2.2.mp htied)

/-! ## A directory with three groups -/

/-- A group of the directory with one member. -/
def mappedGroup (externalID : String) : SCIMGroup :=
  { (default : SCIMGroup) with externalID := externalID, memberIDs := [uuidv7 62] }

/-- Two groups of priority one with different roles, and a third of priority two. -/
def mappedConfiguration : SCIMConfiguration :=
  { Stores.tenantConfiguration with
    groupRoleMappings := [⟨"auditors", .member, 1⟩, ⟨"operators", .admin, 1⟩, ⟨"owners", .admin, 2⟩] }

theorem mappedConfiguration_valid :
    Stores.tenantAccounts.validateSCIMRoleConfiguration .member mappedConfiguration.groupRoleMappings
      = .ok (mappedConfiguration.defaultRole, mappedConfiguration.groupRoleMappings) := by
  rfl

/-- A member of the groups of different priorities has a settled role. -/
theorem role_settled_two_groups :
    Settled mappedConfiguration [mappedGroup "auditors", mappedGroup "owners"] (uuidv7 62) := by
  refine (role_settled_iff Stores.tenantAccounts .member _ _ _ _ mappedConfiguration_valid).mpr (.inr ?_)
  intro mapping other hmapping hother hpriority
  have hseen := mem_mappingsFor.mpr hmapping
  have hseen' := mem_mappingsFor.mpr hother
  have hlist : mappingsFor mappedConfiguration [mappedGroup "auditors", mappedGroup "owners"] (uuidv7 62)
      = [⟨"auditors", .member, 1⟩, ⟨"owners", .admin, 2⟩] := by rfl
  rw [hlist] at hseen hseen'
  simp only [List.mem_cons, List.not_mem_nil, or_false] at hseen hseen'
  obtain rfl | rfl := hseen <;> obtain rfl | rfl := hseen' <;> first | rfl | cases hpriority

/-- **The tie below the top decides**: with the groups in one order the function reports an ambiguity, and in another
it computes the role of the highest priority. -/
theorem ambiguity_below_the_top :
    Stores.tenantAccounts.validateSCIMRoleConfiguration .member mappedConfiguration.groupRoleMappings
        = .ok (mappedConfiguration.defaultRole, mappedConfiguration.groupRoleMappings)
      ∧ scimRoleForUser mappedConfiguration [mappedGroup "auditors", mappedGroup "operators", mappedGroup "owners"]
          (uuidv7 62) = .error .conflict
      ∧ scimRoleForUser mappedConfiguration [mappedGroup "owners", mappedGroup "auditors", mappedGroup "operators"]
          (uuidv7 62) = .ok .admin
      ∧ ¬ Settled mappedConfiguration [mappedGroup "auditors", mappedGroup "operators", mappedGroup "owners"]
          (uuidv7 62) := by
  have herror : scimRoleForUser mappedConfiguration
      [mappedGroup "auditors", mappedGroup "operators", mappedGroup "owners"] (uuidv7 62) = .error .conflict := rfl
  have hok : scimRoleForUser mappedConfiguration
      [mappedGroup "owners", mappedGroup "auditors", mappedGroup "operators"] (uuidv7 62) = .ok .admin := rfl
  refine ⟨mappedConfiguration_valid, herror, hok, fun hsettled => ?_⟩
  have hrotated : [mappedGroup "owners", mappedGroup "auditors", mappedGroup "operators"].Perm
      [mappedGroup "auditors", mappedGroup "operators", mappedGroup "owners"] :=
    @List.perm_append_comm _ [mappedGroup "owners"] [mappedGroup "auditors", mappedGroup "operators"]
  have hsame := (hsettled _ _ hrotated (.refl _)).1
  rw [herror] at hsame
  exact absurd (hok.symm.trans hsame) (by simp)

end

end Credbound.Accounts
