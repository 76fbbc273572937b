import Credbound.Manager.Directory

/-!
# Manager/DirectoryRoles — the role that a user's groups give

`scimRoleForUser` goes through the groups of a user in the order they are listed in.  What it computes does not
depend on the order: it is the role of the highest priority among the mappings of the groups, or the default
role where there is none (`chosen_of_scimRoleForUser`).  Whether it reports an ambiguity does depend on it, and
it reports none where the mappings of one priority agree (`scimRoleForUser_of_agree`).
-/

namespace Credbound.Accounts

open Manager

/-- The role of the highest priority among the mappings that apply, or the default role where none does. -/
def Chosen (defaultRole : Role) (applies : SCIMGroupRoleMapping → Prop) (role : Role) : Prop :=
  (∀ mapping, ¬ applies mapping) ∧ role = defaultRole
    ∨ ∃ mapping, applies mapping ∧ mapping.role = role ∧ ∀ other, applies other →
      other.priority ≤ mapping.priority ∧ (other.priority = mapping.priority → other.role = role)

variable {defaultRole : Role} {done : List SCIMGroupRoleMapping}

/-- There is one such role at most. -/
theorem Chosen.unique {role role' : Role} {applies : SCIMGroupRoleMapping → Prop}
    (h : Chosen defaultRole applies role) (h' : Chosen defaultRole applies role') : role = role' := by
  obtain ⟨hnone, rfl⟩ | ⟨mapping, hmapping, rfl, htop⟩ := h <;>
    obtain ⟨hnone', rfl⟩ | ⟨mapping', hmapping', rfl, htop'⟩ := h'
  · rfl
  · exact absurd hmapping' (hnone mapping')
  · exact absurd hmapping (hnone' mapping)
  · have heq := le_antisymm (htop' mapping hmapping).1 (htop mapping' hmapping').1
    exact (htop' mapping hmapping).2 heq

theorem Chosen.congr {role : Role} {applies applies' : SCIMGroupRoleMapping → Prop}
    (h : Chosen defaultRole applies role) (hiff : ∀ mapping, applies mapping ↔ applies' mapping) :
    Chosen defaultRole applies' role := by
  obtain rfl : applies = applies' := funext fun mapping => propext (hiff mapping)
  exact h

/-! ## The choice, mapping by mapping -/

/-- What has been chosen among the mappings so far. -/
def ChosenSoFar (defaultRole : Role) (done : List SCIMGroupRoleMapping) : Role × Option Int → Prop
  | (role, none) => done = [] ∧ role = defaultRole
  | (role, some priority) => ∃ mapping ∈ done, mapping.role = role ∧ mapping.priority = priority
      ∧ ∀ other ∈ done, other.priority ≤ priority ∧ (other.priority = priority → other.role = role)

theorem chosenSoFar_nil (defaultRole : Role) : ChosenSoFar defaultRole [] (defaultRole, none) := ⟨rfl, rfl⟩

theorem chosenSoFar_snoc {chosen chosen' : Role × Option Int} {mapping : SCIMGroupRoleMapping}
    (h : ChosenSoFar defaultRole done chosen) (hchoose : chooseRole chosen mapping = .ok chosen') :
    ChosenSoFar defaultRole (done ++ [mapping]) chosen' := by
  obtain ⟨role, _ | priority⟩ := chosen
  · obtain ⟨rfl, -⟩ := h
    obtain ⟨⟩ := hchoose
    exact ⟨mapping, by simp, rfl, rfl, fun other hother => by simp_all⟩
  · obtain ⟨top, htop, rfl, rfl, hothers⟩ := h
    simp only [chooseRole] at hchoose
    split at hchoose
    · next hhigher =>
      obtain ⟨⟩ := hchoose
      refine ⟨mapping, by simp, rfl, rfl, fun other hother => ?_⟩
      obtain hother | hother := List.mem_append.mp hother
      · have hle := (hothers other hother).1
        exact ⟨by omega, fun heq => absurd heq (by omega)⟩
      · obtain rfl := List.mem_singleton.mp hother
        exact ⟨le_rfl, fun _ => rfl⟩
    · next hnot =>
      split at hchoose
      · cases hchoose
      · next hagree =>
        obtain ⟨⟩ := hchoose
        refine ⟨top, List.mem_append_left _ htop, rfl, rfl, fun other hother => ?_⟩
        obtain hother | hother := List.mem_append.mp hother
        · exact hothers other hother
        · obtain rfl := List.mem_singleton.mp hother
          refine ⟨by omega, fun heq => ?_⟩
          by_contra hrole
          exact hagree ⟨heq, hrole⟩

theorem chosenSoFar_foldlM {mappings : List SCIMGroupRoleMapping} {chosen chosen' : Role × Option Int}
    (h : ChosenSoFar defaultRole done chosen) (hfold : mappings.foldlM chooseRole chosen = .ok chosen') :
    ChosenSoFar defaultRole (done ++ mappings) chosen' := by
  induction mappings generalizing done chosen with
  | nil =>
    obtain ⟨⟩ := hfold
    rwa [List.append_nil]
  | cons mapping mappings ih =>
    rw [List.foldlM_cons] at hfold
    cases hchoose : chooseRole chosen mapping with
    | error e =>
      rw [hchoose] at hfold
      cases hfold
    | ok next =>
      rw [hchoose] at hfold
      rw [List.append_cons]
      exact ih (chosenSoFar_snoc h hchoose) hfold

/-- No two mappings of one priority name different roles. -/
def Agree (applies : SCIMGroupRoleMapping → Prop) : Prop :=
  ∀ mapping other, applies mapping → applies other → other.priority = mapping.priority → other.role = mapping.role

theorem foldlM_of_agree {mappings : List SCIMGroupRoleMapping} {chosen : Role × Option Int}
    (h : ChosenSoFar defaultRole done chosen) (hagree : Agree (· ∈ done ++ mappings)) :
    ∃ chosen', mappings.foldlM chooseRole chosen = .ok chosen' := by
  induction mappings generalizing done chosen with
  | nil => exact ⟨chosen, rfl⟩
  | cons mapping mappings ih =>
    have hchoose : ∃ next, chooseRole chosen mapping = .ok next := by
      obtain ⟨role, _ | priority⟩ := chosen
      · exact ⟨_, rfl⟩
      · obtain ⟨top, htop, rfl, rfl, -⟩ := h
        simp only [chooseRole]
        split
        · exact ⟨_, rfl⟩
        · rw [if_neg fun hambiguous => hambiguous.2
            (hagree top mapping (List.mem_append_left _ htop) (by simp) hambiguous.1)]
          exact ⟨_, rfl⟩
    obtain ⟨next, hnext⟩ := hchoose
    rw [List.append_cons] at hagree
    obtain ⟨chosen', hrest⟩ := ih (chosenSoFar_snoc h hnext) hagree
    exact ⟨chosen', by rw [List.foldlM_cons, hnext]; exact hrest⟩

/-! ## The role of a user -/

/-- A mapping of the configuration applies to a member of a group that is not deleted. -/
def Entitles (configuration : SCIMConfiguration) (groups : List SCIMGroup) (linkID : UUID)
    (mapping : SCIMGroupRoleMapping) : Prop :=
  mapping ∈ configuration.groupRoleMappings ∧ ∃ group ∈ groups, group.deletedAt = none ∧ linkID ∈ group.memberIDs
    ∧ mapping.externalID = group.externalID

/-- The mappings `scimRoleForUser` goes through. -/
def mappingsFor (configuration : SCIMConfiguration) (groups : List SCIMGroup) (linkID : UUID) :
    List SCIMGroupRoleMapping :=
  (groups.filter fun group => group.deletedAt = none ∧ linkID ∈ group.memberIDs).flatMap fun group =>
    configuration.groupRoleMappings.filter fun mapping => mapping.externalID = group.externalID

variable {configuration : SCIMConfiguration} {groups : List SCIMGroup} {linkID : UUID} {role : Role}

theorem mem_mappingsFor {mapping : SCIMGroupRoleMapping} :
    mapping ∈ mappingsFor configuration groups linkID ↔ Entitles configuration groups linkID mapping := by
  simp only [mappingsFor, Entitles, List.mem_flatMap, List.mem_filter, decide_eq_true_eq]
  constructor
  · rintro ⟨group, ⟨hgroup, hlive, hmember⟩, hmapping, hexternal⟩
    exact ⟨hmapping, group, hgroup, hlive, hmember, hexternal⟩
  · rintro ⟨hmapping, group, hgroup, hlive, hmember, hexternal⟩
    exact ⟨group, ⟨hgroup, hlive, hmember⟩, hmapping, hexternal⟩

theorem scimRoleForUser_eq_ok : scimRoleForUser configuration groups linkID = .ok role
    ↔ ∃ priority, (mappingsFor configuration groups linkID).foldlM chooseRole (configuration.defaultRole, none)
      = .ok (role, priority) := by
  have hdef : scimRoleForUser configuration groups linkID
      = ((mappingsFor configuration groups linkID).foldlM chooseRole (configuration.defaultRole, none)).map
        Prod.fst := by
    cases hfold : (mappingsFor configuration groups linkID).foldlM chooseRole (configuration.defaultRole, none) <;>
      simp only [scimRoleForUser, mappingsFor] at hfold ⊢ <;> rw [hfold] <;> rfl
  rw [hdef]
  cases (mappingsFor configuration groups linkID).foldlM chooseRole (configuration.defaultRole, none) with
  | error e => simp [Except.map]
  | ok chosen =>
    obtain ⟨chosenRole, priority⟩ := chosen
    simp [Except.map]

/-- **The role that is computed is the one of the highest priority.** -/
theorem chosen_of_scimRoleForUser (h : scimRoleForUser configuration groups linkID = .ok role) :
    Chosen configuration.defaultRole (Entitles configuration groups linkID) role := by
  obtain ⟨priority, hfold⟩ := scimRoleForUser_eq_ok.mp h
  have hso := chosenSoFar_foldlM (chosenSoFar_nil configuration.defaultRole) hfold
  rw [List.nil_append] at hso
  obtain _ | priority := priority
  · obtain ⟨hnil, rfl⟩ := hso
    exact .inl ⟨fun mapping hmapping => by simpa [hnil] using mem_mappingsFor.mpr hmapping, rfl⟩
  · obtain ⟨mapping, hmapping, hrole, rfl, hothers⟩ := hso
    exact .inr ⟨mapping, mem_mappingsFor.mp hmapping, hrole,
      fun other hother => hothers other (mem_mappingsFor.mpr hother)⟩

/-- **Where the mappings of one priority agree, a role is computed.** -/
theorem scimRoleForUser_of_agree (hagree : Agree (Entitles configuration groups linkID))
    (h : Chosen configuration.defaultRole (Entitles configuration groups linkID) role) :
    scimRoleForUser configuration groups linkID = .ok role := by
  have hmappings : Agree (· ∈ [] ++ mappingsFor configuration groups linkID) :=
    fun mapping other hmapping hother =>
      hagree mapping other (mem_mappingsFor.mp hmapping) (mem_mappingsFor.mp hother)
  obtain ⟨⟨role', priority⟩, hfold⟩ := foldlM_of_agree (chosenSoFar_nil configuration.defaultRole) hmappings
  have hrole := scimRoleForUser_eq_ok.mpr ⟨priority, hfold⟩
  rw [hrole, (chosen_of_scimRoleForUser hrole).unique h]

end Credbound.Accounts
