import Credbound.Manager.Invitations
import Credbound.Manager.Roles
import Credbound.Memory.Invitations

/-!
# Manager/Assignments — the functions that bring a membership about, and the role it has

`InviteToWorkspace`, `AcceptInvitation`, `RegisterFromInvitation`, `CreateUser`, `AddMembership` and
`GrantRole`.  `Assigns` is what each access of theirs is, given what they are told: an invitation and a new
account have the role that the caller asked for, an accepted invitation has the role it was issued for, and
**who may not write roles adds nobody and grants nothing**.
-/

namespace Credbound.Accounts

open Procedure
open Manager Memory

/-! ## What is told, and what is done -/

/-- Invitations are told on their terms, and the role of `a` in `w` is one of their `own`. -/
def Told (a w : UUID) (own : Role → Prop) (terms : UUID → Option Terms) : ⦃β : Type⦄ → Access β → β → Prop
  | _, .read _ (.workspaceInvitationByID _), r => ∀ v, r = .ok v → terms v.id = some (termsOf v)
  | _, .request (.query _ (.membership workspaceID userID)), r =>
      ∀ v, r = .ok v → workspaceID = w → userID = a → own v.role
  | _, _, _ => True

/-- A membership or an invitation in `w`, where `a` is the one it comes from, is for a role that is `within`; an
invitation that is accepted gives the membership on its terms. -/
def Assigns (caller a w : UUID) (within : Role → Prop) (terms : UUID → Option Terms) :
    ⦃β : Type⦄ → Access β → Prop
  | _, .write _ (.workspace (.createWorkspaceInvitation v)) _ => v.invitedBy = a → v.workspaceID = w → within v.role
  | _, .write _ (.account (.createUser _ _ _ v)) _ => caller = a → v.workspaceID = w → within v.role
  | _, .write _ (.workspace (.upsertMembership v)) _ => caller = a → v.workspaceID = w → within v.role
  | _, .write _ (.workspace (.acceptWorkspaceInvitation id _ _ v)) _ =>
      ∃ inviter, terms id = some ⟨id, inviter, v.workspaceID, v.role⟩
  | _, .write _ (.directory (.registerInvitedUser id _ _ _ v _)) _ =>
      ∃ inviter, terms id = some ⟨id, inviter, v.workspaceID, v.role⟩
  | _, e => Checking e

/-- The six functions. -/
inductive Admission
  | invite (workspaceID : UUID) (input : InviteToWorkspaceInput)
  | accept (raw : String)
  | register (raw : String) (input : RegisterFromInvitationInput)
  | createUser (workspaceID : UUID) (input : CreateUserInput)
  | addMembership (workspaceID userID : UUID) (role : Role)
  | grantRole (workspaceID userID : UUID) (role : Role)

/-- A call of one of them, without what it returns. -/
def Admission.program (m : Accounts) (ctx : Context) (io : AccountSupply) (actor : Authentication) :
    Admission → Program Access (Except Err Unit)
  | .invite workspaceID input => (m.inviteToWorkspace ctx io actor workspaceID input >>= fun _ => pure () : Routine Unit).program
  | .accept raw => (m.acceptInvitation ctx io actor raw >>= fun _ => pure () : Routine Unit).program
  | .register raw input => (m.registerFromInvitation ctx io raw input >>= fun _ => pure () : Routine Unit).program
  | .createUser workspaceID input => (m.createUser ctx io actor workspaceID input >>= fun _ => pure () : Routine Unit).program
  | .addMembership workspaceID userID role =>
      (m.addMembership ctx io actor workspaceID userID role >>= fun _ => pure () : Routine Unit).program
  | .grantRole workspaceID userID role => (m.grantRole ctx io actor workspaceID userID role).program

/-- The role that is asked for, in an invitation or for a new account. -/
def Admission.asks : Admission → Option (UUID × Role)
  | .invite workspaceID input => some (workspaceID, input.role)
  | .createUser workspaceID input => some (workspaceID, input.role)
  | _ => none

section Functions

variable {m : Accounts} {ctx : Context} {io : AccountSupply} {actor : Authentication} {a w : UUID}
  {own within : Role → Prop} {terms : UUID → Option Terms}

theorem assigns_of_checking ⦃β : Type⦄ (e : Access β) (h : Checking e) :
    Assigns actor.userID a w within terms e := by
  cases e with
  | write ctx op commit =>
    obtain rfl : op = .workspace .appendAudit := h
    rfl
  | _ => exact h

theorem assigns_of_reading ⦃β : Type⦄ (e : Access β) (h : Reading e) : Assigns actor.userID a w within terms e :=
  assigns_of_checking e (checking_of_reading e h)

variable {workspaceID : UUID} {role : Role}

/-- **Who passes `AuthorizePermission` has a role with the permission**: not `a` in `w`, where none of their own
roles has it. -/
theorem authorizePermission_delivers {permission : String}
    (hown : ∀ role, own role → m.allows role permission = false) :
    (m.toManager.authorizePermission ctx actor workspaceID permission).routine.Delivers (Told a w own terms)
      (Assigns actor.userID a w within terms) fun _ => ¬ (actor.userID = a ∧ workspaceID = w) := by
  refine Program.ensures_translate ?_
  refine delivers_demand_bind fun _ => ?_
  refine delivers_demand_bind fun _ => ?_
  refine delivers_demand_bind fun _ => ?_
  refine delivers_demand_bind fun _ => ?_
  refine delivers_emits_bind (emits_expect trivial) fun _ => ?_
  refine delivers_demand_bind fun _ => ?_
  refine delivers_emits_bind (emits_mapError (emits_ask trivial)) fun _ => ?_
  refine delivers_demand_bind fun _ => ?_
  refine delivers_demand_bind fun _ => ?_
  refine delivers_bind (P := fun membership : Membership =>
    workspaceID = w → actor.userID = a → own membership.role)
    (delivers_mapError (delivers_call trivial fun v hv => hv v rfl)) fun membership hrole => ?_
  refine delivers_demand fun hallows => ?_
  rintro ⟨huser, hworkspace⟩
  rw [hown _ (hrole hworkspace huser)] at hallows
  cases hallows.2

/-- The records of a new account are in the workspace, with the role. -/
theorem newAccount_ok {address displayName hash : String} {lastSeenAt : Option Time} {new : NewAccount}
    (h : newAccount io workspaceID role address displayName hash lastSeenAt = .ok new) :
    new.membership.workspaceID = workspaceID ∧ new.membership.role = role := by
  simp only [newAccount, check_bind, check_pure] at h
  obtain ⟨userID, -, emailID, -, rfl⟩ := h
  exact ⟨rfl, rfl⟩

/-- The invitation is issued by the caller, into the workspace, for the role. -/
theorem newInvitation_ok {email : String} {issued : String × WorkspaceInvitation}
    (h : m.newInvitation io actor workspaceID email role = .ok issued) :
    issued.2.invitedBy = actor.userID ∧ issued.2.workspaceID = workspaceID ∧ issued.2.role = role := by
  simp only [newInvitation, check_bind, check_pure] at h
  obtain ⟨id, -, secret, -, rfl⟩ := h
  exact ⟨rfl, rfl, rfl⟩

theorem inviteToWorkspace_assigns {input : InviteToWorkspaceInput}
    (hasks : actor.userID = a → workspaceID = w → within input.role) :
    (m.inviteToWorkspace ctx io actor workspaceID input).Delivers (Told a w own terms)
      (Assigns actor.userID a w within terms) fun _ => True := by
  refine delivers_emits_bind ((m.requireScopedStepUp_reading ..).mono assigns_of_reading) fun _ => ?_
  refine delivers_emits_bind ((m.toManager.authorizePermission_reading ..).mono assigns_of_reading) fun _ => ?_
  refine delivers_lift_bind fun email _ => ?_
  refine delivers_demand_bind fun _ => ?_
  have hstranger : (requireStranger ctx workspaceID email).Emits Reading := by
    refine emits_bind (emits_find trivial) fun found => ?_
    cases found with
    | none => exact emits_pure
    | some user => exact emits_bind (emits_find trivial) fun _ => emits_demand
  refine delivers_emits_bind (hstranger.mono assigns_of_reading) fun _ => ?_
  refine delivers_emits_bind (emits_find trivial) fun _ => ?_
  refine delivers_emits_bind emits_demand fun _ => ?_
  refine delivers_lift_bind fun issued hissued => ?_
  refine delivers_lift_bind fun event _ => ?_
  refine delivers_lift_bind fun change _ => ?_
  refine delivers_emits_bind (emits_mapError (emits_write ?_)) fun _ => delivers_pure trivial
  obtain ⟨hinviter, hworkspace, hrole⟩ := newInvitation_ok hissued
  intro hby hin
  rw [hrole]
  exact hasks (hinviter.symm.trans hby) (hworkspace.symm.trans hin)

theorem createUser_assigns {input : CreateUserInput} (hasks : actor.userID = a → workspaceID = w → within input.role) :
    (m.createUser ctx io actor workspaceID input).Delivers (Told a w own terms)
      (Assigns actor.userID a w within terms) fun _ => True := by
  refine delivers_emits_bind ((m.requireScopedStepUp_reading ..).mono assigns_of_reading) fun _ => ?_
  refine delivers_emits_bind ((m.toManager.authorizePermission_reading ..).mono assigns_of_reading) fun _ => ?_
  refine delivers_lift_bind fun email _ => ?_
  refine delivers_demand_bind fun _ => ?_
  refine delivers_demand_bind fun _ => ?_
  refine delivers_lift_bind fun _ _ => ?_
  refine delivers_lift_bind fun hash _ => ?_
  refine delivers_lift_bind fun new hnew => ?_
  refine delivers_lift_bind fun event _ => ?_
  refine delivers_lift_bind fun change _ => ?_
  refine delivers_emits_bind (emits_mapError (emits_write ?_)) fun _ => delivers_pure trivial
  obtain ⟨hworkspace, hrole⟩ := newAccount_ok hnew
  intro hby hin
  rw [hrole]
  exact hasks hby (hworkspace.symm.trans hin)

/-- **`AddMembership` of `a` in `w` stops at the permission to write roles.** -/
theorem addMembership_assigns {workspaceID userID : UUID}
    (hown : ∀ role, own role → m.allows role "workspace.rbac.write" = false) :
    (m.addMembership ctx io actor workspaceID userID role).Delivers (Told a w own terms)
      (Assigns actor.userID a w within terms) fun _ => True := by
  refine delivers_emits_bind ((m.authorizeWorkspaceMutation_reading ..).mono assigns_of_reading) fun _ => ?_
  refine delivers_bind (authorizePermission_delivers hown) fun _ hother => ?_
  refine delivers_demand_bind fun _ => ?_
  refine delivers_emits_bind (emits_read trivial) fun _ => ?_
  refine delivers_emits_bind (emits_find trivial) fun previous => ?_
  refine delivers_demand_bind fun _ => ?_
  refine delivers_demand_bind fun _ => ?_
  refine delivers_lift_bind fun event _ => ?_
  refine delivers_lift_bind fun change _ => ?_
  refine delivers_emits_bind (emits_mapError (emits_write ?_)) fun _ => delivers_pure trivial
  exact fun hby hin => absurd ⟨hby, hin⟩ hother

/-- **…and so does `GrantRole`.** -/
theorem grantRole_assigns {workspaceID userID : UUID}
    (hown : ∀ role, own role → m.allows role "workspace.rbac.write" = false) :
    (m.grantRole ctx io actor workspaceID userID role).Delivers (Told a w own terms)
      (Assigns actor.userID a w within terms) fun _ => True := by
  refine delivers_emits_bind ((m.requireScopedStepUp_reading ..).mono assigns_of_reading) fun _ => ?_
  refine delivers_bind (authorizePermission_delivers hown) fun _ hother => ?_
  refine delivers_demand_bind fun _ => ?_
  refine delivers_emits_bind (emits_read trivial) fun _ => ?_
  refine delivers_emits_bind (emits_find trivial) fun previous => ?_
  refine delivers_demand_bind fun _ => ?_
  refine delivers_lift_bind fun event _ => ?_
  refine delivers_lift_bind fun change _ => ?_
  refine delivers_of_emits (emits_mapError (emits_write ?_))
  exact fun hby hin => absurd ⟨hby, hin⟩ hother

/-- An invitation that can be used is told on its terms. -/
theorem usableInvitation_delivers {raw action : String} :
    (m.usableInvitation ctx io raw action).Delivers (Told a w own terms) (Assigns actor.userID a w within terms)
      fun v => terms v.id = some (termsOf v) := by
  unfold usableInvitation
  split
  · exact delivers_fail
  · refine delivers_bind (P := fun v : WorkspaceInvitation => terms v.id = some (termsOf v))
      (delivers_mapError (delivers_read trivial fun v hv => hv v rfl)) fun invitation hterms => ?_
    split
    · exact (delivers_bind (delivers_of_emits
        (recordAuthenticationAudit_checking.mono assigns_of_checking)) fun _ _ => delivers_fail)
    · refine delivers_emits_bind (emits_read trivial) fun _ => ?_
      exact delivers_demand_bind fun _ => delivers_pure hterms

theorem acceptInvitation_assigns {raw : String} :
    (m.acceptInvitation ctx io actor raw).Delivers (Told a w own terms) (Assigns actor.userID a w within terms)
      fun _ => True := by
  refine delivers_emits_bind ((m.requireRecentInteractive_reading ..).mono assigns_of_reading) fun _ => ?_
  refine delivers_bind usableInvitation_delivers fun invitation hterms => ?_
  refine delivers_emits_bind (emits_bind (emits_call trivial) fun _ =>
    emits_pure) fun owned => ?_
  split
  · refine delivers_emits_bind (emits_find trivial) fun previous => ?_
    refine delivers_emits_bind emits_demand fun _ => ?_
    refine delivers_lift_bind fun event _ => ?_
    refine delivers_lift_bind fun accepted _ => ?_
    refine delivers_lift_bind fun added _ => ?_
    refine delivers_emits_bind (emits_mapError (emits_write ?_)) fun _ =>
      delivers_pure trivial
    exact ⟨invitation.invitedBy, hterms⟩
  · exact delivers_of_emits (denyAuthentication_checking.mono assigns_of_checking)

theorem registerFromInvitation_assigns {raw : String} {input : RegisterFromInvitationInput} :
    (m.registerFromInvitation ctx io raw input).Delivers (Told a w own terms) (Assigns actor.userID a w within terms)
      fun _ => True := by
  refine delivers_bind usableInvitation_delivers fun invitation hterms => ?_
  refine delivers_emits_bind (domainRequiresSSO_checking.mono assigns_of_checking) fun _ => ?_
  refine delivers_demand_bind fun _ => ?_
  refine delivers_lift_bind fun _ _ => ?_
  refine delivers_emits_bind (emits_find trivial) fun owner => ?_
  refine delivers_emits_bind emits_demand fun _ => ?_
  refine delivers_lift_bind fun hash _ => ?_
  refine delivers_lift_bind fun new hnew => ?_
  refine delivers_lift_bind fun event _ => ?_
  refine delivers_lift_bind fun created _ => ?_
  refine delivers_lift_bind fun accepted _ => ?_
  refine delivers_emits_bind (emits_mapError (emits_write ?_)) fun _ => delivers_pure trivial
  obtain ⟨hworkspace, hrole⟩ := newAccount_ok hnew
  exact ⟨invitation.invitedBy, by rw [hworkspace, hrole]; exact hterms⟩

/-- **What the six functions do.** -/
theorem Admission.assigns (admission : Admission)
    (hown : ∀ role, own role → m.allows role "workspace.rbac.write" = false)
    (hasks : ∀ role, admission.asks = some (w, role) → actor.userID = a → within role) :
    (admission.program m ctx io actor).Ensures (Told a w own terms) (Assigns actor.userID a w within terms)
      fun _ => True := by
  have hdone : ∀ {α : Type} {p : Routine α}, p.Delivers (Told a w own terms) (Assigns actor.userID a w within terms)
      (fun _ => True) → (p >>= fun _ => pure () : Routine Unit).program.Ensures (Told a w own terms)
        (Assigns actor.userID a w within terms) fun _ => True := by
    intro α p hp
    have hunit : (p >>= fun _ => pure () : Routine Unit).Delivers (Told a w own terms)
        (Assigns actor.userID a w within terms) fun _ => True :=
      delivers_bind hp fun _ _ => delivers_pure trivial
    exact Program.Ensures.relax hunit fun _ _ => trivial
  cases admission with
  | invite workspaceID input =>
    exact hdone (inviteToWorkspace_assigns fun hby hin => hasks _ (by rw [← hin]; rfl) hby)
  | accept raw => exact hdone acceptInvitation_assigns
  | register raw input => exact hdone registerFromInvitation_assigns
  | createUser workspaceID input =>
    exact hdone (createUser_assigns fun hby hin => hasks _ (by rw [← hin]; rfl) hby)
  | addMembership workspaceID userID role => exact hdone (addMembership_assigns hown)
  | grantRole workspaceID userID role => exact Program.Ensures.relax (grantRole_assigns hown) fun _ _ => trivial

end Functions

end Credbound.Accounts
