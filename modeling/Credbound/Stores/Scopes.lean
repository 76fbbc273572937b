import Credbound.Manager.Roles
import Credbound.Stores.Switches

/-!
# Stores/Scopes — scopes and bindings are ceilings

`AuthorizePermission`, `Authorize` and `AuthorizeAdmin` look at the scopes of an authentication and at the workspace
it is bound to, each in its own way.  `Authorization.Within` is what each asks of them.  An authentication that is
within goes through the same program as one without scopes and binding (`check_bare`), and one that is not within
does not pass (`check_passes`), whatever the store answers and whoever else changes it meanwhile.

An empty list of scopes is not a ceiling: an authentication that is bound and has none passes for permissions that
are not in its list (`bound_without_scopes`).
-/

namespace Credbound

open Procedure
open Manager

/-- A question of authorization. -/
inductive Authorization
  | carries (workspaceID : UUID) (permission : String)
  | atLeast (workspaceID : UUID) (minimumRole : Role)
  | administers (permission : String)

namespace Authorization

/-- The function that answers the question: `AuthorizePermission`, `Authorize` or `AuthorizeAdmin`. -/
def check (m : Accounts) (catalog : RoleCatalog) (ctx : Context) (io : AccountSupply) (authn : Authentication) :
    Authorization → Routine Unit
  | .carries workspaceID permission => (m.authorizePermission ctx authn workspaceID permission).routine
  | .atLeast workspaceID minimumRole => catalog.authorize ctx authn workspaceID minimumRole
  | .administers permission => m.authorizeAdmin ctx io authn permission

/-- What the function asks of the scopes and the binding. -/
def Within (authn : Authentication) : Authorization → Prop
  | .carries workspaceID permission => (authn.scopes = [] ∨ permission ∈ authn.scopes ∨ "*" ∈ authn.scopes)
      ∧ (authn.workspaceID = 0 ∨ authn.workspaceID = workspaceID)
  | .atLeast workspaceID _ => (authn.scopes = [] ∨ "*" ∈ authn.scopes)
      ∧ (authn.workspaceID = 0 ∨ authn.workspaceID = workspaceID)
  | .administers _ => authn.workspaceID = 0 ∧ (authn.scopes = [] ∨ "*" ∈ authn.scopes)

end Authorization

/-- The authentication with its scopes and its binding removed. -/
def Manager.Authentication.bare (authn : Authentication) : Authentication :=
  { authn with scopes := [], workspaceID := 0 }

/-- The authentication with other scopes. -/
def Manager.Authentication.withScopes (authn : Authentication) (scopes : List String) : Authentication :=
  { authn with scopes := scopes }

namespace Authorization

variable {m : Accounts} {catalog : RoleCatalog} {ctx : Context} {io : AccountSupply} {authn : Authentication}

theorem hasScope_eq_true {required : String} (h : required ≠ "") :
    authn.hasScope required = true ↔ required ∈ authn.scopes ∨ "*" ∈ authn.scopes := by
  simp only [Authentication.hasScope, h, false_or, decide_eq_true_eq]
  constructor
  · rintro ⟨scope, hscope, rfl | rfl⟩
    · exact .inl hscope
    · exact .inr hscope
  · rintro (hscope | hscope)
    · exact ⟨required, hscope, .inl rfl⟩
    · exact ⟨"*", hscope, .inr rfl⟩

theorem hasScope_of_mem {required : String} (h : required ∈ authn.scopes ∨ "*" ∈ authn.scopes) :
    authn.hasScope required = true := by
  by_cases hempty : required = ""
  · exact decide_eq_true (.inl hempty)
  · exact (hasScope_eq_true hempty).mpr h

theorem hasScope_star : authn.hasScope "*" = true ↔ "*" ∈ authn.scopes :=
  (hasScope_eq_true (by decide)).trans (or_self_iff)

theorem demand_congr {E : Type → Type 1} {q q' : Prop} [Decidable q] [Decidable q'] (h : q ↔ q') (e : Err) :
    (demand q e : Procedure E Err Unit) = demand q' e := if_congr h rfl rfl

/-- **Within the ceiling, scopes and binding change nothing.** -/
theorem check_bare {question : Authorization} (h : question.Within authn) :
    question.check m catalog ctx io authn = question.check m catalog ctx io authn.bare := by
  cases question with
  | carries workspaceID permission =>
    obtain ⟨hlisted, hbound⟩ := h
    have hscope : authn.scopes = [] ∨ authn.hasScope permission = true := hlisted.imp_right hasScope_of_mem
    simp only [check, authorizePermission]
    rw [demand_congr (iff_of_true hscope (.inl rfl : authn.bare.scopes = [] ∨ authn.bare.hasScope permission = true)),
      demand_congr (iff_of_true hbound (.inl rfl : authn.bare.workspaceID = 0 ∨ authn.bare.workspaceID = workspaceID))]
    rfl
  | atLeast workspaceID minimumRole =>
    obtain ⟨hlisted, hbound⟩ := h
    have hscope : authn.scopes = [] ∨ authn.hasScope "*" = true := hlisted.imp_right hasScope_star.mpr
    simp only [check, RoleCatalog.authorize]
    rw [demand_congr (iff_of_true hscope (.inl rfl : authn.bare.scopes = [] ∨ authn.bare.hasScope "*" = true)),
      demand_congr (iff_of_true hbound (.inl rfl : authn.bare.workspaceID = 0 ∨ authn.bare.workspaceID = workspaceID))]
    rfl
  | administers permission =>
    obtain ⟨hbound, hscope⟩ := h
    have hinstance : (authn.workspaceID = 0 ∧ (authn.scopes = [] ∨ authn.hasScope "*" = true))
        ↔ authn.bare.workspaceID = 0 ∧ (authn.bare.scopes = [] ∨ authn.bare.hasScope "*" = true) :=
      iff_of_true ⟨hbound, hscope.imp_right hasScope_star.mpr⟩ ⟨rfl, .inl rfl⟩
    have hallowed (p : Prop) [Decidable p] :
        decide ((authn.workspaceID = 0 ∧ (authn.scopes = [] ∨ authn.hasScope "*" = true)) ∧ p)
          = decide ((authn.bare.workspaceID = 0 ∧ (authn.bare.scopes = [] ∨ authn.bare.hasScope "*" = true)) ∧ p) :=
      decide_eq_decide.mpr (and_congr_left' hinstance)
    simp only [check, Accounts.authorizeAdmin, hallowed]
    rfl

/-- **Who passes is within the ceiling**, whatever the store answers. -/
theorem check_delivers (question : Authorization) :
    (question.check m catalog ctx io authn).Delivers (fun _ _ _ => True) (fun _ _ => True)
      fun _ => question.Within authn := by
  cases question with
  | carries workspaceID permission =>
    refine Program.ensures_translate ?_
    refine delivers_demand_bind fun _ => ?_
    refine delivers_demand_bind fun _ => ?_
    refine delivers_demand_bind fun hpattern => ?_
    refine delivers_demand_bind fun hscope => ?_
    refine delivers_emits_bind (Program.emits_true _) fun _ => ?_
    refine delivers_demand_bind fun hbound => ?_
    have hnamed : permission ≠ "" := by
      rintro rfl
      cases hpattern.2
    exact (delivers_of_emits (Program.emits_true _)).mono fun _ _ =>
      ⟨hscope.imp_right (hasScope_eq_true hnamed).mp, hbound⟩
  | atLeast workspaceID minimumRole =>
    refine delivers_demand_bind fun _ => ?_
    refine delivers_demand_bind fun _ => ?_
    refine delivers_demand_bind fun _ => ?_
    refine delivers_emits_bind (Program.emits_true _) fun _ => ?_
    refine delivers_lift_bind fun _ _ => ?_
    refine delivers_demand_bind fun hscope => ?_
    refine delivers_demand_bind fun hbound => ?_
    exact (delivers_of_emits (Program.emits_true _)).mono fun _ _ =>
      ⟨hscope.imp_right hasScope_star.mp, hbound⟩
  | administers permission =>
    refine delivers_demand_bind fun _ => ?_
    refine delivers_emits_bind (Program.emits_true _) fun user => ?_
    refine delivers_emits_bind (Program.emits_true _) fun admin => ?_
    refine delivers_lift_bind fun _ _ => ?_
    refine delivers_emits_bind (Program.emits_true _) fun _ => ?_
    refine delivers_emits_bind (Program.emits_true _) fun _ => ?_
    refine delivers_emits_bind (Program.emits_true _) fun _ => ?_
    refine delivers_demand fun hallowed => ?_
    obtain ⟨hbound, hscope⟩ := (of_decide_eq_true hallowed).1
    exact ⟨hbound, hscope.imp_right hasScope_star.mp⟩

/-! ## Over any store -/

section

variable {S : Type} (h : Program.Handler Access S) (rely : S → S → Prop) (admits : ⦃β : Type⦄ → Access β → S → Prop)

/-- The function succeeds from `s`. -/
def Passes (m : Accounts) (catalog : RoleCatalog) (ctx : Context) (io : AccountSupply) (s : S) (authn : Authentication)
    (question : Authorization) : Prop :=
  ∃ t, (question.check m catalog ctx io authn).Runs h rely admits s (.ok ()) t

variable {h rely admits} {s : S} {question : Authorization}

/-- **An authentication passes where it is within the ceiling and would pass without scopes and binding.** -/
theorem passes_iff : Passes h rely admits m catalog ctx io s authn question
    ↔ question.Within authn ∧ Passes h rely admits m catalog ctx io s authn.bare question := by
  constructor
  · rintro ⟨t, hrun⟩
    have hwithin : question.Within authn :=
      (check_delivers question).of_runs (fun _ _ _ _ => trivial) hrun () rfl
    exact ⟨hwithin, t, check_bare hwithin ▸ hrun⟩
  · rintro ⟨hwithin, t, hrun⟩
    exact ⟨t, check_bare hwithin ▸ hrun⟩

/-- More scopes are as high a ceiling, where there was one. -/
theorem Within.withScopes {scopes : List String} (hwithin : question.Within authn) (hscoped : authn.scopes ≠ [])
    (hmore : authn.scopes ⊆ scopes) : question.Within (authn.withScopes scopes) := by
  cases question with
  | carries workspaceID permission =>
    obtain ⟨hlisted, hbound⟩ := hwithin
    exact ⟨.inr ((hlisted.resolve_left hscoped).imp (hmore ·) (hmore ·)), hbound⟩
  | atLeast workspaceID minimumRole =>
    obtain ⟨hlisted, hbound⟩ := hwithin
    exact ⟨.inr (hmore (hlisted.resolve_left hscoped)), hbound⟩
  | administers permission =>
    obtain ⟨hbound, hlisted⟩ := hwithin
    exact ⟨hbound, .inr (hmore (hlisted.resolve_left hscoped))⟩

end

/-- **Scopes and bindings only take away.**  Over every store and whatever happens to it meanwhile,
`AuthorizePermission` passes a scoped authentication for its scopes only and `Authorize` for the wildcard only, both a
bound one in its workspace only; `AuthorizeAdmin` passes none but an unbound one with the wildcard, if it is scoped or
bound at all; who passes would pass without scopes and binding; and more scopes do not fail where some passed. -/
theorem scopes_are_ceilings {S : Type} (h : Program.Handler Access S) (rely : S → S → Prop)
    (admits : ⦃β : Type⦄ → Access β → S → Prop) (m : Accounts) (catalog : RoleCatalog) (ctx : Context)
    (io : AccountSupply) (s : S) (authn : Authentication) :
    (∀ workspaceID permission, Passes h rely admits m catalog ctx io s authn (.carries workspaceID permission) →
        (authn.scopes ≠ [] → permission ∈ authn.scopes ∨ "*" ∈ authn.scopes)
          ∧ (authn.workspaceID ≠ 0 → workspaceID = authn.workspaceID))
      ∧ (∀ workspaceID role, Passes h rely admits m catalog ctx io s authn (.atLeast workspaceID role) →
        (authn.scopes = [] ∨ "*" ∈ authn.scopes) ∧ (authn.workspaceID ≠ 0 → workspaceID = authn.workspaceID))
      ∧ (authn.scopes ≠ [] ∨ authn.workspaceID ≠ 0 → ∀ permission,
        Passes h rely admits m catalog ctx io s authn (.administers permission) →
          authn.workspaceID = 0 ∧ "*" ∈ authn.scopes)
      ∧ (∀ question, Passes h rely admits m catalog ctx io s authn question →
        Passes h rely admits m catalog ctx io s authn.bare question)
      ∧ (authn.scopes ≠ [] → ∀ scopes, authn.scopes ⊆ scopes → ∀ question,
        Passes h rely admits m catalog ctx io s authn question →
          Passes h rely admits m catalog ctx io s (authn.withScopes scopes) question) := by
  refine ⟨fun workspaceID permission hpasses => ?_, fun workspaceID role hpasses => ?_,
    fun hlimited permission hpasses => ?_, fun question hpasses => (passes_iff.mp hpasses).2,
    fun hscoped scopes hmore question hpasses => ?_⟩
  · obtain ⟨⟨hlisted, hbound⟩, -⟩ := passes_iff.mp hpasses
    exact ⟨hlisted.resolve_left, fun hne => (hbound.resolve_left hne).symm⟩
  · obtain ⟨⟨hlisted, hbound⟩, -⟩ := passes_iff.mp hpasses
    exact ⟨hlisted, fun hne => (hbound.resolve_left hne).symm⟩
  · obtain ⟨⟨hbound, hlisted⟩, -⟩ := passes_iff.mp hpasses
    obtain hscoped | hne := hlimited
    · exact ⟨hbound, hlisted.resolve_left hscoped⟩
    · exact absurd hbound hne
  · obtain ⟨hwithin, hbare⟩ := passes_iff.mp hpasses
    exact passes_iff.mpr ⟨hwithin.withScopes hscoped hmore, hbare⟩

/-! ## In the tenant's workspace -/

open Memory Stores

/-- What passes in the tenant's store. -/
def TenantPasses (authn : Authentication) (question : Authorization) : Prop :=
  Passes access Eq (fun _ _ _ => True) tenantAccounts (catalogOf []) {} (tenantAccountSupply 700)
    (Store.after tenantCalls) authn question

theorem tenantPasses_of_exec {authn : Authentication} {question : Authorization}
    (h : ((question.check tenantAccounts (catalogOf []) {} (tenantAccountSupply 700) authn).program.exec access
      (Store.after tenantCalls)).1.isOk = true) : TenantPasses authn question := by
  cases hrun : (question.check tenantAccounts (catalogOf []) {} (tenantAccountSupply 700) authn).program.exec access
      (Store.after tenantCalls) with
  | mk answer t =>
    rw [hrun] at h
    cases answer with
    | error e => cases h
    | ok u => exact ⟨t, Program.runs_alone.mpr hrun⟩

/-- An access token of the administrator, for one permission in the workspace. -/
def tenantToken : Authentication :=
  { tenantAdministrator with method := .pat, scopes := ["workspace.access"], workspaceID := uuidv7 1 }

/-- …and one for everything, anywhere. -/
def tenantWildcard : Authentication :=
  { tenantAdministrator with method := .pat, scopes := ["*"] }

theorem scopes_are_ceilings_tenant :
    (TenantPasses tenantToken (.carries (uuidv7 1) "workspace.access")
        ∧ ("workspace.access" ∈ tenantToken.scopes ∨ "*" ∈ tenantToken.scopes)
        ∧ TenantPasses tenantToken.bare (.carries (uuidv7 1) "workspace.access")
        ∧ TenantPasses (tenantToken.withScopes ["workspace.users.read", "workspace.access"])
          (.carries (uuidv7 1) "workspace.access"))
      ∧ TenantPasses tenantWildcard (.atLeast (uuidv7 1) .admin)
      ∧ TenantPasses tenantWildcard (.administers "admin.users.read") ∧ "*" ∈ tenantWildcard.scopes := by
  obtain ⟨hcarries, -, -, hbare, hmore⟩ := scopes_are_ceilings access Eq (fun _ _ _ => True) tenantAccounts
    (catalogOf []) {} (tenantAccountSupply 700) (Store.after tenantCalls) tenantToken
  obtain ⟨-, -, hadministers, -⟩ := scopes_are_ceilings access Eq (fun _ _ _ => True) tenantAccounts (catalogOf [])
    {} (tenantAccountSupply 700) (Store.after tenantCalls) tenantWildcard
  have hpasses : TenantPasses tenantToken (.carries (uuidv7 1) "workspace.access") :=
    tenantPasses_of_exec (by decide +kernel)
  have hrole : TenantPasses tenantWildcard (.atLeast (uuidv7 1) .admin) := tenantPasses_of_exec (by decide +kernel)
  have hadmin : TenantPasses tenantWildcard (.administers "admin.users.read") :=
    tenantPasses_of_exec (by decide +kernel)
  have hscoped : tenantToken.scopes ≠ [] := List.cons_ne_nil _ _
  refine ⟨⟨hpasses, (hcarries _ _ hpasses).1 hscoped, hbare _ hpasses, ?_⟩, hrole, hadmin, ?_⟩
  · exact hmore hscoped _ (List.subset_cons_self _ _) _ hpasses
  · exact (hadministers (.inl (List.cons_ne_nil _ _)) _ hadmin).2

/-- **No scopes are no ceiling**: a bound authentication without any passes for a permission that is not among its
scopes, and has no wildcard. -/
theorem bound_without_scopes :
    let authn := { tenantAdministrator with workspaceID := uuidv7 1 }
    authn.workspaceID ≠ 0 ∧ TenantPasses authn (.carries (uuidv7 1) "workspace.access")
      ∧ ¬ ("workspace.access" ∈ authn.scopes ∨ "*" ∈ authn.scopes) :=
  ⟨by decide, tenantPasses_of_exec (by decide +kernel), by decide⟩

end Authorization

end Credbound
