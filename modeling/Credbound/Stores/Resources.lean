import Credbound.Manager.Resources
import Credbound.Stores.Switches

/-!
# Stores/Resources — the resource that is returned and the resource that is stored

* `createOAuthProtectedResource_returns`: what registering a resource returns, against what the memory store then reads.
* `returned_resource_iff`: the two are equal exactly when every scope is zero, and no registered resource has such scopes.
-/

namespace Credbound.Stores

open Procedure
open Accounts Manager Memory

/-- `cloneOAuthResource` of the memory store, which copies the list of scopes and loops over the copy. -/
def storedCopy (v : OAuthProtectedResource) : OAuthProtectedResource :=
  { v with
    scopes := (List.range v.scopes.length).foldl
      (fun scopes i => scopes.modify i fun scope => { scope with permissions := scope.permissions }) v.scopes }

/-- What the store copies when it writes and when it reads is the resource. -/
theorem storedCopy_eq (v : OAuthProtectedResource) : storedCopy v = v := by
  have hloop : ∀ is : List Nat, is.foldl (fun scopes i => scopes.modify i fun scope : OAuthScopeDefinition =>
      { scope with permissions := scope.permissions }) v.scopes = v.scopes := by
    intro is
    induction is with
    | nil => rfl
    | cons i is ih =>
      rw [List.foldl_cons]
      exact (congrArg (is.foldl _ ·) (List.modify_id i v.scopes)).trans ih
  unfold storedCopy
  rw [hloop]

theorem byIndex_set {K α : Type} [DecidableEq K] [Inhabited α] (index : FMap K UUID) (m : FMap UUID α) (k : K)
    (id : UUID) (v : α) : byIndex (index.set k id) (m.set id v) k = .ok v := by
  rw [byIndex, FMap.get?_set_self]
  exact congrArg Outcome.ok (FMap.getI_of_get? (FMap.get?_set_self ..))

section

variable {m : Accounts} {ctx : Context} {io : AccountSupply} {permissions : List String} {actor : Authentication}
  {workspaceID : UUID} {input : CreateOAuthProtectedResourceInput} {rely : Store → Store → Prop}
  {admits : ⦃β : Type⦄ → Access β → Store → Prop} {s t : Store} {resource : OAuthProtectedResource}

/-- **What is returned is a copy of what is stored**: the store reads a resource with the normalized scopes, by its
identifier and by its URI. -/
theorem createOAuthProtectedResource_returns
    (hrun : (m.createOAuthProtectedResource ctx io permissions actor workspaceID input).Runs access rely admits s
      (.ok resource) t) :
    ∃ stored : OAuthProtectedResource, normalizeOAuthScopeDefinitions permissions input.scopes = .ok stored.scopes
      ∧ resource = cloneOAuthResource stored
      ∧ t.answer {} (.oauthProtectedResourceByID resource.id) = .ok stored
      ∧ t.answer {} (.oauthProtectedResourceByURI resource.resource) = .ok stored := by
  unfold Accounts.createOAuthProtectedResource at hrun
  simp only [runs_bind_ok, runs_lift, runs_mapError_ok, runs_pure, runs_write] at hrun
  obtain ⟨_, _, -, _, _, -, _, _, -, _, _, -, issuer, _, -, _, _, -, url, _, ⟨hurl, -⟩, scopes, _, ⟨hscopes, -⟩, id, _, -,
    audit, _, -, _, _, ⟨s', -, -, hok, rfl⟩, hres, rfl⟩ := hrun
  obtain ⟨⟩ := hres
  obtain ⟨p, t, -, -, hwrite, hcore⟩ := Call.run_ok (Outcome.toExcept_eq_ok.mp hok)
  obtain ⟨⟩ := hwrite
  generalize Call.next s' _ = u at hcore ⊢
  obtain ⟨_, rfl⟩ := hcore
  refine ⟨_, hscopes.symm, rfl, ?_, ?_⟩
  · exact congrArg (fun found => guarded {} (orNotFound found)) (FMap.get?_set_self ..)
  · exact congrArg (guarded {}) (byIndex_set ..)

/-- **The resource that is returned is the one that is stored exactly when every scope is zero**, and it never is. -/
theorem returned_resource_iff
    (hrun : (m.createOAuthProtectedResource ctx io permissions actor workspaceID input).Runs access rely admits s
      (.ok resource) t) :
    ((t.answer {} (.oauthProtectedResourceByID resource.id) = .ok resource
        ∧ t.answer {} (.oauthProtectedResourceByURI resource.resource) = .ok resource)
      ↔ ∀ scopes, normalizeOAuthScopeDefinitions permissions input.scopes = .ok scopes →
        ∀ scope ∈ scopes, scope = default)
      ∧ t.answer {} (.oauthProtectedResourceByID resource.id) ≠ .ok resource := by
  obtain ⟨stored, hscopes, rfl, hid, huri⟩ := createOAuthProtectedResource_returns hrun
  have hcopy : stored = cloneOAuthResource stored ↔ ∀ scope ∈ stored.scopes, scope = default := by
    rw [cloneOAuthResource_eq]
    constructor
    · intro heq scope hscope
      rw [heq] at hscope
      exact List.eq_of_mem_replicate hscope
    · intro hzero
      rw [← List.eq_replicate_of_mem hzero]
  have hread : t.answer {} (.oauthProtectedResourceByID (cloneOAuthResource stored).id) = .ok (cloneOAuthResource stored)
      ↔ stored = cloneOAuthResource stored := by
    rw [hid]
    exact ⟨Outcome.ok.inj, congrArg _⟩
  refine ⟨⟨fun hreads scopes hnormalized => ?_, fun hzero => ?_⟩, fun hreads => ?_⟩
  · obtain rfl := Except.ok.inj (hscopes.symm.trans hnormalized)
    exact hcopy.mp (hread.mp hreads.1)
  · have heq := hcopy.mpr (hzero stored.scopes hscopes)
    exact ⟨hread.mpr heq, huri.trans (congrArg _ heq)⟩
  · obtain ⟨hsome, hnamed⟩ := normalizeOAuthScopeDefinitions_named stored.scopes hscopes
    obtain ⟨scope, hscope⟩ := List.exists_mem_of_ne_nil _ hsome
    have hname := hnamed scope hscope
    rw [hcopy.mp (hread.mp hreads) scope hscope] at hname
    exact absurd hname (by decide)

end

/-! ## A resource with one scope -/

/-- A resource under the issuer of the tenant. -/
def calendarInput : CreateOAuthProtectedResourceInput where
  issuerID := uuidv7 10
  resource := "https://mcp.example.com/calendar"
  scopes := [{ name := "calendar.read", description := "Read calendars", permissions := ["workspace.access"]
               minimumAAL := 0, maxAuthAge := 0 }]

def createsCalendar : Except Err OAuthProtectedResource × Store :=
  (tenantAccounts.createOAuthProtectedResource {} (tenantAccountSupply 700) ["workspace.access"] tenantAdministrator
    (uuidv7 1) calendarInput).program.exec access (Store.after tenantCalls)

/-- **The resource that is returned has a scope without a name**, and the one that is stored has the scope. -/
theorem calendar_without_name :
    ∃ resource stored, createsCalendar.1 = .ok resource
      ∧ createsCalendar.2.answer {} (.oauthProtectedResourceByID resource.id) = .ok stored
      ∧ resource.scopes.map OAuthScopeDefinition.name = [""]
      ∧ stored.scopes.map OAuthScopeDefinition.name = ["calendar.read"] :=
  ⟨_, _, rfl, rfl, rfl, rfl⟩

/-- So the two differ. -/
theorem calendar_differs :
    ∃ resource, createsCalendar.1 = .ok resource
      ∧ createsCalendar.2.answer {} (.oauthProtectedResourceByID resource.id) ≠ .ok resource := by
  obtain ⟨resource, hok⟩ : ∃ resource, createsCalendar.1 = .ok resource := ⟨_, rfl⟩
  have hrun : (tenantAccounts.createOAuthProtectedResource {} (tenantAccountSupply 700) ["workspace.access"]
      tenantAdministrator (uuidv7 1) calendarInput).Runs access Eq (fun _ _ _ => True) (Store.after tenantCalls)
      (.ok resource) createsCalendar.2 := Program.runs_alone.mpr (Prod.ext hok rfl)
  exact ⟨resource, hok, (returned_resource_iff hrun).2⟩

end Credbound.Stores
