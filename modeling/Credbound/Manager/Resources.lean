import Credbound.Manager.RoleCatalog

/-!
# Manager/Resources — registering a protected resource

`CreateOAuthProtectedResource` normalizes the scope definitions, stores the resource and returns a copy of it.  The
copy is made by `cloneOAuthResource`, which replaces the list of scopes by a new one of the same length and then loops
over that new list.

* `cloneOAuthResource_eq`: what the copy of a resource is.
* `normalizeOAuthScopeDefinitions_named`: there are scopes, and they have names.

A copied slice is the same list.
-/

namespace Credbound

namespace Manager

/-- `CreateOAuthProtectedResourceInput`. -/
structure CreateOAuthProtectedResourceInput where
  issuerID : UUID
  resource : String
  scopes : List OAuthScopeDefinition

/-- One definition in the loop of `normalizeOAuthScopeDefinitions`; the names seen are those of the result. -/
def addScopeDefinition (permissions : List String) (result : List OAuthScopeDefinition)
    (definition : OAuthScopeDefinition) : Except Err (List OAuthScopeDefinition) := do
  let name := trimSpace definition.name
  let description := trimSpace definition.description
  require (oauthScopePattern name = true ∧ oauthReservedScope name = false ∧ description ≠ ""
    ∧ description.utf8ByteSize ≤ 500) .invalidInput
  require (name ∉ result.map OAuthScopeDefinition.name) .invalidInput
  let minimumAAL := if definition.minimumAAL = 0 then aal1 else definition.minimumAAL
  require ((minimumAAL = aal1 ∨ minimumAAL = aal2) ∧ 0 ≤ definition.maxAuthAge) .invalidInput
  let unique := RoleMap.uniqueWorkspacePermissions definition.permissions
  require (unique ≠ []) .invalidInput
  require (∀ permission ∈ unique, permission ∈ permissions) .invalidInput
  return result ++ [{
    name := name, description := description, permissions := unique, minimumAAL := minimumAAL
    maxAuthAge := definition.maxAuthAge }]

/-- `normalizeOAuthScopeDefinitions`, with the permissions of the role catalogue. -/
def normalizeOAuthScopeDefinitions (permissions : List String) (input : List OAuthScopeDefinition) :
    Except Err (List OAuthScopeDefinition) := do
  require (input ≠ [] ∧ input.length ≤ 100) .invalidInput
  let result ← input.foldlM (addScopeDefinition permissions) []
  return result.insertionSort fun left right => left.name ≤ right.name

/-- `cloneOAuthResource`.  The loop ranges over the scopes of the copy, which have just been made. -/
def cloneOAuthResource (value : OAuthProtectedResource) : OAuthProtectedResource :=
  let value := { value with scopes := List.replicate value.scopes.length default }
  { value with
    scopes := value.scopes.zipIdx.foldl (fun scopes entry => scopes.set entry.2 entry.1) value.scopes }

theorem foldl_set_replicate {α : Type} {n : Nat} {a : α} {entries : List (α × Nat)} (h : ∀ e ∈ entries, e.1 = a) :
    entries.foldl (fun scopes entry => scopes.set entry.2 entry.1) (List.replicate n a) = List.replicate n a := by
  induction entries with
  | nil => rfl
  | cons e entries ih =>
    rw [List.foldl_cons, h e List.mem_cons_self, List.set_replicate_self]
    exact ih fun e' he' => h e' (List.mem_cons_of_mem e he')

/-- **The copy of a resource has as many scopes, and they are zero.** -/
theorem cloneOAuthResource_eq (value : OAuthProtectedResource) :
    cloneOAuthResource value = { value with scopes := List.replicate value.scopes.length default } := by
  unfold cloneOAuthResource
  dsimp only
  rw [foldl_set_replicate fun e he => List.eq_of_mem_replicate (List.fst_mem_of_mem_zipIdx he)]

/-- There are scopes, and they have names. -/
def Named (scopes : List OAuthScopeDefinition) : Prop :=
  scopes ≠ [] ∧ ∀ scope ∈ scopes, oauthScopePattern scope.name = true

theorem addScopeDefinition_named {permissions : List String} {result : List OAuthScopeDefinition}
    {definition : OAuthScopeDefinition} (hresult : ∀ scope ∈ result, oauthScopePattern scope.name = true) :
    Yields Named (addScopeDefinition permissions result definition) := by
  refine .bind fun _ hname => .bind fun _ _ => .bind fun _ _ => .bind fun _ _ => .bind fun _ _ => .pure ⟨by simp, ?_⟩
  intro scope hscope
  obtain hscope | hscope := List.mem_append.mp hscope
  · exact hresult scope hscope
  · obtain rfl := List.mem_singleton.mp hscope
    exact (require_eq_ok.mp hname).1

/-- **What is normalized has scopes, and they have names.** -/
theorem normalizeOAuthScopeDefinitions_named {permissions : List String} {input : List OAuthScopeDefinition} :
    Yields Named (normalizeOAuthScopeDefinitions permissions input) := by
  refine .bind fun _ hinput => .bind fun result hresult => .pure ?_
  have hnamed : Named result := by
    cases input with
    | nil => exact absurd rfl (require_eq_ok.mp hinput).1
    | cons definition rest =>
      rw [List.foldlM_cons] at hresult
      obtain ⟨first, hfirst, hrest⟩ := check_bind.mp hresult
      refine Yields.foldlM (fun _ _ h => addScopeDefinition_named h.2) ?_ rest result hrest
      exact addScopeDefinition_named (fun _ h => (List.not_mem_nil h).elim) first hfirst
  refine ⟨fun hnil => hnamed.1 ?_, fun scope hscope => hnamed.2 scope (List.mem_insertionSort _ |>.mp hscope)⟩
  have hlength := List.length_insertionSort (fun left right : OAuthScopeDefinition => left.name ≤ right.name) result
  rw [hnil] at hlength
  exact List.length_eq_zero_iff.mp hlength.symm

end Manager

open Manager in
/-- `CreateOAuthProtectedResource`, with the permissions of the role catalogue. -/
def Accounts.createOAuthProtectedResource (m : Accounts) (ctx : Context) (io : AccountSupply) (permissions : List String)
    (actor : Authentication) (workspaceID : UUID) (input : CreateOAuthProtectedResourceInput) :
    Routine OAuthProtectedResource := do
  .demand (m.oauth = true) .notSupported
  m.requireScopedStepUp ctx (io.now 0) actor .workspace
  (m.authorizePermission ctx actor workspaceID "oauth.resource.manage").routine
  .demand (validUUIDv7 input.issuerID = true) .invalidInput
  let issuer ← Routine.read ctx (.oauthIssuerByID input.issuerID)
  .demand (issuer.disabledAt = none) .forbidden
  let resourceURL ← .lift (m.validateResourceURL input.resource)
  let scopes ← .lift (normalizeOAuthScopeDefinitions permissions input.scopes)
  let id ← .lift (io.newID 1)
  let resource : OAuthProtectedResource :=
    { id := id, issuerID := issuer.id, workspaceID := workspaceID, resource := resourceURL, scopes := scopes
      createdAt := io.now 2, updatedAt := io.now 2, disabledAt := none }
  let audit ← .lift (io.audit 3 (io.now 3) actor.userID "oauth.resource.create" "oauth_resource" id.string workspaceID
    .succeeded "")
  (Routine.write ctx (.oauth (.createOAuthProtectedResource resource)) { audit := audit }).mapError mapStoreError
  pure (cloneOAuthResource resource)

end Credbound
