import Credbound.Machinery.Registry
import Credbound.Memory.Roots

/-!
# Memory/Switches — what can be disabled, and what turns it on again

Workspaces, issuers and directory configurations can be disabled.  Each kind is a registry, and every
method makes one `Registry.Edit` to it (`Method.edits`), which takes a disabled record on again only where
the method **turns it on**: the method that enables it, or a method that writes the whole record of the caller.

So what is disabled stays disabled under every other call (`Call.keeps_off`).
-/

namespace Credbound.Memory

open Registry

/-- A record that can be disabled. -/
inductive Switch
  | workspace (id : UUID)
  | issuer (id : UUID)
  | configuration (id : UUID)
deriving DecidableEq

/-- The record is there, and it is disabled. -/
def Switch.Off (s : Store) : Switch → Prop
  | .workspace id => Marked (fun v : Workspace => v.disabledAt ≠ none) id s.workspaces
  | .issuer id => Marked (fun v : OAuthIssuer => v.disabledAt ≠ none) id s.oauthIssuers
  | .configuration id => Marked (fun v : SCIMConfiguration => v.enabled = false) id s.scimConfigurations

/-- The method enables the record. -/
def Method.Enables (sw : Switch) : Method → Prop
  | .op (.workspace (.setWorkspaceDisabled id false _)) => sw = .workspace id
  | .op (.oauth (.setOAuthIssuerDisabled id false _)) => sw = .issuer id
  | _ => False

/-- The method writes the whole record of the caller. -/
def Method.Rewrites (sw : Switch) : Method → Prop
  | .op (.workspace (.updateWorkspace v)) => sw = .workspace v.id
  | .op (.oauth (.updateOAuthIssuer v)) => sw = .issuer v.id
  | .op (.directory (.updateSCIMConfiguration v _)) => sw = .configuration v.id
  | _ => False

/-- The record the method writes is enabled. -/
def Method.WritesOn : Method → Prop
  | .op (.workspace (.updateWorkspace v)) => v.disabledAt = none
  | .op (.oauth (.updateOAuthIssuer v)) => v.disabledAt = none
  | .op (.directory (.updateSCIMConfiguration v _)) => v.enabled = true
  | _ => False

/-- The method turns the record on: it enables it, or writes an enabled record over it. -/
def Method.TurnsOn (sw : Switch) (m : Method) : Prop := m.Enables sw ∨ m.Rewrites sw ∧ m.WritesOn

/-! ## Who touches the three maps -/

/-- The three maps. -/
def Store.switches (s : Store) := (s.workspaces, s.oauthIssuers, s.scimConfigurations)

/-- The operations that touch one of the three maps. -/
def Op.Switches : Op → Prop
  | .account (.bootstrap ..) | .account (.createSignup ..)
  | .workspace (.createWorkspace ..) | .workspace (.updateWorkspace ..) | .workspace (.setWorkspaceDisabled ..)
  | .oauth (.createOAuthIssuer ..) | .oauth (.updateOAuthIssuer ..) | .oauth (.setOAuthIssuerDisabled ..)
  | .directory (.createSCIMConfiguration ..) | .directory (.updateSCIMConfiguration ..)
  | .directory (.disableSCIMConfiguration ..) => True
  | _ => False

/-- **No other operation touches the three maps.** -/
theorem Op.leaves_switches (o : Op) (ho : ¬ o.Switches) : o.mutation.Leaves Store.switches := by
  intro commit p
  have h := o.writes commit p
  rcases o with op | op | op | op | op | op
  all_goals cases op <;> first
    | exact absurd True.intro ho
    | exact (congrArg Store.switches h).trans rfl
    | rfl

/-! ## The edits of an operation -/

/-- Where there is a workspace there is a user. -/
def Populated (s : Store) : Prop := s.workspaces.All fun _ _ => ∃ u, u ∈ s.users

/-- A bootstrap of a populated store without users meets no workspace. -/
theorem Populated.not_mem {s : Store} (h : Populated s) (hempty : s.users = ∅) (id : UUID) :
    id ∉ s.workspaces := by
  intro hmem
  obtain ⟨workspace, hw⟩ := FMap.mem_iff_get?.mp hmem
  obtain ⟨u, hu⟩ := h id workspace hw
  obtain ⟨user, huser⟩ := FMap.mem_iff_get?.mp hu
  rw [hempty, FMap.get?_empty] at huser
  cases huser

/-- The three maps after a workspace was disabled or enabled. -/
theorem switches_setWorkspaceDisabled (workspaceID : UUID) (disabled : Bool) (at' : Time) (commit : Commit)
    (p : Store) :
    ((setWorkspaceDisabled workspaceID disabled at').result commit p).switches
      = (p.workspaces.modify workspaceID (fun v =>
          { v with disabledAt := if disabled then some at' else none, updatedAt := at' }),
        p.oauthIssuers, p.scimConfigurations) := by
  cases disabled
  · rfl
  · exact Run.frame (fun (s : Store) userID => s.revokeUserCredentialsLocked userID workspaceID at')
      Store.switches (fun _ _ => rfl) _ _

/-- …after an issuer was. -/
theorem switches_setOAuthIssuerDisabled (issuerID : UUID) (disabled : Bool) (at' : Time) (commit : Commit)
    (p : Store) :
    ((setOAuthIssuerDisabled issuerID disabled at').result commit p).switches
      = (p.workspaces, p.oauthIssuers.modify issuerID (fun v =>
          { v with disabledAt := disableStamp disabled at', updatedAt := at' }),
        p.scimConfigurations) := by
  cases disabled
  · rfl
  · obtain ⟨_, _, _, h⟩ := Store.revokeOAuthGrantsWhere_eq _ (·.issuerID = issuerID) at'
    exact (congrArg Store.switches h).trans rfl

/-- …and after a configuration was written anew. -/
theorem switches_updateSCIMConfiguration (configuration : SCIMConfiguration)
    (memberships : List Membership) (commit : Commit) (p : Store) :
    ((updateSCIMConfiguration configuration memberships).result commit p).switches
      = (p.workspaces, p.oauthIssuers, p.scimConfigurations.set configuration.id configuration) :=
  Run.frame (fun (t : Store) (m : Membership) =>
    t.putMembership m.workspaceID m.userID (normalizeMembership m)) Store.switches (fun _ _ => rfl) _
    memberships

section Edits

variable {watched : Switch → Prop} {inhabited : Prop}
  {m m' : FMap UUID Workspace × FMap UUID OAuthIssuer × FMap UUID SCIMConfiguration}

/-- One edit of each map, which leaves disabled what is watched; a new workspace has somebody in the store. -/
structure Edits (watched : Switch → Prop) (inhabited : Prop)
    (m m' : FMap UUID Workspace × FMap UUID OAuthIssuer × FMap UUID SCIMConfiguration) : Prop where
  workspaces : ∀ id, Edit Workspace.id (fun v => watched (.workspace id) → v.disabledAt ≠ none) id m.1 m'.1
  issuers : ∀ id, Edit OAuthIssuer.id (fun v => watched (.issuer id) → v.disabledAt ≠ none) id m.2.1 m'.2.1
  configurations : ∀ id,
    Edit SCIMConfiguration.id (fun v => watched (.configuration id) → v.enabled = false) id m.2.2 m'.2.2
  populated : ∀ id ∈ m'.1, id ∈ m.1 ∨ inhabited

theorem Edits.of_eq (h : m' = m) : Edits watched inhabited m m' :=
  h ▸ ⟨fun _ => .same, fun _ => .same, fun _ => .same, fun _ => .inl⟩

theorem Edits.of_issuers {issuers : FMap UUID OAuthIssuer} (h : ∀ id, Edit OAuthIssuer.id
      (fun v => watched (.issuer id) → v.disabledAt ≠ none) id m.2.1 issuers) :
    Edits watched inhabited m (m.1, issuers, m.2.2) :=
  { Edits.of_eq rfl with issuers := h }

theorem Edits.of_configurations {configurations : FMap UUID SCIMConfiguration} (h : ∀ id, Edit SCIMConfiguration.id
      (fun v => watched (.configuration id) → v.enabled = false) id m.2.2 configurations) :
    Edits watched inhabited m (m.1, m.2.1, configurations) :=
  { Edits.of_eq rfl with configurations := h }

/-- A workspace is created where there is somebody. -/
theorem Edits.create (workspace : Workspace) (hnew : workspace.id ∉ m.1) (h : inhabited) :
    Edits watched inhabited m (m.1.set workspace.id workspace, m.2) :=
  ⟨fun _ => .create workspace hnew, fun _ => .same, fun _ => .same, fun _ _ => .inr h⟩

/-- **The edits of a method**, which turns on nothing that is watched. -/
theorem Method.edits {m : Method} {v : Mutation} {p : Store} {commit : Commit} (hv : m.view = some v)
    (hc : v.check p = .ok ()) (hp : Populated p) (h : ∀ sw, watched sw → ¬ m.TurnsOn sw) :
    Edits watched (∃ u, u ∈ (v.result commit p).users) p.switches (v.result commit p).switches := by
  cases m with
  | recordLoginFailure | useTOTP | consumeRecoveryCode | createWorkspaceDomain => cases hv; exact .of_eq rfl
  | claimEmailIssuance | setAuditFailure => cases hv
  | op o =>
  obtain ⟨⟩ := hv
  by_cases hsw : o.Switches
  swap
  · exact .of_eq (o.leaves_switches hsw commit p)
  cases o with
  | account op =>
    cases op with
    | bootstrap user email password workspace membership admin =>
      exact .create workspace (hp.not_mem (require_eq_ok.mp hc) workspace.id)
        ⟨user.id, FMap.mem_of_get? (FMap.get?_set_self _ _ _)⟩
    | createSignup user email verification password workspace membership =>
      simp only [Op.mutation, AccountOp.mutation, Memory.createSignup, check_bind, require_eq_ok] at hc
      obtain ⟨_, -, _, -, hnew⟩ := hc
      exact .create workspace hnew ⟨user.id, FMap.mem_of_get? (FMap.get?_set_self _ _ _)⟩
    | _ => exact hsw.elim
  | workspace op =>
    cases op with
    | createWorkspace workspace owner =>
      simp only [Op.mutation, WorkspaceOp.mutation, Memory.createWorkspace, check_bind, require_eq_ok] at hc
      obtain ⟨_, hnew, howner⟩ := hc
      exact .create workspace hnew ⟨owner.userID, howner⟩
    | updateWorkspace workspace =>
      obtain ⟨old, hold⟩ := FMap.mem_iff_get?.mp (require_eq_ok.mp hc)
      let written : Workspace := { workspace with createdAt := (p.workspaces.getI workspace.id).createdAt }
      refine ⟨fun id => Edit.rewrite (m := p.workspaces) written fun hid hwatched hnone => ?_, fun _ => .same,
        fun _ => .same, fun _ _ => .inr (hp _ old hold)⟩
      exact h _ hwatched (.inr ⟨congrArg Switch.workspace hid.symm, hnone⟩)
    | setWorkspaceDisabled workspaceID disabled at' =>
      refine (congrArg _ (switches_setWorkspaceDisabled workspaceID disabled at' commit p)).mpr ?_
      refine ⟨fun id => .change workspaceID _ (fun _ => rfl) fun hid v _ hwatched => ?_, fun _ => .same,
        fun _ => .same, fun id hid => .inl (FMap.mem_modify.mp hid)⟩
      cases disabled with
      | true => exact Option.some_ne_none at'
      | false => exact absurd (.inl (congrArg Switch.workspace hid.symm)) (h _ hwatched)
    | _ => exact hsw.elim
  | oauth op =>
    cases op with
    | createOAuthIssuer issuer =>
      simp only [Op.mutation, OAuthOp.mutation, Memory.createOAuthIssuer, check_bind, require_eq_ok] at hc
      obtain ⟨_, hnew, -⟩ := hc
      exact .of_issuers fun _ => .create issuer hnew
    | updateOAuthIssuer issuer =>
      refine .of_issuers fun id => .rewrite issuer fun hid hwatched hnone => ?_
      exact h _ hwatched (.inr ⟨congrArg Switch.issuer hid.symm, hnone⟩)
    | setOAuthIssuerDisabled issuerID disabled at' =>
      refine (congrArg _ (switches_setOAuthIssuerDisabled issuerID disabled at' commit p)).mpr ?_
      refine .of_issuers fun id => .change issuerID _ (fun _ => rfl) fun hid v _ hwatched => ?_
      cases disabled with
      | true => exact Option.some_ne_none at'
      | false => exact absurd (.inl (congrArg Switch.issuer hid.symm)) (h _ hwatched)
    | _ => exact hsw.elim
  | directory op =>
    cases op with
    | createSCIMConfiguration configuration credential =>
      simp only [Op.mutation, DirectoryOp.mutation, Memory.createSCIMConfiguration, check_bind,
        require_eq_ok] at hc
      obtain ⟨_, -, _, hnew, -⟩ := hc
      exact .of_configurations fun _ => .create configuration hnew
    | updateSCIMConfiguration configuration memberships =>
      refine (congrArg _ (switches_updateSCIMConfiguration configuration memberships commit p)).mpr ?_
      refine .of_configurations fun id => .rewrite configuration fun hid hwatched => ?_
      refine Bool.eq_false_iff.mpr fun henabled => h _ hwatched ?_
      exact .inr ⟨congrArg Switch.configuration hid.symm, henabled⟩
    | disableSCIMConfiguration configurationID disabledAt =>
      exact .of_configurations fun _ => .change configurationID _ (fun _ => rfl) fun _ _ _ _ => rfl
    | _ => exact hsw.elim
  | _ => exact hsw.elim

end Edits

/-! ## Records are filed -/

/-- The three maps are registries, and where there is a workspace there is a user. -/
structure Store.Filed (s : Store) : Prop where
  populated : Populated s
  workspaces : Registry.Filed Workspace.id s.workspaces
  issuers : Registry.Filed OAuthIssuer.id s.oauthIssuers
  configurations : Registry.Filed SCIMConfiguration.id s.scimConfigurations

theorem Store.Filed.congr {s t : Store} (h : s.SameCore t) (hs : s.Filed) : t.Filed := by
  obtain ⟨_, rfl⟩ := h
  exact ⟨hs.1, hs.2, hs.3, hs.4⟩

/-- **Every call keeps the records filed.** -/
theorem Store.Filed.next (s : Store) (c : Call) (hs : s.Filed) : (c.next s).Filed := by
  refine c.next_preserves s (fun v p hv _ hc hp => ?_) hs
  -- Nothing is watched, so the edits may be any.
  have hedits : Edits (fun _ => False) _ _ (v.result c.commit p).switches :=
    Method.edits hv hc hp.populated fun _ => False.elim
  refine ⟨fun id workspace hw => ?_, (hedits.workspaces 0).filed hp.workspaces,
    (hedits.issuers 0).filed hp.issuers, (hedits.configurations 0).filed hp.configurations⟩
  obtain hmem | hany := hedits.populated id (FMap.mem_of_get? hw)
  · obtain ⟨old, hold⟩ := FMap.mem_iff_get?.mp hmem
    obtain ⟨u, hu⟩ := hp.populated id old hold
    exact ⟨u, Method.mem_users hv c.commit hc hu⟩
  · exact hany

theorem Store.filed_new : Store.new.Filed where
  populated := fun _ _ h => nomatch h
  workspaces := FMap.All.empty
  issuers := FMap.All.empty
  configurations := FMap.All.empty

theorem Store.filed_after (calls : List Call) : (Store.after calls).Filed :=
  Run.always Store.Filed.next Store.filed_new calls

/-! ## What is disabled stays disabled -/

/-- A mark that is watched is a mark. -/
theorem marked_watched {V : Type} {mark : V → Prop} {id : UUID} {m : FMap UUID V} {watched : Prop} (h : watched) :
    Marked (fun v => watched → mark v) id m ↔ Marked mark id m := by
  simp only [Marked, h, true_implies]

theorem Edits.off {sw : Switch} {inhabited : Prop} {s t : Store}
    (h : Edits (· = sw) inhabited s.switches t.switches) (hs : sw.Off s) : sw.Off t := by
  cases sw with
  | workspace id => exact (marked_watched rfl).mp ((h.workspaces id).marked ((marked_watched rfl).mpr hs))
  | issuer id => exact (marked_watched rfl).mp ((h.issuers id).marked ((marked_watched rfl).mpr hs))
  | configuration id => exact (marked_watched rfl).mp ((h.configurations id).marked ((marked_watched rfl).mpr hs))

/-- **A call that does not turn it on leaves it disabled.** -/
theorem Call.keeps_off {sw : Switch} (s : Store) (c : Call) (hfiled : s.Filed)
    (hc : ¬ c.method.TurnsOn sw) (hs : sw.Off s) : sw.Off (c.next s) := by
  refine c.next_preserves s (I := fun s : Store => sw.Off s) ?_ hs ?_
  · intro v p hv hcore hcheck hp
    have hedits : Edits (· = sw) _ _ (v.result c.commit p).switches :=
      Method.edits hv hcheck (hfiled.congr hcore).populated fun sw' h => h ▸ hc
    exact hedits.off hp
  · rintro s _ ⟨_, rfl⟩ - hs
    exact Edits.off (.of_eq rfl : Edits _ True _ _) hs

end Credbound.Memory
