import Credbound.Manager.Refresh
import Credbound.Stores.Consents

/-!
# Stores/Memberships — the membership behind an access token

`AuthenticateOAuthAccessToken` and `RefreshOAuthToken` look at the membership of a grant's user only
to check the permissions behind the grant's scopes.  `membership_checked_iff` puts an accepted call
into a store with other memberships: it is refused for want of an active one exactly when one of the
scopes has a permission to check.
-/

namespace Credbound

open Manager

/-! ## Stores that differ in their memberships -/

namespace Memory

/-- The store with other memberships. -/
def Store.withMemberships (s : Store) (members : FMap UUID (FMap UUID Membership)) : Store :=
  { s with memberships := members }

variable {members : FMap UUID (FMap UUID Membership)}

theorem Store.commitAudit_withMemberships (s : Store) (event : AuditEvent) (unchained : Bool) :
    (s.withMemberships members).commitAudit event unchained
      = (s.commitAudit event unchained).withMemberships members := by
  cases unchained <;> rfl

theorem Store.finishCommitLocked_withMemberships (s p : Store) (ctx : Context) (commit : Commit) :
    (s.withMemberships members).finishCommitLocked ctx commit
        (if commit.transactional.isNone then default else (p.withMemberships members).snapshotLocked)
      = (s.finishCommitLocked ctx commit
          (if commit.transactional.isNone then default else p.snapshotLocked)).map id
            (withMemberships · members) := by
  unfold Store.finishCommitLocked
  cases hook : commit.hookErr ctx .memory with
  | none => exact Prod.ext rfl (s.commitAudit_withMemberships _ _)
  | some e =>
    simp only [Commit.isNone_of_hookErr hook]
    rfl

/-- A commit whose write does not look at the memberships. -/
theorem Store.finish_withMemberships (s : Store) (ctx : Context) (commit : Commit) {f : Store → Store}
    (hf : ∀ p : Store, f (p.withMemberships members) = (f p).withMemberships members) :
    ((s.withMemberships members).prepareAndWrite commit (fun p => .ok (f p)) ()).finish ctx commit
      = ((s.prepareAndWrite commit (fun p => .ok (f p)) ()).finish ctx commit).map id
          (withMemberships · members) := by
  have hcan : (s.withMemberships members).canAudit commit.audit = s.canAudit commit.audit := rfl
  -- The snapshot is that of `s`, whatever ceremonies preparing has recorded since.
  have hfinish : ∀ p, (Attempt.pending () (if commit.transactional.isNone then default
        else (s.withMemberships members).snapshotLocked) (f (p.withMemberships members))).finish ctx commit
      = ((Attempt.pending () (if commit.transactional.isNone then default
          else s.snapshotLocked) (f p)).finish ctx commit).map id (withMemberships · members) := by
    intro p
    simp only [Attempt.finish, hf, Store.finishCommitLocked_withMemberships]
    generalize (f p).finishCommitLocked ctx commit _ = result
    obtain ⟨outcome, t⟩ := result
    cases outcome <;> rfl
  unfold Store.prepareAndWrite Store.prepareCommitLocked
  rw [hcan]
  cases s.canAudit commit.audit with
  | error e => rfl
  | ok _ =>
    cases commit.ceremony with
    | none => exact hfinish s
    | some ceremony =>
      by_cases hspent : ceremony.id ∈ s.liveCeremonies commit.audit.occurredAt
      · have hspent' : ceremony.id ∈ (s.withMemberships members).liveCeremonies commit.audit.occurredAt :=
          hspent
        simp only [if_pos hspent, if_pos hspent']
        rfl
      · have hspent' : ceremony.id ∉ (s.withMemberships members).liveCeremonies commit.audit.occurredAt :=
          hspent
        simp only [if_neg hspent, if_neg hspent']
        exact hfinish { s with ceremonies :=
          (s.liveCeremonies commit.audit.occurredAt).set ceremony.id ceremony.expiresAt }

/-- A method that does not look at the memberships. -/
theorem Mutation.run_withMemberships {m : Mutation} {f : Store → Store} (s : Store) (ctx : Context)
    (commit : Commit) (hcheck : m.check (s.withMemberships members) = m.check s)
    (hwrite : m.write commit = fun p => .ok (f p))
    (hf : ∀ p : Store, f (p.withMemberships members) = (f p).withMemberships members) :
    m.run ctx commit (s.withMemberships members)
      = (m.run ctx commit s).map id (Store.withMemberships · members) := by
  unfold Mutation.run Mutation.attempt
  rw [hcheck, hwrite]
  cases ctx.err with
  | some e => rfl
  | none =>
    cases m.check s with
    | error e => rfl
    | ok _ => exact s.finish_withMemberships ctx commit hf

/-- **No access of a refresh outside `activeOAuthGrant` looks at the memberships.** -/
theorem handler_withMemberships ⦃β : Type⦄ (r : Request β) (hr : Refreshing r) (s : Store) :
    backend.handler r (s.withMemberships members)
      = (backend.handler r s).map id (Store.withMemberships · members) := by
  cases r with
  | query ctx q =>
    cases q with
    | membership => exact absurd trivial hr
    | _ => rfl
  | update ctx u commit =>
    refine congrArg (Prod.map Outcome.toExcept id) (?_ : (updateOp u).mutation.run ctx commit _
      = ((updateOp u).mutation.run ctx commit s).map id (Store.withMemberships · members))
    cases u with
    | appendAudit | upsertOAuthCIMDClient | rotateOAuthRefreshToken | revokeOAuthRefreshFamily =>
      exact Mutation.run_withMemberships s ctx commit rfl rfl fun _ => rfl
    | _ => exact absurd hr id

end Memory

namespace Postgres

/-- The database with other memberships. -/
def Database.withMemberships (db : Database) (members : FMap (UUID × UUID) Membership) : Database :=
  { db with memberships := members }

variable {members : FMap (UUID × UUID) Membership}

/-- The function runs the same in a database with other memberships, and leaves them. -/
def Ignores (members : FMap (UUID × UUID) Membership) (fn : Database → Except Err Database) : Prop :=
  ∀ db, fn (db.withMemberships members) = (fn db).map fun db => db.withMemberships members

theorem map_bind {α β γ : Type} (x : Except Err α) (k : α → Except Err β) (g : β → γ) :
    (x >>= k).map g = x >>= fun a => (k a).map g := by cases x <;> rfl

variable {fn : Database → Except Err Database}

theorem Ignores.comp {gn : Database → Except Err Database} (hfn : Ignores members fn)
    (hgn : Ignores members gn) : Ignores members fun db => fn db >>= gn := by
  intro db
  show (fn (db.withMemberships members) >>= gn) = _
  rw [hfn db, map_bind]
  cases fn db with
  | error e => rfl
  | ok written => exact hgn written

theorem ignores_insertAudit (event : AuditEvent) : Ignores members fun db => db.insertAudit event := by
  intro db
  simp only [Database.insertAudit, map_bind]
  rfl

theorem ignores_chainAudit (event : AuditEvent) : Ignores members fun db => db.chainAudit event := by
  intro db
  have hhead : Ignores members fun db' => pure { db' with
      auditSequence := (db.linked (Database.actedBy event)).sequence
      auditHead := (db.linked (Database.actedBy event)).hash } := fun _ => rfl
  exact (ignores_insertAudit (db.linked (Database.actedBy event))).comp hhead db

theorem ignores_appendAudit (event : AuditEvent) (unchained : Bool) :
    Ignores members fun db => db.appendAudit event unchained := by
  cases unchained with
  | true => exact ignores_insertAudit _
  | false => exact ignores_chainAudit event

theorem ignores_consumeCeremony (commit : Commit) : Ignores members fun db => db.consumeCeremony commit := by
  intro db
  unfold Database.consumeCeremony
  cases commit.ceremony with
  | none => rfl
  | some ceremony =>
    simp only [map_bind]
    rfl

theorem atomically_withMemberships {body : Database → Except Err Database} (hbody : Ignores members body)
    (ctx : Context) (db : Database) :
    atomically ctx body (db.withMemberships members)
      = (atomically ctx body db).map id (Database.withMemberships · members) := by
  unfold atomically
  cases ctx.err with
  | some e => rfl
  | none =>
    simp only [hbody db]
    cases body db <;> rfl

theorem oauthMutate_withMemberships (hfn : Ignores members fn)
    (ctx : Context) (commit : Commit) (db : Database) :
    oauthMutate ctx commit fn (db.withMemberships members)
      = (oauthMutate ctx commit fn db).map id (Database.withMemberships · members) := by
  refine atomically_withMemberships (hfn.comp ?_) ctx db
  intro written
  cases runHook ctx commit with
  | error e => rfl
  | ok _ => exact ignores_chainAudit commit.audit written

theorem mutate_withMemberships (hfn : Ignores members fn) (ctx : Context) (commit : Commit) (db : Database) :
    mutate ctx commit fn (db.withMemberships members)
      = (mutate ctx commit fn db).map id (Database.withMemberships · members) := by
  have hrest : Ignores members fun db => runHook ctx commit >>= fun _ =>
      db.appendAudit commit.audit commit.unchained := by
    intro written
    cases runHook ctx commit with
    | error e => rfl
    | ok _ => exact ignores_appendAudit commit.audit commit.unchained written
  have hbody : transactIf ctx commit (changing fn) = fun db => db.consumeCeremony commit >>= fun db =>
      fn db >>= fun db => runHook ctx commit >>= fun _ =>
        db.appendAudit commit.audit commit.unchained := by
    funext db
    unfold transactIf changing
    cases db.consumeCeremony commit with
    | error e => rfl
    | ok begun =>
      show ((fn begun >>= fun db => pure (true, db)) >>= _) = (fn begun >>= _)
      cases fn begun <;> rfl
  unfold mutate mutateIf
  rw [hbody]
  exact atomically_withMemberships ((ignores_consumeCeremony commit).comp (hfn.comp hrest)) ctx db

/-! The methods of a refresh -/

theorem ignores_upsertOAuthCIMDClient (client : OAuthClient) :
    Ignores members (upsertOAuthCIMDClient client) := by
  intro db
  simp only [upsertOAuthCIMDClient, map_bind]
  refine bind_congr fun _ => ?_
  have hsame : (db.withMemberships members).clientWithID client.issuerID client.clientID
      = db.clientWithID client.issuerID client.clientID := rfl
  rw [hsame]
  cases db.clientWithID client.issuerID client.clientID with
  | some row => rfl
  | none =>
    simp only [map_bind]
    rfl

theorem ignores_rotateOAuthRefreshToken (previousID : UUID) (usedAt : Time) (access : OAuthAccessToken)
    (refresh : OAuthRefreshToken) :
    Ignores members (rotateOAuthRefreshToken previousID usedAt access refresh) := by
  have haccess : Ignores members fun db => db.insertOAuthAccessToken access := by
    intro db
    simp only [Database.insertOAuthAccessToken, map_bind]
    rfl
  have hrefresh : Ignores members fun db => db.insertOAuthRefreshToken refresh := by
    intro db
    simp only [Database.insertOAuthRefreshToken, map_bind]
    rfl
  intro db
  simp only [rotateOAuthRefreshToken, map_bind]
  show (select db.oauthRefreshTokens previousID >>= _) = _
  refine bind_congr fun row => bind_congr fun _ => bind_congr fun _ => ?_
  exact ((haccess.comp hrefresh) { db with oauthRefreshTokens := _ }).trans (map_bind _ _ _)

theorem ignores_revokeOAuthRefreshFamily (familyID : UUID) (at' : Time) :
    Ignores members (revokeOAuthRefreshFamily familyID at') := by
  intro db
  simp only [revokeOAuthRefreshFamily, map_bind]
  rfl

theorem handler_withMemberships ⦃β : Type⦄ (r : Request β) (hr : Refreshing r) (db : Database) :
    backend.handler r (db.withMemberships members)
      = (backend.handler r db).map id (Database.withMemberships · members) := by
  cases r with
  | query ctx q =>
    cases q with
    | membership => exact absurd trivial hr
    | _ => rfl
  | update ctx u commit =>
    refine congrArg (Prod.map Outcome.toExcept id) (?_ : transact ctx commit u _
      = (transact ctx commit u db).map id (Database.withMemberships · members))
    cases u with
    | appendAudit =>
      have hmethod : Ignores members (updateMethod .appendAudit) := fun _ => rfl
      exact mutate_withMemberships hmethod ctx commit db
    | upsertOAuthCIMDClient client =>
      exact oauthMutate_withMemberships (ignores_upsertOAuthCIMDClient client) ctx commit db
    | rotateOAuthRefreshToken previousID usedAt access refresh =>
      exact oauthMutate_withMemberships
        (ignores_rotateOAuthRefreshToken previousID usedAt access refresh) ctx commit db
    | revokeOAuthRefreshFamily familyID at' =>
      exact oauthMutate_withMemberships (ignores_revokeOAuthRefreshFamily familyID at') ctx commit db
    | _ => exact absurd hr id

end Postgres

namespace StoreKind

/-- The memberships of a store. -/
def Memberships : StoreKind → Type
  | .memory => FMap UUID (FMap UUID Membership)
  | .postgresql => FMap (UUID × UUID) Membership

/-- The store with other memberships. -/
def withMemberships : (kind : StoreKind) → kind.State → kind.Memberships → kind.State
  | .memory, s, members => Memory.Store.withMemberships s members
  | .postgresql, db, members => Postgres.Database.withMemberships db members

/-- No memberships. -/
def noMemberships : (kind : StoreKind) → kind.Memberships
  | .memory => (∅ : FMap UUID (FMap UUID Membership))
  | .postgresql => (∅ : FMap (UUID × UUID) Membership)

variable (kind : StoreKind) {s t : kind.State} {members : kind.Memberships} {ctx : Context} {α : Type}

theorem handler_withMemberships ⦃β : Type⦄ (r : Request β) (hr : Refreshing r) (s : kind.State)
    (members : kind.Memberships) :
    kind.backend.handler r (kind.withMemberships s members)
      = ((kind.backend.handler r s).1, kind.withMemberships (kind.backend.handler r s).2 members) := by
  cases kind with
  | memory => exact Memory.handler_withMemberships r hr s
  | postgresql => exact Postgres.handler_withMemberships r hr s

theorem ask_withMemberships (q : Query α) (hq : ¬ q.OfMembership) :
    kind.backend.ask (kind.withMemberships s members) ctx q = kind.backend.ask s ctx q :=
  congrArg Prod.fst (kind.handler_withMemberships (.query ctx q) hq s members)

theorem not_activeMember {workspaceID userID : UUID} : ¬ kind.backend.ActiveMember
    (kind.withMemberships s kind.noMemberships) ctx workspaceID userID := by
  rintro ⟨membership, hmembership, -⟩
  cases kind with
  | memory =>
    have hnone : Memory.backend.ask (Memory.Store.withMemberships s ∅) ctx
        (.membership workspaceID userID) = (Memory.guarded ctx (.err .notFound)).toExcept := rfl
    have hread := hnone.symm.trans hmembership
    unfold Memory.guarded at hread
    split at hread <;> cases hread
  | postgresql =>
    have hnone : Postgres.backend.ask (Postgres.Database.withMemberships s ∅) ctx
        (.membership workspaceID userID) = Postgres.querying ctx
          (require (workspaceID ≠ 0 ∧ userID ≠ 0) .notFound >>= fun _ => .error .notFound) := rfl
    have hread := hnone.symm.trans hmembership
    unfold Postgres.querying at hread
    split at hread
    · cases hread
    · obtain ⟨-, -, hread⟩ := check_bind.mp hread
      cases hread

/-- **A call that does not look at the memberships is the same with others.** -/
theorem returns_withMemberships (members : kind.Memberships) {p : Action α} {r : Except Err α} (hp : p.Emits Refreshing)
    (h : kind.backend.Returns p s r t) :
    kind.backend.Returns p (kind.withMemberships s members) r (kind.withMemberships t members) := by
  have haccess : ∀ ⦃β : Type⦄ (e : Request β) (s s' : kind.State), Refreshing e →
      s' = kind.withMemberships s members →
      (kind.backend.handler e s).1 = (kind.backend.handler e s').1 ∧ (kind.backend.handler e s').2
          = kind.withMemberships (kind.backend.handler e s).2 members := by
    rintro β e s _ he rfl
    rw [kind.handler_withMemberships e he s members]
    exact ⟨rfl, rfl⟩
  obtain ⟨t', hrun, rfl⟩ := Program.Runs.simulate
    (R := fun s s' => s' = kind.withMemberships s members) h hp haccess rfl
  exact hrun

end StoreKind

/-! ## When the membership is looked at -/

namespace Stores

variable {kind : StoreKind} {m : Manager} {ctx : Context} {io : Supply} {s : kind.State}
  {resource : OAuthProtectedResource} {grant : OAuthGrant} {members : kind.Memberships}

/-- A refusal for want of a membership is one for want of a permission. -/
theorem checked_iff_of_transfer {accepts : kind.State → Prop}
    (hgood : ∀ members, accepts (kind.withMemberships s members) →
      GrantChecks resource grant.scopes → kind.backend.ActiveMember (kind.withMemberships s members) ctx
        grant.workspaceID grant.userID)
    (htransfer : ¬ GrantChecks resource grant.scopes → ∀ members, accepts (kind.withMemberships s members)) :
    (∀ members, accepts (kind.withMemberships s members) → kind.backend.ActiveMember
        (kind.withMemberships s members) ctx grant.workspaceID grant.userID)
      ↔ GrantChecks resource grant.scopes := by
  constructor
  · intro hall
    by_contra hchecks
    exact kind.not_activeMember (hall kind.noMemberships (htransfer hchecks _))
  · exact fun hchecks members haccepts => hgood members haccepts hchecks

theorem authenticate_membership_iff {resourceURI raw pfx : String} {token : OAuthAccessToken}
    (hbearer : bearerPrefix "cba" raw = .ok pfx)
    (htoken : kind.backend.ask s ctx (.oauthAccessTokenByPrefix pfx) = .ok token)
    (hgrant : kind.backend.ask s ctx (.oauthGrant token.grantID) = .ok grant)
    (hresource : kind.backend.ask s ctx (.oauthProtectedResourceByID grant.resourceID) = .ok resource)
    (haccepts : kind.backend.Accepts (m.authenticateOAuthAccessToken ctx io resourceURI raw) s) :
    (∀ members, kind.backend.Accepts (m.authenticateOAuthAccessToken ctx io resourceURI raw)
        (kind.withMemberships s members) →
      kind.backend.ActiveMember (kind.withMemberships s members) ctx grant.workspaceID grant.userID)
      ↔ GrantChecks resource grant.scopes := by
  have hon : m.oauth = true := by
    obtain ⟨_, _, haccepts⟩ := haccepts
    unfold Backend.Returns authenticateOAuthAccessToken requireOAuth at haccepts
    simp only [Procedure.runs_bind_ok, Procedure.runs_demand_ok] at haccepts
    obtain ⟨-, _, ⟨hon, -⟩, -⟩ := haccepts
    exact hon
  have hgood : ∀ members, kind.backend.Accepts (m.authenticateOAuthAccessToken ctx io resourceURI raw)
          (kind.withMemberships s members)
        ↔ kind.backend.TokenGood m (kind.withMemberships s members) ctx (io.now 10) resourceURI raw
          token := fun members =>
    authenticateOAuthAccessToken_ok hon hbearer ((kind.ask_withMemberships _ id).trans htoken)
  refine checked_iff_of_transfer (fun members haccepts hchecks => ?_) fun hchecks members => ?_
  · obtain ⟨-, client, grant', resource', -, hactive, -⟩ := (hgood members).mp haccepts
    obtain rfl : grant' = grant := Except.ok.inj
      (hactive.grant_read.symm.trans ((kind.ask_withMemberships _ id).trans hgrant))
    obtain rfl : resource' = resource := Except.ok.inj
      (hactive.resource_read.symm.trans ((kind.ask_withMemberships _ id).trans hresource))
    exact hactive.activeMember hchecks
  · obtain ⟨hpresentable, client, grant', resource', hclient, hactive, hconsistent⟩ :=
      (authenticateOAuthAccessToken_ok hon hbearer htoken).mp haccepts
    obtain rfl : grant' = grant := Except.ok.inj (hactive.grant_read.symm.trans hgrant)
    obtain rfl : resource' = resource := Except.ok.inj (hactive.resource_read.symm.trans hresource)
    exact (hgood members).mpr ⟨hpresentable, client, grant', resource',
      (kind.ask_withMemberships _ id).trans hclient, hactive.of_memberships hchecks kind.ask_withMemberships, hconsistent⟩

theorem refresh_membership_iff {input : RefreshOAuthTokenInput} {pfx : String}
    {previous : OAuthRefreshToken} (hbearer : bearerPrefix "cbr" input.refreshToken = .ok pfx)
    (hprevious : kind.backend.ask s ctx (.oauthRefreshTokenByPrefix pfx) = .ok previous)
    (hgrant : kind.backend.ask s ctx (.oauthGrant previous.grantID) = .ok grant)
    (hresource : kind.backend.ask s ctx (.oauthProtectedResourceByID grant.resourceID) = .ok resource)
    (haccepts : kind.backend.Accepts (m.refreshOAuthToken ctx io input) s) :
    (∀ members, kind.backend.Accepts (m.refreshOAuthToken ctx io input) (kind.withMemberships s members) →
      kind.backend.ActiveMember (kind.withMemberships s members) ctx grant.workspaceID grant.userID)
      ↔ GrantChecks resource grant.scopes := by
  refine checked_iff_of_transfer (fun members haccepts hchecks => ?_) fun hchecks members => ?_
  · -- An accepted refresh has found the grant good once the client was authenticated.
    obtain ⟨response, t, haccepts⟩ := haccepts
    obtain ⟨-, caller, mid, hclient, hfamily⟩ := refreshOAuthToken_ok.mp haccepts
    have hframe := ask_of_resolving kind.separate
      (m.authenticateOAuthClient_resolving ctx io input.toTokenEndpointRequest) hclient ctx
    obtain ⟨pfx', previous', _, active, last, hbearer', rfl, -, hprevious', -, -, -, hactive, -⟩ :=
      refreshOAuthFamily_ok.mp hfamily
    obtain ⟨hactive, rfl⟩ := activeOAuthGrant_ok.mp hactive
    obtain rfl : pfx' = pfx := Except.ok.inj (hbearer'.symm.trans hbearer)
    obtain rfl : previous' = previous := Except.ok.inj
      (hprevious'.symm.trans ((hframe _ id).trans ((kind.ask_withMemberships _ id).trans hprevious)))
    obtain rfl : active.1 = grant := Except.ok.inj
      (hactive.grant_read.symm.trans ((hframe _ id).trans ((kind.ask_withMemberships _ id).trans hgrant)))
    obtain rfl : active.2 = resource := Except.ok.inj
      (hactive.resource_read.symm.trans ((hframe _ id).trans ((kind.ask_withMemberships _ id).trans hresource)))
    obtain ⟨membership, hmembership, hstatus⟩ := hactive.activeMember hchecks
    exact ⟨membership, (hframe _ id).symm.trans hmembership, hstatus⟩
  · obtain ⟨response, t, haccepts⟩ := haccepts
    obtain ⟨hon, caller, mid, hclient, hfamily⟩ := refreshOAuthToken_ok.mp haccepts
    have hframe := ask_of_resolving kind.separate
      (m.authenticateOAuthClient_resolving ctx io input.toTokenEndpointRequest) hclient ctx
    obtain ⟨pfx', previous', _, active, last, hbearer', rfl, -, hprevious', hown, hlive, hexpires, hactive,
      hrest⟩ := refreshOAuthFamily_ok.mp hfamily
    obtain ⟨hactive, rfl⟩ := activeOAuthGrant_ok.mp hactive
    obtain rfl : pfx' = pfx := Except.ok.inj (hbearer'.symm.trans hbearer)
    obtain rfl : previous' = previous := Except.ok.inj (hprevious'.symm.trans ((hframe _ id).trans hprevious))
    obtain rfl : active.1 = grant := Except.ok.inj
      (hactive.grant_read.symm.trans ((hframe _ id).trans hgrant))
    obtain rfl : active.2 = resource := Except.ok.inj
      (hactive.resource_read.symm.trans ((hframe _ id).trans hresource))
    have hclient' := kind.returns_withMemberships members
      ((m.authenticateOAuthClient_resolving ctx io input.toTokenEndpointRequest).mono
        fun _ r h => (replacing_of_resolving r h).1) hclient
    have hactive' : kind.backend.ActiveGrant m (kind.withMemberships last members) ctx
        previous'.grantID caller.2 input.resource active.1 active.2 :=
      hactive.of_memberships hchecks kind.ask_withMemberships
    have hrest' := kind.returns_withMemberships members
      ((m.replaceOAuthToken_replacing ctx io input caller.1 caller.2 previous' active.1 active.2).mono
        fun _ _ => And.left) hrest
    exact ⟨response, _, refreshOAuthToken_ok.mpr ⟨hon, caller, _, hclient', refreshOAuthFamily_ok.mpr
      ⟨pfx', previous', _, active, _, hbearer', rfl, trivial,
        (kind.ask_withMemberships _ id).trans hprevious', hown, hlive, hexpires,
        activeOAuthGrant_ok.mpr ⟨hactive', rfl⟩, hrest'⟩⟩⟩

/-- **An accepted access token or refresh stands for an active member exactly when one of the grant's
scopes has a permission to check.** -/
theorem membership_checked_iff (kind : StoreKind) (m : Manager) (ctx : Context) (io : Supply)
    (s : kind.State) (grant : OAuthGrant) (resource : OAuthProtectedResource)
    (hresource : kind.backend.ask s ctx (.oauthProtectedResourceByID grant.resourceID)
      = .ok resource) :
    (∀ (resourceURI raw pfx : String) (token : OAuthAccessToken),
      bearerPrefix "cba" raw = .ok pfx →
      kind.backend.ask s ctx (.oauthAccessTokenByPrefix pfx) = .ok token →
      kind.backend.ask s ctx (.oauthGrant token.grantID) = .ok grant →
      kind.backend.Accepts (m.authenticateOAuthAccessToken ctx io resourceURI raw) s →
      ((∀ members, kind.backend.Accepts (m.authenticateOAuthAccessToken ctx io resourceURI raw)
          (kind.withMemberships s members) →
        kind.backend.ActiveMember (kind.withMemberships s members) ctx grant.workspaceID grant.userID)
        ↔ GrantChecks resource grant.scopes))
    ∧ ∀ (input : RefreshOAuthTokenInput) (pfx : String) (previous : OAuthRefreshToken),
      bearerPrefix "cbr" input.refreshToken = .ok pfx →
      kind.backend.ask s ctx (.oauthRefreshTokenByPrefix pfx) = .ok previous →
      kind.backend.ask s ctx (.oauthGrant previous.grantID) = .ok grant →
      kind.backend.Accepts (m.refreshOAuthToken ctx io input) s →
      ((∀ members, kind.backend.Accepts (m.refreshOAuthToken ctx io input)
          (kind.withMemberships s members) →
        kind.backend.ActiveMember (kind.withMemberships s members) ctx grant.workspaceID grant.userID)
        ↔ GrantChecks resource grant.scopes) :=
  ⟨fun _ _ _ _ hbearer htoken hgrant haccepts =>
      authenticate_membership_iff hbearer htoken hgrant hresource haccepts,
    fun _ _ _ hbearer hprevious hgrant haccepts =>
      refresh_membership_iff hbearer hprevious hgrant hresource haccepts⟩

/-! ## A grant of the tenant -/

/-- A grant to user 2, with the given scopes. -/
def tenantGrant (scopes : List String) : OAuthGrant :=
  { (default : OAuthGrant) with
    id := uuidv7 50, issuerID := uuidv7 10, clientRecordID := uuidv7 30, userID := uuidv7 2,
    workspaceID := uuidv7 1, resourceID := uuidv7 20, scopes := scopes, metadataHash := [1] }

def tenantCode (scopes : List String) : OAuthAuthorizationCode :=
  { (default : OAuthAuthorizationCode) with
    id := uuidv7 51, pfx := "0123456789ab", digest := [7], grantID := uuidv7 50,
    clientRecordID := uuidv7 30, redirectURI := "https://client.example.com/callback",
    resourceID := uuidv7 20, scopes := scopes, codeChallenge := "challenge", expiresAt := 2000 }

def tenantAccessToken (scopes : List String) : OAuthAccessToken :=
  { (default : OAuthAccessToken) with
    id := uuidv7 52, pfx := "0123456789ab", digest := [7], grantID := uuidv7 50,
    clientRecordID := uuidv7 30, userID := uuidv7 2, workspaceID := uuidv7 1, resourceID := uuidv7 20,
    scopes := scopes, expiresAt := 2000 }

def tenantRefreshToken (scopes : List String) : OAuthRefreshToken :=
  { (default : OAuthRefreshToken) with
    id := uuidv7 53, familyID := uuidv7 54, pfx := "0123456789ab", digest := [7],
    grantID := uuidv7 50, clientRecordID := uuidv7 30, userID := uuidv7 2, workspaceID := uuidv7 1,
    resourceID := uuidv7 20, scopes := scopes, expiresAt := 2000 }

/-- The grant is made and its code exchanged. -/
def tenantGrantCalls (scopes : List String) : List Memory.Call :=
  [tenantCall (.oauth (.createOAuthGrantAndCode (tenantGrant scopes) (tenantCode scopes))) 11,
    tenantCall (.oauth (.consumeOAuthAuthorizationCode (uuidv7 51) 12 (tenantAccessToken scopes)
      (some (tenantRefreshToken scopes)))) 12]

/-- The bearer text of a token with that prefix. -/
def tenantBearer (marker : String) : String :=
  marker ++ "_0123456789ab_AAAAAAAAAAAAAAAAAAAAAAAAAAAAAAAAAAAAAAAAAAA"

/-- A refresh of the tenant's client. -/
def tenantRefresh : RefreshOAuthTokenInput where
  issuer := "https://auth.example.com"
  clientID := "client"
  refreshToken := tenantBearer "cbr"
  resource := ""

/-! ## A token of no member -/

/-- User 2 loses the membership, and is granted `openid` after that. -/
def outsiderStore : Memory.Store :=
  Memory.Store.after (tenantCalls ++ tenantCall (.workspace (.removeMembership (uuidv7 1) (uuidv7 2) 6)) 6
    :: tenantGrantCalls ["openid", "offline_access"])

theorem authenticate_outsider : Memory.backend.Accepts
    (tenantManager.authenticateOAuthAccessToken {} (tenantSupply 100) "" (tenantBearer "cba"))
    outsiderStore := ⟨_, _, Backend.returns_iff.mpr rfl⟩

theorem refresh_outsider : Memory.backend.Accepts
    (tenantManager.refreshOAuthToken {} (tenantSupply 100) tenantRefresh) outsiderStore :=
  ⟨_, _, Backend.returns_iff.mpr rfl⟩

/-- The address row of a user of the tenant. -/
def tenantEmailRow (user : Nat) (address : String) : Postgres.UserEmailRow :=
  { (default : Postgres.UserEmailRow) with
    userID := uuidv7 user, address := address, isPrimary := true }

/-- The tenant in the database, with a grant of the given scopes to user 2. -/
def tenantDatabase (scopes : List String) : Postgres.Database :=
  { Postgres.Database.new with
    users := ((∅ : FMap UUID Postgres.UserRow).set (uuidv7 1) default).set (uuidv7 2) default
    userEmails := ((∅ : FMap UUID Postgres.UserEmailRow).set (uuidv7 41)
      (tenantEmailRow 1 "one@example.com")).set (uuidv7 42) (tenantEmailRow 2 "two@example.com")
    workspaces := (∅ : FMap UUID Workspace).set (uuidv7 1) { (default : Workspace) with id := uuidv7 1 }
    memberships := ((∅ : FMap (UUID × UUID) Membership).set (uuidv7 1, uuidv7 1)
      (tenantMembership 1 .admin .active)).set (uuidv7 1, uuidv7 2) (tenantMembership 2 .admin .active)
    oauthIssuers := (∅ : FMap UUID OAuthIssuer).set (uuidv7 10) tenantIssuer
    oauthResources := (∅ : FMap UUID OAuthProtectedResource).set (uuidv7 20) tenantResource
    oauthClients := (∅ : FMap UUID OAuthClient).set (uuidv7 30) tenantClient
    oauthGrants := (∅ : FMap UUID Postgres.GrantRow).set (uuidv7 50)
      (Postgres.Database.grantRow (tenantGrant scopes))
    oauthAccessTokens := (∅ : FMap UUID Postgres.AccessTokenRow).set (uuidv7 52)
      (Postgres.Database.accessTokenRow (tenantAccessToken scopes))
    oauthRefreshTokens := (∅ : FMap UUID Postgres.RefreshTokenRow).set (uuidv7 53) {
      familyID := uuidv7 54, pfx := "0123456789ab", grantID := uuidv7 50, usedAt := none,
      revokedAt := none, expiresAt := 2000, data := tenantRefreshToken scopes } }

/-- The commit of an administrator. -/
def tenantCommit (n : Nat) : Commit where
  audit := { (Memory.commitOf (uuidv7 n) 1000).audit with outcome := .succeeded }

/-- User 2 is suspended in the database. -/
def suspension : Outcome Unit × Postgres.Database :=
  Postgres.mutate {} (tenantCommit 90)
    (Postgres.upsertMembership (tenantMembership 2 .admin .suspended) 1000)
    (tenantDatabase ["openid", "offline_access"])

/-- The tokens of the outsider, by the general account. -/
theorem outsider_not_checked :
    ¬ (∀ members, Memory.backend.Accepts (tenantManager.authenticateOAuthAccessToken {}
          (tenantSupply 100) "" (tenantBearer "cba")) (outsiderStore.withMemberships members) →
        Memory.backend.ActiveMember (outsiderStore.withMemberships members) {} (uuidv7 1) (uuidv7 2))
    ∧ ¬ (∀ members, Memory.backend.Accepts (tenantManager.refreshOAuthToken {} (tenantSupply 100)
          tenantRefresh) (outsiderStore.withMemberships members) →
        Memory.backend.ActiveMember (outsiderStore.withMemberships members) {} (uuidv7 1)
          (uuidv7 2)) := by
  have h := membership_checked_iff .memory tenantManager {} (tenantSupply 100) outsiderStore
    (tenantGrant ["openid", "offline_access"]) tenantResource rfl
  have hnone : ¬ GrantChecks tenantResource ["openid", "offline_access"] := by
    rintro ⟨scope, hscope, hreserved, -⟩
    revert hreserved
    revert scope
    decide
  exact ⟨fun hall => hnone ((h.1 _ _ _ _ rfl rfl rfl authenticate_outsider).mp hall),
    fun hall => hnone ((h.2 _ _ _ rfl rfl rfl refresh_outsider).mp hall)⟩

/-- **Tokens of no member**: one who never was when the grant was made, in memory, and one who has
been suspended since, in the database. -/
theorem tokens_of_no_member :
    (Memory.backend.Accepts (tenantManager.authenticateOAuthAccessToken {} (tenantSupply 100) ""
        (tenantBearer "cba")) outsiderStore
      ∧ Memory.backend.Accepts (tenantManager.refreshOAuthToken {} (tenantSupply 100) tenantRefresh)
        outsiderStore
      ∧ ¬ Memory.backend.ActiveMember outsiderStore {} (uuidv7 1) (uuidv7 2))
    ∧ suspension.1 = .ok ()
    ∧ Postgres.backend.Accepts (tenantManager.authenticateOAuthAccessToken {} (tenantSupply 100) ""
        (tenantBearer "cba")) suspension.2
    ∧ Postgres.backend.Accepts (tenantManager.refreshOAuthToken {} (tenantSupply 100) tenantRefresh)
        suspension.2
    ∧ ¬ Postgres.backend.ActiveMember suspension.2 {} (uuidv7 1) (uuidv7 2) := by
  refine ⟨⟨authenticate_outsider, refresh_outsider, ?_⟩, rfl, ⟨_, _, Backend.returns_iff.mpr rfl⟩,
    ⟨_, _, Backend.returns_iff.mpr rfl⟩, ?_⟩
  · rintro ⟨membership, hmembership, -⟩
    cases hmembership
  · rintro ⟨membership, hmembership, hactive⟩
    cases hmembership
    cases hactive

end Stores

end Credbound
