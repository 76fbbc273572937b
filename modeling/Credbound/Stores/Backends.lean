import Credbound.Manager.OAuthClients
import Credbound.Memory.Calls
import Credbound.Postgres.Accounts

/-!
# Stores/Backends — the two stores behind the interface of the authorization server

The memory store answers a request by the method of the same name, under its lock.  The PostgreSQL
store answers a read by one query and an update by one transaction; transactions that overlap are
the subject of `Postgres/Overlap`, and here each runs by itself.
-/

namespace Credbound

open Manager (Query Update Backend)

/-- An outcome as the caller sees it.  No method of the interface panics, so the last case is never
met. -/
def Outcome.toExcept {α : Type} : Outcome α → Except Err α
  | .ok value => .ok value
  | .err e => .error e
  | .panic => .error (.external "panic")

theorem Outcome.toExcept_eq_ok {α : Type} {o : Outcome α} {value : α} :
    o.toExcept = .ok value ↔ o = .ok value := by
  cases o <;> simp [toExcept]

/-! ## Memory -/

namespace Memory

/-- The addresses of a user, newest first: every page of `Emails`. -/
def Store.userEmails (s : Store) (userID : UUID) : List EmailAddress :=
  sortNewest (fun v => (v.createdAt, v.id)) (s.emailAddresses.values.filter fun v => v.userID = userID)

/-- The method an update calls. -/
def updateOp : Update → Op
  | .appendAudit => .workspace .appendAudit
  | .upsertOAuthCIMDClient client => .oauth (.upsertOAuthCIMDClient client)
  | .createOAuthGrantAndCode grant code => .oauth (.createOAuthGrantAndCode grant code)
  | .consumeOAuthAuthorizationCode codeID usedAt access refresh =>
      .oauth (.consumeOAuthAuthorizationCode codeID usedAt access refresh)
  | .createOAuthClientAccessToken value => .oauth (.createOAuthClientAccessToken value)
  | .revokeOAuthClientAccessToken id at' => .oauth (.revokeOAuthClientAccessToken id at')
  | .rotateOAuthRefreshToken previousID usedAt access refresh =>
      .oauth (.rotateOAuthRefreshToken previousID usedAt access refresh)
  | .revokeOAuthAccessToken id at' => .oauth (.revokeOAuthAccessToken id at')
  | .revokeOAuthRefreshFamily familyID at' => .oauth (.revokeOAuthRefreshFamily familyID at')
  | .revokeOAuthGrant grantID at' => .oauth (.revokeOAuthGrant grantID at')

/-- An update as a call of the store. -/
def updateCall (ctx : Context) (u : Update) (commit : Commit) : Call := ⟨.op (updateOp u), commit, ctx⟩

/-- What a read of the interface answers. -/
def Store.ask (s : Store) (ctx : Context) : {α : Type} → Query α → Except Err α
  | _, .userByID id => (s.answer ctx (.userByID id)).toExcept
  | _, .userEmails userID => (guarded ctx (.ok (s.userEmails userID))).toExcept
  | _, .workspaceByID workspaceID => (s.answer ctx (.workspaceByID workspaceID)).toExcept
  | _, .membership workspaceID userID => (s.answer ctx (.membership workspaceID userID)).toExcept
  | _, .oauthIssuerByID id => (s.answer ctx (.oauthIssuerByID id)).toExcept
  | _, .oauthIssuerByURL issuer => (s.answer ctx (.oauthIssuerByURL issuer)).toExcept
  | _, .oauthProtectedResourceByID id =>
      (s.answer ctx (.oauthProtectedResourceByID id)).toExcept
  | _, .oauthProtectedResourceByURI resource =>
      (s.answer ctx (.oauthProtectedResourceByURI resource)).toExcept
  | _, .oauthClientByID id => (s.answer ctx (.oauthClientByID id)).toExcept
  | _, .oauthClientByClientID issuerID clientID =>
      (s.answer ctx (.oauthClientByClientID issuerID clientID)).toExcept
  | _, .oauthGrant id => (s.answer ctx (.oauthGrant id)).toExcept
  | _, .oauthAuthorizationCodeByPrefix pfx =>
      (s.answer ctx (.oauthAuthorizationCodeByPrefix pfx)).toExcept
  | _, .oauthAccessTokenByPrefix pfx => (s.answer ctx (.oauthAccessTokenByPrefix pfx)).toExcept
  | _, .oauthClientAccessTokenByPrefix pfx =>
      (s.answer ctx (.oauthClientAccessTokenByPrefix pfx)).toExcept
  | _, .oauthRefreshTokenByPrefix pfx => (s.answer ctx (.oauthRefreshTokenByPrefix pfx)).toExcept

/-- The memory store behind the interface. -/
def backend : Backend Store where
  ask s ctx _ q := s.ask ctx q
  apply s ctx u commit :=
    (((updateCall ctx u commit).run s).1.toExcept, (updateCall ctx u commit).next s)

/-- The calls of the store that a request amounts to. -/
def requestCalls : ⦃β : Type⦄ → Manager.Request β → List Call
  | _, .query _ _ => []
  | _, .update ctx u commit => [updateCall ctx u commit]

theorem backend_handler_run ⦃β : Type⦄ (r : Manager.Request β) (s : Store) :
    (backend.handler r s).2 = Run.run Call.next s (requestCalls r) := by
  cases r with
  | query ctx q => rfl
  | update ctx u commit => rfl

/-- No read but that of a client looks at what an idle call disturbs. -/
theorem Store.SameCore.ask_eq {s t : Store} (h : s.SameCore t) (ctx : Context) {α : Type}
    (q : Query α) (hq : ¬ q.OfClient) : t.ask ctx q = s.ask ctx q := by
  obtain ⟨_, rfl⟩ := h
  cases q with
  | oauthClientByClientID => exact absurd trivial hq
  | _ => rfl

/-- The memory store keeps client records apart. -/
theorem backend_separate : backend.Separate := by
  intro s β r hr ctx α q hq
  match r with
  | .query _ _ => rfl
  | .update ctx' u commit =>
    refine (updateCall ctx' u commit).next_preserves (I := fun x => x.ask ctx q = s.ask ctx q) s ?_ rfl
      fun hcore _ h => (hcore.ask_eq ctx q hq).trans h
    intro m p hm _ _ hp
    obtain ⟨⟩ := hm
    rw [← hp]
    cases u with
    | appendAudit => rfl
    | upsertOAuthCIMDClient client =>
      cases q with
      | oauthClientByID => exact absurd trivial hq
      | oauthClientByClientID => exact absurd trivial hq
      | _ => rfl
    | _ => exact absurd hr id

end Memory

/-! ## PostgreSQL -/

namespace Postgres

/-- A query with a live context. -/
def querying {α : Type} (ctx : Context) (x : Except Err α) : Except Err α :=
  match ctx.err with
  | some e => .error e
  | none => x

/-- The row a query finds by something other than its key. -/
def foundRow {V : Type} : Option (UUID × V) → Except Err V
  | some row => .ok row.2
  | none => .error .notFound

/-- `GetUserByID`. -/
def Database.userByID (db : Database) (id : UUID) : Except Err User := do
  require (id ≠ 0) .notFound
  match db.getUserByID id with
  | some user => return user
  | none => .error .notFound

/-- `GetMembership`. -/
def Database.membershipRow (db : Database) (workspaceID userID : UUID) : Except Err Membership := do
  require (workspaceID ≠ 0 ∧ userID ≠ 0) .notFound
  find db.memberships (workspaceID, userID) .notFound

/-- The addresses of a user, newest first: every page of `Emails`. -/
def Database.userEmailRows (db : Database) (userID : UUID) : List EmailAddress :=
  (((FMap.sorted (db.userEmails.keysWhere fun _ row => Matches userID row.userID)).map fun id =>
    Database.emailFromRow id (db.userEmails.getI id)).insertionSort fun a b =>
      b.createdAt < a.createdAt ∨ a.createdAt = b.createdAt ∧ b.id ≤ a.id)

/-- The method an update calls, inside its transaction. -/
def updateMethod : Update → Database → Except Err Database
  | .appendAudit => fun db => .ok db
  | .upsertOAuthCIMDClient client => upsertOAuthCIMDClient client
  | .createOAuthGrantAndCode grant code => createOAuthGrantAndCode grant code
  | .consumeOAuthAuthorizationCode codeID usedAt access refresh =>
      consumeOAuthAuthorizationCode codeID usedAt access refresh
  | .createOAuthClientAccessToken value => createOAuthClientAccessToken value
  | .revokeOAuthClientAccessToken id at' => revokeOAuthClientAccessToken id at'
  | .rotateOAuthRefreshToken previousID usedAt access refresh =>
      rotateOAuthRefreshToken previousID usedAt access refresh
  | .revokeOAuthAccessToken id at' => revokeOAuthAccessToken id at'
  | .revokeOAuthRefreshFamily familyID at' => revokeOAuthRefreshFamily familyID at'
  | .revokeOAuthGrant grantID at' => revokeOAuthGrant grantID at'

/-- The transaction of an update: `AppendAudit` is a method of the account store. -/
def transact (ctx : Context) (commit : Commit) : Update → Database → Outcome Unit × Database
  | .appendAudit => mutate ctx commit (updateMethod .appendAudit)
  | u => oauthMutate ctx commit (updateMethod u)

/-- What a read of the interface answers. -/
def Database.ask (db : Database) (ctx : Context) : {α : Type} → Query α → Except Err α
  | _, .userByID id => querying ctx (db.userByID id)
  | _, .userEmails userID => querying ctx (.ok (db.userEmailRows userID))
  | _, .workspaceByID workspaceID => querying ctx (select db.workspaces workspaceID)
  | _, .membership workspaceID userID => querying ctx (db.membershipRow workspaceID userID)
  | _, .oauthIssuerByID id => querying ctx (select db.oauthIssuers id)
  | _, .oauthIssuerByURL issuer => querying ctx
      (foundRow (db.oauthIssuers.find? fun _ value => value.issuer = issuer))
  | _, .oauthProtectedResourceByID id => querying ctx (select db.oauthResources id)
  | _, .oauthProtectedResourceByURI resource => querying ctx
      (foundRow (db.oauthResources.find? fun _ value => value.resource = resource))
  | _, .oauthClientByID id => querying ctx (select db.oauthClients id)
  | _, .oauthClientByClientID issuerID clientID => querying ctx
      (foundRow (db.clientWithID issuerID clientID))
  | _, .oauthGrant id => querying ctx ((select db.oauthGrants id).map GrantRow.data)
  | _, .oauthAuthorizationCodeByPrefix pfx => querying ctx
      ((foundRow (db.oauthAuthorizationCodes.find? fun _ row => row.pfx = pfx)).map CodeRow.data)
  | _, .oauthAccessTokenByPrefix pfx => querying ctx
      ((foundRow (db.oauthAccessTokens.find? fun _ row => row.pfx = pfx)).map AccessTokenRow.data)
  | _, .oauthClientAccessTokenByPrefix pfx => querying ctx
      (foundRow (db.oauthClientAccessTokens.find? fun _ token => token.pfx = pfx))
  | _, .oauthRefreshTokenByPrefix pfx => querying ctx
      ((foundRow (db.oauthRefreshTokens.find? fun _ row => row.pfx = pfx)).map
        Database.refreshTokenFromRow)

/-- The PostgreSQL store behind the interface. -/
def backend : Backend Database where
  ask db ctx _ q := db.ask ctx q
  apply db ctx u commit := ((transact ctx commit u db).1.toExcept, (transact ctx commit u db).2)

/-- No read looks at the log. -/
theorem Database.SameTables.ask_eq {db db' : Database} (h : db.SameTables db') (ctx : Context)
    {α : Type} (q : Query α) : db'.ask ctx q = db.ask ctx q := by
  obtain ⟨_, _, _, _, rfl⟩ := h
  cases q <;> rfl

theorem Database.ask_oauthClients (db : Database) (clients : FMap UUID OAuthClient) (ctx : Context)
    {α : Type} (q : Query α) (hq : ¬ q.OfClient) :
    Database.ask { db with oauthClients := clients } ctx q = db.ask ctx q := by
  cases q with
  | oauthClientByID => exact absurd trivial hq
  | oauthClientByClientID => exact absurd trivial hq
  | _ => rfl

/-- An update of the authorization server changes nothing, or what its method writes and the
log. -/
theorem transact_cases (ctx : Context) (commit : Commit) (u : Update) (db : Database) :
    (∃ e, transact ctx commit u db = (.err e, db))
      ∨ ∃ begun written db', db.SameTables begun ∧ updateMethod u begun = .ok written
        ∧ written.SameTables db' ∧ transact ctx commit u db = (.ok (), db') := by
  cases u with
  | appendAudit => exact mutate_cases ctx commit _ db
  | _ =>
    obtain ⟨e, h⟩ | ⟨written, db', hfn, hlog, h⟩ := oauthMutate_cases ctx commit (updateMethod _) db
    · exact .inl ⟨e, h⟩
    · exact .inr ⟨db, written, db', .refl db, hfn, hlog, h⟩

/-- Upserting a client writes the client table and no other. -/
theorem upsertOAuthCIMDClient_eq {client : OAuthClient} {db written : Database}
    (h : upsertOAuthCIMDClient client db = .ok written) :
    ∃ id, written = { db with oauthClients := db.oauthClients.set id client } := by
  simp only [upsertOAuthCIMDClient, constraint, check_bind, require_eq_ok] at h
  obtain ⟨-, -, h⟩ := h
  split at h
  · simp only [check_pure] at h
    exact ⟨_, h.symm⟩
  · simp only [check_bind, require_eq_ok, check_pure] at h
    obtain ⟨-, -, rfl⟩ := h
    exact ⟨_, rfl⟩

/-- The PostgreSQL store keeps client records apart. -/
theorem backend_separate : backend.Separate := by
  intro db β r hr ctx α q hq
  match r with
  | .query _ _ => rfl
  | .update ctx' u commit =>
    show (transact ctx' commit u db).2.ask ctx q = db.ask ctx q
    obtain ⟨e, h⟩ | ⟨begun, written, db', hbegun, hwritten, hlog, h⟩ := transact_cases ctx' commit u db
    · rw [h]
    · rw [h, hlog.ask_eq ctx q, ← hbegun.ask_eq ctx q]
      cases u with
      | appendAudit =>
        obtain ⟨⟩ := hwritten
        rfl
      | upsertOAuthCIMDClient client =>
        obtain ⟨id, rfl⟩ := upsertOAuthCIMDClient_eq hwritten
        exact begun.ask_oauthClients _ ctx q hq
      | _ => exact absurd hr id

end Postgres

/-! ## Either store -/

/-- The states of a store of the given kind. -/
def StoreKind.State : StoreKind → Type
  | .memory => Memory.Store
  | .postgresql => Postgres.Database

/-- The store of the given kind behind the interface. -/
def StoreKind.backend : (kind : StoreKind) → Backend kind.State
  | .memory => Memory.backend
  | .postgresql => Postgres.backend

theorem StoreKind.separate : (kind : StoreKind) → kind.backend.Separate
  | .memory => Memory.backend_separate
  | .postgresql => Postgres.backend_separate

end Credbound
