import Credbound.Postgres.Commit

/-!
# Postgres/OAuth — grants, codes and tokens in the PostgreSQL store

The statements of `sqlstore/postgresql/oauth.go` over the tables of the authorization server.  Each
method is the function `oauthMutate` runs inside its transaction.  A loop that selects the rows of
one grant and updates each by its primary key is one `FMap.update`: the rows are distinct and no
iteration reads what another wrote.
-/

namespace Credbound.Postgres

/-- `SELECT … WHERE id = $1` for one row. -/
def select {V : Type} (m : FMap UUID V) (id : UUID) : Except Err V := do
  require (id ≠ 0) .notFound
  find m id .notFound

namespace Database

/-! ## Inserts -/

/-- The row of a grant: its columns and its JSON. -/
def grantRow (grant : OAuthGrant) : GrantRow where
  clientRecordID := grant.clientRecordID
  resourceID := grant.resourceID
  userID := grant.userID
  workspaceID := grant.workspaceID
  createdAt := timestamptz grant.createdAt
  data := grant

/-- `OAuthInsertGrant`. -/
def insertOAuthGrant (grant : OAuthGrant) (db : Database) : Except Err Database := do
  constraint (validUUIDv7 grant.id ∧ grant.id ∉ db.oauthGrants)
  constraint (grant.clientRecordID ∈ db.oauthClients ∧ grant.resourceID ∈ db.oauthResources)
  constraint (grant.userID ∈ db.users ∧ grant.workspaceID ∈ db.workspaces)
  return { db with oauthGrants := db.oauthGrants.set grant.id (grantRow grant) }

/-- `OAuthInsertAuthorizationCode`. -/
def insertOAuthAuthorizationCode (code : OAuthAuthorizationCode) (db : Database) :
    Except Err Database := do
  constraint (validUUIDv7 code.id ∧ code.id ∉ db.oauthAuthorizationCodes)
  constraint (¬ db.oauthAuthorizationCodes.Any fun _ row => row.pfx = code.pfx)
  constraint (code.grantID ∈ db.oauthGrants)
  let row : CodeRow := {
    pfx := code.pfx
    grantID := code.grantID
    usedAt := code.usedAt.map timestamptz
    expiresAt := timestamptz code.expiresAt
    data := code }
  return { db with oauthAuthorizationCodes := db.oauthAuthorizationCodes.set code.id row }

/-- The row of an access token. -/
def accessTokenRow (token : OAuthAccessToken) : AccessTokenRow where
  pfx := token.pfx
  grantID := token.grantID
  data := token

/-- `insertOAuthAccessToken`. -/
def insertOAuthAccessToken (token : OAuthAccessToken) (db : Database) : Except Err Database := do
  constraint (validUUIDv7 token.id ∧ token.id ∉ db.oauthAccessTokens)
  constraint (¬ db.oauthAccessTokens.Any fun _ row => row.pfx = token.pfx)
  constraint (token.grantID ∈ db.oauthGrants)
  return { db with oauthAccessTokens := db.oauthAccessTokens.set token.id (accessTokenRow token) }

/-- `insertOAuthRefreshToken`. -/
def insertOAuthRefreshToken (token : OAuthRefreshToken) (db : Database) : Except Err Database := do
  constraint (validUUIDv7 token.id ∧ token.id ∉ db.oauthRefreshTokens ∧ validUUIDv7 token.familyID)
  constraint (¬ db.oauthRefreshTokens.Any fun _ row => row.pfx = token.pfx)
  constraint (token.grantID ∈ db.oauthGrants)
  let row : RefreshTokenRow := {
    familyID := token.familyID
    pfx := token.pfx
    grantID := token.grantID
    usedAt := token.usedAt.map timestamptz
    revokedAt := token.revokedAt.map timestamptz
    expiresAt := timestamptz token.expiresAt
    data := token }
  return { db with oauthRefreshTokens := db.oauthRefreshTokens.set token.id row }

/-! ## Revocation -/

/-- A grant's JSON as `revokeOAuthGrant` rewrites it. -/
def stampGrant (at' : Time) (row : GrantRow) : GrantRow :=
  { row with data := { row.data with revokedAt := some at', updatedAt := at' } }

def stampAccessToken (at' : Time) (row : AccessTokenRow) : AccessTokenRow :=
  { row with data := { row.data with revokedAt := some at' } }

/-- `OAuthRevokeRefreshToken` writes the column and the JSON. -/
def stampRefreshToken (at' : Time) (row : RefreshTokenRow) : RefreshTokenRow :=
  { row with
    revokedAt := some (timestamptz at')
    data := { row.data with revokedAt := some at' } }

/-- `revokeOAuthAccessTokens`. -/
def revokeOAuthAccessTokens (grantID : UUID) (at' : Time) (db : Database) : Database :=
  let tokens := db.oauthAccessTokens.update
    (fun _ row => Matches grantID row.grantID ∧ row.data.revokedAt = none) (stampAccessToken at')
  { db with oauthAccessTokens := tokens }

/-- The refresh tokens of a grant, in `revokeOAuthGrant`. -/
def revokeOAuthRefreshTokens (grantID : UUID) (at' : Time) (db : Database) : Database :=
  let tokens := db.oauthRefreshTokens.update
    (fun _ row => Matches grantID row.grantID ∧ row.revokedAt = none) (stampRefreshToken at')
  { db with oauthRefreshTokens := tokens }

/-- `revokeOAuthGrant`: the grant is stamped whether it was revoked before or not. -/
def revokeOAuthGrant (id : UUID) (at' : Time) (db : Database) : Except Err Database := do
  let row ← select db.oauthGrants id
  let db := { db with oauthGrants := db.oauthGrants.set id (stampGrant at' row) }
  return (db.revokeOAuthAccessTokens id at').revokeOAuthRefreshTokens id at'

/-- `revokeOAuthGrantIDs`. -/
def revokeOAuthGrantIDs (ids : List UUID) (at' : Time) (db : Database) : Except Err Database :=
  ids.foldlM (fun db id => db.revokeOAuthGrant id at') db

/-- What revoking the grants of a list does in the end: each row is written at most once. -/
def revokedGrants (ids : List UUID) (at' : Time) (db : Database) : Database :=
  { db with
    oauthGrants := db.oauthGrants.update (fun id _ => id ∈ ids) (stampGrant at')
    oauthAccessTokens := db.oauthAccessTokens.update
      (fun _ row => row.grantID ∈ ids ∧ row.data.revokedAt = none) (stampAccessToken at')
    oauthRefreshTokens := db.oauthRefreshTokens.update
      (fun _ row => row.grantID ∈ ids ∧ row.revokedAt = none) (stampRefreshToken at') }

section

variable {db : Database} {id : UUID} {ids : List UUID} {at' : Time}

theorem revokeOAuthGrant_eq (hid : id ≠ 0) (hmem : id ∈ db.oauthGrants) :
    db.revokeOAuthGrant id at' = .ok (db.revokedGrants [id] at') := by
  obtain ⟨row, hrow⟩ := FMap.mem_iff_get?.mp hmem
  have hgrants : db.oauthGrants.set id (stampGrant at' row)
      = db.oauthGrants.update (fun id' _ => id' ∈ [id]) (stampGrant at') := by
    refine FMap.ext_get? fun id' => ?_
    simp only [FMap.get?_set, FMap.get?_update, List.mem_singleton]
    by_cases h : id' = id
    · rw [if_pos h, h, hrow, Option.map_some, if_pos rfl]
    · simp only [if_neg h, Option.map_id']
  have hmatches : ∀ other : UUID, Matches id other ↔ other ∈ [id] := fun other => by
    rw [List.mem_singleton, Matches, and_iff_left hid]
  unfold revokeOAuthGrant select revokeOAuthAccessTokens revokeOAuthRefreshTokens revokedGrants
  rw [require_pos hid, ← hgrants]
  simp only [hmatches]
  show (find db.oauthGrants id .notFound >>= _) = _
  rw [find_of_some hrow]
  rfl

/-- Revoking one grant and then others is revoking them all. -/
theorem revokedGrants_cons :
    (db.revokedGrants [id] at').revokedGrants ids at' = db.revokedGrants (id :: ids) at' := by
  have hgrants : (db.oauthGrants.update (fun id' _ => id' ∈ [id]) (stampGrant at')).update
      (fun id' _ => id' ∈ ids) (stampGrant at')
      = db.oauthGrants.update (fun id' _ => id' ∈ id :: ids) (stampGrant at') := by
    refine FMap.update_update _ (fun _ _ _ _ => rfl) fun id' _ => ?_
    rw [List.mem_cons, List.mem_singleton]
  have haccess : (db.oauthAccessTokens.update
      (fun _ row => row.grantID ∈ [id] ∧ row.data.revokedAt = none) (stampAccessToken at')).update
      (fun _ row => row.grantID ∈ ids ∧ row.data.revokedAt = none) (stampAccessToken at')
      = db.oauthAccessTokens.update
        (fun _ row => row.grantID ∈ id :: ids ∧ row.data.revokedAt = none) (stampAccessToken at') := by
    refine FMap.update_update _ (fun _ _ _ h => absurd h.2 (Option.some_ne_none _)) fun _ row => ?_
    rw [List.mem_cons, List.mem_singleton, or_and_right]
  have hrefresh : (db.oauthRefreshTokens.update
      (fun _ row => row.grantID ∈ [id] ∧ row.revokedAt = none) (stampRefreshToken at')).update
      (fun _ row => row.grantID ∈ ids ∧ row.revokedAt = none) (stampRefreshToken at')
      = db.oauthRefreshTokens.update
        (fun _ row => row.grantID ∈ id :: ids ∧ row.revokedAt = none) (stampRefreshToken at') := by
    refine FMap.update_update _ (fun _ _ _ h => absurd h.2 (Option.some_ne_none _)) fun _ row => ?_
    rw [List.mem_cons, List.mem_singleton, or_and_right]
  unfold revokedGrants
  rw [← hgrants, ← haccess, ← hrefresh]

/-- **The loop over the grants of a SELECT.** -/
theorem revokeOAuthGrantIDs_eq (h : ∀ id ∈ ids, id ≠ 0 ∧ id ∈ db.oauthGrants) :
    db.revokeOAuthGrantIDs ids at' = .ok (db.revokedGrants ids at') := by
  induction ids generalizing db with
  | nil =>
    have hnone : db.revokedGrants [] at' = db := by
      rw [revokedGrants, FMap.update_eq_self, FMap.update_eq_self, FMap.update_eq_self]
      · exact fun _ _ _ h => absurd h.1 List.not_mem_nil
      · exact fun _ _ _ h => absurd h.1 List.not_mem_nil
      · exact fun _ _ _ h => absurd h List.not_mem_nil
    rw [hnone]
    rfl
  | cons id ids ih =>
    obtain ⟨⟨hid, hmem⟩, hrest⟩ := List.forall_mem_cons.mp h
    have hstep : db.revokeOAuthGrantIDs (id :: ids) at'
        = (db.revokeOAuthGrant id at' >>= fun db => db.revokeOAuthGrantIDs ids at') := List.foldlM_cons
    rw [hstep, revokeOAuthGrant_eq hid hmem]
    refine (ih fun id' hid' => ⟨(hrest id' hid').1, ?_⟩).trans (congrArg _ revokedGrants_cons)
    obtain ⟨row, hrow⟩ := FMap.mem_iff_get?.mp (hrest id' hid').2
    exact FMap.mem_iff_get?.mpr ⟨_, (FMap.get?_update _ _ _ id').trans (congrArg _ hrow)⟩

end

/-- The identifiers of the grants whose row qualifies, as a SELECT lists them. -/
def oauthGrantIDs (db : Database) (p : GrantRow → Prop) [DecidablePred p] : List UUID :=
  FMap.sorted (db.oauthGrants.keysWhere fun _ row => p row)

/-- `revokeOAuthGrantsByUser`. -/
def revokeOAuthGrantsByUser (userID : UUID) (at' : Time) (db : Database) : Except Err Database :=
  db.revokeOAuthGrantIDs (db.oauthGrantIDs fun row => Matches userID row.userID) at'

/-- Every SELECT of grants is revoked in full. -/
theorem revokeOAuthGrantIDs_select {db : Database} (hkeys : db.oauthGrants.All fun id _ => id ≠ 0)
    (p : GrantRow → Prop) [DecidablePred p] (at' : Time) :
    db.revokeOAuthGrantIDs (db.oauthGrantIDs p) at' = .ok (db.revokedGrants (db.oauthGrantIDs p) at') := by
  refine revokeOAuthGrantIDs_eq fun id hid => ?_
  obtain ⟨grant, hgrant, -⟩ := FMap.mem_keysWhere.mp (FMap.mem_sorted.mp hid)
  exact ⟨hkeys _ _ hgrant, FMap.mem_of_get? hgrant⟩

/-- `revokeOAuthGrantsByClient`. -/
def revokeOAuthGrantsByClient (clientRecordID : UUID) (at' : Time) (db : Database) :
    Except Err Database :=
  db.revokeOAuthGrantIDs (db.oauthGrantIDs fun row => Matches clientRecordID row.clientRecordID) at'

/-- `revokeOAuthGrantsByResource`. -/
def revokeOAuthGrantsByResource (resourceID : UUID) (at' : Time) (db : Database) :
    Except Err Database :=
  db.revokeOAuthGrantIDs (db.oauthGrantIDs fun row => Matches resourceID row.resourceID) at'

/-- `revokeOAuthGrantsByIssuer`: the issuer is in the JSON only, and compared there. -/
def revokeOAuthGrantsByIssuer (issuerID : UUID) (at' : Time) (db : Database) :
    Except Err Database :=
  db.revokeOAuthGrantIDs (db.oauthGrantIDs fun row => row.data.issuerID = issuerID) at'

end Database

/-! ## Methods -/

open Database

/-- `SetOAuthIssuerDisabled`. -/
def setOAuthIssuerDisabled (id : UUID) (disabled : Bool) (at' : Time) (db : Database) :
    Except Err Database := do
  let value ← select db.oauthIssuers id
  let value := { value with disabledAt := if disabled then some at' else none, updatedAt := at' }
  let db := { db with oauthIssuers := db.oauthIssuers.set id value }
  if disabled then db.revokeOAuthGrantsByIssuer id at' else return db

/-- `SetOAuthProtectedResourceDisabled`. -/
def setOAuthProtectedResourceDisabled (id : UUID) (disabled : Bool) (at' : Time) (db : Database) :
    Except Err Database := do
  let value ← select db.oauthResources id
  let value := { value with disabledAt := if disabled then some at' else none, updatedAt := at' }
  let db := { db with oauthResources := db.oauthResources.set id value }
  if disabled then db.revokeOAuthGrantsByResource id at' else return db

/-- `SetOAuthClientDisabled`. -/
def setOAuthClientDisabled (id : UUID) (disabled : Bool) (at' : Time) (db : Database) :
    Except Err Database := do
  let value ← select db.oauthClients id
  let value := { value with disabledAt := if disabled then some at' else none, updatedAt := at' }
  let db := { db with oauthClients := db.oauthClients.set id value }
  if disabled then db.revokeOAuthGrantsByClient id at' else return db

/-- The client of an issuer with an OAuth `client_id`, which the schema allows one of. -/
def Database.clientWithID (db : Database) (issuerID : UUID) (clientID : String) :
    Option (UUID × OAuthClient) :=
  db.oauthClients.find? fun _ client => Matches issuerID client.issuerID ∧ client.clientID = clientID

/-- `UpsertOAuthCIMDClient`: a client that is there keeps its row, and gets the new JSON. -/
def upsertOAuthCIMDClient (value : OAuthClient) (db : Database) : Except Err Database := do
  constraint (validUUIDv7 value.id)
  match db.clientWithID value.issuerID value.clientID with
  | some row => return { db with oauthClients := db.oauthClients.set row.1 value }
  | none => do
    constraint (value.id ∉ db.oauthClients ∧ value.issuerID ∈ db.oauthIssuers)
    return { db with oauthClients := db.oauthClients.set value.id value }

/-- `RotateOAuthClientCredentials`: a nil argument leaves its field. -/
def rotateOAuthClientCredentials (id : UUID) (secretDigest jwks : Option Bytes)
    (metadataHash : Bytes) (at' : Time) (db : Database) : Except Err Database := do
  let value ← select db.oauthClients id
  let value := { value with
    secretDigest := secretDigest.getD value.secretDigest
    jwks := jwks.getD value.jwks
    metadataHash := if jwks.isSome then metadataHash else value.metadataHash
    updatedAt := at' }
  return { db with oauthClients := db.oauthClients.set id value }

/-- `CreateOAuthGrantAndCode`. -/
def createOAuthGrantAndCode (grant : OAuthGrant) (code : OAuthAuthorizationCode) (db : Database) :
    Except Err Database := do
  let db ← db.insertOAuthGrant grant
  db.insertOAuthAuthorizationCode code

/-- `ConsumeOAuthAuthorizationCode`. -/
def consumeOAuthAuthorizationCode (codeID : UUID) (usedAt : Time) (access : OAuthAccessToken)
    (refresh : Option OAuthRefreshToken) (db : Database) : Except Err Database := do
  let row ← select db.oauthAuthorizationCodes codeID
  require (row.usedAt = none ∧ timestamptz usedAt < row.expiresAt) .conflict
  let row := { row with
    usedAt := some (timestamptz usedAt)
    data := { row.data with usedAt := some usedAt } }
  let db := { db with oauthAuthorizationCodes := db.oauthAuthorizationCodes.set codeID row }
  let db ← db.insertOAuthAccessToken access
  match refresh with
  | some refresh => db.insertOAuthRefreshToken refresh
  | none => return db

/-- `CreateOAuthClientAccessToken`. -/
def createOAuthClientAccessToken (value : OAuthClientAccessToken) (db : Database) :
    Except Err Database := do
  constraint (validUUIDv7 value.id ∧ value.id ∉ db.oauthClientAccessTokens)
  constraint (¬ db.oauthClientAccessTokens.Any fun _ token => token.pfx = value.pfx)
  constraint (value.clientRecordID ∈ db.oauthClients)
  let tokens := db.oauthClientAccessTokens.set value.id value
  return { db with oauthClientAccessTokens := tokens }

/-- `RevokeOAuthClientAccessToken`. -/
def revokeOAuthClientAccessToken (id : UUID) (at' : Time) (db : Database) : Except Err Database := do
  let value ← select db.oauthClientAccessTokens id
  let tokens := db.oauthClientAccessTokens.set id { value with revokedAt := some at' }
  return { db with oauthClientAccessTokens := tokens }

/-- `RotateOAuthRefreshToken`. -/
def rotateOAuthRefreshToken (previousID : UUID) (usedAt : Time) (access : OAuthAccessToken)
    (refresh : OAuthRefreshToken) (db : Database) : Except Err Database := do
  let row ← select db.oauthRefreshTokens previousID
  require (row.data.familyID = refresh.familyID ∧ row.data.grantID = refresh.grantID) .conflict
  require (row.usedAt = none ∧ row.revokedAt = none ∧ timestamptz usedAt < row.expiresAt) .conflict
  let row := { row with
    usedAt := some (timestamptz usedAt)
    data := { row.data with usedAt := some usedAt, replacedByID := refresh.id } }
  let db := { db with oauthRefreshTokens := db.oauthRefreshTokens.set previousID row }
  let db ← db.insertOAuthAccessToken access
  db.insertOAuthRefreshToken refresh

/-- `RevokeOAuthGrant`. -/
def revokeOAuthGrant (id : UUID) (at' : Time) (db : Database) : Except Err Database :=
  db.revokeOAuthGrant id at'

/-- `RevokeOAuthAccessToken`. -/
def revokeOAuthAccessToken (id : UUID) (at' : Time) (db : Database) : Except Err Database := do
  let row ← select db.oauthAccessTokens id
  return { db with oauthAccessTokens := db.oauthAccessTokens.set id (stampAccessToken at' row) }

/-- `RevokeOAuthRefreshFamily`: the column is set and the JSON is left, then the access tokens of
the grants the family descends from. -/
def revokeOAuthRefreshFamily (familyID : UUID) (at' : Time) (db : Database) :
    Except Err Database := do
  require (db.oauthRefreshTokens.Any fun _ row => Matches familyID row.familyID) .notFound
  let family := db.oauthRefreshTokens.filter fun _ row => Matches familyID row.familyID
  let refresh := db.oauthRefreshTokens.update
    (fun _ row => Matches familyID row.familyID ∧ row.revokedAt = none)
    fun row => { row with revokedAt := some (timestamptz at') }
  let access := db.oauthAccessTokens.update
    (fun _ row => (family.Any fun _ member => member.grantID = row.grantID)
      ∧ row.data.revokedAt = none) (stampAccessToken at')
  return { db with oauthRefreshTokens := refresh, oauthAccessTokens := access }

end Credbound.Postgres
