import Credbound.Machinery.Table
import Credbound.Types.OAuth
import Credbound.Types.Commit

/-!
# Postgres/Tables — the tables of the PostgreSQL store

The tables of `migrations/postgresql` that the modelled statements read or write, each a finite map
from its primary key to the remaining columns.  Where a row holds the columns of a record and no
others, the record is the row; `users` and `user_emails` differ from their records, and the OAuth
tables keep a record as JSON (`data`) beside the columns their statements filter on.

A `timestamptz` column keeps microseconds; the JSON keeps what it is given.  `dbID` binds the zero
identifier as `NULL`, which equals no column and fits in none of those modelled here.
-/

namespace Credbound.Postgres

/-! ## Columns -/

/-- What a `timestamptz` column holds of a time: the driver drops everything below a microsecond. -/
def timestamptz (t : Time) : Time := 1000 * (t / 1000)

theorem timestamptz_mono {t t' : Time} (h : t ≤ t') : timestamptz t ≤ timestamptz t' :=
  Int.mul_le_mul_of_nonneg_left (Int.ediv_le_ediv (by decide) h) (by decide)

theorem timestamptz_idem (t : Time) : timestamptz (timestamptz t) = timestamptz t := by
  rw [timestamptz, timestamptz, Int.mul_ediv_cancel_left _ (by decide)]

/-- `column = $n` with `dbID(param)` bound. -/
def Matches (param column : UUID) : Prop := column = param ∧ param ≠ 0

instance (param column : UUID) : Decidable (Matches param column) := inferInstanceAs (Decidable (_ ∧ _))

theorem matches_iff {param column : UUID} (h : param ≠ 0) : Matches param column ↔ column = param :=
  and_iff_left h

structure UserRow where
  displayName : String
  disabled : Bool
  lastSeenAt : Option Time
  createdAt : Time
  updatedAt : Time
deriving Inhabited

structure UserEmailRow where
  userID : UUID
  address : String
  isPrimary : Bool
  verifiedAt : Option Time
  verificationDigest : Option Bytes
  verificationExpiresAt : Option Time
  createdAt : Time
  updatedAt : Time
deriving Inhabited

structure GrantRow where
  clientRecordID : UUID
  resourceID : UUID
  userID : UUID
  workspaceID : UUID
  createdAt : Time
  data : OAuthGrant
deriving Inhabited

structure CodeRow where
  pfx : String
  grantID : UUID
  usedAt : Option Time
  expiresAt : Time
  data : OAuthAuthorizationCode
deriving Inhabited

structure AccessTokenRow where
  pfx : String
  grantID : UUID
  data : OAuthAccessToken
deriving Inhabited

structure RefreshTokenRow where
  familyID : UUID
  pfx : String
  grantID : UUID
  usedAt : Option Time
  revokedAt : Option Time
  expiresAt : Time
  data : OAuthRefreshToken
deriving Inhabited

/-- The schema `credbound`. -/
structure Database where
  users : FMap UUID UserRow
  userEmails : FMap UUID UserEmailRow
  passwordCredentials : FMap UUID PasswordCredential
  workspaces : FMap UUID Workspace
  /-- Keyed by workspace and user. -/
  memberships : FMap (UUID × UUID) Membership
  instanceAdministrators : FMap UUID InstanceAdministrator
  totpFactors : FMap UUID TOTPFactor
  /-- Keyed by user and digest; the column that remains is `used_at`. -/
  recoveryCodes : FMap (UUID × Bytes) (Option Time)
  passkeys : FMap UUID Passkey
  personalAccessTokens : FMap UUID PAT
  sessions : FMap UUID Session
  loginThrottles : FMap UUID LoginThrottle
  passwordResets : FMap UUID PasswordResetCredential
  emailAuthentications : FMap UUID EmailAuthenticationCredential
  oauthIssuers : FMap UUID OAuthIssuer
  oauthResources : FMap UUID OAuthProtectedResource
  oauthClients : FMap UUID OAuthClient
  oauthGrants : FMap UUID GrantRow
  oauthAuthorizationCodes : FMap UUID CodeRow
  oauthAccessTokens : FMap UUID AccessTokenRow
  oauthClientAccessTokens : FMap UUID OAuthClientAccessToken
  oauthRefreshTokens : FMap UUID RefreshTokenRow
  consumedCeremonies : FMap UUID Time
  auditEvents : List AuditEvent
  /-- `audit_chain.sequence` and `audit_chain.head_hash`. -/
  auditSequence : Int
  auditHead : Bytes
deriving Inhabited

namespace Database

/-- The schema after its migrations: no rows but the head of the audit chain. -/
def new : Database := { (default : Database) with auditHead := auditChainGenesis }

/-! ## Records from rows -/

/-- `emailFromRow`. -/
def emailFromRow (id : UUID) (row : UserEmailRow) : EmailAddress where
  id := id
  userID := row.userID
  address := row.address
  primary := row.isPrimary
  verifiedAt := row.verifiedAt
  createdAt := row.createdAt
  updatedAt := row.updatedAt

/-- The primary address of a user, which the schema allows one of. -/
def primaryEmail (db : Database) (userID : UUID) : Option (UUID × UserEmailRow) :=
  db.userEmails.find? fun _ row => row.userID = userID ∧ row.isPrimary

/-- `userFromIDRow`: a user joined with an address. -/
def userFromIDRow (id : UUID) (row : UserRow) (email : UserEmailRow) : User where
  id := id
  email := email.address
  displayName := row.displayName
  disabled := row.disabled
  lastSeenAt := row.lastSeenAt
  createdAt := row.createdAt
  updatedAt := row.updatedAt

/-- `GetUserByID`: the user, joined with the primary address. -/
def getUserByID (db : Database) (id : UUID) : Option User :=
  (db.users.get? id).bind fun row => (db.primaryEmail id).map fun email => userFromIDRow id row email.2

/-- A refresh token as `OAuthRefreshTokenByPrefix` reads it: a column that is set overrides the
JSON. -/
def refreshTokenFromRow (row : RefreshTokenRow) : OAuthRefreshToken :=
  { row.data with
    usedAt := row.usedAt.orElse fun _ => row.data.usedAt
    revokedAt := row.revokedAt.orElse fun _ => row.data.revokedAt }

end Database

/-! ## Row counts -/

/-- An UPDATE as `:execrows` runs it: how many rows it touched, and the table afterwards. -/
def execrows {K V : Type} [DecidableEq K] (m : FMap K V) (p : K → V → Prop)
    [∀ k v, Decidable (p k v)] (f : V → V) : Nat × FMap K V := (m.count p, m.update p f)

/-- `affected`: a statement that touched no row. -/
def affected (count : Nat) : Except Err Unit := require (count ≠ 0) .notFound

/-- `count != 1` reported as a conflict. -/
def single (count : Nat) : Except Err Unit := require (count = 1) .conflict

/-- A constraint of the schema: a violation is class 23, which `mapError` reports as a conflict. -/
def constraint (p : Prop) [Decidable p] : Except Err Unit := require p .conflict

section Counting

variable {V : Type} {m : FMap UUID V} {q : V → Prop} [DecidablePred q]
variable {id : UUID}

/-- An UPDATE of one key reports a row when the row is there and qualifies. -/
theorem count_key_ne_zero :
    m.count (fun k v => Matches id k ∧ q v) ≠ 0 ↔ id ≠ 0 ∧ ∃ v, m.get? id = some v ∧ q v := by
  constructor
  · intro h
    obtain ⟨k, hk⟩ := Finset.card_ne_zero.mp h
    obtain ⟨v, hv, ⟨rfl, hne⟩, hq⟩ := FMap.mem_keysWhere.mp hk
    exact ⟨hne, v, hv, hq⟩
  · rintro ⟨hne, v, hv, hq⟩
    exact FMap.count_ne_zero_of_get? hv ⟨⟨rfl, hne⟩, hq⟩

/-- An UPDATE of one key with no further condition. -/
theorem count_id_ne_zero : m.count (fun k _ => Matches id k) ≠ 0 ↔ id ≠ 0 ∧ id ∈ m := by
  constructor
  · intro h
    obtain ⟨k, hk⟩ := Finset.card_ne_zero.mp h
    obtain ⟨v, hv, rfl, hne⟩ := FMap.mem_keysWhere.mp hk
    exact ⟨hne, FMap.mem_of_get? hv⟩
  · rintro ⟨hne, hid⟩
    obtain ⟨v, hv⟩ := FMap.mem_iff_get?.mp hid
    exact FMap.count_ne_zero_of_get? hv ⟨rfl, hne⟩

/-- An UPDATE of one key reports at most one row. -/
theorem count_key_eq_one :
    m.count (fun k v => Matches id k ∧ q v) = 1 ↔ id ≠ 0 ∧ ∃ v, m.get? id = some v ∧ q v := by
  refine ⟨fun h => count_key_ne_zero.mp (by rw [h]; exact one_ne_zero), ?_⟩
  rintro ⟨hne, v, hv, hq⟩
  exact FMap.count_eq_one_of_get? hv ⟨⟨rfl, hne⟩, hq⟩ fun k' _ _ h => h.1.1

/-- **An UPDATE of one key that finds its row.** -/
theorem execrows_of_get? {v : V} (hid : id ≠ 0) (hv : m.get? id = some v) (hq : q v) (f : V → V) :
    execrows m (fun k v => Matches id k ∧ q v) f = (1, m.set id (f v)) := by
  refine Prod.ext (count_key_eq_one.mpr ⟨hid, v, hv, hq⟩) (FMap.ext_get? fun k => ?_)
  dsimp only [execrows]
  rw [FMap.get?_update, FMap.get?_set]
  by_cases hk : k = id
  · subst hk
    rw [hv, Option.map_some, if_pos ⟨⟨rfl, hid⟩, hq⟩, if_pos rfl]
  · rw [if_neg hk]
    simp only [Matches, hk, false_and, if_false, Option.map_id']

/-- An UPDATE of one key with no further condition. -/
theorem execrows_id_of_get? {v : V} (hid : id ≠ 0) (hv : m.get? id = some v) (f : V → V) :
    execrows m (fun k _ => Matches id k) f = (1, m.set id (f v)) := by
  simpa only [and_true] using execrows_of_get? (q := fun _ => True) hid hv trivial f

/-- **…and one that does not.** -/
theorem execrows_of_none (h : ∀ v, m.get? id = some v → ¬ q v) (f : V → V) :
    execrows m (fun k v => Matches id k ∧ q v) f = (0, m) := by
  have hnone : m.All fun k v => ¬ (Matches id k ∧ q v) := by
    rintro k v hv ⟨⟨rfl, -⟩, hq⟩
    exact h v hv hq
  exact Prod.ext ((FMap.count_eq_zero _ _).mpr hnone)
    (FMap.update_eq_self f fun k v hv hp => absurd hp (hnone k v hv))

end Counting

end Credbound.Postgres
