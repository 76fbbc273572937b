import Credbound.Machinery.Pool
import Credbound.Machinery.Procedure
import Credbound.Types.OAuth
import Credbound.Types.Commit

/-!
# Manager/Access — what the authorization server asks of its store

The methods of `Store` and `OAuthStore` that the OAuth functions of the manager call.  One method
call is one atomic access; between two of them other calls may run.  A `Backend` is a store behind
this interface: its reads leave it as it is, its updates commit or fail.

A paged listing that the manager walks to its end (`userEmails`) is one read here.
-/

namespace Credbound.Manager

open Procedure

/-- The reads. -/
inductive Query : Type → Type 1
  | userByID (id : UUID) : Query User
  | userEmails (userID : UUID) : Query (List EmailAddress)
  | workspaceByID (workspaceID : UUID) : Query Workspace
  | membership (workspaceID userID : UUID) : Query Membership
  | oauthIssuerByID (id : UUID) : Query OAuthIssuer
  | oauthIssuerByURL (issuer : String) : Query OAuthIssuer
  | oauthProtectedResourceByID (id : UUID) : Query OAuthProtectedResource
  | oauthProtectedResourceByURI (resource : String) : Query OAuthProtectedResource
  | oauthClientByID (id : UUID) : Query OAuthClient
  | oauthClientByClientID (issuerID : UUID) (clientID : String) : Query OAuthClient
  | oauthGrant (id : UUID) : Query OAuthGrant
  | oauthAuthorizationCodeByPrefix (pfx : String) : Query OAuthAuthorizationCode
  | oauthAccessTokenByPrefix (pfx : String) : Query OAuthAccessToken
  | oauthClientAccessTokenByPrefix (pfx : String) : Query OAuthClientAccessToken
  | oauthRefreshTokenByPrefix (pfx : String) : Query OAuthRefreshToken

/-- The updates, each with the commit it is made in. -/
inductive Update
  | appendAudit
  | upsertOAuthCIMDClient (client : OAuthClient)
  | createOAuthGrantAndCode (grant : OAuthGrant) (code : OAuthAuthorizationCode)
  | consumeOAuthAuthorizationCode (codeID : UUID) (usedAt : Time) (access : OAuthAccessToken)
      (refresh : Option OAuthRefreshToken)
  | createOAuthClientAccessToken (value : OAuthClientAccessToken)
  | revokeOAuthClientAccessToken (id : UUID) (at' : Time)
  | rotateOAuthRefreshToken (previousID : UUID) (usedAt : Time) (access : OAuthAccessToken)
      (refresh : OAuthRefreshToken)
  | revokeOAuthAccessToken (id : UUID) (at' : Time)
  | revokeOAuthRefreshFamily (familyID : UUID) (at' : Time)
  | revokeOAuthGrant (grantID : UUID) (at' : Time)

/-- A read of a client record. -/
def Query.OfClient : {α : Type} → Query α → Prop
  | _, .oauthClientByID _ => True
  | _, .oauthClientByClientID _ _ => True
  | _, _ => False

/-- A read of a membership. -/
def Query.OfMembership : {α : Type} → Query α → Prop
  | _, .membership _ _ => True
  | _, _ => False

/-- One call of a store method. -/
inductive Request : Type → Type 1
  | query {α : Type} (ctx : Context) (q : Query α) : Request (Except Err α)
  | update (ctx : Context) (u : Update) (commit : Commit) : Request (Except Err Unit)

/-- A function of the manager: store calls, and a value or an error at the end. -/
abbrev Action := Procedure Request Err

variable {α S : Type}

/-- Read, and fail with what the store reports. -/
def ask (ctx : Context) (q : Query α) : Action α := .call (.query ctx q)

/-- Read; any error and any record that is not `good` is reported as `err`. -/
def expect (ctx : Context) (q : Query α) (good : α → Prop) [DecidablePred good] (err : Err) :
    Action α :=
  .lookup (.query ctx q) good err

/-- Update, and fail with what the store reports. -/
def send (ctx : Context) (u : Update) (commit : Commit) : Action Unit := .call (.update ctx u commit)

/-- A store behind the interface. -/
structure Backend (S : Type) where
  ask : S → Context → {α : Type} → Query α → Except Err α
  apply : S → Context → Update → Commit → Except Err Unit × S

/-- A request as the store answers it. -/
def Backend.handler (b : Backend S) : Program.Handler Request S
  | _, .query ctx q, s => (b.ask s ctx q, s)
  | _, .update ctx u commit, s => b.apply s ctx u commit

section Emits

variable {Q : ⦃β : Type⦄ → Request β → Prop} {ctx : Context} {q : Query α}

theorem emits_ask (h : Q (.query ctx q)) : (ask ctx q).Emits Q := emits_call h

theorem emits_expect {good : α → Prop} [DecidablePred good] {err : Err} (h : Q (.query ctx q)) :
    (expect ctx q good err).Emits Q := emits_lookup h

theorem emits_send {u : Update} {commit : Commit} (h : Q (.update ctx u commit)) :
    (send ctx u commit).Emits Q := emits_call h

end Emits

section Runs

variable {b : Backend S} {rely : S → S → Prop} {admits : ⦃β : Type⦄ → Request β → S → Prop}
  {s t : S} {ctx : Context} {q : Query α} {e : Err}

@[simp] theorem runs_ask {r : Except Err α} : (ask ctx q).Runs b.handler rely admits s r t
      ↔ rely s t ∧ admits (.query ctx q) t ∧ b.ask t ctx q = r := by
  refine runs_call.trans ⟨?_, ?_⟩
  · rintro ⟨m, hrely, hadmits, hr, rfl⟩
    exact ⟨hrely, hadmits, hr⟩
  · rintro ⟨hrely, hadmits, hr⟩
    exact ⟨t, hrely, hadmits, hr, rfl⟩

@[simp] theorem runs_expect_ok {good : α → Prop} [DecidablePred good] {a : α} :
    (expect ctx q good e).Runs b.handler rely admits s (.ok a) t
      ↔ rely s t ∧ admits (.query ctx q) t ∧ b.ask t ctx q = .ok a ∧ good a := by
  refine runs_lookup_ok.trans ⟨?_, ?_⟩
  · rintro ⟨m, hrely, hadmits, hr, hgood, rfl⟩
    exact ⟨hrely, hadmits, hr, hgood⟩
  · rintro ⟨hrely, hadmits, hr, hgood⟩
    exact ⟨t, hrely, hadmits, hr, hgood, rfl⟩

theorem runs_expect_error {good : α → Prop} [DecidablePred good] {e' : Err}
    (hrun : (expect ctx q good e).Runs b.handler rely admits s (.error e') t) :
    rely s t ∧ admits (.query ctx q) t ∧ ∀ a, b.ask t ctx q = .ok a → ¬ good a := by
  obtain ⟨m, hrely, hadmits, hbad, rfl⟩ := runs_lookup_error hrun
  exact ⟨hrely, hadmits, hbad⟩

theorem runs_send {u : Update} {commit : Commit} {r : Except Err Unit} :
    (send ctx u commit).Runs b.handler rely admits s r t
      ↔ ∃ m, rely s m ∧ admits (.update ctx u commit) m ∧ b.apply m ctx u commit = (r, t) :=
  runs_call.trans (by simp only [Backend.handler, Prod.ext_iff])

end Runs

/-! ## A call that runs alone -/

/-- The call, made in `s` with no other call in between, returns `r` and leaves `t`. -/
def Backend.Returns (b : Backend S) (p : Action α) (s : S) (r : Except Err α) (t : S) : Prop :=
  p.Runs b.handler Eq (fun _ _ _ => True) s r t

theorem Backend.returns_iff {b : Backend S} {p : Action α} {s t : S} {r : Except Err α} :
    b.Returns p s r t ↔ p.program.exec b.handler s = (r, t) :=
  Program.runs_alone

/-- The call succeeds in `s`, when it is made alone. -/
def Backend.Accepts (b : Backend S) (p : Action α) (s : S) : Prop := ∃ a t, b.Returns p s (.ok a) t

end Credbound.Manager
