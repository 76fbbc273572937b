import Credbound.Manager.Sessions
import Credbound.Stores.Passwords

/-!
# Stores/Sessions — sessions and the password they were derived from, over the memory store

An authentication that a password sign-in returned carries the fingerprint of the hash it finished
against, also after second factors have promoted it.  No session is created with it in a run in which
the stored password has another fingerprint (`replaced_password_opens_no_session`).  A session does not
record the fingerprint, so the authentication it returns outlives the password
(`session_outlives_password`).
-/

namespace Credbound.Stores

open Accounts Manager Memory

/-- The stored password of the user has the fingerprint. -/
def Fingerprinted (userID : UUID) (digest : Bytes) (s : Store) : Prop :=
  ∃ credential, s.passwords.get? userID = some credential ∧ credentialFingerprint credential.hash = digest

theorem credentialFingerprint_ne_nil (hash : String) : credentialFingerprint hash ≠ [] := Sha256.sum_ne_nil _

/-- A session that is stored against a fingerprint is stored while the password has it. -/
theorem fingerprinted_of_createSession {ctx : Context} {session : Session} {digest : Bytes} {commit : Commit}
    {s : Store} (hdigest : digest ≠ [])
    (h : (Memory.access (.write ctx (.factor (.createSession session digest)) commit) s).1 = .ok ()) :
    Fingerprinted session.userID digest s := by
  have hok := Outcome.toExcept_eq_ok.mp h
  obtain ⟨p, _, hcore, hcheck, -, -⟩ := Call.run_ok (o := .factor (.createSession session digest)) hok
  simp only [Op.mutation, FactorOp.mutation, Memory.createSession, check_bind, require_eq_ok] at hcheck
  obtain ⟨_, -, _, -, hguard⟩ := hcheck
  obtain ⟨_, rfl⟩ := hcore
  obtain ⟨credential, hcredential, heq⟩ := Option.any_eq_true _ _ |>.mp (hguard.resolve_left hdigest)
  exact ⟨credential, hcredential, of_decide_eq_true heq⟩

/-- In the run, the `i`-th function finds that the hash is stored. -/
def Signing.FoundStored {α : Type} (pool : Signing α) (labels : List (Pool.Label Call)) (i : ℕ)
    (userID : UUID) (hash : String) : Prop :=
  ∃ (β : Type) (e : Access β) (s : Store) (credential : PasswordCredential), pool.MadeAt labels i e s
    ∧ s.passwords.get? userID = some credential ∧ credential.hash = hash

/-- Second factors turn one authentication into the other, each verified in a run of its own, among
others. -/
inductive Promoted (authn : Authentication) : Authentication → Prop
  | refl : Promoted authn authn
  | verifyTOTP {actor promoted : Authentication} (m : Accounts) (ctx : Context) (io : AccountSupply)
      (code : String) (s t : Store) (hactor : Promoted authn actor)
      (hrun : (m.verifyTOTP ctx io actor code).Runs Memory.access (fun _ _ => True) (fun _ _ _ => True)
        s (.ok promoted) t) : Promoted authn promoted

theorem Promoted.keeps {authn actor : Authentication} (h : Promoted authn actor) :
    actor.userID = authn.userID ∧ actor.credentialDigest = authn.credentialDigest := by
  induction h with
  | refl => exact ⟨rfl, rfl⟩
  | verifyTOTP m ctx io code s t _ hrun ih =>
    obtain ⟨now, rfl⟩ := promoted_of_verifyTOTP hrun
    exact ih

/-- The call of `CreateSession` has not minted the session yet. -/
def Unminted (m : Accounts) (ctx : Context) (io : AccountSupply) (actor : Authentication)
    (p : Routine IssuedSession) : Prop :=
  Procedure.Before (fun _ _ => True) (fun r => ∃ e, r = .error e) (m.mintSession ctx io actor) p

section

variable {m : Accounts} {ctx : Context} {io : AccountSupply} {actor : Authentication}

/-- A session is minted while the stored password has the fingerprint of the actor. -/
theorem not_minted {pool : Signing IssuedSession} {labels : List (Pool.Label Call)} {i : ℕ}
    {p : Routine IssuedSession} {issued : IssuedSession} (hdigest : actor.credentialDigest ≠ [])
    (hi : pool.threads[i]? = some p.program) (hp : Unminted m ctx io actor p)
    (hother : Run.Meets Signing.step
      (fun pool _ => ¬ Fingerprinted actor.userID actor.credentialDigest pool.state) pool labels) :
    (Run.run Signing.step pool labels).threads[i]? ≠ some (.ret (.ok issued)) := by
  intro hdone
  obtain ⟨before, after, rfl, -, hmint, -⟩ := Pool.comes_to hp hi hdone (by simp)
  rw [Run.run_append] at hdone
  rw [Run.meets_append] at hother
  obtain ⟨t, hrun⟩ := Signing.runs_of_run (p := m.mintSession ctx io actor) hmint hdone
  obtain ⟨session, commit, s, huser, ⟨before', after', k, rfl, -, rfl⟩, hok⟩ := stored_of_mintSession hrun
  refine ((Run.meets_append.mp hother.2).2.1) ?_
  rw [← huser]
  exact fingerprinted_of_createSession hdigest hok

end

/-- **No session is created with a replaced password**: an authentication from a password sign-in, as
second factors have promoted it, comes with a hash that the sign-in verified or computed and found stored;
and where the stored password has another fingerprint than that hash from some state on, no call of
`CreateSession` that has not minted the session by then succeeds. -/
theorem replaced_password_opens_no_session (m : Accounts) (ctx : Context) (io : AccountSupply)
    (email password : String) (pool : Signing Authentication) (labels : List (Pool.Label Call)) (i : ℕ)
    (hi : pool.threads[i]? = some (m.authenticatePassword ctx io email password).program)
    (authn actor : Authentication)
    (hdone : (Run.run Signing.step pool labels).threads[i]? = some (.ret (.ok authn)))
    (hactor : Promoted authn actor) :
    ∃ hash, (m.Verifies password hash ∨ ∃ k, io.hash k password = .ok hash)
      ∧ pool.FoundStored labels i authn.userID hash
      ∧ ∀ (m' : Accounts) (ctx' : Context) (io' : AccountSupply) (replaced : Signing IssuedSession)
        (later : List (Pool.Label Call)) (j : ℕ) (p : Routine IssuedSession),
        replaced.threads[j]? = some p.program → Unminted m' ctx' io' actor p →
        Run.Meets Signing.step (fun pool _ =>
          ¬ Fingerprinted authn.userID (credentialFingerprint hash) pool.state) replaced later →
        ∀ issued, (Run.run Signing.step replaced later).threads[j]? ≠ some (.ret (.ok issued)) := by
  obtain ⟨t, hrun⟩ := Signing.runs_of_run hi hdone
  obtain ⟨hash, hknown, hdigest, hfinished⟩ := finished_of_authenticatePassword
    (fun hash => m.Verifies password hash ∨ ∃ k, io.hash k password = .ok hash)
    (fun _ => .inl) (fun k _ hnew => .inr ⟨k, hnew⟩) hrun
  obtain ⟨huser, hcarried⟩ := hactor.keeps
  refine ⟨hash, hknown, ?_, ?_⟩
  · obtain ⟨seenAt, commit, s, hmade, hok⟩ | ⟨-, credential, s, hmade, hread, rfl⟩ := hfinished
    · obtain ⟨credential, hstored, rfl⟩ := hash_of_record hok
      exact ⟨_, _, s, credential, hmade, hstored, rfl⟩
    · exact ⟨_, _, s, credential, hmade, get?_of_read hread, rfl⟩
  · intro m' ctx' io' replaced later j p hj hp hother issued
    rw [← huser, ← hdigest, ← hcarried] at hother
    refine not_minted ?_ hj hp hother
    rw [hcarried, hdigest]
    exact credentialFingerprint_ne_nil hash

/-- What user 2 gets for the password. -/
def tenantSignedIn : Authentication :=
  { userID := uuidv7 2, method := .password, level := 1, authenticatedAt := 1000,
    credentialDigest := credentialFingerprint "secret" }

/-- User 2 has another password than the one of the sign-in. -/
def replacedCalls : List Call := passwordCalls ++
  [tenantCall (.account (.changePassword { userID := uuidv7 2, hash := "next", updatedAt := 7 } 7)) 7]

theorem not_fingerprinted_of_stored {userID : UUID} {digest : Bytes} {s : Store} {hash : String}
    (hstored : memoryPasswords.stored s userID = some hash) (hne : credentialFingerprint hash ≠ digest) :
    ¬ Fingerprinted userID digest s := by
  rintro ⟨credential, hget, rfl⟩
  have hhash := (congrArg (Option.map PasswordCredential.hash) hget).symm.trans hstored
  exact hne (congrArg credentialFingerprint (Option.some.inj hhash).symm)

/-- After the change, the sign-in of user 2 opens no session. -/
theorem replaced_password_opens_no_session_tenant :
    ¬ ∃ issued, (Run.run Signing.step ⟨Store.after replacedCalls,
      [(tenantAccounts.createSession {} (tenantAccountSupply 700) tenantSignedIn).program]⟩
      (List.replicate 2 (.thread 0))).threads[0]? = some (.ret (.ok issued)) := by
  obtain ⟨hash, hknown, -, hrefused⟩ := replaced_password_opens_no_session tenantAccounts {}
    (tenantAccountSupply 700) "two@example.com" "secret"
    ⟨Store.after passwordCalls, [(tenantAccounts.authenticatePassword {} (tenantAccountSupply 700)
      "two@example.com" "secret").program]⟩ (List.replicate 5 (.thread 0)) 0 rfl tenantSignedIn tenantSignedIn
    (by with_unfolding_all rfl) .refl
  have hhash : hash = "secret" := by
    obtain ⟨rehash, hverify⟩ | ⟨k, hhash⟩ := hknown
    · exact of_decide_eq_true (congrArg Prod.fst (Except.ok.inj hverify))
    · exact (Except.ok.inj hhash).symm
  have hother : ∀ s : Store, memoryPasswords.stored s (uuidv7 2) = some "next" →
      ¬ Fingerprinted (uuidv7 2) (credentialFingerprint hash) s := by
    intro s hstored
    refine not_fingerprinted_of_stored hstored ?_
    rw [hhash]
    decide +kernel
  refine not_exists.mpr (hrefused tenantAccounts {} (tenantAccountSupply 700) ⟨Store.after replacedCalls, _⟩
    (List.replicate 2 (.thread 0)) 0 (tenantAccounts.createSession {} (tenantAccountSupply 700) tenantSignedIn)
    rfl (createSession_before tenantAccounts {} (tenantAccountSupply 700) tenantSignedIn) ?_)
  exact ⟨hother _ rfl, hother _ rfl, trivial⟩

/-- What a call is given at time 1000, with a secret of full length. -/
def sessionSupply (first : Nat) : AccountSupply :=
  { tenantAccountSupply first with secret := fun _ => .ok (String.ofList (List.replicate 43 'A')) }

/-- User 2 signs in with the password, and authenticates with a session. -/
def throughSession : Routine Authentication := do
  let authn ← tenantAccounts.authenticatePassword {} (sessionSupply 700) "two@example.com" "secret"
  let issued ← tenantAccounts.createSession {} (sessionSupply 720) authn
  tenantAccounts.authenticateSession {} (sessionSupply 740) issued.token

/-- …then changes the password, and creates another session with what the first one returned. -/
def outliving : Routine IssuedSession := do
  let actor ← throughSession
  tenantAccounts.changePassword {} (sessionSupply 760) actor "secret" "next"
  tenantAccounts.createSession {} (sessionSupply 780) actor

/-- **A session outlives the password**: what it returns has no fingerprint, so a session is created with
it after the change. -/
theorem session_outlives_password :
    let outcome := outliving.program.exec Memory.access (Store.after passwordCalls)
    outcome.1.isOk = true ∧ memoryPasswords.stored outcome.2 (uuidv7 2) = some "next" := by
  intro outcome
  have houtcome : (outcome.1.isOk, memoryPasswords.stored outcome.2 (uuidv7 2)) = (true, some "next") := by
    decide +kernel
  exact Prod.mk.inj houtcome

end Credbound.Stores
