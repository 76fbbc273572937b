import Credbound.Manager.Password
import Credbound.Stores.Switches

/-!
# Stores/Passwords — password sign-ins and changes among others, over the memory store

Any number of functions run over the memory store, interleaved access by access with each other and with
any other calls.

* A password sign-in that succeeds committed in a state whose stored hash the password verifies against
  (`signIn_current`).
* A change of a password that succeeds does so only if no other step replaced the password it had
  verified (`change_current`); one that did is overwritten (`change_overwrites_reset`).
-/

namespace Credbound.Stores

open Accounts Manager Memory

/-- A store and functions that access it. -/
abbrev Signing (α : Type) := Pool Access Store (Except Err α)

/-- One function makes its next access, or some other call is made. -/
def Signing.step {α : Type} : Signing α → Pool.Label Call → Signing α := Pool.step Memory.access Call.next

/-- In the run, the `i`-th function makes the access in the state `s`. -/
def Signing.MadeAt {α : Type} (pool : Signing α) (labels : List (Pool.Label Call)) (i : ℕ) ⦃β : Type⦄
    (e : Access β) (s : Store) : Prop := Pool.MadeAt Memory.access Call.next pool labels i e s

/-- A function that has returned ran among the others. -/
theorem Signing.runs_of_run {α : Type} {pool : Signing α} {labels : List (Pool.Label Call)} {i : ℕ}
    {p : Routine α} {r : Except Err α} (hi : pool.threads[i]? = some p.program)
    (hdone : (Run.run Signing.step pool labels).threads[i]? = some (.ret r)) :
    ∃ t, p.Runs Memory.access (fun _ _ => True) (pool.MadeAt labels i) pool.state r t := by
  obtain ⟨t, hrun, -⟩ := Pool.runs_of_run (R := fun _ _ => True) (fun _ => trivial)
    (fun _ _ _ _ _ => trivial) (fun _ _ _ => trivial) (fun _ _ => trivial) hi
    (Pool.meets_madeAt pool labels i) hdone
  exact ⟨t, hrun⟩

/-! ## Signing in -/

theorem hashIs_iff {s : Store} {userID : UUID} {hash : String} :
    s.HashIs userID hash ↔ ∃ credential, s.passwords.get? userID = some credential ∧ credential.hash = hash := by
  simp [Store.HashIs, Option.any_eq_true]

/-- A committed record of a password sign-in is made against the stored hash. -/
theorem hash_of_record {ctx : Context} {userID : UUID} {hash : String} {seenAt : Time} {commit : Commit}
    {s : Store}
    (h : (Memory.access (.write ctx (.account (.recordPasswordAuthentication userID hash seenAt)) commit)
      s).1 = .ok ()) :
    ∃ credential, s.passwords.get? userID = some credential ∧ credential.hash = hash := by
  have hok := Outcome.toExcept_eq_ok.mp h
  obtain ⟨p, _, hcore, hcheck, -, -⟩ := Call.run_ok (o := .account
    (.recordPasswordAuthentication userID hash seenAt)) hok
  simp only [Op.mutation, AccountOp.mutation, Memory.recordPasswordAuthentication, check_bind,
    require_eq_ok] at hcheck
  obtain ⟨_, -, hhash⟩ := hcheck
  obtain ⟨_, rfl⟩ := hcore
  exact hashIs_iff.mp hhash

/-- **A password sign-in that succeeds is current**: it committed in a state in which the stored hash of
the user verifies the password, and it carries the fingerprint of that hash. -/
theorem signIn_current (m : Accounts) (ctx : Context) (io : AccountSupply) (email password : String)
    (hverify : ∀ k hash, io.hash k password = .ok hash → m.Verifies password hash)
    (pool : Signing Authentication) (labels : List (Pool.Label Call)) (i : ℕ)
    (hi : pool.threads[i]? = some (m.authenticatePassword ctx io email password).program)
    (authn : Authentication)
    (hdone : (Run.run Signing.step pool labels).threads[i]? = some (.ret (.ok authn)))
    (hsecond : authn.secondFactorRequired = false) :
    ∃ credential seenAt commit s,
      let record := Access.write ctx
        (.account (.recordPasswordAuthentication authn.userID credential.hash seenAt)) commit
      pool.MadeAt labels i record s ∧ (Memory.access record s).1 = .ok ()
        ∧ s.passwords.get? authn.userID = some credential ∧ m.Verifies password credential.hash
        ∧ authn.credentialDigest = credentialFingerprint credential.hash := by
  obtain ⟨t, hrun⟩ := Signing.runs_of_run hi hdone
  obtain ⟨hash, hverifies, ⟨seenAt, commit, s, hmade, hok⟩, hdigest⟩ :=
    signedIn_of_authenticatePassword hverify hrun hsecond
  obtain ⟨credential, hcredential, rfl⟩ := hash_of_record hok
  exact ⟨credential, seenAt, commit, s, hmade, hok, hcredential, hverifies, hdigest⟩

/-- User 2 has a password. -/
def passwordCalls : List Call := tenantCalls ++
  [tenantCall (.account (.changePassword { userID := uuidv7 2, hash := "secret", updatedAt := 6 } 6)) 6]

/-- The sign-in of user 2, who has no second factor. -/
theorem signIn_current_tenant :
    ∃ credential seenAt commit s,
      let record := Access.write {}
        (.account (.recordPasswordAuthentication (uuidv7 2) credential.hash seenAt)) commit
      Signing.MadeAt ⟨Store.after passwordCalls,
          [(tenantAccounts.authenticatePassword {} (tenantAccountSupply 700) "two@example.com"
            "secret").program]⟩ (List.replicate 5 (.thread 0)) 0 record s
        ∧ (Memory.access record s).1 = .ok () ∧ s.passwords.get? (uuidv7 2) = some credential
        ∧ tenantAccounts.Verifies "secret" credential.hash
        ∧ credentialFingerprint "secret" = credentialFingerprint credential.hash := by
  refine signIn_current tenantAccounts {} (tenantAccountSupply 700) "two@example.com" "secret" ?_ _ _ 0 rfl
    { userID := uuidv7 2, method := .password, level := 1, authenticatedAt := 1000,
      credentialDigest := credentialFingerprint "secret" } ?_ rfl
  · intro k hash hhash
    cases hhash
    exact ⟨false, rfl⟩
  · with_unfolding_all rfl

/-! ## Changing the password -/

/-- A store that keeps passwords: a password that is read is the stored one. -/
structure PasswordStore (S : Type) where
  access : Program.Handler Access S
  stored : S → UUID → Option String
  read_leaves : ∀ ctx userID s, (access (.read ctx (.passwordByUserID userID)) s).2 = s
  read_stored : ∀ ctx userID s credential, (access (.read ctx (.passwordByUserID userID)) s).1 = .ok credential →
    stored s userID = some credential.hash

/-- The memory store. -/
def memoryPasswords : PasswordStore Store where
  access := Memory.access
  stored s userID := (s.passwords.get? userID).map PasswordCredential.hash
  read_leaves _ _ _ := rfl
  read_stored ctx userID s credential h := by rw [get?_of_read h, Option.map_some]

/-- The handler reads and changes passwords as the PostgreSQL store does. -/
structure PostgresAccess (access : Program.Handler Access Postgres.Database) : Prop where
  passwordByUserID : ∀ ctx userID db, access (.read ctx (.passwordByUserID userID)) db
    = (Postgres.querying ctx (db.passwordByUserID userID), db)
  changePassword : ∀ ctx credential at' commit db,
    access (.write ctx (.account (.changePassword credential at')) commit) db
      = ((Postgres.mutate ctx commit (Postgres.changePassword credential at') db).1.toExcept,
        (Postgres.mutate ctx commit (Postgres.changePassword credential at') db).2)

/-- The PostgreSQL store. -/
def postgresPasswords (access : Program.Handler Access Postgres.Database) (h : PostgresAccess access) :
    PasswordStore Postgres.Database where
  access := access
  stored db userID := (db.passwordCredentials.get? userID).map PasswordCredential.hash
  read_leaves ctx userID db := by rw [h.passwordByUserID]
  read_stored ctx userID db credential hread := by
    simp only [h.passwordByUserID, Postgres.querying] at hread
    split at hread
    · cases hread
    · simp only [Postgres.Database.passwordByUserID, Postgres.select, check_bind, find_eq_ok] at hread
      obtain ⟨_, -, hrow⟩ := hread
      rw [hrow, Option.map_some]

/-- The stored hash of the user verifies the password. -/
def PasswordStore.Current {S : Type} (store : PasswordStore S) (m : Accounts) (userID : UUID)
    (password : String) (s : S) : Prop :=
  ∃ hash, store.stored s userID = some hash ∧ m.Verifies password hash

section Change

variable {S L : Type} (store : PasswordStore S) (env : S → L → S)

/-- **A change that succeeds overwrites the password it verified**, when from its read on no other step
replaces a hash that the current password verifies against by one that it does not. -/
theorem change_current (m : Accounts) (ctx : Context) (io : AccountSupply) (actor : Authentication)
    (currentPassword newPassword : String) (pool : Pool Access S (Except Err Unit))
    (labels : List (Pool.Label L)) (i : ℕ)
    (hi : pool.threads[i]? = some (m.changePassword ctx io actor currentPassword newPassword).program)
    (hdone : (Run.run (Pool.step store.access env) pool labels).threads[i]? = some (.ret (.ok ())))
    (hothers : ∀ before after, labels = before ++ after →
      (Run.run (Pool.step store.access env) pool before).threads[i]?
        = some (m.changeRead ctx (io.after 4) actor.userID currentPassword newPassword).program →
      Run.Meets (Pool.step store.access env) (fun pool l => l ≠ .thread i →
        store.Current m actor.userID currentPassword pool.state →
        store.Current m actor.userID currentPassword (pool.step store.access env l).state)
        (Run.run (Pool.step store.access env) pool before) after) :
    ∃ s, ChangedAt store.access (pool.MadeAt store.access env labels i) ctx actor.userID s
      ∧ store.Current m actor.userID currentPassword s := by
  obtain ⟨before, after, rfl, -, hread, -⟩ := Pool.comes_to
    (m.changePassword_before ctx io actor currentPassword newPassword) hi hdone (by simp)
  rw [Run.run_append] at hdone
  obtain ⟨t, hrun, -⟩ := Pool.runs_of_others (R := fun s t =>
      store.Current m actor.userID currentPassword s → store.Current m actor.userID currentPassword t)
    (fun _ => id) (fun _ _ _ h h' => h' ∘ h) hread (Pool.meets_madeAt _ after i)
    (hothers before after rfl hread) hdone
  obtain ⟨s₀, s₁, credential, hanswer, hverifies, hmoved, new, at', commit, hid, hmade, hok⟩ :=
    changedAt_of_changeRead hrun
  rw [store.read_leaves] at hmoved
  exact ⟨s₁, ⟨new, at', commit, hid, hmade.of_suffix, hok⟩,
    hmoved ⟨credential.hash, store.read_stored ctx actor.userID s₀ credential hanswer, hverifies⟩⟩

end Change

/-- User 2, signed in recently. -/
def recentActor : Authentication :=
  { userID := uuidv7 2, method := .password, level := 1, authenticatedAt := 900 }

/-- The change of the password of user 2. -/
def tenantChange : Routine Unit :=
  tenantAccounts.changePassword {} (tenantAccountSupply 700) recentActor "secret" "next"

/-- A change that is left alone. -/
theorem change_current_alone :
    ∃ s, ChangedAt Memory.access (Pool.MadeAt Memory.access Call.next
        ⟨Store.after passwordCalls, [tenantChange.program]⟩ (List.replicate 3 (.thread 0)) 0) {} (uuidv7 2) s
      ∧ memoryPasswords.Current tenantAccounts (uuidv7 2) "secret" s := by
  refine change_current memoryPasswords Call.next tenantAccounts {} (tenantAccountSupply 700) recentActor
    "secret" "next" ⟨Store.after passwordCalls, [tenantChange.program]⟩ (List.replicate 3 (.thread 0)) 0 rfl
    rfl ?_
  intro before after hlabels _
  refine Run.meets_of_mem fun l hl pool hne => absurd ?_ hne
  exact List.eq_of_mem_replicate (hlabels ▸ List.mem_append_right before hl)

/-- A pending reset of the password of user 2. -/
def resetCalls : List Call := passwordCalls ++
  [tenantCall (.account (.createPasswordReset
    { id := uuidv7 70, userID := uuidv7 2, digest := [], createdAt := 7, expiresAt := 2000, usedAt := none })) 7]

/-- The change of user 2 has read the password when the reset installs another. -/
def overtaken : Signing Unit :=
  Run.run Signing.step ⟨Store.after resetCalls, [tenantChange.program]⟩
    [.thread 0, .thread 0, .other (tenantCall (.account (.completePasswordReset (uuidv7 70)
      { userID := uuidv7 2, hash := "reset", updatedAt := 8 } 8)) 8)]

/-- **A change overwrites a password that replaced the one it verified**: it succeeds, and the hash stored
right before does not verify the current password. -/
theorem change_overwrites_reset :
    (overtaken.step (.thread 0)).threads = [.ret (.ok ())]
      ∧ ¬ memoryPasswords.Current tenantAccounts (uuidv7 2) "secret" overtaken.state
      ∧ memoryPasswords.Current tenantAccounts (uuidv7 2) "next" (overtaken.step (.thread 0)).state := by
  refine ⟨rfl, ?_, "next", rfl, false, rfl⟩
  rintro ⟨hash, hstored, rehash, hverify⟩
  obtain rfl : "reset" = hash := Option.some.inj ((rfl : some "reset" = _).trans hstored)
  cases hverify

end Credbound.Stores
