import Credbound.Memory.AddressBook
import Credbound.Memory.Owners
import Mathlib

/-!
# Memory/Addresses — do users, address records and indexes always agree?

Thirteen methods change the address book of the store; every other one keeps it, up to fields of the
users the book does not read (`Method.bookKept`).  Eleven of the thirteen keep it sound whatever the
other callers do in between.  Two do not:

* `UpdateUser` stores the user record its caller read earlier, the address included, so that a
  `SetPrimaryEmail` or an `AnonymizeUser` in between is undone for the user and not for the records;
* `AnonymizeUser` puts the tombstone of every record of the user into the sign-in lookup, also where
  the record is not verified, and does not look whether a tombstone is taken.

`Method.KeepsAddresses` excludes exactly these; along every run of calls a manager makes that meets
it the four maps agree (`addresses_agree`).
-/

namespace Credbound.Memory

open Store Book

/-! ## Methods that keep the book -/

/-- The address maps are the same and the users have the same names. -/
def BookKept (p t : Store) : Prop :=
  ∃ users, SameNames p.users users ∧ t.book = { p.book with users := users }

theorem bookKept_of_eq {p t : Store} (h : t.book = p.book) : BookKept p t := ⟨p.users, fun _ => rfl, h⟩

/-- A user that exists is rewritten, up to name and address. -/
theorem bookKept_rewrite {p t : Store} {u : UUID} {w : User}
    (h : t.book = { p.book with users := p.users.set u w }) (hu : u ∈ p.users)
    (hid : w.id = (p.users.getI u).id) (hmail : w.email = (p.users.getI u).email) :
    BookKept p t := by
  obtain ⟨v, hv⟩ := FMap.mem_iff_get?.mp hu
  rw [FMap.getI_of_get? hv] at hid hmail
  exact ⟨_, sameNames_set hv hid hmail, h⟩

/-- The operations that change the address book. -/
def Op.MovesAddresses : Op → Prop
  | .account (.bootstrap ..) | .account (.createUser ..) | .account (.createSignup ..)
  | .account (.updateUser ..) | .account (.anonymizeUser ..) | .email _
  | .directory (.jitProvisionSSOUser ..) | .directory (.registerInvitedUser ..)
  | .directory (.createSCIMUser ..) => True
  | _ => False

variable {p : Store} {commit : Commit} {m : Method}

theorem AccountOp.bookKept (op : AccountOp) (hc : op.mutation.check p = .ok ()) (hown : OwnersExist p)
    (hop : ¬ (Op.account op).MovesAddresses) :
    BookKept p (op.mutation.result commit p) := by
  cases op with
  | bootstrap | createUser | createSignup | updateUser | anonymizeUser => exact absurd True.intro hop
  | setUserDisabled userID disabled at' =>
    simp only [AccountOp.mutation, Memory.setUserDisabled, check_bind, require_eq_ok] at hc
    obtain ⟨_, hu, -⟩ := hc
    obtain ⟨v, hv⟩ := FMap.mem_iff_get?.mp hu
    refine bookKept_rewrite (u := userID) (w := { v with disabled := disabled, updatedAt := at' }) ?_ hu
      (by rw [FMap.getI_of_get? hv]) (by rw [FMap.getI_of_get? hv])
    have hmodify := FMap.modify_of_get? hv fun user => { user with disabled := disabled, updatedAt := at' }
    cases disabled <;> exact congrArg (fun users => { p.book with users := users }) hmodify
  | recordAuthentication userID seenAt =>
    exact bookKept_rewrite (u := userID) rfl (require_eq_ok.mp hc) rfl rfl
  | recordPasswordAuthentication userID currentHash seenAt =>
    simp only [AccountOp.mutation, Memory.recordPasswordAuthentication, check_bind, require_eq_ok] at hc
    obtain ⟨_, hu, -⟩ := hc
    exact bookKept_rewrite (u := userID) rfl hu rfl rfl
  | consumeEmailAuthentication tokenID userID at' completesLogin =>
    simp only [AccountOp.mutation, Memory.consumeEmailAuthentication, check_bind, find_eq_ok,
      require_eq_ok] at hc
    obtain ⟨credential, hcredential, _, rfl, -⟩ := hc
    cases completesLogin
    · exact bookKept_of_eq rfl
    · exact bookKept_rewrite rfl (hown.emailAuths _ _ hcredential) rfl rfl
  | _ => exact bookKept_of_eq rfl

theorem FactorOp.bookKept (op : FactorOp) (hc : op.mutation.check p = .ok ()) (hown : OwnersExist p) :
    BookKept p (op.mutation.result commit p) := by
  cases op with
  | touchPasskey userID credentialID credentialJSON usedAt =>
    obtain ⟨id, v, hv, -⟩ := require_eq_ok.mp hc
    have hne : p.passkeys.getI userID ≠ default := fun h => by
      rw [h] at hv
      cases hv
    exact bookKept_rewrite (u := userID) rfl (hown.passkeys _ _ (FMap.get?_of_getI_ne hne)) rfl rfl
  | touchPAT id usedAt =>
    obtain ⟨pat, hpat⟩ := FMap.mem_iff_get?.mp (require_eq_ok.mp hc)
    refine bookKept_rewrite (u := (p.pats.getI id).userID) rfl ?_ rfl rfl
    exact FMap.getI_of_get? hpat ▸ hown.pats _ _ hpat
  | touchSession id at' =>
    simp only [FactorOp.mutation, Memory.touchSession, check_bind, find_eq_ok] at hc
    obtain ⟨session, hsession, -⟩ := hc
    refine bookKept_rewrite (u := (p.sessions.getI id).userID) rfl ?_ rfl rfl
    exact FMap.getI_of_get? hsession ▸ hown.sessions _ _ hsession
  | _ => exact bookKept_of_eq rfl

theorem DirectoryOp.bookKept (op : DirectoryOp) (hc : op.mutation.check p = .ok ()) (hown : OwnersExist p)
    (hop : ¬ (Op.directory op).MovesAddresses) :
    BookKept p (op.mutation.result commit p) := by
  have h := (Op.directory op).writes commit p
  cases op with
  | jitProvisionSSOUser | registerInvitedUser | createSCIMUser => exact absurd True.intro hop
  | linkSSO identity =>
    simp only [DirectoryOp.mutation, Memory.linkSSO, check_bind, require_eq_ok] at hc
    obtain ⟨_, hu, -⟩ := hc
    simp only [DirectoryOp.mutation, Memory.linkSSO, Mutation.result, reached]
    split
    · exact bookKept_rewrite (u := identity.userID) rfl hu rfl rfl
    · exact bookKept_of_eq rfl
  | touchSSO userID identityID usedAt =>
    simp only [DirectoryOp.mutation, Memory.touchSSO, check_bind, find_eq_ok, require_eq_ok] at hc
    obtain ⟨identity, hidentity, rfl⟩ := hc
    exact bookKept_rewrite rfl (hown.ssoIdentities _ _ hidentity) rfl rfl
  | updateSCIMConfiguration | updateSCIMUser | upsertSCIMGroup | deleteSCIMGroup =>
    exact bookKept_of_eq ((congrArg Store.book h).trans rfl)
  | _ => exact bookKept_of_eq rfl

/-- **Every other method keeps the address book.** -/
theorem Method.bookKept {v : Mutation} (hv : m.view = some v) (hm : ∀ o, m = .op o → ¬ o.MovesAddresses)
    (commit : Commit) (hc : v.check p = .ok ()) (hown : OwnersExist p) : BookKept p (v.result commit p) := by
  cases m with
  | op o =>
    obtain rfl : o.mutation = v := Option.some.inj hv
    cases o with
    | account op => exact op.bookKept hc hown (hm _ rfl)
    | email op => exact absurd True.intro (hm _ rfl)
    | factor op => exact op.bookKept hc hown
    | workspace op =>
      have h := op.leaves commit p
      exact bookKept_of_eq (congrArg (fun x => (⟨x.1, x.2.2.1, x.2.1, x.2.2.2⟩ : Book)) h)
    | directory op => exact op.bookKept hc hown (hm _ rfl)
    | oauth op =>
      have h := op.leaves_people commit p
      exact bookKept_of_eq (congrArg (fun x => (⟨x.1, x.2.2.1, x.2.1, x.2.2.2.1⟩ : Book)) h)
  | recordLoginFailure => cases hv; exact bookKept_of_eq rfl
  | useTOTP userID step =>
    cases hv
    simp only [check_bind, find_eq_ok] at hc
    obtain ⟨factor, hf, -⟩ := hc
    exact bookKept_rewrite (u := userID) rfl (hown.totp _ _ hf) rfl rfl
  | consumeRecoveryCode userID digest usedAt =>
    cases hv
    have hne : p.recovery.getI userID ≠ default := fun h => by
      have hany := require_eq_ok.mp hc
      rw [h] at hany
      cases hany
    exact bookKept_rewrite (u := userID) rfl (hown.recovery _ _ (FMap.get?_of_getI_ne hne)) rfl rfl
  | createWorkspaceDomain => cases hv; exact bookKept_of_eq rfl
  | claimEmailIssuance | setAuditFailure => cases hv

/-! ## What a manager passes, and what goes wrong -/

/-- The arguments of a new account: the record has a fresh identifier, belongs to the user, is primary
and has the user's address. -/
def Opens (s : Store) (user : User) (email : EmailAddress) : Prop :=
  email.id ∉ s.emailAddresses ∧ email.userID = user.id ∧ email.primary = true
    ∧ email.address = user.email

instance (s : Store) (user : User) (email : EmailAddress) : Decidable (Opens s user email) :=
  inferInstanceAs (Decidable (_ ∧ _))

/-- What every caller of the store in the manager passes: accounts are opened with a primary record,
verified where the store does not look; an address is added neither primary nor verified; an identity
is provisioned for the user created with it. -/
def Method.FromManager (s : Store) : Method → Prop
  | .op (.account (.bootstrap user email _ _ _ _)) => Opens s user email ∧ email.verifiedAt ≠ none
  | .op (.account (.createUser user email _ _)) => Opens s user email ∧ email.verifiedAt ≠ none
  | .op (.account (.createSignup user email _ _ _ _)) => Opens s user email
  | .op (.directory (.jitProvisionSSOUser user email _ identity)) =>
      (Opens s user email ∧ email.verifiedAt ≠ none) ∧ identity.userID = user.id
  | .op (.directory (.registerInvitedUser _ user email _ _ _)) =>
      Opens s user email ∧ email.verifiedAt ≠ none
  | .op (.directory (.createSCIMUser user email _ _)) => Opens s user email
  | .op (.email (.saveEmail email _)) => email.primary = false ∧ email.verifiedAt = none
  | _ => True

/-- The two steps that do not go wrong: a profile update that stores the address the user has, and the
anonymization of a user whose records are all verified and whose tombstones nobody else holds. -/
def Method.KeepsAddresses (s : Store) : Method → Prop
  | .op (.account (.updateUser user)) => ∀ current ∈ s.users.get? user.id, user.email = current.email
  | .op (.account (.anonymizeUser userID _)) => s.emailAddresses.All fun id e => e.userID = userID →
      e.verifiedAt ≠ none ∧ s.emailAddresses.All fun id' e' => e'.address = tombstone id → id' = id
  | _ => True

theorem Method.ownIdentity_of_fromManager {s : Store} (h : m.FromManager s) : m.OwnIdentity := by
  unfold Method.OwnIdentity
  split
  · exact h.2
  · trivial

/-! ## One write -/

/-- A record with a fresh identifier and address opens an account. -/
theorem Book.Sound.opens (h : p.book.Sound) {user : User} {email : EmailAddress} (ho : Opens p user email)
    (hu : user.id ∉ p.users) (ha : email.address ∉ p.emailIDs) :
    (p.book.enroll user email).Sound :=
  h.enroll hu ho.1 ha ho.2.1 ho.2.2.1 ho.2.2.2

/-- The methods that write the lookup without looking are given a verified record. -/
theorem enroll_of_verified {user : User} {email : EmailAddress} (hv : email.verifiedAt ≠ none) :
    p.book.enroll user email = ⟨p.users.set user.id user, p.emailAddresses.set email.id email,
        p.emails.set email.address user.id, p.emailIDs.set email.address email.id⟩ := by
  rw [Book.enroll, if_pos (Option.isSome_iff_ne_none.mpr hv)]
  rfl

/-- The book in the middle of an anonymization, with the user as rewritten so far. -/
def loopBook (userID : UUID) (acc : Store × User) : Book :=
  { acc.1.book with users := acc.1.users.set userID acc.2 }

/-- What the address loop keeps: the book is sound, and each of the user's records is verified and
may take its tombstone. -/
structure Renaming (userID : UUID) (acc : Store × User) : Prop where
  sound : (loopBook userID acc).Sound
  ready : ∀ id e, acc.1.emailAddresses.get? id = some e → e.userID = userID →
    e.verifiedAt ≠ none ∧ (loopBook userID acc).Clear id (tombstone id)

/-- One turn is one rename. -/
theorem loopBook_anonymizeEmail {userID : UUID} (at' : Time) {acc : Store × User} {id : UUID}
    {e : EmailAddress} (he : acc.1.emailAddresses.get? id = some e) (hu : e.userID = userID) :
    loopBook userID (anonymizeEmail userID at' acc id)
      = (loopBook userID acc).rename id e (tombstone id) at' acc.2 := by
  subst hu
  rw [anonymizeEmail, he]
  dsimp only
  rw [if_pos rfl]
  simp only [loopBook, Book.rename, Store.book, FMap.set_set]

theorem Renaming.turn {userID : UUID} (at' : Time) (acc : Store × User) (id : UUID)
    (h : Renaming userID acc) : Renaming userID (anonymizeEmail userID at' acc id) := by
  cases he : acc.1.emailAddresses.get? id with
  | none =>
    rw [anonymizeEmail, he]
    exact h
  | some e =>
    by_cases hu : e.userID = userID
    swap
    · rw [anonymizeEmail, he]
      dsimp only
      rwa [if_neg hu]
    obtain ⟨hverified, hclear⟩ := h.ready id e he hu
    have hbook := loopBook_anonymizeEmail at' he hu
    have hrows : (anonymizeEmail userID at' acc id).1.emailAddresses = acc.1.emailAddresses.set id
        { e with address := tombstone id, updatedAt := at' } := congrArg Book.addresses hbook
    refine ⟨?_, ?_⟩
    · rw [hbook]
      refine h.sound.rename he hverified hclear at' ?_
      rw [hu]
      exact FMap.get?_set_self _ _ _
    · intro id₁ e₁ he₁ hu₁
      rw [hrows, FMap.get?_set] at he₁
      -- A record that takes its tombstone stands in the way of no other tombstone.
      have hkept : ∀ id₂, (loopBook userID acc).Clear id₂ (tombstone id₂) →
          (loopBook userID (anonymizeEmail userID at' acc id)).Clear id₂ (tombstone id₂) := by
        intro id₂ hclear₂ id₃ e₃ he₃ ha₃
        change (anonymizeEmail userID at' acc id).1.emailAddresses.get? id₃ = some e₃ at he₃
        rw [hrows, FMap.get?_set] at he₃
        split at he₃
        · next hid₃ =>
          obtain ⟨⟩ := he₃
          exact hid₃.trans (tombstone_injective ha₃)
        · exact hclear₂ id₃ e₃ he₃ ha₃
      split at he₁
      · next hid₁ =>
        obtain ⟨⟩ := he₁
        exact ⟨hverified, hkept id₁ (hid₁ ▸ hclear)⟩
      · obtain ⟨hv₁, hclear₁⟩ := h.ready id₁ e₁ he₁ hu₁
        exact ⟨hv₁, hkept id₁ hclear₁⟩

/-- The book after an anonymization is that of the address loop. -/
theorem book_anonymizeUser (userID : UUID) (at' : Time) (commit : Commit) (p : Store) :
    ((anonymizeUser userID at').result commit p).book
      = loopBook userID (p.emailAddresses.keyList.foldl (anonymizeEmail userID at')
        (p, { p.users.getI userID with displayName := "", disabled := true, updatedAt := at' })) := by
  simp only [Mutation.result, anonymizeUser, reached]
  obtain ⟨_, _, _, h⟩ := anonymizeSCIMUser_frame userID at' (List.foldl (anonymizeEmail userID at')
    (p, { p.users.getI userID with displayName := "", disabled := true, updatedAt := at' })
    p.emailAddresses.keyList).1.scimUsers.keyList _
  rw [h]
  rfl

theorem Book.Sound.anonymizeUser (h : p.book.Sound) {userID : UUID} (at' : Time) (hu : userID ∈ p.users)
    (hk : Method.KeepsAddresses p (.op (.account (.anonymizeUser userID at')))) (commit : Commit) :
    ((anonymizeUser userID at').result commit p).book.Sound := by
  rw [book_anonymizeUser]
  refine (Run.always (I := Renaming userID) (Renaming.turn at') ?_ _).sound
  obtain ⟨user, huser⟩ := FMap.mem_iff_get?.mp hu
  refine ⟨h.of_users (sameNames_set huser ?_ ?_), ?_⟩
  · rw [FMap.getI_of_get? huser]
  · rw [FMap.getI_of_get? huser]
  · intro id e he howner
    obtain ⟨hverified, hclear⟩ := hk id e he howner
    exact ⟨hverified, hclear⟩

/-- Before a bootstrap there are no users, so there are no records and no indexed addresses. -/
theorem Book.Sound.not_mem_of_no_users (h : p.book.Sound) (hempty : p.users = ∅) (a : String) : a ∉ p.emailIDs := by
  intro ha
  obtain ⟨id, hid⟩ := FMap.mem_iff_get?.mp ha
  obtain ⟨id', e, he, -⟩ := (h.holder a id).mp hid
  obtain ⟨w, hw⟩ := FMap.mem_iff_get?.mp (h.owner id' e he)
  change p.users.get? e.userID = some w at hw
  rw [hempty, FMap.get?_empty] at hw
  cases hw

/-- **One step**: a write whose checks pass keeps the book sound, if it is made by a manager and is
none of the two that go wrong. -/
theorem Book.Sound.result {v : Mutation} (hv : m.view = some v) (commit : Commit) (hc : v.check p = .ok ())
    (hm : m.FromManager p) (hk : m.KeepsAddresses p) (hown : OwnersExist p) (h : p.book.Sound) :
    (v.result commit p).book.Sound := by
  by_cases hmoves : ∃ o, m = .op o ∧ o.MovesAddresses
  swap
  · obtain ⟨users, hnames, hbook⟩ := Method.bookKept hv (fun o ho hmove => hmoves ⟨o, ho, hmove⟩) commit hc hown
    rw [hbook]
    exact h.of_users hnames
  obtain ⟨o, rfl, hmoves⟩ := hmoves
  obtain ⟨⟩ := hv
  cases o with
  | account op =>
    cases op with
    | bootstrap user email password workspace membership admin =>
      have hempty : p.users = ∅ := require_eq_ok.mp hc
      have hu : user.id ∉ p.users := fun hmem => by
        rw [hempty] at hmem
        exact Finmap.notMem_empty hmem
      have hbook := h.opens hm.1 hu (h.not_mem_of_no_users hempty _)
      rwa [enroll_of_verified hm.2] at hbook
    | createUser user email password membership =>
      simp only [Op.mutation, AccountOp.mutation, createUser, check_bind, require_eq_ok] at hc
      obtain ⟨_, hu, _, ha, -⟩ := hc
      have hbook := h.opens hm.1 hu ha
      rwa [enroll_of_verified hm.2] at hbook
    | createSignup user email verification password workspace membership =>
      simp only [Op.mutation, AccountOp.mutation, createSignup, check_bind, require_eq_ok] at hc
      obtain ⟨_, hu, _, ha, -⟩ := hc
      exact h.opens hm hu ha
    | updateUser user =>
      obtain ⟨current, hcurrent⟩ := FMap.mem_iff_get?.mp (require_eq_ok.mp hc)
      exact h.of_users (sameNames_set hcurrent (h.key _ _ hcurrent).symm (hk current hcurrent))
    | anonymizeUser userID at' =>
      simp only [Op.mutation, AccountOp.mutation, Memory.anonymizeUser, check_bind, require_eq_ok] at hc
      exact h.anonymizeUser at' hc.choose_spec.1 hk commit
    | _ => exact hmoves.elim
  | email op =>
    cases op with
    | saveEmail email verification =>
      simp only [Op.mutation, EmailOp.mutation, saveEmail, check_bind, require_eq_ok] at hc
      obtain ⟨_, hu, _, hid, ha⟩ := hc
      exact h.add hu hid ha hm.1 hm.2
    | reissueEmailVerification emailID verification =>
      simp only [Op.mutation, EmailOp.mutation, reissueEmailVerification, check_bind, find_eq_ok] at hc
      obtain ⟨email, hemail, -⟩ := hc
      have hstamp := FMap.modify_of_get? hemail
        fun email => { email with updatedAt := commit.audit.occurredAt }
      refine (congrArg (fun rows => Book.Sound { p.book with addresses := rows }) hstamp).mpr ?_
      exact h.stamp hemail commit.audit.occurredAt
    | verifyEmail emailID verifiedAt =>
      simp only [Op.mutation, EmailOp.mutation, verifyEmail, check_bind, find_eq_ok, require_eq_ok] at hc
      obtain ⟨email, hemail, hnone⟩ := hc
      have hbook := h.verify hemail hnone verifiedAt
      rwa [← FMap.getI_of_get? hemail] at hbook
    | setPrimaryEmail userID emailID =>
      simp only [Op.mutation, EmailOp.mutation, setPrimaryEmail, check_bind, find_eq_ok, require_eq_ok] at hc
      obtain ⟨target, htarget, _, rfl, -⟩ := hc
      have howner : target.userID ∈ p.users := h.owner emailID target htarget
      obtain ⟨user, huser⟩ := FMap.mem_iff_get?.mp howner
      have hbook := h.promote htarget huser commit.audit.occurredAt
      simp only [Op.mutation, EmailOp.mutation, setPrimaryEmail, Mutation.result, reached,
        FMap.getI_of_get? htarget, FMap.getI_of_get? huser]
      exact hbook
    | removeEmail userID emailID =>
      simp only [Op.mutation, EmailOp.mutation, removeEmail, check_bind, find_eq_ok, require_eq_ok] at hc
      obtain ⟨email, hemail, _, -, _, hprimary, -⟩ := hc
      have hbook := h.remove hemail hprimary
      rwa [← FMap.getI_of_get? hemail] at hbook
  | directory op =>
    cases op with
    | jitProvisionSSOUser user email membership identity =>
      simp only [Op.mutation, DirectoryOp.mutation, jitProvisionSSOUser, check_bind, require_eq_ok] at hc
      obtain ⟨_, hu, _, ha, -⟩ := hc
      have hbook := h.opens hm.1.1 hu ha
      rwa [enroll_of_verified hm.1.2] at hbook
    | registerInvitedUser invitationID user email password membership at' =>
      simp only [Op.mutation, DirectoryOp.mutation, registerInvitedUser, check_bind, require_eq_ok] at hc
      obtain ⟨_, -, _, -, _, hu, _, ha, -⟩ := hc
      have hbook := h.opens hm.1 hu ha
      rwa [enroll_of_verified hm.2] at hbook
    | createSCIMUser user email membership link =>
      simp only [Op.mutation, DirectoryOp.mutation, createSCIMUser, check_bind, require_eq_ok] at hc
      obtain ⟨_, -, _, hu, ha⟩ := hc
      exact h.opens hm (fun hmem => hu (.inl hmem)) ha
    | _ => exact hmoves.elim
  | _ => exact hmoves.elim

/-! ## Runs -/

/-- The four maps agree, read as the callers read them: `UserByEmail` finds a user by an address
exactly where a verified record of the user has it, `emailIDs` finds the one record of every stored
address, and every user has one primary record, whose address is the user's. -/
structure AddressesAgree (s : Store) : Prop where
  signIn : ∀ a u, (∃ user, s.answer {} (.userByEmail a) = .ok user ∧ user.id = u)
    ↔ ∃ id e, s.emailAddresses.get? id = some e ∧ e.userID = u ∧ e.address = a ∧ e.verifiedAt ≠ none
  record : ∀ a id, s.emailIDs.get? a = some id
    ↔ ∃ e, s.emailAddresses.get? id = some e ∧ e.address = a
  primary : ∀ u user, s.users.get? u = some user →
    ∃! id, ∃ e, s.emailAddresses.get? id = some e ∧ e.userID = u ∧ e.primary = true
  address : ∀ u user id e, s.users.get? u = some user → s.emailAddresses.get? id = some e →
    e.userID = u → e.primary = true → user.email = e.address

theorem answer_userByEmail {s : Store} (h : s.book.Sound) {a : String} {u : UUID} :
    (∃ user, s.answer {} (.userByEmail a) = .ok user ∧ user.id = u) ↔ s.emails.get? a = some u := by
  have hread : s.answer {} (.userByEmail a) = orNotFound ((s.emails.get? a).map s.users.getI) := rfl
  -- The user the lookup names is stored under its own identifier.
  have hname : ∀ w, s.emails.get? a = some w → (s.users.getI w).id = w := by
    intro w hw
    obtain ⟨id, e, he, -, rfl⟩ := (h.lookup a w).mp hw
    obtain ⟨user, huser⟩ := FMap.mem_iff_get?.mp (h.owner id e he)
    exact (congrArg User.id (FMap.getI_of_get? huser)).trans (h.key _ _ huser)
  rw [hread]
  cases hw : s.emails.get? a with
  | none =>
    refine ⟨?_, fun hu => (by cases hu)⟩
    rintro ⟨user, huser, -⟩
    cases huser
  | some w =>
    constructor
    · rintro ⟨user, huser, rfl⟩
      obtain rfl : s.users.getI w = user := Outcome.ok.inj huser
      rw [hname w hw]
    · intro hu
      exact ⟨s.users.getI w, rfl, (hname w hw).trans (Option.some.inj hu)⟩

theorem Book.Sound.agree {s : Store} (h : s.book.Sound) : AddressesAgree s where
  signIn a u := by
    rw [answer_userByEmail h]
    refine (h.lookup a u).trans (exists_congr fun id => exists_congr fun e => ?_)
    rw [signInName_eq_some]
    tauto
  record a id := by
    refine (h.holder a id).trans ⟨?_, ?_⟩
    · rintro ⟨id', e, he, ha, rfl⟩
      exact ⟨e, he, Option.some.inj ha⟩
    · rintro ⟨e, he, ha⟩
      exact ⟨id, e, he, congrArg some ha, rfl⟩
  primary u user hu := by
    obtain ⟨id, e, he, howner, hp, -⟩ := h.primary u user hu
    refine ⟨id, ⟨e, he, howner, hp⟩, ?_⟩
    rintro id' ⟨e', he', howner', hp'⟩
    exact h.unique id' e' id e he' he (howner'.trans howner.symm) hp' hp
  address u user id e hu he howner hp := by
    obtain ⟨id', e', he', howner', hp', ha⟩ := h.primary u user hu
    obtain rfl := h.unique id' e' id e he' he (howner'.trans howner.symm) hp' hp
    obtain rfl := Option.mem_unique he' he
    exact ha.symm

theorem Method.guards_congr {s t : Store} (h : s.SameCore t) (m : Method) :
    (m.FromManager t ↔ m.FromManager s) ∧ (m.KeepsAddresses t ↔ m.KeepsAddresses s) := by
  obtain ⟨_, rfl⟩ := h
  exact ⟨Iff.rfl, Iff.rfl⟩

/-- …and so does a call. -/
theorem sound_next (s : Store) (c : Call) (hs : OwnersExist s ∧ s.book.Sound)
    (hg : c.method.FromManager s ∧ c.method.KeepsAddresses s) :
    OwnersExist (c.next s) ∧ (c.next s).book.Sound := by
  refine c.next_preserves (I := fun s => OwnersExist s ∧ s.book.Sound) s (fun m p hm hp hc hI => ?_) hs ?_
  · have hmanager := (c.method.guards_congr hp).1.mpr hg.1
    have hkeeps := (c.method.guards_congr hp).2.mpr hg.2
    exact ⟨hI.1.result hm c.commit hc (Method.ownIdentity_of_fromManager hmanager),
      hI.2.result hm c.commit hc hmanager hkeeps hI.1⟩
  · rintro _ _ ⟨_, rfl⟩ - ⟨howners, hsound⟩
    exact ⟨{ howners with }, hsound⟩

theorem sound_after {calls : List Call}
    (h : Run.Meets Call.next (fun s c => c.method.FromManager s ∧ c.method.KeepsAddresses s)
      Store.new calls) : (Store.after calls).book.Sound :=
  (Run.invariant sound_next ⟨ownersExist_new, Book.sound_empty⟩ h).2

/-- **Users, records and indexes agree.**  In every state reached by calls a manager makes, in any
order and with any delay between what a caller read and what it commits, as long as no profile update
stores an address the user no longer has and no anonymization meets an unverified record or a
tombstone that is taken. -/
theorem addresses_agree (calls : List Call)
    (h : Run.Meets Call.next (fun s c => c.method.FromManager s ∧ c.method.KeepsAddresses s)
      Store.new calls) : AddressesAgree (Store.after calls) := (sound_after h).agree

/-! ## Two runs that go wrong -/

/-- An account with a verified address, as a manager opens it. -/
def newUser (id : UUID) (address : String) : User × EmailAddress :=
  ({ (default : User) with id := id, email := address },
    { (default : EmailAddress) with
      id := id, userID := id, address := address, primary := true, verifiedAt := some 1 })

/-- User 1 with the address "a", and user 3 with "c"; both add another one. -/
def twoAddresses : List Call :=
  [{ method := .op (.account (.bootstrap (newUser 1 "a").1 (newUser 1 "a").2 default
       { (default : Workspace) with id := 1 }
       { (default : Membership) with workspaceID := 1, userID := 1, role := .admin, status := .active }
       { (default : InstanceAdministrator) with userID := 1, role := .root }))
     commit := commitOf 11 1 },
   { method := .op (.account (.createUser (newUser 3 "c").1 (newUser 3 "c").2 default
       { (default : Membership) with workspaceID := 1, userID := 3, role := .member }))
     commit := commitOf 12 1 },
   { method := .op (.email (.saveEmail
       { (default : EmailAddress) with id := 2, userID := 1, address := "b" } default))
     commit := commitOf 13 2 },
   { method := .op (.email (.saveEmail
       { (default : EmailAddress) with id := 4, userID := 3, address := "d" } default))
     commit := commitOf 14 2 }]

/-- "b" is verified and made the primary address. -/
def changePrimary : List Call :=
  [⟨.op (.email (.verifyEmail 2 3)), commitOf 15 3, {}⟩,
   ⟨.op (.email (.setPrimaryEmail 1 2)), commitOf 16 4, {}⟩]

/-- The profile update of user 1 as a caller makes it that read the user in `s`. -/
def renameUser (s : Store) : Call :=
  ⟨.op (.account (.updateUser { s.users.getI 1 with displayName := "x", updatedAt := 5 })),
    commitOf 17 5, {}⟩

-- only the operations of an area that the predicate names are told apart
instance (s : Store) (m : Method) : Decidable (m.FromManager s) := by
  rcases m with (op | op | op | op | op | op) | _
  all_goals first
    | exact .isTrue trivial
    | cases op <;> dsimp only [Method.FromManager] <;> infer_instance

instance (s : Store) (m : Method) : Decidable (m.KeepsAddresses s) := by
  rcases m with (op | op | op | op | op | op) | _
  all_goals first
    | exact .isTrue trivial
    | cases op <;> dsimp only [Method.KeepsAddresses] <;> infer_instance

/-- An update by a caller that read the user after the change is fine. -/
theorem addresses_agree_fresh_update : AddressesAgree (Store.after
    (twoAddresses ++ changePrimary ++ [renameUser (Store.after (twoAddresses ++ changePrimary))])) :=
  addresses_agree _ (by decide)

/-- Two runs of a manager's calls, all of which succeed.  In the first the caller of the update read
the user before the change, and the user's address is no longer that of the primary record.  In the
second user 3 is anonymized while the address "d" is not verified, and its tombstone signs in. -/
theorem stale_update_and_anonymization_break_addresses :
    let s := Store.after (twoAddresses ++ changePrimary)
    let update := renameUser (Store.after twoAddresses)
    let r := Store.after twoAddresses
    let anonymize : Call := ⟨.op (.account (.anonymizeUser 3 6)), commitOf 18 6, {}⟩
    (AddressesAgree s ∧ update.method.FromManager s ∧ (update.run s).1 = .ok ()
      ∧ ¬ AddressesAgree (update.next s))
    ∧ AddressesAgree r ∧ anonymize.method.FromManager r ∧ (anonymize.run r).1 = .ok ()
      ∧ ¬ AddressesAgree (anonymize.next r) := by
  refine ⟨⟨(sound_after (by decide)).agree, by decide, by decide, fun h => ?_⟩,
    (sound_after (by decide)).agree, by decide, by decide, fun h => ?_⟩
  · exact absurd (h.address 1 _ 2 _ rfl rfl rfl rfl) (by decide)
  · obtain ⟨id, e, he, -, ha, hv⟩ := (h.signIn (tombstone 4) 3).mp ⟨_, rfl, rfl⟩
    have hnone : (Call.next (Store.after twoAddresses)
        ⟨.op (.account (.anonymizeUser 3 6)), commitOf 18 6, {}⟩).emailAddresses.All
          fun _ e => e.address = tombstone 4 → e.verifiedAt = none := by decide
    exact hv (hnone id e he ha)

end Credbound.Memory
