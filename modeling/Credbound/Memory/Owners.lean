import Credbound.Memory.Roots

/-!
# Memory/Owners — every stored credential belongs to a user

`touchLastSeenLocked` stores a user record whether or not there was one, and the methods that call it
look at a credential and not at the user.  They never create a user by it: a second factor, a
passkey, a token, a session, a magic link and an SSO identity are stored for users that exist, and no
method removes a user.

The one argument the store does not check is the identity `JITProvisionSSOUser` stores beside the
user it creates; `Method.OwnIdentity` says that it is that user's.
-/

namespace Credbound.Memory

open Store

/-- The owner of every credential is `known`. -/
structure Owned (s : Store) (known : UUID → Prop) : Prop where
  totp : s.totp.All fun u _ => known u
  recovery : s.recovery.All fun u _ => known u
  passkeys : s.passkeys.All fun u _ => known u
  pats : s.pats.All fun _ v => known v.userID
  sessions : s.sessions.All fun _ v => known v.userID
  emailAuths : s.emailAuths.All fun _ v => known v.userID
  ssoIdentities : s.ssoIdentities.All fun _ v => known v.userID

/-- The owner of every credential is a user of the store. -/
def OwnersExist (s : Store) : Prop := Owned s fun u => u ∈ s.users

namespace Owned

variable {s t p : Store} {known known' : UUID → Prop}

section

variable (h : Owned s known)

include h

theorem mono (hk : ∀ u, known u → known' u) : Owned s known' where
  totp k v hv := hk _ (h.totp k v hv)
  recovery k v hv := hk _ (h.recovery k v hv)
  passkeys k v hv := hk _ (h.passkeys k v hv)
  pats k v hv := hk _ (h.pats k v hv)
  sessions k v hv := hk _ (h.sessions k v hv)
  emailAuths k v hv := hk _ (h.emailAuths k v hv)
  ssoIdentities k v hv := hk _ (h.ssoIdentities k v hv)

theorem of_held (heq : t.held = s.held) : Owned t known := by
  simp only [Store.held, Prod.mk.injEq] at heq
  obtain ⟨h₁, h₂, h₃, h₄, h₅, h₆, h₇, -⟩ := heq
  exact ⟨h₁ ▸ h.totp, h₂ ▸ h.recovery, h₃ ▸ h.passkeys, h₄ ▸ h.pats, h₅ ▸ h.sessions,
    h₆ ▸ h.emailAuths, h₇ ▸ h.ssoIdentities⟩

/-- Stamping or scrubbing rows does not change their owner. -/
theorem map_pats {f : UUID → PAT → PAT} (hf : ∀ k v, (f k v).userID = v.userID) :
    Owned { s with pats := s.pats.mapVal f } known :=
  { h with pats := h.pats.mapVal fun k v hv => by rwa [hf k v] }

theorem map_sessions {f : UUID → Session → Session} (hf : ∀ k v, (f k v).userID = v.userID) :
    Owned { s with sessions := s.sessions.mapVal f } known :=
  { h with sessions := h.sessions.mapVal fun k v hv => by rwa [hf k v] }

theorem revokeCredentials (userID workspaceID : UUID) (at' : Time) :
    Owned (s.revokeUserCredentialsLocked userID workspaceID at') known := by
  refine (h.map_pats (f := fun _ v => if InScope userID workspaceID v.userID v.workspaceID
    ∧ v.revokedAt = none then { v with revokedAt := some at' } else v) fun k v => ?_).of_held rfl
  split <;> rfl

theorem revokeSessions (userID : UUID) (at' : Time) : Owned (s.revokeUserSessionsLocked userID at') known :=
  h.map_sessions fun k v => by split <;> rfl

theorem scrub (userID : UUID) : Owned (s.scrub userID) known where
  totp := h.totp.del userID
  recovery := h.recovery.del userID
  passkeys := h.passkeys.del userID
  pats := h.pats.mapVal fun k v hv => by split <;> exact hv
  sessions := h.sessions.mapVal fun k v hv => by split <;> exact hv
  emailAuths := h.emailAuths
  ssoIdentities := h.ssoIdentities.mapVal fun k v hv => by split <;> exact hv

end

theorem withdraws (h : Owned p known) (ht : p.Withdraws t) : Owned t known := by
  induction ht with
  | refl => exact h
  | other _ hheld _ ih => exact ih.of_held hheld
  | credentials _ userID workspaceID at' ih => exact ih.revokeCredentials userID workspaceID at'
  | sessions _ userID at' ih => exact ih.revokeSessions userID at'
  | scrub _ userID ih => exact ih.scrub userID

/-- Storing an identity of a known user. -/
theorem putSSOIdentity (h : Owned s known) {identity : SSOIdentity} (hu : known identity.userID) :
    Owned (s.putSSOIdentity identity) known :=
  { h with ssoIdentities := h.ssoIdentities.set hu }

end Owned

/-! ## One theorem per area -/

section Areas

variable {p : Store} {known : UUID → Prop} (hp : Owned p known) (husers : ∀ u ∈ p.users, known u)
  (commit : Commit)

include hp husers

theorem AccountOp.owned (op : AccountOp) (hc : op.mutation.check p = .ok ()) :
    Owned (op.mutation.result commit p) known := by
  have hauths : (op.mutation.result commit p).emailAuths.All fun _ v => known v.userID := by
    have h := (Op.account op).writes commit p
    cases op with
    | createEmailAuthentication credential =>
      simp only [AccountOp.mutation, Memory.createEmailAuthentication, check_bind, require_eq_ok] at hc
      obtain ⟨_, hu, -⟩ := hc
      exact hp.emailAuths.set (husers _ hu)
    | consumeEmailAuthentication tokenID userID at' completesLogin =>
      cases completesLogin <;> exact hp.emailAuths.modify tokenID fun _ hv => hv
    | setUserDisabled | anonymizeUser =>
      exact ((congrArg (fun s : Store => s.emailAuths) h).trans rfl) ▸ hp.emailAuths
    | _ => exact hp.emailAuths
  exact { hp.withdraws (op.withdraws commit p) with emailAuths := hauths }

theorem FactorOp.owned (op : FactorOp) (hc : op.mutation.check p = .ok ()) :
    Owned (op.mutation.result commit p) known := by
  cases op with
  | saveTOTPEnrollment factor =>
    simp only [FactorOp.mutation, Memory.saveTOTPEnrollment, check_bind, require_eq_ok] at hc
    obtain ⟨_, -, hu⟩ := hc
    exact { hp with totp := hp.totp.set (husers _ hu), recovery := hp.recovery.del _ }
  | activateTOTP factor recovery =>
    simp only [FactorOp.mutation, Memory.activateTOTP, check_bind, find_eq_ok] at hc
    obtain ⟨_, hf, -⟩ := hc
    exact { hp with
      totp := hp.totp.set (hp.totp _ _ hf)
      recovery := hp.recovery.set (hp.totp _ _ hf) }
  | disableTOTP userID =>
    exact { hp with totp := hp.totp.del userID, recovery := hp.recovery.del userID }
  | replaceRecoveryCodes userID codes =>
    simp only [FactorOp.mutation, Memory.replaceRecoveryCodes, check_bind, find_eq_ok] at hc
    obtain ⟨_, hf, -⟩ := hc
    exact { hp with recovery := hp.recovery.set (hp.totp _ _ hf) }
  | resetSecondFactor userID at' =>
    refine Owned.revokeSessions ?_ userID at'
    exact { hp with
      totp := hp.totp.del userID
      recovery := hp.recovery.del userID
      passkeys := hp.passkeys.del userID }
  | savePasskey passkey =>
    simp only [FactorOp.mutation, Memory.savePasskey, check_bind, require_eq_ok] at hc
    obtain ⟨_, hu, -⟩ := hc
    exact { hp with passkeys := hp.passkeys.set (husers _ hu) }
  | touchPasskey userID credentialID credentialJSON usedAt =>
    obtain ⟨id, v, hv, -⟩ := require_eq_ok.mp hc
    have hne : p.passkeys.getI userID ≠ default := fun h => by
      rw [h] at hv
      cases hv
    exact { hp with passkeys := hp.passkeys.set (hp.passkeys _ _ (FMap.get?_of_getI_ne hne)) }
  | deletePasskey userID passkeyID =>
    exact { hp with passkeys := hp.passkeys.modify userID fun _ hv => hv }
  | createPAT pat =>
    simp only [FactorOp.mutation, Memory.createPAT, check_bind, require_eq_ok] at hc
    obtain ⟨_, -, _, -, hu⟩ := hc
    exact { hp with pats := hp.pats.set (husers _ hu) }
  | touchPAT id usedAt | revokePAT userID id revokedAt => exact { hp with pats := hp.pats.modify id fun _ hv => hv }
  | createSession session credentialDigest =>
    simp only [FactorOp.mutation, Memory.createSession, check_bind, require_eq_ok] at hc
    obtain ⟨_, -, _, hu, -⟩ := hc
    exact { hp with sessions := hp.sessions.set (husers _ hu) }
  | touchSession id at' => exact { hp with sessions := hp.sessions.modify id fun _ hv => hv }
  | revokeSession id at' =>
    exact { hp with sessions := hp.sessions.modify id fun v hv => by split <;> exact hv }
  | revokeUserSessions userID at' => exact hp.revokeSessions userID at'

theorem DirectoryOp.owned (op : DirectoryOp) (hc : op.mutation.check p = .ok ())
    (hid : ∀ user email membership identity,
      op = .jitProvisionSSOUser user email membership identity → known identity.userID) :
    Owned (op.mutation.result commit p) known := by
  have h := (Op.directory op).writes commit p
  cases op with
  | linkSSO identity =>
    simp only [DirectoryOp.mutation, Memory.linkSSO, check_bind, require_eq_ok] at hc
    obtain ⟨_, hu, -⟩ := hc
    have h := hp.putSSOIdentity (husers _ hu)
    simp only [DirectoryOp.mutation, Memory.linkSSO, Mutation.result, reached]
    split
    · exact h.of_held rfl
    · exact h
  | touchSSO userID identityID usedAt =>
    exact { hp with ssoIdentities := hp.ssoIdentities.modify identityID fun _ hv => hv }
  | unlinkSSO userID identityID =>
    exact { hp with ssoIdentities := hp.ssoIdentities.del identityID }
  | jitProvisionSSOUser user email membership identity =>
    refine Owned.putSSOIdentity ?_ (hid user email membership identity rfl)
    exact hp.of_held rfl
  | updateSCIMConfiguration | upsertSCIMGroup | deleteSCIMGroup =>
    exact hp.of_held ((congrArg Store.held h).trans rfl)
  | updateSCIMUser link membership revokeWorkspacePATs =>
    obtain ⟨_, f, hf, h⟩ := result_updateSCIMUser link membership revokeWorkspacePATs commit p
    refine (congrArg (Owned · known) h).mpr ?_
    have howner : ∀ id v, (f id v).userID = v.userID := fun id v => by
      obtain heq | ⟨_, heq⟩ := hf id v <;> rw [heq]
    exact (hp.map_pats howner).of_held rfl
  | _ => exact hp.of_held rfl

end Areas

/-! ## Runs -/

/-- The identity provisioned with a user is that user's. -/
def Method.OwnIdentity : Method → Prop
  | .op (.directory (.jitProvisionSSOUser user _ _ identity)) => identity.userID = user.id
  | _ => True

/-- **One step**: no write leaves a credential without its user. -/
theorem OwnersExist.result {m : Method} {v : Mutation} (hv : m.view = some v) (commit : Commit)
    {p : Store} (hc : v.check p = .ok ()) (hid : m.OwnIdentity) (hp : OwnersExist p) :
    OwnersExist (v.result commit p) := by
  have husers : ∀ u ∈ p.users, u ∈ (v.result commit p).users := fun u hu => Method.mem_users hv commit hc hu
  have hp : Owned p fun u => u ∈ (v.result commit p).users := Owned.mono hp husers
  cases m with
  | op o =>
    obtain rfl : o.mutation = v := Option.some.inj hv
    cases o with
    | account op => exact op.owned hp husers commit hc
    | email op => cases op <;> exact hp.of_held rfl
    | factor op => exact op.owned hp husers commit hc
    | workspace op => exact hp.withdraws (op.withdraws commit p)
    | directory op =>
      refine op.owned hp husers commit hc ?_
      rintro user email membership identity rfl
      have hu : identity.userID = user.id := hid
      rw [hu]
      exact FMap.mem_of_get? (FMap.get?_set_self p.users user.id user)
    | oauth op => exact hp.of_held (congrArg (·.2.1) (op.leaves commit p))
  | recordLoginFailure => cases hv; exact hp.of_held rfl
  | useTOTP userID step =>
    cases hv
    simp only [check_bind, find_eq_ok] at hc
    obtain ⟨factor, hf, -⟩ := hc
    exact { hp with totp := hp.totp.set (hp.totp _ _ hf) }
  | consumeRecoveryCode userID digest usedAt =>
    cases hv
    have hne : p.recovery.getI userID ≠ default := fun h => by
      have hany := require_eq_ok.mp hc
      rw [h] at hany
      cases hany
    exact { hp with recovery := hp.recovery.set (hp.recovery _ _ (FMap.get?_of_getI_ne hne)) }
  | createWorkspaceDomain => cases hv; exact hp.of_held rfl
  | claimEmailIssuance | setAuditFailure => cases hv

theorem ownersExist_new : OwnersExist Store.new := ⟨.empty, .empty, .empty, .empty, .empty, .empty, .empty⟩

theorem ownersExist_next (s : Store) (c : Call) (hs : OwnersExist s) (hg : c.method.OwnIdentity) :
    OwnersExist (c.next s) :=
  c.next_preserves s (fun _ _ hm _ hc hp => hp.result hm c.commit hc hg) hs

end Credbound.Memory
