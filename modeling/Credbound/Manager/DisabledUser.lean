import Credbound.Manager.SignIns

/-!
# Manager/DisabledUser — what a sign-in does while the user is disabled

Over any store that answers for one user as it does while that user is disabled (`DisabledAnswers`), no
sign-in returns an authentication of that user, and none makes an access that links or touches a credential
of that user (`Spares`).  The exception is a ceremony that links an external identity to the user
(`SignIn.Links`).
-/

namespace Credbound

open Procedure
open Manager Memory

/-- Who owns a personal access token and a session. -/
structure TokenOwners where
  pat : UUID → UUID
  session : UUID → UUID

namespace Accounts

/-- What a store answers while the user is disabled: the account is reported as disabled, tokens as
those of their owner, and the user is not created anew. -/
def DisabledAnswers (u : UUID) (owners : TokenOwners) : ⦃β : Type⦄ → Access β → β → Prop
  | _, .read _ (.userByID id), r => ∀ user, r = .ok user → id = u ∨ user.id = u → user.disabled = true
  | _, .read _ (.userByEmail _), r => ∀ user, r = .ok user → user.id = u → user.disabled = true
  | _, .read _ (.patByPrefix _), r => ∀ pat, r = .ok pat → owners.pat pat.id = pat.userID
  | _, .read _ (.sessionByID _), r => ∀ session, r = .ok session → owners.session session.id = session.userID
  | _, .write _ (.directory (.jitProvisionSSOUser user _ _ _)) _, r => user.id = u → r ≠ .ok ()
  | _, _, _ => True

/-- The operation is one of a sign-in, and links and touches no credential of the user.  A user that is
provisioned gets an identity of its own. -/
def SparesOp (u : UUID) (owners : TokenOwners) : Op → Prop
  | .workspace .appendAudit => True
  | .account (.rehashPassword credential _) => credential.userID ≠ u
  | .account (.recordPasswordAuthentication userID _ _) => userID ≠ u
  | .account (.consumeEmailAuthentication _ userID _ _) => userID ≠ u
  | .factor (.touchPasskey userID _ _ _) => userID ≠ u
  | .factor (.touchPAT id _) => owners.pat id ≠ u
  | .factor (.touchSession id _) => owners.session id ≠ u
  | .directory (.touchSSO userID _ _) => userID ≠ u
  | .directory (.linkSSO identity) => identity.userID ≠ u
  | .directory (.jitProvisionSSOUser user _ _ identity) => identity.userID = user.id
  | _ => False

/-- The access is one of a sign-in, and links and touches no credential of the user. -/
def Spares (u : UUID) (owners : TokenOwners) : ⦃β : Type⦄ → Access β → Prop
  | _, .write _ op _ => SparesOp u owners op
  | _, .useTOTP _ userID _ _ => userID ≠ u
  | _, .consumeRecoveryCode _ userID _ _ _ => userID ≠ u
  | _, .request (.update ..) => False
  | _, _ => True

/-- **The sign-in is of another user**: it spares the one that is disabled, and returns no authentication of theirs. -/
abbrev Others (u : UUID) (owners : TokenOwners) (p : Routine Authentication) : Prop :=
  p.Delivers (DisabledAnswers u owners) (Spares u owners) fun authn => authn.userID ≠ u

variable {m : Accounts} {ctx : Context} {io : AccountSupply} {u : UUID} {owners : TokenOwners}

theorem spares_of_checking ⦃β : Type⦄ (e : Access β) (h : Checking e) : Spares u owners e := by
  cases e with
  | write ctx op commit =>
    obtain rfl : op = .workspace .appendAudit := h
    trivial
  | request r =>
    cases r with
    | query => trivial
    | update => exact h
  | useTOTP | consumeRecoveryCode => exact h.elim
  | _ => trivial

/-! ## Failing and checking -/

/-- A denied authentication is one of nobody. -/
theorem deny_delivers {α : Type} {P : α → Prop} {actor : UUID} {action reason : String} {err : Err} :
    (denyAuthentication ctx io actor action reason err : Routine α).Delivers (DisabledAnswers u owners)
      (Spares u owners) P :=
  delivers_emits_bind (recordAuthenticationAudit_checking.mono spares_of_checking) fun _ => delivers_fail

variable {userID : UUID}

theorem recordAuthenticationFailure_spares {action : String} {countFailure : Bool} :
    (m.recordAuthenticationFailure ctx io userID action countFailure).Emits (Spares u owners) := by
  unfold recordAuthenticationFailure
  split
  · exact recordAuthenticationAudit_checking.mono spares_of_checking
  · refine emits_bind emits_lift fun event => ?_
    exact emits_bind (emits_mapError (emits_call trivial)) fun _ => emits_pure

/-- **An active user is another**: the check fails for the user that is disabled. -/
theorem requireActiveUser_delivers :
    (requireActiveUser ctx userID).Delivers (DisabledAnswers u owners) (Spares u owners)
      fun _ => userID ≠ u := by
  refine delivers_bind (P := fun _ => userID ≠ u) (delivers_expect_read trivial ?_)
    fun _ hne => delivers_pure hne
  intro user hanswer henabled heq
  have hdisabled := hanswer user rfl (.inl heq)
  rw [henabled] at hdisabled
  cases hdisabled

/-- …and so is one that is read and found enabled. -/
theorem ne_of_enabled {user : User}
    (hanswer : DisabledAnswers u owners (.read ctx (.userByID userID)) (.ok user))
    (henabled : user.disabled = false) : userID ≠ u ∧ user.id ≠ u := by
  constructor <;> intro heq
  · exact Bool.false_ne_true (henabled.symm.trans (hanswer user rfl (.inl heq)))
  · exact Bool.false_ne_true (henabled.symm.trans (hanswer user rfl (.inr heq)))

/-! ## Passwords -/

section Password

variable {userID : UUID} {password hash : String} (hne : userID ≠ u)

theorem failStalePassword_spares {cause : Err} :
    (failStalePassword ctx io userID cause : Routine String).Emits (Spares u owners) := by
  unfold failStalePassword
  split
  · exact denyAuthentication_checking.mono spares_of_checking
  · exact emits_fail

theorem confirmPasswordCurrent_spares :
    (m.confirmPasswordCurrent ctx userID password hash).Emits (Spares u owners) := by
  refine emits_bind (emits_mapError (emits_read trivial)) fun credential => ?_
  split
  · exact emits_pure
  · refine emits_bind emits_lift fun verified => ?_
    exact emits_bind emits_demand fun _ => emits_pure

include hne

theorem recordPasswordAuthentication_spares :
    (recordPasswordAuthentication ctx io userID hash).Emits (Spares u owners) :=
  emits_bind emits_lift fun _ => emits_mapError (emits_write hne)

theorem finalizePassword_spares {retries : ℕ} :
    (m.finalizePassword ctx userID password retries io hash).Emits (Spares u owners) := by
  induction retries generalizing io hash with
  | zero =>
    refine emits_handle ?_ fun e => ?_
    · exact emits_bind (recordPasswordAuthentication_spares hne) fun _ => emits_pure
    · split
      · exact emits_fail
      · exact failStalePassword_spares
  | succ retries ih =>
    refine emits_handle ?_ fun e => ?_
    · exact emits_bind (recordPasswordAuthentication_spares hne) fun _ => emits_pure
    · split
      · exact emits_fail
      · refine emits_bind ?_ fun refreshed => ih
        exact emits_handle confirmPasswordCurrent_spares fun _ => failStalePassword_spares

theorem finishPassword_spares {pending : Bool} :
    (m.finishPassword ctx io userID password hash pending).Emits (Spares u owners) := by
  unfold finishPassword
  split
  · refine emits_bind ?_ fun refreshed => ?_
    · exact emits_handle confirmPasswordCurrent_spares fun _ => failStalePassword_spares
    · refine emits_bind emits_lift fun event => ?_
      exact emits_bind (emits_mapError (emits_write trivial)) fun _ =>
        emits_pure
  · exact finalizePassword_spares hne

theorem rehashVerified_spares {rehash : Bool} :
    (rehashVerified ctx io userID password hash rehash).Emits (Spares u owners) := by
  unfold rehashVerified
  split
  · exact emits_pure
  · refine emits_bind emits_lift fun newHash => ?_
    refine emits_bind emits_lift fun event => ?_
    refine emits_bind emits_lift fun _ => ?_
    refine emits_handle ?_ fun e => ?_
    · exact emits_bind (emits_write hne) fun _ => emits_pure
    · split
      · exact emits_pure
      · exact emits_fail

theorem completePassword_delivers {rehash : Bool} :
    Others u owners (m.completePassword ctx io userID password hash rehash) := by
  refine delivers_emits_bind (rehashVerified_spares hne) fun currentHash => ?_
  refine delivers_emits_bind (emits_find trivial) fun factor => ?_
  refine delivers_emits_bind (finishPassword_spares hne) fun finished => ?_
  exact delivers_pure hne

end Password

/-- What a sign-in reads of the user that is disabled is disabled. -/
def ReadDisabled (u : UUID) (signIn : SignIn) : Prop :=
  ∀ user, signIn.user = some user → user.id = u → user.disabled = true

theorem readHash_delivers {user : User} (hdisabled : user.id = u → user.disabled = true) :
    (m.readHash ctx user).Delivers (DisabledAnswers u owners) (Spares u owners) (ReadDisabled u) := by
  have hread : ∀ signIn : SignIn, signIn.user = some user → ReadDisabled u signIn := by
    intro signIn hsignIn user' huser'
    rw [hsignIn] at huser'
    exact Option.some.inj huser' ▸ hdisabled
  have hthrottle : ∀ hash, (m.readThrottle ctx user hash).Delivers (DisabledAnswers u owners)
      (Spares u owners) (ReadDisabled u) := by
    intro hash
    unfold readThrottle
    split
    · exact delivers_pure (hread _ rfl)
    · refine delivers_emits_bind (emits_attempt (emits_read trivial)) fun r => ?_
      match r with
      | .ok throttle => exact delivers_pure (hread _ rfl)
      | .error e => exact delivers_pure (hread _ rfl)
  refine delivers_emits_bind (emits_attempt (emits_read trivial)) fun r => ?_
  match r with
  | .ok credential => exact hthrottle credential.hash
  | .error e =>
    dsimp only
    split
    · exact hthrottle m.dummyHash
    · exact delivers_pure (hread _ rfl)

theorem readSignIn_delivers {address : String} :
    (m.readSignIn ctx address).Delivers (DisabledAnswers u owners) (Spares u owners) (ReadDisabled u) := by
  refine delivers_bind (delivers_attempt (delivers_read (P := fun user =>
    user.id = u → user.disabled = true) trivial fun user hanswer => hanswer user rfl)) fun r hr => ?_
  match r with
  | .ok user => exact readHash_delivers (hr user rfl)
  | .error e => exact delivers_pure fun _ h => nomatch h

theorem authenticatePassword_delivers {email password : String} :
    Others u owners (m.authenticatePassword ctx io email password) := by
  refine delivers_emits_bind (domainRequiresSSO_checking.mono spares_of_checking) fun _ => ?_
  refine delivers_bind readSignIn_delivers fun signIn hsignIn => ?_
  refine delivers_emits_bind emits_lift fun verified => ?_
  refine delivers_demand_bind fun _ => ?_
  unfold judgePassword
  dsimp only
  split
  · exact deny_delivers
  · split
    case h_1 user huser =>
      simp only [Option.filter_eq_some_iff, decide_eq_true_eq] at huser
      refine completePassword_delivers fun heq => ?_
      have hdisabled := hsignIn user huser.1 heq
      rw [huser.2.2] at hdisabled
      cases hdisabled
    · exact delivers_emits_bind recordAuthenticationFailure_spares fun _ =>
        delivers_fail

/-! ## Second factors and sessions -/

theorem consumeCode_spares {commit : Commit} {digests : List Bytes} (hne : userID ≠ u) :
    (consumeCode ctx io userID commit digests).Emits (Spares u owners) := by
  induction digests generalizing io with
  | nil => exact emits_pure
  | cons digest digests ih =>
    refine emits_bind (emits_mapError (emits_call hne)) fun used => ?_
    split
    · exact emits_pure
    · exact ih

theorem verifyFactor_delivers {actor : Authentication} {code : String}
    {validate : String → Bytes → Time → Option Int} {factor : TOTPFactor} (hne : actor.userID ≠ u) :
    Others u owners (m.verifyFactor ctx io actor code validate factor) := by
  refine delivers_emits_bind emits_lift fun secret => ?_
  split
  · refine delivers_emits_bind emits_lift fun event => ?_
    refine delivers_emits_bind (emits_mapError (emits_call hne)) fun used => ?_
    split
    · exact delivers_pure hne
    · exact deny_delivers
  · refine delivers_emits_bind emits_lift fun event => ?_
    refine delivers_emits_bind (consumeCode_spares hne) fun used => ?_
    split
    · exact delivers_pure hne
    · exact delivers_emits_bind recordAuthenticationFailure_spares fun _ =>
        delivers_fail

theorem verifyTOTP_delivers {actor : Authentication} {code : String} :
    Others u owners (m.verifyTOTP ctx io actor code) := by
  unfold verifyTOTP
  split
  · exact delivers_fail
  · refine delivers_demand_bind fun _ => ?_
    refine delivers_emits_bind (requireUnlocked_checking.mono spares_of_checking) fun _ => ?_
    refine delivers_bind requireActiveUser_delivers fun _ hne => ?_
    exact delivers_emits_bind (emits_expect_read trivial) fun factor => verifyFactor_delivers hne

variable {raw : String}

theorem authenticateSession_delivers : Others u owners (m.authenticateSession ctx io raw) := by
  refine delivers_demand_bind fun _ => ?_
  refine delivers_emits_bind emits_lift fun sessionID => ?_
  refine delivers_bind (delivers_mapError (delivers_read (P := fun session =>
    owners.session session.id = session.userID) trivial fun session hanswer => hanswer session rfl))
    fun session howner => ?_
  split
  · exact deny_delivers
  · refine delivers_bind (delivers_find trivial fun user hanswer => hanswer) fun user huser => ?_
    split
    · exact deny_delivers
    case isFalse henabled =>
      obtain ⟨user, rfl, hactive⟩ : ∃ user', user = some user' ∧ user'.disabled = false := by
        match user with
        | none => exact absurd rfl henabled
        | some user => exact ⟨user, rfl, Bool.eq_false_iff.mpr henabled⟩
      have hne : session.userID ≠ u := (ne_of_enabled (huser user rfl) hactive).1
      unfold touchedSession
      split
      · exact delivers_pure hne
      · refine delivers_emits_bind emits_lift fun event => ?_
        refine delivers_emits_bind (emits_mapError (emits_write ?_)) fun _ =>
          delivers_pure hne
        exact fun heq => hne (howner.symm.trans heq)

/-! ## Links and codes sent by e-mail -/

section Email

variable {userID : UUID}

theorem recheckEmailProof_spares {emailID : UUID} {action : String} :
    (m.recheckEmailProof ctx io userID emailID action).Emits (Spares u owners) := by
  refine emits_bind (emits_mapError ?_) fun address => ?_
  · refine emits_bind (emits_call trivial) fun emails => ?_
    split
    · exact emits_pure
    · exact emits_fail
  · refine emits_bind (domainRequiresSSO_checking.mono spares_of_checking) fun _ => ?_
    exact requireUnlocked_checking.mono spares_of_checking

theorem consumeEmailProof_delivers {tokenID : UUID} {action : String} (hne : userID ≠ u) :
    Others u owners (consumeEmailProof ctx io userID tokenID action) := by
  refine delivers_emits_bind (emits_find trivial) fun factor => ?_
  refine delivers_emits_bind emits_lift fun event => ?_
  exact delivers_emits_bind (emits_mapError (emits_write hne)) fun _ =>
    delivers_pure hne

/-- An account that is read and found enabled is that of another user. -/
theorem attempt_user_delivers :
    (Routine.read ctx (.userByID userID)).attempt.Delivers (DisabledAnswers u owners) (Spares u owners)
      fun r => ∀ user, r = .ok user → user.disabled = false → userID ≠ u ∧ user.id ≠ u :=
  delivers_attempt (delivers_read trivial fun _ hanswer henabled => ne_of_enabled hanswer henabled)

theorem ne_of_filter {r : Except Err User} {user : User}
    (hr : ∀ user, r = .ok user → user.disabled = false → userID ≠ u ∧ user.id ≠ u)
    (huser : r.toOption.filter (fun user => user.disabled = false) = some user) : user.id ≠ u := by
  simp only [Option.filter_eq_some_iff, decide_eq_true_eq] at huser
  refine (hr user ?_ huser.2).2
  match r, huser.1 with
  | .ok _, heq => rw [Option.some.inj heq]

theorem completeEmailAuthentication_delivers {raw : String} :
    Others u owners (m.completeEmailAuthentication ctx io raw) := by
  refine delivers_emits_bind emits_lift fun tokenID => ?_
  refine delivers_emits_bind (emits_mapError (emits_read trivial)) fun credential => ?_
  unfold redeemLink
  split
  · exact deny_delivers
  · split
    · exact deny_delivers
    · refine delivers_bind attempt_user_delivers fun r hr => ?_
      split
      · exact deny_delivers
      case h_2 user huser =>
        refine delivers_emits_bind recheckEmailProof_spares fun _ => ?_
        exact consumeEmailProof_delivers (ne_of_filter hr huser)

theorem completeEmailOTP_delivers {continuation code : String} :
    Others u owners (m.completeEmailOTP ctx io continuation code) := by
  refine delivers_emits_bind emits_lift fun credentialID => ?_
  refine delivers_emits_bind (emits_find trivial) fun found => ?_
  match found with
  | none => exact deny_delivers
  | some credential =>
    dsimp only
    unfold redeemCode
    split
    · exact deny_delivers
    · refine delivers_bind attempt_user_delivers fun r hr => ?_
      split
      · exact deny_delivers
      case h_2 user huser =>
        refine delivers_emits_bind recheckEmailProof_spares fun _ => ?_
        split
        · exact consumeEmailProof_delivers (ne_of_filter hr huser)
        · exact delivers_emits_bind recordAuthenticationFailure_spares fun _ =>
            delivers_fail

end Email

/-! ## Passkeys -/

section Passkey

variable {userID : UUID}

theorem openPasskeys_spares : (m.openPasskeys ctx userID).Emits (Spares u owners) :=
  emits_bind (emits_attempt (emits_read trivial)) fun _ => emits_pure

theorem requirePasskeyAccount_delivers {action : String} :
    (m.requirePasskeyAccount ctx io userID action).Delivers (DisabledAnswers u owners) (Spares u owners)
      fun _ => userID ≠ u := by
  refine delivers_bind (P := fun _ => userID ≠ u)
    (delivers_expect_read trivial fun user hanswer henabled => (ne_of_enabled hanswer henabled).1)
    fun record hne => ?_
  exact (delivers_of_emits (domainRequiresSSO_checking.mono spares_of_checking)).mono fun _ _ => hne

theorem commitPasskeyAuthentication_delivers {state : CeremonyContinuation}
    {credentialID credentialJSON : Bytes} (hne : userID ≠ u) :
    Others u owners (commitPasskeyAuthentication ctx io state userID credentialID credentialJSON) := by
  refine delivers_emits_bind emits_lift fun event => ?_
  refine delivers_emits_bind emits_lift fun sealedCredential => ?_
  refine delivers_emits_bind (emits_attempt (emits_read trivial)) fun _ => ?_
  exact delivers_emits_bind (emits_mapError (emits_write hne)) fun _ =>
    delivers_pure hne

theorem finishPasskeyAuthentication_delivers {continuation : String} {response : Bytes} :
    Others u owners (m.finishPasskeyAuthentication ctx io continuation response) := by
  unfold finishPasskeyAuthentication
  split
  · exact delivers_fail
  · refine delivers_emits_bind emits_lift fun state => ?_
    refine delivers_emits_bind (emits_mapError (emits_read trivial)) fun user => ?_
    refine delivers_bind requirePasskeyAccount_delivers fun _ hne => ?_
    refine delivers_emits_bind openPasskeys_spares fun credentials => ?_
    split
    · exact deny_delivers
    · exact commitPasskeyAuthentication_delivers hne

/-- The lookups of a discoverable ceremony read. -/
theorem runDiscoverable_spares (ceremony : Program Lookup (Except Err (Bytes × Bytes))) :
    (m.runDiscoverable ctx userID ceremony).Emits (Spares u owners) := by
  induction ceremony generalizing userID with
  | ret r => exact emits_pure
  | op e k ih =>
    cases e with
    | credential credentialID =>
      refine emits_bind (emits_attempt ?_) fun answer => ih _
      refine emits_bind (emits_read trivial) fun passkey => ?_
      refine emits_bind (emits_read trivial) fun user => ?_
      exact emits_bind openPasskeys_spares fun _ => emits_pure

theorem finishDiscoverablePasskeyAuthentication_delivers {continuation : String} {response : Bytes} :
    Others u owners (m.finishDiscoverablePasskeyAuthentication ctx io continuation response) := by
  unfold finishDiscoverablePasskeyAuthentication
  split
  · exact delivers_fail
  · refine delivers_emits_bind emits_lift fun state => ?_
    refine delivers_emits_bind (runDiscoverable_spares _) fun resolved => ?_
    unfold finishResolved
    split
    · exact delivers_fail
    · split
      · exact deny_delivers
      · exact delivers_bind requirePasskeyAccount_delivers fun _ hne =>
          commitPasskeyAuthentication_delivers hne

end Passkey

/-! ## Personal access tokens -/

theorem readPAT_delivers : (m.readPAT ctx raw).Delivers (DisabledAnswers u owners) (Spares u owners)
      fun found => ∀ pat, found = some pat → owners.pat pat.id = pat.userID := by
  unfold readPAT
  split
  · exact delivers_pure fun _ h => nomatch h
  · refine delivers_bind (delivers_attempt (delivers_read (P := fun pat =>
      owners.pat pat.id = pat.userID) trivial fun pat hanswer => hanswer pat rfl)) fun r hr => ?_
    refine delivers_pure fun pat hpat => hr pat ?_
    match r, hpat with
    | .ok _, heq => rw [Option.some.inj heq]

theorem rejectPAT_delivers {pat : Option PAT} : Others u owners (rejectPAT ctx io pat) := by
  unfold rejectPAT
  dsimp only
  split
  · refine delivers_emits_bind emits_lift fun event => ?_
    exact delivers_emits_bind (emits_mapError (emits_write trivial)) fun _ =>
      delivers_fail
  · exact deny_delivers

theorem requirePATWorkspace_spares {pat : PAT} : (m.requirePATWorkspace ctx pat).Emits (Spares u owners) := by
  unfold requirePATWorkspace
  split
  · exact emits_pure
  · exact emits_mapError ((m.toManager.authorizePermission_reading ctx _ pat.workspaceID
      "workspace.access").mono fun _ e he => spares_of_checking e (checking_of_reading e he))

theorem acceptPAT_delivers {now : Time} {pat : PAT} (howner : owners.pat pat.id = pat.userID) :
    Others u owners (m.acceptPAT ctx io now pat) := by
  refine delivers_bind attempt_user_delivers fun r hr => ?_
  split
  case isTrue henabled =>
    have hne : pat.userID ≠ u := by
      match r, henabled with
      | .ok user, henabled => exact (hr user rfl (of_decide_eq_true henabled)).1
    refine delivers_emits_bind requirePATWorkspace_spares fun _ => ?_
    unfold touchedPAT
    dsimp only
    split
    · exact delivers_pure hne
    · refine delivers_emits_bind emits_lift fun event => ?_
      refine delivers_emits_bind (emits_mapError (emits_write ?_)) fun _ =>
        delivers_pure hne
      exact fun heq => hne (howner.symm.trans heq)
  case isFalse => exact deny_delivers

theorem authenticatePAT_delivers : Others u owners (m.authenticatePAT ctx io raw) := by
  refine delivers_bind readPAT_delivers fun found hfound => ?_
  split
  · exact rejectPAT_delivers
  case h_2 pat hpat => exact acceptPAT_delivers (hfound pat (Option.filter_eq_some_iff.mp hpat).1)

/-! ## External identities -/

section SSO

variable {provider : SSOProvider} {state : SSOContinuation} {claims : SSOClaims} {level : AssuranceLevel}

theorem denySSO_delivers {userID : UUID} {reason : String} {err : Err} :
    Others u owners (denySSO ctx io userID reason err) := by
  unfold denySSO
  split
  · exact delivers_fail
  · exact deny_delivers

/-- A ceremony links an identity to the user it was begun for. -/
theorem finishSSOLink_delivers (hne : state.userID ≠ u) :
    Others u owners (m.finishSSOLink ctx io provider state claims level) := by
  refine delivers_emits_bind emits_lift fun id => ?_
  refine delivers_emits_bind emits_lift fun event => ?_
  refine delivers_emits_bind emits_lift fun change => ?_
  exact delivers_emits_bind (emits_mapError (emits_write hne)) fun _ =>
    delivers_pure hne

/-- A user that is provisioned is a new one. -/
theorem finishSSOJIT_delivers : Others u owners (m.finishSSOJIT ctx io provider state claims level) := by
  refine delivers_demand_bind fun _ => ?_
  refine delivers_emits_bind emits_lift fun name => ?_
  refine delivers_emits_bind (emits_mapError (emits_read trivial)) fun domain => ?_
  refine delivers_demand_bind fun _ => ?_
  refine delivers_emits_bind (emits_mapError (emits_read trivial)) fun workspace => ?_
  refine delivers_demand_bind fun _ => ?_
  refine delivers_emits_bind (emits_find trivial) fun owner => ?_
  refine delivers_demand_bind fun _ => ?_
  refine delivers_lift_bind fun new hnew => ?_
  have hidentity : new.identity.userID = new.user.id := by
    simp only [provision, check_bind, check_pure] at hnew
    obtain ⟨_, -, _, -, _, -, _, -, _, -, _, -, _, -, rfl⟩ := hnew
    rfl
  refine delivers_bind (P := fun _ => new.user.id ≠ u) (delivers_mapError ?_) fun _ hne => delivers_pure hne
  exact delivers_call hidentity fun _ hanswer heq => hanswer heq rfl

theorem touchIdentity_delivers {identity : SSOIdentity} :
    Others u owners (touchIdentity ctx io state identity level) := by
  refine delivers_demand_bind fun _ => ?_
  refine delivers_bind (P := fun user => user.id ≠ u)
    (delivers_expect_read trivial fun user hanswer henabled => (ne_of_enabled hanswer henabled).2)
    fun user hne => ?_
  refine delivers_emits_bind emits_lift fun event => ?_
  exact delivers_emits_bind (emits_mapError (emits_write hne)) fun _ =>
    delivers_pure hne

theorem finishClaims_delivers (hlink : state.operation = .link → state.userID ≠ u) :
    Others u owners (m.finishClaims ctx io provider state claims level) := by
  unfold finishClaims
  split
  case isTrue h => exact finishSSOLink_delivers (hlink h)
  case isFalse =>
    refine delivers_emits_bind (emits_find trivial) fun found => ?_
    match found with
    | some identity => exact touchIdentity_delivers
    | none =>
      dsimp only
      split
      · exact finishSSOJIT_delivers
      · exact delivers_fail

theorem finishSSO_delivers {continuation : String} {response : Bytes}
    (hlink : ∀ state, decodeSSOContinuation (io.now 0) (m.openSSO continuation) = .ok state →
      state.operation = .link → state.userID ≠ u) :
    Others u owners (m.finishSSO ctx io continuation response) := by
  refine delivers_lift_bind fun state hstate => ?_
  split
  · exact delivers_fail
  · split
    · exact denySSO_delivers
    · refine delivers_emits_bind emits_lift fun claims => ?_
      split
      · exact denySSO_delivers
      · refine delivers_emits_bind emits_lift fun claims => ?_
        exact finishClaims_delivers (hlink state hstate)

end SSO

/-! ## Every sign-in -/

/-- The functions that return an authentication, with their arguments.  `sso` is a sign-in, a step-up or
the link of an identity, as its continuation was sealed for. -/
inductive SignInCall
  | password (email password : String)
  | totp (actor : Authentication) (code : String)
  | emailLink (raw : String)
  | emailCode (continuation code : String)
  | passkey (continuation : String) (response : Bytes)
  | discoverablePasskey (continuation : String) (response : Bytes)
  | session (raw : String)
  | pat (raw : String)
  | sso (continuation : String) (response : Bytes)

namespace SignInCall

/-- The function that is called. -/
def routine (m : Accounts) (ctx : Context) (io : AccountSupply) : SignInCall → Routine Authentication
  | .password email supplied => m.authenticatePassword ctx io email supplied
  | .totp actor code => m.verifyTOTP ctx io actor code
  | .emailLink raw => m.completeEmailAuthentication ctx io raw
  | .emailCode continuation code => m.completeEmailOTP ctx io continuation code
  | .passkey continuation response => m.finishPasskeyAuthentication ctx io continuation response
  | .discoverablePasskey continuation response =>
      m.finishDiscoverablePasskeyAuthentication ctx io continuation response
  | .session raw => m.authenticateSession ctx io raw
  | .pat raw => m.authenticatePAT ctx io raw
  | .sso continuation response => m.finishSSO ctx io continuation response

/-- The call finishes a ceremony that links an identity to the user. -/
def Links (m : Accounts) (io : AccountSupply) (u : UUID) : SignInCall → Prop
  | .sso continuation _ => ∃ state, decodeSSOContinuation (io.now 0) (m.openSSO continuation) = .ok state
      ∧ state.operation = .link ∧ state.userID = u
  | _ => False

/-- **A sign-in of a disabled user is refused**, and spares the credentials of the user, unless it links
an identity. -/
theorem delivers (call : SignInCall) (hlink : ¬ call.Links m io u) :
    Others u owners (call.routine m ctx io) := by
  cases call with
  | password email password => exact authenticatePassword_delivers
  | totp actor code => exact verifyTOTP_delivers
  | emailLink raw => exact completeEmailAuthentication_delivers
  | emailCode continuation code => exact completeEmailOTP_delivers
  | passkey continuation response => exact finishPasskeyAuthentication_delivers
  | discoverablePasskey continuation response => exact finishDiscoverablePasskeyAuthentication_delivers
  | session raw => exact authenticateSession_delivers
  | pat raw => exact authenticatePAT_delivers
  | sso continuation response =>
    exact finishSSO_delivers fun state hstate hop heq => hlink ⟨state, hstate, hop, heq⟩

end SignInCall

end Accounts

end Credbound
