import Credbound.Manager.Sessions

/-!
# Manager/SecondFactors — enrolling, confirming and removing a time-based factor

`ConfirmTOTPEnrollment` activates the pending factor with the step of the code that confirmed it as the last one
used.  `DisableTOTP` verifies a code on its way.  The secret that enrolling generates, and the random texts of the
recovery codes, come with the call.

* `presents_verifyTOTP`: `VerifyTOTP` succeeds only on an answer that a step or a code was used, and presents the
  step that its code is valid for, or a digest of its code.
* `activates_confirm`: what `ConfirmTOTPEnrollment` activates has the step of its code.
-/

namespace Credbound.Accounts

open Procedure
open Manager Memory

variable (m : Accounts) (ctx : Context)

/-! ## The functions -/

/-- The text of a recovery code: sixteen characters in groups of four. -/
def recoveryText (encoded : String) : String :=
  let text := encoded.toList
  "-".intercalate [String.ofList (text.take 4), String.ofList ((text.drop 4).take 4),
    String.ofList ((text.drop 8).take 4), String.ofList (text.drop 12)]

/-- `generateRecoveryCodes`: ten codes, and the records with their digests under the active pepper. -/
def generateRecoveryCodes (io : AccountSupply) (userID : UUID) : Except Err (List String × List RecoveryCode) := do
  let raw ← (List.range 10).mapM io.secret
  let codes := raw.map recoveryText
  return (codes, codes.map fun code =>
    { userID := userID, digest := (m.recoveryDigests code).headD [], usedAt := none })

/-- `BeginTOTPEnrollment`; the value is the provisioning URI. -/
def beginTOTPEnrollment (io : AccountSupply) (generate : String → Except Err (Bytes × String))
    (actor : Authentication) : Routine String := do
  demand (m.totp.isSome = true) .notSupported
  m.requireRecentInteractive ctx (io.now 0) actor
  let user ← Routine.read ctx (.userByID actor.userID)
  let generated ← lift (generate user.email)
  let encrypted ← lift (io.sealing 0 generated.1)
  let factor : TOTPFactor :=
    { userID := actor.userID, encryptedSecret := encrypted, active := false, lastUsedStep := 0
      createdAt := io.now 1, updatedAt := io.now 1 }
  let event ← lift (io.userAudit 2 actor.userID "totp.enrollment.begin" .succeeded "")
  let change ← lift (newChange io 3 "totp.enrollment" "auth.totp.enroll.begin" actor.userID 0 event)
  (Routine.write ctx (.factor (.saveTOTPEnrollment factor)) (m.transactionalCommit event [change])).mapError
    mapStoreError
  pure generated.2

/-- `ConfirmTOTPEnrollment` with the step its code is valid for. -/
def activateFactor (io : AccountSupply) (actor : Authentication) (factor : TOTPFactor) (step : Int) :
    Routine (List String) := do
  let generated ← lift (m.generateRecoveryCodes io actor.userID)
  let factor := { factor with active := true, lastUsedStep := step, updatedAt := io.now 0 }
  let event ← lift (io.userAudit 1 actor.userID "totp.enrollment.confirm" .succeeded "")
  let change ← lift (newChange io 2 "totp.activation" "auth.totp.enroll.confirm" actor.userID 0 event)
  (Routine.write ctx (.factor (.activateTOTP factor generated.2)) (m.transactionalCommit event [change])).mapError
    mapStoreError
  pure generated.1

/-- `ConfirmTOTPEnrollment` with the factor it has read. -/
def confirmFactor (io : AccountSupply) (actor : Authentication) (code : String)
    (validate : String → Bytes → Time → Option Int) (factor : TOTPFactor) : Routine (List String) := do
  let secret ← lift (m.unsealed factor.encryptedSecret)
  match validate (trimSpace code) secret (io.now 0) with
  | some step => m.activateFactor ctx (io.after 1) actor factor step
  | none =>
    denyAuthentication ctx (io.after 1) actor.userID "totp.enrollment.confirm" "invalid_credentials"
      .invalidCredentials

/-- `ConfirmTOTPEnrollment`; the value is the recovery codes. -/
def confirmTOTPEnrollment (io : AccountSupply) (actor : Authentication) (code : String) : Routine (List String) :=
  match m.totp with
  | none => fail .notSupported
  | some validate => do
    m.requireRecentInteractive ctx (io.now 0) actor
    let factor ← Routine.expect ctx (.totpByUserID actor.userID) (fun factor => factor.active = false) .notFound
    m.confirmFactor ctx (io.after 1) actor code validate factor

/-- `DisableTOTP`. -/
def disableTOTP (io : AccountSupply) (actor : Authentication) (code : String) : Routine Unit := do
  demand (m.totp.isSome = true) .notSupported
  let promoted ← m.verifyTOTP ctx io actor code
  let io := io.after (8 + (m.recoveryDigests (trimSpace code)).length)
  m.requireScopedStepUp ctx (io.now 0) promoted .account
  let event ← lift (io.userAudit 1 actor.userID "totp.disable" .succeeded "")
  let change ← lift (newChange io 2 "totp.disable" "auth.totp.disable" actor.userID 0 event)
  (Routine.write ctx (.factor (.disableTOTP actor.userID)) (m.transactionalCommit event [change])).mapError
    mapStoreError

/-- `RegenerateRecoveryCodes`; the value is the new codes. -/
def regenerateRecoveryCodes (io : AccountSupply) (actor : Authentication) : Routine (List String) := do
  demand (m.totp.isSome = true) .notSupported
  m.requireScopedStepUp ctx (io.now 0) actor .account
  let factor ← Routine.read ctx (.totpByUserID actor.userID)
  demand (factor.active = true) .notFound
  let generated ← lift (m.generateRecoveryCodes io actor.userID)
  let event ← lift (io.userAudit 1 actor.userID "totp.recovery.regenerate" .succeeded "")
  let change ← lift (newChange io 2 "totp.recovery.regeneration" "auth.totp.recovery.regenerate" actor.userID 0 event)
  (Routine.write ctx (.factor (.replaceRecoveryCodes actor.userID generated.2))
    (m.transactionalCommit event [change])).mapError mapStoreError
  pure generated.1

/-! ## The calls -/

/-- A call about the time-based factor of its actor. -/
inductive FactorCall
  | enroll (generate : String → Except Err (Bytes × String))
  | confirm (code : String)
  | verify (code : String)
  | disable (code : String)
  | regenerate

/-- A call with its actor, its context and its supply. -/
structure FactorAttempt where
  ctx : Context
  io : AccountSupply
  actor : Authentication
  call : FactorCall

/-- The call as the manager runs it; the value is the authentication of `VerifyTOTP`. -/
def FactorAttempt.routine (c : FactorAttempt) : Routine (Option Authentication) :=
  match c.call with
  | .enroll generate => m.beginTOTPEnrollment c.ctx c.io generate c.actor >>= fun _ => pure none
  | .confirm code => m.confirmTOTPEnrollment c.ctx c.io c.actor code >>= fun _ => pure none
  | .verify code => m.verifyTOTP c.ctx c.io c.actor code >>= fun authn => pure (some authn)
  | .disable code => m.disableTOTP c.ctx c.io c.actor code >>= fun _ => pure none
  | .regenerate => m.regenerateRecoveryCodes c.ctx c.io c.actor >>= fun _ => pure none

/-! ## What verifying presents -/

/-- The store answers that a step or a code was used. -/
def Used : ⦃β : Type⦄ → Access β → β → Prop
  | _, .useTOTP .., answer => answer = .ok true
  | _, .consumeRecoveryCode .., answer => answer = .ok true
  | _, _, _ => False

/-- A step or a code that is presented is of the user, and is the one that the text stands for. -/
def Presents (validate : String → Bytes → Time → Option Int) (userID : UUID) (code : String) :
    ⦃β : Type⦄ → Access β → Prop
  | _, .useTOTP _ owner step _ => owner = userID ∧ ∃ secret at', validate (trimSpace code) secret at' = some step
  | _, .consumeRecoveryCode _ owner digest _ _ => owner = userID ∧ digest ∈ m.recoveryDigests (trimSpace code)
  | _, _ => True

/-- What is activated has the step that the text is valid for. -/
def Activates (validate : String → Bytes → Time → Option Int) (code : String) : ⦃β : Type⦄ → Access β → Prop
  | _, .write _ (.factor (.activateTOTP factor codes)) _ => factor.active = true
      ∧ (∀ code ∈ codes, code.usedAt = none)
      ∧ ∃ secret at', validate (trimSpace code) secret at' = some factor.lastUsedStep
  | _, _ => True

section Presents

variable {m ctx} {io : AccountSupply} {actor : Authentication} {code : String} {userID : UUID}
  {validate : String → Bytes → Time → Option Int}

theorem presents_of_checking ⦃β : Type⦄ (e : Access β) (he : Checking e) : m.Presents validate userID code e := by
  cases e with
  | useTOTP | consumeRecoveryCode => exact he.elim
  | _ => trivial

/-- A routine of checks presents nothing. -/
theorem emits_presents {α : Type} {p : Routine α} (hp : p.Emits Checking) :
    p.Emits (m.Presents validate userID code) :=
  Program.Emits.mono hp presents_of_checking

theorem presents_denyAuthentication {α : Type} {action reason : String} {err : Err} {P : α → Prop} :
    (denyAuthentication ctx io userID action reason err : Routine α).Delivers (fun _ e r => ¬ Used e r)
      (m.Presents validate actor.userID code) P :=
  delivers_emits_bind (emits_presents recordAuthenticationAudit_checking) fun _ => delivers_fail

theorem presents_useStep {step : Int}
    (hstep : ∃ secret at', validate (trimSpace code) secret at' = some step) :
    (useStep ctx io actor step).Delivers (fun _ e r => ¬ Used e r) (m.Presents validate actor.userID code)
      fun _ => False := by
  refine delivers_lift_bind fun event _ => ?_
  refine delivers_bind (P := fun used => used = false) (delivers_mapError
    (delivers_call ⟨rfl, hstep⟩ fun used hused => ?_)) fun used hused => ?_
  · cases used with
    | false => rfl
    | true => exact absurd rfl hused
  · subst hused
    exact presents_denyAuthentication

theorem presents_consumeCode {commit : Commit} {digests : List Bytes}
    (hdigests : ∀ digest ∈ digests, digest ∈ m.recoveryDigests (trimSpace code)) :
    (consumeCode ctx io actor.userID commit digests).Delivers (fun _ e r => ¬ Used e r)
      (m.Presents validate actor.userID code) fun used => used = false := by
  induction digests generalizing io with
  | nil => exact delivers_pure rfl
  | cons digest digests ih =>
    refine delivers_bind (P := fun used => used = false) (delivers_mapError
      (delivers_call ⟨rfl, hdigests digest List.mem_cons_self⟩ fun used hused => ?_)) fun used hused => ?_
    · cases used with
      | false => rfl
      | true => exact absurd rfl hused
    · subst hused
      exact ih fun digest' hdigest' => hdigests digest' (List.mem_cons_of_mem _ hdigest')

theorem presents_recordAuthenticationFailure {action : String} :
    (m.recordAuthenticationFailure ctx io userID action true).Emits (m.Presents validate actor.userID code) := by
  unfold recordAuthenticationFailure
  split
  · exact emits_presents recordAuthenticationAudit_checking
  · refine emits_bind emits_lift fun event => ?_
    exact emits_bind (emits_mapError (emits_call trivial)) fun _ => emits_pure

/-- **Verifying succeeds only on an answer that something was used**, and presents what its text stands for. -/
theorem presents_verifyTOTP (hm : m.totp = some validate) :
    (m.verifyTOTP ctx io actor code).Delivers (fun _ e r => ¬ Used e r) (m.Presents validate actor.userID code)
      fun _ => False := by
  unfold verifyTOTP
  rw [hm]
  refine delivers_demand_bind fun _ => ?_
  refine delivers_emits_bind (emits_presents requireUnlocked_checking) fun _ => ?_
  refine delivers_emits_bind (emits_bind (emits_expect_read trivial) fun _ => emits_pure) fun _ => ?_
  refine delivers_emits_bind (emits_expect_read trivial) fun factor => ?_
  refine delivers_lift_bind fun secret _ => ?_
  cases hvalid : validate (trimSpace code) secret ((io.after 1).now 0) with
  | some step =>
    dsimp only
    exact presents_useStep ⟨secret, _, hvalid⟩
  | none =>
    dsimp only
    refine delivers_lift_bind fun event _ => ?_
    refine delivers_bind (presents_consumeCode fun _ h => h) fun used hused => ?_
    subst hused
    exact delivers_emits_bind presents_recordAuthenticationFailure fun _ => delivers_fail

/-- **What confirming activates has the step of its code.** -/
theorem activates_confirm (hm : m.totp = some validate) :
    (m.confirmTOTPEnrollment ctx io actor code).Emits (Activates validate code) := by
  have hchecking : ∀ {α : Type} {p : Routine α}, p.Emits Checking → p.Emits (Activates validate code) := by
    intro α p hp
    refine Program.Emits.mono hp fun β e he => ?_
    cases e with
    | write ctx op commit =>
      obtain rfl : op = .workspace .appendAudit := he
      trivial
    | _ => trivial
  unfold confirmTOTPEnrollment
  rw [hm]
  refine emits_bind ?_ fun _ => ?_
  · refine emits_bind emits_demand fun _ => ?_
    refine emits_bind emits_demand fun _ => ?_
    exact emits_bind (emits_expect_read trivial) fun _ => emits_pure
  refine emits_bind (emits_expect_read trivial) fun factor => ?_
  refine emits_lift_bind fun secret _ => ?_
  cases hvalid : validate (trimSpace code) secret ((io.after 1).now 0) with
  | some step =>
    dsimp only
    refine emits_lift_bind fun generated hgenerated => ?_
    refine emits_bind emits_lift fun event => ?_
    refine emits_bind emits_lift fun change => ?_
    refine emits_bind (emits_mapError (emits_write ?_)) fun _ => emits_pure
    refine ⟨rfl, ?_, secret, _, hvalid⟩
    intro record hrecord
    simp only [generateRecoveryCodes, check_bind, check_pure] at hgenerated
    obtain ⟨raw, -, rfl⟩ := hgenerated
    obtain ⟨text, -, rfl⟩ := List.mem_map.mp hrecord
    rfl
  | none =>
    dsimp only
    exact hchecking denyAuthentication_checking

end Presents

end Credbound.Accounts
