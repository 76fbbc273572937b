import Credbound.Stores.Mutations

/-!
# Stores/StepUp — the policies of a step-up, from the strictest to the loosest

A policy asks for the full step-up of everybody, of those who have a factor to show, or of nobody; whom it
does not ask it leaves to `requireInteractive`.  Both gates come down to the actor and to what the store
answers (`succeeds_iff_of_applies`), for any store whose reads change nothing, whatever they fail with.  What
passes the full step-up passes the other gate, and that puts the policies in order (`policies_ordered`).
-/

namespace Credbound.Accounts

open Procedure Manager Memory Stores

section

variable {S : Type} (h : Program.Handler Access S) (m : Accounts) (ctx : Context) (now : Time) (authn : Authentication)
  (scope : StepUpScope) (s : S)

/-- The user is found, and enabled. -/
def FoundEnabled : Prop := ∃ user, (h (.read ctx (.userByID authn.userID)) s).1 = .ok user ∧ user.disabled = false

/-- What `requireInteractive` asks. -/
def Floor : Prop :=
  authn.userID ≠ 0 ∧ (authn.interactive ∧ authn.secondFactorRequired = false) ∧ FoundEnabled h ctx authn s

/-- What the full step-up asks. -/
def Full : Prop := m.requireStepUp now authn = .ok () ∧ FoundEnabled h ctx authn s

/-- An active TOTP factor is found, or a passkey where a provider is configured. -/
def Enrolled : Prop :=
  (∃ factor, (h (.read ctx (.totpByUserID authn.userID)) s).1 = .ok factor ∧ factor.active = true)
    ∨ m.passkeys.isSome ∧ ∃ passkeys, (h (.read ctx (.passkeys authn.userID)) s).1 = .ok passkeys ∧ passkeys ≠ []

/-- The manager with another policy for the scope. -/
def withPolicy (policy : StepUpPolicy) : Accounts := { m with stepUp := Function.update m.stepUp scope policy }

/-- `RequireStepUpFor` accepts the actor under this policy of the scope. -/
def Accepts (policy : StepUpPolicy) : Prop :=
  Succeeds h ((m.withPolicy scope policy).requireScopedStepUp ctx now authn scope) s

variable {h m ctx now authn scope s}

theorem Full.floor (hfull : Full h m ctx now authn s) : Floor h ctx authn s := by
  obtain ⟨hstep, huser⟩ := hfull
  simp only [requireStepUp, check_bind, require_eq_ok] at hstep
  obtain ⟨_, hactor, hinteractive, -, hsecond, -⟩ := hstep
  exact ⟨hactor, ⟨hinteractive, hsecond⟩, huser⟩

/-- The gate, once it is decided whether the policy asks for the step-up. -/
theorem succeeds_iff_of_applies {b : Bool}
    (hb : (m.stepUpApplies ctx authn.userID scope).program.exec h s = (.ok b, s)) :
    Succeeds h (m.requireScopedStepUp ctx now authn scope) s
      ↔ if b then Full h m ctx now authn s else Floor h ctx authn s := by
  have happlies : ∀ a t, (m.stepUpApplies ctx authn.userID scope).Runs h Eq (fun _ _ _ => True) s (.ok a) t
      ↔ a = b ∧ t = s := by
    intro a t
    rw [Procedure.Runs, Program.runs_alone, hb, Prod.mk.injEq, Except.ok.injEq, eq_comm, @eq_comm _ s]
  simp only [Succeeds, requireScopedStepUp, runs_bind_ok, happlies, and_assoc]
  cases b with
  | true => simp [Full, FoundEnabled, requireActiveUser, Routine.expect, eq_comm (a := Except.ok ())]
  | false => simp [Floor, FoundEnabled, requireInteractive, requireActiveUser, Routine.expect, and_assoc]

/-- Whether a user can step up is decided by two reads, and never fails. -/
theorem exec_stepUpCapable (hreads : ∀ ⦃β : Type⦄ (e : Access β) s, Reading e → (h e s).2 = s) :
    ∃ b, (m.stepUpCapable ctx authn.userID).program.exec h s = (.ok b, s)
      ∧ (Enrolled h m ctx authn s → authn.userID ≠ 0 → b = true) := by
  have hread : ∀ {α β : Type} (read : Read α) (f : Except Err α → Routine β),
      ((Routine.read ctx read).attempt >>= f).program.exec h s = (f (h (.read ctx read) s).1).program.exec h s := by
    intro _ _ read f
    rw [attempt_bind]
    exact congrArg (Program.exec h (f _).program) (hreads (.read ctx read) s trivial)
  unfold stepUpCapable
  split
  · next hzero => exact ⟨false, rfl, fun _ hne => absurd hzero hne⟩
  · rw [hread]
    dsimp only
    -- an active factor settles it; without one it is up to the passkeys
    split_ifs with hactive hnone
    · exact ⟨true, rfl, fun _ _ => rfl⟩
    all_goals
      have hpasskey : Enrolled h m ctx authn s → m.passkeys.isSome ∧ ∃ passkeys,
          (h (.read ctx (.passkeys authn.userID)) s).1 = .ok passkeys ∧ passkeys ≠ [] := by
        rintro (⟨factor, hfactor, hfactorActive⟩ | hpasskey)
        · rw [hfactor] at hactive
          exact absurd hfactorActive hactive
        · exact hpasskey
    · refine ⟨false, rfl, fun henrolled => ?_⟩
      rw [Option.isNone_iff_eq_none.mp hnone] at hpasskey
      cases (hpasskey henrolled).1
    · rw [hread]
      cases hanswer : (h (.read ctx (.passkeys authn.userID)) s).1 with
      | error e => exact ⟨true, rfl, fun _ _ => rfl⟩
      | ok passkeys =>
        refine ⟨decide (passkeys ≠ []), rfl, fun henrolled _ => ?_⟩
        obtain ⟨-, _, hsame, hne⟩ := hpasskey henrolled
        exact decide_eq_true (Except.ok.inj (hanswer.symm.trans hsame) ▸ hne)

theorem stepUp_withPolicy (policy : StepUpPolicy) : (m.withPolicy scope policy).stepUp scope = policy :=
  Function.update_self ..

/-- **The policies are ordered**: whom the strictest accepts the middle one accepts, and whom that one accepts the
loosest accepts; every one accepts only interactive actors without a pending factor whose user is enabled; and of a
user with a factor to show the middle one asks what the strictest asks. -/
theorem policies_ordered (hreads : ∀ ⦃β : Type⦄ (e : Access β) s, Reading e → (h e s).2 = s) (m : Accounts)
    (ctx : Context) (now : Time) (authn : Authentication) (scope : StepUpScope) (s : S) :
    (Accepts h m ctx now authn scope s .required → Accepts h m ctx now authn scope s .userCapable)
      ∧ (Accepts h m ctx now authn scope s .userCapable → Accepts h m ctx now authn scope s .none)
      ∧ (∀ policy, Accepts h m ctx now authn scope s policy →
        authn.interactive = true ∧ authn.secondFactorRequired = false ∧ FoundEnabled h ctx authn s)
      ∧ (Enrolled h m ctx authn s →
        (Accepts h m ctx now authn scope s .userCapable ↔ Accepts h m ctx now authn scope s .required)) := by
  obtain ⟨b, hexec, henrolled⟩ : ∃ b, (m.stepUpCapable ctx authn.userID).program.exec h s = (.ok b, s)
      ∧ (Enrolled h m ctx authn s → authn.userID ≠ 0 → b = true) := exec_stepUpCapable hreads
  have hrequired : Accepts h m ctx now authn scope s .required ↔ Full h m ctx now authn s :=
    succeeds_iff_of_applies (b := true) (by rw [stepUpApplies, stepUp_withPolicy]; rfl)
  have hnone : Accepts h m ctx now authn scope s .none ↔ Floor h ctx authn s :=
    succeeds_iff_of_applies (b := false) (by rw [stepUpApplies, stepUp_withPolicy]; rfl)
  have hcapable : Accepts h m ctx now authn scope s .userCapable
      ↔ if b then Full h m ctx now authn s else Floor h ctx authn s :=
    succeeds_iff_of_applies (by rw [stepUpApplies, stepUp_withPolicy]; exact hexec)
  have hfloor : ∀ policy, Accepts h m ctx now authn scope s policy → Floor h ctx authn s := by
    intro policy haccepts
    cases policy with
    | required => exact (hrequired.mp haccepts).floor
    | none => exact hnone.mp haccepts
    | userCapable =>
      have hgate := hcapable.mp haccepts
      split at hgate
      · exact hgate.floor
      · exact hgate
  refine ⟨fun haccepts => hcapable.mpr ?_, fun haccepts => hnone.mpr (hfloor _ haccepts), ?_, ?_⟩
  · have hfull := hrequired.mp haccepts
    split
    · exact hfull
    · exact hfull.floor
  · intro policy haccepts
    obtain ⟨-, ⟨hinteractive, hsecond⟩, huser⟩ := hfloor policy haccepts
    exact ⟨hinteractive, hsecond, huser⟩
  · intro hfactor
    by_cases hactor : authn.userID = 0
    · exact iff_of_false (fun haccepts => (hfloor _ haccepts).1 hactor) fun haccepts => (hfloor _ haccepts).1 hactor
    · rw [hcapable, hrequired, henrolled hfactor hactor]
      exact Iff.rfl

end

/-- The administrator stepped up a while ago, and passes under every policy. -/
theorem tenantAdministrator_accepted :
    let accepted := Accepts access tenantAccounts {} 1000 tenantAdministrator .admin (Store.after tenantCalls)
    accepted .required ∧ accepted .userCapable ∧ accepted .none := by
  have hrequired : Accepts access tenantAccounts {} 1000 tenantAdministrator .admin (Store.after tenantCalls) .required :=
    succeeds_iff.mpr ⟨(), by decide +kernel⟩
  obtain ⟨hcapable, hnone, -⟩ := policies_ordered access_reading tenantAccounts {} 1000 tenantAdministrator .admin
    (Store.after tenantCalls)
  exact ⟨hrequired, hcapable hrequired, hnone (hcapable hrequired)⟩

end Credbound.Accounts
