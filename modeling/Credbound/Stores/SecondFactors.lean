import Credbound.Manager.SecondFactors
import Credbound.Memory.SecondFactors
import Credbound.Stores.Switches
import Credbound.TOTPAdapter.Provider

/-!
# Stores/SecondFactors — a step and a recovery code are accepted once

Calls about time-based factors run over the memory store, one access at a time, among other calls of the store.  The
adapter reports the step whose code was presented; the store refuses a step that is not after the last one.

* `factor_used_once`: from the activation of a factor to its removal, the steps that are accepted for it ascend from
  the step it was enrolled with, and a recovery code is accepted no more often than it was issued.
-/

namespace Credbound.Stores

open Manager (Access Authentication trimSpace)
open Memory (Store Call access accessCalls)
open Accounts (FactorAttempt FactorCall)

/-- Calls about factors over the memory store, among others. -/
abbrev Verifying := Pool Access Store (Except Err (Option Authentication))

namespace Verifying

/-- The calls, none of which has started. -/
def start (m : Accounts) (attempts : List FactorAttempt) (s : Store) : Verifying :=
  ⟨s, attempts.map fun c => (c.routine m).program⟩

/-- One access of a call, or another call of the store. -/
def step : Verifying → Pool.Label Call → Verifying := Pool.step access Call.next

variable (pool : Verifying) (ls : List (Pool.Label Call)) (u : UUID)

/-- The calls of the store that a run amounts to. -/
def storeCalls : List Call := pool.trace access Call.next accessCalls ls

/-- After every one of them the factor of `u` is there. -/
def Keeps : Prop := Run.Meets Call.next (fun s c => u ∈ (c.next s).totp) pool.state (pool.storeCalls ls)

/-- The steps that are accepted for the factor of `u` in a run. -/
def steps : List Int := Run.notes Call.next (Memory.acceptedSteps u) pool.state (pool.storeCalls ls)

/-- The recovery codes of `u` that are accepted in a run. -/
def codes : List Bytes := Run.notes Call.next (Memory.acceptedCodes u) pool.state (pool.storeCalls ls)

/-- The recovery codes that are issued for `u` in a run, in place of earlier ones. -/
def reissued : List Bytes := Run.notes Call.next (Memory.reissuedCodes u) pool.state (pool.storeCalls ls)

/-- Call `i` is about to activate the factor with the codes, and the store commits it. -/
def Activates (pool : Verifying) (i : Nat) (factor : TOTPFactor) (records : List RecoveryCode) : Prop :=
  ∃ ctx commit k,
    let write := Access.write ctx (.factor (.activateTOTP factor records)) commit
    pool.threads[i]? = some (.op write k) ∧ (access write pool.state).1 = .ok ()

/-- The next access of call `i` is accepted: for a step with the code of the text, or for a recovery code that the
text has a digest of. -/
def Accepts (pool : Verifying) (m : Accounts) (provider : TOTPAdapter.Provider)
    (generate : TOTPAdapter.CodeGenerator) (i : Nat) (u : UUID) (code : String) : Prop :=
  ∃ c, pool.moves accessCalls (.thread i : Pool.Label Call) = [c]
    ∧ ((∃ accepted secret, Memory.acceptedSteps u pool.state c = [accepted]
        ∧ provider.Matches generate (trimSpace code) secret accepted)
      ∨ ∃ digest ∈ m.recoveryDigests (trimSpace code), Memory.acceptedCodes u pool.state c = [digest])

end Verifying

section

variable {m : Accounts} {attempts : List FactorAttempt} {s : Store} {provider : TOTPAdapter.Provider}
  {generate : TOTPAdapter.CodeGenerator} {i : Nat} {c : FactorAttempt}

theorem Verifying.start_thread (hi : attempts[i]? = some c) :
    (Verifying.start m attempts s).threads[i]? = some (c.routine m).program := by
  rw [Verifying.start, List.getElem?_map, hi]
  rfl

variable {records : List RecoveryCode}

/-- An activation leaves the factor and the codes that it names. -/
theorem Verifying.enrolled_of_activates {pool : Verifying} {factor : TOTPFactor} (h : pool.Activates i factor records) :
    (pool.step (.thread i)).state.totp.get? factor.userID = some factor
      ∧ (pool.step (.thread i)).state.recovery.getI factor.userID = records := by
  obtain ⟨ctx, commit, k, hi, hok⟩ := h
  have hrun : ((⟨.op (.factor (.activateTOTP factor records)), commit, ctx⟩ : Call).run pool.state).1 = .ok () :=
    Outcome.toExcept_eq_ok.mp hok
  obtain ⟨p, t, -, -, hwrite, hcore⟩ := Call.run_ok hrun
  obtain ⟨⟩ := hwrite
  have hsame := Memory.FactorSame.of_sameCore (u := factor.userID) hcore
  rw [Verifying.step, Pool.step_thread hi]
  exact ⟨hsame.1.trans (FMap.get?_set_self ..), hsame.2.trans (FMap.getI_of_get? (FMap.get?_set_self ..))⟩

/-- A confirmation that comes to activate a factor activates it with the step of its code. -/
theorem Verifying.step_of_activates (hm : m.totp = some (provider.port generate)) {code : String}
    {before : List (Pool.Label Call)} {factor : TOTPFactor} (hi : attempts[i]? = some c)
    (hcall : c.call = .confirm code)
    (h : (Run.run Verifying.step (.start m attempts s) before).Activates i factor records) :
    factor.active = true ∧ (∀ record ∈ records, record.usedAt = none)
      ∧ ∃ secret, provider.Matches generate (trimSpace code) secret factor.lastUsedStep := by
  obtain ⟨ctx, commit, k, hthread, -⟩ := h
  have hemits : (c.routine m).program.Ensures (fun _ _ _ => True) (Accounts.Activates (provider.port generate) code)
      fun _ => True := by
    rw [FactorAttempt.routine, hcall]
    exact Program.Emits.ensures (Procedure.emits_bind (Accounts.activates_confirm hm) fun _ => Procedure.emits_pure)
  obtain ⟨p, hp, hensures⟩ := Pool.ensures_of_answers (start_thread hi) hemits
    (Run.meets_of_mem fun l _ pool => Pool.admits_of_state (fun _ _ => trivial) l)
  obtain rfl := Option.mem_unique hthread hp
  obtain ⟨hactive, hunused, secret, at', hvalid⟩ := (Program.ensures_op.mp hensures).1
  exact ⟨hactive, hunused, secret, (TOTPAdapter.Provider.matches_of_port hvalid).1⟩

/-- **A call of `VerifyTOTP` that succeeds was accepted on its way.** -/
theorem Verifying.accepts_of_verified (hm : m.totp = some (provider.port generate)) {code : String}
    {ls : List (Pool.Label Call)} {authn : Authentication} (hi : attempts[i]? = some c)
    (hcall : c.call = .verify code)
    (hdone : (Run.run Verifying.step (.start m attempts s) ls).threads[i]? = some (.ret (.ok (some authn)))) :
    ∃ before after, ls = before ++ .thread i :: after
      ∧ (Run.run Verifying.step (.start m attempts s) before).Accepts m provider generate i c.actor.userID code := by
  have hensures : (c.routine m).program.Ensures (fun _ e r => ¬ Accounts.Used e r)
      (m.Presents (provider.port generate) c.actor.userID code) fun r => ∀ a, r = .ok a → False := by
    rw [FactorAttempt.routine, hcall]
    exact Procedure.delivers_bind (Accounts.presents_verifyTOTP hm) fun _ h => h.elim
  obtain ⟨before, after, β, e, k, hls, hthread, hpresents, hused⟩ :=
    Pool.exists_answer (start_thread hi) hensures hdone fun h => h _ rfl
  refine ⟨before, after, hls, ?_⟩
  rw [not_not] at hused
  have hmoves : (Run.run Verifying.step (.start m attempts s) before).moves accessCalls
      (.thread i : Pool.Label Call) = accessCalls e := by
    simp only [Pool.moves, Verifying.step, hthread]
  cases e with
  | useTOTP ctx userID accepted commit =>
    obtain ⟨rfl, secret, at', hvalid⟩ := hpresents
    refine ⟨_, hmoves, .inl ⟨accepted, secret, ?_, (TOTPAdapter.Provider.matches_of_port hvalid).1⟩⟩
    exact if_pos ⟨rfl, Outcome.toExcept_eq_ok.mp hused⟩
  | consumeRecoveryCode ctx userID digest usedAt commit =>
    obtain ⟨rfl, hdigest⟩ := hpresents
    refine ⟨_, hmoves, .inr ⟨digest, hdigest, ?_⟩⟩
    exact if_pos ⟨rfl, Outcome.toExcept_eq_ok.mp hused⟩
  | _ => exact hused.elim

theorem unusedDigests_of_unused (h : ∀ record ∈ records, record.usedAt = none) :
    Memory.unusedDigests records = records.map RecoveryCode.digest := by
  rw [Memory.unusedDigests, List.filter_eq_self.mpr fun record hrecord => by simpa using h record hrecord]

/-- **From its activation to its removal, a factor accepts a step and a recovery code once.**  The step that it is
activated with is one of the code that confirmed it; the steps that are accepted after it ascend from it; a recovery
code is accepted no more often than it was issued; and a call of `VerifyTOTP` that succeeds had its step or its code
accepted. -/
theorem factor_used_once (hm : m.totp = some (provider.port generate)) {before after : List (Pool.Label Call)}
    {code : String} {factor : TOTPFactor} {records : List RecoveryCode} (hi : attempts[i]? = some c)
    (hcall : c.call = .confirm code)
    (hactivates : (Run.run Verifying.step (.start m attempts s) before).Activates i factor records)
    (hkeeps : (Run.run Verifying.step (.start m attempts s) (before ++ [.thread i])).Keeps after factor.userID) :
    let enrolled := Run.run Verifying.step (.start m attempts s) (before ++ [.thread i])
    (∃ secret, provider.Matches generate (trimSpace code) secret factor.lastUsedStep)
      ∧ (factor.lastUsedStep :: enrolled.steps after factor.userID).Pairwise (· < ·)
      ∧ (∀ digest, (enrolled.codes after factor.userID).count digest
          ≤ (records.map RecoveryCode.digest ++ enrolled.reissued after factor.userID).count digest)
      ∧ ∀ j d text authn, attempts[j]? = some d → d.call = .verify text →
          (Run.run Verifying.step enrolled after).threads[j]? = some (.ret (.ok (some authn))) →
          ∃ earlier later, before ++ .thread i :: after = earlier ++ .thread j :: later
            ∧ (Run.run Verifying.step (.start m attempts s) earlier).Accepts m provider generate j d.actor.userID
              text := by
  intro enrolled
  obtain ⟨hon, hunused, hmatch⟩ := Verifying.step_of_activates hm hi hcall hactivates
  have henrolled : enrolled = (Run.run Verifying.step (.start m attempts s) before).step (.thread i) := by
    rw [show enrolled = _ from Run.run_append ..]
    rfl
  obtain ⟨hfactor, hrecords⟩ := Verifying.enrolled_of_activates hactivates
  rw [← henrolled] at hfactor hrecords
  have hactive : enrolled.state.FactorActive factor.userID := ⟨factor, hfactor, hon⟩
  refine ⟨hmatch, ?_, fun digest => ?_, ?_⟩
  · have hlast : enrolled.state.lastStep factor.userID = factor.lastUsedStep := by
      rw [Store.lastStep, FMap.getI_of_get? hfactor]
    rw [← hlast]
    exact Memory.pairwise_acceptedSteps hactive hkeeps
  · rw [List.count_append, ← unusedDigests_of_unused hunused, ← hrecords]
    exact Memory.count_acceptedCodes_le hactive hkeeps digest
  · intro j d text authn hj hverify hdone
    rw [show enrolled = _ from rfl, ← Run.run_append, List.append_assoc] at hdone
    exact Verifying.accepts_of_verified hm hj hverify hdone

end

/-! ## An enrolment and two verifications -/

/-- The codes of steps of half a minute: one for the steps up to the one of the clock, another for the later ones. -/
def halfMinutes (_ : Bytes) (at' : Time) (_ : Nat) : Option String :=
  some (if at' ≤ 1000 then "early" else "late")

/-- The provider of the codes. -/
def halfMinuteProvider : TOTPAdapter.Provider := ⟨"credbound", 30, 1, by decide⟩

/-- A manager that verifies time-based codes, and recovery codes in clear. -/
def verifyingAccounts : Accounts :=
  { tenantAccounts with
    totp := some (halfMinuteProvider.port halfMinutes), recoveryDigests := fun code => [code.toUTF8.toList] }

/-- User 1 confirms a factor and verifies the next code twice. -/
def factorAttempts : List FactorAttempt :=
  [⟨{}, tenantAccountSupply 700, tenantAdministrator, .confirm "early"⟩,
    ⟨{}, tenantAccountSupply 720, tenantAdministrator, .verify "late"⟩,
    ⟨{}, tenantAccountSupply 740, tenantAdministrator, .verify "late"⟩]

/-- The factor that is confirmed. -/
def pendingFactor : TOTPFactor := { (default : TOTPFactor) with userID := uuidv7 1 }

def enrollingCalls : List Call := tenantCalls ++ [tenantCall (.factor (.saveTOTPEnrollment pendingFactor)) 6]

/-- The calls, when the first one is about to activate the factor. -/
def confirming : Verifying :=
  Run.run Verifying.step (.start verifyingAccounts factorAttempts (Store.after enrollingCalls)) [.thread 0, .thread 0]

/-- The two verifications, access by access in turns. -/
def racing : List (Pool.Label Call) :=
  [.thread 1, .thread 2, .thread 1, .thread 2, .thread 1, .thread 2, .thread 2]

/-- **One of two verifications of a code succeeds.** -/
theorem racing_used_once :
    ∃ factor records, confirming.Activates 0 factor records
      ∧ TOTPAdapter.new ⟨"credbound", 0, 1⟩ = .ok halfMinuteProvider
      ∧ (confirming.step (.thread 0)).steps racing (uuidv7 1) = [-2071186559]
      ∧ (factor.lastUsedStep :: (confirming.step (.thread 0)).steps racing (uuidv7 1)).Pairwise (· < ·) := by
  have hactivates : confirming.Activates 0 { pendingFactor with
      active := true, lastUsedStep := -2071186560, updatedAt := 1000 } (List.replicate 10 ⟨uuidv7 1,
        "secr-et--".toUTF8.toList, none⟩) := ⟨_, _, _, rfl, rfl⟩
  have hsteps : (confirming.step (.thread 0)).steps racing (uuidv7 1) = [-2071186559] := by
    decide +kernel
  have hkeeps : (confirming.step (.thread 0)).Keeps racing (uuidv7 1) := by
    unfold Verifying.Keeps
    decide +kernel
  have hm : verifyingAccounts.totp = some (halfMinuteProvider.port halfMinutes) := rfl
  exact ⟨_, _, hactivates, rfl, hsteps, (factor_used_once hm rfl rfl hactivates hkeeps).2.1⟩

end Credbound.Stores
