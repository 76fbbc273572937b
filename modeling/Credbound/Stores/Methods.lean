import Credbound.Manager.Methods
import Credbound.Stores.Backends

/-!
# Stores/Methods — the memory store behind all of its methods

What each access answers and leaves of the memory store, and the rules for the runs of an account
function over it.  An access is a list of calls of the store, none for a read (`access_run`), so a run
of account functions among others is a run of calls.
-/

namespace Credbound

open Manager (Access Routine)

namespace Memory

/-- Every page of `SCIMUsers` without a filter, newest first. -/
def Store.allSCIMUsers (s : Store) (configurationID : UUID) : List SCIMUser :=
  sortNewest (fun v => (v.createdAt, v.id)) (s.scimUsers.values.filter fun v =>
    v.configurationID = configurationID ∧ v.deprovisionedAt = none)

/-- Every page of `SCIMGroups` without a filter, newest first. -/
def Store.allSCIMGroups (s : Store) (configurationID : UUID) : List SCIMGroup :=
  sortNewest (fun v => (v.createdAt, v.id)) (s.scimGroups.values.filter fun v =>
    v.configurationID = configurationID ∧ v.deletedAt = none)

/-- A record that is read is there. -/
theorem get?_of_read {α : Type} {ctx : Context} {found : Option α} {v : α}
    (h : (guarded ctx (orNotFound found)).toExcept = .ok v) : found = some v := by
  have hok := Outcome.toExcept_eq_ok.mp h
  unfold guarded at hok
  split at hok
  · cases hok
  · cases found with
    | none => cases hok
    | some w => rw [Outcome.ok.inj hok]

/-- What an attempt that is finished answers and leaves. -/
def settle {α : Type} (a : Attempt α) (ctx : Context) (commit : Commit) : Except Err α × Store :=
  ((a.finish ctx commit).1.toExcept, (a.finish ctx commit).2)

/-- The memory store behind its methods. -/
def access : Program.Handler Access Store
  | _, .read ctx q, s => ((s.answer ctx q).toExcept, s)
  | _, .write ctx op commit, s => settle (op.mutation.attempt ctx commit s) ctx commit
  | _, .recordLoginFailure ctx userID at' threshold lockedUntil commit, s =>
      settle (recordLoginFailure userID at' threshold lockedUntil ctx commit s) ctx commit
  | _, .useTOTP ctx userID step commit, s => settle (useTOTP userID step ctx commit s) ctx commit
  | _, .consumeRecoveryCode ctx userID digest usedAt commit, s =>
      settle (consumeRecoveryCode userID digest usedAt ctx commit s) ctx commit
  | _, .claimEmailIssuance ctx key purpose at' notBefore, s =>
      settle (claimEmailIssuance key purpose at' notBefore ctx s) ctx { audit := default }
  | _, .scimUsers ctx configurationID, s =>
      ((guarded ctx (.ok (s.allSCIMUsers configurationID))).toExcept, s)
  | _, .scimGroups ctx configurationID, s =>
      ((guarded ctx (.ok (s.allSCIMGroups configurationID))).toExcept, s)
  | _, .request r, s => backend.handler r s

/-- A read leaves the store. -/
theorem access_reading ⦃β : Type⦄ (e : Access β) (s : Store) (he : Manager.Reading e) : (access e s).2 = s := by
  cases e with
  | request r =>
    cases r with
    | query => rfl
    | update => exact he.elim
  | read | scimUsers | scimGroups => rfl
  | _ => exact he.elim

/-- The calls of the store that an access amounts to. -/
def accessCalls : ⦃β : Type⦄ → Access β → List Call
  | _, .write ctx op commit => [⟨.op op, commit, ctx⟩]
  | _, .recordLoginFailure ctx userID at' threshold lockedUntil commit =>
      [⟨.recordLoginFailure userID at' threshold lockedUntil, commit, ctx⟩]
  | _, .useTOTP ctx userID step commit => [⟨.useTOTP userID step, commit, ctx⟩]
  | _, .consumeRecoveryCode ctx userID digest usedAt commit =>
      [⟨.consumeRecoveryCode userID digest usedAt, commit, ctx⟩]
  | _, .claimEmailIssuance ctx key purpose at' notBefore =>
      [⟨.claimEmailIssuance key purpose at' notBefore, { audit := default }, ctx⟩]
  | _, .request r => requestCalls r
  | _, _ => []

/-- **An access is a run of calls**, as far as the state goes. -/
theorem access_run ⦃β : Type⦄ (e : Access β) (s : Store) :
    (access e s).2 = Run.run Call.next s (accessCalls e) := by
  cases e with
  | read ctx q => rfl
  | write ctx op commit => rfl
  | recordLoginFailure ctx userID at' threshold lockedUntil commit =>
    exact (Attempt.finish_void _ ctx commit).symm
  | useTOTP ctx userID step commit => exact (Attempt.finish_void _ ctx commit).symm
  | consumeRecoveryCode ctx userID digest usedAt commit => exact (Attempt.finish_void _ ctx commit).symm
  | claimEmailIssuance ctx key purpose at' notBefore => exact (Attempt.finish_void _ ctx _).symm
  | scimUsers ctx configurationID => rfl
  | scimGroups ctx configurationID => rfl
  | request r => exact backend_handler_run r s

/-- What every call keeps, every access keeps. -/
theorem access_keeps {I : Store → Prop} (hcall : ∀ (s : Store) (c : Call), I s → I (c.next s)) ⦃β : Type⦄
    (e : Access β) (s : Store) (hs : I s) : I (access e s).2 := by
  rw [access_run]
  exact Run.always hcall hs _

section Runs

variable {rely : Store → Store → Prop} {admits : ⦃β : Type⦄ → Access β → Store → Prop} {α : Type}
  {s t : Store} {ctx : Context} {q : Read α} {e : Err}

@[simp] theorem runs_read {r : Except Err α} : (Routine.read ctx q).Runs access rely admits s r t
      ↔ rely s t ∧ admits (.read ctx q) t ∧ (t.answer ctx q).toExcept = r := by
  refine Procedure.runs_call.trans ⟨?_, ?_⟩
  · rintro ⟨m, hrely, hadmits, hr, rfl⟩
    exact ⟨hrely, hadmits, hr⟩
  · rintro ⟨hrely, hadmits, hr⟩
    exact ⟨t, hrely, hadmits, hr, rfl⟩

@[simp] theorem runs_expect_read {good : α → Prop} [DecidablePred good] {a : α} :
    (Routine.expect ctx q good e).Runs access rely admits s (.ok a) t
      ↔ rely s t ∧ admits (.read ctx q) t ∧ t.answer ctx q = .ok a ∧ good a := by
  refine Procedure.runs_lookup_ok.trans ⟨?_, ?_⟩
  · rintro ⟨m, hrely, hadmits, hr, hgood, rfl⟩
    exact ⟨hrely, hadmits, Outcome.toExcept_eq_ok.mp hr, hgood⟩
  · rintro ⟨hrely, hadmits, hr, hgood⟩
    exact ⟨t, hrely, hadmits, Outcome.toExcept_eq_ok.mpr hr, hgood, rfl⟩

theorem runs_write {op : Op} {commit : Commit} {r : Except Err Unit} :
    (Routine.write ctx op commit).Runs access rely admits s r t
      ↔ ∃ m, rely s m ∧ admits (.write ctx op commit) m
        ∧ ((⟨.op op, commit, ctx⟩ : Call).run m).1.toExcept = r
        ∧ (⟨.op op, commit, ctx⟩ : Call).next m = t :=
  Procedure.runs_call

end Runs

end Memory

end Credbound
