import Credbound.Manager.Config
import Credbound.Memory.Calls

/-!
# Manager/Methods — the methods of the store that the account functions call

The account functions call methods outside the interface of the authorization server.  An `Access` is
one call of any method: a read, an operation, one of the methods that return a value beside their
error, or a request of the authorization server's interface.

A paged listing that the manager walks to its end (`scimUsers`, `scimGroups`) is one read here.
-/

namespace Credbound.Manager

open Procedure

/-- One call of a store method. -/
inductive Access : Type → Type 1
  | read {α : Type} (ctx : Context) (q : Memory.Read α) : Access (Except Err α)
  | write (ctx : Context) (op : Memory.Op) (commit : Commit) : Access (Except Err Unit)
  | recordLoginFailure (ctx : Context) (userID : UUID) (at' : Time) (threshold : Int) (lockedUntil : Time)
      (commit : Commit) : Access (Except Err LoginThrottle)
  | useTOTP (ctx : Context) (userID : UUID) (step : Int) (commit : Commit) : Access (Except Err Bool)
  | consumeRecoveryCode (ctx : Context) (userID : UUID) (digest : Bytes) (usedAt : Time)
      (commit : Commit) : Access (Except Err Bool)
  | claimEmailIssuance (ctx : Context) (key purpose : String) (at' notBefore : Time) :
      Access (Except Err Bool)
  | scimUsers (ctx : Context) (configurationID : UUID) : Access (Except Err (List SCIMUser))
  | scimGroups (ctx : Context) (configurationID : UUID) : Access (Except Err (List SCIMGroup))
  | request {β : Type} (r : Request β) : Access β

/-- An account function of the manager. -/
abbrev Routine := Procedure Access Err

variable {α : Type}

namespace Routine

/-- Read, and fail with what the store reports. -/
def read (ctx : Context) (q : Memory.Read α) : Routine α := .call (.read ctx q)

/-- Read; any error and any record that is not `good` is reported as `err`. -/
def expect (ctx : Context) (q : Memory.Read α) (good : α → Prop) [DecidablePred good] (err : Err) :
    Routine α :=
  .lookup (.read ctx q) good err

/-- Read; a record that is not there is none. -/
def find (ctx : Context) (q : Memory.Read α) : Routine (Option α) := do
  match ← (read ctx q).attempt with
  | .ok a => pure (some a)
  | .error e => if e = .notFound then pure none else .fail e

/-- Change the store, and fail with what it reports. -/
def write (ctx : Context) (op : Memory.Op) (commit : Commit) : Routine Unit :=
  .call (.write ctx op commit)

end Routine

/-- A function of the authorization server among the account functions. -/
def Action.routine (p : Action α) : Routine α := Program.translate (fun _ => .request) p.program

section Emits

variable {Q : ⦃β : Type⦄ → Access β → Prop} {ctx : Context} {q : Memory.Read α}

theorem emits_read (h : Q (.read ctx q)) : (Routine.read ctx q).Emits Q := emits_call h

theorem emits_expect_read {good : α → Prop} [DecidablePred good] {err : Err} (h : Q (.read ctx q)) :
    (Routine.expect ctx q good err).Emits Q := emits_lookup h

theorem emits_find (h : Q (.read ctx q)) : (Routine.find ctx q).Emits Q := by
  refine emits_bind (emits_attempt (emits_read h)) fun r => ?_
  match r with
  | .ok a => exact emits_pure
  | .error e =>
    dsimp only
    split
    · exact emits_pure
    · exact emits_fail

theorem emits_write {op : Memory.Op} {commit : Commit} (h : Q (.write ctx op commit)) :
    (Routine.write ctx op commit).Emits Q := emits_call h

theorem emits_routine {p : Action α} (hp : p.Emits fun _ r => Q (.request r)) : p.routine.Emits Q :=
  Program.emits_translate hp

end Emits

/-- A read that finds a record or none. -/
theorem runs_find_ok {S : Type} {h : Program.Handler Access S} {rely : S → S → Prop}
    {admits : ⦃β : Type⦄ → Access β → S → Prop} {s t : S} {ctx : Context} {q : Memory.Read α}
    {found : Option α} (hrun : (Routine.find ctx q).Runs h rely admits s (.ok found) t) :
    ∃ m, rely s m ∧ admits (.read ctx q) m ∧ (h (.read ctx q) m).2 = t
      ∧ (h (.read ctx q) m).1 = found.elim (.error .notFound) .ok := by
  obtain ⟨r, s₁, hread, hrest⟩ := runs_bind_ok.mp hrun
  obtain ⟨x, hx, hcall⟩ := runs_attempt.mp hread
  obtain ⟨⟩ := hx
  obtain ⟨m, hmove, hadmits, hanswer, hstate⟩ := runs_call.mp hcall
  refine ⟨m, hmove, hadmits, ?_⟩
  rw [hanswer]
  cases r with
  | ok a =>
    obtain ⟨hfound, rfl⟩ := runs_pure.mp hrest
    cases hfound
    exact ⟨hstate, rfl⟩
  | error e =>
    dsimp only at hrest
    split at hrest
    · next he =>
      obtain ⟨hfound, rfl⟩ := runs_pure.mp hrest
      cases hfound
      exact ⟨hstate, by rw [he]; rfl⟩
    · cases (runs_fail.mp hrest).1

/-- A read returns what the store answers. -/
theorem ensures_read {A : ⦃β : Type⦄ → Access β → β → Prop} {Q : ⦃β : Type⦄ → Access β → Prop}
    {ctx : Context} {q : Memory.Read α} (hq : Q (.read ctx q)) :
    (Routine.read ctx q).Ensures A Q (A (.read ctx q)) := ensures_call hq fun _ hr => hr

section Delivers

variable {A : ⦃β : Type⦄ → Access β → β → Prop} {Q : ⦃β : Type⦄ → Access β → Prop} {P : α → Prop}
  {ctx : Context} {q : Memory.Read α}

theorem delivers_read (hq : Q (.read ctx q)) (h : ∀ a, A (.read ctx q) (.ok a) → P a) :
    (Routine.read ctx q).Delivers A Q P := delivers_call hq h

theorem delivers_expect_read {good : α → Prop} [DecidablePred good] {err : Err} (hq : Q (.read ctx q))
    (h : ∀ a, A (.read ctx q) (.ok a) → good a → P a) :
    (Routine.expect ctx q good err).Delivers A Q P := delivers_lookup hq h

theorem delivers_find (hq : Q (.read ctx q)) (h : ∀ a, A (.read ctx q) (.ok a) → P a) :
    (Routine.find ctx q).Delivers A Q fun found => ∀ a, found = some a → P a := by
  refine delivers_bind (delivers_attempt (delivers_read hq h)) fun r hr => ?_
  match r with
  | .ok a => exact delivers_pure fun _ heq => Option.some.inj heq ▸ hr a rfl
  | .error e =>
    dsimp only
    split
    · exact delivers_pure fun _ h => nomatch h
    · exact delivers_fail

end Delivers

/-- The accesses that change nothing. -/
def Reading : ⦃β : Type⦄ → Access β → Prop
  | _, .read _ _ => True
  | _, .scimUsers _ _ => True
  | _, .scimGroups _ _ => True
  | _, .request (.query _ _) => True
  | _, _ => False

/-- The accesses of a check: reads, and entries of the log. -/
def Checking : ⦃β : Type⦄ → Access β → Prop
  | _, .read _ _ => True
  | _, .write _ op _ => op = .workspace .appendAudit
  | _, .scimUsers _ _ => True
  | _, .scimGroups _ _ => True
  | _, .request (.query _ _) => True
  | _, _ => False

theorem checking_of_reading ⦃β : Type⦄ (e : Access β) (he : Reading e) : Checking e := by
  cases e with
  | request r =>
    cases r with
    | query => trivial
    | update => exact he.elim
  | read | scimUsers | scimGroups => trivial
  | _ => exact he.elim

end Credbound.Manager
