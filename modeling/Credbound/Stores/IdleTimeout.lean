import Credbound.Stores.Offboarding
import Mathlib.Tactic.Linarith

/-!
# Stores/IdleTimeout — a session that is in use, over the memory store

The token of one session is presented again and again, and between two presentations other calls may change the
store as long as they leave the session and keep its user enabled.  `AuthenticateSession` measures the idle timeout
from the last time that was recorded, and within the touch interval it records none.

* `presentation` — what one call does to a session that is not revoked and not past its lifetime.
* `active_session_iff` — every call succeeds exactly where every presentation comes within the idle timeout of the
  last one that was recorded (`KeepsAlive`), which is so where the gaps leave room for the touch interval.
* `active_session_expires` — gaps that are shorter than the timeout are not enough.
-/

namespace Credbound.Stores

open Manager Memory Accounts
open Procedure (demand lift)

/-! ## Presentations -/

/-- One presentation of the token: the calls before it, and what `AuthenticateSession` is given. -/
structure Presentation where
  others : List Call
  at' : Time
  io : AccountSupply

namespace Presentation

/-- The store that the token is presented to. -/
def arrival (s : Store) (v : Presentation) : Store := Run.run Call.next s v.others

/-- What `AuthenticateSession` returns and leaves. -/
def answer (m : Accounts) (raw : String) (s : Store) (v : Presentation) : Except Err Authentication × Store :=
  (m.authenticateSession {} v.io raw).program.exec access (v.arrival s)

/-- The store after the presentation. -/
def next (m : Accounts) (raw : String) (s : Store) (v : Presentation) : Store := (v.answer m raw s).2

/-- The call succeeds. -/
def Succeeds (m : Accounts) (raw : String) (s : Store) (v : Presentation) : Prop := (v.answer m raw s).1.isOk = true

/-- The other calls have left the session and the user is enabled; the call is made at its time, and nothing but
`AuthenticateSession` itself makes it fail. -/
structure Calm (m : Accounts) (id userID : UUID) (s : Store) (v : Presentation) : Prop where
  session : (v.arrival s).sessions.get? id = s.sessions.get? id
  user : ∃ user, (v.arrival s).users.get? userID = some user ∧ user.disabled = false
  clock : ∀ k, v.io.now k = v.at'
  undisturbed : Undisturbed m {} v.io (v.arrival s)

end Presentation

/-- The last recorded time after a presentation at `t`. -/
def recorded (touchInterval : Duration) (last t : Time) : Time :=
  if 0 < touchInterval ∧ t < last + touchInterval then last else t

/-- Each time is within the idle timeout of the last one that was recorded. -/
def KeepsAlive (idleTimeout touchInterval : Duration) : Time → List Time → Prop
  | _, [] => True
  | last, t :: ts => t < last + idleTimeout
      ∧ KeepsAlive idleTimeout touchInterval (recorded touchInterval last t) ts

/-- Each time comes after the one before, and by no more than `gap`. -/
def Spaced (gap : Duration) : Time → List Time → Prop
  | _, [] => True
  | last, t :: ts => last < t ∧ t ≤ last + gap ∧ Spaced gap t ts

/-- The last recorded time lags behind by less than the touch interval. -/
theorem recorded_lag (touchInterval : Duration) (last t : Time) :
    t < recorded touchInterval last t + max touchInterval 1 := by
  have hinterval := le_max_left touchInterval 1
  have hone := le_max_right touchInterval 1
  unfold recorded
  split
  · next hrecent => linarith [hrecent.2]
  · linarith

/-- Where the gaps leave room for the touch interval, they keep the session alive. -/
theorem keepsAlive_of_spaced {idleTimeout touchInterval : Duration} {last t : Time} {ts : List Time}
    (hlag : t < last + max touchInterval 1) (h : Spaced (idleTimeout - max touchInterval 1) t ts) :
    KeepsAlive idleTimeout touchInterval last ts := by
  induction ts generalizing last t with
  | nil => trivial
  | cons t' ts ih =>
    obtain ⟨-, hgap, hrest⟩ := h
    exact ⟨by linarith, ih (recorded_lag touchInterval last t') hrest⟩

/-! ## One presentation -/

section

variable {m : Accounts} {raw : String} {id : UUID} {session : Session} {io : AccountSupply} {s : Store} {now : Time}

/-- A session that can be refused for its idleness only. -/
structure Presentable (m : Accounts) (raw : String) (id : UUID) (session : Session) : Prop where
  supported : m.sessionStore = true
  token : parseSecretToken "cbs" raw = some id
  digest : m.matchTokenDigest session.digest ("session:" ++ raw) = true
  live : session.revokedAt = none
  named : session.id = id

/-- Touching a session that is not revoked goes through, and records the time. -/
theorem touch_recorded (now : Time) (hs : s.sessions.get? id = some session)
    (hlive : session.revokedAt = none) {event : AuditEvent} (hevent : s.canAudit event = .ok ()) :
    let call : Call := ⟨.op (.factor (.touchSession id now)), { audit := event }, {}⟩
    (call.run s).1 = .ok () ∧ (call.next s).sessions.get? id = some { session with lastSeenAt := now } := by
  intro call
  have hok : (call.run s).1 = .ok () := by
    refine (Call.run_ok_iff rfl hevent rfl rfl rfl).mpr ?_
    simp only [Op.mutation, FactorOp.mutation, touchSession, check_bind, find_eq_ok, require_eq_ok]
    exact ⟨session, hs, hlive⟩
  refine ⟨hok, ?_⟩
  obtain ⟨p, t, hp, -, hw, ht⟩ := Call.run_ok hok
  obtain ⟨_, rfl⟩ := hp
  obtain ⟨_, ht⟩ := ht
  obtain ⟨⟩ := hw
  rw [show call.next s = _ from ht]
  refine (FMap.get?_modify _ _ _ _).trans ?_
  rw [if_pos rfl, hs]
  rfl

/-- A call that is made alone reads what is there and goes on. -/
theorem exec_read {α β : Type} {ctx : Context} {q : Read α} {v : α} {g : Err → Err} {f : α → Routine β}
    (h : s.answer ctx q = .ok v) :
    ((Routine.read ctx q).mapError g >>= f).program.exec access s = (f v).program.exec access s := by
  show Program.exec access (Program.op (.read ctx q) _) s = _
  rw [Program.exec, show access (.read ctx q) s = (.ok v, s) by rw [access, h]; rfl]
  rfl

theorem exec_find {α β : Type} {ctx : Context} {q : Read α} {v : α} {f : Option α → Routine β}
    (h : s.answer ctx q = .ok v) :
    (Routine.find ctx q >>= f).program.exec access s = (f (some v)).program.exec access s := by
  show Program.exec access (Program.op (.read ctx q) _) s = _
  rw [Program.exec, show access (.read ctx q) s = (.ok v, s) by rw [access, h]; rfl]
  rfl

theorem exec_write {β : Type} {op : Op} {commit : Commit} {ctx : Context} {g : Err → Err} {a : β}
    (h : ((⟨.op op, commit, ctx⟩ : Call).run s).1 = .ok ()) :
    (lift (.ok commit.audit) >>= fun _ => (Routine.write ctx op commit).mapError g >>= fun _ =>
      pure a : Routine β).program.exec access s = (.ok a, (⟨.op op, commit, ctx⟩ : Call).next s) := by
  show Program.exec access (Program.op (.write ctx op commit) _) s = _
  rw [Program.exec, show access (.write ctx op commit) s = (.ok (), (⟨.op op, commit, ctx⟩ : Call).next s) from
    Prod.ext (congrArg Outcome.toExcept h) rfl]
  rfl

theorem answer_session (hs : s.sessions.get? id = some session) : s.answer {} (.sessionByID id) = .ok session := by
  simp only [Store.answer, guarded, hs]
  rfl

/-- A denied authentication is an error. -/
theorem denied_isOk {α : Type} {userID : UUID} {action reason : String} {err : Err} :
    ¬ ((denyAuthentication {} io userID action reason err : Routine α).program.exec access s).1.isOk = true := by
  intro hok
  cases hrun : (denyAuthentication {} io userID action reason err : Routine α).program.exec access s with
  | mk answer t =>
    rw [hrun] at hok
    cases answer with
    | error e => cases hok
    | ok authn => exact not_runs_denyAuthentication (Program.runs_alone.mpr hrun)

variable (h : Presentable m raw id session)

include h

theorem Presentable.seen (lastSeenAt : Time) :
    Presentable m raw id { session with lastSeenAt := lastSeenAt } :=
  ⟨h.supported, h.token, h.digest, h.live, h.named⟩

theorem sessionRefusal_eq_none_iff (hclock : ∀ k, io.now k = now) (hlifetime : now < session.expiresAt) :
    m.sessionRefusal io session raw = none
      ↔ m.sessionIdleTimeout ≤ 0 ∨ now < session.lastSeenAt + m.sessionIdleTimeout := by
  simp only [sessionRefusal, h.digest, h.live, hclock, hlifetime, ne_eq, not_true_eq_false, if_false,
    Bool.true_eq_false]
  split
  · next hidle =>
    simp only [reduceCtorEq, false_iff, not_or]
    exact ⟨not_le.mpr hidle.1, hidle.2⟩
  · next hidle =>
    simp only [true_iff]
    by_cases hoff : m.sessionIdleTimeout ≤ 0
    · exact .inl hoff
    · exact .inr (not_not.mp fun hlate => hidle ⟨not_le.mp hoff, hlate⟩)

variable (hs : s.sessions.get? id = some session)

include hs

/-- `AuthenticateSession` of a session that is there is decided by the reasons to refuse it. -/
theorem exec_authenticateSession {user : User} (huser : s.users.get? session.userID = some user) (henabled : user.disabled = false) :
    (m.authenticateSession {} io raw).program.exec access s = match m.sessionRefusal io session raw with
        | some (reason, err) => (denyAuthentication {} (io.after 2) session.userID "session.authenticate" reason
            err : Routine Authentication).program.exec access s
        | none => (m.touchedSession {} (io.after 2) session).program.exec access s := by
  have hanswer : s.answer {} (.userByID session.userID) = .ok user := by
    simp only [Store.answer, guarded, huser]
    rfl
  rw [authenticateSession, demand, if_pos h.supported, h.token]
  refine (exec_read (answer_session hs)).trans ?_
  cases m.sessionRefusal io session raw with
  | some refusal => rfl
  | none =>
    refine (exec_find hanswer).trans ?_
    simp only [Option.all_some, henabled]
    rfl

theorem touchedSession_recorded (hu : Undisturbed m {} io s) (hnow : io.now 0 = now) :
    ∃ t, (m.touchedSession {} io session).program.exec access s = (.ok (sessionAuthentication session), t)
      ∧ t.sessions.get? id
        = some { session with lastSeenAt := recorded m.sessionTouchInterval session.lastSeenAt now } := by
  unfold touchedSession recorded
  rw [hnow]
  by_cases hrecent : 0 < m.sessionTouchInterval ∧ now < session.lastSeenAt + m.sessionTouchInterval
  · rw [if_pos hrecent, if_pos hrecent]
    exact ⟨s, rfl, hs⟩
  · rw [if_neg hrecent, if_neg hrecent]
    obtain ⟨event, hevent, hlog⟩ := hu.audited 0 (hu.clock 1) session.userID (by decide : "session.authenticate" ≠ "")
      "session" session.id.string "" 0 .succeeded
    obtain ⟨hok, hseen⟩ := touch_recorded now hs h.live hlog
    rw [hevent]
    refine ⟨_, ?_, hseen⟩
    rw [h.named]
    exact exec_write hok

/-- **One presentation**: it is refused for idleness or not at all, and if it is not refused its time is recorded
unless one was recorded recently. -/
theorem presentation
    (huser : ∃ user, s.users.get? session.userID = some user ∧ user.disabled = false)
    (hu : Undisturbed m {} io s) (hclock : ∀ k, io.now k = now) (hlifetime : now < session.expiresAt) :
    (((m.authenticateSession {} io raw).program.exec access s).1.isOk = true
        ↔ m.sessionIdleTimeout ≤ 0 ∨ now < session.lastSeenAt + m.sessionIdleTimeout)
      ∧ (((m.authenticateSession {} io raw).program.exec access s).1.isOk = true →
        ((m.authenticateSession {} io raw).program.exec access s).2.sessions.get? id
          = some { session with lastSeenAt := recorded m.sessionTouchInterval session.lastSeenAt now }) := by
  obtain ⟨user, hfound, henabled⟩ := huser
  rw [exec_authenticateSession h hs hfound henabled, ← sessionRefusal_eq_none_iff h hclock hlifetime]
  cases m.sessionRefusal io session raw with
  | some refusal => exact ⟨iff_of_false denied_isOk (by simp), fun hok => absurd hok denied_isOk⟩
  | none =>
    obtain ⟨t, hexec, hseen⟩ := touchedSession_recorded h hs (hu.after 2) (hclock 2)
    dsimp only
    rw [hexec]
    exact ⟨iff_of_true rfl rfl, fun _ => hseen⟩

/-! ## The presentations of a session -/

/-- The presentations all succeed where they keep the session alive, whatever it has last recorded. -/
theorem succeed_iff {presentations : List Presentation}
    (hlifetime : ∀ v ∈ presentations, v.at' < session.expiresAt)
    (hcalm : Run.Meets (Presentation.next m raw) (Presentation.Calm m id session.userID) s presentations) :
    Run.Meets (Presentation.next m raw) (Presentation.Succeeds m raw) s presentations
      ↔ m.sessionIdleTimeout ≤ 0 ∨ KeepsAlive m.sessionIdleTimeout m.sessionTouchInterval session.lastSeenAt
        (presentations.map Presentation.at') := by
  induction presentations generalizing s session with
  | nil => simp [Run.Meets, KeepsAlive]
  | cons v presentations ih =>
    obtain ⟨hfirst, hrest⟩ := hcalm
    obtain ⟨hok, hrecorded⟩ := presentation h (hfirst.session.trans hs) hfirst.user hfirst.undisturbed hfirst.clock
      (hlifetime v List.mem_cons_self)
    -- from the second presentation on, the session is the one the first has left
    have hnext : v.Succeeds m raw s → (Run.Meets (Presentation.next m raw) (Presentation.Succeeds m raw)
        (v.next m raw s) presentations
          ↔ m.sessionIdleTimeout ≤ 0 ∨ KeepsAlive m.sessionIdleTimeout m.sessionTouchInterval
            (recorded m.sessionTouchInterval session.lastSeenAt v.at') (presentations.map Presentation.at')) :=
      fun hsucceeds => ih (h.seen _) (hrecorded hsucceeds) (fun w hw => hlifetime w (List.mem_cons_of_mem _ hw)) hrest
    rw [Run.Meets, List.map_cons, KeepsAlive]
    constructor
    · rintro ⟨hsucceeds, hothers⟩
      obtain hoff | hearly := hok.mp hsucceeds
      · exact .inl hoff
      · exact ((hnext hsucceeds).mp hothers).imp_right fun halive => ⟨hearly, halive⟩
    · intro halive
      have hsucceeds : v.Succeeds m raw s := hok.mpr (halive.imp_right And.left)
      exact ⟨hsucceeds, (hnext hsucceeds).mpr (halive.imp_right And.right)⟩

end

/-- **Every presentation of a session succeeds exactly where each comes within the idle timeout of the last one that was
recorded**, from its creation on.  That is so where the first comes within the timeout and the others leave room for
the touch interval. -/
theorem active_session_iff (m : Accounts) (raw : String) (id : UUID) (session : Session) (s : Store)
    (presentations : List Presentation) (h : Presentable m raw id session) (hs : s.sessions.get? id = some session)
    (hcreated : session.lastSeenAt = session.createdAt)
    (hlifetime : ∀ v ∈ presentations, v.at' < session.expiresAt)
    (hcalm : Run.Meets (Presentation.next m raw) (Presentation.Calm m id session.userID) s presentations) :
    (Run.Meets (Presentation.next m raw) (Presentation.Succeeds m raw) s presentations
        ↔ m.sessionIdleTimeout ≤ 0 ∨ KeepsAlive m.sessionIdleTimeout m.sessionTouchInterval session.createdAt
          (presentations.map Presentation.at'))
      ∧ (∀ v rest, presentations = v :: rest → v.at' < session.createdAt + m.sessionIdleTimeout →
        Spaced (m.sessionIdleTimeout - max m.sessionTouchInterval 1) v.at' (rest.map Presentation.at') →
          Run.Meets (Presentation.next m raw) (Presentation.Succeeds m raw) s presentations) := by
  have hiff := succeed_iff h hs hlifetime hcalm
  rw [hcreated] at hiff
  refine ⟨hiff, fun v rest hlist hfirst hspaced => hiff.mpr (.inr ?_)⟩
  rw [hlist, List.map_cons]
  exact ⟨hfirst, keepsAlive_of_spaced (recorded_lag _ _ _) hspaced⟩

/-! ## A session of the tenant -/

/-- The token of session 80. -/
def idleToken : String := "cbs_" ++ (uuidv7 80).string ++ "_AAAAAAAAAAAAAAAAAAAAAAAAAAAAAAAAAAAAAAAAAAA"

/-- A session of user 1 that is created at time 1000. -/
def idleSession : Session :=
  { (default : Session) with
    id := uuidv7 80, userID := uuidv7 1, digest := tenantAccounts.tokenDigest ("session:" ++ idleToken),
    createdAt := 1000, lastSeenAt := 1000, expiresAt := 9000 }

/-- The store with the session. -/
def idleStore : Store :=
  Store.after (tenantCalls ++ [tenantCall (.factor (.createSession idleSession [])) 6])

/-- The token is presented at the time, with nothing in between. -/
def presented (at' : Time) (first : Nat) : Presentation where
  others := []
  at' := at'
  io := { tenantAccountSupply first with now := fun _ => at', newID := fun _ => .ok (uuidv7 first) }

theorem idleSession_presentable : Presentable tenantAccounts idleToken (uuidv7 80) idleSession where
  supported := rfl
  token := by decide +kernel
  digest := by decide +kernel
  live := rfl
  named := rfl

theorem calm_presented {s : Store} {at' : Time} {first : Nat}
    (huser : ((s.users.get? (uuidv7 1)).any fun user => user.disabled = false) = true) (haudit : s.auditFailure = none)
    (hat : truncateMicro at' ≠ 0) (hid : uuidv7 first ≠ 0 ∧ uuidv7 first ∉ s.auditIDs) :
    (presented at' first).Calm tenantAccounts (uuidv7 80) (uuidv7 1) s where
  session := rfl
  user := by
    obtain ⟨user, hfound, henabled⟩ := (Option.any_eq_true _ _).mp huser
    exact ⟨user, hfound, of_decide_eq_true henabled⟩
  clock _ := rfl
  undisturbed := ⟨rfl, fun _ _ => rfl, haudit, fun _ => hat, fun _ => ⟨uuidv7 first, rfl, hid⟩⟩

/-- Presented at 1040 and at 1570, with a timeout of 600 and a touch interval of 60, the session stays alive. -/
theorem active_session_tenant :
    Run.Meets (Presentation.next tenantAccounts idleToken) (Presentation.Succeeds tenantAccounts idleToken) idleStore
      [presented 1040 810, presented 1570 820] := by
  refine (active_session_iff tenantAccounts idleToken (uuidv7 80) idleSession idleStore _ idleSession_presentable rfl rfl
    ?_ ?_).2 (presented 1040 810) [presented 1570 820] rfl (by decide) ⟨by decide, by decide, trivial⟩
  · decide
  · exact ⟨calm_presented (by decide +kernel) (by decide +kernel) (by decide) (by decide +kernel),
      calm_presented (by decide +kernel) (by decide +kernel) (by decide) (by decide +kernel), trivial⟩

/-- **A session that is in use expires**: `New` accepts the settings, the token is presented at 1040 and 560 later, and
the second presentation is refused. -/
theorem active_session_expires :
    checkSessionSettings tenantAccounts.sessionIdleTimeout tenantAccounts.sessionTouchInterval = .ok ()
      ∧ tenantAccounts.sessionIdleTimeout = 600
      ∧ ((presented 1040 810).answer tenantAccounts idleToken idleStore).1.isOk = true
      ∧ ((presented 1600 820).answer tenantAccounts idleToken
          ((presented 1040 810).next tenantAccounts idleToken idleStore)).1.map (fun _ => ()) = .error .expired := by
  decide +kernel

end Credbound.Stores
