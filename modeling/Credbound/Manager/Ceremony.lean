import Credbound.Manager.Audit
import Credbound.Memory.Ceremonies

/-!
# Manager/Ceremony — finishing a ceremony, by any number of concurrent calls

A ceremony continuation is sealed by a Begin call and presented to a Finish call, which decodes it
and checks its expiry, waits for the provider, makes an audit event and commits.  The steps of
different calls interleave freely, and time passes between them.

    decode ──▸ provider verification ──▸ newAudit ──▸ commit
    (clock)        (any time)            (clock)

The expiry is checked when the continuation is decoded; a used ceremony is forgotten by the audit
time of a later commit.  So a call that decoded in time and commits late can find its ceremony
forgotten (`late_commit_succeeds_again`), and no other can (`ceremony_commits_once`).
-/

namespace Credbound.Manager

open Memory

/-! ## Continuations -/

/-- What a passkey or e-mail continuation was sealed for. -/
inductive CeremonyOperation
  | passkeyRegistration
  | passkeyAuthentication
  | passkeyDiscoverable
  | other (value : String)
deriving DecidableEq

/-- What an SSO continuation was sealed for. -/
inductive SSOOperation
  | login
  | link
  | stepUp
  | other (value : String)
deriving DecidableEq

/-- `ceremonyContinuation`. -/
structure CeremonyContinuation where
  id : UUID
  userID : UUID
  operation : CeremonyOperation
  name : String
  expiresAt : Time
  session : Bytes

/-- `ssoContinuation`. -/
structure SSOContinuation where
  id : UUID
  providerConfigurationID : UUID
  operation : SSOOperation
  userID : UUID
  expiresAt : Time
  session : Bytes

/-- `decodeContinuation`, on what opening the text yields: nothing, if it is not base64, not sealed
by this manager or not the JSON of a continuation. -/
def decodeContinuation (now : Time) (payload : Option CeremonyContinuation)
    (operation : CeremonyOperation) : Except Err CeremonyContinuation :=
  match payload with
  | none => .error .invalidCredentials
  | some value => do
    require (value.operation = operation) .invalidCredentials
    require (¬ (value.userID = 0 ∧ operation ≠ .passkeyDiscoverable)) .invalidCredentials
    require (now < value.expiresAt) .expired
    return value

/-- `decodeSSOContinuation`. -/
def decodeSSOContinuation (now : Time) (payload : Option SSOContinuation) :
    Except Err SSOContinuation :=
  match payload with
  | none => .error .invalidCredentials
  | some state => do
    require (validUUIDv7 state.providerConfigurationID ∧ state.session ≠ []) .invalidCredentials
    require (state.operation = .login ∨ state.operation = .link ∨ state.operation = .stepUp)
      .invalidCredentials
    require (¬ ((state.operation = .link ∨ state.operation = .stepUp) ∧ state.userID = 0))
      .invalidCredentials
    require (now < state.expiresAt) .expired
    return state

/-- Either kind of continuation. -/
inductive Continuation
  | ceremony (value : CeremonyContinuation)
  | sso (value : SSOContinuation)

namespace Continuation

def id : Continuation → UUID
  | .ceremony value => value.id
  | .sso value => value.id

def expiresAt : Continuation → Time
  | .ceremony value => value.expiresAt
  | .sso value => value.expiresAt

/-- `consumption`: the single-use ceremony the continuation carries, none for a continuation sealed
before ceremony ids existed. -/
def consumption (c : Continuation) : Option CeremonyConsumption :=
  if c.id = 0 then none else some ⟨c.id, c.expiresAt⟩

end Continuation

/-! ## Finish calls -/

/-- The functions that finish a ceremony. -/
inductive Finish
  | passkeyRegistration
  | passkeyAuthentication
  | discoverablePasskeyAuthentication
  | sso
deriving DecidableEq

/-- How a Finish function decodes what it is given.  The JSON of the other kind of continuation lacks
the fields it looks for. -/
def Finish.decode (now : Time) (payload : Option Continuation) : Finish → Except Err Continuation
  | .passkeyRegistration => ceremonyFor .passkeyRegistration
  | .passkeyAuthentication => ceremonyFor .passkeyAuthentication
  | .discoverablePasskeyAuthentication => ceremonyFor .passkeyDiscoverable
  | .sso => do
    let state ← decodeSSOContinuation now (payload.bind fun
      | .sso value => some value
      | .ceremony _ => none)
    return .sso state
where
  ceremonyFor (operation : CeremonyOperation) : Except Err Continuation := do
    let value ← decodeContinuation now (payload.bind fun
      | .ceremony value => some value
      | .sso _ => none) operation
    return .ceremony value

/-- What decodes is what was presented. -/
theorem Finish.eq_of_decode {now : Time} {payload : Option Continuation} {f : Finish}
    {c : Continuation} (h : f.decode now payload = .ok c) : payload = some c := by
  have hceremony : ∀ {operation}, Finish.decode.ceremonyFor now payload operation = .ok c →
      payload = some c := by
    intro operation h
    rw [Finish.decode.ceremonyFor, check_bind] at h
    obtain ⟨value, hv, hc⟩ := h
    obtain rfl := check_pure.mp hc
    rcases payload with _ | value' | value'
    · cases hv
    · simp only [Option.bind_some, decodeContinuation, check_bind, check_pure] at hv
      obtain ⟨_, -, _, -, _, -, rfl⟩ := hv
      rfl
    · cases hv
  cases f with
  | passkeyRegistration | passkeyAuthentication | discoverablePasskeyAuthentication =>
    exact hceremony h
  | sso =>
    rw [Finish.decode, check_bind] at h
    obtain ⟨value, hv, hc⟩ := h
    obtain rfl := check_pure.mp hc
    rcases payload with _ | value' | value'
    · cases hv
    · cases hv
    · simp only [Option.bind_some, decodeSSOContinuation, check_bind, check_pure] at hv
      obtain ⟨_, -, _, -, _, -, _, -, rfl⟩ := hv
      rfl

/-- The store call a Finish function ends in. -/
inductive FinishCommit
  | savePasskey (passkey : Passkey)
  | touchPasskey (userID : UUID) (credentialID credentialJSON : Bytes) (usedAt : Time)
  | touchSSO (userID identityID : UUID) (usedAt : Time)
  | linkSSO (identity : SSOIdentity)
  | jitProvisionSSOUser (user : User) (email : EmailAddress) (membership : Membership)
      (identity : SSOIdentity)

def FinishCommit.op : FinishCommit → Op
  | .savePasskey passkey => .factor (.savePasskey passkey)
  | .touchPasskey userID credentialID credentialJSON usedAt =>
      .factor (.touchPasskey userID credentialID credentialJSON usedAt)
  | .touchSSO userID identityID usedAt => .directory (.touchSSO userID identityID usedAt)
  | .linkSSO identity => .directory (.linkSSO identity)
  | .jitProvisionSSOUser user email membership identity =>
      .directory (.jitProvisionSSOUser user email membership identity)

/-- Which store calls a Finish function can end in. -/
def Finish.endsIn : Finish → FinishCommit → Bool
  | .passkeyRegistration, .savePasskey _ => true
  | .passkeyAuthentication, .touchPasskey .. => true
  | .discoverablePasskeyAuthentication, .touchPasskey .. => true
  | .sso, .touchSSO .. => true
  | .sso, .linkSSO _ => true
  | .sso, .jitProvisionSSOUser .. => true
  | _, _ => false

/-- How far a Finish call has come. -/
inductive Phase
  | decoded (c : Continuation)
  | verified (c : Continuation)
  | audited (c : Continuation) (event : AuditEvent)

def Phase.continuation : Phase → Continuation
  | .decoded c => c
  | .verified c => c
  | .audited c _ => c

/-! ## The world -/

/-- The continuations the Begin calls seal, by ceremony id.  A Begin call takes a new id, so an id
names one continuation. -/
structure Issued where
  table : UUID → Option Continuation
  id_eq : ∀ id c, table id = some c → c.id = id

/-- The expiry sealed with a ceremony id. -/
def Issued.expiry (issued : Issued) (id : UUID) : Time :=
  ((issued.table id).map Continuation.expiresAt).getD 0

/-- One store, one clock, the Finish calls under way; and for the record the ceremony ids of the
commits that succeeded and the audit times of the commits with a ceremony that were tried. -/
structure World where
  store : Store
  now : Time
  calls : FMap Nat (Finish × Phase)
  committed : List UUID
  stamps : List Time

/-- The world at the start. -/
def World.init (now : Time) : World := ⟨Store.new, now, ∅, [], []⟩

inductive Event
  /-- Time passes; the clock does not go back. -/
  | tick (elapsed : Nat)
  /-- Call `i` starts: it decodes the continuation presented to it and checks its expiry. -/
  | decode (i : Nat) (finish : Finish) (id : UUID)
  /-- The provider, and the lookups around it, accept call `i` or turn it down. -/
  | verify (i : Nat) (accepted : Bool)
  | audit (i : Nat) (input : AuditInput)
  | commit (i : Nat) (call : FinishCommit) (transactional : Option Hook) (ctx : Context)
  /-- Any other store call of the manager: it carries no ceremony. -/
  | other (method : Method) (commit : Commit) (ctx : Context)

namespace World

/-- The commit of a Finish call. -/
def commitOf (c : Continuation) (event : AuditEvent) (transactional : Option Hook) : Commit :=
  ⟨event, transactional, c.consumption, false⟩

/-- Call `i` goes to the store, and returns. -/
def finish (w : World) (i : Nat) (c : Continuation) (event : AuditEvent) (call : FinishCommit)
    (transactional : Option Hook) (ctx : Context) : World :=
  let r := Call.run ⟨.op call.op, commitOf c event transactional, ctx⟩ w.store
  { w with
    store := r.2
    calls := w.calls.del i
    committed := if c.consumption.isSome ∧ r.1 = .ok () then c.id :: w.committed else w.committed
    stamps := if c.consumption.isSome then event.occurredAt :: w.stamps else w.stamps }

/-- One step. -/
def step (issued : Issued) (w : World) : Event → World
  | .tick elapsed => { w with now := w.now + elapsed }
  | .decode i finish id =>
    match w.calls.get? i, finish.decode w.now (issued.table id) with
    | none, .ok c => { w with calls := w.calls.set i (finish, .decoded c) }
    | _, _ => w
  | .verify i accepted =>
    match w.calls.get? i with
    | some (f, .decoded c) =>
      if accepted then { w with calls := w.calls.set i (f, .verified c) }
      else { w with calls := w.calls.del i }
    | _ => w
  | .audit i input =>
    match w.calls.get? i with
    | some (f, .verified c) => { w with calls := w.calls.set i (f, .audited c (newAudit w.now input)) }
    | _ => w
  | .commit i call transactional ctx =>
    match w.calls.get? i with
    | some (f, .audited c event) =>
      if f.endsIn call then w.finish i c event call transactional ctx else w
    | _ => w
  | .other method commit ctx =>
    { w with store := Call.next w.store ⟨method, { commit with ceremony := none }, ctx⟩ }

/-- What call `i` is about to commit. -/
def pending (w : World) (i : Nat) : Option (Continuation × AuditEvent) :=
  match w.calls.get? i with
  | some (_, .audited c event) => some (c, event)
  | _ => none

/-- A ceremony that was committed before is not tried again once a commit with a ceremony, this one
included, has an audit time after its expiry. -/
def InTime (w : World) : Event → Prop
  | .commit i _ _ _ => ∀ x ∈ w.pending i, x.1.id ∈ w.committed →
      ∀ t ∈ x.2.occurredAt :: w.stamps, t ≤ x.1.expiresAt
  | _ => True

instance (w : World) : (event : Event) → Decidable (w.InTime event)
  | .commit i _ _ _ => inferInstanceAs (Decidable (∀ x ∈ w.pending i, _ → _))
  | .tick _ | .decode .. | .verify .. | .audit .. | .other .. => .isTrue trivial

/-! ## At most one commit -/

variable (issued : Issued)

/-- The calls work on issued continuations, and the store remembers the ceremonies committed. -/
structure Sound (w : World) : Prop where
  calls : ∀ i f phase, w.calls.get? i = some (f, phase) →
    issued.table phase.continuation.id = some phase.continuation
  register : SingleUse.Remembers issued.expiry w.store.ceremonies w.committed w.stamps

theorem sound_init (now : Time) : Sound issued (init now) where
  calls i f phase h := by cases h
  register := .empty _

variable {issued} {w : World}

/-- Moving one call to a phase of the same continuation. -/
theorem Sound.set_call (h : Sound issued w) (i : Nat) (f : Finish) {phase : Phase}
    (hp : issued.table phase.continuation.id = some phase.continuation) :
    Sound issued { w with calls := w.calls.set i (f, phase) } where
  calls j g phase' hj := by
    obtain ⟨rfl, heq⟩ | ⟨-, hj⟩ := FMap.get?_set_eq_some.mp hj
    · cases heq
      exact hp
    · exact h.calls j g phase' hj
  register := h.register

/-- **The commit**: whatever the store answers, the register remembers the ceremonies committed. -/
theorem Sound.finish (h : Sound issued w) {i : Nat} {f : Finish} {c : Continuation} {event : AuditEvent}
    (hi : w.calls.get? i = some (f, .audited c event))
    (hin : c.id ∈ w.committed → ∀ t ∈ event.occurredAt :: w.stamps, t ≤ c.expiresAt)
    (call : FinishCommit) (transactional : Option Hook) (ctx : Context) :
    Sound issued (w.finish i c event call transactional ctx) := by
  refine ⟨fun j g phase hj => h.calls j g phase (FMap.get?_del_eq_some.mp hj).2, ?_⟩
  have htable : issued.table c.id = some c := h.calls i f _ hi
  have hexpiry : issued.expiry c.id = c.expiresAt := by
    rw [Issued.expiry, htable, Option.map_some, Option.getD_some]
  by_cases hid : c.id = 0
  · have hnone : c.consumption = none := if_pos hid
    have hcer := Call.ceremonies_of_none
      (c := ⟨.op call.op, commitOf c event transactional, ctx⟩) hnone w.store
    simp only [World.finish, hnone, Option.isSome_none, Bool.false_eq_true, false_and, if_false]
    exact hcer ▸ h.register
  · have hsome : c.consumption = some ⟨c.id, c.expiresAt⟩ := if_neg hid
    simp only [World.finish, hsome, Option.isSome_some, true_and, if_true]
    obtain ⟨hfail, hcer | hcer⟩ | ⟨hfree, hcer⟩ := Call.ceremonies_of_some call.op
      (commitOf c event transactional) ctx hsome w.store
    · rw [if_neg hfail]
      exact hcer ▸ h.register.unreached event.occurredAt
    · rw [if_neg hfail]
      exact hcer ▸ h.register.refused event.occurredAt
    · rw [← hexpiry] at hcer hin
      split
      · exact hcer ▸ h.register.accept hfree hin
      · exact hcer ▸ h.register.burned event.occurredAt c.id

/-- **One step** keeps the invariant, if a repeated ceremony comes in time. -/
theorem Sound.step (h : Sound issued w) (event : Event) (hin : w.InTime event) :
    Sound issued (w.step issued event) := by
  cases event with
  | tick elapsed => exact ⟨h.calls, h.register⟩
  | decode i f id =>
    simp only [World.step]
    split
    · next hdecode =>
      refine h.set_call i f ?_
      have htable := Finish.eq_of_decode hdecode
      rw [Phase.continuation, issued.id_eq id _ htable, htable]
    · exact h
  | verify i accepted =>
    simp only [World.step]
    split
    · next f c hi =>
      have hc : issued.table c.id = some c := h.calls i f (.decoded c) hi
      split
      · exact h.set_call i f hc
      · exact ⟨fun j g phase hj => h.calls j g phase (FMap.get?_del_eq_some.mp hj).2, h.register⟩
    · exact h
  | audit i input =>
    simp only [World.step]
    split
    · next f c hi =>
      have hc : issued.table c.id = some c := h.calls i f (.verified c) hi
      exact h.set_call i f hc
    · exact h
  | commit i call transactional ctx =>
    simp only [World.step]
    split
    · next f c event hi =>
      split
      · have hp : w.pending i = some (c, event) := by rw [World.pending, hi]
        exact h.finish hi (hin (c, event) hp) call transactional ctx
      · exact h
    · exact h
  | other method commit ctx =>
    refine ⟨h.calls, ?_⟩
    have hcer := Call.ceremonies_of_none (c := ⟨method, { commit with ceremony := none }, ctx⟩) rfl w.store
    exact hcer ▸ h.register

end World

/-- **At most one commit for a ceremony.**  Over one memory store, for any continuations issued, any
number of Finish calls, any interleaving of their steps with each other, with other store calls and
with the passing of time: if no committed ceremony is tried again after its expiry was passed by the
audit time of a commit, at most one commit carrying a given ceremony id succeeds. -/
theorem ceremony_commits_once (issued : Issued) (now : Time) (events : List Event)
    (h : Run.Meets (World.step issued) World.InTime (World.init now) events) (id : UUID) :
    (Run.run (World.step issued) (World.init now) events).committed.count id ≤ 1 := by
  have hsound : World.Sound issued (Run.run (World.step issued) (World.init now) events) :=
    Run.invariant (fun w e hw he => hw.step e he) (World.sound_init issued now) h
  exact List.nodup_iff_count_le_one.mp hsound.register.nodup id

/-! ## A late commit -/

/-- One continuation for passkey sign-in, with the ceremony id 5, that expires at 20 µs. -/
def passkeyContinuation : Continuation :=
  .ceremony ⟨5, 1, .passkeyAuthentication, "", 20000, []⟩

def onePasskeyCeremony : Issued where
  table id := if id = 5 then some passkeyContinuation else none
  id_eq id c h := by
    split at h
    · next hid =>
      obtain ⟨⟩ := h
      exact hid.symm
    · cases h

def storedPasskey : Passkey :=
  { (default : Passkey) with id := 2, userID := 1, credentialID := [7] }

/-- A user with a passkey. -/
def passkeyUser : List Event :=
  [.other (.op (.account (.bootstrap { (default : User) with id := 1 } default default
      { (default : Workspace) with id := 1 } default default))) (Memory.commitOf 11 1) {},
    .other (.op (.factor (.savePasskey storedPasskey))) (Memory.commitOf 12 2) {}]

/-- A Finish call goes on after it was decoded: verification, audit event, commit. -/
def finishPasskey (i : Nat) (auditID : UUID) : List Event :=
  [.verify i true, .audit i { (default : AuditInput) with id := auditID, action := "auth.passkey" },
    .commit i (.touchPasskey 1 [7] [] 0) none {}]

/-- Two calls decode the continuation in time; the first commits at once, the second after
`elapsed` nanoseconds. -/
def twoFinishes (elapsed : Nat) : List Event :=
  passkeyUser ++ [.decode 1 .passkeyAuthentication 5, .decode 2 .passkeyAuthentication 5]
    ++ finishPasskey 1 21 ++ [.tick elapsed] ++ finishPasskey 2 22

/-- With no delay the second call is in time and is refused. -/
theorem ceremony_commits_once_in_time :
    (Run.run (World.step onePasskeyCeremony) (World.init 10000) (twoFinishes 0)).committed.count 5 ≤ 1 :=
  ceremony_commits_once onePasskeyCeremony 10000 (twoFinishes 0) (by decide) 5

/-- The second call commits 15 µs later, after the expiry: its own commit forgets the ceremony before
it looks, and the ceremony is committed a second time. -/
theorem late_commit_succeeds_again :
    (Run.run (World.step onePasskeyCeremony) (World.init 10000) (twoFinishes 15000)).committed
      = [5, 5] := by
  decide

end Credbound.Manager
