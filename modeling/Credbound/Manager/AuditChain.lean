import Credbound.Manager.Accounts
import Credbound.Machinery.HashChain
import Mathlib

/-!
# Manager/AuditChain — `VerifyAuditChainFrom`

The verification reads the chained events after a checkpoint, recomputes the hash of each from the one before it, and
compares the last with the head of the chain.  What the loop accepts is determined by the hashed fields of the events
(`same_of_verifyEvents`), and the last hash determines those (`fields_of_verifyEvents`) if SHA-256 has no collision on
what is hashed.
-/

namespace Credbound.Accounts

open Procedure
open Manager Memory

/-- `AuditChainCheckpoint`. -/
structure AuditChainCheckpoint where
  sequence : Int := 0
  hash : Bytes := []

/-- `AuditChainReport`. -/
structure AuditChainReport where
  events : Int
  headSequence : Int
  headHash : Bytes

/-- Where the verification starts: the hash and the sequence number before the first event. -/
def AuditChainCheckpoint.start (checkpoint : AuditChainCheckpoint) : Bytes × Int :=
  if 0 < checkpoint.sequence then (checkpoint.hash, checkpoint.sequence) else (auditChainGenesis, 0)

/-- The loop of `VerifyAuditChainFrom`, from a hash and a sequence number on. -/
def verifyEvents : Bytes × Int → List AuditEvent → Except Err (Bytes × Int)
  | last, [] => .ok last
  | last, event :: events => do
    require (event.sequence = last.2 + 1) .auditCompromised
    require (event.previousHash = last.1 ∧ event.hash = computeAuditHash last.1 event) .auditCompromised
    verifyEvents (event.hash, last.2 + 1) events

/-- `VerifyAuditChainFrom`, once the actor is authorized. -/
def verifyChain (ctx : Context) (checkpoint : AuditChainCheckpoint) : Routine AuditChainReport := do
  demand (¬ (checkpoint.sequence < 0 ∨ ¬ (checkpoint.sequence = 0 ↔ checkpoint.hash.length = 0))) .invalidInput
  let events ← Routine.read ctx (.chainedAuditEvents checkpoint.start.2)
  let last ← lift (verifyEvents checkpoint.start events)
  let head ← Routine.read ctx .auditChainHead
  demand (head.1 = last.2 ∧ head.2 = last.1) .auditCompromised
  pure ⟨last.2, head.1, head.2⟩

/-- `VerifyAuditChainFrom`; `VerifyAuditChain` starts at the zero checkpoint. -/
def verifyAuditChainFrom (m : Accounts) (ctx : Context) (io : AccountSupply) (actor : Authentication)
    (checkpoint : AuditChainCheckpoint) : Routine AuditChainReport := do
  m.authorizeAdmin ctx io actor "admin.audit.read"
  verifyChain ctx checkpoint

/-! ## The loop -/

section Loop

variable {last last' : Bytes × Int} {event : AuditEvent} {events more : List AuditEvent}

theorem verifyEvents_cons : verifyEvents last (event :: events) = .ok last'
    ↔ event.sequence = last.2 + 1 ∧ event.previousHash = last.1 ∧ event.hash = computeAuditHash last.1 event
      ∧ verifyEvents (event.hash, last.2 + 1) events = .ok last' := by
  simp only [verifyEvents, check_bind, require_eq_ok, exists_const, and_assoc]

theorem verifyEvents_append {mid : Bytes × Int} (h : verifyEvents last events = .ok mid) :
    verifyEvents last (events ++ more) = verifyEvents mid more := by
  induction events generalizing last with
  | nil =>
    obtain ⟨⟩ := h
    rfl
  | cons event events ih =>
    obtain ⟨hsequence, hprevious, hhash, hrest⟩ := verifyEvents_cons.mp h
    rw [List.cons_append, verifyEvents, require_pos hsequence, require_pos ⟨hprevious, hhash⟩]
    exact ih hrest

/-- It counts the events. -/
theorem sequence_of_verifyEvents (h : verifyEvents last events = .ok last') :
    last'.2 = last.2 + events.length := by
  induction events generalizing last with
  | nil =>
    obtain ⟨⟩ := h
    simp
  | cons event events ih =>
    obtain ⟨-, -, -, hrest⟩ := verifyEvents_cons.mp h
    rw [ih hrest, List.length_cons]
    push_cast
    omega

/-- …which come in the order of their numbers, after the first. -/
theorem ordered_of_verifyEvents (h : verifyEvents last events = .ok last') :
    (∀ e ∈ events, last.2 < e.sequence ∧ e.sequence ≤ last'.2)
      ∧ events.Pairwise fun a b => a.sequence ≤ b.sequence := by
  induction events generalizing last with
  | nil => exact ⟨by simp, .nil⟩
  | cons event events ih =>
    obtain ⟨hsequence, -, -, hrest⟩ := verifyEvents_cons.mp h
    obtain ⟨hall, hpairwise⟩ := ih hrest
    have hcount := sequence_of_verifyEvents hrest
    refine ⟨fun e he => ?_, List.pairwise_cons.mpr ⟨fun e he => ?_, hpairwise⟩⟩
    · obtain rfl | he := List.mem_cons.mp he
      · constructor <;> omega
      · have := hall e he
        constructor <;> omega
    · have := hall e he
      omega

end Loop

/-! ## The hashed fields -/

theorem hashedID_injective : Function.Injective hashedID := by
  have hne (id : UUID) : id.string ≠ "" := by
    intro h
    have hlength := congrArg String.length h
    simp [UUID.string] at hlength
  intro a b h
  unfold hashedID at h
  split at h <;> split at h
  · next ha hb => exact ha.trans hb.symm
  · exact absurd h.symm (hne b)
  · exact absurd h (hne a)
  · exact UUID.string_injective h

theorem auditField_eq (value : String) : auditField value = HashChain.field (HashChain.bytesOf value) := by
  have hcolon : ":".toUTF8.toList = [58] := by decide +kernel
  have hsemicolon : ";".toUTF8.toList = [59] := by decide +kernel
  simp only [auditField, HashChain.field, HashChain.bytesOf, hcolon, hsemicolon, List.append_assoc, List.cons_append,
    List.nil_append]

theorem flatMap_auditField_inj {fields others : List String} (hlength : fields.length = others.length)
    (h : fields.flatMap auditField = others.flatMap auditField) : fields = others := by
  rw [show auditField = fun value => HashChain.field (HashChain.bytesOf value) from funext auditField_eq] at h
  exact HashChain.flatMap_field_inj HashChain.bytesOf_injective hlength h

/-- The events agree in every field that is hashed, as far as it is hashed. -/
structure SameHashed (event other : AuditEvent) : Prop where
  sequence : event.sequence = other.sequence
  id : event.id = other.id
  occurredAt : unixMicro event.occurredAt = unixMicro other.occurredAt
  actorKind : event.actorKind.text = other.actorKind.text
  actorID : event.actorID = other.actorID
  action : event.action = other.action
  resourceType : event.resourceType = other.resourceType
  resourceID : event.resourceID = other.resourceID
  workspaceID : event.workspaceID = other.workspaceID
  outcome : event.outcome.text = other.outcome.text
  reason : event.reason = other.reason
  ipAddress : event.ipAddress = other.ipAddress
  userAgent : event.userAgent = other.userAgent

/-- **The texts that are hashed tell the fields.** -/
theorem auditFields_eq_iff {event other : AuditEvent} :
    auditFields event = auditFields other ↔ SameHashed event other := by
  constructor
  · intro h
    simp only [auditFields, List.cons.injEq, and_true] at h
    obtain ⟨hsequence, hid, hat, hkind, hactor, haction, htype, hresource, hworkspace, houtcome, hreason, hip, hagent⟩ := h
    exact ⟨Int.repr_inj.mp hsequence, hashedID_injective hid, Int.repr_inj.mp hat, hkind, hashedID_injective hactor,
      haction, htype, hresource, hashedID_injective hworkspace, houtcome, hreason, hip, hagent⟩
  · rintro ⟨hsequence, hid, hat, hkind, hactor, haction, htype, hresource, hworkspace, houtcome, hreason, hip, hagent⟩
    simp only [auditFields, hsequence, hid, hat, hkind, hactor, haction, htype, hresource, hworkspace, houtcome, hreason,
      hip, hagent]

/-- …and the event carries the same hashes. -/
structure SameEvent (event other : AuditEvent) : Prop where
  fields : SameHashed event other
  previousHash : event.previousHash = other.previousHash
  hash : event.hash = other.hash

/-! ## The bytes that are hashed -/

/-- An event as far as it is hashed, with texts of any bytes. -/
@[ext] structure HashedEvent where
  sequence : Int
  id : UUID
  occurredAt : Time
  actorKind : Bytes
  actorID : UUID
  action : Bytes
  resourceType : Bytes
  resourceID : Bytes
  workspaceID : UUID
  outcome : Bytes
  reason : Bytes
  ipAddress : Bytes
  userAgent : Bytes

section Written

open HashChain (bytesOf)

/-- What `ComputeAuditHash` feeds to the hash. -/
def HashedEvent.written (previous : Bytes) (event : HashedEvent) : Bytes :=
  (if previous.length = 0 then auditChainGenesis else previous) ++
    [bytesOf (toString event.sequence), bytesOf (hashedID event.id), bytesOf (toString (unixMicro event.occurredAt)),
      event.actorKind, bytesOf (hashedID event.actorID), event.action, event.resourceType, event.resourceID,
      bytesOf (hashedID event.workspaceID), event.outcome, event.reason, event.ipAddress,
      event.userAgent].flatMap HashChain.field

/-- The fields of an event whose texts are Unicode. -/
def hashedEvent (event : AuditEvent) : HashedEvent :=
  ⟨event.sequence, event.id, event.occurredAt, bytesOf event.actorKind.text, event.actorID, bytesOf event.action,
    bytesOf event.resourceType, bytesOf event.resourceID, event.workspaceID, bytesOf event.outcome.text,
    bytesOf event.reason, bytesOf event.ipAddress, bytesOf event.userAgent⟩

theorem computeAuditHash_eq_written (previous : Bytes) (event : AuditEvent) :
    computeAuditHash previous event = Sha256.sum ((hashedEvent event).written previous) := by
  simp only [computeAuditHash, HashedEvent.written, auditFields, hashedEvent, List.flatMap_cons, auditField_eq,
    List.flatMap_nil]

variable {previous previous' : Bytes} {event event' : HashedEvent}

/-- The bytes tell the fields, and the time as far as 64 bits of microseconds do. -/
theorem written_eq_iff (h : previous.length = 32) (h' : previous'.length = 32) :
    event.written previous = event'.written previous' ↔ previous = previous'
      ∧ event' = { event with occurredAt := event'.occurredAt }
      ∧ unixMicro event.occurredAt = unixMicro event'.occurredAt := by
  rw [HashedEvent.written, HashedEvent.written, if_neg (by omega), if_neg (by omega)]
  constructor
  · intro heq
    obtain ⟨rfl, hfields⟩ := List.append_inj heq (h.trans h'.symm)
    have hall := HashChain.flatMap_field_inj Function.injective_id (by rfl) hfields
    simp only [List.cons.injEq, HashChain.bytesOf_injective.eq_iff, hashedID_injective.eq_iff, toString, Int.repr_inj] at hall
    exact ⟨rfl, by ext1 <;> simp [hall], hall.2.2.1⟩
  · rintro ⟨rfl, hfields, hat⟩
    rw [hfields]
    simp only [hat]

/-- Of two times in whole microseconds, those are written alike that are a multiple of 2^64 microseconds apart. -/
theorem unixMicro_eq_iff {t t' : Time} (h : 1000 ∣ t) (h' : 1000 ∣ t') :
    unixMicro t = unixMicro t' ↔ 2 ^ 64 * 1000 ∣ t' - t := by
  obtain ⟨a, rfl⟩ := h
  obtain ⟨b, rfl⟩ := h'
  rw [← mul_sub, mul_comm (2 ^ 64), mul_dvd_mul_iff_left (by decide)]
  change _ ↔ 18446744073709551616 ∣ b - a
  simp only [unixMicro, unixEpoch, Int.bmod]
  split_ifs <;> omega

/-- **No two events are written alike, unless their times alone differ, by a multiple of 2^64 microseconds**: for
texts of any bytes, and times in whole microseconds. -/
theorem written_injective_iff (h : previous.length = 32) (h' : previous'.length = 32) (hat : 1000 ∣ event.occurredAt)
    (hat' : 1000 ∣ event'.occurredAt) :
    (event.written previous = event'.written previous' → previous = previous' ∧ event = event')
      ↔ ¬ (previous = previous' ∧ event' = { event with occurredAt := event'.occurredAt }
        ∧ event'.occurredAt ≠ event.occurredAt ∧ 2 ^ 64 * 1000 ∣ event'.occurredAt - event.occurredAt) := by
  rw [written_eq_iff h h', unixMicro_eq_iff hat hat']
  constructor
  · rintro hinj ⟨hprevious, hfields, hne, hdvd⟩
    exact hne (congrArg HashedEvent.occurredAt (hinj ⟨hprevious, hfields, hdvd⟩).2).symm
  · rintro hnot ⟨hprevious, hfields, hdvd⟩
    by_contra hne
    refine hnot ⟨hprevious, hfields, fun hsame => hne ⟨hprevious, ?_⟩, hdvd⟩
    rw [hfields, hsame]

/-- A first login at a time. -/
def loginAt (at' : Time) : HashedEvent := ⟨1, 1, at', [117], 2, [108], [], [], 0, [115], [], [], []⟩

/-- A microsecond later is written otherwise… -/
theorem login_written_otherwise : (loginAt (unixEpoch + 1000)).written auditChainGenesis
    ≠ (loginAt unixEpoch).written auditChainGenesis := by
  have h := (@written_injective_iff auditChainGenesis auditChainGenesis
    (loginAt (unixEpoch + 1000)) (loginAt unixEpoch) rfl rfl (by decide) (by decide)).mpr
    fun h => absurd h.2.2.2 (by decide)
  exact fun heq => absurd (congrArg HashedEvent.occurredAt (h heq).2) (by decide)

/-- …and 2^64 microseconds later, 584,542 years, it is not. -/
theorem login_written_alike : (loginAt (unixEpoch + 2 ^ 64 * 1000)).written auditChainGenesis
      = (loginAt unixEpoch).written auditChainGenesis
    ∧ loginAt (unixEpoch + 2 ^ 64 * 1000) ≠ loginAt unixEpoch :=
  ⟨(written_eq_iff rfl rfl).mpr ⟨rfl, rfl, by decide⟩,
    fun h => absurd (congrArg HashedEvent.occurredAt h) (by decide)⟩

end Written

/-! ## What the loop accepts -/

/-- The message whose digest is the hash of an event. -/
def auditMessage (previous : Bytes) (event : AuditEvent) : Bytes :=
  (if previous.length = 0 then auditChainGenesis else previous) ++ (auditFields event).flatMap auditField

/-- The messages that the loop hashes. -/
def messages : Bytes → List AuditEvent → List Bytes
  | _, [] => []
  | previous, event :: events => auditMessage previous event :: messages event.hash events

/-- The digest of a hash and the fields of an event. -/
def linkFields (previous : Bytes) (fields : List String) : Bytes :=
  Sha256.sum (previous ++ fields.flatMap auditField)

theorem computeAuditHash_eq {previous : Bytes} (h : previous.length = 32) (event : AuditEvent) :
    computeAuditHash previous event = linkFields previous (auditFields event) := by
  rw [computeAuditHash, if_neg (by omega), linkFields]

section Accepted

variable {last last' : Bytes × Int} {events genuine : List AuditEvent}

/-- The loop depends on the hashed fields and the hashes of the events. -/
theorem verifyEvents_congr (h : List.Forall₂ SameEvent events genuine) : verifyEvents last events = verifyEvents last genuine := by
  induction h generalizing last with
  | nil => rfl
  | cons hsame _ ih =>
    obtain ⟨hfields, hprevious, hhash⟩ := hsame
    rw [verifyEvents, verifyEvents, hfields.sequence, hprevious, hhash, computeAuditHash, computeAuditHash,
      auditFields_eq_iff.mpr hfields, ih]

/-- Events that are accepted from one start, with the same hashed fields, agree. -/
theorem same_of_verifyEvents {last'' : Bytes × Int} (h : verifyEvents last events = .ok last')
    (h' : verifyEvents last genuine = .ok last'') (hfields : events.map auditFields = genuine.map auditFields) :
    List.Forall₂ SameEvent events genuine := by
  induction events generalizing last genuine with
  | nil =>
    obtain rfl := List.map_eq_nil_iff.mp hfields.symm
    exact .nil
  | cons event events ih =>
    cases genuine with
    | nil => cases hfields
    | cons other genuine =>
      obtain ⟨hfirst, hrest⟩ := List.cons_eq_cons.mp hfields
      obtain ⟨-, hprevious, hhash, hevents⟩ := verifyEvents_cons.mp h
      obtain ⟨-, hprevious', hhash', hgenuine⟩ := verifyEvents_cons.mp h'
      have hsame : event.hash = other.hash := by
        rw [hhash, hhash', computeAuditHash, computeAuditHash, hfirst]
      rw [hsame] at hevents
      exact .cons ⟨auditFields_eq_iff.mp hfirst, hprevious.trans hprevious'.symm, hsame⟩ (ih hevents hgenuine hrest)

/-- The last hash is the head of the chain of the hashed fields. -/
theorem head_of_verifyEvents (hlength : last.1.length = 32) (h : verifyEvents last events = .ok last') :
    last'.1 = HashChain.head linkFields last.1 (events.map auditFields) := by
  induction events generalizing last with
  | nil =>
    obtain ⟨⟩ := h
    rfl
  | cons event events ih =>
    obtain ⟨-, -, hhash, hrest⟩ := verifyEvents_cons.mp h
    rw [computeAuditHash_eq hlength] at hhash
    rw [List.map_cons, HashChain.head_cons, ← hhash]
    exact ih (by rw [hhash, linkFields, Sha256.length_sum]) hrest

/-- What the chain hashes is what the loop hashes. -/
theorem inputs_of_verifyEvents (hlength : last.1.length = 32) (h : verifyEvents last events = .ok last') :
    ∀ x ∈ HashChain.inputs linkFields last.1 (events.map auditFields),
      x.1.length = 32 ∧ x.2.length = 13 ∧ x.1 ++ x.2.flatMap auditField ∈ messages last.1 events := by
  induction events generalizing last with
  | nil => simp [HashChain.inputs]
  | cons event events ih =>
    obtain ⟨-, -, hhash, hrest⟩ := verifyEvents_cons.mp h
    rw [computeAuditHash_eq hlength] at hhash
    intro x hx
    rw [List.map_cons, HashChain.inputs, List.mem_cons, ← hhash] at hx
    rw [messages, auditMessage, if_neg (by omega)]
    obtain rfl | hx := hx
    · exact ⟨hlength, rfl, List.mem_cons_self⟩
    · obtain ⟨h32, h13, hmem⟩ := ih (by rw [hhash, linkFields, Sha256.length_sum]) hrest x hx
      exact ⟨h32, h13, List.mem_cons_of_mem _ hmem⟩

/-- **Without a collision, what is accepted up to one head has the same hashed fields.** -/
theorem fields_of_verifyEvents (hlength : last.1.length = 32) (h : verifyEvents last events = .ok last')
    (h' : verifyEvents last genuine = .ok last')
    (hcollision : ∀ x ∈ messages last.1 events, ∀ y ∈ messages last.1 genuine, Sha256.sum x = Sha256.sum y → x = y) :
    events.map auditFields = genuine.map auditFields := by
  have hcount : events.length = genuine.length := by
    have hevents := sequence_of_verifyEvents h
    have hgenuine := sequence_of_verifyEvents h'
    omega
  refine HashChain.eq_of_head_eq (by simpa using hcount) (fun x hx y hy hlink => ?_)
    ((head_of_verifyEvents hlength h).symm.trans (head_of_verifyEvents hlength h'))
  obtain ⟨hx32, hx13, hxin⟩ := inputs_of_verifyEvents hlength h x hx
  obtain ⟨hy32, hy13, hyin⟩ := inputs_of_verifyEvents hlength h' y hy
  obtain ⟨hhash, hfields⟩ := List.append_inj (hcollision _ hxin _ hyin hlink) (hx32.trans hy32.symm)
  exact Prod.ext hhash (flatMap_auditField_inj (hx13.trans hy13.symm) hfields)

end Accepted

/-! ## Before the events are read -/

/-- The accesses of `authorizeAdmin`: two reads, and an event that is appended. -/
inductive Admitting (ctx : Context) : ⦃β : Type⦄ → Access β → Prop
  | user (id : UUID) : Admitting ctx (.read ctx (.userByID id))
  | administrator (id : UUID) : Admitting ctx (.read ctx (.instanceAdministrator id))
  | audit (event : AuditEvent) : Admitting ctx (.write ctx (.workspace .appendAudit) { audit := event })

/-- What they answer is not `ErrAuditCompromised`. -/
def Unalarming (ctx : Context) : ⦃β : Type⦄ → Access β → β → Prop
  | _, .read ctx' (.userByID _), r => ctx' = ctx → r ≠ .error .auditCompromised
  | _, .read ctx' (.instanceAdministrator _), r => ctx' = ctx → r ≠ .error .auditCompromised
  | _, .write ctx' (.workspace .appendAudit) commit, r =>
      ctx' = ctx → commit.transactional = none → r ≠ .error .auditCompromised
  | _, _, _ => True

/-- The procedure does not raise the alarm. -/
abbrev Silent (ctx : Context) {α : Type} (p : Routine α) : Prop :=
  p.Ensures (Unalarming ctx) (Admitting ctx) fun r => r ≠ .error .auditCompromised

variable {ctx : Context}

theorem Silent.bind {α β : Type} {p : Routine α} {f : α → Routine β} (hp : Silent ctx p)
    (hf : ∀ a, Silent ctx (f a)) : Silent ctx (p >>= f) :=
  ensures_bind hp (fun _ he heq => he (congrArg Except.error (Except.error.inj heq))) fun a _ => hf a

theorem silent_demand {q : Prop} [Decidable q] {e : Err} (he : e ≠ .auditCompromised) :
    Silent ctx (demand q e) := by
  unfold demand
  split
  · exact ensures_pure nofun
  · exact ensures_fail fun h => he (Except.error.inj h)

theorem silent_unlessMissing {α : Type} {r : Except Err α} (hr : r ≠ .error .auditCompromised) :
    Silent ctx (unlessMissing r) := by
  cases r with
  | error e => exact silent_demand fun h => hr (congrArg Except.error h)
  | ok _ => exact ensures_pure nofun

theorem silent_authorizeAdmin {m : Accounts} {io : AccountSupply} {actor : Authentication}
    {permission : String} (hids : io.newID 0 ≠ .error .auditCompromised) :
    Silent ctx (m.authorizeAdmin ctx io actor permission) := by
  refine Silent.bind (silent_demand nofun) fun _ => ?_
  refine ensures_bind (P := fun r => ∃ x, r = .ok x ∧ x ≠ .error .auditCompromised)
    (ensures_attempt (ensures_call (.user _) fun r hr => ⟨r, rfl, hr rfl⟩)) ?_ fun user huser => ?_
  · rintro e ⟨_, ⟨⟩, -⟩
  refine ensures_bind (P := fun r => ∃ x, r = .ok x ∧ x ≠ .error .auditCompromised)
    (ensures_attempt (ensures_call (.administrator _) fun r hr => ⟨r, rfl, hr rfl⟩)) ?_
    fun admin hadmin => ?_
  · rintro e ⟨_, ⟨⟩, -⟩
  obtain ⟨_, ⟨⟩, huser⟩ := huser
  obtain ⟨_, ⟨⟩, hadmin⟩ := hadmin
  refine Silent.bind (ensures_lift ?_) fun event => ?_
  · rw [Supply.audit]
    cases hid : io.newID 0 with
    | error e => exact fun h => hids (hid.trans (congrArg Except.error (Except.error.inj h)))
    | ok id => exact nofun
  refine Silent.bind (ensures_mapError (ensures_call (.audit event) fun r hr => ?_)) fun _ => ?_
  · cases r with
    | ok _ => exact nofun
    | error e =>
      intro h
      refine hr rfl rfl ?_
      cases e <;> simp_all [Except.mapError, mapStoreError]
  refine Silent.bind (silent_unlessMissing hadmin) fun _ => ?_
  refine Silent.bind (silent_unlessMissing huser) fun _ => ?_
  exact silent_demand nofun

end Credbound.Accounts
