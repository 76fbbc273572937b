import Credbound.Manager.Memberships
import Credbound.Memory.Admins
import Credbound.Stores.Switches

/-!
# Stores/MembershipStores — what a store does with memberships

A `MembershipStore` says of a store what the functions that change memberships rely on: a check leaves the
memberships, a membership that is read is the one that is stored, and a write of one membership leaves the
others.  Both stores are such stores; which memberships a directory manages is left to each of them.
-/

namespace Credbound

open Manager Memory

/-- The operation writes or removes the membership. -/
def Memory.Op.Overwrites (op : Op) (workspaceID userID : UUID) : Prop :=
  match op with
  | .workspace (.upsertMembership v) => v.workspaceID = workspaceID ∧ v.userID = userID
  | .workspace (.removeMembership w u _) => w = workspaceID ∧ u = userID
  | .workspace (.acceptWorkspaceInvitation _ u _ v) =>
      v.workspaceID = workspaceID ∧ u = userID ∧ v.userID = userID
  | _ => False

/-- A store that keeps memberships. -/
structure MembershipStore (S : Type) where
  access : Program.Handler Access S
  membership : S → UUID → UUID → Option Membership
  /-- There is a SCIM configuration with the identifier. -/
  configured : S → UUID → Prop
  /-- A membership as the store returns it: what is empty may be given its default. -/
  shown : Membership → Membership
  shown_role : ∀ v, (shown v).role = v.role
  shown_status : ∀ v, v.status ≠ .other "" → (shown v).status = v.status
  shown_source : ∀ v, v.provisioningSource ≠ "" → (shown v).provisioningSource = v.provisioningSource
  reading : ∀ ⦃β : Type⦄ (e : Access β) s, Reading e → (access e s).2 = s
  checking : ∀ ⦃β : Type⦄ (e : Access β) s w u, Checking e → membership (access e s).2 w u = membership s w u
  found : ∀ ctx w u s v, (access (.read ctx (.membership w u)) s).1 = .ok v →
    (membership s w u).map shown = some v
  missing : ∀ ctx w u s, ctx.err = none → (access (.read ctx (.membership w u)) s).1 = .error .notFound →
    membership s w u = none
  stopped : ∀ ctx (op : Op) commit s w u, op.Overwrites w u → ctx.err ≠ none →
    ∃ e, access (.write ctx op commit) s = (.error e, s)
  frame : ∀ ctx (op : Op) commit s w u w' u', op.Overwrites w u → (w', u') ≠ (w, u) →
    membership (access (.write ctx op commit) s).2 w' u' = membership s w' u'
  upserted : ∀ ctx v commit s, (membership s v.workspaceID v.userID).isSome →
    (access (.write ctx (.workspace (.upsertMembership v)) commit) s).1 = .ok () →
    ∃ v', membership (access (.write ctx (.workspace (.upsertMembership v)) commit) s).2 v.workspaceID v.userID
      = some v' ∧ v'.role = v.role ∧ (v.status ≠ .other "" → v'.status = v.status)

/-- The membership is managed by a directory: its source is the identifier of a SCIM configuration. -/
def MembershipStore.Managed {S : Type} (store : MembershipStore S) (s : S) (workspaceID userID : UUID) : Prop :=
  ∃ v id, store.membership s workspaceID userID = some v ∧ store.configured s id
    ∧ v.provisioningSource = id.string

/-- There is the membership, with this role, and with this status unless that is empty. -/
def MembershipStore.Has {S : Type} (store : MembershipStore S) (s : S) (workspaceID userID : UUID) (role : Role)
    (status : MembershipStatus) : Prop :=
  ∃ v, store.membership s workspaceID userID = some v ∧ v.role = role ∧ (status ≠ .other "" → v.status = status)

/-! ## The memory store -/

namespace Memory

theorem normalizeMembership_role (v : Membership) : (normalizeMembership v).role = v.role := by
  unfold normalizeMembership
  dsimp only
  split <;> split <;> rfl

theorem normalizeMembership_status {v : Membership} (h : v.status ≠ .other "") :
    (normalizeMembership v).status = v.status := by
  unfold normalizeMembership
  dsimp only
  rw [if_neg h]
  split <;> rfl

theorem normalizeMembership_source {v : Membership} (h : v.provisioningSource ≠ "") :
    (normalizeMembership v).provisioningSource = v.provisioningSource := by
  unfold normalizeMembership
  dsimp only
  split <;> simp

theorem membership?_of_sameCore {s t : Store} (h : s.SameCore t) (w u : UUID) :
    t.membership? w u = s.membership? w u := by
  obtain ⟨_, rfl⟩ := h
  rfl

theorem access_checking ⦃β : Type⦄ (e : Access β) (s : Store) (w u : UUID) (he : Checking e) :
    (access e s).2.membership? w u = s.membership? w u := by
  cases e with
  | write ctx op commit =>
    obtain rfl : op = .workspace .appendAudit := he
    refine Call.next_preserves (I := fun t => t.membership? w u = s.membership? w u)
      ⟨.op (.workspace .appendAudit), commit, ctx⟩ s ?_ rfl
    intro m p hm _ _ hp
    cases hm
    exact hp
  | request r =>
    cases r with
    | query => rfl
    | update => exact he.elim
  | read | scimUsers | scimGroups => rfl
  | _ => exact he.elim

theorem membership?_remove (s : Store) (w u w' u' : UUID) :
    ({ s with memberships := s.memberships.modify w (·.del u) } : Store).membership? w' u'
      = if w' = w ∧ u' = u then none else s.membership? w' u' := by
  have hget : ({ s with memberships := s.memberships.modify w (·.del u) } : Store).membership? w' u'
      = ((s.memberships.modify w (·.del u)).getI w').get? u' := rfl
  rw [hget]
  by_cases hw : w' = w
  · subst hw
    rw [FMap.getI_modify _ _ rfl, FMap.get?_del]
    simp [Store.membership?]
  · rw [FMap.getI, FMap.get?_modify, if_neg hw]
    simp [hw, Store.membership?, FMap.getI]

/-- A write of one membership leaves the others. -/
theorem access_frame (ctx : Context) (op : Op) (commit : Commit) (s : Store) (w u w' u' : UUID)
    (hop : op.Overwrites w u) (hne : (w', u') ≠ (w, u)) :
    (access (.write ctx op commit) s).2.membership? w' u' = s.membership? w' u' := by
  refine Call.next_preserves (I := fun t => t.membership? w' u' = s.membership? w' u')
    ⟨.op op, commit, ctx⟩ s ?_ rfl
  intro m p hm hcore hcheck hp
  have hother : ¬ (w' = w ∧ u' = u) := fun h => hne (Prod.ext h.1 h.2)
  unfold Op.Overwrites at hop
  split at hop
  · next v =>
    cases hm
    obtain ⟨rfl, rfl⟩ := hop
    have hwrite : (upsertMembership v).write commit p = .ok ((upsertMembership v).result commit p) := rfl
    obtain ⟨createdAt, hmem, -⟩ := upsertMembership_ok hwrite
    have hput := membership?_put p v.workspaceID v.userID w' u'
      (normalizeMembership { v with createdAt := createdAt })
    rw [if_neg hother] at hput
    exact ((congrArg (fun members => (FMap.getI members w').get? u') hmem).trans hput).trans hp
  · next w'' u'' at' =>
    cases hm
    obtain ⟨rfl, rfl⟩ := hop
    exact ((membership?_remove p w'' u'' w' u').trans (if_neg hother)).trans hp
  · next invitationID userID at' v =>
    cases hm
    obtain ⟨rfl, rfl, -⟩ := hop
    have hput := membership?_put (p.acceptInvitation invitationID userID at') v.workspaceID userID w' u'
      (normalizeMembership v)
    rw [if_neg hother] at hput
    exact hput.trans hp
  · exact hop.elim

/-- A membership that is upserted has the role and the status it was given. -/
theorem access_upserted (ctx : Context) (v : Membership) (commit : Commit) (s : Store)
    (h : (access (.write ctx (.workspace (.upsertMembership v)) commit) s).1 = .ok ()) :
    ∃ v', (access (.write ctx (.workspace (.upsertMembership v)) commit) s).2.membership? v.workspaceID v.userID
      = some v' ∧ v'.role = v.role ∧ (v.status ≠ .other "" → v'.status = v.status) := by
  obtain ⟨p, t, -, -, hwrite, hcore⟩ := Call.run_ok (o := .workspace (.upsertMembership v))
    (Outcome.toExcept_eq_ok.mp h)
  obtain ⟨createdAt, hmem, -⟩ := upsertMembership_ok hwrite
  have hput := membership?_put p v.workspaceID v.userID v.workspaceID v.userID
    (normalizeMembership { v with createdAt := createdAt })
  rw [if_pos ⟨rfl, rfl⟩] at hput
  refine ⟨_, (membership?_of_sameCore hcore _ _).trans
    ((congrArg (fun members => (FMap.getI members v.workspaceID).get? v.userID) hmem).trans hput), ?_, ?_⟩
  · exact normalizeMembership_role _
  · exact fun hstatus => normalizeMembership_status hstatus

end Memory

/-- The memory store. -/
def memoryMemberships : MembershipStore Store where
  access := Memory.access
  membership := Store.membership?
  configured s id := id ∈ s.scimConfigurations
  shown := normalizeMembership
  shown_role := normalizeMembership_role
  shown_status _ := normalizeMembership_status
  shown_source _ := normalizeMembership_source
  reading := access_reading
  checking := access_checking
  found ctx w u s v h := get?_of_read h
  missing ctx w u s hctx h := by
    have hanswer : ((s.answer ctx (.membership w u)).toExcept) = .error .notFound := h
    simp only [Store.answer, guarded, hctx] at hanswer
    cases hm : s.membership? w u with
    | none => rfl
    | some v =>
      rw [hm] at hanswer
      cases hanswer
  stopped ctx op commit s w u _ hctx := by
    obtain ⟨e, he⟩ := Option.ne_none_iff_exists'.mp hctx
    refine ⟨e, ?_⟩
    simp only [access, settle, Mutation.attempt, he]
    rfl
  frame := access_frame
  upserted ctx v commit s _ := access_upserted ctx v commit s

/-! ## The PostgreSQL store -/

namespace Postgres

/-- The method of an operation on memberships.  The invitations are outside the model: `accept` marks one
accepted. -/
def membershipMethod (accept : UUID → UUID → Time → Database → Except Err Database) (commit : Commit) :
    Op → Option (Database → Except Err Database)
  | .workspace .appendAudit => some .ok
  | .workspace (.upsertMembership v) => some (upsertMembership v commit.audit.occurredAt)
  | .workspace (.removeMembership workspaceID userID at') => some (removeMembership workspaceID userID at')
  | .workspace (.acceptWorkspaceInvitation invitationID userID at' v) =>
      some fun db => do (← accept invitationID userID at' db).upsertMembership v
  | _ => none

/-- The handler treats memberships as the PostgreSQL store does. -/
structure KeepsMemberships (access : Program.Handler Access Database)
    (accept : UUID → UUID → Time → Database → Except Err Database) : Prop where
  reading : ∀ ⦃β : Type⦄ (e : Access β) db, Reading e → (access e db).2 = db
  membership : ∀ ctx w u db,
    (access (.read ctx (.membership w u)) db).1 = querying ctx (db.membershipRow w u)
  write : ∀ ctx op commit db fn, membershipMethod accept commit op = some fn →
    access (.write ctx op commit) db = ((mutate ctx commit fn db).1.toExcept, (mutate ctx commit fn db).2)
  accept : ∀ invitationID userID at' db,
    Yields (fun written => written.memberships = db.memberships) (accept invitationID userID at' db)

variable {db db' : Database} {w u : UUID}

theorem membershipRow_congr (h : db'.memberships = db.memberships) (w u : UUID) :
    db'.membershipRow w u = db.membershipRow w u := by rw [Database.membershipRow, h, Database.membershipRow]

theorem membershipRow_of_sameTables (h : db.SameTables db') (w u : UUID) :
    db'.membershipRow w u = db.membershipRow w u := by
  obtain ⟨_, _, _, _, rfl⟩ := h
  rfl

/-- A transaction leaves the membership its method leaves. -/
theorem mutate_leaves {ctx : Context} {commit : Commit} {fn : Database → Except Err Database}
    (hfn : ∀ db, Yields (fun written => written.membershipRow w u = db.membershipRow w u) (fn db)) (db : Database) :
    (mutate ctx commit fn db).2.membershipRow w u = db.membershipRow w u := by
  obtain ⟨e, h⟩ | ⟨begun, written, db', hbegun, hwritten, hlog, h⟩ := mutate_cases ctx commit fn db
  · rw [h]
  · rw [h, membershipRow_of_sameTables hlog, hfn begun written hwritten, membershipRow_of_sameTables hbegun]

theorem membershipRow_set {row : Membership} (h : db'.memberships = db.memberships.set (w, u) row) (w' u' : UUID)
    (hne : (w', u') ≠ (w, u)) :
    db'.membershipRow w' u' = db.membershipRow w' u' := by
  unfold Database.membershipRow
  refine bind_congr fun _ => ?_
  rw [h, find, find, FMap.get?_set_ne _ _ hne]

theorem membershipRow_del (h : db'.memberships = db.memberships.del (w, u)) (w' u' : UUID) (hne : (w', u') ≠ (w, u)) :
    db'.membershipRow w' u' = db.membershipRow w' u' := by
  unfold Database.membershipRow
  refine bind_congr fun _ => ?_
  rw [h, find, find, FMap.get?_del, if_neg hne]

theorem membershipRow_written {row : Membership} (h : db'.memberships = db.memberships.set (w, u) row)
    (hne : w ≠ 0 ∧ u ≠ 0) :
    db'.membershipRow w u = .ok row := by
  simp only [Database.membershipRow, check_bind, require_eq_ok, find_eq_ok]
  exact ⟨(), hne, by rw [h, FMap.get?_set_self]⟩

theorem nonzero_of_membershipRow {db : Database} (h : (db.membershipRow w u).toOption.isSome) :
    w ≠ 0 ∧ u ≠ 0 := by
  cases hrow : db.membershipRow w u with
  | error e =>
    rw [hrow] at h
    cases h
  | ok row =>
    simp only [Database.membershipRow, check_bind, require_eq_ok] at hrow
    obtain ⟨_, hne, -⟩ := hrow
    exact hne

/-- What an upsert writes. -/
theorem upsertMembership_set (v : Membership) (db : Database) : Yields (fun written => ∃ row,
        written.memberships = db.memberships.set (v.workspaceID, v.userID) row ∧ row.role = v.role
        ∧ (v.status ≠ .other "" → row.status = v.status)) (db.upsertMembership v) := by
  unfold Database.upsertMembership
  by_cases hstatus : v.status = .other "" <;> by_cases hsource : v.provisioningSource = "" <;>
    simp only [hstatus, hsource, if_true, if_false] <;>
    refine .bind fun _ _ => .bind fun _ _ => .pure ⟨_, rfl, rfl, fun h => ?_⟩ <;>
    first | rfl | exact absurd rfl h

section

variable {access : Program.Handler Access Database} {accept : UUID → UUID → Time → Database → Except Err Database}

/-- A write of one membership leaves the others. -/
theorem KeepsMemberships.method_leaves (h : KeepsMemberships access accept) {commit : Commit} {op : Op}
    {fn : Database → Except Err Database} (hfn : membershipMethod accept commit op = some fn)
    {w u w' u' : UUID} (hop : op.Overwrites w u) (hne : (w', u') ≠ (w, u)) (db : Database) :
    Yields (fun written => written.membershipRow w' u' = db.membershipRow w' u') (fn db) := by
  have hupsert : ∀ v db, v.workspaceID = w → v.userID = u →
      Yields (fun written => written.membershipRow w' u' = db.membershipRow w' u')
        (Database.upsertMembership v db) := by
    rintro v db rfl rfl written hwritten
    obtain ⟨row, hrow, -⟩ := upsertMembership_set v db written hwritten
    exact membershipRow_set hrow w' u' hne
  unfold Op.Overwrites at hop
  split at hop
  · next v =>
    obtain ⟨⟩ := hfn
    refine .bind fun _ _ => .bind fun _ _ => .bind fun t ht => .pure ?_
    have hrow := hupsert v db hop.1 hop.2 t ht
    split
    · exact (membershipRow_congr rfl w' u').trans hrow
    · exact hrow
  · next w'' u'' at' =>
    obtain ⟨⟩ := hfn
    obtain ⟨rfl, rfl⟩ := hop
    exact .bind fun _ _ => .bind fun _ _ => .bind fun _ _ => .pure (membershipRow_del rfl w' u' hne)
  · next invitationID userID at' v =>
    obtain ⟨⟩ := hfn
    refine .bind fun t ht => fun written hwritten => ?_
    exact (hupsert v t hop.1 hop.2.2 written hwritten).trans
      (membershipRow_congr (h.accept invitationID userID at' db t ht) w' u')
  · exact hop.elim

theorem isSome_membershipMethod {commit : Commit} {op : Op} {w u : UUID} (hop : op.Overwrites w u) :
    ∃ fn, membershipMethod accept commit op = some fn := by
  unfold Op.Overwrites at hop
  split at hop
  · exact ⟨_, rfl⟩
  · exact ⟨_, rfl⟩
  · exact ⟨_, rfl⟩
  · exact hop.elim

theorem KeepsMemberships.checking (h : KeepsMemberships access accept) ⦃β : Type⦄ (e : Access β) (db : Database)
    (w u : UUID) (he : Checking e) : (access e db).2.membershipRow w u = db.membershipRow w u := by
  by_cases hread : Reading e
  · rw [h.reading e db hread]
  · cases e with
    | write ctx op commit =>
      obtain rfl : op = .workspace .appendAudit := he
      rw [h.write ctx _ commit db .ok rfl]
      exact mutate_leaves (fun db => .pure rfl) db
    | request r =>
      cases r with
      | query => exact absurd trivial hread
      | update => exact he.elim
    | read | scimUsers | scimGroups => exact absurd trivial hread
    | _ => exact he.elim

/-- A membership that is upserted has the role and the status it was given. -/
theorem KeepsMemberships.upserted (h : KeepsMemberships access accept) (ctx : Context) (v : Membership)
    (commit : Commit) (db : Database) (hrow : (db.membershipRow v.workspaceID v.userID).toOption.isSome)
    (hok : (access (.write ctx (.workspace (.upsertMembership v)) commit) db).1 = .ok ()) :
    ∃ v', ((access (.write ctx (.workspace (.upsertMembership v)) commit) db).2.membershipRow
        v.workspaceID v.userID).toOption = some v'
      ∧ v'.role = v.role ∧ (v.status ≠ .other "" → v'.status = v.status) := by
  rw [h.write ctx _ commit db _ rfl] at hok ⊢
  obtain ⟨e, hrun⟩ | ⟨begun, written, db', -, hwritten, hlog, hrun⟩ := mutate_cases ctx commit
    (upsertMembership v commit.audit.occurredAt) db
  · rw [hrun] at hok
    cases hok
  · rw [hrun, membershipRow_of_sameTables hlog]
    simp only [upsertMembership, check_bind, check_pure] at hwritten
    obtain ⟨_, -, _, -, t, ht, rfl⟩ := hwritten
    obtain ⟨row, hset, hrole, hstatus⟩ := upsertMembership_set v begun t ht
    have hkept : (if v.status ≠ .active then t.revokeWorkspacePATs v.userID v.workspaceID commit.audit.occurredAt
        else t).memberships = t.memberships := by split <;> rfl
    refine ⟨row, ?_, hrole, hstatus⟩
    rw [membershipRow_congr hkept, membershipRow_written hset (nonzero_of_membershipRow hrow)]
    rfl

end

end Postgres

/-- The PostgreSQL store; the tables of the directory are outside the model. -/
def postgresMemberships (access : Program.Handler Access Postgres.Database)
    (accept : UUID → UUID → Time → Postgres.Database → Except Err Postgres.Database)
    (configured : Postgres.Database → UUID → Prop) (h : Postgres.KeepsMemberships access accept) :
    MembershipStore Postgres.Database where
  access := access
  membership db w u := (db.membershipRow w u).toOption
  configured := configured
  shown := id
  shown_role _ := rfl
  shown_status _ _ := rfl
  shown_source _ _ := rfl
  reading := h.reading
  checking _ e db w u he := congrArg Except.toOption (h.checking e db w u he)
  found ctx w u db v hv := by
    rw [h.membership, Postgres.querying] at hv
    split at hv
    · cases hv
    · rw [hv]
      rfl
  missing ctx w u db hctx hv := by
    simp only [h.membership, Postgres.querying, hctx] at hv
    rw [hv]
    rfl
  stopped ctx op commit db w u hop hctx := by
    obtain ⟨fn, hfn⟩ : ∃ fn, Postgres.membershipMethod accept commit op = some fn :=
      Postgres.isSome_membershipMethod hop
    obtain ⟨e, he⟩ := Option.ne_none_iff_exists'.mp hctx
    refine ⟨e, ?_⟩
    rw [h.write ctx op commit db fn hfn]
    simp only [Postgres.mutate, Postgres.mutateIf, Postgres.atomically, he]
    rfl
  frame ctx op commit db w u w' u' hop hne := by
    obtain ⟨fn, hfn⟩ : ∃ fn, Postgres.membershipMethod accept commit op = some fn :=
      Postgres.isSome_membershipMethod hop
    rw [h.write ctx op commit db fn hfn]
    exact congrArg Except.toOption (Postgres.mutate_leaves (h.method_leaves hfn hop hne) db)
  upserted := h.upserted

end Credbound
