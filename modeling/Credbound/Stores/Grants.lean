import Credbound.Memory.Paging
import Credbound.Postgres.Pages

/-!
# Stores/Grants — listing OAuth grants in the two stores

The memory store scans its grants, keeps those a filter admits — the zero identifier admits all —
and sorts them by creation time and identifier.  The PostgreSQL store builds a query whose filters
are left out when their value is the empty string, which the text of an identifier never is: the
zero identifier is compared like any other and admits none.  The query orders by a column that keeps
microseconds of the creation time.

`oauthGrants_pages_agree_iff` says for which grants and filters all pages agree.  Page requests are
compared by position: the stores write cursors differently, so a cursor stands for the grant it
points after.
-/

namespace Credbound.Stores

open Memory Postgres

/-! ## Rounded positions -/

/-- `a` comes after `b` in the newest-first order of the memory store. -/
def Before (a b : Time × UUID) : Prop := a.1 < b.1 ∨ a.1 = b.1 ∧ a.2 < b.2

/-- A position as the database keeps it. -/
def rounded (a : Time × UUID) : Time × UUID := (timestamptz a.1, a.2)

/-- Rounding does not turn `a` and `b` around: created in one microsecond, they are numbered in the
order of their creation. -/
def Kept (a b : Time × UUID) : Prop :=
  timestamptz a.1 = timestamptz b.1 → a.1 < b.1 → a.2 < b.2

instance (a b : Time × UUID) : Decidable (Kept a b) := inferInstanceAs (Decidable (_ → _))

/-- **Positions that rounding does not turn around compare as before.** -/
theorem before_rounded {a b : Time × UUID} (h : Kept a b) (h' : Kept b a) :
    Before (rounded a) (rounded b) ↔ Before a b := by
  unfold Before rounded
  dsimp only
  rcases lt_trichotomy a.1 b.1 with hlt | heq | hgt
  · have hle := timestamptz_mono hlt.le
    refine iff_of_true ?_ (.inl hlt)
    rcases hle.lt_or_eq with hround | hround
    · exact .inl hround
    · exact .inr ⟨hround, h hround hlt⟩
  · rw [heq]
    simp only [lt_irrefl]
  · have hle := timestamptz_mono hgt.le
    refine iff_of_false ?_ ?_
    · rintro (hround | ⟨hround, hid⟩)
      · exact absurd hround hle.not_gt
      · exact absurd hid (h' hround.symm hgt).asymm
    · rintro (hlt | ⟨heq, -⟩)
      · exact hlt.asymm hgt
      · exact hgt.ne' heq

theorem newerEq_iff_not_before (a b : Time × UUID) : NewerEq a b ↔ ¬ Before a b := by
  rw [newerEq_iff, Before, ← Prod.Lex.toLex_lt_toLex, not_lt]

theorem descending_iff_not_before (a b : Time × UUID) : Descending a b ↔ ¬ Before a b :=
  newerEq_iff_not_before a b

/-! ## Stored grants -/

/-- Grants as both stores can hold them: kept under their identifiers, with no null in an identifier
column, and created at a time a clock reads (after the Unix epoch, within 64 bits of nanoseconds). -/
structure Stored (grants : FMap UUID OAuthGrant) : Prop where
  keyed : grants.All fun id grant => grant.id = id ∧ id ≠ 0
  owned : grants.All fun _ grant => grant.userID ≠ 0 ∧ grant.workspaceID ≠ 0
  clock : grants.All fun _ grant =>
    unixEpoch < grant.createdAt ∧ grant.createdAt < unixEpoch + 2 ^ 63

/-- The position of a grant in the listing. -/
def position (grant : OAuthGrant) : Time × UUID := (grant.createdAt, grant.id)

/-- A grant that the filters admit, a zero filter being none. -/
def Admitted (userID workspaceID : UUID) (grant : OAuthGrant) : Prop :=
  (userID = 0 ∨ grant.userID = userID) ∧ (workspaceID = 0 ∨ grant.workspaceID = workspaceID)

instance (userID workspaceID : UUID) (grant : OAuthGrant) :
    Decidable (Admitted userID workspaceID grant) := inferInstanceAs (Decidable (_ ∧ _))

/-! ## Requests and pages by position -/

/-- Cursors that point after the same grant, or at the start. -/
inductive SameCursor : Cursor → Cursor → Prop
  | start : SameCursor .empty .empty
  | after (grant : OAuthGrant) :
      SameCursor (Memory.encodeCursor (position grant))
        (Postgres.encodeCursor (timestamptz grant.createdAt) grant.id)

/-- Requests for the same page: of at least one item, from the start, after a grant of the listing,
or with a cursor neither store can read. -/
inductive SameRequest (grants : FMap UUID OAuthGrant) (userID workspaceID : UUID) :
    PageRequest → PageRequest → Prop
  | start (limit : Int) (h : 1 ≤ limit) :
      SameRequest grants userID workspaceID ⟨.empty, limit⟩ ⟨.empty, limit⟩
  | malformed (limit : Int) (h : 1 ≤ limit) :
      SameRequest grants userID workspaceID ⟨.malformed, limit⟩ ⟨.malformed, limit⟩
  | after (id : UUID) (grant : OAuthGrant) (hgrant : grants.get? id = some grant)
      (hadmitted : Admitted userID workspaceID grant) (limit : Int) (h : 1 ≤ limit) :
      SameRequest grants userID workspaceID ⟨Memory.encodeCursor (position grant), limit⟩
        ⟨Postgres.encodeCursor (timestamptz grant.createdAt) grant.id, limit⟩

/-- The same grants in the same order, with the same boundary. -/
inductive SamePage : Outcome (Page OAuthGrant) → Outcome (Page OAuthGrant) → Prop
  | ok (items : List OAuthGrant) (hasMore : Bool) (next next' : Cursor) (h : SameCursor next next') :
      SamePage (.ok ⟨items, ⟨next, hasMore⟩⟩) (.ok ⟨items, ⟨next', hasMore⟩⟩)
  | err (e : Err) : SamePage (.err e) (.err e)

theorem SamePage.items {page page' : Page OAuthGrant} (h : SamePage (.ok page) (.ok page')) :
    page.items = page'.items := by
  cases h
  rfl

/-! ## The two lists -/

section Lists

variable {grants : FMap UUID OAuthGrant}

/-- A row of the database, from a stored grant and its key. -/
def rowOf (e : UUID × OAuthGrant) : UUID × GrantRow := (e.1, Database.grantRow e.2)

/-- The grants that satisfy `p`, in the order of their keys. -/
def having (grants : FMap UUID OAuthGrant) (p : OAuthGrant → Prop) [DecidablePred p] :
    List (UUID × OAuthGrant) := grants.rows.filter fun e => p e.2

theorem mem_having {p : OAuthGrant → Prop} [DecidablePred p] {e : UUID × OAuthGrant} :
    e ∈ having grants p ↔ grants.get? e.1 = some e.2 ∧ p e.2 := by
  rw [having, List.mem_filter, FMap.mem_rows, decide_eq_true_eq]

/-- What the memory store sorts. -/
theorem values_filter (p : OAuthGrant → Prop) [DecidablePred p] :
    grants.values.filter p = (having grants p).map Prod.snd := by
  rw [FMap.values_eq_rows, List.filter_map]
  rfl

/-- What the database sorts, when the conditions of the query come to `p`. -/
theorem rows_filter {q : UUID × GrantRow → Prop} [DecidablePred q] {p : OAuthGrant → Prop}
    [DecidablePred p] (h : grants.All fun id grant => q (rowOf (id, grant)) ↔ p grant) :
    (grants.mapVal fun _ => Database.grantRow).rows.filter q = (having grants p).map rowOf := by
  rw [FMap.rows_mapVal, List.filter_map]
  refine congrArg (List.map rowOf) (List.filter_congr fun e he => ?_)
  exact decide_eq_decide.mpr (h e.1 e.2 (FMap.mem_rows.mp he))

variable {userID workspaceID : UUID}

/-- **The query admits what its filters name, and nothing else**: neither is ever left out. -/
theorem holds_iff (grant : OAuthGrant) :
    (∀ filter ∈ [(⟨GrantRow.userID, userID.string⟩ : OAuthFilter GrantRow),
      ⟨GrantRow.workspaceID, workspaceID.string⟩], filter.Holds (Database.grantRow grant))
      ↔ grant.userID = userID ∧ grant.workspaceID = workspaceID := by
  have hfilter : ∀ id column : UUID, (id.string = "" ∨ column.string = id.string) ↔ column = id := by
    intro id column
    rw [or_iff_right id.string_ne_empty, UUID.string_injective.eq_iff]
  simp only [List.forall_mem_cons, List.not_mem_nil, false_imp_iff, implies_true, and_true]
  exact and_congr (hfilter userID grant.userID) (hfilter workspaceID grant.workspaceID)

/-- The conditions of the query, on a stored grant. -/
def Queried (userID workspaceID : UUID) (cursor : Time × UUID) (grant : OAuthGrant) : Prop :=
  (grant.userID = userID ∧ grant.workspaceID = workspaceID)
    ∧ BeforeCursor (rounded (position grant)) cursor

instance (userID workspaceID : UUID) (cursor : Time × UUID) (grant : OAuthGrant) :
    Decidable (Queried userID workspaceID cursor grant) := inferInstanceAs (Decidable (_ ∧ _))

/-- The conditions of the scan. -/
def Scanned (userID workspaceID : UUID) (cursor : PageCursor) (grant : OAuthGrant) : Prop :=
  Admitted userID workspaceID grant ∧ AfterCursor (position grant) cursor

instance (userID workspaceID : UUID) (cursor : PageCursor) (grant : OAuthGrant) :
    Decidable (Scanned userID workspaceID cursor grant) := inferInstanceAs (Decidable (_ ∧ _))

theorem selectRows_eq (h : Stored grants) (cursor : Time × UUID) :
    selectRows (grants.mapVal fun _ => Database.grantRow) [⟨GrantRow.userID, userID.string⟩,
        ⟨GrantRow.workspaceID, workspaceID.string⟩] GrantRow.createdAt cursor
      = ((having grants (Queried userID workspaceID cursor)).map rowOf).insertionSort
          fun a b => Descending (a.2.createdAt, a.1) (b.2.createdAt, b.1) := by
  unfold selectRows
  refine congrArg (List.insertionSort _) (rows_filter fun id grant hgrant => ?_)
  rw [← (h.keyed id grant hgrant).1]
  exact and_congr_left' (holds_iff grant)

theorem sortNewest_eq (cursor : PageCursor) :
    sortNewest (fun v => (v.createdAt, v.id)) (grants.values.filter fun v =>
        ((userID = 0 ∨ v.userID = userID) ∧ (workspaceID = 0 ∨ v.workspaceID = workspaceID))
          ∧ AfterCursor (v.createdAt, v.id) cursor)
      = ((having grants (Scanned userID workspaceID cursor)).map Prod.snd).insertionSort
          fun a b => NewerEq (position a) (position b) :=
  congrArg (List.insertionSort _) (values_filter (Scanned userID workspaceID cursor))

/-- The rows of the same grants are sorted the same way if rounding turns no two around. -/
theorem insertionSort_rowOf {l : List (UUID × OAuthGrant)} (hkeyed : ∀ e ∈ l, e.2.id = e.1)
    (hkept : ∀ a ∈ l, ∀ b ∈ l, Kept (position a.2) (position b.2)) :
    (l.map rowOf).insertionSort (fun a b => Descending (a.2.createdAt, a.1) (b.2.createdAt, b.1))
      = (l.insertionSort fun a b => NewerEq (position a.2) (position b.2)).map rowOf := by
  refine (List.map_insertionSort _ _ rowOf l fun a ha b hb => ?_).symm
  have hround := before_rounded (hkept a ha b hb) (hkept b hb a ha)
  rw [newerEq_iff_not_before, ← hround, ← descending_iff_not_before]
  unfold rowOf rounded position
  rw [hkeyed a ha, hkeyed b hb]
  rfl

end Lists

/-! ## Cutting pages -/

/-- **The same sorted grants are cut into the same page.** -/
theorem samePage_of_sorted (l : List (UUID × OAuthGrant)) (hkeyed : ∀ e ∈ l, e.2.id = e.1)
    {limit : Int} (hlimit : 1 ≤ limit) :
    SamePage (yieldMemoryPage (l.map Prod.snd) limit fun v => (v.createdAt, v.id))
      (.ok (yieldRows limit GrantRow.createdAt GrantRow.data ((l.map rowOf).take (limit + 1).toNat)
        (0, 0) 0 [])) := by
  obtain ⟨room, rfl⟩ : ∃ room : Nat, limit = (0 : Int) + room := ⟨limit.toNat, by omega⟩
  have htake : ((0 : Int) + room + 1).toNat = room + 1 := by omega
  rw [yieldRows_eq, htake, yieldMemoryPage, List.length_map, List.length_take, List.length_map]
  by_cases hfit : l.length ≤ room
  · rw [if_pos (by omega), if_pos (by omega), List.take_of_length_le (by simp; omega), List.map_map]
    exact .ok _ false _ _ .start
  · rw [if_neg (by omega), if_neg (by omega), if_neg (by omega), List.take_take,
      min_eq_left (Nat.le_succ room), zero_add, Int.toNat_natCast, ← List.map_take, ← List.map_take,
      List.map_map, List.nil_append, lastCursor, List.getLast?_map]
    have hne : l.take room ≠ [] := List.ne_nil_of_length_pos (by rw [List.length_take]; omega)
    obtain ⟨⟨id, grant⟩, hlast⟩ : ∃ e, (l.take room).getLast? = some e :=
      ⟨_, List.getLast?_eq_some_getLast hne⟩
    obtain rfl : grant.id = id := hkeyed _ (List.mem_of_mem_take (List.mem_of_getLast? hlast))
    dsimp only
    rw [List.getLast?_map, hlast]
    exact .ok _ true _ _ (.after grant)

/-- The first page of a list of some grants has one. -/
theorem items_ne_nil_of_ok {α : Type} {l : List α} (hl : l ≠ []) {key : α → Time × UUID}
    {page : Page α} (h : yieldMemoryPage l 1 key = .ok page) : page.items ≠ [] := by
  unfold yieldMemoryPage at h
  split at h
  · cases h
    exact hl
  · rw [if_neg (by decide)] at h
    cases h
    exact fun hnil => hl ((List.take_eq_nil_iff.mp hnil).resolve_left (by decide))

/-! ## When the listings agree -/

section

variable {grants : FMap UUID OAuthGrant} {userID workspaceID : UUID}

/-- Both filters are set, unless no grant passes; and of the grants that pass no two are turned
around by rounding. -/
structure Agreeable (grants : FMap UUID OAuthGrant) (userID workspaceID : UUID) : Prop where
  filtered : grants.All fun _ grant =>
    Admitted userID workspaceID grant → userID ≠ 0 ∧ workspaceID ≠ 0
  kept : grants.All fun _ a => grants.All fun _ b => Admitted userID workspaceID a →
    Admitted userID workspaceID b → Kept (position a) (position b)

variable {grant : OAuthGrant}

/-- With both filters set, the scan admits what the query names. -/
theorem admitted_iff (h : grants.All fun _ grant => Admitted userID workspaceID grant → userID ≠ 0 ∧ workspaceID ≠ 0)
    {id : UUID} (hgrant : grants.get? id = some grant) : Admitted userID workspaceID grant
      ↔ grant.userID = userID ∧ grant.workspaceID = workspaceID := by
  constructor
  · intro hadmitted
    obtain ⟨huser, hworkspace⟩ := h id grant hgrant hadmitted
    exact ⟨hadmitted.1.resolve_left huser, hadmitted.2.resolve_left hworkspace⟩
  · exact fun heq => ⟨.inr heq.1, .inr heq.2⟩

/-- The two lists are cut into the same page when the cursors admit the same grants. -/
theorem samePage_of_agreeable (h : Stored grants) (ha : Agreeable grants userID workspaceID)
    {c : PageCursor} {c' : Time × UUID} (hcursor : grants.All fun _ grant =>
      Admitted userID workspaceID grant →
        (AfterCursor (position grant) c ↔ BeforeCursor (rounded (position grant)) c'))
    {limit : Int} (hlimit : 1 ≤ limit) :
    SamePage (yieldMemoryPage (((having grants (Scanned userID workspaceID c)).map Prod.snd).insertionSort
        fun a b => NewerEq (position a) (position b)) limit fun v => (v.createdAt, v.id))
      (.ok (yieldRows limit GrantRow.createdAt GrantRow.data
        ((((having grants (Queried userID workspaceID c')).map rowOf).insertionSort
          fun a b => Descending (a.2.createdAt, a.1) (b.2.createdAt, b.1)).take (limit + 1).toNat)
        (0, 0) 0 [])) := by
  have hset : having grants (Queried userID workspaceID c')
      = having grants (Scanned userID workspaceID c) := by
    refine List.filter_congr fun e he => decide_eq_decide.mpr ?_
    have he := FMap.mem_rows.mp he
    unfold Queried Scanned
    rw [← admitted_iff ha.filtered he]
    exact and_congr_right fun hadmitted => (hcursor _ _ he hadmitted).symm
  have hkeyed : ∀ e ∈ having grants (Scanned userID workspaceID c), e.2.id = e.1 := fun e he =>
    (h.keyed _ _ (mem_having.mp he).1).1
  have hkept : ∀ a ∈ having grants (Scanned userID workspaceID c),
      ∀ b ∈ having grants (Scanned userID workspaceID c), Kept (position a.2) (position b.2) := by
    intro a ha' b hb'
    obtain ⟨hag, haa⟩ := mem_having.mp ha'
    obtain ⟨hbg, hba⟩ := mem_having.mp hb'
    exact ha.kept _ _ hag _ _ hbg haa.1 hba.1
  rw [hset, insertionSort_rowOf hkeyed hkept, ← List.map_insertionSort
    (fun a b => NewerEq (position a.2) (position b.2)) _ Prod.snd _ fun _ _ _ _ => Iff.rfl]
  refine samePage_of_sorted _ (fun e he => hkeyed e ?_) hlimit
  exact (List.mem_insertionSort _).mp he

/-- A time a clock reads survives the cursor of the database, rounded. -/
theorem decodeCursor_encodeCursor_rounded (hclock : unixEpoch < grant.createdAt) (hid : grant.id ≠ 0) :
    Postgres.decodeCursor (Postgres.encodeCursor (timestamptz grant.createdAt) grant.id)
      = .ok (rounded (position grant)) := by
  have hne : timestamptz grant.createdAt ≠ 0 := by
    have hle := timestamptz_mono hclock.le
    have hepoch : 0 < timestamptz unixEpoch := by decide
    exact (hepoch.trans_le hle).ne'
  exact if_neg (not_or.mpr ⟨hne, hid⟩)

/-- **Agreeable listings agree**, page by page. -/
theorem samePage_of_sameRequest (h : Stored grants) (ha : Agreeable grants userID workspaceID)
    {s : Store} (hs : s.oauthGrants = grants) {db : Database}
    (hdb : db.oauthGrants = grants.mapVal fun _ => Database.grantRow) (ctx : Context)
    {page page' : PageRequest} (hpage : SameRequest grants userID workspaceID page page') :
    SamePage (s.oauthGrantsPage ctx userID workspaceID page)
      (db.oauthGrantsPage ctx userID workspaceID page') := by
  unfold Store.oauthGrantsPage listPage Database.oauthGrantsPage oauthPage
  rw [hs, hdb]
  cases hpage with
  | start limit hlimit =>
    dsimp only [Memory.decodeCursor, Postgres.decodeCursor]
    cases ctx.err with
    | some e => exact .err e
    | none =>
      dsimp only
      rw [sortNewest_eq, selectRows_eq h, if_neg (by omega)]
      refine samePage_of_agreeable h ha (fun _ _ _ _ => ?_) hlimit
      exact iff_of_true (.inl rfl) (.inl rfl)
  | malformed limit hlimit => exact .err _
  | after id grant hgrant hadmitted limit hlimit =>
    have hkeyed := h.keyed _ _ hgrant
    have hid : grant.id ≠ 0 := hkeyed.1.symm ▸ hkeyed.2
    have hclock := h.clock _ _ hgrant
    rw [decodeCursor_encodeCursor hclock hid, decodeCursor_encodeCursor_rounded hclock.1 hid]
    cases ctx.err with
    | some e => exact .err e
    | none =>
      dsimp only
      rw [sortNewest_eq, selectRows_eq h, if_neg (by omega)]
      refine samePage_of_agreeable h ha (fun id' grant' hgrant' hadmitted' => ?_) hlimit
      -- Both cursors point after `grant`; the positions they are compared with are kept in order.
      have hround := before_rounded (ha.kept _ _ hgrant' _ _ hgrant hadmitted' hadmitted)
        (ha.kept _ _ hgrant _ _ hgrant' hadmitted hadmitted')
      unfold AfterCursor BeforeCursor rounded
      dsimp only [position]
      rw [or_iff_right hid, or_iff_right hid, timestamptz_idem, add_sub_cancel]
      exact hround.symm

/-! ## …and only then -/

/-- The listing of the memory store from the start. -/
def scanned (grants : FMap UUID OAuthGrant) (userID workspaceID : UUID) : List OAuthGrant :=
  ((having grants (Scanned userID workspaceID default)).map Prod.snd).insertionSort
    fun a b => NewerEq (position a) (position b)

/-- The rows the query selects from the start. -/
def queried (grants : FMap UUID OAuthGrant) (userID workspaceID : UUID) : List (UUID × GrantRow) :=
  ((having grants (Queried userID workspaceID (0, 0))).map rowOf).insertionSort
    fun a b => Descending (a.2.createdAt, a.1) (b.2.createdAt, b.1)

theorem oauthGrantsPage_start {s : Store} (hs : s.oauthGrants = grants) (limit : Int) :
    s.oauthGrantsPage {} userID workspaceID ⟨.empty, limit⟩
      = yieldMemoryPage (scanned grants userID workspaceID) limit fun v => (v.createdAt, v.id) := by
  unfold Store.oauthGrantsPage listPage
  dsimp only [Memory.decodeCursor]
  rw [hs, sortNewest_eq]
  rfl

theorem oauthGrantsPage_start_rows (h : Stored grants) {db : Database}
    (hdb : db.oauthGrants = grants.mapVal fun _ => Database.grantRow) (limit : Nat) :
    db.oauthGrantsPage {} userID workspaceID ⟨.empty, limit⟩
      = .ok (yieldRows limit GrantRow.createdAt GrantRow.data
          ((queried grants userID workspaceID).take (limit + 1)) (0, 0) 0 []) := by
  unfold Database.oauthGrantsPage oauthPage
  dsimp only [Postgres.decodeCursor]
  rw [hdb, selectRows_eq h, if_neg (by omega)]
  rfl

theorem mem_scanned : grant ∈ scanned grants userID workspaceID
      ↔ ∃ id, grants.get? id = some grant ∧ Admitted userID workspaceID grant := by
  unfold scanned
  rw [List.mem_insertionSort, List.mem_map]
  constructor
  · rintro ⟨e, he, rfl⟩
    obtain ⟨hget, hscanned⟩ := mem_having.mp he
    exact ⟨e.1, hget, hscanned.1⟩
  · rintro ⟨id, hget, hadmitted⟩
    exact ⟨(id, grant), mem_having.mpr ⟨hget, hadmitted, .inl rfl⟩, rfl⟩

/-- What the query selects comes from stored grants it names. -/
theorem of_mem_queried {e : UUID × GrantRow} (he : e ∈ queried grants userID workspaceID) :
    ∃ id grant, e = rowOf (id, grant) ∧ grants.get? id = some grant
      ∧ grant.userID = userID ∧ grant.workspaceID = workspaceID := by
  unfold queried at he
  rw [List.mem_insertionSort, List.mem_map] at he
  obtain ⟨⟨id, grant⟩, he, rfl⟩ := he
  obtain ⟨hget, hqueried⟩ := mem_having.mp he
  exact ⟨id, grant, rfl, hget, hqueried.1⟩

/-- **The query selects nothing when a filter is zero.** -/
theorem queried_eq_nil (h : Stored grants) (hzero : userID = 0 ∨ workspaceID = 0) :
    queried grants userID workspaceID = [] := by
  refine List.eq_nil_iff_forall_not_mem.mpr fun e he => ?_
  obtain ⟨id, grant, -, hget, huser, hworkspace⟩ := of_mem_queried he
  have howned := h.owned _ _ hget
  rcases hzero with hzero | hzero
  · exact howned.1 (huser.trans hzero)
  · exact howned.2 (hworkspace.trans hzero)

variable {s : Store} {db : Database}

theorem filtered_of_agree (h : Stored grants) (hs : s.oauthGrants = grants)
    (hdb : db.oauthGrants = grants.mapVal fun _ => Database.grantRow)
    (hagree : SamePage (s.oauthGrantsPage {} userID workspaceID ⟨.empty, (1 : Nat)⟩)
      (db.oauthGrantsPage {} userID workspaceID ⟨.empty, (1 : Nat)⟩)) :
    grants.All fun _ grant => Admitted userID workspaceID grant → userID ≠ 0 ∧ workspaceID ≠ 0 := by
  intro id grant hgrant hadmitted
  by_contra hzero
  have hnil := queried_eq_nil h (not_and_or.mp hzero |>.imp not_not.mp not_not.mp)
  rw [oauthGrantsPage_start hs, oauthGrantsPage_start_rows h hdb, hnil] at hagree
  have hsome : scanned grants userID workspaceID ≠ [] :=
    List.ne_nil_of_mem (mem_scanned.mpr ⟨id, hgrant, hadmitted⟩)
  generalize hpage : yieldMemoryPage (scanned grants userID workspaceID) ((1 : Nat) : Int)
    (fun v => (v.createdAt, v.id)) = page at hagree
  cases hagree with
  | ok items hasMore next next' hcursor => exact items_ne_nil_of_ok hsome hpage rfl

/-- Two grants that are listed alike in both orders are not turned around. -/
theorem kept_of_pairwise {l : List OAuthGrant} (hl : l.Pairwise fun a b => NewerEq (position a) (position b))
    (hl' : l.Pairwise fun a b => Descending (rounded (position a)) (rounded (position b)))
    {a b : OAuthGrant} (ha : a ∈ l) (hb : b ∈ l) (hne : a.id ≠ b.id) :
    Kept (position a) (position b) := by
  intro hround hlt
  let R (a b : OAuthGrant) : Prop :=
    NewerEq (position a) (position b) ∧ Descending (rounded (position a)) (rounded (position b))
  have : Std.Symm fun a b => R a b ∨ R b a := ⟨fun _ _ => Or.symm⟩
  have hboth : l.Pairwise fun a b => R a b ∨ R b a := (hl.and hl').imp .inl
  rcases hboth.forall ha hb (fun heq => hne (congrArg OAuthGrant.id heq)) with
    ⟨hnewer, -⟩ | ⟨-, hdesc⟩
  · rcases hnewer with h | ⟨h, -⟩
    · exact absurd h hlt.asymm
    · exact absurd h hlt.ne
  · rcases hdesc with h | ⟨-, h⟩
    · exact absurd hround h.ne
    · exact lt_of_le_of_ne h hne

theorem length_scanned_le (grants : FMap UUID OAuthGrant) (userID workspaceID : UUID) :
    (scanned grants userID workspaceID).length ≤ grants.rows.length := by
  rw [scanned, List.length_insertionSort, List.length_map]
  exact List.length_filter_le _ _

theorem length_queried_le (grants : FMap UUID OAuthGrant) (userID workspaceID : UUID) :
    (queried grants userID workspaceID).length ≤ grants.rows.length := by
  rw [queried, List.length_insertionSort, List.length_map]
  exact List.length_filter_le _ _

/-- A page with room for everything shows both listings whole. -/
theorem scanned_eq_of_agree (h : Stored grants) (hs : s.oauthGrants = grants)
    (hdb : db.oauthGrants = grants.mapVal fun _ => Database.grantRow)
    (hagree : SamePage (s.oauthGrantsPage {} userID workspaceID ⟨.empty, (grants.rows.length + 1 : Nat)⟩)
      (db.oauthGrantsPage {} userID workspaceID ⟨.empty, (grants.rows.length + 1 : Nat)⟩)) :
    scanned grants userID workspaceID = (queried grants userID workspaceID).map fun e => e.2.data := by
  have hscanned := length_scanned_le grants userID workspaceID
  have hqueried := length_queried_le grants userID workspaceID
  rw [oauthGrantsPage_start hs, oauthGrantsPage_start_rows h hdb, yieldMemoryPage, if_pos (by omega),
    List.take_of_length_le (by omega), ← zero_add ((grants.rows.length + 1 : Nat) : Int), yieldRows_eq,
    if_pos (by omega)] at hagree
  exact hagree.items

theorem pairwise_queried (h : Stored grants) (userID workspaceID : UUID) :
    ((queried grants userID workspaceID).map fun e => e.2.data).Pairwise
      fun a b => Descending (rounded (position a)) (rounded (position b)) := by
  have hsorted : (queried grants userID workspaceID).Pairwise
      fun a b => Descending (a.2.createdAt, a.1) (b.2.createdAt, b.1) :=
    pairwise_newest (fun e : UUID × GrantRow => (e.2.createdAt, e.1)) _
  have hposition : ∀ e ∈ queried grants userID workspaceID,
      (e.2.createdAt, e.1) = rounded (position e.2.data) := by
    intro e he
    obtain ⟨id, grant, rfl, hget, -⟩ := of_mem_queried he
    exact congrArg (Prod.mk _) (h.keyed _ _ hget).1.symm
  refine List.pairwise_map.mpr (hsorted.imp_of_mem fun ha hb hab => ?_)
  rwa [hposition _ ha, hposition _ hb] at hab

theorem kept_of_agree (h : Stored grants) (hs : s.oauthGrants = grants)
    (hdb : db.oauthGrants = grants.mapVal fun _ => Database.grantRow)
    (hagree : SamePage (s.oauthGrantsPage {} userID workspaceID ⟨.empty, (grants.rows.length + 1 : Nat)⟩)
      (db.oauthGrantsPage {} userID workspaceID ⟨.empty, (grants.rows.length + 1 : Nat)⟩)) :
    grants.All fun _ a => grants.All fun _ b => Admitted userID workspaceID a →
      Admitted userID workspaceID b → Kept (position a) (position b) := by
  intro id a ha id' b hb hadmitted hadmitted'
  by_cases hid : a.id = b.id
  · -- One identifier is one grant, which is not created before itself.
    obtain rfl : id = id' := (h.keyed _ _ ha).1.symm.trans (hid.trans (h.keyed _ _ hb).1)
    obtain rfl := Option.mem_unique ha hb
    exact fun _ hlt => absurd hlt (lt_irrefl _)
  · have hpairwise := pairwise_queried h userID workspaceID
    rw [← scanned_eq_of_agree h hs hdb hagree] at hpairwise
    exact kept_of_pairwise (pairwise_newest position _) hpairwise
      (mem_scanned.mpr ⟨id, ha, hadmitted⟩) (mem_scanned.mpr ⟨id', hb, hadmitted'⟩) hid

end

/-- **When the two stores list grants alike.**  Every page of the same stored grants agrees, in its
items, their order and its boundary, exactly if both filters are set or no grant passes them, and no
two grants that pass were created in one microsecond against the order of their identifiers. -/
theorem oauthGrants_pages_agree_iff (grants : FMap UUID OAuthGrant) (h : Stored grants)
    (userID workspaceID : UUID) (s : Store) (hs : s.oauthGrants = grants) (db : Database)
    (hdb : db.oauthGrants = grants.mapVal fun _ => Database.grantRow) :
    (∀ ctx page page', SameRequest grants userID workspaceID page page' →
        SamePage (s.oauthGrantsPage ctx userID workspaceID page)
          (db.oauthGrantsPage ctx userID workspaceID page'))
      ↔ Agreeable grants userID workspaceID := by
  constructor
  · intro hagree
    have hstart : ∀ limit : Nat, 1 ≤ limit →
        SamePage (s.oauthGrantsPage {} userID workspaceID ⟨.empty, limit⟩)
          (db.oauthGrantsPage {} userID workspaceID ⟨.empty, limit⟩) := fun limit hlimit =>
      hagree {} _ _ (.start limit (by omega))
    exact ⟨filtered_of_agree h hs hdb (hstart 1 le_rfl),
      kept_of_agree h hs hdb (hstart _ (Nat.le_add_left 1 _))⟩
  · exact fun ha ctx page page' hpage => samePage_of_sameRequest h ha hs hdb ctx hpage

/-! ## An export

`ExportUserData` reads the pages of a user's grants with a zero workspace. -/

/-- `drainPages`, with a bound on the pages it reads. -/
def drainPages {α : Type} (query : PageRequest → Outcome (Page α)) :
    Nat → Cursor → List α → Option (Outcome (List α))
  | 0, _, _ => none
  | fuel + 1, cursor, items =>
    match query ⟨cursor, 100⟩ with
    | .err e => some (.err e)
    | .panic => some .panic
    | .ok page =>
      if page.pageEnd.hasMore ∧ page.pageEnd.nextCursor ≠ .empty
      then drainPages query fuel page.pageEnd.nextCursor (items ++ page.items)
      else some (.ok (items ++ page.items))

/-- **An export from the database has no grants**, whatever is stored. -/
theorem drainPages_oauthGrantsPage {grants : FMap UUID OAuthGrant} (h : Stored grants) {db : Database}
    (hdb : db.oauthGrants = grants.mapVal fun _ => Database.grantRow) (userID : UUID) (fuel : Nat) :
    drainPages (db.oauthGrantsPage {} userID 0) (fuel + 1) .empty [] = some (.ok []) := by
  rw [drainPages, show (100 : Int) = ((100 : Nat) : Int) from rfl, oauthGrantsPage_start_rows h hdb,
    queried_eq_nil h (.inr rfl)]
  rfl

/-- A grant of a user in a workspace. -/
def someGrant : OAuthGrant :=
  { (default : OAuthGrant) with
    id := uuidv7 3, userID := uuidv7 1, workspaceID := uuidv7 2, createdAt := unixEpoch + 1000 }

/-- The grant, stored. -/
def someGrants : FMap UUID OAuthGrant := (∅ : FMap UUID OAuthGrant).set someGrant.id someGrant

theorem stored_someGrants : Stored someGrants := ⟨by decide, by decide, by decide⟩

/-- The memory store that holds it… -/
def someStore : Store := { Store.new with oauthGrants := someGrants }

/-- …and the database. -/
def someDatabase : Database :=
  { Database.new with oauthGrants := someGrants.mapVal fun _ => Database.grantRow }

/-- The listing of one grant under both its filters agrees. -/
theorem someGrants_pages_agree :
    SamePage (someStore.oauthGrantsPage {} (uuidv7 1) (uuidv7 2) ⟨.empty, 1⟩)
      (someDatabase.oauthGrantsPage {} (uuidv7 1) (uuidv7 2) ⟨.empty, 1⟩) :=
  (oauthGrants_pages_agree_iff someGrants stored_someGrants (uuidv7 1) (uuidv7 2) someStore rfl
    someDatabase rfl).mpr ⟨by decide, by decide⟩ {} _ _ (.start 1 le_rfl)

/-- **The export of a user with a grant**: the memory store lists it, the database does not. -/
theorem exported_grants_missing :
    Stored someGrants ∧ SameRequest someGrants (uuidv7 1) 0 ⟨.empty, 100⟩ ⟨.empty, 100⟩
      ∧ ¬ SamePage (someStore.oauthGrantsPage {} (uuidv7 1) 0 ⟨.empty, 100⟩)
        (someDatabase.oauthGrantsPage {} (uuidv7 1) 0 ⟨.empty, 100⟩)
      ∧ drainPages (someStore.oauthGrantsPage {} (uuidv7 1) 0) 1 .empty [] = some (.ok [someGrant])
      ∧ drainPages (someDatabase.oauthGrantsPage {} (uuidv7 1) 0) 1 .empty [] = some (.ok []) := by
  refine ⟨stored_someGrants, .start 100 (by decide), fun h => ?_, rfl,
    drainPages_oauthGrantsPage stored_someGrants rfl (uuidv7 1) 0⟩
  have hfiltered : ([someGrant] : List OAuthGrant) = [] := SamePage.items h
  exact absurd hfiltered (List.cons_ne_nil _ _)

end Credbound.Stores
