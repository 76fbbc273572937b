import Credbound.Memory.Reads
import Mathlib.Data.Prod.Lex

/-!
# Memory/Paging — following the cursor of a listing

A page ends with the cursor of its last record, and the next page shows the records that come after it.  Where
times are what a clock reads the cursor is read back as it was written (`decodeCursor_encodeCursor`), so a
page shows what the pages before have left (`listPage_after`), and following the cursor lists every record
once, newest first (`follow_lists`).
-/

namespace Credbound.Memory

variable {α : Type} {key : α → Time × UUID}

/-! ## Newest first -/

/-- The order of a listing is the lexicographic one, from the greatest position down. -/
theorem newerEq_iff {a b : Time × UUID} : NewerEq a b ↔ toLex b ≤ toLex a := by
  rw [Prod.Lex.toLex_le_toLex, NewerEq, eq_comm]

/-- Sorting newest first sorts. -/
theorem pairwise_newest (key : α → Time × UUID) (l : List α) :
    (sortNewest key l).Pairwise fun a b => NewerEq (key a) (key b) := by
  have : Std.Total fun a b : α => NewerEq (key a) (key b) :=
    ⟨fun a b => by simpa only [newerEq_iff] using le_total _ _⟩
  have : IsTrans α fun a b : α => NewerEq (key a) (key b) :=
    ⟨fun a b c h h' => newerEq_iff.mpr ((newerEq_iff.mp h').trans (newerEq_iff.mp h))⟩
  exact List.pairwise_insertionSort _ l

/-- A time a clock reads survives the cursor. -/
theorem decodeCursor_encodeCursor {key : Time × UUID}
    (hclock : unixEpoch < key.1 ∧ key.1 < unixEpoch + 2 ^ 63) (hid : key.2 ≠ 0) :
    decodeCursor (encodeCursor key) = .ok ⟨key.1 - unixEpoch, key.2⟩ := by
  have hlow : (0 : Int) < key.1 - unixEpoch := Int.sub_pos_of_lt hclock.1
  have hhigh : (2 ^ 63 : Int) > key.1 - unixEpoch := Int.sub_left_lt_of_lt_add hclock.2
  have hnano : Int.bmod (key.1 - unixEpoch) (2 ^ 64) = key.1 - unixEpoch :=
    Int.bmod_eq_of_le (by omega) (by omega)
  unfold encodeCursor decodeCursor
  rw [hnano]
  exact if_neg (not_or.mpr ⟨hlow.ne', hid⟩)

theorem afterCursor_iff {a b : Time × UUID} (hid : b.2 ≠ 0) :
    AfterCursor a ⟨b.1 - unixEpoch, b.2⟩ ↔ toLex a < toLex b := by
  rw [AfterCursor, or_iff_right hid, add_sub_cancel, Prod.Lex.toLex_lt_toLex]

/-! ## One page -/

/-- The records have identifiers of their own, and were made at times a clock reads. -/
structure Positioned (key : α → Time × UUID) (records : List α) : Prop where
  ids : (0 :: records.map fun v => (key v).2).Nodup
  clock : ∀ v ∈ records, unixEpoch < (key v).1 ∧ (key v).1 < unixEpoch + 2 ^ 63

variable {records : List α} {ctx : Context} {limit : Int}

/-- No two records are at one position. -/
theorem Positioned.strict (h : Positioned key records) :
    (sortNewest key records).Pairwise fun a b => toLex (key b) < toLex (key a) := by
  have hne : (sortNewest key records).Pairwise fun a b => (key a).2 ≠ (key b).2 :=
    (List.Perm.pairwise_iff (fun hne => hne.symm) (List.perm_insertionSort _ _)).mpr
      (List.pairwise_map.mp (List.nodup_cons.mp h.ids).2)
  refine ((pairwise_newest key records).and hne).imp fun {a b} ⟨hle, hne⟩ => ?_
  exact lt_of_le_of_ne (newerEq_iff.mp hle) fun heq => hne (congrArg Prod.snd (toLex.injective heq)).symm

theorem Positioned.filter (h : Positioned key records) (p : α → Bool) : Positioned key (records.filter p) where
  ids := h.ids.sublist ((List.filter_sublist.map _).cons_cons 0)
  clock v hv := h.clock v (List.mem_of_mem_filter hv)

/-- The cursor after the records that were shown. -/
def cursorAfter (key : α → Time × UUID) (shown : List α) : Cursor :=
  (shown.getLast?.map fun v => encodeCursor (key v)).getD .empty

/-- What comes after an element of a descending list is what is below it. -/
theorem filter_after {β : Type} [Preorder β] [DecidableLT β] {f : α → β} {init rest : List α} {last : α}
    (h : (init ++ last :: rest).Pairwise fun a b => f b < f a) :
    (init ++ last :: rest).filter (fun v => f v < f last) = rest := by
  obtain ⟨-, hlast, hinit⟩ := List.pairwise_append.mp h
  have habove : init.filter (fun v => f v < f last) = [] := by
    refine List.filter_eq_nil_iff.mpr fun v hv => ?_
    simpa using (hinit v hv last List.mem_cons_self).asymm
  have hbelow : rest.filter (fun v => f v < f last) = rest :=
    List.filter_eq_self.mpr fun v hv => decide_eq_true (List.rel_of_pairwise_cons hlast hv)
  rw [List.filter_append, habove, List.filter_cons_of_neg (by simp), hbelow, List.nil_append]

/-- **A page shows what is left**: after some of the records have been shown, the rest of them. -/
theorem listPage_after (h : Positioned key records) (hctx : ctx.err = none) {shown rest : List α}
    (hrecords : sortNewest key records = shown ++ rest) :
    listPage ctx ⟨cursorAfter key shown, limit⟩ records key (fun _ => True) = yieldMemoryPage rest limit key := by
  unfold listPage
  rcases List.eq_nil_or_concat shown with rfl | ⟨init, last, rfl⟩
  · rw [show decodeCursor (cursorAfter key []) = .ok default from rfl]
    simp only [hctx]
    rw [List.filter_eq_self.mpr fun v _ => decide_eq_true ⟨trivial, .inl rfl⟩, hrecords, List.nil_append]
  · rw [List.concat_append] at hrecords
    have hlast : last ∈ sortNewest key records := by simp [hrecords]
    rw [sortNewest, List.mem_insertionSort] at hlast
    have hid : (key last).2 ≠ 0 := fun heq =>
      (List.nodup_cons.mp h.ids).1 (List.mem_map.mpr ⟨last, hlast, heq⟩)
    rw [show cursorAfter key (init.concat last) = encodeCursor (key last) by simp [cursorAfter],
      decodeCursor_encodeCursor (h.clock last hlast) hid]
    simp only [hctx, true_and, afterCursor_iff hid]
    have hstrict := h.strict
    rw [hrecords] at hstrict
    have hrest : (sortNewest key records).filter (fun v => toLex (key v) < toLex (key last)) = rest := by
      rw [hrecords, filter_after hstrict]
    refine congrArg (yieldMemoryPage · limit key) (List.Perm.eq_of_pairwise
      (fun a b _ _ hab hba => absurd hba hab.asymm) (h.filter _).strict
      (List.pairwise_append.mp hstrict).2.1.of_cons ?_)
    exact (List.perm_insertionSort _ _).trans (hrest ▸ (List.perm_insertionSort _ _).filter _).symm

/-! ## Every page -/

/-- Read pages from a cursor on as long as there are more, at most so many. -/
def follow (query : Cursor → Outcome (Page α)) : Nat → Cursor → Option (List α)
  | 0, _ => none
  | pages + 1, cursor =>
    match query cursor with
    | .ok page => if page.pageEnd.hasMore then (follow query pages page.pageEnd.nextCursor).map (page.items ++ ·)
      else some page.items
    | _ => none

theorem follow_listPage (h : Positioned key records) (hctx : ctx.err = none) (hlimit : 1 ≤ limit) (pages : Nat)
    {shown rest : List α} (hrecords : sortNewest key records = shown ++ rest) (hpages : rest.length < pages) :
    follow (fun cursor => listPage ctx ⟨cursor, limit⟩ records key fun _ => True) pages (cursorAfter key shown)
      = some rest := by
  induction pages generalizing shown rest with
  | zero => omega
  | succ pages ih =>
    simp only [follow, listPage_after h hctx hrecords, yieldMemoryPage]
    split_ifs with hfit hnegative
    · rfl
    · omega
    · -- the cursor of a page that is not empty is that of everything shown so far
      have hitems : rest.take limit.toNat ≠ [] := List.ne_nil_of_length_pos (by rw [List.length_take]; omega)
      have hcursor : cursorAfter key (rest.take limit.toNat) = cursorAfter key (shown ++ rest.take limit.toNat) := by
        rw [cursorAfter, cursorAfter, List.getLast?_append_of_ne_nil _ hitems]
      show Option.map _ (follow _ pages (cursorAfter key (rest.take limit.toNat))) = _
      rw [hcursor, @ih _ (rest.drop limit.toNat) (by simp [hrecords]) (by rw [List.length_drop]; omega),
        Option.map_some, List.take_append_drop]

/-! ## The listings -/

theorem mapItems_yieldMemoryPage {shown : α → α} (hshown : ∀ v, key (shown v) = key v) (l : List α) :
    mapItems shown (yieldMemoryPage l limit key) = yieldMemoryPage (l.map shown) limit key := by
  unfold yieldMemoryPage
  rw [List.length_map]
  split_ifs
  · rfl
  · rfl
  · simp only [mapItems, ← List.map_take, List.getLast?_map, Option.map_map, Function.comp_def, hshown]

theorem listPage_filter {values : List α} (p : α → Prop) [DecidablePred p] (page : PageRequest) :
    listPage ctx page values key p = listPage ctx page (values.filter p) key fun _ => True := by
  unfold listPage
  simp only [List.filter_filter, true_and, Bool.decide_and, Bool.and_comm]

/-- What is changed in the records on the way out does not move them. -/
theorem mapItems_listPage {shown : α → α} (hshown : ∀ v, key (shown v) = key v) (page : PageRequest) :
    mapItems shown (listPage ctx page records key fun _ => True)
      = listPage ctx page (records.map shown) key fun _ => True := by
  unfold listPage
  cases decodeCursor page.cursor with
  | error e => rfl
  | ok cursor =>
    cases ctx.err with
    | some e => rfl
    | none =>
      simp only
      rw [mapItems_yieldMemoryPage hshown, sortNewest, sortNewest, List.map_insertionSort _
        (fun a b => NewerEq (key a) (key b)) shown, List.filter_map]
      · simp [Function.comp_def, hshown]
      · intro a _ b _
        rw [hshown, hshown]

/-- A page of at least one record that has more is not empty. -/
theorem closeUnguarded_listPage (hlimit : 1 ≤ limit) (cursor : Cursor) :
    closeUnguarded (listPage ctx ⟨cursor, limit⟩ records key fun _ => True)
      = listPage ctx ⟨cursor, limit⟩ records key fun _ => True := by
  unfold listPage
  cases decodeCursor cursor with
  | error e => rfl
  | ok cursor =>
    cases ctx.err with
    | some e => rfl
    | none =>
      dsimp only [yieldMemoryPage]
      split_ifs with hfit
      · rfl
      · rfl
      · refine if_neg fun hempty => ?_
        obtain hzero | hnone := List.take_eq_nil_iff.mp hempty.2
        · omega
        · rw [hnone, List.length_nil] at hfit
          omega

/-- **The listings**: the read of a page, the records it is about, and their positions. -/
inductive Store.Lists (s : Store) : {α : Type} → (PageRequest → Read (Page α)) → List α → (α → Time × UUID) → Prop
  | users : s.Lists .users s.users.values fun v => (v.createdAt, v.id)
  | emails (userID : UUID) : s.Lists (.emails userID)
      (s.emailAddresses.values.filter fun v => v.userID = userID) fun v => (v.createdAt, v.id)
  | workspacePATs (workspaceID : UUID) : s.Lists (.workspacePATs workspaceID)
      ((s.pats.values.filter fun v => workspaceID ≠ 0 ∧ v.workspaceID = workspaceID).map
        fun v => { v with digest := [] }) fun v => (v.createdAt, v.id)
  | pats (userID : UUID) : s.Lists (.pats userID)
      ((s.pats.values.filter fun v => v.userID = userID).map fun v => { v with digest := [] })
      fun v => (v.createdAt, v.id)
  | sessions (userID : UUID) : s.Lists (.sessions userID)
      ((s.sessions.values.filter fun v => v.userID = userID).map fun v => { v with digest := [] })
      fun v => (v.createdAt, v.id)
  | workspaceDomains (workspaceID : UUID) : s.Lists (.workspaceDomains workspaceID)
      (s.domains.values.filter fun v => v.workspaceID = workspaceID) fun v => (v.createdAt, v.id)
  | workspaces : s.Lists .workspaces s.workspaces.values fun v => (v.createdAt, v.id)
  | userWorkspaces (userID : UUID) : s.Lists (.userWorkspaces userID)
      (s.workspaces.filter fun id _ => userID = 0 ∨ userID ∈ s.memberships.getI id).values
      fun v => (v.createdAt, v.id)
  | memberships (workspaceID : UUID) : s.Lists (.memberships workspaceID)
      ((s.memberships.getI workspaceID).values.map normalizeMembership) fun v => (v.createdAt, v.userID)
  | workspaceInvitations (workspaceID : UUID) : s.Lists (.workspaceInvitations workspaceID)
      (s.invitations.values.filter fun v => v.workspaceID = workspaceID) fun v => (v.createdAt, v.id)
  | ssoIdentities (userID : UUID) : s.Lists (.ssoIdentities userID)
      (s.ssoIdentities.values.filter fun v => v.userID = userID) fun v => (v.createdAt, v.id)
  | auditEvents (workspaceID : UUID) : s.Lists (.auditEvents workspaceID)
      (s.audits.filter fun v => v.workspaceID = workspaceID) fun v => (v.occurredAt, v.id)
  | instanceAuditEvents : s.Lists .instanceAuditEvents s.audits fun v => (v.occurredAt, v.id)
  | scimUsers (configurationID : UUID) (filter : SCIMFilter) : s.Lists (.scimUsers configurationID filter)
      (s.scimUsers.values.filter fun v => v.configurationID = configurationID ∧ v.deprovisionedAt = none
        ∧ matchSCIMUser v filter = true) fun v => (v.createdAt, v.id)
  | scimGroups (configurationID : UUID) (filter : SCIMFilter) : s.Lists (.scimGroups configurationID filter)
      (s.scimGroups.values.filter fun v => v.configurationID = configurationID ∧ v.deletedAt = none
        ∧ matchSCIMGroup v filter = true) fun v => (v.createdAt, v.id)
  | oauthIssuers : s.Lists .oauthIssuers s.oauthIssuers.values fun v => (v.createdAt, v.id)
  | oauthProtectedResources (workspaceID : UUID) : s.Lists (.oauthProtectedResources workspaceID)
      (s.oauthResources.values.filter fun v => v.workspaceID = workspaceID) fun v => (v.createdAt, v.id)
  | oauthClients (issuerID : UUID) : s.Lists (.oauthClients issuerID)
      ((s.oauthClients.values.filter fun v => v.issuerID = issuerID).map fun v => { v with secretDigest := [] })
      fun v => (v.createdAt, v.id)
  | oauthGrants (userID workspaceID : UUID) : s.Lists (.oauthGrants userID workspaceID)
      (s.oauthGrants.values.filter fun v =>
        (userID = 0 ∨ v.userID = userID) ∧ (workspaceID = 0 ∨ v.workspaceID = workspaceID))
      fun v => (v.createdAt, v.id)

theorem Store.Lists.answer {s : Store} {read : PageRequest → Read (Page α)} (h : s.Lists read records key)
    (ctx : Context) (hlimit : 1 ≤ limit) (cursor : Cursor) :
    s.answer ctx (read ⟨cursor, limit⟩) = listPage ctx ⟨cursor, limit⟩ records key fun _ => True := by
  cases h with
  | users | userWorkspaces | memberships | instanceAuditEvents | oauthIssuers => rfl
  | workspaces =>
    have hall : (s.workspaces.filter fun id _ => (0 : UUID) = 0 ∨ 0 ∈ s.memberships.getI id) = s.workspaces :=
      FMap.ext_get? fun id => by rw [FMap.get?_filter]; cases s.workspaces.get? id <;> rfl
    show listPage ctx _ (s.workspaces.filter fun id _ => (0 : UUID) = 0 ∨ 0 ∈ s.memberships.getI id).values _ _ = _
    rw [hall]
  | emails | workspaceDomains | ssoIdentities | auditEvents | scimUsers | scimGroups | oauthProtectedResources
  | oauthGrants =>
    simp only [Store.answer, Store.oauthGrantsPage]
    rw [listPage_filter]
  | workspacePATs | pats | sessions | oauthClients =>
    simp only [Store.answer]
    rw [listPage_filter, mapItems_listPage]
    exact fun _ => rfl
  | workspaceInvitations =>
    simp only [Store.answer]
    rw [listPage_filter, closeUnguarded_listPage hlimit]

/-- **Following the cursor lists everything once**: of records with identifiers of their own and times a clock
reads, whatever their order and however many share a time, from the newest to the oldest. -/
theorem follow_lists (s : Store) {read : PageRequest → Read (Page α)} (hlists : s.Lists read records key)
    (h : Positioned key records) (ctx : Context) (hctx : ctx.err = none) (limit : Int) (hlimit : 1 ≤ limit) :
    ∃ pages items, follow (fun cursor => s.answer ctx (read ⟨cursor, limit⟩)) pages .empty = some items
      ∧ items.Perm records
      ∧ items.Pairwise fun a b => (key b).1 < (key a).1 ∨ (key b).1 = (key a).1 ∧ (key b).2 < (key a).2 := by
  refine ⟨(sortNewest key records).length + 1, sortNewest key records, ?_, List.perm_insertionSort _ _, ?_⟩
  · simp only [hlists.answer ctx hlimit]
    exact follow_listPage h hctx hlimit _ (List.nil_append _).symm (Nat.lt_succ_self _)
  · exact h.strict.imp Prod.Lex.toLex_lt_toLex.mp

/-- Three users, two of them made at one time, on pages of one. -/
theorem follow_users :
    let user (n : Nat) (at' : Time) : User := { (default : User) with id := uuidv7 n, createdAt := unixEpoch + at' }
    let users := (((∅ : FMap UUID User).set (uuidv7 1) (user 1 5)).set (uuidv7 2) (user 2 5)).set (uuidv7 3) (user 3 9)
    let s := { Store.new with users := users }
    ∃ pages items, follow (fun cursor => s.answer {} (.users ⟨cursor, 1⟩)) pages .empty = some items
      ∧ items.Perm users.values := by
  intro user users s
  obtain ⟨pages, items, hfollow, hperm, -⟩ := follow_lists s .users ⟨by decide, by decide⟩ {} rfl 1 le_rfl
  exact ⟨pages, items, hfollow, hperm⟩

end Credbound.Memory
