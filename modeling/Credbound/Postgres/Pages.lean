import Credbound.Postgres.OAuth
import Mathlib.Data.List.Sort

/-!
# Postgres/Pages — the paged listings of the authorization server

`oauthPage` builds one SELECT from the filters and the cursor, reads one row more than the page
holds, and yields the page row by row.  A cursor carries a time and an identifier, as the cursor of
the memory store does, but the time in another form: `Cursor.payload` holds each store's own.
-/

namespace Credbound.Postgres

/-! ## Cursors -/

/-- `encodeCursor`. -/
def encodeCursor (timestamp : Time) (id : UUID) : Cursor := .payload timestamp id

/-- `decodeCursor`; the zero value is the start of the list. -/
def decodeCursor : Cursor → Except Err (Time × UUID)
  | .empty => .ok (0, 0)
  | .malformed => .error .invalidInput
  | .payload timestamp id => if timestamp = 0 ∨ id = 0 then .error .invalidInput
    else .ok (timestamp, id)

/-! ## The query -/

/-- `oauthFilter`: an equality clause on a column, left out when its value is empty. -/
structure OAuthFilter (R : Type) where
  column : R → UUID
  value : String

/-- The clause of a filter, if it is there, holds of a row. -/
def OAuthFilter.Holds {R : Type} (filter : OAuthFilter R) (row : R) : Prop :=
  filter.value = "" ∨ (filter.column row).string = filter.value

instance {R : Type} (filter : OAuthFilter R) (row : R) : Decidable (filter.Holds row) :=
  inferInstanceAs (Decidable (_ ∨ _))

/-- `(created_at, id) < ($n, $m)`, the clause of a cursor that is not the start. -/
def BeforeCursor (key : Time × UUID) (cursor : Time × UUID) : Prop :=
  cursor.2 = 0 ∨ key.1 < timestamptz cursor.1 ∨ key.1 = timestamptz cursor.1 ∧ key.2 < cursor.2

instance (key cursor : Time × UUID) : Decidable (BeforeCursor key cursor) :=
  inferInstanceAs (Decidable (_ ∨ _))

/-- `ORDER BY created_at DESC, id DESC`, on keys. -/
def Descending (a b : Time × UUID) : Prop := b.1 < a.1 ∨ a.1 = b.1 ∧ b.2 ≤ a.2

instance (a b : Time × UUID) : Decidable (Descending a b) := inferInstanceAs (Decidable (_ ∨ _))

section

variable {R α : Type}

/-- The rows a query selects, before its limit. -/
def selectRows (rows : FMap UUID R) (filters : List (OAuthFilter R)) (createdAt : R → Time)
    (cursor : Time × UUID) : List (UUID × R) :=
  let selected := rows.rows.filter fun e =>
    (∀ filter ∈ filters, filter.Holds e.2) ∧ BeforeCursor (createdAt e.2, e.1) cursor
  selected.insertionSort fun a b => Descending (createdAt a.2, a.1) (createdAt b.2, b.1)

/-- The loop over the rows: the last key, how many rows were yielded, and the items so far.  The row
that finds the page full closes it. -/
def yieldRows (limit : Int) (createdAt : R → Time) (data : R → α) :
    List (UUID × R) → Time × UUID → Int → List α → Page α
  | [], _, _, items => ⟨items, ⟨.empty, false⟩⟩
  | (id, row) :: rows, last, count, items =>
    if count = limit then ⟨items, ⟨encodeCursor last.1 last.2, true⟩⟩
    else yieldRows limit createdAt data rows (createdAt row, id) (count + 1) (items ++ [data row])

/-- `oauthPage`.  A negative LIMIT is an error of the database. -/
def oauthPage (ctx : Context) (rows : FMap UUID R) (filters : List (OAuthFilter R))
    (createdAt : R → Time) (data : R → α) (page : PageRequest) : Outcome (Page α) :=
  match decodeCursor page.cursor with
  | .error e => .err e
  | .ok cursor =>
    match ctx.err with
    | some e => .err e
    | none =>
      if page.limit + 1 < 0 then .err (.external "LIMIT must not be negative")
      else
        let selected := (selectRows rows filters createdAt cursor).take (page.limit + 1).toNat
        .ok (yieldRows page.limit createdAt data selected (0, 0) 0 [])

end

/-- `OAuthGrants`. -/
def Database.oauthGrantsPage (db : Database) (ctx : Context) (userID workspaceID : UUID)
    (page : PageRequest) : Outcome (Page OAuthGrant) :=
  oauthPage ctx db.oauthGrants [⟨GrantRow.userID, userID.string⟩,
    ⟨GrantRow.workspaceID, workspaceID.string⟩] GrantRow.createdAt GrantRow.data page

/-! ## What the loop yields -/

section

variable {R α : Type} {createdAt : R → Time} {data : R → α}

/-- The cursor after a list of rows: the key of the last one. -/
def lastCursor (createdAt : R → Time) (rows : List (UUID × R)) (last : Time × UUID) : Cursor :=
  match rows.getLast? with
  | some (id, row) => encodeCursor (createdAt row) id
  | none => encodeCursor last.1 last.2

/-- **The loop yields all rows if they fit, and otherwise those that fit and the key of the last of
them.**  By induction on the rows: each one yielded takes one place. -/
theorem yieldRows_eq (room : Nat) (rows : List (UUID × R)) (last : Time × UUID) (count : Int)
    (items : List α) :
    yieldRows (count + room) createdAt data rows last count items
      = if rows.length ≤ room then ⟨items ++ rows.map fun e => data e.2, ⟨.empty, false⟩⟩
        else ⟨items ++ (rows.take room).map fun e => data e.2,
          ⟨lastCursor createdAt (rows.take room) last, true⟩⟩ := by
  induction rows generalizing room last count items with
  | nil => simp [yieldRows]
  | cons e rows ih =>
    obtain ⟨id, row⟩ := e
    cases room with
    | zero =>
      have hfull : count = count + ((0 : Nat) : Int) := by omega
      rw [yieldRows, if_pos hfull, if_neg (by simp)]
      simp [lastCursor]
    | succ room =>
      have hroom : count ≠ count + ((room + 1 : Nat) : Int) := by omega
      have hnext : count + ((room + 1 : Nat) : Int) = count + 1 + (room : Int) := by omega
      rw [yieldRows, if_neg hroom, hnext, ih]
      simp only [List.length_cons, Nat.add_le_add_iff_right, List.map_cons, List.take_succ_cons,
        List.append_assoc, List.singleton_append]
      split
      · rfl
      · congr 2
        simp only [lastCursor, List.getLast?_cons]
        cases (rows.take room).getLast? <;> rfl

end

end Credbound.Postgres
