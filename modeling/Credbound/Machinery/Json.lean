import Mathlib.Data.List.Basic
import Mathlib.Data.String.Basic

/-!
# Machinery/Json — decoding a JSON value into a target that holds something already

A decoder takes what the target holds, and three of its rules make that matter: `null` leaves a string or a flag as it
was, an object sets the fields it names and no other, and an array is decoded element by element into the elements
that are there, also into those past its end that an earlier array has left (`intoSlice`).

`intoItems_independent_iff` says when a list of values leaves nothing of what was there.
-/

/-- A JSON value.  A number is its text. -/
inductive Json
  | null
  | bool (value : Bool)
  | num (text : String)
  | str (text : String)
  | arr (items : List Json)
  | obj (members : List (String × Json))

namespace Json

variable {α : Type}

def isNull : Json → Bool
  | .null => true
  | _ => false

def text? : Json → Option String
  | .str text => some text
  | _ => none

def flag? : Json → Option Bool
  | .bool value => some value
  | _ => none

/-- Into a string or a flag. -/
def into (read : Json → Option α) (old : α) (v : Json) : Option α := if v.isNull then some old else read v

/-! ## Records -/

/-- The capital of a letter, and of the two characters beyond ASCII that fold to one. -/
def foldChar (c : Char) : Char := if c = 'ſ' then 'S' else if c = 'K' then 'K' else c.toUpper

/-- The field that a member is for: the one of its name, or else one that differs in case only. -/
def fieldOf (fields : List String) (name : String) : Option String :=
  if name ∈ fields then some name
  else fields.find? fun field => field.toList.map foldChar = name.toList.map foldChar

/-- The values that the members give for a field, in order. -/
def given (fields : List String) (field : String) (members : List (String × Json)) : List Json :=
  (members.filter fun member => fieldOf fields member.1 = some field ∧ ¬ member.2.isNull).map Prod.snd

/-- Into a field of a record: the last value given for it.  None may be of another type. -/
def intoField (fields : List String) (field : String) (read : Json → Option α) (old : α)
    (members : List (String × Json)) : Option α :=
  ((given fields field members).mapM read).map fun values => values.getLastD old

variable {fields : List String} {field : String} {read : Json → Option α} {members : List (String × Json)}

theorem intoField_of_nil (h : given fields field members = []) (old : α) :
    intoField fields field read old members = some old := by
  rw [intoField, h]
  rfl

theorem intoField_eq (h : given fields field members ≠ []) (old old' : α) :
    intoField fields field read old members = intoField fields field read old' members := by
  obtain ⟨v, vs, hv⟩ := List.exists_cons_of_ne_nil h
  rw [intoField, intoField, hv, List.mapM_cons]
  cases read v with
  | none => rfl
  | some value => cases vs.mapM read <;> rfl

theorem exists_intoField {old value : α} (h : intoField fields field read old members = some value) (old' : α) :
    ∃ value', intoField fields field read old' members = some value' := by
  obtain ⟨values, hvalues, -⟩ := Option.map_eq_some_iff.mp h
  exact ⟨_, Option.map_eq_some_iff.mpr ⟨values, hvalues, rfl⟩⟩

/-! ## Arrays -/

/-- An array with room: the elements, and those past the end that earlier ones have left. -/
structure Slice (α : Type) where
  items : List α
  spare : List α := []

/-- Each value into the element that is there, and into `zero` where there is none. -/
def intoItems (d : α → Json → Option α) (zero : α) : List α → List Json → Option (List α)
  | _, [] => some []
  | old, v :: vs => (d (old.headD zero) v).bind fun item => (intoItems d zero old.tail vs).map (item :: ·)

/-- Into an array. -/
def intoSlice (d : α → Json → Option α) (zero : α) (old : Slice α) : Json → Option (Slice α)
  | .null => some ⟨[], []⟩
  | .arr [] => some ⟨[], []⟩
  | .arr vs => (intoItems d zero (old.items ++ old.spare) vs).map fun items =>
      ⟨items, (old.items ++ old.spare).drop vs.length⟩
  | _ => none

variable {d : α → Json → Option α} {zero : α}

theorem items_intoSlice (old : Slice α) (vs : List Json) :
    (intoSlice d zero old (.arr vs)).map Slice.items = intoItems d zero (old.items ++ old.spare) vs := by
  cases vs with
  | nil => rfl
  | cons v vs => simp [intoSlice, Function.comp_def]

/-- A list is refused for one of its values, whatever was there. -/
theorem exists_of_intoItems_eq_none (hd : ∀ v a b, d a v = none → d b v = none) {vs : List Json} {old : List α}
    (h : intoItems d zero old vs = none) : ∃ v ∈ vs, ∀ a, d a v = none := by
  induction vs generalizing old with
  | nil => cases h
  | cons v vs ih =>
    cases hv : d (old.headD zero) v with
    | none => exact ⟨v, List.mem_cons_self, fun a => hd v _ a hv⟩
    | some item =>
      rw [intoItems, hv, Option.bind_some, Option.map_eq_none_iff] at h
      obtain ⟨w, hw, hnone⟩ := ih h
      exact ⟨w, List.mem_cons_of_mem _ hw, hnone⟩

theorem intoItems_of_refused {vs : List Json} (h : ∃ v ∈ vs, ∀ a, d a v = none) (old : List α) :
    intoItems d zero old vs = none := by
  obtain ⟨w, hw, hnone⟩ := h
  induction vs generalizing old with
  | nil => cases hw
  | cons v vs ih =>
    obtain rfl | hw := List.mem_cons.mp hw
    · rw [intoItems, hnone, Option.bind_none]
    · rw [intoItems, ih old.tail hw]
      cases d (old.headD zero) v <;> rfl

/-- **A list leaves nothing of what was there**, if it is refused, or if no value of it does. -/
theorem intoItems_independent_iff (hd : ∀ v a b, d a v = none → d b v = none) (vs : List Json) :
    (∀ old old', intoItems d zero old vs = intoItems d zero old' vs)
      ↔ (∃ v ∈ vs, ∀ a, d a v = none) ∨ ∀ v ∈ vs, ∀ a b, d a v = d b v := by
  constructor
  · intro h
    by_cases hrefused : ∃ v ∈ vs, ∀ a, d a v = none
    · exact .inl hrefused
    refine .inr ?_
    induction vs with
    | nil => exact fun v hv => absurd hv List.not_mem_nil
    | cons v vs ih =>
      have hitems : ∀ old, ∃ items, intoItems d zero old vs = some items := fun old =>
        Option.ne_none_iff_exists'.mp fun hnone =>
          have ⟨w, hw, hfails⟩ := exists_of_intoItems_eq_none hd hnone
          hrefused ⟨w, List.mem_cons_of_mem _ hw, hfails⟩
      have hitem : ∀ a, ∃ item, d a v = some item := fun a =>
        Option.ne_none_iff_exists'.mp fun hnone => hrefused ⟨v, List.mem_cons_self, fun b => hd v a b hnone⟩
      intro w hw a b
      obtain rfl | hw := List.mem_cons.mp hw
      · obtain ⟨item, ha⟩ := hitem a
        obtain ⟨item', hb⟩ := hitem b
        obtain ⟨items, hvs⟩ := hitems []
        have hab := h [a] [b]
        simp only [intoItems, List.headD_cons, List.tail_cons, ha, hb, hvs, Option.bind_some, Option.map_some,
          Option.some.injEq, List.cons.injEq, and_true] at hab
        rw [ha, hb, hab]
      · refine ih (fun old old' => ?_) (fun ⟨w, hw, hfails⟩ => hrefused ⟨w, List.mem_cons_of_mem _ hw, hfails⟩) w hw a b
        obtain ⟨item, ha⟩ := hitem a
        obtain ⟨items, hold⟩ := hitems old
        obtain ⟨items', hold'⟩ := hitems old'
        have hvs := h (a :: old) (a :: old')
        simp only [intoItems, List.headD_cons, List.tail_cons, ha, hold, hold', Option.bind_some, Option.map_some,
          Option.some.injEq, List.cons.injEq, true_and] at hvs
        rw [hold, hold', hvs]
  · rintro (hrefused | hall) old old'
    · rw [intoItems_of_refused hrefused, intoItems_of_refused hrefused]
    · induction vs generalizing old old' with
      | nil => rfl
      | cons v vs ih =>
        rw [intoItems, intoItems, hall v List.mem_cons_self (old.headD zero) (old'.headD zero),
          ih (fun w hw => hall w (List.mem_cons_of_mem _ hw)) old.tail old'.tail]

end Json
