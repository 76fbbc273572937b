import Credbound.Machinery.FMap
import Mathlib.Order.Lattice
import Mathlib.Data.Nat.Basic
import Mathlib.Order.Lex

/-!
# Types/Basic — identifiers, times, errors, contexts and outcomes

A `UUID` is sixteen bytes, kept as the 128-bit number they spell, so that `Compare` is the order of
numbers and the zero value is `0`.  A `Time` counts nanoseconds from Go's zero time, so that
`IsZero` is `t = 0` and `Before`, `After` and `Equal` are the order of integers; the location and
the monotonic reading of a `time.Time` are not modelled, since no modelled function reads them.
-/

namespace Credbound

/-- A byte string. -/
abbrev Bytes := List UInt8

/-! ## Identifiers -/

/-- An identifier: the sixteen bytes of a UUID, big-endian. -/
structure UUID where
  bits : BitVec 128
deriving DecidableEq

namespace UUID

instance : Inhabited UUID := ⟨⟨0⟩⟩

instance (n : Nat) : OfNat UUID n := ⟨⟨BitVec.ofNat 128 n⟩⟩

theorem bits_injective : Function.Injective UUID.bits := fun a b h => by
  cases a
  cases b
  exact congrArg UUID.mk h

/-- The numeric order, which is the order of `bytes.Compare`. -/
instance : LinearOrder UUID where
  le a b := a.bits.toNat ≤ b.bits.toNat
  lt a b := a.bits.toNat < b.bits.toNat
  le_refl a := Nat.le_refl a.bits.toNat
  le_trans _ _ _ := Nat.le_trans
  lt_iff_le_not_ge _ _ := Nat.lt_iff_le_and_not_ge
  le_antisymm _ _ h h' := bits_injective (BitVec.eq_of_toNat_eq (Nat.le_antisymm h h'))
  le_total a b := Nat.le_total a.bits.toNat b.bits.toNat
  toDecidableLE a b := inferInstanceAs (Decidable (a.bits.toNat ≤ b.bits.toNat))
  toDecidableLT a b := inferInstanceAs (Decidable (a.bits.toNat < b.bits.toNat))
  toDecidableEq := inferInstance

/-- A lower-case hexadecimal digit. -/
def hexDigit (n : Nat) : Char := Nat.digitChar (n % 16)

/-- The `n` low hexadecimal digits of a number, most significant first. -/
def hexDigits : Nat → Nat → List Char
  | 0, _ => []
  | n + 1, x => hexDigits n (x / 16) ++ [hexDigit x]

/-- The canonical text `xxxxxxxx-xxxx-xxxx-xxxx-xxxxxxxxxxxx`. -/
def string (u : UUID) : String :=
  let x := u.bits.toNat
  String.ofList (hexDigits 8 (x / 16 ^ 24) ++ '-' :: hexDigits 4 (x / 16 ^ 20)
    ++ '-' :: hexDigits 4 (x / 16 ^ 16) ++ '-' :: hexDigits 4 (x / 16 ^ 12)
    ++ '-' :: hexDigits 12 x)

theorem length_hexDigits (n x : Nat) : (hexDigits n x).length = n := by
  induction n generalizing x with
  | zero => rfl
  | succ n ih => rw [hexDigits, List.length_append, ih, List.length_singleton]

theorem hexDigit_inj {x y : Nat} (h : hexDigit x = hexDigit y) : x % 16 = y % 16 := by
  have hdec : ∀ a b : Fin 16, Nat.digitChar a = Nat.digitChar b → a = b := by decide
  exact congrArg Fin.val (hdec ⟨x % 16, Nat.mod_lt _ (by decide)⟩ ⟨y % 16, Nat.mod_lt _ (by decide)⟩ h)

/-- The digits determine the number up to their count. -/
theorem hexDigits_inj {n x y : Nat} (h : hexDigits n x = hexDigits n y) : x % 16 ^ n = y % 16 ^ n := by
  induction n generalizing x y with
  | zero => rw [pow_zero, Nat.mod_one, Nat.mod_one]
  | succ n ih =>
    obtain ⟨hhigh, hlow⟩ := List.append_inj' h rfl
    have hdiv := ih hhigh
    have hmod := hexDigit_inj (List.head_eq_of_cons_eq hlow)
    rw [Nat.pow_succ', Nat.mod_mul, Nat.mod_mul, hdiv, hmod]

/-- Different identifiers have different texts. -/
theorem string_injective : Function.Injective UUID.string := by
  intro a b h
  have h := String.ofList_injective h
  obtain ⟨h, h₅⟩ := List.append_inj' h (by simp only [List.length_cons, length_hexDigits])
  obtain ⟨h, h₄⟩ := List.append_inj' h (by simp only [List.length_cons, length_hexDigits])
  obtain ⟨h, h₃⟩ := List.append_inj' h (by simp only [List.length_cons, length_hexDigits])
  obtain ⟨h₁, h₂⟩ := List.append_inj' h (by simp only [List.length_cons, length_hexDigits])
  have h₁ := hexDigits_inj h₁
  have h₂ := hexDigits_inj (List.tail_eq_of_cons_eq h₂)
  have h₃ := hexDigits_inj (List.tail_eq_of_cons_eq h₃)
  have h₄ := hexDigits_inj (List.tail_eq_of_cons_eq h₄)
  have h₅ := hexDigits_inj (List.tail_eq_of_cons_eq h₅)
  have ha := a.bits.isLt
  have hb := b.bits.isLt
  refine bits_injective (BitVec.eq_of_toNat_eq ?_)
  omega

theorem length_string (u : UUID) : u.string.length = 36 := by
  rw [string, String.length_ofList]
  simp only [List.length_append, List.length_cons, length_hexDigits]

theorem string_ne_empty (u : UUID) : u.string ≠ "" := fun h => by
  have hlength := congrArg String.length h
  rw [length_string] at hlength
  exact absurd hlength (by decide)

theorem string_ne_local (u : UUID) : u.string ≠ "local" := fun h => by
  have hlength := congrArg String.length h
  rw [length_string] at hlength
  exact absurd hlength (by decide)

end UUID

/-- `validUUIDv7`: the version nibble is seven and the variant bits are `10`. -/
def validUUIDv7 (id : UUID) : Bool := (id.bits >>> 76) &&& 0xf = 7 ∧ (id.bits >>> 62) &&& 3 = 2

/-- A version 7 identifier with a chosen tail. -/
def uuidv7 (n : Nat) : UUID := ⟨BitVec.ofNat 128 (0x70008000000000000000 + n)⟩

/-! ## Times -/

/-- A point in time, in nanoseconds from `0001-01-01T00:00:00Z`, the zero `time.Time`. -/
abbrev Time := Int

/-- A length of time in nanoseconds. -/
abbrev Duration := Int

/-- The Unix epoch. -/
def unixEpoch : Time := 62135596800 * 1000000000

/-! ## Errors and outcomes -/

/-- The errors that cross the store boundary: the sentinels of `errors.go` a store or the code
around it returns, a sentinel wrapped with its cause (`fmt.Errorf("%w: %v", …)`), and errors whose
origin is outside the library (a hook, a context, a database driver). -/
inductive Err
  | invalidCredentials
  | unauthorized
  | forbidden
  | conflict
  | notFound
  | invalidInput
  | expired
  | stepUpRequired
  | ssoRequired
  | locked
  | notSupported
  | passkeyCloneDetected
  | auditUnavailable
  | auditUnavailableFor (cause : String)
  | auditCompromised
  | external (text : String)
deriving DecidableEq

/-- What `context.Context` answers to `Err()` when a method looks at it. -/
structure Context where
  err : Option Err := none

/-- What a call gives back: a value, an error, or a run-time panic (an assignment into a nil map,
a slice bound out of range). -/
inductive Outcome (α : Type)
  | ok (value : α)
  | err (e : Err)
  | panic
deriving DecidableEq

/-- The outcome without its value. -/
def Outcome.void {α : Type} : Outcome α → Outcome Unit
  | .ok _ => .ok ()
  | .err e => .err e
  | .panic => .panic

/-! ## Checks

A precondition is an `Except Err` computation: it looks records up and compares fields, in the
order of the source, and stops at the first failure. -/

/-- Stop with `e` unless `p` holds. -/
def require (p : Prop) [Decidable p] (e : Err) : Except Err Unit := if p then .ok () else .error e

/-- The record at a key, or `e`. -/
def find {K V : Type} [DecidableEq K] (m : FMap K V) (k : K) (e : Err) : Except Err V :=
  match m.get? k with
  | some v => .ok v
  | none => .error e

theorem require_pos {p : Prop} [Decidable p] (h : p) (e : Err) : require p e = .ok () := if_pos h

theorem require_neg {p : Prop} [Decidable p] (h : ¬ p) (e : Err) : require p e = .error e := if_neg h

variable {K V : Type} {m : FMap K V}

theorem find_of_some [DecidableEq K] {k : K} {v : V} (h : m.get? k = some v) (e : Err) :
    find m k e = .ok v := by rw [find, h]

theorem find_of_none [DecidableEq K] {k : K} (h : m.get? k = none) (e : Err) :
    find m k e = .error e := by rw [find, h]

theorem find_bind_of_some [DecidableEq K] {α : Type} {k : K} {v : V} (h : m.get? k = some v) (e : Err)
    (f : V → Except Err α) : (find m k e >>= f) = f v := by
  rw [find_of_some h]
  rfl

theorem find_bind_of_none [DecidableEq K] {α : Type} {k : K} (h : m.get? k = none) (e : Err)
    (f : V → Except Err α) : (find m k e >>= f) = .error e := by
  rw [find_of_none h]
  rfl

@[simp] theorem require_eq_ok {p : Prop} [Decidable p] {e : Err} {u : Unit} : require p e = .ok u ↔ p := by
  unfold require
  split <;> simp [*]

@[simp] theorem find_eq_ok [DecidableEq K] {k : K} {e : Err} {v : V} :
    find m k e = .ok v ↔ m.get? k = some v := by
  unfold find
  split <;> simp [*]

/-- A check that goes on after `x` passes exactly when `x` does and the rest does. -/
@[simp] theorem check_bind {α β : Type} {x : Except Err α} {f : α → Except Err β} {b : β} :
    x >>= f = .ok b ↔ ∃ a, x = .ok a ∧ f a = .ok b := by
  cases x <;> simp [bind, Except.bind]

/-- …and it fails where `x` does, or after it. -/
theorem check_bind_error {α β : Type} {x : Except Err α} {f : α → Except Err β} {e : Err} :
    x >>= f = .error e ↔ x = .error e ∨ ∃ a, x = .ok a ∧ f a = .error e := by
  cases x <;> simp [bind, Except.bind]

theorem require_eq_error {p : Prop} [Decidable p] {e e' : Err} : require p e = .error e' ↔ ¬ p ∧ e = e' := by
  unfold require
  split <;> simp [*]

theorem find_eq_error [DecidableEq K] {k : K} {e e' : Err} :
    find m k e = .error e' ↔ m.get? k = none ∧ e = e' := by
  unfold find
  split <;> simp [*]

@[simp] theorem check_pure {α : Type} {a b : α} : (pure a : Except Err α) = .ok b ↔ a = b := by
  simp [pure, Except.pure]

/-! ## What a computation can return -/

/-- Whatever the computation returns satisfies `P`. -/
def Yields {α : Type} (P : α → Prop) (x : Except Err α) : Prop := ∀ a, x = .ok a → P a

namespace Yields

variable {α β : Type} {P : β → Prop}

theorem pure {b : β} (h : P b) : Yields P (pure b) := by
  intro b' hb
  obtain ⟨⟩ := hb
  exact h

theorem bind {x : Except Err α} {f : α → Except Err β} (h : ∀ a, x = .ok a → Yields P (f a)) :
    Yields P (x >>= f) := by
  intro b hb
  obtain ⟨a, ha, hf⟩ := check_bind.mp hb
  exact h a ha b hf

theorem foldlM {f : β → α → Except Err β} (hf : ∀ b a, P b → Yields P (f b a)) {b : β} (hb : P b)
    (as : List α) : Yields P (as.foldlM f b) := by
  induction as generalizing b with
  | nil => exact .pure hb
  | cons a as ih =>
    rw [List.foldlM_cons]
    exact .bind fun b' hb' => ih (hf b a hb b' hb')

end Yields

end Credbound
