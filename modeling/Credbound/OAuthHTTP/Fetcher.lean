import Credbound.Manager.Text

/-!
# OAuthHTTP/Fetcher — how long a client metadata document is kept

`cacheLifetime` reads the `max-age` directives of a `Cache-Control` header.  The last one that is an integer
counts, and is held between a minute and an hour.  It is turned into nanoseconds before it is held there, in
sixty-four bits, so that a very large one may come out as a minute (`large_maxAge_expires`);
`cacheLifetime_eq_iff` says when the lifetime is the one that is asked for.
-/

namespace Credbound.OAuthHTTP

open Manager

/-! ## The function -/

/-- `strconv.Atoi`: digits after an optional sign, in sixty-four bits. -/
def atoi (text : List Char) : Option Int :=
  let (sign, digits) := match text with
    | '-' :: rest => ((-1 : Int), rest)
    | '+' :: rest => (1, rest)
    | _ => (1, text)
  let n := sign * digits.foldl (fun n c => 10 * n + (c.toNat - '0'.toNat : Nat)) 0
  if digits ≠ [] ∧ digits.all Char.isDigit ∧ -2 ^ 63 ≤ n ∧ n < 2 ^ 63 then some n else none

/-- The number of a `max-age` directive.  No letter of the name has a fold outside ASCII. -/
def maxAge (directive : List Char) : Option Int :=
  let text := (trimSpace (String.ofList directive)).toList
  match text.dropWhile (· ≠ '=') with
  | [] => none
  | _ :: raw =>
    if (text.takeWhile (· ≠ '=')).map Char.toLower = "max-age".toList then
      atoi ((raw.dropWhile (· = '\x22')).rdropWhile (· = '\x22'))
    else none

/-- `time.Duration(seconds) * time.Second`, in sixty-four bits. -/
def inSeconds (seconds : Int) : Int := Int.bmod (seconds * 1000000000) (2 ^ 64)

/-- `time.Minute`. -/
def minute : Int := 60000000000

/-- `time.Hour`. -/
def hour : Int := 3600000000000

/-- `cacheLifetime`, in nanoseconds. -/
def cacheLifetime (value : String) : Int :=
  let duration := (value.toList.splitOn ',').foldl
    (fun duration directive => (maxAge directive).elim duration inSeconds) (5 * minute)
  if duration < minute then minute else if duration > hour then hour else duration

/-! ## The lifetime asked for -/

/-- The last `max-age` of the header that is an integer. -/
def lastMaxAge (value : String) : Option Int := ((value.toList.splitOn ',').filterMap maxAge).getLast?

/-- A duration held between a minute and an hour. -/
def held (duration : Int) : Int := max minute (min duration hour)

/-- The seconds of the last `max-age`, or five minutes, held between a minute and an hour. -/
def lifetimeAsked (value : String) : Int :=
  held ((lastMaxAge value).elim (5 * minute) fun n => n * 1000000000)

/-- The loop keeps what the last directive says. -/
theorem foldl_elim {α β γ : Type} (f : α → Option β) (g : β → γ) (l : List α) (c : γ) :
    l.foldl (fun c a => (f a).elim c g) c = (l.filterMap f).getLast?.elim c g := by
  induction l generalizing c with
  | nil => rfl
  | cons a l ih =>
    rw [List.foldl_cons, ih]
    cases hf : f a with
    | none => rw [List.filterMap_cons_none hf, Option.elim_none]
    | some b =>
      rw [List.filterMap_cons_some hf, List.getLast?_cons]
      cases (l.filterMap f).getLast? <;> rfl

theorem cacheLifetime_eq (value : String) :
    cacheLifetime value = held ((lastMaxAge value).elim (5 * minute) inSeconds) := by
  unfold cacheLifetime held lastMaxAge
  rw [foldl_elim]
  dsimp only
  split_ifs <;> simp only [minute, hour] at * <;> omega

/-- In sixty-four bits, what is less than a minute is no more than a minute, and what is more than an hour no
less than an hour. -/
def SameSide (n : Int) : Prop := (n < 60 → inSeconds n ≤ minute) ∧ (3600 < n → hour ≤ inSeconds n)

theorem held_inSeconds_iff (n : Int) : held (inSeconds n) = held (n * 1000000000) ↔ SameSide n := by
  have hsmall : 60 ≤ n → n ≤ 3600 → inSeconds n = n * 1000000000 := by
    intro hlow hhigh
    simp only [inSeconds, Int.bmod]
    split_ifs <;> omega
  unfold SameSide held
  generalize inSeconds n = r at *
  simp only [minute, hour]
  omega

/-- **When the lifetime is the one asked for**: exactly when the last `max-age` stays on its side of the bounds
in sixty-four bits; and among such headers a larger `max-age` is kept no shorter. -/
theorem cacheLifetime_eq_iff (value : String) :
    (cacheLifetime value = lifetimeAsked value ↔ ∀ n ∈ lastMaxAge value, SameSide n)
      ∧ ∀ value' n n', lastMaxAge value = some n → lastMaxAge value' = some n' → SameSide n → SameSide n' →
        n ≤ n' → cacheLifetime value ≤ cacheLifetime value' := by
  constructor
  · rw [cacheLifetime_eq, lifetimeAsked]
    cases lastMaxAge value with
    | none => simp
    | some n => simpa using held_inSeconds_iff n
  · intro value' n n' hn hn' hside hside' hle
    rw [cacheLifetime_eq, cacheLifetime_eq, hn, hn', Option.elim_some, Option.elim_some,
      (held_inSeconds_iff n).mpr hside, (held_inSeconds_iff n').mpr hside']
    have hmul : n * 1000000000 ≤ n' * 1000000000 := by omega
    exact max_le_max_left _ (min_le_min_right _ hmul)

/-- Ninety seconds and two minutes. -/
theorem longer_maxAge_kept : cacheLifetime "public, Max-Age=\x2290\x22" = 90000000000
    ∧ cacheLifetime "public, Max-Age=\x2290\x22" ≤ cacheLifetime "max-age=60,max-age=120,max-age=x" :=
  ⟨by decide +kernel, (cacheLifetime_eq_iff _).2 _ 90 120 (by decide +kernel) (by decide +kernel) ⟨by decide, by decide⟩
    ⟨by decide, by decide⟩ (by decide)⟩

/-- **A document to be kept for centuries is kept for a minute**, and one for an hour is kept for the hour. -/
theorem large_maxAge_expires : lastMaxAge "max-age=9223372037" = some 9223372037
    ∧ cacheLifetime "max-age=9223372037" = minute ∧ lifetimeAsked "max-age=9223372037" = hour
    ∧ cacheLifetime "max-age=3600" = hour := by
  decide +kernel

end Credbound.OAuthHTTP
