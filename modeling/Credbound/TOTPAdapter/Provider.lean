import Credbound.Manager.OAuthTokens

/-!
# TOTPAdapter/Provider — `New` and `Validate` of the time-based codes

A `Provider` accepts the codes of a window of time steps.  `validate` scans the whole window and reports the
last step whose code is the one presented, which need not be the step of the clock.

What generates a code (`totp.GenerateCodeCustom`) is a parameter; it is asked for the code of the time at which
a step begins.
-/

namespace Credbound.TOTPAdapter

open Manager (trimSpace unixSeconds)

/-- `Config`. -/
structure Config where
  issuer : String
  period : Nat := 0
  skew : Nat := 0

/-- `Provider`, with what `New` has checked. -/
structure Provider where
  issuer : String
  period : Nat
  skew : Nat
  safe : 15 ≤ period ∧ period ≤ 120 ∧ skew ≤ 2

/-- `New`. -/
def new (config : Config) : Except String Provider :=
  let issuer := trimSpace config.issuer
  let period := if config.period = 0 then 30 else config.period
  if issuer = "" then .error "totp: issuer is required"
  else if h : 15 ≤ period ∧ period ≤ 120 ∧ config.skew ≤ 2 then
    .ok { issuer := issuer, period := period, skew := config.skew, safe := h }
  else .error "totp: unsafe period or skew"

/-- `totp.GenerateCodeCustom` of a secret, a time and a period; it may fail. -/
abbrev CodeGenerator := Bytes → Time → Nat → Option String

namespace Provider

variable (generate : CodeGenerator) (p : Provider)

/-- The step of a time; Go's division rounds towards zero. -/
def stepAt (at' : Time) : Int := (unixSeconds at').tdiv p.period

/-- The time at which a step begins. -/
def timeOf (counter : Int) : Time := unixEpoch + counter * p.period * 1000000000

/-- The code of the step is the one presented. -/
def Matches (code : String) (secret : Bytes) (counter : Int) : Prop :=
  generate secret (p.timeOf counter) p.period = some code

instance (code : String) (secret : Bytes) (counter : Int) : Decidable (p.Matches generate code secret counter) :=
  inferInstanceAs (Decidable (_ = _))

/-- The window, from the earliest step to the latest. -/
def window (current : Int) : List Int := (List.range (2 * p.skew + 1)).map fun i : Nat => current - p.skew + (i : Int)

/-- The loop over the steps of a window. -/
def scan (code : String) (secret : Bytes) (found : Int × Bool) (counters : List Int) : Int × Bool :=
  counters.foldl (fun found counter => if p.Matches generate code secret counter then (counter, true) else found) found

/-- `Validate`. -/
def validate (code : String) (secret : Bytes) (at' : Time) : Int × Bool :=
  p.scan generate code secret (p.stepAt at', false) (p.window (p.stepAt at'))

/-- The provider as the manager uses it: the step of a code that is valid. -/
def port (code : String) (secret : Bytes) (at' : Time) : Option Int :=
  if (p.validate generate code secret at').2 then some (p.validate generate code secret at').1 else none

variable {generate p} {code : String} {secret : Bytes} {at' : Time} {step : Int}

theorem mem_window {current counter : Int} :
    counter ∈ p.window current ↔ current - p.skew ≤ counter ∧ counter ≤ current + p.skew := by
  simp only [window, List.mem_map, List.mem_range]
  constructor
  · rintro ⟨i, hi, rfl⟩
    omega
  · intro ⟨hlow, hhigh⟩
    exact ⟨(counter - (current - p.skew)).toNat, by omega, by omega⟩

/-- A scan reports what it started with, or a step of the window with the code. -/
theorem scan_matches (found : Int × Bool) (counters : List Int) :
    p.scan generate code secret found counters = found
      ∨ (p.scan generate code secret found counters).1 ∈ counters
        ∧ p.Matches generate code secret (p.scan generate code secret found counters).1 := by
  induction counters generalizing found with
  | nil => exact .inl rfl
  | cons counter counters ih =>
    rw [scan, List.foldl_cons]
    by_cases hmatch : p.Matches generate code secret counter
    · rw [if_pos hmatch]
      obtain heq | ⟨hmem, hlater⟩ := ih (counter, true)
      · rw [scan] at heq
        rw [heq]
        exact .inr ⟨List.mem_cons_self, hmatch⟩
      · exact .inr ⟨List.mem_cons_of_mem _ hmem, hlater⟩
    · rw [if_neg hmatch]
      exact (ih found).imp_right fun h => ⟨List.mem_cons_of_mem _ h.1, h.2⟩

/-- **A valid code is the code of the step that is reported**, which is in the window of the clock. -/
theorem matches_of_port (h : p.port generate code secret at' = some step) :
    p.Matches generate code secret step ∧ p.stepAt at' - p.skew ≤ step ∧ step ≤ p.stepAt at' + p.skew := by
  unfold port at h
  split at h
  · next hvalid =>
    obtain ⟨⟩ := h
    unfold validate at hvalid ⊢
    obtain heq | ⟨hmem, hmatch⟩ := scan_matches (p.stepAt at', false) (p.window (p.stepAt at'))
    · rw [heq] at hvalid
      cases hvalid
    · exact ⟨hmatch, mem_window.mp hmem⟩
  · cases h

end Provider

end Credbound.TOTPAdapter
