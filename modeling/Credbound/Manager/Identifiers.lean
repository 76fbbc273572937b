import Credbound.Machinery.Run
import Credbound.Types.Basic
import Mathlib.Data.Nat.Bitwise

/-!
# Manager/Identifiers — the identifiers that `newID` mints

An identifier packs forty-eight bits of milliseconds, the version, twelve bits of a sequence, the variant and
sixty-two random bits.  The manager keeps the milliseconds and the sequence of the last identifier: it takes the
clock's milliseconds when they are later, and counts on otherwise, carrying from the sequence to the milliseconds.

* `bits_newID`: the number that an identifier spells.
* `minted_ascending`: over fewer than `2 ^ 50` calls identifiers ascend, are of version 7, and are never stamped with
  less than a clock value that was read.
-/

namespace Credbound

/-- The identifier with the bytes. -/
def UUID.ofBytes (b : Vector UInt8 16) : UUID :=
  ⟨BitVec.ofNat 128 (Fin.foldl 16 (fun n i => 256 * n + b[i].toNat) 0)⟩

/-- The first forty-eight bits of an identifier. -/
def UUID.timestamp (id : UUID) : Nat := id.bits.toNat / 2 ^ 80

namespace Manager

/-! ## Minting -/

/-- `UnixMilli`. -/
def unixMilli (t : Time) : Int := (t - unixEpoch) / 1000000

/-- `idUnixMilli`, a signed number of 64 bits, and `idSequence`, an unsigned one of 16. -/
structure IDState where
  unixMilli : Int := 0
  sequence : Nat := 0

/-- What a call reads: the clock, and sixteen random bytes unless their source fails. -/
structure IDReading where
  now : Time
  random : Except Err (Vector UInt8 16)

namespace IDState

/-- The state that the clock leads to. -/
def advance (s : IDState) (now : Int) : IDState :=
  if s.unixMilli < now then ⟨now, 0⟩
  else if s.sequence = 0x0fff then ⟨(s.unixMilli + 1).bmod (2 ^ 64), 0⟩
  else ⟨s.unixMilli, (s.sequence + 1) % 2 ^ 16⟩

/-- The loop that writes the milliseconds, from the sixth byte to the first. -/
def putTimestamp (b : Vector UInt8 16) (timestamp : Nat) : Vector UInt8 16 :=
  (([5, 4, 3, 2, 1, 0] : List (Fin 16)).foldl
    (fun state index => (state.1.set index (UInt8.ofNat state.2), state.2 >>> 8)) (b, timestamp)).1

/-- The bytes of an identifier over random ones. -/
def stamp (s : IDState) (b : Vector UInt8 16) : Vector UInt8 16 :=
  let b := putTimestamp b (s.unixMilli % 2 ^ 64).toNat
  let b := b.set 6 ((0x70 : UInt8) ||| UInt8.ofNat (s.sequence >>> 8))
  let b := b.set 7 (UInt8.ofNat s.sequence)
  b.set 8 ((b[8] &&& 0x3f) ||| 0x80)

/-- `newID`. -/
def newID (s : IDState) (c : IDReading) : Except Err UUID × IDState :=
  let s := s.advance (Manager.unixMilli c.now)
  (c.random.map fun b => UUID.ofBytes (s.stamp b), s)

/-- The state after a call. -/
def next (s : IDState) (c : IDReading) : IDState := (s.newID c).2

/-- The identifier that a call returns. -/
def mints (s : IDState) (c : IDReading) : List UUID := (s.newID c).1.toOption.toList

end IDState

/-! ## The number an identifier spells -/

theorem toNat_variant (b : UInt8) : ((b &&& 0x3f) ||| 0x80).toNat = 128 + b.toNat % 64 := by
  have hall : ∀ n : Fin 256, ((UInt8.ofNat n &&& 0x3f) ||| 0x80).toNat = 128 + n.val % 64 := by decide +kernel
  have h := hall ⟨b.toNat, b.toNat_lt⟩
  rwa [UInt8.ofNat_toNat] at h

theorem toNat_version {n : Nat} (h : n < 16) : ((0x70 : UInt8) ||| UInt8.ofNat n).toNat = 112 + n := by
  have hall : ∀ n : Fin 16, ((0x70 : UInt8) ||| UInt8.ofNat n).toNat = 112 + n.val := by decide +kernel
  exact hall ⟨n, h⟩

namespace IDState

variable {s : IDState} {c : IDReading} {id : UUID}

/-- **The number that an identifier spells**, where the milliseconds have forty-eight bits and the sequence twelve. -/
theorem bits_stamp (b : Vector UInt8 16) (hlow : 0 ≤ s.unixMilli) (hhigh : s.unixMilli < 2 ^ 48)
    (hsequence : s.sequence < 2 ^ 12) :
    ∃ tail : Nat, tail < 2 ^ 62 ∧ (UUID.ofBytes (s.stamp b)).bits.toNat
      = s.unixMilli.toNat * 2 ^ 80 + 7 * 2 ^ 76 + s.sequence * 2 ^ 64 + 2 ^ 63 + tail := by
  have hword : (s.unixMilli % 2 ^ 64).toNat = s.unixMilli.toNat := by omega
  have hmillis : s.unixMilli.toNat < 2 ^ 48 := by omega
  generalize s.unixMilli.toNat = millis at hword hmillis
  have hversion := toNat_version (n := s.sequence / 256) (by omega)
  have h9 := b[9].toNat_lt
  have h10 := b[10].toNat_lt
  have h11 := b[11].toNat_lt
  have h12 := b[12].toNat_lt
  have h13 := b[13].toNat_lt
  have h14 := b[14].toNat_lt
  have h15 := b[15].toNat_lt
  refine ⟨((((((b[8].toNat % 64 * 256 + b[9].toNat) * 256 + b[10].toNat) * 256 + b[11].toNat) * 256 + b[12].toNat) * 256
    + b[13].toNat) * 256 + b[14].toNat) * 256 + b[15].toNat, by omega, ?_⟩
  unfold stamp
  rw [hword]
  simp only [UUID.ofBytes, BitVec.toNat_ofNat, Fin.foldl_succ, Fin.foldl_zero, putTimestamp, List.foldl_cons,
    List.foldl_nil, Nat.shiftRight_eq_div_pow]
  simp [-UInt8.toNat_or, -UInt8.toNat_and, toNat_variant, hversion]
  omega

/-! ## One call -/

/-- The state of some call up to the `n`-th, with clock values of at most forty-seven bits. -/
def Within (n : Nat) (s : IDState) : Prop :=
  0 ≤ s.unixMilli ∧ s.sequence < 2 ^ 12 ∧ s.unixMilli * 2 ^ 12 + s.sequence ≤ 2 ^ 59 + n

/-- The clock of a call has a value of at most forty-seven bits. -/
def InRange (c : IDReading) : Prop := 0 ≤ Manager.unixMilli c.now ∧ Manager.unixMilli c.now ≤ 2 ^ 47

/-- The last identifier that a state could stamp. -/
def last (s : IDState) : UUID :=
  ⟨BitVec.ofNat 128 (s.unixMilli.toNat * 2 ^ 80 + 7 * 2 ^ 76 + s.sequence * 2 ^ 64 + (2 ^ 64 - 1))⟩

variable {n : Nat}

/-- A call counts on, and comes up to its clock. -/
theorem next_within (hs : s.Within n) (hn : n < 2 ^ 50) (hc : InRange c) :
    (s.next c).Within (n + 1) ∧ Manager.unixMilli c.now ≤ (s.next c).unixMilli
      ∧ s.unixMilli * 2 ^ 12 + s.sequence < (s.next c).unixMilli * 2 ^ 12 + (s.next c).sequence := by
  obtain ⟨hmillis, hsequence, hposition⟩ := hs
  obtain ⟨hlow, hhigh⟩ := hc
  have hbmod : (s.unixMilli + 1).bmod (2 ^ 64) = s.unixMilli + 1 := Int.bmod_eq_of_le (by omega) (by omega)
  unfold next newID advance Within
  dsimp only
  rw [hbmod]
  split
  · dsimp only
    omega
  · split <;> dsimp only <;> omega

theorem toNat_last (hs : s.Within n) (hn : n ≤ 2 ^ 50) :
    s.last.bits.toNat = s.unixMilli.toNat * 2 ^ 80 + 7 * 2 ^ 76 + s.sequence * 2 ^ 64 + (2 ^ 64 - 1) := by
  obtain ⟨hmillis, hsequence, hposition⟩ := hs
  rw [last, BitVec.toNat_ofNat]
  exact Nat.mod_eq_of_lt (by omega)

/-- What an identifier spells after a call. -/
theorem bits_mints (hs : (s.next c).Within n) (hn : n ≤ 2 ^ 50) (hid : id ∈ s.mints c) :
    ∃ tail : Nat, tail < 2 ^ 62 ∧ id.bits.toNat = (s.next c).unixMilli.toNat * 2 ^ 80 + 7 * 2 ^ 76
      + (s.next c).sequence * 2 ^ 64 + 2 ^ 63 + tail := by
  obtain ⟨hmillis, hsequence, hposition⟩ := hs
  unfold mints newID at hid
  cases hrandom : c.random with
  | error e => simp [hrandom, Except.map, Except.toOption] at hid
  | ok b =>
    simp only [hrandom, Except.map, Except.toOption, Option.mem_toList] at hid
    obtain ⟨⟩ := hid
    have hhigh : (s.next c).unixMilli < 2 ^ 48 := by omega
    exact bits_stamp b hmillis hhigh hsequence

/-- **Identifiers are of version 7.** -/
theorem valid_mints (hs : (s.next c).Within n) (hn : n ≤ 2 ^ 50) (hid : id ∈ s.mints c) :
    validUUIDv7 id = true := by
  obtain ⟨tail, htail, hbits⟩ := bits_mints hs hn hid
  obtain ⟨hmillis, hsequence, hposition⟩ := hs
  have hversion : ((id.bits >>> 76) &&& 0xf).toNat = id.bits.toNat / 2 ^ 76 % 2 ^ 4 := by
    rw [BitVec.toNat_and, BitVec.toNat_ushiftRight, Nat.shiftRight_eq_div_pow]
    exact Nat.and_two_pow_sub_one_eq_mod _ 4
  have hvariant : ((id.bits >>> 62) &&& 3).toNat = id.bits.toNat / 2 ^ 62 % 2 ^ 2 := by
    rw [BitVec.toNat_and, BitVec.toNat_ushiftRight, Nat.shiftRight_eq_div_pow]
    exact Nat.and_two_pow_sub_one_eq_mod _ 2
  refine decide_eq_true ⟨BitVec.eq_of_toNat_eq (hversion.trans ?_), BitVec.eq_of_toNat_eq (hvariant.trans ?_)⟩
  · change _ = 7
    omega
  · change _ = 2
    omega

/-- **A call stamps what is after all that was stamped before.** -/
theorem mints_after (hs : s.Within n) (hn : n < 2 ^ 50) (hc : InRange c) :
    (s.last :: s.mints c).Pairwise (· < ·) ∧ ∀ id ∈ s.last :: s.mints c, id ≤ (s.next c).last := by
  obtain ⟨hnext, -, hposition⟩ := next_within hs hn hc
  have hlast := toNat_last hs hn.le
  have hlast' := toNat_last hnext hn
  have hmints : ∀ id ∈ s.mints c, s.last < id ∧ id ≤ (s.next c).last := by
    intro id hid
    obtain ⟨tail, htail, hbits⟩ := bits_mints hnext hn hid
    obtain ⟨hmillis, hsequence, -⟩ := hs
    obtain ⟨hmillis', hsequence', -⟩ := hnext
    constructor
    · change s.last.bits.toNat < id.bits.toNat
      omega
    · change id.bits.toNat ≤ (s.next c).last.bits.toNat
      omega
  constructor
  · refine List.pairwise_cons.mpr ⟨fun id hid => (hmints id hid).1, ?_⟩
    unfold mints
    cases (s.newID c).1.toOption with
    | none => exact .nil
    | some id => exact List.pairwise_singleton _ _
  · intro id hid
    obtain rfl | hid := List.mem_cons.mp hid
    · change s.last.bits.toNat ≤ (s.next c).last.bits.toNat
      obtain ⟨hmillis, hsequence, -⟩ := hs
      obtain ⟨hmillis', hsequence', -⟩ := hnext
      omega
    · exact (hmints id hid).2

/-! ## Runs of calls -/

variable {calls : List IDReading}

/-- A call that is among the first `2 ^ 50`. -/
def Ready (s : IDState) (c : IDReading) : Prop := ∃ n < 2 ^ 50, s.Within n ∧ InRange c

/-- Over few calls the milliseconds keep to forty-eight bits. -/
theorem meets_within (hs : s.Within n) (hcalls : n + calls.length ≤ 2 ^ 50)
    (hclock : ∀ c ∈ calls, InRange c) :
    Run.Meets next Ready s calls := by
  induction calls generalizing s n with
  | nil => trivial
  | cons c calls ih =>
    rw [List.length_cons] at hcalls
    have hc : InRange c := hclock c List.mem_cons_self
    obtain ⟨hnext, -, -⟩ := next_within hs (by omega) hc
    refine ⟨⟨n, by omega, hs, hc⟩, ih hnext (by omega) fun d hd => hclock d (List.mem_cons_of_mem c hd)⟩

/-- A run comes up to every clock that it reads. -/
theorem le_unixMilli (h : Run.Meets next Ready s calls)
    (hc : c ∈ calls) : Manager.unixMilli c.now ≤ (Run.run next s calls).unixMilli := by
  induction calls generalizing s with
  | nil => cases hc
  | cons d calls ih =>
    obtain ⟨⟨k, hk, hs, hd⟩, hrest⟩ := h
    obtain rfl | hc := List.mem_cons.mp hc
    · obtain ⟨-, hclock, -⟩ := next_within hs hk hd
      refine Run.invariant (I := fun t => Manager.unixMilli c.now ≤ t.unixMilli) ?_ hclock hrest
      rintro t e ht ⟨j, hj, htj, he⟩
      obtain ⟨⟨-, hnext, -⟩, -, hposition⟩ := next_within htj hj he
      obtain ⟨-, hsequence, -⟩ := htj
      omega
    · exact ih hrest hc

end IDState

/-- The identifiers that a new manager mints. -/
def minted (calls : List IDReading) : List UUID := Run.notes IDState.next IDState.mints {} calls

/-- **Identifiers ascend**, are of version 7, and are stamped with no less than a clock value that was read, over
fewer than `2 ^ 50` calls, whatever the clock does below `2 ^ 47` milliseconds. -/
theorem minted_ascending (calls : List IDReading) (hcalls : calls.length < 2 ^ 50)
    (hclock : ∀ c ∈ calls, 0 ≤ unixMilli c.now ∧ unixMilli c.now ≤ 2 ^ 47) :
    (minted calls).Pairwise (· < ·)
      ∧ ∀ before c after id, calls = before ++ c :: after →
        (IDState.newID (Run.run IDState.next {} before) c).1 = .ok id →
        validUUIDv7 id = true ∧ ∀ earlier ∈ before ++ [c], unixMilli earlier.now ≤ id.timestamp := by
  have hstart : IDState.Within 0 {} := ⟨le_rfl, by decide, by decide⟩
  have hmeets := IDState.meets_within hstart (by omega) hclock
  constructor
  · refine (List.pairwise_cons.mp (Run.pairwise_notes (I := fun _ => True) IDState.last ?_ trivial hmeets)).2
    rintro s c - ⟨k, hk, hs, hc⟩
    exact ⟨trivial, IDState.mints_after hs hk hc⟩
  · rintro before c after id rfl hid
    have hmem : id ∈ IDState.mints (Run.run IDState.next {} before) c := by
      rw [IDState.mints, hid]
      exact List.mem_singleton_self id
    obtain ⟨hbefore, hready, -⟩ := Run.meets_append.mp hmeets
    have hupto : Run.Meets IDState.next IDState.Ready {} (before ++ [c]) :=
      Run.meets_append.mpr ⟨hbefore, hready, trivial⟩
    obtain ⟨k, hk, hs, hc⟩ := hready
    obtain ⟨hnext, -, -⟩ := IDState.next_within hs hk hc
    refine ⟨IDState.valid_mints hnext hk hmem, fun earlier hearlier => ?_⟩
    obtain ⟨tail, htail, hbits⟩ := IDState.bits_mints hnext hk hmem
    have hread := IDState.le_unixMilli hupto hearlier
    rw [Run.run_append, Run.run_cons, Run.run_nil] at hread
    obtain ⟨hmillis, hsequence, hposition⟩ := hnext
    rw [UUID.timestamp]
    omega

/-- A clock that stands still and then goes back, and a source of randomness that fails once. -/
def slowClock : List IDReading :=
  [⟨unixEpoch + 5000000, .ok (.replicate 16 0xff)⟩, ⟨unixEpoch + 5000000, .error .invalidInput⟩,
    ⟨unixEpoch + 5999999, .ok (.replicate 16 0)⟩, ⟨unixEpoch, .ok (.replicate 16 1)⟩]

/-- **Three identifiers of one millisecond.** -/
theorem slowClock_ascending :
    (minted slowClock).map UUID.string
        = ["00000000-0005-7000-bfff-ffffffffffff", "00000000-0005-7002-8000-000000000000",
          "00000000-0005-7003-8101-010101010101"]
      ∧ (minted slowClock).Pairwise (· < ·) :=
  ⟨by decide +kernel, (minted_ascending slowClock (by decide) (by decide +kernel)).1⟩

end Manager

end Credbound
