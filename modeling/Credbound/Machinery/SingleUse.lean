import Credbound.Machinery.FMap

/-!
# Machinery/SingleUse — a register of used keys that forgets the expired ones

A register keeps the used keys, each with its expiry.  An attempt to use a key at a time `now` first
forgets the keys that expired before `now`, then refuses a key that is still there and records one
that is not.

Forgetting is harmless as long as nobody presents a used key again after its expiry has been passed
by the time of an attempt, its own or an earlier one.  `Remembers` is the invariant that carries this: a key that
was accepted is still recorded, unless some attempt came at a time after its expiry.
-/

namespace SingleUse

variable {K T : Type*} [DecidableEq K] [LinearOrder T]

/-- The keys an attempt at `now` still remembers. -/
def live (used : FMap K T) (now : T) : FMap K T := used.filter fun _ expires => ¬ expires < now

/-- A key whose expiry is not before `now` is remembered. -/
theorem get?_live {used : FMap K T} {k : K} {e now : T} (h : used.get? k = some e) (he : now ≤ e) :
    (live used now).get? k = some e := by
  rw [live, FMap.get?_filter, h]
  exact Option.filter_some_pos (by simpa using he)

variable (expiry : K → T)

/-- **The register remembers**: `accepted` are the keys that were accepted, `stamps` the times of the
attempts so far. -/
structure Remembers (used : FMap K T) (accepted : List K) (stamps : List T) : Prop where
  nodup : accepted.Nodup
  recorded : ∀ k ∈ accepted, (∀ t ∈ stamps, t ≤ expiry k) → used.get? k = some (expiry k)

namespace Remembers

variable {expiry} {used : FMap K T} {accepted : List K} {stamps : List T} {now : T} {k : K}

theorem empty (used : FMap K T) : Remembers expiry used [] [] := ⟨List.nodup_nil, fun _ hk => by cases hk⟩

variable (h : Remembers expiry used accepted stamps)

include h

/-- What is recorded survives the forgetting of an attempt that comes in time. -/
theorem get?_live (hk : k ∈ accepted)
    (hin : ∀ t ∈ now :: stamps, t ≤ expiry k) : (live used now).get? k = some (expiry k) := by
  have hrec := h.recorded k hk fun t ht => hin t (List.mem_cons_of_mem _ ht)
  exact SingleUse.get?_live hrec (hin now List.mem_cons_self)

/-- An attempt that never reached the register. -/
theorem unreached (now : T) : Remembers expiry used accepted (now :: stamps) :=
  ⟨h.nodup, fun k hk hin => h.recorded k hk fun t ht => hin t (List.mem_cons_of_mem _ ht)⟩

/-- An attempt that was refused. -/
theorem refused (now : T) : Remembers expiry (live used now) accepted (now :: stamps) :=
  ⟨h.nodup, fun _ hk hin => h.get?_live hk hin⟩

/-- An attempt that recorded its key, and was undone elsewhere. -/
theorem burned (now : T) (k : K) :
    Remembers expiry ((live used now).set k (expiry k)) accepted (now :: stamps) := by
  refine ⟨h.nodup, fun k' hk' hin => ?_⟩
  rw [FMap.get?_set]
  split
  · next heq => rw [heq]
  · exact h.get?_live hk' hin

/-- **An accepted attempt was the first**, if a repeated one had to come in time. -/
theorem accept (hfree : k ∉ live used now) (hin : k ∈ accepted → ∀ t ∈ now :: stamps, t ≤ expiry k) :
    Remembers expiry ((live used now).set k (expiry k)) (k :: accepted) (now :: stamps) := by
  have hnew : k ∉ accepted := fun hk => hfree (FMap.mem_of_get? (h.get?_live hk (hin hk)))
  refine ⟨List.nodup_cons.mpr ⟨hnew, h.nodup⟩, fun k' hk' hin' => ?_⟩
  rcases List.mem_cons.mp hk' with rfl | hk'
  · exact FMap.get?_set_self _ _ _
  · exact (h.burned now k).recorded k' hk' hin'

end Remembers

end SingleUse
