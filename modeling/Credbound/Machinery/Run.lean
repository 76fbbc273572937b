import Mathlib.Data.List.Basic
import Mathlib.Order.Basic
import Mathlib.Tactic.Common

/-!
# Machinery/Run — runs of a step function, and what they preserve

A system is a step function on states, driven by a list of labels.  A **guard** is a condition on a
state and the label about to be taken; `Meets` says that every step of a run meets it.  The
invariant rule `invariant` is the one induction every property of whole runs goes through: it asks
for one step, and may use the guard there.
-/

namespace Run

variable {S L : Type*} (step : S → L → S)

/-- The state after a run. -/
def run (s : S) (ls : List L) : S := ls.foldl step s

@[simp] theorem run_nil (s : S) : run step s [] = s := rfl

@[simp] theorem run_cons (s : S) (l : L) (ls : List L) : run step s (l :: ls) = run step (step s l) ls := rfl

theorem run_append (s : S) (ls ls' : List L) : run step s (ls ++ ls') = run step (run step s ls) ls' :=
  List.foldl_append

/-- Every step of the run meets the guard, in the state it is taken in. -/
def Meets (guard : S → L → Prop) : S → List L → Prop
  | _, [] => True
  | s, l :: ls => guard s l ∧ Meets guard (step s l) ls

variable {step} {guard : S → L → Prop}

instance [∀ s l, Decidable (guard s l)] : ∀ (s : S) (ls : List L), Decidable (Meets step guard s ls)
  | _, [] => .isTrue trivial
  | s, l :: ls =>
    haveI := instDecidableMeets (step s l) ls
    inferInstanceAs (Decidable (guard s l ∧ Meets step guard (step s l) ls))

variable {ls : List L} {s : S} {I : S → Prop}

/-- **The invariant rule**: what every guarded step preserves holds after a guarded run. -/
theorem invariant (hstep : ∀ s l, I s → guard s l → I (step s l)) (hs : I s) (h : Meets step guard s ls) :
    I (run step s ls) := by
  induction ls generalizing s with
  | nil => exact hs
  | cons l ls ih => exact ih (hstep s l hs h.1) h.2

/-- …and what every step preserves holds after every run. -/
theorem always (hstep : ∀ s l, I s → I (step s l)) (hs : I s) (ls : List L) : I (run step s ls) := by
  induction ls generalizing s with
  | nil => exact hs
  | cons l ls ih => exact ih (hstep s l hs)

/-- …and in every state of it. -/
theorem meets_always (hstep : ∀ s l, I s → I (step s l)) (hs : I s) (ls : List L) :
    Meets step (fun s _ => I s) s ls := by
  induction ls generalizing s with
  | nil => trivial
  | cons l ls ih => exact ⟨hs, ih (hstep s l hs)⟩

/-- A view of the state that each step moves on its own is moved by a run on its own. -/
theorem run_map {T : Type*} {step' : T → L → T} (f : S → T)
    (hstep : ∀ s l, f (step s l) = step' (f s) l) (s : S) (ls : List L) :
    f (run step s ls) = run step' (f s) ls := by
  induction ls generalizing s with
  | nil => rfl
  | cons l ls ih => rw [run_cons, run_cons, ih, hstep]

theorem Meets.of_map {T : Type*} {step' : T → L → T} {guard : T → L → Prop} (f : S → T)
    (hstep : ∀ s l, f (step s l) = step' (f s) l) (h : Meets step' guard (f s) ls) :
    Meets step (fun s l => guard (f s) l) s ls := by
  induction ls generalizing s with
  | nil => trivial
  | cons l ls ih => exact ⟨h.1, ih (by rw [hstep]; exact h.2)⟩

theorem meets_append {ls ls' : List L} :
    Meets step guard s (ls ++ ls') ↔ Meets step guard s ls ∧ Meets step guard (run step s ls) ls' := by
  induction ls generalizing s with
  | nil => exact ⟨fun h => ⟨trivial, h⟩, fun h => h.2⟩
  | cons l ls ih =>
    exact ⟨fun h => ⟨⟨h.1, (ih.mp h.2).1⟩, (ih.mp h.2).2⟩, fun h => ⟨h.1.1, ih.mpr ⟨h.1.2, h.2⟩⟩⟩

/-- A run that does not meet the guard has a first step that does not. -/
theorem exists_first_break (h : ¬ Meets step guard s ls) :
    ∃ before l after, ls = before ++ l :: after ∧ Meets step guard s before ∧ ¬ guard (run step s before) l := by
  induction ls generalizing s with
  | nil => exact absurd trivial h
  | cons l ls ih =>
    by_cases hl : guard s l
    · obtain ⟨before, l', after, rfl, hbefore, hl'⟩ := ih fun hls => h ⟨hl, hls⟩
      exact ⟨l :: before, l', after, rfl, ⟨hl, hbefore⟩, hl'⟩
    · exact ⟨[], l, ls, rfl, trivial, hl⟩

/-- A run of labels that meet the guard in every state. -/
theorem meets_of_mem (h : ∀ l ∈ ls, ∀ s, guard s l) : Meets step guard s ls := by
  induction ls generalizing s with
  | nil => trivial
  | cons l ls ih =>
    exact ⟨h l List.mem_cons_self s, ih fun l' hl' => h l' (List.mem_cons_of_mem l hl')⟩

theorem Meets.and {guard' : S → L → Prop} (h : Meets step guard s ls) (h' : Meets step guard' s ls) :
    Meets step (fun s l => guard s l ∧ guard' s l) s ls := by
  induction ls generalizing s with
  | nil => trivial
  | cons l ls ih => exact ⟨⟨h.1, h'.1⟩, ih h.2 h'.2⟩

theorem Meets.mono {guard' : S → L → Prop} (h : Meets step guard s ls) (himp : ∀ s l, guard s l → guard' s l) :
    Meets step guard' s ls := by
  induction ls generalizing s with
  | nil => trivial
  | cons l ls ih => exact ⟨himp s l h.1, ih h.2⟩

/-- A condition on the labels alone can be added to the guard. -/
theorem Meets.and_mem {P : L → Prop} (h : Meets step guard s ls) (hP : ∀ l ∈ ls, P l) :
    Meets step (fun s l => guard s l ∧ P l) s ls := by
  induction ls generalizing s with
  | nil => trivial
  | cons l ls ih =>
    exact ⟨⟨h.1, hP l List.mem_cons_self⟩, ih h.2 fun l' hl' => hP l' (List.mem_cons_of_mem l hl')⟩

/-- What no step changes, no run changes. -/
theorem frame {X : Type*} (step : S → L → S) (f : S → X) (hstep : ∀ s l, f (step s l) = f s) (s : S)
    (ls : List L) : f (run step s ls) = f s := by
  induction ls generalizing s with
  | nil => rfl
  | cons l ls ih => rw [run_cons, ih, hstep]

/-! ## What the steps of a run are noted for -/

variable {A : Type*}

/-- What the steps of a run are noted for, in order. -/
def notes (step : S → L → S) (note : S → L → List A) : S → List L → List A
  | _, [] => []
  | s, l :: ls => note s l ++ notes step note (step s l) ls

/-- **What is noted ascends**, where a level of the state stays below each new note and comes up to it. -/
theorem pairwise_notes [Preorder A] (level : S → A) {note : S → L → List A}
    (hstep : ∀ s l, I s → guard s l → I (step s l) ∧ (level s :: note s l).Pairwise (· < ·)
      ∧ ∀ a ∈ level s :: note s l, a ≤ level (step s l)) (hs : I s) (h : Meets step guard s ls) :
    (level s :: notes step note s ls).Pairwise (· < ·) := by
  induction ls generalizing s with
  | nil => exact List.pairwise_singleton _ _
  | cons l ls ih =>
    obtain ⟨hnext, hnote, hlevel⟩ := hstep s l hs h.1
    obtain ⟨habove, hrest⟩ := List.pairwise_cons.mp (ih hnext h.2)
    rw [notes, ← List.cons_append, List.pairwise_append]
    exact ⟨hnote, hrest, fun a ha b hb => (hlevel a ha).trans_lt (habove b hb)⟩

/-- **What is noted was there or was supplied**, as often as it is noted, where each step takes what it notes
from a stock. -/
theorem count_notes_le [BEq A] (stock : S → List A) {note supply : S → L → List A} {a : A}
    (hstep : ∀ s l, I s → guard s l → I (step s l)
      ∧ (note s l).count a + (stock (step s l)).count a ≤ (stock s).count a + (supply s l).count a) (hs : I s)
    (h : Meets step guard s ls) :
    (notes step note s ls).count a ≤ (stock s).count a + (notes step supply s ls).count a := by
  induction ls generalizing s with
  | nil => exact Nat.zero_le _
  | cons l ls ih =>
    obtain ⟨hnext, htaken⟩ := hstep s l hs h.1
    have hrest := ih hnext h.2
    rw [notes, notes, List.count_append, List.count_append]
    omega

end Run
