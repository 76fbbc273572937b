import Credbound.Machinery.Program

/-!
# Machinery/Procedure — programs that can fail

A procedure is a program whose value is a result or an error, and that stops at the first error.  Each
way of building one comes with a rule for its runs (`runs_…`), for the accesses it can make
(`emits_…`) and for what it does as long as the answers are good (`ensures_…`).
-/

universe u v

/-- A program that returns a value or fails. -/
def Procedure (E : Type → Type u) (ε α : Type) : Type (max 1 u) := Program E (Except ε α)

namespace Procedure

variable {E : Type → Type u} {S : Type v} {ε α β : Type}

/-- Go on with the value of a procedure that did not fail. -/
def bind (p : Procedure E ε α) (f : α → Procedure E ε β) : Procedure E ε β :=
  Program.bind p fun
    | .ok a => f a
    | .error e => .ret (.error e)

instance : Monad (Procedure E ε) where
  pure a := Program.ret (.ok a)
  bind := Procedure.bind

def fail (e : ε) : Procedure E ε α := Program.ret (.error e)

/-- Make one access that can fail. -/
def call (e : E (Except ε α)) : Procedure E ε α := Program.op e .ret

/-- Stop with `e` unless `p` holds. -/
def demand (p : Prop) [Decidable p] (e : ε) : Procedure E ε Unit := if p then pure () else fail e

/-- A computation without accesses. -/
def lift : Except ε α → Procedure E ε α
  | .ok a => pure a
  | .error e => fail e

/-- Make one access; whatever it fails with, and any answer that is not `good`, is `err`. -/
def lookup (e : E (Except ε α)) (good : α → Prop) [DecidablePred good] (err : ε) :
    Procedure E ε α :=
  Program.op e fun
    | .ok a => if good a then .ret (.ok a) else .ret (.error err)
    | .error _ => .ret (.error err)

/-- Run a procedure and go on, whether it failed or not. -/
def attempt (p : Procedure E ε α) : Procedure E ε (Except ε α) :=
  Program.bind p fun r => .ret (.ok r)

theorem attempt_bind (p : Procedure E ε α) (f : Except ε α → Procedure E ε β) :
    (p.attempt >>= f) = Program.bind p f :=
  Program.bind_assoc ..

/-- A procedure whose result is dropped, before a failure. -/
theorem attempt_pure_fail (p : Procedure E ε α) (e : ε) :
    ((p.attempt >>= fun _ => pure ()) >>= fun _ => fail e : Procedure E ε β)
      = Program.bind p fun _ => .ret (.error e) :=
  (congrArg (fun q : Program E (Except ε Unit) => Program.bind q _) (attempt_bind p fun _ => pure ())).trans
    (Program.bind_assoc ..)

/-- Report a failure as another. -/
def mapError (p : Procedure E ε α) (f : ε → ε) : Procedure E ε α :=
  Program.bind p fun
    | .ok a => .ret (.ok a)
    | .error e => .ret (.error (f e))

/-- Run a procedure, and go on with its error where it fails. -/
def handle (p : Procedure E ε α) (f : ε → Procedure E ε α) : Procedure E ε α :=
  Program.bind p fun
    | .ok a => .ret (.ok a)
    | .error e => f e

/-- Do something for each element in turn. -/
def each (f : β → Procedure E ε Unit) : List β → Procedure E ε Unit
  | [] => pure ()
  | b :: bs => f b >>= fun _ => each f bs

/-- The procedure as a program. -/
def program (p : Procedure E ε α) : Program E (Except ε α) := p

/-- The procedure as a program that tells whether it succeeded. -/
def verdict (p : Procedure E ε α) : Program E Bool := p.program >>= fun r => .ret r.isOk

section Runs

variable (h : Program.Handler E S) (rely : S → S → Prop) (admits : ⦃β : Type⦄ → E β → S → Prop)

/-- The procedure runs from `s` to `t` and returns `r`. -/
def Runs (p : Procedure E ε α) (s : S) (r : Except ε α) (t : S) : Prop :=
  Program.Runs h rely admits p.program s r t

variable {h rely admits} {p : Procedure E ε α} {f : α → Procedure E ε β} {s t : S} {e : ε}

@[simp] theorem runs_pure {a : α} {r : Except ε α} :
    Runs h rely admits (pure a : Procedure E ε α) s r t ↔ r = .ok a ∧ t = s :=
  Program.runs_ret

@[simp] theorem runs_fail {r : Except ε α} :
    Runs h rely admits (fail e : Procedure E ε α) s r t ↔ r = .error e ∧ t = s :=
  Program.runs_ret

/-- Left alone, a procedure returns a value when it runs to it. -/
theorem exec_ok_iff {a : α} : (p.program.exec h s).1 = .ok a ↔ ∃ t, p.Runs h Eq (fun _ _ _ => True) s (.ok a) t := by
  simp only [Runs, Program.runs_alone]
  exact ⟨fun heq => ⟨_, Prod.ext heq rfl⟩, fun ⟨_, heq⟩ => congrArg Prod.fst heq⟩

theorem runs_verdict {b : Bool} :
    p.verdict.Runs h rely admits s b t ↔ ∃ r, Runs h rely admits p s r t ∧ b = r.isOk := by
  refine Program.runs_bind.trans (exists_congr fun r => ?_)
  constructor
  · rintro ⟨m, hrun, hret⟩
    obtain ⟨rfl, rfl⟩ := Program.runs_ret.mp hret
    exact ⟨hrun, rfl⟩
  · rintro ⟨hrun, rfl⟩
    exact ⟨t, hrun, .ret _ _⟩

/-- **A sequence fails with its first part, or goes on with the value.** -/
theorem runs_bind {r : Except ε β} : Runs h rely admits (p >>= f) s r t
      ↔ (∃ e, r = .error e ∧ Runs h rely admits p s (.error e) t)
        ∨ ∃ a m, Runs h rely admits p s (.ok a) m ∧ Runs h rely admits (f a) m r t := by
  refine Program.runs_bind.trans ⟨?_, ?_⟩
  · rintro ⟨r, m, hp, hf⟩
    match r with
    | .ok a => exact .inr ⟨a, m, hp, hf⟩
    | .error e =>
      obtain ⟨rfl, rfl⟩ := Program.runs_ret.mp hf
      exact .inl ⟨e, rfl, hp⟩
  · rintro (⟨e, rfl, hp⟩ | ⟨a, m, hp, hf⟩)
    · exact ⟨.error e, t, hp, .ret _ _⟩
    · exact ⟨.ok a, m, hp, hf⟩

/-- …so it succeeds when both parts do. -/
@[simp] theorem runs_bind_ok {b : β} : Runs h rely admits (p >>= f) s (.ok b) t
      ↔ ∃ a m, Runs h rely admits p s (.ok a) m ∧ Runs h rely admits (f a) m (.ok b) t := by
  rw [runs_bind]
  simp

@[simp] theorem runs_demand_ok {q : Prop} [Decidable q] {u : Unit} :
    Runs h rely admits (demand q e : Procedure E ε Unit) s (.ok u) t ↔ q ∧ t = s := by
  unfold demand
  split <;> simp [*]

@[simp] theorem runs_lift {x r : Except ε α} :
    Runs h rely admits (lift x : Procedure E ε α) s r t ↔ r = x ∧ t = s := by
  cases x <;> simp [lift]

theorem runs_call {c : E (Except ε α)} {r : Except ε α} : Runs h rely admits (call c) s r t
      ↔ ∃ m, rely s m ∧ admits c m ∧ (h c m).1 = r ∧ (h c m).2 = t := by
  refine Program.runs_op.trans (exists_congr fun m => ?_)
  simp only [Program.runs_ret, eq_comm]

/-- What follows an access runs from the state that it leaves, on its answer. -/
theorem runs_call_bind {c : E (Except ε α)} {r : Except ε β} :
    Runs h rely admits (call c >>= f) s r t ↔ ∃ m, rely s m ∧ admits c m ∧ Runs h rely admits
      (match (h c m).1 with | .ok a => f a | .error e => fail e : Procedure E ε β) (h c m).2 r t :=
  Program.runs_op

/-- An access that is looked at runs with a good answer. -/
@[simp] theorem runs_lookup_ok {c : E (Except ε α)} {good : α → Prop} [DecidablePred good] {a : α} :
    Runs h rely admits (lookup c good e) s (.ok a) t
      ↔ ∃ m, rely s m ∧ admits c m ∧ (h c m).1 = .ok a ∧ good a ∧ (h c m).2 = t := by
  refine Program.runs_op.trans (exists_congr fun m => and_congr_right fun _ =>
    and_congr_right fun _ => ?_)
  cases hanswer : (h c m).1 with
  | error e' => simp [Program.runs_ret]
  | ok b =>
    by_cases hgood : good b
    · simp only [if_pos hgood, Program.runs_ret, Except.ok.injEq, eq_comm]
      refine and_congr_right fun hab => ?_
      rw [hab, and_iff_right hgood]
    · simp only [if_neg hgood, Program.runs_ret, reduceCtorEq, false_and, Except.ok.injEq, false_iff]
      rintro ⟨rfl, hgood', -⟩
      exact hgood hgood'

/-- …and fails with none. -/
theorem runs_lookup_error {c : E (Except ε α)} {good : α → Prop} [DecidablePred good] {e' : ε}
    (hrun : Runs h rely admits (lookup c good e) s (.error e') t) :
    ∃ m, rely s m ∧ admits c m ∧ (∀ a, (h c m).1 = .ok a → ¬ good a) ∧ (h c m).2 = t := by
  obtain ⟨m, hrely, hadmits, hrest⟩ := Program.runs_op.mp hrun
  refine ⟨m, hrely, hadmits, ?_⟩
  cases hanswer : (h c m).1 with
  | error e'' =>
    rw [hanswer] at hrest
    exact ⟨by simp, (Program.runs_ret.mp hrest).2.symm⟩
  | ok a =>
    simp only [hanswer] at hrest
    by_cases hgood : good a
    · rw [if_pos hgood] at hrest
      cases (Program.runs_ret.mp hrest).1
    · rw [if_neg hgood] at hrest
      exact ⟨fun b hb => Except.ok.inj hb ▸ hgood, (Program.runs_ret.mp hrest).2.symm⟩

@[simp] theorem runs_attempt {r : Except ε (Except ε α)} :
    Runs h rely admits p.attempt s r t ↔ ∃ x, r = .ok x ∧ Runs h rely admits p s x t := by
  refine Program.runs_bind.trans ⟨?_, ?_⟩
  · rintro ⟨x, m, hp, hret⟩
    obtain ⟨rfl, rfl⟩ := Program.runs_ret.mp hret
    exact ⟨x, rfl, hp⟩
  · rintro ⟨x, rfl, hp⟩
    exact ⟨x, t, hp, .ret _ _⟩

@[simp] theorem runs_mapError_ok {g : ε → ε} {a : α} :
    Runs h rely admits (p.mapError g) s (.ok a) t ↔ Runs h rely admits p s (.ok a) t := by
  refine Program.runs_bind.trans ⟨?_, ?_⟩
  · rintro ⟨r, m, hp, hret⟩
    match r with
    | .ok b =>
      obtain ⟨hb, rfl⟩ := Program.runs_ret.mp hret
      cases hb
      exact hp
    | .error _ => cases (Program.runs_ret.mp hret).1
  · intro hp
    exact ⟨.ok a, t, hp, .ret _ _⟩

/-- A handled procedure succeeds, or its handler does. -/
theorem runs_handle_ok {g : ε → Procedure E ε α} {a : α} : Runs h rely admits (p.handle g) s (.ok a) t
      ↔ Runs h rely admits p s (.ok a) t
        ∨ ∃ e m, Runs h rely admits p s (.error e) m ∧ Runs h rely admits (g e) m (.ok a) t := by
  refine Program.runs_bind.trans ⟨?_, ?_⟩
  · rintro ⟨r, m, hp, hrest⟩
    match r with
    | .ok b =>
      obtain ⟨hb, rfl⟩ := Program.runs_ret.mp hrest
      cases hb
      exact .inl hp
    | .error e => exact .inr ⟨e, m, hp, hrest⟩
  · rintro (hp | ⟨e, m, hp, hrest⟩)
    · exact ⟨.ok a, t, hp, .ret _ _⟩
    · exact ⟨.error e, m, hp, hrest⟩

/-- Steps that succeed only where they stay put succeed one after the other exactly when each
does. -/
theorem runs_each_ok {g : β → Procedure E ε Unit} {good : β → Prop} {bs : List β} {u : Unit}
    (hg : ∀ b ∈ bs, ∀ (v : Unit) t, Runs h rely admits (g b) s (.ok v) t ↔ good b ∧ t = s) :
    Runs h rely admits (each g bs) s (.ok u) t ↔ (∀ b ∈ bs, good b) ∧ t = s := by
  induction bs with
  | nil => simp [each]
  | cons b bs ih =>
    rw [each, runs_bind_ok, List.forall_mem_cons, and_assoc]
    constructor
    · rintro ⟨_, m, hb, hbs⟩
      obtain ⟨hgood, rfl⟩ := (hg b List.mem_cons_self _ _).mp hb
      exact ⟨hgood, (ih fun b hb => hg b (List.mem_cons_of_mem _ hb)).mp hbs⟩
    · rintro ⟨hgood, hbs⟩
      exact ⟨(), s, (hg b List.mem_cons_self _ _).mpr ⟨hgood, rfl⟩,
        (ih fun b hb => hg b (List.mem_cons_of_mem _ hb)).mpr hbs⟩

end Runs

section Emits

variable {Q : ⦃β : Type⦄ → E β → Prop} {p : Procedure E ε α} {f : α → Procedure E ε β} {e : ε}

/-- Every access of the procedure satisfies `Q`. -/
def Emits (Q : ⦃β : Type⦄ → E β → Prop) (p : Procedure E ε α) : Prop := p.program.Emits Q

@[simp] theorem emits_pure {a : α} : (pure a : Procedure E ε α).Emits Q := .ret _

@[simp] theorem emits_fail : (fail e : Procedure E ε α).Emits Q := .ret _

@[simp] theorem emits_lift {x : Except ε α} : (lift x : Procedure E ε α).Emits Q := by
  cases x with
  | ok a => exact emits_pure
  | error e => exact emits_fail

@[simp] theorem emits_demand {q : Prop} [Decidable q] : (demand q e : Procedure E ε Unit).Emits Q := by
  unfold demand
  split
  · exact emits_pure
  · exact emits_fail

theorem emits_call {c : E (Except ε α)} (hc : Q c) : (call c).Emits Q := .op c _ hc fun _ => .ret _

theorem emits_lookup {c : E (Except ε α)} {good : α → Prop} [DecidablePred good] (hc : Q c) :
    (lookup c good e).Emits Q := by
  refine .op c _ hc fun r => ?_
  match r with
  | .ok a =>
    dsimp only
    split <;> exact .ret _
  | .error _ => exact .ret _

theorem emits_bind (hp : p.Emits Q) (hf : ∀ a, (f a).Emits Q) : (p >>= f).Emits Q := by
  refine Program.emits_bind hp fun r => ?_
  match r with
  | .ok a => exact hf a
  | .error _ => exact .ret _

/-- What follows a computation may use what it returned. -/
theorem emits_lift_bind {x : Except ε α} (hf : ∀ a, x = .ok a → (f a).Emits Q) : (lift x >>= f).Emits Q := by
  cases x with
  | error e => exact emits_fail
  | ok a => exact hf a rfl

theorem emits_attempt (hp : p.Emits Q) : p.attempt.Emits Q := Program.emits_bind hp fun _ => .ret _

theorem emits_verdict (hp : p.Emits Q) : p.verdict.Emits Q := Program.emits_bind hp fun _ => .ret _

theorem emits_mapError {g : ε → ε} (hp : p.Emits Q) : (p.mapError g).Emits Q := by
  refine Program.emits_bind hp fun r => ?_
  cases r <;> exact .ret _

theorem emits_handle {g : ε → Procedure E ε α} (hp : p.Emits Q) (hg : ∀ e, (g e).Emits Q) :
    (p.handle g).Emits Q := by
  refine Program.emits_bind hp fun r => ?_
  match r with
  | .ok a => exact .ret _
  | .error e => exact hg e

theorem emits_each {g : β → Procedure E ε Unit} {bs : List β} (hg : ∀ b ∈ bs, (g b).Emits Q) :
    (each g bs).Emits Q := by
  induction bs with
  | nil => exact emits_pure
  | cons b bs ih =>
    exact emits_bind (hg b List.mem_cons_self) fun _ => ih fun b hb => hg b (List.mem_cons_of_mem _ hb)

end Emits

/-! ### What a procedure does, given the answers -/

section Ensures

variable {A : ⦃β : Type⦄ → E β → β → Prop} {Q : ⦃β : Type⦄ → E β → Prop} {P : Except ε α → Prop}
  {p : Procedure E ε α} {f : α → Procedure E ε β} {e : ε}

/-- As long as the answers satisfy `A`, every access satisfies `Q` and the result satisfies `P`. -/
def Ensures (A : ⦃β : Type⦄ → E β → β → Prop) (Q : ⦃β : Type⦄ → E β → Prop) (P : Except ε α → Prop)
    (p : Procedure E ε α) : Prop := p.program.Ensures A Q P

theorem ensures_pure {a : α} (h : P (.ok a)) : (pure a : Procedure E ε α).Ensures A Q P := .ret _ h

theorem ensures_fail (h : P (.error e)) : (fail e : Procedure E ε α).Ensures A Q P := .ret _ h

theorem ensures_lift {x : Except ε α} (h : P x) : (lift x : Procedure E ε α).Ensures A Q P := by
  cases x with
  | error e => exact .ret _ h
  | ok a => exact .ret _ h

theorem ensures_bind {P' : Except ε β → Prop} (hp : p.Ensures A Q P)
    (herror : ∀ e, P (.error e) → P' (.error e)) (hf : ∀ a, P (.ok a) → (f a).Ensures A Q P') :
    (p >>= f).Ensures A Q P' := by
  refine Program.ensures_bind hp fun r hr => ?_
  match r with
  | .error e => exact .ret _ (herror e hr)
  | .ok a => exact hf a hr

/-- Whatever the check decides, an error is as good as any. -/
theorem ensures_demand_bind {q : Prop} [Decidable q] {f : Unit → Procedure E ε α}
    (herror : P (.error e)) (hf : q → (f ()).Ensures A Q P) : (demand q e >>= f).Ensures A Q P := by
  unfold demand
  split
  · exact hf ‹_›
  · exact ensures_fail herror

/-- Go on after a part of which only its accesses matter. -/
theorem ensures_emits_bind {P' : Except ε β → Prop} (hp : p.Emits Q) (herror : ∀ e, P' (.error e))
    (hf : ∀ a, (f a).Ensures A Q P') : (p >>= f).Ensures A Q P' :=
  ensures_bind (P := fun _ => True) (Program.Emits.ensures hp) (fun e _ => herror e) fun a _ => hf a

theorem ensures_call {c : E (Except ε α)} (hc : Q c) (hanswer : ∀ r, A c r → P r) :
    (call c).Ensures A Q P := .op c _ hc fun r hr => .ret r (hanswer r hr)

theorem ensures_lookup {c : E (Except ε α)} {good : α → Prop} [DecidablePred good] (hc : Q c)
    (herror : P (.error e)) (hok : ∀ a, A c (.ok a) → good a → P (.ok a)) :
    (lookup c good e).Ensures A Q P := by
  refine .op c _ hc fun r hr => ?_
  match r with
  | .error e' => exact .ret _ herror
  | .ok a =>
    dsimp only
    split
    · exact .ret _ (hok a hr ‹_›)
    · exact .ret _ herror

theorem ensures_attempt {P : Except ε (Except ε α) → Prop} (hp : p.Ensures A Q fun r => P (.ok r)) :
    p.attempt.Ensures A Q P := Program.ensures_bind hp fun _ hr => .ret _ hr

theorem ensures_mapError {g : ε → ε} (hp : p.Ensures A Q fun r => P (r.mapError g)) :
    (p.mapError g).Ensures A Q P := by
  refine Program.ensures_bind hp fun r hr => ?_
  match r with
  | .error e => exact .ret _ hr
  | .ok a => exact .ret _ hr

theorem ensures_verdict {P : Bool → Prop} (hp : p.Ensures A Q fun r => P r.isOk) :
    p.verdict.Ensures A Q P := Program.ensures_bind hp fun _ hr => .ret _ hr

end Ensures

section Delivers

variable {A : ⦃β : Type⦄ → E β → β → Prop} {Q : ⦃β : Type⦄ → E β → Prop} {P : α → Prop} {P' : β → Prop}
  {p : Procedure E ε α} {f : α → Procedure E ε β} {e : ε}

/-- As long as the answers satisfy `A`, every access satisfies `Q`, and what is returned without an error
satisfies `P`. -/
def Delivers (A : ⦃β : Type⦄ → E β → β → Prop) (Q : ⦃β : Type⦄ → E β → Prop) (P : α → Prop)
    (p : Procedure E ε α) : Prop := p.Ensures A Q fun r => ∀ a, r = .ok a → P a

theorem delivers_pure {a : α} (h : P a) : (pure a : Procedure E ε α).Delivers A Q P :=
  ensures_pure fun _ heq => Except.ok.inj heq ▸ h

theorem delivers_fail : (fail e : Procedure E ε α).Delivers A Q P := ensures_fail fun _ h => nomatch h

theorem delivers_bind (hp : p.Delivers A Q P) (hf : ∀ a, P a → (f a).Delivers A Q P') :
    (p >>= f).Delivers A Q P' :=
  ensures_bind hp (fun _ _ _ h => nomatch h) fun a ha => hf a (ha a rfl)

theorem delivers_of_emits (hp : p.Emits Q) : p.Delivers A Q fun _ => True :=
  Program.Ensures.relax (Program.Emits.ensures hp) fun _ _ _ _ => trivial

/-- Go on after a part of which only its accesses matter. -/
theorem delivers_emits_bind (hp : p.Emits Q) (hf : ∀ a, (f a).Delivers A Q P') :
    (p >>= f).Delivers A Q P' := ensures_emits_bind hp (fun _ _ h => nomatch h) hf

theorem delivers_lift_bind {x : Except ε α} (hf : ∀ a, x = .ok a → (f a).Delivers A Q P') :
    (lift x >>= f).Delivers A Q P' := by
  cases x with
  | error e => exact delivers_fail
  | ok a => exact hf a rfl

theorem delivers_demand_bind {q : Prop} [Decidable q] {f : Unit → Procedure E ε α}
    (hf : q → (f ()).Delivers A Q P) : (demand q e >>= f).Delivers A Q P :=
  ensures_demand_bind (fun _ h => nomatch h) hf

theorem delivers_demand {q : Prop} [Decidable q] {P : Unit → Prop} (h : q → P ()) :
    (demand q e : Procedure E ε Unit).Delivers A Q P := by
  unfold demand
  split
  · exact delivers_pure (h ‹_›)
  · exact delivers_fail

theorem delivers_call {c : E (Except ε α)} (hc : Q c) (hanswer : ∀ a, A c (.ok a) → P a) :
    (call c).Delivers A Q P :=
  ensures_call hc fun _ hr a heq => hanswer a (heq ▸ hr)

theorem delivers_lookup {c : E (Except ε α)} {good : α → Prop} [DecidablePred good] (hc : Q c)
    (hok : ∀ a, A c (.ok a) → good a → P a) : (lookup c good e).Delivers A Q P :=
  ensures_lookup hc (fun _ h => nomatch h) fun a ha hgood _ heq => Except.ok.inj heq ▸ hok a ha hgood

/-- What an attempt returns without an error is what is delivered. -/
theorem delivers_attempt (hp : p.Delivers A Q P) : p.attempt.Delivers A Q fun r => ∀ a, r = .ok a → P a :=
  ensures_attempt (Program.Ensures.relax hp fun _ hr _ heq => Except.ok.inj heq ▸ hr)

theorem delivers_mapError {g : ε → ε} (hp : p.Delivers A Q P) : (p.mapError g).Delivers A Q P := by
  refine Program.ensures_bind hp fun r hr => ?_
  match r with
  | .error e => exact .ret _ fun _ h => nomatch h
  | .ok a => exact .ret _ hr

theorem Delivers.mono {R : α → Prop} (hp : p.Delivers A Q P) (h : ∀ a, P a → R a) : p.Delivers A Q R :=
  Program.Ensures.relax hp fun _ hr a heq => h a (hr a heq)

end Delivers

section Before

variable {Q : ⦃β : Type⦄ → E β → Prop} {early : Except ε β → Prop} {body : Procedure E ε β}
  {p : Procedure E ε α} {f : α → Procedure E ε β}

/-- The procedure has not come to `body` yet. -/
def Before (Q : ⦃β : Type⦄ → E β → Prop) (early : Except ε β → Prop) (body p : Procedure E ε β) : Prop :=
  Program.Before Q early body.program p.program

theorem before_bind (herror : ∀ e, early (.error e)) (hp : p.Emits Q) (hf : ∀ a, Before Q early body (f a)) :
    Before Q early body (p >>= f) := by
  refine Program.before_bind hp fun r => ?_
  match r with
  | .ok a => exact hf a
  | .error e => exact .ret _ (herror e)

end Before

section LeadsTo

variable {Q : ⦃β : Type⦄ → E β → Prop} {body : Program E (Except ε β) → Prop} {p : Procedure E ε α}
  {f : α → Procedure E ε β}

/-- The procedure comes to one of several parts. -/
def LeadsTo (Q : ⦃β : Type⦄ → E β → Prop) (body : Program E (Except ε β) → Prop) (p : Procedure E ε β) : Prop :=
  Program.LeadsTo Q body p.program

theorem leadsTo_bind (herror : ∀ e, body (.ret (.error e))) (hp : p.Emits Q) (hf : ∀ a, LeadsTo Q body (f a)) :
    LeadsTo Q body (p >>= f) := by
  refine Program.leadsTo_bind hp fun r => ?_
  match r with
  | .ok a => exact hf a
  | .error e => exact .here _ (herror e)

end LeadsTo

end Procedure
