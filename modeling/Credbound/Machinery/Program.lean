import Credbound.Machinery.Run
import Mathlib.Logic.Relation

/-!
# Machinery/Program — programs that access a shared state, alone and among others

A program returns a value, or makes an **access** and goes on with the answer.  A `Handler` says what
an access answers and what it leaves of the state; one access is atomic, and nothing else is.

* `exec` runs a program alone.
* `Runs` runs it among others: before each access the state may move along a relation `rely`, and
  each access it makes is one that `admits` allows.
* `Emits` and `Ensures` say what a program can do whatever the answers are, and what it does as long
  as the answers are good.
-/

universe u v w

/-- A program over the accesses `E`. -/
inductive Program (E : Type → Type u) (α : Type) : Type (max 1 u)
  | ret (a : α)
  | op {β : Type} (e : E β) (k : β → Program E α)

namespace Program

variable {E : Type → Type u} {S : Type v} {α β : Type}

/-- Go on with the value a program returns. -/
def bind (p : Program E α) (f : α → Program E β) : Program E β :=
  match p with
  | .ret a => f a
  | .op e k => .op e fun b => (k b).bind f

instance : Monad (Program E) where
  pure := .ret
  bind := Program.bind

theorem bind_assoc {γ : Type} (p : Program E α) (f : α → Program E β) (g : β → Program E γ) :
    (p.bind f).bind g = p.bind fun a => (f a).bind g := by
  induction p with
  | ret a => rfl
  | op e k ih => exact congrArg (Program.op e) (funext ih)

/-- The program with every access made as another. -/
def translate {F : Type → Type w} (f : ⦃β : Type⦄ → E β → F β) : Program E α → Program F α
  | .ret a => .ret a
  | .op e k => .op (f e) fun b => (k b).translate f

/-! ## Alone -/

/-- What an access answers, and the state it leaves. -/
abbrev Handler (E : Type → Type u) (S : Type v) := ⦃β : Type⦄ → E β → S → β × S

/-- The program run alone. -/
def exec (h : Handler E S) : Program E α → S → α × S
  | .ret a, s => (a, s)
  | .op e k, s => (k (h e s).1).exec h (h e s).2

variable {Q : ⦃β : Type⦄ → E β → Prop} {p : Program E α} {h : Handler E S}

theorem exec_translate {F : Type → Type w} {f : ⦃β : Type⦄ → E β → F β} {g : Handler F S}
    (hf : ∀ ⦃β : Type⦄ (e : E β) s, g (f e) s = h e s) (p : Program E α) (s : S) :
    (p.translate f).exec g s = p.exec h s := by
  induction p generalizing s with
  | ret a => rfl
  | op e k ih =>
    rw [translate, exec, exec, hf]
    exact ih _ _

/-! ## Among others -/

/-- **A run among others**: from `s` the program returns `a`, and its last access leaves `t`. -/
inductive Runs (h : Handler E S) (rely : S → S → Prop) (admits : ⦃β : Type⦄ → E β → S → Prop) :
    Program E α → S → α → S → Prop
  | ret (a : α) (s : S) : Runs h rely admits (.ret a) s a s
  | op {β : Type} (e : E β) (k : β → Program E α) (s m : S) (a : α) (t : S) (hrely : rely s m)
      (hadmits : admits e m) (hrest : Runs h rely admits (k (h e m).1) (h e m).2 a t) :
      Runs h rely admits (.op e k) s a t

section Runs

variable {h : Handler E S} {rely : S → S → Prop} {admits : ⦃β : Type⦄ → E β → S → Prop}
  {p : Program E α} {f : α → Program E β} {s t : S}

theorem runs_ret {a b : α} : Runs h rely admits (ret a) s b t ↔ b = a ∧ t = s := by
  constructor
  · rintro ⟨⟩
    exact ⟨rfl, rfl⟩
  · rintro ⟨rfl, rfl⟩
    exact .ret _ _

theorem runs_op {e : E β} {k : β → Program E α} {a : α} : Runs h rely admits (op e k) s a t
      ↔ ∃ m, rely s m ∧ admits e m ∧ Runs h rely admits (k (h e m).1) (h e m).2 a t := by
  constructor
  · rintro ⟨⟩
    exact ⟨_, ‹_›, ‹_›, ‹_›⟩
  · rintro ⟨m, hrely, hadmits, hrest⟩
    exact .op e k s m a t hrely hadmits hrest

/-- **A sequence runs when its parts do**, the second from where the first stopped. -/
theorem runs_bind {b : β} : Runs h rely admits (p >>= f) s b t
      ↔ ∃ a m, Runs h rely admits p s a m ∧ Runs h rely admits (f a) m b t := by
  induction p generalizing s with
  | ret a =>
    refine ⟨fun hrun => ⟨a, s, .ret a s, hrun⟩, ?_⟩
    rintro ⟨_, _, hret, hrun⟩
    obtain ⟨rfl, rfl⟩ := runs_ret.mp hret
    exact hrun
  | op e k ih =>
    constructor
    · intro hrun
      obtain ⟨m, hrely, hadmits, hrest⟩ := runs_op.mp hrun
      obtain ⟨a, m', hp, hf⟩ := (ih _).mp hrest
      exact ⟨a, m', .op e k s m a m' hrely hadmits hp, hf⟩
    · rintro ⟨a, m', hp, hf⟩
      obtain ⟨m, hrely, hadmits, hrest⟩ := runs_op.mp hp
      exact runs_op.mpr ⟨m, hrely, hadmits, (ih _).mpr ⟨a, m', hrest, hf⟩⟩

/-- A program that is left alone is among others that do nothing. -/
theorem runs_exec (hrefl : ∀ s, rely s s) (hadmits : ∀ ⦃β : Type⦄ (e : E β) s, admits e s)
    (p : Program E α) (s : S) : Runs h rely admits p s (p.exec h s).1 (p.exec h s).2 := by
  induction p generalizing s with
  | ret a => exact .ret a s
  | op e k ih => exact .op e k s s _ _ (hrefl s) (hadmits e s) (ih _ _)

/-- Left alone, a program has one run: its execution. -/
theorem runs_alone {a : α} : Runs h Eq (fun _ _ _ => True) p s a t ↔ p.exec h s = (a, t) := by
  induction p generalizing s with
  | ret b =>
    rw [runs_ret]
    exact ⟨fun ⟨hb, ht⟩ => by rw [hb, ht]; rfl, fun heq => ⟨(congrArg Prod.fst heq).symm,
      (congrArg Prod.snd heq).symm⟩⟩
  | op e k ih =>
    rw [runs_op]
    constructor
    · rintro ⟨m, rfl, -, hrest⟩
      exact (ih _).mp hrest
    · intro heq
      exact ⟨s, rfl, trivial, (ih _).mpr heq⟩

/-- A run may start earlier, when the others lead to its start. -/
theorem Runs.of_rely {m : S} {a : α} (htrans : ∀ s m t, rely s m → rely m t → rely s t)
    (hmove : rely s m) (hrun : Runs h rely admits p m a t) :
    ∃ t', Runs h rely admits p s a t' ∧ (t' = t ∨ rely t' t) := by
  cases hrun with
  | ret a m => exact ⟨s, .ret a s, .inr hmove⟩
  | op e k m m' a t hrely hadmits hrest =>
    exact ⟨t, .op e k s m' a t (htrans s m m' hmove hrely) hadmits hrest, .inl rfl⟩

end Runs

/-! ## The accesses a program can make -/

/-- Every access of the program satisfies `Q`, whatever the answers are. -/
inductive Emits (Q : ⦃β : Type⦄ → E β → Prop) : Program E α → Prop
  | ret (a : α) : Emits Q (.ret a)
  | op {β : Type} (e : E β) (k : β → Program E α) (he : Q e) (hk : ∀ b, Emits Q (k b)) :
      Emits Q (.op e k)

theorem emits_op {e : E β} {k : β → Program E α} : Emits Q (op e k) ↔ Q e ∧ ∀ b, Emits Q (k b) := by
  constructor
  · rintro ⟨⟩
    exact ⟨‹_›, ‹_›⟩
  · rintro ⟨he, hk⟩
    exact .op e k he hk

theorem emits_bind {f : α → Program E β} (hp : p.Emits Q) (hf : ∀ a, (f a).Emits Q) : (p >>= f).Emits Q := by
  induction hp with
  | ret a => exact hf a
  | op e k he hk ih => exact .op e _ he ih

theorem emits_true (p : Program E α) : p.Emits fun _ _ => True := by
  induction p with
  | ret a => exact .ret a
  | op e k ih => exact .op e k trivial ih

theorem emits_translate {F : Type → Type w} {f : ⦃β : Type⦄ → E β → F β} {Q : ⦃β : Type⦄ → F β → Prop}
    (hp : p.Emits fun _ e => Q (f e)) : (p.translate f).Emits Q := by
  induction hp with
  | ret a => exact .ret a
  | op e k he hk ih => exact .op (f e) _ he ih

theorem Emits.mono {Q' : ⦃β : Type⦄ → E β → Prop} (hp : p.Emits Q) (hQ : ∀ ⦃β : Type⦄ (e : E β), Q e → Q' e) :
    p.Emits Q' := by
  induction hp with
  | ret a => exact .ret a
  | op e k he hk ih => exact .op e k (hQ e he) ih

/-- **The simulation rule**: where the accesses a program can make answer alike in related states and
lead to related states, it has the same run alone from either. -/
theorem Runs.simulate {R : S → S → Prop} {s s' t : S} {a : α} (hrun : Runs h Eq (fun _ _ _ => True) p s a t)
    (hemits : p.Emits Q) (haccess : ∀ ⦃β : Type⦄ (e : E β) s s', Q e → R s s' →
      (h e s).1 = (h e s').1 ∧ R (h e s).2 (h e s').2) (hs : R s s') :
    ∃ t', Runs h Eq (fun _ _ _ => True) p s' a t' ∧ R t t' := by
  induction p generalizing s s' with
  | ret b =>
    obtain ⟨rfl, rfl⟩ := runs_ret.mp hrun
    exact ⟨s', .ret _ _, hs⟩
  | op e k ih =>
    obtain ⟨_, rfl, -, hrest⟩ := runs_op.mp hrun
    obtain ⟨he, hk⟩ := emits_op.mp hemits
    obtain ⟨hanswer, hnext⟩ := haccess e s s' he hs
    obtain ⟨t', hrun', ht⟩ := ih _ hrest (hk _) hnext
    exact ⟨t', runs_op.mpr ⟨s', rfl, trivial, hanswer ▸ hrun'⟩, ht⟩

/-! ## What a program does, given the answers -/

/-- As long as the answers satisfy `A`, every access satisfies `Q` and the value returned satisfies
`P`. -/
inductive Ensures (A : ⦃β : Type⦄ → E β → β → Prop) (Q : ⦃β : Type⦄ → E β → Prop) (P : α → Prop) :
    Program E α → Prop
  | ret (a : α) (ha : P a) : Ensures A Q P (.ret a)
  | op {β : Type} (e : E β) (k : β → Program E α) (he : Q e) (hk : ∀ b, A e b → Ensures A Q P (k b)) :
      Ensures A Q P (.op e k)

section Ensures

variable {A : ⦃β : Type⦄ → E β → β → Prop} {Q : ⦃β : Type⦄ → E β → Prop} {P : α → Prop}

theorem ensures_ret {a : α} : Ensures A Q P (ret a) ↔ P a := by
  constructor
  · rintro ⟨⟩
    assumption
  · exact .ret a

theorem ensures_op {e : E β} {k : β → Program E α} :
    Ensures A Q P (op e k) ↔ Q e ∧ ∀ b, A e b → Ensures A Q P (k b) := by
  constructor
  · rintro ⟨⟩
    exact ⟨‹_›, ‹_›⟩
  · rintro ⟨he, hk⟩
    exact .op e k he hk

variable {p : Program E α}

theorem ensures_bind {P' : β → Prop} {f : α → Program E β} (hp : p.Ensures A Q P)
    (hf : ∀ a, P a → (f a).Ensures A Q P') : (p >>= f).Ensures A Q P' := by
  induction hp with
  | ret a ha => exact hf a ha
  | op e k he hk ih => exact .op e _ he ih

theorem ensures_translate {F : Type → Type w} {f : ⦃β : Type⦄ → E β → F β} {A : ⦃β : Type⦄ → F β → β → Prop}
    {Q : ⦃β : Type⦄ → F β → Prop} (hp : p.Ensures (fun _ e => A (f e)) (fun _ e => Q (f e)) P) :
    (p.translate f).Ensures A Q P := by
  induction hp with
  | ret a ha => exact .ret a ha
  | op e k he hk ih => exact .op (f e) _ he ih

/-- A program whose accesses are fine whatever the answers are. -/
theorem Emits.ensures (hp : p.Emits Q) : p.Ensures A Q fun _ => True := by
  induction hp with
  | ret a => exact .ret a trivial
  | op e k he hk ih => exact .op e k he fun b _ => ih b

/-- Fewer answers to deal with. -/
theorem Ensures.mono {A' : ⦃β : Type⦄ → E β → β → Prop} (hp : p.Ensures A Q P)
    (hA : ∀ ⦃β : Type⦄ (e : E β) b, A' e b → A e b) : p.Ensures A' Q P := by
  induction hp with
  | ret a ha => exact .ret a ha
  | op e k he hk ih => exact .op e k he fun b hb => ih b (hA e b hb)

/-- …less said of the value, -/
theorem Ensures.relax {P' : α → Prop} (hp : p.Ensures A Q P) (hP : ∀ a, P a → P' a) : p.Ensures A Q P' := by
  induction hp with
  | ret a ha => exact .ret a (hP a ha)
  | op e k he hk ih => exact .op e k he ih

/-- …and less said of the accesses. -/
theorem Ensures.weaken {Q' : ⦃β : Type⦄ → E β → Prop} (hp : p.Ensures A Q P) (hQ : ∀ ⦃β : Type⦄ (e : E β), Q e → Q' e) :
    p.Ensures A Q' P := by
  induction hp with
  | ret a ha => exact .ret a ha
  | op e k he hk ih => exact .op e k (hQ e he) ih

variable {rely : S → S → Prop} {admits : ⦃β : Type⦄ → E β → S → Prop} {s t : S} {a : α} {I : S → Prop}

/-- A run returns what the program ensures, where the answers are as they are taken to be. -/
theorem Ensures.of_runs (hp : p.Ensures A Q P) (hA : ∀ ⦃β : Type⦄ (e : E β) s, admits e s → A e (h e s).1)
    (hrun : Runs h rely admits p s a t) : P a := by
  induction hrun with
  | ret a s => exact ensures_ret.mp hp
  | op e k s m a t hmove hadmits hrest ih => exact ih ((ensures_op.mp hp).2 _ (hA e m hadmits))

/-- **The invariant rule**: what the others and the accesses that a program makes preserve holds at the end. -/
theorem Ensures.invariant (hp : p.Ensures A Q P) (hA : ∀ ⦃β : Type⦄ (e : E β) s, admits e s → A e (h e s).1)
    (hrun : Runs h rely admits p s a t) (hrely : ∀ s m, rely s m → I s → I m)
    (haccess : ∀ ⦃β : Type⦄ (e : E β) m, Q e → admits e m → I m → I (h e m).2) (hs : I s) : I t := by
  induction hrun with
  | ret a s => exact hs
  | op e k s m a t hmove hadmits hrest ih =>
    obtain ⟨he, hk⟩ := ensures_op.mp hp
    exact ih (hk _ (hA e m hadmits)) (haccess e m he hadmits (hrely s m hmove hs))

/-- …whatever the answers are. -/
theorem Runs.invariant_of_emits (hrun : Runs h rely admits p s a t) (hemits : p.Emits Q)
    (hrely : ∀ s m, rely s m → I s → I m)
    (haccess : ∀ ⦃β : Type⦄ (e : E β) m, Q e → admits e m → I m → I (h e m).2) (hs : I s) : I t :=
  (hemits.ensures (A := fun _ _ _ => True)).invariant (fun _ _ _ _ => trivial) hrun hrely haccess hs

end Ensures

/-! ## Before a part of the program -/

/-- The program has not come to `body` yet: it makes accesses that satisfy `Q` until it is there, or
until it returns early. -/
inductive Before (Q : ⦃β : Type⦄ → E β → Prop) (early : α → Prop) (body : Program E α) :
    Program E α → Prop
  | here : Before Q early body body
  | ret (a : α) (ha : early a) : Before Q early body (.ret a)
  | op {β : Type} (e : E β) (k : β → Program E α) (he : Q e) (hk : ∀ b, Before Q early body (k b)) :
      Before Q early body (.op e k)

section Before

variable {Q : ⦃β : Type⦄ → E β → Prop} {early : β → Prop} {body : Program E β}

theorem before_bind {f : α → Program E β} (hp : p.Emits Q) (hf : ∀ a, Before Q early body (f a)) :
    Before Q early body (p >>= f) := by
  induction hp with
  | ret a => exact hf a
  | op e k he hk ih => exact .op e _ he ih

/-- A program that does not return early comes to the part, from where the others and its own accesses
have led. -/
theorem Before.runs {rely : S → S → Prop} {admits : ⦃β : Type⦄ → E β → S → Prop} {I : S → Prop} {p : Program E β}
    {s t : S} {b : β} (hp : Before Q early body p) (hrun : p.Runs h rely admits s b t) (hb : ¬ early b)
    (hrely : ∀ s m, rely s m → I s → I m) (haccess : ∀ ⦃β : Type⦄ (e : E β) m, Q e → I m → I (h e m).2) (hs : I s) :
    ∃ s₁, I s₁ ∧ body.Runs h rely admits s₁ b t := by
  induction hp generalizing s with
  | here => exact ⟨s, hs, hrun⟩
  | ret a ha => exact absurd ((runs_ret.mp hrun).1 ▸ ha) hb
  | op e k he hk ih =>
    obtain ⟨m, hmove, -, hrest⟩ := runs_op.mp hrun
    exact ih _ hrest (haccess e m he (hrely s m hmove hs))

/-- A program whose value is replaced. -/
theorem Before.map {early' : α → Prop} (f : β → α) {p : Program E β} (hp : Before Q early body p)
    (hearly : ∀ b, early b → early' (f b)) :
    Before Q early' (body.bind fun b => .ret (f b)) (p.bind fun b => .ret (f b)) := by
  induction hp with
  | here => exact .here
  | ret b hb => exact .ret (f b) (hearly b hb)
  | op e k he hk ih => exact .op e _ he ih

/-- What the part ensures, the program ensures that has not come to it. -/
theorem Before.ensures {A : ⦃β : Type⦄ → E β → β → Prop} {Q' : ⦃β : Type⦄ → E β → Prop} {p : Program E β}
    (hp : Before Q early body p) (hQ : ∀ ⦃β : Type⦄ (e : E β), Q e → Q' e)
    (hbody : body.Ensures A Q' fun _ => True) : p.Ensures A Q' fun _ => True := by
  induction hp with
  | here => exact hbody
  | ret a ha => exact .ret a trivial
  | op e k he hk ih => exact .op e k (hQ e he) fun b _ => ih b

end Before

/-! ## The last part of a program -/

/-- The program comes to one of several parts, after accesses that satisfy `Q`. -/
inductive LeadsTo (Q : ⦃β : Type⦄ → E β → Prop) (body : Program E α → Prop) : Program E α → Prop
  | here (p : Program E α) (hp : body p) : LeadsTo Q body p
  | op {β : Type} (e : E β) (k : β → Program E α) (he : Q e) (hk : ∀ b, LeadsTo Q body (k b)) :
      LeadsTo Q body (.op e k)

/-- Left alone in `s`, the program comes to `p'` in `s'` after accesses that satisfy `Q`. -/
inductive Reaches (h : Handler E S) (Q : ⦃β : Type⦄ → E β → Prop) : Program E α → S → Program E α → S → Prop
  | refl (p : Program E α) (s : S) : Reaches h Q p s p s
  | op {β : Type} (e : E β) (k : β → Program E α) (s : S) (p' : Program E α) (s' : S) (he : Q e)
      (hrest : Reaches h Q (k (h e s).1) (h e s).2 p' s') : Reaches h Q (.op e k) s p' s'

section LeadsTo

variable {Q : ⦃β : Type⦄ → E β → Prop} {body : Program E β → Prop} {h : Handler E S}

theorem leadsTo_bind {f : α → Program E β} (hp : p.Emits Q) (hf : ∀ a, LeadsTo Q body (f a)) :
    LeadsTo Q body (p >>= f) := by
  induction hp with
  | ret a => exact hf a
  | op e k he hk ih => exact .op e _ he ih

/-- The parts that a program comes to may lead on. -/
theorem LeadsTo.bind {body' : Program E α → Prop} {f : α → Program E β} (hp : LeadsTo Q body' p)
    (hf : ∀ q, body' q → LeadsTo Q body (q.bind f)) : LeadsTo Q body (p.bind f) := by
  induction hp with
  | here p hp => exact hf p hp
  | op e k he hk ih => exact .op e _ he ih

theorem LeadsTo.mono {body' : Program E β → Prop} {p : Program E β} (hp : LeadsTo Q body p)
    (hbody : ∀ q, body q → body' q) : LeadsTo Q body' p := by
  induction hp with
  | here p hp => exact .here p (hbody p hp)
  | op e k he hk ih => exact .op e k he ih

/-- **The program reaches one of the parts.** -/
theorem LeadsTo.reaches {p : Program E β} (hp : LeadsTo Q body p) (s : S) :
    ∃ p' s', body p' ∧ Reaches h Q p s p' s' := by
  induction hp generalizing s with
  | here p hp => exact ⟨p, s, hp, .refl p s⟩
  | op e k he hk ih =>
    obtain ⟨p', s', hbody, hreaches⟩ := ih (h e s).1 (h e s).2
    exact ⟨p', s', hbody, .op e k s p' s' he hreaches⟩

/-- …in a state that the accesses have led to… -/
theorem Reaches.invariant {I : S → Prop} {p p' : Program E β} {s s' : S} (hp : Reaches h Q p s p' s')
    (haccess : ∀ ⦃β : Type⦄ (e : E β) s, Q e → I s → I (h e s).2) (hs : I s) : I s' := by
  induction hp with
  | refl => exact hs
  | op e k s p' s' he hrest ih => exact ih (haccess e s he hs)

/-- …and goes on from there. -/
theorem Reaches.exec_eq {p p' : Program E β} {s s' : S} (hp : Reaches h Q p s p' s') :
    p.exec h s = p'.exec h s' := by
  induction hp with
  | refl => rfl
  | op e k s p' s' he hrest ih => exact ih

end LeadsTo

end Program
