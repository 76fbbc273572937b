import Credbound.Machinery.Program

/-!
# Machinery/Pool — several programs at once

A `Pool` runs several programs, one access at a time, in an environment that takes steps of its own.

* `Pool.runs_of_run` reads the run of one program off a run of the pool.
* `Pool.ensures_of_run` lets programs rely on an invariant that all of them keep.
* `Pool.run_trace` is the run of the pool as a run of the environment, where every access amounts to
  steps of the environment.
-/

universe u v

/-- A shared state and the programs that access it. -/
structure Pool (E : Type → Type u) (S : Type v) (α : Type) where
  state : S
  threads : List (Program E α)

namespace Pool

variable {E : Type → Type u} {S : Type v} {L : Type*} {α : Type}

/-- What moves next: one of the programs, or the environment. -/
inductive Label (L : Type*)
  | thread (i : ℕ)
  | other (l : L)

/-- One program makes its next access, or the environment takes a step.  A program that has returned
stays as it is. -/
def step (h : Program.Handler E S) (env : S → L → S) (pool : Pool E S α) : Label L → Pool E S α
  | .thread i =>
    match pool.threads[i]? with
    | some (.op e k) => ⟨(h e pool.state).2, pool.threads.set i (k (h e pool.state).1)⟩
    | _ => pool
  | .other l => ⟨env pool.state l, pool.threads⟩

section

variable {h : Program.Handler E S} {env : S → L → S} {pool : Pool E S α} {i j : ℕ}

theorem step_thread {β : Type} {e : E β} {k : β → Program E α} (hi : pool.threads[i]? = some (.op e k)) :
    pool.step h env (.thread i) = ⟨(h e pool.state).2, pool.threads.set i (k (h e pool.state).1)⟩ := by
  simp only [step, hi]

variable {ls : List (Label L)} {Q : ⦃β : Type⦄ → E β → Prop} {admits : ⦃β : Type⦄ → E β → S → Prop} {R : S → S → Prop}
  {guard : S → L → Prop} {p : Program E α} {early : α → Prop} {a : α}

variable (h env) in
/-- **What a step does**: one of the environment, nothing, or the next access of a program. -/
theorem step_cases (pool : Pool E S α) (l : Label L) :
    (∃ l', l = .other l' ∧ pool.step h env l = ⟨env pool.state l', pool.threads⟩)
      ∨ (∃ i, l = .thread i ∧ pool.step h env l = pool)
      ∨ ∃ (i : ℕ) (β : Type) (e : E β) (k : β → Program E α), l = .thread i ∧ pool.threads[i]? = some (.op e k)
        ∧ pool.step h env l = ⟨(h e pool.state).2, pool.threads.set i (k (h e pool.state).1)⟩ := by
  match l with
  | .other l => exact .inl ⟨l, rfl, rfl⟩
  | .thread i =>
    match hi : pool.threads[i]? with
    | none => exact .inr (.inl ⟨i, rfl, by simp only [step, hi]⟩)
    | some (.ret a) => exact .inr (.inl ⟨i, rfl, by simp only [step, hi]⟩)
    | some (.op e k) => exact .inr (.inr ⟨i, _, e, k, rfl, hi, step_thread hi⟩)

variable (h env) in
/-- …to one of the programs: it stays as it is, or makes its next access. -/
theorem step_of (hi : pool.threads[i]? = some p) (l : Label L) : ((pool.step h env l).threads[i]? = some p
        ∧ (l ≠ .thread i ∨ (pool.step h env l).state = pool.state ∧ ∃ a, p = .ret a))
      ∨ ∃ (β : Type) (e : E β) (k : β → Program E α), l = .thread i ∧ p = .op e k
        ∧ (pool.step h env l).state = (h e pool.state).2
        ∧ (pool.step h env l).threads[i]? = some (k (h e pool.state).1) := by
  by_cases hl : l = .thread i
  · subst hl
    cases p with
    | ret a => exact .inl (by simp [step, hi])
    | op e k =>
      rw [step_thread hi]
      exact .inr ⟨_, e, k, rfl, rfl, rfl, List.getElem?_set_self (List.getElem?_eq_some_iff.mp hi).1⟩
  · refine .inl ⟨?_, .inl hl⟩
    obtain ⟨l', -, heq⟩ | ⟨j, -, heq⟩ | ⟨j, β, e, k, rfl, -, heq⟩ := pool.step_cases h env l
    · rwa [heq]
    · rwa [heq]
    · rw [heq, List.getElem?_set_ne fun hji => hl (congrArg Label.thread hji), hi]

/-- The access program `i` is about to make is admitted. -/
def Admits (admits : ⦃β : Type⦄ → E β → S → Prop) (i : ℕ) (pool : Pool E S α) : Label L → Prop
  | .thread j => j = i → match pool.threads[i]? with
    | some (.op e _) => admits e pool.state
    | _ => True
  | .other _ => True

theorem admits_of {l : Label L} (hadmits : ∀ ⦃β : Type⦄ (e : E β) k, l = .thread i →
    pool.threads[i]? = some (.op e k) → admits e pool.state) : pool.Admits admits i l := by
  match l with
  | .other l => trivial
  | .thread j =>
    rintro rfl
    match hj : pool.threads[j]? with
    | none => trivial
    | some (.ret a) => trivial
    | some (.op e k) => exact hadmits e k rfl hj

theorem Admits.access {β : Type} {e : E β} {k : β → Program E α}
    (hadmits : pool.Admits admits i (.thread i : Label L)) (hi : pool.threads[i]? = some (.op e k)) :
    admits e pool.state := by
  have hadmitted := hadmits rfl
  rwa [hi] at hadmitted

/-- What no access and no step of the environment breaks, no step of the pool breaks. -/
theorem step_keeps {I : S → Prop} (haccess : ∀ ⦃β : Type⦄ (e : E β) s, I s → I (h e s).2)
    (henv : ∀ s l, I s → I (env s l)) (pool : Pool E S α) (l : Label L) (hs : I pool.state) :
    I (pool.step h env l).state := by
  obtain ⟨l', -, heq⟩ | ⟨j, -, heq⟩ | ⟨j, β, e, k, -, -, heq⟩ := pool.step_cases h env l <;> rw [heq]
  · exact henv pool.state l' hs
  · exact hs
  · exact haccess e pool.state hs

/-- …and no run. -/
theorem always {I : S → Prop} (haccess : ∀ ⦃β : Type⦄ (e : E β) s, I s → I (h e s).2)
    (henv : ∀ s l, I s → I (env s l)) (hs : I pool.state) (ls : List (Label L)) :
    I (Run.run (step h env) pool ls).state :=
  Run.always (I := fun pool : Pool E S α => I pool.state) (step_keeps haccess henv) hs ls

/-- Every state of a run leads to the last one. -/
theorem meets_leads (hrefl : ∀ s, R s s) (htrans : ∀ s m t, R s m → R m t → R s t)
    (haccess : ∀ ⦃β : Type⦄ (e : E β) s, R s (h e s).2) (henv : ∀ s l, R s (env s l)) (pool : Pool E S α)
    (ls : List (Label L)) :
    Run.Meets (step h env) (fun pool' _ => R pool'.state (Run.run (step h env) pool ls).state) pool ls := by
  induction ls generalizing pool with
  | nil => trivial
  | cons l ls ih =>
    refine ⟨?_, ih (pool.step h env l)⟩
    exact always (I := fun t => R pool.state t) (fun β e s hs => htrans _ _ _ hs (haccess e s))
      (fun s l hs => htrans _ _ _ hs (henv s l)) (hrefl _) (l :: ls)

/-- **One program's share of a run**: a program that has returned ran among the others, as far as the
others kept to `R`, and they may have moved on since. -/
theorem runs_of_others (hrefl : ∀ s, R s s) (htrans : ∀ s m t, R s m → R m t → R s t) (hi : pool.threads[i]? = some p)
    (hadmits : Run.Meets (step h env) (Admits admits i) pool ls)
    (hothers : Run.Meets (step h env) (fun pool l => l ≠ .thread i → R pool.state (pool.step h env l).state)
      pool ls) (hdone : (Run.run (step h env) pool ls).threads[i]? = some (.ret a)) :
    ∃ t, p.Runs h R admits pool.state a t ∧ R t (Run.run (step h env) pool ls).state := by
  induction ls generalizing pool p with
  | nil =>
    obtain rfl : p = .ret a := Option.some_inj.mp (hi.symm.trans hdone)
    exact ⟨pool.state, .ret a _, hrefl _⟩
  | cons l ls ih =>
    -- A step of the others is put in front of the run; a step of this program is its first access.
    have hmoves : R pool.state (pool.step h env l).state → (pool.step h env l).threads[i]? = some p →
        ∃ t, p.Runs h R admits pool.state a t ∧ R t (Run.run (step h env) pool (l :: ls)).state := by
      intro hmove hsame
      obtain ⟨t, hrun, hend⟩ := ih hsame hadmits.2 hothers.2 hdone
      obtain ⟨t', hrun', rfl | ht⟩ := hrun.of_rely htrans hmove
      · exact ⟨t', hrun', hend⟩
      · exact ⟨t', hrun', htrans _ _ _ ht hend⟩
    obtain ⟨hsame, hl | ⟨hstate, -⟩⟩ | ⟨β, e, k, rfl, rfl, hstate, hnext⟩ := step_of h env hi l
    · exact hmoves (hothers.1 hl) hsame
    · exact hmoves (by rw [hstate]; exact hrefl _) hsame
    · obtain ⟨t, hrun, hend⟩ := ih hnext hadmits.2 hothers.2 hdone
      rw [hstate] at hrun
      exact ⟨t, .op e k _ _ _ _ (hrefl _) (hadmits.1.access hi) hrun, hend⟩

/-- …where every access and every step of the environment keeps to `R`. -/
theorem runs_of_run (hrefl : ∀ s, R s s) (htrans : ∀ s m t, R s m → R m t → R s t)
    (haccess : ∀ ⦃β : Type⦄ (e : E β) s, R s (h e s).2) (henv : ∀ s l, R s (env s l)) (hi : pool.threads[i]? = some p)
    (hadmits : Run.Meets (step h env) (Admits admits i) pool ls)
    (hdone : (Run.run (step h env) pool ls).threads[i]? = some (.ret a)) :
    ∃ t, p.Runs h R admits pool.state a t ∧ R t (Run.run (step h env) pool ls).state := by
  refine runs_of_others hrefl htrans hi hadmits (Run.meets_of_mem fun l _ pool _ => ?_) hdone
  obtain ⟨l', -, heq⟩ | ⟨j, -, heq⟩ | ⟨j, β, e, k, -, -, heq⟩ := pool.step_cases h env l <;> rw [heq]
  · exact henv pool.state l'
  · exact hrefl pool.state
  · exact haccess e pool.state

/-- In the run, program `i` makes the access `e` in the state `s`. -/
def MadeAt (h : Program.Handler E S) (env : S → L → S) (pool : Pool E S α) (ls : List (Label L)) (i : ℕ)
    ⦃β : Type⦄ (e : E β) (s : S) : Prop :=
  ∃ before after k, ls = before ++ .thread i :: after
    ∧ (Run.run (step h env) pool before).threads[i]? = some (.op e k)
    ∧ (Run.run (step h env) pool before).state = s

/-- The accesses of a run are made in it. -/
theorem meets_madeAt (pool : Pool E S α) (ls : List (Label L)) (i : ℕ) :
    Run.Meets (step h env) (Admits (MadeAt h env pool ls i) i) pool ls := by
  -- The part of the run behind us is `before`, the rest is `ls`.
  suffices hrest : ∀ before rest, ls = before ++ rest →
      Run.Meets (step h env) (Admits (MadeAt h env pool ls i) i) (Run.run (step h env) pool before) rest from
    hrest [] ls rfl
  intro before rest
  induction rest generalizing before with
  | nil => exact fun _ => trivial
  | cons l rest ih =>
    intro hls
    have hnext := ih (before ++ [l]) (by rw [hls, List.append_assoc, List.singleton_append])
    rw [Run.run_append, Run.run_cons, Run.run_nil] at hnext
    exact ⟨admits_of fun _ e k hl hi => ⟨before, rest, k, hl ▸ hls, hi, rfl⟩, hnext⟩

/-- A part of a run makes the accesses of the run. -/
theorem MadeAt.of_suffix {pool : Pool E S α} {before ls : List (Label L)} {β : Type} {e : E β} {s : S}
    (hmade : MadeAt h env (Run.run (step h env) pool before) ls i e s) :
    MadeAt h env pool (before ++ ls) i e s := by
  obtain ⟨before', after, k, rfl, hk, hs⟩ := hmade
  refine ⟨before ++ before', after, k, (List.append_assoc ..).symm, ?_, ?_⟩ <;> rwa [Run.run_append]

/-- **A program comes to the part it was before**, unless it returns early: until it goes on with that part it
makes accesses that satisfy `Q`. -/
theorem comes_to {body p : Program E α} (hp : Program.Before Q early body p) (hi : pool.threads[i]? = some p)
    (hdone : (Run.run (step h env) pool ls).threads[i]? = some (.ret a)) (ha : ¬ early a) :
    ∃ before after, ls = before ++ after ∧ (after = [] ∨ ∃ rest, after = .thread i :: rest)
      ∧ (Run.run (step h env) pool before).threads[i]? = some body
      ∧ Run.Meets (step h env) (Admits (fun _ e _ => Q e) i) pool before := by
  induction ls generalizing pool p with
  | nil =>
    obtain rfl : p = .ret a := Option.some_inj.mp (hi.symm.trans hdone)
    cases hp with
    | here => exact ⟨[], [], rfl, .inl rfl, hi, trivial⟩
    | ret _ hearly => exact absurd hearly ha
  | cons l ls ih =>
    -- Either the program goes on with the part, or the step leaves it before it.
    have hmoves : (p = body ∧ l = .thread i) ∨ ∃ p', pool.Admits (fun _ e _ => Q e) i l
        ∧ Program.Before Q early body p' ∧ (pool.step h env l).threads[i]? = some p' := by
      obtain ⟨hsame, hidle⟩ | ⟨β, e, k, rfl, rfl, -, hnext⟩ := step_of h env hi l
      · refine .inr ⟨p, admits_of fun _ e k hl hop => ?_, hp, hsame⟩
        obtain hne | ⟨-, b, rfl⟩ := hidle
        · exact absurd hl hne
        · cases hi.symm.trans hop
      · cases hp with
        | here => exact .inl ⟨rfl, rfl⟩
        | op _ _ he hk =>
          refine .inr ⟨_, admits_of fun _ e' k' _ hop => ?_, hk _, hnext⟩
          cases hi.symm.trans hop
          exact he
    obtain ⟨rfl, rfl⟩ | ⟨p', hl, hp', hi'⟩ := hmoves
    · exact ⟨[], _, rfl, .inr ⟨ls, rfl⟩, hi, trivial⟩
    · obtain ⟨before, after, hls, hnext, hbody, hbefore⟩ := ih hp' hi' hdone
      exact ⟨l :: before, after, by rw [hls, List.cons_append], hnext, hbody, hl, hbefore⟩

theorem admits_of_state (hadmits : ∀ ⦃β : Type⦄ (e : E β), admits e pool.state) (l : Label L) :
    pool.Admits admits i l := admits_of fun _ e _ _ _ => hadmits e

/-- A program that has returned stays as it is. -/
theorem returned (hi : pool.threads[i]? = some (.ret a)) (ls : List (Label L)) :
    (Run.run (step h env) pool ls).threads[i]? = some (.ret a) := by
  refine Run.always (I := fun pool : Pool E S α => pool.threads[i]? = some (.ret a)) (fun pool l hi => ?_) hi ls
  obtain ⟨hsame, -⟩ | ⟨β, e, k, -, hop, -⟩ := step_of h env hi l
  · exact hsame
  · cases hop

/-- **Two programs in order**: where the second comes to a part of it only when the first has returned, and
nothing else does more than `R`, the first runs and then that part of the second. -/
theorem runs_in_order (hrefl : ∀ s, R s s) (htrans : ∀ s m t, R s m → R m t → R s t)
    (hQ : ∀ ⦃β : Type⦄ (e : E β) s, Q e → R s (h e s).2) {body p q : Program E α} {a b : α}
    (hbody : ∀ a, body ≠ .ret a) (hp : Program.Before Q early body p) (hi : pool.threads[i]? = some p)
    (hj : pool.threads[j]? = some q) (hothers : Run.Meets (step h env)
      (fun pool l => l ≠ .thread i → l ≠ .thread j → R pool.state (pool.step h env l).state) pool ls)
    (hidone : (Run.run (step h env) pool ls).threads[i]? = some (.ret a)) (ha : ¬ early a)
    (hjdone : (Run.run (step h env) pool ls).threads[j]? = some (.ret b))
    (horder : ∀ before after, ls = before ++ .thread i :: after →
      (Run.run (step h env) pool before).threads[i]? = some body →
      ∃ b, (Run.run (step h env) pool before).threads[j]? = some (.ret b)) :
    ∃ t₁ s₁ t₂, q.Runs h R (fun _ _ _ => True) pool.state b t₁ ∧ R t₁ s₁
      ∧ body.Runs h R (fun _ _ _ => True) s₁ a t₂ ∧ R t₂ (Run.run (step h env) pool ls).state := by
  obtain ⟨before, _, rfl, rfl | ⟨after, rfl⟩, hthere, hbefore⟩ := comes_to hp hi hidone ha
  · rw [List.append_nil] at hidone
    exact absurd (Option.mem_unique hthere hidone) (hbody a)
  obtain ⟨b', hb'⟩ := horder before after rfl hthere
  rw [Run.run_append] at hidone hjdone ⊢
  obtain rfl : b' = b := Program.ret.inj (Option.some.inj ((returned hb' _).symm.trans hjdone))
  obtain ⟨hothers, hothers'⟩ := Run.meets_append.mp hothers
  have hadmits : ∀ (pool : Pool E S α) (ls : List (Label L)) (i : ℕ),
      Run.Meets (step h env) (Admits (fun _ _ _ => True) i) pool ls := fun pool ls i =>
    Run.meets_of_mem fun l _ pool => admits_of_state (fun _ _ => trivial) l
  -- The first runs while the second makes accesses that keep to `R`.
  have hwhile : Run.Meets (step h env) (fun pool l => l ≠ .thread j → R pool.state (pool.step h env l).state)
      pool before := by
    refine (hothers.and hbefore).mono fun pool l hl hne => ?_
    by_cases hli : l = .thread i
    · subst hli
      obtain ⟨_, hother, -⟩ | ⟨_, -, heq⟩ | ⟨_, β, e, k, hthread, hop, heq⟩ :=
        pool.step_cases h env (.thread i)
      · cases hother
      · rw [heq]
        exact hrefl pool.state
      · cases hthread
        rw [heq]
        exact hQ e pool.state (hl.2.access hop)
    · exact hl.1 hli hne
  -- The second goes on after the first has returned.
  have hafter : Run.Meets (step h env) (fun pool l => l ≠ .thread i → R pool.state (pool.step h env l).state)
      (Run.run (step h env) pool before) (.thread i :: after) := by
    have hreturned : Run.Meets (step h env) (fun pool _ => pool.threads[j]? = some (.ret b'))
        (Run.run (step h env) pool before) (.thread i :: after) :=
      Run.meets_always (I := fun pool : Pool E S α => pool.threads[j]? = some (.ret b'))
        (fun pool l hj => returned hj [l]) hb' _
    refine (hothers'.and hreturned).mono fun pool l hl hne => ?_
    by_cases hlj : l = .thread j
    · subst hlj
      simpa only [step, hl.2] using hrefl pool.state
    · exact hl.1 hne hlj
  obtain ⟨t₁, hfirst, ht₁⟩ := runs_of_others hrefl htrans hj (hadmits pool before j) hwhile hb'
  obtain ⟨t₂, hsecond, ht₂⟩ := runs_of_others hrefl htrans hthere (hadmits _ _ i) hafter hidone
  exact ⟨t₁, _, t₂, hfirst, ht₁, hsecond, ht₂⟩

/-- **The rule for one program among others**: it is answered as it expects, whenever it makes an
access. -/
theorem ensures_of_answers {A : ⦃β : Type⦄ → E β → β → Prop} {P : α → Prop} (hi : pool.threads[i]? = some p)
    (hp : p.Ensures A Q P) (hanswers : Run.Meets (step h env) (Admits (fun _ e s => A e (h e s).1) i) pool ls) :
    ∃ p', (Run.run (step h env) pool ls).threads[i]? = some p' ∧ p'.Ensures A Q P := by
  refine Run.invariant (I := fun pool : Pool E S α => ∃ p', pool.threads[i]? = some p' ∧ p'.Ensures A Q P)
    (fun pool l hpool hanswer => ?_) ⟨p, hi, hp⟩ hanswers
  obtain ⟨p, hi, hp⟩ := hpool
  obtain ⟨hsame, -⟩ | ⟨β, e, k, rfl, rfl, -, hnext⟩ := step_of h env hi l
  · exact ⟨p, hsame, hp⟩
  · exact ⟨_, hnext, (Program.ensures_op.mp hp).2 _ (hanswer.access hi)⟩

/-- **A program that returns what it does not ensure was answered as it does not expect.** -/
theorem exists_answer {A : ⦃β : Type⦄ → E β → β → Prop} {P : α → Prop} (hi : pool.threads[i]? = some p)
    (hp : p.Ensures A Q P) (hdone : (Run.run (step h env) pool ls).threads[i]? = some (.ret a)) (ha : ¬ P a) :
    ∃ (before after : List (Label L)) (β : Type) (e : E β) (k : β → Program E α), ls = before ++ .thread i :: after
      ∧ (Run.run (step h env) pool before).threads[i]? = some (.op e k) ∧ Q e
      ∧ ¬ A e (h e (Run.run (step h env) pool before).state).1 := by
  have hbreak : ¬ Run.Meets (step h env) (Admits (fun _ e s => A e (h e s).1) i) pool ls := by
    intro hanswers
    obtain ⟨p', hp', hensures⟩ := ensures_of_answers hi hp hanswers
    cases hp'.symm.trans hdone
    exact ha (Program.ensures_ret.mp hensures)
  obtain ⟨before, l, after, rfl, hbefore, hl⟩ := Run.exists_first_break hbreak
  obtain ⟨p', hp', hensures⟩ := ensures_of_answers hi hp hbefore
  by_contra hnone
  refine hl (admits_of fun β e k hthread hop => by_contra fun hanswer => hnone ?_)
  cases hp'.symm.trans hop
  exact ⟨before, after, β, e, k, hthread ▸ rfl, hop, (Program.ensures_op.mp hensures).1, hanswer⟩

/-- The next access of program `i` is one that `admits i` allows, and a step of the environment one
that `guard` allows. -/
def Allows (admits : ℕ → ⦃β : Type⦄ → E β → S → Prop) (guard : S → L → Prop) (pool : Pool E S α) :
    Label L → Prop
  | .thread i => match pool.threads[i]? with
    | some (.op e _) => admits i e pool.state
    | _ => True
  | .other l => guard pool.state l

/-- A state that admits every access. -/
theorem allows_of_admits {admits : ℕ → ⦃β : Type⦄ → E β → S → Prop} {l : Label L}
    (hadmits : ∀ i ⦃β : Type⦄ (e : E β), admits i e pool.state) (hguard : ∀ l', l = .other l' → guard pool.state l') :
    pool.Allows admits guard l := by
  match l with
  | .other l => exact hguard l rfl
  | .thread i =>
    rw [Allows]
    split
    · exact hadmits i _
    · trivial

/-- …by a property of its own. -/
theorem allows_of_state {P : S → Prop} {l : Label L} (hP : P pool.state)
    (hguard : ∀ l', l = .other l' → guard pool.state l') : pool.Allows (fun _ _ _ => P) guard l :=
  allows_of_admits (fun _ _ _ => hP) hguard

/-- A run in which only the steps of the environment are restricted. -/
theorem meets_allows (hguard : ∀ l, .other l ∈ ls → ∀ s, guard s l) :
    Run.Meets (step h env) (Allows (fun _ _ _ _ => True) guard) pool ls :=
  Run.meets_of_mem fun _ hl pool =>
    allows_of_admits (fun _ _ _ => trivial) fun l' heq => hguard l' (heq ▸ hl) pool.state

/-- **The rule for programs that ensure something of one another**: an invariant of the state answers
every program as it expects, and no program does more than what keeps the invariant. -/
theorem ensures_of_run {A : ℕ → ⦃β : Type⦄ → E β → β → Prop} {Q : ℕ → ⦃β : Type⦄ → E β → Prop} {P : ℕ → α → Prop}
    {I : S → Prop} {admits : ℕ → ⦃β : Type⦄ → E β → S → Prop}
    (haccess : ∀ i ⦃β : Type⦄ (e : E β) s, Q i e → I s → admits i e s → A i e (h e s).1 ∧ I (h e s).2)
    (henv : ∀ s l, guard s l → I s → I (env s l)) (hs : I pool.state)
    (hthreads : ∀ i (p : Program E α), pool.threads[i]? = some p → p.Ensures (A i) (Q i) (P i))
    (hallows : Run.Meets (step h env) (Allows admits guard) pool ls) :
    I (Run.run (step h env) pool ls).state
      ∧ ∀ i (p : Program E α), (Run.run (step h env) pool ls).threads[i]? = some p →
        p.Ensures (A i) (Q i) (P i) := by
  refine Run.invariant (I := fun pool : Pool E S α => I pool.state
    ∧ ∀ i (p : Program E α), pool.threads[i]? = some p → p.Ensures (A i) (Q i) (P i))
    (fun pool l hpool hallowed => ?_) ⟨hs, hthreads⟩ hallows
  obtain ⟨hstate, hthreads⟩ := hpool
  obtain ⟨l', rfl, heq⟩ | ⟨i, -, heq⟩ | ⟨i, β, e, k, rfl, hi, heq⟩ := pool.step_cases h env l <;>
    rw [heq]
  · exact ⟨henv pool.state l' hallowed hstate, hthreads⟩
  · exact ⟨hstate, hthreads⟩
  · simp only [Allows, hi] at hallowed
    obtain ⟨he, hk⟩ := Program.ensures_op.mp (hthreads i _ hi)
    obtain ⟨hanswer, hnext⟩ := haccess i e pool.state he hstate hallowed
    refine ⟨hnext, fun j p hj => ?_⟩
    by_cases hij : i = j
    · subst hij
      rw [List.getElem?_set_self (List.getElem?_eq_some_iff.mp hi).1] at hj
      obtain ⟨⟩ := hj
      exact hk _ hanswer
    · rw [List.getElem?_set_ne hij] at hj
      exact hthreads j p hj

/-- The steps of the environment that a step of the pool amounts to, where an access amounts to
`steps e`. -/
def moves (steps : ⦃β : Type⦄ → E β → List L) (pool : Pool E S α) : Label L → List L
  | .other l => [l]
  | .thread i => match pool.threads[i]? with
    | some (.op e _) => steps e
    | _ => []

/-- The steps of the environment that a run of the pool amounts to. -/
def trace (h : Program.Handler E S) (env : S → L → S) (steps : ⦃β : Type⦄ → E β → List L) :
    Pool E S α → List (Label L) → List L
  | _, [] => []
  | pool, l :: ls => pool.moves steps l ++ trace h env steps (pool.step h env l) ls

variable {steps : ⦃β : Type⦄ → E β → List L}

/-- **A run of the pool is a run of the environment**, as far as the shared state goes. -/
theorem run_trace (hsteps : ∀ ⦃β : Type⦄ (e : E β) s, (h e s).2 = Run.run env s (steps e))
    (pool : Pool E S α) (ls : List (Label L)) :
    (Run.run (step h env) pool ls).state = Run.run env pool.state (pool.trace h env steps ls) := by
  induction ls generalizing pool with
  | nil => rfl
  | cons l ls ih =>
    have hmove : (pool.step h env l).state = Run.run env pool.state (pool.moves steps l) := by
      match l with
      | .other l => rfl
      | .thread i =>
        match hi : pool.threads[i]? with
        | none => simp only [step, moves, hi, Run.run_nil]
        | some (.ret a) => simp only [step, moves, hi, Run.run_nil]
        | some (.op e k) => simp only [step, moves, hi, hsteps]
    rw [Run.run_cons, ih, trace, Run.run_append, hmove]

/-- A program that takes a step goes on with one of its continuations. -/
theorem emits_step (hthreads : ∀ p ∈ pool.threads, p.Emits Q) (l : Label L) :
    ∀ p ∈ (pool.step h env l).threads, p.Emits Q := by
  obtain ⟨_, -, heq⟩ | ⟨_, -, heq⟩ | ⟨i, β, e, k, -, hi, heq⟩ := pool.step_cases h env l <;> rw [heq]
  · exact hthreads
  · exact hthreads
  · intro p hp
    obtain hmem | rfl := List.mem_or_eq_of_mem_set hp
    · exact hthreads p hmem
    · exact (Program.emits_op.mp (hthreads _ (List.mem_of_getElem? hi))).2 _

/-- A step of the trace is one of the environment, or comes from an access of some program. -/
theorem mem_trace (hthreads : ∀ p ∈ pool.threads, p.Emits Q) {l : L} (hl : l ∈ pool.trace h env steps ls) :
    .other l ∈ ls ∨ ∃ (β : Type) (e : E β), Q e ∧ l ∈ steps e := by
  induction ls generalizing pool with
  | nil => exact absurd hl List.not_mem_nil
  | cons l' ls ih =>
    obtain hmoves | hrest := List.mem_append.mp hl
    · unfold moves at hmoves
      split at hmoves
      · exact .inl (List.mem_singleton.mp hmoves ▸ List.mem_cons_self)
      · split at hmoves
        · next e k hi => exact .inr ⟨_, e, (Program.emits_op.mp (hthreads _ (List.mem_of_getElem? hi))).1, hmoves⟩
        · cases hmoves
    · obtain hother | haccess := ih (emits_step hthreads l') hrest
      · exact .inl (List.mem_cons_of_mem _ hother)
      · exact .inr haccess

end

end Pool
