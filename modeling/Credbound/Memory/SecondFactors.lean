import Credbound.Memory.Frames

/-!
# Memory/SecondFactors — the time steps and the recovery codes that are accepted

`UseTOTP` accepts a time step after the last one it accepted, and `ConsumeRecoveryCode` takes an unused code.
Between the activation of a factor and its removal nothing else moves the last step, and only
`ReplaceRecoveryCodes` adds codes.

* `Call.factor_next` is what one call can do to an active factor.
* `pairwise_acceptedSteps`: the steps that are accepted ascend from the one the factor was activated with.
* `count_acceptedCodes_le`: a code is accepted no more often than it was issued.
-/

namespace Credbound.Memory

open Store

/-! ## Factors and codes -/

/-- The factor of the user is active. -/
def Store.FactorActive (s : Store) (userID : UUID) : Prop :=
  ∃ factor, s.totp.get? userID = some factor ∧ factor.active = true

/-- The last step that was accepted for the factor. -/
def Store.lastStep (s : Store) (userID : UUID) : Int := (s.totp.getI userID).lastUsedStep

/-- The digests of the unused codes among some. -/
def unusedDigests (codes : List RecoveryCode) : List Bytes :=
  (codes.filter fun code => code.usedAt = none).map RecoveryCode.digest

/-- The digests of the unused recovery codes of the user. -/
def Store.unusedCodes (s : Store) (userID : UUID) : List Bytes := unusedDigests (s.recovery.getI userID)

/-- The maps of factors and codes. -/
def Store.factors (s : Store) := (s.totp, s.recovery)

/-! ## What a call is noted for -/

/-- What `UseTOTP` returns. -/
def Call.usesStep (c : Call) (s : Store) (userID : UUID) (step : Int) : Outcome Bool :=
  ((useTOTP userID step c.ctx c.commit s).finish c.ctx c.commit).1

/-- What `ConsumeRecoveryCode` returns. -/
def Call.usesCode (c : Call) (s : Store) (userID : UUID) (digest : Bytes) (usedAt : Time) : Outcome Bool :=
  ((consumeRecoveryCode userID digest usedAt c.ctx c.commit s).finish c.ctx c.commit).1

/-- The step that the call accepts for the factor of `u`. -/
def acceptedSteps (u : UUID) (s : Store) (c : Call) : List Int :=
  match c.method with
  | .useTOTP userID step => if userID = u ∧ c.usesStep s userID step = .ok true then [step] else []
  | _ => []

/-- The recovery code of `u` that the call accepts, as its digest. -/
def acceptedCodes (u : UUID) (s : Store) (c : Call) : List Bytes :=
  match c.method with
  | .consumeRecoveryCode userID digest usedAt =>
      if userID = u ∧ c.usesCode s userID digest usedAt = .ok true then [digest] else []
  | _ => []

/-- The recovery codes that the call issues for the factor of `u` in place of the earlier ones. -/
def reissuedCodes (u : UUID) (s : Store) (c : Call) : List Bytes :=
  match c.method with
  | .op (.factor (.replaceRecoveryCodes userID codes)) =>
      if userID = u ∧ (c.run s).1 = .ok () then unusedDigests codes else []
  | _ => []

/-! ## Using a step, using a code -/

/-- `UseTOTP` accepts a later step and records it, or disturbs nothing. -/
theorem useTOTP_cases (userID : UUID) (step : Int) (ctx : Context) (commit : Commit) (s : Store) :
    ((useTOTP userID step ctx commit s).finish ctx commit).1 ≠ .ok true
        ∧ s.SameCore ((useTOTP userID step ctx commit s).finish ctx commit).2
      ∨ ((useTOTP userID step ctx commit s).finish ctx commit).1 = .ok true
        ∧ ∃ factor at', s.totp.get? userID = some factor ∧ factor.active = true ∧ factor.lastUsedStep < step
          ∧ ((useTOTP userID step ctx commit s).finish ctx commit).2.factors
            = (s.totp.set userID { factor with lastUsedStep := step, updatedAt := at' }, s.recovery) := by
  unfold useTOTP
  split
  · exact .inl ⟨by simp [Attempt.finish], .refl s⟩
  split
  · exact .inl ⟨by simp [Attempt.finish], .refl s⟩
  next factor hfactor =>
  split_ifs with hactive hlate
  · exact .inl ⟨by simp [Attempt.finish], .refl s⟩
  · exact .inl ⟨by simp [Attempt.finish], .refl s⟩
  · obtain ⟨e, t, hf, ht, -⟩ | ⟨-, ceremonies, t, ⟨hw, hf⟩ | ⟨hw, hf⟩⟩ :=
      finish_prepareAndWrite_cases (.refl s) ctx commit (fun s => .ok
        (({ s with totp := s.totp.set userID ({ factor with
            lastUsedStep := step, updatedAt := commit.audit.occurredAt }) }
          |>.touchLastSeenLocked userID commit.audit.occurredAt).clearThrottle userID)) true
    · rw [hf]
      exact .inl ⟨by simp, ht⟩
    · rw [hf]
      obtain ⟨⟩ := hw
      refine .inr ⟨rfl, factor, commit.audit.occurredAt, hfactor, by simpa using hactive, not_le.mp hlate, ?_⟩
      cases commit.unchained <;> rfl
    · cases hw

/-- `ConsumeRecoveryCode` marks an unused code, or disturbs nothing. -/
theorem consumeRecoveryCode_cases (userID : UUID) (digest : Bytes) (usedAt : Time) (ctx : Context) (commit : Commit)
    (s : Store) :
    ((consumeRecoveryCode userID digest usedAt ctx commit s).finish ctx commit).1 ≠ .ok true
        ∧ s.SameCore ((consumeRecoveryCode userID digest usedAt ctx commit s).finish ctx commit).2
      ∨ ((consumeRecoveryCode userID digest usedAt ctx commit s).finish ctx commit).1 = .ok true
        ∧ (s.recovery.getI userID).any (fun code => code.usedAt = none ∧ code.digest = digest)
        ∧ ((consumeRecoveryCode userID digest usedAt ctx commit s).finish ctx commit).2.factors
          = (s.totp, s.recovery.set userID (markUsed digest usedAt (s.recovery.getI userID))) := by
  unfold consumeRecoveryCode
  split
  · exact .inl ⟨by simp [Attempt.finish], .refl s⟩
  dsimp only
  split_ifs with hunused
  · obtain ⟨e, t, hf, ht, -⟩ | ⟨-, ceremonies, t, ⟨hw, hf⟩ | ⟨hw, hf⟩⟩ :=
      finish_prepareAndWrite_cases (.refl s) ctx commit (fun t => .ok
        (({ t with recovery := t.recovery.set userID (markUsed digest usedAt (s.recovery.getI userID)) }
          |>.touchLastSeenLocked userID usedAt).clearThrottle userID)) true
    · rw [hf]
      exact .inl ⟨by simp, ht⟩
    · rw [hf]
      obtain ⟨⟩ := hw
      refine .inr ⟨rfl, hunused, ?_⟩
      cases commit.unchained <;> rfl
    · cases hw
  · exact .inl ⟨by simp [Attempt.finish], .refl s⟩

/-- Marking a code takes it from the unused ones. -/
theorem unusedDigests_markUsed {digest : Bytes} (usedAt : Time) {codes : List RecoveryCode}
    (h : codes.any fun code => code.usedAt = none ∧ code.digest = digest) :
    (unusedDigests codes).Perm (digest :: unusedDigests (markUsed digest usedAt codes)) := by
  induction codes with
  | nil => cases h
  | cons code rest ih =>
    rw [markUsed]
    split_ifs with hcode
    · obtain ⟨hunused, rfl⟩ := hcode
      simp [unusedDigests, hunused]
    · have hrest : rest.any fun code => code.usedAt = none ∧ code.digest = digest := by
        simpa [hcode] using h
      by_cases hunused : code.usedAt = none
      · have hcons : ∀ codes, unusedDigests (code :: codes) = code.digest :: unusedDigests codes := by
          simp [unusedDigests, hunused]
        rw [hcons, hcons]
        exact ((ih hrest).cons _).trans (.swap ..)
      · have hcons : ∀ codes, unusedDigests (code :: codes) = unusedDigests codes := by
          simp [unusedDigests, hunused]
        rw [hcons, hcons]
        exact ih hrest

/-! ## What the operations do to an active factor -/

/-- The operation writes factors or codes. -/
def Op.WritesFactors : Op → Prop
  | .account (.anonymizeUser ..) => True
  | .factor (.saveTOTPEnrollment ..) => True
  | .factor (.activateTOTP ..) => True
  | .factor (.disableTOTP ..) => True
  | .factor (.replaceRecoveryCodes ..) => True
  | .factor (.resetSecondFactor ..) => True
  | _ => False

theorem Op.leaves_factors (o : Op) (ho : ¬ o.WritesFactors) : o.mutation.Leaves Store.factors := by
  intro commit p
  have h := o.writes commit p
  rcases o with op | op | op | op | op | op
  all_goals cases op <;> first
    | exact absurd True.intro ho
    | exact (congrArg Store.factors h).trans rfl
    | rfl

/-- `t` has the factor and the codes of the user as `s` has them. -/
def FactorSame (u : UUID) (s t : Store) : Prop :=
  t.totp.get? u = s.totp.get? u ∧ t.recovery.getI u = s.recovery.getI u

theorem FactorSame.of_factors {u : UUID} {s t : Store} (h : t.factors = s.factors) : FactorSame u s t := by
  obtain ⟨htotp, hrecovery⟩ := Prod.mk.inj h
  exact ⟨by rw [htotp], by rw [hrecovery]⟩

theorem FactorSame.of_sameCore {u : UUID} {s t : Store} (h : s.SameCore t) : FactorSame u s t := by
  obtain ⟨_, rfl⟩ := h
  exact ⟨rfl, rfl⟩

theorem FactorSame.trans {u : UUID} {s m t : Store} (h : FactorSame u s m) (h' : FactorSame u m t) :
    FactorSame u s t := ⟨h'.1.trans h.1, h'.2.trans h.2⟩

theorem FactorSame.active {u : UUID} {s t : Store} (h : FactorSame u s t) (hs : s.FactorActive u) :
    t.FactorActive u := by
  obtain ⟨factor, hfactor, hactive⟩ := hs
  exact ⟨factor, h.1.trans hfactor, hactive⟩

/-- **An operation on an active factor** leaves it, removes it, or replaces its codes: it can neither be enrolled
nor be activated again. -/
theorem Op.factor_result (o : Op) (commit : Commit) {p : Store} {u : UUID} (hc : o.mutation.check p = .ok ())
    (hactive : p.FactorActive u) :
    FactorSame u p (o.mutation.result commit p) ∨ u ∉ (o.mutation.result commit p).totp
      ∨ ∃ codes, o = .factor (.replaceRecoveryCodes u codes)
        ∧ (o.mutation.result commit p).totp.get? u = p.totp.get? u
        ∧ (o.mutation.result commit p).recovery.getI u = codes := by
  by_cases hwrites : o.WritesFactors
  swap
  · exact .inl (.of_factors (o.leaves_factors hwrites commit p))
  -- Another user's factor does not matter; of the user's own, a check refuses what would write it.
  have hother : ∀ {userID : UUID} {t : Store}, userID ≠ u → (∀ k, k ≠ userID → t.totp.get? k = p.totp.get? k) →
      (∀ k, k ≠ userID → t.recovery.get? k = p.recovery.get? k) → FactorSame u p t := by
    intro userID t hne htotp hrecovery
    exact ⟨htotp u hne.symm, by rw [FMap.getI, FMap.getI, hrecovery u hne.symm]⟩
  have hdeleted : ∀ {userID : UUID} {t : Store}, t.totp = p.totp.del userID → t.recovery = p.recovery.del userID →
      FactorSame u p t ∨ u ∉ t.totp := by
    intro userID t htotp hrecovery
    by_cases hu : userID = u
    · exact .inr (by rw [htotp, hu]; exact FMap.get?_eq_none.mp (FMap.get?_del_self ..))
    · exact .inl (hother hu (fun k hk => by rw [htotp, FMap.get?_del, if_neg hk])
        fun k hk => by rw [hrecovery, FMap.get?_del, if_neg hk])
  obtain ⟨current, hcurrent, hon⟩ := hactive
  unfold Op.WritesFactors at hwrites
  split at hwrites
  · next userID at' =>
    obtain ⟨_, _, _, _, _, _, _, h⟩ := result_anonymizeUser userID at' commit p
    have htotp : (Op.mutation (.account (.anonymizeUser userID at'))).result commit p = _ := h
    rw [htotp]
    exact (hdeleted rfl rfl).imp_right .inl
  · next factor =>
    simp only [Op.mutation, FactorOp.mutation, Memory.saveTOTPEnrollment, check_bind, require_eq_ok] at hc
    by_cases hu : factor.userID = u
    · subst hu
      rw [hcurrent] at hc
      exact absurd hon (by simpa using hc.choose_spec.1)
    · exact .inl (hother hu (fun k hk => FMap.get?_set_ne _ _ hk) fun k hk => (FMap.get?_del ..).trans (if_neg hk))
  · next factor recovery =>
    simp only [Op.mutation, FactorOp.mutation, Memory.activateTOTP, check_bind, find_eq_ok, require_eq_ok] at hc
    obtain ⟨existing, hexisting, hoff⟩ := hc
    by_cases hu : factor.userID = u
    · subst hu
      obtain rfl := Option.mem_unique hcurrent hexisting
      exact absurd (hon.symm.trans hoff) (by simp)
    · exact .inl (hother hu (fun k hk => FMap.get?_set_ne _ _ hk) fun k hk => FMap.get?_set_ne _ _ hk)
  · exact (hdeleted rfl rfl).imp_right .inl
  · next userID codes =>
    by_cases hu : userID = u
    · subst hu
      exact .inr (.inr ⟨codes, rfl, rfl, FMap.getI_of_get? (FMap.get?_set_self ..)⟩)
    · exact .inl (hother hu (fun _ _ => rfl) fun k hk => FMap.get?_set_ne _ _ hk)
  · exact (hdeleted rfl rfl).imp_right .inl
  · exact hwrites.elim

/-! ## What a call does to an active factor -/

/-- `t` has the factor of `u` that `s` has, after the call: the step the call accepts is a later one, and the codes
it leaves unused and the one it accepts were unused before, or are new. -/
structure FactorStep (u : UUID) (s : Store) (c : Call) (t : Store) : Prop where
  active : t.FactorActive u
  later : (s.lastStep u :: acceptedSteps u s c).Pairwise (· < ·)
  recorded : ∀ step ∈ s.lastStep u :: acceptedSteps u s c, step ≤ t.lastStep u
  stock : ∀ digest, (acceptedCodes u s c).count digest + (t.unusedCodes u).count digest
    ≤ (s.unusedCodes u).count digest + (reissuedCodes u s c).count digest

section Steps

variable {u : UUID} {s t : Store} {c : Call}

/-- A call that accepts no step. -/
theorem FactorStep.of_kept (htotp : t.totp.get? u = s.totp.get? u) (hactive : s.FactorActive u)
    (hsteps : acceptedSteps u s c = [])
    (hstock : ∀ digest, (acceptedCodes u s c).count digest + (t.unusedCodes u).count digest
      ≤ (s.unusedCodes u).count digest + (reissuedCodes u s c).count digest) : FactorStep u s c t := by
  obtain ⟨factor, hfactor, hon⟩ := hactive
  have hlast : t.lastStep u = s.lastStep u := by rw [lastStep, lastStep, FMap.getI, FMap.getI, htotp]
  refine ⟨⟨factor, htotp.trans hfactor, hon⟩, ?_, ?_, hstock⟩
  · rw [hsteps]
    exact List.pairwise_singleton _ _
  · intro step hstep
    rw [hsteps, List.mem_singleton] at hstep
    exact (hstep.trans hlast.symm).le

/-- …and no code, and leaves the factor. -/
theorem FactorStep.of_same (h : FactorSame u s t) (hactive : s.FactorActive u) (hsteps : acceptedSteps u s c = [])
    (hcodes : acceptedCodes u s c = []) : FactorStep u s c t := by
  refine .of_kept h.1 hactive hsteps fun digest => ?_
  rw [hcodes, List.count_nil, unusedCodes, h.2, Nat.zero_add]
  exact Nat.le_add_right _ _

theorem factorStep_useTOTP {userID : UUID} {step : Int} (hc : c.method = .useTOTP userID step)
    (hactive : s.FactorActive u) : FactorStep u s c (c.next s) := by
  have hnext : c.next s = ((useTOTP userID step c.ctx c.commit s).finish c.ctx c.commit).2 := by
    rw [Call.next, Call.run, Call.attempt, hc]
    exact Attempt.finish_void ..
  have hcodes : acceptedCodes u s c = [] := by rw [acceptedCodes, hc]
  have hsteps : acceptedSteps u s c = if userID = u ∧ c.usesStep s userID step = .ok true then [step] else [] := by
    rw [acceptedSteps, hc]
  rw [hnext]
  obtain ⟨hanswer, hcore⟩ | ⟨hanswer, factor, at', hfactor, hon, hlater, hfactors⟩ :=
    useTOTP_cases userID step c.ctx c.commit s
  · exact .of_same (.of_sameCore hcore) hactive (by rw [hsteps, if_neg fun h => hanswer h.2]) hcodes
  obtain ⟨htotp, hrecovery⟩ := Prod.mk.inj hfactors
  by_cases hu : userID = u
  · subst hu
    have hlast : s.lastStep userID = factor.lastUsedStep := by rw [lastStep, FMap.getI_of_get? hfactor]
    have hnow : Store.lastStep ((useTOTP userID step c.ctx c.commit s).finish c.ctx c.commit).2 userID = step := by
      rw [lastStep, htotp, FMap.getI_of_get? (FMap.get?_set_self ..)]
    have haccepted : acceptedSteps userID s c = [step] := by rw [hsteps, if_pos ⟨rfl, hanswer⟩]
    refine ⟨⟨_, (congrArg (FMap.get? · userID) htotp).trans (FMap.get?_set_self ..), hon⟩, ?_, ?_, fun digest => ?_⟩
    · rw [haccepted, hlast]
      exact List.pairwise_pair.mpr hlater
    · intro earlier hearlier
      rw [haccepted, hlast] at hearlier
      rw [hnow]
      obtain rfl | rfl := List.mem_pair.mp hearlier
      · exact hlater.le
      · exact le_rfl
    · rw [hcodes, List.count_nil, unusedCodes, hrecovery, Nat.zero_add]
      exact Nat.le_add_right _ _
  · refine .of_same ⟨?_, by rw [hrecovery]⟩ hactive (by rw [hsteps, if_neg fun h => hu h.1]) hcodes
    rw [htotp, FMap.get?_set_ne _ _ (Ne.symm hu)]

theorem factorStep_consumeRecoveryCode {userID : UUID} {digest : Bytes} {usedAt : Time}
    (hc : c.method = .consumeRecoveryCode userID digest usedAt) (hactive : s.FactorActive u) :
    FactorStep u s c (c.next s) := by
  have hnext : c.next s = ((consumeRecoveryCode userID digest usedAt c.ctx c.commit s).finish c.ctx c.commit).2 := by
    rw [Call.next, Call.run, Call.attempt, hc]
    exact Attempt.finish_void ..
  have hsteps : acceptedSteps u s c = [] := by rw [acceptedSteps, hc]
  have hcodes : acceptedCodes u s c
      = if userID = u ∧ c.usesCode s userID digest usedAt = .ok true then [digest] else [] := by
    rw [acceptedCodes, hc]
  rw [hnext]
  obtain ⟨hanswer, hcore⟩ | ⟨hanswer, hunused, hfactors⟩ :=
    consumeRecoveryCode_cases userID digest usedAt c.ctx c.commit s
  · exact .of_same (.of_sameCore hcore) hactive hsteps (by rw [hcodes, if_neg fun h => hanswer h.2])
  obtain ⟨htotp, hrecovery⟩ := Prod.mk.inj hfactors
  by_cases hu : userID = u
  · subst hu
    have haccepted : acceptedCodes userID s c = [digest] := by rw [hcodes, if_pos ⟨rfl, hanswer⟩]
    refine .of_kept (by rw [htotp]) hactive hsteps fun digest' => ?_
    have hcount := (unusedDigests_markUsed usedAt hunused).count_eq digest'
    rw [← List.singleton_append, List.count_append] at hcount
    rw [haccepted, unusedCodes, hrecovery, FMap.getI_of_get? (FMap.get?_set_self ..), ← hcount, unusedCodes]
    exact Nat.le_add_right _ _
  · refine .of_same ⟨by rw [htotp], ?_⟩ hactive hsteps (by rw [hcodes, if_neg fun h => hu h.1])
    rw [hrecovery, FMap.getI, FMap.get?_set_ne _ _ (Ne.symm hu)]
    rfl

theorem factorStep_op {o : Op} (hc : c.method = .op o) (hactive : s.FactorActive u)
    (hkept : u ∈ (c.next s).totp) : FactorStep u s c (c.next s) := by
  have hsteps : acceptedSteps u s c = [] := by rw [acceptedSteps, hc]
  have hcodes : acceptedCodes u s c = [] := by rw [acceptedCodes, hc]
  have hdone := c.steps s
  unfold Call.next at hkept ⊢
  generalize hout : (c.run s).1 = out, (c.run s).2 = t at hdone hkept ⊢
  -- The write of an operation, wherever it stopped.
  have hresult : ∀ {p t : Store}, s.SameCore p → o.mutation.check p = .ok () →
      (o.mutation.result c.commit p).SameCore t → u ∈ t.totp →
      (∀ codes, o = .factor (.replaceRecoveryCodes u codes) → reissuedCodes u s c = unusedDigests codes) →
      FactorStep u s c t := by
    intro p t hp hcheck ht hmem hreissued
    have hpsame : FactorSame u s p := .of_sameCore hp
    have htsame : FactorSame u _ t := .of_sameCore ht
    obtain hsame | hgone | ⟨codes, ho, htotp, hrecovery⟩ := o.factor_result c.commit hcheck (hpsame.active hactive)
    · exact .of_same ((hpsame.trans hsame).trans htsame) hactive hsteps hcodes
    · obtain ⟨factor, hfactor⟩ := FMap.mem_iff_get?.mp hmem
      rw [htsame.1] at hfactor
      exact absurd (FMap.mem_of_get? hfactor) hgone
    · refine .of_kept ((htsame.1.trans htotp).trans hpsame.1) hactive hsteps fun digest => ?_
      rw [hcodes, List.count_nil, hreissued codes ho, Nat.zero_add, unusedCodes, htsame.2, hrecovery]
      exact Nat.le_add_left _ _
  cases hdone with
  | idle _ _ hcore _ _ => exact .of_same (.of_sameCore hcore) hactive hsteps hcodes
  | wrote m p t hm hp _ hcheck hw =>
    rw [hc] at hm
    obtain ⟨⟩ := hm
    refine hresult hp hcheck ?_ hkept ?_
    · rw [Mutation.result_of_ok hw]
      exact t.sameCore_commitAudit _ _
    · rintro codes rfl
      rw [reissuedCodes, hc, hout]
      exact if_pos ⟨rfl, rfl⟩
  | panicked m p t hm hp _ hcheck hw =>
    rw [hc] at hm
    obtain ⟨⟩ := hm
    refine hresult hp hcheck ?_ hkept ?_
    · rw [Mutation.result_of_error hw]
      exact .refl t
    · rintro codes rfl
      cases hw

/-- **One call on an active factor**, if the factor is still there after it. -/
theorem Call.factor_next (hactive : s.FactorActive u) (hkept : u ∈ (c.next s).totp) :
    FactorStep u s c (c.next s) := by
  cases hc : c.method with
  | op o => exact factorStep_op hc hactive hkept
  | useTOTP userID step => exact factorStep_useTOTP hc hactive
  | consumeRecoveryCode userID digest usedAt => exact factorStep_consumeRecoveryCode hc hactive
  | recordLoginFailure | createWorkspaceDomain | claimEmailIssuance | setAuditFailure =>
    refine .of_same ?_ hactive (by rw [acceptedSteps, hc]) (by rw [acceptedCodes, hc])
    refine c.next_preserves s (I := fun t => FactorSame u s t) ?_ ⟨rfl, rfl⟩
    intro m p hm _ _ hp
    rw [hc] at hm
    cases hm
    try exact hp

/-! ## Runs -/

variable {calls : List Call}

/-- **The steps that are accepted ascend** from the last one, as long as the factor is there. -/
theorem pairwise_acceptedSteps (hactive : s.FactorActive u)
    (hkept : Run.Meets Call.next (fun s c => u ∈ (c.next s).totp) s calls) :
    (s.lastStep u :: Run.notes Call.next (acceptedSteps u) s calls).Pairwise (· < ·) := by
  refine Run.pairwise_notes (I := fun s => s.FactorActive u) (fun s => s.lastStep u) ?_ hactive hkept
  intro s c hactive hmem
  have hstep := Call.factor_next hactive hmem
  exact ⟨hstep.active, hstep.later, hstep.recorded⟩

/-- **A recovery code is accepted no more often than it was issued**, as long as the factor is there. -/
theorem count_acceptedCodes_le (hactive : s.FactorActive u)
    (hkept : Run.Meets Call.next (fun s c => u ∈ (c.next s).totp) s calls) (digest : Bytes) :
    (Run.notes Call.next (acceptedCodes u) s calls).count digest
      ≤ (s.unusedCodes u).count digest + (Run.notes Call.next (reissuedCodes u) s calls).count digest := by
  refine Run.count_notes_le (I := fun s => s.FactorActive u) (fun s => s.unusedCodes u) ?_ hactive hkept
  intro s c hactive hmem
  have hstep := Call.factor_next hactive hmem
  exact ⟨hstep.active, hstep.stock digest⟩

end Steps

end Credbound.Memory
