import Credbound.Memory.Frames

/-!
# Memory/Invitations — the terms of an invitation

An invitation is issued by someone, into a workspace and for a role.  It is accepted or revoked, and its
address is erased with the account that accepted it; its **terms** never change (`Call.retells_next`).  A new
one comes with `CreateWorkspaceInvitation` alone, under an identifier that is not in use.
-/

namespace Credbound.Memory

/-- What an invitation is about. -/
structure Terms where
  id : UUID
  invitedBy : UUID
  workspaceID : UUID
  role : Role
deriving DecidableEq

def termsOf (v : WorkspaceInvitation) : Terms := ⟨v.id, v.invitedBy, v.workspaceID, v.role⟩

/-- The terms under an identifier. -/
def Store.terms? (s : Store) (id : UUID) : Option Terms := (s.invitations.get? id).map termsOf

/-- The same invitations, on the same terms. -/
def Retells (p t : Store) : Prop := ∀ id, t.terms? id = p.terms? id

theorem Retells.of_eq {p t : Store} (h : t.invitations = p.invitations) : Retells p t := fun id => by
  rw [Store.terms?, h, Store.terms?]

theorem Retells.trans {p s t : Store} (h : Retells p s) (h' : Retells s t) : Retells p t := fun id =>
  (h' id).trans (h id)

theorem retells_modify {p t : Store} {id : UUID} {f : WorkspaceInvitation → WorkspaceInvitation}
    (ht : t.invitations = p.invitations.modify id f) (hf : ∀ v, termsOf (f v) = termsOf v) : Retells p t := by
  intro id'
  rw [Store.terms?, Store.terms?, ht, FMap.get?_modify]
  split
  · rw [Option.map_map]
    exact congrArg (fun g => Option.map g _) (funext hf)
  · rfl

theorem retells_mapVal {p t : Store} {f : UUID → WorkspaceInvitation → WorkspaceInvitation}
    (ht : t.invitations = p.invitations.mapVal f) (hf : ∀ id v, termsOf (f id v) = termsOf v) : Retells p t := by
  intro id
  rw [Store.terms?, Store.terms?, ht, FMap.get?_mapVal, Option.map_map]
  exact congrArg (fun g => Option.map g _) (funext (hf id))

/-! ## The operations -/

/-- The operations that write invitations. -/
def Op.WritesInvitations : Op → Prop
  | .account (.anonymizeUser ..) => True
  | .workspace (.createWorkspaceInvitation ..) => True
  | .workspace (.acceptWorkspaceInvitation ..) => True
  | .workspace (.revokeWorkspaceInvitation ..) => True
  | .directory (.registerInvitedUser ..) => True
  | _ => False

/-- The others leave them. -/
theorem Op.leaves_invitations (o : Op) (ho : ¬ o.WritesInvitations) :
    o.mutation.Leaves fun s => s.invitations := by
  intro commit p
  have h := o.writes commit p
  rcases o with op | op | op | op | op | op
  all_goals cases op <;> first
    | exact absurd True.intro ho
    | exact (congrArg (fun s : Store => s.invitations) h).trans rfl
    | rfl

/-- The method issues the invitation. -/
def Method.Invites (m : Method) (v : WorkspaceInvitation) : Prop :=
  m = .op (.workspace (.createWorkspaceInvitation v))

/-- **A write keeps the terms of all invitations**, and issues a new one at most. -/
theorem retells_result {m : Method} {v : Mutation} (hv : m.view = some v) (commit : Commit) {p : Store}
    (hcheck : v.check p = .ok ()) :
    Retells p (v.result commit p) ∨ ∃ invitation, m.Invites invitation ∧ invitation.id ∉ p.invitations
        ∧ (v.result commit p).invitations = p.invitations.set invitation.id invitation := by
  cases m with
  | op o =>
    cases hv
    by_cases ho : o.WritesInvitations
    · unfold Op.WritesInvitations at ho
      split at ho
      · next userID at' =>
        obtain ⟨_, _, _, _, _, _, _, h⟩ := result_anonymizeUser userID at' commit p
        have hscrubbed : ((anonymizeUser userID at').result commit p).invitations = p.invitations.mapVal fun id v =>
            if v.acceptedUserID = userID then { v with email := tombstone id } else v :=
          (congrArg (fun s : Store => s.invitations) h).trans rfl
        refine .inl (retells_mapVal hscrubbed fun id v => ?_)
        split <;> rfl
      · next invitation =>
        simp only [Op.mutation, WorkspaceOp.mutation, Memory.createWorkspaceInvitation, check_bind,
          require_eq_ok] at hcheck
        obtain ⟨_, -, _, hnew, -⟩ := hcheck
        exact .inr ⟨invitation, rfl, hnew, rfl⟩
      · exact .inl (retells_modify rfl fun _ => rfl)
      · exact .inl (retells_modify rfl fun _ => rfl)
      · exact .inl (retells_modify rfl fun _ => rfl)
      · exact ho.elim
    · exact .inl (.of_eq (o.leaves_invitations ho commit p))
  | recordLoginFailure | useTOTP | consumeRecoveryCode | createWorkspaceDomain =>
    cases hv
    exact .inl (.of_eq rfl)
  | claimEmailIssuance | setAuditFailure => cases hv

theorem retells_of_sameCore {s t : Store} (h : s.SameCore t) : Retells s t := by
  obtain ⟨_, rfl⟩ := h
  exact .of_eq rfl

/-- The invitation is issued under an identifier that is not in use, and the others are as before. -/
def Adds (invitation : WorkspaceInvitation) (s t : Store) : Prop :=
  s.terms? invitation.id = none
    ∧ ∀ id, t.terms? id = if id = invitation.id then some (termsOf invitation) else s.terms? id

/-- **…and so does a call.** -/
theorem Call.retells_next (c : Call) (s : Store) :
    Retells s (c.next s) ∨ ∃ invitation, c.method.Invites invitation ∧ Adds invitation s (c.next s) := by
  refine Call.next_preserves (I := fun t => Retells s t ∨ ∃ invitation, c.method.Invites invitation
    ∧ Adds invitation s t) c s ?_ (.inl (.of_eq rfl))
  intro m p hm hp hcheck _
  obtain hretells | ⟨invitation, hissues, hnew, hset⟩ := retells_result hm c.commit hcheck
  · exact .inl ((retells_of_sameCore hp).trans hretells)
  · refine .inr ⟨invitation, hissues, ?_, fun id => ?_⟩
    · rw [← retells_of_sameCore hp, Store.terms?, FMap.get?_eq_none.mpr hnew]
      rfl
    · rw [← retells_of_sameCore hp id, Store.terms?, hset, FMap.get?_set]
      split <;> rfl

/-! ## Terms over a run -/

/-- Every invitation is still there, on its terms. -/
def TermsKept (s t : Store) : Prop := ∀ id terms, s.terms? id = some terms → t.terms? id = some terms

theorem TermsKept.refl (s : Store) : TermsKept s s := fun _ _ h => h

theorem TermsKept.trans {s m t : Store} (h : TermsKept s m) (h' : TermsKept m t) : TermsKept s t :=
  fun id terms hs => h' id terms (h id terms hs)

/-- Invitations are filed under their identifiers, and those that `a` issued into `w` are for roles that are
`within`. -/
def Offered (a w : UUID) (within : Role → Prop) (s : Store) : Prop :=
  ∀ id terms, s.terms? id = some terms →
    terms.id = id ∧ (terms.invitedBy = a → terms.workspaceID = w → within terms.role)

theorem Call.offered_next {a w : UUID} {within : Role → Prop} (c : Call) (s : Store)
    (hissues : ∀ v, c.method.Invites v → v.invitedBy = a → v.workspaceID = w → within v.role)
    (hs : Offered a w within s) : Offered a w within (c.next s) := by
  intro id terms hterms
  obtain hretells | ⟨invitation, hissued, -, hnext⟩ := c.retells_next s
  · exact hs id terms ((hretells id).symm.trans hterms)
  · rw [hnext] at hterms
    split at hterms
    · next hid =>
      obtain ⟨⟩ := hterms
      exact ⟨hid.symm, hissues invitation hissued⟩
    · exact hs id terms hterms

/-- A new invitation takes no other's place. -/
theorem Call.termsKept_next (c : Call) (s : Store) : TermsKept s (c.next s) := by
  intro id terms hs
  obtain hretells | ⟨invitation, -, hnew, hnext⟩ := c.retells_next s
  · exact (hretells id).trans hs
  · have hne : id ≠ invitation.id := by
      rintro rfl
      rw [hnew] at hs
      cases hs
    rw [hnext, if_neg hne, hs]

end Credbound.Memory
