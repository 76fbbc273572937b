import Credbound.Machinery.Registry
import Credbound.Memory.Owners

/-!
# Memory/Tokens — tokens and sessions keep their owner, and stay revoked

A personal access token and a session are stored under their identifier, which is new; no method removes
one, gives it to another user or takes its revocation back (`Call.tokensGrow`).
-/

namespace Credbound.Memory

open Registry Store

/-- What a personal access token and a session have in common. -/
structure Token where
  id : UUID
  userID : UUID
  revokedAt : Option Time

/-- The same token, later. -/
structure Token.Later (v v' : Token) : Prop where
  id : v'.id = v.id
  userID : v'.userID = v.userID
  revoked : v.revokedAt ≠ none → v'.revokedAt ≠ none

theorem Token.Later.refl (v : Token) : v.Later v := ⟨rfl, rfl, fun h => h⟩

theorem Token.Later.trans {a b c : Token} (h : a.Later b) (h' : b.Later c) : a.Later c :=
  ⟨h'.id.trans h.id, h'.userID.trans h.userID, h'.revoked ∘ h.revoked⟩

end Credbound.Memory

namespace Credbound

def PAT.token (v : PAT) : Memory.Token := ⟨v.id, v.userID, v.revokedAt⟩

def Session.token (v : Session) : Memory.Token := ⟨v.id, v.userID, v.revokedAt⟩

end Credbound

namespace Credbound.Memory

open Registry Store

/-- A map of tokens has grown. -/
def TokensIn {V : Type} (token : V → Token) (m m' : FMap UUID V) : Prop :=
  Grows (fun v => (token v).id) (fun v v' => (token v).Later (token v')) m m'

/-- The tokens and sessions of `p` are in `t`, and what the index of `t` has beside that of `p` leads to
a token. -/
structure TokensGrow (p t : Store) : Prop where
  pats : TokensIn PAT.token p.pats t.pats
  sessions : TokensIn Session.token p.sessions t.sessions
  prefixes : ∀ pfx id, t.patPrefixes.get? pfx = some id → p.patPrefixes.get? pfx = some id ∨ id ∈ t.pats

namespace TokensIn

variable {V : Type} {token : V → Token} {m m' m'' : FMap UUID V}

theorem refl : TokensIn token m m := .of_eq (fun _ => .refl _) rfl

theorem of_eq (h : m' = m) : TokensIn token m m' := Grows.of_eq (fun _ => .refl _) h

theorem trans (h : TokensIn token m m') (h' : TokensIn token m' m'') : TokensIn token m m'' :=
  Grows.trans (fun _ _ _ => .trans) h h'

theorem map {f : UUID → V → V} (hf : ∀ k v, (token v).Later (token (f k v))) :
    TokensIn token m (m.mapVal f) :=
  Grows.map (fun k v => (hf k v).id) hf

theorem change (k : UUID) {f : V → V} (hf : ∀ v, (token v).Later (token (f v))) :
    TokensIn token m (m.modify k f) :=
  Grows.change k (fun _ => .refl _) (fun v => (hf v).id) hf

theorem create (v : V) (hnew : (token v).id ∉ m) : TokensIn token m (m.set (token v).id v) :=
  Grows.create (fun _ => .refl _) v hnew

theorem mem (h : TokensIn token m m') {id : UUID} (hid : id ∈ m) : id ∈ m' := by
  obtain ⟨v, hv⟩ := FMap.mem_iff_get?.mp hid
  obtain ⟨v', hv', -⟩ := h.kept id v hv
  exact FMap.mem_of_get? hv'

end TokensIn

namespace TokensGrow

variable {p t s : Store}

theorem refl (p : Store) : TokensGrow p p := ⟨.refl, .refl, fun _ _ h => .inl h⟩

theorem trans (h : TokensGrow p t) (h' : TokensGrow t s) : TokensGrow p s := by
  refine ⟨h.pats.trans h'.pats, h.sessions.trans h'.sessions, fun pfx id hid => ?_⟩
  obtain hid | hid := h'.prefixes pfx id hid
  · exact (h.prefixes pfx id hid).imp_right h'.pats.mem
  · exact .inr hid

section

variable (h : TokensGrow p s)

include h

theorem of_held (heq : t.held = s.held) : TokensGrow p t := by
  have hprefixes : t.patPrefixes = s.patPrefixes := congrArg (·.2.2.2.2.2.2.2) heq
  exact h.trans ⟨.of_eq (congrArg (·.2.2.2.1) heq), .of_eq (congrArg (·.2.2.2.2.1) heq),
    fun _ _ hid => .inl (hprefixes ▸ hid)⟩

/-- A change of the tokens that are there. -/
theorem change_pats {pats : FMap UUID PAT} (hpats : TokensIn PAT.token s.pats pats) :
    TokensGrow p { s with pats := pats } :=
  h.trans ⟨hpats, .refl, fun _ _ hid => .inl hid⟩

theorem map_pats {f : UUID → PAT → PAT} (hf : ∀ k v, (PAT.token v).Later (f k v).token) :
    TokensGrow p { s with pats := s.pats.mapVal f } := h.change_pats (.map hf)

theorem map_sessions {f : UUID → Session → Session}
    (hf : ∀ k v, (Session.token v).Later (f k v).token) : TokensGrow p { s with sessions := s.sessions.mapVal f } :=
  { h with sessions := h.sessions.trans (.map hf) }

theorem revokeCredentials (userID workspaceID : UUID) (at' : Time) :
    TokensGrow p (s.revokeUserCredentialsLocked userID workspaceID at') := by
  refine (h.map_pats (f := fun _ v => if InScope userID workspaceID v.userID v.workspaceID
    ∧ v.revokedAt = none then { v with revokedAt := some at' } else v) fun k v => ?_).of_held rfl
  split
  · exact ⟨rfl, rfl, fun _ => Option.some_ne_none at'⟩
  · exact .refl _

theorem revokeSessions (userID : UUID) (at' : Time) :
    TokensGrow p (s.revokeUserSessionsLocked userID at') := by
  refine h.map_sessions fun k v => ?_
  split
  · exact ⟨rfl, rfl, fun _ => Option.some_ne_none at'⟩
  · exact .refl _

theorem scrub (userID : UUID) : TokensGrow p (s.scrub userID) := by
  have hpats : ∀ (_ : UUID) (v : PAT), v.token.Later
      (if v.userID = userID then { v with name := "" } else v).token := by
    intro _ v
    split <;> exact ⟨rfl, rfl, fun h => h⟩
  have hsessions : ∀ (_ : UUID) (v : Session), v.token.Later
      (if v.userID = userID then { v with userAgent := "", ipAddress := "" } else v).token := by
    intro _ v
    split <;> exact ⟨rfl, rfl, fun h => h⟩
  have hmapped := (h.map_pats hpats).map_sessions hsessions
  exact { hmapped with }

end

theorem of_withdraws (h : p.Withdraws t) : TokensGrow p t := by
  induction h with
  | refl => exact .refl p
  | other _ hheld _ ih => exact ih.of_held hheld
  | credentials _ userID workspaceID at' ih => exact ih.revokeCredentials userID workspaceID at'
  | sessions _ userID at' ih => exact ih.revokeSessions userID at'
  | scrub _ userID ih => exact ih.scrub userID

end TokensGrow

/-! ## One theorem per area -/

section Areas

variable {p : Store} (commit : Commit)

theorem FactorOp.tokensGrow (op : FactorOp) (hc : op.mutation.check p = .ok ()) :
    TokensGrow p (op.mutation.result commit p) := by
  have hp := TokensGrow.refl p
  cases op with
  | resetSecondFactor userID at' => exact { hp.revokeSessions userID at' with }
  | createPAT pat =>
    simp only [FactorOp.mutation, Memory.createPAT, check_bind, require_eq_ok] at hc
    obtain ⟨_, hnew, -⟩ := hc
    refine { hp with pats := .create pat hnew, prefixes := fun pfx id hid => ?_ }
    obtain ⟨rfl, rfl⟩ | ⟨-, hid⟩ := FMap.get?_set_eq_some.mp hid
    · exact .inr (FMap.mem_of_get? (FMap.get?_set_self p.pats pat.id pat))
    · exact .inl hid
  | touchPAT id usedAt =>
    have hchange := hp.change_pats (.change id (f := fun v => { v with lastUsedAt := some usedAt })
      fun v => ⟨rfl, rfl, fun h => h⟩)
    exact hchange.of_held rfl
  | revokePAT userID id revokedAt =>
    exact hp.change_pats (.change id fun v => ⟨rfl, rfl, fun _ => Option.some_ne_none revokedAt⟩)
  | createSession session credentialDigest =>
    simp only [FactorOp.mutation, Memory.createSession, check_bind, require_eq_ok] at hc
    obtain ⟨_, hnew, -⟩ := hc
    exact { hp with sessions := .create session hnew }
  | touchSession id at' => exact { hp with sessions := .change id fun v => ⟨rfl, rfl, fun h => h⟩ }
  | revokeSession id at' =>
    refine { hp with sessions := .change id fun v => ?_ }
    split
    · exact ⟨rfl, rfl, fun _ => Option.some_ne_none at'⟩
    · exact .refl _
  | revokeUserSessions userID at' => exact hp.revokeSessions userID at'
  | _ => exact { hp with }

theorem DirectoryOp.tokensGrow (op : DirectoryOp) : TokensGrow p (op.mutation.result commit p) := by
  have hp := TokensGrow.refl p
  have h := (Op.directory op).writes commit p
  cases op with
  | linkSSO identity =>
    simp only [DirectoryOp.mutation, Memory.linkSSO, Mutation.result, reached]
    split <;> exact { hp with }
  | updateSCIMConfiguration | upsertSCIMGroup | deleteSCIMGroup =>
    exact hp.of_held ((congrArg Store.held h).trans rfl)
  | updateSCIMUser link membership revokeWorkspacePATs =>
    obtain ⟨_, f, hf, h⟩ := result_updateSCIMUser link membership revokeWorkspacePATs commit p
    refine (congrArg (TokensGrow p ·) h).mpr ((hp.map_pats fun k v => ?_).of_held rfl)
    obtain heq | ⟨at', heq⟩ := hf k v <;> rw [heq]
    · exact .refl _
    · exact ⟨rfl, rfl, fun _ => Option.some_ne_none at'⟩
  | _ => exact { hp with }

end Areas

/-! ## Runs -/

/-- **One step** keeps every token and session. -/
theorem Method.tokensGrow {m : Method} {v : Mutation} (hv : m.view = some v) (commit : Commit) {p : Store}
    (hc : v.check p = .ok ()) : TokensGrow p (v.result commit p) := by
  cases m with
  | op o =>
    obtain rfl : o.mutation = v := Option.some.inj hv
    cases o with
    | account op => exact { TokensGrow.of_withdraws (op.withdraws commit p) with }
    | email op => cases op <;> exact { TokensGrow.refl p with }
    | factor op => exact op.tokensGrow commit hc
    | workspace op => exact .of_withdraws (op.withdraws commit p)
    | directory op => exact op.tokensGrow commit
    | oauth op => exact (TokensGrow.refl p).of_held (congrArg (·.2.1) (op.leaves commit p))
  | recordLoginFailure | useTOTP | consumeRecoveryCode | createWorkspaceDomain =>
    cases hv
    exact { TokensGrow.refl p with }
  | claimEmailIssuance | setAuditFailure => cases hv

/-- **A call keeps every token and session.** -/
theorem Call.tokensGrow (s : Store) (c : Call) : TokensGrow s (c.next s) :=
  c.next_preserves s (I := fun t => TokensGrow s t)
    (fun _ _ hv _ hc hp => hp.trans (Method.tokensGrow hv c.commit hc)) (.refl s)

/-- Tokens and sessions are filed under their identifier, and the index leads to tokens. -/
structure TokensFiled (s : Store) : Prop where
  pats : Filed PAT.id s.pats
  sessions : Filed Session.id s.sessions
  prefixes : s.patPrefixes.All fun _ id => id ∈ s.pats

theorem TokensFiled.next (s : Store) (c : Call) (hs : TokensFiled s) : TokensFiled (c.next s) := by
  have hgrow := c.tokensGrow s
  refine ⟨hgrow.pats.filed hs.pats, hgrow.sessions.filed hs.sessions, fun pfx id hid => ?_⟩
  obtain hid | hid := hgrow.prefixes pfx id hid
  · exact hgrow.pats.mem (hs.prefixes pfx id hid)
  · exact hid

theorem tokensFiled_after (calls : List Call) : TokensFiled (Store.after calls) :=
  Run.always (s := Store.new) TokensFiled.next ⟨FMap.All.empty, FMap.All.empty, FMap.All.empty⟩ calls

end Credbound.Memory
