import Credbound.Machinery.Lineage
import Credbound.Memory.Issued

/-!
# Memory/Families — the families of refresh tokens

A refresh token that has been used names the token that replaced it.  `Call.refreshEffect` says what a
call can do to refresh tokens: it revokes some of them at most, or it starts a family, or it replaces
a token that is live.  From this, the tokens of every family form one lineage, in the order they were
issued in (`family_lineage`), and a family without a live token has none ever after
(`Call.keeps_familyEnded`).

The store checks neither that the identifier of a new token is new nor that its family is
(`Method.FreshRefresh`), nor that the token has not been used (`Method.AddsUnused`).
-/

namespace Credbound.Memory

open Store

abbrev RefreshTokens := FMap UUID OAuthRefreshToken

/-- The token that replaced a used one. -/
def successor (v : OAuthRefreshToken) : Option UUID := v.usedAt.map fun _ => v.replacedByID

/-- Neither used nor revoked. -/
def Live (v : OAuthRefreshToken) : Prop := v.usedAt = none ∧ v.revokedAt = none

/-- The tokens of the family, newest first, are `ids`, each used and replaced by the one before. -/
abbrev FamilyLineage (tokens : RefreshTokens) (familyID : UUID) (ids : List UUID) : Prop :=
  Lineage OAuthRefreshToken.familyID successor tokens familyID ids

/-! ## The refresh tokens a call issues -/

/-- The refresh token a method adds. -/
def Method.refreshToken? : Method → Option OAuthRefreshToken
  | .op (.oauth (.consumeOAuthAuthorizationCode _ _ _ refresh)) => refresh
  | .op (.oauth (.rotateOAuthRefreshToken _ _ _ refresh)) => some refresh
  | _ => none

/-- The identifiers of a token that is added are new: its own, and that of a family it starts. -/
def Method.FreshRefresh (tokens : RefreshTokens) : Method → Prop
  | .op (.oauth (.consumeOAuthAuthorizationCode _ _ _ (some refresh))) =>
      refresh.id ∉ tokens ∧ tokens.All fun _ v => v.familyID ≠ refresh.familyID
  | .op (.oauth (.rotateOAuthRefreshToken _ _ _ refresh)) => refresh.id ∉ tokens
  | _ => True

/-- A token that is added has not been used. -/
def Method.AddsUnused (m : Method) : Prop := ∀ refresh ∈ m.refreshToken?, refresh.usedAt = none

/-- The refresh token a call has issued, once it has returned. -/
def Call.issuedRefresh (c : Call) (s : Store) : List OAuthRefreshToken :=
  match (c.run s).1 with
  | .ok _ => c.method.refreshToken?.toList
  | _ => []

/-- One call, and the refresh tokens issued so far, newest first. -/
def Call.issue (x : Store × List OAuthRefreshToken) (c : Call) : Store × List OAuthRefreshToken :=
  (c.next x.1, c.issuedRefresh x.1 ++ x.2)

/-- The refresh tokens that the calls have issued, newest first. -/
def issuedRefreshTokens (calls : List Call) : List OAuthRefreshToken :=
  (Run.run Call.issue (Store.new, []) calls).2

/-- The tokens of a family among those issued. -/
def familyOf (familyID : UUID) (issued : List OAuthRefreshToken) : List UUID :=
  (issued.filter fun token => token.familyID = familyID).map OAuthRefreshToken.id

/-! ## What a call does to refresh tokens -/

/-- **What a write does to refresh tokens.** -/
inductive RefreshEffect (p : RefreshTokens) : Method → RefreshTokens → Prop
  | revokes (m : Method) (t : RefreshTokens) (hm : m.refreshToken? = none)
      (ht : FMap.Related RefreshStamped p t) : RefreshEffect p m t
  | starts (codeID : UUID) (usedAt : Time) (access : OAuthAccessToken) (refresh : OAuthRefreshToken) :
      RefreshEffect p (.op (.oauth (.consumeOAuthAuthorizationCode codeID usedAt access (some refresh))))
        (p.set refresh.id refresh)
  | replaces (previousID : UUID) (usedAt : Time) (access : OAuthAccessToken)
      (refresh previous : OAuthRefreshToken) (hprevious : p.get? previousID = some previous)
      (hlive : Live previous) (hfamily : previous.familyID = refresh.familyID) :
      RefreshEffect p (.op (.oauth (.rotateOAuthRefreshToken previousID usedAt access refresh)))
        ((p.modify previousID fun v =>
          { v with usedAt := some usedAt, replacedByID := refresh.id }).set refresh.id refresh)

variable {familyID : UUID} {p t : RefreshTokens} {m : Method}

theorem Method.refreshToken?_of_not_issues (h : ¬ m.Issues) : m.refreshToken? = none := by
  unfold refreshToken?
  split
  · exact absurd (.exchange _ _ _ _) h
  · exact absurd (.rotation _ _ _ _) h
  · rfl

theorem Method.refreshEffect {v : Mutation} (hv : m.view = some v) {p : Store} (hcheck : v.check p = .ok ())
    (commit : Commit) :
    RefreshEffect p.oauthRefreshTokens m (v.result commit p).oauthRefreshTokens := by
  by_cases hissues : m.Issues
  · cases hissues with
    | grant grant code =>
      obtain ⟨⟩ := hv
      exact .revokes _ _ rfl (.refl .refl _)
    | exchange codeID usedAt access refresh =>
      obtain ⟨⟩ := hv
      cases refresh with
      | none => exact .revokes _ _ rfl (.refl .refl _)
      | some refresh => exact .starts codeID usedAt access refresh
    | rotation previousID usedAt access refresh =>
      obtain ⟨⟩ := hv
      simp only [Op.mutation, OAuthOp.mutation, rotateOAuthRefreshToken, check_bind, find_eq_ok,
        require_eq_ok] at hcheck
      obtain ⟨previous, hprevious, _, hlive, _, ⟨hfamily, -⟩, -⟩ := hcheck
      have hunused : Live previous := by
        push Not at hlive
        exact ⟨hlive.1, hlive.2.1⟩
      exact .replaces previousID usedAt access refresh previous hprevious hunused hfamily
  · exact .revokes m _ (refreshToken?_of_not_issues hissues) (Method.revokes hv hissues commit p).refresh

theorem Store.SameCore.oauthRefreshTokens_eq {s t : Store} (h : s.SameCore t) :
    t.oauthRefreshTokens = s.oauthRefreshTokens := by
  obtain ⟨_, rfl⟩ := h
  rfl

/-- **What a call does to refresh tokens**: as its write does, with the token it adds issued, or it
revokes some at most and issues none. -/
theorem Call.refreshEffect (c : Call) (s : Store) :
    (FMap.Related RefreshStamped s.oauthRefreshTokens (c.next s).oauthRefreshTokens ∧ c.issuedRefresh s = [])
    ∨ (RefreshEffect s.oauthRefreshTokens c.method (c.next s).oauthRefreshTokens
      ∧ c.issuedRefresh s = c.method.refreshToken?.toList) := by
  have h := c.steps s
  unfold Call.next Call.issuedRefresh
  revert h
  generalize (c.run s).1 = o, (c.run s).2 = t'
  rintro (⟨_, _, hcore, -, ho⟩ | ⟨v, p, t, hv, hp, -, hc, hw⟩ | ⟨v, p, t, hv, hp, -, hc, hw⟩)
  · refine .inl ⟨hcore.oauthRefreshTokens_eq ▸ .refl .refl _, ?_⟩
    match o, ho with
    | .ok _, ho =>
      cases hm : c.method with
      | op op => exact absurd rfl (ho op hm)
      | _ => rfl
    | .err _, _ => rfl
    | .panic, _ => rfl
  · have heffect := Method.refreshEffect hv hc c.commit
    rw [Mutation.result_of_ok hw, hp.oauthRefreshTokens_eq] at heffect
    rw [(t.sameCore_commitAudit _ _).oauthRefreshTokens_eq]
    exact .inr ⟨heffect, rfl⟩
  · have heffect := Method.refreshEffect hv hc c.commit
    rw [Mutation.result_of_error hw, hp.oauthRefreshTokens_eq] at heffect
    refine .inl ⟨?_, rfl⟩
    -- The two methods that add a refresh token do not panic.
    generalize c.method = method, t'.oauthRefreshTokens = tokens at hv heffect ⊢
    cases heffect with
    | revokes _ _ _ ht => exact ht
    | starts | replaces =>
      obtain ⟨⟩ := hv
      cases hw

/-! ## Lineages -/

theorem familyOf_cons_self {token : OAuthRefreshToken} (h : token.familyID = familyID)
    (issued : List OAuthRefreshToken) :
    familyOf familyID (token :: issued) = token.id :: familyOf familyID issued := by
  rw [familyOf, List.filter_cons_of_pos (by simpa using h), List.map_cons, familyOf]

theorem familyOf_cons_ne {token : OAuthRefreshToken} (h : token.familyID ≠ familyID) (issued : List OAuthRefreshToken) :
    familyOf familyID (token :: issued) = familyOf familyID issued := by
  rw [familyOf, List.filter_cons_of_neg (by simpa using h), familyOf]

theorem successor_of_stamped {v w : OAuthRefreshToken} (h : RefreshStamped v w) :
    w.familyID = v.familyID ∧ successor w = successor v := by
  have hfamily := congrArg OAuthRefreshToken.familyID h.1
  have hnext := congrArg successor h.1
  exact ⟨hfamily, hnext⟩

theorem RefreshEffect.familyLineage (h : RefreshEffect p m t) (hfresh : m.FreshRefresh p) (hunused : m.AddsUnused)
    {issued : List OAuthRefreshToken} (hp : ∀ familyID, FamilyLineage p familyID (familyOf familyID issued))
    (familyID : UUID) :
    FamilyLineage t familyID (familyOf familyID (m.refreshToken?.toList ++ issued)) := by
  cases h with
  | revokes _ _ hm ht =>
    rw [hm]
    exact (hp familyID).of_related ht fun _ _ => successor_of_stamped
  | starts codeID usedAt access refresh =>
    obtain ⟨hid, hnew⟩ := hfresh
    have hnext : successor refresh = none := congrArg (Option.map _) (hunused refresh rfl)
    by_cases hfamily : refresh.familyID = familyID
    · exact familyOf_cons_self hfamily issued ▸ (hp familyID).start hnew hfamily hnext
    · exact familyOf_cons_ne hfamily issued ▸ (hp familyID).set_other hid hfamily
  | replaces previousID usedAt access refresh previous hprevious hlive hsame =>
    have hnext : successor refresh = none := congrArg (Option.map _) (hunused refresh rfl)
    have hlast : successor previous = none := congrArg (Option.map _) hlive.1
    by_cases hfamily : refresh.familyID = familyID
    · have hprevfamily := hsame.trans hfamily
      exact familyOf_cons_self hfamily issued ▸
        (hp familyID).replace hprevious hprevfamily hlast hprevfamily rfl hfresh hfamily hnext
    · have hother : previous.familyID ≠ familyID := fun h => hfamily (hsame.symm.trans h)
      refine familyOf_cons_ne hfamily issued ▸
        ((hp familyID).modify_other hprevious hother rfl).set_other (fun hmem => hfresh ?_) hfamily
      exact FMap.mem_modify.mp hmem

/-- The guard of a run of calls whose refresh tokens are new and unused. -/
def Call.IssuesNew (s : Store) (c : Call) : Prop :=
  c.method.FreshRefresh s.oauthRefreshTokens ∧ c.method.AddsUnused

/-- **The tokens of a family are one lineage**, in the order they were issued in. -/
theorem family_lineage {calls : List Call} (h : Run.Meets Call.next Call.IssuesNew Store.new calls)
    (familyID : UUID) : FamilyLineage (Store.after calls).oauthRefreshTokens familyID
      (familyOf familyID (issuedRefreshTokens calls)) := by
  have hstate : (Run.run Call.issue (Store.new, []) calls).1 = Store.after calls :=
    Run.run_map Prod.fst (fun _ _ => rfl) _ calls
  rw [← hstate]
  have hnew : ∀ familyID, FamilyLineage Store.new.oauthRefreshTokens familyID [] := fun _ => .empty
  have hmeets : Run.Meets Call.issue (fun x c => Call.IssuesNew x.1 c) (Store.new, []) calls :=
    Run.Meets.of_map Prod.fst (fun _ _ => rfl) h
  refine Run.invariant (I := fun x : Store × List OAuthRefreshToken => ∀ familyID,
    FamilyLineage x.1.oauthRefreshTokens familyID (familyOf familyID x.2)) (fun x c hx hguard => ?_) hnew hmeets familyID
  obtain ⟨hrelated, hissued⟩ | ⟨heffect, hissued⟩ := c.refreshEffect x.1
  · intro familyID
    rw [Call.issue, hissued]
    exact (hx familyID).of_related hrelated fun _ _ => successor_of_stamped
  · rw [Call.issue, hissued]
    exact heffect.familyLineage hguard.1 hguard.2 hx

/-! ## Families without a live token -/

/-- The family has tokens, and none of them is live. -/
def FamilyEnded (tokens : RefreshTokens) (familyID : UUID) : Prop :=
  tokens.Any (fun _ v => v.familyID = familyID)
    ∧ tokens.All fun _ v => v.familyID = familyID → ¬ Live v

theorem live_of_stamped {v w : OAuthRefreshToken} (h : RefreshStamped v w) (hw : Live w) : Live v := by
  have hused := congrArg OAuthRefreshToken.usedAt h.1
  exact ⟨hused.symm.trans hw.1, by_contra fun hv => h.2 hv hw.2⟩

theorem FamilyEnded.of_related (hp : FamilyEnded p familyID) (h : FMap.Related RefreshStamped p t) :
    FamilyEnded t familyID := by
  obtain ⟨⟨id, v, hv, hfamily⟩, hended⟩ := hp
  constructor
  · obtain ⟨w, hw, hvw⟩ := h.get? hv
    exact ⟨id, w, hw, (successor_of_stamped hvw).1.trans hfamily⟩
  · intro id w hw hfamily hlive
    obtain ⟨v, hv, hvw⟩ := h.of_get? hw
    exact hended id v hv ((successor_of_stamped hvw).1.symm.trans hfamily) (live_of_stamped hvw hlive)

/-- A token of another family is added. -/
theorem FamilyEnded.set_other {p : RefreshTokens} {familyID id : UUID} {v : OAuthRefreshToken}
    (hp : FamilyEnded p familyID) (hid : id ∉ p) (hv : v.familyID ≠ familyID) :
    FamilyEnded (p.set id v) familyID := by
  obtain ⟨⟨id', w, hw, hfamily⟩, hended⟩ := hp
  exact ⟨⟨id', w, FMap.get?_set_new hid hw, hfamily⟩, FMap.All.set hended fun hfamily => absurd hfamily hv⟩

theorem RefreshEffect.familyEnded (h : RefreshEffect p m t) (hfresh : m.FreshRefresh p) (hp : FamilyEnded p familyID) :
    FamilyEnded t familyID := by
  cases h with
  | revokes _ _ _ ht => exact hp.of_related ht
  | starts codeID usedAt access refresh =>
    obtain ⟨hid, hnew⟩ := hfresh
    obtain ⟨id, v, hv, hfamily⟩ := hp.1
    refine hp.set_other hid fun h => hnew id v hv (hfamily.trans h.symm)
  | replaces previousID usedAt access refresh previous hprevious hlive hsame =>
    -- The token that is replaced is live, so its family is another one.
    have hother : previous.familyID ≠ familyID := fun h => hp.2 previousID previous hprevious h hlive
    have hmodified : FamilyEnded (p.modify previousID fun v =>
        { v with usedAt := some usedAt, replacedByID := refresh.id }) familyID := by
      obtain ⟨⟨id, v, hv, hfamily⟩, hended⟩ := hp
      refine ⟨⟨id, v, ?_, hfamily⟩, hended.modify _ fun v hv hfamily hlive => ?_⟩
      · rw [FMap.get?_modify, if_neg, hv]
        rintro rfl
        obtain rfl := Option.mem_unique hprevious hv
        exact hother hfamily
      · cases hlive.1
    exact hmodified.set_other (fun hmem => hfresh (FMap.mem_modify.mp hmem)) fun h => hother (hsame.trans h)

/-- **A family without a live token stays so.** -/
theorem Call.keeps_familyEnded (c : Call) (s : Store) (hguard : c.IssuesNew s)
    (hs : FamilyEnded s.oauthRefreshTokens familyID) :
    FamilyEnded (c.next s).oauthRefreshTokens familyID := by
  obtain ⟨hrelated, -⟩ | ⟨heffect, -⟩ := c.refreshEffect s
  · exact hs.of_related hrelated
  · exact heffect.familyEnded hguard.1 hs

/-- A committed `RevokeOAuthRefreshFamily` ends the family. -/
theorem familyEnded_of_revoke {at' : Time} {commit : Commit} {ctx : Context} {s : Store}
    (h : (Call.run ⟨.op (.oauth (.revokeOAuthRefreshFamily familyID at')), commit, ctx⟩ s).1 = .ok ()) :
    FamilyEnded (Call.next s
      ⟨.op (.oauth (.revokeOAuthRefreshFamily familyID at')), commit, ctx⟩).oauthRefreshTokens familyID := by
  obtain ⟨p, t, -, hcheck, hwrite, hcore⟩ := Call.run_ok h
  obtain ⟨id, v, hv, hfamily⟩ : p.oauthRefreshTokens.Any fun _ v => v.familyID = familyID :=
    require_eq_ok.mp hcheck
  obtain ⟨⟩ := hwrite
  rw [hcore.oauthRefreshTokens_eq]
  constructor
  · refine ⟨id, _, (FMap.get?_mapVal _ _ _).trans (congrArg _ hv), ?_⟩
    dsimp only
    split
    · exact hfamily
    · exact hfamily
  · refine FMap.All.mapVal (p := fun _ _ => True) (fun _ _ _ => trivial) fun id v _ => ?_
    split
    next => exact fun _ hlive => absurd hlive.2 (Option.some_ne_none _)
    next hkept => exact fun hfamily hlive => hkept ⟨hfamily, hlive.2⟩

end Credbound.Memory
