import Credbound.OAuthClientAdapter.Verifier

/-!
# OAuthClientAdapter/SingleUse — an assertion is accepted once

Calls of `Verify` run side by side with the clock and the network.  The expiry of an assertion is tested when the
verification starts, and the replay store forgets an entry when its clock, read after the keys were found, has come to
the expiry.

* `succeeds_once` — if every use of an identifier takes the lock before the assertions with it expire, at most one
  call succeeds for a client and an identifier.
* `succeeds_twice` — a download that ends after the expiry lets a second call succeed.
-/

namespace Credbound.OAuthClientAdapter

open Procedure

/-! ## The calls side by side -/

/-- What happens besides the calls: time passes, and the network changes. -/
inductive Event
  | tick (length : Nat)
  | network (answers : String → Except Err Bytes)

def Shared.happens (s : Shared) : Event → Shared
  | .tick length => { s with clock := s.clock + length }
  | .network answers => { s with network := answers }

abbrev Verifying := Pool Access Shared (Except Err Unit)

abbrev Verifying.step : Verifying → Pool.Label Event → Verifying := Pool.step access Shared.happens

/-- The calls before their first access. -/
def Verifying.start (v : JWTAssertionVerifier) (calls : List VerifyCall) (s : Shared) : Verifying :=
  ⟨s, calls.map fun c => (v.verify c).program⟩

/-- The call at `i` has succeeded. -/
def Verifying.Succeeded (pool : Verifying) (i : Nat) : Prop := pool.threads[i]? = some (.ret (.ok ()))

/-- The assertions that are presented with a client and an identifier expire later than the clock. -/
def Fresh (v : JWTAssertionVerifier) (calls : List VerifyCall) (clientID jwtID : String) (s : Shared) : Prop :=
  ∀ c ∈ calls, ∀ a ∈ v.parseAssertion c.assertion, c.client.clientID = clientID → a.claims.jwtID = jwtID →
    s.clock < unixTime a.claims.expiresAt

/-- An identifier is used only as long as the assertions with it are fresh. -/
def UsesFresh (v : JWTAssertionVerifier) (calls : List VerifyCall) : ⦃β : Type⦄ → Access β → Shared → Prop
  | _, .use clientID jwtID _ _, s => Fresh v calls clientID jwtID s
  | _, _, _ => True

/-- The next step is in time: a call takes the lock of the replay store before the assertion expires. -/
def InTime (v : JWTAssertionVerifier) (calls : List VerifyCall) : Verifying → Pool.Label Event → Prop :=
  Pool.Allows (fun _ => UsesFresh v calls) fun _ _ => True

/-! ## The clock and the entries -/

theorem clock_access ⦃β : Type⦄ (e : Access β) (s : Shared) : s.clock ≤ (access e s).2.clock := by
  cases e with
  | use clientID jwtID now expiresAt =>
    unfold access Shared.use
    dsimp only
    split <;> exact le_rfl
  | _ => exact le_rfl

theorem clock_happens (s : Shared) (l : Event) : s.clock ≤ (s.happens l).clock := by
  cases l with
  | tick length => exact le_add_of_nonneg_right (Int.natCast_nonneg length)
  | network answers => exact le_rfl

section Entries

variable {s : Shared} {clientID jwtID : String} {now expiry expiresAt : Time}

theorem mem_prune {key : String} (h : s.entries.get? key = some expiry) (hnow : now < expiry) :
    (prune s.entries now).get? key = some expiry := by
  rw [prune, FMap.get?_filter, h]
  simp [Option.filter, hnow]

/-- A use that succeeds leaves an entry. -/
theorem entry_of_use (h : (s.use clientID jwtID now expiresAt).1 = true) :
    (s.use clientID jwtID now expiresAt).2.entries.get? (replayKey clientID jwtID) = some expiresAt := by
  unfold Shared.use at h ⊢
  dsimp only at h ⊢
  split at h
  · cases h
  · rw [if_neg ‹_›]
    exact FMap.get?_set_self ..

/-- An entry that has not expired stays. -/
theorem entry_use {key : String} (h : s.entries.get? key = some expiry) (hnow : now < expiry) :
    (s.use clientID jwtID now expiresAt).2.entries.get? key = some expiry := by
  have hkept := mem_prune h hnow
  unfold Shared.use
  dsimp only
  split
  · exact hkept
  · exact FMap.get?_set_new ‹_› hkept

/-- …and refuses the next use. -/
theorem refused_of_entry (h : s.entries.get? (replayKey clientID jwtID) = some expiry) (hnow : now < expiry) :
    (s.use clientID jwtID now expiresAt).1 = false := by
  unfold Shared.use
  dsimp only
  rw [if_pos (FMap.mem_of_get? (mem_prune h hnow))]

end Entries

/-! ## What a call does -/

/-- The clock answers with a time before `expiry`. -/
def Before (expiry : Time) : ⦃β : Type⦄ → Access β → β → Prop
  | _, .now, now => now < expiry
  | _, _, _ => True

/-- A use is made with such a time. -/
def UsesBefore (expiry : Time) : ⦃β : Type⦄ → Access β → Prop
  | _, .use _ _ now _ => now < expiry
  | _, _ => True

theorem emits_ask {α : Type} {Q : ⦃β : Type⦄ → Access β → Prop} {e : Access α} (he : Q e) : (ask e).Emits Q :=
  .op e _ he fun _ => .ret _

variable {v : JWTAssertionVerifier} {expiry : Time}

theorem emits_fetchJWKS {rawURL : String} : (v.fetchJWKS rawURL).Emits (UsesBefore expiry) := by
  refine emits_bind (emits_ask trivial) fun now => ?_
  refine emits_bind (emits_ask trivial) fun cached => ?_
  cases cached.filter fun cached => decide (now < cached.2) with
  | some cached => exact emits_pure
  | none =>
    refine emits_bind emits_demand fun _ => ?_
    refine emits_bind (emits_call trivial) fun raw => ?_
    exact emits_bind (emits_ask trivial) fun _ => emits_pure

variable {c : VerifyCall}

theorem emits_time : c.time.Emits (UsesBefore expiry) := by
  unfold VerifyCall.time
  split_ifs
  · exact emits_ask trivial
  · exact emits_pure

theorem emits_clientJWKS {client : OAuthClient} : (v.clientJWKS client).Emits (UsesBefore expiry) := by
  unfold JWTAssertionVerifier.clientJWKS
  split_ifs
  · exact emits_pure
  · exact emits_fail
  · exact emits_mapError emits_fetchJWKS

/-- **As long as the clock is before a time, identifiers are used with readings before it.** -/
theorem ensures_verify : (v.verify c).Ensures (Before expiry) (UsesBefore expiry) fun _ => True := by
  unfold JWTAssertionVerifier.verify
  cases v.parseAssertion c.assertion with
  | none => exact ensures_fail trivial
  | some assertion =>
    refine ensures_emits_bind emits_time (fun _ => trivial) fun now => ?_
    refine ensures_demand_bind trivial fun _ => ?_
    refine ensures_emits_bind emits_clientJWKS (fun _ => trivial) fun rawJWKS => ?_
    refine ensures_demand_bind trivial fun _ => ?_
    refine ensures_bind (P := fun _ => True) ?_ (fun _ _ => trivial) fun used _ => ?_
    · refine ensures_emits_bind emits_lift (fun _ => trivial) fun _ => ?_
      refine .op _ _ trivial fun now hnow => ?_
      exact .op _ _ hnow fun used _ => .ret _ trivial
    · exact Program.Emits.ensures emits_demand

/-- A call that succeeds has used the identifier of its assertion. -/
theorem used_of_verify {a : Assertion} (ha : v.parseAssertion c.assertion = some a)
    {rely : Shared → Shared → Prop} {admits : ⦃β : Type⦄ → Access β → Shared → Prop} {s t : Shared}
    (hrun : (v.verify c).Runs access rely admits s (.ok ()) t) :
    ∃ now m, admits (.use c.client.clientID a.claims.jwtID now (unixTime a.claims.expiresAt)) m
      ∧ (m.use c.client.clientID a.claims.jwtID now (unixTime a.claims.expiresAt)).1 = true := by
  rw [JWTAssertionVerifier.verify, ha] at hrun
  simp only [JWTAssertionVerifier.verifyParsed, runs_bind_ok, runs_demand_ok] at hrun
  obtain ⟨_, _, -, _, _, -, _, _, -, _, _, -, used, _, huse, rfl, -⟩ := hrun
  simp only [useOnce, runs_bind_ok] at huse
  obtain ⟨_, _, -, now, _, -, hlock⟩ := huse
  obtain ⟨m, -, hadmits, hret⟩ := Program.runs_op.mp hlock
  exact ⟨now, m, hadmits, (Except.ok.inj (Program.runs_ret.mp hret).1).symm⟩

/-! ## At most one success -/

section Runs

variable {v : JWTAssertionVerifier} {calls : List VerifyCall} {s : Shared} {pool : Verifying}
  {ls : List (Pool.Label Event)} {expiry : Time}

/-- Where the clock has not come to a time, it was before it all along. -/
theorem clock_before (hclock : (Run.run Verifying.step pool ls).state.clock < expiry) :
    Run.Meets Verifying.step (fun pool _ => pool.state.clock < expiry) pool ls :=
  (Pool.meets_leads (R := fun s t : Shared => s.clock ≤ t.clock) (fun _ => le_rfl) (fun _ _ _ => le_trans) clock_access
    clock_happens pool ls).mono fun _ _ hle => lt_of_le_of_lt hle hclock

theorem allows_before (hclock : (Run.run Verifying.step pool ls).state.clock < expiry) :
    Run.Meets Verifying.step (Pool.Allows (fun _ _ _ (s : Shared) => s.clock < expiry) fun _ _ => True) pool ls :=
  (clock_before hclock).mono fun _ _ hbefore =>
    Pool.allows_of_state (P := fun s : Shared => s.clock < expiry) hbefore fun _ _ => trivial

/-- The threads use identifiers with readings before a time. -/
def Verifying.Early (pool : Verifying) (expiry : Time) : Prop :=
  ∀ (i : Nat) (p : Program Access (Except Err Unit)), pool.threads[i]? = some p →
    p.Ensures (Before expiry) (UsesBefore expiry) fun _ => True

theorem early_start : (Verifying.start v calls s).Early expiry := by
  intro i p hp
  rw [Verifying.start, List.getElem?_map] at hp
  obtain ⟨c, -, rfl⟩ := Option.map_eq_some_iff.mp hp
  exact ensures_verify

theorem before_now {s : Shared} (hclock : s.clock < expiry) ⦃β : Type⦄ (e : Access β) :
    Before expiry e (access e s).1 := by
  cases e with
  | now => exact hclock
  | _ => trivial

/-- Until the clock comes to a time, the threads are early… -/
theorem early_run (hearly : pool.Early expiry)
    (hclock : (Run.run Verifying.step pool ls).state.clock < expiry) :
    (Run.run Verifying.step pool ls).Early expiry := by
  refine (Pool.ensures_of_run (I := fun _ : Shared => True) ?_ (fun _ _ _ _ => trivial) trivial hearly
    (allows_before hclock)).2
  intro _ β e s _ _ hbefore
  exact ⟨before_now hbefore e, trivial⟩

/-- …and an entry that expires at it stays. -/
theorem entry_run {key : String} (hearly : pool.Early expiry) (hentry : pool.state.entries.get? key = some expiry)
    (hclock : (Run.run Verifying.step pool ls).state.clock < expiry) :
    (Run.run Verifying.step pool ls).state.entries.get? key = some expiry := by
  refine (Pool.ensures_of_run (I := fun s : Shared => s.entries.get? key = some expiry) ?_ ?_ hentry hearly
    (allows_before hclock)).1
  · intro _ β e s he hs hbefore
    refine ⟨before_now hbefore e, ?_⟩
    cases e with
    | use clientID jwtID now expiresAt => exact entry_use hs he
    | _ => exact hs
  · intro s l _ hs
    cases l with
    | tick length => exact hs
    | network answers => exact hs

theorem clock_run (pool : Verifying) (ls : List (Pool.Label Event)) :
    pool.state.clock ≤ (Run.run Verifying.step pool ls).state.clock :=
  Pool.always (I := fun s : Shared => pool.state.clock ≤ s.clock) (fun _ e s hs => hs.trans (clock_access e s))
    (fun s l hs => hs.trans (clock_happens s l)) le_rfl ls

/-- A call that has succeeded has used the identifier of its assertion at some step. -/
theorem used_of_succeeded {i : Nat} {c : VerifyCall} (hi : calls[i]? = some c) {a : Assertion}
    (ha : v.parseAssertion c.assertion = some a)
    (hc : (Run.run Verifying.step (.start v calls s) ls).Succeeded i) :
    ∃ now m, Pool.MadeAt access Shared.happens (Verifying.start v calls s) ls i
        (.use c.client.clientID a.claims.jwtID now (unixTime a.claims.expiresAt)) m
      ∧ (m.use c.client.clientID a.claims.jwtID now (unixTime a.claims.expiresAt)).1 = true := by
  have hthread : (Verifying.start v calls s).threads[i]? = some (v.verify c).program := by
    rw [Verifying.start, List.getElem?_map, hi]
    rfl
  obtain ⟨t, hrun, -⟩ := Pool.runs_of_run (R := fun _ _ => True) (fun _ => trivial) (fun _ _ _ _ _ => trivial)
    (fun _ _ _ => trivial) (fun _ _ => trivial) hthread (Pool.meets_madeAt _ ls i) hc
  exact used_of_verify ha hrun

/-- **A second use is refused**, if it comes before the entry of the first expires. -/
theorem refused_later {before mid : List (Pool.Label Event)} {i j : Nat} {clientID jwtID : String}
    {now now' expiresAt' : Time} {k k' : Bool → Program Access (Except Err Unit)}
    (hi : (Run.run Verifying.step (.start v calls s) before).threads[i]?
      = some (.op (.use clientID jwtID now expiry) k))
    (hused : ((Run.run Verifying.step (.start v calls s) before).state.use clientID jwtID now expiry).1 = true)
    (hj : (Run.run Verifying.step (.start v calls s) (before ++ .thread i :: mid)).threads[j]?
      = some (.op (.use clientID jwtID now' expiresAt') k'))
    (hclock : (Run.run Verifying.step (.start v calls s) (before ++ .thread i :: mid)).state.clock < expiry) :
    ((Run.run Verifying.step (.start v calls s) (before ++ .thread i :: mid)).state.use clientID jwtID now'
      expiresAt').1 = false := by
  have hnow : now' < expiry := (Program.ensures_op.mp (early_run early_start hclock j _ hj)).1
  refine refused_of_entry ?_ hnow
  -- the entry is there after the first use, and stays until the second
  have hsplit : Run.run Verifying.step (.start v calls s) (before ++ .thread i :: mid)
      = Run.run Verifying.step (Run.run Verifying.step (.start v calls s) (before ++ [.thread i])) mid := by
    rw [← Run.run_append, List.append_assoc, List.singleton_append]
  rw [hsplit] at hclock ⊢
  refine entry_run (early_run early_start (lt_of_le_of_lt (clock_run _ mid) hclock)) ?_ hclock
  rw [Run.run_append, Run.run_cons, Run.run_nil, Verifying.step, Pool.step_thread hi]
  exact entry_of_use hused

/-- What a use at some step of a run in time finds. -/
theorem fresh_of_intime {before after : List (Pool.Label Event)} {j : Nat} {clientID jwtID : String}
    {now expiresAt : Time} {k : Bool → Program Access (Except Err Unit)}
    (hintime : Run.Meets Verifying.step (InTime v calls) (.start v calls s) (before ++ .thread j :: after))
    (hj : (Run.run Verifying.step (.start v calls s) before).threads[j]?
      = some (.op (.use clientID jwtID now expiresAt) k)) :
    Fresh v calls clientID jwtID (Run.run Verifying.step (.start v calls s) before).state := by
  have hnext := (Run.meets_append.mp hintime).2.1
  simp only [InTime, Pool.Allows, hj] at hnext
  exact hnext

/-- Of two uses in a run in time, the later is refused. -/
theorem not_used_again {before mid after : List (Pool.Label Event)} {i j : Nat} {c : VerifyCall} (hc : c ∈ calls)
    {a : Assertion} (ha : v.parseAssertion c.assertion = some a) {now now' expiresAt' : Time}
    {k k' : Bool → Program Access (Except Err Unit)}
    (hintime : Run.Meets Verifying.step (InTime v calls) (.start v calls s)
      (before ++ .thread i :: mid ++ .thread j :: after))
    (hi : (Run.run Verifying.step (.start v calls s) before).threads[i]?
      = some (.op (.use c.client.clientID a.claims.jwtID now (unixTime a.claims.expiresAt)) k))
    (hused : ((Run.run Verifying.step (.start v calls s) before).state.use c.client.clientID a.claims.jwtID now
      (unixTime a.claims.expiresAt)).1 = true)
    (hj : (Run.run Verifying.step (.start v calls s) (before ++ .thread i :: mid)).threads[j]?
      = some (.op (.use c.client.clientID a.claims.jwtID now' expiresAt') k')) :
    ((Run.run Verifying.step (.start v calls s) (before ++ .thread i :: mid)).state.use c.client.clientID
      a.claims.jwtID now' expiresAt').1 ≠ true := by
  rw [refused_later hi hused hj (fresh_of_intime hintime hj c hc a ha rfl rfl)]
  exact Bool.false_ne_true

/-- **At most one call succeeds for a client and an identifier**, whatever the order of the steps and however long
the keys take, if the lock of the replay store is taken before the assertions with them expire. -/
theorem succeeds_once (hintime : Run.Meets Verifying.step (InTime v calls) (.start v calls s) ls) {i j : Nat}
    {c d : VerifyCall} (hi : calls[i]? = some c) (hj : calls[j]? = some d) {a b : Assertion}
    (ha : v.parseAssertion c.assertion = some a) (hb : v.parseAssertion d.assertion = some b)
    (hclient : c.client.clientID = d.client.clientID) (hjwtID : a.claims.jwtID = b.claims.jwtID)
    (hc : (Run.run Verifying.step (.start v calls s) ls).Succeeded i)
    (hd : (Run.run Verifying.step (.start v calls s) ls).Succeeded j) : i = j := by
  by_contra hne
  obtain ⟨now, _, ⟨before, after, k, hls, hthread, rfl⟩, hused⟩ := used_of_succeeded hi ha hc
  obtain ⟨now', _, ⟨before', after', k', hls', hthread', rfl⟩, hused'⟩ := used_of_succeeded hj hb hd
  -- one of the two uses comes first, and then the other is refused
  obtain ⟨mid, rfl, hrest⟩ | ⟨mid, rfl, hrest⟩ := List.append_eq_append_iff.mp (hls.symm.trans hls')
  · cases mid with
    | nil => exact hne (Pool.Label.thread.inj (List.head_eq_of_cons_eq hrest))
    | cons l mid =>
      obtain rfl := List.head_eq_of_cons_eq hrest
      rw [← hclient, ← hjwtID] at hthread' hused'
      exact not_used_again (List.mem_of_getElem? hi) ha (hls' ▸ hintime) hthread hused hthread' hused'
  · cases mid with
    | nil => exact hne (Pool.Label.thread.inj (List.head_eq_of_cons_eq hrest)).symm
    | cons l mid =>
      obtain rfl := List.head_eq_of_cons_eq hrest
      rw [hclient, hjwtID] at hthread hused
      exact not_used_again (List.mem_of_getElem? hj) hb (hls ▸ hintime) hthread' hused' hthread hused

end Runs

/-! ## An assertion that is presented twice -/

/-- A verifier of one assertion, which expires 100 seconds after the epoch. -/
def onceVerifier : JWTAssertionVerifier where
  cacheTTL := 300 * 1000000000
  decodeBase64 text := some (List.replicate (if text = "s" then 64 else 32) 0)
  decodeHeader _ := some ⟨"ES256", "k"⟩
  decodeClaims _ := some ⟨"client", "client", ["issuer"], 100, 50, "one"⟩
  decodeJWKS _ := some [⟨"EC", "k", "sig", "", "", "", "P-256", "x", "y"⟩]
  fetchable _ := true
  rsaVerifies _ _ _ _ := false
  ecdsaVerifies _ _ _ _ := true

/-- A call with it, for a client whose keys are downloaded. -/
def onceCall : VerifyCall where
  client := { (default : OAuthClient) with clientID := "client", jwksURI := "https://client/keys" }
  audience := "issuer"
  assertion := "h.c.s"

/-- Two such calls, one second before the expiry. -/
def onceStart : Verifying := .start onceVerifier [onceCall, onceCall] { clock := unixTime 99, network := fun _ => .ok [] }

theorem fresh_onceCall {s : Shared} (hs : s.clock < unixTime 100) ⦃β : Type⦄ (e : Access β) :
    UsesFresh onceVerifier [onceCall, onceCall] e s := by
  cases e with
  | use clientID jwtID now expiresAt =>
    intro c hc a ha _ _
    obtain rfl : c = onceCall := by simpa using hc
    obtain ⟨⟩ := ha
    exact hs
  | _ => trivial

/-- In time, the second call is refused. -/
theorem succeeds_once_twice :
    let done := Run.run Verifying.step onceStart (List.replicate 7 (.thread 0) ++ List.replicate 5 (.thread 1))
    done.Succeeded 0 ∧ ¬ done.Succeeded 1 := by
  refine ⟨rfl, fun hsecond => ?_⟩
  have hintime : Run.Meets Verifying.step (InTime onceVerifier [onceCall, onceCall]) onceStart
      (List.replicate 7 (.thread 0) ++ List.replicate 5 (.thread 1)) := by
    have hclock : (Run.run Verifying.step onceStart
        (List.replicate 7 (.thread 0) ++ List.replicate 5 (.thread 1))).state.clock < unixTime 100 := by decide
    exact (clock_before hclock).mono fun _ _ hbefore =>
      Pool.allows_of_admits (fun _ _ e => fresh_onceCall hbefore e) fun _ _ => trivial
  exact Nat.zero_ne_one (succeeds_once hintime rfl rfl rfl rfl rfl rfl rfl hsecond)

/-- A second call that has tested the expiry waits until the first is through and the entry is forgotten. -/
theorem succeeds_twice :
    let late := Run.run Verifying.step onceStart
      (.thread 1 :: (List.replicate 7 (.thread 0) ++ .other (.tick 1000000000) :: List.replicate 4 (.thread 1)))
    late.Succeeded 0 ∧ late.Succeeded 1 := by
  constructor
  · rfl
  · rfl

end Credbound.OAuthClientAdapter
