import Credbound.Memory.Frames

/-!
# Memory/Clients — a disabled client of the authorization server

A client record that is disabled and found by its `client_id` stays so (`Call.keeps_holdsDisabled`),
whatever is called but the methods that write the record anew: `SetOAuthClientDisabled` to enable it,
and `UpsertOAuthCIMDClient`, which takes the whole record from the caller.  A rejecting hook loses the
keys that clients are found by, so it is excluded as well.
-/

namespace Credbound.Memory

open Store

/-- The record is found by its issuer and `client_id`, and is disabled. -/
def Store.HoldsDisabled (s : Store) (issuerID : UUID) (clientID : String) (recordID : UUID) : Prop :=
  s.oauthClientKeys.get? (issuerID, clientID) = some recordID
    ∧ ∃ client, s.oauthClients.get? recordID = some client ∧ client.disabledAt ≠ none

/-- The method enables the client, or writes its record or its key anew. -/
inductive Method.Renews (issuerID : UUID) (clientID : String) (recordID : UUID) : Method → Prop
  | enables (at' : Time) :
      Renews issuerID clientID recordID (.op (.oauth (.setOAuthClientDisabled recordID false at')))
  | upserts (client : OAuthClient)
      (h : client.id = recordID ∨ (client.issuerID, client.clientID) = (issuerID, clientID)) :
      Renews issuerID clientID recordID (.op (.oauth (.upsertOAuthCIMDClient client)))

/-- The call neither renews the client nor is rejected by its hook. -/
def Call.Spares (issuerID : UUID) (clientID : String) (recordID : UUID) (_ : Store) (c : Call) : Prop :=
  c.commit.hookErr c.ctx .memory = none ∧ ¬ c.method.Renews issuerID clientID recordID

section

variable {issuerID recordID : UUID} {clientID : String} {s t p : Store}

section

variable (hs : s.HoldsDisabled issuerID clientID recordID)

include hs

theorem Store.HoldsDisabled.of_clients
    (hclients : t.oauthClients = s.oauthClients) (hkeys : t.oauthClientKeys = s.oauthClientKeys) :
    t.HoldsDisabled issuerID clientID recordID := by
  unfold HoldsDisabled
  rwa [hclients, hkeys]

theorem Store.HoldsDisabled.of_server
    (h : t.server = s.server) : t.HoldsDisabled issuerID clientID recordID :=
  hs.of_clients (congrArg (·.2.2.1) h) (congrArg (·.2.2.2) h)

/-- A change of client records that keeps disabled ones disabled. -/
theorem Store.HoldsDisabled.modify (id : UUID)
    {f : OAuthClient → OAuthClient} (hf : id = recordID → ∀ v, v.disabledAt ≠ none → (f v).disabledAt ≠ none) :
    Store.HoldsDisabled { s with oauthClients := s.oauthClients.modify id f } issuerID clientID recordID := by
  obtain ⟨hkey, client, hclient, hdisabled⟩ := hs
  refine ⟨hkey, ?_⟩
  by_cases hid : id = recordID
  · refine ⟨f client, ?_, hf hid client hdisabled⟩
    rw [FMap.get?_modify, if_pos hid.symm, hclient, Option.map_some]
  · refine ⟨client, ?_, hdisabled⟩
    rw [FMap.get?_modify, if_neg (Ne.symm hid), hclient]

/-- A new record under a new key. -/
theorem Store.HoldsDisabled.put {client : OAuthClient}
    (hid : client.id ≠ recordID) (hkey : (client.issuerID, client.clientID) ≠ (issuerID, clientID)) :
    Store.HoldsDisabled { s with
      oauthClients := s.oauthClients.set client.id client
      oauthClientKeys := s.oauthClientKeys.set (client.issuerID, client.clientID) client.id }
      issuerID clientID recordID := by
  obtain ⟨hrecord, held, hheld, hdisabled⟩ := hs
  refine ⟨(FMap.get?_set_ne _ _ hkey.symm).trans hrecord, held, ?_, hdisabled⟩
  exact (FMap.get?_set_ne _ _ hid.symm).trans hheld

end

theorem OAuthOp.keeps_holdsDisabled (op : OAuthOp)
    (hspares : ¬ Method.Renews issuerID clientID recordID (.op (.oauth op)))
    (hcheck : op.mutation.check p = .ok ()) (commit : Commit)
    (hp : p.HoldsDisabled issuerID clientID recordID) :
    (op.mutation.result commit p).HoldsDisabled issuerID clientID recordID := by
  have h := (Op.oauth op).writes commit p
  cases op with
  | setOAuthIssuerDisabled | setOAuthProtectedResourceDisabled | revokeOAuthGrant | consumeOAuthAuthorizationCode =>
    exact hp.of_clients ((congrArg (·.oauthClients) h).trans rfl) ((congrArg (·.oauthClientKeys) h).trans rfl)
  | setOAuthClientDisabled id disabled at' =>
    cases disabled
    · refine hp.modify id fun hid => ?_
      subst hid
      exact absurd (.enables at') hspares
    · obtain ⟨_, _, _, h⟩ := revokeOAuthGrantsWhere_eq _ (·.clientRecordID = id) at'
      exact (hp.modify id fun _ _ _ => Option.some_ne_none at').of_clients
        ((congrArg (·.oauthClients) h).trans rfl) ((congrArg (·.oauthClientKeys) h).trans rfl)
  | createOAuthClient client initialAccessTokenID usedAt =>
    simp only [OAuthOp.mutation, Memory.createOAuthClient, check_bind, require_eq_ok] at hcheck
    obtain ⟨_, -, _, -, _, hid, _, hkey, -⟩ := hcheck
    have hput : p.HoldsDisabled issuerID clientID recordID := hp
    obtain ⟨hrecord, held, hheld, -⟩ := hp
    refine hput.put ?_ ?_
    · rintro rfl
      exact hid (FMap.mem_of_get? hheld)
    · intro h
      rw [h] at hkey
      exact hkey (FMap.mem_of_get? hrecord)
  | upsertOAuthCIMDClient client =>
    exact hp.put (fun h => hspares (.upserts client (.inl h))) fun h => hspares (.upserts client (.inr h))
  | rotateOAuthClientCredentials id secretDigest jwks metadataHash at' => exact hp.modify id fun _ _ h => h
  | _ => exact hp

/-- **A disabled client stays disabled**, and found by its `client_id`. -/
theorem Call.keeps_holdsDisabled (c : Call) (s : Store) (hspares : c.Spares issuerID clientID recordID s)
    (hs : s.HoldsDisabled issuerID clientID recordID) :
    (c.next s).HoldsDisabled issuerID clientID recordID := by
  obtain ⟨hhook, hspares⟩ := hspares
  refine c.next_preserves s (I := fun s : Store => s.HoldsDisabled issuerID clientID recordID) ?_ hs ?_
  · intro v p hv _ hcheck hp
    generalize c.method = method at hv hspares
    cases method with
    | op o =>
      obtain ⟨⟩ := hv
      by_cases h : ∃ op, o = .oauth op
      · obtain ⟨op, rfl⟩ := h
        exact op.keeps_holdsDisabled hspares hcheck c.commit hp
      · exact hp.of_server (congrArg Prod.snd (o.leaves_server (fun op hop => h ⟨op, hop⟩) c.commit p))
    | recordLoginFailure | useTOTP | consumeRecoveryCode | createWorkspaceDomain =>
      obtain ⟨⟩ := hv
      exact hp
    | claimEmailIssuance | setAuditFailure => cases hv
  · intro s t hcore hkeys hs
    refine hs.of_clients ?_ (hkeys hhook)
    obtain ⟨_, rfl⟩ := hcore
    rfl

end

end Credbound.Memory
