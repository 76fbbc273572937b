import Credbound.Postgres.Frames

/-!
# Postgres/Clients — a disabled client of the authorization server

The PostgreSQL side of `Memory/Clients`: a client row that is disabled stays so
(`DatabaseCall.keeps_holdsDisabled`), whatever is called but `SetOAuthClientDisabled` to enable it and
`UpsertOAuthCIMDClient` of its `client_id`, which writes the whole record anew.
-/

namespace Credbound.Postgres

open Database

/-- The record is the one with its issuer and `client_id`, and is disabled. -/
def Database.HoldsDisabled (db : Database) (issuerID : UUID) (clientID : String) (recordID : UUID) :
    Prop :=
  (∃ client, db.oauthClients.get? recordID = some client
      ∧ (client.issuerID = issuerID ∧ client.clientID = clientID) ∧ client.disabledAt ≠ none)
    ∧ db.oauthClients.All fun id client =>
      client.issuerID = issuerID ∧ client.clientID = clientID → id = recordID

/-- The method enables the client, or writes its record anew. -/
inductive DatabaseMethod.Renews (issuerID : UUID) (clientID : String) (recordID : UUID) : DatabaseMethod → Prop
  | enables (at' : Time) :
      Renews issuerID clientID recordID (.oauth (.setOAuthClientDisabled recordID false at'))
  | upserts (client : OAuthClient) (h : client.issuerID = issuerID ∧ client.clientID = clientID) :
      Renews issuerID clientID recordID (.oauth (.upsertOAuthCIMDClient client))

section

variable {issuerID recordID : UUID} {clientID : String} {db db' : Database}

section

variable (hdb : db.HoldsDisabled issuerID clientID recordID)

include hdb

theorem Database.HoldsDisabled.of_server
    (h : db'.oauth.1 = db.oauth.1) : db'.HoldsDisabled issuerID clientID recordID := by
  have hclients : db'.oauthClients = db.oauthClients := congrArg (·.2.2) h
  unfold HoldsDisabled
  rwa [hclients]

/-- A client row is written that has the key of the row it replaces, or another key. -/
theorem Database.HoldsDisabled.set {id : UUID}
    {value : OAuthClient} (hkey : value.issuerID = issuerID ∧ value.clientID = clientID → id = recordID)
    (hrecord : id = recordID →
      (value.issuerID = issuerID ∧ value.clientID = clientID) ∧ value.disabledAt ≠ none) :
    Database.HoldsDisabled { db with oauthClients := db.oauthClients.set id value } issuerID clientID
      recordID := by
  obtain ⟨⟨client, hclient, hsame, hdisabled⟩, hunique⟩ := hdb
  refine ⟨?_, FMap.All.set hunique hkey⟩
  by_cases hid : id = recordID
  · obtain ⟨hvalue, hstill⟩ := hrecord hid
    subst hid
    exact ⟨value, FMap.get?_set_self _ _ _, hvalue, hstill⟩
  · exact ⟨client, (FMap.get?_set_ne _ _ (Ne.symm hid)).trans hclient, hsame, hdisabled⟩

/-- …and one that is rewritten keeps its key. -/
theorem Database.HoldsDisabled.rewrite {id : UUID}
    {old value : OAuthClient} (hold : db.oauthClients.get? id = some old)
    (hkey : value.issuerID = old.issuerID ∧ value.clientID = old.clientID)
    (hrecord : id = recordID → old.disabledAt ≠ none → value.disabledAt ≠ none) :
    Database.HoldsDisabled { db with oauthClients := db.oauthClients.set id value } issuerID clientID
      recordID := by
  refine hdb.set (fun h => hdb.2 id old hold ?_) fun hid => ?_
  · exact ⟨hkey.1.symm.trans h.1, hkey.2.symm.trans h.2⟩
  · obtain ⟨⟨client, hclient, hsame, hdisabled⟩, -⟩ := hdb
    subst hid
    obtain rfl := Option.mem_unique hold hclient
    exact ⟨⟨hkey.1.trans hsame.1, hkey.2.trans hsame.2⟩, hrecord rfl hdisabled⟩

end

theorem get?_of_select {V : Type} {m : FMap UUID V} {id : UUID} {v : V} (h : select m id = .ok v) :
    m.get? id = some v := by
  simp only [select, check_bind, find_eq_ok] at h
  obtain ⟨-, -, hv⟩ := h
  exact hv

theorem OAuthMethod.keeps_holdsDisabled (op : OAuthMethod)
    (hspares : ¬ DatabaseMethod.Renews issuerID clientID recordID (.oauth op))
    (hdb : db.HoldsDisabled issuerID clientID recordID) :
    Yields (fun written => written.HoldsDisabled issuerID clientID recordID) (op.method db) := by
  have hgrants : ∀ (t : Database) (ids : List UUID) (at' : Time), t.HoldsDisabled issuerID clientID recordID →
      Yields (fun written => written.HoldsDisabled issuerID clientID recordID)
        (t.revokeOAuthGrantIDs ids at') :=
    fun t ids at' ht written h => ht.of_server (revokeOAuthGrantIDs_server ids at' t written h)
  cases op with
  | setOAuthIssuerDisabled id disabled at' | setOAuthProtectedResourceDisabled id disabled at' =>
    refine .bind fun _ _ => ?_
    cases disabled
    · exact .pure hdb
    · exact hgrants _ _ at' hdb
  | setOAuthClientDisabled id disabled at' =>
    refine .bind fun old hold => ?_
    cases disabled
    · refine .pure (hdb.rewrite (get?_of_select hold) ⟨rfl, rfl⟩ fun hid => ?_)
      subst hid
      exact absurd (.enables at') hspares
    · exact hgrants _ _ at' (hdb.rewrite (get?_of_select hold) ⟨rfl, rfl⟩ fun _ _ =>
        Option.some_ne_none at')
  | upsertOAuthCIMDClient client =>
    -- The row of another key is written, or a new row.
    have hother : ¬ (client.issuerID = issuerID ∧ client.clientID = clientID) :=
      fun h => hspares (.upserts client h)
    refine .bind fun _ _ => ?_
    split
    next row hrow =>
      obtain ⟨hstored, hmatches, hclientID⟩ := FMap.of_find? hrow
      refine .pure (hdb.set (fun h => absurd h hother) fun hid => ?_)
      obtain ⟨⟨held, hheld, hsame, -⟩, -⟩ := hdb
      obtain rfl := Option.some.inj ((hid ▸ hstored).symm.trans hheld)
      exact absurd ⟨hmatches.1.symm.trans hsame.1, hclientID.symm.trans hsame.2⟩ hother
    next =>
      refine .bind fun _ hnew => .pure (hdb.set (fun h => absurd h hother) fun hid => ?_)
      obtain ⟨⟨held, hheld, -⟩, -⟩ := hdb
      exact absurd (FMap.mem_of_get? hheld) (hid ▸ (require_eq_ok.mp hnew).1)
  | rotateOAuthClientCredentials id secretDigest jwks metadataHash at' =>
    exact .bind fun old hold => .pure (hdb.rewrite (get?_of_select hold) ⟨rfl, rfl⟩ fun _ h => h)
  | createOAuthGrantAndCode grant code =>
    refine .bind fun t ht written h => hdb.of_server ?_
    exact (insertOAuthAuthorizationCode_server code t written h).trans (insertOAuthGrant_server grant db t ht)
  | consumeOAuthAuthorizationCode codeID usedAt access refresh =>
    refine .bind fun _ _ => .bind fun _ _ => .bind fun t ht => ?_
    have hserver := insertOAuthAccessToken_server access _ t ht
    have haccess := hdb.of_server hserver
    cases refresh with
    | none => exact .pure haccess
    | some refresh =>
      exact fun written h => haccess.of_server (insertOAuthRefreshToken_server refresh t written h)
  | createOAuthClientAccessToken value =>
    exact .bind fun _ _ => .bind fun _ _ => .bind fun _ _ => .pure hdb
  | revokeOAuthClientAccessToken id at' => exact .bind fun _ _ => .pure hdb
  | rotateOAuthRefreshToken previousID usedAt access refresh =>
    refine .bind fun _ _ => .bind fun _ _ => .bind fun _ _ => .bind fun t ht written h => ?_
    have hserver := insertOAuthAccessToken_server access _ t ht
    have haccess := hdb.of_server hserver
    exact haccess.of_server (insertOAuthRefreshToken_server refresh t written h)
  | revokeOAuthGrant | revokeOAuthAccessToken | revokeOAuthRefreshFamily => exact .bind fun _ _ => .pure hdb

/-- **A disabled client stays disabled.** -/
theorem DatabaseCall.keeps_holdsDisabled (c : DatabaseCall) (db : Database)
    (hspares : ¬ c.op.Renews issuerID clientID recordID)
    (hdb : db.HoldsDisabled issuerID clientID recordID) :
    (c.next db).HoldsDisabled issuerID clientID recordID := by
  refine c.next_preserves db (I := fun db : Database => db.HoldsDisabled issuerID clientID recordID) ?_ ?_ hdb
  · rintro db db' ⟨_, _, _, _, rfl⟩ h
    exact h
  · intro begun written h hbegun
    generalize c.op = op at h hspares
    cases op with
    | account op => exact hbegun.of_server (op.leaves_server c.commit begun written h)
    | oauth op => exact op.keeps_holdsDisabled hspares hbegun written h

end

end Credbound.Postgres
