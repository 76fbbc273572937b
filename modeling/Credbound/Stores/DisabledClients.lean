import Credbound.Manager.DisabledClient
import Credbound.Memory.Clients
import Credbound.Postgres.Clients
import Credbound.Stores.RevokedGrants

/-!
# Stores/DisabledClients — a disabled client in either store

`disabled_client_refused` is about any number of requests that name a disabled client, in any
interleaving with one another and with other methods of the store, while the document the client is
cached with has not expired: the record stays disabled and every request is refused.  A request that
finds the document expired rebuilds the record from the new document and enables it
(`expired_client_enabled`).
-/

namespace Credbound

open Manager

/-! ## Calls of either store -/

/-- The calls of a store of the given kind. -/
def StoreKind.Call : StoreKind → Type
  | .memory => Memory.Call
  | .postgresql => Postgres.DatabaseCall

/-- What a call returns, and the state it leaves. -/
def StoreKind.run : (kind : StoreKind) → kind.Call → kind.State → Outcome Unit × kind.State
  | .memory => Memory.Call.run
  | .postgresql => Postgres.DatabaseCall.run

/-- The state a call leaves. -/
def StoreKind.next (kind : StoreKind) (s : kind.State) (c : kind.Call) : kind.State := (kind.run c s).2

/-! ## A client that is disabled -/

/-- The record is found by its issuer and `client_id`, and is disabled. -/
def StoreKind.HoldsDisabled : (kind : StoreKind) → kind.State → UUID → String → UUID → Prop
  | .memory => Memory.Store.HoldsDisabled
  | .postgresql => Postgres.Database.HoldsDisabled

/-- The call does not write the record of the client anew.  In the memory store it is not rejected by
its hook either, which loses the keys of all clients. -/
def StoreKind.Spares (issuerID : UUID) (clientID : String) (recordID : UUID) :
    (kind : StoreKind) → kind.State → kind.Call → Prop
  | .memory, s, c => Memory.Call.Spares issuerID clientID recordID s c
  | .postgresql, _, c => ¬ c.op.Renews issuerID clientID recordID

variable {issuerID recordID : UUID} {clientID : String}

theorem StoreKind.keeps_holdsDisabled {kind : StoreKind} {s : kind.State} {c : kind.Call}
    (hspares : kind.Spares issuerID clientID recordID s c) (hs : kind.HoldsDisabled s issuerID clientID recordID) :
    kind.HoldsDisabled (kind.next s c) issuerID clientID recordID := by
  cases kind with
  | memory => exact Memory.Call.keeps_holdsDisabled c s hspares hs
  | postgresql => exact Postgres.DatabaseCall.keeps_holdsDisabled c s hspares hs

/-- A disabled client is found, and disabled, by its `client_id`. -/
theorem Memory.ask_holdsDisabled {s : Memory.Store} (hs : s.HoldsDisabled issuerID clientID recordID) :
    ∃ client, client.disabledAt ≠ none ∧ ∀ ctx, Memory.backend.ask s ctx
      (.oauthClientByClientID issuerID clientID) = (Memory.guarded ctx (.ok client)).toExcept := by
  obtain ⟨hkey, client, hclient, hdisabled⟩ := hs
  refine ⟨client, hdisabled, fun ctx => ?_⟩
  have hread : Memory.backend.ask s ctx (.oauthClientByClientID issuerID clientID) = (Memory.guarded ctx
        (Memory.byIndex s.oauthClientKeys s.oauthClients (issuerID, clientID))).toExcept := rfl
  rw [hread, Memory.byIndex, hkey, Option.map_some, FMap.getI_of_get? hclient, Memory.orNotFound]

theorem Postgres.ask_holdsDisabled {db : Postgres.Database} (hissuer : issuerID ≠ 0)
    (hdb : db.HoldsDisabled issuerID clientID recordID) :
    ∃ client, client.disabledAt ≠ none ∧ ∀ ctx, Postgres.backend.ask db ctx
      (.oauthClientByClientID issuerID clientID) = Postgres.querying ctx (.ok client) := by
  obtain ⟨⟨client, hclient, hsame, hdisabled⟩, hunique⟩ := hdb
  refine ⟨client, hdisabled, fun ctx => ?_⟩
  have hfind : db.clientWithID issuerID clientID = some (recordID, client) := by
    refine FMap.find?_eq_some hclient ⟨⟨hsame.1, hissuer⟩, hsame.2⟩ fun id other hother h => ?_
    exact hunique id other hother ⟨h.1.1, h.2⟩
  have hread : Postgres.backend.ask db ctx (.oauthClientByClientID issuerID clientID)
      = Postgres.querying ctx (Postgres.foundRow (db.clientWithID issuerID clientID)) := rfl
  rw [hread, hfind, Postgres.foundRow]

theorem StoreKind.ask_holdsDisabled {kind : StoreKind} {s : kind.State} (hissuer : issuerID ≠ 0)
    (hs : kind.HoldsDisabled s issuerID clientID recordID) (ctx : Context) (hctx : ctx.err ≠ some .notFound) :
    kind.backend.ask s ctx (.oauthClientByClientID issuerID clientID) ≠ .error .notFound
      ∧ ∀ client, kind.backend.ask s ctx (.oauthClientByClientID issuerID clientID) = .ok client →
        client.disabledAt ≠ none := by
  obtain ⟨held, hdisabled, hread⟩ : ∃ held : OAuthClient, held.disabledAt ≠ none
      ∧ (kind.backend.ask s ctx (.oauthClientByClientID issuerID clientID) = .ok held ∨ ∃ e, ctx.err = some e
          ∧ kind.backend.ask s ctx (.oauthClientByClientID issuerID clientID) = .error e) := by
    cases kind with
    | memory =>
      obtain ⟨held, hdisabled, hread⟩ := Memory.ask_holdsDisabled hs
      refine ⟨held, hdisabled, ?_⟩
      have hanswer := hread ctx
      unfold Memory.guarded at hanswer
      cases he : ctx.err with
      | none =>
        rw [he] at hanswer
        exact .inl hanswer
      | some e =>
        rw [he] at hanswer
        exact .inr ⟨e, rfl, hanswer⟩
    | postgresql =>
      obtain ⟨held, hdisabled, hread⟩ := Postgres.ask_holdsDisabled hissuer hs
      refine ⟨held, hdisabled, ?_⟩
      have hanswer := hread ctx
      unfold Postgres.querying at hanswer
      cases he : ctx.err with
      | none =>
        rw [he] at hanswer
        exact .inl hanswer
      | some e =>
        rw [he] at hanswer
        exact .inr ⟨e, rfl, hanswer⟩
  obtain hanswer | ⟨e, he, hanswer⟩ := hread
  · rw [hanswer]
    refine ⟨(nomatch ·), fun client h => ?_⟩
    obtain ⟨⟩ := h
    exact hdisabled
  · rw [hanswer]
    refine ⟨fun h => hctx (he.trans (congrArg some (Except.error.inj h))), fun _ h => nomatch h⟩

namespace Stores

/-! ## Requests that name the client -/

/-- A request, and what it is made with. -/
structure ClientRequest where
  manager : Manager
  ctx : Context
  io : Supply
  call : ClientCall

def ClientRequest.program (r : ClientRequest) : Program Request Bool :=
  r.call.program r.manager r.ctx r.io

/-- The request names the issuer of the client, and the document it finds the client cached with is
good at `now`.  A context that has ended has an error of its own. -/
def Unexpired {S : Type} (b : Backend S) (issuerID : UUID) (now : Time) :
    ⦃β : Type⦄ → Request β → S → Prop
  | _, .query ctx (.oauthIssuerByURL url), s =>
      ∀ issuer, b.ask s ctx (.oauthIssuerByURL url) = .ok issuer → issuer.id = issuerID
  | _, .query ctx (.oauthClientByClientID id text), s => ctx.err ≠ some .notFound
      ∧ ∀ client, b.ask s ctx (.oauthClientByClientID id text) = .ok client → MetadataFresh now client
  | _, _, _ => True

/-- A store of the given kind, shared by requests and by other methods of the store. -/
abbrev KindShared (kind : StoreKind) := Pool Request kind.State Bool

abbrev KindShared.step (kind : StoreKind) :
    KindShared kind → Pool.Label kind.Call → KindShared kind :=
  Pool.step kind.backend.handler kind.next

/-- **A disabled client stays disabled and every request that names it is refused**, while its cached
document has not expired. -/
theorem disabled_client_refused (kind : StoreKind) (s : kind.State) (requests : List ClientRequest)
    (steps : List (Pool.Label kind.Call)) (issuerID recordID : UUID) (clientID : String)
    (hissuer : issuerID ≠ 0) (hdisabled : kind.HoldsDisabled s issuerID clientID recordID)
    (hnames : ∀ r ∈ requests, trimSpace r.call.clientID = clientID)
    (hunexpired : Run.Meets (KindShared.step kind)
      (Pool.Allows (fun i _ e s => ∀ r, requests[i]? = some r →
        Unexpired kind.backend issuerID (r.io.now 0) e s) (kind.Spares issuerID clientID recordID))
      ⟨s, requests.map ClientRequest.program⟩ steps) :
    let run := Run.run (KindShared.step kind) ⟨s, requests.map ClientRequest.program⟩ steps
    kind.HoldsDisabled run.state issuerID clientID recordID
      ∧ ∀ (i : ℕ) (verdict : Bool), run.threads[i]? = some (.ret verdict) → verdict = false := by
  let answers : ℕ → ⦃β : Type⦄ → Request β → β → Prop := fun i _ e r =>
    ∀ rq, requests[i]? = some rq → DisabledAnswers issuerID clientID (rq.io.now 0) e r
  -- What a request reads is what the store holds.
  have haccess : ∀ i ⦃β : Type⦄ (e : Request β) (s : kind.State), Reads e →
      kind.HoldsDisabled s issuerID clientID recordID →
      (∀ rq, requests[i]? = some rq → Unexpired kind.backend issuerID (rq.io.now 0) e s) →
      answers i e (kind.backend.handler e s).1
        ∧ kind.HoldsDisabled (kind.backend.handler e s).2 issuerID clientID recordID := by
    intro i β e s he hs hunexpired
    cases e with
    | update ctx u commit => exact absurd he id
    | query ctx q =>
      refine ⟨fun rq hrq => ?_, hs⟩
      have hrq := hunexpired rq hrq
      cases q with
      | oauthIssuerByURL url => exact hrq
      | oauthClientByClientID id text =>
        rintro rfl rfl
        obtain ⟨hfound, hclient⟩ := StoreKind.ask_holdsDisabled hissuer hs ctx hrq.1
        exact ⟨hfound, fun client h => ⟨hrq.2 client h, hclient client h⟩⟩
      | _ => trivial
  have hthreads : ∀ i (p : Program Request Bool), (requests.map ClientRequest.program)[i]? = some p →
      p.Ensures (answers i) Reads fun verdict => verdict = false := by
    intro i p hi
    rw [List.getElem?_map] at hi
    obtain ⟨rq, hrq, rfl⟩ := Option.map_eq_some_iff.mp hi
    have hmem := List.mem_of_getElem? hrq
    exact (ClientCall.refused rq.manager rq.ctx rq.io rq.call issuerID clientID (hnames rq hmem)).mono
      fun _ _ _ h => h rq hrq
  obtain ⟨hstate, hreturned⟩ := Pool.ensures_of_run (P := fun _ verdict => verdict = false) haccess
    (fun s c hspares hs => StoreKind.keeps_holdsDisabled hspares hs) hdisabled hthreads hunexpired
  refine ⟨hstate, fun i verdict hi => ?_⟩
  have hverdict := hreturned i _ hi
  exact (Program.ensures_ret (P := fun verdict => verdict = false)).mp hverdict

/-! ## Two clients -/

/-- User 2, signed in. -/
def tenantActor : Authentication :=
  { userID := uuidv7 2, method := .password, level := 1, authenticatedAt := 100 }

/-- A request for authorization at time 1000. -/
def tenantRequest (clientID : String) (io : Supply) : ClientRequest where
  manager := tenantManager
  ctx := {}
  io := io
  call := .beginOAuthAuthorization tenantActor { openidRequest with clientID := clientID }

/-- A client without a metadata document is disabled. -/
def registeredStore : Memory.Store :=
  Memory.Store.after (tenantCalls ++ [tenantCall (.oauth (.setOAuthClientDisabled (uuidv7 30) true 6)) 6])

/-- The request of a registered client reads the issuer and the client, and is refused. -/
theorem registered_client_refused :
    let run := Run.run (KindShared.step .memory)
      ⟨registeredStore, [(tenantRequest "client" (tenantSupply 100)).program]⟩ [.thread 0, .thread 0]
    run.threads[0]? = some (.ret false)
      ∧ StoreKind.HoldsDisabled .memory run.state (uuidv7 10) "client" (uuidv7 30)
      ∧ ∀ (i : ℕ) (verdict : Bool), run.threads[i]? = some (.ret verdict) → verdict = false := by
  have hissuer : Memory.backend.ask registeredStore {} (.oauthIssuerByURL "https://auth.example.com")
      = .ok tenantIssuer := rfl
  have hclient : Memory.backend.ask registeredStore {} (.oauthClientByClientID (uuidv7 10) "client")
      = .ok { tenantClient with disabledAt := some 6, updatedAt := 6 } := rfl
  refine ⟨rfl, disabled_client_refused .memory registeredStore
    [tenantRequest "client" (tenantSupply 100)] [.thread 0, .thread 0] (uuidv7 10) (uuidv7 30) "client"
    (by decide) ⟨rfl, _, rfl, Option.some_ne_none _⟩ ?_ ⟨?_, ?_, trivial⟩⟩
  · intro r hr
    obtain rfl := List.mem_singleton.mp hr
    rfl
  · intro r hr issuer h
    obtain rfl := Except.ok.inj (hissuer.symm.trans h)
    rfl
  · intro r hr
    refine ⟨(nomatch ·), fun client h => ?_⟩
    obtain rfl := Except.ok.inj (hclient.symm.trans h)
    exact .inl (by decide)

/-- A metadata document, good until 2000. -/
def tenantDocument : OAuthClientMetadataDocument where
  clientID := "https://client.example.com/client.json"
  clientName := "Client"
  applicationType := .web
  redirectURIs := ["https://client.example.com/callback"]
  grantTypes := ["authorization_code"]
  responseTypes := ["code"]
  scope := ""
  tokenEndpointAuthMethod := .none
  jwksURI := ""
  jwks := []
  fetchedAt := 1000
  expiresAt := 2000

/-- The client of the document, cached until 500 and disabled. -/
def documentClient : OAuthClient :=
  { tenantClient with
    id := uuidv7 31, source := .cimd, clientID := "https://client.example.com/client.json",
    metadataExpiresAt := some 500 }

def documentStore : Memory.Store :=
  Memory.Store.after (tenantCalls ++ [
    tenantCall (.oauth (.updateOAuthIssuer { tenantIssuer with cimdMode := .publicWeb })) 6,
    tenantCall (.oauth (.upsertOAuthCIMDClient documentClient)) 7,
    tenantCall (.oauth (.setOAuthClientDisabled (uuidv7 31) true 8)) 8])

/-- The same in the database. -/
def documentDatabase : Postgres.Database :=
  { tenantDatabase [] with
    oauthIssuers := (∅ : FMap UUID OAuthIssuer).set (uuidv7 10) { tenantIssuer with cimdMode := .publicWeb }
    oauthClients := (∅ : FMap UUID OAuthClient).set (uuidv7 31) { documentClient with disabledAt := some 8 } }

/-- The request, at a time when the document has expired. -/
def documentRequest : ClientRequest :=
  tenantRequest "https://client.example.com/client.json"
    { tenantSupply 100 with fetch := fun _ => .ok tenantDocument }

/-- **A request enables a disabled client**, and succeeds, when the document has expired. -/
theorem expired_client_enabled :
    (StoreKind.HoldsDisabled .memory documentStore (uuidv7 10) "https://client.example.com/client.json"
        (uuidv7 31)
      ∧ let run := Run.run (KindShared.step .memory) ⟨documentStore, [documentRequest.program]⟩
          (List.replicate 4 (.thread 0))
        run.threads[0]? = some (.ret true)
          ∧ (run.state.oauthClients.get? (uuidv7 31)).map OAuthClient.disabledAt = some none)
    ∧ StoreKind.HoldsDisabled .postgresql documentDatabase (uuidv7 10)
        "https://client.example.com/client.json" (uuidv7 31)
      ∧ let run := Run.run (KindShared.step .postgresql) ⟨documentDatabase, [documentRequest.program]⟩
          (List.replicate 4 (.thread 0))
        run.threads[0]? = some (.ret true)
          ∧ (run.state.oauthClients.get? (uuidv7 31)).map OAuthClient.disabledAt = some none := by
  refine ⟨⟨⟨rfl, _, rfl, Option.some_ne_none _⟩, ?_, ?_⟩,
    ⟨⟨_, rfl, ⟨rfl, rfl⟩, Option.some_ne_none _⟩, ?_⟩, ?_, ?_⟩
  · with_unfolding_all rfl
  · with_unfolding_all rfl
  · exact FMap.All.set FMap.All.empty fun _ => rfl
  · with_unfolding_all rfl
  · with_unfolding_all rfl

end Stores

end Credbound
