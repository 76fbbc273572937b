import Credbound.Machinery.HashChain
import Credbound.Manager.OAuthTokens

/-!
# OAuthClientAdapter/Verifier — `JWTAssertionVerifier` and `MemoryReplayStore`

A client proves itself with a signed assertion: `verify` reads the assertion, tests its times against the time it
starts at, finds the keys of the client, which may take a download, tests the signature, and has the replay store use
up the identifier of the assertion.  The replay store reads the clock on its own, before it takes its lock, and
forgets under the lock what has expired by then.

What is decoded and what is signed are parameters: base64, JSON, URLs, RSA and ECDSA.
-/

namespace Credbound.OAuthClientAdapter

open Manager (unixSeconds)
open Procedure (demand lift fail)

/-! ## Assertions -/

structure AssertionHeader where
  algorithm : String
  keyID : String

/-- The claims; an `aud` that is neither a text nor a list of texts names no audience. -/
structure AssertionClaims where
  issuer : String
  subject : String
  audience : List String
  expiresAt : Int
  issuedAt : Int
  jwtID : String

def AssertionClaims.hasAudience (claims : AssertionClaims) (expected : String) : Bool :=
  claims.audience.any fun candidate => candidate = expected

/-- What `parseAssertion` returns. -/
structure Assertion where
  header : AssertionHeader
  claims : AssertionClaims
  signingInput : String
  signature : Bytes

/-- A key of a JWKS document. -/
structure JWK where
  keyType : String
  keyID : String
  use : String
  algorithm : String
  modulus : String
  exponent : String
  curve : String
  x : String
  y : String

/-- `JWTAssertionVerifier`, with what it decodes and verifies by. -/
structure JWTAssertionVerifier where
  cacheTTL : Duration
  /-- `base64.RawURLEncoding`. -/
  decodeBase64 : String → Option Bytes
  decodeHeader : Bytes → Option AssertionHeader
  decodeClaims : Bytes → Option AssertionClaims
  decodeJWKS : Bytes → Option (List JWK)
  /-- A URL with the scheme https and a host, and without user information or a fragment. -/
  fetchable : String → Bool
  /-- `rsa.VerifyPKCS1v15` of a digest. -/
  rsaVerifies : Bytes → Nat → Bytes → Bytes → Bool
  /-- `ecdsa.Verify` of a digest, by a point that is on the curve. -/
  ecdsaVerifies : Bytes → Bytes → Bytes → Bytes → Bool

namespace JWTAssertionVerifier

variable (v : JWTAssertionVerifier)

def parseAssertion (raw : String) : Option Assertion :=
  if 65536 < raw.utf8ByteSize then none
  else match (raw.toList.splitOn '.').map String.ofList with
    | [header, claims, signature] => do
      let decodedHeader ← (v.decodeBase64 header).bind v.decodeHeader
      let decodedClaims ← (v.decodeBase64 claims).bind v.decodeClaims
      let decodedSignature ← v.decodeBase64 signature
      return ⟨decodedHeader, decodedClaims, header ++ "." ++ claims, decodedSignature⟩
    | _ => none

def rsaKey (key : JWK) : Option (Bytes × Nat) := do
  guard (key.keyType = "RSA")
  let modulus ← v.decodeBase64 key.modulus
  guard (256 ≤ modulus.length)
  let exponentBytes ← v.decodeBase64 key.exponent
  guard (¬ (exponentBytes.length = 0 ∨ 4 < exponentBytes.length))
  let exponent := exponentBytes.foldl (fun exponent value => exponent * 256 + value.toNat) 0
  guard (¬ (exponent < 3 ∨ exponent % 2 = 0))
  return (modulus, exponent)

def ecKey (key : JWK) : Option (Bytes × Bytes) := do
  guard (key.keyType = "EC" ∧ key.curve = "P-256")
  let x ← v.decodeBase64 key.x
  let y ← v.decodeBase64 key.y
  guard (x.length = 32 ∧ y.length = 32)
  return (x, y)

/-- The key verifies the signature of the digest. -/
def keyVerifies (header : AssertionHeader) (digest signature : Bytes) (key : JWK) : Bool :=
  if key.keyID ≠ header.keyID ∨ key.use ≠ "" ∧ key.use ≠ "sig" ∨ key.algorithm ≠ "" ∧ key.algorithm ≠ header.algorithm
  then false
  else if header.algorithm = "RS256" then
    (v.rsaKey key).any fun publicKey => v.rsaVerifies publicKey.1 publicKey.2 digest signature
  else
    (v.ecKey key).any fun publicKey =>
      signature.length = 64 ∧ v.ecdsaVerifies publicKey.1 publicKey.2 digest signature = true

def verifySignature (header : AssertionHeader) (rawJWKS : Bytes) (signingInput : String) (signature : Bytes) : Bool :=
  if header.keyID = "" ∨ header.algorithm ≠ "RS256" ∧ header.algorithm ≠ "ES256" then false
  else match v.decodeJWKS rawJWKS with
    | none => false
    | some keys =>
      if keys.length = 0 ∨ 100 < keys.length then false
      else keys.any (v.keyVerifies header (Sha256.sum (HashChain.bytesOf signingInput)) signature)

end JWTAssertionVerifier

/-! ## What the calls share -/

/-- The clock, the replay store, the cached documents, and what a download would answer. -/
structure Shared where
  clock : Time
  entries : FMap String Time := ∅
  cache : FMap String (Bytes × Time) := ∅
  network : String → Except Err Bytes

/-- What a call of `Verify` does with it, one lock or one wait at a time. -/
inductive Access : Type → Type 1
  | now : Access Time
  | cached (rawURL : String) : Access (Option (Bytes × Time))
  | download (rawURL : String) : Access (Except Err Bytes)
  | remember (rawURL : String) (raw : Bytes) (expiresAt : Time) : Access Unit
  | use (clientID jwtID : String) (now expiresAt : Time) : Access Bool

/-- The key of an entry. -/
def replayKey (clientID jwtID : String) : String := clientID ++ "\x00" ++ jwtID

/-- The entries that are left when those that have expired are forgotten. -/
def prune (entries : FMap String Time) (now : Time) : FMap String Time := entries.filter fun _ expiry => now < expiry

/-- `MemoryReplayStore.Use` under its lock. -/
def Shared.use (s : Shared) (clientID jwtID : String) (now expiresAt : Time) : Bool × Shared :=
  let entries := prune s.entries now
  if replayKey clientID jwtID ∈ entries then (false, { s with entries := entries })
  else (true, { s with entries := entries.set (replayKey clientID jwtID) expiresAt })

def access : Program.Handler Access Shared
  | _, .now, s => (s.clock, s)
  | _, .cached rawURL, s => (s.cache.get? rawURL, s)
  | _, .download rawURL, s => (s.network rawURL, s)
  | _, .remember rawURL raw expiresAt, s => ((), { s with cache := s.cache.set rawURL (raw, expiresAt) })
  | _, .use clientID jwtID now expiresAt, s => s.use clientID jwtID now expiresAt

/-! ## Verification -/

abbrev Routine := Procedure Access Err

/-- An access that does not fail. -/
def ask {α : Type} (e : Access α) : Routine α := Program.op e fun a => .ret (.ok a)

/-- `MemoryReplayStore.Use`: the clock is read before the lock is taken. -/
def useOnce (ctx : Context) (clientID jwtID : String) (expiresAt : Time) : Routine Bool := do
  lift (ctx.err.elim (.ok ()) .error)
  let now ← ask .now
  ask (.use clientID jwtID now expiresAt)

/-- The document is downloaded and cached. -/
def JWTAssertionVerifier.downloadJWKS (v : JWTAssertionVerifier) (rawURL : String) (now : Time) : Routine Bytes := do
  demand (v.fetchable rawURL = true) .invalidInput
  let raw ← Procedure.call (.download rawURL)
  ask (.remember rawURL raw (now + v.cacheTTL))
  return raw

/-- `fetchJWKS`. -/
def JWTAssertionVerifier.fetchJWKS (v : JWTAssertionVerifier) (rawURL : String) : Routine Bytes := do
  let now ← ask .now
  let cached ← ask (.cached rawURL)
  match cached.filter fun cached => now < cached.2 with
  | some cached => return cached.1
  | none => v.downloadJWKS rawURL now

/-- The keys of the client. -/
def JWTAssertionVerifier.clientJWKS (v : JWTAssertionVerifier) (client : OAuthClient) : Routine Bytes :=
  if client.jwks.length ≠ 0 then pure client.jwks
  else if client.jwksURI = "" then fail .invalidCredentials
  else (v.fetchJWKS client.jwksURI).mapError fun _ => .invalidCredentials

/-- `time.Unix`. -/
def unixTime (seconds : Int) : Time := unixEpoch + seconds * 1000000000

/-- The claims are those of an assertion of the client for the audience, at a time. -/
def AssertionClaims.Acceptable (claims : AssertionClaims) (client : OAuthClient) (audience : String) (now : Time) :
    Prop :=
  ¬ (claims.issuer ≠ client.clientID ∨ claims.subject ≠ client.clientID ∨ claims.hasAudience audience = false
    ∨ claims.jwtID = "" ∨ claims.expiresAt ≤ unixSeconds now
    ∨ unixSeconds (now + 5 * 60 * 1000000000) < claims.expiresAt
    ∨ claims.issuedAt = 0 ∨ unixSeconds (now + 60 * 1000000000) < claims.issuedAt)

instance (claims : AssertionClaims) (client : OAuthClient) (audience : String) (now : Time) :
    Decidable (claims.Acceptable client audience now) :=
  inferInstanceAs (Decidable (¬ _))

/-- One call of `Verify`; the zero time stands for the verifier's clock. -/
structure VerifyCall where
  client : OAuthClient
  audience : String
  assertion : String
  now : Time := 0
  ctx : Context := {}

/-- The time a call starts at. -/
def VerifyCall.time (c : VerifyCall) : Routine Time := if c.now = 0 then ask .now else pure c.now

/-- `Verify` of an assertion that is parsed. -/
def JWTAssertionVerifier.verifyParsed (v : JWTAssertionVerifier) (c : VerifyCall) (assertion : Assertion) :
    Routine Unit := do
  let now ← c.time
  demand (assertion.claims.Acceptable c.client c.audience now) .invalidCredentials
  let rawJWKS ← v.clientJWKS c.client
  demand (v.verifySignature assertion.header rawJWKS assertion.signingInput assertion.signature = true)
    .invalidCredentials
  let used ← useOnce c.ctx c.client.clientID assertion.claims.jwtID (unixTime assertion.claims.expiresAt)
  demand (used = true) .invalidCredentials

/-- `Verify`. -/
def JWTAssertionVerifier.verify (v : JWTAssertionVerifier) (c : VerifyCall) : Routine Unit :=
  match v.parseAssertion c.assertion with
  | none => fail .invalidCredentials
  | some assertion => v.verifyParsed c assertion

end Credbound.OAuthClientAdapter
