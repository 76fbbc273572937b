import Credbound.Memory.Helpers

/-!
# Memory/Emails — address records, their verification and the issuance throttle

Three maps describe the addresses: the records by identifier (`emailAddresses`), every stored
address to its record (`emailIDs`), and every address that may sign in to its user (`emails`).
-/

namespace Credbound.Memory

open Store

/-- `SaveEmail`. -/
def saveEmail (email : EmailAddress) (verification : EmailVerificationCredential) : Mutation where
  check s := do
    require (email.userID ∈ s.users) .notFound
    require (email.id ∉ s.emailAddresses) .conflict
    require (email.address ∉ s.emailIDs) .conflict
  write _ s := .ok
    { s with
      emailAddresses := s.emailAddresses.set email.id email
      emailIDs := s.emailIDs.set email.address email.id
      emailVerifications := s.emailVerifications.set email.id verification }

/-- `ReissueEmailVerification`. -/
def reissueEmailVerification (emailID : UUID) (verification : EmailVerificationCredential) :
    Mutation where
  check s := do
    let email ← find s.emailAddresses emailID .conflict
    require (email.verifiedAt = none) .conflict
  write commit s := .ok
    { s with
      emailAddresses := s.emailAddresses.modify emailID fun email =>
        { email with updatedAt := commit.audit.occurredAt }
      emailVerifications := s.emailVerifications.set emailID verification }

/-- `VerifyEmail`. -/
def verifyEmail (emailID : UUID) (verifiedAt : Time) : Mutation where
  check s := do
    let email ← find s.emailAddresses emailID .notFound
    require (email.verifiedAt = none) .conflict
  write _ s :=
    let email := s.emailAddresses.getI emailID
    .ok
      { s with
        emailAddresses := s.emailAddresses.set emailID
          { email with verifiedAt := some verifiedAt, updatedAt := verifiedAt }
        emails := s.emails.set email.address email.userID
        emailVerifications := s.emailVerifications.del emailID }

/-- `SetPrimaryEmail`. -/
def setPrimaryEmail (userID emailID : UUID) : Mutation where
  check s := do
    let target ← find s.emailAddresses emailID .notFound
    require (target.userID = userID) .notFound
    require (target.verifiedAt ≠ none) .conflict
  write commit s :=
    let now := commit.audit.occurredAt
    let target := s.emailAddresses.getI emailID
    let demoted := s.emailAddresses.mapVal fun _ email =>
      if email.userID = userID ∧ email.primary then { email with primary := false, updatedAt := now }
      else email
    .ok
      { s with
        emailAddresses := demoted.set emailID { target with primary := true, updatedAt := now }
        users := s.users.set userID
          { s.users.getI userID with email := target.address, updatedAt := now } }

/-- `RemoveEmail`. -/
def removeEmail (userID emailID : UUID) : Mutation where
  check s := do
    let email ← find s.emailAddresses emailID .notFound
    require (email.userID = userID) .notFound
    require (email.primary = false) .conflict
    require (¬ (email.verifiedAt ≠ none ∧ s.emailAddresses.count (fun _ candidate =>
      candidate.userID = userID ∧ candidate.verifiedAt ≠ none) ≤ 1)) .conflict
  write _ s :=
    let email := s.emailAddresses.getI emailID
    .ok
      { s with
        emails := s.emails.del email.address
        emailIDs := s.emailIDs.del email.address
        emailAddresses := s.emailAddresses.del emailID
        emailVerifications := s.emailVerifications.del emailID }

/-- `ClaimEmailIssuance`: it carries no commit.  Entries that no longer throttle are pruned on every
claim. -/
def claimEmailIssuance (address purpose : String) (at' notBefore : Time) (ctx : Context)
    (s : Store) : Attempt Bool :=
  match ctx.err with
  | some e => .stopped (.err e) s
  | none =>
    let live := s.emailIssuance.filter fun _ last => notBefore < last
    let key := address ++ "\x00" ++ purpose
    if (live.get? key).any fun last => notBefore < last then
      .stopped (.ok false) { s with emailIssuance := live }
    else .stopped (.ok true) { s with emailIssuance := live.set key at' }

/-! ## The operations -/

/-- The address operations with their arguments. -/
inductive EmailOp
  | saveEmail (email : EmailAddress) (verification : EmailVerificationCredential)
  | reissueEmailVerification (emailID : UUID) (verification : EmailVerificationCredential)
  | verifyEmail (emailID : UUID) (verifiedAt : Time)
  | setPrimaryEmail (userID emailID : UUID)
  | removeEmail (userID emailID : UUID)

/-- The method an operation names. -/
def EmailOp.mutation : EmailOp → Mutation
  | .saveEmail email verification => Memory.saveEmail email verification
  | .reissueEmailVerification emailID verification =>
      Memory.reissueEmailVerification emailID verification
  | .verifyEmail emailID verifiedAt => Memory.verifyEmail emailID verifiedAt
  | .setPrimaryEmail userID emailID => Memory.setPrimaryEmail userID emailID
  | .removeEmail userID emailID => Memory.removeEmail userID emailID

end Credbound.Memory
