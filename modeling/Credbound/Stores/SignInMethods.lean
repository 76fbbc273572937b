import Credbound.Manager.SignIns
import Credbound.Stores.Passwords

/-!
# Stores/SignInMethods — users who remove what they sign in with, over the memory store

A user signs in with a stored password, a passkey or a linked identity.  `UnlinkSSO` counts what is left
while it holds the lock, `DeletePasskey` does not.  Any number of calls of the two, interleaved access by
access, leave the user something to sign in with as long as a passkey is deleted while there is something
else (`method_remains`); the last passkey is deleted all the same (`last_method_deleted`).
-/

namespace Credbound.Stores

open Procedure
open Accounts Manager Memory

/-- The user has a linked identity. -/
def HasIdentity (userID : UUID) (s : Store) : Prop :=
  s.ssoIdentities.Any fun _ identity => identity.userID = userID

instance (userID : UUID) (s : Store) : Decidable (HasIdentity userID s) :=
  inferInstanceAs (Decidable (FMap.Any _ _))

/-- The user has something to sign in with. -/
def HasMethod (userID : UUID) (s : Store) : Prop :=
  userID ∈ s.passwords ∨ HasIdentity userID s ∨ (s.passkeys.getI userID).Any fun _ _ => True

/-- The user has something to sign in with beside one of the passkeys. -/
def HasMethodBeside (userID passkeyID : UUID) (s : Store) : Prop :=
  userID ∈ s.passwords ∨ HasIdentity userID s ∨ (s.passkeys.getI userID).Any fun id _ => id ≠ passkeyID

instance (userID : UUID) (s : Store) : Decidable (HasMethod userID s) := inferInstanceAs (Decidable (_ ∨ _ ∨ _))

instance (userID passkeyID : UUID) (s : Store) : Decidable (HasMethodBeside userID passkeyID s) :=
  inferInstanceAs (Decidable (_ ∨ _ ∨ _))

/-- A call of one of the two functions. -/
structure RemovalCall where
  manager : Accounts
  ctx : Context := {}
  io : AccountSupply
  actor : Authentication
  /-- The passkey or the identity to remove. -/
  removed : UUID ⊕ UUID

/-- The call of `DeletePasskey` or `UnlinkSSO`. -/
def RemovalCall.routine (c : RemovalCall) : Routine Unit :=
  match c.removed with
  | .inl passkeyID => c.manager.deletePasskey c.ctx c.io c.actor passkeyID
  | .inr identityID => c.manager.unlinkSSO c.ctx c.io c.actor identityID

/-! ## One access -/

/-- The accesses of the two functions: reads, and the removal of a passkey or an identity of the user. -/
def Removes (userID : UUID) : ⦃β : Type⦄ → Access β → Prop
  | _, .write _ op _ => (∃ passkeyID, op = .factor (.deletePasskey userID passkeyID))
      ∨ ∃ identityID, op = .directory (.unlinkSSO userID identityID)
  | _, .read _ _ => True
  | _, .scimUsers _ _ => True
  | _, .scimGroups _ _ => True
  | _, .request (.query _ _) => True
  | _, _ => False

theorem removes_of_reading {userID : UUID} ⦃β : Type⦄ (e : Access β) (he : Reading e) : Removes userID e := by
  cases e with
  | request r =>
    cases r with
    | query => trivial
    | update => exact he.elim
  | read | scimUsers | scimGroups => trivial
  | _ => exact he.elim

theorem RemovalCall.removes (c : RemovalCall) : c.routine.Emits (Removes c.actor.userID) := by
  have hreads : (c.manager.requireScopedStepUp c.ctx (c.io.now 0) c.actor .account).Emits
      (Removes c.actor.userID) :=
    (c.manager.requireScopedStepUp_reading c.ctx (c.io.now 0) c.actor .account).mono removes_of_reading
  unfold routine
  split
  · refine emits_bind hreads fun _ => ?_
    refine emits_bind emits_demand fun _ => ?_
    refine emits_bind emits_lift fun event => ?_
    refine emits_bind emits_lift fun change => ?_
    exact emits_mapError (emits_write (.inl ⟨_, rfl⟩))
  · refine emits_bind hreads fun _ => ?_
    refine emits_bind emits_demand fun _ => ?_
    refine emits_bind emits_lift fun event => ?_
    refine emits_bind emits_lift fun change => ?_
    exact emits_mapError (emits_write (.inr ⟨_, rfl⟩))

/-- A passkey that is to be deleted is not all the user has to sign in with. -/
def Spared : ⦃β : Type⦄ → Access β → Store → Prop
  | _, .write _ (.factor (.deletePasskey userID passkeyID)) _, s => HasMethodBeside userID passkeyID s
  | _, _, _ => True

section

variable {userID : UUID} {s t : Store} {commit : Commit}

/-- A passkey is deleted, and something else remains. -/
theorem hasMethod_of_deletePasskey {passkeyID : UUID} (hs : HasMethodBeside userID passkeyID s) :
    HasMethod userID ((Memory.deletePasskey userID passkeyID).result commit s) := by
  obtain hpassword | hidentity | ⟨id, passkey, hid, hne⟩ := hs
  · exact .inl hpassword
  · exact .inr (.inl hidentity)
  · refine .inr (.inr ⟨id, passkey, ?_, trivial⟩)
    have hkeys : (s.passkeys.modify userID (·.del passkeyID)).getI userID
        = (s.passkeys.getI userID).del passkeyID :=
      FMap.getI_modify _ _ (FMap.del_of_get?_none rfl)
    show ((s.passkeys.modify userID (·.del passkeyID)).getI userID).get? id = some passkey
    rw [hkeys, FMap.get?_del, if_neg hne, hid]

/-- **An identity is unlinked, and something else remains**: with no password and no passkey, what was
counted are identities, and one of them is another. -/
theorem hasMethod_of_unlinkSSO {identityID : UUID} (hc : (Memory.unlinkSSO userID identityID).check s = .ok ()) :
    HasMethod userID ((Memory.unlinkSSO userID identityID).result commit s) := by
  simp only [Memory.unlinkSSO, check_bind, require_eq_ok, not_le] at hc
  obtain ⟨_, -, _, -, hcount⟩ := hc
  by_cases hpassword : userID ∈ s.passwords
  · exact .inl hpassword
  · by_cases hpasskey : (s.passkeys.getI userID).Any fun _ _ => True
    · exact .inr (.inr hpasskey)
    · have hnone : (s.passkeys.getI userID).keys.card = 0 := by
        refine Finset.card_eq_zero.mpr (Finset.eq_empty_of_forall_notMem fun id hid => ?_)
        obtain ⟨passkey, hget⟩ := FMap.mem_iff_get?.mp (Finmap.mem_keys.mp hid)
        exact hpasskey ⟨id, passkey, hget, trivial⟩
      rw [Store.methods, hnone, if_neg hpassword, Nat.zero_add] at hcount
      obtain ⟨id, identity, hne, hidentity, howner⟩ := FMap.exists_ne_of_one_lt_count hcount identityID
      refine .inr (.inl ⟨id, identity, ?_, howner⟩)
      show (s.ssoIdentities.del identityID).get? id = some identity
      rw [FMap.get?_del, if_neg hne, hidentity]

/-- **What the accesses of the two functions leave.** -/
theorem hasMethod_of_removes ⦃β : Type⦄ (e : Access β) (he : Removes userID e) (hspared : Spared e s)
    (hs : HasMethod userID s) : HasMethod userID (Memory.access e s).2 := by
  rw [access_run]
  cases e with
  | write ctx op commit =>
    refine Call.next_preserves ⟨.op op, commit, ctx⟩ s ?_ hs
    intro m p hm hcore hc hp
    obtain ⟨⟩ := hm
    obtain ⟨passkeyID, rfl⟩ | ⟨identityID, rfl⟩ := he
    · have hbeside : HasMethodBeside userID passkeyID p := by
        obtain ⟨_, rfl⟩ := hcore
        exact hspared
      exact hasMethod_of_deletePasskey hbeside
    · exact hasMethod_of_unlinkSSO hc
  | request r =>
    cases r with
    | query => exact hs
    | update => exact he.elim
  | read | scimUsers | scimGroups => exact hs
  | _ => exact he.elim

end

/-! ## Runs -/

/-- **A user who removes what they sign in with keeps something**: from any state in which the user has
something to sign in with, any interleaving of the user's calls of `DeletePasskey` and `UnlinkSSO`, and of
other calls that leave the user something, leaves the user something, if a passkey is deleted only while
there is something else. -/
theorem method_remains (userID : UUID) (s : Store) (hs : HasMethod userID s) (calls : List RemovalCall)
    (hcalls : ∀ c ∈ calls, c.actor.userID = userID) (labels : List (Pool.Label Call))
    (hspared : Run.Meets Signing.step (Pool.Allows (fun _ _ e s => Spared e s)
      fun s c => HasMethod userID s → HasMethod userID (c.next s))
      ⟨s, calls.map fun c => c.routine.program⟩ labels) :
    HasMethod userID
      (Run.run Signing.step ⟨s, calls.map fun c => c.routine.program⟩ labels).state := by
  refine (Pool.ensures_of_run (I := HasMethod userID) (A := fun _ _ _ _ => True)
    (Q := fun _ => Removes userID) (P := fun _ _ => True) ?_ (fun _ _ h => h) hs ?_ hspared).1
  · intro i β e s he hs hspared
    exact ⟨trivial, hasMethod_of_removes e he hspared hs⟩
  · intro i p hi
    obtain ⟨c, hc, rfl⟩ := List.mem_map.mp (List.mem_of_getElem? hi)
    exact (hcalls c hc ▸ c.removes).ensures

/-- User 2 has a passkey and no password. -/
def passkeyCalls (count : Nat) : List Call :=
  [tenantCall (.account (.bootstrap (tenantUser 1) (tenantEmail 41 1 "one@example.com") default
      { (default : Workspace) with id := uuidv7 1 } (tenantMembership 1 .admin .active)
      { (default : InstanceAdministrator) with userID := uuidv7 1, role := .root })) 1,
    tenantCall (.directory (.createSCIMConfiguration tenantConfiguration default)) 2,
    tenantCall (.directory (.createSCIMUser (tenantUser 2) (tenantEmail 42 2 "two@example.com")
      (tenantMembership 2 .member .active) { (default : SCIMUser) with
        id := uuidv7 61, configurationID := uuidv7 60, userID := uuidv7 2, userName := "two" })) 3]
  ++ (List.range count).map fun n => tenantCall (.factor (.savePasskey { (default : Passkey) with
    id := uuidv7 (80 + n), userID := uuidv7 2, credentialID := [n.toUInt8] })) (10 + n)

/-- User 2 deletes a passkey. -/
def tenantDeletion : RemovalCall where
  manager := tenantAccounts
  io := tenantAccountSupply 700
  actor := { userID := uuidv7 2, method := .passkey, level := 2, authenticatedAt := 900 }
  removed := .inl (uuidv7 80)

/-- One of two passkeys is deleted. -/
theorem method_remains_tenant : HasMethod (uuidv7 2) (Run.run Signing.step
    ⟨Store.after (passkeyCalls 2), [tenantDeletion.routine.program]⟩ (List.replicate 2 (.thread 0))).state := by
  refine method_remains (uuidv7 2) (Store.after (passkeyCalls 2)) (by decide +kernel) [tenantDeletion]
    (by simp [tenantDeletion]) (List.replicate 2 (.thread 0)) ?_
  have hbeside : HasMethodBeside (uuidv7 2) (uuidv7 80) (Store.after (passkeyCalls 2)) := by decide +kernel
  exact ⟨trivial, hbeside, trivial⟩

/-- **The last passkey is deleted**: the call succeeds, and the user has nothing left to sign in with. -/
theorem last_method_deleted :
    let outcome := tenantDeletion.routine.program.exec Memory.access (Store.after (passkeyCalls 1))
    HasMethod (uuidv7 2) (Store.after (passkeyCalls 1))
      ∧ (Store.after (passkeyCalls 1)).isDisabled (uuidv7 2) = false
      ∧ outcome.1.isOk = true ∧ ¬ HasMethod (uuidv7 2) outcome.2 := by
  decide +kernel

end Credbound.Stores
