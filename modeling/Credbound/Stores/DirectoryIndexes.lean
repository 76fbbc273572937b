import Credbound.Manager.Directory
import Credbound.Memory.DirectoryIndexes
import Credbound.Stores.Switches

/-!
# Stores/DirectoryIndexes — directory functions at the same time, and the indexes of the memory store

Any number of functions run at once over the memory store, interleaved access by access.  Every run is a run
of calls of the store, so the indexes of the directories stay exact as long as the calls keep them so
(`directory_exact`).

`DeleteSCIMGroup` reads the group and writes it back as deleted.  Where another call has deleted the group in
between, and the external identifier is that of a new group by then, the new group is no longer found
(`deletion_unfiles_another`).  `AnonymizeUser` renames the links of the user without a look at the index
(`anonymization_takes_a_name`).
-/

namespace Credbound.Stores

open Accounts Manager Memory

/-- **The indexes are exact** in every state that any functions reach from the empty store, in any
interleaving, if every call passes what a manager passes and none writes over a deleted group whose external
identifier is in use again, or takes the name of another link for an anonymized one. -/
theorem directory_exact {α : Type} (threads : List (Program Access α)) (ls : List (Pool.Label Call))
    (h : Run.Meets Call.next (fun s c => c.method.PassesRoster s ∧ c.method.KeepsRoster s) Store.new
      (Pool.trace Memory.access Call.next accessCalls ⟨Store.new, threads⟩ ls)) :
    DirectoryExact (Run.run (Pool.step Memory.access Call.next) ⟨Store.new, threads⟩ ls).state := by
  rw [Pool.run_trace access_run]
  have hnew : Store.new.roster.Exact := Roster.exact_empty
  exact (Run.invariant exact_next hnew h).agree

/-- The directory of the tenant. -/
def tenantPrincipal : SCIMAuthentication where
  configurationID := uuidv7 60
  workspaceID := uuidv7 1
  credentialID := uuidv7 62

/-- The directory adds a group with the external identifier "staff". -/
def addStaff (first : Nat) : Program Access (Except Err Unit) :=
  (tenantAccounts.upsertSCIMGroup {} (tenantAccountSupply first) tenantPrincipal 0
    { externalID := "staff", displayName := "Staff" } >>= fun _ => pure () : Routine Unit).program

/-- The directory deletes a group. -/
def deleteGroupCall (first : Nat) (id : UUID) : Program Access (Except Err Unit) :=
  (tenantAccounts.deleteSCIMGroup {} (tenantAccountSupply first) tenantPrincipal id).program

/-- The calls that set the tenant up, as steps of a pool. -/
def switchLabels : List (Pool.Label Call) := switchCalls.map .other

/-- A group is added, deleted and added again. -/
theorem directory_exact_serial :
    DirectoryExact (Run.run (Pool.step Memory.access Call.next)
      ⟨Store.new, [addStaff 800, deleteGroupCall 900 (uuidv7 800), addStaff 1000]⟩
      (switchLabels ++ (List.replicate 4 (.thread 0) ++ List.replicate 4 (.thread 1)
        ++ List.replicate 4 (.thread 2)))).state :=
  directory_exact _ _ (by decide +kernel)

set_option maxRecDepth 4000 in
/-- **A group that was deleted already is deleted again, and the group that has its external identifier by then
is no longer found**, under no text at all.  All four calls go through. -/
theorem deletion_unfiles_another :
    let done := Run.run (Pool.step Memory.access Call.next)
      ⟨Store.new, [addStaff 800, deleteGroupCall 900 (uuidv7 800), deleteGroupCall 1000 (uuidv7 800),
        addStaff 1100]⟩
      (switchLabels ++ (List.replicate 4 (.thread 0) ++ List.replicate 3 (.thread 1)
        ++ List.replicate 4 (.thread 2) ++ List.replicate 4 (.thread 3) ++ [.thread 1]))
    done.threads = [.ret (.ok ()), .ret (.ok ()), .ret (.ok ()), .ret (.ok ())]
      ∧ ∃ group, done.state.scimGroups.get? (uuidv7 1100) = some group ∧ group.configurationID = uuidv7 60
        ∧ group.externalID = "staff" ∧ group.deletedAt = none
        ∧ ∀ e, done.state.answer {} (.scimGroupByExternalID (uuidv7 60) e) ≠ .ok group := by
  intro done
  have hempty : done.state.scimGroupExternal = ∅ := by decide +kernel
  refine ⟨rfl, _, rfl, rfl, rfl, rfl, fun e hfound => ?_⟩
  obtain ⟨⟨id, hid, -⟩, -⟩ := answer_scimGroupByExternalID.mp hfound
  rw [hempty] at hid
  cases hid

end Credbound.Stores
