import Credbound.Machinery.Json
import Credbound.Manager.Directory

/-!
# SCIMHandler/UserPatch — the operations of a PATCH on a SCIM user

`patchUser` takes the operations one after the other.  A path that is not one of its own names an attribute, unless it
has a point in it or a reserved name: every other text is taken for one, a value filter among them
(`filter_stored_as_attribute`).  Which paths are told apart from attributes is `onlyImplemented_iff`.

The e-mails of an operation are decoded into those that are there, which leaves fields of theirs behind
(`emails_depend_iff`).
-/

namespace Credbound.SCIMHandler

open Json
open Manager (trimSpace SCIMUserInput)

/-! ## Requests -/

def patchSchema : String := "urn:ietf:params:scim:api:messages:2.0:PatchOp"

/-- `json.RawMessage`: a text, and the value it reads as. -/
structure RawMessage where
  text : Bytes
  value : Json

/-- `patchOperation`. -/
structure PatchOperation where
  op : String
  path : String
  value : Option RawMessage

/-- `patchRequest`. -/
structure PatchRequest where
  schemas : List String
  operations : List PatchOperation

/-- The lower case of a letter, and of the two characters beyond ASCII that have one within. -/
def lowerChar (c : Char) : Char := if c = 'İ' then 'i' else if c = 'K' then 'k' else c.toLower

/-- `strings.ToLower`, as far as a comparison with an ASCII text can tell. -/
def toLower (text : String) : String := String.ofList (text.toList.map lowerChar)

/-- `reservedUserAttribute`. -/
def reservedUserAttribute (key : String) : Bool :=
  toLower key ∈ ["schemas", "id", "externalid", "username", "displayname", "emails", "active", "password", "meta",
    "attributes"]

/-- The value of the operation, into what is there. -/
def PatchOperation.decode {α : Type} (operation : PatchOperation) (d : Json → Option α) : Except Err α :=
  (operation.value.bind fun raw => d raw.value).elim (.error .invalidInput) .ok

/-- `SCIMEmail`. -/
def emailFields : List String := ["value", "type", "primary"]

def intoEmail (old : SCIMEmail) : Json → Option SCIMEmail
  | .null => some old
  | .obj members => do
    let value ← intoField emailFields "value" text? old.value members
    let type ← intoField emailFields "type" text? old.type members
    let primary ← intoField emailFields "primary" flag? old.primary members
    return { value := value, type := type, primary := primary }
  | _ => none

def noEmail : SCIMEmail := { value := "", type := "", primary := false }

/-- `userResource`, as the value of an operation is decoded. -/
structure UserResource where
  schemas : List String
  externalID : String
  userName : String
  displayName : String
  emails : Option (Slice SCIMEmail)
  active : Option Bool
  password : String
  attributes : FMap String Bytes

/-! ## `patchUser` -/

/-- What the operations have come to, with what is left in the array of the e-mails past its end. -/
structure UserPatch extends SCIMUserInput where
  spare : List SCIMEmail

def UserPatch.withEmails (input : UserPatch) (emails : Slice SCIMEmail) : UserPatch :=
  { input with emails := emails.items, spare := emails.spare }

/-- The fields that a user document sets. -/
def UserPatch.merge (input : UserPatch) (value : UserResource) : UserPatch :=
  { value.emails.elim input input.withEmails with
    schemas := if value.schemas = [] then input.schemas else value.schemas
    externalID := if value.externalID = "" then input.externalID else value.externalID
    userName := if value.userName = "" then input.userName else value.userName
    displayName := if value.displayName = "" then input.displayName else value.displayName
    active := value.active.getD input.active
    attributes := value.attributes ∪ input.attributes }

/-- One operation of `patchUser`.  `unmarshalUser` decodes a user document. -/
def patchUserOperation (unmarshalUser : Json → Option UserResource) (input : UserPatch) (operation : PatchOperation) :
    Except Err UserPatch :=
  let op := toLower operation.op
  let path := toLower (trimSpace operation.path)
  if ¬ (op = "add" ∨ op = "replace" ∨ op = "remove") then .error .invalidInput
  else if path = "" then
    if op = "remove" then .error .invalidInput
    else do
      let value ← operation.decode unmarshalUser
      require (value.password = "") .invalidInput
      return input.merge value
  else if path = "active" then
    if op = "remove" then .error .invalidInput
    else (operation.decode (into flag? input.active)).map fun active => { input with active := active }
  else if path = "username" then
    if op = "remove" then .error .invalidInput
    else (operation.decode (into text? input.userName)).map fun name => { input with userName := name }
  else if path = "displayname" then
    if op = "remove" then .ok { input with displayName := "" }
    else (operation.decode (into text? input.displayName)).map fun name => { input with displayName := name }
  else if path = "externalid" then
    if op = "remove" then .ok { input with externalID := "" }
    else (operation.decode (into text? input.externalID)).map fun id => { input with externalID := id }
  else if path = "emails" then
    if op = "remove" then .ok (input.withEmails ⟨[], []⟩)
    else (operation.decode (intoSlice intoEmail noEmail ⟨input.emails, input.spare⟩)).map input.withEmails
  else if '.' ∈ path.toList ∨ reservedUserAttribute path then .error .invalidInput
  else if op = "remove" then .ok { input with attributes := input.attributes.del operation.path }
  else match operation.value with
    | some raw => .ok { input with attributes := input.attributes.set operation.path raw.text }
    | none => .error .invalidInput

/-- `patchUser`. -/
def patchUser (unmarshalUser : Json → Option UserResource) (current : SCIMUser) (request : PatchRequest) :
    Except Err SCIMUserInput := do
  require (patchSchema ∈ request.schemas ∧ request.operations ≠ []) .invalidInput
  let input : UserPatch :=
    { schemas := current.schemas, externalID := current.externalID, userName := current.userName
      displayName := current.displayName, emails := current.emails, attributes := current.attributes
      active := current.active, spare := [] }
  let input ← request.operations.foldlM (patchUserOperation unmarshalUser) input
  return input.toSCIMUserInput

/-! ## Paths -/

/-- The paths that are not attributes, as they are compared. -/
def ownPaths : List String := ["", "active", "username", "displayname", "externalid", "emails"]

/-- The name of an attribute: a letter, then letters, digits and the signs that RFC 7643 allows. -/
def plainName (name : String) : Bool :=
  match name.toList with
  | first :: rest => first.isAlpha && rest.all fun c => c.isAlphanum || c = '-' || c = '_' || c = '$'
  | [] => false

/-- A path that the handler implements. -/
def Implemented (path : String) : Prop := toLower (trimSpace path) ∈ ownPaths ∨ plainName (trimSpace path)

/-- Every request that is accepted with the path in it uses a path that is implemented. -/
def OnlyImplemented (path : String) : Prop :=
  ∀ (unmarshalUser : Json → Option UserResource) (current : SCIMUser) (request : PatchRequest) (input : SCIMUserInput),
    patchUser unmarshalUser current request = .ok input →
    (∃ operation ∈ request.operations, operation.path = path) → Implemented path

/-- The path of an operation that is accepted. -/
theorem path_of_ok {unmarshalUser : Json → Option UserResource} {input input' : UserPatch} {operation : PatchOperation}
    (h : patchUserOperation unmarshalUser input operation = .ok input') :
    toLower (trimSpace operation.path) ∈ ownPaths ∨ ¬ ('.' ∈ (toLower (trimSpace operation.path)).toList
        ∨ reservedUserAttribute (toLower (trimSpace operation.path))) := by
  by_contra hnot
  rw [not_or, not_not] at hnot
  obtain ⟨hown, hrefused⟩ := hnot
  simp only [ownPaths, List.mem_cons, List.not_mem_nil, or_false, not_or] at hown
  obtain ⟨h₀, h₁, h₂, h₃, h₄, h₅⟩ := hown
  unfold patchUserOperation at h
  dsimp only at h
  rw [if_neg h₀, if_neg h₁, if_neg h₂, if_neg h₃, if_neg h₄, if_neg h₅, if_pos hrefused, ite_self] at h
  cases h

theorem exists_of_foldlM {σ β : Type} {f : σ → β → Except Err σ} {bs : List β} {s t : σ}
    (h : bs.foldlM f s = .ok t) {b : β} (hb : b ∈ bs) : ∃ s' t', f s' b = .ok t' := by
  induction bs generalizing s with
  | nil => cases hb
  | cons b' bs ih =>
    rw [List.foldlM_cons, check_bind] at h
    obtain ⟨s', hs', h⟩ := h
    obtain rfl | hb := List.mem_cons.mp hb
    · exact ⟨s, s', hs'⟩
    · exact ih h hb

/-- A request that sets an attribute. -/
theorem attribute_stored (unmarshalUser : Json → Option UserResource) (current : SCIMUser) {path : String}
    (raw : RawMessage) (hown : toLower (trimSpace path) ∉ ownPaths)
    (hallowed : ¬ ('.' ∈ (toLower (trimSpace path)).toList ∨ reservedUserAttribute (toLower (trimSpace path)))) :
    ∃ input, patchUser unmarshalUser current ⟨[patchSchema], [⟨"replace", path, some raw⟩]⟩ = .ok input
      ∧ input.attributes.get? path = some raw.text := by
  simp only [ownPaths, List.mem_cons, List.not_mem_nil, or_false, not_or] at hown
  obtain ⟨h₀, h₁, h₂, h₃, h₄, h₅⟩ := hown
  have hop : toLower "replace" = "replace" := by decide +kernel
  have hstep (input : UserPatch) : patchUserOperation unmarshalUser input ⟨"replace", path, some raw⟩
      = .ok { input with attributes := input.attributes.set path raw.text } := by
    simp only [patchUserOperation, hop, h₀, h₁, h₂, h₃, h₄, h₅, hallowed]
    rfl
  rw [patchUser, require, if_pos (by simp)]
  dsimp only
  rw [List.foldlM_cons, hstep]
  exact ⟨_, rfl, FMap.get?_set_self _ _ _⟩

/-- **The paths that are told apart from attributes**: those that are implemented, and of the others the ones that
have a point in them or a reserved name. -/
theorem onlyImplemented_iff (path : String) :
    OnlyImplemented path ↔ Implemented path ∨ '.' ∈ (toLower (trimSpace path)).toList
      ∨ reservedUserAttribute (toLower (trimSpace path)) := by
  constructor
  · intro h
    by_contra hnot
    obtain ⟨hpath, hallowed⟩ := not_or.mp hnot
    obtain ⟨input, haccepted, -⟩ := attribute_stored (fun _ => none) default ⟨[], .null⟩
      (fun hown => hpath (.inl hown)) hallowed
    exact hpath (h _ _ _ input haccepted ⟨_, List.mem_singleton_self _, rfl⟩)
  · rintro (hpath | hrefused) unmarshalUser current request input haccepted ⟨operation, hoperation, rfl⟩
    · exact hpath
    · rw [patchUser, check_bind] at haccepted
      obtain ⟨_, -, haccepted⟩ := haccepted
      rw [check_bind] at haccepted
      obtain ⟨_, hfold, -⟩ := haccepted
      obtain ⟨_, _, hok⟩ := exists_of_foldlM hfold hoperation
      exact .inl ((path_of_ok hok).resolve_right (not_not_intro hrefused))

/-- A value filter is stored as an attribute. -/
theorem filter_stored_as_attribute :
    ¬ OnlyImplemented "emails[type eq \"work\"]"
      ∧ ∃ input, patchUser (fun _ => none) default
          ⟨[patchSchema], [⟨"replace", "emails[type eq \"work\"]", some ⟨[110], .null⟩⟩]⟩ = .ok input
        ∧ input.attributes.get? "emails[type eq \"work\"]" = some [110] := by
  have hstored := @attribute_stored (fun _ => none) default "emails[type eq \"work\"]" ⟨[110], .null⟩
    (by decide +kernel) (by decide +kernel)
  refine ⟨fun h => ?_, hstored⟩
  obtain ⟨input, haccepted, -⟩ := hstored
  have himplemented := h _ _ _ input haccepted ⟨_, List.mem_singleton_self _, rfl⟩
  revert himplemented
  unfold Implemented
  decide +kernel

/-! ## E-mails -/

/-- An object that gives every field of an e-mail. -/
def GivesAll : Json → Prop
  | .obj members => ∀ field ∈ emailFields, given emailFields field members ≠ []
  | _ => False

theorem intoEmail_obj {old email : SCIMEmail} {members : List (String × Json)} :
    intoEmail old (.obj members) = some email
      ↔ intoField emailFields "value" text? old.value members = some email.value
        ∧ intoField emailFields "type" text? old.type members = some email.type
        ∧ intoField emailFields "primary" flag? old.primary members = some email.primary := by
  obtain ⟨value, type, primary⟩ := email
  simp only [intoEmail, Option.bind_eq_bind, Option.bind_eq_some_iff, Option.pure_def, Option.some.injEq,
    SCIMEmail.mk.injEq]
  constructor
  · rintro ⟨_, hvalue, _, htype, _, hprimary, rfl, rfl, rfl⟩
    exact ⟨hvalue, htype, hprimary⟩
  · rintro ⟨hvalue, htype, hprimary⟩
    exact ⟨_, hvalue, _, htype, _, hprimary, rfl, rfl, rfl⟩

theorem intoEmail_eq_none (item : Json) (old old' : SCIMEmail) (h : intoEmail old item = none) :
    intoEmail old' item = none := by
  cases item with
  | obj members =>
    by_contra hsome
    obtain ⟨email, hemail⟩ := Option.ne_none_iff_exists'.mp hsome
    obtain ⟨hvalue, htype, hprimary⟩ := intoEmail_obj.mp hemail
    obtain ⟨value, hvalue⟩ := exists_intoField hvalue old.value
    obtain ⟨type, htype⟩ := exists_intoField htype old.type
    obtain ⟨primary, hprimary⟩ := exists_intoField hprimary old.primary
    cases h.symm.trans (@intoEmail_obj _ ⟨value, type, primary⟩ _ |>.mpr ⟨hvalue, htype, hprimary⟩)
  | null => cases h
  | _ => rfl

/-- A field that is not given stays what it was. -/
theorem givesAll_iff {item : Json} (haccepted : intoEmail noEmail item ≠ none) :
    (∀ a b, intoEmail a item = intoEmail b item) ↔ GivesAll item := by
  obtain ⟨email, hemail⟩ := Option.ne_none_iff_exists'.mp haccepted
  cases item with
  | null =>
    refine ⟨fun h => ?_, False.elim⟩
    cases h noEmail { noEmail with primary := true }
  | obj members =>
    constructor
    · intro h field hfield hnil
      have hsame (old : SCIMEmail) := intoEmail_obj.mp ((h old noEmail).trans hemail)
      simp only [emailFields, List.mem_cons, List.not_mem_nil, or_false] at hfield
      obtain rfl | rfl | rfl := hfield
      · have hold (old : SCIMEmail) := (intoField_of_nil hnil _).symm.trans (hsame old).1
        exact absurd ((hold noEmail).trans (hold { noEmail with value := "a" }).symm) (by decide)
      · have hold (old : SCIMEmail) := (intoField_of_nil hnil _).symm.trans (hsame old).2.1
        exact absurd ((hold noEmail).trans (hold { noEmail with type := "a" }).symm) (by decide)
      · have hold (old : SCIMEmail) := (intoField_of_nil hnil _).symm.trans (hsame old).2.2
        cases (hold noEmail).trans (hold { noEmail with primary := true }).symm
    · intro h a b
      rw [intoEmail, intoEmail, intoField_eq (h "value" (by decide)) a.value b.value,
        intoField_eq (h "type" (by decide)) a.type b.type, intoField_eq (h "primary" (by decide)) a.primary b.primary]
  | _ => cases hemail

/-- **The e-mails that an operation gives depend on nothing else**, if the operation is refused, or if every e-mail
has all its fields: a field that is left out is taken from the e-mail that was in its place. -/
theorem emails_independent_iff (unmarshalUser : Json → Option UserResource) {operation : PatchOperation}
    {raw : RawMessage} {items : List Json} (hop : toLower operation.op = "add" ∨ toLower operation.op = "replace")
    (hpath : toLower (trimSpace operation.path) = "emails") (hraw : operation.value = some raw)
    (hitems : raw.value = .arr items) :
    (∀ input input' : UserPatch, (patchUserOperation unmarshalUser input operation).map (·.emails)
        = (patchUserOperation unmarshalUser input' operation).map (·.emails))
      ↔ (∃ item ∈ items, intoEmail noEmail item = none) ∨ ∀ item ∈ items, GivesAll item := by
  have hstep (input : UserPatch) : (patchUserOperation unmarshalUser input operation).map (·.emails)
      = (intoItems intoEmail noEmail (input.emails ++ input.spare) items).elim (.error .invalidInput) .ok := by
    rw [← items_intoSlice ⟨input.emails, input.spare⟩]
    have hdecode : patchUserOperation unmarshalUser input operation
        = (operation.decode (intoSlice intoEmail noEmail ⟨input.emails, input.spare⟩)).map input.withEmails := by
      rcases hop with hop | hop <;> simp only [patchUserOperation, hpath, hop] <;> rfl
    rw [hdecode, PatchOperation.decode, hraw, Option.bind_some, hitems]
    cases intoSlice intoEmail noEmail ⟨input.emails, input.spare⟩ (.arr items) <;> rfl
  have hinj {a b : Option (List SCIMEmail)}
      (h : a.elim (.error Err.invalidInput) Except.ok = b.elim (.error Err.invalidInput) Except.ok) : a = b := by
    cases a <;> cases b <;> cases h <;> rfl
  have hrefused (item : Json) : (∀ a, intoEmail a item = none) ↔ intoEmail noEmail item = none :=
    ⟨fun h => h noEmail, fun h a => intoEmail_eq_none item noEmail a h⟩
  calc
    _ ↔ ∀ old old', intoItems intoEmail noEmail old items = intoItems intoEmail noEmail old' items := by
      simp only [hstep]
      refine ⟨fun h old old' => hinj ?_, fun h input input' => by rw [h]⟩
      simpa using h { userName := "", emails := old, spare := [] } { userName := "", emails := old', spare := [] }
    _ ↔ (∃ item ∈ items, intoEmail noEmail item = none)
        ∨ ∀ item ∈ items, ∀ a b, intoEmail a item = intoEmail b item := by
      simp only [intoItems_independent_iff intoEmail_eq_none, hrefused]
    _ ↔ _ := or_congr_right' fun haccepted => forall₂_congr fun item hitem =>
      givesAll_iff fun hnone => haccepted ⟨item, hitem, hnone⟩

/-- An e-mail with all its fields. -/
theorem full_email_independent :
    let operation : PatchOperation := ⟨"replace", "emails",
      some ⟨[], .arr [.obj [("value", .str "a"), ("type", .str "work"), ("primary", .bool true)]]⟩⟩
    ¬ ∃ input input' : UserPatch, (patchUserOperation (fun _ => none) input operation).map (·.emails)
      ≠ (patchUserOperation (fun _ => none) input' operation).map (·.emails) := by
  rintro operation ⟨input, input', hne⟩
  refine hne ((emails_independent_iff (fun _ => none) (.inr ?_) ?_ rfl rfl).mpr (.inr ?_) input input')
  · decide +kernel
  · decide +kernel
  · simp only [List.mem_singleton, forall_eq, GivesAll]
    decide +kernel

/-- A new address is primary for the one that was there. -/
theorem primary_left_behind :
    let request : PatchRequest :=
      ⟨[patchSchema], [⟨"replace", "emails", some ⟨[], .arr [.obj [("value", .str "b")]]⟩⟩]⟩
    let before : SCIMUser := { (default : SCIMUser) with emails := [⟨"a", "work", true⟩] }
    (patchUser (fun _ => none) default request).map (·.emails) = .ok [⟨"b", "", false⟩]
      ∧ (patchUser (fun _ => none) before request).map (·.emails) = .ok [⟨"b", "work", true⟩] := by
  exact ⟨by rfl, by rfl⟩

end Credbound.SCIMHandler
