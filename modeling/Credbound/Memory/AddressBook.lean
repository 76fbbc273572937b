import Credbound.Machinery.Index
import Credbound.Memory.Helpers

/-!
# Memory/AddressBook — users, address records and the two indexes over them

Four maps of the store tell the same story: the users carry their primary address, the records carry
address, owner and verification, `emails` finds the user of an address that may sign in, and
`emailIDs` the record of any stored address.  A `Book` is these four maps; it is `Sound` when they
agree.  The book has one operation for each way the store's methods change it, and each keeps it
sound under the conditions stated there.
-/

namespace Credbound.Memory

/-- The four maps. -/
structure Book where
  users : FMap UUID User
  addresses : FMap UUID EmailAddress
  emails : FMap String UUID
  emailIDs : FMap String UUID

def Store.book (s : Store) : Book := ⟨s.users, s.emailAddresses, s.emails, s.emailIDs⟩

/-- The name a record signs in with: its address, once verified. -/
def signInName (e : EmailAddress) : Option String :=
  if e.verifiedAt = none then none else some e.address

variable {e : EmailAddress}

theorem signInName_eq_some {a : String} : signInName e = some a ↔ e.verifiedAt ≠ none ∧ e.address = a := by
  unfold signInName
  split <;> simp_all

/-- An address in use is the address of one record. -/
theorem alone_signInName {table : FMap UUID EmailAddress} {index : FMap String UUID}
    (h : Files (fun e => some e.address) (fun id _ => id) table index) {id : UUID} (he : table.get? id = some e) :
    Alone signInName table id e.address := by
  intro id' e' he' hname
  have haddress : e'.address = e.address := (signInName_eq_some.mp hname).2
  exact h.alone he rfl id' e' he' (congrArg some haddress)

/-- A record that becomes verified is filed for sign-in. -/
theorem files_verify {table : FMap UUID EmailAddress} {emails emailIDs : FMap String UUID}
    (hlookup : Files signInName (fun _ e => e.userID) table emails)
    (hholder : Files (fun e => some e.address) (fun id _ => id) table emailIDs) {id : UUID}
    (he : table.get? id = some e) (hv : e.verifiedAt = none) (at' : Time) :
    Files signInName (fun _ e => e.userID) (table.set id { e with verifiedAt := some at', updatedAt := at' })
      (emails.set e.address e.userID) := by
  refine hlookup.set ?_ ?_ fun i => ?_
  · intro e₀ i he₀ hname
    obtain rfl := Option.mem_unique he he₀
    exact absurd hv (signInName_eq_some.mp hname).1
  · intro i hi
    obtain ⟨-, rfl⟩ := signInName_eq_some.mp hi
    show Alone signInName table id e.address
    exact alone_signInName hholder he
  · rw [he, FMap.get?_set]
    simp [signInName, hv, eq_comm]

namespace Book

/-- The four maps agree. -/
structure Sound (b : Book) : Prop where
  key : ∀ u user, b.users.get? u = some user → user.id = u
  owner : ∀ id e, b.addresses.get? id = some e → e.userID ∈ b.users
  lookup : Files signInName (fun _ e => e.userID) b.addresses b.emails
  holder : Files (fun e => some e.address) (fun id _ => id) b.addresses b.emailIDs
  primary : ∀ u user, b.users.get? u = some user → ∃ id e, b.addresses.get? id = some e
    ∧ e.userID = u ∧ e.primary = true ∧ e.address = user.email
  unique : ∀ id e id' e', b.addresses.get? id = some e → b.addresses.get? id' = some e' →
    e.userID = e'.userID → e.primary = true → e'.primary = true → id = id'

theorem sound_empty : Sound ⟨∅, ∅, ∅, ∅⟩ where
  key u user h := by cases h
  owner id e h := by cases h
  lookup := Files.empty
  holder := Files.empty
  primary u user h := by cases h
  unique id e id' e' h := by cases h

variable {b : Book}

/-- No record but `id` has the address `a`. -/
def Clear (b : Book) (id : UUID) (a : String) : Prop :=
  ∀ id' e, b.addresses.get? id' = some e → e.address = a → id' = id

variable {e : EmailAddress} {id : UUID} {a : String}

theorem Clear.signIn (h : b.Clear id a) : Alone signInName b.addresses id a :=
  fun id' e he hname => h id' e he (signInName_eq_some.mp hname).2

theorem Clear.holder (h : b.Clear id a) : Alone (fun e : EmailAddress => some e.address) b.addresses id a :=
  fun id' e he hname => h id' e he (Option.some.inj hname)

namespace Sound

/-- A stored address has one record. -/
theorem clear (h : b.Sound) (he : b.addresses.get? id = some e) : b.Clear id e.address :=
  fun id' e' he' ha => h.holder.alone he rfl id' e' he' (congrArg some ha)

theorem signs_alone (h : b.Sound) (he : b.addresses.get? id = some e) (hname : signInName e = some a) :
    Alone signInName b.addresses id a := by
  obtain ⟨-, rfl⟩ := signInName_eq_some.mp hname
  exact (h.clear he).signIn

/-- An address that is not indexed has none. -/
theorem clear_of_free (h : b.Sound) {a : String} (ha : a ∉ b.emailIDs) (id : UUID) : b.Clear id a :=
  fun _ _ he heq => absurd (congrArg some heq) (h.holder.ne_of_get?_none (FMap.get?_eq_none.mpr ha) he)

/-! ## New records -/

/-- A new record is filed under its address, and signs in with it if it is verified. -/
theorem lookup_new (h : b.Sound) (hid : e.id ∉ b.addresses) (ha : e.address ∉ b.emailIDs) :
    Files signInName (fun _ e => e.userID) (b.addresses.set e.id e)
      (if e.verifiedAt.isSome then b.emails.set e.address e.userID else b.emails) := by
  have hnone : b.addresses.get? e.id = none := FMap.get?_eq_none.mpr hid
  refine h.lookup.set (fun _ _ => h.signs_alone) ?_ fun i => ?_
  · intro i hi
    obtain ⟨-, rfl⟩ := signInName_eq_some.mp hi
    exact (h.clear_of_free ha e.id).signIn
  · rw [hnone]
    cases hv : e.verifiedAt with
    | none => simp [signInName, hv]
    | some t =>
      rw [Option.isSome_some, if_pos rfl, FMap.get?_set]
      simp [signInName, hv, eq_comm]

theorem holder_new (h : b.Sound) (hid : e.id ∉ b.addresses) (ha : e.address ∉ b.emailIDs) :
    Files (fun e => some e.address) (fun id _ => id) (b.addresses.set e.id e)
      (b.emailIDs.set e.address e.id) := by
  have hnone : b.addresses.get? e.id = none := FMap.get?_eq_none.mpr hid
  refine h.holder.set (fun _ _ => h.holder.alone) ?_ fun i => ?_
  · intro i hi
    obtain ⟨⟩ := hi
    exact (h.clear_of_free ha e.id).holder
  · rw [hnone, FMap.get?_set]
    simp [eq_comm]

end Sound

/-- A new user with a first record. -/
def enroll (b : Book) (user : User) (e : EmailAddress) : Book where
  users := b.users.set user.id user
  addresses := b.addresses.set e.id e
  emails := if e.verifiedAt.isSome then b.emails.set e.address user.id else b.emails
  emailIDs := b.emailIDs.set e.address e.id

theorem Sound.enroll (h : b.Sound) {user : User} (hu : user.id ∉ b.users) (hid : e.id ∉ b.addresses)
    (ha : e.address ∉ b.emailIDs) (howner : e.userID = user.id) (hprimary : e.primary = true)
    (hmail : e.address = user.email) : (b.enroll user e).Sound := by
  have hnotowner : ∀ id e', b.addresses.get? id = some e' → e'.userID ≠ user.id :=
    fun id e' he' heq => hu (heq ▸ h.owner id e' he')
  have hlookup := h.lookup_new hid ha
  rw [howner] at hlookup
  refine ⟨FMap.All.set h.key rfl, ?_, hlookup, h.holder_new hid ha, ?_, ?_⟩
  · refine FMap.All.set (fun id e' he' => FMap.mem_set (h.owner id e' he')) ?_
    rw [howner]
    exact FMap.mem_of_get? (FMap.get?_set_self b.users user.id user)
  · intro u w hw
    obtain ⟨rfl, rfl⟩ | ⟨-, hw⟩ := FMap.get?_set_eq_some.mp hw
    · exact ⟨e.id, e, FMap.get?_set_self _ _ _, howner, hprimary, hmail⟩
    · obtain ⟨id, e', he', hrest⟩ := h.primary u w hw
      exact ⟨id, e', FMap.get?_set_new hid he', hrest⟩
  · intro id₁ e₁ id₂ e₂ he₁ he₂ howners hp₁ hp₂
    rw [Book.enroll, FMap.get?_set_eq_some] at he₁ he₂
    obtain ⟨rfl, rfl⟩ | ⟨-, he₁⟩ := he₁ <;> obtain ⟨rfl, rfl⟩ | ⟨-, he₂⟩ := he₂
    · rfl
    · exact absurd (howners.symm.trans howner) (hnotowner id₂ e₂ he₂)
    · exact absurd (howners.trans howner) (hnotowner id₁ e₁ he₁)
    · exact h.unique id₁ e₁ id₂ e₂ he₁ he₂ howners hp₁ hp₂

/-- Another record of a user, neither primary nor verified. -/
def add (b : Book) (e : EmailAddress) : Book :=
  { b with addresses := b.addresses.set e.id e, emailIDs := b.emailIDs.set e.address e.id }

theorem Sound.add (h : b.Sound) (hu : e.userID ∈ b.users) (hid : e.id ∉ b.addresses) (ha : e.address ∉ b.emailIDs)
    (hprimary : e.primary = false) (hverified : e.verifiedAt = none) : (b.add e).Sound := by
  have hold : ∀ {id e'}, (b.add e).addresses.get? id = some e' → e'.primary = true →
      b.addresses.get? id = some e' := by
    intro id e' he' hp'
    obtain ⟨rfl, rfl⟩ | ⟨-, he'⟩ := FMap.get?_set_eq_some.mp he'
    · rw [hprimary] at hp'
      cases hp'
    · exact he'
  have hlookup := h.lookup_new hid ha
  rw [hverified] at hlookup
  refine ⟨h.key, FMap.All.set h.owner hu, hlookup, h.holder_new hid ha, ?_, ?_⟩
  · intro u w hw
    obtain ⟨id, e', he', hrest⟩ := h.primary u w hw
    exact ⟨id, e', FMap.get?_set_new hid he', hrest⟩
  · intro id₁ e₁ id₂ e₂ he₁ he₂ howners hp₁ hp₂
    exact h.unique id₁ e₁ id₂ e₂ (hold he₁ hp₁) (hold he₂ hp₂) howners hp₁ hp₂

/-! ## Changed records -/

/-- A record verified: its address joins the sign-in lookup. -/
def verify (b : Book) (id : UUID) (e : EmailAddress) (at' : Time) : Book :=
  { b with
    addresses := b.addresses.set id { e with verifiedAt := some at', updatedAt := at' }
    emails := b.emails.set e.address e.userID }

/-- A record renamed: it leaves its address in both indexes and takes the new one.  The user's own
address follows that of the primary record. -/
def rename (b : Book) (id : UUID) (e : EmailAddress) (a : String) (at' : Time) (user : User) : Book where
  users := b.users.set e.userID (if e.primary then { user with email := a } else user)
  addresses := b.addresses.set id { e with address := a, updatedAt := at' }
  emails := (b.emails.del e.address).set a e.userID
  emailIDs := (b.emailIDs.del e.address).set a id

/-- A record removed, with its address. -/
def remove (b : Book) (id : UUID) (e : EmailAddress) : Book :=
  { b with
    addresses := b.addresses.del id
    emails := b.emails.del e.address
    emailIDs := b.emailIDs.del e.address }

/-- Another record of the user becomes the primary one. -/
def promote (b : Book) (id : UUID) (e : EmailAddress) (user : User) (at' : Time) : Book :=
  { b with
    users := b.users.set e.userID { user with email := e.address, updatedAt := at' }
    addresses := (b.addresses.mapVal fun _ other =>
      if other.userID = e.userID ∧ other.primary then
        { other with primary := false, updatedAt := at' }
      else other).set id { e with primary := true, updatedAt := at' } }

/-- Every record of `rows` has a counterpart in the book, with the same owner and rank. -/
def Keeps (b : Book) (rows : FMap UUID EmailAddress) : Prop :=
  ∀ id e, rows.get? id = some e → ∃ e₀, b.addresses.get? id = some e₀
    ∧ e.userID = e₀.userID ∧ e.primary = e₀.primary

theorem Keeps.owner {rows : FMap UUID EmailAddress} (hk : b.Keeps rows) (h : b.Sound) (id : UUID)
    (e : EmailAddress) (he : rows.get? id = some e) : e.userID ∈ b.users := by
  obtain ⟨e₀, he₀, hu, -⟩ := hk id e he
  exact hu ▸ h.owner id e₀ he₀

theorem Keeps.unique {rows : FMap UUID EmailAddress} (hk : b.Keeps rows) (h : b.Sound)
    (id₁ : UUID) (e₁ : EmailAddress) (id₂ : UUID) (e₂ : EmailAddress) (he₁ : rows.get? id₁ = some e₁)
    (he₂ : rows.get? id₂ = some e₂) (howners : e₁.userID = e₂.userID) (hp₁ : e₁.primary = true)
    (hp₂ : e₂.primary = true) : id₁ = id₂ := by
  obtain ⟨f₁, hf₁, hu₁, hr₁⟩ := hk id₁ e₁ he₁
  obtain ⟨f₂, hf₂, hu₂, hr₂⟩ := hk id₂ e₂ he₂
  exact h.unique id₁ f₁ id₂ f₂ hf₁ hf₂ (hu₁.symm.trans (howners.trans hu₂)) (hr₁ ▸ hp₁) (hr₂ ▸ hp₂)

section

variable (he : b.addresses.get? id = some e)

include he

theorem keeps_set {e' : EmailAddress} (howner : e'.userID = e.userID)
    (hprimary : e'.primary = e.primary) :
    b.Keeps (b.addresses.set id e') :=
  FMap.All.set (fun _ e₁ he₁ => ⟨e₁, he₁, rfl, rfl⟩) ⟨e, he, howner, hprimary⟩

/-- The records after a promotion: only their rank may have changed. -/
theorem get?_promote (user : User) (at' : Time) {id₁ : UUID} {e₁ : EmailAddress}
    (he₁ : (b.promote id e user at').addresses.get? id₁ = some e₁) :
    ∃ e₀, b.addresses.get? id₁ = some e₀ ∧ e₁.userID = e₀.userID
      ∧ (e₁.primary = true → e₁.userID = e.userID → id₁ = id)
      ∧ (e₁.userID ≠ e.userID → e₁ = e₀) := by
  obtain ⟨rfl, rfl⟩ | ⟨-, he₁⟩ := FMap.get?_set_eq_some.mp he₁
  · exact ⟨e, he, rfl, fun _ _ => rfl, fun hne => absurd rfl hne⟩
  · rw [FMap.get?_mapVal] at he₁
    obtain ⟨e₀, he₀, rfl⟩ := Option.map_eq_some_iff.mp he₁
    refine ⟨e₀, he₀, ?_⟩
    split
    · next hdemoted =>
      exact ⟨rfl, fun hp => (by cases hp), fun hne => absurd hdemoted.1 hne⟩
    · next hkept => exact ⟨rfl, fun hp hu => absurd ⟨hu, hp⟩ hkept, fun _ => rfl⟩

/-- …and a record of another user is as it was. -/
theorem get?_promote_other (user : User) (at' : Time) {id₁ : UUID}
    {e₁ : EmailAddress} (he₁ : b.addresses.get? id₁ = some e₁) (hu : e₁.userID ≠ e.userID) :
    (b.promote id e user at').addresses.get? id₁ = some e₁ := by
  have hid : id₁ ≠ id := by
    rintro rfl
    obtain rfl := Option.mem_unique he he₁
    exact hu rfl
  rw [Book.promote, FMap.get?_set_ne _ _ hid, FMap.get?_mapVal, he₁, Option.map_some,
    if_neg fun hdemoted => hu hdemoted.1]

/-- A promotion does not change what the indexes read. -/
theorem promote_same {X : Type} (user : User) (at' : Time) {f : EmailAddress → X}
    (hf : ∀ (e : EmailAddress) (rank : Bool), f { e with primary := rank, updatedAt := at' } = f e) (k : UUID) :
    ((b.promote id e user at').addresses.get? k).map f = (b.addresses.get? k).map f := by
  rw [Book.promote, FMap.get?_set, FMap.get?_mapVal]
  split
  · next hk => rw [hk, he, Option.map_some, Option.map_some, hf]
  · rw [Option.map_map]
    refine congrFun (congrArg Option.map (funext fun other => ?_)) _
    rw [Function.comp_apply]
    split
    · exact hf other false
    · rfl

variable (h : b.Sound)

include h

/-- A record rewritten with the same owner, address and rank. -/
theorem Sound.rewrite {e' : EmailAddress} {emails : FMap String UUID}
    (howner : e'.userID = e.userID) (hprimary : e'.primary = e.primary)
    (haddress : e'.address = e.address)
    (hlookup : Files signInName (fun _ e => e.userID) (b.addresses.set id e') emails) :
    Sound { b with addresses := b.addresses.set id e', emails := emails } := by
  have hkeeps := keeps_set he howner hprimary
  refine ⟨h.key, hkeeps.owner h, hlookup, h.holder.set_same he (congrArg some haddress) rfl, ?_, hkeeps.unique h⟩
  intro u w hw
  obtain ⟨id₀, e₀, he₀, hu, hp, ha⟩ := h.primary u w hw
  by_cases hid : id₀ = id
  · subst hid
    obtain rfl := Option.mem_unique he he₀
    exact ⟨id₀, e', FMap.get?_set_self _ _ _, howner.trans hu, hprimary.trans hp, haddress.trans ha⟩
  · exact ⟨id₀, e₀, (FMap.get?_set_ne _ _ hid).trans he₀, hu, hp, ha⟩

/-- A record stamped with a new time. -/
theorem Sound.stamp (at' : Time) :
    Sound { b with addresses := b.addresses.set id { e with updatedAt := at' } } :=
  h.rewrite he rfl rfl rfl (h.lookup.set_same he rfl rfl)

theorem Sound.verify (hv : e.verifiedAt = none) (at' : Time) :
    (b.verify id e at').Sound :=
  h.rewrite he rfl rfl rfl (files_verify h.lookup h.holder he hv at')

theorem Sound.rename (hv : e.verifiedAt ≠ none)
    (hclear : b.Clear id a) (at' : Time) {user : User} (huser : b.users.get? e.userID = some user) :
    (b.rename id e a at' user).Sound := by
  have hkeeps : b.Keeps (b.rename id e a at' user).addresses := keeps_set he rfl rfl
  refine ⟨FMap.All.set h.key ?_, fun id₁ e₁ he₁ => FMap.mem_set (hkeeps.owner h id₁ e₁ he₁),
    h.lookup.set (fun _ _ => h.signs_alone) ?_ fun i => ?_, h.holder.set (fun _ _ => h.holder.alone) ?_ fun i => ?_,
    ?_, hkeeps.unique h⟩
  · rw [← h.key e.userID user huser]
    split <;> rfl
  · intro i hi
    obtain ⟨-, rfl⟩ := signInName_eq_some.mp hi
    exact hclear.signIn
  · rw [he, Book.rename, FMap.get?_set, FMap.get?_del]
    simp [signInName, hv, eq_comm]
  · intro i hi
    obtain ⟨⟩ := hi
    exact hclear.holder
  · rw [he, Book.rename, FMap.get?_set, FMap.get?_del]
    simp [eq_comm]
  · intro u w hw
    obtain ⟨rfl, rfl⟩ | ⟨hne, hw⟩ := FMap.get?_set_eq_some.mp hw
    · obtain ⟨id₀, e₀, he₀, hu, hp, ha⟩ := h.primary e.userID user huser
      by_cases hid : id₀ = id
      · subst hid
        obtain rfl := Option.mem_unique he he₀
        exact ⟨id₀, _, FMap.get?_set_self _ _ _, rfl, hp, by rw [if_pos hp]⟩
      · -- The renamed record is not the primary one.
        have hnot : e.primary ≠ true := fun hprimary => hid (h.unique id₀ e₀ id e he₀ he hu hp hprimary)
        exact ⟨id₀, e₀, (FMap.get?_set_ne _ _ hid).trans he₀, hu, hp, by rw [if_neg hnot, ha]⟩
    · obtain ⟨id₀, e₀, he₀, hu, hp, ha⟩ := h.primary u w hw
      have hid : id₀ ≠ id := by
        rintro rfl
        obtain rfl := Option.mem_unique he he₀
        exact hne hu.symm
      exact ⟨id₀, e₀, (FMap.get?_set_ne _ _ hid).trans he₀, hu, hp, ha⟩

theorem Sound.remove (hprimary : e.primary = false) :
    (b.remove id e).Sound := by
  have hkeeps : b.Keeps (b.remove id e).addresses := FMap.All.del (fun _ e₁ he₁ => ⟨e₁, he₁, rfl, rfl⟩) id
  refine ⟨h.key, hkeeps.owner h, h.lookup.del (fun _ _ => h.signs_alone) fun i => ?_,
    h.holder.del (fun _ _ => h.holder.alone) fun i => ?_, ?_, hkeeps.unique h⟩
  · rw [he, Book.remove, FMap.get?_del]
    by_cases hi : i = e.address
    · -- An address that does not sign in is not in the lookup in the first place.
      subst hi
      rw [if_pos rfl]
      split
      · rfl
      · next hnot =>
        cases hu : b.emails.get? e.address with
        | none => rfl
        | some u =>
          obtain ⟨id', e', he', hname, -⟩ := (h.lookup e.address u).mp hu
          obtain rfl := (h.clear he).signIn id' e' he' hname
          obtain rfl := Option.mem_unique he he'
          exact absurd ⟨e, rfl, hname⟩ hnot
    · have hnot : ¬ ∃ e₀ ∈ some e, signInName e₀ = some i := by
        rintro ⟨e₀, he₀, hname⟩
        obtain ⟨⟩ := he₀
        exact hi (signInName_eq_some.mp hname).2.symm
      rw [if_neg hi, if_neg hnot]
  · rw [he, Book.remove, FMap.get?_del]
    simp [eq_comm]
  · intro u w hw
    obtain ⟨id₀, e₀, he₀, hu, hp, ha⟩ := h.primary u w hw
    have hid : id₀ ≠ id := by
      rintro rfl
      obtain rfl := Option.mem_unique he he₀
      rw [hprimary] at hp
      cases hp
    exact ⟨id₀, e₀, FMap.get?_del_eq_some.mpr ⟨hid, he₀⟩, hu, hp, ha⟩

theorem Sound.promote {user : User}
    (huser : b.users.get? e.userID = some user) (at' : Time) :
    (b.promote id e user at').Sound := by
  refine ⟨FMap.All.set h.key (h.key e.userID user huser), ?_, h.lookup.of_same fun k => ?_,
    h.holder.of_same fun k => ?_, ?_, ?_⟩
  · intro id₁ e₁ he₁
    obtain ⟨e₀, he₀, hu, -⟩ := get?_promote he user at' he₁
    exact hu ▸ FMap.mem_set (h.owner id₁ e₀ he₀)
  · exact promote_same he user at' (fun _ _ => rfl) k
  · exact promote_same he user at' (fun _ _ => rfl) k
  · intro u w hw
    obtain ⟨rfl, rfl⟩ | ⟨hne, hw⟩ := FMap.get?_set_eq_some.mp hw
    · exact ⟨id, _, FMap.get?_set_self _ _ _, rfl, rfl, rfl⟩
    · obtain ⟨id₀, e₀, he₀, hu, hp, ha⟩ := h.primary u w hw
      exact ⟨id₀, e₀, get?_promote_other he user at' he₀ (hu ▸ hne), hu, hp, ha⟩
  · intro id₁ e₁ id₂ e₂ he₁ he₂ howners hp₁ hp₂
    obtain ⟨f₁, hf₁, -, hown₁, hother₁⟩ := get?_promote he user at' he₁
    obtain ⟨f₂, hf₂, -, hown₂, hother₂⟩ := get?_promote he user at' he₂
    by_cases hu : e₁.userID = e.userID
    · exact (hown₁ hp₁ hu).trans (hown₂ hp₂ (howners ▸ hu)).symm
    · obtain rfl := hother₁ hu
      obtain rfl := hother₂ (howners ▸ hu)
      exact h.unique id₁ e₁ id₂ e₂ hf₁ hf₂ howners hp₁ hp₂

end

/-! ## Users -/

/-- What the book reads of the users: who they are and which address is theirs. -/
def SameNames (users users' : FMap UUID User) : Prop :=
  ∀ u, (users'.get? u).map (fun v => (v.id, v.email)) = (users.get? u).map fun v => (v.id, v.email)

variable {users : FMap UUID User}

theorem SameNames.exists {users' : FMap UUID User} (hs : SameNames users users') {u : UUID} {w : User}
    (hw : users'.get? u = some w) :
    ∃ v, users.get? u = some v ∧ w.id = v.id ∧ w.email = v.email := by
  have hu := hs u
  rw [hw, Option.map_some] at hu
  obtain ⟨v, hv, heq⟩ := Option.map_eq_some_iff.mp hu.symm
  rw [Prod.mk.injEq] at heq
  exact ⟨v, hv, heq.1.symm, heq.2.symm⟩

theorem SameNames.symm {users' : FMap UUID User} (hs : SameNames users users') :
    SameNames users' users := fun u => (hs u).symm

/-- A stored user replaced by one with the same name and address. -/
theorem sameNames_set {u : UUID} {v w : User} (hv : users.get? u = some v) (hid : w.id = v.id)
    (hmail : w.email = v.email) : SameNames users (users.set u w) := by
  intro k
  rw [FMap.get?_set]
  split
  · next hk => rw [hk, hv, Option.map_some, Option.map_some, hid, hmail]
  · rfl

/-- Other changes to the users do not matter. -/
theorem Sound.of_users (h : b.Sound) (hs : SameNames b.users users) : Sound { b with users := users } := by
  refine ⟨?_, ?_, h.lookup, h.holder, ?_, h.unique⟩
  · intro u w hw
    obtain ⟨v, hv, hid, -⟩ := hs.exists hw
    exact hid.trans (h.key u v hv)
  · intro id e he
    obtain ⟨v, hv⟩ := FMap.mem_iff_get?.mp (h.owner id e he)
    obtain ⟨w, hw, -⟩ := hs.symm.exists hv
    exact FMap.mem_of_get? hw
  · intro u w hw
    obtain ⟨v, hv, -, hmail⟩ := hs.exists hw
    obtain ⟨id, e, he, hu, hp, ha⟩ := h.primary u v hv
    exact ⟨id, e, he, hu, hp, ha.trans hmail.symm⟩

end Book

end Credbound.Memory
