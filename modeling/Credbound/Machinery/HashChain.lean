import Mathlib.Data.List.Basic
import Mathlib.Data.List.Induction

/-!
# Machinery/HashChain — records chained by a hash, and a canonical encoding for them

A **field** is written as its length in decimal, a colon, its bytes and a semicolon.  A field can be told apart from
what follows it (`field_append_inj`), so lists of as many fields are read back from their encoding
(`flatMap_field_inj`).

A **chain** hashes each record together with the hash before it.  Two chains of one length from one start that end
in the same hash hold the same records (`eq_of_head_eq`), if the hash has no collision on what the two hash.
-/

namespace HashChain

/-! ## Texts as bytes -/

theorem toList_loop (bytes : ByteArray) (i : Nat) (acc : List UInt8) :
    ByteArray.toList.loop bytes i acc = acc.reverse ++ bytes.data.toList.drop i := by
  induction hk : bytes.size - i generalizing i acc with
  | zero =>
    have hi : ¬ i < bytes.size := by omega
    rw [ByteArray.toList.loop.eq_def, if_neg hi, List.drop_of_length_le, List.append_nil]
    simpa using Nat.le_of_not_lt hi
  | succ k ih =>
    have hi : i < bytes.size := by omega
    have hget : bytes.get! i = bytes.data[i] := getElem!_pos bytes.data i hi
    have hdrop : bytes.data.toList.drop i = bytes.data[i] :: bytes.data.toList.drop (i + 1) :=
      List.drop_eq_getElem_cons (l := bytes.data.toList) hi
    rw [ByteArray.toList.loop.eq_def, if_pos hi, ih (i + 1) _ (by omega), List.reverse_cons, List.append_assoc,
      hdrop, hget]
    rfl

theorem toList_eq (bytes : ByteArray) : bytes.toList = bytes.data.toList := toList_loop bytes 0 []

/-- The bytes of a text. -/
def bytesOf (text : String) : List UInt8 := text.toUTF8.toList

theorem bytesOf_injective : Function.Injective bytesOf := by
  intro text text' h
  rw [bytesOf, bytesOf, toList_eq, toList_eq] at h
  exact String.toByteArray_inj.mp (ByteArray.ext (Array.toList_inj.mp h))

/-- Digits are written in one byte each, and a colon is not one of them. -/
theorem colon_notMem_bytesOf_digits {digits : List Char} (h : ∀ c ∈ digits, c.isDigit = true) :
    58 ∉ bytesOf (String.ofList digits) := by
  rw [bytesOf, toList_eq, String.toUTF8_eq_toByteArray, String.toByteArray_ofList, List.utf8Encode]
  intro hmem
  rw [show (digits.flatMap String.utf8EncodeChar).toByteArray.data.toList = digits.flatMap String.utf8EncodeChar by
    simp] at hmem
  obtain ⟨c, hc, hbyte⟩ := List.mem_flatMap.mp hmem
  have hdigit : 48 ≤ c.val ∧ c.val ≤ 57 := by simpa [Char.isDigit] using h c hc
  have hsize : c.utf8Size = 1 := if_pos (UInt32.le_trans hdigit.2 (by decide))
  rw [String.utf8EncodeChar_eq_singleton hsize, List.mem_singleton] at hbyte
  have hnat : (58 : UInt8).toNat = c.val.toNat % 256 := congrArg UInt8.toNat hbyte
  have hle : c.val.toNat ≤ 57 := hdigit.2
  rw [Nat.mod_eq_of_lt (by omega)] at hnat
  have h58 : (58 : UInt8).toNat = 58 := rfl
  omega

theorem colon_notMem_bytesOf_length (n : Nat) : 58 ∉ bytesOf (toString n) := by
  rw [Nat.toString_eq_ofList_toDigits]
  exact colon_notMem_bytesOf_digits fun c hc => Nat.isDigit_of_mem_toDigits (by decide) (by decide) hc

/-! ## Fields -/

/-- A field: its length, a colon, its bytes and a semicolon. -/
def field (bytes : List UInt8) : List UInt8 := bytesOf (toString bytes.length) ++ 58 :: (bytes ++ [59])

/-- What stands before the first colon. -/
theorem append_colon_inj {a b x y : List UInt8} (ha : 58 ∉ a) (hb : 58 ∉ b) (h : a ++ 58 :: x = b ++ 58 :: y) :
    a = b ∧ x = y := by
  induction a generalizing b with
  | nil =>
    cases b with
    | nil => exact ⟨rfl, List.tail_eq_of_cons_eq h⟩
    | cons c b => exact absurd (List.head_eq_of_cons_eq h ▸ List.mem_cons_self) hb
  | cons c a ih =>
    cases b with
    | nil => exact absurd (List.head_eq_of_cons_eq h ▸ List.mem_cons_self) ha
    | cons d b =>
      obtain ⟨rfl, hrest⟩ := List.cons_eq_cons.mp h
      obtain ⟨rfl, hxy⟩ := ih (fun hc => ha (List.mem_cons_of_mem _ hc)) (fun hc => hb (List.mem_cons_of_mem _ hc)) hrest
      exact ⟨rfl, hxy⟩

/-- **A field ends where its length says.** -/
theorem field_append_inj {v w x y : List UInt8} (h : field v ++ x = field w ++ y) : v = w ∧ x = y := by
  simp only [field, List.append_assoc, List.cons_append, List.nil_append] at h
  obtain ⟨hlength, hrest⟩ := append_colon_inj (colon_notMem_bytesOf_length _) (colon_notMem_bytesOf_length _) h
  have hsame : v.length = w.length := by
    have htext : toString v.length = toString w.length := bytesOf_injective hlength
    rw [Nat.toString_eq_ofList_toDigits, Nat.toString_eq_ofList_toDigits] at htext
    have hdigits := congrArg (Nat.ofDigitChars 10 · 0) (String.ofList_injective htext)
    simpa only [Nat.ofDigitChars_ten_toDigits] using hdigits
  obtain ⟨hvalue, htail⟩ := List.append_inj hrest hsame
  exact ⟨hvalue, List.tail_eq_of_cons_eq htail⟩

/-- **Fields are read back from their encoding.** -/
theorem flatMap_field_inj {α : Type} {encode : α → List UInt8} (hencode : Function.Injective encode) {vs ws : List α}
    (hlength : vs.length = ws.length) (h : vs.flatMap (fun v => field (encode v)) = ws.flatMap (fun v => field (encode v))) :
    vs = ws := by
  induction vs generalizing ws with
  | nil => exact (List.length_eq_zero_iff.mp hlength.symm).symm
  | cons v vs ih =>
    cases ws with
    | nil => cases hlength
    | cons w ws =>
      rw [List.flatMap_cons, List.flatMap_cons] at h
      obtain ⟨hhead, htail⟩ := field_append_inj h
      rw [hencode hhead, ih (Nat.succ.inj hlength) htail]

/-! ## Chains -/

section Chain

variable {H R : Type} (link : H → R → H)

/-- The last hash of a chain. -/
def head (start : H) (records : List R) : H := records.foldl link start

/-- What the chain hashes: each record with the hash before it. -/
def inputs : H → List R → List (H × R)
  | _, [] => []
  | start, record :: records => (start, record) :: inputs (link start record) records

@[simp] theorem head_cons (start : H) (record : R) (records : List R) :
    head link start (record :: records) = head link (link start record) records := rfl

theorem head_append (start : H) (records more : List R) :
    head link start (records ++ more) = head link (head link start records) more := List.foldl_append

theorem inputs_append (start : H) (records more : List R) :
    inputs link start (records ++ more) = inputs link start records ++ inputs link (head link start records) more := by
  induction records generalizing start with
  | nil => rfl
  | cons record records ih => rw [List.cons_append, inputs, ih, inputs, head_cons, List.cons_append]

variable {link}

/-- **The last hash of a chain determines its records.** -/
theorem eq_of_head_eq {start : H} {records records' : List R} (hlength : records.length = records'.length)
    (hinjective : ∀ x ∈ inputs link start records, ∀ y ∈ inputs link start records',
      link x.1 x.2 = link y.1 y.2 → x = y)
    (h : head link start records = head link start records') : records = records' := by
  induction records using List.reverseRecOn generalizing records' with
  | nil => exact (List.length_eq_zero_iff.mp hlength.symm).symm
  | append_singleton records record ih =>
    obtain rfl | ⟨others, other, rfl⟩ := List.eq_nil_or_concat' records'
    · simp at hlength
    · rw [inputs_append, inputs_append] at hinjective
      rw [head_append, head_append] at h
      -- the two last records are hashed with the heads of what is before them
      have hlast := hinjective (head link start records, record) (by simp [inputs])
        (head link start others, other) (by simp [inputs]) h
      obtain ⟨hbefore, rfl⟩ := Prod.mk.inj hlast
      have hrest := ih (by simpa using hlength)
        (fun x hx y hy => hinjective x (List.mem_append_left _ hx) y (List.mem_append_left _ hy)) hbefore
      rw [hrest]

end Chain

end HashChain
