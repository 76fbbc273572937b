import Credbound.Types.OAuth
import Mathlib.Data.List.Sort
import Mathlib.Data.List.DropRight
import Mathlib.Data.List.Destutter

/-!
# Manager/Text — the text formats of the authorization server

Bearer tokens, scopes, PKCE values and permission names, as the manager reads them.  A length in the
source is a length in bytes; in a text whose characters are all ASCII it is the number of characters,
and every pattern below admits ASCII only.
-/

namespace Credbound.Manager

/-! ## Characters -/

/-- `unicode.IsSpace`. -/
def isSpace (c : Char) : Bool :=
  let n := c.toNat
  9 ≤ n ∧ n ≤ 13 ∨ n = 0x20 ∨ n = 0x85 ∨ n = 0xa0 ∨ n = 0x1680 ∨ 0x2000 ≤ n ∧ n ≤ 0x200a
    ∨ n = 0x2028 ∨ n = 0x2029 ∨ n = 0x202f ∨ n = 0x205f ∨ n = 0x3000

/-- `strings.TrimSpace`. -/
def trimSpace (text : String) : String :=
  String.ofList ((text.toList.dropWhile isSpace).rdropWhile isSpace)

/-- `strings.Fields`: the maximal runs of characters that are not space. -/
def fields (text : String) : List String :=
  ((text.toList.splitOnP isSpace).filter fun word => word ≠ []).map String.ofList

/-- A character of the URL-safe base64 alphabet. -/
def isBase64URL (c : Char) : Bool := c.isAlphanum || c == '-' || c == '_'

def isHex (c : Char) : Bool := c.isDigit || ('a' ≤ c && c ≤ 'f') || ('A' ≤ c && c ≤ 'F')

/-! ## Patterns -/

/-- A pattern of a first character, and a bounded number of others. -/
def headed (first other : Char → Bool) (most : Nat) (text : String) : Bool :=
  match text.toList with
  | [] => false
  | c :: cs => first c && cs.length ≤ most && cs.all other

/-- `oauthScopePattern`. -/
def oauthScopePattern : String → Bool :=
  headed Char.isAlphanum (fun c => c.isAlphanum || c ∈ "._~+:/-".toList) 127

/-- `workspacePermissionPattern`. -/
def workspacePermissionPattern : String → Bool :=
  headed Char.isLower (fun c => c.isLower || c.isDigit || c ∈ "._-".toList) 127

/-- `pkceVerifierPattern`. -/
def pkceVerifierPattern (text : String) : Bool :=
  43 ≤ text.toList.length && text.toList.length ≤ 128
    && text.toList.all fun c => c.isAlphanum || c ∈ "._~-".toList

/-- `validPKCEChallenge`: the base64 of thirty-two bytes. -/
def validPKCEChallenge (challenge : String) : Bool :=
  challenge.toList.length = 43 && challenge.toList.all isBase64URL

/-! ## Bearer tokens -/

/-- The text before the first underscore, and the text after it. -/
def cutUnderscore (text : List Char) : Option (List Char × List Char) :=
  match text.dropWhile (· ≠ '_') with
  | [] => none
  | _ :: rest => some (text.takeWhile (· ≠ '_'), rest)

/-- `parseOAuthBearer`: the lookup prefix of `marker_prefix_secret`. -/
def parseOAuthBearer (marker raw : String) : Option String :=
  (cutUnderscore raw.toList).bind fun head =>
    (cutUnderscore head.2).bind fun pair =>
      if head.1 = marker.toList ∧ pair.1.length = 12 ∧ pair.2.length = 43 ∧ pair.1.all isHex
        ∧ pair.2.all isBase64URL then some (String.ofList pair.1) else none

/-- The identifier a text spells, whatever stands between its digits. -/
def uuidOfText (text : List Char) : UUID :=
  ⟨BitVec.ofNat 128 ((text.filter isHex).foldl (fun n c => 16 * n + hexValue c) 0)⟩
where
  hexValue (c : Char) : Nat := if c.isDigit then c.toNat - '0'.toNat else c.toLower.toNat - 'a'.toNat + 10

/-- `ParseUUID`, for a text that has to be canonical. -/
def parseUUID (text : List Char) : Option UUID :=
  if (uuidOfText text).string = String.ofList text then some (uuidOfText text) else none

/-- `parseSecretToken`: the identifier of `marker_id_secret`. -/
def parseSecretToken (marker raw : String) : Option UUID :=
  (cutUnderscore raw.toList).bind fun head =>
    (cutUnderscore head.2).bind fun pair =>
      if head.1 = marker.toList ∧ pair.2.length = 43 ∧ pair.2.all isBase64URL then
        (parseUUID pair.1).filter validUUIDv7 else none

/-- `parsePAT`: the lookup prefix of `marker_prefix_secret`. -/
def parsePAT (marker raw : String) : Option String := parseOAuthBearer marker raw

/-- `normalizeEmail`. -/
def normalizeEmail (value : String) : String := (trimSpace value).toLower

/-- The text after the last `@`, if there is one and something follows. -/
def emailDomain (email : String) : Option String :=
  let reversed := email.toList.reverse
  let domain := (reversed.takeWhile (· ≠ '@')).reverse
  if '@' ∈ reversed ∧ domain ≠ [] then some (String.ofList domain) else none

/-! ## Scopes -/

/-- `oauthReservedScope`. -/
def oauthReservedScope (scope : String) : Bool :=
  scope = "openid" ∨ scope = "profile" ∨ scope = "email" ∨ scope = "offline_access"

/-- `oauthReservedScopeDescription`. -/
def oauthReservedScopeDescription (scope : String) : String :=
  if scope = "openid" then "Identify the signed-in user"
  else if scope = "profile" then "Read the user's basic profile"
  else if scope = "email" then "Read the user's primary email address"
  else if scope = "offline_access" then "Keep access when the user is not present"
  else scope

/-- `oauthScopeDefinition`. -/
def oauthScopeDefinition (definitions : List OAuthScopeDefinition) (name : String) :
    Option OAuthScopeDefinition :=
  definitions.find? fun definition => definition.name = name

/-- `slices.Sort` followed by `slices.Compact`. -/
def sortCompact (texts : List String) : List String :=
  (texts.insertionSort (· ≤ ·)).destutter (· ≠ ·)

theorem mem_destutter'_ne {α : Type} [DecidableEq α] {a x : α} {l : List α} :
    x ∈ l.destutter' (· ≠ ·) a ↔ x = a ∨ x ∈ l := by
  induction l generalizing a with
  | nil => simp
  | cons b l ih =>
    by_cases hab : a = b
    · subst hab
      rw [List.destutter'_cons_neg _ (by simp), ih]
      simp
    · rw [List.destutter'_cons_pos _ hab, List.mem_cons, ih, List.mem_cons]

/-- Compacting a list keeps what is in it. -/
theorem mem_destutter_ne {α : Type} [DecidableEq α] {x : α} {l : List α} : x ∈ l.destutter (· ≠ ·) ↔ x ∈ l := by
  cases l with
  | nil => rfl
  | cons a l => rw [List.destutter_cons', mem_destutter'_ne, List.mem_cons]

/-- `normalizeOptionalOAuthScopes`. -/
def normalizeOptionalOAuthScopes (scopes : List String) : Except Err (List String) := do
  require (scopes.length ≤ 100) .invalidInput
  require (∀ scope ∈ scopes, oauthScopePattern (trimSpace scope) = true) .invalidInput
  return sortCompact (scopes.map trimSpace)

/-- `scopesSubset`. -/
def scopesSubset (requested available : List String) : Bool :=
  requested.all fun scope => available.contains scope

end Credbound.Manager
