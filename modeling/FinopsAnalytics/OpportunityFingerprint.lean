import FinopsAnalytics.Fallible
import FinopsAnalytics.OpportunityRecords

/-!
# The identity of an opportunity

A fingerprint is the digest of a compact JSON array of normalised fields. The
array is written unambiguously: each escaped character can be read back off the
front of the text, so a quoted string ends at its own quotation mark and equal
payloads have equal fields.
-/

namespace FinopsAnalytics.OpportunityFingerprint

open PythonText OpportunityRecords Fallible

/-- The digest of a text in UTF-8, in hexadecimal. -/
class Digest where
  sha256 : String → String

/-- A collision-free digest. -/
class CollisionFree [Digest] : Prop where
  sha256_injective : Function.Injective Digest.sha256

/-- The digest that returns its text, for evaluation at concrete inputs. -/
abbrev plainDigest : Digest where
  sha256 text := text

/-- One hexadecimal digit in lower case. -/
def hexDigit (value : ℕ) : Char := Char.ofNat (if value < 10 then 48 + value else 87 + value)

/-- A character inside a JSON string, with `ensure_ascii=False`. -/
def escapeChar (c : Char) : List Char :=
  if c = '"' then ['\\', '"']
  else if c = '\\' then ['\\', '\\']
  else if c = '\n' then ['\\', 'n']
  else if c = '\r' then ['\\', 'r']
  else if c = '\t' then ['\\', 't']
  else if c.toNat = 8 then ['\\', 'b']
  else if c.toNat = 12 then ['\\', 'f']
  else if c.toNat < 32 then ['\\', 'u', '0', '0', hexDigit (c.toNat / 16), hexDigit (c.toNat % 16)]
  else [c]

def escaped (chars : List Char) : List Char := chars.flatMap escapeChar

/-- A JSON string with its quotation marks. -/
def quoted (text : String) : List Char := '"' :: (escaped text.toList ++ ['"'])

/-- `json.dumps` of a list of strings with compact separators. -/
def dumps (fields : List String) : String :=
  String.ofList ('[' :: (((fields.map quoted).intersperse [',']).flatten ++ [']']))

section Build

variable [CaseMapping]

/-- The text that `_normalize` accepts or refuses. -/
def normalizeText (value : Option String) (lowercase : Bool) : String :=
  let normalized := strip (orEmpty value)
  if lowercase then CaseMapping.lower normalized else normalized

def normalize (value : Option String) (field : String) (lowercase allowEmpty : Bool) :
    Except ServiceError String :=
  let normalized := normalizeText value lowercase
  if normalized = "" && !allowEmpty then .error (.value (field ++ " must not be empty"))
  else .ok normalized

/-- The arguments of `build_opportunity_fingerprint`. -/
structure Identity where
  provider : String
  accountId : String
  region : Option String
  resourceId : String
  ruleId : String
  scope : Option String
deriving DecidableEq, Repr

/-- The normalised fields in the order of the payload. -/
def Identity.fields (identity : Identity) : List String :=
  [normalizeText (some identity.provider) true, normalizeText (some identity.accountId) false,
    normalizeText identity.region true, normalizeText identity.scope true,
    normalizeText (some identity.resourceId) false, normalizeText (some identity.ruleId) true]

/-- The canonical payload, or the error of the first empty field. -/
def canonicalPayload (identity : Identity) : Except ServiceError String := do
  let provider ← normalize (some identity.provider) "provider" true false
  let accountId ← normalize (some identity.accountId) "account_id" false false
  let region ← normalize identity.region "region" true true
  let scope ← normalize identity.scope "scope" true true
  let resourceId ← normalize (some identity.resourceId) "resource_id" false false
  let ruleId ← normalize (some identity.ruleId) "rule_id" true false
  return dumps
    ["opportunity-fingerprint:v1", provider, accountId, region, scope, resourceId, ruleId]

variable [Digest]

/-- `build_opportunity_fingerprint`. -/
def buildOpportunityFingerprint (identity : Identity) : Except ServiceError String :=
  (canonicalPayload identity).map Digest.sha256

end Build

/-- Read one escaped character off the front of a text. -/
def readEscaped : List Char → Option (Char × List Char)
  | '\\' :: '"' :: rest => some ('"', rest)
  | '\\' :: '\\' :: rest => some ('\\', rest)
  | '\\' :: 'n' :: rest => some ('\n', rest)
  | '\\' :: 'r' :: rest => some ('\r', rest)
  | '\\' :: 't' :: rest => some ('\t', rest)
  | '\\' :: 'b' :: rest => some (Char.ofNat 8, rest)
  | '\\' :: 'f' :: rest => some (Char.ofNat 12, rest)
  | '\\' :: 'u' :: '0' :: '0' :: high :: low :: rest =>
    (List.range 32).find? (fun code => hexDigit (code / 16) = high && hexDigit (code % 16) = low)
      |>.map fun code => (Char.ofNat code, rest)
  | '"' :: _ => none
  | c :: rest => some (c, rest)
  | [] => none

/-- A control character is read back from its four hexadecimal digits. -/
theorem readEscaped_control (code : ℕ) (control : code < 32) (rest : List Char) :
    readEscaped ('\\' :: 'u' :: '0' :: '0' :: hexDigit (code / 16) :: hexDigit (code % 16) :: rest) =
      some (Char.ofNat code, rest) := by
  have found : (List.range 32).find? (fun other => hexDigit (other / 16) = hexDigit (code / 16) &&
      hexDigit (other % 16) = hexDigit (code % 16)) = some code := by
    revert code
    decide
  simp only [readEscaped, found, Option.map_some]

theorem readEscaped_quote (rest : List Char) : readEscaped ('"' :: rest) = none := rfl

theorem readEscaped_plain {c : Char} {rest : List Char} (noQuote : c ≠ '"') (noSlash : c ≠ '\\') :
    readEscaped (c :: rest) = some (c, rest) := by
  unfold readEscaped
  split <;> simp_all

/-- Reading inverts escaping, whatever follows. -/
theorem readEscaped_escapeChar (c : Char) (rest : List Char) :
    readEscaped (escapeChar c ++ rest) = some (c, rest) := by
  unfold escapeChar
  split_ifs with quote slash newline carriage tab backspace feed control
  · subst quote
    rfl
  · subst slash
    rfl
  · subst newline
    rfl
  · subst carriage
    rfl
  · subst tab
    rfl
  · obtain rfl : c = Char.ofNat 8 := by rw [← backspace, Char.ofNat_toNat]
    rfl
  · obtain rfl : c = Char.ofNat 12 := by rw [← feed, Char.ofNat_toNat]
    rfl
  · exact (readEscaped_control _ control rest).trans (by rw [Char.ofNat_toNat])
  · exact readEscaped_plain quote slash

/-- The quotation mark ends a string: no escaped text runs over it. -/
theorem escaped_ends {first second : List Char} : ∀ {firstRest secondRest : List Char},
    escaped first ++ '"' :: firstRest = escaped second ++ '"' :: secondRest →
      first = second ∧ firstRest = secondRest := by
  -- both sides are read from the front; only the ends of both texts read as nothing
  induction first generalizing second with
  | nil =>
    intro firstRest secondRest same
    cases second with
    | nil => simpa [escaped] using same
    | cons c rest =>
      have read := congrArg readEscaped same
      simp only [escaped, List.flatMap_nil, List.nil_append, List.flatMap_cons, List.append_assoc,
        readEscaped_escapeChar, readEscaped_quote] at read
      cases read
  | cons c rest inductionHypothesis =>
    intro firstRest secondRest same
    have read := congrArg readEscaped same
    cases second with
    | nil =>
      simp only [escaped, List.flatMap_nil, List.nil_append, List.flatMap_cons, List.append_assoc,
        readEscaped_escapeChar, readEscaped_quote] at read
      cases read
    | cons d others =>
      simp only [escaped, List.flatMap_cons, List.append_assoc, readEscaped_escapeChar,
        Option.some.injEq, Prod.mk.injEq] at read
      obtain ⟨sameRest, sameEnd⟩ := inductionHypothesis read.2
      exact ⟨by rw [read.1, sameRest], sameEnd⟩

theorem quoted_ends {first second : String} {firstRest secondRest : List Char}
    (same : quoted first ++ firstRest = quoted second ++ secondRest) :
    first = second ∧ firstRest = secondRest := by
  simp only [quoted, List.cons_append, List.append_assoc, List.cons.injEq, true_and] at same
  obtain ⟨sameText, sameRest⟩ := escaped_ends same
  exact ⟨String.toList_injective sameText, sameRest⟩

/-- The text of an array after its opening bracket. -/
def joined (fields : List String) : List Char :=
  ((fields.map quoted).intersperse [',']).flatten ++ [']']

theorem joined_nil : joined [] = [']'] := rfl

theorem joined_singleton (field : String) : joined [field] = quoted field ++ [']'] := by
  simp [joined]

theorem joined_cons (field next : String) (rest : List String) :
    joined (field :: next :: rest) = quoted field ++ ',' :: joined (next :: rest) := by
  simp [joined, List.intersperse_cons_cons]

theorem joined_ends {first second : List String} (same : joined first = joined second) :
    first = second := by
  induction first generalizing second with
  | nil =>
    rcases second with _ | ⟨field, _ | ⟨next, rest⟩⟩
    · rfl
    · simp [joined_nil, joined_singleton, quoted] at same
    · simp [joined_nil, joined_cons, quoted] at same
  | cons field rest inductionHypothesis =>
    rcases rest with _ | ⟨next, more⟩ <;> rcases second with _ | ⟨other, _ | ⟨following, last⟩⟩
    · simp [joined_nil, joined_singleton, quoted] at same
    · rw [joined_singleton, joined_singleton] at same
      rw [(quoted_ends same).1]
    · rw [joined_singleton, joined_cons] at same
      simpa using (quoted_ends same).2
    · simp [joined_nil, joined_cons, quoted] at same
    · rw [joined_singleton, joined_cons] at same
      simpa using (quoted_ends same).2
    · rw [joined_cons, joined_cons] at same
      obtain ⟨sameField, sameRest⟩ := quoted_ends same
      rw [sameField, inductionHypothesis (List.cons.inj sameRest).2]

/-- Different lists of fields have different payloads. -/
theorem dumps_injective : Function.Injective dumps := by
  intro first second same
  have chars := String.ofList_injective same
  exact joined_ends (List.cons.inj chars).2

section Injective

variable [CaseMapping]

/-- A normalised field is the text it normalises. -/
theorem normalize_eq_ok {value : Option String} {field result : String}
    {lowercase allowEmpty : Bool} (accepted : normalize value field lowercase allowEmpty =
      .ok result) : result = normalizeText value lowercase := by
  simp only [normalize] at accepted
  split at accepted
  · cases accepted
  · exact (Except.ok.inj accepted).symm

theorem canonicalPayload_eq_ok {identity : Identity} {payload : String}
    (accepted : canonicalPayload identity = .ok payload) :
    payload = dumps ("opportunity-fingerprint:v1" :: identity.fields) := by
  simp only [canonicalPayload, bind_eq_ok] at accepted
  obtain ⟨provider, providerOk, accountId, accountOk, region, regionOk, scope, scopeOk,
    resourceId, resourceOk, ruleId, ruleOk, result⟩ := accepted
  obtain rfl := normalize_eq_ok providerOk
  obtain rfl := normalize_eq_ok accountOk
  obtain rfl := normalize_eq_ok regionOk
  obtain rfl := normalize_eq_ok scopeOk
  obtain rfl := normalize_eq_ok resourceOk
  obtain rfl := normalize_eq_ok ruleOk
  exact (Except.ok.inj result).symm

variable [Digest]

/-- A fingerprint is the digest of the payload of the normalised fields. -/
theorem buildOpportunityFingerprint_eq_ok {identity : Identity} {fingerprint : String}
    (built : buildOpportunityFingerprint identity = .ok fingerprint) :
    fingerprint = Digest.sha256 (dumps ("opportunity-fingerprint:v1" :: identity.fields)) := by
  unfold buildOpportunityFingerprint at built
  cases payload : canonicalPayload identity with
  | error raised => rw [payload] at built; cases built
  | ok text =>
    rw [payload] at built
    rw [← canonicalPayload_eq_ok payload]
    exact (Except.ok.inj built).symm

/-- Opportunities with one fingerprint have the same normalised fields. -/
theorem fields_of_fingerprint [CollisionFree] {first second : Identity} {fingerprint : String}
    (firstBuilt : buildOpportunityFingerprint first = .ok fingerprint)
    (secondBuilt : buildOpportunityFingerprint second = .ok fingerprint) :
    first.fields = second.fields := by
  have same := (buildOpportunityFingerprint_eq_ok firstBuilt).symm.trans
    (buildOpportunityFingerprint_eq_ok secondBuilt)
  exact (List.cons.inj (dumps_injective (CollisionFree.sha256_injective same))).2

end Injective

end FinopsAnalytics.OpportunityFingerprint
