import FinopsAnalytics.CloudWatchPricing
import FinopsAnalytics.PythonJson

/-!
# Audit events

What is recorded about a change is made safe for JSON first: secrets and what is stored
under sensitive keys are left out, long texts are summarised, and what is then too large is
replaced by its size and digest. The changes are the difference of the two safe snapshots.
-/

namespace FinopsAnalytics.AuditEvents

open PythonText OpportunityFingerprint CloudWatchPricing ComparisonContexts PythonJson Dictionaries
  DistinctKeys

/-- A value that is handed to the audit. Models and dataclasses are mappings of their
fields; the keys of a mapping are given by their texts, and a set in the order in which it
is iterated. -/
inductive Payload where
  | null
  | bool (value : Bool)
  | int (value : ℤ)
  | float (value : Option ℚ)
  | text (value : String)
  /-- `SecretStr` and `SecretBytes` -/
  | secret
  /-- The text of a decimal, a date, a time or a UUID. -/
  | printed (text : String)
  | enumeration (value : Payload)
  | mapping (entries : List (String × Payload))
  | sequence (items : List Payload)
  | unordered (items : List Payload)
  /-- An object that is represented by its type only. -/
  | unknown (typeName : String)

mutual

/-- A stored value, handed to the audit again. -/
def payloadOfJson : Json → Payload
  | .null => .null
  | .bool value => .bool value
  | .int value => .int value
  | .float value => .float value
  | .string value => .text value
  | .array items => .sequence (payloadsOfItems items)
  | .object entries => .mapping (payloadsOfEntries entries)

def payloadsOfItems : List Json → List Payload
  | [] => []
  | item :: rest => payloadOfJson item :: payloadsOfItems rest

def payloadsOfEntries : List (String × Json) → List (String × Payload)
  | [] => []
  | (key, value) :: rest => (key, payloadOfJson value) :: payloadsOfEntries rest

end

/-- `json.dumps` as the payloads are measured and as items are sorted, and the digest of a
text in UTF-8. -/
class AuditRuntime where
  dumps : Json → String
  itemText : Json → String
  sha256 : String → String

def maxBeforeAfterBytes : ℕ := 16384

def maxChangesBytes : ℕ := 16384

def maxMetadataBytes : ℕ := 8192

def maxStringValueChars : ℕ := 2048

section Keys

variable [CaseMapping]

/-- `[a-z0-9]` -/
def isKeyChar (c : Char) : Bool := ('a' ≤ c && c ≤ 'z') || ('0' ≤ c && c ≤ '9')

/-- `_normalized_key` -/
def normalizedKey (key : String) : String :=
  String.ofList ((CaseMapping.lower key).toList.filter isKeyChar)

def secretKeys : List String :=
  ["password", "token", "passwordhash", "secret", "secretkey", "privatekey", "accesskey",
    "accesskeyid", "secretaccesskey", "sessiontoken", "refreshtoken", "bearertoken", "jwt",
    "mfasecret", "recoverycodes", "recoverycode", "invitationtoken", "passwordresettoken",
    "credentials", "credential", "passphrase", "smtppassword", "ociprivatekey", "awssecretkey",
    "certificateprivatekey"]

def secretSuffixes : List String :=
  ["password", "passwordhash", "privatekey", "secret", "secretkey", "accesskey",
    "secretaccesskey", "token", "sessiontoken", "refreshtoken", "bearertoken", "resettoken",
    "invitationtoken", "mfasecret", "passphrase", "credentials"]

/-- `_sensitive_key` -/
def sensitiveKey (key : String) : Bool :=
  normalizedKey key ∈ secretKeys || secretSuffixes.any (endsWith (normalizedKey key))

end Keys

section Texts

/-- `[A-Z0-9 ]` -/
def isHeaderChar (c : Char) : Bool :=
  ('A' ≤ c && c ≤ 'Z') || ('0' ≤ c && c ≤ '9') || c = ' '

/-- `[A-Z0-9 ]*PRIVATE KEY-----` at the start of a text. -/
def namesPrivateKey : List Char → Bool
  | [] => false
  | c :: rest =>
    "PRIVATE KEY-----".toList.isPrefixOf (c :: rest) || isHeaderChar c && namesPrivateKey rest

/-- `-----BEGIN [A-Z0-9 ]*PRIVATE KEY-----` somewhere in a text. -/
def holdsPrivateKey : List Char → Bool
  | [] => false
  | c :: rest =>
    "-----BEGIN ".toList.isPrefixOf (c :: rest) && namesPrivateKey ((c :: rest).drop 11) ||
      holdsPrivateKey rest

variable [CaseMapping]

/-- A private key, a bearer token or a web token. -/
def isSecretText (value : String) : Bool :=
  let upper := CaseMapping.upper value
  holdsPrivateKey upper.toList || startsWith upper "BEARER " ||
    startsWith value "eyJ" && value.toList.count '.' == 2 && decide (40 < value.length)

def isCertificate (value : String) : Bool := contains value "-----BEGIN CERTIFICATE-----"

variable [AuditRuntime]

/-- `_large_string_summary`, in the order of the keys. -/
def largeStringSummary (value : String) : Json :=
  .object [("_length", .int value.length),
    ("_omitted", .string (if isCertificate value then "certificate_pem" else "large_text")),
    ("_sha256", .string (AuditRuntime.sha256 value))]

/-- A text that is stored, summarised or left out. -/
def safeText (value : String) : Option Json :=
  if isSecretText value then none
  else if maxStringValueChars < value.length || isCertificate value then
    some (largeStringSummary value)
  else some (.string value)

/-- `result[key] = safe` for the entries in the order of their keys. -/
def collectEntries (entries : List (String × Json)) : List (String × Json) :=
  update [] (sortByKey Prod.fst entries)

mutual

/-- `_json_safe`; nothing stands for a value that is left out. -/
def jsonSafe : Payload → Option Json
  | .null => some .null
  | .bool value => some (.bool value)
  | .int value => some (.int value)
  | .float value => some (.float value)
  | .text value => safeText value
  | .secret => none
  | .printed text => some (.string text)
  | .enumeration value => jsonSafe value
  | .mapping entries => some (.object (collectEntries (safeEntries entries)))
  | .sequence items => some (.array (safeItems items))
  | .unordered items => some (.array (sortByKey AuditRuntime.itemText (safeItems items)))
  | .unknown typeName => some (.object [("_type", .string typeName)])

/-- The entries of a mapping that are not left out. -/
def safeEntries : List (String × Payload) → List (String × Json)
  | [] => []
  | (key, value) :: rest =>
    if sensitiveKey key then safeEntries rest
    else
      match jsonSafe value with
      | none => safeEntries rest
      | some safe => (key, safe) :: safeEntries rest

def safeItems : List Payload → List Json
  | [] => []
  | item :: rest =>
    match jsonSafe item with
    | none => safeItems rest
    | some safe => safe :: safeItems rest

end

end Texts

section Payloads

variable [CaseMapping] [AuditRuntime]

/-- The size of a value in bytes. -/
def payloadBytes (value : Json) : ℕ := (AuditRuntime.dumps value).utf8ByteSize

omit [CaseMapping] in
/-- What replaces a value that is too large, in the order of the keys. -/
def truncated (value : Json) : Json :=
  .object [("_original_bytes", .int (payloadBytes value)),
    ("_sha256", .string (AuditRuntime.sha256 (AuditRuntime.dumps value))),
    ("_truncated", .bool true)]

/-- `_limit_payload` -/
def limitPayload (value : Json) (maxBytes : ℕ) : Json :=
  if value = .null then .null
  else if payloadBytes value ≤ maxBytes then value
  else truncated value

/-- `sanitize_audit_payload` -/
def sanitizeAuditPayload (payload : Payload) (maxBytes : ℕ) : Json :=
  match jsonSafe payload with
  | none => .null
  | some safe => limitPayload safe maxBytes

/-- The entries of a dictionary, `None` for any other value. -/
def dictionary? : Json → Option (List (String × Json))
  | .object entries => some entries
  | _ => none

/-- `audit_snapshot` -/
def auditSnapshot (entries : List (String × Payload)) : List (String × Json) :=
  (dictionary? (sanitizeAuditPayload (.mapping entries) maxBeforeAfterBytes)).getD []

/-- A key whose values differ. -/
def changeOf (before after : List (String × Json)) (key : String) : Option (String × Json) :=
  if equal (get key before) (get key after) then none
  else some (key, .object [("from", get key before), ("to", get key after)])

/-- `build_audit_changes` -/
def buildAuditChanges (before after : List (String × Json)) : List (String × Json) :=
  let keys := sortByKey id (before.map Prod.fst ++ after.map Prod.fst).eraseDups
  (dictionary? (limitPayload (.object (keys.filterMap (changeOf before after)))
    maxChangesBytes)).getD []

end Payloads

section Events

/-- Of a user, what an event shows. -/
structure Actor where
  id : Option String
  name : Option String
  email : Option String
deriving DecidableEq, Repr

/-- The arguments of `AuditService.record`. -/
structure AuditRequest where
  actor : Option Actor
  action : Option String
  module : Option String
  entityType : Option String
  entityId : Option String
  entityLabel : Option String
  before : Option (List (String × Payload))
  after : Option (List (String × Payload))
  source : String
  metadata : Option (List (String × Payload))
  correlationId : Option String

structure AuditEvent where
  actorId : Option String
  actorNameSnapshot : Option String
  actorEmailSnapshot : Option String
  action : String
  module : String
  entityType : String
  entityId : Option String
  entityLabel : Option String
  source : String
  beforeData : Option (List (String × Json))
  afterData : Option (List (String × Json))
  changes : List (String × Json)
  metadataJson : Option (List (String × Json))
  correlationId : Option String

inductive AuditError where
  | value (message : String)
deriving DecidableEq, Repr

def auditSources : List String := ["UI", "API", "SYSTEM"]

/-- `_text` of an optional field. -/
def optionalText (value : Option String) (maxLength : ℕ) : Option String :=
  match value with
  | none => none
  | some value =>
    let text := strip value
    if text = "" then none else some (String.ofList (text.toList.take maxLength))

/-- `_text` of a required field. -/
def requiredText (value : Option String) (maxLength : ℕ) : Except AuditError String :=
  match value with
  | none => .error (.value "Required audit field is missing")
  | some value =>
    let text := strip value
    if text = "" then .error (.value "Required audit field is blank")
    else .ok (String.ofList (text.toList.take maxLength))

/-- A mapping that may be missing. -/
def payloadOf : Option (List (String × Payload)) → Payload
  | none => .null
  | some entries => .mapping entries

variable [CaseMapping] [AuditRuntime]

/-- `AuditService.record` -/
def record (request : AuditRequest) : Except AuditError AuditEvent := do
  let source := strip (CaseMapping.upper request.source)
  if source ∉ auditSources then
    throw (.value ("Unsupported audit source: " ++ source))
  let cleanBefore := dictionary? (sanitizeAuditPayload (payloadOf request.before)
    maxBeforeAfterBytes)
  let cleanAfter := dictionary? (sanitizeAuditPayload (payloadOf request.after)
    maxBeforeAfterBytes)
  let actorName := if request.actor.isNone ∧ source = "SYSTEM" then some "SYSTEM"
    else request.actor.bind Actor.name
  let action ← requiredText request.action 120
  let module ← requiredText request.module 80
  let entityType ← requiredText request.entityType 120
  return {
    actorId := optionalText (request.actor.bind Actor.id) 36
    actorNameSnapshot := optionalText actorName 120
    actorEmailSnapshot := optionalText (request.actor.bind Actor.email) 254
    action
    module
    entityType
    entityId := optionalText request.entityId 255
    entityLabel := optionalText request.entityLabel 500
    source
    beforeData := cleanBefore
    afterData := cleanAfter
    changes := buildAuditChanges (cleanBefore.getD []) (cleanAfter.getD [])
    metadataJson := dictionary? (sanitizeAuditPayload (payloadOf request.metadata)
      maxMetadataBytes)
    correlationId := optionalText request.correlationId 36 }

end Events

section Sample

variable (comma colon : String)

mutual

/-- `json.dumps` with sorted keys of a value of ASCII texts without floats. -/
def jsonText : Json → String
  | .null => "null"
  | .bool value => if value then "true" else "false"
  | .int value => toString value
  | .float value => (value.map toString).getD "NaN"
  | .string value => String.ofList (quoted value)
  | .array items => "[" ++ comma.intercalate (itemTexts items) ++ "]"
  | .object entries =>
    "\x7b" ++ comma.intercalate ((sortByKey Prod.fst (entryTexts entries)).map fun entry =>
      String.ofList (quoted entry.1) ++ colon ++ entry.2) ++ "\x7d"

def itemTexts : List Json → List String
  | [] => []
  | item :: rest => jsonText item :: itemTexts rest

def entryTexts : List (String × Json) → List (String × String)
  | [] => []
  | (key, value) :: rest => (key, jsonText value) :: entryTexts rest

end

/-- The digest of the one text that the samples cut. -/
def sampleDigest : String := "aea8e25bd8a594908549f0fea46a66bb7ec40500173cecfdb86dabfbddfb8b4a"

/-- The runtime on the samples, for evaluation at concrete inputs. -/
abbrev plainRuntime : AuditRuntime where
  dumps := jsonText "," ":"
  itemText := jsonText ", " ": "
  sha256 _ := sampleDigest

end Sample

end FinopsAnalytics.AuditEvents
