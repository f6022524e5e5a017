import FinopsAnalytics.Fallible
import FinopsAnalytics.OpportunityRunComparison
import FinopsAnalytics.UrlSafeBase64

/-!
# Shareable comparison contexts

A dashboard comparison is put into a link as a token: the pairs of runs as JSON,
compressed, in base64, with a signature. Reading a token undoes these layers one
after another, and each of them can refuse.

The signature, the compression and the JSON reader are the runtime's. They are
parameters, and a result names what it needs of them.
-/

namespace FinopsAnalytics.ComparisonContexts

open Fallible UrlSafeBase64 OpportunityRecords OpportunityRunComparison

/-- Values of JSON as the reader returns them. A float that is no finite number
has no value. -/
inductive Json where
  | null
  | bool (value : Bool)
  | int (value : Int)
  | float (value : Option ℚ)
  | string (value : String)
  | array (items : List Json)
  | object (entries : List (String × Json))

/-- `value == number`, where a truth value and a float can equal an integer. -/
def Json.equals (number : Int) : Json → Bool
  | .bool value => (if value then 1 else 0) = number
  | .int value => value = number
  | .float value => value = some (number : ℚ)
  | _ => false

/-- What the code raises and what its calls raise. -/
inductive Raised where
  | comparisonContextError (code message : String)
  | valueError | unicodeEncodeError | unicodeDecodeError | jsonDecodeError | binasciiError
  | typeError | zlibError
  | attributeError | recursionError
deriving DecidableEq, Repr

/-- The `except` clause of the reader: `ValueError` with its subclasses, `TypeError`
and `zlib.error`. -/
def Raised.caught : Raised → Bool
  | .attributeError | .recursionError => false
  | _ => true

/-- How `json.loads` fails. -/
inductive JsonFailure where
  | decodeError | recursionError
deriving DecidableEq, Repr

/-- The runtime's HMAC under the configured key, `zlib` and `json`. -/
class ContextCodec where
  digest : List UInt8 → List UInt8
  compress : List UInt8 → List UInt8
  /-- Nothing stands for `zlib.error`. -/
  decompress : List UInt8 → Option (List UInt8)
  dumps : Json → String
  loads : String → Except JsonFailure Json

def comparisonContextVersion : Int := 1

def maxContextLength : Nat := 8192

def maxContextPairs : Nat := 250

def isAscii (text : String) : Bool := text.toList.all (·.toNat < 128)

/-- `text.encode("utf-8")`. -/
def utf8Encode (text : String) : List UInt8 := text.toByteArray.data.toList

/-- `value.decode("utf-8")`. -/
def utf8Decode (value : List UInt8) : Except Raised String :=
  match String.fromUTF8? ⟨value.toArray⟩ with
  | some text => .ok text
  | none => .error .unicodeDecodeError

theorem utf8Decode_utf8Encode (text : String) : utf8Decode (utf8Encode text) = .ok text := by
  have valid : text.toByteArray.IsValidUTF8 := text.isValidUTF8
  simp [utf8Decode, utf8Encode, String.fromUTF8?, valid, String.fromUTF8]

/-- `_b64encode`. -/
def b64encode (value : List UInt8) : String :=
  String.ofList ((urlsafeB64encode value).rdropWhile (· = '='))

/-- `_b64decode`. -/
def b64decode (value : String) : Except Raised (List UInt8) :=
  match urlsafeB64decode (value.toList ++ paddingOf value.length) with
  | .ok bytes => .ok bytes
  | .error .notAscii => .error .valueError
  | .error _ => .error .binasciiError

theorem toList_b64encode (value : List UInt8) : (b64encode value).toList = unpadded value := by
  rw [b64encode, String.toList_ofList, rdropWhile_urlsafeB64encode]

theorem b64decode_b64encode (value : List UInt8) : b64decode (b64encode value) = .ok value := by
  rw [b64decode, ← String.length_toList, toList_b64encode, urlsafeB64decode_unpadded]

theorem isAscii_b64encode (value : List UInt8) : isAscii (b64encode value) = true := by
  rw [isAscii, toList_b64encode, List.all_eq_true]
  intro c member
  exact decide_eq_true (alphabet_plain c (mem_unpadded c member)).2.2

theorem dot_notMem_b64encode (value : List UInt8) : '.' ∉ (b64encode value).toList := by
  rw [toList_b64encode]
  intro member
  exact (alphabet_plain '.' (mem_unpadded '.' member)).2.1 rfl

/-- `text.encode("ascii")`. -/
def asciiEncode (text : String) : Except Raised (List UInt8) :=
  if isAscii text then .ok (text.toList.map fun c => UInt8.ofNat c.toNat)
  else .error .unicodeEncodeError

variable [ContextCodec]

/-- `_sign_context`. -/
def signContext (body : String) : Except Raised String :=
  (b64encode <| ContextCodec.digest ·) <$> asciiEncode body

/-- The payload of `_encode_contexts`; its keys are written in sorted order. -/
def contextPayload (contexts : List OpportunityRunContext) : Json :=
  .object [
    ("pairs", .array (contexts.filterMap fun context =>
      context.baseline.map fun baseline =>
        .object [("b", .string baseline.id), ("t", .string context.target.id)])),
    ("v", .int comparisonContextVersion)]

/-- The payload as it is compressed. -/
def contextBytes (contexts : List OpportunityRunContext) : List UInt8 :=
  utf8Encode (ContextCodec.dumps (contextPayload contexts))

/-- `_encode_contexts`. -/
def encodeContexts (contexts : List OpportunityRunContext) : Except Raised (Option String) := do
  if contexts.isEmpty then
    return none
  if maxContextPairs < contexts.length then
    throw (.comparisonContextError "CONTEXT_TOO_LARGE"
      "Há contas demais para representar esta comparação em uma URL compartilhável.")
  let body := b64encode (ContextCodec.compress (contextBytes contexts))
  let signature ← signContext body
  let token := body ++ "." ++ signature
  if maxContextLength < token.length then
    throw (.comparisonContextError "CONTEXT_TOO_LARGE"
      "O contexto da comparação excedeu o limite seguro para uma URL compartilhável.")
  return some token

/-- `hmac.compare_digest` of two texts. -/
def compareDigest (left right : String) : Except Raised Bool :=
  if isAscii left && isAscii right then .ok (left = right) else .error .typeError

/-- `token.split(".", 1)` where the separator occurs. -/
def splitToken (token : String) : String × String :=
  (String.ofList (token.toList.takeWhile (· ≠ '.')),
    String.ofList ((token.toList.dropWhile (· ≠ '.')).drop 1))

/-- The protected part of the reader: the JSON value that a body carries. -/
def readPayload (body : String) : Except Raised Json := do
  let compressed ← b64decode body
  match ContextCodec.decompress compressed with
  | none => throw .zlibError
  | some bytes =>
    let text ← utf8Decode bytes
    match ContextCodec.loads text with
    | .ok payload => return payload
    | .error .decodeError => throw .jsonDecodeError
    | .error .recursionError => throw .recursionError

def invalidContext : Raised :=
  .comparisonContextError "INVALID_CONTEXT" "Contexto de comparação inválido."

/-- An identifier of a run: text of 1 to 64 characters. -/
def ValidId (id : String) : Prop := id ≠ "" ∧ id.length ≤ 64

instance (id : String) : Decidable (ValidId id) := inferInstanceAs (Decidable (_ ∧ _))

/-- One round of the loop over the pairs. -/
def normalizePair (normalized : List (String × String)) (pair : Json) :
    Except Raised (List (String × String)) :=
  match pair with
  | .object entries =>
    match entries.lookup "t", entries.lookup "b" with
    | some (.string target), some (.string baseline) =>
      if ValidId target ∧ ValidId baseline then
        if (target, baseline) ∈ normalized then .ok normalized
        else .ok (normalized ++ [(target, baseline)])
      else .error invalidContext
    | _, _ => .error invalidContext
  | _ => .error invalidContext

/-- The reader's checks of a payload. -/
def normalizePayload (payload : Json) : Except Raised (List (String × String)) := do
  match payload with
  | .object entries =>
    unless (entries.lookup "v").any (Json.equals comparisonContextVersion) do
      throw (.comparisonContextError "INVALID_CONTEXT_VERSION" "Versão de contexto não suportada.")
    match entries.lookup "pairs" with
    | some (.array pairs) =>
      if pairs.isEmpty || maxContextPairs < pairs.length then
        throw invalidContext
      pairs.foldlM normalizePair []
    | _ => throw invalidContext
  | _ => throw .attributeError

/-- The first check of the reader: the token is absent, too long or has not
exactly one separator. -/
def Misshapen (token : String) : Prop :=
  token = "" ∨ maxContextLength < token.length ∨ token.toList.count '.' ≠ 1

instance (token : String) : Decidable (Misshapen token) := inferInstanceAs (Decidable (_ ∨ _))

/-- `decode_comparison_context`. -/
def decodeComparisonContext (token : String) : Except Raised (List (String × String)) := do
  if Misshapen token then
    throw invalidContext
  let (body, signature) := splitToken token
  let expected ← signContext body
  unless ← compareDigest signature expected do
    throw (.comparisonContextError "INVALID_CONTEXT"
      "Assinatura do contexto de comparação inválida.")
  match readPayload body with
  | .ok payload => normalizePayload payload
  | .error raised => throw (if raised.caught then invalidContext else raised)

/-- A body that is ASCII text has a signature, which is ASCII text. -/
theorem signContext_eq {body : String} (ascii : isAscii body = true) :
    ∃ digest, signContext body = .ok (b64encode digest) := by
  rw [signContext, asciiEncode, if_pos ascii]
  exact ⟨_, rfl⟩

omit [ContextCodec] in
/-- A token with a separator is its body, the separator and its signature. -/
theorem toList_splitToken {token : String} (separated : '.' ∈ token.toList) :
    token.toList = (splitToken token).1.toList ++ '.' :: (splitToken token).2.toList := by
  have nonempty : token.toList.dropWhile (· ≠ '.') ≠ [] := by
    intro none
    have plain := List.dropWhile_eq_nil_iff.mp none '.' separated
    simp at plain
  have head : (token.toList.dropWhile (· ≠ '.')).head nonempty = '.' := by
    simpa using List.head_dropWhile_not (· ≠ '.') nonempty
  have dropped : token.toList.dropWhile (· ≠ '.') =
      '.' :: (token.toList.dropWhile (· ≠ '.')).drop 1 := by
    have split := (List.cons_head_tail nonempty).symm
    rwa [head, ← List.drop_one] at split
  calc token.toList
      = token.toList.takeWhile (· ≠ '.') ++ token.toList.dropWhile (· ≠ '.') :=
        List.takeWhile_append_dropWhile.symm
    _ = (splitToken token).1.toList ++ '.' :: (splitToken token).2.toList := by
        rw [splitToken, String.toList_ofList, String.toList_ofList, ← dropped]

omit [ContextCodec] in
/-- A body without a separator is read back from its token. -/
theorem splitToken_append {body signature : String} (plain : '.' ∉ body.toList) :
    splitToken (body ++ "." ++ signature) = (body, signature) := by
  have noDot : ∀ c ∈ body.toList, decide (c ≠ '.') = true := by
    intro c member
    exact decide_eq_true fun same => plain (same ▸ member)
  have chars : (body ++ "." ++ signature).toList = body.toList ++ '.' :: signature.toList := by
    simp [String.toList_append]
  rw [splitToken, chars, List.takeWhile_append_of_pos noDot, List.dropWhile_append_of_pos noDot]
  simp

omit [ContextCodec] in
theorem isAscii_iff {token : String} (separated : '.' ∈ token.toList) :
    isAscii token = true ↔
      isAscii (splitToken token).1 = true ∧ isAscii (splitToken token).2 = true := by
  simp only [isAscii]
  rw [toList_splitToken separated, List.all_append, List.all_cons]
  simp

/-! ## Reading what was written -/

omit [ContextCodec] in
/-- The loop over well-formed pairs collects them without their repetitions. -/
theorem foldlM_normalizePair {pairs : List (String × String)}
    (valid : ∀ pair ∈ pairs, ValidId pair.1 ∧ ValidId pair.2) (earlier : List (String × String)) :
    (pairs.map fun pair => Json.object [("b", .string pair.2), ("t", .string pair.1)]).foldlM
      normalizePair earlier.eraseDups = .ok (earlier ++ pairs).eraseDups := by
  induction pairs generalizing earlier with
  | nil => simp [pure, Except.pure]
  | cons pair rest inductionHypothesis =>
    have head := valid pair (List.mem_cons_self ..)
    have added : normalizePair earlier.eraseDups
        (.object [("b", .string pair.2), ("t", .string pair.1)]) =
          .ok (earlier ++ [pair]).eraseDups := by
      have member : pair ∈ earlier.eraseDups ↔ pair ∈ earlier := List.mem_eraseDups
      by_cases present : pair ∈ earlier
      · simp [normalizePair, List.lookup_cons, head, member, present, List.eraseDups_append,
          List.removeAll]
      · have single : [pair].eraseDups = [pair] := rfl
        simp [normalizePair, List.lookup_cons, head, member, present, List.eraseDups_append,
          List.removeAll, single]
    rw [List.map_cons, List.foldlM_cons, added, ok_bind, inductionHypothesis fun other member =>
      valid other (List.mem_cons_of_mem _ member), ← List.append_cons]

/-- The pairs of a comparison: target and baseline of each context that has one. -/
def contextPairs (contexts : List OpportunityRunContext) : List (String × String) :=
  contexts.filterMap fun context =>
    context.baseline.map fun baseline => (context.target.id, baseline.id)

omit [ContextCodec] in
/-- The payload is that of the pairs. -/
theorem contextPayload_eq (contexts : List OpportunityRunContext) :
    contextPayload contexts = .object [
      ("pairs", .array ((contextPairs contexts).map fun pair =>
        .object [("b", .string pair.2), ("t", .string pair.1)])),
      ("v", .int comparisonContextVersion)] := by
  simp only [contextPayload, contextPairs, List.map_filterMap, Option.map_map, Function.comp_def]

variable {contexts : List OpportunityRunContext}

omit [ContextCodec] in
/-- The checks pass on the payload of between 1 and 250 well-formed pairs. -/
theorem normalizePayload_contextPayload (some : contextPairs contexts ≠ [])
    (few : contexts.length ≤ maxContextPairs)
    (valid : ∀ pair ∈ contextPairs contexts, ValidId pair.1 ∧ ValidId pair.2) :
    normalizePayload (contextPayload contexts) = .ok (contextPairs contexts).eraseDups := by
  have fewPairs : (contextPairs contexts).length ≤ maxContextPairs :=
    (List.length_filterMap_le ..).trans few
  have loop := foldlM_normalizePair valid []
  rw [contextPayload_eq]
  simp [normalizePayload, List.lookup_cons, Json.equals, some, Nat.not_lt.mpr fewPairs]
  simpa using loop

/-- What an accepted encoding did: it had between 1 and 250 contexts, and its
token is the signed body within the limit. -/
theorem encodeContexts_eq_ok {token : String} (encoded : encodeContexts contexts = .ok (some token)) :
    contexts ≠ [] ∧ contexts.length ≤ maxContextPairs ∧ token.length ≤ maxContextLength ∧
      ∃ signature,
        signContext (b64encode (ContextCodec.compress (contextBytes contexts))) = .ok signature ∧
        token = b64encode (ContextCodec.compress (contextBytes contexts)) ++ "." ++ signature := by
  unfold encodeContexts at encoded
  by_cases empty : contexts = []
  · simp [empty, pure, Except.pure] at encoded
  by_cases many : maxContextPairs < contexts.length
  · simp only [List.isEmpty_iff, empty, many, ↓reduceIte] at encoded
    cases encoded
  simp only [List.isEmpty_iff, empty, many, ↓reduceIte] at encoded
  obtain ⟨signature, signed, encoded⟩ := bind_eq_ok.mp encoded
  split at encoded
  · cases encoded
  · rename_i short
    cases encoded
    exact ⟨empty, Nat.not_lt.mp many, Nat.not_lt.mp short, signature, signed, rfl⟩

/-- The body of an encoding carries its payload. -/
theorem readPayload_contextBytes
    (inflates : ContextCodec.decompress (ContextCodec.compress (contextBytes contexts)) =
      some (contextBytes contexts))
    (loads : ContextCodec.loads (ContextCodec.dumps (contextPayload contexts)) =
      .ok (contextPayload contexts)) :
    readPayload (b64encode (ContextCodec.compress (contextBytes contexts))) =
      .ok (contextPayload contexts) := by
  rw [readPayload, b64decode_b64encode, ok_bind, inflates]
  simp only [contextBytes, utf8Decode_utf8Encode, ok_bind, loads]
  rfl

/-- A signed token within the limit is read by its payload. -/
theorem decodeComparisonContext_signed {value : List UInt8} {signature : String}
    (signed : signContext (b64encode value) = .ok signature)
    (short : (b64encode value ++ "." ++ signature).length ≤ maxContextLength) :
    decodeComparisonContext (b64encode value ++ "." ++ signature) =
      match readPayload (b64encode value) with
      | .ok payload => normalizePayload payload
      | .error raised => .error (if raised.caught then invalidContext else raised) := by
  obtain ⟨digest, own⟩ := signContext_eq (isAscii_b64encode value)
  obtain rfl : b64encode digest = signature := by
    rw [own] at signed
    cases signed
    rfl
  have once : (b64encode value ++ "." ++ b64encode digest).toList.count '.' = 1 := by
    simp only [String.toList_append, List.count_append,
      List.count_eq_zero_of_not_mem (dot_notMem_b64encode value),
      List.count_eq_zero_of_not_mem (dot_notMem_b64encode digest)]
    rfl
  have shaped : ¬ Misshapen (b64encode value ++ "." ++ b64encode digest) := by
    rintro (empty | long | many)
    · simp at empty
    · exact absurd short (Nat.not_le.mpr long)
    · exact many once
  rw [decodeComparisonContext, if_neg shaped, splitToken_append (dot_notMem_b64encode value)]
  simp only [own, ok_bind, compareDigest, isAscii_b64encode, Bool.and_self, ↓reduceIte, decide_true]
  cases readPayload (b64encode value) with
  | ok payload => rfl
  | error raised => rfl

/-- The reader returns the pairs that were written, in order and each once, for
contexts that have a baseline and identifiers of 1 to 64 characters. Of the
runtime it needs that decompression inverts compression and that the JSON reader
inverts the writer on this payload. -/
theorem decode_encodeContexts {contexts : List OpportunityRunContext} {token : String}
    (encoded : encodeContexts contexts = .ok (some token))
    (baselines : ∀ context ∈ contexts, ∃ baseline, context.baseline = some baseline ∧
      ValidId context.target.id ∧ ValidId baseline.id)
    (inflates : ContextCodec.decompress (ContextCodec.compress (contextBytes contexts)) =
      some (contextBytes contexts))
    (loads : ContextCodec.loads (ContextCodec.dumps (contextPayload contexts)) =
      .ok (contextPayload contexts)) :
    decodeComparisonContext token = .ok (contextPairs contexts).eraseDups := by
  obtain ⟨nonempty, few, short, signature, signed, rfl⟩ := encodeContexts_eq_ok encoded
  have somePair : contextPairs contexts ≠ [] := by
    obtain ⟨context, member⟩ := List.exists_mem_of_ne_nil _ nonempty
    obtain ⟨baseline, isBaseline, -⟩ := baselines context member
    refine List.ne_nil_of_mem (a := (context.target.id, baseline.id)) ?_
    exact List.mem_filterMap.mpr ⟨context, member, by rw [isBaseline]; rfl⟩
  have valid : ∀ pair ∈ contextPairs contexts, ValidId pair.1 ∧ ValidId pair.2 := by
    intro pair member
    obtain ⟨context, contextMember, isPair⟩ := List.mem_filterMap.mp member
    obtain ⟨baseline, isBaseline, targetValid, baselineValid⟩ := baselines context contextMember
    rw [isBaseline] at isPair
    cases isPair
    exact ⟨targetValid, baselineValid⟩
  rw [decodeComparisonContext_signed signed short, readPayload_contextBytes inflates loads]
  exact normalizePayload_contextPayload somePair few valid

/-- The JSON text of two comparisons, the first of which is repeated. -/
def sampleText : String :=
  "\x7b\"pairs\":[\x7b\"b\":\"run-1\",\"t\":\"run-2\"\x7d," ++
    "\x7b\"b\":\"run-3\",\"t\":\"run-4\"\x7d," ++
    "\x7b\"b\":\"run-1\",\"t\":\"run-2\"\x7d],\"v\":1\x7d"

def samplePair (baselineId targetId : String) : Json :=
  .object [("b", .string baselineId), ("t", .string targetId)]

/-- A runtime with the values of these comparisons: the digest is that of the key
`secret`, and the bytes are those of level 9. -/
abbrev sampleCodec : ContextCodec where
  digest _ := [76, 219, 34, 117, 218, 3, 166, 153, 149, 98, 186, 0, 22, 107, 70, 182, 216, 98, 43,
    120, 171, 93, 3, 234, 208, 241, 239, 239, 255, 31, 87, 106]
  compress _ := [120, 218, 171, 86, 42, 72, 204, 44, 42, 86, 178, 138, 174, 86, 74, 82, 178, 82, 42,
    42, 205, 211, 53, 84, 210, 81, 42, 129, 178, 141, 148, 106, 117, 16, 50, 198, 72, 50, 38, 40,
    50, 104, 122, 98, 117, 148, 202, 148, 172, 12, 107, 1, 30, 143, 26, 170]
  decompress _ := some (utf8Encode sampleText)
  dumps _ := sampleText
  loads _ := .ok (.object [("pairs", .array [samplePair "run-1" "run-2",
    samplePair "run-3" "run-4", samplePair "run-1" "run-2"]), ("v", .int 1)])

/-- A run as the sample needs it. -/
def sampleRun (id : String) : CollectionRun where
  id := id
  provider := "aws"
  accountId := "123456789012"
  startedAt := 0
  finishedAt := none
  status := .success
  detailedObservationsAvailable := true

def sampleContext (targetId baselineId : String) : OpportunityRunContext :=
  ⟨sampleRun targetId, some (sampleRun baselineId), true⟩

def sampleContexts : List OpportunityRunContext :=
  [sampleContext "run-2" "run-1", sampleContext "run-4" "run-3", sampleContext "run-2" "run-1"]

def sampleToken : String :=
  "eNqrVipIzCwqVrKKrlZKUrJSKirN0zVU0lEqgbKNlGp1EDLGSDImKDJoemJ1lMqUrAxrAR6PGqo" ++
    ".TNsiddoDppmVYroAFmtGtthiK3irXQPq0PHv7_8fV2o"

omit [ContextCodec] in
/-- The repeated pair is read once. -/
theorem decode_sampleToken : @decodeComparisonContext sampleCodec sampleToken =
    .ok [("run-2", "run-1"), ("run-4", "run-3")] := by
  refine @decode_encodeContexts sampleCodec sampleContexts sampleToken (by decide +kernel) ?_
    rfl rfl
  intro context member
  simp only [sampleContexts, List.mem_cons, List.not_mem_nil, or_false] at member
  rcases member with rfl | rfl | rfl
  · exact ⟨sampleRun "run-1", rfl, by decide, by decide⟩
  · exact ⟨sampleRun "run-3", rfl, by decide, by decide⟩
  · exact ⟨sampleRun "run-1", rfl, by decide, by decide⟩

/-! ## Errors of the reader -/

/-- Pairs of identifiers, or the error made for this purpose. -/
def Contained : Except Raised (List (String × String)) → Prop
  | .ok pairs => ∀ pair ∈ pairs, ValidId pair.1 ∧ ValidId pair.2
  | .error (.comparisonContextError ..) => True
  | .error _ => False

def Json.isObject : Json → Bool
  | .object _ => true
  | _ => false

omit [ContextCodec] in
/-- A round keeps the pairs well formed or refuses in the intended way. -/
theorem normalizePair_contained {normalized : List (String × String)} (pair : Json)
    (valid : ∀ pair ∈ normalized, ValidId pair.1 ∧ ValidId pair.2) :
    Contained (normalizePair normalized pair) := by
  unfold normalizePair
  split
  · split
    · rename_i target baseline _ _
      split
      · rename_i bothValid
        split
        · exact valid
        · intro other member
          rcases List.mem_append.mp member with earlier | added
          · exact valid other earlier
          · obtain rfl := List.mem_singleton.mp added
            exact bothValid
      · trivial
    · trivial
  · trivial

omit [ContextCodec] in
theorem foldlM_normalizePair_contained {normalized : List (String × String)} (pairs : List Json)
    (valid : ∀ pair ∈ normalized, ValidId pair.1 ∧ ValidId pair.2) :
    Contained (pairs.foldlM normalizePair normalized) := by
  induction pairs generalizing normalized with
  | nil => exact valid
  | cons pair rest inductionHypothesis =>
    have first := normalizePair_contained pair valid
    rw [List.foldlM_cons]
    cases step : normalizePair normalized pair with
    | ok next =>
      rw [step] at first
      exact inductionHypothesis first
    | error raised =>
      rw [step] at first
      exact first

omit [ContextCodec] in
/-- The checks of a payload raise only their own error on an object. Another
value has no `get`. -/
theorem normalizePayload_contained_iff {payload : Json} :
    Contained (normalizePayload payload) ↔ payload.isObject = true := by
  cases payload with
  | object entries =>
    refine ⟨fun _ => rfl, fun _ => ?_⟩
    unfold normalizePayload
    by_cases version : (entries.lookup "v").any (Json.equals comparisonContextVersion) = true
    · simp only [version, ↓reduceIte]
      split
      · rename_i pairs _
        by_cases size : (pairs.isEmpty || decide (maxContextPairs < pairs.length)) = true
        · rw [if_pos size]
          trivial
        · rw [if_neg size]
          exact foldlM_normalizePair_contained pairs (by simp)
      · trivial
    · simp only [version]
      trivial
  | _ => exact ⟨fun contained => contained.elim, fun object => by cases object⟩

/-- The body of a token carries an object, or text that one of the caught errors
refuses. -/
def ReadsAsObject (body : String) : Prop :=
  match readPayload body with
  | .ok payload => payload.isObject = true
  | .error raised => raised.caught = true

/-- The tokens on which the reader keeps to its error: those it refuses by their
shape, and those of ASCII text whose body, where it is signed, carries an object
or no readable JSON. -/
def WellBehaved (token : String) : Prop :=
  Misshapen token ∨ (isAscii token = true ∧
    (signContext (splitToken token).1 = .ok (splitToken token).2 →
      ReadsAsObject (splitToken token).1))

/-- Whatever its protected part reads, the reader contains it exactly where it
reads as an object. -/
theorem readPayload_contained_iff {body : String} :
    Contained (match readPayload body with
      | .ok payload => normalizePayload payload
      | .error raised => .error (if raised.caught then invalidContext else raised)) ↔
      ReadsAsObject body := by
  unfold ReadsAsObject
  cases readPayload body with
  | ok payload => exact normalizePayload_contained_iff
  | error raised => cases raised <;> simp [Contained, Raised.caught, invalidContext]

/-- The reader returns well-formed pairs or raises its own error exactly on the
well-behaved tokens. Outside them an error of the runtime escapes: the signature
is computed and compared before the protected part, and the payload is used as a
dictionary after it. -/
theorem decodeComparisonContext_contained_iff (token : String) :
    Contained (decodeComparisonContext token) ↔ WellBehaved token := by
  unfold WellBehaved decodeComparisonContext
  by_cases shaped : Misshapen token
  · rw [if_pos shaped]
    exact ⟨fun _ => Or.inl shaped, fun _ => trivial⟩
  have separated : '.' ∈ token.toList := by
    by_contra absent
    exact shaped (Or.inr (Or.inr (by rw [List.count_eq_zero_of_not_mem absent]; decide)))
  rw [if_neg shaped, isAscii_iff separated]
  simp only [shaped, false_or]
  cases bodyAscii : isAscii (splitToken token).1 with
  | false =>
    simp [signContext, asciiEncode, bodyAscii, Contained, bind, Except.bind, Functor.map,
      Except.map]
  | true =>
    obtain ⟨digest, signed⟩ := signContext_eq bodyAscii
    rw [signed, ok_bind, compareDigest, isAscii_b64encode]
    cases signatureAscii : isAscii (splitToken token).2 with
    | false => simp [Contained, bind, Except.bind]
    | true =>
      have equal : (Except.ok (b64encode digest) : Except Raised String) =
          .ok (splitToken token).2 ↔ (splitToken token).2 = b64encode digest := by
        rw [Except.ok.injEq, eq_comm]
      simp only [Bool.and_self, ↓reduceIte, ok_bind, true_and, equal]
      by_cases same : (splitToken token).2 = b64encode digest
      · simp only [same, decide_true, ↓reduceIte, true_imp_iff]
        exact readPayload_contained_iff
      · simp only [same, decide_false, Bool.false_eq_true, ↓reduceIte, false_imp_iff, iff_true]
        trivial

omit [ContextCodec] in
/-- A body that is not ASCII text makes the signature raise a coding error. -/
theorem decode_nonAscii_escapes : ¬ Contained (@decodeComparisonContext sampleCodec "é.") := by
  have escapes : @decodeComparisonContext sampleCodec "é." = .error .unicodeEncodeError := by
    decide +kernel
  rw [escapes]
  exact fun contained => contained

end FinopsAnalytics.ComparisonContexts
