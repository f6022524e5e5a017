import FinopsAnalytics.AuditEvents

/-!
# What an audit event cannot show

The safe form of a payload does not depend on what is stored under sensitive keys, or on
texts that are secrets, at any depth. So neither does anything that is computed from it: the
changes, the sizes and the digests of what was cut.
-/

namespace FinopsAnalytics.AuditEvents

open PythonText ComparisonContexts PythonJson Dictionaries DistinctKeys

section Erasure

variable [CaseMapping]

mutual

/-- A payload without its secrets. -/
def erase : Payload → Payload
  | .text value => if isSecretText value then .secret else .text value
  | .enumeration value => .enumeration (erase value)
  | .mapping entries => .mapping (eraseEntries entries)
  | .sequence items => .sequence (eraseItems items)
  | .unordered items => .unordered (eraseItems items)
  | other => other

/-- The entries under keys that are not sensitive. -/
def eraseEntries : List (String × Payload) → List (String × Payload)
  | [] => []
  | (key, value) :: rest =>
    if sensitiveKey key then eraseEntries rest else (key, erase value) :: eraseEntries rest

def eraseItems : List Payload → List Payload
  | [] => []
  | item :: rest => erase item :: eraseItems rest

end

variable [AuditRuntime]

mutual

/-- The safe form does not see what is erased. -/
theorem jsonSafe_erase : (payload : Payload) → jsonSafe (erase payload) = jsonSafe payload
  | .null => rfl
  | .bool _ => rfl
  | .int _ => rfl
  | .float _ => rfl
  | .text value => by
    by_cases secret : isSecretText value = true
    · simp [erase, jsonSafe, safeText, secret]
    · simp [erase, jsonSafe, secret]
  | .secret => rfl
  | .printed _ => rfl
  | .enumeration value => by simp only [erase, jsonSafe, jsonSafe_erase value]
  | .mapping entries => by simp only [erase, jsonSafe, safeEntries_erase entries]
  | .sequence items => by simp only [erase, jsonSafe, safeItems_erase items]
  | .unordered items => by simp only [erase, jsonSafe, safeItems_erase items]
  | .unknown _ => rfl

theorem safeEntries_erase : (entries : List (String × Payload)) →
    safeEntries (eraseEntries entries) = safeEntries entries
  | [] => rfl
  | (key, value) :: rest => by
    by_cases sensitive : sensitiveKey key = true
    · simp only [eraseEntries, safeEntries, if_pos sensitive, safeEntries_erase rest]
    · simp only [eraseEntries, safeEntries, if_neg sensitive, jsonSafe_erase value,
        safeEntries_erase rest]

theorem safeItems_erase : (items : List Payload) → safeItems (eraseItems items) = safeItems items
  | [] => rfl
  | item :: rest => by
    simp only [eraseItems, safeItems, jsonSafe_erase item, safeItems_erase rest]

end

/-- Payloads that differ in secrets only have one safe form. -/
theorem sanitize_congr {first second : Payload} (same : erase first = erase second)
    (maxBytes : ℕ) :
    sanitizeAuditPayload first maxBytes = sanitizeAuditPayload second maxBytes := by
  rw [sanitizeAuditPayload, ← jsonSafe_erase first, same, jsonSafe_erase second,
    sanitizeAuditPayload]

omit [AuditRuntime] in
theorem erase_payloadOf {first second : Option (List (String × Payload))}
    (same : first.map eraseEntries = second.map eraseEntries) :
    erase (payloadOf first) = erase (payloadOf second) := by
  cases first with
  | none =>
    cases second with
    | none => rfl
    | some entries => cases same
  | some entries =>
    cases second with
    | none => cases same
    | some others => exact congrArg Payload.mapping (Option.some.inj same)

end Erasure

section Requests

variable [CaseMapping]

/-- Requests that differ only in what is stored under sensitive keys, and in secret texts. -/
structure SameButSecrets (first second : AuditRequest) : Prop where
  before : first.before.map eraseEntries = second.before.map eraseEntries
  after : first.after.map eraseEntries = second.after.map eraseEntries
  metadata : first.metadata.map eraseEntries = second.metadata.map eraseEntries
  others : { first with before := none, after := none, metadata := none } =
    { second with before := none, after := none, metadata := none }

variable [AuditRuntime]

/-- The event of a request, or its refusal, shows nothing of the secrets. -/
theorem record_noninterference {first second : AuditRequest} (same : SameButSecrets first second) :
    record first = record second := by
  obtain ⟨actor, action, module, entityType, entityId, entityLabel, before, after, source,
    metadata, correlationId⟩ := first
  obtain ⟨otherActor, otherAction, otherModule, otherType, otherId, otherLabel, otherBefore,
    otherAfter, otherSource, otherMetadata, otherCorrelation⟩ := second
  obtain ⟨beforeSame, afterSame, metadataSame, others⟩ := same
  obtain ⟨rfl, rfl, rfl, rfl, rfl, rfl, -, -, rfl, -, rfl⟩ := AuditRequest.mk.inj others
  simp only [record, sanitize_congr (erase_payloadOf beforeSame),
    sanitize_congr (erase_payloadOf afterSame), sanitize_congr (erase_payloadOf metadataSame)]

end Requests

section Cleanliness

variable [CaseMapping]

mutual

/-- No mapping of the value has a sensitive key, at any depth. -/
def Clean : Json → Prop
  | .array items => CleanItems items
  | .object entries => CleanEntries entries
  | _ => True

def CleanItems : List Json → Prop
  | [] => True
  | item :: rest => Clean item ∧ CleanItems rest

def CleanEntries : List (String × Json) → Prop
  | [] => True
  | (key, value) :: rest => sensitiveKey key = false ∧ Clean value ∧ CleanEntries rest

end

theorem cleanItems_iff {items : List Json} : CleanItems items ↔ ∀ item ∈ items, Clean item := by
  induction items with
  | nil => simp [CleanItems]
  | cons item rest inductionHypothesis => simp [CleanItems, inductionHypothesis]

theorem cleanEntries_iff {entries : List (String × Json)} :
    CleanEntries entries ↔ ∀ entry ∈ entries, sensitiveKey entry.1 = false ∧ Clean entry.2 := by
  induction entries with
  | nil => simp [CleanEntries]
  | cons entry rest inductionHypothesis =>
    simp only [CleanEntries, inductionHypothesis, List.forall_mem_cons, and_assoc]

omit [CaseMapping] in
/-- An entry of an update is new or was there. -/
theorem mem_update {known entries : List (String × Json)} {entry : String × Json}
    (member : entry ∈ update known entries) : entry ∈ known ∨ entry ∈ entries := by
  unfold update at member
  induction entries generalizing known with
  | nil => exact Or.inl member
  | cons first rest inductionHypothesis =>
    rcases inductionHypothesis member with earlier | later
    · rcases mem_setKey earlier with rfl | old
      · exact Or.inr (List.mem_cons_self ..)
      · exact Or.inl old
    · exact Or.inr (List.mem_cons_of_mem _ later)

omit [CaseMapping] in
theorem mem_collectEntries {entries : List (String × Json)} {entry : String × Json}
    (member : entry ∈ collectEntries entries) : entry ∈ entries := by
  rcases mem_update member with none | among
  · cases none
  · exact (mem_sortByKey _ _ _).mp among

/-- Lower case leaves ASCII texts without capitals as they are. -/
class KeepsLowerCase : Prop where
  lower_eq : ∀ text : String,
    (∀ c ∈ text.toList, c.toNat < 128 ∧ ¬('A' ≤ c ∧ c ≤ 'Z')) → CaseMapping.lower text = text

variable [KeepsLowerCase]

/-- The keys that the audit itself writes. -/
def writtenKeys : List String :=
  ["_length", "_omitted", "_sha256", "_type", "_original_bytes", "_truncated", "from", "to"]

/-- The markers of the service have no sensitive key. -/
theorem writtenKeys_clean : ∀ key ∈ writtenKeys, sensitiveKey key = false := by
  have checked : (writtenKeys.all fun key =>
      key.toList.all fun c => decide (c.toNat < 128 ∧ ¬('A' ≤ c ∧ c ≤ 'Z'))) = true := by
    decide +kernel
  have small : ∀ key ∈ writtenKeys,
      ∀ c ∈ key.toList, c.toNat < 128 ∧ ¬('A' ≤ c ∧ c ≤ 'Z') := by
    simpa only [List.all_eq_true, decide_eq_true_eq] using checked
  have unlisted : ∀ key ∈ writtenKeys,
      (String.ofList (key.toList.filter isKeyChar) ∈ secretKeys ||
        secretSuffixes.any (endsWith (String.ofList (key.toList.filter isKeyChar)))) = false := by
    decide +kernel
  intro key member
  rw [sensitiveKey, normalizedKey, KeepsLowerCase.lower_eq key (small key member)]
  exact unlisted key member

variable [AuditRuntime]

theorem largeStringSummary_clean (value : String) : Clean (largeStringSummary value) := by
  simp only [largeStringSummary, Clean, CleanEntries, and_true, true_and]
  exact ⟨writtenKeys_clean _ (by decide), writtenKeys_clean _ (by decide),
    writtenKeys_clean _ (by decide)⟩

theorem truncated_clean (value : Json) : Clean (truncated value) := by
  simp only [truncated, Clean, CleanEntries, and_true, true_and]
  exact ⟨writtenKeys_clean _ (by decide), writtenKeys_clean _ (by decide),
    writtenKeys_clean _ (by decide)⟩

set_option linter.unusedSectionVars false in
mutual

/-- A safe form is clean. -/
theorem jsonSafe_clean : (payload : Payload) → ∀ safe, jsonSafe payload = some safe → Clean safe
  | .null => by simp [jsonSafe, Clean]
  | .bool _ => by simp [jsonSafe, Clean]
  | .int _ => by simp [jsonSafe, Clean]
  | .float _ => by simp [jsonSafe, Clean]
  | .text value => by
    intro safe stored
    simp only [jsonSafe, safeText] at stored
    split_ifs at stored
    · cases stored
      exact largeStringSummary_clean value
    · cases stored
      trivial
  | .secret => by simp [jsonSafe]
  | .printed _ => by simp [jsonSafe, Clean]
  | .enumeration value => jsonSafe_clean value
  | .mapping entries => by
    intro safe stored
    cases stored
    refine cleanEntries_iff.mpr fun entry member => ?_
    exact safeEntries_clean entries entry (mem_collectEntries member)
  | .sequence items => by
    intro safe stored
    cases stored
    exact cleanItems_iff.mpr (safeItems_clean items)
  | .unordered items => by
    intro safe stored
    cases stored
    refine cleanItems_iff.mpr fun item member => ?_
    exact safeItems_clean items item ((mem_sortByKey _ _ _).mp member)
  | .unknown _ => by
    intro safe stored
    cases stored
    exact ⟨writtenKeys_clean _ (by decide), trivial, trivial⟩

theorem safeEntries_clean : (entries : List (String × Payload)) →
    ∀ entry ∈ safeEntries entries, sensitiveKey entry.1 = false ∧ Clean entry.2
  | [] => by simp [safeEntries]
  | (key, value) :: rest => by
    intro entry member
    rw [safeEntries] at member
    split_ifs at member with sensitive
    · exact safeEntries_clean rest entry member
    · cases safe : jsonSafe value with
      | none =>
        rw [safe] at member
        exact safeEntries_clean rest entry member
      | some stored =>
        rw [safe] at member
        rcases List.mem_cons.mp member with rfl | later
        · exact ⟨Bool.not_eq_true _ ▸ sensitive, jsonSafe_clean value stored safe⟩
        · exact safeEntries_clean rest entry later

theorem safeItems_clean : (items : List Payload) → ∀ item ∈ safeItems items, Clean item
  | [] => by simp [safeItems]
  | item :: rest => by
    intro other member
    rw [safeItems] at member
    cases safe : jsonSafe item with
    | none =>
      rw [safe] at member
      exact safeItems_clean rest other member
    | some stored =>
      rw [safe] at member
      rcases List.mem_cons.mp member with rfl | later
      · exact jsonSafe_clean item _ safe
      · exact safeItems_clean rest other later

end

/-- A value that fits, or the marker of a value that did not. -/
def Limited (maxBytes : ℕ) (value : Json) : Prop :=
  payloadBytes value ≤ maxBytes ∨
    ∃ original, value = truncated original ∧ maxBytes < payloadBytes original

variable {entries : List (String × Json)}

omit [KeepsLowerCase] [CaseMapping] [AuditRuntime] in
theorem dictionary?_eq_some {value : Json} :
    dictionary? value = some entries ↔ value = .object entries := by
  cases value <;> simp [dictionary?]

omit [KeepsLowerCase] [CaseMapping] in
theorem limitPayload_limited {value : Json} {maxBytes : ℕ}
    (kept : dictionary? (limitPayload value maxBytes) = some entries) :
    Limited maxBytes (.object entries) := by
  rw [dictionary?_eq_some] at kept
  unfold limitPayload at kept
  split_ifs at kept with _ fits
  · subst kept
    exact Or.inl fits
  · exact Or.inr ⟨value, kept.symm, not_le.mp fits⟩

theorem limitPayload_clean {value : Json} (clean : Clean value) (maxBytes : ℕ) :
    Clean (limitPayload value maxBytes) := by
  unfold limitPayload
  split_ifs
  · trivial
  · exact clean
  · exact truncated_clean value

omit [KeepsLowerCase] [CaseMapping] in
/-- A dictionary is limited to a dictionary. -/
theorem limitPayload_object (entries : List (String × Json)) (maxBytes : ℕ) :
    ∃ kept, limitPayload (.object entries) maxBytes = .object kept := by
  have present : Json.object entries ≠ .null := fun null => nomatch null
  rw [limitPayload, if_neg present]
  split_ifs
  · exact ⟨entries, rfl⟩
  · exact ⟨_, rfl⟩

/-- What is sanitised into a dictionary is clean and fits. -/
theorem sanitize_safe {payload : Payload} {maxBytes : ℕ}
    (kept : dictionary? (sanitizeAuditPayload payload maxBytes) = some entries) :
    CleanEntries entries ∧ Limited maxBytes (.object entries) := by
  unfold sanitizeAuditPayload at kept
  cases safe : jsonSafe payload with
  | none =>
    rw [safe] at kept
    cases kept
  | some value =>
    rw [safe] at kept
    change dictionary? (limitPayload value maxBytes) = some entries at kept
    have clean := limitPayload_clean (jsonSafe_clean payload value safe) maxBytes
    rw [dictionary?_eq_some.mp kept] at clean
    exact ⟨clean, limitPayload_limited kept⟩

omit [KeepsLowerCase] [AuditRuntime] in
theorem get_clean (clean : CleanEntries entries) (key : String) :
    Clean (get key entries) := by
  unfold PythonJson.get getOr
  cases found : entries.lookup key with
  | none => trivial
  | some value => exact (cleanEntries_iff.mp clean _ (mem_of_lookup found)).2

/-- The differences of clean snapshots are clean and fit. -/
theorem buildAuditChanges_safe {before after : List (String × Json)}
    (beforeClean : CleanEntries before) (afterClean : CleanEntries after) :
    CleanEntries (buildAuditChanges before after) ∧
      Limited maxChangesBytes (.object (buildAuditChanges before after)) := by
  have named : ∀ key ∈ before.map Prod.fst ++ after.map Prod.fst, sensitiveKey key = false := by
    intro key member
    rcases List.mem_append.mp member with old | new
    · obtain ⟨entry, listed, rfl⟩ := List.mem_map.mp old
      exact (cleanEntries_iff.mp beforeClean entry listed).1
    · obtain ⟨entry, listed, rfl⟩ := List.mem_map.mp new
      exact (cleanEntries_iff.mp afterClean entry listed).1
  have changes (keys : List String)
      (among : ∀ key ∈ keys, key ∈ before.map Prod.fst ++ after.map Prod.fst) :
      Clean (.object (keys.filterMap (changeOf before after))) := by
    refine cleanEntries_iff.mpr fun entry member => ?_
    obtain ⟨key, listed, changed⟩ := List.mem_filterMap.mp member
    unfold changeOf at changed
    split_ifs at changed
    obtain rfl := Option.some.inj changed
    exact ⟨named key (among key listed), writtenKeys_clean _ (by decide),
      get_clean beforeClean key, writtenKeys_clean _ (by decide), get_clean afterClean key,
      trivial⟩
  have keys : ∀ key ∈ sortByKey id (before.map Prod.fst ++ after.map Prod.fst).eraseDups,
      key ∈ before.map Prod.fst ++ after.map Prod.fst := fun key member =>
    List.mem_eraseDups.mp ((mem_sortByKey _ _ _).mp member)
  have clean := limitPayload_clean (changes _ keys) maxChangesBytes
  obtain ⟨kept, limited⟩ := limitPayload_object
    ((sortByKey id (before.map Prod.fst ++ after.map Prod.fst).eraseDups).filterMap
      (changeOf before after)) maxChangesBytes
  have built : buildAuditChanges before after = kept := by
    rw [buildAuditChanges, limited]
    rfl
  rw [built]
  rw [limited] at clean
  exact ⟨clean, limitPayload_limited (dictionary?_eq_some.mpr limited)⟩

/-- The data of an event have no sensitive key at any depth, and each fits its limit or is
the marker of data that did not. -/
structure StoredSafely (event : AuditEvent) : Prop where
  before : ∀ entries ∈ event.beforeData,
    CleanEntries entries ∧ Limited maxBeforeAfterBytes (.object entries)
  after : ∀ entries ∈ event.afterData,
    CleanEntries entries ∧ Limited maxBeforeAfterBytes (.object entries)
  changes : CleanEntries event.changes ∧ Limited maxChangesBytes (.object event.changes)
  metadata : ∀ entries ∈ event.metadataJson,
    CleanEntries entries ∧ Limited maxMetadataBytes (.object entries)

/-- Every event that is recorded is stored safely. -/
theorem record_stored_safely {request : AuditRequest} {event : AuditEvent}
    (recorded : record request = .ok event) : StoredSafely event := by
  have getD_clean (payload : Payload) (maxBytes : ℕ) :
      CleanEntries ((dictionary? (sanitizeAuditPayload payload maxBytes)).getD []) := by
    cases kept : dictionary? (sanitizeAuditPayload payload maxBytes) with
    | none => trivial
    | some entries => exact (sanitize_safe kept).1
  unfold record at recorded
  dsimp only at recorded
  split at recorded
  · cases recorded
  simp only [Fallible.bind_eq_ok] at recorded
  obtain ⟨action, -, module, -, entityType, -, stored⟩ := recorded
  cases stored
  exact ⟨fun _ kept => sanitize_safe kept, fun _ kept => sanitize_safe kept,
    buildAuditChanges_safe (getD_clean _ _) (getD_clean _ _), fun _ kept => sanitize_safe kept⟩

end Cleanliness

section Snapshots

/-- The keys of a dictionary whose entries are sorted and distinct. -/
def AscendingKeys (entries : List (String × Json)) : Prop :=
  (entries.map Prod.fst).Pairwise (· < ·)

theorem AscendingKeys.nodup {entries : List (String × Json)} (ascending : AscendingKeys entries) :
    (entries.map Prod.fst).Nodup :=
  List.Pairwise.imp (fun below => ne_of_lt below) ascending

/-- Setting a key that is not below the others keeps the order. -/
theorem setKey_ascending {known : List (String × Json)} {key : String} {value : Json}
    (ascending : AscendingKeys known) (above : ∀ other ∈ known.map Prod.fst, other ≤ key) :
    AscendingKeys (setKey key value known) := by
  induction known with
  | nil => exact List.pairwise_singleton _ _
  | cons entry rest inductionHypothesis =>
    obtain ⟨other, old⟩ := entry
    obtain ⟨below, restAscending⟩ := List.pairwise_cons.mp ascending
    rw [setKey]
    split_ifs with same
    · subst same
      exact ascending
    · have later := inductionHypothesis restAscending fun wanted member =>
        above wanted (List.mem_cons_of_mem _ member)
      refine List.pairwise_cons.mpr ⟨fun wanted member => ?_, later⟩
      rcases mem_keys_setKey.mp member with rfl | old
      · exact lt_of_le_of_ne (above other (List.mem_cons_self ..)) same
      · exact below wanted old

/-- A safe dictionary has its keys in order. -/
theorem collectEntries_ascending (entries : List (String × Json)) :
    AscendingKeys (collectEntries entries) := by
  have loop (sorted known : List (String × Json))
      (inOrder : sorted.Pairwise fun left right => left.1 ≤ right.1)
      (ascending : AscendingKeys known)
      (above : ∀ other ∈ known.map Prod.fst, ∀ entry ∈ sorted, other ≤ entry.1) :
      AscendingKeys (update known sorted) := by
    induction sorted generalizing known with
    | nil => exact ascending
    | cons entry rest inductionHypothesis =>
      obtain ⟨below, restInOrder⟩ := List.pairwise_cons.mp inOrder
      apply inductionHypothesis _ restInOrder
      · exact setKey_ascending ascending fun other member =>
          above other member entry (List.mem_cons_self ..)
      · intro other member later listed
        rcases mem_keys_setKey.mp member with rfl | old
        · exact below later listed
        · exact above other old later (List.mem_cons_of_mem _ listed)
  exact loop _ [] (sortByKey_ascending _ _) List.Pairwise.nil fun _ none => nomatch none

/-- A dictionary whose keys are in order is collected as it is. -/
theorem collectEntries_of_ascending {entries : List (String × Json)}
    (ascending : AscendingKeys entries) : collectEntries entries = entries := by
  have sorted : sortByKey Prod.fst entries = entries :=
    List.Pairwise.insertionSort_eq
      (List.Pairwise.imp (fun below => le_of_lt below) (List.pairwise_map.mp ascending))
  have appended (known : List (String × Json)) (key : String) (value : Json)
      (unknown : key ∉ known.map Prod.fst) : setKey key value known = known ++ [(key, value)] := by
    induction known with
    | nil => rfl
    | cons entry rest inductionHypothesis =>
      obtain ⟨other, old⟩ := entry
      rw [List.map_cons, List.mem_cons, not_or] at unknown
      rw [setKey, if_neg (Ne.symm unknown.1), inductionHypothesis unknown.2, List.cons_append]
  have loop (rest known : List (String × Json))
      (distinct : ((known ++ rest).map Prod.fst).Nodup) :
      update known rest = known ++ rest := by
    induction rest generalizing known with
    | nil => exact (List.append_nil known).symm
    | cons entry rest inductionHypothesis =>
      have unknown : entry.1 ∉ known.map Prod.fst := by
        rw [List.map_append, List.map_cons] at distinct
        exact fun member => (List.nodup_append.mp distinct).2.2 entry.1 member entry.1
          (List.mem_cons_self ..) rfl
      have step : update known (entry :: rest) = update (known ++ [entry]) rest :=
        congrArg (update · rest) (appended known entry.1 entry.2 unknown)
      rw [step, inductionHypothesis, List.append_assoc, List.singleton_append]
      rwa [List.append_assoc, List.singleton_append]
  rw [collectEntries, sorted]
  exact loop entries [] ascending.nodup

variable [CaseMapping] [AuditRuntime]

/-- A text that is stored as it is. -/
def PlainText (text : String) : Prop := safeText text = some (.string text)

mutual

/-- Sanitising the value again changes nothing in it. -/
def Settled : Json → Prop
  | .string text => PlainText text
  | .array items => SettledItems items
  | .object entries => AscendingKeys entries ∧ SettledEntries entries
  | _ => True

def SettledItems : List Json → Prop
  | [] => True
  | item :: rest => Settled item ∧ SettledItems rest

def SettledEntries : List (String × Json) → Prop
  | [] => True
  | (key, value) :: rest => sensitiveKey key = false ∧ Settled value ∧ SettledEntries rest

end

mutual

theorem jsonSafe_settled : (value : Json) → Settled value →
    jsonSafe (payloadOfJson value) = some value
  | .null, _ => rfl
  | .bool _, _ => rfl
  | .int _, _ => rfl
  | .float _, _ => rfl
  | .string _, settled => settled
  | .array items, settled => by
    rw [payloadOfJson, jsonSafe, safeItems_settled items settled]
  | .object entries, settled => by
    rw [payloadOfJson, jsonSafe, safeEntries_settled entries settled.2,
      collectEntries_of_ascending settled.1]

theorem safeItems_settled : (items : List Json) → SettledItems items →
    safeItems (payloadsOfItems items) = items
  | [], _ => rfl
  | item :: rest, settled => by
    rw [payloadsOfItems, safeItems, jsonSafe_settled item settled.1,
      safeItems_settled rest settled.2]

theorem safeEntries_settled : (entries : List (String × Json)) → SettledEntries entries →
    safeEntries (payloadsOfEntries entries) = entries
  | [], _ => rfl
  | (key, value) :: rest, settled => by
    have kept : ¬sensitiveKey key = true := by rw [settled.1]; exact Bool.false_ne_true
    rw [payloadsOfEntries, safeEntries, if_neg kept, jsonSafe_settled value settled.2.1,
      safeEntries_settled rest settled.2.2]

end

end Snapshots

section Repetition

variable [CaseMapping] [AuditRuntime]

/-- What the audit writes itself is stored as it is: digests are hexadecimal numbers. -/
class PlainMarks : Prop where
  digest : ∀ text, PlainText (AuditRuntime.sha256 text)
  certificate : PlainText "certificate_pem"
  large : PlainText "large_text"

mutual

/-- The printed texts of a payload are stored as they are: they are not long, and no
secrets. -/
def Plain : Payload → Prop
  | .printed text => PlainText text
  | .unknown typeName => PlainText typeName
  | .enumeration value => Plain value
  | .mapping entries => PlainEntries entries
  | .sequence items => PlainItems items
  | .unordered items => PlainItems items
  | _ => True

def PlainEntries : List (String × Payload) → Prop
  | [] => True
  | (key, value) :: rest => (sensitiveKey key = true ∨ Plain value) ∧ PlainEntries rest

def PlainItems : List Payload → Prop
  | [] => True
  | item :: rest => Plain item ∧ PlainItems rest

end

theorem settledItems_iff {items : List Json} :
    SettledItems items ↔ ∀ item ∈ items, Settled item := by
  induction items with
  | nil => simp [SettledItems]
  | cons item rest inductionHypothesis => simp [SettledItems, inductionHypothesis]

theorem settledEntries_iff {entries : List (String × Json)} :
    SettledEntries entries ↔
      ∀ entry ∈ entries, sensitiveKey entry.1 = false ∧ Settled entry.2 := by
  induction entries with
  | nil => simp [SettledEntries]
  | cons entry rest inductionHypothesis =>
    simp only [SettledEntries, inductionHypothesis, List.forall_mem_cons, and_assoc]

variable [KeepsLowerCase] [PlainMarks]

theorem largeStringSummary_settled (value : String) : Settled (largeStringSummary value) := by
  have kind : PlainText (if isCertificate value then "certificate_pem" else "large_text") := by
    split_ifs
    · exact PlainMarks.certificate
    · exact PlainMarks.large
  have ascending : ["_length", "_omitted", "_sha256"].Pairwise (· < ·) := by decide
  exact ⟨ascending, writtenKeys_clean _ (by decide), trivial, writtenKeys_clean _ (by decide),
    kind, writtenKeys_clean _ (by decide), PlainMarks.digest value, trivial⟩

theorem truncated_settled (value : Json) : Settled (truncated value) := by
  have ascending : ["_original_bytes", "_sha256", "_truncated"].Pairwise (· < ·) := by decide
  exact ⟨ascending, writtenKeys_clean _ (by decide), trivial, writtenKeys_clean _ (by decide),
    PlainMarks.digest _, writtenKeys_clean _ (by decide), trivial, trivial⟩

set_option linter.unusedSectionVars false in
mutual

/-- The safe form of a plain payload is settled. -/
theorem settled_of_plain : (payload : Payload) → Plain payload →
    ∀ safe, jsonSafe payload = some safe → Settled safe
  | .null, _ => by simp [jsonSafe, Settled]
  | .bool _, _ => by simp [jsonSafe, Settled]
  | .int _, _ => by simp [jsonSafe, Settled]
  | .float _, _ => by simp [jsonSafe, Settled]
  | .text value, _ => by
    intro safe stored
    by_cases kept : safeText value = some (.string value)
    · cases kept.symm.trans stored
      exact kept
    · simp only [jsonSafe, safeText] at stored
      split_ifs at stored with secret long
      · cases stored
        exact largeStringSummary_settled value
      · exact absurd (by simp [safeText, secret, long]) kept
  | .secret, _ => by simp [jsonSafe]
  | .printed _, plain => by
    intro safe stored
    cases stored
    exact plain
  | .enumeration value, plain => settled_of_plain value plain
  | .mapping entries, plain => by
    intro safe stored
    cases stored
    refine ⟨collectEntries_ascending _, settledEntries_iff.mpr fun entry member => ?_⟩
    exact settledEntries_of_plain entries plain entry (mem_collectEntries member)
  | .sequence items, plain => by
    intro safe stored
    cases stored
    exact settledItems_iff.mpr (settledItems_of_plain items plain)
  | .unordered items, plain => by
    intro safe stored
    cases stored
    refine settledItems_iff.mpr fun item member => ?_
    exact settledItems_of_plain items plain item ((mem_sortByKey _ _ _).mp member)
  | .unknown _, plain => by
    intro safe stored
    cases stored
    exact ⟨List.pairwise_singleton _ _, writtenKeys_clean _ (by decide), plain, trivial⟩

theorem settledEntries_of_plain : (entries : List (String × Payload)) → PlainEntries entries →
    ∀ entry ∈ safeEntries entries, sensitiveKey entry.1 = false ∧ Settled entry.2
  | [], _ => by simp [safeEntries]
  | (key, value) :: rest, plain => by
    intro entry member
    rw [safeEntries] at member
    split_ifs at member with sensitive
    · exact settledEntries_of_plain rest plain.2 entry member
    · cases safe : jsonSafe value with
      | none =>
        rw [safe] at member
        exact settledEntries_of_plain rest plain.2 entry member
      | some stored =>
        rw [safe] at member
        rcases List.mem_cons.mp member with rfl | later
        · exact ⟨Bool.not_eq_true _ ▸ sensitive,
            settled_of_plain value (plain.1.resolve_left sensitive) stored safe⟩
        · exact settledEntries_of_plain rest plain.2 entry later

theorem settledItems_of_plain : (items : List Payload) → PlainItems items →
    ∀ item ∈ safeItems items, Settled item
  | [], _ => by simp [safeItems]
  | item :: rest, plain => by
    intro other member
    rw [safeItems] at member
    cases safe : jsonSafe item with
    | none =>
      rw [safe] at member
      exact settledItems_of_plain rest plain.2 other member
    | some stored =>
      rw [safe] at member
      rcases List.mem_cons.mp member with rfl | later
      · exact settled_of_plain item plain.1 _ safe
      · exact settledItems_of_plain rest plain.2 other later

end

/-- A settled value that fits is limited to itself again. -/
theorem sanitize_settled {value : Json} (settled : Settled value) {maxBytes : ℕ}
    (markerFits : payloadBytes (truncated value) ≤ maxBytes) :
    sanitizeAuditPayload (payloadOfJson (limitPayload value maxBytes)) maxBytes =
      limitPayload value maxBytes := by
  by_cases null : value = .null
  · subst null
    rfl
  have marker : truncated value ≠ .null := fun contrary => nomatch contrary
  rw [limitPayload, if_neg null]
  split_ifs with fits
  · rw [sanitizeAuditPayload, jsonSafe_settled value settled]
    exact (if_neg null).trans (if_pos fits)
  · rw [sanitizeAuditPayload, jsonSafe_settled _ (truncated_settled value)]
    exact (if_neg marker).trans (if_pos markerFits)

omit [KeepsLowerCase] [PlainMarks] in
/-- A snapshot is the sanitised mapping. -/
theorem sanitize_mapping (entries : List (String × Payload)) :
    sanitizeAuditPayload (.mapping entries) maxBeforeAfterBytes =
      .object (auditSnapshot entries) := by
  obtain ⟨kept, limited⟩ :=
    limitPayload_object (collectEntries (safeEntries entries)) maxBeforeAfterBytes
  have sanitized : sanitizeAuditPayload (.mapping entries) maxBeforeAfterBytes = .object kept :=
    limited
  rw [auditSnapshot, sanitized]
  rfl

/-- The marker of the mapping, should it be cut, is within the limit itself. -/
def MarkerFits (entries : List (String × Payload)) : Prop :=
  payloadBytes (truncated (.object (collectEntries (safeEntries entries)))) ≤ maxBeforeAfterBytes

/-- Sanitising a snapshot gives the snapshot. -/
theorem sanitize_snapshot {entries : List (String × Payload)} (plain : PlainEntries entries)
    (markerFits : MarkerFits entries) :
    sanitizeAuditPayload (.mapping (payloadsOfEntries (auditSnapshot entries)))
        maxBeforeAfterBytes =
      sanitizeAuditPayload (.mapping entries) maxBeforeAfterBytes := by
  have settled : Settled (.object (collectEntries (safeEntries entries))) :=
    settled_of_plain (.mapping entries) plain _ rfl
  have again := sanitize_settled settled markerFits
  have limited : limitPayload (.object (collectEntries (safeEntries entries)))
      maxBeforeAfterBytes = .object (auditSnapshot entries) := sanitize_mapping entries
  rw [limited] at again
  exact again.trans (sanitize_mapping entries).symm

/-- A request whose data are snapshots already, as most callers pass them. -/
def snapshotted (request : AuditRequest) : AuditRequest :=
  { request with
    before := request.before.map fun entries => payloadsOfEntries (auditSnapshot entries)
    after := request.after.map fun entries => payloadsOfEntries (auditSnapshot entries) }

/-- Taking snapshots first changes nothing in the event. -/
theorem record_snapshotted {request : AuditRequest}
    (plainBefore : ∀ entries ∈ request.before, PlainEntries entries ∧ MarkerFits entries)
    (plainAfter : ∀ entries ∈ request.after, PlainEntries entries ∧ MarkerFits entries) :
    record (snapshotted request) = record request := by
  have same {data : Option (List (String × Payload))}
      (plain : ∀ entries ∈ data, PlainEntries entries ∧ MarkerFits entries) :
      sanitizeAuditPayload (payloadOf
          (data.map fun entries => payloadsOfEntries (auditSnapshot entries)))
          maxBeforeAfterBytes =
        sanitizeAuditPayload (payloadOf data) maxBeforeAfterBytes := by
    cases data with
    | none => rfl
    | some entries =>
      obtain ⟨plainEntries, markerFits⟩ := plain entries rfl
      exact sanitize_snapshot plainEntries markerFits
  have before : sanitizeAuditPayload (payloadOf (snapshotted request).before)
      maxBeforeAfterBytes = sanitizeAuditPayload (payloadOf request.before) maxBeforeAfterBytes :=
    same plainBefore
  have after : sanitizeAuditPayload (payloadOf (snapshotted request).after)
      maxBeforeAfterBytes = sanitizeAuditPayload (payloadOf request.after) maxBeforeAfterBytes :=
    same plainAfter
  rw [record, before, after]
  rfl

end Repetition

section Samples

theorem asciiCase_keeps : @KeepsLowerCase asciiCase := by
  apply @KeepsLowerCase.mk asciiCase
  intro text small
  have same : text.toList.map Char.toLower = text.toList := by
    refine (List.map_congr_left fun c member => ?_).trans (List.map_id _)
    have unchanged : ¬(c.val ≥ 'A'.val ∧ c.val ≤ 'Z'.val) := (small c member).2
    have kept : c.toLower = c := dif_neg unchanged
    exact kept
  change String.ofList (text.toList.map Char.toLower) = text
  rw [same, String.ofList_toList]

theorem plainRuntime_marks : @PlainMarks asciiCase plainRuntime := by
  have digest : @PlainText asciiCase plainRuntime sampleDigest := by
    unfold PlainText
    decide +kernel
  apply @PlainMarks.mk asciiCase plainRuntime (fun _ => digest)
  · unfold PlainText
    decide +kernel
  · unfold PlainText
    decide +kernel

/-- A user is created with a password. -/
def sampleRequest (password : String) : AuditRequest where
  actor := some ⟨some "user-1", some "Ana", none⟩
  action := some "user.created"
  module := some "users"
  entityType := some "user"
  entityId := some "user-2"
  entityLabel := none
  before := none
  after := some [("name", .text "Bia"), ("new_password", .text password),
    ("created", .printed "2025-01-01")]
  source := "ui"
  metadata := none
  correlationId := none

theorem sample_sensitive : @sensitiveKey asciiCase "new_password" = true := by decide +kernel

/-- Two passwords give one event. -/
theorem record_noninterference_sample :
    @record asciiCase plainRuntime (sampleRequest "first") =
      @record asciiCase plainRuntime (sampleRequest "second") := by
  apply @record_noninterference asciiCase plainRuntime
  apply @SameButSecrets.mk asciiCase
  · rfl
  · simp [sampleRequest, eraseEntries, sample_sensitive]
  · rfl
  · rfl

/-- The event of the sample. -/
def sampleEvent : AuditEvent where
  actorId := some "user-1"
  actorNameSnapshot := some "Ana"
  actorEmailSnapshot := none
  action := "user.created"
  module := "users"
  entityType := "user"
  entityId := some "user-2"
  entityLabel := none
  source := "UI"
  beforeData := none
  afterData := some [("created", .string "2025-01-01"), ("name", .string "Bia")]
  changes := [("created", .object [("from", .null), ("to", .string "2025-01-01")]),
    ("name", .object [("from", .null), ("to", .string "Bia")])]
  metadataJson := none
  correlationId := none

theorem record_stored_safely_sample : @StoredSafely asciiCase plainRuntime sampleEvent :=
  @record_stored_safely asciiCase asciiCase_keeps plainRuntime (sampleRequest "first") sampleEvent
    rfl

theorem record_snapshotted_sample :
    @record asciiCase plainRuntime (@snapshotted asciiCase plainRuntime (sampleRequest "first")) =
      @record asciiCase plainRuntime (sampleRequest "first") := by
  apply @record_snapshotted asciiCase plainRuntime asciiCase_keeps plainRuntime_marks
  · intro entries none
    cases none
  · intro entries given
    cases given
    refine ⟨⟨.inr trivial, .inr trivial, .inr ?_, trivial⟩, ?_⟩
    · unfold Plain PlainText
      decide +kernel
    · unfold MarkerFits
      decide +kernel

end Samples

end FinopsAnalytics.AuditEvents
