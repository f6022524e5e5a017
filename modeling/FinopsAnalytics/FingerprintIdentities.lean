import FinopsAnalytics.OpportunityFingerprint

/-!
# Which opportunities share a fingerprint

The payload separates the normalised fields and nothing else. Space around a field does
not reach them, and neither does the case of the ASCII letters of a field that is
compared without case.
-/

namespace FinopsAnalytics.FingerprintIdentities

open PythonText OpportunityRecords OpportunityFingerprint Fallible

section Spellings

/-- A text with white space added around it. -/
def Padded (plain spelled : String) : Prop :=
  ∃ before after : List Char, (∀ c ∈ before, isSpace c = true) ∧ (∀ c ∈ after, isSpace c = true) ∧
    spelled.toList = before ++ plain.toList ++ after

/-- Two texts that differ in the case of ASCII letters at most. -/
def SameButCase (plain spelled : String) : Prop :=
  plain.toList.map Char.toLower = spelled.toList.map Char.toLower

instance (plain spelled : String) : Decidable (SameButCase plain spelled) :=
  inferInstanceAs (Decidable (_ = _))

/-- A text in another case, with white space around it. -/
def Respelled (plain spelled : String) : Prop :=
  ∃ between, SameButCase plain between ∧ Padded between spelled

theorem Padded.refl (text : String) : Padded text text :=
  ⟨[], [], by simp, by simp, by simp⟩

variable {plain spelled : String}

theorem Padded.respelled (padded : Padded plain spelled) :
    Respelled plain spelled :=
  ⟨plain, rfl, padded⟩

theorem SameButCase.respelled (same : SameButCase plain spelled) :
    Respelled plain spelled :=
  ⟨spelled, same, Padded.refl spelled⟩

/-- White space at both ends is removed. -/
theorem stripChars_padded {before chars after : List Char}
    (blankBefore : ∀ c ∈ before, isSpace c = true) (blankAfter : ∀ c ∈ after, isSpace c = true) :
    stripChars (before ++ chars ++ after) = stripChars chars := by
  have blankReverse : ∀ c ∈ after.reverse, isSpace c = true := fun c member =>
    blankAfter c (List.mem_reverse.mp member)
  unfold stripChars
  rw [List.append_assoc, List.dropWhile_append_of_pos blankBefore, List.dropWhile_append]
  by_cases blank : (chars.dropWhile isSpace).isEmpty = true
  · have nothing : after.dropWhile isSpace = [] := List.dropWhile_eq_nil_iff.mpr blankAfter
    rw [if_pos blank, nothing, List.isEmpty_iff.mp blank]
  · rw [if_neg blank, List.reverse_append, List.dropWhile_append_of_pos blankReverse]

theorem strip_padded (padded : Padded plain spelled) :
    strip spelled = strip plain := by
  obtain ⟨before, after, blankBefore, blankAfter, same⟩ := padded
  rw [strip, same, stripChars_padded blankBefore blankAfter]
  rfl

/-- A letter is no white space in either case. -/
theorem isSpace_toLower (c : Char) : isSpace c.toLower = isSpace c := by
  have letters : ∀ code < 91, 65 ≤ code →
      isSpace (Char.ofNat code).toLower = isSpace (Char.ofNat code) := by decide
  by_cases upper : c.val ≥ 'A'.val ∧ c.val ≤ 'Z'.val
  · have first : 65 ≤ c.toNat := UInt32.le_iff_toNat_le.mp upper.1
    have last : c.toNat ≤ 90 := UInt32.le_iff_toNat_le.mp upper.2
    rw [← Char.ofNat_toNat c]
    exact letters c.toNat (by omega) first
  · have same : c.toLower = c := dif_neg upper
    rw [same]

/-- Trimming does not look at the case of letters. -/
theorem stripChars_toLower (chars : List Char) :
    stripChars (chars.map Char.toLower) = (stripChars chars).map Char.toLower := by
  have blind : isSpace ∘ Char.toLower = isSpace := funext isSpace_toLower
  unfold stripChars
  rw [List.dropWhile_map, blind, ← List.map_reverse, List.dropWhile_map, blind, List.map_reverse]

theorem SameButCase.strip (same : SameButCase plain spelled) :
    SameButCase (PythonText.strip plain) (PythonText.strip spelled) := by
  unfold SameButCase PythonText.strip at *
  rw [String.toList_ofList, String.toList_ofList, ← stripChars_toLower, ← stripChars_toLower, same]

end Spellings

section Identities

variable [CaseMapping]

/-- The conversion to lower case does not look at the case of the ASCII letters. -/
class BlindToAsciiCase : Prop where
  lower_eq : ∀ plain spelled, SameButCase plain spelled →
    CaseMapping.lower plain = CaseMapping.lower spelled

/-- An account is named by a text or by a number. -/
inductive AccountId where
  | text (value : String)
  | number (value : ℤ)
deriving DecidableEq, Repr

/-- `str(account_id)`. -/
def AccountId.str : AccountId → String
  | .text value => value
  | .number value => toString value

/-- The arguments of `build_opportunity_fingerprint` as they are given. -/
structure FingerprintArguments where
  provider : String
  accountId : AccountId
  region : Option String
  resourceId : String
  ruleId : String
  scope : Option String
deriving DecidableEq, Repr

def FingerprintArguments.identity (arguments : FingerprintArguments) : Identity where
  provider := arguments.provider
  accountId := arguments.accountId.str
  region := arguments.region
  resourceId := arguments.resourceId
  ruleId := arguments.ruleId
  scope := arguments.scope

/-- The same arguments with white space around some texts, and with ASCII letters of the
provider, the region, the scope and the rule in another case. -/
structure Variant (plain spelled : FingerprintArguments) : Prop where
  provider : Respelled plain.provider spelled.provider
  accountId : plain.accountId = spelled.accountId ∨
    ∃ text other, plain.accountId = .text text ∧ spelled.accountId = .text other ∧
      Padded text other
  region : Option.Rel Respelled plain.region spelled.region
  resourceId : Padded plain.resourceId spelled.resourceId
  ruleId : Respelled plain.ruleId spelled.ruleId
  scope : Option.Rel Respelled plain.scope spelled.scope

/-- A padded text is normalised to the same text. -/
theorem normalizeText_padded {plain spelled : String} (padded : Padded plain spelled)
    (lowercase : Bool) :
    normalizeText (some spelled) lowercase = normalizeText (some plain) lowercase := by
  unfold normalizeText
  rw [orEmpty_some, orEmpty_some, strip_padded padded]

variable [BlindToAsciiCase]

/-- In lower case so is a text that is respelled. -/
theorem normalizeText_respelled {plain spelled : String} (respelled : Respelled plain spelled) :
    normalizeText (some spelled) true = normalizeText (some plain) true := by
  obtain ⟨between, same, padded⟩ := respelled
  rw [normalizeText_padded padded]
  exact (BlindToAsciiCase.lower_eq _ _ same.strip).symm

theorem normalizeText_optional {plain spelled : Option String}
    (respelled : Option.Rel Respelled plain spelled) :
    normalizeText spelled true = normalizeText plain true := by
  cases respelled with
  | none => rfl
  | some respelled => exact normalizeText_respelled respelled

omit [BlindToAsciiCase] in
/-- Fields that are normalised to one text are accepted and refused together. -/
theorem normalize_congr {plain spelled : Option String} {lowercase : Bool}
    (same : normalizeText spelled lowercase = normalizeText plain lowercase) (field : String)
    (allowEmpty : Bool) :
    OpportunityFingerprint.normalize spelled field lowercase allowEmpty =
      OpportunityFingerprint.normalize plain field lowercase allowEmpty := by
  unfold OpportunityFingerprint.normalize
  rw [same]

/-- Variants of an identity have one canonical payload. -/
theorem canonicalPayload_variant {plain spelled : FingerprintArguments}
    (variant : Variant plain spelled) :
    canonicalPayload spelled.identity = canonicalPayload plain.identity := by
  have account : normalizeText (some spelled.accountId.str) false =
      normalizeText (some plain.accountId.str) false := by
    rcases variant.accountId with same | ⟨text, other, isText, isOther, padded⟩
    · rw [same]
    · rw [isText, isOther]
      exact normalizeText_padded padded false
  unfold canonicalPayload FingerprintArguments.identity
  rw [normalize_congr (normalizeText_respelled variant.provider), normalize_congr account,
    normalize_congr (normalizeText_optional variant.region),
    normalize_congr (normalizeText_optional variant.scope),
    normalize_congr (normalizeText_padded variant.resourceId false),
    normalize_congr (normalizeText_respelled variant.ruleId)]

variable [Digest]

/-- What a fingerprint identifies: the payloads and the fingerprints of two accepted
calls are the same exactly when the normalised fields are, and a call with white space
around its texts, or with ASCII letters of the fields without case in another case, has
the same outcome. -/
theorem fingerprint_identifies [CollisionFree] (first second : FingerprintArguments) :
    (∀ payload other, canonicalPayload first.identity = .ok payload →
      canonicalPayload second.identity = .ok other →
        (payload = other ↔ first.identity.fields = second.identity.fields)) ∧
      (∀ fingerprint other, buildOpportunityFingerprint first.identity = .ok fingerprint →
        buildOpportunityFingerprint second.identity = .ok other →
          (fingerprint = other ↔ first.identity.fields = second.identity.fields)) ∧
      (Variant first second →
        buildOpportunityFingerprint second.identity = buildOpportunityFingerprint first.identity) := by
  refine ⟨fun payload other accepted otherAccepted => ?_,
    fun fingerprint other built otherBuilt => ?_, fun variant => ?_⟩
  · rw [canonicalPayload_eq_ok accepted, canonicalPayload_eq_ok otherAccepted]
    constructor
    · intro same
      exact (List.cons.inj (dumps_injective same)).2
    · intro same
      rw [same]
  · constructor
    · rintro rfl
      exact fields_of_fingerprint built otherBuilt
    · intro same
      rw [buildOpportunityFingerprint_eq_ok built, buildOpportunityFingerprint_eq_ok otherBuilt,
        same]
  · unfold buildOpportunityFingerprint
    rw [canonicalPayload_variant variant]

end Identities

section Sample

attribute [local instance] asciiCase plainDigest

theorem asciiCase_blind : BlindToAsciiCase where
  lower_eq _ _ same := congrArg String.ofList same

theorem plainDigest_collisionFree : CollisionFree where
  sha256_injective _ _ same := same

/-- A volume whose identifier ends with a backslash. -/
def volumeArguments : FingerprintArguments where
  provider := "aws"
  accountId := .text "111"
  region := some "eu-west-1"
  resourceId := "vol-1\\"
  ruleId := "EBS_UNATTACHED"
  scope := none

/-- The same volume in another spelling. -/
def respelledArguments : FingerprintArguments :=
  { volumeArguments with provider := " AWS", region := some "EU-West-1" }

/-- A volume whose identifier goes on with a quotation mark. -/
def quotedArguments : FingerprintArguments :=
  { volumeArguments with resourceId := "vol-1\\\"" }

theorem respelled_variant : Variant volumeArguments respelledArguments where
  provider := by
    refine ⟨"AWS", by decide, [' '], [], fun c member => ?_, fun c member => ?_, by decide⟩
    · rw [List.mem_singleton.mp member]
      decide
    · cases member
  accountId := Or.inl rfl
  region := .some (SameButCase.respelled (by decide))
  resourceId := Padded.refl _
  ruleId := (Padded.refl _).respelled
  scope := .none

/-- The other spelling has the same fingerprint, the other identifier has not. -/
theorem volume_identified :
    buildOpportunityFingerprint respelledArguments.identity =
        buildOpportunityFingerprint volumeArguments.identity ∧
      ¬ ∃ fingerprint, buildOpportunityFingerprint volumeArguments.identity = .ok fingerprint ∧
        buildOpportunityFingerprint quotedArguments.identity = .ok fingerprint := by
  have blind := asciiCase_blind
  have collisionFree := plainDigest_collisionFree
  refine ⟨(fingerprint_identifies volumeArguments respelledArguments).2.2 respelled_variant, ?_⟩
  rintro ⟨fingerprint, built, quotedBuilt⟩
  have same := ((fingerprint_identifies volumeArguments quotedArguments).2.1 _ _ built
    quotedBuilt).mp rfl
  have apart : volumeArguments.identity.fields ≠ quotedArguments.identity.fields := by
    decide +kernel
  exact apart same

end Sample

end FinopsAnalytics.FingerprintIdentities
