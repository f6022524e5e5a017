import FinopsAnalytics.CostExplorer
import FinopsAnalytics.Fallible

/-!
# Billing profiles

A profile holds the methodology of a billing query. A request is resolved against the
profile that it names, or the default one, and its own values override those of the
profile.
-/

namespace FinopsAnalytics.BillingProfiles

open PythonText CivilCalendar CostExplorer

/-- `AWS_RECORD_TYPES` -/
inductive RecordType where
  | credit
  | discountedUsage
  | fee
  | refund
  | riFee
  | savingsPlanCoveredUsage
  | savingsPlanNegation
  | savingsPlanRecurringFee
  | savingsPlanUpfrontFee
  | tax
  | usage
deriving DecidableEq, Repr

def RecordType.value : RecordType → String
  | .credit => "Credit"
  | .discountedUsage => "DiscountedUsage"
  | .fee => "Fee"
  | .refund => "Refund"
  | .riFee => "RIFee"
  | .savingsPlanCoveredUsage => "SavingsPlanCoveredUsage"
  | .savingsPlanNegation => "SavingsPlanNegation"
  | .savingsPlanRecurringFee => "SavingsPlanRecurringFee"
  | .savingsPlanUpfrontFee => "SavingsPlanUpfrontFee"
  | .tax => "Tax"
  | .usage => "Usage"

structure BillingProfile where
  id : String
  name : String
  description : Option String
  granularity : BillingGranularity
  metric : BillingMetric
  groupBy : BillingGroupBy
  excludeRecordTypes : List RecordType
  isDefault : Bool
  enabled : Bool
  isSystem : Bool
deriving DecidableEq, Repr

structure BillingProfileError where
  code : String
  message : String
deriving DecidableEq, Repr

def finopsSystemProfileId : String := "00000000-0000-0000-0000-000000023015"

structure BillingProfileCreate where
  name : String
  description : Option String
  granularity : BillingGranularity
  metric : BillingMetric
  groupBy : BillingGroupBy
  excludeRecordTypes : List RecordType
  isDefault : Bool
deriving DecidableEq, Repr

/-- The fields that are set, each with a value or null. -/
structure BillingProfileUpdate where
  name : Option (Option String) := none
  description : Option (Option String) := none
  granularity : Option (Option BillingGranularity) := none
  metric : Option (Option BillingMetric) := none
  groupBy : Option (Option BillingGroupBy) := none
  excludeRecordTypes : Option (Option (List RecordType)) := none
deriving DecidableEq, Repr

/-- `BillingProfileService.get` -/
def getProfile (profiles : List BillingProfile) (profileId : String) (requireEnabled : Bool) :
    Except BillingProfileError BillingProfile :=
  match profiles.find? fun profile => profile.id = profileId with
  | none => .error ⟨"PROFILE_NOT_FOUND", "Perfil de Billing não encontrado."⟩
  | some profile =>
    if requireEnabled ∧ ¬profile.enabled then
      .error ⟨"PROFILE_INACTIVE", "O perfil de Billing está inativo."⟩
    else .ok profile

/-- A field that is set must have a value. -/
def requiredField {α : Type} (message : String) (old : α) :
    Option (Option α) → Except BillingProfileError α
  | none => .ok old
  | some none => .error ⟨"INVALID_PROFILE", message⟩
  | some (some value) => .ok value

/-- The profile that `create` adds. -/
def newProfile (id : String) (payload : BillingProfileCreate) : BillingProfile where
  id := id
  name := payload.name
  description := payload.description
  granularity := payload.granularity
  metric := payload.metric
  groupBy := payload.groupBy
  excludeRecordTypes := payload.excludeRecordTypes
  isDefault := payload.isDefault
  enabled := true
  isSystem := false

/-- The enabled profile that `set_default` makes the default. -/
def defaultTarget (profiles : List BillingProfile) (profileId : String) :
    Except BillingProfileError BillingProfile :=
  match profiles.find? fun profile => profile.id = profileId with
  | none => .error ⟨"PROFILE_NOT_FOUND", "Perfil de Billing não encontrado."⟩
  | some target =>
    if target.enabled then .ok target
    else .error ⟨"PROFILE_INACTIVE", "Um perfil inativo não pode ser definido como padrão."⟩

theorem defaultTarget_eq_ok {profiles : List BillingProfile} {profileId : String}
    {target : BillingProfile} (found : defaultTarget profiles profileId = .ok target) :
    target ∈ profiles ∧ target.enabled = true := by
  unfold defaultTarget at found
  cases named : profiles.find? fun profile => profile.id = profileId with
  | none => simp [named] at found
  | some profile =>
    rw [named] at found
    dsimp only at found
    split_ifs at found with enabled
    cases found
    exact ⟨List.mem_of_find?_eq_some named, enabled⟩

/-- The profile that `deactivate` may disable: neither the default nor that of the system. -/
def disposableProfile (profiles : List BillingProfile) (profileId : String) :
    Except BillingProfileError BillingProfile := do
  let profile ← getProfile profiles profileId false
  if profile.isDefault then
    throw ⟨"DEFAULT_PROFILE_REQUIRED",
      "Defina outro perfil como padrão antes de desativar este perfil."⟩
  if profile.isSystem then
    throw ⟨"SYSTEM_PROFILE_PROTECTED",
      "O perfil de sistema FinOps deve permanecer disponível como fallback."⟩
  return profile

section Changes

variable [CaseMapping]

/-- `_ensure_unique_name` -/
def ensureUniqueName (profiles : List BillingProfile) (name : String)
    (excludeId : Option String) : Except BillingProfileError PUnit :=
  if profiles.any fun profile =>
      CaseMapping.lower profile.name = CaseMapping.lower name ∧ some profile.id ≠ excludeId then
    .error ⟨"PROFILE_NAME_CONFLICT", "Já existe um perfil de Billing com esse nome."⟩
  else .ok ⟨⟩

/-- `BillingProfileService.create`, for a new identifier. -/
def createProfile (profiles : List BillingProfile) (id : String)
    (payload : BillingProfileCreate) : Except BillingProfileError (List BillingProfile) := do
  ensureUniqueName profiles payload.name none
  let others := if payload.isDefault then
      profiles.map fun profile => { profile with isDefault := false }
    else profiles
  return others ++ [newProfile id payload]

/-- A profile in the place of the one with its identifier. -/
def putProfile (profiles : List BillingProfile) (changed : BillingProfile) :
    List BillingProfile :=
  profiles.map fun profile => if profile.id = changed.id then changed else profile

/-- The profile that `update` reads, and what it makes of it. -/
def changedProfile (profiles : List BillingProfile) (profileId : String)
    (payload : BillingProfileUpdate) :
    Except BillingProfileError (BillingProfile × BillingProfile) := do
  let profile ← getProfile profiles profileId false
  let name ← requiredField "O nome do perfil é obrigatório." profile.name payload.name
  if payload.name.isSome then
    ensureUniqueName profiles name (some profile.id)
  let granularity ← requiredField "granularity não pode ser nulo." profile.granularity
    payload.granularity
  let metric ← requiredField "metric não pode ser nulo." profile.metric payload.metric
  let groupBy ← requiredField "group_by não pode ser nulo." profile.groupBy payload.groupBy
  let excludeRecordTypes ← requiredField "exclude_record_types não pode ser nulo."
    profile.excludeRecordTypes payload.excludeRecordTypes
  return (profile, { profile with
    name
    description := payload.description.getD profile.description
    granularity
    metric
    groupBy
    excludeRecordTypes })

/-- `BillingProfileService.update` -/
def updateProfile (profiles : List BillingProfile) (profileId : String)
    (payload : BillingProfileUpdate) : Except BillingProfileError (List BillingProfile) := do
  let (_, changed) ← changedProfile profiles profileId payload
  return putProfile profiles changed

/-- `BillingProfileService.set_default` -/
def setDefaultProfile (profiles : List BillingProfile) (profileId : String) :
    Except BillingProfileError (List BillingProfile) := do
  let target ← defaultTarget profiles profileId
  return profiles.map fun profile => { profile with isDefault := profile.id = target.id }

/-- `BillingProfileService.deactivate` -/
def deactivateProfile (profiles : List BillingProfile) (profileId : String) :
    Except BillingProfileError (List BillingProfile) := do
  let profile ← disposableProfile profiles profileId
  return putProfile profiles { profile with enabled := false }

inductive ProfileChange where
  | create (id : String) (payload : BillingProfileCreate)
  | update (profileId : String) (payload : BillingProfileUpdate)
  | setDefault (profileId : String)
  | deactivate (profileId : String)

/-- The profiles after a change. One that raises is rolled back. -/
def ProfileChange.apply (profiles : List BillingProfile) (change : ProfileChange) :
    List BillingProfile :=
  let changed := match change with
    | .create id payload => createProfile profiles id payload
    | .update profileId payload => updateProfile profiles profileId payload
    | .setDefault profileId => setDefaultProfile profiles profileId
    | .deactivate profileId => deactivateProfile profiles profileId
  changed.toOption.getD profiles

end Changes

/-- `_default_profile` -/
def defaultProfile (profiles : List BillingProfile) : Option BillingProfile :=
  (profiles.find? fun profile => profile.isDefault && profile.enabled).or
    (profiles.find? fun profile => profile.id = finopsSystemProfileId && profile.enabled)

structure AwsBillingApiRequest where
  accountIds : List ℤ
  startDate : Date
  endDate : Date
  profileId : Option String := none
  granularity : Option BillingGranularity := none
  metric : Option BillingMetric := none
  groupBy : Option BillingGroupBy := none
  excludeRecordTypes : Option (List RecordType) := none
deriving DecidableEq, Repr

structure AwsBillingRequest where
  accountIds : List ℤ
  startDate : Date
  endDate : Date
  granularity : BillingGranularity
  metric : BillingMetric
  groupBy : BillingGroupBy
  excludeRecordTypes : List RecordType
deriving DecidableEq, Repr

/-- `_profile_options`, over the values that a request takes from none. -/
def profileOptions :
    Option BillingProfile → BillingGranularity × BillingMetric × BillingGroupBy × List RecordType
  | none => (.daily, .amortizedCost, .service, [.credit])
  | some profile =>
    (profile.granularity, profile.metric, profile.groupBy, profile.excludeRecordTypes)

/-- The enabled profile that is named, or the default one. -/
def requestedProfile (profiles : List BillingProfile) :
    Option String → Except BillingProfileError (Option BillingProfile)
  | none => .ok (defaultProfile profiles)
  | some profileId => some <$> getProfile profiles profileId true

/-- `BillingProfileService.resolve` -/
def resolve (profiles : List BillingProfile) (payload : AwsBillingApiRequest) :
    Except BillingProfileError AwsBillingRequest := do
  let profile ← requestedProfile profiles payload.profileId
  let (granularity, metric, groupBy, excludeRecordTypes) := profileOptions profile
  return {
    accountIds := payload.accountIds
    startDate := payload.startDate
    endDate := payload.endDate
    granularity := payload.granularity.getD granularity
    metric := payload.metric.getD metric
    groupBy := payload.groupBy.getD groupBy
    excludeRecordTypes := payload.excludeRecordTypes.getD excludeRecordTypes }

end FinopsAnalytics.BillingProfiles
