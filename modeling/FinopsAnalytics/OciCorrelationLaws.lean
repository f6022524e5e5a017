import FinopsAnalytics.OciCorrelation

/-!
# A correlation loses nothing and counts nothing twice

The rows that a correlation keeps are shared out among the contexts of the resources and
the context of the account. So their costs add up, and since every list is selected and
sorted by what its rows are, no arrangement of the data sets changes the result.
-/

namespace FinopsAnalytics.OciCorrelation

open PythonText OpportunityRecords DistinctKeys Dictionaries OciDiscovery StableSelections

/-- Rows are placed: each of them is an input, no token is placed twice, and every token
of the inputs is placed. -/
structure PlacedOnce {α τ : Type} (token : α → τ) (inputs placed : List α) : Prop where
  known : ∀ row ∈ placed, row ∈ inputs
  distinct : (placed.map token).Nodup
  covered : ∀ row ∈ inputs, token row ∈ placed.map token

theorem PlacedOnce.perm {α τ : Type} {token : α → τ} {inputs placed others : List α}
    (shared : PlacedOnce token inputs placed) (arranged : others.Perm placed) :
    PlacedOnce token inputs others where
  known row member := shared.known row (arranged.mem_iff.mp member)
  distinct := (arranged.map token).nodup_iff.mpr shared.distinct
  covered row member := (arranged.map token).mem_iff.mpr (shared.covered row member)

theorem placed_stableUnique {α : Type} (token : α → String) (inputs : List α) :
    PlacedOnce token inputs (stableUnique token inputs) :=
  ⟨fun _ => mem_of_stableUnique, stableUnique_nodup token inputs,
    fun _ => token_mem_stableUnique⟩

theorem placed_stableUniqueById {α : Type} (identifier : α → Option String) (token : α → String)
    (inputs : List α) :
    PlacedOnce (label identifier token) inputs (stableUniqueById identifier token inputs) :=
  ⟨fun _ => mem_of_stableUniqueById, stableUniqueById_nodup identifier token inputs,
    fun _ => label_mem_stableUniqueById⟩

theorem given_some {text id : String} (named : given text = some id) : text = id ∧ id ≠ "" := by
  unfold given at named
  split_ifs at named with blank
  obtain rfl := Option.some.inj named
  exact ⟨rfl, blank⟩

section Resources

variable [StableTokens] (data : OciDatasets)

/-- A resource has one context. -/
theorem allResourceIds_nodup : (allResourceIds data).Nodup :=
  (sortByKey_perm _ _).nodup_iff.mpr (nodup_eraseDups _)

variable {data}

variable {id : String}

theorem mem_allResourceIds : id ∈ allResourceIds data ↔
    ((((id ∈ inventoryIds data ∨ id ∈ (actionsByResource data).map Prod.fst) ∨
      id ∈ (usageByResource data).map Prod.fst) ∨
      id ∈ (skuUsageByResource data).map Prod.fst) ∨
      id ∈ (metricsByResource data).map Prod.fst) ∨
      id ∈ (seriesByResource data).map Prod.fst := by
  simp only [allResourceIds, mem_sortByKey, List.mem_eraseDups, List.mem_append]

theorem resource_of_action {action : OciNativeResourceAction} (member : action ∈ actions data)
    (named : action.resource = some id) : id ∈ allResourceIds data :=
  mem_allResourceIds.mpr (.inl (.inl (.inl (.inl (.inr
    (mem_filedBy_keys.mpr ⟨action, member, named⟩))))))

theorem resource_of_usage {record : OciUsageRecord} (member : record ∈ usageRecords data)
    (named : record.resource = some id) : id ∈ allResourceIds data :=
  mem_allResourceIds.mpr (.inl (.inl (.inl (.inr
    (mem_filedBy_keys.mpr ⟨record, member, named⟩)))))

theorem resource_of_skuUsage {record : OciUsageRecord} (member : record ∈ skuUsageRecords data)
    (named : record.resource = some id) : id ∈ allResourceIds data :=
  mem_allResourceIds.mpr (.inl (.inl (.inr (mem_filedBy_keys.mpr ⟨record, member, named⟩))))

theorem resource_of_series {series : OciMetricSeries} (member : series ∈ allSeries data)
    (named : series.resource = some id) : id ∈ allResourceIds data :=
  mem_allResourceIds.mpr (.inr (mem_filedBy_keys.mpr ⟨series, member, named⟩))

theorem usageOf_eq (id : String) :
    usageOf data id = (usageRecords data).filter fun record => record.resource = some id :=
  getD_filedBy ..

theorem skuUsageOf_eq (id : String) :
    skuUsageOf data id = (skuUsageRecords data).filter fun record => record.resource = some id :=
  getD_filedBy ..

theorem seriesOf_perm (id : String) :
    (seriesOf data id).Perm
      ((allSeries data).filter fun series => series.resource = some id) := by
  rw [seriesOf, seriesByResource, getD_filedBy]
  exact sortByKey_perm _ _

theorem actionsOf_perm (id : String) :
    ((linksOf data id).map (·.action)).Perm
      ((actions data).filter fun action => action.resource = some id) := by
  rw [linksOf, actionsByResource, getD_filedBy, List.map_map]
  exact (List.map_id _).symm ▸ sortByKey_perm _ _

/-- The usage records of the contexts and of the account are the distinct ones. -/
theorem usage_shared :
    ((allResourceIds data).flatMap (usageOf data) ++
      (accountContext data).usageRecordsWithoutResourceId).Perm (usageRecords data) := by
  have filed : (allResourceIds data).flatMap (usageOf data) =
      (allResourceIds data).flatMap fun id =>
        (usageRecords data).filter fun record => record.resource = some id :=
    List.flatMap_congr fun id _ => usageOf_eq id
  rw [filed]
  exact flatMap_filed (allResourceIds_nodup data) fun _ member _ => resource_of_usage member

theorem skuUsage_shared :
    ((allResourceIds data).flatMap (skuUsageOf data) ++
      (accountContext data).skuUsageRecordsWithoutResourceId).Perm (skuUsageRecords data) := by
  have filed : (allResourceIds data).flatMap (skuUsageOf data) =
      (allResourceIds data).flatMap fun id =>
        (skuUsageRecords data).filter fun record => record.resource = some id :=
    List.flatMap_congr fun id _ => skuUsageOf_eq id
  rw [filed]
  exact flatMap_filed (allResourceIds_nodup data) fun _ member _ => resource_of_skuUsage member

theorem series_shared :
    ((allResourceIds data).flatMap (seriesOf data) ++
      (accountContext data).metricSeriesWithoutResourceId).Perm (allSeries data) :=
  (List.Perm.append_right _ (List.Perm.flatMap_left _ fun id _ => seriesOf_perm id)).trans
    (flatMap_filed (allResourceIds_nodup data) fun _ member _ => resource_of_series member)

theorem actions_shared :
    (((allResourceIds data).flatMap fun id => (linksOf data id).map (·.action)) ++
      (accountContext data).resourceActionsWithoutResourceId).Perm (actions data) :=
  (List.Perm.append_right _ (List.Perm.flatMap_left _ fun id _ => actionsOf_perm id)).trans
    (flatMap_filed (allResourceIds_nodup data) fun _ member _ => resource_of_action member)

end Resources

section Analyzers

variable [StableTokens] {data : OciDatasets}

/-- The analyzers read a context of the correlation as theirs. -/
structure Reads (context : OciResourceAnalysisContext)
    (read : OciAnalyzers.OciResourceAnalysisContext) : Prop where
  inventory : context.inventory = some read.inventory
  relationships : ∀ relationship,
    relationship ∈ context.relationships ↔ relationship ∈ read.relationships
  status : context.coverage.lookup "inventory" = some read.inventoryStatus
  inventoryCoverage : context.inventoryCoverage.Perm read.inventoryCoverage
  relationshipCoverage : context.relationshipCoverage = read.relationshipCoverage

/-- The context of an inventory resource is the one that the analyzers build, where the
tokens tell relationships apart. -/
theorem reads_contextOf
    (told : Faithful StableTokens.relationship data.discovery.relationships) {id : String}
    {resource : OciDiscoveredResource} (filed : (id, resource) ∈ inventoryById data) :
    Reads (resourceContext data id)
      (OciAnalyzers.contextOf data.discovery.toOciDiscoveryResult resource) := by
  obtain ⟨distinct, named⟩ := OciCreditedVolumes.inventoryById_filed
    data.discovery.toOciDiscoveryResult
  have sameId : resource.resourceId = id := named _ filed
  refine ⟨lookup_of_mem distinct filed, fun relationship => ?_, ?_,
    (sortByKey_perm _ _).map _, rfl⟩
  · have kept : relationship ∈
        stableUnique StableTokens.relationship data.discovery.relationships ↔
          relationship ∈ data.discovery.relationships := by
      refine ⟨mem_of_stableUnique, fun member => ?_⟩
      have tokenKept : StableTokens.relationship relationship ∈
          (stableUnique StableTokens.relationship data.discovery.relationships).map
            StableTokens.relationship := token_mem_stableUnique member
      obtain ⟨other, listed, same⟩ := List.mem_map.mp tokenKept
      rwa [told other (mem_of_stableUnique listed) relationship member same] at listed
    simp only [resourceContext, OciAnalyzers.contextOf, relationshipsOf, mem_sortByKey,
      List.mem_filter, kept, sameId]
  · cases complete : data.discovery.status with
    | success => simp [resourceContext, OciAnalyzers.contextOf, complete, discoveryStatus,
        contextSourceStatus]
    | partial_ => simp [resourceContext, OciAnalyzers.contextOf, complete, discoveryStatus,
        contextSourceStatus]

/-- The correlation of the analyzers is that of the data sets, restricted to the contexts
with an inventory resource. -/
theorem correlate_reads
    (told : Faithful StableTokens.relationship data.discovery.relationships) :
    (∀ read ∈ (OciCreditedVolumes.correlate data.discovery.toOciDiscoveryResult).resourceContexts,
      ∃ context ∈ (correlateOciDatasets data).resourceContexts, Reads context read) ∧
    ∀ context ∈ (correlateOciDatasets data).resourceContexts, context.inventory.isSome = true →
      ∃ read ∈ (OciCreditedVolumes.correlate data.discovery.toOciDiscoveryResult).resourceContexts,
        Reads context read := by
  constructor
  · intro read member
    obtain ⟨⟨id, resource⟩, filed, rfl⟩ := List.mem_map.mp member
    have listed : id ∈ allResourceIds data := by
      simp only [mem_allResourceIds, inventoryIds]
      exact Or.inl (Or.inl (Or.inl (Or.inl (Or.inl (List.mem_map_of_mem filed)))))
    exact ⟨_, List.mem_map_of_mem listed, reads_contextOf told filed⟩
  · intro context member known
    obtain ⟨id, -, rfl⟩ := List.mem_map.mp member
    obtain ⟨resource, found⟩ := Option.isSome_iff_exists.mp known
    have filed := mem_of_lookup found
    exact ⟨_, List.mem_map_of_mem filed, reads_contextOf told filed⟩

end Analyzers

section Recommendations

variable [StableTokens] {data : OciDatasets}

/-- A recommendation is found under its identifier. -/
theorem recommendation_found {item : OciNativeRecommendation}
    (member : item ∈ recommendations data) {id : String}
    (named : given item.recommendationId = some id) :
    (recommendationsById data).lookup id = some item := by
  apply lookup_update_of_mem
  · have ids : ((recommendations data).filterMap fun item =>
          (given item.recommendationId).map (·, item)).map Prod.fst =
        (recommendations data).filterMap fun item => given item.recommendationId := by
      rw [List.map_filterMap]
      apply List.filterMap_congr
      intro other _
      cases given other.recommendationId <;> rfl
    rw [ids]
    exact identifiers_nodup _ _ _
  · exact List.mem_filterMap.mpr ⟨item, member, by rw [named]; rfl⟩

/-- A kept recommendation is linked from a resource or listed for the account. -/
theorem recommendation_placed {item : OciNativeRecommendation}
    (member : item ∈ recommendations data) :
    (∃ id ∈ allResourceIds data, ∃ link ∈ linksOf data id, link.recommendation = some item) ∨
      item ∈ (accountContext data).recommendations := by
  by_cases acted : item.recommendationId ∈ recommendationIdsWithResourceAction data
  · left
    obtain ⟨action, listed, named⟩ := List.mem_filterMap.mp acted
    obtain ⟨kept, onResource⟩ := List.mem_filter.mp listed
    obtain ⟨id, resource⟩ := Option.isSome_iff_exists.mp onResource
    obtain ⟨wanted, held, chosen⟩ := Option.bind_eq_some_iff.mp named
    obtain ⟨rfl, present⟩ := given_some chosen
    have itself : given item.recommendationId = some item.recommendationId := if_neg present
    have filed : action ∈ (linksOf data id).map (·.action) :=
      (actionsOf_perm id).mem_iff.mpr (List.mem_filter.mpr ⟨kept, decide_eq_true resource⟩)
    obtain ⟨link, linked, rfl⟩ := List.mem_map.mp filed
    refine ⟨id, resource_of_action kept resource, link, linked, ?_⟩
    obtain ⟨other, -, rfl⟩ := List.mem_map.mp linked
    rw [show other.recommendationId = some item.recommendationId from held, Option.getD_some]
    exact recommendation_found member itself
  · right
    exact List.mem_filter.mpr ⟨member, decide_eq_true acted⟩

end Recommendations

section Costs

/-- The costs of the records in a currency. -/
def costsIn (currency : String) (records : List OciUsageRecord) : List ℚ :=
  records.filterMap fun record =>
    if record.currency = some currency then record.actualCost else none

theorem costsIn_append (currency : String) (first second : List OciUsageRecord) :
    costsIn currency (first ++ second) = costsIn currency first ++ costsIn currency second :=
  List.filterMap_append

theorem addCost_nodup {totals : List (String × ℚ)} (distinct : (totals.map Prod.fst).Nodup)
    (record : OciUsageRecord) : ((addCost totals record).map Prod.fst).Nodup := by
  unfold addCost
  split
  · exact setKey_nodup distinct
  · exact distinct

theorem foldl_addCost_nodup (records : List OciUsageRecord) {totals : List (String × ℚ)}
    (distinct : (totals.map Prod.fst).Nodup) :
    ((records.foldl addCost totals).map Prod.fst).Nodup := by
  induction records generalizing totals with
  | nil => exact distinct
  | cons record rest inductionHypothesis =>
    exact inductionHypothesis (addCost_nodup distinct record)

/-- One record changes the total of its currency and no other. -/
theorem lookup_addCost (currency : String) (totals : List (String × ℚ)) (record : OciUsageRecord) :
    ((addCost totals record).lookup currency).getD 0 =
      (costsIn currency [record]).foldl DecimalArithmetic.add
        ((totals.lookup currency).getD 0) := by
  cases cost : record.actualCost with
  | none =>
    by_cases named : record.currency = some currency <;> simp [addCost, costsIn, cost, named]
  | some amount =>
    cases named : record.currency with
    | none => simp [addCost, costsIn, cost, named]
    | some other =>
      by_cases same : currency = other
      · subst same
        simp [addCost, costsIn, cost, named, lookup_setKey]
      · simp [addCost, costsIn, cost, named, lookup_setKey, same, Ne.symm same]

/-- The loop adds up the costs of each currency, in the order of the records. -/
theorem lookup_foldl_addCost (currency : String) (records : List OciUsageRecord)
    (totals : List (String × ℚ)) :
    ((records.foldl addCost totals).lookup currency).getD 0 =
      (costsIn currency records).foldl DecimalArithmetic.add
        ((totals.lookup currency).getD 0) := by
  induction records generalizing totals with
  | nil => rfl
  | cons record rest inductionHypothesis =>
    have split : costsIn currency (record :: rest) =
        costsIn currency [record] ++ costsIn currency rest := costsIn_append currency [record] rest
    rw [List.foldl_cons, inductionHypothesis, lookup_addCost, split, List.foldl_append]

/-- Sorting entries with distinct keys changes nothing that is found. -/
theorem lookup_sorted {β : Type} {entries : List (String × β)}
    (distinct : (entries.map Prod.fst).Nodup) (key : String) :
    (sortByKey Prod.fst entries).lookup key = entries.lookup key := by
  have sortedDistinct : ((sortByKey Prod.fst entries).map Prod.fst).Nodup :=
    ((sortByKey_perm _ _).map _).nodup_iff.mpr distinct
  cases found : entries.lookup key with
  | some value =>
    exact lookup_of_mem sortedDistinct ((mem_sortByKey _ _ _).mpr (mem_of_lookup found))
  | none =>
    cases other : (sortByKey Prod.fst entries).lookup key with
    | none => rfl
    | some value =>
      rw [lookup_of_mem distinct ((mem_sortByKey _ _ _).mp (mem_of_lookup other))] at found
      cases found

/-- The total of a currency is the sum of its costs, where the sums are not rounded. -/
theorem lookup_totalsByCurrency {currency : String} {records : List OciUsageRecord}
    (unrounded : DecimalArithmetic.SumsExactly (costsIn currency records)) :
    ((totalsByCurrency records).lookup currency).getD 0 = (costsIn currency records).sum := by
  have distinct : ((records.foldl addCost []).map Prod.fst).Nodup :=
    foldl_addCost_nodup records (by simp)
  rw [totalsByCurrency, lookup_sorted distinct, lookup_foldl_addCost]
  exact unrounded.foldl_eq_sum

/-- The costs of a selection are among the costs. -/
theorem costsIn_filter (currency : String) (selected : OciUsageRecord → Bool)
    (records : List OciUsageRecord) :
    (costsIn currency (records.filter selected)).Sublist (costsIn currency records) :=
  List.filter_sublist.filterMap _

theorem sum_costsIn_flatMap {ι : Type} (currency : String) (keys : List ι)
    (records : ι → List OciUsageRecord) :
    (costsIn currency (keys.flatMap records)).sum =
      (keys.map fun key => (costsIn currency (records key)).sum).sum := by
  induction keys with
  | nil => rfl
  | cons key rest inductionHypothesis =>
    rw [List.flatMap_cons, costsIn_append, List.sum_append, inductionHypothesis, List.map_cons,
      List.sum_cons]

end Costs

section Arrangements

/-- The input lists of a correlation. -/
structure InputLists where
  resources : List OciDiscoveredResource
  relationships : List OciResourceRelationship
  discoveryWarnings : List OciDiscoveryIssue
  discoveryErrors : List OciDiscoveryIssue
  recommendations : List OciNativeRecommendation
  resourceActions : List OciNativeResourceAction
  advisorWarnings : List OciCloudAdvisorIssue
  advisorErrors : List OciCloudAdvisorIssue
  usageRecords : List OciUsageRecord
  skuUsageRecords : List OciUsageRecord
  usageWarnings : List OciUsageIssue
  usageErrors : List OciUsageIssue
  series : List OciMetricSeries
  resourceMetrics : List OciResourceMetrics
  orphanSeries : List OciMetricSeries
  monitoringWarnings : List OciMonitoringIssue
  monitoringErrors : List OciMonitoringIssue

def OciDatasets.lists (data : OciDatasets) : InputLists where
  resources := data.discovery.resources
  relationships := data.discovery.relationships
  discoveryWarnings := data.discovery.warnings
  discoveryErrors := data.discovery.errors
  recommendations := data.advisor.recommendations
  resourceActions := data.advisor.resourceActions
  advisorWarnings := data.advisor.warnings
  advisorErrors := data.advisor.errors
  usageRecords := data.usage.records
  skuUsageRecords := data.usage.skuUsageRecords
  usageWarnings := data.usage.warnings
  usageErrors := data.usage.errors
  series := data.monitoring.series
  resourceMetrics := data.monitoring.resources
  orphanSeries := data.monitoring.orphanSeries
  monitoringWarnings := data.monitoring.warnings
  monitoringErrors := data.monitoring.errors

/-- The data sets with other lists. -/
def OciDatasets.withLists (data : OciDatasets) (lists : InputLists) : OciDatasets where
  discovery :=
    { data.discovery with
      resources := lists.resources
      relationships := lists.relationships
      warnings := lists.discoveryWarnings
      errors := lists.discoveryErrors }
  advisor :=
    { data.advisor with
      recommendations := lists.recommendations
      resourceActions := lists.resourceActions
      warnings := lists.advisorWarnings
      errors := lists.advisorErrors }
  usage :=
    { data.usage with
      records := lists.usageRecords
      skuUsageRecords := lists.skuUsageRecords
      warnings := lists.usageWarnings
      errors := lists.usageErrors }
  monitoring :=
    { data.monitoring with
      series := lists.series
      resources := lists.resourceMetrics
      orphanSeries := lists.orphanSeries
      warnings := lists.monitoringWarnings
      errors := lists.monitoringErrors }

/-- Every list is an arrangement of the other one. -/
structure InputLists.Arranged (lists others : InputLists) : Prop where
  resources : lists.resources.Perm others.resources
  relationships : lists.relationships.Perm others.relationships
  discoveryWarnings : lists.discoveryWarnings.Perm others.discoveryWarnings
  discoveryErrors : lists.discoveryErrors.Perm others.discoveryErrors
  recommendations : lists.recommendations.Perm others.recommendations
  resourceActions : lists.resourceActions.Perm others.resourceActions
  advisorWarnings : lists.advisorWarnings.Perm others.advisorWarnings
  advisorErrors : lists.advisorErrors.Perm others.advisorErrors
  usageRecords : lists.usageRecords.Perm others.usageRecords
  skuUsageRecords : lists.skuUsageRecords.Perm others.skuUsageRecords
  usageWarnings : lists.usageWarnings.Perm others.usageWarnings
  usageErrors : lists.usageErrors.Perm others.usageErrors
  series : lists.series.Perm others.series
  resourceMetrics : lists.resourceMetrics.Perm others.resourceMetrics
  orphanSeries : lists.orphanSeries.Perm others.orphanSeries
  monitoringWarnings : lists.monitoringWarnings.Perm others.monitoringWarnings
  monitoringErrors : lists.monitoringErrors.Perm others.monitoringErrors

/-- The issues of all sources. -/
def InputLists.issues (lists : InputLists) : List OciSourceIssue :=
  (lists.discoveryWarnings ++ lists.discoveryErrors).map .discovery ++
    (lists.advisorWarnings ++ lists.advisorErrors).map .advisor ++
    (lists.usageWarnings ++ lists.usageErrors).map .usage ++
    (lists.monitoringWarnings ++ lists.monitoringErrors).map .monitoring

variable [StableTokens]

/-- Different rows of a list have different tokens, and different resources different ids. -/
structure InputLists.Told (lists : InputLists) : Prop where
  resources : ((lists.resources.filter (·.resourceId ≠ "")).map (·.resourceId)).Nodup
  relationships : Faithful StableTokens.relationship lists.relationships
  recommendations : Faithful StableTokens.recommendation lists.recommendations
  resourceActions : Faithful StableTokens.action lists.resourceActions
  usageRecords : Faithful StableTokens.usageRecord lists.usageRecords
  skuUsageRecords : Faithful StableTokens.usageRecord lists.skuUsageRecords
  series : Faithful StableTokens.series (lists.series ++ lists.orphanSeries)
  resourceMetrics : Faithful StableTokens.metrics lists.resourceMetrics
  issues : Faithful StableTokens.issue lists.issues

/-- The selections that the joins are made of. -/
structure SameSelections (data others : OciDatasets) : Prop where
  inventory : inventoryById others = inventoryById data
  recommendations : recommendations others = recommendations data
  actions : actions others = actions data
  usageRecords : usageRecords others = usageRecords data
  skuUsageRecords : skuUsageRecords others = skuUsageRecords data
  metricSummaries : metricSummaries others = metricSummaries data
  allSeries : allSeries others = allSeries data
  relationships : stableUnique StableTokens.relationship others.discovery.relationships =
    stableUnique StableTokens.relationship data.discovery.relationships
  relationshipCoverage : relationshipCoverage others.discovery.toOciDiscoveryResult =
    relationshipCoverage data.discovery.toOciDiscoveryResult

variable {data : OciDatasets} {lists : InputLists}

omit [StableTokens] in
theorem attachmentStatus_arranged (arranged : data.lists.Arranged lists) (resourceType : String) :
    OciAnalyzers.attachmentStatus (data.withLists lists).discovery.toOciDiscoveryResult
        resourceType =
      OciAnalyzers.attachmentStatus data.discovery.toOciDiscoveryResult resourceType := by
  have same (resource : OciDiscoveredResource) :
      resource ∈ lists.resources ↔ resource ∈ data.discovery.resources :=
    arranged.resources.symm.mem_iff
  unfold OciAnalyzers.attachmentStatus
  simp only [OciDatasets.withLists, same]

/-- The selections of told lists do not depend on their arrangement. -/
theorem sameSelections (told : data.lists.Told) (arranged : data.lists.Arranged lists) :
    SameSelections data (data.withLists lists) where
  inventory := by
    have sorted : sortByKey OciDiscoveredResource.resourceId
          (lists.resources.filter (·.resourceId ≠ "")) =
        sortByKey OciDiscoveredResource.resourceId
          (data.discovery.resources.filter (·.resourceId ≠ "")) :=
      (sortByKey_eq_of_perm _ (arranged.resources.filter _) told.resources).symm
    simp only [inventoryById, OciCreditedVolumes.inventoryById, OciDatasets.withLists, sorted]
  recommendations := (stableUniqueById_perm told.recommendations arranged.recommendations).symm
  actions := (stableUniqueById_perm told.resourceActions arranged.resourceActions).symm
  usageRecords := (stableUnique_perm told.usageRecords arranged.usageRecords).symm
  skuUsageRecords := (stableUnique_perm told.skuUsageRecords arranged.skuUsageRecords).symm
  metricSummaries := (stableUniqueById_perm told.resourceMetrics arranged.resourceMetrics).symm
  allSeries :=
    (stableUnique_perm told.series (arranged.series.append arranged.orphanSeries)).symm
  relationships := (stableUnique_perm told.relationships arranged.relationships).symm
  relationshipCoverage := by
    simp only [relationshipCoverage, attachmentStatus_arranged arranged]
    rfl

variable {others : OciDatasets}

theorem SameSelections.linksOf (same : SameSelections data others) :
    linksOf others = linksOf data := by
  funext id
  simp only [OciCorrelation.linksOf, actionsByResource, recommendationsById, same.actions,
    same.recommendations]

theorem SameSelections.allResourceIds (same : SameSelections data others) :
    allResourceIds others = allResourceIds data := by
  simp only [OciCorrelation.allResourceIds, inventoryIds, actionsByResource, usageByResource,
    skuUsageByResource, metricsByResource, seriesByResource, same.inventory, same.actions,
    same.usageRecords, same.skuUsageRecords, same.metricSummaries, same.allSeries]

theorem SameSelections.warningsOf (same : SameSelections data others) :
    warningsOf others = warningsOf data := by
  funext id
  simp only [OciCorrelation.warningsOf, same.inventory, same.linksOf]

theorem SameSelections.accountContext (same : SameSelections data others) :
    accountContext others = accountContext data := by
  have acted : recommendationIdsWithResourceAction others =
      recommendationIdsWithResourceAction data := by
    simp only [recommendationIdsWithResourceAction, same.actions]
  rw [OciCorrelation.accountContext, acted, same.recommendations, same.actions, same.usageRecords,
    same.skuUsageRecords, same.allSeries]
  rfl

theorem SameSelections.unmatched (same : SameSelections data others) :
    unmatched others = unmatched data := by
  have ids : inventoryIds others = inventoryIds data := by
    simp only [inventoryIds, same.inventory]
  funext named
  rw [OciCorrelation.unmatched, ids]
  rfl

/-- The context of a resource is made of the selections, and of what an arrangement keeps. -/
theorem SameSelections.resourceContext (same : SameSelections data (data.withLists lists)) :
    resourceContext (data.withLists lists) = resourceContext data := by
  funext id
  have relationships : relationshipsOf (data.withLists lists) = relationshipsOf data := by
    funext id
    simp only [relationshipsOf, same.relationships]
  have usage : usageOf (data.withLists lists) = usageOf data := by
    funext id
    simp only [usageOf, usageByResource, same.usageRecords]
  have skuUsage : skuUsageOf (data.withLists lists) = skuUsageOf data := by
    funext id
    simp only [skuUsageOf, skuUsageByResource, same.skuUsageRecords]
  have series : seriesOf (data.withLists lists) = seriesOf data := by
    funext id
    simp only [seriesOf, seriesByResource, same.allSeries]
  have metrics : metricsByResource (data.withLists lists) = metricsByResource data := by
    simp only [metricsByResource, same.metricSummaries]
  have provenance : provenanceOf (data.withLists lists) = provenanceOf data := by
    funext id
    simp only [provenanceOf, usage, skuUsage, series, metrics, same.inventory, same.linksOf]
  simp only [OciCorrelation.resourceContext, relationships, usage, skuUsage, series, metrics,
    provenance, same.inventory, same.linksOf, same.warningsOf, same.relationshipCoverage]
  rfl

theorem SameSelections.resourceContexts (same : SameSelections data (data.withLists lists)) :
    (correlateOciDatasets (data.withLists lists)).resourceContexts =
      (correlateOciDatasets data).resourceContexts := by
  simp only [correlateOciDatasets, same.allResourceIds, same.resourceContext]

theorem SameSelections.unmatchedResourceIds
    (same : SameSelections data (data.withLists lists)) :
    (correlateOciDatasets (data.withLists lists)).unmatchedResourceIdsBySource =
      (correlateOciDatasets data).unmatchedResourceIdsBySource := by
  simp only [correlateOciDatasets, same.unmatched, actionsByResource, metricsByResource,
    usageByResource, skuUsageByResource, seriesByResource, same.actions, same.metricSummaries,
    same.usageRecords, same.skuUsageRecords, same.allSeries]

theorem SameSelections.correlationWarnings
    (same : SameSelections data (data.withLists lists)) :
    (correlateOciDatasets (data.withLists lists)).warnings =
      (correlateOciDatasets data).warnings := by
  simp only [correlateOciDatasets, same.allResourceIds, same.warningsOf]

/-- The issues of a source, sorted by their tokens. -/
theorem issues_sorted (told : data.lists.Told) {ι : Type} (wrap : ι → OciSourceIssue)
    {issues others : List ι} (arranged : issues.Perm others)
    (among : ∀ issue ∈ issues, wrap issue ∈ data.lists.issues) :
    sortByKey StableTokens.issue (others.map wrap) =
      sortByKey StableTokens.issue (issues.map wrap) := by
  refine (sortByKey_perm_of_faithful (told.issues.sublist fun row member => ?_)
    (arranged.map wrap)).symm
  obtain ⟨issue, listed, rfl⟩ := List.mem_map.mp member
  exact among issue listed

end Arrangements

section Correlations

variable [StableTokens] (data : OciDatasets)

/-- Everything that was collected is in the result, in one place. -/
structure LosesNothing (result : OciCorrelationResult) : Prop where
  contexts : (result.resourceContexts.map (·.resourceId)).Nodup
  usage : PlacedOnce StableTokens.usageRecord data.usage.records
    (result.resourceContexts.flatMap (·.usage.records) ++
      result.accountContext.usageRecordsWithoutResourceId)
  skuUsage : PlacedOnce StableTokens.usageRecord data.usage.skuUsageRecords
    (result.resourceContexts.flatMap (·.usage.skuUsageRecords) ++
      result.accountContext.skuUsageRecordsWithoutResourceId)
  series : PlacedOnce StableTokens.series (data.monitoring.series ++ data.monitoring.orphanSeries)
    (result.resourceContexts.flatMap (·.monitoring.series) ++
      result.accountContext.metricSeriesWithoutResourceId)
  actions : PlacedOnce
    (label (fun action => given action.resourceActionId) StableTokens.action)
    data.advisor.resourceActions
    ((result.resourceContexts.flatMap fun context =>
        context.nativeRecommendations.map (·.action)) ++
      result.accountContext.resourceActionsWithoutResourceId)
  ownRows : ∀ context ∈ result.resourceContexts,
    (∀ record ∈ context.usage.records ++ context.usage.skuUsageRecords,
      record.resource = some context.resourceId) ∧
    (∀ series ∈ context.monitoring.series, series.resource = some context.resourceId) ∧
    ∀ link ∈ context.nativeRecommendations, link.action.resource = some context.resourceId
  recommendations : ∀ item ∈ data.advisor.recommendations, ∃ kept : OciNativeRecommendation,
    label (fun item => given item.recommendationId) StableTokens.recommendation kept =
      label (fun item => given item.recommendationId) StableTokens.recommendation item ∧
    ((∃ context ∈ result.resourceContexts, ∃ link ∈ context.nativeRecommendations,
        link.recommendation = some kept) ∨ kept ∈ result.accountContext.recommendations)

/-- A correlation loses nothing. Of the rows with one token, and of the actions or
recommendations with one identifier, one stands for all. -/
theorem correlation_loses_nothing : LosesNothing data (correlateOciDatasets data) where
  contexts := by
    have ids : (correlateOciDatasets data).resourceContexts.map (·.resourceId) =
        allResourceIds data := by
      simp [correlateOciDatasets, resourceContext, Function.comp_def]
    rw [ids]
    exact allResourceIds_nodup data
  usage := by
    apply (placed_stableUnique StableTokens.usageRecord data.usage.records).perm
    rw [correlateOciDatasets, List.flatMap_map]
    exact usage_shared
  skuUsage := by
    apply (placed_stableUnique StableTokens.usageRecord data.usage.skuUsageRecords).perm
    rw [correlateOciDatasets, List.flatMap_map]
    exact skuUsage_shared
  series := by
    apply (placed_stableUnique StableTokens.series _).perm
    rw [correlateOciDatasets, List.flatMap_map]
    exact series_shared
  actions := by
    apply (placed_stableUniqueById _ StableTokens.action _).perm
    rw [correlateOciDatasets, List.flatMap_map]
    exact actions_shared
  ownRows := by
    intro context member
    obtain ⟨id, -, rfl⟩ := List.mem_map.mp member
    refine ⟨fun record listed => ?_, fun series listed => ?_, fun link listed => ?_⟩
    · change record ∈ usageOf data id ++ skuUsageOf data id at listed
      rw [usageOf_eq, skuUsageOf_eq] at listed
      rcases List.mem_append.mp listed with own | own
      · exact of_decide_eq_true (List.mem_filter.mp own).2
      · exact of_decide_eq_true (List.mem_filter.mp own).2
    · have own := (seriesOf_perm id).mem_iff.mp listed
      exact of_decide_eq_true (List.mem_filter.mp own).2
    · have own := (actionsOf_perm id).mem_iff.mp (List.mem_map_of_mem listed)
      exact of_decide_eq_true (List.mem_filter.mp own).2
  recommendations := by
    intro item member
    have labelled : label (fun item => given item.recommendationId) StableTokens.recommendation
        item ∈ (stableUniqueById (fun item => given item.recommendationId)
          StableTokens.recommendation _).map
            (label (fun item => given item.recommendationId) StableTokens.recommendation) :=
      label_mem_stableUniqueById member
    obtain ⟨kept, listed, same⟩ := List.mem_map.mp labelled
    refine ⟨kept, same, ?_⟩
    rcases recommendation_placed listed with ⟨id, among, link, linked, found⟩ | account
    · exact Or.inl ⟨_, List.mem_map_of_mem among, link, linked, found⟩
    · exact Or.inr account

/-- The totals of the contexts and the costs without a resource add up to the costs of the
distinct records, in every currency whose sums are not rounded. -/
theorem correlation_totals (currency : String)
    (unrounded : DecimalArithmetic.SumsExactly
      (costsIn currency (stableUnique StableTokens.usageRecord data.usage.records))) :
    (((correlateOciDatasets data).resourceContexts.map fun context =>
        (context.usage.totalsByCurrency.lookup currency).getD 0).sum +
      (costsIn currency
        (correlateOciDatasets data).accountContext.usageRecordsWithoutResourceId).sum) =
      (costsIn currency (stableUnique StableTokens.usageRecord data.usage.records)).sum := by
  have total (id : String) :
      ((totalsByCurrency (usageOf data id)).lookup currency).getD 0 =
        (costsIn currency (usageOf data id)).sum := by
    apply lookup_totalsByCurrency
    rw [usageOf_eq]
    exact unrounded.sublist (costsIn_filter currency _ _)
  have shared : (costsIn currency ((allResourceIds data).flatMap (usageOf data) ++
      (accountContext data).usageRecordsWithoutResourceId)).Perm
        (costsIn currency (usageRecords data)) := usage_shared.filterMap _
  calc (((correlateOciDatasets data).resourceContexts.map fun context =>
          (context.usage.totalsByCurrency.lookup currency).getD 0).sum +
        (costsIn currency
          (correlateOciDatasets data).accountContext.usageRecordsWithoutResourceId).sum)
      = ((allResourceIds data).map fun id => (costsIn currency (usageOf data id)).sum).sum +
          (costsIn currency (accountContext data).usageRecordsWithoutResourceId).sum := by
        rw [correlateOciDatasets, List.map_map]
        simp only [Function.comp_def, resourceContext, total]
    _ = (costsIn currency ((allResourceIds data).flatMap (usageOf data) ++
          (accountContext data).usageRecordsWithoutResourceId)).sum := by
        rw [costsIn_append, List.sum_append, sum_costsIn_flatMap]
    _ = (costsIn currency (usageRecords data)).sum := shared.sum_eq

variable {data}

/-- No arrangement of the input lists changes the result, where different rows have
different tokens and different resources different ids. -/
theorem correlation_arranged {lists : InputLists} (told : data.lists.Told)
    (arranged : data.lists.Arranged lists) :
    correlateOciDatasets (data.withLists lists) = correlateOciDatasets data := by
  have same := sameSelections told arranged
  have coverage : (correlateOciDatasets (data.withLists lists)).coverage =
      (correlateOciDatasets data).coverage := by
    simp only [correlateOciDatasets, OciDatasets.withLists,
      arranged.discoveryWarnings.length_eq.symm, arranged.discoveryErrors.length_eq.symm,
      arranged.advisorWarnings.length_eq.symm, arranged.advisorErrors.length_eq.symm,
      arranged.usageWarnings.length_eq.symm, arranged.usageErrors.length_eq.symm,
      arranged.monitoringWarnings.length_eq.symm, arranged.monitoringErrors.length_eq.symm]
    rfl
  have warnings : (correlateOciDatasets (data.withLists lists)).sourceWarnings =
      (correlateOciDatasets data).sourceWarnings := by
    simp only [correlateOciDatasets, OciDatasets.withLists,
      issues_sorted told .discovery arranged.discoveryWarnings
        (by simp +contextual [InputLists.issues]),
      issues_sorted told .advisor arranged.advisorWarnings
        (by simp +contextual [InputLists.issues]),
      issues_sorted told .usage arranged.usageWarnings (by simp +contextual [InputLists.issues]),
      issues_sorted told .monitoring arranged.monitoringWarnings
        (by simp +contextual [InputLists.issues])]
    rfl
  have errors : (correlateOciDatasets (data.withLists lists)).sourceErrors =
      (correlateOciDatasets data).sourceErrors := by
    simp only [correlateOciDatasets, OciDatasets.withLists,
      issues_sorted told .discovery arranged.discoveryErrors
        (by simp +contextual [InputLists.issues]),
      issues_sorted told .advisor arranged.advisorErrors (by simp +contextual [InputLists.issues]),
      issues_sorted told .usage arranged.usageErrors (by simp +contextual [InputLists.issues]),
      issues_sorted told .monitoring arranged.monitoringErrors
        (by simp +contextual [InputLists.issues])]
    rfl
  apply OciCorrelationResult.ext
  · rfl
  · exact same.resourceContexts
  · exact same.accountContext
  · exact same.unmatchedResourceIds
  · exact coverage
  · exact warnings
  · exact errors
  · exact same.correlationWarnings
  · rfl
  · rfl

end Correlations

section Samples

def sampleRecord (resourceId : Option String) (cost : ℚ) : OciUsageRecord :=
  ⟨resourceId, some cost, some "BRL", "oci_usage_api", []⟩

/-- A bill of three lines: one is reported twice, and one names no resource. -/
def sampleData : OciDatasets where
  discovery := ⟨⟨.success, [], [], [], [], [], [], [], []⟩, 0⟩
  advisor := ⟨.success, [], [], [], [], [], 0⟩
  usage := ⟨.partial_, 0, 10, [sampleRecord (some "vm-2") (3 / 2), sampleRecord none 1,
    sampleRecord (some "vm-2") (3 / 2), sampleRecord (some "vm-1") 2], [], [], [], [], 0⟩
  monitoring := ⟨.failed, 0, 10, "1h", [], [], [], [], [], [], 0⟩

theorem sample_costs : costsIn "BRL"
    (stableUnique plainTokens.usageRecord sampleData.usage.records) = [1, 2, 3 / 2] := by
  decide +kernel

/-- The line that is reported twice counts once. -/
theorem correlation_totals_sample :
    ((@correlateOciDatasets plainTokens sampleData).resourceContexts.map fun context =>
        (context.usage.totalsByCurrency.lookup "BRL").getD 0).sum +
      (costsIn "BRL" (@correlateOciDatasets plainTokens
        sampleData).accountContext.usageRecordsWithoutResourceId).sum =
      (costsIn "BRL" (stableUnique plainTokens.usageRecord sampleData.usage.records)).sum := by
  apply @correlation_totals plainTokens sampleData "BRL"
  rw [sample_costs]
  refine ⟨-1, fun amount member => ?_, by norm_num [abs_of_pos]⟩
  rcases List.mem_cons.mp member with rfl | member
  · exact ⟨10, by norm_num⟩
  rcases List.mem_cons.mp member with rfl | member
  · exact ⟨20, by norm_num⟩
  obtain rfl := List.mem_singleton.mp member
  exact ⟨15, by norm_num⟩

/-- The lines in the opposite order. -/
def sampleLists : InputLists :=
  { sampleData.lists with usageRecords := sampleData.usage.records.reverse }

theorem sample_told : @InputLists.Told plainTokens sampleData.lists := by
  have records : Faithful plainTokens.usageRecord sampleData.usage.records := by
    unfold Faithful
    decide +kernel
  apply @InputLists.Told.mk plainTokens
  case resources => exact List.nodup_nil
  case usageRecords => exact records
  all_goals
    intro row member
    cases member

theorem correlation_arranged_sample :
    @correlateOciDatasets plainTokens (sampleData.withLists sampleLists) =
      @correlateOciDatasets plainTokens sampleData := by
  apply @correlation_arranged plainTokens sampleData sampleLists sample_told
  constructor
  case usageRecords => exact (List.reverse_perm _).symm
  all_goals exact List.Perm.refl _

end Samples

end FinopsAnalytics.OciCorrelation
