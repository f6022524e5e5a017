import FinopsAnalytics.AwsBilling

/-!
# Fresh rows in billing answers

The key of the cache holds the whole request, but only the identifiers of the account.
Rows that are found under it are those of the query built at present as long as the
values of the account that reach the query, the session or the rows are those with
which they were set.
-/

namespace FinopsAnalytics.BillingFreshness

open PythonText CivilCalendar OciPricing Fallible ExpiringCaches CostExplorer BillingProfiles
  AwsBilling

/-- What the rows of an account depend on beyond the key of the cache. -/
structure Provenance where
  session : SessionRequest
  linkedAccountId : Option String
  displayName : String
deriving DecidableEq, Repr

def provenance (settings : BillingSettings) (account : AccountContext) : Provenance where
  session := sessionRequest settings account
  linkedAccountId := linkedAccountId account
  displayName := account.displayName

/-- The account as which the rows under a key were set: that of the last query that
did not hit. -/
def setFor (log : List QueryLine) (key : CacheKey) : Option AccountContext :=
  (log.find? fun line => !line.cacheHit && decide (line.key = key)).map QueryLine.account

/-- The rows that a query of an account finds in the cache, if any, were set for the
values that the account has now. -/
def keptFor (settings : BillingSettings) (process : BillingProcess) (account : AccountContext)
    (request : AwsBillingRequest) (groupBy : BillingGroupBy) (reading : ℤ → Reading) : Bool :=
  let key := cacheKey account request groupBy
  match (process.cache.get key (reading account.deepopsAccountId).asked).1 with
  | none => true
  | some _ => (setFor process.log key).map (provenance settings) = some (provenance settings account)

/-- No rows that a query finds in the cache were set for other values of its accounts. -/
def unchanged (settings : BillingSettings) (system : BillingSystem) (query : BillingQuery) : Bool :=
  match resolvedQuery system.profiles query with
  | .error _ => true
  | .ok (request, groupBy) =>
    match resolveAccounts system.accounts request.accountIds with
    | .error _ => true
    | .ok contexts => contexts.all fun account =>
      keptFor settings system.process account request groupBy query.moment.reading

/-- Two services that answer alike what concerns an account: the queries of its role,
and only those that are restricted to it where the role sees an organization. -/
structure AgreeFor (settings : BillingSettings) (account : AccountContext)
    (first second : Upstream) : Prop where
  opens : first.opens (sessionRequest settings account) =
    second.opens (sessionRequest settings account)
  responds : ∀ query : CostQuery,
    (account.isManagementAccount = true → query.restrictedTo account.awsAccountId) →
      first.respond (sessionRequest settings account) query =
        second.respond (sessionRequest settings account) query

section Queries

variable [DateText] [DecimalText] {upstream : Upstream} {settings : BillingSettings} {limit : ℕ}

omit [DateText] [DecimalText] in
/-- The query of an account is restricted where its role sees an organization. -/
theorem accountQuery_restricted {account : AccountContext} (named : account.awsAccountId ≠ "")
    (management : account.isManagementAccount = true) (request : AwsBillingRequest)
    (groupBy : BillingGroupBy) :
    (accountQuery account request groupBy).restrictedTo account.awsAccountId := by
  unfold accountQuery linkedAccountId
  rw [if_pos management]
  exact restricted_of_linked _ _ _ _ _ _ named

/-- So its rows do not depend on the costs of other linked accounts. -/
theorem queriedRows_agree {account : AccountContext} {other : Upstream}
    (agree : AgreeFor settings account upstream other) (named : account.awsAccountId ≠ "")
    (request : AwsBillingRequest) (groupBy : BillingGroupBy) :
    queriedRows upstream settings limit account request groupBy =
      queriedRows other settings limit account request groupBy := by
  unfold queriedRows
  dsimp only
  rw [agree.opens, agree.responds _ fun management =>
    accountQuery_restricted named management request groupBy]

/-- Requests with one key ask for the same rows of accounts with the same values. -/
theorem queriedRows_congr {account other : AccountContext} {request second : AwsBillingRequest}
    {groupBy grouping : BillingGroupBy}
    (sameKey : cacheKey account request groupBy = cacheKey other second grouping)
    (same : provenance settings account = provenance settings other) :
    queriedRows upstream settings limit account request groupBy =
      queriedRows upstream settings limit other second grouping := by
  simp only [cacheKey, CacheKey.mk.injEq, true_and] at sameKey
  obtain ⟨scope, id, start, stop, granularity, metricValue, groupValue, excluded⟩ := sameKey
  simp only [provenance, Provenance.mk.injEq] at same
  obtain ⟨session, linked, name⟩ := same
  have metric : request.metric = second.metric := BillingMetric.value_injective metricValue
  obtain rfl : groupBy = grouping := BillingGroupBy.value_injective groupValue
  have native : account.awsAccountId = other.awsAccountId := by
    have texts := congrArg String.toList scope
    simp only [AccountContext.billingScope, String.toList_append] at texts
    exact String.toList_injective (List.append_cancel_left texts)
  have query : accountQuery account request groupBy = accountQuery other second groupBy := by
    unfold accountQuery buildCostAndUsageQuery
    rw [start, stop, granularity, metric, excluded, linked]
  have row : account.rowAccount = other.rowAccount := by
    unfold AccountContext.rowAccount
    rw [id, native, name]
  unfold queriedRows
  rw [session, query, row, metric]

/-- Every entry holds what the query answered for the account as which it was set. -/
def Traced (upstream : Upstream) (settings : BillingSettings) (limit : ℕ)
    (process : BillingProcess) : Prop :=
  process.cache.Holds fun key rows => ∃ account request groupBy,
    setFor process.log key = some account ∧ cacheKey account request groupBy = key ∧
      queriedRows upstream settings limit account request groupBy = .ok rows

omit [DateText] [DecimalText] in
theorem setFor_hit (account : AccountContext) (key other : CacheKey) (log : List QueryLine) :
    setFor (⟨account, key, true⟩ :: log) other = setFor log other := by
  simp [setFor]

omit [DateText] [DecimalText] in
theorem setFor_set (account : AccountContext) (key : CacheKey) (log : List QueryLine) :
    setFor (⟨account, key, false⟩ :: log) key = some account := by
  simp [setFor]

omit [DateText] [DecimalText] in
theorem setFor_other (account : AccountContext) {key other : CacheKey} (log : List QueryLine)
    (different : other ≠ key) :
    setFor (⟨account, key, false⟩ :: log) other = setFor log other := by
  simp [setFor, different.symm]

omit [DateText] [DecimalText] in
/-- The meaning of the test. -/
theorem keptFor_iff {process : BillingProcess} {account : AccountContext}
    {request : AwsBillingRequest} {groupBy : BillingGroupBy} {reading : ℤ → Reading} :
    keptFor settings process account request groupBy reading = true ↔
      ∀ rows, (process.cache.get (cacheKey account request groupBy)
          (reading account.deepopsAccountId).asked).1 = some rows →
        (setFor process.log (cacheKey account request groupBy)).map (provenance settings) =
          some (provenance settings account) := by
  unfold keptFor
  dsimp only
  split
  · rename_i missing
    rw [missing]
    simp
  · rename_i rows found
    rw [found]
    simp

variable {request : AwsBillingRequest} {groupBy : BillingGroupBy} {ttlSeconds : ℕ}
  {reading : ℤ → Reading}

variable (upstream settings limit request groupBy ttlSeconds reading) in
/-- What one look at the cache does: it finds rows, or the query raises, or its rows
are set. -/
theorem fetchAccountRows_cases (account : AccountContext) (process : BillingProcess) :
    let key := cacheKey account request groupBy
    let asked := (reading account.deepopsAccountId).asked
    let fetched := fetchAccountRows upstream settings limit request groupBy ttlSeconds reading
      account process
    (∃ cached, (process.cache.get key asked).1 = some cached ∧
        fetched = (.ok cached, ⟨process.cache, ⟨account, key, true⟩ :: process.log⟩)) ∨
      fetched.1 = queriedRows upstream settings limit account request groupBy ∧
        (fetched.2 = ⟨(process.cache.get key asked).2, process.log⟩ ∨
          ∃ rows expiresAt, queriedRows upstream settings limit account request groupBy = .ok rows ∧
            fetched.2 = ⟨(process.cache.get key asked).2.set key rows expiresAt,
              ⟨account, key, false⟩ :: process.log⟩) := by
  intro key asked fetched
  rcases read : process.cache.get key asked with ⟨_ | cached, cache⟩
  · refine Or.inr ?_
    cases answered : queriedRows upstream settings limit account request groupBy with
    | error failure =>
      have shape : fetched = (.error failure, ⟨cache, process.log⟩) := by
        simp only [fetched, fetchAccountRows]
        rw [show process.cache.get (cacheKey account request groupBy)
          (reading account.deepopsAccountId).asked = (none, cache) from read]
        dsimp only
        rw [answered]
      rw [shape]
      exact ⟨rfl, Or.inl rfl⟩
    | ok rows =>
      have shape : fetched = (.ok rows,
          ⟨cache.set key rows ((reading account.deepopsAccountId).answered + ttlSeconds),
            ⟨account, key, false⟩ :: process.log⟩) := by
        simp only [fetched, fetchAccountRows]
        rw [show process.cache.get (cacheKey account request groupBy)
          (reading account.deepopsAccountId).asked = (none, cache) from read]
        dsimp only
        rw [answered]
      rw [shape]
      exact ⟨rfl, Or.inr ⟨rows, _, rfl, rfl⟩⟩
  · have found : (process.cache.get key asked).1 = some cached := by rw [read]
    refine Or.inl ⟨cached, rfl, ?_⟩
    have kept := Cache.get_of_some found
    rw [read] at kept
    simp only [fetched, fetchAccountRows]
    rw [show process.cache.get (cacheKey account request groupBy)
      (reading account.deepopsAccountId).asked = (some cached, cache) from read]
    dsimp only at kept ⊢
    rw [kept]

variable (request groupBy ttlSeconds reading) in
/-- The cache stays traced. -/
theorem Traced.fetched {process : BillingProcess}
    (traced : Traced upstream settings limit process) (account : AccountContext) :
    Traced upstream settings limit (fetchAccountRows upstream settings limit request groupBy
      ttlSeconds reading account process).2 := by
  rcases fetchAccountRows_cases upstream settings limit request groupBy ttlSeconds
    reading account process with ⟨cached, -, shape⟩ | ⟨-, shape | ⟨rows, expiresAt, answered, shape⟩⟩
  · rw [shape]
    refine Cache.Holds.mono traced fun key rows held => ?_
    dsimp only
    rw [setFor_hit]
    exact held
  · rw [shape]
    exact traced.get _ _
  · rw [shape]
    refine Cache.Holds.set (traced.get _ _) ⟨account, request, groupBy, setFor_set .., rfl, answered⟩
      (fun other old different held => ?_) expiresAt
    dsimp only
    rw [setFor_other _ _ different]
    exact held

/-- What one look at the cache does for the others: an account with another key still
finds only what was set for its values. -/
theorem keptFor_fetched {process : BillingProcess} {account other : AccountContext}
    (apart : cacheKey other request groupBy = cacheKey account request groupBy → other = account)
    (kept : keptFor settings process other request groupBy reading = true) :
    keptFor settings (fetchAccountRows upstream settings limit request groupBy ttlSeconds reading
      account process).2 other request groupBy reading = true := by
  rw [keptFor_iff] at kept ⊢
  intro found isFound
  rcases fetchAccountRows_cases upstream settings limit request groupBy ttlSeconds
    reading account process with ⟨cached, -, shape⟩ | ⟨-, shape | ⟨rows, expiresAt, -, shape⟩⟩
  · rw [shape] at isFound ⊢
    dsimp only at isFound ⊢
    rw [setFor_hit]
    exact kept found isFound
  · rw [shape] at isFound ⊢
    exact kept found (Cache.get_of_get isFound)
  · rw [shape] at isFound ⊢
    dsimp only at isFound ⊢
    by_cases same : cacheKey other request groupBy = cacheKey account request groupBy
    · rw [same, setFor_set, apart same]
      rfl
    · rw [setFor_other _ _ same]
      exact kept found (Cache.get_of_get (Cache.get_set_of_ne same isFound))

variable (ttlSeconds) in
/-- An account that finds only what was set for its values is answered what its query
returns at present. -/
theorem fetchAccountRows_fresh {process : BillingProcess} {account : AccountContext}
    (traced : Traced upstream settings limit process)
    (kept : keptFor settings process account request groupBy reading = true) :
    (fetchAccountRows upstream settings limit request groupBy ttlSeconds reading account
      process).1 = queriedRows upstream settings limit account request groupBy := by
  rcases fetchAccountRows_cases upstream settings limit request groupBy ttlSeconds
    reading account process with ⟨cached, found, shape⟩ | ⟨fresh, -⟩
  · obtain ⟨origin, before, grouping, recorded, sameKey, answered⟩ := Cache.Holds.value traced found
    have sameValues := keptFor_iff.mp kept cached found
    rw [recorded, Option.map_some, Option.some.injEq] at sameValues
    rw [shape, ← queriedRows_congr sameKey sameValues, answered]
  · exact fresh

/-- The loop stays traced. -/
theorem Traced.inTurn {contexts : List AccountContext} {process : BillingProcess}
    (traced : Traced upstream settings limit process) :
    Traced upstream settings limit (fetchInTurn upstream settings limit request groupBy ttlSeconds
      reading contexts process).2 := by
  induction contexts generalizing process with
  | nil => exact traced
  | cons account rest inductionHypothesis =>
    have first := traced.fetched request groupBy ttlSeconds reading account
    unfold fetchInTurn
    rcases fetched : fetchAccountRows upstream settings limit request groupBy ttlSeconds reading
      account process with ⟨failure | rows, next⟩
    · rw [fetched] at first
      exact first
    · rw [fetched] at first
      have later := inductionHypothesis first
      dsimp only
      rcases others : fetchInTurn upstream settings limit request groupBy ttlSeconds reading rest
        next with ⟨failure | more, last⟩
      · rw [others] at later
        exact later
      · rw [others] at later
        exact later

/-- The loop answers what the queries return at present. -/
theorem fetchInTurn_fresh {contexts : List AccountContext} {process : BillingProcess}
    (traced : Traced upstream settings limit process)
    (apart : ∀ account ∈ contexts, ∀ other ∈ contexts,
      cacheKey other request groupBy = cacheKey account request groupBy → other = account)
    (kept : ∀ account ∈ contexts,
      keptFor settings process account request groupBy reading = true) :
    (fetchInTurn upstream settings limit request groupBy ttlSeconds reading contexts process).1 =
      (contexts.mapM fun account =>
        queriedRows upstream settings limit account request groupBy).map List.flatten := by
  induction contexts generalizing process with
  | nil => rfl
  | cons account rest inductionHypothesis =>
    have first := traced.fetched request groupBy ttlSeconds reading account
    have fresh := fetchAccountRows_fresh ttlSeconds traced
      (kept account (List.mem_cons_self ..))
    have keptLater : ∀ other ∈ rest, keptFor settings (fetchAccountRows upstream settings limit
        request groupBy ttlSeconds reading account process).2 other request groupBy reading = true :=
      fun other member => keptFor_fetched
        (apart account (List.mem_cons_self ..) other (List.mem_cons_of_mem _ member))
        (kept other (List.mem_cons_of_mem _ member))
    rw [List.mapM_cons, ← fresh]
    unfold fetchInTurn
    rcases fetched : fetchAccountRows upstream settings limit request groupBy ttlSeconds reading
      account process with ⟨failure | rows, next⟩
    · rfl
    · rw [fetched] at first keptLater
      have later := inductionHypothesis first
        (fun one oneMember other otherMember => apart one (List.mem_cons_of_mem _ oneMember) other
          (List.mem_cons_of_mem _ otherMember)) keptLater
      dsimp only
      rcases others : fetchInTurn upstream settings limit request groupBy ttlSeconds reading rest
        next with ⟨failure | more, last⟩
      · rw [others] at later
        cases queries : rest.mapM fun account =>
            queriedRows upstream settings limit account request groupBy with
        | error raised =>
          rw [queries] at later
          cases later
          rfl
        | ok results =>
          rw [queries] at later
          cases later
      · rw [others] at later
        cases queries : rest.mapM fun account =>
            queriedRows upstream settings limit account request groupBy with
        | error raised =>
          rw [queries] at later
          cases later
        | ok results =>
          rw [queries] at later
          cases later
          rfl

end Queries

section Accounts

/-- A context tells the row of its account. -/
theorem resolveAccount_eq_ok {accounts : List CloudAccount} {accountId : ℤ}
    {context : AccountContext} (resolved : resolveAccount accounts accountId = .ok context) :
    context.deepopsAccountId = accountId ∧ context.awsAccountId ≠ "" := by
  unfold resolveAccount at resolved
  split at resolved
  · cases resolved
  · rename_i account found
    split at resolved
    · cases resolved
    · split at resolved
      · cases resolved
      · cases resolved
        have same := List.find?_some found
        exact ⟨of_decide_eq_true same, account.named⟩

/-- So the contexts of a request are those of its accounts. -/
theorem mem_resolveAccounts {accounts : List CloudAccount} {accountIds : List ℤ}
    {contexts : List AccountContext} (resolved : resolveAccounts accounts accountIds = .ok contexts)
    {context : AccountContext} (member : context ∈ contexts) :
    ∃ accountId ∈ accountIds, resolveAccount accounts accountId = .ok context :=
  mem_of_mapM_eq_ok resolved member

/-- Accounts of a request with one key are the same. -/
theorem contexts_apart {accounts : List CloudAccount} {accountIds : List ℤ}
    {contexts : List AccountContext} (resolved : resolveAccounts accounts accountIds = .ok contexts)
    (request : AwsBillingRequest) (groupBy : BillingGroupBy) :
    ∀ account ∈ contexts, ∀ other ∈ contexts,
      cacheKey other request groupBy = cacheKey account request groupBy → other = account := by
  intro account member other otherMember sameKey
  obtain ⟨accountId, -, found⟩ := mem_resolveAccounts resolved member
  obtain ⟨otherId, -, otherFound⟩ := mem_resolveAccounts resolved otherMember
  have same : other.deepopsAccountId = account.deepopsAccountId :=
    congrArg CacheKey.deepopsAccountId sameKey
  rw [(resolveAccount_eq_ok found).1, (resolveAccount_eq_ok otherFound).1] at same
  rw [same, found] at otherFound
  exact (Except.ok.inj otherFound).symm

end Accounts

section Runs

variable [CaseMapping] [DateText] [DecimalText]
variable (upstream : Upstream) (settings : BillingSettings) (limit : ℕ)

/-- A query is answered from what the queries of the present contexts return. -/
def Fresh (system : BillingSystem) (query : BillingQuery) : Prop :=
  (answer upstream settings limit system query).1 =
    presentAnswer upstream settings limit system query

/-- The costs of linked accounts other than the registered ones do not reach the
answer: it is the same over a service that differs in them only. -/
def Confined (system : BillingSystem) (query : BillingQuery) : Prop :=
  ∀ other : Upstream,
    (∀ accountId ∈ query.payload.accountIds, ∀ account,
      resolveAccount system.accounts accountId = .ok account →
        AgreeFor settings account upstream other) →
    (answer upstream settings limit system query).1 =
      presentAnswer other settings limit system query

variable {upstream settings limit}

omit [CaseMapping] in
/-- A query keeps the cache traced. -/
theorem traced_answer {system : BillingSystem}
    (traced : Traced upstream settings limit system.process) (query : BillingQuery) :
    Traced upstream settings limit (answer upstream settings limit system query).2 := by
  unfold answer
  split
  · exact traced
  · unfold rows
    split
    · exact traced
    · split
      · exact traced
      · exact traced.inTurn

/-- Every event keeps the cache traced. -/
theorem traced_step {system : BillingSystem}
    (traced : Traced upstream settings limit system.process) (event : BillingEvent) :
    Traced upstream settings limit (step upstream settings limit system event).process := by
  cases event with
  | queries query => exact traced_answer traced query
  | changesProfile change => exact traced
  | updatesAccount accountId payload => exact traced

omit [CaseMapping] in
/-- A query that finds no rows set for other values is answered what is returned at
present. -/
theorem fresh_of_unchanged {system : BillingSystem} {query : BillingQuery}
    (traced : Traced upstream settings limit system.process)
    (kept : unchanged settings system query = true) :
    Fresh upstream settings limit system query := by
  unfold Fresh answer presentAnswer
  unfold unchanged at kept
  cases resolved : resolvedQuery system.profiles query with
  | error failure => rfl
  | ok result =>
    obtain ⟨request, groupBy⟩ := result
    rw [resolved] at kept
    dsimp only at kept ⊢
    rw [ok_bind]
    unfold rows presentRows
    cases validatePeriod query.moment.today request with
    | error failure => rfl
    | ok valid =>
      dsimp only
      rw [ok_bind]
      cases accounts : resolveAccounts system.accounts request.accountIds with
      | error failure => rfl
      | ok contexts =>
        rw [accounts] at kept
        dsimp only at kept ⊢
        rw [fetchInTurn_fresh traced (contexts_apart accounts request groupBy)
          (List.all_eq_true.mp kept), ok_bind]
        cases contexts.mapM fun account =>
          queriedRows upstream settings limit account request groupBy <;> rfl

omit [CaseMapping] [DateText] [DecimalText] in
/-- A query is resolved to its own accounts. -/
theorem resolvedQuery_accountIds {profiles : List BillingProfile} {query : BillingQuery}
    {request : AwsBillingRequest} {groupBy : BillingGroupBy}
    (resolved : resolvedQuery profiles query = .ok (request, groupBy)) :
    request.accountIds = query.payload.accountIds := by
  simp only [resolvedQuery, bind_eq_ok] at resolved
  obtain ⟨found, mapped, grouping, -, result⟩ := resolved
  cases result
  cases payload : resolve profiles query.payload with
  | error raised =>
    rw [payload] at mapped
    cases mapped
  | ok request =>
    rw [payload] at mapped
    cases mapped
    unfold resolve at payload
    obtain ⟨profile, -, result⟩ := bind_eq_ok.mp payload
    cases result
    rfl

omit [CaseMapping] in
/-- What is returned at present does not depend on the costs of other linked accounts. -/
theorem presentAnswer_agree {system : BillingSystem} {query : BillingQuery} {other : Upstream}
    (agree : ∀ accountId ∈ query.payload.accountIds, ∀ account,
      resolveAccount system.accounts accountId = .ok account →
        AgreeFor settings account upstream other) :
    presentAnswer upstream settings limit system query =
      presentAnswer other settings limit system query := by
  unfold presentAnswer
  cases resolved : resolvedQuery system.profiles query with
  | error failure => rfl
  | ok result =>
    obtain ⟨request, groupBy⟩ := result
    have accountIds := resolvedQuery_accountIds resolved
    rw [ok_bind, ok_bind]
    dsimp only
    unfold presentRows
    cases validatePeriod query.moment.today request with
    | error failure => rfl
    | ok valid =>
      rw [ok_bind, ok_bind]
      cases accounts : resolveAccounts system.accounts request.accountIds with
      | error failure => rfl
      | ok contexts =>
        rw [ok_bind, ok_bind]
        have same : (contexts.mapM fun account =>
              queriedRows upstream settings limit account request groupBy) =
            contexts.mapM fun account =>
              queriedRows other settings limit account request groupBy := by
          refine mapM_congr fun account member => ?_
          obtain ⟨accountId, listed, found⟩ := mem_resolveAccounts accounts member
          rw [accountIds] at listed
          exact queriedRows_agree (agree accountId listed account found)
            (resolveAccount_eq_ok found).2 request groupBy
        rw [same]

/-- In every run, from any traced cache, whose queries find no rows that were set for
other values, each is answered what is returned at present. -/
theorem fresh_of_run {system : BillingSystem}
    (traced : Traced upstream settings limit system.process) {events : List BillingEvent}
    (kept : ((queried upstream settings limit system events).all fun entry =>
      unchanged settings entry.1 entry.2) = true) :
    ∀ entry ∈ queried upstream settings limit system events,
      Fresh upstream settings limit entry.1 entry.2 := by
  induction events generalizing system with
  | nil => exact fun _ member => absurd member List.not_mem_nil
  | cons event rest inductionHypothesis =>
    have later := traced_step traced event
    cases event with
    | queries query =>
      rw [queried, List.all_cons, Bool.and_eq_true] at kept
      rw [queried, List.forall_mem_cons]
      exact ⟨fresh_of_unchanged traced kept.1, inductionHypothesis later kept.2⟩
    | changesProfile change => exact inductionHypothesis later kept
    | updatesAccount accountId payload => exact inductionHypothesis later kept

/-- In every run whose queries find no rows that were set for other values of their
accounts, each is answered what is returned at present, and no costs of other linked
accounts reach it. -/
theorem answers_fresh (accounts : List CloudAccount) (profiles : List BillingProfile)
    (events : List BillingEvent)
    (kept : ((queried upstream settings limit (.started accounts profiles) events).all fun entry =>
      unchanged settings entry.1 entry.2) = true) :
    ∀ entry ∈ queried upstream settings limit (.started accounts profiles) events,
      Fresh upstream settings limit entry.1 entry.2 ∧
        Confined upstream settings limit entry.1 entry.2 := by
  intro entry member
  have traced : Traced upstream settings limit ⟨.empty, []⟩ := Cache.Holds.empty _
  have fresh := fresh_of_run traced kept entry member
  refine ⟨fresh, fun other agree => ?_⟩
  rw [← presentAnswer_agree agree]
  exact fresh

end Runs

section Small

/-- The first two days of 2024. -/
abbrev twoDays : DateText where
  fromisoformat text :=
    if text = "2024-01-01" then some 19723 else if text = "2024-01-02" then some 19724 else none

/-- Every amount is 5. -/
abbrev fives : DecimalText where
  decimal _ := some 5

attribute [local instance] asciiCase twoDays fives

/-- The costs of one linked account. -/
def linkedCosts (accountId : String) : CostGroup :=
  ⟨[accountId], [("AmortizedCost", ⟨some "5", some "USD"⟩)]⟩

/-- An organization of two accounts, whose management role is asked. -/
def organization : Upstream where
  opens _ := true
  respond _ query _ :=
    let groups := if query.filter = none then
        [linkedCosts "111111111111", linkedCosts "222222222222"]
      else [linkedCosts "111111111111"]
    .ok ⟨[⟨some "2024-01-01", some "2024-01-02", false, [], groups⟩], none⟩

def defaultSettings : BillingSettings := ⟨"sa-east-1", 3600, 86400⟩

/-- The account, registered as one of the members. -/
def memberAccount : CloudAccount where
  id := 1
  provider := "aws"
  nativeAccountId := "111111111111"
  name := "payer"
  enabled := true
  awsConfiguration := some
    ⟨"arn:aws:iam::111111111111:role/aven", "external-identifier", some ["sa-east-1"], false⟩
  named := by decide

/-- The costs of a day by linked account, asked for at some second. -/
def byAccount (second : ℚ) : BillingQuery where
  operation := .breakdown
  payload := {
    accountIds := [1]
    startDate := 19723
    endDate := 19724
    groupBy := some .account
    excludeRecordTypes := some [] }
  moment := ⟨19724, fun _ => ⟨second, second⟩⟩

/-- The account is asked about, corrected to a management account and asked about. -/
def corrected : List BillingEvent :=
  [.queries (byAccount 0),
    .updatesAccount 1 { configuration := some { isManagementAccount := some (some true) } },
    .queries (byAccount 1)]

/-- The account is asked about, disabled and asked about. -/
def disabled : List BillingEvent :=
  [.queries (byAccount 0), .updatesAccount 1 { enabled := some (some false) },
    .queries (byAccount 1)]

/-- The keys of the rows of an answer. -/
def answeredKeys (rows : Except BillingFailure (List BillingRow)) : List (Option String) :=
  (rows.toOption.getD []).map BillingRow.key

theorem answers_fresh_disabled :
    ((queried organization defaultSettings 2 (.started [memberAccount] []) disabled).all fun entry =>
        unchanged defaultSettings entry.1 entry.2) = true ∧
      ∀ entry ∈ queried organization defaultSettings 2 (.started [memberAccount] []) disabled,
        Fresh organization defaultSettings 2 entry.1 entry.2 ∧
          Confined organization defaultSettings 2 entry.1 entry.2 :=
  have kept : ((queried organization defaultSettings 2 (.started [memberAccount] [])
      disabled).all fun entry => unchanged defaultSettings entry.1 entry.2) = true := by
    decide +kernel
  ⟨kept, answers_fresh [memberAccount] [] disabled kept⟩

/-- After the correction the costs of the other account are still answered. -/
theorem linked_costs_are_answered :
    ¬∀ (upstream : Upstream) (settings : BillingSettings) (limit : ℕ)
      (accounts : List CloudAccount) (profiles : List BillingProfile) (events : List BillingEvent),
      ∀ entry ∈ queried upstream settings limit (.started accounts profiles) events,
        Fresh upstream settings limit entry.1 entry.2 := by
  intro always
  have stale : ((queried organization defaultSettings 2 (.started [memberAccount] [])
      corrected).any fun entry =>
        decide (some "222222222222" ∈
          answeredKeys (answer organization defaultSettings 2 entry.1 entry.2).1) &&
        decide (some "222222222222" ∉
          answeredKeys (presentAnswer organization defaultSettings 2 entry.1 entry.2))) = true := by
    decide +kernel
  obtain ⟨entry, member, differs⟩ := List.any_eq_true.mp stale
  rw [Bool.and_eq_true, decide_eq_true_eq, decide_eq_true_eq] at differs
  have fresh := always organization defaultSettings 2 [memberAccount] [] corrected entry member
  unfold Fresh at fresh
  rw [fresh] at differs
  exact differs.2 differs.1

end Small

end FinopsAnalytics.BillingFreshness
