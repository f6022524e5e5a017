import FinopsAnalytics.CostExplorer
import FinopsAnalytics.TokenWalks

/-!
# Three pagination loops

The listings of OCI and the collector of AWS costs follow the token of each page until a
page names none. The billing client does the same, but remembers the tokens and raises when
one is repeated. Only this one ends whatever the remote side answers; the other two end
where no token leads back to itself.
-/

namespace FinopsAnalytics.PaginationLoops

open PythonText CostExplorer TokenWalks

universe u v

section Oci

variable {β : Type u} {ε : Type v}

/-- An answer of an OCI list call: the items of the page, and the two headers that may name
the next one. -/
structure OciResponse (β : Type u) where
  data : List β
  opcNextPage : Option String
  titledOpcNextPage : Option String

def nextPage (response : OciResponse β) : Option String :=
  if truthy response.opcNextPage then response.opcNextPage
  else if truthy response.titledOpcNextPage then response.titledOpcNextPage
  else none

structure OciPageResult (β : Type u) where
  items : List β
  pages : ℕ
deriving DecidableEq, Repr

structure OciPageFailure (β : Type u) (ε : Type v) where
  items : List β
  pages : ℕ
  cause : ε

/-- `list_all_pages` from a page on. The fuel bounds the number of calls; without fuel the
loop has not ended. -/
def listAllPages (call : Option String → Except ε (OciResponse β)) :
    ℕ → Option String → List β → ℕ → Except (OciPageFailure β ε) (Option (OciPageResult β))
  | 0, _, _, _ => .ok none
  | fuel + 1, page, items, pages =>
    match call page with
    | .error cause => .error ⟨items, pages, cause⟩
    | .ok response =>
      match nextPage response with
      | none => .ok (some ⟨items ++ response.data, pages + 1⟩)
      | some next => listAllPages call fuel (some next) (items ++ response.data) (pages + 1)

/-- What is listed of some pages. -/
def listed (pages : List (OciResponse β)) : OciPageResult β :=
  ⟨pages.flatMap OciResponse.data, pages.length⟩

theorem listAllPages_eq (call : Option String → Except ε (OciResponse β)) (fuel : ℕ)
    (page : Option String) (pages : List (OciResponse β)) :
    listAllPages call fuel page (listed pages).items (listed pages).pages =
      ((readPages call nextPage fuel page pages).map (Option.map listed)).mapError fun failed =>
        ⟨(listed failed.1).items, (listed failed.1).pages, failed.2⟩ := by
  induction fuel generalizing page pages with
  | zero => rfl
  | succ fuel inductionHypothesis =>
    have extended (response : OciResponse β) : listed (pages ++ [response]) =
        ⟨(listed pages).items ++ response.data, (listed pages).pages + 1⟩ := by
      simp [listed]
    rw [listAllPages, readPages]
    cases call page with
    | error cause => rfl
    | ok response =>
      dsimp only
      cases nextPage response with
      | none =>
        simp only [Except.map, Except.mapError, Option.map_some, extended]
      | some next =>
        dsimp only
        rw [← inductionHypothesis, extended]

end Oci

section CostExplorer

/-- The token that a page names. -/
def nextToken (page : CostPage) : Option String := page.nextPageToken.filter (· ≠ "")

/-- `_cost_results` from a token on. -/
def costResults (respond : Option String → Except ClientFailure CostPage) :
    ℕ → Option String → List CostBucket → Except ClientFailure (Option (List CostBucket))
  | 0, _, _ => .ok none
  | fuel + 1, token, results =>
    match respond token with
    | .error failure => .error failure
    | .ok response =>
      match nextToken response with
      | none => .ok (some (results ++ response.resultsByTime))
      | some following => costResults respond fuel (some following) (results ++ response.resultsByTime)

/-- The results of some pages. -/
def pagedResults (pages : List CostPage) : List CostBucket := pages.flatMap CostPage.resultsByTime

variable (respond : Option String → Except ClientFailure CostPage)

theorem costResults_eq (fuel : ℕ) (token : Option String) (pages : List CostPage) :
    costResults respond fuel token (pagedResults pages) =
      ((readPages respond nextToken fuel token pages).map (Option.map pagedResults)).mapError
        Prod.snd := by
  induction fuel generalizing token pages with
  | zero => rfl
  | succ fuel inductionHypothesis =>
    have extended (response : CostPage) : pagedResults (pages ++ [response]) =
        pagedResults pages ++ response.resultsByTime := by
      simp [pagedResults]
    rw [costResults, readPages]
    cases respond token with
    | error failure => rfl
    | ok response =>
      dsimp only
      cases nextToken response with
      | none =>
        simp only [Except.map, Except.mapError, Option.map_some, extended]
      | some following =>
        dsimp only
        rw [← inductionHypothesis, extended]

/-- `AwsCostExplorerClient.get_cost_and_usage`, with none where it has not ended. -/
def costPages (limit : ℕ) : Except BillingFailure (Option (List CostPage)) :=
  match getCostAndUsage respond limit none [] [] with
  | .error .unending => .ok none
  | .error raised => .error raised
  | .ok pages => .ok (some pages)

variable {respond} {token : Option String} {seen : List String} {pages whole : List CostPage}
variable {limit : ℕ}

theorem mapFailure_ended (failure : ClientFailure) : mapFailure failure ≠ .unending := by
  cases failure with
  | clientError code =>
    unfold mapFailure mapClientError
    dsimp only
    split_ifs <;> exact nofun
  | botoCore => exact nofun
  | other => exact nofun

/-- One page of the client, by the token that it names. -/
theorem getCostAndUsage_page {page : CostPage} (answered : respond token = .ok page) :
    getCostAndUsage respond (limit + 1) token seen pages =
      match nextToken page with
      | none => .ok (pages ++ [page])
      | some following =>
        if following ∈ seen then
          .error (.upstream "PAGINATION_ERROR"
            "O AWS Cost Explorer repetiu um token de paginação.")
        else getCostAndUsage respond limit (some following) (following :: seen)
          (pages ++ [page]) := by
  rw [getCostAndUsage, answered]
  dsimp only
  unfold nextToken
  cases page.nextPageToken with
  | none => rfl
  | some following =>
    dsimp only
    by_cases empty : following = ""
    · rw [if_pos empty, Option.filter_some, if_neg (by simpa using empty)]
    · rw [if_neg empty, Option.filter_some, if_pos (decide_eq_true empty)]

/-- With the tokens remembered, each call leaves one fewer. -/
theorem getCostAndUsage_ends {names : Finset String} (within : NamesWithin respond nextToken names)
    (enough : (names \ seen.toFinset).card < limit) :
    getCostAndUsage respond limit token seen pages ≠ .error .unending := by
  induction limit generalizing token seen pages with
  | zero => exact absurd enough (Nat.not_lt_zero _)
  | succ limit inductionHypothesis =>
    cases answer : respond token with
    | error failure =>
      rw [getCostAndUsage, answer]
      exact fun same => mapFailure_ended failure (Except.error.inj same)
    | ok page =>
      rw [getCostAndUsage_page answer]
      cases named : nextToken page with
      | none => exact nofun
      | some following =>
        dsimp only
        by_cases known : following ∈ seen
        · rw [if_pos known]
          exact nofun
        · rw [if_neg known]
          apply inductionHypothesis
          have isName := within token page following answer named
          have fresh : following ∈ names \ seen.toFinset :=
            Finset.mem_sdiff.mpr ⟨isName, fun listed => known (List.mem_toFinset.mp listed)⟩
          have fewer := Finset.card_erase_of_mem fresh
          have positive := Finset.card_pos.mpr ⟨following, fresh⟩
          have remaining : names \ (following :: seen).toFinset =
              (names \ seen.toFinset).erase following := by
            ext other
            simp only [Finset.mem_sdiff, List.mem_toFinset, List.mem_cons, Finset.mem_erase]
            tauto
          rw [remaining]
          omega

theorem reads_of_getCostAndUsage
    (read : getCostAndUsage respond limit token seen pages = .ok whole) :
    ∃ tokens rest, whole = pages ++ rest ∧ Reads respond nextToken token tokens rest := by
  induction limit generalizing token seen pages with
  | zero => cases read
  | succ limit inductionHypothesis =>
    cases answer : respond token with
    | error failure =>
      rw [getCostAndUsage, answer] at read
      cases read
    | ok page =>
      rw [getCostAndUsage_page answer] at read
      cases named : nextToken page with
      | none =>
        rw [named] at read
        obtain rfl := Except.ok.inj read
        exact ⟨[token], [page], rfl, Reads.last answer named⟩
      | some following =>
        rw [named] at read
        dsimp only at read
        by_cases known : following ∈ seen
        · rw [if_pos known] at read
          cases read
        · rw [if_neg known] at read
          obtain ⟨tokens, rest, rfl, reads⟩ := inductionHypothesis read
          exact ⟨token :: tokens, page :: rest, by simp, Reads.more answer named reads⟩

/-- The billing client ends on finitely many tokens. -/
theorem costPages_readsAll {names : Finset String} (within : NamesWithin respond nextToken names) :
    ReadsAll respond nextToken none (costPages respond) id := by
  refine ⟨names.card + 1, fun limit enough => ?_⟩
  have ends := @getCostAndUsage_ends respond none [] [] limit names within (by simp; omega)
  unfold costPages
  cases read : getCostAndUsage respond limit none [] [] with
  | ok pages =>
    obtain ⟨tokens, rest, rfl, reads⟩ := reads_of_getCostAndUsage read
    exact Or.inr ⟨tokens, _, reads, reads.nodup, rfl⟩
  | error raised =>
    cases raised with
    | unending => exact absurd read ends
    | service code message => exact Or.inl ⟨_, rfl⟩
    | upstream code message => exact Or.inl ⟨_, rfl⟩

end CostExplorer

/-- Over finitely many page tokens the billing client always ends, with an error or with
every page in order. The listing of OCI and the collector of AWS costs do exactly where no
token that follows from the first page leads back to itself. -/
theorem pagination_loops {β : Type} {ε : Type}
    {call : Option String → Except ε (OciResponse β)}
    {respond : Option String → Except ClientFailure CostPage} {ociTokens costTokens : Finset String}
    (ociFinite : NamesWithin call nextPage ociTokens)
    (costFinite : NamesWithin respond nextToken costTokens) :
    (ReadsAll call nextPage none (fun fuel => listAllPages call fuel none [] 0) listed ↔
      ¬Cyclic call nextPage none) ∧
    (ReadsAll respond nextToken none (fun fuel => costResults respond fuel none []) pagedResults ↔
      ¬Cyclic respond nextToken none) ∧
    ReadsAll respond nextToken none (costPages respond) id := by
  refine ⟨?_, ?_, costPages_readsAll costFinite⟩
  · exact readsAll_iff_not_cyclic ociFinite fun fuel => listAllPages_eq call fuel none []
  · exact readsAll_iff_not_cyclic costFinite fun fuel => costResults_eq respond fuel none []

section Sample

/-- Two pages, the second of which names no other. -/
def twoListed : Option String → Except Unit (OciResponse ℕ)
  | none => .ok ⟨[1, 2], some "second", none⟩
  | some _ => .ok ⟨[3], none, none⟩

/-- A page that names the token with which it is always answered. -/
def repeatingCosts (_ : Option String) : Except ClientFailure CostPage := .ok ⟨[], some "again"⟩

def repeatingListing (_ : Option String) : Except Unit (OciResponse ℕ) :=
  .ok ⟨[1], some "again", none⟩

theorem repeatingCosts_finite : NamesWithin repeatingCosts nextToken {"again"} := by
  intro token page value answered named
  obtain rfl := Except.ok.inj answered
  obtain rfl : "again" = value := by
    rw [nextToken, Option.filter_some, if_pos (by decide)] at named
    exact Option.some.inj named
  exact Finset.mem_singleton.mpr rfl

/-- The listing of two pages is read, and the client reports the token that is repeated. -/
theorem two_pages_listed :
    ReadsAll twoListed nextPage none (fun fuel => listAllPages twoListed fuel none [] 0) listed ∧
      ReadsAll repeatingCosts nextToken none (costPages repeatingCosts) id := by
  have finite : NamesWithin twoListed nextPage {"second"} := by
    intro token page value answered named
    cases token with
    | none =>
      obtain rfl := Except.ok.inj answered
      obtain rfl : "second" = value := by simpa [nextPage] using named
      exact Finset.mem_singleton.mpr rfl
    | some token =>
      obtain rfl := Except.ok.inj answered
      cases named
  obtain ⟨listing, -, client⟩ := pagination_loops finite repeatingCosts_finite
  refine ⟨listing.mpr ?_, client⟩
  have ended : readPages twoListed nextPage 2 none [] ≠ .ok none := by
    change Except.ok (some _) ≠ _
    exact nofun
  exact not_cyclic_of_ends (readPages_ends.mp ended)

/-- Pages that are always answered with the same token: neither loop ends. -/
theorem repeated_token_unending :
    NamesWithin repeatingListing nextPage {"again"} ∧
      NamesWithin repeatingCosts nextToken {"again"} ∧
      (∀ fuel, listAllPages repeatingListing fuel none [] 0 = .ok none) ∧
      (∀ fuel, costResults repeatingCosts fuel none [] = .ok none) ∧
      ¬ReadsAll repeatingListing nextPage none
        (fun fuel => listAllPages repeatingListing fuel none [] 0) listed ∧
      ¬ReadsAll repeatingCosts nextToken none
        (fun fuel => costResults repeatingCosts fuel none []) pagedResults := by
  have listing (fuel : ℕ) : ∀ page items pages,
      listAllPages repeatingListing fuel page items pages = .ok none := by
    induction fuel with
    | zero => exact fun page items pages => rfl
    | succ fuel inductionHypothesis =>
      exact fun page items pages => inductionHypothesis (some "again") (items ++ [1]) (pages + 1)
  have costs (fuel : ℕ) : ∀ token results,
      costResults repeatingCosts fuel token results = .ok none := by
    induction fuel with
    | zero => exact fun token results => rfl
    | succ fuel inductionHypothesis =>
      exact fun token results => inductionHypothesis (some "again") (results ++ [])
  refine ⟨?_, repeatingCosts_finite, fun fuel => listing fuel none [] 0,
    fun fuel => costs fuel none [], ?_, ?_⟩
  · intro token page value answered named
    obtain rfl := Except.ok.inj answered
    obtain rfl : "again" = value := by simpa [nextPage] using named
    exact Finset.mem_singleton.mpr rfl
  · rintro ⟨bound, reads⟩
    have unended := listing bound none [] 0
    rcases reads bound le_rfl with ⟨raised, failed⟩ | ⟨tokens, pages, -, -, ended⟩
    · cases unended.symm.trans failed
    · cases unended.symm.trans ended
  · rintro ⟨bound, reads⟩
    have unended := costs bound none []
    rcases reads bound le_rfl with ⟨raised, failed⟩ | ⟨tokens, pages, -, -, ended⟩
    · cases unended.symm.trans failed
    · cases unended.symm.trans ended

end Sample

end FinopsAnalytics.PaginationLoops
