import FinopsAnalytics.Fallible
import Mathlib.Data.Finset.Card
import Mathlib.Data.Finset.Image
import Mathlib.Logic.Relation

/-!
# Walks along page tokens

A remote side answers a token, or none for the first page, with a page that may name the
next token, or it fails. A reader that follows the tokens without looking back ends on
finitely many tokens exactly where no token that it meets leads back to itself.
-/

namespace FinopsAnalytics.TokenWalks

universe u v w
variable {τ : Type u} {α : Type v} {ε : Type w}
variable (respond : Option τ → Except ε α) (next : α → Option τ)

/-- The page of a token names the next one. -/
def Leads (token following : Option τ) : Prop :=
  ∃ page value, respond token = .ok page ∧ next page = some value ∧ following = some value

/-- A token that follows from the start leads back to itself. -/
def Cyclic (start : Option τ) : Prop :=
  ∃ token, Relation.ReflTransGen (Leads respond next) start token ∧
    Relation.TransGen (Leads respond next) token token

/-- The tokens that are read, from the first to one whose page names no other, and their
pages. -/
inductive Reads : Option τ → List (Option τ) → List α → Prop
  | last {token : Option τ} {page : α} (answered : respond token = .ok page)
      (ended : next page = none) : Reads token [token] [page]
  | more {token : Option τ} {page : α} {value : τ} {tokens : List (Option τ)} {pages : List α}
      (answered : respond token = .ok page) (continues : next page = some value)
      (rest : Reads (some value) tokens pages) : Reads token (token :: tokens) (page :: pages)

/-- Reading page after page. A failure leaves the pages before it; without fuel the reading
has not ended. -/
def readPages : ℕ → Option τ → List α → Except (List α × ε) (Option (List α))
  | 0, _, _ => .ok none
  | fuel + 1, token, pages =>
    match respond token with
    | .error failure => .error (pages, failure)
    | .ok page =>
      match next page with
      | none => .ok (some (pages ++ [page]))
      | some value => readPages fuel (some value) (pages ++ [page])

/-- At most so many pages follow one another from a token on. -/
def EndsWithin : ℕ → Option τ → Prop
  | 0, _ => False
  | fuel + 1, token => ∀ following, Leads respond next token following → EndsWithin fuel following

variable {respond next} {token following start : Option τ} {fuel : ℕ} {tokens : List (Option τ)}
variable {pages whole : List α}

section Steps

theorem readPages_failed {failure : ε} (failed : respond token = .error failure) :
    readPages respond next (fuel + 1) token pages = .error (pages, failure) := by
  rw [readPages, failed]

theorem readPages_last {page : α} (answered : respond token = .ok page)
    (ended : next page = none) :
    readPages respond next (fuel + 1) token pages = .ok (some (pages ++ [page])) := by
  rw [readPages, answered]
  dsimp only
  rw [ended]

theorem readPages_more {page : α} {value : τ} (answered : respond token = .ok page)
    (continues : next page = some value) :
    readPages respond next (fuel + 1) token pages =
      readPages respond next fuel (some value) (pages ++ [page]) := by
  rw [readPages, answered]
  dsimp only
  rw [continues]

/-- What a token leads to is determined. -/
theorem leads_iff {page : α} {value : τ} (answered : respond token = .ok page)
    (continues : next page = some value) :
    Leads respond next token following ↔ following = some value := by
  constructor
  · rintro ⟨other, found, again, names, rfl⟩
    obtain rfl := Except.ok.inj (answered.symm.trans again)
    rw [← names, continues]
  · rintro rfl
    exact ⟨page, value, answered, continues, rfl⟩

/-- Whether a reading ends depends on the tokens only. -/
theorem readPages_ends :
    readPages respond next fuel token pages ≠ .ok none ↔ EndsWithin respond next fuel token := by
  induction fuel generalizing token pages with
  | zero => exact iff_of_false (fun ends => ends rfl) id
  | succ fuel inductionHypothesis =>
    rw [EndsWithin]
    cases answer : respond token with
    | error failure =>
      rw [readPages_failed answer]
      refine iff_of_true nofun fun following leads => ?_
      obtain ⟨page, value, answered, -⟩ := leads
      cases answer.symm.trans answered
    | ok page =>
      cases named : next page with
      | none =>
        rw [readPages_last answer named]
        refine iff_of_true nofun fun following leads => ?_
        obtain ⟨other, value, answered, names, -⟩ := leads
        obtain rfl := Except.ok.inj (answer.symm.trans answered)
        cases named.symm.trans names
      | some value =>
        rw [readPages_more answer named, inductionHypothesis]
        simp only [leads_iff answer named, forall_eq]

/-- What is read are the pages from the first token to one that names no other. -/
theorem reads_of_readPages (read : readPages respond next fuel token pages = .ok (some whole)) :
    ∃ tokens rest, whole = pages ++ rest ∧ Reads respond next token tokens rest := by
  induction fuel generalizing token pages with
  | zero => cases read
  | succ fuel inductionHypothesis =>
    cases answer : respond token with
    | error failure =>
      rw [readPages_failed answer] at read
      cases read
    | ok page =>
      cases named : next page with
      | none =>
        rw [readPages_last answer named] at read
        obtain rfl := Option.some.inj (Except.ok.inj read)
        exact ⟨[token], [page], rfl, Reads.last answer named⟩
      | some value =>
        rw [readPages_more answer named] at read
        obtain ⟨tokens, rest, rfl, reads⟩ := inductionHypothesis read
        exact ⟨token :: tokens, page :: rest, by simp, Reads.more answer named reads⟩

end Steps

section Cycles

theorem EndsWithin.mono {less : ℕ} (ends : EndsWithin respond next less token)
    (more : less ≤ fuel) : EndsWithin respond next fuel token := by
  induction less generalizing fuel token with
  | zero => exact ends.elim
  | succ less inductionHypothesis =>
    cases fuel with
    | zero => exact absurd more (Nat.not_succ_le_zero less)
    | succ fuel =>
      intro following leads
      exact inductionHypothesis (ends following leads) (Nat.le_of_succ_le_succ more)

/-- A token that follows ends earlier. -/
theorem EndsWithin.follow (path : Relation.TransGen (Leads respond next) token following)
    (ends : EndsWithin respond next fuel token) :
    ∃ less < fuel, EndsWithin respond next less following := by
  induction path with
  | single leads =>
    cases fuel with
    | zero => exact ends.elim
    | succ fuel => exact ⟨fuel, Nat.lt_succ_self fuel, ends _ leads⟩
  | tail _ leads inductionHypothesis =>
    obtain ⟨less, fewer, before⟩ := inductionHypothesis
    cases less with
    | zero => exact before.elim
    | succ less => exact ⟨less, by omega, before _ leads⟩

/-- No number of pages is enough for a token that leads back to itself. -/
theorem not_endsWithin_of_cycle (cycle : Relation.TransGen (Leads respond next) token token) :
    ¬EndsWithin respond next fuel token := by
  induction fuel using Nat.strong_induction_on with
  | _ fuel inductionHypothesis =>
    intro ends
    obtain ⟨less, fewer, again⟩ := ends.follow cycle
    exact inductionHypothesis less fewer again

theorem not_cyclic_of_ends (ends : EndsWithin respond next fuel start) :
    ¬Cyclic respond next start := by
  rintro ⟨token, path, cycle⟩
  rcases Relation.reflTransGen_iff_eq_or_transGen.mp path with rfl | later
  · exact not_endsWithin_of_cycle cycle ends
  · obtain ⟨less, -, endsThere⟩ := ends.follow later
    exact not_endsWithin_of_cycle cycle endsThere

theorem Reads.tokens_reached (reads : Reads respond next token tokens pages) :
    ∀ other ∈ tokens, Relation.ReflTransGen (Leads respond next) token other := by
  induction reads with
  | last => exact fun other member => List.mem_singleton.mp member ▸ Relation.ReflTransGen.refl
  | more answered continues rest inductionHypothesis =>
    intro other member
    rcases List.mem_cons.mp member with rfl | later
    · exact Relation.ReflTransGen.refl
    · exact Relation.ReflTransGen.head ((leads_iff answered continues).mpr rfl)
        (inductionHypothesis other later)

theorem Reads.endsWithin (reads : Reads respond next token tokens pages) :
    EndsWithin respond next pages.length token := by
  induction reads with
  | last answered ended =>
    rintro following ⟨other, value, again, names, -⟩
    obtain rfl := Except.ok.inj (answered.symm.trans again)
    cases ended.symm.trans names
  | more answered continues rest inductionHypothesis =>
    intro following leads
    rw [(leads_iff answered continues).mp leads]
    exact inductionHypothesis

/-- Each token is read once. -/
theorem Reads.nodup (reads : Reads respond next token tokens pages) : tokens.Nodup := by
  induction reads with
  | last => exact List.nodup_singleton _
  | @more token page value tokens pages answered continues rest inductionHypothesis =>
    refine List.nodup_cons.mpr ⟨fun member => ?_, inductionHypothesis⟩
    have cycle : Relation.TransGen (Leads respond next) token token :=
      Relation.TransGen.head' ((leads_iff answered continues).mpr rfl)
        (rest.tokens_reached token member)
    exact not_endsWithin_of_cycle cycle (Reads.more answered continues rest).endsWithin

variable [DecidableEq τ]

/-- Every token that an answer names is one of these. -/
def NamesWithin (respond : Option τ → Except ε α) (next : α → Option τ) (names : Finset τ) :
    Prop := ∀ token page value, respond token = .ok page → next page = some value → value ∈ names

/-- Over finitely many tokens, all readings from a start that meets no cycle end. What was
met leads to the current token, so that every further token is new. -/
theorem ends_of_not_cyclic {names met : Finset τ} (within : NamesWithin respond next names)
    (acyclic : ¬Cyclic respond next start)
    (reached : Relation.ReflTransGen (Leads respond next) start token)
    (leading : ∀ value ∈ met, Relation.ReflTransGen (Leads respond next) (some value) token) :
    EndsWithin respond next ((names \ met).card + 1) token := by
  induction remaining : (names \ met).card using Nat.strong_induction_on generalizing met token with
  | _ count inductionHypothesis =>
    rintro following ⟨page, value, answered, continues, rfl⟩
    have leads : Leads respond next token (some value) := ⟨page, value, answered, continues, rfl⟩
    have named := within token page value answered continues
    by_cases known : value ∈ met
    · exact absurd ⟨some value, reached.tail leads,
        Relation.TransGen.tail' (leading value known) leads⟩ acyclic
    · have fewer : (names \ insert value met).card < count := by
        rw [← remaining]
        apply Finset.card_lt_card
        refine Finset.ssubset_iff_of_subset (Finset.sdiff_subset_sdiff (Finset.Subset.refl _)
          (Finset.subset_insert value met)) |>.mpr ⟨value, ?_, ?_⟩
        · exact Finset.mem_sdiff.mpr ⟨named, known⟩
        · simp
      have later := inductionHypothesis _ fewer (reached.tail leads) (fun other member => ?_) rfl
      · exact later.mono (Nat.succ_le_of_lt fewer)
      · rcases Finset.mem_insert.mp member with rfl | before
        · exact Relation.ReflTransGen.refl
        · exact (leading other before).tail leads

/-- Over finitely many tokens, a start meets no cycle exactly where its reading ends. -/
theorem ends_iff_not_cyclic {names : Finset τ} (within : NamesWithin respond next names) :
    (∃ bound, ∀ fuel ≥ bound, EndsWithin respond next fuel start) ↔
      ¬Cyclic respond next start := by
  constructor
  · rintro ⟨bound, ends⟩
    exact not_cyclic_of_ends (ends bound le_rfl)
  · intro acyclic
    have ends := @ends_of_not_cyclic _ _ _ respond next start start _ names ∅ within acyclic
      Relation.ReflTransGen.refl nofun
    exact ⟨_, fun fuel enough => ends.mono enough⟩

end Cycles

section Loops

variable {ρ : Type v} {δ : Type w} {run : ℕ → Except δ (Option ρ)} {result : List α → ρ}

variable (respond next start run result) in
/-- A loop ends, with an error or with what is made of all pages from the start to one that
names no other, in order and each read once. -/
def ReadsAll : Prop :=
  ∃ bound, ∀ fuel ≥ bound, (∃ raised, run fuel = .error raised) ∨
    ∃ tokens pages, Reads respond next start tokens pages ∧ tokens.Nodup ∧
      run fuel = .ok (some (result pages))

/-- A loop that reads page after page does so exactly where the start meets no cycle. -/
theorem readsAll_iff_not_cyclic [DecidableEq τ] {names : Finset τ}
    (within : NamesWithin respond next names) {raise : List α × ε → δ}
    (follows : ∀ fuel, run fuel =
      ((readPages respond next fuel start []).map (Option.map result)).mapError raise) :
    ReadsAll respond next start run result ↔ ¬Cyclic respond next start := by
  rw [← ends_iff_not_cyclic within]
  constructor
  · rintro ⟨bound, reads⟩
    refine ⟨bound, fun fuel enough => (@readPages_ends _ _ _ _ _ _ _ []).mp fun unended => ?_⟩
    have run := follows fuel
    rw [unended] at run
    rcases reads fuel enough with ⟨raised, failed⟩ | ⟨tokens, pages, -, -, ended⟩
    · cases run.symm.trans failed
    · cases run.symm.trans ended
  · rintro ⟨bound, ends⟩
    refine ⟨bound, fun fuel enough => ?_⟩
    have ended := (@readPages_ends _ _ _ _ _ _ _ []).mpr (ends fuel enough)
    rw [follows]
    cases read : readPages respond next fuel start [] with
    | error failed => exact Or.inl ⟨_, rfl⟩
    | ok found =>
      cases found with
      | none => exact absurd read ended
      | some whole =>
        obtain ⟨tokens, pages, rfl, reads⟩ := reads_of_readPages read
        exact Or.inr ⟨tokens, _, reads, reads.nodup, rfl⟩

end Loops

end FinopsAnalytics.TokenWalks
