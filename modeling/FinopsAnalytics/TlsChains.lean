import FinopsAnalytics.Clock
import FinopsAnalytics.Fallible
import FinopsAnalytics.TlsManager
import Mathlib.Data.List.Chain
import Mathlib.Data.List.Nodup

/-!
# Assembling a certificate chain

A bundle is sorted into self-signed roots and other certificates. From the leaf on, the
chain is extended by the only remaining certificate that issued the last one, until no
certificate remains; a choice between two issuers and a certificate that is left over are
refused. What is returned is the chain without the root, so that the order in which the
certificates were given plays no part.
-/

namespace FinopsAnalytics.TlsChains

open TlsManager Fallible

structure X509Certificate (Name : Type) where
  subject : Name
  issuer : Name
  notValidBefore : Instant
  notValidAfter : Instant
  basicConstraints : Option Bool
  san : List String
  der : String
deriving DecidableEq, Repr

/-- What is computed from certificates: the digest, whether the signature of the first is
verified by the second, and texts. -/
class CertificateReading (Name : Type) where
  fingerprint : X509Certificate Name → String
  signatureVerifies : X509Certificate Name → X509Certificate Name → Bool
  publicBytes : X509Certificate Name → String
  rfc4514String : Name → String
  isoformat : Instant → String

section Chains

variable {Name : Type} [DecidableEq Name] [CertificateReading Name]

section Checks

def checkValidity (now : Instant) (label : String) (certificate : X509Certificate Name) :
    Except TlsError Unit :=
  if now < certificate.notValidBefore then
    throw (.validation (label ++ " ainda não é válido; início da validade: " ++
      CertificateReading.isoformat Name certificate.notValidBefore ++ "."))
  else if certificate.notValidAfter ≤ now then
    throw (.validation (label ++ " expirou em " ++
      CertificateReading.isoformat Name certificate.notValidAfter ++ "."))
  else pure ()

def verifyDirectlyIssued (child issuer : X509Certificate Name) : Bool :=
  decide (child.issuer = issuer.subject) && CertificateReading.signatureVerifies child issuer

def isSelfSigned (certificate : X509Certificate Name) : Bool :=
  decide (certificate.subject = certificate.issuer) && verifyDirectlyIssued certificate certificate

def isCa (certificate : X509Certificate Name) : Bool := certificate.basicConstraints.getD false

/-- `_system_trust_anchor` -/
def systemTrustAnchor (systemRoots : List (X509Certificate Name))
    (certificate : X509Certificate Name) : Option (X509Certificate Name) :=
  systemRoots.find? fun root => verifyDirectlyIssued certificate root ||
    decide (CertificateReading.fingerprint certificate = CertificateReading.fingerprint root)

end Checks

section Sorting

/-- The bundle so far: the digests, the self-signed certificates and the others. -/
structure Sorted (Name : Type) where
  seen : List String
  roots : List (X509Certificate Name)
  nonRoots : List (X509Certificate Name)

def sortCertificate (now : Instant) (sorted : Sorted Name) (entry : X509Certificate Name × ℕ) :
    Except TlsError (Sorted Name) := do
  let (certificate, position) := entry
  let label := "Certificado intermediário #" ++ toString position
  checkValidity now label certificate
  if isCa certificate = false then
    throw (.validation (label ++ " não possui BasicConstraints CA=true."))
  if CertificateReading.fingerprint certificate ∈ sorted.seen then
    throw (.validation "A cadeia contém certificados duplicados.")
  let seen := sorted.seen ++ [CertificateReading.fingerprint certificate]
  if isSelfSigned certificate then
    return ⟨seen, sorted.roots ++ [certificate], sorted.nonRoots⟩
  else
    return ⟨seen, sorted.roots, sorted.nonRoots ++ [certificate]⟩

def sortBundle (now : Instant) (leaf : X509Certificate Name)
    (intermediates : List (X509Certificate Name)) : Except TlsError (Sorted Name) :=
  (intermediates.zipIdx 1).foldlM (sortCertificate now)
    ⟨[CertificateReading.fingerprint leaf], [], []⟩

end Sorting

section Assembly

/-- The loop that orders the chain, with the check that nothing remains. The fuel bounds the
number of turns; without fuel it has not ended. -/
def orderChain : ℕ → X509Certificate Name → List (X509Certificate Name) →
    List (X509Certificate Name) →
      Except TlsError (Option (X509Certificate Name × List (X509Certificate Name)))
  | 0, _, _, _ => .ok none
  | fuel + 1, current, ordered, remaining =>
    if remaining = [] then .ok (some (current, ordered))
    else
      match remaining.filter (verifyDirectlyIssued current ·) with
      | [] => .error (.validation
          "A cadeia intermediária está quebrada: issuer/subject ou assinatura não correspondem.")
      | [parent] => orderChain fuel parent (ordered ++ [parent]) (remaining.erase parent)
      | _ :: _ :: _ => .error (.validation
          "A cadeia intermediária é ambígua; mais de um emissor válido foi encontrado.")

/-- The root that closes the chain, if roots were given. -/
def closingRoot (roots : List (X509Certificate Name)) (current : X509Certificate Name) :
    Except TlsError (Option (X509Certificate Name)) := do
  let matchingRoots := roots.filter (verifyDirectlyIssued current ·)
  if roots ≠ [] ∧ matchingRoots.length ≠ 1 then
    throw (.validation
      "O Root CA informado não fecha uma cadeia única e válida para o certificado.")
  if 1 < roots.length then
    throw (.validation "O CA Bundle contém Root CAs adicionais sem relação com a cadeia.")
  return matchingRoots.head?

def trustOf (systemRoots : List (X509Certificate Name)) (current : X509Certificate Name)
    (omittedRoot : Option (X509Certificate Name)) : TrustSummary :=
  match omittedRoot with
  | some root =>
    if systemRoots.any fun known =>
        CertificateReading.fingerprint root = CertificateReading.fingerprint known then
      ⟨"PUBLIC_TRUSTED", "A cadeia termina em uma raiz presente na trust store do sistema."⟩
    else
      ⟨"PRIVATE_OR_UNTRUSTED", "O Root CA informado foi identificado como privado/não confiável " ++
        "pela trust store deste sistema; clientes precisam confiar explicitamente nessa CA."⟩
  | none =>
    if (systemTrustAnchor systemRoots current).isSome then
      ⟨"PUBLIC_TRUSTED", "A cadeia pode ser ancorada na trust store padrão deste sistema."⟩
    else
      ⟨"UNANCHORED", "A cadeia é criptograficamente consistente, mas não pôde ser ancorada na " ++
        "trust store deste sistema. Isso pode indicar CA privada ou intermediária ausente."⟩

def certificateMetadata (certificate : X509Certificate Name) (chainLength : Option ℕ) :
    CertificateMetadata where
  fingerprintSha256 := CertificateReading.fingerprint certificate
  issuer := CertificateReading.rfc4514String certificate.issuer
  validFrom := CertificateReading.isoformat Name certificate.notValidBefore
  validUntil := CertificateReading.isoformat Name certificate.notValidAfter
  san := certificate.san
  chainLength := chainLength

/-- The certificates that are served, and what is reported of them. -/
structure Assembly (Name : Type) where
  ordered : List (X509Certificate Name)
  prepared : Prepared
deriving DecidableEq, Repr

def prepare (systemRoots : List (X509Certificate Name)) (leaf : X509Certificate Name) (provided : ℕ)
    (current : X509Certificate Name) (ordered : List (X509Certificate Name))
    (omittedRoot : Option (X509Certificate Name)) : Prepared :=
  let trust := trustOf systemRoots current omittedRoot
  { certificate := certificateMetadata leaf (some (1 + ordered.length))
    chain := {
      status := if trust.status ≠ "UNANCHORED" then "VALID" else "UNANCHORED"
      providedIntermediates := provided
      servedIntermediates := ordered.length
      servedChainLength := 1 + ordered.length
      rootOmitted := omittedRoot.isSome
      rootSubject := omittedRoot.map fun root => CertificateReading.rfc4514String root.subject
      message :=
        if omittedRoot.isSome then "Root CA identificado e omitido do fullchain servido."
        else "Cadeia intermediária validada e ordenada." }
    trust := trust
    fullchainPem := String.join ((leaf :: ordered).map CertificateReading.publicBytes) }

/-- The assembly of a chain for a validated leaf, in `_prepare_custom`. -/
def assembleChain (fuel : ℕ) (now : Instant) (systemRoots : List (X509Certificate Name))
    (leaf : X509Certificate Name) (intermediates : List (X509Certificate Name)) :
    Except TlsError (Option (Assembly Name)) := do
  let sorted ← sortBundle now leaf intermediates
  match ← orderChain fuel leaf [] sorted.nonRoots with
  | none => return none
  | some (current, ordered) =>
    let omittedRoot ← closingRoot sorted.roots current
    return some ⟨ordered,
      prepare systemRoots leaf intermediates.length current ordered omittedRoot⟩

end Assembly

section SortedBundles

variable {now : Instant} {leaf : X509Certificate Name} {sorted : Sorted Name}
variable {intermediates : List (X509Certificate Name)}

/-- A certificate that passes the checks of the bundle. -/
def Admitted (now : Instant) (certificate : X509Certificate Name) : Prop :=
  certificate.notValidBefore ≤ now ∧ now < certificate.notValidAfter ∧ isCa certificate = true

omit [DecidableEq Name] in
/-- A certificate is valid from its start on and before its end. -/
theorem checkValidity_eq_ok {label : String} {certificate : X509Certificate Name} :
    checkValidity now label certificate = .ok () ↔
      certificate.notValidBefore ≤ now ∧ now < certificate.notValidAfter := by
  unfold checkValidity
  by_cases early : now < certificate.notValidBefore
  · rw [if_pos early]
    exact iff_of_false throw_ne_ok fun valid => absurd valid.1 (not_le.mpr early)
  · rw [if_neg early]
    by_cases late : certificate.notValidAfter ≤ now
    · rw [if_pos late]
      exact iff_of_false throw_ne_ok fun valid => absurd valid.2 (not_lt.mpr late)
    · rw [if_neg late]
      exact iff_of_true rfl ⟨not_lt.mp early, not_le.mp late⟩

/-- An admitted certificate that is new goes to its side. -/
def Sorted.take (sorted : Sorted Name) (certificate : X509Certificate Name) : Sorted Name :=
  ⟨sorted.seen ++ [CertificateReading.fingerprint certificate],
    sorted.roots ++ [certificate].filter (isSelfSigned ·),
    sorted.nonRoots ++ [certificate].filter (!isSelfSigned ·)⟩

/-- The two sides of the sorting. -/
theorem take_eq (certificate : X509Certificate Name) :
    (if isSelfSigned certificate then
      (.ok ⟨sorted.seen ++ [CertificateReading.fingerprint certificate],
        sorted.roots ++ [certificate], sorted.nonRoots⟩ : Except TlsError (Sorted Name))
    else
      .ok ⟨sorted.seen ++ [CertificateReading.fingerprint certificate], sorted.roots,
        sorted.nonRoots ++ [certificate]⟩) = .ok (sorted.take certificate) := by
  unfold Sorted.take
  by_cases self : isSelfSigned certificate = true
  · simp [self]
  · simp [self]

theorem sortCertificate_eq_ok {certificate : X509Certificate Name} {position : ℕ}
    {next : Sorted Name} :
    sortCertificate now sorted (certificate, position) = .ok next ↔
      Admitted now certificate ∧ CertificateReading.fingerprint certificate ∉ sorted.seen ∧
        next = sorted.take certificate := by
  unfold sortCertificate Admitted
  dsimp only
  rw [bind_eq_ok]
  constructor
  · rintro ⟨⟨⟩, valid, rest⟩
    obtain ⟨started, unexpired⟩ := checkValidity_eq_ok.mp valid
    by_cases plain : isCa certificate = false
    · rw [if_pos plain] at rest
      exact absurd rest throw_ne_ok
    by_cases repeated : CertificateReading.fingerprint certificate ∈ sorted.seen
    · rw [if_neg plain, if_pos repeated] at rest
      exact absurd rest throw_ne_ok
    rw [if_neg plain, if_neg repeated] at rest
    have taken := (take_eq certificate).symm.trans rest
    exact ⟨⟨started, unexpired, by simpa using plain⟩, repeated, (Except.ok.inj taken).symm⟩
  · rintro ⟨⟨started, unexpired, authority⟩, fresh, rfl⟩
    refine ⟨(), checkValidity_eq_ok.mpr ⟨started, unexpired⟩, ?_⟩
    rw [if_neg (by simp [authority]), if_neg fresh]
    exact take_eq certificate

/-- The bundle is sorted exactly where its certificates are admitted and new. -/
theorem sortCertificates_eq_ok {next : Sorted Name} {start : ℕ} (distinct : sorted.seen.Nodup) :
    (intermediates.zipIdx start).foldlM (sortCertificate now) sorted = .ok next ↔
      (∀ certificate ∈ intermediates, Admitted now certificate) ∧
        (sorted.seen ++ intermediates.map CertificateReading.fingerprint).Nodup ∧
        next = ⟨sorted.seen ++ intermediates.map CertificateReading.fingerprint,
          sorted.roots ++ intermediates.filter (isSelfSigned ·),
          sorted.nonRoots ++ intermediates.filter (!isSelfSigned ·)⟩ := by
  induction intermediates generalizing sorted start with
  | nil =>
    simp only [List.zipIdx_nil, List.foldlM_nil, List.map_nil, List.filter_nil, List.append_nil]
    constructor
    · intro same
      exact ⟨nofun, distinct, (Except.ok.inj same).symm⟩
    · rintro ⟨-, -, rfl⟩
      rfl
  | cons certificate rest inductionHypothesis =>
    rw [List.zipIdx_cons, List.foldlM_cons, bind_eq_ok]
    have shifted : sorted.seen ++ (certificate :: rest).map CertificateReading.fingerprint =
        (sorted.take certificate).seen ++ rest.map CertificateReading.fingerprint := by
      simp [Sorted.take]
    have split (selected : X509Certificate Name → Bool) (before : List (X509Certificate Name)) :
        before ++ (certificate :: rest).filter selected =
          (before ++ [certificate].filter selected) ++ rest.filter selected := by
      rw [List.append_assoc, ← List.filter_append, List.singleton_append]
    rw [shifted, split, split]
    constructor
    · rintro ⟨following, taken, remaining⟩
      obtain ⟨admitted, fresh, rfl⟩ := sortCertificate_eq_ok.mp taken
      have extended : (sorted.take certificate).seen.Nodup := by
        refine List.Nodup.append distinct (List.nodup_singleton _) fun digest known single => ?_
        exact fresh (List.mem_singleton.mp single ▸ known)
      obtain ⟨others, unrepeated, rfl⟩ := (inductionHypothesis extended).mp remaining
      exact ⟨List.forall_mem_cons.mpr ⟨admitted, others⟩, unrepeated, rfl⟩
    · rintro ⟨admitted, unrepeated, rfl⟩
      obtain ⟨first, others⟩ := List.forall_mem_cons.mp admitted
      have extended : (sorted.take certificate).seen.Nodup := (List.nodup_append.mp unrepeated).1
      have fresh : CertificateReading.fingerprint certificate ∉ sorted.seen := by
        intro known
        have apart := (List.nodup_append.mp extended).2.2
        exact apart _ known _ (List.mem_singleton.mpr rfl) rfl
      exact ⟨_, sortCertificate_eq_ok.mpr ⟨first, fresh, rfl⟩,
        (inductionHypothesis extended).mpr ⟨others, unrepeated, rfl⟩⟩

/-- The digests of the leaf and of the bundle. -/
def digests (leaf : X509Certificate Name) (intermediates : List (X509Certificate Name)) :
    List String := (leaf :: intermediates).map CertificateReading.fingerprint

theorem sortBundle_eq_ok :
    sortBundle now leaf intermediates = .ok sorted ↔
      (∀ certificate ∈ intermediates, Admitted now certificate) ∧
        (digests leaf intermediates).Nodup ∧
        sorted = ⟨digests leaf intermediates, intermediates.filter (isSelfSigned ·),
          intermediates.filter (!isSelfSigned ·)⟩ := by
  unfold sortBundle
  rw [sortCertificates_eq_ok (List.nodup_singleton _)]
  rfl

end SortedBundles

section Orders

variable {fuel : ℕ} {current last : X509Certificate Name}
variable {ordered remaining arranged whole : List (X509Certificate Name)}

/-- A turn of the loop with one issuer. -/
theorem orderChain_extend {parent : X509Certificate Name}
    (issuers : remaining.filter (verifyDirectlyIssued current ·) = [parent]) :
    orderChain (fuel + 1) current ordered remaining =
      orderChain fuel parent (ordered ++ [parent]) (remaining.erase parent) := by
  have some : remaining ≠ [] := by
    rintro rfl
    cases issuers
  rw [orderChain, if_neg some, issuers]

/-- The issuer that is found remains, and issued the certificate before it. -/
theorem issuer_spec {parent : X509Certificate Name}
    (issuers : remaining.filter (verifyDirectlyIssued current ·) = [parent]) :
    parent ∈ remaining ∧ verifyDirectlyIssued current parent = true := by
  have found : parent ∈ remaining.filter (verifyDirectlyIssued current ·) := by
    rw [issuers]
    exact List.mem_singleton.mpr rfl
  exact List.mem_filter.mp found

/-- Each turn takes a certificate away, so that the loop ends. -/
theorem orderChain_ends (enough : remaining.length < fuel) :
    (∃ raised, orderChain fuel current ordered remaining = .error raised) ∨
      ∃ chain, orderChain fuel current ordered remaining = .ok (some chain) := by
  induction fuel generalizing current ordered remaining with
  | zero => exact absurd enough (Nat.not_lt_zero _)
  | succ fuel inductionHypothesis =>
    by_cases none : remaining = []
    · exact Or.inr ⟨_, by rw [orderChain, if_pos none]⟩
    rcases issuers : remaining.filter (verifyDirectlyIssued current ·) with
      _ | ⟨parent, _ | ⟨other, rest⟩⟩
    · exact Or.inl ⟨_, by rw [orderChain, if_neg none, issuers]⟩
    · rw [orderChain_extend issuers]
      apply inductionHypothesis
      have fewer := List.length_erase_of_mem (issuer_spec issuers).1
      have positive := List.length_pos_of_mem (issuer_spec issuers).1
      omega
    · exact Or.inl ⟨_, by rw [orderChain, if_neg none, issuers]⟩

/-- A chain that is ordered continues with what remained, each certificate issued by the
next. -/
theorem orderChain_path
    (chained : orderChain fuel current ordered remaining = .ok (some (last, whole))) :
    ∃ path, whole = ordered ++ path ∧ path.Perm remaining ∧
      (current :: path).IsChain fun child issuer => verifyDirectlyIssued child issuer = true := by
  induction fuel generalizing current ordered remaining with
  | zero => cases chained
  | succ fuel inductionHypothesis =>
    by_cases none : remaining = []
    · rw [orderChain, if_pos none] at chained
      obtain ⟨rfl, rfl⟩ := Prod.mk.inj (Option.some.inj (Except.ok.inj chained))
      exact ⟨[], (List.append_nil _).symm, none ▸ List.Perm.refl _, List.IsChain.singleton _⟩
    rcases issuers : remaining.filter (verifyDirectlyIssued current ·) with
      _ | ⟨parent, _ | ⟨other, rest⟩⟩
    · rw [orderChain, if_neg none, issuers] at chained
      cases chained
    · rw [orderChain_extend issuers] at chained
      obtain ⟨isRemaining, issued⟩ := issuer_spec issuers
      obtain ⟨path, rfl, arrangement, links⟩ := inductionHypothesis chained
      refine ⟨parent :: path, by simp, ?_, List.isChain_cons_cons.mpr ⟨issued, links⟩⟩
      exact (arrangement.cons parent).trans (List.perm_cons_erase isRemaining).symm
    · rw [orderChain, if_neg none, issuers] at chained
      cases chained

/-- The order of what remains plays no part. -/
theorem orderChain_perm (arrangement : remaining.Perm arranged) :
    orderChain fuel current ordered remaining = orderChain fuel current ordered arranged := by
  induction fuel generalizing current ordered remaining arranged with
  | zero => rfl
  | succ fuel inductionHypothesis =>
    by_cases none : remaining = []
    · subst none
      rw [arrangement.nil_eq]
    have some : arranged ≠ [] := fun empty => none (List.perm_nil.mp (empty ▸ arrangement))
    have issuers := arrangement.filter (verifyDirectlyIssued current ·)
    rw [orderChain, orderChain, if_neg none, if_neg some]
    rcases found : remaining.filter (verifyDirectlyIssued current ·) with
      _ | ⟨parent, _ | ⟨other, rest⟩⟩
    · rw [found] at issuers
      rw [issuers.nil_eq.symm]
    · rw [found] at issuers
      rw [List.perm_singleton.mp issuers.symm]
      exact inductionHypothesis (arrangement.erase parent)
    · rw [found] at issuers
      rcases others : arranged.filter (verifyDirectlyIssued current ·) with
        _ | ⟨first, _ | ⟨second, more⟩⟩
      · rw [others] at issuers
        cases issuers.eq_nil
      · rw [others] at issuers
        cases List.perm_singleton.mp issuers
      · rfl

/-- Neither does that of the roots: several roots are refused, and one root has one
order. -/
theorem closingRoot_perm {roots other : List (X509Certificate Name)}
    (arrangement : roots.Perm other) : closingRoot roots current = closingRoot other current := by
  by_cases several : 1 < roots.length
  · have others : 1 < other.length := arrangement.length_eq ▸ several
    have matching := (arrangement.filter (verifyDirectlyIssued current ·)).length_eq
    have some : roots ≠ [] := List.ne_nil_of_length_pos (by omega)
    have some' : other ≠ [] := List.ne_nil_of_length_pos (by omega)
    unfold closingRoot
    simp only [ne_eq, some, some', matching, if_pos several, if_pos others, not_false_eq_true,
      true_and]
    by_cases unmatched : (other.filter (verifyDirectlyIssued current ·)).length = 1
    · rw [if_neg (not_not.mpr unmatched), if_neg (not_not.mpr unmatched)]
      rfl
    · rw [if_pos unmatched, if_pos unmatched]
      rfl
  · have same : roots = other := by
      rcases roots with _ | ⟨root, _ | ⟨second, rest⟩⟩
      · exact arrangement.nil_eq
      · exact (List.perm_singleton.mp arrangement.symm).symm
      · simp at several
    rw [same]

end Orders

section Assemblies

variable {now : Instant} {systemRoots : List (X509Certificate Name)} {leaf : X509Certificate Name}
variable {intermediates arranged : List (X509Certificate Name)} {fuel : ℕ}
variable {assembly : Assembly Name}

/-- What an assembled chain went through. -/
theorem assembleChain_eq_ok :
    assembleChain fuel now systemRoots leaf intermediates = .ok (some assembly) ↔
      (∀ certificate ∈ intermediates, Admitted now certificate) ∧
        (digests leaf intermediates).Nodup ∧
        ∃ current ordered omittedRoot,
          orderChain fuel leaf [] (intermediates.filter (!isSelfSigned ·)) =
            .ok (some (current, ordered)) ∧
          closingRoot (intermediates.filter (isSelfSigned ·)) current = .ok omittedRoot ∧
          assembly = ⟨ordered,
            prepare systemRoots leaf intermediates.length current ordered omittedRoot⟩ := by
  unfold assembleChain
  rw [bind_eq_ok]
  constructor
  · rintro ⟨sorted, sortedOk, rest⟩
    obtain ⟨admitted, distinct, rfl⟩ := sortBundle_eq_ok.mp sortedOk
    obtain ⟨chain, chained, rest⟩ := bind_eq_ok.mp rest
    cases chain with
    | none => cases rest
    | some chain =>
      obtain ⟨omittedRoot, closed, returned⟩ := bind_eq_ok.mp rest
      exact ⟨admitted, distinct, chain.1, chain.2, omittedRoot, chained, closed,
        (Option.some.inj (Except.ok.inj returned)).symm⟩
  · rintro ⟨admitted, distinct, current, ordered, omittedRoot, chained, closed, rfl⟩
    refine ⟨_, sortBundle_eq_ok.mpr ⟨admitted, distinct, rfl⟩, ?_⟩
    dsimp only
    rw [chained, ok_bind]
    dsimp only
    rw [closed]
    rfl

/-- Without an error there is an assembly. -/
theorem assembleChain_ends (enough : intermediates.length < fuel) :
    (∃ raised, assembleChain fuel now systemRoots leaf intermediates = .error raised) ∨
      ∃ assembly, assembleChain fuel now systemRoots leaf intermediates = .ok (some assembly) := by
  cases assembled : assembleChain fuel now systemRoots leaf intermediates with
  | error raised => exact Or.inl ⟨raised, rfl⟩
  | ok found =>
    cases found with
    | some assembly => exact Or.inr ⟨assembly, rfl⟩
    | none =>
      unfold assembleChain at assembled
      obtain ⟨sorted, sortedOk, rest⟩ := bind_eq_ok.mp assembled
      obtain ⟨-, -, rfl⟩ := sortBundle_eq_ok.mp sortedOk
      obtain ⟨chain, chained, rest⟩ := bind_eq_ok.mp rest
      have fewer := List.length_filter_le (!isSelfSigned ·) intermediates
      rcases @orderChain_ends _ _ _ fuel leaf [] (intermediates.filter (!isSelfSigned ·))
        (by omega) with ⟨raised, refused⟩ | ⟨found, ended⟩
      · rw [refused] at chained
        cases chained
      · obtain rfl := Except.ok.inj (ended.symm.trans chained)
        obtain ⟨omittedRoot, -, returned⟩ := bind_eq_ok.mp rest
        cases returned

/-- An assembly for one order is the assembly for any other. -/
theorem assembleChain_arranged (arrangement : arranged.Perm intermediates)
    (assembled : assembleChain fuel now systemRoots leaf intermediates = .ok (some assembly)) :
    assembleChain fuel now systemRoots leaf arranged = .ok (some assembly) := by
  obtain ⟨admitted, distinct, current, ordered, omittedRoot, chained, closed, rfl⟩ :=
    assembleChain_eq_ok.mp assembled
  refine assembleChain_eq_ok.mpr ⟨fun certificate member => ?_, ?_, current, ordered, omittedRoot,
    ?_, ?_, ?_⟩
  · exact admitted certificate (arrangement.mem_iff.mp member)
  · exact ((arrangement.cons leaf).map CertificateReading.fingerprint).nodup_iff.mpr distinct
  · rw [orderChain_perm (arrangement.filter (!isSelfSigned ·)), chained]
  · rw [closingRoot_perm (arrangement.filter (isSelfSigned ·)), closed]
  · rw [arrangement.length_eq]

/-- The assembly of a chain ends, with an error or with a chain: the leaf and the other
certificates that are not self-signed, each once and issued by the next. For any other
order of the bundle it succeeds with the same result or fails as well. -/
theorem chain_assembled (enough : intermediates.length < fuel) :
    ((∃ raised, assembleChain fuel now systemRoots leaf intermediates = .error raised) ∨
      ∃ assembly, assembleChain fuel now systemRoots leaf intermediates = .ok (some assembly)) ∧
    (∀ assembly, assembleChain fuel now systemRoots leaf intermediates = .ok (some assembly) →
      (leaf :: assembly.ordered).IsChain
          (fun child issuer => verifyDirectlyIssued child issuer = true) ∧
        (leaf :: assembly.ordered).Nodup ∧
        assembly.ordered.Perm (intermediates.filter (!isSelfSigned ·)) ∧
        assembly.prepared.fullchainPem =
          String.join ((leaf :: assembly.ordered).map CertificateReading.publicBytes)) ∧
    ∀ arranged, arranged.Perm intermediates → ∀ assembly,
      assembleChain fuel now systemRoots leaf arranged = .ok (some assembly) ↔
        assembleChain fuel now systemRoots leaf intermediates = .ok (some assembly) := by
  refine ⟨assembleChain_ends enough, fun assembly assembled => ?_, fun arranged arrangement
    assembly => ⟨assembleChain_arranged arrangement.symm, assembleChain_arranged arrangement⟩⟩
  obtain ⟨-, distinct, current, ordered, omittedRoot, chained, -, rfl⟩ :=
    assembleChain_eq_ok.mp assembled
  obtain ⟨path, rfl, arrangement, links⟩ := orderChain_path chained
  have unrepeated : (leaf :: intermediates).Nodup := List.Nodup.of_map _ distinct
  obtain ⟨leafApart, bundle⟩ := List.nodup_cons.mp unrepeated
  refine ⟨links, List.nodup_cons.mpr ⟨fun member => ?_, ?_⟩, arrangement, rfl⟩
  · exact leafApart (List.mem_filter.mp (arrangement.mem_iff.mp member)).1
  · exact arrangement.nodup_iff.mpr (bundle.filter _)

end Assemblies

end Chains

section Sample

/-- Certificates are told apart by their content and every signature is good, for evaluation
at concrete inputs. -/
abbrev goodSignatures : CertificateReading String where
  fingerprint certificate := certificate.der
  signatureVerifies _ _ := true
  publicBytes certificate := certificate.der
  rfc4514String name := name
  isoformat _ := "instant"

attribute [local instance] goodSignatures

def sampleCertificate (subject issuer : String) : X509Certificate String :=
  ⟨subject, issuer, 0, 20, some true, [], subject⟩

/-- A root and two certificates below it, the upper one first. -/
def sampleBundle : List (X509Certificate String) :=
  [sampleCertificate "root" "root", sampleCertificate "upper" "root",
    sampleCertificate "lower" "upper"]

theorem sample_chain_assembled : ∃ assembly,
    assembleChain 4 10 [] (sampleCertificate "server" "lower") sampleBundle.reverse =
        .ok (some assembly) ∧
      assembly.ordered = [sampleCertificate "lower" "upper", sampleCertificate "upper" "root"] := by
  have ordered : (assembleChain 4 10 [] (sampleCertificate "server" "lower")
      sampleBundle).toOption.join.map Assembly.ordered =
        some [sampleCertificate "lower" "upper", sampleCertificate "upper" "root"] := by
    decide +kernel
  obtain ⟨ends, -, arranged⟩ := @chain_assembled String _ _ 10 [] (sampleCertificate "server" "lower")
    sampleBundle 4 (by decide)
  rcases ends with ⟨raised, refused⟩ | ⟨assembly, assembled⟩
  · rw [refused] at ordered
    cases ordered
  · rw [assembled] at ordered
    exact ⟨assembly, (arranged _ (List.reverse_perm _) assembly).mpr assembled,
      Option.some.inj ordered⟩

end Sample

end FinopsAnalytics.TlsChains
