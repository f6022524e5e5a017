import FinopsAnalytics.PythonText

/-!
# The HTTPS manager

Applying a configuration stores the certificate, loads a candidate into the proxy,
probes it and then replaces the persisted Caddyfile and the state file, with a rollback
at each stage. What happens at every point that can fail is an input: the replies of
the proxy, the result of the probe, and the step at which a write raises.
-/

namespace FinopsAnalytics.TlsManager

open PythonText

/-- What the service raises: its two exceptions with their messages, an error of the
operating system, or any other. -/
inductive TlsError where
  | validation (message : String)
  | operation (message : String)
  | os
  | other
deriving DecidableEq, Repr

structure CertificateMetadata where
  fingerprintSha256 : String
  issuer : String
  validFrom : String
  validUntil : String
  san : List String
  chainLength : Option ℕ
deriving DecidableEq, Repr

structure ChainSummary where
  status : String
  providedIntermediates : ℕ
  servedIntermediates : ℕ
  servedChainLength : ℕ
  rootOmitted : Bool
  rootSubject : Option String
  message : String
deriving DecidableEq, Repr

structure TrustSummary where
  status : String
  message : String
deriving DecidableEq, Repr

/-- What `_prepare_custom` makes of the material. -/
structure Prepared where
  certificate : CertificateMetadata
  chain : ChainSummary
  trust : TrustSummary
  fullchainPem : String
deriving DecidableEq, Repr

/-- The validation of domain and material, which touches no store. -/
class TlsValidation where
  normalizeDomain : String → Except TlsError String
  prepareCustom : (domain server intermediates privateKey : String) → Except TlsError Prepared

structure LocalTls where
  healthy : Bool
  trusted : Option Bool
  trustError : Option String
  certificate : Option CertificateMetadata
  message : String
deriving DecidableEq, Repr

structure TlsState where
  version : ℕ
  mode : String
  domain : String
  certificate : Option CertificateMetadata
  chain : Option ChainSummary
  trust : Option TrustSummary
  appliedAt : String
deriving DecidableEq, Repr

/-- `json.dumps` of a state, indented and with sorted keys. -/
class StateText where
  dumps : TlsState → String

/-- A directory of `certs` with its two files. -/
structure CertificateDirectory where
  reference : String
  fullchain : Option String
  privateKey : Option String
deriving DecidableEq, Repr

/-- The stores: the persisted Caddyfile, the state file, the certificate directories
and the configuration that runs in the proxy. -/
structure Stores where
  config : Option String
  state : Option String
  certs : List CertificateDirectory
  running : String
deriving DecidableEq, Repr

def Stores.Holds (stores : Stores) (reference : String) : Prop :=
  ∃ directory ∈ stores.certs, directory.reference = reference

instance (stores : Stores) (reference : String) : Decidable (stores.Holds reference) :=
  inferInstanceAs (Decidable (∃ directory ∈ stores.certs, directory.reference = reference))

/-- `_routes` -/
def routes (https : Bool) : String :=
  let headers := [
    "\t\t-Server",
    "\t\tX-Content-Type-Options \"nosniff\"",
    "\t\tX-Frame-Options \"DENY\"",
    "\t\tReferrer-Policy \"no-referrer\"",
    "\t\tPermissions-Policy \"camera=(), microphone=(), geolocation=()\"",
    "\t\tContent-Security-Policy \"frame-ancestors 'none'; base-uri 'self'; object-src 'none'\""] ++
    if https then ["\t\tStrict-Transport-Security \"max-age=31536000\""] else []
  "\theader \x7b\n" ++ "\n".intercalate headers ++ "\n\t\x7d\n\n\tencode zstd gzip\n\n" ++
    "\thandle /api/* \x7b\n\t\treverse_proxy api:8000\n\t\x7d\n\n" ++
    "\thandle /health \x7b\n\t\treverse_proxy api:8000\n\t\x7d\n\n" ++
    "\thandle \x7b\n\t\treverse_proxy web:3000\n\t\x7d"

/-- `baseline_caddyfile` -/
def baselineCaddyfile : String :=
  "\x7b\n\tauto_https off\n\tpersist_config off\n\tadmin 0.0.0.0:2019 \x7b\n" ++
    "\t\torigins http://api:8000\n\t\tenforce_origin\n\t\x7d\n\x7d\n\n:80 \x7b\n" ++
    routes false ++ "\n\x7d\n"

/-- The path of a certificate directory as the proxy sees it. -/
def certificatePath (reference : String) : String := "/config/deepops/certs/" ++ reference ++ "/"

/-- `managed_caddyfile`, for the certificate of a directory if there is one. -/
def managedCaddyfile (domain : String) (reference : Option String) : String :=
  let tlsLine := match reference with
    | none => ""
    | some reference =>
      "\n\ttls " ++ certificatePath reference ++ "fullchain.pem " ++ certificatePath reference ++
        "private-key.pem"
  "\x7b\n\tpersist_config off\n\tadmin 0.0.0.0:2019 \x7b\n\t\torigins http://api:8000\n" ++
    "\t\tenforce_origin\n\t\x7d\n\x7d\n\nhttp://proxy \x7b\n" ++ routes false ++
    "\n\x7d\n\nhttp://" ++ domain ++ " \x7b\n\tredir https://" ++ domain ++
    "\x7buri\x7d 308\n\x7d\n\nhttps://" ++ domain ++ " \x7b" ++ tlsLine ++ "\n" ++ routes true ++
    "\n\x7d\n"

/-- The steps of an atomic write. -/
inductive WriteStep where
  | makeParent
  | chmodParent
  | openTemporary
  | write
  | fsync
  | chmod
  | replace
  | fsyncDirectory
deriving DecidableEq, Repr

/-- `_atomic_write`, which raises at a step: whether it returns, and the file after it. -/
def atomicWrite (fault : Option WriteStep) (current : Option String) (data : String) :
    Bool × Option String :=
  match fault with
  | none => (true, some data)
  | some .fsyncDirectory => (false, some data)
  | some _ => (false, current)

/-- What the proxy does with a configuration, and what is heard of it: it takes it, it
refuses it, no answer arrives, or one that is not a reply. -/
inductive LoadReply where
  | accepted
  | refused
  | unanswered (taken : Bool)
  | broken (taken : Bool)
deriving DecidableEq, Repr

/-- Whether the proxy runs a configuration that was sent. -/
def LoadReply.taken : LoadReply → Bool
  | .accepted => true
  | .refused => false
  | .unanswered taken => taken
  | .broken taken => taken

/-- What `_load` raises. -/
def LoadReply.error : LoadReply → Option TlsError
  | .accepted => none
  | .refused => some (.operation "O Caddy recusou a configuração HTTPS.")
  | .unanswered _ => some (.operation "A API interna do Caddy está indisponível.")
  | .broken _ => some .other

/-- The stores after `_load`. -/
def load (reply : LoadReply) (caddyfile : String) (stores : Stores) : Stores :=
  if reply.taken then { stores with running := caddyfile } else stores

/-- How the probe of the local endpoint can fail. -/
inductive ProbeFailure where
  | unreachable
  | otherHostname
  | otherCertificate
  | untrusted
  | unvalidated
deriving DecidableEq, Repr

def ProbeFailure.message : ProbeFailure → String
  | .unreachable => "O endpoint TLS não pôde ser alcançado ou negociado."
  | .otherHostname => "O endpoint apresentou certificado para outro hostname."
  | .otherCertificate => "O endpoint apresentou um certificado diferente do esperado."
  | .untrusted => "O endpoint não apresentou uma cadeia confiável pelo sistema."
  | .unvalidated => "Não foi possível validar o TLS local."

/-- The result of `_wait_probe`: an answer, its own exception, or one that it does not
catch, such as that of a certificate that cannot be parsed. -/
inductive ProbeReply where
  | answers (localTls : LocalTls)
  | fails (failure : ProbeFailure)
  | raises
deriving DecidableEq, Repr

/-- Where the writing of certificate material raises. -/
inductive CertificateFault where
  | mkdir
  | chmod
  | fullchain (step : WriteStep)
  | privateKey (step : WriteStep)
deriving DecidableEq, Repr

/-- All that can happen during one call: what is raised before anything is changed, the
token of the new directory, the faults of the writes, the replies of the proxy to the
candidate and to the restored configuration, whether the new directory is removed when
it is discarded, which directories are left by the cleanup, and whether the final
status raises, as where a published endpoint shows a certificate that cannot be parsed. -/
structure Incidents where
  entry : Option TlsError
  token : String
  certificate : Option CertificateFault
  load : LoadReply
  probe : ProbeReply
  appliedAt : String
  configWrite : Option WriteStep
  stateWrite : Option WriteStep
  restore : Option WriteStep
  reload : LoadReply
  discarded : Bool
  cleanupLeft : List String
  statusRaises : Bool
deriving DecidableEq, Repr

/-- A validated request, with its material and private key in custom mode. -/
structure Attempt where
  mode : String
  domain : String
  custom : Option (Prepared × String)
deriving DecidableEq, Repr

/-- The arguments of `apply` -/
structure ApplyArguments where
  mode : String
  domain : String
  serverCertificatePem : String := ""
  intermediateChainPem : String := ""
  privateKeyPem : String := ""
deriving DecidableEq, Repr

/-- The validation at the begin of `apply`. -/
def validated [TlsValidation] (arguments : ApplyArguments) : Except TlsError Attempt := do
  let domain ← TlsValidation.normalizeDomain arguments.domain
  if arguments.mode = "custom" then
    let prepared ← TlsValidation.prepareCustom domain arguments.serverCertificatePem
      arguments.intermediateChainPem arguments.privateKeyPem
    return ⟨arguments.mode, domain, some (prepared, arguments.privateKeyPem)⟩
  else if arguments.mode = "automatic" then
    return ⟨arguments.mode, domain, none⟩
  else
    throw (.validation "Modo HTTPS inválido.")

section Certificates

variable [CaseMapping]

/-- The reference of the directory of a certificate. -/
def certificateReference (certificate : CertificateMetadata) (token : String) : String :=
  String.ofList ((CaseMapping.lower certificate.fingerprintSha256).toList.take 16) ++ "-" ++ token

/-- `_write_custom_files`: whether it returns, and the stores after it. -/
def writeCustomFiles (fault : Option CertificateFault) (reference fullchainPem privateKeyPem : String)
    (stores : Stores) : Bool × Stores :=
  let create (fullchain privateKey : Option String) : Stores :=
    { stores with certs := stores.certs ++ [⟨reference, fullchain, privateKey⟩] }
  if stores.Holds reference then (false, stores)
  else
    match fault with
    | some .mkdir => (false, stores)
    | some .chmod => (false, create none none)
    | some (.fullchain step) => (false, create (atomicWrite (some step) none fullchainPem).2 none)
    | some (.privateKey step) =>
      (false, create (some fullchainPem) (atomicWrite (some step) none privateKeyPem).2)
    | none => (true, create (some fullchainPem) (some privateKeyPem))

/-- The directory of an attempt, in custom mode. -/
def newReference (incidents : Incidents) (attempt : Attempt) : Option String :=
  attempt.custom.map fun material =>
    certificateReference material.1.certificate incidents.token

/-- The writing of the material, if there is any. -/
def storeCertificate (incidents : Incidents) (attempt : Attempt) (stores : Stores) :
    Bool × Stores :=
  match attempt.custom with
  | none => (true, stores)
  | some (prepared, privateKeyPem) =>
    writeCustomFiles incidents.certificate
      (certificateReference prepared.certificate incidents.token) prepared.fullchainPem
      privateKeyPem stores

/-- The Caddyfile that is loaded. -/
def candidateOf (incidents : Incidents) (attempt : Attempt) : String :=
  managedCaddyfile attempt.domain (newReference incidents attempt)

end Certificates

/-- `shutil.rmtree(custom_directory, ignore_errors=True)`, if there is a directory. -/
def discardCertificate (incidents : Incidents) (reference : Option String) (stores : Stores) :
    Stores :=
  match reference with
  | none => stores
  | some reference =>
    if incidents.discarded then
      { stores with certs := stores.certs.filter fun directory => directory.reference ≠ reference }
    else stores

/-- `_cleanup_certificates`, which may leave some directories. -/
def cleanupCertificates (incidents : Incidents) (keep : Option String) (stores : Stores) : Stores :=
  { stores with
    certs := stores.certs.filter fun directory =>
      some directory.reference = keep ∨ directory.reference ∈ incidents.cleanupLeft }

/-- `_restore_persisted`: whether it returns, and the file after it. Where there was no
file it is unlinked, and a fault of the last step is that of the directory. -/
def restorePersisted (fault : Option WriteStep) (previous current : Option String) :
    Bool × Option String :=
  match previous with
  | some data => atomicWrite fault current data
  | none =>
    match fault with
    | none => (true, none)
    | some .fsyncDirectory => (false, none)
    | some _ => (false, current)

/-- The configuration that a rollback loads. -/
def previousRuntime (previous : Option String) : String := previous.getD baselineCaddyfile

def verificationUnrestored : TlsError :=
  .operation "A verificação TLS local falhou e a restauração automática também falhou."

def persistenceUnrestored : TlsError :=
  .operation "A persistência falhou e a restauração automática também falhou."

/-- The certificate of the new state. -/
def stateCertificate (attempt : Attempt) (localTls : LocalTls) : Option CertificateMetadata :=
  match attempt.custom with
  | none => localTls.certificate
  | some (prepared, _) =>
    let certificate := localTls.certificate.getD prepared.certificate
    some { certificate with chainLength := prepared.certificate.chainLength }

/-- The new state. -/
def newState (incidents : Incidents) (attempt : Attempt) (localTls : LocalTls) : TlsState where
  version := 2
  mode := attempt.mode
  domain := attempt.domain
  certificate := stateCertificate attempt localTls
  chain := attempt.custom.map fun material => material.1.chain
  trust := attempt.custom.map fun material => material.1.trust
  appliedAt := incidents.appliedAt

section Apply

variable [StateText]

/-- The text of the new state file. -/
def stateText (incidents : Incidents) (attempt : Attempt) (localTls : LocalTls) : String :=
  StateText.dumps (newState incidents attempt localTls) ++ "\n"

/-- The two writes: whether both return, and the stores after them. -/
def persist (incidents : Incidents) (candidate text : String) (stores : Stores) : Bool × Stores :=
  match atomicWrite incidents.configWrite stores.config candidate with
  | (false, config) => (false, { stores with config })
  | (true, config) =>
    let (written, state) := atomicWrite incidents.stateWrite stores.state text
    (written, { stores with config, state })

/-- A call that raises an exception, or returns the arguments of its final status. -/
abbrev ApplyResult := Except TlsError (TlsState × LocalTls)

/-- The end of both handlers: the previous configuration is loaded, and the new
directory is discarded before the exception is raised. -/
def reloadPrevious (incidents : Incidents) (reference previous : Option String)
    (unrestored raised : TlsError) (stores : Stores) : ApplyResult × Stores :=
  let reloaded := load incidents.reload (previousRuntime previous) stores
  match incidents.reload.error with
  | some (.operation _) => (.error unrestored, reloaded)
  | some caught => (.error caught, reloaded)
  | none => (.error raised, discardCertificate incidents reference reloaded)

/-- The handler of a failed verification. -/
def restoreRuntime (incidents : Incidents) (reference previous : Option String)
    (failure : ProbeFailure) (stores : Stores) : ApplyResult × Stores :=
  reloadPrevious incidents reference previous verificationUnrestored (.operation failure.message)
    stores

/-- The handler of a failed persistence. -/
def restoreAll (incidents : Incidents) (reference previous : Option String) (stores : Stores) :
    ApplyResult × Stores :=
  match restorePersisted incidents.restore previous stores.config with
  | (false, config) => (.error .os, { stores with config })
  | (true, config) =>
    reloadPrevious incidents reference previous persistenceUnrestored
      (.operation "Não foi possível persistir a configuração; a anterior foi restaurada.")
      { stores with config }

/-- The rest of `apply` after the probe. -/
def persistAll (incidents : Incidents) (attempt : Attempt) (candidate : String)
    (reference previous : Option String) (localTls : LocalTls) (stores : Stores) :
    ApplyResult × Stores :=
  match persist incidents candidate (stateText incidents attempt localTls) stores with
  | (false, written) => restoreAll incidents reference previous written
  | (true, written) =>
    let cleaned := cleanupCertificates incidents reference written
    if incidents.statusRaises then (.error .other, cleaned)
    else (.ok (newState incidents attempt localTls, localTls), cleaned)

/-- The rest of `apply` after the candidate was made. -/
def loadCandidate (incidents : Incidents) (attempt : Attempt) (candidate : String)
    (reference previous : Option String) (stores : Stores) : ApplyResult × Stores :=
  let loaded := load incidents.load candidate stores
  match incidents.load.error with
  | some (.operation message) =>
    (.error (.operation message), discardCertificate incidents reference loaded)
  | some raised => (.error raised, loaded)
  | none =>
    match incidents.probe with
    | .raises => (.error .other, loaded)
    | .fails failure => restoreRuntime incidents reference previous failure loaded
    | .answers localTls =>
      persistAll incidents attempt candidate reference previous localTls loaded

variable [CaseMapping]

/-- `apply` of a validated request, under the lock. -/
def applyLocked (incidents : Incidents) (attempt : Attempt) (stores : Stores) :
    ApplyResult × Stores :=
  match storeCertificate incidents attempt stores with
  | (false, stored) =>
    (.error (.operation "Não foi possível armazenar o certificado com segurança."), stored)
  | (true, stored) =>
    loadCandidate incidents attempt (candidateOf incidents attempt)
      (newReference incidents attempt) stores.config stored

/-- `apply` -/
def apply [TlsValidation] (incidents : Incidents) (arguments : ApplyArguments) (stores : Stores) :
    ApplyResult × Stores :=
  match validated arguments with
  | .error raised => (.error raised, stores)
  | .ok attempt =>
    match incidents.entry with
    | some raised => (.error raised, stores)
    | none => applyLocked incidents attempt stores

end Apply

end FinopsAnalytics.TlsManager
