import NexusCua.Foundation.Pool
import NexusCua.Host.Registry
import NexusCua.Protocol.Command

/-!
# The worker gateway

The authenticated gateway above the worker registry: remote commands bound to
one lease and epoch, and the artifact tickets that stand for the screenshots of
a worker.  The registry and the tickets are behind one mutex each, so a block
is one critical section; a worker's answer arrives in a block of its own.
-/

namespace NexusCua.Host

open NexusCua.Foundation NexusCua.Protocol

def gatewayProtocolVersion : String := "nexus.cua.gateway.v1"

def maxRequestIdBytes : Nat := 128

def minTokenBytes : Nat := 32

def maxTokenBytes : Nat := 4 * 1024

/-! ## Wire types -/

structure GatewayExecuteRequest where
  protocolVersion : String
  requestId : RequestId
  timeoutMs : Nat
  authorization : AuthorizationToken
  leaseId : WorkerLeaseId
  workerEpoch : WorkerEpoch
  command : Command
  deriving DecidableEq, Repr

structure GatewayArtifactRequest where
  protocolVersion : String
  authorization : AuthorizationToken
  leaseId : WorkerLeaseId
  workerEpoch : WorkerEpoch
  ticketRef : String
  deriving DecidableEq, Repr

structure RemoteScreenshotArtifact where
  artifactRef : ArtifactRef
  ticketRef : String
  mimeType : String
  pixelSize : PixelSize
  byteLength : Nat
  sha256 : String
  deriving DecidableEq, Repr

structure RemoteWindowObservation where
  observationId : ObservationId
  windowRef : WindowRef
  capturedAt : String
  windowScreenBounds : ScreenRect
  screenshot : Option RemoteScreenshotArtifact
  elements : List AccessibilityElement
  elementsComplete : Bool
  elementsTruncation : Option ObservationTruncation
  deriving DecidableEq, Repr

inductive GatewayResult where
  | core (result : CommandResult)
  | windowObserved (observation : RemoteWindowObservation)
  deriving DecidableEq, Repr

inductive GatewayOutcome where
  | success (result : GatewayResult)
  | error (error : CuaError)
  deriving DecidableEq, Repr

def GatewayOutcome.ofExcept : Except CuaError GatewayResult → GatewayOutcome
  | .ok result => .success result
  | .error failure => .error failure

structure GatewayExecuteResponse where
  protocolVersion : String
  requestId : RequestId
  workerId : Option WorkerId
  workerEpoch : Option WorkerEpoch
  outcome : GatewayOutcome
  deriving DecidableEq, Repr

structure GatewayArtifactResponse where
  artifactRef : ArtifactRef
  mimeType : String
  byteLength : Nat
  sha256 : String
  dataBase64 : String
  deriving DecidableEq, Repr

/-! ## Configuration -/

structure WorkerGatewayConfig where
  maxInflightRequests : Nat
  maxArtifactTickets : Nat
  artifactTicketTtl : Nat
  maxArtifactBytes : Nat
  maxRequestTimeoutMs : Nat
  deriving DecidableEq, Repr

def WorkerGatewayConfig.default : WorkerGatewayConfig where
  maxInflightRequests := 64
  maxArtifactTickets := 256
  artifactTicketTtl := 5 * 60 * 1000000000
  maxArtifactBytes := 16 * 1024 * 1024
  maxRequestTimeoutMs := 120000

structure TokenVerifier where
  token : String
  bounded : minTokenBytes ≤ token.utf8ByteSize ∧ token.utf8ByteSize ≤ maxTokenBytes

namespace TokenVerifier

def new (token : AuthorizationToken) : Option TokenVerifier :=
  if h : minTokenBytes ≤ token.value.utf8ByteSize ∧ token.value.utf8ByteSize ≤ maxTokenBytes then
    some ⟨token.value, h⟩
  else none

def accepts (verifier : TokenVerifier) (candidate : AuthorizationToken) : Bool :=
  candidate.value == verifier.token

end TokenVerifier

/-- A gateway that `WorkerGateway::new` accepts, and the outside code it calls. -/
structure WorkerGateway where
  registry : WorkerRegistryConfig
  config : WorkerGatewayConfig
  token : TokenVerifier
  uuids : UuidSource
  encodeBase64 : List UInt8 → String
  maxInflightRequests_pos : 0 < config.maxInflightRequests
  maxArtifactTickets_pos : 0 < config.maxArtifactTickets
  artifactTicketTtl_pos : 0 < config.artifactTicketTtl
  maxArtifactBytes_pos : 0 < config.maxArtifactBytes
  maxRequestTimeoutMs_pos : 0 < config.maxRequestTimeoutMs

/-! ## Failures -/

inductive GatewayFailure where
  | protocol
  | unauthorized
  | invalid
  | busy
  | staleArtifact
  | worker (error : WorkerError)
  deriving DecidableEq, Repr

def gatewayError (failure : GatewayFailure) (mutation : Bool) : CuaError :=
  let error (code : ErrorCode) (message : String) (retryable : Bool)
      (recovery : Option String) : CuaError :=
    ⟨code, message, retryable, recovery, if mutation then .notDispatched else .notApplicable⟩
  match failure with
  | .protocol =>
      error .protocolMismatch "unsupported worker gateway protocol" false
        (some "negotiate_gateway_protocol")
  | .unauthorized => error .unauthorized "invalid worker gateway authorization" false none
  | .invalid => error .invalidRequest "worker gateway request is invalid" false none
  | .busy | .worker .busy =>
      error .busy "worker gateway capacity is busy" true (some "retry_after_capacity")
  | .staleArtifact =>
      error .referenceNotFound "remote screenshot artifact is stale" false
        (some "observe_window_again")
  | .worker .staleLease =>
      error .sessionUnavailable "desktop worker lease or epoch is stale" false
        (some "acquire_worker_lease")
  | .worker _ =>
      error .internal "desktop worker registry is unavailable" true
        (some "retry_after_worker_recovery")

/-! ## State -/

structure ArtifactTicket where
  leaseId : WorkerLeaseId
  workerEpoch : WorkerEpoch
  artifact : ScreenshotArtifact
  expiresAt : Nat
  deriving DecidableEq, Repr

/-- `permits` are the free in-flight permits, `issued` the identifiers drawn so far. -/
structure GatewayState where
  now : Nat
  issued : Nat
  registry : RegistryState
  permits : Nat
  tickets : Table String ArtifactTicket

inductive GatewayReply where
  | none
  | workerAnswered (response : ResponseEnvelope)
  | artifactRead (outcome : Except CuaError (List UInt8))
  | wallClock (expiresAt : Option String)

inductive GatewayEvent where
  | executeAdmitted (request : GatewayExecuteRequest)
  | fetchAdmitted (request : GatewayArtifactRequest)
  | resolved (leaseId : WorkerLeaseId) (epoch : WorkerEpoch) (lease : WorkerLease)
      (worker : DesktopWorker)
  | dispatched (worker : DesktopWorker) (requestId : RequestId) (timeoutMs : Nat)
      (command : Command)
  | answered (response : ResponseEnvelope)
  | minted (ticketRef : String) (ticket : ArtifactTicket)
  | ticketRead (ticketRef : String) (ticket : ArtifactTicket)
  | artifactRequested (worker : DesktopWorker) (artifact : ScreenshotArtifact)
  | responded (request : GatewayExecuteRequest) (response : GatewayExecuteResponse)
  | fetched (request : GatewayArtifactRequest)
      (outcome : Except CuaError GatewayArtifactResponse)

abbrev GatewayProgram (χ : Type) := Async GatewayState GatewayReply GatewayEvent χ

def purgeTickets (tickets : Table String ArtifactTicket) (now : Nat) :
    Table String ArtifactTicket :=
  tickets.retain fun _ ticket => decide (now < ticket.expiresAt)

/-! ## Projection -/

def RemoteScreenshotArtifact.project (artifact : ScreenshotArtifact) (ticketRef : String) :
    RemoteScreenshotArtifact where
  artifactRef := artifact.artifactRef
  ticketRef := ticketRef
  mimeType := artifact.mimeType
  pixelSize := artifact.mapping.pixelSize
  byteLength := artifact.byteLength
  sha256 := artifact.sha256

def RemoteWindowObservation.project (observation : WindowObservation)
    (screenshot : Option RemoteScreenshotArtifact) : RemoteWindowObservation where
  observationId := observation.observationId
  windowRef := observation.windowRef
  capturedAt := observation.capturedAt
  windowScreenBounds := observation.windowScreenBounds
  screenshot := screenshot
  elements := observation.elements
  elementsComplete := observation.elementsComplete
  elementsTruncation := observation.elementsTruncation

namespace WorkerGateway

variable (gateway : WorkerGateway)

def mintTicket (leaseId : WorkerLeaseId) (workerEpoch : WorkerEpoch)
    (artifact : ScreenshotArtifact) : GatewayProgram CuaError RemoteScreenshotArtifact :=
  if artifact.byteLength = 0 ∨ gateway.config.maxArtifactBytes < artifact.byteLength then
    .fail (gatewayError .staleArtifact false)
  else do
    let ticketRef ← Async.atomic fun _ s =>
      let tickets := purgeTickets s.tickets s.now
      if gateway.config.maxArtifactTickets ≤ tickets.size then
        some ({ s with tickets := tickets }, [], Except.error (gatewayError .busy false))
      else
        let ticketRef := gateway.uuids.issue "ticket" s.issued
        let ticket : ArtifactTicket :=
          ⟨leaseId, workerEpoch, artifact, s.now + gateway.config.artifactTicketTtl⟩
        some ({ s with issued := s.issued + 1, tickets := tickets.insert ticketRef ticket },
          [.minted ticketRef ticket], Except.ok ticketRef)
    match ticketRef with
    | .error error => .fail error
    | .ok ticketRef => pure (.project artifact ticketRef)

def projectResult (leaseId : WorkerLeaseId) (workerEpoch : WorkerEpoch) :
    CommandResult → GatewayProgram CuaError GatewayResult
  | .mutationReconciled reconciliation =>
      pure (.core (.mutationReconciled
        { reconciliation with workerEpoch := some workerEpoch.value }))
  | .windowObserved observation =>
      match observation.screenshot with
      | none => pure (.windowObserved (.project observation none))
      | some artifact => do
          let remote ← gateway.mintTicket leaseId workerEpoch artifact
          pure (.windowObserved (.project observation (some remote)))
  | other => pure (.core other)

/-! ## Execute -/

/-- Takes an in-flight permit and reports `admission`, unless there is none. -/
def tryAcquire {χ : Type} (admission : GatewayEvent) : GatewayProgram χ Bool :=
  Async.atomic fun _ s =>
    if s.permits = 0 then some (s, [], false)
    else some ({ s with permits := s.permits - 1 }, [admission], true)

def releasePermit {χ : Type} : GatewayProgram χ Unit :=
  Async.update fun s => ({ s with permits := s.permits + 1 }, ())

def resolve {χ : Type} (leaseId : WorkerLeaseId) (epoch : WorkerEpoch) :
    GatewayProgram χ (Except WorkerError (WorkerLease × DesktopWorker)) :=
  Async.atomic fun _ s =>
    let resolved := s.registry.resolve leaseId epoch s.now
    let events := match resolved.2 with
      | .error _ => []
      | .ok (lease, worker) => [.resolved leaseId epoch lease worker]
    some ({ s with registry := resolved.1 }, events, resolved.2)

def dispatch (worker : DesktopWorker) (request : GatewayExecuteRequest) :
    GatewayProgram Empty ResponseEnvelope := do
  Async.report (.dispatched worker request.requestId request.timeoutMs request.command)
  Async.atomic fun reply s =>
    match reply with
    | .workerAnswered response => some (s, [.answered response], response)
    | _ => none

def failure (request : GatewayExecuteRequest) (failure : GatewayFailure) :
    GatewayExecuteResponse where
  protocolVersion := gatewayProtocolVersion
  requestId := request.requestId
  workerId := none
  workerEpoch := none
  outcome := .error (gatewayError failure request.command.isMutation)

def projectOutcome (lease : WorkerLease) : ResponseOutcome → GatewayProgram Empty GatewayOutcome
  | .error error => pure (.error error)
  | .success result => do
      let projected ← (gateway.projectResult lease.leaseId lease.workerEpoch result).attempt
      pure (.ofExcept projected)

def executeAdmitted (request : GatewayExecuteRequest) :
    GatewayProgram Empty GatewayExecuteResponse := do
  let resolved ← resolve request.leaseId request.workerEpoch
  match resolved with
  | .error error => pure (failure request (.worker error))
  | .ok (lease, worker) => do
      let response ← dispatch worker request
      let outcome ← gateway.projectOutcome lease response.outcome
      pure
        { protocolVersion := gatewayProtocolVersion
          requestId := response.requestId
          workerId := some lease.workerId
          workerEpoch := some lease.workerEpoch
          outcome := outcome }

def execute (request : GatewayExecuteRequest) : GatewayProgram Empty GatewayExecuteResponse :=
  if request.protocolVersion ≠ gatewayProtocolVersion then pure (failure request .protocol)
  else if !gateway.token.accepts request.authorization then pure (failure request .unauthorized)
  else if request.requestId.value.isEmpty ∨
      maxRequestIdBytes < request.requestId.value.utf8ByteSize ∨
      !isTrimmed request.requestId.value ∨ request.timeoutMs = 0 ∨
      gateway.config.maxRequestTimeoutMs < request.timeoutMs then
    pure (failure request .invalid)
  else do
    let admitted ← tryAcquire (.executeAdmitted request)
    if admitted then do
      let response ← gateway.executeAdmitted request
      releasePermit
      pure response
    else pure (failure request .busy)

/-! ## Fetching artifacts -/

def takeTicket (request : GatewayArtifactRequest) : GatewayProgram CuaError ScreenshotArtifact := do
  let artifact ← Async.atomic fun _ s =>
    let tickets := purgeTickets s.tickets s.now
    match tickets.lookup request.ticketRef with
    | none =>
        some ({ s with tickets := tickets }, [], Except.error (gatewayError .staleArtifact false))
    | some ticket =>
        some ({ s with tickets := tickets }, [.ticketRead request.ticketRef ticket],
          if ticket.leaseId = request.leaseId ∧ ticket.workerEpoch = request.workerEpoch then
            Except.ok ticket.artifact
          else Except.error (gatewayError .staleArtifact false))
  Async.ofExcept artifact

def readArtifact (worker : DesktopWorker) (artifact : ScreenshotArtifact) :
    GatewayProgram CuaError (List UInt8) := do
  Async.report (.artifactRequested worker artifact)
  let bytes ← Async.receive fun
    | .artifactRead outcome => some outcome
    | _ => none
  Async.ofExcept bytes

def fetchAdmitted (request : GatewayArtifactRequest) :
    GatewayProgram CuaError GatewayArtifactResponse := do
  let resolved ← resolve request.leaseId request.workerEpoch
  match resolved with
  | .error error => .fail (gatewayError (.worker error) false)
  | .ok (_, worker) => do
      let artifact ← takeTicket request
      let bytes ← readArtifact worker artifact
      pure
        { artifactRef := artifact.artifactRef
          mimeType := artifact.mimeType
          byteLength := artifact.byteLength
          sha256 := artifact.sha256
          dataBase64 := gateway.encodeBase64 bytes }

def fetchArtifact (request : GatewayArtifactRequest) :
    GatewayProgram CuaError GatewayArtifactResponse :=
  if request.protocolVersion ≠ gatewayProtocolVersion then .fail (gatewayError .protocol false)
  else if !gateway.token.accepts request.authorization then
    .fail (gatewayError .unauthorized false)
  else do
    let admitted ← tryAcquire (.fetchAdmitted request)
    if admitted then do
      let outcome ← (gateway.fetchAdmitted request).attempt
      releasePermit
      Async.ofExcept outcome
    else .fail (gatewayError .busy false)

end WorkerGateway

/-! ## The gateway as a system -/

inductive GatewayCall where
  | execute (request : GatewayExecuteRequest)
  | fetchArtifact (request : GatewayArtifactRequest)
  | registry (call : RegistryCall)
  deriving DecidableEq, Repr

def registryTask (gateway : WorkerGateway) (call : RegistryCall) : GatewayProgram Empty Unit :=
  Async.atomic fun reply s =>
    let wallClock := match reply with
      | .wallClock expiresAt => expiresAt
      | _ => none
    some ({ s with
      issued := s.issued + 2
      registry := call.apply gateway.registry gateway.uuids s.now s.issued wallClock s.registry },
      [], ())

def GatewayCall.program (gateway : WorkerGateway) : GatewayCall → GatewayProgram Empty Unit
  | .execute request => do
      let response ← gateway.execute request
      Async.report (.responded request response)
  | .fetchArtifact request => do
      let outcome ← (gateway.fetchArtifact request).attempt
      Async.report (.fetched request outcome)
  | .registry call => registryTask gateway call

def GatewayState.initial (gateway : WorkerGateway) (now : Nat) : GatewayState where
  now := now
  issued := 0
  registry := .empty
  permits := gateway.config.maxInflightRequests
  tickets := ∅

def gatewaySystem (gateway : WorkerGateway) :
    System GatewayState GatewayReply GatewayEvent GatewayCall Nat where
  init s := ∃ now, s = .initial gateway now
  program := GatewayCall.program gateway
  environment elapsed s := some { s with now := s.now + elapsed }

end NexusCua.Host
