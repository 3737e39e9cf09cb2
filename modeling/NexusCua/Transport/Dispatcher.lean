import NexusCua.Foundation.Pool
import NexusCua.Foundation.Table
import NexusCua.Protocol.Command
import NexusCua.Runtime.Error

/-!
# The request dispatcher

Authentication, idempotent admission and replay of requests.  The ledger is
behind one mutex, so admission, completion and the reconciliation snapshot are
one block each.  `tokio::spawn` hands a future to the scheduler: spawned
executions wait in a queue of the shared state until a worker takes one.  A
watch channel holds the value its sender set last; the sender of a channel is
dropped only after it has sent.

The runtime behind the dispatcher is any system with a program for
`Runtime::execute`, run inside the dispatcher's blocks.
-/

namespace NexusCua.Transport

open NexusCua.Foundation NexusCua.Protocol
open NexusCua.Runtime (publicError)

structure Digest where
  bytes : List UInt8
  deriving DecidableEq, Repr

/-! ## Transport tokens -/

def minimumTokenBytes : Nat := 32

def maximumTokenBytes : Nat := 4 * 1024

structure TokenVerifier where
  digest : Digest
  deriving DecidableEq, Repr

def boundedToken (token : AuthorizationToken) : Bool :=
  minimumTokenBytes ≤ token.value.utf8ByteSize && token.value.utf8ByteSize ≤ maximumTokenBytes

def TokenVerifier.new (sha256 : String → Digest) (token : AuthorizationToken) :
    Option TokenVerifier :=
  if boundedToken token then some ⟨sha256 token.value⟩ else none

def TokenVerifier.accepts (sha256 : String → Digest) (verifier : TokenVerifier)
    (candidate : AuthorizationToken) : Bool :=
  boundedToken candidate && verifier.digest == sha256 candidate.value

/-! ## Configuration -/

/-- The bounds that `Dispatcher::new` accepts, and the digests it computes. -/
structure Dispatcher where
  sha256 : String → Digest
  commandDigest : Command → Option Digest
  token : TokenVerifier
  runtimeEpoch : String
  maxInflightRequests : Nat
  maxCompletedRequests : Nat
  completedRequestTtl : Nat
  maxRequestTimeoutMs : Nat
  maxInflightRequests_pos : 0 < maxInflightRequests
  maxCompletedRequests_pos : 0 < maxCompletedRequests
  completedRequestTtl_pos : 0 < completedRequestTtl
  maxRequestTimeoutMs_pos : 0 < maxRequestTimeoutMs

/-- Any runtime: its own tasks and environment, and the program of one command. -/
structure RuntimeModel (ρ ι ε κ ℓ : Type) where
  system : System ρ ι ε κ ℓ
  execute : Command → Async ρ ι ε Empty (Except CuaError CommandResult)

/-! ## The ledger -/

inductive RequestEntry where
  | pending (digest : Digest) (isMutation : Bool) (channel : Nat)
  | complete (digest : Digest) (isMutation : Bool) (response : ResponseEnvelope) (expiresAt : Nat)
  deriving DecidableEq, Repr

namespace RequestEntry

def digest : RequestEntry → Digest
  | .pending digest _ _ => digest
  | .complete digest _ _ _ => digest

def isMutation : RequestEntry → Bool
  | .pending _ isMutation _ => isMutation
  | .complete _ isMutation _ _ => isMutation

def isPending : RequestEntry → Bool
  | .pending .. => true
  | .complete .. => false

def expired (now : Nat) : RequestEntry → Bool
  | .pending .. => false
  | .complete _ _ _ expiresAt => expiresAt ≤ now

end RequestEntry

structure RequestLedger where
  entries : Table RequestId RequestEntry
  inflightRequests : Nat

def RequestLedger.purgeExpired (ledger : RequestLedger) (now : Nat) : RequestLedger :=
  { ledger with entries := ledger.entries.retain fun _ entry => !entry.expired now }

/--
The future of `spawn_execution`.  `channel` is the channel of the entry it was
admitted with; the future does not hold it, and it only names the admission here.
-/
structure Execution where
  requestId : RequestId
  digest : Digest
  command : Command
  channel : Nat
  deriving DecidableEq, Repr

structure DispatcherState (ρ : Type) where
  now : Nat
  ledger : RequestLedger
  channels : Table Nat (Option ResponseEnvelope)
  nextChannel : Nat
  spawned : List Execution
  runtime : ρ

def DispatcherState.purged {ρ : Type} (s : DispatcherState ρ) : DispatcherState ρ :=
  { s with ledger := s.ledger.purgeExpired s.now }

/-- `take` is the scheduler's choice among the spawned executions. -/
inductive DispatcherReply (ι : Type) where
  | none
  | take (index : Nat)
  | runtime (reply : ι)

inductive DispatcherEvent (ε : Type) where
  | admitted (execution : Execution)
  | joined (requestId : RequestId) (digest : Digest) (channel : Nat)
  | replayed (requestId : RequestId) (digest : Digest) (response : ResponseEnvelope)
  | refusedBusy (requestId : RequestId) (digest : Digest)
  | conflicted (requestId : RequestId) (digest : Digest)
  | spawned (execution : Execution)
  | executeCalled (execution : Execution)
  | executed (execution : Execution) (outcome : Except CuaError CommandResult)
  | completed (execution : Execution) (response : ResponseEnvelope)
  | observed (channel : Nat) (response : ResponseEnvelope)
  | responded (request : RequestEnvelope) (response : ResponseEnvelope)
  | snapshotTaken (requestId : RequestId) (entry : Option RequestEntry)
  | reconciled (requestId : RequestId) (outcome : Except CuaError MutationReconciliation)
  | runtime (event : ε)

def DispatcherEvent.runtime? {ε : Type} : DispatcherEvent ε → Option ε
  | .runtime event => some event
  | _ => none

/-! ## Responses -/

def failure (requestId : RequestId) (error : CuaError) : ResponseEnvelope :=
  ⟨protocolVersion, requestId, .error error⟩

def preAdmissionFailure (requestId : RequestId) (error : CuaError) (isMutation : Bool) :
    ResponseEnvelope :=
  failure requestId
    (error.withMutationStatus (if isMutation then .notDispatched else .notApplicable))

def deadlineExceeded (requestId : RequestId) (isMutation : Bool) : ResponseEnvelope :=
  failure requestId
    ((publicError .deadlineExceeded
      "request deadline elapsed; retry with the same request_id to reconcile" true
      (some "retry_same_request_id")).withMutationStatus
        (if isMutation then .indeterminate else .notApplicable))

def requestBusy : CuaError :=
  publicError .busy "in-flight request capacity is exhausted" true (some "retry_after_capacity")

def requestConflict : CuaError :=
  publicError .invalidRequest "request_id was already used for a different command" false
    (some "use_fresh_request_id")

def responseOf (execution : Execution) (outcome : Except CuaError CommandResult) :
    ResponseEnvelope where
  protocolVersion := protocolVersion
  requestId := execution.requestId
  outcome := match outcome with
    | .ok result => .success result
    | .error error => .error error

/-! ## Validation -/

def requestIdBytes : Nat := 128

def validRequestId (requestId : RequestId) : Bool :=
  !requestId.value.isEmpty && decide (requestId.value.utf8ByteSize ≤ requestIdBytes) &&
    requestId.value.toList.all fun c =>
      c.isAlphanum || c == '-' || c == '_' || c == '.' || c == ':'

namespace Dispatcher

variable {ρ ι ε κ ℓ : Type}

def validateRequest (dispatcher : Dispatcher) (request : RequestEnvelope) :
    Except CuaError Digest :=
  if request.protocolVersion ≠ protocolVersion then
    .error (publicError .protocolMismatch "unsupported protocol version" false
      (some "negotiate_protocol_version"))
  else if !dispatcher.token.accepts dispatcher.sha256 request.authorization then
    .error (publicError .unauthorized "invalid local transport authorization" false none)
  else if !validRequestId request.requestId then
    .error (publicError .invalidRequest "request_id is empty, too long, or not normalized" false
      (some "use_fresh_request_id"))
  else if request.timeoutMs = 0 ∨ dispatcher.maxRequestTimeoutMs < request.timeoutMs then
    .error (publicError .invalidRequest "timeout_ms is outside the configured bound" false
      (some "use_bounded_timeout"))
  else
    match dispatcher.commandDigest request.command with
    | none => .error (publicError .internal "failed to compute request identity" false none)
    | some digest => .ok digest

end Dispatcher

abbrev DispatcherProgram (ρ ι ε χ : Type) :=
  Async (DispatcherState ρ) (DispatcherReply ι) (DispatcherEvent ε) χ

namespace Dispatcher

variable {ρ ι ε κ ℓ χ : Type} (dispatcher : Dispatcher)

/-! ## Admission -/

inductive BeginRequest where
  | execute (execution : Execution)
  | replay (response : ResponseEnvelope)
  | wait (channel : Nat)
  | busy
  | conflict
  deriving DecidableEq, Repr

def decideRequest (ledger : RequestLedger) (requestId : RequestId) (digest : Digest)
    (command : Command) (channel : Nat) : BeginRequest :=
  match ledger.entries.lookup requestId with
  | some (.pending existing _ response) => if existing = digest then .wait response else .conflict
  | some (.complete existing _ response _) =>
      if existing = digest then .replay response else .conflict
  | none =>
      if dispatcher.maxInflightRequests ≤ ledger.inflightRequests then .busy
      else if dispatcher.maxCompletedRequests ≤ ledger.entries.size then .busy
      else .execute ⟨requestId, digest, command, channel⟩

def insertPending (s : DispatcherState ρ) (execution : Execution) : DispatcherState ρ :=
  { s with
    ledger :=
      { entries := s.ledger.entries.insert execution.requestId
          (.pending execution.digest execution.command.isMutation execution.channel)
        inflightRequests := s.ledger.inflightRequests + 1 }
    channels := s.channels.insert execution.channel none
    nextChannel := s.nextChannel + 1 }

/-- The new state, the event and the value of a decision made on the purged state `s`. -/
def enact (s : DispatcherState ρ) (requestId : RequestId) (digest : Digest) :
    BeginRequest → DispatcherState ρ × List (DispatcherEvent ε) × BeginRequest
  | .execute execution => (insertPending s execution, [.admitted execution], .execute execution)
  | .replay response => (s, [.replayed requestId digest response], .replay response)
  | .wait channel => (s, [.joined requestId digest channel], .wait channel)
  | .busy => (s, [.refusedBusy requestId digest], .busy)
  | .conflict => (s, [.conflicted requestId digest], .conflict)

def beginRequest (requestId : RequestId) (digest : Digest) (command : Command) :
    DispatcherProgram ρ ι ε χ BeginRequest :=
  Async.atomic fun _ s =>
    let s := s.purged
    some (enact s requestId digest
      (dispatcher.decideRequest s.ledger requestId digest command s.nextChannel))

/-! ## Execution -/

def spawnExecution (execution : Execution) : DispatcherProgram ρ ι ε χ Unit :=
  Async.atomic fun _ s =>
    some ({ s with spawned := s.spawned ++ [execution] }, [.spawned execution], ())

def runtimeEmbedding :
    Async.Embedding ρ ι ε (DispatcherState ρ) (DispatcherReply ι) (DispatcherEvent ε) where
  look s := some s.runtime
  put runtime s := { s with runtime := runtime }
  reply
    | .runtime reply => some reply
    | _ => none
  event := .runtime
  project := DispatcherEvent.runtime?
  project_event _ := rfl

/-- Record the response; a pending entry gives back its place and wakes its waiters. -/
def record (s : DispatcherState ρ) (execution : Execution) (response : ResponseEnvelope) :
    DispatcherState ρ :=
  let s := match s.ledger.entries.lookup execution.requestId with
    | some (.pending _ _ channel) =>
        { s with
          ledger := { s.ledger with inflightRequests := s.ledger.inflightRequests - 1 }
          channels := s.channels.insert channel (some response) }
    | _ => s
  { s with ledger := { s.ledger with
    entries := (s.ledger.entries.erase execution.requestId).insert execution.requestId
      (.complete execution.digest execution.command.isMutation response
        (s.now + dispatcher.completedRequestTtl)) } }

def completeRequest (execution : Execution) (response : ResponseEnvelope) :
    DispatcherProgram ρ ι ε χ Unit :=
  Async.atomic fun _ s =>
    some (dispatcher.record s execution response, [.completed execution response], ())

/-- A scheduler worker that takes one spawned execution and runs it to its end. -/
def executionTask (runtime : RuntimeModel ρ ι ε κ ℓ) : DispatcherProgram ρ ι ε Empty Unit := do
  let execution ← Async.atomic fun reply s =>
    match reply with
    | .take index =>
        match s.spawned[index]? with
        | none => none
        | some execution =>
            some ({ s with spawned := s.spawned.eraseIdx index },
              [.executeCalled execution], execution)
    | _ => none
  let outcome ← (runtime.execute execution.command).embed runtimeEmbedding
  Async.report (.executed execution outcome)
  dispatcher.completeRequest execution (responseOf execution outcome)

/-! ## Waiting -/

def waitForResponse (channel deadline : Nat) :
    DispatcherProgram ρ ι ε χ (Option ResponseEnvelope) := do
  let current ← Async.atomic fun _ s =>
    match s.channels.lookup channel with
    | none => none
    | some none => some (s, [], none)
    | some (some response) => some (s, [.observed channel response], some response)
  match current with
  | some response => pure (some response)
  | none =>
      Async.atomic fun _ s =>
        match s.channels.lookup channel with
        | none => none
        | some (some response) => some (s, [.observed channel response], some response)
        | some none => if deadline ≤ s.now then some (s, [], none) else none

def awaitResponse (channel deadline : Nat) (requestId : RequestId) (isMutation : Bool) :
    DispatcherProgram ρ ι ε χ ResponseEnvelope := do
  let response ← waitForResponse channel deadline
  pure (response.getD (deadlineExceeded requestId isMutation))

def resolveRequest (outcome : BeginRequest) (requestId : RequestId) (deadline : Nat)
    (isMutation : Bool) : DispatcherProgram ρ ι ε χ ResponseEnvelope :=
  match outcome with
  | .execute execution => do
      spawnExecution execution
      awaitResponse execution.channel deadline requestId isMutation
  | .replay response => pure response
  | .wait channel => awaitResponse channel deadline requestId isMutation
  | .busy => pure (preAdmissionFailure requestId requestBusy isMutation)
  | .conflict => pure (preAdmissionFailure requestId requestConflict isMutation)

/-! ## Reconciliation -/

def reconciliation (requestId : RequestId) (admission : MutationAdmission)
    (disposition : MutationDisposition) : MutationReconciliation where
  requestId := requestId
  runtimeEpoch := dispatcher.runtimeEpoch
  workerEpoch := none
  admission := admission
  disposition := disposition
  dispatched := none
  effectStatus := none
  evidenceKind := none
  errorCode := none
  freshObservationRequired := false

def dispositionOf : MutationStatus → MutationDisposition
  | .notDispatched => .notDispatched
  | .indeterminate => .indeterminate
  | .notApplicable => .notMutation

def reconciliationFromResponse (response : ResponseEnvelope) : MutationReconciliation :=
  let result := dispatcher.reconciliation response.requestId .admitted .succeeded
  match response.outcome with
  | .success (.actionPerformed output) =>
      { result with
        dispatched := some output.dispatched
        effectStatus := some output.effectStatus
        evidenceKind := some output.evidenceKind
        freshObservationRequired := output.observationInvalidated }
  | .success (.clipboardWritten output) =>
      { result with
        dispatched := some output.dispatched
        effectStatus := some output.effectStatus
        evidenceKind := some output.evidenceKind }
  | .success (.applicationLaunched output) =>
      { result with
        dispatched := some output.dispatched
        freshObservationRequired := true }
  | .success _ => { result with disposition := .notMutation }
  | .error error =>
      { result with
        disposition := dispositionOf error.mutationStatus
        errorCode := some error.code
        freshObservationRequired := error.mutationStatus = .indeterminate }

def reconcileSnapshot (requestId : RequestId) (wait : Nat) :
    Option RequestEntry → DispatcherProgram ρ ι ε CuaError MutationReconciliation
  | none => pure (dispatcher.reconciliation requestId .unknown .unknown)
  | some (.pending _ false _) => pure (dispatcher.reconciliation requestId .admitted .notMutation)
  | some (.complete _ false _ _) =>
      pure (dispatcher.reconciliation requestId .admitted .notMutation)
  | some (.pending _ true channel) => do
      let now ← Async.read DispatcherState.now
      let response ← waitForResponse channel (now + wait)
      match response with
      | some response => pure (dispatcher.reconciliationFromResponse response)
      | none => pure (dispatcher.reconciliation requestId .admitted .pending)
  | some (.complete _ true response _) => pure (dispatcher.reconciliationFromResponse response)

def reconcileMutation (requestId : RequestId) (wait : Nat) :
    DispatcherProgram ρ ι ε CuaError MutationReconciliation :=
  if !validRequestId requestId ∨ dispatcher.maxRequestTimeoutMs * millisecond < wait then
    .fail (publicError .invalidRequest
      "reconciliation request_id or wait is outside the configured bound" false
      (some "fix_reconciliation_request"))
  else do
    let snapshot ← Async.atomic fun _ s =>
      let s := s.purged
      let snapshot := s.ledger.entries.lookup requestId
      some (s, [.snapshotTaken requestId snapshot], snapshot)
    dispatcher.reconcileSnapshot requestId wait snapshot

/-! ## Dispatch -/

def reconcileResponse (requestId : RequestId) :
    Except CuaError MutationReconciliation → ResponseEnvelope
  | .ok result => ⟨protocolVersion, requestId, .success (.mutationReconciled result)⟩
  | .error error => failure requestId error

def dispatchReconcile (requestId : RequestId) (input : ReconcileMutationInput) :
    DispatcherProgram ρ ι ε χ ResponseEnvelope :=
  if !validRequestId input.requestId ∨ dispatcher.maxRequestTimeoutMs < input.waitMs then
    pure (reconcileResponse requestId (.error (publicError .invalidRequest
      "reconciliation request_id or wait_ms is outside the configured bound" false
      (some "fix_reconciliation_request"))))
  else do
    let outcome ←
      (dispatcher.reconcileMutation input.requestId (input.waitMs * millisecond)).attempt
    pure (reconcileResponse requestId outcome)

def dispatchAdmitted (request : RequestEnvelope) (digest : Digest) :
    DispatcherProgram ρ ι ε χ ResponseEnvelope := do
  let now ← Async.read DispatcherState.now
  let outcome ← dispatcher.beginRequest request.requestId digest request.command
  resolveRequest outcome request.requestId (now + request.timeoutMs * millisecond)
    request.command.isMutation

def dispatch (request : RequestEnvelope) : DispatcherProgram ρ ι ε χ ResponseEnvelope :=
  match dispatcher.validateRequest request with
  | .error error =>
      pure (preAdmissionFailure request.requestId error request.command.isMutation)
  | .ok digest =>
      match request.command with
      | .reconcileMutation input => dispatcher.dispatchReconcile request.requestId input
      | _ => dispatcher.dispatchAdmitted request digest

end Dispatcher

/-! ## The dispatcher as a system -/

/-- `runtime` are the runtime's own tasks, which other hosts and timers start. -/
inductive DispatcherCall (κ : Type) where
  | dispatch (request : RequestEnvelope)
  | reconcileMutation (requestId : RequestId) (wait : Nat)
  | worker
  | runtime (command : κ)

inductive DispatcherLabel (ℓ : Type) where
  | elapsed (duration : Nat)
  | runtime (label : ℓ)

section System

variable {ρ ι ε κ ℓ : Type}

def DispatcherCall.program (dispatcher : Dispatcher) (runtime : RuntimeModel ρ ι ε κ ℓ) :
    DispatcherCall κ → DispatcherProgram ρ ι ε Empty Unit
  | .dispatch request => do
      let response ← dispatcher.dispatch request
      Async.report (.responded request response)
  | .reconcileMutation requestId wait => do
      let outcome ← (dispatcher.reconcileMutation requestId wait).attempt
      Async.report (.reconciled requestId outcome)
  | .worker => dispatcher.executionTask runtime
  | .runtime command => (runtime.system.program command).embed Dispatcher.runtimeEmbedding

def DispatcherState.initial (now : Nat) (runtime : ρ) : DispatcherState ρ where
  now := now
  ledger := ⟨∅, 0⟩
  channels := ∅
  nextChannel := 0
  spawned := []
  runtime := runtime

def dispatcherSystem (dispatcher : Dispatcher) (runtime : RuntimeModel ρ ι ε κ ℓ) :
    System (DispatcherState ρ) (DispatcherReply ι) (DispatcherEvent ε) (DispatcherCall κ)
      (DispatcherLabel ℓ) where
  init s := ∃ now r, runtime.system.init r ∧ s = .initial now r
  program := DispatcherCall.program dispatcher runtime
  environment
    | .elapsed duration, s => some { s with now := s.now + duration }
    | .runtime label, s => (runtime.system.environment label s.runtime).map fun r =>
        { s with runtime := r }

end System

end NexusCua.Transport
