import NexusCua.Foundation.Pool
import NexusCua.Transport.Idempotence

/-!
# The clients and one mutation request

The Go, TypeScript and Python clients keep a request object for each mutation:
its identity, whether it is complete or past the reconciliation horizon, and the
longest wait asked for so far.  The first call and every reconciliation go
through the same wait, which checks the object, sends one envelope on a
connection of its own and decodes the answer.

The sidecar serves each connection by one dispatch.  Envelopes on their way and
answers not yet read are part of the shared state, so a connection may fail
before or after the sidecar has seen its envelope, and an envelope may arrive
late.
-/

namespace NexusCua.Sdk

open NexusCua.Foundation NexusCua.Protocol NexusCua.Transport

/-! ## Request objects -/

inductive Language where
  | go
  | typescript
  | python
  deriving DecidableEq, Repr

structure Client where
  language : Language
  token : AuthorizationToken
  reconciliationHorizon : Nat
  /-- The float that stands for a product.  Rounding keeps the order. -/
  round : ℚ →o ℚ

inductive MutationCommand where
  | performAction (input : PerformActionInput)
  | launchApplication (input : LaunchApplicationInput)
  | writeClipboard (input : WriteClipboardInput)
  deriving DecidableEq, Repr

namespace MutationCommand

def command : MutationCommand → Command
  | .performAction input => .performAction input
  | .launchApplication input => .launchApplication input
  | .writeClipboard input => .writeClipboard input

def expects : MutationCommand → CommandResult → Bool
  | .performAction _, .actionPerformed _ => true
  | .launchApplication _, .applicationLaunched _ => true
  | .writeClipboard _, .clipboardWritten _ => true
  | _, _ => false

end MutationCommand

structure Mutation where
  requestId : RequestId
  input : MutationCommand
  deriving DecidableEq, Repr

/--
The part of a request object that changes.  The command is dropped once the
object is complete or invalidated, and is not read after that.
-/
structure MutationRequest where
  createdAt : Nat
  completed : Bool
  invalidated : Bool
  inFlight : Bool
  lastWait : ℚ
  deriving DecidableEq, Repr

def MutationRequest.new (createdAt : Nat) : MutationRequest where
  createdAt := createdAt
  completed := false
  invalidated := false
  inFlight := false
  lastWait := 0

inductive WaitRefusal where
  | inFlight
  | alreadyComplete
  | horizonElapsed
  | shorterWait
  | notPositive
  | outsideWireBound
  deriving DecidableEq, Repr

/-! ## Timeouts

A timeout is a Go duration in nanoseconds, a JavaScript number of milliseconds or a
Python float of seconds.
-/

def maximumU32 : Nat := 2 ^ 32 - 1

def wireMilliseconds (client : Client) (timeout : ℚ) : ℤ :=
  match client.language with
  | .go => ⌊timeout / millisecond⌋
  | .typescript => ⌊timeout⌋
  | .python => ⌊client.round (timeout * 1000)⌋

def timeoutMilliseconds (client : Client) (timeout : ℚ) : Except WaitRefusal Nat :=
  if timeout ≤ 0 then .error .notPositive
  else if wireMilliseconds client timeout ≤ 0 ∨ maximumU32 < wireMilliseconds client timeout then
    .error .outsideWireBound
  else .ok (wireMilliseconds client timeout).toNat

def assertPositiveU32 (client : Client) (timeout : ℚ) : Except WaitRefusal Nat :=
  if timeout.isInt = false ∨ timeout ≤ 0 ∨ maximumU32 < timeout then .error .outsideWireBound
  else .ok (wireMilliseconds client timeout).toNat

def extendsWait (request : MutationRequest) (timeout : ℚ) : Except WaitRefusal Unit :=
  if request.lastWait ≠ 0 ∧ timeout < request.lastWait then .error .shorterWait else .ok ()

def checkTimeout (client : Client) (request : MutationRequest) (timeout : ℚ) :
    Except WaitRefusal Nat :=
  match client.language with
  | .go | .python => do
      extendsWait request timeout
      timeoutMilliseconds client timeout
  | .typescript => do
      let wait ← assertPositiveU32 client timeout
      extendsWait request timeout
      pure wait

/-- Everything before the round trip: the updated object, and the wait in milliseconds. -/
def beginWait (client : Client) (now : Nat) (timeout : ℚ) (request : MutationRequest) :
    MutationRequest × Except WaitRefusal Nat :=
  if request.completed then (request, .error .alreadyComplete)
  else if request.invalidated ∨ client.reconciliationHorizon < now - request.createdAt then
    ({ request with invalidated := true }, .error .horizonElapsed)
  else
    match checkTimeout client request timeout with
    | .error refusal => (request, .error refusal)
    | .ok timeoutMs => ({ request with lastWait := timeout, inFlight := true }, .ok timeoutMs)

def requestEnvelope (client : Client) (mutation : Mutation) (timeoutMs : Nat) :
    RequestEnvelope where
  protocolVersion := protocolVersion
  requestId := mutation.requestId
  timeoutMs := timeoutMs
  authorization := client.token
  command := mutation.input.command

/-! ## Answers -/

inductive WaitOutcome where
  | output (result : CommandResult)
  | notDispatched (error : CuaError)
  | indeterminate
  deriving DecidableEq, Repr

def WaitOutcome.completes : WaitOutcome → Bool
  | .indeterminate => false
  | _ => true

def decodeOutcome (mutation : Mutation) : ResponseOutcome → WaitOutcome
  | .success result => if mutation.input.expects result then .output result else .indeterminate
  | .error error =>
      if error.mutationStatus = .notDispatched then .notDispatched error else .indeterminate

def decodeResponse (mutation : Mutation) (response : ResponseEnvelope) : WaitOutcome :=
  if response.protocolVersion ≠ protocolVersion ∨ response.requestId ≠ mutation.requestId then
    .indeterminate
  else decodeOutcome mutation response.outcome

end NexusCua.Sdk
