import NexusCua.Host.Affinity

/-!
# Retries through the gateway

A mutation that has been handed to a worker may be sent again, with the same
request identity and the same command.  The gateway's own refusals say that the
mutation was not dispatched, whatever an earlier attempt has done: the answer to
a retry is right exactly when the retry passes every check of the gateway, or
when the worker itself has said so.
-/

namespace NexusCua.Host

open NexusCua.Foundation NexusCua.Protocol
open NexusCua.Foundation.Async (wp Contract)
open WorkerGateway

/-! ## Which request a call answers -/

def GatewayCall.answers : GatewayCall → Option GatewayExecuteRequest
  | .execute request => some request
  | _ => none

/-- A call's request passes the checks of the gateway, in the states in which they are made. -/
structure Passes (gateway : WorkerGateway) (request : GatewayExecuteRequest)
    (own : List GatewayStep) : Prop where
  accepts : gateway.Accepts request
  permit : ∀ e rest, own = e :: rest → 0 < e.pre.permits
  lease : ∀ e f rest, own = e :: f :: rest →
    ∃ resolved, (f.pre.registry.resolve request.leaseId request.workerEpoch f.pre.now).2 =
      .ok resolved

section Retries

variable {gateway : WorkerGateway} {request : GatewayExecuteRequest}
  {response response' : GatewayExecuteResponse} {steps : List GatewayStep}
  {p : GatewayProgram Empty Unit}

theorem GatewayEffect.not_dispatched {h es : List GatewayEvent} {s s' : GatewayState}
    {worker : DesktopWorker} {requestId : RequestId} {timeoutMs : Nat} {command : Command}
    (he : GatewayEffect gateway h s es s') (hx : .responded request response ∈ es) :
    .dispatched worker requestId timeoutMs command ∉ es := by
  cases he with
  | respond => simp
  | _ => simp at hx

end Retries

def clipboardRequest : GatewayExecuteRequest :=
  { displayRequest with command := .writeClipboard ⟨⟨"session"⟩, ⟨"clipboard"⟩, ⟨"text"⟩⟩ }

def clipboardWritten : CommandResult :=
  .clipboardWritten ⟨⟨"clipboard"⟩, .background, true, .unverified, .dispatchAcceptance⟩

/-- Task `t` carries the request to its worker and answers it. -/
def carried (t : Nat) : List (Move GatewayReply GatewayCall Nat) :=
  [.spawn (.execute clipboardRequest), .run t .none, .run t .none, .run t .none,
    .run t (.workerAnswered ⟨protocolVersion, ⟨"request"⟩, .success clipboardWritten⟩),
    .run t .none, .run t .none]

end NexusCua.Host
