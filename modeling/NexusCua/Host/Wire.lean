import NexusCua.Foundation.Frame

/-!
# Gateway frames

The frames between a host and its gateway.  They carry one JSON value each, so
that reading a frame also decodes it; the codec is a parameter.
-/

namespace NexusCua.Host

open NexusCua.Foundation

inductive GatewayTransportError where
  | invalidConfiguration
  | frameTooLarge
  | unexpectedEof
  | invalidJson
  | io (error : IoError)
  deriving DecidableEq, Repr

def mapFrameReadError (error : IoError) : GatewayTransportError :=
  if error.kind = .unexpectedEof then .unexpectedEof else .io error

def gatewayFrameErrors : FrameErrors GatewayTransportError where
  io := .io
  header := mapFrameReadError
  length _ := .frameTooLarge
  payload := mapFrameReadError

section Values

variable {α : Type}

def decodeFrame (decode : List UInt8 → Option α) :
    Except GatewayTransportError (Option (List UInt8)) → Except GatewayTransportError (Option α)
  | .error error => .error error
  | .ok none => .ok none
  | .ok (some payload) =>
      match decode payload with
      | some value => .ok (some value)
      | none => .error .invalidJson

def readWireFrame (decode : List UInt8 → Option α) (maxFrameBytes : Nat) (stream : ByteSource) :
    Except GatewayTransportError (Option α) × ByteSource :=
  let (result, stream) := readFrameWith gatewayFrameErrors maxFrameBytes stream
  (decodeFrame decode result, stream)

def writeWireFrame (encode : α → Option (List UInt8)) (value : α) (maxFrameBytes : Nat)
    (stream : ByteSink) : Except GatewayTransportError Unit × ByteSink :=
  match encode value with
  | none => (.error .invalidJson, stream)
  | some payload =>
      writeFrameWith (fun _ => .frameTooLarge) .io payload maxFrameBytes stream

theorem refinesFrame_readWireFrame (decode : List UInt8 → Option α) (limit : Nat) :
    RefinesFrame limit
      (fun ending parsed => decodeFrame decode (gatewayFrameErrors.outcome ending parsed))
      (readWireFrame decode limit) where
  result source :=
    congrArg (decodeFrame decode)
      ((refinesFrame_readFrameWith gatewayFrameErrors limit).result source)
  rest := (refinesFrame_readFrameWith gatewayFrameErrors limit).rest
  ending := (refinesFrame_readFrameWith gatewayFrameErrors limit).ending

def writeWireFrames (encode : α → Option (List UInt8)) (limit : Nat) :
    List α → ByteSink → Except GatewayTransportError Unit × ByteSink :=
  writeAll fun value => writeWireFrame encode value limit

theorem writeWireFrames_eq_ok_iff {encode : α → Option (List UInt8)} {limit : Nat}
    {values : List α} {stream stream' : ByteSink} (hroom : stream.room = none) :
    writeWireFrames encode limit values stream = (.ok (), stream') ↔
      ∃ payloads : List (List UInt8), values.map encode = payloads.map some ∧
        (∀ payload ∈ payloads, Framable limit payload) ∧
        stream' = stream.append (payloads.flatMap frame) := by
  refine writeAll_eq_ok_iff ?_ hroom
  intro value stream stream' hroom
  rw [writeWireFrame]
  cases encode value with
  | none => simp
  | some payload => simp [writeFrameWith_eq_ok_iff hroom]

end Values

end NexusCua.Host
