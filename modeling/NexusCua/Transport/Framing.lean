import NexusCua.Foundation.Frame
import NexusCua.Transport.Dispatcher

/-!
# Framed connections to the sidecar

The frames of the local transport and the loop that serves one connection: read
a frame, decode the request, dispatch it, encode the response and write it back.
The JSON codec is a parameter.  The dispatcher is any function from a request and
its own state to a response, which covers whatever other connections do to it.
-/

namespace NexusCua.Transport

open NexusCua.Foundation NexusCua.Protocol
open NexusCua.Runtime (publicError)

/-! ## Frames -/

inductive TransportError where
  | invalidConfiguration (text : String)
  | io (error : IoError)
  | invalidFrame (text : String)
  | invalidPayload
  deriving DecidableEq, Repr

def outsideBound (length : Nat) : TransportError :=
  .invalidFrame s!"payload length {length} is outside the configured bound"

def frameErrors : FrameErrors TransportError where
  io := .io
  header error := .invalidFrame ("truncated length header: " ++ error.text)
  length := outsideBound
  payload error := .invalidFrame ("truncated payload: " ++ error.text)

def readFrame (maxFrameBytes : Nat) (reader : ByteSource) :
    Except TransportError (Option (List UInt8)) × ByteSource :=
  readFrameWith frameErrors maxFrameBytes reader

def writeFrame (payload : List UInt8) (maxFrameBytes : Nat) (writer : ByteSink) :
    Except TransportError Unit × ByteSink :=
  writeFrameWith outsideBound .io payload maxFrameBytes writer

theorem refinesFrame_readFrame (limit : Nat) :
    RefinesFrame limit frameErrors.outcome (readFrame limit) :=
  refinesFrame_readFrameWith frameErrors limit

theorem writeFrame_eq_ok_iff {limit : Nat} {payload : List UInt8} {writer writer' : ByteSink}
    (hroom : writer.room = none) :
    writeFrame payload limit writer = (.ok (), writer') ↔
      Framable limit payload ∧ writer' = writer.append (frame payload) :=
  writeFrameWith_eq_ok_iff hroom

def writeFrames (limit : Nat) : List (List UInt8) → ByteSink →
    Except TransportError Unit × ByteSink :=
  writeAll fun payload => writeFrame payload limit

theorem writeFrames_eq_ok_iff {limit : Nat} {payloads : List (List UInt8)}
    {writer writer' : ByteSink} (hroom : writer.room = none) :
    writeFrames limit payloads writer = (.ok (), writer') ↔
      (∀ payload ∈ payloads, Framable limit payload) ∧
        writer' = writer.append (payloads.flatMap frame) := by
  have h : writeFrames limit payloads writer = (.ok (), writer') ↔
      ∃ payloads' : List (List UInt8), payloads.map some = payloads'.map some ∧
        (∀ payload ∈ payloads', Framable limit payload) ∧
        writer' = writer.append (payloads'.flatMap frame) := by
    refine writeAll_eq_ok_iff ?_ hroom
    intro payload writer writer' hroom
    simp [writeFrame_eq_ok_iff hroom]
  simpa [List.map_inj_right] using h

/-! ## One connection -/

/-- `serde_json` for the two envelopes. -/
structure EnvelopeCodec where
  decodeRequest : List UInt8 → Option RequestEnvelope
  encodeResponse : ResponseEnvelope → Option (List UInt8)

def malformedResponse : ResponseEnvelope :=
  failure ⟨"unparsed"⟩
    (publicError .invalidRequest "request payload does not match the closed protocol schema" false
      (some "fix_request_payload"))

structure Connection (δ : Type) where
  reader : ByteSource
  writer : ByteSink
  dispatcher : δ

section Serving

variable {δ : Type} (codec : EnvelopeCodec)
  (dispatch : RequestEnvelope → δ → ResponseEnvelope × δ)

def respond (payload : List UInt8) (dispatcher : δ) : ResponseEnvelope × δ :=
  match codec.decodeRequest payload with
  | some request => dispatch request dispatcher
  | none => (malformedResponse, dispatcher)

/-- The answer of the connection, unless the fuel runs out before the stream. -/
def serveConnection (maxFrameBytes : Nat) :
    Nat → Connection δ → Option (Except TransportError Unit × Connection δ)
  | 0, _ => none
  | fuel + 1, connection =>
      match readFrame maxFrameBytes connection.reader with
      | (.error error, reader) => some (.error error, { connection with reader })
      | (.ok none, reader) => some (.ok (), { connection with reader })
      | (.ok (some payload), reader) =>
          let (response, dispatcher) := respond codec dispatch payload connection.dispatcher
          match codec.encodeResponse response with
          | none => some (.error .invalidPayload, { connection with reader, dispatcher })
          | some payload =>
              match writeFrame payload maxFrameBytes connection.writer with
              | (.error error, writer) => some (.error error, { reader, writer, dispatcher })
              | (.ok (), writer) =>
                  serveConnection maxFrameBytes fuel { reader, writer, dispatcher }

def respondAll : List (List UInt8) → δ → List ResponseEnvelope × δ
  | [], dispatcher => ([], dispatcher)
  | payload :: payloads, dispatcher =>
      let (response, dispatcher) := respond codec dispatch payload dispatcher
      let (responses, dispatcher) := respondAll payloads dispatcher
      (response :: responses, dispatcher)

@[simp] theorem length_respondAll (payloads : List (List UInt8)) (dispatcher : δ) :
    (respondAll codec dispatch payloads dispatcher).1.length = payloads.length := by
  induction payloads generalizing dispatcher with
  | nil => rfl
  | cons payload payloads ih => simp [respondAll, ih]

variable {codec dispatch}

/-- A connection that carries the frames of some payloads is answered by the
frames of their responses, when each of these can be written. -/
theorem serveConnection_frames {limit fuel : Nat} {payloads replies : List (List UInt8)}
    {connection : Connection δ} (hroom : connection.writer.room = none)
    (hending : connection.reader.ending = .eof)
    (hbytes : connection.reader.bytes = payloads.flatMap frame)
    (hpayloads : ∀ payload ∈ payloads, Framable limit payload)
    (hreplies : ∀ reply ∈ replies, Framable limit reply)
    (hencode : (respondAll codec dispatch payloads connection.dispatcher).1.map
      codec.encodeResponse = replies.map some)
    (hfuel : payloads.length < fuel) :
    ∃ reader, serveConnection codec dispatch limit fuel connection = some (.ok (), {
      reader
      writer := connection.writer.append (replies.flatMap frame)
      dispatcher := (respondAll codec dispatch payloads connection.dispatcher).2 }) := by
  induction payloads generalizing replies connection fuel with
  | nil =>
    obtain ⟨fuel, rfl⟩ := Nat.exists_eq_succ_of_ne_zero (Nat.ne_of_gt hfuel)
    obtain rfl : replies = [] := by simpa [respondAll] using hencode.symm
    obtain ⟨reader, heq⟩ := (refinesFrame_readFrame limit).read_nothing hbytes
    rw [hending] at heq
    rw [serveConnection, heq]
    exact ⟨reader, by simp [respondAll, FrameErrors.outcome]⟩
  | cons payload payloads ih =>
    obtain ⟨fuel, rfl⟩ := Nat.exists_eq_succ_of_ne_zero (Nat.ne_of_gt (Nat.zero_lt_of_lt hfuel))
    obtain _ | ⟨reply, replies⟩ := replies
    · simp [respondAll] at hencode
    rw [List.flatMap_cons] at hbytes
    obtain ⟨reader, heq, hrest, hends⟩ :=
      (refinesFrame_readFrame limit).read_frame (hpayloads payload (by simp)) hbytes
    rw [List.forall_mem_cons] at hpayloads hreplies
    simp only [respondAll, List.map_cons, List.cons.injEq] at hencode
    let next : Connection δ := {
      reader
      writer := connection.writer.append (frame reply)
      dispatcher := (respond codec dispatch payload connection.dispatcher).2 }
    obtain ⟨reader', hserve⟩ := ih (show next.writer.room = none from hroom)
      (hends.trans hending) hrest hpayloads.2 hreplies.2 hencode.2 (by simpa using hfuel)
    refine ⟨reader', ?_⟩
    rw [serveConnection, heq]
    simp only [FrameErrors.outcome, hencode.1,
      (writeFrame_eq_ok_iff hroom).mpr ⟨hreplies.1, rfl⟩]
    simpa [next, respondAll] using hserve

end Serving

end NexusCua.Transport
