import NexusCua.Host.Wire
import NexusCua.Transport.Framing

/-!
# Frames in the clients, and the agreement of all readers

The Go client reads a response with two full reads.  The TypeScript client
collects the chunks a socket delivers and settles its promise at the chunk that
completes the header of a refused frame or the frame itself.  The last part
compares these with the sidecar's and the gateway's own readers.
-/

namespace NexusCua.Sdk

open NexusCua.Foundation NexusCua.Protocol NexusCua.Transport NexusCua.Host

/-! ## The Go client -/

namespace Go

inductive Error where
  | eof
  | unexpectedEof
  | io (error : IoError)
  | outsideBound (text : String)
  deriving DecidableEq, Repr

/-- `io.ReadFull` tells an end before the first byte from a later one. -/
def readError (bytes : List UInt8) : Ending → Error
  | .eof => if bytes = [] then .eof else .unexpectedEof
  | .failed error => .io error

def readFull (n : Nat) (reader : ByteSource) : Except Error (List UInt8) × ByteSource :=
  let filled := reader.fill n
  match filled.stop with
  | none => (.ok filled.bytes, filled.source)
  | some ending => (.error (readError filled.bytes ending), filled.source)

def lengthError (length : Nat) : Error :=
  .outsideBound s!"nexus-cua: response frame length {length} is outside configured bound"

def readFrame (limit : UInt32) (reader : ByteSource) : Except Error (List UInt8) × ByteSource :=
  match readFull 4 reader with
  | (.error error, reader) => (.error error, reader)
  | (.ok header, reader) =>
      let length := ofBeBytes header
      if length = 0 ∨ limit.toNat < length then (.error (lengthError length), reader)
      else readFull length reader

def outcome (ending : Ending) : ParsedFrame → Except Error (List UInt8)
  | .nothing => .error (readError [] ending)
  | .shortHeader =>
      match ending with
      | .eof => .error .unexpectedEof
      | .failed error => .error (.io error)
  | .badLength length _ => .error (lengthError length)
  | .shortPayload body => .error (readError body ending)
  | .frame payload _ => .ok payload

theorem readFull_enough {n : Nat} {reader : ByteSource} (h : n ≤ reader.bytes.length) :
    ∃ rest, readFull n reader = (.ok (reader.bytes.take n), rest) ∧
      rest.bytes = reader.bytes.drop n ∧ rest.ending = reader.ending := by
  obtain ⟨rest, hfill, hrest, hending⟩ := ByteSource.fill_enough h
  exact ⟨rest, by simp only [readFull, hfill], hrest, hending⟩

theorem readFull_short {n : Nat} {reader : ByteSource} (h : reader.bytes.length < n) :
    readFull n reader =
      (.error (readError reader.bytes reader.ending), ⟨[], reader.ending⟩) := by
  simp only [readFull, ByteSource.fill_short h]

theorem refinesFrame_readFrame (limit : UInt32) :
    RefinesFrame limit.toNat outcome (readFrame limit) := by
  suffices h : ∀ reader : ByteSource,
      (readFrame limit reader).1 =
          outcome reader.ending (parseFrame limit.toNat reader.bytes) ∧
        (readFrame limit reader).2.bytes = (parseFrame limit.toNat reader.bytes).rest ∧
        (readFrame limit reader).2.ending = reader.ending from
    ⟨fun reader => (h reader).1, fun reader => (h reader).2.1, fun reader => (h reader).2.2⟩
  intro reader
  rw [readFrame]
  by_cases hheader : reader.bytes.length < 4
  · -- the stream ends before or inside the header
    rw [readFull_short hheader, parseFrame]
    by_cases hnil : reader.bytes = []
    · rw [if_pos hnil, hnil]
      exact ⟨rfl, rfl, rfl⟩
    · rw [if_neg hnil, if_pos hheader]
      refine ⟨?_, rfl, rfl⟩
      cases hending : reader.ending <;> simp [outcome, readError, hnil]
  · obtain ⟨reader₁, hfull, hbytes₁, hending₁⟩ :=
      readFull_enough (show 4 ≤ reader.bytes.length by omega)
    have hlength : (reader.bytes.take 4).length = 4 := by
      rw [List.length_take]
      omega
    have hsplit : reader.bytes = reader.bytes.take 4 ++ reader₁.bytes := by
      rw [hbytes₁, List.take_append_drop]
    have hparse := parseFrame_append hlength limit.toNat reader₁.bytes
    rw [← hsplit] at hparse
    rw [hfull, hparse, ← hending₁]
    dsimp only
    split
    · exact ⟨rfl, rfl, rfl⟩
    · by_cases hpayload : reader₁.bytes.length < ofBeBytes (reader.bytes.take 4)
      · rw [if_pos hpayload, readFull_short hpayload]
        exact ⟨rfl, rfl, rfl⟩
      · obtain ⟨reader₂, hfull₂, hbytes₂, hending₂⟩ :=
          readFull_enough (Nat.le_of_not_lt hpayload)
        rw [if_neg hpayload, hfull₂]
        exact ⟨rfl, hbytes₂, hending₂⟩

end Go

/-! ## The TypeScript client -/

namespace Typescript

inductive Error where
  | error (text : String)
  | rangeError (text : String)
  deriving DecidableEq, Repr

inductive SocketEvent where
  | connect
  | data (chunk : Chunk)
  | «end»
  | timeout
  | error (text : String)
  deriving DecidableEq, Repr

/-- The variables that the handlers of one round trip share, and what was written
to the socket. -/
structure RoundTrip where
  written : List UInt8
  buffered : List UInt8
  expected : Option Nat
  settled : Option (Except Error (List UInt8))
  deriving DecidableEq, Repr

namespace RoundTrip

def initial : RoundTrip := ⟨[], [], none, none⟩

def finish (result : Except Error (List UInt8)) (trip : RoundTrip) : RoundTrip :=
  match trip.settled with
  | some _ => trip
  | none => { trip with settled := some result }

def lengthError (expected : Nat) : Error :=
  .rangeError s!"response frame length {expected} is outside configured bound"

def trailingBytes : Error := .error "response contains trailing frame bytes"

def closedEarly : Error := .error "local transport closed before a complete frame"

def complete (expected : Nat) (trip : RoundTrip) : RoundTrip :=
  if expected ≤ trip.buffered.length then
    if trip.buffered.length ≠ expected then trip.finish (.error trailingBytes)
    else trip.finish (.ok trip.buffered)
  else trip

def onData (maxFrameBytes : Nat) (chunk : List UInt8) (trip : RoundTrip) : RoundTrip :=
  let buffered := trip.buffered ++ chunk
  match trip.expected with
  | some expected => complete expected { trip with buffered }
  | none =>
      if 4 ≤ buffered.length then
        let expected := ofBeBytes (buffered.take 4)
        let trip := { trip with buffered := buffered.drop 4, expected := some expected }
        if expected = 0 ∨ maxFrameBytes < expected then trip.finish (.error (lengthError expected))
        else complete expected trip
      else { trip with buffered }

end RoundTrip

def onEvent (payload : List UInt8) (maxFrameBytes : Nat) (trip : RoundTrip) :
    SocketEvent → RoundTrip
  | .connect => { trip with written := trip.written ++ frame payload }
  | .data chunk => trip.onData maxFrameBytes chunk.bytes
  | .end => trip.finish (.error RoundTrip.closedEarly)
  | .timeout => trip.finish (.error (.error "local transport timed out"))
  | .error text => trip.finish (.error (.error text))

def nativeRoundTrip (payload : List UInt8) (maxFrameBytes : Nat) (events : List SocketEvent) :
    RoundTrip :=
  events.foldl (onEvent payload maxFrameBytes) .initial

/-! ### What the received bytes decide -/

def verdict (limit : Nat) (bytes : List UInt8) : Option (Except Error (List UInt8)) :=
  match parseFrame limit bytes with
  | .badLength length _ => some (.error (RoundTrip.lengthError length))
  | .frame payload rest =>
      if rest = [] then some (.ok payload) else some (.error RoundTrip.trailingBytes)
  | _ => none

def received (limit : Nat) (written bytes : List UInt8) : RoundTrip where
  written := written
  buffered := if bytes.length < 4 then bytes else bytes.drop 4
  expected := if bytes.length < 4 then none else some (ofBeBytes (bytes.take 4))
  settled := verdict limit bytes

variable {limit : Nat} {bytes : List UInt8}

theorem verdict_of_incomplete
    (h : (parseFrame limit bytes).incomplete = true) : verdict limit bytes = none := by
  rw [verdict]
  split <;> simp_all [ParsedFrame.incomplete]

variable {header : List UInt8}

theorem verdict_append (hheader : header.length = 4) (limit : Nat)
    (body : List UInt8) :
    verdict limit (header ++ body) =
      if ofBeBytes header = 0 ∨ limit < ofBeBytes header then
        some (.error (RoundTrip.lengthError (ofBeBytes header)))
      else if body.length < ofBeBytes header then none
      else if body.length = ofBeBytes header then some (.ok body)
      else some (.error RoundTrip.trailingBytes) := by
  rw [verdict, parseFrame_append hheader]
  by_cases hbad : ofBeBytes header = 0 ∨ limit < ofBeBytes header
  · rw [if_pos hbad, if_pos hbad]
  · rw [if_neg hbad, if_neg hbad]
    by_cases hshort : body.length < ofBeBytes header
    · rw [if_pos hshort, if_pos hshort]
    · rw [if_neg hshort, if_neg hshort]
      by_cases hlength : body.length = ofBeBytes header
      · simp [← hlength]
      · have hlong : ¬ body.length ≤ ofBeBytes header := by omega
        simp [hlength, hlong]

theorem received_append (hheader : header.length = 4) (limit : Nat)
    (written body : List UInt8) :
    received limit written (header ++ body) =
      ⟨written, body, some (ofBeBytes header), verdict limit (header ++ body)⟩ := by
  have hlength : ¬ (header ++ body).length < 4 := by
    rw [List.length_append]
    omega
  rw [received, if_neg hlength, if_neg hlength, List.take_left' hheader, List.drop_left' hheader]

theorem complete_eq_received (hheader : header.length = 4)
    (hlength : ¬ (ofBeBytes header = 0 ∨ limit < ofBeBytes header)) (written body : List UInt8) :
    RoundTrip.complete (ofBeBytes header) ⟨written, body, some (ofBeBytes header), none⟩ =
      received limit written (header ++ body) := by
  rw [received_append hheader, verdict_append hheader, if_neg hlength, RoundTrip.complete]
  by_cases hshort : body.length < ofBeBytes header
  · rw [if_neg (Nat.not_le_of_lt hshort), if_pos hshort]
  · rw [if_pos (Nat.le_of_not_lt hshort), if_neg hshort]
    by_cases hequal : body.length = ofBeBytes header
    · simp [hequal, RoundTrip.finish]
    · simp [hequal, RoundTrip.finish]

/-- As long as nothing is decided, a chunk takes the state of the bytes before it
to the state of the bytes with it. -/
theorem onData_received (h : verdict limit bytes = none)
    (written chunk : List UInt8) :
    (received limit written bytes).onData limit chunk =
      received limit written (bytes ++ chunk) := by
  by_cases hbytes : bytes.length < 4
  · have hstate : received limit written bytes = ⟨written, bytes, none, none⟩ := by
      simp [received, hbytes, h]
    rw [hstate, RoundTrip.onData]
    dsimp only
    by_cases hboth : (bytes ++ chunk).length < 4
    · have hparse : (parseFrame limit (bytes ++ chunk)).incomplete = true := by
        rw [parseFrame]
        split <;> simp [ParsedFrame.incomplete]
      rw [if_neg (Nat.not_le_of_lt hboth), received, if_pos hboth, if_pos hboth,
        verdict_of_incomplete hparse]
    · have hheader : ((bytes ++ chunk).take 4).length = 4 := by
        rw [List.length_take]
        omega
      rw [if_pos (Nat.le_of_not_lt hboth)]
      split
      case isTrue hbad =>
        have hreceived := received_append hheader limit written ((bytes ++ chunk).drop 4)
        rw [verdict_append hheader, if_pos hbad, List.take_append_drop] at hreceived
        rw [hreceived, RoundTrip.finish]
      case isFalse hgood =>
        rw [complete_eq_received hheader hgood, List.take_append_drop]
  · have hheader : (bytes.take 4).length = 4 := by
      rw [List.length_take]
      omega
    rw [← List.take_append_drop 4 bytes] at h ⊢
    have hgood : ¬ (ofBeBytes (bytes.take 4) = 0 ∨ limit < ofBeBytes (bytes.take 4)) := by
      intro hbad
      rw [verdict_append hheader, if_pos hbad] at h
      simp at h
    rw [received_append hheader, h, RoundTrip.onData]
    dsimp only
    rw [complete_eq_received hheader hgood, List.append_assoc]

variable {trip : RoundTrip} {result : Except Error (List UInt8)}

theorem finish_of_settled
    (h : trip.settled = some result) (other : Except Error (List UInt8)) :
    trip.finish other = trip := by
  rw [RoundTrip.finish, h]

theorem settled_complete
    (h : trip.settled = some result) (expected : Nat) :
    (trip.complete expected).settled = some result := by
  rw [RoundTrip.complete]
  simp only [finish_of_settled h, ite_self]
  exact h

theorem settled_onEvent {payload : List UInt8}
    (h : trip.settled = some result) (event : SocketEvent) :
    (onEvent payload limit trip event).settled = some result := by
  cases event with
  | connect => exact h
  | data chunk =>
    rw [onEvent, RoundTrip.onData]
    dsimp only
    split
    · apply settled_complete
      exact h
    · split
      · split
        · rw [finish_of_settled]
          · exact h
          · exact h
        · apply settled_complete
          exact h
      · exact h
  | «end» => rw [onEvent, finish_of_settled h, h]
  | timeout => rw [onEvent, finish_of_settled h, h]
  | error text => rw [onEvent, finish_of_settled h, h]

theorem settled_foldl {payload : List UInt8} (h : trip.settled = some result)
    (events : List SocketEvent) :
    (events.foldl (onEvent payload limit) trip).settled = some result := by
  induction events generalizing trip with
  | nil => exact h
  | cons event events ih => exact ih (settled_onEvent h event)

theorem verdict_of_proper {payload bytes more : List UInt8}
    (hpayload : Framable limit payload) (hframe : frame payload = bytes ++ more)
    (hmore : more ≠ []) : verdict limit bytes = none := by
  obtain hparse | ⟨hlength, -⟩ := parseFrame_proper hpayload.lt_word hframe hmore limit
  · exact verdict_of_incomplete hparse
  · have hpos := hpayload.pos
    have hlimit := hpayload.le_limit
    omega

theorem foldl_received {payload more : List UInt8} (hpayload : Framable limit payload)
    (hmore : more ≠ []) (request written : List UInt8) {chunks : List Chunk}
    (hframe : frame payload = bytes ++ chunks.flatMap Chunk.bytes ++ more) :
    (chunks.map SocketEvent.data).foldl (onEvent request limit) (received limit written bytes) =
      received limit written (bytes ++ chunks.flatMap Chunk.bytes) := by
  induction chunks generalizing bytes with
  | nil => simp
  | cons chunk chunks ih =>
    rw [List.flatMap_cons, ← List.append_assoc bytes] at hframe
    have hsplit :
        frame payload = bytes ++ (chunk.bytes ++ (chunks.flatMap Chunk.bytes ++ more)) := by
      rw [hframe, List.append_assoc, List.append_assoc]
    have hverdict : verdict limit bytes = none :=
      verdict_of_proper hpayload hsplit (by simp [hmore])
    rw [List.map_cons, List.foldl_cons, onEvent, onData_received hverdict, ih hframe,
      List.flatMap_cons, List.append_assoc]

/-- The chunk that completes a frame settles the promise: with the payload when
nothing follows in that chunk, with an error otherwise. -/
theorem settled_nativeRoundTrip {payload extra : List UInt8}
    (hpayload : Framable limit payload) {before : List Chunk} {chunk : Chunk}
    (hbytes : (before ++ [chunk]).flatMap Chunk.bytes = frame payload ++ extra)
    (hbefore : (before.flatMap Chunk.bytes).length < (frame payload).length)
    (request : List UInt8) (later : List SocketEvent) :
    (nativeRoundTrip request limit
        (.connect :: ((before ++ [chunk]).map SocketEvent.data ++ later))).settled =
      some (if extra = [] then .ok payload else .error RoundTrip.trailingBytes) := by
  rw [List.flatMap_append] at hbytes
  obtain ⟨more, hframe⟩ : before.flatMap Chunk.bytes <+: frame payload :=
    List.prefix_of_prefix_length_le ⟨_, hbytes⟩ ⟨_, rfl⟩ (Nat.le_of_lt hbefore)
  have hmore : more ≠ [] := by
    rintro rfl
    rw [← hframe, List.append_nil] at hbefore
    omega
  have hstart : onEvent request limit .initial .connect = received limit (frame request) [] := rfl
  have hverdict : verdict limit (before.flatMap Chunk.bytes) = none :=
    verdict_of_proper hpayload hframe.symm hmore
  have hlast : onEvent request limit (received limit (frame request) (before.flatMap Chunk.bytes))
      (.data chunk) = received limit (frame request) (frame payload ++ extra) := by
    rw [onEvent, onData_received hverdict, ← hbytes, List.flatMap_singleton]
  have hframe' : frame payload = [] ++ before.flatMap Chunk.bytes ++ more := hframe.symm
  rw [nativeRoundTrip, List.foldl_cons, hstart, List.foldl_append, List.map_append,
    List.foldl_append, foldl_received hpayload hmore request (frame request) hframe']
  apply settled_foldl
  rw [List.map_singleton, List.foldl_cons, List.foldl_nil, List.nil_append, hlast, received,
    verdict, parseFrame_frame hpayload]
  dsimp only
  split <;> rfl

theorem settled_nativeRoundTrip_proper {payload more : List UInt8}
    (hpayload : Framable limit payload) (hmore : more ≠ []) {chunks : List Chunk}
    (hframe : frame payload = chunks.flatMap Chunk.bytes ++ more) (request : List UInt8) :
    (nativeRoundTrip request limit (.connect :: chunks.map SocketEvent.data)).settled = none ∧
      (nativeRoundTrip request limit
          (.connect :: (chunks.map SocketEvent.data ++ [.end]))).settled =
        some (.error RoundTrip.closedEarly) := by
  have hstart : onEvent request limit .initial .connect = received limit (frame request) [] := rfl
  have hframe' : frame payload = [] ++ chunks.flatMap Chunk.bytes ++ more := hframe
  have hchunks := foldl_received hpayload hmore request (frame request) hframe'
  have hsettled : (received limit (frame request) ([] ++ chunks.flatMap Chunk.bytes)).settled =
      none :=
    verdict_of_proper hpayload hframe' hmore
  constructor
  · rw [nativeRoundTrip, List.foldl_cons, hstart, hchunks, hsettled]
  · rw [nativeRoundTrip, List.foldl_cons, hstart, List.foldl_append, hchunks, List.foldl_cons,
      List.foldl_nil, onEvent, RoundTrip.finish, hsettled]

end Typescript

/-! ## All readers agree -/

structure FramingAgrees (limit : Nat) : Prop where
  /-- Within the range of the length word every payload of 1 to `limit` bytes is
  written. -/
  written : limit ≤ u32Max → ∀ payloads : List (List UInt8),
    (∀ payload ∈ payloads, 1 ≤ payload.length ∧ payload.length ≤ limit) →
    ∀ writer : ByteSink, writer.room = none →
      ∃ writer', writeFrames limit payloads writer = (.ok (), writer')
  readBack : ∀ (payloads : List (List UInt8)) (error : IoError) (writer : ByteSink),
    writeFrames limit payloads ⟨[], none, error⟩ = (.ok (), writer) →
    ∀ source : ByteSource, source.bytes = writer.written → source.ending = .eof →
    ∀ fuel, payloads.length < fuel →
      readAll (readFrame limit) id fuel source = (payloads, some (.ok none)) ∧
      (∀ {α : Type} (decode : List UInt8 → Option α) (values : List α),
        payloads.map decode = values.map some →
        readAll (readWireFrame decode limit) id fuel source = (values, some (.ok none))) ∧
      ∀ limit32 : UInt32, limit32.toNat = limit →
        readAll (Go.readFrame limit32) some fuel source = (payloads, some (.error .eof))
  wireReadBack : ∀ {α : Type} (encode : α → Option (List UInt8)) (decode : List UInt8 → Option α),
    (∀ value payload, encode value = some payload → decode payload = some value) →
    ∀ (values : List α) (error : IoError) (writer : ByteSink),
    writeWireFrames encode limit values ⟨[], none, error⟩ = (.ok (), writer) →
    ∀ source : ByteSource, source.bytes = writer.written → source.ending = .eof →
    ∀ fuel, values.length < fuel →
      readAll (readWireFrame decode limit) id fuel source = (values, some (.ok none))
  proper : ∀ payload more : List UInt8, Framable limit payload → more ≠ [] →
    ∀ source : ByteSource, frame payload = source.bytes ++ more →
      (∀ payload', (readFrame limit source).1 ≠ .ok (some payload')) ∧
      (∀ {α : Type} (decode : List UInt8 → Option α) (value : α),
        (readWireFrame decode limit source).1 ≠ .ok (some value)) ∧
      (∀ limit32 : UInt32, limit32.toNat = limit →
        ∀ payload', (Go.readFrame limit32 source).1 ≠ .ok payload') ∧
      ∀ request,
        (Typescript.nativeRoundTrip request limit
          (.connect :: source.chunks.map .data)).settled = none ∧
        (Typescript.nativeRoundTrip request limit
          (.connect :: (source.chunks.map .data ++ [.end]))).settled =
            some (.error Typescript.RoundTrip.closedEarly)
  /-- A length of zero or above the limit is refused, with all bytes after the
  header still unread. -/
  header : ∀ header rest : List UInt8, header.length = 4 →
    ofBeBytes header = 0 ∨ limit < ofBeBytes header →
    ∀ source : ByteSource, source.bytes = header ++ rest →
      ((readFrame limit source).1 = .error (outsideBound (ofBeBytes header)) ∧
        (readFrame limit source).2.bytes = rest) ∧
      (∀ {α : Type} (decode : List UInt8 → Option α),
        (readWireFrame decode limit source).1 = .error .frameTooLarge ∧
          (readWireFrame decode limit source).2.bytes = rest) ∧
      ∀ limit32 : UInt32, limit32.toNat = limit →
        (Go.readFrame limit32 source).1 = .error (Go.lengthError (ofBeBytes header)) ∧
          (Go.readFrame limit32 source).2.bytes = rest
  single : ∀ payload : List UInt8, Framable limit payload →
    ∀ chunks : List Chunk, chunks.flatMap Chunk.bytes = frame payload →
    ∀ request later, (Typescript.nativeRoundTrip request limit
      (.connect :: (chunks.map .data ++ later))).settled = some (.ok payload)
  trailing : ∀ payload extra : List UInt8, Framable limit payload → extra ≠ [] →
    ∀ (before : List Chunk) (chunk : Chunk),
    (before ++ [chunk]).flatMap Chunk.bytes = frame payload ++ extra →
    (before.flatMap Chunk.bytes).length < (frame payload).length →
    ∀ request later, (Typescript.nativeRoundTrip request limit
      (.connect :: ((before ++ [chunk]).map .data ++ later))).settled =
        some (.error Typescript.RoundTrip.trailingBytes)
  /-- The sidecar answers the requests of a connection one for one and in order,
  as long as the responses can be written. -/
  served : ∀ {δ : Type} (codec : EnvelopeCodec)
    (dispatch : RequestEnvelope → δ → ResponseEnvelope × δ) (connection : Connection δ)
    (payloads replies : List (List UInt8)),
    connection.writer.room = none → connection.reader.ending = .eof →
    connection.reader.bytes = payloads.flatMap frame →
    (∀ payload ∈ payloads, Framable limit payload) →
    (respondAll codec dispatch payloads connection.dispatcher).1.map codec.encodeResponse =
      replies.map some →
    (∀ reply ∈ replies, Framable limit reply) →
    ∀ fuel, payloads.length < fuel →
      replies.length = payloads.length ∧
      ∃ reader, serveConnection codec dispatch limit fuel connection = some (.ok (), {
        reader
        writer := connection.writer.append (replies.flatMap frame)
        dispatcher := (respondAll codec dispatch payloads connection.dispatcher).2 })

section ReadBack

variable {limit fuel : Nat} {payloads : List (List UInt8)} {source : ByteSource}

theorem readAll_readFrame (hfits : ∀ payload ∈ payloads, Framable limit payload)
    (hbytes : source.bytes = payloads.flatMap frame) (hending : source.ending = .eof)
    (hfuel : payloads.length < fuel) :
    readAll (readFrame limit) id fuel source = (payloads, some (.ok none)) := by
  refine ((Transport.refinesFrame_readFrame limit).readAll_frames
    (fun _ payload _ _ h => ⟨some payload, rfl, h⟩) ?_ rfl hfits hbytes hfuel).trans ?_
  · rintro (_ | _) answer h
    · exact (Except.ok.inj h).symm
    · cases h
  · rw [hending]
    rfl

theorem readAll_readWireFrame {α : Type} {decode : List UInt8 → Option α} {values : List α}
    (hvalues : payloads.map decode = values.map some)
    (hfits : ∀ payload ∈ payloads, Framable limit payload)
    (hbytes : source.bytes = payloads.flatMap frame) (hending : source.ending = .eof)
    (hfuel : payloads.length < fuel) :
    readAll (readWireFrame decode limit) id fuel source = (values, some (.ok none)) := by
  refine ((refinesFrame_readWireFrame decode limit).readAll_frames
    (fun _ _ _ value h => ⟨some value, by simp [FrameErrors.outcome, decodeFrame, h], rfl⟩) ?_
    hvalues hfits hbytes hfuel).trans ?_
  · rintro (_ | _) answer h
    · exact (Except.ok.inj h).symm
    · cases h
  · rw [hending]
    rfl

theorem readAll_goReadFrame {limit32 : UInt32}
    (hfits : ∀ payload ∈ payloads, Framable limit32.toNat payload)
    (hbytes : source.bytes = payloads.flatMap frame) (hending : source.ending = .eof)
    (hfuel : payloads.length < fuel) :
    readAll (Go.readFrame limit32) some fuel source = (payloads, some (.error .eof)) := by
  have hread := (Go.refinesFrame_readFrame limit32).readAll_frames
    (fun _ payload _ _ h => ⟨payload, rfl, h⟩) (fun _ _ h => by cases h) rfl hfits hbytes hfuel
  rw [hread, hending]
  rfl

end ReadBack

theorem map_decode_of_map_encode {α : Type} {encode : α → Option (List UInt8)}
    {decode : List UInt8 → Option α}
    (hcodec : ∀ value payload, encode value = some payload → decode payload = some value)
    {values : List α} {payloads : List (List UInt8)}
    (h : values.map encode = payloads.map some) : payloads.map decode = values.map some := by
  induction values generalizing payloads with
  | nil =>
    obtain rfl : payloads = [] := by simpa using h.symm
    rfl
  | cons value values ih =>
    obtain _ | ⟨payload, payloads⟩ := payloads
    · simp at h
    simp only [List.map_cons, List.cons.injEq] at h
    rw [List.map_cons, List.map_cons, hcodec value payload h.1, ih h.2]

/-- The frames that one side writes are the frames that every other side reads. -/
theorem framing_agrees (limit : Nat) : FramingAgrees limit where
  written := by
    intro hlimit payloads hpayloads writer hroom
    refine ⟨_, (writeFrames_eq_ok_iff hroom).mpr ⟨?_, rfl⟩⟩
    intro payload hmem
    obtain ⟨hpos, hle⟩ := hpayloads payload hmem
    simp only [u32Max] at hlimit
    exact ⟨hpos, hle, by omega⟩
  readBack := by
    intro payloads error writer hwrite source hbytes hending fuel hfuel
    obtain ⟨hfits, rfl⟩ := (writeFrames_eq_ok_iff rfl).mp hwrite
    refine ⟨readAll_readFrame hfits hbytes hending hfuel, ?_, ?_⟩
    · intro α decode values hvalues
      exact readAll_readWireFrame hvalues hfits hbytes hending hfuel
    · rintro limit32 rfl
      exact readAll_goReadFrame hfits hbytes hending hfuel
  wireReadBack := by
    intro α encode decode hcodec values error writer hwrite source hbytes hending fuel hfuel
    obtain ⟨payloads, hencode, hfits, rfl⟩ := (writeWireFrames_eq_ok_iff rfl).mp hwrite
    have hlength : values.length = payloads.length := by
      simpa using congrArg List.length hencode
    have hvalues : payloads.map decode = values.map some := map_decode_of_map_encode hcodec hencode
    exact readAll_readWireFrame hvalues hfits hbytes hending (by omega)
  proper := by
    intro payload more hpayload hmore source hframe
    refine ⟨fun payload' => ?_, fun decode value => ?_, ?_,
      Typescript.settled_nativeRoundTrip_proper hpayload hmore hframe⟩
    · refine (Transport.refinesFrame_readFrame limit).result_ne_of_proper hpayload hframe hmore ?_
      rintro (_ | _) (_ | _ | _ | _ | _) h <;> simp_all [FrameErrors.outcome]
    · refine (refinesFrame_readWireFrame decode limit).result_ne_of_proper hpayload hframe hmore ?_
      rintro (_ | _) (_ | _ | _ | _ | _) h <;> simp_all [FrameErrors.outcome, decodeFrame]
    · rintro limit32 rfl payload'
      refine (Go.refinesFrame_readFrame limit32).result_ne_of_proper hpayload hframe hmore ?_
      rintro (_ | _) (_ | _ | _ | _ | _) h <;> simp_all [Go.outcome]
  header := by
    intro header rest hheader hlength source hbytes
    have hparse : parseFrame limit source.bytes = .badLength (ofBeBytes header) rest := by
      rw [hbytes, parseFrame_append hheader, if_pos hlength]
    refine ⟨?_, fun decode => ?_, ?_⟩
    · rw [(Transport.refinesFrame_readFrame limit).result,
        (Transport.refinesFrame_readFrame limit).rest, hparse]
      exact ⟨rfl, rfl⟩
    · rw [(refinesFrame_readWireFrame decode limit).result,
        (refinesFrame_readWireFrame decode limit).rest, hparse]
      exact ⟨rfl, rfl⟩
    · rintro limit32 rfl
      rw [(Go.refinesFrame_readFrame limit32).result, (Go.refinesFrame_readFrame limit32).rest,
        hparse]
      exact ⟨rfl, rfl⟩
  single := by
    intro payload hpayload chunks hbytes request later
    obtain rfl | ⟨before, chunk, rfl⟩ := List.eq_nil_or_concat chunks
    · have hlength := congrArg List.length hbytes
      simp at hlength
      omega
    have hbefore : (before.flatMap Chunk.bytes).length < (frame payload).length := by
      have hchunk := List.length_pos_iff.mpr chunk.ne_nil
      rw [← hbytes, List.concat_eq_append, List.flatMap_append, List.length_append,
        List.flatMap_singleton]
      omega
    rw [List.concat_eq_append] at hbytes ⊢
    rw [← List.append_nil (frame payload)] at hbytes
    rw [Typescript.settled_nativeRoundTrip hpayload hbytes hbefore, if_pos rfl]
  trailing := by
    intro payload extra hpayload hextra before chunk hbytes hbefore request later
    rw [Typescript.settled_nativeRoundTrip hpayload hbytes hbefore, if_neg hextra]
  served := by
    intro δ codec dispatch connection payloads replies hroom hending hbytes hpayloads hencode
      hreplies fuel hfuel
    have hlength : payloads.length = replies.length := by
      simpa using congrArg List.length hencode
    exact ⟨hlength.symm,
      serveConnection_frames hroom hending hbytes hpayloads hreplies hencode hfuel⟩

def twoFrames : ByteSource :=
  ⟨[⟨[0, 0, 0], by decide⟩, ⟨[1, 7, 0, 0, 0, 2, 8], by decide⟩, ⟨[9], by decide⟩], .eof⟩

def announced (length : UInt8) : ByteSource := ⟨[⟨[0, 0, 0, length], by simp⟩], .eof⟩

/-- Two frames are read by the sidecar and by Go, and TypeScript takes no second one; nobody
takes a header alone, or one above the limit. -/
theorem framing_agrees_twoFrames :
    readAll (readFrame 16) id 3 twoFrames = ([[7], [8, 9]], some (.ok none)) ∧
      readAll (Go.readFrame 16) some 3 twoFrames = ([[7], [8, 9]], some (.error .eof)) ∧
      (Typescript.nativeRoundTrip [] 16 (.connect :: twoFrames.chunks.map .data)).settled =
        some (.error Typescript.RoundTrip.trailingBytes) ∧
      (∀ payload, (Go.readFrame 16 (announced 1)).1 ≠ .ok payload) ∧
      (readFrame 16 (announced 17)).1 = .error (outsideBound 17) := by
  have hlaw := framing_agrees 16
  have hwrite : writeFrames 16 [[7], [8, 9]] ⟨[], none, earlyEof⟩ =
      (.ok (), ⟨twoFrames.bytes, none, earlyEof⟩) := rfl
  have hseven : Framable 16 [7] := ⟨by decide, by decide, by decide⟩
  obtain ⟨hread, -, hgo⟩ := hlaw.readBack _ _ _ hwrite twoFrames rfl rfl 3 (by decide)
  refine ⟨hread, hgo 16 rfl, ?_, ?_, ?_⟩
  · exact hlaw.trailing [7] [0, 0, 0, 2, 8] hseven (by decide) [⟨[0, 0, 0], _⟩] _ rfl (by decide)
      [] [.data ⟨[9], _⟩]
  · exact (hlaw.proper [7] [7] hseven (by decide) (announced 1) rfl).2.2.1 16 rfl
  · exact (hlaw.header [0, 0, 0, 17] [] rfl (.inr (by decide)) (announced 17) rfl).1.1

end NexusCua.Sdk
