import NexusCua.Foundation.ByteSource

/-!
# Length-prefixed frames

A frame is a payload behind its length as a four-byte big-endian word.
`parseFrame` says what the bytes of a stream begin with.  A reader refines it when
its answer and the bytes it leaves are a function of what is parsed and of how
the stream ends; then the chunks do not matter, and a sequence of frames is read
back as the sequence of its payloads.
-/

namespace NexusCua.Foundation

def frame (payload : List UInt8) : List UInt8 := toBeBytes payload.length ++ payload

/-- The payloads that a header can announce and a reader with this limit takes. -/
structure Framable (limit : Nat) (payload : List UInt8) : Prop where
  pos : 0 < payload.length
  le_limit : payload.length ≤ limit
  lt_word : payload.length < 2 ^ 32

inductive ParsedFrame where
  | nothing
  | shortHeader
  | badLength (length : Nat) (rest : List UInt8)
  | shortPayload (body : List UInt8)
  | frame (payload rest : List UInt8)
  deriving DecidableEq, Repr

def ParsedFrame.rest : ParsedFrame → List UInt8
  | .badLength _ rest => rest
  | .frame _ rest => rest
  | _ => []

def parseFrame (limit : Nat) (bytes : List UInt8) : ParsedFrame :=
  if bytes = [] then .nothing
  else if bytes.length < 4 then .shortHeader
  else
    let length := ofBeBytes (bytes.take 4)
    let body := bytes.drop 4
    if length = 0 ∨ limit < length then .badLength length body
    else if body.length < length then .shortPayload body
    else .frame (body.take length) (body.drop length)

@[simp] theorem length_frame (payload : List UInt8) :
    (frame payload).length = 4 + payload.length := by
  simp [frame]

@[simp] theorem parseFrame_nil (limit : Nat) : parseFrame limit [] = .nothing := rfl

theorem parseFrame_append {header : List UInt8} (hheader : header.length = 4) (limit : Nat)
    (body : List UInt8) :
    parseFrame limit (header ++ body) =
      if ofBeBytes header = 0 ∨ limit < ofBeBytes header then .badLength (ofBeBytes header) body
      else if body.length < ofBeBytes header then .shortPayload body
      else .frame (body.take (ofBeBytes header)) (body.drop (ofBeBytes header)) := by
  have hne : header ++ body ≠ [] := by
    intro h
    simp [(List.append_eq_nil_iff.mp h).1] at hheader
  have hlength : ¬ (header ++ body).length < 4 := by
    rw [List.length_append]
    omega
  rw [parseFrame, if_neg hne, if_neg hlength]
  simp only [List.take_left' hheader, List.drop_left' hheader]

theorem parseFrame_frame {limit : Nat} {payload : List UInt8} (h : Framable limit payload)
    (rest : List UInt8) : parseFrame limit (frame payload ++ rest) = .frame payload rest := by
  obtain ⟨hpos, hlimit, hword⟩ := h
  rw [frame, List.append_assoc, parseFrame_append (length_toBeBytes _), ofBeBytes_toBeBytes hword,
    if_neg (by omega), if_neg (by simp)]
  simp

def ParsedFrame.incomplete : ParsedFrame → Bool
  | .nothing | .shortHeader | .shortPayload _ => true
  | _ => false

theorem parseFrame_proper {payload bytes more : List UInt8} (hword : payload.length < 2 ^ 32)
    (hframe : frame payload = bytes ++ more) (hmore : more ≠ []) (limit : Nat) :
    (parseFrame limit bytes).incomplete = true ∨
      (payload.length = 0 ∨ limit < payload.length) ∧
        ∃ rest, parseFrame limit bytes = .badLength payload.length rest := by
  by_cases hshort : bytes.length < 4
  · left
    rw [parseFrame]
    split <;> simp [ParsedFrame.incomplete]
  · have htake : (bytes ++ more).take 4 = bytes.take 4 :=
      List.take_append_of_le_length (by omega)
    have hheader : bytes.take 4 = toBeBytes payload.length := by
      rw [← htake, ← hframe, frame, List.take_left' (length_toBeBytes _)]
    have hlength : bytes.length < 4 + payload.length := by
      have := congrArg List.length hframe
      have hmore := List.length_pos_iff.mpr hmore
      rw [length_frame, List.length_append] at this
      omega
    rw [← List.take_append_drop 4 bytes, hheader, parseFrame_append (length_toBeBytes _),
      ofBeBytes_toBeBytes hword, List.length_drop]
    split
    case isTrue h => exact .inr ⟨h, _, rfl⟩
    case isFalse h =>
      left
      simp [show bytes.length - 4 < payload.length by omega, ParsedFrame.incomplete]

theorem parseFrame_ne_frame_of_proper {payload bytes more : List UInt8}
    (hword : payload.length < 2 ^ 32) (hframe : frame payload = bytes ++ more) (hmore : more ≠ [])
    (limit : Nat) (payload' rest : List UInt8) : parseFrame limit bytes ≠ .frame payload' rest := by
  intro h
  obtain hparse | ⟨-, _, hparse⟩ := parseFrame_proper hword hframe hmore limit
  · simp [h, ParsedFrame.incomplete] at hparse
  · simp [h] at hparse

variable {ε α β : Type}

/-! ## Writers -/

def u32Max : Nat := 2 ^ 32 - 1

def writeFrameWith (outside : Nat → ε) (io : IoError → ε) (payload : List UInt8) (limit : Nat)
    (writer : ByteSink) : Except ε Unit × ByteSink :=
  if payload = [] ∨ limit < payload.length ∨ u32Max < payload.length then
    (.error (outside payload.length), writer)
  else
    match writer.writeAll (toBeBytes payload.length) with
    | (.error error, writer) => (.error (io error), writer)
    | (.ok (), writer) =>
        match writer.writeAll payload with
        | (.error error, writer) => (.error (io error), writer)
        | (.ok (), writer) => (.ok (), writer)

theorem framable_iff {limit : Nat} {payload : List UInt8} :
    Framable limit payload ↔
      ¬ (payload = [] ∨ limit < payload.length ∨ u32Max < payload.length) := by
  have hpos : 0 < payload.length ↔ payload ≠ [] := List.length_pos_iff
  constructor
  · rintro ⟨h, hlimit, hword⟩
    simp only [u32Max]
    have hne := hpos.mp h
    rintro (hnil | hlong | hlong)
    · exact hne hnil
    · omega
    · omega
  · intro h
    simp only [not_or, u32Max] at h
    exact ⟨hpos.mpr h.1, by omega, by omega⟩

theorem writeFrameWith_eq_ok_iff {outside : Nat → ε} {io : IoError → ε} {limit : Nat}
    {payload : List UInt8} {writer writer' : ByteSink} (hroom : writer.room = none) :
    writeFrameWith outside io payload limit writer = (.ok (), writer') ↔
      Framable limit payload ∧ writer' = writer.append (frame payload) := by
  rw [writeFrameWith, framable_iff]
  split
  case isTrue h => simp [h]
  case isFalse h =>
    rw [ByteSink.writeAll_of_room_none hroom]
    dsimp only
    rw [ByteSink.writeAll_of_room_none (by simpa using hroom), ByteSink.append_append, ← frame]
    simp [h, eq_comm]

def writeAll (write : α → ByteSink → Except ε Unit × ByteSink) :
    List α → ByteSink → Except ε Unit × ByteSink
  | [], writer => (.ok (), writer)
  | value :: values, writer =>
      match write value writer with
      | (.error error, writer) => (.error error, writer)
      | (.ok (), writer) => writeAll write values writer

/-- A writer that puts one frame for each value produces the frames of the
encodings, and succeeds for exactly the values whose encoding a frame can hold. -/
theorem writeAll_eq_ok_iff {write : α → ByteSink → Except ε Unit × ByteSink}
    {encode : α → Option (List UInt8)} {limit : Nat}
    (hwrite : ∀ {value : α} {writer writer' : ByteSink}, writer.room = none →
      (write value writer = (.ok (), writer') ↔
        ∃ payload, encode value = some payload ∧ Framable limit payload ∧
          writer' = writer.append (frame payload)))
    {values : List α} {writer writer' : ByteSink} (hroom : writer.room = none) :
    writeAll write values writer = (.ok (), writer') ↔
      ∃ payloads : List (List UInt8), values.map encode = payloads.map some ∧
        (∀ payload ∈ payloads, Framable limit payload) ∧
        writer' = writer.append (payloads.flatMap frame) := by
  induction values generalizing writer with
  | nil =>
    constructor
    · intro h
      obtain rfl : writer = writer' := (Prod.mk.inj h).2
      exact ⟨[], rfl, by simp, by simp⟩
    · rintro ⟨payloads, hpayloads, -, rfl⟩
      obtain rfl : payloads = [] := by simpa using hpayloads.symm
      simp [writeAll]
  | cons value values ih =>
    have hroom' (payload : List UInt8) : (writer.append (frame payload)).room = none := hroom
    rw [writeAll]
    constructor
    · intro h
      split at h
      case h_1 => simp at h
      case h_2 writer₁ hvalue =>
        obtain ⟨payload, hencode, hfits, rfl⟩ := (hwrite hroom).mp hvalue
        obtain ⟨payloads, hvalues, hrest, rfl⟩ := (ih (hroom' payload)).mp h
        exact ⟨payload :: payloads, by simp [hencode, hvalues],
          List.forall_mem_cons.mpr ⟨hfits, hrest⟩, by simp⟩
    · rintro ⟨_ | ⟨payload, payloads⟩, hpayloads, hfits, rfl⟩
      · simp at hpayloads
      simp only [List.map_cons, List.cons.injEq] at hpayloads
      rw [List.forall_mem_cons] at hfits
      rw [(hwrite hroom).mpr ⟨payload, hpayloads.1, hfits.1, rfl⟩]
      exact (ih (hroom' payload)).mpr ⟨payloads, hpayloads.2, hfits.2, by simp⟩

/-! ## Readers -/

structure RefinesFrame (limit : Nat) (outcome : Ending → ParsedFrame → Except ε α)
    (read : ByteSource → Except ε α × ByteSource) : Prop where
  result : ∀ source, (read source).1 = outcome source.ending (parseFrame limit source.bytes)
  rest : ∀ source, (read source).2.bytes = (parseFrame limit source.bytes).rest
  ending : ∀ source, (read source).2.ending = source.ending

namespace RefinesFrame

variable {limit : Nat} {outcome : Ending → ParsedFrame → Except ε α}
  {read : ByteSource → Except ε α × ByteSource} (hread : RefinesFrame limit outcome read)
  {source : ByteSource} {payload rest more : List UInt8}
include hread

theorem read_frame (hpayload : Framable limit payload)
    (hbytes : source.bytes = frame payload ++ rest) :
    ∃ source', read source = (outcome source.ending (.frame payload rest), source') ∧
      source'.bytes = rest ∧ source'.ending = source.ending := by
  have hresult := hread.result source
  have hrest := hread.rest source
  rw [hbytes, parseFrame_frame hpayload] at hresult hrest
  exact ⟨(read source).2, Prod.ext hresult rfl, hrest, hread.ending source⟩

theorem read_nothing (hbytes : source.bytes = []) :
    ∃ source', read source = (outcome source.ending .nothing, source') := by
  have hresult := hread.result source
  rw [hbytes, parseFrame_nil] at hresult
  exact ⟨(read source).2, Prod.ext hresult rfl⟩

/-- Before a frame is complete no answer is given that only a frame gives. -/
theorem result_ne_of_proper (hpayload : Framable limit payload)
    (hframe : frame payload = source.bytes ++ more) (hmore : more ≠ []) {answer : Except ε α}
    (hanswer : ∀ ending parsed, outcome ending parsed = answer →
      ∃ payload rest, parsed = .frame payload rest) : (read source).1 ≠ answer := by
  intro h
  obtain ⟨payload', rest, hparse⟩ := hanswer _ _ ((hread.result source).symm.trans h)
  exact parseFrame_ne_frame_of_proper hpayload.lt_word hframe hmore limit payload' rest hparse

end RefinesFrame

structure FrameErrors (ε : Type) where
  io : IoError → ε
  header : IoError → ε
  length : Nat → ε
  payload : IoError → ε

/-- One byte to see whether there is a frame, the rest of the header, the check of
the length and then the payload. -/
def readFrameWith (errors : FrameErrors ε) (limit : Nat) (source : ByteSource) :
    Except ε (Option (List UInt8)) × ByteSource :=
  match source.read 1 with
  | none =>
      match source.ending with
      | .eof => (.ok none, source)
      | .failed error => (.error (errors.io error), source)
  | some (first, source) =>
      match source.readExact 3 with
      | (.error error, source) => (.error (errors.header error), source)
      | (.ok others, source) =>
          let length := ofBeBytes (first ++ others)
          if length = 0 ∨ limit < length then (.error (errors.length length), source)
          else
            match source.readExact length with
            | (.error error, source) => (.error (errors.payload error), source)
            | (.ok payload, source) => (.ok (some payload), source)

def FrameErrors.outcome (errors : FrameErrors ε) (ending : Ending) :
    ParsedFrame → Except ε (Option (List UInt8))
  | .nothing =>
      match ending with
      | .eof => .ok none
      | .failed error => .error (errors.io error)
  | .shortHeader => .error (errors.header ending.error)
  | .badLength length _ => .error (errors.length length)
  | .shortPayload _ => .error (errors.payload ending.error)
  | .frame payload _ => .ok (some payload)

theorem refinesFrame_readFrameWith (errors : FrameErrors ε) (limit : Nat) :
    RefinesFrame limit errors.outcome (readFrameWith errors limit) := by
  suffices h : ∀ source : ByteSource,
      (readFrameWith errors limit source).1 =
          errors.outcome source.ending (parseFrame limit source.bytes) ∧
        (readFrameWith errors limit source).2.bytes = (parseFrame limit source.bytes).rest ∧
        (readFrameWith errors limit source).2.ending = source.ending from
    ⟨fun source => (h source).1, fun source => (h source).2.1, fun source => (h source).2.2⟩
  intro source
  rw [readFrameWith]
  cases hread : source.read 1 with
  | none =>
    obtain ⟨chunks, ending⟩ := source
    obtain rfl : chunks = [] := congrArg ByteSource.chunks (ByteSource.read_none hread)
    cases ending <;> exact ⟨rfl, rfl, rfl⟩
  | some result =>
    obtain ⟨first, source₁⟩ := result
    obtain ⟨hbytes, hending₁, hpos, hle⟩ := ByteSource.read_some hread
    have hfirst : first ≠ [] := List.length_pos_iff.mp hpos
    dsimp only
    rw [← hending₁, hbytes]
    by_cases hheader : source₁.bytes.length < 3
    · -- the stream ends inside the header
      have hparse : parseFrame limit (first ++ source₁.bytes) = .shortHeader := by
        rw [parseFrame, if_neg (by simp [hfirst]), if_pos (by rw [List.length_append]; omega)]
      rw [ByteSource.readExact_short hheader, hparse]
      exact ⟨rfl, rfl, rfl⟩
    · obtain ⟨source₂, hexact, hbytes₂, hending₂⟩ :=
        ByteSource.readExact_enough (show 3 ≤ source₁.bytes.length by omega)
      have hlength : (first ++ source₁.bytes.take 3).length = 4 := by
        rw [List.length_append, List.length_take]
        omega
      have hsplit : first ++ source₁.bytes = (first ++ source₁.bytes.take 3) ++ source₂.bytes := by
        rw [List.append_assoc, hbytes₂, List.take_append_drop]
      rw [hexact, hsplit, parseFrame_append hlength, ← hending₂]
      dsimp only
      split
      · exact ⟨rfl, rfl, rfl⟩
      · by_cases hpayload : source₂.bytes.length < ofBeBytes (first ++ source₁.bytes.take 3)
        · rw [if_pos hpayload, ByteSource.readExact_short hpayload]
          exact ⟨rfl, rfl, rfl⟩
        · obtain ⟨source₃, hexact₃, hbytes₃, hending₃⟩ :=
            ByteSource.readExact_enough (Nat.le_of_not_lt hpayload)
          rw [if_neg hpayload, hexact₃]
          exact ⟨rfl, hbytes₃, hending₃⟩

def readAll (read : ByteSource → Except ε α × ByteSource) (item : α → Option β) :
    Nat → ByteSource → List β × Option (Except ε α)
  | 0, _ => ([], none)
  | fuel + 1, source =>
      match read source with
      | (.error error, _) => ([], some (.error error))
      | (.ok answer, source) =>
          match item answer with
          | none => ([], some (.ok answer))
          | some value =>
              let (values, stop) := readAll read item fuel source
              (value :: values, stop)

/-- What the stream of the frames of some payloads is read back as, for a reader
that turns each payload into an item. -/
theorem RefinesFrame.readAll_frames {limit : Nat}
    {outcome : Ending → ParsedFrame → Except ε α}
    {read : ByteSource → Except ε α × ByteSource} (hread : RefinesFrame limit outcome read)
    {item : α → Option β} {decode : List UInt8 → Option β}
    (hframe : ∀ ending payload rest value, decode payload = some value →
      ∃ answer, outcome ending (.frame payload rest) = .ok answer ∧ item answer = some value)
    (hnothing : ∀ ending answer, outcome ending .nothing = .ok answer → item answer = none)
    {payloads : List (List UInt8)} {values : List β} {source : ByteSource} {fuel : Nat}
    (hvalues : payloads.map decode = values.map some)
    (hfits : ∀ payload ∈ payloads, Framable limit payload)
    (hbytes : source.bytes = payloads.flatMap frame) (hfuel : payloads.length < fuel) :
    readAll read item fuel source = (values, some (outcome source.ending .nothing)) := by
  induction payloads generalizing values source fuel with
  | nil =>
    obtain ⟨fuel, rfl⟩ := Nat.exists_eq_succ_of_ne_zero (Nat.ne_of_gt hfuel)
    obtain rfl : values = [] := by simpa using hvalues.symm
    obtain ⟨source', heq⟩ := hread.read_nothing hbytes
    rw [readAll, heq]
    cases houtcome : outcome source.ending .nothing with
    | error error => rfl
    | ok answer => simp [hnothing _ _ houtcome]
  | cons payload payloads ih =>
    obtain ⟨fuel, rfl⟩ := Nat.exists_eq_succ_of_ne_zero (Nat.ne_of_gt (Nat.zero_lt_of_lt hfuel))
    obtain _ | ⟨value, values⟩ := values
    · simp at hvalues
    simp only [List.map_cons, List.cons.injEq] at hvalues
    have hpayload := hfits payload (by simp)
    have hfits : ∀ payload ∈ payloads, Framable limit payload :=
      fun payload hmem => hfits payload (List.mem_cons_of_mem _ hmem)
    rw [List.flatMap_cons] at hbytes
    obtain ⟨source', heq, hrest, hending⟩ := hread.read_frame hpayload hbytes
    obtain ⟨answer, hanswer, hitem⟩ :=
      hframe source.ending payload (payloads.flatMap frame) value hvalues.1
    rw [readAll, heq, hanswer]
    dsimp only
    rw [hitem]
    dsimp only
    rw [ih hvalues.2 hfits hrest (by simpa using hfuel), hending]

end NexusCua.Foundation
