import NexusCua.Runtime.Actions

/-!
# The capture actor of the macOS driver

One thread keeps a few capture streams warm and answers capture commands one after the
other.  The set of live sessions is shared with the threads that start and close sessions:
what the actor does between two reads of that set is cut into steps, and sessions come
and go between them.  The native answers are inputs of the steps.  Instants are
nanoseconds.
-/

namespace NexusCua.Macos

open NexusCua.Foundation NexusCua.Protocol NexusCua.Runtime

def streamIdle : Nat := 30 * second

def maxLiveSessions : Nat := 64

def maxStreams : Nat := 2

def targetUnavailable : DriverError :=
  (DriverError.new .targetUnavailable
    "target window generation is unavailable").retryableAfter "list_windows"

structure WarmStream where
  targetKey : String
  width : Float
  height : Float
  owners : Finset String
  lastUsed : Nat
  deriving DecidableEq

structure CaptureRequest where
  sessionId : Option String
  targetKey : String
  bounds : ScreenRect
  deriving DecidableEq, Repr

/-! ## Operations on the streams -/

def hasStream (streams : List WarmStream) (targetKey : String) : Bool :=
  streams.any fun stream => stream.targetKey = targetKey

def pruneStreams (active : Finset String) (now : Nat) (streams : List WarmStream) :
    List WarmStream :=
  let owned := streams.map fun stream =>
    { stream with owners := stream.owners.filter fun id => id ∈ active }
  owned.filter fun stream => stream.owners ≠ ∅ ∧ now - stream.lastUsed < streamIdle

def isOutdated (bounds : ScreenRect) (stopped : Bool) (stream : WarmStream) : Bool :=
  stream.width.toBits ≠ bounds.width.toBits || stream.height.toBits ≠ bounds.height.toBits ||
    stopped

/-- The first stream of the target is removed if it is outdated; its owners are kept for
its successor. -/
def removeOutdated (request : CaptureRequest) (stopped : Bool) (streams : List WarmStream) :
    List WarmStream × Finset String :=
  match streams.find? fun stream => stream.targetKey = request.targetKey with
  | none => (streams, ∅)
  | some stream =>
    if isOutdated request.bounds stopped stream then
      (streams.eraseP fun stream => stream.targetKey = request.targetKey, stream.owners)
    else (streams, ∅)

def makeRoom (streams : List WarmStream) : List WarmStream :=
  if maxStreams ≤ streams.length then
    match streams.argmin WarmStream.lastUsed with
    | some oldest => streams.erase oldest
    | none => streams
  else streams

def vacate (request : CaptureRequest) (stopped : Bool) (streams : List WarmStream) :
    List WarmStream × Finset String :=
  let (streams, owners) := removeOutdated request stopped streams
  if hasStream streams request.targetKey then (streams, owners) else (makeRoom streams, owners)

def own (request : CaptureRequest) (now : Nat) (stream : WarmStream) : WarmStream :=
  { stream with
    owners := match request.sessionId with
      | some id => insert id stream.owners
      | none => stream.owners
    lastUsed := now }

def useStream (request : CaptureRequest) (now : Nat) : List WarmStream → List WarmStream
  | [] => []
  | stream :: streams =>
    if stream.targetKey = request.targetKey then own request now stream :: streams
    else stream :: useStream request now streams

/-! ## The actor -/

/-- What a finished capture answered, with the live sessions when it was admitted and
when it ended. -/
structure CaptureReply where
  request : CaptureRequest
  liveBefore : Finset String
  liveAfter : Finset String
  result : Except DriverError RgbaImage

inductive CapturePhase where
  | idle
  | pruned
  | received (request : CaptureRequest)
  | checked (request : CaptureRequest) (liveBefore : Finset String)
  | vacated (request : CaptureRequest) (liveBefore owners : Finset String)
  | started (request : CaptureRequest) (liveBefore : Finset String)
  | framed (request : CaptureRequest) (liveBefore : Finset String) (image : RgbaImage)

/-- `captured` lists the sessions with the targets they have asked for. -/
structure CaptureState where
  now : Nat
  live : Finset String
  streams : List WarmStream
  phase : CapturePhase
  captured : List (String × String)
  replies : List CaptureReply

namespace CaptureState

def initial : CaptureState := ⟨0, ∅, [], .idle, [], []⟩

def authorized (state : CaptureState) (request : CaptureRequest) : Bool :=
  match request.sessionId with
  | none => true
  | some id => id ∈ state.live

def reply (state : CaptureState) (request : CaptureRequest) (liveBefore : Finset String)
    (result : Except DriverError RgbaImage) : CaptureState :=
  { state with
    phase := .idle
    replies := state.replies ++ [⟨request, liveBefore, state.live, result⟩] }

end CaptureState

/-- The answer of a stream that is asked for a frame.  Without a frame the target is
captured once. -/
inductive FrameAnswer where
  | image (image : RgbaImage)
  | noFrame (once : Except DriverError RgbaImage)
  | failed (error : DriverError)

inductive CaptureEvent where
  | sessionStarted (id : String)
  | sessionClosed (id : String)
  | elapse (time : Nat)
  | prune
  | receive (request : CaptureRequest)
  | receiveOther
  | captureTarget (result : Except DriverError RgbaImage)
  | check
  | vacate (stopped : Bool)
  | start (result : Except DriverError Unit)
  | read (answer : FrameAnswer)
  | deliver

namespace CaptureState

def sessionStarted (state : CaptureState) (id : String) : CaptureState :=
  if maxLiveSessions ≤ state.live.card then state else { state with live := insert id state.live }

def sessionClosed (state : CaptureState) (id : String) : CaptureState :=
  { state with live := state.live.erase id }

def prune (state : CaptureState) : CaptureState :=
  { state with
    streams := pruneStreams state.live state.now state.streams
    phase := .pruned }

def receive (state : CaptureState) (request : CaptureRequest) : CaptureState :=
  { state with
    phase := .received request
    captured := match request.sessionId with
      | some id => (id, request.targetKey) :: state.captured
      | none => state.captured }

/-- A session, or a warm stream of the target, takes the way over the streams. -/
def usesStreams (state : CaptureState) (request : CaptureRequest) : Bool :=
  request.sessionId.isSome || hasStream state.streams request.targetKey

def check (state : CaptureState) (request : CaptureRequest) : CaptureState :=
  if state.authorized request then { state with phase := .checked request state.live }
  else state.reply request state.live (.error targetUnavailable)

def vacate (state : CaptureState) (request : CaptureRequest) (liveBefore : Finset String)
    (stopped : Bool) : CaptureState :=
  let (streams, owners) := Macos.vacate request stopped state.streams
  { state with streams := streams, phase := .vacated request liveBefore owners }

def start (state : CaptureState) (request : CaptureRequest) (liveBefore owners : Finset String)
    (result : Except DriverError Unit) : CaptureState :=
  if hasStream state.streams request.targetKey then
    { state with phase := .started request liveBefore }
  else
    match result with
    | .error error => state.reply request liveBefore (.error error)
    | .ok () =>
      { state with
        streams := state.streams ++ [⟨request.targetKey, request.bounds.width,
          request.bounds.height, owners, state.now⟩]
        phase := .started request liveBefore }

def read (state : CaptureState) (request : CaptureRequest) (liveBefore : Finset String)
    (answer : FrameAnswer) : CaptureState :=
  let state := { state with streams := useStream request state.now state.streams }
  match answer with
  | .image image => { state with phase := .framed request liveBefore image }
  | .noFrame (.ok image) => { state with phase := .framed request liveBefore image }
  | .noFrame (.error error) => state.reply request liveBefore (.error error)
  | .failed error =>
    let streams := state.streams.filter fun stream => stream.targetKey ≠ request.targetKey
    { state with streams := streams }.reply request liveBefore (.error error)

def deliver (state : CaptureState) (request : CaptureRequest) (liveBefore : Finset String)
    (image : RgbaImage) : CaptureState :=
  if state.authorized request then state.reply request liveBefore (.ok image)
  else state.reply request liveBefore (.error targetUnavailable)

def step (state : CaptureState) (event : CaptureEvent) : Option CaptureState :=
  match event, state.phase with
  | .sessionStarted id, _ => some (state.sessionStarted id)
  | .sessionClosed id, _ => some (state.sessionClosed id)
  | .elapse time, _ => some { state with now := state.now + time }
  | .prune, .idle => some state.prune
  | .prune, .pruned => some state.prune
  | .receive request, .pruned => some (state.receive request)
  | .receiveOther, .pruned => some { state with phase := .idle }
  | .captureTarget result, .received request =>
    if state.usesStreams request then none else some (state.reply request state.live result)
  | .check, .received request =>
    if state.usesStreams request then some (state.check request) else none
  | .vacate stopped, .checked request liveBefore => some (state.vacate request liveBefore stopped)
  | .start result, .vacated request liveBefore owners =>
    some (state.start request liveBefore owners result)
  | .read answer, .started request liveBefore => some (state.read request liveBefore answer)
  | .deliver, .framed request liveBefore image => some (state.deliver request liveBefore image)
  | _, _ => none

def run (state : CaptureState) (events : List CaptureEvent) : Option CaptureState :=
  events.foldlM step state

end CaptureState

end NexusCua.Macos
