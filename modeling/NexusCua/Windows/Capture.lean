import NexusCua.Runtime.Actions

/-!
# The capture actor of the Windows driver

One thread holds a capture pipeline for each of a few targets and answers capture
commands one after the other.  A pipeline is labelled with the mutation generation
at which its latest image was taken, and the counter of that generation is advanced
by other threads at any time.

The native answers are inputs of the steps.  What lies between two accesses to the
shared counter is one step, and so is the start of a session, since what an image
shows depends on when its session was started.  Instants are nanoseconds.
-/

namespace NexusCua.Windows

open NexusCua.Foundation NexusCua.Protocol NexusCua.Runtime

def maxPipelines : Nat := 4

def pipelineIdle : Nat := 15 * second

/-! ## Targets and errors -/

inductive CaptureTarget where
  | window (hwnd : Int)
  | display (rawMonitor : Int)
  deriving DecidableEq, Repr

structure CaptureCommand where
  targetKey : String
  target : CaptureTarget
  screenBounds : ScreenRect
  deriving DecidableEq, Repr

structure NativeDisplay where
  rawMonitor : Int
  deviceName : String
  screenBounds : ScreenRect
  deriving DecidableEq, Repr

def captureFailure (message : String) : DriverError :=
  (DriverError.new .platform message).retryableAfter "retry_native_capture"

def targetUnavailable : DriverError :=
  (DriverError.new .targetUnavailable
    "Windows capture target generation is unavailable").retryableAfter "list_windows"

def failUnless (holds : Bool) (error : DriverError) : Except DriverError Unit :=
  if holds then .ok () else .error error

def resolveMonitor (rawMonitor : Int) (bounds : ScreenRect) (displays : List NativeDisplay) :
    Except DriverError Int :=
  match displays.find? fun display => display.rawMonitor == rawMonitor with
  | none => .error targetUnavailable
  | some display =>
      if !sameBounds display.screenBounds bounds then
        .error ((DriverError.new .staleObservation
          ("Windows display topology changed before capture (" ++ display.deviceName ++
            ")")).retryableAfter "list_displays_again")
      else .ok display.rawMonitor

def resolveTarget (command : CaptureCommand)
    (displays : Except DriverError (List NativeDisplay)) : Except DriverError CaptureTarget :=
  match command.target with
  | .display rawMonitor => do
      let displays ← displays
      let rawMonitor ← resolveMonitor rawMonitor command.screenBounds displays
      .ok (.display rawMonitor)
  | .window hwnd => .ok (.window hwnd)

/-! ## Pipelines -/

structure NativeSize where
  width : Int
  height : Int
  deriving DecidableEq, Repr

def NativeSize.isEmpty (size : NativeSize) : Bool := size.width ≤ 0 || size.height ≤ 0

/-- An image, with the number of invalidations before the session that delivered it
was started. -/
structure Shot where
  image : RgbaImage
  startedAfter : Nat
  deriving DecidableEq, Repr

/-- `startedAfter` is the number of invalidations before the session was started. -/
structure CapturePipeline where
  size : NativeSize
  startedAfter : Nat
  latestImage : Option Shot
  latestGeneration : UInt64
  lastUsed : Nat
  deriving DecidableEq, Repr

abbrev Pipelines := Table String CapturePipeline

/-- The native answers while a session is created.  A refused item comes with the text
of its status. -/
structure SessionAnswers where
  supported : Option Bool
  factory : Bool
  item : Option String
  size : Option NativeSize
  pool : Bool
  session : Bool
  start : Bool

def captureItem (answers : SessionAnswers) : Except DriverError Unit := do
  match answers.supported with
  | none => .error (captureFailure "could not query WGC support")
  | some supported =>
      failUnless supported
        (DriverError.new .unsupported "Windows Graphics Capture is not supported in this session")
  failUnless answers.factory (captureFailure "WGC activation factory is unavailable")
  match answers.item with
  | some status =>
      .error ((DriverError.new .targetUnavailable
        ("WGC target creation failed (HRESULT " ++ status ++ ")")).retryableAfter "list_windows")
  | none => .ok ()

def nonemptySize (size : Option NativeSize) : Except DriverError NativeSize :=
  match size with
  | none => .error targetUnavailable
  | some size => if size.isEmpty then .error targetUnavailable else .ok size

def startSession (answers : SessionAnswers) : Except DriverError NativeSize := do
  captureItem answers
  let size ← nonemptySize answers.size
  failUnless answers.pool (captureFailure "failed to create WGC frame pool")
  failUnless answers.session (captureFailure "failed to create WGC session")
  failUnless answers.start (captureFailure "failed to start WGC session")
  .ok size

/-- `order` is the order in which the map is iterated. -/
def evictOldest (order : List (String × CapturePipeline)) (pipelines : Pipelines) : Pipelines :=
  if maxPipelines ≤ pipelines.size then
    match order.argmin fun entry => entry.2.lastUsed with
    | some oldest => pipelines.erase oldest.1
    | none => pipelines
  else pipelines

def ensurePipeline (targetKey : String) (answers : SessionAnswers)
    (order : List (String × CapturePipeline)) (startedAfter now : Nat) (pipelines : Pipelines) :
    Except DriverError Unit × Pipelines :=
  match pipelines.lookup targetKey with
  | some _ => (.ok (), pipelines)
  | none =>
      let pipelines := evictOldest order pipelines
      match startSession answers with
      | .error error => (.error error, pipelines)
      | .ok size => (.ok (), pipelines.insert targetKey ⟨size, startedAfter, none, 0, now⟩)

def pruneIdle (now : Nat) (pipelines : Pipelines) : Pipelines :=
  pipelines.retain fun _ pipeline => now - pipeline.lastUsed < pipelineIdle

def dropOutdated (targetKey : String) (generation : UInt64) (pipelines : Pipelines) : Pipelines :=
  match pipelines.lookup targetKey with
  | none => pipelines
  | some pipeline =>
      if pipeline.latestGeneration ≠ generation then pipelines.erase targetKey else pipelines

/-! ## Frames -/

/-- The native answers while a frame is read.  No frame is a timeout; a frame is copied
or gives the text of a failure. -/
structure FrameAnswers where
  size : Option NativeSize
  recreate : Bool
  frame : Option (Except String RgbaImage)

def resize (answers : FrameAnswers) (pipeline : CapturePipeline) :
    Except DriverError CapturePipeline := do
  let size ← nonemptySize answers.size
  if size ≠ pipeline.size then do
    failUnless answers.recreate (captureFailure "failed to resize WGC frame pool")
    .ok { pipeline with size := size, latestImage := none }
  else .ok pipeline

def takeFrame (generation : UInt64) (answers : FrameAnswers) (pipeline : CapturePipeline) :
    Except DriverError Shot × CapturePipeline :=
  match answers.frame with
  | some (.ok image) =>
      let shot : Shot := ⟨image, pipeline.startedAfter⟩
      (.ok shot, { pipeline with latestImage := some shot, latestGeneration := generation })
  | some (.error message) => (.error (captureFailure message), pipeline)
  | none =>
      match pipeline.latestImage, decide (pipeline.latestGeneration = generation) with
      | some shot, true => (.ok shot, pipeline)
      | _, _ =>
          (.error ((DriverError.new .platform
            "Windows Graphics Capture frame timed out").retryableAfter "retry_native_capture"),
            pipeline)

def readFrame (generation : UInt64) (answers : FrameAnswers) (now : Nat)
    (pipeline : CapturePipeline) : Except DriverError Shot × CapturePipeline :=
  match resize answers pipeline with
  | .error error => (.error error, pipeline)
  | .ok pipeline => takeFrame generation answers { pipeline with lastUsed := now }

/-! ## The actor -/

/-- Where the thread of the actor is.  A command keeps the number of invalidations at
which its execution started. -/
inductive Phase where
  | looping
  | waiting
  | resolving (command : CaptureCommand) (startedWith : Nat)
  | ensuring (command : CaptureCommand) (startedWith : Nat) (generation : UInt64)
  | reading (command : CaptureCommand) (startedWith : Nat) (generation : UInt64)
  | stopped
  deriving DecidableEq, Repr

/-- The actor, the clock and the shared counter.  `invalidations` counts the calls of
`invalidate_after_mutation`, without bound. -/
structure CaptureSystem where
  pipelines : Pipelines
  generation : UInt64
  invalidations : Nat
  now : Nat
  phase : Phase

structure Reply where
  startedWith : Nat
  result : Except DriverError (Shot × ScreenRect)

inductive CaptureInput where
  | invalidateAfterMutation
  | tick (elapsed : Nat)
  | prune
  | timeout
  | receive (command : CaptureCommand)
  | disconnect
  | resolve (displays : Except DriverError (List NativeDisplay))
  | ensure (answers : SessionAnswers) (order : List (String × CapturePipeline))
  | read (answers : FrameAnswers)

namespace CaptureSystem

def initial : CaptureSystem := ⟨∅, 0, 0, 0, .looping⟩

def invalidateAfterMutation (s : CaptureSystem) : CaptureSystem :=
  { s with generation := s.generation + 1, invalidations := s.invalidations + 1 }

def reply (startedWith : Nat) (result : Except DriverError (Shot × ScreenRect))
    (s : CaptureSystem) : CaptureSystem × Option Reply :=
  ({ s with phase := .looping }, some ⟨startedWith, result⟩)

def resolve (command : CaptureCommand) (startedWith : Nat)
    (displays : Except DriverError (List NativeDisplay)) (s : CaptureSystem) :
    CaptureSystem × Option Reply :=
  match resolveTarget command displays with
  | .error error => s.reply startedWith (.error error)
  | .ok _ =>
      ({ s with
        pipelines := dropOutdated command.targetKey s.generation s.pipelines
        phase := .ensuring command startedWith s.generation }, none)

def ensure (command : CaptureCommand) (startedWith : Nat) (generation : UInt64)
    (answers : SessionAnswers) (order : List (String × CapturePipeline)) (s : CaptureSystem) :
    CaptureSystem × Option Reply :=
  match ensurePipeline command.targetKey answers order s.invalidations s.now s.pipelines with
  | (.error error, pipelines) =>
      ({ s with pipelines := pipelines } : CaptureSystem).reply startedWith (.error error)
  | (.ok (), pipelines) =>
      ({ s with pipelines := pipelines, phase := .reading command startedWith generation }, none)

def read (command : CaptureCommand) (startedWith : Nat) (generation : UInt64)
    (answers : FrameAnswers) (s : CaptureSystem) : Option (CaptureSystem × Option Reply) :=
  match s.pipelines.lookup command.targetKey with
  | none => none
  | some pipeline =>
      let (result, pipeline) := readFrame generation answers s.now pipeline
      some (({ s with
        pipelines := s.pipelines.insert command.targetKey pipeline } : CaptureSystem).reply
          startedWith (result.map fun shot => (shot, command.screenBounds)))

def step (input : CaptureInput) (s : CaptureSystem) : Option (CaptureSystem × Option Reply) :=
  match input, s.phase with
  | .invalidateAfterMutation, _ => some (s.invalidateAfterMutation, none)
  | .tick elapsed, _ => some ({ s with now := s.now + elapsed }, none)
  | .prune, .looping =>
      some ({ s with pipelines := pruneIdle s.now s.pipelines, phase := .waiting }, none)
  -- an actor without pipelines waits for a command only
  | .timeout, .waiting =>
      if s.pipelines.size = 0 then none else some ({ s with phase := .looping }, none)
  | .receive command, .waiting =>
      some ({ s with phase := .resolving command s.invalidations }, none)
  | .disconnect, .waiting => some ({ s with pipelines := ∅, phase := .stopped }, none)
  | .resolve displays, .resolving command startedWith =>
      some (s.resolve command startedWith displays)
  | .ensure answers order, .ensuring command startedWith generation =>
      if order.isPerm s.pipelines.toList then
        some (s.ensure command startedWith generation answers order)
      else none
  | .read answers, .reading command startedWith generation =>
      s.read command startedWith generation answers
  | _, _ => none

inductive Run : CaptureSystem → List Reply → Prop where
  | initial : Run initial []
  | step {s s' : CaptureSystem} {replies : List Reply} {sent : Option Reply} (hrun : Run s replies)
      (input : CaptureInput) (hstep : s.step input = some (s', sent)) :
      Run s' (replies ++ sent.toList)

end CaptureSystem

end NexusCua.Windows
