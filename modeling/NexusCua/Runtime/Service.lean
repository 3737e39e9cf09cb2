import NexusCua.Runtime.State
import NexusCua.Runtime.Validation

/-!
# The commands of the runtime

One program for every command, with the errors it returns.  Operations that do
not read the configuration come first; the commands follow in the order of the
source.
-/

namespace NexusCua.Runtime

open NexusCua.Foundation NexusCua.Protocol

/-! ## Errors -/

def sessionUnavailable : CuaError :=
  publicError .sessionUnavailable "session is missing, expired, or closed" false
    (some "open_new_session")

def runtimeUnavailable : CuaError :=
  publicError .sessionUnavailable "runtime is shutting down or unavailable" true
    (some "restart_runtime")

def referenceNotFound : CuaError :=
  publicError .referenceNotFound "reference does not exist in this session" false
    (some "refresh_references")

def capabilityDenied : CuaError :=
  publicError .capabilityDenied "session capability does not authorize this operation" false
    (some "request_new_bounded_session")

def staleClipboard : CuaError :=
  (publicError .staleClipboard "clipboard guard is missing, consumed, or no longer current" true
    (some "read_clipboard_again")).withMutationStatus .notDispatched

def internalError (message : String) (recoveryAction : Option String) : CuaError :=
  publicError .internal message false recoveryAction

def busyError (message recoveryAction : String) : CuaError :=
  publicError .busy message true (some recoveryAction)

variable {χ α : Type}

/-! ## Driver replies -/

/-- Wait for the driver; its error is projected by `CuaError::from`. -/
def askDriver (reply : RuntimeReply → Option (Except DriverError α)) :
    RuntimeProgram CuaError α := do
  let outcome ← Async.receive reply
  Async.ofExcept (outcome.mapError DriverError.toCuaError)

def askListing (event : α → RuntimeEvent) (reply : RuntimeReply → Option (Except DriverError α)) :
    RuntimeProgram CuaError α := do
  let outcome ← Async.atomic fun i s =>
    match reply i with
    | none => none
    | some (.ok listed) => some (s, [event listed], Except.ok listed)
    | some (.error error) => some (s, [], Except.error error)
  Async.ofExcept (outcome.mapError DriverError.toCuaError)

def listApplications : RuntimeProgram CuaError (List DriverApplication) :=
  askListing .applicationsListed fun
    | .applications outcome => some outcome
    | _ => none

def listLaunchableApplications : RuntimeProgram CuaError (List DriverLaunchableApplication) :=
  askListing .launchablesListed fun
    | .launchables outcome => some outcome
    | _ => none

/-! ## The scheduler lock -/

def lockScheduler (update : RuntimeState → RuntimeState) (done : RuntimeEvent) :
    RuntimeProgram CuaError Unit := do
  let poisoned ← Async.atomic fun _ s =>
    if s.schedulerPoisoned then some (s, [.schedulerLocked true], true)
    else some (update s, [.schedulerLocked false, done], false)
  if poisoned then .fail runtimeUnavailable else pure ()

def RuntimeState.installScheduler (s : RuntimeState) : RuntimeState :=
  if s.schedulerHeld then s
  else { s with scheduler := some ⟨.reschedule, 0, false, false⟩, schedulerHeld := true }

def ExpirationScheduler.send (scheduler : ExpirationScheduler) (signal : SchedulerSignal) :
    ExpirationScheduler :=
  { scheduler with signal := signal, version := scheduler.version + 1 }

def RuntimeState.reschedule (s : RuntimeState) : RuntimeState :=
  if s.schedulerHeld then { s with scheduler := s.scheduler.map (·.send .reschedule) } else s

def ensureScheduler : RuntimeProgram CuaError Unit :=
  lockScheduler RuntimeState.installScheduler .ensured

def signalReschedule : RuntimeProgram CuaError Unit :=
  lockScheduler RuntimeState.reschedule .rescheduled

/-! ## Artifacts of a removed session -/

/-- `ArtifactStore::remove_session` -/
def removeSessionArtifacts (sessionId : SessionId) : RuntimeProgram χ Unit := do
  Async.atomic fun _ s =>
    some ({ s with store := s.store.removeIndex sessionId }, [.indexRemoved sessionId], ())
  Async.atomic fun _ s =>
    some ({ s with store := s.store.removeDirectory sessionId }, [.directoryRemoved sessionId], ())

def removeAllArtifacts : List SessionId → RuntimeProgram χ Unit
  | [] => pure ()
  | sessionId :: rest => do
      removeSessionArtifacts sessionId
      removeAllArtifacts rest

/-! ## Sessions -/

/-- Closing these sessions calls `session_closed` for those that are open. -/
def closingEvents (s : RuntimeState) (sessionIds : List SessionId) : List RuntimeEvent :=
  .closeCalled sessionIds :: (sessionIds.filter s.isOpen).map .sessionClosed

inductive SessionLookup where
  | missing
  | expired
  | live (session : Session)
  deriving DecidableEq, Repr

/-- The lookup under the write lock of the map, which closes an expired session. -/
def lookupSession (sessionId : SessionId) : RuntimeProgram χ SessionLookup :=
  Async.atomic fun _ s =>
    if s.sessions.contains sessionId then
      match s.heap.lookup sessionId with
      | none => none
      | some entry =>
          if entry.session.expiresAt ≤ s.now then
            some ((s.closeSession sessionId).unmap [sessionId],
              .unmapped [sessionId] :: closingEvents s [sessionId], .expired)
          else some (s, [.resolved sessionId entry.session], .live entry.session)
    else some (s, [], .missing)

def resolveSession (sessionId : SessionId) : RuntimeProgram CuaError Session := do
  let found ← lookupSession sessionId
  match found with
  | .live session => pure session
  | .missing => .fail sessionUnavailable
  | .expired => do
      removeSessionArtifacts sessionId
      signalReschedule
      .fail sessionUnavailable

def readTables (sessionId : SessionId) (read : SessionState → α) : RuntimeProgram χ α :=
  Async.atomic fun _ s =>
    match s.heap.lookup sessionId with
    | none => none
    | some entry => some (s, [], read entry.state)

def updateTables (sessionId : SessionId) (update : Nat → SessionState → α × Nat × SessionState) :
    RuntimeProgram χ α :=
  Async.atomic fun _ s =>
    match s.heap.lookup sessionId with
    | none => none
    | some entry =>
        let (value, issued, state) := update s.issued entry.state
        some ({ s.modifyTables sessionId fun _ => state with issued := issued }, [], value)

def findWindow (sessionId : SessionId) (windowRef : WindowRef) :
    RuntimeProgram χ (Option DriverWindow) :=
  Async.atomic fun _ s =>
    match s.heap.lookup sessionId with
    | none => none
    | some entry =>
        match entry.state.windows.lookup windowRef with
        | none => some (s, [], none)
        | some window => some (s, [.windowFound sessionId windowRef window], some window)

/-- The window behind a reference, if the session was granted its application. -/
def authorizedWindow (session : Session) (windowRef : WindowRef) :
    RuntimeProgram CuaError DriverWindow := do
  let window ← findWindow session.id windowRef
  match window with
  | none => .fail referenceNotFound
  | some window =>
      if session.allowsApplication window.application then pure window
      else .fail capabilityDenied

/-! ## Guards -/

/-- The guard cell of a session inside the runtime; its clock is the runtime's. -/
def guardEmbedding (sessionId : SessionId) :
    Async.Embedding GuardCell Unit GuardEvent RuntimeState RuntimeReply RuntimeEvent where
  look s := (s.heap.lookup sessionId).map fun entry => { entry.guard with now := s.now }
  put cell s := s.modifySession sessionId fun entry => { entry with guard := cell }
  reply
    | .none => some ()
    | _ => none
  event := .guard sessionId
  project
    | .guard other event => if other = sessionId then some event else none
    | _ => none
  project_event _ := if_pos rfl

def onGuard (sessionId : SessionId) (operation : GuardProgram α) : RuntimeProgram CuaError α :=
  (operation.embed (guardEmbedding sessionId)).mapError DriverError.toCuaError

/-- `Session::action_guard` -/
def actionGuard (sessionId : SessionId) : RuntimeProgram CuaError DriverActionGuard :=
  onGuard sessionId (Async.update fun cell => (cell.newLease, ⟨cell.nextLease, none⟩))

def dropGuard (sessionId : SessionId) (guard : DriverActionGuard) : RuntimeProgram CuaError Unit :=
  onGuard sessionId (DriverActionGuard.releaseLease guard.lease .clone)

def waitUntilIdle (sessionId : SessionId) (guard : DriverActionGuard) :
    RuntimeProgram CuaError Unit := do
  let polls ← Async.receive fun
    | .polls count => some count
    | _ => none
  onGuard sessionId (guard.waitUntilIdle polls)

/-- `session.closed || session.expires_at <= now` -/
def isRevoked (sessionId : SessionId) : RuntimeProgram CuaError Bool :=
  onGuard sessionId DriverActionGuard.isRevoked

end NexusCua.Runtime
