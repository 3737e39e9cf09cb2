import NexusCua.Foundation.Pool
import NexusCua.Foundation.Table
import NexusCua.Host.Environment

/-!
# The environment manager

The bounded coordinator of snapshots, resets and clones above one environment
provider.  Its state is behind one mutex that is never held across an await, so
a block is one critical section.  Every await is a point where the host may drop
the future of the call: the wait for the mutex, and the wait for the provider.
-/

namespace NexusCua.Host

open NexusCua.Foundation NexusCua.Protocol

structure MachineSnapshot where
  snapshotRef : String
  sourceWorkerId : String
  sourceWorkerEpoch : String
  baseImageSha256 : String
  createdAt : String
  deriving DecidableEq, Repr

structure ProvisionedEnvironment where
  environmentRef : String
  generation : String
  snapshotRef : String
  baseImageSha256 : String
  deriving DecidableEq, Repr

structure EnvironmentManagerConfig where
  maxSnapshots : Nat
  maxClones : Nat
  maxLabelBytes : Nat
  deriving DecidableEq, Repr

def EnvironmentManagerConfig.default : EnvironmentManagerConfig where
  maxSnapshots := 32
  maxClones := 64
  maxLabelBytes := 128

/-! ## Validation -/

def requireCapability (descriptor : EnvironmentDescriptor) (capability : EnvironmentCapability) :
    Except EnvironmentError Unit :=
  if capability ∈ descriptor.capabilities then .ok () else .error .unsupported

def validateOpaque (value label : String) (maxBytes : Nat) : Except EnvironmentError Unit :=
  if value.isEmpty ∨ maxBytes < value.utf8ByteSize ∨ !isTrimmed value then
    .error (.invalid (label ++ " is empty, too long, or not normalized"))
  else .ok ()

def validateProvisioned (descriptor : EnvironmentDescriptor) (snapshot : MachineSnapshot)
    (provisioned : ProvisionedEnvironment) : Except EnvironmentError Unit := do
  validateOpaque provisioned.environmentRef "environment reference" 128
  validateOpaque provisioned.generation "environment generation" 128
  if provisioned.snapshotRef ≠ snapshot.snapshotRef ∨
      provisioned.baseImageSha256 ≠ snapshot.baseImageSha256 ∨
      descriptor.baseImageSha256 ≠ some provisioned.baseImageSha256 then
    .error (.invalid "provider environment does not match the retained snapshot and base image")
  else .ok ()

/-- A manager that `EnvironmentManager::new` has built, with the parser of dates it uses. -/
structure EnvironmentManager where
  descriptor : EnvironmentDescriptor
  config : EnvironmentManagerConfig
  isRfc3339 : String → Bool
  maxSnapshots_pos : 0 < config.maxSnapshots
  maxClones_pos : 0 < config.maxClones
  maxLabelBytes_pos : 0 < config.maxLabelBytes
  valid : descriptor.validate = .ok ()

def EnvironmentManager.new (descriptor : EnvironmentDescriptor) (config : EnvironmentManagerConfig)
    (isRfc3339 : String → Bool) : Except EnvironmentError EnvironmentManager :=
  if hbounds : 0 < config.maxSnapshots ∧ 0 < config.maxClones ∧ 0 < config.maxLabelBytes then
    match hvalid : descriptor.validate with
    | .error error => .error error
    | .ok () => .ok ⟨descriptor, config, isRfc3339, hbounds.1, hbounds.2.1, hbounds.2.2, hvalid⟩
  else .error (.invalid "environment manager bounds must be non-zero")

/-! ## State -/

structure EnvironmentManagerState where
  snapshots : Table String MachineSnapshot
  clones : Table String ProvisionedEnvironment
  pendingSnapshots : Nat
  pendingClones : Nat

def EnvironmentManagerState.empty : EnvironmentManagerState := ⟨∅, ∅, 0, 0⟩

inductive ManagerReply where
  | none
  | dropFuture
  | snapshotTaken (outcome : Except EnvironmentError MachineSnapshot)
  | provisioned (outcome : Except EnvironmentError ProvisionedEnvironment)

def ManagerReply.dropsFuture : ManagerReply → Bool
  | .dropFuture => true
  | _ => false

inductive ManagerCall where
  | snapshot (workerId workerEpoch label : String)
  | reset (environmentRef snapshotRef : String)
  | cloneEnvironment (snapshotRef : String)
  | releaseClone (environmentRef : String)
  | removeSnapshot (snapshotRef : String)
  deriving DecidableEq, Repr

inductive ManagerResult where
  | snapshot (snapshot : MachineSnapshot)
  | provisioned (environment : ProvisionedEnvironment)
  | removed (found : Bool)
  deriving DecidableEq, Repr

inductive ManagerEvent where
  | snapshotReserved
  | snapshotSettled
  | snapshotRetained (snapshot : MachineSnapshot)
  | resetSource (snapshot : MachineSnapshot)
  | cloneSource (snapshot : MachineSnapshot)
  | cloneReserved
  | cloneSettled
  | cloneRetained (clone : ProvisionedEnvironment)
  | cloneReleased (environmentRef : String)
  | snapshotRemoved (snapshotRef : String)
  | dropped
  | returned (call : ManagerCall) (outcome : Except EnvironmentError ManagerResult)

inductive CallStop where
  | dropped
  | error (error : EnvironmentError)
  deriving DecidableEq, Repr

abbrev ManagerProgram (χ : Type) := Async EnvironmentManagerState ManagerReply ManagerEvent χ

variable {α : Type}

/-- An await: the block runs when it is over, unless the future is dropped there. -/
def awaiting (block : ManagerReply → EnvironmentManagerState →
    Option (EnvironmentManagerState × List ManagerEvent × α)) : ManagerProgram CallStop α := do
  let outcome ← Async.atomic fun reply s =>
    if reply.dropsFuture then some (s, [.dropped], none)
    else (block reply s).map fun out => (out.1, out.2.1, some out.2.2)
  match outcome with
  | none => .fail .dropped
  | some value => pure value

def orError (outcome : Except EnvironmentError α) : ManagerProgram CallStop α :=
  Async.ofExcept (outcome.mapError CallStop.error)

def EnvironmentManagerState.snapshotsBusy (s : EnvironmentManagerState)
    (config : EnvironmentManagerConfig) : Bool :=
  decide (config.maxSnapshots ≤ s.snapshots.size + s.pendingSnapshots)

def EnvironmentManagerState.clonesBusy (s : EnvironmentManagerState)
    (config : EnvironmentManagerConfig) : Bool :=
  decide (config.maxClones ≤ s.clones.size + s.pendingClones)

namespace EnvironmentManager

variable (manager : EnvironmentManager)

/-! ## Snapshots -/

def validateSnapshot (workerId workerEpoch : String) (snapshot : MachineSnapshot) :
    Except EnvironmentError Unit := do
  validateOpaque snapshot.snapshotRef "snapshot reference" 128
  if snapshot.sourceWorkerId ≠ workerId ∨ snapshot.sourceWorkerEpoch ≠ workerEpoch ∨
      manager.descriptor.baseImageSha256 ≠ some snapshot.baseImageSha256 ∨
      !validSha256 snapshot.baseImageSha256 ∨ !manager.isRfc3339 snapshot.createdAt then
    .error (.invalid "provider snapshot identity does not match worker epoch and base image")
  else .ok ()

def reserveSnapshot : ManagerProgram CallStop Unit := do
  let reserved ← awaiting fun _ s =>
    if s.snapshotsBusy manager.config then some (s, [], Except.error EnvironmentError.busy)
    else some ({ s with pendingSnapshots := s.pendingSnapshots + 1 }, [.snapshotReserved],
      Except.ok ())
  orError reserved

def checkSnapshot (s : EnvironmentManagerState) (workerId workerEpoch : String)
    (result : Except EnvironmentError MachineSnapshot) :
    Except EnvironmentError MachineSnapshot := do
  let snapshot ← result
  manager.validateSnapshot workerId workerEpoch snapshot
  if (s.snapshots.lookup snapshot.snapshotRef).isSome then
    .error (.invalid "provider reused a live snapshot reference")
  else .ok snapshot

def settleSnapshot (workerId workerEpoch : String)
    (result : Except EnvironmentError MachineSnapshot) :
    ManagerProgram CallStop MachineSnapshot := do
  let settled ← awaiting fun _ s =>
    let s := { s with pendingSnapshots := s.pendingSnapshots - 1 }
    match manager.checkSnapshot s workerId workerEpoch result with
    | .error error => some (s, [.snapshotSettled], Except.error error)
    | .ok snapshot =>
        some ({ s with snapshots := s.snapshots.insert snapshot.snapshotRef snapshot },
          [.snapshotSettled, .snapshotRetained snapshot], Except.ok snapshot)
  orError settled

def snapshot (workerId workerEpoch label : String) : ManagerProgram CallStop MachineSnapshot := do
  orError (requireCapability manager.descriptor .snapshot)
  orError (validateOpaque workerId "worker identity" 128)
  orError (validateOpaque workerEpoch "worker epoch" 128)
  orError (validateOpaque label "snapshot label" manager.config.maxLabelBytes)
  manager.reserveSnapshot
  let result ← awaiting fun reply s =>
    match reply with
    | .snapshotTaken outcome => some (s, [], outcome)
    | _ => none
  manager.settleSnapshot workerId workerEpoch result

/-! ## Resets -/

def provision : ManagerProgram CallStop (Except EnvironmentError ProvisionedEnvironment) :=
  awaiting fun reply s =>
    match reply with
    | .provisioned outcome => some (s, [], outcome)
    | _ => none

def retainedSnapshot (found : MachineSnapshot → ManagerEvent) (snapshotRef : String) :
    ManagerProgram CallStop MachineSnapshot := do
  orError (validateOpaque snapshotRef "snapshot reference" 128)
  let retained ← awaiting fun _ s =>
    match s.snapshots.lookup snapshotRef with
    | none => some (s, [], Except.error EnvironmentError.staleSnapshot)
    | some snapshot => some (s, [found snapshot], Except.ok snapshot)
  orError retained

def reset (environmentRef snapshotRef : String) :
    ManagerProgram CallStop ProvisionedEnvironment := do
  orError (requireCapability manager.descriptor .reset)
  orError (validateOpaque environmentRef "environment reference" 128)
  let snapshot ← retainedSnapshot .resetSource snapshotRef
  let result ← provision
  let environment ← orError result
  orError (validateProvisioned manager.descriptor snapshot environment)
  if environment.environmentRef ≠ environmentRef then
    .fail (.error (.invalid "provider reset changed the target environment reference"))
  else pure environment

/-! ## Clones -/

def reserveClone : ManagerProgram CallStop Unit := do
  let reserved ← awaiting fun _ s =>
    if s.clonesBusy manager.config then some (s, [], Except.error EnvironmentError.busy)
    else some ({ s with pendingClones := s.pendingClones + 1 }, [.cloneReserved], Except.ok ())
  orError reserved

def checkClone (s : EnvironmentManagerState) (snapshot : MachineSnapshot)
    (result : Except EnvironmentError ProvisionedEnvironment) :
    Except EnvironmentError ProvisionedEnvironment := do
  let clone ← result
  validateProvisioned manager.descriptor snapshot clone
  if (s.clones.lookup clone.environmentRef).isSome then
    .error (.invalid "provider reused a live clone environment reference")
  else .ok clone

def settleClone (snapshot : MachineSnapshot)
    (result : Except EnvironmentError ProvisionedEnvironment) :
    ManagerProgram CallStop ProvisionedEnvironment := do
  let settled ← awaiting fun _ s =>
    let s := { s with pendingClones := s.pendingClones - 1 }
    match manager.checkClone s snapshot result with
    | .error error => some (s, [.cloneSettled], Except.error error)
    | .ok clone =>
        some ({ s with clones := s.clones.insert clone.environmentRef clone },
          [.cloneSettled, .cloneRetained clone], Except.ok clone)
  orError settled

def cloneEnvironment (snapshotRef : String) : ManagerProgram CallStop ProvisionedEnvironment := do
  orError (requireCapability manager.descriptor .clone)
  let snapshot ← retainedSnapshot .cloneSource snapshotRef
  manager.reserveClone
  let result ← provision
  manager.settleClone snapshot result

def releaseClone (environmentRef : String) : ManagerProgram CallStop Bool :=
  awaiting fun _ s =>
    some ({ s with clones := s.clones.erase environmentRef }, [.cloneReleased environmentRef],
      (s.clones.lookup environmentRef).isSome)

def removeSnapshot (snapshotRef : String) : ManagerProgram CallStop Bool := do
  let removed ← awaiting fun _ s =>
    if s.clones.toList.any fun entry => entry.2.snapshotRef == snapshotRef then
      some (s, [], Except.error EnvironmentError.busy)
    else some ({ s with snapshots := s.snapshots.erase snapshotRef },
      [.snapshotRemoved snapshotRef],
      Except.ok (s.snapshots.lookup snapshotRef).isSome)
  orError removed

end EnvironmentManager

/-! ## The manager as a system -/

def ManagerCall.body (manager : EnvironmentManager) :
    ManagerCall → ManagerProgram CallStop ManagerResult
  | .snapshot workerId workerEpoch label =>
      ManagerResult.snapshot <$> manager.snapshot workerId workerEpoch label
  | .reset environmentRef snapshotRef =>
      ManagerResult.provisioned <$> manager.reset environmentRef snapshotRef
  | .cloneEnvironment snapshotRef =>
      ManagerResult.provisioned <$> manager.cloneEnvironment snapshotRef
  | .releaseClone environmentRef =>
      ManagerResult.removed <$> EnvironmentManager.releaseClone environmentRef
  | .removeSnapshot snapshotRef =>
      ManagerResult.removed <$> EnvironmentManager.removeSnapshot snapshotRef

def ManagerCall.program (manager : EnvironmentManager) (call : ManagerCall) :
    ManagerProgram Empty Unit := do
  let outcome ← (call.body manager).attempt
  match outcome with
  | .ok result => Async.report (.returned call (.ok result))
  | .error (.error error) => Async.report (.returned call (.error error))
  | .error .dropped => pure ()

def EnvironmentManager.system (manager : EnvironmentManager) :
    System EnvironmentManagerState ManagerReply ManagerEvent ManagerCall Empty where
  init s := s = .empty
  program := ManagerCall.program manager
  environment label _ := nomatch label

end NexusCua.Host
