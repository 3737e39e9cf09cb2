import NexusCua.Foundation.Table
import NexusCua.Host.Environment
import NexusCua.Protocol.Observation

/-!
# The worker registry

Bounded registration of desktop workers, placement and finite leases bound to
a worker epoch.  Every operation runs under the registry mutex, so each is one
function of the registry state; the instant, the fresh identifiers and the wall
clock it reads are its arguments.
-/

namespace NexusCua.Host

open NexusCua.Foundation NexusCua.Protocol

structure WorkerId where
  value : String
  deriving DecidableEq, Repr

structure WorkerEpoch where
  value : String
  deriving DecidableEq, Repr

structure WorkerLeaseId where
  value : String
  deriving DecidableEq, Repr

structure DesktopWorker where
  endpoint : Nat
  platform : Platform
  environment : EnvironmentDescriptor
  deriving DecidableEq, Repr

structure WorkerDescriptor where
  workerId : WorkerId
  epoch : WorkerEpoch
  platform : Platform
  environment : EnvironmentDescriptor
  maxLeases : Nat
  activeLeases : Nat
  deriving DecidableEq, Repr

structure WorkerRequirements where
  platform : Option Platform
  environmentKind : Option EnvironmentKind
  capabilities : List EnvironmentCapability
  workerId : Option WorkerId
  deriving DecidableEq, Repr

def WorkerRequirements.matches (requirements : WorkerRequirements)
    (descriptor : WorkerDescriptor) : Bool :=
  requirements.platform.all (· == descriptor.platform) &&
    requirements.environmentKind.all (· == descriptor.environment.kind) &&
    requirements.capabilities.all descriptor.environment.capabilities.contains &&
    requirements.workerId.all (· == descriptor.workerId)

structure WorkerLease where
  leaseId : WorkerLeaseId
  workerId : WorkerId
  workerEpoch : WorkerEpoch
  expiresAt : String
  deriving DecidableEq, Repr

/-- The bounds that `WorkerRegistry::new` accepts. -/
structure WorkerRegistryConfig where
  maxWorkers : Nat
  maxLeases : Nat
  maxLeaseTtl : Nat
  maxWorkers_pos : 0 < maxWorkers
  maxLeases_pos : 0 < maxLeases
  maxLeaseTtl_pos : 0 < maxLeaseTtl

inductive WorkerError where
  | invalid (message : String)
  | busy
  | staleLease
  | environment (error : EnvironmentError)
  | internal
  deriving DecidableEq, Repr

structure WorkerEntry where
  descriptor : WorkerDescriptor
  endpoint : DesktopWorker
  deriving DecidableEq, Repr

structure LeaseEntry where
  lease : WorkerLease
  expiresAt : Nat
  deriving DecidableEq, Repr

structure RegistryState where
  workers : Table WorkerId WorkerEntry
  leases : Table WorkerLeaseId LeaseEntry

namespace RegistryState

def empty : RegistryState := ⟨∅, ∅⟩

def decrementWorker (state : RegistryState) (workerId : WorkerId) : RegistryState :=
  { state with workers := state.workers.modify workerId fun entry =>
      { entry with descriptor :=
        { entry.descriptor with activeLeases := entry.descriptor.activeLeases - 1 } } }

def removeLease (state : RegistryState) (leaseId : WorkerLeaseId) (workerId : WorkerId) :
    RegistryState :=
  { state with leases := state.leases.erase leaseId }.decrementWorker workerId

def purgeExpired (state : RegistryState) (now : Nat) : RegistryState :=
  let expired := state.leases.toList.filter fun entry => entry.2.expiresAt ≤ now
  expired.foldl (fun state entry => state.removeLease entry.1 entry.2.lease.workerId) state

def register (state : RegistryState) (config : WorkerRegistryConfig) (endpoint : DesktopWorker)
    (maxLeases now : Nat) (workerId : WorkerId) (epoch : WorkerEpoch) :
    RegistryState × Except WorkerError WorkerDescriptor :=
  if maxLeases = 0 ∨ config.maxLeases < maxLeases then
    (state, .error (.invalid "worker lease capacity is outside registry bounds"))
  else
    match endpoint.environment.validate with
    | .error error => (state, .error (.environment error))
    | .ok () =>
        let state := state.purgeExpired now
        if config.maxWorkers ≤ state.workers.size then (state, .error .busy)
        else
          let descriptor : WorkerDescriptor :=
            { workerId := workerId, epoch := epoch, platform := endpoint.platform,
              environment := endpoint.environment, maxLeases := maxLeases, activeLeases := 0 }
          ({ state with workers := state.workers.insert workerId ⟨descriptor, endpoint⟩ },
            .ok descriptor)

def unregister (state : RegistryState) (workerId : WorkerId) : RegistryState × Bool :=
  match state.workers.lookup workerId with
  | none => (state, false)
  | some _ =>
      (⟨state.workers.erase workerId,
        state.leases.retain fun _ entry => entry.lease.workerId ≠ workerId⟩, true)

/-- The order of placement: the fewest active leases, then the smaller identity. -/
def placedBefore (left right : WorkerDescriptor) : Bool :=
  left.activeLeases < right.activeLeases ||
    (left.activeLeases == right.activeLeases && decide (left.workerId.value < right.workerId.value))

def select (state : RegistryState) (requirements : WorkerRequirements) :
    Option WorkerDescriptor :=
  let candidates := (state.workers.toList.map fun entry => entry.2.descriptor).filter
    fun descriptor => requirements.matches descriptor &&
      decide (descriptor.activeLeases < descriptor.maxLeases)
  candidates.foldl (fun best candidate =>
    match best with
    | none => some candidate
    | some descriptor =>
        if placedBefore candidate descriptor then some candidate else some descriptor) none

/-- `wallClock` is the formatted expiry, unless it cannot be formatted. -/
def wallExpiry (ttl : Nat) (wallClock : Option String) : Except WorkerError String :=
  if 2 ^ 63 ≤ ttl / 1000000000 then
    .error (.invalid "worker lease TTL does not fit wall-clock projection")
  else
    match wallClock with
    | none => .error .internal
    | some expiresAt => .ok expiresAt

def acquire (state : RegistryState) (config : WorkerRegistryConfig)
    (requirements : WorkerRequirements) (ttl now : Nat) (wallClock : Option String)
    (leaseId : WorkerLeaseId) : RegistryState × Except WorkerError WorkerLease :=
  if ttl = 0 ∨ config.maxLeaseTtl < ttl then
    (state, .error (.invalid "worker lease TTL is outside registry bounds"))
  else
    let state := state.purgeExpired now
    if config.maxLeases ≤ state.leases.size then (state, .error .busy)
    else
      match state.select requirements with
      | none => (state, .error .busy)
      | some selected =>
          match wallExpiry ttl wallClock with
          | .error error => (state, .error error)
          | .ok expiresAt =>
              match state.workers.lookup selected.workerId with
              | none => (state, .error .internal)
              | some worker =>
                  let lease : WorkerLease :=
                    ⟨leaseId, selected.workerId, selected.epoch, expiresAt⟩
                  (⟨state.workers.insert selected.workerId { worker with descriptor :=
                      { worker.descriptor with
                        activeLeases := worker.descriptor.activeLeases + 1 } },
                    state.leases.insert leaseId ⟨lease, now + ttl⟩⟩, .ok lease)

def release (state : RegistryState) (leaseId : WorkerLeaseId) : RegistryState × Bool :=
  match state.leases.lookup leaseId with
  | none => (state, false)
  | some entry => (state.removeLease leaseId entry.lease.workerId, true)

def list (state : RegistryState) (now : Nat) : RegistryState × List WorkerDescriptor :=
  let state := state.purgeExpired now
  (state, (state.workers.toList.map fun entry => entry.2.descriptor).mergeSort
    fun left right => !decide (right.workerId.value < left.workerId.value))

def resolve (state : RegistryState) (leaseId : WorkerLeaseId) (expectedEpoch : WorkerEpoch)
    (now : Nat) : RegistryState × Except WorkerError (WorkerLease × DesktopWorker) :=
  let state := state.purgeExpired now
  match state.leases.lookup leaseId with
  | none => (state, .error .staleLease)
  | some entry =>
      if entry.lease.workerEpoch ≠ expectedEpoch then (state, .error .staleLease)
      else
        match state.workers.lookup entry.lease.workerId with
        | none => (state, .error .staleLease)
        | some worker =>
            if worker.descriptor.epoch = entry.lease.workerEpoch then
              (state, .ok (entry.lease, worker.endpoint))
            else (state, .error .staleLease)

end RegistryState

inductive RegistryCall where
  | register (endpoint : DesktopWorker) (maxLeases : Nat)
  | unregister (workerId : WorkerId)
  | acquire (requirements : WorkerRequirements) (ttl : Nat)
  | release (leaseId : WorkerLeaseId)
  | list
  deriving DecidableEq, Repr

/-- The state after a call at the instant `now` that draws its identifiers from `issued` on. -/
def RegistryCall.apply (config : WorkerRegistryConfig) (uuids : UuidSource) (now issued : Nat)
    (wallClock : Option String) (state : RegistryState) : RegistryCall → RegistryState
  | .register endpoint maxLeases =>
      (state.register config endpoint maxLeases now ⟨uuids.issue "worker" issued⟩
        ⟨uuids.issue "epoch" (issued + 1)⟩).1
  | .unregister workerId => (state.unregister workerId).1
  | .acquire requirements ttl =>
      (state.acquire config requirements ttl now wallClock ⟨uuids.issue "lease" issued⟩).1
  | .release leaseId => (state.release leaseId).1
  | .list => (state.list now).1

namespace RegistryState

variable {state : RegistryState}

theorem lookup_removeLease {leaseId leaseId' : WorkerLeaseId}
    {workerId : WorkerId} {entry : LeaseEntry}
    (hentry : (state.removeLease leaseId' workerId).leases.lookup leaseId = some entry) :
    state.leases.lookup leaseId = some entry := by
  simp only [removeLease, decrementWorker, Table.lookup_erase_eq] at hentry
  split at hentry
  · contradiction
  · exact hentry

@[simp] theorem resolve_fst (state : RegistryState) (leaseId : WorkerLeaseId)
    (epoch : WorkerEpoch) (now : Nat) :
    (state.resolve leaseId epoch now).1 = state.purgeExpired now := by
  simp only [RegistryState.resolve]
  split
  · rfl
  · split
    · rfl
    · split
      · rfl
      · split <;> rfl

end RegistryState

end NexusCua.Host
