import NexusCua.Host.Registry

/-!
# Accounting of leases

The registry keeps a counter of active leases with each worker next to the
table of leases.  The module follows both through every operation: the counter
is the number of leases that name the worker, a lease names a worker that is
registered in the lease's epoch, and a lease that has ended is never found
again.
-/

namespace NexusCua.Host

open NexusCua.Foundation NexusCua.Protocol

/-! ## The registry of a host -/

/-- `issued` counts the identifiers drawn so far. -/
structure RegistryHost where
  now : Nat
  issued : Nat
  registry : RegistryState

inductive RegistryOperation where
  | call (call : RegistryCall) (wallClock : Option String)
  | resolve (leaseId : WorkerLeaseId) (epoch : WorkerEpoch)
  | elapsed (duration : Nat)
  deriving DecidableEq, Repr

namespace RegistryHost

variable (config : WorkerRegistryConfig) (uuids : UuidSource)

def start (now : Nat) : RegistryHost := ⟨now, 0, .empty⟩

def perform (host : RegistryHost) : RegistryOperation → RegistryHost
  | .call call wallClock =>
      { host with
        issued := host.issued + 2
        registry := call.apply config uuids host.now host.issued wallClock host.registry }
  | .resolve leaseId epoch =>
      { host with registry := (host.registry.resolve leaseId epoch host.now).1 }
  | .elapsed duration => { host with now := host.now + duration }

def run (host : RegistryHost) (operations : List RegistryOperation) : RegistryHost :=
  operations.foldl (perform config uuids) host

def Unresolvable (host : RegistryHost) (leaseId : WorkerLeaseId) : Prop :=
  ∀ epoch resolved, (host.registry.resolve leaseId epoch host.now).2 ≠ .ok resolved

end RegistryHost

def WorkerEntry.idle (entry : WorkerEntry) : WorkerEntry :=
  { entry with descriptor := { entry.descriptor with activeLeases := 0 } }

def WorkerRequirements.Fits (requirements : WorkerRequirements)
    (descriptor : WorkerDescriptor) : Prop :=
  requirements.matches descriptor = true ∧ descriptor.activeLeases < descriptor.maxLeases

namespace RegistryState

variable {config : WorkerRegistryConfig} {uuids : UuidSource} {issued now : Nat}
  {state : RegistryState}

/-! ## Expiry -/

theorem lookup_leases_removeLease (state : RegistryState) (leaseId leaseId' : WorkerLeaseId)
    (workerId : WorkerId) :
    (state.removeLease leaseId' workerId).leases.lookup leaseId =
      if leaseId = leaseId' then none else state.leases.lookup leaseId :=
  Table.lookup_erase_eq _ _ _

theorem lookup_workers_removeLease (state : RegistryState) (leaseId : WorkerLeaseId)
    (workerId workerId' : WorkerId) :
    (state.removeLease leaseId workerId').workers.lookup workerId =
      if workerId = workerId' then
        (state.workers.lookup workerId).map fun entry =>
          { entry with descriptor :=
            { entry.descriptor with activeLeases := entry.descriptor.activeLeases - 1 } }
      else state.workers.lookup workerId :=
  Table.lookup_modify _ _ _ _

theorem purgeExpired_induction {P : RegistryState → Prop}
    (hstep : ∀ state leaseId entry, P state → state.leases.lookup leaseId = some entry →
      P (state.removeLease leaseId entry.lease.workerId))
    (hstate : P state) (now : Nat) : P (state.purgeExpired now) := by
  have hfold : ∀ (expired : List (WorkerLeaseId × LeaseEntry)) (state : RegistryState), P state →
      (expired.map Prod.fst).Nodup →
      (∀ leaseId entry, (leaseId, entry) ∈ expired → state.leases.lookup leaseId = some entry) →
      P (expired.foldl (fun state entry => state.removeLease entry.1 entry.2.lease.workerId)
        state) := by
    intro expired
    induction expired with
    | nil => exact fun state hstate _ _ => hstate
    | cons first rest ih =>
        intro state hstate hnodup hin
        obtain ⟨hfirst, hrest⟩ := List.nodup_cons.mp hnodup
        have hremoved := hstep state first.1 first.2 hstate (hin _ _ (List.mem_cons_self ..))
        refine ih _ hremoved hrest fun leaseId entry hmem => ?_
        have hne : leaseId ≠ first.1 := by
          rintro rfl
          exact hfirst (List.mem_map.mpr ⟨_, hmem, rfl⟩)
        rw [lookup_leases_removeLease, if_neg hne]
        exact hin _ _ (List.mem_cons_of_mem _ hmem)
  refine hfold _ state hstate ?_ fun leaseId entry hmem => ?_
  · exact (Table.nodup_map_fst_toList _).sublist (List.filter_sublist.map _)
  · exact (Table.mem_toList_iff _ _ _).mp (List.mem_filter.mp hmem).1

theorem lookup_leases_purgeExpired (state : RegistryState) (now : Nat) (leaseId : WorkerLeaseId) :
    (state.purgeExpired now).leases.lookup leaseId =
      (state.leases.lookup leaseId).filter fun entry => decide (now < entry.expiresAt) := by
  have hfold : ∀ (expired : List (WorkerLeaseId × LeaseEntry)) (state : RegistryState),
      (expired.foldl (fun state entry => state.removeLease entry.1 entry.2.lease.workerId)
        state).leases.lookup leaseId =
        if leaseId ∈ expired.map Prod.fst then none else state.leases.lookup leaseId := by
    intro expired
    induction expired with
    | nil => simp
    | cons first rest ih =>
        intro state
        rw [List.foldl_cons, ih, lookup_leases_removeLease]
        by_cases hfirst : leaseId = first.1 <;> by_cases hrest : leaseId ∈ rest.map Prod.fst <;>
          simp [hfirst, hrest]
  have hexpired : leaseId ∈ (state.leases.toList.filter fun entry =>
      decide (entry.2.expiresAt ≤ now)).map Prod.fst ↔
        ∃ entry, state.leases.lookup leaseId = some entry ∧ entry.expiresAt ≤ now := by
    simp only [List.mem_map, List.mem_filter, decide_eq_true_eq, Prod.exists, exists_and_right,
      exists_eq_right, Table.mem_toList_iff]
  rw [purgeExpired, hfold, if_congr hexpired rfl rfl]
  cases state.leases.lookup leaseId with
  | none => simp
  | some entry => by_cases hdue : entry.expiresAt ≤ now <;> simp [Option.filter, hdue]

theorem lookup_workers_purgeExpired (state : RegistryState) (now : Nat) (workerId : WorkerId) :
    ((state.purgeExpired now).workers.lookup workerId).map WorkerEntry.idle =
      (state.workers.lookup workerId).map WorkerEntry.idle := by
  refine purgeExpired_induction
    (P := fun state' => (state'.workers.lookup workerId).map WorkerEntry.idle = _)
    (fun state' leaseId entry hstate' _ => ?_) rfl now
  rw [lookup_workers_removeLease, ← hstate']
  split
  · rw [Option.map_map]
    rfl
  · rfl

/-! ## The accounts -/

def leasesOf (state : RegistryState) (workerId : WorkerId) : Nat :=
  state.leases.count fun entry => entry.lease.workerId == workerId

structure Registered (uuids : UuidSource) (issued : Nat)
    (leases : Table WorkerLeaseId LeaseEntry) (workerId : WorkerId) (entry : WorkerEntry) :
    Prop where
  named : entry.descriptor.workerId = workerId
  counted : entry.descriptor.activeLeases =
    leases.count fun lease => lease.lease.workerId == workerId
  bounded : entry.descriptor.activeLeases ≤ entry.descriptor.maxLeases
  drawn : ∃ drawn < issued, workerId = ⟨uuids.issue "worker" drawn⟩

structure Leased (uuids : UuidSource) (issued : Nat) (workers : Table WorkerId WorkerEntry)
    (leaseId : WorkerLeaseId) (entry : LeaseEntry) : Prop where
  filed : entry.lease.leaseId = leaseId
  affine : ∃ worker, workers.lookup entry.lease.workerId = some worker ∧
    worker.descriptor.epoch = entry.lease.workerEpoch
  drawn : ∃ drawn < issued, leaseId = ⟨uuids.issue "lease" drawn⟩

/-- The accounts agree, and every identity in the tables was drawn before `issued`. -/
structure Balanced (config : WorkerRegistryConfig) (uuids : UuidSource) (issued : Nat)
    (state : RegistryState) : Prop where
  worker : ∀ {workerId entry}, state.workers.lookup workerId = some entry →
    Registered uuids issued state.leases workerId entry
  lease : ∀ {leaseId entry}, state.leases.lookup leaseId = some entry →
    Leased uuids issued state.workers leaseId entry
  leases_le : state.leases.size ≤ config.maxLeases
  workers_le : state.workers.size ≤ config.maxWorkers

theorem balanced_empty : empty.Balanced config uuids issued where
  worker := by simp [empty]
  lease := by simp [empty]
  leases_le := Nat.zero_le _
  workers_le := Nat.zero_le _

theorem Balanced.mono {issued' : Nat} (hb : state.Balanced config uuids issued)
    (hle : issued ≤ issued') : state.Balanced config uuids issued' where
  worker hentry := by
    obtain ⟨hnamed, hcounted, hbounded, drawn, hdrawn, heq⟩ := hb.worker hentry
    exact ⟨hnamed, hcounted, hbounded, drawn, Nat.lt_of_lt_of_le hdrawn hle, heq⟩
  lease hentry := by
    obtain ⟨hfiled, haffine, drawn, hdrawn, heq⟩ := hb.lease hentry
    exact ⟨hfiled, haffine, drawn, Nat.lt_of_lt_of_le hdrawn hle, heq⟩
  leases_le := hb.leases_le
  workers_le := hb.workers_le

variable {leaseId : WorkerLeaseId}

/-- A worker of the table after a lease's removal was there before, with the counter it had or,
for the worker of the lease, one less. -/
theorem exists_of_lookup_workers_removeLease
    {workerId workerId' : WorkerId} {worker : WorkerEntry}
    (hworker : (state.removeLease leaseId workerId').workers.lookup workerId = some worker) :
    ∃ before, state.workers.lookup workerId = some before ∧ worker.idle = before.idle ∧
      worker.descriptor.activeLeases =
        before.descriptor.activeLeases - if workerId = workerId' then 1 else 0 := by
  rw [lookup_workers_removeLease] at hworker
  split at hworker
  · rename_i heq
    obtain ⟨before, hbefore, rfl⟩ := Option.map_eq_some_iff.mp hworker
    exact ⟨before, hbefore, rfl, by rw [if_pos heq]⟩
  · rename_i hne
    exact ⟨worker, hworker, rfl, by rw [if_neg hne, Nat.sub_zero]⟩

variable {entry : LeaseEntry}

theorem leasesOf_removeLease
    (hentry : state.leases.lookup leaseId = some entry) (workerId : WorkerId) :
    state.leasesOf workerId =
      (state.removeLease leaseId entry.lease.workerId).leasesOf workerId +
        if workerId = entry.lease.workerId then 1 else 0 := by
  rw [leasesOf, Table.count_erase_of_lookup hentry]
  simp only [beq_iff_eq, eq_comm (a := workerId)]
  rfl

theorem Balanced.removeLease (hb : state.Balanced config uuids issued)
    (hentry : state.leases.lookup leaseId = some entry) :
    (state.removeLease leaseId entry.lease.workerId).Balanced config uuids issued where
  worker {workerId worker} hworker := by
    obtain ⟨before, hbefore, hidle, hcounter⟩ := exists_of_lookup_workers_removeLease hworker
    obtain ⟨hnamed, hcounted, hbounded, hdrawn⟩ := hb.worker hbefore
    have hcount := leasesOf_removeLease hentry workerId
    have hname : worker.descriptor.workerId = before.descriptor.workerId :=
      congrArg (fun idle => idle.descriptor.workerId) hidle
    have hmax : worker.descriptor.maxLeases = before.descriptor.maxLeases :=
      congrArg (fun idle => idle.descriptor.maxLeases) hidle
    rw [leasesOf, leasesOf] at hcount
    exact ⟨hname.trans hnamed, by omega, by omega, hdrawn⟩
  lease hlease := by
    obtain ⟨hfiled, ⟨worker, hworker, hepoch⟩, hdrawn⟩ := hb.lease (lookup_removeLease hlease)
    refine ⟨hfiled, ?_, hdrawn⟩
    rw [lookup_workers_removeLease, hworker]
    split <;> exact ⟨_, rfl, hepoch⟩
  leases_le := by
    have hcount := Table.count_erase_of_lookup hentry fun _ => true
    rw [← Table.size_eq_count, ← Table.size_eq_count] at hcount
    have hold := hb.leases_le
    change (state.leases.erase leaseId).size ≤ config.maxLeases
    omega
  workers_le := by
    change (state.workers.modify _ _).size ≤ config.maxWorkers
    rw [Table.modify, Table.size_mapValues]
    exact hb.workers_le

theorem Balanced.purgeExpired (hb : state.Balanced config uuids issued) (now : Nat) :
    (state.purgeExpired now).Balanced config uuids issued :=
  purgeExpired_induction (fun _ _ _ hstate hentry => hstate.removeLease hentry) hb now

/-! ## Placement -/

theorem activeLeases_le_of_placedBefore {left right : WorkerDescriptor}
    (hbefore : placedBefore left right = true) : left.activeLeases ≤ right.activeLeases := by
  simp only [placedBefore, Bool.or_eq_true, decide_eq_true_eq, Bool.and_eq_true,
    beq_iff_eq] at hbefore
  omega

theorem activeLeases_le_of_not_placedBefore {left right : WorkerDescriptor}
    (hbefore : ¬placedBefore left right = true) : right.activeLeases ≤ left.activeLeases := by
  simp only [placedBefore, Bool.or_eq_true, decide_eq_true_eq] at hbefore
  omega

/-- The candidates, among which `select` takes the first in the order of placement. -/
def candidates (state : RegistryState) (requirements : WorkerRequirements) :
    List WorkerDescriptor :=
  (state.workers.toList.map fun entry => entry.2.descriptor).filter
    fun descriptor => requirements.matches descriptor &&
      decide (descriptor.activeLeases < descriptor.maxLeases)

theorem mem_candidates_iff {requirements : WorkerRequirements} {descriptor : WorkerDescriptor} :
    descriptor ∈ state.candidates requirements ↔
      (∃ workerId entry, state.workers.lookup workerId = some entry ∧
        entry.descriptor = descriptor) ∧ requirements.Fits descriptor := by
  simp only [candidates, List.mem_filter, List.mem_map, Prod.exists, Table.mem_toList_iff,
    Bool.and_eq_true, decide_eq_true_eq, WorkerRequirements.Fits]

/-- The best candidate is one of them, has the fewest leases, and is missing only if there is
no candidate. -/
theorem select_spec (state : RegistryState) (requirements : WorkerRequirements) :
    match state.select requirements with
    | none => state.candidates requirements = []
    | some selected => selected ∈ state.candidates requirements ∧
        ∀ descriptor ∈ state.candidates requirements,
          selected.activeLeases ≤ descriptor.activeLeases := by
  -- The fold keeps the best of the candidates seen so far.
  have hfold : ∀ (rest seen : List WorkerDescriptor) (best : Option WorkerDescriptor),
      (match best with
        | none => seen = []
        | some selected => selected ∈ seen ∧
            ∀ descriptor ∈ seen, selected.activeLeases ≤ descriptor.activeLeases) →
      match rest.foldl (fun best candidate =>
          match best with
          | none => some candidate
          | some descriptor =>
              if placedBefore candidate descriptor then some candidate else some descriptor)
          best with
      | none => seen ++ rest = []
      | some selected => selected ∈ seen ++ rest ∧
          ∀ descriptor ∈ seen ++ rest, selected.activeLeases ≤ descriptor.activeLeases := by
    intro rest
    induction rest with
    | nil =>
        intro seen best hbest
        simpa using hbest
    | cons candidate rest ih =>
        intro seen best hbest
        rw [List.foldl_cons, List.append_cons]
        apply ih
        cases best with
        | none =>
            cases hbest
            simp
        | some selected =>
            obtain ⟨hmem, hleast⟩ := hbest
            by_cases hbefore : placedBefore candidate selected = true
            · have hle := activeLeases_le_of_placedBefore hbefore
              simp only [if_pos hbefore, List.mem_append, List.mem_singleton]
              refine ⟨.inr trivial, ?_⟩
              rintro descriptor (hseen | rfl)
              · exact Nat.le_trans hle (hleast descriptor hseen)
              · exact Nat.le_refl _
            · have hle := activeLeases_le_of_not_placedBefore hbefore
              simp only [if_neg hbefore, List.mem_append, List.mem_singleton]
              refine ⟨.inl hmem, ?_⟩
              rintro descriptor (hseen | rfl)
              · exact hleast descriptor hseen
              · exact hle
  exact hfold (state.candidates requirements) [] none rfl

structure Places (state : RegistryState) (requirements : WorkerRequirements)
    (lease : WorkerLease) (worker : WorkerEntry) : Prop where
  registered : state.workers.lookup lease.workerId = some worker
  epoch : worker.descriptor.epoch = lease.workerEpoch
  fits : requirements.Fits worker.descriptor
  least : ∀ workerId other, state.workers.lookup workerId = some other →
    requirements.Fits other.descriptor →
      worker.descriptor.activeLeases ≤ other.descriptor.activeLeases

/-- What `acquire` does and returns. -/
inductive AcquireOutcome (config : WorkerRegistryConfig) (requirements : WorkerRequirements)
    (ttl now : Nat) (leaseId : WorkerLeaseId) (state : RegistryState) :
    RegistryState × Except WorkerError WorkerLease → Prop
  | rejected (message : String) :
      AcquireOutcome config requirements ttl now leaseId state (state, .error (.invalid message))
  | failed (error : WorkerError)
      (hbusy : error = .busy → config.maxLeases ≤ (state.purgeExpired now).leases.size ∨
        (state.purgeExpired now).candidates requirements = []) :
      AcquireOutcome config requirements ttl now leaseId state
        (state.purgeExpired now, .error error)
  | granted (lease : WorkerLease) (worker : WorkerEntry)
      (hroom : (state.purgeExpired now).leases.size < config.maxLeases)
      (hlease : lease.leaseId = leaseId)
      (hplaces : (state.purgeExpired now).Places requirements lease worker) :
      AcquireOutcome config requirements ttl now leaseId state
        (⟨(state.purgeExpired now).workers.insert lease.workerId { worker with descriptor :=
            { worker.descriptor with
              activeLeases := worker.descriptor.activeLeases + 1 } },
          (state.purgeExpired now).leases.insert leaseId ⟨lease, now + ttl⟩⟩, .ok lease)

theorem Balanced.acquire_outcome (hb : state.Balanced config uuids issued)
    (requirements : WorkerRequirements) (ttl now : Nat) (wallClock : Option String)
    (leaseId : WorkerLeaseId) :
    AcquireOutcome config requirements ttl now leaseId state
      (state.acquire config requirements ttl now wallClock leaseId) := by
  have hpurged := hb.purgeExpired now
  have hselected := (state.purgeExpired now).select_spec requirements
  simp only [RegistryState.acquire]
  split
  · exact .rejected _
  split
  · rename_i hfull
    exact .failed _ fun _ => .inl hfull
  rename_i hroom
  split
  · rename_i hnone
    rw [hnone] at hselected
    exact .failed _ fun _ => .inr hselected
  rename_i selected hsome
  rw [hsome] at hselected
  obtain ⟨hmem, hleast⟩ := hselected
  obtain ⟨⟨workerId, worker, hworker, rfl⟩, hfits⟩ := mem_candidates_iff.mp hmem
  have hname := (hpurged.worker hworker).named
  split
  · rename_i error herror
    refine .failed _ fun hbusy => ?_
    subst hbusy
    simp only [wallExpiry] at herror
    split at herror
    · cases herror
    · split at herror <;> cases herror
  split
  · refine .failed _ fun hbusy => ?_
    cases hbusy
  rename_i expiresAt _ _ worker' hworker'
  rw [hname, hworker] at hworker'
  cases hworker'
  refine .granted ⟨leaseId, worker.descriptor.workerId, worker.descriptor.epoch, expiresAt⟩ worker
    (Nat.lt_of_not_le hroom) rfl ⟨by rw [hname]; exact hworker, rfl, hfits, ?_⟩
  intro workerId' other hother hfits'
  exact hleast other.descriptor (mem_candidates_iff.mpr ⟨⟨workerId', other, hother, rfl⟩, hfits'⟩)

/-! ## The operations keep the accounts -/

section

variable (hb : state.Balanced config uuids issued)
include hb

theorem Balanced.lookup_lease_of_le {drawn : Nat}
    (hdrawn : issued ≤ drawn) : state.leases.lookup ⟨uuids.issue "lease" drawn⟩ = none := by
  rw [Option.eq_none_iff_forall_ne_some]
  intro entry hentry
  obtain ⟨earlier, hearlier, heq⟩ := (hb.lease hentry).drawn
  have hsame := (uuids.issue_inj _).mp (congrArg WorkerLeaseId.value heq)
  omega

theorem Balanced.lookup_worker_of_le {drawn : Nat}
    (hdrawn : issued ≤ drawn) : state.workers.lookup ⟨uuids.issue "worker" drawn⟩ = none := by
  rw [Option.eq_none_iff_forall_ne_some]
  intro entry hentry
  obtain ⟨earlier, hearlier, heq⟩ := (hb.worker hentry).drawn
  have hsame := (uuids.issue_inj _).mp (congrArg WorkerId.value heq)
  omega

theorem Balanced.leasesOf_eq_zero {workerId : WorkerId}
    (hworker : state.workers.lookup workerId = none) : state.leasesOf workerId = 0 := by
  rw [leasesOf, Table.count, List.countP_eq_zero]
  rintro ⟨leaseId, entry⟩ hmem hnames
  obtain ⟨worker, hlookup, -⟩ := (hb.lease ((Table.mem_entries_iff _ _ _).mp hmem)).affine
  rw [beq_iff_eq.mp hnames, hworker] at hlookup
  cases hlookup

theorem Balanced.register (endpoint : DesktopWorker)
    (maxLeases now : Nat) (epoch : WorkerEpoch) :
    (state.register config endpoint maxLeases now ⟨uuids.issue "worker" issued⟩
      epoch).1.Balanced config uuids (issued + 1) := by
  have hpurged := hb.purgeExpired now
  have hfresh := hpurged.lookup_worker_of_le (Nat.le_refl _)
  simp only [RegistryState.register]
  split
  · exact hb.mono (Nat.le_succ _)
  split
  · exact hb.mono (Nat.le_succ _)
  split
  · exact hpurged.mono (Nat.le_succ _)
  rename_i hroom
  have hold := hpurged.mono (Nat.le_succ issued)
  refine ⟨fun hentry => ?_, fun hentry => ?_, hpurged.leases_le, ?_⟩
  · rcases Table.lookup_insert_cases hentry with ⟨rfl, rfl⟩ | hentry
    · exact ⟨rfl, (hpurged.leasesOf_eq_zero hfresh).symm, Nat.zero_le _, issued,
        Nat.lt_succ_self _, rfl⟩
    · exact hold.worker hentry
  · obtain ⟨hfiled, ⟨worker, hworker, hepoch⟩, hdrawn⟩ := hold.lease hentry
    refine ⟨hfiled, ⟨worker, ?_, hepoch⟩, hdrawn⟩
    rw [Table.lookup_insert_eq, if_neg, hworker]
    rintro heq
    rw [heq, hfresh] at hworker
    cases hworker
  · rw [Table.size_insert_of_lookup_none hfresh]
    exact Nat.lt_of_not_le hroom

theorem Balanced.unregister (workerId : WorkerId) :
    (state.unregister workerId).1.Balanced config uuids issued := by
  simp only [RegistryState.unregister]
  split
  · exact hb
  have hworkers : ∀ {workerId' entry}, (state.workers.erase workerId).lookup workerId' =
      some entry → workerId' ≠ workerId ∧ state.workers.lookup workerId' = some entry := by
    intro workerId' entry hentry
    rw [Table.lookup_erase_eq] at hentry
    split at hentry
    · cases hentry
    · exact ⟨‹_›, hentry⟩
  have hleases : ∀ {leaseId entry}, (state.leases.retain fun _ entry =>
      entry.lease.workerId ≠ workerId).lookup leaseId = some entry →
        entry.lease.workerId ≠ workerId ∧ state.leases.lookup leaseId = some entry := by
    intro leaseId entry hentry
    rw [Table.lookup_retain, Option.filter_eq_some_iff] at hentry
    exact ⟨by simpa using hentry.2, hentry.1⟩
  refine ⟨fun hentry => ?_, fun hentry => ?_, (Table.size_retain_le _ _).trans hb.leases_le,
    (List.kerase_sublist _ _).length_le.trans hb.workers_le⟩
  · obtain ⟨hne, hentry⟩ := hworkers hentry
    obtain ⟨hnamed, hcounted, hbounded, hdrawn⟩ := hb.worker hentry
    refine ⟨hnamed, hcounted.trans (Table.count_retain_of_imp fun _ lease _ hnames => ?_).symm,
      hbounded, hdrawn⟩
    simp only [beq_iff_eq] at hnames
    simpa [hnames] using hne
  · obtain ⟨hne, hentry⟩ := hleases hentry
    obtain ⟨hfiled, ⟨worker, hworker, hepoch⟩, hdrawn⟩ := hb.lease hentry
    refine ⟨hfiled, ⟨worker, ?_, hepoch⟩, hdrawn⟩
    rw [Table.lookup_erase_eq, if_neg hne, hworker]

end

theorem leasesOf_insert (hfresh : state.leases.lookup leaseId = none)
    (workers : Table WorkerId WorkerEntry) (entry : LeaseEntry) (workerId : WorkerId) :
    leasesOf ⟨workers, state.leases.insert leaseId entry⟩ workerId =
      state.leasesOf workerId + if entry.lease.workerId = workerId then 1 else 0 := by
  rw [leasesOf, Table.count_insert_of_lookup_none hfresh]
  simp [leasesOf]

section

variable (hb : state.Balanced config uuids issued)
include hb

theorem Balanced.grant
    {requirements : WorkerRequirements} {lease : WorkerLease} {worker : WorkerEntry}
    (hplaces : state.Places requirements lease worker)
    (hroom : state.leases.size < config.maxLeases)
    (hlease : lease.leaseId = ⟨uuids.issue "lease" issued⟩) (expiresAt : Nat) :
    Balanced config uuids (issued + 1)
      ⟨state.workers.insert lease.workerId { worker with descriptor :=
          { worker.descriptor with activeLeases := worker.descriptor.activeLeases + 1 } },
        state.leases.insert ⟨uuids.issue "lease" issued⟩ ⟨lease, expiresAt⟩⟩ := by
  have hfresh := hb.lookup_lease_of_le (Nat.le_refl _)
  have hold := hb.mono (Nat.le_succ issued)
  obtain ⟨hregistered, hepoch, ⟨-, hspare⟩, -⟩ := hplaces
  refine ⟨fun {workerId entry} hentry => ?_, fun {leaseId entry} hentry => ?_, ?_, ?_⟩
  · have hcount := leasesOf_insert hfresh state.workers ⟨lease, expiresAt⟩ workerId
    rw [Table.lookup_insert_eq] at hentry
    split at hentry
    · rename_i heq
      subst heq
      cases hentry
      obtain ⟨hnamed, hcounted, -, hdrawn⟩ := hold.worker hregistered
      rw [if_pos rfl] at hcount
      exact ⟨hnamed, (congrArg Nat.succ hcounted).trans hcount.symm, hspare, hdrawn⟩
    · rename_i hne
      obtain ⟨hnamed, hcounted, hbounded, hdrawn⟩ := hold.worker hentry
      rw [if_neg (Ne.symm hne)] at hcount
      exact ⟨hnamed, hcounted.trans hcount.symm, hbounded, hdrawn⟩
  · have hworkers : ∀ {workerId entry}, state.workers.lookup workerId = some entry →
        ∃ after, (state.workers.insert lease.workerId { worker with descriptor :=
          { worker.descriptor with activeLeases := worker.descriptor.activeLeases + 1 } }).lookup
            workerId = some after ∧ after.descriptor.epoch = entry.descriptor.epoch := by
      intro workerId entry hentry
      rw [Table.lookup_insert_eq]
      split
      · rename_i heq
        rw [heq, hregistered] at hentry
        cases hentry
        exact ⟨_, rfl, rfl⟩
      · exact ⟨entry, hentry, rfl⟩
    rcases Table.lookup_insert_cases hentry with ⟨rfl, rfl⟩ | hentry
    · obtain ⟨after, hafter, heq⟩ := hworkers hregistered
      exact ⟨hlease, ⟨after, hafter, heq.trans hepoch⟩, issued, Nat.lt_succ_self _, rfl⟩
    · obtain ⟨hfiled, ⟨other, hother, hepoch'⟩, hdrawn⟩ := hold.lease hentry
      obtain ⟨after, hafter, heq⟩ := hworkers hother
      exact ⟨hfiled, ⟨after, hafter, heq.trans hepoch'⟩, hdrawn⟩
  · rw [Table.size_insert_of_lookup_none hfresh]
    exact hroom
  · rw [Table.size_insert_of_lookup_some hregistered]
    exact hold.workers_le

theorem Balanced.acquire
    (requirements : WorkerRequirements) (ttl now : Nat) (wallClock : Option String) :
    (state.acquire config requirements ttl now wallClock
      ⟨uuids.issue "lease" issued⟩).1.Balanced config uuids (issued + 1) := by
  have hpurged := hb.purgeExpired now
  have houtcome := hb.acquire_outcome requirements ttl now wallClock ⟨uuids.issue "lease" issued⟩
  generalize state.acquire config requirements ttl now wallClock _ = result at houtcome ⊢
  cases houtcome with
  | rejected message => exact hb.mono (Nat.le_succ _)
  | failed error hbusy => exact hpurged.mono (Nat.le_succ _)
  | granted lease worker hroom hlease hplaces => exact hpurged.grant hplaces hroom hlease _

theorem Balanced.release (leaseId : WorkerLeaseId) :
    (state.release leaseId).1.Balanced config uuids issued := by
  simp only [RegistryState.release]
  split
  · exact hb
  · exact hb.removeLease ‹_›

theorem Balanced.apply (now : Nat)
    (wallClock : Option String) (call : RegistryCall) :
    (call.apply config uuids now issued wallClock state).Balanced config uuids (issued + 2) := by
  cases call with
  | register endpoint maxLeases =>
      exact (hb.register endpoint maxLeases now _).mono (by omega)
  | unregister workerId => exact (hb.unregister workerId).mono (by omega)
  | acquire requirements ttl => exact (hb.acquire requirements ttl now wallClock).mono (by omega)
  | release leaseId => exact (hb.release leaseId).mono (by omega)
  | list => exact (hb.purgeExpired now).mono (by omega)

end

/-! ## Ended leases -/

theorem lookup_of_lookup_purgeExpired
    (hentry : (state.purgeExpired now).leases.lookup leaseId = some entry) :
    state.leases.lookup leaseId = some entry := by
  rw [lookup_leases_purgeExpired, Option.filter_eq_some_iff] at hentry
  exact hentry.1

theorem endpoint_of_lookup_purgeExpired {workerId : WorkerId} {entry : WorkerEntry}
    (hentry : (state.purgeExpired now).workers.lookup workerId = some entry) :
    ∃ before, state.workers.lookup workerId = some before ∧
      before.endpoint = entry.endpoint := by
  have hidle := lookup_workers_purgeExpired state now workerId
  rw [hentry] at hidle
  obtain ⟨before, hbefore, heq⟩ := Option.map_eq_some_iff.mp hidle.symm
  exact ⟨before, hbefore, congrArg (fun idle => idle.endpoint) heq⟩

/-- But for one identity of each kind, the tables have what they had, with other counters. -/
structure Kept (state state' : RegistryState) (newLease : WorkerLeaseId) (newWorker : WorkerId) :
    Prop where
  lease : ∀ {leaseId entry}, leaseId ≠ newLease → state'.leases.lookup leaseId = some entry →
    state.leases.lookup leaseId = some entry
  worker : ∀ {workerId entry}, workerId ≠ newWorker →
    state'.workers.lookup workerId = some entry →
      ∃ before, state.workers.lookup workerId = some before ∧ before.endpoint = entry.endpoint

theorem Balanced.kept_apply (hb : state.Balanced config uuids issued) (now : Nat)
    (wallClock : Option String) (call : RegistryCall) :
    state.Kept (call.apply config uuids now issued wallClock state)
      ⟨uuids.issue "lease" issued⟩ ⟨uuids.issue "worker" issued⟩ := by
  have hsame : state.Kept state ⟨uuids.issue "lease" issued⟩ ⟨uuids.issue "worker" issued⟩ :=
    ⟨fun _ hentry => hentry, fun _ hentry => ⟨_, hentry, rfl⟩⟩
  have hpurged : state.Kept (state.purgeExpired now) ⟨uuids.issue "lease" issued⟩
      ⟨uuids.issue "worker" issued⟩ :=
    ⟨fun _ => lookup_of_lookup_purgeExpired, fun _ => endpoint_of_lookup_purgeExpired⟩
  cases call with
  | register endpoint maxLeases =>
      simp only [RegistryCall.apply, RegistryState.register]
      split
      · exact hsame
      split
      · exact hsame
      split
      · exact hpurged
      · refine ⟨hpurged.lease, fun hne hentry => hpurged.worker hne ?_⟩
        rwa [Table.lookup_insert_eq, if_neg hne] at hentry
  | unregister workerId =>
      simp only [RegistryCall.apply, RegistryState.unregister]
      split
      · exact hsame
      · exact ⟨fun _ => (Table.Shrinks.retain _ _).lookup _ _,
          fun _ hentry => ⟨_, (Table.Shrinks.erase _ _).lookup _ _ hentry, rfl⟩⟩
  | acquire requirements ttl =>
      have houtcome := hb.acquire_outcome requirements ttl now wallClock
        ⟨uuids.issue "lease" issued⟩
      simp only [RegistryCall.apply]
      generalize state.acquire config requirements ttl now wallClock _ = result at houtcome ⊢
      cases houtcome with
      | rejected message => exact hsame
      | failed error hbusy => exact hpurged
      | granted lease worker hroom hlease hplaces =>
          refine ⟨fun hne hentry => hpurged.lease hne ?_, fun hne hentry => ?_⟩
          · rwa [Table.lookup_insert_eq, if_neg hne] at hentry
          · rcases Table.lookup_insert_cases hentry with ⟨rfl, rfl⟩ | hentry
            · have hkept := hpurged.worker hne hplaces.registered
              exact hkept
            · exact hpurged.worker hne hentry
  | release leaseId =>
      simp only [RegistryCall.apply, RegistryState.release]
      split
      · exact hsame
      · refine ⟨fun _ => lookup_removeLease, fun _ hentry => ?_⟩
        obtain ⟨before, hbefore, hidle, -⟩ := exists_of_lookup_workers_removeLease hentry
        exact ⟨before, hbefore, (congrArg (fun idle => idle.endpoint) hidle).symm⟩
  | list => exact hpurged

theorem resolve_ok {epoch : WorkerEpoch} {lease : WorkerLease} {worker : DesktopWorker}
    (hresolve : (state.resolve leaseId epoch now).2 = .ok (lease, worker)) :
    lease.workerEpoch = epoch ∧
      (∃ entry, (state.purgeExpired now).leases.lookup leaseId = some entry ∧
        entry.lease = lease) ∧
      ∃ entry, (state.purgeExpired now).workers.lookup lease.workerId = some entry ∧
        entry.endpoint = worker := by
  simp only [RegistryState.resolve] at hresolve
  split at hresolve
  · cases hresolve
  rename_i entry hentry
  split at hresolve
  · cases hresolve
  rename_i hepoch
  split at hresolve
  · cases hresolve
  rename_i registered hregistered
  split at hresolve
  · cases hresolve
    exact ⟨not_not.mp hepoch, ⟨entry, hentry, rfl⟩, registered, hregistered, rfl⟩
  · cases hresolve

theorem resolve_ne_ok
    (hdue : ∀ entry, state.leases.lookup leaseId = some entry → entry.expiresAt ≤ now)
    (epoch : WorkerEpoch) (resolved : WorkerLease × DesktopWorker) :
    (state.resolve leaseId epoch now).2 ≠ .ok resolved := by
  have hnone : (state.purgeExpired now).leases.lookup leaseId = none := by
    rw [lookup_leases_purgeExpired, Option.filter_eq_none_iff]
    intro entry hentry
    simpa using hdue entry hentry
  simp [RegistryState.resolve, hnone]

end RegistryState

namespace RegistryHost

open RegistryState

variable {config : WorkerRegistryConfig} {uuids : UuidSource} {host : RegistryHost}

def Balanced (config : WorkerRegistryConfig) (uuids : UuidSource) (host : RegistryHost) : Prop :=
  host.registry.Balanced config uuids host.issued

theorem Balanced.perform (hb : host.Balanced config uuids) (operation : RegistryOperation) :
    (host.perform config uuids operation).Balanced config uuids := by
  cases operation with
  | call call wallClock => exact RegistryState.Balanced.apply hb host.now wallClock call
  | resolve leaseId epoch =>
      rw [Balanced, RegistryHost.perform, resolve_fst]
      exact RegistryState.Balanced.purgeExpired hb host.now
  | elapsed duration => exact hb

theorem Balanced.run (hb : host.Balanced config uuids) (operations : List RegistryOperation) :
    (host.run config uuids operations).Balanced config uuids := by
  induction operations generalizing host with
  | nil => exact hb
  | cons operation operations ih => exact ih (hb.perform operation)

structure Ended (uuids : UuidSource) (host : RegistryHost) (leaseId : WorkerLeaseId) : Prop where
  drawn : ∃ drawn < host.issued, leaseId = ⟨uuids.issue "lease" drawn⟩
  due : ∀ entry, host.registry.leases.lookup leaseId = some entry → entry.expiresAt ≤ host.now

variable {leaseId : WorkerLeaseId}

theorem Ended.perform (he : host.Ended uuids leaseId)
    (hb : host.Balanced config uuids) (operation : RegistryOperation) :
    (host.perform config uuids operation).Ended uuids leaseId := by
  obtain ⟨⟨drawn, hdrawn, heq⟩, hdue⟩ := he
  cases operation with
  | call call wallClock =>
      refine ⟨⟨drawn, Nat.lt_add_right 2 hdrawn, heq⟩, fun entry hentry => ?_⟩
      refine hdue entry ((RegistryState.Balanced.kept_apply hb _ wallClock call).lease ?_ hentry)
      intro hfresh
      have hsame := (uuids.issue_inj _).mp (congrArg WorkerLeaseId.value (heq.symm.trans hfresh))
      omega
  | resolve leaseId' epoch =>
      refine ⟨⟨drawn, hdrawn, heq⟩, fun entry hentry => ?_⟩
      rw [RegistryHost.perform, resolve_fst] at hentry
      exact hdue entry (lookup_of_lookup_purgeExpired hentry)
  | elapsed duration =>
      exact ⟨⟨drawn, hdrawn, heq⟩,
        fun entry hentry => Nat.le_trans (hdue entry hentry) (Nat.le_add_right _ _)⟩

theorem Ended.unresolvable_run (he : host.Ended uuids leaseId)
    (hb : host.Balanced config uuids) (operations : List RegistryOperation) :
    (host.run config uuids operations).Unresolvable leaseId := by
  induction operations generalizing host with
  | nil => exact fun epoch resolved => resolve_ne_ok he.due epoch resolved
  | cons operation operations ih => exact ih (he.perform hb operation) (hb.perform operation)

theorem Balanced.ended_release (hb : host.Balanced config uuids)
    (hreleased : (host.registry.release leaseId).2 = true) (wallClock : Option String) :
    (host.perform config uuids (.call (.release leaseId) wallClock)).Ended uuids leaseId := by
  simp only [RegistryState.release] at hreleased
  split at hreleased
  · cases hreleased
  rename_i entry hentry
  obtain ⟨drawn, hdrawn, heq⟩ := (RegistryState.Balanced.lease hb hentry).drawn
  refine ⟨⟨drawn, Nat.lt_add_right 2 hdrawn, heq⟩, fun entry' hentry' => ?_⟩
  simp only [RegistryHost.perform, RegistryCall.apply, RegistryState.release, hentry,
    lookup_leases_removeLease, if_true] at hentry'
  cases hentry'

theorem Balanced.ended_unregister {entry : LeaseEntry}
    (hb : host.Balanced config uuids)
    (hentry : host.registry.leases.lookup leaseId = some entry) (wallClock : Option String) :
    (host.perform config uuids
      (.call (.unregister entry.lease.workerId) wallClock)).Ended uuids leaseId := by
  obtain ⟨drawn, hdrawn, heq⟩ := (RegistryState.Balanced.lease hb hentry).drawn
  obtain ⟨worker, hworker, -⟩ := (RegistryState.Balanced.lease hb hentry).affine
  refine ⟨⟨drawn, Nat.lt_add_right 2 hdrawn, heq⟩, fun entry' hentry' => ?_⟩
  simp only [RegistryHost.perform, RegistryCall.apply, RegistryState.unregister, hworker,
    Table.lookup_retain, hentry, Option.filter_eq_some_iff, Option.some.injEq] at hentry'
  obtain ⟨rfl, hkept⟩ := hentry'
  simp at hkept

/-! ## The law of the registry -/

structure RegistryLaw (config : WorkerRegistryConfig) (uuids : UuidSource)
    (host : RegistryHost) : Prop where
  counted : ∀ workerId entry, host.registry.workers.lookup workerId = some entry →
    entry.descriptor.activeLeases = host.registry.leasesOf workerId ∧
      entry.descriptor.activeLeases ≤ entry.descriptor.maxLeases
  leases_le : host.registry.leases.size ≤ config.maxLeases
  workers_le : host.registry.workers.size ≤ config.maxWorkers
  affine : ∀ leaseId entry, host.registry.leases.lookup leaseId = some entry →
    ∃ worker, host.registry.workers.lookup entry.lease.workerId = some worker ∧
      worker.descriptor.epoch = entry.lease.workerEpoch
  /-- A grant is placed in the registry from which the expired leases are gone. -/
  acquired : ∀ requirements ttl wallClock leaseId lease,
    (host.registry.acquire config requirements ttl host.now wallClock leaseId).2 = .ok lease →
      ∃ worker, (host.registry.purgeExpired host.now).Places requirements lease worker
  busy : ∀ requirements ttl wallClock leaseId,
    (host.registry.acquire config requirements ttl host.now wallClock leaseId).2 =
        .error .busy →
      config.maxLeases ≤ (host.registry.purgeExpired host.now).leases.size ∨
        ∀ workerId worker,
          (host.registry.purgeExpired host.now).workers.lookup workerId = some worker →
            ¬requirements.Fits worker.descriptor
  released : ∀ leaseId wallClock operations, (host.registry.release leaseId).2 = true →
    ((host.perform config uuids (.call (.release leaseId) wallClock)).run config uuids
      operations).Unresolvable leaseId
  expired : ∀ leaseId entry operations,
    host.registry.leases.lookup leaseId = some entry → entry.expiresAt ≤ host.now →
      (host.run config uuids operations).Unresolvable leaseId
  unregistered : ∀ leaseId entry wallClock operations,
    host.registry.leases.lookup leaseId = some entry →
      ((host.perform config uuids (.call (.unregister entry.lease.workerId) wallClock)).run
        config uuids operations).Unresolvable leaseId

theorem registryLaw_of_run (config : WorkerRegistryConfig) (uuids : UuidSource) (now : Nat)
    (operations : List RegistryOperation) :
    RegistryLaw config uuids ((start now).run config uuids operations) := by
  have hb : ((start now).run config uuids operations).Balanced config uuids :=
    Balanced.run (balanced_empty : (start now).Balanced config uuids) operations
  generalize (start now).run config uuids operations = host at hb ⊢
  have hstate : host.registry.Balanced config uuids host.issued := hb
  refine
    { counted := fun workerId entry hentry =>
        ⟨(hstate.worker hentry).counted, (hstate.worker hentry).bounded⟩
      leases_le := hstate.leases_le
      workers_le := hstate.workers_le
      affine := fun leaseId entry hentry => (hstate.lease hentry).affine
      acquired := fun requirements ttl wallClock leaseId lease hok => ?_
      busy := fun requirements ttl wallClock leaseId hbusy => ?_
      released := fun leaseId wallClock rest hreleased =>
        (hb.ended_release hreleased wallClock).unresolvable_run (hb.perform _) rest
      expired := fun leaseId entry rest hentry hdue => ?_
      unregistered := fun leaseId entry wallClock rest hentry =>
        (hb.ended_unregister hentry wallClock).unresolvable_run (hb.perform _) rest }
  · have houtcome := hstate.acquire_outcome requirements ttl host.now wallClock leaseId
    generalize host.registry.acquire config requirements ttl host.now wallClock leaseId = result
      at houtcome hok
    cases houtcome with
    | rejected message => cases hok
    | failed error hbusy => cases hok
    | granted lease worker hroom hlease hplaces =>
        cases hok
        exact ⟨worker, hplaces⟩
  · have houtcome := hstate.acquire_outcome requirements ttl host.now wallClock leaseId
    generalize host.registry.acquire config requirements ttl host.now wallClock leaseId = result
      at houtcome hbusy
    cases houtcome with
    | rejected message => cases hbusy
    | failed error hcause =>
        cases hbusy
        refine (hcause rfl).imp_right fun hnone workerId worker hworker hfits => ?_
        have hmem := mem_candidates_iff.mpr ⟨⟨workerId, worker, hworker, rfl⟩, hfits⟩
        rw [hnone] at hmem
        cases hmem
    | granted lease worker hroom hlease hplaces => cases hbusy
  · obtain ⟨drawn, hdrawn, heq⟩ := (hstate.lease hentry).drawn
    refine Ended.unresolvable_run ⟨⟨drawn, hdrawn, heq⟩, fun entry' hentry' => ?_⟩ hb rest
    cases hentry.symm.trans hentry'
    exact hdue

end RegistryHost

end NexusCua.Host
