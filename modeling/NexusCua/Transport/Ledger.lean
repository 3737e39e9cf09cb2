import NexusCua.Transport.DispatcherEffect

/-!
# The request ledger

The invariant that ties the in-flight counter, the entries, the channels and
the spawned executions together.  Every pending entry is held by exactly one
party, which is the queue of spawned executions or one task; the holder changes
as the execution is admitted, spawned, called and recorded.  The invariant is
stated on the state, on the duties of the tasks and on what happened for each
request identity since its last admission, and is carried along every run.
-/

namespace NexusCua.Transport

open NexusCua.Foundation NexusCua.Protocol
open NexusCua.Foundation.Async (Contract)

variable {ρ ι ε κ ℓ : Type}

abbrev DispatcherStep (ρ ε : Type) := Step (DispatcherState ρ) (DispatcherEvent ε)

/-! ## Since the last admission -/

/-- The last admission of a request identity, and the runtime calls made for it since. -/
structure Admission where
  execution : Execution
  calls : Nat
  outcomes : List (Except CuaError CommandResult)

def Admission.next (requestId : RequestId) :
    Option Admission → DispatcherEvent ε → Option Admission
  | a, .admitted x => if x.requestId = requestId then some ⟨x, 0, []⟩ else a
  | some a, .executeCalled x =>
      if x.requestId = requestId then some { a with calls := a.calls + 1 } else some a
  | some a, .executed x outcome =>
      if x.requestId = requestId then some { a with outcomes := a.outcomes ++ [outcome] }
      else some a
  | a, _ => a

def admission (requestId : RequestId) (steps : List (DispatcherStep ρ ε)) : Option Admission :=
  (steps.flatMap Step.events).foldl (Admission.next requestId) none

theorem admission_snoc (requestId : RequestId) (steps : List (DispatcherStep ρ ε))
    (e : DispatcherStep ρ ε) :
    admission requestId (steps ++ [e]) =
      e.events.foldl (Admission.next requestId) (admission requestId steps) := by
  simp [admission, List.flatMap_append]

@[simp] theorem Admission.next_spawned (requestId : RequestId) (a : Option Admission)
    (x : Execution) : Admission.next requestId a (.spawned x : DispatcherEvent ε) = a := by
  cases a <;> rfl

@[simp] theorem Admission.next_completed (requestId : RequestId) (a : Option Admission)
    (x : Execution) (response : ResponseEnvelope) :
    Admission.next requestId a (.completed x response : DispatcherEvent ε) = a := by
  cases a <;> rfl

/-! ## Holders -/

def Stage.calls : Stage → Nat
  | .waiting => 0
  | _ => 1

def Stage.outcomes : Stage → List (Except CuaError CommandResult)
  | .returned outcome => [outcome]
  | _ => []

/-- `none` is the queue of spawned executions, `some t` the task `t`. -/
def HeldBy (s : DispatcherState ρ) (D : Nat → Option Duty) :
    Option Nat → Execution → Stage → Prop
  | none, x, stage => x ∈ s.spawned ∧ stage = .waiting
  | some t, x, stage => D t = some ⟨x, stage⟩

/--
`D` gives the duties of the tasks and `V` the last admissions; `A` and `R` say
which executions were admitted and which have returned with which outcome.
-/
structure Books (dispatcher : Dispatcher) (s : DispatcherState ρ) (D : Nat → Option Duty)
    (V : RequestId → Option Admission) (A : Execution → Prop)
    (R : Execution → Except CuaError CommandResult → Prop) : Prop where
  inflight : s.ledger.inflightRequests = s.ledger.entries.count RequestEntry.isPending
  inflight_le : s.ledger.inflightRequests ≤ dispatcher.maxInflightRequests
  size_le : s.ledger.entries.size ≤ dispatcher.maxCompletedRequests
  fresh : ∀ x, A x → x.channel < s.nextChannel
  distinct : ∀ x y, A x → A y → x.channel = y.channel → x = y
  admitted : ∀ x outcome, R x outcome → A x
  once : ∀ x outcome outcome', R x outcome → R x outcome' → outcome = outcome'
  held : ∀ holder x stage, HeldBy s D holder x stage →
    A x ∧ s.ledger.entries.lookup x.requestId =
      some (.pending x.digest x.command.isMutation x.channel) ∧
    V x.requestId = some ⟨x, stage.calls, stage.outcomes⟩ ∧
    ∀ outcome, R x outcome ↔ stage = .returned outcome
  sole : ∀ holder holder' x x' stage stage', HeldBy s D holder x stage →
    HeldBy s D holder' x' stage' → x.requestId = x'.requestId → holder = holder'
  queued : (s.spawned.map Execution.requestId).Nodup
  pending : ∀ requestId digest isMutation channel,
    s.ledger.entries.lookup requestId = some (.pending digest isMutation channel) →
    ∃ holder x stage, HeldBy s D holder x stage ∧ x.requestId = requestId
  complete : ∀ requestId digest isMutation response expiresAt,
    s.ledger.entries.lookup requestId = some (.complete digest isMutation response expiresAt) →
    ∃ x outcome, R x outcome ∧ x.requestId = requestId ∧ x.digest = digest ∧
      x.command.isMutation = isMutation ∧ response = responseOf x outcome ∧
      V requestId = some ⟨x, 1, [outcome]⟩
  sent : ∀ channel response, s.channels.lookup channel = some (some response) →
    ∃ x outcome, R x outcome ∧ x.channel = channel ∧ response = responseOf x outcome

namespace Books

variable {dispatcher : Dispatcher} {s s' : DispatcherState ρ} {D : Nat → Option Duty}
  {V : RequestId → Option Admission} {A : Execution → Prop}
  {R : Execution → Except CuaError CommandResult → Prop}

theorem initial (dispatcher : Dispatcher) (now : Nat) (r : ρ) :
    Books dispatcher (.initial now r) (fun _ => none) (fun _ => none) (fun _ => False)
      (fun _ _ => False) := by
  have hempty : ∀ holder x stage,
      ¬ HeldBy (DispatcherState.initial now r) (fun _ => none) holder x stage := by
    intro holder x stage hheld
    cases holder with
    | none => exact absurd hheld.1 (by simp [DispatcherState.initial])
    | some t => cases hheld
  exact {
    inflight := rfl
    inflight_le := Nat.zero_le _
    size_le := Nat.zero_le _
    fresh := fun _ h => h.elim
    distinct := fun _ _ h => h.elim
    admitted := fun _ _ h => h.elim
    once := fun _ _ _ h => h.elim
    held := fun holder x stage h => (hempty holder x stage h).elim
    sole := fun holder _ x _ stage _ h => (hempty holder x stage h).elim
    queued := List.nodup_nil
    pending := fun _ _ _ _ h => by simp [DispatcherState.initial] at h
    complete := fun _ _ _ _ _ h => by simp [DispatcherState.initial] at h
    sent := fun _ _ h => by simp [DispatcherState.initial] at h }

theorem of_same (hs : Books dispatcher s D V A R) (hledger : s'.ledger = s.ledger)
    (hchannels : s'.channels = s.channels) (hnext : s'.nextChannel = s.nextChannel)
    (hspawned : s'.spawned = s.spawned) : Books dispatcher s' D V A R := by
  obtain ⟨now, ledger, channels, nextChannel, spawned, runtime⟩ := s'
  subst hledger hchannels hnext hspawned
  exact ⟨hs.1, hs.2, hs.3, hs.4, hs.5, hs.6, hs.7, hs.8, hs.9, hs.10, hs.11, hs.12, hs.13⟩

theorem lookup_purged (s : DispatcherState ρ) (requestId : RequestId) :
    s.purged.ledger.entries.lookup requestId =
      (s.ledger.entries.lookup requestId).filter fun entry => !entry.expired s.now :=
  Table.lookup_retain _ _ _

theorem purged (hs : Books dispatcher s D V A R) : Books dispatcher s.purged D V A R := by
  have hcount : s.purged.ledger.entries.count RequestEntry.isPending =
      s.ledger.entries.count RequestEntry.isPending := by
    refine Table.count_retain_of_imp fun requestId entry _ hpending => ?_
    cases entry with
    | pending => rfl
    | complete => simp [RequestEntry.isPending] at hpending
  have hsub : ∀ {requestId entry}, s.purged.ledger.entries.lookup requestId = some entry →
      s.ledger.entries.lookup requestId = some entry := by
    intro requestId entry hentry
    rw [lookup_purged, Option.filter_eq_some_iff] at hentry
    exact hentry.1
  exact {
    inflight := hs.inflight.trans hcount.symm
    inflight_le := hs.inflight_le
    size_le := (Table.size_retain_le _ _).trans hs.size_le
    fresh := hs.fresh
    distinct := hs.distinct
    admitted := hs.admitted
    once := hs.once
    held := fun holder x stage hheld => by
      obtain ⟨hA, hentry, hV, hR⟩ := hs.held holder x stage hheld
      refine ⟨hA, ?_, hV, hR⟩
      rw [lookup_purged, hentry]
      rfl
    sole := hs.sole
    queued := hs.queued
    pending := fun requestId digest isMutation channel hentry =>
      hs.pending requestId digest isMutation channel (hsub hentry)
    complete := fun requestId digest isMutation response expiresAt hentry =>
      hs.complete requestId digest isMutation response expiresAt (hsub hentry)
    sent := hs.sent }

/-- The books after task `t` reports an event and leaves the state `s`. -/
def Reports (dispatcher : Dispatcher) (s : DispatcherState ρ) (D : Nat → Option Duty)
    (V : RequestId → Option Admission) (A : Execution → Prop)
    (R : Execution → Except CuaError CommandResult → Prop) (t : Nat)
    (event : DispatcherEvent ε) : Prop :=
  Books dispatcher s (fun u => if u = t then Duty.next (D t) event else D u)
    (fun requestId => Admission.next requestId (V requestId) event)
    (fun x => A x ∨ .admitted x = event)
    (fun x outcome => R x outcome ∨ .executed x outcome = event)

variable {D' : Nat → Option Duty} {V' : RequestId → Option Admission} {A' : Execution → Prop}
  {R' : Execution → Except CuaError CommandResult → Prop} {t : Nat} {x y : Execution}
  {o : Option Nat} {stage st : Stage}

theorem lookup_insertPending (s : DispatcherState ρ) (x : Execution) (requestId : RequestId) :
    (Dispatcher.insertPending s x).ledger.entries.lookup requestId =
      if requestId = x.requestId then some (.pending x.digest x.command.isMutation x.channel)
      else s.ledger.entries.lookup requestId :=
  Table.lookup_insert_eq _ _ _ _

theorem heldBy_insertPending (hD : D t = none) (holder : Option Nat) (y : Execution)
    (stage : Stage) : HeldBy (Dispatcher.insertPending s x)
      (fun u => if u = t then some ⟨x, .waiting⟩ else D u) holder y stage ↔
        (holder = some t ∧ y = x ∧ stage = .waiting) ∨ HeldBy s D holder y stage := by
  cases holder with
  | none => simp [HeldBy, Dispatcher.insertPending]
  | some u =>
      by_cases hu : u = t
      · simp [HeldBy, hu, hD, eq_comm]
      · simp [HeldBy, hu]

section

variable (dispatcher) {isMutation : Bool} {channel : Nat} {digest : Digest}
  (hentry : s.ledger.entries.lookup x.requestId = some (.pending digest isMutation channel))
  (response : ResponseEnvelope)
include hentry

theorem record_of_pending : dispatcher.record s x response =
    { s with
      ledger :=
        { entries := (s.ledger.entries.erase x.requestId).insert x.requestId
            (.complete x.digest x.command.isMutation response
              (s.now + dispatcher.completedRequestTtl))
          inflightRequests := s.ledger.inflightRequests - 1 }
      channels := s.channels.insert channel (some response) } := by
  simp only [Dispatcher.record, hentry]

theorem lookup_record (requestId : RequestId) :
    (dispatcher.record s x response).ledger.entries.lookup requestId =
      if requestId = x.requestId then
        some (.complete x.digest x.command.isMutation response
          (s.now + dispatcher.completedRequestTtl))
      else s.ledger.entries.lookup requestId := by
  rw [record_of_pending dispatcher hentry, Table.lookup_insert_eq, Table.lookup_erase_eq]
  split <;> rfl

end

section

variable (hs : Books dispatcher s D V A R)
include hs

theorem ne_iff (hold : D t = some ⟨x, stage⟩) (hheld : HeldBy s D o y st) :
    y.requestId ≠ x.requestId ↔ o ≠ some t := by
  refine not_congr ⟨hs.sole o (some t) y x st stage hheld hold, ?_⟩
  rintro rfl
  cases hold.symm.trans hheld
  rfl

theorem insertPending (hD : D t = none) (hchannel : x.channel = s.nextChannel)
    (hnone : s.ledger.entries.lookup x.requestId = none)
    (hinflight : s.ledger.inflightRequests < dispatcher.maxInflightRequests)
    (hsize : s.ledger.entries.size < dispatcher.maxCompletedRequests) :
    Reports dispatcher (Dispatcher.insertPending s x) D V A R t
      (.admitted x : DispatcherEvent ε) := by
  have hfresh : ∀ y, A y → y.channel ≠ x.channel := by
    intro y hy
    have := hs.fresh y hy
    omega
  have hother : ∀ holder y stage, HeldBy s D holder y stage → y.requestId ≠ x.requestId := by
    intro holder y stage hheld hsame
    have hentry := (hs.held holder y stage hheld).2.1
    rw [hsame, hnone] at hentry
    contradiction
  have hlookup := lookup_insertPending s x
  have hheld := heldBy_insertPending (s := s) (x := x) hD
  simp only [Reports, Duty.next, Admission.next, DispatcherEvent.admitted.injEq, reduceCtorEq,
    or_false]
  exact {
    inflight := by
      simp only [Dispatcher.insertPending, Table.count_insert_of_lookup_none hnone, hs.inflight]
      rfl
    inflight_le := hinflight
    size_le := by
      simp only [Dispatcher.insertPending, Table.size_insert_of_lookup_none hnone]
      exact hsize
    fresh := fun y hy => by
      simp only [Dispatcher.insertPending]
      rcases hy with hy | rfl
      · exact (hs.fresh y hy).trans (Nat.lt_succ_self _)
      · omega
    distinct := fun y z hy hz hsame => by
      rcases hy with hy | rfl <;> rcases hz with hz | rfl
      · exact hs.distinct y z hy hz hsame
      · exact absurd hsame (hfresh y hy)
      · exact absurd hsame.symm (hfresh z hz)
      · rfl
    admitted := fun y outcome hy => .inl (hs.admitted y outcome hy)
    once := hs.once
    held := fun holder y stage hy => by
      rcases (hheld holder y stage).mp hy with ⟨-, rfl, rfl⟩ | hy
      · refine ⟨.inr rfl, by rw [hlookup, if_pos rfl], by simp [Stage.calls, Stage.outcomes],
          fun outcome => iff_of_false (fun hR => ?_) (by simp)⟩
        exact hfresh y (hs.admitted y outcome hR) rfl
      · obtain ⟨hA, hentry, hV, hR⟩ := hs.held holder y stage hy
        have hne := hother holder y stage hy
        exact ⟨.inl hA, by rw [hlookup, if_neg hne, hentry], by rw [if_neg hne.symm, hV], hR⟩
    sole := fun holder holder' y z stage stage' hy hz hsame => by
      rcases (hheld holder y stage).mp hy with ⟨rfl, rfl, -⟩ | hy' <;>
        rcases (hheld holder' z stage').mp hz with ⟨rfl, hzx, -⟩ | hz'
      · rfl
      · exact absurd hsame.symm (hother _ _ _ hz')
      · exact absurd (hsame.trans (congrArg _ hzx)) (hother _ _ _ hy')
      · exact hs.sole holder holder' y z stage stage' hy' hz' hsame
    queued := hs.queued
    pending := fun requestId digest isMutation channel hentry => by
      rw [hlookup] at hentry
      split at hentry
      · rename_i hid
        exact ⟨some t, x, .waiting, (hheld _ _ _).mpr (.inl ⟨rfl, rfl, rfl⟩), hid.symm⟩
      · obtain ⟨holder, y, stage, hy, hid⟩ := hs.pending _ _ _ _ hentry
        exact ⟨holder, y, stage, (hheld _ _ _).mpr (.inr hy), hid⟩
    complete := fun requestId digest isMutation response expiresAt hentry => by
      rw [hlookup] at hentry
      split at hentry
      · simp at hentry
      · rename_i hid
        rw [if_neg (Ne.symm hid)]
        exact hs.complete _ _ _ _ _ hentry
    sent := fun channel response hsent => by
      simp only [Dispatcher.insertPending, Table.lookup_insert_eq] at hsent
      split at hsent
      · simp at hsent
      · exact hs.sent channel response hsent }

/-- The execution `x` goes to another holder or another stage; the ledger stays. -/
theorem move {holder : Option Nat} (holder' : Option Nat) (stage' : Stage)
    (hold : HeldBy s D holder x stage) (hstage : ∀ outcome, stage ≠ .returned outcome)
    (hledger : s'.ledger = s.ledger) (hchannels : s'.channels = s.channels)
    (hnext : s'.nextChannel = s.nextChannel)
    (hqueued : (s'.spawned.map Execution.requestId).Nodup)
    (hheld : ∀ o y st, HeldBy s' D' o y st ↔ (y = x ∧ o = holder' ∧ st = stage') ∨
      (HeldBy s D o y st ∧ y.requestId ≠ x.requestId))
    (hV' : ∀ requestId, requestId ≠ x.requestId → V' requestId = V requestId)
    (hVx : V' x.requestId = some ⟨x, stage'.calls, stage'.outcomes⟩)
    (hA' : ∀ y, A' y ↔ A y)
    (hR' : ∀ y outcome, R' y outcome ↔ R y outcome ∨ (y = x ∧ stage' = .returned outcome)) :
    Books dispatcher s' D' V' A' R' := by
  obtain ⟨hAx, hentryx, -, hRx⟩ := hs.held holder x stage hold
  have hnot : ∀ outcome, ¬ R x outcome := fun outcome hR => hstage outcome ((hRx outcome).mp hR)
  have hkeepR : ∀ y outcome, R y outcome → R' y outcome := fun y outcome hR =>
    (hR' y outcome).mpr (.inl hR)
  exact {
    inflight := by rw [hledger]; exact hs.inflight
    inflight_le := by rw [hledger]; exact hs.inflight_le
    size_le := by rw [hledger]; exact hs.size_le
    fresh := fun y hy => by rw [hnext]; exact hs.fresh y ((hA' y).mp hy)
    distinct := fun y z hy hz => hs.distinct y z ((hA' y).mp hy) ((hA' z).mp hz)
    admitted := fun y outcome hy => by
      rw [hA']
      rcases (hR' y outcome).mp hy with hR | ⟨rfl, -⟩
      · exact hs.admitted y outcome hR
      · exact hAx
    once := fun y outcome outcome' hy hy' => by
      rcases (hR' y outcome).mp hy with hR | ⟨rfl, hreturned⟩ <;>
        rcases (hR' y outcome').mp hy' with hR' | ⟨hyx, hreturned'⟩
      · exact hs.once y outcome outcome' hR hR'
      · exact absurd (hyx ▸ hR) (hnot outcome)
      · exact absurd hR' (hnot outcome')
      · exact Stage.returned.inj (hreturned.symm.trans hreturned')
    held := fun o y st hy => by
      rcases (hheld o y st).mp hy with ⟨rfl, rfl, rfl⟩ | ⟨hy, hne⟩
      · refine ⟨(hA' y).mpr hAx, by rw [hledger]; exact hentryx, hVx, fun outcome => ?_⟩
        rw [hR', or_iff_right (hnot outcome), and_iff_right rfl]
      · obtain ⟨hA, hentry, hV, hR⟩ := hs.held o y st hy
        refine ⟨(hA' y).mpr hA, by rw [hledger]; exact hentry, by rw [hV' _ hne]; exact hV, ?_⟩
        intro outcome
        rw [hR', or_iff_left (fun hy => hne (congrArg Execution.requestId hy.1))]
        exact hR outcome
    sole := fun o o' y z st st' hy hz hsame => by
      rcases (hheld o y st).mp hy with ⟨rfl, rfl, -⟩ | ⟨hy, hne⟩ <;>
        rcases (hheld o' z st').mp hz with ⟨hzx, rfl, -⟩ | ⟨hz, hne'⟩
      · rfl
      · exact absurd hsame.symm hne'
      · exact absurd (hsame.trans (congrArg _ hzx)) hne
      · exact hs.sole o o' y z st st' hy hz hsame
    queued := hqueued
    pending := fun requestId digest isMutation channel hentry => by
      by_cases hid : requestId = x.requestId
      · exact ⟨holder', x, stage', (hheld _ _ _).mpr (.inl ⟨rfl, rfl, rfl⟩), hid.symm⟩
      · rw [hledger] at hentry
        obtain ⟨o, y, st, hy, heq⟩ := hs.pending _ _ _ _ hentry
        exact ⟨o, y, st, (hheld _ _ _).mpr (.inr ⟨hy, heq ▸ hid⟩), heq⟩
    complete := fun requestId digest isMutation response expiresAt hentry => by
      rw [hledger] at hentry
      have hid : requestId ≠ x.requestId := by
        rintro rfl
        rw [hentryx] at hentry
        cases hentry
      obtain ⟨y, outcome, hR, hrest⟩ := hs.complete _ _ _ _ _ hentry
      rw [← hV' _ hid] at hrest
      exact ⟨y, outcome, hkeepR y outcome hR, hrest⟩
    sent := fun channel response hsent => by
      rw [hchannels] at hsent
      obtain ⟨y, outcome, hR, hrest⟩ := hs.sent channel response hsent
      exact ⟨y, outcome, hkeepR y outcome hR, hrest⟩ }

theorem spawn (hD : D t = some ⟨x, .waiting⟩) :
    Reports dispatcher { s with spawned := s.spawned ++ [x] } D V A R t
      (.spawned x : DispatcherEvent ε) := by
  have hold : HeldBy s D (some t) x .waiting := hD
  have hunqueued : ∀ y ∈ s.spawned, y.requestId ≠ x.requestId := fun y hy =>
    (hs.ne_iff hD (show HeldBy s D none y .waiting from ⟨hy, rfl⟩)).mpr (by simp)
  refine hs.move none .waiting hold (by simp) rfl rfl rfl ?_ ?_ (by simp)
    (by simp [(hs.held _ _ _ hold).2.2.1]) (by simp) (by simp)
  · simp only [List.map_append, List.map_cons, List.map_nil, List.nodup_append]
    refine ⟨hs.queued, List.nodup_singleton _, ?_⟩
    intro requestId hmem requestId' hmem' hsame
    obtain ⟨y, hy, rfl⟩ := List.mem_map.mp hmem
    exact hunqueued y hy (hsame.trans (List.mem_singleton.mp hmem'))
  · rintro (_ | u) y st
    · have hother := hunqueued y
      simp only [HeldBy, List.mem_append, List.mem_singleton, true_and]
      tauto
    · rw [and_congr_right fun hheld => hs.ne_iff hD hheld]
      by_cases hu : u = t <;> simp [HeldBy, hu, Duty.next]

theorem call (hD : D t = none) {index : Nat} (hx : s.spawned[index]? = some x) :
    Reports dispatcher { s with spawned := s.spawned.eraseIdx index } D V A R t
      (.executeCalled x : DispatcherEvent ε) := by
  have hold : HeldBy s D none x .waiting := ⟨List.mem_of_getElem? hx, rfl⟩
  refine hs.move (some t) .running hold (by simp) rfl rfl rfl
    (hs.queued.sublist ((List.eraseIdx_sublist _ _).map _)) ?_ ?_ ?_ (by simp) (by simp)
  · rintro (_ | u) y st
    · simp only [HeldBy, mem_eraseIdx_of_nodup_map hs.queued hx, and_right_comm]
      simp
    · have hother : HeldBy s D (some u) y st → y.requestId ≠ x.requestId := fun hheld hsame =>
        absurd (hs.sole (some u) none y x st .waiting hheld hold hsame) (by simp)
      rw [and_iff_left_of_imp hother]
      by_cases hu : u = t
      · simp [HeldBy, hu, hD, Duty.next, eq_comm]
      · simp [HeldBy, hu]
  · intro requestId hne
    cases V requestId <;> simp [Admission.next, hne.symm]
  · simp [(hs.held _ _ _ hold).2.2.1, Admission.next, Stage.calls, Stage.outcomes]

theorem returns (hD : D t = some ⟨x, .running⟩) (outcome : Except CuaError CommandResult) :
    Reports dispatcher s D V A R t (.executed x outcome : DispatcherEvent ε) := by
  have hold : HeldBy s D (some t) x .running := hD
  refine hs.move (some t) (.returned outcome) hold (by simp) rfl rfl rfl hs.queued ?_ ?_ ?_
    (by simp) (by simp [eq_comm])
  · rintro o y st
    rw [and_congr_right fun hheld => hs.ne_iff hD hheld]
    cases o with
    | none => simp [HeldBy]
    | some u =>
        by_cases hu : u = t
        · simp [HeldBy, hu, Duty.next, eq_comm]
        · simp [HeldBy, hu]
  · intro requestId hne
    cases V requestId <;> simp [Admission.next, hne.symm]
  · simp [(hs.held _ _ _ hold).2.2.1, Admission.next, Stage.calls, Stage.outcomes]

theorem record {outcome : Except CuaError CommandResult}
    (hD : D t = some ⟨x, .returned outcome⟩) :
    Reports dispatcher (dispatcher.record s x (responseOf x outcome)) D V A R t
      (.completed x (responseOf x outcome) : DispatcherEvent ε) := by
  obtain ⟨hAx, hentry, hVx, hRx⟩ := hs.held (some t) x _ hD
  have hR : R x outcome := (hRx outcome).mpr rfl
  have herased : (s.ledger.entries.erase x.requestId).lookup x.requestId = none := by simp
  have hlookup := lookup_record dispatcher hentry (responseOf x outcome)
  have hrecord := record_of_pending dispatcher hentry (responseOf x outcome)
  have hcount := Table.count_erase_of_lookup hentry RequestEntry.isPending
  have hsize := Table.count_erase_of_lookup hentry fun _ => true
  simp only [← Table.size_eq_count] at hsize
  have hheld : ∀ o y st, HeldBy (dispatcher.record s x (responseOf x outcome))
      (fun u => if u = t then none else D u) o y st ↔
        HeldBy s D o y st ∧ y.requestId ≠ x.requestId := by
    intro o y st
    rw [and_congr_right fun hy => hs.ne_iff hD hy, hrecord]
    cases o with
    | none => simp [HeldBy]
    | some u => by_cases hu : u = t <;> simp [HeldBy, hu]
  simp only [Reports, Duty.next, Admission.next_completed, reduceCtorEq, or_false]
  exact {
    inflight := by
      simp only [hrecord, Table.count_insert_of_lookup_none herased]
      simp only [RequestEntry.isPending, if_true] at hcount
      have := hs.inflight
      simp only [RequestEntry.isPending, Bool.false_eq_true, if_false]
      omega
    inflight_le := by
      rw [hrecord]
      exact (Nat.sub_le _ _).trans hs.inflight_le
    size_le := by
      simp only [hrecord, Table.size_insert_of_lookup_none herased]
      have := hs.size_le
      simp only [if_true] at hsize
      omega
    fresh := by
      rw [hrecord]
      exact hs.fresh
    distinct := hs.distinct
    admitted := hs.admitted
    once := hs.once
    held := fun o y st hy => by
      obtain ⟨hy, hne⟩ := (hheld o y st).mp hy
      obtain ⟨hA, hentry', hrest⟩ := hs.held o y st hy
      exact ⟨hA, by rw [hlookup, if_neg hne, hentry'], hrest⟩
    sole := fun o o' y z st st' hy hz =>
      hs.sole o o' y z st st' ((hheld o y st).mp hy).1 ((hheld o' z st').mp hz).1
    queued := by
      rw [hrecord]
      exact hs.queued
    pending := fun requestId digest isMutation channel hpending => by
      rw [hlookup] at hpending
      split at hpending
      · simp at hpending
      · rename_i hid
        obtain ⟨o, y, st, hy, rfl⟩ := hs.pending _ _ _ _ hpending
        exact ⟨o, y, st, (hheld o y st).mpr ⟨hy, hid⟩, rfl⟩
    complete := fun requestId digest isMutation response expiresAt hcomplete => by
      rw [hlookup] at hcomplete
      split at hcomplete
      · rename_i hid
        cases hcomplete
        exact ⟨x, outcome, hR, hid.symm, rfl, rfl, rfl, hid ▸ hVx⟩
      · exact hs.complete _ _ _ _ _ hcomplete
    sent := fun channel response hsent => by
      simp only [hrecord, Table.lookup_insert_eq] at hsent
      split at hsent
      · rename_i hchannel
        cases hsent
        exact ⟨x, outcome, hR, hchannel.symm, rfl⟩
      · exact hs.sent channel response hsent }

end

end Books

/-! ## The books of a run -/

abbrev DispatcherRun (dispatcher : Dispatcher) (runtime : RuntimeModel ρ ι ε κ ℓ)
    (C : Contract ρ ε) (Post : Command → Except CuaError CommandResult → Prop)
    (s₀ : DispatcherState ρ) (steps : List (DispatcherStep ρ ε)) (s : DispatcherState ρ) : Prop :=
  Lawful (dispatcherContract dispatcher C Post) (dispatcherSystem dispatcher runtime).env s₀ steps s

def RunBooks (dispatcher : Dispatcher) (steps : List (DispatcherStep ρ ε))
    (s : DispatcherState ρ) : Prop :=
  Books dispatcher s (fun t => duty (history t steps)) (fun requestId => admission requestId steps)
    (fun x => Occurs (.admitted x) steps) (fun x outcome => Occurs (.executed x outcome) steps)

def DispatcherEvent.moves : DispatcherEvent ε → Bool
  | .admitted _ | .spawned _ | .executeCalled _ | .executed _ _ | .completed _ _ => true
  | _ => false

section Steps

variable {dispatcher : Dispatcher} {runtime : RuntimeModel ρ ι ε κ ℓ} {C : Contract ρ ε}
  {Post : Command → Except CuaError CommandResult → Prop} {s₀ s : DispatcherState ρ}
  {steps before after : List (DispatcherStep ρ ε)} {e : DispatcherStep ρ ε}

theorem dispatcher_permitted (he : Permitted (dispatcherContract dispatcher C Post)
      (dispatcherSystem dispatcher runtime).env before e) :
    (e.task = none ∧ e.events = [] ∧
      ((∃ duration, e.post = { e.pre with now := e.pre.now + duration }) ∨
        ∃ r, e.post = { e.pre with runtime := r })) ∨
      ∃ t, e.task = some t ∧
        DispatcherEffect dispatcher C Post (history t before) e.pre e.events e.post := by
  refine he.cases.imp_left ?_
  rintro ⟨ht, hevents, label, henv⟩
  refine ⟨ht, hevents, ?_⟩
  cases label with
  | elapsed duration => exact .inl ⟨duration, (Option.some.inj henv).symm⟩
  | runtime label =>
      obtain ⟨r, -, hr⟩ := Option.map_eq_some_iff.mp henv
      exact .inr ⟨r, hr.symm⟩

theorem foldl_of_fixed {α β : Type} {f : β → α → β} {b : β} {l : List α}
    (hl : ∀ a ∈ l, f b a = b) : l.foldl f b = b := by
  induction l with
  | nil => rfl
  | cons a l ih =>
      rw [List.foldl_cons, hl a (by simp)]
      exact ih fun a' ha' => hl a' (by simp [ha'])

theorem admission_neutral (hmoves : ∀ event ∈ e.events, event.moves = false)
    (requestId : RequestId) :
    admission requestId (before ++ [e]) = admission requestId before := by
  rw [admission_snoc]
  refine foldl_of_fixed fun event hevent => ?_
  have hnot := hmoves event hevent
  cases event with
  | admitted | spawned | executeCalled | executed | completed =>
      simp [DispatcherEvent.moves] at hnot
  | _ => cases admission requestId before <;> rfl

theorem RunBooks.neutral (hbooks : RunBooks dispatcher before s)
    (hmoves : ∀ event ∈ e.events, event.moves = false) :
    RunBooks dispatcher (before ++ [e]) s := by
  have hduty : ∀ u, duty (history u (before ++ [e])) = duty (history u before) := by
    intro u
    rw [history_append, duty_append]
    refine foldl_of_fixed fun event hevent => ?_
    have hnot : event.moves = false := by
      obtain ⟨f, hf, -, hx⟩ := mem_history.mp hevent
      exact hmoves event (List.mem_singleton.mp hf ▸ hx)
    cases event with
    | admitted | spawned | executeCalled | executed | completed =>
        simp [DispatcherEvent.moves] at hnot
    | _ => rfl
  have hadmitted : ∀ x, Occurs (.admitted x) (before ++ [e]) ↔ Occurs (.admitted x) before := by
    intro x
    rw [occurs_snoc, or_iff_left]
    exact fun hx => by simpa [DispatcherEvent.moves] using hmoves _ hx
  have hexecuted : ∀ x outcome, Occurs (.executed x outcome) (before ++ [e]) ↔
      Occurs (.executed x outcome) before := by
    intro x outcome
    rw [occurs_snoc, or_iff_left]
    exact fun hx => by simpa [DispatcherEvent.moves] using hmoves _ hx
  simpa only [RunBooks, hduty, admission_neutral hmoves, hadmitted, hexecuted] using hbooks

theorem RunBooks.step {t : Nat} {pre post : DispatcherState ρ} {event : DispatcherEvent ε}
    (hbooks : Books.Reports dispatcher post (fun t => duty (history t before))
      (fun requestId => admission requestId before) (fun x => Occurs (.admitted x) before)
      (fun x outcome => Occurs (.executed x outcome) before) t event) :
    RunBooks dispatcher (before ++ [⟨some t, pre, [event], post⟩]) post := by
  have hduty : ∀ u, duty (history u (before ++ [⟨some t, pre, [event], post⟩])) =
      if u = t then Duty.next (duty (history t before)) event else duty (history u before) := by
    intro u
    split
    · rename_i hu
      rw [hu, history_snoc_self, duty_snoc]
    · rw [history_snoc_other _ (by simpa using Ne.symm ‹_›)]
  simpa [RunBooks, hduty, admission_snoc, occurs_snoc, Books.Reports] using hbooks

theorem RunBooks.effect {t : Nat} {pre post : DispatcherState ρ} {es : List (DispatcherEvent ε)}
    (hbooks : RunBooks dispatcher before pre)
    (heffect : DispatcherEffect dispatcher C Post (history t before) pre es post) :
    RunBooks dispatcher (before ++ [⟨some t, pre, es, post⟩]) post := by
  cases heffect with
  | silent => exact RunBooks.neutral hbooks (by simp)
  | look hidle hfinds =>
      refine RunBooks.neutral hbooks.purged ?_
      rename_i event
      cases event <;> simp_all [Finds, DispatcherEvent.moves]
  | admits hidle hchannel hnone hinflight hsize =>
      exact RunBooks.step (hbooks.purged.insertPending hidle.duty hchannel hnone hinflight hsize)
  | spawn hduty => exact RunBooks.step (hbooks.spawn hduty)
  | call hidle htake => exact RunBooks.step (hbooks.call hidle.duty htake)
  | returns hduty hpost => exact RunBooks.step (hbooks.returns hduty _)
  | complete hduty => exact RunBooks.step (hbooks.record hduty)
  | observe => exact RunBooks.neutral hbooks (by simp [DispatcherEvent.moves])
  | respond => exact RunBooks.neutral hbooks (by simp [DispatcherEvent.moves])
  | reconcile => exact RunBooks.neutral hbooks (by simp [DispatcherEvent.moves])
  | runtime =>
      refine RunBooks.neutral (Books.of_same hbooks rfl rfl rfl rfl) ?_
      simp [DispatcherEvent.moves]

theorem DispatcherRun.books (h₀ : (dispatcherSystem dispatcher runtime).init s₀)
    (hr : DispatcherRun dispatcher runtime C Post s₀ steps s) : RunBooks dispatcher steps s := by
  refine hr.invariant ?_ ?_
  · obtain ⟨now, r, -, rfl⟩ := h₀
    simpa [RunBooks, admission] using Books.initial dispatcher now r
  · intro before e _ hbooks he
    rcases dispatcher_permitted he with ⟨-, hevents, henv⟩ | ⟨t, ht, heffect⟩
    · refine RunBooks.neutral ?_ (by simp [hevents])
      rcases henv with ⟨duration, hpost⟩ | ⟨r, hpost⟩ <;>
        · rw [hpost]
          exact Books.of_same hbooks rfl rfl rfl rfl
    · obtain ⟨task, pre, events, post⟩ := e
      cases ht
      exact RunBooks.effect hbooks heffect

end Steps

end NexusCua.Transport
