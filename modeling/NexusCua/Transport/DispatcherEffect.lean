import NexusCua.Transport.Dispatcher

/-!
# What a dispatcher task can do

`DispatcherEffect` says once what every block of the dispatcher's tasks can do
to the ledger, the channels and the queue of spawned executions, and what the
events it reports mean.  A task's duty is the execution it is responsible for:
admitted and not yet spawned, or taken from the queue and not yet recorded.

The runtime enters with a contract of its own and a postcondition of
`Runtime::execute`.
-/

namespace NexusCua.Transport

open NexusCua.Foundation NexusCua.Protocol
open NexusCua.Foundation.Async (wp Contract)

variable {ρ ι ε κ ℓ : Type}

/-! ## Duties -/

inductive Stage where
  | waiting
  | running
  | returned (outcome : Except CuaError CommandResult)

structure Duty where
  execution : Execution
  stage : Stage

def Duty.next : Option Duty → DispatcherEvent ε → Option Duty
  | _, .admitted execution => some ⟨execution, .waiting⟩
  | _, .spawned _ => none
  | _, .executeCalled execution => some ⟨execution, .running⟩
  | _, .executed execution outcome => some ⟨execution, .returned outcome⟩
  | _, .completed _ _ => none
  | duty, _ => duty

/-- The execution the task with history `h` is responsible for. -/
def duty (h : List (DispatcherEvent ε)) : Option Duty := h.foldl Duty.next none

@[simp] theorem duty_nil : duty ([] : List (DispatcherEvent ε)) = none := rfl

theorem duty_append (h es : List (DispatcherEvent ε)) :
    duty (h ++ es) = es.foldl Duty.next (duty h) := by
  simp [duty]

@[simp] theorem duty_snoc (h : List (DispatcherEvent ε)) (event : DispatcherEvent ε) :
    duty (h ++ [event]) = Duty.next (duty h) event := by
  simp [duty_append]

theorem duty_runtime (h : List (DispatcherEvent ε)) (es : List ε) :
    duty (h ++ es.map .runtime) = duty h := by
  rw [duty_append]
  induction es with
  | nil => rfl
  | cons event es ih => exact ih

def Idle (h : List (DispatcherEvent ε)) : Prop := ∀ event ∈ h, ∃ e, event = .runtime e

theorem Idle.duty {h : List (DispatcherEvent ε)} (hh : Idle h) : duty h = none := by
  induction h using List.reverseRecOn with
  | nil => rfl
  | append_singleton h event ih =>
      obtain ⟨e, rfl⟩ := hh event (by simp)
      rw [duty_snoc, ih fun x hx => hh x (by simp [hx])]
      rfl

/-! ## Responses -/

/-- The request identity and digest that a block of `begin_request` decided on. -/
def DispatcherEvent.begins : DispatcherEvent ε → Option (RequestId × Digest)
  | .admitted execution => some (execution.requestId, execution.digest)
  | .joined requestId digest _ => some (requestId, digest)
  | .replayed requestId digest _ => some (requestId, digest)
  | .refusedBusy requestId digest => some (requestId, digest)
  | .conflicted requestId digest => some (requestId, digest)
  | _ => none

def NotBegun (h : List (DispatcherEvent ε)) : Prop := ∀ event ∈ h, event.begins = none

/-- How a reconciliation with history `h` came to its answer. -/
inductive Reconciles (dispatcher : Dispatcher) (h : List (DispatcherEvent ε))
    (requestId : RequestId) : Except CuaError MutationReconciliation → Prop where
  | invalid {error : CuaError} : Reconciles dispatcher h requestId (.error error)
  | missing (hsnapshot : .snapshotTaken requestId none ∈ h) :
      Reconciles dispatcher h requestId
        (.ok (dispatcher.reconciliation requestId .unknown .unknown))
  | notMutation {entry : RequestEntry} (hsnapshot : .snapshotTaken requestId (some entry) ∈ h)
      (hmutation : entry.isMutation = false) :
      Reconciles dispatcher h requestId
        (.ok (dispatcher.reconciliation requestId .admitted .notMutation))
  | complete {digest : Digest} {response : ResponseEnvelope} {expiresAt : Nat}
      (hsnapshot : .snapshotTaken requestId (some (.complete digest true response expiresAt)) ∈ h) :
      Reconciles dispatcher h requestId (.ok (dispatcher.reconciliationFromResponse response))
  | observed {response : ResponseEnvelope} (digest : Digest) (channel : Nat)
      (hsnapshot : .snapshotTaken requestId (some (.pending digest true channel)) ∈ h)
      (hobserved : .observed channel response ∈ h) :
      Reconciles dispatcher h requestId (.ok (dispatcher.reconciliationFromResponse response))
  | pending {digest : Digest} {channel : Nat}
      (hsnapshot : .snapshotTaken requestId (some (.pending digest true channel)) ∈ h) :
      Reconciles dispatcher h requestId
        (.ok (dispatcher.reconciliation requestId .admitted .pending))

/-- The dispatch waits on the channel of the entry it found or of the one it made. -/
def Follows (h : List (DispatcherEvent ε)) (request : RequestEnvelope) (digest : Digest)
    (channel : Nat) : Prop :=
  .joined request.requestId digest channel ∈ h ∨
    .admitted ⟨request.requestId, digest, request.command, channel⟩ ∈ h

/-- The dispatch read `response` from the entry that it began with. -/
inductive Recorded (h : List (DispatcherEvent ε)) (request : RequestEnvelope) (digest : Digest)
    (response : ResponseEnvelope) : Prop where
  | replayed (hreplayed : .replayed request.requestId digest response ∈ h)
  | awaited (channel : Nat) (hfollows : Follows h request digest channel)
      (hobserved : .observed channel response ∈ h)

/-- How a dispatch with history `h` came to its response. -/
inductive Responds (dispatcher : Dispatcher) (h : List (DispatcherEvent ε))
    (request : RequestEnvelope) : ResponseEnvelope → Prop where
  | invalid {error : CuaError} (hinvalid : dispatcher.validateRequest request = .error error)
      (hidle : Idle h) :
      Responds dispatcher h request
        (preAdmissionFailure request.requestId error request.command.isMutation)
  | reconcile {input : ReconcileMutationInput}
      {outcome : Except CuaError MutationReconciliation}
      (hcommand : request.command = .reconcileMutation input)
      (hbegin : NotBegun h)
      (hreconciles : Reconciles dispatcher h input.requestId outcome) :
      Responds dispatcher h request (Dispatcher.reconcileResponse request.requestId outcome)
  | busy {digest : Digest} (hdigest : dispatcher.validateRequest request = .ok digest)
      (hbusy : .refusedBusy request.requestId digest ∈ h) :
      Responds dispatcher h request
        (preAdmissionFailure request.requestId requestBusy request.command.isMutation)
  | conflict {digest : Digest} (hdigest : dispatcher.validateRequest request = .ok digest)
      (hconflict : .conflicted request.requestId digest ∈ h) :
      Responds dispatcher h request
        (preAdmissionFailure request.requestId requestConflict request.command.isMutation)
  | recorded {digest : Digest} {response : ResponseEnvelope}
      (hdigest : dispatcher.validateRequest request = .ok digest)
      (hrecorded : Recorded h request digest response) : Responds dispatcher h request response
  | deadline {digest : Digest} (hdigest : dispatcher.validateRequest request = .ok digest)
      (hbegun : ∃ channel, Follows h request digest channel) :
      Responds dispatcher h request
        (deadlineExceeded request.requestId request.command.isMutation)

/-! ## What a block can do -/

def Finds (s : DispatcherState ρ) : DispatcherEvent ε → Prop
  | .joined requestId digest channel => ∃ isMutation,
      s.ledger.entries.lookup requestId = some (.pending digest isMutation channel)
  | .replayed requestId digest response => ∃ isMutation expiresAt,
      s.ledger.entries.lookup requestId = some (.complete digest isMutation response expiresAt)
  | .refusedBusy requestId _ => s.ledger.entries.lookup requestId = none
  | .conflicted requestId digest => ∃ entry,
      s.ledger.entries.lookup requestId = some entry ∧ entry.digest ≠ digest
  | .snapshotTaken requestId entry => s.ledger.entries.lookup requestId = entry
  | _ => False

inductive DispatcherEffect (dispatcher : Dispatcher) (C : Contract ρ ε)
    (Post : Command → Except CuaError CommandResult → Prop) :
    List (DispatcherEvent ε) → DispatcherState ρ → List (DispatcherEvent ε) →
      DispatcherState ρ → Prop where
  | silent {h s} : DispatcherEffect dispatcher C Post h s [] s
  | look {h s event} (hidle : Idle h) (hfinds : Finds s.purged event) :
      DispatcherEffect dispatcher C Post h s [event] s.purged
  | admits {h s execution} (hidle : Idle h) (hchannel : execution.channel = s.nextChannel)
      (hnone : s.purged.ledger.entries.lookup execution.requestId = none)
      (hinflight : s.purged.ledger.inflightRequests < dispatcher.maxInflightRequests)
      (hsize : s.purged.ledger.entries.size < dispatcher.maxCompletedRequests) :
      DispatcherEffect dispatcher C Post h s [.admitted execution]
        (Dispatcher.insertPending s.purged execution)
  | spawn {h s execution} (hduty : duty h = some ⟨execution, .waiting⟩) :
      DispatcherEffect dispatcher C Post h s [.spawned execution]
        { s with spawned := s.spawned ++ [execution] }
  | call {h s execution index} (hidle : Idle h) (htake : s.spawned[index]? = some execution) :
      DispatcherEffect dispatcher C Post h s [.executeCalled execution]
        { s with spawned := s.spawned.eraseIdx index }
  | returns {h s execution outcome} (hduty : duty h = some ⟨execution, .running⟩)
      (hpost : Post execution.command outcome) :
      DispatcherEffect dispatcher C Post h s [.executed execution outcome] s
  | complete {h s execution outcome} (hduty : duty h = some ⟨execution, .returned outcome⟩) :
      DispatcherEffect dispatcher C Post h s
        [.completed execution (responseOf execution outcome)]
        (dispatcher.record s execution (responseOf execution outcome))
  | observe {h s channel response} (hsent : s.channels.lookup channel = some (some response)) :
      DispatcherEffect dispatcher C Post h s [.observed channel response] s
  | respond {h s request response} (hresponds : Responds dispatcher h request response) :
      DispatcherEffect dispatcher C Post h s [.responded request response] s
  | reconcile {h s requestId outcome} (hreconciles : Reconciles dispatcher h requestId outcome) :
      DispatcherEffect dispatcher C Post h s [.reconciled requestId outcome] s
  | runtime {h s es r}
      (hruntime : C.guarantee (h.filterMap DispatcherEvent.runtime?) s.runtime es r) :
      DispatcherEffect dispatcher C Post h s (es.map .runtime) { s with runtime := r }

def dispatcherContract (dispatcher : Dispatcher) (C : Contract ρ ε)
    (Post : Command → Except CuaError CommandResult → Prop) :
    Contract (DispatcherState ρ) (DispatcherEvent ε) where
  guarantee := DispatcherEffect dispatcher C Post
  final h := duty h = none

/-! ## Every task keeps the contract -/

instance : Nonempty (DispatcherReply ι) := ⟨.none⟩

section Operations

variable {dispatcher : Dispatcher} {C : Contract ρ ε}
  {Post : Command → Except CuaError CommandResult → Prop} {χ α : Type}
  {h : List (DispatcherEvent ε)}

open Dispatcher

/-- What each decision of `begin_request` says about the ledger it was made on. -/
def Decided (dispatcher : Dispatcher) (ledger : RequestLedger) (execution : Execution) :
    BeginRequest → Prop
  | .execute admitted => admitted = execution ∧
      ledger.entries.lookup execution.requestId = none ∧
      ledger.inflightRequests < dispatcher.maxInflightRequests ∧
      ledger.entries.size < dispatcher.maxCompletedRequests
  | .replay response => ∃ isMutation expiresAt, ledger.entries.lookup execution.requestId =
      some (.complete execution.digest isMutation response expiresAt)
  | .wait channel => ∃ isMutation, ledger.entries.lookup execution.requestId =
      some (.pending execution.digest isMutation channel)
  | .busy => ledger.entries.lookup execution.requestId = none
  | .conflict => ∃ entry, ledger.entries.lookup execution.requestId = some entry ∧
      entry.digest ≠ execution.digest

theorem decided_decideRequest (dispatcher : Dispatcher) (ledger : RequestLedger)
    (requestId : RequestId) (digest : Digest)
    (command : Command) (channel : Nat) :
    Decided dispatcher ledger ⟨requestId, digest, command, channel⟩
      (dispatcher.decideRequest ledger requestId digest command channel) := by
  simp only [decideRequest]
  split
  · rename_i existing isMutation response hentry
    split
    · rename_i hsame
      exact ⟨isMutation, hsame ▸ hentry⟩
    · exact ⟨_, hentry, ‹_›⟩
  · rename_i existing isMutation response expiresAt hentry
    split
    · rename_i hsame
      exact ⟨isMutation, expiresAt, hsame ▸ hentry⟩
    · exact ⟨_, hentry, ‹_›⟩
  · rename_i hnone
    split
    · exact hnone
    · split
      · exact hnone
      · exact ⟨rfl, hnone, by omega, by omega⟩

theorem wp_beginRequest (requestId : RequestId) (digest : Digest) (command : Command)
    {Q : Except χ BeginRequest → List (DispatcherEvent ε) → Prop} (hidle : Idle h)
    (hexecute : ∀ channel, Q (.ok (.execute ⟨requestId, digest, command, channel⟩))
      (h ++ [.admitted ⟨requestId, digest, command, channel⟩]))
    (hreplay : ∀ response, Q (.ok (.replay response))
      (h ++ [.replayed requestId digest response]))
    (hwait : ∀ channel, Q (.ok (.wait channel)) (h ++ [.joined requestId digest channel]))
    (hbusy : Q (.ok .busy) (h ++ [.refusedBusy requestId digest]))
    (hconflict : Q (.ok .conflict) (h ++ [.conflicted requestId digest])) :
    wp (dispatcherContract dispatcher C Post)
      (dispatcher.beginRequest requestId digest command : DispatcherProgram ρ ι ε χ _) Q h := by
  simp only [beginRequest, Async.wp_atomic]
  intro _ s s' es outcome hb
  have hdecided := decided_decideRequest dispatcher s.purged.ledger requestId digest command
    s.nextChannel
  change some (enact s.purged requestId digest (dispatcher.decideRequest s.purged.ledger requestId
    digest command s.nextChannel)) = _ at hb
  generalize dispatcher.decideRequest s.purged.ledger requestId digest command s.nextChannel =
    decision at hb hdecided
  cases decision with
  | execute execution =>
      obtain ⟨rfl, hnone, hinflight, hsize⟩ := hdecided
      cases hb
      exact ⟨.admits hidle rfl hnone hinflight hsize, hexecute _⟩
  | replay response =>
      cases hb
      exact ⟨.look hidle hdecided, hreplay response⟩
  | wait channel =>
      cases hb
      exact ⟨.look hidle hdecided, hwait channel⟩
  | busy =>
      cases hb
      exact ⟨.look hidle hdecided, hbusy⟩
  | conflict =>
      cases hb
      exact ⟨.look hidle hdecided, hconflict⟩

theorem wp_waitForResponse (channel deadline : Nat)
    {Q : Except χ (Option ResponseEnvelope) → List (DispatcherEvent ε) → Prop}
    (hnone : Q (.ok none) h)
    (hsome : ∀ response, Q (.ok (some response)) (h ++ [.observed channel response])) :
    wp (dispatcherContract dispatcher C Post)
      (waitForResponse channel deadline : DispatcherProgram ρ ι ε χ _) Q h := by
  simp only [waitForResponse, Async.wp_bind, Async.wp_atomic, Async.onOk_ok]
  intro _ s s' es current hb
  split at hb
  · contradiction
  · cases hb
    refine ⟨.silent, ?_⟩
    simp only [List.append_nil, Async.wp_atomic]
    intro _ s s' es response hb
    split at hb
    · contradiction
    · rename_i hsent
      cases hb
      exact ⟨.observe hsent, hsome _⟩
    · split at hb
      · cases hb
        exact ⟨.silent, by simpa using hnone⟩
      · contradiction
  · rename_i hsent
    cases hb
    exact ⟨.observe hsent, hsome _⟩

variable {Q : Except χ ResponseEnvelope → List (DispatcherEvent ε) → Prop}

theorem wp_awaitResponse (channel deadline : Nat) (requestId : RequestId) (isMutation : Bool)
    (hdeadline : Q (.ok (deadlineExceeded requestId isMutation)) h)
    (hobserved : ∀ response, Q (.ok response) (h ++ [.observed channel response])) :
    wp (dispatcherContract dispatcher C Post)
      (awaitResponse channel deadline requestId isMutation : DispatcherProgram ρ ι ε χ _) Q h := by
  rw [awaitResponse, Async.wp_bind]
  exact wp_waitForResponse channel deadline hdeadline hobserved

theorem wp_dispatchAdmitted (request : RequestEnvelope) (digest : Digest)
    (hdigest : dispatcher.validateRequest request = .ok digest) (hidle : Idle h)
    (hQ : ∀ response es, duty (h ++ es) = none → Responds dispatcher (h ++ es) request response →
      Q (.ok response) (h ++ es)) :
    wp (dispatcherContract dispatcher C Post)
      (dispatcher.dispatchAdmitted request digest : DispatcherProgram ρ ι ε χ _) Q h := by
  have hduty : duty h = none := hidle.duty
  simp only [dispatchAdmitted, Async.wp_bind, Async.wp_read, Async.onOk_ok]
  refine fun s => ⟨.silent, ?_⟩
  refine wp_beginRequest request.requestId digest request.command hidle ?_ ?_ ?_ ?_ ?_
  · intro channel
    simp only [Async.onOk_ok, resolveRequest, Async.wp_bind, spawnExecution, Async.wp_atomic]
    intro _ s s' es b hb
    cases hb
    refine ⟨.spawn (by simp [Duty.next]), wp_awaitResponse _ _ _ _ ?_ ?_⟩
    · rw [List.append_assoc]
      refine hQ _ _ (by simp [duty_append, Duty.next]) (.deadline hdigest ⟨channel, .inr ?_⟩)
      simp
    · intro response
      rw [List.append_assoc, List.append_assoc]
      refine hQ _ _ (by simp [duty_append, Duty.next])
        (.recorded hdigest (.awaited channel (.inr ?_) ?_))
      · simp
      · simp
  · intro response
    exact hQ _ _ (by simp [Duty.next, hduty]) (.recorded hdigest (.replayed (by simp)))
  · intro channel
    refine wp_awaitResponse _ _ _ _ ?_ ?_
    · exact hQ _ _ (by simp [Duty.next, hduty]) (.deadline hdigest ⟨channel, .inl (by simp)⟩)
    · intro response
      rw [List.append_assoc]
      refine hQ _ _ (by simp [duty_append, Duty.next, hduty])
        (.recorded hdigest (.awaited channel (.inl ?_) ?_))
      · simp
      · simp
  · exact hQ _ _ (by simp [Duty.next, hduty]) (.busy hdigest (by simp))
  · exact hQ _ _ (by simp [Duty.next, hduty]) (.conflict hdigest (by simp))

theorem Idle.notBegun (hidle : Idle h) : NotBegun h := by
  intro event hevent
  obtain ⟨e, rfl⟩ := hidle event hevent
  rfl

theorem NotBegun.snoc (hh : NotBegun h) (event : DispatcherEvent ε)
    (hevent : event.begins = none) : NotBegun (h ++ [event]) := by
  intro x hx
  rcases List.mem_append.mp hx with hx | hx
  · exact hh x hx
  · rw [List.mem_singleton.mp hx]
    exact hevent

theorem wp_reconcileSnapshot (requestId : RequestId) (wait : Nat) (snapshot : Option RequestEntry)
    {Q : Except CuaError MutationReconciliation → List (DispatcherEvent ε) → Prop}
    (hsnapshot : .snapshotTaken requestId snapshot ∈ h)
    (hsilent : ∀ outcome, Reconciles dispatcher h requestId outcome → Q outcome h)
    (hobserve : ∀ outcome channel response,
      Reconciles dispatcher (h ++ [.observed channel response]) requestId outcome →
      Q outcome (h ++ [.observed channel response])) :
    wp (dispatcherContract dispatcher C Post)
      (dispatcher.reconcileSnapshot requestId wait snapshot : DispatcherProgram ρ ι ε _ _) Q h := by
  match snapshot with
  | none => exact hsilent _ (.missing hsnapshot)
  | some (.pending digest false channel) => exact hsilent _ (.notMutation hsnapshot rfl)
  | some (.complete digest false response expiresAt) =>
      exact hsilent _ (.notMutation hsnapshot rfl)
  | some (.complete digest true response expiresAt) => exact hsilent _ (.complete hsnapshot)
  | some (.pending digest true channel) =>
      simp only [reconcileSnapshot, Async.wp_bind, Async.wp_read, Async.onOk_ok]
      refine fun s => ⟨.silent, wp_waitForResponse _ _ ?_ ?_⟩
      · exact hsilent _ (.pending hsnapshot)
      · intro response
        refine hobserve _ channel response (.observed digest channel ?_ (by simp))
        exact List.mem_append_left _ hsnapshot

theorem wp_reconcileMutation (requestId : RequestId) (wait : Nat)
    {Q : Except CuaError MutationReconciliation → List (DispatcherEvent ε) → Prop}
    (hidle : Idle h)
    (hQ : ∀ outcome es, duty (h ++ es) = none → NotBegun (h ++ es) →
      Reconciles dispatcher (h ++ es) requestId outcome → Q outcome (h ++ es)) :
    wp (dispatcherContract dispatcher C Post)
      (dispatcher.reconcileMutation requestId wait : DispatcherProgram ρ ι ε _ _) Q h := by
  have hduty : duty h = none := hidle.duty
  rw [reconcileMutation]
  split
  · simpa using hQ _ [] (by simpa using hduty) (by simpa using hidle.notBegun) .invalid
  · simp only [Async.wp_bind, Async.wp_atomic, Async.onOk_ok]
    intro _ s s' es snapshot hb
    cases hb
    have hbegun := hidle.notBegun.snoc
      (.snapshotTaken requestId (s.purged.ledger.entries.lookup requestId)) rfl
    refine ⟨.look hidle rfl, wp_reconcileSnapshot requestId wait _ (by simp) ?_ ?_⟩
    · exact fun outcome => hQ outcome _ (by simp [Duty.next, hduty]) hbegun
    · intro outcome channel response
      have hobserved := hbegun.snoc (.observed channel response) rfl
      rw [List.append_assoc] at hobserved ⊢
      exact hQ outcome _ (by simp [duty_append, Duty.next, hduty]) hobserved

theorem wp_dispatch (request : RequestEnvelope) (hidle : Idle h)
    (hQ : ∀ response es, duty (h ++ es) = none → Responds dispatcher (h ++ es) request response →
      Q (.ok response) (h ++ es)) :
    wp (dispatcherContract dispatcher C Post)
      (dispatcher.dispatch request : DispatcherProgram ρ ι ε χ _) Q h := by
  have hsilent : ∀ response, Responds dispatcher h request response → Q (.ok response) h := by
    intro response hresponds
    simpa using hQ response [] (by simpa using hidle.duty) (by simpa using hresponds)
  rw [dispatch]
  split
  · exact hsilent _ (.invalid ‹_› hidle)
  · rename_i digest hdigest
    split
    · rename_i input hcommand
      rw [dispatchReconcile]
      split
      · exact hsilent _ (.reconcile hcommand hidle.notBegun .invalid)
      · simp only [Async.wp_bind, Async.wp_attempt]
        refine wp_reconcileMutation input.requestId _ hidle fun outcome es hduty hbegins hrec => ?_
        exact hQ _ es hduty (.reconcile hcommand hbegins hrec)
    · exact wp_dispatchAdmitted request digest hdigest hidle hQ

theorem wp_executionTask (runtime : RuntimeModel ρ ι ε κ ℓ)
    (hexecute : ∀ command h, wp C (runtime.execute command)
      (fun outcome _ => ∀ value, outcome = .ok value → Post command value) h)
    {Q : Except Empty Unit → List (DispatcherEvent ε) → Prop} (hidle : Idle h)
    (hQ : ∀ es, duty es = none → Q (.ok ()) es) :
    wp (dispatcherContract dispatcher C Post) (dispatcher.executionTask runtime) Q h := by
  simp only [executionTask, Async.wp_bind, Async.wp_atomic, Async.onOk_ok]
  intro reply s s' es execution hb
  split at hb
  · split at hb
    · contradiction
    · rename_i htake
      cases hb
      refine ⟨.call hidle htake, ?_⟩
      refine Async.wp_embed runtimeEmbedding (C := C) ?_ ?_
      · rintro h s inner es inner' hlook hguarantee
        cases hlook
        exact .runtime hguarantee
      · refine Async.wp_mono (hexecute execution.command _) fun outcome es hpost es' _ => ?_
        cases outcome with
        | error error => exact error.elim
        | ok outcome =>
            simp only [Async.onOk_ok, Async.wp_bind, Async.wp_report, completeRequest,
              Async.wp_atomic]
            refine fun s => ⟨.returns ?_ (hpost outcome rfl), ?_⟩
            · rw [show runtimeEmbedding.event = DispatcherEvent.runtime from rfl, duty_runtime]
              simp [Duty.next]
            · intro _ s s' es b hb
              cases hb
              refine ⟨.complete ?_, hQ _ ?_⟩
              · rw [duty_snoc]
                rfl
              · rw [duty_snoc]
                rfl
  · contradiction

end Operations

theorem dispatcherSystem_keeps (dispatcher : Dispatcher) (runtime : RuntimeModel ρ ι ε κ ℓ)
    {C : Contract ρ ε} {Post : Command → Except CuaError CommandResult → Prop}
    (hsystem : runtime.system.Keeps C)
    (hexecute : ∀ command h, wp C (runtime.execute command)
      (fun outcome _ => ∀ value, outcome = .ok value → Post command value) h) :
    (dispatcherSystem dispatcher runtime).Keeps (dispatcherContract dispatcher C Post) := by
  intro call
  have hidle : Idle ([] : List (DispatcherEvent ε)) := by simp [Idle]
  cases call with
  | dispatch request =>
      change wp _ (dispatcher.dispatch request >>= _) _ []
      rw [Async.wp_bind]
      refine wp_dispatch request hidle fun response es hduty hresponds => ?_
      rw [Async.onOk_ok, Async.wp_report]
      refine fun s => ⟨.respond hresponds, ?_⟩
      simpa [dispatcherContract, Duty.next] using hduty
  | reconcileMutation requestId wait =>
      change wp _ ((dispatcher.reconcileMutation requestId wait).attempt >>= _) _ []
      rw [Async.wp_bind, Async.wp_attempt]
      refine wp_reconcileMutation requestId wait hidle fun outcome es hduty _ hreconciles => ?_
      rw [Async.onOk_ok, Async.wp_report]
      refine fun s => ⟨.reconcile hreconciles, ?_⟩
      simpa [dispatcherContract, Duty.next] using hduty
  | worker => exact wp_executionTask runtime hexecute hidle fun es hduty => hduty
  | runtime command =>
      refine Async.wp_embed Dispatcher.runtimeEmbedding (C := C) ?_ ?_
      · rintro h s inner es inner' hlook hguarantee
        cases hlook
        exact .runtime hguarantee
      · refine Async.wp_mono (hsystem command) fun outcome es _ es' _ => ?_
        change duty ([] ++ es'.map DispatcherEvent.runtime) = none
        rw [duty_runtime, duty_nil]

end NexusCua.Transport
