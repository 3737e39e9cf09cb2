import NexusCua.Host.Accounting
import NexusCua.Host.Gateway

/-!
# What leaves the gateway

A screenshot is to leave the gateway as a ticket for the lease and epoch of the
request, never with its worker-local path.  The module says what the gateway's
tasks can do, follows a worker's result to the response it ends in, and settles
which results leave without a path.
-/

namespace NexusCua.Host

open NexusCua.Foundation NexusCua.Protocol
open NexusCua.Foundation.Async (wp Contract)

abbrev GatewayStep := Step GatewayState GatewayEvent

/-! ## What a block can do -/

/-- How the result of a worker ends up in the response to `request`. -/
inductive Projected (h : List GatewayEvent) (request : GatewayExecuteRequest) :
    CommandResult → GatewayOutcome → Prop where
  | reconciled {reconciliation : MutationReconciliation} {epoch : Option String} :
      Projected h request (.mutationReconciled reconciliation)
        (.success (.core (.mutationReconciled { reconciliation with workerEpoch := epoch })))
  | bare {observation : WindowObservation} (hnone : observation.screenshot = none) :
      Projected h request (.windowObserved observation)
        (.success (.windowObserved (.project observation none)))
  | ticketed {observation : WindowObservation} {artifact : ScreenshotArtifact}
      {lease : WorkerLease} {worker : DesktopWorker} {ticketRef : String} {expiresAt : Nat}
      (hsome : observation.screenshot = some artifact)
      (hresolved : .resolved request.leaseId request.workerEpoch lease worker ∈ h)
      (hminted : .minted ticketRef ⟨lease.leaseId, lease.workerEpoch, artifact, expiresAt⟩ ∈ h) :
      Projected h request (.windowObserved observation)
        (.success (.windowObserved (.project observation (some (.project artifact ticketRef)))))
  | refused {observation : WindowObservation} {artifact : ScreenshotArtifact} {error : CuaError}
      (hsome : observation.screenshot = some artifact)
      (hstatus : error.mutationStatus = .notApplicable) :
      Projected h request (.windowObserved observation) (.error error)
  | passed {result : CommandResult} (hobserved : ∀ o, result ≠ .windowObserved o)
      (hreconciled : ∀ r, result ≠ .mutationReconciled r) :
      Projected h request result (.success (.core result))

def HasDispatched (h : List GatewayEvent) : Prop :=
  ∃ worker requestId timeoutMs command, .dispatched worker requestId timeoutMs command ∈ h

def HasResponded (h : List GatewayEvent) : Prop :=
  ∃ request response, .responded request response ∈ h

/--
The response of a task that has not responded yet accounts for the worker's
answer.  After a dispatch, an error that says the mutation was not dispatched is
the worker's.
-/
structure Accounts (h : List GatewayEvent) (request : GatewayExecuteRequest)
    (response : GatewayExecuteResponse) : Prop where
  first : ¬HasResponded h
  projected : ∀ envelope result, .answered envelope ∈ h → envelope.outcome = .success result →
    Projected h request result response.outcome
  forwarded : ∀ envelope error, .answered envelope ∈ h → envelope.outcome = .error error →
    response.outcome = .error error
  undispatched : ∀ error, response.outcome = .error error →
    error.mutationStatus = .notDispatched → HasDispatched h →
      ∃ envelope, .answered envelope ∈ h ∧ envelope.outcome = .error error

structure WorkerGateway.Accepts (gateway : WorkerGateway) (request : GatewayExecuteRequest) :
    Prop where
  protocol : request.protocolVersion = gatewayProtocolVersion
  token : gateway.token.accepts request.authorization = true
  nonempty : request.requestId.value.isEmpty = false
  requestId_le : request.requestId.value.utf8ByteSize ≤ maxRequestIdBytes
  trimmed : isTrimmed request.requestId.value = true
  timeout_pos : request.timeoutMs ≠ 0
  timeout_le : request.timeoutMs ≤ gateway.config.maxRequestTimeoutMs

structure WorkerGateway.Authenticates (gateway : WorkerGateway)
    (request : GatewayArtifactRequest) : Prop where
  protocol : request.protocolVersion = gatewayProtocolVersion
  token : gateway.token.accepts request.authorization = true

/-- The ticket stands for the screenshot the worker answered with on the ticket's lease. -/
structure Redeems (h : List GatewayEvent) (ticket : ArtifactTicket) (worker : DesktopWorker) :
    Prop where
  resolved : ∃ leaseId epoch lease, .resolved leaseId epoch lease worker ∈ h ∧
    lease.leaseId = ticket.leaseId ∧ lease.workerEpoch = ticket.workerEpoch
  dispatched : ∃ requestId timeoutMs command,
    .dispatched worker requestId timeoutMs command ∈ h
  answered : ∃ envelope observation, .answered envelope ∈ h ∧
    envelope.outcome = .success (.windowObserved observation) ∧
    observation.screenshot = some ticket.artifact

inductive GatewayEffect (gateway : WorkerGateway) :
    List GatewayEvent → GatewayState → List GatewayEvent → GatewayState → Prop where
  | silent {h s} : GatewayEffect gateway h s [] s
  | admitExecute {h s request} (hpermit : 0 < s.permits) (haccepts : gateway.Accepts request) :
      GatewayEffect gateway h s [.executeAdmitted request] { s with permits := s.permits - 1 }
  | admitFetch {h s request} (hpermit : 0 < s.permits)
      (hauthentic : gateway.Authenticates request) :
      GatewayEffect gateway h s [.fetchAdmitted request] { s with permits := s.permits - 1 }
  | release {h s} : GatewayEffect gateway h s [] { s with permits := s.permits + 1 }
  | registry {h s call wallClock} :
      GatewayEffect gateway h s [] { s with
        issued := s.issued + 2
        registry := RegistryCall.apply gateway.registry gateway.uuids s.now s.issued wallClock
          s.registry call }
  | stale {h s} :
      GatewayEffect gateway h s [] { s with registry := s.registry.purgeExpired s.now }
  | resolve {h s leaseId epoch lease worker}
      (hok : (s.registry.resolve leaseId epoch s.now).2 = .ok (lease, worker)) :
      GatewayEffect gateway h s [.resolved leaseId epoch lease worker]
        { s with registry := s.registry.purgeExpired s.now }
  | dispatch {h s request lease worker} (hadmitted : .executeAdmitted request ∈ h)
      (hresolved : .resolved request.leaseId request.workerEpoch lease worker ∈ h)
      (hfirst : ¬HasDispatched h) (hopen : ¬HasResponded h) :
      GatewayEffect gateway h s
        [.dispatched worker request.requestId request.timeoutMs request.command] s
  | answer {h s envelope} (hopen : ¬HasResponded h) :
      GatewayEffect gateway h s [.answered envelope] s
  | purge {h s} :
      GatewayEffect gateway h s [] { s with tickets := purgeTickets s.tickets s.now }
  | mint {h s ticket worker} (hroom : (purgeTickets s.tickets s.now).size <
        gateway.config.maxArtifactTickets)
      (hexpires : ticket.expiresAt = s.now + gateway.config.artifactTicketTtl)
      (hredeems : Redeems h ticket worker) :
      GatewayEffect gateway h s [.minted (gateway.uuids.issue "ticket" s.issued) ticket]
        { s with
          issued := s.issued + 1
          tickets := (purgeTickets s.tickets s.now).insert
            (gateway.uuids.issue "ticket" s.issued) ticket }
  | readTicket {h s ticketRef ticket}
      (hticket : (purgeTickets s.tickets s.now).lookup ticketRef = some ticket) :
      GatewayEffect gateway h s [.ticketRead ticketRef ticket]
        { s with tickets := purgeTickets s.tickets s.now }
  | artifact {h s request lease worker ticket} (hadmitted : .fetchAdmitted request ∈ h)
      (hresolved : .resolved request.leaseId request.workerEpoch lease worker ∈ h)
      (hread : .ticketRead request.ticketRef ticket ∈ h)
      (hlease : ticket.leaseId = request.leaseId)
      (hepoch : ticket.workerEpoch = request.workerEpoch) :
      GatewayEffect gateway h s [.artifactRequested worker ticket.artifact] s
  | respond {h s request response} (hresponse : Accounts h request response) :
      GatewayEffect gateway h s [.responded request response] s
  | fetch {h s request outcome} : GatewayEffect gateway h s [.fetched request outcome] s

variable {request : GatewayExecuteRequest} {result : CommandResult}

theorem Projected.status {h : List GatewayEvent} {outcome : GatewayOutcome} {error : CuaError}
    (hp : Projected h request result outcome) (herror : outcome = .error error) :
    error.mutationStatus = .notApplicable := by
  cases hp with
  | refused hsome hstatus =>
      cases herror
      exact hstatus
  | _ => cases herror

def gatewayContract (gateway : WorkerGateway) : Contract GatewayState GatewayEvent where
  guarantee := GatewayEffect gateway
  final _ := True

instance : Nonempty GatewayReply := ⟨.none⟩

/-- The contract permits what a block of the gateway can do, a response apart. -/
def Permits (gateway : WorkerGateway) (C : Contract GatewayState GatewayEvent) : Prop :=
  ∀ {h s es s'}, GatewayEffect gateway h s es s' → ¬HasResponded es → C.guarantee h s es s'

/-! ## Every call keeps the contract -/

section Operations

variable {gateway : WorkerGateway} {C : Contract GatewayState GatewayEvent} {χ α : Type}
  {h : List GatewayEvent} (hC : Permits gateway C)
include hC

open WorkerGateway

theorem wp_tryAcquire {admission : GatewayEvent} {Q : Except χ Bool → List GatewayEvent → Prop}
    (hadmission : ∀ s, 0 < s.permits →
      GatewayEffect gateway h s [admission] { s with permits := s.permits - 1 })
    (hopen : ¬HasResponded [admission]) (hbusy : Q (.ok false) h)
    (hadmitted : Q (.ok true) (h ++ [admission])) : wp C (tryAcquire admission) Q h := by
  rw [tryAcquire, Async.wp_atomic]
  intro _ s s' es admitted hb
  split at hb
  · cases hb
    exact ⟨hC .silent (by simp [HasResponded]), by simpa using hbusy⟩
  · cases hb
    exact ⟨hC (hadmission s (Nat.pos_of_ne_zero ‹_›)) hopen, hadmitted⟩

theorem wp_releasePermit {Q : Except χ Unit → List GatewayEvent → Prop} (hQ : Q (.ok ()) h) :
    wp C releasePermit Q h := by
  simp only [releasePermit, Async.wp_update]
  exact fun s => ⟨hC .release (by simp [HasResponded]), hQ⟩

theorem wp_resolve (leaseId : WorkerLeaseId) (epoch : WorkerEpoch)
    {Q : Except χ (Except WorkerError (WorkerLease × DesktopWorker)) → List GatewayEvent → Prop}
    (hstale : ∀ error, Q (.ok (.error error)) h)
    (hok : ∀ lease worker,
      Q (.ok (.ok (lease, worker))) (h ++ [.resolved leaseId epoch lease worker])) :
    wp C (resolve leaseId epoch) Q h := by
  simp only [resolve, Async.wp_atomic, RegistryState.resolve_fst]
  intro _ s s' es outcome hb
  cases hresolve : (s.registry.resolve leaseId epoch s.now).2 with
  | error error =>
      rw [hresolve] at hb
      cases hb
      exact ⟨hC .stale (by simp [HasResponded]), by simpa using hstale error⟩
  | ok resolved =>
      obtain ⟨lease, worker⟩ := resolved
      rw [hresolve] at hb
      cases hb
      exact ⟨hC (.resolve hresolve) (by simp [HasResponded]), hok lease worker⟩

theorem wp_mintTicket {worker : DesktopWorker} (leaseId : WorkerLeaseId) (epoch : WorkerEpoch)
    (artifact : ScreenshotArtifact)
    {Q : Except CuaError RemoteScreenshotArtifact → List GatewayEvent → Prop}
    (hredeems : ∀ expiresAt, Redeems h ⟨leaseId, epoch, artifact, expiresAt⟩ worker)
    (herror : ∀ error, error.mutationStatus = .notApplicable → Q (.error error) h)
    (hok : ∀ ticketRef expiresAt, Q (.ok (.project artifact ticketRef))
      (h ++ [.minted ticketRef ⟨leaseId, epoch, artifact, expiresAt⟩])) :
    wp C (gateway.mintTicket leaseId epoch artifact) Q h := by
  rw [mintTicket]
  split
  · exact herror _ rfl
  · simp only [Async.wp_bind, Async.wp_atomic, Async.onOk_ok]
    intro _ s s' es outcome hb
    split at hb
    · cases hb
      exact ⟨hC .purge (by simp [HasResponded]), by simpa using herror _ rfl⟩
    · rename_i hroom
      cases hb
      refine ⟨hC (.mint (by simpa using hroom) rfl (hredeems _)) ?_, hok _ _⟩
      simp [HasResponded]

theorem wp_projectResult (request : GatewayExecuteRequest) (lease : WorkerLease)
    (worker : DesktopWorker) (result : CommandResult) {envelope : ResponseEnvelope}
    {Q : Except CuaError GatewayResult → List GatewayEvent → Prop}
    (hresolved : .resolved request.leaseId request.workerEpoch lease worker ∈ h)
    (hdispatched : .dispatched worker request.requestId request.timeoutMs request.command ∈ h)
    (hanswered : .answered envelope ∈ h) (houtcome : envelope.outcome = .success result)
    (hQ : ∀ projected es, (∀ e ∈ es, ∃ ticketRef ticket, e = .minted ticketRef ticket) →
      Projected (h ++ es) request result (.ofExcept projected) → Q projected (h ++ es)) :
    wp C (gateway.projectResult lease.leaseId lease.workerEpoch result) Q h := by
  have hsilent : ∀ projected, Projected h request result (.ofExcept projected) →
      Q projected h := by
    intro projected hprojected
    simpa using hQ projected [] (by simp) (by simpa using hprojected)
  cases result with
  | mutationReconciled reconciliation => exact hsilent _ .reconciled
  | windowObserved observation =>
      simp only [projectResult]
      split
      · exact hsilent _ (.bare ‹_›)
      · rename_i artifact hsome
        rw [Async.wp_bind]
        refine wp_mintTicket hC lease.leaseId lease.workerEpoch artifact
          (fun _ => ⟨⟨_, _, lease, hresolved, rfl, rfl⟩, ⟨_, _, _, hdispatched⟩,
            ⟨envelope, observation, hanswered, houtcome, hsome⟩⟩) ?_ ?_
        · exact fun error hstatus => hsilent (.error error) (.refused hsome hstatus)
        · intro ticketRef expiresAt
          refine hQ (.ok _) _ (by simp) ?_
          exact .ticketed hsome (List.mem_append_left _ hresolved)
            (List.mem_append_right _ (List.mem_singleton_self _))
  | _ => exact hsilent (.ok _) (.passed (by simp) (by simp))

theorem wp_executeAdmitted (request : GatewayExecuteRequest)
    {Q : Except Empty GatewayExecuteResponse → List GatewayEvent → Prop}
    (hQ : ∀ response es, Accounts es request response → Q (.ok response) es) :
    wp C (gateway.executeAdmitted request) Q [.executeAdmitted request] := by
  simp only [executeAdmitted, Async.wp_bind]
  refine wp_resolve hC request.leaseId request.workerEpoch ?_ ?_
  · intro error
    refine hQ _ _ ⟨by simp [HasResponded], by simp, by simp, ?_⟩
    intro error _ _ hdispatched
    simp [HasDispatched] at hdispatched
  · intro lease worker
    simp only [Async.onOk_ok, Async.wp_bind, dispatch, Async.wp_report, Async.wp_atomic]
    refine fun s => ⟨hC (.dispatch (by simp)
      (by simp : GatewayEvent.resolved request.leaseId request.workerEpoch lease worker ∈ _)
      (by simp [HasDispatched]) (by simp [HasResponded])) (by simp [HasResponded]), ?_⟩
    intro reply s s' es envelope hb
    split at hb
    · cases hb
      refine ⟨hC (.answer (by simp [HasResponded])) (by simp [HasResponded]), ?_⟩
      cases houtcome : envelope.outcome with
      | error error =>
          refine hQ _ _ ⟨by simp [HasResponded], ?_, ?_, ?_⟩
          · intro envelope' result hmem hresult
            obtain rfl : envelope' = envelope := by simpa using hmem
            simp [houtcome] at hresult
          · intro envelope' error' hmem herror
            obtain rfl : envelope' = envelope := by simpa using hmem
            cases houtcome.symm.trans herror
            rfl
          · rintro error' herror - -
            cases herror
            exact ⟨envelope, by simp, houtcome⟩
      | success result =>
          simp only [projectOutcome, Async.wp_bind, Async.wp_attempt]
          refine wp_projectResult hC request lease worker result (by simp) (by simp)
            (by simp : GatewayEvent.answered envelope ∈ _) houtcome ?_
          intro projected es hminted hprojected
          have honly : ∀ {envelope'}, .answered envelope' ∈ [.executeAdmitted request] ++
              [.resolved request.leaseId request.workerEpoch lease worker] ++
              [.dispatched worker request.requestId request.timeoutMs request.command] ++
              [.answered envelope] ++ es → envelope' = envelope := by
            intro envelope' hmem
            refine Or.resolve_right (b := .answered envelope' ∈ es) (by simpa using hmem) ?_
            intro hes
            obtain ⟨ticketRef, ticket, heq⟩ := hminted _ hes
            contradiction
          refine hQ _ _ ⟨?_, ?_, ?_, ?_⟩
          · rintro ⟨request', response', hmem⟩
            have hes : .responded request' response' ∈ es := by simpa using hmem
            obtain ⟨ticketRef, ticket, heq⟩ := hminted _ hes
            contradiction
          · intro envelope' result' hmem hresult
            obtain rfl := honly hmem
            cases houtcome.symm.trans hresult
            exact hprojected
          · intro envelope' error hmem herror
            obtain rfl := honly hmem
            cases houtcome.symm.trans herror
          · intro error herror hstatus _
            have hrefused := hprojected.status herror
            rw [hstatus] at hrefused
            cases hrefused
    · contradiction

omit hC in
theorem execute_of_accepts (haccepts : gateway.Accepts request) :
    gateway.execute request = (do
      let admitted ← tryAcquire (.executeAdmitted request)
      if admitted then do
        let response ← gateway.executeAdmitted request
        releasePermit
        pure response
      else pure (failure request .busy)) := by
  obtain ⟨hprotocol, htoken, hnonempty, hsize, htrimmed, hpos, hle⟩ := haccepts
  rw [execute, if_neg (by simp [hprotocol]), if_neg (by simp [htoken]), if_neg]
  simp [hnonempty, htrimmed, hpos, Nat.not_lt.mpr hsize, Nat.not_lt.mpr hle]

omit hC in
theorem execute_of_not_accepts (haccepts : ¬ gateway.Accepts request) :
    ∃ why, gateway.execute request = pure (failure request why) := by
  rw [execute]
  split
  · exact ⟨_, rfl⟩
  rename_i hprotocol
  split
  · exact ⟨_, rfl⟩
  rename_i htoken
  split
  · exact ⟨_, rfl⟩
  rename_i hbounds
  refine absurd ?_ haccepts
  simp only [not_or, Bool.not_eq_true', Bool.not_eq_true, Bool.not_eq_false, Nat.not_lt,
    not_not] at hprotocol htoken hbounds
  obtain ⟨hnonempty, hsize, htrimmed, hpos, hle⟩ := hbounds
  exact ⟨hprotocol, htoken, hnonempty, hsize, htrimmed, hpos, hle⟩

theorem wp_execute (request : GatewayExecuteRequest)
    {Q : Except Empty GatewayExecuteResponse → List GatewayEvent → Prop}
    (hQ : ∀ response es, Accounts es request response → Q (.ok response) es) :
    wp C (gateway.execute request) Q [] := by
  have hrefused : ∀ response, Q (.ok response) [] := fun response =>
    hQ response [] ⟨by simp [HasResponded], by simp, by simp, by simp [HasDispatched]⟩
  by_cases haccepts : gateway.Accepts request
  · rw [execute_of_accepts haccepts, Async.wp_bind]
    refine wp_tryAcquire hC (fun s hpermit => .admitExecute hpermit haccepts)
      (by simp [HasResponded]) (hrefused _) ?_
    simp only [Async.onOk_ok, if_true, Async.wp_bind, List.nil_append]
    refine wp_executeAdmitted hC request fun response es haccounts => ?_
    rw [Async.onOk_ok, Async.wp_bind]
    exact wp_releasePermit hC (hQ response es haccounts)
  · obtain ⟨why, hexecute⟩ := execute_of_not_accepts haccepts
    rw [hexecute]
    exact hrefused _

theorem wp_takeTicket (request : GatewayArtifactRequest)
    {Q : Except CuaError ScreenshotArtifact → List GatewayEvent → Prop}
    (herror : ∀ error es, Q (.error error) es)
    (hok : ∀ ticket : ArtifactTicket, ticket.leaseId = request.leaseId →
      ticket.workerEpoch = request.workerEpoch →
        Q (.ok ticket.artifact) (h ++ [.ticketRead request.ticketRef ticket])) :
    wp C (takeTicket request) Q h := by
  simp only [takeTicket, Async.wp_bind, Async.wp_atomic]
  intro _ s s' es outcome hb
  split at hb
  · cases hb
    exact ⟨hC .purge (by simp [HasResponded]), herror _ _⟩
  · rename_i ticket hticket
    cases hb
    refine ⟨hC (.readTicket hticket) (by simp [HasResponded]), ?_⟩
    rw [Async.onOk_ok, Async.wp_ofExcept]
    split
    · rename_i hsame
      exact hok ticket hsame.1 hsame.2
    · exact herror _ _

theorem wp_readArtifact (worker : DesktopWorker) (artifact : ScreenshotArtifact)
    {Q : Except CuaError (List UInt8) → List GatewayEvent → Prop}
    (hrequest : ∀ s, GatewayEffect gateway h s [.artifactRequested worker artifact] s)
    (hQ : ∀ outcome es, Q outcome es) :
    wp C (readArtifact worker artifact) Q h := by
  simp only [readArtifact, Async.wp_bind, Async.wp_report, Async.wp_receive, Async.onOk_ok,
    Async.wp_ofExcept]
  refine fun s => ⟨hC (hrequest s) (by simp [HasResponded]), fun _ _ _ _ => ⟨?_, hQ _ _⟩⟩
  exact hC .silent (by simp [HasResponded])

theorem wp_fetchAdmitted (request : GatewayArtifactRequest)
    {Q : Except CuaError GatewayArtifactResponse → List GatewayEvent → Prop}
    (hQ : ∀ outcome es, Q outcome es) :
    wp C (gateway.fetchAdmitted request) Q [.fetchAdmitted request] := by
  simp only [fetchAdmitted, Async.wp_bind]
  refine wp_resolve hC request.leaseId request.workerEpoch (fun _ => hQ _ _) ?_
  intro lease worker
  simp only [Async.onOk_ok, Async.wp_bind]
  refine wp_takeTicket hC request (fun _ _ => hQ _ _) fun ticket hlease hepoch => ?_
  simp only [Async.onOk_ok, Async.wp_bind]
  refine wp_readArtifact hC worker ticket.artifact (fun s => ?_) fun outcome es => ?_
  · exact .artifact (by simp)
      (by simp : GatewayEvent.resolved request.leaseId request.workerEpoch lease worker ∈ _)
      (by simp) hlease hepoch
  · cases outcome <;> exact hQ _ _

theorem wp_fetchArtifact (request : GatewayArtifactRequest)
    {Q : Except CuaError GatewayArtifactResponse → List GatewayEvent → Prop}
    (hQ : ∀ outcome es, Q outcome es) :
    wp C (gateway.fetchArtifact request) Q [] := by
  simp only [fetchArtifact]
  split
  · exact hQ _ _
  rename_i hprotocol
  split
  · exact hQ _ _
  rename_i htoken
  have hauthentic : gateway.Authenticates request :=
    ⟨not_not.mp hprotocol, by simpa using htoken⟩
  rw [Async.wp_bind]
  refine wp_tryAcquire hC (fun s hpermit => .admitFetch hpermit hauthentic)
    (by simp [HasResponded]) (hQ _ _) ?_
  simp only [Async.onOk_ok, if_true, Async.wp_bind, Async.wp_attempt, List.nil_append]
  refine wp_fetchAdmitted hC request fun outcome es => ?_
  simp only [Async.wp_bind]
  exact wp_releasePermit hC (by simpa using hQ _ _)

/-- A call keeps every contract that permits its effects and the response it may give. -/
theorem wp_program (call : GatewayCall)
    (hrespond : ∀ request response h s, call = .execute request → Accounts h request response →
      C.guarantee h s [.responded request response] s) :
    wp C (call.program gateway) (fun _ _ => True) [] := by
  cases call with
  | execute request =>
      rw [GatewayCall.program, Async.wp_bind]
      refine wp_execute hC request fun response es haccounts => ?_
      rw [Async.onOk_ok, Async.wp_report]
      exact fun s => ⟨hrespond request response es s rfl haccounts, trivial⟩
  | fetchArtifact request =>
      rw [GatewayCall.program, Async.wp_bind, Async.wp_attempt]
      refine wp_fetchArtifact hC request fun outcome es => ?_
      rw [Async.onOk_ok, Async.wp_report]
      exact fun s => ⟨hC .fetch (by simp [HasResponded]), trivial⟩
  | registry call =>
      intro reply s s' es b hb
      cases hb
      exact ⟨hC .registry (by simp [HasResponded]), trivial⟩

end Operations

theorem gatewaySystem_keeps (gateway : WorkerGateway) :
    (gatewaySystem gateway).Keeps (gatewayContract gateway) := fun call =>
  wp_program (fun heffect _ => heffect) call fun _ _ _ _ _ haccounts => .respond haccounts

/-! ## What the events of a block mean -/

section Events

variable {gateway : WorkerGateway} {h es : List GatewayEvent} {s s' : GatewayState}

/-- What a block does that reports an event after the events `h` of its task. -/
def Means (gateway : WorkerGateway) (h : List GatewayEvent) (s : GatewayState)
    (es : List GatewayEvent) (s' : GatewayState) : GatewayEvent → Prop
  | .executeAdmitted request => 0 < s.permits ∧ gateway.Accepts request
  | .fetchAdmitted request => gateway.Authenticates request
  | .resolved leaseId epoch lease worker =>
      (s.registry.resolve leaseId epoch s.now).2 = .ok (lease, worker) ∧
        s'.registry = s.registry.purgeExpired s.now ∧ s'.issued = s.issued ∧
        es = [.resolved leaseId epoch lease worker]
  | .dispatched worker requestId timeoutMs command =>
      (¬HasDispatched h ∧ ¬HasResponded h ∧ es.length = 1) ∧
        ∃ request lease, .executeAdmitted request ∈ h ∧
          .resolved request.leaseId request.workerEpoch lease worker ∈ h ∧
          requestId = request.requestId ∧ timeoutMs = request.timeoutMs ∧
          command = request.command
  | .answered _ => ¬HasResponded (h ++ es)
  | .minted ticketRef ticket => s'.tickets.lookup ticketRef = some ticket
  | .ticketRead ticketRef ticket =>
      s.tickets.lookup ticketRef = some ticket ∧ s.now < ticket.expiresAt
  | .artifactRequested worker artifact => ∃ request lease ticket, .fetchAdmitted request ∈ h ∧
      .resolved request.leaseId request.workerEpoch lease worker ∈ h ∧
      .ticketRead request.ticketRef ticket ∈ h ∧ ticket.leaseId = request.leaseId ∧
      ticket.workerEpoch = request.workerEpoch ∧ ticket.artifact = artifact
  | .responded request response => Accounts h request response
  | .fetched .. => True

theorem GatewayEffect.means (he : GatewayEffect gateway h s es s') {event : GatewayEvent}
    (hx : event ∈ es) : Means gateway h s es s' event := by
  cases he with
  | admitExecute hpermit haccepts =>
      cases List.mem_singleton.mp hx
      exact ⟨hpermit, haccepts⟩
  | admitFetch _ hauthentic =>
      cases List.mem_singleton.mp hx
      exact hauthentic
  | resolve hok =>
      cases List.mem_singleton.mp hx
      exact ⟨hok, rfl, rfl, rfl⟩
  | dispatch hadmitted hresolved hfirst hopen =>
      cases List.mem_singleton.mp hx
      exact ⟨⟨hfirst, hopen, rfl⟩, _, _, hadmitted, hresolved, rfl, rfl, rfl⟩
  | answer hopen =>
      cases List.mem_singleton.mp hx
      simpa [Means, HasResponded] using hopen
  | mint =>
      cases List.mem_singleton.mp hx
      simp [Means]
  | readTicket hticket =>
      cases List.mem_singleton.mp hx
      rw [purgeTickets, Table.lookup_retain, Option.filter_eq_some_iff] at hticket
      simpa [Means] using hticket
  | artifact hadmitted hresolved hread hlease hepoch =>
      cases List.mem_singleton.mp hx
      exact ⟨_, _, _, hadmitted, hresolved, hread, hlease, hepoch, rfl⟩
  | respond hresponse =>
      cases List.mem_singleton.mp hx
      exact hresponse
  | fetch =>
      cases List.mem_singleton.mp hx
      trivial
  | _ => simp at hx

theorem GatewayEffect.registry_cases (he : GatewayEffect gateway h s es s') :
    (s'.registry = s.registry ∧ s.issued ≤ s'.issued) ∨
      (s'.registry = s.registry.purgeExpired s.now ∧ s'.issued = s.issued) ∨
      ∃ call wallClock, s'.issued = s.issued + 2 ∧
        s'.registry = RegistryCall.apply gateway.registry gateway.uuids s.now s.issued wallClock
          s.registry call := by
  cases he with
  | registry => exact .inr (.inr ⟨_, _, rfl, rfl⟩)
  | stale => exact .inr (.inl ⟨rfl, rfl⟩)
  | resolve hok => exact .inr (.inl ⟨rfl, rfl⟩)
  | mint hroom hexpires hredeems => exact .inl ⟨rfl, Nat.le_succ _⟩
  | _ => exact .inl ⟨rfl, Nat.le_refl _⟩

end Events

/-! ## Leases along a run -/

abbrev GatewayRun (gateway : WorkerGateway) (s₀ : GatewayState) (steps : List GatewayStep)
    (s : GatewayState) : Prop :=
  Lawful (gatewayContract gateway) (gatewaySystem gateway).env s₀ steps s

section Runs

variable {gateway : WorkerGateway} {s₀ s : GatewayState} {steps before after : List GatewayStep}
  {e : GatewayStep}

theorem gateway_permitted
    (he : Permitted (gatewayContract gateway) (gatewaySystem gateway).env before e) :
    (e.events = [] ∧ ∃ elapsed, e.post = { e.pre with now := e.pre.now + elapsed }) ∨
      ∃ t, e.task = some t ∧ GatewayEffect gateway (history t before) e.pre e.events e.post := by
  refine he.cases.imp_left ?_
  rintro ⟨-, hevents, elapsed, henv⟩
  exact ⟨hevents, elapsed, (Option.some.inj henv).symm⟩

variable {t : Nat}

theorem GatewayRun.effect (hr : GatewayRun gateway s₀ (before ++ e :: after) s)
    (ht : e.task = some t) : GatewayEffect gateway (history t before) e.pre e.events e.post := by
  have he := hr.at_step.2
  simp only [Permitted, ht] at he
  exact he

theorem GatewayRun.balanced (h₀ : (gatewaySystem gateway).init s₀)
    (hr : GatewayRun gateway s₀ steps s) :
    s.registry.Balanced gateway.registry gateway.uuids s.issued := by
  refine hr.invariant
    (P := fun _ s => s.registry.Balanced gateway.registry gateway.uuids s.issued) ?_ ?_
  · obtain ⟨now, rfl⟩ := h₀
    exact RegistryState.balanced_empty
  · intro before e _ hb he
    rcases gateway_permitted he with ⟨-, elapsed, hpost⟩ | ⟨t, -, heffect⟩
    · rw [hpost]
      exact hb
    · rcases heffect.registry_cases with ⟨hsame, hle⟩ | ⟨hpurged, hsame⟩ | ⟨call, clock, hn, hs⟩
      · rw [hsame]
        exact hb.mono hle
      · rw [hpurged, hsame]
        exact hb.purgeExpired _
      · rw [hs, hn]
        exact hb.apply _ clock call

theorem GatewayRun.resolved (h₀ : (gatewaySystem gateway).init s₀)
    (hr : GatewayRun gateway s₀ steps s) {leaseId : WorkerLeaseId}
    {epoch : WorkerEpoch} {lease : WorkerLease} {worker : DesktopWorker}
    (hresolved : .resolved leaseId epoch lease worker ∈ history t steps) :
    lease.leaseId = leaseId ∧ lease.workerEpoch = epoch := by
  obtain ⟨before, e, after, rfl, ht, hevent⟩ := exists_split_of_mem_history hresolved
  have hb := (GatewayRun.balanced h₀ hr.at_step.1).purgeExpired e.pre.now
  obtain ⟨hepoch, ⟨entry, hentry, rfl⟩, -⟩ :=
    RegistryState.resolve_ok ((hr.effect ht).means hevent).1
  exact ⟨(hb.lease hentry).filed, hepoch⟩

theorem GatewayRun.minted (hr : GatewayRun gateway s₀ steps s) {ticketRef : String}
    {ticket : ArtifactTicket} (hminted : .minted ticketRef ticket ∈ history t steps) :
    ∃ e ∈ steps, e.task = some t ∧ .minted ticketRef ticket ∈ e.events ∧
      e.post.tickets.lookup ticketRef = some ticket := by
  obtain ⟨before, e, after, rfl, ht, hevent⟩ := exists_split_of_mem_history hminted
  exact ⟨e, by simp, ht, hevent, (hr.effect ht).means hevent⟩

theorem Projected.mono {h h' : List GatewayEvent} {outcome : GatewayOutcome}
    (hp : Projected h request result outcome) (hsub : h ⊆ h') :
    Projected h' request result outcome := by
  cases hp with
  | reconciled => exact .reconciled
  | bare hnone => exact .bare hnone
  | ticketed hsome hresolved hminted => exact .ticketed hsome (hsub hresolved) (hsub hminted)
  | refused hsome hstatus => exact .refused hsome hstatus
  | passed hobserved hreconciled => exact .passed hobserved hreconciled

theorem GatewayRun.accounts (hr : GatewayRun gateway s₀ steps s) {response : GatewayExecuteResponse}
    (hresponded : .responded request response ∈ history t steps)
    {envelope : ResponseEnvelope} (hanswered : .answered envelope ∈ history t steps)
    (hresult : envelope.outcome = .success result) :
    Projected (history t steps) request result response.outcome := by
  revert hresponded hanswered
  refine hr.invariant (P := fun steps _ => .responded request response ∈ history t steps →
    .answered envelope ∈ history t steps →
      Projected (history t steps) request result response.outcome) (by simp) ?_
  intro before e _ ih he hresponded hanswered
  rw [history_append] at hresponded hanswered ⊢
  rcases gateway_permitted he with ⟨hevents, -⟩ | ⟨u, hu, heffect⟩
  · have hnone : history t [e] = [] := by simp [history, Step.eventsOf, hevents]
    rw [hnone, List.append_nil] at hresponded hanswered ⊢
    exact ih hresponded hanswered
  · by_cases htask : u = t
    · subst htask
      have hown : history u [e] = e.events := by simp [history, Step.eventsOf, hu]
      rw [hown] at hresponded hanswered ⊢
      rcases List.mem_append.mp hanswered with hbefore | hnow
      · rcases List.mem_append.mp hresponded with hearlier | hlast
        · exact (ih hearlier hbefore).mono (List.subset_append_left _ _)
        · exact ((heffect.means hlast).projected envelope result hbefore hresult).mono
            (List.subset_append_left _ _)
      · exact absurd ⟨request, response, hresponded⟩ (heffect.means hnow)
    · have hnone : history t [e] = [] := by simp [history, Step.eventsOf, hu, htask]
      rw [hnone, List.append_nil] at hresponded hanswered ⊢
      exact ih hresponded hanswered

end Runs

/-! ## Path-free responses -/

def GatewayResult.localPaths : GatewayResult → List String
  | .core result => result.screenshots.map ScreenshotArtifact.path
  | .windowObserved _ => []

def GatewayResult.remoteScreenshots : GatewayResult → List RemoteScreenshotArtifact
  | .core _ => []
  | .windowObserved observation => observation.screenshot.toList

def GatewayExecuteResponse.localPaths (response : GatewayExecuteResponse) : List String :=
  match response.outcome with
  | .success result => result.localPaths
  | .error _ => []

/-- Task `t` minted the remote artifact's ticket for the lease and epoch of `request`. -/
def TicketedFor (steps : List GatewayStep) (t : Nat) (request : GatewayExecuteRequest)
    (artifact : ScreenshotArtifact) (remote : RemoteScreenshotArtifact) : Prop :=
  remote = .project artifact remote.ticketRef ∧
    ∃ e ∈ steps, ∃ ticket, e.task = some t ∧ .minted remote.ticketRef ticket ∈ e.events ∧
      e.post.tickets.lookup remote.ticketRef = some ticket ∧ ticket.artifact = artifact ∧
      ticket.leaseId = request.leaseId ∧ ticket.workerEpoch = request.workerEpoch

structure PathFree (steps : List GatewayStep) (t : Nat) (request : GatewayExecuteRequest)
    (result : CommandResult) (response : GatewayExecuteResponse) : Prop where
  noLocalPath : response.localPaths = []
  replaced : ∀ projected, response.outcome = .success projected →
    List.Forall₂ (TicketedFor steps t request) result.screenshots projected.remoteScreenshots

def CarriesOtherScreenshot : CommandResult → Prop
  | .displayObserved _ => True
  | .actionPerformed output => (output.observation.bind WindowObservation.screenshot).isSome
  | _ => False

theorem screenshots_eq_nil (hobserved : ∀ o, result ≠ .windowObserved o) :
    result.screenshots = [] ↔ ¬ CarriesOtherScreenshot result := by
  cases result with
  | windowObserved observation => exact absurd rfl (hobserved observation)
  | displayObserved observation => simp [CommandResult.screenshots, CarriesOtherScreenshot]
  | actionPerformed output =>
      simp only [CommandResult.screenshots, CarriesOtherScreenshot]
      cases output.observation.bind WindowObservation.screenshot <;> simp
  | _ => simp [CommandResult.screenshots, CarriesOtherScreenshot]

/--
Whatever else the gateway and its registry do meanwhile: a response to a
successful worker result is free of worker-local paths, with each screenshot
replaced by a ticket for the request's lease and epoch, exactly when the result
carries no screenshot outside a window observation of its own.
-/
theorem pathFree_iff (gateway : WorkerGateway) (c : Pool GatewayState GatewayReply GatewayEvent)
    (hc : Reachable (gatewaySystem gateway) c) (t : Nat) (request : GatewayExecuteRequest)
    (envelope : ResponseEnvelope) (result : CommandResult) (response : GatewayExecuteResponse)
    (hanswered : .answered envelope ∈ history t c.steps)
    (hresult : envelope.outcome = .success result)
    (hresponded : .responded request response ∈ history t c.steps) :
    PathFree c.steps t request result response ↔ ¬ CarriesOtherScreenshot result := by
  obtain ⟨s₀, h₀, hr⟩ := (hc.accounted (gatewaySystem_keeps gateway)).lawful
  have hprojected := GatewayRun.accounts hr hresponded hanswered hresult
  generalize houtcome : response.outcome = outcome at hprojected
  cases hprojected with
  | reconciled =>
      refine iff_of_true ⟨?_, ?_⟩ id
      · simp [GatewayExecuteResponse.localPaths, houtcome, GatewayResult.localPaths,
          CommandResult.screenshots]
      · rintro projected hok
        cases houtcome.symm.trans hok
        exact .nil
  | bare hnone =>
      refine iff_of_true ⟨?_, ?_⟩ id
      · simp [GatewayExecuteResponse.localPaths, houtcome, GatewayResult.localPaths]
      · intro projected hok
        cases houtcome.symm.trans hok
        simp [CommandResult.screenshots, hnone, GatewayResult.remoteScreenshots,
          RemoteWindowObservation.project]
  | ticketed hsome hresolved hminted =>
      obtain ⟨hlease, hepoch⟩ := GatewayRun.resolved h₀ hr hresolved
      obtain ⟨e, he, ht, hevent, hticket⟩ := GatewayRun.minted hr hminted
      refine iff_of_true ⟨?_, ?_⟩ id
      · simp [GatewayExecuteResponse.localPaths, houtcome, GatewayResult.localPaths]
      · intro projected hok
        cases houtcome.symm.trans hok
        simp only [CommandResult.screenshots, hsome, GatewayResult.remoteScreenshots,
          RemoteWindowObservation.project, Option.toList_some]
        exact .cons ⟨rfl, e, he, _, ht, hevent, hticket, rfl, hlease, hepoch⟩ .nil
  | refused hsome hstatus =>
      refine iff_of_true ⟨?_, ?_⟩ id
      · simp [GatewayExecuteResponse.localPaths, houtcome]
      · intro projected hok
        cases houtcome.symm.trans hok
  | passed hobserved hreconciled =>
      rw [← screenshots_eq_nil hobserved]
      constructor
      · intro hfree
        simpa [GatewayExecuteResponse.localPaths, houtcome, GatewayResult.localPaths]
          using hfree.noLocalPath
      · intro hnil
        refine ⟨?_, ?_⟩
        · simp [GatewayExecuteResponse.localPaths, houtcome, GatewayResult.localPaths, hnil]
        · intro projected hok
          cases houtcome.symm.trans hok
          simp [hnil, GatewayResult.remoteScreenshots]

/-! ## A display observation -/

def exampleGateway : WorkerGateway where
  registry := ⟨1, 1, 60, by decide, by decide, by decide⟩
  config := .default
  token := ⟨"0123456789abcdef0123456789abcdef", by decide⟩
  uuids := .tally
  encodeBase64 _ := ""
  maxInflightRequests_pos := by decide
  maxArtifactTickets_pos := by decide
  artifactTicketTtl_pos := by decide
  maxArtifactBytes_pos := by decide
  maxRequestTimeoutMs_pos := by decide

def displayRequest : GatewayExecuteRequest where
  protocolVersion := gatewayProtocolVersion
  requestId := ⟨"request"⟩
  timeoutMs := 1000
  authorization := ⟨"0123456789abcdef0123456789abcdef"⟩
  leaseId := ⟨UuidSource.tally.issue "lease" 2⟩
  workerEpoch := ⟨UuidSource.tally.issue "epoch" 1⟩
  command := .observeDisplay ⟨⟨"session"⟩, ⟨"display"⟩⟩

def workerScreenshot : ScreenshotArtifact where
  artifactRef := ⟨"artifact"⟩
  path := "/private/worker/artifact.png"
  mimeType := "image/png"
  mapping := ⟨⟨0, 0, 1, 1⟩, ⟨1, 1⟩⟩
  byteLength := 68
  sha256 := "00"

def displayResult : CommandResult :=
  .displayObserved ⟨⟨"observation"⟩, ⟨"display"⟩, "2026-08-27T00:00:00Z", ⟨0, 0, 1, 1⟩,
    workerScreenshot⟩

def exampleObservation : WindowObservation :=
  ⟨⟨"observation"⟩, ⟨"window"⟩, "2026-08-27T00:00:00Z", ⟨0, 0, 1, 1⟩, some workerScreenshot, [],
    true, none⟩

def ticketedObservation : RemoteWindowObservation :=
  .project exampleObservation
    (some (.project workerScreenshot (UuidSource.tally.issue "ticket" 4)))

/-- A worker registers, is leased, and answers one request on the lease with `result`. -/
def answerMoves (result : CommandResult) : List (Move GatewayReply GatewayCall Nat) :=
  [.spawn (.registry (.register ⟨0, .macos, .localUserDesktop⟩ 1)), .run 0 .none,
    .spawn (.registry (.acquire ⟨none, none, [], none⟩ 30)),
    .run 1 (.wallClock (some "2026-08-27T01:00:00Z")),
    .spawn (.execute displayRequest), .run 2 .none, .run 2 .none, .run 2 .none,
    .run 2 (.workerAnswered ⟨protocolVersion, ⟨"request"⟩, .success result⟩),
    .run 2 .none, .run 2 .none]

def displayResponse (result : GatewayResult) : GatewayExecuteResponse where
  protocolVersion := gatewayProtocolVersion
  requestId := ⟨"request"⟩
  workerId := some ⟨UuidSource.tally.issue "worker" 0⟩
  workerEpoch := some ⟨UuidSource.tally.issue "epoch" 1⟩
  outcome := .success result

theorem not_pathFree_displayResult :
    ∃ c, Reachable (gatewaySystem exampleGateway) c ∧
      .answered ⟨protocolVersion, ⟨"request"⟩, .success displayResult⟩ ∈ history 2 c.steps ∧
      .responded displayRequest (displayResponse (.core displayResult)) ∈ history 2 c.steps ∧
      ¬ PathFree c.steps 2 displayRequest displayResult
        (displayResponse (.core displayResult)) := by
  have hrun : ((Pool.start (.initial exampleGateway 0)).run (gatewaySystem exampleGateway)
      (answerMoves displayResult)).isSome := by decide
  have hc := Reachable.of_run (S := gatewaySystem exampleGateway) ⟨0, rfl⟩ hrun
  refine ⟨_, hc, .tail _ (.tail _ (.tail _ (.head _))),
    .tail _ (.tail _ (.tail _ (.tail _ (.head _)))), ?_⟩
  intro hfree
  have hpath : (displayResponse (.core displayResult)).localPaths =
    ["/private/worker/artifact.png"] := rfl
  exact List.cons_ne_nil _ _ (hpath.symm.trans hfree.noLocalPath)

theorem pathFree_windowObserved :
    ∃ c, Reachable (gatewaySystem exampleGateway) c ∧
      .responded displayRequest (displayResponse (.windowObserved ticketedObservation)) ∈
        history 2 c.steps ∧
      PathFree c.steps 2 displayRequest (.windowObserved exampleObservation)
        (displayResponse (.windowObserved ticketedObservation)) := by
  have hrun : ((Pool.start (.initial exampleGateway 0)).run (gatewaySystem exampleGateway)
      (answerMoves (.windowObserved exampleObservation) ++ [.run 2 .none])).isSome := by decide
  have hc := Reachable.of_run (S := gatewaySystem exampleGateway) ⟨0, rfl⟩ hrun
  have hresponded : .responded displayRequest
      (displayResponse (.windowObserved ticketedObservation)) ∈
        history 2 (((Pool.start (.initial exampleGateway 0)).run (gatewaySystem exampleGateway)
          (answerMoves (.windowObserved exampleObservation) ++ [.run 2 .none])).get hrun).steps :=
    .tail _ (.tail _ (.tail _ (.tail _ (.tail _ (.head _)))))
  refine ⟨_, hc, hresponded, ?_⟩
  exact (pathFree_iff exampleGateway _ hc 2 displayRequest
    ⟨protocolVersion, ⟨"request"⟩, .success (.windowObserved exampleObservation)⟩ _ _
    (.tail _ (.tail _ (.tail _ (.head _)))) rfl hresponded).mpr id

end NexusCua.Host
