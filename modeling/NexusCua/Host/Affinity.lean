import NexusCua.Host.Projection

/-!
# Affinity of the gateway

A lease belongs to one worker for as long as it exists.  Together with the
checks of the gateway's two calls this settles which worker a command or an
artifact read reaches, and on whose behalf.
-/

namespace NexusCua.Host

open NexusCua.Foundation NexusCua.Protocol

/-! ## A lease keeps its worker -/

namespace RegistryState

variable {config : WorkerRegistryConfig} {uuids : UuidSource} {issued now : Nat}
  {state : RegistryState}

variable {epoch : WorkerEpoch}

/-- The lease was granted, and where it is still filed it is `lease` on the endpoint `worker`. -/
structure Binds (uuids : UuidSource) (issued : Nat) (state : RegistryState)
    (leaseId : WorkerLeaseId) (lease : WorkerLease) (worker : DesktopWorker) : Prop where
  leaseDrawn : ∃ drawn < issued, leaseId = ⟨uuids.issue "lease" drawn⟩
  workerDrawn : ∃ drawn < issued, lease.workerId = ⟨uuids.issue "worker" drawn⟩
  lease_eq : ∀ entry, state.leases.lookup leaseId = some entry → entry.lease = lease
  worker_eq : ∀ entry, state.workers.lookup lease.workerId = some entry → entry.endpoint = worker

variable {leaseId : WorkerLeaseId} {lease : WorkerLease} {worker : DesktopWorker}

theorem Balanced.binds_of_resolve (hb : state.Balanced config uuids issued)
    (hresolve : (state.resolve leaseId epoch now).2 = .ok (lease, worker)) :
    (state.purgeExpired now).Binds uuids issued leaseId lease worker := by
  have hpurged := hb.purgeExpired now
  obtain ⟨-, ⟨entry, hentry, rfl⟩, registered, hregistered, rfl⟩ := resolve_ok hresolve
  refine ⟨(hpurged.lease hentry).drawn, (hpurged.worker hregistered).drawn, ?_, ?_⟩
  · intro entry' hentry'
    cases hentry.symm.trans hentry'
    rfl
  · intro registered' hregistered'
    cases hregistered.symm.trans hregistered'
    rfl

section

variable (hbinds : state.Binds uuids issued leaseId lease worker)
include hbinds

theorem Binds.purgeExpired (now : Nat) :
    (state.purgeExpired now).Binds uuids issued leaseId lease worker := by
  refine ⟨hbinds.leaseDrawn, hbinds.workerDrawn, ?_, ?_⟩
  · exact fun entry hentry => hbinds.lease_eq entry (lookup_of_lookup_purgeExpired hentry)
  · intro entry hentry
    obtain ⟨before, hbefore, heq⟩ := endpoint_of_lookup_purgeExpired hentry
    exact heq ▸ hbinds.worker_eq before hbefore

theorem Binds.mono {issued' : Nat}
    (hle : issued ≤ issued') : state.Binds uuids issued' leaseId lease worker := by
  obtain ⟨⟨drawn, hdrawn, hlease⟩, ⟨drawn', hdrawn', hworker⟩, hentry, hendpoint⟩ := hbinds
  exact ⟨⟨drawn, Nat.lt_of_lt_of_le hdrawn hle, hlease⟩,
    ⟨drawn', Nat.lt_of_lt_of_le hdrawn' hle, hworker⟩, hentry, hendpoint⟩

theorem Binds.apply
    (hb : state.Balanced config uuids issued) (now : Nat) (wallClock : Option String)
    (call : RegistryCall) :
    (call.apply config uuids now issued wallClock state).Binds uuids (issued + 2) leaseId lease
      worker := by
  obtain ⟨⟨drawn, hdrawn, hlease⟩, ⟨drawn', hdrawn', hworker⟩, hlease_eq, hworker_eq⟩ := hbinds
  refine ⟨⟨drawn, by omega, hlease⟩, ⟨drawn', by omega, hworker⟩, ?_, ?_⟩
  · intro entry hentry
    refine hlease_eq entry ((hb.kept_apply now wallClock call).lease ?_ hentry)
    intro hfresh
    have hsame := (uuids.issue_inj _).mp (congrArg WorkerLeaseId.value (hlease.symm.trans hfresh))
    omega
  · intro entry hentry
    have hne : lease.workerId ≠ ⟨uuids.issue "worker" issued⟩ := by
      intro hfresh
      have hsame := (uuids.issue_inj _).mp (congrArg WorkerId.value (hworker.symm.trans hfresh))
      omega
    obtain ⟨before, hbefore, heq⟩ := (hb.kept_apply now wallClock call).worker hne hentry
    exact heq ▸ hworker_eq before hbefore

theorem Binds.resolve
    {lease' : WorkerLease} {worker' : DesktopWorker}
    (hresolve : (state.resolve leaseId epoch now).2 = .ok (lease', worker')) :
    lease' = lease ∧ worker' = worker := by
  have hpurged := hbinds.purgeExpired now
  obtain ⟨-, ⟨entry, hentry, rfl⟩, registered, hregistered, rfl⟩ := resolve_ok hresolve
  have hlease := hpurged.lease_eq entry hentry
  rw [hlease] at hregistered
  exact ⟨hlease, hpurged.worker_eq registered hregistered⟩

end

end RegistryState

/-! ## What the events of a block mean -/

section Events

variable {gateway : WorkerGateway} {h es : List GatewayEvent} {s s' : GatewayState}

variable {worker : DesktopWorker}

section

variable (he : GatewayEffect gateway h s es s')
include he

theorem GatewayEffect.first_of_hasDispatched
    (hdispatched : HasDispatched es) : ¬HasDispatched h ∧ ¬HasResponded h ∧ es.length = 1 := by
  obtain ⟨worker, requestId, timeoutMs, command, hx⟩ := hdispatched
  exact (he.means hx).1

theorem GatewayEffect.lookup_tickets {ticketRef : String}
    {ticket : ArtifactTicket} (hticket : s'.tickets.lookup ticketRef = some ticket) :
    s.tickets.lookup ticketRef = some ticket ∨
      .minted ticketRef ticket ∈ es ∧ ∃ worker, Redeems h ticket worker := by
  have hpurged : ∀ {ticket}, (purgeTickets s.tickets s.now).lookup ticketRef = some ticket →
      s.tickets.lookup ticketRef = some ticket := by
    intro ticket hticket
    rw [purgeTickets, Table.lookup_retain, Option.filter_eq_some_iff] at hticket
    exact hticket.1
  cases he with
  | purge => exact .inl (hpurged hticket)
  | readTicket _ => exact .inl (hpurged hticket)
  | mint hroom hexpires hredeems =>
      rw [Table.lookup_insert_eq] at hticket
      split at hticket
      · rename_i heq
        cases hticket
        exact .inr ⟨by simp [heq], _, hredeems⟩
      · exact .inl (hpurged hticket)
  | _ => exact .inl hticket

theorem GatewayEffect.tickets_le
    (hle : s.tickets.size ≤ gateway.config.maxArtifactTickets) :
    s'.tickets.size ≤ gateway.config.maxArtifactTickets := by
  have hpurged : (purgeTickets s.tickets s.now).size ≤ gateway.config.maxArtifactTickets :=
    (Table.size_retain_le _ _).trans hle
  cases he with
  | purge => exact hpurged
  | readTicket _ => exact hpurged
  | mint hroom hexpires hredeems => exact (Table.size_insert_le _ _ _).trans hroom
  | _ => exact hle

end

end Events

/-! ## Leases and tickets along a run -/

section Runs

variable {gateway : WorkerGateway} {s₀ s : GatewayState} {steps before after : List GatewayStep}
  {e : GatewayStep}

theorem Redeems.mono {h h' : List GatewayEvent} {ticket : ArtifactTicket}
    {worker : DesktopWorker}
    (hredeems : Redeems h ticket worker) (hsub : h ⊆ h') : Redeems h' ticket worker := by
  obtain ⟨⟨leaseId, epoch, lease, hresolved, hsame⟩, ⟨requestId, timeoutMs, command, hdispatched⟩,
    envelope, observation, hanswered, hscreenshot⟩ := hredeems
  exact ⟨⟨leaseId, epoch, lease, hsub hresolved, hsame⟩,
    ⟨requestId, timeoutMs, command, hsub hdispatched⟩,
    ⟨envelope, observation, hsub hanswered, hscreenshot⟩⟩

section

variable (h₀ : (gatewaySystem gateway).init s₀) (hr : GatewayRun gateway s₀ steps s)
include h₀ hr

variable {worker : DesktopWorker} {leaseId : WorkerLeaseId}

theorem GatewayRun.binds {epoch : WorkerEpoch} {lease : WorkerLease}
    (hresolved : Occurs (.resolved leaseId epoch lease worker) steps) :
    s.registry.Binds gateway.uuids s.issued leaseId lease worker := by
  revert hresolved
  refine hr.invariant (P := fun steps s => Occurs (.resolved leaseId epoch lease worker) steps →
    s.registry.Binds gateway.uuids s.issued leaseId lease worker) (by simp) ?_
  intro before e hbefore ih he hresolved
  have hb := GatewayRun.balanced h₀ hbefore
  rcases gateway_permitted he with ⟨hevents, elapsed, hpost⟩ | ⟨t, -, heffect⟩
  · rw [occurs_snoc, hevents] at hresolved
    rw [hpost]
    exact ih (by simpa using hresolved)
  · rcases occurs_snoc.mp hresolved with hearlier | hnow
    · have hbinds := ih hearlier
      rcases heffect.registry_cases with ⟨hsame, hle⟩ | ⟨hpurged, hsame⟩ | ⟨call, clock, hn, hs⟩
      · rw [hsame]
        exact hbinds.mono hle
      · rw [hpurged, hsame]
        exact hbinds.purgeExpired _
      · rw [hs, hn]
        exact hbinds.apply hb _ clock call
    · obtain ⟨hok, hpurged, hsame, -⟩ := heffect.means hnow
      rw [hpurged, hsame]
      exact hb.binds_of_resolve hok

theorem GatewayRun.worker_unique {epoch epoch' : WorkerEpoch}
    {lease lease' : WorkerLease} {worker worker' : DesktopWorker}
    (hresolved : Occurs (.resolved leaseId epoch lease worker) steps)
    (hresolved' : Occurs (.resolved leaseId epoch' lease' worker') steps) : worker = worker' := by
  revert hresolved hresolved'
  refine hr.invariant (P := fun steps _ => Occurs (.resolved leaseId epoch lease worker) steps →
    Occurs (.resolved leaseId epoch' lease' worker') steps → worker = worker') (by simp) ?_
  intro before e hbefore ih he hresolved hresolved'
  rcases gateway_permitted he with ⟨hevents, -⟩ | ⟨t, -, heffect⟩
  · rw [occurs_snoc, hevents] at hresolved hresolved'
    exact ih (by simpa using hresolved) (by simpa using hresolved')
  · rcases occurs_snoc.mp hresolved with hearlier | hnow <;>
      rcases occurs_snoc.mp hresolved' with hearlier' | hnow'
    · exact ih hearlier hearlier'
    · have hbinds := GatewayRun.binds h₀ hbefore hearlier
      exact (hbinds.resolve (heffect.means hnow').1).2.symm
    · have hbinds := GatewayRun.binds h₀ hbefore hearlier'
      exact (hbinds.resolve (heffect.means hnow).1).2
    · obtain ⟨-, -, -, heq⟩ := heffect.means hnow
      rw [heq] at hnow'
      cases List.mem_singleton.mp hnow'
      rfl

theorem GatewayRun.redeems {ticketRef : String} {ticket : ArtifactTicket}
    (hticket : s.tickets.lookup ticketRef = some ticket) :
    ∃ u worker, .minted ticketRef ticket ∈ history u steps ∧
      Redeems (history u steps) ticket worker := by
  revert hticket
  refine hr.invariant (P := fun steps s => s.tickets.lookup ticketRef = some ticket →
    ∃ u worker, .minted ticketRef ticket ∈ history u steps ∧
      Redeems (history u steps) ticket worker) ?_ ?_
  · obtain ⟨now, rfl⟩ := h₀
    simp [GatewayState.initial]
  intro before e _ ih he hticket
  have hkeep : e.pre.tickets.lookup ticketRef = some ticket →
      ∃ u worker, .minted ticketRef ticket ∈ history u (before ++ [e]) ∧
        Redeems (history u (before ++ [e])) ticket worker := by
    intro hold
    obtain ⟨u, worker, hminted, hredeems⟩ := ih hold
    have hsub := history_subset_append u before [e]
    exact ⟨u, worker, hsub hminted, hredeems.mono hsub⟩
  rcases gateway_permitted he with ⟨-, elapsed, hpost⟩ | ⟨t, ht, heffect⟩
  · rw [hpost] at hticket
    exact hkeep hticket
  · rcases heffect.lookup_tickets hticket with hold | ⟨hminted, worker, hredeems⟩
    · exact hkeep hold
    · refine ⟨t, worker, ?_, hredeems.mono (history_subset_append t before [e])⟩
      rw [mem_history]
      exact ⟨e, by simp, ht, hminted⟩

theorem GatewayRun.tickets_le :
    s.tickets.size ≤ gateway.config.maxArtifactTickets := by
  refine hr.invariant
    (P := fun _ s => s.tickets.size ≤ gateway.config.maxArtifactTickets) ?_ ?_
  · obtain ⟨now, rfl⟩ := h₀
    exact Nat.zero_le _
  · intro before e _ hle he
    rcases gateway_permitted he with ⟨-, elapsed, hpost⟩ | ⟨t, -, heffect⟩
    · rw [hpost]
      exact hle
    · exact heffect.tickets_le hle

end

variable {worker : DesktopWorker} {leaseId : WorkerLeaseId}

theorem GatewayRun.exists_resolve (hr : GatewayRun gateway s₀ steps s) {t : Nat}
    {epoch : WorkerEpoch} {lease : WorkerLease}
    (hresolved : .resolved leaseId epoch lease worker ∈ history t steps) :
    ∃ r ∈ steps, r.task = some t ∧
      (r.pre.registry.resolve leaseId epoch r.pre.now).2 = .ok (lease, worker) := by
  obtain ⟨before, r, after, rfl, ht, hevent⟩ := exists_split_of_mem_history hresolved
  exact ⟨r, by simp, ht, ((hr.effect ht).means hevent).1⟩

end Runs

/-! ## The law of affinity -/

def GatewayEvent.isDispatched : GatewayEvent → Bool
  | .dispatched .. => true
  | _ => false

/-- What the call of a worker's `read_artifact` in the step `e` of task `t` rests on. -/
structure FetchAuthorized (gateway : WorkerGateway) (before : List GatewayStep) (e : GatewayStep)
    (t : Nat) (request : GatewayArtifactRequest) (worker : DesktopWorker)
    (artifact : ScreenshotArtifact) : Prop where
  admitted : .fetchAdmitted request ∈ history t before
  authentic : gateway.Authenticates request
  resolved : ∃ r ∈ before, r.task = some t ∧ ∃ lease,
    (r.pre.registry.resolve request.leaseId request.workerEpoch r.pre.now).2 = .ok (lease, worker)
  /-- If the lease still resolves at the call itself, it is to the worker that is called. -/
  bound : ∀ epoch lease other,
    (e.pre.registry.resolve request.leaseId epoch e.pre.now).2 = .ok (lease, other) →
      other = worker
  ticketed : ∃ r ∈ before, r.task = some t ∧ ∃ ticket,
    r.pre.tickets.lookup request.ticketRef = some ticket ∧ r.pre.now < ticket.expiresAt ∧
      ticket.leaseId = request.leaseId ∧ ticket.workerEpoch = request.workerEpoch ∧
      ticket.artifact = artifact ∧
      ∃ u, .minted request.ticketRef ticket ∈ history u before ∧
        Redeems (history u before) ticket worker

/-- What the call of a worker's `dispatch` by task `t` rests on. -/
structure DispatchAuthorized (gateway : WorkerGateway) (before : List GatewayStep) (t : Nat)
    (request : GatewayExecuteRequest) (worker : DesktopWorker) : Prop where
  accepted : gateway.Accepts request
  admitted : ∃ r ∈ before, r.task = some t ∧ .executeAdmitted request ∈ r.events ∧
    0 < r.pre.permits
  resolved : ∃ r ∈ before, r.task = some t ∧ ∃ lease,
    (r.pre.registry.resolve request.leaseId request.workerEpoch r.pre.now).2 = .ok (lease, worker)

structure GatewayAffinity (gateway : WorkerGateway) (steps : List GatewayStep)
    (s : GatewayState) : Prop where
  fetched : ∀ before e after t worker artifact, steps = before ++ e :: after → e.task = some t →
    .artifactRequested worker artifact ∈ e.events →
      ∃ request, FetchAuthorized gateway before e t request worker artifact
  tickets_le : s.tickets.size ≤ gateway.config.maxArtifactTickets
  dispatched : ∀ before e after t worker requestId timeoutMs command,
    steps = before ++ e :: after → e.task = some t →
    .dispatched worker requestId timeoutMs command ∈ e.events →
      ∃ request, requestId = request.requestId ∧ timeoutMs = request.timeoutMs ∧
        command = request.command ∧ DispatchAuthorized gateway before t request worker
  once : ∀ t, (history t steps).countP GatewayEvent.isDispatched ≤ 1
  /-- An error that is not the worker's and says the mutation was not dispatched is right. -/
  undispatched : ∀ t request response error, .responded request response ∈ history t steps →
    response.outcome = .error error → error.mutationStatus = .notDispatched →
    (∀ envelope, .answered envelope ∈ history t steps → envelope.outcome ≠ .error error) →
      ¬HasDispatched (history t steps)

section Law

variable {gateway : WorkerGateway} {s₀ s : GatewayState} {steps before after : List GatewayStep}
  {e : GatewayStep}

theorem hasDispatched_iff {h : List GatewayEvent} :
    HasDispatched h ↔ 0 < h.countP GatewayEvent.isDispatched := by
  rw [List.countP_pos_iff, HasDispatched]
  constructor
  · rintro ⟨worker, requestId, timeoutMs, command, hx⟩
    exact ⟨_, hx, rfl⟩
  · rintro ⟨x, hx, hdispatched⟩
    cases x with
    | dispatched worker requestId timeoutMs command => exact ⟨_, _, _, _, hx⟩
    | _ => cases hdispatched

variable {t : Nat}

theorem GatewayRun.fetchAuthorized (h₀ : (gatewaySystem gateway).init s₀)
    (hr : GatewayRun gateway s₀ (before ++ e :: after) s) {worker : DesktopWorker}
    {artifact : ScreenshotArtifact} (ht : e.task = some t)
    (hx : .artifactRequested worker artifact ∈ e.events) :
    ∃ request, FetchAuthorized gateway before e t request worker artifact := by
  have hbefore := hr.at_step.1
  obtain ⟨request, lease, ticket, hadmitted, hresolved, hread, hlease, hepoch, rfl⟩ :=
    (hr.effect ht).means hx
  refine ⟨request, hadmitted, ?_, ?_, ?_, ?_⟩
  · obtain ⟨_, r, _, rfl, hrt, hevent⟩ := exists_split_of_mem_history hadmitted
    exact (GatewayRun.effect hbefore hrt).means hevent
  · obtain ⟨r, hmem, hrt, hok⟩ := GatewayRun.exists_resolve hbefore hresolved
    exact ⟨r, hmem, hrt, lease, hok⟩
  · intro epoch lease' other hok
    have hbinds := GatewayRun.binds h₀ hbefore (occurs_of_mem_history hresolved)
    exact (hbinds.resolve hok).2
  · obtain ⟨earlier, r, later, rfl, hrt, hevent⟩ := exists_split_of_mem_history hread
    obtain ⟨hlookup, hlive⟩ := (GatewayRun.effect hbefore hrt).means hevent
    obtain ⟨u, worker', hminted, hredeems⟩ := GatewayRun.redeems h₀ hbefore.at_step.1 hlookup
    have hsub := history_subset_append u earlier (r :: later)
    -- The lease of the ticket is the lease of the request, so both resolved to one worker.
    have hsame : worker = worker' := by
      obtain ⟨leaseId, epoch, lease', hresolved', hid, -⟩ := hredeems.resolved
      have hown := GatewayRun.resolved h₀ hbefore.at_step.1 hresolved'
      rw [hid, hlease] at hown
      rw [← hown.1] at hresolved'
      exact GatewayRun.worker_unique h₀ hbefore (occurs_of_mem_history hresolved)
        (occurs_of_mem_history (hsub hresolved'))
    subst hsame
    exact ⟨r, by simp, hrt, ticket, hlookup, hlive, hlease, hepoch, rfl, u, hsub hminted,
      hredeems.mono hsub⟩

theorem GatewayRun.dispatchAuthorized
    (hr : GatewayRun gateway s₀ (before ++ e :: after) s) {worker : DesktopWorker}
    {requestId : RequestId} {timeoutMs : Nat} {command : Command} (ht : e.task = some t)
    (hx : .dispatched worker requestId timeoutMs command ∈ e.events) :
    ∃ request, requestId = request.requestId ∧ timeoutMs = request.timeoutMs ∧
      command = request.command ∧ DispatchAuthorized gateway before t request worker := by
  have hbefore := hr.at_step.1
  obtain ⟨request, lease, hadmitted, hresolved, hid, htimeout, hcommand⟩ :=
    ((hr.effect ht).means hx).2
  obtain ⟨earlier, r, later, rfl, hrt, hevent⟩ := exists_split_of_mem_history hadmitted
  obtain ⟨hpermit, haccepts⟩ := (GatewayRun.effect hbefore hrt).means hevent
  obtain ⟨r', hmem, hrt', hok⟩ := GatewayRun.exists_resolve hbefore hresolved
  exact ⟨request, hid, htimeout, hcommand, haccepts, ⟨r, by simp, hrt, hevent, hpermit⟩,
    ⟨r', hmem, hrt', lease, hok⟩⟩

theorem GatewayRun.dispatched_once (hr : GatewayRun gateway s₀ steps s) (t : Nat) :
    (history t steps).countP GatewayEvent.isDispatched ≤ 1 := by
  refine hr.invariant
    (P := fun steps _ => (history t steps).countP GatewayEvent.isDispatched ≤ 1) (by simp) ?_
  intro before e _ ih he
  rcases gateway_permitted he with ⟨hevents, -⟩ | ⟨u, hu, heffect⟩
  · rw [history_append, List.countP_append]
    simpa [history, Step.eventsOf, hevents] using ih
  · by_cases htask : u = t
    · subst htask
      rw [history_append, List.countP_append]
      have hown : history u [e] = e.events := by simp [history, Step.eventsOf, hu]
      rw [hown]
      by_cases hdispatched : HasDispatched e.events
      · obtain ⟨hfirst, -, hlength⟩ := heffect.first_of_hasDispatched hdispatched
        rw [hasDispatched_iff] at hfirst
        have hle := List.countP_le_length (p := GatewayEvent.isDispatched) (l := e.events)
        omega
      · rw [hasDispatched_iff] at hdispatched
        omega
    · rw [history_snoc_other _ (by simpa [hu] using htask)]
      exact ih

theorem GatewayRun.undispatched (hr : GatewayRun gateway s₀ steps s)
    {request : GatewayExecuteRequest} {response : GatewayExecuteResponse} {error : CuaError}
    (hresponded : .responded request response ∈ history t steps)
    (herror : response.outcome = .error error)
    (hstatus : error.mutationStatus = .notDispatched)
    (hdispatched : HasDispatched (history t steps)) :
    ∃ envelope, .answered envelope ∈ history t steps ∧ envelope.outcome = .error error := by
  revert hresponded hdispatched
  refine hr.invariant (P := fun steps _ => .responded request response ∈ history t steps →
    HasDispatched (history t steps) →
      ∃ envelope, .answered envelope ∈ history t steps ∧ envelope.outcome = .error error)
    (by simp) ?_
  intro before e _ ih he hresponded hdispatched
  have hsub := history_subset_append t before [e]
  have hkeep : .responded request response ∈ history t before → HasDispatched (history t before) →
      ∃ envelope, .answered envelope ∈ history t (before ++ [e]) ∧
        envelope.outcome = .error error := by
    intro hresponded hdispatched
    obtain ⟨envelope, hanswered, houtcome⟩ := ih hresponded hdispatched
    exact ⟨envelope, hsub hanswered, houtcome⟩
  by_cases htask : e.task = some t
  swap
  · rw [history_snoc_other _ htask] at hresponded hdispatched
    exact hkeep hresponded hdispatched
  have hown : history t [e] = e.events := by simp [history, Step.eventsOf, htask]
  rcases gateway_permitted he with ⟨hevents, -⟩ | ⟨u, hu, heffect⟩
  · rw [history_append, hown, hevents, List.append_nil] at hresponded hdispatched
    exact hkeep hresponded hdispatched
  · obtain rfl : u = t := Option.some.inj (hu.symm.trans htask)
    rw [history_append, hown] at hresponded hdispatched
    have hwhen : HasDispatched (history u before) ∨ HasDispatched e.events := by
      obtain ⟨worker, requestId, timeoutMs, command, hx⟩ := hdispatched
      exact (List.mem_append.mp hx).imp (fun h => ⟨_, _, _, _, h⟩) fun h => ⟨_, _, _, _, h⟩
    rcases hwhen with hearlier | hnow
    · rcases List.mem_append.mp hresponded with hold | hlast
      · exact hkeep hold hearlier
      · obtain ⟨envelope, hanswered, houtcome⟩ :=
          (heffect.means hlast).undispatched error herror hstatus hearlier
        exact ⟨envelope, hsub hanswered, houtcome⟩
    · -- The step that dispatches reports nothing else and follows no response.
      obtain ⟨-, hopen, hlength⟩ := heffect.first_of_hasDispatched hnow
      obtain ⟨x, hx⟩ := List.length_eq_one_iff.mp hlength
      obtain ⟨worker, requestId, timeoutMs, command, hmem⟩ := hnow
      rcases List.mem_append.mp hresponded with hold | hlast
      · exact absurd ⟨request, response, hold⟩ hopen
      · rw [hx] at hmem hlast
        cases (List.mem_singleton.mp hmem).trans (List.mem_singleton.mp hlast).symm

end Law

/--
However `execute`, `fetch_artifact`, the registry's operations and time are
interleaved: an artifact is read only for an authenticated request, under a
lease and epoch that resolved in that call, with an unexpired ticket minted for
them, from the worker that returned the artifact; a command is dispatched at
most once per call, after its checks, to the worker that holds the lease; and
the gateway's own `NotDispatched` errors are right.
-/
theorem gatewayAffinity_of_reachable (gateway : WorkerGateway)
    (c : Pool GatewayState GatewayReply GatewayEvent) (hc : Reachable (gatewaySystem gateway) c) :
    GatewayAffinity gateway c.steps c.shared := by
  obtain ⟨s₀, h₀, hr⟩ := (hc.accounted (gatewaySystem_keeps gateway)).lawful
  refine
    { fetched := fun before e after t worker artifact hsteps ht hx => ?_
      tickets_le := GatewayRun.tickets_le h₀ hr
      dispatched := fun before e after t worker requestId timeoutMs command hsteps ht hx => ?_
      once := GatewayRun.dispatched_once hr
      undispatched :=
        fun t request response error hresponded herror hstatus hown hdispatched => ?_ }
  · rw [hsteps] at hr
    exact GatewayRun.fetchAuthorized h₀ hr ht hx
  · rw [hsteps] at hr
    exact GatewayRun.dispatchAuthorized hr ht hx
  · obtain ⟨envelope, hanswered, houtcome⟩ :=
      GatewayRun.undispatched hr hresponded herror hstatus hdispatched
    exact hown envelope hanswered houtcome

def screenshotRequest : GatewayArtifactRequest where
  protocolVersion := gatewayProtocolVersion
  authorization := ⟨"0123456789abcdef0123456789abcdef"⟩
  leaseId := ⟨UuidSource.tally.issue "lease" 2⟩
  workerEpoch := ⟨UuidSource.tally.issue "epoch" 1⟩
  ticketRef := UuidSource.tally.issue "ticket" 4

def fetchMoves : List (Move GatewayReply GatewayCall Nat) :=
  answerMoves (.windowObserved exampleObservation) ++
    [.run 2 .none, .spawn (.fetchArtifact screenshotRequest), .run 3 .none, .run 3 .none,
      .run 3 .none, .run 3 .none]

theorem gatewayAffinity_of_fetch :
    ∃ c, Reachable (gatewaySystem exampleGateway) c ∧
      .artifactRequested ⟨0, .macos, .localUserDesktop⟩ workerScreenshot ∈ history 3 c.steps ∧
      GatewayAffinity exampleGateway c.steps c.shared := by
  have hrun : ((Pool.start (.initial exampleGateway 0)).run (gatewaySystem exampleGateway)
      fetchMoves).isSome := by decide
  have hc := Reachable.of_run (S := gatewaySystem exampleGateway) ⟨0, rfl⟩ hrun
  exact ⟨_, hc, .tail _ (.tail _ (.tail _ (.head _))),
    gatewayAffinity_of_reachable exampleGateway _ hc⟩

end NexusCua.Host
