import NexusCua.Runtime.Evolution

/-!
# Authority of actions

Every call of the driver's `perform_action_scoped` goes back to a step that
consumed a valid observation of the cited window, in an open bounded session
that was granted the action and the application, under a policy that allows the
command; and no observation is consumed by two calls.
-/

namespace NexusCua.Runtime

open NexusCua.Foundation NexusCua.Protocol

variable {runtime : RuntimeService} {h es : List RuntimeEvent} {s s' s₀ : RuntimeState}
  {sessionId : SessionId} {steps before after : List RuntimeStep} {e : RuntimeStep} {t : Nat}

/-! ## What single events tell -/

theorem RuntimeEffect.of_guard {x : GuardEvent} (he : RuntimeEffect runtime h s es s')
    (hx : .guard sessionId x ∈ es) :
    ∃ entry, s.heap.lookup sessionId = some entry ∧
      ∃ own after, x.Means own { entry.guard with now := s.now } after := by
  cases he with
  | guard hentry hguard =>
      obtain ⟨y, hy, hxy⟩ := List.mem_map.mp hx
      cases hxy
      exact ⟨_, hentry, _, _, hguard.means hy⟩
  | report htruthful =>
      obtain rfl := List.mem_singleton.mp hx
      exact htruthful.elim
  | control he => rcases he.kind hx with hk | hk <;> contradiction
  | session he => rcases he.kind hx with hk | hk <;> contradiction
  | tables he => exact absurd (he.kind hx) nofun
  | discovery he => exact absurd (he.kind hx) nofun
  | store he => exact absurd (he.kind hx) nofun
  | _ => simp at hx

theorem RuntimeEffect.of_consumed {call : ActionCall} (he : RuntimeEffect runtime h s es s')
    (hx : .consumed call ∈ es) :
    es = [.consumed call] ∧ ∃ session entry record,
      .resolved call.input.sessionId session ∈ h ∧ Granted runtime session call.input ∧
      Consumable runtime s session call entry record ∧
      s' = s.modifyTables session.id fun _ =>
        entry.state.setStatus call.input.observationId .inFlight := by
  cases he.of_table hx rfl with
  | consumed _ hresolved hgranted hconsumable =>
      obtain ⟨rfl⟩ := RuntimeEvent.consumed.inj (List.mem_singleton.mp hx)
      exact ⟨rfl, _, _, _, hresolved, hgranted, hconsumable, rfl⟩
  | _ => simp at hx

namespace RuntimeRun

theorem resolved (hr : RuntimeRun runtime s₀ steps s) (h₀ : WellFormed runtime s₀)
    {session : Session} (hx : .resolved sessionId session ∈ history t steps) :
    session.id = sessionId ∧ ∃ entry, s.heap.lookup sessionId = some entry ∧
      entry.session = session := by
  obtain ⟨before, e, after, rfl, ht, hevent⟩ := exists_split_of_mem_history hx
  obtain ⟨-, entry, hentry, rfl, -⟩ := hr.reported ht hevent rfl
  obtain ⟨entry', hentry', ha⟩ := (hr.evolves h₀).1.ages sessionId entry hentry
  exact ⟨((wellFormed hr.prior h₀).sound sessionId entry hentry).id, entry', hentry',
    ha.session⟩

theorem unrevoked (hr : RuntimeRun runtime s₀ (before ++ e :: after) s)
    (h₀ : WellFormed runtime s₀) {entry : SessionEntry}
    (hentry : e.pre.heap.lookup sessionId = some entry)
    (hclosed : .guard sessionId (.sawClosed false) ∈ history t after)
    (hexpired : .guard sessionId (.sawExpired false) ∈ history t after) :
    entry.guard.closed = false ∧ e.pre.now < entry.session.expiresAt := by
  have hlater : ∀ x, .guard sessionId x ∈ history t after →
      ∃ f : RuntimeStep, Evolves runtime e.pre f.pre ∧ ∃ entry',
        f.pre.heap.lookup sessionId = some entry' ∧
        ∃ own after, x.Means own { entry'.guard with now := f.pre.now } after := by
    intro x hx
    obtain ⟨mid, f, rest, rfl, hf, hevent⟩ := exists_split_of_mem_history hx
    have hr' : RuntimeRun runtime s₀ ((before ++ e :: mid) ++ f :: rest) s := by simpa using hr
    exact ⟨f, (hr'.prior.evolves h₀).1, (hr'.effect hf).of_guard hevent⟩
  have hsound := (wellFormed hr.prior h₀).sound sessionId entry hentry
  constructor
  · obtain ⟨f, hevolves, entry', hentry', own, _, hfalse⟩ := hlater _ hclosed
    obtain ⟨aged, haged, ha⟩ := hevolves.ages sessionId entry hentry
    obtain rfl := Option.some.inj (haged.symm.trans hentry')
    by_contra hne
    have hclosed' := ha.closed (by simpa using hne)
    simp [GuardEvent.Means, Truthful, hclosed'] at hfalse
  · obtain ⟨f, hevolves, entry', hentry', own, _, hfalse⟩ := hlater _ hexpired
    obtain ⟨aged, haged, ha⟩ := hevolves.ages sessionId entry hentry
    obtain rfl := Option.some.inj (haged.symm.trans hentry')
    simp only [GuardEvent.Means, Truthful, Bool.false_eq, decide_eq_false_iff_not, Nat.not_le,
      ha.expiresAt, hsound.expiresAt] at hfalse
    exact Nat.lt_of_le_of_lt hevolves.now_le hfalse

end RuntimeRun

/-! ## The step that consumes the observation -/

structure Authorized (runtime : RuntimeService) (s : RuntimeState) (call : ActionCall)
    (session : Session) (entry : SessionEntry) (record : ObservationRecord) : Prop where
  id : session.id = call.input.sessionId
  entry_eq : s.heap.lookup session.id = some entry
  session_eq : entry.session = session
  unclosed : entry.guard.closed = false
  unexpired : s.now < session.expiresAt
  bounded : session.manifest.mode = .bounded
  kind : call.input.action.kind ∈ session.manifest.allowedActions
  foreground : call.input.action.requiresForeground = true →
    session.manifest.allowForegroundInput = true
  policy : ∀ layer ∈ runtime.config.policy.layers,
    layer.authorize (.performAction call.input) = true
  after : ∀ after, RuntimeService.observationAfter call.input = some after →
    ∀ layer ∈ runtime.config.policy.layers,
      layer.authorize (RuntimeService.observationCommand after) = true
  window : entry.state.windows.lookup call.input.windowRef = some call.window
  application : ∃ application ∈ session.allowedApplications,
    application.matchesGeneration call.window.application = true
  record_eq : entry.state.observations.lookup call.input.observationId = some record
  windowRef : record.windowRef = call.input.windowRef
  valid : record.status = .valid
  age : s.now - record.createdAt ≤ runtime.config.maxObservationAge

theorem grantsAction_eq_ok {session : Session} {action : Action}
    (h : RuntimeService.grantsAction session action = .ok ()) :
    session.manifest.mode = .bounded ∧ action.kind ∈ session.manifest.allowedActions ∧
      (action.requiresForeground = true → session.manifest.allowForegroundInput = true) := by
  rw [RuntimeService.grantsAction] at h
  split at h
  · contradiction
  · rename_i hgranted
    split at h
    · contradiction
    · rename_i hforeground
      simp only [not_or, not_not, Bool.not_eq_true', Bool.not_eq_false, List.contains_iff_mem]
        at hgranted
      refine ⟨hgranted.1, hgranted.2, fun hrequired => ?_⟩
      simpa [hrequired] using hforeground

theorem authorizeAfter_eq_ok {input : PerformActionInput}
    (h : runtime.authorizeAfter input = .ok ()) {after : ObserveWindowInput × Bool}
    (hafter : RuntimeService.observationAfter input = some after) :
    runtime.config.policy.authorize (RuntimeService.observationCommand after) = .ok () := by
  rw [RuntimeService.authorizeAfter, hafter] at h
  cases hpolicy : runtime.config.policy.authorize (RuntimeService.observationCommand after) with
  | ok _ => rfl
  | error error => simp [hpolicy, Except.mapError] at h

theorem Authorized.of_consumable {session : Session} {call : ActionCall} {entry : SessionEntry}
    {record : ObservationRecord} (hid : session.id = call.input.sessionId)
    (hsession : entry.session = session) (hclosed : entry.guard.closed = false)
    (hexpired : s.now < session.expiresAt) (hgranted : Granted runtime session call.input)
    (hc : Consumable runtime s session call entry record) :
    Authorized runtime s call session entry record := by
  obtain ⟨hmode, hkind, hforeground⟩ := grantsAction_eq_ok hgranted.action
  exact
    { id := hid
      entry_eq := hc.entry_eq
      session_eq := hsession
      unclosed := hclosed
      unexpired := hexpired
      bounded := hmode
      kind := hkind
      foreground := hforeground
      policy := (RuntimePolicyStack.authorize_eq_ok_iff _ _).mp hgranted.policy
      after := fun after hafter => (RuntimePolicyStack.authorize_eq_ok_iff _ _).mp
        (authorizeAfter_eq_ok hgranted.after hafter)
      window := hc.window_eq
      application := List.any_eq_true.mp hc.allowed
      record_eq := hc.record_eq
      windowRef := hc.windowRef
      valid := hc.valid
      age := hc.age }

structure ConsumedBy (runtime : RuntimeService) (before : List RuntimeStep) (e : RuntimeStep)
    (t : Nat) (call : ActionCall) (session : Session) (entry : SessionEntry)
    (record : ObservationRecord) : Prop where
  task : e.task = some t
  consumed : .consumed call ∈ e.events
  opened : Occurs (.opened session) before
  authorized : Authorized runtime e.pre call session entry record
  post : e.post = e.pre.modifyTables session.id fun _ =>
    entry.state.setStatus call.input.observationId .inFlight

theorem RuntimeRun.consumedBy (hr : RuntimeRun runtime s₀ (before ++ e :: after) s)
    (h₀ : WellFormed runtime s₀) (hheap : s₀.heap = ∅) (ht : e.task = some t) {call : PerformCall}
    (hcall : .performCalled call ∈ e.events) :
    calls (history t before) = [] ∧ ∃ earlier f later session entry record,
      before = earlier ++ f :: later ∧
      ConsumedBy runtime earlier f t call.call session entry record := by
  obtain ⟨⟨hcalls, session, hbefore, hafter, hhistory, hresolved, hclosed, hexpired⟩, -⟩ :=
    hr.reported ht hcall rfl
  refine ⟨hcalls, ?_⟩
  obtain ⟨earlier, f, later, es, es', rfl, hf, hevents, rfl, rfl⟩ :=
    exists_split_of_history hhistory
  have hrun := hr.prior
  have hconsumed : .consumed call.call ∈ f.events := by simp [hevents]
  obtain ⟨hsingle, session', entry, record, hresolved', hgranted, hconsumable, hpost⟩ :=
    (hrun.effect hf).of_consumed hconsumed
  obtain ⟨rfl, rfl⟩ : es = [] ∧ es' = [] := by
    have hlength := congrArg List.length (hevents.symm.trans hsingle)
    simp only [List.length_append, List.length_cons, List.length_nil] at hlength
    exact ⟨List.length_eq_zero_iff.mp (by omega), List.length_eq_zero_iff.mp (by omega)⟩
  simp only [List.append_nil, List.nil_append] at hresolved hclosed hexpired
  -- The session that was looked at after the consumption is the one that was resolved before it.
  obtain ⟨hid, entry', hentry', hsession⟩ := hrun.prior.resolved h₀ hresolved'
  obtain ⟨-, entry'', hentry'', hsession'⟩ := hrun.prior.resolved h₀ hresolved
  obtain rfl := Option.some.inj (hentry'.symm.trans hentry'')
  obtain rfl : session' = session := hsession.symm.trans hsession'
  obtain rfl := Option.some.inj ((hid ▸ hentry').symm.trans hconsumable.entry_eq)
  obtain ⟨hopen, hlive⟩ := hrun.unrevoked h₀ hconsumable.entry_eq hclosed hexpired
  have hopened := hrun.prior.opened hheap h₀ hentry'
  rw [hsession] at hlive hopened
  exact ⟨earlier, f, later, session', entry', record, rfl, hf, hconsumed, hopened,
    .of_consumable hid hsession hopen hlive hgranted hconsumable, hpost⟩

/-! ## One call for each observation -/

theorem RuntimeRun.not_consumed_twice {mid : List RuntimeStep} {f : RuntimeStep}
    {earlier : List RuntimeStep} {u : Nat} {call call' : ActionCall} {session session' : Session}
    {entry entry' : SessionEntry} {record record' : ObservationRecord}
    (hr : RuntimeRun runtime s₀ (before ++ e :: (mid ++ f :: after)) s)
    (h₀ : WellFormed runtime s₀) (he : ConsumedBy runtime before e t call session entry record)
    (hf : ConsumedBy runtime earlier f u call' session' entry' record')
    (hsession : call'.input.sessionId = call.input.sessionId)
    (hobservation : call'.input.observationId = call.input.observationId) : False := by
  have ha := he.authorized
  have ha' := hf.authorized
  have hid : session'.id = session.id := by rw [ha'.id, hsession, ha.id]
  have hpost : e.post.heap.lookup session.id =
      some { entry with state := entry.state.setStatus call.input.observationId .inFlight } := by
    rw [he.post, RuntimeState.modifyTables, RuntimeState.lookup_modifySession, if_pos rfl,
      ha.entry_eq]
    rfl
  obtain ⟨aged, haged, hages⟩ := (hr.evolves_between h₀).ages _ _ hpost
  obtain rfl := Option.some.inj (haged.symm.trans (hid ▸ ha'.entry_eq))
  obtain ⟨n, hn, hdrawn⟩ := ((hr.prior.wellFormed h₀).sound _ _ ha.entry_eq).observation _ _
    ha.record_eq
  rcases hages.observation _ _ (hobservation ▸ ha'.record_eq) with
    ⟨old, hold, -, -, hvalid⟩ | ⟨n', hn', -, hdrawn'⟩
  · simp only [SessionState.setStatus, Table.lookup_modify, if_true, ha.record_eq, Option.map_some,
      Option.some.injEq] at hold
    have hstatus := hvalid ha'.valid
    rw [← hold] at hstatus
    contradiction
  · have hle : e.pre.issued ≤ e.post.issued := by rw [he.post]; exact le_rfl
    rw [hdrawn'] at hdrawn
    simp only [ObservationId.mk.injEq, UuidSource.issue_inj] at hdrawn
    omega

theorem calls_ne_nil {x : RuntimeEvent} (ht : e.task = some t) (hx : x ∈ e.events)
    (hcall : x.isCall = true) : calls (history t (before ++ e :: after)) ≠ [] :=
  List.ne_nil_of_mem (List.mem_filter.mpr ⟨mem_history.mpr ⟨e, by simp, ht, hx⟩, hcall⟩)

theorem place_of_call {before' after' : List RuntimeStep} {e' : RuntimeStep} {x y : RuntimeEvent}
    (hsteps : before ++ e :: after = before' ++ e' :: after') (ht : e.task = some t)
    (ht' : e'.task = some t) (hx : x ∈ e.events) (hy : y ∈ e'.events) (hcall : x.isCall = true)
    (hcall' : y.isCall = true) (hfirst : calls (history t before) = [])
    (hfirst' : calls (history t before') = []) : before = before' ∧ e = e' := by
  rcases places_cases hsteps with ⟨hsame, heq, -⟩ | ⟨mid, rfl, -⟩ | ⟨mid, rfl, -⟩
  · exact ⟨hsame, heq⟩
  · exact absurd hfirst' (calls_ne_nil ht hx hcall)
  · exact absurd hfirst (calls_ne_nil ht' hy hcall')

/-- Every call of the driver is authorised by the step that consumed its observation, once. -/
theorem performCalled_authorized (runtime : RuntimeService) (c : RuntimePool)
    (hc : Reachable runtime.system c) (before after : List RuntimeStep) (e : RuntimeStep) (t : Nat)
    (call : PerformCall) (hsteps : c.steps = before ++ e :: after) (ht : e.task = some t)
    (hcall : .performCalled call ∈ e.events) :
    (∃ earlier f later session entry record, before = earlier ++ f :: later ∧
      f.task = some t ∧ .consumed call.call ∈ f.events ∧ Occurs (.opened session) earlier ∧
      Authorized runtime f.pre call.call session entry record) ∧
    ∀ before' e' after' t' call', c.steps = before' ++ e' :: after' → e'.task = some t' →
      .performCalled call' ∈ e'.events →
      call'.call.input.sessionId = call.call.input.sessionId →
      call'.call.input.observationId = call.call.input.observationId →
      before' = before ∧ call' = call := by
  obtain ⟨s₀, ⟨now, rfl⟩, hr⟩ := runtime.run_of_reachable hc
  have h₀ := WellFormed.initial runtime now
  obtain ⟨hcalls, earlier, f, later, session, entry, record, rfl, hf⟩ :=
    RuntimeRun.consumedBy (hsteps ▸ hr) h₀ rfl ht hcall
  refine ⟨⟨earlier, f, later, session, entry, record, rfl, hf.task, hf.consumed, hf.opened,
    hf.authorized⟩, ?_⟩
  intro before' e' after' t' call' hsteps' ht' hcall' hsession hobservation
  obtain ⟨hcalls', earlier', f', later', session', entry', record', rfl, hf'⟩ :=
    RuntimeRun.consumedBy (hsteps' ▸ hr) h₀ rfl ht' hcall'
  have hplaces : earlier ++ f :: (later ++ e :: after) =
      earlier' ++ f' :: (later' ++ e' :: after') := by
    simpa using hsteps.symm.trans hsteps'
  rcases places_cases hplaces with ⟨rfl, rfl, hlater⟩ | ⟨mid, rfl, hmid⟩ | ⟨mid, rfl, hmid⟩
  · -- One consumption: the task is the same, and it makes one call.
    obtain rfl : t = t' := Option.some.inj (hf.task.symm.trans hf'.task)
    obtain ⟨hsame, rfl⟩ := place_of_call (hsteps.symm.trans hsteps') ht ht' hcall hcall' rfl rfl
      hcalls hcalls'
    have hsingle := (RuntimeRun.effect (hsteps ▸ hr) ht).of_report hcall rfl
    rw [hsingle.1, List.mem_singleton] at hcall'
    exact ⟨hsame.symm, RuntimeEvent.performCalled.inj hcall'⟩
  · have hrun : RuntimeRun runtime (.initial runtime now)
        (earlier ++ f :: (mid ++ f' :: (later' ++ e' :: after'))) c.shared := by
      simpa [hsteps'] using hr
    exact (hrun.not_consumed_twice h₀ hf hf' hsession hobservation).elim
  · have hrun : RuntimeRun runtime (.initial runtime now)
        (earlier' ++ f' :: (mid ++ f :: (later ++ e :: after))) c.shared := by
      simpa [hsteps] using hr
    exact (hrun.not_consumed_twice h₀ hf' hf hsession.symm hobservation.symm).elim

/-! ### One action in one window -/

def editor : DriverApplication :=
  ⟨"editor", "1", "identity", "Editor", "app.editor", true, .unsupported none⟩

def editorWindow : DriverWindow :=
  ⟨"main", editor, "Draft", ⟨0, 0, 640, 480⟩, .normal, true, true⟩

def editorManifest : CapabilityManifest where
  ttlSeconds := 60
  applicationRefs := [⟨"discovery_"⟩]
  mode := .bounded
  allowedActions := [.setWindowMinimized, .terminateApplication]
  allowForegroundInput := false
  restoreForegroundAfterInput := false
  allowDisplayCapture := false
  allowClipboardRead := false
  allowClipboardWrite := false

def editorObservation : DriverObservation :=
  ⟨"main", ⟨0, 0, 640, 480⟩, none, none, [], true, none, "fingerprint"⟩

def openEditor (manifest : CapabilityManifest) :
    List (Move RuntimeReply RuntimeCall RuntimeLabel) :=
  .spawn (.execute .discoverApplications) ::
    play 0 [.none, .none, .none, .applications (.ok [editor]), .wallClock (some "later"), .none,
      .none, .none, .none] ++
  .spawn (.execute (.openSession manifest)) ::
    play 1 [.none, .none, .none, .none, .none, .applications (.ok [editor]),
      .wallClock (some "later"), .sessionStarted (.ok ()), .none, .none, .none]

def observeEditor : List (Move RuntimeReply RuntimeCall RuntimeLabel) :=
  openEditor editorManifest ++
  .spawn (.execute (.listWindows ⟨⟨"session_0"⟩, none⟩)) ::
    play 2 [.none, .none, .none, .none, .none, .windows (.ok [editorWindow]), .none, .none,
      .none] ++
  .spawn (.execute (.observeWindow ⟨⟨"session_0"⟩, ⟨"window_000"⟩, false, .disabled⟩)) ::
    play 3 [.none, .none, .none, .none, .none, .none, .windowObserved (.ok editorObservation),
      .none, .none, .none, .none, .wallClock (some "now"), .none, .none, .none]

def minimizeEditor : PerformActionInput :=
  ⟨none, ⟨"session_0"⟩, ⟨"window_000"⟩, ⟨"observation_0000"⟩, .setWindowMinimized true⟩

def performReplies (outcome : Except DriverError DriverActionOutput) : List RuntimeReply :=
  [.none, .none, .none, .none, .none, .none, .none, .none, .none, .none, .none, .polls 1, .none,
    .none, .none, .none, .none, .none, .observationCurrent (.ok true), .none, .none, .none, .none,
    .none, .actionPerformed outcome, .none, .none, .none]

def minimized : DriverActionOutput := ⟨.semantic, .confirmed, .nativeReadback, .notRequested⟩

def minimizeMoves : List (Move RuntimeReply RuntimeCall RuntimeLabel) :=
  observeEditor ++ .spawn (.execute (.performAction minimizeEditor)) ::
    play 4 (performReplies (.ok minimized))

theorem minimizeMoves_run : ((Pool.start (.initial exampleRuntime 0)).run exampleRuntime.system
    minimizeMoves).isSome = true :=
  rfl

def minimizePool : RuntimePool :=
  ((Pool.start (.initial exampleRuntime 0)).run exampleRuntime.system minimizeMoves).get
    minimizeMoves_run

theorem minimizePool_reachable : Reachable exampleRuntime.system minimizePool :=
  Reachable.of_run (S := exampleRuntime.system) ⟨0, rfl⟩ minimizeMoves_run

/-- The window is minimised on the authority of the one observation there is. -/
theorem minimizeEditor_authorized :
    ∃ before e after call, minimizePool.steps = before ++ e :: after ∧ e.task = some 4 ∧
      .performCalled call ∈ e.events ∧ call.call = ⟨minimizeEditor, editorWindow⟩ ∧
      (∃ earlier f later session entry record, before = earlier ++ f :: later ∧
        f.task = some 4 ∧ .consumed call.call ∈ f.events ∧ Occurs (.opened session) earlier ∧
        Authorized exampleRuntime f.pre call.call session entry record) := by
  have hsteps : minimizePool.steps = minimizePool.steps.take 67 ++
      minimizePool.steps.get ⟨67, by decide⟩ :: minimizePool.steps.drop 68 := rfl
  exact ⟨_, _, _, _, hsteps, rfl, .head _, rfl,
    (performCalled_authorized exampleRuntime _ minimizePool_reachable _ _ _ 4 _ hsteps rfl
      (.head _)).1⟩

end NexusCua.Runtime
