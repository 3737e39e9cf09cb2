import NexusCua.Runtime.ObservationContract

/-!
# Actions keep the contract

An action calls the driver only with a consumed observation and invalidates what
it may have made stale before it returns.
-/

namespace NexusCua.Runtime

open NexusCua.Foundation NexusCua.Protocol
open NexusCua.Foundation.Async (wp)

variable {runtime : RuntimeService} {command : Command} {h : List RuntimeEvent}

theorem Invalidated.mono {h' : List RuntimeEvent} {call : PerformCall}
    {result : Except DriverError DriverActionOutput} (hi : Invalidated h call result)
    (hgrown : h <+: h') : Invalidated h' call result := by
  obtain ⟨session, hresolved, hinvalidated⟩ := hi
  refine ⟨session, hgrown.subset hresolved, ?_⟩
  split at hinvalidated
  · rw [if_pos ‹_›]
    obtain ⟨sessionIds, hlisted, hall⟩ := hinvalidated
    exact ⟨sessionIds, hgrown.subset hlisted, fun sessionId hs => hgrown.subset (hall sessionId hs)⟩
  · rw [if_neg ‹_›]
    exact hgrown.subset hinvalidated

structure ActionSpec (input : PerformActionInput) (outcome : Except CuaError ActionOutput)
    (h : List RuntimeEvent) : Prop where
  running : Running (.performAction input) h
  issued_eq : (view h).issued = none
  disposed : ∀ error, outcome = .error error → Disposed h (notDispatchedByDefault error)
  invalidated : ∀ call, .performCalled call ∈ h →
    ∃ result, .performReturned result ∈ h ∧ Invalidated h call result

variable {error : CuaError}

theorem ActionSpec.uncalled {input : PerformActionInput}
    (hs : Started (.performAction input) h) : ActionSpec input (.error error) h where
  running := hs.toRunning
  issued_eq := hs.issued_eq
  disposed := by simp [Disposed, hs.calls_eq]
  invalidated call hcall := by simpa [hs.calls_eq] using mem_calls hcall

theorem RuntimeState.modifyTables_self {s : RuntimeState} {sessionId : SessionId}
    {entry : SessionEntry} (hentry : s.heap.lookup sessionId = some entry) :
    (s.modifyTables sessionId fun _ => entry.state) = s := by
  rw [RuntimeState.modifyTables, RuntimeState.modifySession, Table.modify_eq_self hentry rfl]

namespace RuntimeService

/-! ## Consuming an observation -/

variable {Q : Except CuaError Unit → List RuntimeEvent → Prop}

theorem wp_validateActionAuthority (session : Session) (action : Action) (hr : Running command h)
    (hok : ∀ h', Unmoved h h' → grantsAction session action = .ok () → Q (.ok ()) h')
    (herror : ∀ error h', Unmoved h h' → Q (.error error) h') :
    wp (runtimeContract runtime) (validateActionAuthority session action) Q h := by
  refine (calm_actionGuard _).wp_bind hr herror fun guard h₁ hm => ?_
  refine (calm_checkGuard _ guard).attempt.wp_bind (hm.running hr)
    (fun _ _ hm' => herror _ _ (hm.trans hm')) fun checked h₂ hm' => ?_
  replace hm := hm.trans hm'
  refine (calm_dropGuard _ guard).wp_bind (hm.running hr)
    (fun _ _ hm' => herror _ _ (hm.trans hm')) fun _ h₃ hm' => ?_
  replace hm := hm.trans hm'
  refine (Calm.ofExcept checked).wp_bind (hm.running hr)
    (fun _ _ hm' => herror _ _ (hm.trans hm')) fun _ h₄ hm' => ?_
  replace hm := hm.trans hm'
  rw [Async.wp_ofExcept]
  cases hgrants : grantsAction session action with
  | ok _ => exact hok h₄ hm hgrants
  | error error => exact herror error h₄ hm

theorem calm_lockForeground (required : Bool) :
    Calm runtime command (lockForeground required) := by
  rw [lockForeground]
  split
  · refine (Calm.update fun h s => ?_).bind fun locked => ?_
    · split
      · exact .silent
      · exact .foreground
    · split
      · exact .pure _
      · exact .fail _
  · exact .pure _

theorem wp_unlockForeground (required : Bool) (hQ : Q (.ok ()) h) :
    wp (runtimeContract runtime) (unlockForeground required) Q h := by
  rw [unlockForeground]
  split
  · rw [Async.wp_update]
    exact fun s => ⟨.foreground, hQ⟩
  · exact hQ

variable {input : PerformActionInput} {session : Session}

theorem consume_error {now : Nat}
    {activity : InputActivity} {state state' : SessionState}
    (hc : runtime.consume session input now activity state = (state', .error error)) :
    state' = state ∨ state' = state.setStatus input.observationId .invalid := by
  rw [consume] at hc
  split at hc
  · exact .inl (congrArg Prod.fst hc).symm
  · split at hc
    · split at hc
      · exact .inl (congrArg Prod.fst hc).symm
      · split at hc
        · exact .inr (congrArg Prod.fst hc).symm
        · split at hc
          · exact .inl (congrArg Prod.fst hc).symm
          · simp at hc
    · exact .inl (congrArg Prod.fst hc).symm

theorem consume_ok {s : RuntimeState}
    {activity : InputActivity} {entry : SessionEntry} {state' : SessionState}
    {consumed : ConsumedAction} (hentry : s.heap.lookup session.id = some entry)
    (hc : runtime.consume session input s.now activity entry.state = (state', .ok consumed)) :
    state' = entry.state.setStatus input.observationId .inFlight ∧
      ∃ record, Consumable runtime s session ⟨input, consumed.window⟩ entry record := by
  rw [consume] at hc
  split at hc
  · simp at hc
  · rename_i window hwindow
    split at hc
    · rename_i hallowed
      split at hc
      · simp at hc
      · rename_i record hrecord
        split at hc
        · simp at hc
        · rename_i hfresh
          simp only [not_or, not_not, Nat.not_lt] at hfresh
          split at hc
          · simp at hc
          · cases hc
            exact ⟨rfl, record, hentry, hwindow, hallowed, hrecord, hfresh.1, hfresh.2.1,
              hfresh.2.2⟩
    · simp at hc

theorem wp_consumeObservation
    (hr : Running (.performAction input) h) (hresolved : .resolved input.sessionId session ∈ h)
    (hgranted : Granted runtime session input)
    {Q : Except CuaError ConsumedAction → List RuntimeEvent → Prop}
    (hok : ∀ consumed : ConsumedAction,
      Q (.ok consumed) (h ++ [.consumed ⟨input, consumed.window⟩]))
    (herror : ∀ error, Q (.error error) h) :
    wp (runtimeContract runtime) (runtime.consumeObservation session input) Q h := by
  simp only [consumeObservation, Async.wp_bind, Async.wp_atomic, Async.onOk_ok, Async.wp_ofExcept]
  intro _ s s' es outcome hb
  split at hb
  · contradiction
  · rename_i entry hentry
    split at hb
    · contradiction
    · generalize hc :
        runtime.consume session input s.now entry.guard.activity entry.state = out at hb
      obtain ⟨state', consumed⟩ := out
      cases hb
      cases consumed with
      | error error =>
          refine ⟨?_, by simpa [consumedEvents] using herror error⟩
          obtain rfl | rfl := consume_error hc
          · rw [RuntimeState.modifyTables_self hentry]
            exact .silent
          · exact .tables (.observationInvalidated hr.phase_eq hresolved hentry)
      | ok consumed =>
          obtain ⟨rfl, record, hconsumable⟩ := consume_ok hentry hc
          exact ⟨.tables (.consumed hr.phase_eq hresolved hgranted hconsumable), hok consumed⟩

theorem wp_checkGuard (sessionId : SessionId) (guard : DriverActionGuard)
    (hok : Q (.ok ()) (h ++ [.guard sessionId (.sawClosed false),
      .guard sessionId (.sawExpired false), .guard sessionId (.sawInterruption none)]))
    (herror : ∀ error es, (∀ x ∈ es, x.isQuiet = true) → Q (.error error) (h ++ es)) :
    wp (runtimeContract runtime) (onGuard sessionId guard.check) Q h := by
  refine wp_onGuard sessionId (wp_check guard ?_ ?_)
  · intro es hes
    obtain rfl := List.append_cancel_left hes
    exact hok
  · intro own e _ _ es hes
    exact herror _ _ (by simp [RuntimeEvent.isQuiet])

theorem wp_checkObservation (sessionId : SessionId) (guard : DriverActionGuard)
    (hQ : ∀ outcome, Q outcome h) :
    wp (runtimeContract runtime) (onGuard sessionId guard.checkObservation) Q h := by
  refine wp_onGuard sessionId ?_
  simp only [DriverActionGuard.checkObservation, Async.wp_bind, Async.wp_atomic, Async.onOk_ok,
    Async.wp_ofExcept]
  intro _ s s' es activity hb
  split at hb
  · contradiction
  · cases hb
    refine ⟨.silent, fun es hes => ?_⟩
    obtain rfl := List.append_cancel_left hes
    simpa using hQ _

theorem wp_verifyCurrent (session : Session) (guard : DriverActionGuard)
    (hr : Running command h)
    {Q : Except CuaError Bool → List RuntimeEvent → Prop}
    (hok : ∀ current es, Unmoved h (h ++ es) → .guard session.id (.sawClosed false) ∈ es →
      .guard session.id (.sawExpired false) ∈ es → Q (.ok current) (h ++ es))
    (herror : ∀ error h', Unmoved h h' → Q (.error error) h') :
    wp (runtimeContract runtime) (verifyCurrent session guard) Q h := by
  rw [verifyCurrent, Async.wp_bind]
  refine wp_askDriver _ fun outcome => ?_
  cases outcome with
  | error error => exact herror error h (.refl h)
  | ok current =>
      rw [Async.onOk_ok, Async.wp_bind]
      refine wp_checkGuard session.id guard ?_ fun error es hes =>
        herror error _ (.of_quiet hr.holds_eq hes)
      have hm : Unmoved h (h ++ [.guard session.id (.sawClosed false),
          .guard session.id (.sawExpired false), .guard session.id (.sawInterruption none)]) :=
        .of_quiet hr.holds_eq (by simp [RuntimeEvent.isQuiet])
      rw [Async.onOk_ok, Async.wp_bind]
      refine wp_checkObservation session.id guard fun outcome => ?_
      cases outcome with
      | error error => exact herror error _ hm
      | ok _ => exact hok current _ hm (by simp) (by simp)

theorem wp_verifyObservation
    (guard : DriverActionGuard) (hr : Running (.performAction input) h)
    (hresolved : .resolved input.sessionId session ∈ h)
    (hok : ∀ es, Unmoved h (h ++ es) → .guard session.id (.sawClosed false) ∈ es →
      .guard session.id (.sawExpired false) ∈ es → Q (.ok ()) (h ++ es))
    (herror : ∀ error h', Unmoved h h' → Q (.error error) h') :
    wp (runtimeContract runtime) (verifyObservation session input guard) Q h := by
  have hinvalidated : ∀ error h', Unmoved h h' → wp (runtimeContract runtime) (do
      invalidateObservation session input.observationId
      .fail error) Q h' := by
    intro error h' hm
    rw [Async.wp_bind]
    exact wp_updateTables _ (fun s entry hentry => .tables
      (.observationInvalidated (hm.running hr).phase_eq (hm.mem hresolved) hentry))
      fun _ => herror error h' hm
  rw [verifyObservation, Async.wp_bind, Async.wp_attempt]
  refine wp_verifyCurrent session guard hr (fun current es hm hopen hlive => ?_) hinvalidated
  cases current with
  | true => exact hok es hm hopen hlive
  | false => exact hinvalidated _ _ hm

theorem wp_prepareAction
    (guard : DriverActionGuard) (hr : Running (.performAction input) h)
    (hresolved : .resolved input.sessionId session ∈ h) (hgranted : Granted runtime session input)
    {Q : Except CuaError (ConsumedAction × DriverActionGuard) → List RuntimeEvent → Prop}
    (hok : ∀ (consumed : ConsumedAction) guard h', Unmoved h h' →
      ReadyFor session ⟨input, consumed.window⟩ h' → Q (.ok (consumed, guard)) h')
    (herror : ∀ error h', Unmoved h h' → Q (.error error) h') :
    wp (runtimeContract runtime) (runtime.prepareAction session input guard) Q h := by
  have hreleased : ∀ error h', Unmoved h h' → wp (runtimeContract runtime) (do
      unlockForeground input.action.requiresForeground
      .fail error) Q h' := by
    intro error h' hm
    rw [Async.wp_bind]
    exact wp_unlockForeground _ (herror error h' hm)
  refine (calm_waitUntilIdle _ guard).wp_bind hr herror fun _ h₁ hm => ?_
  refine (calm_lockForeground _).wp_bind (hm.running hr)
    (fun _ _ hm' => herror _ _ (hm.trans hm')) fun _ h₂ hm' => ?_
  replace hm := hm.trans hm'
  rw [Async.wp_bind, Async.wp_attempt, Async.wp_bind]
  refine wp_consumeObservation (hm.running hr) (hm.mem hresolved) hgranted (fun consumed => ?_)
    fun error => hreleased error h₂ hm
  have hconsumed : Unmoved h₂ (h₂ ++ [.consumed ⟨input, consumed.window⟩]) :=
    .of_quiet (hm.running hr).holds_eq (by simp [RuntimeEvent.isQuiet])
  have hm₃ := hm.trans hconsumed
  rw [Async.onOk_ok, Async.wp_bind]
  refine wp_verifyObservation _ (hm₃.running hr) (hm₃.mem hresolved) (fun es hm' hopen hlive => ?_)
    fun error h' hm' => hreleased error h' (hm₃.trans hm')
  refine hok consumed _ _ (hm₃.trans hm') ⟨h₂, es, by simp, hm.mem hresolved, hopen, hlive⟩

/-! ## Dispatch -/

theorem wp_callPerform (call : ActionCall) (session : Session) (action : DriverAction)
    (guard : DriverActionGuard) (hcalls : calls h = []) (hready : ReadyFor session call h)
    {Q : Except CuaError (Except DriverError DriverActionOutput) → List RuntimeEvent → Prop}
    (hQ : ∀ performed : PerformCall, performed.call = call →
      ∀ result, Q (.ok result) (h ++ [.performCalled performed, .performReturned result])) :
    wp (runtimeContract runtime) (callPerform call session action guard) Q h := by
  simp only [callPerform, Async.wp_bind, Async.wp_atomic, Async.onOk_ok]
  intro _ s s' es _ hb
  cases hb
  refine ⟨.report ⟨⟨hcalls, session, hready⟩, rfl⟩, ?_⟩
  intro reply s s' es result hb
  split at hb
  · cases hb
    refine ⟨.report ⟨_, List.mem_append_right _ (.head _)⟩, ?_⟩
    rw [List.append_assoc]
    exact hQ _ rfl _
  · contradiction

theorem wp_invalidateApplications (application : DriverApplication) {listed : List SessionId}
    (hlisted : .sessionsListed listed ∈ h) (sessionIds : List SessionId) (hr : Running command h)
    (hQ : ∀ h', Unmoved h h' →
      (∀ sessionId ∈ sessionIds, .applicationInvalidated sessionId application ∈ h') →
      Q (.ok ()) h') :
    wp (runtimeContract runtime) (invalidateApplications application sessionIds) Q h := by
  induction sessionIds generalizing h with
  | nil => exact hQ h (.refl h) (by simp)
  | cons sessionId rest ih =>
      rw [invalidateApplications, Async.wp_bind, Async.wp_atomic]
      intro _ s s' es _ hb
      cases hb
      have hm : Unmoved h (h ++ [.applicationInvalidated sessionId application]) :=
        .of_quiet hr.holds_eq (by simp [RuntimeEvent.isQuiet])
      refine ⟨.tables (.applicationInvalidated hlisted), ih (hm.mem hlisted) (hm.running hr) ?_⟩
      intro h' hm' hrest
      refine hQ h' (hm.trans hm') fun other hother => ?_
      rcases List.mem_cons.mp hother with rfl | hother
      · exact hm'.mem (by simp)
      · exact hrest other hother

theorem wp_invalidateAfterActionAttempt {performed : PerformCall}
    {result : Except DriverError DriverActionOutput} (hr : Running command h)
    (hresolved : .resolved performed.call.input.sessionId session ∈ h)
    (hreturned : .performReturned result ∈ h)
    (hQ : ∀ h', Unmoved h h' → Invalidated h' performed result → Q (.ok ()) h') :
    wp (runtimeContract runtime) (invalidateAfterActionAttempt session performed.call result)
      Q h := by
  rw [invalidateAfterActionAttempt]
  split
  · rename_i hterminated
    simp only [invalidateApplicationGeneration, Async.wp_bind, Async.wp_update, Async.wp_observe,
      Async.onOk_ok]
    refine fun s => ⟨.discovery (.terminated hreturned),
      fun s => ⟨.report ⟨rfl, result, hreturned⟩, ?_⟩⟩
    have hm : Unmoved h (h ++ [.sessionsListed s.sessions]) :=
      .of_quiet hr.holds_eq (by simp [RuntimeEvent.isQuiet])
    have hlisted : .sessionsListed s.sessions ∈ h ++ [.sessionsListed s.sessions] := by simp
    refine wp_invalidateApplications _ hlisted _ (hm.running hr) fun h' hm' hall => ?_
    refine hQ h' (hm.trans hm') ⟨session, (hm.trans hm').mem hresolved, ?_⟩
    rw [if_pos hterminated]
    exact ⟨s.sessions, hm'.mem hlisted, hall⟩
  · rename_i hterminated
    rw [invalidateWindow, Async.wp_atomic]
    intro _ s s' es _ hb
    cases hb
    have hm : Unmoved h (h ++ [.windowInvalidated session.id performed.call.input.windowRef]) :=
      .of_quiet hr.holds_eq (by simp [RuntimeEvent.isQuiet])
    refine ⟨.tables (.windowInvalidated hreturned), hQ _ hm ⟨session, hm.mem hresolved, ?_⟩⟩
    rw [if_neg hterminated]
    simp

theorem projectActionOutput_error {requiresForeground supportsRestoration : Bool}
    {result : DriverActionOutput}
    (he : projectActionOutput session requiresForeground supportsRestoration result =
      .error error) : error.mutationStatus = .indeterminate := by
  rw [projectActionOutput] at he
  split at he
  · cases he
    rfl
  · simp only at he
    split at he
    · cases he
      rfl
    · split at he
      · cases he
        rfl
      · contradiction

theorem wp_dispatchAction
    {consumed : ConsumedAction} (guard : DriverActionGuard)
    (hs : Started (.performAction input) h) (hready : ReadyFor session ⟨input, consumed.window⟩ h)
    {Q : Except CuaError ActionOutput → List RuntimeEvent → Prop}
    (hQ : ∀ outcome h', ActionSpec input outcome h' → Q outcome h') :
    wp (runtimeContract runtime) (dispatchAction session input consumed guard) Q h := by
  simp only [dispatchAction]
  rw [Async.wp_bind]
  refine wp_callPerform _ session consumed.action guard hs.calls_eq hready
    fun performed hcall result => ?_
  generalize hh₁ : h ++ [.performCalled performed, .performReturned result] = h₁
  have hview : view h₁ = view h := by
    rw [← hh₁, view_append]
    rfl
  have hr : Running (.performAction input) h₁ :=
    ⟨(congrArg TaskView.phase hview).trans hs.phase_eq,
      (congrArg TaskView.holds hview).trans hs.holds_eq⟩
  have hissued : (view h₁).issued = none := (congrArg TaskView.issued hview).trans hs.issued_eq
  have hmade : calls h₁ = [.performCalled performed, .performReturned result] := by
    rw [← hh₁, calls_append, hs.calls_eq]
    rfl
  have hresolved : .resolved performed.call.input.sessionId session ∈ h₁ := by
    obtain ⟨before, after, rfl, hbefore, -⟩ := hready
    rw [← hh₁, hcall]
    simp [hbefore]
  rw [Async.onOk_ok, Async.wp_bind, ← hcall]
  refine wp_invalidateAfterActionAttempt hr hresolved (by simp [← hh₁]) fun h₂ hm hinvalidated => ?_
  have hspec : ∀ outcome,
      (∀ error, outcome = .error error → Disposed h₂ (notDispatchedByDefault error)) →
      ActionSpec input outcome h₂ := by
    intro outcome hdisposed
    refine ⟨hm.running hr, hm.issued_eq.trans hissued, hdisposed,
      fun call hcall' => ⟨result, ?_, ?_⟩⟩
    · exact hm.mem (by simp [← hh₁])
    · have hmem := mem_calls hcall'
      rw [hm.calls_eq, hmade] at hmem
      simp only [List.mem_cons, RuntimeEvent.performCalled.injEq, reduceCtorEq, List.not_mem_nil,
        or_false] at hmem
      rw [hmem]
      exact hinvalidated
  have hmade₂ := hm.calls_eq.trans hmade
  rw [Async.onOk_ok, Async.wp_bind]
  refine wp_unlockForeground _ ?_
  rw [Async.onOk_ok, Async.wp_bind, Async.wp_ofExcept]
  cases result with
  | error cause =>
      refine hQ _ _ (hspec _ fun error herror => ?_)
      cases herror
      rw [Disposed, hmade₂]
      exact notDispatchedByDefault_admitted cause
  | ok output =>
      simp only [admittedActionResult, admittedResult, Except.mapError, Async.onOk_ok,
        Async.wp_ofExcept]
      refine hQ _ _ (hspec _ fun error herror => ?_)
      rw [Disposed, hmade₂]
      exact notDispatchedByDefault_indeterminate (projectActionOutput_error herror)

theorem wp_performActionOnly (input : PerformActionInput) (hs : Started (.performAction input) h)
    (hpolicy : runtime.config.policy.authorize (.performAction input) = .ok ())
    (hafter : runtime.authorizeAfter input = .ok ())
    {Q : Except CuaError ActionOutput → List RuntimeEvent → Prop}
    (hQ : ∀ outcome h', ActionSpec input outcome h' → Q outcome h') :
    wp (runtimeContract runtime) (runtime.performActionOnly input) Q h := by
  have hrefused : ∀ error h', Unmoved h h' → Q (.error error) h' := fun error h' hm =>
    hQ _ _ (.uncalled (hm.started hs))
  have hr := hs.toRunning
  rw [performActionOnly, Async.wp_bind]
  refine wp_resolveSession _ hr (fun session h₁ hm hresolved => ?_) hrefused
  rw [Async.onOk_ok, Async.wp_bind]
  refine wp_validateActionAuthority session input.action (hm.running hr)
    (fun h₂ hm' hgrants => ?_) fun _ _ hm' => hrefused _ _ (hm.trans hm')
  replace hm := hm.trans hm'
  replace hresolved := hm'.mem hresolved
  refine (calm_actionGuard _).wp_bind (hm.running hr)
    (fun _ _ hm' => hrefused _ _ (hm.trans hm')) fun guard h₃ hm' => ?_
  replace hm := hm.trans hm'
  replace hresolved := hm'.mem hresolved
  rw [Async.wp_bind, Async.wp_attempt]
  refine wp_prepareAction guard (hm.running hr) hresolved ⟨hpolicy, hafter, hgrants⟩ ?_ ?_
  · intro consumed guard h₄ hm' hready
    exact wp_dispatchAction guard ((hm.trans hm').started hs) hready hQ
  · intro error h₄ hm'
    replace hm := hm.trans hm'
    exact (calm_dropGuard _ guard).wp_bind (hm.running hr)
      (fun _ _ hm' => hrefused _ _ (hm.trans hm')) fun _ _ hm' => hrefused _ _ (hm.trans hm')

/-! ## The observation after an action -/

theorem calm_settleForScreenshot (input : ObserveWindowInput) :
    Calm runtime command (settleForScreenshot input) := by
  rw [settleForScreenshot]
  split
  · refine (calm_resolveSession _).bind fun session => (calm_readTables _ _).bind fun window => ?_
    cases window with
    | none => exact .fail _
    | some window => exact calm_askDriver _
  · exact .pure _

theorem wp_observeAfterAction (input : ObserveWindowInput) (applicationScene : Bool)
    (hr : Running command h) {Q : Except CuaError WindowObservation → List RuntimeEvent → Prop}
    (hQ : ∀ outcome h', Settled h h' → Q outcome h') :
    wp (runtimeContract runtime) (runtime.observeAfterAction input applicationScene) Q h := by
  refine (calm_settleForScreenshot input).wp_bind hr (fun _ _ hm => hQ _ _ hm.settled)
    fun _ h₁ hm => ?_
  exact wp_observeWindow input applicationScene (hm.running hr)
    fun _ _ hs _ => hQ _ _ (hm.settled.trans hs)

theorem wp_performAction (input : PerformActionInput) (hs : Started (.performAction input) h)
    (hpolicy : runtime.config.policy.authorize (.performAction input) = .ok ())
    {Q : Except CuaError CommandResult → List RuntimeEvent → Prop}
    (hQ : ∀ outcome h', MutationSpec (.performAction input) outcome h' → Q outcome h') :
    wp (runtimeContract runtime) (runtime.performAction input) Q h := by
  rw [performAction, Async.wp_bind, Async.wp_ofExcept]
  cases hafter : runtime.authorizeAfter input with
  | error error => exact hQ _ _ (.uncalled hs)
  | ok _ =>
      rw [Async.onOk_ok, Async.wp_bind]
      refine wp_performActionOnly input hs hpolicy hafter fun outcome h₁ hspec => ?_
      cases outcome with
      | error error =>
          exact hQ _ _ ⟨hspec.running, by simp, by simpa using hspec.disposed, hspec.invalidated,
            by simp [hspec.issued_eq, Issues]⟩
      | ok output =>
          -- Whatever the read brings, the action has been performed.
          have hdone : ∀ (output : ActionOutput) h', Settled h₁ h' →
              Q (.ok (.actionPerformed output)) h' := by
            intro output h' hs
            refine hQ _ _ ⟨hs.running hspec.running, fun result hresult => ?_, by simp,
              fun call hcall => ?_, by simp [hs.issued_eq, hspec.issued_eq, Issues]⟩
            · exact ⟨output, (Except.ok.inj hresult).symm⟩
            · have hmem := mem_calls hcall
              rw [hs.calls_eq] at hmem
              obtain ⟨result, hreturned, hinvalidated⟩ :=
                hspec.invalidated call (List.mem_filter.mp hmem).1
              exact ⟨result, hs.grown.subset hreturned, hinvalidated.mono hs.grown⟩
          rw [Async.onOk_ok]
          split
          · exact hdone output h₁ (.refl h₁)
          · rw [Async.wp_bind, Async.wp_attempt]
            refine wp_observeAfterAction _ _ hspec.running fun observed h' hs => ?_
            cases observed with
            | ok observation => exact hdone _ h' hs
            | error error => exact hdone _ h' hs

end RuntimeService

end NexusCua.Runtime
