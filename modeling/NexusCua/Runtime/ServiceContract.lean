import NexusCua.Runtime.ServiceEffect

/-!
# The runtime keeps its contract

Every program of the runtime is shown to do nothing but what `RuntimeEffect`
allows.  Most operations of a command are calm: they leave the ghost state of a
task that owes nothing as it is, whatever they return.  The others, which store
a screenshot, make a capture, use the clipboard or call a mutating entry point
of the driver, get a specification each.
-/

namespace NexusCua.Runtime

open NexusCua.Foundation NexusCua.Protocol
open NexusCua.Foundation.Async (wp)

variable {runtime : RuntimeService} {command : Command} {χ χ' α β : Type} {h : List RuntimeEvent}

instance : Nonempty RuntimeReply := ⟨.none⟩

/-! ## Calm programs -/

structure Running (command : Command) (h : List RuntimeEvent) : Prop where
  phase_eq : phase h = .running command
  holds_eq : holds h = []

/-- The task has moved on without a change of its ghost state and without a call. -/
structure Unmoved (h h' : List RuntimeEvent) : Prop where
  grown : h <+: h'
  view_eq : view h' = view h
  calls_eq : calls h' = calls h

namespace Unmoved

variable {h' h'' : List RuntimeEvent}

theorem refl (h : List RuntimeEvent) : Unmoved h h := ⟨List.prefix_rfl, rfl, rfl⟩

theorem trans (hm : Unmoved h h') (hm' : Unmoved h' h'') : Unmoved h h'' :=
  ⟨hm.grown.trans hm'.grown, hm'.view_eq.trans hm.view_eq, hm'.calls_eq.trans hm.calls_eq⟩

theorem of_quiet (hh : holds h = []) {es : List RuntimeEvent}
    (hes : ∀ x ∈ es, x.isQuiet = true) : Unmoved h (h ++ es) :=
  ⟨List.prefix_append h es, view_quiet hh hes, calls_quiet hes⟩

theorem running (hm : Unmoved h h') (hr : Running command h) : Running command h' where
  phase_eq := (congrArg TaskView.phase hm.view_eq).trans hr.phase_eq
  holds_eq := (congrArg TaskView.holds hm.view_eq).trans hr.holds_eq

theorem lane_eq (hm : Unmoved h h') : lane h' = lane h := congrArg TaskView.lane hm.view_eq

theorem issued_eq (hm : Unmoved h h') : (view h').issued = (view h).issued :=
  congrArg TaskView.issued hm.view_eq

theorem mem (hm : Unmoved h h') {x : RuntimeEvent} (hx : x ∈ h) : x ∈ h' := hm.grown.subset hx

end Unmoved

/-- The program changes no ghost state of a task that owes nothing, and makes no call. -/
def Calm (runtime : RuntimeService) (command : Command) (p : RuntimeProgram χ α) : Prop :=
  ∀ v made, v.phase = .running command ∧ v.holds = [] →
    Async.Steady (runtimeContract runtime) (fun h => view h = v ∧ calls h = made) p

namespace Calm

variable {p : RuntimeProgram χ α}

theorem pure (value : α) : Calm runtime command (Pure.pure value : RuntimeProgram χ α) :=
  fun _ _ _ => .pure value

theorem fail (error : χ) : Calm runtime command (.fail error : RuntimeProgram χ α) :=
  fun _ _ _ => .fail error

theorem ofExcept (outcome : Except χ α) :
    Calm runtime command (Async.ofExcept outcome : RuntimeProgram χ α) :=
  fun _ _ _ => .ofExcept outcome

theorem bind (hp : Calm runtime command p) {rest : α → RuntimeProgram χ β}
    (hrest : ∀ value, Calm runtime command (rest value)) : Calm runtime command (p >>= rest) :=
  fun v made hv => (hp v made hv).bind fun value => hrest value v made hv

theorem attempt (hp : Calm runtime command p) :
    Calm runtime command (p.attempt : RuntimeProgram χ' (Except χ α)) :=
  fun v made hv => (hp v made hv).attempt

theorem of_wp (hp : ∀ h Q, Running command h → (∀ outcome h', Unmoved h h' → Q outcome h') →
    Async.wp (runtimeContract runtime) p Q h) : Calm runtime command p := by
  rintro v made ⟨hphase, hholds⟩ h ⟨rfl, rfl⟩
  exact hp h _ ⟨hphase, hholds⟩ fun _ _ hm => ⟨hm.view_eq, hm.calls_eq⟩

theorem wp {Q : Except χ α → List RuntimeEvent → Prop} (hp : Calm runtime command p)
    (hr : Running command h) (hQ : ∀ outcome h', Unmoved h h' → Q outcome h') :
    wp (runtimeContract runtime) p Q h :=
  Async.wp_mono (hp (view h) (calls h) ⟨hr.phase_eq, hr.holds_eq⟩ h ⟨rfl, rfl⟩)
    fun outcome es hes =>
    hQ outcome _ ⟨List.prefix_append h es, hes.1, hes.2⟩

theorem wp_bind (hp : Calm runtime command p) {rest : α → RuntimeProgram χ β}
    (hr : Running command h) {Q : Except χ β → List RuntimeEvent → Prop}
    (herror : ∀ error h', Unmoved h h' → Q (.error error) h')
    (hok : ∀ value h', Unmoved h h' → Async.wp (runtimeContract runtime) (rest value) Q h') :
    Async.wp (runtimeContract runtime) (p >>= rest) Q h := by
  rw [Async.wp_bind]
  refine hp.wp hr fun outcome h' hm => ?_
  cases outcome with
  | ok value => exact hok value h' hm
  | error error => exact herror error h' hm

theorem atomic {block : RuntimeReply → RuntimeState →
      Option (RuntimeState × List RuntimeEvent × α)}
    (hblock : ∀ h i s s' es b, Running command h → block i s = some (s', es, b) →
      RuntimeEffect runtime h s es s' ∧ ∀ x ∈ es, x.isQuiet = true) :
    Calm runtime command (Async.atomic block : RuntimeProgram χ α) := by
  refine .of_wp fun h Q hr hQ => ?_
  rw [Async.wp_atomic]
  intro i s s' es b hb
  obtain ⟨heffect, hquiet⟩ := hblock h i s s' es b hr hb
  exact ⟨heffect, hQ _ _ (.of_quiet hr.holds_eq hquiet)⟩

theorem update {f : RuntimeState → RuntimeState × α}
    (hf : ∀ h s, RuntimeEffect runtime h s [] (f s).1) :
    Calm runtime command (Async.update f : RuntimeProgram χ α) := by
  refine .atomic fun h i s s' es b _ hb => ?_
  cases hb
  exact ⟨hf h s, by simp⟩

theorem receive (f : RuntimeReply → Option α) :
    Calm runtime command (Async.receive f : RuntimeProgram χ α) := by
  refine .atomic fun h i s s' es b _ hb => ?_
  obtain ⟨value, -, hout⟩ := Option.map_eq_some_iff.mp hb
  cases hout
  exact ⟨.silent, by simp⟩

end Calm

/-! ## Service operations -/

theorem calm_askDriver (reply : RuntimeReply → Option (Except DriverError α)) :
    Calm runtime command (askDriver reply) :=
  (Calm.receive reply).bind fun _ => .ofExcept _

variable {Q : Except CuaError α → List RuntimeEvent → Prop}

theorem wp_askDriver (reply : RuntimeReply → Option (Except DriverError α))
    (hQ : ∀ outcome, Q outcome h) :
    wp (runtimeContract runtime) (askDriver reply) Q h := by
  simp only [askDriver, Async.wp_bind, Async.wp_receive, Async.onOk_ok, Async.wp_ofExcept]
  exact fun _ s outcome _ => ⟨.silent, hQ _⟩

theorem wp_askListing (event : α → RuntimeEvent)
    (htruthful : ∀ h s listed, RuntimeTruthful runtime h s (event listed))
    (reply : RuntimeReply → Option (Except DriverError α))
    (hok : ∀ listed, Q (.ok listed) (h ++ [event listed])) (herror : ∀ error, Q (.error error) h) :
    wp (runtimeContract runtime) (askListing event reply) Q h := by
  simp only [askListing, Async.wp_bind, Async.wp_atomic, Async.onOk_ok, Async.wp_ofExcept]
  intro i s s' es outcome hb
  split at hb
  · contradiction
  · cases hb
    exact ⟨.report (htruthful h s _), hok _⟩
  · cases hb
    exact ⟨.silent, by simpa [Except.mapError] using herror _⟩

theorem wp_listApplications
    {Q : Except CuaError (List DriverApplication) → List RuntimeEvent → Prop}
    (hok : ∀ listed, Q (.ok listed) (h ++ [.applicationsListed listed]))
    (herror : ∀ error, Q (.error error) h) :
    wp (runtimeContract runtime) listApplications Q h :=
  wp_askListing .applicationsListed (fun _ _ _ => trivial) _ hok herror

theorem wp_listLaunchableApplications
    {Q : Except CuaError (List DriverLaunchableApplication) → List RuntimeEvent → Prop}
    (hok : ∀ listed, Q (.ok listed) (h ++ [.launchablesListed listed]))
    (herror : ∀ error, Q (.error error) h) :
    wp (runtimeContract runtime) listLaunchableApplications Q h :=
  wp_askListing .launchablesListed (fun _ _ _ => trivial) _ hok herror

theorem calm_listApplications : Calm runtime command listApplications :=
  .of_wp fun h _ hr hQ => wp_listApplications
    (fun _ => hQ _ _ (.of_quiet hr.holds_eq (by simp [RuntimeEvent.isQuiet])))
    fun _ => hQ _ h (.refl h)

theorem calm_listLaunchableApplications : Calm runtime command listLaunchableApplications :=
  .of_wp fun h _ hr hQ => wp_listLaunchableApplications
    (fun _ => hQ _ _ (.of_quiet hr.holds_eq (by simp [RuntimeEvent.isQuiet])))
    fun _ => hQ _ h (.refl h)

theorem wp_lockScheduler {update : RuntimeState → RuntimeState} {done : RuntimeEvent}
    (hdone : ∀ s, s.schedulerPoisoned = false →
      RuntimeEffect runtime h s [.schedulerLocked false, done] (update s))
    {Q : Except CuaError Unit → List RuntimeEvent → Prop}
    (hok : Q (.ok ()) (h ++ [.schedulerLocked false, done]))
    (herror : Q (.error runtimeUnavailable) (h ++ [.schedulerLocked true])) :
    wp (runtimeContract runtime) (lockScheduler update done) Q h := by
  simp only [lockScheduler, Async.wp_bind, Async.wp_atomic, Async.onOk_ok]
  intro _ s s' es poisoned hb
  split at hb
  · rename_i hpoisoned
    cases hb
    exact ⟨.report ⟨rfl, hpoisoned⟩, herror⟩
  · rename_i hpoisoned
    cases hb
    exact ⟨hdone s (by simpa using hpoisoned), hok⟩

theorem wp_signalReschedule (hr : Running command h)
    {Q : Except CuaError Unit → List RuntimeEvent → Prop}
    (hok : Q (.ok ()) (h ++ [.schedulerLocked false, .rescheduled]))
    (herror : Q (.error runtimeUnavailable) (h ++ [.schedulerLocked true])) :
    wp (runtimeContract runtime) signalReschedule Q h :=
  wp_lockScheduler (fun _ hpoisoned => .control (.rescheduled hr.phase_eq hpoisoned)) hok herror

theorem calm_signalReschedule : Calm runtime command signalReschedule :=
  .of_wp fun _ _ hr hQ => wp_signalReschedule hr
    (hQ _ _ (.of_quiet hr.holds_eq (by simp [RuntimeEvent.isQuiet])))
    (hQ _ _ (.of_quiet hr.holds_eq (by simp [RuntimeEvent.isQuiet])))

theorem calm_readTables (sessionId : SessionId) (read : SessionState → α) :
    Calm runtime command (readTables sessionId read : RuntimeProgram χ α) := by
  refine .atomic fun h i s s' es b _ hb => ?_
  split at hb
  · contradiction
  · cases hb
    exact ⟨.silent, by simp⟩

theorem wp_updateTables (sessionId : SessionId)
    {update : Nat → SessionState → α × Nat × SessionState}
    (hupdate : ∀ s entry, s.heap.lookup sessionId = some entry →
      RuntimeEffect runtime h s []
        { s.modifyTables sessionId fun _ => (update s.issued entry.state).2.2 with
          issued := (update s.issued entry.state).2.1 })
    {Q : Except χ α → List RuntimeEvent → Prop} (hQ : ∀ value, Q (.ok value) h) :
    wp (runtimeContract runtime) (updateTables sessionId update : RuntimeProgram χ α) Q h := by
  rw [updateTables, Async.wp_atomic]
  intro _ s s' es value hb
  split at hb
  · contradiction
  · rename_i entry hentry
    cases hb
    exact ⟨hupdate s entry hentry, by simpa using hQ _⟩

/-! ### Guards -/

section

variable (sessionId : SessionId)

theorem wp_onGuard {operation : GuardProgram α}
    (hop : wp (guardContract false) operation
      (fun outcome own => ∀ es, own = (guardEmbedding sessionId).own h ++ es →
        Q (outcome.mapError DriverError.toCuaError) (h ++ es.map (.guard sessionId)))
      ((guardEmbedding sessionId).own h)) :
    wp (runtimeContract runtime) (onGuard sessionId operation) Q h := by
  rw [onGuard, Async.wp_mapError]
  refine Async.wp_embed (guardEmbedding sessionId) ?_ hop
  intro h s inner es inner' hlook hguard
  obtain ⟨entry, hentry, rfl⟩ := Option.map_eq_some_iff.mp hlook
  exact .guard hentry hguard

theorem calm_onGuard {operation : GuardProgram α}
    (hop : ∀ own, wp (guardContract false) operation (fun _ _ => True) own) :
    Calm runtime command (onGuard sessionId operation) := by
  refine .of_wp fun h Q hr hQ => ?_
  refine wp_onGuard sessionId (Async.wp_mono (hop _) fun outcome tail _ es hes => ?_)
  exact hQ _ _ (.of_quiet hr.holds_eq (by simp [RuntimeEvent.isQuiet]))

theorem calm_actionGuard :
    Calm runtime command (actionGuard sessionId) := by
  refine calm_onGuard sessionId fun own => ?_
  rw [Async.wp_update]
  exact fun s => ⟨.actionGuard, trivial⟩

theorem calm_dropGuard (guard : DriverActionGuard) :
    Calm runtime command (dropGuard sessionId guard) :=
  calm_onGuard sessionId fun _ => wp_releaseLease _ _ fun _ _ => trivial

theorem calm_checkGuard (guard : DriverActionGuard) :
    Calm runtime command (onGuard sessionId guard.check) :=
  calm_onGuard sessionId fun _ => wp_check guard trivial fun _ _ _ _ => trivial

theorem calm_waitUntilIdle (guard : DriverActionGuard) :
    Calm runtime command (waitUntilIdle sessionId guard) := by
  refine Calm.bind (.receive _) fun polls => calm_onGuard sessionId fun own => ?_
  simp only [DriverActionGuard.waitUntilIdle, Async.wp_bind, Async.wp_read, Async.onOk_ok]
  exact fun _ => ⟨.silent, wp_waitForIdle _ _ _ fun _ _ => trivial⟩

/-- What `isRevoked` reports: an open session, or the reason it is not. -/
theorem wp_isRevoked
    {Q : Except CuaError Bool → List RuntimeEvent → Prop}
    (hclosed : Q (.ok true) (h ++ [.guard sessionId (.sawClosed true)]))
    (hopen : ∀ expired, Q (.ok expired)
      (h ++ [.guard sessionId (.sawClosed false), .guard sessionId (.sawExpired expired)])) :
    wp (runtimeContract runtime) (isRevoked sessionId) Q h := by
  refine wp_onGuard sessionId ?_
  simp only [DriverActionGuard.isRevoked, Async.wp_bind, Async.wp_observe, Async.onOk_ok]
  intro s
  refine ⟨.saw rfl, ?_⟩
  cases hs : s.closed with
  | true =>
      intro es hes
      obtain rfl := List.append_cancel_left hes
      exact hclosed
  | false =>
      simp only [Bool.false_eq_true, if_false, Async.wp_observe]
      refine fun s => ⟨.saw rfl, fun es hes => ?_⟩
      rw [List.append_assoc] at hes
      obtain rfl := List.append_cancel_left hes
      exact hopen _

theorem calm_isRevoked : Calm runtime command (isRevoked sessionId) :=
  .of_wp fun _ _ hr hQ => wp_isRevoked sessionId
    (hQ _ _ (.of_quiet hr.holds_eq (by simp [RuntimeEvent.isQuiet])))
    fun _ => hQ _ _ (.of_quiet hr.holds_eq (by simp [RuntimeEvent.isQuiet]))

end

/-! ### Removal -/

theorem wp_removeSessionArtifacts (sessionId : SessionId)
    {Q : Except χ Unit → List RuntimeEvent → Prop}
    (hQ : Q (.ok ()) (h ++ [.indexRemoved sessionId, .directoryRemoved sessionId])) :
    wp (runtimeContract runtime)
      (removeSessionArtifacts sessionId : RuntimeProgram χ Unit) Q h := by
  simp only [removeSessionArtifacts, Async.wp_bind, Async.wp_atomic, Async.onOk_ok]
  intro _ s s' es _ hb
  cases hb
  refine ⟨.store .indexRemoved, ?_⟩
  intro _ s s' es _ hb
  cases hb
  exact ⟨.store .directoryRemoved, by simpa using hQ⟩

theorem view_removed (h : List RuntimeEvent) (sessionId : SessionId) :
    view (h ++ [.indexRemoved sessionId, .directoryRemoved sessionId]) =
      { view h with holds := (holds h).filter fun hold => hold ≠ .clearing sessionId ∧
          hold ≠ .removing sessionId ∧ hold ≠ .registered sessionId } := by
  simp [view_append, TaskView.next, nextHolds, Phase.next, nextCapture, Lane.next, nextIssued,
    List.filter_filter]

theorem calls_removed (h : List RuntimeEvent) (sessionId : SessionId) :
    calls (h ++ [.indexRemoved sessionId, .directoryRemoved sessionId]) = calls h := by
  simp [calls, RuntimeEvent.isCall]

theorem wp_removeAllArtifacts (sessionIds : List SessionId)
    {Q : Except χ Unit → List RuntimeEvent → Prop}
    (hh : ∀ hold ∈ holds h, ∃ sessionId ∈ sessionIds, hold = .removing sessionId)
    (hQ : ∀ h', view h' = { view h with holds := [] } → Q (.ok ()) h') :
    wp (runtimeContract runtime) (removeAllArtifacts sessionIds : RuntimeProgram χ Unit) Q h := by
  induction sessionIds generalizing h with
  | nil =>
      have hnone : holds h = [] := List.eq_nil_iff_forall_not_mem.mpr fun hold hhold => by
        simpa using hh hold hhold
      rw [removeAllArtifacts, Async.wp_pure]
      exact hQ h (by rw [← hnone])
  | cons sessionId rest ih =>
      rw [removeAllArtifacts, Async.wp_bind]
      refine wp_removeSessionArtifacts sessionId (ih ?_ fun h' hview => ?_)
      · intro hold hhold
        simp only [holds, view_removed, List.mem_filter, decide_eq_true_eq] at hhold
        obtain ⟨hmem, -, hne, -⟩ := hhold
        obtain ⟨other, hother, rfl⟩ := hh hold hmem
        rcases List.mem_cons.mp hother with rfl | hother
        · contradiction
        · exact ⟨other, hother, rfl⟩
      · exact hQ h' (by rw [hview, view_removed])

/-! ### Sessions -/

section

variable (h : List RuntimeEvent) (s : RuntimeState) (sessionIds : List SessionId)

theorem Hold.close_map_closing :
    (sessionIds.map Hold.closing).map (Hold.close sessionIds) = sessionIds.map .removing := by
  rw [List.map_map]
  exact List.map_congr_left fun sessionId hmem => if_pos hmem

theorem view_closing :
    view (h ++ closingEvents s sessionIds) =
      { view h with holds := (holds h).map (Hold.close sessionIds) } := by
  rw [closingEvents, List.append_cons, view_append]
  induction sessionIds.filter s.isOpen with
  | nil => rw [List.map_nil, List.foldl_nil, view_snoc]; rfl
  | cons _ _ ih => exact ih

theorem calls_closing :
    calls (h ++ closingEvents s sessionIds) = calls h := by
  rw [closingEvents, calls_append]
  induction sessionIds.filter s.isOpen with
  | nil => simp [calls, RuntimeEvent.isCall]
  | cons _ _ ih => exact ih

theorem view_reaped (hh : holds h = []) :
    view (h ++ .unmapped sessionIds :: closingEvents s sessionIds) =
      { view h with holds := sessionIds.map .removing } := by
  rw [List.append_cons, view_closing, holds, view_snoc, ← Hold.close_map_closing]
  simp [TaskView.next, nextHolds, hh, Phase.next, nextCapture, Lane.next, nextIssued]

theorem calls_reaped :
    calls (h ++ .unmapped sessionIds :: closingEvents s sessionIds) = calls h := by
  rw [List.append_cons, calls_closing]
  simp [calls, RuntimeEvent.isCall]

end

theorem unmoved_removed {h' : List RuntimeEvent} {sessionId : SessionId} (hh : holds h = [])
    (hgrown : h <+: h') (hview : view h' = { view h with holds := [.removing sessionId] })
    (hcalls : calls h' = calls h) :
    Unmoved h (h' ++ [.indexRemoved sessionId, .directoryRemoved sessionId]) where
  grown := hgrown.trans (List.prefix_append _ _)
  view_eq := by
    have hnothing : { view h with holds := [] } = view h := by rw [← hh]
    rw [view_removed, holds, hview]
    simpa using hnothing
  calls_eq := by rw [calls_removed, hcalls]

theorem wp_resolveSession (sessionId : SessionId) (hr : Running command h)
    {Q : Except CuaError Session → List RuntimeEvent → Prop}
    (hok : ∀ session h', Unmoved h h' → .resolved sessionId session ∈ h' → Q (.ok session) h')
    (herror : ∀ error h', Unmoved h h' → Q (.error error) h') :
    wp (runtimeContract runtime) (resolveSession sessionId) Q h := by
  simp only [resolveSession, lookupSession, Async.wp_bind, Async.wp_atomic, Async.onOk_ok]
  intro _ s s' es found hb
  split at hb
  · rename_i hmapped
    split at hb
    · contradiction
    · rename_i entry hentry
      split at hb
      · rename_i hexpired
        cases hb
        refine ⟨.session (.expired hr.phase_eq (by simpa using hmapped) hentry hexpired), ?_⟩
        simp only [Async.wp_bind]
        refine wp_removeSessionArtifacts sessionId ?_
        have hremoved := unmoved_removed hr.holds_eq (List.prefix_append h _)
          (view_reaped h s [sessionId] hr.holds_eq) (calls_reaped h s [sessionId])
        rw [Async.onOk_ok, Async.wp_bind]
        refine calm_signalReschedule.wp (hremoved.running hr) fun outcome h' hm => ?_
        cases outcome <;> exact herror _ _ (hremoved.trans hm)
      · rename_i hlive
        cases hb
        refine ⟨.report ?_, hok entry.session _ (.of_quiet hr.holds_eq ?_) (by simp)⟩
        · exact ⟨by simpa using hmapped, entry, hentry, rfl, by simpa using hlive⟩
        · simp [RuntimeEvent.isQuiet]
  · cases hb
    exact ⟨.silent, herror _ _ (.of_quiet hr.holds_eq (by simp))⟩

theorem calm_resolveSession (sessionId : SessionId) :
    Calm runtime command (resolveSession sessionId) :=
  .of_wp fun _ _ hr hQ => wp_resolveSession sessionId hr (fun _ _ hm _ => hQ _ _ hm)
    fun _ _ hm => hQ _ _ hm

theorem wp_authorizedWindow (session : Session) (windowRef : WindowRef) (hr : Running command h)
    {Q : Except CuaError DriverWindow → List RuntimeEvent → Prop}
    (hok : ∀ window h', Unmoved h h' → .windowFound session.id windowRef window ∈ h' →
      Q (.ok window) h')
    (herror : ∀ error h', Unmoved h h' → Q (.error error) h') :
    wp (runtimeContract runtime) (authorizedWindow session windowRef) Q h := by
  simp only [authorizedWindow, findWindow, Async.wp_bind, Async.wp_atomic, Async.onOk_ok]
  intro _ s s' es found hb
  split at hb
  · contradiction
  · rename_i entry hentry
    split at hb
    · cases hb
      exact ⟨.silent, herror _ _ (.of_quiet hr.holds_eq (by simp))⟩
    · rename_i window hwindow
      cases hb
      have hm : Unmoved h (h ++ [.windowFound session.id windowRef window]) :=
        .of_quiet hr.holds_eq (by simp [RuntimeEvent.isQuiet])
      refine ⟨.report ⟨entry, hentry, hwindow⟩, ?_⟩
      simp only
      split
      · exact hok window _ hm (by simp)
      · exact herror _ _ hm

theorem calm_authorizedWindow (session : Session) (windowRef : WindowRef) :
    Calm runtime command (authorizedWindow session windowRef) :=
  .of_wp fun _ _ hr hQ => wp_authorizedWindow session windowRef hr (fun _ _ hm _ => hQ _ _ hm)
    fun _ _ hm => hQ _ _ hm

end NexusCua.Runtime
