import NexusCua.Runtime.ActionContract

/-!
# The runtime as a system keeps the contract

Execution of a command, shutdown, the expiration loop, the drop of the runtime
and the driver's use of its guards.
-/

namespace NexusCua.Runtime

open NexusCua.Foundation NexusCua.Protocol
open NexusCua.Foundation.Async (wp)

variable {runtime : RuntimeService} {command : Command} {χ α : Type} {h : List RuntimeEvent}

/-! ## Execute -/

theorem Published.mono {h' : List RuntimeEvent} {input : ObserveWindowInput}
    {observation : WindowObservation} (hp : Published h input observation) (hgrown : h <+: h') :
    Published h' input observation := by
  obtain ⟨session, record, hresolved, hpublished, hrecord⟩ := hp
  exact ⟨session, record, hgrown.subset hresolved, hgrown.subset hpublished, hrecord⟩

variable {outcome : Except CuaError CommandResult}

theorem Observed.mono {h' : List RuntimeEvent}
    (ho : Observed h command outcome) (hgrown : h <+: h') : Observed h' command outcome := by
  rw [Observed.eq_def] at ho ⊢
  split at ho
  · exact ho.mono hgrown
  · exact ho.mono hgrown
  · trivial

theorem calls_left (h : List RuntimeEvent) : calls (h ++ [.left]) = calls h := by
  simp [calls, RuntimeEvent.isCall]

theorem view_left (h : List RuntimeEvent) :
    view (h ++ [.left]) = { view h with phase := .left } := by
  rw [view_snoc]
  rfl

theorem ReturnFacts.left
    (hf : ReturnFacts h command outcome) : ReturnFacts (h ++ [.left]) command outcome where
  gate hmutation error herror hstatus :=
    (hf.gate hmutation error herror hstatus).imp (List.mem_append_left _) (List.mem_append_left _)
  result := hf.result
  disposed error herror := by
    simpa [Disposed, calls_left, Undisturbed] using hf.disposed error herror
  invalidated call hcall := by
    obtain ⟨result, hreturned, hinvalidated⟩ := hf.invalidated call (by simpa using hcall)
    exact ⟨result, List.mem_append_left _ hreturned,
      hinvalidated.mono (List.prefix_append _ _)⟩
  issues clipboardRef hissued := hf.issues clipboardRef (by simpa [view_left] using hissued)
  issued huses clipboardRef hissues := by
    simpa [view_left] using hf.issued huses clipboardRef hissues
  observed := hf.observed.mono (List.prefix_append _ _)

structure Finishing (command : Command) (outcome : Except CuaError CommandResult)
    (h : List RuntimeEvent) : Prop where
  inside : (phase h).isInside = true
  holds_eq : holds h = []
  facts : ReturnFacts h command outcome

theorem Finishing.of_read (hr : Running command h)
    (hread : command.isMutation = false) (hclipboard : usesClipboard command = false)
    (hcalls : calls h = []) (hissued : (view h).issued = none)
    (hobserved : Observed h command outcome) : Finishing command outcome h where
  inside := by rw [hr.phase_eq]; rfl
  holds_eq := hr.holds_eq
  facts :=
    { gate := fun hmutation => by simp [hread] at hmutation
      result := fun result _ => by cases command <;> trivial
      disposed := fun error _ => by simp [Disposed, hcalls]
      invalidated := fun call hcall => by simpa [hcalls] using mem_calls hcall
      issues := fun clipboardRef h => by simp [hissued] at h
      issued := fun huses => by simp [hclipboard] at huses
      observed := hobserved }

theorem notDispatchedByDefault_ne (error : CuaError) :
    (notDispatchedByDefault error).mutationStatus ≠ .notApplicable := by
  by_cases he : error.mutationStatus = .notApplicable
  · rw [notDispatchedByDefault_notApplicable he]
    simp
  · simp [notDispatchedByDefault, he]

theorem MutationSpec.finishing
    (hspec : MutationSpec command outcome h) (hobserved : ∀ outcome, Observed h command outcome) :
    Finishing command (outcome.mapError notDispatchedByDefault) h where
  inside := by rw [hspec.running.phase_eq]; rfl
  holds_eq := hspec.running.holds_eq
  facts := by
    have hissues : ∀ clipboardRef, Issues (outcome.mapError notDispatchedByDefault) clipboardRef ↔
        Issues outcome clipboardRef := fun clipboardRef => by
      cases outcome <;> simp [Except.mapError, Issues]
    refine ⟨?_, ?_, ?_, hspec.invalidated, ?_, ?_, hobserved _⟩
    · intro _ error herror hstatus
      cases outcome with
      | ok result => simp [Except.mapError] at herror
      | error cause =>
          cases herror
          exact absurd hstatus (notDispatchedByDefault_ne cause)
    · intro result hresult
      cases outcome with
      | ok value =>
          cases hresult
          exact hspec.result _ rfl
      | error cause => simp [Except.mapError] at hresult
    · intro error herror
      cases outcome with
      | ok value => simp [Except.mapError] at herror
      | error cause =>
          cases herror
          exact hspec.disposed cause rfl
    · exact fun clipboardRef hissued => (hissues _).mpr ((hspec.issued _).mp hissued)
    · exact fun _ clipboardRef hi => (hspec.issued _).mpr ((hissues _).mp hi)

namespace RuntimeService

theorem wp_runCommand (command : Command) (hs : Started command h) (hu : Undisturbed h)
    (hpolicy : runtime.config.policy.authorize command = .ok ())
    {Q : Except CuaError CommandResult → List RuntimeEvent → Prop}
    (hQ : ∀ outcome h', Finishing command outcome h' → Q outcome h') :
    wp (runtimeContract runtime) (runtime.runCommand command) Q h := by
  have hcalm : ∀ p : RuntimeProgram CuaError CommandResult, Calm runtime command p →
      command.isMutation = false → usesClipboard command = false →
      (∀ h outcome, Observed h command outcome) → wp (runtimeContract runtime) p Q h :=
    fun p hp hread hclipboard hobserved => hp.wp hs.toRunning fun outcome h' hm =>
      hQ outcome h' (.of_read (hm.running hs.toRunning) hread hclipboard
        (hm.started hs).calls_eq (hm.started hs).issued_eq (hobserved h' outcome))
  have hobserve : ∀ input applicationScene, command.isMutation = false →
      usesClipboard command = false →
      (∀ h outcome, PublishedFor input outcome h →
        Observed h command (CommandResult.windowObserved <$> outcome)) →
      wp (runtimeContract runtime)
        (CommandResult.windowObserved <$> runtime.observeWindow input applicationScene) Q h := by
    intro input applicationScene hread hclipboard hobserved
    rw [Async.wp_map]
    exact wp_observeWindow input applicationScene hs.toRunning fun outcome h' hsettled hpublished =>
      hQ _ h' (.of_read (hsettled.running hs.toRunning) hread hclipboard
        (hsettled.calls_eq.trans hs.calls_eq) (hsettled.issued_eq.trans hs.issued_eq)
        (hobserved h' outcome hpublished))
  have hpublished : ∀ input h (outcome : Except CuaError WindowObservation),
      PublishedFor input outcome h →
      Observed h (.observeWindow input) (CommandResult.windowObserved <$> outcome) ∧
        Observed h (.observeApplicationScene input) (CommandResult.windowObserved <$> outcome) := by
    intro input h outcome hp
    cases outcome with
    | ok observation => exact ⟨hp observation rfl, hp observation rfl⟩
    | error error => exact ⟨trivial, trivial⟩
  cases command with
  | getCapabilities => exact hcalm _ calm_getCapabilities rfl rfl fun _ _ => trivial
  | getPermissionStatus => exact hcalm _ calm_getPermissionStatus rfl rfl fun _ _ => trivial
  | discoverApplications => exact hcalm _ calm_discoverApplications rfl rfl fun _ _ => trivial
  | discoverLaunchableApplications =>
      exact hcalm _ calm_discoverLaunchableApplications rfl rfl fun _ _ => trivial
  | launchApplication input =>
      rw [runCommand, Async.wp_mapError]
      exact wp_launchApplication input hs hu fun outcome h' hspec =>
        hQ _ h' (hspec.finishing fun _ => trivial)
  | openSession manifest => exact hcalm _ (calm_openSession manifest) rfl rfl fun _ _ => trivial
  | closeSession sessionId => exact hcalm _ (calm_closeSession sessionId) rfl rfl fun _ _ => trivial
  | listApps sessionId => exact hcalm _ (calm_listApps sessionId) rfl rfl fun _ _ => trivial
  | listWindows input => exact hcalm _ (calm_listWindows input) rfl rfl fun _ _ => trivial
  | listDisplays sessionId => exact hcalm _ (calm_listDisplays sessionId) rfl rfl fun _ _ => trivial
  | observeWindow input =>
      exact hobserve input false rfl rfl fun h outcome hp => (hpublished input h outcome hp).1
  | observeApplicationScene input =>
      exact hobserve input true rfl rfl fun h outcome hp => (hpublished input h outcome hp).2
  | observeDisplay input => exact hcalm _ (calm_observeDisplay input) rfl rfl fun _ _ => trivial
  | readClipboard sessionId =>
      refine wp_readClipboard sessionId hs.toRunning hs.lane_eq hs.issued_eq
        fun outcome h' hspec hcalls => hQ _ h' ⟨?_, hspec.running.holds_eq, ?_⟩
      · rw [hspec.running.phase_eq]
        rfl
      · have hnone : calls h' = [] := hcalls.trans hs.calls_eq
        exact ⟨fun hmutation => by simp [Command.isMutation] at hmutation, fun _ _ => trivial,
          fun _ _ => by simp [Disposed, hnone],
          fun call hcall => by simpa [hnone] using mem_calls hcall,
          fun _ hi => (hspec.issued _).mp hi, fun _ _ hi => (hspec.issued _).mpr hi, trivial⟩
  | writeClipboard input =>
      rw [runCommand, Async.wp_mapError]
      exact wp_writeClipboard input hs fun outcome h' hspec =>
        hQ _ h' (hspec.finishing fun _ => trivial)
  | performAction input =>
      rw [runCommand, Async.wp_mapError]
      exact wp_performAction input hs hpolicy fun outcome h' hspec =>
        hQ _ h' (hspec.finishing fun _ => trivial)
  | reconcileMutation requestId => exact hcalm _ (.fail _) rfl rfl fun _ _ => trivial
  | verifyState input => exact hcalm _ (calm_verifyState input) rfl rfl fun _ _ => trivial

theorem wp_executeAdmitted (command : Command)
    {Q : Except CuaError CommandResult → List RuntimeEvent → Prop}
    (hQ : ∀ outcome h', Finishing command outcome h' → Q outcome h') :
    wp (runtimeContract runtime) (runtime.executeAdmitted command) Q [.entered command] := by
  -- An error of the gates, before the command itself has begun.
  have hgate : ∀ error h', (phase h').isInside = true → holds h' = [] → calls h' = [] →
      (view h').issued = none →
      (command.isMutation = true → error.mutationStatus = .notApplicable →
        .sawClosed true ∈ h' ∨ .schedulerLocked true ∈ h') → Q (.error error) h' := by
    intro error h' hinside hh hcalls hissued hseen
    refine hQ _ h' ⟨hinside, hh, ⟨fun hmutation e he hstatus => ?_, by simp,
      by simp [Disposed, hcalls], ?_, by simp [hissued], by simp [Issues], ?_⟩⟩
    · cases he
      exact hseen hmutation hstatus
    · exact fun call hcall => by simpa [hcalls] using mem_calls hcall
    · cases command <;> trivial
  simp only [executeAdmitted, Async.wp_bind, Async.wp_observe, Async.onOk_ok]
  refine fun s => ⟨.report ⟨rfl, command, rfl⟩, ?_⟩
  split
  · rename_i hclosed
    rw [hclosed]
    exact hgate _ _ rfl rfl rfl rfl fun _ _ => .inl (by simp)
  · rename_i hopen
    rw [Bool.not_eq_true] at hopen
    rw [hopen, Async.wp_bind, Async.wp_ofExcept]
    cases hpolicy : runtime.config.policy.authorize command with
    | error error =>
        refine hgate error _ rfl rfl rfl rfl fun hmutation hstatus => ?_
        rw [RuntimePolicyStack.authorize_eq_error hpolicy] at hstatus
        simp [RuntimePolicyStack.denied, hmutation, CuaError.withMutationStatus] at hstatus
    | ok _ =>
        rw [Async.onOk_ok, Async.wp_bind]
        refine wp_lockScheduler (fun s hpoisoned => .control (.ensured rfl hpoisoned)) ?_ ?_
        · exact wp_runCommand command ⟨⟨rfl, rfl⟩, rfl, rfl, rfl⟩ (by simp [Undisturbed]) hpolicy hQ
        · exact hgate _ _ rfl rfl rfl rfl fun _ _ => .inr (by simp)

theorem wp_execute (command : Command)
    {Q : Except χ (Except CuaError CommandResult) → List RuntimeEvent → Prop}
    (hQ : ∀ outcome h', holds h' = [] → Q (.ok outcome) h') :
    wp (runtimeContract runtime)
      (runtime.execute command : RuntimeProgram χ (Except CuaError CommandResult)) Q [] := by
  rw [execute, Async.wp_bind, enterLifecycle, Async.wp_atomic]
  intro _ s s' es _ hb
  split at hb
  · contradiction
  · rename_i hwriter
    cases hb
    refine ⟨.control (.entered (by simpa using hwriter)), ?_⟩
    rw [Async.onOk_ok, Async.wp_bind, Async.wp_attempt]
    refine wp_executeAdmitted command fun outcome h' hf => ?_
    simp only [Async.onOk_ok, Async.wp_bind, leaveLifecycle, Async.wp_atomic, Async.wp_report,
      Async.wp_pure]
    intro _ s s' es _ hb
    cases hb
    refine ⟨.control (.left hf.inside hf.holds_eq), fun s => ⟨.report ⟨?_, hf.facts.left⟩, ?_⟩⟩
    · rw [phase, view_left]
    · refine hQ outcome _ ?_
      rw [holds, view_snoc, view_left]
      exact hf.holds_eq

end RuntimeService

/-! ## Shutdown -/

structure Stands (stage : Phase) (h : List RuntimeEvent) : Prop where
  phase_eq : phase h = stage
  holds_eq : holds h = []

theorem Stands.snoc {stage next : Phase} (hs : Stands stage h) {x : RuntimeEvent}
    (hnext : stage.next x = next) (hheld : nextHolds [] x = []) : Stands next (h ++ [x]) where
  phase_eq := by rw [phase_snoc, hs.phase_eq, hnext]
  holds_eq := by rw [holds_snoc, hs.holds_eq, hheld]

theorem wp_awaitUnlessDropped {release : RuntimeState → RuntimeState}
    {block : RuntimeState → Option (RuntimeState × List RuntimeEvent × α)}
    {Q : Except Unit α → List RuntimeEvent → Prop}
    (hdrop : ∀ s, RuntimeEffect runtime h s [.shutdownDropped] (release s))
    (hdropped : Q (.error ()) (h ++ [.shutdownDropped]))
    (hblock : ∀ s s' es value, block s = some (s', es, value) →
      RuntimeEffect runtime h s es s' ∧ Q (.ok value) (h ++ es)) :
    wp (runtimeContract runtime) (awaitUnlessDropped release block) Q h := by
  simp only [awaitUnlessDropped, Async.wp_bind, Async.wp_atomic, Async.onOk_ok]
  intro reply s s' es outcome hb
  split at hb
  · cases hb
    exact ⟨hdrop s, hdropped⟩
  · obtain ⟨⟨s₁, es₁, value⟩, hout, heq⟩ := Option.map_eq_some_iff.mp hb
    cases heq
    exact hblock s s₁ es₁ value hout

theorem wp_stopScheduler {running : Bool}
    (hs : Stands (if running then .taken else .stopped) h)
    {Q : Except Unit Unit → List RuntimeEvent → Prop}
    (hok : ∀ h', Stands .stopped h' → Q (.ok ()) h')
    (hdropped : ∀ h', Stands .finished h' → Q (.error ()) h') :
    wp (runtimeContract runtime) (stopScheduler running) Q h := by
  rw [stopScheduler]
  cases running with
  | false => exact hok h hs
  | true =>
      simp only [if_true, stopLoopAndJoin, Async.wp_bind, Async.wp_atomic, Async.onOk_ok]
      intro _ s s' es _ hb
      cases hb
      have hsent : Stands .signalled (h ++ [.shutdownSent]) := hs.snoc rfl rfl
      refine ⟨.control (.shutdownSent hs.phase_eq), wp_awaitUnlessDropped
        (fun s => .control (.cleanUpDropped (.inl hsent.phase_eq)))
        (hdropped _ (hsent.snoc rfl rfl))
        fun s s' es value hb => ?_⟩
      split at hb
      · rename_i hstopped
        cases hb
        exact ⟨.report ⟨hsent.phase_eq, hstopped⟩, hok _ (hsent.snoc rfl rfl)⟩
      · contradiction

theorem view_taken (x : RuntimeEvent) (hx : ∀ v : TaskView, v.next x = { v with
      phase := v.phase.next x }) (hh : holds h = []) (s : RuntimeState)
    (sessionIds : List SessionId) :
    view (h ++ x :: .unmapped sessionIds :: closingEvents s sessionIds) =
      { view h with phase := (phase h).next x, holds := sessionIds.map .removing } := by
  have hview : view (h ++ [x]) = { view h with phase := (phase h).next x } := by
    rw [view_snoc, hx]
  rw [List.append_cons, view_reaped _ _ _ (by rw [holds, hview]; exact hh), hview]

theorem wp_drainSessions (hs : Stands .unlaunched h)
    {Q : Except Unit (List SessionId) → List RuntimeEvent → Prop}
    (hok : ∀ sessionIds h', phase h' = .drained → holds h' = sessionIds.map .removing →
      Q (.ok sessionIds) h')
    (hdropped : ∀ h', Stands .finished h' → Q (.error ()) h') :
    wp (runtimeContract runtime) drainSessions Q h := by
  refine wp_awaitUnlessDropped
    (fun s => .control (.cleanUpDropped (.inr (.inr (.inr hs.phase_eq)))))
    (hdropped _ (hs.snoc rfl rfl)) fun s s' es sessionIds hb => ?_
  cases hb
  have hview := view_taken .sessionsDrained (fun _ => rfl) hs.holds_eq s s.sessions
  exact ⟨.control (.sessionsDrained hs.phase_eq), hok _ _ (congrArg TaskView.phase hview)
    (congrArg TaskView.holds hview)⟩

theorem wp_cleanUp (hs : Stands .closing h) {Q : Except Unit Unit → List RuntimeEvent → Prop}
    (hQ : ∀ outcome h', holds h' = [] → Q outcome h') :
    wp (runtimeContract runtime) cleanUp Q h := by
  have hdropped : ∀ h', Stands .finished h' → Q (.error ()) h' := fun h' hf => hQ _ h' hf.holds_eq
  rw [cleanUp, Async.wp_bind]
  refine wp_awaitUnlessDropped (fun s => .control (.sealDropped hs.phase_eq))
    (hdropped _ (hs.snoc rfl rfl)) fun s s' es _ hb => ?_
  split at hb
  · rename_i hfree
    cases hb
    have hsealed : Stands .sealed (h ++ [.lifecycleSealed]) := hs.snoc rfl rfl
    refine ⟨.control (.lifecycleSealed hs.phase_eq hfree.1 hfree.2), ?_⟩
    simp only [Async.onOk_ok, takeScheduler, Async.wp_bind, Async.wp_atomic]
    intro _ s s' es running hb
    cases hb
    refine ⟨.control (.schedulerTaken hsealed.phase_eq), ?_⟩
    refine wp_stopScheduler (hsealed.snoc rfl rfl) (fun h₁ hstopped => ?_) hdropped
    rw [Async.onOk_ok, Async.wp_bind]
    refine wp_awaitUnlessDropped
      (fun s => .control (.cleanUpDropped (.inr (.inl hstopped.phase_eq))))
      (hdropped _ (hstopped.snoc rfl rfl)) fun s s' es _ hb => ?_
    cases hb
    have hcleared : Stands .undiscovered (h₁ ++ [.discoveryCleared]) := hstopped.snoc rfl rfl
    refine ⟨.control (.discoveryCleared (.inl hstopped.phase_eq)), ?_⟩
    rw [Async.onOk_ok, Async.wp_bind]
    refine wp_awaitUnlessDropped
      (fun s => .control (.cleanUpDropped (.inr (.inr (.inl hcleared.phase_eq)))))
      (hdropped _ (hcleared.snoc rfl rfl)) fun s s' es _ hb => ?_
    cases hb
    refine ⟨.control (.launchesCleared (.inl hcleared.phase_eq)), ?_⟩
    rw [Async.onOk_ok, Async.wp_bind]
    refine wp_drainSessions (hcleared.snoc rfl rfl) (fun sessionIds h₂ hphase hheld => ?_) hdropped
    rw [Async.onOk_ok, Async.wp_bind]
    refine wp_removeAllArtifacts sessionIds (fun hold hhold => ?_) fun h₃ hview => ?_
    · rw [hheld] at hhold
      obtain ⟨sessionId, hmem, rfl⟩ := List.mem_map.mp hhold
      exact ⟨sessionId, hmem, rfl⟩
    · rw [Async.onOk_ok, Async.wp_atomic]
      intro _ s s' es _ hb
      cases hb
      have hdrained : Stands .drained h₃ :=
        ⟨by rw [phase, hview]; exact hphase, by rw [holds, hview]⟩
      exact ⟨.control (.shutdownReturned hdrained.phase_eq hdrained.holds_eq),
        hQ _ _ (Stands.snoc hdrained rfl rfl : Stands .finished _).holds_eq⟩
  · contradiction

variable {Q : Except χ Unit → List RuntimeEvent → Prop}

theorem wp_shutdown
    (hQ : ∀ h', holds h' = [] → Q (.ok ()) h') :
    wp (runtimeContract runtime) (shutdown : RuntimeProgram χ Unit) Q [] := by
  rw [shutdown, Async.wp_bind, Async.wp_atomic]
  intro _ s s' es _ hb
  split at hb
  · contradiction
  · rename_i hunlocked
    cases hb
    refine ⟨.control (.shutdownGuarded (by simpa using hunlocked)), ?_⟩
    rw [Async.onOk_ok, Async.wp_bind, Async.wp_atomic]
    intro _ s s' es already hb
    cases hb
    have hswapped : Stands (if s.closed then .rejecting else .closing)
        ([] ++ [.shutdownGuarded] ++ [.closedSwapped s.closed]) := ⟨rfl, rfl⟩
    refine ⟨.control (.closedSwapped rfl), ?_⟩
    rw [Async.onOk_ok]
    cases hclosed : s.closed with
    | true =>
        rw [hclosed] at hswapped
        rw [if_pos rfl, Async.wp_atomic]
        intro _ s s' es _ hb
        cases hb
        exact ⟨.control (.rejected hswapped.phase_eq), hQ _ rfl⟩
    | false =>
        rw [hclosed] at hswapped
        rw [if_neg (by simp), Async.wp_bind, Async.wp_attempt]
        exact wp_cleanUp hswapped fun outcome h' hh => hQ h' hh

/-! ## The expiration loop -/

theorem wp_nearestDeadline {seen : Nat} (hs : Stands (.reading seen) h)
    {Q : Except χ (Option Nat) → List RuntimeEvent → Prop}
    (hQ : ∀ sessions discovery launches h',
      Stands (.waiting seen sessions discovery launches) h' →
      Q (.ok (nearestDeadlineOf sessions discovery launches)) h') :
    wp (runtimeContract runtime) (nearestDeadline : RuntimeProgram χ (Option Nat)) Q h := by
  simp only [nearestDeadline, Async.wp_bind, Async.wp_observe, Async.onOk_ok, Async.wp_pure]
  intro s
  have hsessions : Stands (.readSessions seen s.sessionDeadline)
      (h ++ [.sessionDeadline s.sessionDeadline]) := hs.snoc rfl rfl
  refine ⟨.report ⟨rfl, seen, hs.phase_eq⟩, fun s' => ?_⟩
  have hdiscovery : Stands (.readDiscovery seen s.sessionDeadline s'.discoveryDeadline) _ :=
    hsessions.snoc (x := .discoveryDeadline s'.discoveryDeadline) rfl rfl
  exact ⟨.report ⟨rfl, seen, _, hsessions.phase_eq⟩, fun s'' =>
    ⟨.report ⟨rfl, seen, _, _, hdiscovery.phase_eq⟩, hQ _ _ _ _ (hdiscovery.snoc rfl rfl)⟩⟩

theorem wp_reapDue {seen now : Nat} (hs : Stands (.reaping seen now) h)
    (hQ : ∀ h', Stands (.cleaning seen) h' → Q (.ok ()) h') :
    wp (runtimeContract runtime) (reapDue now : RuntimeProgram χ Unit) Q h := by
  simp only [reapDue, Async.wp_bind, Async.wp_atomic, Async.onOk_ok]
  intro _ s s' es expired hb
  cases hb
  have hview := view_taken (.sessionsReaped now) (fun _ => rfl) hs.holds_eq s (s.dueSessions now)
  rw [hs.phase_eq] at hview
  refine ⟨.control (.sessionsReaped hs.phase_eq), ?_⟩
  generalize h ++ .sessionsReaped now :: .unmapped (s.dueSessions now) ::
    closingEvents s (s.dueSessions now) = h₁ at hview ⊢
  intro _ s₁ s' es _ hb
  cases hb
  have hphase : phase h₁ = .reapingDiscovery seen now := congrArg TaskView.phase hview
  refine ⟨.control (.discoveryReaped hphase), ?_⟩
  intro _ s₂ s' es _ hb
  cases hb
  have hphase' : phase (h₁ ++ [.discoveryReaped now]) = .reapingLaunches seen now := by
    rw [phase, view_snoc]
    exact congrArg Phase.reapDiscovery hphase
  refine ⟨.control (.launchesReaped hphase'), ?_⟩
  have hview' : view (h₁ ++ [.discoveryReaped now] ++ [.launchesReaped now]) =
      { view h with phase := .cleaning seen, holds := (s.dueSessions now).map .removing } := by
    rw [view_snoc, view_snoc, hview]
    rfl
  refine wp_removeAllArtifacts _ (fun hold hhold => ?_) fun h' hdone => hQ h' ?_
  · rw [holds, hview'] at hhold
    obtain ⟨sessionId, hmem, rfl⟩ := List.mem_map.mp hhold
    exact ⟨sessionId, hmem, rfl⟩
  · exact ⟨by rw [phase, hdone, hview'], by rw [holds, hdone]⟩

theorem wp_awaitWakeup {seen : Nat} {sessions discovery launches : Option Nat}
    (hs : Stands (.waiting seen sessions discovery launches) h)
    {Q : Except χ Wakeup → List RuntimeEvent → Prop}
    (hdue : ∀ now h', Stands (.reaping seen now) h' → Q (.ok (.due now)) h')
    (hsignalled : ∀ version h', Stands (.looping version) h' → Q (.ok (.signalled version)) h') :
    wp (runtimeContract runtime)
      (awaitWakeup (nearestDeadlineOf sessions discovery launches) seen : RuntimeProgram χ Wakeup)
      Q h := by
  rw [awaitWakeup, Async.wp_atomic]
  intro _ s s' es wakeup hb
  split at hb
  · contradiction
  · rename_i scheduler hscheduler
    split at hb
    · rename_i hversion
      cases hb
      exact ⟨.report ⟨seen, _, _, _, hs.phase_eq, scheduler, hscheduler, rfl, hversion.1⟩,
        hsignalled _ _ (hs.snoc rfl rfl)⟩
    · split at hb
      · rename_i hpast
        cases hb
        obtain ⟨instant, hinstant, hle⟩ := (Option.any_eq_true _ _).mp hpast
        exact ⟨.report ⟨seen, _, _, _, hs.phase_eq, rfl, instant, hinstant, by simpa using hle⟩,
          hdue _ _ (hs.snoc rfl rfl)⟩
      · contradiction

theorem wp_expirationLoop (rounds seen : Nat)
    (hs : Stands (.looping seen) h ∨ Stands (.cleaning seen) h)
    (hQ : ∀ outcome h', holds h' = [] → Q outcome h') :
    wp (runtimeContract runtime) (expirationLoop seen rounds : RuntimeProgram χ Unit) Q h := by
  induction rounds generalizing h seen with
  | zero =>
      intro _ s s' es b hb
      contradiction
  | succ rounds ih =>
      simp only [expirationLoop, Async.wp_bind, Async.wp_observe, Async.onOk_ok]
      intro s
      have hread : Stands (if s.signal = some .shutdown then .stopping else .reading seen)
          (h ++ [.signalRead s.signal]) := by
        rcases hs with hs | hs <;> exact hs.snoc rfl rfl
      refine ⟨.report ⟨rfl, seen, hs.imp Stands.phase_eq fun h => ⟨h.phase_eq, h.holds_eq⟩⟩, ?_⟩
      split
      · rename_i hshutdown
        rw [if_pos hshutdown] at hread
        rw [stopLoop, Async.wp_atomic]
        intro _ s s' es _ hb
        cases hb
        exact ⟨.control (.loopStopped hread.phase_eq hread.holds_eq),
          hQ _ _ (hread.snoc rfl rfl : Stands .ended _).holds_eq⟩
      · rename_i hshutdown
        rw [if_neg hshutdown] at hread
        rw [Async.wp_bind]
        refine wp_nearestDeadline hread fun sessions discovery launches h₁ hwaiting => ?_
        rw [Async.onOk_ok, Async.wp_bind]
        refine wp_awaitWakeup hwaiting (fun now h₂ hreaping => ?_) fun version h₂ hlooping => ?_
        · rw [Async.onOk_ok, Async.wp_bind]
          exact wp_reapDue hreaping fun h₃ hcleaning => ih seen (.inr hcleaning)
        · exact ih version (.inl hlooping)

/-! ## The drop of the runtime -/

theorem wp_closeAbandoned {sessionIds : List SessionId} (hnodup : sessionIds.Nodup)
    (hphase : phase h = .dropping)
    (hclosing : ∀ sessionId ∈ sessionIds, .closing sessionId ∈ holds h)
    (hheld : ∀ hold ∈ holds h, (∃ sessionId ∈ sessionIds, hold = .closing sessionId) ∨
      ∃ sessionId, hold = .removing sessionId)
    (hQ : ∀ h', phase h' = .dropping → h ⊆ h' →
      (∀ hold ∈ holds h', ∃ sessionId, hold = .removing sessionId) → Q (.ok ()) h') :
    wp (runtimeContract runtime) (closeAbandoned sessionIds : RuntimeProgram χ Unit) Q h := by
  induction sessionIds generalizing h with
  | nil =>
      exact hQ h hphase (List.Subset.refl h) fun hold hhold => by simpa using hheld hold hhold
  | cons sessionId rest ih =>
      rw [closeAbandoned, Async.wp_bind, Async.wp_atomic]
      intro _ s s' es _ hb
      cases hb
      obtain ⟨hnotin, hnodup⟩ := List.nodup_cons.mp hnodup
      have hview := view_closing h s [sessionId]
      refine ⟨.session (.closed (hclosing sessionId (by simp))), ih hnodup ?_ ?_ ?_
        fun h' hphase hsub => hQ h' hphase (List.Subset.trans (List.subset_append_left _ _) hsub)⟩
      · rw [phase, hview]
        exact hphase
      · intro other hother
        have hne : other ≠ sessionId := fun heq => hnotin (heq ▸ hother)
        rw [holds, hview]
        exact List.mem_map.mpr ⟨.closing other, hclosing other (by simp [hother]),
          by simp [Hold.close, hne]⟩
      · intro hold hhold
        rw [holds, hview] at hhold
        obtain ⟨old, hold', rfl⟩ := List.mem_map.mp hhold
        rcases hheld old hold' with ⟨other, hother, rfl⟩ | ⟨other, rfl⟩
        · by_cases heq : other = sessionId
          · exact .inr ⟨other, by simp [Hold.close, heq]⟩
          · exact .inl ⟨other, (List.mem_cons.mp hother).resolve_left heq,
              by simp [Hold.close, heq]⟩
        · exact .inr ⟨other, rfl⟩

theorem wp_dropFields (hs : Stands .dropping h)
    (hQ : ∀ outcome h', holds h' = [] → Q outcome h') :
    wp (runtimeContract runtime) (dropFields : RuntimeProgram χ Unit) Q h := by
  simp only [dropFields, Async.wp_bind, Async.wp_atomic, Async.onOk_ok]
  intro _ s s' es _ hb
  cases hb
  refine ⟨.control (.discoveryCleared (.inr hs.phase_eq)), ?_⟩
  have hs₁ : Stands .dropping (h ++ [.discoveryCleared]) := hs.snoc rfl rfl
  intro _ s s' es _ hb
  cases hb
  refine ⟨.control (.launchesCleared (.inr hs₁.phase_eq)), ?_⟩
  have hs₂ : Stands .dropping (h ++ [.discoveryCleared] ++ [.launchesCleared]) := hs₁.snoc rfl rfl
  intro _ s s' es sessionIds hb
  cases hb
  generalize h ++ [.discoveryCleared] ++ [.launchesCleared] = h₂ at hs₂ ⊢
  refine ⟨.control (.sessionsAbandoned hs₂.phase_eq), ?_⟩
  have hview := view_snoc h₂ (.sessionsAbandoned (s.heap.toList.map Prod.fst))
  have hheld : holds (h₂ ++ [.sessionsAbandoned (s.heap.toList.map Prod.fst)]) =
      (s.heap.toList.map Prod.fst).map .closing := by
    rw [holds, hview]
    simp [TaskView.next, nextHolds, hs₂.holds_eq]
  refine wp_closeAbandoned s.heap.nodup_map_fst_toList ?_ ?_ ?_ fun h' hphase hsub hheld => ?_
  · rw [phase, hview]
    exact hs₂.phase_eq
  · intro sessionId hmem
    rw [hheld]
    exact List.mem_map_of_mem hmem
  · intro hold hhold
    rw [hheld] at hhold
    obtain ⟨sessionId, hmem, rfl⟩ := List.mem_map.mp hhold
    exact .inl ⟨sessionId, hmem, rfl⟩
  · intro _ s s' es _ hb
    cases hb
    have hclosed : ∀ sessionId, .closing sessionId ∉ holds h' := fun sessionId hmem => by
      obtain ⟨other, hother⟩ := hheld _ hmem
      contradiction
    refine ⟨.control (.storeDropped hphase (hsub (List.mem_append_right _ (.head _))) hclosed),
      hQ _ _ ?_⟩
    rw [holds, view_snoc]
    refine List.filter_eq_nil_iff.mpr fun hold hhold => ?_
    obtain ⟨sessionId, rfl⟩ := hheld hold hhold
    simp [Hold.outlivesStore]

end NexusCua.Runtime
