import NexusCua.Runtime.CommandContract

/-!
# Clipboard and launching keep the contract

Reading and writing the clipboard go through the clipboard lane, which a task
holds from its lock to its unlock.  Launching and writing are followed up to the
disposition of their errors, which depends on the calls of the driver that were
made.
-/

namespace NexusCua.Runtime

open NexusCua.Foundation NexusCua.Protocol
open NexusCua.Foundation.Async (wp)

variable {runtime : RuntimeService} {command : Command} {h : List RuntimeEvent}

/-! ## The clipboard lane -/

/-- The task has gone through the lane once: its own reference is the one it returns. -/
structure ClipboardSpec (command : Command) (outcome : Except CuaError CommandResult)
    (h : List RuntimeEvent) : Prop where
  running : Running command h
  issued : ∀ clipboardRef, (view h).issued = some clipboardRef ↔ Issues outcome clipboardRef

variable {error : CuaError}

theorem ClipboardSpec.of_error (hr : Running command h)
    (hi : (view h).issued = none) : ClipboardSpec command (.error error) h where
  running := hr
  issued := by simp [hi, Issues]

theorem view_unlocked (h : List RuntimeEvent) :
    view (h ++ [.clipboardUnlocked]) = { view h with lane := .free } := by
  rw [view_snoc]
  rfl

variable {outcome : Except CuaError CommandResult}

theorem ClipboardSpec.unlocked
    (hs : ClipboardSpec command outcome h) :
    ClipboardSpec command outcome (h ++ [.clipboardUnlocked]) where
  running := ⟨by rw [phase, view_unlocked]; exact hs.running.phase_eq,
    by rw [holds, view_unlocked]; exact hs.running.holds_eq⟩
  issued := by rw [view_unlocked]; exact hs.issued

structure Holding (command : Command) (h : List RuntimeEvent) : Prop extends
    Running command h where
  lane_eq : lane h = .held
  issued_eq : (view h).issued = none

theorem Unmoved.holding {h' : List RuntimeEvent} (hm : Unmoved h h') (hh : Holding command h) :
    Holding command h' where
  toRunning := hm.running hh.toRunning
  lane_eq := hm.lane_eq.trans hh.lane_eq
  issued_eq := hm.issued_eq.trans hh.issued_eq

theorem view_clipboardIssued (h : List RuntimeEvent) (sessionId : SessionId)
    (clipboardRef : ClipboardRef) (changeMarker : String) :
    view (h ++ [.clipboardIssued sessionId clipboardRef changeMarker]) =
      { view h with issued := some clipboardRef } := by
  rw [view_snoc]
  rfl

theorem ClipboardSpec.of_issued (sessionId : SessionId) {clipboardRef : ClipboardRef}
    (changeMarker : String) {result : CommandResult} (hr : Running command h)
    (hresult : ∀ other, Issues (.ok result) other ↔ clipboardRef = other) :
    ClipboardSpec command (.ok result)
      (h ++ [.clipboardIssued sessionId clipboardRef changeMarker]) where
  running := ⟨by rw [phase, view_clipboardIssued]; exact hr.phase_eq,
    by rw [holds, view_clipboardIssued]; exact hr.holds_eq⟩
  issued other := by simp [view_clipboardIssued, hresult]

variable {changeMarker : String}

theorem SessionState.takeClipboardMarker_eq_some {state taken : SessionState}
    {clipboardRef : ClipboardRef}
    (htaken : state.takeClipboardMarker clipboardRef = some (changeMarker, taken)) :
    state.clipboard = some ⟨clipboardRef, changeMarker⟩ ∧
      taken = { state with clipboard := none } := by
  rw [SessionState.takeClipboardMarker] at htaken
  split at htaken
  · contradiction
  · rename_i record hrecord
    split at htaken
    · rename_i href
      cases htaken
      exact ⟨by rw [hrecord, ← href], rfl⟩
    · contradiction

/-! ## Mutations -/

structure Started (command : Command) (h : List RuntimeEvent) : Prop extends
    Running command h where
  calls_eq : calls h = []
  lane_eq : lane h = .free
  issued_eq : (view h).issued = none

theorem Unmoved.started {h' : List RuntimeEvent} (hm : Unmoved h h') (hs : Started command h) :
    Started command h' where
  toRunning := hm.running hs.toRunning
  calls_eq := hm.calls_eq.trans hs.calls_eq
  lane_eq := hm.lane_eq.trans hs.lane_eq
  issued_eq := hm.issued_eq.trans hs.issued_eq

structure MutationSpec (command : Command) (outcome : Except CuaError CommandResult)
    (h : List RuntimeEvent) : Prop where
  running : Running command h
  result : ∀ result, outcome = .ok result → Yields command result
  disposed : ∀ error, outcome = .error error → Disposed h (notDispatchedByDefault error)
  invalidated : ∀ call, .performCalled call ∈ h →
    ∃ result, .performReturned result ∈ h ∧ Invalidated h call result
  issued : ∀ clipboardRef, (view h).issued = some clipboardRef ↔ Issues outcome clipboardRef

theorem mem_calls {call : PerformCall} (hcall : .performCalled call ∈ h) :
    .performCalled call ∈ calls h :=
  List.mem_filter.mpr ⟨hcall, rfl⟩

theorem MutationSpec.of_calls {made : List RuntimeEvent}
    (hr : Running command h) (hcalls : calls h = made) (hmade : ∀ call, .performCalled call ∉ made)
    (hresult : ∀ result, outcome = .ok result → Yields command result)
    (hdisposed : ∀ error, outcome = .error error → Disposed h (notDispatchedByDefault error))
    (hissued : ∀ clipboardRef, (view h).issued = some clipboardRef ↔ Issues outcome clipboardRef) :
    MutationSpec command outcome h where
  running := hr
  result := hresult
  disposed := hdisposed
  invalidated call hcall := absurd (hcalls ▸ mem_calls hcall) (hmade call)
  issued := hissued

theorem MutationSpec.uncalled (hs : Started command h) :
    MutationSpec command (.error error) h :=
  .of_calls hs.toRunning hs.calls_eq (by simp) (by simp) (by simp [Disposed, hs.calls_eq])
    (by simp [hs.issued_eq, Issues])

theorem notDispatchedByDefault_indeterminate
    (he : error.mutationStatus = .indeterminate) :
    (notDispatchedByDefault error).mutationStatus = .indeterminate := by
  simp [notDispatchedByDefault, he]

theorem notDispatchedByDefault_notApplicable
    (he : error.mutationStatus = .notApplicable) :
    (notDispatchedByDefault error).mutationStatus = .notDispatched := by
  simp [notDispatchedByDefault, he, CuaError.withMutationStatus]

theorem notDispatchedByDefault_admitted (cause : DriverError) :
    (notDispatchedByDefault (if cause.toCuaError.mutationStatus = .notApplicable then
      cause.toCuaError.withMutationStatus .indeterminate else cause.toCuaError)).mutationStatus =
      if cause.mutationStatus = .notApplicable then .indeterminate else cause.mutationStatus := by
  by_cases hc : cause.mutationStatus = .notApplicable <;>
    simp [notDispatchedByDefault, hc, CuaError.withMutationStatus, DriverError.toCuaError]

theorem notDispatchedByDefault_bare (cause : DriverError) :
    (notDispatchedByDefault cause.toCuaError).mutationStatus =
      if cause.mutationStatus = .notApplicable then .notDispatched else cause.mutationStatus := by
  by_cases hc : cause.mutationStatus = .notApplicable <;>
    simp [notDispatchedByDefault, hc, CuaError.withMutationStatus, DriverError.toCuaError]

theorem MutationSpec.of_launched {input : LaunchApplicationInput}
    {application : DriverLaunchableApplication}
    {result : Except DriverError DriverLaunchOutput}
    (hr : Running (.launchApplication input) h)
    (hcalls : calls h = [.launchCalled application, .launchReturned result])
    (hi : (view h).issued = none)
    (hresult : ∀ result, outcome = .ok result → Yields (.launchApplication input) result)
    (hdisposed : ∀ error, outcome = .error error → Disposed h (notDispatchedByDefault error)) :
    MutationSpec (.launchApplication input) outcome h := by
  refine .of_calls hr hcalls (by simp) hresult hdisposed fun clipboardRef => ?_
  cases outcome with
  | error error => simp [hi, Issues]
  | ok value =>
      obtain ⟨output, rfl⟩ := hresult value rfl
      simp [hi, Issues]

/-- What a write of the clipboard has done when it is about to release the lane. -/
structure WriteSpec (input : WriteClipboardInput) (outcome : Except CuaError CommandResult)
    (h : List RuntimeEvent) : Prop extends
    ClipboardSpec (.writeClipboard input) outcome h where
  lane_eq : lane h = .held
  result : ∀ result, outcome = .ok result → Yields (.writeClipboard input) result
  disposed : ∀ error, outcome = .error error → Disposed h (notDispatchedByDefault error)
  uncalled : ∀ call, .performCalled call ∉ calls h

theorem calls_unlocked (h : List RuntimeEvent) : calls (h ++ [.clipboardUnlocked]) = calls h := by
  simp [calls, RuntimeEvent.isCall]

theorem WriteSpec.unlocked {input : WriteClipboardInput} (hw : WriteSpec input outcome h) :
    MutationSpec (.writeClipboard input) outcome (h ++ [.clipboardUnlocked]) := by
  have hspec := hw.toClipboardSpec.unlocked
  refine .of_calls hspec.running (calls_unlocked h) hw.uncalled hw.result (fun error he => ?_)
    hspec.issued
  simpa [Disposed, calls_unlocked, Undisturbed] using hw.disposed error he

namespace RuntimeService

/-! ## The clipboard -/

variable {Q : Except CuaError CommandResult → List RuntimeEvent → Prop}

theorem wp_onClipboard (busy : CuaError) {operation : RuntimeProgram CuaError CommandResult}
    (hr : Running command h) (hlane : lane h = .free) (hi : (view h).issued = none)
    (hbusy : Q (.error busy) h)
    (hop : ∀ h', Holding command h' → h' = h ++ [.clipboardLocked] →
      wp (runtimeContract runtime) operation
        (fun outcome h'' => lane h'' = .held ∧ Q outcome (h'' ++ [.clipboardUnlocked])) h') :
    wp (runtimeContract runtime) (onClipboard busy operation) Q h := by
  simp only [onClipboard, lockClipboard, Async.wp_bind, Async.wp_atomic, Async.onOk_ok]
  intro _ s s' es locked hb
  split at hb
  · cases hb
    exact ⟨.silent, by simpa using hbusy⟩
  · rename_i hunlocked
    cases hb
    refine ⟨.clipboardLocked hlane (by simpa using hunlocked), ?_⟩
    have hview : view (h ++ [.clipboardLocked]) = { view h with lane := .held } := by
      rw [view_snoc]
      rfl
    simp only [if_true, Async.wp_pure, Async.onOk_ok, Async.wp_bind, Async.wp_attempt]
    refine Async.wp_mono (hop _ ⟨⟨?_, ?_⟩, ?_, ?_⟩ rfl) fun outcome es hQ => ?_
    · rw [phase, hview]
      exact hr.phase_eq
    · rw [holds, hview]
      exact hr.holds_eq
    · rw [lane, hview]
    · rw [hview]
      exact hi
    · simp only [unlockClipboard, Async.wp_bind, Async.wp_atomic, Async.onOk_ok, Async.wp_ofExcept]
      intro _ s s' es _ hb
      cases hb
      exact ⟨.clipboardUnlocked hQ.1, hQ.2⟩

theorem wp_callReadClipboard (session : Session) (hh : Holding command h)
    {Q : Except CuaError DriverClipboardSnapshot → List RuntimeEvent → Prop}
    (hok : ∀ snapshot h', Unmoved h h' → .clipboardReadReturned (.ok snapshot) ∈ h' →
      Q (.ok snapshot) h')
    (herror : ∀ error h', Unmoved h h' → Q (.error error) h') :
    wp (runtimeContract runtime) (callReadClipboard session) Q h := by
  simp only [callReadClipboard, Async.wp_bind, Async.wp_report, Async.wp_atomic, Async.onOk_ok,
    Async.wp_ofExcept]
  refine fun s => ⟨.report hh.lane_eq, ?_⟩
  intro reply s s' es outcome hb
  split at hb
  · rename_i outcome
    cases hb
    have hm : Unmoved h (h ++ [.clipboardReadCalled session.id] ++
        [.clipboardReadReturned outcome]) := by
      refine ⟨?_, ?_, ?_⟩
      · rw [List.append_assoc]
        exact List.prefix_append _ _
      · rw [view_snoc, view_snoc]
        simp [TaskView.next, nextHolds, Phase.next, nextCapture, Lane.next, nextIssued,
          ← hh.lane_eq]
      · simp [calls, RuntimeEvent.isCall]
    refine ⟨.report ?_, ?_⟩
    · simp only [RuntimeTruthful, lane, view_snoc]
      rfl
    · cases outcome with
      | error error => exact herror _ _ hm
      | ok snapshot => exact hok snapshot _ hm (by simp)
  · contradiction

variable {session : Session}

theorem wp_issueClipboard {sessionId : SessionId}
    (hresolved : .resolved sessionId session ∈ h) (hh : Holding command h)
    (hcommand : IssuedFor h sessionId session) (hsource : ClipboardSource h changeMarker)
    {Q : Except CuaError ClipboardRef → List RuntimeEvent → Prop}
    (hQ : ∀ clipboardRef, Q (.ok clipboardRef)
      (h ++ [.clipboardIssued session.id clipboardRef changeMarker])) :
    wp (runtimeContract runtime) (runtime.issueClipboard session changeMarker) Q h := by
  rw [issueClipboard, Async.wp_atomic]
  intro _ s s' es clipboardRef hb
  split at hb
  · contradiction
  · rename_i entry hentry
    cases hb
    exact ⟨.tables (.clipboardIssued hresolved hcommand hentry hh.lane_eq hsource hh.issued_eq),
      hQ _⟩

theorem wp_readClipboardText {sessionId : SessionId}
    (hresolved : .resolved sessionId session ∈ h) (hh : Holding (.readClipboard sessionId) h)
    (hQ : ∀ outcome h', ClipboardSpec (.readClipboard sessionId) outcome h' → lane h' = .held →
      calls h' = calls h → Q outcome h') :
    wp (runtimeContract runtime) (runtime.readClipboardText session) Q h := by
  have hfailed : ∀ error h', Unmoved h h' → Q (.error error) h' := fun error h' hm =>
    hQ _ _ (.of_error (hm.holding hh).toRunning (hm.holding hh).issued_eq)
      (hm.holding hh).lane_eq hm.calls_eq
  rw [readClipboardText, Async.wp_bind]
  refine wp_callReadClipboard session hh (fun snapshot h₁ hm hreturned => ?_) hfailed
  refine (Calm.ofExcept _).wp_bind (hm.running hh.toRunning)
    (fun _ _ hm' => hfailed _ _ (hm.trans hm')) fun _ h₂ hm₂ => ?_
  refine (Calm.ofExcept _).wp_bind ((hm.trans hm₂).running hh.toRunning)
    (fun _ _ hm' => hfailed _ _ ((hm.trans hm₂).trans hm')) fun _ h₃ hm₃ => ?_
  have hm' := hm₂.trans hm₃
  simp only
  split
  · exact hfailed _ _ (hm.trans hm')
  · rw [Async.wp_bind]
    have hheld := (hm.trans hm').holding hh
    refine wp_issueClipboard ((hm.trans hm').mem hresolved) hheld (.inl hheld.phase_eq)
      (.inl ⟨snapshot, hm'.mem hreturned, rfl⟩) fun clipboardRef => ?_
    rw [Async.onOk_ok, Async.wp_pure]
    refine hQ _ _ (.of_issued _ _ hheld.toRunning fun _ => Iff.rfl) ?_ ?_
    · rw [lane, view_clipboardIssued]
      exact hheld.lane_eq
    · rw [calls_append, (hm.trans hm').calls_eq]
      simp [calls, RuntimeEvent.isCall]

theorem wp_readClipboard (sessionId : SessionId) (hr : Running (.readClipboard sessionId) h)
    (hlane : lane h = .free) (hi : (view h).issued = none)
    (hQ : ∀ outcome h', ClipboardSpec (.readClipboard sessionId) outcome h' →
      calls h' = calls h → Q outcome h') :
    wp (runtimeContract runtime) (runtime.readClipboard sessionId) Q h := by
  have hfailed : ∀ error h', Unmoved h h' → Q (.error error) h' := fun error h' hm =>
    hQ _ _ (.of_error (hm.running hr) (hm.issued_eq.trans hi)) hm.calls_eq
  rw [readClipboard, Async.wp_bind]
  refine wp_resolveSession sessionId hr (fun session h₁ hm hresolved => ?_) hfailed
  rw [Async.onOk_ok]
  split
  · refine wp_onClipboard _ (hm.running hr) (hm.lane_eq.trans hlane) (hm.issued_eq.trans hi)
      (hfailed _ _ hm) fun h₂ hh hlocked => ?_
    subst hlocked
    refine wp_readClipboardText (List.mem_append_left _ hresolved) hh
      fun outcome h₃ hspec hheld hcalls => ⟨hheld, hQ _ _ hspec.unlocked ?_⟩
    simp only [calls_append, hcalls, hm.calls_eq]
    simp [calls, RuntimeEvent.isCall]
  · exact hfailed _ _ hm

/-! ## Launching -/

variable {application : DriverLaunchableApplication} {input : LaunchApplicationInput}

theorem wp_callLaunch
    (hs : Started (.launchApplication input) h) (hlaunchable : Launchable h input application)
    {Q : Except CuaError (Except DriverError DriverLaunchOutput) → List RuntimeEvent → Prop}
    (hQ : ∀ outcome, Q (.ok outcome)
      (h ++ [.launchCalled application, .launchReturned outcome])) :
    wp (runtimeContract runtime) (callLaunch application) Q h := by
  simp only [callLaunch, Async.wp_bind, Async.wp_report, Async.wp_atomic, Async.onOk_ok]
  refine fun s => ⟨.report ⟨hs.calls_eq, input, hs.phase_eq, hlaunchable⟩, ?_⟩
  intro reply s s' es outcome hb
  split at hb
  · cases hb
    exact ⟨.report trivial, by simpa using hQ _⟩
  · contradiction

variable {error : CuaError} {launched : DriverLaunchOutput}

theorem disposed_launched
    (hcalls : calls h = [.launchCalled application, .launchReturned (.ok launched)])
    (hundisturbed : Undisturbed h → error.mutationStatus = .indeterminate)
    (hdisturbed : ¬ Undisturbed h → error.mutationStatus = .notDispatched) : Disposed h error := by
  rw [Disposed, hcalls]
  exact ⟨hundisturbed, hdisturbed⟩

theorem wp_projectLaunchedApplication
    (hr : Running (.launchApplication input) h)
    (hcalls : calls h = [.launchCalled application, .launchReturned (.ok launched)])
    (hi : (view h).issued = none) (hu : Undisturbed h)
    (hQ : ∀ outcome h', MutationSpec (.launchApplication input) outcome h' → Q outcome h') :
    wp (runtimeContract runtime) (runtime.projectLaunchedApplication launched) Q h := by
  have hdone : ∀ outcome h', Unmoved h h' →
      (∀ result, outcome = .ok result → Yields (.launchApplication input) result) →
      (∀ error, outcome = .error error → Disposed h' (notDispatchedByDefault error)) →
      Q outcome h' := fun outcome h' hm hresult hdisposed =>
    hQ outcome h' (.of_launched (hm.running hr) (hm.calls_eq.trans hcalls) (hm.issued_eq.trans hi)
      hresult hdisposed)
  have hbare : ∀ (error : CuaError) h', Unmoved h h' → ¬ Undisturbed h' →
      error.mutationStatus = .notApplicable → Q (.error error) h' := by
    intro error h' hm hdisturbed herror
    refine hdone _ h' hm (by simp) fun e he => ?_
    cases he
    exact disposed_launched (hm.calls_eq.trans hcalls) (fun hu' => absurd hu' hdisturbed)
      fun _ => notDispatchedByDefault_notApplicable herror
  simp only [projectLaunchedApplication, discoveryExpiry, Async.wp_bind]
  refine wp_timestamp _ hr ?_ ?_
  · rintro now text h' hm rfl
    have hu' : Undisturbed (h ++ [.wallClock (some text)]) := by simpa [Undisturbed] using hu
    simp only [Async.onOk_ok, Async.wp_pure, recordLaunched, Async.wp_bind, Async.wp_atomic,
      Async.wp_ofExcept]
    intro _ s s' es outcome hb
    split at hb
    · cases hb
      refine ⟨.discovery (.discoveryFull (hm.running hr).phase_eq), ?_⟩
      simp only [List.append_nil, Async.onOk_error]
      refine hdone _ _ hm (by simp) fun error herror => ?_
      cases herror
      exact disposed_launched (hm.calls_eq.trans hcalls)
        (fun _ => notDispatchedByDefault_indeterminate rfl) fun hdisturbed => absurd hu' hdisturbed
    · rename_i hroom
      cases hb
      have hroom' : s.liveDiscovery.size + [launched.application].length ≤
          runtime.config.maxDiscoveryRecords := Nat.succ_le_of_lt (Nat.not_le.mp hroom)
      refine ⟨.discovery (.discovered (hm.running hr).phase_eq hroom'), ?_⟩
      simp only [Async.onOk_ok, Async.wp_bind]
      have hquiet : ∀ x ∈ [RuntimeEvent.discovered
          [(⟨runtime.uuids.issue "discovery" s.issued⟩, launched.application)]],
          x.isQuiet = true := by simp [RuntimeEvent.isQuiet]
      have hm' := hm.trans (.of_quiet (hm.running hr).holds_eq hquiet)
      have hlocked : ∀ es, (∀ x ∈ es, x.isQuiet = true) → Unmoved h (_ ++ es) := fun es hes =>
        hm'.trans (.of_quiet (hm'.running hr).holds_eq hes)
      refine wp_signalReschedule (hm'.running hr) ?_ ?_
      · rw [Async.onOk_ok, Async.wp_pure]
        exact hdone _ _ (hlocked _ (by simp [RuntimeEvent.isQuiet]))
          (fun result hresult => ⟨_, (Except.ok.inj hresult).symm⟩) (by simp)
      · exact hbare _ _ (hlocked _ (by simp [RuntimeEvent.isQuiet])) (by simp [Undisturbed]) rfl
  · rintro h' hm rfl
    exact hbare _ _ hm (by simp [Undisturbed]) rfl

theorem checkLaunched_error
    {current : DriverLaunchableApplication} {runningBefore : List DriverApplication}
    (he : checkLaunched input current runningBefore launched = .error error) :
    error.mutationStatus = .indeterminate := by
  rw [checkLaunched] at he
  split at he
  · cases he
    rfl
  · split at he
    · cases he
      rfl
    · contradiction

theorem wp_consumeLaunchRef
    (hr : Running (.launchApplication input) h)
    {Q : Except CuaError Unit → List RuntimeEvent → Prop}
    (hok : Q (.ok ()) (h ++ [.launchConsumed input.launchRef]))
    (herror : Q (.error staleLaunchDiscovery) h) :
    wp (runtimeContract runtime) (consumeLaunchRef input.launchRef) Q h := by
  simp only [consumeLaunchRef, Async.wp_bind, Async.wp_atomic, Async.onOk_ok]
  intro _ s s' es consumed hb
  split at hb
  · cases hb
    exact ⟨.silent, by simpa using herror⟩
  · rename_i record hrecord
    cases hb
    exact ⟨.discovery (.launchConsumed hr.phase_eq hrecord), hok⟩

theorem wp_launchCurrent {current : DriverLaunchableApplication}
    (runningBefore : List DriverApplication) (hs : Started (.launchApplication input) h)
    (hu : Undisturbed h)
    (hlaunchable : ∀ es, (∀ later, .applicationsListed later ∉ es) →
      .launchConsumed input.launchRef ∈ es → Launchable (h ++ es) input current)
    (hQ : ∀ outcome h', MutationSpec (.launchApplication input) outcome h' → Q outcome h') :
    wp (runtimeContract runtime) (runtime.launchCurrent input current runningBefore) Q h := by
  rw [launchCurrent, Async.wp_bind]
  refine wp_consumeLaunchRef hs.toRunning ?_ (hQ _ _ (.uncalled hs))
  have hm : ∀ es : List RuntimeEvent, (∀ x ∈ es, x.isQuiet = true) → Unmoved h (h ++ es) :=
    fun es => .of_quiet hs.holds_eq
  have hconsumed := hm [.launchConsumed input.launchRef] (by simp [RuntimeEvent.isQuiet])
  rw [Async.onOk_ok, Async.wp_bind]
  refine wp_signalReschedule (hconsumed.running hs.toRunning) ?_ ?_
  · rw [List.append_assoc]
    have hready := hm ([.launchConsumed input.launchRef] ++ [.schedulerLocked false, .rescheduled])
      (by simp [RuntimeEvent.isQuiet])
    rw [Async.onOk_ok, Async.wp_bind]
    refine wp_callLaunch (hready.started hs) (hlaunchable _ (by simp) (by simp)) fun result => ?_
    generalize hh' : h ++ ([.launchConsumed input.launchRef] ++
      [.schedulerLocked false, .rescheduled]) ++
      [.launchCalled current, .launchReturned result] = h'
    have hview : view h' = view h := by
      rw [← hh', view_append]
      exact hready.view_eq
    have hr : Running (.launchApplication input) h' :=
      ⟨(congrArg TaskView.phase hview).trans hs.phase_eq,
        (congrArg TaskView.holds hview).trans hs.holds_eq⟩
    have hissued : (view h').issued = none := (congrArg TaskView.issued hview).trans hs.issued_eq
    have hmade : calls h' = [.launchCalled current, .launchReturned result] := by
      rw [← hh', calls_append, hready.calls_eq, hs.calls_eq]
      rfl
    have hu' : Undisturbed h' := by simpa [← hh', Undisturbed] using hu
    rw [Async.onOk_ok, Async.wp_bind, Async.wp_ofExcept]
    cases result with
    | error cause =>
        refine hQ _ _ (.of_launched hr hmade hissued (by simp) fun error herror => ?_)
        cases herror
        rw [Disposed, hmade]
        exact notDispatchedByDefault_admitted cause
    | ok launched =>
        simp only [admittedLaunchResult, admittedResult, Except.mapError, Async.onOk_ok,
          Async.wp_bind, Async.wp_ofExcept]
        cases hcheck : checkLaunched input current runningBefore launched with
        | ok _ => exact wp_projectLaunchedApplication hr hmade hissued hu' hQ
        | error error =>
            refine hQ _ _ (.of_launched hr hmade hissued (by simp) fun e he => ?_)
            cases he
            exact disposed_launched hmade
              (fun _ => notDispatchedByDefault_indeterminate (checkLaunched_error hcheck))
              fun hdisturbed => absurd hu' hdisturbed
  · have hpoisoned : Unmoved (h ++ [.launchConsumed input.launchRef])
        (h ++ [.launchConsumed input.launchRef] ++ [.schedulerLocked true]) :=
      .of_quiet (hconsumed.running hs.toRunning).holds_eq (by simp [RuntimeEvent.isQuiet])
    exact hQ _ _ (.uncalled ((hconsumed.trans hpoisoned).started hs))

theorem wp_resolveLaunchRef (launchRef : LaunchRef)
    {Q : Except CuaError DriverLaunchableApplication → List RuntimeEvent → Prop}
    (hok : ∀ application, Q (.ok application) (h ++ [.launchResolved launchRef application]))
    (herror : Q (.error staleLaunchDiscovery) h) :
    wp (runtimeContract runtime) (runtime.resolveLaunchRef launchRef) Q h := by
  simp only [resolveLaunchRef, Async.wp_bind, Async.wp_atomic, Async.onOk_ok]
  intro _ s s' es found hb
  split at hb
  · cases hb
    exact ⟨.silent, by simpa using herror⟩
  · rename_i record hrecord
    cases hb
    obtain ⟨hlookup, hlive⟩ := Option.filter_eq_some_iff.mp hrecord
    simp only [Bool.and_eq_true, beq_iff_eq, decide_eq_true_eq] at hlive
    exact ⟨.report ⟨record, hlookup, rfl, hlive.1, hlive.2⟩, hok _⟩

theorem wp_launchApplication (input : LaunchApplicationInput)
    (hs : Started (.launchApplication input) h) (hu : Undisturbed h)
    (hQ : ∀ outcome h', MutationSpec (.launchApplication input) outcome h' → Q outcome h') :
    wp (runtimeContract runtime) (runtime.launchApplication input) Q h := by
  have hm : ∀ es : List RuntimeEvent, (∀ x ∈ es, x.isQuiet = true) → Unmoved h (h ++ es) :=
    fun es => .of_quiet hs.holds_eq
  have hrefused : ∀ error es, (∀ x ∈ es, x.isQuiet = true) → Q (.error error) (h ++ es) :=
    fun error es hes => hQ _ _ (.uncalled ((hm es hes).started hs))
  rw [launchApplication, Async.wp_bind]
  refine wp_resolveLaunchRef _ (fun expected => ?_) (by simpa using hrefused _ [] (by simp))
  rw [Async.onOk_ok, Async.wp_bind]
  refine wp_listLaunchableApplications (fun listed => ?_)
    fun _ => hrefused _ _ (by simp [RuntimeEvent.isQuiet])
  rw [Async.onOk_ok, List.append_assoc]
  split
  · exact hrefused _ _ (by simp [RuntimeEvent.isQuiet])
  · rename_i current hcurrent
    rw [Async.wp_bind]
    refine wp_listApplications (fun runningBefore => ?_)
      fun _ => hrefused _ _ (by simp [RuntimeEvent.isQuiet])
    rw [Async.onOk_ok, List.append_assoc]
    split
    · exact hrefused _ _ (by simp [RuntimeEvent.isQuiet])
    · rename_i hnotRunning
      refine wp_launchCurrent runningBefore
        ((hm _ (by simp [RuntimeEvent.isQuiet])).started hs) (by simpa [Undisturbed] using hu)
        (fun es hlater hconsumed => ?_) hQ
      exact
        { resolved := ⟨expected, by simp, List.find?_some hcurrent⟩
          listed := ⟨listed, by simp, List.mem_of_find?_eq_some hcurrent⟩
          notRunning := ⟨h ++ [.launchResolved input.launchRef expected,
            .launchablesListed listed], runningBefore, es, by simp, hlater,
            by simpa using hnotRunning⟩
          consumed := List.mem_append_right _ hconsumed }

/-! ## Writing the clipboard -/

theorem checkClipboardOutput_error {output : DriverClipboardWriteOutput}
    (he : checkClipboardOutput output = .error error) :
    error.mutationStatus = .indeterminate := by
  rw [checkClipboardOutput] at he
  cases hmarker : validateClipboardChangeMarker output.changeMarker with
  | error cause =>
      rw [hmarker] at he
      cases he
      rfl
  | ok _ =>
      rw [hmarker] at he
      simp only [Except.mapError, bind, Except.bind] at he
      split at he
      · contradiction
      · cases he
        rfl

theorem wp_takeClipboardMarker {input : WriteClipboardInput}
    (hresolved : .resolved input.sessionId session ∈ h)
    (hallowed : session.manifest.allowClipboardWrite = true)
    (hh : Holding (.writeClipboard input) h)
    {Q : Except CuaError String → List RuntimeEvent → Prop}
    (hok : ∀ marker, Q (.ok marker)
      (h ++ [.clipboardTaken session.id input.clipboardRef marker]))
    (herror : Q (.error staleClipboard) h) :
    wp (runtimeContract runtime) (takeClipboardMarker session input.clipboardRef) Q h := by
  simp only [takeClipboardMarker, Async.wp_bind, Async.wp_atomic, Async.onOk_ok]
  intro _ s s' es marker hb
  split at hb
  · contradiction
  · rename_i entry hentry
    split at hb
    · cases hb
      exact ⟨.silent, by simpa using herror⟩
    · rename_i marker state htaken
      cases hb
      obtain ⟨hclipboard, rfl⟩ := SessionState.takeClipboardMarker_eq_some htaken
      exact ⟨.tables (.clipboardTaken hh.phase_eq hresolved hallowed hh.lane_eq hentry hclipboard),
        hok marker⟩

theorem wp_callWriteClipboard
    {input : WriteClipboardInput} {before : List RuntimeEvent}
    (hh : Holding (.writeClipboard input) h) (hcalls : calls h = [])
    (htaken : h = before ++ [.clipboardTaken session.id input.clipboardRef changeMarker])
    {Q : Except CuaError (Except DriverError DriverClipboardWriteOutput) →
      List RuntimeEvent → Prop}
    (hQ : ∀ outcome h', Holding (.writeClipboard input) h' →
      calls h' = [.clipboardCalled session.id changeMarker, .clipboardReturned outcome] →
      h' = h ++ [.clipboardCalled session.id changeMarker, .clipboardReturned outcome] →
      Q (.ok outcome) h') :
    wp (runtimeContract runtime) (callWriteClipboard session changeMarker) Q h := by
  simp only [callWriteClipboard, Async.wp_bind, Async.wp_report, Async.wp_atomic, Async.onOk_ok]
  refine fun s => ⟨.report ⟨hcalls, hh.lane_eq, input, before, hh.phase_eq, htaken⟩, ?_⟩
  intro reply s s' es outcome hb
  split at hb
  · rename_i outcome
    cases hb
    refine ⟨.report ?_, ?_⟩
    · simp only [RuntimeTruthful, lane, view_snoc]
      rfl
    · rw [List.append_assoc]
      have hview : view (h ++ ([.clipboardCalled session.id changeMarker] ++
          [.clipboardReturned outcome])) = view h := by
        rw [view_append]
        simp [TaskView.next, nextHolds, Phase.next, nextCapture, Lane.next, nextIssued,
          ← hh.lane_eq]
      refine hQ outcome _ ⟨⟨?_, ?_⟩, ?_, ?_⟩ ?_ rfl
      · exact (congrArg TaskView.phase hview).trans hh.phase_eq
      · exact (congrArg TaskView.holds hview).trans hh.holds_eq
      · exact (congrArg TaskView.lane hview).trans hh.lane_eq
      · exact (congrArg TaskView.issued hview).trans hh.issued_eq
      · rw [calls_append, hcalls]
        rfl
  · contradiction

theorem wp_writeClipboardText {input : WriteClipboardInput}
    (hresolved : .resolved input.sessionId session ∈ h)
    (hallowed : session.manifest.allowClipboardWrite = true)
    (hh : Holding (.writeClipboard input) h) (hcalls : calls h = [])
    (hQ : ∀ outcome h', WriteSpec input outcome h' → Q outcome h') :
    wp (runtimeContract runtime) (runtime.writeClipboardText session input) Q h := by
  have hfailed : ∀ (error : CuaError) h', Holding (.writeClipboard input) h' →
      (∀ call, .performCalled call ∉ calls h') → Disposed h' (notDispatchedByDefault error) →
      Q (.error error) h' := by
    intro error h' hh' huncalled hdisposed
    refine hQ _ _ ⟨.of_error hh'.toRunning hh'.issued_eq, hh'.lane_eq, by simp, ?_, huncalled⟩
    rintro _ ⟨⟩
    exact hdisposed
  rw [writeClipboardText, Async.wp_bind]
  refine wp_takeClipboardMarker hresolved hallowed hh (fun changeMarker => ?_)
    (hfailed _ _ hh (by simp [hcalls]) (by simp [Disposed, hcalls]))
  have hm : Unmoved h (h ++ [.clipboardTaken session.id input.clipboardRef changeMarker]) :=
    .of_quiet hh.holds_eq (by simp [RuntimeEvent.isQuiet])
  rw [Async.onOk_ok, Async.wp_bind]
  refine wp_callWriteClipboard (hm.holding hh) (hm.calls_eq.trans hcalls) rfl
    fun result h' hh' hmade heq => ?_
  rw [Async.onOk_ok, Async.wp_bind, Async.wp_ofExcept]
  cases result with
  | error cause =>
      refine hfailed _ _ hh' (by simp [hmade]) ?_
      rw [Disposed, hmade]
      exact notDispatchedByDefault_bare cause
  | ok output =>
      simp only [Except.mapError, Async.onOk_ok, Async.wp_bind, Async.wp_ofExcept]
      cases hcheck : checkClipboardOutput output with
      | error error =>
          refine hfailed _ _ hh' (by simp [hmade]) ?_
          rw [Disposed, hmade]
          exact notDispatchedByDefault_indeterminate (checkClipboardOutput_error hcheck)
      | ok _ =>
          rw [Async.onOk_ok, Async.wp_bind]
          have hresolved' : .resolved input.sessionId session ∈ h' := by simp [heq, hresolved]
          refine wp_issueClipboard hresolved' hh'
            (.inr ⟨input, changeMarker, hh'.phase_eq, rfl, by simp [heq]⟩)
            (.inr ⟨output, by simp [heq], rfl⟩) fun clipboardRef => ?_
          rw [Async.onOk_ok, Async.wp_pure]
          refine hQ _ _ ⟨.of_issued _ _ hh'.toRunning fun _ => Iff.rfl, ?_, ?_, by simp, ?_⟩
          · rw [lane, view_clipboardIssued]
            exact hh'.lane_eq
          · exact fun result hresult => ⟨_, (Except.ok.inj hresult).symm⟩
          · rw [calls_append, hmade]
            simp [calls, RuntimeEvent.isCall]

theorem wp_writeClipboard (input : WriteClipboardInput) (hs : Started (.writeClipboard input) h)
    (hQ : ∀ outcome h', MutationSpec (.writeClipboard input) outcome h' → Q outcome h') :
    wp (runtimeContract runtime) (runtime.writeClipboard input) Q h := by
  have hrefused : ∀ error h', Unmoved h h' → Q (.error error) h' := fun error h' hm =>
    hQ _ _ (.uncalled (hm.started hs))
  rw [writeClipboard, Async.wp_bind]
  refine wp_resolveSession _ hs.toRunning (fun session h₁ hm hresolved => ?_) hrefused
  rw [Async.onOk_ok]
  split
  · rename_i hallowed
    refine (Calm.ofExcept _).wp_bind (hm.running hs.toRunning)
      (fun error _ hm' => hrefused error _ (hm.trans hm')) fun _ h₂ hm' => ?_
    have hs' := (hm.trans hm').started hs
    refine wp_onClipboard _ hs'.toRunning hs'.lane_eq hs'.issued_eq
      (hrefused _ _ (hm.trans hm')) fun h₃ hh hlocked => ?_
    subst hlocked
    refine wp_writeClipboardText (List.mem_append_left _ (hm'.mem hresolved)) hallowed hh ?_
      fun outcome h₄ hw => ⟨hw.lane_eq, hQ _ _ hw.unlocked⟩
    rw [calls_append, hs'.calls_eq]
    rfl
  · exact hrefused _ _ hm

end RuntimeService

end NexusCua.Runtime
