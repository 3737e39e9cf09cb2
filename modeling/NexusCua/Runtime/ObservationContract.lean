import NexusCua.Runtime.MutationContract

/-!
# Observations keep the contract

Storing a screenshot leaves the session to be looked at once more, and a capture
ends with its record published or with nothing.
-/

namespace NexusCua.Runtime

open NexusCua.Foundation NexusCua.Protocol
open NexusCua.Foundation.Async (wp)

variable {runtime : RuntimeService} {command : Command} {χ α : Type} {h : List RuntimeEvent}

/-! ## Screenshots -/

/-- The task has come to owe exactly `held`, without a call. -/
structure Owing (held : List Hold) (h h' : List RuntimeEvent) : Prop where
  grown : h <+: h'
  view_eq : view h' = { view h with holds := held }
  calls_eq : calls h' = calls h

theorem Owing.refl (hh : holds h = []) : Owing [] h h where
  grown := List.prefix_rfl
  view_eq := by rw [← hh]
  calls_eq := rfl

variable {h' : List RuntimeEvent}

theorem Owing.unmoved (ho : Owing [] h h') (hh : holds h = []) :
    Unmoved h h' where
  grown := ho.grown
  view_eq := by rw [ho.view_eq, ← hh]
  calls_eq := ho.calls_eq

variable {held : List Hold}

theorem Owing.append {h' es : List RuntimeEvent} (ho : Owing held h h')
    {held' : List Hold}
    (hview : es.foldl TaskView.next { view h with holds := held } =
      { view h with holds := held' })
    (hcalls : calls es = []) : Owing held' h (h' ++ es) where
  grown := ho.grown.trans (List.prefix_append _ _)
  view_eq := by rw [view_append, ho.view_eq, hview]
  calls_eq := by rw [calls_append, hcalls, List.append_nil, ho.calls_eq]

/-- The task has made no further call and its ghost state is as before, the capture apart. -/
structure Settled (h h' : List RuntimeEvent) : Prop where
  grown : h <+: h'
  view_eq : view h' = { view h with capture := capturing h' }
  calls_eq : calls h' = calls h

theorem Unmoved.settled (hm : Unmoved h h') : Settled h h' :=
  ⟨hm.grown, by rw [capturing, hm.view_eq], hm.calls_eq⟩

theorem Settled.refl (h : List RuntimeEvent) : Settled h h := (Unmoved.refl h).settled

theorem Settled.trans {h' h'' : List RuntimeEvent} (hs : Settled h h') (hs' : Settled h' h'') :
    Settled h h'' :=
  ⟨hs.grown.trans hs'.grown, by rw [hs'.view_eq, hs.view_eq], hs'.calls_eq.trans hs.calls_eq⟩

theorem Settled.of_snoc {x : RuntimeEvent}
    (hx : ∀ v : TaskView, v.next x = { v with capture := (v.next x).capture })
    (hcall : x.isCall = false) : Settled h (h ++ [x]) where
  grown := List.prefix_append _ _
  view_eq := by rw [capturing, view_snoc]; exact hx _
  calls_eq := by simp [calls, hcall]

theorem Settled.running (hs : Settled h h') (hr : Running command h) :
    Running command h' where
  phase_eq := by rw [phase, hs.view_eq]; exact hr.phase_eq
  holds_eq := by rw [holds, hs.view_eq]; exact hr.holds_eq

theorem Settled.issued_eq (hs : Settled h h') :
    (view h').issued = (view h).issued := by
  rw [hs.view_eq]

theorem wp_storageStep {step : ArtifactStore → Option ArtifactStore} {events : List RuntimeEvent}
    (hstep : ∀ s store, step s.store = some store →
      RuntimeEffect runtime h s events { s with store := store })
    {Q : Except CuaError Unit → List RuntimeEvent → Prop} (hok : Q (.ok ()) (h ++ events))
    (herror : Q (.error ioError) h) :
    wp (runtimeContract runtime) (storageStep step events) Q h := by
  simp only [storageStep, Async.wp_bind, Async.wp_atomic, Async.onOk_ok]
  intro reply s s' es done hb
  split at hb
  · split at hb
    · cases hb
      exact ⟨hstep s _ ‹_›, hok⟩
    · cases hb
      exact ⟨.silent, by simpa using herror⟩
  · cases hb
    exact ⟨.silent, by simpa using herror⟩
  · contradiction

variable {Q : Except CuaError Unit → List RuntimeEvent → Prop}

section

variable (sessionId : SessionId)
include sessionId

theorem wp_createArtifactDirectory (hQ : ∀ outcome, Q outcome h) :
    wp (runtimeContract runtime) (createArtifactDirectory sessionId) Q h := by
  refine wp_storageStep (fun s store hstore => ?_) (by simpa using hQ _) (hQ _)
  cases hstore
  exact .store .directoryCreated

theorem wp_setDirectoryPermissions (hQ : ∀ outcome, Q outcome h) :
    wp (runtimeContract runtime) (setDirectoryPermissions sessionId) Q h := by
  refine wp_storageStep (fun s store hstore => ?_) (by simpa using hQ _) (hQ _)
  split at hstore
  · cases hstore
    exact .silent
  · contradiction

theorem wp_writeArtifactFile (artifactRef : ArtifactRef)
    (bytes : List UInt8) (hwriting : .writing sessionId artifactRef ∈ holds h)
    (hok : Q (.ok ()) (h ++ [.fileWritten sessionId artifactRef true]))
    (herror : Q (.error ioError) (h ++ [.fileWritten sessionId artifactRef false])) :
    wp (runtimeContract runtime) (writeArtifactFile sessionId artifactRef bytes) Q h := by
  simp only [writeArtifactFile, Async.wp_bind, Async.wp_atomic, Async.onOk_ok]
  intro reply s s' es done hb
  split at hb
  · cases hb
    exact ⟨.store .fileWritten, hok⟩
  · cases hb
    exact ⟨.report ⟨rfl, hwriting⟩, herror⟩
  · contradiction

theorem wp_removeEvicted (evicted : Option ArtifactRef) (hok : Q (.ok ()) h)
    (herror : evicted.isSome = true → Q (.error ioError) h) :
    wp (runtimeContract runtime) (removeEvicted sessionId evicted) Q h := by
  cases evicted with
  | none => exact hok
  | some evicted =>
      simp only [removeEvicted, Async.wp_bind, Async.wp_update, Async.onOk_ok]
      intro s
      cases hstore : s.store.removeFile sessionId evicted with
      | none => exact ⟨.silent, herror rfl⟩
      | some store => exact ⟨.store (.evicted hstore), hok⟩

end

namespace RuntimeService

variable {h' : List RuntimeEvent} {Q : Except CuaError Unit → List RuntimeEvent → Prop}
  {sessionId : SessionId}

theorem wp_registerArtifact {artifactRef : ArtifactRef}
    (ho : Owing [.writing sessionId artifactRef] h h')
    (hok : ∀ held h', Owing held h h' → (∀ hold ∈ held, hold = .registered sessionId) →
      Q (.ok ()) h')
    (herror : ∀ error h', Owing [] h h' → Q (.error error) h') :
    wp (runtimeContract runtime) (runtime.registerArtifact sessionId artifactRef) Q h' := by
  simp only [registerArtifact, Async.wp_bind, Async.wp_atomic, Async.onOk_ok]
  intro _ s s' es evicted hb
  cases hb
  refine ⟨.store (.registered (by rw [holds, ho.view_eq])), ?_⟩
  generalize (s.store.registerArtifact sessionId artifactRef
    runtime.config.maxArtifactsPerSession).2 = evicted
  cases evicted with
  | none =>
      refine wp_removeEvicted sessionId none (hok [.registered sessionId] _ ?_ (by simp)) (by simp)
      exact ho.append (by simp [TaskView.next, nextHolds, Phase.next, nextCapture, Lane.next,
        nextIssued]) rfl
  | some evicted =>
      have ho' : Owing [] h (h' ++ [.registered sessionId artifactRef (some evicted)]) :=
        ho.append (by simp [TaskView.next, nextHolds, Phase.next, nextCapture, Lane.next,
          nextIssued]) rfl
      exact wp_removeEvicted sessionId (some evicted) (hok [] _ ho' (by simp))
        fun _ => herror _ _ ho'

variable {session : Session}

section

variable {Q : Except CuaError ScreenshotArtifact → List RuntimeEvent → Prop}
  (hh : holds h = []) (hresolved : .resolved sessionId session ∈ h)
  (hok : ∀ artifact held h', Owing held h h' → (∀ hold ∈ held, hold = .registered session.id) →
    Q (.ok artifact) h')
  (herror : ∀ error h', Owing [] h h' → Q (.error error) h')
include hh hresolved hok herror

theorem wp_storeFile (artifactRef : ArtifactRef) (bytes : List UInt8)
    (artifact : ScreenshotArtifact) :
    wp (runtimeContract runtime) (do
      createArtifactFile session.id artifactRef
      writeArtifactFile session.id artifactRef bytes
      runtime.registerArtifact session.id artifactRef
      pure artifact) Q h := by
  rw [Async.wp_bind]
  refine wp_storageStep (fun s store hstore => .store (.fileCreated hresolved hstore)) ?_
    (herror _ _ (.refl hh))
  have hcreated : Owing [.writing session.id artifactRef] h
      (h ++ [.fileCreated session.id artifactRef]) :=
    (Owing.refl hh).append
      (by simp [TaskView.next, nextHolds, Phase.next, nextCapture, Lane.next, nextIssued]) rfl
  rw [Async.onOk_ok, Async.wp_bind]
  refine wp_writeArtifactFile _ _ bytes (by simp [holds, hcreated.view_eq]) ?_ ?_
  · rw [Async.onOk_ok, Async.wp_bind]
    have hwritten : Owing [.writing session.id artifactRef] h
        (h ++ [.fileCreated session.id artifactRef] ++
          [.fileWritten session.id artifactRef true]) :=
      hcreated.append rfl rfl
    refine wp_registerArtifact hwritten (fun held h' ho hheld => ?_) herror
    exact hok artifact held h' ho hheld
  · exact herror _ _ (hcreated.append
      (by simp [TaskView.next, nextHolds, Phase.next, nextCapture, Lane.next, nextIssued]) rfl)

theorem wp_writeImage (image : RgbaImage) (screenBounds : ScreenRect) :
    wp (runtimeContract runtime) (runtime.writeImage session.id image screenBounds) Q h := by
  have hrefused : ∀ error, Q (.error error) h := fun error => herror error h (.refl hh)
  rw [writeImage, Async.wp_bind, Async.wp_ofExcept]
  cases validateImage runtime.imageLimits image with
  | error error => exact hrefused error
  | ok _ =>
      simp only [Async.onOk_ok, drawArtifact, Async.wp_bind, Async.wp_update]
      refine fun s => ⟨.drawn, ?_⟩
      refine wp_createArtifactDirectory _ fun outcome => ?_
      cases outcome with
      | error error => exact hrefused error
      | ok _ =>
          rw [Async.onOk_ok, Async.wp_bind]
          refine wp_setDirectoryPermissions _ fun outcome => ?_
          cases outcome with
          | error error => exact hrefused error
          | ok _ =>
              rw [Async.onOk_ok, Async.wp_bind, Async.wp_ofExcept]
              cases encodeImage runtime.codec runtime.imageLimits image with
              | error error => exact hrefused error
              | ok encoded => exact wp_storeFile hh hresolved hok herror _ encoded.2 _

theorem wp_writeScreenshot (image : RgbaImage) (screenBounds : ScreenRect) :
    wp (runtimeContract runtime) (runtime.writeScreenshot session.id image screenBounds) Q h := by
  have hrelease : ∀ outcome h', Q outcome h' →
      wp (runtimeContract runtime) (do releasePermit; Async.ofExcept outcome) Q h' := by
    intro outcome h' hQ
    simp only [releasePermit, Async.wp_bind, Async.wp_update, Async.onOk_ok, Async.wp_ofExcept]
    exact fun s => ⟨.permits, hQ⟩
  simp only [writeScreenshot, acquirePermit, Async.wp_bind, Async.wp_atomic, Async.onOk_ok]
  intro _ s s' es _ hb
  split at hb
  · contradiction
  · cases hb
    refine ⟨.permits, ?_⟩
    simp only [List.append_nil, Async.wp_attempt, startWorker, Async.wp_bind, Async.wp_receive,
      Async.onOk_ok]
    refine fun _ s started _ => ⟨.silent, ?_⟩
    cases started with
    | true =>
        rw [if_pos rfl, Async.wp_pure, Async.onOk_ok]
        refine wp_writeImage hh hresolved (fun artifact held h' ho hheld => ?_)
          (fun error h' ho => ?_)
          image screenBounds
        · exact hrelease (.ok artifact) h' (hok artifact held h' ho hheld)
        · exact hrelease (.error error) h' (herror error h' ho)
    | false => exact hrelease (.error _) h (herror _ _ (.refl hh))

end

theorem wp_removeRegistered
    (ho : Owing held h h') (hheld : ∀ hold ∈ held, hold = .registered sessionId)
    (hQ : ∀ error h', Owing [] h h' → Q (.error error) h') :
    wp (runtimeContract runtime) (do
      removeSessionArtifacts sessionId
      .fail sessionUnavailable) Q h' := by
  rw [Async.wp_bind]
  refine wp_removeSessionArtifacts sessionId (hQ _ _ (ho.append ?_ rfl))
  simp only [List.foldl_cons, List.foldl_nil, TaskView.next, nextHolds, Phase.next, nextCapture,
    Lane.next, nextIssued, TaskView.mk.injEq, and_true, true_and]
  refine List.filter_eq_nil_iff.mpr fun hold hhold => ?_
  rcases List.mem_cons.mp hhold with rfl | hhold
  · simp
  · obtain ⟨hmem, hne⟩ := List.mem_filter.mp hhold
    simp [hheld hold hmem] at hne

theorem wp_ensureLive
    (hh : holds h = []) (ho : Owing held h h') (hheld : ∀ hold ∈ held, hold = .registered sessionId)
    (hQ : ∀ outcome h', Unmoved h h' → Q outcome h') :
    wp (runtimeContract runtime) (ensureLive sessionId) Q h' := by
  have herror : ∀ error h', Owing [] h h' → Q (.error error) h' := fun error h' ho' =>
    hQ _ _ (ho'.unmoved hh)
  rw [ensureLive, Async.wp_bind]
  refine wp_isRevoked sessionId ?_ fun expired => ?_
  · have hclosed : Owing held h (h' ++ [.guard sessionId (.sawClosed true)]) := ho.append rfl rfl
    exact wp_removeRegistered hclosed hheld herror
  · -- An open session has been looked at: nothing is owed for it any more.
    have hopen : Owing [] h (h' ++ [.guard sessionId (.sawClosed false),
        .guard sessionId (.sawExpired expired)]) := by
      refine ho.append ?_ rfl
      simp only [List.foldl_cons, List.foldl_nil, TaskView.next, nextHolds, Phase.next, nextCapture,
        Lane.next, nextIssued, TaskView.mk.injEq, and_true, true_and]
      exact List.filter_eq_nil_iff.mpr fun hold hhold => by simp [hheld hold hhold]
    cases expired with
    | true => exact wp_removeRegistered hopen (by simp) herror
    | false => exact hQ _ _ (hopen.unmoved hh)

/-! ## Displays -/

theorem wp_captureDisplay (input : ObserveDisplayInput)
    (hr : Running command h) (hresolved : .resolved sessionId session ∈ h)
    {Q : Except CuaError CommandResult → List RuntimeEvent → Prop}
    (hQ : ∀ outcome h', Unmoved h h' → Q outcome h') :
    wp (runtimeContract runtime) (runtime.captureDisplay session input) Q h := by
  refine (calm_readTables _ _).wp_bind hr (fun _ => hQ _) fun display h₁ hm => ?_
  cases display with
  | none => exact hQ _ _ hm
  | some display =>
      refine (calm_askDriver _).wp_bind (hm.running hr) (fun _ _ hm' => hQ _ _ (hm.trans hm'))
        fun ⟨image, screenBounds⟩ h₂ hm' => ?_
      replace hm := hm.trans hm'
      have hnothing := (hm.running hr).holds_eq
      simp only
      split
      · rw [Async.wp_bind]
        refine wp_writeScreenshot hnothing (hm.mem hresolved) ?_ ?_ _ _
        · intro screenshot held h₃ ho hheld
          rw [Async.onOk_ok, Async.wp_bind]
          refine wp_ensureLive hnothing ho hheld fun outcome h₄ hm' => ?_
          replace hm := hm.trans hm'
          cases outcome with
          | error error => exact hQ _ _ hm
          | ok _ =>
              refine Calm.wp ?_ (hm.running hr) fun outcome h₅ hm' => hQ _ _ (hm.trans hm')
              exact (calm_timestamp _).bind fun _ =>
                (Calm.update fun _ _ => .drawn).bind fun _ => .pure _
        · exact fun error h₃ ho => hQ _ _ (hm.trans (ho.unmoved hnothing))
      · exact hQ _ _ hm

theorem calm_observeDisplay (input : ObserveDisplayInput) :
    Calm runtime command (runtime.observeDisplay input) := by
  refine .of_wp fun h Q hr hQ => ?_
  rw [observeDisplay, Async.wp_bind]
  refine wp_resolveSession _ hr (fun session h' hm hresolved => ?_) fun _ _ hm => hQ _ _ hm
  rw [Async.onOk_ok]
  split
  · exact wp_captureDisplay input (hm.running hr) hresolved fun _ _ hm' => hQ _ _ (hm.trans hm')
  · exact hQ _ _ hm

/-! ## Windows -/

theorem calm_observeDriverWindow : Calm runtime command observeDriverWindow := by
  refine (Calm.receive _).bind fun first => ?_
  split
  · exact (Calm.receive _).bind fun _ => .ofExcept _
  · exact .ofExcept _

theorem wp_storeScreenshot
    (observation : DriverObservation) (hh : holds h = [])
    (hresolved : .resolved sessionId session ∈ h)
    {Q : Except CuaError (Option ScreenshotArtifact) → List RuntimeEvent → Prop}
    (hok : ∀ screenshot held h', Owing held h h' →
      (∀ hold ∈ held, hold = .registered session.id) → Q (.ok screenshot) h')
    (herror : ∀ error h', Owing [] h h' → Q (.error error) h') :
    wp (runtimeContract runtime) (runtime.storeScreenshot session observation) Q h := by
  rw [storeScreenshot]
  split
  · rw [Async.wp_bind]
    exact wp_writeScreenshot hh hresolved (fun artifact => hok (some artifact)) herror _ _
  · exact hok none [] h (.refl hh) (by simp)
  · exact herror _ _ (.refl hh)

theorem wp_publishObservation (session : Session) (windowRef : WindowRef) (applicationScene : Bool)
    (startedAt : Nat) (observation : DriverObservation) (screenshot : Option ScreenshotArtifact)
    (capturedAt : String) {application : DriverApplication}
    (hcapture : capturing h = some ⟨session.id, windowRef, application, startedAt⟩)
    {Q : Except CuaError WindowObservation → List RuntimeEvent → Prop}
    (hQ : ∀ value record h', Settled h h' → .published session.id record ∈ h' →
      record.id = value.observationId → record.windowRef = windowRef → Q (.ok value) h') :
    wp (runtimeContract runtime) (runtime.publishObservation session windowRef applicationScene
      startedAt observation screenshot capturedAt) Q h := by
  rw [publishObservation, Async.wp_atomic]
  intro _ s s' es value hb
  split at hb
  · contradiction
  · rename_i entry hentry
    cases hb
    refine ⟨.tables (.published hcapture hentry rfl ?_ rfl rfl rfl),
      hQ _ _ _ (.of_snoc (fun _ => rfl) rfl) (List.mem_append_right _ (.head _)) rfl rfl⟩
    exact Nat.lt_of_lt_of_le (Nat.lt_succ_self _) (Nat.le_add_right _ _)

def PublishedFor (input : ObserveWindowInput) (outcome : Except CuaError WindowObservation)
    (h : List RuntimeEvent) : Prop :=
  ∀ observation, outcome = .ok observation → Published h input observation

theorem wp_captureWindow (input : ObserveWindowInput)
    (applicationScene : Bool) {window : DriverWindow} (hr : Running command h)
    (hresolved : .resolved input.sessionId session ∈ h)
    (hfound : .windowFound session.id input.windowRef window ∈ h)
    {Q : Except CuaError WindowObservation → List RuntimeEvent → Prop}
    (hQ : ∀ outcome h', Settled h h' → PublishedFor input outcome h' → Q outcome h') :
    wp (runtimeContract runtime) (runtime.captureWindow session input applicationScene window)
      Q h := by
  rw [captureWindow, Async.wp_bind, startCapture, Async.wp_atomic]
  intro _ s s' es startedAt hb
  cases hb
  refine ⟨.report ⟨rfl, window, hfound, rfl⟩, ?_⟩
  rw [Async.onOk_ok]
  generalize hh₁ : h ++ [.captureStarted ⟨session.id, input.windowRef, window.application,
    s.now⟩] = h₁
  have hstarted : Settled h h₁ := hh₁ ▸ .of_snoc (fun _ => rfl) rfl
  have hcapture : capturing h₁ = some ⟨session.id, input.windowRef, window.application, s.now⟩ := by
    rw [← hh₁, capturing, view_append]
    rfl
  have hr₁ := hstarted.running hr
  have hfailed : ∀ error h', Unmoved h₁ h' → Q (.error error) h' := fun error h' hm =>
    hQ _ _ (hstarted.trans hm.settled) (by simp [PublishedFor])
  refine calm_observeDriverWindow.wp_bind hr₁ hfailed fun observation h₂ hm => ?_
  refine (calm_isRevoked _).wp_bind (hm.running hr₁)
    (fun _ _ hm' => hfailed _ _ (hm.trans hm')) fun revoked h₃ hm' => ?_
  replace hm := hm.trans hm'
  split
  · exact hfailed _ _ hm
  · split
    · exact hfailed _ _ hm
    · rw [Async.wp_bind]
      have hnothing := (hm.running hr₁).holds_eq
      refine wp_storeScreenshot observation hnothing
        (hm.mem (hstarted.grown.subset hresolved)) (fun screenshot held h₄ ho hheld => ?_)
        fun error h₄ ho => hfailed _ _ (hm.trans (ho.unmoved hnothing))
      rw [Async.onOk_ok, Async.wp_bind]
      refine wp_ensureLive hnothing ho hheld fun outcome h₅ hm' => ?_
      replace hm := hm.trans hm'
      cases outcome with
      | error error => exact hfailed _ _ hm
      | ok _ =>
          refine (calm_timestamp _).wp_bind (hm.running hr₁)
            (fun _ _ hm' => hfailed _ _ (hm.trans hm')) fun ⟨_, capturedAt⟩ h₆ hm' => ?_
          replace hm := hm.trans hm'
          have hcapturing := (congrArg TaskView.capture hm.view_eq).trans hcapture
          refine wp_publishObservation _ _ _ _ _ _ _ hcapturing
            fun value record h₇ hs hpublished hid hwindow => ?_
          have hs' := hstarted.trans (hm.settled.trans hs)
          refine hQ _ _ hs' fun observation hvalue => ?_
          cases hvalue
          exact ⟨session, record, hs'.grown.subset hresolved, hpublished, hid, hwindow⟩

theorem wp_observeWindow (input : ObserveWindowInput) (applicationScene : Bool)
    (hr : Running command h) {Q : Except CuaError WindowObservation → List RuntimeEvent → Prop}
    (hQ : ∀ outcome h', Settled h h' → PublishedFor input outcome h' → Q outcome h') :
    wp (runtimeContract runtime) (runtime.observeWindow input applicationScene) Q h := by
  have hfailed : ∀ error h', Unmoved h h' → Q (.error error) h' := fun error h' hm =>
    hQ _ _ hm.settled (by simp [PublishedFor])
  rw [observeWindow, Async.wp_bind]
  refine wp_resolveSession _ hr (fun session h₁ hm hresolved => ?_) hfailed
  rw [Async.onOk_ok, Async.wp_bind]
  refine wp_authorizedWindow session _ (hm.running hr) (fun window h₂ hm' hfound => ?_)
    fun _ _ hm' => hfailed _ _ (hm.trans hm')
  replace hm := hm.trans hm'
  exact wp_captureWindow input applicationScene (hm.running hr) (hm'.mem hresolved) hfound
    fun _ _ hs => hQ _ _ (hm.settled.trans hs)

end RuntimeService

end NexusCua.Runtime
