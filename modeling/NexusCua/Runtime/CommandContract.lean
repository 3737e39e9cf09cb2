import NexusCua.Runtime.ServiceContract

/-!
# The commands keep the contract

The commands that list, observe or change what the runtime itself holds, one
after the other.  Each of them is calm.
-/

namespace NexusCua.Runtime

open NexusCua.Foundation NexusCua.Protocol
open NexusCua.Foundation.Async (wp)

variable {runtime : RuntimeService} {command : Command} {χ α β : Type} {h : List RuntimeEvent}

/-! ## Clocks and discovery records -/

theorem wp_timestamp (message : String) (hr : Running command h)
    {Q : Except CuaError (Nat × String) → List RuntimeEvent → Prop}
    (hok : ∀ now text h', Unmoved h h' → h' = h ++ [.wallClock (some text)] →
      Q (.ok (now, text)) h')
    (herror : ∀ h', Unmoved h h' → h' = h ++ [.wallClock none] →
      Q (.error (internalError message none)) h') :
    wp (runtimeContract runtime) (timestamp message) Q h := by
  simp only [timestamp, wallClock, Async.wp_bind, Async.wp_atomic, Async.onOk_ok]
  intro reply s s' es value hb
  split at hb
  · rename_i text
    cases hb
    have hm : Unmoved h (h ++ [.wallClock text]) :=
      .of_quiet hr.holds_eq (by simp [RuntimeEvent.isQuiet])
    refine ⟨.report trivial, ?_⟩
    cases text with
    | none => exact herror _ hm rfl
    | some text => exact hok _ _ _ hm rfl
  · contradiction

theorem calm_timestamp (message : String) : Calm runtime command (timestamp message) :=
  .of_wp fun _ _ hr hQ => wp_timestamp message hr (fun _ _ _ hm _ => hQ _ _ hm)
    fun _ hm _ => hQ _ _ hm

theorem calm_recordDiscovered {κ υ : Type} [DecidableEq κ] {table : RuntimeState → Table κ υ}
    {withTable : RuntimeState → Table κ υ → RuntimeState} {expiresAt : υ → Nat} {limit : Nat}
    (full : CuaError) {draw : Nat → List (κ × α)} {record : α → υ}
    {event : List (κ × α) → RuntimeEvent} (hquiet : ∀ drawn, (event drawn).isQuiet = true)
    (hfull : ∀ h s, Running command h → RuntimeEffect runtime h s []
      (withTable s ((table s).retain fun _ record => decide (s.now < expiresAt record))))
    (hdrawn : ∀ h s, Running command h →
      ((table s).retain fun _ record => decide (s.now < expiresAt record)).size +
        (draw s.issued).length ≤ limit →
      RuntimeEffect runtime h s [event (draw s.issued)]
        { withTable s (insertDrawn record (draw s.issued)
            ((table s).retain fun _ record => decide (s.now < expiresAt record))) with
          issued := s.issued + (draw s.issued).length }) :
    Calm runtime command
      (recordDiscovered table withTable expiresAt limit full draw record event) := by
  refine Calm.bind (.atomic fun h i s s' es b hr hb => ?_) fun _ => .ofExcept _
  simp only at hb
  split at hb
  · cases hb
    exact ⟨hfull h s hr, by simp⟩
  · rename_i hroom
    cases hb
    exact ⟨hdrawn h s hr (Nat.not_lt.mp hroom), by simpa using hquiet _⟩

namespace RuntimeService

theorem calm_getCapabilities : Calm runtime command runtime.getCapabilities :=
  (calm_askDriver _).bind fun _ => .pure _

theorem calm_getPermissionStatus : Calm runtime command getPermissionStatus :=
  (calm_askDriver _).bind fun _ => .pure _

theorem calm_discoveryExpiry : Calm runtime command runtime.discoveryExpiry :=
  (calm_timestamp _).bind fun _ => .pure _

theorem length_drawDiscoveryRefs (uuids : UuidSource) (issued : Nat)
    (applications : List DriverApplication) :
    (drawDiscoveryRefs uuids issued applications).length = applications.length := by
  simp [drawDiscoveryRefs]

theorem length_drawLaunchRefs (uuids : UuidSource) (issued : Nat)
    (applications : List DriverLaunchableApplication) :
    (drawLaunchRefs uuids issued applications).length = applications.length := by
  simp [drawLaunchRefs]

theorem calm_discoverApplications : Calm runtime command runtime.discoverApplications := by
  refine calm_listApplications.bind fun listed => calm_discoveryExpiry.bind fun expiry => ?_
  refine Calm.bind (calm_recordDiscovered _ (fun _ => rfl) (fun h s hr => ?_)
    fun h s hr hroom => ?_) fun _ => calm_signalReschedule.bind fun _ => .pure _
  · exact .discovery (.discoveryFull hr.phase_eq)
  · rw [length_drawDiscoveryRefs] at hroom ⊢
    exact .discovery (.discovered hr.phase_eq hroom)

theorem calm_discoverLaunchableApplications :
    Calm runtime command runtime.discoverLaunchableApplications := by
  refine calm_listLaunchableApplications.bind fun listed =>
    calm_discoveryExpiry.bind fun expiry => ?_
  refine Calm.bind (calm_recordDiscovered _ (fun _ => rfl) (fun h s hr => ?_)
    fun h s hr hroom => ?_) fun _ => calm_signalReschedule.bind fun _ => .pure _
  · exact .discovery (.launchesFull hr.phase_eq)
  · rw [length_drawLaunchRefs] at hroom ⊢
    exact .discovery (.launchesDiscovered hr.phase_eq hroom)

/-! ## Sessions -/

theorem wp_expectedApplications (requested : List DiscoveryRef) (hr : Running command h)
    {Q : Except CuaError (List DriverApplication) → List RuntimeEvent → Prop}
    (hok : ∀ expected now h', Unmoved h h' → .discoveryResolved requested expected now ∈ h' →
      Q (.ok expected) h')
    (herror : ∀ error h', Unmoved h h' → Q (.error error) h') :
    wp (runtimeContract runtime) (runtime.expectedApplications requested) Q h := by
  simp only [expectedApplications, Async.wp_bind, Async.wp_observe, Async.wp_atomic,
    Async.onOk_ok, Async.wp_ofExcept]
  refine fun s => ⟨.report rfl, ?_⟩
  intro _ s' s'' es outcome hb
  have hclock : Unmoved h (h ++ [.clockRead s.now]) :=
    .of_quiet hr.holds_eq (by simp [RuntimeEvent.isQuiet])
  split at hb
  · cases hb
    exact ⟨.silent, by simpa using herror _ _ hclock⟩
  · rename_i expected hexpected
    cases hb
    refine ⟨.report ⟨by simp, hexpected⟩, hok _ s.now _ (hclock.trans (.of_quiet ?_ ?_)) (by simp)⟩
    · exact (hclock.running hr).holds_eq
    · simp [RuntimeEvent.isQuiet]

theorem wp_resolveDiscoveryRefs (requested : List DiscoveryRef) (hr : Running command h)
    {Q : Except CuaError (List DriverApplication) → List RuntimeEvent → Prop}
    (hok : ∀ resolved h', Unmoved h h' →
      (∃ expected now listed, .discoveryResolved requested expected now ∈ h' ∧
        .applicationsListed listed ∈ h' ∧ resolveApplications expected listed = .ok resolved) →
      Q (.ok resolved) h')
    (herror : ∀ error h', Unmoved h h' → Q (.error error) h') :
    wp (runtimeContract runtime) (runtime.resolveDiscoveryRefs requested) Q h := by
  rw [resolveDiscoveryRefs, Async.wp_bind]
  refine wp_expectedApplications requested hr (fun expected now h₁ hm hexpected => ?_) herror
  rw [Async.onOk_ok, Async.wp_bind]
  refine wp_listApplications (fun listed => ?_) fun error => herror error h₁ hm
  have hm' : Unmoved h₁ (h₁ ++ [.applicationsListed listed]) :=
    .of_quiet (hm.running hr).holds_eq (by simp [RuntimeEvent.isQuiet])
  rw [Async.onOk_ok, Async.wp_ofExcept]
  cases hresolved : resolveApplications expected listed with
  | error error => exact herror error _ (hm.trans hm')
  | ok resolved =>
      exact hok resolved _ (hm.trans hm')
        ⟨expected, now, listed, hm'.mem hexpected, by simp, hresolved⟩

theorem calm_sessionExpiry (ttlSeconds : Nat) : Calm runtime command (sessionExpiry ttlSeconds) :=
  (calm_timestamp _).bind fun _ => .pure _

theorem wp_insertSession {manifest : CapabilityManifest}
    {allowedApplications : List DriverApplication} (expiresAt : Nat)
    (hr : Running (.openSession manifest) h)
    (hselected : ∀ session : Session, session.manifest = manifest →
      session.allowedApplications = allowedApplications → Selected h session)
    {Q : Except CuaError SessionId → List RuntimeEvent → Prop}
    (hQ : ∀ outcome h', Unmoved h h' → Q outcome h') :
    wp (runtimeContract runtime)
      (runtime.insertSession manifest allowedApplications expiresAt) Q h := by
  simp only [insertSession, Async.wp_bind, Async.wp_atomic, Async.onOk_ok, Async.wp_ofExcept]
  intro reply s s' es outcome hb
  split at hb
  · rename_i hcapacity
    cases hb
    refine ⟨.session (.rejected hr.phase_eq hcapacity), ?_⟩
    exact hQ _ _ (.of_quiet hr.holds_eq (by simp [dropSession, RuntimeEvent.isQuiet]))
  · rename_i hcapacity
    split at hb
    · cases hb
      refine ⟨.session (.opened hr.phase_eq (hselected _ rfl rfl) (Nat.not_le.mp hcapacity) rfl),
        ?_⟩
      exact hQ _ _ (.of_quiet hr.holds_eq (by simp [RuntimeEvent.isQuiet]))
    · cases hb
      refine ⟨.session (.refused hr.phase_eq (hselected _ rfl rfl) (Nat.not_le.mp hcapacity) rfl),
        ?_⟩
      exact hQ _ _ (.of_quiet hr.holds_eq
        (by simp [dropSession, GuardCell.newLease, GuardCell.initial, RuntimeEvent.isQuiet]))
    · contradiction

theorem calm_openSession (manifest : CapabilityManifest) :
    Calm runtime (.openSession manifest) (runtime.openSession manifest) := by
  refine .of_wp fun h Q hr hQ => ?_
  refine (Calm.ofExcept _).wp_bind hr (fun _ _ => hQ _ _) fun _ h₁ hm => ?_
  rw [Async.wp_bind]
  refine wp_resolveDiscoveryRefs _ (hm.running hr) (fun allowedApplications h₂ hm' hresolved => ?_)
    fun _ _ hm' => hQ _ _ (hm.trans hm')
  replace hm := hm.trans hm'
  refine (calm_sessionExpiry _).wp_bind (hm.running hr) (fun _ _ hm' => hQ _ _ (hm.trans hm'))
    fun ⟨expiresAt, text⟩ h₃ hm' => ?_
  replace hm := hm.trans hm'
  rw [Async.wp_bind]
  refine wp_insertSession expiresAt (hm.running hr) (fun session hmanifest hallowed => ?_)
    fun outcome h₄ hm'' => ?_
  · obtain ⟨expected, now, listed, hexpected, hlisted, hresolved⟩ := hresolved
    refine ⟨expected, now, listed, ?_, hm'.mem hlisted, by rw [hallowed, hresolved]⟩
    rw [hmanifest]
    exact hm'.mem hexpected
  · replace hm := hm.trans hm''
    cases outcome with
    | error error => exact hQ _ _ hm
    | ok sessionId =>
        exact (calm_signalReschedule.bind fun _ => .pure _).wp (hm.running hr)
          fun _ _ hm' => hQ _ _ (hm.trans hm')

theorem calm_closeSession (sessionId : SessionId) :
    Calm runtime (.closeSession sessionId) (closeSession sessionId) := by
  refine .of_wp fun h Q hr hQ => ?_
  simp only [closeSession, Async.wp_bind, Async.wp_atomic, Async.onOk_ok]
  intro _ s s' es removed hb
  split at hb
  · rename_i hmapped
    cases hb
    refine ⟨.session (.unmapped hr.phase_eq (by simpa using hmapped)), ?_⟩
    simp only [if_true, Async.wp_bind, Async.wp_atomic, Async.onOk_ok]
    intro _ s s' es _ hb
    cases hb
    have hclosing : .closing sessionId ∈ holds (h ++ [.unmapped [sessionId]]) := by
      simp [holds, view_snoc, TaskView.next, nextHolds]
    refine ⟨.session (.closed hclosing), wp_removeSessionArtifacts sessionId ?_⟩
    have hremoved : Unmoved h (h ++ [.unmapped [sessionId]] ++ closingEvents s [sessionId] ++
        [.indexRemoved sessionId, .directoryRemoved sessionId]) := by
      rw [← List.append_cons]
      exact unmoved_removed hr.holds_eq (List.prefix_append h _)
        (view_reaped h s [sessionId] hr.holds_eq) (calls_reaped h s [sessionId])
    rw [Async.onOk_ok, Async.wp_bind]
    refine calm_signalReschedule.wp (hremoved.running hr) fun outcome h' hm => ?_
    cases outcome <;> exact hQ _ _ (hremoved.trans hm)
  · cases hb
    exact ⟨.silent, hQ _ _ (.of_quiet hr.holds_eq (by simp))⟩

/-! ## Listings -/

theorem calm_listApps (sessionId : SessionId) :
    Calm runtime command (runtime.listApps sessionId) := by
  refine .of_wp fun h Q hr hQ => ?_
  rw [listApps, Async.wp_bind]
  refine wp_resolveSession sessionId hr (fun session h₁ hm hresolved => ?_) fun _ _ => hQ _ _
  refine calm_listApplications.wp_bind (hm.running hr) (fun _ _ hm' => hQ _ _ (hm.trans hm'))
    fun listed h₂ hm' => ?_
  rw [Async.wp_bind]
  refine wp_updateTables session.id (fun s entry hentry => ?_) fun _ => hQ _ _ (hm.trans hm')
  refine .tables (.projected (hm'.mem hresolved) hentry (.applications fun application hmem => ?_))
  exact (List.mem_filter.mp hmem).2

theorem calm_listedApplication (session : Session) (appRef : Option AppRef) :
    Calm runtime command (listedApplication session appRef) := by
  cases appRef with
  | none => exact .pure none
  | some appRef =>
      refine (calm_readTables _ _).bind fun application => ?_
      cases application with
      | none => exact .fail _
      | some application => exact .pure _

theorem calm_windowsRequested (sessionId : SessionId) (keys : List String) :
    Calm runtime command
      (Async.report (.windowsRequested sessionId keys) : RuntimeProgram χ Unit) := by
  refine .atomic fun h i s s' es b _ hb => ?_
  cases hb
  exact ⟨.report trivial, by simp [RuntimeEvent.isQuiet]⟩

theorem calm_listWindows (input : ListWindowsInput) :
    Calm runtime command (runtime.listWindows input) := by
  refine .of_wp fun h Q hr hQ => ?_
  rw [listWindows, Async.wp_bind]
  refine wp_resolveSession _ hr (fun session h₁ hm hresolved => ?_) fun _ _ => hQ _ _
  refine (calm_listedApplication session _).wp_bind (hm.running hr)
    (fun _ _ hm' => hQ _ _ (hm.trans hm')) fun applicationKey h₂ hm₂ => ?_
  refine (calm_windowsRequested _ _).wp_bind ((hm.trans hm₂).running hr)
    (fun _ _ hm' => hQ _ _ ((hm.trans hm₂).trans hm')) fun _ h₃ hm₃ => ?_
  refine (calm_askDriver _).wp_bind (((hm.trans hm₂).trans hm₃).running hr)
    (fun _ _ hm' => hQ _ _ (((hm.trans hm₂).trans hm₃).trans hm')) fun listed h₄ hm₄ => ?_
  have hrest := (hm₂.trans hm₃).trans hm₄
  rw [Async.wp_bind]
  refine wp_updateTables session.id (fun s entry hentry => ?_) fun _ => hQ _ _ (hm.trans hrest)
  refine .tables (.projected (hrest.mem hresolved) hentry (.windows fun window hmem => ?_))
  exact (List.mem_filter.mp hmem).2

theorem calm_listDisplays (sessionId : SessionId) :
    Calm runtime command (runtime.listDisplays sessionId) := by
  refine .of_wp fun h Q hr hQ => ?_
  rw [listDisplays, Async.wp_bind]
  refine wp_resolveSession _ hr (fun session h₁ hm hresolved => ?_) fun _ _ => hQ _ _
  rw [Async.onOk_ok]
  split
  · refine (calm_askDriver _).wp_bind (hm.running hr) (fun _ _ hm' => hQ _ _ (hm.trans hm'))
      fun listed h₂ hm' => ?_
    simp only
    split
    · exact hQ _ _ (hm.trans hm')
    · rw [Async.wp_bind]
      refine wp_updateTables session.id (fun s entry hentry => ?_) fun _ => hQ _ _ (hm.trans hm')
      exact .tables (.projected (hm'.mem hresolved) hentry .displays)
  · exact hQ _ _ hm

theorem calm_verifyState (input : VerifyStateInput) : Calm runtime command (verifyState input) :=
  (calm_resolveSession _).bind fun _ => (calm_authorizedWindow _ _).bind fun _ =>
    (calm_askDriver _).bind fun _ => .pure _

end RuntimeService

end NexusCua.Runtime
