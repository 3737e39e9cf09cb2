import NexusCua.Runtime.Authority

/-!
# The tables of a session

The references of windows and applications lead to them and back, every known
window is of an allowed application, a window has at most one observation that
is not invalid, and there are never more observations than the configuration
allows, whatever commands and terminations run at the same time.
-/

namespace NexusCua.Runtime

open NexusCua.Foundation NexusCua.Protocol

variable {runtime : RuntimeService} {session : Session} {issued issued' : Nat}
  {state : SessionState}

/-! ## References -/

/-- The references of a session were drawn before and name what they were drawn for. -/
structure References (runtime : RuntimeService) (session : Session) (issued : Nat)
    (state : SessionState) : Prop where
  windows : Table.Indexed DriverWindow.key state.windowRefs state.windows
  applications : Table.Indexed DriverApplication.key state.applicationRefs state.applications
  windowDrawn : ∀ key windowRef, state.windowRefs.lookup key = some windowRef →
    ∃ n, n < issued ∧ windowRef = ⟨runtime.uuids.issue "window" n⟩
  applicationDrawn : ∀ key appRef, state.applicationRefs.lookup key = some appRef →
    ∃ n, n < issued ∧ appRef = ⟨runtime.uuids.issue "app" n⟩
  allowed : ∀ windowRef window, state.windows.lookup windowRef = some window →
    session.allowsApplication window.application = true

namespace References

theorem empty : References runtime session issued .empty where
  windows := .empty _
  applications := .empty _
  windowDrawn _ _ hr := by simp [SessionState.empty] at hr
  applicationDrawn _ _ hr := by simp [SessionState.empty] at hr
  allowed _ _ hw := by simp [SessionState.empty] at hw

section

variable (hr : References runtime session issued state)
include hr

theorem mono (hle : issued ≤ issued') :
    References runtime session issued' state where
  windows := hr.windows
  applications := hr.applications
  windowDrawn key windowRef hkey := by
    obtain ⟨n, hn, hdrawn⟩ := hr.windowDrawn key windowRef hkey
    exact ⟨n, hn.trans_le hle, hdrawn⟩
  applicationDrawn key appRef hkey := by
    obtain ⟨n, hn, hdrawn⟩ := hr.applicationDrawn key appRef hkey
    exact ⟨n, hn.trans_le hle, hdrawn⟩
  allowed := hr.allowed

theorem newWindow :
    state.windows.lookup ⟨runtime.uuids.issue "window" issued⟩ = none := by
  by_contra hwindow
  obtain ⟨window, hwindow⟩ := Option.ne_none_iff_exists'.mp hwindow
  obtain ⟨n, hn, hdrawn⟩ := hr.windowDrawn _ _ (hr.windows.back _ window hwindow)
  simp only [WindowRef.mk.injEq, UuidSource.issue_inj] at hdrawn
  omega

theorem newApplication :
    state.applications.lookup ⟨runtime.uuids.issue "app" issued⟩ = none := by
  by_contra happlication
  obtain ⟨application, happlication⟩ := Option.ne_none_iff_exists'.mp happlication
  obtain ⟨n, hn, hdrawn⟩ :=
    hr.applicationDrawn _ _ (hr.applications.back _ application happlication)
  simp only [AppRef.mk.injEq, UuidSource.issue_inj] at hdrawn
  omega

theorem projectApplication
    (application : DriverApplication) :
    References runtime session (state.projectApplication runtime.uuids issued application).2.1
      (state.projectApplication runtime.uuids issued application).2.2 := by
  rw [SessionState.projectApplication]
  split
  · rename_i existing hknown
    exact { hr with applications := hr.applications.refresh hknown }
  · rename_i hnew
    refine { hr.mono (Nat.le_succ issued) with
      applications := hr.applications.add hnew hr.newApplication
      applicationDrawn := fun key appRef hkey => ?_ }
    rw [Table.lookup_insert_eq] at hkey
    split at hkey
    · cases hkey
      exact ⟨issued, Nat.lt_succ_self issued, rfl⟩
    · exact (hr.mono (Nat.le_succ issued)).applicationDrawn key appRef hkey

theorem projectWindow {window : DriverWindow}
    (hallowed : session.allowsApplication window.application = true) :
    References runtime session (state.projectWindow runtime.uuids issued window).2.1
      (state.projectWindow runtime.uuids issued window).2.2 := by
  have hall : ∀ inserted windowRef known,
      (state.windows.insert inserted window).lookup windowRef = some known →
      session.allowsApplication known.application = true := by
    intro inserted windowRef known hknown
    rw [Table.lookup_insert_eq] at hknown
    split at hknown
    · cases hknown
      exact hallowed
    · exact hr.allowed windowRef known hknown
  rw [SessionState.projectWindow]
  split
  · rename_i existing hknown
    exact { hr with windows := hr.windows.refresh hknown, allowed := hall existing }
  · rename_i hnew
    refine { hr.mono (Nat.le_succ issued) with
      windows := hr.windows.add hnew hr.newWindow
      windowDrawn := fun key windowRef hkey => ?_
      allowed := hall _ }
    rw [Table.lookup_insert_eq] at hkey
    split at hkey
    · cases hkey
      exact ⟨issued, Nat.lt_succ_self issued, rfl⟩
    · exact (hr.mono (Nat.le_succ issued)).windowDrawn key windowRef hkey

theorem projectDisplay (display : DriverDisplay) :
    References runtime session (state.projectDisplay runtime.uuids issued display).2.1
      (state.projectDisplay runtime.uuids issued display).2.2 := by
  rw [SessionState.projectDisplay]
  split
  · exact { hr with }
  · exact { hr.mono (Nat.le_succ issued) with }

theorem project {state' : SessionState}
    (hp : Projection runtime session issued state issued' state') :
    References runtime session issued' state' :=
  hp.induction hr (fun _ _ hr => { hr with })
    (fun _ _ application hr => hr.projectApplication application)
    (fun _ _ _ hallowed hr => hr.projectWindow hallowed)
    (fun _ _ display hr => hr.projectDisplay display)

end

end References

/-! ## Observations -/

/-- A window has at most one observation that is not invalid, and there is room for all. -/
structure ObservationsBounded (limit : Nat) (observations : Table ObservationId ObservationRecord) :
    Prop where
  single : ∀ id record id' record', observations.lookup id = some record →
    observations.lookup id' = some record' → record'.windowRef = record.windowRef →
    record.status ≠ .invalid → record'.status ≠ .invalid → id' = id
  size_le : observations.size ≤ limit

def Wanes (observations observations' : Table ObservationId ObservationRecord) : Prop :=
  ∀ id record', observations'.lookup id = some record' →
    ∃ record, observations.lookup id = some record ∧ record'.windowRef = record.windowRef ∧
      (record'.status ≠ .invalid → record.status ≠ .invalid)

namespace ObservationsBounded

variable {limit : Nat} {observations observations' : Table ObservationId ObservationRecord}

theorem wane (hb : ObservationsBounded limit observations) (hw : Wanes observations observations')
    (hsize : observations'.size ≤ observations.size) : ObservationsBounded limit observations' where
  single id record id' record' hr hr' hwindow hlive hlive' := by
    obtain ⟨old, hold, hwindow₁, hlive₁⟩ := hw id record hr
    obtain ⟨old', hold', hwindow₂, hlive₂⟩ := hw id' record' hr'
    exact hb.single id old id' old' hold hold' (by rw [← hwindow₁, ← hwindow₂, hwindow])
      (hlive₁ hlive) (hlive₂ hlive')
  size_le := hsize.trans hb.size_le

theorem setStatus {id : ObservationId} {status : ObservationStatus}
    (hb : ObservationsBounded limit state.observations)
    (hs : status = .invalid ∨
      ∃ record, state.observations.lookup id = some record ∧ record.status = .valid) :
    ObservationsBounded limit (state.setStatus id status).observations := by
  refine hb.wane (fun other record' hr => ?_) (Table.size_mapValues _ _).le
  simp only [SessionState.setStatus, Table.lookup_modify] at hr
  split at hr
  · subst other
    obtain ⟨record, hrecord, rfl⟩ := Option.map_eq_some_iff.mp hr
    refine ⟨record, hrecord, rfl, fun hlive => ?_⟩
    rcases hs with rfl | ⟨known, hknown, hvalid⟩
    · exact absurd rfl hlive
    · obtain rfl := Option.some.inj (hknown.symm.trans hrecord)
      simp [hvalid]
  · exact ⟨record', hr, rfl, fun hlive => hlive⟩

theorem invalidateWhere (hb : ObservationsBounded limit state.observations)
    (affected : WindowRef → Bool) :
    ObservationsBounded limit (state.invalidateWhere affected).observations := by
  refine hb.wane (fun id record' hr => ?_) (Table.size_mapValues _ _).le
  simp only [SessionState.invalidateWhere, Table.lookup_mapValues] at hr
  obtain ⟨record, hrecord, rfl⟩ := Option.map_eq_some_iff.mp hr
  refine ⟨record, hrecord, ?_, ?_⟩ <;> split <;> simp

theorem retain (hb : ObservationsBounded limit observations)
    (keep : ObservationId → ObservationRecord → Bool) :
    ObservationsBounded limit (observations.retain keep) := by
  refine hb.wane (fun id record' hr => ?_) (Table.size_retain_le _ _)
  rw [Table.lookup_retain] at hr
  exact ⟨record', (Option.filter_eq_some_iff.mp hr).1, rfl, fun hlive => hlive⟩

theorem trimObservations (hb : ObservationsBounded limit state.observations) (count : Nat) :
    ObservationsBounded limit (state.trimObservations count).observations := by
  rw [SessionState.trimObservations]
  split
  · exact hb
  · exact hb.retain fun id _ =>
      !(state.oldestObservations (state.observations.size - count + 1)).contains id

end ObservationsBounded

theorem size_retain_oldest (state : SessionState) (count : Nat) :
    (state.observations.retain fun id _ => !(state.oldestObservations count).contains id).size ≤
      state.observations.size - count := by
  set sorted := state.observations.toList.insertionSort fun left right =>
    left.2.createdAt ≤ right.2.createdAt with hsorted
  have hperm : sorted.Perm state.observations.toList := List.perm_insertionSort _ _
  have holdest : state.oldestObservations count = (sorted.take count).map Prod.fst := rfl
  have htaken : (sorted.take count).countP (fun entry =>
      !(state.oldestObservations count).contains entry.1) = 0 := by
    rw [List.countP_eq_zero]
    intro entry hentry
    simp only [Bool.not_eq_true', Bool.not_eq_false, List.contains_iff_mem, holdest]
    exact List.mem_map_of_mem hentry
  calc (state.observations.retain fun id _ => !(state.oldestObservations count).contains id).size
      = sorted.countP fun entry => !(state.oldestObservations count).contains entry.1 := by
        rw [Table.size_retain, hperm.countP_eq]
    _ = (sorted.drop count).countP fun entry =>
          !(state.oldestObservations count).contains entry.1 := by
        conv_lhs => rw [← List.take_append_drop count sorted]
        rw [List.countP_append, htaken, Nat.zero_add]
    _ ≤ (sorted.drop count).length := List.countP_le_length
    _ = state.observations.size - count := by
        rw [List.length_drop, hperm.length_eq, Table.length_toList]

theorem size_trimObservations_lt {limit : Nat} (hlimit : 0 < limit) (state : SessionState) :
    (state.trimObservations limit).observations.size < limit := by
  rw [SessionState.trimObservations]
  split
  · assumption
  · have hsize := size_retain_oldest state (state.observations.size - limit + 1)
    simp only
    omega

theorem References.publish (hr : References runtime session issued state) (limit : Nat)
    (record : ObservationRecord) :
    References runtime session issued (state.publish limit record) := by
  rw [SessionState.publish, SessionState.trimObservations]
  split <;> exact { hr with }

theorem not_live_of_invalidated {windowRef : WindowRef} {id : ObservationId}
    {record : ObservationRecord}
    (hr : (state.invalidateWindowObservations windowRef).observations.lookup id = some record)
    (hwindow : record.windowRef = windowRef) : record.status = .invalid := by
  simp only [SessionState.invalidateWindowObservations, SessionState.invalidateWhere,
    Table.lookup_mapValues] at hr
  obtain ⟨old, -, rfl⟩ := Option.map_eq_some_iff.mp hr
  by_cases haffected : (old.windowRef == windowRef) = true
  · rw [if_pos haffected]
  · rw [if_neg haffected] at hwindow
    exact absurd (beq_iff_eq.mpr hwindow) haffected

theorem ObservationsBounded.publish {limit : Nat} (hlimit : 0 < limit)
    (hb : ObservationsBounded limit state.observations) (record : ObservationRecord) :
    ObservationsBounded limit (state.publish limit record).observations := by
  have hrest := (hb.invalidateWhere fun candidate => candidate == record.windowRef).trimObservations
    limit
  have hinvalid : ∀ id other,
      ((state.invalidateWindowObservations record.windowRef).trimObservations
        limit).observations.lookup id = some other → other.windowRef = record.windowRef →
      other.status = .invalid := by
    intro id other hother hwindow
    rw [SessionState.trimObservations] at hother
    split at hother
    · exact not_live_of_invalidated hother hwindow
    · rw [Table.lookup_retain] at hother
      exact not_live_of_invalidated (Option.filter_eq_some_iff.mp hother).1 hwindow
  constructor
  · intro id first id' second hfirst hsecond hwindow hlive hlive'
    simp only [SessionState.publish, Table.lookup_insert_eq] at hfirst hsecond
    split at hfirst <;> split at hsecond
    · simp_all
    · cases hfirst
      exact absurd (hinvalid id' second hsecond hwindow) hlive'
    · cases hsecond
      exact absurd (hinvalid id first hfirst hwindow.symm) hlive
    · exact hrest.single id first id' second hfirst hsecond hwindow hlive hlive'
  · exact (Table.size_insert_le _ _ _).trans (size_trimObservations_lt hlimit _)

/-! ## All sessions -/

structure Consistent (runtime : RuntimeService) (session : Session) (issued : Nat)
    (state : SessionState) : Prop where
  references : References runtime session issued state
  observations : ObservationsBounded runtime.config.maxObservationsPerSession state.observations

def AllConsistent (runtime : RuntimeService) (s : RuntimeState) : Prop :=
  ∀ sessionId entry, s.heap.lookup sessionId = some entry →
    Consistent runtime entry.session s.issued entry.state

section Preservation

variable {s s' : RuntimeState} {h es : List RuntimeEvent} {sessionId : SessionId}

theorem Consistent.mono (hc : Consistent runtime session issued state) (hle : issued ≤ issued') :
    Consistent runtime session issued' state :=
  ⟨hc.references.mono hle, hc.observations⟩

theorem Consistent.empty (runtime : RuntimeService) (session : Session) (issued : Nat) :
    Consistent runtime session issued .empty where
  references := .empty
  observations := ⟨fun _ _ _ _ hr => by simp [SessionState.empty] at hr, Nat.zero_le _⟩

namespace AllConsistent

section

variable (hc : AllConsistent runtime s)
include hc

theorem of_same (hheap : s'.heap = s.heap)
    (hissued : s.issued ≤ s'.issued) : AllConsistent runtime s' := by
  intro sessionId entry hentry
  exact (hc sessionId entry (hheap ▸ hentry)).mono hissued

theorem modify {f : SessionEntry → SessionEntry}
    (hissued : s.issued ≤ issued') (hf : ∀ entry, s.heap.lookup sessionId = some entry →
      Consistent runtime (f entry).session issued' (f entry).state) :
    AllConsistent runtime { s.modifySession sessionId f with issued := issued' } := by
  intro other entry' hentry'
  rw [RuntimeState.lookup_modifySession] at hentry'
  split at hentry'
  · subst other
    obtain ⟨entry, hentry, rfl⟩ := Option.map_eq_some_iff.mp hentry'
    exact hf entry hentry
  · exact (hc other entry' hentry').mono hissued

theorem insert {cell : GuardCell}
    (hheap : s'.heap = s.heap.insert session.id ⟨session, cell, .empty⟩)
    (hissued : s.issued ≤ s'.issued) : AllConsistent runtime s' := by
  intro other entry hentry
  rw [hheap, Table.lookup_insert_eq] at hentry
  split at hentry
  · cases hentry
    exact .empty _ _ _
  · exact (hc other entry hentry).mono hissued

theorem closeSessions (sessionIds : List SessionId) :
    AllConsistent runtime (s.closeSessions sessionIds) := by
  induction sessionIds generalizing s with
  | nil => exact hc
  | cons sessionId rest ih =>
      have hclosed : AllConsistent runtime (s.closeSession sessionId) :=
        hc.modify (le_refl s.issued) fun entry hentry => hc sessionId entry hentry
      exact ih hclosed

end

end AllConsistent

theorem SessionEffect.allConsistent (he : SessionEffect runtime h s es s')
    (hc : AllConsistent runtime s) : AllConsistent runtime s' := by
  cases he with
  | opened | refused => exact hc.insert rfl (Nat.le_succ _)
  | rejected => exact hc.of_same rfl (Nat.le_succ _)
  | unmapped => exact hc.of_same rfl (le_refl s.issued)
  | @closed sessionId => exact hc.closeSessions [sessionId]
  | @expired sessionId =>
      exact (hc.closeSessions [sessionId]).of_same rfl (le_refl s.issued)

theorem AllConsistent.tables {entry : SessionEntry} (hc : AllConsistent runtime s)
    (hentry : s.heap.lookup sessionId = some entry) (hissued : s.issued ≤ issued')
    (hstate : Consistent runtime entry.session issued' state) :
    AllConsistent runtime
      { s.modifyTables sessionId fun _ => state with issued := issued' } := by
  refine hc.modify hissued fun entry' hentry' => ?_
  obtain rfl := Option.some.inj (hentry.symm.trans hentry')
  exact hstate

section

variable (hc : AllConsistent runtime s)
  (hresolved : ∀ sessionId session, .resolved sessionId session ∈ h → ∀ entry,
    s.heap.lookup session.id = some entry → entry.session = session)
include hc hresolved

theorem TableEffect.allConsistent (he : TableEffect runtime h s es s') :
    AllConsistent runtime s' := by
  cases he with
  | projected hknown hentry hproject =>
      have hconsistent := hc _ _ hentry
      have hsession := hresolved _ _ hknown _ hentry
      refine hc.tables hentry hproject.issued_le ⟨?_, ?_⟩
      · rw [hsession] at hconsistent ⊢
        exact hconsistent.references.project hproject
      · rw [hproject.frame.1]
        exact hconsistent.observations
  | clipboardIssued _ _ hentry =>
      have hconsistent := (hc _ _ hentry).mono (Nat.le_succ s.issued)
      exact hc.tables hentry (Nat.le_succ _)
        ⟨{ hconsistent.references with }, hconsistent.observations⟩
  | clipboardTaken _ _ _ _ hentry =>
      have hconsistent := hc _ _ hentry
      exact hc.tables hentry (le_refl s.issued)
        ⟨{ hconsistent.references with }, hconsistent.observations⟩
  | observationInvalidated _ _ hentry =>
      have hconsistent := hc _ _ hentry
      exact hc.tables hentry (le_refl s.issued)
        ⟨{ hconsistent.references with }, hconsistent.observations.setStatus (.inl rfl)⟩
  | consumed _ _ _ hconsumable =>
      have hconsistent := hc _ _ hconsumable.entry_eq
      exact hc.tables hconsumable.entry_eq (le_refl s.issued)
        ⟨{ hconsistent.references with }, hconsistent.observations.setStatus
          (.inr ⟨_, hconsumable.record_eq, hconsumable.valid⟩)⟩
  | published _ hentry _ hissued =>
      have hconsistent := (hc _ _ hentry).mono hissued.le
      exact hc.tables hentry hissued.le ⟨hconsistent.references.publish _ _,
        hconsistent.observations.publish runtime.accepted.maxObservationsPerSession_pos _⟩
  | windowInvalidated | applicationInvalidated =>
      refine hc.modify (le_refl s.issued) fun entry hentry => ?_
      have hconsistent := hc _ _ hentry
      exact ⟨{ hconsistent.references with }, hconsistent.observations.invalidateWhere _⟩

theorem RuntimeEffect.allConsistent (he : RuntimeEffect runtime h s es s') :
    AllConsistent runtime s' := by
  cases he with
  | drawn => exact hc.of_same rfl (Nat.le_succ _)
  | guard => exact hc.modify (le_refl s.issued) fun entry hentry => hc _ entry hentry
  | control he =>
      obtain ⟨sessionIds, hheap⟩ := he.frame.heap_eq
      refine (hc.closeSessions sessionIds).of_same hheap ?_
      rw [RuntimeState.closeSessions_eq]
      exact he.frame.issued_eq.ge
  | session he => exact he.allConsistent hc
  | tables he => exact TableEffect.allConsistent hc hresolved he
  | discovery he =>
      cases he with
      | discovered | launchesDiscovered => exact hc.of_same rfl (Nat.le_add_right _ _)
      | _ => exact hc.of_same rfl (le_refl s.issued)
  | store he => cases he <;> exact hc.of_same rfl (le_refl s.issued)
  | _ => exact hc.of_same rfl (le_refl s.issued)

end

theorem RuntimeEffect.of_published {record : ObservationRecord}
    (he : RuntimeEffect runtime h s es s') (hx : .published sessionId record ∈ es) :
    record.status = .valid ∧ ∃ entry, s'.heap.lookup sessionId = some entry ∧
      entry.state.observations.lookup record.id = some record := by
  cases he.of_table hx rfl with
  | published hcapture hentry hid hissued hwindow hcreated hvalid =>
      rename_i entry capture other issued
      obtain ⟨rfl, rfl⟩ := RuntimeEvent.published.inj (List.mem_singleton.mp hx)
      refine ⟨hvalid, { entry with
        state := entry.state.publish runtime.config.maxObservationsPerSession record }, ?_, ?_⟩
      · exact (RuntimeState.lookup_modifySession _ _ _ _).trans (by rw [if_pos rfl, hentry]; rfl)
      · simp [SessionState.publish]
  | _ => simp at hx

end Preservation

/-! ## Runs -/

namespace RuntimeRun

variable {s s₀ : RuntimeState} {steps before after : List RuntimeStep} {e : RuntimeStep} {t : Nat}

theorem allConsistent (hr : RuntimeRun runtime s₀ steps s) (h₀ : WellFormed runtime s₀)
    (hheap : s₀.heap = ∅) : AllConsistent runtime s := by
  refine hr.induction (P := fun _ s => AllConsistent runtime s) ?_ ?_ ?_
  · intro sessionId entry hentry
    simp [hheap] at hentry
  · intro before t s es s' hbefore hc hb
    refine RuntimeEffect.allConsistent hc (fun sessionId session hresolved entry hentry => ?_)
      hb.effect
    obtain ⟨hid, entry', hentry', hsession⟩ := hbefore.resolved h₀ hresolved
    rw [hid] at hentry
    rw [← Option.some.inj (hentry'.symm.trans hentry), hsession]
  · intro before s s' _ hc he
    cases he <;> exact hc.of_same rfl (le_refl s.issued)

end RuntimeRun

/--
In every reachable state the tables of every session are in order, a key has kept
its reference since every earlier step, and what an observation returned was
stored, valid and bound to the window when it was published.
-/
theorem sessionTables_consistent (runtime : RuntimeService) (c : RuntimePool)
    (hc : Reachable runtime.system c) :
    (∀ sessionId entry, c.shared.heap.lookup sessionId = some entry →
      Table.Indexed DriverWindow.key entry.state.windowRefs entry.state.windows ∧
      Table.Indexed DriverApplication.key entry.state.applicationRefs entry.state.applications ∧
      (∀ key key' windowRef, entry.state.windowRefs.lookup key = some windowRef →
        entry.state.windowRefs.lookup key' = some windowRef → key = key') ∧
      (∀ key key' appRef, entry.state.applicationRefs.lookup key = some appRef →
        entry.state.applicationRefs.lookup key' = some appRef → key = key') ∧
      (∀ windowRef window, entry.state.windows.lookup windowRef = some window →
        ∃ application ∈ entry.session.allowedApplications,
          application.matchesGeneration window.application = true) ∧
      ObservationsBounded runtime.config.maxObservationsPerSession entry.state.observations) ∧
    (∀ before e after, c.steps = before ++ e :: after → ∀ sessionId entry,
      e.pre.heap.lookup sessionId = some entry →
      ∃ entry', c.shared.heap.lookup sessionId = some entry' ∧
        entry'.session = entry.session ∧ KeepsRefs entry.state entry'.state) ∧
    ∀ before e after t input observation, c.steps = before ++ e :: after → e.task = some t →
      (.returned (.observeWindow input) (.ok (.windowObserved observation)) ∈ e.events ∨
        .returned (.observeApplicationScene input) (.ok (.windowObserved observation)) ∈
          e.events) →
      ∃ earlier f later record entry, before = earlier ++ f :: later ∧ f.task = some t ∧
        .published input.sessionId record ∈ f.events ∧
        f.post.heap.lookup input.sessionId = some entry ∧
        entry.state.observations.lookup observation.observationId = some record ∧
        record.status = .valid ∧ record.windowRef = input.windowRef := by
  obtain ⟨s₀, ⟨now, rfl⟩, hr⟩ := runtime.run_of_reachable hc
  have h₀ := WellFormed.initial runtime now
  refine ⟨fun sessionId entry hentry => ?_, fun before e after hsteps sessionId entry hentry => ?_,
    fun before e after t input observation hsteps ht hreturned => ?_⟩
  · obtain ⟨hreferences, hobservations⟩ := RuntimeRun.allConsistent hr h₀ rfl sessionId entry hentry
    exact ⟨hreferences.windows, hreferences.applications,
      fun _ _ _ hkey hkey' => hreferences.windows.injective hkey hkey',
      fun _ _ _ hkey hkey' => hreferences.applications.injective hkey hkey',
      fun windowRef window hwindow =>
        List.any_eq_true.mp (hreferences.allowed windowRef window hwindow),
      hobservations⟩
  · obtain ⟨entry', hentry', ha⟩ :=
      (RuntimeRun.evolves (hsteps ▸ hr) h₀).1.ages sessionId entry hentry
    exact ⟨entry', hentry', ha.session, ha.refs⟩
  · have hr' : RuntimeRun runtime _ (before ++ e :: after) _ := hsteps ▸ hr
    have hpublished : Published (history t before) input observation := by
      rcases hreturned with hreturned | hreturned <;>
        exact (hr'.reported ht hreturned rfl).2.observed
    obtain ⟨session, record, hresolved, hevent, hid, hwindow⟩ := hpublished
    rw [(hr'.prior.resolved h₀ hresolved).1] at hevent
    obtain ⟨earlier, f, later, rfl, hf, hevent⟩ := exists_split_of_mem_history hevent
    obtain ⟨hvalid, entry, hentry, hrecord⟩ := (hr'.prior.effect hf).of_published hevent
    exact ⟨earlier, f, later, record, entry, rfl, hf, hevent, hentry, hid ▸ hrecord, hvalid,
      hwindow⟩

/-- The observation of the editor was consumed and invalidated; its window is still known. -/
theorem minimizePool_tables : ∃ entry, minimizePool.shared.heap.lookup ⟨"session_0"⟩ = some entry ∧
    entry.state.windowRefs.lookup "main" = some ⟨"window_000"⟩ ∧
    Table.Indexed DriverWindow.key entry.state.windowRefs entry.state.windows := by
  refine ⟨_, rfl, rfl, ?_⟩
  exact ((sessionTables_consistent exampleRuntime _ minimizePool_reachable).1 ⟨"session_0"⟩ _ rfl).1

end NexusCua.Runtime
