import NexusCua.Runtime.Disposition
import NexusCua.Runtime.Takeover

/-!
# What lasts in a run

Sessions are opened under fresh identifiers and never change their grant; a
closed session stays closed, and one that has left the map does not return.
An observation keeps its window and the start of its capture, and once it has
lost its validity it does not regain it.
-/

namespace NexusCua.Runtime

open NexusCua.Foundation NexusCua.Protocol

variable {runtime : RuntimeService} {s s' s'' : RuntimeState} {sessionId : SessionId}
  {entry entry' entry'' : SessionEntry} {issued issued' issued'' : Nat}

/-! ## The tables of a session -/

structure KeepsRefs (state state' : SessionState) : Prop where
  windows : ∀ key windowRef, state.windowRefs.lookup key = some windowRef →
    state'.windowRefs.lookup key = some windowRef
  applications : ∀ key appRef, state.applicationRefs.lookup key = some appRef →
    state'.applicationRefs.lookup key = some appRef

namespace KeepsRefs

variable {state state' state'' : SessionState}

theorem of_eq (hw : state'.windowRefs = state.windowRefs)
    (ha : state'.applicationRefs = state.applicationRefs) : KeepsRefs state state' :=
  ⟨fun _ _ hr => by rwa [hw], fun _ _ hr => by rwa [ha]⟩

theorem trans (hk : KeepsRefs state state') (hk' : KeepsRefs state' state'') :
    KeepsRefs state state'' :=
  ⟨fun _ _ hr => hk'.windows _ _ (hk.windows _ _ hr),
    fun _ _ hr => hk'.applications _ _ (hk.applications _ _ hr)⟩

end KeepsRefs

/--
Observations may be dropped or lose their validity, and keep their window and
the start of their capture; windows stay known.
-/
structure Fades (state state' : SessionState) : Prop where
  observation : ∀ id record', state'.observations.lookup id = some record' →
    ∃ record, state.observations.lookup id = some record ∧
      record'.windowRef = record.windowRef ∧ record'.createdAt = record.createdAt ∧
      (record'.status = .valid → record.status = .valid)
  window : ∀ windowRef window, state.windows.lookup windowRef = some window →
    ∃ window', state'.windows.lookup windowRef = some window'
  refs : KeepsRefs state state'

namespace Fades

theorem of_eq {state state' : SessionState} (ho : state'.observations = state.observations)
    (hw : ∀ windowRef window, state.windows.lookup windowRef = some window →
      ∃ window', state'.windows.lookup windowRef = some window')
    (hrefs : KeepsRefs state state') : Fades state state' where
  observation _ record' hr := ⟨record', by rwa [← ho], rfl, rfl, fun hvalid => hvalid⟩
  window := hw
  refs := hrefs

theorem refl (state : SessionState) : Fades state state :=
  .of_eq rfl (fun _ window hw => ⟨window, hw⟩) (.of_eq rfl rfl)

theorem trans {state state' state'' : SessionState} (h : Fades state state')
    (h' : Fades state' state'') : Fades state state'' where
  observation id record'' hr := by
    obtain ⟨record', hr', hw', hc', hv'⟩ := h'.observation id record'' hr
    obtain ⟨record, hr, hw, hc, hv⟩ := h.observation id record' hr'
    exact ⟨record, hr, hw'.trans hw, hc'.trans hc, fun hvalid => hv (hv' hvalid)⟩
  window windowRef window hw := by
    obtain ⟨window', hw'⟩ := h.window windowRef window hw
    exact h'.window windowRef window' hw'
  refs := h.refs.trans h'.refs

theorem setStatus (state : SessionState) (id : ObservationId) {status : ObservationStatus}
    (hs : status ≠ .valid) : Fades state (state.setStatus id status) where
  observation other record' hr := by
    simp only [SessionState.setStatus, Table.lookup_modify] at hr
    split at hr
    · obtain ⟨record, hrecord, rfl⟩ := Option.map_eq_some_iff.mp hr
      exact ⟨record, hrecord, rfl, rfl, fun hvalid => absurd hvalid hs⟩
    · exact ⟨record', hr, rfl, rfl, fun hvalid => hvalid⟩
  window _ window hw := ⟨window, hw⟩
  refs := .of_eq rfl rfl

theorem invalidateWhere (state : SessionState) (affected : WindowRef → Bool) :
    Fades state (state.invalidateWhere affected) where
  observation id record' hr := by
    simp only [SessionState.invalidateWhere, Table.lookup_mapValues] at hr
    obtain ⟨record, hrecord, rfl⟩ := Option.map_eq_some_iff.mp hr
    refine ⟨record, hrecord, ?_, ?_, ?_⟩ <;> split <;> simp
  window _ window hw := ⟨window, hw⟩
  refs := .of_eq rfl rfl

theorem trimObservations (state : SessionState) (limit : Nat) :
    Fades state (state.trimObservations limit) := by
  rw [SessionState.trimObservations]
  split
  · exact .refl state
  · refine ⟨fun id record' hr => ?_, fun _ window hw => ⟨window, hw⟩, .of_eq rfl rfl⟩
    rw [Table.lookup_retain] at hr
    exact ⟨record', (Option.filter_eq_some_iff.mp hr).1, rfl, rfl, fun hvalid => hvalid⟩

section Projections

variable (uuids : UuidSource) (issued : Nat) (state : SessionState)

theorem projectApplication (application : DriverApplication) :
    Fades state (state.projectApplication uuids issued application).2.2 := by
  rw [SessionState.projectApplication]
  split
  · exact .of_eq rfl (fun _ window hw => ⟨window, hw⟩) (.of_eq rfl rfl)
  · rename_i hnew
    refine .of_eq rfl (fun _ window hw => ⟨window, hw⟩) ⟨fun _ _ hr => hr, fun key appRef hr => ?_⟩
    have hne : key ≠ application.key := by
      rintro rfl
      simp [hnew] at hr
    rw [Table.lookup_insert_eq, if_neg hne, hr]

theorem projectWindow (window : DriverWindow) :
    Fades state (state.projectWindow uuids issued window).2.2 := by
  have hinsert : ∀ other, ∀ windowRef known, state.windows.lookup windowRef = some known →
      ∃ known', (state.windows.insert other window).lookup windowRef = some known' := by
    intro other windowRef known hknown
    rw [Table.lookup_insert_eq]
    split
    · exact ⟨window, rfl⟩
    · exact ⟨known, hknown⟩
  rw [SessionState.projectWindow]
  split
  · exact .of_eq rfl (hinsert _) (.of_eq rfl rfl)
  · rename_i hnew
    refine .of_eq rfl (hinsert _) ⟨fun key windowRef hr => ?_, fun _ _ hr => hr⟩
    have hne : key ≠ window.key := by
      rintro rfl
      simp [hnew] at hr
    rw [Table.lookup_insert_eq, if_neg hne, hr]

theorem projectDisplay (display : DriverDisplay) :
    Fades state (state.projectDisplay uuids issued display).2.2 := by
  rw [SessionState.projectDisplay]
  split <;> exact .of_eq rfl (fun _ window hw => ⟨window, hw⟩) (.of_eq rfl rfl)

end Projections

end Fades

/-! ## One session -/

structure Ages (runtime : RuntimeService) (issued issued' : Nat) (entry entry' : SessionEntry) :
    Prop where
  session : entry'.session = entry.session
  closed : entry.guard.closed = true → entry'.guard.closed = true
  expiresAt : entry'.guard.expiresAt = entry.guard.expiresAt
  observation : ∀ id record', entry'.state.observations.lookup id = some record' →
    (∃ record, entry.state.observations.lookup id = some record ∧
      record'.windowRef = record.windowRef ∧ record'.createdAt = record.createdAt ∧
      (record'.status = .valid → record.status = .valid)) ∨
    ∃ n, issued ≤ n ∧ n < issued' ∧ id = ⟨runtime.uuids.issue "observation" n⟩
  window : ∀ windowRef window, entry.state.windows.lookup windowRef = some window →
    ∃ window', entry'.state.windows.lookup windowRef = some window'
  refs : KeepsRefs entry.state entry'.state

structure SessionEntry.Sound (runtime : RuntimeService) (issued : Nat) (sessionId : SessionId)
    (entry : SessionEntry) : Prop where
  id : entry.session.id = sessionId
  drawn : ∃ n, n < issued ∧ sessionId = ⟨runtime.uuids.issue "session" n⟩
  expiresAt : entry.guard.expiresAt = entry.session.expiresAt
  observation : ∀ id record, entry.state.observations.lookup id = some record →
    ∃ n, n < issued ∧ id = ⟨runtime.uuids.issue "observation" n⟩

namespace Ages

theorem of_fades (hsession : entry'.session = entry.session)
    (hclosed : entry.guard.closed = true → entry'.guard.closed = true)
    (hexpires : entry'.guard.expiresAt = entry.guard.expiresAt)
    (hfades : Fades entry.state entry'.state) : Ages runtime issued issued' entry entry' where
  session := hsession
  closed := hclosed
  expiresAt := hexpires
  observation id record' hr := .inl (hfades.observation id record' hr)
  window := hfades.window
  refs := hfades.refs

theorem refl (entry : SessionEntry) : Ages runtime issued issued' entry entry :=
  .of_fades rfl (fun hclosed => hclosed) rfl (.refl _)

theorem trans (ha : Ages runtime issued issued' entry entry')
    (ha' : Ages runtime issued' issued'' entry' entry'') (hle : issued ≤ issued')
    (hle' : issued' ≤ issued'') : Ages runtime issued issued'' entry entry'' where
  session := ha'.session.trans ha.session
  closed hclosed := ha'.closed (ha.closed hclosed)
  expiresAt := ha'.expiresAt.trans ha.expiresAt
  observation id record'' hr := by
    rcases ha'.observation id record'' hr with ⟨record', hr', hw', hc', hv'⟩ | ⟨n, hn, hn', hid⟩
    · rcases ha.observation id record' hr' with ⟨record, hr, hw, hc, hv⟩ | ⟨n, hn, hn', hid⟩
      · exact .inl ⟨record, hr, hw'.trans hw, hc'.trans hc, fun hvalid => hv (hv' hvalid)⟩
      · exact .inr ⟨n, hn, hn'.trans_le hle', hid⟩
    · exact .inr ⟨n, hle.trans hn, hn', hid⟩
  window windowRef window hw := by
    obtain ⟨window', hw'⟩ := ha.window windowRef window hw
    exact ha'.window windowRef window' hw'
  refs := ha.refs.trans ha'.refs

theorem sound (ha : Ages runtime issued issued' entry entry')
    (hs : entry.Sound runtime issued sessionId) (hle : issued ≤ issued') :
    entry'.Sound runtime issued' sessionId where
  id := by rw [ha.session, hs.id]
  drawn := by
    obtain ⟨n, hn, hid⟩ := hs.drawn
    exact ⟨n, hn.trans_le hle, hid⟩
  expiresAt := by rw [ha.expiresAt, ha.session, hs.expiresAt]
  observation id record' hr := by
    rcases ha.observation id record' hr with ⟨record, hr, -⟩ | ⟨n, -, hn, hid⟩
    · obtain ⟨n, hn, hid⟩ := hs.observation id record hr
      exact ⟨n, hn.trans_le hle, hid⟩
    · exact ⟨n, hn, hid⟩

end Ages

/-! ## The whole state -/

structure Evolves (runtime : RuntimeService) (s s' : RuntimeState) : Prop where
  now_le : s.now ≤ s'.now
  issued_le : s.issued ≤ s'.issued
  ages : ∀ sessionId entry, s.heap.lookup sessionId = some entry →
    ∃ entry', s'.heap.lookup sessionId = some entry' ∧ Ages runtime s.issued s'.issued entry entry'
  opened : ∀ sessionId entry', s'.heap.lookup sessionId = some entry' →
    s.heap.lookup sessionId = none → entry'.Sound runtime s'.issued sessionId ∧
      ∃ n, s.issued ≤ n ∧ n < s'.issued ∧ sessionId = ⟨runtime.uuids.issue "session" n⟩
  mapped : ∀ sessionId ∈ s'.sessions, sessionId ∈ s.sessions ∨
    s.heap.lookup sessionId = none ∧ ∃ entry', s'.heap.lookup sessionId = some entry'

structure WellFormed (runtime : RuntimeService) (s : RuntimeState) : Prop where
  mapped : ∀ sessionId ∈ s.sessions, ∃ entry, s.heap.lookup sessionId = some entry
  sound : ∀ sessionId entry, s.heap.lookup sessionId = some entry →
    entry.Sound runtime s.issued sessionId

namespace Evolves

theorem of_same (hnow : s.now ≤ s'.now) (hissued : s.issued ≤ s'.issued) (hheap : s'.heap = s.heap)
    (hsessions : s'.sessions ⊆ s.sessions) : Evolves runtime s s' where
  now_le := hnow
  issued_le := hissued
  ages sessionId entry hentry := ⟨entry, by rw [hheap, hentry], .refl entry⟩
  opened sessionId entry' hentry' hnone := by simp [hheap, hnone] at hentry'
  mapped sessionId hs := .inl (hsessions hs)

theorem refl (s : RuntimeState) : Evolves runtime s s :=
  .of_same le_rfl le_rfl rfl (List.Subset.refl _)

theorem of_modify (sessionId : SessionId) (f : SessionEntry → SessionEntry)
    (hissued : s.issued ≤ issued') (hf : ∀ entry, s.heap.lookup sessionId = some entry →
      Ages runtime s.issued issued' entry (f entry)) :
    Evolves runtime s { s.modifySession sessionId f with issued := issued' } := by
  have hlookup : ∀ other, (s.modifySession sessionId f).heap.lookup other =
      if other = sessionId then (s.heap.lookup other).map f else s.heap.lookup other :=
    fun other => Table.lookup_modify other sessionId f s.heap
  constructor
  · exact le_rfl
  · exact hissued
  · intro other entry hentry
    simp only [hlookup, hentry]
    split
    · subst other
      exact ⟨f entry, rfl, hf entry hentry⟩
    · exact ⟨entry, rfl, .refl entry⟩
  · intro other entry' hentry' hnone
    simp [hlookup, hnone] at hentry'
  · exact fun other hs => .inl hs

theorem trans (he : Evolves runtime s s') (he' : Evolves runtime s' s'') :
    Evolves runtime s s'' where
  now_le := he.now_le.trans he'.now_le
  issued_le := he.issued_le.trans he'.issued_le
  ages sessionId entry hentry := by
    obtain ⟨entry', hentry', ha⟩ := he.ages sessionId entry hentry
    obtain ⟨entry'', hentry'', ha'⟩ := he'.ages sessionId entry' hentry'
    exact ⟨entry'', hentry'', ha.trans ha' he.issued_le he'.issued_le⟩
  opened sessionId entry'' hentry'' hnone := by
    cases hmiddle : s'.heap.lookup sessionId with
    | none =>
        obtain ⟨hsound, n, hn, hdrawn⟩ := he'.opened sessionId entry'' hentry'' hmiddle
        exact ⟨hsound, n, he.issued_le.trans hn, hdrawn⟩
    | some entry' =>
        obtain ⟨aged, haged, ha⟩ := he'.ages sessionId entry' hmiddle
        obtain rfl := Option.some.inj (haged.symm.trans hentry'')
        obtain ⟨hsound, n, hn, hn', hdrawn⟩ := he.opened sessionId entry' hmiddle hnone
        exact ⟨ha.sound hsound he'.issued_le, n, hn, hn'.trans_le he'.issued_le, hdrawn⟩
  mapped sessionId hs := by
    rcases he'.mapped sessionId hs with hs | ⟨hnone, hsome⟩
    · rcases he.mapped sessionId hs with hs | ⟨hnone, entry', hentry'⟩
      · exact .inl hs
      · obtain ⟨entry'', hentry'', -⟩ := he'.ages sessionId entry' hentry'
        exact .inr ⟨hnone, entry'', hentry''⟩
    · refine .inr ⟨?_, hsome⟩
      by_contra hentry
      obtain ⟨entry, hentry⟩ := Option.ne_none_iff_exists'.mp hentry
      obtain ⟨entry', hentry', -⟩ := he.ages sessionId entry hentry
      simp [hnone] at hentry'

theorem wellFormed (he : Evolves runtime s s') (hw : WellFormed runtime s) :
    WellFormed runtime s' where
  mapped sessionId hs := by
    rcases he.mapped sessionId hs with hs | ⟨-, hsome⟩
    · obtain ⟨entry, hentry⟩ := hw.mapped sessionId hs
      obtain ⟨entry', hentry', -⟩ := he.ages sessionId entry hentry
      exact ⟨entry', hentry'⟩
    · exact hsome
  sound sessionId entry' hentry' := by
    cases hbefore : s.heap.lookup sessionId with
    | none => exact (he.opened sessionId entry' hentry' hbefore).1
    | some entry =>
        obtain ⟨aged, haged, ha⟩ := he.ages sessionId entry hbefore
        obtain rfl := Option.some.inj (haged.symm.trans hentry')
        exact ha.sound (hw.sound sessionId entry hbefore) he.issued_le

end Evolves

theorem WellFormed.initial (runtime : RuntimeService) (now : Nat) :
    WellFormed runtime (.initial runtime now) where
  mapped sessionId hs := by simp [RuntimeState.initial] at hs
  sound sessionId entry hentry := by simp [RuntimeState.initial] at hentry

theorem WellFormed.fresh (hw : WellFormed runtime s) :
    s.heap.lookup ⟨runtime.uuids.issue "session" s.issued⟩ = none := by
  by_contra hentry
  obtain ⟨entry, hentry⟩ := Option.ne_none_iff_exists'.mp hentry
  obtain ⟨n, hn, hdrawn⟩ := (hw.sound _ entry hentry).drawn
  simp only [SessionId.mk.injEq, UuidSource.issue_inj] at hdrawn
  omega

variable {session : Session}

theorem WellFormed.evolves_insert (hw : WellFormed runtime s)
    {cell : GuardCell} (hid : session.id = ⟨runtime.uuids.issue "session" s.issued⟩)
    (hexpires : cell.expiresAt = session.expiresAt) (hnow : s'.now = s.now)
    (hissued : s'.issued = s.issued + 1)
    (hheap : s'.heap = s.heap.insert session.id ⟨session, cell, .empty⟩)
    (hsessions : ∀ sessionId ∈ s'.sessions, sessionId ∈ s.sessions ∨ sessionId = session.id) :
    Evolves runtime s s' := by
  have hfresh : s.heap.lookup session.id = none := by rw [hid, hw.fresh]
  have hlookup : ∀ other, s'.heap.lookup other =
      if other = session.id then some ⟨session, cell, .empty⟩ else s.heap.lookup other := by
    intro other
    rw [hheap, Table.lookup_insert_eq]
  constructor
  · exact hnow.ge
  · omega
  · intro other entry hentry
    refine ⟨entry, ?_, .refl entry⟩
    rw [hlookup, if_neg, hentry]
    rintro rfl
    simp [hfresh] at hentry
  · intro other entry' hentry' hnone
    rw [hlookup, hnone] at hentry'
    split at hentry'
    · subst other
      cases hentry'
      refine ⟨⟨rfl, ⟨s.issued, by omega, hid⟩, hexpires, ?_⟩, s.issued, le_rfl, by omega, hid⟩
      exact fun id record hr => by simp [SessionState.empty] at hr
    · contradiction
  · intro other hs
    rcases hsessions other hs with hs | rfl
    · exact .inl hs
    · exact .inr ⟨hfresh, ⟨session, cell, .empty⟩, by rw [hlookup, if_pos rfl]⟩

/-! ## Effects -/

theorem evolves_modifySession (sessionId : SessionId) (f : SessionEntry → SessionEntry)
    (hf : ∀ entry, s.heap.lookup sessionId = some entry →
      Ages runtime s.issued s.issued entry (f entry)) :
    Evolves runtime s (s.modifySession sessionId f) :=
  Evolves.of_modify (s := s) sessionId f (le_refl s.issued) hf

theorem evolves_closeSession (s : RuntimeState) (sessionId : SessionId) :
    Evolves runtime s (s.closeSession sessionId) := by
  refine evolves_modifySession sessionId _ fun entry _ => ?_
  exact .of_fades rfl (fun _ => rfl) rfl (.refl _)

theorem evolves_closeSessions (s : RuntimeState) (sessionIds : List SessionId) :
    Evolves runtime s (s.closeSessions sessionIds) := by
  induction sessionIds generalizing s with
  | nil => exact .refl s
  | cons sessionId rest ih => exact (evolves_closeSession s sessionId).trans (ih _)

theorem evolves_unmap (s : RuntimeState) (sessionIds : List SessionId) :
    Evolves runtime s (s.unmap sessionIds) :=
  .of_same le_rfl le_rfl rfl (List.filter_subset_self _)

theorem Fades.ages {state : SessionState} (hfades : Fades entry.state state) :
    Ages runtime issued issued' entry { entry with state := state } :=
  .of_fades rfl (fun hclosed => hclosed) rfl hfades

theorem ages_publish {record : ObservationRecord} (limit : Nat)
    (hid : record.id = ⟨runtime.uuids.issue "observation" issued⟩) (hissued : issued < issued')
    (entry : SessionEntry) :
    Ages runtime issued issued' entry
      { entry with state := entry.state.publish limit record } := by
  have hfades : Fades entry.state
      ((entry.state.invalidateWindowObservations record.windowRef).trimObservations limit) :=
    (Fades.invalidateWhere _ _).trans (.trimObservations _ _)
  refine ⟨rfl, fun hclosed => hclosed, rfl, fun id record' hr => ?_, hfades.window,
    hfades.refs.trans (.of_eq rfl rfl)⟩
  simp only [SessionState.publish, Table.lookup_insert_eq] at hr
  split at hr
  · subst id
    exact .inr ⟨issued, le_rfl, hissued, hid⟩
  · exact .inl (hfades.observation id record' hr)

theorem le_projectApplication (uuids : UuidSource) (issued : Nat) (state : SessionState)
    (application : DriverApplication) :
    issued ≤ (state.projectApplication uuids issued application).2.1 := by
  rw [SessionState.projectApplication]
  split
  · exact le_rfl
  · exact Nat.le_succ _

theorem le_projectWindow (uuids : UuidSource) (issued : Nat) (state : SessionState)
    (window : DriverWindow) : issued ≤ (state.projectWindow uuids issued window).2.1 := by
  rw [SessionState.projectWindow]
  split
  · exact le_rfl
  · exact Nat.le_succ _

theorem le_projectDisplay (uuids : UuidSource) (issued : Nat) (state : SessionState)
    (display : DriverDisplay) : issued ≤ (state.projectDisplay uuids issued display).2.1 := by
  rw [SessionState.projectDisplay]
  split
  · exact le_rfl
  · exact Nat.le_succ _

section

variable {state state' : SessionState} (hp : Projection runtime session issued state issued' state')
include hp

theorem Projection.induction
    {P : Nat → SessionState → Prop} (hstart : P issued state)
    (hcleared : ∀ n known, P n known → P n { known with displays := ∅, displayRefs := ∅ })
    (happlication : ∀ n known application, P n known →
      P (known.projectApplication runtime.uuids n application).2.1
        (known.projectApplication runtime.uuids n application).2.2)
    (hwindow : ∀ n known window, session.allowsApplication window.application = true → P n known →
      P (known.projectWindow runtime.uuids n window).2.1
        (known.projectWindow runtime.uuids n window).2.2)
    (hdisplay : ∀ n known display, P n known →
      P (known.projectDisplay runtime.uuids n display).2.1
        (known.projectDisplay runtime.uuids n display).2.2) : P issued' state' := by
  cases hp with
  | applications hallowed =>
      rename_i applications
      clear hallowed
      induction applications generalizing issued state with
      | nil => exact hstart
      | cons application rest ih => exact ih (happlication issued state application hstart)
  | windows hallowed =>
      rename_i windows
      induction windows generalizing issued state with
      | nil => exact hstart
      | cons window rest ih =>
          exact ih (hwindow _ _ window (hallowed window (by simp))
            (happlication issued state window.application hstart))
            fun other hother => hallowed other (by simp [hother])
  | displays =>
      rename_i displays
      have hstart' := hcleared issued state hstart
      clear hstart
      generalize ({ state with displays := ∅, displayRefs := ∅ } : SessionState) = known
        at hstart' ⊢
      induction displays generalizing issued known with
      | nil => exact hstart'
      | cons display rest ih => exact ih _ (hdisplay issued known display hstart')

theorem Projection.fades : Fades state state' :=
  hp.induction (P := fun _ known => Fades state known) (.refl state)
    (fun _ _ hf => hf.trans (.of_eq rfl (fun _ window hw => ⟨window, hw⟩) (.of_eq rfl rfl)))
    (fun _ _ application hf => hf.trans (.projectApplication _ _ _ application))
    (fun _ _ window _ hf => hf.trans (.projectWindow _ _ _ window))
    (fun _ _ display hf => hf.trans (.projectDisplay _ _ _ display))

theorem Projection.issued_le : issued ≤ issued' :=
  hp.induction (P := fun n _ => issued ≤ n) le_rfl (fun _ _ hle => hle)
    (fun _ _ application hle => hle.trans (le_projectApplication _ _ _ application))
    (fun _ _ window _ hle => hle.trans (le_projectWindow _ _ _ window))
    (fun _ _ display hle => hle.trans (le_projectDisplay _ _ _ display))

theorem Projection.frame :
    state'.observations = state.observations ∧ state'.clipboard = state.clipboard := by
  refine hp.induction
    (P := fun _ known => known.observations = state.observations ∧
      known.clipboard = state.clipboard) ⟨rfl, rfl⟩ (fun _ _ hf => hf) ?_ ?_ ?_
  · intro n known application hf
    rw [SessionState.projectApplication]
    split <;> exact hf
  · intro n known window _ hf
    rw [SessionState.projectWindow]
    split <;> exact hf
  · intro n known display hf
    rw [SessionState.projectDisplay]
    split <;> exact hf

end

variable {h es : List RuntimeEvent}

theorem ControlEffect.evolves (he : ControlEffect h s es s') :
    Evolves runtime s s' := by
  cases he with
  | sessionsDrained | sessionsReaped =>
      exact (evolves_closeSessions _ _).trans (evolves_unmap _ _)
  | ensured =>
      rw [RuntimeState.installScheduler]
      split
      · exact .refl s
      · exact .of_same le_rfl le_rfl rfl (List.Subset.refl _)
  | rescheduled =>
      rw [RuntimeState.reschedule]
      split
      · exact .of_same le_rfl le_rfl rfl (List.Subset.refl _)
      · exact .refl s
  | schedulerTaken =>
      rw [RuntimeState.takeScheduler]
      split
      · exact .refl s
      · exact .of_same le_rfl le_rfl rfl (List.Subset.refl _)
  | runtimeDropped =>
      rw [RuntimeState.dropRuntime]
      split <;> exact .of_same le_rfl le_rfl rfl (List.Subset.refl _)
  | sessionsAbandoned => exact .of_same le_rfl le_rfl rfl (List.nil_subset _)
  | _ => exact .of_same le_rfl le_rfl rfl (List.Subset.refl _)

theorem SessionEffect.evolves (hw : WellFormed runtime s)
    (he : SessionEffect runtime h s es s') : Evolves runtime s s' := by
  cases he with
  | opened _ _ _ hid =>
      refine hw.evolves_insert hid rfl rfl rfl rfl fun other hother => ?_
      exact (List.mem_cons.mp hother).symm
  | refused _ _ _ hid => exact hw.evolves_insert hid rfl rfl rfl rfl fun _ hother => .inl hother
  | rejected => exact .of_same le_rfl (Nat.le_succ _) rfl (List.Subset.refl _)
  | unmapped => exact evolves_unmap _ _
  | closed => exact evolves_closeSession _ _
  | expired => exact (evolves_closeSession _ _).trans (evolves_unmap _ _)

theorem evolves_tables {state : SessionState} (hentry : s.heap.lookup sessionId = some entry)
    (hfades : Fades entry.state state) (hissued : s.issued ≤ issued') :
    Evolves runtime s { s.modifyTables sessionId fun _ => state with issued := issued' } := by
  refine .of_modify _ _ hissued fun entry' hentry' => ?_
  obtain rfl := Option.some.inj (hentry.symm.trans hentry')
  exact hfades.ages

theorem TableEffect.evolves (he : TableEffect runtime h s es s') :
    Evolves runtime s s' := by
  cases he with
  | projected _ hentry hproject => exact evolves_tables hentry hproject.fades hproject.issued_le
  | clipboardIssued _ _ hentry =>
      exact evolves_tables hentry (.of_eq rfl (fun _ window hw => ⟨window, hw⟩) (.of_eq rfl rfl))
        (Nat.le_succ _)
  | clipboardTaken _ _ _ _ hentry =>
      exact evolves_tables hentry (.of_eq rfl (fun _ window hw => ⟨window, hw⟩) (.of_eq rfl rfl))
        (le_refl s.issued)
  | observationInvalidated _ _ hentry =>
      exact evolves_tables hentry (.setStatus _ _ (by simp)) (le_refl s.issued)
  | consumed _ _ _ hconsumable =>
      exact evolves_tables hconsumable.entry_eq (.setStatus _ _ (by simp)) (le_refl s.issued)
  | published _ hentry hid hissued =>
      refine .of_modify _ _ hissued.le fun entry hentry' => ?_
      obtain rfl := Option.some.inj (hentry.symm.trans hentry')
      exact ages_publish _ hid hissued _
  | windowInvalidated =>
      exact evolves_modifySession _ _ fun _ _ => (Fades.invalidateWhere _ _).ages
  | applicationInvalidated =>
      exact evolves_modifySession _ _ fun _ _ => (Fades.invalidateWhere _ _).ages

theorem RuntimeEffect.evolves (hw : WellFormed runtime s)
    (he : RuntimeEffect runtime h s es s') : Evolves runtime s s' := by
  cases he with
  | silent => exact .refl s
  | report => exact .refl s
  | drawn => exact .of_same le_rfl (Nat.le_succ _) rfl (List.Subset.refl _)
  | guard hentry hguard =>
      refine evolves_modifySession _ _ fun entry hentry' => ?_
      obtain rfl := Option.some.inj (hentry.symm.trans hentry')
      exact .of_fades rfl hguard.later.closed hguard.later.expiresAt_eq (.refl _)
  | control he => exact he.evolves
  | session he => exact he.evolves hw
  | tables he => exact he.evolves
  | discovery he =>
      cases he with
      | discovered | launchesDiscovered =>
          exact .of_same le_rfl (Nat.le_add_right _ _) rfl (List.Subset.refl _)
      | _ => exact .of_same le_rfl le_rfl rfl (List.Subset.refl _)
  | store he => cases he <;> exact .of_same le_rfl le_rfl rfl (List.Subset.refl _)
  | _ => exact .of_same le_rfl le_rfl rfl (List.Subset.refl _)

/-! ### New sessions -/

theorem RuntimeState.lookup_modifySession (s : RuntimeState) (sessionId other : SessionId)
    (f : SessionEntry → SessionEntry) : (s.modifySession sessionId f).heap.lookup other =
      if other = sessionId then (s.heap.lookup other).map f else s.heap.lookup other :=
  Table.lookup_modify other sessionId f s.heap

theorem RuntimeState.modifySession_none {other : SessionId} {f : SessionEntry → SessionEntry}
    (hnone : s.heap.lookup other = none) :
    (s.modifySession sessionId f).heap.lookup other = none := by
  simp [RuntimeState.lookup_modifySession, hnone]

theorem RuntimeState.closeSessions_none {sessionIds : List SessionId}
    (hnone : s.heap.lookup sessionId = none) :
    (s.closeSessions sessionIds).heap.lookup sessionId = none := by
  induction sessionIds generalizing s with
  | nil => exact hnone
  | cons other rest ih => exact ih (RuntimeState.modifySession_none hnone)

theorem RuntimeState.closeSessions_eq (s : RuntimeState) (sessionIds : List SessionId) :
    s.closeSessions sessionIds = { s with heap := (s.closeSessions sessionIds).heap } := by
  induction sessionIds generalizing s with
  | nil => rfl
  | cons sessionId rest ih => exact ih (s.closeSession sessionId)

structure ControlFrame (s s' : RuntimeState) : Prop where
  issued_eq : s'.issued = s.issued
  clipboardLane_eq : s'.clipboardLane = s.clipboardLane
  heap_eq : ∃ sessionIds, s'.heap = (s.closeSessions sessionIds).heap

theorem ControlEffect.frame (he : ControlEffect h s es s') :
    ControlFrame s s' := by
  cases he with
  | sessionsDrained | sessionsReaped =>
      rw [RuntimeState.closeSessions_eq]
      exact ⟨rfl, rfl, _, rfl⟩
  | ensured =>
      rw [RuntimeState.installScheduler]
      split <;> exact ⟨rfl, rfl, [], rfl⟩
  | rescheduled =>
      rw [RuntimeState.reschedule]
      split <;> exact ⟨rfl, rfl, [], rfl⟩
  | schedulerTaken =>
      rw [RuntimeState.takeScheduler]
      split <;> exact ⟨rfl, rfl, [], rfl⟩
  | runtimeDropped =>
      rw [RuntimeState.dropRuntime]
      split <;> exact ⟨rfl, rfl, [], rfl⟩
  | _ => exact ⟨rfl, rfl, [], rfl⟩

theorem RuntimeEffect.opened_of_new
    (he : RuntimeEffect runtime h s es s') (hnone : s.heap.lookup sessionId = none)
    (hentry' : s'.heap.lookup sessionId = some entry') : .opened entry'.session ∈ es := by
  have hinserted : ∀ {session : Session} {cell : GuardCell} {issued : Nat} {sessions},
      ({ s with
          issued := issued, sessions := sessions
          heap := s.heap.insert session.id ⟨session, cell, .empty⟩ } : RuntimeState).heap.lookup
        sessionId = some entry' → entry'.session = session := by
    intro session cell issued sessions hentry'
    simp only [Table.lookup_insert_eq, hnone] at hentry'
    split at hentry'
    · cases hentry'
      rfl
    · contradiction
  have habsent : s'.heap.lookup sessionId ≠ none := by simp [hentry']
  cases he with
  | guard => exact absurd (RuntimeState.modifySession_none hnone) habsent
  | control he =>
      obtain ⟨sessionIds, hheap⟩ := he.frame.heap_eq
      exact absurd (hheap ▸ RuntimeState.closeSessions_none hnone) habsent
  | session he =>
      cases he with
      | opened => rw [hinserted hentry']; exact .head _
      | refused => rw [hinserted hentry']; exact .head _
      | unmapped | rejected => exact absurd hnone habsent
      | closed => exact absurd (RuntimeState.modifySession_none hnone) habsent
      | expired => exact absurd (RuntimeState.modifySession_none hnone) habsent
  | tables he =>
      cases he <;> exact absurd (RuntimeState.modifySession_none hnone) habsent
  | discovery he => cases he <;> exact absurd hnone habsent
  | store he => cases he <;> exact absurd hnone habsent
  | _ => exact absurd hnone habsent

theorem EnvironmentEffect.evolves (he : EnvironmentEffect s s') : Evolves runtime s s' := by
  cases he with
  | elapsed duration =>
      exact .of_same (Nat.le_add_right _ _) le_rfl rfl (List.Subset.refl _)
  | schedulerPanicked => exact .of_same le_rfl le_rfl rfl (List.Subset.refl _)

theorem permitted_evolves {before : List RuntimeStep} {e : RuntimeStep}
    (he : Permitted (runtimeLaw runtime) runtime.system.env before e)
    (hw : WellFormed runtime e.pre) : Evolves runtime e.pre e.post := by
  cases ht : e.task with
  | some t => exact (permitted_effect he ht).evolves hw
  | none =>
      rw [Permitted, ht] at he
      exact (environmentEffect_of_env he.1).evolves

/-! ## Runs -/

namespace RuntimeRun

variable {s₀ : RuntimeState} {steps before after : List RuntimeStep} {e : RuntimeStep}

theorem wellFormed (hr : RuntimeRun runtime s₀ steps s) (h₀ : WellFormed runtime s₀) :
    WellFormed runtime s :=
  hr.invariant (P := fun _ s => WellFormed runtime s) h₀ fun _ _ _ hw he =>
    (permitted_evolves he hw).wellFormed hw

theorem evolves (hr : RuntimeRun runtime s₀ (before ++ e :: after) s)
    (h₀ : WellFormed runtime s₀) : Evolves runtime e.pre s ∧ Evolves runtime e.post s :=
  hr.related .refl (fun _ _ _ => .trans) fun _ _ hb he => permitted_evolves he (wellFormed hb h₀)

theorem evolves_between {mid : List RuntimeStep} {f : RuntimeStep}
    (hr : RuntimeRun runtime s₀ (before ++ e :: (mid ++ f :: after)) s)
    (h₀ : WellFormed runtime s₀) : Evolves runtime e.post f.pre := by
  have hr' : RuntimeRun runtime s₀ ((before ++ e :: mid) ++ f :: after) s := by simpa using hr
  exact (evolves hr'.prior h₀).2

theorem opened (hr : RuntimeRun runtime s₀ steps s) (h₀ : s₀.heap = ∅)
    (hw : WellFormed runtime s₀) (hentry : s.heap.lookup sessionId = some entry) :
    Occurs (.opened entry.session) steps := by
  refine hr.induction (P := fun steps s => ∀ sessionId entry,
    s.heap.lookup sessionId = some entry → Occurs (.opened entry.session) steps) ?_ ?_ ?_ _ _ hentry
  · intro sessionId entry hentry
    simp [h₀] at hentry
  · intro before t s es s' hbefore hopened hb sessionId entry' hentry'
    cases hpre : s.heap.lookup sessionId with
    | none => exact occurs_snoc.mpr (.inr (hb.effect.opened_of_new hpre hentry'))
    | some entry =>
        obtain ⟨aged, haged, ha⟩ :=
          (hb.effect.evolves (wellFormed hbefore hw)).ages sessionId entry hpre
        obtain rfl := Option.some.inj (haged.symm.trans hentry')
        rw [ha.session]
        exact (hopened sessionId entry hpre).append _
  · intro before s s' _ hopened he sessionId entry hentry
    cases he <;> exact (hopened sessionId entry hentry).append _

end RuntimeRun

/-! ## Closed sessions -/

def RuntimeState.Closed (s : RuntimeState) (sessionId : SessionId) : Prop :=
  ∃ entry, s.heap.lookup sessionId = some entry ∧ entry.guard.closed = true

theorem Evolves.closed (he : Evolves runtime s s') :
    s.Closed sessionId → s'.Closed sessionId := by
  rintro ⟨entry, hentry, hclosed⟩
  obtain ⟨entry', hentry', ha⟩ := he.ages sessionId entry hentry
  exact ⟨entry', hentry', ha.closed hclosed⟩

theorem closed_closeSession (hentry : s.heap.lookup sessionId = some entry) :
    (s.closeSession sessionId).Closed sessionId := by
  simp [RuntimeState.Closed, RuntimeState.closeSession, RuntimeState.lookup_modifySession, hentry]

theorem closes_of_mem (runtime : RuntimeService) {sessionIds : List SessionId}
    (hx : .sessionClosed sessionId ∈ closingEvents s sessionIds) :
    ¬ s.Closed sessionId ∧ (s.closeSessions sessionIds).Closed sessionId := by
  obtain hx | ⟨_, hmem, hopen, hx⟩ := mem_closingEvents hx <;> cases hx
  obtain ⟨entry, hentry, hopen⟩ := (Option.any_eq_true _ _).mp hopen
  constructor
  · rintro ⟨other, hother, hclosed⟩
    cases hentry.symm.trans hother
    simp [hclosed] at hopen
  · obtain ⟨first, last, rfl⟩ := List.append_of_mem hmem
    obtain ⟨entry', hentry', -⟩ :=
      (@evolves_closeSessions runtime s first).ages sessionId entry hentry
    rw [RuntimeState.closeSessions, List.foldl_append]
    exact (@evolves_closeSessions runtime _ last).closed (closed_closeSession hentry')

/-- A block that tells the driver of the end of a session closes it. -/
theorem RuntimeEffect.of_sessionClosed (hw : WellFormed runtime s)
    (he : RuntimeEffect runtime h s es s') (hx : .sessionClosed sessionId ∈ es) :
    ¬ s.Closed sessionId ∧ s'.Closed sessionId := by
  rcases he.produces hx with he | he
  · cases he with
    | sessionsDrained | sessionsReaped => exact closes_of_mem runtime (by simpa using hx)
    | _ => simp at hx
  · cases he with
    | refused _ _ _ hid =>
        obtain rfl : sessionId = _ := by simpa using hx
        refine ⟨?_, _, (Table.lookup_insert_eq ..).trans (if_pos rfl), rfl⟩
        rintro ⟨entry, hentry, -⟩
        simp [hid, hw.fresh] at hentry
    | closed => exact closes_of_mem runtime hx
    | expired => exact closes_of_mem runtime (by simpa using hx)
    | _ => simp at hx

/--
Since every earlier step sessions have only aged, and the driver is told of the end of a
session at most once.  A task that has finished has closed the sessions it took.
-/
theorem sessions_last (runtime : RuntimeService) (c : RuntimePool)
    (hc : Reachable runtime.system c) :
    (∀ t, c.finished t = true → holds (history t c.steps) = []) ∧
    ∀ before e after, c.steps = before ++ e :: after →
      Evolves runtime e.pre c.shared ∧
      ∀ sessionId, .sessionClosed sessionId ∈ e.events →
        c.shared.Closed sessionId ∧ ∀ f ∈ after, .sessionClosed sessionId ∉ f.events := by
  refine ⟨fun t => (hc.accounted runtime.system_keeps).final, fun before e after hsteps => ?_⟩
  obtain ⟨s₀, ⟨now, rfl⟩, hr⟩ := runtime.run_of_reachable hc
  have h₀ := WellFormed.initial runtime now
  rw [hsteps] at hr
  obtain ⟨hpre, hpost⟩ := RuntimeRun.evolves hr h₀
  refine ⟨hpre, fun sessionId hx => ?_⟩
  obtain ⟨t, ht⟩ := hr.task_of_mem hx
  have hclosed := ((hr.effect ht).of_sessionClosed (hr.prior.wellFormed h₀) hx).2
  refine ⟨hpost.closed hclosed, fun f hf hy => ?_⟩
  obtain ⟨mid, rest, rfl⟩ := List.append_of_mem hf
  have hbetween := (RuntimeRun.evolves_between hr h₀).closed hclosed
  rw [← List.cons_append, ← List.append_assoc] at hr
  obtain ⟨u, hu⟩ := hr.task_of_mem hy
  exact ((hr.effect hu).of_sessionClosed (hr.prior.wellFormed h₀) hy).1 hbetween

/-- A session is opened, its loop is started, and the runtime is shut down. -/
def shutdownMoves : List (Move RuntimeReply RuntimeCall RuntimeLabel) :=
  .spawn (.execute (.openSession clipboardManifest)) ::
    play 0 [.none, .none, .none, .none, .none, .applications (.ok []), .wallClock (some "later"),
      .sessionStarted (.ok ()), .none, .none, .none] ++
  [.spawn (.expiration 1), .spawn .shutdown] ++ play 2 (List.replicate 5 .none) ++
    play 1 (List.replicate 3 .none) ++ play 2 (List.replicate 7 .none)

/-- The shutdown closes the session and owes nothing when it has finished. -/
theorem shutdown_closes_session :
    ∃ c before e after, Reachable exampleRuntime.system c ∧ c.steps = before ++ e :: after ∧
      (∃ session, Occurs (.opened session) c.steps ∧ session.id = ⟨"session_"⟩) ∧
      .sessionClosed ⟨"session_"⟩ ∈ e.events ∧ c.finished 2 = true ∧
      holds (history 2 c.steps) = [] ∧ Evolves exampleRuntime e.pre c.shared ∧
      c.shared.Closed ⟨"session_"⟩ ∧ ∀ f ∈ after, .sessionClosed ⟨"session_"⟩ ∉ f.events := by
  have hrun : ((Pool.start (.initial exampleRuntime 0)).run exampleRuntime.system
      shutdownMoves).isSome = true := rfl
  have hc := Reachable.of_run (S := exampleRuntime.system) ⟨0, rfl⟩ hrun
  obtain ⟨howed, hlast⟩ := sessions_last exampleRuntime _ hc
  have hmem : .sessionClosed ⟨"session_"⟩ ∈ history 2 (Option.get _ hrun).steps :=
    List.mem_of_getElem? (i := 11) rfl
  obtain ⟨before, e, after, hsteps, -, hclosed⟩ := exists_split_of_mem_history hmem
  obtain ⟨hevolves, hafter⟩ := hlast before e after hsteps
  exact ⟨_, before, e, after, hc, hsteps, ⟨_, ⟨_, List.mem_of_getElem? (i := 7) rfl, .head _⟩, rfl⟩,
    hclosed, rfl, howed 2 rfl, hevolves, hafter _ hclosed⟩

end NexusCua.Runtime
