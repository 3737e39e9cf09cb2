import NexusCua.Foundation.Lock
import NexusCua.Runtime.Disposition
import NexusCua.Runtime.Tables

/-!
# The clipboard guard

Driver calls for the clipboard are made one at a time.  A write reaches the
driver only by taking the reference that its session was issued last, with the
change marker recorded under it, and a reference is taken at most once.
-/

namespace NexusCua.Runtime

open NexusCua.Foundation NexusCua.Protocol

variable {runtime : RuntimeService} {h es : List RuntimeEvent} {s s' s₀ : RuntimeState}
  {sessionId : SessionId} {steps before after : List RuntimeStep} {e : RuntimeStep} {t : Nat}

/-! ## The lane -/

variable {x : RuntimeEvent}

theorem Lane.next_of_kind (lane : Lane) (hk : x.kind ≠ .lane)
    (hk' : x.kind ≠ .report) : lane.next x = lane := by
  cases x with
  | _ => first | rfl | exact absurd rfl hk | exact absurd rfl hk'

theorem lane_append_of_kind {xs : List RuntimeEvent}
    (hxs : ∀ x ∈ xs, x.kind ≠ .lane ∧ x.kind ≠ .report) : lane (h ++ xs) = lane h := by
  induction xs generalizing h with
  | nil => simp
  | cons x xs ih =>
      rw [List.append_cons, ih fun y hy => hxs y (by simp [hy]), lane_snoc]
      exact Lane.next_of_kind _ (hxs x (by simp)).1 (hxs x (by simp)).2

def RuntimeEvent.isClipboardCall : RuntimeEvent → Bool
  | .clipboardReadCalled _ | .clipboardCalled _ _ => true
  | _ => false

def RuntimeEvent.isClipboardReturn : RuntimeEvent → Bool
  | .clipboardReadReturned _ | .clipboardReturned _ => true
  | _ => false

inductive LaneStep (es : List RuntimeEvent) (before after : Lane) (locked locked' : Bool) :
    Prop where
  | locked (hb : before = .free) (ha : after = .held) (hl : locked = false) (hl' : locked' = true)
  | unlocked (hb : before = .held) (ha : after = .free) (hl' : locked' = false)
  | called (hb : before = .held) (ha : after = .calling) (hl' : locked' = locked)
  | returned (hb : before = .calling) (ha : after = .held) (hl' : locked' = locked)
      (hx : ∃ x ∈ es, x.isClipboardReturn = true)
  | kept (ha : after = before) (hl' : locked' = locked)

theorem RuntimeEffect.clipboardLane_eq (he : RuntimeEffect runtime h s es s')
    (hes : ∀ x ∈ es, x.kind ≠ .lane) : s'.clipboardLane = s.clipboardLane := by
  cases he with
  | clipboardLocked | clipboardUnlocked => exact absurd rfl (hes _ (.head _))
  | control he => exact he.frame.clipboardLane_eq
  | session he => cases he <;> rfl
  | tables he => cases he <;> rfl
  | discovery he => cases he <;> rfl
  | store he => cases he <;> rfl
  | _ => rfl

theorem RuntimeEffect.laneStep (he : RuntimeEffect runtime h s es s') :
    LaneStep es (lane h) (lane (h ++ es)) s.clipboardLane s'.clipboardLane := by
  by_cases hlane : ∃ x ∈ es, x.kind = .lane
  · obtain ⟨x, hx, hk⟩ := hlane
    cases he with
    | clipboardLocked hfree hunlocked => exact .locked hfree (lane_snoc _ _) hunlocked rfl
    | clipboardUnlocked hheld => exact .unlocked hheld (lane_snoc _ _) rfl
    | report hx' =>
        obtain rfl := List.mem_singleton.mp hx
        exact absurd (hk.symm.trans hx'.kind) nofun
    | guard =>
        obtain ⟨_, -, rfl⟩ := List.mem_map.mp hx
        contradiction
    | control he => rcases he.kind hx with hk' | hk' <;> exact absurd (hk.symm.trans hk') nofun
    | session he => rcases he.kind hx with hk' | hk' <;> exact absurd (hk.symm.trans hk') nofun
    | tables he => exact absurd (hk.symm.trans (he.kind hx)) nofun
    | discovery he => exact absurd (hk.symm.trans (he.kind hx)) nofun
    | store he => exact absurd (hk.symm.trans (he.kind hx)) nofun
    | _ => contradiction
  · have hsame := he.clipboardLane_eq fun x hx hk => hlane ⟨x, hx, hk⟩
    by_cases hreport : ∃ x ∈ es, x.kind = .report
    · obtain ⟨x, hx, hk⟩ := hreport
      obtain ⟨rfl, rfl, htruthful⟩ := he.of_report hx hk
      rw [lane_snoc]
      cases x with
      | clipboardReadCalled => exact .called htruthful rfl rfl
      | clipboardReadReturned => exact .returned htruthful rfl rfl ⟨_, .head _, rfl⟩
      | clipboardCalled => exact .called htruthful.2.1 rfl rfl
      | clipboardReturned => exact .returned htruthful rfl rfl ⟨_, .head _, rfl⟩
      | _ => first | contradiction | exact .kept rfl rfl
    · refine .kept (lane_append_of_kind fun x hx => ?_) hsame
      exact ⟨fun hk => hlane ⟨x, hx, hk⟩, fun hk => hreport ⟨x, hx, hk⟩⟩

def Lane.isHeld : Lane → Bool
  | .free => false
  | _ => true

theorem LaneStep.lockStep {before after : Lane} {locked locked' : Bool}
    (hs : LaneStep es before after locked locked') :
    LockStep locked locked' before.isHeld after.isHeld := by
  cases hs with
  | locked hb ha hl hl' => subst hb ha; exact .acquired hl hl' rfl rfl
  | unlocked hb ha hl' => subst hb ha; exact .released rfl rfl hl'
  | called hb ha hl' => subst hb ha; exact .kept hl' rfl
  | returned hb ha hl' => subst hb ha; exact .kept hl' rfl
  | kept ha hl' => subst ha; exact .kept hl' rfl

theorem RuntimeRun.lane_exclusive (hr : RuntimeRun runtime s₀ steps s)
    (h₀ : s₀.clipboardLane = false) :
    MutualExclusion s.clipboardLane fun t => (lane (history t steps)).isHeld :=
  hr.exclusive RuntimeState.clipboardLane (fun h => (lane h).isHeld) h₀ rfl
    (fun _ _ _ _ he => he.1.laneStep.lockStep)
    (fun _ _ henv => by cases environmentEffect_of_env henv <;> rfl)

/-! ### Calls do not overlap -/

theorem kind_of_isClipboardCall (hx : x.isClipboardCall = true) :
    x.kind = .report := by
  cases x <;> first | contradiction | rfl

theorem RuntimeEffect.of_clipboardCall (he : RuntimeEffect runtime h s es s')
    (hx : x ∈ es) (hcall : x.isClipboardCall = true) :
    lane h = .held ∧ lane (h ++ es) = .calling := by
  obtain ⟨rfl, -, htruthful⟩ := he.of_report hx (kind_of_isClipboardCall hcall)
  rw [lane_snoc]
  cases x with
  | clipboardReadCalled => exact ⟨htruthful, rfl⟩
  | clipboardCalled => exact ⟨htruthful.2.1, rfl⟩
  | _ => contradiction

theorem RuntimeEffect.calling (he : RuntimeEffect runtime h s es s') (hc : lane h = .calling)
    (hes : ∀ x ∈ es, ¬ x.isClipboardReturn = true) : lane (h ++ es) = .calling := by
  cases he.laneStep with
  | locked hb | unlocked hb | called hb => simp [hc] at hb
  | kept ha => exact ha.trans hc
  | returned _ _ _ hx =>
      obtain ⟨x, hx, hreturn⟩ := hx
      exact absurd hreturn (hes x hx)

variable {mid : List RuntimeStep}

theorem RuntimeRun.returned_between {f : RuntimeStep} {u : Nat}
    {x y : RuntimeEvent} (hr : RuntimeRun runtime s₀ (before ++ e :: (mid ++ f :: after)) s)
    (h₀ : s₀.clipboardLane = false) (ht : e.task = some t) (hu : f.task = some u)
    (hx : x ∈ e.events) (hy : y ∈ f.events) (hcall : x.isClipboardCall = true)
    (hcall' : y.isClipboardCall = true) :
    ∃ k ∈ mid, k.task = some t ∧ ∃ z ∈ k.events, z.isClipboardReturn = true := by
  have hr' : RuntimeRun runtime s₀ (((before ++ [e]) ++ mid) ++ f :: after) s := by simpa using hr
  have hstart : lane (history t (before ++ [e])) = .calling := by
    obtain ⟨task, pre, es, post⟩ := e
    subst ht
    rw [history_snoc_self]
    exact ((hr.effect rfl).of_clipboardCall hx hcall).2
  by_contra hnone
  have hcalling : lane (history t ((before ++ [e]) ++ mid)) = .calling :=
    hr'.prior.lasts_until (fun h => lane h = .calling) (fun x => x.isClipboardReturn = true)
      (fun _ _ _ _ he hc hes => he.1.calling hc hes) hstart
      fun k hk hkt z hz hreturn => hnone ⟨k, hk, hkt, z, hz, hreturn⟩
  have hheld := ((hr'.effect hu).of_clipboardCall hy hcall').1
  obtain rfl : t = u := (RuntimeRun.lane_exclusive hr'.prior h₀).unique t u
    (congrArg Lane.isHeld hcalling) (congrArg Lane.isHeld hheld)
  exact absurd (hcalling.symm.trans hheld) nofun

/-! ## The stored guard -/

def RuntimeState.clipboardOf (s : RuntimeState) (sessionId : SessionId) : Option ClipboardRecord :=
  (s.heap.lookup sessionId).bind fun entry => entry.state.clipboard

def RuntimeEvent.movesClipboard (sessionId : SessionId) : RuntimeEvent → Bool
  | .clipboardIssued other _ _ | .clipboardTaken other _ _ => other == sessionId
  | _ => false

theorem movesClipboard_of_kind (hk : x.kind ≠ .table) :
    x.movesClipboard sessionId = false := by
  cases x <;> first | rfl | exact absurd rfl hk

theorem clipboardOf_modifySession {other : SessionId} {f : SessionEntry → SessionEntry}
    (hf : ∀ entry, s.heap.lookup other = some entry →
      (f entry).state.clipboard = entry.state.clipboard) :
    (s.modifySession other f).clipboardOf sessionId = s.clipboardOf sessionId := by
  rw [RuntimeState.clipboardOf, RuntimeState.lookup_modifySession, RuntimeState.clipboardOf]
  split
  · subst other
    cases hentry : s.heap.lookup sessionId with
    | none => rfl
    | some entry => exact hf entry hentry
  · rfl

theorem clipboardOf_closeSessions (s : RuntimeState) (sessionIds : List SessionId) :
    (s.closeSessions sessionIds).clipboardOf sessionId = s.clipboardOf sessionId := by
  induction sessionIds generalizing s with
  | nil => rfl
  | cons other rest ih => exact (ih _).trans (clipboardOf_modifySession fun _ _ => rfl)

theorem clipboardOf_modifyTables {other : SessionId} {entry : SessionEntry} {state : SessionState}
    (hentry : s.heap.lookup other = some entry) :
    (s.modifyTables other fun _ => state).clipboardOf sessionId =
      if sessionId = other then state.clipboard else s.clipboardOf sessionId := by
  rw [RuntimeState.clipboardOf, RuntimeState.modifyTables, RuntimeState.lookup_modifySession]
  split
  · subst other
    rw [hentry]
    rfl
  · rfl

inductive ClipboardStep (sessionId : SessionId) (s : RuntimeState) (es : List RuntimeEvent)
    (s' : RuntimeState) : Prop where
  | kept (hsame : s'.clipboardOf sessionId = s.clipboardOf sessionId)
      (hes : ∀ x ∈ es, x.movesClipboard sessionId = false)
  | issued (record : ClipboardRecord)
      (hes : es = [.clipboardIssued sessionId record.id record.changeMarker])
      (hissued : s'.clipboardOf sessionId = some record)
  | taken (record : ClipboardRecord)
      (hes : es = [.clipboardTaken sessionId record.id record.changeMarker])
      (hstored : s.clipboardOf sessionId = some record)
      (htaken : s'.clipboardOf sessionId = none)

theorem ClipboardStep.of_kind (hsame : s'.clipboardOf sessionId = s.clipboardOf sessionId)
    (hes : ∀ x ∈ es, x.kind ≠ .table) : ClipboardStep sessionId s es s' :=
  .kept hsame fun x hx => movesClipboard_of_kind (hes x hx)

theorem ClipboardStep.of_heap (hheap : s'.heap = s.heap) (hes : ∀ x ∈ es, x.kind ≠ .table) :
    ClipboardStep sessionId s es s' :=
  .of_kind (by rw [RuntimeState.clipboardOf, hheap]; rfl) hes

theorem SessionEffect.clipboardStep (he : SessionEffect runtime h s es s')
    (hw : WellFormed runtime s) : ClipboardStep sessionId s es s' := by
  have hkind : ∀ x ∈ es, x.kind ≠ .table := by
    intro x hx
    rcases he.kind hx with hk | hk <;> simp [hk]
  refine .of_kind ?_ hkind
  have hinsert : ∀ {session : Session} {cell : GuardCell},
      session.id = ⟨runtime.uuids.issue "session" s.issued⟩ →
      ((s.heap.insert session.id ⟨session, cell, .empty⟩).lookup sessionId).bind
        (fun entry => entry.state.clipboard) = s.clipboardOf sessionId := by
    intro session cell hid
    rw [Table.lookup_insert_eq, RuntimeState.clipboardOf]
    split
    · subst sessionId
      rw [hid, hw.fresh]
      rfl
    · rfl
  cases he with
  | opened _ _ _ hid => exact hinsert hid
  | refused _ _ _ hid => exact hinsert hid
  | unmapped | rejected => rfl
  | closed => exact clipboardOf_modifySession fun _ _ => rfl
  | expired => exact clipboardOf_modifySession fun _ _ => rfl

theorem TableEffect.clipboardStep (he : TableEffect runtime h s es s') :
    ClipboardStep sessionId s es s' := by
  have hkept : ∀ {other : SessionId} {entry : SessionEntry} {state : SessionState} {issued : Nat},
      s.heap.lookup other = some entry → state.clipboard = entry.state.clipboard →
      ({ s.modifyTables other fun _ => state with issued := issued } : RuntimeState).clipboardOf
        sessionId = s.clipboardOf sessionId := by
    intro other entry state issued hentry hsame
    refine (clipboardOf_modifyTables hentry).trans ?_
    split
    · subst other
      rw [hsame, RuntimeState.clipboardOf, hentry]
      rfl
    · rfl
  cases he with
  | projected _ hentry hproject => exact .kept (hkept hentry hproject.frame.2) (by simp)
  | @clipboardIssued _ session entry changeMarker _ _ hentry =>
      by_cases hid : session.id = sessionId
      · subst hid
        exact .issued ⟨_, changeMarker⟩ rfl ((clipboardOf_modifyTables hentry).trans (if_pos rfl))
      · exact .kept ((clipboardOf_modifyTables hentry).trans (if_neg (Ne.symm hid)))
          (by simpa [RuntimeEvent.movesClipboard] using hid)
  | @clipboardTaken session input entry changeMarker _ _ _ _ hentry hclipboard =>
      by_cases hid : session.id = sessionId
      · subst hid
        refine .taken ⟨input.clipboardRef, changeMarker⟩ rfl ?_
          ((clipboardOf_modifyTables hentry).trans (if_pos rfl))
        rw [RuntimeState.clipboardOf, hentry]
        exact hclipboard
      · exact .kept ((clipboardOf_modifyTables hentry).trans (if_neg (Ne.symm hid)))
          (by simpa [RuntimeEvent.movesClipboard] using hid)
  | observationInvalidated _ _ hentry => exact .kept (hkept hentry rfl) (by simp)
  | consumed _ _ _ hconsumable =>
      exact .kept (hkept hconsumable.entry_eq rfl) (by simp [RuntimeEvent.movesClipboard])
  | published _ hentry =>
      refine .kept (hkept hentry ?_) (by simp [RuntimeEvent.movesClipboard])
      rw [SessionState.publish, SessionState.trimObservations]
      split <;> rfl
  | windowInvalidated =>
      exact .kept (clipboardOf_modifySession fun _ _ => rfl) (by simp [RuntimeEvent.movesClipboard])
  | applicationInvalidated =>
      exact .kept (clipboardOf_modifySession fun _ _ => rfl) (by simp [RuntimeEvent.movesClipboard])

theorem RuntimeEffect.clipboardStep (he : RuntimeEffect runtime h s es s')
    (hw : WellFormed runtime s) (sessionId : SessionId) : ClipboardStep sessionId s es s' := by
  cases he with
  | report hx => exact .of_heap rfl (by simp [hx.kind])
  | guard => exact .of_kind (clipboardOf_modifySession fun _ _ => rfl) (by simp [RuntimeEvent.kind])
  | control he =>
      obtain ⟨sessionIds, hheap⟩ := he.frame.heap_eq
      refine .of_kind ?_ fun x hx => by rcases he.kind hx with hk | hk <;> simp [hk]
      exact (congrArg (fun heap : Table SessionId SessionEntry =>
        (heap.lookup sessionId).bind fun entry => entry.state.clipboard) hheap).trans
        (clipboardOf_closeSessions s sessionIds)
  | session he => exact he.clipboardStep hw
  | tables he => exact he.clipboardStep
  | discovery he =>
      refine .of_heap ?_ fun x hx => by simp [he.kind hx]
      cases he <;> rfl
  | store he =>
      refine .of_heap ?_ fun x hx => by simp [he.kind hx]
      cases he <;> rfl
  | _ => exact .of_heap rfl (by simp [RuntimeEvent.kind])

/-! ## References -/

variable {clipboardRef : ClipboardRef} {changeMarker : String}

theorem RuntimeEffect.of_clipboardIssued
    (he : RuntimeEffect runtime h s es s')
    (hx : .clipboardIssued sessionId clipboardRef changeMarker ∈ es) :
    es = [.clipboardIssued sessionId clipboardRef changeMarker] ∧
      clipboardRef = ⟨runtime.uuids.issue "clipboard" s.issued⟩ ∧ s.issued < s'.issued ∧
      (view h).issued = none ∧ ∃ cited session, .resolved cited session ∈ h ∧
        session.id = sessionId ∧ IssuedFor h cited session := by
  cases he.of_table hx rfl with
  | clipboardIssued hresolved hcommand _ _ _ hfirst =>
      obtain ⟨rfl, rfl, rfl⟩ := RuntimeEvent.clipboardIssued.inj (List.mem_singleton.mp hx)
      exact ⟨rfl, rfl, Nat.lt_succ_self _, hfirst, _, _, hresolved, rfl, hcommand⟩
  | _ => simp at hx

theorem RuntimeEffect.of_clipboardTaken
    (he : RuntimeEffect runtime h s es s')
    (hx : .clipboardTaken sessionId clipboardRef changeMarker ∈ es) :
    es = [.clipboardTaken sessionId clipboardRef changeMarker] ∧ ∃ input session,
      phase h = .running (.writeClipboard input) ∧ input.clipboardRef = clipboardRef ∧
      .resolved input.sessionId session ∈ h ∧ session.id = sessionId ∧
      session.manifest.allowClipboardWrite = true := by
  cases he.of_table hx rfl with
  | clipboardTaken hrunning hresolved hallowed =>
      obtain ⟨rfl, rfl, rfl⟩ := RuntimeEvent.clipboardTaken.inj (List.mem_singleton.mp hx)
      exact ⟨rfl, _, _, hrunning, rfl, hresolved, rfl, hallowed⟩
  | _ => simp at hx

/-- The last step that moved the guard of the session has issued the reference. -/
def Current (sessionId : SessionId) (record : ClipboardRecord) (steps : List RuntimeStep) : Prop :=
  ∃ before e after, steps = before ++ e :: after ∧
    .clipboardIssued sessionId record.id record.changeMarker ∈ e.events ∧
    ∀ k ∈ after, ∀ x ∈ k.events, x.movesClipboard sessionId = false

theorem Current.snoc {record : ClipboardRecord} (hc : Current sessionId record steps)
    (he : ∀ x ∈ e.events, x.movesClipboard sessionId = false) :
    Current sessionId record (steps ++ [e]) := by
  obtain ⟨before, f, after, rfl, hissued, hafter⟩ := hc
  refine ⟨before, f, after ++ [e], by simp, hissued, fun k hk => ?_⟩
  rcases List.mem_append.mp hk with hk | hk
  · exact hafter k hk
  · obtain rfl := List.mem_singleton.mp hk
    exact he

namespace RuntimeRun

theorem current (hr : RuntimeRun runtime s₀ steps s) (h₀ : WellFormed runtime s₀)
    (hheap : s₀.heap = ∅) {record : ClipboardRecord}
    (hstored : s.clipboardOf sessionId = some record) : Current sessionId record steps := by
  refine hr.induction (P := fun steps s => ∀ record, s.clipboardOf sessionId = some record →
    Current sessionId record steps) ?_ ?_ ?_ record hstored
  · intro record hstored
    simp [RuntimeState.clipboardOf, hheap] at hstored
  · intro before t s es s' hbefore hcurrent hb record hstored
    cases hb.effect.clipboardStep (wellFormed hbefore h₀) sessionId with
    | kept hsame hes => exact (hcurrent record (hsame ▸ hstored)).snoc hes
    | issued new hes hissued =>
        obtain rfl := Option.some.inj (hissued.symm.trans hstored)
        exact ⟨before, _, [], rfl, by simp [hes], by simp⟩
    | taken _ _ _ htaken => simp [htaken] at hstored
  · intro before s s' _ hcurrent he record hstored
    refine (hcurrent record ?_).snoc (by simp)
    cases he <;> exact hstored

theorem issued_once {before' after' : List RuntimeStep} {e' : RuntimeStep}
    {sessionId' : SessionId} {changeMarker changeMarker' : String}
    (hr : RuntimeRun runtime s₀ steps s) (h₀ : WellFormed runtime s₀)
    (hsteps : steps = before ++ e :: after) (hsteps' : steps = before' ++ e' :: after')
    (hx : .clipboardIssued sessionId clipboardRef changeMarker ∈ e.events)
    (hx' : .clipboardIssued sessionId' clipboardRef changeMarker' ∈ e'.events) :
    before = before' ∧ e = e' ∧ sessionId = sessionId' := by
  obtain ⟨t, ht⟩ := task_of_mem (hsteps ▸ hr) hx
  obtain ⟨t', ht'⟩ := task_of_mem (hsteps' ▸ hr) hx'
  obtain ⟨hes, href, hlt, -⟩ := (effect (hsteps ▸ hr) ht).of_clipboardIssued hx
  obtain ⟨-, href', hlt', -⟩ := (effect (hsteps' ▸ hr) ht').of_clipboardIssued hx'
  have hdrawn : e.pre.issued = e'.pre.issued := by
    rw [href] at href'
    simpa [UuidSource.issue_inj] using href'
  rcases places_cases (hsteps.symm.trans hsteps') with ⟨rfl, rfl, -⟩ | ⟨mid, -, rfl⟩ | ⟨mid, -, rfl⟩
  · rw [hes, List.mem_singleton] at hx'
    exact ⟨rfl, rfl, (RuntimeEvent.clipboardIssued.inj hx').1.symm⟩
  · have hle := (evolves_between (hsteps ▸ hr) h₀).issued_le
    omega
  · have hle := (evolves_between (hsteps' ▸ hr) h₀).issued_le
    omega

theorem unmoved_since_issued {sessionId' : SessionId}
    {changeMarker changeMarker' : String}
    (hr : RuntimeRun runtime s₀ (before ++ mid) s) (h₀ : WellFormed runtime s₀)
    (hissued : Occurs (.clipboardIssued sessionId clipboardRef changeMarker) before)
    (hc : Current sessionId' ⟨clipboardRef, changeMarker'⟩ (before ++ mid)) :
    sessionId = sessionId' ∧ ∀ k ∈ mid, ∀ x ∈ k.events, x.movesClipboard sessionId = false := by
  obtain ⟨e, he, hx⟩ := hissued
  obtain ⟨earlier, later, rfl⟩ := List.append_of_mem he
  obtain ⟨earlier', e', later', hsteps, hx', hlater'⟩ := hc
  have hsplit : (earlier ++ e :: later) ++ mid = earlier ++ e :: (later ++ mid) := by simp
  obtain ⟨rfl, rfl, rfl⟩ := issued_once hr h₀ hsplit hsteps hx hx'
  refine ⟨rfl, fun k hk => hlater' k ?_⟩
  rw [hsplit] at hsteps
  have htail := (List.cons.inj (List.append_cancel_left hsteps)).2
  rw [← htail]
  exact List.mem_append_right _ hk

end RuntimeRun

/-! ## Writes -/

structure TakenBy (earlier : List RuntimeStep) (g : RuntimeStep) (t : Nat)
    (input : WriteClipboardInput) (changeMarker : String) : Prop where
  task : g.task = some t
  taken : .clipboardTaken input.sessionId input.clipboardRef changeMarker ∈ g.events
  allowed : ∃ entry, g.pre.heap.lookup input.sessionId = some entry ∧
    entry.session.manifest.allowClipboardWrite = true
  stored : g.pre.clipboardOf input.sessionId = some ⟨input.clipboardRef, changeMarker⟩
  removed : g.post.clipboardOf input.sessionId = none
  current : Current input.sessionId ⟨input.clipboardRef, changeMarker⟩ earlier

theorem ClipboardStep.of_taken
    (hs : ClipboardStep sessionId s es s')
    (hx : .clipboardTaken sessionId clipboardRef changeMarker ∈ es) :
    s.clipboardOf sessionId = some ⟨clipboardRef, changeMarker⟩ ∧
      s'.clipboardOf sessionId = none := by
  cases hs with
  | kept _ hes => simpa [RuntimeEvent.movesClipboard] using hes _ hx
  | issued record hes => simp [hes] at hx
  | taken record hes hstored htaken =>
      rw [hes, List.mem_singleton] at hx
      obtain ⟨-, hid, hmarker⟩ := RuntimeEvent.clipboardTaken.inj hx
      exact ⟨by rw [hstored, hid, hmarker], htaken⟩

namespace RuntimeRun

theorem not_taken_twice {f : RuntimeStep} {u : Nat}
    {input input' : WriteClipboardInput} {changeMarker changeMarker' : String}
    (hr : RuntimeRun runtime s₀ (before ++ e :: mid) s) (h₀ : WellFormed runtime s₀)
    (he : TakenBy before e t input changeMarker)
    (hf : TakenBy (before ++ e :: mid) f u input' changeMarker')
    (href : input'.clipboardRef = input.clipboardRef) : False := by
  obtain ⟨earlier, k, later, hsplit, hx, -⟩ := he.current
  have hissued : Occurs (.clipboardIssued input.sessionId input.clipboardRef changeMarker) before :=
    ⟨k, by simp [hsplit], hx⟩
  obtain ⟨-, hunmoved⟩ := unmoved_since_issued hr h₀ hissued (href ▸ hf.current)
  have hmoves := hunmoved e (.head _) _ he.taken
  simp [RuntimeEvent.movesClipboard] at hmoves

variable (hr : RuntimeRun runtime s₀ (before ++ e :: after) s) (h₀ : WellFormed runtime s₀)
  (hheap : s₀.heap = ∅) (ht : e.task = some t)
include hr h₀ hheap ht

theorem takenBy (hx : .clipboardTaken sessionId clipboardRef changeMarker ∈ e.events) :
    ∃ input, .entered (.writeClipboard input) ∈ history t before ∧ input.sessionId = sessionId ∧
      input.clipboardRef = clipboardRef ∧ TakenBy before e t input changeMarker := by
  have he := hr.effect ht
  obtain ⟨-, input, session, hrunning, rfl, hresolved, rfl, hallowed⟩ := he.of_clipboardTaken hx
  obtain ⟨hid, entry, hentry, rfl⟩ := hr.prior.resolved h₀ hresolved
  rw [hid] at hx
  obtain ⟨hstored, hremoved⟩ := (he.clipboardStep (wellFormed hr.prior h₀) _).of_taken hx
  exact ⟨input, entered_of_phase (by rw [hrunning]; rfl), hid.symm, rfl, ht, hx,
    ⟨entry, hentry, hallowed⟩, hstored, hremoved, current hr.prior h₀ hheap hstored⟩

theorem calledBy (hx : .clipboardCalled sessionId changeMarker ∈ e.events) :
    calls (history t before) = [] ∧ ∃ input earlier g later, before = earlier ++ g :: later ∧
      .entered (.writeClipboard input) ∈ history t before ∧ input.sessionId = sessionId ∧
      TakenBy earlier g t input changeMarker := by
  obtain ⟨hcalls, -, cited, own, -, hown⟩ := hr.reported ht hx rfl
  refine ⟨hcalls, ?_⟩
  have hmem : .clipboardTaken sessionId cited.clipboardRef changeMarker ∈ history t before := by
    simp [hown]
  obtain ⟨earlier, g, later, rfl, hg, hevent⟩ := exists_split_of_mem_history hmem
  obtain ⟨input, hentered, hid, -, htaken⟩ := hr.prior.takenBy h₀ hheap hg hevent
  exact ⟨input, earlier, g, later, rfl, history_subset_append t earlier _ hentered, hid, htaken⟩

theorem write_takes {input : WriteClipboardInput}
    (hentered : .entered (.writeClipboard input) ∈ history t before)
    (hdoes : (∃ sessionId changeMarker, .clipboardCalled sessionId changeMarker ∈ e.events) ∨
      ∃ sessionId, e.post.clipboardOf sessionId ≠ e.pre.clipboardOf sessionId) :
    ∃ earlier g later changeMarker, before ++ e :: after = earlier ++ g :: later ∧
      TakenBy earlier g t input changeMarker := by
  have hmem : ∃ cited clipboardRef changeMarker,
      .clipboardTaken cited clipboardRef changeMarker ∈ history t (before ++ e :: after) := by
    have hgrown := history_subset_append t before (e :: after)
    rcases hdoes with ⟨_, _, hcalled⟩ | ⟨sessionId, hmoved⟩
    · obtain ⟨-, -, cited, own, -, hown⟩ := hr.reported ht hcalled rfl
      exact ⟨_, _, _, hgrown (by rw [hown]; exact List.mem_append_right _ (.head _))⟩
    · cases (hr.effect ht).clipboardStep (wellFormed hr.prior h₀) sessionId with
      | kept hsame => exact absurd hsame hmoved
      | taken record hes =>
          exact ⟨_, _, _, mem_history.mpr ⟨e, by simp, ht, by rw [hes]; exact .head _⟩⟩
      | issued record hes =>
          have hx : .clipboardIssued sessionId record.id record.changeMarker ∈ e.events := by
            simp [hes]
          obtain ⟨-, -, -, -, _, _, -, -, hcommand⟩ := (hr.effect ht).of_clipboardIssued hx
          rcases hcommand with hread | ⟨_, _, -, -, htaken⟩
          · -- A write does not run a read.
            have hother := entered_of_phase (congrArg Phase.command hread)
            exact absurd (hr.prior.entered_unique hentered hother) nofun
          · exact ⟨_, _, _, hgrown htaken⟩
  obtain ⟨cited, clipboardRef, changeMarker, hmem⟩ := hmem
  obtain ⟨earlier, g, later, hsplit, hg, hevent⟩ := exists_split_of_mem_history hmem
  obtain ⟨other, hother, -, -, htaken⟩ := takenBy (hsplit ▸ hr) h₀ hheap hg hevent
  have hsame := hr.entered_unique (history_subset_append t before _ hentered)
    (hsplit ▸ history_subset_append t earlier _ hother)
  obtain rfl := Command.writeClipboard.inj hsame
  exact ⟨earlier, g, later, changeMarker, hsplit, htaken⟩

end RuntimeRun

inductive Refused (steps : List RuntimeStep) (s : RuntimeState) (t : Nat)
    (input : WriteClipboardInput) : Prop where
  | unallowed (hunallowed : ∀ entry, s.heap.lookup input.sessionId = some entry →
      entry.session.manifest.allowClipboardWrite = false)
  | foreign {other : SessionId} {changeMarker : String} (hother : other ≠ input.sessionId)
      (hissued : Occurs (.clipboardIssued other input.clipboardRef changeMarker) steps)
  | superseded {before after : List RuntimeStep} {e : RuntimeStep} {clipboardRef : ClipboardRef}
      {changeMarker changeMarker' : String} (hsteps : steps = before ++ e :: after)
      (hissued : Occurs (.clipboardIssued input.sessionId input.clipboardRef changeMarker) before)
      (hlater : .clipboardIssued input.sessionId clipboardRef changeMarker' ∈ e.events)
      (huntaken : ∀ changeMarker,
        .clipboardTaken input.sessionId input.clipboardRef changeMarker ∉ history t before)

theorem RuntimeRun.not_taken_of_refused {input : WriteClipboardInput}
    (hr : RuntimeRun runtime s₀ (before ++ e :: after) s) (h₀ : WellFormed runtime s₀)
    (hrefused : Refused (before ++ e :: after) s t input)
    (htaken : TakenBy before e t input changeMarker) : False := by
  cases hrefused with
  | unallowed hunallowed =>
      obtain ⟨entry, hentry, hallowed⟩ := htaken.allowed
      obtain ⟨entry', hentry', ha⟩ := (hr.evolves h₀).1.ages _ _ hentry
      have hdenied := hunallowed entry' hentry'
      simp [ha.session, hallowed] at hdenied
  | foreign hother hissued =>
      obtain ⟨earlier, k, later, hsplit, hx, -⟩ := htaken.current
      obtain ⟨k', hk', hx'⟩ := hissued
      obtain ⟨earlier', later', hsplit'⟩ := List.append_of_mem hk'
      have hfull : before ++ e :: after = earlier ++ k :: (later ++ e :: after) := by simp [hsplit]
      exact hother (issued_once hr h₀ hsplit' hfull hx' hx).2.2
  | @superseded earlier later k _ _ _ hsteps hissued hlater huntaken =>
      -- The take is after the new reference: not before it, and not in its step.
      rcases places_cases hsteps with ⟨-, rfl, -⟩ | ⟨mid, rfl, -⟩ | ⟨mid, rfl, -⟩
      · obtain ⟨hes, -⟩ := (hr.effect htaken.task).of_clipboardTaken htaken.taken
        simp [hes] at hlater
      · exact huntaken _ (mem_history.mpr ⟨e, by simp, htaken.task, htaken.taken⟩)
      · obtain ⟨-, hunmoved⟩ := unmoved_since_issued hr.prior h₀ hissued htaken.current
        have hmoves := hunmoved k (.head _) _ hlater
        simp [RuntimeEvent.movesClipboard] at hmoves

/-! ## Issues and returns -/

theorem nextIssued_cases (issued : Option ClipboardRef) (x : RuntimeEvent) :
    nextIssued issued x = issued ∨ ∃ sessionId clipboardRef changeMarker,
      x = .clipboardIssued sessionId clipboardRef changeMarker ∧
        nextIssued issued x = some clipboardRef := by
  cases x with
  | clipboardIssued sessionId clipboardRef changeMarker =>
      exact .inr ⟨sessionId, clipboardRef, changeMarker, rfl, rfl⟩
  | _ => exact .inl rfl

theorem issued_snoc (h : List RuntimeEvent) (x : RuntimeEvent) :
    (view (h ++ [x])).issued = nextIssued (view h).issued x :=
  congrArg TaskView.issued (view_snoc h x)

theorem mem_of_issued (hi : (view h).issued = some clipboardRef) :
    ∃ sessionId changeMarker, .clipboardIssued sessionId clipboardRef changeMarker ∈ h := by
  induction h using List.reverseRecOn with
  | nil => contradiction
  | append_singleton h x ih =>
      rw [issued_snoc] at hi
      rcases nextIssued_cases (view h).issued x with hsame | ⟨sessionId, _, changeMarker, rfl, hnew⟩
      · obtain ⟨sessionId, changeMarker, hmem⟩ := ih (hsame ▸ hi)
        exact ⟨sessionId, changeMarker, List.mem_append_left _ hmem⟩
      · obtain rfl := Option.some.inj (hnew.symm.trans hi)
        exact ⟨sessionId, changeMarker, List.mem_append_right _ (.head _)⟩

theorem issued_append_of_not_mem {xs : List RuntimeEvent}
    (hxs : ∀ sessionId clipboardRef changeMarker,
      .clipboardIssued sessionId clipboardRef changeMarker ∉ xs) :
    (view (h ++ xs)).issued = (view h).issued := by
  induction xs generalizing h with
  | nil => simp
  | cons x xs ih =>
      rw [List.append_cons, ih fun _ _ _ hx => hxs _ _ _ (.tail _ hx), issued_snoc]
      rcases nextIssued_cases (view h).issued x with hsame | ⟨_, _, _, rfl, -⟩
      · exact hsame
      · exact absurd (.head _) (hxs _ _ _)

theorem RuntimeRun.issued_of_mem
    (hr : RuntimeRun runtime s₀ steps s)
    (hx : .clipboardIssued sessionId clipboardRef changeMarker ∈ history t steps) :
    (view (history t steps)).issued = some clipboardRef := by
  obtain ⟨before, e, after, rfl, ht, hevent⟩ := exists_split_of_mem_history hx
  rw [List.append_cons] at hr ⊢
  refine hr.lasts_until (fun h => (view h).issued = some clipboardRef) (fun _ => False) ?_ ?_
    (by simp)
  · intro h s es s' he hi _
    rw [issued_append_of_not_mem, hi]
    intro _ _ _ hnew
    obtain ⟨-, -, -, hfirst, -⟩ := he.1.of_clipboardIssued hnew
    simp [hi] at hfirst
  · have hr' : RuntimeRun runtime s₀ (before ++ e :: after) s := by simpa using hr
    have hes := ((hr'.effect ht).of_clipboardIssued hevent).1
    obtain ⟨task, pre, es, post⟩ := e
    subst ht hes
    rw [history_snoc_self, issued_snoc]
    rfl

theorem RuntimeRun.issuedBy
    (hr : RuntimeRun runtime s₀ (before ++ e :: after) s) (h₀ : WellFormed runtime s₀)
    (ht : e.task = some t)
    (hx : .clipboardIssued sessionId clipboardRef changeMarker ∈ e.events) :
    .entered (.readClipboard sessionId) ∈ history t before ∨
      ∃ input, input.sessionId = sessionId ∧
        .entered (.writeClipboard input) ∈ history t before := by
  obtain ⟨-, -, -, -, cited, session, hresolved, rfl, hcommand⟩ :=
    (hr.effect ht).of_clipboardIssued hx
  rw [(hr.prior.resolved h₀ hresolved).1]
  rcases hcommand with hread | ⟨input, _, hwrite, hid, -⟩
  · exact .inl (entered_of_phase (congrArg Phase.command hread))
  · exact .inr ⟨input, hid, entered_of_phase (congrArg Phase.command hwrite)⟩

/-! ## The guard -/

/-- What holds of the clipboard calls of a run that has reached `s`. -/
structure ClipboardGuarded (steps : List RuntimeStep) (s : RuntimeState) : Prop where
  sequential : ∀ before e mid f after t u x y, steps = before ++ e :: (mid ++ f :: after) →
    e.task = some t → f.task = some u → x ∈ e.events → y ∈ f.events →
    x.isClipboardCall = true → y.isClipboardCall = true →
    ∃ k ∈ mid, k.task = some t ∧ ∃ z ∈ k.events, z.isClipboardReturn = true
  /-- A write passes the marker of the current reference of its session, which it has taken. -/
  consumes : ∀ before e after t sessionId changeMarker, steps = before ++ e :: after →
    e.task = some t → .clipboardCalled sessionId changeMarker ∈ e.events →
    ∃ input earlier g later, before = earlier ++ g :: later ∧
      .entered (.writeClipboard input) ∈ history t before ∧ input.sessionId = sessionId ∧
      TakenBy earlier g t input changeMarker
  issuedBy : ∀ before e after t sessionId clipboardRef changeMarker,
    steps = before ++ e :: after → e.task = some t →
    .clipboardIssued sessionId clipboardRef changeMarker ∈ e.events →
    .entered (.readClipboard sessionId) ∈ history t before ∨
      ∃ input, input.sessionId = sessionId ∧ .entered (.writeClipboard input) ∈ history t before
  /-- A clipboard command succeeds with the reference it has issued, and only with one. -/
  succeeds : ∀ before e after t command outcome, steps = before ++ e :: after →
    e.task = some t → .returned command outcome ∈ e.events → usesClipboard command = true →
    ∀ clipboardRef, Issues outcome clipboardRef ↔ ∃ sessionId changeMarker,
      .clipboardIssued sessionId clipboardRef changeMarker ∈ history t before
  once : ∀ before e after t input changeMarker before' e' after' t' input' changeMarker',
    steps = before ++ e :: after → steps = before' ++ e' :: after' →
    e.task = some t → e'.task = some t' →
    .clipboardCalled input.sessionId changeMarker ∈ e.events →
    .clipboardCalled input'.sessionId changeMarker' ∈ e'.events →
    .entered (.writeClipboard input) ∈ history t before →
    .entered (.writeClipboard input') ∈ history t' before' →
    input.clipboardRef = input'.clipboardRef → before = before'
  /-- A write without a guard reaches neither the driver nor the stored guards. -/
  refused : ∀ t input, Refused steps s t input → ∀ before e after, steps = before ++ e :: after →
    e.task = some t → .entered (.writeClipboard input) ∈ history t before →
    (∀ sessionId changeMarker, .clipboardCalled sessionId changeMarker ∉ e.events) ∧
      ∀ sessionId, e.post.clipboardOf sessionId = e.pre.clipboardOf sessionId

theorem RuntimeRun.called_once {before' after' : List RuntimeStep} {e' : RuntimeStep} {t' : Nat}
    {input input' : WriteClipboardInput} {changeMarker changeMarker' : String}
    (hr : RuntimeRun runtime s₀ steps s) (h₀ : WellFormed runtime s₀) (hheap : s₀.heap = ∅)
    (hsteps : steps = before ++ e :: after) (hsteps' : steps = before' ++ e' :: after')
    (ht : e.task = some t) (ht' : e'.task = some t')
    (hx : .clipboardCalled input.sessionId changeMarker ∈ e.events)
    (hx' : .clipboardCalled input'.sessionId changeMarker' ∈ e'.events)
    (hentered : .entered (.writeClipboard input) ∈ history t before)
    (hentered' : .entered (.writeClipboard input') ∈ history t' before')
    (href : input.clipboardRef = input'.clipboardRef) : before = before' := by
  have hr₁ : RuntimeRun runtime s₀ (before ++ e :: after) s := hsteps ▸ hr
  have hr₂ : RuntimeRun runtime s₀ (before' ++ e' :: after') s := hsteps' ▸ hr
  obtain ⟨hcalls, cited, earlier, g, later, rfl, hcited, -, hg⟩ := hr₁.calledBy h₀ hheap ht hx
  obtain ⟨hcalls', cited', earlier', g', later', rfl, hcited', -, hg'⟩ :=
    hr₂.calledBy h₀ hheap ht' hx'
  obtain rfl := Command.writeClipboard.inj (hr₁.prior.entered_unique hcited hentered)
  obtain rfl := Command.writeClipboard.inj (hr₂.prior.entered_unique hcited' hentered')
  have hplaces : earlier ++ g :: (later ++ e :: after) =
      earlier' ++ g' :: (later' ++ e' :: after') := by
    simpa using hsteps.symm.trans hsteps'
  rcases places_cases hplaces with ⟨rfl, rfl, -⟩ | ⟨mid, rfl, hmid⟩ | ⟨mid, rfl, hmid⟩
  · -- One take: the task is the same, and it makes one call.
    obtain rfl : t = t' := Option.some.inj (hg.task.symm.trans hg'.task)
    exact (place_of_call (hsteps.symm.trans hsteps') ht ht' hx hx' rfl rfl hcalls hcalls').1
  · exact (not_taken_twice hr₂.prior.prior h₀ hg hg' href.symm).elim
  · exact (not_taken_twice hr₁.prior.prior h₀ hg' hg href).elim

theorem clipboard_guarded (runtime : RuntimeService) (c : RuntimePool)
    (hc : Reachable runtime.system c) : ClipboardGuarded c.steps c.shared := by
  obtain ⟨s₀, ⟨now, rfl⟩, hr⟩ := runtime.run_of_reachable hc
  have h₀ := WellFormed.initial runtime now
  constructor
  · intro before e mid f after t u x y hsteps ht hu hx hy hcall hcall'
    exact RuntimeRun.returned_between (hsteps ▸ hr) rfl ht hu hx hy hcall hcall'
  · intro before e after t sessionId changeMarker hsteps ht hx
    exact (RuntimeRun.calledBy (hsteps ▸ hr) h₀ rfl ht hx).2
  · intro before e after t sessionId clipboardRef changeMarker hsteps ht hx
    exact RuntimeRun.issuedBy (hsteps ▸ hr) h₀ ht hx
  · intro before e after t command outcome hsteps ht hx huses clipboardRef
    have hr' : RuntimeRun runtime _ (before ++ e :: after) c.shared := hsteps ▸ hr
    have hfacts := (hr'.reported ht hx rfl).2
    constructor
    · intro hissues
      exact mem_of_issued (hfacts.issued huses clipboardRef hissues)
    · rintro ⟨sessionId, changeMarker, hmem⟩
      exact hfacts.issues clipboardRef (hr'.prior.issued_of_mem hmem)
  · intro before e after t input changeMarker before' e' after' t' input' changeMarker' hsteps
      hsteps' ht ht' hx hx' hentered hentered' href
    exact hr.called_once h₀ rfl hsteps hsteps' ht ht' hx hx' hentered hentered' href
  · intro t input hrefused before e after hsteps ht hentered
    have hr' : RuntimeRun runtime _ (before ++ e :: after) c.shared := hsteps ▸ hr
    have hnothing : ¬ ((∃ sessionId changeMarker,
        .clipboardCalled sessionId changeMarker ∈ e.events) ∨
        ∃ sessionId, e.post.clipboardOf sessionId ≠ e.pre.clipboardOf sessionId) := by
      intro hdoes
      obtain ⟨earlier, g, later, changeMarker, hsplit, htaken⟩ :=
        hr'.write_takes h₀ rfl ht hentered hdoes
      rw [hsteps, hsplit] at hrefused
      exact RuntimeRun.not_taken_of_refused (hsplit ▸ hr') h₀ hrefused htaken
    push Not at hnothing
    exact ⟨hnothing.1, hnothing.2⟩

/-- The write passes the marker that the read has left, although the driver fails. -/
theorem clipboardWrite_consumes :
    ∃ before e after, (clipboardPool lostClipboard).steps = before ++ e :: after ∧
      e.task = some 2 ∧ .clipboardCalled ⟨"session_"⟩ "1" ∈ e.events ∧
      ∃ input earlier g later, before = earlier ++ g :: later ∧
        .entered (.writeClipboard input) ∈ history 2 before ∧ input.sessionId = ⟨"session_"⟩ ∧
        TakenBy earlier g 2 input "1" := by
  have hsteps : (clipboardPool lostClipboard).steps = (clipboardPool lostClipboard).steps.take 28 ++
      (clipboardPool lostClipboard).steps.get ⟨28, by decide⟩ ::
        (clipboardPool lostClipboard).steps.drop 29 := rfl
  exact ⟨_, _, _, hsteps, rfl, .head _,
    (clipboard_guarded exampleRuntime _ (clipboardPool_reachable lostClipboard)).consumes
      _ _ _ 2 _ _
      hsteps rfl (.head _)⟩

end NexusCua.Runtime
