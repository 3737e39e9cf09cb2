import NexusCua.Runtime.LifecycleContract

/-!
# Runs of the runtime

Every task keeps the contract, and a command or a call of `shutdown` takes its
steps only while the runtime is there.  An invariant of the runtime is proved by
`RuntimeRun.induction`: once for what a block does, once for the clock and once
for a panic under the scheduler's lock.
-/

namespace NexusCua.Runtime

open NexusCua.Foundation NexusCua.Protocol
open NexusCua.Foundation.Async (wp Contract)

variable {runtime : RuntimeService} {χ : Type} {h es : List RuntimeEvent} {s s' : RuntimeState}

/-! ## What an effect reports -/

inductive EventKind where
  | report
  | control
  | opening
  | closing
  | guard
  | table
  | lane
  | discovery
  | store
  deriving DecidableEq, Repr

def RuntimeEvent.kind : RuntimeEvent → EventKind
  | .entered _ | .schedulerLocked false | .ensured | .rescheduled | .left | .shutdownGuarded
  | .closedSwapped _ | .lifecycleSealed | .schedulerTaken _ | .shutdownSent | .discoveryCleared
  | .launchesCleared | .sessionsDrained | .shutdownReturned | .shutdownDropped | .loopStarted
  | .sessionsReaped _ | .discoveryReaped _ | .launchesReaped _ | .loopStopped | .runtimeDropped
  | .sessionsAbandoned _ | .storeDropped => .control
  | .opened _ | .rejected _ => .opening
  | .unmapped _ | .closeCalled _ | .sessionClosed _ => .closing
  | .guard _ _ => .guard
  | .published _ _ | .consumed _ | .windowInvalidated _ _ | .applicationInvalidated _ _
  | .clipboardIssued _ _ _ | .clipboardTaken _ _ _ => .table
  | .clipboardLocked | .clipboardUnlocked => .lane
  | .discovered _ | .launchesDiscovered _ | .launchConsumed _ => .discovery
  | .fileCreated _ _ | .fileWritten _ _ true | .registered _ _ _ | .indexRemoved _
  | .directoryRemoved _ => .store
  | _ => .report

variable {x : RuntimeEvent}

theorem mem_closingEvents {sessionIds : List SessionId}
    (hx : x ∈ closingEvents s sessionIds) :
    x = .closeCalled sessionIds ∨
      ∃ sessionId ∈ sessionIds, s.isOpen sessionId = true ∧ x = .sessionClosed sessionId := by
  rcases List.mem_cons.mp hx with rfl | hx
  · exact .inl rfl
  · obtain ⟨sessionId, hmem, rfl⟩ := List.mem_map.mp hx
    obtain ⟨hmem, hopen⟩ := List.mem_filter.mp hmem
    exact .inr ⟨sessionId, hmem, hopen, rfl⟩

theorem kind_closingEvents {sessionIds : List SessionId}
    (hx : x ∈ closingEvents s sessionIds) : x.kind = .closing := by
  rcases mem_closingEvents hx with rfl | ⟨_, -, -, rfl⟩ <;> rfl

theorem ControlEffect.kind (he : ControlEffect h s es s') (hx : x ∈ es) :
    x.kind = .control ∨ x.kind = .closing := by
  cases he with
  | ensured | rescheduled =>
      simp only [List.mem_cons, List.not_mem_nil, or_false] at hx
      rcases hx with rfl | rfl <;> exact .inl rfl
  | sessionsDrained | sessionsReaped =>
      rcases List.mem_cons.mp hx with rfl | hx
      · exact .inl rfl
      · rcases List.mem_cons.mp hx with rfl | hx
        · exact .inr rfl
        · exact .inr (kind_closingEvents hx)
  | _ =>
      obtain rfl := List.mem_singleton.mp hx
      exact .inl rfl

theorem SessionEffect.kind (he : SessionEffect runtime h s es s')
    (hx : x ∈ es) : x.kind = .opening ∨ x.kind = .closing := by
  cases he with
  | opened | rejected =>
      obtain rfl := List.mem_singleton.mp hx
      exact .inl rfl
  | refused =>
      simp only [List.mem_cons, List.not_mem_nil, or_false] at hx
      rcases hx with rfl | rfl
      · exact .inl rfl
      · exact .inr rfl
  | unmapped =>
      obtain rfl := List.mem_singleton.mp hx
      exact .inr rfl
  | closed => exact .inr (kind_closingEvents hx)
  | expired =>
      rcases List.mem_cons.mp hx with rfl | hx
      · exact .inr rfl
      · exact .inr (kind_closingEvents hx)

theorem TableEffect.kind (he : TableEffect runtime h s es s') (hx : x ∈ es) :
    x.kind = .table := by
  cases he <;> first
    | contradiction
    | (obtain rfl := List.mem_singleton.mp hx; rfl)

theorem DiscoveryEffect.kind (he : DiscoveryEffect runtime h s es s')
    (hx : x ∈ es) : x.kind = .discovery := by
  cases he <;> first
    | contradiction
    | (obtain rfl := List.mem_singleton.mp hx; rfl)

theorem StoreEffect.kind (he : StoreEffect runtime h s es s') (hx : x ∈ es) :
    x.kind = .store := by
  cases he <;> first
    | contradiction
    | (obtain rfl := List.mem_singleton.mp hx; rfl)

theorem RuntimeTruthful.kind (hx : RuntimeTruthful runtime h s x) :
    x.kind = .report := by
  cases x with
  | schedulerLocked poisoned => rw [hx.1]; rfl
  | fileWritten sessionId artifactRef succeeded => rw [hx.1]; rfl
  | _ => first | rfl | exact hx.elim

def Produces (runtime : RuntimeService) (h : List RuntimeEvent) (s : RuntimeState)
    (es : List RuntimeEvent) (s' : RuntimeState) (x : RuntimeEvent) : EventKind → Prop
  | .report => es = [x] ∧ s' = s ∧ RuntimeTruthful runtime h s x
  | .control => ControlEffect h s es s'
  | .opening => SessionEffect runtime h s es s'
  | .closing => ControlEffect h s es s' ∨ SessionEffect runtime h s es s'
  | .guard => ∃ sessionId event, x = .guard sessionId event
  | .table => TableEffect runtime h s es s'
  | .lane => es = [x] ∧ (x = .clipboardLocked ∨ x = .clipboardUnlocked)
  | .discovery => DiscoveryEffect runtime h s es s'
  | .store => StoreEffect runtime h s es s'

theorem RuntimeEffect.produces (he : RuntimeEffect runtime h s es s')
    (hx : x ∈ es) : Produces runtime h s es s' x x.kind := by
  cases he with
  | silent | drawn | permits | foreground => contradiction
  | report htruthful =>
      obtain rfl := List.mem_singleton.mp hx
      rw [htruthful.kind]
      exact ⟨rfl, rfl, htruthful⟩
  | clipboardLocked =>
      obtain rfl := List.mem_singleton.mp hx
      exact ⟨rfl, .inl rfl⟩
  | clipboardUnlocked =>
      obtain rfl := List.mem_singleton.mp hx
      exact ⟨rfl, .inr rfl⟩
  | guard =>
      obtain ⟨event, -, rfl⟩ := List.mem_map.mp hx
      exact ⟨_, event, rfl⟩
  | control he =>
      rcases he.kind hx with hk | hk <;> rw [hk]
      · exact he
      · exact .inl he
  | session he =>
      rcases he.kind hx with hk | hk <;> rw [hk]
      · exact he
      · exact .inr he
  | tables he => rw [he.kind hx]; exact he
  | discovery he => rw [he.kind hx]; exact he
  | store he => rw [he.kind hx]; exact he

section Inversion

variable {x : RuntimeEvent}

section

variable (he : RuntimeEffect runtime h s es s')
include he

theorem RuntimeEffect.of_report (hx : x ∈ es)
    (hk : x.kind = .report) : es = [x] ∧ s' = s ∧ RuntimeTruthful runtime h s x := by
  simpa only [hk, Produces] using he.produces hx

theorem RuntimeEffect.of_control (hx : x ∈ es)
    (hk : x.kind = .control) : ControlEffect h s es s' := by
  simpa only [hk, Produces] using he.produces hx

theorem RuntimeEffect.of_opening (hx : x ∈ es)
    (hk : x.kind = .opening) : SessionEffect runtime h s es s' := by
  simpa only [hk, Produces] using he.produces hx

theorem RuntimeEffect.of_table (hx : x ∈ es)
    (hk : x.kind = .table) : TableEffect runtime h s es s' := by
  simpa only [hk, Produces] using he.produces hx

theorem RuntimeEffect.of_discovery (hx : x ∈ es)
    (hk : x.kind = .discovery) : DiscoveryEffect runtime h s es s' := by
  simpa only [hk, Produces] using he.produces hx

end

end Inversion

/-! ## Effects that move a task -/

theorem RuntimeEvent.isControl_of_kind (hk : x.kind ≠ .control)
    (hk' : x.kind ≠ .report) : x.isControl = false := by
  cases x with
  | schedulerLocked poisoned => rfl
  | fileWritten sessionId artifactRef succeeded => rfl
  | _ => first | rfl | exact absurd rfl hk | exact absurd rfl hk'

theorem RuntimeEffect.control_cases (he : RuntimeEffect runtime h s es s') :
    ControlEffect h s es s' ∨
      (∃ x, es = [x] ∧ s' = s ∧ x.isControl = true ∧ RuntimeTruthful runtime h s x) ∨
      ∀ x ∈ es, x.isControl = false := by
  cases he with
  | control he => exact .inl he
  | @report x htruthful =>
      cases hx : x.isControl with
      | true => exact .inr (.inl ⟨x, rfl, rfl, hx, htruthful⟩)
      | false => exact .inr (.inr (by simpa using hx))
  | guard => exact .inr (.inr (by simp [RuntimeEvent.isControl]))
  | session he =>
      refine .inr (.inr fun x hx => ?_)
      rcases he.kind hx with hk | hk <;> exact RuntimeEvent.isControl_of_kind (by simp [hk])
        (by simp [hk])
  | tables he =>
      exact .inr (.inr fun x hx =>
        RuntimeEvent.isControl_of_kind (by simp [he.kind hx]) (by simp [he.kind hx]))
  | discovery he =>
      exact .inr (.inr fun x hx =>
        RuntimeEvent.isControl_of_kind (by simp [he.kind hx]) (by simp [he.kind hx]))
  | store he =>
      exact .inr (.inr fun x hx =>
        RuntimeEvent.isControl_of_kind (by simp [he.kind hx]) (by simp [he.kind hx]))
  | _ => exact .inr (.inr (by simp [RuntimeEvent.isControl]))

theorem phase_reaping (h : List RuntimeEvent) (s : RuntimeState) (x : RuntimeEvent)
    (sessionIds : List SessionId) :
    phase (h ++ x :: .unmapped sessionIds :: closingEvents s sessionIds) = (phase h).next x := by
  rw [List.append_cons, phase_append_of_not_isControl, phase_snoc]
  intro y hy
  rcases List.mem_cons.mp hy with rfl | hy
  · rfl
  · exact RuntimeEvent.isControl_of_kind (by simp [kind_closingEvents hy])
      (by simp [kind_closingEvents hy])

theorem RuntimeEffect.detached (hd : (phase h).isLoop = true ∨ phase h = .dropping)
    (he : RuntimeEffect runtime h s es s') :
    (phase (h ++ es)).isLoop = true ∨ phase (h ++ es) = .dropping := by
  rcases he.control_cases with he | ⟨x, rfl, -, hx, htruthful⟩ | hes
  · cases he with
    | entered | shutdownGuarded | loopStarted | runtimeDropped =>
        rcases hd with hd | hd <;> contradiction
    | sessionsReaped hphase => exact .inl (by rw [phase_reaping, hphase]; rfl)
    | sessionsDrained hphase => simp [hphase, Phase.isLoop] at hd
    | discoveryReaped hphase | launchesReaped hphase =>
        exact .inl (by rw [phase_snoc, hphase]; rfl)
    | loopStopped => exact .inl (by rw [phase_snoc]; rfl)
    | discoveryCleared hphase | launchesCleared hphase =>
        rcases hphase with hphase | hphase
        · simp [hphase, Phase.isLoop] at hd
        · exact .inr (by rw [phase_snoc, hphase]; rfl)
    | sessionsAbandoned hphase | storeDropped hphase =>
        exact .inr (by rw [phase_snoc, hphase]; rfl)
    | left hinside => cases hphase : phase h <;> simp_all [Phase.isLoop, Phase.isInside]
    | cleanUpDropped hphase =>
        rcases hphase with hp | hp | hp | hp <;> simp [hp, Phase.isLoop] at hd
    | ensured hphase | rescheduled hphase | closedSwapped hphase | rejected hphase
    | lifecycleSealed hphase | sealDropped hphase | schedulerTaken hphase | shutdownSent hphase
    | shutdownReturned hphase => simp [hphase, Phase.isLoop] at hd
  · cases x <;> first | contradiction | skip
    case sawClosed => obtain ⟨-, command, hphase⟩ := htruthful; simp [hphase, Phase.isLoop] at hd
    case loopJoined => simp [htruthful.1, Phase.isLoop] at hd
    case signalRead signal =>
        obtain ⟨-, seen, hphase | ⟨hphase, -⟩⟩ := htruthful <;>
        · refine .inl ?_
          rw [phase_snoc, hphase]
          simp only [Phase.next, Phase.readSignal]
          split <;> rfl
    case sessionDeadline =>
        obtain ⟨-, seen, hphase⟩ := htruthful
        exact .inl (by rw [phase_snoc, hphase]; rfl)
    case discoveryDeadline =>
        obtain ⟨-, seen, _, hphase⟩ := htruthful
        exact .inl (by rw [phase_snoc, hphase]; rfl)
    case launchDeadline =>
        obtain ⟨-, seen, _, _, hphase⟩ := htruthful
        exact .inl (by rw [phase_snoc, hphase]; rfl)
    case loopWoken wakeup =>
        obtain ⟨seen, _, _, _, hphase, -⟩ := htruthful
        refine .inl ?_
        rw [phase_snoc, hphase]
        cases wakeup <;> rfl
  · rwa [phase_append_of_not_isControl hes]

/-! ## The system -/

/-- The contract of a task, with the borrow of the runtime that a call of it holds. -/
def runtimeLaw (runtime : RuntimeService) : Contract RuntimeState RuntimeEvent where
  guarantee h s es s' := RuntimeEffect runtime h s es s' ∧
    ((phase h).isAttached = true ∨ (phase (h ++ es)).isAttached = true → s.dropped = false)
  final h := holds h = []

theorem Phase.not_isAttached_of_detached {stage : Phase}
    (hd : stage.isLoop = true ∨ stage = .dropping) : stage.isAttached = false := by
  rcases hd with hd | rfl
  · cases stage <;> first | rfl | contradiction
  · rfl

variable {Q : Except χ Unit → List RuntimeEvent → Prop}

theorem wp_detached {p : RuntimeProgram χ Unit}
    (hd : (phase h).isLoop = true ∨ phase h = .dropping) (hp : wp (runtimeContract runtime) p Q h) :
    wp (runtimeLaw runtime) p Q h := by
  refine Async.wp_strengthen
    (P := fun h => (phase h).isLoop = true ∨ phase h = .dropping) ?_ hd hp
  intro h s es s' hd he
  have hd' := he.detached hd
  refine ⟨⟨he, fun ha => ?_⟩, hd'⟩
  simp [Phase.not_isAttached_of_detached hd, Phase.not_isAttached_of_detached hd'] at ha

theorem wp_attached {p : RuntimeProgram χ Unit}
    (hp : wp (runtimeContract runtime) p Q h) :
    wp (runtimeLaw runtime) (p.whenever fun s => !s.dropped) Q h := by
  refine Async.wp_whenever (fun h s es s' halive he => ?_) hp
  exact ⟨he, fun _ => by simpa using halive⟩

theorem wp_expirationTask (rounds : Nat)
    (hQ : ∀ outcome h', holds h' = [] → Q outcome h') :
    wp (runtimeLaw runtime) (expirationTask rounds : RuntimeProgram χ Unit) Q [] := by
  rw [expirationTask, Async.wp_bind, Async.wp_atomic]
  intro _ s s' es _ hb
  split at hb
  · contradiction
  · rename_i scheduler hscheduler
    split at hb
    · contradiction
    · rename_i hunclaimed
      cases hb
      refine ⟨⟨.control (.loopStarted hscheduler (by simpa using hunclaimed)), ?_⟩, ?_⟩
      · rintro (ha | ha) <;> contradiction
      · exact wp_detached (.inl rfl) (wp_expirationLoop rounds 0 (.inl ⟨rfl, rfl⟩) hQ)

theorem wp_dropRuntime
    (hQ : ∀ outcome h', holds h' = [] → Q outcome h') :
    wp (runtimeLaw runtime) (dropRuntime : RuntimeProgram χ Unit) Q [] := by
  rw [dropRuntime, Async.wp_bind, Async.wp_atomic]
  intro _ s s' es _ hb
  split at hb
  · contradiction
  · rename_i halive
    cases hb
    refine ⟨⟨.control (.runtimeDropped (by simpa using halive)), ?_⟩, ?_⟩
    · rintro (ha | ha) <;> contradiction
    · exact wp_detached (.inr rfl) (wp_dropFields ⟨rfl, rfl⟩ hQ)

def guardUse (runtime : RuntimeService) : Contract RuntimeState RuntimeEvent where
  guarantee h s es s' := RuntimeEffect runtime h s es s' ∧
    ∀ x ∈ es, ∃ sessionId event, x = .guard sessionId event
  final _ := True

theorem wp_guardUse (sessionId : SessionId) (call : GuardCall) (hcall : call.byDriver = true) :
    wp (guardUse runtime)
      (call.program.embed (guardEmbedding sessionId) : RuntimeProgram Empty Unit)
      (fun _ h => holds h = []) [] := by
  have huse : call = .close → false = true := by
    rintro rfl
    contradiction
  refine Async.wp_embed (guardEmbedding sessionId) ?_
    (Async.wp_mono (wp_program call huse) fun _ own _ es _ => ?_)
  · intro h s inner es inner' hlook hguard
    obtain ⟨entry, hentry, rfl⟩ := Option.map_eq_some_iff.mp hlook
    exact ⟨.guard hentry hguard, by simp [guardEmbedding]⟩
  · exact congrArg TaskView.holds
      (view_quiet rfl (by simp [guardEmbedding, RuntimeEvent.isQuiet]))

theorem wp_driverGuard (sessionId : SessionId) (call : GuardCall) (hcall : call.byDriver = true) :
    wp (runtimeLaw runtime)
      (call.program.embed (guardEmbedding sessionId) : RuntimeProgram Empty Unit)
      (fun _ h => holds h = []) [] := by
  refine Async.wp_strengthen (C := guardUse runtime) (P := fun h => phase h = .idle) ?_ rfl
    (wp_guardUse sessionId call hcall)
  rintro h s es s' hidle ⟨he, hguards⟩
  have hphase : phase (h ++ es) = .idle := by
    rw [phase_append_of_not_isControl, hidle]
    intro x hx
    obtain ⟨_, _, rfl⟩ := hguards x hx
    rfl
  refine ⟨⟨he, fun ha => ?_⟩, hphase⟩
  simp [hidle, hphase, Phase.isAttached, Phase.isInside, Phase.isGuarding, Phase.isSealing] at ha

theorem RuntimeService.system_keeps (runtime : RuntimeService) :
    runtime.system.Keeps (runtimeLaw runtime) := by
  intro call
  change wp (runtimeLaw runtime) (runtime.program call) (fun _ h => holds h = []) []
  cases call with
  | execute command =>
      refine wp_attached ?_
      rw [Async.wp_bind]
      exact wp_execute command fun _ _ hh => hh
  | shutdown => exact wp_attached (wp_shutdown fun _ hh => hh)
  | expiration rounds => exact wp_expirationTask rounds fun _ _ hh => hh
  | drop => exact wp_dropRuntime fun _ _ hh => hh
  | driverGuard sessionId call =>
      rw [program]
      split
      · exact wp_driverGuard sessionId call ‹_›
      · exact rfl

/-! ## Runs -/

abbrev RuntimePool := Pool RuntimeState RuntimeReply RuntimeEvent

abbrev RuntimeStep := Step RuntimeState RuntimeEvent

abbrev RuntimeRun (runtime : RuntimeService) (s₀ : RuntimeState) (steps : List RuntimeStep)
    (s : RuntimeState) : Prop :=
  Lawful (runtimeLaw runtime) runtime.system.env s₀ steps s

theorem RuntimeService.run_of_reachable (runtime : RuntimeService) {c : RuntimePool}
    (hc : Reachable runtime.system c) :
    ∃ s₀, (∃ now, s₀ = .initial runtime now) ∧ RuntimeRun runtime s₀ c.steps c.shared :=
  (hc.accounted runtime.system_keeps).lawful

variable {e : RuntimeStep} {t : Nat}

theorem permitted_effect {before : List RuntimeStep}
    (he : Permitted (runtimeLaw runtime) runtime.system.env before e)
    (ht : e.task = some t) : RuntimeEffect runtime (history t before) e.pre e.events e.post := by
  rw [Permitted, ht] at he
  exact he.1

variable {before after : List RuntimeStep} {s₀ s : RuntimeState}

section

variable (hr : RuntimeRun runtime s₀ (before ++ e :: after) s)
include hr

theorem RuntimeRun.prior :
    RuntimeRun runtime s₀ before e.pre :=
  hr.at_step.1

theorem RuntimeRun.effect
    (ht : e.task = some t) : RuntimeEffect runtime (history t before) e.pre e.events e.post :=
  permitted_effect hr.at_step.2 ht

theorem RuntimeRun.task_of_mem
    (hx : x ∈ e.events) : ∃ t, e.task = some t := by
  have he := hr.at_step.2
  cases ht : e.task with
  | some t => exact ⟨t, rfl⟩
  | none =>
      rw [Permitted, ht] at he
      simp [he.2] at hx

theorem RuntimeRun.reported (ht : e.task = some t)
    (hx : x ∈ e.events) (hreport : x.kind = .report) :
    RuntimeTruthful runtime (history t before) e.pre x :=
  ((hr.effect ht).of_report hx hreport).2.2

end

theorem RuntimeEffect.of_entered {command : Command} (he : RuntimeEffect runtime h s es s')
    (hx : .entered command ∈ es) : h = [] ∧ es = [.entered command] := by
  cases he.of_control hx rfl with
  | entered =>
      obtain rfl := RuntimeEvent.entered.inj (List.mem_singleton.mp hx)
      exact ⟨rfl, rfl⟩
  | sessionsDrained | sessionsReaped =>
      simp only [List.mem_cons, reduceCtorEq, false_or] at hx
      exact absurd (kind_closingEvents hx) nofun
  | _ => simp at hx

theorem RuntimeRun.entered_unique {steps : List RuntimeStep}
    {command command' : Command} (hr : RuntimeRun runtime s₀ steps s)
    (hc : .entered command ∈ history t steps) (hc' : .entered command' ∈ history t steps) :
    command = command' := by
  obtain ⟨before, e, after, rfl, ht, hx⟩ := exists_split_of_mem_history hc
  obtain ⟨before', e', after', hsteps, ht', hx'⟩ := exists_split_of_mem_history hc'
  have hfirst := (hr.effect ht).of_entered hx
  have hfirst' := (RuntimeRun.effect (hsteps ▸ hr) ht').of_entered hx'
  rcases places_cases hsteps with ⟨-, rfl, -⟩ | ⟨mid, rfl, -⟩ | ⟨mid, rfl, -⟩
  · rw [hfirst.2] at hx'
    exact (RuntimeEvent.entered.inj (List.mem_singleton.mp hx')).symm
  · have hmem : .entered command ∈ history t (before ++ e :: mid) :=
      mem_history.mpr ⟨e, by simp, ht, hx⟩
    simp [hfirst'.1] at hmem
  · have hmem : .entered command' ∈ history t (before' ++ e' :: mid) :=
      mem_history.mpr ⟨e', by simp, ht', hx'⟩
    simp [hfirst.1] at hmem

inductive EnvironmentEffect : RuntimeState → RuntimeState → Prop where
  | elapsed {s : RuntimeState} (duration : Nat) :
      EnvironmentEffect s { s with now := s.now + duration }
  | schedulerPanicked {s : RuntimeState} (hheld : s.schedulerHeld = false) :
      EnvironmentEffect s { s with schedulerPoisoned := true }

theorem environmentEffect_of_env (henv : runtime.system.env s s') : EnvironmentEffect s s' := by
  obtain ⟨label, hlabel⟩ := henv
  change RuntimeService.environment label s = some s' at hlabel
  cases label with
  | elapsed duration =>
      cases hlabel
      exact .elapsed duration
  | schedulerPanicked =>
      simp only [RuntimeService.environment] at hlabel
      split at hlabel
      · contradiction
      · rename_i hheld
        cases hlabel
        exact .schedulerPanicked (by simpa using hheld)

/-- The block of a task after the steps `before`. -/
structure BlockOf (runtime : RuntimeService) (before : List RuntimeStep) (t : Nat)
    (s : RuntimeState) (es : List RuntimeEvent) (s' : RuntimeState) : Prop where
  effect : RuntimeEffect runtime (history t before) s es s'
  alive : (phase (history t before)).isAttached = true ∨
    (phase (history t before ++ es)).isAttached = true → s.dropped = false

theorem RuntimeRun.induction {s₀ : RuntimeState} {steps : List RuntimeStep}
    {P : List RuntimeStep → RuntimeState → Prop} (hr : RuntimeRun runtime s₀ steps s)
    (hstart : P [] s₀)
    (hblock : ∀ before t s es s', RuntimeRun runtime s₀ before s → P before s →
      BlockOf runtime before t s es s' → P (before ++ [⟨some t, s, es, s'⟩]) s')
    (henvironment : ∀ before s s', RuntimeRun runtime s₀ before s → P before s →
      EnvironmentEffect s s' → P (before ++ [⟨none, s, [], s'⟩]) s') : P steps s := by
  refine hr.invariant hstart fun before e hbefore hP he => ?_
  obtain ⟨task, s, es, s'⟩ := e
  cases task with
  | some t => exact hblock before t s es s' hbefore hP ⟨he.1, he.2⟩
  | none =>
      obtain ⟨henv, rfl⟩ := he
      exact henvironment before s s' hbefore hP (environmentEffect_of_env henv)

theorem RuntimeRun.persists {s₀ : RuntimeState}
    {P : RuntimeState → Prop} (hr : RuntimeRun runtime s₀ (before ++ e :: after) s)
    (he : P e.post)
    (hblock : ∀ before t s es s', RuntimeRun runtime s₀ before s → P s →
      BlockOf runtime before t s es s' → P s')
    (henvironment : ∀ s s', P s → EnvironmentEffect s s' → P s') : P s := by
  refine hr.lasts (P := P) (fun earlier k hearlier hk hP => ?_) he
  obtain ⟨task, s, es, s'⟩ := k
  cases task with
  | some t => exact hblock earlier t s es s' hearlier hP ⟨hk.1, hk.2⟩
  | none => exact henvironment s s' hP (environmentEffect_of_env hk.1)

end NexusCua.Runtime
