import NexusCua.Runtime.Runs

/-!
# The disposition of a failed mutation

Once the driver's mutating entry point was called, an error should be returned
as indeterminate unless the driver itself said that nothing was dispatched.
Actions and refused launches keep to this.  A clipboard write passes the
driver's default status on to the wrapper of `execute`, which then takes it for
a failure before the call, and so do the steps that follow a successful launch.
-/

namespace NexusCua.Runtime

open NexusCua.Foundation NexusCua.Protocol

variable {h : List RuntimeEvent}

def DriverCalled (h : List RuntimeEvent) : Prop :=
  (∃ call, .performCalled call ∈ h) ∨ (∃ application, .launchCalled application ∈ h) ∨
    ∃ sessionId changeMarker, .clipboardCalled sessionId changeMarker ∈ h

def DriverRefused (h : List RuntimeEvent) : Prop :=
  ∃ cause : DriverError, cause.mutationStatus = .notDispatched ∧
    (.performReturned (.error cause) ∈ h ∨ .launchReturned (.error cause) ∈ h ∨
      .clipboardReturned (.error cause) ∈ h)

def DispositionKept (h : List RuntimeEvent) (error : CuaError) : Prop :=
  DriverCalled h → error.mutationStatus = .indeterminate ∨ DriverRefused h

/-- What the driver, the clock and the scheduler must not have done to the command. -/
structure Reportable (h : List RuntimeEvent) : Prop where
  clipboard : ∀ cause : DriverError, .clipboardReturned (.error cause) ∈ h →
    cause.mutationStatus ≠ .notApplicable
  launch : ∀ output, .launchReturned (.ok output) ∈ h → Undisturbed h

theorem mem_iff_calls {x : RuntimeEvent} (hx : x.isCall = true) : x ∈ h ↔ x ∈ calls h := by
  simp [calls, hx]

theorem driverCalled_iff : DriverCalled h ↔ DriverCalled (calls h) := by
  simp only [DriverCalled]
  simp [calls, RuntimeEvent.isCall]

theorem driverRefused_iff : DriverRefused h ↔ DriverRefused (calls h) := by
  simp only [DriverRefused]
  simp [calls, RuntimeEvent.isCall]

theorem reportable_iff : Reportable h ↔
    (∀ cause : DriverError, .clipboardReturned (.error cause) ∈ calls h →
      cause.mutationStatus ≠ .notApplicable) ∧
    ∀ output, .launchReturned (.ok output) ∈ calls h → Undisturbed h := by
  constructor
  · intro hr
    exact ⟨fun cause hmem => hr.clipboard cause ((mem_iff_calls rfl).mpr hmem),
      fun output hmem => hr.launch output ((mem_iff_calls rfl).mpr hmem)⟩
  · intro hr
    exact ⟨fun cause hmem => hr.1 cause ((mem_iff_calls rfl).mp hmem),
      fun output hmem => hr.2 output ((mem_iff_calls rfl).mp hmem)⟩

theorem dispositionKept_iff {error : CuaError} (hd : Disposed h error) :
    DispositionKept h error ↔ Reportable h := by
  rw [DispositionKept, driverCalled_iff, driverRefused_iff, reportable_iff]
  rw [Disposed] at hd
  have hkept : ∀ status : MutationStatus,
      (status ≠ .notApplicable → status = .indeterminate) ∨ status = .notDispatched := by
    intro status
    cases status <;> simp
  split at hd
  · rename_i hcalls
    simp [hcalls, DriverCalled]
  · rename_i call cause hcalls
    simpa [hcalls, DriverCalled, DriverRefused, hd] using hkept cause.mutationStatus
  · rename_i application cause hcalls
    simpa [hcalls, DriverCalled, DriverRefused, hd] using hkept cause.mutationStatus
  · rename_i sessionId changeMarker cause hcalls
    have hlost : (if cause.mutationStatus = .notApplicable then MutationStatus.notDispatched
          else cause.mutationStatus) = .indeterminate ∨ cause.mutationStatus = .notDispatched ↔
        cause.mutationStatus ≠ .notApplicable := by
      cases cause.mutationStatus <;> simp
    simpa [hcalls, DriverCalled, DriverRefused, hd] using hlost
  · rename_i call output hcalls
    simp [hcalls, DriverCalled, hd]
  · rename_i sessionId changeMarker output hcalls
    simp [hcalls, DriverCalled, hd]
  · rename_i application output hcalls
    have hlost : error.mutationStatus = .indeterminate ↔ Undisturbed h := by
      refine ⟨fun hstatus => ?_, hd.1⟩
      by_contra hdisturbed
      simp [hd.2 hdisturbed] at hstatus
    simpa [hcalls, DriverCalled, DriverRefused] using hlost
  · contradiction

theorem RuntimeService.returnFacts (runtime : RuntimeService) {c : RuntimePool}
    (hc : Reachable runtime.system c) {before after : List RuntimeStep} {e : RuntimeStep} {t : Nat}
    {command : Command} {outcome : Except CuaError CommandResult}
    (hsteps : c.steps = before ++ e :: after) (ht : e.task = some t)
    (hreturned : .returned command outcome ∈ e.events) :
    ReturnFacts (history t before) command outcome := by
  obtain ⟨s₀, -, hrun⟩ := runtime.run_of_reachable hc
  rw [hsteps] at hrun
  exact (hrun.reported ht hreturned rfl).2

/-- At every return of an error, in every run. -/
theorem dispositionKept_of_reachable (runtime : RuntimeService) (c : RuntimePool)
    (hc : Reachable runtime.system c) (before after : List RuntimeStep) (e : RuntimeStep) (t : Nat)
    (command : Command) (error : CuaError) (hsteps : c.steps = before ++ e :: after)
    (ht : e.task = some t) (hreturned : .returned command (.error error) ∈ e.events) :
    DispositionKept (history t before) error ↔ Reportable (history t before) :=
  dispositionKept_iff ((runtime.returnFacts hc hsteps ht hreturned).disposed error rfl)

/-! ### A clipboard write that the driver gave up on -/

def clipboardManifest : CapabilityManifest where
  ttlSeconds := 60
  applicationRefs := []
  mode := .bounded
  allowedActions := []
  allowForegroundInput := false
  restoreForegroundAfterInput := false
  allowDisplayCapture := false
  allowClipboardRead := true
  allowClipboardWrite := true

def lostClipboard : DriverError := .new .platform "clipboard owner did not respond"

def clipboardWrite : Command :=
  .writeClipboard ⟨⟨"session_"⟩, ⟨"clipboard_0"⟩, ⟨"text"⟩⟩

/-- A session is opened, the clipboard is read, and a write is handed to the driver, which fails. -/
def clipboardMoves (cause : DriverError) : List (Move RuntimeReply RuntimeCall RuntimeLabel) :=
  .spawn (.execute (.openSession clipboardManifest)) ::
    play 0 [.none, .none, .none, .none, .none, .applications (.ok []), .wallClock (some "later"),
      .sessionStarted (.ok ()), .none, .none, .none] ++
  .spawn (.execute (.readClipboard ⟨"session_"⟩)) ::
    play 1 [.none, .none, .none, .none, .none, .none, .clipboardRead (.ok ⟨"1", none⟩), .none,
      .none, .none, .none] ++
  .spawn (.execute clipboardWrite) ::
    play 2 [.none, .none, .none, .none, .none, .none, .none,
      .clipboardWritten (.error cause), .none, .none, .none]

theorem clipboardMoves_run (cause : DriverError) :
    ((Pool.start (.initial exampleRuntime 0)).run exampleRuntime.system
      (clipboardMoves cause)).isSome = true :=
  rfl

def clipboardPool (cause : DriverError) : RuntimePool :=
  ((Pool.start (.initial exampleRuntime 0)).run exampleRuntime.system
    (clipboardMoves cause)).get (clipboardMoves_run cause)

theorem clipboardPool_reachable (cause : DriverError) :
    Reachable exampleRuntime.system (clipboardPool cause) :=
  Reachable.of_run (S := exampleRuntime.system) ⟨0, rfl⟩ (clipboardMoves_run cause)

theorem clipboardPool_steps (cause : DriverError) :
    (clipboardPool cause).steps = (clipboardPool cause).steps.take 32 ++
      (clipboardPool cause).steps.getLast (List.cons_ne_nil _ _) :: [] :=
  rfl

/-- The driver was called and said nothing, and the caller is told that nothing was dispatched. -/
theorem clipboardWrite_not_dispositionKept :
    ∃ c before e after, Reachable exampleRuntime.system c ∧ c.steps = before ++ e :: after ∧
      e.task = some 2 ∧
      .returned clipboardWrite (.error (lostClipboard.toCuaError.withMutationStatus .notDispatched))
        ∈ e.events ∧
      ¬ DispositionKept (history 2 before)
        (lostClipboard.toCuaError.withMutationStatus .notDispatched) := by
  have hc := clipboardPool_reachable lostClipboard
  have hsteps := clipboardPool_steps lostClipboard
  refine ⟨_, _, _, _, hc, hsteps, rfl, .head _, fun hkept => ?_⟩
  have hfacts := exampleRuntime.returnFacts hc hsteps rfl (.head _)
  have hr := (dispositionKept_iff (hfacts.disposed _ rfl)).mp hkept
  exact hr.clipboard lostClipboard (List.mem_of_getElem? (i := 8) rfl) rfl

/-- The same write, after which the driver says itself that it does not know. -/
theorem clipboardWrite_dispositionKept_iff :
    ∃ c before e after, Reachable exampleRuntime.system c ∧ c.steps = before ++ e :: after ∧
      e.task = some 2 ∧
      .returned clipboardWrite (.error lostClipboard.mutationIndeterminate.toCuaError)
        ∈ e.events ∧
      (DispositionKept (history 2 before) lostClipboard.mutationIndeterminate.toCuaError ↔
        Reportable (history 2 before)) := by
  have hc := clipboardPool_reachable lostClipboard.mutationIndeterminate
  have hsteps := clipboardPool_steps lostClipboard.mutationIndeterminate
  exact ⟨_, _, _, _, hc, hsteps, rfl, .head _,
    dispositionKept_of_reachable exampleRuntime _ hc _ _ _ 2 _ _ hsteps rfl (.head _)⟩

end NexusCua.Runtime
