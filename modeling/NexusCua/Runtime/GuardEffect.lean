import NexusCua.Runtime.Guard

/-!
# What a guard operation can do

`GuardEffect` says once what every block of a guard operation can do to the
cell, and what the events it reports mean.  The programs of all operations are
shown to keep to it; the invariants of the guards follow from it alone.
-/

namespace NexusCua.Runtime

open NexusCua.Foundation NexusCua.Protocol
open NexusCua.Foundation.Async (wp Contract)

/-! ## What the holder of the activity mutex has seen -/

structure HeldView where
  activity : InputActivity
  sawOpen : Bool
  sawUnexpired : Bool
  sawUninterrupted : Bool

def HeldView.next : Option HeldView → GuardEvent → Option HeldView
  | _, .locked activity => some ⟨activity, false, false, false⟩
  | _, .unlocked => none
  | some v, .sawClosed false => some ⟨v.activity, true, false, false⟩
  | some v, .sawExpired false => some { v with sawUnexpired := true }
  | some v, .sawInterruption none => some { v with sawUninterrupted := true }
  | some v, .dispatched _ =>
      some { v with activity :=
        { v.activity with activeDispatches := v.activity.activeDispatches + 1 } }
  | v, _ => v

/-- The ghost state of a task: `none` unless it holds the activity mutex. -/
def heldView (h : List GuardEvent) : Option HeldView := h.foldl HeldView.next none

theorem heldView_append (h es : List GuardEvent) :
    heldView (h ++ es) = es.foldl HeldView.next (heldView h) := by
  simp [heldView]

/-! ## What a block can do -/

/-- Events that only report what the state, or the task's own past, already holds. -/
def Truthful (h : List GuardEvent) (s : GuardCell) : GuardEvent → Prop
  | .invoked _ => h = []
  | .returned call outcome =>
      match call with
      | .check guard =>
          (outcome = .ok () → .sawClosed false ∈ h ∧ .sawInterruption none ∈ h) ∧
            ∀ error, outcome = .error error → .checkFailed guard.lease error ∈ h
      | .beginDispatch guard =>
          outcome = .ok () →
            .sawClosed false ∈ h ∧ .sawInterruption none ∈ h ∧
              (.dispatched guard ∈ h ∨ .resumed guard ∈ h)
      | .recordUserInputState _ _ => .inputRecorded true ∈ h → .latched .userInput ∈ h
      | _ => True
  | .sawClosed closed => closed = s.closed
  | .sawExpired expired => expired = decide (s.expiresAt ≤ s.now)
  | .sawInterruption cause => cause = s.interruption
  | .checkFailed lease error => ∃ l, s.leases.lookup lease = some l ∧
      error.mutationStatus = if l.dispatched then .indeterminate else .notDispatched
  | .resumed guard => ∃ l, s.leases.lookup guard.lease = some l ∧ l.dispatched = true
  | _ => False

inductive GuardEffect (mayClose : Bool) :
    List GuardEvent → GuardCell → List GuardEvent → GuardCell → Prop where
  | silent {h s} : GuardEffect mayClose h s [] s
  | saw {h s event} (he : Truthful h s event) : GuardEffect mayClose h s [event] s
  | actionGuard {h s} : GuardEffect mayClose h s [] s.newLease
  | owners {h s lease} {f : DispatchLease → DispatchLease}
      (hf : ∀ l, (f l).dispatched = l.dispatched) :
      GuardEffect mayClose h s [] { s with leases := s.leases.modify lease f }
  | dropUnused {h s lease l} (hl : s.leases.lookup lease = some l) (hd : l.dispatched = false) :
      GuardEffect mayClose h s [] { s with leases := s.leases.erase lease }
  | retire {h s lease l} (hl : s.leases.lookup lease = some l) (hd : l.dispatched = true)
      (hu : s.activityLocked = false) :
      GuardEffect mayClose h s [.retired lease] { s with
        activity := { s.activity with activeDispatches := s.activity.activeDispatches - 1 }
        leases := s.leases.erase lease }
  | lock {h s} (hu : s.activityLocked = false) :
      GuardEffect mayClose h s [.locked s.activity] { s with activityLocked := true }
  | record {h s inputHeld} (hu : s.activityLocked = false) :
      GuardEffect mayClose h s
        [.locked { s.activity with lastInput := some s.now, inputHeld := inputHeld },
          .inputRecorded (decide (s.activity.activeDispatches ≠ 0))]
        { s with
          activity := { s.activity with lastInput := some s.now, inputHeld := inputHeld }
          activityLocked := true }
  | unlock {h s v} (hv : heldView h = some v) :
      GuardEffect mayClose h s [.unlocked] { s with activityLocked := false }
  | inputReleased {h s} (hu : s.activityLocked = false) :
      GuardEffect mayClose h s [] { s with activity := { s.activity with inputHeld := false } }
  | latch {h s cause} :
      GuardEffect mayClose h s [.latched cause]
        { s with interruption := s.interruption.or (some cause) }
  | dispatch {h s v guard l} (hv : heldView h = some v) (ho : v.sawOpen = true)
      (he : v.sawUnexpired = true) (hi : v.sawUninterrupted = true)
      (hl : s.leases.lookup guard.lease = some l) (hd : l.dispatched = false)
      (hobs : s.activity.checkObservation guard.observedAt = .ok ())
      (hq : s.activity.remainingQuiet inputQuietPeriod s.now = 0) :
      GuardEffect mayClose h s [.dispatched guard] (DriverActionGuard.commitDispatch s guard.lease)
  | close {h s} (hclose : mayClose = true) : GuardEffect mayClose h s [] { s with closed := true }

/-- `mayClose` says whether the operations include `Session::close`. -/
def guardContract (mayClose : Bool) : Contract GuardCell GuardEvent where
  guarantee := GuardEffect mayClose
  final _ := True

/-! ## Every operation keeps the contract -/

def GuardEvent.isRead : GuardEvent → Bool
  | .sawClosed _ | .sawExpired _ | .sawInterruption _ | .checkFailed _ _ => true
  | _ => false

theorem heldView_reads {h es : List GuardEvent} {v : HeldView} (hv : heldView h = some v)
    (hes : ∀ x ∈ es, x.isRead = true) : ∃ v', heldView (h ++ es) = some v' := by
  induction es using List.reverseRecOn with
  | nil => exact ⟨v, by simpa using hv⟩
  | append_singleton es x ih =>
      obtain ⟨v', hv'⟩ := ih fun y hy => hes y (by simp [hy])
      have hx : x.isRead = true := hes x (by simp)
      rw [← List.append_assoc, heldView_append, hv']
      cases x with
      | sawClosed closed => cases closed <;> exact ⟨_, rfl⟩
      | sawExpired expired => cases expired <;> exact ⟨_, rfl⟩
      | sawInterruption cause => cases cause <;> exact ⟨_, rfl⟩
      | checkFailed lease error => exact ⟨_, rfl⟩
      | _ => simp [GuardEvent.isRead] at hx

section Operations

open DriverActionGuard

variable {mayClose : Bool} {Q : Except DriverError Unit → List GuardEvent → Prop}
  {h : List GuardEvent}

theorem wp_failRevoked (guard : DriverActionGuard) (error : DriverError)
    (hQ : ∀ e, Q (.error e) (h ++ [.checkFailed guard.lease e])) :
    wp (guardContract mayClose) (guard.failRevoked error) Q h := by
  simp only [failRevoked, Async.wp_bind, Async.wp_atomic, Async.onOk_ok, Async.wp_fail]
  intro _ s s' es e hb
  split at hb
  · contradiction
  · rename_i l hl
    cases hb
    refine ⟨.saw ⟨l, hl, ?_⟩, hQ _⟩
    split <;> rfl

theorem wp_check (guard : DriverActionGuard)
    (hok : Q (.ok ()) (h ++ [.sawClosed false, .sawExpired false, .sawInterruption none]))
    (herr : ∀ es e, (∀ x ∈ es, x.isRead = true) → .checkFailed guard.lease e ∈ es →
      Q (.error e) (h ++ es)) :
    wp (guardContract mayClose) guard.check Q h := by
  have hfail : ∀ es error, (∀ x ∈ es, x.isRead = true) →
      wp (guardContract mayClose) (guard.failRevoked error) Q (h ++ es) := by
    intro es error hes
    refine wp_failRevoked guard error fun e => ?_
    rw [List.append_assoc]
    refine herr _ e (fun x hx => ?_) (by simp)
    rcases List.mem_append.mp hx with hx | hx
    · exact hes x hx
    · simp [List.mem_singleton.mp hx, GuardEvent.isRead]
  simp only [check, isRevoked, Async.wp_bind, Async.wp_observe, Async.onOk_ok]
  intro s
  refine ⟨.saw rfl, ?_⟩
  cases hclosed : s.closed with
  | true => exact hfail _ _ (by simp [GuardEvent.isRead])
  | false =>
      simp only [Bool.false_eq_true, if_false, Async.wp_observe, Async.onOk_ok]
      intro s
      refine ⟨.saw rfl, ?_⟩
      by_cases hexpired : s.expiresAt ≤ s.now
      · simp only [hexpired, decide_true, if_true, List.append_assoc]
        exact hfail _ _ (by simp [GuardEvent.isRead])
      · simp only [hexpired, decide_false, Bool.false_eq_true, if_false, Async.wp_bind,
          Async.wp_observe, Async.onOk_ok]
        intro s
        refine ⟨.saw rfl, ?_⟩
        cases hcause : s.interruption with
        | none => simpa [List.append_assoc] using hok
        | some cause =>
            simp only [List.append_assoc]
            exact hfail _ _ (by simp [GuardEvent.isRead])

theorem wp_unlock {v : HeldView} (hv : heldView h = some v)
    (hQ : Q (.ok ()) (h ++ [.unlocked])) : wp (guardContract mayClose) unlock Q h := by
  intro _ s s' es b hb
  cases hb
  exact ⟨.unlock hv, hQ⟩

theorem wp_latch (cause : InterruptionCause)
    (hQ : Q (.ok ()) (h ++ [.latched cause])) : wp (guardContract mayClose) (latch cause) Q h := by
  intro _ s s' es b hb
  cases hb
  exact ⟨.latch, hQ⟩

theorem wp_recordUserInput (inputHeld : Bool)
    (hQ : ∀ es, (.inputRecorded true ∈ es → .latched .userInput ∈ es) →
      Q (.ok ()) (h ++ es)) :
    wp (guardContract mayClose) (recordUserInput inputHeld) Q h := by
  simp only [recordUserInput, Async.wp_bind, Async.wp_atomic, Async.onOk_ok]
  intro _ s s' es live hb
  split at hb
  · contradiction
  · rename_i hu
    cases hb
    refine ⟨.record (by simpa using hu), ?_⟩
    split
    · rw [Async.wp_bind]
      refine wp_latch _ ?_
      refine wp_unlock (by rw [List.append_assoc, heldView_append]; rfl) ?_
      simp only [List.append_assoc]
      exact hQ _ (by simp)
    · rename_i hlive
      refine wp_unlock (by rw [heldView_append]; rfl) ?_
      rw [List.append_assoc]
      exact hQ _ (by simp [hlive])

theorem wp_recordReleased (hQ : Q (.ok ()) h) : wp (guardContract mayClose) recordReleased Q h := by
  simp only [recordReleased, Async.wp_atomic]
  intro _ s s' es b hb
  split at hb
  · contradiction
  · rename_i hu
    cases hb
    exact ⟨.inputReleased (by simpa using hu), by simpa using hQ⟩

theorem wp_admitDispatch (guard : DriverActionGuard)
    {K : Except DriverError (Except DriverError Unit) → List GuardEvent → Prop} {v : HeldView}
    (hv : heldView h = some v) (ho : v.sawOpen = true) (he : v.sawUnexpired = true)
    (hi : v.sawUninterrupted = true)
    (hK : ∀ outcome es v', heldView (h ++ es) = some v' →
      (outcome = .ok () → .dispatched guard ∈ es ∨ .resumed guard ∈ es) →
      K (.ok outcome) (h ++ es)) :
    wp (guardContract mayClose) guard.admitDispatch K h := by
  simp only [admitDispatch, Async.wp_atomic]
  intro _ s s' es outcome hb
  split at hb
  · contradiction
  · rename_i l hl
    split at hb
    · rename_i hd
      cases hb
      exact ⟨.saw ⟨l, hl, hd⟩, hK _ _ v (by rw [heldView_append, hv]; rfl) (by simp)⟩
    · rename_i hd
      split at hb
      · cases hb
        exact ⟨.silent, hK _ [] v (by simpa using hv) (by simp)⟩
      · rename_i hobs
        split at hb
        · cases hb
          exact ⟨.silent, hK _ [] v (by simpa using hv) (by simp)⟩
        · rename_i hq
          cases hb
          refine ⟨.dispatch hv ho he hi hl (by simpa using hd) hobs (by simpa using hq), ?_⟩
          exact hK _ _ _ (by rw [heldView_append, hv]; rfl) (by simp)

theorem wp_beginDispatch (guard : DriverActionGuard)
    (hQ : ∀ outcome es, (outcome = .ok () → .sawClosed false ∈ es ∧ .sawInterruption none ∈ es ∧
      (.dispatched guard ∈ es ∨ .resumed guard ∈ es)) → Q outcome (h ++ es)) :
    wp (guardContract mayClose) guard.beginDispatch Q h := by
  simp only [beginDispatch, lockActivity, Async.wp_bind, Async.wp_atomic, Async.wp_attempt,
    Async.onOk_ok]
  intro _ s s' es b hb
  split at hb
  · contradiction
  · rename_i hu
    cases hb
    refine ⟨.lock (by simpa using hu), wp_check guard ?_ ?_⟩
    · simp only [Async.wp_bind]
      refine wp_admitDispatch guard (by simp only [heldView_append]; rfl) rfl rfl rfl ?_
      intro outcome es v' hv' hes
      simp only [Async.onOk_ok, Async.wp_bind]
      refine wp_unlock hv' ?_
      simp only [Async.onOk_ok, Async.wp_ofExcept, List.append_assoc]
      refine hQ _ _ fun hok => ⟨by simp, by simp, ?_⟩
      simpa using hes hok
    · intro es e hes _
      simp only [Async.wp_bind]
      obtain ⟨v', hv'⟩ := heldView_reads (h := h ++ [.locked s.activity])
        (by rw [heldView_append]; rfl) hes
      refine wp_unlock hv' ?_
      simp only [Async.onOk_ok, Async.wp_fail, List.append_assoc]
      exact hQ _ _ (by simp)

theorem wp_waitForIdle (guard : DriverActionGuard) (deadline polls : Nat)
    (hQ : ∀ outcome es, Q outcome (h ++ es)) :
    wp (guardContract mayClose) (guard.waitForIdle deadline polls) Q h := by
  induction polls generalizing h with
  | zero =>
      intro _ s s' es b hb
      contradiction
  | succ polls ih =>
      simp only [waitForIdle, Async.wp_bind]
      refine wp_check guard ?_ fun es e _ _ => hQ _ es
      simp only [Async.onOk_ok, Async.wp_bind, remainingQuiet, Async.wp_atomic]
      intro _ s s' es remaining hb
      split at hb
      · contradiction
      · cases hb
        refine ⟨.silent, ?_⟩
        split
        · simpa using hQ (.ok ()) _
        · simp only [Async.wp_bind, Async.wp_read, Async.onOk_ok]
          refine fun s => ⟨.silent, ?_⟩
          split
          · simpa using hQ _ _
          · refine ih fun outcome es => ?_
            simpa using hQ outcome
              (.sawClosed false :: .sawExpired false :: .sawInterruption none :: es)

theorem wp_dropLease (lease : Nat)
    (hQ : ∀ es, .inputRecorded true ∉ es → Q (.ok ()) (h ++ es)) :
    wp (guardContract mayClose) (dropLease lease) Q h := by
  simp only [dropLease, Async.wp_atomic]
  intro _ s s' es b hb
  split at hb
  · contradiction
  · rename_i l hl
    split at hb
    · rename_i hd
      split at hb
      · contradiction
      · rename_i hu
        cases hb
        exact ⟨.retire hl hd (by simpa using hu), hQ _ (by simp)⟩
    · rename_i hd
      cases hb
      exact ⟨.dropUnused hl (by simpa using hd), hQ _ (by simp)⟩

theorem wp_retainLease (lease : Nat) (owner : LeaseOwner) (hQ : Q (.ok ()) h) :
    wp (guardContract mayClose) (retainLease lease owner) Q h := by
  simp only [retainLease, Async.wp_atomic]
  intro _ s s' es b hb
  split at hb
  · contradiction
  · split at hb
    · contradiction
    · cases hb
      exact ⟨.owners fun l => by cases owner <;> rfl, by simpa using hQ⟩

theorem wp_releaseLease (lease : Nat) (owner : LeaseOwner)
    (hQ : ∀ es, .inputRecorded true ∉ es → Q (.ok ()) (h ++ es)) :
    wp (guardContract mayClose) (releaseLease lease owner) Q h := by
  simp only [releaseLease, Async.wp_bind, Async.wp_atomic, Async.onOk_ok]
  intro _ s s' es last hb
  split at hb
  · contradiction
  · split at hb
    · cases hb
      refine ⟨.owners fun l => by cases owner <;> rfl, ?_⟩
      split
      · exact wp_dropLease lease fun es hes => by simpa using hQ es hes
      · simpa using hQ [] (by simp)
    · contradiction

theorem wp_borrowed (guard : DriverActionGuard) {operation : GuardProgram Unit}
    (hop : wp (guardContract mayClose) operation
      (fun outcome h' => ∀ es, .inputRecorded true ∉ es → Q outcome (h' ++ es)) h) :
    wp (guardContract mayClose) (guard.borrowed operation) Q h := by
  simp only [borrowed, Async.wp_bind]
  refine wp_retainLease _ _ ?_
  simp only [Async.onOk_ok, Async.wp_bind, Async.wp_attempt]
  refine Async.wp_mono hop fun outcome es hes => ?_
  rw [Async.wp_bind]
  refine wp_releaseLease _ _ fun es' hes' => ?_
  simpa using hes es' hes'

end Operations

theorem wp_body (call : GuardCall) {mayClose : Bool} (hcall : call = .close → mayClose = true)
    {h : List GuardEvent} (hh : .inputRecorded true ∉ h) :
    wp (guardContract mayClose) call.body
      (fun outcome h' => ∀ s, Truthful h' s (.returned call outcome)) h := by
  cases call with
  | actionGuard =>
      intro _ s s' es b hb
      cases hb
      exact ⟨.actionGuard, fun _ => trivial⟩
  | clone lease => exact wp_retainLease _ _ fun _ => trivial
  | drop lease => exact wp_releaseLease _ _ fun _ _ _ => trivial
  | recordUserInputState guard inputHeld =>
      refine wp_borrowed guard (wp_recordUserInput inputHeld ?_)
      intro es hes es' hes' s hmem
      simp only [List.mem_append, hh, hes', false_or, or_false] at hmem
      simp [hes hmem]
  | recordInputReleased guard =>
      exact wp_borrowed guard (wp_recordReleased fun _ _ _ => trivial)
  | userTookOver guard => exact wp_borrowed guard (wp_latch _ fun _ _ _ => trivial)
  | activityMonitorFailed guard => exact wp_borrowed guard (wp_latch _ fun _ _ _ => trivial)
  | check guard =>
      refine wp_borrowed guard (wp_check guard ?_ ?_)
      · intro es _ s
        exact ⟨fun _ => ⟨by simp, by simp⟩, fun _ herror => by contradiction⟩
      · intro es e _ hfailed es' _ s
        refine ⟨fun hok => by contradiction, fun error herror => ?_⟩
        cases herror
        simp [hfailed]
  | beginDispatch guard =>
      refine wp_borrowed guard (wp_beginDispatch guard ?_)
      intro outcome es hes es' _ s hok
      obtain ⟨hopen, huninterrupted, hadmitted⟩ := hes hok
      refine ⟨by simp [hopen], by simp [huninterrupted], hadmitted.imp ?_ ?_⟩ <;>
        exact fun hmem => by simp [hmem]
  | waitUntilIdle guard polls =>
      refine wp_borrowed guard ?_
      simp only [DriverActionGuard.waitUntilIdle, Async.wp_bind, Async.wp_read, Async.onOk_ok]
      exact fun _ => ⟨.silent, wp_waitForIdle _ _ _ fun _ _ _ _ _ => trivial⟩
  | close =>
      intro _ s s' es b hb
      cases hb
      exact ⟨.close (hcall rfl), fun _ => trivial⟩

theorem wp_program (call : GuardCall) {mayClose : Bool} (hcall : call = .close → mayClose = true) :
    wp (guardContract mayClose) call.program (fun _ _ => True) [] := by
  simp only [GuardCall.program, Async.wp_bind, Async.wp_report, Async.onOk_ok, Async.wp_attempt]
  intro s
  refine ⟨.saw rfl, Async.wp_mono (wp_body call hcall (by simp)) fun outcome es hes => ?_⟩
  rw [Async.wp_report]
  exact fun s => ⟨.saw (hes s), trivial⟩

theorem guardSystem_keeps : guardSystem.Keeps (guardContract true) :=
  fun call => wp_program call fun _ => rfl

end NexusCua.Runtime
