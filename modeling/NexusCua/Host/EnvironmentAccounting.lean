import NexusCua.Foundation.Tally
import NexusCua.Host.EnvironmentManager

/-!
# What the environment manager retains

The reservations of the calls that run are counted by `pending_snapshots` and
`pending_clones`, and a clone names a snapshot that is retained; both hold in
every run in which no call is dropped with a reservation, respectively no
snapshot is removed while it is being cloned, and both fail without that.
-/

namespace NexusCua.Host

open NexusCua.Foundation NexusCua.Protocol
open NexusCua.Foundation.Async (wp Contract)

/-! ## What a call's history says about it -/

/-- The reservations a call has made and not given back, and the snapshot it is cloning. -/
structure CallView where
  snapshot : Bool
  clone : Bool
  source : Option MachineSnapshot
  deriving DecidableEq, Repr

namespace CallView

def start : CallView := ⟨false, false, none⟩

def next (v : CallView) : ManagerEvent → CallView
  | .snapshotReserved => { v with snapshot := true }
  | .snapshotSettled => { v with snapshot := false }
  | .cloneSource snapshot => { v with source := some snapshot }
  | .cloneReserved => { v with clone := true }
  | .cloneSettled => { v with clone := false, source := none }
  | .dropped => { v with source := none }
  | .returned _ _ => { v with source := none }
  | _ => v

def reserves (v : CallView) : Bool := v.snapshot || v.clone

end CallView

def callView (h : List ManagerEvent) : CallView := h.foldl CallView.next .start

@[simp] theorem callView_nil : callView [] = .start := rfl

theorem callView_append (h es : List ManagerEvent) :
    callView (h ++ es) = es.foldl CallView.next (callView h) := by
  simp [callView]

/-! ## What a block can do -/

inductive ManagerEffect (manager : EnvironmentManager) :
    List ManagerEvent → EnvironmentManagerState → List ManagerEvent → EnvironmentManagerState →
      Prop where
  | silent {h s} : ManagerEffect manager h s [] s
  | dropped {h s} : ManagerEffect manager h s [.dropped] s
  | returned {h s call outcome} (hfree : (callView h).reserves = false) :
      ManagerEffect manager h s [.returned call outcome] s
  | snapshotReserved {h s} (hfree : callView h = .start)
      (hroom : s.snapshots.size + s.pendingSnapshots < manager.config.maxSnapshots) :
      ManagerEffect manager h s [.snapshotReserved]
        { s with pendingSnapshots := s.pendingSnapshots + 1 }
  | snapshotSettled {h s} (hreserved : callView h = ⟨true, false, none⟩) :
      ManagerEffect manager h s [.snapshotSettled]
        { s with pendingSnapshots := s.pendingSnapshots - 1 }
  | snapshotRetained {h s} {snapshot : MachineSnapshot}
      (hreserved : callView h = ⟨true, false, none⟩)
      (hnew : s.snapshots.lookup snapshot.snapshotRef = none) :
      ManagerEffect manager h s [.snapshotSettled, .snapshotRetained snapshot]
        { s with
          pendingSnapshots := s.pendingSnapshots - 1
          snapshots := s.snapshots.insert snapshot.snapshotRef snapshot }
  | resetSource {h s snapshot} : ManagerEffect manager h s [.resetSource snapshot] s
  | cloneSource {h s snapshotRef snapshot} (hfree : callView h = .start)
      (hretained : s.snapshots.lookup snapshotRef = some snapshot) :
      ManagerEffect manager h s [.cloneSource snapshot] s
  | cloneReserved {h s snapshot} (hsource : callView h = ⟨false, false, some snapshot⟩)
      (hroom : s.clones.size + s.pendingClones < manager.config.maxClones) :
      ManagerEffect manager h s [.cloneReserved] { s with pendingClones := s.pendingClones + 1 }
  | cloneSettled {h s snapshot} (hreserved : callView h = ⟨false, true, some snapshot⟩) :
      ManagerEffect manager h s [.cloneSettled] { s with pendingClones := s.pendingClones - 1 }
  | cloneRetained {h s snapshot} {clone : ProvisionedEnvironment}
      (hreserved : callView h = ⟨false, true, some snapshot⟩)
      (hsnapshot : clone.snapshotRef = snapshot.snapshotRef)
      (himage : clone.baseImageSha256 = snapshot.baseImageSha256)
      (hnew : s.clones.lookup clone.environmentRef = none) :
      ManagerEffect manager h s [.cloneSettled, .cloneRetained clone]
        { s with
          pendingClones := s.pendingClones - 1
          clones := s.clones.insert clone.environmentRef clone }
  | cloneReleased {h s environmentRef} :
      ManagerEffect manager h s [.cloneReleased environmentRef]
        { s with clones := s.clones.erase environmentRef }
  | snapshotRemoved {h s snapshotRef}
      (hunused : ∀ environmentRef clone, s.clones.lookup environmentRef = some clone →
        clone.snapshotRef ≠ snapshotRef) :
      ManagerEffect manager h s [.snapshotRemoved snapshotRef]
        { s with snapshots := s.snapshots.erase snapshotRef }

def managerContract (manager : EnvironmentManager) :
    Contract EnvironmentManagerState ManagerEvent where
  guarantee := ManagerEffect manager
  final h := (callView h).reserves = true → ∃ before, h = before ++ [.dropped]

/-! ## Every call keeps the contract -/

section Programs

variable {manager : EnvironmentManager} {α : Type} {h : List ManagerEvent}

def Ends (outcome : Except CallStop α) (h : List ManagerEvent) : Prop :=
  (outcome = .error .dropped → ∃ before, h = before ++ [.dropped]) ∧
    (outcome ≠ .error .dropped → (callView h).reserves = false)

theorem Ends.dropped (h : List ManagerEvent) :
    Ends (.error .dropped : Except CallStop α) (h ++ [.dropped]) :=
  ⟨fun _ => ⟨h, rfl⟩, fun hne => absurd rfl hne⟩

theorem Ends.of_free {r : Except EnvironmentError α} (hfree : (callView h).reserves = false) :
    Ends (r.mapError CallStop.error) h :=
  ⟨fun heq => by cases r <;> simp [Except.mapError] at heq, fun _ => hfree⟩

theorem wp_awaiting {block : ManagerReply → EnvironmentManagerState →
      Option (EnvironmentManagerState × List ManagerEvent × α)}
    {Q : Except CallStop α → List ManagerEvent → Prop}
    (hdropped : Q (.error .dropped) (h ++ [.dropped]))
    (hblock : ∀ reply s s' es value, block reply s = some (s', es, value) →
      ManagerEffect manager h s es s' ∧ Q (.ok value) (h ++ es)) :
    wp (managerContract manager) (awaiting block) Q h := by
  rw [awaiting, Async.wp_bind, Async.wp_atomic]
  intro reply s s' es outcome hb
  split at hb
  · cases hb
    exact ⟨.dropped, hdropped⟩
  · obtain ⟨⟨s'', es', value⟩, hrun, hout⟩ := Option.map_eq_some_iff.mp hb
    cases hout
    exact hblock reply s s'' es' value hrun

theorem wp_orError {outcome : Except EnvironmentError α}
    {Q : Except CallStop α → List ManagerEvent → Prop} (hQ : Q (outcome.mapError .error) h) :
    wp (managerContract manager) (orError outcome) Q h := by
  rw [orError, Async.wp_ofExcept]
  exact hQ

/-- An await whose block may refuse the call. -/
theorem wp_awaiting_orError {block : ManagerReply → EnvironmentManagerState →
      Option (EnvironmentManagerState × List ManagerEvent × Except EnvironmentError α)}
    {Q : Except CallStop α → List ManagerEvent → Prop}
    (hdropped : Q (.error .dropped) (h ++ [.dropped]))
    (hblock : ∀ reply s s' es outcome, block reply s = some (s', es, outcome) →
      ManagerEffect manager h s es s' ∧ Q (outcome.mapError .error) (h ++ es)) :
    wp (managerContract manager) (awaiting block >>= orError) Q h := by
  rw [Async.wp_bind]
  refine wp_awaiting hdropped fun reply s s' es outcome hb => ?_
  obtain ⟨heffect, hQ⟩ := hblock reply s s' es outcome hb
  exact ⟨heffect, wp_orError hQ⟩

variable {rest : Unit → ManagerProgram CallStop α}

theorem wp_check (outcome : Except EnvironmentError Unit)
    (hfree : (callView h).reserves = false)
    (hrest : wp (managerContract manager) (rest ()) Ends h) :
    wp (managerContract manager) (orError outcome >>= rest) Ends h := by
  rw [Async.wp_bind]
  cases outcome with
  | ok => exact wp_orError hrest
  | error error => exact wp_orError (.of_free (r := .error error) hfree)

theorem wp_reserve {busy : EnvironmentManagerState → Bool} {event : ManagerEvent}
    {reserved : EnvironmentManagerState → EnvironmentManagerState}
    {p : ManagerProgram CallStop Unit}
    (hp : p = (awaiting fun _ s => if busy s then some (s, [], .error .busy)
      else some (reserved s, [event], .ok ())) >>= orError)
    (hfree : (callView h).reserves = false)
    (hreserved : ∀ s, ¬ busy s = true → ManagerEffect manager h s [event] (reserved s))
    (hrest : wp (managerContract manager) (rest ()) Ends (h ++ [event])) :
    wp (managerContract manager) (p >>= rest) Ends h := by
  rw [Async.wp_bind, hp]
  refine wp_awaiting_orError (.dropped h) fun reply s s' es outcome hb => ?_
  split at hb
  · cases hb
    exact ⟨.silent, .of_free (r := .error .busy) (by rwa [List.append_nil])⟩
  · cases hb
    exact ⟨hreserved s ‹_›, hrest⟩

variable {snapshot : MachineSnapshot}

theorem EnvironmentManager.checkSnapshot_eq_ok {s : EnvironmentManagerState}
    {workerId workerEpoch : String} {result : Except EnvironmentError MachineSnapshot}
    (hok : manager.checkSnapshot s workerId workerEpoch result = .ok snapshot) :
    s.snapshots.lookup snapshot.snapshotRef = none := by
  obtain ⟨taken, -, hok⟩ := bind_eq_ok.mp hok
  obtain ⟨_, -, hok⟩ := bind_eq_ok.mp hok
  split at hok
  · contradiction
  · rename_i hnew
    cases hok
    simpa using hnew

theorem wp_settleSnapshot (workerId workerEpoch : String)
    (result : Except EnvironmentError MachineSnapshot)
    (hreserved : callView h = ⟨true, false, none⟩) :
    wp (managerContract manager) (manager.settleSnapshot workerId workerEpoch result) Ends h := by
  refine wp_awaiting_orError (.dropped h) fun reply s s' es outcome hb => ?_
  dsimp only at hb
  split at hb
  · cases hb
    exact ⟨.snapshotSettled hreserved, .of_free (by rw [callView_append, hreserved]; rfl)⟩
  · cases hb
    refine ⟨.snapshotRetained hreserved (EnvironmentManager.checkSnapshot_eq_ok ‹_›), ?_⟩
    exact .of_free (by rw [callView_append, hreserved]; rfl)

theorem wp_snapshot (workerId workerEpoch label : String) :
    wp (managerContract manager) (manager.snapshot workerId workerEpoch label) Ends [] := by
  rw [EnvironmentManager.snapshot]
  refine wp_check _ rfl (wp_check _ rfl (wp_check _ rfl (wp_check _ rfl ?_)))
  refine wp_reserve rfl rfl (fun s hroom => .snapshotReserved rfl ?_) ?_
  · simpa [EnvironmentManagerState.snapshotsBusy] using hroom
  rw [Async.wp_bind]
  refine wp_awaiting (.dropped _) fun reply s s' es result hb => ?_
  split at hb
  · cases hb
    exact ⟨.silent, wp_settleSnapshot workerId workerEpoch result rfl⟩
  · contradiction

/-! ### Resets and clones -/

theorem wp_retainedSnapshot {found : MachineSnapshot → ManagerEvent} {snapshotRef : String}
    {rest : MachineSnapshot → ManagerProgram CallStop α} (hfree : callView h = .start)
    (hfound : ∀ s snapshot, s.snapshots.lookup snapshotRef = some snapshot →
      ManagerEffect manager h s [found snapshot] s ∧
        wp (managerContract manager) (rest snapshot) Ends (h ++ [found snapshot])) :
    wp (managerContract manager)
      (EnvironmentManager.retainedSnapshot found snapshotRef >>= rest) Ends h := by
  have hfree' : (callView h).reserves = false := by rw [hfree]; rfl
  rw [Async.wp_bind, EnvironmentManager.retainedSnapshot, Async.wp_bind]
  cases validateOpaque snapshotRef "snapshot reference" 128 with
  | error error => exact wp_orError (.of_free (r := .error error) hfree')
  | ok =>
      refine wp_orError (wp_awaiting_orError (.dropped h) fun reply s s' es outcome hb => ?_)
      split at hb
      · cases hb
        exact ⟨.silent, .of_free (r := .error .staleSnapshot) (by rwa [List.append_nil])⟩
      · cases hb
        exact hfound s _ ‹_›

theorem wp_provision {rest : Except EnvironmentError ProvisionedEnvironment →
      ManagerProgram CallStop α}
    (hrest : ∀ result, wp (managerContract manager) (rest result) Ends h) :
    wp (managerContract manager) (EnvironmentManager.provision >>= rest) Ends h := by
  rw [Async.wp_bind, EnvironmentManager.provision]
  refine wp_awaiting (.dropped h) fun reply s s' es result hb => ?_
  split at hb
  · cases hb
    rw [List.append_nil]
    exact ⟨.silent, hrest result⟩
  · contradiction

theorem wp_reset (environmentRef snapshotRef : String) :
    wp (managerContract manager) (manager.reset environmentRef snapshotRef) Ends [] := by
  rw [EnvironmentManager.reset]
  refine wp_check _ rfl (wp_check _ rfl ?_)
  refine wp_retainedSnapshot rfl fun s snapshot _ => ⟨.resetSource, ?_⟩
  refine wp_provision fun result => ?_
  rw [Async.wp_bind]
  cases result with
  | error error => exact wp_orError (.of_free (r := .error error) rfl)
  | ok environment =>
      refine wp_orError (wp_check _ rfl ?_)
      split
      · exact .of_free (r := .error _) rfl
      · exact .of_free (r := .ok _) rfl

theorem EnvironmentManager.checkClone_eq_ok {s : EnvironmentManagerState}
    {result : Except EnvironmentError ProvisionedEnvironment}
    {clone : ProvisionedEnvironment} (hok : manager.checkClone s snapshot result = .ok clone) :
    clone.snapshotRef = snapshot.snapshotRef ∧
      clone.baseImageSha256 = snapshot.baseImageSha256 ∧
      s.clones.lookup clone.environmentRef = none := by
  obtain ⟨provisioned, -, hok⟩ := bind_eq_ok.mp hok
  obtain ⟨_, hvalid, hok⟩ := bind_eq_ok.mp hok
  split at hok
  · contradiction
  · rename_i hnew
    cases hok
    obtain ⟨_, -, hvalid⟩ := bind_eq_ok.mp hvalid
    obtain ⟨_, -, hvalid⟩ := bind_eq_ok.mp hvalid
    split at hvalid
    · contradiction
    · rename_i hmatches
      simp only [not_or, not_not] at hmatches
      exact ⟨hmatches.1, hmatches.2.1, by simpa using hnew⟩

theorem wp_settleClone (snapshot : MachineSnapshot)
    (result : Except EnvironmentError ProvisionedEnvironment)
    (hreserved : callView h = ⟨false, true, some snapshot⟩) :
    wp (managerContract manager) (manager.settleClone snapshot result) Ends h := by
  refine wp_awaiting_orError (.dropped h) fun reply s s' es outcome hb => ?_
  dsimp only at hb
  split at hb
  · cases hb
    exact ⟨.cloneSettled hreserved, .of_free (by rw [callView_append, hreserved]; rfl)⟩
  · cases hb
    obtain ⟨hsnapshot, himage, hnew⟩ := EnvironmentManager.checkClone_eq_ok ‹_›
    refine ⟨.cloneRetained hreserved hsnapshot himage hnew, ?_⟩
    exact .of_free (by rw [callView_append, hreserved]; rfl)

theorem wp_cloneEnvironment (snapshotRef : String) :
    wp (managerContract manager) (manager.cloneEnvironment snapshotRef) Ends [] := by
  rw [EnvironmentManager.cloneEnvironment]
  refine wp_check _ rfl ?_
  refine wp_retainedSnapshot rfl fun s snapshot hretained => ⟨.cloneSource rfl hretained, ?_⟩
  refine wp_reserve rfl rfl (fun s hroom => .cloneReserved rfl ?_) ?_
  · simpa [EnvironmentManagerState.clonesBusy] using hroom
  · exact wp_provision fun result => wp_settleClone snapshot result rfl

theorem wp_releaseClone (environmentRef : String) :
    wp (managerContract manager) (EnvironmentManager.releaseClone environmentRef) Ends [] := by
  rw [EnvironmentManager.releaseClone]
  refine wp_awaiting (.dropped []) fun reply s s' es value hb => ?_
  cases hb
  exact ⟨.cloneReleased, .of_free (r := .ok _) rfl⟩

theorem wp_removeSnapshot (snapshotRef : String) :
    wp (managerContract manager) (EnvironmentManager.removeSnapshot snapshotRef) Ends [] := by
  refine wp_awaiting_orError (.dropped []) fun reply s s' es outcome hb => ?_
  split at hb
  · cases hb
    exact ⟨.silent, .of_free rfl⟩
  · rename_i hunused
    cases hb
    refine ⟨.snapshotRemoved fun environmentRef clone hclone heq => hunused ?_, .of_free rfl⟩
    refine List.any_eq_true.mpr ⟨(environmentRef, clone), ?_, by simp [heq]⟩
    exact (Table.mem_toList_iff _ _ _).mpr hclone

theorem Ends.map {β : Type} {f : α → β} {outcome : Except CallStop α} (he : Ends outcome h) :
    Ends (outcome.map f) h := by
  have hiff : outcome.map f = .error .dropped ↔ outcome = .error .dropped := by
    cases outcome <;> simp [Except.map]
  rwa [Ends, hiff, Ne, hiff]

theorem wp_callBody (call : ManagerCall) :
    wp (managerContract manager) (call.body manager) Ends [] := by
  have hmap : ∀ {β : Type} {f : β → ManagerResult} {p : ManagerProgram CallStop β},
      wp (managerContract manager) p Ends [] → wp (managerContract manager) (f <$> p) Ends [] := by
    intro β f p hp
    rw [Async.wp_map]
    exact Async.wp_mono hp fun _ _ hends => hends.map
  cases call with
  | snapshot workerId workerEpoch label => exact hmap (wp_snapshot workerId workerEpoch label)
  | reset environmentRef snapshotRef => exact hmap (wp_reset environmentRef snapshotRef)
  | cloneEnvironment snapshotRef => exact hmap (wp_cloneEnvironment snapshotRef)
  | releaseClone environmentRef => exact hmap (wp_releaseClone environmentRef)
  | removeSnapshot snapshotRef => exact hmap (wp_removeSnapshot snapshotRef)

end Programs

theorem EnvironmentManager.system_keeps (manager : EnvironmentManager) :
    manager.system.Keeps (managerContract manager) := by
  intro call
  change wp (managerContract manager) (call.program manager) _ []
  rw [ManagerCall.program, Async.wp_bind, Async.wp_attempt]
  refine Async.wp_mono (wp_callBody call) fun outcome es hends => ?_
  have hreturned : ∀ {h : List ManagerEvent} {result}, (callView h).reserves = false →
      wp (managerContract manager)
        (Async.report (.returned call result) : ManagerProgram Empty Unit)
        (fun _ => (managerContract manager).final) h := by
    intro h result hfree
    have : Nonempty ManagerReply := ⟨.none⟩
    rw [Async.wp_report]
    refine fun s => ⟨.returned hfree, fun hreserves => ?_⟩
    rw [callView_append] at hreserves
    exact absurd (hreserves.symm.trans hfree) (by simp)
  cases outcome with
  | ok result => exact hreturned (hends.2 (by simp))
  | error stop =>
      cases stop with
      | error error => exact hreturned (hends.2 (by simp))
      | dropped => exact fun _ => hends.1 rfl

/-! ## Runs -/

abbrev ManagerPool := Pool EnvironmentManagerState ManagerReply ManagerEvent

abbrev ManagerStep := Step EnvironmentManagerState ManagerEvent

abbrev ManagerRun (manager : EnvironmentManager) (steps : List ManagerStep)
    (s : EnvironmentManagerState) : Prop :=
  Lawful (managerContract manager) manager.system.env .empty steps s

section Runs

variable {manager : EnvironmentManager} {h es : List ManagerEvent}
  {s s' : EnvironmentManagerState} {steps before after : List ManagerStep} {e : ManagerStep}

variable {c : ManagerPool}

theorem EnvironmentManager.run_of_reachable
    (hc : Reachable manager.system c) : ManagerRun manager c.steps c.shared := by
  obtain ⟨s₀, rfl, hr⟩ := (hc.accounted manager.system_keeps).lawful
  exact hr

theorem ManagerRun.induction {P : List ManagerStep → EnvironmentManagerState → Prop}
    (hr : ManagerRun manager steps s) (hstart : P [] .empty)
    (hblock : ∀ before t s es s', ManagerRun manager before s → P before s →
      ManagerEffect manager (history t before) s es s' →
      P (before ++ [⟨some t, s, es, s'⟩]) s') : P steps s := by
  refine hr.invariant hstart fun before e hbefore hP he => ?_
  obtain ⟨task, s, es, s'⟩ := e
  cases task with
  | some t => exact hblock before t s es s' hbefore hP he
  | none =>
      obtain ⟨⟨label, -⟩, -⟩ := he
      exact label.elim

/-! ### Reservations -/

/-- A counter of the state that counts a kind of reservation of the calls. -/
structure Counts (manager : EnvironmentManager) (counter : EnvironmentManagerState → Nat)
    (held : CallView → Bool) : Prop where
  reserves : ∀ v, held v = true → v.reserves = true
  empty : counter .empty = 0
  block : ∀ h s es s', ManagerEffect manager h s es s' →
    (held (callView h) = true → 0 < counter s) →
    counter s' + (held (callView h)).toNat = counter s + (held (callView (h ++ es))).toNat

theorem counts_pendingSnapshots :
    Counts manager (·.pendingSnapshots) (·.snapshot) where
  reserves v hv := by simp [CallView.reserves, hv]
  empty := rfl
  block h s es s' he hpos := by
    rw [callView_append]
    cases he with
    | snapshotReserved hfree => simp [hfree, CallView.next, CallView.start]
    | snapshotSettled hreserved | snapshotRetained hreserved =>
        have := hpos (by rw [hreserved])
        simp only [hreserved, CallView.next, List.foldl_cons, List.foldl_nil, Bool.toNat_true,
          Bool.toNat_false]
        omega
    | _ => rfl

theorem counts_pendingClones : Counts manager (·.pendingClones) (·.clone) where
  reserves v hv := by simp [CallView.reserves, hv]
  empty := rfl
  block h s es s' he hpos := by
    rw [callView_append]
    cases he with
    | cloneReserved hsource => simp [hsource, CallView.next]
    | cloneSettled hreserved | cloneRetained hreserved =>
        have := hpos (by rw [hreserved])
        simp only [hreserved, CallView.next, List.foldl_cons, List.foldl_nil, Bool.toNat_true,
          Bool.toNat_false]
        omega
    | _ => rfl

variable {counter : EnvironmentManagerState → Nat} {held : CallView → Bool}

theorem Counts.held_start (hf : Counts manager counter held) : held .start = false := by
  by_contra hstart
  exact absurd (hf.reserves .start (by simpa using hstart)) (by decide)

theorem Counts.pos (hf : Counts manager counter held) (hr : ManagerRun manager steps s) {t : Nat}
    (ht : held (callView (history t steps)) = true) : 0 < counter s :=
  hr.counter_pos _ (fun h => held (callView h)) hf.empty hf.held_start hf.block
    (fun _ _ ⟨label, _⟩ => label.elim) ht

structure Bounded (manager : EnvironmentManager) (s : EnvironmentManagerState) : Prop where
  snapshots_le : s.snapshots.size + s.pendingSnapshots ≤ manager.config.maxSnapshots
  clones_le : s.clones.size + s.pendingClones ≤ manager.config.maxClones

theorem ManagerEffect.bounded (he : ManagerEffect manager h s es s')
    (hsnapshot : (callView h).snapshot = true → 0 < s.pendingSnapshots)
    (hclone : (callView h).clone = true → 0 < s.pendingClones) (hb : Bounded manager s) :
    Bounded manager s' := by
  obtain ⟨hsnapshots, hclones⟩ := hb
  cases he with
  | snapshotReserved _ hroom => exact ⟨Nat.succ_le_of_lt hroom, hclones⟩
  | cloneReserved _ hroom => exact ⟨hsnapshots, Nat.succ_le_of_lt hroom⟩
  | snapshotSettled => exact ⟨by dsimp only; omega, hclones⟩
  | cloneSettled => exact ⟨hsnapshots, by dsimp only; omega⟩
  | snapshotRetained hreserved hnew =>
      have hpos := hsnapshot (by rw [hreserved])
      refine ⟨?_, hclones⟩
      dsimp only
      rw [Table.size_insert_of_lookup_none hnew]
      omega
  | cloneRetained hreserved _ _ hnew =>
      have hpos := hclone (by rw [hreserved])
      refine ⟨hsnapshots, ?_⟩
      dsimp only
      rw [Table.size_insert_of_lookup_none hnew]
      omega
  | @cloneReleased environmentRef =>
      have hle := (Table.Shrinks.erase environmentRef s.clones).size_le
      exact ⟨hsnapshots, by dsimp only; omega⟩
  | @snapshotRemoved snapshotRef =>
      have hle := (Table.Shrinks.erase snapshotRef s.snapshots).size_le
      exact ⟨by dsimp only; omega, hclones⟩
  | _ => exact ⟨hsnapshots, hclones⟩

theorem ManagerRun.bounded (hr : ManagerRun manager steps s) : Bounded manager s := by
  refine hr.induction (P := fun _ s => Bounded manager s)
    ⟨Nat.zero_le _, Nat.zero_le _⟩ fun before t s es s' hbefore hb he => ?_
  exact he.bounded (counts_pendingSnapshots.pos hbefore) (counts_pendingClones.pos hbefore) hb

/-! ### Calls that are dropped -/

/-- No future is dropped between a reservation and the critical section that gives it back. -/
def NoReservationDropped (steps : List ManagerStep) : Prop :=
  ∀ before e after t, steps = before ++ e :: after → e.task = some t → .dropped ∈ e.events →
    (callView (history t before)).reserves = false

theorem ManagerEffect.of_dropped (he : ManagerEffect manager h s es s') (hx : .dropped ∈ es) :
    es = [.dropped] := by
  cases he with
  | dropped => rfl
  | _ => simp at hx

theorem not_reserves_of_finished (hc : Reachable manager.system c)
    (hkept : NoReservationDropped c.steps) {t : Nat} (ht : c.finished t = true) :
    (callView (history t c.steps)).reserves = false := by
  by_contra hreserves
  have hfinal := (hc.accounted manager.system_keeps).final ht
  obtain ⟨own, hown⟩ := hfinal (by simpa using hreserves)
  obtain ⟨before, e, after, es, es', hsteps, htask, hevents, rfl, -⟩ := exists_split_of_history hown
  have hr := EnvironmentManager.run_of_reachable hc
  rw [hsteps] at hr
  have heffect : ManagerEffect manager (history t before) e.pre e.events e.post := by
    have hpermitted := hr.at_step.2
    rw [Permitted, htask] at hpermitted
    exact hpermitted
  have hdropped : .dropped ∈ e.events := by simp [hevents]
  have hempty : es = [] := by
    have hsingle := heffect.of_dropped hdropped
    rw [hevents] at hsingle
    exact (List.append_eq_singleton_iff.mp hsingle).elim (fun h => h.1) fun h => by simp at h
  have hfree := hkept before e after t hsteps htask hdropped
  rw [hown, hempty, List.append_nil, callView_append] at hreserves
  exact hreserves hfree

def running (held : CallView → Bool) (c : ManagerPool) : Nat :=
  (List.range c.tasks.length).countP fun t =>
    held (callView (history t c.steps)) && !c.finished t

theorem Counts.eq_running (hf : Counts manager counter held)
    (hc : Reachable manager.system c) (hkept : NoReservationDropped c.steps) :
    counter c.shared = running held c := by
  have hr := EnvironmentManager.run_of_reachable hc
  rw [hr.counted counter (fun h => held (callView h)) hf.empty hf.held_start hf.block
    (fun _ _ ⟨label, _⟩ => label.elim) (hc.accounted manager.system_keeps).fresh]
  refine List.countP_congr fun t _ => ?_
  cases hfinished : c.finished t with
  | false => simp
  | true =>
      have hfree := not_reserves_of_finished hc hkept hfinished
      simp only [Bool.not_true, Bool.and_false, Bool.false_eq_true, iff_false]
      intro hyes
      simp [hf.reserves _ hyes] at hfree

structure ReservationsCounted (manager : EnvironmentManager) (c : ManagerPool) : Prop where
  pendingSnapshots_eq : c.shared.pendingSnapshots = running CallView.snapshot c
  pendingClones_eq : c.shared.pendingClones = running CallView.clone c
  bounded : Bounded manager c.shared
  snapshotsBusy : (∀ t < c.tasks.length, c.finished t = true) →
    c.shared.snapshotsBusy manager.config = true →
    c.shared.snapshots.size = manager.config.maxSnapshots
  clonesBusy : (∀ t < c.tasks.length, c.finished t = true) →
    c.shared.clonesBusy manager.config = true →
    c.shared.clones.size = manager.config.maxClones

theorem running_eq_zero (hidle : ∀ t < c.tasks.length, c.finished t = true) :
    running held c = 0 := by
  refine List.countP_eq_zero.mpr fun t ht => ?_
  simp [hidle t (List.mem_range.mp ht)]

theorem reservations_counted (manager : EnvironmentManager) (c : ManagerPool)
    (hc : Reachable manager.system c) (hkept : NoReservationDropped c.steps) :
    ReservationsCounted manager c := by
  have hsnapshots := counts_pendingSnapshots.eq_running hc hkept
  have hclones := counts_pendingClones.eq_running hc hkept
  have hbounded := (EnvironmentManager.run_of_reachable hc).bounded
  refine ⟨hsnapshots, hclones, hbounded, fun hidle hbusy => ?_, fun hidle hbusy => ?_⟩
  · have hle := hbounded.snapshots_le
    rw [running_eq_zero hidle] at hsnapshots
    simp only [EnvironmentManagerState.snapshotsBusy, decide_eq_true_eq] at hbusy
    omega
  · have hle := hbounded.clones_le
    rw [running_eq_zero hidle] at hclones
    simp only [EnvironmentManagerState.clonesBusy, decide_eq_true_eq] at hbusy
    omega

/-! ### Clones and their snapshots -/

/-- No snapshot is removed between its lookup by a call that clones it and the end of the call. -/
def NoSourceRemoved (steps : List ManagerStep) : Prop :=
  ∀ before e after snapshotRef t snapshot, steps = before ++ e :: after →
    .snapshotRemoved snapshotRef ∈ e.events →
    (callView (history t before)).source = some snapshot → snapshot.snapshotRef ≠ snapshotRef

/-- The snapshots behind the clones, retained or in the making, are retained. -/
structure ClonesRooted (steps : List ManagerStep) (s : EnvironmentManagerState) : Prop where
  keyed : ∀ snapshotRef snapshot, s.snapshots.lookup snapshotRef = some snapshot →
    snapshot.snapshotRef = snapshotRef
  sources : ∀ t snapshot, (callView (history t steps)).source = some snapshot →
    s.snapshots.lookup snapshot.snapshotRef = some snapshot
  clones : ∀ environmentRef clone, s.clones.lookup environmentRef = some clone →
    ∃ snapshot, s.snapshots.lookup clone.snapshotRef = some snapshot ∧
      snapshot.baseImageSha256 = clone.baseImageSha256

variable {snapshot : MachineSnapshot}

section

variable (he : ManagerEffect manager h s es s')
include he

theorem ManagerEffect.keeps_snapshot {snapshotRef : String}
    (hretained : s.snapshots.lookup snapshotRef = some snapshot)
    (hx : .snapshotRemoved snapshotRef ∉ es) :
    s'.snapshots.lookup snapshotRef = some snapshot := by
  cases he with
  | snapshotRetained _ hnew =>
      refine (Table.lookup_insert_eq ..).trans ((if_neg ?_).trans hretained)
      rintro rfl
      simp [hretained] at hnew
  | snapshotRemoved =>
      refine (Table.lookup_erase_eq ..).trans ((if_neg ?_).trans hretained)
      exact fun heq => hx (by simp [heq])
  | _ => exact hretained

theorem ManagerEffect.new_snapshot {snapshotRef : String}
    (hretained : s'.snapshots.lookup snapshotRef = some snapshot) :
    s.snapshots.lookup snapshotRef = some snapshot ∨ snapshot.snapshotRef = snapshotRef := by
  cases he with
  | snapshotRetained =>
      rcases Table.lookup_insert_cases hretained with ⟨rfl, rfl⟩ | hretained
      · exact .inr rfl
      · exact .inl hretained
  | snapshotRemoved => exact .inl ((Table.Shrinks.erase _ _).lookup _ _ hretained)
  | _ => exact .inl hretained

theorem ManagerEffect.new_source
    (hsource : (callView (h ++ es)).source = some snapshot) :
    (callView h).source = some snapshot ∨
      es = [.cloneSource snapshot] ∧
        ∃ snapshotRef, s.snapshots.lookup snapshotRef = some snapshot := by
  rw [callView_append] at hsource
  cases he with
  | cloneSource _ hretained =>
      cases hsource
      exact .inr ⟨rfl, _, hretained⟩
  | dropped | returned | cloneSettled | cloneRetained => contradiction
  | _ => exact .inl hsource

theorem ManagerEffect.new_clone {environmentRef : String} {clone : ProvisionedEnvironment}
    (hclone : s'.clones.lookup environmentRef = some clone) :
    s.clones.lookup environmentRef = some clone ∨
      ∃ snapshot, (callView h).source = some snapshot ∧
        clone.snapshotRef = snapshot.snapshotRef ∧
        snapshot.baseImageSha256 = clone.baseImageSha256 := by
  cases he with
  | cloneRetained hreserved hsnapshot himage =>
      rcases Table.lookup_insert_cases hclone with ⟨rfl, rfl⟩ | hclone
      · exact .inr ⟨_, by rw [hreserved], hsnapshot, himage.symm⟩
      · exact .inl hclone
  | cloneReleased => exact .inl ((Table.Shrinks.erase _ _).lookup _ _ hclone)
  | _ => exact .inl hclone

theorem ManagerEffect.of_snapshotRemoved {snapshotRef environmentRef : String}
    {clone : ProvisionedEnvironment}
    (hx : .snapshotRemoved snapshotRef ∈ es)
    (hclone : s.clones.lookup environmentRef = some clone) : clone.snapshotRef ≠ snapshotRef := by
  cases he with
  | snapshotRemoved hunused =>
      obtain rfl := ManagerEvent.snapshotRemoved.inj (List.mem_singleton.mp hx)
      exact hunused environmentRef clone hclone
  | _ => simp at hx

end

theorem ClonesRooted.step {t : Nat} (hrooted : ClonesRooted before s)
    (he : ManagerEffect manager (history t before) s es s')
    (hkept : ∀ snapshotRef u snapshot, .snapshotRemoved snapshotRef ∈ es →
      (callView (history u before)).source = some snapshot → snapshot.snapshotRef ≠ snapshotRef) :
    ClonesRooted (before ++ [⟨some t, s, es, s'⟩]) s' := by
  have hold : ∀ u snapshot, (callView (history u before)).source = some snapshot →
      s'.snapshots.lookup snapshot.snapshotRef = some snapshot := by
    intro u snapshot hsource
    refine he.keeps_snapshot (hrooted.sources u snapshot hsource) fun hx => ?_
    exact hkept _ u snapshot hx hsource rfl
  refine ⟨fun snapshotRef snapshot hretained => ?_, fun u snapshot hsource => ?_,
    fun environmentRef clone hclone => ?_⟩
  · rcases he.new_snapshot hretained with hretained | hkey
    · exact hrooted.keyed snapshotRef snapshot hretained
    · exact hkey
  · by_cases hu : u = t
    · subst hu
      rw [history_snoc_self] at hsource
      rcases he.new_source hsource with hsource | ⟨rfl, snapshotRef, hretained⟩
      · exact hold u snapshot hsource
      · obtain rfl := hrooted.keyed snapshotRef snapshot hretained
        exact he.keeps_snapshot hretained (by simp)
    · rw [history_snoc_other _ (by simpa using Ne.symm hu)] at hsource
      exact hold u snapshot hsource
  · rcases he.new_clone hclone with hclone | ⟨snapshot, hsource, hsnapshot, himage⟩
    · obtain ⟨snapshot, hretained, himage⟩ := hrooted.clones environmentRef clone hclone
      refine ⟨snapshot, he.keeps_snapshot hretained fun hx => ?_, himage⟩
      exact he.of_snapshotRemoved hx hclone rfl
    · exact ⟨snapshot, hsnapshot ▸ hold t snapshot hsource, himage⟩

theorem ManagerRun.clonesRooted (hr : ManagerRun manager steps s) (hkept : NoSourceRemoved steps) :
    ClonesRooted steps s := by
  revert hkept
  refine hr.induction (P := fun steps s => NoSourceRemoved steps → ClonesRooted steps s) ?_ ?_
  · intro _
    exact ⟨fun _ _ h => by simp [EnvironmentManagerState.empty] at h,
      fun _ _ h => by simp [CallView.start] at h,
      fun _ _ h => by simp [EnvironmentManagerState.empty] at h⟩
  · intro before t s es s' _ ih he hkept
    have hbefore : NoSourceRemoved before := by
      intro b e a snapshotRef u snapshot hsteps
      exact hkept b e (a ++ [⟨some t, s, es, s'⟩]) snapshotRef u snapshot (by simp [hsteps])
    exact (ih hbefore).step he fun snapshotRef u snapshot =>
      hkept before ⟨some t, s, es, s'⟩ [] snapshotRef u snapshot rfl

/-- A retained clone names a retained snapshot of the same base image. -/
theorem clones_name_snapshots (manager : EnvironmentManager) (c : ManagerPool)
    (hc : Reachable manager.system c) (hkept : NoSourceRemoved c.steps) (environmentRef : String)
    (clone : ProvisionedEnvironment)
    (hclone : c.shared.clones.lookup environmentRef = some clone) :
    ∃ snapshot, c.shared.snapshots.lookup clone.snapshotRef = some snapshot ∧
      snapshot.snapshotRef = clone.snapshotRef ∧
      snapshot.baseImageSha256 = clone.baseImageSha256 := by
  have hrooted := (EnvironmentManager.run_of_reachable hc).clonesRooted hkept
  obtain ⟨snapshot, hretained, himage⟩ := hrooted.clones environmentRef clone hclone
  exact ⟨snapshot, hretained, hrooted.keyed _ snapshot hretained, himage⟩

end Runs

/-! ### A small manager -/

def isolatedDesktop : EnvironmentDescriptor where
  kind := .isolated
  network := .denyAll
  filesystem := .noDirectAccess
  capabilities := [.networkPolicy, .filesystemPolicy, .snapshot, .reset, .clone]
  baseImageSha256 := some "aaaaaaaaaaaaaaaaaaaaaaaaaaaaaaaaaaaaaaaaaaaaaaaaaaaaaaaaaaaaaaaa"

def exampleManager : EnvironmentManager where
  descriptor := isolatedDesktop
  config := ⟨1, 1, 16⟩
  isRfc3339 text := text == "2026-01-01T00:00:00Z"
  maxSnapshots_pos := by decide
  maxClones_pos := by decide
  maxLabelBytes_pos := by decide
  valid := rfl

def baseline : MachineSnapshot where
  snapshotRef := "snapshot_1"
  sourceWorkerId := "worker"
  sourceWorkerEpoch := "epoch"
  baseImageSha256 := "aaaaaaaaaaaaaaaaaaaaaaaaaaaaaaaaaaaaaaaaaaaaaaaaaaaaaaaaaaaaaaaa"
  createdAt := "2026-01-01T00:00:00Z"

abbrev ManagerMove := Move ManagerReply ManagerCall Empty

def workshop : ProvisionedEnvironment :=
  ⟨"environment_1", "generation_1", "snapshot_1", baseline.baseImageSha256⟩

def takeBaseline : List ManagerMove :=
  [.spawn (.snapshot "worker" "epoch" "baseline"), .run 0 .none,
    .run 0 (.snapshotTaken (.ok baseline)), .run 0 .none, .run 0 .none]

def cloneBaseline : List ManagerMove :=
  takeBaseline ++ [.spawn (.cloneEnvironment "snapshot_1"), .run 1 .none, .run 1 .none,
    .run 1 (.provisioned (.ok workshop)), .run 1 .none, .run 1 .none]

theorem cloneBaseline_run : ((Pool.start .empty).run exampleManager.system cloneBaseline).isSome :=
  rfl

def clonedPool : ManagerPool :=
  ((Pool.start .empty).run exampleManager.system cloneBaseline).get cloneBaseline_run

theorem clonedPool_reachable : Reachable exampleManager.system clonedPool :=
  Reachable.of_run rfl cloneBaseline_run

def ManagerEvent.isDropped : ManagerEvent → Bool
  | .dropped => true
  | _ => false

def ManagerEvent.isRemoval : ManagerEvent → Bool
  | .snapshotRemoved _ => true
  | _ => false

theorem not_mem_of_all {steps before after : List ManagerStep} {e : ManagerStep}
    {p : ManagerEvent → Bool} (hall : steps.all (fun e => e.events.all fun x => !p x) = true)
    (hsteps : steps = before ++ e :: after) {x : ManagerEvent} (hp : p x = true) :
    x ∉ e.events := by
  intro hx
  have he := List.all_eq_true.mp hall e (by simp [hsteps])
  have hx := List.all_eq_true.mp he x hx
  simp [hp] at hx

theorem clonedPool_counted :
    NoReservationDropped clonedPool.steps ∧ ReservationsCounted exampleManager clonedPool ∧
      clonedPool.shared.clones.size = 1 := by
  have hkept : NoReservationDropped clonedPool.steps := by
    intro before e after t hsteps _ hx
    exact absurd hx (not_mem_of_all (p := ManagerEvent.isDropped) rfl hsteps rfl)
  exact ⟨hkept, reservations_counted exampleManager clonedPool clonedPool_reachable hkept, rfl⟩

theorem clonedPool_rooted :
    NoSourceRemoved clonedPool.steps ∧
      clonedPool.shared.clones.lookup "environment_1" = some workshop ∧
      ∃ snapshot, clonedPool.shared.snapshots.lookup "snapshot_1" = some snapshot ∧
        snapshot.snapshotRef = "snapshot_1" ∧
        snapshot.baseImageSha256 = workshop.baseImageSha256 := by
  have hkept : NoSourceRemoved clonedPool.steps := by
    intro before e after snapshotRef t snapshot hsteps hx
    exact absurd hx (not_mem_of_all (p := ManagerEvent.isRemoval) rfl hsteps rfl)
  exact ⟨hkept, rfl, clones_name_snapshots exampleManager clonedPool clonedPool_reachable hkept
    "environment_1" workshop rfl⟩

def removeSource : List ManagerMove :=
  takeBaseline ++ [.spawn (.cloneEnvironment "snapshot_1"), .run 1 .none, .run 1 .none,
    .spawn (.removeSnapshot "snapshot_1"), .run 2 .none, .run 2 .none,
    .run 1 (.provisioned (.ok workshop)), .run 1 .none, .run 1 .none]

theorem removeSource_run : ((Pool.start .empty).run exampleManager.system removeSource).isSome :=
  rfl

def orphanPool : ManagerPool :=
  ((Pool.start .empty).run exampleManager.system removeSource).get removeSource_run

theorem orphanPool_reachable : Reachable exampleManager.system orphanPool :=
  Reachable.of_run rfl removeSource_run

/-- The clone is kept although its snapshot is gone. -/
theorem clone_orphaned :
    ∃ c : ManagerPool, Reachable exampleManager.system c ∧
      c.shared.clones.lookup "environment_1" = some workshop ∧
      c.shared.snapshots.lookup workshop.snapshotRef = none :=
  ⟨orphanPool, orphanPool_reachable, rfl, rfl⟩

/-- A snapshot call is dropped while the provider works; the next one is busy. -/
def dropSnapshot : List ManagerMove :=
  [.spawn (.snapshot "worker" "epoch" "baseline"), .run 0 .none, .run 0 .dropFuture,
    .spawn (.snapshot "worker" "epoch" "baseline"), .run 1 .none, .run 1 .none]

theorem dropSnapshot_run : ((Pool.start .empty).run exampleManager.system dropSnapshot).isSome :=
  rfl

def droppedPool : ManagerPool :=
  ((Pool.start .empty).run exampleManager.system dropSnapshot).get dropSnapshot_run

theorem droppedPool_reachable : Reachable exampleManager.system droppedPool :=
  Reachable.of_run rfl dropSnapshot_run

/-- The reservation of a dropped call is never given back, and the manager stays busy. -/
theorem droppedSnapshot_leaks :
    ∃ c : ManagerPool, Reachable exampleManager.system c ∧
      (∀ t < c.tasks.length, c.finished t = true) ∧ c.shared.snapshots.size = 0 ∧
      running CallView.snapshot c = 0 ∧ c.shared.pendingSnapshots = 1 ∧
      Occurs (.returned (.snapshot "worker" "epoch" "baseline") (.error .busy)) c.steps :=
  ⟨droppedPool, droppedPool_reachable, by decide, rfl, rfl, rfl, _,
    .tail _ (.tail _ (.tail _ (.head _))),
    .head _⟩

end NexusCua.Host
