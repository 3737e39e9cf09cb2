import NexusCua.Runtime.GuardEffect

/-!
# User takeover

The counting, latching and admission results about the guards of one session,
by induction over the recorded steps of an arbitrary interleaving of calls on
them, drops, the closing of the session and the passing of time.
-/

namespace NexusCua.Runtime

open NexusCua.Foundation NexusCua.Protocol

variable {mayClose : Bool}

/-! ## Runs of the guards -/

abbrev GuardStep := Step GuardCell GuardEvent

abbrev GuardRun (s₀ : GuardCell) (steps : List GuardStep) (s : GuardCell) : Prop :=
  Lawful (guardContract true) guardSystem.env s₀ steps s

variable {e : GuardStep}

theorem guard_permitted {before : List GuardStep}
    (he : Permitted (guardContract true) guardSystem.env before e) :
    (e.task = none ∧ e.events = [] ∧
        ∃ elapsed, e.post = { e.pre with now := e.pre.now + elapsed }) ∨
      ∃ t, e.task = some t ∧ GuardEffect true (history t before) e.pre e.events e.post := by
  refine he.cases.imp_left ?_
  rintro ⟨ht, hevents, elapsed, henv⟩
  exact ⟨ht, hevents, elapsed, (Option.some.inj henv).symm⟩

/-- Time passes, authority only ends, and the first interruption cause stays. -/
structure Later (s s' : GuardCell) : Prop where
  now_le : s.now ≤ s'.now
  expiresAt_eq : s'.expiresAt = s.expiresAt
  closed : s.closed = true → s'.closed = true
  interruption : ∀ cause, s.interruption = some cause → s'.interruption = some cause

theorem Later.refl (s : GuardCell) : Later s s := ⟨le_rfl, rfl, id, fun _ h => h⟩

theorem Later.trans (s s' s'' : GuardCell) (h : Later s s') (h' : Later s' s'') : Later s s'' where
  now_le := h.now_le.trans h'.now_le
  expiresAt_eq := h'.expiresAt_eq.trans h.expiresAt_eq
  closed hc := h'.closed (h.closed hc)
  interruption cause hi := h'.interruption cause (h.interruption cause hi)

theorem GuardEffect.later {h es : List GuardEvent} {s s' : GuardCell}
    (he : GuardEffect mayClose h s es s') : Later s s' := by
  cases he with
  | latch => exact ⟨le_rfl, rfl, id, fun cause hi => by simp [hi]⟩
  | close => exact ⟨le_rfl, rfl, fun _ => rfl, fun _ hi => hi⟩
  | _ => exact ⟨le_rfl, rfl, id, fun _ hi => hi⟩

theorem permitted_later {before : List GuardStep}
    (he : Permitted (guardContract true) guardSystem.env before e) : Later e.pre e.post := by
  rcases guard_permitted he with ⟨-, -, elapsed, hpost⟩ | ⟨t, -, heffect⟩
  · rw [hpost]
    exact ⟨Nat.le_add_right _ _, rfl, id, fun _ hi => hi⟩
  · exact heffect.later

variable {s₀ s : GuardCell}

theorem GuardRun.later {before after : List GuardStep}
    (hr : GuardRun s₀ (before ++ e :: after) s) : Later e.pre s ∧ Later e.post s :=
  hr.related Later.refl Later.trans fun _ _ _ => permitted_later

/-! ## Counting dispatches -/

def DispatchedIn (steps : List GuardStep) (lease : Nat) : Prop :=
  ∃ e ∈ steps, ∃ guard : DriverActionGuard, .dispatched guard ∈ e.events ∧ guard.lease = lease

theorem dispatchedIn_snoc (steps : List GuardStep) (e : GuardStep) (lease : Nat) :
    DispatchedIn (steps ++ [e]) lease ↔ DispatchedIn steps lease ∨
      ∃ guard : DriverActionGuard, .dispatched guard ∈ e.events ∧ guard.lease = lease := by
  simp only [DispatchedIn, List.mem_append, List.mem_singleton]
  constructor
  · rintro ⟨f, hf | rfl, guard, hg, hl⟩
    · exact .inl ⟨f, hf, guard, hg, hl⟩
    · exact .inr ⟨guard, hg, hl⟩
  · rintro (⟨f, hf, guard, hg, hl⟩ | ⟨guard, hg, hl⟩)
    · exact ⟨f, .inl hf, guard, hg, hl⟩
    · exact ⟨e, .inr rfl, guard, hg, hl⟩

structure Counted (steps : List GuardStep) (s : GuardCell) : Prop where
  fresh : ∀ lease l, s.leases.lookup lease = some l → lease < s.nextLease
  active : s.activity.activeDispatches = s.leases.count (·.dispatched)
  flagged : ∀ lease l, s.leases.lookup lease = some l →
    (l.dispatched = true ↔ DispatchedIn steps lease)
  old : ∀ lease, DispatchedIn steps lease → lease < s.nextLease

namespace Counted

variable {steps : List GuardStep} {s s' : GuardCell} {e : GuardStep}

section

variable (hs : Counted steps s)
include hs

section

variable (he : ∀ guard, .dispatched guard ∉ e.events)
include he

theorem of_flags
    (hfresh : ∀ lease l, s'.leases.lookup lease = some l → lease < s'.nextLease)
    (hactive : s'.activity.activeDispatches = s'.leases.count (·.dispatched))
    (hflag : ∀ lease l, s'.leases.lookup lease = some l →
      (l.dispatched = true ↔ DispatchedIn steps lease))
    (hnext : s.nextLease ≤ s'.nextLease) : Counted (steps ++ [e]) s' := by
  have hsnoc : ∀ lease, DispatchedIn (steps ++ [e]) lease ↔ DispatchedIn steps lease := by
    intro lease
    rw [dispatchedIn_snoc, or_iff_left]
    rintro ⟨guard, hg, -⟩
    exact he guard hg
  refine ⟨hfresh, hactive, fun lease l hl => ?_, fun lease hl => ?_⟩
  · rw [hsnoc]
    exact hflag lease l hl
  · exact (hs.old lease ((hsnoc lease).mp hl)).trans_le hnext

theorem of_same
    (hactivity : s'.activity.activeDispatches = s.activity.activeDispatches)
    (hleases : s'.leases = s.leases) (hnext : s'.nextLease = s.nextLease) :
    Counted (steps ++ [e]) s' := by
  refine hs.of_flags he ?_ ?_ ?_ hnext.ge
  · rw [hleases, hnext]
    exact hs.fresh
  · rw [hactivity, hleases]
    exact hs.active
  · rw [hleases]
    exact hs.flagged

theorem newLease :
    Counted (steps ++ [e]) s.newLease := by
  have hnew : s.leases.lookup s.nextLease = none := by
    cases hl : s.leases.lookup s.nextLease with
    | none => rfl
    | some l => exact absurd (hs.fresh _ l hl) (lt_irrefl _)
  refine hs.of_flags he (fun lease l hl => ?_) ?_ (fun lease l hl => ?_) (Nat.le_succ _)
  · simp only [GuardCell.newLease, Table.lookup_insert_eq] at hl ⊢
    split at hl
    · omega
    · have := hs.fresh lease l hl
      omega
  · simp [GuardCell.newLease, Table.count_insert_of_lookup_none hnew, hs.active]
  · simp only [GuardCell.newLease, Table.lookup_insert_eq] at hl
    split at hl
    · cases hl
      subst lease
      exact ⟨by simp, fun hd => absurd (hs.old _ hd) (lt_irrefl _)⟩
    · exact hs.flagged lease l hl

theorem owners
    (lease₀ : Nat) {f : DispatchLease → DispatchLease}
    (hf : ∀ l, (f l).dispatched = l.dispatched) :
    Counted (steps ++ [e]) { s with leases := s.leases.modify lease₀ f } := by
  have hlookup : ∀ lease l, (s.leases.modify lease₀ f).lookup lease = some l →
      ∃ l₀, s.leases.lookup lease = some l₀ ∧ l.dispatched = l₀.dispatched := by
    intro lease l hl
    rw [Table.lookup_modify] at hl
    split at hl
    · obtain ⟨l₀, hl₀, rfl⟩ := Option.map_eq_some_iff.mp hl
      exact ⟨l₀, hl₀, hf l₀⟩
    · exact ⟨l, hl, rfl⟩
  refine hs.of_flags he (fun lease l hl => ?_) ?_ (fun lease l hl => ?_) le_rfl
  · obtain ⟨l₀, hl₀, -⟩ := hlookup lease l hl
    exact hs.fresh lease l₀ hl₀
  · rw [Table.modify, Table.count_mapValues_of_eq]
    · exact hs.active
    · intro k v
      split
      · exact hf v
      · rfl
  · obtain ⟨l₀, hl₀, hd⟩ := hlookup lease l hl
    rw [hd]
    exact hs.flagged lease l₀ hl₀

theorem erase
    {lease₀ : Nat} {l₀ : DispatchLease} (hl₀ : s.leases.lookup lease₀ = some l₀)
    {activity : InputActivity}
    (hactivity : activity.activeDispatches =
      s.activity.activeDispatches - if l₀.dispatched then 1 else 0) :
    Counted (steps ++ [e])
      { s with activity := activity, leases := s.leases.erase lease₀ } := by
  have hlookup : ∀ lease l, (s.leases.erase lease₀).lookup lease = some l →
      s.leases.lookup lease = some l := by
    intro lease l hl
    rw [Table.lookup_erase_eq] at hl
    split at hl
    · contradiction
    · exact hl
  refine hs.of_flags he (fun lease l hl => hs.fresh lease l (hlookup lease l hl)) ?_
    (fun lease l hl => hs.flagged lease l (hlookup lease l hl)) le_rfl
  have hcount := Table.count_erase_of_lookup hl₀ (·.dispatched)
  simp only [hactivity, hs.active]
  omega

end

end

theorem dispatch (hs : Counted steps e.pre) {guard : DriverActionGuard} {l₀ : DispatchLease}
    (he : e.events = [.dispatched guard]) (hl₀ : e.pre.leases.lookup guard.lease = some l₀)
    (hd : l₀.dispatched = false) :
    Counted (steps ++ [e]) (DriverActionGuard.commitDispatch e.pre guard.lease) := by
  have hsnoc : ∀ lease, DispatchedIn (steps ++ [e]) lease ↔
      DispatchedIn steps lease ∨ guard.lease = lease := by
    intro lease
    simp [dispatchedIn_snoc, he]
  have hlookup : ∀ lease l, (DriverActionGuard.commitDispatch e.pre guard.lease).leases.lookup
      lease = some l → ∃ l₀, e.pre.leases.lookup lease = some l₀ ∧
        l.dispatched = (l₀.dispatched || decide (guard.lease = lease)) := by
    intro lease l hl
    simp only [DriverActionGuard.commitDispatch, Table.lookup_modify] at hl
    split at hl
    · obtain ⟨l₁, hl₁, rfl⟩ := Option.map_eq_some_iff.mp hl
      exact ⟨l₁, hl₁, by simp [*]⟩
    · rename_i hne
      exact ⟨l, hl, by simp [Ne.symm hne]⟩
  refine ⟨fun lease l hl => ?_, ?_, fun lease l hl => ?_, fun lease hl => ?_⟩
  · obtain ⟨l₁, hl₁, -⟩ := hlookup lease l hl
    exact hs.fresh lease l₁ hl₁
  · have hcount := Table.count_modify hl₀ (fun l => { l with dispatched := true }) (·.dispatched)
    simp only [hd, Bool.false_eq_true, if_false, if_true] at hcount
    simp only [DriverActionGuard.commitDispatch, hs.active]
    omega
  · obtain ⟨l₁, hl₁, hflag⟩ := hlookup lease l hl
    rw [hsnoc, hflag, ← hs.flagged lease l₁ hl₁]
    simp
  · rcases (hsnoc lease).mp hl with hold | rfl
    · exact hs.old lease hold
    · exact hs.fresh _ _ hl₀

end Counted

variable {event : GuardEvent}

theorem Truthful.not_dispatched {h : List GuardEvent} {s : GuardCell}
    (he : Truthful h s event) (guard : DriverActionGuard) : event ≠ .dispatched guard := by
  rintro rfl
  exact he

variable {steps : List GuardStep}

theorem Counted.step (hs : Counted steps e.pre)
    {h : List GuardEvent} (he : GuardEffect mayClose h e.pre e.events e.post) :
    Counted (steps ++ [e]) e.post := by
  obtain ⟨task, s, es, s'⟩ := e
  dsimp only at hs he ⊢
  cases he with
  | silent => exact hs.of_same (by simp) rfl rfl rfl
  | saw hevent =>
      exact hs.of_same (by simpa using fun guard => hevent.not_dispatched guard ∘ Eq.symm)
        rfl rfl rfl
  | actionGuard => exact hs.newLease (by simp)
  | owners hf => exact hs.owners (by simp) _ hf
  | dropUnused hl hd => exact hs.erase (by simp) hl (by simp [hd])
  | retire hl hd hu => exact hs.erase (by simp) hl (by simp [hd])
  | lock hu => exact hs.of_same (by simp) rfl rfl rfl
  | record hu => exact hs.of_same (by simp) rfl rfl rfl
  | unlock hv => exact hs.of_same (by simp) rfl rfl rfl
  | inputReleased hu => exact hs.of_same (by simp) rfl rfl rfl
  | latch => exact hs.of_same (by simp) rfl rfl rfl
  | dispatch hv ho hx hi hl hd hobs hq => exact Counted.dispatch hs rfl hl hd
  | close => exact hs.of_same (by simp) rfl rfl rfl

theorem GuardRun.counted (hr : GuardRun s₀ steps s)
    (h₀ : guardSystem.init s₀) : Counted steps s := by
  refine hr.invariant ?_ fun before e _ hs he => ?_
  · obtain ⟨now, expiresAt, rfl⟩ := h₀
    exact ⟨by simp [GuardCell.initial],
      by simp [GuardCell.initial, InputActivity.initial, Table.count],
      by simp [GuardCell.initial], by simp [DispatchedIn]⟩
  · rcases guard_permitted he with ⟨-, hevents, elapsed, hpost⟩ | ⟨t, -, heffect⟩
    · exact hs.of_same (by simp [hevents]) (by simp [hpost]) (by simp [hpost]) (by simp [hpost])
    · exact hs.step heffect

/-! ## The activity mutex -/

section Mutex

variable {h es : List GuardEvent} {s s' : GuardCell} {v v' : HeldView}

theorem heldView_snoc (h : List GuardEvent) (x : GuardEvent) :
    heldView (h ++ [x]) = HeldView.next (heldView h) x := by
  simp [heldView_append]

theorem GuardEffect.other_holds (he : GuardEffect mayClose h s es s') (hl : s.activityLocked = true)
    (hh : heldView h = none) : s'.activityLocked = true ∧ s'.activity = s.activity := by
  cases he <;> simp_all [GuardCell.newLease]

theorem Truthful.next_none (he : Truthful h s event) :
    HeldView.next none event = none := by
  cases event <;> first | exact False.elim he | simp [HeldView.next]

theorem Truthful.next_activity (he : Truthful h s event)
    (hv : HeldView.next (some v) event = some v') : v'.activity = v.activity := by
  cases event with
  | sawClosed closed =>
      cases closed <;> cases hv <;> rfl
  | sawExpired expired =>
      cases expired <;> cases hv <;> rfl
  | sawInterruption cause =>
      cases cause <;> cases hv <;> rfl
  | _ => first | exact False.elim he | (cases hv; rfl)

theorem GuardEffect.takes (he : GuardEffect mayClose h s es s') (hh : heldView h = none)
    (hv : heldView (h ++ es) = some v) : s.activityLocked = false := by
  cases he with
  | lock hu => exact hu
  | record hu => exact hu
  | retire _ _ hu => exact hu
  | inputReleased hu => exact hu
  | saw hevent => simp [heldView_snoc, hh, hevent.next_none] at hv
  | _ => simp_all [heldView_append, HeldView.next]

def Holds (s : GuardCell) (v : HeldView) : Prop :=
  s.activityLocked = true ∧ s.activity = v.activity

theorem GuardEffect.holds (he : GuardEffect mayClose h s es s')
    (hh : ∀ v, heldView h = some v → Holds s v)
    (hv : heldView (h ++ es) = some v') : Holds s' v' := by
  cases he with
  | lock hu =>
      rw [heldView_snoc] at hv
      cases hv
      exact ⟨rfl, rfl⟩
  | record hu =>
      rw [heldView_append] at hv
      cases hv
      exact ⟨rfl, rfl⟩
  | unlock _ =>
      rw [heldView_snoc] at hv
      contradiction
  | inputReleased hu =>
      rw [List.append_nil] at hv
      simp [(hh v' hv).1] at hu
  | saw hevent =>
      rw [heldView_snoc] at hv
      cases hold : heldView h with
      | none => simp [hold, hevent.next_none] at hv
      | some v =>
          rw [hold] at hv
          exact ⟨(hh v hold).1, (hh v hold).2.trans (hevent.next_activity hv).symm⟩
  | dispatch hold _ _ _ _ _ _ _ =>
      rw [heldView_snoc, hold] at hv
      cases hv
      obtain ⟨hl, ha⟩ := hh _ hold
      exact ⟨hl, by simp [DriverActionGuard.commitDispatch, ha]⟩
  | retire _ _ hu =>
      cases hold : heldView h with
      | none => simp [heldView_snoc, hold, HeldView.next] at hv
      | some held => simp [(hh held hold).1] at hu
  | latch =>
      cases hold : heldView h with
      | none => simp [heldView_snoc, hold, HeldView.next] at hv
      | some v =>
          rw [heldView_snoc, hold] at hv
          cases hv
          exact hh _ hold
  | _ =>
      rw [List.append_nil] at hv
      exact hh v' hv

/-- The check the holder made since it took the mutex, with what it saw there. -/
def Seen (t : Nat) (steps : List GuardStep) (v : HeldView) : Prop :=
  ∃ before e after, steps = before ++ e :: after ∧ e.task = some t ∧ e.pre.closed = false ∧
    e.pre.activity.inputHeld = v.activity.inputHeld ∧
    e.pre.activity.lastInput = v.activity.lastInput ∧
    (v.sawUnexpired = true → e.pre.now < e.pre.expiresAt) ∧
    (v.sawUninterrupted = true → e.pre.interruption = none)

theorem Seen.extend {t : Nat} (hs : Seen t steps v) (e : GuardStep) :
    Seen t (steps ++ [e]) v := by
  obtain ⟨before, f, after, rfl, hf⟩ := hs
  exact ⟨before, f, after ++ [e], by simp, hf⟩

end Mutex

/-- The mutex has one holder, who knows the activity and has made the checks it recorded. -/
structure Exclusive (steps : List GuardStep) (s : GuardCell) : Prop where
  holds : ∀ t v, heldView (history t steps) = some v → Holds s v
  alone : ∀ t u v w, heldView (history t steps) = some v →
    heldView (history u steps) = some w → t = u
  seen : ∀ t v, heldView (history t steps) = some v → v.sawOpen = true → Seen t steps v

namespace Exclusive

variable {steps : List GuardStep} {e : GuardStep} {t : Nat}

theorem seen_step {s₀ : GuardCell} (hr : GuardRun s₀ steps e.pre) (hs : Exclusive steps e.pre)
    (ht : e.task = some t) (he : GuardEffect mayClose (history t steps) e.pre e.events e.post)
    {v' : HeldView} (hv : heldView (history t steps ++ e.events) = some v')
    (hopen : v'.sawOpen = true) : Seen t (steps ++ [e]) v' := by
  obtain ⟨task, s, es, s'⟩ := e
  dsimp only at hr hs ht he hv
  have hkeep : ∀ v, heldView (history t steps) = some v → v.sawOpen = true →
      v.activity.inputHeld = v'.activity.inputHeld →
      v.activity.lastInput = v'.activity.lastInput →
      (v'.sawUnexpired = true → v.sawUnexpired = true ∨ s.now < s.expiresAt) →
      (v'.sawUninterrupted = true → v.sawUninterrupted = true ∨ s.interruption = none) →
      Seen t (steps ++ [⟨task, s, es, s'⟩]) v' := by
    intro v hv hopen hheld hlast hexpired hcause
    obtain ⟨before, f, after, rfl, hf, hclosed, hfh, hfl, hfe, hfi⟩ := hs.seen t v hv hopen
    have hlater := (GuardRun.later hr).1
    refine ⟨before, f, after ++ [⟨task, s, es, s'⟩], by simp, hf, hclosed, hfh.trans hheld,
      hfl.trans hlast, fun h => ?_, fun h => ?_⟩
    · rcases hexpired h with h | h
      · exact hfe h
      · have := hlater.now_le
        rw [hlater.expiresAt_eq] at h
        omega
    · rcases hcause h with h | h
      · exact hfi h
      · cases hcause : f.pre.interruption with
        | none => rfl
        | some cause => simp [hlater.interruption cause hcause] at h
  cases he with
  | lock hu =>
      rw [heldView_snoc] at hv
      cases hv
      contradiction
  | record hu =>
      rw [heldView_append] at hv
      cases hv
      contradiction
  | unlock _ =>
      rw [heldView_snoc] at hv
      contradiction
  | dispatch hold _ _ _ _ _ _ _ =>
      rw [heldView_snoc, hold] at hv
      cases hv
      exact hkeep _ hold hopen rfl rfl .inl .inl
  | saw hevent =>
      rw [heldView_snoc] at hv
      cases hold : heldView (history t steps) with
      | none => simp [hold, hevent.next_none] at hv
      | some v =>
          rw [hold] at hv
          have hactivity := (hs.holds t v hold).2
          rename_i event
          cases event with
          | sawClosed closed =>
              cases closed with
              | false =>
                  cases hv
                  exact ⟨steps, _, [], rfl, ht, Eq.symm hevent, congrArg _ hactivity,
                    congrArg _ hactivity, by simp, by simp⟩
              | true =>
                  cases hv
                  exact hkeep _ hold hopen rfl rfl .inl .inl
          | sawExpired expired =>
              cases expired with
              | false =>
                  cases hv
                  refine hkeep _ hold hopen rfl rfl (fun _ => .inr ?_) .inl
                  simpa [Truthful] using hevent
              | true =>
                  cases hv
                  exact hkeep _ hold hopen rfl rfl .inl .inl
          | sawInterruption cause =>
              cases cause with
              | none =>
                  cases hv
                  exact hkeep _ hold hopen rfl rfl .inl fun _ => .inr (Eq.symm hevent)
              | some cause =>
                  cases hv
                  exact hkeep _ hold hopen rfl rfl .inl .inl
          | _ =>
              first
              | exact False.elim hevent
              | cases hv
                exact hkeep _ hold hopen rfl rfl .inl .inl
  | retire _ _ hu =>
      cases hold : heldView (history t steps) with
      | none => simp [heldView_snoc, hold, HeldView.next] at hv
      | some held => simp [(hs.holds t held hold).1] at hu
  | latch =>
      cases hold : heldView (history t steps) with
      | none => simp [heldView_snoc, hold, HeldView.next] at hv
      | some held =>
          rw [heldView_snoc, hold] at hv
          cases hv
          exact hkeep _ hold hopen rfl rfl .inl .inl
  | _ =>
      rw [List.append_nil] at hv
      exact hkeep v' hv hopen rfl rfl .inl .inl

theorem step {s₀ : GuardCell} (hr : GuardRun s₀ steps e.pre) (hs : Exclusive steps e.pre)
    (ht : e.task = some t) (he : GuardEffect mayClose (history t steps) e.pre e.events e.post) :
    Exclusive (steps ++ [e]) e.post := by
  have hown : history t (steps ++ [e]) = history t steps ++ e.events := by
    obtain ⟨task, s, es, s'⟩ := e
    obtain rfl : task = some t := ht
    exact history_snoc_self t steps s s' es
  have hother : ∀ u, u ≠ t → history u (steps ++ [e]) = history u steps := fun u hu =>
    history_snoc_other steps (by simpa [ht] using Ne.symm hu)
  -- A task that holds the mutex beside the running one rules out that the latter held or took it.
  have halone : ∀ u v w, u ≠ t → heldView (history u steps) = some v →
      heldView (history t steps ++ e.events) = some w → False := by
    intro u v w hu hv hw
    cases hold : heldView (history t steps) with
    | none =>
        have hfree := he.takes hold hw
        simp [(hs.holds u v hv).1] at hfree
    | some x => exact hu (hs.alone u t v x hv hold)
  refine ⟨fun u v hv => ?_, fun u w v x hv hx => ?_, fun u v hv hopen => ?_⟩
  · by_cases hu : u = t
    · subst hu
      rw [hown] at hv
      exact he.holds (hs.holds u) hv
    · rw [hother u hu] at hv
      have hheld := hs.holds u v hv
      cases hold : heldView (history t steps) with
      | none =>
          obtain ⟨hl, ha⟩ := he.other_holds hheld.1 hold
          exact ⟨hl, ha.trans hheld.2⟩
      | some x => exact absurd (hs.alone u t v x hv hold) hu
  · by_cases hu : u = t <;> by_cases hw : w = t
    · exact hu.trans hw.symm
    · subst hu
      rw [hown] at hv
      rw [hother w hw] at hx
      exact (halone w x v hw hx hv).elim
    · subst hw
      rw [hown] at hx
      rw [hother u hu] at hv
      exact (halone u v x hu hv hx).elim
    · rw [hother u hu] at hv
      rw [hother w hw] at hx
      exact hs.alone u w v x hv hx
  · by_cases hu : u = t
    · subst hu
      rw [hown] at hv
      exact seen_step hr hs ht he hv hopen
    · rw [hother u hu] at hv
      exact (hs.seen u v hv hopen).extend e

end Exclusive

theorem GuardRun.exclusive
    (hr : GuardRun s₀ steps s) : Exclusive steps s := by
  refine hr.invariant ?_ fun before e hbefore hs he => ?_
  · exact ⟨by simp [heldView], by simp [heldView], by simp [heldView]⟩
  · rcases guard_permitted he with ⟨ht, -, elapsed, hpost⟩ | ⟨t, ht, heffect⟩
    · have hsame : ∀ u, history u (before ++ [e]) = history u before := fun u =>
        history_snoc_other before (by simp [ht])
      refine ⟨fun u v hv => ?_, fun u w v x hv hx => ?_, fun u v hv hopen => ?_⟩
      · rw [hsame] at hv
        simpa [hpost, Holds] using hs.holds u v hv
      · rw [hsame] at hv hx
        exact hs.alone u w v x hv hx
      · rw [hsame] at hv
        exact (hs.seen u v hv hopen).extend e
    · exact hs.step hbefore ht heffect

/-! ## What an event says about the step that reports it -/

def GuardEvent.Means (h : List GuardEvent) (s s' : GuardCell) : GuardEvent → Prop
  | .locked _ | .unlocked => True
  | .retired lease => ∃ l, s.leases.lookup lease = some l ∧ l.dispatched = true
  | .inputRecorded live => live = decide (s.activity.activeDispatches ≠ 0)
  | .latched _ => ∃ cause, s'.interruption = some cause
  | .dispatched guard => ∃ v l, heldView h = some v ∧ v.sawOpen = true ∧
      v.sawUnexpired = true ∧ v.sawUninterrupted = true ∧
      s.leases.lookup guard.lease = some l ∧ l.dispatched = false ∧
      s.activity.checkObservation guard.observedAt = .ok () ∧
      s.activity.remainingQuiet inputQuietPeriod s.now = 0
  | x => Truthful h s x

theorem GuardEffect.means {h es : List GuardEvent} {s s' : GuardCell} {x : GuardEvent}
    (he : GuardEffect mayClose h s es s') (hx : x ∈ es) : x.Means h s s' := by
  cases he with
  | saw hevent =>
      obtain rfl := List.mem_singleton.mp hx
      cases x <;> first | exact hevent | exact hevent.elim
  | record hu =>
      rcases List.mem_cons.mp hx with rfl | hx
      · trivial
      · obtain rfl := List.mem_singleton.mp hx
        rfl
  | lock | unlock =>
      obtain rfl := List.mem_singleton.mp hx
      trivial
  | retire hl hd _ =>
      obtain rfl := List.mem_singleton.mp hx
      exact ⟨_, hl, hd⟩
  | latch =>
      obtain rfl := List.mem_singleton.mp hx
      cases hi : s.interruption <;> exact ⟨_, rfl⟩
  | dispatch hv ho hx' hi hl hd hobs hq =>
      obtain rfl := List.mem_singleton.mp hx
      exact ⟨_, _, hv, ho, hx', hi, hl, hd, hobs, hq⟩
  | _ => simp at hx

theorem InputActivity.quiet_of_remainingQuiet {activity : InputActivity} {now : Nat}
    (hq : activity.remainingQuiet inputQuietPeriod now = 0) :
    activity.inputHeld = false ∧
      ∀ last, activity.lastInput = some last → inputQuietPeriod ≤ now - last := by
  simp only [InputActivity.remainingQuiet] at hq
  split at hq
  · contradiction
  · refine ⟨by simpa using ‹¬activity.inputHeld = true›, fun last hlast => ?_⟩
    simp only [hlast] at hq
    omega

theorem InputActivity.before_of_checkObservation {activity : InputActivity}
    {observedAt : Option Nat} (hobs : activity.checkObservation observedAt = .ok ())
    {last observed : Nat} (hlast : activity.lastInput = some last)
    (hobserved : observedAt = some observed) : last < observed := by
  simp only [InputActivity.checkObservation, hlast, hobserved] at hobs
  split at hobs
  · contradiction
  · omega

/-! ## The takeover guard -/

/-- A dispatch is live: a lease that has dispatched has not been dropped yet. -/
def DispatchLive (s : GuardCell) : Prop :=
  ∃ lease l, s.leases.lookup lease = some l ∧ l.dispatched = true

/-- The state in which the admitting check read the closed flag, and the state of the dispatch. -/
structure AdmittedFrom (guard : DriverActionGuard) (checked dispatched : GuardCell) : Prop where
  isOpen : checked.closed = false
  unexpired : checked.now < checked.expiresAt
  uninterrupted : checked.interruption = none
  notHeld : checked.activity.inputHeld = false ∧ dispatched.activity.inputHeld = false
  sameInput : checked.activity.lastInput = dispatched.activity.lastInput
  quiet : ∀ last, dispatched.activity.lastInput = some last →
    inputQuietPeriod ≤ dispatched.now - last
  fresh : ∀ last observed, dispatched.activity.lastInput = some last →
    guard.observedAt = some observed → last < observed

/-- The guard of a session after the recorded `steps`, which led to `s`. -/
structure TakeoverGuard (steps : List GuardStep) (s : GuardCell) : Prop where
  active : s.activity.activeDispatches = s.leases.count (·.dispatched)
  noUnderflow : ∀ e ∈ steps, ∀ lease, .retired lease ∈ e.events →
    1 ≤ e.pre.activity.activeDispatches
  latched : ∀ e ∈ steps, ∀ cause, e.pre.interruption = some cause →
    e.post.interruption = some cause ∧ s.interruption = some cause
  takeover : ∀ before e after t live guard inputHeld outcome,
    steps = before ++ e :: after → e.task = some t → .inputRecorded live ∈ e.events →
    DispatchLive e.pre →
    ∀ mid f rest u call, after = mid ++ f :: rest →
      .returned (.recordUserInputState guard inputHeld) outcome ∈ history t mid →
      f.task = some u → .invoked call ∈ f.events →
      (∃ guard', call = .check guard' ∨ call = .beginDispatch guard') →
      .returned call (.ok ()) ∉ history u steps
  admitted : ∀ before e after guard, steps = before ++ e :: after →
    .dispatched guard ∈ e.events → ¬ DispatchedIn before guard.lease ∧
      ∃ earlier a between, before = earlier ++ a :: between ∧ a.task = e.task ∧
        AdmittedFrom guard a.pre e.pre
  succeeded : ∀ t guard, .returned (.beginDispatch guard) (.ok ()) ∈ history t steps →
    DispatchedIn steps guard.lease
  disposition : ∀ before e after lease error, steps = before ++ e :: after →
    .checkFailed lease error ∈ e.events →
    (error.mutationStatus = .notDispatched ↔ ¬ DispatchedIn before lease) ∧
      (error.mutationStatus = .indeterminate ↔ DispatchedIn before lease)
  reported : ∀ t guard error, .returned (.check guard) (.error error) ∈ history t steps →
    .checkFailed guard.lease error ∈ history t steps

namespace GuardRun

variable {s₀ s : GuardCell} {before after steps : List GuardStep} {e : GuardStep}

theorem effect (hr : GuardRun s₀ (before ++ e :: after) s) {x : GuardEvent} (hx : x ∈ e.events) :
    ∃ t, e.task = some t ∧ GuardEffect true (history t before) e.pre e.events e.post := by
  rcases guard_permitted hr.at_step.2 with ⟨-, hevents, -⟩ | heffect
  · simp [hevents] at hx
  · exact heffect

variable {t : Nat}

theorem effect_of_task (hr : GuardRun s₀ (before ++ e :: after) s)
    (ht : e.task = some t) : GuardEffect true (history t before) e.pre e.events e.post := by
  rcases guard_permitted hr.at_step.2 with ⟨hnone, -⟩ | ⟨u, hu, heffect⟩
  · simp [ht] at hnone
  · rw [ht] at hu
    cases hu
    exact heffect

variable {outcome : Except DriverError Unit}

theorem returned (hr : GuardRun s₀ steps s) {call : GuardCall}
    (hx : .returned call outcome ∈ history t steps) :
    ∃ before e after, steps = before ++ e :: after ∧ e.task = some t ∧
      ∀ s, Truthful (history t before) s (.returned call outcome) := by
  obtain ⟨before, e, after, rfl, ht, hx⟩ := exists_split_of_mem_history hx
  exact ⟨before, e, after, rfl, ht, fun _ => (hr.effect_of_task ht).means hx⟩

theorem noUnderflow (hr : GuardRun s₀ steps s) (h₀ : guardSystem.init s₀) (he : e ∈ steps)
    {lease : Nat} (hx : .retired lease ∈ e.events) : 1 ≤ e.pre.activity.activeDispatches := by
  obtain ⟨before, after, rfl⟩ := List.append_of_mem he
  obtain ⟨t, -, heffect⟩ := hr.effect hx
  obtain ⟨l, hl, hd⟩ := heffect.means hx
  have hcounted := GuardRun.counted hr.at_step.1 h₀
  rw [hcounted.active, Table.count_erase_of_lookup hl]
  simp [hd]

theorem latched (hr : GuardRun s₀ steps s) (he : e ∈ steps) {cause : InterruptionCause}
    (hi : e.pre.interruption = some cause) :
    e.post.interruption = some cause ∧ s.interruption = some cause := by
  obtain ⟨before, after, rfl⟩ := List.append_of_mem he
  have hlater := GuardRun.later hr
  have hpost := (permitted_later hr.at_step.2).interruption cause hi
  exact ⟨hpost, hlater.2.interruption cause hpost⟩

theorem saw_interruption (hr : GuardRun s₀ (before ++ e :: after) s)
    {cause : InterruptionCause} (hi : e.pre.interruption = some cause)
    (ht : history t before = []) : .sawInterruption none ∉ history t (before ++ e :: after) := by
  intro hx
  rw [history_append, ht, List.nil_append] at hx
  obtain ⟨mid, f, rest, hsplit, hf, hevent⟩ := exists_split_of_mem_history hx
  cases mid with
  | nil =>
      obtain ⟨rfl, rfl⟩ := List.cons.inj hsplit
      have hsaw := (hr.effect_of_task hf).means hevent
      simp [GuardEvent.Means, Truthful, hi] at hsaw
  | cons d mid =>
      obtain ⟨rfl, rfl⟩ := List.cons.inj hsplit
      have hr' : GuardRun s₀ ((before ++ e :: mid) ++ f :: rest) s := by simpa using hr
      have hsaw := (hr'.effect_of_task hf).means hevent
      have hlater := (GuardRun.later hr'.at_step.1).1.interruption cause hi
      simp [GuardEvent.Means, Truthful, hlater] at hsaw

variable {guard : DriverActionGuard}

theorem interrupted (hr : GuardRun s₀ (before ++ e :: after) s) (h₀ : guardSystem.init s₀)
    {live : Bool} (ht : e.task = some t) (hx : .inputRecorded live ∈ e.events)
    (hlive : DispatchLive e.pre) {inputHeld : Bool}
    (hreturned : .returned (.recordUserInputState guard inputHeld) outcome ∈ history t after) :
    ∃ cause, s.interruption = some cause := by
  have hrecorded : live = true := by
    obtain ⟨lease, l, hl, hd⟩ := hlive
    have hcounted := GuardRun.counted hr.at_step.1 h₀
    rw [(hr.effect_of_task ht).means hx, hcounted.active,
      Table.count_erase_of_lookup hl]
    simp [hd]
  obtain ⟨mid, f, rest, rfl, hf, hreturned⟩ := exists_split_of_mem_history hreturned
  have hr' : GuardRun s₀ ((before ++ e :: mid) ++ f :: rest) s := by simpa using hr
  have hown : .inputRecorded true ∈ history t (before ++ e :: mid) :=
    mem_history.mpr ⟨e, by simp, ht, hrecorded ▸ hx⟩
  have hlatched : .latched .userInput ∈ history t (before ++ e :: mid) :=
    (hr'.effect_of_task hf).means hreturned hown
  obtain ⟨b, g, a, hsplit, hg, hlatched⟩ := exists_split_of_mem_history hlatched
  have hr'' : GuardRun s₀ (b ++ g :: (a ++ f :: rest)) s := by
    simpa [hsplit] using hr'
  obtain ⟨cause, hcause⟩ := (hr''.effect_of_task hg).means hlatched
  exact ⟨cause, (GuardRun.later hr'').2.interruption cause hcause⟩

theorem takeover (hr : GuardRun s₀ steps s) (h₀ : guardSystem.init s₀)
    (hsteps : steps = before ++ e :: after) {live : Bool} (ht : e.task = some t)
    (hx : .inputRecorded live ∈ e.events) (hlive : DispatchLive e.pre)
    {mid rest : List GuardStep} {f : GuardStep} {u : Nat} {call : GuardCall}
    {inputHeld : Bool}
    (hafter : after = mid ++ f :: rest)
    (hreturned : .returned (.recordUserInputState guard inputHeld) outcome ∈ history t mid)
    (hu : f.task = some u) (hinvoked : .invoked call ∈ f.events)
    (hcall : ∃ guard', call = .check guard' ∨ call = .beginDispatch guard') :
    .returned call (.ok ()) ∉ history u steps := by
  have hr' : GuardRun s₀ ((before ++ e :: mid) ++ f :: rest) s := by
    simpa [hsteps, hafter] using hr
  obtain ⟨cause, hcause⟩ := GuardRun.interrupted hr'.at_step.1 h₀ ht hx hlive hreturned
  have hfirst : history u (before ++ e :: mid) = [] :=
    (hr'.effect_of_task hu).means hinvoked
  have hnone := hr'.saw_interruption hcause hfirst
  intro hok
  obtain ⟨b, g, a, hsplit, -, htruthful⟩ := GuardRun.returned hr hok
  have hsaw : .sawInterruption none ∈ history u b := by
    obtain ⟨guard', rfl | rfl⟩ := hcall
    · exact ((htruthful s).1 rfl).2
    · exact (htruthful s rfl).2.1
  refine hnone ?_
  rw [show before ++ e :: mid ++ f :: rest = steps by simp [hsteps, hafter], hsplit]
  exact history_subset_append u b (g :: a) hsaw

theorem admitted (hr : GuardRun s₀ (before ++ e :: after) s) (h₀ : guardSystem.init s₀)
    (hx : .dispatched guard ∈ e.events) :
    ¬ DispatchedIn before guard.lease ∧
      ∃ earlier a between, before = earlier ++ a :: between ∧ a.task = e.task ∧
        AdmittedFrom guard a.pre e.pre := by
  obtain ⟨t, ht, heffect⟩ := hr.effect hx
  obtain ⟨v, l, hv, ho, hunexpired, huninterrupted, hl, hd, hobs, hq⟩ := heffect.means hx
  have hexclusive := GuardRun.exclusive hr.at_step.1
  have hheld := (hexclusive.holds t v hv).2
  obtain ⟨earlier, a, between, hsplit, ha, hclosed, hah, hal, hae, hai⟩ :=
    hexclusive.seen t v hv ho
  obtain ⟨hnotHeld, hquiet⟩ := InputActivity.quiet_of_remainingQuiet hq
  refine ⟨?_, earlier, a, between, hsplit, ha.trans ht.symm, ?_⟩
  · rw [← (GuardRun.counted hr.at_step.1 h₀).flagged guard.lease l hl]
    simp [hd]
  · exact {
      isOpen := hclosed
      unexpired := hae hunexpired
      uninterrupted := hai huninterrupted
      notHeld := ⟨by rw [hah, ← hheld, hnotHeld], hnotHeld⟩
      sameInput := by rw [hal, hheld]
      quiet := hquiet
      fresh := fun last observed hlast hobserved =>
        InputActivity.before_of_checkObservation hobs hlast hobserved }

theorem succeeded (hr : GuardRun s₀ steps s) (h₀ : guardSystem.init s₀)
    (hx : .returned (.beginDispatch guard) (.ok ()) ∈ history t steps) :
    DispatchedIn steps guard.lease := by
  obtain ⟨before, e, after, rfl, -, htruthful⟩ := GuardRun.returned hr hx
  have hextend : DispatchedIn before guard.lease →
      DispatchedIn (before ++ e :: after) guard.lease := by
    rintro ⟨f, hf, hdispatched⟩
    exact ⟨f, List.mem_append_left _ hf, hdispatched⟩
  rcases (htruthful s rfl).2.2 with hown | hresumed
  · obtain ⟨f, hf, -, hdispatched⟩ := mem_history.mp hown
    exact hextend ⟨f, hf, guard, hdispatched, rfl⟩
  · obtain ⟨b, f, a, rfl, hf, hresumed⟩ := exists_split_of_mem_history hresumed
    obtain ⟨l, hl, hd⟩ := (GuardRun.effect_of_task hr.at_step.1 hf).means hresumed
    have hdispatched : DispatchedIn b guard.lease :=
      ((GuardRun.counted hr.at_step.1.at_step.1 h₀).flagged guard.lease l hl).mp hd
    obtain ⟨g, hg, hguard⟩ := hdispatched
    exact hextend ⟨g, List.mem_append_left _ hg, hguard⟩

theorem disposition (hr : GuardRun s₀ (before ++ e :: after) s) (h₀ : guardSystem.init s₀)
    {lease : Nat} {error : DriverError} (hx : .checkFailed lease error ∈ e.events) :
    (error.mutationStatus = .notDispatched ↔ ¬ DispatchedIn before lease) ∧
      (error.mutationStatus = .indeterminate ↔ DispatchedIn before lease) := by
  obtain ⟨t, -, heffect⟩ := hr.effect hx
  obtain ⟨l, hl, hstatus⟩ := heffect.means hx
  rw [← (GuardRun.counted hr.at_step.1 h₀).flagged lease l hl, hstatus]
  cases l.dispatched <;> simp

end GuardRun

/--
The guard of a session under every interleaving: dispatches are counted exactly,
the first interruption stays and stops every later check, a dispatch is admitted
only from an open, unexpired, uninterrupted and quiet session, and a failed
check reports whether the guard had dispatched.
-/
theorem takeoverGuard_of_reachable (c : Pool GuardCell Unit GuardEvent)
    (hc : Reachable guardSystem c) : TakeoverGuard c.steps c.shared := by
  obtain ⟨s₀, h₀, hr⟩ := (hc.accounted guardSystem_keeps).lawful
  exact {
    active := (GuardRun.counted hr h₀).active
    noUnderflow := fun _ he _ hx => GuardRun.noUnderflow hr h₀ he hx
    latched := fun _ he _ hi => GuardRun.latched hr he hi
    takeover := fun _ _ _ _ _ _ _ _ hsteps ht hx hlive _ _ _ _ _ hafter hreturned hu hinvoked
      hcall => GuardRun.takeover hr h₀ hsteps ht hx hlive hafter hreturned hu hinvoked hcall
    admitted := fun _ _ _ _ hsteps hx => GuardRun.admitted (hsteps ▸ hr) h₀ hx
    succeeded := fun _ _ hx => GuardRun.succeeded hr h₀ hx
    disposition := fun _ _ _ _ _ hsteps hx => GuardRun.disposition (hsteps ▸ hr) h₀ hx
    reported := fun t guard error hx => by
      obtain ⟨before, e, after, hsplit, -, htruthful⟩ := GuardRun.returned hr hx
      rw [hsplit]
      exact history_subset_append t before (e :: after) ((htruthful c.shared).2 error rfl) }

def takeoverMoves : List (Move Unit GuardCall Nat) :=
  [.spawn .actionGuard, .run 0 (), .run 0 (), .run 0 (), .environment (10 * second),
    .spawn (.beginDispatch ⟨0, some 7⟩), .run 1 (), .run 1 (), .run 1 (), .run 1 (), .run 1 (),
    .run 1 (), .run 1 (), .run 1 (), .run 1 (), .run 1 (),
    .spawn (.recordUserInputState ⟨0, none⟩ true), .run 2 (), .run 2 (), .run 2 (), .run 2 (),
    .run 2 (), .run 2 (), .run 2 (),
    .spawn (.check ⟨0, none⟩), .run 3 (), .run 3 (), .run 3 (), .run 3 (), .run 3 (), .run 3 (),
    .run 3 (), .run 3 ()]

theorem takeoverGuard_after_input :
    ∃ c, Reachable guardSystem c ∧ c.shared.activity.activeDispatches = 1 ∧
      c.shared.interruption = some .userInput ∧ c.finished 3 = true ∧
      TakeoverGuard c.steps c.shared := by
  have hrun : ((Pool.start (.initial 0 (60 * second))).run guardSystem takeoverMoves).isSome :=
    by decide
  have hc := Reachable.of_run (S := guardSystem) ⟨0, 60 * second, rfl⟩ hrun
  exact ⟨_, hc, rfl, rfl, rfl, takeoverGuard_of_reachable _ hc⟩

end NexusCua.Runtime
