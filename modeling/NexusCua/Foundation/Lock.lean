import NexusCua.Foundation.Pool

/-!
# Locks in a pool

A lock is a bit of the shared state; whether a task holds it is read from the
task's own history.  When every block acquires the lock while it is free,
releases what it holds or leaves the lock alone, at most one task holds it.
-/

namespace NexusCua.Foundation

variable {σ ε : Type}

inductive LockStep (locked locked' held held' : Bool) : Prop where
  | acquired (hfree : locked = false) (hlocked : locked' = true) (hnot : held = false)
      (hheld : held' = true)
  | released (hheld : held = true) (hnot : held' = false) (hfree : locked' = false)
  | kept (hlocked : locked' = locked) (hheld : held' = held)

structure MutualExclusion (locked : Bool) (held : Nat → Bool) : Prop where
  unique : ∀ t u, held t = true → held u = true → t = u
  taken : ∀ t, held t = true → locked = true
  holder : locked = true → ∃ t, held t = true

theorem MutualExclusion.step {locked locked' : Bool} {held held' : Nat → Bool} {t : Nat}
    (hx : MutualExclusion locked held) (hstep : LockStep locked locked' (held t) (held' t))
    (hothers : ∀ u, u ≠ t → held' u = held u) : MutualExclusion locked' held' := by
  cases hstep with
  | acquired hfree hlocked hnot hheld =>
      have honly : ∀ u, held' u = true → u = t := by
        intro u hu
        by_contra hne
        have := hx.taken u (hothers u hne ▸ hu)
        simp [hfree] at this
      exact ⟨fun u v hu hv => (honly u hu).trans (honly v hv).symm, fun _ _ => hlocked,
        fun _ => ⟨t, hheld⟩⟩
  | released hheld hnot hfree =>
      have hnone : ∀ u, held' u = false := by
        intro u
        by_contra hu
        have hu : held' u = true := by simpa using hu
        have hne : u ≠ t := by
          rintro rfl
          simp [hnot] at hu
        exact hne (hx.unique u t (hothers u hne ▸ hu) hheld)
      refine ⟨fun u v hu => ?_, fun u hu => ?_, fun hlocked => ?_⟩
      · simp [hnone u] at hu
      · simp [hnone u] at hu
      · simp [hfree] at hlocked
  | kept hlocked hheld =>
      have hsame : ∀ u, held' u = held u := by
        intro u
        by_cases hu : u = t
        · subst hu
          exact hheld
        · exact hothers u hu
      refine ⟨fun u v hu hv => ?_, fun u hu => ?_, fun hl => ?_⟩
      · exact hx.unique u v (hsame u ▸ hu) (hsame v ▸ hv)
      · exact hlocked.trans (hx.taken u (hsame u ▸ hu))
      · obtain ⟨u, hu⟩ := hx.holder (hlocked ▸ hl)
        exact ⟨u, (hsame u).trans hu⟩

namespace Lawful

variable {C : Async.Contract σ ε} {env : σ → σ → Prop} {s₀ s : σ}

theorem exclusive {steps : List (Step σ ε)} (hr : Lawful C env s₀ steps s)
    (locked : σ → Bool) (held : List ε → Bool) (h₀ : locked s₀ = false) (hnil : held [] = false)
    (hblock : ∀ h s es s', C.guarantee h s es s' →
      LockStep (locked s) (locked s') (held h) (held (h ++ es)))
    (henv : ∀ s s', env s s' → locked s' = locked s) :
    MutualExclusion (locked s) fun t => held (history t steps) := by
  refine hr.invariant
    (P := fun steps s => MutualExclusion (locked s) fun t => held (history t steps)) ?_ ?_
  · exact ⟨fun t u ht => by simp [hnil] at ht, fun t ht => by simp [hnil] at ht,
      fun hl => by simp [h₀] at hl⟩
  · intro before e _ hx he
    obtain ⟨task, pre, es, post⟩ := e
    cases task with
    | some t =>
        refine hx.step (t := t) ?_ fun u hu => ?_
        · rw [history_snoc_self]
          exact hblock _ _ _ _ he
        · rw [history_snoc_other _ (by simpa using Ne.symm hu)]
    | none =>
        refine hx.step (t := 0) (.kept (henv _ _ he.1) ?_) fun u _ => ?_ <;>
          rw [history_snoc_other _ (by simp)]

theorem lasts_until {before mid : List (Step σ ε)} {t : Nat}
    (hr : Lawful C env s₀ (before ++ mid) s) (P : List ε → Prop) (ends : ε → Prop)
    (hblock : ∀ h s es s', C.guarantee h s es s' → P h → (∀ x ∈ es, ¬ ends x) → P (h ++ es))
    (hP : P (history t before))
    (hmid : ∀ k ∈ mid, k.task = some t → ∀ x ∈ k.events, ¬ ends x) :
    P (history t (before ++ mid)) := by
  induction mid using List.reverseRecOn generalizing s with
  | nil => simpa using hP
  | append_singleton mid last ih =>
      rw [← List.append_assoc] at hr ⊢
      obtain ⟨-, hrun, hlast⟩ := hr.snoc_inv
      have hbefore := ih hrun fun k hk => hmid k (List.mem_append_left _ hk)
      by_cases ht : last.task = some t
      · obtain ⟨task, pre, es, post⟩ := last
        subst ht
        rw [history_snoc_self]
        exact hblock _ _ _ _ hlast hbefore (hmid _ (List.mem_append_right _ (.head _)) rfl)
      · rwa [history_snoc_other _ ht]

end Lawful

end NexusCua.Foundation
