import NexusCua.Foundation.Pool

/-!
# Counting the tasks of a pool

A counter of the shared state counts the tasks that hold something when every
block moves the counter as it moves the task's own hold.  A block that gives
something back may rely on the counter being positive, since its own task is
counted.
-/

namespace NexusCua.Foundation

variable {σ ε : Type}

/-- How many of the first `n` tasks hold, judged by their own histories. -/
def tally (held : List ε → Bool) (n : Nat) (steps : List (Step σ ε)) : Nat :=
  (List.range n).countP fun t => held (history t steps)

theorem countP_range_update {p q : Nat → Bool} {t n : Nat} (ht : t < n)
    (hothers : ∀ u, u ≠ t → q u = p u) :
    (List.range n).countP q + (p t).toNat = (List.range n).countP p + (q t).toNat := by
  induction n with
  | zero => omega
  | succ n ih =>
      simp only [List.range_succ, List.countP_append, List.countP_singleton]
      by_cases hlast : t = n
      · subst hlast
        have hsame : (List.range t).countP q = (List.range t).countP p := by
          refine List.countP_congr fun u hu => ?_
          rw [hothers u (by simp only [List.mem_range] at hu; omega)]
        rw [hsame]
        cases p t <;> cases q t <;> simp
      · have hrest := ih (by omega)
        rw [hothers n (Ne.symm hlast)]
        omega

theorem tally_pos {held : List ε → Bool} {n t : Nat} {steps : List (Step σ ε)} (ht : t < n)
    (hheld : held (history t steps) = true) : 0 < tally held n steps :=
  List.countP_pos_iff.mpr ⟨t, List.mem_range.mpr ht, hheld⟩

theorem exists_bound_of_history (steps : List (Step σ ε)) :
    ∃ n, ∀ t, n ≤ t → history t steps = [] := by
  induction steps using List.reverseRecOn with
  | nil => exact ⟨0, fun t _ => rfl⟩
  | append_singleton steps e ih =>
      obtain ⟨n, hn⟩ := ih
      refine ⟨max n (e.task.getD 0 + 1), fun t ht => ?_⟩
      rw [history_snoc_other, hn t (by omega)]
      rintro htask
      simp only [htask, Option.getD_some] at ht
      omega

namespace Lawful

variable {C : Async.Contract σ ε} {env : σ → σ → Prop} {s₀ s : σ} {steps : List (Step σ ε)}
  (hr : Lawful C env s₀ steps s) (counter : σ → Nat) (held : List ε → Bool)
  (h₀ : counter s₀ = 0) (hnil : held [] = false)
  (hblock : ∀ h s es s', C.guarantee h s es s' → (held h = true → 0 < counter s) →
    counter s' + (held h).toNat = counter s + (held (h ++ es)).toNat)
  (henv : ∀ s s', env s s' → counter s' = counter s)
include hr h₀ hnil hblock henv

theorem counted {n : Nat} (hn : ∀ t, n ≤ t → history t steps = []) :
    counter s = tally held n steps := by
  -- The number of tasks is fixed first: it bounds every earlier prefix of the run as well.
  revert hn
  refine hr.invariant (P := fun steps s =>
    (∀ t, n ≤ t → history t steps = []) → counter s = tally held n steps) ?_ ?_
  · intro _
    simp [tally, h₀, hnil]
  · intro before e _ ih he hn
    have hbefore : ∀ t, n ≤ t → history t before = [] := by
      intro t ht
      have hsnoc := hn t ht
      rw [history_append] at hsnoc
      exact (List.append_eq_nil_iff.mp hsnoc).1
    have hcount := ih hbefore
    obtain ⟨task, pre, es, post⟩ := e
    cases task with
    | none =>
        rw [henv _ _ he.1, hcount]
        simp only [tally]
        refine List.countP_congr fun t _ => ?_
        rw [history_snoc_other _ (by simp)]
    | some t =>
        by_cases ht : t < n
        · have hstep := hblock (history t before) pre es post he
            fun hheld => hcount ▸ tally_pos ht hheld
          have hmoved := countP_range_update (p := fun u => held (history u before))
            (q := fun u => held (history u (before ++ [⟨some t, pre, es, post⟩]))) ht
            fun u hu => by rw [history_snoc_other _ (by simpa using Ne.symm hu)]
          simp only [history_snoc_self] at hmoved
          simp only [tally] at hcount ⊢
          change counter pre = _ at hcount
          omega
        · have hempty := hn t (Nat.not_lt.mp ht)
          rw [history_snoc_self] at hempty
          obtain ⟨hown, rfl⟩ := List.append_eq_nil_iff.mp hempty
          have hstep := hblock _ _ _ _ he (by simp [hown, hnil])
          simp only [hown, List.append_nil, Nat.add_right_cancel_iff] at hstep
          rw [hstep, hcount]
          simp only [tally]
          refine List.countP_congr fun u _ => ?_
          simp [history, Step.eventsOf]

theorem counter_pos {t : Nat} (ht : held (history t steps) = true) : 0 < counter s := by
  obtain ⟨n, hn⟩ := exists_bound_of_history steps
  rw [hr.counted counter held h₀ hnil hblock henv hn]
  refine tally_pos (Nat.not_le.mp fun hle => ?_) ht
  rw [hn t hle, hnil] at ht
  contradiction

end Lawful

end NexusCua.Foundation
