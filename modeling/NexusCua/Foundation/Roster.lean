import NexusCua.Foundation.Table

/-!
# Tables with the order of their keys

A bounded map keeps its keys in a queue beside it, oldest first, and the weight of its
values in a counter.  The queue lists each key of the table exactly once, and the
counter is the sum of the weights; insertions of new keys, removals of the oldest key
and filters keep both.
-/

namespace NexusCua.Foundation.Table

variable {κ υ : Type}

def total (weight : υ → Nat) (t : Table κ υ) : Nat :=
  (t.toList.map fun entry => weight entry.2).sum

theorem total_retain (weight : υ → Nat) (keep : κ → υ → Bool) (t : Table κ υ) :
    (t.retain keep).total weight +
        ((t.toList.filter fun entry => !keep entry.1 entry.2).map fun entry => weight entry.2).sum =
      t.total weight := by
  simp only [total, retain, toList]
  induction t.entries with
  | nil => rfl
  | cons entry entries ih =>
    cases hkeep : keep entry.1 entry.2 with
    | true =>
      simp only [List.filter_cons, List.map_cons, List.sum_cons, hkeep, Bool.not_true, if_true,
        Bool.false_eq_true, if_false]
      omega
    | false =>
      simp only [List.filter_cons, List.map_cons, List.sum_cons, hkeep, Bool.not_false, if_true,
        Bool.false_eq_true, if_false]
      omega

variable [DecidableEq κ]

theorem total_insert_of_lookup_none (weight : υ → Nat) {t : Table κ υ} {k : κ}
    (h : t.lookup k = none) (v : υ) : (t.insert k v).total weight = t.total weight + weight v := by
  simp only [total, toList]
  rw [AList.entries_insert_of_notMem (AList.lookup_eq_none.mp h), List.map_cons, List.map_cons,
    List.sum_cons, Nat.add_comm]

theorem total_erase_of_lookup (weight : υ → Nat) {t : Table κ υ} {k : κ} {v : υ}
    (h : t.lookup k = some v) : (t.erase k).total weight + weight v = t.total weight := by
  obtain ⟨before, after, hsplit, he⟩ := entries_of_lookup h
  simp only [total, toList, he, hsplit, List.map_append, List.map_cons, List.sum_append,
    List.sum_cons]
  omega

structure Listed (order : List κ) (t : Table κ υ) : Prop where
  nodup : order.Nodup
  mem_iff : ∀ k, k ∈ order ↔ (t.lookup k).isSome = true

namespace Listed

variable {order : List κ} {t : Table κ υ} {k : κ}

theorem empty : Listed [] (∅ : Table κ υ) where
  nodup := List.nodup_nil
  mem_iff k := by simp

theorem length_eq (h : Listed order t) : order.length = t.size := by
  have hkeys : t.keys.Nodup := t.nodupKeys
  have hperm : order.Perm t.keys := by
    rw [List.perm_ext_iff_of_nodup h.nodup hkeys]
    intro k
    rw [h.mem_iff, AList.lookup_isSome]
    exact AList.mem_keys
  rw [hperm.length_eq, size, AList.keys, List.keys, List.length_map]

theorem size_eq_zero (h : Listed [] t) : t.size = 0 := h.length_eq.symm

theorem insert (h : Listed order t) (hk : t.lookup k = none) (v : υ) :
    Listed (order ++ [k]) (t.insert k v) where
  nodup := by
    have hnot : k ∉ order := by simp [h.mem_iff, hk]
    rw [List.nodup_append]
    refine ⟨h.nodup, List.nodup_singleton k, ?_⟩
    rintro a ha b hb rfl
    rw [List.mem_singleton] at hb
    exact hnot (hb ▸ ha)
  mem_iff k' := by
    rw [List.mem_append, List.mem_singleton, h.mem_iff, lookup_insert_eq]
    by_cases heq : k' = k
    · simp [heq]
    · simp [heq]

theorem erase_head (h : Listed (k :: order) t) : Listed order (t.erase k) where
  nodup := (List.nodup_cons.mp h.nodup).2
  mem_iff k' := by
    have hnot := (List.nodup_cons.mp h.nodup).1
    have hmem := h.mem_iff k'
    rw [lookup_erase_eq]
    by_cases heq : k' = k
    · simp [heq, hnot]
    · simpa [heq] using hmem

theorem retain (h : Listed order t) (keep : κ → υ → Bool) :
    Listed (order.filter fun k => ((t.retain keep).lookup k).isSome) (t.retain keep) where
  nodup := h.nodup.sublist List.filter_sublist
  mem_iff k := by
    rw [List.mem_filter, h.mem_iff, and_iff_right_iff_imp, lookup_retain]
    intro hkept
    cases hk : t.lookup k with
    | none => simp [hk] at hkept
    | some v => rfl

end Listed

/-! ## Tables from lists -/

section FromList

variable {α : Type} {f : α → κ} {g : α → υ} {l : List α} {t : Table κ υ}

theorem lookup_foldl_insert_of_notMem {k : κ} (h : ∀ a ∈ l, f a ≠ k) :
    (l.foldl (fun t a => t.insert (f a) (g a)) t).lookup k = t.lookup k := by
  induction l generalizing t with
  | nil => rfl
  | cons a l ih =>
    obtain ⟨hne, hrest⟩ := List.forall_mem_cons.mp h
    rw [List.foldl_cons, ih hrest]
    exact AList.lookup_insert_ne (Ne.symm hne)

theorem lookup_foldl_insert_of_mem (hnodup : (l.map f).Nodup) {a : α} (ha : a ∈ l) :
    (l.foldl (fun t a => t.insert (f a) (g a)) t).lookup (f a) = some (g a) := by
  induction l generalizing t with
  | nil => cases ha
  | cons head l ih =>
    rw [List.map_cons, List.nodup_cons] at hnodup
    rw [List.foldl_cons]
    obtain rfl | ha := List.mem_cons.mp ha
    · have hother : ∀ b ∈ l, f b ≠ f a := by
        intro b hb heq
        exact hnodup.1 (heq ▸ List.mem_map_of_mem hb)
      rw [lookup_foldl_insert_of_notMem hother]
      exact AList.lookup_insert t
    · exact ih hnodup.2 ha

end FromList

end NexusCua.Foundation.Table
