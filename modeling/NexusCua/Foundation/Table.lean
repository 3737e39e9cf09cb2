import Mathlib

/-!
# Keyed tables

The maps of the source are association lists without duplicate keys.  This
module adds to them the operations the source uses on whole maps: keeping the
entries a predicate accepts, updating every value in place and counting.
-/

namespace NexusCua.Foundation

abbrev Table (κ υ : Type) := AList fun _ : κ => υ

namespace Table

variable {κ υ : Type}

def size (t : Table κ υ) : Nat := t.entries.length

def toList (t : Table κ υ) : List (κ × υ) := t.entries.map fun entry => (entry.1, entry.2)

def retain (keep : κ → υ → Bool) (t : Table κ υ) : Table κ υ where
  entries := t.entries.filter fun entry => keep entry.1 entry.2
  nodupKeys := t.nodupKeys.sublist List.filter_sublist

def mapValues (f : κ → υ → υ) (t : Table κ υ) : Table κ υ where
  entries := t.entries.map fun entry => ⟨entry.1, f entry.1 entry.2⟩
  nodupKeys := List.NodupKeys.map₂ f t.entries t.nodupKeys

def count (p : υ → Bool) (t : Table κ υ) : Nat := t.entries.countP fun entry => p entry.2

@[simp] theorem size_mapValues (f : κ → υ → υ) (t : Table κ υ) : (t.mapValues f).size = t.size := by
  simp [size, mapValues]

theorem nodup_map_fst_toList (t : Table κ υ) : (t.toList.map Prod.fst).Nodup := by
  simpa [toList, List.NodupKeys, List.keys, Function.comp_def] using t.nodupKeys

theorem size_retain_le (keep : κ → υ → Bool) (t : Table κ υ) :
    (t.retain keep).size ≤ t.size :=
  List.length_filter_le _ _

theorem size_retain (keep : κ → υ → Bool) (t : Table κ υ) :
    (t.retain keep).size = t.toList.countP fun entry => keep entry.1 entry.2 := by
  rw [toList, List.countP_map, List.countP_eq_length_filter]
  rfl

theorem length_toList (t : Table κ υ) : t.toList.length = t.size := by
  simp [size, toList]

theorem size_eq_count (t : Table κ υ) : t.size = t.count fun _ => true := by
  simp [size, count]

theorem count_mapValues_of_eq {f : κ → υ → υ} {p : υ → Bool} (t : Table κ υ)
    (h : ∀ k v, p (f k v) = p v) : (t.mapValues f).count p = t.count p := by
  simp [count, mapValues, List.countP_map, Function.comp_def, h]

variable [DecidableEq κ]

abbrev lookup (k : κ) (t : Table κ υ) : Option υ := AList.lookup k t

abbrev insert (k : κ) (v : υ) (t : Table κ υ) : Table κ υ := AList.insert k v t

abbrev erase (k : κ) (t : Table κ υ) : Table κ υ := AList.erase k t

def modify (k : κ) (f : υ → υ) (t : Table κ υ) : Table κ υ :=
  t.mapValues fun k' v => if k' = k then f v else v

/-! ## Lookups -/

theorem mem_entries_iff (t : Table κ υ) (k : κ) (v : υ) :
    ⟨k, v⟩ ∈ t.entries ↔ t.lookup k = some v :=
  AList.mem_lookup_iff.symm

theorem mem_toList_iff (t : Table κ υ) (k : κ) (v : υ) :
    (k, v) ∈ t.toList ↔ t.lookup k = some v := by
  simp [toList, ← mem_entries_iff, Sigma.exists]

theorem lookup_insert_eq (t : Table κ υ) (k k' : κ) (v : υ) :
    (t.insert k' v).lookup k = if k = k' then some v else t.lookup k := by
  split
  · subst k'
    exact AList.lookup_insert t
  · exact AList.lookup_insert_ne ‹_›

variable {t : Table κ υ}

theorem lookup_insert_cases {k k' : κ} {v w : υ}
    (h : (t.insert k' v).lookup k = some w) : k = k' ∧ v = w ∨ t.lookup k = some w := by
  rw [lookup_insert_eq] at h
  split at h
  · exact .inl ⟨‹_›, Option.some.inj h⟩
  · exact .inr h

theorem lookup_erase_eq (t : Table κ υ) (k k' : κ) :
    (t.erase k').lookup k = if k = k' then none else t.lookup k := by
  split
  · subst k'
    exact AList.lookup_erase k t
  · exact AList.lookup_erase_ne ‹_›

theorem lookup_retain (keep : κ → υ → Bool) (t : Table κ υ) (k : κ) :
    (t.retain keep).lookup k = (t.lookup k).filter (keep k) := by
  ext v
  rw [← mem_entries_iff]
  simp [retain, mem_entries_iff, Option.filter_eq_some_iff]

theorem lookup_mapValues (f : κ → υ → υ) (t : Table κ υ) (k : κ) :
    (t.mapValues f).lookup k = (t.lookup k).map (f k) :=
  List.dlookup_map₂ k

theorem lookup_modify (k k' : κ) (f : υ → υ) (t : Table κ υ) :
    (t.modify k' f).lookup k = if k = k' then (t.lookup k).map f else t.lookup k := by
  rw [modify, lookup_mapValues]
  split <;> simp_all

variable {k : κ} {v : υ}

theorem modify_congr {f g : υ → υ} (h : t.lookup k = some v)
    (hfg : f v = g v) : t.modify k f = t.modify k g := by
  refine AList.ext (List.map_congr_left fun entry he => ?_)
  by_cases hk : entry.1 = k
  · subst hk
    obtain rfl := Option.some.inj (((mem_entries_iff t _ _).mp he).symm.trans h)
    simp [hfg]
  · simp [hk]

theorem modify_eq_self {f : υ → υ} (h : t.lookup k = some v)
    (hf : f v = v) : t.modify k f = t := by
  rw [modify_congr (g := id) h hf]
  exact AList.ext (by simp [modify, mapValues])

theorem mem_of_lookup (h : t.lookup k = some v) : k ∈ t :=
  AList.lookup_isSome.mp (by simp [h])

/-! ## Sizes -/

theorem size_insert_of_lookup_none (h : t.lookup k = none) (v : υ) :
    (t.insert k v).size = t.size + 1 := by
  rw [size, AList.entries_insert_of_notMem (AList.lookup_eq_none.mp h)]
  rfl

theorem count_insert_of_lookup_none (h : t.lookup k = none) (v : υ)
    (p : υ → Bool) : (t.insert k v).count p = t.count p + if p v then 1 else 0 := by
  rw [count, AList.entries_insert_of_notMem (AList.lookup_eq_none.mp h), List.countP_cons]
  rfl

theorem count_retain_of_imp {keep : κ → υ → Bool} {p : υ → Bool}
    (h : ∀ k v, t.lookup k = some v → p v = true → keep k v = true) :
    (t.retain keep).count p = t.count p := by
  rw [count, count, retain, List.countP_filter]
  refine List.countP_congr fun entry he => ?_
  have := h entry.1 entry.2 ((mem_entries_iff t _ _).mp he)
  simp only [Bool.and_eq_true, and_iff_left_iff_imp]
  exact this

theorem entries_of_lookup (h : t.lookup k = some v) :
    ∃ before after, t.entries = before ++ ⟨k, v⟩ :: after ∧
      (t.erase k).entries = before ++ after := by
  have hmem : k ∈ t.entries.keys := AList.mem_keys.mp (mem_of_lookup h)
  obtain ⟨w, before, after, hnot, hsplit, herase⟩ := List.exists_of_kerase hmem
  have hlook : t.lookup k = some w := by
    rw [← mem_entries_iff, hsplit]
    simp
  cases hlook.symm.trans h
  exact ⟨before, after, hsplit, herase⟩

theorem count_erase_of_lookup (h : t.lookup k = some v)
    (p : υ → Bool) : t.count p = (t.erase k).count p + if p v then 1 else 0 := by
  obtain ⟨before, after, hsplit, he⟩ := entries_of_lookup h
  simp only [count, he, hsplit, List.countP_append, List.countP_cons]
  omega

theorem size_insert_of_lookup_some {old : υ} (h : t.lookup k = some old)
    (v : υ) : (t.insert k v).size = t.size := by
  have hcount := count_erase_of_lookup h fun _ => true
  rw [← size_eq_count, ← size_eq_count] at hcount
  rw [size, AList.entries_insert, List.length_cons, hcount]
  rfl

theorem size_insert_le (t : Table κ υ) (k : κ) (v : υ) : (t.insert k v).size ≤ t.size + 1 := by
  cases h : t.lookup k with
  | none => rw [size_insert_of_lookup_none h]
  | some old =>
      rw [size_insert_of_lookup_some h]
      exact Nat.le_succ _

private theorem kerase_map_at (k : κ) (f : υ → υ) (l : List (Sigma fun _ : κ => υ))
    (hl : l.NodupKeys) :
    (l.map fun entry => (⟨entry.1, if entry.1 = k then f entry.2 else entry.2⟩ :
      Sigma fun _ : κ => υ)).kerase k = l.kerase k := by
  induction l with
  | nil => rfl
  | cons entry l ih =>
      obtain ⟨hnot, hrest⟩ := List.nodupKeys_cons.mp hl
      by_cases hk : entry.1 = k
      · have hsame : ∀ x ∈ l, x.1 ≠ k := by
          intro x hx hxk
          exact hnot (hk ▸ hxk ▸ List.mem_keys_of_mem hx)
        rw [List.map_cons, List.kerase_cons_eq (by simpa using hk.symm),
          List.kerase_cons_eq hk.symm]
        conv_rhs => rw [← List.map_id l]
        exact List.map_congr_left fun x hx => by simp [hsame x hx]
      · rw [List.map_cons, List.kerase_cons_ne (by simpa using Ne.symm hk),
          List.kerase_cons_ne (Ne.symm hk), ih hrest]
        simp [hk]

theorem erase_modify (k : κ) (f : υ → υ) (t : Table κ υ) :
    (t.modify k f).erase k = t.erase k :=
  AList.ext (kerase_map_at k f t.entries t.nodupKeys)

theorem count_modify (h : t.lookup k = some v) (f : υ → υ)
    (p : υ → Bool) :
    (t.modify k f).count p + (if p v then 1 else 0) = t.count p + if p (f v) then 1 else 0 := by
  have hnew : (t.modify k f).lookup k = some (f v) := by simp [lookup_modify, h]
  rw [count_erase_of_lookup hnew, count_erase_of_lookup h, erase_modify]
  omega

/-! ## Smaller tables -/

structure Shrinks (t t' : Table κ υ) : Prop where
  lookup : ∀ k v, t'.lookup k = some v → t.lookup k = some v
  size_le : t'.size ≤ t.size

namespace Shrinks

theorem refl (t : Table κ υ) : Shrinks t t := ⟨fun _ _ h => h, le_rfl⟩

theorem empty (t : Table κ υ) : Shrinks t ∅ := ⟨fun _ _ h => by simp at h, Nat.zero_le _⟩

theorem retain (keep : κ → υ → Bool) (t : Table κ υ) : Shrinks t (t.retain keep) where
  lookup k v h := by
    rw [lookup_retain] at h
    exact (Option.filter_eq_some_iff.mp h).1
  size_le := size_retain_le keep t

theorem erase (k : κ) (t : Table κ υ) : Shrinks t (t.erase k) where
  lookup k' v h := by
    rw [lookup_erase_eq] at h
    split at h
    · contradiction
    · exact h
  size_le := (List.kerase_sublist k t.entries).length_le

end Shrinks

/-! ## A table and the index of its keys -/

/--
Every value is stored under a reference of its own, and the index leads from the
key of a value back to the reference.
-/
structure Indexed {ρ : Type} [DecidableEq ρ] (key : υ → κ) (index : Table κ ρ)
    (values : Table ρ υ) : Prop where
  forth : ∀ k r, index.lookup k = some r → ∃ v, values.lookup r = some v ∧ key v = k
  back : ∀ r v, values.lookup r = some v → index.lookup (key v) = some r

namespace Indexed

variable {ρ : Type} [DecidableEq ρ] {key : υ → κ} {index : Table κ ρ} {values : Table ρ υ}

theorem empty (key : υ → κ) : Indexed key (∅ : Table κ ρ) ∅ where
  forth _ _ h := by simp at h
  back _ _ h := by simp at h

variable {r : ρ}

theorem injective (hi : Indexed key index values) {k k' : κ}
    (hk : index.lookup k = some r) (hk' : index.lookup k' = some r) : k = k' := by
  obtain ⟨v, hv, rfl⟩ := hi.forth k r hk
  obtain ⟨v', hv', rfl⟩ := hi.forth k' r hk'
  rw [Option.some.inj (hv.symm.trans hv')]

theorem refresh (hi : Indexed key index values)
    (hk : index.lookup (key v) = some r) : Indexed key index (values.insert r v) where
  forth k r' hr' := by
    rw [lookup_insert_eq]
    split
    · subst r'
      exact ⟨v, rfl, hi.injective hk hr'⟩
    · exact hi.forth k r' hr'
  back r' v' hv' := by
    rw [lookup_insert_eq] at hv'
    split at hv'
    · subst r'
      cases hv'
      exact hk
    · exact hi.back r' v' hv'

theorem add (hi : Indexed key index values) (hk : index.lookup (key v) = none)
    (hr : values.lookup r = none) :
    Indexed key (index.insert (key v) r) (values.insert r v) where
  forth k r' hr' := by
    rw [lookup_insert_eq] at hr' ⊢
    split at hr'
    · subst k
      cases hr'
      exact ⟨v, by simp, rfl⟩
    · obtain ⟨v', hv', rfl⟩ := hi.forth k r' hr'
      have hne : r' ≠ r := by
        rintro rfl
        simp [hr] at hv'
      exact ⟨v', by rw [if_neg hne, hv'], rfl⟩
  back r' v' hv' := by
    rw [lookup_insert_eq] at hv' ⊢
    split at hv'
    · subst r'
      cases hv'
      simp
    · have hne : key v' ≠ key v := by
        intro heq
        have hback := hi.back r' v' hv'
        simp [heq, hk] at hback
      rw [if_neg hne]
      exact hi.back r' v' hv'

end Indexed

end Table

theorem mem_eraseIdx_of_nodup_map {α β : Type} {f : α → β} {l : List α} (hl : (l.map f).Nodup)
    {index : Nat} {x y : α} (hx : l[index]? = some x) :
    y ∈ l.eraseIdx index ↔ y ∈ l ∧ f y ≠ f x := by
  rw [List.mem_eraseIdx_iff_getElem?]
  constructor
  · rintro ⟨i, hi, hy⟩
    refine ⟨List.mem_of_getElem? hy, fun hsame => hi ?_⟩
    obtain ⟨hlt, -⟩ := List.getElem?_eq_some_iff.mp hy
    have hmap : (l.map f)[i]? = (l.map f)[index]? := by
      simp [hy, hx, hsame]
    exact (List.getElem?_inj (by simpa using hlt) hl).mp hmap
  · rintro ⟨hy, hne⟩
    obtain ⟨i, hi⟩ := List.mem_iff_getElem?.mp hy
    refine ⟨i, ?_, hi⟩
    rintro rfl
    exact hne (congrArg f (Option.some.inj (hi.symm.trans hx)))

end NexusCua.Foundation
