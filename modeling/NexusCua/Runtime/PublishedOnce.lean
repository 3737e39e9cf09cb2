import NexusCua.Runtime.Discovery

/-!
# What discovery publishes

The published list is sorted by identifier, name and key, and only neighbours with one key
are merged.  Keys are published once exactly when the order keeps equal keys together.
-/

namespace NexusCua.Runtime

open NexusCua.Foundation NexusCua.Protocol

variable {α : Type} (order : α → String × String × String) (key : α → String)

/-- Between two entries with one key the order has no entry with another key. -/
def KeysTogether (listed : List α) : Prop :=
  ∀ a ∈ listed, ∀ b ∈ listed, ∀ c ∈ listed, listedBefore (order a) (order b) = true →
    listedBefore (order b) (order c) = true → key a = key c → key b = key a

/--
One entry for each key: all of them when the list is said to be complete, and otherwise the
first `maximum` of a list that has one for each.
-/
def PublishedOnce (listed : List α) (maximum : Nat) (published : List String) (complete : Bool) :
    Prop :=
  ∃ unpublished, (published ++ unpublished).Nodup ∧
    (∀ a ∈ listed, key a ∈ published ++ unpublished) ∧
    (complete = true → unpublished = []) ∧ (complete = false → published.length = maximum)

variable {order key}

/-! ## The order -/

def listingOrder : String × String × String → String × String × String → Ordering :=
  compareLex (compareOn (·.1)) (compareLex (compareOn (·.2.1)) (compareOn (·.2.2)))

instance : Std.TransCmp listingOrder := by
  unfold listingOrder
  infer_instance

variable {x y z : String × String × String}

theorem listedBefore_trans (hxy : listedBefore x y = true) (hyz : listedBefore y z = true) :
    listedBefore x z = true := by
  have hle : (listingOrder x y).isLE = true := hxy
  change (listingOrder x z).isLE = true
  exact Std.TransCmp.isLE_trans hle hyz

theorem listedBefore_total (x y : String × String × String) :
    listedBefore x y = true ∨ listedBefore y x = true := by
  have hswap : listingOrder y x = (listingOrder x y).swap := Std.OrientedCmp.eq_swap
  change (listingOrder x y).isLE = true ∨ (listingOrder y x).isLE = true
  rw [hswap]
  cases listingOrder x y <;> simp

theorem listedBefore_antisymm (hxy : listedBefore x y = true) (hyx : listedBefore y x = true) :
    x = y := by
  have hle : (listingOrder x y).isLE = true := hxy
  have heq := Std.OrientedCmp.isLE_antisymm hle hyx
  simp only [listingOrder, compareLex, compareOn, Ordering.then_eq_eq,
    Std.compare_eq_iff_eq] at heq
  exact Prod.ext heq.1 (Prod.ext heq.2.1 heq.2.2)

/-! ## Merging neighbours -/

def Gathered (key : α → String) (listed : List α) : Prop :=
  ∀ a b c, [a, b, c].Sublist listed → key a = key c → key b = key a

theorem mem_dropRepeats (last text : String) (listed : List α) :
    text ∈ last :: (dropRepeats key last listed).map key ↔ text ∈ last :: listed.map key := by
  induction listed generalizing last with
  | nil => rfl
  | cons b listed ih =>
    rw [dropRepeats]
    split
    · next heq =>
      rw [ih last, List.map_cons, heq]
      simp
    · rw [List.map_cons, List.mem_cons, ih (key b)]
      simp

theorem dropRepeats_nodup_iff (last : String) (listed : List α) :
    (last :: (dropRepeats key last listed).map key).Nodup ↔
      (∀ b c, [b, c].Sublist listed → key c = last → key b = last) ∧ Gathered key listed := by
  induction listed generalizing last with
  | nil => simp [dropRepeats, Gathered]
  | cons x listed ih =>
    simp only [Gathered, List.cons_sublist_cons', List.singleton_sublist] at ih ⊢
    rw [dropRepeats]
    split
    · next heq =>
      rw [ih last]
      grind
    · next hne =>
      rw [List.map_cons, List.nodup_cons, ih (key x), mem_dropRepeats]
      grind

theorem dedupByKey_nodup_iff (listed : List α) :
    ((dedupByKey key listed).map key).Nodup ↔ Gathered key listed := by
  cases listed with
  | nil => simp [dedupByKey, Gathered]
  | cons a listed =>
    rw [dedupByKey, List.map_cons, dropRepeats_nodup_iff]
    simp only [Gathered, List.cons_sublist_cons']
    grind

theorem mem_dedupByKey (listed : List α) (text : String) :
    text ∈ (dedupByKey key listed).map key ↔ text ∈ listed.map key := by
  cases listed with
  | nil => rfl
  | cons a listed => exact mem_dropRepeats (key a) text listed

/-! ## The published list -/

variable (order) in
def sortedBy (listed : List α) : List α :=
  listed.insertionSort fun left right => listedBefore (order left) (order right) = true

variable (order)

theorem sortedBy_pairwise (listed : List α) :
    (sortedBy order listed).Pairwise fun a b => listedBefore (order a) (order b) = true := by
  have htrans : IsTrans α fun a b => listedBefore (order a) (order b) = true :=
    ⟨fun _ _ _ => listedBefore_trans⟩
  have htotal : Std.Total fun a b => listedBefore (order a) (order b) = true :=
    ⟨fun _ _ => listedBefore_total _ _⟩
  exact List.pairwise_insertionSort _ listed

theorem mem_sortedBy (listed : List α) (a : α) : a ∈ sortedBy order listed ↔ a ∈ listed :=
  List.mem_insertionSort _

theorem publishedList_eq (maximum : Nat) (listed : List α) :
    publishedList order key maximum listed =
      ((dedupByKey key (sortedBy order listed)).take maximum,
        decide ((dedupByKey key (sortedBy order listed)).length ≤ maximum)) := rfl

variable {order}

theorem gathered_iff (horder : ∀ a, (order a).2.2 = key a) (listed : List α) :
    Gathered key (sortedBy order listed) ↔ KeysTogether order key listed := by
  have hsorted := sortedBy_pairwise order listed
  constructor
  · intro hgathered a ha b hb c hc hab hbc hac
    by_contra hne
    have hdiffers : ∀ x, key x = key a → order x ≠ order b := by
      intro x hx heq
      exact hne ((horder b).symm.trans ((congrArg (·.2.2) heq.symm).trans ((horder x).trans hx)))
    obtain ⟨before, after, hsplit⟩ := List.append_of_mem ((mem_sortedBy order listed b).mpr hb)
    have hmem : ∀ x ∈ listed, key x = key a → x ∈ before ∨ x ∈ after := by
      intro x hx hkey
      have hx := (mem_sortedBy order listed x).mpr hx
      rw [hsplit, List.mem_append, List.mem_cons] at hx
      obtain hx | rfl | hx := hx
      · exact .inl hx
      · exact absurd rfl (hdiffers x hkey)
      · exact .inr hx
    rw [hsplit, List.pairwise_append, List.pairwise_cons] at hsorted
    obtain ⟨-, ⟨hafter, -⟩, hbefore⟩ := hsorted
    have ha : a ∈ before := (hmem a ha rfl).resolve_right fun h =>
      hdiffers a rfl (listedBefore_antisymm hab (hafter a h))
    have hc : c ∈ after := (hmem c hc hac.symm).resolve_left fun h =>
      hdiffers c hac.symm (listedBefore_antisymm (hbefore c h b List.mem_cons_self) hbc)
    apply hne
    refine hgathered a b c ?_ hac
    rw [hsplit]
    exact (List.singleton_sublist.mpr ha).append ((List.singleton_sublist.mpr hc).cons_cons b)
  · intro htogether a b c hsublist hac
    have hpairs := hsorted.sublist hsublist
    have hmem : ∀ x ∈ [a, b, c], x ∈ listed := fun x hx =>
      (mem_sortedBy order listed x).mp (hsublist.subset hx)
    refine htogether a (hmem a ?_) b (hmem b ?_) c (hmem c ?_) ?_ ?_ hac
    all_goals simp_all

theorem publishedList_once_iff (horder : ∀ a, (order a).2.2 = key a) (listed : List α) :
    (∀ maximum, PublishedOnce key listed maximum
        ((publishedList order key maximum listed).1.map key)
        (publishedList order key maximum listed).2) ↔ KeysTogether order key listed := by
  rw [← gathered_iff horder, ← dedupByKey_nodup_iff]
  have hkeys : ∀ a ∈ listed, key a ∈ (dedupByKey key (sortedBy order listed)).map key := by
    intro a ha
    rw [mem_dedupByKey]
    exact List.mem_map_of_mem ((mem_sortedBy order listed a).mpr ha)
  simp only [publishedList_eq]
  generalize dedupByKey key (sortedBy order listed) = unique at hkeys ⊢
  constructor
  · intro h
    obtain ⟨unpublished, hnodup, _, hcomplete, _⟩ := h unique.length
    have hnone := hcomplete (decide_eq_true (Nat.le_refl _))
    rwa [hnone, List.append_nil, List.take_of_length_le (Nat.le_refl _)] at hnodup
  · intro hnodup maximum
    refine ⟨(unique.drop maximum).map key, ?_, ?_, ?_, ?_⟩
    · rwa [← List.map_append, List.take_append_drop]
    · rwa [← List.map_append, List.take_append_drop]
    · intro hcomplete
      rw [List.drop_of_length_le (of_decide_eq_true hcomplete), List.map_nil]
    · intro hcut
      rw [List.length_map]
      exact List.length_take_of_le (Nat.le_of_lt (Nat.not_le.mp (of_decide_eq_false hcut)))

/--
Each of the two lists that are recorded and published has one entry for a key, and for all
keys if it is complete, exactly when the order keeps the entries with one key together.
-/
theorem discovery_publishes_once_iff (uuids : UuidSource) (issued : Nat)
    (applications : List DriverApplication) (launchables : List DriverLaunchableApplication) :
    ((∀ maximum, PublishedOnce DriverApplication.key applications maximum
        ((drawDiscoveryRefs uuids issued (publishedApplications maximum applications).1).map
          fun entry => entry.2.key) (publishedApplications maximum applications).2) ↔
      KeysTogether (fun application => (application.applicationId, application.name,
        application.key)) DriverApplication.key applications) ∧
    ((∀ maximum, PublishedOnce DriverLaunchableApplication.key launchables maximum
        ((drawLaunchRefs uuids issued (publishedLaunchables maximum launchables).1).map
          fun entry => entry.2.key) (publishedLaunchables maximum launchables).2) ↔
      KeysTogether (fun application => (application.applicationId, application.name,
        application.key)) DriverLaunchableApplication.key launchables) := by
  have hkeys : ∀ {β : Type} (key : β → String) (entries : List β),
      (entries.zipIdx issued).map (fun entry => key entry.1) = entries.map key := by
    intro β key entries
    have hfirst := congrArg (List.map key) (List.zipIdx_map_fst issued entries)
    rwa [List.map_map] at hfirst
  constructor
  · simp only [drawDiscoveryRefs, List.map_map, Function.comp_def, hkeys]
    refine publishedList_once_iff ?_ applications
    exact fun _ => rfl
  · simp only [drawLaunchRefs, List.map_map, Function.comp_def, hkeys]
    refine publishedList_once_iff ?_ launchables
    exact fun _ => rfl

theorem renamed_application_published_twice :
    ((publishedApplications 8
      [⟨"key", "1", "id", "a", "app", false, .unsupported none⟩,
        ⟨"key", "1", "id", "c", "app", false, .unsupported none⟩,
        ⟨"other", "1", "id", "b", "app", false, .unsupported none⟩]).1.map DriverApplication.key) =
      ["key", "other", "key"] := by
  decide +kernel

end NexusCua.Runtime
