import NexusCua.Foundation.Traversal

/-!
# Trees that are traversed alike

Two trees of the same shape whose nodes read the same are traversed in lockstep: every
turn makes the same decisions, so the two runs emit the same values, visit the same paths
and are cut short for the same reason.
-/

namespace NexusCua.Foundation

inductive RoseTree.Alike {ν : Type} (related : ν → ν → Prop) :
    RoseTree ν → RoseTree ν → Prop where
  | node {value value' : ν} {children children' : List (RoseTree ν)}
      (values : related value value')
      (below : List.Forall₂ (RoseTree.Alike related) children children') :
      Alike related (.node value children) (.node value' children')

theorem RoseTree.Alike.value {ν : Type} {related : ν → ν → Prop} {tree tree' : RoseTree ν}
    (h : tree.Alike related tree') : related tree.value tree'.value := by
  cases h with
  | node values below => exact values

namespace Walk

variable {ν ο κ ε : Type} {related : ν → ν → Prop}

structure Pending.Alike (related : ν → ν → Prop) (entry entry' : Pending ν κ) : Prop where
  path : entry.path = entry'.path
  tree : entry.tree.Alike related entry'.tree
  nearestParent : entry.nearestParent = entry'.nearestParent
  depth : entry.depth = entry'.depth

structure Progress.Alike (related : ν → ν → Prop) (progress progress' : Progress ν ο κ) :
    Prop where
  queue : List.Forall₂ (Pending.Alike related) progress.queue progress'.queue
  emitted : progress.emitted = progress'.emitted
  visited : progress.visited = progress'.visited
  aggregateBytes : progress.aggregateBytes = progress'.aggregateBytes
  truncation : progress.truncation = progress'.truncation

inductive Turn.Alike (related : ν → ν → Prop) : Turn ν ο κ ε → Turn ν ο κ ε → Prop where
  | goOn {progress progress' : Progress ν ο κ} (h : progress.Alike related progress') :
      Alike related (.goOn progress) (.goOn progress')
  | stop {progress progress' : Progress ν ο κ} (h : progress.Alike related progress') :
      Alike related (.stop progress) (.stop progress')
  | fail (error : ε) : Alike related (.fail error) (.fail error)

theorem Pending.Alike.below {entry entry' : Pending ν κ} (h : entry.Alike related entry')
    (nearestParent : Option κ) : List.Forall₂ (Pending.Alike related)
      (entry.below nearestParent) (entry'.below nearestParent) := by
  obtain ⟨path, tree, parent, depth⟩ := entry
  obtain ⟨path', tree', parent', depth'⟩ := entry'
  obtain ⟨rfl, ⟨-, hchildren⟩, rfl, rfl⟩ := h
  rw [List.forall₂_iff_get] at hchildren ⊢
  obtain ⟨hlength, hget⟩ := hchildren
  refine ⟨by simpa [Pending.below, RoseTree.children] using hlength, ?_⟩
  intro index hindex hindex'
  simp only [Pending.below, RoseTree.children, List.length_mapIdx] at hindex hindex'
  simp only [Pending.below, RoseTree.children, List.get_eq_getElem, List.getElem_mapIdx]
  exact ⟨rfl, hget index hindex hindex', rfl, rfl⟩

variable (walk : Walk ν ο κ ε)

theorem alike_below {entry entry' : Pending ν κ} (h : entry.Alike related entry') (values : ο)
    (nearestParent : Option κ) : List.Forall₂ (Pending.Alike related)
      (walk.below entry values nearestParent) (walk.below entry' values nearestParent) := by
  rw [Walk.below, Walk.below]
  split
  · exact h.below nearestParent
  · exact .nil

theorem alike_proceed {entry entry' : Pending ν κ} (hentry : entry.Alike related entry')
    {progress progress' : Progress ν ο κ} (hprogress : progress.Alike related progress')
    (values : ο) :
    (walk.proceed entry values progress).Alike related (walk.proceed entry' values progress') := by
  have hemission : walk.emission entry values progress = walk.emission entry' values progress' := by
    rw [emission, emission, hprogress.emitted, hentry.nearestParent, hentry.path]
  simp only [proceed, hentry.depth, hprogress.aggregateBytes, hemission]
  split
  · split
    · exact .stop ⟨hprogress.queue, hprogress.emitted, hprogress.visited, rfl, rfl⟩
    · exact .goOn ⟨List.rel_append hprogress.queue (walk.alike_below hentry _ _),
        by rw [hprogress.emitted], hprogress.visited, rfl, hprogress.truncation⟩
  · refine .goOn ⟨?_, hprogress.emitted, hprogress.visited, rfl, hprogress.truncation⟩
    rw [hentry.nearestParent]
    exact List.rel_append hprogress.queue (walk.alike_below hentry _ _)

inductive AlikeResults (related : ν → ν → Prop) :
    Except ε (Progress ν ο κ) → Except ε (Progress ν ο κ) → Prop where
  | ok {progress progress' : Progress ν ο κ} (h : progress.Alike related progress') :
      AlikeResults related (.ok progress) (.ok progress')
  | error (error : ε) : AlikeResults related (.error error) (.error error)

section

variable (hread : ∀ a b, related a b → walk.read a = walk.read b)
include hread

theorem alike_turn (expired : Bool)
    {entry entry' : Pending ν κ} (hentry : entry.Alike related entry')
    {progress progress' : Progress ν ο κ} (hprogress : progress.Alike related progress') :
    (walk.turn expired entry progress).Alike related (walk.turn expired entry' progress') := by
  have hvalue : walk.read entry.tree.value = walk.read entry'.tree.value :=
    hread _ _ hentry.tree.value
  have hvisited : ({ progress with visited := progress.visited ++ [entry.path] } :
      Progress ν ο κ).Alike related
        { progress' with visited := progress'.visited ++ [entry'.path] } :=
    ⟨hprogress.queue, hprogress.emitted, by rw [hprogress.visited, hentry.path],
      hprogress.aggregateBytes, hprogress.truncation⟩
  simp only [turn, hprogress.visited, hentry.depth, hvalue]
  split
  · exact .stop ⟨hprogress.queue, hprogress.emitted, rfl, hprogress.aggregateBytes, rfl⟩
  · split
    · exact .stop ⟨hprogress.queue, hprogress.emitted, rfl, hprogress.aggregateBytes, rfl⟩
    · split
      · exact .goOn ⟨hprogress.queue, hprogress.emitted, rfl, hprogress.aggregateBytes,
          by rw [hprogress.truncation]⟩
      · rw [hprogress.visited] at hvisited
        split
        · exact .fail _
        · exact .stop ⟨hvisited.queue, hvisited.emitted, hvisited.visited,
            hvisited.aggregateBytes, rfl⟩
        · exact .goOn hvisited
        · exact walk.alike_proceed hentry hvisited _

theorem alike_loop (expired : Nat → Bool) (round : Nat) (progress progress' : Progress ν ο κ)
    (h : progress.Alike related progress') :
    AlikeResults related (walk.loop expired round progress)
      (walk.loop expired round progress') := by
  -- the loop takes a queued tree apart in each turn that goes on
  induction hweight : progress.weight using Nat.strong_induction_on
    generalizing round progress progress' with
  | _ weight ih =>
    have hqueues := h.queue
    cases hqueue : progress.queue with
    | nil =>
      rw [hqueue, List.forall₂_nil_left_iff] at hqueues
      rw [loop_of_empty hqueue, loop_of_empty hqueues]
      exact .ok h
    | cons entry rest =>
      rw [hqueue, List.forall₂_cons_left_iff] at hqueues
      obtain ⟨entry', rest', hentry, hrest, hqueue'⟩ := hqueues
      have hpopped : (progress.popped rest).Alike related (progress'.popped rest') :=
        ⟨hrest, h.emitted, h.visited, h.aggregateBytes, h.truncation⟩
      rw [loop_of_queued hqueue, loop_of_queued hqueue']
      have hturns := walk.alike_turn hread (expired round) hentry hpopped
      generalize hturn : walk.turn (expired round) entry (progress.popped rest) = turn at hturns ⊢
      generalize walk.turn (expired round) entry' (progress'.popped rest') = turn' at hturns ⊢
      cases hturns with
      | @goOn next next' hnext =>
        have hlt := (goesOn_of_turn hturn).weight_lt
        have hprogress : progress.weight = entry.tree.size + (progress.popped rest).weight := by
          simp [Progress.weight, Progress.popped, hqueue, RoseTree.sizeAll]
        exact ih next.weight (by omega) (round + 1) next next' hnext rfl
      | stop hnext => exact .ok hnext
      | fail error => exact .error error

theorem alike_run (expired : Nat → Bool) {root root' : RoseTree ν} (h : root.Alike related root') :
    AlikeResults related (walk.run expired root) (walk.run expired root') :=
  walk.alike_loop hread expired 0 _ _
    ⟨.cons ⟨rfl, h, rfl, rfl⟩ .nil, rfl, rfl, rfl, rfl⟩

end

end Walk

end NexusCua.Foundation
