import Mathlib

/-!
# A bounded breadth-first traversal

A tree is visited with a queue.  Every visited node is read; some of the nodes
that are read are emitted, under keys that count them, together with the key of
the nearest emitted node above.  Five limits cut the traversal short: a deadline,
the number of nodes, their depth, the bytes of what is emitted and a node that
cannot be read.  The depth limit passes over a node; the others end the loop.  A
node that cannot be read may also be left out, and everything below it with it.

A node is named by its path, the indices of the children that lead to it, the
last one first: the nodes above it are the proper suffixes of its path.
-/

namespace NexusCua.Foundation

/-! ## Trees and paths -/

inductive RoseTree (ν : Type) where
  | node (value : ν) (children : List (RoseTree ν))

namespace RoseTree

variable {ν : Type}

def value : RoseTree ν → ν
  | .node value _ => value

def children : RoseTree ν → List (RoseTree ν)
  | .node _ children => children

mutual

def size : RoseTree ν → Nat
  | .node _ children => 1 + sizeAll children

def sizeAll : List (RoseTree ν) → Nat
  | [] => 0
  | tree :: trees => size tree + sizeAll trees

end

theorem size_eq (tree : RoseTree ν) : tree.size = 1 + sizeAll tree.children := by
  cases tree
  rfl

theorem sizeAll_append (trees trees' : List (RoseTree ν)) :
    sizeAll (trees ++ trees') = sizeAll trees + sizeAll trees' := by
  induction trees with
  | nil => simp [sizeAll]
  | cons tree trees ih => simp [sizeAll, ih, Nat.add_assoc]

def subtree (root : RoseTree ν) : List Nat → Option (RoseTree ν)
  | [] => some root
  | index :: path => (subtree root path).bind fun tree => tree.children[index]?

inductive Reaches (closed : ν → Bool) (root : RoseTree ν) : List Nat → Prop where
  | root : Reaches closed root []
  | child {path : List Nat} {tree : RoseTree ν} {index : Nat} (hpath : Reaches closed root path)
      (htree : root.subtree path = some tree) (hopen : closed tree.value = false)
      (hindex : index < tree.children.length) : Reaches closed root (index :: path)

end RoseTree

def Above (path path' : List Nat) : Prop := path <:+ path' ∧ path ≠ path'

theorem above_cons_iff {path path' : List Nat} {index : Nat} :
    Above path (index :: path') ↔ path <:+ path' := by
  constructor
  · rintro ⟨hsuffix, hne⟩
    exact (List.suffix_cons_iff.mp hsuffix).resolve_left hne
  · intro hsuffix
    refine ⟨hsuffix.trans (List.suffix_cons _ _), ?_⟩
    rintro rfl
    have hlength := hsuffix.length_le
    rw [List.length_cons] at hlength
    omega

theorem not_above_nil {path : List Nat} : ¬ Above path [] := by
  rintro ⟨hsuffix, hne⟩
  exact hne (List.suffix_nil.mp hsuffix)

theorem Above.length_lt {path path' : List Nat} (h : Above path path') :
    path.length < path'.length :=
  Nat.lt_of_le_of_ne h.1.length_le fun heq => h.2 (h.1.eq_of_length heq)

/-! ## The loop -/

inductive Reading (ε ο : Type) where
  | values (values : ο)
  | fail (error : ε)
  | cut
  | skip

structure Walk (ν ο κ ε : Type) where
  maxNodes : Nat
  maxDepth : Nat
  maxBytes : Nat
  key : Nat → κ
  read : ν → Reading ε ο
  emits : Nat → ο → Bool
  bytes : ο → Nat
  descends : ο → Bool

inductive Cut where
  | deadline
  | nodes
  | depth
  | bytes
  | failure
  deriving DecidableEq, Repr

namespace Walk

structure Pending (ν κ : Type) where
  path : List Nat
  tree : RoseTree ν
  nearestParent : Option κ
  depth : Nat

structure Emitted (ο κ : Type) where
  key : κ
  parentKey : Option κ
  path : List Nat
  values : ο

structure Progress (ν ο κ : Type) where
  queue : List (Pending ν κ)
  emitted : List (Emitted ο κ)
  visited : List (List Nat)
  aggregateBytes : Nat
  truncation : Option Cut

inductive Turn (ν ο κ ε : Type) where
  | goOn (progress : Progress ν ο κ)
  | stop (progress : Progress ν ο κ)
  | fail (error : ε)

variable {ν ο κ ε : Type}

def start (root : RoseTree ν) : Progress ν ο κ := ⟨[⟨[], root, none, 0⟩], [], [], 0, none⟩

def Pending.below (entry : Pending ν κ) (nearestParent : Option κ) : List (Pending ν κ) :=
  entry.tree.children.mapIdx fun index tree =>
    ⟨index :: entry.path, tree, nearestParent, entry.depth + 1⟩

variable (walk : Walk ν ο κ ε)

def emission (entry : Pending ν κ) (values : ο) (progress : Progress ν ο κ) : Emitted ο κ :=
  ⟨walk.key progress.emitted.length, entry.nearestParent, entry.path, values⟩

def below (entry : Pending ν κ) (values : ο) (nearestParent : Option κ) : List (Pending ν κ) :=
  if walk.descends values then entry.below nearestParent else []

def proceed (entry : Pending ν κ) (values : ο) (progress : Progress ν ο κ) : Turn ν ο κ ε :=
  if walk.emits entry.depth values then
    let emission := walk.emission entry values progress
    let aggregateBytes := progress.aggregateBytes + walk.bytes values
    if walk.maxBytes < aggregateBytes then
      .stop { progress with aggregateBytes := aggregateBytes, truncation := some .bytes }
    else
      .goOn { progress with
        queue := progress.queue ++ walk.below entry values (some emission.key)
        emitted := progress.emitted ++ [emission]
        aggregateBytes := aggregateBytes }
  else
    .goOn { progress with
      queue := progress.queue ++ walk.below entry values entry.nearestParent }

def turn (expired : Bool) (entry : Pending ν κ) (progress : Progress ν ο κ) : Turn ν ο κ ε :=
  if expired then .stop { progress with truncation := some .deadline }
  else if walk.maxNodes ≤ progress.visited.length then
    .stop { progress with truncation := some .nodes }
  else if walk.maxDepth < entry.depth then
    .goOn { progress with truncation := some (progress.truncation.getD .depth) }
  else
    let progress := { progress with visited := progress.visited ++ [entry.path] }
    match walk.read entry.tree.value with
    | .fail error => .fail error
    | .cut => .stop { progress with truncation := some .failure }
    | .skip => .goOn progress
    | .values values => walk.proceed entry values progress

def Progress.weight (progress : Progress ν ο κ) : Nat :=
  RoseTree.sizeAll (progress.queue.map Pending.tree)

def Progress.popped (progress : Progress ν ο κ) (rest : List (Pending ν κ)) : Progress ν ο κ :=
  { progress with queue := rest }

/-! ### One turn -/

section Turns

variable {walk} {expired : Bool} {entry : Pending ν κ} {progress progress' : Progress ν ο κ}

/-- A turn that goes on has passed over a node below the depth limit, or has visited
one, and emitted it or not.  The children of a visited node are queued, or none. -/
inductive GoesOn (walk : Walk ν ο κ ε) (entry : Pending ν κ) (progress : Progress ν ο κ) :
    Progress ν ο κ → Prop where
  | passed (hdepth : walk.maxDepth < entry.depth) :
      GoesOn walk entry progress
        { progress with truncation := some (progress.truncation.getD .depth) }
  | emitted (hnodes : progress.visited.length < walk.maxNodes)
      (hdepth : entry.depth ≤ walk.maxDepth) (values : ο)
      (hread : walk.read entry.tree.value = .values values)
      (hbytes : progress.aggregateBytes + walk.bytes values ≤ walk.maxBytes)
      (hemits : walk.emits entry.depth values = true) :
      GoesOn walk entry progress
        { progress with
          queue := progress.queue ++
            walk.below entry values (some (walk.emission entry values progress).key)
          emitted := progress.emitted ++ [walk.emission entry values progress]
          visited := progress.visited ++ [entry.path]
          aggregateBytes := progress.aggregateBytes + walk.bytes values }
  | skipped (hnodes : progress.visited.length < walk.maxNodes)
      (hdepth : entry.depth ≤ walk.maxDepth) (values : ο)
      (hread : walk.read entry.tree.value = .values values)
      (hemits : walk.emits entry.depth values = false) :
      GoesOn walk entry progress
        { progress with
          queue := progress.queue ++ walk.below entry values entry.nearestParent
          visited := progress.visited ++ [entry.path] }
  | unread (hnodes : progress.visited.length < walk.maxNodes)
      (hdepth : entry.depth ≤ walk.maxDepth) (hread : walk.read entry.tree.value = .skip) :
      GoesOn walk entry progress { progress with visited := progress.visited ++ [entry.path] }

structure Stops (walk : Walk ν ο κ ε) (entry : Pending ν κ) (progress progress' : Progress ν ο κ) :
    Prop where
  emitted : progress'.emitted = progress.emitted
  truncated : progress'.truncation ≠ none
  visited : progress'.visited = progress.visited ∨
    progress'.visited = progress.visited ++ [entry.path] ∧
      progress.visited.length < walk.maxNodes ∧ entry.depth ≤ walk.maxDepth

theorem turn_eq_of_visit (hexpired : expired = false)
    (hnodes : progress.visited.length < walk.maxNodes) (hdepth : entry.depth ≤ walk.maxDepth) :
    walk.turn expired entry progress =
      match walk.read entry.tree.value with
      | .fail error => .fail error
      | .cut =>
          .stop { progress with
            visited := progress.visited ++ [entry.path], truncation := some .failure }
      | .skip => .goOn { progress with visited := progress.visited ++ [entry.path] }
      | .values values =>
          walk.proceed entry values
            { progress with visited := progress.visited ++ [entry.path] } := by
  rw [turn, if_neg (by simp [hexpired]), if_neg (by omega), if_neg (by omega)]

theorem goesOn_of_turn (h : walk.turn expired entry progress = .goOn progress') :
    GoesOn walk entry progress progress' := by
  by_cases hexpired : expired = true
  · simp [turn, hexpired] at h
  by_cases hnodes : walk.maxNodes ≤ progress.visited.length
  · simp [turn, hexpired, hnodes] at h
  by_cases hdepth : walk.maxDepth < entry.depth
  · rw [turn, if_neg hexpired, if_neg hnodes, if_pos hdepth] at h
    obtain rfl := Turn.goOn.inj h
    exact .passed hdepth
  · rw [turn_eq_of_visit (by simpa using hexpired) (by omega) (by omega)] at h
    split at h
    · cases h
    · cases h
    case h_3 hread =>
      obtain rfl := Turn.goOn.inj h
      exact .unread (by omega) (by omega) hread
    case h_4 values hread =>
      rw [proceed] at h
      split at h
      · dsimp only at h
        split at h
        · cases h
        case isFalse hbytes =>
          obtain rfl := Turn.goOn.inj h
          exact .emitted (by omega) (by omega) values hread (by omega) ‹_›
      · obtain rfl := Turn.goOn.inj h
        exact .skipped (by omega) (by omega) values hread (Bool.eq_false_of_not_eq_true ‹_›)

theorem stops_of_turn (h : walk.turn expired entry progress = .stop progress') :
    Stops walk entry progress progress' := by
  by_cases hexpired : expired = true
  · rw [turn, if_pos hexpired] at h
    obtain rfl := Turn.stop.inj h
    exact ⟨rfl, by simp, .inl rfl⟩
  by_cases hnodes : walk.maxNodes ≤ progress.visited.length
  · rw [turn, if_neg hexpired, if_pos hnodes] at h
    obtain rfl := Turn.stop.inj h
    exact ⟨rfl, by simp, .inl rfl⟩
  by_cases hdepth : walk.maxDepth < entry.depth
  · simp [turn, hexpired, hnodes, hdepth] at h
  · rw [turn_eq_of_visit (by simpa using hexpired) (by omega) (by omega)] at h
    split at h
    · cases h
    · obtain rfl := Turn.stop.inj h
      exact ⟨rfl, by simp, .inr ⟨rfl, by omega, by omega⟩⟩
    · cases h
    case h_4 values hread =>
      rw [proceed] at h
      split at h
      · dsimp only at h
        split at h
        · obtain rfl := Turn.stop.inj h
          exact ⟨rfl, by simp, .inr ⟨rfl, by omega, by omega⟩⟩
        · cases h
      · cases h

theorem Pending.map_tree_below (entry : Pending ν κ) (nearestParent : Option κ) :
    (entry.below nearestParent).map Pending.tree = entry.tree.children := by
  apply List.ext_getElem?
  intro index
  rw [below, List.getElem?_map, List.getElem?_mapIdx, Option.map_map]
  exact congrFun Option.map_id _

variable (walk) in
theorem weight_below_le (entry : Pending ν κ) (values : ο) (nearestParent : Option κ) :
    RoseTree.sizeAll ((walk.below entry values nearestParent).map Pending.tree) <
      entry.tree.size := by
  rw [below, RoseTree.size_eq]
  split
  · rw [Pending.map_tree_below]
    omega
  · simp only [List.map_nil, RoseTree.sizeAll]
    omega

theorem GoesOn.weight_lt (h : GoesOn walk entry progress progress') :
    progress'.weight < entry.tree.size + progress.weight := by
  have hsize := RoseTree.size_eq entry.tree
  cases h with
  | passed =>
    simp only [Progress.weight]
    omega
  | emitted _ _ values =>
    have hbelow := weight_below_le walk entry values
      (some (walk.emission entry values progress).key)
    simp only [Progress.weight, List.map_append, RoseTree.sizeAll_append]
    omega
  | skipped _ _ values =>
    have hbelow := weight_below_le walk entry values entry.nearestParent
    simp only [Progress.weight, List.map_append, RoseTree.sizeAll_append]
    omega
  | unread =>
    simp only [Progress.weight]
    omega

end Turns

set_option linter.unusedVariables false in
/-- The loop; `expired` answers whether the deadline has passed, once in each turn. -/
def loop (expired : Nat → Bool) (round : Nat) (progress : Progress ν ο κ) :
    Except ε (Progress ν ο κ) :=
  match hqueue : progress.queue with
  | [] => .ok progress
  | entry :: rest =>
      match hturn : walk.turn (expired round) entry (progress.popped rest) with
      | .goOn progress' => loop expired (round + 1) progress'
      | .stop progress' => .ok progress'
      | .fail error => .error error
termination_by progress.weight
decreasing_by
  have hlt := (goesOn_of_turn hturn).weight_lt
  simp only [Progress.weight, Progress.popped, hqueue, List.map_cons, RoseTree.sizeAll] at hlt ⊢
  exact hlt

/-- The loop for a number of turns that is known to be enough. -/
def advance (expired : Nat → Bool) :
    Nat → Nat → Progress ν ο κ → Option (Except ε (Progress ν ο κ))
  | 0, _, _ => none
  | fuel + 1, round, progress =>
      match progress.queue with
      | [] => some (.ok progress)
      | entry :: rest =>
          match walk.turn (expired round) entry (progress.popped rest) with
          | .goOn progress' => advance expired fuel (round + 1) progress'
          | .stop progress' => some (.ok progress')
          | .fail error => some (.error error)

def run (expired : Nat → Bool) (root : RoseTree ν) : Except ε (Progress ν ο κ) :=
  walk.loop expired 0 (start root)

section Loop

variable {walk} {expired : Nat → Bool} {round : Nat} {progress result : Progress ν ο κ}

theorem loop_of_empty (h : progress.queue = []) :
    walk.loop expired round progress = .ok progress := by
  rw [loop]
  split
  · rfl
  case h_2 hqueue =>
    rw [h] at hqueue
    cases hqueue

theorem loop_of_queued {entry : Pending ν κ} {rest : List (Pending ν κ)}
    (h : progress.queue = entry :: rest) :
    walk.loop expired round progress =
      match walk.turn (expired round) entry (progress.popped rest) with
      | .goOn progress' => walk.loop expired (round + 1) progress'
      | .stop progress' => .ok progress'
      | .fail error => .error error := by
  rw [loop]
  split
  case h_1 hqueue =>
    rw [h] at hqueue
    cases hqueue
  case h_2 hqueue =>
    rw [h] at hqueue
    cases hqueue
    split <;> simp_all

theorem loop_of_advance {fuel : Nat} {outcome : Except ε (Progress ν ο κ)}
    (h : walk.advance expired fuel round progress = some outcome) :
    walk.loop expired round progress = outcome := by
  induction fuel generalizing round progress with
  | zero => cases h
  | succ fuel ih =>
    rw [advance] at h
    split at h
    case h_1 hqueue =>
      rw [loop_of_empty hqueue]
      exact Option.some.inj h
    case h_2 entry rest hqueue =>
      rw [loop_of_queued hqueue]
      split at h
      · exact ih h
      · exact Option.some.inj h
      · exact Option.some.inj h

theorem run_of_advance {root : RoseTree ν} {fuel : Nat} {p : Progress ν ο κ → Bool}
    (h : (walk.advance expired fuel 0 (start root)).any (fun outcome => outcome.toOption.any p)) :
    ∃ progress, walk.run expired root = .ok progress ∧ p progress = true := by
  cases hadvance : walk.advance expired fuel 0 (start root) with
  | none => simp [hadvance] at h
  | some outcome =>
    rw [hadvance] at h
    cases outcome with
    | error error => cases h
    | ok progress => exact ⟨progress, loop_of_advance hadvance, h⟩

theorem loop_induction {I Q : Progress ν ο κ → Prop}
    (hgo : ∀ progress entry rest progress', I progress → progress.queue = entry :: rest →
      GoesOn walk entry (progress.popped rest) progress' → I progress')
    (hstop : ∀ progress entry rest progress', I progress → progress.queue = entry :: rest →
      Stops walk entry (progress.popped rest) progress' → Q progress')
    (hend : ∀ progress, I progress → progress.queue = [] → Q progress) (hI : I progress)
    (h : walk.loop expired round progress = .ok result) : Q result := by
  induction round, progress using loop.induct walk expired with
  | case1 round progress hqueue =>
    rw [loop_of_empty hqueue] at h
    obtain rfl := Except.ok.inj h
    exact hend _ hI hqueue
  | case2 round progress entry rest hqueue progress' hturn ih =>
    rw [loop_of_queued hqueue, hturn] at h
    exact ih (hgo _ _ _ _ hI hqueue (goesOn_of_turn hturn)) h
  | case3 round progress entry rest hqueue progress' hturn =>
    rw [loop_of_queued hqueue, hturn] at h
    obtain rfl := Except.ok.inj h
    exact hstop _ _ _ _ hI hqueue (stops_of_turn hturn)
  | case4 round progress entry rest hqueue error hturn =>
    rw [loop_of_queued hqueue, hturn] at h
    cases h

end Loop

end Walk

end NexusCua.Foundation
