import NexusCua.Foundation.Traversal

/-!
# The order of a traversal

The queue visits a tree level by level, as far as its depth goes.  When it stops,
what it has emitted is what some beginning of that order shows; and a beginning
that can be read and that keeps to the limits is where a deadline stops it.
-/

namespace NexusCua.Foundation

/-! ## Levels -/

/-- A node and its path. -/
abbrev Located (ν : Type) := List Nat × RoseTree ν

namespace RoseTree

section Branches

variable {ν : Type} {entry child : Located ν}

def branches (entry : Located ν) : List (Located ν) :=
  entry.2.children.mapIdx fun index tree => (index :: entry.1, tree)

theorem mem_branches : child ∈ branches entry ↔
    ∃ index, child.1 = index :: entry.1 ∧ entry.2.children[index]? = some child.2 := by
  rw [branches, List.mem_mapIdx]
  constructor
  · rintro ⟨index, hlt, rfl⟩
    exact ⟨index, rfl, List.getElem?_eq_getElem hlt⟩
  · rintro ⟨index, hpath, htree⟩
    obtain ⟨hlt, hget⟩ := List.getElem?_eq_some_iff.mp htree
    exact ⟨index, hlt, Prod.ext hpath.symm hget⟩

theorem pairwise_branches (entry : Located ν) : (branches entry).Pairwise fun a b => a.1 ≠ b.1 := by
  rw [List.pairwise_iff_getElem]
  intro i j hi hj hlt heq
  simp only [branches, List.getElem_mapIdx, List.cons.injEq] at heq
  omega

end Branches

variable {ν : Type} (next : Located ν → List (Located ν)) (root : RoseTree ν)

/-- The nodes at one depth; `next` are the children that a node shows. -/
def level : Nat → List (Located ν)
  | 0 => [([], root)]
  | depth + 1 => (level depth).flatMap next

def levels (count : Nat) : List (Located ν) := (List.range count).flatMap (level next root)

/-- `done` have been visited, and `queue` are the rest of a level and what is next below.
As long as `whole` holds, no node has been passed over. -/
inductive Ahead (maxDepth : Nat) (whole : Prop) :
    List (Located ν) → List (Located ν) → Prop where
  | within {depth : Nat} {part rest : List (Located ν)} (hdepth : depth ≤ maxDepth)
      (hlevel : level next root depth = part ++ rest) :
      Ahead maxDepth whole (levels next root depth ++ part) (rest ++ part.flatMap next)
  | beyond {queue : List (Located ν)} (hqueue : ∀ entry ∈ queue, maxDepth < entry.1.length)
      (hwhole : whole → queue = level next root (maxDepth + 1)) :
      Ahead maxDepth whole (levels next root (maxDepth + 1)) queue

variable {next root} {count count' depth maxDepth : Nat} {whole : Prop} {entry : Located ν}
  {done queue rest : List (Located ν)}

theorem levels_succ :
    levels next root (count + 1) = levels next root count ++ level next root count := by
  simp [levels, List.range_succ]

theorem mem_levels : entry ∈ levels next root count ↔
    ∃ depth < count, entry ∈ level next root depth := by
  simp [levels]

theorem levels_mono (h : count ≤ count') :
    levels next root count <+: levels next root count' := by
  induction h with
  | refl => exact List.prefix_rfl
  | step _ ih =>
      rw [levels_succ]
      exact ih.trans (List.prefix_append _ _)

theorem levels_eq_of_level_eq_nil (h : level next root count = []) (hle : count ≤ count') :
    level next root count' = [] ∧ levels next root count' = levels next root count := by
  induction hle with
  | refl => exact ⟨h, rfl⟩
  | step _ ih => exact ⟨by simp [level, ih.1], by rw [levels_succ, ih.1, ih.2, List.append_nil]⟩

theorem Ahead.start : Ahead next root maxDepth whole [] [([], root)] :=
  @Ahead.within _ next root _ _ 0 [] _ (Nat.zero_le _) rfl

theorem Ahead.begins (h : Ahead next root maxDepth whole done queue) :
    done <+: levels next root (maxDepth + 1) := by
  cases h with
  | beyond => exact List.prefix_rfl
  | @within depth part rest hdepth hlevel =>
      refine List.IsPrefix.trans ?_ (levels_mono (Nat.succ_le_succ hdepth))
      rw [levels_succ, hlevel, ← List.append_assoc]
      exact List.prefix_append _ _

theorem Ahead.eq_of_nil (h : Ahead next root maxDepth whole done queue) (hqueue : queue = []) :
    done = levels next root (maxDepth + 1) ∧ (whole → level next root (maxDepth + 1) = []) := by
  cases h with
  | beyond _ hwhole => exact ⟨rfl, fun h => (hwhole h).symm.trans hqueue⟩
  | @within depth part rest hdepth hlevel =>
      obtain ⟨rfl, hbelow⟩ := List.append_eq_nil_iff.mp hqueue
      rw [List.append_nil] at hlevel
      have hnext : level next root (depth + 1) = [] := by rw [level, hlevel, hbelow]
      obtain ⟨hlast, hall⟩ := levels_eq_of_level_eq_nil hnext (Nat.succ_le_succ hdepth)
      exact ⟨by rw [hall, levels_succ, hlevel], fun _ => hlast⟩

section Next

variable (hnext : ∀ entry, (next entry).Sublist (branches entry))
include hnext

theorem exists_parent (h : entry ∈ level next root (depth + 1)) :
    ∃ parent ∈ level next root depth, ∃ index, entry.1 = index :: parent.1 ∧
      parent.2.children[index]? = some entry.2 := by
  obtain ⟨parent, hparent, hchild⟩ := List.mem_flatMap.mp h
  exact ⟨parent, hparent, mem_branches.mp ((hnext parent).subset hchild)⟩

theorem length_of_mem_level (h : entry ∈ level next root depth) : entry.1.length = depth := by
  induction depth generalizing entry with
  | zero => simp [List.mem_singleton.mp h]
  | succ depth ih =>
      obtain ⟨parent, hparent, index, hpath, -⟩ := exists_parent hnext h
      rw [hpath, List.length_cons, ih hparent]

theorem subtree_of_mem_level (h : entry ∈ level next root depth) :
    root.subtree entry.1 = some entry.2 := by
  induction depth generalizing entry with
  | zero => simp [List.mem_singleton.mp h, subtree]
  | succ depth ih =>
      obtain ⟨parent, hparent, index, hpath, htree⟩ := exists_parent hnext h
      rw [hpath, subtree, ih hparent, Option.bind_some, htree]

theorem pairwise_level : (level next root depth).Pairwise fun a b => a.1 ≠ b.1 := by
  induction depth with
  | zero => exact List.pairwise_singleton _ _
  | succ depth ih =>
      refine List.pairwise_flatMap.mpr
        ⟨fun parent _ => (pairwise_branches parent).sublist (hnext parent),
        ih.imp fun {parent parent'} hne child hchild child' hchild' heq => ?_⟩
      obtain ⟨index, hpath, -⟩ := mem_branches.mp ((hnext parent).subset hchild)
      obtain ⟨index', hpath', -⟩ := mem_branches.mp ((hnext parent').subset hchild')
      rw [hpath, hpath'] at heq
      exact hne (List.cons.inj heq).2

theorem pairwise_levels : (levels next root count).Pairwise fun a b =>
    a.1 ≠ b.1 ∧ a.1.length ≤ b.1.length := by
  induction count with
  | zero => exact List.Pairwise.nil
  | succ count ih =>
      rw [levels_succ, List.pairwise_append]
      refine ⟨ih, (pairwise_level hnext).imp_of_mem fun ha hb hne => ⟨hne, ?_⟩,
        fun a ha b hb => ?_⟩
      · rw [length_of_mem_level hnext ha, length_of_mem_level hnext hb]
      · obtain ⟨depth, hdepth, ha⟩ := mem_levels.mp ha
        have hlt : a.1.length < b.1.length := by
          rw [length_of_mem_level hnext ha, length_of_mem_level hnext hb]
          exact hdepth
        exact ⟨fun heq => hlt.ne (congrArg _ heq), hlt.le⟩

theorem Ahead.visit {part tail : List (Located ν)} (hdepth : depth ≤ maxDepth)
    (hlevel : level next root depth = part ++ entry :: tail) : entry.1.length ≤ maxDepth ∧
      (∀ other ∈ tail ++ part.flatMap next, ¬ Above entry.1 other.1) ∧
      Ahead next root maxDepth whole (levels next root depth ++ part ++ [entry])
        (tail ++ part.flatMap next ++ next entry) := by
  have hlength : ∀ other ∈ part ++ entry :: tail, other.1.length = depth := fun other hother =>
    length_of_mem_level hnext (by rwa [hlevel])
  have hentry := hlength entry (by simp)
  have hstep : Ahead next root maxDepth whole (levels next root depth ++ (part ++ [entry]))
      (tail ++ (part ++ [entry]).flatMap next) := .within hdepth (by simp [hlevel])
  refine ⟨hentry ▸ hdepth, fun other hother habove => ?_, by simpa using hstep⟩
  rcases List.mem_append.mp hother with hother | hother
  · have hlt := habove.length_lt
    rw [hentry, hlength other (by simp [hother])] at hlt
    exact lt_irrefl _ hlt
  · -- it is below a node of the level that comes before the head
    obtain ⟨parent, hparent, hchild⟩ := List.mem_flatMap.mp hother
    obtain ⟨index, hpath, -⟩ := mem_branches.mp ((hnext parent).subset hchild)
    rw [hpath, above_cons_iff] at habove
    have hpairs := @pairwise_level _ next root depth hnext
    rw [hlevel] at hpairs
    refine (List.pairwise_append.mp hpairs).2.2 parent hparent entry (by simp) ?_
    exact (habove.eq_of_length (hentry.trans (hlength parent (by simp [hparent])).symm)).symm

/-- The head of the queue comes next in the order and is above nothing else in the queue,
unless it lies too deep. -/
theorem Ahead.cons (h : Ahead next root maxDepth whole done (entry :: rest)) :
    (entry.1.length ≤ maxDepth ∧ (∀ other ∈ rest, ¬ Above entry.1 other.1) ∧
        Ahead next root maxDepth whole (done ++ [entry]) (rest ++ next entry)) ∨
      maxDepth < entry.1.length ∧ done = levels next root (maxDepth + 1) ∧
        ∀ whole', ¬ whole' → Ahead next root maxDepth whole' done rest := by
  have hdeep : (∀ e ∈ entry :: rest, maxDepth < e.1.length) → maxDepth < entry.1.length ∧
      levels next root (maxDepth + 1) = levels next root (maxDepth + 1) ∧ ∀ whole', ¬ whole' →
        Ahead next root maxDepth whole' (levels next root (maxDepth + 1)) rest := fun hqueue =>
    ⟨hqueue entry (by simp), rfl,
      fun _ hnot => .beyond (fun e he => hqueue e (by simp [he])) fun h => absurd h hnot⟩
  generalize hqueue : entry :: rest = queue at h
  cases h with
  | beyond hbeyond =>
      subst hqueue
      exact .inr (hdeep hbeyond)
  | @within depth part tail hdepth hlevel =>
      cases tail with
      | cons head tail =>
          obtain ⟨rfl, rfl⟩ := List.cons.inj hqueue
          exact .inl (Ahead.visit hnext hdepth hlevel)
      | nil =>
          -- the level is done, and the queue is the next one
          rw [List.append_nil] at hlevel
          rw [List.nil_append, ← hlevel] at hqueue
          rw [← hlevel, ← levels_succ]
          by_cases hlast : depth < maxDepth
          · have hlevel' : level next root (depth + 1) = [] ++ entry :: rest := hqueue.symm
            exact .inl (by simpa using Ahead.visit hnext hlast hlevel')
          · obtain rfl : depth = maxDepth := by omega
            refine .inr (hdeep fun e he => ?_)
            rw [hqueue] at he
            have hlength : e.1.length = depth + 1 := length_of_mem_level hnext he
            omega

/-- When nothing lies too deep, the levels have every node that is reached. -/
theorem mem_levels_of_reaches {closed : ν → Bool} (hlast : level next root (maxDepth + 1) = [])
    (hopen : ∀ entry ∈ levels next root (maxDepth + 1), closed entry.2.value = false →
      next entry = branches entry) {path : List Nat} (h : root.Reaches closed path) :
    path ∈ (levels next root (maxDepth + 1)).map Prod.fst := by
  induction h with
  | root => exact List.mem_map.mpr ⟨([], root), mem_levels.mpr ⟨0, by simp, by simp [level]⟩, rfl⟩
  | @child path tree index _ htree hclosed hindex ih =>
      obtain ⟨node, hnode, rfl⟩ := List.mem_map.mp ih
      obtain ⟨depth, hdepth, hlevel⟩ := mem_levels.mp hnode
      obtain rfl : node.2 = tree :=
        Option.some.inj ((subtree_of_mem_level hnext hlevel).symm.trans htree)
      have hbelow : (index :: node.1, node.2.children[index]) ∈ level next root (depth + 1) := by
        refine List.mem_flatMap.mpr ⟨node, hlevel, ?_⟩
        rw [hopen node hnode hclosed]
        exact mem_branches.mpr ⟨index, rfl, List.getElem?_eq_getElem hindex⟩
      have hlt : depth + 1 < maxDepth + 1 := by
        refine lt_of_le_of_ne hdepth fun heq => ?_
        rw [heq, hlast] at hbelow
        cases hbelow
      exact List.mem_map.mpr ⟨_, mem_levels.mpr ⟨_, hlt, hbelow⟩, rfl⟩

end Next

end RoseTree

/-! ## The nearest node above -/

def nearestAbove (paths : List (List Nat)) : List Nat → Option (List Nat)
  | [] => none
  | _ :: path => if path ∈ paths then some path else nearestAbove paths path

section NearestAbove

variable {paths : List (List Nat)} {path above new : List Nat}

theorem nearestAbove_append (h : ¬ Above new path) :
    nearestAbove (paths ++ [new]) path = nearestAbove paths path := by
  induction path with
  | nil => rfl
  | cons index path ih =>
      have hne : path ≠ new := fun heq => h (above_cons_iff.mpr (heq ▸ List.suffix_rfl))
      rw [nearestAbove, nearestAbove, ih fun habove => h (above_cons_iff.mpr habove.1)]
      simp [hne]

theorem nearestAbove_eq_none (h : nearestAbove paths path = none) :
    ∀ other ∈ paths, ¬ Above other path := by
  induction path with
  | nil => exact fun _ _ => not_above_nil
  | cons index path ih =>
      rw [nearestAbove] at h
      split at h
      case isTrue => cases h
      case isFalse hpath =>
        intro other hother habove
        exact ih h other hother ⟨above_cons_iff.mp habove, fun heq => hpath (heq ▸ hother)⟩

theorem nearestAbove_eq_some (h : nearestAbove paths path = some above) :
    Above above path ∧ ∀ other ∈ paths, Above other path → other <:+ above := by
  induction path with
  | nil => cases h
  | cons index path ih =>
      rw [nearestAbove] at h
      split at h
      case isTrue =>
        obtain rfl := Option.some.inj h
        exact ⟨above_cons_iff.mpr List.suffix_rfl, fun _ _ => above_cons_iff.mp⟩
      case isFalse hpath =>
        obtain ⟨habove, hnearest⟩ := ih h
        refine ⟨above_cons_iff.mpr habove.1, fun other hother hover => ?_⟩
        exact hnearest other hother ⟨above_cons_iff.mp hover, fun heq => hpath (heq ▸ hother)⟩

end NearestAbove

namespace Walk

variable {ν ο κ ε : Type}

/-- The key is that of the nearest emitted node above, if there is one. -/
def Parented (emitted : List (Emitted ο κ)) (path : List Nat) (key : Option κ) : Prop :=
  ∃ parent : Option (Emitted ο κ), (∀ node ∈ parent, node ∈ emitted) ∧
    nearestAbove (emitted.map Emitted.path) path = parent.map Emitted.path ∧
    key = parent.map Emitted.key

namespace Parented

variable {emitted : List (Emitted ο κ)} {new : Emitted ο κ} {path : List Nat} {key : Option κ}

theorem append (h : Parented emitted path key) (hnew : ¬ Above new.path path) :
    Parented (emitted ++ [new]) path key := by
  obtain ⟨parent, hparent, hnearest, rfl⟩ := h
  refine ⟨parent, fun node hnode => List.mem_append_left _ (hparent node hnode), ?_, rfl⟩
  rw [List.map_append, List.map_singleton, nearestAbove_append hnew, hnearest]

theorem child (h : Parented emitted path key) (hpath : path ∉ emitted.map Emitted.path)
    (index : Nat) : Parented emitted (index :: path) key := by
  obtain ⟨parent, hparent, hnearest, rfl⟩ := h
  exact ⟨parent, hparent, by rw [nearestAbove, if_neg hpath, hnearest], rfl⟩

theorem child_of_emitted (index : Nat) :
    Parented (emitted ++ [new]) (index :: new.path) (some new.key) :=
  ⟨some new, by simp, by simp [nearestAbove], rfl⟩

end Parented

/-! ## What a beginning of the order shows -/

variable (walk : Walk ν ο κ ε)

def next (node : Located ν) : List (Located ν) :=
  match walk.read node.2.value with
  | .values values => if walk.descends values then RoseTree.branches node else []
  | _ => []

def order (root : RoseTree ν) : List (Located ν) :=
  RoseTree.levels walk.next root (walk.maxDepth + 1)

def readable (node : Located ν) : Bool :=
  match walk.read node.2.value with
  | .values _ | .skip => true
  | _ => false

def shows (node : Located ν) : Option (List Nat × ο) :=
  match walk.read node.2.value with
  | .values values => if walk.emits node.1.length values then some (node.1, values) else none
  | _ => none

def shown (nodes : List (Located ν)) : List (List Nat × ο) := nodes.filterMap walk.shows

def countedBytes (shown : List (List Nat × ο)) : Nat :=
  (shown.map fun node => walk.bytes node.2).sum

/-- A beginning of the order that can be read and keeps to the limits. -/
structure Visitable (root : RoseTree ν) (done : List (Located ν)) : Prop where
  begins : done <+: walk.order root
  nodes : done.length ≤ walk.maxNodes
  readable : ∀ node ∈ done, walk.readable node = true
  bytes : walk.countedBytes (walk.shown done) ≤ walk.maxBytes

def Pending.node (entry : Pending ν κ) : Located ν := (entry.path, entry.tree)

def Emitted.shown (node : Emitted ο κ) : List Nat × ο := (node.path, node.values)

structure Recorded (root : RoseTree ν) (progress : Progress ν ο κ) : Prop where
  nodes : progress.visited.length ≤ walk.maxNodes
  depth : ∀ path ∈ progress.visited, path.length ≤ walk.maxDepth
  visited : ∀ node ∈ progress.emitted, node.path ∈ progress.visited
  ordered : (progress.emitted.map Emitted.path).Pairwise fun path path' =>
    path ≠ path' ∧ path.length ≤ path'.length
  keys : progress.emitted.map Emitted.key = (List.range progress.emitted.length).map walk.key
  parents : ∀ node ∈ progress.emitted, Parented progress.emitted node.path node.parentKey
  shown : ∃ done, Visitable walk root done ∧
    progress.emitted.map Emitted.shown = walk.shown done

structure Ordered (root : RoseTree ν) (done : List (Located ν))
    (progress : Progress ν ο κ) : Prop where
  ahead : RoseTree.Ahead walk.next root walk.maxDepth (progress.truncation = none) done
    (progress.queue.map Pending.node)
  queued : ∀ entry ∈ progress.queue, entry.depth = entry.path.length ∧
    Parented progress.emitted entry.path entry.nearestParent
  visited : progress.visited = done.map Prod.fst
  shown : progress.emitted.map Emitted.shown = walk.shown done
  aggregate : progress.aggregateBytes = walk.countedBytes (walk.shown done)
  keys : progress.emitted.map Emitted.key = (List.range progress.emitted.length).map walk.key
  parents : ∀ node ∈ progress.emitted, Parented progress.emitted node.path node.parentKey
  visitable : Visitable walk root done

structure Closes (closed : ν → Bool) : Prop where
  pruned : ∀ value values, walk.read value = .values values → walk.descends values = false →
    closed value = true
  skipped : ∀ value, walk.read value = .skip → closed value = true

variable {walk} {root : RoseTree ν} {done nodes : List (Located ν)}
  {progress progress' result : Progress ν ο κ} {entry : Pending ν κ} {rest : List (Pending ν κ)}
  {values : ο} {expired : Nat → Bool} {closed : ν → Bool}

theorem next_sublist (node : Located ν) : (walk.next node).Sublist (RoseTree.branches node) := by
  rw [next]
  split
  · split
    · exact List.Sublist.refl _
    · exact List.nil_sublist _
  · exact List.nil_sublist _

theorem next_eq_below (hclosed : Closes walk closed) {node : Located ν}
    (hread : walk.readable node = true) (hopen : closed node.2.value = false) :
    walk.next node = RoseTree.branches node := by
  rw [readable] at hread
  rw [next]
  split
  case h_1 values hvalues =>
    refine if_pos (Bool.eq_true_of_not_eq_false fun hdescends => ?_)
    simp [hclosed.pruned _ _ hvalues hdescends] at hopen
  case h_2 hvalues =>
    split at hread
    · exact absurd ‹_› (hvalues _)
    · simp [hclosed.skipped _ ‹_›] at hopen
    · cases hread

theorem fst_of_shows {node : Located ν} {shown : List Nat × ο} (h : walk.shows node = some shown) :
    shown.1 = node.1 := by
  rw [shows] at h
  split at h
  · split at h
    · exact congrArg Prod.fst (Option.some.inj h).symm
    · cases h
  · cases h

theorem map_node_below (hread : walk.read entry.tree.value = .values values)
    (nearestParent : Option κ) :
    (walk.below entry values nearestParent).map Pending.node = walk.next entry.node := by
  simp only [below, next, Pending.node, hread]
  split
  · apply List.ext_getElem
    · simp [Pending.below, RoseTree.branches]
    · intro index _ _
      simp [Pending.below, Pending.node, RoseTree.branches]
  · rfl

theorem ordered_start : Ordered walk root [] (start root : Progress ν ο κ) where
  ahead := .start
  queued := by simpa [start] using ⟨none, by simp, rfl, rfl⟩
  visited := rfl
  shown := rfl
  aggregate := rfl
  keys := rfl
  parents := by simp [start]
  visitable := ⟨List.nil_prefix, Nat.zero_le _, by simp, Nat.zero_le _⟩

namespace Ordered

variable (h : Ordered walk root done progress)
include h

theorem path_mem {node : Emitted ο κ} (hnode : node ∈ progress.emitted) :
    node.path ∈ done.map Prod.fst := by
  have hshown : node.shown ∈ walk.shown done := h.shown ▸ List.mem_map_of_mem hnode
  obtain ⟨located, hlocated, hshows⟩ := List.mem_filterMap.mp hshown
  exact List.mem_map.mpr ⟨located, hlocated, (fst_of_shows hshows).symm⟩

section Head

variable (hqueue : progress.queue = entry :: rest)
include hqueue

theorem head : (entry.depth ≤ walk.maxDepth ∧ (∀ other ∈ rest, ¬ Above entry.path other.path) ∧
        RoseTree.Ahead walk.next root walk.maxDepth (progress.truncation = none)
          (done ++ [entry.node]) (rest.map Pending.node ++ walk.next entry.node)) ∨
      walk.maxDepth < entry.depth ∧ done = walk.order root ∧ ∀ whole, ¬ whole →
        RoseTree.Ahead walk.next root walk.maxDepth whole done (rest.map Pending.node) := by
  have hahead := h.ahead
  rw [hqueue, List.map_cons] at hahead
  rw [(h.queued entry (by simp [hqueue])).1]
  simpa [Pending.node, order] using hahead.cons next_sublist

/-- The nodes that have been visited come before the head of the queue. -/
theorem before_head (hdepth : entry.depth ≤ walk.maxDepth) :
    ∀ path ∈ done.map Prod.fst, path ≠ entry.path ∧ ¬ Above entry.path path := by
  obtain ⟨-, -, hahead⟩ | ⟨hdeep, -⟩ := h.head hqueue
  swap
  · omega
  have hpairs := (RoseTree.pairwise_levels next_sublist).sublist hahead.begins.sublist
  intro path hpath
  obtain ⟨node, hnode, rfl⟩ := List.mem_map.mp hpath
  obtain ⟨hne, hle⟩ := (List.pairwise_append.mp hpairs).2.2 node hnode entry.node (by simp)
  exact ⟨hne, fun habove => absurd habove.length_lt (Nat.not_lt.mpr hle)⟩

theorem visit (hdepth : entry.depth ≤ walk.maxDepth) {children : List (Pending ν κ)}
    {emitted : List (Emitted ο κ)} {aggregateBytes : Nat}
    (hchildren : children.map Pending.node = walk.next entry.node)
    (hqueued : ∀ child ∈ rest ++ children, child.depth = child.path.length ∧
      Parented emitted child.path child.nearestParent)
    (hshown : emitted.map Emitted.shown = walk.shown (done ++ [entry.node]))
    (haggregate : aggregateBytes = walk.countedBytes (walk.shown (done ++ [entry.node])))
    (hkeys : emitted.map Emitted.key = (List.range emitted.length).map walk.key)
    (hparents : ∀ node ∈ emitted, Parented emitted node.path node.parentKey)
    (hnodes : progress.visited.length < walk.maxNodes)
    (hread : walk.readable entry.node = true) (hbytes : aggregateBytes ≤ walk.maxBytes) :
    Ordered walk root (done ++ [entry.node]) ⟨rest ++ children, emitted,
      progress.visited ++ [entry.path], aggregateBytes, progress.truncation⟩ := by
  obtain ⟨-, -, hahead⟩ | ⟨hdeep, -⟩ := h.head hqueue
  swap
  · omega
  refine ⟨by simpa [hchildren] using hahead, hqueued, by simp [h.visited, Pending.node], hshown,
    haggregate, hkeys, hparents, hahead.begins, ?_, ?_, haggregate ▸ hbytes⟩
  · rw [h.visited, List.length_map] at hnodes
    rw [List.length_append, List.length_singleton]
    exact hnodes
  · intro node hnode
    rcases List.mem_append.mp hnode with hnode | hnode
    · exact h.visitable.readable node hnode
    · exact List.mem_singleton.mp hnode ▸ hread

theorem queued_below {emitted : List (Emitted ο κ)} {nearestParent : Option κ}
    (hparent : ∀ index, Parented emitted (index :: entry.path) nearestParent) :
    ∀ child ∈ walk.below entry values nearestParent, child.depth = child.path.length ∧
      Parented emitted child.path child.nearestParent := by
  intro child hchild
  rw [below] at hchild
  split at hchild
  · obtain ⟨index, hlt, rfl⟩ := List.mem_mapIdx.mp hchild
    exact ⟨by simp [(h.queued entry (by simp [hqueue])).1], hparent index⟩
  · cases hchild

theorem shows_head (hread : walk.read entry.tree.value = .values values) :
    walk.shows entry.node =
      if walk.emits entry.depth values then some (entry.path, values) else none := by
  rw [shows, Pending.node, hread, (h.queued entry (by simp [hqueue])).1]

/-- A node that is visited and not emitted changes only the queue. -/
theorem visit_unemitted (hdepth : entry.depth ≤ walk.maxDepth)
    (hnodes : progress.visited.length < walk.maxNodes) {children : List (Pending ν κ)}
    (hchildren : children.map Pending.node = walk.next entry.node)
    (hbelow : (∀ index, Parented progress.emitted (index :: entry.path) entry.nearestParent) →
      ∀ child ∈ children, child.depth = child.path.length ∧
        Parented progress.emitted child.path child.nearestParent)
    (hshows : walk.shows entry.node = none) (hread : walk.readable entry.node = true) :
    Ordered walk root (done ++ [entry.node]) { progress with
      queue := rest ++ children, visited := progress.visited ++ [entry.path] } := by
  have hshown : walk.shown (done ++ [entry.node]) = walk.shown done := by simp [Walk.shown, hshows]
  have hhead := h.queued entry (by simp [hqueue])
  refine h.visit hqueue hdepth hchildren (fun child hchild => ?_) (hshown ▸ h.shown)
    (hshown ▸ h.aggregate) h.keys h.parents hnodes hread (h.aggregate ▸ h.visitable.bytes)
  rcases List.mem_append.mp hchild with hchild | hchild
  · exact h.queued child (by simp [hqueue, hchild])
  · refine hbelow (fun index => hhead.2.child (fun hmem => ?_) index) child hchild
    obtain ⟨node, hnode, hpath⟩ := List.mem_map.mp hmem
    exact (h.before_head hqueue hdepth _ (h.path_mem hnode)).1 hpath

theorem goesOn (hstep : GoesOn walk entry (progress.popped rest) progress') :
    ∃ done', Ordered walk root done' progress' ∧
      (entry.depth ≤ walk.maxDepth → done' = done ++ [entry.node]) := by
  have hhead := h.queued entry (by simp [hqueue])
  have hrest : ∀ node ∈ rest, node.depth = node.path.length ∧
      Parented progress.emitted node.path node.nearestParent := fun node hnode =>
    h.queued node (by simp [hqueue, hnode])
  cases hstep with
  | passed hdepth =>
      obtain ⟨hle, -⟩ | ⟨-, -, hahead⟩ := h.head hqueue
      · omega
      · exact ⟨done, { h with ahead := hahead _ (by simp), queued := hrest }, by omega⟩
  | emitted hnodes hdepth values hread hlimit hemits =>
      obtain ⟨-, hahead, -⟩ | ⟨hdeep, -⟩ := h.head hqueue
      swap
      · omega
      have hshown : walk.shown (done ++ [entry.node]) =
          walk.shown done ++ [(entry.path, values)] := by
        simp [Walk.shown, h.shows_head hqueue hread, hemits]
      refine ⟨_, h.visit hqueue hdepth (map_node_below hread _) (fun node hnode => ?_) ?_ ?_ ?_
        (fun node hnode => ?_) hnodes (by simp [readable, Pending.node, hread]) hlimit,
        fun _ => rfl⟩
      · rcases List.mem_append.mp hnode with hnode | hnode
        · exact ⟨(hrest node hnode).1, (hrest node hnode).2.append (hahead node hnode)⟩
        · exact h.queued_below hqueue Parented.child_of_emitted node hnode
      · rw [hshown, ← h.shown, List.map_append]
        rfl
      · simp [hshown, countedBytes, h.aggregate, Progress.popped]
      · simp [Progress.popped, h.keys, List.range_succ, emission]
      · rcases List.mem_append.mp hnode with hnode | hnode
        · exact (h.parents node hnode).append (h.before_head hqueue hdepth _ (h.path_mem hnode)).2
        · rw [List.mem_singleton.mp hnode]
          exact hhead.2.append fun habove => habove.2 rfl
  | skipped hnodes hdepth values hread hemits =>
      exact ⟨_, h.visit_unemitted hqueue hdepth hnodes (map_node_below hread _)
        (h.queued_below hqueue) (by simp [h.shows_head hqueue hread, hemits])
        (by simp [readable, Pending.node, hread]), fun _ => rfl⟩
  | unread hnodes hdepth hread =>
      have hvisit := h.visit_unemitted hqueue hdepth hnodes (List.map_nil.trans
        (by simp [next, Pending.node, hread])) (by simp) (by simp [shows, Pending.node, hread])
        (by simp [readable, Pending.node, hread])
      exact ⟨_, by simpa [Progress.popped] using hvisit, fun _ => rfl⟩

end Head

theorem recorded (path : List Nat) (hemitted : result.emitted = progress.emitted)
    (hvisited : result.visited = progress.visited ∨ result.visited = progress.visited ++ [path] ∧
      progress.visited.length < walk.maxNodes ∧ path.length ≤ walk.maxDepth) :
    Recorded walk root result where
  nodes := by
    obtain heq | ⟨heq, hlt, -⟩ := hvisited
    · rw [heq, h.visited, List.length_map]
      exact h.visitable.nodes
    · rw [heq, List.length_append]
      exact hlt
  depth := by
    have hdone : ∀ path ∈ progress.visited, path.length ≤ walk.maxDepth := by
      intro path hpath
      rw [h.visited] at hpath
      obtain ⟨node, hnode, rfl⟩ := List.mem_map.mp hpath
      obtain ⟨depth, hdepth, hlevel⟩ :=
        RoseTree.mem_levels.mp (h.visitable.begins.subset hnode)
      rw [RoseTree.length_of_mem_level next_sublist hlevel]
      exact Nat.le_of_lt_succ hdepth
    obtain heq | ⟨heq, -, hle⟩ := hvisited
    · rwa [heq]
    · simpa [heq, or_imp, forall_and] using ⟨hdone, hle⟩
  visited node hnode := by
    have hmem : node.path ∈ progress.visited := h.visited ▸ h.path_mem (hemitted ▸ hnode)
    obtain heq | ⟨heq, -⟩ := hvisited <;> simp [heq, hmem]
  ordered := by
    have hdone := (RoseTree.pairwise_levels next_sublist).sublist h.visitable.begins.sublist
    have hshown : (walk.shown done).Pairwise fun a b => a.1 ≠ b.1 ∧ a.1.length ≤ b.1.length := by
      refine List.pairwise_filterMap.mpr (hdone.imp fun hab b hb b' hb' => ?_)
      rwa [fst_of_shows hb, fst_of_shows hb']
    rw [← h.shown, List.pairwise_map] at hshown
    exact hemitted ▸ List.pairwise_map.mpr hshown
  keys := hemitted ▸ h.keys
  parents := hemitted ▸ h.parents
  shown := ⟨done, h.visitable, hemitted ▸ h.shown⟩

end Ordered

theorem Recorded.nodup_keys (h : Recorded walk root progress) (hkey : Function.Injective walk.key) :
    (progress.emitted.map Emitted.key).Nodup :=
  h.keys ▸ List.nodup_range.map hkey

/-- The parent of an emitted node is the nearest emitted node above it. -/
theorem Recorded.parentKey_iff (h : Recorded walk root progress)
    (hkey : Function.Injective walk.key) {child node : Emitted ο κ}
    (hchild : child ∈ progress.emitted) (hnode : node ∈ progress.emitted) :
    child.parentKey = some node.key ↔
      nearestAbove (progress.emitted.map Emitted.path) child.path = some node.path := by
  have hpaths : (progress.emitted.map Emitted.path).Nodup := h.ordered.imp And.left
  obtain ⟨parent, hparent, hnearest, heq⟩ := h.parents child hchild
  rw [hnearest, heq]
  cases parent with
  | none => simp
  | some parent =>
      have hmem := hparent parent rfl
      simp only [Option.map_some, Option.some.injEq]
      exact ⟨fun heq => congrArg _ (List.inj_on_of_nodup_map (h.nodup_keys hkey) hmem hnode heq),
        fun heq => congrArg _ (List.inj_on_of_nodup_map hpaths hmem hnode heq)⟩

/-- A traversal records what it visits and emits, and one that is not cut short visits
every node it reaches. -/
theorem run_recorded (hclosed : Closes walk closed) (h : walk.run expired root = .ok result) :
    Recorded walk root result ∧
      (result.truncation = none → ∀ path, root.Reaches closed path → path ∈ result.visited) := by
  refine loop_induction (I := fun progress => ∃ done, Ordered walk root done progress)
    (Q := fun result => Recorded walk root result ∧
      (result.truncation = none → ∀ path, root.Reaches closed path → path ∈ result.visited))
    ?_ ?_ ?_ ⟨[], ordered_start⟩ h
  · rintro progress entry rest progress' ⟨done, hordered⟩ hqueue hstep
    obtain ⟨done', hordered', -⟩ := hordered.goesOn hqueue hstep
    exact ⟨done', hordered'⟩
  · rintro progress entry rest progress' ⟨done, hordered⟩ hqueue hstep
    refine ⟨hordered.recorded entry.path hstep.emitted ?_,
      fun hnone => absurd hnone hstep.truncated⟩
    rw [← (hordered.queued entry (by simp [hqueue])).1]
    exact hstep.visited
  · rintro progress ⟨done, hordered⟩ hqueue
    refine ⟨hordered.recorded [] rfl (.inl rfl), fun hnone path hpath => ?_⟩
    obtain ⟨rfl, hlast⟩ := hordered.ahead.eq_of_nil (by rw [hqueue, List.map_nil])
    rw [hordered.visited]
    exact RoseTree.mem_levels_of_reaches next_sublist (hlast hnone)
      (fun node hnode => next_eq_below hclosed (hordered.visitable.readable node hnode)) hpath

/-- Before the deadline the traversal visits what it can. -/
theorem Ordered.turn_goesOn (h : Ordered walk root done progress)
    (hqueue : progress.queue = entry :: rest) (hdepth : entry.depth ≤ walk.maxDepth)
    (hnext : Visitable walk root (done ++ [entry.node])) :
    ∃ progress', walk.turn false entry (progress.popped rest) = .goOn progress' := by
  have hnodes : progress.visited.length < walk.maxNodes := by
    have hlength := hnext.nodes
    rw [List.length_append, List.length_singleton] at hlength
    rw [h.visited, List.length_map]
    exact hlength
  have hread := hnext.readable entry.node (by simp)
  rw [@turn_eq_of_visit _ _ _ _ _ _ _ (progress.popped rest) rfl hnodes hdepth]
  simp only [readable, Pending.node] at hread
  split
  · simp_all
  · simp_all
  · exact ⟨_, rfl⟩
  case h_4 values hvalues =>
    rw [proceed]
    split
    case isFalse => exact ⟨_, rfl⟩
    case isTrue hemits =>
      have hbytes := hnext.bytes
      simp only [Walk.shown, List.filterMap_append, List.filterMap_cons,
        h.shows_head hqueue hvalues, hemits, if_true] at hbytes
      have hlimit : progress.aggregateBytes + walk.bytes values ≤ walk.maxBytes := by
        rw [h.aggregate]
        simpa [countedBytes, Walk.shown] using hbytes
      dsimp only
      rw [if_neg (by simpa [Progress.popped] using hlimit)]
      exact ⟨_, rfl⟩

theorem Visitable.of_prefix (h : Visitable walk root nodes) (hdone : done <+: nodes) :
    Visitable walk root done where
  begins := hdone.trans h.begins
  nodes := hdone.length_le.trans h.nodes
  readable node hnode := h.readable node (hdone.subset hnode)
  bytes := by
    obtain ⟨more, rfl⟩ := hdone
    have hbytes := h.bytes
    simp only [shown, List.filterMap_append, countedBytes, List.map_append,
      List.sum_append] at hbytes
    exact Nat.le_of_add_right_le hbytes

/-- A deadline stops the traversal at any beginning of the order that it can get to. -/
theorem run_of_visitable (h : Visitable walk root nodes) :
    ∃ result, walk.run (fun round => decide (nodes.length ≤ round)) root = .ok result ∧
      result.emitted.map Emitted.shown = walk.shown nodes := by
  suffices hloop : ∀ count (progress : Progress ν ο κ) done, Ordered walk root done progress →
      done <+: nodes → done.length + count = nodes.length →
      ∃ result, walk.loop (fun round => decide (nodes.length ≤ round)) done.length progress =
        .ok result ∧ result.emitted.map Emitted.shown = walk.shown nodes from
    hloop nodes.length _ [] ordered_start List.nil_prefix (by simp)
  intro count
  induction count with
  | zero =>
      intro progress done hordered hdone hcount
      obtain rfl : done = nodes := hdone.eq_of_length hcount
      cases hqueue : progress.queue with
      | nil => exact ⟨progress, loop_of_empty hqueue, hordered.shown⟩
      | cons entry rest =>
          rw [loop_of_queued hqueue, turn, if_pos (by simp)]
          exact ⟨_, rfl, hordered.shown⟩
  | succ count ih =>
      intro progress done hordered hdone hcount
      have hshort : ¬ nodes.length ≤ done.length := by omega
      have hall : done ≠ walk.order root := fun heq => hshort (heq ▸ h.begins.length_le)
      cases hqueue : progress.queue with
      | nil =>
          exact absurd (hordered.ahead.eq_of_nil (by rw [hqueue, List.map_nil])).1 hall
      | cons entry rest =>
          obtain ⟨hdepth, -, hahead⟩ | ⟨-, heq, -⟩ := hordered.head hqueue
          swap
          · exact absurd heq hall
          have hnext : done ++ [entry.node] <+: nodes :=
            List.prefix_of_prefix_length_le hahead.begins h.begins (by simp; omega)
          obtain ⟨progress', hturn⟩ :=
            hordered.turn_goesOn hqueue hdepth (h.of_prefix hnext)
          obtain ⟨done', hordered', hdone'⟩ := hordered.goesOn hqueue (goesOn_of_turn hturn)
          obtain rfl := hdone' hdepth
          rw [loop_of_queued hqueue, decide_eq_false hshort, hturn]
          simpa using ih progress' _ hordered' hnext (by simp; omega)

end Walk

end NexusCua.Foundation
