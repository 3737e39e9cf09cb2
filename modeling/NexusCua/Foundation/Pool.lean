import NexusCua.Foundation.Async

/-!
# Interleaved runs of a pool of tasks

A pool holds the shared state, the tasks and the steps taken so far.  A move
lets one task run its next block, admits a new command or lets the environment
change the shared state; nothing else restricts the order of the moves, so a
reachable pool is the outcome of an arbitrary interleaving.

A system keeps a contract when every command's program does.  The adequacy
theorem then turns the contract into a statement about the recorded steps
alone, on which the invariants of a system are proved by induction.
-/

namespace NexusCua.Foundation

open Async

/-- One recorded step; `task` is `none` for a step of the environment. -/
structure Step (σ ε : Type) where
  task : Option Nat
  pre : σ
  events : List ε
  post : σ

variable {σ ι ε κ ℓ : Type}

def Step.eventsOf (t : Nat) (e : Step σ ε) : List ε :=
  if e.task = some t then e.events else []

/-- The events task `t` has reported, oldest first. -/
def history (t : Nat) (steps : List (Step σ ε)) : List ε :=
  steps.flatMap (Step.eventsOf t)

structure Pool (σ ι ε : Type) where
  shared : σ
  tasks : List (Async σ ι ε Empty Unit)
  steps : List (Step σ ε)

inductive Move (ι κ ℓ : Type) where
  | run (task : Nat) (reply : ι)
  | spawn (command : κ)
  | environment (label : ℓ)
  deriving DecidableEq, Repr

structure System (σ ι ε κ ℓ : Type) where
  init : σ → Prop
  program : κ → Async σ ι ε Empty Unit
  environment : ℓ → σ → Option σ

namespace Pool

def start (s : σ) : Pool σ ι ε := ⟨s, [], []⟩

def resume (c : Pool σ ι ε) (t : Nat) (reply : ι) :
    Async σ ι ε Empty Unit → Option (Pool σ ι ε)
  | .done _ => none
  | .fail error => error.elim
  | .step block next =>
      match block reply c.shared with
      | none => none
      | some (s', es, b) =>
          some ⟨s', c.tasks.set t (next b), c.steps ++ [⟨some t, c.shared, es, s'⟩]⟩

def move (S : System σ ι ε κ ℓ) (c : Pool σ ι ε) : Move ι κ ℓ → Option (Pool σ ι ε)
  | .run t reply =>
      match c.tasks[t]? with
      | none => none
      | some p => c.resume t reply p
  | .spawn command => some { c with tasks := c.tasks ++ [S.program command] }
  | .environment label =>
      match S.environment label c.shared with
      | none => none
      | some s' => some { c with shared := s', steps := c.steps ++ [⟨none, c.shared, [], s'⟩] }

def run (S : System σ ι ε κ ℓ) : List (Move ι κ ℓ) → Pool σ ι ε → Option (Pool σ ι ε)
  | [], c => some c
  | m :: moves, c =>
      match c.move S m with
      | none => none
      | some c' => run S moves c'

def finished (c : Pool σ ι ε) (t : Nat) : Bool :=
  match c.tasks[t]? with
  | some (.done _) => true
  | _ => false

end Pool

inductive Reachable (S : System σ ι ε κ ℓ) : Pool σ ι ε → Prop where
  | start {s : σ} (hs : S.init s) : Reachable S (Pool.start s)
  | move {c c' : Pool σ ι ε} {m : Move ι κ ℓ} (hc : Reachable S c)
      (hm : c.move S m = some c') : Reachable S c'

variable {S : System σ ι ε κ ℓ}

theorem Reachable.run {c c' : Pool σ ι ε} {moves : List (Move ι κ ℓ)}
    (hc : Reachable S c) (hr : c.run S moves = some c') : Reachable S c' := by
  induction moves generalizing c with
  | nil =>
      cases hr
      exact hc
  | cons m moves ih =>
      simp only [Pool.run] at hr
      cases hm : c.move S m with
      | none => simp [hm] at hr
      | some d =>
          simp only [hm] at hr
          exact ih (hc.move hm) hr

theorem Reachable.of_run {s : σ} {moves : List (Move ι κ ℓ)}
    (hs : S.init s) (hr : ((Pool.start s).run S moves).isSome) :
    Reachable S (((Pool.start s).run S moves).get hr) :=
  (Reachable.start hs).run (Option.some_get hr).symm

/-! ## Histories -/

@[simp] theorem history_nil (t : Nat) : history t ([] : List (Step σ ε)) = [] := rfl

theorem history_append (t : Nat) (before after : List (Step σ ε)) :
    history t (before ++ after) = history t before ++ history t after := by
  simp [history]

theorem history_snoc_self (t : Nat) (steps : List (Step σ ε)) (s s' : σ) (es : List ε) :
    history t (steps ++ [⟨some t, s, es, s'⟩]) = history t steps ++ es := by
  simp [history, Step.eventsOf]

variable {t : Nat}

theorem history_snoc_other (steps : List (Step σ ε)) {e : Step σ ε}
    (he : e.task ≠ some t) : history t (steps ++ [e]) = history t steps := by
  simp [history, Step.eventsOf, he]

variable {steps : List (Step σ ε)} {x : ε}

theorem mem_history :
    x ∈ history t steps ↔ ∃ e ∈ steps, e.task = some t ∧ x ∈ e.events := by
  simp only [history, List.mem_flatMap, Step.eventsOf]
  constructor
  · rintro ⟨e, he, hx⟩
    split at hx
    · exact ⟨e, he, ‹_›, hx⟩
    · simp at hx
  · rintro ⟨e, he, ht, hx⟩
    exact ⟨e, he, by simpa [ht] using hx⟩

theorem exists_split_of_mem_history
    (hx : x ∈ history t steps) :
    ∃ before e after, steps = before ++ e :: after ∧ e.task = some t ∧ x ∈ e.events := by
  obtain ⟨e, he, ht, hevent⟩ := mem_history.mp hx
  obtain ⟨before, after, rfl⟩ := List.append_of_mem he
  exact ⟨before, e, after, rfl, ht, hevent⟩

theorem exists_split_of_history {h h' : List ε}
    (hh : history t steps = h ++ x :: h') :
    ∃ before e after es es', steps = before ++ e :: after ∧ e.task = some t ∧
      e.events = es ++ x :: es' ∧ h = history t before ++ es ∧ h' = es' ++ history t after := by
  induction steps generalizing h with
  | nil => simp at hh
  | cons e steps ih =>
      rw [← List.singleton_append, history_append] at hh
      have hrest : ∀ tail, h = history t [e] ++ tail → history t steps = tail ++ x :: h' →
          ∃ before f after es es', e :: steps = before ++ f :: after ∧ f.task = some t ∧
            f.events = es ++ x :: es' ∧ h = history t before ++ es ∧
            h' = es' ++ history t after := by
        rintro tail rfl htail
        obtain ⟨before, f, after, es, es', rfl, hf, hevents, rfl, hafter⟩ := ih htail
        refine ⟨e :: before, f, after, es, es', rfl, hf, hevents, ?_, hafter⟩
        rw [← List.append_assoc, ← history_append, List.singleton_append]
      rcases List.append_eq_append_iff.mp hh with ⟨tail, htail, hsteps⟩ | ⟨tail, hfirst, hsteps⟩
      · exact hrest tail htail hsteps
      · cases tail with
        | nil => exact hrest [] (by simpa using hfirst.symm) (by simpa using hsteps.symm)
        | cons y tail =>
            obtain ⟨rfl, rfl⟩ := List.cons.inj hsteps
            have ht : e.task = some t := by
              by_contra ht
              simp [history, Step.eventsOf, ht] at hfirst
            refine ⟨[], e, steps, h, tail, rfl, ht, ?_, rfl, rfl⟩
            simpa [history, Step.eventsOf, ht] using hfirst

theorem history_subset_append (t : Nat) (before after : List (Step σ ε)) :
    history t before ⊆ history t (before ++ after) := by
  simp [history_append]

/-! ## Events of a run -/

theorem places_cases {α : Type} {before before' after after' : List α} {x y : α}
    (h : before ++ x :: after = before' ++ y :: after') :
    (before = before' ∧ x = y ∧ after = after') ∨
      (∃ mid, before' = before ++ x :: mid ∧ after = mid ++ y :: after') ∨
      ∃ mid, before = before' ++ y :: mid ∧ after' = mid ++ x :: after := by
  rcases List.append_eq_append_iff.mp h with ⟨mid, hbefore, hafter⟩ | ⟨mid, hbefore, hafter⟩
  · cases mid with
    | nil =>
        obtain ⟨rfl, rfl⟩ := List.cons.inj hafter
        exact .inl ⟨by simpa using hbefore.symm, rfl, rfl⟩
    | cons z mid =>
        obtain ⟨rfl, rfl⟩ := List.cons.inj hafter
        exact .inr (.inl ⟨mid, hbefore, rfl⟩)
  · cases mid with
    | nil =>
        obtain ⟨rfl, rfl⟩ := List.cons.inj hafter
        exact .inl ⟨by simpa using hbefore, rfl, rfl⟩
    | cons z mid =>
        obtain ⟨rfl, rfl⟩ := List.cons.inj hafter
        exact .inr (.inr ⟨mid, hbefore, rfl⟩)

/-- Some task has reported `x`. -/
def Occurs (x : ε) (steps : List (Step σ ε)) : Prop := ∃ e ∈ steps, x ∈ e.events

@[simp] theorem not_occurs_nil (x : ε) : ¬ Occurs x ([] : List (Step σ ε)) := by
  simp [Occurs]

theorem occurs_snoc {e : Step σ ε} :
    Occurs x (steps ++ [e]) ↔ Occurs x steps ∨ x ∈ e.events := by
  simp [Occurs, or_and_right, exists_or]

theorem Occurs.append {before : List (Step σ ε)} (hx : Occurs x before)
    (after : List (Step σ ε)) : Occurs x (before ++ after) := by
  obtain ⟨e, he, hevent⟩ := hx
  exact ⟨e, List.mem_append_left _ he, hevent⟩

theorem occurs_of_mem_history
    (hx : x ∈ history t steps) : Occurs x steps := by
  obtain ⟨e, he, -, hevent⟩ := mem_history.mp hx
  exact ⟨e, he, hevent⟩

/-! ## Lawful runs -/

def Permitted (C : Contract σ ε) (env : σ → σ → Prop) (before : List (Step σ ε))
    (e : Step σ ε) : Prop :=
  match e.task with
  | some t => C.guarantee (history t before) e.pre e.events e.post
  | none => env e.pre e.post ∧ e.events = []

theorem Permitted.cases {C : Contract σ ε} {env : σ → σ → Prop} {before : List (Step σ ε)}
    {e : Step σ ε} (he : Permitted C env before e) :
    (e.task = none ∧ e.events = [] ∧ env e.pre e.post) ∨
      ∃ t, e.task = some t ∧ C.guarantee (history t before) e.pre e.events e.post := by
  cases ht : e.task with
  | none =>
      rw [Permitted, ht] at he
      exact .inl ⟨rfl, he.2, he.1⟩
  | some t =>
      rw [Permitted, ht] at he
      exact .inr ⟨t, rfl, he⟩

inductive Lawful (C : Contract σ ε) (env : σ → σ → Prop) (s₀ : σ) :
    List (Step σ ε) → σ → Prop where
  | nil : Lawful C env s₀ [] s₀
  | snoc {steps : List (Step σ ε)} {s : σ} {e : Step σ ε} (hr : Lawful C env s₀ steps s)
      (hpre : e.pre = s) (he : Permitted C env steps e) : Lawful C env s₀ (steps ++ [e]) e.post

namespace Lawful

variable {C : Contract σ ε} {env : σ → σ → Prop} {s₀ s : σ}

theorem invariant {P : List (Step σ ε) → σ → Prop}
    (hr : Lawful C env s₀ steps s) (hstart : P [] s₀)
    (hstep : ∀ before e, Lawful C env s₀ before e.pre → P before e.pre →
      Permitted C env before e → P (before ++ [e]) e.post) : P steps s := by
  induction hr with
  | nil => exact hstart
  | @snoc before m e hr hpre he ih =>
      subst hpre
      exact hstep before e hr ih he

variable {e : Step σ ε}

theorem snoc_inv {before : List (Step σ ε)}
    (hr : Lawful C env s₀ (before ++ [e]) s) :
    s = e.post ∧ Lawful C env s₀ before e.pre ∧ Permitted C env before e := by
  generalize hsteps : before ++ [e] = steps at hr
  cases hr with
  | nil => simp at hsteps
  | @snoc before' m e' hr hpre he =>
      obtain ⟨rfl, hlast⟩ := List.append_inj' hsteps rfl
      obtain rfl := List.head_eq_of_cons_eq hlast
      subst hpre
      exact ⟨rfl, hr, he⟩

variable {before after : List (Step σ ε)}

/-- A run that takes the step `e` reaches `e` lawfully and is allowed to take it. -/
theorem at_step
    (hr : Lawful C env s₀ (before ++ e :: after) s) :
    Lawful C env s₀ before e.pre ∧ Permitted C env before e := by
  induction after using List.reverseRecOn generalizing s with
  | nil => exact hr.snoc_inv.2
  | append_singleton after last ih =>
      have hr' : Lawful C env s₀ ((before ++ e :: after) ++ [last]) s := by simpa using hr
      exact ih hr'.snoc_inv.2.1

/-- A state property that every permitted step preserves lasts from the step `e` on. -/
theorem lasts {P : σ → Prop} (hP : ∀ before e, Lawful C env s₀ before e.pre →
      Permitted C env before e → P e.pre → P e.post)
    (hr : Lawful C env s₀ (before ++ e :: after) s) (he : P e.post) : P s := by
  induction after using List.reverseRecOn generalizing s with
  | nil =>
      obtain ⟨rfl, -, -⟩ := hr.snoc_inv
      exact he
  | append_singleton after last ih =>
      have hr' : Lawful C env s₀ ((before ++ e :: after) ++ [last]) s := by simpa using hr
      obtain ⟨rfl, hbefore, hlast⟩ := hr'.snoc_inv
      exact hP _ last hbefore hlast (ih hbefore)

theorem related {R : σ → σ → Prop} (hrefl : ∀ x, R x x)
    (htrans : ∀ x y z, R x y → R y z → R x z)
    (hR : ∀ before e, Lawful C env s₀ before e.pre → Permitted C env before e → R e.pre e.post)
    (hr : Lawful C env s₀ (before ++ e :: after) s) : R e.pre s ∧ R e.post s := by
  have hpost : R e.post s :=
    hr.lasts (P := R e.post) (fun _ f hb hf hf' => htrans _ _ _ hf' (hR _ f hb hf)) (hrefl _)
  exact ⟨htrans _ _ _ (hR _ e hr.at_step.1 hr.at_step.2) hpost, hpost⟩

end Lawful

/-! ## The steps of one task -/

section Own

variable {χ α : Type}

/-- The steps that task `t` has taken. -/
def own (t : Nat) (steps : List (Step σ ε)) : List (Step σ ε) :=
  steps.filter fun e => e.task = some t

theorem own_append (t : Nat) (before after : List (Step σ ε)) :
    own t (before ++ after) = own t before ++ own t after :=
  List.filter_append ..

theorem history_eq_own (t : Nat) (steps : List (Step σ ε)) :
    history t steps = (own t steps).flatMap Step.events := by
  induction steps with
  | nil => rfl
  | cons e steps ih =>
      rw [← List.singleton_append, history_append, own_append, List.flatMap_append, ih]
      congr 1
      by_cases ht : e.task = some t <;> simp [history, own, Step.eventsOf, ht]

/-- A program takes these steps, whatever happens between them, and goes on as `p'`. -/
inductive Follows : Async σ ι ε χ α → List (Step σ ε) → Async σ ι ε χ α → Prop where
  | nil {p : Async σ ι ε χ α} : Follows p [] p
  | cons {β : Type} {block : ι → σ → Option (σ × List ε × β)} {next : β → Async σ ι ε χ α}
      {reply : ι} {e : Step σ ε} {b : β} {steps : List (Step σ ε)} {p' : Async σ ι ε χ α}
      (hb : block reply e.pre = some (e.post, e.events, b)) (hrest : Follows (next b) steps p') :
      Follows (.step block next) (e :: steps) p'

namespace Follows

variable {p p' : Async σ ι ε χ α}

theorem snoc {β : Type} {block : ι → σ → Option (σ × List ε × β)} {next : β → Async σ ι ε χ α}
    {reply : ι} {e : Step σ ε} {b : β} (hf : Follows p steps (.step block next))
    (hb : block reply e.pre = some (e.post, e.events, b)) :
    Follows p (steps ++ [e]) (next b) := by
  generalize hmiddle : Async.step block next = middle at hf
  induction hf with
  | nil =>
      subst hmiddle
      exact .cons hb .nil
  | cons hfirst _ ih => exact .cons hfirst (ih hmiddle)

/-- After its steps a program still keeps the contract, and each step was guaranteed. -/
theorem keeps {C : Contract σ ε} {Q : Except χ α → List ε → Prop} {h : List ε}
    (hf : Follows p steps p') (hw : wp C p Q h) :
    wp C p' Q (h ++ steps.flatMap Step.events) ∧
      ∀ e ∈ steps, ∃ h', C.guarantee h' e.pre e.events e.post := by
  induction hf generalizing h with
  | nil => simpa using hw
  | cons hb _ ih =>
      obtain ⟨hguarantee, hnext⟩ := hw _ _ _ _ _ hb
      obtain ⟨hrest, hsteps⟩ := ih hnext
      rw [List.flatMap_cons, ← List.append_assoc]
      refine ⟨hrest, ?_⟩
      rintro e (_ | ⟨_, he⟩)
      · exact ⟨h, hguarantee⟩
      · exact hsteps e he

end Follows

theorem own_snoc_self (t : Nat) (steps : List (Step σ ε)) (s s' : σ) (es : List ε) :
    own t (steps ++ [⟨some t, s, es, s'⟩]) = own t steps ++ [⟨some t, s, es, s'⟩] := by
  simp [own]

theorem own_snoc_other {t : Nat} (steps : List (Step σ ε)) {e : Step σ ε}
    (he : e.task ≠ some t) : own t (steps ++ [e]) = own t steps := by
  simp [own, he]

end Own

/-- What one move does to a pool. -/
theorem Pool.move_cases {c c' : Pool σ ι ε} {m : Move ι κ ℓ} (hm : c.move S m = some c') :
    (∃ command, c' = { c with tasks := c.tasks ++ [S.program command] }) ∨
      (∃ label s', S.environment label c.shared = some s' ∧
        c' = { c with shared := s', steps := c.steps ++ [⟨none, c.shared, [], s'⟩] }) ∨
      ∃ (t : Nat) (reply : ι) (β : Type) (block : ι → σ → Option (σ × List ε × β))
        (next : β → Async σ ι ε Empty Unit) (s' : σ) (es : List ε) (value : β),
        c.tasks[t]? = some (.step block next) ∧ block reply c.shared = some (s', es, value) ∧
        c' = ⟨s', c.tasks.set t (next value), c.steps ++ [⟨some t, c.shared, es, s'⟩]⟩ := by
  cases m with
  | spawn command =>
      cases hm
      exact .inl ⟨command, rfl⟩
  | environment label =>
      simp only [Pool.move] at hm
      split at hm
      · contradiction
      · cases hm
        exact .inr (.inl ⟨label, _, ‹_›, rfl⟩)
  | run t reply =>
      simp only [Pool.move] at hm
      cases ht : c.tasks[t]? with
      | none => simp [ht] at hm
      | some p =>
          simp only [ht] at hm
          cases p with
          | done value => simp [Pool.resume] at hm
          | fail error => exact error.elim
          | step block next =>
              simp only [Pool.resume] at hm
              split at hm
              · contradiction
              · cases hm
                exact .inr (.inr ⟨t, reply, _, block, next, _, _, _, ht, ‹_›, rfl⟩)

/-- What the tasks of a pool have done, and that nobody else has done anything. -/
structure Traced (S : System σ ι ε κ ℓ) (c : Pool σ ι ε) : Prop where
  follows : ∀ t p, c.tasks[t]? = some p →
    ∃ command, Follows (S.program command) (own t c.steps) p
  fresh : ∀ t, c.tasks.length ≤ t → own t c.steps = []

namespace Traced

variable {c c' : Pool σ ι ε} (hc : Traced S c)
include hc

theorem spawn (command : κ) :
    Traced S { c with tasks := c.tasks ++ [S.program command] } where
  follows t p hp := by
    rcases Nat.lt_trichotomy t c.tasks.length with hlt | rfl | hgt
    · exact hc.follows t p (by simpa [List.getElem?_append_left hlt] using hp)
    · simp only [List.getElem?_concat_length, Option.some.injEq] at hp
      refine ⟨command, ?_⟩
      rw [hc.fresh _ le_rfl, ← hp]
      exact .nil
    · rw [List.getElem?_eq_none (by simp; omega)] at hp
      contradiction
  fresh t ht := hc.fresh t (by simp at ht; omega)

theorem block {t : Nat} {reply : ι} {β : Type}
    {b : ι → σ → Option (σ × List ε × β)} {next : β → Async σ ι ε Empty Unit}
    {s' : σ} {es : List ε} {value : β} (ht : c.tasks[t]? = some (.step b next))
    (hb : b reply c.shared = some (s', es, value)) :
    Traced S ⟨s', c.tasks.set t (next value), c.steps ++ [⟨some t, c.shared, es, s'⟩]⟩ where
  follows u p hp := by
    by_cases hu : u = t
    · subst hu
      obtain ⟨hlt, -⟩ := List.getElem?_eq_some_iff.mp ht
      simp only [List.getElem?_set_self hlt, Option.some.injEq] at hp
      obtain ⟨command, hf⟩ := hc.follows u _ ht
      refine ⟨command, ?_⟩
      rw [own_snoc_self, ← hp]
      exact hf.snoc hb
    · rw [own_snoc_other _ (by simpa using Ne.symm hu)]
      exact hc.follows u p (by simpa [List.getElem?_set_ne (Ne.symm hu)] using hp)
  fresh u hu := by
    have hlt : t < c.tasks.length := (List.getElem?_eq_some_iff.mp ht).1
    rw [List.length_set] at hu
    rw [own_snoc_other _ (by simp; omega)]
    exact hc.fresh u hu

theorem environment (s' : σ) :
    Traced S { c with shared := s', steps := c.steps ++ [⟨none, c.shared, [], s'⟩] } where
  follows t p hp := by
    rw [own_snoc_other _ (by simp)]
    exact hc.follows t p hp
  fresh t ht := by
    rw [own_snoc_other _ (by simp)]
    exact hc.fresh t ht

theorem move {m : Move ι κ ℓ} (hm : c.move S m = some c') : Traced S c' := by
  rcases Pool.move_cases hm with ⟨command, rfl⟩ | ⟨label, s', -, rfl⟩ |
    ⟨t, reply, β, block, next, s', es, value, ht, hb, rfl⟩
  · exact hc.spawn command
  · exact hc.environment s'
  · exact hc.block ht hb

end Traced

theorem Reachable.traced {c : Pool σ ι ε} (hc : Reachable S c) : Traced S c := by
  induction hc with
  | start hs => exact ⟨fun t p hp => by simp [Pool.start] at hp, fun t _ => rfl⟩
  | move _ hm ih => exact ih.move hm

theorem Reachable.follows {c : Pool σ ι ε} (hc : Reachable S c) (ht : own t c.steps ≠ []) :
    ∃ command p, Follows (S.program command) (own t c.steps) p := by
  cases hp : c.tasks[t]? with
  | none => exact absurd (hc.traced.fresh t (List.getElem?_eq_none_iff.mp hp)) ht
  | some p =>
      obtain ⟨command, hf⟩ := hc.traced.follows t p hp
      exact ⟨command, p, hf⟩

/-! ## Adequacy -/

def System.Keeps (S : System σ ι ε κ ℓ) (C : Contract σ ε) : Prop :=
  ∀ command, wp C (S.program command) (fun _ h => C.final h) []

def System.env (S : System σ ι ε κ ℓ) (s s' : σ) : Prop :=
  ∃ label, S.environment label s = some s'

theorem Traced.owed {C : Contract σ ε} {c : Pool σ ι ε} (hS : S.Keeps C) (hc : Traced S c)
    {p : Async σ ι ε Empty Unit} (hp : c.tasks[t]? = some p) :
    wp C p (fun _ h => C.final h) (history t c.steps) := by
  obtain ⟨command, hf⟩ := hc.follows t p hp
  rw [history_eq_own]
  exact (hf.keeps (hS command)).1

/--
The contract seen from a pool: the steps taken were permitted, and what is left
of each task still keeps the contract after the task's own history.
-/
structure Accounted (S : System σ ι ε κ ℓ) (C : Contract σ ε) (c : Pool σ ι ε) : Prop where
  lawful : ∃ s₀, S.init s₀ ∧ Lawful C S.env s₀ c.steps c.shared
  owed : ∀ t p, c.tasks[t]? = some p → wp C p (fun _ h => C.final h) (history t c.steps)
  fresh : ∀ t, c.tasks.length ≤ t → history t c.steps = []

theorem Reachable.accounted {C : Contract σ ε} (hS : S.Keeps C)
    {c : Pool σ ι ε} (hc : Reachable S c) : Accounted S C c := by
  refine ⟨?_, fun t p hp => hc.traced.owed hS hp, fun t ht => ?_⟩
  swap
  · rw [history_eq_own, hc.traced.fresh t ht]
    rfl
  induction hc with
  | start hs => exact ⟨_, hs, .nil⟩
  | move hc hm ih =>
      obtain ⟨s₀, hs₀, hr⟩ := ih
      rcases Pool.move_cases hm with ⟨command, rfl⟩ | ⟨label, s', hs', rfl⟩ |
        ⟨t, reply, β, block, next, s', es, value, ht, hb, rfl⟩
      · exact ⟨s₀, hs₀, hr⟩
      · exact ⟨s₀, hs₀, hr.snoc rfl ⟨⟨label, hs'⟩, rfl⟩⟩
      · exact ⟨s₀, hs₀, hr.snoc rfl (hc.traced.owed hS ht reply _ s' es value hb).1⟩

theorem Accounted.final {C : Contract σ ε} {c : Pool σ ι ε}
    (hc : Accounted S C c) (ht : c.finished t = true) :
    C.final (history t c.steps) := by
  simp only [Pool.finished] at ht
  split at ht
  · exact hc.owed t _ ‹_›
  · contradiction

end NexusCua.Foundation
