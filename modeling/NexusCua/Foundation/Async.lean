import Mathlib

/-!
# Asynchronous programs

An asynchronous program is a tree of atomic blocks.  A block reads a reply of
the environment and the shared state, and either is not enabled or commits a
new shared state, reports events and hands a value to the rest of the program.
Between two blocks any other task may run, so a block is exactly what the
source does while it holds one lock or performs one atomic operation.  A
program may also fail, as a function does that returns early with an error.

The weakest precondition below is taken over a task's own history of events
and constrains nothing about the shared state between two blocks: it holds
under every interference.
-/

namespace NexusCua.Foundation

inductive Async (σ ι ε χ α : Type) : Type 1 where
  | done (value : α)
  | fail (error : χ)
  | step {β : Type} (block : ι → σ → Option (σ × List ε × β)) (next : β → Async σ ι ε χ α)

theorem bind_eq_ok {χ α β : Type} {x : Except χ α} {f : α → Except χ β} {b : β} :
    x >>= f = .ok b ↔ ∃ a, x = .ok a ∧ f a = .ok b := by
  cases x with
  | ok a => exact ⟨fun hb => ⟨a, rfl, hb⟩, fun ⟨_, ha, hb⟩ => by cases ha; exact hb⟩
  | error error => exact ⟨nofun, fun ⟨_, ha, _⟩ => nomatch ha⟩

namespace Async

variable {σ ι ε χ χ' α β γ : Type}

/-! ## Composition -/

def bind : Async σ ι ε χ α → (α → Async σ ι ε χ β) → Async σ ι ε χ β
  | .done value, rest => rest value
  | .fail error, _ => .fail error
  | .step block next, rest => .step block fun b => (next b).bind rest

instance : Monad (Async σ ι ε χ) where
  pure := .done
  bind := bind

def attempt : Async σ ι ε χ α → Async σ ι ε χ' (Except χ α)
  | .done value => .done (.ok value)
  | .fail error => .done (.error error)
  | .step block next => .step block fun b => (next b).attempt

def ofExcept : Except χ α → Async σ ι ε χ α
  | .ok value => .done value
  | .error error => .fail error

def mapError (f : χ → χ') (p : Async σ ι ε χ α) : Async σ ι ε χ' α :=
  p.attempt.bind fun outcome => ofExcept (outcome.mapError f)

/-! ## Atomic blocks -/

def atomic (block : ι → σ → Option (σ × List ε × β)) : Async σ ι ε χ β :=
  .step block .done

def read (f : σ → β) : Async σ ι ε χ β :=
  atomic fun _ s => some (s, [], f s)

def observe (event : σ → ε) (f : σ → β) : Async σ ι ε χ β :=
  atomic fun _ s => some (s, [event s], f s)

def update (f : σ → σ × β) : Async σ ι ε χ β :=
  atomic fun _ s => some ((f s).1, [], (f s).2)

def report (event : ε) : Async σ ι ε χ Unit :=
  atomic fun _ s => some (s, [event], ())

/-- Wait for the environment: the block is enabled by the replies `f` accepts. -/
def receive (f : ι → Option β) : Async σ ι ε χ β :=
  atomic fun i s => (f i).map fun b => (s, [], b)

/-! ## Own-history weakest preconditions -/

/--
What the blocks of a group of tasks promise.  `guarantee h s es s'` speaks of a
block that a task with own history `h` runs from `s` to `s'`, reporting `es`;
`final h` speaks of the own history of a finished task.
-/
structure Contract (σ ε : Type) where
  guarantee : List ε → σ → List ε → σ → Prop
  final : List ε → Prop

def wp (C : Contract σ ε) :
    Async σ ι ε χ α → (Except χ α → List ε → Prop) → List ε → Prop
  | .done value, Q, h => Q (.ok value) h
  | .fail error, Q, h => Q (.error error) h
  | .step block next, Q, h => ∀ i s s' es b, block i s = some (s', es, b) →
      C.guarantee h s es s' ∧ wp C (next b) Q (h ++ es)

/-- The postcondition of the first half of a sequence: failures leave it at once. -/
def onOk (K : α → List ε → Prop) (Q : Except χ β → List ε → Prop) :
    Except χ α → List ε → Prop
  | .ok value => K value
  | .error error => Q (.error error)

variable {C : Contract σ ε} {Q : Except χ β → List ε → Prop} {h : List ε}

@[simp] theorem onOk_ok (K : α → List ε → Prop) (value : α) : onOk K Q (.ok value) = K value := rfl

@[simp] theorem onOk_error (K : α → List ε → Prop) (error : χ) :
    onOk K Q (.error error) = Q (.error error) := rfl

@[simp] theorem wp_pure (value : β) :
    wp C (pure value : Async σ ι ε χ β) Q h ↔ Q (.ok value) h := Iff.rfl

@[simp] theorem wp_done (value : β) :
    wp C (.done value : Async σ ι ε χ β) Q h ↔ Q (.ok value) h := Iff.rfl

@[simp] theorem wp_fail (error : χ) :
    wp C (.fail error : Async σ ι ε χ β) Q h ↔ Q (.error error) h := Iff.rfl

@[simp] theorem wp_atomic (block : ι → σ → Option (σ × List ε × β)) :
    wp C (atomic block : Async σ ι ε χ β) Q h ↔
      ∀ i s s' es b, block i s = some (s', es, b) →
        C.guarantee h s es s' ∧ Q (.ok b) (h ++ es) := Iff.rfl

section Blocks

variable [Nonempty ι]

@[simp] theorem wp_read (f : σ → β) :
    wp C (read f : Async σ ι ε χ β) Q h ↔
      ∀ s, C.guarantee h s [] s ∧ Q (.ok (f s)) h := by
  simp [read]

@[simp] theorem wp_update (f : σ → σ × β) :
    wp C (update f : Async σ ι ε χ β) Q h ↔
      ∀ s, C.guarantee h s [] (f s).1 ∧ Q (.ok (f s).2) h := by
  simp [update]

@[simp] theorem wp_observe (event : σ → ε) (f : σ → β) :
    wp C (observe event f : Async σ ι ε χ β) Q h ↔
      ∀ s, C.guarantee h s [event s] s ∧ Q (.ok (f s)) (h ++ [event s]) := by
  simp [observe]

@[simp] theorem wp_report (event : ε) (Q : Except χ Unit → List ε → Prop) :
    wp C (report event : Async σ ι ε χ Unit) Q h ↔
      ∀ s, C.guarantee h s [event] s ∧ Q (.ok ()) (h ++ [event]) := by
  simp only [report, wp_atomic, Option.some.injEq, Prod.mk.injEq]
  constructor
  · intro hwp s
    exact hwp (Classical.arbitrary ι) s s [event] () ⟨rfl, rfl, trivial⟩
  · rintro hwp i s s' es b ⟨rfl, rfl, -⟩
    exact hwp s

end Blocks

@[simp] theorem wp_receive (f : ι → Option β) :
    wp C (receive f : Async σ ι ε χ β) Q h ↔
      ∀ i s b, f i = some b → C.guarantee h s [] s ∧ Q (.ok b) h := by
  simp only [receive, wp_atomic, Option.map_eq_some_iff, Prod.mk.injEq]
  constructor
  · intro hwp i s b hf
    simpa using hwp i s s [] b ⟨b, hf, rfl, rfl, rfl⟩
  · rintro hwp i s s' es b ⟨b', hf, rfl, rfl, rfl⟩
    simpa using hwp i s b' hf

@[simp] theorem wp_ofExcept (outcome : Except χ β) :
    wp C (ofExcept outcome : Async σ ι ε χ β) Q h ↔ Q outcome h := by
  cases outcome <;> rfl

theorem wp_bind' (p : Async σ ι ε χ α) (rest : α → Async σ ι ε χ β) :
    wp C (p.bind rest) Q h ↔ wp C p (onOk (fun value => wp C (rest value) Q) Q) h := by
  induction p generalizing h with
  | done value => rfl
  | fail error => rfl
  | step block next ih =>
      simp only [bind, wp, ih]

@[simp] theorem wp_bind (p : Async σ ι ε χ α) (rest : α → Async σ ι ε χ β) :
    wp C (p >>= rest) Q h ↔ wp C p (onOk (fun value => wp C (rest value) Q) Q) h :=
  wp_bind' p rest

@[simp] theorem wp_attempt (p : Async σ ι ε χ α) (Q : Except χ' (Except χ α) → List ε → Prop) :
    wp C (p.attempt : Async σ ι ε χ' (Except χ α)) Q h ↔
      wp C p (fun outcome => Q (.ok outcome)) h := by
  induction p generalizing h with
  | done value => rfl
  | fail error => rfl
  | step block next ih =>
      simp only [attempt, wp, ih]

@[simp] theorem wp_mapError (f : χ → χ') (p : Async σ ι ε χ α)
    (Q : Except χ' α → List ε → Prop) :
    wp C (p.mapError f) Q h ↔ wp C p (fun outcome => Q (outcome.mapError f)) h := by
  simp only [mapError, wp_bind', wp_attempt, onOk_ok]
  exact Iff.of_eq (congrArg (wp C p · h) (by funext r h'; simp))

variable {p : Async σ ι ε χ α}

theorem wp_mono {Q Q' : Except χ α → List ε → Prop}
    (hp : wp C p Q h) (hQ : ∀ r es, Q r (h ++ es) → Q' r (h ++ es)) : wp C p Q' h := by
  induction p generalizing h with
  | done value => simpa using hQ (.ok value) [] (by simpa using hp)
  | fail error => simpa using hQ (.error error) [] (by simpa using hp)
  | step block next ih =>
      intro i s s' es b hb
      refine ⟨(hp i s s' es b hb).1, ih b (hp i s s' es b hb).2 ?_⟩
      intro r es'
      simpa using hQ r (es ++ es')

@[simp] theorem wp_map (f : α → β) (p : Async σ ι ε χ α) :
    wp C (f <$> p) Q h ↔ wp C p (fun outcome => Q (outcome.map f)) h := by
  change wp C (p.bind fun value => .done (f value)) Q h ↔ _
  rw [wp_bind']
  exact Iff.of_eq (congrArg (wp C p · h) (by funext r h'; cases r <;> rfl))

/-! ## Steady programs -/

/-- Whatever the program returns, it leaves an assertion on the own history true. -/
def Steady (C : Contract σ ε) (P : List ε → Prop) (p : Async σ ι ε χ α) : Prop :=
  ∀ h, P h → wp C p (fun _ => P) h

namespace Steady

variable {P : List ε → Prop} {p : Async σ ι ε χ α}

theorem pure (value : α) : Steady C P (Pure.pure value : Async σ ι ε χ α) := fun _ hP => hP

theorem fail (error : χ) : Steady C P (.fail error : Async σ ι ε χ α) := fun _ hP => hP

theorem ofExcept (outcome : Except χ α) : Steady C P (ofExcept outcome : Async σ ι ε χ α) := by
  intro h hP
  rw [wp_ofExcept]
  exact hP

theorem bind (hp : Steady C P p) {rest : α → Async σ ι ε χ β}
    (hrest : ∀ value, Steady C P (rest value)) : Steady C P (p >>= rest) := by
  intro h hP
  rw [wp_bind]
  refine wp_mono (hp h hP) fun outcome es hes => ?_
  cases outcome with
  | ok value => exact hrest value _ hes
  | error error => exact hes

theorem attempt (hp : Steady C P p) : Steady C P (p.attempt : Async σ ι ε χ' (Except χ α)) := by
  intro h hP
  rw [wp_attempt]
  exact hp h hP

end Steady

/-! ## Programs of a component inside a larger system -/

/--
How a component's state, replies and events sit in those of a larger system.
A block of the component runs when its state can be found and the reply is one
of its own.
-/
structure Embedding (σ ι ε σ' ι' ε' : Type) where
  look : σ' → Option σ
  put : σ → σ' → σ'
  reply : ι' → Option ι
  event : ε → ε'
  project : ε' → Option ε
  project_event : ∀ e, project (event e) = some e

variable {σ' ι' ε' : Type}

def embed (E : Embedding σ ι ε σ' ι' ε') : Async σ ι ε χ α → Async σ' ι' ε' χ α
  | .done value => .done value
  | .fail error => .fail error
  | .step block next =>
      .step (fun i s =>
        match E.reply i, E.look s with
        | some i, some inner => (block i inner).map fun out =>
            (E.put out.1 s, out.2.1.map E.event, out.2.2)
        | _, _ => none) fun b => (next b).embed E

/-- A component's own history inside the history of a task of the larger system. -/
def Embedding.own (E : Embedding σ ι ε σ' ι' ε') (h : List ε') : List ε :=
  h.filterMap E.project

theorem Embedding.own_append (E : Embedding σ ι ε σ' ι' ε') (h : List ε') (es : List ε) :
    E.own (h ++ es.map E.event) = E.own h ++ es := by
  simp [own, List.filterMap_append, List.filterMap_map, E.project_event]

theorem wp_embed (E : Embedding σ ι ε σ' ι' ε') {C' : Contract σ' ε'}
    (hC : ∀ h s inner es inner', E.look s = some inner →
      C.guarantee (E.own h) inner es inner' →
      C'.guarantee h s (es.map E.event) (E.put inner' s))
    {Q : Except χ α → List ε' → Prop} {h : List ε'}
    (hp : wp C p (fun r own => ∀ es, own = E.own h ++ es → Q r (h ++ es.map E.event))
      (E.own h)) : wp C' (p.embed E) Q h := by
  induction p generalizing h with
  | done value => simpa [embed] using hp [] (by simp)
  | fail error => simpa [embed] using hp [] (by simp)
  | step block next ih =>
      intro i s s' es b hb
      simp only at hb
      split at hb
      · rename_i i inner hreply hlook
        obtain ⟨⟨inner', es', b'⟩, hblock, hout⟩ := Option.map_eq_some_iff.mp hb
        cases hout
        obtain ⟨hguarantee, hnext⟩ := hp i inner inner' es' b' hblock
        refine ⟨hC h s inner es' inner' hlook hguarantee, ih b' ?_⟩
        rw [E.own_append]
        refine wp_mono hnext fun r tail hQ es hes => ?_
        rw [List.append_assoc, ← List.map_append]
        exact hQ (es' ++ es) (by simpa using hes)
      · contradiction

/-! ## Programs that only move while something holds -/

/-- The blocks of the program are enabled only in states that `alive` accepts. -/
def whenever (alive : σ → Bool) : Async σ ι ε χ α → Async σ ι ε χ α
  | .done value => .done value
  | .fail error => .fail error
  | .step block next =>
      .step (fun i s => if alive s then block i s else none) fun b => (next b).whenever alive

variable {Q : Except χ α → List ε → Prop}

theorem wp_whenever {C' : Contract σ ε} {alive : σ → Bool}
    (hC : ∀ h s es s', alive s = true → C.guarantee h s es s' → C'.guarantee h s es s')
    (hp : wp C p Q h) :
    wp C' (p.whenever alive) Q h := by
  induction p generalizing h with
  | done value => exact hp
  | fail error => exact hp
  | step block next ih =>
      intro i s s' es b hb
      simp only at hb
      split at hb
      · rename_i halive
        obtain ⟨hguarantee, hnext⟩ := hp i s s' es b hb
        exact ⟨hC h s es s' halive hguarantee, ih b hnext⟩
      · contradiction

theorem wp_strengthen {C' : Contract σ ε} {P : List ε → Prop}
    (hC : ∀ h s es s', P h → C.guarantee h s es s' → C'.guarantee h s es s' ∧ P (h ++ es))
    (hP : P h)
    (hp : wp C p Q h) : wp C' p Q h := by
  induction p generalizing h with
  | done value => exact hp
  | fail error => exact hp
  | step block next ih =>
      intro i s s' es b hb
      obtain ⟨hguarantee, hnext⟩ := hp i s s' es b hb
      obtain ⟨hpromised, hP'⟩ := hC h s es s' hP hguarantee
      exact ⟨hpromised, ih b hP' hnext⟩

def anything : Contract σ ε := ⟨fun _ _ _ _ => True, fun _ => True⟩

theorem wp_anything (p : Async σ ι ε χ α)
    (hQ : ∀ r h, Q r h) : wp anything p Q h := by
  induction p generalizing h with
  | done value => exact hQ _ _
  | fail error => exact hQ _ _
  | step block next ih => exact fun i s s' es b _ => ⟨trivial, ih b⟩

end Async

end NexusCua.Foundation
