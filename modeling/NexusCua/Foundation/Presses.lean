import Mathlib

/-!
# Presses and releases

A history of presses and releases says which inputs are held: those whose last event is
a press.  An observer that sees only the class of an input follows the same history with
the classes in place of the inputs, and may lose a held input when another one of its
class is released.
-/

namespace NexusCua.Foundation

structure Press (ι : Type) where
  input : ι
  down : Bool
deriving DecidableEq, Repr

namespace Press

variable {ι γ : Type}

def map (f : ι → γ) (press : Press ι) : Press γ := ⟨f press.input, press.down⟩

def heldAfter [DecidableEq ι] (presses : List (Press ι)) : ι → Bool :=
  presses.foldl (fun held press => Function.update held press.input press.down) fun _ => false

@[simp] theorem heldAfter_nil [DecidableEq ι] (i : ι) : heldAfter [] i = false := rfl

theorem heldAfter_concat [DecidableEq ι] (presses : List (Press ι)) (press : Press ι) (i : ι) :
    heldAfter (presses ++ [press]) i =
      if i = press.input then press.down else heldAfter presses i := by
  rw [heldAfter, List.foldl_append, List.foldl_cons, List.foldl_nil, Function.update_apply]
  rfl

def Lasting (f : ι → γ) (presses : List (Press ι)) (c : γ) : Prop :=
  ∃ before press after, presses = before ++ press :: after ∧ press.down = true ∧
    f press.input = c ∧ ∀ later ∈ after, f later.input = c → later.down = true

theorem not_lasting_nil (f : ι → γ) (c : γ) : ¬Lasting f [] c := by
  rintro ⟨before, press, after, hsplit, -⟩
  simp at hsplit

theorem concat_split {presses before after : List (Press ι)} {press earlier : Press ι}
    (h : presses ++ [press] = before ++ earlier :: after) :
    (after = [] ∧ press = earlier) ∨
      ∃ rest, after = rest ++ [press] ∧ presses = before ++ earlier :: rest := by
  rcases List.eq_nil_or_concat after with rfl | ⟨rest, final, hafter⟩
  · obtain ⟨-, hlast⟩ := List.append_inj' h rfl
    exact .inl ⟨rfl, by simpa using hlast⟩
  · rw [List.concat_eq_append] at hafter
    rw [hafter, ← List.cons_append, ← List.append_assoc] at h
    obtain ⟨hpresses, hlast⟩ := List.append_inj' h rfl
    exact .inr ⟨rest, by rw [hafter, hlast], hpresses⟩

theorem lasting_concat_same (f : ι → γ) (presses : List (Press ι)) (press : Press ι) :
    Lasting f (presses ++ [press]) (f press.input) ↔ press.down = true := by
  constructor
  · rintro ⟨before, earlier, after, hsplit, hdown, -, hlater⟩
    rcases concat_split hsplit with ⟨-, rfl⟩ | ⟨rest, rfl, -⟩
    · exact hdown
    · exact hlater press (by simp) rfl
  · intro hdown
    exact ⟨presses, press, [], rfl, hdown, rfl, by simp⟩

theorem lasting_concat_other (f : ι → γ) (presses : List (Press ι)) {press : Press ι} {c : γ}
    (hc : f press.input ≠ c) : Lasting f (presses ++ [press]) c ↔ Lasting f presses c := by
  constructor
  · rintro ⟨before, earlier, after, hsplit, hdown, hclass, hlater⟩
    rcases concat_split hsplit with ⟨-, rfl⟩ | ⟨rest, rfl, hpresses⟩
    · exact absurd hclass hc
    · exact ⟨before, earlier, rest, hpresses, hdown, hclass,
        fun later hmem => hlater later (by simp [hmem])⟩
  · rintro ⟨before, earlier, after, rfl, hdown, hclass, hlater⟩
    refine ⟨before, earlier, after ++ [press], by simp, hdown, hclass, ?_⟩
    intro later hmem hsame
    rcases List.mem_append.mp hmem with hmem | hmem
    · exact hlater later hmem hsame
    · obtain rfl : later = press := by simpa using hmem
      exact absurd hsame hc

theorem heldAfter_map_iff [DecidableEq γ] (f : ι → γ) (presses : List (Press ι)) (c : γ) :
    heldAfter (presses.map (Press.map f)) c = true ↔ Lasting f presses c := by
  induction presses using List.reverseRecOn with
  | nil => simp [not_lasting_nil]
  | append_singleton presses press ih =>
    rw [List.map_append, List.map_singleton, heldAfter_concat]
    by_cases hc : c = f press.input
    · subst hc
      rw [lasting_concat_same]
      simp [Press.map]
    · rw [lasting_concat_other f presses fun h => hc h.symm, ← ih]
      simp [Press.map, hc]

theorem heldAfter_iff [DecidableEq ι] (presses : List (Press ι)) (i : ι) :
    heldAfter presses i = true ↔ Lasting id presses i := by
  have hid : presses.map (Press.map id) = presses := List.map_id presses
  rw [← heldAfter_map_iff id presses i, hid]

theorem Lasting.exists_held [DecidableEq ι] {f : ι → γ} {presses : List (Press ι)} {c : γ}
    (h : Lasting f presses c) : ∃ i, heldAfter presses i = true := by
  obtain ⟨before, press, after, rfl, hdown, rfl, hlater⟩ := h
  refine ⟨press.input, (heldAfter_iff _ _).mpr ⟨before, press, after, rfl, hdown, rfl, ?_⟩⟩
  intro later hmem hsame
  exact hlater later hmem (congrArg f hsame)

end Press

end NexusCua.Foundation
