import Mathlib

/-!
# Typing text

Text is typed in packets of at most twenty UTF-16 units.  Windows sends a key down and a
key up for every unit of a packet with one call; macOS posts one event down and one up that
carry the whole packet.
-/

namespace NexusCua.Platform

/-! ## Packets -/

def isHighSurrogate (unit : UInt16) : Bool := 0xd800 ≤ unit && unit ≤ 0xdbff

def isLowSurrogate (unit : UInt16) : Bool := 0xdc00 ≤ unit && unit ≤ 0xdfff

/-- The end of the first packet: a unit that opens a pair is left to the next one. -/
def packetEnd (units : List UInt16) : Nat :=
  let stop := min 20 units.length
  if stop < units.length && (units[stop - 1]?.any isHighSurrogate) then stop - 1 else stop

theorem packetEnd_bounds {units : List UInt16} (h : units ≠ []) :
    0 < packetEnd units ∧ packetEnd units ≤ 20 ∧ packetEnd units ≤ units.length := by
  have hpositive := List.length_pos_iff.mpr h
  simp only [packetEnd]
  split
  · next hcut =>
    have hlong := of_decide_eq_true (Bool.and_eq_true_iff.mp hcut).1
    omega
  · omega

def chunks (units : List UInt16) : List (List UInt16) :=
  if h : units = [] then []
  else
    have := packetEnd_bounds h
    units.take (packetEnd units) :: chunks (units.drop (packetEnd units))
termination_by units.length
decreasing_by
  rw [List.length_drop]
  omega

def KeepsPairs (packets : List (List UInt16)) : Prop :=
  ∀ before after, packets = before ++ after → ∀ high ∈ before.flatten.getLast?,
    ∀ low ∈ after.flatten.head?, ¬ (isHighSurrogate high = true ∧ isLowSurrogate low = true)

theorem chunks_nil : chunks [] = [] := by
  rw [chunks, dif_pos rfl]

theorem chunks_eq {units : List UInt16} (h : units ≠ []) :
    chunks units = units.take (packetEnd units) :: chunks (units.drop (packetEnd units)) := by
  rw [chunks, dif_neg h]

theorem chunks_induction {P : List UInt16 → List (List UInt16) → Prop} (hnil : P [] [])
    (hcons : ∀ units, units ≠ [] →
      P (units.drop (packetEnd units)) (chunks (units.drop (packetEnd units))) →
      P units (units.take (packetEnd units) :: chunks (units.drop (packetEnd units))))
    (units : List UInt16) : P units (chunks units) := by
  induction hlength : units.length using Nat.strongRecOn generalizing units with
  | ind length ih =>
    by_cases h : units = []
    · rw [h, chunks_nil]
      exact hnil
    · rw [chunks_eq h]
      have hbounds := packetEnd_bounds h
      refine hcons units h (ih _ ?_ _ rfl)
      rw [List.length_drop]
      omega

theorem chunks_flatten (units : List UInt16) : (chunks units).flatten = units := by
  refine chunks_induction (P := fun units packets => packets.flatten = units) rfl ?_ units
  intro units _ ih
  rw [List.flatten_cons, ih, List.take_append_drop]

theorem chunks_sizes (units : List UInt16) :
    ∀ packet ∈ chunks units, packet ≠ [] ∧ packet.length ≤ 20 := by
  refine chunks_induction
    (P := fun _ packets => ∀ packet ∈ packets, packet ≠ [] ∧ packet.length ≤ 20) ?_ ?_ units
  · intro packet hpacket
    cases hpacket
  · intro units h ih packet hpacket
    obtain ⟨hpositive, hbound, hlength⟩ := packetEnd_bounds h
    obtain rfl | hpacket := List.mem_cons.mp hpacket
    · have hsize : (units.take (packetEnd units)).length = packetEnd units := by
        rw [List.length_take, Nat.min_eq_left hlength]
      refine ⟨?_, by omega⟩
      apply List.ne_nil_of_length_pos
      omega
    · exact ih packet hpacket

theorem low_of_high {unit : UInt16} (h : isHighSurrogate unit = true) :
    isLowSurrogate unit = false := by
  simp only [isHighSurrogate, isLowSurrogate, Bool.and_eq_true, decide_eq_true_eq,
    UInt16.le_iff_toNat_le] at *
  have hhigh : unit.toNat ≤ 0xdbff := h.2
  simp only [Bool.and_eq_false_iff, decide_eq_false_iff_not]
  exact .inl fun hlow => absurd (Nat.le_trans hlow hhigh) (by decide)

theorem packetEnd_keeps {units : List UInt16} {high low : UInt16}
    (hhigh : (units.take (packetEnd units)).getLast? = some high)
    (hlow : (units.drop (packetEnd units)).head? = some low) :
    ¬ (isHighSurrogate high = true ∧ isLowSurrogate low = true) := by
  rintro ⟨hopens, hcloses⟩
  rw [List.head?_drop] at hlow
  have hinside := (List.getElem?_eq_some_iff.mp hlow).1
  have hunits : units ≠ [] := List.ne_nil_of_length_pos (by omega)
  have hpositive := (packetEnd_bounds hunits).1
  rw [List.getLast?_take, if_neg (by omega)] at hhigh
  have hlast : units[packetEnd units - 1]? = some high := by
    have hsome := List.getElem?_eq_getElem (l := units) (i := packetEnd units - 1) (by omega)
    rw [hsome] at hhigh ⊢
    exact hhigh
  simp only [packetEnd] at hlow hlast hinside
  split at hlow
  case isTrue hcut =>
    -- The unit after the packet opens a pair itself.
    have hopen := (Bool.and_eq_true_iff.mp hcut).2
    rw [hlow] at hopen
    rw [low_of_high hopen] at hcloses
    cases hcloses
  case isFalse hcut =>
    rw [if_neg hcut] at hlast hinside
    apply hcut
    rw [hlast]
    simp [hinside, hopens]

theorem chunks_keepsPairs (units : List UInt16) : KeepsPairs (chunks units) := by
  refine chunks_induction (P := fun _ packets => KeepsPairs packets) ?_ ?_ units
  · intro before after hsplit high hhigh
    obtain ⟨rfl, -⟩ := List.append_eq_nil_iff.mp hsplit.symm
    cases hhigh
  · intro units hunits ih before after hsplit high hhigh low hlow
    cases before with
    | nil => cases hhigh
    | cons packet before =>
      rw [List.cons_append] at hsplit
      obtain ⟨hpacket, hrest⟩ := List.cons.inj hsplit
      subst hpacket
      cases before with
      | nil =>
        rw [List.nil_append] at hrest
        rw [← hrest, chunks_flatten] at hlow
        rw [List.flatten_cons, List.flatten_nil, List.append_nil] at hhigh
        exact packetEnd_keeps hhigh hlow
      | cons packet before =>
        refine ih (packet :: before) after hrest high ?_ low hlow
        have hmem : packet ∈ chunks (units.drop (packetEnd units)) := by
          rw [hrest]
          exact List.mem_cons_self
        have hpacket := (chunks_sizes _ packet hmem).1
        have hlast : (packet :: before).flatten ≠ [] := by
          rw [List.flatten_cons]
          exact List.append_ne_nil_of_left_ne_nil hpacket _
        rw [List.flatten_cons, List.getLast?_append_of_ne_nil _ hlast] at hhigh
        exact hhigh

/-! ## Key events -/

structure KeyEvent (α : Type) where
  carried : α
  down : Bool
  deriving DecidableEq

def keystroke {α : Type} (carried : α) : List (KeyEvent α) := [⟨carried, true⟩, ⟨carried, false⟩]

inductive TypingFailure where
  | foregroundChanged (dispatched : Bool)
  | refused (dispatched : Bool)
  | input (sent : Nat) (dispatched : Bool)
  | interrupted
  | event
  deriving DecidableEq

end NexusCua.Platform

namespace NexusCua.Windows

open NexusCua.Platform

structure TypingAnswers where
  foreground : Nat → Bool
  dispatch : Nat → Bool
  accepted : Nat → Nat → Nat
  waited : Nat → Bool

def TypingAnswers.Accept (answers : TypingAnswers) : Prop :=
  ∀ packet, answers.foreground packet = true ∧ answers.dispatch packet = true ∧
    answers.waited packet = true ∧ ∀ requested, answers.accepted packet requested = requested

def keyboardReleases (accepted : List (KeyEvent UInt16)) : List (KeyEvent UInt16) :=
  (accepted.foldl (fun held key =>
    let others := held.filter fun other => other.carried ≠ key.carried
    if key.down then others ++ [⟨key.carried, false⟩] else others) []).reverse

def typePackets (answers : TypingAnswers) :
    Bool → Nat → List (List UInt16) → Except TypingFailure Unit × List (KeyEvent UInt16)
  | _, _, [] => (.ok (), [])
  | dispatched, index, packet :: packets =>
      let inputs := packet.flatMap keystroke
      let sent := min (answers.accepted index inputs.length) inputs.length
      if answers.foreground index = false then (.error (.foregroundChanged dispatched), [])
      else if answers.dispatch index = false then (.error (.refused dispatched), [])
      else if sent < inputs.length then
        (.error (.input sent dispatched), inputs ++ keyboardReleases (inputs.take sent))
      else if answers.waited index = false then (.error .interrupted, inputs)
      else
        let rest := typePackets answers true (index + 1) packets
        (rest.1, inputs ++ rest.2)

def typeText (answers : TypingAnswers) (units : List UInt16) :
    Except TypingFailure Unit × List (KeyEvent UInt16) :=
  typePackets answers false 0 (chunks units)

theorem typePackets_accepted {answers : TypingAnswers} (h : answers.Accept) (dispatched : Bool)
    (index : Nat) (packets : List (List UInt16)) :
    typePackets answers dispatched index packets =
      (.ok (), packets.flatten.flatMap keystroke) := by
  induction packets generalizing dispatched index with
  | nil => rfl
  | cons packet packets ih =>
    obtain ⟨hforeground, hdispatch, hwaited, haccepted⟩ := h index
    simp [typePackets, hforeground, hdispatch, hwaited, haccepted, ih]

end NexusCua.Windows

namespace NexusCua.Macos

open NexusCua.Platform

structure TypingAnswers where
  created : Nat → Bool
  dispatch : Nat → Bool

def TypingAnswers.Accept (answers : TypingAnswers) : Prop :=
  ∀ packet, answers.created packet = true ∧ answers.dispatch packet = true

def typePackets (answers : TypingAnswers) :
    Nat → List (List UInt16) → Except TypingFailure Unit × List (KeyEvent (List UInt16))
  | _, [] => (.ok (), [])
  | index, packet :: packets =>
      if answers.created index = false then (.error .event, [])
      else if answers.dispatch index = false then (.error (.refused (decide (index ≠ 0))), [])
      else
        let rest := typePackets answers (index + 1) packets
        (rest.1, keystroke packet ++ rest.2)

def typeText (answers : TypingAnswers) (units : List UInt16) :
    Except TypingFailure Unit × List (KeyEvent (List UInt16)) :=
  typePackets answers 0 (chunks units)

theorem typePackets_accepted {answers : TypingAnswers} (h : answers.Accept) (index : Nat)
    (packets : List (List UInt16)) :
    typePackets answers index packets = (.ok (), packets.flatMap keystroke) := by
  induction packets generalizing index with
  | nil => rfl
  | cons packet packets ih =>
    obtain ⟨hcreated, hdispatch⟩ := h index
    simp [typePackets, hcreated, hdispatch, ih]

end NexusCua.Macos

namespace NexusCua.Platform

/--
The packets of a text are its units in order, none of them empty, too long or cut inside a
pair.  Where everything is accepted, each unit goes down and up again before the next one:
alone on Windows, within its packet on macOS.
-/
theorem text_typed_completely (units : List UInt16) :
    ((chunks units).flatten = units ∧
        (∀ packet ∈ chunks units, packet ≠ [] ∧ packet.length ≤ 20) ∧
        KeepsPairs (chunks units)) ∧
      (∀ answers : Windows.TypingAnswers, answers.Accept →
        Windows.typeText answers units = (.ok (), units.flatMap keystroke)) ∧
      ∀ answers : Macos.TypingAnswers, answers.Accept →
        Macos.typeText answers units = (.ok (), (chunks units).flatMap keystroke) := by
  refine ⟨⟨chunks_flatten units, chunks_sizes units, chunks_keepsPairs units⟩, ?_, ?_⟩
  · intro answers h
    rw [Windows.typeText, Windows.typePackets_accepted h, chunks_flatten]
  · intro answers h
    exact Macos.typePackets_accepted h 0 (chunks units)

end NexusCua.Platform
