import NexusCua.Foundation.BitBoard
import NexusCua.Foundation.Presses

/-!
# Held inputs of the Windows activity monitor

Raw Input reports a modifier by its generic code, the keyboard hook and the initial
state by the code of its left or right variant.  Both codes mark the same bit, so the
monitor follows the inputs up to their generic code.
-/

namespace NexusCua.Windows

open NexusCua.Foundation

def genericKey : Nat → Nat
  | 0xa0 | 0xa1 => 0x10
  | 0xa2 | 0xa3 => 0x11
  | 0xa4 | 0xa5 => 0x12
  | value => value

variable {key : Nat}

theorem genericKey_eq_self (h : key < 0xa0 ∨ 0xa5 < key) : genericKey key = key := by
  unfold genericKey
  split <;> omega

theorem genericKey_lt (h : key < 256) : genericKey key < 256 := by
  unfold genericKey
  split <;> omega

theorem genericKey_idem (key : Nat) : genericKey (genericKey key) = genericKey key := by
  by_cases hkey : key < 0xa0 ∨ 0xa5 < key
  · rw [genericKey_eq_self hkey, genericKey_eq_self hkey]
  · have hvariant : key = 0xa0 ∨ key = 0xa1 ∨ key = 0xa2 ∨ key = 0xa3 ∨ key = 0xa4 ∨
        key = 0xa5 := by omega
    rcases hvariant with rfl | rfl | rfl | rfl | rfl | rfl <;> rfl

structure PressedInputs where
  words : BitBoard 4 64 := BitBoard.empty 4 64
deriving DecidableEq

namespace PressedInputs

def update (inputs : PressedInputs) (key : Nat) (down : Bool) : PressedInputs :=
  if genericKey key < 256 then { words := inputs.words.set (genericKey key) down } else inputs

def held (inputs : PressedInputs) : Bool := inputs.words.inhabited

theorem has_update (inputs : PressedInputs) (hkey : key < 256) (down : Bool)
    (code : Nat) : (inputs.update key down).words.has code =
      if code = genericKey key then down else inputs.words.has code := by
  rw [update, if_pos (genericKey_lt hkey)]
  exact BitBoard.has_set _ (genericKey_lt hkey) _ _

end PressedInputs

/-- A press or release of a key or button, reported by its own or its generic code. -/
structure Report where
  key : Fin 256
  down : Bool
  code : Nat
  code_eq : code = key ∨ code = genericKey key

namespace Report

def press (report : Report) : Press (Fin 256) := ⟨report.key, report.down⟩

theorem code_lt (report : Report) : report.code < 256 := by
  rcases report.code_eq with h | h
  · rw [h]
    exact report.key.isLt
  · rw [h]
    exact genericKey_lt report.key.isLt

theorem genericKey_code (report : Report) : genericKey report.code = genericKey report.key := by
  rcases report.code_eq with h | h
  · rw [h]
  · rw [h, genericKey_idem]

end Report

def PressedInputs.after (reports : List Report) : PressedInputs :=
  reports.foldl (fun inputs report => inputs.update report.code report.down) {}

def family (key : Fin 256) : Nat := genericKey key

theorem PressedInputs.has_after (reports : List Report) (code : Nat) :
    (PressedInputs.after reports).words.has code =
      Press.heldAfter ((reports.map Report.press).map (Press.map family)) code := by
  induction reports using List.reverseRecOn with
  | nil => exact BitBoard.has_empty code
  | append_singleton reports report ih =>
    rw [PressedInputs.after, List.foldl_append, List.foldl_cons, List.foldl_nil,
      has_update _ report.code_lt, report.genericKey_code, List.map_append, List.map_append,
      List.map_singleton, List.map_singleton, Press.heldAfter_concat, ← ih]
    rfl

/-- The monitor holds an input exactly when a press is followed by no release in its
family. -/
theorem PressedInputs.held_after_iff (reports : List Report) :
    (PressedInputs.after reports).held = true ↔
      ∃ code, Press.Lasting family (reports.map Report.press) code := by
  rw [PressedInputs.held, BitBoard.inhabited_iff]
  constructor
  · rintro ⟨code, -, hhas⟩
    rw [has_after, Press.heldAfter_map_iff] at hhas
    exact ⟨code, hhas⟩
  · rintro ⟨code, hlasting⟩
    obtain ⟨before, press, after, hsplit, hdown, hcode, hlater⟩ := hlasting
    refine ⟨code, ?_, ?_⟩
    · rw [← hcode]
      exact genericKey_lt press.input.isLt
    · rw [has_after, Press.heldAfter_map_iff]
      exact ⟨before, press, after, hsplit, hdown, hcode, hlater⟩

end NexusCua.Windows
