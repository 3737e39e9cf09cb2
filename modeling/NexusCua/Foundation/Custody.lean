import Mathlib

/-!
# Tags and the keys they were computed with

Keys are drawn once and never again; a tag is computed with a key and a message.
Whoever holds a store of keys by name keeps this custody: a message of the guarded
kind that was tagged with the key now stored under a name was issued under that
name.  A tag that only the holder of the key can compute is then a proof of
issue.
-/

namespace NexusCua.Foundation

structure TagLog (κ μ : Type) where
  drawn : List κ
  tags : List (κ × μ)

namespace TagLog

variable {κ μ : Type}

def empty : TagLog κ μ := ⟨[], []⟩

def draw (key : κ) (message : μ) (log : TagLog κ μ) : TagLog κ μ :=
  ⟨key :: log.drawn, (key, message) :: log.tags⟩

def tag (key : κ) (message : μ) (log : TagLog κ μ) : TagLog κ μ :=
  ⟨log.drawn, (key, message) :: log.tags⟩

end TagLog

structure Custody {ι κ μ : Type} (guarded : μ → Prop) (keys : ι → Option κ) (log : TagLog κ μ)
    (issued : ι → μ → Prop) : Prop where
  stored_drawn : ∀ name key, keys name = some key → key ∈ log.drawn
  tagged_drawn : ∀ key message, (key, message) ∈ log.tags → key ∈ log.drawn
  issued_of_tag : ∀ name key message, keys name = some key → (key, message) ∈ log.tags →
    guarded message → issued name message

namespace Custody

variable {ι κ μ : Type} {guarded : μ → Prop} {keys keys' : ι → Option κ} {log : TagLog κ μ}
  {issued issued' : ι → μ → Prop}

theorem empty (keys : ι → Option κ) (hkeys : ∀ name, keys name = none) :
    Custody guarded keys TagLog.empty issued where
  stored_drawn name key hkey := by simp [hkeys] at hkey
  tagged_drawn key message htag := by simp [TagLog.empty] at htag
  issued_of_tag name key message hkey := by simp [hkeys] at hkey

section

variable (h : Custody guarded keys log issued)
include h

theorem mono
    (hkeys : ∀ name key, keys' name = some key → keys name = some key)
    (hissued : ∀ name message, issued name message → issued' name message) :
    Custody guarded keys' log issued' where
  stored_drawn name key hkey := h.stored_drawn name key (hkeys name key hkey)
  tagged_drawn := h.tagged_drawn
  issued_of_tag name key message hkey htag hguarded :=
    hissued name message (h.issued_of_tag name key message (hkeys name key hkey) htag hguarded)

theorem tag {name : ι} {key : κ} {message : μ}
    (hkey : keys name = some key) (hmessage : ¬ guarded message) :
    Custody guarded keys (log.tag key message) issued where
  stored_drawn := h.stored_drawn
  tagged_drawn key' message' htag := by
    obtain heq | htag := List.mem_cons.mp htag
    · cases heq
      exact h.stored_drawn name key hkey
    · exact h.tagged_drawn key' message' htag
  issued_of_tag name' key' message' hkey' htag hguarded := by
    obtain heq | htag := List.mem_cons.mp htag
    · cases heq
      exact absurd hguarded hmessage
    · exact h.issued_of_tag name' key' message' hkey' htag hguarded

theorem draw {key : κ} {message : μ}
    (hfresh : key ∉ log.drawn)
    (hkeys : ∀ name key', keys' name = some key' →
      keys name = some key' ∨ key' = key ∧ issued' name message)
    (hissued : ∀ name message, issued name message → issued' name message) :
    Custody guarded keys' (log.draw key message) issued' where
  stored_drawn name key' hkey' := by
    obtain hold | ⟨rfl, _⟩ := hkeys name key' hkey'
    · exact List.mem_cons_of_mem _ (h.stored_drawn name key' hold)
    · exact List.mem_cons_self
  tagged_drawn key' message' htag := by
    obtain heq | htag := List.mem_cons.mp htag
    · cases heq
      exact List.mem_cons_self
    · exact List.mem_cons_of_mem _ (h.tagged_drawn key' message' htag)
  issued_of_tag name key' message' hkey' htag hguarded := by
    obtain hold | ⟨rfl, hnew⟩ := hkeys name key' hkey'
    -- an old key is not the fresh one, so its tag is an old one as well
    · obtain heq | htag := List.mem_cons.mp htag
      · cases heq
        exact absurd (h.stored_drawn name _ hold) hfresh
      · exact hissued name message' (h.issued_of_tag name key' message' hold htag hguarded)
    · obtain heq | htag := List.mem_cons.mp htag
      · cases heq
        exact hnew
      · exact absurd (h.tagged_drawn key' message' htag) hfresh

end

end Custody

end NexusCua.Foundation
