import Mathlib

/-!
# Sets of small numbers in machine words

A set of numbers below `n * w` is kept in `n` words of `w` bits.  Marking a number sets
or clears one bit of one word, and the set is inhabited when some word is not zero.
-/

namespace NexusCua.Foundation

def mark {w : Nat} (word : BitVec w) (bit : Nat) (on : Bool) : BitVec w :=
  if on then word ||| BitVec.twoPow w bit else word &&& ~~~BitVec.twoPow w bit

theorem getLsbD_mark {w : Nat} (word : BitVec w) {bit : Nat} (hbit : bit < w) (on : Bool)
    (i : Nat) : (mark word bit on).getLsbD i = if i = bit then on else word.getLsbD i := by
  by_cases hi : i = bit
  · subst hi
    cases on <;> simp [mark, hbit]
  · have hne : ¬bit = i := fun h => hi h.symm
    cases on with
    | true => simp [mark, hi, hne, hbit]
    | false =>
      by_cases hlt : i < w
      · simp [mark, hi, hlt]
      · simp [mark, hi, BitVec.getLsbD_of_ge _ _ (Nat.le_of_not_lt hlt)]

theorem and_twoPow_ne_zero_iff {w : Nat} (word : BitVec w) {bit : Nat} (hbit : bit < w) :
    word &&& BitVec.twoPow w bit ≠ 0 ↔ word.getLsbD bit = true := by
  rw [BitVec.and_twoPow]
  cases hword : word.getLsbD bit with
  | false => simp
  | true =>
    simp only [if_true, ne_eq, iff_true]
    intro hzero
    have hset : (BitVec.twoPow w bit).getLsbD bit = true := by simp [hbit]
    rw [hzero] at hset
    simp at hset

theorem word_ne_zero_iff {w : Nat} (word : BitVec w) :
    word ≠ 0 ↔ ∃ i, i < w ∧ word.getLsbD i = true := by
  constructor
  · intro hne
    by_contra hnone
    apply hne
    apply BitVec.eq_of_getLsbD_eq
    intro i hi
    have hclear : ¬word.getLsbD i = true := fun h => hnone ⟨i, hi, h⟩
    simpa using hclear
  · rintro ⟨i, -, hset⟩ rfl
    simp at hset

/-! ## Clearing every number that does not pass a test -/

def sweepBit {w : Nat} (keep : Nat → Bool) (word : BitVec w) (bit : Nat) : BitVec w :=
  if word &&& BitVec.twoPow w bit ≠ 0 ∧ keep bit = false then mark word bit false else word

def sweep {w : Nat} (keep : Nat → Bool) (word : BitVec w) : BitVec w :=
  (List.range w).foldl (sweepBit keep) word

theorem getLsbD_sweepBit {w : Nat} (keep : Nat → Bool) (word : BitVec w) {bit : Nat}
    (hbit : bit < w) (i : Nat) :
    (sweepBit keep word bit).getLsbD i =
      if i = bit then word.getLsbD i && keep i else word.getLsbD i := by
  simp only [sweepBit, and_twoPow_ne_zero_iff word hbit]
  by_cases hi : i = bit
  · subst hi
    cases hword : word.getLsbD i <;> cases keep i <;>
      simp [hword, getLsbD_mark word hbit]
  · split
    · rw [getLsbD_mark word hbit, if_neg hi]
    · simp

theorem getLsbD_foldl_sweepBit {w : Nat} (keep : Nat → Bool) (bits : List Nat)
    (hbits : ∀ bit ∈ bits, bit < w) (word : BitVec w) (i : Nat) :
    (bits.foldl (sweepBit keep) word).getLsbD i =
      if i ∈ bits then word.getLsbD i && keep i else word.getLsbD i := by
  induction bits using List.reverseRecOn with
  | nil => rfl
  | append_singleton bits bit ih =>
    have hbit : bit < w := hbits bit (by simp)
    have hrest := ih fun b hb => hbits b (by simp [hb])
    rw [List.foldl_append, List.foldl_cons, List.foldl_nil, getLsbD_sweepBit keep _ hbit, hrest]
    by_cases hi : i = bit
    · by_cases hmem : i ∈ bits <;> simp [hi, hi ▸ hmem]
    · simp [hi]

theorem getLsbD_sweep {w : Nat} (keep : Nat → Bool) (word : BitVec w) (i : Nat) :
    (sweep keep word).getLsbD i = (word.getLsbD i && keep i) := by
  rw [sweep, getLsbD_foldl_sweepBit keep _ fun bit hbit => List.mem_range.mp hbit]
  by_cases hi : i < w
  · rw [if_pos (List.mem_range.mpr hi)]
  · rw [if_neg (by simpa using hi), BitVec.getLsbD_of_ge _ _ (Nat.le_of_not_lt hi),
      Bool.false_and]

/-! ## Boards -/

/-- `n` words of `w` bits. -/
abbrev BitBoard (n w : Nat) : Type := Vector (BitVec w) n

namespace BitBoard

variable {n w : Nat}

def empty (n w : Nat) : BitBoard n w := Vector.replicate n 0

/-- Whether a number below `n * w` is in the set. -/
def has (board : BitBoard n w) (i : Nat) : Bool :=
  (board[i / w]?.getD 0).getLsbD (i % w)

def set (board : BitBoard n w) (i : Nat) (on : Bool) : BitBoard n w :=
  board.setIfInBounds (i / w) (mark (board[i / w]?.getD 0) (i % w) on)

def inhabited (board : BitBoard n w) : Bool := board.any fun word => word != 0

@[simp] theorem has_empty (i : Nat) : (empty n w).has i = false := by
  simp only [has, empty]
  by_cases hi : i / w < n <;> simp [hi]

theorem has_set (board : BitBoard n w) {i : Nat} (hi : i < n * w) (on : Bool) (j : Nat) :
    (board.set i on).has j = if j = i then on else board.has j := by
  have hw : 0 < w := Nat.pos_of_lt_mul_left hi
  have hword : i / w < n := (Nat.div_lt_iff_lt_mul hw).mpr hi
  have hbit : i % w < w := Nat.mod_lt i hw
  simp only [has, set]
  by_cases hq : j / w = i / w
  · rw [hq, Vector.getElem?_setIfInBounds_self_of_lt hword, Option.getD_some,
      getLsbD_mark _ hbit]
    have hiff : j % w = i % w ↔ j = i := by
      constructor
      · intro hr
        rw [← Nat.div_add_mod j w, ← Nat.div_add_mod i w, hq, hr]
      · rintro rfl
        rfl
    simp only [hiff]
  · have hji : j ≠ i := fun h => hq (h ▸ rfl)
    rw [Vector.getElem?_setIfInBounds_ne fun h => hq h.symm, if_neg hji]

theorem inhabited_iff (board : BitBoard n w) :
    board.inhabited = true ↔ ∃ i, i < n * w ∧ board.has i = true := by
  simp only [inhabited, Vector.any_eq_true, bne_iff_ne, word_ne_zero_iff]
  constructor
  · rintro ⟨q, hq, r, hr, hset⟩
    have hw : 0 < w := Nat.lt_of_le_of_lt (Nat.zero_le r) hr
    have hdiv : (w * q + r) / w = q := by
      rw [Nat.mul_add_div hw, Nat.div_eq_of_lt hr, Nat.add_zero]
    have hmod : (w * q + r) % w = r := by
      rw [Nat.mul_add_mod, Nat.mod_eq_of_lt hr]
    refine ⟨w * q + r, ?_, ?_⟩
    · calc w * q + r < w * q + w := Nat.add_lt_add_left hr _
        _ = (q + 1) * w := by rw [Nat.add_mul, Nat.one_mul, Nat.mul_comm]
        _ ≤ n * w := Nat.mul_le_mul_right w hq
    · simpa [has, hdiv, hmod, hq] using hset
  · rintro ⟨i, hi, hset⟩
    have hw : 0 < w := Nat.pos_of_lt_mul_left hi
    have hq : i / w < n := (Nat.div_lt_iff_lt_mul hw).mpr hi
    refine ⟨i / w, hq, i % w, Nat.mod_lt i hw, ?_⟩
    simpa [has, hq] using hset

/-- The clearing loop over every word; the test is asked for the number of the bit. -/
def sweepAll (keep : Nat → Bool) (board : BitBoard n w) : BitBoard n w :=
  board.mapIdx fun q word => sweep (fun bit => keep (q * w + bit)) word

theorem has_sweepAll (keep : Nat → Bool) (board : BitBoard n w) {i : Nat} (hi : i < n * w) :
    (board.sweepAll keep).has i = (board.has i && keep i) := by
  have hw : 0 < w := Nat.pos_of_lt_mul_left hi
  have hq : i / w < n := (Nat.div_lt_iff_lt_mul hw).mpr hi
  have hnumber : i / w * w + i % w = i := by rw [Nat.mul_comm, Nat.div_add_mod]
  simp [has, sweepAll, hq, getLsbD_sweep, hnumber]

end BitBoard

end NexusCua.Foundation
