import NexusCua.Platform.Semantic

/-!
# The identity of an element

Before an action the facts of an element are read again and their digest is compared
with the recorded one.  The digest is taken over the facts written one after the other
without lengths, so two different elements may write the same bytes.  They do so in two
ways: the texts are grouped differently around the separators, or the texts of one end in
the bytes that the other writes for its range and bounds.
-/

namespace NexusCua.Platform

open NexusCua.Foundation NexusCua.Protocol NexusCua.Runtime

/-! ## Numbers as bytes -/

theorem length_bigEndian (bits : UInt64) : (bigEndian bits).length = 8 := by
  simp [bigEndian]

theorem bigEndian_injective : Function.Injective bigEndian := by
  intro a b h
  have hbyte : ∀ index < 8, (a >>> (56 - 8 * index).toUInt64).toUInt8 =
      (b >>> (56 - 8 * index).toUInt64).toUInt8 := by
    intro index hindex
    exact List.map_inj_left.mp h index (List.mem_range.mpr hindex)
  have h0 := congrArg UInt8.toNat (hbyte 0 (by decide))
  have h1 := congrArg UInt8.toNat (hbyte 1 (by decide))
  have h2 := congrArg UInt8.toNat (hbyte 2 (by decide))
  have h3 := congrArg UInt8.toNat (hbyte 3 (by decide))
  have h4 := congrArg UInt8.toNat (hbyte 4 (by decide))
  have h5 := congrArg UInt8.toNat (hbyte 5 (by decide))
  have h6 := congrArg UInt8.toNat (hbyte 6 (by decide))
  have h7 := congrArg UInt8.toNat (hbyte 7 (by decide))
  simp [Nat.shiftRight_eq_div_pow] at h0 h1 h2 h3 h4 h5 h6 h7
  apply UInt64.toNat_inj.mp
  have ha := a.toNat_lt
  have hb := b.toNat_lt
  omega

theorem toBits_injective : Function.Injective Float.toBits := by
  rintro ⟨⟨a, ha⟩⟩ ⟨⟨b, hb⟩⟩ h
  have hab : a = b := h
  subst hab
  rfl

theorem bigEndian_toBits_inj {a b : Float} :
    bigEndian a.toBits = bigEndian b.toBits ↔ a = b :=
  (bigEndian_injective.comp toBits_injective).eq_iff

/-! ## Facts -/

/-- What identifies an element; `state` is what the platform adds about its state. -/
structure ElementFacts where
  role : String
  name : String
  value : Option String
  range : Option AccessibilityRangeValue
  state : UInt8
  bounds : Option ScreenRect
  deriving DecidableEq, Repr

def rangeFacts (range : AccessibilityRangeValue) : Float × Float × Float × Bool :=
  (range.value, range.minimum, range.maximum, range.readOnly)

namespace ElementFacts

def bytes (facts : ElementFacts) : List UInt8 :=
  signatureBytes facts.role facts.name facts.value facts.range facts.state facts.bounds

def valueBytes : Option String → List UInt8
  | none => []
  | some value => 0 :: utf8 value.toList

def text (facts : ElementFacts) : List UInt8 :=
  utf8 facts.role.toList ++ [0] ++ utf8 facts.name.toList ++ valueBytes facts.value

def tail (facts : ElementFacts) : List UInt8 :=
  rangeBytes facts.range ++ [facts.state] ++ boundsBytes facts.bounds

theorem bytes_eq (facts : ElementFacts) : facts.bytes = facts.text ++ facts.tail := by
  cases hvalue : facts.value <;>
    simp [bytes, signatureBytes, text, tail, valueBytes, hvalue, List.append_assoc]

def SameTexts (a b : ElementFacts) : Prop :=
  a.role = b.role ∧ a.name = b.name ∧ a.value = b.value

def SameState (a b : ElementFacts) : Prop :=
  a.range.map rangeFacts = b.range.map rangeFacts ∧ a.state = b.state ∧ a.bounds = b.bounds

def Same (a b : ElementFacts) : Prop := SameTexts a b ∧ SameState a b

def Regrouped (a b : ElementFacts) : Prop :=
  a.text = b.text ∧ ¬SameTexts a b ∧ SameState a b

/-- The texts of the first element are those of the second and the first bytes that the
second one writes for its range, state and bounds. -/
def Swallows (a b : ElementFacts) : Prop :=
  ∃ extra, extra ≠ [] ∧ a.text = b.text ++ extra ∧ b.tail = extra ++ a.tail

/-! ## Equal bytes -/

theorem length_rangeBytes (range : Option AccessibilityRangeValue) :
    (rangeBytes range).length = if range.isSome then 25 else 0 := by
  cases range <;> simp [rangeBytes, length_bigEndian]

theorem length_boundsBytes (bounds : Option ScreenRect) :
    (boundsBytes bounds).length = if bounds.isSome then 32 else 0 := by
  cases bounds <;> simp [boundsBytes, length_bigEndian]

theorem boundsBytes_injective : Function.Injective boundsBytes := by
  intro a b h
  have hlength := congrArg List.length h
  rw [length_boundsBytes, length_boundsBytes] at hlength
  cases a with
  | none => cases b with
    | none => rfl
    | some b => simp at hlength
  | some a => cases b with
    | none => simp at hlength
    | some b =>
      simp only [boundsBytes] at h
      obtain ⟨h, hheight⟩ := List.append_inj' h (by rw [length_bigEndian, length_bigEndian])
      obtain ⟨h, hwidth⟩ := List.append_inj' h (by rw [length_bigEndian, length_bigEndian])
      obtain ⟨hx, hy⟩ := List.append_inj' h (by rw [length_bigEndian, length_bigEndian])
      rw [bigEndian_toBits_inj] at hx hy hwidth hheight
      cases a
      cases b
      simp_all

theorem rangeBytes_eq_iff (a b : Option AccessibilityRangeValue) :
    rangeBytes a = rangeBytes b ↔ a.map rangeFacts = b.map rangeFacts := by
  cases a with
  | none => cases b <;> simp [rangeBytes]
  | some a => cases b with
    | none => simp [rangeBytes]
    | some b =>
      have hflag : ∀ x y : Bool, ((if x then 1 else 0 : UInt8) = if y then 1 else 0) ↔ x = y := by
        decide
      simp only [rangeBytes, Option.map_some, Option.some.injEq, rangeFacts, Prod.mk.injEq]
      constructor
      · intro h
        obtain ⟨h, hreadOnly⟩ := List.append_inj' h rfl
        obtain ⟨h, hmaximum⟩ := List.append_inj' h (by rw [length_bigEndian, length_bigEndian])
        obtain ⟨hvalue, hminimum⟩ :=
          List.append_inj' h (by rw [length_bigEndian, length_bigEndian])
        rw [bigEndian_toBits_inj] at hvalue hminimum hmaximum
        rw [List.cons.injEq, hflag] at hreadOnly
        exact ⟨hvalue, hminimum, hmaximum, hreadOnly.1⟩
      · rintro ⟨hvalue, hminimum, hmaximum, hreadOnly⟩
        rw [hvalue, hminimum, hmaximum, hreadOnly]

theorem length_tail (facts : ElementFacts) : facts.tail.length =
    (if facts.range.isSome then 25 else 0) + 1 + if facts.bounds.isSome then 32 else 0 := by
  simp only [tail, List.length_append, length_rangeBytes, length_boundsBytes, List.length_singleton]

theorem tail_eq_iff (a b : ElementFacts) : a.tail = b.tail ↔ SameState a b := by
  constructor
  · intro h
    have hlength := congrArg List.length h
    rw [length_tail, length_tail] at hlength
    -- the four possible lengths are different
    have hranges : a.range.isSome = b.range.isSome := by
      cases hra : a.range.isSome <;> cases hrb : b.range.isSome <;>
        cases hba : a.bounds.isSome <;> cases hbb : b.bounds.isSome <;> simp_all
    have hrange : (rangeBytes a.range).length = (rangeBytes b.range).length := by
      rw [length_rangeBytes, length_rangeBytes, hranges]
    simp only [tail, List.append_assoc] at h
    obtain ⟨hrangeBytes, hrest⟩ := List.append_inj h hrange
    obtain ⟨hstate, hbounds⟩ := List.cons.inj hrest
    exact ⟨(rangeBytes_eq_iff _ _).mp hrangeBytes, hstate, boundsBytes_injective hbounds⟩
  · rintro ⟨hrange, hstate, hbounds⟩
    rw [tail, tail, (rangeBytes_eq_iff _ _).mpr hrange, hstate, hbounds]

theorem SameTexts.text_eq {a b : ElementFacts} (h : SameTexts a b) : a.text = b.text := by
  rw [text, text, h.1, h.2.1, h.2.2]

theorem bytes_eq_iff (a b : ElementFacts) :
    a.bytes = b.bytes ↔ Same a b ∨ Regrouped a b ∨ Swallows a b ∨ Swallows b a := by
  rw [bytes_eq, bytes_eq]
  constructor
  · intro h
    rcases List.append_eq_append_iff.mp h with ⟨extra, htext, htail⟩ | ⟨extra, htext, htail⟩
    · by_cases hextra : extra = []
      · subst hextra
        rw [List.append_nil] at htext
        have hstate := (tail_eq_iff a b).mp htail
        by_cases htexts : SameTexts a b
        · exact .inl ⟨htexts, hstate⟩
        · exact .inr (.inl ⟨htext.symm, htexts, hstate⟩)
      · exact .inr (.inr (.inr ⟨extra, hextra, htext, htail⟩))
    · by_cases hextra : extra = []
      · subst hextra
        rw [List.append_nil] at htext
        have hstate := (tail_eq_iff a b).mp htail.symm
        by_cases htexts : SameTexts a b
        · exact .inl ⟨htexts, hstate⟩
        · exact .inr (.inl ⟨htext, htexts, hstate⟩)
      · exact .inr (.inr (.inl ⟨extra, hextra, htext, htail⟩))
  · rintro (⟨htexts, hstate⟩ | ⟨htext, -, hstate⟩ | ⟨extra, -, htext, htail⟩ |
      ⟨extra, -, htext, htail⟩)
    · rw [htexts.text_eq, (tail_eq_iff a b).mpr hstate]
    · rw [htext, (tail_eq_iff a b).mpr hstate]
    · rw [htext, htail, List.append_assoc]
    · rw [htext, htail, List.append_assoc]

def Distinguished (a b : ElementFacts) : Prop :=
  ¬Regrouped a b ∧ ¬Swallows a b ∧ ¬Swallows b a

theorem Same.distinguished {a b : ElementFacts} (h : Same a b) : Distinguished a b := by
  have htail : a.tail = b.tail := (tail_eq_iff a b).mpr h.2
  refine ⟨fun hregrouped => hregrouped.2.1 h.1, ?_, ?_⟩
  · rintro ⟨extra, hextra, -, hswallowed⟩
    exact hextra (List.self_eq_append_left.mp (htail.trans hswallowed))
  · rintro ⟨extra, hextra, -, hswallowed⟩
    exact hextra (List.self_eq_append_left.mp (htail.symm.trans hswallowed))

theorem same_of_bytes_iff (a b : ElementFacts) :
    (a.bytes = b.bytes → Same a b) ↔ Distinguished a b := by
  constructor
  · intro h
    by_contra hhidden
    have hbytes : a.bytes = b.bytes := by
      rw [bytes_eq_iff]
      simp only [Distinguished] at hhidden
      tauto
    exact hhidden (h hbytes).distinguished
  · rintro ⟨hregrouped, hswallows, hswallowed⟩ hbytes
    rcases (bytes_eq_iff a b).mp hbytes with hsame | h | h | h
    · exact hsame
    · exact absurd h hregrouped
    · exact absurd h hswallows
    · exact absurd h hswallowed

theorem Same.bytes_eq {a b : ElementFacts} (h : Same a b) : a.bytes = b.bytes :=
  (bytes_eq_iff a b).mpr (.inl h)

end ElementFacts

end NexusCua.Platform
