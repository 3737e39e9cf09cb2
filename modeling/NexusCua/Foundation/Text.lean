import NexusCua.Foundation.Json

/-!
# Texts as bytes and bytes as texts

The UTF-8 bytes of a text, and bytes written as pairs of hexadecimal digits.
-/

namespace NexusCua.Foundation

/-! ## UTF-8 -/

def utf8 (text : List Char) : List UInt8 := text.flatMap String.utf8EncodeChar

theorem toByteArray_utf8 (text : List Char) :
    (utf8 text).toByteArray = (String.ofList text).toByteArray :=
  String.toByteArray_ofList.symm

theorem utf8_injective : Function.Injective utf8 := by
  intro text text' h
  have hstring : String.ofList text = String.ofList text' := by
    apply String.toByteArray_inj.mp
    rw [← toByteArray_utf8, h, toByteArray_utf8]
  calc text = (String.ofList text).toList := String.toList_ofList.symm
    _ = (String.ofList text').toList := by rw [hstring]
    _ = text' := String.toList_ofList

@[simp] theorem utf8_append (text text' : List Char) :
    utf8 (text ++ text') = utf8 text ++ utf8 text' :=
  List.flatMap_append

@[simp] theorem utf8_nil : utf8 [] = [] := rfl

@[simp] theorem utf8_cons (c : Char) (text : List Char) :
    utf8 (c :: text) = String.utf8EncodeChar c ++ utf8 text :=
  List.flatMap_cons

theorem length_utf8 (text : List Char) : (utf8 text).length = (text.map Char.utf8Size).sum := by
  simp only [utf8, List.length_flatMap, String.length_utf8EncodeChar]

theorem length_utf8_of_ascii {text : List Char} (h : ∀ c ∈ text, c.toNat < 128) :
    (utf8 text).length = text.length := by
  induction text with
  | nil => rfl
  | cons c text ih =>
    rw [List.forall_mem_cons] at h
    have hc : c.utf8Size = 1 := Char.utf8Size_eq_one_iff.mpr (Nat.le_of_lt_succ h.1)
    rw [length_utf8] at ih ⊢
    rw [List.map_cons, List.sum_cons, ih h.2, hc, List.length_cons, Nat.add_comm]

/-! ## Hexadecimal digits -/

def hexEncode (bytes : List UInt8) : List Char :=
  bytes.flatMap fun byte => [Nat.digitChar (byte.toNat / 16), Nat.digitChar (byte.toNat % 16)]

def hexDecode : List Char → Option (List UInt8)
  | [] => some []
  | [_] => none
  | high :: low :: rest => do
      let high ← Json.hexValue high
      let low ← Json.hexValue low
      let rest ← hexDecode rest
      some (UInt8.ofNat (high * 16 + low) :: rest)

@[simp] theorem length_hexEncode (bytes : List UInt8) :
    (hexEncode bytes).length = 2 * bytes.length := by
  simp [hexEncode, List.length_flatMap, Nat.mul_comm]

theorem hexDecode_hexEncode (bytes : List UInt8) : hexDecode (hexEncode bytes) = some bytes := by
  induction bytes with
  | nil => rfl
  | cons byte bytes ih =>
    have hbyte : byte.toNat < 256 := byte.toNat_lt
    have hhigh := Json.hexValue_digitChar (byte.toNat / 16) (by omega)
    have hlow := Json.hexValue_digitChar (byte.toNat % 16) (by omega)
    have hsum : byte.toNat / 16 * 16 + byte.toNat % 16 = byte.toNat := by omega
    rw [hexEncode] at ih
    simp only [hexEncode, List.flatMap_cons, List.cons_append, List.nil_append, hexDecode, hhigh,
      hlow, ih, Option.bind_eq_bind, Option.bind_some, hsum, UInt8.ofNat_toNat]

/-! ## The size of printed JSON -/

namespace Json

theorem length_gap_false (depth : Nat) : (utf8 (gap false depth)).length = 0 := rfl

theorem length_colon_le : (utf8 (colon false)).length ≤ (utf8 (colon true)).length := by decide

mutual

theorem length_compact_le : ∀ (value : Json) (depth depth' : Nat),
    (utf8 (print false depth value)).length ≤ (utf8 (print true depth' value)).length
  | .null, _, _ => by simp [print]
  | .bool true, _, _ => by simp [print]
  | .bool false, _, _ => by simp [print]
  | .num _, _, _ => by simp [print]
  | .str _, _, _ => by simp [print]
  | .arr [], _, _ => by simp [print]
  | .arr (item :: items), depth, depth' => by
      have hitem := length_compact_le item (depth + 1) (depth' + 1)
      have hitems := length_compactItems_le items (depth + 1) (depth' + 1)
      simp only [print, utf8_cons, utf8_append, List.length_append, length_gap_false]
      omega
  | .obj [], _, _ => by simp [print]
  | .obj ((key, value) :: fields), depth, depth' => by
      have hcolon := length_colon_le
      have hvalue := length_compact_le value (depth + 1) (depth' + 1)
      have hfields := length_compactFields_le fields (depth + 1) (depth' + 1)
      simp only [print, utf8_cons, utf8_append, List.length_append, length_gap_false]
      omega

theorem length_compactItems_le : ∀ (items : List Json) (depth depth' : Nat),
    (utf8 (printItems false depth items)).length ≤ (utf8 (printItems true depth' items)).length
  | [], _, _ => by simp [printItems]
  | item :: items, depth, depth' => by
      have hitem := length_compact_le item depth depth'
      have hitems := length_compactItems_le items depth depth'
      simp only [printItems, utf8_cons, utf8_append, List.length_append, length_gap_false]
      omega

theorem length_compactFields_le : ∀ (fields : List (String × Json)) (depth depth' : Nat),
    (utf8 (printFields false depth fields)).length ≤
      (utf8 (printFields true depth' fields)).length
  | [], _, _ => by simp [printFields]
  | (key, value) :: fields, depth, depth' => by
      have hcolon := length_colon_le
      have hvalue := length_compact_le value depth depth'
      have hfields := length_compactFields_le fields depth depth'
      simp only [printFields, utf8_cons, utf8_append, List.length_append, length_gap_false]
      omega

end

def isPlain (c : Char) : Bool := 32 ≤ c.toNat && c.toNat < 128 && c != '"' && c != '\\'

theorem shortEscapes_not_plain : ∀ entry ∈ shortEscapes, isPlain entry.1 = false := by decide

theorem escapeChar_of_isPlain {c : Char} (h : isPlain c = true) : escapeChar c = [c] := by
  have hshort : shortEscapes.lookup c = none := by
    rw [List.lookup_eq_none_iff]
    intro entry hentry
    have hne : c ≠ entry.1 := by
      rintro rfl
      rw [shortEscapes_not_plain entry hentry] at h
      cases h
    simpa using hne
  simp only [isPlain, Bool.and_eq_true, decide_eq_true_eq] at h
  rw [escapeChar, hshort]
  exact if_neg (by omega)

theorem length_printString_of_isPlain {value : String}
    (h : ∀ c ∈ value.toList, isPlain c = true) :
    (utf8 (printString value)).length = value.length + 2 := by
  have hescape : value.toList.flatMap escapeChar = value.toList := by
    rw [List.flatMap_congr fun c hc => escapeChar_of_isPlain (h c hc), List.flatMap_singleton']
  have hascii : ∀ c ∈ value.toList, c.toNat < 128 := by
    intro c hc
    have hplain := h c hc
    simp only [isPlain, Bool.and_eq_true, decide_eq_true_eq] at hplain
    exact hplain.1.1.2
  have hquote : (String.utf8EncodeChar '"').length = 1 := rfl
  simp only [printString, hescape, utf8_cons, utf8_append, utf8_nil, List.length_append,
    length_utf8_of_ascii hascii, hquote, String.length_toList, List.length_nil]
  omega

end Json

end NexusCua.Foundation
