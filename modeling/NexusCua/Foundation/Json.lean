import Mathlib

/-!
# JSON texts

The JSON values that the program stores: natural numbers are the only numbers
among them.  `print` writes a value the way `serde_json` does, either compactly
or with two spaces of indentation; `parse` reads any JSON text of such a value,
with the white space and the escapes that JSON allows.  A printed value is read
back as itself.
-/

namespace NexusCua.Foundation

inductive Json where
  | null
  | bool (value : Bool)
  | num (value : Nat)
  | str (value : String)
  | arr (items : List Json)
  | obj (fields : List (String × Json))

namespace Json

/-! ## Printing -/

def shortEscapes : List (Char × Char) :=
  [('"', '"'), ('\\', '\\'), (Char.ofNat 8, 'b'), (Char.ofNat 9, 't'), (Char.ofNat 10, 'n'),
    (Char.ofNat 12, 'f'), (Char.ofNat 13, 'r')]

def escapeChar (c : Char) : List Char :=
  match shortEscapes.lookup c with
  | some letter => ['\\', letter]
  | none =>
      if c.toNat < 32 then
        ['\\', 'u', '0', '0', Nat.digitChar (c.toNat / 16), Nat.digitChar (c.toNat % 16)]
      else [c]

def printString (value : String) : List Char :=
  '"' :: (value.toList.flatMap escapeChar ++ ['"'])

/-- What stands before an item and before the bracket that closes the last one. -/
def gap (pretty : Bool) (depth : Nat) : List Char :=
  if pretty then '\n' :: List.replicate (2 * depth) ' ' else []

def colon (pretty : Bool) : List Char := if pretty then [':', ' '] else [':']

mutual

def print (pretty : Bool) (depth : Nat) : Json → List Char
  | .null => ['n', 'u', 'l', 'l']
  | .bool true => ['t', 'r', 'u', 'e']
  | .bool false => ['f', 'a', 'l', 's', 'e']
  | .num value => Nat.toDigits 10 value
  | .str value => printString value
  | .arr [] => ['[', ']']
  | .arr (item :: items) =>
      '[' :: (gap pretty (depth + 1) ++ print pretty (depth + 1) item ++
        printItems pretty (depth + 1) items ++ gap pretty depth ++ [']'])
  | .obj [] => ['{', '}']
  | .obj ((key, value) :: fields) =>
      '{' :: (gap pretty (depth + 1) ++ printString key ++ colon pretty ++
        print pretty (depth + 1) value ++ printFields pretty (depth + 1) fields ++
        gap pretty depth ++ ['}'])

def printItems (pretty : Bool) (depth : Nat) : List Json → List Char
  | [] => []
  | item :: items =>
      ',' :: (gap pretty depth ++ print pretty depth item ++ printItems pretty depth items)

def printFields (pretty : Bool) (depth : Nat) : List (String × Json) → List Char
  | [] => []
  | (key, value) :: fields =>
      ',' :: (gap pretty depth ++ printString key ++ colon pretty ++ print pretty depth value ++
        printFields pretty depth fields)

end

def compact (value : Json) : List Char := print false 0 value

def pretty (value : Json) : List Char := print true 0 value

/-! ## Parsing -/

def skipSpace : List Char → List Char
  | [] => []
  | c :: rest => if c.isWhitespace then skipSpace rest else c :: rest

def hexValue (c : Char) : Option Nat :=
  if c.isDigit then some (c.toNat - 48)
  else if 'a' ≤ c ∧ c ≤ 'f' then some (c.toNat - 87)
  else if 'A' ≤ c ∧ c ≤ 'F' then some (c.toNat - 55)
  else none

def codeUnit (a b c d : Char) : Option Nat := do
  let a ← hexValue a
  let b ← hexValue b
  let c ← hexValue c
  let d ← hexValue d
  some (((a * 16 + b) * 16 + c) * 16 + d)

def unescape (letter : Char) : Option Char :=
  ((('/', '/') :: shortEscapes).find? fun entry => entry.2 == letter).map Prod.fst

def parseString : List Char → Option (List Char × List Char)
  | [] => none
  | '"' :: rest => some ([], rest)
  | '\\' :: 'u' :: a :: b :: c :: d :: rest =>
      match codeUnit a b c d with
      | none => none
      | some unit =>
          if 0xD800 ≤ unit ∧ unit < 0xDC00 then
            match rest with
            | '\\' :: 'u' :: a :: b :: c :: d :: rest =>
                match codeUnit a b c d with
                | none => none
                | some low =>
                    if 0xDC00 ≤ low ∧ low < 0xE000 then
                      (parseString rest).map fun (text, rest) =>
                        (Char.ofNat (0x10000 + (unit - 0xD800) * 0x400 + (low - 0xDC00)) :: text,
                          rest)
                    else none
            | _ => none
          else if 0xDC00 ≤ unit ∧ unit < 0xE000 then none
          else (parseString rest).map fun (text, rest) => (Char.ofNat unit :: text, rest)
  | '\\' :: letter :: rest =>
      match unescape letter with
      | none => none
      | some c => (parseString rest).map fun (text, rest) => (c :: text, rest)
  | c :: rest =>
      if c.toNat < 32 then none
      else (parseString rest).map fun (text, rest) => (c :: text, rest)

def extendsNumber (c : Char) : Bool := c.isDigit || c == '.' || c == 'e' || c == 'E'

/-- No stored value has a sign, a fraction or an exponent, so the texts of such
numbers are refused here and not where the value is used. -/
def parseNumber (input : List Char) : Option (Nat × List Char) :=
  let digits := input.takeWhile Char.isDigit
  let rest := input.dropWhile Char.isDigit
  if digits = [] ∨ (digits.head? = some '0' ∧ 1 < digits.length) ∨ rest.head?.any extendsNumber then
    none
  else some (Nat.ofDigitChars 10 digits 0, rest)

mutual

def parseValue : Nat → List Char → Option (Json × List Char)
  | 0, _ => none
  | fuel + 1, input =>
      match skipSpace input with
      | 'n' :: 'u' :: 'l' :: 'l' :: rest => some (.null, rest)
      | 't' :: 'r' :: 'u' :: 'e' :: rest => some (.bool true, rest)
      | 'f' :: 'a' :: 'l' :: 's' :: 'e' :: rest => some (.bool false, rest)
      | '"' :: rest => (parseString rest).map fun (text, rest) => (.str (String.ofList text), rest)
      | '[' :: rest =>
          if (skipSpace rest).head? = some ']' then some (.arr [], (skipSpace rest).tail)
          else do
            let (item, rest) ← parseValue fuel rest
            let (items, rest) ← parseItems fuel rest
            some (.arr (item :: items), rest)
      | '{' :: rest =>
          if (skipSpace rest).head? = some '}' then some (.obj [], (skipSpace rest).tail)
          else do
            let (field, rest) ← parseField fuel rest
            let (fields, rest) ← parseFields fuel rest
            some (.obj (field :: fields), rest)
      | input => (parseNumber input).map fun (value, rest) => (.num value, rest)

def parseItems : Nat → List Char → Option (List Json × List Char)
  | 0, _ => none
  | fuel + 1, input =>
      match skipSpace input with
      | ']' :: rest => some ([], rest)
      | ',' :: rest => do
          let (item, rest) ← parseValue fuel rest
          let (items, rest) ← parseItems fuel rest
          some (item :: items, rest)
      | _ => none

def parseField : Nat → List Char → Option ((String × Json) × List Char)
  | 0, _ => none
  | fuel + 1, input =>
      match skipSpace input with
      | '"' :: rest => do
          let (key, rest) ← parseString rest
          match skipSpace rest with
          | ':' :: rest => do
              let (value, rest) ← parseValue fuel rest
              some ((String.ofList key, value), rest)
          | _ => none
      | _ => none

def parseFields : Nat → List Char → Option (List (String × Json) × List Char)
  | 0, _ => none
  | fuel + 1, input =>
      match skipSpace input with
      | '}' :: rest => some ([], rest)
      | ',' :: rest => do
          let (field, rest) ← parseField fuel rest
          let (fields, rest) ← parseFields fuel rest
          some (field :: fields, rest)
      | _ => none

end

def parse (text : List Char) : Option Json :=
  match parseValue (text.length + 1) text with
  | some (value, rest) => if skipSpace rest = [] then some value else none
  | none => none

/-! ## Strings -/

theorem hexValue_digitChar : ∀ d < 16, hexValue (Nat.digitChar d) = some d := by
  decide

theorem parseString_escapeChar (c : Char) (rest : List Char) :
    parseString (escapeChar c ++ rest) =
      (parseString rest).map fun (text, rest) => (c :: text, rest) := by
  rw [escapeChar]
  cases hlookup : shortEscapes.lookup c with
  | some letter =>
    have hmem : (c, letter) ∈ shortEscapes := by
      obtain ⟨before, after, heq, -⟩ := List.lookup_eq_some_iff.mp hlookup
      simp [heq]
    simp only [shortEscapes, List.mem_cons, Prod.mk.injEq, List.not_mem_nil, or_false] at hmem
    obtain ⟨rfl, rfl⟩ | ⟨rfl, rfl⟩ | ⟨rfl, rfl⟩ | ⟨rfl, rfl⟩ | ⟨rfl, rfl⟩ | ⟨rfl, rfl⟩ |
      ⟨rfl, rfl⟩ := hmem <;> rfl
  | none =>
    dsimp only
    split
    case isTrue hcontrol =>
      have hhigh := hexValue_digitChar (c.toNat / 16) (by omega)
      have hlow := hexValue_digitChar (c.toNat % 16) (by omega)
      have hunit : codeUnit '0' '0' (Nat.digitChar (c.toNat / 16)) (Nat.digitChar (c.toNat % 16)) =
          some c.toNat := by
        have hzero : hexValue '0' = some 0 := rfl
        simp only [codeUnit, hzero, hhigh, hlow, Option.bind_eq_bind, Option.bind_some,
          Option.some.injEq]
        omega
      simp only [List.cons_append, List.nil_append]
      rw [parseString, hunit]
      dsimp only
      rw [if_neg (by omega), if_neg (by omega), Char.ofNat_toNat]
    case isFalse hplain =>
      have hquote : c ≠ '"' := by
        rintro rfl
        simp [shortEscapes] at hlookup
      have hbackslash : c ≠ '\\' := by
        rintro rfl
        simp [shortEscapes] at hlookup
      simp only [List.cons_append, List.nil_append]
      rw [parseString.eq_def]
      split
      case h_5 heq =>
        obtain ⟨rfl, rfl⟩ := List.cons.inj heq
        rw [if_neg hplain]
      all_goals simp_all

theorem parseString_escaped (text rest : List Char) :
    parseString (text.flatMap escapeChar ++ '"' :: rest) = some (text, rest) := by
  induction text with
  | nil => simp [parseString]
  | cons c text ih =>
    rw [List.flatMap_cons, List.append_assoc, parseString_escapeChar, ih]
    rfl

/-! ## Numbers -/

/-- What follows a printed value: not a character that would extend a number. -/
def Delimited (rest : List Char) : Prop := rest.head?.any extendsNumber = false

theorem digitChar_ne_zero : ∀ n < 10, 0 < n → Nat.digitChar n ≠ '0' := by
  decide

theorem head?_toDigits {n : Nat} (hn : 0 < n) : (Nat.toDigits 10 n).head? ≠ some '0' := by
  induction n using Nat.strongRecOn with
  | _ n ih =>
    rw [Nat.toDigits_eq_if (by decide)]
    split
    case isTrue hlt => simpa using digitChar_ne_zero n hlt hn
    case isFalse hle =>
      rw [List.head?_append_of_ne_nil _ Nat.toDigits_ne_nil]
      exact ih (n / 10) (by omega) (by omega)

variable {c : Char}

theorem isWhitespace_of_isDigit (h : c.isDigit = true) : c.isWhitespace = false := by
  by_contra hspace
  simp only [Char.isWhitespace, Bool.or_eq_true, decide_eq_true_eq, Bool.not_eq_false] at hspace
  obtain ((rfl | rfl) | rfl) | rfl := hspace <;> simp at h

theorem parseNumber_toDigits (n : Nat) {rest : List Char} (hrest : Delimited rest) :
    parseNumber (Nat.toDigits 10 n ++ rest) = some (n, rest) := by
  have hdigits : ∀ c ∈ Nat.toDigits 10 n, c.isDigit = true :=
    fun c hc => Nat.isDigit_of_mem_toDigits (by decide) (by decide) hc
  have htake : rest.takeWhile Char.isDigit = [] ∧ rest.dropWhile Char.isDigit = rest := by
    cases rest with
    | nil => exact ⟨rfl, rfl⟩
    | cons c rest =>
      have hc : c.isDigit = false := by
        simp only [Delimited, List.head?_cons, Option.any_some, extendsNumber,
          Bool.or_eq_false_iff] at hrest
        exact hrest.1.1.1
      simp [hc]
  have hzero : ¬ ((Nat.toDigits 10 n).head? = some '0' ∧ 1 < (Nat.toDigits 10 n).length) := by
    rintro ⟨hhead, hlength⟩
    obtain rfl | hn := Nat.eq_zero_or_pos n
    · simp at hlength
    · exact head?_toDigits hn hhead
  rw [parseNumber]
  simp only [List.takeWhile_append_of_pos hdigits, List.dropWhile_append_of_pos hdigits, htake.1,
    htake.2, List.append_nil]
  rw [if_neg, Nat.ofDigitChars_toDigits (by decide) (by decide)]
  rw [Delimited] at hrest
  simp [Nat.toDigits_ne_nil, hzero, hrest]

/-! ## Values -/

variable {space : List Char}

theorem skipSpace_append (h : ∀ c ∈ space, c.isWhitespace = true)
    (input : List Char) : skipSpace (space ++ input) = skipSpace input := by
  induction space with
  | nil => rfl
  | cons c space ih =>
    rw [List.forall_mem_cons] at h
    rw [List.cons_append, skipSpace, if_pos h.1, ih h.2]

variable {pretty : Bool}

theorem isWhitespace_of_mem_gap {depth : Nat} :
    ∀ c ∈ gap pretty depth, c.isWhitespace = true := by
  intro c hc
  cases pretty with
  | false => simp [gap] at hc
  | true =>
    simp only [gap, if_true, List.mem_cons, List.mem_replicate] at hc
    obtain rfl | ⟨-, rfl⟩ := hc <;> rfl

@[simp] theorem skipSpace_gap_append (pretty : Bool) (depth : Nat) (input : List Char) :
    skipSpace (gap pretty depth ++ input) = skipSpace input :=
  skipSpace_append isWhitespace_of_mem_gap input

theorem parseValue_gap (fuel : Nat) (pretty : Bool) (depth : Nat) (input : List Char) :
    parseValue fuel (gap pretty depth ++ input) = parseValue fuel input := by
  cases fuel with
  | zero => simp [parseValue]
  | succ fuel => simp only [parseValue, skipSpace_gap_append]

theorem parseField_gap (fuel : Nat) (pretty : Bool) (depth : Nat) (input : List Char) :
    parseField fuel (gap pretty depth ++ input) = parseField fuel input := by
  cases fuel with
  | zero => simp [parseField]
  | succ fuel => simp only [parseField, skipSpace_gap_append]

theorem delimited_gap_append {depth : Nat} {rest : List Char}
    (h : Delimited rest) : Delimited (gap pretty depth ++ rest) := by
  cases pretty with
  | false => exact h
  | true => rfl

mutual

def cost : Json → Nat
  | .arr (item :: items) => 1 + cost item + costItems items
  | .obj ((_, value) :: fields) => 2 + cost value + costFields fields
  | _ => 1

def costItems : List Json → Nat
  | [] => 1
  | item :: items => 1 + cost item + costItems items

def costFields : List (String × Json) → Nat
  | [] => 1
  | (_, value) :: fields => 2 + cost value + costFields fields

end

/-- A printed value starts with a character that is neither white space nor a
closing bracket. -/
theorem print_eq_cons (pretty : Bool) (depth : Nat) (value : Json) :
    ∃ c rest, print pretty depth value = c :: rest ∧ c.isWhitespace = false ∧ c ≠ ']' := by
  cases value with
  | null => exact ⟨'n', _, rfl, by decide, by decide⟩
  | bool value =>
    cases value with
    | true => exact ⟨'t', _, rfl, by decide, by decide⟩
    | false => exact ⟨'f', _, rfl, by decide, by decide⟩
  | num value =>
    cases hdigits : Nat.toDigits 10 value with
    | nil => exact absurd hdigits Nat.toDigits_ne_nil
    | cons c rest =>
      have hmem : c ∈ Nat.toDigits 10 value := by simp [hdigits]
      have hc : c.isDigit = true := Nat.isDigit_of_mem_toDigits (by decide) (by decide) hmem
      refine ⟨c, rest, by rw [print, hdigits], isWhitespace_of_isDigit hc, ?_⟩
      rintro rfl
      simp at hc
  | str value => exact ⟨'"', _, rfl, by decide, by decide⟩
  | arr items =>
    cases items with
    | nil => exact ⟨'[', _, rfl, by decide, by decide⟩
    | cons item items => exact ⟨'[', _, by rw [print], by decide, by decide⟩
  | obj fields =>
    cases fields with
    | nil => exact ⟨'{', _, rfl, by decide, by decide⟩
    | cons field fields => exact ⟨'{', _, by rw [print], by decide, by decide⟩

theorem skipSpace_cons (h : c.isWhitespace = false) (rest : List Char) :
    skipSpace (c :: rest) = c :: rest := by
  rw [skipSpace, h]
  rfl

variable {fuel : Nat}

theorem parseField_printString {key : String} {value : Json}
    {input rest : List Char} (h : parseValue fuel input = some (value, rest)) :
    parseField (fuel + 1) (printString key ++ (colon pretty ++ input)) =
      some ((key, value), rest) := by
  have hvalue : parseValue fuel ((colon pretty).tail ++ input) = some (value, rest) := by
    cases pretty with
    | false => exact h
    | true =>
      have hspace : ∀ c ∈ [' '], c.isWhitespace = true := by simp
      rw [← h]
      cases fuel with
      | zero => simp [parseValue]
      | succ fuel => simp only [parseValue, colon, if_true, List.tail_cons, skipSpace_append hspace]
  have hcolon : skipSpace (colon pretty ++ input) = ':' :: ((colon pretty).tail ++ input) := by
    cases pretty <;> rfl
  simp only [printString, List.cons_append, List.append_assoc, List.nil_append]
  rw [parseField, skipSpace_cons (by decide)]
  simp only [parseString_escaped, Option.bind_eq_bind, Option.bind_some, hcolon, hvalue,
    String.ofList_toList]

theorem parseValue_digit (h : c.isDigit = true) (fuel : Nat) (rest : List Char) :
    parseValue (fuel + 1) (c :: rest) =
      (parseNumber (c :: rest)).map fun (value, rest) => (.num value, rest) := by
  rw [parseValue, skipSpace_cons (isWhitespace_of_isDigit h)]
  split <;> simp_all

theorem parseValue_arr {input rest rest' : List Char} {item : Json}
    {items : List Json} (hhead : (skipSpace input).head? ≠ some ']')
    (hitem : parseValue fuel input = some (item, rest))
    (hitems : parseItems fuel rest = some (items, rest')) :
    parseValue (fuel + 1) ('[' :: input) = some (.arr (item :: items), rest') := by
  rw [parseValue, skipSpace_cons (by decide)]
  change (if (skipSpace input).head? = some ']' then _ else _) = _
  rw [if_neg hhead, hitem]
  simp only [hitems, Option.bind_eq_bind, Option.bind_some]

theorem parseValue_obj {input rest rest' : List Char} {field : String × Json}
    {fields : List (String × Json)} (hhead : (skipSpace input).head? ≠ some '}')
    (hfield : parseField fuel input = some (field, rest))
    (hfields : parseFields fuel rest = some (fields, rest')) :
    parseValue (fuel + 1) ('{' :: input) = some (.obj (field :: fields), rest') := by
  rw [parseValue, skipSpace_cons (by decide)]
  change (if (skipSpace input).head? = some '}' then _ else _) = _
  rw [if_neg hhead, hfield]
  simp only [hfields, Option.bind_eq_bind, Option.bind_some]

theorem one_le_cost (value : Json) : 1 ≤ cost value := by
  cases value with
  | arr items => cases items <;> simp only [cost] <;> omega
  | obj fields => rcases fields with _ | ⟨⟨key, value⟩, fields⟩ <;> simp only [cost] <;> omega
  | _ => simp [cost]

theorem one_le_costItems (items : List Json) : 1 ≤ costItems items := by
  cases items <;> simp only [costItems] <;> omega

theorem one_le_costFields (fields : List (String × Json)) : 1 ≤ costFields fields := by
  rcases fields with _ | ⟨⟨key, value⟩, fields⟩ <;> simp only [costFields] <;> omega

theorem delimited_printItems (pretty : Bool) (depth close : Nat) (items : List Json)
    (rest : List Char) :
    Delimited (printItems pretty depth items ++ (gap pretty close ++ ']' :: rest)) := by
  cases items with
  | nil => exact delimited_gap_append rfl
  | cons item items => rfl

theorem delimited_printFields (pretty : Bool) (depth close : Nat) (fields : List (String × Json))
    (rest : List Char) :
    Delimited (printFields pretty depth fields ++ (gap pretty close ++ '}' :: rest)) := by
  cases fields with
  | nil => exact delimited_gap_append rfl
  | cons field fields => rfl

mutual

-- on the value, one case for each way a value is printed
theorem parseValue_print (pretty : Bool) : ∀ (value : Json) (depth fuel : Nat) (rest : List Char),
    cost value ≤ fuel → Delimited rest →
    parseValue fuel (print pretty depth value ++ rest) = some (value, rest)
  | value, _, 0, _, hcost, _ => absurd hcost (Nat.not_le_of_lt (one_le_cost value))
  | .null, depth, fuel + 1, rest, _, _ => by
      rw [print, parseValue]
      rfl
  | .bool true, depth, fuel + 1, rest, _, _ => by
      rw [print, parseValue]
      rfl
  | .bool false, depth, fuel + 1, rest, _, _ => by
      rw [print, parseValue]
      rfl
  | .num value, depth, fuel + 1, rest, _, hrest => by
      have hnumber := parseNumber_toDigits value hrest
      rw [print]
      cases hdigits : Nat.toDigits 10 value with
      | nil => exact absurd hdigits Nat.toDigits_ne_nil
      | cons c digits =>
        have hmem : c ∈ Nat.toDigits 10 value := by simp [hdigits]
        have hc : c.isDigit = true := Nat.isDigit_of_mem_toDigits (by decide) (by decide) hmem
        rw [hdigits] at hnumber
        rw [List.cons_append, parseValue_digit hc, ← List.cons_append, hnumber]
        rfl
  | .str value, depth, fuel + 1, rest, _, _ => by
      rw [print, printString, parseValue, List.cons_append, skipSpace_cons (by decide)]
      simp [parseString_escaped]
  | .arr [], depth, fuel + 1, rest, _, _ => by
      rw [print, parseValue]
      rfl
  | .arr (item :: items), depth, fuel + 1, rest, hcost, _ => by
      rw [cost] at hcost
      have hitem := parseValue_print pretty item (depth + 1) fuel _ (by omega)
        (delimited_printItems pretty (depth + 1) depth items rest)
      have hitems := parseItems_print pretty items (depth + 1) depth fuel rest (by omega)
      obtain ⟨c, text, htext, hspace, hc⟩ := print_eq_cons pretty (depth + 1) item
      simp only [print, List.cons_append, List.append_assoc, List.nil_append]
      apply parseValue_arr
      · rw [skipSpace_gap_append, htext, List.cons_append, skipSpace_cons hspace]
        simpa using hc
      · rw [parseValue_gap]
        exact hitem
      · exact hitems
  | .obj [], depth, fuel + 1, rest, _, _ => by
      rw [print, parseValue]
      rfl
  | .obj ((key, value) :: fields), depth, fuel + 1, rest, hcost, _ => by
      rw [cost] at hcost
      obtain ⟨fuel, rfl⟩ : ∃ fuel', fuel = fuel' + 1 := ⟨fuel - 1, by omega⟩
      have hvalue := parseValue_print pretty value (depth + 1) fuel _ (by omega)
        (delimited_printFields pretty (depth + 1) depth fields rest)
      have hfields := parseFields_print pretty fields (depth + 1) depth (fuel + 1) rest (by omega)
      simp only [print, List.cons_append, List.append_assoc, List.nil_append]
      apply parseValue_obj
      · rw [skipSpace_gap_append, printString, List.cons_append, skipSpace_cons (by decide)]
        simp
      · rw [parseField_gap]
        exact parseField_printString hvalue
      · exact hfields

theorem parseItems_print (pretty : Bool) : ∀ (items : List Json) (depth close fuel : Nat)
    (rest : List Char), costItems items ≤ fuel →
    parseItems fuel (printItems pretty depth items ++ (gap pretty close ++ ']' :: rest)) =
      some (items, rest)
  | items, _, _, 0, _, hcost => absurd hcost (Nat.not_le_of_lt (one_le_costItems items))
  | [], depth, close, fuel + 1, rest, _ => by
      rw [printItems, List.nil_append, parseItems, skipSpace_gap_append, skipSpace_cons (by decide)]
      rfl
  | item :: items, depth, close, fuel + 1, rest, hcost => by
      rw [costItems] at hcost
      have hitem := parseValue_print pretty item depth fuel _ (by omega)
        (delimited_printItems pretty depth close items rest)
      have hitems := parseItems_print pretty items depth close fuel rest (by omega)
      simp only [printItems, List.cons_append, List.append_assoc]
      rw [parseItems, skipSpace_cons (by decide)]
      simp only [parseValue_gap, hitem, hitems, Option.bind_eq_bind, Option.bind_some]

theorem parseFields_print (pretty : Bool) : ∀ (fields : List (String × Json))
    (depth close fuel : Nat) (rest : List Char), costFields fields ≤ fuel →
    parseFields fuel (printFields pretty depth fields ++ (gap pretty close ++ '}' :: rest)) =
      some (fields, rest)
  | fields, _, _, 0, _, hcost => absurd hcost (Nat.not_le_of_lt (one_le_costFields fields))
  | [], depth, close, fuel + 1, rest, _ => by
      rw [printFields, List.nil_append, parseFields, skipSpace_gap_append,
        skipSpace_cons (by decide)]
      rfl
  | (key, value) :: fields, depth, close, fuel + 1, rest, hcost => by
      rw [costFields] at hcost
      obtain ⟨fuel, rfl⟩ : ∃ fuel', fuel = fuel' + 1 := ⟨fuel - 1, by omega⟩
      have hvalue := parseValue_print pretty value depth fuel _ (by omega)
        (delimited_printFields pretty depth close fields rest)
      have hfield : parseField (fuel + 1) (printString key ++ (colon pretty ++ _)) = _ :=
        parseField_printString hvalue
      have hfields := parseFields_print pretty fields depth close (fuel + 1) rest (by omega)
      simp only [printFields, List.cons_append, List.append_assoc]
      rw [parseFields, skipSpace_cons (by decide)]
      simp only [parseField_gap, hfield, hfields, Option.bind_eq_bind, Option.bind_some]

end

/-! ## Whole texts -/

mutual

theorem cost_le_length (pretty : Bool) : ∀ (value : Json) (depth : Nat),
    cost value ≤ (print pretty depth value).length
  | .null, _ => by simp [cost, print]
  | .bool true, _ => by simp [cost, print]
  | .bool false, _ => by simp [cost, print]
  | .num value, _ => by
      rw [cost, print]
      · exact Nat.length_toDigits_pos
      all_goals simp
  | .str value, _ => by simp [cost, print, printString]
  | .arr [], _ => by simp [cost, print]
  | .arr (item :: items), depth => by
      have hitem := cost_le_length pretty item (depth + 1)
      have hitems := costItems_le_length pretty items (depth + 1)
      simp only [cost, print, List.length_cons, List.length_append, List.length_nil]
      omega
  | .obj [], _ => by simp [cost, print]
  | .obj ((key, value) :: fields), depth => by
      have hvalue := cost_le_length pretty value (depth + 1)
      have hfields := costFields_le_length pretty fields (depth + 1)
      simp only [cost, print, printString, List.length_cons, List.length_append, List.length_nil]
      omega

theorem costItems_le_length (pretty : Bool) : ∀ (items : List Json) (depth : Nat),
    costItems items ≤ (printItems pretty depth items).length + 1
  | [], _ => by simp [costItems, printItems]
  | item :: items, depth => by
      have hitem := cost_le_length pretty item depth
      have hitems := costItems_le_length pretty items depth
      simp only [costItems, printItems, List.length_cons, List.length_append]
      omega

theorem costFields_le_length (pretty : Bool) : ∀ (fields : List (String × Json)) (depth : Nat),
    costFields fields ≤ (printFields pretty depth fields).length + 1
  | [], _ => by simp [costFields, printFields]
  | (key, value) :: fields, depth => by
      have hvalue := cost_le_length pretty value depth
      have hfields := costFields_le_length pretty fields depth
      simp only [costFields, printFields, printString, List.length_cons, List.length_append,
        List.length_nil]
      omega

end

theorem delimited_of_isWhitespace (h : ∀ c ∈ space, c.isWhitespace = true) :
    Delimited space := by
  cases space with
  | nil => rfl
  | cons c space =>
    have hc := h c (by simp)
    simp only [Char.isWhitespace, Bool.or_eq_true, decide_eq_true_eq] at hc
    obtain ((rfl | rfl) | rfl) | rfl := hc <;> rfl

theorem parse_print_append (pretty : Bool) (depth : Nat) (value : Json)
    (hspace : ∀ c ∈ space, c.isWhitespace = true) :
    parse (print pretty depth value ++ space) = some value := by
  have hcost := cost_le_length pretty value depth
  have hvalue := parseValue_print pretty value depth
    ((print pretty depth value ++ space).length + 1) space
    (by rw [List.length_append]; omega) (delimited_of_isWhitespace hspace)
  have hskip : skipSpace space = [] := by
    rw [← List.append_nil space, skipSpace_append hspace]
    rfl
  rw [parse, hvalue]
  simp [hskip]

theorem parse_print_newline (pretty : Bool) (depth : Nat) (value : Json) :
    parse (print pretty depth value ++ ['\n']) = some value := by
  have hspace : ∀ c ∈ ['\n'], c.isWhitespace = true := by
    intro c hc
    rw [List.mem_singleton.mp hc]
    rfl
  exact parse_print_append pretty depth value hspace

theorem parse_print (pretty : Bool) (depth : Nat) (value : Json) :
    parse (print pretty depth value) = some value := by
  have hspace : ∀ c ∈ ([] : List Char), c.isWhitespace = true := by simp
  have hparse := parse_print_append pretty depth value hspace
  rwa [List.append_nil] at hparse

theorem print_injective (pretty : Bool) (depth : Nat) :
    Function.Injective (print pretty depth) := by
  intro value value' h
  have hparse := congrArg parse h
  rwa [parse_print, parse_print, Option.some.injEq] at hparse

end Json

end NexusCua.Foundation
