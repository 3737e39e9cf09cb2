import NexusCua.Macos.Perform
import NexusCua.Windows.Perform

/-!
# The preflight of an element

A semantic action goes on to its dispatch only for an element whose facts are those that
were recorded.  Both platforms compare digests; given a digest without collisions the
comparison is exact for all elements that the written bytes tell apart.
-/

namespace NexusCua.Macos

open NexusCua.Foundation NexusCua.Protocol NexusCua.Runtime NexusCua.Platform

structure SameElement (a b : NodeValues) : Prop where
  role : a.role = b.role
  name : a.name = b.name
  value : a.value = b.value
  range : a.rangeValue.map rangeFacts = b.rangeValue.map rangeFacts
  enabled : a.enabled = b.enabled
  bounds : a.bounds = b.bounds

theorem same_facts_iff (a b : NodeValues) : a.facts.Same b.facts ↔ SameElement a b := by
  have hflag : ∀ x y : Bool, ((if x then 1 else 0 : UInt8) = if y then 1 else 0) ↔ x = y := by
    decide
  constructor
  · rintro ⟨⟨hrole, hname, hvalue⟩, hrange, hstate, hbounds⟩
    exact ⟨hrole, hname, hvalue, hrange, (hflag _ _).mp hstate, hbounds⟩
  · rintro ⟨hrole, hname, hvalue, hrange, henabled, hbounds⟩
    exact ⟨⟨hrole, hname, hvalue⟩, hrange, (hflag _ _).mpr henabled, hbounds⟩

/-- The preflight of an element with these attributes, when it was recorded and now. -/
structure PreflightExact (texts : SemanticTexts) (recorded current : AxAttributes) : Prop where
  dispatches : ∀ (trusted : Bool) (read : List Nat → Except Int AxAttributes)
    (answers : NativeAnswers) (state : SemanticState) (elementKey : String) (element : List Nat)
    (action : SemanticAction),
    state.find elementKey = some ⟨element, elementSignature texts (readNode texts recorded)⟩ →
    read element = .ok current →
    (perform texts trusted read answers state elementKey action).2 ≠ [] →
      SameElement (readNode texts recorded) (readNode texts current)
  accepts : SameElement (readNode texts recorded) (readNode texts current) →
    ∀ (trusted : Bool) (read : List Nat → Except Int AxAttributes) (state : SemanticState)
      (elementKey : String) (element : List Nat) (error : DriverError),
      state.find elementKey = some ⟨element, elementSignature texts (readNode texts recorded)⟩ →
      read element = .ok current →
      preflight texts trusted read state elementKey = .error error → error.kind ≠ .staleObservation

variable {texts : SemanticTexts}

theorem preflight_of_perform_ne_nil {trusted : Bool}
    {read : List Nat → Except Int AxAttributes} {answers : NativeAnswers} {state : SemanticState}
    {elementKey : String} {action : SemanticAction}
    (h : (perform texts trusted read answers state elementKey action).2 ≠ []) :
    preflight texts trusted read state elementKey = .ok () := by
  cases hpreflight : preflight texts trusted read state elementKey with
  | error error => simp [perform, hpreflight] at h
  | ok _ => rfl

theorem preflight_eq_ok_iff {read : List Nat → Except Int AxAttributes}
    {state : SemanticState} {elementKey : String} {stored : StoredElement}
    {attributes : AxAttributes} (trusted : Bool) (hfind : state.find elementKey = some stored)
    (hread : read stored.element = .ok attributes) :
    preflight texts trusted read state elementKey = .ok () ↔
      trusted = true ∧ elementSignature texts (readNode texts attributes) = stored.signature := by
  cases trusted with
  | false => simp [preflight, ensureAccessibilityPermission]
  | true =>
    rw [preflight_of_read hfind hread, elementSignature_readActionIdentity]
    split <;> simp_all

theorem preflightExact_iff (hsha256 : Function.Injective texts.sha256)
    (recorded current : AxAttributes) :
    PreflightExact texts recorded current ↔
      (readNode texts recorded).facts.Distinguished (readNode texts current).facts := by
  have hsignature : elementSignature texts (readNode texts current) =
      elementSignature texts (readNode texts recorded) ↔
      (readNode texts recorded).facts.bytes = (readNode texts current).facts.bytes := by
    rw [elementSignature_eq, elementSignature_eq, hsha256.eq_iff, eq_comm]
  rw [← ElementFacts.same_of_bytes_iff, same_facts_iff]
  constructor
  · intro hexact hbytes
    let stored : StoredElement := ⟨[], elementSignature texts (readNode texts recorded)⟩
    let state : SemanticState := ⟨1, [⟨[("element", stored)]⟩]⟩
    have hfind : state.find "element" = some stored := rfl
    have hpreflight : preflight texts true (fun _ => .ok current) state "element" = .ok () :=
      (preflight_eq_ok_iff true hfind rfl).mpr ⟨rfl, hsignature.mpr hbytes⟩
    have hmade : (perform texts true (fun _ => .ok current) ⟨fun _ => .ok (), fun _ => 0⟩ state
        "element" .focus).2 ≠ [] := by
      simp [perform, hpreflight, performAction, attempt_snd]
    exact hexact.dispatches _ _ _ _ _ _ _ hfind rfl hmade
  · intro hsame
    constructor
    · intro trusted read answers state elementKey element action hfind hread hmade
      have hpassed := (preflight_eq_ok_iff trusted hfind hread).mp
        (preflight_of_perform_ne_nil hmade)
      exact hsame (hsignature.mp hpassed.2)
    · intro hunchanged trusted read state elementKey element error hfind hread herror
      have hbytes := ((same_facts_iff _ _).mpr hunchanged).bytes_eq
      cases trusted with
      | false =>
        simp only [preflight, ensureAccessibilityPermission] at herror
        cases herror
        decide
      | true =>
        rw [(preflight_eq_ok_iff true hfind hread).mpr ⟨rfl, hsignature.mpr hbytes⟩] at herror
        cases herror

end NexusCua.Macos

namespace NexusCua.Windows

open NexusCua.Foundation NexusCua.Protocol NexusCua.Runtime NexusCua.Platform

structure SameElement (a b : NodeValues) : Prop where
  role : a.role = b.role
  name : a.name = b.name
  value : a.value = b.value
  range : a.rangeValue.map rangeFacts = b.rangeValue.map rangeFacts
  enabled : a.state.enabled = b.state.enabled
  focusable : a.state.focusable = b.state.focusable
  offscreen : a.state.offscreen = b.state.offscreen
  bounds : a.bounds = b.bounds

theorem same_facts_iff (a b : NodeValues) : a.facts.Same b.facts ↔ SameElement a b := by
  constructor
  · rintro ⟨⟨hrole, hname, hvalue⟩, hrange, hstate, hbounds⟩
    obtain ⟨henabled, hfocusable, hoffscreen⟩ := (stableByte_inj _ _).mp hstate
    exact ⟨hrole, hname, hvalue, hrange, henabled, hfocusable, hoffscreen, hbounds⟩
  · rintro ⟨hrole, hname, hvalue, hrange, henabled, hfocusable, hoffscreen, hbounds⟩
    exact ⟨⟨hrole, hname, hvalue⟩, hrange,
      (stableByte_inj _ _).mpr ⟨henabled, hfocusable, hoffscreen⟩, hbounds⟩

/-- The preflight of an element with these values in the cache, when it was recorded and
now. -/
structure PreflightExact (texts : SemanticTexts) (recorded current : CachedElement) : Prop where
  dispatches : ∀ (guardCheck : Except DriverError Unit)
    (refresh : List Nat → Except UiaError UiaNode) (answers : NativeAnswers)
    (state : SemanticState) (elementKey : String) (element : List Nat) (action : SemanticAction),
    state.find elementKey = some ⟨element, elementSignature texts (cachedValues texts recorded)⟩ →
    refresh element = .ok (some current) →
    (perform texts guardCheck refresh answers state elementKey action).2 ≠ [] →
      SameElement (cachedValues texts recorded) (cachedValues texts current)
  accepts : SameElement (cachedValues texts recorded) (cachedValues texts current) →
    ∀ (refresh : List Nat → Except UiaError UiaNode) (state : SemanticState) (elementKey : String)
      (element : List Nat) (error : DriverError),
      state.find elementKey = some ⟨element, elementSignature texts (cachedValues texts recorded)⟩ →
      refresh element = .ok (some current) →
      preflight texts (.ok ()) refresh state elementKey = .error error →
        error.kind ≠ .staleObservation

theorem preflight_eq_ok_iff {texts : SemanticTexts} {refresh : List Nat → Except UiaError UiaNode}
    {state : SemanticState} {elementKey : String} {stored : StoredElement} {current : CachedElement}
    (guardCheck : Except DriverError Unit) (hfind : state.find elementKey = some stored)
    (hrefresh : refresh stored.element = .ok (some current)) :
    preflight texts guardCheck refresh state elementKey = .ok () ↔ guardCheck = .ok () ∧
      elementSignature texts (cachedValues texts current) = stored.signature := by
  cases guardCheck with
  | error error => simp [preflight]
  | ok _ =>
    rw [preflight_of_refresh hfind hrefresh]
    split <;> simp_all

theorem preflightExact_iff {texts : SemanticTexts} (hsha256 : Function.Injective texts.sha256)
    (recorded current : CachedElement) :
    PreflightExact texts recorded current ↔
      (cachedValues texts recorded).facts.Distinguished (cachedValues texts current).facts := by
  have hsignature : elementSignature texts (cachedValues texts current) =
      elementSignature texts (cachedValues texts recorded) ↔
      (cachedValues texts recorded).facts.bytes = (cachedValues texts current).facts.bytes := by
    rw [elementSignature_eq, elementSignature_eq, hsha256.eq_iff, eq_comm]
  rw [← ElementFacts.same_of_bytes_iff, same_facts_iff]
  constructor
  · intro hexact hbytes
    let stored : StoredElement := ⟨[], elementSignature texts (cachedValues texts recorded)⟩
    let state : SemanticState := ⟨1, [⟨[("element", stored)]⟩]⟩
    have hfind : state.find "element" = some stored := rfl
    have hpreflight :
        preflight texts (.ok ()) (fun _ => .ok (some current)) state "element" = .ok () :=
      (preflight_eq_ok_iff _ hfind rfl).mpr ⟨rfl, hsignature.mpr hbytes⟩
    have hmade : (perform texts (.ok ()) (fun _ => .ok (some current))
        ⟨true, .ok (), .ok (), .ok ()⟩ state "element" .focus).2 ≠ [] := by
      simp [perform, hpreflight, performAction, needsPattern]
    exact hexact.dispatches _ _ _ _ _ _ _ hfind rfl hmade
  · intro hsame
    constructor
    · intro guardCheck refresh answers state elementKey element action hfind hrefresh hmade
      have hpassed :=
        (preflight_eq_ok_iff guardCheck hfind hrefresh).mp (preflight_of_perform_ne_nil hmade)
      exact hsame (hsignature.mp hpassed.2)
    · intro hunchanged refresh state elementKey element error hfind hrefresh herror
      have hbytes := ((same_facts_iff _ _).mpr hunchanged).bytes_eq
      rw [(preflight_eq_ok_iff _ hfind hrefresh).mpr ⟨rfl, hsignature.mpr hbytes⟩] at herror
      cases herror

end NexusCua.Windows

namespace NexusCua.Platform

open NexusCua.Foundation NexusCua.Protocol NexusCua.Runtime

/-- The preflights of both platforms are exact if and only if the written facts tell the
recorded element from the current one. -/
theorem preflight_exact_iff {texts : SemanticTexts} (hsha256 : Function.Injective texts.sha256)
    (axRecorded axCurrent : Macos.AxAttributes) (uiaRecorded uiaCurrent : Windows.CachedElement) :
    (Macos.PreflightExact texts axRecorded axCurrent ∧
        Windows.PreflightExact texts uiaRecorded uiaCurrent) ↔
      ((Macos.readNode texts axRecorded).facts.Distinguished
          (Macos.readNode texts axCurrent).facts ∧
        (Windows.cachedValues texts uiaRecorded).facts.Distinguished
          (Windows.cachedValues texts uiaCurrent).facts) := by
  rw [Macos.preflightExact_iff hsha256, Windows.preflightExact_iff hsha256]

def uiaButton (focused : Bool) : Windows.CachedElement :=
  ⟨.button, some "Save", none, none, none, none, none, none, none, some true, some focused,
    some true, some false⟩

/-- The preflight of an unchanged row, and of a button that has lost the focus. -/
theorem preflight_exact_unchanged :
    Macos.PreflightExact plainTexts Macos.rowAttributes Macos.rowAttributes ∧
      Windows.PreflightExact plainTexts (uiaButton true) (uiaButton false) := by
  apply (preflight_exact_iff Function.injective_id _ _ _ _).mpr
  constructor
  · exact ElementFacts.Same.distinguished ⟨⟨rfl, rfl, rfl⟩, rfl, rfl, rfl⟩
  · exact ElementFacts.Same.distinguished ⟨⟨rfl, rfl, rfl⟩, rfl, rfl, rfl⟩

def lettersText : String := "AAAAAAAAAAAAAAAAAAAAAAAAAAAAAAA"

def lettersField : Macos.AxAttributes :=
  { Macos.rowAttributes with value := some (.string lettersText) }

def boundedField : Macos.AxAttributes :=
  { Macos.rowAttributes with
    enabled := some (.boolean false)
    position := some (Float.ofBits 0x4141414141414141, Float.ofBits 0x4141414141414141)
    size := some (Float.ofBits 0x4141414141414141, Float.ofBits 0x4141414141414101) }

theorem lettersField_swallows : ElementFacts.Swallows
    (Macos.readNode plainTexts lettersField).facts
    (Macos.readNode plainTexts boundedField).facts :=
  ⟨0 :: utf8 lettersText.toList, by simp, by decide +kernel, by decide +kernel⟩

/-- The empty field passes for the one with the letters. -/
theorem letters_pass_for_bounds :
    ¬(Macos.PreflightExact plainTexts lettersField boundedField ∧
      Windows.PreflightExact plainTexts (uiaButton true) (uiaButton false)) := by
  rintro ⟨hexact, -⟩
  have hdistinguished := (Macos.preflightExact_iff Function.injective_id _ _).mp hexact
  exact hdistinguished.2.1 lettersField_swallows

end NexusCua.Platform
