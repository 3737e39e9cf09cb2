import NexusCua.Platform.Identity
import NexusCua.Windows.Semantic

/-!
# Semantic actions of Windows

The element of an action is found under its key, its cache is built again and compared
with what was recorded; then the pattern of the action is asked for, the dispatch gate is
passed and one native call is made.
-/

namespace NexusCua.Windows

open NexusCua.Foundation NexusCua.Protocol NexusCua.Runtime NexusCua.Platform

/-! ## Errors -/

def staleElement : DriverError :=
  (DriverError.new .staleObservation
    "UI Automation element changed after observation").retryableAfter "observe_window"

def targetUnresponsive (message : String) : DriverError :=
  (DriverError.new .targetUnresponsive message).retryableAfter "retry_after_target_recovers"

def providerFailure (message : String) : DriverError :=
  (DriverError.new .platform message).retryableAfter "retry_uia_snapshot"

inductive UiaError where
  | timeout
  | other
  deriving DecidableEq, Repr

def preflightError (error : UiaError) (message : String) : DriverError :=
  match error with
  | .timeout => (targetUnresponsive message).mutationNotDispatched
  | .other => staleElement.mutationNotDispatched

def actionError (error : UiaError) : DriverError :=
  let failure :=
    match error with
    | .timeout => targetUnresponsive "UI Automation action timed out"
    | .other => staleElement
  failure.mutationIndeterminate

/-! ## The element of an action -/

def NodeValues.facts (values : NodeValues) : ElementFacts where
  role := values.role
  name := values.name
  value := values.value
  range := values.rangeValue
  state := values.state.stableByte
  bounds := values.bounds

theorem elementSignature_eq (texts : SemanticTexts) (values : NodeValues) :
    elementSignature texts values = texts.sha256 values.facts.bytes := rfl

theorem stableByte_inj (a b : NodeState) : a.stableByte = b.stableByte ↔
    a.enabled = b.enabled ∧ a.focusable = b.focusable ∧ a.offscreen = b.offscreen := by
  have hflags : ∀ e f o e' f' o' : Bool,
      ((if e then 1 else 0) + (if f then 4 else 0) + (if o then 8 else 0) : UInt8) =
        (if e' then 1 else 0) + (if f' then 4 else 0) + (if o' then 8 else 0) ↔
      e = e' ∧ f = f' ∧ o = o' := by decide
  exact hflags _ _ _ _ _ _

/-- The element is found, its cache is built again, and it still has the recorded
signature; `refresh` is the answer of the provider for a native element. -/
def preflight (texts : SemanticTexts) (guardCheck : Except DriverError Unit)
    (refresh : List Nat → Except UiaError UiaNode) (state : SemanticState) (elementKey : String) :
    Except DriverError Unit :=
  match guardCheck with
  | .error error => .error error
  | .ok () =>
    match state.find elementKey with
    | none => .error staleElement.mutationNotDispatched
    | some stored =>
      match refresh stored.element with
      | .error error => .error (preflightError error "UI Automation element refresh failed")
      | .ok none =>
        .error (providerFailure "cached UIA control type is unavailable").mutationNotDispatched
      | .ok (some current) =>
        if elementSignature texts (cachedValues texts current) = stored.signature then .ok ()
        else .error staleElement.mutationNotDispatched

theorem preflight_of_refresh {texts : SemanticTexts} {refresh : List Nat → Except UiaError UiaNode}
    {state : SemanticState} {elementKey : String} {stored : StoredElement} {current : CachedElement}
    (hfind : state.find elementKey = some stored)
    (hrefresh : refresh stored.element = .ok (some current)) :
    preflight texts (.ok ()) refresh state elementKey =
      if elementSignature texts (cachedValues texts current) = stored.signature then .ok ()
      else .error staleElement.mutationNotDispatched := by
  simp only [preflight, hfind, hrefresh]

/-! ## The native call -/

inductive NativeCall where
  | setFocus
  | invoke
  | setValue (value : String)
  | setRangeValue (value : Float)
  | toggle
  | select
  | expand
  | collapse
  deriving DecidableEq, Repr

def nativeCall : SemanticAction → NativeCall
  | .focus => .setFocus
  | .invoke => .invoke
  | .setValue value => .setValue value
  | .setRangeValue value => .setRangeValue value
  | .toggle => .toggle
  | .select => .select
  | .setExpanded true => .expand
  | .setExpanded false => .collapse

def needsPattern : SemanticAction → Bool
  | .focus => false
  | _ => true

structure NativeAnswers where
  patternAvailable : Bool
  beginDispatch : Except DriverError Unit
  returned : Except UiaError Unit
  finalCheck : Except DriverError Unit

/-- The result of an action after its preflight, and the native calls it made. -/
def performAction (answers : NativeAnswers) (action : SemanticAction) :
    Except DriverError Unit × List NativeCall :=
  if needsPattern action && !answers.patternAvailable then
    (.error staleElement.mutationNotDispatched, [])
  else
    match answers.beginDispatch with
    | .error error => (.error error, [])
    | .ok () =>
      match answers.finalCheck with
      | .error error => (.error error, [nativeCall action])
      | .ok () => (answers.returned.mapError actionError, [nativeCall action])

def perform (texts : SemanticTexts) (guardCheck : Except DriverError Unit)
    (refresh : List Nat → Except UiaError UiaNode) (answers : NativeAnswers)
    (state : SemanticState) (elementKey : String) (action : SemanticAction) :
    Except DriverError Unit × List NativeCall :=
  match preflight texts guardCheck refresh state elementKey with
  | .error error => (.error error, [])
  | .ok () => performAction answers action

theorem preflight_of_perform_ne_nil {texts : SemanticTexts} {guardCheck : Except DriverError Unit}
    {refresh : List Nat → Except UiaError UiaNode} {answers : NativeAnswers} {state : SemanticState}
    {elementKey : String} {action : SemanticAction}
    (h : (perform texts guardCheck refresh answers state elementKey action).2 ≠ []) :
    preflight texts guardCheck refresh state elementKey = .ok () := by
  cases hpreflight : preflight texts guardCheck refresh state elementKey with
  | error error => simp [perform, hpreflight] at h
  | ok _ => rfl

end NexusCua.Windows
