import NexusCua.Macos.Semantic
import NexusCua.Platform.Identity

/-!
# Semantic actions of macOS

The element of an action is found under its key, read again and compared with what was
recorded; then the native calls of the action are attempted.  Each attempt passes the
dispatch gate of the guard before its native call, and an action with several attempts
goes on to the next one after any error.
-/

namespace NexusCua.Macos

open NexusCua.Foundation NexusCua.Protocol NexusCua.Runtime NexusCua.Platform

/-! ## The element of an action -/

def staleElement : DriverError :=
  (DriverError.new .staleObservation
    "accessibility element changed after observation").retryableAfter "observe_window"

def ensureAccessibilityPermission (trusted : Bool) : Except DriverError Unit :=
  if trusted then .ok ()
  else .error (DriverError.new .permissionRequired
    "macOS accessibility permission is required").mutationNotDispatched

/-- The reader before an action asks for fewer attributes than `readNode`. -/
def readActionIdentity (texts : SemanticTexts) (attributes : AxAttributes) : NodeValues :=
  let subrole := (attributes.subrole.bind cfString).getD ""
  let title := (attributes.title.bind cfString).getD ""
  let description := (attributes.description.bind cfString).getD ""
  let value :=
    if subrole = secureTextFieldSubrole then none
    else (attributes.value.bind cfString).map boundedString
  let range := rangeValue attributes
  { role := (attributes.role.bind cfString).getD ""
    name := boundedString (if title = "" then description else title)
    value := value <|> range.map fun range => texts.display range.value
    rangeValue := range
    enabled := (attributes.enabled.bind cfBoolean).getD true
    focused := false
    selected := none
    checked := none
    expanded := none
    bounds := boundsFromValues attributes.position attributes.size }

def NodeValues.facts (values : NodeValues) : ElementFacts where
  role := values.role
  name := values.name
  value := values.value
  range := values.rangeValue
  state := if values.enabled then 1 else 0
  bounds := values.bounds

theorem elementSignature_eq (texts : SemanticTexts) (values : NodeValues) :
    elementSignature texts values = texts.sha256 values.facts.bytes := rfl

theorem facts_readActionIdentity (texts : SemanticTexts) (attributes : AxAttributes) :
    (readActionIdentity texts attributes).facts = (readNode texts attributes).facts := rfl

theorem elementSignature_readActionIdentity (texts : SemanticTexts) (attributes : AxAttributes) :
    elementSignature texts (readActionIdentity texts attributes) =
      elementSignature texts (readNode texts attributes) := by
  rw [elementSignature_eq, elementSignature_eq, facts_readActionIdentity]

def preflightError (code : Int) : DriverError :=
  let error := providerError code batchReadFailed
  if error.kind = .targetUnresponsive then error.mutationNotDispatched
  else staleElement.mutationNotDispatched

/-- The element is found and read again, and still has the recorded signature; `read`
is the answer of the provider for a native element. -/
def preflight (texts : SemanticTexts) (trusted : Bool)
    (read : List Nat → Except Int AxAttributes) (state : SemanticState) (elementKey : String) :
    Except DriverError Unit :=
  match ensureAccessibilityPermission trusted with
  | .error error => .error error
  | .ok () =>
    match state.find elementKey with
    | none => .error staleElement.mutationNotDispatched
    | some stored =>
      match read stored.element with
      | .error code => .error (preflightError code)
      | .ok attributes =>
        if elementSignature texts (readActionIdentity texts attributes) = stored.signature then
          .ok ()
        else .error staleElement.mutationNotDispatched

theorem preflight_of_read {texts : SemanticTexts} {read : List Nat → Except Int AxAttributes}
    {state : SemanticState} {elementKey : String} {stored : StoredElement}
    {attributes : AxAttributes} (hfind : state.find elementKey = some stored)
    (hread : read stored.element = .ok attributes) :
    preflight texts true read state elementKey =
      if elementSignature texts (readActionIdentity texts attributes) = stored.signature then .ok ()
      else .error staleElement.mutationNotDispatched := by
  simp only [preflight, ensureAccessibilityPermission, if_true, hfind, hread]

/-! ## Native calls -/

inductive NativeCall where
  | setBoolean (name : String) (value : Bool)
  | setString (name : String) (value : String)
  | setNumber (name : String) (value : Float)
  | performAction (action : String)
  deriving DecidableEq, Repr

inductive AttemptOutcome where
  | guardFailed (error : DriverError)
  | returned (code : Int)
  deriving DecidableEq, Repr

structure Attempt where
  call : NativeCall
  outcome : AttemptOutcome
  deriving DecidableEq, Repr

structure NativeAnswers where
  beginDispatch : Nat → Except DriverError Unit
  code : Nat → Int

def kAXErrorSuccess : Int := 0

def mapActionError (error : Int) : Except DriverError Unit :=
  if error = kAXErrorSuccess then .ok ()
  else if error = kAXErrorCannotComplete then
    .error (targetUnresponsive "accessibility action timed out").mutationIndeterminate
  else
    .error ((DriverError.new .staleObservation
      "accessibility element no longer accepts the observed action").retryableAfter
      "observe_window")

abbrev ActionPart := List Attempt → Except DriverError Unit × List Attempt

def attempt (answers : NativeAnswers) (call : NativeCall) : ActionPart := fun attempts =>
  match answers.beginDispatch attempts.length with
  | .error error => (.error error, attempts ++ [⟨call, .guardFailed error⟩])
  | .ok () =>
    let code := answers.code attempts.length
    (mapActionError code, attempts ++ [⟨call, .returned code⟩])

def ActionPart.orElse (first second : ActionPart) : ActionPart := fun attempts =>
  match first attempts with
  | (.ok (), attempts) => (.ok (), attempts)
  | (.error _, attempts) => second attempts

def performAction (answers : NativeAnswers) : SemanticAction → ActionPart
  | .focus => attempt answers (.setBoolean "AXFocused" true)
  | .invoke => attempt answers (.performAction "AXPress")
  | .toggle => attempt answers (.performAction "AXPress")
  | .setValue value => attempt answers (.setString "AXValue" value)
  | .setRangeValue value => attempt answers (.setNumber "AXValue" value)
  | .select =>
    ((attempt answers (.setBoolean "AXSelected" true)).orElse
      (attempt answers (.performAction "AXPick"))).orElse
      (attempt answers (.performAction "AXPress"))
  | .setExpanded expanded => attempt answers (.setBoolean "AXExpanded" expanded)

def perform (texts : SemanticTexts) (trusted : Bool) (read : List Nat → Except Int AxAttributes)
    (answers : NativeAnswers) (state : SemanticState) (elementKey : String)
    (action : SemanticAction) : Except DriverError Unit × List Attempt :=
  match preflight texts trusted read state elementKey with
  | .error error => (.error error, [])
  | .ok () => performAction answers action []

/-! ## Attempts that follow another one -/

def Attempt.Issued (made : Attempt) : Prop := ∃ code, made.outcome = .returned code

def Attempt.Refused (made : Attempt) : Prop :=
  ∃ code, made.outcome = .returned code ∧ code ≠ kAXErrorSuccess ∧ code ≠ kAXErrorCannotComplete

def AttemptedOnce (attempts : List Attempt) : Prop :=
  attempts.Pairwise fun earlier later => later.Issued → earlier.Refused

namespace NativeAnswers

def outcome (answers : NativeAnswers) (turn : Nat) : AttemptOutcome :=
  match answers.beginDispatch turn with
  | .error error => .guardFailed error
  | .ok () => .returned (answers.code turn)

def Passes (answers : NativeAnswers) (turn : Nat) : Prop := answers.beginDispatch turn = .ok ()

def Succeeds (answers : NativeAnswers) (turn : Nat) : Prop :=
  answers.Passes turn ∧ answers.code turn = kAXErrorSuccess

def Refuses (answers : NativeAnswers) (turn : Nat) : Prop :=
  answers.Passes turn ∧ answers.code turn ≠ kAXErrorSuccess ∧
    answers.code turn ≠ kAXErrorCannotComplete

instance (answers : NativeAnswers) (turn : Nat) : Decidable (answers.Passes turn) :=
  match h : answers.beginDispatch turn with
  | .ok () => isTrue h
  | .error _ => isFalse fun hpasses => by rw [Passes, h] at hpasses; cases hpasses

instance (answers : NativeAnswers) (turn : Nat) : Decidable (answers.Succeeds turn) :=
  inferInstanceAs (Decidable (_ ∧ _))

theorem issued_iff (answers : NativeAnswers) (turn : Nat) (call : NativeCall) :
    (Attempt.mk call (answers.outcome turn)).Issued ↔ answers.Passes turn := by
  simp only [Attempt.Issued, outcome, Passes]
  cases answers.beginDispatch turn with
  | error error => simp
  | ok _ => simp

theorem refused_iff (answers : NativeAnswers) (turn : Nat) (call : NativeCall) :
    (Attempt.mk call (answers.outcome turn)).Refused ↔ answers.Refuses turn := by
  simp only [Attempt.Refused, Refuses, Passes, outcome]
  cases answers.beginDispatch turn with
  | error error => simp
  | ok _ => simp

/-- After an attempt of unknown outcome, and as long as none succeeds, the gate stays
closed for the later ones. -/
def UnknownStops (answers : NativeAnswers) (turns : Nat) : Prop :=
  ∀ later < turns, (∀ turn < later, ¬answers.Succeeds turn) →
    ∀ earlier < later, ¬answers.Refuses earlier → ¬answers.Passes later

end NativeAnswers

theorem attempt_snd (answers : NativeAnswers) (call : NativeCall) (attempts : List Attempt) :
    (attempt answers call attempts).2 = attempts ++ [⟨call, answers.outcome attempts.length⟩] := by
  rw [attempt, NativeAnswers.outcome]
  cases answers.beginDispatch attempts.length <;> rfl

theorem attempt_fst_eq_ok_iff (answers : NativeAnswers) (call : NativeCall)
    (attempts : List Attempt) :
    (attempt answers call attempts).1 = .ok () ↔ answers.Succeeds attempts.length := by
  simp only [attempt, NativeAnswers.Succeeds, NativeAnswers.Passes]
  cases answers.beginDispatch attempts.length with
  | error error => simp
  | ok _ =>
    simp only [mapActionError, true_and]
    split
    · simp_all
    · split <;> simp_all

theorem ActionPart.orElse_of_ok {first : ActionPart} (second : ActionPart)
    {attempts : List Attempt} (h : (first attempts).1 = .ok ()) :
    first.orElse second attempts = first attempts := by
  rcases hfirst : first attempts with ⟨result, made⟩
  rw [hfirst] at h
  obtain rfl : result = .ok () := h
  rw [ActionPart.orElse, hfirst]

theorem ActionPart.orElse_of_not_ok {first : ActionPart} (second : ActionPart)
    {attempts : List Attempt} (h : (first attempts).1 ≠ .ok ()) :
    first.orElse second attempts = second (first attempts).2 := by
  rcases hfirst : first attempts with ⟨result, made⟩
  rw [hfirst] at h
  cases result with
  | ok _ => exact absurd rfl h
  | error error => rw [ActionPart.orElse, hfirst]

theorem performAction_select (answers : NativeAnswers) :
    (performAction answers .select []).2 =
      if answers.Succeeds 0 then [⟨.setBoolean "AXSelected" true, answers.outcome 0⟩]
      else if answers.Succeeds 1 then
        [⟨.setBoolean "AXSelected" true, answers.outcome 0⟩,
          ⟨.performAction "AXPick", answers.outcome 1⟩]
      else
        [⟨.setBoolean "AXSelected" true, answers.outcome 0⟩,
          ⟨.performAction "AXPick", answers.outcome 1⟩,
          ⟨.performAction "AXPress", answers.outcome 2⟩] := by
  have h0 := attempt_snd answers (.setBoolean "AXSelected" true) []
  have hok0 := attempt_fst_eq_ok_iff answers (.setBoolean "AXSelected" true) []
  have h1 := attempt_snd answers (.performAction "AXPick")
    [⟨.setBoolean "AXSelected" true, answers.outcome 0⟩]
  have hok1 := attempt_fst_eq_ok_iff answers (.performAction "AXPick")
    [⟨.setBoolean "AXSelected" true, answers.outcome 0⟩]
  rw [performAction]
  by_cases hfirst : answers.Succeeds 0
  · have hpick := ActionPart.orElse_of_ok (attempt answers (.performAction "AXPick"))
      (hok0.mpr hfirst)
    rw [ActionPart.orElse_of_ok _ (by rw [hpick]; exact hok0.mpr hfirst), hpick, h0, if_pos hfirst]
    rfl
  · have hpick := ActionPart.orElse_of_not_ok (attempt answers (.performAction "AXPick"))
      (mt hok0.mp hfirst)
    rw [h0] at hpick
    rw [if_neg hfirst]
    by_cases hsecond : answers.Succeeds 1
    · rw [ActionPart.orElse_of_ok _ (by rw [hpick]; exact hok1.mpr hsecond), hpick, if_pos hsecond]
      exact h1
    · rw [ActionPart.orElse_of_not_ok _ (by rw [hpick]; exact mt hok1.mp hsecond), hpick,
        if_neg hsecond]
      exact (congrArg (fun made => (attempt answers (.performAction "AXPress") made).2) h1).trans
        (attempt_snd answers _ _)

theorem attemptedOnce_select_iff (answers : NativeAnswers) :
    AttemptedOnce (performAction answers .select []).2 ↔ answers.UnknownStops 3 := by
  rw [AttemptedOnce, performAction_select]
  constructor
  · intro hpairs later hlater hfailed earlier hearlier hunknown hpasses
    apply hunknown
    have hcases : (later = 1 ∧ earlier = 0) ∨ (later = 2 ∧ earlier = 0) ∨
        (later = 2 ∧ earlier = 1) := by omega
    rcases hcases with ⟨rfl, rfl⟩ | ⟨rfl, rfl⟩ | ⟨rfl, rfl⟩
    · rw [if_neg (hfailed 0 (by omega))] at hpairs
      split at hpairs <;> simp_all [answers.issued_iff, answers.refused_iff]
    · rw [if_neg (hfailed 0 (by omega)), if_neg (hfailed 1 (by omega))] at hpairs
      simp_all [answers.issued_iff, answers.refused_iff]
    · rw [if_neg (hfailed 0 (by omega)), if_neg (hfailed 1 (by omega))] at hpairs
      simp_all [answers.issued_iff, answers.refused_iff]
  · intro hstops
    -- an attempt that was made and did not refuse closes the gate for the later ones
    have hrefused : ∀ earlier later, earlier < later → later < 3 →
        (∀ turn < later, ¬answers.Succeeds turn) → answers.Passes later →
          answers.Refuses earlier := by
      intro earlier later hearlier hlater hfailed hpasses
      by_contra hunknown
      exact hstops later hlater hfailed earlier hearlier hunknown hpasses
    split
    · simp
    · rename_i hfirst
      have h01 := hrefused 0 1 (by omega) (by omega)
        (by intro turn ht; interval_cases turn; exact hfirst)
      split
      · simpa [answers.issued_iff, answers.refused_iff] using h01
      · rename_i hsecond
        have hfailed : ∀ turn < 2, ¬answers.Succeeds turn := by
          intro turn hturn
          interval_cases turn
          · exact hfirst
          · exact hsecond
        have h02 := hrefused 0 2 (by omega) (by omega) hfailed
        have h12 := hrefused 1 2 (by omega) (by omega) hfailed
        simp only [List.pairwise_cons, List.mem_cons, List.not_mem_nil, or_false, forall_eq_or_imp,
          forall_eq, answers.issued_iff, answers.refused_iff]
        exact ⟨⟨h01, h02⟩, h12, by simp⟩

theorem attemptedOnce_of_ne_select (answers : NativeAnswers) {action : SemanticAction}
    (haction : action ≠ .select) : AttemptedOnce (performAction answers action []).2 := by
  have hone : ∀ call, AttemptedOnce (attempt answers call []).2 := by
    intro call
    rw [attempt_snd]
    exact List.pairwise_singleton _ _
  cases action with
  | select => exact absurd rfl haction
  | focus => exact hone _
  | invoke => exact hone _
  | setValue value => exact hone _
  | setRangeValue value => exact hone _
  | toggle => exact hone _
  | setExpanded expanded => exact hone _

/-- An action is attempted again after an unknown outcome unless the gate has closed;
only a selection has further attempts. -/
theorem perform_attemptedOnce_iff (texts : SemanticTexts) (trusted : Bool)
    (read : List Nat → Except Int AxAttributes) (answers : NativeAnswers) (state : SemanticState)
    (elementKey : String) (action : SemanticAction) :
    AttemptedOnce (perform texts trusted read answers state elementKey action).2 ↔
      (preflight texts trusted read state elementKey = .ok () → action = .select →
        answers.UnknownStops 3) := by
  cases hpreflight : preflight texts trusted read state elementKey with
  | error error =>
    simp only [perform, hpreflight, reduceCtorEq, false_implies, iff_true]
    exact List.Pairwise.nil
  | ok _ =>
    simp only [perform, hpreflight, true_implies]
    by_cases haction : action = .select
    · subst haction
      rw [attemptedOnce_select_iff]
      exact ⟨fun h _ => h, fun h => h rfl⟩
    · exact iff_of_true (attemptedOnce_of_ne_select answers haction) fun h => absurd h haction

def rowAttributes : AxAttributes :=
  ⟨some (.string "AXRow"), none, none, none, none, none, none, none, none, none, none, none, none,
    none, false⟩

def timedOutFirst : NativeAnswers where
  beginDispatch _ := .ok ()
  code turn := if turn = 0 then kAXErrorCannotComplete else kAXErrorSuccess

theorem not_unknownStops_timedOutFirst : ¬timedOutFirst.UnknownStops 3 := by
  intro hstops
  have hfailed : ∀ turn < 1, ¬timedOutFirst.Succeeds turn := by
    rintro turn hturn ⟨-, hcode⟩
    interval_cases turn
    exact absurd hcode (by decide)
  exact hstops 1 (by omega) hfailed 0 (by omega) (fun h => h.2.2 rfl) rfl

def rowElement : StoredElement :=
  ⟨[], elementSignature plainTexts (readNode plainTexts rowAttributes)⟩

/-- A row is picked after its selection has timed out. -/
theorem row_picked_after_timeout :
    ¬AttemptedOnce (perform plainTexts true (fun _ => .ok rowAttributes) timedOutFirst
      ⟨1, [⟨[("row", rowElement)]⟩]⟩ "row" .select).2 := by
  have hpreflight : preflight plainTexts true (fun _ => .ok rowAttributes)
      ⟨1, [⟨[("row", rowElement)]⟩]⟩ "row" = .ok () := by
    have hfind : SemanticState.find ⟨1, [⟨[("row", rowElement)]⟩]⟩ "row" = some rowElement := rfl
    rw [preflight_of_read hfind rfl]
    exact if_pos (elementSignature_readActionIdentity plainTexts rowAttributes)
  rw [perform, hpreflight, attemptedOnce_select_iff]
  exact not_unknownStops_timedOutFirst

end NexusCua.Macos
