import NexusCua.Sdk.Client

/-!
# The commands of a request object

A request object keeps the command of its mutation and writes it anew into every
envelope.  What it keeps by reference it shares with the caller: the TypeScript client
copies an action one level deep, the Go client keeps the pointer to the options of the
observation, and the Python client keeps nothing of the caller's.  The identity, the
waits and the end of a request do not depend on that; the command does.
-/

namespace NexusCua.Sdk

open NexusCua.Foundation NexusCua.Protocol NexusCua.Transport

/-! ## The caller's objects -/

/-- What the objects hold that the caller's input refers to.  The first point of an
action is its only point or where a drag begins. -/
structure CallerObjects where
  point : NormalizedPoint
  finish : NormalizedPoint
  bounds : ScreenRect
  keys : List String
  observeAfter : ObserveAfterOptions
  deriving DecidableEq, Repr

def Action.reread (objects : CallerObjects) : Action → Action
  | .setWindowBounds _ => .setWindowBounds objects.bounds
  | .clickPoint _ button count delivery => .clickPoint objects.point button count delivery
  | .pressPoint _ button durationMs => .pressPoint objects.point button durationMs
  | .movePointer _ durationMs => .movePointer objects.point durationMs
  | .pressKeys _ => .pressKeys objects.keys
  | .scroll _ deltaX deltaY => .scroll objects.point deltaX deltaY
  | .drag _ _ durationMs => .drag objects.point objects.finish durationMs
  | action => action

/-- The command that a request object writes, from what it has copied and what the
caller's objects hold at the time. -/
def storedCommand (language : Language) (objects : CallerObjects) :
    MutationCommand → MutationCommand
  | .performAction input =>
      match language with
      | .typescript =>
          .performAction { input with action := Action.reread objects input.action }
      | .go =>
          .performAction { input with
            observeAfter := input.observeAfter.map fun _ => objects.observeAfter }
      | .python => .performAction input
  -- the other inputs are flat
  | .launchApplication input => .launchApplication input
  | .writeClipboard input => .writeClipboard input

inductive SharedObject where
  | point (value : NormalizedPoint)
  | bounds (value : ScreenRect)
  | keys (value : List String)
  | options (value : ObserveAfterOptions)
  deriving DecidableEq, Repr

def Action.nested (objects : CallerObjects) : Action → List SharedObject
  | .setWindowBounds _ => [.bounds objects.bounds]
  | .clickPoint .. => [.point objects.point]
  | .pressPoint .. => [.point objects.point]
  | .movePointer .. => [.point objects.point]
  | .pressKeys _ => [.keys objects.keys]
  | .scroll .. => [.point objects.point]
  | .drag .. => [.point objects.point, .point objects.finish]
  | _ => []

/-- The objects that a request object shares with its caller, with what they hold. -/
def sharedObjects (language : Language) (objects : CallerObjects) :
    MutationCommand → List SharedObject
  | .performAction input =>
      match language, input.observeAfter with
      | .typescript, _ => Action.nested objects input.action
      | .go, some _ => [.options objects.observeAfter]
      | _, _ => []
  | _ => []

theorem reread_eq_iff (action : Action) (objects objects' : CallerObjects) :
    Action.reread objects action = Action.reread objects' action ↔
      Action.nested objects action = Action.nested objects' action := by
  cases action <;> simp [Action.reread, Action.nested]

theorem storedCommand_eq_iff (language : Language) (command : MutationCommand)
    (objects objects' : CallerObjects) :
    storedCommand language objects command = storedCommand language objects' command ↔
      sharedObjects language objects command = sharedObjects language objects' command := by
  cases command with
  | launchApplication input => simp [storedCommand, sharedObjects]
  | writeClipboard input => simp [storedCommand, sharedObjects]
  | performAction input =>
    cases language with
    | python => simp [storedCommand, sharedObjects]
    | typescript => simp [storedCommand, sharedObjects, reread_eq_iff]
    | go => cases hoptions : input.observeAfter <;> simp [storedCommand, sharedObjects, hoptions]

/-! ## One request object -/

structure SentEnvelope where
  envelope : RequestEnvelope
  now : Nat
  completed : Bool
  objects : CallerObjects

structure RequestState where
  request : MutationRequest
  objects : CallerObjects
  sent : List SentEnvelope

/-- The caller changes its objects, calls the client or reconciles, and a round trip
ends with a response or fails.  An envelope is not written if the context of a Go call is
done, its frame exceeds the configured bound or the connection does not open. -/
inductive Turn where
  | change (objects : CallerObjects)
  | wait (now : Nat) (timeout : ℚ) (written : Bool)
  | finish (response : Option ResponseEnvelope)

namespace RequestState

def initial (createdAt : Nat) (objects : CallerObjects) : RequestState :=
  ⟨.new createdAt, objects, []⟩

variable (client : Client) (mutation : Mutation)

/-- TypeScript refuses a wait while another is in flight; in Go and Python it comes
after the other has ended. -/
def wait (now : Nat) (timeout : ℚ) (written : Bool) (s : RequestState) : RequestState :=
  if s.request.inFlight then s
  else
    match beginWait client now timeout s.request with
    | (request, .error _) => { s with request := request }
    | (request, .ok timeoutMs) =>
        let command := storedCommand client.language s.objects mutation.input
        let envelope := requestEnvelope client ⟨mutation.requestId, command⟩ timeoutMs
        if written then
          { s with
            request := request
            sent := s.sent ++ [⟨envelope, now, s.request.completed, s.objects⟩] }
        else { s with request := { request with inFlight := false } }

def finish (response : Option ResponseEnvelope) (s : RequestState) : RequestState :=
  if !s.request.inFlight then s
  else
    let completes := (response.map fun response => (decodeResponse mutation response).completes)
    { s with request := { s.request with
        inFlight := false
        completed := s.request.completed || completes.getD false } }

def step (s : RequestState) : Turn → RequestState
  | .change objects => { s with objects := objects }
  | .wait now timeout written => s.wait client mutation now timeout written
  | .finish response => s.finish mutation response

def run (turns : List Turn) (s : RequestState) : RequestState :=
  turns.foldl (step client mutation) s

end RequestState

/-! ## What a wait can do -/

theorem wireMilliseconds_mono (client : Client) : Monotone (wireMilliseconds client) := by
  intro timeout timeout' h
  rw [wireMilliseconds, wireMilliseconds]
  cases client.language with
  | go => exact Int.floor_mono (div_le_div_of_nonneg_right h (Nat.cast_nonneg _))
  | typescript => exact Int.floor_mono h
  | python => exact Int.floor_mono (client.round.mono (mul_le_mul_of_nonneg_right h (by norm_num)))

theorem extendsWait_ok {request : MutationRequest} {timeout : ℚ} {u : Unit}
    (h : extendsWait request timeout = .ok u) :
    request.lastWait = 0 ∨ request.lastWait ≤ timeout := by
  rw [extendsWait] at h
  split at h
  · cases h
  case isFalse hshorter => simpa [or_iff_not_imp_left] using hshorter

theorem checkTimeout_ok {client : Client} {request : MutationRequest} {timeout : ℚ}
    {timeoutMs : Nat} (h : checkTimeout client request timeout = .ok timeoutMs) :
    timeoutMs = (wireMilliseconds client timeout).toNat ∧ 0 < timeout ∧
      (request.lastWait = 0 ∨ request.lastWait ≤ timeout) := by
  rw [checkTimeout] at h
  split at h
  case h_3 =>
    obtain ⟨wait, hwait, hrest⟩ := bind_eq_ok.mp h
    obtain ⟨_, hextends, hsame⟩ := bind_eq_ok.mp hrest
    obtain rfl := Except.ok.inj hsame
    rw [assertPositiveU32] at hwait
    split at hwait
    · cases hwait
    case isFalse hbound =>
      exact ⟨(Except.ok.inj hwait).symm, not_le.mp fun h => hbound (.inr (.inl h)),
        extendsWait_ok hextends⟩
  all_goals
    obtain ⟨_, hextends, hduration⟩ := bind_eq_ok.mp h
    rw [timeoutMilliseconds] at hduration
    split at hduration
    · cases hduration
    case isFalse hpositive =>
      split at hduration
      · cases hduration
      · exact ⟨(Except.ok.inj hduration).symm, not_le.mp hpositive, extendsWait_ok hextends⟩

/-- A wait is refused and leaves what is sent alone, or it is the next one of a request
that is neither complete nor past its horizon. -/
inductive BeginsWait (client : Client) (now : Nat) (timeout : ℚ) (request : MutationRequest) :
    MutationRequest × Except WaitRefusal Nat → Prop where
  | refused (invalidated : Bool) (refusal : WaitRefusal) :
      BeginsWait client now timeout request
        ({ request with invalidated := invalidated }, .error refusal)
  | sent (hopen : request.completed = false)
      (hhorizon : now - request.createdAt ≤ client.reconciliationHorizon)
      (hpositive : 0 < timeout)
      (hextends : request.lastWait = 0 ∨ request.lastWait ≤ timeout) :
      BeginsWait client now timeout request
        ({ request with lastWait := timeout, inFlight := true },
          .ok (wireMilliseconds client timeout).toNat)

theorem beginWait_beginsWait (client : Client) (now : Nat) (timeout : ℚ)
    (request : MutationRequest) :
    BeginsWait client now timeout request (beginWait client now timeout request) := by
  rw [beginWait]
  split
  case isTrue => exact .refused request.invalidated _
  case isFalse hopen =>
    split
    case isTrue => exact .refused true _
    case isFalse hlive =>
      split
      case h_1 => exact .refused request.invalidated _
      case h_2 timeoutMs hcheck =>
        obtain ⟨rfl, hpositive, hextends⟩ := checkTimeout_ok hcheck
        exact .sent (Bool.eq_false_iff.mpr hopen) (Nat.le_of_not_lt fun h => hlive (.inr h))
          hpositive hextends

namespace RequestState

/-! ## Every run -/

section Runs

variable (client : Client) (mutation : Mutation) (createdAt : Nat)

structure Kept (s : RequestState) : Prop where
  created : s.request.createdAt = createdAt
  envelope : ∀ a ∈ s.sent, a.envelope = requestEnvelope client
    ⟨mutation.requestId, storedCommand client.language a.objects mutation.input⟩
    a.envelope.timeoutMs
  timeouts : s.sent.Pairwise fun a b => a.envelope.timeoutMs ≤ b.envelope.timeoutMs
  lastWait : ∀ a ∈ s.sent, 0 < s.request.lastWait ∧
    a.envelope.timeoutMs ≤ (wireMilliseconds client s.request.lastWait).toNat
  incomplete : ∀ a ∈ s.sent, a.completed = false
  horizon : ∀ a ∈ s.sent, a.now - createdAt ≤ client.reconciliationHorizon

/-- All envelopes are the same but for the wait, which never gets shorter, and none is
sent for a request that is complete or past its horizon. -/
structure Immutable (sent : List SentEnvelope) : Prop where
  requestId : ∀ a ∈ sent, ∀ b ∈ sent, a.envelope.requestId = b.envelope.requestId
  command : ∀ a ∈ sent, ∀ b ∈ sent, a.envelope.command = b.envelope.command
  timeouts : sent.Pairwise fun a b => a.envelope.timeoutMs ≤ b.envelope.timeoutMs
  incomplete : ∀ a ∈ sent, a.completed = false
  horizon : ∀ a ∈ sent, a.now - createdAt ≤ client.reconciliationHorizon

variable {client mutation createdAt} {s : RequestState}

theorem wait_kept (hs : s.Kept client mutation createdAt) (now : Nat) (timeout : ℚ)
    (written : Bool) :
    (s.wait client mutation now timeout written).Kept client mutation createdAt := by
  rw [wait]
  split
  · exact hs
  · have hbegins := beginWait_beginsWait client now timeout s.request
    generalize beginWait client now timeout s.request = outcome at hbegins
    cases hbegins with
    | refused invalidated refusal =>
      exact ⟨hs.created, hs.envelope, hs.timeouts, hs.lastWait, hs.incomplete, hs.horizon⟩
    | sent hopen hhorizon hpositive hextends =>
      have hlonger : ∀ a ∈ s.sent, 0 < timeout ∧
          a.envelope.timeoutMs ≤ (wireMilliseconds client timeout).toNat := by
        intro a ha
        obtain ⟨hwaited, hlast⟩ := hs.lastWait a ha
        have hmore := hextends.resolve_left (ne_of_gt hwaited)
        exact ⟨hpositive, hlast.trans (Int.toNat_le_toNat (wireMilliseconds_mono client hmore))⟩
      dsimp only
      split
      · refine ⟨hs.created, ?_, ?_, ?_, ?_, ?_⟩
        · exact List.forall_mem_append.mpr ⟨hs.envelope, List.forall_mem_singleton.mpr rfl⟩
        · refine List.pairwise_append.mpr ⟨hs.timeouts, List.pairwise_singleton _ _, ?_⟩
          intro a ha b hb
          rw [List.mem_singleton.mp hb]
          exact (hlonger a ha).2
        · exact List.forall_mem_append.mpr
            ⟨hlonger, List.forall_mem_singleton.mpr ⟨hpositive, le_rfl⟩⟩
        · exact List.forall_mem_append.mpr ⟨hs.incomplete, List.forall_mem_singleton.mpr hopen⟩
        · exact List.forall_mem_append.mpr
            ⟨hs.horizon, List.forall_mem_singleton.mpr (hs.created ▸ hhorizon)⟩
      -- the wait has failed before anything was sent
      · exact ⟨hs.created, hs.envelope, hs.timeouts, hlonger, hs.incomplete, hs.horizon⟩

theorem step_kept (hs : s.Kept client mutation createdAt) (turn : Turn) :
    (s.step client mutation turn).Kept client mutation createdAt := by
  cases turn with
  | change objects =>
    exact ⟨hs.created, hs.envelope, hs.timeouts, hs.lastWait, hs.incomplete, hs.horizon⟩
  | wait now timeout written => exact wait_kept hs now timeout written
  | finish response =>
    rw [step, finish]
    split
    · exact hs
    · exact ⟨hs.created, hs.envelope, hs.timeouts, hs.lastWait, hs.incomplete, hs.horizon⟩

theorem run_kept (objects : CallerObjects) (turns : List Turn) :
    ((initial createdAt objects).run client mutation turns).Kept client mutation createdAt := by
  have hinitial : (initial createdAt objects).Kept client mutation createdAt := by
    constructor <;> simp [initial, MutationRequest.new]
  rw [run]
  generalize initial createdAt objects = s at hinitial
  induction turns generalizing s with
  | nil => exact hinitial
  | cons turn turns ih => exact ih _ (step_kept hinitial turn)

end Runs

theorem command_injective : Function.Injective MutationCommand.command := by
  intro input input' h
  cases input <;> cases input' <;> simp_all [MutationCommand.command]

/-- A request object is immutable exactly when the objects that it shares with its caller
hold the same whenever an envelope is sent. -/
theorem immutable_iff (client : Client) (mutation : Mutation) (createdAt : Nat)
    (objects : CallerObjects) (turns : List Turn) :
    Immutable client createdAt ((initial createdAt objects).run client mutation turns).sent ↔
      ∀ a ∈ ((initial createdAt objects).run client mutation turns).sent,
        ∀ b ∈ ((initial createdAt objects).run client mutation turns).sent,
          sharedObjects client.language a.objects mutation.input =
            sharedObjects client.language b.objects mutation.input := by
  have hkept : ((initial createdAt objects).run client mutation turns).Kept client mutation
      createdAt := run_kept objects turns
  generalize (initial createdAt objects).run client mutation turns = s at hkept
  have hcommand : ∀ a ∈ s.sent, a.envelope.command =
      (storedCommand client.language a.objects mutation.input).command :=
    fun a ha => congrArg RequestEnvelope.command (hkept.envelope a ha)
  have hsame : ∀ a ∈ s.sent, ∀ b ∈ s.sent, a.envelope.command = b.envelope.command ↔
      sharedObjects client.language a.objects mutation.input =
        sharedObjects client.language b.objects mutation.input := by
    intro a ha b hb
    rw [hcommand a ha, hcommand b hb, command_injective.eq_iff, storedCommand_eq_iff]
  constructor
  · intro himmutable a ha b hb
    exact (hsame a ha b hb).mp (himmutable.command a ha b hb)
  · intro hshared
    refine ⟨fun a ha b hb => ?_, fun a ha b hb => (hsame a ha b hb).mpr (hshared a ha b hb),
      hkept.timeouts, hkept.incomplete, hkept.horizon⟩
    rw [hkept.envelope a ha, hkept.envelope b hb]
    rfl

/-! ## Commands that change -/

def observedKeys : PerformActionInput where
  observeAfter := some ⟨true, .interactive, false⟩
  sessionId := ⟨"session"⟩
  windowRef := ⟨"window"⟩
  observationId := ⟨"observation"⟩
  action := .pressKeys ["a"]

/-- What the caller's objects hold for `observedKeys`, with other keys and options. -/
def callerObjects (keys : List String) (includeScreenshot : Bool) : CallerObjects where
  point := ⟨0, 0⟩
  finish := ⟨0, 0⟩
  bounds := ⟨0, 0, 0, 0⟩
  keys := keys
  observeAfter := ⟨includeScreenshot, .interactive, false⟩

def tenMinuteClient (language : Language) : Client where
  language := language
  token := ⟨"token"⟩
  reconciliationHorizon := 600 * second
  round := ⟨id, monotone_id⟩

def halfMinute : Language → ℚ
  | .go => 30 * second
  | .typescript => 30 * 1000
  | .python => 30

/-- A first call whose connection fails, a change of the caller's objects, and a
reconciliation. -/
def changeBetween (timeout : ℚ) (objects : CallerObjects) : List Turn :=
  [.wait 0 timeout true, .finish none, .change objects, .wait second timeout true]

def commandsSent (language : Language) (objects : CallerObjects) : List Command :=
  ((initial 0 (callerObjects ["a"] true)).run (tenMinuteClient language)
    ⟨⟨"request"⟩, .performAction observedKeys⟩
    (changeBetween (halfMinute language) objects)).sent.map
      fun sent => sent.envelope.command

/-- TypeScript sends the changed keys and Go the changed options; Python sends the same
command. -/
theorem reconciliation_sends_other_command :
    commandsSent .typescript (callerObjects ["b"] true) =
        [.performAction observedKeys,
          .performAction { observedKeys with action := .pressKeys ["b"] }] ∧
      commandsSent .go (callerObjects ["a"] false) =
        [.performAction observedKeys,
          .performAction { observedKeys with observeAfter := some ⟨false, .interactive, false⟩ }] ∧
      commandsSent .python (callerObjects ["b"] false) =
        [.performAction observedKeys, .performAction observedKeys] := by
  decide +kernel

end RequestState

end NexusCua.Sdk
