import NexusCua.Protocol.Command
import NexusCua.Runtime.Error

/-!
# Runtime policy

The managed and user layers that every command has to pass.  A layer denies by
default: a command needs an allow entry and no deny entry, and the commands
that carry actions or clipboard authority need them granted as well.
-/

namespace NexusCua.Runtime

open NexusCua.Protocol

inductive PolicyOperation where
  | getCapabilities
  | getPermissionStatus
  | discoverApplications
  | discoverLaunchableApplications
  | launchApplication
  | openSession
  | closeSession
  | listApps
  | listWindows
  | listDisplays
  | observeWindow
  | observeApplicationScene
  | observeDisplay
  | readClipboard
  | writeClipboard
  | performAction
  | reconcileMutation
  | verifyState
  deriving DecidableEq, Repr

def PolicyOperation.of : Command → PolicyOperation
  | .getCapabilities => .getCapabilities
  | .getPermissionStatus => .getPermissionStatus
  | .discoverApplications => .discoverApplications
  | .discoverLaunchableApplications => .discoverLaunchableApplications
  | .launchApplication _ => .launchApplication
  | .openSession _ => .openSession
  | .closeSession _ => .closeSession
  | .listApps _ => .listApps
  | .listWindows _ => .listWindows
  | .listDisplays _ => .listDisplays
  | .observeWindow _ => .observeWindow
  | .observeApplicationScene _ => .observeApplicationScene
  | .observeDisplay _ => .observeDisplay
  | .readClipboard _ => .readClipboard
  | .writeClipboard _ => .writeClipboard
  | .performAction _ => .performAction
  | .reconcileMutation _ => .reconcileMutation
  | .verifyState _ => .verifyState

/-! ## Action rules -/

structure PolicyActionRule where
  action : ActionKind
  maxTextBytes : Option Nat
  maxKeys : Option Nat
  maxClickCount : Option Nat
  maxDurationMs : Option Nat
  maxAbsScrollDelta : Option Float
  deliveries : List DeliveryPreference
  deriving DecidableEq, Repr

def within (value : Nat) (maximum : Option Nat) : Bool :=
  maximum.all fun maximum => decide (value ≤ maximum)

def PolicyActionRule.matches (rule : PolicyActionRule) (action : Action) : Bool :=
  action.kind == rule.action &&
    match action with
    | .clickPoint _ _ count delivery =>
        within count rule.maxClickCount &&
          (rule.deliveries.isEmpty || rule.deliveries.contains delivery)
    | .pressPoint _ _ durationMs => within durationMs rule.maxDurationMs
    | .movePointer _ durationMs => within durationMs rule.maxDurationMs
    | .drag _ _ durationMs => within durationMs rule.maxDurationMs
    | .typeText text => within text.value.utf8ByteSize rule.maxTextBytes
    | .setValue _ value => within value.value.utf8ByteSize rule.maxTextBytes
    | .pressKeys keys => within keys.length rule.maxKeys
    | .scroll _ deltaX deltaY => rule.maxAbsScrollDelta.all fun maximum =>
        decide (deltaX.abs ≤ maximum) && decide (deltaY.abs ≤ maximum)
    | _ => true

/-! ## Layers -/

structure PolicyAllow where
  operations : List PolicyOperation
  actions : List ActionKind
  actionRules : List PolicyActionRule
  deriving DecidableEq, Repr

structure PolicyDeny where
  operations : List PolicyOperation
  actions : List ActionKind
  deriving DecidableEq, Repr

structure RuntimePolicyLayer where
  allow : PolicyAllow
  deny : PolicyDeny
  deriving DecidableEq, Repr

namespace RuntimePolicyLayer

def authorizesOperation (layer : RuntimePolicyLayer) (operation : PolicyOperation) : Bool :=
  !layer.deny.operations.contains operation && layer.allow.operations.contains operation

def authorizesActionKind (layer : RuntimePolicyLayer) (action : ActionKind) : Bool :=
  !layer.deny.actions.contains action &&
    (layer.allow.actions.contains action ||
      layer.allow.actionRules.any fun rule => rule.action == action)

def authorizesAction (layer : RuntimePolicyLayer) (action : Action) : Bool :=
  if layer.deny.actions.contains action.kind then false
  else
    layer.allow.actions.contains action.kind ||
      layer.allow.actionRules.any fun rule => rule.matches action

def authorize (layer : RuntimePolicyLayer) (command : Command) : Bool :=
  if !layer.authorizesOperation (PolicyOperation.of command) then false
  else
    match command with
    | .performAction input => layer.authorizesAction input.action
    | .openSession manifest =>
        manifest.allowedActions.all layer.authorizesActionKind &&
          (!manifest.allowClipboardRead || layer.authorizesOperation .readClipboard) &&
          (!manifest.allowClipboardWrite || layer.authorizesOperation .writeClipboard)
    | _ => true

end RuntimePolicyLayer

/-! ## The stack -/

structure RuntimePolicyStack where
  managed : Option RuntimePolicyLayer
  user : Option RuntimePolicyLayer
  deriving DecidableEq, Repr

namespace RuntimePolicyStack

def layers (stack : RuntimePolicyStack) : List RuntimePolicyLayer :=
  stack.managed.toList ++ stack.user.toList

def denied (command : Command) : CuaError :=
  let error := publicError .capabilityDenied "runtime policy denied the requested operation" false
    (some "request_host_policy")
  if command.isMutation then error.withMutationStatus .notDispatched else error

def authorize (stack : RuntimePolicyStack) (command : Command) : Except CuaError Unit :=
  if stack.layers.all fun layer => layer.authorize command then .ok ()
  else .error (denied command)

theorem authorize_eq_ok_iff (stack : RuntimePolicyStack) (command : Command) :
    stack.authorize command = .ok () ↔ ∀ layer ∈ stack.layers, layer.authorize command = true := by
  rw [authorize]
  split <;> simp_all

theorem authorize_eq_error {stack : RuntimePolicyStack} {command : Command} {error : CuaError}
    (h : stack.authorize command = .error error) : error = denied command := by
  rw [authorize] at h
  split at h
  · contradiction
  · cases h
    rfl

end RuntimePolicyStack

end NexusCua.Runtime
