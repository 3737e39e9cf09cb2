import NexusCua.Foundation.Binary64
import NexusCua.Runtime.Policy

/-!
# The order of policies

A stack is relaxed by taking layers away, deny entries out of a layer or allow
entries in; an action is shrunk in the arguments that an action rule bounds.
Authorization is monotone in both orders, and a denial by one layer is final.
-/

namespace NexusCua.Runtime

open NexusCua.Foundation NexusCua.Protocol

/-! ## Shrinking an action -/

/-- The second action is the first one with less of what an action rule bounds. -/
inductive Shrinks : Action → Action → Prop where
  | same (action : Action) : Shrinks action action
  | clickPoint {point button count count' delivery} (hcount : count' ≤ count) :
      Shrinks (.clickPoint point button count delivery) (.clickPoint point button count' delivery)
  | pressPoint {point button durationMs durationMs'} (hduration : durationMs' ≤ durationMs) :
      Shrinks (.pressPoint point button durationMs) (.pressPoint point button durationMs')
  | movePointer {point durationMs durationMs'} (hduration : durationMs' ≤ durationMs) :
      Shrinks (.movePointer point durationMs) (.movePointer point durationMs')
  | drag {start finish durationMs durationMs'} (hduration : durationMs' ≤ durationMs) :
      Shrinks (.drag start finish durationMs) (.drag start finish durationMs')
  | typeText {text text' : SensitiveText}
      (htext : text'.value.utf8ByteSize ≤ text.value.utf8ByteSize) :
      Shrinks (.typeText text) (.typeText text')
  | setValue {elementRef} {value value' : SensitiveText}
      (hvalue : value'.value.utf8ByteSize ≤ value.value.utf8ByteSize) :
      Shrinks (.setValue elementRef value) (.setValue elementRef value')
  | pressKeys {keys keys'} (hkeys : keys'.length ≤ keys.length) :
      Shrinks (.pressKeys keys) (.pressKeys keys')
  | scroll {point deltaX deltaX' deltaY deltaY'} (hx : deltaX'.abs ≤ deltaX.abs)
      (hy : deltaY'.abs ≤ deltaY.abs) :
      Shrinks (.scroll point deltaX deltaY) (.scroll point deltaX' deltaY')

theorem Shrinks.kind_eq {action action' : Action} (hs : Shrinks action action') :
    action'.kind = action.kind := by
  cases hs <;> rfl

theorem within_mono {value value' : Nat} {maximum : Option Nat} (hle : value' ≤ value)
    (hw : within value maximum = true) : within value' maximum = true := by
  cases maximum with
  | none => rfl
  | some maximum =>
      simp only [within, Option.all_some, decide_eq_true_eq] at hw ⊢
      omega

theorem Shrinks.matches {action action' : Action} (hs : Shrinks action action')
    {rule : PolicyActionRule} (hm : rule.matches action = true) :
    rule.matches action' = true := by
  cases hs with
  | same => exact hm
  | clickPoint hcount =>
      simp only [PolicyActionRule.matches, Bool.and_eq_true] at hm ⊢
      exact ⟨hm.1, within_mono hcount hm.2.1, hm.2.2⟩
  | scroll hx hy =>
      simp only [PolicyActionRule.matches, Bool.and_eq_true] at hm ⊢
      refine ⟨hm.1, ?_⟩
      cases hmaximum : rule.maxAbsScrollDelta with
      | none => rfl
      | some maximum =>
          simp only [hmaximum, Option.all_some, Bool.and_eq_true, decide_eq_true_eq] at hm ⊢
          exact ⟨float_le_trans hx hm.2.1, float_le_trans hy hm.2.2⟩
  | pressPoint hle | movePointer hle | drag hle | typeText hle | setValue hle | pressKeys hle =>
      simp only [PolicyActionRule.matches, Bool.and_eq_true] at hm ⊢
      exact ⟨hm.1, within_mono hle hm.2⟩

/-! ## Layers -/

namespace RuntimePolicyLayer

variable {layer layer' : RuntimePolicyLayer}

/-- `layer'` has no more deny entries and no fewer allow entries. -/
structure Relaxes (layer layer' : RuntimePolicyLayer) : Prop where
  denyOperations : layer'.deny.operations ⊆ layer.deny.operations
  denyActions : layer'.deny.actions ⊆ layer.deny.actions
  allowOperations : layer.allow.operations ⊆ layer'.allow.operations
  allowActions : layer.allow.actions ⊆ layer'.allow.actions
  allowRules : layer.allow.actionRules ⊆ layer'.allow.actionRules

def denies (layer : RuntimePolicyLayer) (command : Command) : Bool :=
  layer.deny.operations.contains (PolicyOperation.of command) ||
    match command with
    | .performAction input => layer.deny.actions.contains input.action.kind
    | .openSession manifest =>
        manifest.allowedActions.any layer.deny.actions.contains ||
          (manifest.allowClipboardRead && layer.deny.operations.contains .readClipboard) ||
          (manifest.allowClipboardWrite && layer.deny.operations.contains .writeClipboard)
    | _ => false

theorem authorizesOperation_iff (layer : RuntimePolicyLayer) (operation : PolicyOperation) :
    layer.authorizesOperation operation = true ↔
      operation ∉ layer.deny.operations ∧ operation ∈ layer.allow.operations := by
  simp [authorizesOperation]

def Allows (layer : RuntimePolicyLayer) (kind : ActionKind) (p : PolicyActionRule → Prop) : Prop :=
  kind ∉ layer.deny.actions ∧
    (kind ∈ layer.allow.actions ∨ ∃ rule ∈ layer.allow.actionRules, p rule)

theorem authorizesActionKind_iff (layer : RuntimePolicyLayer) (action : ActionKind) :
    layer.authorizesActionKind action = true ↔ layer.Allows action (·.action = action) := by
  simp [authorizesActionKind, Allows]

theorem authorizesAction_iff (layer : RuntimePolicyLayer) (action : Action) :
    layer.authorizesAction action = true ↔
      layer.Allows action.kind (·.matches action = true) := by
  rw [authorizesAction, Allows]
  split <;> simp_all

theorem authorize_performAction (layer : RuntimePolicyLayer) (input : PerformActionInput) :
    layer.authorize (.performAction input) = true ↔
      layer.authorizesOperation .performAction = true ∧
        layer.authorizesAction input.action = true := by
  simp [authorize, PolicyOperation.of]

theorem authorize_openSession (layer : RuntimePolicyLayer) (manifest : CapabilityManifest) :
    layer.authorize (.openSession manifest) = true ↔
      layer.authorizesOperation .openSession = true ∧
        (∀ action ∈ manifest.allowedActions, layer.authorizesActionKind action = true) ∧
        (manifest.allowClipboardRead = true → layer.authorizesOperation .readClipboard = true) ∧
        (manifest.allowClipboardWrite = true →
          layer.authorizesOperation .writeClipboard = true) := by
  cases hread : manifest.allowClipboardRead <;> cases hwrite : manifest.allowClipboardWrite <;>
    simp [authorize, PolicyOperation.of, hread, hwrite, and_assoc]

variable {command : Command}

theorem authorizesOperation_of_authorize
    (ha : layer.authorize command = true) :
    layer.authorizesOperation (PolicyOperation.of command) = true := by
  by_contra hn
  simp [authorize, hn] at ha

namespace Relaxes

theorem authorizesOperation (hr : Relaxes layer layer') {operation : PolicyOperation}
    (ha : layer.authorizesOperation operation = true) :
    layer'.authorizesOperation operation = true := by
  rw [authorizesOperation_iff] at ha ⊢
  exact ⟨fun hdeny => ha.1 (hr.denyOperations hdeny), hr.allowOperations ha.2⟩

theorem allows (hr : Relaxes layer layer') {kind : ActionKind} {p : PolicyActionRule → Prop}
    (ha : layer.Allows kind p) : layer'.Allows kind p := by
  obtain ⟨hdeny, hallow⟩ := ha
  refine ⟨fun hdeny' => hdeny (hr.denyActions hdeny'), ?_⟩
  rcases hallow with hallow | ⟨rule, hrule, hp⟩
  · exact .inl (hr.allowActions hallow)
  · exact .inr ⟨rule, hr.allowRules hrule, hp⟩

theorem authorizesActionKind (hr : Relaxes layer layer') {action : ActionKind}
    (ha : layer.authorizesActionKind action = true) :
    layer'.authorizesActionKind action = true := by
  rw [authorizesActionKind_iff] at ha ⊢
  exact hr.allows ha

theorem authorize (hr : Relaxes layer layer')
    (ha : layer.authorize command = true) : layer'.authorize command = true := by
  have hoperation := hr.authorizesOperation (authorizesOperation_of_authorize ha)
  cases command with
  | performAction input =>
      rw [authorize_performAction, authorizesAction_iff] at ha ⊢
      exact ⟨hoperation, hr.allows ha.2⟩
  | openSession manifest =>
      rw [authorize_openSession] at ha ⊢
      obtain ⟨-, hactions, hread, hwrite⟩ := ha
      refine ⟨hoperation, ?_, ?_, ?_⟩
      · exact fun action hmem => hr.authorizesActionKind (hactions action hmem)
      · exact fun hgrant => hr.authorizesOperation (hread hgrant)
      · exact fun hgrant => hr.authorizesOperation (hwrite hgrant)
  | _ => simp [RuntimePolicyLayer.authorize, hoperation]

end Relaxes

theorem not_authorize_of_denies (hd : layer.denies command = true) :
    layer.authorize command = false := by
  by_contra hn
  have ha : layer.authorize command = true := by simpa using hn
  have hoperation := authorizesOperation_of_authorize ha
  rw [authorizesOperation_iff] at hoperation
  cases command with
  | performAction input =>
      rw [authorize_performAction, authorizesAction_iff] at ha
      simp [denies, hoperation.1, ha.2.1] at hd
  | openSession manifest =>
      rw [authorize_openSession] at ha
      obtain ⟨-, hactions, hread, hwrite⟩ := ha
      simp only [authorizesActionKind_iff] at hactions
      simp only [authorizesOperation_iff] at hread hwrite
      simp only [denies, Bool.or_eq_true, Bool.and_eq_true, List.any_eq_true,
        List.contains_iff_mem] at hd
      rcases hd with hd | ⟨⟨action, hmem, hdeny⟩ | ⟨hgrant, hdeny⟩⟩ | ⟨hgrant, hdeny⟩
      · exact hoperation.1 hd
      · exact (hactions action hmem).1 hdeny
      · exact (hread hgrant).1 hdeny
      · exact (hwrite hgrant).1 hdeny
  | _ => simp [denies, hoperation.1] at hd

theorem authorizesActionKind_of_authorize {input : PerformActionInput}
    (ha : layer.authorize (.performAction input) = true) :
    layer.authorizesActionKind input.action.kind = true := by
  rw [authorize_performAction, authorizesAction_iff] at ha
  obtain ⟨-, hdeny, hallow⟩ := ha
  rw [authorizesActionKind_iff]
  refine ⟨hdeny, hallow.imp id ?_⟩
  rintro ⟨rule, hrule, hmatches⟩
  have hkind : (input.action.kind == rule.action) = true := by
    unfold PolicyActionRule.matches at hmatches
    exact (Bool.and_eq_true_iff.mp hmatches).1
  exact ⟨rule, hrule, (beq_iff_eq.mp hkind).symm⟩

theorem authorize_shrunk {input : PerformActionInput} {action : Action}
    (hs : Shrinks input.action action) (ha : layer.authorize (.performAction input) = true) :
    layer.authorize (.performAction { input with action := action }) = true := by
  rw [authorize_performAction, authorizesAction_iff] at ha ⊢
  obtain ⟨hoperation, hdeny, hallow⟩ := ha
  rw [hs.kind_eq]
  refine ⟨hoperation, hdeny, hallow.imp id ?_⟩
  rintro ⟨rule, hrule, hmatches⟩
  exact ⟨rule, hrule, hs.matches hmatches⟩

end RuntimePolicyLayer

/-! ## Stacks -/

namespace RuntimePolicyStack

def withoutManaged (stack : RuntimePolicyStack) : RuntimePolicyStack :=
  { stack with managed := none }

def withoutUser (stack : RuntimePolicyStack) : RuntimePolicyStack := { stack with user := none }

structure Relaxes (stack stack' : RuntimePolicyStack) : Prop where
  managed : Option.Rel RuntimePolicyLayer.Relaxes stack.managed stack'.managed
  user : Option.Rel RuntimePolicyLayer.Relaxes stack.user stack'.user

variable {stack stack' : RuntimePolicyStack}

theorem Relaxes.layers (hr : stack.Relaxes stack')
    {layer' : RuntimePolicyLayer} (hl : layer' ∈ stack'.layers) :
    ∃ layer ∈ stack.layers, layer.Relaxes layer' := by
  have hplace : ∀ {before after : Option RuntimePolicyLayer},
      Option.Rel RuntimePolicyLayer.Relaxes before after → layer' ∈ after.toList →
      ∃ layer ∈ before.toList, layer.Relaxes layer' := by
    intro before after hrel hmem
    cases hrel with
    | none => simp at hmem
    | some hrelaxes =>
        obtain rfl : layer' = _ := by simpa using hmem
        exact ⟨_, by simp, hrelaxes⟩
  rw [RuntimePolicyStack.layers, List.mem_append] at hl
  rcases hl with hl | hl
  · obtain ⟨layer, hmem, hrelaxes⟩ := hplace hr.managed hl
    exact ⟨layer, List.mem_append_left _ hmem, hrelaxes⟩
  · obtain ⟨layer, hmem, hrelaxes⟩ := hplace hr.user hl
    exact ⟨layer, List.mem_append_right _ hmem, hrelaxes⟩

theorem authorize_of_layers {command : Command}
    (hl : ∀ layer' ∈ stack'.layers, ∃ layer ∈ stack.layers, layer.Relaxes layer')
    (ha : stack.authorize command = .ok ()) : stack'.authorize command = .ok () := by
  rw [authorize_eq_ok_iff] at ha ⊢
  intro layer' hlayer'
  obtain ⟨layer, hlayer, hrelaxes⟩ := hl layer' hlayer'
  exact hrelaxes.authorize (ha layer hlayer)

theorem authorize_of_subset {command : Command}
    (hl : stack'.layers ⊆ stack.layers) (ha : stack.authorize command = .ok ()) :
    stack'.authorize command = .ok () := by
  rw [authorize_eq_ok_iff] at ha ⊢
  exact fun layer hlayer => ha layer (hl hlayer)

structure PolicyLaw (stack : RuntimePolicyStack) : Prop where
  withoutManaged : ∀ command, stack.authorize command = .ok () →
    stack.withoutManaged.authorize command = .ok ()
  withoutUser : ∀ command, stack.authorize command = .ok () →
    stack.withoutUser.authorize command = .ok ()
  relaxed : ∀ command stack', stack.Relaxes stack' → stack.authorize command = .ok () →
    stack'.authorize command = .ok ()
  denied : ∀ command, ∀ layer ∈ stack.layers, layer.denies command = true →
    stack.authorize command = .error (denied command)
  kind : ∀ input, ∀ layer : RuntimePolicyLayer, layer.authorize (.performAction input) = true →
    layer.authorizesActionKind input.action.kind = true
  shrunk : ∀ (input : PerformActionInput) action, Shrinks input.action action →
    ∀ layer : RuntimePolicyLayer, layer.authorize (.performAction input) = true →
    layer.authorize (.performAction { input with action := action }) = true

/-- Every policy stack is monotone and deny-dominant. -/
theorem policyLaw (stack : RuntimePolicyStack) : stack.PolicyLaw where
  withoutManaged command ha :=
    authorize_of_subset (by simp [layers, RuntimePolicyStack.withoutManaged]) ha
  withoutUser command ha :=
    authorize_of_subset (by simp [layers, RuntimePolicyStack.withoutUser]) ha
  relaxed command stack' hr ha := authorize_of_layers (fun _ hl => hr.layers hl) ha
  denied command layer hlayer hdenies := by
    have hrefused := RuntimePolicyLayer.not_authorize_of_denies hdenies
    rw [authorize, if_neg]
    simp only [List.all_eq_true, not_forall]
    exact ⟨layer, hlayer, by simp [hrefused]⟩
  kind input layer ha := RuntimePolicyLayer.authorizesActionKind_of_authorize ha
  shrunk input action hs layer ha := RuntimePolicyLayer.authorize_shrunk hs ha

def shortTexts : RuntimePolicyStack where
  managed := some ⟨⟨[.performAction], [], [⟨.typeText, some 8, none, none, none, none, []⟩]⟩,
    ⟨[.readClipboard], []⟩⟩
  user := some ⟨⟨[.performAction], [.typeText], []⟩, ⟨[], [.drag]⟩⟩

def typing (text : String) : PerformActionInput :=
  ⟨none, ⟨"session"⟩, ⟨"window"⟩, ⟨"observation"⟩, .typeText ⟨text⟩⟩

/-- A text of eight bytes is typed under each layer alone and without the denial of drags,
and so is a shorter one; the clipboard is not read. -/
theorem policyLaw_shortTexts :
    shortTexts.withoutManaged.authorize (.performAction (typing "password")) = .ok () ∧
      shortTexts.withoutUser.authorize (.performAction (typing "password")) = .ok () ∧
      ({ shortTexts with user := some ⟨⟨[.performAction], [.typeText], []⟩, ⟨[], []⟩⟩ } :
        RuntimePolicyStack).authorize (.performAction (typing "password")) = .ok () ∧
      shortTexts.authorize (.readClipboard ⟨"session"⟩) =
        .error (denied (.readClipboard ⟨"session"⟩)) ∧
      ∀ layer ∈ shortTexts.layers, layer.authorizesActionKind .typeText = true ∧
        layer.authorize (.performAction (typing "pass")) = true := by
  have hlaw := policyLaw shortTexts
  have hall : shortTexts.authorize (.performAction (typing "password")) = .ok () := by decide
  refine ⟨hlaw.withoutManaged _ hall, hlaw.withoutUser _ hall, hlaw.relaxed _ _ ?_ hall, ?_, ?_⟩
  · exact ⟨.some (by constructor <;> simp), .some (by constructor <;> simp)⟩
  · exact hlaw.denied _ _ (.head _) (by decide)
  · intro layer hlayer
    have hown := (authorize_eq_ok_iff _ _).mp hall layer hlayer
    exact ⟨hlaw.kind _ _ hown, hlaw.shrunk _ _ (.typeText (by decide)) _ hown⟩

end RuntimePolicyStack

end NexusCua.Runtime
