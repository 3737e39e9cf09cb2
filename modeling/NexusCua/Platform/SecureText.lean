import NexusCua.Foundation.Lockstep
import NexusCua.Macos.Semantic
import NexusCua.Windows.Semantic

/-!
# Secure text in snapshots

The text of a secure field is not read, so it decides nothing: two windows that differ
only in such texts are traversed in lockstep and give the same snapshot, down to the
signatures kept for later actions.
-/

namespace NexusCua.Macos

open NexusCua.Foundation NexusCua.Protocol NexusCua.Runtime NexusCua.Platform

def secureField (attributes : AxAttributes) (text : String) : AxAttributes :=
  { attributes with
    subrole := some (.string secureTextFieldSubrole)
    value := some (.string text) }

inductive SameButSecret : AxNode → AxNode → Prop where
  | same (node : AxNode) : SameButSecret node node
  | secret (attributes : AxAttributes) (text text' : String) :
      SameButSecret (.ok (secureField attributes text)) (.ok (secureField attributes text'))

theorem readNode_secureField (texts : SemanticTexts) (attributes : AxAttributes)
    (text text' : String) :
    readNode texts (secureField attributes text) =
      readNode texts (secureField attributes text') := by
  have hrange : ∀ text, rangeValue (secureField attributes text) = none := fun text => rfl
  have hchecked : ∀ text, (secureField attributes text).value.bind cfBooleanish = none :=
    fun text => rfl
  have hsubrole : ∀ text, ((secureField attributes text).subrole.bind cfString).getD "" =
    secureTextFieldSubrole := fun text => rfl
  simp only [readNode, hrange, hchecked, hsubrole, if_true]
  rfl

theorem SameButSecret.reading_eq (texts : SemanticTexts) {node node' : AxNode}
    (h : SameButSecret node node') : reading texts node = reading texts node' := by
  cases h with
  | same => rfl
  | secret attributes text text' =>
    rw [reading, reading, readNode_secureField texts attributes text text']

end NexusCua.Macos

namespace NexusCua.Windows

open NexusCua.Foundation NexusCua.Protocol NexusCua.Runtime NexusCua.Platform

def passwordField (element : CachedElement) (text : String) : CachedElement :=
  { element with
    isPassword := some true
    value := some text }

inductive SameButSecret : UiaNode → UiaNode → Prop where
  | same (node : UiaNode) : SameButSecret node node
  | secret (element : CachedElement) (text text' : String) :
      SameButSecret (some (passwordField element text)) (some (passwordField element text'))

theorem SameButSecret.reading_eq (texts : SemanticTexts) {node node' : UiaNode}
    (h : SameButSecret node node') : reading texts node = reading texts node' := by
  cases h with
  | same => rfl
  | secret element text text' => rfl

end NexusCua.Windows

namespace NexusCua.Platform

open NexusCua.Foundation NexusCua.Protocol NexusCua.Runtime

theorem SemanticState.take_alike {ν ο : Type} {related : ν → ν → Prop}
    {walk : Walk ν ο String DriverError}
    {published : List (Walk.Emitted ο String) → List DriverElement} {signature : ο → List UInt8}
    (hread : ∀ node node', related node node' → walk.read node = walk.read node')
    (expired : Nat → Bool) {root root' : RoseTree ν} (h : root.Alike related root')
    (state : SemanticState) :
    state.take walk published signature expired (.ok root) =
      state.take walk published signature expired (.ok root') := by
  have hruns := walk.alike_run hread expired h
  simp only [take]
  generalize walk.run expired root = result at hruns ⊢
  generalize walk.run expired root' = result' at hruns ⊢
  cases hruns with
  | error error => rfl
  | ok hsame => simp only [hsame.emitted, hsame.truncation]

/-- Secure text reaches no field of a snapshot of either platform, and nothing that is
kept for later actions. -/
theorem secure_text_hidden (texts : SemanticTexts) (mode : AccessibilityMode)
    (expired : Nat → Bool) (state : SemanticState) {axRoot axRoot' : RoseTree Macos.AxNode}
    (hax : axRoot.Alike Macos.SameButSecret axRoot') {uiaRoot uiaRoot' : RoseTree Windows.UiaNode}
    (huia : uiaRoot.Alike Windows.SameButSecret uiaRoot') (pid : Int) (hwnd : UInt64) :
    Macos.snapshot texts pid mode expired (.ok axRoot) state =
        Macos.snapshot texts pid mode expired (.ok axRoot') state ∧
      Windows.snapshot texts hwnd mode expired (.ok uiaRoot) state =
        Windows.snapshot texts hwnd mode expired (.ok uiaRoot') state :=
  ⟨SemanticState.take_alike (fun _ _ => Macos.SameButSecret.reading_eq texts) expired hax state,
    SemanticState.take_alike (fun _ _ => Windows.SameButSecret.reading_eq texts) expired huia
      state⟩

def axSecret (text : String) : RoseTree Macos.AxNode :=
  let attributes (role : String) : Macos.AxAttributes := ⟨some (.string role), none, none, none,
    none, none, none, none, none, none, none, none, none, none, true⟩
  .node (.ok (attributes "AXRow"))
    [.node (.ok (Macos.secureField (attributes "AXTextField") text)) []]

def uiaSecret (text : String) : RoseTree Windows.UiaNode :=
  let element (kind : Windows.ControlType) : Windows.CachedElement :=
    ⟨kind, none, none, none, none, none, none, none, none, none, none, none, none⟩
  .node (some (element .dataItem)) [.node (some (Windows.passwordField (element .edit) text)) []]

/-- Two passwords of different lengths below a row without a name. -/
theorem secure_text_hidden_passwords :
    Macos.snapshot ⟨fun _ => "", id⟩ 7 .full (fun _ => false) (.ok (axSecret "hunter2")) ⟨0, []⟩ =
        Macos.snapshot ⟨fun _ => "", id⟩ 7 .full (fun _ => false) (.ok (axSecret "")) ⟨0, []⟩ ∧
      Windows.snapshot ⟨fun _ => "", id⟩ 7 .full (fun _ => false) (.ok (uiaSecret "hunter2"))
          ⟨0, []⟩ =
        Windows.snapshot ⟨fun _ => "", id⟩ 7 .full (fun _ => false) (.ok (uiaSecret ""))
          ⟨0, []⟩ :=
  secure_text_hidden _ _ _ _ (.node (.same _) (.cons (.node (.secret _ _ _) .nil) .nil))
    (.node (.same _) (.cons (.node (.secret _ _ _) .nil) .nil)) _ _

end NexusCua.Platform
