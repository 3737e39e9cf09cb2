import NexusCua.Foundation.Text
import NexusCua.Foundation.Traversal
import NexusCua.Runtime.Driver
import NexusCua.Runtime.Error

/-!
# Semantic snapshots

What the accessibility actors of the two platforms share.  A snapshot is a bounded
breadth-first traversal of the accessibility tree of a window; the emitted nodes
become the elements of the snapshot, and the native elements behind them are kept
under their keys for later actions.

A native element is named by its path below the root of the window.
-/

namespace NexusCua.Platform

open NexusCua.Foundation NexusCua.Protocol NexusCua.Runtime

def maxFieldBytes : Nat := 512

def snapshotCacheLimit : Nat := 32

structure SnapshotBudget where
  maxNodes : Nat
  maxDepth : Nat
  maxBytes : Nat
  deriving DecidableEq, Repr

structure SemanticSnapshot where
  elements : List DriverElement
  complete : Bool
  truncation : Option ObservationTruncation
  deriving DecidableEq, Repr

structure StoredElement where
  element : List Nat
  signature : List UInt8
  deriving DecidableEq, Repr

structure StoredSnapshot where
  elements : List (String × StoredElement)
  deriving DecidableEq, Repr

structure SemanticState where
  nextSnapshot : UInt64
  snapshots : List StoredSnapshot
  deriving DecidableEq, Repr

/-! ## Texts -/

def byteLength (text : String) : Nat := (utf8 text.toList).length

def takeBytes : Nat → List Char → List Char
  | _, [] => []
  | budget, c :: rest =>
      if c.utf8Size ≤ budget then c :: takeBytes (budget - c.utf8Size) rest else []

def boundedString (text : String) : String :=
  if byteLength text ≤ maxFieldBytes then text
  else String.ofList (takeBytes maxFieldBytes text.toList)

/-- `display` writes a number as the standard library of the source does, and
`sha256` is the digest. -/
structure SemanticTexts where
  display : Float → String
  sha256 : List UInt8 → List UInt8

/-- No number is written, and a digest is the bytes themselves. -/
def plainTexts : SemanticTexts := ⟨fun _ => "", id⟩

def bigEndian (bits : UInt64) : List UInt8 :=
  (List.range 8).map fun index => (bits >>> (56 - 8 * index).toUInt64).toUInt8

def boundsBytes (bounds : Option ScreenRect) : List UInt8 :=
  match bounds with
  | none => []
  | some bounds =>
      bigEndian bounds.x.toBits ++ bigEndian bounds.y.toBits ++ bigEndian bounds.width.toBits ++
        bigEndian bounds.height.toBits

def rangeBytes (range : Option AccessibilityRangeValue) : List UInt8 :=
  match range with
  | none => []
  | some range =>
      bigEndian range.value.toBits ++ bigEndian range.minimum.toBits ++
        bigEndian range.maximum.toBits ++ [if range.readOnly then 1 else 0]

/-- The bytes whose digest identifies an element; `state` is what the platform adds
about its state. -/
def signatureBytes (role name : String) (value : Option String)
    (range : Option AccessibilityRangeValue) (state : UInt8) (bounds : Option ScreenRect) :
    List UInt8 :=
  let valueBytes :=
    match value with
    | none => []
    | some value => 0 :: utf8 value.toList
  utf8 role.toList ++ [0] ++ utf8 name.toList ++ valueBytes ++ rangeBytes range ++ [state] ++
    boundsBytes bounds

def validRange (value minimum maximum : Float) : Bool :=
  value.isFinite && minimum.isFinite && maximum.isFinite && !(maximum < minimum) &&
    !(value < minimum) && !(maximum < value)

def finitePositive (value : Option Float) : Option Float :=
  value.filter fun value => value.isFinite && decide (0 < value)

/-! ## Elements -/

def elementBytes (element : DriverElement) : Nat :=
  byteLength element.role + byteLength element.name + (element.value.map byteLength).getD 0

def truncationReason : Cut → TruncationReason
  | .deadline => .deadline
  | .nodes => .nodeLimit
  | .depth => .depthLimit
  | .bytes => .byteLimit
  | .failure => .providerFailure

def elementKey (snapshotKey : String) (index : Nat) : String := snapshotKey ++ ":" ++ toString index

def finishSnapshot (elements : List DriverElement) (truncation : Option Cut) : SemanticSnapshot :=
  let truncation := truncation.map fun cut =>
    ⟨truncationReason cut, min elements.length (2 ^ 32 - 1)⟩
  ⟨elements, truncation.isNone, truncation⟩

def SemanticState.store (state : SemanticState) (snapshot : StoredSnapshot) : SemanticState where
  nextSnapshot := state.nextSnapshot + 1
  snapshots :=
    let snapshots := state.snapshots ++ [snapshot]
    snapshots.drop (snapshots.length - snapshotCacheLimit)

/-- The walk of a platform as a snapshot.  `published` gives the elements for the nodes, and
`signature` what a node is compared by before an action. -/
def SemanticState.take {ν ο : Type} (walk : Walk ν ο String DriverError)
    (published : List (Walk.Emitted ο String) → List DriverElement) (signature : ο → List UInt8)
    (expired : Nat → Bool) (window : Except DriverError (RoseTree ν)) (state : SemanticState) :
    Except DriverError SemanticSnapshot × SemanticState :=
  match window with
  | .error error => (.error error, state)
  | .ok root =>
      match walk.run expired root with
      | .error error => (.error error, { state with nextSnapshot := state.nextSnapshot + 1 })
      | .ok progress =>
          (.ok (finishSnapshot (published progress.emitted) progress.truncation),
            state.store ⟨progress.emitted.map fun node =>
              (node.key, ⟨node.path, signature node.values⟩)⟩)

/-- The element that an action finds under a key, in the latest snapshot that has it. -/
def SemanticState.find (state : SemanticState) (elementKey : String) : Option StoredElement :=
  state.snapshots.reverse.findSome? fun snapshot => snapshot.elements.lookup elementKey

/-! ## Actions -/

inductive SemanticAction where
  | focus
  | invoke
  | setValue (value : String)
  | setRangeValue (value : Float)
  | toggle
  | select
  | setExpanded (expanded : Bool)
  deriving DecidableEq, Repr

end NexusCua.Platform
