import Mathlib

/-!
# Identifiers and public errors

The opaque identifiers and the error envelope of the wire protocol.  An
identifier is a wrapper around its wire text; two identifiers are equal exactly
when their texts are.
-/

namespace NexusCua.Protocol

/-! ## Opaque identifiers -/

structure RequestId where
  value : String
  deriving DecidableEq, Repr

structure SessionId where
  value : String
  deriving DecidableEq, Repr

structure AppRef where
  value : String
  deriving DecidableEq, Repr

structure DiscoveryRef where
  value : String
  deriving DecidableEq, Repr

structure LaunchRef where
  value : String
  deriving DecidableEq, Repr

structure WindowRef where
  value : String
  deriving DecidableEq, Repr

structure DisplayRef where
  value : String
  deriving DecidableEq, Repr

structure ClipboardRef where
  value : String
  deriving DecidableEq, Repr

structure ObservationId where
  value : String
  deriving DecidableEq, Repr

structure ElementRef where
  value : String
  deriving DecidableEq, Repr

structure ArtifactRef where
  value : String
  deriving DecidableEq, Repr

structure AuthorizationToken where
  value : String
  deriving DecidableEq, Repr

structure SensitiveText where
  value : String
  deriving DecidableEq, Repr

/-! ## Fresh identifiers -/

/-- Random identifiers in the order in which they are drawn; none is drawn twice. -/
structure UuidSource where
  simple : Nat → String
  injective : Function.Injective simple

namespace UuidSource

/-- The text of the `n`-th identifier drawn, under the name of its kind. -/
def issue (uuids : UuidSource) (kind : String) (n : Nat) : String :=
  kind ++ "_" ++ uuids.simple n

@[simp] theorem issue_inj (uuids : UuidSource) (kind : String) {m n : Nat} :
    uuids.issue kind m = uuids.issue kind n ↔ m = n := by
  rw [issue, issue, String.append_right_inj]
  exact uuids.injective.eq_iff

/-- A source that draws `n` tally marks as its `n`-th identifier. -/
def tally : UuidSource where
  simple n := String.ofList (List.replicate n '0')
  injective m n h := by simpa using congrArg String.length h

end UuidSource

/-! ## Durations, in nanoseconds -/

def second : Nat := 1000000000

def millisecond : Nat := 1000000

/-! ## Wire text -/

/-- The Unicode white space that `str::trim` removes. -/
def isWhitespace (c : Char) : Bool :=
  let n := c.toNat
  (9 ≤ n && n ≤ 13) || n == 0x20 || n == 0x85 || n == 0xA0 || n == 0x1680 ||
    (0x2000 ≤ n && n ≤ 0x200A) || n == 0x2028 || n == 0x2029 || n == 0x202F || n == 0x205F ||
    n == 0x3000

/-- `text.trim() == text` -/
def isTrimmed (text : String) : Bool :=
  !(text.toList.head?.any isWhitespace) && !(text.toList.getLast?.any isWhitespace)

/-! ## Errors -/

inductive ErrorCode where
  | userActive
  | protocolMismatch
  | unauthorized
  | invalidRequest
  | busy
  | deadlineExceeded
  | sessionUnavailable
  | staleDiscovery
  | capabilityDenied
  | referenceNotFound
  | staleObservation
  | staleClipboard
  | permissionRequired
  | unsupported
  | foregroundRequired
  | targetUnavailable
  | targetUnresponsive
  | driverFailure
  | internal
  deriving DecidableEq, Repr

inductive MutationStatus where
  | notApplicable
  | notDispatched
  | indeterminate
  deriving DecidableEq, Repr

structure CuaError where
  code : ErrorCode
  message : String
  retryable : Bool
  recoveryAction : Option String
  mutationStatus : MutationStatus
  deriving DecidableEq, Repr

namespace CuaError

def withMutationStatus (error : CuaError) (status : MutationStatus) : CuaError :=
  { error with mutationStatus := status }

end CuaError

def protocolVersion : String := "nexus.cua.v1"

end NexusCua.Protocol
