import NexusCua.Protocol.Command
import NexusCua.Runtime.Error

/-!
# Validation

The closed checks on manifests, clipboard text and actions.
-/

namespace NexusCua.Runtime

open NexusCua.Protocol

def maxAllowedApplications : Nat := 128

def maxDiscoveryRefBytes : Nat := 256

def maxApplicationAllowlistBytes : Nat := 32 * 1024

def maxActions : Nat := 32

def invalid (message : String) : CuaError :=
  publicError .invalidRequest message false none

def isNormalized (text : String) : Bool := !text.isEmpty && isTrimmed text

def hasDuplicates {α : Type} [DecidableEq α] (values : List α) : Bool :=
  decide ¬values.Nodup

/-! ## Manifests -/

def validateManifest (manifest : CapabilityManifest) (maxTtlSeconds : Nat) :
    Except CuaError Unit :=
  let bytes (reference : DiscoveryRef) : Nat := reference.value.utf8ByteSize
  if manifest.ttlSeconds = 0 ∨ maxTtlSeconds < manifest.ttlSeconds then
    .error (invalid "session ttl is outside the supported range")
  else if (!manifest.allowDisplayCapture && !manifest.allowClipboardRead &&
      !manifest.allowClipboardWrite && manifest.applicationRefs.isEmpty) ∨
      maxAllowedApplications < manifest.applicationRefs.length then
    .error (invalid ("application reference allowlist is empty without display-capture or " ++
      "clipboard authority, or is too large"))
  else if maxApplicationAllowlistBytes < (manifest.applicationRefs.map bytes).sum ∨
      manifest.applicationRefs.any
        (fun reference => decide (maxDiscoveryRefBytes < bytes reference)) then
    .error (invalid "application allowlist is too large")
  else if maxActions < manifest.allowedActions.length then
    .error (invalid "action allowlist is too large")
  else if manifest.applicationRefs.any (fun reference => !isNormalized reference.value) then
    .error (invalid "discovery references must be non-empty and normalized")
  else if hasDuplicates manifest.applicationRefs then
    .error (invalid "application allowlist contains duplicates")
  else if hasDuplicates manifest.allowedActions then
    .error (invalid "action allowlist contains duplicates")
  else if manifest.mode = .readOnly ∧ (!manifest.allowedActions.isEmpty ||
      manifest.allowForegroundInput || manifest.allowClipboardWrite ||
      manifest.restoreForegroundAfterInput) then
    .error (invalid "read-only sessions cannot authorize actions or foreground input")
  else if manifest.restoreForegroundAfterInput && !manifest.allowForegroundInput then
    .error (invalid "foreground restoration requires foreground input authority")
  else if manifest.allowClipboardWrite && !manifest.allowClipboardRead then
    .error (invalid
      "clipboard writes require clipboard-read authority for a fresh change guard")
  else .ok ()

/-! ## Clipboard text -/

def containsNul (text : String) : Bool := text.toList.contains (Char.ofNat 0)

def validateClipboardText (text : SensitiveText) (maxTextBytes : Nat) : Except CuaError Unit :=
  if maxTextBytes < text.value.utf8ByteSize ∨ containsNul text.value then
    .error (invalid "clipboard text is too large or contains an embedded NUL")
  else .ok ()

/-! ## Actions -/

def isAsciiPunctuation (c : Char) : Bool :=
  let n := c.toNat
  (33 ≤ n && n ≤ 47) || (58 ≤ n && n ≤ 64) || (91 ≤ n && n ≤ 96) || (123 ≤ n && n ≤ 126)

def supportedKeys : List String :=
  ["mod", "win", "meta", "command", "control", "alt", "option", "shift", "enter", "return", "tab",
    "space", "backspace", "delete", "escape", "left", "right", "up", "down", "home", "end",
    "page_up", "page_down", "f1", "f2", "f3", "f4", "f5", "f6", "f7", "f8", "f9", "f10", "f11",
    "f12", "a", "b", "c", "d", "e", "f", "g", "h", "i", "j", "k", "l", "m", "n", "o", "p", "q",
    "r", "s", "t", "u", "v", "w", "x", "y", "z", "0", "1", "2", "3", "4", "5", "6", "7", "8", "9"]

def isSupportedKey (key : String) : Bool :=
  (key.utf8ByteSize == 1 && key.toList.all isAsciiPunctuation) ||
    supportedKeys.contains (canonicalKey key)

def validateText (text : String) : Except CuaError Unit :=
  if ActionLimits.default.maxTextBytes < text.utf8ByteSize ∨ containsNul text then
    .error (invalid "text input is too large or contains NUL")
  else .ok ()

def validateScreenshotPoint (point : NormalizedPoint) (mapping : Option ScreenshotMapping) :
    Except CuaError Unit :=
  match mapping with
  | none => .error (invalid "pixel actions require a screenshot in the guarded observation")
  | some mapping =>
      match point.toPixel mapping.pixelSize with
      | none => .error (invalid "point lies outside the guarded screenshot")
      | some _ => .ok ()

/-- A pointer duration up to the limit, with the message of the action that has it. -/
def validateDuration (durationMs : Nat) (message : String) : Except CuaError Unit :=
  if ActionLimits.default.maxPointerDurationMs < durationMs then .error (invalid message)
  else .ok ()

def validateWindowBounds (bounds : ScreenRect) : Except CuaError Unit :=
  let coordinate (value : Float) : Bool :=
    value.isFinite && decide (value.abs ≤ Float.ofNat ActionLimits.default.maxWindowCoordinate)
  let dimension (value : Float) : Bool :=
    value.isFinite && decide (1.0 ≤ value) &&
      decide (value ≤ Float.ofNat ActionLimits.default.maxWindowDimension)
  if coordinate bounds.x && coordinate bounds.y && dimension bounds.width &&
      dimension bounds.height then .ok ()
  else .error (invalid "window bounds are outside the supported range")

def validateAction (action : Action) (mapping : Option ScreenshotMapping) : Except CuaError Unit :=
  match action with
  | .setWindowBounds bounds => validateWindowBounds bounds
  | .clickPoint point _ count _ =>
      if 1 ≤ count ∧ count ≤ ActionLimits.default.maxClickCount then
        validateScreenshotPoint point mapping
      else .error (invalid "click count must be between one and three")
  | .pressPoint point _ durationMs => do
      validateDuration durationMs "pointer hold duration is outside the supported range"
      validateScreenshotPoint point mapping
  | .setValue _ value => validateText value.value
  | .setRangeValue _ value =>
      if !value.isFinite || decide (Float.ofNat ActionLimits.default.maxRangeValue < value.abs) then
        .error (invalid "numeric range value is outside the supported range")
      else .ok ()
  | .typeText text => validateText text.value
  | .pressKeys keys =>
      if keys.isEmpty ∨ ActionLimits.default.maxKeys < keys.length ∨ keys.any (fun key =>
          !isNormalized key || key.toList.any Char.isUpper || !isSupportedKey key) then
        .error (invalid "key chord is empty, too large, unsupported, or not normalized")
      else .ok ()
  | .movePointer point durationMs => do
      validateDuration durationMs "pointer movement duration is outside the supported range"
      validateScreenshotPoint point mapping
  | .scroll point deltaX deltaY =>
      let bounded (delta : Float) : Bool :=
        delta.isFinite && decide (delta.abs ≤ Float.ofNat ActionLimits.default.maxScrollDelta)
      if bounded deltaX && bounded deltaY then validateScreenshotPoint point mapping
      else .error (invalid "scroll delta is outside the supported range")
  | .drag start finish durationMs =>
      if durationMs = 0 ∨ ActionLimits.default.maxPointerDurationMs < durationMs then
        .error (invalid "drag duration is outside the supported range")
      else do
        validateScreenshotPoint start mapping
        validateScreenshotPoint finish mapping
  | .focusWindow => .ok ()
  | .setWindowMinimized _ => .ok ()
  | .terminateApplication => .ok ()
  | .focusElement _ => .ok ()
  | .invokeElement _ => .ok ()
  | .toggleElement _ => .ok ()
  | .selectElement _ => .ok ()
  | .setExpanded _ _ => .ok ()

end NexusCua.Runtime
