import NexusCua.Foundation.Async
import NexusCua.Runtime.Commands

/-!
# The authority of the adapter

The ceiling that a host fixes for one MCP process, and the grant of an
authenticated provider that is resolved into it.
-/

namespace NexusCua.Mcp

open NexusCua.Foundation NexusCua.Protocol

def authoritySchemaVersion : Nat := 1

def providerGrantSchemaVersion : Nat := 1

def maxApplications : Nat := 32

def maxApplicationIdBytes : Nat := 512

def maxActions : Nat := 32

def maxTtlSeconds : Nat := 60 * 60

def maxBindingBytes : Nat := 256

def maxRequestNamespaceBytes : Nat := 64

def maxClockSkewMs : Nat := 30000

def minRemainingGrantMs : Nat := 1000

inductive AuthorityError where
  | invalid (message : String)
  | invalidGrant (message : String)
  deriving DecidableEq, Repr

inductive AuthorityProviderError where
  | unavailable
  | denied
  | authenticationFailed
  | invalidResponse
  deriving DecidableEq, Repr

/-! ## Policies -/

structure AuthorityPolicy where
  schemaVersion : Nat
  mode : PermissionMode
  applicationIds : List String
  allowedActions : List ActionKind
  allowForegroundInput : Bool
  restoreForegroundAfterInput : Bool
  allowDisplayCapture : Bool
  allowClipboardRead : Bool
  allowClipboardWrite : Bool
  allowApplicationLaunch : Bool
  allowApplicationLaunchActivation : Bool
  ttlSeconds : Nat
  deriving DecidableEq, Repr

def refuseWhen (refused : Bool) (error : AuthorityError) : Except AuthorityError Unit :=
  if refused then .error error else .ok ()

namespace AuthorityPolicy

variable (policy : AuthorityPolicy)

def needsNoApplication : Bool :=
  policy.allowDisplayCapture || policy.allowClipboardRead || policy.allowClipboardWrite

def validate : Except AuthorityError Unit := do
  refuseWhen (policy.schemaVersion != authoritySchemaVersion)
    (.invalid "unsupported authority schema_version")
  refuseWhen ((!policy.needsNoApplication && policy.applicationIds.isEmpty) ||
      decide (maxApplications < policy.applicationIds.length))
    (.invalid ("application_ids must contain 1 to 32 identities unless display or " ++
      "clipboard-only access is authorized"))
  refuseWhen (policy.applicationIds.any fun applicationId =>
      applicationId.isEmpty || !isTrimmed applicationId ||
        decide (maxApplicationIdBytes < applicationId.utf8ByteSize))
    (.invalid "application_ids must be normalized non-empty values of at most 512 bytes")
  refuseWhen (!decide policy.applicationIds.Nodup)
    (.invalid "application_ids contains duplicates")
  refuseWhen (decide (maxActions < policy.allowedActions.length))
    (.invalid "allowed_actions exceeds the supported bound")
  refuseWhen (!decide policy.allowedActions.Nodup)
    (.invalid "allowed_actions contains duplicates")
  refuseWhen (policy.ttlSeconds == 0 || decide (maxTtlSeconds < policy.ttlSeconds))
    (.invalid "ttl_seconds must be between 1 and 3600")
  refuseWhen (policy.mode == .readOnly && (!policy.allowedActions.isEmpty ||
      policy.allowForegroundInput || policy.restoreForegroundAfterInput ||
      policy.allowClipboardWrite || policy.allowApplicationLaunch))
    (.invalid "read_only authority cannot contain actions or foreground input")
  refuseWhen (policy.allowClipboardWrite && !policy.allowClipboardRead)
    (.invalid "clipboard write authority requires clipboard read authority")
  refuseWhen (policy.allowApplicationLaunch && policy.applicationIds.isEmpty)
    (.invalid "application launch authority requires at least one application identity")
  refuseWhen (policy.allowApplicationLaunchActivation && !policy.allowApplicationLaunch)
    (.invalid "launch activation requires application launch authority")
  refuseWhen (policy.restoreForegroundAfterInput && !policy.allowForegroundInput)
    (.invalid "foreground restoration requires foreground input authority")

end AuthorityPolicy

/-! ## Grants -/

structure AuthorityChallenge where
  registrationId : String
  adapterNonce : String
  runtimeEpoch : String
  workerEpoch : Option String
  deriving DecidableEq, Repr

structure AuthorityGrant where
  schemaVersion : Nat
  providerId : String
  registrationId : String
  adapterNonce : String
  runtimeEpoch : String
  workerEpoch : Option String
  principal : String
  workScope : String
  requestNamespace : String
  issuedAtUnixMs : Nat
  expiresAtUnixMs : Nat
  authority : AuthorityPolicy
  deriving DecidableEq, Repr

structure AuthorityGrantMetadata where
  providerId : String
  registrationId : String
  principal : String
  workScope : String
  requestNamespace : String
  runtimeEpoch : String
  workerEpoch : Option String
  expiresAtUnixMs : Nat
  deriving DecidableEq, Repr

/-- `providerClient` says whether the authenticated provider is bound to the adapter. -/
structure AuthorityContext where
  policy : AuthorityPolicy
  provider : Option AuthorityGrantMetadata
  providerClient : Bool
  deriving DecidableEq, Repr

def validateBinding (value field : String) : Except AuthorityError Unit :=
  refuseWhen (value.isEmpty || decide (maxBindingBytes < value.utf8ByteSize) ||
      !isTrimmed value || value.toList.any Runtime.RuntimeService.isControl)
    (.invalidGrant (field ++ " is empty, unnormalized, or exceeds the bounded size"))

def validateRequestNamespace (value : String) : Except AuthorityError Unit :=
  refuseWhen (decide (value.utf8ByteSize < 16) ||
      decide (maxRequestNamespaceBytes < value.utf8ByteSize) ||
      !value.toList.all fun c => c.isAlphanum || c == '_' || c == '-')
    (.invalidGrant "request_namespace must be 16 to 64 normalized ASCII bytes")

namespace AuthorityGrant

variable (grant : AuthorityGrant)

def metadata : AuthorityGrantMetadata where
  providerId := grant.providerId
  registrationId := grant.registrationId
  principal := grant.principal
  workScope := grant.workScope
  requestNamespace := grant.requestNamespace
  runtimeEpoch := grant.runtimeEpoch
  workerEpoch := grant.workerEpoch
  expiresAtUnixMs := grant.expiresAtUnixMs

def matchesChallenge (challenge : AuthorityChallenge) : Bool :=
  grant.registrationId == challenge.registrationId &&
    grant.adapterNonce == challenge.adapterNonce &&
    grant.runtimeEpoch == challenge.runtimeEpoch && grant.workerEpoch == challenge.workerEpoch

def lifetimeRefused (nowUnixMs : Nat) : Bool :=
  decide (min (nowUnixMs + maxClockSkewMs) (2 ^ 64 - 1) < grant.issuedAtUnixMs) ||
    decide (grant.expiresAtUnixMs ≤ grant.issuedAtUnixMs) ||
    decide (maxTtlSeconds * 1000 < grant.expiresAtUnixMs - grant.issuedAtUnixMs) ||
    decide (grant.expiresAtUnixMs - nowUnixMs < minRemainingGrantMs)

def remainingSeconds (nowUnixMs : Nat) : Nat :=
  let seconds := (grant.expiresAtUnixMs - nowUnixMs) / 1000
  min (if seconds < 2 ^ 32 then seconds else maxTtlSeconds) maxTtlSeconds

def resolve (challenge : AuthorityChallenge) (nowUnixMs : Nat) :
    Except AuthorityError AuthorityContext := do
  refuseWhen (grant.schemaVersion != providerGrantSchemaVersion)
    (.invalidGrant "unsupported provider grant schema_version")
  validateBinding grant.providerId "provider_id"
  validateBinding grant.principal "principal"
  validateBinding grant.workScope "work_scope"
  validateRequestNamespace grant.requestNamespace
  refuseWhen (!grant.matchesChallenge challenge)
    (.invalidGrant "provider grant does not match the adapter challenge")
  refuseWhen (grant.lifetimeRefused nowUnixMs)
    (.invalidGrant "provider grant timestamps are expired or outside the bounded lifetime")
  grant.authority.validate
  let ttlSeconds := min grant.authority.ttlSeconds (grant.remainingSeconds nowUnixMs)
  refuseWhen (ttlSeconds == 0) (.invalidGrant "provider grant has no usable session lifetime")
  .ok ⟨{ grant.authority with ttlSeconds := ttlSeconds }, some grant.metadata, false⟩

end AuthorityGrant

end NexusCua.Mcp
