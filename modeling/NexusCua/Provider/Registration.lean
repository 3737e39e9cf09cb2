import NexusCua.Mcp.Authority
import NexusCua.Provider.Vault

/-!
# Host registrations

What a trusted installation writes down about a host: the request, the time and
a tag over the compact JSON of both.  The file holds the indented JSON of payload
and tag.  Loading checks the size of the file, decodes it, checks the payload
again and recomputes the tag from the compact JSON and the stored secret.
-/

namespace NexusCua.Provider

open NexusCua.Foundation NexusCua.Protocol NexusCua.Mcp

def registrationSchemaVersion : Nat := 1

def maxRegistrationBytes : Nat := 64 * 1024

def minRegistrationIdBytes : Nat := 16

def maxRegistrationIdBytes : Nat := 64

def maxRegistrations : Nat := 128

def maxStateRootEntries : Nat := 512

/-! ## Requests and payloads -/

inductive McpRegisteredTransport where
  | stdio
  | streamableHttp
  deriving DecidableEq, Repr

inductive RegisteredAdapterProfile where
  | mcp (transport : McpRegisteredTransport) (toolProfile : String)
  | cli
  deriving DecidableEq, Repr

inductive HostSignatureIdentity where
  | macos (signingTeamId designatedRequirement : Option String)
  | windows (publisher : Option String) (signatureStatus : SignatureStatus)
  deriving DecidableEq, Repr

structure HostExecutableIdentity where
  pathSha256 : String
  executableSha256 : String
  signature : HostSignatureIdentity
  deriving DecidableEq, Repr

structure RegistrationRequest where
  registrationId : String
  providerId : String
  productVersion : String
  adapterProfile : RegisteredAdapterProfile
  hostIdentity : HostExecutableIdentity
  principal : String
  workScope : String
  authority : AuthorityPolicy
  deriving DecidableEq, Repr

structure RegistrationPayload where
  schemaVersion : Nat
  installedAtUnixMs : UInt64
  request : RegistrationRequest
  deriving DecidableEq, Repr

structure AuthenticatedRegistration where
  payload : RegistrationPayload
  macSha256 : String
  deriving DecidableEq, Repr

structure RegistrationSummary where
  registrationId : String
  providerId : String
  productVersion : String
  adapterProfile : RegisteredAdapterProfile
  installedAtUnixMs : UInt64
  authorityTtlSeconds : Nat
  deriving DecidableEq, Repr

def summary (payload : RegistrationPayload) : RegistrationSummary where
  registrationId := payload.request.registrationId
  providerId := payload.request.providerId
  productVersion := payload.request.productVersion
  adapterProfile := payload.request.adapterProfile
  installedAtUnixMs := payload.installedAtUnixMs
  authorityTtlSeconds := payload.request.authority.ttlSeconds

/-! ## Validation -/

def failWhen (refused : Bool) (error : RegistrationError) : Except RegistrationError Unit :=
  if refused then .error error else .ok ()

theorem failWhen_eq_ok {refused : Bool} {error : RegistrationError} {u : Unit} :
    failWhen refused error = .ok u ↔ refused = false := by
  cases refused <;> simp [failWhen]

def invalidWhen (refused : Bool) (text : String) : Except RegistrationError Unit :=
  failWhen refused (.invalid text)

def isIdCharacter (c : Char) : Bool := c.isAlphanum || c == '_' || c == '-'

def validateRegistrationId (value : String) : Except RegistrationError Unit :=
  invalidWhen (decide (value.utf8ByteSize < minRegistrationIdBytes) ||
      decide (maxRegistrationIdBytes < value.utf8ByteSize) || !value.toList.all isIdCharacter)
    "registration_id must be 16 to 64 normalized ASCII bytes"

def validateRequestBinding (value field : String) : Except RegistrationError Unit :=
  invalidWhen (value.isEmpty || decide (maxBindingBytes < value.utf8ByteSize) ||
      !isTrimmed value || value.toList.any Runtime.RuntimeService.isControl)
    (field ++ " is empty, unnormalized, or exceeds the bounded size")

def validateDigest (value field : String) : Except RegistrationError Unit :=
  invalidWhen (value.utf8ByteSize != 64 || !value.toList.all fun c => (Json.hexValue c).isSome)
    (field ++ " must be one SHA-256 hex digest")

def authorityErrorText : AuthorityError → String
  | .invalid message => "invalid authority policy: " ++ message
  | .invalidGrant message => "invalid authority provider grant: " ++ message

def validateToolProfile : RegisteredAdapterProfile → Except RegistrationError Unit
  | .mcp _ toolProfile =>
      invalidWhen (!(toolProfile == "full" || toolProfile == "vision"))
        "MCP tool_profile must be full or vision"
  | .cli => .ok ()

def validateAuthority (authority : AuthorityPolicy) : Except RegistrationError Unit :=
  match authority.validate with
  | .ok () => .ok ()
  | .error error => .error (.invalid (authorityErrorText error))

def RegistrationRequest.validate (request : RegistrationRequest) :
    Except RegistrationError Unit := do
  validateRegistrationId request.registrationId
  validateRequestBinding request.providerId "provider_id"
  validateRequestBinding request.productVersion "product_version"
  validateRequestBinding request.principal "principal"
  validateRequestBinding request.workScope "work_scope"
  validateToolProfile request.adapterProfile
  validateDigest request.hostIdentity.pathSha256 "host path digest"
  validateDigest request.hostIdentity.executableSha256 "host executable digest"
  validateAuthority request.authority

/-! ## JSON -/

section Writing

def optionJson : Option String → Json
  | none => .null
  | some value => .str value

def transportName : McpRegisteredTransport → String
  | .stdio => "stdio"
  | .streamableHttp => "streamable_http"

def signatureStatusName : SignatureStatus → String
  | .verified => "verified"
  | .invalid => "invalid"
  | .unsigned => "unsigned"
  | .unknown => "unknown"

def modeName : PermissionMode → String
  | .readOnly => "read_only"
  | .bounded => "bounded"

def actionName : ActionKind → String
  | .focusWindow => "focus_window"
  | .setWindowBounds => "set_window_bounds"
  | .setWindowMinimized => "set_window_minimized"
  | .terminateApplication => "terminate_application"
  | .focusElement => "focus_element"
  | .invokeElement => "invoke_element"
  | .clickPoint => "click_point"
  | .pressPoint => "press_point"
  | .setValue => "set_value"
  | .setRangeValue => "set_range_value"
  | .toggleElement => "toggle_element"
  | .selectElement => "select_element"
  | .setExpanded => "set_expanded"
  | .movePointer => "move_pointer"
  | .typeText => "type_text"
  | .pressKeys => "press_keys"
  | .scroll => "scroll"
  | .drag => "drag"

def adapterProfileJson : RegisteredAdapterProfile → Json
  | .mcp transport toolProfile =>
      .obj [("binding", .str "mcp"), ("transport", .str (transportName transport)),
        ("tool_profile", .str toolProfile)]
  | .cli => .obj [("binding", .str "cli")]

def signatureJson : HostSignatureIdentity → Json
  | .macos signingTeamId designatedRequirement =>
      .obj [("platform", .str "macos"), ("signing_team_id", optionJson signingTeamId),
        ("designated_requirement", optionJson designatedRequirement)]
  | .windows publisher signatureStatus =>
      .obj [("platform", .str "windows"), ("publisher", optionJson publisher),
        ("signature_status", .str (signatureStatusName signatureStatus))]

def hostIdentityJson (identity : HostExecutableIdentity) : Json :=
  .obj [("path_sha256", .str identity.pathSha256),
    ("executable_sha256", .str identity.executableSha256),
    ("signature", signatureJson identity.signature)]

def authorityJson (authority : AuthorityPolicy) : Json :=
  .obj [("schema_version", .num authority.schemaVersion),
    ("mode", .str (modeName authority.mode)),
    ("application_ids", .arr (authority.applicationIds.map .str)),
    ("allowed_actions", .arr (authority.allowedActions.map fun action => .str (actionName action))),
    ("allow_foreground_input", .bool authority.allowForegroundInput),
    ("restore_foreground_after_input", .bool authority.restoreForegroundAfterInput),
    ("allow_display_capture", .bool authority.allowDisplayCapture),
    ("allow_clipboard_read", .bool authority.allowClipboardRead),
    ("allow_clipboard_write", .bool authority.allowClipboardWrite),
    ("allow_application_launch", .bool authority.allowApplicationLaunch),
    ("allow_application_launch_activation", .bool authority.allowApplicationLaunchActivation),
    ("ttl_seconds", .num authority.ttlSeconds)]

def RegistrationRequest.json (request : RegistrationRequest) : Json :=
  .obj [("registration_id", .str request.registrationId),
    ("provider_id", .str request.providerId),
    ("product_version", .str request.productVersion),
    ("adapter_profile", adapterProfileJson request.adapterProfile),
    ("host_identity", hostIdentityJson request.hostIdentity),
    ("principal", .str request.principal),
    ("work_scope", .str request.workScope),
    ("authority", authorityJson request.authority)]

def RegistrationPayload.json (payload : RegistrationPayload) : Json :=
  .obj [("schema_version", .num payload.schemaVersion),
    ("installed_at_unix_ms", .num payload.installedAtUnixMs.toNat),
    ("request", payload.request.json)]

def AuthenticatedRegistration.json (registration : AuthenticatedRegistration) : Json :=
  .obj [("payload", registration.payload.json), ("mac_sha256", .str registration.macSha256)]

/-- `serde_json::to_vec` of the payload. -/
def RegistrationPayload.bytes (payload : RegistrationPayload) : List UInt8 :=
  utf8 payload.json.compact

def AuthenticatedRegistration.text (registration : AuthenticatedRegistration) : List Char :=
  registration.json.pretty ++ ['\n']

end Writing

/-! ## Reading the JSON back -/

section Reading

def ofOptionJson : Json → Option (Option String)
  | .null => some none
  | .str value => some (some value)
  | _ => none

def transports : List McpRegisteredTransport := [.stdio, .streamableHttp]

def signatureStatuses : List SignatureStatus := [.verified, .invalid, .unsigned, .unknown]

def modes : List PermissionMode := [.readOnly, .bounded]

def actionKinds : List ActionKind :=
  [.focusWindow, .setWindowBounds, .setWindowMinimized, .terminateApplication, .focusElement,
    .invokeElement, .clickPoint, .pressPoint, .setValue, .setRangeValue, .toggleElement,
    .selectElement, .setExpanded, .movePointer, .typeText, .pressKeys, .scroll, .drag]

def ofName {α : Type} (variants : List α) (name : α → String) (text : String) : Option α :=
  variants.find? fun variant => name variant == text

def ofAdapterProfileJson : Json → Option RegisteredAdapterProfile
  | .obj [("binding", .str "mcp"), ("transport", .str transport),
      ("tool_profile", .str toolProfile)] => do
      let transport ← ofName transports transportName transport
      some (.mcp transport toolProfile)
  | .obj [("binding", .str "cli")] => some .cli
  | _ => none

def ofSignatureJson : Json → Option HostSignatureIdentity
  | .obj [("platform", .str "macos"), ("signing_team_id", signingTeamId),
      ("designated_requirement", designatedRequirement)] => do
      let signingTeamId ← ofOptionJson signingTeamId
      let designatedRequirement ← ofOptionJson designatedRequirement
      some (.macos signingTeamId designatedRequirement)
  | .obj [("platform", .str "windows"), ("publisher", publisher),
      ("signature_status", .str status)] => do
      let publisher ← ofOptionJson publisher
      let status ← ofName signatureStatuses signatureStatusName status
      some (.windows publisher status)
  | _ => none

def ofHostIdentityJson : Json → Option HostExecutableIdentity
  | .obj [("path_sha256", .str pathSha256), ("executable_sha256", .str executableSha256),
      ("signature", signature)] => do
      let signature ← ofSignatureJson signature
      some ⟨pathSha256, executableSha256, signature⟩
  | _ => none

def ofStringJson : Json → Option String
  | .str value => some value
  | _ => none

def ofActionJson : Json → Option ActionKind
  | .str name => ofName actionKinds actionName name
  | _ => none

def ofAuthorityJson : Json → Option AuthorityPolicy
  | .obj [("schema_version", .num schemaVersion), ("mode", .str mode),
      ("application_ids", .arr applicationIds), ("allowed_actions", .arr allowedActions),
      ("allow_foreground_input", .bool allowForegroundInput),
      ("restore_foreground_after_input", .bool restoreForegroundAfterInput),
      ("allow_display_capture", .bool allowDisplayCapture),
      ("allow_clipboard_read", .bool allowClipboardRead),
      ("allow_clipboard_write", .bool allowClipboardWrite),
      ("allow_application_launch", .bool allowApplicationLaunch),
      ("allow_application_launch_activation", .bool allowApplicationLaunchActivation),
      ("ttl_seconds", .num ttlSeconds)] => do
      let mode ← ofName modes modeName mode
      let applicationIds ← applicationIds.mapM ofStringJson
      let allowedActions ← allowedActions.mapM ofActionJson
      some ⟨schemaVersion, mode, applicationIds, allowedActions, allowForegroundInput,
        restoreForegroundAfterInput, allowDisplayCapture, allowClipboardRead, allowClipboardWrite,
        allowApplicationLaunch, allowApplicationLaunchActivation, ttlSeconds⟩
  | _ => none

def RegistrationRequest.ofJson : Json → Option RegistrationRequest
  | .obj [("registration_id", .str registrationId), ("provider_id", .str providerId),
      ("product_version", .str productVersion), ("adapter_profile", adapterProfile),
      ("host_identity", hostIdentity), ("principal", .str principal),
      ("work_scope", .str workScope), ("authority", authority)] => do
      let adapterProfile ← ofAdapterProfileJson adapterProfile
      let hostIdentity ← ofHostIdentityJson hostIdentity
      let authority ← ofAuthorityJson authority
      some ⟨registrationId, providerId, productVersion, adapterProfile, hostIdentity, principal,
        workScope, authority⟩
  | _ => none

def RegistrationPayload.ofJson : Json → Option RegistrationPayload
  | .obj [("schema_version", .num schemaVersion), ("installed_at_unix_ms", .num installedAt),
      ("request", request)] => do
      let request ← RegistrationRequest.ofJson request
      if installedAt < 2 ^ 64 then some ⟨schemaVersion, UInt64.ofNat installedAt, request⟩ else none
  | _ => none

def AuthenticatedRegistration.ofJson : Json → Option AuthenticatedRegistration
  | .obj [("payload", payload), ("mac_sha256", .str macSha256)] => do
      let payload ← RegistrationPayload.ofJson payload
      some ⟨payload, macSha256⟩
  | _ => none

theorem ofOptionJson_optionJson (value : Option String) :
    ofOptionJson (optionJson value) = some value := by
  cases value <;> rfl

theorem ofName_transportName : ∀ transport,
    ofName transports transportName (transportName transport) = some transport := by
  intro transport
  cases transport <;> decide

theorem ofName_signatureStatusName : ∀ status,
    ofName signatureStatuses signatureStatusName (signatureStatusName status) = some status := by
  intro status
  cases status <;> decide

theorem ofName_modeName : ∀ mode, ofName modes modeName (modeName mode) = some mode := by
  intro mode
  cases mode <;> decide

theorem ofName_actionName : ∀ action,
    ofName actionKinds actionName (actionName action) = some action := by
  intro action
  cases action <;> decide

theorem mapM_map_some {α β γ : Type} {f : α → β} {g : β → Option γ} {h : α → γ}
    (hg : ∀ a, g (f a) = some (h a)) (l : List α) : (l.map f).mapM g = some (l.map h) := by
  induction l with
  | nil => rfl
  | cons a l ih => simp [List.mapM_cons, hg, ih]

theorem ofAdapterProfileJson_json (profile : RegisteredAdapterProfile) :
    ofAdapterProfileJson (adapterProfileJson profile) = some profile := by
  cases profile with
  | mcp transport toolProfile =>
    simp [adapterProfileJson, ofAdapterProfileJson, ofName_transportName]
  | cli => simp [adapterProfileJson, ofAdapterProfileJson]

theorem ofSignatureJson_json (signature : HostSignatureIdentity) :
    ofSignatureJson (signatureJson signature) = some signature := by
  cases signature with
  | macos signingTeamId designatedRequirement =>
    simp [signatureJson, ofSignatureJson, ofOptionJson_optionJson]
  | windows publisher status =>
    simp [signatureJson, ofSignatureJson, ofOptionJson_optionJson, ofName_signatureStatusName]

theorem ofHostIdentityJson_json (identity : HostExecutableIdentity) :
    ofHostIdentityJson (hostIdentityJson identity) = some identity := by
  simp [hostIdentityJson, ofHostIdentityJson, ofSignatureJson_json]

theorem ofAuthorityJson_json (authority : AuthorityPolicy) :
    ofAuthorityJson (authorityJson authority) = some authority := by
  have hids := mapM_map_some (g := ofStringJson) (f := Json.str) (h := id) (fun _ => rfl)
    authority.applicationIds
  have hactions := mapM_map_some (f := fun action => Json.str (actionName action))
    (g := ofActionJson) (h := id) ofName_actionName authority.allowedActions
  simp only [List.map_id] at hids hactions
  simp [authorityJson, ofAuthorityJson, ofName_modeName, hids, hactions]

theorem RegistrationRequest.ofJson_json (request : RegistrationRequest) :
    RegistrationRequest.ofJson request.json = some request := by
  simp [RegistrationRequest.json, RegistrationRequest.ofJson, ofAdapterProfileJson_json,
    ofHostIdentityJson_json, ofAuthorityJson_json]

theorem RegistrationPayload.ofJson_json (payload : RegistrationPayload) :
    RegistrationPayload.ofJson payload.json = some payload := by
  have hlt : payload.installedAtUnixMs.toNat < 2 ^ 64 := payload.installedAtUnixMs.toNat_lt
  simp only [RegistrationPayload.json, RegistrationPayload.ofJson, RegistrationRequest.ofJson_json,
    Option.bind_eq_bind, Option.bind_some, if_pos hlt, UInt64.ofNat_toNat]

theorem AuthenticatedRegistration.ofJson_json (registration : AuthenticatedRegistration) :
    AuthenticatedRegistration.ofJson registration.json = some registration := by
  simp [AuthenticatedRegistration.json, AuthenticatedRegistration.ofJson,
    RegistrationPayload.ofJson_json]

theorem RegistrationPayload.bytes_injective : Function.Injective RegistrationPayload.bytes := by
  intro payload payload' h
  have hjson : payload.json = payload'.json := Json.print_injective false 0 (utf8_injective h)
  have hread := congrArg RegistrationPayload.ofJson hjson
  simpa [RegistrationPayload.ofJson_json] using hread

end Reading

/-! ## The store -/

structure Sha256 where
  bytes : List UInt8
  length_bytes : bytes.length = 32
  deriving Repr

instance : DecidableEq Sha256 := fun a b =>
  decidable_of_iff (a.bytes = b.bytes) (by cases a; cases b; simp)

def Sha256.hex (digest : Sha256) : String := String.ofList (hexEncode digest.bytes)

def tagDomain (name : String) : List UInt8 := utf8 name.toList ++ [0]

def registrationDomain : List UInt8 := tagDomain "nexus.cua.registration.v1"

def httpAuthorizationDomain : List UInt8 := tagDomain "nexus.cua.mcp.http.authorization.v1"

def cliAuthorizationDomain : List UInt8 := tagDomain "nexus.cua.cli.transport.authorization.v1"

/-- The keyed hash and the JSON decoder that the store uses.  The decoder gives a
written registration back, and from the beginning of one nothing else. -/
structure RegistrationStore where
  mac : Secret → List UInt8 → Sha256
  decode : List Char → Option AuthenticatedRegistration
  decode_text : ∀ registration : AuthenticatedRegistration,
    registration.payload.schemaVersion = registrationSchemaVersion →
    registration.payload.request.validate = .ok () →
    decode registration.text = some registration
  decode_take : ∀ (registration decoded : AuthenticatedRegistration) (n : Nat),
    registration.payload.schemaVersion = registrationSchemaVersion →
    registration.payload.request.validate = .ok () →
    decode (registration.text.take n) = some decoded → decoded = registration

namespace RegistrationStore

variable (store : RegistrationStore)

def messageAuthentication (secret : Secret) (domain payload : List UInt8) : String :=
  (store.mac secret (domain ++ payload)).hex

def authenticate (secret : Secret) (payload : List UInt8) : String :=
  store.messageAuthentication secret registrationDomain payload

/-- What `install` stores for a payload. -/
def authenticated (payload : RegistrationPayload) (secret : Secret) : AuthenticatedRegistration :=
  ⟨payload, store.authenticate secret payload.bytes⟩

def entry (payload : RegistrationPayload) (secret : Secret) : Vault.Entry where
  name := payload.request.registrationId
  secretId := payload.request.registrationId
  text := (store.authenticated payload secret).text
  secret := secret
  maximumJsonFiles := maxRegistrations
  maximumDirectoryEntries := maxStateRootEntries
  putError := .secret

def newPayload (request : RegistrationRequest) (nowUnixMs : UInt64) : RegistrationPayload :=
  ⟨registrationSchemaVersion, nowUnixMs, request⟩

def install (request : RegistrationRequest) (nowUnixMs : UInt64) (secret : Secret)
    (faults : Vault.CreateFaults) (vault : Vault) :
    Except RegistrationError RegistrationSummary × Vault :=
  match request.validate with
  | .error error => (.error error, vault)
  | .ok () =>
      let payload := newPayload request nowUnixMs
      if maxRegistrationBytes < payload.bytes.length then
        (.error (.invalid "registration exceeds the 64 KiB bound"), vault)
      else
        match vault.createEntry (store.entry payload secret) faults with
        | (.error error, vault) => (.error error, vault)
        | (.ok (), vault) => (.ok (summary payload), vault)

def remove (registrationId : String) (faults : Vault.RemoveFaults) (vault : Vault) :
    Except RegistrationError Unit × Vault :=
  match validateRegistrationId registrationId with
  | .error error => (.error error, vault)
  | .ok () => vault.removeEntry registrationId registrationId faults

def check (registrationId : String) (registration : AuthenticatedRegistration) (vault : Vault) :
    Except RegistrationError RegistrationPayload := do
  failWhen (registration.payload.schemaVersion != registrationSchemaVersion ||
    registration.payload.request.registrationId != registrationId) .authenticationFailed
  registration.payload.request.validate
  let secret ← vault.getSecret registrationId
  failWhen (store.authenticate secret registration.payload.bytes != registration.macSha256)
    .authenticationFailed
  .ok registration.payload

def load (registrationId : String) (vault : Vault) :
    Except RegistrationError RegistrationPayload := do
  validateRegistrationId registrationId
  let text ← vault.readPrivateFile registrationId maxRegistrationBytes
  match store.decode text with
  | none => .error .json
  | some registration => store.check registrationId registration vault

def authorization (domain : List UInt8) (accepts : RegisteredAdapterProfile → Bool)
    (refusal registrationId : String) (vault : Vault) : Except RegistrationError String := do
  let payload ← store.load registrationId vault
  invalidWhen (!accepts payload.request.adapterProfile) refusal
  let secret ← vault.getSecret registrationId
  .ok (store.messageAuthentication secret domain (utf8 registrationId.toList))

def isStreamableHttp : RegisteredAdapterProfile → Bool
  | .mcp .streamableHttp _ => true
  | _ => false

def httpAuthorization (registrationId : String) (vault : Vault) : Except RegistrationError String :=
  store.authorization httpAuthorizationDomain isStreamableHttp
    "registration is not bound to Streamable HTTP" registrationId vault

def cliAuthorization (registrationId : String) (vault : Vault) : Except RegistrationError String :=
  store.authorization cliAuthorizationDomain (· == .cli)
    "registration is not bound to the CLI adapter" registrationId vault

def inspect (registrationId : String) (vault : Vault) :
    Except RegistrationError RegistrationSummary :=
  (store.load registrationId vault).map summary

/-! ### What a load says -/

/-- A file and a secret that `load` accepts. -/
structure Loadable (registrationId : String) (payload : RegistrationPayload) (vault : Vault) :
    Prop where
  valid : validateRegistrationId registrationId = .ok ()
  accepted : ∃ text registration secret,
    vault.files.lookup registrationId = some ⟨text, .ownerOnly⟩ ∧
      (utf8 text).length ≤ maxRegistrationBytes ∧
      store.decode text = some registration ∧ registration.payload = payload ∧
      payload.schemaVersion = registrationSchemaVersion ∧
      payload.request.registrationId = registrationId ∧ payload.request.validate = .ok () ∧
      vault.secrets.lookup registrationId = some secret ∧
      registration.macSha256 = store.authenticate secret payload.bytes

variable {vault : Vault}

variable {registrationId : String}

theorem check_eq_ok_iff {registration : AuthenticatedRegistration} {payload : RegistrationPayload} :
    store.check registrationId registration vault = .ok payload ↔
      registration.payload = payload ∧ payload.schemaVersion = registrationSchemaVersion ∧
      payload.request.registrationId = registrationId ∧ payload.request.validate = .ok () ∧
      ∃ secret, vault.secrets.lookup registrationId = some secret ∧
        registration.macSha256 = store.authenticate secret payload.bytes := by
  simp only [check, bind_eq_ok, failWhen_eq_ok, Vault.getSecret_eq_ok, Bool.or_eq_false_iff,
    bne_eq_false_iff_eq, Except.ok.injEq]
  constructor
  · rintro ⟨_, ⟨hschema, hid⟩, _, hvalid, secret, hsecret, _, hmac, rfl⟩
    exact ⟨rfl, hschema, hid, hvalid, secret, hsecret, hmac.symm⟩
  · rintro ⟨rfl, hschema, hid, hvalid, secret, hsecret, hmac⟩
    exact ⟨(), ⟨hschema, hid⟩, (), hvalid, secret, hsecret, (), hmac.symm, rfl⟩

theorem load_eq_ok_iff {payload : RegistrationPayload} :
    store.load registrationId vault = .ok payload ↔
      store.Loadable registrationId payload vault := by
  simp only [load, bind_eq_ok, Vault.readPrivateFile_eq_ok]
  constructor
  · rintro ⟨_, hid, text, ⟨hfile, hsize⟩, hcheck⟩
    cases hdecode : store.decode text with
    | none => simp [hdecode] at hcheck
    | some registration =>
      simp only [hdecode, check_eq_ok_iff] at hcheck
      obtain ⟨hpayload, hschema, hname, hvalid, secret, hsecret, hmac⟩ := hcheck
      exact ⟨hid, text, registration, secret, hfile, hsize, hdecode, hpayload, hschema, hname,
        hvalid, hsecret, hmac⟩
  · rintro ⟨hid, text, registration, secret, hfile, hsize, hdecode, hpayload, hschema, hname,
      hvalid, hsecret, hmac⟩
    refine ⟨(), hid, text, ⟨hfile, hsize⟩, ?_⟩
    simp only [hdecode, check_eq_ok_iff]
    exact ⟨hpayload, hschema, hname, hvalid, secret, hsecret, hmac⟩

/-! ### What an installation does -/

/-- It refuses before anything is stored, or does what creating the entry does. -/
inductive Installs (request : RegistrationRequest) (nowUnixMs : UInt64) (secret : Secret)
    (faults : Vault.CreateFaults) (vault : Vault) :
    Except RegistrationError RegistrationSummary → Vault → Prop where
  | refused (error : RegistrationError) :
      Installs request nowUnixMs secret faults vault (.error error) vault
  | created (hvalid : request.validate = .ok ())
      (hsize : (newPayload request nowUnixMs).bytes.length ≤ maxRegistrationBytes)
      {result : Except RegistrationError Unit} {vault' : Vault}
      (hcreated : Vault.Created (store.entry (newPayload request nowUnixMs) secret) faults vault
        result vault') :
      Installs request nowUnixMs secret faults vault
        (result.map fun _ => summary (newPayload request nowUnixMs)) vault'

variable {store} {request : RegistrationRequest} {nowUnixMs : UInt64} {secret : Secret}
  {faults : Vault.CreateFaults} {vault : Vault}

theorem install_installs : store.Installs request nowUnixMs secret faults vault
    (store.install request nowUnixMs secret faults vault).1
    (store.install request nowUnixMs secret faults vault).2 := by
  rw [install]
  split
  case h_1 error _ => exact .refused error
  case h_2 hvalid =>
    dsimp only
    split
    case isTrue => exact .refused _
    case isFalse hsize =>
      have hcreated := Vault.createEntry_created
        (store.entry (newPayload request nowUnixMs) secret) faults vault
      cases hcreate : vault.createEntry
        (store.entry (newPayload request nowUnixMs) secret) faults with
      | mk result vault' =>
        rw [hcreate] at hcreated
        cases result with
        | ok => exact .created hvalid (Nat.le_of_not_lt hsize) hcreated
        | error error => exact .created hvalid (Nat.le_of_not_lt hsize) hcreated

structure Accepts (store : RegistrationStore) (request : RegistrationRequest) (nowUnixMs : UInt64)
    (secret : Secret) (faults : Vault.CreateFaults) (vault : Vault) : Prop where
  valid : request.validate = .ok ()
  size : (newPayload request nowUnixMs).bytes.length ≤ maxRegistrationBytes
  accepted : vault.Accepts (store.entry (newPayload request nowUnixMs) secret) faults

theorem install_of_valid (hvalid : request.validate = .ok ())
    (hsize : (newPayload request nowUnixMs).bytes.length ≤ maxRegistrationBytes) :
    store.install request nowUnixMs secret faults vault =
      let created := vault.createEntry (store.entry (newPayload request nowUnixMs) secret) faults
      (created.1.map fun _ => summary (newPayload request nowUnixMs), created.2) := by
  rw [install, hvalid]
  simp only [if_neg (Nat.not_lt_of_le hsize)]
  split
  case h_1 hcreate => simp [hcreate, Except.map]
  case h_2 hcreate => simp [hcreate, Except.map]

theorem install_of_refused (h : ¬ (request.validate = .ok () ∧
    (newPayload request nowUnixMs).bytes.length ≤ maxRegistrationBytes)) :
    ¬ store.Accepts request nowUnixMs secret faults vault ∧
      ∃ error, store.install request nowUnixMs secret faults vault = (.error error, vault) := by
  refine ⟨fun haccepts => h ⟨haccepts.valid, haccepts.size⟩, ?_⟩
  rw [install]
  split
  case h_1 error _ => exact ⟨error, rfl⟩
  case h_2 hvalid =>
    have hsize : maxRegistrationBytes < (newPayload request nowUnixMs).bytes.length :=
      Nat.lt_of_not_le fun hsize => h ⟨hvalid, hsize⟩
    exact ⟨_, if_pos hsize⟩

theorem accepts_iff (hvalid : request.validate = .ok () ∧
    (newPayload request nowUnixMs).bytes.length ≤ maxRegistrationBytes) :
    store.Accepts request nowUnixMs secret faults vault ↔
      vault.Accepts (store.entry (newPayload request nowUnixMs) secret) faults :=
  ⟨fun h => h.accepted, fun h => ⟨hvalid.1, hvalid.2, h⟩⟩

theorem install_ok_iff :
    (∃ summary, (store.install request nowUnixMs secret faults vault).1 = .ok summary) ↔
      store.Accepts request nowUnixMs secret faults vault ∧ faults.writes = true := by
  by_cases hvalid : request.validate = .ok () ∧
      (newPayload request nowUnixMs).bytes.length ≤ maxRegistrationBytes
  · rw [accepts_iff hvalid, ← Vault.createEntry_ok_iff, install_of_valid hvalid.1 hvalid.2]
    dsimp only
    cases (vault.createEntry (store.entry (newPayload request nowUnixMs) secret) faults).1 with
    | ok => simp [Except.map]
    | error error => simp [Except.map]
  · obtain ⟨hnot, error, hrefused⟩ : ¬ store.Accepts request nowUnixMs secret faults vault ∧ _ :=
      install_of_refused hvalid
    simp [hrefused, hnot]

theorem install_left_iff :
    (∃ error, (store.install request nowUnixMs secret faults vault).1 = .error error) ∧
        (store.install request nowUnixMs secret faults vault).2.files.lookup
          request.registrationId ≠ vault.files.lookup request.registrationId ↔
      store.Accepts request nowUnixMs secret faults vault ∧ faults.abandons = true ∧
        faults.removeFails = true := by
  by_cases hvalid : request.validate = .ok () ∧
      (newPayload request nowUnixMs).bytes.length ≤ maxRegistrationBytes
  · rw [accepts_iff hvalid, ← Vault.createEntry_left_iff, install_of_valid hvalid.1 hvalid.2]
    have hname : (store.entry (newPayload request nowUnixMs) secret).name =
      request.registrationId := rfl
    simp only [hname]
    cases (vault.createEntry (store.entry (newPayload request nowUnixMs) secret) faults).1 with
    | ok => simp [Except.map]
    | error error => simp [Except.map]
  · obtain ⟨hnot, error, hrefused⟩ : ¬ store.Accepts request nowUnixMs secret faults vault ∧ _ :=
      install_of_refused hvalid
    simp [hrefused, hnot]

theorem install_eq (h : store.Accepts request nowUnixMs secret faults vault)
    (hwrites : faults.writes = true) :
    store.install request nowUnixMs secret faults vault =
      (.ok (summary (newPayload request nowUnixMs)), { vault with
        files := vault.files.insert request.registrationId
          ⟨(store.authenticated (newPayload request nowUnixMs) secret).text, .ownerOnly⟩
        secrets := vault.secrets.insert request.registrationId secret }) := by
  rw [install_of_valid h.valid h.size, Vault.createEntry_eq h.accepted hwrites]
  rfl

theorem install_noFaults (hvalid : request.validate = .ok ())
    (hsize : (newPayload request nowUnixMs).bytes.length ≤ maxRegistrationBytes)
    (hfile : vault.files.lookup request.registrationId = none)
    (hcapacity : vault.hasJsonCapacity maxRegistrations maxStateRootEntries = true)
    (hsecret : vault.secrets.lookup request.registrationId = none) :
    store.install request nowUnixMs secret Vault.noFaults vault =
      (.ok (summary (newPayload request nowUnixMs)), { vault with
        files := vault.files.insert request.registrationId
          ⟨(store.authenticated (newPayload request nowUnixMs) secret).text, .ownerOnly⟩
        secrets := vault.secrets.insert request.registrationId secret }) :=
  install_eq ⟨hvalid, hsize, ⟨rfl, rfl, hfile, rfl, hcapacity, rfl, hsecret⟩⟩ rfl

theorem Installs.of_ok {summary : RegistrationSummary} {vault' : Vault}
    (h : store.Installs request nowUnixMs secret faults vault (.ok summary) vault') :
    request.validate = .ok () ∧
      vault'.Holds request.registrationId request.registrationId
        (store.authenticated (newPayload request nowUnixMs) secret).text secret := by
  generalize hresult : (Except.ok summary : Except RegistrationError RegistrationSummary) = outcome
    at h
  cases h with
  | refused error => cases hresult
  | @created hvalid _ result _ hcreated =>
    cases result with
    | ok => exact ⟨hvalid, hcreated.holds⟩
    | error error => cases hresult

section Files

variable {vault' : Vault} {result : Except RegistrationError RegistrationSummary}

theorem Installs.lookup_other_file
    (h : store.Installs request nowUnixMs secret faults vault result vault') {name : String}
    (hname : name ≠ request.registrationId) :
    vault'.files.lookup name = vault.files.lookup name := by
  cases h with
  | refused error => rfl
  | created _ _ hcreated => exact hcreated.lookup_other_file hname

theorem Installs.file_of_ok
    (h : store.Installs request nowUnixMs secret faults vault result vault')
    {summary : RegistrationSummary} (hresult : result = .ok summary) :
    vault.files.lookup request.registrationId = none := by
  cases h with
  | refused error => cases hresult
  | @created _ _ result _ hcreated =>
    cases result with
    | ok => exact hcreated.file_of_ok rfl
    | error error => cases hresult

variable {faults : Vault.RemoveFaults}

theorem remove_ok_iff :
    (remove registrationId faults vault).1 = .ok () ↔
      validateRegistrationId registrationId = .ok () ∧ faults.removes = true := by
  cases hvalid : validateRegistrationId registrationId with
  | error error => simp [remove, hvalid]
  | ok => simp [remove, hvalid, Vault.removeEntry_ok_iff]

theorem remove_other_file {registrationId name : String}
    (hname : name ≠ registrationId) :
    (remove registrationId faults vault).2.files.lookup name = vault.files.lookup name := by
  rw [remove]
  split
  · rfl
  · exact Vault.removeEntry_other_file hname

theorem remove_cases (registrationId : String) (faults : Vault.RemoveFaults) (vault : Vault) :
    (∃ error, remove registrationId faults vault = (.error error, vault)) ∨
      (remove registrationId faults vault).2.files.lookup registrationId = none := by
  rw [remove]
  split
  case h_1 error _ => exact .inl ⟨error, rfl⟩
  case h_2 => exact Vault.removeEntry_cases registrationId registrationId faults vault

theorem remove_file_of_ok
    (h : (remove registrationId faults vault).1 = .ok ()) :
    (remove registrationId faults vault).2.files.lookup registrationId = none := by
  rw [remove] at h ⊢
  split at h
  · cases h
  · exact (Vault.removeEntry_ok h).1

end Files

theorem validate_registrationId (h : request.validate = .ok ()) :
    validateRegistrationId request.registrationId = .ok () := by
  simp only [RegistrationRequest.validate, bind_eq_ok] at h
  obtain ⟨_, hid, _⟩ := h
  exact hid

/-- What is held for a valid request is loaded exactly when the file is not too
long. -/
theorem load_of_holds (payload : RegistrationPayload)
    (hschema : payload.schemaVersion = registrationSchemaVersion)
    (hvalid : payload.request.validate = .ok ())
    (hholds : vault.Holds payload.request.registrationId payload.request.registrationId
      (store.authenticated payload secret).text secret) :
    store.load payload.request.registrationId vault = .ok payload ↔
      (utf8 (store.authenticated payload secret).text).length ≤ maxRegistrationBytes := by
  rw [load_eq_ok_iff]
  constructor
  · rintro ⟨_, text, _, _, hfile, hsize, _⟩
    obtain rfl : (store.authenticated payload secret).text = text := by
      simpa [hholds.file] using hfile
    exact hsize
  · intro hsize
    exact ⟨validate_registrationId hvalid, _, store.authenticated payload secret, secret,
      hholds.file, hsize, store.decode_text _ hschema hvalid, rfl, hschema, rfl, hvalid,
      hholds.secret, rfl⟩

end RegistrationStore

end NexusCua.Provider
