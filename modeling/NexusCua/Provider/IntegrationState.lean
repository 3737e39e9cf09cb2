import NexusCua.Provider.RegistrationRuns

/-!
# Integration states

Plans and receipts of an integration are kept like registrations: the payload in
hexadecimal digits with its tag in an indented JSON file, the secret under an
identity derived from the reference.  The bound of the file leaves room for every
payload that an installation accepts, so the round trip holds for all of them.
-/

namespace NexusCua.Provider

open NexusCua.Foundation

def stateEnvelopeSchemaVersion : Nat := 1

def maxStatePayloadBytes : Nat := 128 * 1024

def maxStateEnvelopeBytes : Nat := 320 * 1024

def maxIntegrationStates : Nat := 512

def maxIntegrationDirectoryEntries : Nat := 640

structure AuthenticatedState where
  schemaVersion : Nat
  payloadHex : String
  macSha256 : String
  deriving DecidableEq, Repr

namespace AuthenticatedState

def json (state : AuthenticatedState) : Json :=
  .obj [("schema_version", .num state.schemaVersion), ("payload_hex", .str state.payloadHex),
    ("mac_sha256", .str state.macSha256)]

def text (state : AuthenticatedState) : List Char := state.json.pretty ++ ['\n']

def ofJson : Json → Option AuthenticatedState
  | .obj [("schema_version", .num schemaVersion), ("payload_hex", .str payloadHex),
      ("mac_sha256", .str macSha256)] => some ⟨schemaVersion, payloadHex, macSha256⟩
  | _ => none

end AuthenticatedState

def integrationStateDomain : List UInt8 := tagDomain "nexus.cua.integration-state.v1"

def stateSecretId (stateRef : String) : String := "integration-state-" ++ stateRef

theorem string_append_cancel_left {start text text' : String} (h : start ++ text = start ++ text') :
    text = text' := by
  have hlist : (start ++ text).toList = (start ++ text').toList := by rw [h]
  rw [String.toList_append, String.toList_append, List.append_cancel_left_eq] at hlist
  exact String.toList_inj.mp hlist

theorem stateSecretId_injective : Function.Injective stateSecretId :=
  fun _ _ h => string_append_cancel_left h

structure IntegrationStore where
  mac : Secret → List UInt8 → Sha256
  decode : List Char → Option AuthenticatedState
  decode_text : ∀ state : AuthenticatedState,
    state.schemaVersion = stateEnvelopeSchemaVersion → decode state.text = some state

namespace IntegrationStore

variable (store : IntegrationStore)

def authenticate (secret : Secret) (payload : List UInt8) : String :=
  (store.mac secret (integrationStateDomain ++ payload)).hex

def authenticated (payload : List UInt8) (secret : Secret) : AuthenticatedState :=
  ⟨stateEnvelopeSchemaVersion, String.ofList (hexEncode payload), store.authenticate secret payload⟩

def putError : SecretStoreError → RegistrationError
  | .alreadyExists => .alreadyExists
  | error => .secret error

def entry (stateRef : String) (payload : List UInt8) (secret : Secret) : Vault.Entry where
  name := stateRef
  secretId := stateSecretId stateRef
  text := (store.authenticated payload secret).text
  secret := secret
  maximumJsonFiles := maxIntegrationStates
  maximumDirectoryEntries := maxIntegrationDirectoryEntries
  putError := putError

def payloadRefused (payload : List UInt8) : Bool :=
  payload.isEmpty || decide (maxStatePayloadBytes < payload.length)

def checkInstall (stateRef : String) (payload : List UInt8) : Except RegistrationError Unit := do
  validateRegistrationId stateRef
  invalidWhen (payloadRefused payload) "integration state payload is empty or exceeds 128 KiB"

def install (stateRef : String) (payload : List UInt8) (secret : Secret)
    (faults : Vault.CreateFaults) (vault : Vault) : Except RegistrationError Unit × Vault :=
  match checkInstall stateRef payload with
  | .error error => (.error error, vault)
  | .ok () => vault.createEntry (store.entry stateRef payload secret) faults

def remove (stateRef : String) (faults : Vault.RemoveFaults) (vault : Vault) :
    Except RegistrationError Unit × Vault :=
  match validateRegistrationId stateRef with
  | .error error => (.error error, vault)
  | .ok () => vault.removeEntry stateRef (stateSecretId stateRef) faults

def check (stateRef : String) (state : AuthenticatedState) (vault : Vault) :
    Except RegistrationError (List UInt8) := do
  failWhen (state.schemaVersion != stateEnvelopeSchemaVersion) .authenticationFailed
  match hexDecode state.payloadHex.toList with
  | none => .error .authenticationFailed
  | some payload =>
      failWhen (payloadRefused payload) .authenticationFailed
      let secret ← vault.getSecret (stateSecretId stateRef)
      failWhen (store.authenticate secret payload != state.macSha256) .authenticationFailed
      .ok payload

def load (stateRef : String) (vault : Vault) : Except RegistrationError (List UInt8) := do
  validateRegistrationId stateRef
  let text ← vault.readPrivateFile stateRef maxStateEnvelopeBytes
  match store.decode text with
  | none => .error .json
  | some state => store.check stateRef state vault

/-! ### What a load says -/

structure Loadable (stateRef : String) (payload : List UInt8) (vault : Vault) : Prop where
  valid : validateRegistrationId stateRef = .ok ()
  accepted : ∃ text state secret,
    vault.files.lookup stateRef = some ⟨text, .ownerOnly⟩ ∧
    (utf8 text).length ≤ maxStateEnvelopeBytes ∧
      store.decode text = some state ∧ state.schemaVersion = stateEnvelopeSchemaVersion ∧
      hexDecode state.payloadHex.toList = some payload ∧ payloadRefused payload = false ∧
      vault.secrets.lookup (stateSecretId stateRef) = some secret ∧
      state.macSha256 = store.authenticate secret payload

variable {vault : Vault} {payload : List UInt8} {stateRef : String}

theorem check_eq_ok_iff {state : AuthenticatedState} :
    store.check stateRef state vault = .ok payload ↔
      state.schemaVersion = stateEnvelopeSchemaVersion ∧
      hexDecode state.payloadHex.toList = some payload ∧ payloadRefused payload = false ∧
      ∃ secret, vault.secrets.lookup (stateSecretId stateRef) = some secret ∧
        state.macSha256 = store.authenticate secret payload := by
  cases hhex : hexDecode state.payloadHex.toList with
  | none => simp [check, hhex, bind_eq_ok]
  | some decoded =>
    simp only [check, hhex, bind_eq_ok, failWhen_eq_ok, Vault.getSecret_eq_ok,
      bne_eq_false_iff_eq, Except.ok.injEq, Option.some.injEq]
    constructor
    · rintro ⟨_, hschema, _, hsize, secret, hsecret, _, hmac, rfl⟩
      exact ⟨hschema, rfl, hsize, secret, hsecret, hmac.symm⟩
    · rintro ⟨hschema, rfl, hsize, secret, hsecret, hmac⟩
      exact ⟨(), hschema, (), hsize, secret, hsecret, (), hmac.symm, rfl⟩

theorem load_eq_ok_iff :
    store.load stateRef vault = .ok payload ↔ store.Loadable stateRef payload vault := by
  simp only [load, bind_eq_ok, Vault.readPrivateFile_eq_ok]
  constructor
  · rintro ⟨_, href, text, ⟨hfile, hsize⟩, hcheck⟩
    cases hdecode : store.decode text with
    | none => simp [hdecode] at hcheck
    | some state =>
      simp only [hdecode, check_eq_ok_iff] at hcheck
      obtain ⟨hschema, hhex, hbound, secret, hsecret, hmac⟩ := hcheck
      exact ⟨href, text, state, secret, hfile, hsize, hdecode, hschema, hhex, hbound, hsecret, hmac⟩
  · rintro ⟨href, text, state, secret, hfile, hsize, hdecode, hschema, hhex, hbound, hsecret, hmac⟩
    refine ⟨(), href, text, ⟨hfile, hsize⟩, ?_⟩
    simp only [hdecode, check_eq_ok_iff]
    exact ⟨hschema, hhex, hbound, secret, hsecret, hmac⟩

/-! ### What an installation does -/

variable {store}

/-- It refuses before anything is stored, or does what creating the entry does. -/
inductive Installs (store : IntegrationStore) (stateRef : String) (payload : List UInt8)
    (secret : Secret) (faults : Vault.CreateFaults) (vault : Vault) :
    Except RegistrationError Unit → Vault → Prop where
  | refused (error : RegistrationError) :
      Installs store stateRef payload secret faults vault (.error error) vault
  | created (hcheck : checkInstall stateRef payload = .ok ())
      {result : Except RegistrationError Unit} {vault' : Vault}
      (hcreated : Vault.Created (store.entry stateRef payload secret) faults vault result vault') :
      Installs store stateRef payload secret faults vault result vault'

section Installation

variable {stateRef : String} {payload : List UInt8} {secret : Secret}
  {faults : Vault.CreateFaults} {vault vault' : Vault} {result : Except RegistrationError Unit}

theorem install_installs : Installs store stateRef payload secret faults vault
    (store.install stateRef payload secret faults vault).1
    (store.install stateRef payload secret faults vault).2 := by
  rw [install]
  split
  case h_1 error _ => exact .refused error
  case h_2 hcheck => exact .created hcheck (Vault.createEntry_created _ faults vault)

theorem checkInstall_eq_ok_iff : checkInstall stateRef payload = .ok () ↔
    validateRegistrationId stateRef = .ok () ∧ payloadRefused payload = false := by
  simp only [checkInstall, invalidWhen, bind_eq_ok, failWhen_eq_ok]
  constructor
  · rintro ⟨_, href, hpayload⟩
    exact ⟨href, hpayload⟩
  · rintro ⟨href, hpayload⟩
    exact ⟨(), href, hpayload⟩

theorem install_ok_iff :
    (store.install stateRef payload secret faults vault).1 = .ok () ↔
      checkInstall stateRef payload = .ok () ∧
        vault.Accepts (store.entry stateRef payload secret) faults ∧ faults.writes = true := by
  cases hcheck : checkInstall stateRef payload with
  | error error => simp [install, hcheck]
  | ok => simp [install, hcheck, Vault.createEntry_ok_iff]

theorem Installs.of_ok (h : Installs store stateRef payload secret faults vault (.ok ()) vault') :
    checkInstall stateRef payload = .ok () ∧
      vault'.Holds stateRef (stateSecretId stateRef) (store.authenticated payload secret).text
        secret := by
  cases h with
  | created hcheck hcreated => exact ⟨hcheck, hcreated.holds⟩

section

variable (h : Installs store stateRef payload secret faults vault result vault')
include h

theorem Installs.keeps
    {heldRef : String} {text : List Char} {held : Secret}
    (hholds : vault.Holds heldRef (stateSecretId heldRef) text held) :
    vault'.Holds heldRef (stateSecretId heldRef) text held := by
  cases h with
  | refused error => exact hholds
  | created _ hcreated => exact hholds.created hcreated stateSecretId_injective.eq_iff.symm

theorem Installs.of_holds
    {text : List Char} {held : Secret}
    (hholds : vault.Holds stateRef (stateSecretId stateRef) text held) :
    (∃ error, result = .error error) ∧ vault' = vault := by
  cases h with
  | refused error => exact ⟨⟨error, rfl⟩, rfl⟩
  | created _ hcreated => exact hcreated.eq_of_file hholds.file

theorem Installs.lookup_of_error
    (hremove : faults.removeFails = false) (hdelete : faults.deleteFails = false)
    {error : RegistrationError} (hresult : result = .error error) :
    vault'.files.lookup stateRef = vault.files.lookup stateRef ∧
      vault'.secrets.lookup (stateSecretId stateRef) =
        vault.secrets.lookup (stateSecretId stateRef) := by
  cases h with
  | refused error => exact ⟨rfl, rfl⟩
  | created _ hcreated => exact hcreated.lookup_of_error hremove hdelete hresult

end

theorem length_text_le (hpayload : payloadRefused payload = false) :
    (utf8 (store.authenticated payload secret).text).length ≤ maxStateEnvelopeBytes := by
  have hhex : (utf8 (Json.printString (String.ofList (hexEncode payload)))).length =
      2 * payload.length + 2 := by
    rw [Json.length_printString_of_isPlain, String.length_ofList, length_hexEncode]
    intro c hc
    rw [String.toList_ofList] at hc
    exact isPlain_of_mem_hexEncode hc
  have hmac : (utf8 (Json.printString (store.authenticate secret payload))).length = 66 :=
    length_printString_hex _
  have hlength : payload.length ≤ 131072 := by
    simp only [payloadRefused, Bool.or_eq_false_iff, decide_eq_false_iff_not] at hpayload
    exact Nat.le_of_not_lt hpayload.2
  simp only [authenticated, AuthenticatedState.text, AuthenticatedState.json, Json.pretty,
    Json.print, Json.printFields, utf8_append, utf8_cons, utf8_nil, List.length_append, hhex, hmac,
    maxStateEnvelopeBytes]
  have hkeys : (utf8 (Json.printString "schema_version")).length = 16 ∧
      (utf8 (Json.printString "payload_hex")).length = 13 ∧
      (utf8 (Json.printString "mac_sha256")).length = 12 := by decide
  have hgaps : (utf8 (Json.gap true 0)).length = 1 ∧ (utf8 (Json.gap true (0 + 1))).length = 3 ∧
      (utf8 (Json.colon true)).length = 2 := by decide
  have hmarks : (String.utf8EncodeChar ',').length = 1 ∧ (String.utf8EncodeChar '\n').length = 1 ∧
      (utf8 (Nat.toDigits 10 stateEnvelopeSchemaVersion)).length = 1 := by decide
  have hbraces : (String.utf8EncodeChar '{').length = 1 ∧
    (String.utf8EncodeChar '}').length = 1 := by
    decide
  simp only [hkeys, hgaps, hmarks, hbraces, List.length_nil]
  omega

end Installation

/-! ### Until the removal -/

inductive Call where
  | install (stateRef : String) (payload : List UInt8) (secret : Secret)
      (faults : Vault.CreateFaults)
  | remove (stateRef : String) (faults : Vault.RemoveFaults)
  | load (stateRef : String)

def Call.isRemovalOf (stateRef : String) : Call → Bool
  | .remove stateRef' _ => stateRef' == stateRef
  | _ => false

def perform (store : IntegrationStore) (call : Call) (vault : Vault) : Vault :=
  match call with
  | .install stateRef payload secret faults =>
      (store.install stateRef payload secret faults vault).2
  | .remove stateRef faults => (remove stateRef faults vault).2
  | .load _ => vault

def performAll (store : IntegrationStore) (calls : List Call) (vault : Vault) : Vault :=
  calls.foldl (fun vault call => store.perform call vault) vault

section Keeping

variable {stateRef : String} {text : List Char} {held : Secret} {vault : Vault}

section

variable (hholds : vault.Holds stateRef (stateSecretId stateRef) text held)
include hholds

theorem remove_keeps {stateRef' : String} (faults : Vault.RemoveFaults)
    (hne : stateRef ≠ stateRef') :
    (remove stateRef' faults vault).2.Holds stateRef (stateSecretId stateRef) text held := by
  rw [remove]
  split
  · exact hholds
  · exact hholds.removed faults hne (stateSecretId_injective.ne hne)

theorem perform_keeps {call : Call} (hcall : call.isRemovalOf stateRef = false) :
    (store.perform call vault).Holds stateRef (stateSecretId stateRef) text held := by
  cases call with
  | install stateRef' payload secret faults => exact install_installs.keeps hholds
  | remove stateRef' faults =>
    have hne : stateRef' ≠ stateRef := by simpa [Call.isRemovalOf] using hcall
    exact remove_keeps hholds faults (Ne.symm hne)
  | load stateRef' => exact hholds

theorem performAll_keeps {calls : List Call}
    (hcalls : ∀ call ∈ calls, call.isRemovalOf stateRef = false) :
    (store.performAll calls vault).Holds stateRef (stateSecretId stateRef) text held :=
  List.foldlRecOn calls _ hholds fun _ hheld call hmem => perform_keeps hheld (hcalls call hmem)

end

theorem load_of_holds (hcheck : checkInstall stateRef payload = .ok ())
    (hholds : vault.Holds stateRef (stateSecretId stateRef) (store.authenticated payload held).text
      held) :
    store.load stateRef vault = .ok payload := by
  obtain ⟨href, hpayload⟩ := checkInstall_eq_ok_iff.mp hcheck
  rw [load_eq_ok_iff]
  refine ⟨href, _, store.authenticated payload held, held, hholds.file, length_text_le hpayload,
    store.decode_text _ rfl, rfl, ?_, hpayload, hholds.secret, rfl⟩
  rw [authenticated, String.toList_ofList]
  exact hexDecode_hexEncode payload

end Keeping

/-! ### What the tags prove -/

def recordInstall (store : IntegrationStore) (stateRef : String) (payload : List UInt8)
    (secret : Secret) (faults : Vault.CreateFaults) (ledger : Ledger (List UInt8)) :
    Ledger (List UInt8) where
  vault := (store.install stateRef payload secret faults ledger.vault).2
  log :=
    match checkInstall stateRef payload with
    | .error _ => ledger.log
    | .ok () => ledger.log.draw secret (integrationStateDomain ++ payload)
  installed :=
    match (store.install stateRef payload secret faults ledger.vault).1 with
    | .error _ => ledger.installed
    | .ok () => (stateSecretId stateRef, payload) :: ledger.installed

/-- The ledgers of a store that starts without secrets.  Each installation draws a
new secret, the deletions of its clean-up succeed, and in between anybody may
change the files. -/
inductive Run (store : IntegrationStore) : Ledger (List UInt8) → Prop where
  | start {ledger} (h : ledger.Fresh) : Run store ledger
  | install {ledger} (h : Run store ledger) (stateRef : String) (payload : List UInt8)
      (secret : Secret) (faults : Vault.CreateFaults) (hfresh : secret ∉ ledger.log.drawn)
      (hdelete : faults.deleteFails = false) :
      Run store (store.recordInstall stateRef payload secret faults ledger)
  | remove {ledger} (h : Run store ledger) (stateRef : String) (faults : Vault.RemoveFaults) :
      Run store (ledger.withVault (remove stateRef faults ledger.vault).2)
  | tamper {ledger} (h : Run store ledger) (files : Table String PrivateFile) :
      Run store (ledger.withVault { ledger.vault with files := files })

/-- The tag in the file, when it is the right one, was computed by the store. -/
def Unforged (store : IntegrationStore) (stateRef : String) (ledger : Ledger (List UInt8)) : Prop :=
  ∀ text state payload secret,
    ledger.vault.files.lookup stateRef = some ⟨text, .ownerOnly⟩ → store.decode text = some state →
    hexDecode state.payloadHex.toList = some payload →
    ledger.vault.secrets.lookup (stateSecretId stateRef) = some secret →
    state.macSha256 = store.authenticate secret payload →
    (secret, integrationStateDomain ++ payload) ∈ ledger.log.tags

theorem recordInstall_cases (store : IntegrationStore) (stateRef : String) (payload : List UInt8)
    (secret : Secret) (faults : Vault.CreateFaults) (ledger : Ledger (List UInt8)) :
    store.recordInstall stateRef payload secret faults ledger = ledger ∨
      store.recordInstall stateRef payload secret faults ledger =
        ledger.create integrationStateDomain id (store.entry stateRef payload secret) payload
          faults := by
  cases hcheck : checkInstall stateRef payload with
  | error error =>
    left
    simp only [recordInstall, install, hcheck]
  | ok =>
    right
    cases hcreate : ledger.vault.createEntry (store.entry stateRef payload secret) faults with
    | mk result vault' =>
      cases result <;> simp only [recordInstall, install, hcheck, hcreate, Ledger.create] <;> rfl

theorem Run.reachable {ledger : Ledger (List UInt8)} (h : store.Run ledger) :
    Ledger.Reachable integrationStateDomain id ledger := by
  induction h with
  | start h => exact .start h
  | install _ stateRef payload secret faults hfresh hdelete ih =>
    obtain heq | heq := store.recordInstall_cases stateRef payload secret faults _
    · rwa [heq]
    · rw [heq]
      exact ih.step (.create _ _ faults hfresh hdelete)
  | remove _ stateRef faults ih =>
    rw [IntegrationStore.remove]
    split
    · exact ih
    · exact ih.step (.remove stateRef (stateSecretId stateRef) faults)
  | tamper _ files ih => exact ih.step (.tamper files)

theorem installed_of_load {ledger : Ledger (List UInt8)} (h : store.Run ledger)
    (hunforged : store.Unforged stateRef ledger)
    (hload : store.load stateRef ledger.vault = .ok payload) :
    (stateSecretId stateRef, payload) ∈ ledger.installed := by
  obtain ⟨_, text, state, secret, hfile, _, hdecode, _, hhex, _, hsecret, hmac⟩ :=
    (load_eq_ok_iff store).mp hload
  have htag := hunforged text state payload secret hfile hdecode hhex hsecret hmac
  exact h.reachable.installed_of_tag Function.injective_id hsecret htag

/-! ### The round trip -/

/-- What the store promises for a reference: a payload stays until its removal, a
second installation changes nothing, neither does a failed one that is cleaned up,
and only installed payloads are loaded. -/
structure RoundTrip (store : IntegrationStore) : Prop where
  load_until_removal : ∀ stateRef payload secret faults vault calls,
    (store.install stateRef payload secret faults vault).1 = .ok () →
    (∀ call ∈ calls, Call.isRemovalOf stateRef call = false) →
    store.load stateRef
      (store.performAll calls (store.install stateRef payload secret faults vault).2) = .ok payload
  second_install_fails : ∀ stateRef payload secret faults vault calls,
    (store.install stateRef payload secret faults vault).1 = .ok () →
    (∀ call ∈ calls, Call.isRemovalOf stateRef call = false) →
    ∀ payload' secret' faults',
      let held := store.performAll calls (store.install stateRef payload secret faults vault).2
      (∃ error, (store.install stateRef payload' secret' faults' held).1 = .error error) ∧
        (store.install stateRef payload' secret' faults' held).2 = held
  failed_install_restores : ∀ stateRef payload secret (faults : Vault.CreateFaults) vault error,
    faults.removeFails = false → faults.deleteFails = false →
    (store.install stateRef payload secret faults vault).1 = .error error →
    (store.install stateRef payload secret faults vault).2.files.lookup stateRef =
        vault.files.lookup stateRef ∧
      (store.install stateRef payload secret faults vault).2.secrets.lookup
          (stateSecretId stateRef) = vault.secrets.lookup (stateSecretId stateRef)
  loaded_was_installed : ∀ ledger stateRef payload, store.Run ledger →
    store.Unforged stateRef ledger → store.load stateRef ledger.vault = .ok payload →
    (stateSecretId stateRef, payload) ∈ ledger.installed

theorem holds_after_install {secret : Secret}
    {faults : Vault.CreateFaults} {calls : List Call}
    (hinstall : (store.install stateRef payload secret faults vault).1 = .ok ())
    (hcalls : ∀ call ∈ calls, call.isRemovalOf stateRef = false) :
    checkInstall stateRef payload = .ok () ∧
      (store.performAll calls (store.install stateRef payload secret faults vault).2).Holds stateRef
        (stateSecretId stateRef) (store.authenticated payload secret).text secret := by
  have hinstalls : Installs store stateRef payload secret faults vault _ _ := install_installs
  rw [hinstall] at hinstalls
  obtain ⟨hcheck, hholds⟩ := hinstalls.of_ok
  exact ⟨hcheck, performAll_keeps hholds hcalls⟩

theorem roundTrip (store : IntegrationStore) : store.RoundTrip where
  load_until_removal stateRef payload secret faults vault calls hinstall hcalls := by
    obtain ⟨hcheck, hholds⟩ := holds_after_install hinstall hcalls
    exact load_of_holds hcheck hholds
  second_install_fails stateRef payload secret faults vault calls hinstall hcalls _ _ _ := by
    obtain ⟨_, hholds⟩ := holds_after_install hinstall hcalls
    exact install_installs.of_holds hholds
  failed_install_restores stateRef payload secret faults vault error hremove hdelete herror :=
    install_installs.lookup_of_error hremove hdelete herror
  loaded_was_installed ledger stateRef payload hrun hunforged hload :=
    installed_of_load hrun hunforged hload

theorem unforged_recordInstall (ledger : Ledger (List UInt8)) {secret : Secret}
    {faults : Vault.CreateFaults}
    (hinstall : (store.install stateRef payload secret faults ledger.vault).1 = .ok ()) :
    store.Unforged stateRef (store.recordInstall stateRef payload secret faults ledger) := by
  obtain ⟨hcheck, hholds⟩ := holds_after_install hinstall (List.forall_mem_nil _)
  intro text state payload' secret' hfile hdecode hhex hsecret _
  cases hholds.file.symm.trans hfile
  cases hholds.secret.symm.trans hsecret
  cases (store.decode_text _ rfl).symm.trans hdecode
  rw [authenticated, String.toList_ofList, hexDecode_hexEncode] at hhex
  cases hhex
  simp only [recordInstall, hcheck]
  exact List.mem_cons_self

end IntegrationStore

/-! ### One state -/

def decodeState (text : List Char) : Option AuthenticatedState :=
  (Json.parse text).bind AuthenticatedState.ofJson

def parsingStates : IntegrationStore where
  mac _ _ := zeroDigest
  decode := decodeState
  decode_text state _ := by
    have hparse : Json.parse state.text = some state.json :=
      Json.parse_print_newline true 0 state.json
    simp [decodeState, hparse, AuthenticatedState.json, AuthenticatedState.ofJson]

def stateLedger : Ledger (List UInt8) :=
  parsingStates.recordInstall "state_0000000001" [0] zeroSecret Vault.noFaults
    ⟨emptyVault, .empty, []⟩

/-- The state is loaded and was installed, another one does not replace it, and one whose
file cannot be written leaves no secret behind. -/
theorem roundTrip_stateLedger :
    parsingStates.load "state_0000000001" stateLedger.vault = .ok [0] ∧
      (stateSecretId "state_0000000001", [0]) ∈ stateLedger.installed ∧
      (parsingStates.install "state_0000000001" [1] zeroSecret Vault.noFaults
        stateLedger.vault).2 = stateLedger.vault ∧
      (parsingStates.install "state_0000000001" [0] zeroSecret
        { Vault.noFaults with sync := some ⟨.other, ""⟩ } emptyVault).2.secrets.lookup
          (stateSecretId "state_0000000001") = none := by
  have hlaw := IntegrationStore.roundTrip parsingStates
  have hinstall : (parsingStates.install "state_0000000001" [0] zeroSecret Vault.noFaults
      emptyVault).1 = .ok () := rfl
  have hload := hlaw.load_until_removal _ _ _ _ _ [] hinstall (by simp)
  have hunforged := IntegrationStore.unforged_recordInstall ⟨emptyVault, .empty, []⟩ hinstall
  refine ⟨hload, ?_, ?_, ?_⟩
  · exact hlaw.loaded_was_installed stateLedger _ _
      (.install (.start ⟨rfl, fun _ => rfl⟩) _ _ _ _ List.not_mem_nil rfl) hunforged hload
  · exact (hlaw.second_install_fails _ _ _ _ _ [] hinstall (by simp) _ _ _).2
  · exact (hlaw.failed_install_restores _ _ _ _ _ _ rfl rfl rfl).2

end NexusCua.Provider
