import NexusCua.Provider.Ledger
import NexusCua.Provider.Parsing

/-!
# Registrations over time

What an installation stores stays until its removal, but the bound of the
installation is on the compact payload and the bound of a load on the indented
file.  What a load returns was installed, for whoever changes the files cannot
compute the tag.
-/

namespace NexusCua.Provider

open NexusCua.Foundation NexusCua.Protocol NexusCua.Mcp

/-! ## The size of the file -/

def RegistrationPayload.fileBytes (payload : RegistrationPayload) : Nat :=
  (utf8 (AuthenticatedRegistration.text ⟨payload, zeroDigest.hex⟩)).length

theorem isPlain_digitChar : ∀ d < 16, Json.isPlain (Nat.digitChar d) = true := by decide

theorem isPlain_of_mem_hexEncode {bytes : List UInt8} {c : Char} (h : c ∈ hexEncode bytes) :
    Json.isPlain c = true := by
  obtain ⟨byte, _, hc⟩ := List.mem_flatMap.mp h
  have hbyte : byte.toNat < 256 := byte.toNat_lt
  simp only [List.mem_cons, List.not_mem_nil, or_false] at hc
  obtain rfl | rfl := hc
  · exact isPlain_digitChar _ (by omega)
  · exact isPlain_digitChar _ (by omega)

theorem length_printString_hex (digest : Sha256) :
    (utf8 (Json.printString digest.hex)).length = 66 := by
  rw [Json.length_printString_of_isPlain]
  · simp [Sha256.hex, digest.length_bytes]
  · intro c hc
    rw [Sha256.hex, String.toList_ofList] at hc
    exact isPlain_of_mem_hexEncode hc

theorem length_text (payload : RegistrationPayload) (digest : Sha256) :
    (utf8 (AuthenticatedRegistration.text ⟨payload, digest.hex⟩)).length = payload.fileBytes := by
  simp only [RegistrationPayload.fileBytes, AuthenticatedRegistration.text,
    AuthenticatedRegistration.json, Json.pretty, Json.print, Json.printFields, utf8_cons,
    utf8_append, List.length_append, length_printString_hex]

theorem length_authenticated (store : RegistrationStore) (payload : RegistrationPayload)
    (secret : Secret) :
    (utf8 (store.authenticated payload secret).text).length = payload.fileBytes :=
  length_text payload (store.mac secret (registrationDomain ++ payload.bytes))

theorem length_bytes_lt_fileBytes (payload : RegistrationPayload) :
    payload.bytes.length < payload.fileBytes := by
  have hle := Json.length_compact_le payload.json 0 (0 + 1)
  have hnewline : (String.utf8EncodeChar '\n').length = 1 := rfl
  simp only [RegistrationPayload.bytes, Json.compact, RegistrationPayload.fileBytes,
    AuthenticatedRegistration.text, AuthenticatedRegistration.json, Json.pretty, Json.print,
    Json.printFields, utf8_cons, utf8_append, List.length_append, hnewline]
  omega

namespace RegistrationStore

variable (store : RegistrationStore)

/-! ## Until the removal -/

inductive Call where
  | install (request : RegistrationRequest) (nowUnixMs : UInt64) (secret : Secret)
      (faults : Vault.CreateFaults)
  | remove (registrationId : String) (faults : Vault.RemoveFaults)
  | load (registrationId : String)

def Call.isRemovalOf (registrationId : String) : Call → Bool
  | .remove registrationId' _ => registrationId' == registrationId
  | _ => false

def perform (call : Call) (vault : Vault) : Vault :=
  match call with
  | .install request nowUnixMs secret faults =>
      (store.install request nowUnixMs secret faults vault).2
  | .remove registrationId faults => (remove registrationId faults vault).2
  | .load _ => vault

def performAll (calls : List Call) (vault : Vault) : Vault :=
  calls.foldl (fun vault call => store.perform call vault) vault

variable {store}

variable {held : Secret} {nowUnixMs : UInt64} {secret : Secret} {registrationId : String}
  {request : RegistrationRequest} {text : List Char}

theorem Installs.keeps
    {faults : Vault.CreateFaults} {vault vault' : Vault}
    {result : Except RegistrationError RegistrationSummary}
    (h : store.Installs request nowUnixMs secret faults vault result vault')
    (hholds : vault.Holds registrationId registrationId text held) :
    vault'.Holds registrationId registrationId text held := by
  cases h with
  | refused error => exact hholds
  | created _ _ hcreated => exact hholds.created hcreated Iff.rfl

variable {vault : Vault}

section

variable (hholds : vault.Holds registrationId registrationId text held)
include hholds

theorem remove_keeps {registrationId' : String} (faults : Vault.RemoveFaults)
    (hne : registrationId ≠ registrationId') :
    (remove registrationId' faults vault).2.Holds registrationId registrationId text held := by
  rw [remove]
  split
  · exact hholds
  · exact hholds.removed faults hne hne

theorem perform_keeps {call : Call} (hcall : call.isRemovalOf registrationId = false) :
    (store.perform call vault).Holds registrationId registrationId text held := by
  cases call with
  | install request nowUnixMs secret faults => exact install_installs.keeps hholds
  | remove registrationId' faults =>
    have hne : registrationId' ≠ registrationId := by simpa [Call.isRemovalOf] using hcall
    exact remove_keeps hholds faults (Ne.symm hne)
  | load registrationId' => exact hholds

theorem performAll_keeps {calls : List Call}
    (hcalls : ∀ call ∈ calls, call.isRemovalOf registrationId = false) :
    (store.performAll calls vault).Holds registrationId registrationId text held :=
  List.foldlRecOn calls _ hholds fun _ hheld call hmem => perform_keeps hheld (hcalls call hmem)

end

/-- An installed payload is loaded, until its removal, exactly when its file is
within the bound. -/
theorem load_performAll_iff
    {faults : Vault.CreateFaults} {summary : RegistrationSummary}
    (hinstall : (store.install request nowUnixMs secret faults vault).1 = .ok summary)
    {calls : List Call}
    (hcalls : ∀ call ∈ calls, call.isRemovalOf request.registrationId = false) :
    store.load request.registrationId
        (store.performAll calls (store.install request nowUnixMs secret faults vault).2) =
      .ok (newPayload request nowUnixMs) ↔
      (newPayload request nowUnixMs).fileBytes ≤ maxRegistrationBytes := by
  have hinstalls : store.Installs request nowUnixMs secret faults vault _ _ := install_installs
  rw [hinstall] at hinstalls
  obtain ⟨hvalid, hholds⟩ := hinstalls.of_ok
  have hkept : (store.performAll calls _).Holds _ _ _ secret := performAll_keeps hholds hcalls
  rw [← length_authenticated store _ secret]
  exact load_of_holds (newPayload request nowUnixMs) rfl hvalid hkept

/-! ## What the tags prove -/

variable (store)

/-- The ledger after an installation: the secret is drawn and the payload tagged
once the request has passed its checks. -/
def recordInstall (request : RegistrationRequest) (nowUnixMs : UInt64) (secret : Secret)
    (faults : Vault.CreateFaults) (ledger : Ledger RegistrationPayload) :
    Ledger RegistrationPayload where
  vault := (store.install request nowUnixMs secret faults ledger.vault).2
  log :=
    match request.validate with
    | .error _ => ledger.log
    | .ok () =>
        if maxRegistrationBytes < (newPayload request nowUnixMs).bytes.length then ledger.log
        else ledger.log.draw secret (registrationDomain ++ (newPayload request nowUnixMs).bytes)
  installed :=
    match (store.install request nowUnixMs secret faults ledger.vault).1 with
    | .error _ => ledger.installed
    | .ok _ => (request.registrationId, newPayload request nowUnixMs) :: ledger.installed

/-- The ledger after an authorization that gave `token`. -/
def recordAuthorization (domain : List UInt8) (token : Except RegistrationError String)
    (registrationId : String) (ledger : Ledger RegistrationPayload) : Ledger RegistrationPayload :=
  match token, ledger.vault.secrets.lookup registrationId with
  | .ok _, some secret => ledger.withTag secret (domain ++ utf8 registrationId.toList)
  | _, _ => ledger

/-- The ledgers of a store that starts without secrets.  Each installation draws a
new secret, its faults meet the condition, and in between anybody may change the
files. -/
inductive Run (meets : Vault.CreateFaults → Prop) : Ledger RegistrationPayload → Prop where
  | start {ledger} (h : ledger.Fresh) : Run meets ledger
  | install {ledger} (h : Run meets ledger) (request : RegistrationRequest) (nowUnixMs : UInt64)
      (secret : Secret) (faults : Vault.CreateFaults) (hfresh : secret ∉ ledger.log.drawn)
      (hfaults : meets faults) :
      Run meets (store.recordInstall request nowUnixMs secret faults ledger)
  | remove {ledger} (h : Run meets ledger) (registrationId : String)
      (faults : Vault.RemoveFaults) :
      Run meets (ledger.withVault (remove registrationId faults ledger.vault).2)
  | httpAuthorization {ledger} (h : Run meets ledger) (registrationId : String) :
      Run meets (recordAuthorization httpAuthorizationDomain
        (store.httpAuthorization registrationId ledger.vault) registrationId ledger)
  | cliAuthorization {ledger} (h : Run meets ledger) (registrationId : String) :
      Run meets (recordAuthorization cliAuthorizationDomain
        (store.cliAuthorization registrationId ledger.vault) registrationId ledger)
  | tamper {ledger} (h : Run meets ledger) (files : Table String PrivateFile) :
      Run meets (ledger.withVault { ledger.vault with files := files })

/-- The tag in the file, when it is the right one, was computed by the store. -/
def Unforged (registrationId : String) (ledger : Ledger RegistrationPayload) : Prop :=
  ∀ text registration secret,
    ledger.vault.files.lookup registrationId = some ⟨text, .ownerOnly⟩ →
    store.decode text = some registration →
    ledger.vault.secrets.lookup registrationId = some secret →
    registration.macSha256 = store.authenticate secret registration.payload.bytes →
    (secret, registrationDomain ++ registration.payload.bytes) ∈ ledger.log.tags

variable {store}

theorem recordInstall_cases (store : RegistrationStore) (request : RegistrationRequest)
    (nowUnixMs : UInt64) (secret : Secret)
    (faults : Vault.CreateFaults) (ledger : Ledger RegistrationPayload) :
    store.recordInstall request nowUnixMs secret faults ledger = ledger ∨
      store.recordInstall request nowUnixMs secret faults ledger =
        ledger.create registrationDomain RegistrationPayload.bytes
          (store.entry (newPayload request nowUnixMs) secret) (newPayload request nowUnixMs)
          faults := by
  cases hvalid : request.validate with
  | error error =>
    left
    simp only [recordInstall, install, hvalid]
  | ok =>
    by_cases hsize : maxRegistrationBytes < (newPayload request nowUnixMs).bytes.length
    · left
      simp only [recordInstall, install, hvalid, if_pos hsize]
    · right
      cases hcreate : ledger.vault.createEntry
          (store.entry (newPayload request nowUnixMs) secret) faults with
      | mk result vault' =>
        cases result <;>
          simp only [recordInstall, install, hvalid, if_neg hsize, hcreate, Ledger.create] <;> rfl

variable {ledger : Ledger RegistrationPayload}

theorem reachable_recordAuthorization {domain : List UInt8}
    {token : Except RegistrationError String}
    (h : Ledger.Reachable registrationDomain RegistrationPayload.bytes ledger)
    (hdomain : ∀ payload, ¬ registrationDomain <+: domain ++ payload) :
    Ledger.Reachable registrationDomain RegistrationPayload.bytes
      (recordAuthorization domain token registrationId ledger) := by
  cases token with
  | error error => exact h
  | ok token =>
    cases hsecret : ledger.vault.secrets.lookup registrationId with
    | none => simpa only [recordAuthorization, hsecret] using h
    | some secret =>
      simp only [recordAuthorization, hsecret]
      exact h.step (.authorize registrationId secret _ hsecret (hdomain _))

theorem Run.reachable
    (h : store.Run (fun faults => faults.deleteFails = false) ledger) :
    Ledger.Reachable registrationDomain RegistrationPayload.bytes ledger := by
  induction h with
  | start h => exact .start h
  | install _ request nowUnixMs secret faults hfresh hfaults ih =>
    obtain heq | heq := store.recordInstall_cases request nowUnixMs secret faults _
    · rwa [heq]
    · rw [heq]
      exact ih.step (.create _ _ faults hfresh hfaults)
  | remove _ registrationId faults ih =>
    rw [RegistrationStore.remove]
    split
    · exact ih
    · exact ih.step (.remove registrationId registrationId faults)
  | httpAuthorization _ registrationId ih =>
    exact reachable_recordAuthorization ih
      (not_domain_of_take_ne 11 (by decide) (by decide) (by decide))
  | cliAuthorization _ registrationId ih =>
    exact reachable_recordAuthorization ih
      (not_domain_of_take_ne 11 (by decide) (by decide) (by decide))
  | tamper _ files ih => exact ih.step (.tamper files)

theorem installed_of_load
    (h : store.Run (fun faults => faults.deleteFails = false) ledger)
    {payload : RegistrationPayload} (hunforged : store.Unforged registrationId ledger)
    (hload : store.load registrationId ledger.vault = .ok payload) :
    (registrationId, payload) ∈ ledger.installed := by
  obtain ⟨_, text, registration, secret, hfile, _, hdecode, rfl, _, _, _, hsecret, hmac⟩ :=
    (load_eq_ok_iff store).mp hload
  have htag := hunforged text registration secret hfile hdecode hsecret hmac
  exact h.reachable.installed_of_tag RegistrationPayload.bytes_injective hsecret htag

/-- Until its removal an installed payload is loaded exactly when its file is within
the bound of a load.  In every run in which the secrets of failed installations are
deleted, and in which no tag is forged, what is loaded was installed under that
identity. -/
theorem load_iff_and_installed_of_load (store : RegistrationStore) :
    (∀ (request : RegistrationRequest) (nowUnixMs : UInt64) (secret : Secret)
      (faults : Vault.CreateFaults) (vault : Vault) (summary : RegistrationSummary)
      (calls : List Call),
      (store.install request nowUnixMs secret faults vault).1 = .ok summary →
      (∀ call ∈ calls, call.isRemovalOf request.registrationId = false) →
      (store.load request.registrationId
          (store.performAll calls (store.install request nowUnixMs secret faults vault).2) =
        .ok (newPayload request nowUnixMs) ↔
        (newPayload request nowUnixMs).fileBytes ≤ maxRegistrationBytes)) ∧
    ∀ ledger, store.Run (fun faults => faults.deleteFails = false) ledger →
      ∀ registrationId payload, store.Unforged registrationId ledger →
        store.load registrationId ledger.vault = .ok payload →
          (registrationId, payload) ∈ ledger.installed :=
  ⟨fun _ _ _ _ _ _ _ hinstall hcalls => load_performAll_iff hinstall hcalls,
    fun _ hrun _ _ hunforged hload => installed_of_load hrun hunforged hload⟩

/-! ## A registration that cannot be loaded -/

theorem fileBytes_readOnlyRequest (registrationId designatedRequirement : String)
    (nowUnixMs : UInt64) :
    (newPayload (readOnlyRequest registrationId designatedRequirement) nowUnixMs).fileBytes +
        (utf8 (Json.printString "")).length =
      (newPayload (readOnlyRequest registrationId "") nowUnixMs).fileBytes +
        (utf8 (Json.printString designatedRequirement)).length := by
  simp only [RegistrationPayload.fileBytes, AuthenticatedRegistration.text,
    AuthenticatedRegistration.json, Json.pretty, newPayload, RegistrationPayload.json,
    RegistrationRequest.json, readOnlyRequest, hostIdentityJson, signatureJson, optionJson,
    Json.print, Json.printFields, utf8_append, utf8_cons, List.length_append]
  omega

theorem fileBytes_shortRequest : (newPayload shortRequest 0).fileBytes = 1278 := by
  decide +kernel

theorem fileBytes_shortRequest_le :
    (newPayload shortRequest 0).fileBytes ≤ maxRegistrationBytes := by
  rw [fileBytes_shortRequest]
  decide

def paddedRequest (length : Nat) : RegistrationRequest :=
  readOnlyRequest "registration_0001" (String.ofList (List.replicate length 'a'))

theorem fileBytes_paddedRequest (length : Nat) :
    (newPayload (paddedRequest length) 0).fileBytes = 1278 + length := by
  have hsize := fileBytes_readOnlyRequest "registration_0001"
    (String.ofList (List.replicate length 'a')) 0
  have hplain : ∀ c ∈ (String.ofList (List.replicate length 'a')).toList,
      Json.isPlain c = true := by
    intro c hc
    rw [String.toList_ofList] at hc
    rw [List.eq_of_mem_replicate hc]
    rfl
  have hquotes : (utf8 (Json.printString "")).length = 2 := rfl
  rw [Json.length_printString_of_isPlain hplain, ← shortRequest, fileBytes_shortRequest, hquotes,
    String.length_ofList, List.length_replicate, ← Nat.add_assoc] at hsize
  exact Nat.add_right_cancel hsize

/-- Any store without faults installs a request of which it has nothing, when the
file is at most one byte too long. -/
theorem install_emptyVault {store : RegistrationStore} (hvalid : request.validate = .ok ())
    (hsize : (newPayload request nowUnixMs).fileBytes ≤ maxRegistrationBytes + 1) :
    (store.install request nowUnixMs secret Vault.noFaults emptyVault).1 =
      .ok (summary (newPayload request nowUnixMs)) := by
  have hlt := length_bytes_lt_fileBytes (newPayload request nowUnixMs)
  rw [install_noFaults hvalid (by omega) rfl rfl rfl]

theorem paddedRequest_not_loaded (length : Nat) (hlength : 1278 + length = 65537) :
    (parsingStore.install (paddedRequest length) 0 zeroSecret Vault.noFaults emptyVault).1 =
        .ok (summary (newPayload (paddedRequest length) 0)) ∧
      parsingStore.load (paddedRequest length).registrationId (parsingStore.install
          (paddedRequest length) 0 zeroSecret Vault.noFaults emptyVault).2 ≠
        .ok (newPayload (paddedRequest length) 0) := by
  have hsize := fileBytes_paddedRequest length
  have hbound : maxRegistrationBytes = 65536 := rfl
  have hinstall : (parsingStore.install (paddedRequest length) 0 zeroSecret Vault.noFaults
      emptyVault).1 = _ :=
    install_emptyVault (readOnlyRequest_validate (by decide)) (by omega)
  refine ⟨hinstall, fun hload => ?_⟩
  have hle := (load_performAll_iff hinstall (List.forall_mem_nil _)).mp hload
  omega

/-- A designated requirement of 64259 characters is accepted and cannot be loaded. -/
theorem install_ok_and_load_fails :
    (parsingStore.install (paddedRequest 64259) 0 zeroSecret Vault.noFaults emptyVault).1 =
        .ok (summary (newPayload (paddedRequest 64259) 0)) ∧
      parsingStore.load (paddedRequest 64259).registrationId (parsingStore.install
          (paddedRequest 64259) 0 zeroSecret Vault.noFaults emptyVault).2 ≠
        .ok (newPayload (paddedRequest 64259) 0) :=
  paddedRequest_not_loaded 64259 rfl

theorem unforged_recordInstall (ledger : Ledger RegistrationPayload) {summary : RegistrationSummary}
    (hinstall : (store.install request nowUnixMs secret faults ledger.vault).1 = .ok summary) :
    store.Unforged request.registrationId
      (store.recordInstall request nowUnixMs secret faults ledger) := by
  have hinstalls : store.Installs request nowUnixMs secret faults ledger.vault _ _ :=
    install_installs
  rw [hinstall] at hinstalls
  obtain ⟨hvalid, hholds⟩ := hinstalls.of_ok
  have hsize : ¬ maxRegistrationBytes < (newPayload request nowUnixMs).bytes.length := by
    intro hlarge
    simp [install, hvalid, hlarge] at hinstall
  intro text registration secret' hfile hdecode hsecret _
  cases hholds.file.symm.trans hfile
  cases hholds.secret.symm.trans hsecret
  cases (store.decode_text _ rfl hvalid).symm.trans hdecode
  simp only [recordInstall, hvalid, if_neg hsize]
  exact List.mem_cons_self

def shortLedger : Ledger RegistrationPayload :=
  parsingStore.recordInstall shortRequest 0 zeroSecret Vault.noFaults ⟨emptyVault, .empty, []⟩

theorem load_shortRequest :
    parsingStore.load "registration_0001" shortLedger.vault = .ok (newPayload shortRequest 0) ∧
      ("registration_0001", newPayload shortRequest 0) ∈ shortLedger.installed := by
  have hinstall : (parsingStore.install shortRequest 0 zeroSecret Vault.noFaults
      emptyVault).1 = _ :=
    install_emptyVault shortRequest_validate (Nat.le_succ_of_le fileBytes_shortRequest_le)
  obtain ⟨hloads, hinstalled⟩ := load_iff_and_installed_of_load parsingStore
  have hload : parsingStore.load "registration_0001" shortLedger.vault =
      .ok (newPayload shortRequest 0) := by
    simp only [shortLedger, recordInstall]
    exact (hloads shortRequest 0 zeroSecret Vault.noFaults emptyVault _ [] hinstall
      (by simp)).mpr fileBytes_shortRequest_le
  have hunforged := unforged_recordInstall ⟨emptyVault, .empty, []⟩ hinstall
  refine ⟨hload, hinstalled shortLedger ?_ _ _ hunforged hload⟩
  exact .install (.start ⟨rfl, fun _ => rfl⟩) _ _ _ _ List.not_mem_nil rfl

end RegistrationStore

end NexusCua.Provider
