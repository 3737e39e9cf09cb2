import NexusCua.Provider.IntegrationState

/-!
# Two stores with one secret store

Registrations and integration states have directories of their own but may share
the secret store, as they do on macOS.  A registration keeps its secret under its
identity, a state under `integration-state-` and its reference, and identities that
begin so are valid registration identities.  The stores keep apart exactly for
names that do not meet in this way.
-/

namespace NexusCua.Provider

open NexusCua.Foundation

structure ProviderState where
  registrationFiles : Table String PrivateFile
  registrationEntries : Nat
  stateFiles : Table String PrivateFile
  stateEntries : Nat
  secrets : Table String Secret

namespace ProviderState

def registrations (provider : ProviderState) : Vault :=
  ⟨provider.registrationFiles, provider.registrationEntries, provider.secrets⟩

def states (provider : ProviderState) : Vault :=
  ⟨provider.stateFiles, provider.stateEntries, provider.secrets⟩

def performRegistration (store : RegistrationStore) (call : RegistrationStore.Call)
    (provider : ProviderState) : ProviderState :=
  let vault := store.perform call provider.registrations
  { provider with
    registrationFiles := vault.files
    registrationEntries := vault.otherEntries
    secrets := vault.secrets }

def performState (store : IntegrationStore) (call : IntegrationStore.Call)
    (provider : ProviderState) : ProviderState :=
  let vault := store.perform call provider.states
  { provider with
    stateFiles := vault.files
    stateEntries := vault.otherEntries
    secrets := vault.secrets }

end ProviderState

/-! ## What a call leaves alone -/

def RegistrationStore.Call.registrationId : RegistrationStore.Call → String
  | .install request _ _ _ => request.registrationId
  | .remove registrationId _ => registrationId
  | .load registrationId => registrationId

def IntegrationStore.Call.stateRef : IntegrationStore.Call → String
  | .install stateRef _ _ _ => stateRef
  | .remove stateRef _ => stateRef
  | .load stateRef => stateRef

variable {secretId : String} {vault vault' : Vault}

theorem RegistrationStore.Installs.lookup_other_secret {store : RegistrationStore}
    {request : RegistrationRequest} {nowUnixMs : UInt64} {secret : Secret}
    {faults : Vault.CreateFaults}
    {result : Except RegistrationError RegistrationSummary}
    (h : store.Installs request nowUnixMs secret faults vault result vault')
    (hid : secretId ≠ request.registrationId) :
    vault'.secrets.lookup secretId = vault.secrets.lookup secretId := by
  cases h with
  | refused error => rfl
  | created _ _ hcreated => exact hcreated.lookup_other_secret hid

variable {faults : Vault.RemoveFaults}

theorem RegistrationStore.remove_other_secret {registrationId secretId : String}
    {vault : Vault} (h : secretId ≠ registrationId) :
    (RegistrationStore.remove registrationId faults vault).2.secrets.lookup secretId =
      vault.secrets.lookup secretId := by
  rw [RegistrationStore.remove]
  split
  · rfl
  · exact Vault.removeEntry_other_secret h

theorem RegistrationStore.perform_other_secret (store : RegistrationStore)
    (call : RegistrationStore.Call) (vault : Vault)
    (h : secretId ≠ call.registrationId) :
    (store.perform call vault).secrets.lookup secretId = vault.secrets.lookup secretId := by
  cases call with
  | install request nowUnixMs secret faults =>
    exact RegistrationStore.install_installs.lookup_other_secret h
  | remove registrationId faults => exact RegistrationStore.remove_other_secret h
  | load registrationId => rfl

theorem IntegrationStore.Installs.lookup_other_secret {store : IntegrationStore}
    {stateRef : String} {payload : List UInt8} {secret : Secret} {faults : Vault.CreateFaults}
    {result : Except RegistrationError Unit}
    (h : IntegrationStore.Installs store stateRef payload secret faults vault result vault')
    (hid : secretId ≠ stateSecretId stateRef) :
    vault'.secrets.lookup secretId = vault.secrets.lookup secretId := by
  cases h with
  | refused error => rfl
  | created _ hcreated => exact hcreated.lookup_other_secret hid

theorem IntegrationStore.remove_other_secret {stateRef secretId : String}
    {vault : Vault} (h : secretId ≠ stateSecretId stateRef) :
    (IntegrationStore.remove stateRef faults vault).2.secrets.lookup secretId =
      vault.secrets.lookup secretId := by
  rw [IntegrationStore.remove]
  split
  · rfl
  · exact Vault.removeEntry_other_secret h

theorem IntegrationStore.perform_other_secret (store : IntegrationStore)
    (call : IntegrationStore.Call) (vault : Vault)
    (h : secretId ≠ stateSecretId call.stateRef) :
    (store.perform call vault).secrets.lookup secretId = vault.secrets.lookup secretId := by
  cases call with
  | install stateRef payload secret faults =>
    exact IntegrationStore.install_installs.lookup_other_secret h
  | remove stateRef faults => exact IntegrationStore.remove_other_secret h
  | load stateRef => rfl

/-! ## What a load reads -/

theorem RegistrationStore.load_congr (store : RegistrationStore) {registrationId : String}
    (hfile : vault'.files.lookup registrationId = vault.files.lookup registrationId)
    (hsecret : vault'.secrets.lookup registrationId = vault.secrets.lookup registrationId) :
    store.load registrationId vault' = store.load registrationId vault := by
  simp only [RegistrationStore.load, RegistrationStore.check, Vault.readPrivateFile,
    Vault.getSecret, hfile, hsecret]

theorem IntegrationStore.load_congr (store : IntegrationStore) {stateRef : String}
    (hfile : vault'.files.lookup stateRef = vault.files.lookup stateRef)
    (hsecret : vault'.secrets.lookup (stateSecretId stateRef) =
      vault.secrets.lookup (stateSecretId stateRef)) :
    store.load stateRef vault' = store.load stateRef vault := by
  simp only [IntegrationStore.load, IntegrationStore.check, Vault.readPrivateFile,
    Vault.getSecret, hfile, hsecret]

/-! ## Names that keep apart -/

/-- No call of one store on its name changes a load of the other on its name. -/
def KeepApart (registrations : RegistrationStore) (states : IntegrationStore)
    (registrationId stateRef : String) : Prop :=
  ∀ provider : ProviderState,
    (∀ call : RegistrationStore.Call, call.registrationId = registrationId →
      states.load stateRef (provider.performRegistration registrations call).states =
        states.load stateRef provider.states) ∧
    ∀ call : IntegrationStore.Call, call.stateRef = stateRef →
      registrations.load registrationId (provider.performState states call).registrations =
        registrations.load registrationId provider.registrations

variable {registrations : RegistrationStore} {states : IntegrationStore}
  {registrationId stateRef : String}

theorem keepApart_of_ne (h : registrationId ≠ stateSecretId stateRef) :
    KeepApart registrations states registrationId stateRef := by
  intro provider
  constructor
  · rintro call rfl
    exact states.load_congr rfl (registrations.perform_other_secret call _ (Ne.symm h))
  · rintro call rfl
    exact registrations.load_congr rfl (states.perform_other_secret call _ h)

/-! ## Names that meet -/

def emptyProvider : ProviderState := ⟨∅, 0, ∅, 0, ∅⟩

def oneState (states : IntegrationStore) (stateRef : String) : ProviderState :=
  emptyProvider.performState states (.install stateRef [0] zeroSecret Vault.noFaults)

theorem load_oneState (hstate : validateRegistrationId stateRef = .ok ()) :
    states.load stateRef (oneState states stateRef).states = .ok [0] := by
  have hcheck : IntegrationStore.checkInstall stateRef [0] = .ok () :=
    IntegrationStore.checkInstall_eq_ok_iff.mpr ⟨hstate, rfl⟩
  have hcreate : emptyProvider.states.createEntry (states.entry stateRef [0] zeroSecret)
      Vault.noFaults = _ :=
    Vault.createEntry_noFaults rfl rfl rfl
  have hinstall : (states.install stateRef [0] zeroSecret Vault.noFaults
      emptyProvider.states).1 = .ok () := by
    simp only [IntegrationStore.install, hcheck, hcreate]
  obtain ⟨_, hholds⟩ := IntegrationStore.holds_after_install hinstall (List.forall_mem_nil _)
  exact IntegrationStore.load_of_holds hcheck hholds

/-- Removing the registration whose identity is the identity of the state's secret
deletes that secret. -/
theorem load_after_removal {payload : List UInt8}
    (hid : validateRegistrationId (stateSecretId stateRef) = .ok ()) :
    states.load stateRef ((oneState states stateRef).performRegistration registrations
      (.remove (stateSecretId stateRef) Vault.noRemoveFaults)).states ≠ .ok payload := by
  intro hload
  obtain ⟨_, _, _, secret, _, _, _, _, _, _, hsecret, _⟩ := (states.load_eq_ok_iff).mp hload
  have hok : ((oneState states stateRef).registrations.removeEntry (stateSecretId stateRef)
      (stateSecretId stateRef) Vault.noRemoveFaults).1 = .ok () := rfl
  have hremove := Vault.removeEntry_ok hok
  simp only [ProviderState.performRegistration, RegistrationStore.perform,
    RegistrationStore.remove, hid, ProviderState.states] at hsecret
  rw [hremove.2] at hsecret
  cases hsecret

/-- Valid names keep apart exactly when the registration identity is not the secret
identity of the state. -/
theorem keepApart_iff (registrations : RegistrationStore) (states : IntegrationStore)
    (registrationId stateRef : String)
    (hid : validateRegistrationId registrationId = .ok ())
    (hstate : validateRegistrationId stateRef = .ok ()) :
    KeepApart registrations states registrationId stateRef ↔
      registrationId ≠ stateSecretId stateRef := by
  constructor
  · rintro hapart rfl
    have hsame := (hapart (oneState states stateRef)).1
      (.remove (stateSecretId stateRef) Vault.noRemoveFaults) rfl
    rw [load_oneState hstate] at hsame
    exact load_after_removal hid hsame
  · exact keepApart_of_ne

theorem removal_of_registration_breaks_load :
    parsingStates.load "state_0000000001" (oneState parsingStates "state_0000000001").states =
        .ok [0] ∧
      parsingStates.load "state_0000000001"
        ((oneState parsingStates "state_0000000001").performRegistration parsingStore
          (.remove "integration-state-state_0000000001" Vault.noRemoveFaults)).states ≠ .ok [0] :=
  ⟨load_oneState (by decide), load_after_removal (by decide)⟩

theorem keepApart_other_name :
    KeepApart parsingStore parsingStates "registration_0001" "state_0000000001" :=
  (keepApart_iff _ _ "registration_0001" "state_0000000001" (by decide) (by decide)).mpr (by decide)

end NexusCua.Provider
