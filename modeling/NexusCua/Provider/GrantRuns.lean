import NexusCua.Provider.Grants
import NexusCua.Provider.RegistrationRuns

/-!
# Revocation over time

Runs of the registration store and its provider, with a record of the grants that
were acquired, of those whose registration was removed since, and of those that no
admission has found expired.
-/

namespace NexusCua.Provider

open NexusCua.Foundation NexusCua.Mcp

namespace RegisteredAuthorityProvider

/-! ## Admission -/

def unexpired (nowUnixMs : Nat) (active : Table String ActiveGrant) : Table String ActiveGrant :=
  active.retain fun _ value => nowUnixMs < value.grant.expiresAtUnixMs

theorem lookup_unexpired (nowUnixMs : Nat) (active : Table String ActiveGrant) (key : String)
    (issued : ActiveGrant) : (unexpired nowUnixMs active).lookup key = some issued ↔
      active.lookup key = some issued ∧ nowUnixMs < issued.grant.expiresAtUnixMs := by
  rw [unexpired, Table.lookup_retain]
  simp [Option.filter_eq_some_iff]

/-- An admission forgets what has expired and, for a new key below the bound,
remembers the grant. -/
theorem admitChallenge_cases (challenge : AuthorityChallenge) (nowUnixMs : Nat)
    (issued : ActiveGrant) (active : Table String ActiveGrant) :
    (∃ error, admitChallenge challenge nowUnixMs issued active =
      (.error error, unexpired nowUnixMs active)) ∨
    (unexpired nowUnixMs active).lookup
        (challengeKey challenge.registrationId challenge.adapterNonce) = none ∧
      (unexpired nowUnixMs active).size < maxActiveChallenges ∧
      admitChallenge challenge nowUnixMs issued active =
        (.ok (), (unexpired nowUnixMs active).insert
          (challengeKey challenge.registrationId challenge.adapterNonce) issued) := by
  cases hkey : (unexpired nowUnixMs active).lookup
      (challengeKey challenge.registrationId challenge.adapterNonce) with
  | some held =>
    left
    refine ⟨.denied, ?_⟩
    rw [unexpired] at hkey
    simp only [admitChallenge, hkey, unexpired]
  | none =>
    by_cases hsize : maxActiveChallenges ≤ (unexpired nowUnixMs active).size
    · left
      refine ⟨.unavailable, ?_⟩
      rw [unexpired] at hkey hsize
      simp only [admitChallenge, hkey, if_pos hsize, unexpired]
    · right
      refine ⟨rfl, Nat.lt_of_not_le hsize, ?_⟩
      rw [unexpired] at hkey hsize
      simp only [admitChallenge, hkey, if_neg hsize, unexpired]

/-! ## Histories -/

structure History where
  provider : RegisteredAuthorityProvider
  acquired : List ActiveGrant
  revoked : List ActiveGrant
  live : List AuthorityGrant

namespace History

def stillLive (nowUnixMs : Nat) (live : List AuthorityGrant) : List AuthorityGrant :=
  live.filter fun grant => nowUnixMs < grant.expiresAtUnixMs

def grantKey (grant : AuthorityGrant) : String :=
  challengeKey grant.registrationId grant.adapterNonce

section Records

variable (store : RegistrationStore) (sha256 : List UInt8 → Sha256)

def install (request : RegistrationRequest) (nowUnixMs : UInt64) (secret : Secret)
    (faults : Vault.CreateFaults) (history : History) : History :=
  { history with provider := { history.provider with
      vault := (store.install request nowUnixMs secret faults history.provider.vault).2 } }

def remove (registrationId : String) (faults : Vault.RemoveFaults) (history : History) : History :=
  { history with
    provider := { history.provider with
      vault := (RegistrationStore.remove registrationId faults history.provider.vault).2 }
    revoked :=
      match (RegistrationStore.remove registrationId faults history.provider.vault).1 with
      | .error _ => history.revoked
      | .ok () =>
          history.acquired.filter (fun issued => issued.grant.registrationId == registrationId) ++
            history.revoked }

def acquire (challenge : AuthorityChallenge) (fault : Option RegistrationError)
    (identity : Except RegistrationError HostExecutableIdentity) (clock : Option Nat)
    (requestNamespace : String) (history : History) : History :=
  let (result, provider) := RegisteredAuthorityProvider.acquire store sha256 challenge fault
    identity clock requestNamespace history.provider
  match prepare store sha256 challenge fault identity clock requestNamespace
      history.provider.vault, result with
  | .error _, _ => { history with provider := provider }
  | .ok (nowUnixMs, _), .error _ =>
      { history with provider := provider, live := stillLive nowUnixMs history.live }
  | .ok (nowUnixMs, issued), .ok grant =>
      { history with
        provider := provider
        acquired := issued :: history.acquired
        live := grant :: stillLive nowUnixMs history.live }

/-- The provider starts without challenges over any store.  A namespace is never
drawn twice, and every installation meets the condition.  `validate` changes
nothing. -/
inductive Run (meets : History → RegistrationRequest → Prop) : History → Prop where
  | start (vault : Vault) : Run meets ⟨⟨vault, ∅⟩, [], [], []⟩
  | install {history} (h : Run meets history) (request : RegistrationRequest) (nowUnixMs : UInt64)
      (secret : Secret) (faults : Vault.CreateFaults) (hmeets : meets history request) :
      Run meets (history.install store request nowUnixMs secret faults)
  | remove {history} (h : Run meets history) (registrationId : String)
      (faults : Vault.RemoveFaults) : Run meets (history.remove registrationId faults)
  | acquire {history} (h : Run meets history) (challenge : AuthorityChallenge)
      (fault : Option RegistrationError)
      (identity : Except RegistrationError HostExecutableIdentity) (clock : Option Nat)
      (requestNamespace : String)
      (hfresh : ∀ issued ∈ history.acquired, issued.grant.requestNamespace ≠ requestNamespace) :
      Run meets (history.acquire store sha256 challenge fault identity clock requestNamespace)

/-- The request is not the one, up to its digest, of a removed registration of the
same identity for which a grant was acquired. -/
def Differs (history : History) (request : RegistrationRequest) : Prop :=
  ∀ issued ∈ history.revoked, issued.grant.registrationId = request.registrationId →
    registrationDigest sha256 request ≠ issued.registrationDigest

end Records

theorem acquire_cases (store : RegistrationStore) (sha256 : List UInt8 → Sha256)
    (challenge : AuthorityChallenge) (fault : Option RegistrationError)
    (identity : Except RegistrationError HostExecutableIdentity) (clock : Option Nat)
    (requestNamespace : String) (history : History) :
    history.acquire store sha256 challenge fault identity clock requestNamespace = history ∨
    ∃ nowUnixMs issued, prepare store sha256 challenge fault identity clock requestNamespace
        history.provider.vault = .ok (nowUnixMs, issued) ∧
      (history.acquire store sha256 challenge fault identity clock requestNamespace =
        { history with
          provider := ⟨history.provider.vault,
            unexpired nowUnixMs history.provider.activeChallenges⟩
          live := stillLive nowUnixMs history.live } ∨
      (unexpired nowUnixMs history.provider.activeChallenges).lookup
          (challengeKey challenge.registrationId challenge.adapterNonce) = none ∧
        (unexpired nowUnixMs history.provider.activeChallenges).size < maxActiveChallenges ∧
        history.acquire store sha256 challenge fault identity clock requestNamespace =
          { history with
            provider := ⟨history.provider.vault,
              (unexpired nowUnixMs history.provider.activeChallenges).insert
                (challengeKey challenge.registrationId challenge.adapterNonce) issued⟩
            acquired := issued :: history.acquired
            live := issued.grant :: stillLive nowUnixMs history.live }) := by
  cases hprepare : prepare store sha256 challenge fault identity clock requestNamespace
      history.provider.vault with
  | error error =>
    left
    simp only [acquire, RegisteredAuthorityProvider.acquire, hprepare]
  | ok prepared =>
    obtain ⟨nowUnixMs, issued⟩ := prepared
    refine .inr ⟨nowUnixMs, issued, rfl, ?_⟩
    obtain ⟨error, hadmit⟩ | ⟨hkey, hsize, hadmit⟩ :=
      admitChallenge_cases challenge nowUnixMs issued history.provider.activeChallenges
    · left
      simp only [acquire, RegisteredAuthorityProvider.acquire, hprepare, hadmit, Except.map]
    · refine .inr ⟨hkey, hsize, ?_⟩
      simp only [acquire, RegisteredAuthorityProvider.acquire, hprepare, hadmit, Except.map]

/-! ## What every run keeps -/

/-- The remembered grants are acquired ones, told apart by their namespaces, and the
live ones are among them. -/
structure Recorded (history : History) : Prop where
  active_acquired : ∀ key issued, history.provider.activeChallenges.lookup key = some issued →
    issued ∈ history.acquired
  eq_of_namespace : ∀ issued ∈ history.acquired, ∀ issued' ∈ history.acquired,
    issued.grant.requestNamespace = issued'.grant.requestNamespace → issued = issued'
  revoked_acquired : ∀ issued ∈ history.revoked, issued ∈ history.acquired
  live_active : ∀ grant ∈ history.live, ∃ issued,
    history.provider.activeChallenges.lookup (grantKey grant) = some issued ∧ issued.grant = grant
  live_nodup : (history.live.map grantKey).Nodup
  bounded : history.provider.activeChallenges.size ≤ maxActiveChallenges

section Keeping

variable {store : RegistrationStore} {sha256 : List UInt8 → Sha256} {history : History}

theorem recorded_start (vault : Vault) : Recorded ⟨⟨vault, ∅⟩, [], [], []⟩ where
  active_acquired key issued h := by simp at h
  eq_of_namespace issued h := by simp at h
  revoked_acquired issued h := by simp at h
  live_active grant h := by simp at h
  live_nodup := List.nodup_nil
  bounded := Nat.zero_le _

theorem recorded_remove (h : history.Recorded) (registrationId : String)
    (faults : Vault.RemoveFaults) : (history.remove registrationId faults).Recorded where
  active_acquired := h.active_acquired
  eq_of_namespace := h.eq_of_namespace
  revoked_acquired issued hissued := by
    simp only [remove] at hissued
    split at hissued
    · exact h.revoked_acquired issued hissued
    · obtain hnew | hold := List.mem_append.mp hissued
      · exact List.mem_of_mem_filter hnew
      · exact h.revoked_acquired issued hold
  live_active := h.live_active
  live_nodup := h.live_nodup
  bounded := h.bounded

variable {grant : AuthorityGrant} {nowUnixMs : Nat}

theorem mem_stillLive {live : List AuthorityGrant} :
    grant ∈ stillLive nowUnixMs live ↔ grant ∈ live ∧ nowUnixMs < grant.expiresAtUnixMs := by
  simp [stillLive]

section

variable (h : history.Recorded)
include h

theorem lookup_unexpired_of_live
    (hgrant : grant ∈ stillLive nowUnixMs history.live) :
    ∃ issued, (unexpired nowUnixMs history.provider.activeChallenges).lookup (grantKey grant) =
      some issued ∧ issued.grant = grant := by
  obtain ⟨hlive, hexpires⟩ := mem_stillLive.mp hgrant
  obtain ⟨issued, hlookup, rfl⟩ := h.live_active grant hlive
  exact ⟨issued, (lookup_unexpired _ _ _ _).mpr ⟨hlookup, hexpires⟩, rfl⟩

theorem nodup_stillLive (nowUnixMs : Nat) :
    ((stillLive nowUnixMs history.live).map grantKey).Nodup :=
  h.live_nodup.sublist (List.filter_sublist.map grantKey)

theorem recorded_refused (nowUnixMs : Nat) :
    Recorded { history with
      provider := ⟨history.provider.vault, unexpired nowUnixMs history.provider.activeChallenges⟩
      live := stillLive nowUnixMs history.live } where
  active_acquired key issued hlookup :=
    h.active_acquired key issued ((lookup_unexpired _ _ _ _).mp hlookup).1
  eq_of_namespace := h.eq_of_namespace
  revoked_acquired := h.revoked_acquired
  live_active _ hgrant := lookup_unexpired_of_live h hgrant
  live_nodup := nodup_stillLive h nowUnixMs
  bounded := Nat.le_trans (Table.size_retain_le _ _) h.bounded

theorem recorded_granted {issued : ActiveGrant}
    (hfresh : ∀ issued' ∈ history.acquired,
      issued'.grant.requestNamespace ≠ issued.grant.requestNamespace)
    (hkey : (unexpired nowUnixMs history.provider.activeChallenges).lookup (grantKey issued.grant) =
      none)
    (hsize : (unexpired nowUnixMs history.provider.activeChallenges).size < maxActiveChallenges) :
    Recorded { history with
      provider := ⟨history.provider.vault,
        (unexpired nowUnixMs history.provider.activeChallenges).insert
          (grantKey issued.grant) issued⟩
      acquired := issued :: history.acquired
      live := issued.grant :: stillLive nowUnixMs history.live } where
  active_acquired key issued' hlookup := by
    rw [Table.lookup_insert_eq] at hlookup
    split at hlookup
    · rw [← Option.some.inj hlookup]
      exact List.mem_cons_self
    · exact List.mem_cons_of_mem _
        (h.active_acquired key issued' ((lookup_unexpired _ _ _ _).mp hlookup).1)
  eq_of_namespace a ha b hb hsame := by
    obtain rfl | hold := List.mem_cons.mp ha
    · obtain rfl | hold' := List.mem_cons.mp hb
      · rfl
      · exact absurd hsame.symm (hfresh b hold')
    · obtain rfl | hold' := List.mem_cons.mp hb
      · exact absurd hsame (hfresh a hold)
      · exact h.eq_of_namespace a hold b hold' hsame
  revoked_acquired issued' hissued' := List.mem_cons_of_mem _ (h.revoked_acquired issued' hissued')
  live_active grant hgrant := by
    obtain rfl | hgrant := List.mem_cons.mp hgrant
    · exact ⟨issued, AList.lookup_insert _, rfl⟩
    · obtain ⟨issued', hlookup, rfl⟩ := lookup_unexpired_of_live h hgrant
      refine ⟨issued', ?_, rfl⟩
      have hne : grantKey issued'.grant ≠ grantKey issued.grant := by
        intro heq
        rw [heq, hkey] at hlookup
        cases hlookup
      simp only [Table.lookup_insert_eq, if_neg hne, hlookup]
  live_nodup := by
    rw [List.map_cons, List.nodup_cons]
    refine ⟨fun hmem => ?_, nodup_stillLive h nowUnixMs⟩
    obtain ⟨grant, hgrant, heq⟩ := List.mem_map.mp hmem
    obtain ⟨issued', hlookup, _⟩ := lookup_unexpired_of_live h hgrant
    rw [heq, hkey] at hlookup
    cases hlookup
  bounded := Nat.le_trans (Table.size_insert_le _ _ _) hsize

theorem recorded_acquire (challenge : AuthorityChallenge)
    (fault : Option RegistrationError) (identity : Except RegistrationError HostExecutableIdentity)
    (clock : Option Nat) (requestNamespace : String)
    (hfresh : ∀ issued ∈ history.acquired, issued.grant.requestNamespace ≠ requestNamespace) :
    (history.acquire store sha256 challenge fault identity clock requestNamespace).Recorded := by
  obtain heq | ⟨nowUnixMs, issued, hprepare, heq | ⟨hkey, hsize, heq⟩⟩ :=
    acquire_cases store sha256 challenge fault identity clock requestNamespace history
  · rwa [heq]
  · rw [heq]
    exact recorded_refused h nowUnixMs
  · obtain ⟨_, rfl, hid, hnonce⟩ := prepare_eq_ok hprepare
    rw [heq]
    rw [← hid, ← hnonce] at hkey ⊢
    exact recorded_granted h hfresh hkey hsize

end

theorem Run.recorded {meets : History → RegistrationRequest → Prop}
    (h : Run store sha256 meets history) : history.Recorded := by
  induction h with
  | start vault => exact recorded_start vault
  | install _ request nowUnixMs secret faults _ ih =>
    exact ⟨ih.active_acquired, ih.eq_of_namespace, ih.revoked_acquired, ih.live_active,
      ih.live_nodup, ih.bounded⟩
  | remove _ registrationId faults ih => exact recorded_remove ih registrationId faults
  | acquire _ challenge fault identity clock requestNamespace hfresh ih =>
    exact recorded_acquire ih challenge fault identity clock requestNamespace hfresh

theorem length_live_le (h : history.Recorded) : history.live.length ≤ maxActiveChallenges := by
  have hsubset : history.live.map grantKey ⊆ history.provider.activeChallenges.keys := by
    intro key hkey
    obtain ⟨grant, hgrant, rfl⟩ := List.mem_map.mp hkey
    obtain ⟨issued, hlookup, _⟩ := h.live_active grant hgrant
    exact Table.mem_of_lookup hlookup
  calc history.live.length = (history.live.map grantKey).length := by rw [List.length_map]
    _ ≤ history.provider.activeChallenges.keys.length :=
      (List.subperm_of_subset h.live_nodup hsubset).length_le
    _ = history.provider.activeChallenges.size := List.length_map _
    _ ≤ maxActiveChallenges := h.bounded

theorem nonce_new (h : history.Recorded) {challenge : AuthorityChallenge}
    {fault : Option RegistrationError} {identity : Except RegistrationError HostExecutableIdentity}
    {requestNamespace : String}
    (hacquire : (RegisteredAuthorityProvider.acquire store sha256 challenge fault identity
      (some nowUnixMs) requestNamespace history.provider).1 = .ok grant)
    {held : AuthorityGrant} (hheld : held ∈ stillLive nowUnixMs history.live) :
    ¬ (held.registrationId = challenge.registrationId ∧
      held.adapterNonce = challenge.adapterNonce) := by
  rintro ⟨hid, hnonce⟩
  cases hprepare : prepare store sha256 challenge fault identity (some nowUnixMs) requestNamespace
      history.provider.vault with
  | error error => simp [RegisteredAuthorityProvider.acquire, hprepare] at hacquire
  | ok prepared =>
    obtain ⟨now, issued⟩ := prepared
    obtain ⟨hclock, _⟩ := prepare_eq_ok hprepare
    obtain rfl := Option.some.inj hclock
    obtain ⟨error, hadmit⟩ | ⟨hkey, _, _⟩ :=
      admitChallenge_cases challenge nowUnixMs issued history.provider.activeChallenges
    · simp [RegisteredAuthorityProvider.acquire, hprepare, hadmit, Except.map] at hacquire
    · obtain ⟨issued', hlookup, _⟩ := lookup_unexpired_of_live h hheld
      rw [grantKey, hid, hnonce, hkey] at hlookup
      cases hlookup

/-! ## What revocation keeps -/

/-- No file under the identity of a revoked grant decodes to a request with the
grant's digest. -/
def Displaced (store : RegistrationStore) (sha256 : List UInt8 → Sha256) (history : History) :
    Prop :=
  ∀ issued ∈ history.revoked, ∀ file registration,
    history.provider.vault.files.lookup issued.grant.registrationId = some file →
    store.decode file.text = some registration →
    registrationDigest sha256 registration.payload.request ≠ issued.registrationDigest

theorem request_of_installs {request : RegistrationRequest} {nowUnixMs : UInt64} {secret : Secret}
    {faults : Vault.CreateFaults} {vault vault' : Vault}
    {result : Except RegistrationError RegistrationSummary}
    (h : store.Installs request nowUnixMs secret faults vault result vault')
    {registrationId : String}
    {file : PrivateFile} {registration : AuthenticatedRegistration}
    (hfile : vault'.files.lookup registrationId = some file)
    (hdecode : store.decode file.text = some registration) :
    vault.files.lookup registrationId = some file ∨
      registrationId = request.registrationId ∧ registration.payload.request = request := by
  cases h with
  | refused error => exact .inl hfile
  | created hvalid _ hcreated =>
    by_cases hid : registrationId = request.registrationId
    · subst hid
      obtain hold | ⟨n, htext⟩ := hcreated.file_cases hfile
      · exact .inl hold
      · rw [htext] at hdecode
        have hsame := store.decode_take _ _ n rfl hvalid hdecode
        exact .inr ⟨rfl, by rw [hsame]; rfl⟩
    · exact .inl ((hcreated.lookup_other_file hid).symm.trans hfile)

theorem displaced_install (h : history.Displaced store sha256) {request : RegistrationRequest}
    (nowUnixMs : UInt64) (secret : Secret) (faults : Vault.CreateFaults)
    (hdiffers : history.Differs sha256 request) :
    (history.install store request nowUnixMs secret faults).Displaced store sha256 := by
  intro issued hissued file registration hfile hdecode
  obtain hold | ⟨hid, hrequest⟩ :=
    request_of_installs RegistrationStore.install_installs hfile hdecode
  · exact h issued hissued file registration hold hdecode
  · rw [hrequest]
    exact hdiffers issued hissued hid

theorem files_remove {registrationId registrationId' : String} {faults : Vault.RemoveFaults}
    {vault : Vault} {file : PrivateFile}
    (h : (RegistrationStore.remove registrationId faults vault).2.files.lookup registrationId' =
      some file) :
    vault.files.lookup registrationId' = some file ∧
      ((RegistrationStore.remove registrationId faults vault).1 = .ok () →
        registrationId' ≠ registrationId) := by
  rw [RegistrationStore.remove] at h ⊢
  split at h
  case h_1 error _ => exact ⟨h, fun hok => by cases hok⟩
  case h_2 =>
    by_cases hid : registrationId' = registrationId
    · subst hid
      refine ⟨Vault.removeEntry_file h, fun hok => ?_⟩
      rw [(Vault.removeEntry_ok hok).1] at h
      cases h
    · exact ⟨(Vault.removeEntry_other_file hid).symm.trans h, fun _ => hid⟩

theorem displaced_remove (h : history.Displaced store sha256) (registrationId : String)
    (faults : Vault.RemoveFaults) :
    (history.remove registrationId faults).Displaced store sha256 := by
  intro issued hissued file registration hfile hdecode
  obtain ⟨hold, hne⟩ := files_remove hfile
  simp only [remove] at hissued
  split at hissued
  · exact h issued hissued file registration hold hdecode
  case h_2 hok =>
    obtain hnew | hrevoked := List.mem_append.mp hissued
    · have hid : issued.grant.registrationId = registrationId := by
        simpa using (List.mem_filter.mp hnew).2
      exact absurd hid (hne hok)
    · exact h issued hrevoked file registration hold hdecode

theorem displaced_acquire (h : history.Displaced store sha256) (challenge : AuthorityChallenge)
    (fault : Option RegistrationError) (identity : Except RegistrationError HostExecutableIdentity)
    (clock : Option Nat) (requestNamespace : String) :
    (history.acquire store sha256 challenge fault identity clock requestNamespace).Displaced store
      sha256 := by
  obtain heq | ⟨_, _, _, heq | ⟨_, _, heq⟩⟩ :=
    acquire_cases store sha256 challenge fault identity clock requestNamespace history
  all_goals
    rw [heq]
    exact h

theorem Run.displaced (h : Run store sha256 (Differs sha256) history) :
    history.Displaced store sha256 := by
  induction h with
  | start vault => exact fun issued hissued => by cases hissued
  | install _ request nowUnixMs secret faults hdiffers ih =>
    exact displaced_install ih nowUnixMs secret faults hdiffers
  | remove _ registrationId faults ih => exact displaced_remove ih registrationId faults
  | acquire _ challenge fault identity clock requestNamespace _ ih =>
    exact displaced_acquire ih challenge fault identity clock requestNamespace

theorem validate_revoked (hrecorded : history.Recorded)
    (hdisplaced : history.Displaced store sha256)
    {issued : ActiveGrant} (hissued : issued ∈ history.revoked) (clock : Option Nat)
    (fault : Option RegistrationError) :
    validate store sha256 issued.grant.metadata clock fault history.provider ≠ .ok () := by
  intro hvalid
  obtain ⟨key, issued', payload, hlookup, hnamespace, hload, hdigest⟩ := validate_ok hvalid
  obtain rfl : issued' = issued :=
    hrecorded.eq_of_namespace issued' (hrecorded.active_acquired key issued' hlookup) issued
      (hrecorded.revoked_acquired issued hissued) hnamespace
  obtain ⟨_, text, registration, _, hfile, _, hdecode, rfl, _⟩ :=
    (RegistrationStore.load_eq_ok_iff store).mp hload
  exact hdisplaced issued' hissued _ registration hfile hdecode hdigest

end Keeping

/-- In every run in which no request of a removed registration with a grant is
installed again, the grants acquired before a removal stay invalid.  In every run a
nonce is granted once while its grant lives, and the live grants are bounded. -/
theorem revoked_invalid_and_nonces_new (store : RegistrationStore) (sha256 : List UInt8 → Sha256) :
    (∀ history, Run store sha256 (Differs sha256) history → ∀ issued ∈ history.revoked,
      ∀ clock fault,
        validate store sha256 issued.grant.metadata clock fault history.provider ≠ .ok ()) ∧
    ∀ meets history, Run store sha256 meets history →
      (∀ challenge fault identity nowUnixMs requestNamespace grant,
        (RegisteredAuthorityProvider.acquire store sha256 challenge fault identity (some nowUnixMs)
          requestNamespace history.provider).1 = .ok grant →
        ∀ held ∈ history.live, nowUnixMs < held.expiresAtUnixMs →
          ¬ (held.registrationId = challenge.registrationId ∧
            held.adapterNonce = challenge.adapterNonce)) ∧
      history.live.length ≤ maxActiveChallenges := by
  constructor
  · intro history hrun issued hissued clock fault
    exact validate_revoked hrun.recorded hrun.displaced hissued clock fault
  · intro meets history hrun
    refine ⟨?_, length_live_le hrun.recorded⟩
    intro challenge fault identity nowUnixMs requestNamespace grant hacquire held hheld hexpires
    exact nonce_new hrun.recorded hacquire (mem_stillLive.mpr ⟨hheld, hexpires⟩)

/-! ## A grant that comes back -/

section Reinstalled

variable (store : RegistrationStore) (sha256 : List UInt8 → Sha256) (request : RegistrationRequest)

def zeroUuid : String := "00000000000000000000000000000000"

def challengeOf : AuthorityChallenge := ⟨request.registrationId, "nonce", "epoch", none⟩

def issuedTo : ActiveGrant :=
  ⟨grantFor request (challengeOf request) 0 ("ns_" ++ zeroUuid), registrationDigest sha256 request⟩

def oneSecret : Secret := ⟨List.replicate 32 1, by decide⟩

def initial : History := ⟨⟨emptyVault, ∅⟩, [], [], []⟩

def installed : History := initial.install store request 0 zeroSecret Vault.noFaults

def granted : History :=
  (installed store request).acquire store sha256 (challengeOf request) none
    (.ok request.hostIdentity) (some 0) ("ns_" ++ zeroUuid)

def removed : History :=
  (granted store sha256 request).remove request.registrationId Vault.noRemoveFaults

def reinstalled : History :=
  (removed store sha256 request).install store request 1 oneSecret Vault.noFaults

variable {store} {sha256} {request}

section

variable (hvalid : request.validate = .ok ())
include hvalid

theorem load_install {vault : Vault} {nowUnixMs : UInt64} {secret : Secret}
    (hsize : (RegistrationStore.newPayload request nowUnixMs).fileBytes ≤ maxRegistrationBytes)
    (hfile : vault.files.lookup request.registrationId = none)
    (hcapacity : vault.hasJsonCapacity maxRegistrations maxStateRootEntries = true)
    (hsecret : vault.secrets.lookup request.registrationId = none) :
    store.load request.registrationId
        (store.install request nowUnixMs secret Vault.noFaults vault).2 =
      .ok (RegistrationStore.newPayload request nowUnixMs) := by
  have hlt := length_bytes_lt_fileBytes (RegistrationStore.newPayload request nowUnixMs)
  have hinstall : (store.install request nowUnixMs secret Vault.noFaults vault).1 =
      .ok (summary (RegistrationStore.newPayload request nowUnixMs)) := by
    rw [RegistrationStore.install_noFaults hvalid (by omega) hfile hcapacity hsecret]
  exact (RegistrationStore.load_performAll_iff hinstall (List.forall_mem_nil _)).mpr hsize

section

variable (hsize : (RegistrationStore.newPayload request 0).fileBytes ≤ maxRegistrationBytes)
include hsize

theorem prepare_installed :
    prepare store sha256 (challengeOf request) none (.ok request.hostIdentity) (some 0)
        ("ns_" ++ zeroUuid) (installed store request).provider.vault =
      .ok (0, issuedTo sha256 request) := by
  have hstored : store.load request.registrationId
      (store.install request 0 zeroSecret Vault.noFaults emptyVault).2 = _ :=
    load_install hvalid hsize rfl rfl rfl
  have hload : loadRegistration store none (challengeOf request).registrationId
      (installed store request).provider.vault =
        .ok (RegistrationStore.newPayload request 0) := by
    simp only [loadRegistration, challengeOf, installed, install, initial, hstored]
    rfl
  simp only [prepare, hload, sameIdentity, Except.mapError, bind, Except.bind,
    RegistrationStore.newPayload, beq_self_eq_true, Bool.not_true, Bool.false_eq_true, if_false]
  rfl

theorem granted_eq :
    granted store sha256 request =
      ⟨⟨(installed store request).provider.vault,
          (∅ : Table String ActiveGrant).insert (grantKey (issuedTo sha256 request).grant)
            (issuedTo sha256 request)⟩,
        [issuedTo sha256 request], [], [(issuedTo sha256 request).grant]⟩ := by
  have hadmit : admitChallenge (challengeOf request) 0 (issuedTo sha256 request)
      (installed store request).provider.activeChallenges = (.ok (),
        (∅ : Table String ActiveGrant).insert (grantKey (issuedTo sha256 request).grant)
          (issuedTo sha256 request)) := rfl
  simp only [granted, acquire, RegisteredAuthorityProvider.acquire,
    prepare_installed hvalid hsize, hadmit, Except.map]
  rfl

theorem removed_eq :
    removed store sha256 request =
      ⟨⟨{ (installed store request).provider.vault with
            files := (installed store request).provider.vault.files.erase request.registrationId
            secrets :=
              (installed store request).provider.vault.secrets.erase request.registrationId },
          (∅ : Table String ActiveGrant).insert (grantKey (issuedTo sha256 request).grant)
            (issuedTo sha256 request)⟩,
        [issuedTo sha256 request], [issuedTo sha256 request],
        [(issuedTo sha256 request).grant]⟩ := by
  have hid := RegistrationStore.validate_registrationId hvalid
  have hacquired : [issuedTo sha256 request].filter
      (fun issued => issued.grant.registrationId == request.registrationId) =
        [issuedTo sha256 request] := by
    simp [issuedTo, grantFor, challengeOf]
  simp only [removed, granted_eq hvalid hsize, remove, RegistrationStore.remove, hid,
    Vault.noRemoveFaults,
    Vault.removeEntry, hacquired, List.append_nil]

theorem hasJsonCapacity_removed :
    (removed store sha256 request).provider.vault.hasJsonCapacity maxRegistrations
      maxStateRootEntries = true := by
  have hlt := length_bytes_lt_fileBytes (RegistrationStore.newPayload request 0)
  have hinstall : store.install request 0 zeroSecret Vault.noFaults emptyVault = _ :=
    RegistrationStore.install_noFaults hvalid (by omega) rfl rfl rfl
  have hinstalled : (installed store request).provider.vault.files.size ≤ 1 ∧
      (installed store request).provider.vault.otherEntries = 0 := by
    simp only [installed, install, initial, hinstall]
    exact ⟨Table.size_insert_le _ _ _, rfl⟩
  have herase := (Table.Shrinks.erase request.registrationId
    (installed store request).provider.vault.files).size_le
  simp only [removed_eq hvalid hsize, Vault.hasJsonCapacity, hinstalled.2, maxRegistrations,
    maxStateRootEntries, Bool.and_eq_true, decide_eq_true_eq]
  omega

theorem load_reinstalled {request' : RegistrationRequest} (hvalid' : request'.validate = .ok ())
    (hid : request'.registrationId = request.registrationId)
    (hsize' : (RegistrationStore.newPayload request' 1).fileBytes ≤ maxRegistrationBytes) :
    store.load request'.registrationId ((removed store sha256 request).install store request' 1
        oneSecret Vault.noFaults).provider.vault =
      .ok (RegistrationStore.newPayload request' 1) := by
  refine load_install hvalid' hsize' ?_ (hasJsonCapacity_removed hvalid hsize) ?_
  all_goals
    rw [removed_eq hvalid hsize, hid]
    exact AList.lookup_erase _ _

theorem validate_reinstalled
    (hsize' : (RegistrationStore.newPayload request 1).fileBytes ≤ maxRegistrationBytes)
    (httl : 0 < request.authority.ttlSeconds) :
    validate store sha256 (issuedTo sha256 request).grant.metadata (some 1) none
      (reinstalled store sha256 request).provider = .ok () := by
  have hissued : findIssued (issuedTo sha256 request).grant.metadata.requestNamespace
      (reinstalled store sha256 request).provider.activeChallenges =
        some (issuedTo sha256 request) := by
    simp only [reinstalled, install, removed_eq hvalid hsize]
    rfl
  have hload : loadRegistration store none (issuedTo sha256 request).grant.metadata.registrationId
      (reinstalled store sha256 request).provider.vault =
        .ok (RegistrationStore.newPayload request 1) := by
    have hstored : store.load (issuedTo sha256 request).grant.metadata.registrationId
        (reinstalled store sha256 request).provider.vault = _ :=
      load_reinstalled hvalid hsize hvalid rfl hsize'
    rw [loadRegistration, hstored]
    rfl
  have hdenied : deniedBy 1 (issuedTo sha256 request).grant.metadata
      (issuedTo sha256 request).grant = false := by
    have hexpires : 1 < (issuedTo sha256 request).grant.expiresAtUnixMs := by
      simp only [issuedTo, grantFor]
      omega
    simp only [deniedBy, AuthorityGrant.metadata, bne_self_eq_false, Bool.or_false,
      decide_eq_false_iff_not]
    omega
  simp only [validate, hissued, hdenied, hload, bind, Except.bind, Bool.false_eq_true, if_false]
  exact if_neg (not_not.mpr rfl)

end

end

theorem run_removed (meets : History → RegistrationRequest → Prop)
    (hmeets : meets initial request) :
    Run store sha256 meets (removed store sha256 request) := by
  refine .remove (.acquire (.install (.start emptyVault) request 0 zeroSecret Vault.noFaults
    hmeets) (challengeOf request) none (.ok request.hostIdentity) (some 0) ("ns_" ++ zeroUuid) ?_)
    request.registrationId Vault.noRemoveFaults
  intro issued hissued
  cases hissued

end Reinstalled

def firstBytes (bytes : List UInt8) : Sha256 :=
  ⟨(bytes ++ List.replicate 32 0).take 32, by simp⟩

/-- The same request under the same identity makes a revoked grant valid again. -/
theorem reinstalled_grant_valid : ∃ history,
    Run parsingStore firstBytes (fun _ _ => True) history ∧
      ∃ issued ∈ history.revoked, validate parsingStore firstBytes issued.grant.metadata (some 1)
        none history.provider = .ok () := by
  refine ⟨reinstalled _ firstBytes shortRequest,
    .install (run_removed _ trivial) _ _ _ _ trivial, issuedTo firstBytes _, ?_,
    validate_reinstalled shortRequest_validate RegistrationStore.fileBytes_shortRequest_le
      (by decide +kernel) (by decide)⟩
  rw [reinstalled, install,
    removed_eq shortRequest_validate RegistrationStore.fileBytes_shortRequest_le]
  exact List.mem_singleton_self _

def lengthDigest (bytes : List UInt8) : Sha256 :=
  ⟨UInt8.ofNat bytes.length :: List.replicate 31 0, by simp⟩

/-- Another request is installed and loaded under the identity of a removed registration,
and the grant of that stays invalid. -/
theorem removed_grant_invalid :
    let history := (removed parsingStore lengthDigest shortRequest).install parsingStore
      (readOnlyRequest "registration_0001" "a") 1 oneSecret Vault.noFaults
    parsingStore.load "registration_0001" history.provider.vault =
        .ok (RegistrationStore.newPayload (readOnlyRequest "registration_0001" "a") 1) ∧
      ∃ issued ∈ history.revoked, validate parsingStore lengthDigest issued.grant.metadata
        (some 1) none history.provider ≠ .ok () := by
  intro history
  have hremoved : removed parsingStore lengthDigest _ = _ :=
    removed_eq shortRequest_validate RegistrationStore.fileBytes_shortRequest_le
  have hdiffers : Differs lengthDigest (removed parsingStore lengthDigest shortRequest)
      (readOnlyRequest "registration_0001" "a") := by
    intro issued hissued _
    rw [hremoved] at hissued
    obtain rfl := List.mem_singleton.mp hissued
    decide +kernel
  have hrevoked : issuedTo lengthDigest shortRequest ∈ history.revoked := by
    simp only [history, install, hremoved]
    exact List.mem_singleton_self _
  have hload : parsingStore.load (readOnlyRequest "registration_0001" "a").registrationId
      history.provider.vault = _ :=
    load_reinstalled shortRequest_validate RegistrationStore.fileBytes_shortRequest_le
      (readOnlyRequest_validate (by decide)) rfl (by decide +kernel)
  refine ⟨hload, _, hrevoked, ?_⟩
  exact (revoked_invalid_and_nonces_new parsingStore lengthDigest).1 history
    (.install (run_removed _ fun _ hissued => by cases hissued) _ _ _ _ hdiffers) _ hrevoked
    (some 1) none

end History

end RegisteredAuthorityProvider

end NexusCua.Provider
