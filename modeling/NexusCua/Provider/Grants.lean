import NexusCua.Provider.Parsing

/-!
# Grants of registered hosts

The provider answers a challenge with a grant that holds for a while, and remembers
the digest of the registration it was granted for.  A grant is valid as long as the
stored registration has that digest.  Removing a registration therefore ends its
grants only until the same request is installed again: neither the time of the
installation nor its secret enters the digest.
-/

namespace NexusCua.Provider

open NexusCua.Foundation NexusCua.Mcp

def localGrantSchemaVersion : Nat := 1

def maxActiveChallenges : Nat := 1024

structure ActiveGrant where
  grant : AuthorityGrant
  registrationDigest : Sha256
  deriving DecidableEq

structure RegisteredAuthorityProvider where
  vault : Vault
  activeChallenges : Table String ActiveGrant

namespace RegisteredAuthorityProvider

def mapRegistrationError : RegistrationError → AuthorityProviderError
  | .notFound => .unavailable
  | .secret .notFound => .unavailable
  | .authenticationFailed => .authenticationFailed
  | _ => .invalidResponse

def sameIdentity (expected actual : HostExecutableIdentity) : Bool :=
  utf8 (hostIdentityJson expected).compact == utf8 (hostIdentityJson actual).compact

def challengeKey (registrationId adapterNonce : String) : String :=
  registrationId ++ ":" ++ adapterNonce

def admitChallenge (challenge : AuthorityChallenge) (nowUnixMs : Nat) (issued : ActiveGrant)
    (active : Table String ActiveGrant) :
    Except AuthorityProviderError Unit × Table String ActiveGrant :=
  let active := active.retain fun _ value => nowUnixMs < value.grant.expiresAtUnixMs
  let key := challengeKey challenge.registrationId challenge.adapterNonce
  match active.lookup key with
  | some _ => (.error .denied, active)
  | none =>
      if maxActiveChallenges ≤ active.size then (.error .unavailable, active)
      else (.ok (), active.insert key issued)

section Calls

variable (store : RegistrationStore) (sha256 : List UInt8 → Sha256)

def registrationDigest (request : RegistrationRequest) : Sha256 :=
  sha256 (utf8 request.json.compact)

def loadRegistration (fault : Option RegistrationError) (registrationId : String) (vault : Vault) :
    Except AuthorityProviderError RegistrationPayload :=
  match fault with
  | some error => .error (mapRegistrationError error)
  | none => (store.load registrationId vault).mapError mapRegistrationError

def grantFor (request : RegistrationRequest) (challenge : AuthorityChallenge) (nowUnixMs : Nat)
    (requestNamespace : String) : AuthorityGrant where
  schemaVersion := localGrantSchemaVersion
  providerId := request.providerId
  registrationId := challenge.registrationId
  adapterNonce := challenge.adapterNonce
  runtimeEpoch := challenge.runtimeEpoch
  workerEpoch := challenge.workerEpoch
  principal := request.principal
  workScope := request.workScope
  requestNamespace := requestNamespace
  issuedAtUnixMs := nowUnixMs
  -- the addition saturates
  expiresAtUnixMs := min (nowUnixMs + request.authority.ttlSeconds * 1000) (2 ^ 64 - 1)
  authority := request.authority

/-- The part of `acquire` before the challenge is admitted.  `identity` is what the
host identity source answers, `clock` the time when it can be read. -/
def prepare (challenge : AuthorityChallenge) (fault : Option RegistrationError)
    (identity : Except RegistrationError HostExecutableIdentity) (clock : Option Nat)
    (requestNamespace : String) (vault : Vault) :
    Except AuthorityProviderError (Nat × ActiveGrant) := do
  let registration ← loadRegistration store fault challenge.registrationId vault
  let actual ← identity.mapError mapRegistrationError
  if !sameIdentity registration.request.hostIdentity actual then .error .authenticationFailed
  else
    match clock with
    | none => .error .unavailable
    | some nowUnixMs =>
        .ok (nowUnixMs, ⟨grantFor registration.request challenge nowUnixMs requestNamespace,
          registrationDigest sha256 registration.request⟩)

def acquire (challenge : AuthorityChallenge) (fault : Option RegistrationError)
    (identity : Except RegistrationError HostExecutableIdentity) (clock : Option Nat)
    (requestNamespace : String) (provider : RegisteredAuthorityProvider) :
    Except AuthorityProviderError AuthorityGrant × RegisteredAuthorityProvider :=
  match prepare store sha256 challenge fault identity clock requestNamespace provider.vault with
  | .error error => (.error error, provider)
  | .ok (nowUnixMs, issued) =>
      let (result, active) := admitChallenge challenge nowUnixMs issued provider.activeChallenges
      (result.map fun _ => issued.grant, { provider with activeChallenges := active })

def deniedBy (nowUnixMs : Nat) (metadata : AuthorityGrantMetadata)
    (grant : AuthorityGrant) : Bool :=
  decide (grant.expiresAtUnixMs ≤ nowUnixMs) || grant.registrationId != metadata.registrationId ||
    grant.providerId != metadata.providerId || grant.principal != metadata.principal ||
    grant.workScope != metadata.workScope || grant.runtimeEpoch != metadata.runtimeEpoch ||
    grant.workerEpoch != metadata.workerEpoch

def findIssued (requestNamespace : String) (active : Table String ActiveGrant) :
    Option ActiveGrant :=
  (active.toList.map Prod.snd).find? fun value => value.grant.requestNamespace == requestNamespace

def validate (metadata : AuthorityGrantMetadata) (clock : Option Nat)
    (fault : Option RegistrationError) (provider : RegisteredAuthorityProvider) :
    Except AuthorityProviderError Unit :=
  match clock with
  | none => .error .unavailable
  | some nowUnixMs =>
      match findIssued metadata.requestNamespace provider.activeChallenges with
      | none => .error .denied
      | some issued =>
          if deniedBy nowUnixMs metadata issued.grant then .error .denied
          else do
            let registration ← loadRegistration store fault metadata.registrationId provider.vault
            if registrationDigest sha256 registration.request ≠ issued.registrationDigest then
              .error .authenticationFailed
            else .ok ()

end Calls

/-! ## What the calls do -/

section Specs

variable {store : RegistrationStore} {sha256 : List UInt8 → Sha256}

theorem mem_of_findIssued {requestNamespace : String} {active : Table String ActiveGrant}
    {issued : ActiveGrant} (h : findIssued requestNamespace active = some issued) :
    issued.grant.requestNamespace = requestNamespace ∧
      ∃ key, active.lookup key = some issued := by
  obtain ⟨⟨key, value⟩, hmem, rfl⟩ := List.mem_map.mp (List.mem_of_find?_eq_some h)
  exact ⟨by simpa using List.find?_some h, key, (Table.mem_toList_iff active key value).mp hmem⟩

theorem loadRegistration_eq_ok {fault : Option RegistrationError} {registrationId : String}
    {vault : Vault} {payload : RegistrationPayload}
    (h : loadRegistration store fault registrationId vault = .ok payload) :
    store.load registrationId vault = .ok payload := by
  cases fault with
  | some error => cases h
  | none =>
    cases hload : store.load registrationId vault with
    | error error => simp [loadRegistration, hload, Except.mapError] at h
    | ok payload' => simpa [loadRegistration, hload, Except.mapError] using h

theorem validate_ok {metadata : AuthorityGrantMetadata} {clock : Option Nat}
    {fault : Option RegistrationError} {provider : RegisteredAuthorityProvider}
    (h : validate store sha256 metadata clock fault provider = .ok ()) :
    ∃ key issued payload, provider.activeChallenges.lookup key = some issued ∧
      issued.grant.requestNamespace = metadata.requestNamespace ∧
      store.load metadata.registrationId provider.vault = .ok payload ∧
      registrationDigest sha256 payload.request = issued.registrationDigest := by
  cases clock with
  | none => cases h
  | some nowUnixMs =>
    cases hissued : findIssued metadata.requestNamespace provider.activeChallenges with
    | none => simp [validate, hissued] at h
    | some issued =>
      obtain ⟨hnamespace, key, hkey⟩ := mem_of_findIssued hissued
      simp only [validate, hissued] at h
      split at h
      · cases h
      · obtain ⟨payload, hload, hdigest⟩ := bind_eq_ok.mp h
        split at hdigest
        · cases hdigest
        case isFalse hsame =>
          exact ⟨key, issued, payload, hkey, hnamespace, loadRegistration_eq_ok hload,
            not_not.mp hsame⟩

theorem prepare_eq_ok {challenge : AuthorityChallenge} {fault : Option RegistrationError}
    {identity : Except RegistrationError HostExecutableIdentity} {clock : Option Nat}
    {requestNamespace : String} {vault : Vault} {nowUnixMs : Nat} {issued : ActiveGrant}
    (h : prepare store sha256 challenge fault identity clock requestNamespace vault =
      .ok (nowUnixMs, issued)) :
    clock = some nowUnixMs ∧ issued.grant.requestNamespace = requestNamespace ∧
      issued.grant.registrationId = challenge.registrationId ∧
      issued.grant.adapterNonce = challenge.adapterNonce := by
  obtain ⟨registration, _, h⟩ := bind_eq_ok.mp h
  obtain ⟨actual, _, h⟩ := bind_eq_ok.mp h
  split at h
  · cases h
  · cases clock with
    | none => cases h
    | some now =>
      cases h
      exact ⟨rfl, rfl, rfl, rfl⟩

end Specs

end RegisteredAuthorityProvider

end NexusCua.Provider
