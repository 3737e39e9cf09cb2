import NexusCua.Provider.GrantRuns

/-!
# Resolving the grants of a provider

The adapter checks a grant on its own and shortens the policy to what is left of it.  What
the provider stores passes the same checks.
-/

namespace NexusCua.Mcp

open NexusCua.Foundation

theorem refuseWhen_eq_ok {refused : Bool} {error : AuthorityError} {u : Unit} :
    refuseWhen refused error = .ok u ↔ refused = false := by
  cases refused <;> simp [refuseWhen]

theorem AuthorityPolicy.ttlSeconds_of_validate {policy : AuthorityPolicy}
    (h : policy.validate = .ok ()) : 0 < policy.ttlSeconds ∧ policy.ttlSeconds ≤ maxTtlSeconds := by
  simp only [validate, bind_eq_ok, refuseWhen_eq_ok, Bool.or_eq_false_iff] at h
  obtain ⟨_, -, _, -, _, -, _, -, _, -, _, -, _, httl, -⟩ := h
  exact ⟨Nat.pos_of_ne_zero (by simpa using httl.1), by simpa using httl.2⟩

theorem AuthorityPolicy.validate_shortened {policy : AuthorityPolicy} {ttlSeconds : Nat}
    (h : policy.validate = .ok ()) (hpositive : 0 < ttlSeconds)
    (hle : ttlSeconds ≤ policy.ttlSeconds) :
    ({ policy with ttlSeconds := ttlSeconds } : AuthorityPolicy).validate = .ok () := by
  have hbound := (ttlSeconds_of_validate h).2
  have httl : (ttlSeconds == 0 || decide (maxTtlSeconds < ttlSeconds)) = false := by
    simp only [Bool.or_eq_false_iff, beq_eq_false_iff_ne, decide_eq_false_iff_not]
    omega
  simp only [validate, bind_eq_ok, refuseWhen_eq_ok, needsNoApplication, httl] at h ⊢
  obtain ⟨u, h₁, _, h₂, _, h₃, _, h₄, _, h₅, _, h₆, _, -, hrest⟩ := h
  exact ⟨u, h₁, u, h₂, u, h₃, u, h₄, u, h₅, u, h₆, u, trivial, hrest⟩

namespace AuthorityGrant

variable {grant : AuthorityGrant} {challenge : AuthorityChallenge} {nowUnixMs : Nat}

theorem remainingSeconds_le (grant : AuthorityGrant) (nowUnixMs : Nat) :
    1000 * grant.remainingSeconds nowUnixMs ≤
    grant.expiresAtUnixMs - nowUnixMs := by
  simp only [remainingSeconds, maxTtlSeconds]
  split <;> omega

theorem remainingSeconds_pos (h : nowUnixMs + 1000 ≤ grant.expiresAtUnixMs) :
    0 < grant.remainingSeconds nowUnixMs := by
  simp only [remainingSeconds, maxTtlSeconds]
  split <;> omega

end AuthorityGrant

end NexusCua.Mcp

namespace NexusCua.Provider

open NexusCua.Foundation NexusCua.Mcp

/-- `Uuid::simple`. -/
def IsSimpleUuid (text : String) : Prop :=
  text.toList.length = 32 ∧ ∀ c ∈ text.toList, c ∈ "0123456789abcdef".toList

theorem utf8ByteSize_ofList {text : List Char} (h : ∀ c ∈ text, c.utf8Size = 1) :
    (String.ofList text).utf8ByteSize = text.length := by
  induction text with
  | nil => rfl
  | cons c text ih =>
    have hrest := ih fun x hx => h x (List.mem_cons_of_mem _ hx)
    have hc := h c List.mem_cons_self
    rw [String.ofList_cons, String.utf8ByteSize_append, hrest, List.length_cons]
    simp [hc]
    omega

theorem validateRequestNamespace_uuid {uuid : String} (h : IsSimpleUuid uuid) :
    validateRequestNamespace ("ns_" ++ uuid) = .ok () := by
  obtain ⟨hlength, hdigits⟩ := h
  have hdigit : "0123456789abcdef".toList.all (fun c => c.utf8Size == 1 && c.isAlphanum) = true :=
    by decide +kernel
  have hascii : ∀ c ∈ "0123456789abcdef".toList, c.utf8Size = 1 ∧ c.isAlphanum = true := by
    intro c hc
    simpa using List.all_eq_true.mp hdigit c hc
  have hsize : uuid.utf8ByteSize = 32 := by
    rw [← hlength, ← utf8ByteSize_ofList fun c hc => (hascii c (hdigits c hc)).1,
      String.ofList_toList]
  have hbytes : ("ns_" ++ uuid).utf8ByteSize = 35 := by
    rw [String.utf8ByteSize_append, hsize]
    rfl
  have hall : uuid.toList.all (fun c => c.isAlphanum || c == '_' || c == '-') = true := by
    rw [List.all_eq_true]
    intro c hc
    rw [(hascii c (hdigits c hc)).2]
    rfl
  rw [validateRequestNamespace, refuseWhen_eq_ok, hbytes, String.toList_append, List.all_append,
    hall]
  decide +kernel

theorem validateBinding_of_request {value field field' : String}
    (h : validateRequestBinding value field = .ok ()) : validateBinding value field' = .ok () :=
  refuseWhen_eq_ok.mpr (failWhen_eq_ok.mp h)

namespace RegisteredAuthorityProvider

variable {store : RegistrationStore} {sha256 : List UInt8 → Sha256}
  {challenge : AuthorityChallenge} {fault : Option RegistrationError}
  {identity : Except RegistrationError HostExecutableIdentity} {clock : Option Nat}
  {requestNamespace : String} {provider : RegisteredAuthorityProvider} {grant : AuthorityGrant}

/-- A grant is made out for a registration that is valid. -/
theorem acquire_ok
    (h : (acquire store sha256 challenge fault identity clock requestNamespace provider).1 =
      .ok grant) :
    ∃ request now, RegistrationRequest.validate request = .ok () ∧
      grant = grantFor request challenge now requestNamespace := by
  rw [acquire] at h
  split at h
  · cases h
  · next now issued hprepare =>
    obtain ⟨registration, hload, hprepare⟩ := bind_eq_ok.mp hprepare
    obtain ⟨actual, _, hprepare⟩ := bind_eq_ok.mp hprepare
    have hloaded := (RegistrationStore.load_eq_ok_iff _).mp (loadRegistration_eq_ok hload)
    obtain ⟨_, _, _, _, _, _, _, _, _, hvalid, _⟩ := hloaded.accepted
    split at hprepare
    · cases hprepare
    · cases clock with
      | none => cases hprepare
      | some now =>
        cases hprepare
        refine ⟨registration.request, now, hvalid, ?_⟩
        dsimp only at h
        cases hadmitted : (admitChallenge challenge now
          ⟨grantFor registration.request challenge now requestNamespace,
            registrationDigest sha256 registration.request⟩ provider.activeChallenges).1 with
        | error error => simp [hadmitted, Except.map] at h
        | ok => simpa [hadmitted, Except.map, eq_comm] using h

theorem grantFor_resolves {request : RegistrationRequest} {issuedAt nowUnixMs : Nat}
    (hvalid : request.validate = .ok ())
    (hnamespace : validateRequestNamespace requestNamespace = .ok ())
    (hissued : (grantFor request challenge issuedAt requestNamespace).issuedAtUnixMs ≤ nowUnixMs)
    (hleft : nowUnixMs + 1000 ≤
      (grantFor request challenge issuedAt requestNamespace).expiresAtUnixMs) :
    ∃ context, (grantFor request challenge issuedAt requestNamespace).resolve challenge
      nowUnixMs = .ok context := by
  simp only [RegistrationRequest.validate, bind_eq_ok] at hvalid
  obtain ⟨_, _, _, hprovider, _, _, _, hprincipal, _, hscope, _, _, _, _, _, _, hauthority⟩ :=
    hvalid
  have hpolicy : request.authority.validate = .ok () := by
    rw [validateAuthority] at hauthority
    split at hauthority
    · assumption
    · cases hauthority
  obtain ⟨hpositive, hbound⟩ := AuthorityPolicy.ttlSeconds_of_validate hpolicy
  have hremaining := AuthorityGrant.remainingSeconds_pos hleft
  simp only [grantFor] at hissued hleft
  have hlifetime : (grantFor request challenge issuedAt requestNamespace).lifetimeRefused
      nowUnixMs = false := by
    have hlongest : maxTtlSeconds = 3600 := rfl
    have hshortest : minRemainingGrantMs = 1000 := rfl
    rw [AuthorityGrant.lifetimeRefused, Bool.or_eq_false_iff, Bool.or_eq_false_iff,
      Bool.or_eq_false_iff]
    refine ⟨⟨⟨?_, ?_⟩, ?_⟩, ?_⟩
    all_goals
      apply decide_eq_false
      dsimp only [grantFor]
      omega
  simp only [AuthorityGrant.resolve, bind_eq_ok, refuseWhen_eq_ok]
  refine ⟨_, (), rfl, (), validateBinding_of_request hprovider, (),
    validateBinding_of_request hprincipal, (), validateBinding_of_request hscope, (),
    hnamespace, (), ?_, (), hlifetime, (), hpolicy, (), ?_, rfl⟩
  · simp [AuthorityGrant.matchesChallenge, grantFor]
  · simp only [beq_eq_false_iff_ne]
    exact Nat.ne_of_gt (Nat.lt_min.mpr ⟨hpositive, hremaining⟩)

end RegisteredAuthorityProvider

/--
A grant that is accepted is bound to the challenge and gives the granted policy for no longer
than is left of it; a grant of the provider is accepted until one second before it expires.
-/
theorem grants_resolve_soundly_and_live :
    (∀ (grant : AuthorityGrant) (challenge : AuthorityChallenge) (nowUnixMs : Nat)
      (context : AuthorityContext), grant.resolve challenge nowUnixMs = .ok context →
      grant.matchesChallenge challenge = true ∧ context.policy.validate = .ok () ∧
        context.policy = { grant.authority with ttlSeconds := context.policy.ttlSeconds } ∧
        1 ≤ context.policy.ttlSeconds ∧
        context.policy.ttlSeconds ≤ grant.authority.ttlSeconds ∧
        nowUnixMs + 1000 * context.policy.ttlSeconds ≤ grant.expiresAtUnixMs) ∧
    ∀ (store : RegistrationStore) (sha256 : List UInt8 → Sha256) (challenge : AuthorityChallenge)
      (fault : Option RegistrationError)
      (identity : Except RegistrationError HostExecutableIdentity) (clock : Option Nat)
      (uuid : String) (provider : RegisteredAuthorityProvider) (grant : AuthorityGrant)
      (nowUnixMs : Nat), IsSimpleUuid uuid →
      (RegisteredAuthorityProvider.acquire store sha256 challenge fault identity clock
        ("ns_" ++ uuid) provider).1 = .ok grant →
      grant.issuedAtUnixMs ≤ nowUnixMs → nowUnixMs + 1000 ≤ grant.expiresAtUnixMs →
      ∃ context, grant.resolve challenge nowUnixMs = .ok context := by
  constructor
  · intro grant challenge nowUnixMs context h
    simp only [AuthorityGrant.resolve, bind_eq_ok, refuseWhen_eq_ok] at h
    obtain ⟨_, -, _, -, _, -, _, -, _, -, _, hmatches, _, hlifetime, _, hvalid, _, httl, ⟨⟩⟩ := h
    have hpositive := Nat.pos_of_ne_zero (beq_eq_false_iff_ne.mp httl)
    have hremaining := AuthorityGrant.remainingSeconds_le grant nowUnixMs
    have hleft : ¬ grant.expiresAtUnixMs - nowUnixMs < minRemainingGrantMs := by
      simp only [AuthorityGrant.lifetimeRefused, Bool.or_eq_false_iff,
        decide_eq_false_iff_not] at hlifetime
      exact hlifetime.2
    rw [minRemainingGrantMs] at hleft
    refine ⟨by simpa using hmatches, ?_, rfl, hpositive, Nat.min_le_left _ _, ?_⟩
    · exact AuthorityPolicy.validate_shortened hvalid hpositive (Nat.min_le_left _ _)
    · dsimp only
      omega
  · intro store sha256 challenge fault identity clock uuid provider grant nowUnixMs huuid hacquire
      hissued hleft
    obtain ⟨request, now, hvalid, rfl⟩ := RegisteredAuthorityProvider.acquire_ok hacquire
    exact RegisteredAuthorityProvider.grantFor_resolves hvalid
      (validateRequestNamespace_uuid huuid) hissued hleft

namespace RegisteredAuthorityProvider.History

/-- A grant of sixty seconds, accepted for the last one. -/
theorem grants_resolve_last_second :
    ∃ context, (issuedTo firstBytes shortRequest).grant.resolve (challengeOf shortRequest) 59000 =
      .ok context ∧ context.policy.ttlSeconds = 1 := by
  obtain ⟨hsound, hlive⟩ := grants_resolve_soundly_and_live
  have hsimple : IsSimpleUuid zeroUuid := ⟨rfl, by simp [zeroUuid]⟩
  have hacquire : (RegisteredAuthorityProvider.acquire parsingStore firstBytes
      (challengeOf shortRequest) none (.ok shortRequest.hostIdentity) (some 0) ("ns_" ++ zeroUuid)
      (installed parsingStore shortRequest).provider).1 =
        .ok (issuedTo firstBytes shortRequest).grant := by
    simp only [RegisteredAuthorityProvider.acquire,
      prepare_installed shortRequest_validate RegistrationStore.fileBytes_shortRequest_le]
    rfl
  have hexpires : (issuedTo firstBytes shortRequest).grant.expiresAtUnixMs = 60000 := by
    decide +kernel
  obtain ⟨context, hresolve⟩ := hlive _ _ _ _ _ _ _ _ _ 59000 hsimple hacquire (Nat.zero_le _)
    hexpires.ge
  obtain ⟨-, -, -, hpositive, -, hends⟩ := hsound _ _ _ _ hresolve
  exact ⟨context, hresolve, by omega⟩

end RegisteredAuthorityProvider.History

end NexusCua.Provider
