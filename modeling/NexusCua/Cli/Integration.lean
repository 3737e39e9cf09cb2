import NexusCua.Provider.SharedSecrets

/-!
# Applying an integration plan

`apply_plan` installs a registration, writes a skill file and has the host add an
alias, and then keeps a receipt.  When a step fails it takes back what it has
installed, and reports an incomplete rollback when that fails as well.

The operating system and the host answer as an environment says.  The host keeps
its word when it reports success; when it reports a failure, the alias may have
been added or removed all the same.
-/

namespace NexusCua.Cli

open NexusCua.Foundation NexusCua.Provider NexusCua.Mcp

/-! ## Plans, receipts and snapshots -/

inductive IntegrationError where
  | invalid (text : String)
  | hostNotFound
  | hostCommand
  | hostOutput
  | stalePlan
  | aliasConflict
  | skillConflict
  | confirmationRequired
  | stateDrift
  | rollbackIncomplete
  | io (error : IoError)
  | json
  | provider (error : RegistrationError)
  | authority (error : AuthorityError)
  | hostIdentity
  deriving DecidableEq, Repr

inductive HostError where
  | command
  | output
  | invalid (text : String)
  | io (error : IoError)
  | json
  deriving DecidableEq, Repr

def HostError.error : HostError → IntegrationError
  | .command => .hostCommand
  | .output => .hostOutput
  | .invalid text => .invalid text
  | .io error => .io error
  | .json => .json

structure IntegrationPlan where
  schemaVersion : Nat
  planRef : String
  registrationId : String
  createdAtUnixMs : UInt64
  expiresAtUnixMs : UInt64
  host : String
  profile : String
  aliasName : String
  productVersion : String
  transport : McpRegisteredTransport
  toolProfile : String
  hostExecutable : String
  hostIdentity : HostExecutableIdentity
  runtimeExecutable : String
  runtimeExecutableSha256 : String
  skillFile : String
  skillSha256 : String
  hostPreconditionSha256 : String
  registration : RegistrationRequest
  deriving DecidableEq, Repr

structure IntegrationReceipt where
  schemaVersion : Nat
  registrationId : String
  installedAtUnixMs : UInt64
  host : String
  profile : String
  aliasName : String
  productVersion : String
  transport : McpRegisteredTransport
  toolProfile : String
  hostExecutable : String
  hostIdentity : HostExecutableIdentity
  runtimeExecutable : String
  runtimeExecutableSha256 : String
  skillFile : String
  skillSha256 : String
  aliasSha256 : String
  deriving DecidableEq, Repr

structure AliasSnapshot where
  present : Bool
  sha256 : String
  plainStdioCommand : Option String
  plainStdioArgs : Option (List String)
  deriving DecidableEq, Repr

structure HostSnapshot where
  configurationSha256 : String
  aliasEntry : AliasSnapshot
  deriving DecidableEq, Repr

def AliasSnapshot.isOwned (entry : AliasSnapshot) (runtime registrationId : String) : Bool :=
  entry.present && entry.plainStdioCommand == some runtime &&
    entry.plainStdioArgs == some ["mcp", "launch", "--registration", registrationId]

/-- The stores, the digest and the codecs of the command, and what is compiled in. -/
structure Integration where
  registrations : RegistrationStore
  states : IntegrationStore
  digest : List UInt8 → String
  decodePlan : List UInt8 → Option IntegrationPlan
  encodeReceipt : IntegrationReceipt → List UInt8
  embeddedSkill : List UInt8
  packageVersion : String

def planSchemaVersion : Nat := 1

def receiptSchemaVersion : Nat := 1

def planTtlMs : Nat := 10 * 60 * 1000

def maxSkillBytes : Nat := 24 * 1024

def mcpAlias : String := "nexuscua"

def localProviderId : String := "nexuscua.local.v1"

def replaceFirst (pattern replacement : List Char) : List Char → List Char
  | [] => []
  | c :: rest =>
      if pattern.isPrefixOf (c :: rest) then replacement ++ (c :: rest).drop pattern.length
      else c :: replaceFirst pattern replacement rest

def receiptRef (registrationId : String) : String :=
  String.ofList (replaceFirst "registration_".toList "receipt_".toList registrationId.toList)

def receiptFromPlan (plan : IntegrationPlan) (installedAtUnixMs : UInt64) (aliasSha256 : String) :
    IntegrationReceipt where
  schemaVersion := receiptSchemaVersion
  registrationId := plan.registrationId
  installedAtUnixMs := installedAtUnixMs
  host := plan.host
  profile := plan.profile
  aliasName := plan.aliasName
  productVersion := plan.productVersion
  transport := plan.transport
  toolProfile := plan.toolProfile
  hostExecutable := plan.hostExecutable
  hostIdentity := plan.hostIdentity
  runtimeExecutable := plan.runtimeExecutable
  runtimeExecutableSha256 := plan.runtimeExecutableSha256
  skillFile := plan.skillFile
  skillSha256 := plan.skillSha256
  aliasSha256 := aliasSha256

/-! ## The skill -/

structure SkillPlace where
  directory : Bool
  file : Option (List UInt8)
  deriving DecidableEq, Repr

/-- The refusals of the operating system while a skill is written.  `rootDrifted` says
that the directory above is not the one of the plan, `write` how much was written. -/
structure SkillFaults where
  root : Option IoError
  rootDrifted : Bool
  createDirectory : Option IoError
  create : Option IoError
  write : Option (IoError × Nat)
  sync : Option IoError
  inspect : Option IoError
  removeFileFails : Bool
  removeDirectoryFails : Bool

structure SkillRemoveFaults where
  inspect : Option IoError
  removeFile : Option IoError
  removeDirectory : Option IoError

def SkillRemoveFaults.removes (faults : SkillRemoveFaults) : Bool :=
  faults.inspect.isNone && faults.removeFile.isNone && faults.removeDirectory.isNone

namespace Integration

variable (integration : Integration)

def inspectSkillDigest (fault : Option IoError) (place : SkillPlace) :
    Except IntegrationError (Option String) :=
  match fault, place.file with
  | some error, _ => .error (.io error)
  | none, none => .ok none
  | none, some bytes =>
      if maxSkillBytes < bytes.length then .error .stateDrift
      else .ok (some (integration.digest bytes))

def writeSkill (expectedSha256 : String) (faults : SkillFaults) :
    Except IntegrationError Unit × Option (List UInt8) :=
  match faults.create, faults.write, faults.sync with
  | some error, _, _ => (.error (.io error), none)
  | none, some (error, written), _ =>
      (.error (.io error), some (integration.embeddedSkill.take written))
  | none, none, some error => (.error (.io error), some integration.embeddedSkill)
  | none, none, none =>
      match integration.inspectSkillDigest faults.inspect
        ⟨true, some integration.embeddedSkill⟩ with
      | .error error => (.error error, some integration.embeddedSkill)
      | .ok actual =>
          (if actual = some expectedSha256 then .ok () else .error .stateDrift,
            some integration.embeddedSkill)

def cleanUpSkill (faults : SkillFaults) (file : Option (List UInt8)) : SkillPlace where
  -- a directory that still holds the file is not removed either
  directory := faults.removeDirectoryFails || (faults.removeFileFails && file.isSome)
  file := if faults.removeFileFails then file else none

def installSkill (expectedSha256 : String) (faults : SkillFaults) (place : SkillPlace) :
    Except IntegrationError Unit × SkillPlace :=
  if integration.digest integration.embeddedSkill ≠ expectedSha256 then (.error .stateDrift, place)
  else
    match faults.root, faults.rootDrifted, place.directory, faults.createDirectory with
    | some error, _, _, _ => (.error (.io error), place)
    | none, true, _, _ => (.error .stateDrift, place)
    | none, false, true, _ => (.error .skillConflict, place)
    | none, false, false, some error =>
        (.error (if error.kind = .alreadyExists then .skillConflict else .io error), place)
    | none, false, false, none =>
        match integration.writeSkill expectedSha256 faults with
        | (.ok (), file) => (.ok (), ⟨true, file⟩)
        | (.error error, file) => (.error error, cleanUpSkill faults file)

def removeSkill (expectedSha256 : String) (faults : SkillRemoveFaults) (place : SkillPlace) :
    Except IntegrationError Unit × SkillPlace :=
  match integration.inspectSkillDigest faults.inspect place with
  | .error error => (.error error, place)
  | .ok none =>
      if !place.directory then (.ok (), place)
      else
        match faults.removeDirectory with
        | some error => (.error (.io error), place)
        | none => (.ok (), ⟨false, place.file⟩)
  | .ok (some actual) =>
      if actual ≠ expectedSha256 then (.error .stateDrift, place)
      else
        match faults.removeFile, faults.removeDirectory with
        | some error, _ => (.error (.io error), place)
        | none, some error => (.error (.io error), ⟨place.directory, none⟩)
        | none, none => (.ok (), ⟨false, none⟩)

variable {place : SkillPlace}

theorem inspectSkillDigest_ne {fault : Option IoError} :
    integration.inspectSkillDigest fault place ≠ .error .rollbackIncomplete := by
  intro h
  cases fault with
  | some error => simp [inspectSkillDigest] at h
  | none =>
    cases hfile : place.file with
    | none => simp [inspectSkillDigest, hfile] at h
    | some bytes =>
      simp only [inspectSkillDigest, hfile] at h
      split at h <;> cases h

variable {expectedSha256 : String} {faults : SkillFaults}

theorem writeSkill_ne :
    (integration.writeSkill expectedSha256 faults).1 ≠ .error .rollbackIncomplete := by
  intro h
  rw [writeSkill] at h
  split at h
  case h_1 => cases h
  case h_2 => cases h
  case h_3 => cases h
  case h_4 =>
    split at h
    case h_1 error hinspect =>
      cases h
      exact integration.inspectSkillDigest_ne hinspect
    case h_2 => split at h <;> cases h

theorem installSkill_ne :
    (integration.installSkill expectedSha256 faults place).1 ≠ .error .rollbackIncomplete := by
  intro h
  rw [installSkill] at h
  split at h
  · cases h
  · split at h
    case h_1 => cases h
    case h_2 => cases h
    case h_3 => cases h
    case h_4 => split at h <;> cases h
    case h_5 =>
      split at h
      case h_1 => cases h
      case h_2 error file hwrite =>
        cases h
        exact integration.writeSkill_ne (congrArg Prod.fst hwrite)

theorem writeSkill_ok
    (h : (integration.writeSkill expectedSha256 faults).1 = .ok ()) :
    (integration.writeSkill expectedSha256 faults).2 = some integration.embeddedSkill := by
  rw [writeSkill] at h ⊢
  split at h
  case h_1 => cases h
  case h_2 => cases h
  case h_3 => rfl
  case h_4 => split <;> rfl

theorem installSkill_ok
    (h : (integration.installSkill expectedSha256 faults place).1 = .ok ()) :
    (integration.installSkill expectedSha256 faults place).2.file =
      some integration.embeddedSkill := by
  rw [installSkill] at h ⊢
  split
  case isTrue hdigest =>
    rw [if_pos hdigest] at h
    cases h
  case isFalse hdigest =>
    rw [if_neg hdigest] at h
    split at h
    case h_1 => cases h
    case h_2 => cases h
    case h_3 => cases h
    case h_4 => cases h
    case h_5 =>
      cases hwrite : integration.writeSkill expectedSha256 faults with
      | mk result file =>
        cases result with
        | ok =>
          have hfile := integration.writeSkill_ok (by rw [hwrite])
          rw [hwrite] at hfile
          exact hfile
        | error error => simp [hwrite] at h

/-! ### When a skill is written -/

structure BeginsSkill (expectedSha256 : String) (faults : SkillFaults) (place : SkillPlace) :
    Prop where
  digest : integration.digest integration.embeddedSkill = expectedSha256
  root : faults.root = none
  rootKept : faults.rootDrifted = false
  directory : place.directory = false
  createDirectory : faults.createDirectory = none
  create : faults.create = none

def finishesSkill (faults : SkillFaults) : Bool :=
  faults.write.isNone && faults.sync.isNone && faults.inspect.isNone &&
    decide (integration.embeddedSkill.length ≤ maxSkillBytes)

section Skill

variable {integration} {expectedSha256 : String} {faults : SkillFaults} {place : SkillPlace}

theorem writeSkill_cases (hdigest : integration.digest integration.embeddedSkill = expectedSha256)
    (hcreate : faults.create = none) :
    integration.finishesSkill faults = true ∧
        integration.writeSkill expectedSha256 faults = (.ok (), some integration.embeddedSkill) ∨
      integration.finishesSkill faults = false ∧
        ∃ error file, integration.writeSkill expectedSha256 faults = (.error error, some file) := by
  cases hwrite : faults.write with
  | some failure => exact .inr (by simp [finishesSkill, writeSkill, hcreate, hwrite])
  | none =>
    cases hsync : faults.sync with
    | some error => exact .inr (by simp [finishesSkill, writeSkill, hcreate, hwrite, hsync])
    | none =>
      cases hinspect : faults.inspect with
      | some error =>
        exact .inr (by
          simp [finishesSkill, writeSkill, hcreate, hwrite, hsync, hinspect, inspectSkillDigest])
      | none =>
        by_cases hlength : integration.embeddedSkill.length ≤ maxSkillBytes
        · exact .inl (by
            simp [finishesSkill, writeSkill, hcreate, hwrite, hsync, hinspect, inspectSkillDigest,
              hlength, Nat.not_lt_of_le hlength, hdigest])
        · exact .inr (by
            simp [finishesSkill, writeSkill, hcreate, hwrite, hsync, hinspect, inspectSkillDigest,
              hlength, Nat.lt_of_not_le hlength])

theorem installSkill_of_begins (h : integration.BeginsSkill expectedSha256 faults place) :
    integration.installSkill expectedSha256 faults place =
      match integration.writeSkill expectedSha256 faults with
      | (.ok (), file) => (.ok (), ⟨true, file⟩)
      | (.error error, file) => (.error error, cleanUpSkill faults file) := by
  simp [installSkill, h.digest, h.root, h.rootKept, h.directory, h.createDirectory]

section

variable (hplace : place.file = none)
include hplace

theorem installSkill_of_not_begins
    (h : ¬ integration.BeginsSkill expectedSha256 faults place) :
    (∃ error, (integration.installSkill expectedSha256 faults place).1 = .error error) ∧
      (integration.installSkill expectedSha256 faults place).2.file = none := by
  rw [installSkill]
  split
  · exact ⟨⟨_, rfl⟩, hplace⟩
  case isFalse hdigest =>
    split
    case h_1 => exact ⟨⟨_, rfl⟩, hplace⟩
    case h_2 => exact ⟨⟨_, rfl⟩, hplace⟩
    case h_3 => exact ⟨⟨_, rfl⟩, hplace⟩
    case h_4 => exact ⟨⟨_, rfl⟩, hplace⟩
    case h_5 hroot hkept hdirectory hcreated =>
      cases hcreate : faults.create with
      | none => exact absurd ⟨not_not.mp hdigest, hroot, hkept, hdirectory, hcreated, hcreate⟩ h
      | some error => simp [writeSkill, hcreate, cleanUpSkill]

theorem installSkill_ok_iff :
    (integration.installSkill expectedSha256 faults place).1 = .ok () ↔
      integration.BeginsSkill expectedSha256 faults place ∧
        integration.finishesSkill faults = true := by
  by_cases hbegins : integration.BeginsSkill expectedSha256 faults place
  · rw [installSkill_of_begins hbegins]
    obtain ⟨hfinishes, hwrite⟩ | ⟨hfinishes, error, file, hwrite⟩ :=
      writeSkill_cases hbegins.digest hbegins.create
    · simp [hwrite, hbegins, hfinishes]
    · simp [hwrite, hfinishes]
  · obtain ⟨⟨error, herror⟩, _⟩ := installSkill_of_not_begins hplace hbegins
    simp [herror, hbegins]

theorem installSkill_left_iff :
    (∃ error, (integration.installSkill expectedSha256 faults place).1 = .error error) ∧
        (integration.installSkill expectedSha256 faults place).2.file ≠ none ↔
      integration.BeginsSkill expectedSha256 faults place ∧
        integration.finishesSkill faults = false ∧ faults.removeFileFails = true := by
  by_cases hbegins : integration.BeginsSkill expectedSha256 faults place
  · rw [installSkill_of_begins hbegins]
    obtain ⟨hfinishes, hwrite⟩ | ⟨hfinishes, error, file, hwrite⟩ :=
      writeSkill_cases hbegins.digest hbegins.create
    · simp [hwrite, hfinishes]
    · simp [hwrite, hbegins, hfinishes, cleanUpSkill]
  · obtain ⟨_, hfile⟩ := installSkill_of_not_begins hplace hbegins
    simp [hfile, hbegins]

theorem removeSkill_installed_iff {removal : SkillRemoveFaults}
    (h : (integration.installSkill expectedSha256 faults place).1 = .ok ()) :
    (integration.removeSkill expectedSha256 removal
        (integration.installSkill expectedSha256 faults place).2).1 = .ok () ↔
      removal.removes = true := by
  obtain ⟨hbegins, hfinishes⟩ := (installSkill_ok_iff hplace).mp h
  have hlength : ¬ maxSkillBytes < integration.embeddedSkill.length := by
    simp only [finishesSkill, Bool.and_eq_true, decide_eq_true_eq] at hfinishes
    exact Nat.not_lt_of_le hfinishes.2
  obtain ⟨_, hwrite⟩ | ⟨hunfinished, _⟩ := writeSkill_cases hbegins.digest hbegins.create
  · rw [installSkill_of_begins hbegins, hwrite, SkillRemoveFaults.removes]
    cases hinspect : removal.inspect with
    | some error => simp [removeSkill, inspectSkillDigest, hinspect]
    | none =>
      cases hfile : removal.removeFile <;> cases hdirectory : removal.removeDirectory <;>
        simp [removeSkill, inspectSkillDigest, hinspect, hlength, hbegins.digest, hfile, hdirectory]
  · rw [hfinishes] at hunfinished
    cases hunfinished

end

end Skill

theorem file_of_inspectSkillDigest {fault : Option IoError}
    (h : integration.inspectSkillDigest fault place = .ok none) : place.file = none := by
  cases fault with
  | some error => simp [inspectSkillDigest] at h
  | none =>
    cases hfile : place.file with
    | none => rfl
    | some bytes =>
      simp only [inspectSkillDigest, hfile] at h
      split at h <;> cases h

theorem removeSkill_ok {faults : SkillRemoveFaults}
    (h : (integration.removeSkill expectedSha256 faults place).1 = .ok ()) :
    (integration.removeSkill expectedSha256 faults place).2.file = none := by
  cases hinspect : integration.inspectSkillDigest faults.inspect place with
  | error error => simp [removeSkill, hinspect] at h
  | ok actual =>
    simp only [removeSkill, hinspect] at h ⊢
    cases actual with
    | none =>
      have hfile := integration.file_of_inspectSkillDigest hinspect
      dsimp only at h ⊢
      split
      · exact hfile
      · split
        · exact hfile
        · exact hfile
    | some actual =>
      dsimp only at h ⊢
      split
      case isTrue hne =>
        rw [if_pos hne] at h
        cases h
      case isFalse heq =>
        rw [if_neg heq] at h
        split at h
        · cases h
        · cases h
        · rfl

end Integration

/-! ## Applying a plan -/

/-- What the command changes.  `added` says that an alias added by this call is in
place. -/
structure Machine where
  provider : ProviderState
  skill : SkillPlace
  added : Bool

/-- The answer of the host to a command that changes the alias, and whether the
command took effect although it reported a failure. -/
structure HostAnswer where
  result : Except HostError Unit
  effectOnFailure : Bool

def HostAnswer.tookEffect (answer : HostAnswer) : Bool :=
  match answer.result with
  | .ok () => true
  | .error _ => answer.effectOnFailure

structure ApplyEnvironment where
  hostCanonical : Except IntegrationError String
  hostIdentity : Except IntegrationError HostExecutableIdentity
  runtimeCanonical : Except IntegrationError String
  runtimeIdentity : Except IntegrationError HostExecutableIdentity
  skillRoot : Except IntegrationError Bool
  inspectBefore : Except HostError HostSnapshot
  planRemoval : Vault.RemoveFaults
  registrationSecret : Secret
  registrationFaults : Vault.CreateFaults
  skillFaults : SkillFaults
  add : HostAnswer
  inspectAfter : Except HostError HostSnapshot
  receiptSecret : Secret
  receiptFaults : Vault.CreateFaults
  registrationRemoval : Vault.RemoveFaults
  inspectRollback : Except HostError HostSnapshot
  hostRemoval : HostAnswer
  skillRemoval : SkillRemoveFaults

namespace Integration

variable (integration : Integration)

def failUnless (condition : Bool) (error : IntegrationError) : Except IntegrationError Unit :=
  if condition then .ok () else .error error

def loadPlan (planRef : String) (machine : Machine) : Except IntegrationError IntegrationPlan := do
  failUnless ("plan_".toList.isPrefixOf planRef.toList) .stalePlan
  let bytes ← (integration.states.load planRef machine.provider.states).mapError .provider
  match integration.decodePlan bytes with
  | none => .error .json
  | some plan => .ok plan

def planMatches (plan : IntegrationPlan) (planRef : String) (nowUnixMs : UInt64) : Bool :=
  plan.schemaVersion == planSchemaVersion && plan.planRef == planRef &&
    decide (plan.createdAtUnixMs ≤ nowUnixMs) && decide (nowUnixMs ≤ plan.expiresAtUnixMs) &&
    -- the addition saturates
    plan.expiresAtUnixMs.toNat == min (plan.createdAtUnixMs.toNat + planTtlMs) (2 ^ 64 - 1) &&
    plan.host == "codex" && plan.profile == "mcp" && plan.aliasName == mcpAlias &&
    plan.productVersion == integration.packageVersion && plan.transport == .stdio &&
    (plan.toolProfile == "full" || plan.toolProfile == "vision") &&
    plan.skillSha256 == integration.digest integration.embeddedSkill &&
    plan.registration.registrationId == plan.registrationId &&
    plan.registration.providerId == localProviderId &&
    plan.registration.productVersion == plan.productVersion &&
    plan.registration.hostIdentity == plan.hostIdentity &&
    plan.registration.adapterProfile == .mcp .stdio plan.toolProfile

def validatePlan (plan : IntegrationPlan) (planRef : String) (nowUnixMs : UInt64) :
    Except IntegrationError Unit := do
  failUnless (integration.planMatches plan planRef nowUnixMs) .stalePlan
  plan.registration.authority.validate.mapError .authority

def validatePlanEnvironment (plan : IntegrationPlan) (environment : ApplyEnvironment)
    (machine : Machine) : Except IntegrationError Unit := do
  let hostCanonical ← environment.hostCanonical
  failUnless (hostCanonical == plan.hostExecutable) .stateDrift
  let hostIdentity ← environment.hostIdentity
  failUnless (hostIdentity == plan.hostIdentity) .stateDrift
  let runtime ← environment.runtimeCanonical
  failUnless (runtime == plan.runtimeExecutable) .stateDrift
  let runtimeIdentity ← environment.runtimeIdentity
  failUnless (runtimeIdentity.executableSha256 == plan.runtimeExecutableSha256) .stateDrift
  let skillRoot ← environment.skillRoot
  failUnless (skillRoot && machine.skill.file.isNone && !machine.skill.directory) .stateDrift
  let snapshot ← environment.inspectBefore.mapError HostError.error
  failUnless (snapshot.configurationSha256 == plan.hostPreconditionSha256 &&
    !snapshot.aliasEntry.present) .stalePlan

/-! ### The steps -/

def setRegistrations (vault : Vault) (machine : Machine) : Machine :=
  { machine with provider := { machine.provider with
      registrationFiles := vault.files
      registrationEntries := vault.otherEntries
      secrets := vault.secrets } }

def setStates (vault : Vault) (machine : Machine) : Machine :=
  { machine with provider := { machine.provider with
      stateFiles := vault.files
      stateEntries := vault.otherEntries
      secrets := vault.secrets } }

def setSkill (skill : SkillPlace) (machine : Machine) : Machine := { machine with skill := skill }

def setAdded (added : Bool) (machine : Machine) : Machine := { machine with added := added }

structure Attempt where
  machine : Machine
  registrationInstalled : Bool
  skillInstalled : Bool
  result : Except IntegrationError IntegrationReceipt

def keepReceipt (plan : IntegrationPlan) (nowUnixMs : UInt64) (environment : ApplyEnvironment)
    (machine : Machine) : Except IntegrationError IntegrationReceipt × Machine :=
  match environment.inspectAfter with
  | .error error => (.error error.error, machine)
  | .ok snapshot =>
      if !snapshot.aliasEntry.isOwned plan.runtimeExecutable plan.registrationId then
        (.error .stateDrift, machine)
      else
        let receipt := receiptFromPlan plan nowUnixMs snapshot.aliasEntry.sha256
        match integration.states.install (receiptRef plan.registrationId)
            (integration.encodeReceipt receipt) environment.receiptSecret environment.receiptFaults
            machine.provider.states with
        | (.error error, vault) => (.error (.provider error), setStates vault machine)
        | (.ok (), vault) => (.ok receipt, setStates vault machine)

def registrationOutcome (plan : IntegrationPlan) (nowUnixMs : UInt64)
    (environment : ApplyEnvironment) (machine : Machine) :
    Except RegistrationError RegistrationSummary × Vault :=
  integration.registrations.install plan.registration nowUnixMs environment.registrationSecret
    environment.registrationFaults machine.provider.registrations

def skillOutcome (plan : IntegrationPlan) (environment : ApplyEnvironment) (machine : Machine) :
    Except IntegrationError Unit × SkillPlace :=
  integration.installSkill plan.skillSha256 environment.skillFaults machine.skill

def prepared (plan : IntegrationPlan) (nowUnixMs : UInt64) (environment : ApplyEnvironment)
    (machine : Machine) : Machine :=
  setAdded environment.add.tookEffect
    (setSkill (integration.skillOutcome plan environment machine).2
      (setRegistrations (integration.registrationOutcome plan nowUnixMs environment machine).2
        machine))

def receiptOutcome (plan : IntegrationPlan) (nowUnixMs : UInt64) (environment : ApplyEnvironment)
    (machine : Machine) : Except IntegrationError IntegrationReceipt × Machine :=
  integration.keepReceipt plan nowUnixMs environment
    (integration.prepared plan nowUnixMs environment machine)

def attempt (plan : IntegrationPlan) (nowUnixMs : UInt64) (environment : ApplyEnvironment)
    (machine : Machine) : Attempt :=
  let registration := integration.registrationOutcome plan nowUnixMs environment machine
  match registration.1 with
  | .error error =>
      ⟨setRegistrations registration.2 machine, false, false, .error (.provider error)⟩
  | .ok _ =>
      let skill := integration.skillOutcome plan environment machine
      match skill.1 with
      | .error error =>
          ⟨setSkill skill.2 (setRegistrations registration.2 machine), true, false, .error error⟩
      | .ok () =>
          match environment.add.result with
          | .error error =>
              ⟨integration.prepared plan nowUnixMs environment machine, true, true,
                .error error.error⟩
          | .ok () =>
              let receipt := integration.receiptOutcome plan nowUnixMs environment machine
              ⟨receipt.2, true, true, receipt.1⟩

/-! ### The rollback -/

def rollbackRegistration (plan : IntegrationPlan) (environment : ApplyEnvironment) (needed : Bool)
    (machine : Machine) : Bool × Machine :=
  if needed then
    match RegistrationStore.remove plan.registrationId environment.registrationRemoval
        machine.provider.registrations with
    | (.ok (), vault) => (true, setRegistrations vault machine)
    | (.error _, vault) => (false, setRegistrations vault machine)
  else (true, machine)

/-- An alias that the inspection does not show as the plan's own is left alone. -/
def rollbackAlias (plan : IntegrationPlan) (environment : ApplyEnvironment) (machine : Machine) :
    Bool × Machine :=
  match environment.inspectRollback with
  | .error _ => (false, machine)
  | .ok snapshot =>
      if snapshot.aliasEntry.isOwned plan.runtimeExecutable plan.registrationId then
        (environment.hostRemoval.result.isOk,
          setAdded (machine.added && !environment.hostRemoval.tookEffect) machine)
      else (true, machine)

def rollbackSkill (plan : IntegrationPlan) (environment : ApplyEnvironment) (needed : Bool)
    (machine : Machine) : Bool × Machine :=
  if needed then
    match integration.removeSkill plan.skillSha256 environment.skillRemoval machine.skill with
    | (.ok (), skill) => (true, setSkill skill machine)
    | (.error _, skill) => (false, setSkill skill machine)
  else (true, machine)

def rollbackApply (plan : IntegrationPlan) (environment : ApplyEnvironment) (attempt : Attempt) :
    Bool × Machine :=
  let (registrationClean, machine) :=
    rollbackRegistration plan environment attempt.registrationInstalled attempt.machine
  let (aliasClean, machine) := rollbackAlias plan environment machine
  let (skillClean, machine) :=
    integration.rollbackSkill plan environment attempt.skillInstalled machine
  (registrationClean && aliasClean && skillClean, machine)

def conclude (plan : IntegrationPlan) (environment : ApplyEnvironment) (attempt : Attempt) :
    Except IntegrationError IntegrationReceipt × Machine :=
  match attempt.result with
  | .ok receipt => (.ok receipt, attempt.machine)
  | .error error =>
      let (clean, machine) := integration.rollbackApply plan environment attempt
      (.error (if clean then error else .rollbackIncomplete), machine)

def preparePlan (planRef : String) (nowUnixMs : UInt64) (environment : ApplyEnvironment)
    (machine : Machine) : Except IntegrationError IntegrationPlan := do
  let plan ← integration.loadPlan planRef machine
  integration.validatePlan plan planRef nowUnixMs
  validatePlanEnvironment plan environment machine
  .ok plan

def applyPlan (planRef : String) (nowUnixMs : UInt64) (environment : ApplyEnvironment)
    (machine : Machine) : Except IntegrationError IntegrationReceipt × Machine :=
  match integration.preparePlan planRef nowUnixMs environment machine with
  | .error error => (.error error, machine)
  | .ok plan =>
      match IntegrationStore.remove planRef environment.planRemoval machine.provider.states with
      | (.error error, vault) => (.error (.provider error), setStates vault machine)
      | (.ok (), vault) =>
          integration.conclude plan environment
            (integration.attempt plan nowUnixMs environment (setStates vault machine))

end Integration

end NexusCua.Cli
