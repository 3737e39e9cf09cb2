import NexusCua.Cli.AllOrNothing

/-!
# Removing an integration

`remove_integration` is driven by the receipt.  It revokes the registration first, then
removes the alias and the skill when they are the receipt's own, and the receipt last.
A run that fails may be repeated.  The receipt is a file and a secret, and once its
file is gone nothing is found to be removed: a run that fails between the two cannot be
completed by another one.

A step that reports a failure may have taken effect all the same.
-/

namespace NexusCua.Cli

open NexusCua.Foundation NexusCua.Provider

/-- What is installed: the stores, the skill and the alias that the host shows. -/
structure Site where
  provider : ProviderState
  skill : SkillPlace
  aliasEntry : AliasSnapshot

namespace Site

def setRegistrations (vault : Vault) (site : Site) : Site :=
  { site with provider := { site.provider with
      registrationFiles := vault.files
      registrationEntries := vault.otherEntries
      secrets := vault.secrets } }

def setStates (vault : Vault) (site : Site) : Site :=
  { site with provider := { site.provider with
      stateFiles := vault.files
      stateEntries := vault.otherEntries
      secrets := vault.secrets } }

end Site

inductive Leftover where
  | asReported
  | fileRemoved
  | entryRemoved
  deriving DecidableEq, Repr

def Leftover.apply (name secretId : String) (vault : Vault) : Leftover → Vault
  | .asReported => vault
  | .fileRemoved => { vault with files := vault.files.erase name }
  | .entryRemoved => { vault with
      files := vault.files.erase name
      secrets := vault.secrets.erase secretId }

def Leftover.outcome (leftover : Leftover) (name secretId : String)
    (outcome : Except RegistrationError Unit × Vault) : Except RegistrationError Unit × Vault :=
  match outcome with
  | (.ok (), vault) => (.ok (), vault)
  | (.error error, vault) => (.error error, leftover.apply name secretId vault)

structure RemoveEnvironment where
  registrationRemoval : Vault.RemoveFaults
  registrationLeftover : Leftover
  hostCanonical : Except IntegrationError String
  hostIdentity : Except IntegrationError HostExecutableIdentity
  /-- The digest of the host's configuration; the alias is the one that is there. -/
  inspect : Except HostError String
  skillInspect : Option IoError
  hostRemoval : HostAnswer
  skillRemoval : SkillRemoveFaults
  skillEffect : Bool
  receiptRemoval : Vault.RemoveFaults
  receiptLeftover : Leftover

structure Remover where
  integration : Integration
  decodeReceipt : List UInt8 → Option IntegrationReceipt

namespace Remover

variable (remover : Remover)

def loadReceipt (registrationId : String) (site : Site) :
    Except IntegrationError IntegrationReceipt := do
  Integration.failUnless ("registration_".toList.isPrefixOf registrationId.toList) .stateDrift
  let bytes ← (remover.integration.states.load (receiptRef registrationId)
    site.provider.states).mapError .provider
  match remover.decodeReceipt bytes with
  | none => .error .json
  | some receipt => .ok receipt

def receiptMatches (receipt : IntegrationReceipt) (registrationId : String) : Bool :=
  receipt.schemaVersion == receiptSchemaVersion && receipt.registrationId == registrationId &&
    receipt.host == "codex" && receipt.profile == "mcp" && receipt.aliasName == mcpAlias &&
    receipt.productVersion == remover.integration.packageVersion && receipt.transport == .stdio &&
    (receipt.toolProfile == "full" || receipt.toolProfile == "vision") &&
    receipt.skillSha256 == remover.integration.digest remover.integration.embeddedSkill

def findReceipt (registrationId : String) (site : Site) :
    Except IntegrationError IntegrationReceipt := do
  let receipt ← remover.loadReceipt registrationId site
  Integration.failUnless (remover.receiptMatches receipt registrationId) .stateDrift
  .ok receipt

def aliasMatches (receipt : IntegrationReceipt) (registrationId : String)
    (entry : AliasSnapshot) : Bool :=
  entry.sha256 == receipt.aliasSha256 && entry.isOwned receipt.runtimeExecutable registrationId

def checkSite (receipt : IntegrationReceipt) (registrationId : String)
    (environment : RemoveEnvironment) (site : Site) : Except IntegrationError Unit := do
  let canonical ← environment.hostCanonical
  Integration.failUnless (canonical == receipt.hostExecutable) .stateDrift
  let identity ← environment.hostIdentity
  Integration.failUnless (identity == receipt.hostIdentity) .stateDrift
  let _ ← environment.inspect.mapError HostError.error
  Integration.failUnless (!site.aliasEntry.present ||
    aliasMatches receipt registrationId site.aliasEntry) .stateDrift
  let digest ← remover.integration.inspectSkillDigest environment.skillInspect site.skill
  Integration.failUnless (digest.all (· == receipt.skillSha256)) .stateDrift

def absentAlias : AliasSnapshot := ⟨false, "", none, none⟩

def removeAlias (environment : RemoveEnvironment) (site : Site) :
    Except IntegrationError Unit × Site :=
  if site.aliasEntry.present then
    (environment.hostRemoval.result.mapError HostError.error,
      if environment.hostRemoval.tookEffect then { site with aliasEntry := absentAlias } else site)
  else (.ok (), site)

def skillAfter (expectedSha256 : String) (faults : SkillRemoveFaults) (place : SkillPlace) :
    SkillPlace :=
  match remover.integration.inspectSkillDigest faults.inspect place with
  | .error _ => place
  | .ok none => ⟨false, place.file⟩
  | .ok (some actual) =>
      if actual ≠ expectedSha256 then place
      else if faults.removeFile.isSome then ⟨place.directory, none⟩
      else ⟨false, none⟩

def removeSkillStep (receipt : IntegrationReceipt) (environment : RemoveEnvironment)
    (site : Site) : Except IntegrationError Unit × Site :=
  let outcome :=
    remover.integration.removeSkill receipt.skillSha256 environment.skillRemoval site.skill
  let after := remover.skillAfter receipt.skillSha256 environment.skillRemoval site.skill
  match outcome.1, environment.skillEffect with
  | .error error, true => (.error error, { site with skill := after })
  | result, _ => (result, { site with skill := outcome.2 })

def removeReceipt (registrationId : String) (environment : RemoveEnvironment) (site : Site) :
    Except IntegrationError Unit × Site :=
  let outcome := environment.receiptLeftover.outcome (receiptRef registrationId)
    (stateSecretId (receiptRef registrationId))
    (IntegrationStore.remove (receiptRef registrationId) environment.receiptRemoval
      site.provider.states)
  (outcome.1.mapError .provider, site.setStates outcome.2)

def removeRegistration (registrationId : String) (environment : RemoveEnvironment) (site : Site) :
    Except IntegrationError Unit × Site :=
  let outcome := environment.registrationLeftover.outcome registrationId registrationId
    (RegistrationStore.remove registrationId environment.registrationRemoval
      site.provider.registrations)
  (outcome.1.mapError .provider, site.setRegistrations outcome.2)

def andThen (outcome : Except IntegrationError Unit × Site)
    (next : Site → Except IntegrationError Unit × Site) : Except IntegrationError Unit × Site :=
  match outcome with
  | (.error error, site) => (.error error, site)
  | (.ok (), site) => next site

def removeIntegration (registrationId : String) (environment : RemoveEnvironment) (site : Site) :
    Except IntegrationError Unit × Site :=
  match remover.findReceipt registrationId site with
  | .error error => (.error error, site)
  | .ok receipt =>
      andThen (removeRegistration registrationId environment site) fun site =>
      andThen (remover.checkSite receipt registrationId environment site, site) fun site =>
      andThen (removeAlias environment site) fun site =>
      andThen (remover.removeSkillStep receipt environment site) fun site =>
      removeReceipt registrationId environment site

end Remover

end NexusCua.Cli
