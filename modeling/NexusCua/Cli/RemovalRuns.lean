import NexusCua.Cli.Removal

/-!
# Removals that are repeated

Every run removes only what matches the receipt, and a registration that is revoked
stays revoked.  A last run that nothing hinders ends with everything removed exactly
when the file of the receipt is still there for it.
-/

namespace NexusCua.Cli

open NexusCua.Foundation NexusCua.Provider

theorem stateSecretId_ne {registrationId : String}
    (h : "registration_".toList.isPrefixOf registrationId.toList = true) (stateRef : String) :
    stateSecretId stateRef ≠ registrationId := by
  rintro rfl
  have hstart : "registration_".toList =
      'r' :: ['e', 'g', 'i', 's', 't', 'r', 'a', 't', 'i', 'o', 'n', '_'] := rfl
  have hsecret : (stateSecretId stateRef).toList =
      'i' :: ("ntegration-state-".toList ++ stateRef.toList) := String.toList_append
  rw [hstart, hsecret] at h
  cases h

theorem Integration.remove_cases (planRef : String) (faults : Vault.RemoveFaults) (vault : Vault) :
    (∃ error, IntegrationStore.remove planRef faults vault = (.error error, vault)) ∨
      (IntegrationStore.remove planRef faults vault).2.files.lookup planRef = none := by
  rw [IntegrationStore.remove]
  split
  case h_1 error _ => exact .inl ⟨error, rfl⟩
  case h_2 => exact Vault.removeEntry_cases planRef (stateSecretId planRef) faults vault

theorem Leftover.files_apply (leftover : Leftover) (name secretId : String) {vault : Vault}
    (h : vault.files.lookup name = none) :
    (leftover.apply name secretId vault).files.lookup name = none := by
  cases leftover with
  | asReported => exact h
  | fileRemoved => exact AList.lookup_erase _ _
  | entryRemoved => exact AList.lookup_erase _ _

theorem Leftover.outcome_missing (leftover : Leftover) (name secretId : String)
    {outcome : Except RegistrationError Unit × Vault} (h : outcome.2.files.lookup name = none) :
    (leftover.outcome name secretId outcome).2.files.lookup name = none := by
  obtain ⟨result, vault⟩ := outcome
  cases result with
  | ok => exact h
  | error error => exact leftover.files_apply name secretId h

theorem Leftover.secrets_apply (leftover : Leftover) (name secretId : String) (vault : Vault)
    {secretId' : String} (h : secretId' ≠ secretId) :
    (leftover.apply name secretId vault).secrets.lookup secretId' =
      vault.secrets.lookup secretId' := by
  cases leftover with
  | asReported => rfl
  | fileRemoved => rfl
  | entryRemoved => exact AList.lookup_erase_ne h

namespace Remover

variable {remover : Remover} {registrationId : String} {receipt : IntegrationReceipt}
  {environment : RemoveEnvironment} {site : Site}

/-! ## What the steps touch -/

theorem andThen_invariant {P : Site → Prop} {outcome : Except IntegrationError Unit × Site}
    {next : Site → Except IntegrationError Unit × Site} (houtcome : P outcome.2)
    (hnext : ∀ site, P site → P (next site).2) : P (andThen outcome next).2 := by
  obtain ⟨result, site⟩ := outcome
  cases result with
  | error error => exact houtcome
  | ok => exact hnext site houtcome

theorem andThen_snd (outcome : Except IntegrationError Unit × Site)
    (next : Site → Except IntegrationError Unit × Site) :
    (andThen outcome next).2 = outcome.2 ∨ (andThen outcome next).2 = (next outcome.2).2 := by
  obtain ⟨result, site⟩ := outcome
  cases result with
  | error error => exact .inl rfl
  | ok => exact .inr rfl

theorem andThen_ok {outcome : Except IntegrationError Unit × Site}
    {next : Site → Except IntegrationError Unit × Site} (h : outcome.1 = .ok ()) :
    andThen outcome next = next outcome.2 := by
  obtain ⟨result, site⟩ := outcome
  cases h
  rfl

theorem removeAlias_provider : (removeAlias environment site).2.provider = site.provider := by
  rw [removeAlias]
  split
  · dsimp only
    split <;> rfl
  · rfl

theorem removeAlias_skill : (removeAlias environment site).2.skill = site.skill := by
  rw [removeAlias]
  split
  · dsimp only
    split <;> rfl
  · rfl

theorem removeSkillStep_frame :
    (remover.removeSkillStep receipt environment site).2.provider = site.provider ∧
      (remover.removeSkillStep receipt environment site).2.aliasEntry = site.aliasEntry := by
  simp only [removeSkillStep]
  split <;> exact ⟨rfl, rfl⟩

theorem removeReceipt_registrationFiles :
    (removeReceipt registrationId environment site).2.provider.registrationFiles =
      site.provider.registrationFiles := by
  simp only [removeReceipt, Site.setStates]

theorem removeReceipt_aliasEntry :
    (removeReceipt registrationId environment site).2.aliasEntry = site.aliasEntry := by
  simp only [removeReceipt, Site.setStates]

theorem removeReceipt_skill :
    (removeReceipt registrationId environment site).2.skill = site.skill := by
  simp only [removeReceipt, Site.setStates]

theorem removeAlias_of_ne (h : (removeAlias environment site).2.aliasEntry ≠ site.aliasEntry) :
    site.aliasEntry.present = true := by
  cases hpresent : site.aliasEntry.present with
  | true => rfl
  | false => exact absurd (by simp [removeAlias, hpresent]) h

def SkillMatches (remover : Remover) (expectedSha256 : String) (place : SkillPlace) : Prop :=
  ∃ bytes, place.file = some bytes ∧ remover.integration.digest bytes = expectedSha256

variable {place : SkillPlace}

theorem skillMatches_of_inspect {fault : Option IoError} {actual : String}
    (h : remover.integration.inspectSkillDigest fault place = .ok (some actual)) :
    remover.SkillMatches actual place := by
  cases fault with
  | some error => simp [Integration.inspectSkillDigest] at h
  | none =>
    cases hfile : place.file with
    | none => simp [Integration.inspectSkillDigest, hfile] at h
    | some bytes =>
      simp only [Integration.inspectSkillDigest, hfile] at h
      split at h
      · cases h
      · cases h
        exact ⟨bytes, hfile, rfl⟩

theorem removeSkillStep_of_ne
    (h : (remover.removeSkillStep receipt environment site).2.skill.file ≠ site.skill.file) :
    remover.SkillMatches receipt.skillSha256 site.skill := by
  by_contra hnot
  refine h ?_
  cases hinspect : remover.integration.inspectSkillDigest environment.skillRemoval.inspect
      site.skill with
  | error error =>
    simp only [removeSkillStep, skillAfter, Integration.removeSkill, hinspect]
    split <;> rfl
  | ok actual =>
    cases actual with
    | none =>
      simp only [removeSkillStep, skillAfter, Integration.removeSkill, hinspect]
      repeat' split
      all_goals rfl
    | some actual =>
      have hactual : actual ≠ receipt.skillSha256 := by
        rintro rfl
        exact hnot (skillMatches_of_inspect hinspect)
      simp only [removeSkillStep, skillAfter, Integration.removeSkill, hinspect, if_pos hactual]
      split <;> rfl

theorem checkSite_alias
    (h : remover.checkSite receipt registrationId environment site = .ok ()) :
    site.aliasEntry.present = false ∨
      aliasMatches receipt registrationId site.aliasEntry = true := by
  simp only [checkSite, bind_eq_ok, Integration.failUnless_eq_ok, Bool.or_eq_true,
    Bool.not_eq_true'] at h
  obtain ⟨_, _, _, _, _, _, _, _, _, _, _, halias, _⟩ := h
  exact halias

/-! ## What a run does -/

def Revoked (registrationId : String) (site : Site) : Prop :=
  site.provider.registrationFiles.lookup registrationId = none

theorem registrationRemoval_missing {faults : Vault.RemoveFaults} {vault : Vault}
    (h : vault.files.lookup registrationId = none) :
    (RegistrationStore.remove registrationId faults vault).2.files.lookup
      registrationId = none := by
  obtain ⟨error, hremove⟩ | hgone := RegistrationStore.remove_cases registrationId faults vault
  · rw [hremove]
    exact h
  · exact hgone

theorem revoked_removeRegistration_iff :
    Revoked registrationId (removeRegistration registrationId environment site).2 ↔
      (environment.registrationLeftover.outcome registrationId registrationId
        (RegistrationStore.remove registrationId environment.registrationRemoval
          site.provider.registrations)).2.files.lookup registrationId = none := Iff.rfl

theorem removeRegistration_revoked (h : Revoked registrationId site) :
    Revoked registrationId (removeRegistration registrationId environment site).2 := by
  have hmissing : site.provider.registrations.files.lookup registrationId = none := h
  rw [revoked_removeRegistration_iff]
  exact environment.registrationLeftover.outcome_missing registrationId registrationId
    (registrationRemoval_missing hmissing)

theorem removeRegistration_ok
    (h : (removeRegistration registrationId environment site).1 = .ok ()) :
    Revoked registrationId (removeRegistration registrationId environment site).2 := by
  have hremove : (RegistrationStore.remove registrationId environment.registrationRemoval
      site.provider.registrations).1 = .ok () := by
    simp only [removeRegistration] at h
    cases houtcome : RegistrationStore.remove registrationId environment.registrationRemoval
        site.provider.registrations with
    | mk result vault =>
      cases result with
      | ok => rfl
      | error error =>
        rw [houtcome] at h
        cases h
  rw [revoked_removeRegistration_iff]
  apply environment.registrationLeftover.outcome_missing registrationId registrationId
  rw [RegistrationStore.remove] at hremove ⊢
  split
  case h_1 error hvalid => rw [hvalid] at hremove; cases hremove
  case h_2 hvalid =>
    rw [hvalid] at hremove
    exact (Vault.removeEntry_ok hremove).1

def cleanUp (remover : Remover) (receipt : IntegrationReceipt) (registrationId : String)
    (environment : RemoveEnvironment) (site : Site) : Except IntegrationError Unit × Site :=
  andThen (remover.checkSite receipt registrationId environment site, site) fun site =>
  andThen (removeAlias environment site) fun site =>
  andThen (remover.removeSkillStep receipt environment site) fun site =>
  removeReceipt registrationId environment site

theorem removeIntegration_of_found (h : remover.findReceipt registrationId site = .ok receipt) :
    remover.removeIntegration registrationId environment site =
      andThen (removeRegistration registrationId environment site)
        (remover.cleanUp receipt registrationId environment) := by
  simp only [removeIntegration, h]
  rfl

theorem removeIntegration_of_error {error : IntegrationError}
    (h : remover.findReceipt registrationId site = .error error) :
    remover.removeIntegration registrationId environment site = (.error error, site) := by
  simp only [removeIntegration, h]

theorem cleanUp_revoked (h : Revoked registrationId site) :
    Revoked registrationId (remover.cleanUp receipt registrationId environment site).2 := by
  rw [cleanUp]
  refine andThen_invariant (P := Revoked registrationId) h fun site h => ?_
  refine andThen_invariant (P := Revoked registrationId) ?_ fun site h => ?_
  · rw [Revoked, removeAlias_provider]
    exact h
  · refine andThen_invariant (P := Revoked registrationId) ?_ fun site h => ?_
    · rw [Revoked, removeSkillStep_frame.1]
      exact h
    · rw [Revoked, removeReceipt_registrationFiles]
      exact h

structure RunSafe (remover : Remover) (registrationId : String) (environment : RemoveEnvironment)
    (site : Site) : Prop where
  aliasEntry : (remover.removeIntegration registrationId environment site).2.aliasEntry ≠
      site.aliasEntry →
    ∃ receipt, remover.findReceipt registrationId site = .ok receipt ∧
      site.aliasEntry.present = true ∧ aliasMatches receipt registrationId site.aliasEntry = true
  skill : (remover.removeIntegration registrationId environment site).2.skill.file ≠
      site.skill.file →
    ∃ receipt, remover.findReceipt registrationId site = .ok receipt ∧
      remover.SkillMatches receipt.skillSha256 site.skill
  kept : Revoked registrationId site →
    Revoked registrationId (remover.removeIntegration registrationId environment site).2
  revokes : ∀ receipt, remover.findReceipt registrationId site = .ok receipt →
    (removeRegistration registrationId environment site).1 = .ok () →
    Revoked registrationId (remover.removeIntegration registrationId environment site).2

theorem cleanUp_aliasEntry
    (h : (remover.cleanUp receipt registrationId environment site).2.aliasEntry ≠
      site.aliasEntry) :
    site.aliasEntry.present = true ∧
    aliasMatches receipt registrationId site.aliasEntry = true := by
  cases hcheck : remover.checkSite receipt registrationId environment site with
  | error error =>
    refine absurd ?_ h
    simp only [cleanUp, andThen, hcheck]
  | ok =>
    have hcleanUp : (remover.cleanUp receipt registrationId environment site).2.aliasEntry =
        (removeAlias environment site).2.aliasEntry := by
      rw [cleanUp, andThen_ok hcheck]
      refine andThen_invariant (P := fun after => after.aliasEntry =
        (removeAlias environment site).2.aliasEntry) rfl fun after hafter => ?_
      exact andThen_invariant (P := fun after => after.aliasEntry =
        (removeAlias environment site).2.aliasEntry)
        (removeSkillStep_frame.2.trans hafter) fun _ hafter => removeReceipt_aliasEntry.trans hafter
    have hpresent := removeAlias_of_ne (hcleanUp ▸ h)
    obtain habsent | hmatches := checkSite_alias hcheck
    · rw [hpresent] at habsent
      cases habsent
    · exact ⟨hpresent, hmatches⟩

theorem cleanUp_skill
    (h : (remover.cleanUp receipt registrationId environment site).2.skill.file ≠
      site.skill.file) : remover.SkillMatches receipt.skillSha256 site.skill := by
  by_contra hmatches
  have hstep : ∀ after : Site, after.skill = site.skill →
      (remover.removeSkillStep receipt environment after).2.skill.file = site.skill.file := by
    intro after hafter
    by_contra hne
    rw [← hafter] at hne hmatches
    exact hmatches (removeSkillStep_of_ne hne)
  refine h ?_
  rw [cleanUp]
  obtain heq | heq := andThen_snd (remover.checkSite receipt registrationId environment site, site)
    _ <;> rw [heq]
  obtain heq | heq := andThen_snd (removeAlias environment site) _ <;> rw [heq]
  · rw [removeAlias_skill]
  · exact andThen_invariant (P := fun after => after.skill.file = site.skill.file)
      (hstep _ removeAlias_skill) fun _ hafter =>
        (congrArg SkillPlace.file removeReceipt_skill).trans hafter

theorem runSafe (remover : Remover) (registrationId : String) (environment : RemoveEnvironment)
    (site : Site) : remover.RunSafe registrationId environment site := by
  cases hfind : remover.findReceipt registrationId site with
  | error error =>
    have hrun : remover.removeIntegration registrationId environment site = (.error error, site) :=
      removeIntegration_of_error hfind
    constructor
    case aliasEntry => exact fun h => absurd (by rw [hrun]) h
    case skill => exact fun h => absurd (by rw [hrun]) h
    case kept => rw [hrun]; exact id
    case revokes => rw [hfind]; exact fun _ h => nomatch h
  | ok receipt =>
    have hrun : remover.removeIntegration registrationId environment site = _ :=
      removeIntegration_of_found hfind
    have hframe : (removeRegistration registrationId environment site).2.aliasEntry =
        site.aliasEntry ∧
        (removeRegistration registrationId environment site).2.skill = site.skill := ⟨rfl, rfl⟩
    have hsnd := andThen_snd (removeRegistration registrationId environment site)
      (remover.cleanUp receipt registrationId environment)
    rw [← hrun] at hsnd
    constructor
    case aliasEntry =>
      intro h
      refine ⟨receipt, hfind, ?_⟩
      obtain heq | heq := hsnd
      · exact absurd (by rw [heq, hframe.1]) h
      · rw [heq, ← hframe.1] at h
        exact hframe.1 ▸ cleanUp_aliasEntry h
    case skill =>
      intro h
      refine ⟨receipt, hfind, ?_⟩
      obtain heq | heq := hsnd
      · exact absurd (by rw [heq, hframe.2]) h
      · rw [heq, ← hframe.2] at h
        exact hframe.2 ▸ cleanUp_skill h
    case kept =>
      intro h
      rw [hrun]
      exact andThen_invariant (P := Revoked registrationId) (removeRegistration_revoked h)
        fun _ h => cleanUp_revoked h
    case revokes =>
      intro _ _ hok
      rw [hrun, andThen_ok hok]
      exact cleanUp_revoked (removeRegistration_ok hok)

/-! ## The receipt between the runs -/

def ReceiptGone (registrationId : String) (site : Site) : Prop :=
  site.provider.stateFiles.lookup (receiptRef registrationId) = none

def ReceiptHeld (remover : Remover) (registrationId : String) (receipt : IntegrationReceipt)
    (site : Site) : Prop :=
  ∃ bytes, remover.integration.states.load (receiptRef registrationId) site.provider.states =
    .ok bytes ∧ remover.decodeReceipt bytes = some receipt

theorem loadReceipt_starts (h : remover.loadReceipt registrationId site = .ok receipt) :
    "registration_".toList.isPrefixOf registrationId.toList = true := by
  simp only [loadReceipt, bind_eq_ok, Integration.failUnless_eq_ok] at h
  obtain ⟨_, hstarts, _⟩ := h
  exact hstarts

theorem findReceipt_loaded (h : remover.findReceipt registrationId site = .ok receipt) :
    remover.loadReceipt registrationId site = .ok receipt := by
  simp only [findReceipt, bind_eq_ok, Except.ok.injEq] at h
  obtain ⟨loaded, hload, _, _, rfl⟩ := h
  exact hload

theorem findReceipt_of_gone (h : ReceiptGone registrationId site) :
    remover.findReceipt registrationId site ≠ .ok receipt := by
  intro hfind
  have hload := findReceipt_loaded hfind
  simp only [loadReceipt, bind_eq_ok] at hload
  obtain ⟨_, _, bytes, hbytes, _⟩ := hload
  cases hstates : remover.integration.states.load (receiptRef registrationId)
      site.provider.states with
  | error error =>
    rw [hstates] at hbytes
    cases hbytes
  | ok bytes' =>
    obtain ⟨_, text, _, _, hfile, _⟩ := (IntegrationStore.load_eq_ok_iff _).mp hstates
    exact absurd (h.symm.trans hfile) (by simp)

theorem failed_of_gone (h : ReceiptGone registrationId site) :
    ∃ error, (remover.removeIntegration registrationId environment site).1 = .error error := by
  cases hfind : remover.findReceipt registrationId site with
  | ok found => exact absurd hfind (findReceipt_of_gone h)
  | error error =>
    rw [removeIntegration_of_error hfind]
    exact ⟨error, rfl⟩

theorem findReceipt_of_held
    (hstarts : "registration_".toList.isPrefixOf registrationId.toList = true)
    (hmatches : remover.receiptMatches receipt registrationId = true)
    (h : remover.ReceiptHeld registrationId receipt site) :
    remover.findReceipt registrationId site = .ok receipt := by
  obtain ⟨bytes, hload, hdecode⟩ := h
  have hloaded : remover.loadReceipt registrationId site = .ok receipt := by
    simp only [loadReceipt, hstarts, hload, Integration.failUnless, if_true]
    simp only [bind, Except.bind, Except.mapError, hdecode]
  simp only [findReceipt, bind_eq_ok, Integration.failUnless_eq_ok]
  exact ⟨receipt, hloaded, (), hmatches, rfl⟩

def HeldOrGone (remover : Remover) (registrationId : String) (receipt : IntegrationReceipt)
    (site : Site) : Prop :=
  remover.ReceiptHeld registrationId receipt site ∨ ReceiptGone registrationId site

theorem removeRegistration_secret {secretId : String} (h : secretId ≠ registrationId) :
    (removeRegistration registrationId environment site).2.provider.secrets.lookup secretId =
      site.provider.secrets.lookup secretId := by
  have hremove : (RegistrationStore.remove registrationId environment.registrationRemoval
      site.provider.registrations).2.secrets.lookup secretId =
        site.provider.secrets.lookup secretId := by
    rw [RegistrationStore.remove]
    split
    · rfl
    · exact Vault.removeEntry_other_secret h
  simp only [removeRegistration]
  cases houtcome : RegistrationStore.remove registrationId environment.registrationRemoval
      site.provider.registrations with
  | mk result vault =>
    rw [houtcome] at hremove
    cases result with
    | ok => exact hremove
    | error error =>
      exact (environment.registrationLeftover.secrets_apply _ _ vault h).trans hremove

theorem removeRegistration_heldOrGone
    (hstarts : "registration_".toList.isPrefixOf registrationId.toList = true)
    (h : remover.HeldOrGone registrationId receipt site) :
    remover.HeldOrGone registrationId receipt
      (removeRegistration registrationId environment site).2 := by
  obtain ⟨bytes, hload, hdecode⟩ | hgone := h
  · refine .inl ⟨bytes, ?_, hdecode⟩
    rw [← hload]
    exact IntegrationStore.load_congr _ rfl
      (removeRegistration_secret (stateSecretId_ne hstarts _))
  · exact .inr hgone

theorem removeReceipt_cases :
    (removeReceipt registrationId environment site).2 = site ∨
      ReceiptGone registrationId (removeReceipt registrationId environment site).2 := by
  obtain ⟨error, hremove⟩ | hgone := Integration.remove_cases (receiptRef registrationId)
    environment.receiptRemoval site.provider.states
  · cases hleftover : environment.receiptLeftover with
    | asReported =>
      left
      simp only [removeReceipt, hremove, hleftover, Leftover.outcome, Leftover.apply]
      rfl
    | fileRemoved =>
      right
      simp only [ReceiptGone, removeReceipt, hremove, hleftover, Leftover.outcome, Leftover.apply]
      exact AList.lookup_erase _ _
    | entryRemoved =>
      right
      simp only [ReceiptGone, removeReceipt, hremove, hleftover, Leftover.outcome, Leftover.apply]
      exact AList.lookup_erase _ _
  · exact .inr (environment.receiptLeftover.outcome_missing _ _ hgone)

theorem cleanUp_heldOrGone (h : remover.HeldOrGone registrationId receipt site)
    (found : IntegrationReceipt) :
    remover.HeldOrGone registrationId receipt
      (remover.cleanUp found registrationId environment site).2 := by
  rw [cleanUp]
  refine andThen_invariant (P := remover.HeldOrGone registrationId receipt) h fun site h => ?_
  refine andThen_invariant (P := remover.HeldOrGone registrationId receipt) ?_ fun site h => ?_
  · rw [HeldOrGone, ReceiptHeld, ReceiptGone, removeAlias_provider]
    exact h
  · refine andThen_invariant (P := remover.HeldOrGone registrationId receipt) ?_ fun site h => ?_
    · rw [HeldOrGone, ReceiptHeld, ReceiptGone, removeSkillStep_frame.1]
      exact h
    · obtain heq | hgone := removeReceipt_cases
      · rw [heq]
        exact h
      · exact .inr hgone

theorem removeIntegration_heldOrGone (h : remover.HeldOrGone registrationId receipt site) :
    remover.HeldOrGone registrationId receipt
      (remover.removeIntegration registrationId environment site).2 := by
  cases hfind : remover.findReceipt registrationId site with
  | error error =>
    rw [removeIntegration_of_error hfind]
    exact h
  | ok found =>
    have hstarts := loadReceipt_starts (findReceipt_loaded hfind)
    rw [removeIntegration_of_found hfind]
    exact andThen_invariant (P := remover.HeldOrGone registrationId receipt)
      (removeRegistration_heldOrGone hstarts h) fun _ h => cleanUp_heldOrGone h found

/-! ## The last run -/

structure Removed (registrationId : String) (site : Site) : Prop where
  registration : Revoked registrationId site
  aliasEntry : site.aliasEntry.present = false
  skill : site.skill.file = none
  receipt : ReceiptGone registrationId site

/-- The steps before the removal of the receipt succeed, and what is there matches the
receipt. -/
structure Smooth (remover : Remover) (registrationId : String) (receipt : IntegrationReceipt)
    (environment : RemoveEnvironment) (site : Site) : Prop where
  registrationRemoval : environment.registrationRemoval.removes = true
  hostCanonical : environment.hostCanonical = .ok receipt.hostExecutable
  hostIdentity : environment.hostIdentity = .ok receipt.hostIdentity
  inspect : ∃ digest, environment.inspect = .ok digest
  skillInspect : environment.skillInspect = none
  hostRemoval : environment.hostRemoval.result = .ok ()
  skillRemoval : environment.skillRemoval.removes = true
  aliasEntry : site.aliasEntry.present = false ∨
    aliasMatches receipt registrationId site.aliasEntry = true
  skill : site.skill.file = none ∨ ∃ bytes, site.skill.file = some bytes ∧
    bytes.length ≤ maxSkillBytes ∧ remover.integration.digest bytes = receipt.skillSha256

structure Ready (remover : Remover) (registrationId : String) (receipt : IntegrationReceipt)
    (environment : RemoveEnvironment) (site : Site) : Prop
    extends remover.Smooth registrationId receipt environment site where
  receiptRemoval : environment.receiptRemoval.removes = true

theorem removeRegistration_of_removes (hvalid : validateRegistrationId registrationId = .ok ())
    (h : environment.registrationRemoval.removes = true) :
    (removeRegistration registrationId environment site).1 = .ok () := by
  have hremove : (RegistrationStore.remove registrationId environment.registrationRemoval
      site.provider.registrations).1 = .ok () :=
    RegistrationStore.remove_ok_iff.mpr ⟨hvalid, h⟩
  simp only [removeRegistration]
  cases houtcome : RegistrationStore.remove registrationId environment.registrationRemoval
      site.provider.registrations with
  | mk result vault =>
    rw [houtcome] at hremove
    cases hremove
    rfl

theorem inspectSkillDigest_of_matches
    (h : place.file = none ∨ ∃ bytes, place.file = some bytes ∧ bytes.length ≤ maxSkillBytes ∧
      remover.integration.digest bytes = receipt.skillSha256) :
    remover.integration.inspectSkillDigest none place = .ok (place.file.map fun _ =>
      receipt.skillSha256) := by
  obtain hnone | ⟨bytes, hfile, hlength, hdigest⟩ := h
  · simp [Integration.inspectSkillDigest, hnone]
  · simp [Integration.inspectSkillDigest, hfile, Nat.not_lt_of_le hlength, hdigest]

theorem removeSkill_of_matches
    (hfaults : faults.removes = true)
    (h : place.file = none ∨ ∃ bytes, place.file = some bytes ∧ bytes.length ≤ maxSkillBytes ∧
      remover.integration.digest bytes = receipt.skillSha256) :
    (remover.integration.removeSkill receipt.skillSha256 faults place).1 = .ok () := by
  simp only [SkillRemoveFaults.removes, Bool.and_eq_true, Option.isNone_iff_eq_none] at hfaults
  obtain ⟨⟨hinspect, hfile⟩, hdirectory⟩ := hfaults
  have hdigest := inspectSkillDigest_of_matches h
  cases hplace : place.file with
  | none =>
    simp only [Integration.removeSkill, hinspect, hdigest, hplace, Option.map_none, hdirectory]
    split <;> rfl
  | some bytes =>
    simp [Integration.removeSkill, hinspect, hdigest, hplace, hfile, hdirectory]

theorem checkSite_of_smooth (h : remover.Smooth registrationId receipt environment site) :
    remover.checkSite receipt registrationId environment site = .ok () := by
  obtain ⟨digest, hinspect⟩ := h.inspect
  have hskill : remover.integration.inspectSkillDigest environment.skillInspect site.skill = _ :=
    h.skillInspect ▸ inspectSkillDigest_of_matches h.skill
  have halias : (!site.aliasEntry.present ||
      aliasMatches receipt registrationId site.aliasEntry) = true := by
    obtain habsent | hmatches := h.aliasEntry
    · simp [habsent]
    · simp [hmatches]
  simp only [checkSite, bind_eq_ok, Integration.failUnless_eq_ok, h.hostCanonical, h.hostIdentity,
    hinspect, hskill, halias]
  refine ⟨_, rfl, (), beq_self_eq_true _, _, rfl, (), beq_self_eq_true _, _, rfl, (), trivial, _,
    rfl, ?_⟩
  cases site.skill.file <;> simp

theorem removeAlias_of_ok (h : environment.hostRemoval.result = .ok ()) :
    (removeAlias environment site).1 = .ok () ∧
      (removeAlias environment site).2.aliasEntry.present = false := by
  cases hpresent : site.aliasEntry.present with
  | false => simp [removeAlias, hpresent]
  | true => simp [removeAlias, hpresent, h, HostAnswer.tookEffect, Except.mapError, absentAlias]

theorem removeSkillStep_of_ok {skill : SkillPlace}
    (h : remover.integration.removeSkill receipt.skillSha256 environment.skillRemoval site.skill =
      (.ok (), skill)) :
    remover.removeSkillStep receipt environment site = (.ok (), { site with skill := skill }) := by
  simp only [removeSkillStep, h]

theorem removeReceipt_of_removes
    (href : validateRegistrationId (receiptRef registrationId) = .ok ())
    (h : environment.receiptRemoval.removes = true) :
    (removeReceipt registrationId environment site).1 = .ok () ∧
      ReceiptGone registrationId (removeReceipt registrationId environment site).2 := by
  have hok : (site.provider.states.removeEntry (receiptRef registrationId)
      (stateSecretId (receiptRef registrationId)) environment.receiptRemoval).1 = .ok () :=
    Vault.removeEntry_ok_iff.mpr h
  have hgone := (Vault.removeEntry_ok hok).1
  simp only [ReceiptGone, removeReceipt, IntegrationStore.remove, href]
  cases houtcome : site.provider.states.removeEntry (receiptRef registrationId)
      (stateSecretId (receiptRef registrationId)) environment.receiptRemoval with
  | mk result vault =>
    rw [houtcome] at hok hgone
    cases hok
    exact ⟨rfl, hgone⟩

section

variable (hvalid : validateRegistrationId registrationId = .ok ())
include hvalid

theorem removeIntegration_of_smooth
    (hfind : remover.findReceipt registrationId site = .ok receipt)
    (hsmooth : remover.Smooth registrationId receipt environment site) :
    ∃ cleared : Site, remover.removeIntegration registrationId environment site =
        removeReceipt registrationId environment cleared ∧
      Revoked registrationId cleared ∧ cleared.aliasEntry.present = false ∧
      cleared.skill.file = none := by
  have hregistration : (removeRegistration registrationId environment site).1 = .ok () :=
    removeRegistration_of_removes hvalid hsmooth.registrationRemoval
  have hrevoked := removeRegistration_ok hregistration
  -- the revocation touches neither the alias nor the skill
  have hafter : remover.Smooth registrationId receipt environment
      (removeRegistration registrationId environment site).2 :=
    { hsmooth with }
  rw [removeIntegration_of_found hfind, andThen_ok hregistration]
  generalize (removeRegistration registrationId environment site).2 = revoked at hrevoked hafter ⊢
  obtain ⟨haliasOk, halias⟩ : (removeAlias environment revoked).1 = .ok () ∧
      (removeAlias environment revoked).2.aliasEntry.present = false :=
    removeAlias_of_ok hafter.hostRemoval
  have hskillOk : (remover.integration.removeSkill receipt.skillSha256 environment.skillRemoval
      (removeAlias environment revoked).2.skill).1 = .ok () := by
    rw [removeAlias_skill]
    exact removeSkill_of_matches hafter.skillRemoval hafter.skill
  have hskill := remover.integration.removeSkill_ok hskillOk
  have hstill : Revoked registrationId (removeAlias environment revoked).2 := by
    rw [Revoked, removeAlias_provider]
    exact hrevoked
  rw [cleanUp, andThen_ok (checkSite_of_smooth hafter), andThen_ok haliasOk]
  generalize (removeAlias environment revoked).2 = unlisted at halias hskillOk hskill hstill ⊢
  cases houtcome : remover.integration.removeSkill receipt.skillSha256 environment.skillRemoval
      unlisted.skill with
  | mk result skill =>
    rw [houtcome] at hskillOk hskill
    cases hskillOk
    rw [removeSkillStep_of_ok houtcome]
    exact ⟨{ unlisted with skill := skill }, rfl, hstill, halias, hskill⟩

theorem removed_of_held
    (href : validateRegistrationId (receiptRef registrationId) = .ok ())
    (hfind : remover.findReceipt registrationId site = .ok receipt)
    (hready : remover.Ready registrationId receipt environment site) :
    (remover.removeIntegration registrationId environment site).1 = .ok () ∧
      Removed registrationId (remover.removeIntegration registrationId environment site).2 := by
  obtain ⟨cleared, hrun, hrevoked, halias, hskill⟩ :=
    removeIntegration_of_smooth hvalid hfind hready.toSmooth
  obtain ⟨hok, hgone⟩ : (removeReceipt registrationId environment cleared).1 = .ok () ∧
      ReceiptGone registrationId (removeReceipt registrationId environment cleared).2 :=
    removeReceipt_of_removes href hready.receiptRemoval
  rw [hrun]
  refine ⟨hok, ?_, ?_, ?_, hgone⟩
  · rw [Revoked, removeReceipt_registrationFiles]
    exact hrevoked
  · rw [removeReceipt_aliasEntry]
    exact halias
  · rw [removeReceipt_skill]
    exact hskill

/-- When only the secret of the receipt cannot be deleted, everything is removed and
the run fails. -/
theorem removed_of_secret_kept
    (href : validateRegistrationId (receiptRef registrationId) = .ok ())
    (hfind : remover.findReceipt registrationId site = .ok receipt)
    (hsmooth : remover.Smooth registrationId receipt environment site) {error : SecretStoreError}
    (hremoval : environment.receiptRemoval = ⟨none, none, some error⟩)
    (hleftover : environment.receiptLeftover = .asReported) :
    Removed registrationId (remover.removeIntegration registrationId environment site).2 := by
  obtain ⟨cleared, hrun, hrevoked, halias, hskill⟩ :=
    removeIntegration_of_smooth hvalid hfind hsmooth
  rw [hrun]
  refine ⟨by rwa [Revoked, removeReceipt_registrationFiles], by rwa [removeReceipt_aliasEntry],
    by rwa [removeReceipt_skill], ?_⟩
  simp only [ReceiptGone, removeReceipt, IntegrationStore.remove, href, hremoval, hleftover,
    Vault.removeEntry, Leftover.outcome, Leftover.apply]
  exact AList.lookup_erase _ _

end

/-! ## Every sequence of runs -/

inductive Event where
  | run (environment : RemoveEnvironment)
  | changed (skill : SkillPlace) (aliasEntry : AliasSnapshot)

def happen (remover : Remover) (registrationId : String) (site : Site) : Event → Site
  | .run environment => (remover.removeIntegration registrationId environment site).2
  | .changed skill aliasEntry => { site with skill := skill, aliasEntry := aliasEntry }

def after (remover : Remover) (registrationId : String) (events : List Event) (site : Site) :
    Site :=
  events.foldl (remover.happen registrationId) site

/-- An integration that was applied: its receipt is stored and names the registration. -/
structure Applied (remover : Remover) (registrationId : String) (receipt : IntegrationReceipt)
    (site : Site) : Prop where
  starts : "registration_".toList.isPrefixOf registrationId.toList = true
  validId : validateRegistrationId registrationId = .ok ()
  validRef : validateRegistrationId (receiptRef registrationId) = .ok ()
  receiptMatches : remover.receiptMatches receipt registrationId = true
  held : remover.ReceiptHeld registrationId receipt site

theorem happen_heldOrGone (event : Event)
    (h : remover.HeldOrGone registrationId receipt site) :
    remover.HeldOrGone registrationId receipt (remover.happen registrationId site event) := by
  cases event with
  | run environment => exact removeIntegration_heldOrGone h
  | changed skill aliasEntry => exact h

theorem after_heldOrGone (events : List Event)
    (h : remover.HeldOrGone registrationId receipt site) :
    remover.HeldOrGone registrationId receipt (remover.after registrationId events site) := by
  induction events generalizing site with
  | nil => exact h
  | cons event events ih => exact ih (happen_heldOrGone event h)

theorem after_revoked (events : List Event) (h : Revoked registrationId site) :
    Revoked registrationId (remover.after registrationId events site) := by
  induction events generalizing site with
  | nil => exact h
  | cons event events ih =>
    refine ih ?_
    cases event with
    | run environment => exact (runSafe remover registrationId environment site).kept h
    | changed skill aliasEntry => exact h

structure SafeAndRestartable (remover : Remover) (registrationId : String) (start : Site)
    (events : List Event) (environment : RemoveEnvironment) : Prop where
  safe : ∀ earlier environment' later, events ++ [.run environment] =
      earlier ++ .run environment' :: later →
    remover.RunSafe registrationId environment' (remover.after registrationId earlier start)
  revoked : ∀ earlier later, events ++ [.run environment] = earlier ++ later →
    Revoked registrationId (remover.after registrationId earlier start) →
    Revoked registrationId (remover.after registrationId (earlier ++ later) start)
  completed : (remover.removeIntegration registrationId environment
      (remover.after registrationId events start)).1 = .ok () ∧
    Removed registrationId (remover.removeIntegration registrationId environment
      (remover.after registrationId events start)).2

/-- After every sequence of runs and changes, a run whose steps succeed on what still
matches completes the removal exactly when the file of the receipt is there. -/
theorem safeAndRestartable_iff (remover : Remover) (registrationId : String)
    (receipt : IntegrationReceipt) (start : Site) (events : List Event)
    (environment : RemoveEnvironment)
    (happlied : remover.Applied registrationId receipt start)
    (hready : remover.Ready registrationId receipt environment
      (remover.after registrationId events start)) :
    remover.SafeAndRestartable registrationId start events environment ↔
      ¬ ReceiptGone registrationId (remover.after registrationId events start) := by
  constructor
  · intro h hgone
    obtain ⟨error, herror⟩ := failed_of_gone hgone
    exact absurd (h.completed.1.symm.trans herror) (by simp)
  · intro hthere
    have hheld := (after_heldOrGone events (.inl happlied.held)).resolve_right hthere
    have hfind := findReceipt_of_held happlied.starts happlied.receiptMatches hheld
    constructor
    case safe => exact fun _ _ _ _ => runSafe _ _ _ _
    case revoked =>
      intro earlier later _ hrevoked
      rw [after, List.foldl_append]
      exact after_revoked later hrevoked
    case completed => exact removed_of_held happlied.validId happlied.validRef hfind hready

/-! ## A receipt whose secret stays -/

def sampleReceipt : IntegrationReceipt := receiptFromPlan Integration.stdioPlan 0 "alias"

def sampleRemover : Remover := ⟨Integration.onePlan, fun _ => some sampleReceipt⟩

def sampleSite : Site :=
  ⟨oneState Integration.onePlan.states "receipt_00000001", ⟨true, some [1]⟩,
    Integration.ownEntry⟩

def unhindered (receiptRemoval : Vault.RemoveFaults) : RemoveEnvironment where
  registrationRemoval := Vault.noRemoveFaults
  registrationLeftover := .asReported
  hostCanonical := .ok "/codex"
  hostIdentity := .ok Integration.stdioRegistration.hostIdentity
  inspect := .ok "configuration"
  skillInspect := none
  hostRemoval := ⟨.ok (), true⟩
  skillRemoval := ⟨none, none, none⟩
  skillEffect := false
  receiptRemoval := receiptRemoval
  receiptLeftover := .asReported

theorem sample_applied :
    sampleRemover.Applied "registration_00000001" sampleReceipt sampleSite := by
  have href : receiptRef "registration_00000001" = "receipt_00000001" := by decide
  refine ⟨by decide, by decide, by rw [href]; decide, by decide, [0], ?_, rfl⟩
  rw [href]
  exact load_oneState (by decide)

theorem sample_smooth (receiptRemoval : Vault.RemoveFaults) :
    sampleRemover.Smooth "registration_00000001" sampleReceipt (unhindered receiptRemoval)
      sampleSite where
  registrationRemoval := rfl
  hostCanonical := rfl
  hostIdentity := rfl
  inspect := ⟨_, rfl⟩
  skillInspect := rfl
  hostRemoval := rfl
  skillRemoval := rfl
  aliasEntry := .inr (by decide)
  skill := .inr ⟨[1], rfl, by decide, rfl⟩

theorem sample_found :
    sampleRemover.findReceipt "registration_00000001" sampleSite = .ok sampleReceipt :=
  findReceipt_of_held sample_applied.starts sample_applied.receiptMatches sample_applied.held

/-- The host does not remove the alias. -/
def deafHost : RemoveEnvironment :=
  { unhindered Vault.noRemoveFaults with hostRemoval := ⟨.error .command, false⟩ }

theorem deafHost_run : ∃ error vault,
    sampleRemover.removeIntegration "registration_00000001" deafHost sampleSite =
      (.error error, sampleSite.setRegistrations vault) := by
  rw [removeIntegration_of_found sample_found,
    andThen_ok (removeRegistration_of_removes sample_applied.validId rfl), cleanUp]
  have hsmooth : sampleRemover.Smooth "registration_00000001" sampleReceipt
      (unhindered Vault.noRemoveFaults)
      (removeRegistration "registration_00000001" deafHost sampleSite).2 :=
    { sample_smooth Vault.noRemoveFaults with }
  -- the check reads nothing of the host's answer to the removal
  rw [andThen_ok (checkSite_of_smooth hsmooth)]
  exact ⟨_, _, rfl⟩

/-- The first run revokes the registration and fails, and the second one removes the rest. -/
theorem sample_restartable :
    (∃ error, (sampleRemover.removeIntegration "registration_00000001" deafHost sampleSite).1 =
        .error error) ∧
      sampleRemover.SafeAndRestartable "registration_00000001" sampleSite [.run deafHost]
        (unhindered Vault.noRemoveFaults) := by
  obtain ⟨error, vault, hrun⟩ := deafHost_run
  have hafter : sampleRemover.after "registration_00000001" [.run deafHost] sampleSite =
      sampleSite.setRegistrations vault := congrArg Prod.snd hrun
  refine ⟨⟨error, congrArg Prod.fst hrun⟩, (safeAndRestartable_iff sampleRemover
    "registration_00000001" sampleReceipt sampleSite [.run deafHost]
    (unhindered Vault.noRemoveFaults)
    sample_applied ⟨?_, rfl⟩).mpr fun hgone => ?_⟩
  · rw [hafter]
    exact { sample_smooth Vault.noRemoveFaults with }
  · rw [hafter] at hgone
    have hgone : ReceiptGone "registration_00000001" sampleSite := hgone
    exact findReceipt_of_gone hgone sample_found

/-- The first run fails to delete the secret of the receipt; then nothing is left, and a
second run, in which nothing fails, does not find the receipt. -/
theorem secret_kept_not_restartable :
    Removed "registration_00000001" (sampleRemover.after "registration_00000001"
        [.run (unhindered ⟨none, none, some .unsupportedPlatform⟩)] sampleSite) ∧
      ∃ error, (sampleRemover.removeIntegration "registration_00000001"
        (unhindered Vault.noRemoveFaults)
        (sampleRemover.after "registration_00000001"
          [.run (unhindered ⟨none, none, some .unsupportedPlatform⟩)] sampleSite)).1 =
        .error error := by
  have hremoved : Removed "registration_00000001" (sampleRemover.after "registration_00000001"
      [.run (unhindered ⟨none, none, some .unsupportedPlatform⟩)] sampleSite) :=
    removed_of_secret_kept sample_applied.validId sample_applied.validRef sample_found
      (sample_smooth _) rfl rfl
  exact ⟨hremoved, failed_of_gone hremoved.receipt⟩

end Remover

end NexusCua.Cli
