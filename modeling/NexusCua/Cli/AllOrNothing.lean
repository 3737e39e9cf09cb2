import NexusCua.Cli.Integration

/-!
# Applying is all or nothing

What an application leaves behind.  A success leaves the registration, the skill,
the alias and the receipt.  A failure that is not reported as an incomplete rollback
is to leave none of the first three.  It does leave one when a failing installation
could not remove its own file, or when the rollback does not see the alias that was
added as the plan's own, while the rollback itself finds nothing wrong.
-/

namespace NexusCua.Cli

open NexusCua.Foundation NexusCua.Provider

namespace Integration

section Steps

variable (integration : Integration) (plan : IntegrationPlan) (nowUnixMs : UInt64)
  (environment : ApplyEnvironment) (machine : Machine)

/-! ## What the steps do -/

inductive Attempted : Attempt → Prop where
  | registrationFailed (error : RegistrationError)
      (hregistration : (integration.registrationOutcome plan nowUnixMs environment machine).1 =
        .error error) :
      Attempted ⟨setRegistrations
        (integration.registrationOutcome plan nowUnixMs environment machine).2 machine,
        false, false, .error (.provider error)⟩
  | skillFailed (summary : RegistrationSummary) (error : IntegrationError)
      (hregistration : (integration.registrationOutcome plan nowUnixMs environment machine).1 =
        .ok summary)
      (hskill : (integration.skillOutcome plan environment machine).1 = .error error) :
      Attempted ⟨setSkill (integration.skillOutcome plan environment machine).2 (setRegistrations
        (integration.registrationOutcome plan nowUnixMs environment machine).2 machine),
        true, false, .error error⟩
  | addFailed (summary : RegistrationSummary) (error : HostError)
      (hregistration : (integration.registrationOutcome plan nowUnixMs environment machine).1 =
        .ok summary)
      (hskill : (integration.skillOutcome plan environment machine).1 = .ok ())
      (hadd : environment.add.result = .error error) :
      Attempted ⟨integration.prepared plan nowUnixMs environment machine, true, true,
        .error error.error⟩
  | added (summary : RegistrationSummary)
      (hregistration : (integration.registrationOutcome plan nowUnixMs environment machine).1 =
        .ok summary)
      (hskill : (integration.skillOutcome plan environment machine).1 = .ok ())
      (hadd : environment.add.result = .ok ()) :
      Attempted ⟨(integration.receiptOutcome plan nowUnixMs environment machine).2, true, true,
        (integration.receiptOutcome plan nowUnixMs environment machine).1⟩

theorem attempt_attempted :
    Attempted integration plan nowUnixMs environment machine
      (integration.attempt plan nowUnixMs environment machine) := by
  rw [attempt]
  dsimp only
  split
  case h_1 error hregistration => exact .registrationFailed error hregistration
  case h_2 summary hregistration =>
    split
    case h_1 error hskill => exact .skillFailed summary error hregistration hskill
    case h_2 hskill =>
      split
      case h_1 error hadd => exact .addFailed summary error hregistration hskill hadd
      case h_2 hadd => exact .added summary hregistration hskill hadd

end Steps

variable {integration : Integration} {plan : IntegrationPlan} {nowUnixMs : UInt64}
  {environment : ApplyEnvironment} {machine : Machine}

/-! ## What the rollback does -/

def RegistrationRemoved (plan : IntegrationPlan) (environment : ApplyEnvironment)
    (machine : Machine) : Prop :=
  (RegistrationStore.remove plan.registrationId environment.registrationRemoval
    machine.provider.registrations).1 = .ok ()

def SeesUnowned (plan : IntegrationPlan) (environment : ApplyEnvironment) : Prop :=
  ∃ snapshot, environment.inspectRollback = .ok snapshot ∧
    snapshot.aliasEntry.isOwned plan.runtimeExecutable plan.registrationId = false

def AliasSettled (plan : IntegrationPlan) (environment : ApplyEnvironment) : Prop :=
  SeesUnowned plan environment ∨ ∃ snapshot, environment.inspectRollback = .ok snapshot ∧
    snapshot.aliasEntry.isOwned plan.runtimeExecutable plan.registrationId = true ∧
    environment.hostRemoval.result = .ok ()

def SkillRemoved (integration : Integration) (plan : IntegrationPlan)
    (environment : ApplyEnvironment) (skill : SkillPlace) : Prop :=
  (integration.removeSkill plan.skillSha256 environment.skillRemoval skill).1 = .ok ()

theorem remove_result_eq (registrationId : String) (faults : Vault.RemoveFaults)
    (vault vault' : Vault) :
    (RegistrationStore.remove registrationId faults vault).1 =
      (RegistrationStore.remove registrationId faults vault').1 := by
  simp only [RegistrationStore.remove, Vault.removeEntry]
  split
  · rfl
  · split <;> rfl

theorem rollbackRegistration_true :
    rollbackRegistration plan environment true machine =
      let removed := RegistrationStore.remove plan.registrationId environment.registrationRemoval
        machine.provider.registrations
      (removed.1.isOk, setRegistrations removed.2 machine) := by
  simp only [rollbackRegistration, if_true]
  split <;> simp [*, Except.isOk, Except.toBool]

theorem rollbackSkill_true :
    integration.rollbackSkill plan environment true machine =
      let removed := integration.removeSkill plan.skillSha256 environment.skillRemoval machine.skill
      (removed.1.isOk, setSkill removed.2 machine) := by
  simp only [rollbackSkill, if_true]
  split <;> simp [*, Except.isOk, Except.toBool]

theorem isOk_iff {ε : Type} {result : Except ε Unit} : result.isOk = true ↔ result = .ok () := by
  cases result <;> simp [Except.isOk, Except.toBool]

theorem rollbackRegistration_clean_iff (needed : Bool) :
    (rollbackRegistration plan environment needed machine).1 = true ↔
      (needed = true → RegistrationRemoved plan environment machine) := by
  cases needed with
  | false => simp [rollbackRegistration]
  | true => simp [rollbackRegistration_true, RegistrationRemoved, isOk_iff]

theorem rollbackAlias_clean_iff :
    (rollbackAlias plan environment machine).1 = true ↔ AliasSettled plan environment := by
  cases hinspect : environment.inspectRollback with
  | error error => simp [rollbackAlias, AliasSettled, SeesUnowned, hinspect]
  | ok snapshot =>
    cases howned : snapshot.aliasEntry.isOwned plan.runtimeExecutable plan.registrationId <;>
      simp [rollbackAlias, AliasSettled, SeesUnowned, hinspect, howned, isOk_iff]

theorem rollbackSkill_clean_iff (needed : Bool) :
    (integration.rollbackSkill plan environment needed machine).1 = true ↔
      (needed = true → SkillRemoved integration plan environment machine.skill) := by
  cases needed with
  | false => simp [rollbackSkill]
  | true => simp [rollbackSkill_true, SkillRemoved, isOk_iff]

theorem rollbackRegistration_snd (needed : Bool)
    (h : needed = true → RegistrationRemoved plan environment machine) :
    (∀ name,
      (rollbackRegistration plan environment needed machine).2.provider.registrationFiles.lookup
        name = if needed = true ∧ name = plan.registrationId then none
          else machine.provider.registrationFiles.lookup name) ∧
      (rollbackRegistration plan environment needed machine).2.skill = machine.skill ∧
      (rollbackRegistration plan environment needed machine).2.added = machine.added := by
  cases needed with
  | false => exact ⟨fun _ => rfl, rfl, rfl⟩
  | true =>
    rw [rollbackRegistration_true]
    refine ⟨fun name => ?_, rfl, rfl⟩
    split
    case isTrue hname =>
      obtain ⟨-, rfl⟩ := hname
      exact RegistrationStore.remove_file_of_ok (h rfl)
    case isFalse hname => exact RegistrationStore.remove_other_file fun heq => hname ⟨rfl, heq⟩

theorem rollbackAlias_snd (machine : Machine) (h : AliasSettled plan environment) :
    (rollbackAlias plan environment machine).2.provider = machine.provider ∧
      (rollbackAlias plan environment machine).2.skill = machine.skill ∧
      ((rollbackAlias plan environment machine).2.added = true ↔
        machine.added = true ∧ SeesUnowned plan environment) := by
  obtain hunowned | ⟨snapshot, hinspect, howned, hresult⟩ := h
  · have hseen := hunowned
    obtain ⟨snapshot, hinspect, howned⟩ := hunowned
    simp [rollbackAlias, hinspect, howned, hseen]
  · have hunseen : ¬ SeesUnowned plan environment := by
      rintro ⟨snapshot', hinspect', hunowned⟩
      rw [hinspect, Except.ok.injEq] at hinspect'
      subst hinspect'
      rw [howned] at hunowned
      cases hunowned
    simp [rollbackAlias, hinspect, howned, hunseen, setAdded, HostAnswer.tookEffect, hresult]

theorem rollbackSkill_snd (integration : Integration) (machine : Machine) (needed : Bool)
    (h : needed = true → SkillRemoved integration plan environment machine.skill) :
    (integration.rollbackSkill plan environment needed machine).2.provider = machine.provider ∧
      (integration.rollbackSkill plan environment needed machine).2.added = machine.added ∧
      (integration.rollbackSkill plan environment needed machine).2.skill.file =
        if needed = true then none else machine.skill.file := by
  cases needed with
  | false => exact ⟨rfl, rfl, rfl⟩
  | true =>
    rw [rollbackSkill_true]
    exact ⟨rfl, rfl, integration.removeSkill_ok (h rfl)⟩

theorem rollbackRegistration_skill (needed : Bool) :
    (rollbackRegistration plan environment needed machine).2.skill = machine.skill := by
  rw [rollbackRegistration]
  split
  · split <;> rfl
  · rfl

theorem rollbackAlias_skill : (rollbackAlias plan environment machine).2.skill = machine.skill := by
  rw [rollbackAlias]
  split
  · rfl
  · split <;> rfl

theorem rollbackApply_clean_iff (attempt : Attempt) :
    (integration.rollbackApply plan environment attempt).1 = true ↔
      (attempt.registrationInstalled = true →
        RegistrationRemoved plan environment attempt.machine) ∧
      AliasSettled plan environment ∧
      (attempt.skillInstalled = true →
        SkillRemoved integration plan environment attempt.machine.skill) := by
  simp only [rollbackApply, Bool.and_eq_true, rollbackRegistration_clean_iff,
    rollbackAlias_clean_iff, rollbackSkill_clean_iff, rollbackAlias_skill,
    rollbackRegistration_skill, and_assoc]

theorem rollbackApply_snd (attempt : Attempt)
    (h : (integration.rollbackApply plan environment attempt).1 = true) :
    (∀ name,
      (integration.rollbackApply plan environment attempt).2.provider.registrationFiles.lookup
        name = if attempt.registrationInstalled = true ∧ name = plan.registrationId then none
          else attempt.machine.provider.registrationFiles.lookup name) ∧
      ((integration.rollbackApply plan environment attempt).2.skill.file =
        if attempt.skillInstalled = true then none else attempt.machine.skill.file) ∧
      ((integration.rollbackApply plan environment attempt).2.added = true ↔
        attempt.machine.added = true ∧ SeesUnowned plan environment) := by
  obtain ⟨hregistration, halias, hskill⟩ := (rollbackApply_clean_iff attempt).mp h
  obtain ⟨hfiles, hskillKept, haddedKept⟩ := rollbackRegistration_snd _ hregistration
  obtain ⟨hprovider, hskillKept', hadded⟩ := rollbackAlias_snd
    (rollbackRegistration plan environment attempt.registrationInstalled attempt.machine).2 halias
  rw [haddedKept] at hadded
  rw [hskillKept] at hskillKept'
  obtain ⟨hprovider', hadded', hfile⟩ := rollbackSkill_snd integration
    (rollbackAlias plan environment (rollbackRegistration plan environment
      attempt.registrationInstalled attempt.machine).2).2 attempt.skillInstalled
    (by rw [hskillKept']; exact hskill)
  rw [hskillKept'] at hfile
  simp only [rollbackApply, hprovider', hprovider, hadded', hfile]
  exact ⟨hfiles, trivial, hadded⟩

/-! ## What is left -/

structure Untouched (before after : Machine) : Prop where
  registrations : ∀ name, after.provider.registrationFiles.lookup name =
    before.provider.registrationFiles.lookup name
  skill : after.skill.file = before.skill.file
  added : after.added = false

structure InPlace (integration : Integration) (receipt : IntegrationReceipt) (after : Machine) :
    Prop where
  registration : ∃ text secret, after.provider.registrations.Holds receipt.registrationId
    receipt.registrationId text secret
  skill : after.skill.file = some integration.embeddedSkill
  added : after.added = true
  receipt : integration.states.load (receiptRef receipt.registrationId) after.provider.states =
    .ok (integration.encodeReceipt receipt)

def AllOrNothing (integration : Integration) (before : Machine)
    (outcome : Except IntegrationError IntegrationReceipt × Machine) : Prop :=
  match outcome.1 with
  | .ok receipt => InPlace integration receipt outcome.2
  | .error error => error ≠ .rollbackIncomplete → Untouched before outcome.2

/-! ### The three ways to leave something -/

section Leaving

variable (integration plan nowUnixMs environment machine)

def Registers : Prop :=
  integration.registrations.Accepts plan.registration nowUnixMs environment.registrationSecret
      environment.registrationFaults machine.provider.registrations ∧
    environment.registrationFaults.writes = true

def Writes : Prop :=
  integration.BeginsSkill plan.skillSha256 environment.skillFaults machine.skill ∧
    integration.finishesSkill environment.skillFaults = true

def statesWithRegistration : Vault :=
  { machine.provider.states with
    secrets := machine.provider.secrets.insert plan.registration.registrationId
      environment.registrationSecret }

def KeepsReceipt : Prop :=
  ∃ snapshot, environment.inspectAfter = .ok snapshot ∧
    snapshot.aliasEntry.isOwned plan.runtimeExecutable plan.registrationId = true ∧
    let payload := integration.encodeReceipt
      (receiptFromPlan plan nowUnixMs snapshot.aliasEntry.sha256)
    IntegrationStore.checkInstall (receiptRef plan.registrationId) payload = .ok () ∧
    (statesWithRegistration plan environment machine).Accepts
      (integration.states.entry (receiptRef plan.registrationId) payload environment.receiptSecret)
      environment.receiptFaults ∧
    environment.receiptFaults.writes = true

/-- The file of the registration is begun and can be neither finished nor removed, and
the rollback has nothing to report. -/
structure LeavesRegistration : Prop where
  accepted : integration.registrations.Accepts plan.registration nowUnixMs
    environment.registrationSecret environment.registrationFaults machine.provider.registrations
  abandoned : environment.registrationFaults.abandons = true
  removeFails : environment.registrationFaults.removeFails = true
  settled : AliasSettled plan environment

/-- The file of the skill is begun and can be neither finished nor removed, and the
rollback removes the registration. -/
structure LeavesSkill : Prop where
  registered : Registers integration plan nowUnixMs environment machine
  begun : integration.BeginsSkill plan.skillSha256 environment.skillFaults machine.skill
  unfinished : integration.finishesSkill environment.skillFaults = false
  removeFails : environment.skillFaults.removeFileFails = true
  removed : environment.registrationRemoval.removes = true
  settled : AliasSettled plan environment

/-- The alias was added, the host's report or a later step fails, and the rollback
removes the rest but does not see the alias as the plan's own. -/
structure LeavesAlias : Prop where
  registered : Registers integration plan nowUnixMs environment machine
  written : Writes integration plan environment machine
  effect : environment.add.tookEffect = true
  failed : (∃ error, environment.add.result = .error error) ∨
    ¬ KeepsReceipt integration plan nowUnixMs environment machine
  removed : environment.registrationRemoval.removes = true
  unseen : SeesUnowned plan environment
  skillRemoved : environment.skillRemoval.removes = true

def LeavesSomething : Prop :=
  LeavesRegistration integration plan nowUnixMs environment machine ∨
    LeavesSkill integration plan nowUnixMs environment machine ∨
    LeavesAlias integration plan nowUnixMs environment machine

end Leaving

variable {summary : RegistrationSummary}

theorem registrationOutcome_ok_iff :
    (∃ summary, (integration.registrationOutcome plan nowUnixMs environment machine).1 =
        .ok summary) ↔ Registers integration plan nowUnixMs environment machine :=
  RegistrationStore.install_ok_iff

theorem not_registers {error : RegistrationError}
    (h : (integration.registrationOutcome plan nowUnixMs environment machine).1 = .error error) :
    ¬ Registers integration plan nowUnixMs environment machine := by
  rw [← registrationOutcome_ok_iff]
  rintro ⟨summary, hok⟩
  exact absurd (h.symm.trans hok) (by simp)

theorem not_leavesRegistration (h : Registers integration plan nowUnixMs environment machine) :
    ¬ LeavesRegistration integration plan nowUnixMs environment machine := by
  rintro ⟨haccepted, habandoned, hremove, _⟩
  obtain ⟨⟨error, herror⟩, _⟩ :=
    RegistrationStore.install_left_iff.mpr ⟨haccepted, habandoned, hremove⟩
  exact not_registers herror h

variable {error : IntegrationError}

/-- The receipt is kept, or the alias is not shown as the plan's own, or the receipt
cannot be stored. -/
theorem receiptOutcome_ok_iff
    (hregistered : Registers integration plan nowUnixMs environment machine) :
    (∃ receipt, (integration.receiptOutcome plan nowUnixMs environment machine).1 = .ok receipt) ↔
      KeepsReceipt integration plan nowUnixMs environment machine := by
  have hstates : (integration.prepared plan nowUnixMs environment machine).provider.states =
      statesWithRegistration plan environment machine := by
    simp only [prepared, registrationOutcome,
      RegistrationStore.install_eq hregistered.1 hregistered.2]
    rfl
  rw [receiptOutcome, keepReceipt, KeepsReceipt]
  cases hinspect : environment.inspectAfter with
  | error error => simp
  | ok snapshot =>
    cases howned : snapshot.aliasEntry.isOwned plan.runtimeExecutable plan.registrationId with
    | false => simp [howned]
    | true =>
      simp only [howned, Bool.not_true, Bool.false_eq_true, if_false, Except.ok.injEq, hstates,
        exists_eq_left', true_and, ← IntegrationStore.install_ok_iff]
      split
      case h_1 error vault hinstall => simp [hinstall]
      case h_2 vault hinstall => simp [hinstall]

/-! ### Failures -/

/-- A failed attempt is all or nothing when nothing is left by a rollback whose
operations succeed. -/
theorem allOrNothing_of_error (attempt : Attempt)
    (hresult : attempt.result = .error error) (hne : error ≠ .rollbackIncomplete) :
    AllOrNothing integration machine (integration.conclude plan environment attempt) ↔
      ((attempt.registrationInstalled = true →
          RegistrationRemoved plan environment attempt.machine) →
        AliasSettled plan environment →
        (attempt.skillInstalled = true →
          SkillRemoved integration plan environment attempt.machine.skill) →
        (∀ name, (if attempt.registrationInstalled = true ∧ name = plan.registrationId then none
            else attempt.machine.provider.registrationFiles.lookup name) =
              machine.provider.registrationFiles.lookup name) ∧
          (if attempt.skillInstalled = true then none else attempt.machine.skill.file) =
            machine.skill.file ∧
          ¬ (attempt.machine.added = true ∧ SeesUnowned plan environment)) := by
  rw [← and_imp, ← and_imp, and_assoc, ← rollbackApply_clean_iff]
  cases hclean : (integration.rollbackApply plan environment attempt).1 with
  | false => simp [AllOrNothing, conclude, hresult, hclean]
  | true =>
    obtain ⟨hfiles, hskill, hadded⟩ := rollbackApply_snd attempt hclean
    simp only [AllOrNothing, conclude, hresult, hclean, if_true, true_implies]
    constructor
    · intro huntouched
      obtain ⟨hregistrations, hfile, hgone⟩ := huntouched hne
      refine ⟨fun name => (hfiles name).symm.trans (hregistrations name),
        hskill.symm.trans hfile, ?_⟩
      rw [← hadded, hgone]
      decide
    · rintro ⟨hregistrations, hfile, hgone⟩ _
      refine ⟨fun name => (hfiles name).trans (hregistrations name), hskill.trans hfile, ?_⟩
      rw [← hadded] at hgone
      exact Bool.eq_false_iff.mpr hgone

theorem registrationRemoved_iff (machine machine' : Machine) :
    RegistrationRemoved plan environment machine' ↔
      RegistrationRemoved plan environment machine := by
  rw [RegistrationRemoved, RegistrationRemoved, remove_result_eq]

variable (integration plan nowUnixMs environment machine) in
theorem registration_installs :
    integration.registrations.Installs plan.registration nowUnixMs environment.registrationSecret
      environment.registrationFaults machine.provider.registrations
      (integration.registrationOutcome plan nowUnixMs environment machine).1
      (integration.registrationOutcome plan nowUnixMs environment machine).2 :=
  RegistrationStore.install_installs

section Cases

variable (hid : plan.registration.registrationId = plan.registrationId)
include hid

theorem registrationRemoved_of_registers
    (h : Registers integration plan nowUnixMs environment machine) :
    RegistrationRemoved plan environment machine ↔
      environment.registrationRemoval.removes = true := by
  have hvalid := RegistrationStore.validate_registrationId h.1.valid
  rw [hid] at hvalid
  rw [RegistrationRemoved, RegistrationStore.remove_ok_iff, hvalid]
  exact and_iff_right rfl

theorem leavesSomething_registrationFailed {error : RegistrationError}
    (h : (integration.registrationOutcome plan nowUnixMs environment machine).1 = .error error) :
    LeavesSomething integration plan nowUnixMs environment machine ↔
      (integration.registrationOutcome plan nowUnixMs environment machine).2.files.lookup
          plan.registrationId ≠ machine.provider.registrationFiles.lookup plan.registrationId ∧
        AliasSettled plan environment := by
  have hleft : (∃ error, (integration.registrationOutcome plan nowUnixMs environment machine).1 =
      .error error) ∧ (integration.registrationOutcome plan nowUnixMs environment
        machine).2.files.lookup plan.registration.registrationId ≠
          machine.provider.registrationFiles.lookup plan.registration.registrationId ↔ _ :=
    RegistrationStore.install_left_iff
  rw [hid] at hleft
  constructor
  · rintro (⟨haccepted, habandoned, hremove, hsettled⟩ | ⟨hregistered, _⟩ | ⟨hregistered, _⟩)
    · exact ⟨(hleft.mpr ⟨haccepted, habandoned, hremove⟩).2, hsettled⟩
    · exact absurd hregistered (not_registers h)
    · exact absurd hregistered (not_registers h)
  · rintro ⟨hdiffers, hsettled⟩
    obtain ⟨haccepted, habandoned, hremove⟩ := hleft.mp ⟨⟨error, h⟩, hdiffers⟩
    exact .inl ⟨haccepted, habandoned, hremove, hsettled⟩

theorem other_registration_file {name : String} (hname : name ≠ plan.registrationId) :
    (integration.registrationOutcome plan nowUnixMs environment machine).2.files.lookup name =
      machine.provider.registrationFiles.lookup name :=
  (registration_installs integration plan nowUnixMs environment machine).lookup_other_file
    (hid ▸ hname)

theorem allOrNothing_registrationFailed (hadded : machine.added = false)
    {error : RegistrationError}
    (h : (integration.registrationOutcome plan nowUnixMs environment machine).1 = .error error) :
    AllOrNothing integration machine (integration.conclude plan environment
        ⟨setRegistrations (integration.registrationOutcome plan nowUnixMs environment machine).2
          machine, false, false, .error (.provider error)⟩) ↔
      ¬ LeavesSomething integration plan nowUnixMs environment machine := by
  rw [allOrNothing_of_error _ rfl (by simp), leavesSomething_registrationFailed hid h]
  have hgone : (setRegistrations (integration.registrationOutcome plan nowUnixMs environment
      machine).2 machine).added = false := hadded
  simp only [Bool.false_eq_true, false_implies, true_implies, false_and, if_false, hgone,
    not_false_eq_true, and_true]
  constructor
  · rintro hnothing ⟨hleft, hsettled⟩
    exact hleft ((hnothing hsettled).1 plan.registrationId)
  · intro hleaves hsettled
    refine ⟨fun name => ?_, rfl⟩
    by_cases hname : name = plan.registrationId
    · subst hname
      exact not_not.mp fun hleft => hleaves ⟨hleft, hsettled⟩
    · exact other_registration_file hid hname

variable (h : (integration.registrationOutcome plan nowUnixMs environment machine).1 = .ok summary)
include h

theorem installed_file_removed
    (name : String) :
    (if name = plan.registrationId then none else
        (integration.registrationOutcome plan nowUnixMs environment machine).2.files.lookup name) =
      machine.provider.registrationFiles.lookup name := by
  split
  case isTrue hname =>
    subst hname
    exact (hid ▸ (registration_installs integration plan nowUnixMs environment machine).file_of_ok
      h).symm
  case isFalse hname => exact other_registration_file hid hname

variable (hfile : machine.skill.file = none)
include hfile

theorem leavesSomething_skillFailed
    (hskill : (integration.skillOutcome plan environment machine).1 = .error error) :
    LeavesSomething integration plan nowUnixMs environment machine ↔
      (integration.skillOutcome plan environment machine).2.file ≠ none ∧
        RegistrationRemoved plan environment machine ∧ AliasSettled plan environment := by
  have hregistered := registrationOutcome_ok_iff.mp ⟨summary, h⟩
  have hleft : (∃ error, (integration.skillOutcome plan environment machine).1 = .error error) ∧
      (integration.skillOutcome plan environment machine).2.file ≠ none ↔ _ :=
    installSkill_left_iff hfile
  rw [registrationRemoved_of_registers hid hregistered]
  constructor
  · rintro (hleaves | ⟨_, hbegun, hunfinished, hremove, hremoved, hsettled⟩ | ⟨_, hwritten, _⟩)
    · exact absurd hleaves (not_leavesRegistration hregistered)
    · exact ⟨(hleft.mpr ⟨hbegun, hunfinished, hremove⟩).2, hremoved, hsettled⟩
    · have hok := (installSkill_ok_iff hfile).mpr hwritten
      exact absurd (hskill.symm.trans hok) (by simp)
  · rintro ⟨hdiffers, hremoved, hsettled⟩
    obtain ⟨hbegun, hunfinished, hremove⟩ := hleft.mp ⟨⟨error, hskill⟩, hdiffers⟩
    exact .inr (.inl ⟨hregistered, hbegun, hunfinished, hremove, hremoved, hsettled⟩)

theorem leavesSomething_written
    (hskill : (integration.skillOutcome plan environment machine).1 = .ok ()) :
    LeavesSomething integration plan nowUnixMs environment machine ↔
      environment.add.tookEffect = true ∧
        ((∃ error, environment.add.result = .error error) ∨ ∃ error,
          (integration.receiptOutcome plan nowUnixMs environment machine).1 = .error error) ∧
        RegistrationRemoved plan environment machine ∧ SeesUnowned plan environment ∧
        SkillRemoved integration plan environment
          (integration.skillOutcome plan environment machine).2 := by
  have hregistered := registrationOutcome_ok_iff.mp ⟨summary, h⟩
  have hwritten := (installSkill_ok_iff hfile).mp hskill
  have hreceipt : (∃ error, (integration.receiptOutcome plan nowUnixMs environment machine).1 =
      .error error) ↔ ¬ KeepsReceipt integration plan nowUnixMs environment machine := by
    rw [← receiptOutcome_ok_iff hregistered]
    cases (integration.receiptOutcome plan nowUnixMs environment machine).1 <;> simp
  rw [registrationRemoved_of_registers hid hregistered, hreceipt, SkillRemoved, skillOutcome,
    removeSkill_installed_iff hfile hskill]
  constructor
  · rintro (hleaves | ⟨_, _, hunfinished, _⟩ | ⟨_, _, heffect, hfailed, hremoved, hunseen, hgone⟩)
    · exact absurd hleaves (not_leavesRegistration hregistered)
    · rw [hwritten.2] at hunfinished
      cases hunfinished
    · exact ⟨heffect, hfailed, hremoved, hunseen, hgone⟩
  · rintro ⟨heffect, hfailed, hremoved, hunseen, hgone⟩
    exact .inr (.inr ⟨hregistered, hwritten, heffect, hfailed, hremoved, hunseen, hgone⟩)

theorem allOrNothing_skillFailed (hadded : machine.added = false)
    (hskill : (integration.skillOutcome plan environment machine).1 = .error error) :
    AllOrNothing integration machine (integration.conclude plan environment
        ⟨setSkill (integration.skillOutcome plan environment machine).2 (setRegistrations
          (integration.registrationOutcome plan nowUnixMs environment machine).2 machine), true,
          false, .error error⟩) ↔
      ¬ LeavesSomething integration plan nowUnixMs environment machine := by
  have hne : error ≠ .rollbackIncomplete := by
    rintro rfl
    exact integration.installSkill_ne hskill
  rw [allOrNothing_of_error _ rfl hne, leavesSomething_skillFailed hid h hfile hskill]
  have hgone : (setSkill (integration.skillOutcome plan environment machine).2 (setRegistrations
      (integration.registrationOutcome plan nowUnixMs environment machine).2 machine)).added =
        false := hadded
  simp only [Bool.false_eq_true, false_implies, true_implies, true_and, if_false, hgone, false_and,
    not_false_eq_true, and_true, registrationRemoved_iff machine, hfile]
  constructor
  · rintro hnothing ⟨hleft, hremoved, hsettled⟩
    exact hleft (hnothing hremoved hsettled).2
  · intro hleaves hremoved hsettled
    exact ⟨installed_file_removed hid h,
      not_not.mp fun hleft => hleaves ⟨hleft, hremoved, hsettled⟩⟩

/-- A failure after the skill, with the registration, the skill and the alias as the
steps have left them. -/
theorem allOrNothing_written (hne : error ≠ .rollbackIncomplete)
    (hskill : (integration.skillOutcome plan environment machine).1 = .ok ())
    (hfailed : (∃ error, environment.add.result = .error error) ∨
      ∃ error, (integration.receiptOutcome plan nowUnixMs environment machine).1 = .error error)
    {after : Machine}
    (hfiles : after.provider.registrationFiles =
      (integration.prepared plan nowUnixMs environment machine).provider.registrationFiles)
    (hplace : after.skill = (integration.prepared plan nowUnixMs environment machine).skill)
    (hadded : after.added = (integration.prepared plan nowUnixMs environment machine).added) :
    AllOrNothing integration machine
        (integration.conclude plan environment ⟨after, true, true, .error error⟩) ↔
      ¬ LeavesSomething integration plan nowUnixMs environment machine := by
  rw [allOrNothing_of_error _ rfl hne, leavesSomething_written hid h hfile hskill]
  have heffect : (integration.prepared plan nowUnixMs environment machine).added =
    environment.add.tookEffect := rfl
  have hskillPlace : (integration.prepared plan nowUnixMs environment machine).skill =
    (integration.skillOutcome plan environment machine).2 := rfl
  simp only [true_implies, true_and, if_true, registrationRemoved_iff machine, hfile,
    hplace, hadded, hfiles, heffect, hskillPlace]
  constructor
  · rintro hnothing ⟨heffect, _, hremoved, hunseen, hskillRemoved⟩
    exact (hnothing hremoved (.inl hunseen) hskillRemoved).2 ⟨heffect, hunseen⟩
  · intro hleaves hremoved _ hskillRemoved
    refine ⟨installed_file_removed hid h, ?_⟩
    rintro ⟨heffect, hunseen⟩
    exact hleaves ⟨heffect, hfailed, hremoved, hunseen, hskillRemoved⟩

end Cases

/-! ### Success -/

theorem HostError_error_ne (error : HostError) : error.error ≠ .rollbackIncomplete := by
  cases error <;> simp [HostError.error]

theorem keepReceipt_ne :
    (integration.keepReceipt plan nowUnixMs environment machine).1 ≠
      .error .rollbackIncomplete := by
  intro h
  rw [keepReceipt] at h
  split at h
  case h_1 error _ => exact HostError_error_ne error (Except.error.inj h)
  case h_2 =>
    split at h
    · cases h
    · dsimp only at h
      split at h <;> cases h

variable (integration plan nowUnixMs environment machine) in
theorem keepReceipt_frame :
    (integration.keepReceipt plan nowUnixMs environment machine).2.provider.registrationFiles =
        machine.provider.registrationFiles ∧
      (integration.keepReceipt plan nowUnixMs environment machine).2.skill = machine.skill ∧
      (integration.keepReceipt plan nowUnixMs environment machine).2.added = machine.added := by
  rw [keepReceipt]
  split
  · exact ⟨rfl, rfl, rfl⟩
  · split
    · exact ⟨rfl, rfl, rfl⟩
    · dsimp only
      split <;> exact ⟨rfl, rfl, rfl⟩

theorem keepReceipt_ok {receipt : IntegrationReceipt}
    (h : (integration.keepReceipt plan nowUnixMs environment machine).1 = .ok receipt) :
    receipt.registrationId = plan.registrationId ∧
      integration.states.load (receiptRef receipt.registrationId)
        (integration.keepReceipt plan nowUnixMs environment machine).2.provider.states =
          .ok (integration.encodeReceipt receipt) ∧
      ∀ secretId secret, machine.provider.secrets.lookup secretId = some secret →
        (integration.keepReceipt plan nowUnixMs environment machine).2.provider.secrets.lookup
          secretId = some secret := by
  rw [keepReceipt] at h ⊢
  split
  case h_1 error hinspect =>
    simp only [hinspect] at h
    cases h
  case h_2 snapshot hinspect =>
    simp only [hinspect] at h
    split at h
    · cases h
    case isFalse howned =>
      rw [if_neg howned]
      have hinstalls : IntegrationStore.Installs integration.states
          (receiptRef plan.registrationId)
          (integration.encodeReceipt (receiptFromPlan plan nowUnixMs snapshot.aliasEntry.sha256))
          environment.receiptSecret environment.receiptFaults machine.provider.states _ _ :=
        IntegrationStore.install_installs
      cases hinstall : integration.states.install (receiptRef plan.registrationId)
          (integration.encodeReceipt (receiptFromPlan plan nowUnixMs snapshot.aliasEntry.sha256))
          environment.receiptSecret environment.receiptFaults machine.provider.states with
      | mk result vault =>
        simp only [hinstall] at h ⊢
        rw [hinstall] at hinstalls
        cases result with
        | error error => cases h
        | ok =>
          cases h
          obtain ⟨hcheck, hholds⟩ := hinstalls.of_ok
          refine ⟨rfl, IntegrationStore.load_of_holds hcheck hholds,
            fun secretId secret hsecret => ?_⟩
          cases hinstalls with
          | created _ hcreated => exact hcreated.lookup_secret_of_some hsecret

theorem inPlace_of_ok (hid : plan.registration.registrationId = plan.registrationId)
    (h : (integration.registrationOutcome plan nowUnixMs environment machine).1 = .ok summary)
    (hskill : (integration.skillOutcome plan environment machine).1 = .ok ())
    (hadd : environment.add.result = .ok ()) {receipt : IntegrationReceipt}
    (hreceipt : (integration.receiptOutcome plan nowUnixMs environment machine).1 = .ok receipt) :
    InPlace integration receipt
      (integration.receiptOutcome plan nowUnixMs environment machine).2 := by
  obtain ⟨hfiles, hplace, hadded⟩ := keepReceipt_frame integration plan nowUnixMs environment
    (integration.prepared plan nowUnixMs environment machine)
  obtain ⟨hname, hload, hsecrets⟩ := keepReceipt_ok hreceipt
  have hinstalls := registration_installs integration plan nowUnixMs environment machine
  rw [h] at hinstalls
  obtain ⟨_, hholds⟩ := hinstalls.of_ok
  rw [hid] at hholds
  have hkept : (integration.receiptOutcome plan nowUnixMs environment
      machine).2.provider.registrations.Holds plan.registrationId plan.registrationId _ _ :=
    ⟨(congrArg (Table.lookup plan.registrationId) hfiles).trans hholds.file,
      hsecrets _ _ hholds.secret⟩
  refine ⟨⟨_, _, by rw [hname]; exact hkept⟩, ?_, ?_, hload⟩
  · exact (congrArg SkillPlace.file hplace).trans (integration.installSkill_ok hskill)
  · refine hadded.trans ?_
    simp [prepared, setAdded, HostAnswer.tookEffect, hadd]

/-! ## The whole application -/

theorem Attempted.allOrNothing_iff {attempt : Attempt}
    (hattempt : Attempted integration plan nowUnixMs environment machine attempt)
    (hid : plan.registration.registrationId = plan.registrationId)
    (hfile : machine.skill.file = none) (hadded : machine.added = false) :
    AllOrNothing integration machine (integration.conclude plan environment attempt) ↔
      ¬ LeavesSomething integration plan nowUnixMs environment machine := by
  cases hattempt with
  | registrationFailed error h => exact allOrNothing_registrationFailed hid hadded h
  | skillFailed summary error h hskill => exact allOrNothing_skillFailed hid h hfile hadded hskill
  | addFailed summary error h hskill hadd =>
    exact allOrNothing_written hid h hfile (HostError_error_ne error) hskill (.inl ⟨error, hadd⟩)
      rfl rfl rfl
  | added summary h hskill hadd =>
    obtain ⟨hfiles, hplace, hkept⟩ := keepReceipt_frame integration plan nowUnixMs environment
      (integration.prepared plan nowUnixMs environment machine)
    cases hreceipt : (integration.receiptOutcome plan nowUnixMs environment machine).1 with
    | error error =>
      have hne : error ≠ .rollbackIncomplete := by
        rintro rfl
        exact keepReceipt_ne hreceipt
      exact allOrNothing_written hid h hfile hne hskill (.inr ⟨error, hreceipt⟩) hfiles hplace hkept
    | ok receipt =>
      have hinPlace := inPlace_of_ok hid h hskill hadd hreceipt
      have hnone : ¬ LeavesSomething integration plan nowUnixMs environment machine := by
        rw [leavesSomething_written hid h hfile hskill]
        rintro ⟨_, ⟨_, herror⟩ | ⟨_, herror⟩, _⟩
        · exact absurd (hadd.symm.trans herror) (by simp)
        · exact absurd (hreceipt.symm.trans herror) (by simp)
      simpa [AllOrNothing, conclude, hnone] using hinPlace

theorem allOrNothing_setStates (vault : Vault)
    (outcome : Except IntegrationError IntegrationReceipt × Machine) :
    AllOrNothing integration (setStates vault machine) outcome ↔
      AllOrNothing integration machine outcome := by
  have huntouched : Untouched (setStates vault machine) outcome.2 ↔ Untouched machine outcome.2 :=
    ⟨fun h => ⟨h.registrations, h.skill, h.added⟩, fun h => ⟨h.registrations, h.skill, h.added⟩⟩
  rw [AllOrNothing, AllOrNothing]
  split
  · exact Iff.rfl
  · rw [huntouched]

theorem failUnless_eq_ok {condition : Bool} {u : Unit} :
    failUnless condition error = .ok u ↔ condition = true := by
  cases condition <;> simp [failUnless]

theorem preparePlan_eq_ok {planRef : String}
    (h : integration.preparePlan planRef nowUnixMs environment machine = .ok plan) :
    plan.registration.registrationId = plan.registrationId ∧ machine.skill.file = none := by
  simp only [preparePlan, validatePlan, bind_eq_ok, failUnless_eq_ok, Except.ok.injEq] at h
  obtain ⟨plan, _, _, ⟨_, hmatches, _⟩, _, henvironment, rfl⟩ := h
  refine ⟨?_, ?_⟩
  · simp only [planMatches, Bool.and_eq_true, beq_iff_eq] at hmatches
    exact hmatches.1.1.1.1.2
  · simp only [validatePlanEnvironment, bind_eq_ok, failUnless_eq_ok, Bool.and_eq_true,
      Option.isNone_iff_eq_none] at henvironment
    obtain ⟨_, _, _, _, _, _, _, _, _, _, _, _, _, _, _, _, _, _, _, hskill, _⟩ := henvironment
    exact hskill.1.2

theorem applyPlan_of_prepared {planRef : String} {vault : Vault}
    (hprepare : integration.preparePlan planRef nowUnixMs environment machine = .ok plan)
    (hremove : IntegrationStore.remove planRef environment.planRemoval machine.provider.states =
      (.ok (), vault)) :
    integration.applyPlan planRef nowUnixMs environment machine =
      integration.conclude plan environment
        (integration.attempt plan nowUnixMs environment (setStates vault machine)) := by
  simp only [applyPlan, hprepare, hremove]

/-- An application is all or nothing exactly when its plan, once checked and consumed,
meets no failure that leaves something. -/
theorem applyPlan_allOrNothing_iff (integration : Integration) (planRef : String)
    (nowUnixMs : UInt64) (environment : ApplyEnvironment) (machine : Machine)
    (hadded : machine.added = false) :
    AllOrNothing integration machine
        (integration.applyPlan planRef nowUnixMs environment machine) ↔
      ∀ plan vault, integration.preparePlan planRef nowUnixMs environment machine = .ok plan →
        IntegrationStore.remove planRef environment.planRemoval machine.provider.states =
          (.ok (), vault) →
        ¬ LeavesSomething integration plan nowUnixMs environment (setStates vault machine) := by
  have huntouched : ∀ error vault, AllOrNothing integration machine
      (.error error, setStates vault machine) :=
    fun error vault _ => ⟨fun _ => rfl, rfl, hadded⟩
  cases hprepare : integration.preparePlan planRef nowUnixMs environment machine with
  | error error =>
    rw [applyPlan, hprepare]
    refine iff_of_true (fun _ => ⟨fun _ => rfl, rfl, hadded⟩) ?_
    rintro plan vault ⟨⟩
  | ok plan =>
    obtain ⟨hid, hfile⟩ := preparePlan_eq_ok hprepare
    cases hremove : IntegrationStore.remove planRef environment.planRemoval
        machine.provider.states with
    | mk result vault =>
      cases result with
      | error error =>
        simp only [applyPlan, hprepare, hremove]
        refine iff_of_true (huntouched _ vault) ?_
        rintro plan vault _ ⟨⟩
      | ok =>
        rw [applyPlan_of_prepared hprepare hremove, ← allOrNothing_setStates vault,
          (attempt_attempted integration plan nowUnixMs environment
            (setStates vault machine)).allOrNothing_iff hid hfile hadded]
        constructor
        · rintro hleaves _ _ ⟨⟩ ⟨⟩
          exact hleaves
        · intro hleaves
          exact hleaves plan vault rfl rfl

/-! ## An alias that is not seen -/

/-- When nothing refuses the steps and the host shows another alias than the one it
was given, the steps fail and the rollback leaves what the host has added. -/
theorem conclude_of_unowned (hid : plan.registration.registrationId = plan.registrationId)
    (hfile : machine.skill.file = none)
    (hregistered : Registers integration plan nowUnixMs environment machine)
    (hwritten : Writes integration plan environment machine)
    (hadd : environment.add.result = .ok ()) {snapshot : HostSnapshot}
    (hafter : environment.inspectAfter = .ok snapshot)
    (hunowned : snapshot.aliasEntry.isOwned plan.runtimeExecutable plan.registrationId = false)
    (hremoved : environment.registrationRemoval.removes = true)
    (hunseen : SeesUnowned plan environment) (hgone : environment.skillRemoval.removes = true) :
    (integration.conclude plan environment
        (integration.attempt plan nowUnixMs environment machine)).1 = .error .stateDrift ∧
      (integration.conclude plan environment
        (integration.attempt plan nowUnixMs environment machine)).2.added = true := by
  obtain ⟨summary, hregistration⟩ := registrationOutcome_ok_iff.mpr hregistered
  have hskill : (integration.skillOutcome plan environment machine).1 = .ok () :=
    (installSkill_ok_iff hfile).mpr hwritten
  have hattempt : integration.attempt plan nowUnixMs environment machine =
      ⟨integration.prepared plan nowUnixMs environment machine, true, true,
        .error .stateDrift⟩ := by
    simp [attempt, hregistration, hskill, hadd, receiptOutcome, keepReceipt, hafter, hunowned]
  have hclean : (integration.rollbackApply plan environment
      (integration.attempt plan nowUnixMs environment machine)).1 = true := by
    rw [rollbackApply_clean_iff, hattempt, registrationRemoved_iff machine,
      registrationRemoved_of_registers hid hregistered]
    exact ⟨fun _ => hremoved, .inl hunseen,
      fun _ => (removeSkill_installed_iff hfile hskill).mpr hgone⟩
  have hadded := (rollbackApply_snd _ hclean).2.2
  rw [hattempt] at hclean hadded ⊢
  simp only [conclude, hclean, if_true, hadded, true_and]
  exact ⟨by simp [prepared, setAdded, HostAnswer.tookEffect, hadd], hunseen⟩

def stdioRegistration : RegistrationRequest :=
  { readOnlyRequest "registration_00000001" "" with
    providerId := localProviderId
    adapterProfile := .mcp .stdio "full" }

def stdioPlan : IntegrationPlan where
  schemaVersion := planSchemaVersion
  planRef := "plan_00000000001"
  registrationId := "registration_00000001"
  createdAtUnixMs := 0
  expiresAtUnixMs := 600000
  host := "codex"
  profile := "mcp"
  aliasName := mcpAlias
  productVersion := "1"
  transport := .stdio
  toolProfile := "full"
  hostExecutable := "/codex"
  hostIdentity := stdioRegistration.hostIdentity
  runtimeExecutable := "/nexuscua"
  runtimeExecutableSha256 := zeroDigest.hex
  skillFile := "/SKILL.md"
  skillSha256 := "skill"
  hostPreconditionSha256 := "before"
  registration := stdioRegistration

/-- One plan is stored, whatever its bytes are, and every digest is the same. -/
def onePlan : Integration where
  registrations := parsingStore
  states := parsingStates
  digest _ := "skill"
  decodePlan _ := some stdioPlan
  encodeReceipt _ := [0]
  embeddedSkill := [1]
  packageVersion := "1"

def plannedMachine : Machine :=
  ⟨oneState onePlan.states "plan_00000000001", ⟨false, none⟩, false⟩

/-- Nothing refuses, and the host shows an entry after it has added the alias. -/
def willing (entry : AliasSnapshot) : ApplyEnvironment where
  hostCanonical := .ok "/codex"
  hostIdentity := .ok stdioRegistration.hostIdentity
  runtimeCanonical := .ok "/nexuscua"
  runtimeIdentity := .ok stdioRegistration.hostIdentity
  skillRoot := .ok true
  inspectBefore := .ok ⟨"before", ⟨false, "", none, none⟩⟩
  planRemoval := Vault.noRemoveFaults
  registrationSecret := zeroSecret
  registrationFaults := Vault.noFaults
  skillFaults := ⟨none, false, none, none, none, none, none, false, false⟩
  add := ⟨.ok (), true⟩
  inspectAfter := .ok ⟨"after", entry⟩
  receiptSecret := zeroSecret
  receiptFaults := Vault.noFaults
  registrationRemoval := Vault.noRemoveFaults
  inspectRollback := .ok ⟨"after", entry⟩
  hostRemoval := ⟨.ok (), true⟩
  skillRemoval := ⟨none, none, none⟩

def consumed : Vault :=
  (IntegrationStore.remove "plan_00000000001" Vault.noRemoveFaults plannedMachine.provider.states).2

theorem preparePlan_planned (entry : AliasSnapshot) :
    onePlan.preparePlan "plan_00000000001" 0 (willing entry) plannedMachine = .ok stdioPlan := by
  have hload : onePlan.states.load "plan_00000000001" plannedMachine.provider.states = .ok [0] :=
    load_oneState (by decide)
  have hplan : onePlan.loadPlan "plan_00000000001" plannedMachine = .ok stdioPlan := by
    simp only [loadPlan, hload]
    rfl
  have hvalid : onePlan.validatePlan stdioPlan "plan_00000000001" 0 = .ok () := by decide
  have henvironment : validatePlanEnvironment stdioPlan (willing entry) plannedMachine = .ok () :=
    rfl
  simp only [preparePlan, hplan, bind_eq_ok]
  exact ⟨stdioPlan, rfl, (), hvalid, (), henvironment, rfl⟩

theorem stdioRegistration_validate : stdioRegistration.validate = .ok () := by
  have hid : validateRegistrationId "registration_00000001" = .ok () := by decide
  simp only [RegistrationRequest.validate, stdioRegistration, readOnlyRequest, hid, bind_eq_ok]
  exact ⟨(), trivial, (), by decide, (), by decide, (), by decide, (), by decide, (), rfl, (),
    by decide, (), by decide, by decide⟩

theorem length_bytes_stdioRegistration :
    (RegistrationStore.newPayload stdioRegistration 0).bytes.length ≤ maxRegistrationBytes := by
  decide +kernel

theorem lookup_consumed {secretId : String} (hother : secretId ≠ stateSecretId "plan_00000000001") :
    consumed.secrets.lookup secretId = none := by
  have hplan : plannedMachine.provider.states.secrets.lookup secretId = none :=
    parsingStates.perform_other_secret
      (.install "plan_00000000001" [0] zeroSecret Vault.noFaults) emptyProvider.states hother
  exact (parsingStates.perform_other_secret
    (.remove "plan_00000000001" Vault.noRemoveFaults) plannedMachine.provider.states hother).trans
    hplan

theorem registers_planned (entry : AliasSnapshot) :
    Registers onePlan stdioPlan 0 (willing entry) (setStates consumed plannedMachine) := by
  have hsecret : consumed.secrets.lookup "registration_00000001" = none :=
    lookup_consumed (by decide)
  exact ⟨⟨stdioRegistration_validate, length_bytes_stdioRegistration,
    ⟨rfl, rfl, rfl, rfl, rfl, rfl, hsecret⟩⟩, rfl⟩

theorem writes_planned (entry : AliasSnapshot) :
    Writes onePlan stdioPlan (willing entry) (setStates consumed plannedMachine) :=
  ⟨⟨rfl, rfl, rfl, rfl, rfl, rfl⟩, rfl⟩

theorem remove_planned : IntegrationStore.remove "plan_00000000001" Vault.noRemoveFaults
    plannedMachine.provider.states = (.ok (), consumed) := by
  rfl

/-- The host reports that it has added the alias and shows an entry that is not a plain
command: the application reports a drift and nothing else, and the alias stays. -/
theorem applyPlan_leaves_alias :
    (onePlan.applyPlan "plan_00000000001" 0 (willing ⟨true, "alias", none, none⟩)
        plannedMachine).1 = .error .stateDrift ∧
      (onePlan.applyPlan "plan_00000000001" 0 (willing ⟨true, "alias", none, none⟩)
        plannedMachine).2.added = true := by
  rw [applyPlan_of_prepared (preparePlan_planned _) remove_planned]
  exact conclude_of_unowned rfl rfl (registers_planned _) (writes_planned _) rfl rfl rfl rfl
    ⟨_, rfl, rfl⟩ rfl

def ownEntry : AliasSnapshot :=
  ⟨true, "alias", some "/nexuscua",
    some ["mcp", "launch", "--registration", "registration_00000001"]⟩

/-- The host shows what it was given, and the application succeeds. -/
theorem applyPlan_own_entry :
    (∃ receipt, (onePlan.applyPlan "plan_00000000001" 0 (willing ownEntry) plannedMachine).1 =
        .ok receipt) ∧
      AllOrNothing onePlan plannedMachine
        (onePlan.applyPlan "plan_00000000001" 0 (willing ownEntry) plannedMachine) := by
  have hregisters := registers_planned ownEntry
  constructor
  · obtain ⟨summary, hregistration⟩ := registrationOutcome_ok_iff.mpr hregisters
    have hskill := (installSkill_ok_iff rfl).mpr (writes_planned ownEntry)
    obtain ⟨receipt, hreceipt⟩ := (receiptOutcome_ok_iff hregisters).mpr
      ⟨_, rfl, rfl, by decide, ⟨rfl, rfl, rfl, rfl, rfl, rfl, rfl⟩, rfl⟩
    refine ⟨receipt, ?_⟩
    rw [applyPlan_of_prepared (preparePlan_planned _) remove_planned]
    have hadd : (willing ownEntry).add.result = .ok () := rfl
    simp [attempt, hregistration, skillOutcome, hskill, hadd, conclude, hreceipt]
  rw [applyPlan_allOrNothing_iff _ _ _ _ _ rfl]
  intro plan vault hprepare hremove
  rw [preparePlan_planned] at hprepare
  obtain rfl := Except.ok.inj hprepare
  obtain rfl : consumed = vault := (Prod.mk.inj (remove_planned.symm.trans hremove)).2
  rintro (hleaves | ⟨_, _, hunfinished, _⟩ | ⟨_, _, _, _, _, ⟨_, ⟨⟩, ⟨⟩⟩, _⟩)
  · exact not_leavesRegistration hregisters hleaves
  · cases hunfinished

end Integration

end NexusCua.Cli
