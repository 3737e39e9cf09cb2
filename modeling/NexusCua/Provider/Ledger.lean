import NexusCua.Foundation.Custody
import NexusCua.Provider.Vault

/-!
# What the tags of a store prove

A store of authenticated entries seen from outside: the vault, the secrets drawn
and the messages tagged so far, and the payloads installed.  The files are open to
everybody, the secrets are not.  Whatever is done to the files, a payload tagged
with the secret that is now stored was installed with that secret.

Every secret is drawn anew, and the secret of a failed installation is deleted
again.
-/

namespace NexusCua.Provider

open NexusCua.Foundation

structure Ledger (π : Type) where
  vault : Vault
  log : TagLog Secret (List UInt8)
  installed : List (String × π)

namespace Ledger

variable {π : Type} {domain : List UInt8} {encode : π → List UInt8}

def withVault (vault : Vault) (ledger : Ledger π) : Ledger π := { ledger with vault := vault }

def withTag (secret : Secret) (message : List UInt8) (ledger : Ledger π) : Ledger π :=
  { ledger with log := ledger.log.tag secret message }

def create (domain : List UInt8) (encode : π → List UInt8) (entry : Vault.Entry) (payload : π)
    (faults : Vault.CreateFaults) (ledger : Ledger π) : Ledger π where
  vault := (ledger.vault.createEntry entry faults).2
  log := ledger.log.draw entry.secret (domain ++ encode payload)
  installed :=
    match (ledger.vault.createEntry entry faults).1 with
    | .ok () => (entry.secretId, payload) :: ledger.installed
    | .error _ => ledger.installed

inductive Step (domain : List UInt8) (encode : π → List UInt8) (ledger : Ledger π) :
    Ledger π → Prop where
  | create (entry : Vault.Entry) (payload : π) (faults : Vault.CreateFaults)
      (hfresh : entry.secret ∉ ledger.log.drawn) (hdelete : faults.deleteFails = false) :
      Step domain encode ledger (ledger.create domain encode entry payload faults)
  | remove (name secretId : String) (faults : Vault.RemoveFaults) :
      Step domain encode ledger (ledger.withVault (ledger.vault.removeEntry name secretId faults).2)
  | authorize (secretId : String) (secret : Secret) (message : List UInt8)
      (hsecret : ledger.vault.secrets.lookup secretId = some secret)
      (hmessage : ¬ domain <+: message) : Step domain encode ledger (ledger.withTag secret message)
  | tamper (files : Table String PrivateFile) :
      Step domain encode ledger (ledger.withVault { ledger.vault with files := files })

def Fresh (ledger : Ledger π) : Prop :=
  ledger.log = TagLog.empty ∧ ∀ secretId, ledger.vault.secrets.lookup secretId = none

inductive Reachable (domain : List UInt8) (encode : π → List UInt8) : Ledger π → Prop where
  | start {ledger : Ledger π} (h : ledger.Fresh) : Reachable domain encode ledger
  | step {ledger ledger' : Ledger π} (h : Reachable domain encode ledger)
      (hstep : Step domain encode ledger ledger') : Reachable domain encode ledger'

def Issued (domain : List UInt8) (encode : π → List UInt8) (ledger : Ledger π) (secretId : String)
    (message : List UInt8) : Prop :=
  ∃ payload, message = domain ++ encode payload ∧ (secretId, payload) ∈ ledger.installed

def Kept (domain : List UInt8) (encode : π → List UInt8) (ledger : Ledger π) : Prop :=
  Custody (fun message => domain <+: message) ledger.vault.secrets.lookup ledger.log
    (ledger.Issued domain encode)

theorem issued_create (entry : Vault.Entry) (payload : π) (faults : Vault.CreateFaults)
    (ledger : Ledger π) {secretId : String} {message : List UInt8}
    (h : ledger.Issued domain encode secretId message) :
    (ledger.create domain encode entry payload faults).Issued domain encode secretId message := by
  obtain ⟨payload', rfl, hmem⟩ := h
  refine ⟨payload', rfl, ?_⟩
  simp only [create]
  split
  · exact List.mem_cons_of_mem _ hmem
  · exact hmem

theorem kept_create {ledger : Ledger π} (h : ledger.Kept domain encode) (entry : Vault.Entry)
    (payload : π) (faults : Vault.CreateFaults)
    (hfresh : entry.secret ∉ ledger.log.drawn) (hdelete : faults.deleteFails = false) :
    (ledger.create domain encode entry payload faults).Kept domain encode := by
  have hcreated := Vault.createEntry_created entry faults ledger.vault
  refine Custody.draw h hfresh ?_ fun _ _ => issued_create entry payload faults ledger
  intro secretId secret hsecret
  by_cases hid : secretId = entry.secretId
  · subst hid
    obtain hold | ⟨rfl, hok | hfails⟩ := hcreated.secret_cases hsecret
    · exact .inl hold
    · refine .inr ⟨rfl, payload, rfl, ?_⟩
      simp only [create, hok]
      exact List.mem_cons_self
    · rw [hdelete] at hfails
      cases hfails
  · exact .inl ((hcreated.lookup_other_secret hid).symm.trans hsecret)

theorem kept_step {ledger ledger' : Ledger π} (h : ledger.Kept domain encode)
    (hstep : Step domain encode ledger ledger') : ledger'.Kept domain encode := by
  cases hstep with
  | create entry payload faults hfresh hdelete =>
    exact kept_create h entry payload faults hfresh hdelete
  | remove name secretId faults =>
    refine Custody.mono h (fun secretId' secret hsecret => ?_) fun _ _ hissued => hissued
    by_cases hid : secretId' = secretId
    · subst hid
      exact Vault.removeEntry_secret hsecret
    · exact (Vault.removeEntry_other_secret hid).symm.trans hsecret
  | authorize secretId secret message hsecret hmessage => exact Custody.tag h hsecret hmessage
  | tamper files => exact h

theorem Reachable.kept {ledger : Ledger π} (h : Reachable domain encode ledger) :
    ledger.Kept domain encode := by
  induction h with
  | @start ledger h =>
    rw [Kept, h.1]
    exact Custody.empty _ h.2
  | step _ hstep ih => exact kept_step ih hstep

theorem Reachable.installed_of_tag {ledger : Ledger π} (h : Reachable domain encode ledger)
    (hencode : Function.Injective encode) {secretId : String} {secret : Secret} {payload : π}
    (hsecret : ledger.vault.secrets.lookup secretId = some secret)
    (htag : (secret, domain ++ encode payload) ∈ ledger.log.tags) :
    (secretId, payload) ∈ ledger.installed := by
  obtain ⟨payload', heq, hmem⟩ :=
    h.kept.issued_of_tag secretId secret _ hsecret htag (List.prefix_append domain (encode payload))
  rwa [hencode (List.append_cancel_left heq)]

end Ledger

theorem not_domain_of_take_ne {domain domain' : List UInt8} (n : Nat)
    (hdomain' : n ≤ domain'.length) (h : domain'.take n ≠ domain.take n)
    (hdomain : n ≤ domain.length) (payload : List UInt8) : ¬ domain <+: domain' ++ payload := by
  rintro ⟨rest, hrest⟩
  apply h
  have htake := congrArg (List.take n) hrest
  rw [List.take_append_of_le_length hdomain, List.take_append_of_le_length hdomain'] at htake
  exact htake.symm

end NexusCua.Provider
