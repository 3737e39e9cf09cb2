import NexusCua.Foundation.ByteSource
import NexusCua.Foundation.Table
import NexusCua.Foundation.Text

/-!
# A private file and its secret

Registrations and integration states are kept the same way: the text of an entry
in an owner-private file, and the secret that authenticates it in the protected
store of the operating system.  Creating an entry puts the secret first and then
writes the file; when the file cannot be written both are removed again, and a
failure of these removals is ignored.

Each step that the operating system may refuse is a field of a record of faults.
The secret store keeps its promises: it does not overwrite a value, and a refused
operation changes nothing.  A file is its text; one that is not UTF-8 is rejected
like any other text that does not decode.
-/

namespace NexusCua.Provider

open NexusCua.Foundation

/-! ## Secrets, files and errors -/

structure Secret where
  bytes : List UInt8
  length_bytes : bytes.length = 32
  deriving DecidableEq, Repr

inductive SecretStoreError where
  | alreadyExists
  | notFound
  | invalidSecret
  | platform (status : Int)
  | unsupportedPlatform
  | io (error : IoError)
  deriving DecidableEq, Repr

inductive RegistrationError where
  | alreadyExists
  | capacityExceeded
  | notFound
  | invalid (text : String)
  | authenticationFailed
  | io (error : IoError)
  | json
  | secret (error : SecretStoreError)
  deriving DecidableEq, Repr

/-- What the path shows: a regular file of its owner, one that others may open, or
something that is no regular file. -/
inductive FileAccess where
  | ownerOnly
  | tooBroad
  | irregular
  deriving DecidableEq, Repr

structure PrivateFile where
  text : List Char
  access : FileAccess
  deriving DecidableEq, Repr

/-- One directory and the secret store.  The files are keyed by their name without
its extension; `otherEntries` are the lock and the directories beside them. -/
structure Vault where
  files : Table String PrivateFile
  otherEntries : Nat
  secrets : Table String Secret
  deriving DecidableEq

namespace Vault

def hasJsonCapacity (vault : Vault) (maximumJsonFiles maximumDirectoryEntries : Nat) : Bool :=
  vault.files.size + vault.otherEntries ≤ maximumDirectoryEntries &&
    vault.files.size < maximumJsonFiles

def boundedRegularFile : IoError :=
  ⟨.permissionDenied, "private state path is not a bounded regular file"⟩

def permissionsTooBroad : IoError :=
  ⟨.permissionDenied, "private state file permissions are too broad"⟩

def readPrivateFile (name : String) (maxBytes : Nat) (vault : Vault) :
    Except RegistrationError (List Char) :=
  match vault.files.lookup name with
  | none => .error .notFound
  | some file =>
      if file.access = .irregular ∨ maxBytes < (utf8 file.text).length then
        .error (.io boundedRegularFile)
      else if file.access = .tooBroad then .error (.io permissionsTooBroad)
      else .ok file.text

def getSecret (secretId : String) (vault : Vault) : Except RegistrationError Secret :=
  match vault.secrets.lookup secretId with
  | none => .error (.secret .notFound)
  | some secret => .ok secret

theorem readPrivateFile_eq_ok {vault : Vault} {name : String} {maxBytes : Nat}
    {text : List Char} : vault.readPrivateFile name maxBytes = .ok text ↔
      vault.files.lookup name = some ⟨text, .ownerOnly⟩ ∧ (utf8 text).length ≤ maxBytes := by
  rw [readPrivateFile]
  cases vault.files.lookup name with
  | none => simp
  | some file =>
    obtain ⟨text', access⟩ := file
    cases access <;> by_cases hlong : maxBytes < (utf8 text').length <;> simp [hlong]
    all_goals
      rintro rfl
      omega

theorem getSecret_eq_ok {vault : Vault} {secretId : String} {secret : Secret} :
    vault.getSecret secretId = .ok secret ↔ vault.secrets.lookup secretId = some secret := by
  rw [getSecret]
  cases vault.secrets.lookup secretId <;> simp

/-! ## Creating an entry -/

structure Entry where
  name : String
  secretId : String
  text : List Char
  secret : Secret
  maximumJsonFiles : Nat
  maximumDirectoryEntries : Nat
  putError : SecretStoreError → RegistrationError

/-- The refusals of the operating system.  `create` also says whether the file was
left behind, and `write` how much of the text was. -/
structure CreateFaults where
  lock : Option IoError
  metadata : Option IoError
  readDirectory : Option IoError
  put : Option SecretStoreError
  create : Option (IoError × Bool)
  write : Option (IoError × Nat)
  sync : Option IoError
  removeFails : Bool
  deleteFails : Bool
  deriving DecidableEq, Repr

def noFaults : CreateFaults := ⟨none, none, none, none, none, none, none, false, false⟩

def mapCreateRegistrationError (error : IoError) : RegistrationError :=
  if error.kind = .alreadyExists then .alreadyExists else .io error

def put (secretId : String) (secret : Secret) (fault : Option SecretStoreError) (vault : Vault) :
    Except SecretStoreError Vault :=
  match fault with
  | some error => .error error
  | none =>
      match vault.secrets.lookup secretId with
      | some _ => .error .alreadyExists
      | none => .ok { vault with secrets := vault.secrets.insert secretId secret }

def writeFile (text : List Char) (faults : CreateFaults) :
    Except RegistrationError Unit × Option PrivateFile :=
  match faults.create with
  | some (error, left) =>
      (.error (mapCreateRegistrationError error), if left then some ⟨[], .ownerOnly⟩ else none)
  | none =>
      match faults.write with
      | some (error, written) => (.error (.io error), some ⟨text.take written, .ownerOnly⟩)
      | none =>
          match faults.sync with
          | some error => (.error (.io error), some ⟨text, .ownerOnly⟩)
          | none => (.ok (), some ⟨text, .ownerOnly⟩)

def withFile (name : String) (file : Option PrivateFile) (vault : Vault) : Vault :=
  match file with
  | none => vault
  | some file => { vault with files := vault.files.insert name file }

def cleanUp (name secretId : String) (faults : CreateFaults) (vault : Vault) : Vault where
  files := if faults.removeFails then vault.files else vault.files.erase name
  otherEntries := vault.otherEntries
  secrets := if faults.deleteFails then vault.secrets else vault.secrets.erase secretId

def createEntry (entry : Entry) (faults : CreateFaults) (vault : Vault) :
    Except RegistrationError Unit × Vault :=
  match faults.lock with
  | some error => (.error (.io error), vault)
  | none =>
      match faults.metadata, vault.files.lookup entry.name, faults.readDirectory with
      | some error, _, _ => (.error (.io error), vault)
      | none, some _, _ => (.error .alreadyExists, vault)
      | none, none, some error => (.error (.io error), vault)
      | none, none, none =>
          if !vault.hasJsonCapacity entry.maximumJsonFiles entry.maximumDirectoryEntries then
            (.error .capacityExceeded, vault)
          else
            match vault.put entry.secretId entry.secret faults.put with
            | .error error => (.error (entry.putError error), vault)
            | .ok vault =>
                let (result, file) := writeFile entry.text faults
                let vault := vault.withFile entry.name file
                match result with
                | .ok () => (.ok (), vault)
                | .error error => (.error error, vault.cleanUp entry.name entry.secretId faults)

/-! ## Removing an entry -/

structure RemoveFaults where
  lock : Option IoError
  remove : Option IoError
  delete : Option SecretStoreError
  deriving DecidableEq, Repr

def noRemoveFaults : RemoveFaults := ⟨none, none, none⟩

def removeEntry (name secretId : String) (faults : RemoveFaults) (vault : Vault) :
    Except RegistrationError Unit × Vault :=
  match faults.lock, faults.remove, faults.delete with
  | some error, _, _ => (.error (.io error), vault)
  | none, some error, _ => (.error (.io error), vault)
  | none, none, some error =>
      (.error (.secret error), { vault with files := vault.files.erase name })
  | none, none, none =>
      (.ok (), { vault with
        files := vault.files.erase name
        secrets := vault.secrets.erase secretId })

/-! ## What creating an entry can do -/

/-- Nothing, the whole entry, or what is left of one whose file could not be
written. -/
inductive Created (entry : Entry) (faults : CreateFaults) (vault : Vault) :
    Except RegistrationError Unit → Vault → Prop where
  | refused (error : RegistrationError) : Created entry faults vault (.error error) vault
  | stored (hfile : vault.files.lookup entry.name = none)
      (hsecret : vault.secrets.lookup entry.secretId = none) :
      Created entry faults vault (.ok ()) { vault with
        files := vault.files.insert entry.name ⟨entry.text, .ownerOnly⟩
        secrets := vault.secrets.insert entry.secretId entry.secret }
  | abandoned (hfile : vault.files.lookup entry.name = none)
      (hsecret : vault.secrets.lookup entry.secretId = none) (error : RegistrationError)
      (file : Option PrivateFile) (hbegins : ∀ left ∈ file, ∃ n, left.text = entry.text.take n) :
      Created entry faults vault (.error error)
        (withFile entry.name file
            { vault with secrets := vault.secrets.insert entry.secretId entry.secret }
          |>.cleanUp entry.name entry.secretId faults)

variable {secretId : String} {secret : Secret}

theorem put_ok {fault : Option SecretStoreError}
    {vault vault' : Vault} (h : vault.put secretId secret fault = .ok vault') :
    fault = none ∧ vault.secrets.lookup secretId = none ∧
      vault' = { vault with secrets := vault.secrets.insert secretId secret } := by
  simp only [put] at h
  split at h
  · cases h
  · split at h
    · cases h
    case h_2 hsecret => exact ⟨rfl, hsecret, (Except.ok.inj h).symm⟩

variable {faults : CreateFaults}

theorem writeFile_left {text : List Char} :
    ∀ left ∈ (writeFile text faults).2, ∃ n, left.text = text.take n := by
  rw [writeFile]
  split
  case h_1 error left _ =>
    intro file hfile
    refine ⟨0, ?_⟩
    cases left <;> simp at hfile
    rw [← hfile]
    simp
  case h_2 =>
    split
    case h_1 error written _ =>
      intro file hfile
      obtain rfl : ⟨text.take written, .ownerOnly⟩ = file := by simpa using hfile
      exact ⟨written, rfl⟩
    case h_2 =>
      have hwhole : ∀ left ∈ some (⟨text, .ownerOnly⟩ : PrivateFile),
          ∃ n, left.text = text.take n := by
        intro file hfile
        obtain rfl : ⟨text, .ownerOnly⟩ = file := by simpa using hfile
        exact ⟨text.length, by simp⟩
      split
      · exact hwhole
      · exact hwhole

theorem writeFile_ok {text : List Char}
    (h : (writeFile text faults).1 = .ok ()) :
    (writeFile text faults).2 = some ⟨text, .ownerOnly⟩ := by
  rw [writeFile] at h ⊢
  split at h <;> try cases h
  split at h <;> try cases h
  split at h <;> try cases h
  rfl

theorem createEntry_created (entry : Entry) (faults : CreateFaults) (vault : Vault) :
    Created entry faults vault (vault.createEntry entry faults).1
      (vault.createEntry entry faults).2 := by
  rw [createEntry]
  split
  case h_1 => exact .refused _
  case h_2 =>
    split
    case h_1 => exact .refused _
    case h_2 => exact .refused _
    case h_3 => exact .refused _
    case h_4 _ hfile _ =>
      split
      case isTrue => exact .refused _
      case isFalse =>
        cases hput : vault.put entry.secretId entry.secret faults.put with
        | error error => exact .refused _
        | ok vault₁ =>
          obtain ⟨_, hsecret, rfl⟩ := put_ok hput
          dsimp only
          cases hresult : (writeFile entry.text faults).1 with
          | ok =>
            rw [writeFile_ok hresult]
            exact .stored hfile hsecret
          | error error => exact .abandoned hfile hsecret error _ writeFile_left

structure Accepts (entry : Entry) (faults : CreateFaults) (vault : Vault) : Prop where
  lock : faults.lock = none
  metadata : faults.metadata = none
  file : vault.files.lookup entry.name = none
  readDirectory : faults.readDirectory = none
  capacity : vault.hasJsonCapacity entry.maximumJsonFiles entry.maximumDirectoryEntries = true
  put : faults.put = none
  secret : vault.secrets.lookup entry.secretId = none

def CreateFaults.writes (faults : CreateFaults) : Bool :=
  faults.create.isNone && faults.write.isNone && faults.sync.isNone

def CreateFaults.abandons (faults : CreateFaults) : Bool :=
  match faults.create with
  | some (_, left) => left
  | none => faults.write.isSome || faults.sync.isSome

theorem writeFile_cases (text : List Char) (faults : CreateFaults) :
    faults.writes = true ∧ faults.abandons = false ∧
        writeFile text faults = (.ok (), some ⟨text, .ownerOnly⟩) ∨
      faults.writes = false ∧ (∃ error, (writeFile text faults).1 = .error error) ∧
        (writeFile text faults).2.isSome = faults.abandons := by
  cases hcreate : faults.create with
  | some failure =>
    obtain ⟨error, left⟩ := failure
    right
    refine ⟨by simp [CreateFaults.writes, hcreate], ⟨mapCreateRegistrationError error, ?_⟩, ?_⟩
    · simp [writeFile, hcreate]
    · cases left <;> simp [writeFile, CreateFaults.abandons, hcreate]
  | none =>
    cases hwrite : faults.write with
    | some failure =>
      right
      simp [CreateFaults.writes, CreateFaults.abandons, writeFile, hcreate, hwrite]
    | none =>
      cases hsync : faults.sync with
      | some error =>
        right
        simp [CreateFaults.writes, CreateFaults.abandons, writeFile, hcreate, hwrite, hsync]
      | none =>
        left
        simp [CreateFaults.writes, CreateFaults.abandons, writeFile, hcreate, hwrite, hsync]

section Creation

variable {entry : Entry} {faults : CreateFaults} {vault : Vault}

theorem createEntry_of_accepts (h : vault.Accepts entry faults) :
    vault.createEntry entry faults =
      let vault := { vault with secrets := vault.secrets.insert entry.secretId entry.secret }
      let written := writeFile entry.text faults
      match written.1 with
      | .ok () => (.ok (), vault.withFile entry.name written.2)
      | .error error =>
          (.error error, (vault.withFile entry.name written.2).cleanUp entry.name entry.secretId
            faults) := by
  simp [createEntry, h.lock, h.metadata, h.file, h.readDirectory, h.capacity, put, h.put, h.secret]

theorem createEntry_of_not_accepts (h : ¬ vault.Accepts entry faults) :
    ∃ error, vault.createEntry entry faults = (.error error, vault) := by
  rw [createEntry]
  split
  case h_1 => exact ⟨_, rfl⟩
  case h_2 hlock =>
    split
    case h_1 => exact ⟨_, rfl⟩
    case h_2 => exact ⟨_, rfl⟩
    case h_3 => exact ⟨_, rfl⟩
    case h_4 hmetadata hfile hread =>
      split
      case isTrue => exact ⟨_, rfl⟩
      case isFalse hcapacity =>
        cases hput : vault.put entry.secretId entry.secret faults.put with
        | error error => exact ⟨_, rfl⟩
        | ok vault₁ =>
          obtain ⟨hfault, hsecret, _⟩ := put_ok hput
          exact absurd ⟨hlock, hmetadata, hfile, hread, by simpa using hcapacity, hfault,
            hsecret⟩ h

theorem createEntry_ok_iff :
    (vault.createEntry entry faults).1 = .ok () ↔
      vault.Accepts entry faults ∧ faults.writes = true := by
  by_cases haccepts : vault.Accepts entry faults
  · rw [createEntry_of_accepts haccepts]
    obtain ⟨hwrites, _, hwrite⟩ | ⟨hwrites, ⟨error, herror⟩, _⟩ := writeFile_cases entry.text faults
    · simp [hwrite, hwrites, haccepts]
    · simp [herror, hwrites]
  · obtain ⟨error, herror⟩ := createEntry_of_not_accepts haccepts
    simp [herror, haccepts]

theorem createEntry_eq (h : vault.Accepts entry faults) (hwrites : faults.writes = true) :
    vault.createEntry entry faults = (.ok (), { vault with
      files := vault.files.insert entry.name ⟨entry.text, .ownerOnly⟩
      secrets := vault.secrets.insert entry.secretId entry.secret }) := by
  obtain ⟨_, _, hwrite⟩ | ⟨hunwritten, _⟩ := writeFile_cases entry.text faults
  · simp [createEntry_of_accepts h, hwrite, withFile]
  · rw [hwrites] at hunwritten
    cases hunwritten

theorem createEntry_left_iff :
    (∃ error, (vault.createEntry entry faults).1 = .error error) ∧
        (vault.createEntry entry faults).2.files.lookup entry.name ≠
          vault.files.lookup entry.name ↔
      vault.Accepts entry faults ∧ faults.abandons = true ∧ faults.removeFails = true := by
  by_cases haccepts : vault.Accepts entry faults
  · rw [createEntry_of_accepts haccepts, haccepts.file]
    obtain ⟨_, habandons, hwrite⟩ | ⟨_, ⟨error, herror⟩, hleft⟩ := writeFile_cases entry.text faults
    · simp [hwrite, habandons]
    · simp only [herror, haccepts, true_and, ← hleft]
      cases hremove : faults.removeFails with
      | false => simp [cleanUp, hremove]
      | true =>
        cases hfile : (writeFile entry.text faults).2 with
        | none => simp [cleanUp, hremove, withFile, haccepts.file]
        | some file => simp [cleanUp, hremove, withFile]
  · obtain ⟨error, herror⟩ := createEntry_of_not_accepts haccepts
    simp [herror, haccepts]

theorem createEntry_noFaults (hfile : vault.files.lookup entry.name = none)
    (hcapacity :
      vault.hasJsonCapacity entry.maximumJsonFiles entry.maximumDirectoryEntries = true)
    (hsecret : vault.secrets.lookup entry.secretId = none) :
    vault.createEntry entry noFaults = (.ok (), { vault with
      files := vault.files.insert entry.name ⟨entry.text, .ownerOnly⟩
      secrets := vault.secrets.insert entry.secretId entry.secret }) :=
  createEntry_eq ⟨rfl, rfl, hfile, rfl, hcapacity, rfl, hsecret⟩ rfl

end Creation

namespace Created

variable {entry : Entry} {faults : CreateFaults} {vault vault' : Vault}
  {result : Except RegistrationError Unit}

theorem lookup_other_file (h : Created entry faults vault result vault') {name : String}
    (hname : name ≠ entry.name) : vault'.files.lookup name = vault.files.lookup name := by
  cases h with
  | refused error => rfl
  | stored => simp [hname]
  | abandoned _ _ error file =>
    cases file <;> simp only [cleanUp, withFile] <;> split <;> simp [hname]

theorem lookup_other_secret (h : Created entry faults vault result vault')
    (hsecret : secretId ≠ entry.secretId) :
    vault'.secrets.lookup secretId = vault.secrets.lookup secretId := by
  cases h with
  | refused error => rfl
  | stored => simp [hsecret]
  | abandoned _ _ error file =>
    cases file <;> simp only [cleanUp, withFile] <;> split <;> simp [hsecret]

theorem lookup_stored (h : Created entry faults vault (.ok ()) vault') :
    vault'.files.lookup entry.name = some ⟨entry.text, .ownerOnly⟩ ∧
      vault'.secrets.lookup entry.secretId = some entry.secret := by
  cases h with
  | stored => exact ⟨AList.lookup_insert _, AList.lookup_insert _⟩

section

variable (h : Created entry faults vault result vault')
include h

theorem eq_of_file {file : PrivateFile}
    (hfile : vault.files.lookup entry.name = some file) :
    (∃ error, result = .error error) ∧ vault' = vault := by
  cases h with
  | refused error => exact ⟨⟨error, rfl⟩, rfl⟩
  | stored hnone => simp [hfile] at hnone
  | abandoned hnone => simp [hfile] at hnone

theorem lookup_of_error
    (hremove : faults.removeFails = false) (hdelete : faults.deleteFails = false)
    {error : RegistrationError} (hresult : result = .error error) :
    vault'.files.lookup entry.name = vault.files.lookup entry.name ∧
      vault'.secrets.lookup entry.secretId = vault.secrets.lookup entry.secretId := by
  cases h with
  | refused error => exact ⟨rfl, rfl⟩
  | stored => cases hresult
  | abandoned hfile hsecret _ file =>
    rw [hfile, hsecret]
    cases file <;> simp [cleanUp, withFile, hremove, hdelete]

theorem file_of_ok (hresult : result = .ok ()) :
    vault.files.lookup entry.name = none := by
  cases h with
  | refused error => cases hresult
  | stored hfile => exact hfile
  | abandoned => cases hresult

/-- The file under the name afterwards: the old one, none, or one that begins as
the entry's text does. -/
theorem file_cases {file : PrivateFile}
    (hfile : vault'.files.lookup entry.name = some file) :
    vault.files.lookup entry.name = some file ∨ ∃ n, file.text = entry.text.take n := by
  cases h with
  | refused error => exact .inl hfile
  | stored =>
    obtain rfl : (⟨entry.text, .ownerOnly⟩ : PrivateFile) = file := by simpa using hfile
    exact .inr ⟨entry.text.length, by simp⟩
  | abandoned hnone _ error left hbegins =>
    right
    cases left <;> simp only [cleanUp, withFile] at hfile <;> split at hfile
    case none.isTrue => simp [hnone] at hfile
    case some.isTrue left _ =>
      obtain rfl : left = file := by simpa using hfile
      exact hbegins _ rfl
    all_goals simp at hfile

/-- The secret under the identity afterwards: the old one, none, or the new one
of an entry that was stored or whose clean-up failed. -/
theorem secret_cases
    (hsecret : vault'.secrets.lookup entry.secretId = some secret) :
    vault.secrets.lookup entry.secretId = some secret ∨
      secret = entry.secret ∧ (result = .ok () ∨ faults.deleteFails = true) := by
  cases h with
  | refused error => exact .inl hsecret
  | stored =>
    obtain rfl : entry.secret = secret := by simpa using hsecret
    exact .inr ⟨rfl, .inl rfl⟩
  | abandoned _ _ error left =>
    right
    cases left <;> simp only [cleanUp, withFile] at hsecret <;> split at hsecret
    case none.isTrue hdelete | some.isTrue hdelete =>
      obtain rfl : entry.secret = secret := by simpa using hsecret
      exact ⟨rfl, .inr hdelete⟩
    all_goals simp at hsecret

theorem lookup_secret_of_some
    (hsecret : vault.secrets.lookup secretId = some secret) :
    vault'.secrets.lookup secretId = some secret := by
  by_cases hid : secretId = entry.secretId
  · subst hid
    cases h with
    | refused error => exact hsecret
    | stored _ hnone => simp [hsecret] at hnone
    | abandoned _ hnone => simp [hsecret] at hnone
  · exact (h.lookup_other_secret hid).trans hsecret

end

end Created

/-! ## What removing an entry can do -/

section Removal

variable {name secretId : String} {faults : RemoveFaults} {vault : Vault}

def RemoveFaults.removes (faults : RemoveFaults) : Bool :=
  faults.lock.isNone && faults.remove.isNone && faults.delete.isNone

theorem removeEntry_ok_iff :
    (vault.removeEntry name secretId faults).1 = .ok () ↔ faults.removes = true := by
  rw [removeEntry, RemoveFaults.removes]
  cases faults.lock <;> cases faults.remove <;> cases faults.delete <;> simp

theorem removeEntry_cases (name secretId : String) (faults : RemoveFaults) (vault : Vault) :
    (∃ error, vault.removeEntry name secretId faults = (.error error, vault)) ∨
      (vault.removeEntry name secretId faults).2.files.lookup name = none := by
  rw [removeEntry]
  split
  · exact .inl ⟨_, rfl⟩
  · exact .inl ⟨_, rfl⟩
  · exact .inr (AList.lookup_erase _ _)
  · exact .inr (AList.lookup_erase _ _)

theorem removeEntry_other_file {name' : String} (h : name' ≠ name) :
    (vault.removeEntry name secretId faults).2.files.lookup name' = vault.files.lookup name' := by
  rw [removeEntry]
  split
  · rfl
  · rfl
  · exact AList.lookup_erase_ne h
  · exact AList.lookup_erase_ne h

theorem removeEntry_other_secret {secretId' : String} (h : secretId' ≠ secretId) :
    (vault.removeEntry name secretId faults).2.secrets.lookup secretId' =
      vault.secrets.lookup secretId' := by
  rw [removeEntry]
  split
  · rfl
  · rfl
  · rfl
  · exact AList.lookup_erase_ne h

theorem removeEntry_file {file : PrivateFile}
    (h : (vault.removeEntry name secretId faults).2.files.lookup name = some file) :
    vault.files.lookup name = some file := by
  rw [removeEntry] at h
  split at h
  · exact h
  · exact h
  · simp at h
  · simp at h

theorem removeEntry_secret
    (h : (vault.removeEntry name secretId faults).2.secrets.lookup secretId = some secret) :
    vault.secrets.lookup secretId = some secret := by
  rw [removeEntry] at h
  split at h
  · exact h
  · exact h
  · exact h
  · simp at h

theorem removeEntry_ok (h : (vault.removeEntry name secretId faults).1 = .ok ()) :
    (vault.removeEntry name secretId faults).2.files.lookup name = none ∧
      (vault.removeEntry name secretId faults).2.secrets.lookup secretId = none := by
  rw [removeEntry] at h ⊢
  split at h <;> try cases h
  exact ⟨AList.lookup_erase _ _, AList.lookup_erase _ _⟩

end Removal

/-! ## Entries that stay -/

structure Holds (name secretId : String) (text : List Char) (secret : Secret) (vault : Vault) :
    Prop where
  file : vault.files.lookup name = some ⟨text, .ownerOnly⟩
  secret : vault.secrets.lookup secretId = some secret

theorem Created.holds {entry : Entry} {vault vault' : Vault}
    (h : Created entry faults vault (.ok ()) vault') :
    vault'.Holds entry.name entry.secretId entry.text entry.secret :=
  ⟨h.lookup_stored.1, h.lookup_stored.2⟩

namespace Holds

variable {name secretId : String} {text : List Char} {secret : Secret} {vault : Vault}

theorem created (h : vault.Holds name secretId text secret) {entry : Entry}
    {vault' : Vault} {result : Except RegistrationError Unit}
    (hcreated : Created entry faults vault result vault')
    (hnames : entry.name = name ↔ entry.secretId = secretId) :
    vault'.Holds name secretId text secret := by
  by_cases hname : entry.name = name
  · obtain ⟨_, rfl⟩ := hcreated.eq_of_file (hname ▸ h.file)
    exact h
  · have hsecret : entry.secretId ≠ secretId := fun heq => hname (hnames.mpr heq)
    exact ⟨(hcreated.lookup_other_file (Ne.symm hname)).trans h.file,
      (hcreated.lookup_other_secret (Ne.symm hsecret)).trans h.secret⟩

theorem removed (h : vault.Holds name secretId text secret) {name' secretId' : String}
    (faults : RemoveFaults) (hname : name ≠ name') (hsecret : secretId ≠ secretId') :
    (vault.removeEntry name' secretId' faults).2.Holds name secretId text secret :=
  ⟨(removeEntry_other_file hname).trans h.file, (removeEntry_other_secret hsecret).trans h.secret⟩

end Holds

end Vault

end NexusCua.Provider
