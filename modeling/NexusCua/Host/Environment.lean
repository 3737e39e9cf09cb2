import NexusCua.Protocol.Identifiers

/-!
# Desktop environments

The description of the environment behind a desktop worker, fixed for one
worker epoch, and the checks it passes before the worker is registered.
-/

namespace NexusCua.Host

open NexusCua.Protocol

inductive EnvironmentKind where
  | localUserDesktop
  | remoteDesktop
  | isolated
  deriving DecidableEq, Repr

inductive NetworkPolicy where
  | notEnforced
  | denyAll
  | allowHosts (hosts : List String)
  | unrestricted
  deriving DecidableEq, Repr

structure MountPolicy where
  mountRef : String
  readOnly : Bool
  deriving DecidableEq, Repr

inductive FilesystemPolicy where
  | notEnforced
  | noDirectAccess
  | mounts (mounts : List MountPolicy)
  deriving DecidableEq, Repr

inductive EnvironmentCapability where
  | networkPolicy
  | filesystemPolicy
  | snapshot
  | reset
  | clone
  deriving DecidableEq, Repr

structure EnvironmentDescriptor where
  kind : EnvironmentKind
  network : NetworkPolicy
  filesystem : FilesystemPolicy
  capabilities : List EnvironmentCapability
  baseImageSha256 : Option String
  deriving DecidableEq, Repr

inductive EnvironmentError where
  | invalid (message : String)
  | unsupported
  | busy
  | staleSnapshot
  | provider (message : String)
  deriving DecidableEq, Repr

def validSha256 (value : String) : Bool :=
  value.utf8ByteSize == 64 &&
    value.toList.all fun c => c.isDigit || (decide ('a' ≤ c) && decide (c ≤ 'f'))

def normalizedLabel (label : List Char) : Bool :=
  !label.isEmpty && decide (label.length ≤ 63) && label.head? != some '-' &&
    label.getLast? != some '-' && label.all fun c => c.isLower || c.isDigit || c == '-'

def normalizedHost (host : String) : Bool :=
  !host.isEmpty && decide (host.utf8ByteSize ≤ 253) && !host.toList.any Char.isUpper &&
    host.toList.head? != some '.' && host.toList.getLast? != some '.' &&
    (host.toList.splitOn '.').all normalizedLabel

def normalizedMount (mount : MountPolicy) : Bool :=
  !mount.mountRef.isEmpty && decide (mount.mountRef.utf8ByteSize ≤ 128) &&
    isTrimmed mount.mountRef

namespace EnvironmentDescriptor

def localUserDesktop : EnvironmentDescriptor where
  kind := .localUserDesktop
  network := .notEnforced
  filesystem := .notEnforced
  capabilities := []
  baseImageSha256 := none

def validateNetwork : NetworkPolicy → Except EnvironmentError Unit
  | .allowHosts hosts =>
      if hosts.isEmpty ∨ 64 < hosts.length then
        .error (.invalid "network allowlist must contain between 1 and 64 hosts")
      else if ¬ hosts.Nodup ∨ ¬ hosts.all normalizedHost then
        .error (.invalid "network allowlist hosts must be unique normalized DNS names")
      else .ok ()
  | _ => .ok ()

def validateFilesystem : FilesystemPolicy → Except EnvironmentError Unit
  | .mounts mounts =>
      if mounts.isEmpty ∨ 32 < mounts.length then
        .error (.invalid "filesystem policy must contain between 1 and 32 mounts")
      else if ¬ (mounts.map MountPolicy.mountRef).Nodup ∨ ¬ mounts.all normalizedMount then
        .error (.invalid "mount references must be unique, normalized, and bounded")
      else .ok ()
  | _ => .ok ()

def validateImage (descriptor : EnvironmentDescriptor) : Except EnvironmentError Unit :=
  if descriptor.kind = .isolated then
    match descriptor.baseImageSha256 with
    | none => .error (.invalid "isolated environments require a base image digest")
    | some digest =>
        if validSha256 digest then .ok ()
        else .error (.invalid "base image digest must be lowercase SHA-256 hex")
  else .ok ()

def validate (descriptor : EnvironmentDescriptor) : Except EnvironmentError Unit := do
  if descriptor.kind ≠ .isolated ∧
      (.snapshot ∈ descriptor.capabilities ∨ .reset ∈ descriptor.capabilities ∨
        .clone ∈ descriptor.capabilities ∨ descriptor.baseImageSha256.isSome) then
    .error (.invalid "only isolated environments may advertise image lifecycle")
  else if (.networkPolicy ∈ descriptor.capabilities ↔ descriptor.network = .notEnforced) ∨
      (.filesystemPolicy ∈ descriptor.capabilities ↔ descriptor.filesystem = .notEnforced) then
    .error (.invalid "policy capability flags must match their enforcement modes")
  else if ¬ descriptor.capabilities.Nodup then
    .error (.invalid "environment capabilities contain duplicates")
  else do
    validateNetwork descriptor.network
    validateFilesystem descriptor.filesystem
    validateImage descriptor

example : validate localUserDesktop = .ok () := rfl

end EnvironmentDescriptor

end NexusCua.Host
