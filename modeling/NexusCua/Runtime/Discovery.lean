import NexusCua.Foundation.Table
import NexusCua.Runtime.Driver

/-!
# Discovery

The records behind discovery and launch references, and the order in which the
applications a driver lists are published.
-/

namespace NexusCua.Runtime

open NexusCua.Foundation NexusCua.Protocol

structure DiscoveryRecord where
  runtimeEpoch : String
  application : DriverApplication
  expiresAt : Nat
  deriving DecidableEq, Repr

structure LaunchDiscoveryRecord where
  runtimeEpoch : String
  application : DriverLaunchableApplication
  expiresAt : Nat
  deriving DecidableEq, Repr

def staleDiscovery : CuaError :=
  publicError .staleDiscovery
    "discovery reference expired or no longer identifies the same process generation" true
    (some "discover_applications")

def staleLaunchDiscovery : CuaError :=
  publicError .staleDiscovery
    "launch reference expired or no longer identifies the same installed application" true
    (some "discover_launchable_applications")

/-! ## The published order -/

def listedBefore (left right : String × String × String) : Bool :=
  ((compare left.1 right.1).then
    ((compare left.2.1 right.2.1).then (compare left.2.2 right.2.2))).isLE

def dropRepeats {α : Type} (key : α → String) (last : String) : List α → List α
  | [] => []
  | a :: rest =>
      if key a = last then dropRepeats key last rest else a :: dropRepeats key (key a) rest

/-- `Vec::dedup_by` on keys. -/
def dedupByKey {α : Type} (key : α → String) : List α → List α
  | [] => []
  | a :: rest => a :: dropRepeats key (key a) rest

/-- Sort by `order`, drop neighbours with one key and cut to `maximum`; whether nothing was cut. -/
def publishedList {α : Type} (order : α → String × String × String) (key : α → String)
    (maximum : Nat) (listed : List α) : List α × Bool :=
  let unique := dedupByKey key
    (listed.insertionSort fun left right => listedBefore (order left) (order right) = true)
  (unique.take maximum, decide (unique.length ≤ maximum))

def publishedApplications (maximum : Nat) (listed : List DriverApplication) :
    List DriverApplication × Bool :=
  publishedList (fun application => (application.applicationId, application.name, application.key))
    DriverApplication.key maximum listed

def publishedLaunchables (maximum : Nat) (listed : List DriverLaunchableApplication) :
    List DriverLaunchableApplication × Bool :=
  publishedList (fun application => (application.applicationId, application.name, application.key))
    DriverLaunchableApplication.key maximum listed

/-! ## Records -/

def DiscoveredApplication.project (discoveryRef : DiscoveryRef) (application : DriverApplication)
    (expiresAt : String) : DiscoveredApplication where
  discoveryRef := discoveryRef
  name := application.name
  applicationId := application.applicationId
  foreground := application.foreground
  provenance := application.provenance
  expiresAt := expiresAt

def LaunchableApplication.project (launchRef : LaunchRef)
    (application : DriverLaunchableApplication) (expiresAt : String) : LaunchableApplication where
  launchRef := launchRef
  name := application.name
  applicationId := application.applicationId
  provenance := application.provenance
  expiresAt := expiresAt

def drawDiscoveryRefs (uuids : UuidSource) (issued : Nat) (applications : List DriverApplication) :
    List (DiscoveryRef × DriverApplication) :=
  (applications.zipIdx issued).map fun entry => (⟨uuids.issue "discovery" entry.2⟩, entry.1)

def drawLaunchRefs (uuids : UuidSource) (issued : Nat)
    (applications : List DriverLaunchableApplication) :
    List (LaunchRef × DriverLaunchableApplication) :=
  (applications.zipIdx issued).map fun entry => (⟨uuids.issue "launch" entry.2⟩, entry.1)

def insertDrawn {κ α υ : Type} [DecidableEq κ] (record : α → υ) (drawn : List (κ × α))
    (table : Table κ υ) : Table κ υ :=
  drawn.foldl (fun table entry => table.insert entry.1 (record entry.2)) table

/-! ## Resolving references -/

def expectedApplication (discovery : Table DiscoveryRef DiscoveryRecord) (epoch : String)
    (now : Nat) (discoveryRef : DiscoveryRef) : Except CuaError DriverApplication :=
  match discovery.lookup discoveryRef with
  | some record =>
      if record.runtimeEpoch = epoch ∧ now < record.expiresAt then .ok record.application
      else .error staleDiscovery
  | none => .error staleDiscovery

def currentApplication (listed : List DriverApplication) (expected : DriverApplication) :
    Except CuaError DriverApplication :=
  match listed.find? fun candidate => expected.matchesGeneration candidate with
  | some current => .ok current
  | none => .error staleDiscovery

/-- The applications now running under the expected generations, without two of one key. -/
def resolveApplications (expected listed : List DriverApplication) :
    Except CuaError (List DriverApplication) := do
  let resolved ← expected.mapM (currentApplication listed)
  if (resolved.map DriverApplication.key).Nodup then pure resolved
  else
    .error (publicError .invalidRequest
      "application references resolve to duplicate process generations" false
      (some "select_unique_applications"))

end NexusCua.Runtime
