import NexusCua.Foundation.Table
import NexusCua.Protocol.Observation
import NexusCua.Runtime.Image

/-!
# The artifact store

The in-memory index of registered screenshots and the part of the file system
below the store's root: one directory a session, one file an artifact.  The
operations are the single steps of `ArtifactStore`, so that a writer and a
remover can be interleaved between any two of them.  A step that finds its
directory or file missing fails, and a removal of what exists succeeds.
-/

namespace NexusCua.Runtime

open NexusCua.Foundation NexusCua.Protocol

structure ArtifactStore where
  index : Table SessionId (List ArtifactRef)
  directories : List SessionId
  files : Table (SessionId × ArtifactRef) (List UInt8)

def ioError : CuaError :=
  publicError .internal "transient artifact storage is unavailable" true
    (some "retry_after_storage_recovery")

namespace ArtifactStore

def empty : ArtifactStore := ⟨∅, [], ∅⟩

/-- `fs::create_dir_all` -/
def createDirectory (store : ArtifactStore) (sessionId : SessionId) : ArtifactStore :=
  { store with directories := sessionId :: store.directories }

def hasDirectory (store : ArtifactStore) (sessionId : SessionId) : Bool :=
  store.directories.contains sessionId

/-- `OpenOptions::create_new` -/
def createFile (store : ArtifactStore) (sessionId : SessionId) (artifactRef : ArtifactRef) :
    Option ArtifactStore :=
  if store.hasDirectory sessionId ∧ store.files.lookup (sessionId, artifactRef) = none then
    some { store with files := store.files.insert (sessionId, artifactRef) [] }
  else none

/-- `write_all` on the open file, which may have been unlinked meanwhile. -/
def writeFile (store : ArtifactStore) (sessionId : SessionId) (artifactRef : ArtifactRef)
    (bytes : List UInt8) : ArtifactStore :=
  { store with files := store.files.modify (sessionId, artifactRef) fun _ => bytes }

/-- The index update of `register_artifact`, with the artifact it evicts. -/
def registerArtifact (store : ArtifactStore) (sessionId : SessionId) (artifactRef : ArtifactRef)
    (maxArtifactsPerSession : Nat) : ArtifactStore × Option ArtifactRef :=
  let session := (store.index.lookup sessionId).getD [] ++ [artifactRef]
  if maxArtifactsPerSession < session.length then
    ({ store with index := store.index.insert sessionId session.tail }, session.head?)
  else ({ store with index := store.index.insert sessionId session }, none)

/-- `fs::remove_file` -/
def removeFile (store : ArtifactStore) (sessionId : SessionId) (artifactRef : ArtifactRef) :
    Option ArtifactStore :=
  match store.files.lookup (sessionId, artifactRef) with
  | none => none
  | some _ => some { store with files := store.files.erase (sessionId, artifactRef) }

/-- The first half of `remove_session`, under the index lock. -/
def removeIndex (store : ArtifactStore) (sessionId : SessionId) : ArtifactStore :=
  { store with index := store.index.erase sessionId }

/-- The second half of `remove_session`: `fs::remove_dir_all` -/
def removeDirectory (store : ArtifactStore) (sessionId : SessionId) : ArtifactStore :=
  { store with
    directories := store.directories.filter fun other => other ≠ sessionId
    files := store.files.retain fun path _ => path.1 ≠ sessionId }

/-- `take_artifact` forgets the path, and a session whose last path it was. -/
def prunePath (store : ArtifactStore) (sessionId : SessionId) (artifactRef : ArtifactRef) :
    ArtifactStore :=
  { store with
    index := (store.index.mapValues fun owner paths =>
      paths.filter fun candidate => (owner, candidate) ≠ (sessionId, artifactRef)).retain
        fun _ paths => !paths.isEmpty }

/-- `fs::remove_dir`, which leaves a directory with files alone. -/
def removeEmptyDirectory (store : ArtifactStore) (sessionId : SessionId) : ArtifactStore :=
  if store.files.toList.any fun entry => entry.1.1 == sessionId then store
  else { store with directories := store.directories.filter fun other => other ≠ sessionId }

end ArtifactStore

def artifactPath (root : String) (sessionId : SessionId) (artifactRef : ArtifactRef) : String :=
  root ++ "/" ++ sessionId.value ++ "/" ++ artifactRef.value ++ ".png"

end NexusCua.Runtime
