import ShardCluster.Files.Operations
import ShardCluster.Task.Basic

/-!
# Storage

The file operations a node needs, as tasks on any world, and how a file system in that world
provides them. Each waits for the system once its effect is under way, so that giving the task up
does not undo or prevent the effect.
-/

namespace ShardCluster

/-- why text could not be added to a file -/
inductive AppendError where
  | cannotOpen (cause : IoError)
  | cannotWrite (cause : IoError)
  /-- The text was taken over, and writing it out failed after that. -/
  | cannotFlush (cause : IoError)

/-- the file operations of a node -/
structure Storage (W : Type) where
  pathExists : Path → Task W (Except IoError Bool)
  namesIn : Path → Task W (Except IoError (List Bytes))
  createDirectories : Path → Task W (Except IoError Unit)
  writeFile : Path → Bytes → Task W (Except IoError Unit)
  /-- adds to the end of a file that is there -/
  append : Path → Bytes → Task W (Except AppendError Unit)
  /-- creates a file unless it is there -/
  ensureFile : Path → Task W (Except IoError Unit)
  contentOf : Path → Task W (Except IoError Bytes)
  removeTree : Path → Task W (Except IoError Unit)

namespace Storage

variable {W : Type} (files : Part W FileSystem)

/-- a file action as a task that waits for the system -/
def perform {α : Type} (action : FileAction α) : Task W (Except IoError α) := do
  let result ← Task.atomic fun w =>
    let (result, fs) := action.run (files.get w)
    (result, files.put fs w)
  Task.yield
  return result

/-- a question about files as a task that waits for the system -/
def ask {α : Type} (question : FileSystem → Except IoError α) : Task W (Except IoError α) := do
  let result ← Task.read fun w => question (files.get w)
  Task.yield
  return result

/-- Opens a file and adds to its end. Nothing is added if the task is given up while it opens. -/
def appendTo (path : Path) (content : Bytes) : Task W (Except AppendError Unit) := do
  match ← perform files (FileSystem.openForAppending path) with
  | .error cause => return .error (.cannotOpen cause)
  | .ok place =>
    Task.update fun w => files.put (FileSystem.appendAt place content (files.get w)) w
    Task.yield
    return .ok ()

/-- the operations of a file system that is a part of the world -/
def ofFiles : Storage W where
  pathExists path := ask files (·.pathExists path)
  namesIn path := ask files (·.namesIn path)
  createDirectories path := perform files (FileSystem.createDirectories path)
  writeFile path content := perform files (FileSystem.writeFile path content)
  append path content := appendTo files path content
  ensureFile path := perform files (FileSystem.appendOrCreate path [])
  contentOf path := ask files (·.contentOf path)
  removeTree path := perform files (FileSystem.removeTree path)

end Storage

end ShardCluster
