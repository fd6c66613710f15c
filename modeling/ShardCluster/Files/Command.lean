import ShardCluster.Files.Operations

/-!
# File commands

File operations as data, as scripts give them, and their results.
-/

namespace ShardCluster

/-- a file operation in a script -/
inductive FileCommand where
  | makeDirectory (path : Path)
  /-- parents are created -/
  | write (path : Path) (content : Bytes)
  | remove (path : Path)
  /-- parents are created -/
  | link (path target : Path)
  | read (path : Path)

namespace FileCommand

/-- Creates the directory that is to hold a path, as far as possible; whether it can hold anything
shows when the path is used. -/
def makeParent (path : Path) : FileAction Unit :=
  match path.parent? with
  | some above => tryCatch (FileSystem.createDirectories above) fun _ => pure ()
  | none => pure ()

/-- The text of the file that was read, if any. -/
def perform : FileCommand → FileAction (Option String)
  | makeDirectory path => do
    FileSystem.createDirectories path
    return none
  | write path content => do
    makeParent path
    FileSystem.writeFile path content
    return none
  | remove path => do
    FileSystem.removeAny path
    return none
  | link path target => do
    makeParent path
    FileSystem.createLink target path
    return none
  | read path => do return some (Utf8.lossy (← (← get).contentOf path))

end FileCommand

end ShardCluster
