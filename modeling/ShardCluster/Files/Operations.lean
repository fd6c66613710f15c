import ShardCluster.Files.FileSystem

/-!
# File operations

Reading, writing, creating and removing by path. An operation that fails half way keeps what it
has done, as `createDirectories` and `removeTree` show.
-/

namespace ShardCluster

/-- a computation on a file system that may fail, and then keeps the changes made so far -/
abbrev FileAction := ExceptT IoError (StateM FileSystem)

namespace FileSystem

/-! ### Questions -/

/-- Whether a path leads to anything; a path that cannot be followed is a failure, unless something
on it is missing. -/
def pathExists (fs : FileSystem) (path : Path) : Except IoError Bool :=
  match fs.find path .followed with
  | .ok _ => .ok true
  | .error .notFound => .ok false
  | .error e => .error e

/-- whether a path leads to a directory -/
def leadsToDirectory (fs : FileSystem) (path : Path) : Bool :=
  match fs.find path .followed with
  | .ok (_, .directory _) => true
  | _ => false

/-- the names in a directory -/
def namesIn (fs : FileSystem) (path : Path) : Except IoError (List Bytes) := do
  match ← fs.find path .followed with
  | (_, .directory folder) => .ok (folder.map (·.1))
  | _ => .error .notDirectory

/-- the content of a file -/
def contentOf (fs : FileSystem) (path : Path) : Except IoError Bytes := do
  match ← fs.find path .followed with
  | (_, .file content) => .ok content
  | _ => .error .isDirectory

/-! ### Changes -/

/-- what the last name of a path says -/
inductive LastName where
  | none
  | dot
  | dotDot
  | plain (name : Bytes)

def lastName (path : Path) : LastName :=
  match path.names.getLast? with
  | none => .none
  | some name =>
    if name = [Path.dot] then .dot
    else if name = [Path.dot, Path.dot] then .dotDot
    else .plain name

/-- Puts an entry where nothing is; only a directory may be asked for with a slash at the end. -/
def putNew (path : Path) (entry : Entry) : FileAction Unit := do
  let fs ← get
  let inside ← fs.holder path
  match lastName path with
  | .plain name =>
    match ← entryIn (fs.folder? inside) name with
    | some _ => throw .alreadyExists
    | none =>
      if path.isOpen && !entry.isDirectory then throw .notFound
      else set (fs.insert (inside ++ [name]) entry)
  | _ => throw .alreadyExists

def createDirectory (path : Path) : FileAction Unit := putNew path (.directory [])

/-- Creates a link. A NUL octet in either path counts before anything else, and then a target that
no path can be. -/
def createLink (target path : Path) : FileAction Unit := do
  if target.bytes.contains 0 || path.bytes.contains 0 then throw .nulInPath
  else do
    admissible target
    putNew path (.link target)

/-- creates a directory, content with one that is there already -/
def ensureDirectory (path : Path) : FileAction Unit :=
  tryCatch (createDirectory path) fun e => do
    if (← get).leadsToDirectory path then pure () else throw e

/-- Creates a directory and those above it that are missing; `fuel` bounds how many. -/
def createDirectoriesWithin : Nat → Path → FileAction Unit
  | 0, _ => throw .notFound
  | fuel + 1, path =>
    if path.bytes.isEmpty then pure ()
    else tryCatch (ensureDirectory path) fun e =>
      match e with
      | .notFound =>
        match path.parent? with
        | some above => do
          createDirectoriesWithin fuel above
          ensureDirectory path
        | none => throw (.other "failed to create whole tree")
      | e => throw e

def createDirectories (path : Path) : FileAction Unit :=
  createDirectoriesWithin (path.bytes.length + 1) path

/-- Walks along names from the directory `here` and creates each directory on the way that is
missing. -/
def createFrom (here : Place) : List Bytes → FileAction Unit
  | [] => pure ()
  | name :: rest => do
    let fs ← get
    match ← fs.walkOn .followed linkLimit (fs.trailTo here) [name] with
    | (there, some (.directory _)) => createFrom there rest
    | (_, some _) => throw .alreadyExists
    | (there, none) =>
      if there = here ++ [name] then do
        set (fs.insert there (.directory []))
        createFrom there rest
      else throw .alreadyExists

/-- Creates the directories along a path that are missing, one after the other. Where
`createDirectories` fails for `a/.` unless `a` is there, this creates `a` and stays in it. -/
def createAlong (path : Path) : FileAction Unit := do
  let fs ← get
  if path.bytes.isEmpty then throw .notFound
  else createFrom (if path.isAbsolute then [] else fs.workingDirectory) path.names

/-- The place of the file to write at a path that is opened for writing and created if missing. -/
def openForWriting (path : Path) : FileAction (Place × Bytes) := do
  let fs ← get
  let _ ← fs.holder path
  match lastName path with
  | .plain _ =>
    if path.isOpen then throw .isDirectory
    else
      match ← fs.resolve path .written with
      | (place, none) => pure (place, [])
      | (place, some (.file content)) => pure (place, content)
      | (_, some _) => throw .isDirectory
  | _ => throw .isDirectory

/-- Makes `content` all there is in a file, which is created if missing. -/
def writeFile (path : Path) (content : Bytes) : FileAction Unit := do
  let (place, _) ← openForWriting path
  modify (·.insert place (.file content))

/-- Adds to the end of a file, which is created if missing. -/
def appendOrCreate (path : Path) (content : Bytes) : FileAction Unit := do
  let (place, before) ← openForWriting path
  modify (·.insert place (.file (before ++ content)))

/-- The place of a file that is there, opened for adding to its end. -/
def openForAppending (path : Path) : FileAction Place := do
  match ← (← get).find path .followed with
  | (place, .file _) => pure place
  | _ => throw .isDirectory

/-- Adds to the end of the file at a place; a file that is gone takes it unseen. -/
def appendAt (place : Place) (content : Bytes) (fs : FileSystem) : FileSystem :=
  match fs.lookup place with
  | some (.file before) => fs.insert place (.file (before ++ content))
  | _ => fs

/-- Removes a file or a link by its path, whose last name must be its own; a slash at the end asks
for a directory, which this does not remove. -/
def removeFile (path : Path) : FileAction Unit := do
  let fs ← get
  let inside ← fs.holder path
  match lastName path with
  | .plain name =>
    match ← entryIn (fs.folder? inside) name with
    | none => throw .notFound
    | some (.directory _) => throw .isDirectory
    | some _ =>
      if path.isOpen then throw .notDirectory else set (fs.erase (inside ++ [name]))
  | _ => throw .isDirectory

/-- Removes an empty directory by its path, whose last name must be the directory's own. -/
def removeDirectory (path : Path) : FileAction Unit := do
  let fs ← get
  let inside ← fs.holder path
  match lastName path with
  | .none => throw .busy
  | .dot => throw .invalidArgument
  | .dotDot => throw .notEmpty
  | .plain name =>
    match ← entryIn (fs.folder? inside) name with
    | none => throw .notFound
    | some (.directory []) => set (fs.erase (inside ++ [name]))
    | some (.directory _) => throw .notEmpty
    | some _ => throw .notDirectory

/-- Removes a directory with all it holds, or a link but not what it leads to. The contents go
first, so that a directory that cannot be removed itself is left empty. -/
def removeTree (path : Path) : FileAction Unit := do
  let fs ← get
  match ← fs.find path .kept with
  | (place, .link _) => set (fs.erase place)
  | (_, .file _) => throw .notDirectory
  | (place, .directory _) => do
    set (fs.eraseBelow place)
    tryCatch (removeDirectory path) fun e =>
      match e with
      | .notFound => pure ()
      | e => throw e

/-- Removes whatever a path names. -/
def removeAny (path : Path) : FileAction Unit := do
  match (← get).find path .kept with
  | .ok (_, .directory _) => removeTree path
  | _ => removeFile path

end FileSystem

end ShardCluster
