import ShardCluster.Files.IoError
import ShardCluster.Path

/-!
# File systems

A tree of directories, files and symbolic links, and the walk from a path to the place it names. A
walk follows at most forty links and keeps to the limits on the length of names and paths. A working
directory that has been removed, or is in one that has been, can still be walked through; there is
nothing in it and nothing can be put there.
-/

namespace ShardCluster

/-- where an entry is: the names on the way from the root -/
abbrev Place := List Bytes

/-- what can be at a name -/
inductive Entry where
  /-- with what is in it, by name -/
  | directory (contents : List (Bytes × Entry))
  | file (content : Bytes)
  | link (target : Path)
  deriving Inhabited

/-- what is in a directory, by name -/
abbrev Folder := List (Bytes × Entry)

def Entry.isDirectory : Entry → Bool
  | directory _ => true
  | _ => false

namespace Folder

/-- what is at a place below a directory -/
def entryAt : Folder → Place → Option Entry
  | folder, [] => some (.directory folder)
  | folder, name :: rest =>
    match folder.lookup name with
    | some (.directory inner) => entryAt inner rest
    | some entry => if rest.isEmpty then some entry else none
    | none => none

/-- Changes what is in the directory at a place below a directory; without one nothing changes. -/
def alter (f : Folder → Folder) : Folder → Place → Folder
  | folder, [] => f folder
  | folder, name :: rest => folder.map fun
    | (n, .directory inner) =>
      (n, .directory (if n = name then alter f inner rest else inner))
    | item => item

def erase (folder : Folder) (name : Bytes) : Folder := folder.filter (·.1 != name)

/-- puts an entry at a name, instead of what was there -/
def insert (folder : Folder) (name : Bytes) (entry : Entry) : Folder :=
  (name, entry) :: folder.erase name

end Folder

/-- The entries below the root, and the place relative paths start from. -/
structure FileSystem where
  root : Folder
  workingDirectory : Place

namespace FileSystem

/-- the name of a new working directory, which is no text, so that no path given as text has it -/
def freshName : Bytes := [0xFF]

/-- an empty working directory among the temporary files, and nothing else -/
def fresh : FileSystem where
  root := [(Utf8.encode "tmp", .directory [(freshName, .directory [])])]
  workingDirectory := [Utf8.encode "tmp", freshName]

/-! ### Entries by place -/

def lookup (fs : FileSystem) (place : Place) : Option Entry := Folder.entryAt fs.root place

/-- what is in the directory at a place -/
def folder? (fs : FileSystem) (place : Place) : Option Folder :=
  match fs.lookup place with
  | some (.directory folder) => some folder
  | _ => none

/-- changes what is in the directory at a place -/
def alter (fs : FileSystem) (place : Place) (f : Folder → Folder) : FileSystem :=
  { fs with root := Folder.alter f fs.root place }

/-- puts an entry below the root at a place, instead of what was there -/
def insert (fs : FileSystem) (place : Place) (entry : Entry) : FileSystem :=
  match place.getLast? with
  | some name => fs.alter place.dropLast (Folder.insert · name entry)
  | none => fs

/-- removes the entry below the root at a place, with all below it -/
def erase (fs : FileSystem) (place : Place) : FileSystem :=
  match place.getLast? with
  | some name => fs.alter place.dropLast (Folder.erase · name)
  | none => fs

/-- removes everything below a place, but not what is at it -/
def eraseBelow (fs : FileSystem) (place : Place) : FileSystem := fs.alter place fun _ => []

/-! ### Walking -/

/-- longest name of an entry, in octets -/
def nameLimit : Nat := 255

/-- shortest path that is too long, in octets -/
def pathLimit : Nat := 4096

/-- most links one walk follows -/
def linkLimit : Nat := 40

/-- The directories from the root to where a walk is: the name of each and what is in it, or that it
has been removed. The last one comes first, and the root is left out. -/
abbrev Trail := List (Bytes × Option Folder)

def Trail.place (trail : Trail) : Place := (trail.map (·.1)).reverse

/-- what is in the directory a trail ends in, unless it has been removed -/
def folderOf (fs : FileSystem) : Trail → Option Folder
  | [] => some fs.root
  | (_, folder) :: _ => folder

/-- the trail to a directory, which may have been removed -/
def trailTo (fs : FileSystem) (place : Place) : Trail :=
  place.foldl
    (fun trail name => match (fs.folderOf trail).bind (·.lookup name) with
      | some (.directory inner) => (name, some inner) :: trail
      | _ => (name, none) :: trail)
    []

/-- What a directory has at a name; one that has been removed has nothing and takes nothing. -/
def entryIn (folder : Option Folder) (name : Bytes) : Except IoError (Option Entry) :=
  match folder with
  | none => .error .notFound
  | some folder =>
    if name.length > nameLimit then .error .nameTooLong else .ok (folder.lookup name)

/-- what becomes of a link at the end of a path -/
inductive LastLink where
  | kept
  | followed
  /-- followed to a file that is created if missing, which a path with a slash at its end cannot
  name -/
  | written
  deriving DecidableEq

/-- where a walk ends for now -/
inductive Stop where
  /-- at a place where there is an entry, or nothing yet -/
  | arrived (place : Place) (entry : Option Entry)
  /-- at a link in the directory `inside` leads to, with `rest` still to walk from its target -/
  | atLink (inside : Trail) (target : Path) (rest : List Bytes)

/-- Walks from the end of a trail along the names up to the first link to follow, or to the end. The
last name need not exist. -/
def walk (fs : FileSystem) (last : LastLink) : Trail → List Bytes → Except IoError Stop
  | trail, [] => .ok (.arrived trail.place (some (.directory ((fs.folderOf trail).getD []))))
  | trail, name :: rest =>
    if name = [Path.dot] then walk fs last trail rest
    else if name = [Path.dot, Path.dot] then walk fs last trail.tail rest
    else
      match entryIn (fs.folderOf trail) name with
      | .error e => .error e
      | .ok none =>
        if rest.isEmpty then .ok (.arrived (trail.place ++ [name]) none) else .error .notFound
      | .ok (some (.directory inner)) => walk fs last ((name, some inner) :: trail) rest
      | .ok (some (.file content)) =>
        if rest.isEmpty then .ok (.arrived (trail.place ++ [name]) (some (.file content)))
        else .error .notDirectory
      | .ok (some (.link target)) =>
        if rest.isEmpty && last == .kept then
          .ok (.arrived (trail.place ++ [name]) (some (.link target)))
        else .ok (.atLink trail target rest)

/-- a place, as long as it is that of a directory -/
def asDirectory : Place × Option Entry → Except IoError Place
  | (place, some (.directory _)) => .ok place
  | (_, some _) => .error .notDirectory
  | (_, none) => .error .notFound

/-- Walks on through up to `links` links, to a place and what is there. -/
def walkOn (fs : FileSystem) (last : LastLink) (links : Nat) (trail : Trail)
    (names : List Bytes) : Except IoError (Place × Option Entry) :=
  match walk fs last trail names with
  | .error e => .error e
  | .ok (.arrived place entry) => .ok (place, entry)
  | .ok (.atLink inside target rest) =>
    match links with
    | 0 => .error .tooManyLinks
    | n + 1 =>
      let origin := if target.isAbsolute then [] else inside
      if rest.isEmpty && last == .written && target.isOpen then do
        let _ ← asDirectory (← walkOn fs .followed n origin target.names.dropLast)
        .error .isDirectory
      else walkOn fs last n origin (target.steps ++ rest)

/-- refuses what no walk is started for -/
def admissible (path : Path) : Except IoError Unit :=
  if path.bytes.contains 0 then .error .nulInPath
  else if path.bytes.isEmpty then .error .notFound
  else if path.bytes.length ≥ pathLimit then .error .nameTooLong
  else .ok ()

/-- the trail a path starts from -/
def start (fs : FileSystem) (path : Path) : Trail :=
  if path.isAbsolute then [] else fs.trailTo fs.workingDirectory

/-- the place a path names and what is there, which may be nothing -/
def resolve (fs : FileSystem) (path : Path) (last : LastLink) :
    Except IoError (Place × Option Entry) := do
  admissible path
  fs.walkOn last linkLimit (fs.start path) path.steps

/-- the place and entry a path names, both there -/
def find (fs : FileSystem) (path : Path) (last : LastLink) : Except IoError (Place × Entry) := do
  match ← fs.resolve path last with
  | (_, none) => .error .notFound
  | (place, some entry) => .ok (place, entry)

/-- The place of the directory that the last name of a path is looked up in. -/
def holder (fs : FileSystem) (path : Path) : Except IoError Place := do
  admissible path
  asDirectory (← fs.walkOn .followed linkLimit (fs.start path) path.names.dropLast)

end FileSystem

end ShardCluster
