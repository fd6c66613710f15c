import ShardCluster.Engine.Programs
import ShardCluster.Files.Operations

/-!
# Scripted programs

Stand-ins for the programs of a PostgreSQL installation. Each prints what it has been told to print
and ends as it has been told to; in between it keeps the files by which the stand-ins know of each
other: the port of the server of a data directory, and the process of the server on a port.
-/

namespace ShardCluster.Machine

/-- what a server does once it has printed its output -/
inductive ServerMode where
  /-- gets ready and runs until it is killed -/
  | serve
  /-- runs until it is killed, without getting ready -/
  | hang
  | exit
  /-- kills itself by the signal with the number of its exit code -/
  | signal
  /-- removes the log `server.log` and exits -/
  | unlink
  deriving DecidableEq, Inhabited

/-- a program -/
structure Script where
  out : Bytes := []
  err : Bytes := []
  exit : Nat := 0
  mode : ServerMode := .serve
  /-- whether it may be executed -/
  executable : Bool := true

/-- the directory of the programs -/
def binDirectory : Path := .ofString "bin"

/-- the file that holds the process of the server on a port, which is given as text -/
def processFile (port : Bytes) : Path :=
  binDirectory.join ⟨Utf8.encode "pid." ++ port⟩

/-- a file in a data directory, with a slash before its name in any case -/
def fileIn (directory : Path) (name : String) : Path :=
  ⟨directory.bytes ++ Path.slash :: Utf8.encode name⟩

/-- the file in a data directory that holds the port of its server -/
def portFile (directory : Path) : Path := fileIn directory "fake.port"

/-- carries out file operations as far as they go -/
def attempt (action : FileAction Unit) (fs : FileSystem) : FileSystem := (action.run fs).2

/-- what is in the file of a program -/
def scriptText : Bytes := Utf8.encode "#!/bin/sh\n"

/-- whether an argument is taken for an option -/
def isOption : Bytes → Bool
  | first :: _ :: _ => first == 0x2D
  | _ => false

/-- creates a data directory, unless its path is taken for an option -/
def makeDirectory (directory : Path) (fs : FileSystem) : FileSystem :=
  if isOption directory.bytes then fs else attempt (FileSystem.createAlong directory) fs

/-- creates a data directory with a configuration file in it -/
def populate (directory : Path) (fs : FileSystem) : FileSystem :=
  let fs := makeDirectory directory fs
  attempt
    (FileSystem.writeFile (fileIn directory "postgresql.conf") (Utf8.encode "# initdb\n")) fs

/-- notes down that a process is the server of a data directory and a port -/
def announce (directory : Path) (port : Bytes) (process : Nat) (fs : FileSystem) : FileSystem :=
  let fs := makeDirectory directory fs
  let fs := attempt (FileSystem.writeFile (portFile directory) (port ++ Utf8.encode "\n")) fs
  attempt (FileSystem.writeFile (processFile port) (Utf8.encode (toString process ++ "\n"))) fs

/-- a file's only line -/
def lineOf (path : Path) (fs : FileSystem) : Option Bytes :=
  match fs.contentOf path with
  | .ok content => some (content.takeWhile (· != 0x0A))
  | .error _ => none

/-- the number a file holds -/
def numberIn (path : Path) (fs : FileSystem) : Option Nat :=
  (lineOf path fs).bind fun line => (Utf8.lossy line).toNat?

/-- whether a server has announced itself on a port -/
def isAnnounced (port : Bytes) (fs : FileSystem) : Bool :=
  match fs.find (processFile port) .followed with
  | .ok _ => true
  | .error _ => false

/-- the code that is left of the number a program exits with -/
def Script.exitCode (s : Script) : Nat := s.exit % 256

/-- the greatest number of a signal -/
def lastSignal : Nat := 64

/-- signals that change nothing for a program that does not ask for them -/
def ignoredSignals : List Nat := [0, 17, 18, 23, 28]

/-- signals that halt a program without ending it -/
def haltingSignals : List Nat := [19, 20, 21, 22]

/-- how a server that was just started ends by itself, if it does -/
def Script.ending (s : Script) : Option ExitStatus :=
  match s.mode with
  | .serve | .hang => none
  | .exit | .unlink => some (.exited s.exitCode)
  | .signal =>
    if ignoredSignals.contains s.exit || s.exit > lastSignal then some (.exited s.exitCode)
    else if haltingSignals.contains s.exit then none
    else some (.signalled s.exit)

end ShardCluster.Machine
