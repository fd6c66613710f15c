import ShardCluster.Files.Storage
import ShardCluster.Machine.Script

/-!
# Machines

A machine on which scripted programs run: its files, its programs and children, and a record of
every call of a program.
-/

namespace ShardCluster

/-- A child process. Its end shows no earlier than the second look at it. -/
structure Child where
  status : Option ExitStatus
  /-- whether it has been looked at -/
  seen : Bool := false

structure Machine where
  files : FileSystem
  /-- the programs in the directory for them -/
  scripts : List (String × Machine.Script) := []
  /-- where bare names are searched for -/
  searchPath : List Path := []
  /-- all children ever started, by their number -/
  children : List Child := []
  /-- the calls so far, without those that only look for a ready server -/
  calls : List (List String) := []
  /-- the last call that looked for a ready server -/
  lastProbe : Option (List String) := none
  /-- ports something listens on -/
  listening : List UInt16 := []
  clock : Nat := 0

namespace Machine

/-- Installs a program, or removes it. -/
def install (name : String) (script : Option Script) (m : Machine) : Machine :=
  let path := binDirectory.child name
  match script with
  | some s =>
    { m with
      files := attempt (do
        FileSystem.createDirectories binDirectory
        FileSystem.writeFile path scriptText) m.files
      scripts := (name, s) :: m.scripts.filter (·.1 != name) }
  | none =>
    { m with
      files := attempt (FileSystem.removeFile path) m.files
      scripts := m.scripts.filter (·.1 != name) }

/-- the place of the directory for programs -/
def home (m : Machine) : Place := m.files.workingDirectory ++ binDirectory.names

/-- forgets the programs whose files are gone -/
def forgetMissing (m : Machine) : Machine :=
  { m with scripts := m.scripts.filter fun (name, _) =>
      (m.files.lookup (m.home ++ [Utf8.encode name])).isSome }

/-! ### Calls -/

/-- The program at a path, with its name. A program whose file has been written to since is none
any more. -/
def programAt (m : Machine) (path : Path) : Except IoError (String × Script) := do
  let (place, entry) ← m.files.find path .followed
  let name := Utf8.lossy ((place.getLast?).getD [])
  match m.scripts.lookup name, entry with
  | some s, .file content =>
    if !s.executable || place != m.home ++ [Utf8.encode name] then throw .permissionDenied
    else if content != scriptText then throw .notExecutable
    else return (name, s)
  | _, _ => throw .permissionDenied

/-- The first program of a name in a list of directories. One that may not be executed is passed
over, but counts as the reason if there is no other; `failure` is the reason so far. -/
def search (m : Machine) (name : Path) (failure : IoError) :
    List Path → Except IoError (String × Script)
  | [] => .error failure
  | directory :: rest =>
    match m.programAt (directory.join name) with
    | .ok found => .ok found
    | .error .permissionDenied => m.search name .permissionDenied rest
    | .error .notFound =>
      m.search name (if failure = .permissionDenied then failure else .notFound) rest
    | .error .notDirectory =>
      m.search name (if failure = .permissionDenied then failure else .notDirectory) rest
    | .error e => .error e

/-- longest argument of a program, in octets -/
def argumentLimit : Nat := 131071

/-- The program that is called, with its name. -/
def locate (m : Machine) (call : Invocation) : Except IoError (String × Script) := do
  if call.program.bytes.contains 0 || call.arguments.any (·.contains 0) then
    throw .nulInArgument
  let found ←
    if call.program.bytes.contains Path.slash then m.programAt call.program
    else m.search call.program .notFound m.searchPath
  if call.arguments.any (·.length > argumentLimit) then throw .argumentsTooLong
  return found

/-- puts a call on record -/
def note (name : String) (call : Invocation) (m : Machine) : Machine :=
  let words := name :: call.arguments.map Utf8.lossy
  if name = "pg_isready" then { m with lastProbe := some words }
  else { m with calls := m.calls ++ [words] }

/-- Ends a child, unless it has ended before. -/
def endChild (number : Nat) (status : ExitStatus) (m : Machine) : Machine :=
  { m with children := m.children.modify number fun c =>
      { status := some (c.status.getD status), seen := true } }

/-- the child that is the server on a port -/
def serverOn (port : Bytes) (m : Machine) : Option Nat := numberIn (processFile port) m.files

/-- Ends the server on a port and forgets about its process. -/
def endServer (port : Bytes) (status : ExitStatus) (m : Machine) : Machine :=
  match m.serverOn port with
  | none => m
  | some number =>
    let m := m.endChild number status
    { m with files := attempt (FileSystem.removeFile (processFile port)) m.files }

/-- ends the server of a data directory -/
def stopServer (directory : Path) (m : Machine) : Machine :=
  match lineOf (portFile directory) m.files with
  | none => m
  | some port => m.endServer port (.signalled 15)

/-- the argument at a position, counted from one -/
def argument (call : Invocation) (position : Nat) : Bytes :=
  (call.arguments[position - 1]?).getD []

/-- What a successful program does besides printing, and its exit code. -/
def act (name : String) (call : Invocation) (m : Machine) : Nat × Machine :=
  match name with
  | "initdb" => (0, { m with files := populate ⟨argument call 2⟩ m.files })
  | "pg_isready" => (if isAnnounced (argument call 5) m.files then 0 else 2, m)
  | "pg_ctl" => (0, m.stopServer ⟨argument call 2⟩)
  | _ => (0, m)

/-- Runs a program to its end. -/
def runProgram (call : Invocation) (m : Machine) : Except IoError Output × Machine :=
  match m.locate call with
  | .error e => (.error e, m)
  | .ok (name, script) =>
    let m := m.note name call
    let (code, m) := if script.exitCode = 0 then act name call m else (script.exitCode, m)
    (.ok ⟨.exited code, script.out, script.err⟩, m)

/-- Starts a server, which prints to the end of its log. -/
def startChild (call : Invocation) (log : Path) (m : Machine) : Except IoError Nat × Machine :=
  match m.locate call with
  | .error e => (.error e, m)
  | .ok (name, script) =>
    let m := m.note name call
    let number := m.children.length
    let files := attempt (FileSystem.appendOrCreate log (script.out ++ script.err)) m.files
    let files := match script.mode with
      | .serve => announce ⟨argument call 2⟩ (argument call 4) number files
      | .unlink => attempt (FileSystem.removeFile (.ofString "server.log")) files
      | _ => files
    (.ok number, { m with files, children := m.children ++ [{ status := script.ending }] })

/-- Looks at a child. -/
def look (number : Nat) (m : Machine) : Option ExitStatus × Machine :=
  match m.children[number]? with
  | none => (none, m)
  | some c =>
    (if c.seen then c.status else none,
      { m with children := m.children.modify number fun c => { c with seen := true } })

/-! ### Programs and files as tasks -/

section
variable {W α : Type} (machine : Part W Machine)

def filesPart : Part Machine FileSystem := ⟨Machine.files, fun fs m => { m with files := fs }⟩

def storage : Storage W := Storage.ofFiles (machine.comp filesPart)

/-- one step of the machine -/
def step (f : Machine → α × Machine) : Task W α :=
  Task.atomic fun w =>
    let (result, m) := f (machine.get w)
    (result, machine.put m w)

/-- a step that is waited for -/
def call (f : Machine → α × Machine) : Task W α := do
  let result ← step machine f
  Task.yield
  return result

/-- Waits for a child to end, which it never does by itself. -/
def awaitChild (number : Nat) : Task W (Except IoError ExitStatus) := do
  let children ← Task.read fun w => (machine.get w).children
  match children[number]?.bind (·.status) with
  | some status =>
    Task.yield
    return .ok status
  | none => Task.forever (.error .notFound)

/-- the programs of a machine that is a part of the world -/
def programs : Programs Nat W where
  run invocation := call machine (runProgram invocation)
  spawn invocation log := step machine (startChild invocation log)
  poll child := do return .ok (← step machine (look child))
  await child := awaitChild machine child
  kill child := do
    call machine fun m => ((), m.endChild child (.signalled 9))
    return .ok ()
  clock := Task.read fun w => (machine.get w).clock
  sleep nanos := do
    Task.sleep nanos
    step machine fun m => ((), { m with clock := m.clock + nanos })
  portFree port := Task.read fun w => !(machine.get w).listening.contains port

end

end Machine

end ShardCluster
