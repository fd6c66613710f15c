import ShardCluster.Engine.Basic
import ShardCluster.Files.Storage
import ShardCluster.Text.Lower

/-!
# The simulated engine

An engine without servers. It populates data directories, keeps track of the ports that count as
listening, records every statement and fails where it has been told to.
-/

namespace ShardCluster

/-- a statement that reached a running server -/
structure Executed where
  port : UInt16
  database : String
  statement : String
  deriving DecidableEq

/-- the state of the simulated engine -/
structure Simulated where
  /-- ports with a running server, in ascending order -/
  running : List UInt16 := []
  /-- ports something else listens on -/
  occupied : List UInt16 := []
  /-- every statement so far, in order -/
  statements : List Executed := []
  /-- lower case needles and the message a statement with one of them fails with -/
  failing : List (String × String) := []
  crashing : List UInt16 := []
  stalling : List UInt16 := []
  /-- ports whose server refuses its next stop -/
  refusingStop : List UInt16 := []

namespace Simulated

/-- a simulated server -/
structure Process where
  port : UInt16
  deriving DecidableEq

/-- a port put in its place among ascending ports -/
def insertPort (port : UInt16) : List UInt16 → List UInt16
  | [] => [port]
  | p :: rest =>
    if port < p then port :: p :: rest
    else if port = p then p :: rest
    else p :: insertPort port rest

def isFree (s : Simulated) (port : UInt16) : Bool :=
  !s.running.contains port && !s.occupied.contains port

/-- the statements the server on a port has been given -/
def statementsOn (s : Simulated) (port : UInt16) : List String :=
  (s.statements.filter (·.port == port)).map (·.statement)

/-! ### Faults -/

/-- makes every statement that contains `needle`, in any case, fail with `message` -/
def failStatements (needle message : String) (s : Simulated) : Simulated :=
  { s with failing := s.failing ++ [(Text.lower needle, message)] }

/-- makes servers on a port exit during startup -/
def crashOn (port : UInt16) (s : Simulated) : Simulated :=
  { s with crashing := port :: s.crashing }

/-- makes servers on a port never accept connections -/
def stallOn (port : UInt16) (s : Simulated) : Simulated :=
  { s with stalling := port :: s.stalling }

/-- makes the server on a port refuse its next stop -/
def refuseStop (port : UInt16) (s : Simulated) : Simulated :=
  { s with refusingStop := insertPort port s.refusingStop }

/-- puts a foreign listener on a port -/
def occupy (port : UInt16) (s : Simulated) : Simulated :=
  { s with occupied := port :: s.occupied }

/-! ### Servers -/

/-- how an attempt to launch a server goes -/
inductive LaunchOutcome where
  | started
  | stalled
  | failed (error : EngineError)

/-- the report of a server that ended at once -/
def startupCrash (logTail : String) : EngineError := .crash "exit status: 1" logTail

/-- Tries to put a server on a port. -/
def launch (port : UInt16) (s : Simulated) : LaunchOutcome × Simulated :=
  if s.crashing.contains port then
    (.failed (startupCrash "FATAL: simulated startup crash"), s)
  else if !s.isFree port then
    (.failed (startupCrash ("FATAL: could not bind IPv4 address \"127.0.0.1\": port "
      ++ toString port.toNat ++ " in use")), s)
  else if s.stalling.contains port then (.stalled, s)
  else (.started, { s with running := insertPort port s.running })

/-- Takes the server off a port, unless a refusal is due. -/
def shutDown (port : UInt16) (s : Simulated) : Except EngineError Unit × Simulated :=
  if s.refusingStop.contains port then
    (.error (.stop ("simulated stop failure on port " ++ toString port.toNat)),
      { s with refusingStop := s.refusingStop.filter (· != port) })
  else (.ok (), { s with running := s.running.filter (· != port) })

/-- Gives a statement to the server on a port. -/
def runStatement (port : UInt16) (database statement : String) (s : Simulated) :
    Except EngineError String × Simulated :=
  if !s.running.contains port then
    (.error (.query ("could not connect to server on port " ++ toString port.toNat
      ++ ": Connection refused")), s)
  else
    let lowered := Text.lower statement
    let answer := match s.failing.find? fun (needle, _) => Text.contains lowered needle with
      | some (_, message) => .error (.query message)
      | none => .ok ""
    (answer, { s with statements := s.statements ++ [⟨port, database, statement⟩] })

/-! ### The engine -/

/-- the file that marks a populated data directory -/
def versionFile (directory : Path) : Path := directory.child "PG_VERSION"

section
variable {W : Type} (state : Part W Simulated) (storage : Storage W)

/-- one step of the engine's state -/
def step {α : Type} (f : Simulated → α × Simulated) : Task W α :=
  Task.atomic fun w =>
    let (result, s) := f (state.get w)
    (result, state.put s w)

/-- a storage task as one of the engine's own -/
def stored {α : Type} (task : Task W (Except IoError α)) : ExceptT EngineError (Task W) α := do
  match ← (task : Task W (Except IoError α)) with
  | .ok a => return a
  | .error cause => throw (.io cause)

/-- Populates a directory that no cluster is in yet. -/
def populate (directory : Path) : ExceptT EngineError (Task W) Unit := do
  if ← stored (storage.pathExists (versionFile directory)) then
    throw (.init ("directory " ++ directory.display ++ " already holds a database cluster"))
  stored (storage.createDirectories directory)
  stored (storage.writeFile (versionFile directory) (Utf8.encode "simulated\n"))
  stored (storage.writeFile (directory.child "postgresql.conf")
    (Utf8.encode "# simulated engine defaults\n"))

/-- Puts a server on the port, which a stalling one never gets to. -/
def startServer (launch : Launch) : ExceptT EngineError (Task W) Process := do
  if !(← stored (storage.pathExists (versionFile launch.dataDirectory))) then
    throw (.crash "exit status: 2" ("FATAL: \"" ++ launch.dataDirectory.display
      ++ "\" is not a database cluster directory"))
  match ← (step state (Simulated.launch launch.port) : Task W LaunchOutcome) with
  | .started => return ⟨launch.port⟩
  | .failed e => throw e
  | .stalled =>
    (Task.sleep launch.timeout.totalNanos : Task W Unit)
    throw (.startTimeout launch.timeout)

/-- the simulated engine whose state is a part of the world -/
def engine : Engine Process W where
  init directory := (populate storage directory).run
  start launch := (startServer state storage launch).run
  stop process := step state (shutDown process.port)
  execute port database statement := step state (runStatement port database statement)
  portAvailable port := Task.read fun w => (state.get w).isFree port

end

end Simulated

end ShardCluster
