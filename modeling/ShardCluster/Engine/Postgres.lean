import ShardCluster.Engine.Basic
import ShardCluster.Engine.Programs
import ShardCluster.Environment
import ShardCluster.Files.Storage
import ShardCluster.Text.Blank
import ShardCluster.Text.Lines

/-!
# The PostgreSQL engine

An engine of real servers, which it works with through the programs of a PostgreSQL installation:
`initdb`, `postgres`, `pg_isready`, `pg_ctl` and `psql`.
-/

namespace ShardCluster.Postgres

/-- where the programs are and how to work with them -/
structure Config where
  /-- the directory of the programs; they are searched for if there is none -/
  binDirectory : Option Path := none
  /-- where servers are reached -/
  host : String := "127.0.0.1"
  /-- pause between two looks at a starting server -/
  pollInterval : Duration := .ofMillis 100
  /-- time a server may take to stop before it is killed -/
  stopTimeout : Duration := .ofSeconds 30

/-- the defaults, with the directory of the programs from the environment -/
def Config.ofEnvironment (env : Environment) : Config :=
  { binDirectory := (env.raw? "PG_BIN").map (⟨·⟩) }

/-- a running server: the child and its data directory -/
structure Process (C : Type) where
  child : C
  dataDirectory : Path

/-- lines of the server's log in the report of a crash -/
def tailLines : Nat := 20

/-! ### Command lines -/

namespace Config

/-- a program of the installation -/
def program (c : Config) (name : String) : Path :=
  match c.binDirectory with
  | some directory => directory.child name
  | none => .ofString name

def invoke (c : Config) (name : String) (arguments : List Bytes) : Invocation :=
  ⟨c.program name, arguments⟩

def initdb (c : Config) (directory : Path) : Invocation :=
  c.invoke "initdb"
    [Utf8.encode "-D", directory.bytes, Utf8.encode "-N", Utf8.encode "--auth=trust"]

/-- Connections go over TCP alone. -/
def postgres (c : Config) (launch : Launch) : Invocation :=
  c.invoke "postgres"
    [Utf8.encode "-D", launch.dataDirectory.bytes, Utf8.encode "-p",
      Utf8.encode (toString launch.port.toNat), Utf8.encode "-k", []]

def isReady (c : Config) (port : UInt16) : Invocation :=
  c.invoke "pg_isready" (["-q", "-h", c.host, "-p", toString port.toNat].map Utf8.encode)

/-- whole seconds, but at least one -/
def stopSeconds (c : Config) : Nat := max c.stopTimeout.seconds.toNat 1

def stop (c : Config) (directory : Path) : Invocation :=
  c.invoke "pg_ctl"
    (Utf8.encode "-D" :: directory.bytes
      :: ["-m", "fast", "-w", "-t", toString c.stopSeconds, "stop"].map Utf8.encode)

def psql (c : Config) (port : UInt16) (database statement : String) : Invocation :=
  c.invoke "psql"
    (["-X", "-A", "-t", "-q", "-v", "ON_ERROR_STOP=1", "-h", c.host, "-p",
      toString port.toNat, "-d", database, "-c", statement].map Utf8.encode)

end Config

/-! ### Starting -/

/-- seconds a clock can hold -/
def clockLimit : Nat := UInt64.size / 2

/-- The end of a time span, if the clock can hold it. -/
def deadline? (now : Nat) (span : Duration) : Option Nat :=
  let sum := now + span.totalNanos
  if sum / 1000000000 < clockLimit then some sum else none

/-- The last lines of a log, or why there is none to show. -/
def logTail : Except IoError Bytes → String
  | .ok content =>
    match Utf8.strict content with
    | some text => Text.lastLines tailLines text
    | none => "<log unavailable: " ++ IoError.notText.message ++ ">"
  | .error e => "<log unavailable: " ++ e.message ++ ">"

/-- the trimmed text of a program's output -/
def shown (output : Bytes) : String := Text.trim (Utf8.lossy output)

section
variable {C W : Type} (config : Config) (programs : Programs C W) (storage : Storage W)

/-- Populates a data directory. -/
def init (directory : Path) : ExceptT EngineError (Task W) Unit := do
  match ← (programs.run (config.initdb directory) : Task W (Except IoError Output)) with
  | .error e => throw (.init ("cannot run initdb: " ++ e.message))
  | .ok output => if output.status.isSuccess then return () else throw (.init (shown output.err))

/-- whether a server accepts connections -/
def probe (port : UInt16) : Task W Bool := do
  match ← programs.run (config.isReady port) with
  | .ok output => return output.status.isSuccess
  | .error _ => return false

/-- the report of a server that ended -/
def crashReport (launch : Launch) (status : ExitStatus) : Task W EngineError := do
  return .crash status.text (logTail (← storage.contentOf launch.logFile))

/-- Kills a server that did not get ready in time. -/
def giveUp (launch : Launch) (child : C) : Task W (Except EngineError (Process C)) := do
  let _ ← programs.kill child
  return .error (.startTimeout launch.timeout)

/-- Looks at a starting server until it has ended, accepts connections or is out of time; there are
at most `rounds` looks, which is no limit as long as the clock goes on between them. -/
def awaitReady (launch : Launch) (child : C) (deadline : Nat) :
    Nat → Task W (Except EngineError (Process C))
  | 0 => giveUp programs launch child
  | rounds + 1 => do
    match ← programs.poll child with
    | .error e => return .error (.io e)
    | .ok (some status) => return .error (← crashReport storage launch status)
    | .ok none =>
      if ← probe config programs launch.port then return .ok ⟨child, launch.dataDirectory⟩
      else if (← programs.clock) ≥ deadline then giveUp programs launch child
      else do
        programs.sleep config.pollInterval.totalNanos
        awaitReady launch child deadline rounds

/-- looks until a deadline, if each takes at least the poll interval -/
def roundsFor (timeout : Duration) : Nat :=
  timeout.totalNanos / max config.pollInterval.totalNanos 1 + 2

/-- Launches a server and waits until it accepts connections. A deadline beyond what the clock can
hold ends everything right here. -/
def start (launch : Launch) : Task W (Except EngineError (Process C)) := do
  match ← storage.ensureFile launch.logFile with
  | .error e => return .error (.io e)
  | .ok () =>
    match ← programs.spawn (config.postgres launch) launch.logFile with
    | .error e => return .error (.crash "not spawned" e.message)
    | .ok child =>
      match deadline? (← programs.clock) launch.timeout with
      | none => Task.forever (.error (.startTimeout launch.timeout))
      | some deadline =>
        awaitReady config programs storage launch child deadline (roundsFor config launch.timeout)

/-! ### Stopping and statements -/

/-- Stops a server with `pg_ctl`, or kills it if that fails. -/
def stop (process : Process C) : Task W (Except EngineError Unit) := do
  match ← programs.poll process.child with
  | .error e => return .error (.io e)
  | .ok (some _) => return .ok ()
  | .ok none =>
    match ← programs.run (config.stop process.dataDirectory) with
    | .error e => return .error (.io e)
    | .ok output =>
      if output.status.isSuccess then
        match ← programs.await process.child with
        | .ok _ => return .ok ()
        | .error e => return .error (.io e)
      else
        match ← programs.kill process.child with
        | .ok () => return .ok ()
        | .error e => return .error (.stop e.message)

/-- Runs a statement with `psql`. -/
def execute (port : UInt16) (database statement : String) : Task W (Except EngineError String) := do
  match ← programs.run (config.psql port database statement) with
  | .error e => return .error (.io e)
  | .ok output =>
    if output.status.isSuccess then return .ok (shown output.out)
    else return .error (.query (shown output.err))

/-- the engine of a PostgreSQL installation -/
def engine : Engine (Process C) W where
  init directory := (init config programs directory).run
  start := start config programs storage
  stop := stop config programs
  execute := execute config programs
  portAvailable := programs.portFree

end

end ShardCluster.Postgres
